import ScientificResourceLab.Cas.Completion

/-!
# The integrity sweep

`run_fsck` reads the whole store: it indexes the descriptors by digest and the
receipts by id, re-hashes every object and checks it against both indexes, and
looks for descriptors without an object.  A report is `ok` when no sweep found
an issue.  The loops over the files of a directory are written as the
contribution of one file (`descriptorEntry`, `receiptEntry`, `objectIssues`)
and the collection of all contributions.

A record file that is not UTF-8, or that holds an integer beyond the digit
limit, is not reported: its exception leaves the sweep.
-/

namespace ScientificResourceLab.Cas

open Python Contracts Steps

/-- The `ISSUE_*` constants. -/
inductive IssueKind where
  | hashMismatch
  | missingDescriptor
  | orphanDescriptor
  | sizeDrift
  | badReceipt
  | malformedRecord
  deriving DecidableEq, Repr

/-- `FsckIssue`. -/
structure FsckIssue where
  kind : IssueKind
  digest : Text
  detail : Text
  deriving DecidableEq

/-- `CasFsckReport`. -/
structure CasFsckReport where
  objectsChecked : Nat
  objectsPassed : Nat
  descriptorsChecked : Nat
  receiptsChecked : Nat
  issues : List FsckIssue
  ok : Bool

/-- `_load_json_record`: a dict, or why the file holds none. -/
def loadJsonRecord (name : Text) (data : Bytes) :
    Except PyError (Except Text Members) :=
  match readJson data with
  | .ok (.obj members) => .ok (.ok members)
  | .ok _ => .ok (.error (name ++ text " is not a JSON object"))
  | .error error =>
      if error.kind = .jsonDecodeError then
        .ok (.error (name ++ text " is not valid JSON: " ++ error.message))
      else .error error

/-- What one file adds to an index: a record under its key, and issues. -/
abbrev Entry := Option (Text × Json) × List FsckIssue

/-- `str(parsed.get("digest", ""))`. -/
def digestText (members : Members) : Text :=
  match Json.lookup (text "digest") members with
  | some value => strJson value
  | none => []

/-- The text of a field that was validated as a string. -/
def stringAt (members : Members) (key : Text) : Text :=
  match valueAt members key with
  | .str value => value
  | _ => []

/-- An index entry that is only an issue. -/
def issueOnly (kind : IssueKind) (digest detail : Text) : Entry :=
  (none, [⟨kind, digest, detail⟩])

/-- The issue of a record that its validator refuses. -/
def refusedRecord (what name : Text) (parsed : Members)
    (error : PyError) : Entry :=
  issueOnly .malformedRecord (digestText parsed)
    (what ++ name ++ text " failed validation: " ++ error.message)

/-- One file in `_index_descriptors`. -/
def descriptorEntry (name : Text) (data : Bytes) : Except PyError Entry := do
  match ← loadJsonRecord name data with
  | .error reason =>
      pure (issueOnly .malformedRecord []
        (text "descriptor " ++ name ++ text ": " ++ reason))
  | .ok parsed =>
      match validateObjectDescriptor (.obj parsed) with
      | .error error =>
          if error.kind.isContractError then
            pure (refusedRecord (text "descriptor ") name parsed error)
          else throw error
      | .ok validated =>
          let digest := stringAt validated (text "digest")
          let issues :=
            if name ≠ recordFile digest then
              [⟨.malformedRecord, digest,
                text "descriptor filename " ++ quoted name ++
                  text " does not match its digest " ++ quoted digest⟩]
            else []
          pure (some (digest, .obj validated), issues)

/-- One file in `_index_receipts`. -/
def receiptEntry (name : Text) (data : Bytes) : Except PyError Entry := do
  match ← loadJsonRecord name data with
  | .error reason =>
      pure (issueOnly .malformedRecord []
        (text "receipt " ++ name ++ text ": " ++ reason))
  | .ok parsed =>
      match validateIngestReceipt (.obj parsed) with
      | .error error =>
          if error.kind.isContractError then
            pure (refusedRecord (text "receipt ") name parsed error)
          else throw error
      | .ok validated =>
          let receiptId := stringAt validated (text "receipt_id")
          match canonicalReceiptId validated with
          | .error error =>
              if error.kind.isContractError then
                pure (issueOnly .badReceipt (digestText validated)
                  (text "receipt " ++ name ++
                    text " id recomputation failed: " ++ error.message))
              else throw error
          | .ok recomputed =>
              let issues :=
                if recomputed ≠ receiptId then
                  [⟨.badReceipt, digestText validated,
                    text "receipt " ++ name ++ text " id " ++
                      quoted receiptId ++
                      text " does not match its content hash " ++
                      quoted recomputed⟩]
                else []
              pure (some (receiptId, .obj validated), issues)

/-- The record files of a directory in the order of their names. -/
def recordFiles (directory : Directory Text Bytes) :
    List (Text × Bytes) :=
  (sortedFiles directory).filter fun file =>
    (text ".json").isSuffixOf file.1

/-- The contributions of the record files of a directory. -/
def indexEntries (entry : Text → Bytes → Except PyError Entry)
    (directory : Directory Text Bytes) : Except PyError (List Entry) :=
  (recordFiles directory).mapM fun file => entry file.1 file.2

/-- The dict that an index loop builds. -/
def indexRecords (entries : List Entry) : Members :=
  Json.ofMembers (entries.filterMap Prod.fst)

/-- The issues that an index loop appends. -/
def indexIssues (entries : List Entry) : List FsckIssue :=
  entries.flatMap Prod.snd

/-- `_check_object_consistency`. -/
def checkObjectConsistency (digest : Text) (data : Bytes)
    (descriptorsByDigest receiptsById : Members) : List FsckIssue :=
  match Json.lookup digest descriptorsByDigest with
  | some (.obj descriptor) =>
      let declaredSize := valueAt descriptor (text "size_bytes")
      let sizeIssues : List FsckIssue :=
        if asInteger declaredSize ≠ some (data.length : Int) then
          [⟨.sizeDrift, digest,
            text "object " ++ quoted digest ++ text " size " ++
              intText data.length ++ text " != descriptor size_bytes " ++
              reprJson declaredSize⟩]
        else []
      let receiptIssues : List FsckIssue :=
        match valueAt descriptor (text "ingest_receipt_id") with
        | .str receiptId =>
            if receiptId ≠ [] ∧
                receiptId ∉ receiptsById.map Prod.fst then
              [⟨.badReceipt, digest,
                text "descriptor for " ++ quoted digest ++
                  text " references receipt " ++ quoted receiptId ++
                  text " which is absent"⟩]
            else []
        | _ => []
      sizeIssues ++ receiptIssues
  | _ =>
      [⟨.missingDescriptor, digest,
        text "object " ++ quoted digest ++
          text " has no descriptor record"⟩]

/-- The objects in the order of their shards and names. -/
def sortedObjects (objects : Directory (Text × Text) Bytes) :
    List ((Text × Text) × Bytes) :=
  (objects.entries.map fun entry => (entry.1, entry.2)).insertionSort
    fun left right => left.1.1 < right.1.1 ∨
      left.1.1 = right.1.1 ∧ left.1.2 ≤ right.1.2

/-- The bytes of an object hash to its name. -/
def objectPasses (name : Text) (data : Bytes) : Bool :=
  isObjectId name && (objectIdPrefix ++ sha256 data = name)

/-- One object in `_sweep_objects`. -/
def objectIssues (descriptorsByDigest receiptsById : Members)
    (name : Text) (data : Bytes) : List FsckIssue :=
  if isObjectId name then
    let actual := objectIdPrefix ++ sha256 data
    let hashIssues : List FsckIssue :=
      if actual = name then []
      else
        [⟨.hashMismatch, name,
          text "object " ++ quoted name ++ text " bytes hash to " ++
            quoted actual ++ text " (corruption)"⟩]
    hashIssues ++
      checkObjectConsistency name data descriptorsByDigest receiptsById
  else
    [⟨.malformedRecord, [],
      text "object path " ++ quoted name ++ text " is not a valid digest"⟩]

/-- The descriptors whose object is absent. -/
def orphanIssues (descriptorsByDigest : Members)
    (objectDigests : List Text) : List FsckIssue :=
  ((descriptorsByDigest.map Prod.fst).filter (· ∉ objectDigests)).map
    fun digest => ⟨.orphanDescriptor, digest,
      text "descriptor for " ++ quoted digest ++
        text " has no object in objects/"⟩

/-- `run_fsck`. -/
def runFsck (store : Store) : Except PyError CasFsckReport := do
  let descriptorEntries ← indexEntries descriptorEntry store.descriptors
  let receiptEntries ← indexEntries receiptEntry store.receipts
  let descriptorsByDigest := indexRecords descriptorEntries
  let receiptsById := indexRecords receiptEntries
  let objects := sortedObjects store.objects
  let issues := indexIssues descriptorEntries ++
    indexIssues receiptEntries ++
    (objects.flatMap fun object =>
      objectIssues descriptorsByDigest receiptsById object.1.2 object.2) ++
    orphanIssues descriptorsByDigest
      (objects.map fun object => object.1.2)
  pure
    { objectsChecked := objects.length
      objectsPassed :=
        (objects.filter fun object =>
          objectPasses object.1.2 object.2).length
      descriptorsChecked := descriptorEntries.length
      receiptsChecked := receiptEntries.length
      issues := issues
      ok := issues.length = 0 }

/-! ## Entries without an issue -/

/-- A file that is read as a record. -/
def IsRecordFile (directory : Directory Text Bytes) (name : Text)
    (data : Bytes) : Prop :=
  directory.lookup name = some data ∧
    (text ".json").isSuffixOf name = true

theorem mem_recordFiles
    {directory : Directory Text Bytes} {name : Text} {data : Bytes} :
    (name, data) ∈ recordFiles directory ↔
      IsRecordFile directory name data := by
  rw [recordFiles, List.mem_filter, sortedFiles, List.mem_insertionSort,
    Directory.mem_files, IsRecordFile]

theorem isSuffixOf_recordFile (id : Text) :
    (text ".json").isSuffixOf (recordFile id) = true :=
  List.isSuffixOf_iff_suffix.mpr (List.suffix_append _ _)

theorem loadJsonRecord_eq_ok
    {name : Text} {data : Bytes} {members : Members} :
    loadJsonRecord name data = .ok (.ok members) ↔
      readJson data = .ok (.obj members) := by
  rw [loadJsonRecord]
  split
  · next stored reads => simp [reads]
  · next value notObject reads =>
      simp only [reads, Except.ok.injEq, reduceCtorEq, false_iff]
      rintro rfl
      exact notObject members rfl
  · next error reads =>
      rw [reads]
      split_ifs <;> simp

/-- A descriptor file without an issue. -/
def DescriptorEntry (name : Text) (data : Bytes) (digest : Text)
    (descriptor : Members) : Prop :=
  readDescriptor data = .ok descriptor ∧
    valueAt descriptor (text "digest") = .str digest ∧
    name = recordFile digest

/-- A receipt file without an issue. -/
def ReceiptEntry (data : Bytes) (receiptId : Text) (receipt : Members) :
    Prop :=
  readReceipt data = .ok receipt ∧
    valueAt receipt (text "receipt_id") = .str receiptId ∧
    canonicalReceiptId receipt = .ok receiptId

theorem readDescriptor_eq_ok
    {data : Bytes} {descriptor : Members} :
    readDescriptor data = .ok descriptor ↔
      readJson data = .ok (.obj descriptor) ∧
        validateObjectDescriptor (.obj descriptor) = .ok descriptor := by
  rw [readDescriptor, bind_eq_ok_iff]
  constructor
  · rintro ⟨value, reads, accepted⟩
    obtain ⟨rfl, -⟩ := validateObjectDescriptor_eq_ok accepted
    exact ⟨reads, accepted⟩
  · rintro ⟨reads, accepted⟩
    exact ⟨_, reads, accepted⟩

theorem readReceipt_eq_ok
    {data : Bytes} {receipt : Members} :
    readReceipt data = .ok receipt ↔
      readJson data = .ok (.obj receipt) ∧
        validateIngestReceipt (.obj receipt) = .ok receipt := by
  rw [readReceipt, bind_eq_ok_iff]
  constructor
  · rintro ⟨value, reads, accepted⟩
    obtain ⟨rfl, -⟩ := validateIngestReceipt_eq_ok accepted
    exact ⟨reads, accepted⟩
  · rintro ⟨reads, accepted⟩
    exact ⟨_, reads, accepted⟩

theorem descriptorEntry_clean
    {name : Text} {data : Bytes} {record : Option (Text × Json)}
    (entered : descriptorEntry name data = .ok (record, [])) :
    ∃ digest descriptor, record = some (digest, .obj descriptor) ∧
      DescriptorEntry name data digest descriptor := by
  simp only [descriptorEntry, bind_eq_ok_iff] at entered
  obtain ⟨loaded, isLoaded, entered⟩ := entered
  cases loaded with
  | error reason => cases entered
  | ok parsed =>
      rw [loadJsonRecord_eq_ok] at isLoaded
      simp only at entered
      cases checked : validateObjectDescriptor (.obj parsed) with
      | error error =>
          simp only [checked] at entered
          split_ifs at entered
          cases entered
      | ok validated =>
          obtain ⟨⟨rfl⟩, ⟨digest, isDigest, -⟩, -⟩ :=
            validateObjectDescriptor_eq_ok checked
          simp only [checked, stringAt, isDigest, pure_eq_ok_iff,
            Prod.mk.injEq] at entered
          obtain ⟨rfl, unnamed⟩ := entered
          split_ifs at unnamed with same
          · exact ⟨digest, parsed, rfl,
              readDescriptor_eq_ok.mpr ⟨isLoaded, checked⟩, isDigest,
              not_not.mp same⟩

theorem descriptorEntry_eq_ok
    {name : Text} {data : Bytes} {digest : Text} {descriptor : Members}
    (isEntry : DescriptorEntry name data digest descriptor) :
    descriptorEntry name data =
      .ok (some (digest, .obj descriptor), []) := by
  obtain ⟨reads, isDigest, isName⟩ := isEntry
  obtain ⟨isJson, accepted⟩ := readDescriptor_eq_ok.mp reads
  simp only [descriptorEntry, bind_eq_ok_iff]
  refine ⟨.ok descriptor, loadJsonRecord_eq_ok.mpr isJson, ?_⟩
  simp only [accepted, stringAt, isDigest]
  rw [if_neg (not_not.mpr isName)]
  rfl

theorem receiptEntry_clean
    {name : Text} {data : Bytes} {record : Option (Text × Json)}
    (entered : receiptEntry name data = .ok (record, [])) :
    ∃ receiptId receipt, record = some (receiptId, .obj receipt) ∧
      ReceiptEntry data receiptId receipt := by
  simp only [receiptEntry, bind_eq_ok_iff] at entered
  obtain ⟨loaded, isLoaded, entered⟩ := entered
  cases loaded with
  | error reason => cases entered
  | ok parsed =>
      rw [loadJsonRecord_eq_ok] at isLoaded
      simp only at entered
      cases checked : validateIngestReceipt (.obj parsed) with
      | error error =>
          simp only [checked] at entered
          split_ifs at entered
          cases entered
      | ok validated =>
          obtain ⟨⟨rfl⟩, ⟨receiptId, isReceipt, -⟩, -⟩ :=
            validateIngestReceipt_eq_ok checked
          simp only [checked, stringAt, isReceipt] at entered
          cases computed : canonicalReceiptId parsed with
          | error error =>
              simp only [computed] at entered
              split_ifs at entered
              cases entered
          | ok recomputed =>
              simp only [computed, pure_eq_ok_iff, Prod.mk.injEq]
                at entered
              obtain ⟨rfl, unnamed⟩ := entered
              split_ifs at unnamed with same
              · rw [not_not.mp same] at computed
                exact ⟨receiptId, parsed, rfl,
                  readReceipt_eq_ok.mpr ⟨isLoaded, checked⟩, isReceipt,
                  computed⟩

theorem receiptEntry_eq_ok
    {name : Text} {data : Bytes} {receiptId : Text} {receipt : Members}
    (isEntry : ReceiptEntry data receiptId receipt) :
    receiptEntry name data = .ok (some (receiptId, .obj receipt), []) := by
  obtain ⟨reads, isReceipt, computed⟩ := isEntry
  obtain ⟨isJson, accepted⟩ := readReceipt_eq_ok.mp reads
  simp only [receiptEntry, bind_eq_ok_iff]
  refine ⟨.ok receipt, loadJsonRecord_eq_ok.mpr isJson, ?_⟩
  simp only [accepted, stringAt, isReceipt, computed]
  rw [if_neg (not_not.mpr rfl)]
  rfl

/-! ## Indexes without an issue -/

section

variable {entry : Text → Bytes → Except PyError Entry}
variable {directory : Directory Text Bytes} {entries : List Entry}

theorem indexEntries_clean
    (recorded : ∀ name data record, entry name data = .ok (record, []) →
      record ≠ none)
    (indexed : indexEntries entry directory = .ok entries)
    (clean : indexIssues entries = []) :
    (∀ name data, IsRecordFile directory name data →
      ∃ record, entry name data = .ok (some record, [])) ∧
    ∀ record, record ∈ entries.filterMap Prod.fst ↔
      ∃ name data, IsRecordFile directory name data ∧
        entry name data = .ok (some record, []) := by
  obtain ⟨forward, backward⟩ := mapM_eq_ok indexed
  have quiet : ∀ added ∈ entries, added.2 = [] :=
    List.flatMap_eq_nil_iff.mp clean
  constructor
  · intro name data isFile
    obtain ⟨⟨record, issues⟩, isEntry, ran⟩ :=
      forward (name, data) (mem_recordFiles.mpr isFile)
    have none_ : issues = [] := quiet _ isEntry
    subst none_
    obtain ⟨stored, rfl⟩ :=
      Option.ne_none_iff_exists'.mp (recorded _ _ _ ran)
    exact ⟨stored, ran⟩
  · intro record
    rw [List.mem_filterMap]
    constructor
    · rintro ⟨⟨stored, issues⟩, isEntry, rfl⟩
      have none_ : issues = [] := quiet _ isEntry
      subst none_
      obtain ⟨⟨name, data⟩, isFile, ran⟩ := backward _ isEntry
      exact ⟨name, data, mem_recordFiles.mp isFile, ran⟩
    · rintro ⟨name, data, isFile, ran⟩
      obtain ⟨added, isEntry, ranAgain⟩ :=
        forward (name, data) (mem_recordFiles.mpr isFile)
      have same : added = (some record, []) :=
        Except.ok.inj (ranAgain.symm.trans ran)
      exact ⟨added, isEntry, by rw [same]⟩

/-- Files that all have a record make an index without an issue. -/
theorem indexEntries_of_files
    (each : ∀ name data, IsRecordFile directory name data →
      ∃ record, entry name data = .ok (some record, [])) :
    ∃ entries, indexEntries entry directory = .ok entries ∧
      indexIssues entries = [] := by
  have returns : ∀ file ∈ recordFiles directory,
      ∃ added, entry file.1 file.2 = .ok added := by
    intro file isFile
    obtain ⟨record, ran⟩ := each file.1 file.2 (mem_recordFiles.mp isFile)
    exact ⟨_, ran⟩
  obtain ⟨entries, indexed⟩ := mapM_ok_of_forall returns
  refine ⟨entries, indexed, List.flatMap_eq_nil_iff.mpr ?_⟩
  intro added isEntry
  obtain ⟨⟨name, data⟩, isFile, ran⟩ := (mapM_eq_ok indexed).2 added isEntry
  obtain ⟨record, ranClean⟩ := each name data (mem_recordFiles.mp isFile)
  have same : added = (some record, []) :=
    Except.ok.inj (ran.symm.trans ranClean)
  rw [same]

end

/-! ## Objects without an issue -/

theorem checkObjectConsistency_eq_nil
    {digest : Text} {data : Bytes}
    {descriptorsByDigest receiptsById : Members} :
    checkObjectConsistency digest data descriptorsByDigest receiptsById =
        [] ↔
      ∃ descriptor,
        Json.lookup digest descriptorsByDigest = some (.obj descriptor) ∧
        asInteger (valueAt descriptor (text "size_bytes")) =
          some (data.length : Int) ∧
        ∀ receiptId,
          valueAt descriptor (text "ingest_receipt_id") =
            .str receiptId →
          receiptId ≠ [] → receiptId ∈ receiptsById.map Prod.fst := by
  rw [checkObjectConsistency]
  split
  · next descriptor found =>
      simp only [found, Option.some.injEq, Json.obj.injEq,
        exists_eq_left', List.append_eq_nil_iff]
      refine and_congr ?_ ?_
      · split_ifs with differs
        · simp [differs]
        · simpa using differs
      · split
        · next receiptId isId =>
            simp only [isId, Json.str.injEq, forall_eq']
            split_ifs with absent
            · simp [absent]
            · simpa using absent
        · next other notText =>
            simp only [true_iff]
            intro receiptId isId
            exact absurd isId (notText receiptId)
  · next missing =>
      simp only [List.cons_ne_self, false_iff, not_exists, not_and]
      intro descriptor found
      exact absurd found (missing descriptor)

theorem objectIssues_eq_nil
    {name : Text} {data : Bytes}
    {descriptorsByDigest receiptsById : Members} :
    objectIssues descriptorsByDigest receiptsById name data = [] ↔
      name = digestOf (sha256 data) ∧
        checkObjectConsistency name data descriptorsByDigest
          receiptsById = [] := by
  rw [objectIssues]
  by_cases shaped : isObjectId name = true
  · rw [if_pos shaped]
    simp only [List.append_eq_nil_iff]
    refine and_congr ?_ Iff.rfl
    split_ifs with same
    · exact ⟨fun _ => same.symm, fun _ => rfl⟩
    · constructor
      · intro empty
        cases empty
      · intro isHash
        exact absurd isHash.symm same
  · rw [if_neg shaped]
    constructor
    · intro empty
      cases empty
    · rintro ⟨rfl, -⟩
      exact absurd (isObjectId_digestOf_sha256 data) shaped

theorem orphanIssues_eq_nil
    {descriptorsByDigest : Members} {objectDigests : List Text} :
    orphanIssues descriptorsByDigest objectDigests = [] ↔
      ∀ digest ∈ descriptorsByDigest.map Prod.fst,
        digest ∈ objectDigests := by
  rw [orphanIssues, List.map_eq_nil_iff, List.filter_eq_nil_iff]
  simp

theorem mem_sortedObjects
    {objects : Directory (Text × Text) Bytes} {path : Text × Text}
    {data : Bytes} :
    (path, data) ∈ sortedObjects objects ↔
      objects.lookup path = some data := by
  rw [sortedObjects, List.mem_insertionSort, Directory.mem_files]

/-! ## Reports without an issue -/

/-- What a report without an issue says about a store. -/
structure Clean (store : Store) : Prop where
  descriptors : ∀ name data, IsRecordFile store.descriptors name data →
    ∃ digest descriptor, DescriptorEntry name data digest descriptor ∧
      ∃ shard, (shard, digest) ∈ store.objects
  receipts : ∀ name data, IsRecordFile store.receipts name data →
    ∃ receiptId receipt, ReceiptEntry data receiptId receipt
  objects : ∀ path data, store.objects.lookup path = some data →
    path.2 = digestOf (sha256 data) ∧
    ∃ file descriptor,
      store.descriptors.lookup (recordFile path.2) = some file ∧
      readDescriptor file = .ok descriptor ∧
      valueAt descriptor (text "digest") = .str path.2 ∧
      valueAt descriptor (text "size_bytes") = .int data.length ∧
      ∀ receiptId,
        valueAt descriptor (text "ingest_receipt_id") = .str receiptId →
        ∃ name receiptData receipt,
          IsRecordFile store.receipts name receiptData ∧
          ReceiptEntry receiptData receiptId receipt

theorem descriptorEntry_recorded
    (name : Text) (data : Bytes) (record : Option (Text × Json))
    (entered : descriptorEntry name data = .ok (record, [])) :
    record ≠ none := by
  obtain ⟨_, _, rfl, -⟩ := descriptorEntry_clean entered
  simp

theorem receiptEntry_recorded
    (name : Text) (data : Bytes) (record : Option (Text × Json))
    (entered : receiptEntry name data = .ok (record, [])) :
    record ≠ none := by
  obtain ⟨_, _, rfl, -⟩ := receiptEntry_clean entered
  simp

theorem indexEntries_descriptors
    {directory : Directory Text Bytes}
    (each : ∀ name data, IsRecordFile directory name data →
      ∃ digest descriptor, DescriptorEntry name data digest descriptor) :
    ∃ entries, indexEntries descriptorEntry directory = .ok entries ∧
      indexIssues entries = [] := by
  refine indexEntries_of_files fun name data isFile => ?_
  obtain ⟨_, _, isEntry⟩ := each name data isFile
  exact ⟨_, descriptorEntry_eq_ok isEntry⟩

theorem indexEntries_receipts
    {directory : Directory Text Bytes}
    (each : ∀ name data, IsRecordFile directory name data →
      ∃ receiptId receipt, ReceiptEntry data receiptId receipt) :
    ∃ entries, indexEntries receiptEntry directory = .ok entries ∧
      indexIssues entries = [] := by
  refine indexEntries_of_files fun name data isFile => ?_
  obtain ⟨_, _, isEntry⟩ := each name data isFile
  exact ⟨_, receiptEntry_eq_ok isEntry⟩

/-- The parts of a report without an issue. -/
theorem runFsck_ok_iff {store : Store} :
    (∃ report, runFsck store = .ok report ∧ report.ok = true) ↔
      ∃ descriptorEntries receiptEntries,
        indexEntries descriptorEntry store.descriptors =
          .ok descriptorEntries ∧
        indexEntries receiptEntry store.receipts = .ok receiptEntries ∧
        indexIssues descriptorEntries = [] ∧
        indexIssues receiptEntries = [] ∧
        (∀ path data, store.objects.lookup path = some data →
          objectIssues (indexRecords descriptorEntries)
            (indexRecords receiptEntries) path.2 data = []) ∧
        ∀ digest ∈ (indexRecords descriptorEntries).map Prod.fst,
          ∃ shard, (shard, digest) ∈ store.objects := by
  constructor
  · rintro ⟨report, ran, ok⟩
    simp only [runFsck, bind_eq_ok_iff, pure_eq_ok_iff] at ran
    obtain ⟨descriptorEntries, indexedDescriptors, receiptEntries,
      indexedReceipts, rfl⟩ := ran
    simp only [decide_eq_true_eq, List.length_eq_zero_iff,
      List.append_eq_nil_iff, List.flatMap_eq_nil_iff,
      orphanIssues_eq_nil, List.mem_map] at ok
    obtain ⟨⟨⟨quietDescriptors, quietReceipts⟩, quietObjects⟩,
      noOrphans⟩ := ok
    refine ⟨descriptorEntries, receiptEntries, indexedDescriptors,
      indexedReceipts, quietDescriptors, quietReceipts,
      fun path data found => ?_, fun digest isKey => ?_⟩
    · exact quietObjects (path, data) (mem_sortedObjects.mpr found)
    · obtain ⟨⟨⟨shard, name⟩, data⟩, isObject, rfl⟩ :=
        noOrphans digest (List.mem_map.mp isKey)
      exact ⟨shard,
        Directory.mem_of_lookup (mem_sortedObjects.mp isObject)⟩
  · rintro ⟨descriptorEntries, receiptEntries, indexedDescriptors,
      indexedReceipts, quietDescriptors, quietReceipts, quietObjects,
      noOrphans⟩
    simp only [runFsck, bind_eq_ok_iff, pure_eq_ok_iff]
    refine ⟨_, ⟨descriptorEntries, indexedDescriptors, receiptEntries,
      indexedReceipts, rfl⟩, ?_⟩
    simp only [decide_eq_true_eq, List.length_eq_zero_iff,
      List.append_eq_nil_iff, List.flatMap_eq_nil_iff,
      orphanIssues_eq_nil]
    refine ⟨⟨⟨quietDescriptors, quietReceipts⟩, ?_⟩, ?_⟩
    · rintro ⟨path, data⟩ isObject
      exact quietObjects path data (mem_sortedObjects.mp isObject)
    · intro digest isKey
      obtain ⟨shard, present⟩ := noOrphans digest isKey
      obtain ⟨data, found⟩ := Directory.mem_iff_lookup.mp present
      exact List.mem_map.mpr
        ⟨((shard, digest), data), mem_sortedObjects.mpr found, rfl⟩

/-- A report without an issue shows a clean store. -/
theorem clean_of_runFsck
    {store : Store} {report : CasFsckReport}
    (ran : runFsck store = .ok report) (ok : report.ok = true) :
    Clean store := by
  obtain ⟨descriptorEntries, receiptEntries, indexedDescriptors,
    indexedReceipts, quietDescriptors, quietReceipts, quietObjects,
    noOrphans⟩ := runFsck_ok_iff.mp ⟨report, ran, ok⟩
  obtain ⟨descriptorFiles, isDescriptor⟩ := indexEntries_clean
    descriptorEntry_recorded indexedDescriptors quietDescriptors
  obtain ⟨receiptFiles, isReceipt⟩ := indexEntries_clean
    receiptEntry_recorded indexedReceipts quietReceipts
  refine ⟨fun name data isFile => ?_, fun name data isFile => ?_,
    fun path data found => ?_⟩
  · obtain ⟨record, entered⟩ := descriptorFiles name data isFile
    obtain ⟨digest, descriptor, ⟨rfl⟩, isEntry⟩ :=
      descriptorEntry_clean entered
    refine ⟨digest, descriptor, isEntry, noOrphans digest ?_⟩
    exact mem_keys_ofMembers.mpr (List.mem_map_of_mem
      ((isDescriptor _).mpr ⟨name, data, isFile, entered⟩))
  · obtain ⟨record, entered⟩ := receiptFiles name data isFile
    obtain ⟨receiptId, receipt, -, isEntry⟩ := receiptEntry_clean entered
    exact ⟨receiptId, receipt, isEntry⟩
  · obtain ⟨isHash, consistent⟩ :=
      objectIssues_eq_nil.mp (quietObjects path data found)
    obtain ⟨descriptor, stored, sameSize, receipts⟩ :=
      checkObjectConsistency_eq_nil.mp consistent
    obtain ⟨name, file, isFile, entered⟩ :=
      (isDescriptor _).mp (mem_of_lookup_ofMembers stored)
    obtain ⟨digest, members, same, reads, isDigest, isName⟩ :=
      descriptorEntry_clean entered
    obtain ⟨⟨rfl, ⟨rfl⟩⟩⟩ := Option.some.inj same
    rw [isName] at isFile
    obtain ⟨-, accepted⟩ := readDescriptor_eq_ok.mp reads
    obtain ⟨-, -, ⟨sizeBytes, isSize⟩, ingestReceiptId, isId,
      shaped⟩ := validateObjectDescriptor_eq_ok accepted
    refine ⟨isHash, file, descriptor, isFile.1, reads, isDigest, ?_,
      fun receiptId isReceiptId => ?_⟩
    · rw [isSize, asInteger, Option.some.injEq] at sameSize
      rw [isSize, sameSize]
    · have nonempty : receiptId ≠ [] := by
        rintro rfl
        cases ingestReceiptId with
        | none =>
            rw [isId] at isReceiptId
            cases isReceiptId
        | some id =>
            rw [isId] at isReceiptId
            cases isReceiptId
            exact isObjectId_ne_nil (shaped [] rfl) rfl
      have isKey := receipts receiptId isReceiptId nonempty
      obtain ⟨⟨_, value⟩, isRecord, rfl⟩ :=
        List.mem_map.mp (mem_keys_ofMembers.mp isKey)
      obtain ⟨receiptName, receiptData, isReceiptFile, receiptEntered⟩ :=
        (isReceipt _).mp isRecord
      obtain ⟨_, receipt, sameReceipt, isEntry⟩ :=
        receiptEntry_clean receiptEntered
      obtain ⟨rfl, -⟩ := Prod.mk.inj (Option.some.inj sameReceipt)
      exact ⟨receiptName, receiptData, receipt, isReceiptFile, isEntry⟩

theorem runFsck_of_clean {store : Store} (clean : Clean store) :
    ∃ report, runFsck store = .ok report ∧ report.ok = true := by
  obtain ⟨descriptorEntries, indexedDescriptors, quietDescriptors⟩ :=
    indexEntries_descriptors fun name data isFile => by
      obtain ⟨digest, descriptor, isEntry, -⟩ :=
        clean.descriptors name data isFile
      exact ⟨digest, descriptor, isEntry⟩
  obtain ⟨receiptEntries, indexedReceipts, quietReceipts⟩ :=
    indexEntries_receipts clean.receipts
  obtain ⟨-, isDescriptor⟩ := indexEntries_clean
    descriptorEntry_recorded indexedDescriptors quietDescriptors
  obtain ⟨-, isReceipt⟩ := indexEntries_clean
    receiptEntry_recorded indexedReceipts quietReceipts
  refine runFsck_ok_iff.mpr ⟨descriptorEntries, receiptEntries,
    indexedDescriptors, indexedReceipts, quietDescriptors, quietReceipts,
    fun path data found => ?_, fun digest isKey => ?_⟩
  · obtain ⟨isHash, file, descriptor, isFile, reads, isDigest, isSize,
      receipts⟩ := clean.objects path data found
    refine objectIssues_eq_nil.mpr ⟨isHash,
      checkObjectConsistency_eq_nil.mpr ⟨descriptor, ?_, ?_,
        fun receiptId isId _ => ?_⟩⟩
    · have entered : descriptorEntry (recordFile path.2) file =
          .ok (some (path.2, .obj descriptor), []) :=
        descriptorEntry_eq_ok ⟨reads, isDigest, rfl⟩
      have listed := (isDescriptor _).mpr ⟨recordFile path.2, file,
        ⟨isFile, isSuffixOf_recordFile _⟩, entered⟩
      obtain ⟨value, stored⟩ := lookup_of_mem_keys
        (mem_keys_ofMembers.mpr (List.mem_map_of_mem listed))
      obtain ⟨name, other, isOther, otherEntered⟩ :=
        (isDescriptor _).mp (mem_of_lookup_ofMembers stored)
      obtain ⟨digest, members, same, -, -, isName⟩ :=
        descriptorEntry_clean otherEntered
      obtain ⟨rfl, rfl⟩ := Prod.mk.inj (Option.some.inj same)
      subst isName
      have sameFile : other = file :=
        Option.some.inj (isOther.1.symm.trans isFile)
      subst sameFile
      have sameRecord := Except.ok.inj (otherEntered.symm.trans entered)
      simp only [Prod.mk.injEq, Option.some.injEq, Json.obj.injEq,
        true_and, and_true] at sameRecord
      rw [indexRecords, stored, sameRecord]
    · rw [isSize, asInteger]
    · obtain ⟨name, receiptData, receipt, isReceiptFile, isEntry⟩ :=
        receipts receiptId isId
      exact mem_keys_ofMembers.mpr (List.mem_map_of_mem
        ((isReceipt (receiptId, .obj receipt)).mpr ⟨name, receiptData,
          isReceiptFile, receiptEntry_eq_ok isEntry⟩))
  · obtain ⟨⟨_, value⟩, isRecord, rfl⟩ :=
      List.mem_map.mp (mem_keys_ofMembers.mp isKey)
    obtain ⟨name, data, isFile, entered⟩ := (isDescriptor _).mp isRecord
    obtain ⟨digest, descriptor, same, isEntry⟩ :=
      descriptorEntry_clean entered
    obtain ⟨rfl, -⟩ := Prod.mk.inj (Option.some.inj same)
    obtain ⟨found, members, ⟨reads, isDigest, -⟩, shard, present⟩ :=
      clean.descriptors name data isFile
    have sameRecord : members = descriptor :=
      Except.ok.inj (reads.symm.trans isEntry.1)
    subst sameRecord
    have sameDigest := Json.str.inj (isDigest.symm.trans isEntry.2.1)
    rw [← sameDigest]
    exact ⟨shard, present⟩

end ScientificResourceLab.Cas
