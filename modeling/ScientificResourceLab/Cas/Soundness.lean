import ScientificResourceLab.Cas.Fsck

/-!
# What a clean report guarantees

Three readings of `run_fsck`.  On a store that only `ingest` wrote, a report
without an issue says that no publication is half finished.  On an arbitrary
tree it says that descriptors and objects agree and that the receipts named by
descriptors exist.  It does not say where an object lies: the sweep knows an
object by its file name in any shard, while `get` computes the shard.
-/

namespace ScientificResourceLab.Cas

open Python Contracts Steps

/-! ## Stores written by the engine -/

/-- Every object has its descriptor and the receipt that this names. -/
def Full (store : Store) : Prop :=
  ∀ path ∈ store.objects, ∃ data sizeBytes receiptId,
    store.descriptors.lookup (recordFile path.2) = some data ∧
    Describes data path.2 sizeBytes (some receiptId) ∧
    recordFile receiptId ∈ store.receipts

theorem descriptorEntry_of_describes
    {data : Bytes} {digest : Text} {sizeBytes : Int}
    {ingestReceiptId : Option Text}
    (describes : Describes data digest sizeBytes ingestReceiptId) :
    ∃ descriptor,
      DescriptorEntry (recordFile digest) data digest descriptor := by
  obtain ⟨descriptor, reads, isDigest, -⟩ := describes
  exact ⟨descriptor, reads, isDigest, rfl⟩

theorem receiptEntry_of_attests
    {data : Bytes} {receiptId digest : Text} {sizeBytes : Int}
    (attests : Attests data receiptId digest sizeBytes) :
    ∃ receipt, ReceiptEntry data receiptId receipt := by
  obtain ⟨receipt, reads, isReceipt, -, -, computed⟩ := attests
  exact ⟨receipt, reads, isReceipt, computed⟩

/-- The records of a store that the engine wrote have no issue. -/
theorem Recorded.files
    {store : Store} (recorded : Recorded store) :
    (∀ name data, IsRecordFile store.descriptors name data →
      ∃ digest descriptor, DescriptorEntry name data digest descriptor ∧
        ∃ shard, (shard, digest) ∈ store.objects) ∧
    ∀ name data, IsRecordFile store.receipts name data →
      ∃ receiptId receipt, ReceiptEntry data receiptId receipt := by
  constructor
  · intro name data isFile
    obtain ⟨hexDigest, object, receiptId, rfl, published, describes⟩ :=
      recorded.descriptors name data isFile.1
    obtain ⟨descriptor, isEntry⟩ := descriptorEntry_of_describes describes
    exact ⟨_, descriptor, isEntry, _, Directory.mem_of_lookup published⟩
  · intro name data isFile
    obtain ⟨hexDigest, receiptId, sizeBytes, -, attests⟩ :=
      recorded.receipts name data isFile.1
    obtain ⟨receipt, isEntry⟩ := receiptEntry_of_attests attests
    exact ⟨receiptId, receipt, isEntry⟩

/-- The sweep returns a report on a store that the engine wrote. -/
theorem Recorded.runFsck_returns
    {store : Store} (recorded : Recorded store) :
    ∃ report, runFsck store = .ok report := by
  obtain ⟨descriptorFiles, receiptFiles⟩ := recorded.files
  obtain ⟨descriptorEntries, indexedDescriptors, -⟩ :=
    indexEntries_descriptors fun name data isFile => by
      obtain ⟨digest, descriptor, isEntry, -⟩ :=
        descriptorFiles name data isFile
      exact ⟨digest, descriptor, isEntry⟩
  obtain ⟨receiptEntries, indexedReceipts, -⟩ :=
    indexEntries_receipts receiptFiles
  simp only [runFsck, bind_eq_ok_iff, pure_eq_ok_iff]
  exact ⟨_, descriptorEntries, indexedDescriptors, receiptEntries,
    indexedReceipts, rfl⟩

/-- On such a store the report is clean when nothing is half finished. -/
theorem Recorded.clean_iff_full
    {store : Store} (recorded : Recorded store) :
    Clean store ↔ Full store := by
  constructor
  · intro clean path present
    obtain ⟨data, found⟩ := Directory.mem_iff_lookup.mp present
    obtain ⟨-, file, descriptor, isFile, reads, isDigest, isSize,
      receipts⟩ := clean.objects path data found
    obtain ⟨hexDigest, object, receiptId, isName, -, describes⟩ :=
      recorded.descriptors _ file isFile
    have sameDigest : path.2 = digestOf hexDigest :=
      recordFile_injective isName
    obtain ⟨members, readsAgain, -, -, isId⟩ := describes
    have sameRecord : members = descriptor :=
      Except.ok.inj (readsAgain.symm.trans reads)
    subst sameRecord
    obtain ⟨name, receiptData, receipt, isReceiptFile, isEntry⟩ :=
      receipts receiptId isId
    obtain ⟨_, other, _, rfl, receipt', readsReceipt, isReceipt, -⟩ :=
      recorded.receipts name receiptData isReceiptFile.1
    have sameReceipt : receipt' = receipt :=
      Except.ok.inj (readsReceipt.symm.trans isEntry.1)
    subst sameReceipt
    have sameId : other = receiptId :=
      Json.str.inj (isReceipt.symm.trans isEntry.2.1)
    subst sameId
    exact ⟨file, _, other, isFile, ⟨members, reads, isDigest, isSize,
      isId⟩, Directory.mem_of_lookup isReceiptFile.1⟩
  · intro full
    obtain ⟨descriptorFiles, receiptFiles⟩ := recorded.files
    refine ⟨descriptorFiles, receiptFiles, fun path data found => ?_⟩
    have isPath := recorded.objects path data found
    obtain ⟨file, sizeBytes, receiptId, isFile, ⟨descriptor, reads,
      isDigest, -, isId⟩, hasReceipt⟩ :=
      full path (Directory.mem_of_lookup found)
    obtain ⟨hexDigest, object, _, isName, published, members,
      readsAgain, -, isSize, -⟩ := recorded.descriptors _ file isFile
    have sameRecord : members = descriptor :=
      Except.ok.inj (readsAgain.symm.trans reads)
    subst sameRecord
    have sameHex : sha256 data = hexDigest := by
      rw [isPath] at isName
      exact digestOf_injective (recordFile_injective isName)
    rw [← sameHex, ← isPath, found] at published
    have sameObject : data = object := Option.some.inj published
    subst sameObject
    refine ⟨by rw [isPath]; rfl, file, members, isFile, reads, isDigest,
      isSize, fun named isNamed => ?_⟩
    have sameId : receiptId = named :=
      Json.str.inj (isId.symm.trans isNamed)
    subst sameId
    obtain ⟨receiptData, isReceipt⟩ := Directory.mem_iff_lookup.mp
      hasReceipt
    obtain ⟨_, other, _, isReceiptName, attests⟩ :=
      recorded.receipts _ receiptData isReceipt
    rw [← recordFile_injective isReceiptName] at attests
    obtain ⟨receipt, isEntry⟩ := receiptEntry_of_attests attests
    exact ⟨recordFile receiptId, receiptData, receipt,
      ⟨isReceipt, isSuffixOf_recordFile _⟩, isEntry⟩

/-- A complete call leaves nothing half finished. -/
theorem Full.complete
    {store : Store} (full : Full store) (request : IngestRequest) :
    Full ((ingest request).run store).2 := by
  have post := (safe_ingest request store).run_post
  generalize (ingest request).run store = ran at post
  obtain ⟨result, final⟩ := ran
  cases result with
  | error error =>
      obtain ⟨-, objects, descriptors, receipts⟩ := post
      intro path present
      simp only at objects descriptors receipts present ⊢
      rw [descriptors, receipts]
      rw [objects] at present
      exact full path present
  | ok outcome =>
      obtain ⟨-, -, published | ⟨-, rfl, -⟩⟩ := post
      · obtain ⟨descriptorData, descriptors, describes⟩ :=
          published.descriptors
        obtain ⟨receiptData, receipts, -⟩ := published.receipts
        intro path present
        simp only at descriptors receipts present ⊢
        rw [descriptors, receipts]
        by_cases same : path.2 = request.digest
        · rw [same]
          exact ⟨descriptorData, _, outcome.receiptId,
            AList.lookup_insert _, describes,
            AList.mem_insert _ |>.mpr (.inl rfl)⟩
        · have old : path ∈ store.objects := by
            rw [published.objects] at present
            rcases AList.mem_insert _ |>.mp present with rfl | old
            · exact absurd rfl same
            · exact old
          obtain ⟨data, sizeBytes, receiptId, isFile, describesOld,
            hasReceipt⟩ := full path old
          refine ⟨data, sizeBytes, receiptId, ?_, describesOld,
            AList.mem_insert _ |>.mpr (.inr hasReceipt)⟩
          rw [Directory.lookup_insert_eq_some]
          exact .inr ⟨fun isName => same (recordFile_injective isName),
            isFile⟩
      · exact full

theorem full_empty : Full Store.empty := by
  rintro path present
  exact absurd present (AList.notMem_empty path)

/-- Histories of complete calls leave nothing half finished. -/
theorem full_afterCalls
    (calls : List (Call IngestRequest))
    (complete : ∀ call ∈ calls, ∃ request, call = .complete request) :
    Full (afterCalls ingest calls Store.empty) := by
  suffices ∀ store, Full store → Full (afterCalls ingest calls store) from
    this Store.empty full_empty
  induction calls with
  | nil => exact fun _ full => full
  | cons call calls induction =>
      intro store full
      obtain ⟨request, rfl⟩ := complete call List.mem_cons_self
      exact induction (fun other member =>
        complete other (List.mem_cons_of_mem _ member)) _
          (full.complete request)

/--
In every store that a history of calls reaches from an empty one, `run_fsck`
returns a report, and reports ok exactly when every object has its descriptor
and the receipt that the descriptor names; a store of complete calls is never
flagged.
-/
theorem fsck_ok_iff_full (calls : List (Call IngestRequest)) :
    ∃ report,
      runFsck (afterCalls ingest calls Store.empty) = .ok report ∧
      (report.ok = true ↔ Full (afterCalls ingest calls Store.empty)) ∧
      ((∀ call ∈ calls, ∃ request, call = .complete request) →
        report.ok = true) := by
  have recorded := recorded_afterCalls calls
  obtain ⟨report, ran⟩ := recorded.runFsck_returns
  have precise : report.ok = true ↔
      Full (afterCalls ingest calls Store.empty) := by
    rw [← recorded.clean_iff_full]
    constructor
    · exact clean_of_runFsck ran
    · intro clean
      obtain ⟨other, ranAgain, ok⟩ := runFsck_of_clean clean
      rw [Except.ok.inj (ran.symm.trans ranAgain)]
      exact ok
  exact ⟨report, ran, precise, fun complete =>
    precise.mpr (full_afterCalls calls complete)⟩

/-! ## Reads -/

/-- `LocalArtifactStore._object_path`. -/
def storePath (digest : Text) : Text × Text :=
  ((digest.drop objectIdPrefix.length).take 2, digest)

/-- `LocalArtifactStore.get`. -/
def Store.get (store : Store) (digest : Text) : Except PyError Bytes := do
  refuseIf (isObjectId digest = false) ⟨.storeError,
    text "digest argument must match '^sha256:[0-9a-f]\x7b64\x7d$', got " ++
      quoted digest⟩
  match store.objects.lookup (storePath digest) with
  | none =>
      throw ⟨.storeError, text "no object with digest " ++ quoted digest ++
        text " in store"⟩
  | some data =>
      let actual := objectIdPrefix ++ sha256 data
      refuseIf (actual ≠ digest) ⟨.storeIntegrityError,
        text "integrity failure: object " ++ quoted digest ++
          text " stored bytes hash to " ++ quoted actual⟩
      pure data

/-- A descriptor on disk, with its digest and its size. -/
def OnDisk (store : Store) (digest : Text) (sizeBytes : Int) : Prop :=
  ∃ name data descriptor, IsRecordFile store.descriptors name data ∧
    readDescriptor data = .ok descriptor ∧
    valueAt descriptor (text "digest") = .str digest ∧
    valueAt descriptor (text "size_bytes") = .int sizeBytes

/-- `get` returns the object of every descriptor on disk. -/
def ReadsBack (store : Store) : Prop :=
  ∀ digest sizeBytes, OnDisk store digest sizeBytes →
    ∃ data, store.get digest = .ok data ∧
      (data.length : Int) = sizeBytes ∧ digestOf (sha256 data) = digest

/-- Every descriptor on disk has an object in the shard of its digest. -/
def Placed (store : Store) : Prop :=
  ∀ digest sizeBytes, OnDisk store digest sizeBytes →
    storePath digest ∈ store.objects

theorem get_eq_ok
    {store : Store} {digest : Text} {data : Bytes} :
    store.get digest = .ok data ↔
      isObjectId digest = true ∧
      store.objects.lookup (storePath digest) = some data ∧
      digestOf (sha256 data) = digest := by
  simp only [Store.get, bind_eq_ok_iff, refuseIf_eq_ok_iff]
  cases found : store.objects.lookup (storePath digest) with
  | none => simp
  | some stored =>
      simp only [bind_eq_ok_iff, refuseIf_eq_ok_iff, pure_eq_ok_iff,
        not_not, Bool.not_eq_false, Option.some.injEq]
      constructor
      · rintro ⟨_, shaped, _, isHash, rfl⟩
        exact ⟨shaped, rfl, isHash⟩
      · rintro ⟨shaped, rfl, isHash⟩
        exact ⟨⟨⟩, shaped, ⟨⟩, isHash, rfl⟩

/-- A clean report makes reads succeed where an object is in its place. -/
theorem Clean.readsBack_iff_placed
    {store : Store} (clean : Clean store) :
    ReadsBack store ↔ Placed store := by
  constructor
  · intro readsBack digest sizeBytes onDisk
    obtain ⟨data, read, -⟩ := readsBack digest sizeBytes onDisk
    exact Directory.mem_of_lookup (get_eq_ok.mp read).2.1
  · intro placed digest sizeBytes onDisk
    obtain ⟨data, found⟩ :=
      Directory.mem_iff_lookup.mp (placed digest sizeBytes onDisk)
    obtain ⟨isHash, file, descriptor, isFile, reads, -, isSize, -⟩ :=
      clean.objects _ data found
    have isDigest : digest = digestOf (sha256 data) := isHash
    refine ⟨data, get_eq_ok.mpr ⟨?_, found, isDigest.symm⟩, ?_,
      isDigest.symm⟩
    · rw [isDigest]
      exact isObjectId_digestOf_sha256 data
    · obtain ⟨name, other, members, isOther, readsOther, otherDigest,
        otherSize⟩ := onDisk
      obtain ⟨found', descriptor', ⟨readsEntry, entryDigest, isName⟩,
        -⟩ := clean.descriptors name other isOther
      have sameEntry : descriptor' = members :=
        Except.ok.inj (readsEntry.symm.trans readsOther)
      subst sameEntry
      have sameDigest : found' = digest :=
        Json.str.inj (entryDigest.symm.trans otherDigest)
      subst sameDigest
      have sameFile : other = file := by
        have isThere := isOther.1
        rw [isName] at isThere
        exact Option.some.inj (isThere.symm.trans isFile)
      subst sameFile
      have sameRecord : descriptor' = descriptor :=
        Except.ok.inj (readsOther.symm.trans reads)
      subst sameRecord
      exact Json.int.inj (isSize.symm.trans otherSize)

/--
For every tree that `run_fsck` reports ok, `get` returns the object of every
descriptor on disk exactly when the object of every descriptor lies in the
shard directory of its digest.
-/
theorem fsck_ok_reads_iff_placed
    {store : Store} {report : CasFsckReport}
    (ran : runFsck store = .ok report) (ok : report.ok = true) :
    ReadsBack store ↔ Placed store :=
  (clean_of_runFsck ran ok).readsBack_iff_placed

theorem reads_iff_placed_after_ingest :
    ∃ report,
      runFsck (afterCalls ingest [.complete emptyRequest] Store.empty) =
        .ok report ∧
      report.ok = true ∧
      (ReadsBack (afterCalls ingest [.complete emptyRequest]
          Store.empty) ↔
        Placed (afterCalls ingest [.complete emptyRequest]
          Store.empty)) := by
  have full : Full (afterCalls ingest [.complete emptyRequest]
      Store.empty) :=
    full_afterCalls _ (by simp)
  obtain ⟨report, ran, ok⟩ := runFsck_of_clean
    ((recorded_afterCalls _).clean_iff_full.mpr full)
  exact ⟨report, ran, ok, fsck_ok_reads_iff_placed ran ok⟩

def reportedOk (store : Store) : Bool :=
  match runFsck store with
  | .ok report => report.ok
  | .error _ => false

theorem reportedOk_eq_true
    {store : Store} (reported : reportedOk store = true) :
    ∃ report, runFsck store = .ok report ∧ report.ok = true := by
  rw [reportedOk] at reported
  split at reported
  · next report ran => exact ⟨report, ran, reported⟩
  · cases reported

/-- The bytes of a written record. -/
def written (record : Members) : Bytes :=
  match dumps (.obj record) with
  | .ok data => data
  | .error _ => []

def emptyObjectStore (shard : Text) (ingestReceiptId : Option Text)
    (receipts : Directory Text Bytes) : Store where
  objects := AList.insert (shard, emptyRequest.digest) [] ∅
  descriptors := AList.insert (descriptorFile emptyRequest.hexDigest)
    (written (descriptorMembers emptyRequest.digest 0
      emptyRequest.mediaType emptyRequest.created ingestReceiptId)) ∅
  receipts := receipts
  incoming := ∅

theorem describes_written
    (ingestReceiptId : Option Text)
    (shaped : ∀ id ∈ ingestReceiptId, isObjectId id = true) :
    Describes (written (descriptorMembers emptyRequest.digest 0
      emptyRequest.mediaType emptyRequest.created ingestReceiptId))
      emptyRequest.digest 0 ingestReceiptId := by
  obtain ⟨data, -, dumped, describes⟩ := buildObjectDescriptor_eq
    accepted_emptyRequest.fields accepted_emptyRequest.media
    ingestReceiptId shaped
  have isData : written (descriptorMembers emptyRequest.digest 0
      emptyRequest.mediaType emptyRequest.created ingestReceiptId) =
      data := by
    change dumps (.obj (descriptorMembers emptyRequest.digest 0
      emptyRequest.mediaType emptyRequest.created ingestReceiptId)) =
        .ok data at dumped
    rw [written, dumped]
  rw [isData]
  exact describes

/-- An object in a foreign shard is reported ok and cannot be read. -/
theorem misplaced_object_reported_ok :
    let store := emptyObjectStore (text "zz") none ∅
    (∃ report, runFsck store = .ok report ∧ report.ok = true) ∧
      ¬ ReadsBack store := by
  intro store
  obtain ⟨reported, absent⟩ : reportedOk store = true ∧
      store.objects.lookup (storePath emptyRequest.digest) = none := by
    decide +kernel
  refine ⟨reportedOk_eq_true reported, ?_⟩
  intro readsBack
  have isFile : store.descriptors.lookup
      (descriptorFile emptyRequest.hexDigest) = some _ :=
    AList.lookup_insert _
  obtain ⟨descriptor, reads, isDigest, isSize, -⟩ :=
    describes_written none (by simp)
  obtain ⟨data, read, -⟩ := readsBack emptyRequest.digest 0
    ⟨_, _, descriptor, ⟨isFile, isSuffixOf_recordFile _⟩, reads,
      isDigest, isSize⟩
  rw [(get_eq_ok.mp read).2.1] at absent
  cases absent

/-! ## Provenance -/

/--
Every object has a descriptor of its digest and size that names a receipt of
the same digest and size, under the id that the receipt's body hashes to.
-/
def Provenance (store : Store) : Prop :=
  ∀ path data, store.objects.lookup path = some data →
    ∃ file receiptId name receiptFile,
      store.descriptors.lookup (recordFile path.2) = some file ∧
      Describes file path.2 data.length (some receiptId) ∧
      IsRecordFile store.receipts name receiptFile ∧
      Attests receiptFile receiptId path.2 data.length

/--
For every tree that `run_fsck` reports ok, every object is named by its hash
and has a descriptor of its digest and size, and if that descriptor names a
receipt, then a receipt with this id exists whose id is the hash of its
canonical body.
-/
theorem fsck_ok_provenance
    {store : Store} {report : CasFsckReport}
    (ran : runFsck store = .ok report) (ok : report.ok = true) :
    ∀ path data, store.objects.lookup path = some data →
      path.2 = digestOf (sha256 data) ∧
      ∃ file ingestReceiptId,
        store.descriptors.lookup (recordFile path.2) = some file ∧
        Describes file path.2 data.length ingestReceiptId ∧
        ∀ receiptId ∈ ingestReceiptId,
          ∃ name receiptFile digest sizeBytes,
            IsRecordFile store.receipts name receiptFile ∧
            Attests receiptFile receiptId digest sizeBytes := by
  intro path data found
  obtain ⟨isHash, file, descriptor, isFile, reads, isDigest, isSize,
    receipts⟩ := (clean_of_runFsck ran ok).objects path data found
  obtain ⟨-, accepted⟩ := readDescriptor_eq_ok.mp reads
  obtain ⟨-, -, -, ingestReceiptId, isId, -⟩ :=
    validateObjectDescriptor_eq_ok accepted
  refine ⟨isHash, file, ingestReceiptId, isFile,
    ⟨descriptor, reads, isDigest, isSize, isId⟩,
    fun receiptId isNamed => ?_⟩
  have named : valueAt descriptor (text "ingest_receipt_id") =
      .str receiptId := by
    rw [isId, Option.mem_def.mp isNamed, optionalText]
  obtain ⟨name, receiptFile, receipt, isReceiptFile, readsReceipt,
    isReceipt, computed⟩ := receipts receiptId named
  obtain ⟨-, acceptedReceipt⟩ := readReceipt_eq_ok.mp readsReceipt
  obtain ⟨-, -, ⟨digest, hasDigest⟩, sizeBytes, hasSize⟩ :=
    validateIngestReceipt_eq_ok acceptedReceipt
  exact ⟨name, receiptFile, digest, sizeBytes, isReceiptFile, receipt,
    readsReceipt, isReceipt, hasDigest, hasSize, computed⟩

theorem fsck_ok_provenance_after_ingest :
    ∃ report,
      runFsck (afterCalls ingest [.complete emptyRequest] Store.empty) =
        .ok report ∧
      report.ok = true ∧
      ∃ path data,
        (afterCalls ingest [.complete emptyRequest]
          Store.empty).objects.lookup path = some data ∧
        path.2 = digestOf (sha256 data) ∧
        ∃ file ingestReceiptId,
          (afterCalls ingest [.complete emptyRequest]
            Store.empty).descriptors.lookup (recordFile path.2) =
              some file ∧
          Describes file path.2 data.length ingestReceiptId ∧
          ∀ receiptId ∈ ingestReceiptId,
            ∃ name receiptFile digest sizeBytes,
              IsRecordFile (afterCalls ingest [.complete emptyRequest]
                Store.empty).receipts name receiptFile ∧
              Attests receiptFile receiptId digest sizeBytes := by
  have full : Full (afterCalls ingest [.complete emptyRequest]
      Store.empty) :=
    full_afterCalls _ (by simp)
  obtain ⟨report, ran, ok⟩ := runFsck_of_clean
    ((recorded_afterCalls _).clean_iff_full.mpr full)
  have published : objectPath emptyRequest.hexDigest ∈
      (afterCalls ingest [.complete emptyRequest] Store.empty).objects := by
    decide +kernel
  obtain ⟨data, found⟩ := Directory.mem_iff_lookup.mp published
  exact ⟨report, ran, ok, _, data, found,
    fsck_ok_provenance ran ok _ data found⟩

/-- A file describes one object. -/
theorem Describes.unique
    {data : Bytes} {digest digest' : Text} {sizeBytes sizeBytes' : Int}
    {receiptId receiptId' : Option Text}
    (describes : Describes data digest sizeBytes receiptId)
    (again : Describes data digest' sizeBytes' receiptId') :
    receiptId = receiptId' := by
  obtain ⟨descriptor, reads, -, -, isId⟩ := describes
  obtain ⟨descriptor', reads', -, -, isId'⟩ := again
  have same : descriptor = descriptor' :=
    Except.ok.inj (reads.symm.trans reads')
  subst same
  have sameText := isId.symm.trans isId'
  cases receiptId <;> cases receiptId' <;> simp_all [optionalText]

/-- The digest that a receipt file names. -/
def receiptDigest (data : Bytes) : Option Text :=
  match readReceipt data with
  | .ok receipt => some (stringAt receipt (text "digest"))
  | .error _ => none

theorem receiptDigest_of_attests
    {data : Bytes} {receiptId digest : Text} {sizeBytes : Int}
    (attests : Attests data receiptId digest sizeBytes) :
    receiptDigest data = some digest := by
  obtain ⟨receipt, reads, -, isDigest, -⟩ := attests
  simp only [receiptDigest, reads, stringAt, isDigest]

/-- The id of the receipt of another object, of one byte. -/
def foreignReceiptId : Text :=
  objectIdPrefix ++ sha256 (written (receiptSeed (digestOf (sha256 [97])) 1
    true true true emptyRequest.created))

/-- The receipt of that object. -/
def foreignReceipt : Bytes :=
  written (receiptMembers (digestOf (sha256 [97])) 1 emptyRequest.created
    foreignReceiptId)

/-- The empty object with a descriptor that names no receipt. -/
def unreceiptedStore : Store :=
  emptyObjectStore (emptyRequest.hexDigest.take 2) none ∅

/-- The empty object with a descriptor that names another's receipt. -/
def mixedStore : Store :=
  emptyObjectStore (emptyRequest.hexDigest.take 2) (some foreignReceiptId)
    (AList.insert (recordFile foreignReceiptId) foreignReceipt ∅)

/--
A descriptor without a receipt, and a descriptor that names the receipt of
another object, are reported ok.
-/
theorem unproven_objects_reported_ok :
    ((∃ report, runFsck unreceiptedStore = .ok report ∧
        report.ok = true) ∧ ¬ Provenance unreceiptedStore) ∧
      (∃ report, runFsck mixedStore = .ok report ∧ report.ok = true) ∧
        ¬ Provenance mixedStore := by
  obtain ⟨noReceipt, otherReceipt, differs⟩ :
      reportedOk unreceiptedStore = true ∧ reportedOk mixedStore = true ∧
        receiptDigest foreignReceipt ≠ some emptyRequest.digest := by
    decide +kernel
  refine ⟨⟨reportedOk_eq_true noReceipt, ?_⟩,
    reportedOk_eq_true otherReceipt, ?_⟩
  · intro provenance
    obtain ⟨file, receiptId, _, _, isFile, describes, -⟩ :=
      provenance _ [] (AList.lookup_insert _)
    have isWritten := Option.some.inj
      ((AList.lookup_insert _).symm.trans isFile)
    subst isWritten
    cases describes.unique (describes_written none (by simp))
  · intro provenance
    obtain ⟨file, receiptId, name, receiptFile, isFile, describes,
      isReceiptFile, attests⟩ := provenance _ [] (AList.lookup_insert _)
    rcases Directory.lookup_insert_eq_some.mp isReceiptFile.1 with
      ⟨-, rfl⟩ | ⟨-, inEmpty⟩
    · exact differs (receiptDigest_of_attests attests)
    · cases inEmpty

end ScientificResourceLab.Cas
