import ScientificResourceLab.Knowledge.Identity

/-!
# Crashes of the payload store

`_write_payload` on the files of the store, step by step: a temporary file is
written and put in place of the payload, and then another in place of the
metadata.  It may be cut after any step.

Reading finds the old pair of files, the new payload with the old metadata,
or the new pair (`files_afterCut`).  The mixture is told apart by its digest,
unless the old metadata describe the new payload already; and old metadata
that cannot be decoded at all raise (`survives_iff`).
-/

namespace ScientificResourceLab.Knowledge

open Python Contracts Steps

/-- The members of a metadata document. -/
abbrev MetadataFields := List (Text × Json)

/-! ## Files -/

/-- The files that a key has in the store. -/
inductive StoreFile where
  | payload (key : Text)
  | payloadTemp (key : Text)
  | metadata (key : Text)
  | metadataTemp (key : Text)
  deriving DecidableEq

/-- The store directory: the content of each file that exists. -/
abbrev PayloadStore := StoreFile → Option Bytes

/-- A step that touches the directory. -/
inductive FileStep where
  | write (file : StoreFile) (content : Bytes)
  | replace (source target : StoreFile)

/-- What a step does. -/
def FileStep.apply (store : PayloadStore) : FileStep → PayloadStore
  | .write file content => Function.update store file (some content)
  | .replace source target =>
      Function.update (Function.update store target (store source))
        source none

/-- Metadata: a dict, whose keys are distinct. -/
structure Metadata where
  members : MetadataFields
  distinct : (Json.obj members).Distinct

/-- The document of metadata, if `json.dumps` and the encoding return. -/
def Metadata.document (metadata : Metadata) : Option Bytes :=
  (asciiText (.obj metadata.members)).bind utf8Encode

/-- The file steps of `_write_payload`. -/
def writeSteps (key : Text) (payload : Bytes) (metadata : Metadata) :
    List FileStep :=
  [.write (.payloadTemp key) payload,
    .replace (.payloadTemp key) (.payload key)] ++
  match metadata.document with
  | none => []
  | some document =>
      [.write (.metadataTemp key) document,
        .replace (.metadataTemp key) (.metadata key)]

/-- The store when `_write_payload` is cut after some steps. -/
def afterCut (store : PayloadStore) (key : Text) (payload : Bytes)
    (metadata : Metadata) (cut : Nat) : PayloadStore :=
  ((writeSteps key payload metadata).take cut).foldl FileStep.apply store

/-! ## Reading -/

/-- The dict in a metadata file: nothing if it holds no JSON object, and an
error if decoding raises one that is not caught. -/
def readMetadata (content : Bytes) :
    Except PyError (Option MetadataFields) :=
  match utf8Decode content with
  | none => .error (raised .unicodeDecodeError "invalid start byte")
  | some document =>
      match parseText true document with
      | .ok (.obj members) => .ok (some members)
      | .ok _ => .ok none
      | .error .value =>
          .error (raised .valueError
            "Exceeds the limit for integer string conversion")
      | .error _ => .ok none

/-- The metadata carry the digest of the payload. -/
def describes (members : MetadataFields) (payload : Bytes) : Bool :=
  match getOrNone (text "response_sha256") members with
  | .str expected => digestBytes payload = expected
  | _ => false

theorem describes_iff {members : MetadataFields} {payload : Bytes} :
    describes members payload = true ↔
      getOrNone (text "response_sha256") members =
        .str (digestBytes payload) := by
  rw [describes]
  cases getOrNone (text "response_sha256") members with
  | str expected => simp [eq_comm]
  | null | bool | int | float | arr | obj => simp

/-- `_read_payload` on the contents of the two files. -/
def readPair : Option Bytes → Option Bytes →
    Except PyError (Option (Bytes × MetadataFields))
  | some payload, some content => do
      match ← readMetadata content with
      | some members =>
          if describes members payload then pure (some (payload, members))
          else pure none
      | none => pure none
  | _, _ => .ok none

/-- `_read_payload`. -/
def readStored (store : PayloadStore) (key : Text) :
    Except PyError (Option (Bytes × MetadataFields)) :=
  readPair (store (.payload key)) (store (.metadata key))

/-- The cache directory of `fetch` that shows the files of a store. -/
def PayloadStore.view (store : PayloadStore) (cache : Cache) : Cache :=
  { cache with
    payloads := fun key => store (.payload key)
    metas := fun key => (store (.metadata key)).bind utf8Decode }

/-- On metadata that are UTF-8 the store is read as `fetch` reads it. -/
theorem readStored_view
    {store : PayloadStore} {cache : Cache} {key : Text}
    (decodes : ∀ content ∈ store (.metadata key),
      (utf8Decode content).isSome = true) :
    (readStored store key).map (Option.map Prod.fst) =
      readPayload (store.view cache) key := by
  simp only [readStored, readPayload, PayloadStore.view]
  generalize store (.payload key) = stored
  generalize store (.metadata key) = described at decodes ⊢
  cases stored with
  | none => cases described <;> rfl
  | some payload =>
      cases described with
      | none => rfl
      | some content =>
          obtain ⟨document, decoded⟩ :=
            Option.isSome_iff_exists.mp (decodes content rfl)
          simp only [readPair, readMetadata, decoded, Option.bind_some]
          rcases parseText true document with error | value
          · cases error <;> rfl
          · cases value with
            | obj members =>
                by_cases described : describes members payload = true
                · simp only [bind, Except.bind, if_pos described,
                    describes_iff.mp described]
                  rfl
                · simp only [bind, Except.bind, if_neg described]
                  rw [describes_iff] at described
                  cases found : getOrNone (text "response_sha256") members
                    with
                  | str expected =>
                      have differs : digestBytes payload ≠ expected := by
                        rintro rfl
                        exact described found
                      simp only [if_neg differs]
                      rfl
                  | null | bool | int | float | arr | obj => rfl
            | null | bool | int | float | str | arr => rfl

/-! ## What a cut leaves -/

/-- The pair that the new files are read as. -/
def newPair (payload : Bytes) (metadata : Metadata) :
    Bytes × MetadataFields :=
  match (Json.obj metadata.members).sorted.reread joinPairs with
  | .obj members => (payload, members)
  | _ => (payload, [])

/-- New metadata are decoded to the dict they were, its keys in order. -/
theorem readMetadata_document
    {metadata : Metadata} {document : Bytes} (payload : Bytes)
    (written : metadata.document = some document) :
    readMetadata document = .ok (some (newPair payload metadata).2) := by
  rw [Metadata.document, Option.bind_eq_some_iff] at written
  obtain ⟨content, dumped, encoded⟩ := written
  have parsed := parseText_asciiText metadata.distinct dumped
  simp only [readMetadata, utf8Decode_utf8Encode encoded, parsed, newPair]
  rfl

/-- After any cut the two files are the old ones, the new payload with the
old metadata, or the new ones. -/
theorem files_afterCut
    (store : PayloadStore) (key : Text) (payload : Bytes)
    (metadata : Metadata) (cut : Nat) :
    let after := afterCut store key payload metadata cut
    (after (.payload key) = store (.payload key) ∧
        after (.metadata key) = store (.metadata key)) ∨
      (after (.payload key) = some payload ∧
        after (.metadata key) = store (.metadata key)) ∨
      after (.payload key) = some payload ∧
        ∃ document, metadata.document = some document ∧
          after (.metadata key) = some document := by
  simp only [afterCut, writeSteps]
  cases written : metadata.document with
  | none =>
      rcases cut with _ | _ | cut
      · exact .inl ⟨rfl, rfl⟩
      · refine .inl ⟨?_, ?_⟩
        · simp [FileStep.apply]
        · simp [FileStep.apply]
      · refine .inr (.inl ⟨?_, ?_⟩)
        · simp [FileStep.apply]
        · simp [FileStep.apply]
  | some document =>
      rcases cut with _ | _ | _ | _ | cut
      · exact .inl ⟨rfl, rfl⟩
      · refine .inl ⟨?_, ?_⟩
        · simp [FileStep.apply]
        · simp [FileStep.apply]
      · refine .inr (.inl ⟨?_, ?_⟩)
        · simp [FileStep.apply]
        · simp [FileStep.apply]
      · refine .inr (.inl ⟨?_, ?_⟩)
        · simp [FileStep.apply]
        · simp [FileStep.apply]
      · refine .inr (.inr ⟨?_, document, rfl, ?_⟩)
        · simp [FileStep.apply]
        · simp [FileStep.apply]

/-- The cut between the two replacements leaves the mixture. -/
theorem files_afterCut_two
    (store : PayloadStore) (key : Text) (payload : Bytes)
    (metadata : Metadata) :
    let after := afterCut store key payload metadata 2
    after (.payload key) = some payload ∧
      after (.metadata key) = store (.metadata key) := by
  simp [afterCut, writeSteps, FileStep.apply]

/-! ## Surviving a cut -/

/-- A read after a cut returns nothing, what a read returned before, or the
new pair, and never a payload that its metadata do not describe. -/
def Survives (store : PayloadStore) (key : Text) (payload : Bytes)
    (metadata : Metadata) : Prop :=
  ∀ cut, ∃ answer,
    readStored (afterCut store key payload metadata cut) key = .ok answer ∧
    (answer = none ∨ readStored store key = .ok answer ∨
      answer = some (newPair payload metadata)) ∧
    ∀ pair ∈ answer, describes pair.2 pair.1 = true

/-- The old metadata, if there are any, can be decoded; and if they describe
the new payload, that payload is there already or they are the new ones. -/
def Recoverable (store : PayloadStore) (key : Text) (payload : Bytes)
    (metadata : Metadata) : Prop :=
  ∀ content, store (.metadata key) = some content →
    ∃ decoded, readMetadata content = .ok decoded ∧
      ∀ members, decoded = some members →
        describes members payload = true →
        store (.payload key) = some payload ∨
          (payload, members) = newPair payload metadata

/-- A pair is read of its two files, and its metadata describe it. -/
theorem readPair_eq_some_iff
    {stored described : Option Bytes} {pair : Bytes × MetadataFields} :
    readPair stored described = .ok (some pair) ↔
      stored = some pair.1 ∧
        (∃ content, described = some content ∧
          readMetadata content = .ok (some pair.2)) ∧
        describes pair.2 pair.1 = true := by
  obtain ⟨payload, members⟩ := pair
  rw [readPair.eq_def]
  cases stored with
  | none => simp
  | some stored =>
      cases described with
      | none => simp
      | some content =>
          simp only [bind_eq_ok_iff, Option.some.injEq, exists_eq_left']
          constructor
          · rintro ⟨decoded, isDecoded, returned⟩
            cases decoded with
            | none => simp at returned
            | some found =>
                simp only at returned
                split_ifs at returned with isDescribed
                · simp only [pure_eq_ok_iff, Option.some.injEq,
                    Prod.mk.injEq] at returned
                  obtain ⟨rfl, rfl⟩ := returned
                  exact ⟨rfl, isDecoded, isDescribed⟩
                · simp at returned
          · rintro ⟨rfl, isDecoded, isDescribed⟩
            refine ⟨_, isDecoded, ?_⟩
            simp [isDescribed]

theorem readPair_returns
    {stored described : Option Bytes}
    (decodes : ∀ content, described = some content →
      ∃ decoded, readMetadata content = .ok decoded) :
    ∃ answer, readPair stored described = .ok answer := by
  cases stored with
  | none => exact ⟨none, rfl⟩
  | some payload =>
      cases described with
      | none => exact ⟨none, rfl⟩
      | some content =>
          obtain ⟨decoded, isDecoded⟩ := decodes content rfl
          simp only [readPair, isDecoded, bind_eq_ok_iff, Except.ok.injEq,
            exists_eq_left']
          cases decoded with
          | none => exact ⟨none, rfl⟩
          | some members =>
              by_cases isDescribed : describes members payload = true
              · exact ⟨_, if_pos isDescribed⟩
              · exact ⟨_, if_neg isDescribed⟩

/-- What raises is the decoding of the metadata. -/
theorem readMetadata_of_readPair
    {payload content : Bytes} {answer : Option (Bytes × MetadataFields)}
    (returned : readPair (some payload) (some content) = .ok answer) :
    ∃ decoded, readMetadata content = .ok decoded := by
  simp only [readPair, bind_eq_ok_iff] at returned
  obtain ⟨decoded, isDecoded, -⟩ := returned
  exact ⟨decoded, isDecoded⟩

/-- The store survives every cut exactly when the old metadata can be decoded
and do not describe a new payload that is not there. -/
theorem survives_iff_recoverable
    {store : PayloadStore} {key : Text} {payload : Bytes}
    {metadata : Metadata} :
    Survives store key payload metadata ↔
      Recoverable store key payload metadata := by
  constructor
  · intro survives content isOld
    obtain ⟨answer, returned, expected, -⟩ := survives 2
    obtain ⟨isNew, isKept⟩ := files_afterCut_two store key payload metadata
    rw [readStored, isNew, isKept, isOld] at returned
    obtain ⟨decoded, isDecoded⟩ := readMetadata_of_readPair returned
    refine ⟨decoded, isDecoded, ?_⟩
    rintro members rfl isDescribed
    have mixture : readPair (some payload) (some content) =
        .ok (some (payload, members)) :=
      readPair_eq_some_iff.mpr ⟨rfl, ⟨content, rfl, isDecoded⟩, isDescribed⟩
    rw [mixture] at returned
    obtain rfl := Except.ok.inj returned
    rcases expected with nothing | before | new
    · cases nothing
    · exact .inl (readPair_eq_some_iff.mp before).1
    · exact .inr (Option.some.inj new)
  · intro recoverable cut
    have files := files_afterCut store key payload metadata cut
    have decodes (content : Bytes)
        (isContent : store (.metadata key) = some content) :
        ∃ decoded, readMetadata content = .ok decoded :=
      (recoverable content isContent).imp fun _ both => both.1
    rw [readStored]
    rcases files with ⟨isOld, isKept⟩ | ⟨isNew, isKept⟩ |
      ⟨isNew, document, written, isDocument⟩
    · rw [isOld, isKept]
      obtain ⟨answer, returned⟩ : ∃ answer, readPair (store (.payload key))
          (store (.metadata key)) = .ok answer :=
        readPair_returns decodes
      refine ⟨answer, returned, .inr (.inl returned), ?_⟩
      rintro pair rfl
      exact (readPair_eq_some_iff.mp returned).2.2
    · rw [isNew, isKept]
      obtain ⟨answer, returned⟩ : ∃ answer, readPair (some payload)
          (store (.metadata key)) = .ok answer :=
        readPair_returns decodes
      refine ⟨answer, returned, ?_, ?_⟩
      · cases answer with
        | none => exact .inl rfl
        | some pair =>
            obtain ⟨isPayload, ⟨content, isContent, isDecoded⟩,
              isDescribed⟩ := readPair_eq_some_iff.mp returned
            obtain ⟨decoded, alsoDecoded, expected⟩ :=
              recoverable content isContent
            rw [isDecoded] at alsoDecoded
            obtain rfl := Except.ok.inj alsoDecoded
            obtain rfl := Option.some.inj isPayload
            rcases expected pair.2 rfl isDescribed with present | new
            · refine .inr (.inl ?_)
              exact readPair_eq_some_iff.mpr
                ⟨present, ⟨content, isContent, isDecoded⟩, isDescribed⟩
            · exact .inr (.inr (congrArg some new))
      · rintro pair rfl
        exact (readPair_eq_some_iff.mp returned).2.2
    · rw [isNew, isDocument]
      have isDecoded := readMetadata_document payload written
      by_cases isDescribed :
          describes (newPair payload metadata).2 payload = true
      · refine ⟨some (newPair payload metadata), ?_, .inr (.inr rfl), ?_⟩
        · exact readPair_eq_some_iff.mpr
            ⟨rfl, ⟨document, rfl, isDecoded⟩, isDescribed⟩
        · rintro pair ⟨⟩
          exact isDescribed
      · refine ⟨none, ?_, .inl rfl, nofun⟩
        simp only [readPair, isDecoded, bind_eq_ok_iff, Except.ok.injEq,
          exists_eq_left', if_neg isDescribed]
        rfl

/-- Two calls for one request, at any times and over any transport. -/
structure Repeats (first second : Call) : Prop where
  endpointId : second.endpointId = first.endpointId
  path : second.path = first.path
  params : second.params = first.params

theorem prepare_repeats
    {rules : NetlocRules} {registry : PolicyRegistry} {first second : Call}
    (repeats : Repeats first second) :
    prepare rules registry second = prepare rules registry first := by
  simp only [prepare, repeats.endpointId, repeats.path, repeats.params]

/--
The store survives every cut exactly when the old metadata can be decoded and
do not describe a new payload that is not there; and a request that is
repeated while the files of its key are as the fetch left them is a hit with
the identifier of that fetch.
-/
theorem survives_iff
    (store : PayloadStore) (key : Text) (payload : Bytes)
    (metadata : Metadata) (rules : NetlocRules)
    (registry : PolicyRegistry) :
    (Survives store key payload metadata ↔
      Recoverable store key payload metadata) ∧
    ∀ cache later first second request receipt payload,
      prepare rules registry first = .ok request →
      (fetch rules registry cache first).outcome =
          .returned receipt payload →
      Repeats first second →
      later.payloads request.key =
          (fetch rules registry cache first).cache.payloads request.key →
      later.metas request.key =
          (fetch rules registry cache first).cache.metas request.key →
        ∃ again, fetch rules registry later second =
            ⟨later, 0, 0, .returned again payload⟩ ∧
          again.cached = true ∧ again.receiptId = receipt.receiptId := by
  refine ⟨survives_iff_recoverable, ?_⟩
  intro cache later first second request receipt payload prepared outcome
    repeats payloads metas
  have preparedAgain := (prepare_repeats repeats).trans prepared
  have params : canonicalParams first.params =
      canonicalParams second.params := by
    rw [repeats.params]
  obtain ⟨again, hit, cached, identity⟩ :=
    fetch_again outcome prepared preparedAgain params payloads metas
  exact ⟨again, hit, cached, identity.receiptId.symm⟩

/-- A call that is repeated at once is a hit. -/
theorem survives_iff_repeated :
    ∃ later, ∃ receipt again : QueryReceipt,
      fetch noRules exampleRegistry later (exampleCall noneFirstParams) =
        ⟨later, 0, 0, .returned again []⟩ ∧
      again.cached = true ∧ again.receiptId = receipt.receiptId := by
  obtain ⟨receipt, outcome⟩ := exampleCall_returns
  obtain ⟨request, _, prepared, -, -⟩ := fetch_returned outcome
  obtain ⟨again, hit, cached, same⟩ :=
    (survives_iff (fun _ => none) [] [] ⟨[], trivial, List.nodup_nil⟩
      noRules exampleRegistry).2 (.empty [])
      (fetch noRules exampleRegistry (.empty [])
        (exampleCall noneFirstParams)).cache
      (exampleCall noneFirstParams) (exampleCall noneFirstParams) request
      receipt [] prepared outcome ⟨rfl, rfl, rfl⟩ rfl rfl
  exact ⟨_, receipt, again, hit, cached, same⟩

/-- A store with one metadata file, which is not UTF-8. -/
def brokenStore (key : Text) : PayloadStore
  | .metadata name => if name = key then some [0xFF] else none
  | _ => none

/-- Metadata with the digest of a payload and nothing else. -/
def bareMetadata (payload : Bytes) : Metadata where
  members := [(text "response_sha256", .str (digestBytes payload))]
  distinct := ⟨⟨trivial, trivial⟩, List.nodup_singleton _⟩

/-- Metadata with the digest of a payload and a retention. -/
def keptMetadata (payload : Bytes) : Metadata where
  members :=
    [(text "response_sha256", .str (digestBytes payload)),
      (text "retention_days", .int 30)]
  distinct := by
    refine ⟨⟨trivial, trivial, trivial⟩, ?_⟩
    have keys : [text "response_sha256", text "retention_days"].Nodup := by
      decide
    exact keys

/-- A store with the metadata of a payload that is gone. -/
def orphanedStore (key : Text) (payload : Bytes) : PayloadStore
  | .metadata name =>
      if name = key then (keptMetadata payload).document else none
  | _ => none

/-- A cut behind the payload makes reading raise, and lets old metadata go
with a new payload. -/
theorem brokenStore_not_survives :
    ¬ Survives (brokenStore (text "k")) (text "k") [] (bareMetadata []) ∧
      ¬ Survives (orphanedStore (text "k") []) (text "k") []
          (bareMetadata []) := by
  constructor
  · rw [survives_iff_recoverable]
    intro recoverable
    have isBroken : brokenStore (text "k") (.metadata (text "k")) =
        some [0xFF] := by
      rw [brokenStore, if_pos rfl]
    obtain ⟨decoded, isDecoded, -⟩ := recoverable [0xFF] isBroken
    have raises : (readMetadata [0xFF]).toOption.isNone = true := by
      decide
    rw [isDecoded] at raises
    cases raises
  · rw [survives_iff_recoverable]
    intro recoverable
    have written : (keptMetadata []).document.isSome = true := by
      decide +kernel
    obtain ⟨document, isDocument⟩ := Option.isSome_iff_exists.mp written
    have isOrphaned : orphanedStore (text "k") [] (.metadata (text "k")) =
        some document := by
      rw [orphanedStore, if_pos rfl, isDocument]
    obtain ⟨decoded, isDecoded, expected⟩ := recoverable document isOrphaned
    rw [readMetadata_document [] isDocument] at isDecoded
    obtain rfl := Except.ok.inj isDecoded
    have isDescribed :
        describes (newPair [] (keptMetadata [])).2 [] = true := by
      decide +kernel
    rcases expected _ rfl isDescribed with absent | same
    · cases absent
    · have members := congrArg (fun pair => pair.2.length) same
      have differs : (newPair [] (keptMetadata [])).2.length ≠
          (newPair [] (bareMetadata [])).2.length := by
        decide
      exact differs members

end ScientificResourceLab.Knowledge
