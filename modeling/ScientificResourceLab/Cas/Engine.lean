import ScientificResourceLab.Cas.Records
import ScientificResourceLab.Steps.Directory
import ScientificResourceLab.Steps.History
import ScientificResourceLab.Steps.Interleaving

/-!
# The transaction engine of the content-addressed store

`ingest` as a program of the atomic steps it makes on the directories of a
store.  An object lies under its shard and its file name; the other
directories hold files under their names.  A file is put in place by one
`os.replace`, so the temporary files in which its bytes are collected, the
creation of directories and `fsync` are not represented.  Redacted store
roots are left out of the results.

The capacity hook is an argument of the call, as in the source, and so is the
time that `_now_utc_seconds` reports.
-/

namespace ScientificResourceLab.Cas

open Python Contracts Steps
open Steps.Program (observe inspect update compute)

/-- The directories of a store. -/
structure Store where
  objects : Directory (Text × Text) Bytes
  descriptors : Directory Text Bytes
  receipts : Directory Text Bytes
  incoming : Directory Text Bytes

/-- A store without files. -/
def Store.empty : Store where
  objects := ∅
  descriptors := ∅
  receipts := ∅
  incoming := ∅

/-- Code of the engine. -/
abbrev Action := Program Store PyError

/-! ## Paths -/

/-- The digest of a content address. -/
def digestOf (hexDigest : Text) : Text :=
  objectIdPrefix ++ hexDigest

/-- `_StorePaths.object`, as the shard and the file name. -/
def objectPath (hexDigest : Text) : Text × Text :=
  (hexDigest.take 2, digestOf hexDigest)

def recordFile (id : Text) : Text :=
  id ++ text ".json"

/-- `_StorePaths.descriptor_file`. -/
def descriptorFile (hexDigest : Text) : Text :=
  recordFile (digestOf hexDigest)

/-- The name of a partial file in `incoming/`. -/
def partialName (hexDigest : Text) : Text :=
  text "partial-" ++ (hexDigest ++ text ".tmp")

/-- `is_file` on the path of an object. -/
def Store.hasObject (store : Store) (hexDigest : Text) : Bool :=
  objectPath hexDigest ∈ store.objects

/-! ## Files -/

/-- Stage bytes under the partial name. -/
def Store.stage (store : Store) (hexDigest : Text) (data : Bytes) :
    Store :=
  { store with
    incoming := store.incoming.insert (partialName hexDigest) data }

/-- `unlink(missing_ok=True)` of the partial file. -/
def Store.dropPartial (store : Store) (hexDigest : Text) : Store :=
  { store with incoming := store.incoming.erase (partialName hexDigest) }

/-- `os.replace` of the partial file onto the object, if there is one. -/
def Store.publish (store : Store) (hexDigest : Text) : Store :=
  match store.incoming.lookup (partialName hexDigest) with
  | none => store
  | some data =>
      { store with
        incoming := store.incoming.erase (partialName hexDigest)
        objects := store.objects.insert (objectPath hexDigest) data }

def Store.putDescriptor (store : Store) (hexDigest : Text)
    (data : Bytes) : Store :=
  { store with
    descriptors := store.descriptors.insert (descriptorFile hexDigest) data }

def Store.putReceipt (store : Store) (receiptId : Text) (data : Bytes) :
    Store :=
  { store with
    receipts := store.receipts.insert (recordFile receiptId) data }

def absentFile : PyError :=
  raised .fileNotFoundError "No such file or directory"

/-! ## Requests and outcomes -/

/-- A byte string; its length is a machine word. -/
abbrev SourceBytes := { data : Bytes // data.length < 2 ^ 63 }

/-- The arguments of `ingest`, and the time at which it is called. -/
structure IngestRequest where
  sourceBytes : SourceBytes
  mediaType : Text
  capacityHook : Option (Int → Int → Except PyError PUnit)
  usedBytes : Int
  createdUtc : Option Text
  nowUtc : Text

namespace IngestRequest

variable (request : IngestRequest)

/-- `len(source_bytes)`. -/
def sizeBytes : Int :=
  request.sourceBytes.val.length

/-- The timestamp of the records. -/
def created : Text :=
  request.createdUtc.getD request.nowUtc

/-- `_sha256_hex(source_bytes)`. -/
def hexDigest : Text :=
  sha256 request.sourceBytes.val

/-- `"sha256:" + hex_digest`. -/
def digest : Text :=
  digestOf request.hexDigest

end IngestRequest

/-- `IngestOutcome`. -/
structure IngestOutcome where
  digest : Text
  sizeBytes : Int
  descriptor : Members
  receipt : Members
  receiptId : Text
  deduplicated : Bool

/-! ## The transaction -/

/-- `except ContractError as exc: raise ContractError(str(exc))`. -/
def asContractError {α : Type} : Except PyError α → Except PyError α
  | .ok value => .ok value
  | .error error =>
      if error.kind.isContractError then
        .error ⟨.contractError, error.message⟩
      else .error error

/-- `_validate_inputs`. -/
def validateInputs (mediaType created : Text) : Except PyError PUnit := do
  let _ ← asContractError
    (validateMediaType (text "media_type") (.str mediaType))
  let _ ← asContractError (validateTimestamp created)
  pure ⟨⟩

/-- `_require_safe_hex_digest`. -/
def requireSafeHexDigest (hexDigest : Text) : Except PyError PUnit :=
  refuseIf (¬ (hexDigest.length = 64 ∧
      hexDigest.all CodePoint.isLowerHex = true))
    ⟨.contractError,
      text "digest hex must match '^[0-9a-f]\x7b64\x7d$', got " ++
        quoted hexDigest⟩

/-- The capacity policy of a call. -/
def consultHook (request : IngestRequest) : Except PyError PUnit :=
  match request.capacityHook with
  | none => .ok ⟨⟩
  | some hook => hook request.usedBytes request.sizeBytes

/-- `except (OSError, ValueError, DescriptorError)`. -/
def unreadable (error : PyError) : Bool :=
  error.kind.isOsError || error.kind.isValueError

/-- A fresh descriptor for a store without a readable one. -/
def freshDescriptor (request : IngestRequest) : Except PyError Members :=
  buildObjectDescriptor request.digest request.sizeBytes request.mediaType
    request.created none

/-- `_read_descriptor_or_build`. -/
def readDescriptorOrBuild (request : IngestRequest) : Action Members := do
  let present ← observe fun store =>
    decide (descriptorFile request.hexDigest ∈ store.descriptors)
  if present then
    let file ← observe fun store =>
      store.descriptors.lookup (descriptorFile request.hexDigest)
    match file.elim (.error absentFile) readDescriptor with
    | .ok descriptor => pure descriptor
    | .error error =>
        if unreadable error then compute (freshDescriptor request)
        else throw error
  else compute (freshDescriptor request)

/-- `descriptor.get("ingest_receipt_id") or ""`. -/
def ingestReceiptIdOf (descriptor : Members) : Text :=
  match valueAt descriptor (text "ingest_receipt_id") with
  | .str receiptId => receiptId
  | _ => []

/-- `_build_synthetic_receipt_for_dedup`. -/
def syntheticReceipt (request : IngestRequest) (receiptId : Text) :
    Except PyError Members :=
  if receiptId ≠ [] then
    .ok [(text "schema_version", .str ingestReceiptSchemaVersion),
      (text "receipt_id", .str receiptId),
      (text "digest", .str request.digest),
      (text "size_bytes", .int request.sizeBytes),
      (text "source_hash_verified", .bool true),
      (text "readback_hash_verified", .bool true),
      (text "fsynced", .bool true),
      (text "created_utc", .str request.created)]
  else do
    let built ← buildIngestReceipt request.digest request.sizeBytes
      true true true request.created
    pure built.1

/-- `_dedup_outcome`. -/
def dedupOutcome (request : IngestRequest) : Action IngestOutcome := do
  let descriptor ← readDescriptorOrBuild request
  let receiptId := ingestReceiptIdOf descriptor
  let receipt ← compute (syntheticReceipt request receiptId)
  pure
    { digest := request.digest
      sizeBytes := request.sizeBytes
      descriptor := descriptor
      receipt := receipt
      receiptId := receiptId
      deduplicated := true }

/-- The refusal of a partial file that does not read back. -/
def readbackFailure (request : IngestRequest) (readback : Bytes) :
    PyError :=
  ⟨.casIntegrityError,
    text "read-back integrity failure: object " ++ quoted request.digest ++
      text " read back as sha256:" ++ sha256 readback ++ text " (size " ++
      intText readback.length ++ text " != " ++
      intText request.sizeBytes ++ text ")"⟩

/-- `_write_partial_and_verify`. -/
def writePartialAndVerify (request : IngestRequest) : Action PUnit := do
  update fun store =>
    store.stage request.hexDigest request.sourceBytes.val
  let readback ← inspect fun store =>
    (store.incoming.lookup (partialName request.hexDigest)).elim
      (.error absentFile) .ok
  if sha256 readback ≠ request.hexDigest ∨
      readback.length ≠ request.sourceBytes.val.length then
    update fun store => store.dropPartial request.hexDigest
    throw (readbackFailure request readback)
  else pure ⟨⟩

/-- `os.replace(partial_path, paths.object)`. -/
def replacePartial (hexDigest : Text) : Action PUnit :=
  .write (fun store => store.publish hexDigest) fun store =>
    if partialName hexDigest ∈ store.incoming then .ret ⟨⟩
    else .raise absentFile

/-- `_write_descriptor_and_receipt`. -/
def writeDescriptorAndReceipt (request : IngestRequest) :
    Action IngestOutcome := do
  let (receipt, receiptId) ← compute
    (buildIngestReceipt request.digest request.sizeBytes true true true
      request.created)
  let descriptor ← compute
    (buildObjectDescriptor request.digest request.sizeBytes
      request.mediaType request.created (some receiptId))
  let descriptorData ← compute (dumps (.obj descriptor))
  update fun store => store.putDescriptor request.hexDigest descriptorData
  let receiptData ← compute (dumps (.obj receipt))
  update fun store => store.putReceipt receiptId receiptData
  pure
    { digest := request.digest
      sizeBytes := request.sizeBytes
      descriptor := descriptor
      receipt := receipt
      receiptId := receiptId
      deduplicated := false }

/-- The checks of `ingest` before it looks at the store. -/
def checkRequest (request : IngestRequest) : Except PyError PUnit := do
  validateInputs request.mediaType request.created
  requireSafeHexDigest request.hexDigest

/-- `ingest`. -/
def ingest (request : IngestRequest) : Action IngestOutcome := do
  compute (checkRequest request)
  let published ← observe fun store => store.hasObject request.hexDigest
  if published then dedupOutcome request
  else
    compute (consultHook request)
    writePartialAndVerify request
    let published ← observe fun store => store.hasObject request.hexDigest
    if published then
      update fun store => store.dropPartial request.hexDigest
      dedupOutcome request
    else
      replacePartial request.hexDigest
      writeDescriptorAndReceipt request

/-! ## Recovery -/

/-- `PartialEntry`. -/
structure PartialEntry where
  name : Text
  digestHint : Text
  sizeBytes : Int
  published : Bool
  deriving DecidableEq

/-- The digest in the name of a partial file. -/
def digestHint (name : Text) : Option Text :=
  if (text "partial-").isPrefixOf name ∧ (text ".tmp").isSuffixOf name then
    let hexPart := (name.drop 8).take (name.length - 4 - 8)
    if hexPart.length = 64 ∧ hexPart.all CodePoint.isLowerHex = true then
      some hexPart
    else none
  else none

/-- One file in `recover_partials`. -/
def Store.partialEntry (store : Store) (file : Text × Bytes) :
    PartialEntry :=
  match digestHint file.1 with
  | none => ⟨file.1, [], file.2.length, false⟩
  | some hexPart =>
      ⟨file.1, digestOf hexPart, file.2.length, store.hasObject hexPart⟩

/-- The files of a directory in the order of their names. -/
def sortedFiles {κ : Type} [LinearOrder κ] (directory : Directory κ Bytes) :
    List (κ × Bytes) :=
  (directory.entries.map fun entry => (entry.1, entry.2)).insertionSort
    fun left right => left.1 ≤ right.1

/-- `recover_partials`. -/
def recoverPartials : Action (List PartialEntry) :=
  observe fun store =>
    (sortedFiles store.incoming).map store.partialEntry

/-! ## Accepted requests -/

theorem asContractError_eq_ok
    {α : Type} {result : Except PyError α} {value : α} :
    asContractError result = .ok value ↔ result = .ok value := by
  cases result with
  | ok _ => rfl
  | error error =>
      rw [asContractError]
      split_ifs <;> simp

/-- A request whose arguments are accepted. -/
structure Accepted (request : IngestRequest) : Prop where
  fields : RecordFields request.digest request.sizeBytes request.created
  media : validateMediaType (text "media_type") (.str request.mediaType) =
    .ok request.mediaType

theorem isObjectId_digestOf_sha256 (data : Bytes) :
    isObjectId (digestOf (sha256 data)) = true :=
  isObjectId_sha256 data

theorem writable_length (data : SourceBytes) :
    Writable (.int (data.val.length : Int)) := by
  have small : (data.val.length : Int).natAbs < 10 ^ 19 := by
    have word := data.property
    simp only [Int.natAbs_natCast]
    omega
  have short := decimalText_length_le (by omega) small
  rw [Writable, intMaxStrDigits]
  omega

/-- `ingest` goes on exactly with the requests that it accepts. -/
theorem checkRequest_eq_ok {request : IngestRequest} :
    checkRequest request = .ok ⟨⟩ ↔ Accepted request := by
  obtain ⟨long, hex⟩ := sha256_hex request.sourceBytes.val
  simp only [checkRequest, validateInputs, requireSafeHexDigest,
    bind_eq_ok_iff, asContractError_eq_ok, pure_eq_ok_iff,
    refuseIf_eq_ok_iff, not_not]
  constructor
  · rintro ⟨_, ⟨media, isMedia, created, isCreated, -⟩, -⟩
    obtain ⟨rfl, -, -⟩ := validateTimestamp_eq_ok isCreated
    refine ⟨⟨isObjectId_digestOf_sha256 _, Int.natCast_nonneg _,
      writable_length request.sourceBytes, isCreated⟩, ?_⟩
    exact validateMediaType_str isMedia _
  · intro accepted
    exact ⟨⟨⟩, ⟨_, accepted.media, _, accepted.fields.created_valid,
      trivial⟩, long, List.all_eq_true.mpr hex⟩

/-- A request that is not accepted is refused before the store is read. -/
theorem checkRequest_of_not_accepted
    {request : IngestRequest} (refused : ¬ Accepted request) :
    ∃ error, checkRequest request = .error error := by
  cases checked : checkRequest request with
  | error error => exact ⟨error, rfl⟩
  | ok _ => exact absurd (checkRequest_eq_ok.mp checked) refused

/-- The records that an accepted request writes. -/
theorem writeDescriptorAndReceipt_eq
    {request : IngestRequest} (accepted : Accepted request) :
    ∃ outcome descriptorData receiptData,
      writeDescriptorAndReceipt request = (do
        update fun store =>
          store.putDescriptor request.hexDigest descriptorData
        update fun store => store.putReceipt outcome.receiptId receiptData
        pure outcome) ∧
      outcome.digest = request.digest ∧ outcome.deduplicated = false ∧
      Describes descriptorData request.digest request.sizeBytes
        (some outcome.receiptId) ∧
      Attests receiptData outcome.receiptId request.digest
        request.sizeBytes := by
  obtain ⟨receiptId, receiptData, builtReceipt, shaped, dumpedReceipt,
    attests⟩ := buildIngestReceipt_eq accepted.fields
  obtain ⟨descriptorData, builtDescriptor, dumpedDescriptor,
    describes⟩ := buildObjectDescriptor_eq accepted.fields accepted.media
      (some receiptId) (by simpa using shaped)
  refine ⟨⟨request.digest, request.sizeBytes,
      descriptorMembers request.digest request.sizeBytes
        request.mediaType request.created (some receiptId),
      receiptMembers request.digest request.sizeBytes request.created
        receiptId, receiptId, false⟩,
    descriptorData, receiptData, ?_, rfl, rfl, describes, attests⟩
  rw [writeDescriptorAndReceipt, builtReceipt, Program.compute_ok_bind]
  simp only [builtDescriptor, Program.compute_ok_bind, dumpedDescriptor,
    dumpedReceipt]

theorem freshDescriptor_eq
    {request : IngestRequest} (accepted : Accepted request) :
    ∃ descriptor, freshDescriptor request = .ok descriptor ∧
      ingestReceiptIdOf descriptor = [] := by
  obtain ⟨_, built, -, -⟩ := buildObjectDescriptor_eq accepted.fields
    accepted.media none (by simp)
  exact ⟨_, built, rfl⟩

theorem syntheticReceipt_eq
    {request : IngestRequest} (accepted : Accepted request)
    (receiptId : Text) :
    ∃ receipt, syntheticReceipt request receiptId = .ok receipt := by
  rw [syntheticReceipt]
  split_ifs
  · exact ⟨_, rfl⟩
  · obtain ⟨_, _, built, -⟩ := buildIngestReceipt_eq accepted.fields
    rw [built]
    exact ⟨_, rfl⟩

/-- A descriptor that cannot be read makes `ingest` build a fresh one. -/
theorem unreadable_of_readDescriptor
    {data : Bytes} {error : PyError}
    (failed : readDescriptor data = .error error) :
    unreadable error = true := by
  have raises : RaisesOnly (fun error => unreadable error = true)
      (readDescriptor data) := by
    refine raisesOnly_bind ?_ fun value _ => ?_
    · rw [readJson]
      split
      · exact raisesOnly_error rfl
      · split
        · exact raisesOnly_ok _
        · exact raisesOnly_error rfl
        · exact raisesOnly_error rfl
    · intro error raised
      have contract : error.kind.isContractError = true :=
        raisesOnly_validateObjectDescriptor value error raised
      simp [unreadable, ErrorKind.isValueError, contract]
  exact raises error failed

end ScientificResourceLab.Cas
