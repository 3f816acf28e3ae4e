import ScientificResourceLab.Contracts.Canonical
import ScientificResourceLab.Contracts.Timestamps
import ScientificResourceLab.Python.JsonOrder
import ScientificResourceLab.Python.Printing

/-!
# Descriptors and receipts of the content-addressed store

The two records of `srl.cas.descriptors`, with the field validators they use
from `srl.contracts`.  A dict is the list of its members.  A record that was
built is written by `dumps` and read again by `json.loads` and its validator;
`Describes` and `Attests` say what a file holds in the terms of the reader,
and the last section shows that a written record is read back as such.
-/

namespace ScientificResourceLab.Cas

open Python Contracts Steps

/-- The members of a JSON object. -/
abbrev Members := List (Text × Json)

/-! ## Field validators -/

/--
A string of the shape `sha256:` and 64 lowercase hexadecimal digits; the
digest of an object and the id of a receipt differ in the class of the error.
-/
def validateHashField (kind : ErrorKind) (field : Text) :
    Json → Except PyError Text
  | .str value =>
      if isObjectId value then .ok value
      else
        .error ⟨kind, text "field " ++ quoted field ++ text "=" ++
          quoted value ++ text " must match '^sha256:[0-9a-f]\x7b64\x7d$' " ++
          text "(sha256 + 64 lowercase hex)"⟩
  | other =>
      .error ⟨kind, text "field " ++ quoted field ++
        text " must be a string, got " ++ typeName other⟩

/-- `validate_digest`. -/
def validateDigest (value : Json) : Except PyError Text :=
  validateHashField .artifactRefError (text "digest") value

/-- `_validate_receipt_id`. -/
def validateReceiptId (field : Text) (value : Json) : Except PyError Text :=
  validateHashField .descriptorError field value

/-- `validate_integer_byte_count`. -/
def validateIntegerByteCount (field : Text) : Json → Except PyError Int
  | .int value =>
      if value < 0 then
        .error ⟨.numericContractError, text "byte-count field " ++
          quoted field ++ text " must be >= 0, got " ++ intText value⟩
      else .ok value
  | other =>
      .error ⟨.numericContractError, text "byte-count field " ++
        quoted field ++ text " must be an int, got " ++ typeName other⟩

/-- A code point of either half of a media type. -/
def isMediaPoint (point : CodePoint) : Bool :=
  CodePoint.isDigit point || (65 ≤ point.val && point.val ≤ 90) ||
    (97 ≤ point.val && point.val ≤ 122) ||
    (text "!#$&^_.+-").contains point

/-- `type/subtype`, matched in full. -/
def isMediaType (value : Text) : Bool :=
  let first := value.takeWhile (· ≠ codePoint '/')
  match value.dropWhile (· ≠ codePoint '/') with
  | _ :: second =>
      first ≠ [] && first.all isMediaPoint &&
        second ≠ [] && second.all isMediaPoint
  | [] => false

def emptyStringError (kind : ErrorKind) (field : Text) (value : Json) :
    PyError :=
  ⟨kind, text "field " ++ quoted field ++
    text " must be a non-empty string, got " ++ typeName value⟩

/-- `validate_media_type`. -/
def validateMediaType (field : Text) (value : Json) : Except PyError Text :=
  match value with
  | .str media =>
      if media = [] then
        .error (emptyStringError .artifactRefError field value)
      else if isMediaType media then .ok media
      else
        .error ⟨.artifactRefError, text "field " ++ quoted field ++
          text "=" ++ quoted media ++
          text " must be a 'type/subtype' media type"⟩
  | _ => .error (emptyStringError .artifactRefError field value)

/-- `_require_str`. -/
def requireStr (field : Text) (value : Json) : Except PyError Text :=
  match value with
  | .str string =>
      if string = [] then
        .error (emptyStringError .descriptorError field value)
      else .ok string
  | _ => .error (emptyStringError .descriptorError field value)

/-- A flag is a `bool` and nothing else. -/
def requireFlag (field : Text) : Json → Except PyError Bool
  | .bool flag => .ok flag
  | other =>
      .error ⟨.descriptorError, text "field " ++ quoted field ++
        text " must be a bool, got " ++ typeName other⟩

/-- `except ContractError as exc: raise DescriptorError(str(exc))`. -/
def asDescriptorError {α : Type} :
    Except PyError α → Except PyError α
  | .ok value => .ok value
  | .error error =>
      if error.kind.isContractError then
        .error ⟨.descriptorError, error.message⟩
      else .error error

/-! ## Records -/

/-- `OBJECT_DESCRIPTOR_SCHEMA_VERSION`. -/
def objectDescriptorSchemaVersion : Text :=
  text "ObjectDescriptor/v1"

/-- `INGEST_RECEIPT_SCHEMA_VERSION`. -/
def ingestReceiptSchemaVersion : Text :=
  text "IngestReceipt/v1"

/-- A receipt id, or `None`. -/
def validateOptionalReceiptId (value : Json) : Except PyError PUnit :=
  match value with
  | .null => .ok ⟨⟩
  | other => do
      let _ ← validateReceiptId (text "ingest_receipt_id") other
      pure ⟨⟩

/-- The dict that `build_object_descriptor` returns. -/
def descriptorMembers (digest : Text) (sizeBytes : Int)
    (mediaType createdUtc : Text) (ingestReceiptId : Option Text) :
    Members :=
  [(text "schema_version", .str objectDescriptorSchemaVersion),
    (text "digest", .str digest),
    (text "size_bytes", .int sizeBytes),
    (text "media_type", .str mediaType),
    (text "created_utc", .str createdUtc),
    (text "ingest_receipt_id", optionalText ingestReceiptId)]

/-- `build_object_descriptor`. -/
def buildObjectDescriptor (digest : Text) (sizeBytes : Int)
    (mediaType createdUtc : Text) (ingestReceiptId : Option Text) :
    Except PyError Members := do
  let _ ← validateDigest (.str digest)
  let _ ← asDescriptorError
    (validateIntegerByteCount (text "size_bytes") (.int sizeBytes))
  let _ ← asDescriptorError
    (validateMediaType (text "media_type") (.str mediaType))
  let _ ← asDescriptorError (validateTimestamp createdUtc)
  validateOptionalReceiptId (optionalText ingestReceiptId)
  pure (descriptorMembers digest sizeBytes mediaType createdUtc
    ingestReceiptId)

/-- The receipt without its id. -/
def receiptSeed (digest : Text) (sizeBytes : Int)
    (sourceHashVerified readbackHashVerified fsynced : Bool)
    (createdUtc : Text) : Members :=
  [(text "schema_version", .str ingestReceiptSchemaVersion),
    (text "digest", .str digest),
    (text "size_bytes", .int sizeBytes),
    (text "source_hash_verified", .bool sourceHashVerified),
    (text "readback_hash_verified", .bool readbackHashVerified),
    (text "fsynced", .bool fsynced),
    (text "created_utc", .str createdUtc)]

/-- `build_ingest_receipt`. -/
def buildIngestReceipt (digest : Text) (sizeBytes : Int)
    (sourceHashVerified readbackHashVerified fsynced : Bool)
    (createdUtc : Text) : Except PyError (Members × Text) := do
  let _ ← validateDigest (.str digest)
  let _ ← asDescriptorError
    (validateIntegerByteCount (text "size_bytes") (.int sizeBytes))
  let _ ← asDescriptorError (validateTimestamp createdUtc)
  let seed := receiptSeed digest sizeBytes sourceHashVerified
    readbackHashVerified fsynced createdUtc
  let data ← dumps (.obj seed)
  let receiptId := objectIdPrefix ++ sha256 data
  pure (seed ++ [(text "receipt_id", .str receiptId)], receiptId)

/-- `value[key]` after the keys were checked. -/
def valueAt (members : Members) (key : Text) : Json :=
  (Json.lookup key members).getD .null

/-- The check of `schema_version` in both records. -/
def checkSchemaVersion (name schemaVersion : Text) (value : Json) :
    Except PyError PUnit :=
  let error : PyError := ⟨.descriptorError,
    name ++ text ".schema_version is " ++ reprJson value ++
      text ", expected " ++ quoted schemaVersion⟩
  match value with
  | .str version => refuseIf (version ≠ schemaVersion) error
  | _ => .error error

/-- The strict key set and the schema version of a record. -/
def checkRecord (name schemaVersion : Text) (keys : List Text) :
    Json → Except PyError Members
  | .obj members => do
      let actual := members.map Prod.fst
      let missing := (keys.filter (· ∉ actual)).insertionSort (· ≤ ·)
      refuseIf (missing ≠ []) ⟨.descriptorError,
        name ++ text " missing required key(s): " ++ quotedList missing⟩
      let extra := (actual.filter (· ∉ keys)).insertionSort (· ≤ ·)
      refuseIf (extra ≠ []) ⟨.descriptorError,
        name ++ text " has unexpected key(s): " ++ quotedList extra⟩
      checkSchemaVersion name schemaVersion
        (valueAt members (text "schema_version"))
      pure members
  | other =>
      throw ⟨.descriptorError,
        name ++ text " must be a JSON object, got " ++ typeName other⟩

/-- `_OBJECT_DESCRIPTOR_KEYS`. -/
def objectDescriptorKeys : List Text :=
  [text "schema_version", text "digest", text "size_bytes",
    text "media_type", text "created_utc", text "ingest_receipt_id"]

/-- `_INGEST_RECEIPT_KEYS`. -/
def ingestReceiptKeys : List Text :=
  [text "schema_version", text "receipt_id", text "digest",
    text "size_bytes", text "source_hash_verified",
    text "readback_hash_verified", text "fsynced", text "created_utc"]

/-- The check of `created_utc` in both records. -/
def validateCreatedUtc (value : Json) : Except PyError Text := do
  let created ← requireStr (text "created_utc") value
  asDescriptorError (validateTimestamp created)

/-- `validate_object_descriptor`. -/
def validateObjectDescriptor (value : Json) : Except PyError Members := do
  let members ← checkRecord (text "ObjectDescriptor")
    objectDescriptorSchemaVersion objectDescriptorKeys value
  let _ ← validateDigest (valueAt members (text "digest"))
  let _ ← asDescriptorError (validateIntegerByteCount (text "size_bytes")
    (valueAt members (text "size_bytes")))
  let _ ← asDescriptorError (validateMediaType (text "media_type")
    (valueAt members (text "media_type")))
  let _ ← validateCreatedUtc (valueAt members (text "created_utc"))
  validateOptionalReceiptId (valueAt members (text "ingest_receipt_id"))
  pure members

/-- `validate_ingest_receipt`. -/
def validateIngestReceipt (value : Json) : Except PyError Members := do
  let members ← checkRecord (text "IngestReceipt")
    ingestReceiptSchemaVersion ingestReceiptKeys value
  let _ ← validateReceiptId (text "receipt_id")
    (valueAt members (text "receipt_id"))
  let _ ← validateDigest (valueAt members (text "digest"))
  let _ ← asDescriptorError (validateIntegerByteCount (text "size_bytes")
    (valueAt members (text "size_bytes")))
  let _ ← requireFlag (text "source_hash_verified")
    (valueAt members (text "source_hash_verified"))
  let _ ← requireFlag (text "readback_hash_verified")
    (valueAt members (text "readback_hash_verified"))
  let _ ← requireFlag (text "fsynced") (valueAt members (text "fsynced"))
  let _ ← validateCreatedUtc (valueAt members (text "created_utc"))
  pure members

/-- The receipt with its id stripped. -/
def withoutReceiptId (receipt : Members) : Members :=
  receipt.filter fun member => member.1 ≠ text "receipt_id"

/-- `canonical_receipt_id`. -/
def canonicalReceiptId (receipt : Members) : Except PyError Text := do
  refuseIf (text "receipt_id" ∉ receipt.map Prod.fst)
    (raised .descriptorError "receipt is missing 'receipt_id'")
  let data ← dumps (.obj (withoutReceiptId receipt))
  pure (objectIdPrefix ++ sha256 data)

/-! ## Files -/

/-- `json.loads` of the text of a file. -/
def readJson (data : Bytes) : Except PyError Json :=
  match utf8Decode data with
  | none => .error (raised .unicodeDecodeError "invalid utf-8")
  | some document =>
      match parseText true document with
      | .ok value => .ok value
      | .error .value =>
          .error (raised .valueError
            "Exceeds the limit for integer string conversion")
      | .error _ =>
          .error (raised .jsonDecodeError "document is not valid JSON")

/-- A descriptor file, read and validated. -/
def readDescriptor (data : Bytes) : Except PyError Members := do
  let parsed ← readJson data
  validateObjectDescriptor parsed

/-- A receipt file, read and validated. -/
def readReceipt (data : Bytes) : Except PyError Members := do
  let parsed ← readJson data
  validateIngestReceipt parsed

/-- A file holds a valid descriptor with these fields. -/
def Describes (data : Bytes) (digest : Text) (sizeBytes : Int)
    (ingestReceiptId : Option Text) : Prop :=
  ∃ descriptor, readDescriptor data = .ok descriptor ∧
    valueAt descriptor (text "digest") = .str digest ∧
    valueAt descriptor (text "size_bytes") = .int sizeBytes ∧
    valueAt descriptor (text "ingest_receipt_id") =
      optionalText ingestReceiptId

/-- A file holds a valid receipt with these fields and its own id. -/
def Attests (data : Bytes) (receiptId digest : Text) (sizeBytes : Int) :
    Prop :=
  ∃ receipt, readReceipt data = .ok receipt ∧
    valueAt receipt (text "receipt_id") = .str receiptId ∧
    valueAt receipt (text "digest") = .str digest ∧
    valueAt receipt (text "size_bytes") = .int sizeBytes ∧
    canonicalReceiptId receipt = .ok receiptId

/-! ## What the validators accept -/

theorem validateHashField_eq_ok
    {kind : ErrorKind} {field : Text} {value : Json} {hash : Text} :
    validateHashField kind field value = .ok hash ↔
      value = .str hash ∧ isObjectId hash = true := by
  cases value with
  | str string =>
      rw [validateHashField]
      split_ifs with shaped
      · constructor
        · rintro ⟨rfl⟩
          exact ⟨rfl, shaped⟩
        · rintro ⟨⟨rfl⟩, -⟩
          rfl
      · constructor
        · rintro ⟨⟩
        · rintro ⟨⟨rfl⟩, isShaped⟩
          exact absurd isShaped shaped
  | null | bool _ | int _ | float _ | arr _ | obj _ =>
      simp [validateHashField]

theorem asDescriptorError_eq_ok
    {α : Type} {result : Except PyError α} {value : α} :
    asDescriptorError result = .ok value ↔ result = .ok value := by
  cases result with
  | ok _ => rfl
  | error error =>
      rw [asDescriptorError]
      split_ifs <;> simp

theorem validateIntegerByteCount_eq_ok
    {field : Text} {value : Json} {count : Int} :
    validateIntegerByteCount field value = .ok count ↔
      value = .int count ∧ 0 ≤ count := by
  cases value with
  | int number =>
      rw [validateIntegerByteCount]
      split_ifs with negative
      · constructor
        · rintro ⟨⟩
        · rintro ⟨⟨rfl⟩, natural⟩
          omega
      · constructor
        · rintro ⟨rfl⟩
          exact ⟨rfl, by omega⟩
        · rintro ⟨⟨rfl⟩, -⟩
          rfl
  | null | bool _ | str _ | float _ | arr _ | obj _ =>
      simp [validateIntegerByteCount]

theorem validateMediaType_str
    {field mediaType media : Text}
    (accepted : validateMediaType field (.str mediaType) = .ok media) :
    ∀ other, validateMediaType other (.str mediaType) = .ok mediaType := by
  intro other
  simp only [validateMediaType] at accepted ⊢
  split_ifs at accepted with empty shaped
  rw [if_neg empty, if_pos shaped]

theorem isMediaPoint_scalar
    {point : CodePoint} (isPoint : isMediaPoint point = true) :
    CodePoint.isSurrogate point = false := by
  simp only [isMediaPoint, Bool.or_eq_true, Bool.and_eq_true,
    decide_eq_true_eq, List.contains_iff_mem] at isPoint
  rcases isPoint with ((isDigit | upper) | lower) | special
  · exact isDigit_scalar isDigit
  · simp only [CodePoint.isSurrogate, Bool.and_eq_false_imp,
      decide_eq_true_eq, decide_eq_false_iff_not]
    omega
  · simp only [CodePoint.isSurrogate, Bool.and_eq_false_imp,
      decide_eq_true_eq, decide_eq_false_iff_not]
    omega
  · exact scalars_text _ point special

theorem scalars_of_validateMediaType
    {field mediaType media : Text}
    (accepted : validateMediaType field (.str mediaType) = .ok media) :
    Scalars mediaType := by
  simp only [validateMediaType] at accepted
  split_ifs at accepted with empty shaped
  rw [isMediaType] at shaped
  rw [← List.takeWhile_append_dropWhile
    (p := fun point => decide (point ≠ codePoint '/')) (l := mediaType)]
  cases rest : mediaType.dropWhile (fun point =>
      decide (point ≠ codePoint '/')) with
  | nil =>
      rw [rest] at shaped
      cases shaped
  | cons slash second =>
      rw [rest] at shaped
      simp only [Bool.and_eq_true, List.all_eq_true] at shaped
      obtain ⟨⟨⟨-, first⟩, -⟩, second⟩ := shaped
      have isSlash : slash = codePoint '/' := by
        have head := List.head_dropWhile_not
          (fun point => decide (point ≠ codePoint '/')) (l := mediaType)
          (by rw [rest]; exact List.cons_ne_nil _ _)
        simp only [rest, List.head_cons] at head
        simpa using head
      subst isSlash
      refine scalars_append.mpr ⟨fun point member =>
        isMediaPoint_scalar (first point member), ?_⟩
      exact scalars_cons.mpr ⟨codePoint_scalar _, fun point member =>
        isMediaPoint_scalar (second point member)⟩

/-- A record that passed its key check is the dict itself. -/
theorem checkRecord_eq_ok
    {name schemaVersion : Text} {keys : List Text} {value : Json}
    {members : Members}
    (accepted : checkRecord name schemaVersion keys value = .ok members) :
    value = .obj members := by
  cases value with
  | obj stored =>
      simp only [checkRecord, bind_eq_ok_iff, pure_eq_ok_iff] at accepted
      obtain ⟨_, -, _, -, _, -, rfl⟩ := accepted
      rfl
  | null | bool _ | int _ | float _ | str _ | arr _ =>
      cases accepted

/-- A dict with the keys of a record, in any order, passes. -/
theorem checkRecord_of_perm
    {name schemaVersion : Text} {keys : List Text} {members built : Members}
    (same : built.Perm members) (keysOf : (built.map Prod.fst).Perm keys)
    (distinct : keys.Nodup)
    (version : valueAt built (text "schema_version") =
      .str schemaVersion) :
    checkRecord name schemaVersion keys (.obj members) = .ok members := by
  have isKey : ∀ key, key ∈ members.map Prod.fst ↔ key ∈ keys :=
    fun key => ((same.map Prod.fst).symm.trans keysOf).mem_iff
  have missing : keys.filter (· ∉ members.map Prod.fst) = [] := by
    rw [List.filter_eq_nil_iff]
    intro key member
    simpa using (isKey key).mpr member
  have extra : (members.map Prod.fst).filter (· ∉ keys) = [] := by
    rw [List.filter_eq_nil_iff]
    intro key member
    simpa using (isKey key).mp member
  have versionOf : valueAt members (text "schema_version") =
      .str schemaVersion := by
    rw [← version, valueAt, valueAt,
      Json.lookup_perm same (keysOf.nodup_iff.mpr distinct)]
  simp only [checkRecord, missing, extra, versionOf, checkSchemaVersion,
    bind_eq_ok_iff, pure_eq_ok_iff, refuseIf_eq_ok_iff]
  exact ⟨⟨⟩, by simp, ⟨⟩, by simp, ⟨⟩, by simp, trivial⟩

theorem validateOptionalReceiptId_eq_ok
    {value : Json} {unit_ : PUnit}
    (accepted : validateOptionalReceiptId value = .ok unit_) :
    ∃ ingestReceiptId, value = optionalText ingestReceiptId ∧
      ∀ receiptId ∈ ingestReceiptId, isObjectId receiptId = true := by
  cases value with
  | null => exact ⟨none, rfl, by simp⟩
  | str string =>
      simp only [validateOptionalReceiptId, validateReceiptId,
        bind_eq_ok_iff, validateHashField_eq_ok] at accepted
      obtain ⟨receiptId, ⟨isReceipt, shaped⟩, -⟩ := accepted
      exact ⟨some receiptId, isReceipt, by simpa using shaped⟩
  | bool _ | int _ | float _ | arr _ | obj _ => cases accepted

/-- The fields of an accepted descriptor. -/
theorem validateObjectDescriptor_eq_ok
    {value : Json} {descriptor : Members}
    (accepted : validateObjectDescriptor value = .ok descriptor) :
    value = .obj descriptor ∧
    (∃ digest, valueAt descriptor (text "digest") = .str digest ∧
      isObjectId digest = true) ∧
    (∃ sizeBytes, valueAt descriptor (text "size_bytes") =
      .int sizeBytes) ∧
    ∃ ingestReceiptId,
      valueAt descriptor (text "ingest_receipt_id") =
        optionalText ingestReceiptId ∧
      ∀ receiptId ∈ ingestReceiptId, isObjectId receiptId = true := by
  simp only [validateObjectDescriptor, bind_eq_ok_iff, pure_eq_ok_iff,
    asDescriptorError_eq_ok, validateDigest, validateHashField_eq_ok,
    validateIntegerByteCount_eq_ok] at accepted
  obtain ⟨members, isRecord, digest, ⟨isDigest, shaped⟩, sizeBytes,
    ⟨isSize, -⟩, _, -, _, -, _, hasReceipt, rfl⟩ := accepted
  refine ⟨checkRecord_eq_ok isRecord, ⟨digest, isDigest, shaped⟩,
    ⟨sizeBytes, isSize⟩, ?_⟩
  exact validateOptionalReceiptId_eq_ok hasReceipt

/-- The fields of an accepted receipt. -/
theorem validateIngestReceipt_eq_ok
    {value : Json} {receipt : Members}
    (accepted : validateIngestReceipt value = .ok receipt) :
    value = .obj receipt ∧
    (∃ receiptId, valueAt receipt (text "receipt_id") = .str receiptId ∧
      isObjectId receiptId = true) ∧
    (∃ digest, valueAt receipt (text "digest") = .str digest) ∧
    ∃ sizeBytes, valueAt receipt (text "size_bytes") = .int sizeBytes := by
  simp only [validateIngestReceipt, bind_eq_ok_iff, pure_eq_ok_iff,
    asDescriptorError_eq_ok, validateDigest, validateReceiptId,
    validateHashField_eq_ok, validateIntegerByteCount_eq_ok] at accepted
  obtain ⟨members, isRecord, receiptId, ⟨isReceipt, shaped⟩, digest,
    ⟨isDigest, -⟩, sizeBytes, ⟨isSize, -⟩, _, -, _, -, _, -, _, -, rfl⟩ :=
    accepted
  exact ⟨checkRecord_eq_ok isRecord, ⟨receiptId, isReceipt, shaped⟩,
    ⟨digest, isDigest⟩, ⟨sizeBytes, isSize⟩⟩

/-! ## What the readers raise -/

theorem raisesOnly_validateHashField
    {kind : ErrorKind} (isContract : kind.isContractError = true)
    (field : Text) (value : Json) :
    RaisesOnly ContractFailure (validateHashField kind field value) := by
  cases value with
  | str string =>
      rw [validateHashField]
      split_ifs
      · exact raisesOnly_ok _
      · exact raisesOnly_error isContract
  | null | bool _ | int _ | float _ | arr _ | obj _ =>
      exact raisesOnly_error isContract

theorem raisesOnly_asDescriptorError
    {α : Type} {result : Except PyError α}
    (contract : RaisesOnly ContractFailure result) :
    RaisesOnly ContractFailure (asDescriptorError result) := by
  cases result with
  | ok value => exact raisesOnly_ok _
  | error error =>
      have isContract : error.kind.isContractError = true :=
        contract error rfl
      rw [asDescriptorError, if_pos isContract]
      exact raisesOnly_error rfl

theorem raisesOnly_validateIntegerByteCount (field : Text) (value : Json) :
    RaisesOnly ContractFailure (validateIntegerByteCount field value) := by
  cases value with
  | int number =>
      rw [validateIntegerByteCount]
      split_ifs
      · exact raisesOnly_error rfl
      · exact raisesOnly_ok _
  | null | bool _ | str _ | float _ | arr _ | obj _ =>
      exact raisesOnly_error rfl

theorem raisesOnly_validateMediaType (field : Text) (value : Json) :
    RaisesOnly ContractFailure (validateMediaType field value) := by
  cases value with
  | str media =>
      simp only [validateMediaType]
      split_ifs
      · exact raisesOnly_error rfl
      · exact raisesOnly_ok _
      · exact raisesOnly_error rfl
  | null | bool _ | int _ | float _ | arr _ | obj _ =>
      exact raisesOnly_error rfl

theorem raisesOnly_validateTimestamp (value : Text) :
    RaisesOnly ContractFailure (validateTimestamp value) := by
  rw [validateTimestamp]
  split
  · split_ifs
    · refine raisesOnly_bind ?_ fun _ _ => raisesOnly_ok _
      exact raisesOnly_bind (raisesOnly_refuseIf rfl)
        fun _ _ => raisesOnly_refuseIf rfl
    · exact raisesOnly_error rfl
  · exact raisesOnly_error rfl

theorem raisesOnly_validateCreatedUtc (value : Json) :
    RaisesOnly ContractFailure (validateCreatedUtc value) := by
  refine raisesOnly_bind ?_ fun created _ =>
    raisesOnly_asDescriptorError (raisesOnly_validateTimestamp created)
  cases value with
  | str string =>
      simp only [requireStr]
      split_ifs
      · exact raisesOnly_error rfl
      · exact raisesOnly_ok _
  | null | bool _ | int _ | float _ | arr _ | obj _ =>
      exact raisesOnly_error rfl

theorem raisesOnly_validateOptionalReceiptId (value : Json) :
    RaisesOnly ContractFailure (validateOptionalReceiptId value) := by
  cases value with
  | null => exact raisesOnly_ok _
  | str _ | bool _ | int _ | float _ | arr _ | obj _ =>
      exact raisesOnly_bind (raisesOnly_validateHashField rfl _ _)
        fun _ _ => raisesOnly_ok _

theorem raisesOnly_checkSchemaVersion
    (name schemaVersion : Text) (value : Json) :
    RaisesOnly ContractFailure
      (checkSchemaVersion name schemaVersion value) := by
  cases value with
  | str version => exact raisesOnly_refuseIf rfl
  | null | bool _ | int _ | float _ | arr _ | obj _ =>
      exact raisesOnly_error rfl

theorem raisesOnly_checkRecord
    (name schemaVersion : Text) (keys : List Text) (value : Json) :
    RaisesOnly ContractFailure
      (checkRecord name schemaVersion keys value) := by
  cases value with
  | obj members =>
      exact raisesOnly_bind (raisesOnly_refuseIf rfl) fun _ _ =>
        raisesOnly_bind (raisesOnly_refuseIf rfl) fun _ _ =>
        raisesOnly_bind (raisesOnly_checkSchemaVersion _ _ _)
          fun _ _ => raisesOnly_ok _
  | null | bool _ | int _ | float _ | str _ | arr _ =>
      exact raisesOnly_error rfl

/-- The descriptor validator raises contract errors only. -/
theorem raisesOnly_validateObjectDescriptor (value : Json) :
    RaisesOnly ContractFailure (validateObjectDescriptor value) :=
  raisesOnly_bind (raisesOnly_checkRecord _ _ _ _) fun members _ =>
    raisesOnly_bind (raisesOnly_validateHashField rfl _ _) fun _ _ =>
    raisesOnly_bind (raisesOnly_asDescriptorError
      (raisesOnly_validateIntegerByteCount _ _)) fun _ _ =>
    raisesOnly_bind (raisesOnly_asDescriptorError
      (raisesOnly_validateMediaType _ _)) fun _ _ =>
    raisesOnly_bind (raisesOnly_validateCreatedUtc _) fun _ _ =>
    raisesOnly_bind (raisesOnly_validateOptionalReceiptId _) fun _ _ =>
    raisesOnly_ok members

/-! ## Written records are read back -/

theorem valueAt_perm
    {left right : Members} (same : left.Perm right)
    (distinct : (left.map Prod.fst).Nodup) (key : Text) :
    valueAt left key = valueAt right key := by
  rw [valueAt, valueAt, Json.lookup_perm same distinct]

/-- A written value is read back in the order of its keys. -/
theorem readJson_dumps_sorted
    {value : Json} (distinct : value.Distinct) {data : Bytes}
    (dumped : dumps value = .ok data) :
    readJson data = .ok value.sorted := by
  obtain ⟨document, written, encoded⟩ := dumps_eq_ok_iff.mp dumped
  simp only [readJson, utf8Decode_utf8Encode encoded,
    parseText_dumpText_sorted distinct written (.inr rfl) true]

/-- A written flat dict is read back in the order of its keys. -/
theorem readJson_dumps
    {members : Members} (distinct : (members.map Prod.fst).Nodup)
    (flat : ∀ member ∈ members, Flat member.2) {data : Bytes}
    (dumped : dumps (.obj members) = .ok data) :
    readJson data = .ok (.obj (members.insertionSort KeyLe)) := by
  rw [← sorted_of_flat flat]
  exact readJson_dumps_sorted (distinct_of_flat distinct flat) dumped

/-- Arguments that the record builders accept. -/
structure RecordFields (digest : Text) (sizeBytes : Int)
    (createdUtc : Text) : Prop where
  digest_shaped : isObjectId digest = true
  size_natural : 0 ≤ sizeBytes
  size_writable : Writable (.int sizeBytes)
  created_valid : validateTimestamp createdUtc = .ok createdUtc

section

variable {digest createdUtc mediaType receiptId : Text} {sizeBytes : Int}

theorem validateCreatedUtc_of_valid
    (valid : validateTimestamp createdUtc = .ok createdUtc) :
    validateCreatedUtc (.str createdUtc) = .ok createdUtc := by
  obtain ⟨-, nonempty, -⟩ := validateTimestamp_eq_ok valid
  simp only [validateCreatedUtc, requireStr, if_neg nonempty,
    bind_eq_ok_iff, asDescriptorError_eq_ok]
  exact ⟨createdUtc, rfl, valid⟩

theorem objectDescriptorKeys_nodup : objectDescriptorKeys.Nodup := by
  decide

theorem ingestReceiptKeys_nodup : ingestReceiptKeys.Nodup := by
  decide

theorem flat_optionalText (value : Option Text) :
    Flat (optionalText value) := by
  cases value <;> exact ⟨rfl, trivial⟩

theorem writable_optionalText
    {value : Option Text} (shaped : ∀ id ∈ value, isObjectId id = true) :
    Writable (optionalText value) := by
  cases value with
  | none => trivial
  | some id => exact scalars_of_isObjectId (shaped id rfl)

theorem validateOptionalReceiptId_of_shaped
    {value : Option Text} (shaped : ∀ id ∈ value, isObjectId id = true) :
    validateOptionalReceiptId (optionalText value) = .ok ⟨⟩ := by
  cases value with
  | none => rfl
  | some id =>
      simp only [optionalText, validateOptionalReceiptId,
        validateReceiptId, bind_eq_ok_iff, validateHashField_eq_ok]
      exact ⟨id, ⟨rfl, shaped id rfl⟩, rfl⟩

/-- A descriptor of accepted arguments passes its validator. -/
theorem validateObjectDescriptor_of_fields
    (fields : RecordFields digest sizeBytes createdUtc)
    (media : validateMediaType (text "media_type") (.str mediaType) =
      .ok mediaType)
    {ingestReceiptId : Option Text}
    (shaped : ∀ id ∈ ingestReceiptId, isObjectId id = true)
    {members : Members}
    (same : (descriptorMembers digest sizeBytes mediaType createdUtc
      ingestReceiptId).Perm members) :
    validateObjectDescriptor (.obj members) = .ok members := by
  have value := valueAt_perm same objectDescriptorKeys_nodup
  have digestAt : valueAt members (text "digest") = .str digest :=
    (value _).symm
  have sizeAt : valueAt members (text "size_bytes") = .int sizeBytes :=
    (value _).symm
  have mediaAt : valueAt members (text "media_type") = .str mediaType :=
    (value _).symm
  have createdAt : valueAt members (text "created_utc") =
      .str createdUtc :=
    (value _).symm
  have receiptAt : valueAt members (text "ingest_receipt_id") =
      optionalText ingestReceiptId :=
    (value _).symm
  simp only [validateObjectDescriptor, bind_eq_ok_iff,
    asDescriptorError_eq_ok, validateDigest, validateHashField_eq_ok,
    validateIntegerByteCount_eq_ok, pure_eq_ok_iff]
  refine ⟨members, checkRecord_of_perm same .rfl
      objectDescriptorKeys_nodup rfl,
    digest, ⟨digestAt, fields.digest_shaped⟩,
    sizeBytes, ⟨sizeAt, fields.size_natural⟩,
    mediaType, ?_, createdUtc, ?_, ⟨⟩, ?_, rfl⟩
  · rw [mediaAt, media]
  · rw [createdAt, validateCreatedUtc_of_valid fields.created_valid]
  · rw [receiptAt, validateOptionalReceiptId_of_shaped shaped]

/-- The descriptor that the engine builds, written and read back. -/
theorem buildObjectDescriptor_eq
    (fields : RecordFields digest sizeBytes createdUtc)
    (media : validateMediaType (text "media_type") (.str mediaType) =
      .ok mediaType)
    (ingestReceiptId : Option Text)
    (shaped : ∀ id ∈ ingestReceiptId, isObjectId id = true) :
    ∃ data,
      buildObjectDescriptor digest sizeBytes mediaType createdUtc
        ingestReceiptId =
        .ok (descriptorMembers digest sizeBytes mediaType createdUtc
          ingestReceiptId) ∧
      dumps (.obj (descriptorMembers digest sizeBytes mediaType createdUtc
        ingestReceiptId)) = .ok data ∧
      Describes data digest sizeBytes ingestReceiptId := by
  obtain ⟨-, -, created⟩ := validateTimestamp_eq_ok fields.created_valid
  have writable : Writable (.obj (descriptorMembers digest sizeBytes
      mediaType createdUtc ingestReceiptId)) := by
    simp only [descriptorMembers, Writable, WritableMembers, scalars_text,
      scalars_of_isObjectId fields.digest_shaped,
      scalars_of_validateMediaType media, created,
      objectDescriptorSchemaVersion, writable_optionalText shaped,
      true_and, and_true]
    exact fields.size_writable
  obtain ⟨data, dumped⟩ := dumps_of_writable writable
  have sorted := (List.perm_insertionSort KeyLe (descriptorMembers digest
    sizeBytes mediaType createdUtc ingestReceiptId)).symm
  have value := valueAt_perm sorted objectDescriptorKeys_nodup
  refine ⟨data, ?_, dumped,
    (descriptorMembers digest sizeBytes mediaType createdUtc
      ingestReceiptId).insertionSort KeyLe, ?_, (value _).symm,
    (value _).symm, (value _).symm⟩
  · simp only [buildObjectDescriptor, bind_eq_ok_iff,
      asDescriptorError_eq_ok, validateDigest, validateHashField_eq_ok,
      validateIntegerByteCount_eq_ok, pure_eq_ok_iff]
    exact ⟨digest, ⟨rfl, fields.digest_shaped⟩, sizeBytes,
      ⟨rfl, fields.size_natural⟩, mediaType, media, createdUtc,
      fields.created_valid, ⟨⟩,
      validateOptionalReceiptId_of_shaped shaped, trivial⟩
  · have distinct : ((descriptorMembers digest sizeBytes mediaType
        createdUtc ingestReceiptId).map Prod.fst).Nodup :=
      objectDescriptorKeys_nodup
    rw [readDescriptor, bind_eq_ok_iff]
    refine ⟨_, readJson_dumps distinct ?_ dumped,
      validateObjectDescriptor_of_fields fields media shaped sorted⟩
    · simp only [descriptorMembers, List.forall_mem_cons]
      exact ⟨⟨rfl, trivial⟩, ⟨rfl, trivial⟩, ⟨rfl, trivial⟩,
        ⟨rfl, trivial⟩, ⟨rfl, trivial⟩, flat_optionalText _, by simp⟩

/-- The dict that `build_ingest_receipt` returns for the engine. -/
def receiptMembers (digest : Text) (sizeBytes : Int) (createdUtc : Text)
    (receiptId : Text) : Members :=
  receiptSeed digest sizeBytes true true true createdUtc ++
    [(text "receipt_id", Json.str receiptId)]

theorem receiptMembers_keys :
    ((receiptMembers digest sizeBytes createdUtc receiptId).map
      Prod.fst).Perm ingestReceiptKeys := by
  simp only [receiptMembers, receiptSeed, List.cons_append,
    List.nil_append, ingestReceiptKeys, List.map_cons, List.map_nil]
  simp -index only [text_ofList]
  decide

theorem receiptMembers_nodup :
    ((receiptMembers digest sizeBytes createdUtc receiptId).map
      Prod.fst).Nodup :=
  receiptMembers_keys.nodup_iff.mpr ingestReceiptKeys_nodup

/-- A receipt of accepted arguments passes its validator. -/
theorem validateIngestReceipt_of_fields
    (fields : RecordFields digest sizeBytes createdUtc)
    (shaped : isObjectId receiptId = true) {members : Members}
    (same : (receiptMembers digest sizeBytes createdUtc receiptId).Perm
      members) :
    validateIngestReceipt (.obj members) = .ok members := by
  have value := valueAt_perm same receiptMembers_nodup
  have receiptAt : valueAt members (text "receipt_id") =
      .str receiptId :=
    (value _).symm
  have digestAt : valueAt members (text "digest") = .str digest :=
    (value _).symm
  have sizeAt : valueAt members (text "size_bytes") = .int sizeBytes :=
    (value _).symm
  have sourceAt : valueAt members (text "source_hash_verified") =
      .bool true :=
    (value _).symm
  have readbackAt : valueAt members (text "readback_hash_verified") =
      .bool true :=
    (value _).symm
  have fsyncedAt : valueAt members (text "fsynced") = .bool true :=
    (value _).symm
  have createdAt : valueAt members (text "created_utc") =
      .str createdUtc :=
    (value _).symm
  simp only [validateIngestReceipt, bind_eq_ok_iff,
    asDescriptorError_eq_ok, validateDigest, validateReceiptId,
    validateHashField_eq_ok, validateIntegerByteCount_eq_ok,
    pure_eq_ok_iff]
  refine ⟨members, checkRecord_of_perm same receiptMembers_keys
      ingestReceiptKeys_nodup rfl,
    receiptId, ⟨receiptAt, shaped⟩, digest,
    ⟨digestAt, fields.digest_shaped⟩, sizeBytes,
    ⟨sizeAt, fields.size_natural⟩, true, ?_, true, ?_, true, ?_,
    createdUtc, ?_, rfl⟩
  · rw [sourceAt, requireFlag]
  · rw [readbackAt, requireFlag]
  · rw [fsyncedAt, requireFlag]
  · rw [createdAt, validateCreatedUtc_of_valid fields.created_valid]

theorem withoutReceiptId_receiptMembers
    (digest : Text) (sizeBytes : Int) (createdUtc receiptId : Text) :
    withoutReceiptId (receiptMembers digest sizeBytes createdUtc
      receiptId) =
      receiptSeed digest sizeBytes true true true createdUtc := by
  have unnamed : text "receipt_id" ∉
      (receiptSeed digest sizeBytes true true true createdUtc).map
        Prod.fst := by
    simp only [receiptSeed, List.map_cons, List.map_nil]
    simp -index only [text_ofList]
    decide
  have kept : withoutReceiptId
      (receiptSeed digest sizeBytes true true true createdUtc) =
        receiptSeed digest sizeBytes true true true createdUtc := by
    rw [withoutReceiptId, List.filter_eq_self]
    intro member isMember
    simp only [ne_eq, decide_not, Bool.not_eq_true', decide_eq_false_iff_not]
    intro isId
    exact unnamed (isId ▸ List.mem_map_of_mem isMember)
  rw [withoutReceiptId] at kept
  rw [receiptMembers, withoutReceiptId, List.filter_append, kept]
  simp

/-- The id of a receipt is recomputed from its body in any order. -/
theorem canonicalReceiptId_of_perm
    {members : Members} {seedData : Bytes}
    (same : (receiptMembers digest sizeBytes createdUtc receiptId).Perm
      members)
    (dumped : dumps (.obj (receiptSeed digest sizeBytes true true true
      createdUtc)) = .ok seedData)
    (isId : objectIdPrefix ++ sha256 seedData = receiptId) :
    canonicalReceiptId members = .ok receiptId := by
  have listed : text "receipt_id" ∈ ingestReceiptKeys := by
    decide
  have present : text "receipt_id" ∈ members.map Prod.fst :=
    (same.map Prod.fst).mem_iff.mp (receiptMembers_keys.mem_iff.mpr listed)
  have stripped : (receiptSeed digest sizeBytes true true true
      createdUtc).Perm (withoutReceiptId members) := by
    have filtered := same.filter fun member =>
      decide (member.1 ≠ text "receipt_id")
    have body := withoutReceiptId_receiptMembers digest sizeBytes
      createdUtc receiptId
    rw [withoutReceiptId] at body
    rwa [body] at filtered
  have distinct : ((receiptSeed digest sizeBytes true true true
      createdUtc).map Prod.fst).Nodup := by
    simp only [receiptSeed, List.map_cons, List.map_nil]
    simp -index only [text_ofList]
    decide
  simp only [canonicalReceiptId, bind_eq_ok_iff, refuseIf_eq_ok_iff,
    pure_eq_ok_iff, not_not]
  refine ⟨⟨⟩, present, seedData, ?_, isId⟩
  rw [← dumps_perm stripped distinct, dumped]

/-- The receipt that the engine builds, written and read back. -/
theorem buildIngestReceipt_eq
    (fields : RecordFields digest sizeBytes createdUtc) :
    ∃ receiptId data,
      buildIngestReceipt digest sizeBytes true true true createdUtc =
        .ok (receiptMembers digest sizeBytes createdUtc receiptId,
          receiptId) ∧
      isObjectId receiptId = true ∧
      dumps (.obj (receiptMembers digest sizeBytes createdUtc
        receiptId)) = .ok data ∧
      Attests data receiptId digest sizeBytes := by
  obtain ⟨-, -, created⟩ := validateTimestamp_eq_ok fields.created_valid
  have seedWritable : WritableMembers
      (receiptSeed digest sizeBytes true true true createdUtc) := by
    simp only [receiptSeed, Writable, WritableMembers, scalars_text,
      scalars_of_isObjectId fields.digest_shaped, created,
      ingestReceiptSchemaVersion, true_and, and_true]
    exact fields.size_writable
  obtain ⟨seedData, seedDumped⟩ : ∃ seedData,
      dumps (.obj (receiptSeed digest sizeBytes true true true
        createdUtc)) = .ok seedData :=
    dumps_of_writable seedWritable
  have shaped := isObjectId_sha256 seedData
  generalize isId : objectIdPrefix ++ sha256 seedData = receiptId at shaped
  have writable : WritableMembers
      (receiptMembers digest sizeBytes createdUtc receiptId) := by
    rw [writableMembers_iff] at seedWritable ⊢
    intro member isMember
    rcases List.mem_append.mp isMember with inSeed | isLast
    · exact seedWritable member inSeed
    · rw [List.mem_singleton.mp isLast]
      exact ⟨scalars_text _, scalars_of_isObjectId shaped⟩
  obtain ⟨data, dumped⟩ : ∃ data,
      dumps (.obj (receiptMembers digest sizeBytes createdUtc
        receiptId)) = .ok data :=
    dumps_of_writable writable
  have sorted := (List.perm_insertionSort KeyLe
    (receiptMembers digest sizeBytes createdUtc receiptId)).symm
  have value := valueAt_perm sorted receiptMembers_nodup
  refine ⟨receiptId, data, ?_, shaped, dumped,
    (receiptMembers digest sizeBytes createdUtc receiptId).insertionSort
      KeyLe, ?_, (value _).symm, (value _).symm, (value _).symm, ?_⟩
  · simp only [buildIngestReceipt, bind_eq_ok_iff,
      asDescriptorError_eq_ok, validateDigest, validateHashField_eq_ok,
      validateIntegerByteCount_eq_ok, pure_eq_ok_iff]
    refine ⟨digest, ⟨rfl, fields.digest_shaped⟩, sizeBytes,
      ⟨rfl, fields.size_natural⟩, createdUtc, fields.created_valid,
      seedData, seedDumped, ?_⟩
    rw [isId, receiptMembers]
  · rw [readReceipt, bind_eq_ok_iff]
    refine ⟨_, readJson_dumps receiptMembers_nodup ?_ dumped,
      validateIngestReceipt_of_fields fields shaped sorted⟩
    · simp only [receiptMembers, receiptSeed, List.cons_append,
        List.nil_append, List.forall_mem_cons]
      exact ⟨⟨rfl, trivial⟩, ⟨rfl, trivial⟩, ⟨rfl, trivial⟩,
        ⟨rfl, trivial⟩, ⟨rfl, trivial⟩, ⟨rfl, trivial⟩,
        ⟨rfl, trivial⟩, ⟨rfl, trivial⟩, by simp⟩
  · exact canonicalReceiptId_of_perm sorted seedDumped isId

end

end ScientificResourceLab.Cas
