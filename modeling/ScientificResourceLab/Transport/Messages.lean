import ScientificResourceLab.Contracts.Canonical
import ScientificResourceLab.Contracts.Timestamps
import ScientificResourceLab.Python.JsonOrder

/-!
# Messages, signatures and receipts of the spool

The pure part of `srl.transport.spool`: the three schemas that the spool
validates against, the identity of a message, the checks on a detached
signature, and the records that the spool writes.  A dict is the list of its
members.
-/

namespace ScientificResourceLab.Transport

open Python Contracts Steps

/-- The members of a JSON object. -/
abbrev Members := List (Text × Json)

/-- A Python dict with string keys. -/
structure Dict where
  members : Members
  distinct : (members.map Prod.fst).Nodup

/-! ## Schemas -/

/-- The property schemas that occur in the spool's documents. -/
inductive PropertySchema where
  | const (value : Text)
  | objectId
  | nonEmpty
  | enum (values : List Text)
  | timestamp
  | zero
  | constFalse
  deriving DecidableEq

/-- The pattern of object ids in the schemas, searched with `$`. -/
def matchesObjectIdPattern (value : Text) : Bool :=
  isObjectId value ||
    value.getLast? = some (codePoint '\n') && isObjectId value.dropLast

/-- A value satisfies a property schema. -/
def PropertySchema.accepts : PropertySchema → Json → Bool
  | .const expected, .str value => value = expected
  | .objectId, .str value => matchesObjectIdPattern value
  | .nonEmpty, .str value => value ≠ []
  | .enum values, .str value => values.contains value
  | .timestamp, .str value => matchesTimestampPattern value
  | .zero, .int value => value = 0
  | .zero, .float value => value.isZero
  | .constFalse, .bool value => value = false
  | _, _ => false

/--
An object schema without additional properties in which every property is
required.
-/
structure ObjectSchema where
  name : Text
  properties : List (Text × PropertySchema)

/-- A dict satisfies an object schema. -/
def ObjectSchema.accepts (schema : ObjectSchema) (instance_ : Members) :
    Bool :=
  (instance_.all fun member =>
    (schema.properties.map Prod.fst).contains member.1) &&
  schema.properties.all fun property =>
    match Json.lookup property.1 instance_ with
    | some value => property.2.accepts value
    | none => false

/-- `srl.contracts.schema.validate` on a dict. -/
def schemaValidate (schema : ObjectSchema) (instance_ : Members) :
    Except PyError PUnit :=
  refuseIf (schema.accepts instance_ = false)
    ⟨.contractValidationError,
      text "instance failed validation against " ++ quoted schema.name⟩

/-- `SpoolMessage/v1`. -/
def spoolMessageSchema : ObjectSchema where
  name := text "SpoolMessage"
  properties :=
    [(text "schema_version", .const (text "SpoolMessage/v1")),
      (text "message_id", .objectId),
      (text "idempotency_key", .objectId),
      (text "source_cell", .nonEmpty),
      (text "target_cell", .nonEmpty),
      (text "payload_ref", .objectId),
      (text "classification", .enum [text "D0", text "D1"]),
      (text "created_utc", .timestamp),
      (text "canonical_writes", .zero),
      (text "grants_authority", .constFalse)]

/-- `SpoolAck/v1`. -/
def spoolAckSchema : ObjectSchema where
  name := text "SpoolAck"
  properties :=
    [(text "schema_version", .const (text "SpoolAck/v1")),
      (text "ack_id", .objectId),
      (text "message_id", .objectId),
      (text "ack_status", .enum [text "ACKNOWLEDGED", text "DUPLICATE",
        text "REJECTED", text "EXPIRED", text "QUARANTINED"]),
      (text "created_utc", .timestamp),
      (text "canonical_writes", .zero),
      (text "grants_authority", .constFalse)]

/-- `DeadLetterRecord/v1`. -/
def deadLetterRecordSchema : ObjectSchema where
  name := text "DeadLetterRecord"
  properties :=
    [(text "schema_version", .const (text "DeadLetterRecord/v1")),
      (text "record_id", .objectId),
      (text "message_id", .objectId),
      (text "reason", .nonEmpty),
      (text "created_utc", .timestamp),
      (text "canonical_writes", .zero),
      (text "grants_authority", .constFalse)]

/-! ## Files -/

/-- `_read_json_object`; `none` is a file that cannot be read. -/
def readJsonObject (file : Option Bytes) : Except PyError Members := do
  match file with
  | none => throw (raised .fileNotFoundError "No such file or directory")
  | some data =>
      match ← loads data with
      | .obj members => pure members
      | _ =>
          throw (raised .spoolError "spool JSON payload must be an object")

/-- `_json_filename`. -/
def jsonFilename (objectRef : Text) : Except PyError Text := do
  let valid ← validateObjectId objectRef
  pure (valid.drop objectIdPrefix.length ++ text ".json")

/-- `_file_ref` on the bytes of a file. -/
def fileRef (data : Bytes) : Text :=
  objectIdPrefix ++ sha256 data

/-! ## Messages -/

/-- `validate_object_id` on a value of a dict, `None` when absent. -/
def validateIdValue : Option Json → Except PyError Text
  | some (.str value) => validateObjectId value
  | other =>
      .error ⟨.identityError,
        text "object_id must be a string, got " ++
          typeName (other.getD .null)⟩

/-- `_message_id_from_mapping`. -/
def messageIdFromMapping (message : Members) : Except PyError Text :=
  validateIdValue (Json.lookup (text "message_id") message)

/-- The dict without its `message_id`. -/
def withoutMessageId (message : Members) : Members :=
  message.filter fun member => member.1 ≠ text "message_id"

/-- `_message_id_matches_content`. -/
def messageIdMatchesContent (message : Members) : Except PyError Bool :=
  match Json.lookup (text "message_id") message with
  | none => pure false
  | some value => do
      let declared ← validateIdValue (some value)
      let computed ← objectId (.obj (withoutMessageId message))
      pure (computed = declared)

/-- The refusal of a message whose id is not that of its content. -/
def contentMismatch : PyError :=
  raised .transportRefusalError
    "message_id does not match canonical message content"

/-- The guarded part of `receive`: a message with a checked identity. -/
def decodeMessage (file : Option Bytes) :
    Except PyError (Members × Text) := do
  let message ← readJsonObject file
  schemaValidate spoolMessageSchema message
  let messageId ← messageIdFromMapping message
  let isContent ← messageIdMatchesContent message
  refuseIf (isContent = false) contentMismatch
  pure (message, messageId)

/-! ## Detached signatures -/

/-- `DetachedSignature`. -/
structure DetachedSignature where
  schemaVersion : Text
  algorithm : Text
  signerCell : Text
  keyId : Text
  messageId : Text
  sequence : Int
  previousSignatureRef : Option Text
  signatureValue : Text
  deriving DecidableEq

/-- `DetachedSignature.to_dict`. -/
def DetachedSignature.toDict (signature : DetachedSignature) : Members :=
  [(text "schema_version", .str signature.schemaVersion),
    (text "algorithm", .str signature.algorithm),
    (text "signer_cell", .str signature.signerCell),
    (text "key_id", .str signature.keyId),
    (text "message_id", .str signature.messageId),
    (text "sequence", .int signature.sequence),
    (text "previous_signature_ref",
      optionalText signature.previousSignatureRef),
    (text "signature_value", .str signature.signatureValue)]

/-- `_sequence_from_signature`. -/
def sequenceFromSignature (signature : Members) : Except PyError Int :=
  match Json.lookup (text "sequence") signature with
  | some (.int value) =>
      if value < 1 then
        .error (raised .spoolError
          "signature sequence must be a positive integer")
      else .ok value
  | _ =>
      .error (raised .spoolError
        "signature sequence must be a positive integer")

/-- `_previous_ref_from_signature`. -/
def previousRefFromSignature (signature : Members) :
    Except PyError (Option Text) :=
  match Json.lookup (text "previous_signature_ref") signature with
  | none | some .null => .ok none
  | some value => do
      let ref ← validateIdValue (some value)
      pure (some ref)

/-- `str(signature.get(key, ""))` is empty. -/
def emptyAsText (signature : Members) (key : Text) : Bool :=
  match Json.lookup key signature with
  | none => true
  | some (.str value) => value = []
  | some _ => false

/-- `_require_non_empty` on `str(signature.get(key, ""))`. -/
def requireNonEmpty (signature : Members) (key : Text) :
    Except PyError PUnit :=
  refuseIf (emptyAsText signature key)
    ⟨.spoolError, key ++ text " must be a non-empty string"⟩

/-- `signature.get(key)` is a non-empty string. -/
def isNonEmptyString (signature : Members) (key : Text) : Bool :=
  match Json.lookup key signature with
  | some (.str value) => value ≠ []
  | _ => false

/-- `_SIGNATURE_SCHEMA_VERSION`. -/
def signatureSchemaVersion : Text :=
  text "DetachedSpoolSignature/v1"

/-- The dict's value is the given string. -/
def isText (signature : Members) (key expected : Text) : Bool :=
  match Json.lookup key signature with
  | some (.str value) => value = expected
  | _ => false

/-- `_validate_detached_signature`. -/
def validateDetachedSignature (signature : Members) :
    Except PyError PUnit := do
  refuseIf (isText signature (text "schema_version")
      signatureSchemaVersion = false)
    (raised .spoolError "detached signature schema_version is invalid")
  refuseIf (isNonEmptyString signature (text "algorithm") = false)
    (raised .spoolError
      "detached signature algorithm must be a non-empty string")
  requireNonEmpty signature (text "signer_cell")
  requireNonEmpty signature (text "key_id")
  let _ ← messageIdFromMapping signature
  let _ ← sequenceFromSignature signature
  let _ ← previousRefFromSignature signature
  refuseIf (isNonEmptyString signature (text "signature_value") = false)
    (raised .spoolError
      "detached signature_value must be a non-empty string")

/-- The guarded reading of a signature file in `receive`. -/
def decodeSignature (file : Option Bytes) : Except PyError Members := do
  let signature ← readJsonObject file
  validateDetachedSignature signature
  pure signature

/-- `SignatureVerifier.verify`, with whatever it raises. -/
abbrev Verifier := Members → Members → Except PyError Bool

/-- `SignatureSigner.sign`, with whatever it raises. -/
abbrev Signer :=
  Members → Int → Option Text → Except PyError DetachedSignature

/-! ## Receipts -/

/-- The statuses of an acknowledgement. -/
inductive AckStatus where
  | acknowledged
  | duplicate
  | rejected
  | expired
  | quarantined
  deriving DecidableEq, Repr

def AckStatus.value : AckStatus → Text
  | .acknowledged => text "ACKNOWLEDGED"
  | .duplicate => text "DUPLICATE"
  | .rejected => text "REJECTED"
  | .expired => text "EXPIRED"
  | .quarantined => text "QUARANTINED"

/-- A record of the spool under the id of its other members. -/
def identified (idField : Text) (schema : ObjectSchema)
    (withoutId : Members) : Except PyError Members := do
  let id ← objectId (.obj withoutId)
  let record := (idField, .str id) :: withoutId
  schemaValidate schema record
  pure record

/-- `_build_ack`. -/
def buildAck (messageId : Text) (status : AckStatus) (createdUtc : Text) :
    Except PyError Members := do
  let messageId ← validateObjectId messageId
  let created ← normalizeTimestamp createdUtc
  identified (text "ack_id") spoolAckSchema
    [(text "schema_version", .str (text "SpoolAck/v1")),
      (text "message_id", .str messageId),
      (text "ack_status", .str status.value),
      (text "created_utc", .str created),
      (text "canonical_writes", .int 0),
      (text "grants_authority", .bool false)]

/-- The record of `_dead_letter_message`. -/
def deadLetterRecord (messageId reason createdUtc : Text) :
    Except PyError Members := do
  refuseIf (reason = [])
    (raised .spoolError "reason must be a non-empty string")
  let created ← normalizeTimestamp createdUtc
  identified (text "record_id") deadLetterRecordSchema
    [(text "schema_version", .str (text "DeadLetterRecord/v1")),
      (text "message_id", .str messageId),
      (text "reason", .str reason),
      (text "created_utc", .str created),
      (text "canonical_writes", .int 0),
      (text "grants_authority", .bool false)]

/-- The record of `_quarantine_message`. -/
def quarantineRecord (messageId reason : Text) (message : Members) :
    Members :=
  [(text "schema_version", .str (text "SpoolQuarantineRecord/v1")),
    (text "message_id", .str messageId),
    (text "reason", .str reason),
    (text "message", .obj message)]

/-- The record of `_quarantine_raw`. -/
def rawQuarantineRecord (rawId reason : Text) : Members :=
  [(text "schema_version", .str (text "SpoolQuarantineRecord/v1")),
    (text "message_id", .str rawId),
    (text "reason", .str reason),
    (text "raw_sha256", .str rawId)]

/-! ## Building messages -/

/-- `idempotency_key or object_id(...)`. -/
def idempotencyKeyOr (idempotencyKey : Option Text)
    (sourceCell targetCell payloadRef classification : Text) :
    Except PyError Text :=
  match idempotencyKey with
  | some (first :: rest) => .ok (first :: rest)
  | _ => objectId (.obj
      [(text "schema_version", .str (text "SpoolIdempotencyKey/v1")),
        (text "source_cell", .str sourceCell),
        (text "target_cell", .str targetCell),
        (text "payload_ref", .str payloadRef),
        (text "classification", .str classification)])

/-- `build_spool_message`. -/
def buildSpoolMessage
    (sourceCell targetCell payloadRef classification createdUtc : Text)
    (idempotencyKey : Option Text) : Except PyError Members := do
  let payloadRef ← validateObjectId payloadRef
  refuseIf (classification ∉ [text "D0", text "D1"])
    ⟨.transportRefusalError,
      text "classification must be one of ['D0', 'D1'], got " ++
        quoted classification⟩
  let created ← normalizeTimestamp createdUtc
  let idempotency ← idempotencyKeyOr idempotencyKey sourceCell targetCell
    payloadRef classification
  let _ ← validateObjectId idempotency
  refuseIf (sourceCell = [])
    (raised .spoolError "source_cell must be a non-empty string")
  refuseIf (targetCell = [])
    (raised .spoolError "target_cell must be a non-empty string")
  identified (text "message_id") spoolMessageSchema
    [(text "schema_version", .str (text "SpoolMessage/v1")),
      (text "idempotency_key", .str idempotency),
      (text "source_cell", .str sourceCell),
      (text "target_cell", .str targetCell),
      (text "payload_ref", .str payloadRef),
      (text "classification", .str classification),
      (text "created_utc", .str created),
      (text "canonical_writes", .int 0),
      (text "grants_authority", .bool false)]

end ScientificResourceLab.Transport
