import ScientificResourceLab.Contracts.Canonical
import ScientificResourceLab.Python.Printing
import ScientificResourceLab.Steps.Fallible

/-!
# Signed child mission requests

`srl.integrations.shared_contracts`: conformance vectors are checked against
the packaged schemas, a request for a child mission quotes them together
with the digests of their schemas, and the request is signed with an HMAC
under a named key.  `verify_shared_contract_child_mission_request` is the
receiving side.

The packaged schema documents and the validator are the parameter `Schemas`;
everything else is computed here.
-/

namespace ScientificResourceLab.Integrations

open Python Contracts Steps

/-- The members of a dict. -/
abbrev Fields := List (Text × Json)

/-- `SharedContractError` with a literal message. -/
def sharedContractError (message : String) : PyError :=
  raised .sharedContractError message

/-- `srl.contracts.schema`: the packaged documents and the validator. -/
structure Schemas where
  loadSchema : Text → Except PyError Json
  validate : Json → Text → Except PyError Unit

/-! ## Conformance vectors -/

/-- A string that is not empty. -/
abbrev NonEmptyText := { value : Text // value ≠ [] }

/-- `_require_non_empty`. -/
def requireNonEmpty (value : Json) (field : String) :
    Except PyError NonEmptyText :=
  match value with
  | .str value =>
      if nonEmpty : value ≠ [] then .ok ⟨value, nonEmpty⟩
      else .error ⟨.sharedContractError,
        text field ++ text " must be a non-empty string"⟩
  | _ => .error ⟨.sharedContractError,
      text field ++ text " must be a non-empty string"⟩

/-- The two values of `expected`. -/
inductive Expectation where
  | accept
  | reject
  deriving DecidableEq, Repr

def Expectation.word : Expectation → Text
  | .accept => text "ACCEPT"
  | .reject => text "REJECT"

/-- `ConformanceVector`. -/
structure ConformanceVector where
  vectorId : NonEmptyText
  schemaName : NonEmptyText
  expected : Expectation
  instance_ : Fields
  distinct : (Json.obj instance_).Distinct

namespace ConformanceVector

/-- `ConformanceVector.__post_init__`; a dict has distinct keys. -/
def create (vectorId schemaName expected instance_ : Json)
    (distinct : instance_.Distinct) :
    Except PyError ConformanceVector := do
  let vectorId ← requireNonEmpty vectorId "vector_id"
  let schemaName ← requireNonEmpty schemaName "schema_name"
  let word ← requireNonEmpty expected "expected"
  let expected ← expectation word
  match instance_, distinct with
  | .obj members, distinct =>
      pure ⟨vectorId, schemaName, expected, members, distinct⟩
  | _, _ => throw (sharedContractError "instance must be an object")
where
  expectation (word : NonEmptyText) : Except PyError Expectation :=
    if word.val = Expectation.accept.word then .ok .accept
    else if word.val = Expectation.reject.word then .ok .reject
    else .error (sharedContractError "expected must be ACCEPT or REJECT")

/-- `ConformanceVector.to_dict`. -/
def toDict (vector : ConformanceVector) : Fields :=
  [(text "vector_id", .str vector.vectorId),
    (text "schema_name", .str vector.schemaName),
    (text "expected", .str vector.expected.word),
    (text "instance", .obj vector.instance_)]

end ConformanceVector

/-- `"sha256:" + hashlib.sha256(data).hexdigest()`. -/
def digestId (data : Bytes) : Text :=
  objectIdPrefix ++ sha256 data

/-- The valid request among the default vectors. -/
def validRequest (requestId : Text) : Fields :=
  [(text "schema_version", .str (text "ScientificRequestEnvelope/v1")),
    (text "request_id", .str requestId),
    (text "trace_id", .str (digestId [116, 114, 97, 99, 101])),
    (text "payload", .obj
      [(text "kind", .str (text "synthetic-domain-neutral")),
        (text "value", .int 1)]),
    (text "created_utc", .str (text "2026-07-29T00:00:00Z")),
    (text "classification", .str (text "D0")),
    (text "canonical_writes", .int 0),
    (text "grants_authority", .bool false)]

/-- The results among the default vectors. -/
def defaultResult (requestId resultId : Text) (grantsAuthority : Bool) :
    Fields :=
  [(text "schema_version", .str (text "ScientificResultEnvelope/v1")),
    (text "result_id", .str resultId),
    (text "request_id", .str requestId),
    (text "status", .str (text "WAIT_CAPABILITY")),
    (text "payload", .obj
      [(text "observed", .str (text "synthetic")),
        (text "authority", .str (text "none"))]),
    (text "created_utc", .str (text "2026-07-29T00:00:01Z")),
    (text "classification", .str (text "D0")),
    (text "canonical_writes", .int 0),
    (text "grants_authority", .bool grantsAuthority)]

theorem validRequest_distinct (requestId : Text) :
    (Json.obj (validRequest requestId)).Distinct := by
  have keys : [text "schema_version", text "request_id", text "trace_id",
      text "payload", text "created_utc", text "classification",
      text "canonical_writes", text "grants_authority"].Nodup := by
    decide
  refine ⟨?_, keys⟩
  exact ⟨trivial, trivial, trivial,
    ⟨⟨trivial, trivial, trivial⟩, by decide⟩, trivial, trivial,
    trivial, trivial, trivial⟩

theorem defaultResult_distinct
    (requestId resultId : Text) (grantsAuthority : Bool) :
    (Json.obj
      (defaultResult requestId resultId grantsAuthority)).Distinct := by
  have keys : [text "schema_version", text "result_id", text "request_id",
      text "status", text "payload", text "created_utc",
      text "classification", text "canonical_writes",
      text "grants_authority"].Nodup := by
    decide
  refine ⟨?_, keys⟩
  exact ⟨trivial, trivial, trivial, trivial,
    ⟨⟨trivial, trivial, trivial⟩, by decide⟩, trivial, trivial,
    trivial, trivial, trivial⟩

/-- `default_shared_contract_vectors`. -/
def defaultSharedContractVectors :
    Except PyError (List ConformanceVector) := do
  let requestBlob ← dumps (.obj
    [(text "kind", .str (text "synthetic-domain-neutral")),
      (text "value", .int 1)])
  let resultBlob ← dumps (.obj
    [(text "observed", .str (text "synthetic")),
      (text "authority", .str (text "none"))])
  let requestId := digestId requestBlob
  let accepted ← ConformanceVector.create
    (.str (text "request.accept.basic"))
    (.str (text "ScientificRequestEnvelope")) (.str (text "ACCEPT"))
    (.obj (validRequest requestId)) (validRequest_distinct _)
  let waiting ← ConformanceVector.create
    (.str (text "result.accept.wait"))
    (.str (text "ScientificResultEnvelope")) (.str (text "ACCEPT"))
    (.obj (defaultResult requestId (digestId resultBlob) false))
    (defaultResult_distinct _ _ _)
  let rejected ← ConformanceVector.create
    (.str (text "result.reject.authority"))
    (.str (text "ScientificResultEnvelope")) (.str (text "REJECT"))
    (.obj (defaultResult requestId
      (digestId [98, 97, 100, 45, 114, 101, 115, 117, 108, 116]) true))
    (defaultResult_distinct _ _ _)
  pure [accepted, waiting, rejected]

/-- `vectors or default_shared_contract_vectors()`. -/
def selectVectors :
    Option (List ConformanceVector) →
      Except PyError (List ConformanceVector)
  | none => defaultSharedContractVectors
  | some [] => defaultSharedContractVectors
  | some (vector :: rest) => .ok (vector :: rest)

section

variable (schemas : Schemas)

/-- `_vector_accepted`. -/
def vectorAccepted (vector : ConformanceVector) : Except PyError Bool :=
  match schemas.validate (.obj vector.instance_) vector.schemaName with
  | .ok () => .ok true
  | .error error =>
      if error.kind.isContractError then .ok false else .error error

def vectorOutcome (vector : ConformanceVector) : Except PyError Json := do
  let accepted ← vectorAccepted schemas vector
  refuseIf (vector.expected = .accept ∧ accepted = false)
    ⟨.sharedContractError,
      text "vector " ++ vector.vectorId ++ text " should accept"⟩
  refuseIf (vector.expected = .reject ∧ accepted = true)
    ⟨.sharedContractError,
      text "vector " ++ vector.vectorId ++ text " should reject"⟩
  pure (.obj
    [(text "vector_id", .str vector.vectorId),
      (text "schema_name", .str vector.schemaName),
      (text "expected", .str vector.expected.word),
      (text "observed", .str (text
        (if accepted then "ACCEPT" else "REJECT")))])

/-- `build_shared_contract_conformance_receipt` on the selected vectors. -/
def buildSharedContractConformanceReceipt
    (vectors : Option (List ConformanceVector)) :
    Except PyError (Fields × Text) := do
  let selected ← selectVectors vectors
  let outcomes ← selected.mapM (vectorOutcome schemas)
  let body : Fields :=
    [(text "schema_version",
        .str (text "SharedContractConformanceReceipt/v1")),
      (text "vectors", .arr (selected.map fun vector =>
        .obj vector.toDict)),
      (text "outcomes", .arr outcomes),
      (text "canonical_writes", .int 0),
      (text "grants_authority", .bool false)]
  let blob ← dumps (.obj body)
  let receiptId := digestId blob
  pure (body ++ [(text "receipt_id", Json.str receiptId)], receiptId)

/-! ## Building a request -/

/-- The arguments of `build_shared_contract_child_mission_request`. -/
structure Mission where
  sourceHead : Text
  targetHead : Text
  targetStatus : Text
  signerKeyId : Text
  keyMaterial : Bytes
  vectors : Option (List ConformanceVector)

/-- `_schema_hash` with the name it is stored under. -/
def schemaHash (name : Text) : Except PyError (Text × Json) := do
  let document ← schemas.loadSchema name
  let blob ← dumps document
  pure (name, .str (sha256 blob))

/-- `sorted({vector.schema_name for vector in selected})`. -/
def schemaNames (selected : List ConformanceVector) : List Text :=
  (selected.map fun vector => vector.schemaName.val).dedup.insertionSort
    (· ≤ ·)

/-- The members of a request that its signature covers. -/
def unsignedRequest (mission : Mission)
    (selected : List ConformanceVector) (schemaHashes : Fields)
    (receiptId : Text) : Fields :=
  [(text "schema_version",
      .str (text "SharedContractChildMissionRequest/v1")),
    (text "mission_id", .str (text "srf-dualcontour-shared-contracts-v1")),
    (text "source_project", .str (text "scientific-resource-lab")),
    (text "target_project", .str (text "dual-contour-research-os")),
    (text "source_head", .str mission.sourceHead),
    (text "target_head", .str mission.targetHead),
    (text "target_status", .str mission.targetStatus),
    (text "requested_action",
      .str (text "native validate shared schemas and conformance vectors")),
    (text "schema_hashes", .obj schemaHashes),
    (text "conformance_vectors", .arr (selected.map fun vector =>
      .obj vector.toDict)),
    (text "local_conformance_receipt_id", .str receiptId),
    (text "native_closeout_status",
      .str (text "WAIT_NATIVE_CHILD_CLOSEOUT")),
    (text "authority_boundary", .str (text
      "proposal_only_no_domain_truth_no_target_write_by_parent")),
    (text "classification", .str (text "D0")),
    (text "parent_direct_external_writes", .int 0),
    (text "canonical_writes", .int 0),
    (text "grants_authority", .bool false)]

/-- `_TEST_HMAC_SHA256`. -/
def testHmacSha256 : Text :=
  text "test-hmac-sha256"

/-- The members that are added to the signed ones. -/
def signedRequest (unsigned : Fields) (signerKeyId signature : Text) :
    Fields :=
  unsigned ++
    [(text "signer_key_id", .str signerKeyId),
      (text "signature_algorithm", .str testHmacSha256),
      (text "signature", .str signature)]

/-- `build_shared_contract_child_mission_request`. -/
def buildSharedContractChildMissionRequest (mission : Mission) :
    Except PyError Fields := do
  let _ ← requireNonEmpty (.str mission.sourceHead) "source_head"
  let _ ← requireNonEmpty (.str mission.targetHead) "target_head"
  let _ ← requireNonEmpty (.str mission.targetStatus) "target_status"
  let _ ← requireNonEmpty (.str mission.signerKeyId) "signer_key_id"
  refuseIf (mission.keyMaterial = [])
    (sharedContractError "key_material must not be empty")
  let selected ← selectVectors mission.vectors
  let receipt ← buildSharedContractConformanceReceipt schemas (some selected)
  let schemaHashes ← (schemaNames selected).mapM (schemaHash schemas)
  let unsigned := unsignedRequest mission selected schemaHashes receipt.2
  let blob ← dumps (.obj unsigned)
  let request := signedRequest unsigned mission.signerKeyId
    (hmacSha256 mission.keyMaterial blob)
  let requestBlob ← dumps (.obj request)
  pure (request ++ [(text "request_id", .str (digestId requestBlob))])

end

/-! ## When a request is built -/

section

variable {schemas : Schemas}

/-- The texts of a vector can be written. -/
structure ConformanceVector.Writes (vector : ConformanceVector) : Prop where
  vectorId : Scalars vector.vectorId
  schemaName : Scalars vector.schemaName
  instance_ : WritableMembers vector.instance_

theorem scalars_word (expected : Expectation) : Scalars expected.word := by
  cases expected <;> exact scalars_text _

theorem ConformanceVector.Writes.toDict
    {vector : ConformanceVector} (writes : vector.Writes) :
    Writable (.obj vector.toDict) :=
  ⟨scalars_text _, writes.vectorId, scalars_text _, writes.schemaName,
    scalars_text _, scalars_word _, scalars_text _, writes.instance_,
    trivial⟩

theorem writableItems_iff {items : List Json} :
    WritableItems items ↔ ∀ item ∈ items, Writable item := by
  induction items with
  | nil => simp [WritableItems]
  | cons item rest induction => simp [WritableItems, induction]

/-- A mission whose vectors conform and whose texts can be written. -/
structure Mission.Sound (schemas : Schemas) (mission : Mission)
    (selected : List ConformanceVector) : Prop where
  sourceHead : mission.sourceHead ≠ [] ∧ Scalars mission.sourceHead
  targetHead : mission.targetHead ≠ [] ∧ Scalars mission.targetHead
  targetStatus : mission.targetStatus ≠ [] ∧ Scalars mission.targetStatus
  signerKeyId : mission.signerKeyId ≠ [] ∧ Scalars mission.signerKeyId
  keyMaterial : mission.keyMaterial ≠ []
  selection : selectVectors mission.vectors = .ok selected
  nonEmpty : selected ≠ []
  conform : ∀ vector ∈ selected, vectorAccepted schemas vector =
    .ok (vector.expected = .accept)
  writes : ∀ vector ∈ selected, vector.Writes
  documents : ∀ vector ∈ selected, ∃ document,
    schemas.loadSchema vector.schemaName = .ok document ∧
      Writable document

end

/-! ## Verifying a request -/

/-- The members that the signature does not cover. -/
def unsignedFields : List Text :=
  [text "request_id", text "signer_key_id", text "signature_algorithm",
    text "signature"]

/-- What is left of a request for its signature. -/
def withoutUnsigned (request : Fields) : Fields :=
  request.filter fun member => member.1 ∉ unsignedFields

/-- The non-empty string under a key. -/
def textAt (request : Fields) (key : Text) : Option NonEmptyText :=
  match Json.lookup key request with
  | some (.str value) =>
      if nonEmpty : value ≠ [] then some ⟨value, nonEmpty⟩ else none
  | _ => none

end ScientificResourceLab.Integrations
