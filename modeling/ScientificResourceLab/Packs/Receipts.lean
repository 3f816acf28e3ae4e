import ScientificResourceLab.Contracts.Canonical
import ScientificResourceLab.Python.Printing
import ScientificResourceLab.Steps.Fallible

/-!
# Pack stage receipts

The nine stages of the pack admission pipeline, the eight legal hops between
them, and the receipt that records one hop.  A stage is a name, as in the
source: a receipt is a plain record and may carry any text in the place of a
stage, so the checks of the source are not made redundant by the types.

A failure pairs the exception with its `fail_reason`; an exception from
outside the contract family has none.
-/

namespace ScientificResourceLab.Packs

open Python Contracts Steps

/-- The fail reasons of the pack layer. -/
inductive FailReason where
  | contractInvalid
  | upstreamSourceUnverified
  | licenseUnknown
  | licenseIncompatible
  | dependencyLockDrift
  | packIntegrityFailure
  | packProbeOnly
  | actualComputeFailed
  | dependencyDagInvalid
  deriving DecidableEq, Repr

/-- A raised exception with its `fail_reason`. -/
structure Failure where
  error : PyError
  failReason : Option FailReason
  deriving DecidableEq

/-- A failure of the contracts layer below. -/
def Failure.ofError (error : PyError) : Failure :=
  ⟨error,
    if error.kind.isContractError then some .contractInvalid else none⟩

/-! ## Stages -/

/-- `STAGES`. -/
def stages : List Text :=
  [text "DISCOVERED", text "SOURCE_VERIFIED", text "LICENSE_CLEARED",
    text "LOCKED", text "BUILT", text "BYTE_VERIFIED",
    text "RUNTIME_PROBED", text "ACTUAL_COMPUTE_PROBED",
    text "EXPERIMENTAL_ACCEPTED"]

/-- `LEGAL_STAGE_HOPS`: each stage with the one after it. -/
def legalStageHops : List (Text × Text) :=
  stages.zip stages.tail

/-! ## Receipts -/

/-- `PackStageReceipt`. -/
structure PackStageReceipt where
  schemaVersion : Text
  receiptId : Text
  packId : Text
  stage : Text
  fromStage : Option Text
  evidence : Json
  createdUtc : Text
  canonicalWrites : Int
  grantsAuthority : Bool

/-- `RECEIPT_SCHEMA_VERSION`. -/
def receiptSchemaVersion : Text :=
  text "PackStageReceipt/v1"

/-- A `ReceiptError`. -/
def receiptFailure (message : Text) : Failure :=
  ⟨⟨.receiptError, message⟩, some .contractInvalid⟩

/-- `_validate_stage`. -/
def validateStage (stage : Text) : Except Failure Text := do
  refuseIf (stage ∉ stages) (receiptFailure
    (text "stage " ++ quoted stage ++ text " must be one of " ++
      quotedTuple stages))
  pure stage

/-- `_validate_stage_hop`. -/
def validateStageHop (fromStage : Option Text) (stage : Text) :
    Except Failure Unit :=
  match fromStage with
  | none =>
      refuseIf (stage ≠ text "DISCOVERED") (receiptFailure
        (text "initial receipt must start at 'DISCOVERED', got " ++
          quoted stage))
  | some source =>
      refuseIf ((source, stage) ∉ legalStageHops) (receiptFailure
        (text "illegal stage hop from " ++ quoted source ++ text " to " ++
          quoted stage))

/-- `_require_non_empty_str` on a string. -/
def requireNonEmptyStr (value : Text) (field : String) :
    Except Failure Text := do
  refuseIf (value = []) (receiptFailure
    (text field ++ text " must be a non-empty string, got " ++
      quoted value))
  pure value

/-- The check that a receipt makes of its previous stage. -/
def validateFromStage (fromStage : Option Text) (stage : Text) :
    Except Failure Unit :=
  match fromStage with
  | none => pure ()
  | some source => do
      let source ← validateStage source
      refuseIf (source = stage) (receiptFailure
        (text "from_stage and stage must differ, got " ++ quoted stage))

/-- The check that a receipt makes of its evidence. -/
def validateEvidence (evidence : Json) : Except Failure Unit :=
  match evidence with
  | .obj members =>
      match getOrNone (text "kind") members with
      | .str _ => pure ()
      | other =>
          .error (receiptFailure
            (text "evidence must contain a string 'kind', got " ++
              reprJson other))
  | other =>
      .error (receiptFailure
        (text "evidence must be a dict, got " ++ typeName other))

/-- The body of a receipt without its `receipt_id`. -/
def receiptSeed
    (packId stage : Text) (fromStage : Option Text) (evidence : Json)
    (createdUtc : Text) : Json :=
  .obj
    [(text "schema_version", .str receiptSchemaVersion),
      (text "pack_id", .str packId),
      (text "stage", .str stage),
      (text "from_stage",
        match fromStage with
        | none => .null
        | some source => .str source),
      (text "evidence", evidence),
      (text "created_utc", .str createdUtc),
      (text "canonical_writes", .int 0),
      (text "grants_authority", .bool false)]

/-- `_canonical_receipt_id`. -/
def canonicalReceiptId (seed : Json) : Except Failure Text :=
  match dumps seed with
  | .ok blob => .ok (text "sha256:" ++ sha256 blob)
  | .error error => .error (Failure.ofError error)

/--
`build_pack_stage_receipt`, where `now` is what `_utc_now` answers if it is
asked.
-/
def buildPackStageReceipt
    (packId stage : Text) (fromStage : Option Text) (evidence : Json)
    (createdUtc : Option Text) (now : Text) :
    Except Failure PackStageReceipt := do
  let packId ← requireNonEmptyStr packId "pack_id"
  let stage ← validateStage stage
  validateFromStage fromStage stage
  validateStageHop fromStage stage
  validateEvidence evidence
  let createdUtc ←
    requireNonEmptyStr (createdUtc.getD now) "created_utc"
  let receiptId ← canonicalReceiptId
    (receiptSeed packId stage fromStage evidence createdUtc)
  pure
    { schemaVersion := receiptSchemaVersion
      receiptId := receiptId
      packId := packId
      stage := stage
      fromStage := fromStage
      evidence := evidence
      createdUtc := createdUtc
      canonicalWrites := 0
      grantsAuthority := false }

/-- A built receipt carries what it was built from, under its digest. -/
theorem buildPackStageReceipt_eq_ok
    {packId stage : Text} {fromStage : Option Text} {evidence : Json}
    {createdUtc : Option Text} {now : Text} {receipt : PackStageReceipt}
    (built :
      buildPackStageReceipt packId stage fromStage evidence createdUtc now =
        .ok receipt) :
    receipt.packId = packId ∧ receipt.stage = stage ∧
      receipt.fromStage = fromStage ∧ receipt.evidence = evidence ∧
      canonicalReceiptId
          (receiptSeed packId stage fromStage evidence receipt.createdUtc) =
        .ok receipt.receiptId := by
  simp only [buildPackStageReceipt, requireNonEmptyStr, validateStage,
    bind_eq_ok_iff, pure_eq_ok_iff] at built
  obtain ⟨_, ⟨_, _, rfl⟩, _, ⟨_, _, rfl⟩, _, _, _, _, _, _, _,
    ⟨_, _, rfl⟩, id, hashed, rfl⟩ := built
  exact ⟨rfl, rfl, rfl, rfl, hashed⟩

end ScientificResourceLab.Packs
