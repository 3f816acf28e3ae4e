import ScientificResourceLab.Execution.Materialize

/-!
# Sealing a run

`seal_run` of `srl.execution.sealer`: the output is validated and stored, the
engine receipt is stored, and the run receipt is written last.  The code is
written over any monad that can raise, since the store and the receipt
directory belong to its caller.

Where the collaborators only answer or raise, `sealRun_eq_ok_iff` says when
sealing returns.
-/

namespace ScientificResourceLab.Execution

open Python Contracts Steps

/-! ## Runs -/

/-- `RunStatus`. -/
inductive RunStatus where
  | completed
  | failed
  | timeout
  | resourceLimit
  | policyViolation
  deriving DecidableEq, Repr

/-- The fields of `RunUsage` that are sealed. -/
structure RunUsage where
  wallSeconds : Float64
  rssBytes : Int

/--
The fields of `RunOutcome` that a dispatch and the sealer read; the output
`None` is the value `null`.
-/
structure RunOutcome where
  status : RunStatus
  output : Json
  usage : RunUsage
  failReason : Option Text
  detail : Text

/-- The output, if it is not `None`. -/
def RunOutcome.presentOutput (outcome : RunOutcome) : Option Json :=
  match outcome.output with
  | .null => none
  | output => some output

/-- The fields of `SealedRun` that a dispatch reads. -/
structure SealedRun where
  runReceiptId : Text
  outputDigests : List (Text × Text)
  engineReceiptId : Text

/-! ## Receipts -/

/-- `_compute_receipt_id`. -/
def computeReceiptId (body : List (Text × Json)) : Except PyError Text := do
  let data ← dumps
    (.obj (body.filter fun member => member.1 ≠ text "receipt_id"))
  pure (objectIdPrefix ++ sha256 data)

/-- A receipt body with its own id as the last member, and its bytes. -/
def publishedReceipt (body : List (Text × Json)) :
    Except PyError (Text × Bytes) := do
  let receiptId ← computeReceiptId body
  let data ← dumps
    (.obj (body ++ [(text "receipt_id", .str receiptId)]))
  pure (receiptId, data)

/-- `_engine_execution_status`. -/
def engineExecutionStatus (outcome : RunOutcome) : Text :=
  if outcome.status = .completed then text "completed" else text "failed"

def engineReceiptBody
    (staged : StagedRun) (outcome : RunOutcome)
    (outputObjectId : Option Text) (createdUtc : Text) :
    List (Text × Json) :=
  [(text "schema_version", .str (text "ScienceLabEngineReceipt/v1")),
    (text "adapter_id", .str staged.adapterId),
    (text "exercise_level", .str (text "actual_compute")),
    (text "engine_execution", .str (engineExecutionStatus outcome)),
    (text "wall_seconds", .float outcome.usage.wallSeconds),
    (text "rss_bytes", .int outcome.usage.rssBytes),
    (text "output_object_ids",
      .arr (outputObjectId.toList.map Json.str)),
    (text "created_utc", .str createdUtc)]

/-- `output_digests` of a run receipt. -/
def outputDigestsOf (outputObjectId : Option Text) : List (Text × Text) :=
  outputObjectId.toList.map fun id => (text "output.json", id)

def runReceiptBody
    (staged : StagedRun) (outputObjectId : Option Text)
    (engineReceiptId engineReceiptObjectId storeRootRedacted : Text)
    (createdUtc : Text) : List (Text × Json) :=
  [(text "schema_version", .str (text "ScienceLabRunReceipt/v1")),
    (text "adapter_id", .str staged.adapterId),
    (text "exercise_level", .str (text "actual_compute")),
    (text "engine_receipt_id", .str engineReceiptId),
    (text "input_digests",
      .obj (staged.inputDigests.map fun member =>
        (member.1, .str member.2))),
    (text "output_digests",
      .obj ((outputDigestsOf outputObjectId).map fun member =>
        (member.1, .str member.2))),
    (text "store_descriptor_ids",
      .arr ((outputObjectId.toList ++ [engineReceiptObjectId]).map
        Json.str)),
    (text "store_root_redacted", .str storeRootRedacted),
    (text "created_utc", .str createdUtc)]

/-! ## `seal_run` -/

/-- `_OUTPUT_MEDIA_TYPE`. -/
def outputMediaType : Text :=
  text "application/json"

/-- `_ENGINE_RECEIPT_MEDIA_TYPE`. -/
def engineReceiptMediaType : Text :=
  text "application/srl.engine-receipt.v1+json"

/--
What the sealer uses of its surroundings: the store, the two readings of the
clock, and the receipt directory.
-/
structure SealingOps (m : Type → Type) where
  ingestBytes : Bytes → Text → m Text
  storeRootRedacted : Text
  engineCreatedUtc : Text
  runCreatedUtc : Text
  writeReceipt : Text → Bytes → m Unit

section

variable {m : Type → Type} [Monad m] [MonadExceptOf PyError m]

/-- An object id, which the source tests for truth. -/
def nonemptyId (id : Text) : Option Text :=
  if id = [] then none else some id

/-- Validate and store the output. -/
def sealOutput
    (ops : SealingOps m)
    (outputValidator : Option (Json → Except PyError Unit))
    (outcome : RunOutcome) : m (Option Text) :=
  match outcome.presentOutput, outputValidator with
  | some output, some validator =>
      match validator output with
      | .error error =>
          throw ⟨.sealerError,
            text "output schema validation failed: " ++ error.message⟩
      | .ok () => do
          let payload ← MonadExcept.ofExcept (dumps output)
          let id ← ops.ingestBytes payload outputMediaType
          pure (nonemptyId id)
  | _, _ => pure none

/-- `seal_run`. -/
def sealRun
    (ops : SealingOps m)
    (outputValidator : Option (Json → Except PyError Unit))
    (staged : StagedRun) (outcome : RunOutcome) : m SealedRun := do
  let outputObjectId ← sealOutput ops outputValidator outcome
  let engine ← MonadExcept.ofExcept (publishedReceipt
    (engineReceiptBody staged outcome outputObjectId ops.engineCreatedUtc))
  let engineReceiptObjectId ←
    ops.ingestBytes engine.2 engineReceiptMediaType
  let receipt ← MonadExcept.ofExcept (publishedReceipt
    (runReceiptBody staged outputObjectId engine.1 engineReceiptObjectId
      ops.storeRootRedacted ops.runCreatedUtc))
  ops.writeReceipt receipt.1 receipt.2
  pure
    { runReceiptId := receipt.1
      outputDigests := outputDigestsOf outputObjectId
      engineReceiptId := engine.1 }

end

/-! ## When sealing returns -/

section

variable {ops : SealingOps (Except PyError)}
variable {outputValidator : Option (Json → Except PyError Unit)}
variable {staged : StagedRun} {outcome : RunOutcome}

/--
There is no output or no validator, or the validator accepts the output, the
output can be encoded and the store takes it.
-/
def OutputTaken
    (ops : SealingOps (Except PyError))
    (outputValidator : Option (Json → Except PyError Unit))
    (outcome : RunOutcome) (outputObjectId : Option Text) : Prop :=
  match outcome.presentOutput, outputValidator with
  | some output, some validator =>
      validator output = .ok () ∧ ∃ payload id,
        dumps output = .ok payload ∧
        ops.ingestBytes payload outputMediaType = .ok id ∧
        nonemptyId id = outputObjectId
  | _, _ => none = outputObjectId

/-- Every collaborator of the sealer takes what it is given. -/
structure Sealable
    (ops : SealingOps (Except PyError))
    (outputValidator : Option (Json → Except PyError Unit))
    (staged : StagedRun) (outcome : RunOutcome)
    (outputObjectId : Option Text) (engine : Text × Bytes)
    (engineReceiptObjectId : Text) (receipt : Text × Bytes) : Prop where
  outputTaken : OutputTaken ops outputValidator outcome outputObjectId
  engineEncodes :
    publishedReceipt (engineReceiptBody staged outcome outputObjectId
      ops.engineCreatedUtc) = .ok engine
  engineTaken :
    ops.ingestBytes engine.2 engineReceiptMediaType =
      .ok engineReceiptObjectId
  receiptEncodes :
    publishedReceipt (runReceiptBody staged outputObjectId engine.1
      engineReceiptObjectId ops.storeRootRedacted ops.runCreatedUtc) =
        .ok receipt
  receiptTaken : ops.writeReceipt receipt.1 receipt.2 = .ok ()

theorem sealOutput_eq_ok_iff {outputObjectId : Option Text} :
    sealOutput ops outputValidator outcome = .ok outputObjectId ↔
      OutputTaken ops outputValidator outcome outputObjectId := by
  unfold sealOutput OutputTaken
  cases outcome.presentOutput with
  | none => exact pure_eq_ok_iff
  | some output =>
      cases outputValidator with
      | none => exact pure_eq_ok_iff
      | some validator =>
          cases validated : validator output with
          | error error => simp [validated]
          | ok accepted =>
              simp only [validated, bind_eq_ok_iff, ofExcept_eq_ok_iff,
                pure_eq_ok_iff, true_and, exists_and_left]

/-- Sealing returns when its collaborators take what they are given. -/
theorem sealRun_eq_ok_iff {value : SealedRun} :
    sealRun ops outputValidator staged outcome = .ok value ↔
      ∃ outputObjectId engine engineReceiptObjectId receipt,
        Sealable ops outputValidator staged outcome outputObjectId engine
          engineReceiptObjectId receipt ∧
        value = ⟨receipt.1, outputDigestsOf outputObjectId, engine.1⟩ := by
  simp only [sealRun, bind_eq_ok_iff, pure_eq_ok_iff, ofExcept_eq_ok_iff,
    sealOutput_eq_ok_iff]
  constructor
  · rintro ⟨outputObjectId, outputTaken, engine, engineEncodes,
      engineReceiptObjectId, engineTaken, receipt, receiptEncodes, _,
      receiptTaken, rfl⟩
    exact ⟨outputObjectId, engine, engineReceiptObjectId, receipt,
      ⟨outputTaken, engineEncodes, engineTaken, receiptEncodes,
        receiptTaken⟩, rfl⟩
  · rintro ⟨outputObjectId, engine, engineReceiptObjectId, receipt,
      sealable, rfl⟩
    exact ⟨outputObjectId, sealable.outputTaken, engine,
      sealable.engineEncodes, engineReceiptObjectId, sealable.engineTaken,
      receipt, sealable.receiptEncodes, (), sealable.receiptTaken, rfl⟩

end

end ScientificResourceLab.Execution
