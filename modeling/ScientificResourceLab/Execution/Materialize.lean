import ScientificResourceLab.Cas.Records

/-!
# Staging the inputs of a run

`materialize_run` of `srl.execution.materialize`.  Every input is resolved in
the store, copied into a fresh staging directory and hashed again there.  The
store and the staging directory belong to the surroundings, so the code is
written over any monad that can raise.
-/

namespace ScientificResourceLab.Execution

open Python Contracts Steps
open Cas (validateHashField)

/-- `StagedRun`, without the path of its directory. -/
structure StagedRun where
  adapterId : Text
  inputDigests : List (Text × Text)
  packDigest : Option Text

/-- A run specification that `_validate_run_spec` lets through. -/
structure RunSpec where
  adapterId : Text
  inputPayloads : List (Text × Text)
  packRef : Option Text

/-! ## `_validate_run_spec` -/

/-- The digests of `input_payloads`. -/
def validateInputPayloads :
    List (Text × Json) → Except PyError (List (Text × Text))
  | [] => .ok []
  | (name, .str digest) :: rest => do
      let others ← validateInputPayloads rest
      pure ((name, digest) :: others)
  | (name, _) :: _ =>
      .error ⟨.materializationError,
        text "run_spec.input_payloads[" ++ quoted name ++
          text "] must be a sha256 digest string"⟩

/-- `_validate_run_spec`. -/
def validateRunSpec : Json → Except PyError RunSpec
  | .obj members => do
      let missing :=
        ([text "adapter_id", text "input_payloads", text "pack_ref"]).filter
          fun key => (Json.lookup key members).isNone
      refuseIf (missing ≠ []) ⟨.materializationError,
        text "run_spec missing key(s): " ++ quotedList missing⟩
      let adapterId ← match Json.lookup (text "adapter_id") members with
        | some (.str (first :: rest)) => .ok (first :: rest)
        | _ => .error (raised .materializationError
            "run_spec.adapter_id must be a non-empty string")
      let inputPayloads ←
        match Json.lookup (text "input_payloads") members with
        | some (.obj payloads) => validateInputPayloads payloads
        | _ => .error (raised .materializationError
            "run_spec.input_payloads must be a dict")
      let packRef ← match Json.lookup (text "pack_ref") members with
        | some .null => .ok none
        | some (.str digest) => .ok (some digest)
        | _ => .error (raised .materializationError
            "run_spec.pack_ref must be a sha256 digest string or None")
      pure ⟨adapterId, inputPayloads, packRef⟩
  | _ => .error (raised .materializationError "run_spec must be a dict")

/-! ## `materialize_run` -/

/-- What staging uses of the store and of the file system. -/
structure StagingOps (m : Type → Type) where
  has : Text → m Bool
  get : Text → m Bytes
  /-- Make `staging_root` and a fresh directory in it, and return its path. -/
  makeStaging : m (List Text)
  makeParents : List Text → m Unit
  writeBytes : List Text → Bytes → m Unit
  chmod : List Text → Nat → m Unit
  readBytes : List Text → m Bytes
  unlink : List Text → m Unit
  removeStaging : List Text → m Unit

/-- `staging_path / name`. -/
def joinPath (staging : List Text) (name : Text) : List Text :=
  if isAbsolute name then pathParts name else staging ++ pathParts name

/-- `_PACK_BLOB_NAME`. -/
def packBlobName : Text :=
  text "pack.blob"

/-- `_INPUT_MODE`. -/
def inputMode : Nat :=
  0o400

/-- `_require_safe_digest`. -/
def requireSafeDigest (label digest : Text) : Except PyError Text :=
  match validateHashField .artifactRefError label (.str digest) with
  | .ok valid => .ok valid
  | .error error =>
      .error ⟨.materializationError,
        text "invalid " ++ label ++ text ": " ++ error.message⟩

section

variable {m : Type → Type} [Monad m] [MonadExcept PyError m]

/-- `_resolve_ref`. -/
def resolveRef (ops : StagingOps m) (label digest : Text) : m Bytes := do
  let _ ← MonadExcept.ofExcept (requireSafeDigest label digest)
  if ← ops.has digest then ops.get digest
  else
    throw ⟨.materializationError,
      text "unpinned " ++ label ++ text ": " ++ quoted digest ++
        text " not in store"⟩

/-- `os.chmod(dest, mode)`, if a mode is given. -/
def chmodIf (ops : StagingOps m) (dest : List Text) : Option Nat → m Unit
  | some mode => ops.chmod dest mode
  | none => pure ()

/-- The end of `_verify_and_stage`, after the file was written. -/
def verifyStaged
    (ops : StagingOps m) (declaredDigest : Text) (dest : List Text) :
    m Unit := do
  let readback ← ops.readBytes dest
  let actual := objectIdPrefix ++ sha256 readback
  if actual = declaredDigest then pure ()
  else do
    ops.unlink dest
    throw ⟨.casIntegrityError,
      text "post-copy hash mismatch for " ++ quoted (dest.getLast?.getD []) ++
        text ": declared " ++ quoted declaredDigest ++
        text ", observed " ++ quoted actual⟩

/-- `_verify_and_stage`. -/
def verifyAndStage
    (ops : StagingOps m) (data : Bytes) (declaredDigest : Text)
    (dest : List Text) (mode : Option Nat) : m Unit := do
  ops.makeParents dest
  ops.writeBytes dest data
  chmodIf ops dest mode
  verifyStaged ops declaredDigest dest

/-- The loop over `input_payloads`. -/
def stageInputs (ops : StagingOps m) (staging : List Text) :
    List (Text × Text) → m (List (Text × Text))
  | [] => pure []
  | (name, digest) :: rest => do
      let data ← resolveRef ops
        (text "input_payloads[" ++ quoted name ++ text "]") digest
      verifyAndStage ops data digest (joinPath staging name) (some inputMode)
      let others ← stageInputs ops staging rest
      pure ((name, digest) :: others)

def stagePack (ops : StagingOps m) (staging : List Text) :
    Option Text → m (Option Text)
  | none => pure none
  | some packRef => do
      let data ← resolveRef ops (text "pack_ref") packRef
      verifyAndStage ops data packRef (joinPath staging packBlobName) none
      pure (some packRef)

/-- What `materialize_run` does in the fresh directory. -/
def stageAll (ops : StagingOps m) (spec : RunSpec) (staging : List Text) :
    m StagedRun := do
  let inputDigests ← stageInputs ops staging spec.inputPayloads
  let packDigest ← stagePack ops staging spec.packRef
  pure ⟨spec.adapterId, inputDigests, packDigest⟩

/-- `materialize_run`. -/
def materializeRun (ops : StagingOps m) (runSpec : Json) : m StagedRun := do
  let spec ← MonadExcept.ofExcept (validateRunSpec runSpec)
  let staging ← ops.makeStaging
  tryCatch (stageAll ops spec staging) fun error => do
    ops.removeStaging staging
    throw error

end

/-! ## What a staged run names -/

@[simp]
theorem ofExcept_eq_ok_iff {α : Type} {value : Except PyError α}
    {result : α} :
    (MonadExcept.ofExcept value : Except PyError α) = .ok result ↔
      value = .ok result := by
  cases value with
  | error error => simp [MonadExcept.ofExcept]
  | ok value => simp [MonadExcept.ofExcept]

/-- A handler that never returns adds no result. -/
theorem tryCatch_eq_ok
    {α : Type} {body : Except PyError α}
    {handler : PyError → Except PyError α} {result : α}
    (raises : ∀ error value, handler error ≠ .ok value)
    (returned : tryCatch body handler = .ok result) :
    body = .ok result := by
  cases body with
  | error error => exact absurd returned (raises error result)
  | ok value => exact returned

theorem stageInputs_eq_ok
    {ops : StagingOps (Except PyError)} {staging : List Text}
    {inputPayloads digests : List (Text × Text)}
    (returned : stageInputs ops staging inputPayloads = .ok digests) :
    digests = inputPayloads := by
  induction inputPayloads generalizing digests with
  | nil =>
      cases returned
      rfl
  | cons member rest inductionHypothesis =>
      simp only [stageInputs, bind_eq_ok_iff, pure_eq_ok_iff] at returned
      obtain ⟨_, _, _, _, others, staged, rfl⟩ := returned
      rw [inductionHypothesis staged]

/-- Only a valid specification is staged. -/
theorem validRunSpec_of_eq_ok
    {ops : StagingOps (Except PyError)} {runSpec : Json}
    {staged : StagedRun} (returned : materializeRun ops runSpec = .ok staged) :
    ∃ spec, validateRunSpec runSpec = .ok spec := by
  simp only [materializeRun, bind_eq_ok_iff, ofExcept_eq_ok_iff] at returned
  obtain ⟨spec, valid, -⟩ := returned
  exact ⟨spec, valid⟩

theorem materializeRun_inputDigests
    {ops : StagingOps (Except PyError)} {runSpec : Json} {spec : RunSpec}
    {staged : StagedRun} (valid : validateRunSpec runSpec = .ok spec)
    (returned : materializeRun ops runSpec = .ok staged) :
    staged.inputDigests = spec.inputPayloads := by
  simp only [materializeRun, valid, bind_eq_ok_iff, ofExcept_eq_ok_iff]
    at returned
  obtain ⟨_, ⟨rfl⟩, _, _, caught⟩ := returned
  have body := tryCatch_eq_ok (by simp) caught
  simp only [stageAll, bind_eq_ok_iff, pure_eq_ok_iff] at body
  obtain ⟨inputDigests, inputs, packDigest, pack, rfl⟩ := body
  exact stageInputs_eq_ok inputs

end ScientificResourceLab.Execution
