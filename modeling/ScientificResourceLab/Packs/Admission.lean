import ScientificResourceLab.Packs.Receipts

/-!
# The pack admission pipeline

`advance` moves a pack one stage along the pipeline when the evidence passes
the gate of that stage, and every hop leaves a receipt.  An `AdmissionState`
is only what its constructor accepts: `postInit` is its `__post_init__`, and
the state carries the fact that the check passed.

`Justified` is the invariant of whole runs: the receipts are the stages after
`DISCOVERED` up to the current one, in pipeline order, each with the stage
before it, the pack of the state and evidence that passes the gate.  One
attempt keeps it (`Justified.attempt`), so any sequence of attempts does.
-/

namespace ScientificResourceLab.Packs

open Python Contracts Steps

/-- An `AdmissionError`. -/
def admissionFailure (reason : FailReason) (message : Text) : Failure :=
  ⟨⟨.admissionError, message⟩, some reason⟩

/-! ## States -/

/-- The loop of `__post_init__` over the receipts from an index on. -/
def checkChain (previous : Text) (index : Nat) :
    List PackStageReceipt → Except Failure Unit
  | [] => pure ()
  | receipt :: rest => do
      refuseIf ((previous, receipt.stage) ∉ legalStageHops)
        (admissionFailure .contractInvalid
          (text "illegal stage hop at index " ++ decimalText index ++
            text ": from " ++ quoted previous ++ text " to " ++
            quoted receipt.stage))
      refuseIf (receipt.fromStage ≠ some previous)
        (admissionFailure .contractInvalid
          (text "receipt chain linkage broken at index " ++
            decimalText index ++ text ": " ++ quoted receipt.stage ++
            text " claims from " ++ quotedOption receipt.fromStage ++
            text ", but expected previous stage is " ++ quoted previous))
      checkChain receipt.stage (index + 1) rest

/-- `AdmissionState.__post_init__`. -/
def postInit (currentStage : Text) (receipts : List PackStageReceipt) :
    Except Failure Unit := do
  refuseIf (currentStage ∉ stages)
    (admissionFailure .contractInvalid
      (text "invalid current_stage " ++ quoted currentStage ++
        text "; must be one of " ++ quotedTuple stages))
  match receipts.getLast? with
  | none => pure ()
  | some last => do
      refuseIf (last.stage ≠ currentStage)
        (admissionFailure .contractInvalid
          (text "last receipt stage " ++ quoted last.stage ++
            text " does not match current_stage " ++ quoted currentStage))
      checkChain (text "DISCOVERED") 0 receipts

/-- `AdmissionState`, a frozen record that its constructor has checked. -/
structure AdmissionState where
  packId : Text
  currentStage : Text
  receipts : List PackStageReceipt
  checked : postInit currentStage receipts = .ok ()

/-- The constructor of `AdmissionState`. -/
def makeState
    (packId currentStage : Text) (receipts : List PackStageReceipt) :
    Except Failure AdmissionState :=
  match checked : postInit currentStage receipts with
  | .ok () => .ok ⟨packId, currentStage, receipts, checked⟩
  | .error error => .error error

/-- `initial_state`. -/
def initialState (packId : Text) : Except Failure AdmissionState := do
  refuseIf (packId = [])
    (admissionFailure .contractInvalid
      (text "pack_id must be a non-empty string, got " ++ quoted packId))
  makeState packId (text "DISCOVERED") []

/-! ## Gates -/

/-- A gate that refuses when a flag of the evidence is not as wanted. -/
def checkFlag
    (field : String) (wanted : Bool) (reason : FailReason)
    (message : String) (evidence : List (Text × Json)) :
    Except Failure Unit :=
  refuseIf (isTruthy (getOrNone (text field) evidence) ≠ wanted)
    (admissionFailure reason (text message))

/-- `_check_source_verified`. -/
def checkSourceVerified : List (Text × Json) → Except Failure Unit :=
  checkFlag "verified" true .upstreamSourceUnverified
    "upstream source verification failed"

/-- The licence named in a refusal. -/
def spdxOf (evidence : List (Text × Json)) : Json :=
  (Json.lookup (text "spdx") evidence).getD (.str (text "unknown"))

/-- `_check_license_cleared`. -/
def checkLicenseCleared (evidence : List (Text × Json)) :
    Except Failure Unit :=
  let status := getOrNone (text "status") evidence
  match status with
  | .str value =>
      if value = text "unknown" then
        .error (admissionFailure .licenseUnknown
          (text "license " ++ reprJson (spdxOf evidence) ++
            text " is unknown"))
      else if value = text "incompatible" then
        .error (admissionFailure .licenseIncompatible
          (text "license " ++ reprJson (spdxOf evidence) ++
            text " is incompatible"))
      else
        refuseIf (value ≠ text "allowed")
          (admissionFailure .contractInvalid
            (text "license clearance status must be 'allowed', got " ++
              quoted value))
  | other =>
      .error (admissionFailure .contractInvalid
        (text "license clearance status must be 'allowed', got " ++
          reprJson other))

/-- `_check_locked`: the flag names the failure, and may be absent. -/
def checkLocked : List (Text × Json) → Except Failure Unit :=
  checkFlag "drift" false .dependencyLockDrift
    "dependency lock drifted from the recorded manifest"

/-- `_check_built`. -/
def checkBuilt : List (Text × Json) → Except Failure Unit :=
  checkFlag "valid" true .packIntegrityFailure
    "manifest build failed structural or integrity checks"

/-- `_check_byte_verified`. -/
def checkByteVerified : List (Text × Json) → Except Failure Unit :=
  checkFlag "matched" true .packIntegrityFailure
    "byte tree verification failed"

/-- `_check_runtime_probed`. -/
def checkRuntimeProbed : List (Text × Json) → Except Failure Unit :=
  checkFlag "passed" true .actualComputeFailed "runtime probe failed"

/-- `_check_actual_compute_probed`. -/
def checkActualComputeProbed : List (Text × Json) → Except Failure Unit :=
  checkFlag "passed" true .actualComputeFailed
    "actual compute probe failed"

/-- `_check_experimental_accepted`. -/
def checkExperimentalAccepted (_ : List (Text × Json)) :
    Except Failure Unit :=
  pure ()

/-- A gate: the stage it leads to, the kind it expects and its check. -/
structure Gate where
  stage : Text
  kind : Text
  check : List (Text × Json) → Except Failure Unit

/-- `_GATE_KINDS` and `_GATE_VALIDATORS`, which have the same stages. -/
def gates : List Gate :=
  [⟨text "SOURCE_VERIFIED", text "source_verification",
      checkSourceVerified⟩,
    ⟨text "LICENSE_CLEARED", text "license_clearance",
      checkLicenseCleared⟩,
    ⟨text "LOCKED", text "lock_digest", checkLocked⟩,
    ⟨text "BUILT", text "build_manifest", checkBuilt⟩,
    ⟨text "BYTE_VERIFIED", text "tree_hash", checkByteVerified⟩,
    ⟨text "RUNTIME_PROBED", text "runtime_probe", checkRuntimeProbed⟩,
    ⟨text "ACTUAL_COMPUTE_PROBED", text "actual_compute_probe",
      checkActualComputeProbed⟩,
    ⟨text "EXPERIMENTAL_ACCEPTED", text "experimental_accept",
      checkExperimentalAccepted⟩]

/-- `_expect_kind`. -/
def expectKind (kind expected : Text) : Except Failure Unit :=
  refuseIf (kind ≠ expected)
    (admissionFailure .contractInvalid
      (text "expected evidence kind " ++ quoted expected ++
        text ", got " ++ quoted kind))

/-- `_validate_gate`. -/
def validateGate (stage : Text) (evidence : Json) :
    Except Failure Unit :=
  match evidence with
  | .obj members =>
      match getOrNone (text "kind") members with
      | .str kind =>
          match gates.find? (fun gate => gate.stage = stage) with
          | none =>
              .error (admissionFailure .contractInvalid
                (text "no admission gate defined for stage " ++
                  quoted stage))
          | some gate => do
              expectKind kind gate.kind
              gate.check members
      | other =>
          .error (admissionFailure .contractInvalid
            (text "evidence must contain a string 'kind', got " ++
              reprJson other))
  | other =>
      .error (admissionFailure .contractInvalid
        (text "evidence must be a dict, got " ++ typeName other))

/-! ## Transitions -/

/-- The arguments of `advance`, and what the clock answers if asked. -/
structure Attempt where
  stage : Text
  evidence : Json
  createdUtc : Option Text
  now : Text

/-- The receipt that a repeated advance returns. -/
def existingReceipt (state : AdmissionState) (stage : Text) :
    Except Failure PackStageReceipt :=
  match state.receipts.reverse.find? (fun receipt =>
      receipt.stage = stage) with
  | some receipt => .ok receipt
  | none =>
      .error (admissionFailure .contractInvalid
        (text "no receipt for idempotent re-advance of " ++ quoted stage))

/-- The hop of `advance` once the order of the stages is legal. -/
def hop (state : AdmissionState) (attempt : Attempt) :
    Except Failure (AdmissionState × PackStageReceipt) := do
  validateGate attempt.stage attempt.evidence
  let receipt ← buildPackStageReceipt state.packId attempt.stage
    (some state.currentStage) attempt.evidence attempt.createdUtc
    attempt.now
  let next ← makeState state.packId attempt.stage
    (state.receipts ++ [receipt])
  pure (next, receipt)

/-- `advance`. -/
def advance (state : AdmissionState) (attempt : Attempt) :
    Except Failure (AdmissionState × PackStageReceipt) := do
  refuseIf (attempt.stage ∉ stages)
    (admissionFailure .contractInvalid
      (text "unknown stage " ++ quoted attempt.stage ++
        text "; must be one of " ++ quotedTuple stages))
  let current := stages.idxOf state.currentStage
  let target := stages.idxOf attempt.stage
  if target = current then do
    let receipt ← existingReceipt state attempt.stage
    pure (state, receipt)
  else do
    refuseIf (target < current)
      (admissionFailure .contractInvalid
        (text "cannot regress admission for " ++ quoted state.packId ++
          text " from " ++ quoted state.currentStage ++ text " to " ++
          quoted attempt.stage))
    refuseIf (state.currentStage = text "RUNTIME_PROBED" ∧
        attempt.stage = text "EXPERIMENTAL_ACCEPTED")
      (admissionFailure .packProbeOnly
        (text "cannot accept " ++ quoted state.packId ++
          text " as EXPERIMENTAL_ACCEPTED from " ++
          text "RUNTIME_PROBED: actual-compute probe never ran"))
    refuseIf (target ≠ current + 1)
      (admissionFailure .contractInvalid
        (text "skip from " ++ quoted state.currentStage ++ text " to " ++
          quoted attempt.stage ++ text " for " ++ quoted state.packId ++
          text " missing required stage " ++
          quoted (stages.getD (current + 1) [])))
    hop state attempt

/-- The state that a caller holds after an attempt. -/
def attemptOn (state : AdmissionState) (attempt : Attempt) :
    AdmissionState :=
  match advance state attempt with
  | .ok (next, _) => next
  | .error _ => state

/-- The state after a sequence of attempts. -/
def afterAttempts (state : AdmissionState) (attempts : List Attempt) :
    AdmissionState :=
  attempts.foldl attemptOn state

/-! ## What one attempt can do -/

theorem makeState_eq_ok
    {packId currentStage : Text} {receipts : List PackStageReceipt}
    {state : AdmissionState}
    (made : makeState packId currentStage receipts = .ok state) :
    state.packId = packId ∧ state.currentStage = currentStage ∧
      state.receipts = receipts := by
  rw [makeState] at made
  split at made
  · cases made
    exact ⟨rfl, rfl, rfl⟩
  · cases made

theorem AdmissionState.currentStage_mem (state : AdmissionState) :
    state.currentStage ∈ stages := by
  have checked := state.checked
  simp only [postInit, bind_eq_ok_iff, refuseIf_eq_ok_iff, not_not]
    at checked
  obtain ⟨_, known, _⟩ := checked
  exact known

theorem AdmissionState.last_stage
    (state : AdmissionState) {receipt : PackStageReceipt}
    (last : state.receipts.getLast? = some receipt) :
    receipt.stage = state.currentStage := by
  have checked := state.checked
  simp only [postInit, last, bind_eq_ok_iff, refuseIf_eq_ok_iff, ne_eq,
    not_not] at checked
  obtain ⟨_, _, _, same, _⟩ := checked
  exact same

theorem hop_eq_ok
    {state next : AdmissionState} {attempt : Attempt}
    {receipt : PackStageReceipt}
    (hopped : hop state attempt = .ok (next, receipt)) :
    validateGate attempt.stage attempt.evidence = .ok () ∧
      receipt.packId = state.packId ∧ receipt.stage = attempt.stage ∧
      receipt.fromStage = some state.currentStage ∧
      receipt.evidence = attempt.evidence ∧
      next.packId = state.packId ∧ next.currentStage = attempt.stage ∧
      next.receipts = state.receipts ++ [receipt] := by
  simp only [hop, bind_eq_ok_iff, pure_eq_ok_iff, Prod.mk.injEq]
    at hopped
  obtain ⟨_, passed, _, built, _, made, rfl, rfl⟩ := hopped
  obtain ⟨isPack, isStage, isFrom, isEvidence, _⟩ :=
    buildPackStageReceipt_eq_ok built
  exact ⟨passed, isPack, isStage, isFrom, isEvidence,
    makeState_eq_ok made⟩

/-- An attempt that succeeds repeats the current stage or hops to the next. -/
theorem advance_cases
    {state next : AdmissionState} {attempt : Attempt}
    {receipt : PackStageReceipt}
    (advanced : advance state attempt = .ok (next, receipt)) :
    next = state ∨
      (attempt.stage ∈ stages ∧
        stages.idxOf attempt.stage =
          stages.idxOf state.currentStage + 1 ∧
        hop state attempt = .ok (next, receipt)) := by
  simp only [advance, bind_eq_ok_iff, refuseIf_eq_ok_iff, not_not]
    at advanced
  obtain ⟨_, known, advanced⟩ := advanced
  split at advanced
  · simp only [bind_eq_ok_iff, pure_eq_ok_iff, Prod.mk.injEq] at advanced
    obtain ⟨_, _, same, _⟩ := advanced
    exact .inl same.symm
  · simp only [bind_eq_ok_iff, refuseIf_eq_ok_iff, ne_eq, not_not]
      at advanced
    obtain ⟨_, _, _, _, _, adjacent, hopped⟩ := advanced
    exact .inr ⟨known, adjacent, hopped⟩

/-- Advancing to the current stage returns its receipt. -/
theorem advance_again
    {state : AdmissionState} {attempt : Attempt}
    {receipt : PackStageReceipt}
    (again : attempt.stage = state.currentStage)
    (last : state.receipts.getLast? = some receipt) :
    advance state attempt = .ok (state, receipt) := by
  have found :
      state.receipts.reverse.find? (fun receipt =>
        receipt.stage = attempt.stage) = some receipt := by
    obtain ⟨earlier, isSplit⟩ := List.getLast?_eq_some_iff.mp last
    rw [isSplit, List.reverse_append, again]
    simp [state.last_stage last]
  simp only [advance, existingReceipt, bind_eq_ok_iff, refuseIf_eq_ok_iff,
    not_not]
  refine ⟨⟨⟩, again ▸ state.currentStage_mem, ?_⟩
  rw [if_pos (by rw [again]), found]
  rfl

/-- Without a receipt there is nothing to return. -/
theorem advance_again_empty
    {state : AdmissionState} {attempt : Attempt}
    (again : attempt.stage = state.currentStage)
    (empty : state.receipts = []) :
    advance state attempt =
      .error (admissionFailure .contractInvalid
        (text "no receipt for idempotent re-advance of " ++
          quoted attempt.stage)) := by
  have known : ¬ state.currentStage ∉ stages :=
    not_not.mpr state.currentStage_mem
  simp only [advance, existingReceipt, refuseIf, again, if_neg known,
    empty]
  rfl

/-! ## Runs -/

/--
The receipts are one for each stage after the first up to the current one,
in pipeline order, with the stage before it, the pack and passing evidence.
-/
structure Justified (packId : Text) (state : AdmissionState) : Prop where
  pack : state.packId = packId
  reached : state.receipts.map PackStageReceipt.stage =
    (stages.take (stages.idxOf state.currentStage + 1)).tail
  previous : state.receipts.map PackStageReceipt.fromStage =
    (stages.take (stages.idxOf state.currentStage)).map some
  packs : ∀ receipt ∈ state.receipts, receipt.packId = packId
  gated : ∀ receipt ∈ state.receipts,
    validateGate receipt.stage receipt.evidence = .ok ()

theorem initialState_justified
    {packId : Text} {start : AdmissionState}
    (started : initialState packId = .ok start) :
    Justified packId start := by
  simp only [initialState, bind_eq_ok_iff] at started
  obtain ⟨_, _, made⟩ := started
  obtain ⟨isPack, isStage, isEmpty⟩ := makeState_eq_ok made
  constructor
  · exact isPack
  · rw [isStage, isEmpty]
    decide
  · rw [isStage, isEmpty]
    decide
  · rw [isEmpty]
    simp
  · rw [isEmpty]
    simp

theorem take_next
    {current next : Text} (known : next ∈ stages)
    (adjacent : stages.idxOf next = stages.idxOf current + 1) :
    stages.take (stages.idxOf next + 1) =
      stages.take (stages.idxOf current + 1) ++ [next] := by
  have bound : stages.idxOf next < stages.length :=
    List.idxOf_lt_length_of_mem known
  rw [List.take_succ_eq_append_getElem bound, List.getElem_idxOf bound,
    adjacent]

theorem take_current {current : Text} (known : current ∈ stages) :
    stages.take (stages.idxOf current + 1) =
      stages.take (stages.idxOf current) ++ [current] := by
  have bound : stages.idxOf current < stages.length :=
    List.idxOf_lt_length_of_mem known
  rw [List.take_succ_eq_append_getElem bound, List.getElem_idxOf bound]

theorem Justified.hop
    {packId : Text} {state next : AdmissionState} {attempt : Attempt}
    {receipt : PackStageReceipt}
    (justified : Justified packId state)
    (known : attempt.stage ∈ stages)
    (adjacent : stages.idxOf attempt.stage =
      stages.idxOf state.currentStage + 1)
    (hopped : hop state attempt = .ok (next, receipt)) :
    Justified packId next := by
  obtain ⟨passed, isPack, isStage, isFrom, isEvidence, nextPack, nextStage,
    nextReceipts⟩ := hop_eq_ok hopped
  constructor
  · rw [nextPack, justified.pack]
  · have nonempty :
        stages.take (stages.idxOf state.currentStage + 1) ≠ [] := by
      rw [take_current state.currentStage_mem]
      simp
    rw [nextReceipts, nextStage, take_next known adjacent,
      List.tail_append_of_ne_nil nonempty, ← justified.reached]
    simp [isStage]
  · rw [nextReceipts, nextStage, adjacent,
      take_current state.currentStage_mem]
    simp [isFrom, justified.previous]
  · rw [nextReceipts]
    intro other member
    rcases List.mem_append.mp member with earlier | new
    · exact justified.packs other earlier
    · rw [List.mem_singleton.mp new, isPack, justified.pack]
  · rw [nextReceipts]
    intro other member
    rcases List.mem_append.mp member with earlier | new
    · exact justified.gated other earlier
    · rw [List.mem_singleton.mp new, isStage, isEvidence]
      exact passed

/-- One attempt keeps the receipts justified. -/
theorem Justified.attempt
    {packId : Text} {state : AdmissionState}
    (justified : Justified packId state) (attempt : Attempt) :
    Justified packId (attemptOn state attempt) := by
  rw [attemptOn]
  split
  · next next receipt advanced =>
      rcases advance_cases advanced with rfl | ⟨known, adjacent, hopped⟩
      · exact justified
      · exact justified.hop known adjacent hopped
  · exact justified

/-- A sequence of attempts keeps the receipts justified. -/
theorem Justified.attempts
    {packId : Text} {state : AdmissionState}
    (justified : Justified packId state) (attempts : List Attempt) :
    Justified packId (afterAttempts state attempts) := by
  induction attempts generalizing state with
  | nil => exact justified
  | cons first rest induction => exact induction (justified.attempt first)

/-- A state without receipts is at the first stage. -/
theorem Justified.discovered
    {packId : Text} {state : AdmissionState}
    (justified : Justified packId state) (empty : state.receipts = []) :
    state.currentStage = text "DISCOVERED" := by
  have bound : stages.idxOf state.currentStage < stages.length :=
    List.idxOf_lt_length_of_mem state.currentStage_mem
  have first : stages.idxOf state.currentStage = 0 := by
    have lengths := congrArg List.length justified.previous
    rw [empty, List.map_nil, List.length_map, List.length_take,
      Nat.min_eq_left (Nat.le_of_lt bound)] at lengths
    exact lengths.symm
  calc
    state.currentStage = stages.get ⟨_, bound⟩ :=
      (List.getElem_idxOf bound).symm
    _ = text "DISCOVERED" := by
      simp only [List.get_eq_getElem, first]
      rfl

/--
In every run the receipts are exactly those that justify the current stage;
an attempt that raises changes nothing, and repeating the current stage
returns the receipt it has.
-/
theorem receipts_justify_every_run
    {packId : Text} {start : AdmissionState}
    (started : initialState packId = .ok start)
    (attempts : List Attempt) :
    Justified packId (afterAttempts start attempts) ∧
      (∀ attempt failure,
        advance (afterAttempts start attempts) attempt = .error failure →
        attemptOn (afterAttempts start attempts) attempt =
          afterAttempts start attempts) ∧
      ∀ attempt,
        attempt.stage = (afterAttempts start attempts).currentStage →
        (∃ receipt,
            (afterAttempts start attempts).receipts.getLast? =
              some receipt ∧
            receipt.stage = attempt.stage ∧
            advance (afterAttempts start attempts) attempt =
              .ok (afterAttempts start attempts, receipt)) ∨
          ((afterAttempts start attempts).currentStage =
              text "DISCOVERED" ∧
            (afterAttempts start attempts).receipts = [] ∧
            ∃ failure,
              advance (afterAttempts start attempts) attempt =
                .error failure) := by
  have justified := (initialState_justified started).attempts attempts
  refine ⟨justified, ?_, ?_⟩
  · intro attempt failure raised
    rw [attemptOn, raised]
  · intro attempt again
    cases last : (afterAttempts start attempts).receipts.getLast? with
    | some receipt =>
        have isStage := AdmissionState.last_stage _ last
        exact .inl ⟨receipt, rfl, isStage.trans again.symm,
          advance_again again last⟩
    | none =>
        have empty := List.getLast?_eq_none_iff.mp last
        exact .inr ⟨justified.discovered empty, empty, _,
          advance_again_empty again empty⟩

/-- Evidence with a kind and one flag. -/
def flaggedEvidence (kind flag : String) : Json :=
  .obj [(text "kind", .str (text kind)), (text flag, .bool true)]

/-- An attempt at a stage with such evidence. -/
def flaggedAttempt (stage kind flag : String) : Attempt :=
  ⟨text stage, flaggedEvidence kind flag,
    some (text "2026-01-01T00:00:00Z"), []⟩

/-- Attempts that skip, fail a gate, hop, repeat and regress. -/
def mixedAttempts : List Attempt :=
  [flaggedAttempt "LOCKED" "lock_digest" "valid",
    flaggedAttempt "SOURCE_VERIFIED" "source_verification" "matched",
    flaggedAttempt "SOURCE_VERIFIED" "source_verification" "verified",
    flaggedAttempt "SOURCE_VERIFIED" "source_verification" "verified",
    flaggedAttempt "DISCOVERED" "source_verification" "verified"]

theorem receipts_justify_mixedAttempts :
    ∃ start, initialState (text "pack") = .ok start ∧
      (afterAttempts start mixedAttempts).currentStage =
        text "SOURCE_VERIFIED" ∧
      (afterAttempts start mixedAttempts).receipts.length = 1 ∧
      Justified (text "pack") (afterAttempts start mixedAttempts) := by
  have started :
      initialState (text "pack") =
        .ok ⟨text "pack", text "DISCOVERED", [], by decide⟩ := by
    rfl
  refine ⟨_, started, ?_, ?_, ?_⟩
  · decide +kernel
  · decide +kernel
  · exact (receipts_justify_every_run started mixedAttempts).1

/-! ## What the constructor accepts -/

theorem adjacent_of_hop
    {source target : Text} (legal : (source, target) ∈ legalStageHops) :
    target ∈ stages ∧
      stages.idxOf target = stages.idxOf source + 1 := by
  have every : ∀ hop ∈ legalStageHops, hop.2 ∈ stages ∧
      stages.idxOf hop.2 = stages.idxOf hop.1 + 1 := by
    decide
  exact every _ legal

/-- A checked chain of receipts goes through the stages one after the other. -/
theorem checkChain_stages
    {previous : Text} {index : Nat} {receipts : List PackStageReceipt}
    (checked : checkChain previous index receipts = .ok ()) :
    stages.take (stages.idxOf previous + 1) ++
        receipts.map PackStageReceipt.stage =
      stages.take (stages.idxOf
        ((receipts.map PackStageReceipt.stage).getLastD previous) + 1) := by
  induction receipts generalizing previous index with
  | nil => simp
  | cons receipt rest induction =>
      have step : checkChain previous index (receipt :: rest) =
          (refuseIf ((previous, receipt.stage) ∉ legalStageHops) _ >>=
            fun _ => refuseIf (receipt.fromStage ≠ some previous) _ >>=
              fun _ => checkChain receipt.stage (index + 1) rest) :=
        rfl
      rw [step] at checked
      simp only [bind_eq_ok_iff, refuseIf_eq_ok_iff, not_not] at checked
      obtain ⟨_, legal, _, _, later⟩ := checked
      obtain ⟨known, adjacent⟩ := adjacent_of_hop legal
      calc
        stages.take (stages.idxOf previous + 1) ++
            receipt.stage :: rest.map PackStageReceipt.stage =
          stages.take (stages.idxOf receipt.stage + 1) ++
            rest.map PackStageReceipt.stage := by
              rw [take_next known adjacent, List.append_assoc]
              rfl
        _ = stages.take (stages.idxOf
              ((rest.map PackStageReceipt.stage).getLastD
                receipt.stage) + 1) :=
            induction later
        _ = _ := by
            rw [List.map_cons, List.getLastD_cons]

/--
The receipts of a state are those that justify its stage: one for each stage
after the first up to the current one, in pipeline order, for its own pack.
-/
structure Represented (state : AdmissionState) : Prop where
  reached : state.receipts.map PackStageReceipt.stage =
    (stages.take (stages.idxOf state.currentStage + 1)).tail
  none_iff : state.receipts = [] ↔ state.currentStage = text "DISCOVERED"
  packs : ∀ receipt ∈ state.receipts, receipt.packId = state.packId

theorem AdmissionState.chain
    (state : AdmissionState) (nonempty : state.receipts ≠ []) :
    checkChain (text "DISCOVERED") 0 state.receipts = .ok () := by
  have checked := state.checked
  obtain ⟨last, isLast⟩ :=
    Option.ne_none_iff_exists'.mp
      (mt List.getLast?_eq_none_iff.mp nonempty)
  simp only [postInit, isLast, bind_eq_ok_iff] at checked
  obtain ⟨_, _, _, _, chain⟩ := checked
  exact chain

theorem AdmissionState.reached
    (state : AdmissionState) (nonempty : state.receipts ≠ []) :
    text "DISCOVERED" :: state.receipts.map PackStageReceipt.stage =
      stages.take (stages.idxOf state.currentStage + 1) := by
  have passed := checkChain_stages (state.chain nonempty)
  obtain ⟨last, isLast⟩ :=
    Option.ne_none_iff_exists'.mp
      (mt List.getLast?_eq_none_iff.mp nonempty)
  have isCurrent :
      (state.receipts.map PackStageReceipt.stage).getLastD
        (text "DISCOVERED") = state.currentStage := by
    rw [List.getLastD_eq_getLast?, List.getLast?_map, isLast,
      ← state.last_stage isLast]
    rfl
  rw [isCurrent] at passed
  have first : stages.take (stages.idxOf (text "DISCOVERED") + 1) =
      [text "DISCOVERED"] := by
    decide
  rw [first] at passed
  exact passed

/-- A state with receipts is beyond the first stage. -/
theorem AdmissionState.advanced
    (state : AdmissionState) (nonempty : state.receipts ≠ []) :
    state.currentStage ≠ text "DISCOVERED" := by
  intro first
  have reached := congrArg List.length (state.reached nonempty)
  have single : (stages.take
      (stages.idxOf (text "DISCOVERED") + 1)).length = 1 := by
    decide
  rw [first, single, List.length_cons, List.length_map] at reached
  exact nonempty (List.eq_nil_of_length_eq_zero (by omega))

/--
A state that the constructor accepts holds the receipts that justify its
stage exactly when a state without receipts is at the first stage and every
receipt is for the pack of the state.
-/
theorem represented_iff
    (packId currentStage : Text) (receipts : List PackStageReceipt)
    (state : AdmissionState)
    (made : makeState packId currentStage receipts = .ok state) :
    Represented state ↔
      (receipts = [] → currentStage = text "DISCOVERED") ∧
        ∀ receipt ∈ receipts, receipt.packId = packId := by
  obtain ⟨rfl, rfl, rfl⟩ := makeState_eq_ok made
  constructor
  · intro represented
    exact ⟨represented.none_iff.mp, represented.packs⟩
  · rintro ⟨discovered, packs⟩
    by_cases empty : state.receipts = []
    · have first : (stages.take
          (stages.idxOf (text "DISCOVERED") + 1)).tail = [] := by
        decide
      refine ⟨?_, iff_of_true empty (discovered empty), packs⟩
      rw [empty, discovered empty, first]
      rfl
    · refine ⟨?_, iff_of_false empty (state.advanced empty), packs⟩
      rw [← state.reached empty]
      rfl

/-- A receipt of the first hop for a pack. -/
def firstReceipt (packId : Text) : PackStageReceipt :=
  { schemaVersion := receiptSchemaVersion
    receiptId := []
    packId := packId
    stage := text "SOURCE_VERIFIED"
    fromStage := some (text "DISCOVERED")
    evidence := .null
    createdUtc := []
    canonicalWrites := 0
    grantsAuthority := false }

theorem represented_first :
    ∃ state,
      makeState (text "pack") (text "SOURCE_VERIFIED")
          [firstReceipt (text "pack")] = .ok state ∧
        Represented state := by
  have made :
      makeState (text "pack") (text "SOURCE_VERIFIED")
          [firstReceipt (text "pack")] =
        .ok ⟨text "pack", text "SOURCE_VERIFIED",
          [firstReceipt (text "pack")], by decide⟩ := by
    rfl
  refine ⟨_, made, (represented_iff _ _ _ _ made).mpr ⟨?_, ?_⟩⟩
  · intro empty
    cases empty
  · simp [firstReceipt]

/-- The constructor accepts a late stage with no receipt at all. -/
theorem unjustified_stage_accepted :
    ¬ ∀ packId currentStage receipts state,
      makeState packId currentStage receipts = .ok state →
        Represented state := by
  intro represents
  have made :
      makeState (text "pack") (text "EXPERIMENTAL_ACCEPTED") [] =
        .ok ⟨text "pack", text "EXPERIMENTAL_ACCEPTED", [],
          by decide⟩ := by
    rfl
  have represented := represents _ _ _ _ made
  have different :
      text "EXPERIMENTAL_ACCEPTED" ≠ text "DISCOVERED" := by
    decide
  exact different (represented.none_iff.mp rfl)

end ScientificResourceLab.Packs
