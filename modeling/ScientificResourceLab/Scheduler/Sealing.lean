import ScientificResourceLab.Scheduler.Answers

/-!
# After the runner returned

Between the return of the runner and the end of a dispatch lie the sealing of
the run and the terminal receipt.  A dispatch that gets through both has
emptied `running/` and written a receipt.  A dispatch that raises in either
leaves its checkpoint in `running/`: nothing catches the error, and every
later dispatch returns without starting anything.
-/

namespace ScientificResourceLab.Scheduler

open Python Contracts Steps
open Execution (RunOutcome StagedRun SealedRun SealingOps Sealable sealRun
  outputDigestsOf sealRun_eq_ok_iff)
open Steps.Program (observe update compute Safe bindPost)

/-- A record that `_atomic_write_json` can encode. -/
def Encodes (payload : Except PyError Json) : Prop :=
  ∃ document data, payload = .ok document ∧ dumps document = .ok data

theorem safe_atomicWriteJson_encodes
    {guar : State → State → Prop}
    {post : Except PyError PUnit → State → Prop} {state : State}
    {payload : Except PyError Json} {rename : State → State}
    (encodes : Encodes payload) (step : guar state (rename state))
    (written : post (.ok ⟨⟩) (rename state)) :
    (atomicWriteJson payload rename).Safe guar post state := by
  obtain ⟨document, data, rfl, dumped⟩ := encodes
  rw [atomicWriteJson, Program.compute_ok_bind, dumped,
    Program.compute_ok_bind]
  exact ⟨step, written⟩

/-- The checkpoint that a dispatch moves to `running/`. -/
def RuntimeRunCheckpoint.started (checkpoint : RuntimeRunCheckpoint) :
    RuntimeRunCheckpoint where
  request := checkpoint.request
  status := .running
  generation := checkpoint.generation + 1
  sequence := checkpoint.sequence
  inputDigest := checkpoint.inputDigest

/-- The checkpoint that is written before the runner is called. -/
def RuntimeRunCheckpoint.withInput (checkpoint : RuntimeRunCheckpoint)
    (inputDigest : Text) : RuntimeRunCheckpoint where
  request := checkpoint.request
  status := .running
  generation := checkpoint.generation + 1
  sequence := checkpoint.sequence
  inputDigest := some inputDigest

/--
A dispatch in this state takes the checkpoint, gets as far as the runner, and
the runner returns the outcome.
-/
structure RunnerReturns (context : DispatchContext) (state : State)
    (checkpoint : RuntimeRunCheckpoint) (inputDigest : Text)
    (staged : StagedRun) (outcome : RunOutcome) : Prop where
  chosen : queueHead state = some checkpoint
  governed : packWaitDetail checkpoint.request context.packStatuses = none
  admitted : admitEstimate checkpoint.request.resourceEstimate
    context.policy checkpoint.request.useException ≠ .waitRemoteExecutor
  disk : ∃ free, context.freeDiskBytes = .ok free ∧
    context.policy.requiredFreeDiskBytes ≤ free
  startedEncodes : Encodes checkpoint.started.toDict
  ingested : inputDigestOf context checkpoint.started = .ok inputDigest
  inputEncodes :
    Encodes (checkpoint.started.withInput inputDigest).toDict
  materialized :
    context.materializeRun checkpoint.request.adapterId inputDigest =
      .ok staged
  scratch : context.prepareScratch = .ok ()
  returned : context.runner checkpoint.request context.policy =
    .ok outcome

/-- The terminal receipt of a run that is sealed in this way. -/
def ReceiptWritten (sealedRun : Except PyError SealedRun)
    (receiptOf : SealedRun → SchedulerTerminalReceipt) : Prop :=
  ∃ value bound data, sealedRun = .ok value ∧
    (receiptOf value).withId = .ok bound ∧ dumps bound.toDict = .ok data

/-- The run is sealed and its terminal receipt can be encoded. -/
def Seals (context : DispatchContext) (checkpoint : RuntimeRunCheckpoint)
    (staged : StagedRun) (outcome : RunOutcome) : Prop :=
  ReceiptWritten (context.sealRun staged outcome)
    (sealedReceipt checkpoint.request (checkpoint.generation + 3) staged
      outcome)

/-- Nothing runs and the request has a terminal receipt. -/
def Unblocked (requestId : Text) (state : State) : Prop :=
  (∀ other, other ∉ state.running) ∧ requestId ∈ state.terminal

/-- Sealing and the receipt: both are done, or nothing is written. -/
def SealingPost (requestId : Text) (seals : Prop) (before : State) :
    Except PyError SchedulerTerminalReceipt → State → Prop
  | .ok _, after =>
      seals ∧ ∃ bound, after = before.putTerminal requestId bound
  | .error _, after => ¬ seals ∧ after = before

theorem safe_sealing
    {state : State} {sealedRun : Except PyError SealedRun}
    {receiptOf : SealedRun → SchedulerTerminalReceipt} {requestId : Text}
    (isId : ∀ value, (receiptOf value).requestId = requestId)
    (unfinished : requestId ∉ state.terminal) :
    (compute sealedRun >>= fun value =>
      writeTerminalOnce (receiptOf value)).Safe anyStep
        (SealingPost requestId (ReceiptWritten sealedRun receiptOf) state)
        state := by
  rw [Program.safe_bind, Program.safe_compute]
  cases sealedRun with
  | error error =>
      refine ⟨?_, rfl⟩
      rintro ⟨value, bound, data, ⟨⟩, -⟩
  | ok value =>
      have absent : state.terminal.lookup (receiptOf value).requestId =
          none := by
        rw [isId]
        exact AList.lookup_eq_none.mpr unfinished
      rw [Program.bindPost_ok, writeTerminalOnce, Program.safe_bind,
        Program.safe_observe, Program.bindPost_ok, absent]
      simp only [Program.safe_bind, Program.safe_compute]
      cases isBound : (receiptOf value).withId with
      | error error =>
          refine ⟨?_, rfl⟩
          rintro ⟨_, bound, data, ⟨rfl⟩, isOther, -⟩
          rw [isBound] at isOther
          cases isOther
      | ok bound =>
          simp only [Program.bindPost_ok, Program.safe_bind,
            atomicWriteJson, Program.safe_compute]
          cases dumped : dumps bound.toDict with
          | error error =>
              refine ⟨?_, rfl⟩
              rintro ⟨_, other, data, ⟨rfl⟩, isOther, isDumped⟩
              rw [isBound] at isOther
              cases isOther
              rw [dumped] at isDumped
              cases isDumped
          | ok data =>
              refine ⟨trivial, ⟨value, bound, data, rfl, isBound, dumped⟩,
                bound, ?_⟩
              rw [isId]

/-! ## The rest of a dispatch -/

section

variable {first state : State} {context : DispatchContext}
variable {checkpoint : RuntimeRunCheckpoint} {inputDigest : Text}
variable {staged : StagedRun} {outcome : RunOutcome}

/-- The directories in which a started run is sealed. -/
def State.sealing (state : State) (checkpoint : RuntimeRunCheckpoint)
    (inputDigest : Text) : State :=
  (state.putRunning checkpoint.request.requestId
    (checkpoint.started.withInput inputDigest)).noteInvocation
      checkpoint.request

theorem safe_runAdmitted_returns
    (returns : RunnerReturns context first checkpoint inputDigest staged
      outcome)
    (unfinished : checkpoint.request.requestId ∉ state.terminal) :
    (runAdmitted context checkpoint.started).Safe anyStep
      (SealingPost checkpoint.request.requestId
        (Seals context checkpoint staged outcome)
        (state.sealing checkpoint inputDigest)) state := by
  have isRequest : checkpoint.started.request = checkpoint.request := rfl
  rw [runAdmitted, returns.ingested, Program.compute_ok_bind,
    Program.safe_bind]
  refine safe_atomicWriteJson_encodes returns.inputEncodes trivial ?_
  rw [Program.bindPost_ok, isRequest, returns.materialized,
    Program.compute_ok_bind, returns.scratch, Program.compute_ok_bind]
  refine ⟨trivial, ?_⟩
  rw [returns.returned]
  exact safe_sealing (fun _ => rfl) unfinished

theorem safe_dispatchRunning_returns
    (returns : RunnerReturns context first checkpoint inputDigest staged
      outcome)
    (unmarked : checkpoint.request.requestId ∉ state.cancel)
    (unfinished : checkpoint.request.requestId ∉ state.terminal) :
    (dispatchRunning context checkpoint.started).Safe anyStep
      (SealingPost checkpoint.request.requestId
        (Seals context checkpoint staged outcome)
        (state.sealing checkpoint inputDigest)) state := by
  have isRequest : checkpoint.started.request = checkpoint.request := rfl
  obtain ⟨free, isFree, enough⟩ := returns.disk
  rw [dispatchRunning, Program.safe_bind, Program.safe_observe,
    Program.bindPost_ok, isRequest, if_neg (by simpa using unmarked),
    returns.governed]
  simp only
  rw [if_neg returns.admitted, isFree, Program.compute_ok_bind,
    if_neg (Nat.not_lt.mpr enough)]
  exact safe_runAdmitted_returns returns unfinished

/-- After the runner returned, a dispatch unblocks iff the run is sealed. -/
theorem safe_dispatchNext_returns
    (sound : Sound state) (idle : ∀ other, other ∉ state.running)
    {maxQueued : Int} (natural : 0 ≤ maxQueued)
    (returns : RunnerReturns context state checkpoint inputDigest staged
      outcome) :
    (dispatchNext context maxQueued).Safe anyStep
      (fun _ final => Unblocked checkpoint.request.requestId final ↔
        Seals context checkpoint staged outcome) state := by
  have found := lookup_queueHead sound returns.chosen
  have queued := Directory.mem_of_lookup found
  have unfinished := sound.queuedUnfinished _ queued
  have unmarked : checkpoint.request.requestId ∉ state.cancel :=
    fun marked => sound.markedUnqueued _ marked queued
  have noFiles : sortedFiles state.running = [] :=
    List.eq_nil_iff_forall_not_mem.mpr fun other member =>
      idle other (mem_sortedFiles.mp member)
  rw [dispatchNext, if_neg (Int.not_lt.mpr natural), Program.safe_bind,
    Program.safe_observe, Program.bindPost_ok, noFiles,
    if_neg (by simp), Program.safe_bind]
  apply safe_nextQueuedPath_head
  rw [returns.chosen, Option.map_some, Program.bindPost_ok,
    Program.safe_bind]
  refine safe_readFile found ?_
  simp only [Program.bindPost_ok, Program.safe_bind,
    replaceQueuedByRunning, Program.safe_observe, queued, decide_true,
    if_true, Program.safe_update, State.moveToRunning, found]
  refine ⟨trivial, ?_⟩
  refine safe_atomicWriteJson_encodes returns.startedEncodes trivial ?_
  rw [Program.bindPost_ok, Program.safe_bind]
  refine (safe_dispatchRunning_returns returns (by exact unmarked)
    (by exact unfinished)).mono (fun _ _ step => step) ?_
  intro result final sealing
  cases result with
  | error error =>
      obtain ⟨unsealed, rfl⟩ := sealing
      refine iff_of_false (fun unblocked => ?_) unsealed
      exact unblocked.1 checkpoint.request.requestId
        ((AList.mem_insert _).mpr (.inl rfl))
  | ok receipt =>
      obtain ⟨seals, bound, rfl⟩ := sealing
      refine ⟨trivial, trivial, iff_of_true ⟨?_, ?_⟩ seals⟩
      · intro other stays
        obtain ⟨differs, running⟩ := AList.mem_erase.mp stays
        rcases (AList.mem_insert _).mp running with same | running
        · exact differs same
        · rcases (AList.mem_insert _).mp running with same | running
          · exact differs same
          · rcases (AList.mem_insert _).mp running with same | running
            · exact differs same
            · exact idle other running
      · exact (AList.mem_insert _).mpr (.inl rfl)

end

/-! ## Runs that are sealed by `seal_run` -/

/-- A dispatch whose sealer is `seal_run` with this validator. -/
def DispatchContext.sealedBy
    (context : DispatchContext) (ops : SealingOps (Except PyError))
    (outputValidator : Option (Json → Except PyError Unit)) :
    DispatchContext :=
  { context with sealRun := Execution.sealRun ops outputValidator }

/--
The validator accepts the output, the store takes the output and the engine
receipt, the run receipt is written, and the terminal receipt that names them
can be encoded.
-/
def RunIsSealed
    (ops : SealingOps (Except PyError))
    (outputValidator : Option (Json → Except PyError Unit))
    (checkpoint : RuntimeRunCheckpoint) (staged : StagedRun)
    (outcome : RunOutcome) : Prop :=
  ∃ outputObjectId engine engineReceiptObjectId receipt bound data,
    Sealable ops outputValidator staged outcome outputObjectId engine
      engineReceiptObjectId receipt ∧
    (sealedReceipt checkpoint.request (checkpoint.generation + 3) staged
      outcome ⟨receipt.1, outputDigestsOf outputObjectId,
        engine.1⟩).withId = .ok bound ∧
    dumps bound.toDict = .ok data

@[simp]
theorem sealedBy_sealRun
    (context : DispatchContext) (ops : SealingOps (Except PyError))
    (outputValidator : Option (Json → Except PyError Unit)) :
    (context.sealedBy ops outputValidator).sealRun =
      sealRun ops outputValidator :=
  rfl

theorem seals_sealedBy_iff
    {context : DispatchContext} {ops : SealingOps (Except PyError)}
    {outputValidator : Option (Json → Except PyError Unit)}
    {checkpoint : RuntimeRunCheckpoint} {staged : StagedRun}
    {outcome : RunOutcome} :
    Seals (context.sealedBy ops outputValidator) checkpoint staged
        outcome ↔
      RunIsSealed ops outputValidator checkpoint staged outcome := by
  rw [Seals, sealedBy_sealRun]
  constructor
  · rintro ⟨value, bound, data, isSealed, isBound, dumped⟩
    obtain ⟨outputObjectId, engine, engineReceiptObjectId, receipt,
      sealable, rfl⟩ := sealRun_eq_ok_iff.mp isSealed
    exact ⟨outputObjectId, engine, engineReceiptObjectId, receipt, bound,
      data, sealable, isBound, dumped⟩
  · rintro ⟨outputObjectId, engine, engineReceiptObjectId, receipt, bound,
      data, sealable, isBound, dumped⟩
    exact ⟨_, bound, data,
      sealRun_eq_ok_iff.mpr ⟨outputObjectId, engine,
        engineReceiptObjectId, receipt, sealable, rfl⟩, isBound, dumped⟩

/--
In every reachable state with nothing running, when a dispatch gets as far as
the runner and the runner returns, the dispatch leaves `running/` empty and a
terminal receipt of its request, whether it returns or raises, exactly when
the run can be sealed and its receipt encoded.
-/
theorem finished_run_unblocks_iff
    (calls : List (Call Operation)) (context : DispatchContext)
    (ops : SealingOps (Except PyError))
    (outputValidator : Option (Json → Except PyError Unit))
    (maxQueued : Int) (natural : 0 ≤ maxQueued)
    (idle : ∀ other,
      other ∉ (afterCalls code calls State.empty).running)
    (checkpoint : RuntimeRunCheckpoint) (inputDigest : Text)
    (staged : StagedRun) (outcome : RunOutcome)
    (returns : RunnerReturns (context.sealedBy ops outputValidator)
      (afterCalls code calls State.empty) checkpoint inputDigest staged
      outcome) :
    Unblocked checkpoint.request.requestId
        ((dispatchNext (context.sealedBy ops outputValidator)
          maxQueued).run (afterCalls code calls State.empty)).2 ↔
      RunIsSealed ops outputValidator checkpoint staged outcome :=
  (safe_dispatchNext_returns (sound_afterCalls calls) idle natural
    returns).run_post.trans seals_sealedBy_iff

/-! ## A rejected output -/

/-- A checkpoint that waits for its first attempt. -/
def waiting (request : RuntimeRunRequest) : RuntimeRunCheckpoint where
  request := request
  status := .queued
  generation := 1
  sequence := 1
  inputDigest := none

/-- A submission that was taken into an empty queue. -/
def enqueuesFirst (result : Except PyError Outcome) : Bool :=
  match result with
  | .ok (.checkpoint checkpoint) =>
      decide (checkpoint.status = .queued ∧ checkpoint.generation = 1 ∧
        checkpoint.sequence = 1 ∧ checkpoint.inputDigest = none)
  | _ => false

theorem queueHead_of_enqueuesFirst
    {request : RuntimeRunRequest} {after : State}
    {result : Except PyError Outcome}
    (answers : SubmitPost request State.empty result after)
    (enqueues : enqueuesFirst result = true) :
    queueHead after = some (waiting request) := by
  cases result with
  | error error => cases enqueues
  | ok outcome =>
      cases outcome with
      | terminal receipt => cases enqueues
      | checkpoint checkpoint =>
          obtain ⟨isRequest, queued⟩ := answers
          obtain ⟨isQueued, isGeneration, isSequence, isDigest⟩ :=
            of_decide_eq_true enqueues
          rw [queueHead_of_single queued, Option.some.injEq]
          cases checkpoint
          simp only at isRequest isQueued isGeneration isSequence isDigest
          subst isRequest isQueued isGeneration isSequence isDigest
          rfl

theorem afterCalls_submitted
    (request : RuntimeRunRequest) (maxQueued : Int) (state : State) :
    afterCalls code [.complete (.submit request maxQueued)] state =
      ((recordedSubmit request maxQueued).run state).2 :=
  rfl

theorem queueHead_submitted
    {request : RuntimeRunRequest} {maxQueued : Int}
    (enqueues : enqueuesFirst
      ((recordedSubmit request maxQueued).run State.empty).1 = true) :
    queueHead (afterCalls code [.complete (.submit request maxQueued)]
      State.empty) = some (waiting request) := by
  have answers :=
    (safe_recordedSubmit_answers named_empty request maxQueued).run_post
  rw [afterCalls_submitted]
  exact queueHead_of_enqueuesFirst answers enqueues

/-- The small request is queued, and nothing runs. -/
theorem submitted_sample :
    enqueuesFirst ((recordedSubmit sampleRequest 1).run
        State.empty).1 = true ∧
      (afterCalls code [.complete (.submit sampleRequest 1)]
        State.empty).running.keys = [] := by
  unfold code recordedSubmit submit RuntimeRunCheckpoint.toDict
    RuntimeRunRequest.toDict ResourceEstimate.digest
    ResourceEstimate.toCanonicalDict RuntimeRunStatus.value
    RuntimePool.value
  rw [sha256_eq_strict]
  simp -index only [text_ofList]
  decide +kernel

theorem queueHead_sample :
    queueHead (afterCalls code [.complete (.submit sampleRequest 1)]
      State.empty) = some (waiting sampleRequest) :=
  queueHead_submitted submitted_sample.1

/-- Collaborators that answer. -/
def answering : DispatchContext where
  policy :=
    { default := ⟨0, 0, 0, 0⟩
      exception := ⟨0, 0, 0, 0⟩
      requiredFreeDiskBytes := 0 }
  packStatuses := fun _ => none
  freeDiskBytes := .ok 0
  ingestBytes := fun data => .ok (objectIdPrefix ++ sha256 data)
  materializeRun := fun adapterId inputDigest =>
    .ok ⟨adapterId, [(text "input.json", inputDigest)], none⟩
  prepareScratch := .ok ()
  runner := fun _ _ => .ok ⟨.completed, .obj [], ⟨⟨0⟩, 0⟩, none, []⟩
  sealRun := fun _ _ => .ok ⟨[], [], []⟩

/-- A store and a receipt directory that take everything. -/
def taking : SealingOps (Except PyError) where
  ingestBytes := fun data _ => .ok (objectIdPrefix ++ sha256 data)
  storeRootRedacted := text "store"
  engineCreatedUtc := text "2026-01-01T00:00:00Z"
  runCreatedUtc := text "2026-01-01T00:00:00Z"
  writeReceipt := fun _ _ => .ok ()

/-- Whether a record can be encoded. -/
def encodable (payload : Except PyError Json) : Bool :=
  match payload with
  | .ok document =>
      match dumps document with
      | .ok _ => true
      | .error _ => false
  | .error _ => false

theorem encodes_of_encodable
    {payload : Except PyError Json} (holds : encodable payload = true) :
    Encodes payload := by
  cases payload with
  | error error => cases holds
  | ok document =>
      cases dumped : dumps document with
      | error error =>
          rw [encodable, dumped] at holds
          cases holds
      | ok data => exact ⟨document, data, rfl, dumped⟩

/-- The digest of the payload of the request. -/
def sampleDigest : Text :=
  objectIdPrefix ++ sha256 [110, 117, 108, 108, 10]

theorem inputDigestOf_sample
    (outputValidator : Option (Json → Except PyError Unit)) :
    inputDigestOf (answering.sealedBy taking outputValidator)
      (waiting sampleRequest).started = .ok sampleDigest := by
  have dumped : dumps .null = .ok [110, 117, 108, 108, 10] := by
    decide
  change (do
    let payload ← dumps .null
    (.ok (objectIdPrefix ++ sha256 payload) : Except PyError Text)) = _
  rw [dumped]
  rfl

/-- The checkpoints of the first attempt can be encoded. -/
theorem encodable_sample :
    encodable (waiting sampleRequest).started.toDict = true ∧
      encodable ((waiting sampleRequest).started.withInput
        sampleDigest).toDict = true := by
  unfold RuntimeRunCheckpoint.toDict RuntimeRunRequest.toDict
    ResourceEstimate.digest ResourceEstimate.toCanonicalDict
    RuntimeRunStatus.value RuntimePool.value sampleDigest
  rw [sha256_eq_strict]
  simp -index only [text_ofList]
  decide +kernel

/-- With these collaborators the runner is called and returns. -/
theorem answering_returns
    {state : State} (head : queueHead state = some (waiting sampleRequest))
    (outputValidator : Option (Json → Except PyError Unit)) :
    RunnerReturns (answering.sealedBy taking outputValidator) state
      (waiting sampleRequest) sampleDigest
      ⟨text "a", [(text "input.json", sampleDigest)], none⟩
      ⟨.completed, .obj [], ⟨⟨0⟩, 0⟩, none, []⟩ where
  chosen := head
  governed := rfl
  admitted := by
    change admitEstimate ⟨0, 0, 0, 0⟩ ⟨⟨0, 0, 0, 0⟩, ⟨0, 0, 0, 0⟩, 0⟩
      false ≠ .waitRemoteExecutor
    decide
  disk := ⟨0, rfl, Nat.le_refl 0⟩
  startedEncodes := encodes_of_encodable encodable_sample.1
  ingested := inputDigestOf_sample outputValidator
  inputEncodes := encodes_of_encodable encodable_sample.2
  materialized := rfl
  scratch := rfl
  returned := rfl

theorem not_mem_of_keys_nil
    {directory : Directory Text RuntimeRunCheckpoint}
    (empty : directory.keys = []) (requestId : Text) :
    requestId ∉ directory := by
  intro member
  have listed : requestId ∈ directory.keys := AList.mem_keys.mp member
  rw [empty] at listed
  exact List.not_mem_nil listed

/-- A validator that accepts no output. -/
def rejectAll (_ : Json) : Except PyError Unit :=
  .error (raised .valueError "rejected")

theorem rejectAll_not_sealed
    {checkpoint : RuntimeRunCheckpoint} {staged : StagedRun}
    {outcome : RunOutcome}
    (hasOutput : outcome.presentOutput = some (.obj [])) :
    ¬ RunIsSealed taking (some rejectAll) checkpoint staged outcome := by
  rintro ⟨_, _, _, _, _, _, sealable, -⟩
  have taken := sealable.outputTaken
  unfold Execution.OutputTaken at taken
  rw [hasOutput] at taken
  cases taken.1

theorem blocked_of_not_sealed
    {state : State} {context : DispatchContext}
    {ops : SealingOps (Except PyError)}
    {outputValidator : Option (Json → Except PyError Unit)}
    {maxQueued : Int} {checkpoint : RuntimeRunCheckpoint}
    {inputDigest : Text} {staged : StagedRun} {outcome : RunOutcome}
    (sound : Sound state) (idle : ∀ other, other ∉ state.running)
    (natural : 0 ≤ maxQueued)
    (returns : RunnerReturns (context.sealedBy ops outputValidator) state
      checkpoint inputDigest staged outcome)
    (unsealed :
      ¬ RunIsSealed ops outputValidator checkpoint staged outcome) :
    ¬ Unblocked checkpoint.request.requestId
      ((dispatchNext (context.sealedBy ops outputValidator) maxQueued).run
        state).2 := by
  intro unblocked
  have seals := (safe_dispatchNext_returns sound idle natural
    returns).run_post.mp unblocked
  exact unsealed (seals_sealedBy_iff.mp seals)

/-- The one request of the queue. -/
def submittedOnce : List (Call Operation) :=
  [.complete (.submit sampleRequest 1)]

def sampleStaged : StagedRun :=
  ⟨text "a", [(text "input.json", sampleDigest)], none⟩

/-- Its completed run, with an empty object as output. -/
def sampleOutcome : RunOutcome :=
  ⟨.completed, .obj [], ⟨⟨0⟩, 0⟩, none, []⟩

/-- A rejected output leaves the finished run in `running/`. -/
theorem rejected_output_blocks_queue :
    (∀ other, other ∉ (afterCalls code submittedOnce State.empty).running) ∧
      RunnerReturns (answering.sealedBy taking (some rejectAll))
        (afterCalls code submittedOnce State.empty) (waiting sampleRequest)
        sampleDigest sampleStaged sampleOutcome ∧
      ¬ Unblocked sampleRequest.requestId
        ((dispatchNext (answering.sealedBy taking (some rejectAll)) 1).run
          (afterCalls code submittedOnce State.empty)).2 :=
  ⟨not_mem_of_keys_nil submitted_sample.2,
    answering_returns queueHead_sample (some rejectAll),
    blocked_of_not_sealed (sound_afterCalls submittedOnce)
      (not_mem_of_keys_nil submitted_sample.2) (by decide)
      (answering_returns queueHead_sample (some rejectAll))
      (rejectAll_not_sealed rfl)⟩

/-- Without a validator the same run unblocks the queue when sealed. -/
theorem finished_run_unblocks_when_sealed :
    Unblocked sampleRequest.requestId
        ((dispatchNext (answering.sealedBy taking none) 1).run
          (afterCalls code submittedOnce State.empty)).2 ↔
      RunIsSealed taking none (waiting sampleRequest) sampleStaged
        sampleOutcome :=
  finished_run_unblocks_iff submittedOnce answering taking none 1
    (by decide) (not_mem_of_keys_nil submitted_sample.2)
    (waiting sampleRequest) sampleDigest sampleStaged sampleOutcome
    (answering_returns queueHead_sample none)

end ScientificResourceLab.Scheduler
