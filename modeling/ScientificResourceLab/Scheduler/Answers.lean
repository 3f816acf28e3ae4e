import ScientificResourceLab.Scheduler.Dispatch
import ScientificResourceLab.Scheduler.Fairness

/-!
# The answer of a dispatch

`dispatch_next` returns a receipt of the request that it took from the queue.
The one-shot helper passes on what its dispatch returns, so its answer is for
the request that the queue order selects once its own request is enqueued.
-/

namespace ScientificResourceLab.Scheduler

open Python Contracts Steps
open Steps.Program (observe update compute Safe bindPost)

/-- The transitions are not restricted. -/
abbrev anyStep (_ _ : State) : Prop :=
  True

/-- What is returned is a receipt of the request. -/
def AnswersFor (requestId : Text) :
    Except PyError SchedulerTerminalReceipt → State → Prop :=
  fun result _ => ∀ receipt, result = .ok receipt →
    receipt.requestId = requestId

theorem answersFor_error
    (requestId : Text) (error : PyError) (state : State) :
    AnswersFor requestId (.error error) state := by
  rintro receipt ⟨⟩

/-! ## Terminal receipts -/

theorem safe_writeTerminalOnce_answers
    {state : State} (named : Named state) {requestId : Text}
    {receipt : SchedulerTerminalReceipt}
    (isId : receipt.requestId = requestId) :
    (writeTerminalOnce receipt).Safe anyStep (AnswersFor requestId)
      state := by
  subst isId
  simp only [writeTerminalOnce, Program.safe_bind, Program.safe_observe,
    Program.bindPost_ok]
  cases found : state.terminal.lookup receipt.requestId with
  | some existing =>
      rw [Program.safe_pure]
      rintro _ ⟨rfl⟩
      exact named _ _ found
  | none =>
      simp only [Program.safe_bind, Program.safe_compute]
      cases isBound : receipt.withId with
      | error error => exact answersFor_error _ error state
      | ok bound =>
          simp only [Program.bindPost_ok, Program.safe_bind]
          refine safe_atomicWriteJson trivial ?_ fun error =>
            answersFor_error _ error state
          rw [Program.bindPost_ok, Program.safe_pure]
          rintro _ ⟨rfl⟩
          exact (withId_fields isBound).1

/-! ## Submission -/

/-- What `submit` answers, and what it leaves in the queue. -/
def SubmitPost (request : RuntimeRunRequest) (before : State) :
    Except PyError Outcome → State → Prop
  | .error _, _ => True
  | .ok (.terminal receipt), _ => receipt.requestId = request.requestId
  | .ok (.checkpoint checkpoint), after =>
      checkpoint.request = request ∧
        after.queued = before.queued.insert request.requestId checkpoint

theorem safe_recordedSubmit_answers
    {state : State} (named : Named state) (request : RuntimeRunRequest)
    (maxQueued : Int) :
    (recordedSubmit request maxQueued).Safe anyStep
      (SubmitPost request state) state := by
  have noted (outcome : Outcome) (final : State)
      (holds : SubmitPost request state (.ok outcome) final) :
      ((do
        update fun state => state.noteSubmitted request.requestId
        pure outcome : Action Outcome)).Safe anyStep
          (SubmitPost request state) final := by
    refine ⟨trivial, ?_⟩
    cases outcome <;> exact holds
  rw [recordedSubmit, Program.safe_bind, submit, validateRequestId,
    if_pos request.requestIdValid, Program.compute_ok_bind,
    Program.safe_ite]
  refine ⟨fun _ => trivial, fun _ => ?_⟩
  simp only [Program.safe_bind, Program.safe_observe, Program.bindPost_ok]
  cases found : state.terminal.lookup request.requestId with
  | some receipt => exact noted _ _ (named _ _ found)
  | none =>
      simp only [Program.safe_bind, Program.safe_observe,
        Program.bindPost_ok, Program.safe_ite, Program.safe_throw,
        Program.bindPost_error]
      refine ⟨fun _ => trivial, fun _ => ⟨fun _ => ?_, fun _ => ?_⟩⟩
      · refine (safe_writeTerminalOnce_answers named rfl).mono
          (fun _ _ step => step) ?_
        intro result final answers
        cases result with
        | error error => trivial
        | ok receipt => exact noted _ _ (answers receipt rfl)
      · refine safe_nextSequence _ (fun sequence _ => ?_) fun _ => trivial
        simp only [Program.bindPost_ok, Program.safe_bind]
        exact safe_atomicWriteJson trivial (noted _ _ ⟨rfl, rfl⟩)
          fun _ => trivial

/-! ## Dispatch -/

theorem safe_terminalFromWait_answers
    {state : State} (named : Named state) (request : RuntimeRunRequest)
    (generation : Nat) (status : RuntimeRunStatus) (failReason : String)
    (detail : Text) :
    (terminalFromWait request generation status failReason detail).Safe
      anyStep (AnswersFor request.requestId) state :=
  safe_writeTerminalOnce_answers named rfl

theorem safe_runAdmitted_answers
    {state : State} (named : Named state) (context : DispatchContext)
    (checkpoint : RuntimeRunCheckpoint) :
    (runAdmitted context checkpoint).Safe anyStep
      (AnswersFor checkpoint.request.requestId) state := by
  have stopped := answersFor_error checkpoint.request.requestId
  refine Program.safe_compute_bind (fun inputDigest _ => ?_)
    fun error => stopped error _
  rw [Program.safe_bind]
  refine safe_atomicWriteJson trivial ?_ fun error => stopped error state
  refine Program.safe_compute_bind (fun staged _ => ?_)
    fun error => stopped error _
  refine Program.safe_compute_bind (fun _ _ => ?_)
    fun error => stopped error _
  refine ⟨trivial, ?_⟩
  refine Program.safe_compute_bind (fun outcome _ => ?_)
    fun error => stopped error _
  refine Program.safe_compute_bind (fun sealedRun _ => ?_)
    fun error => stopped error _
  exact safe_writeTerminalOnce_answers (by exact named) rfl

theorem safe_dispatchRunning_answers
    {state : State} (named : Named state) (context : DispatchContext)
    (checkpoint : RuntimeRunCheckpoint) :
    (dispatchRunning context checkpoint).Safe anyStep
      (AnswersFor checkpoint.request.requestId) state := by
  simp only [dispatchRunning, Program.safe_bind, Program.safe_observe,
    Program.bindPost_ok, Program.safe_ite]
  refine ⟨fun _ => safe_terminalFromWait_answers named _ _ _ _ _, fun _ => ?_⟩
  cases packWaitDetail checkpoint.request context.packStatuses with
  | some detail => exact safe_terminalFromWait_answers named _ _ _ _ _
  | none =>
      simp only [Program.safe_ite]
      refine ⟨fun _ => safe_terminalFromWait_answers named _ _ _ _ _,
        fun _ => ?_⟩
      refine Program.safe_compute_bind (fun free _ => ?_)
        fun error => answersFor_error _ error _
      rw [Program.safe_ite]
      exact ⟨fun _ => safe_terminalFromWait_answers named _ _ _ _ _,
        fun _ => safe_runAdmitted_answers named context checkpoint⟩

/-- A dispatch answers for the request that the queue order selects. -/
theorem safe_dispatchNext_answers
    {state : State} (sound : Sound state) (named : Named state)
    (context : DispatchContext) (maxQueued : Int) :
    (dispatchNext context maxQueued).Safe anyStep
      (fun result _ => ∀ receipt, result = .ok (some receipt) →
        ∃ chosen, queueHead state = some chosen ∧
          receipt.requestId = chosen.request.requestId) state := by
  simp only [dispatchNext, Program.safe_bind, Program.safe_ite,
    Program.safe_throw, Program.safe_pure, Program.safe_observe,
    Program.bindPost_ok, Program.bindPost_error, reduceCtorEq,
    false_imp_iff, implies_true, true_and, Except.ok.injEq]
  intro _ _
  apply safe_nextQueuedPath_head
  cases head : queueHead state with
  | none => simp
  | some chosen =>
      have found := lookup_queueHead sound head
      have queued := Directory.mem_of_lookup found
      simp only [Option.map_some, Program.bindPost_ok, Program.safe_bind]
      refine safe_readFile found ?_
      simp only [Program.bindPost_ok, Program.safe_bind,
        replaceQueuedByRunning, Program.safe_observe, queued,
        decide_true, if_true, Program.safe_update, State.moveToRunning,
        found]
      refine ⟨trivial, ?_⟩
      refine safe_atomicWriteJson trivial ?_ (by simp)
      simp only [Program.bindPost_ok, Program.safe_bind]
      refine (safe_dispatchRunning_answers (by exact named) context
        _).mono (fun _ _ step => step) ?_
      intro result final answers
      cases result with
      | error error => simp
      | ok receipt =>
          refine ⟨trivial, trivial, ?_⟩
          rintro _ ⟨rfl⟩
          exact ⟨chosen, rfl, answers receipt rfl⟩

/-! ## The one-shot helper -/

/-- A queue with one file selects it. -/
theorem queueHead_of_single
    {state : State} {checkpoint : RuntimeRunCheckpoint} {requestId : Text}
    (single : state.queued = AList.insert requestId checkpoint ∅) :
    queueHead state = some checkpoint := by
  have found : state.queued.lookup requestId = some checkpoint := by
    rw [single]
    exact AList.lookup_insert _
  have keys : state.queued.keys = [requestId] := by
    rw [single]
    rfl
  rw [queueHead, queuedCheckpoints, sortedFiles, keys]
  simp [found, firstQueued]

/-- The answer of a returned helper, after any `submit`. -/
theorem answer_of_returned
    {state : State} (sound : Sound state) (named : Named state)
    {request : RuntimeRunRequest} {context : DispatchContext}
    {maxQueued : Int} {receipt : SchedulerTerminalReceipt}
    (returned : ((submitAndDispatchOnce request context maxQueued).run
      state).1 = .ok receipt) :
    (∃ after, (recordedSubmit request maxQueued).run state =
        (.ok (.terminal receipt), after)) ∧
      receipt.requestId = request.requestId ∨
    ∃ checkpoint enqueued chosen,
      (recordedSubmit request maxQueued).run state =
        (.ok (.checkpoint checkpoint), enqueued) ∧
      checkpoint.request = request ∧
      enqueued.queued =
        state.queued.insert request.requestId checkpoint ∧
      queueHead enqueued = some chosen ∧
      receipt.requestId = chosen.request.requestId := by
  have answers := (safe_recordedSubmit_answers named request
    maxQueued).run_post
  have soundAfter := (safe_recordedSubmit sound request maxQueued).run_post
  have namedAfter : Named ((recordedSubmit request maxQueued).run
      state).2 :=
    (sustains_submit named_writeRules request maxQueued state
      named).run_post.1
  rw [submitAndDispatchOnce] at returned
  cases submitted : (recordedSubmit request maxQueued).run state with
  | mk result enqueued =>
      rw [submitted] at answers soundAfter namedAfter
      cases result with
      | error error =>
          rw [Program.run_bind_error submitted] at returned
          cases returned
      | ok outcome =>
          rw [Program.run_bind_ok submitted] at returned
          cases outcome with
          | terminal answered =>
              cases returned
              exact .inl ⟨⟨enqueued, rfl⟩, answers⟩
          | checkpoint checkpoint =>
              have dispatched := (safe_dispatchNext_answers soundAfter
                namedAfter context maxQueued).run_post
              cases ran : (dispatchNext context maxQueued).run
                  enqueued with
              | mk result final =>
                  rw [ran] at dispatched
                  cases result with
                  | error error =>
                      simp only [Program.run_bind_error ran] at returned
                      cases returned
                  | ok terminal =>
                      simp only [Program.run_bind_ok ran] at returned
                      cases terminal with
                      | none => cases returned
                      | some answered =>
                          cases returned
                          obtain ⟨chosen, head, isId⟩ :=
                            dispatched _ rfl
                          exact .inr ⟨checkpoint, enqueued, chosen, rfl,
                            answers.1, answers.2, head, isId⟩

/--
In every reachable state the one-shot helper answers with the receipt that
`submit` answered for its request, or with a receipt of the request that the
queue order selects after its own request was enqueued.  On an empty queue
both are its own request.
-/
theorem submit_and_dispatch_once_answers
    (calls : List (Call Operation)) (request : RuntimeRunRequest)
    (context : DispatchContext) (maxQueued : Int)
    (receipt : SchedulerTerminalReceipt)
    (returned : ((submitAndDispatchOnce request context maxQueued).run
      (afterCalls code calls State.empty)).1 = .ok receipt) :
    ((∃ after, (recordedSubmit request maxQueued).run
          (afterCalls code calls State.empty) =
        (.ok (.terminal receipt), after)) ∧
      receipt.requestId = request.requestId ∨
    ∃ checkpoint enqueued chosen,
      (recordedSubmit request maxQueued).run
          (afterCalls code calls State.empty) =
        (.ok (.checkpoint checkpoint), enqueued) ∧
      checkpoint.request = request ∧
      enqueued.queued = (afterCalls code calls State.empty).queued.insert
        request.requestId checkpoint ∧
      queueHead enqueued = some chosen ∧
      receipt.requestId = chosen.request.requestId) ∧
    ((afterCalls code calls State.empty).queued = ∅ →
      receipt.requestId = request.requestId) := by
  have answer := answer_of_returned (sound_afterCalls calls)
    (named_afterCalls calls) returned
  refine ⟨answer, fun empty => ?_⟩
  rcases answer with ⟨-, own⟩ | ⟨checkpoint, enqueued, chosen, -, isOwn,
    queued, head, isId⟩
  · exact own
  · rw [empty] at queued
    rw [queueHead_of_single queued] at head
    cases head
    rw [isId, isOwn]

/-- The request of a returned receipt. -/
def answeredId (result : Except PyError SchedulerTerminalReceipt) :
    Option Text :=
  match result with
  | .ok receipt => some receipt.requestId
  | .error _ => none

theorem eq_ok_of_answeredId
    {result : Except PyError SchedulerTerminalReceipt} {requestId : Text}
    (answered : answeredId result = some requestId) :
    ∃ receipt, result = .ok receipt ∧ receipt.requestId = requestId := by
  cases result with
  | error error => cases answered
  | ok receipt => exact ⟨receipt, rfl, Option.some.inj answered⟩

/-- A request of low priority. -/
def laterRequest : RuntimeRunRequest :=
  prioritized "old" 0 oldId_valid

/-- A request of high priority is in the queue. -/
def urgentQueued : List (Call Operation) :=
  [.complete (.submit (prioritized "a" 2 urgentId_valid) 4)]

/-- The answers of the helper with an urgent request ahead and without. -/
theorem answeredId_later :
    answeredId ((submitAndDispatchOnce laterRequest fullDisk 4).run
        (afterCalls code urgentQueued State.empty)).1 = some (text "a") ∧
      answeredId ((submitAndDispatchOnce laterRequest fullDisk 4).run
        (afterCalls code [] State.empty)).1 = some (text "old") := by
  unfold urgentQueued code submitAndDispatchOnce recordedSubmit submit
    dispatchNext dispatchRunning terminalFromWait unsealedReceipt
    writeTerminalOnce SchedulerTerminalReceipt.withId
    SchedulerTerminalReceipt.toDict SchedulerTerminalReceipt.toDictWithoutId
    SchedulerTerminalReceipt.members RuntimeRunCheckpoint.toDict
    RuntimeRunRequest.toDict ResourceEstimate.digest
    ResourceEstimate.toCanonicalDict RuntimeRunStatus.value
    RuntimePool.value
  rw [objectId_eq_strict, sha256_eq_strict]
  simp -index only [text_ofList]
  decide +kernel

/-- The helper answers with a receipt of the urgent request. -/
theorem answered_for_another_request :
    ∃ receipt,
      ((submitAndDispatchOnce laterRequest fullDisk 4).run
        (afterCalls code urgentQueued State.empty)).1 = .ok receipt ∧
      receipt.requestId ≠ laterRequest.requestId := by
  obtain ⟨receipt, returned, isId⟩ := eq_ok_of_answeredId
    answeredId_later.1
  refine ⟨receipt, returned, ?_⟩
  rw [isId]
  decide

/-- The helper answers for the head of a queue with an urgent request, and on
an empty queue for its own request. -/
theorem submit_and_dispatch_once_answers_behind :
    (∃ receipt enqueued chosen,
      ((submitAndDispatchOnce laterRequest fullDisk 4).run
        (afterCalls code urgentQueued State.empty)).1 = .ok receipt ∧
      queueHead enqueued = some chosen ∧
      receipt.requestId = chosen.request.requestId ∧
      receipt.requestId = text "a") ∧
    ∃ receipt,
      ((submitAndDispatchOnce laterRequest fullDisk 4).run
        (afterCalls code [] State.empty)).1 = .ok receipt ∧
      receipt.requestId = laterRequest.requestId := by
  constructor
  · obtain ⟨receipt, returned, urgent⟩ := eq_ok_of_answeredId
      answeredId_later.1
    rcases (submit_and_dispatch_once_answers urgentQueued laterRequest
      fullDisk 4 receipt returned).1 with
      ⟨-, own⟩ | ⟨_, enqueued, chosen, -, -, -, head, isChosen⟩
    · rw [own] at urgent
      exact absurd urgent (by decide)
    · exact ⟨receipt, enqueued, chosen, returned, head, isChosen, urgent⟩
  · obtain ⟨receipt, returned, -⟩ := eq_ok_of_answeredId
      answeredId_later.2
    exact ⟨receipt, returned, (submit_and_dispatch_once_answers []
      laterRequest fullDisk 4 receipt returned).2 rfl⟩

end ScientificResourceLab.Scheduler
