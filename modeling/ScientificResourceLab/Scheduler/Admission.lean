import ScientificResourceLab.Execution.Policy
import ScientificResourceLab.Scheduler.Runs
import ScientificResourceLab.Scheduler.Sustained

/-!
# Nothing runs that was not admitted

A request waits in `queued/`, in `running/` and, after a crash, in `queued/`
again before the runner is called for it.  Whatever happened on the way, the
call of the runner is that of a submitted request whose dispatch found its
pack active, its estimate admitted by the policy and enough room on the disk,
and a sealed receipt has such a call behind it.
-/

namespace ScientificResourceLab.Scheduler

open Python Contracts Steps
open Execution (RunOutcome SealedRun StagedRun WithinLoaded
  validatePolicyDict withinLoaded_of_admitEstimate policyM1
  resourcePolicyM1 validatePolicyDict_resourcePolicyM1)
open Steps.Program (observe update compute)

/-! ## Calls of the runner -/

section

variable (submits : RuntimeRunRequest → Prop)
variable (condition : DispatchContext → Prop)

/-- The runner was called for a submitted and admitted request. -/
def Gated (invocation : Invocation) : Prop :=
  ∃ request context, submits request ∧ condition context ∧
    Admitted context request ∧
    invocation.requestId = request.requestId ∧
    invocation.inputPayload = request.inputPayload

/-- Every call of the runner is gated, and sealed receipts have one. -/
structure GatedRuns (state : State) : Prop where
  queuedSubmitted : ∀ requestId checkpoint,
    state.queued.lookup requestId = some checkpoint →
      submits checkpoint.request
  runningSubmitted : ∀ requestId checkpoint,
    state.running.lookup requestId = some checkpoint →
      submits checkpoint.request
  invocationGated : ∀ invocation ∈ state.invocations,
    Gated submits condition invocation
  sealedInvoked : ∀ requestId receipt,
    state.terminal.lookup requestId = some receipt →
      receipt.sealed = true →
        ∃ invocation ∈ state.invocations,
          invocation.requestId = requestId

end

section

variable {submits : RuntimeRunRequest → Prop}
variable {condition : DispatchContext → Prop} {state : State}

theorem gatedRuns_empty : GatedRuns submits condition State.empty where
  queuedSubmitted _ _ found := nomatch found
  runningSubmitted _ _ found := nomatch found
  invocationGated _ isCall := nomatch isCall
  sealedInvoked _ _ found := nomatch found

theorem GatedRuns.putTerminal
    (gated : GatedRuns submits condition state) {requestId : Text}
    {receipt : SchedulerTerminalReceipt}
    (invoked : receipt.sealed = true →
      ∃ invocation ∈ state.invocations, invocation.requestId = requestId) :
    GatedRuns submits condition (state.putTerminal requestId receipt) := by
  refine { gated with sealedInvoked := ?_ }
  intro other stored found isSealed
  rcases Directory.lookup_insert_eq_some.mp found with
    ⟨rfl, rfl⟩ | ⟨-, kept⟩
  · exact invoked isSealed
  · exact gated.sealedInvoked other stored kept isSealed

theorem GatedRuns.putQueued
    (gated : GatedRuns submits condition state) (requestId : Text)
    {checkpoint : RuntimeRunCheckpoint}
    (submitted : submits checkpoint.request) :
    GatedRuns submits condition (state.putQueued requestId checkpoint) := by
  refine { gated with queuedSubmitted := ?_ }
  intro other stored found
  rcases Directory.lookup_insert_eq_some.mp found with
    ⟨-, rfl⟩ | ⟨-, kept⟩
  · exact submitted
  · exact gated.queuedSubmitted other stored kept

theorem GatedRuns.putRunning
    (gated : GatedRuns submits condition state) (requestId : Text)
    {checkpoint : RuntimeRunCheckpoint}
    (submitted : submits checkpoint.request) :
    GatedRuns submits condition
      (state.putRunning requestId checkpoint) := by
  refine { gated with runningSubmitted := ?_ }
  intro other stored found
  rcases Directory.lookup_insert_eq_some.mp found with
    ⟨-, rfl⟩ | ⟨-, kept⟩
  · exact submitted
  · exact gated.runningSubmitted other stored kept

/-- A call of the runner behind the gates. -/
theorem GatedRuns.noteInvocation
    (gated : GatedRuns submits condition state)
    {context : DispatchContext} {request : RuntimeRunRequest}
    (submitted : submits request) (holds : condition context)
    (admitted : Admitted context request) :
    GatedRuns submits condition (state.noteInvocation request) := by
  refine { gated with invocationGated := ?_, sealedInvoked := ?_ }
  · intro invocation isCall
    rcases List.mem_append.mp isCall with earlier | isLast
    · exact gated.invocationGated invocation earlier
    · rw [List.mem_singleton.mp isLast]
      exact ⟨request, context, submitted, holds, admitted, rfl, rfl⟩
  · intro requestId receipt found isSealed
    rcases gated.sealedInvoked requestId receipt found isSealed with
      ⟨invocation, isCall, isId⟩
    exact ⟨invocation, List.mem_append_left _ isCall, isId⟩

theorem gatedRuns_requestRules :
    RequestRules submits (GatedRuns submits condition)
      fun checkpoint => submits checkpoint.request where
  queued _ requestId checkpoint gated :=
    gated.queuedSubmitted requestId checkpoint
  running _ requestId checkpoint gated :=
    gated.runningSubmitted requestId checkpoint
  fresh _ submitted _ := submitted
  carried _ _ sameRequest _ submitted := sameRequest ▸ submitted
  noteSubmitted _ _ gated := { gated with }
  putQueued _ requestId _ submitted gated :=
    gated.putQueued requestId submitted
  putRunning _ requestId _ submitted gated :=
    gated.putRunning requestId submitted
  putCancel _ _ _ gated := { gated with }
  dropQueued state requestId gated := by
    refine { gated with queuedSubmitted := ?_ }
    intro other stored found
    exact gated.queuedSubmitted other stored
      (Directory.lookup_erase_eq_some.mp found).2
  dropRunning state requestId gated := by
    refine { gated with runningSubmitted := ?_ }
    intro other stored found
    exact gated.runningSubmitted other stored
      (Directory.lookup_erase_eq_some.mp found).2
  dropCancel _ _ gated := { gated with }
  putUnsealed _ _ unsealed gated := gated.putTerminal fun isSealed =>
    nomatch unsealed.symm.trans isSealed

/-! ## An attempt -/

/-- A receipt may be sealed once the runner was called for its request. -/
theorem safe_writeTerminalOnce_gated
    (gated : GatedRuns submits condition state)
    {receipt : SchedulerTerminalReceipt}
    (invoked : ∃ invocation ∈ state.invocations,
      invocation.requestId = receipt.requestId) :
    (writeTerminalOnce receipt).Safe
      (fun _ after => GatedRuns submits condition after)
      (Program.SustainedPost (GatedRuns submits condition) fun _ => True)
      state := by
  have stops (error : PyError) :
      Program.SustainedPost (GatedRuns submits condition) (fun _ => True)
        (.error error : Except PyError SchedulerTerminalReceipt) state :=
    ⟨gated, fun _ isResult => nomatch isResult⟩
  rw [writeTerminalOnce, Program.safe_bind, Program.safe_observe,
    Program.bindPost_ok]
  cases state.terminal.lookup receipt.requestId with
  | some existing => exact ⟨gated, fun _ _ => trivial⟩
  | none =>
      refine Program.safe_compute_bind (fun bound isBound => ?_) stops
      have closed : GatedRuns submits condition
          (state.putTerminal receipt.requestId bound) :=
        gated.putTerminal fun _ => invoked
      rw [Program.safe_bind]
      exact safe_atomicWriteJson closed ⟨closed, fun _ _ => trivial⟩ stops

theorem sustains_gated_attempt
    {context : DispatchContext} {request : RuntimeRunRequest}
    (submitted : submits request) (holds : condition context)
    (admitted : Admitted context request)
    (staged : StagedRun) (generation : Nat) :
    (do
      update fun state => state.noteInvocation request
      let outcome ← compute (context.runner request context.policy)
      let sealedRun ← compute (context.sealRun staged outcome)
      writeTerminalOnce (sealedReceipt request generation staged outcome
        sealedRun) : Action SchedulerTerminalReceipt).Sustains
          (GatedRuns submits condition) fun _ => True := by
  intro state gated
  have noted := gated.noteInvocation submitted holds admitted
  have stops (error : PyError) :
      Program.SustainedPost (GatedRuns submits condition) (fun _ => True)
        (.error error : Except PyError SchedulerTerminalReceipt)
        (state.noteInvocation request) :=
    ⟨noted, fun _ isResult => nomatch isResult⟩
  refine ⟨noted, ?_⟩
  refine Program.safe_compute_bind (fun outcome _ => ?_) stops
  refine Program.safe_compute_bind (fun sealedRun _ => ?_) stops
  exact safe_writeTerminalOnce_gated noted
    ⟨_, List.mem_append_right _ (List.mem_singleton.mpr rfl), rfl⟩

theorem sustains_runAdmitted_gated
    {context : DispatchContext} {checkpoint : RuntimeRunCheckpoint}
    (submitted : submits checkpoint.request) (holds : condition context)
    (admitted : Admitted context checkpoint.request) :
    (runAdmitted context checkpoint).Sustains
      (GatedRuns submits condition) fun _ => True :=
  Program.sustains_compute_then fun _ _ =>
    Program.sustains_then
      (sustains_atomicWriteJson fun _ gated =>
        gated.putRunning _ submitted) fun _ =>
    Program.sustains_compute_then fun _ _ =>
    Program.sustains_compute_then fun _ _ =>
    sustains_gated_attempt submitted holds admitted _ _

end

/-! ## Histories -/

def Operation.requests : Operation → List RuntimeRunRequest
  | .submit request _ => [request]
  | .submitAndDispatchOnce request _ _ => [request]
  | _ => []

def Operation.contexts : Operation → List DispatchContext
  | .dispatchNext context _ => [context]
  | .submitAndDispatchOnce _ context _ => [context]
  | _ => []

theorem Operation.submits_of_forall
    {condition : RuntimeRunRequest → Prop} {operation : Operation}
    (holds : ∀ request ∈ operation.requests, condition request) :
    operation.Submits condition := by
  cases operation with
  | submit request maxQueued => exact holds request List.mem_cons_self
  | submitAndDispatchOnce request context maxQueued =>
      exact holds request List.mem_cons_self
  | _ => trivial

theorem Operation.dispatches_of_forall
    {condition : DispatchContext → Prop} {operation : Operation}
    (holds : ∀ context ∈ operation.contexts, condition context) :
    operation.Dispatches condition := by
  cases operation with
  | dispatchNext context maxQueued => exact holds context List.mem_cons_self
  | submitAndDispatchOnce request context maxQueued =>
      exact holds context List.mem_cons_self
  | _ => trivial

/-- One of the calls submits the request. -/
def SubmittedIn (calls : List (Call Operation))
    (request : RuntimeRunRequest) : Prop :=
  ∃ call ∈ calls, request ∈ call.operation.requests

/-- One of the calls dispatches with the context. -/
def DispatchedIn (calls : List (Call Operation))
    (context : DispatchContext) : Prop :=
  ∃ call ∈ calls, context ∈ call.operation.contexts

theorem gatedRuns_afterCalls (calls : List (Call Operation)) :
    GatedRuns (SubmittedIn calls) (DispatchedIn calls)
      (afterCalls code calls State.empty) :=
  afterCalls_of_sustains
    (fun call isCall => gatedRuns_requestRules.code
      (fun _ holds _ submitted admitted =>
        sustains_runAdmitted_gated submitted holds admitted)
      (Operation.dispatches_of_forall fun _ isContext =>
        ⟨call, isCall, isContext⟩)
      (Operation.submits_of_forall fun _ isRequest =>
        ⟨call, isCall, isRequest⟩))
    gatedRuns_empty

/-- The policy of a dispatch was loaded from a document. -/
def LoadedPolicy (context : DispatchContext) : Prop :=
  ∃ doc, validatePolicyDict doc = .ok context.policy

/--
After any history, crashes included, the runner was only ever called for a
request that was submitted and that one of the dispatches admitted: its pack
is active, its estimate is within what a loaded policy can allow, and the
disk has the room the policy asks for.  A sealed receipt is that of such a
call.
-/
theorem runner_called_behind_gates
    (calls : List (Call Operation))
    (loaded : ∀ context, DispatchedIn calls context →
      LoadedPolicy context) :
    (∀ invocation ∈ (afterCalls code calls State.empty).invocations,
      ∃ request context, SubmittedIn calls request ∧
        DispatchedIn calls context ∧ Admitted context request ∧
        WithinLoaded context.policy request.resourceEstimate
          request.useException ∧
        invocation = ⟨request.requestId, request.inputPayload, false⟩) ∧
    ∀ requestId receipt,
      (afterCalls code calls State.empty).terminal.lookup requestId =
        some receipt → receipt.sealed = true →
        ∃ invocation ∈ (afterCalls code calls State.empty).invocations,
          invocation.requestId = requestId := by
  have gated := gatedRuns_afterCalls calls
  refine ⟨fun invocation isCall => ?_, gated.sealedInvoked⟩
  rcases gated.invocationGated invocation isCall with
    ⟨request, context, submitted, dispatched, admitted, isId, isPayload⟩
  rcases loaded context dispatched with ⟨doc, valid⟩
  have unfinished :=
    (sound_afterCalls calls).invokedUnfinished invocation isCall
  refine ⟨request, context, submitted, dispatched, admitted,
    withinLoaded_of_admitEstimate valid admitted.estimated, ?_⟩
  rw [← isId, ← isPayload, ← unfinished]

/-- A dispatch under the policy of the repository that nothing stops. -/
def dispatchingM1 : DispatchContext where
  policy := policyM1
  packStatuses _ := none
  freeDiskBytes := .ok (2 ^ 40)
  ingestBytes data := .ok (objectIdPrefix ++ sha256 data)
  materializeRun adapterId inputDigest :=
    .ok ⟨adapterId, [(text "input.json", inputDigest)], none⟩
  prepareScratch := .ok ()
  runner _ _ := .ok ⟨.completed, .obj [], ⟨⟨0⟩, 0⟩, none, []⟩
  sealRun _ _ := .ok ⟨[], [], []⟩

/-- A submission and a dispatch that a crash cuts after five writes. -/
def cutDispatch : List (Call Operation) :=
  [.complete (.submit sampleRequest 1),
    .crashed (.dispatchNext dispatchingM1 1) 5]

theorem runner_called_behind_policyM1 :
    (∀ invocation ∈
        (afterCalls code cutDispatch State.empty).invocations,
      ∃ request context, Admitted context request ∧
        WithinLoaded context.policy request.resourceEstimate
          request.useException ∧
        invocation = ⟨request.requestId, request.inputPayload, false⟩) ∧
    ∀ requestId receipt,
      (afterCalls code cutDispatch State.empty).terminal.lookup requestId =
        some receipt → receipt.sealed = true →
        ∃ invocation ∈
          (afterCalls code cutDispatch State.empty).invocations,
          invocation.requestId = requestId := by
  have behind := runner_called_behind_gates cutDispatch <| by
    rintro context ⟨call, isCall, isContext⟩
    simp only [cutDispatch, List.mem_cons, List.not_mem_nil, or_false]
      at isCall
    rcases isCall with rfl | rfl
    · cases isContext
    · rcases List.mem_singleton.mp isContext with rfl
      exact ⟨resourcePolicyM1, validatePolicyDict_resourcePolicyM1⟩
  refine ⟨fun invocation isCall => ?_, behind.2⟩
  rcases behind.1 invocation isCall with
    ⟨request, context, -, -, admitted, within, isInvocation⟩
  exact ⟨request, context, admitted, within, isInvocation⟩

end ScientificResourceLab.Scheduler
