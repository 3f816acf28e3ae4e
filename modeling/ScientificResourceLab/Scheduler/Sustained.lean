import ScientificResourceLab.Scheduler.Roots
import ScientificResourceLab.Steps.Invariants

/-!
# Invariants of the scheduler's directories

`RequestRules` lists what an invariant has to survive: one rule for each kind
of file that the scheduler writes or removes, and a fact about checkpoints
that holds of every checkpoint in `queued/` and `running/`, where only some
requests are submitted.  With these rules and with a proof for the attempt
itself, the invariant holds after every operation and at every crash
(`RequestRules.code`).  `WriteRules` are the rules where every request may be
submitted.
-/

namespace ScientificResourceLab.Scheduler

open Python Contracts Steps
open Steps.Program (observe update compute)

/-- An invariant that survives every write outside an attempt. -/
structure RequestRules
    (submits : RuntimeRunRequest → Prop)
    (invariant : State → Prop) (fact : RuntimeRunCheckpoint → Prop) :
    Prop where
  queued : ∀ state requestId checkpoint, invariant state →
    state.queued.lookup requestId = some checkpoint → fact checkpoint
  running : ∀ state requestId checkpoint, invariant state →
    state.running.lookup requestId = some checkpoint → fact checkpoint
  fresh : ∀ checkpoint, submits checkpoint.request →
    checkpoint.inputDigest = none → fact checkpoint
  carried : ∀ first second : RuntimeRunCheckpoint,
    second.request = first.request →
      second.inputDigest = first.inputDigest → fact first → fact second
  noteSubmitted : ∀ state requestId, invariant state →
    invariant (state.noteSubmitted requestId)
  putQueued : ∀ state requestId checkpoint, fact checkpoint →
    invariant state → invariant (state.putQueued requestId checkpoint)
  putRunning : ∀ state requestId checkpoint, fact checkpoint →
    invariant state → invariant (state.putRunning requestId checkpoint)
  putCancel : ∀ state requestId generation, invariant state →
    invariant (state.putCancel requestId generation)
  dropQueued : ∀ state requestId, invariant state →
    invariant (state.dropQueued requestId)
  dropRunning : ∀ state requestId, invariant state →
    invariant (state.dropRunning requestId)
  dropCancel : ∀ state requestId, invariant state →
    invariant (state.dropCancel requestId)
  putUnsealed : ∀ state receipt, receipt.sealed = false →
    invariant state →
      invariant (state.putTerminal receipt.requestId receipt)

/-- The rules where every request may be submitted. -/
abbrev WriteRules
    (invariant : State → Prop) (fact : RuntimeRunCheckpoint → Prop) : Prop :=
  RequestRules (fun _ => True) invariant fact

section

variable {invariant : State → Prop} {fact : RuntimeRunCheckpoint → Prop}
variable {submits : RuntimeRunRequest → Prop}

/-! ## Files -/

theorem sustains_readFile
    {α : Type} {holds : α → Prop} {directory : State → Directory Text α}
    {requestId : Text}
    (found : ∀ state record, invariant state →
      (directory state).lookup requestId = some record → holds record) :
    (readFile directory requestId).Sustains invariant holds := by
  refine Program.sustains_observe_then fun state sound => ?_
  cases isFile : (directory state).lookup requestId with
  | some record =>
      exact Program.sustains_pure (found state record sound isFile)
  | none => exact Program.sustains_throw _

/-- Read a file whose content does not matter. -/
theorem sustains_readFile_any
    {α : Type} (directory : State → Directory Text α) (requestId : Text) :
    (readFile directory requestId).Sustains invariant fun _ => True :=
  sustains_readFile fun _ _ _ _ => trivial

theorem sustains_atomicWriteJson
    {payload : Except PyError Json} {rename : State → State}
    (kept : ∀ state, invariant state → invariant (rename state)) :
    (atomicWriteJson payload rename).Sustains invariant fun _ => True :=
  Program.sustains_compute_then fun _ _ =>
    Program.sustains_compute_then fun _ _ => Program.sustains_update kept

theorem sustains_readCheckpoints (paths : List Text) :
    (readCheckpoints paths).Sustains invariant fun _ => True := by
  induction paths with
  | nil => exact Program.sustains_pure trivial
  | cons path paths induction =>
      exact Program.sustains_then (sustains_readFile_any _ _) fun _ =>
        Program.sustains_then induction fun _ =>
          Program.sustains_pure trivial

theorem sustains_nextSequence (paths : List Text) :
    (nextSequence paths).Sustains invariant fun _ => True :=
  Program.sustains_ite (fun _ => Program.sustains_pure trivial) fun _ =>
    Program.sustains_then (sustains_readCheckpoints paths) fun _ =>
      Program.sustains_pure trivial

theorem sustains_nextQueuedPath :
    nextQueuedPath.Sustains invariant fun _ => True :=
  Program.sustains_observe_then fun _ _ =>
    Program.sustains_then (sustains_readCheckpoints _) fun _ =>
      Program.sustains_pure trivial

theorem sustains_unlinkQueued
    (rules : RequestRules submits invariant fact) (requestId : Text) :
    (unlinkQueued requestId).Sustains invariant fun _ => True :=
  Program.sustains_observe_then fun _ _ =>
    Program.sustains_ite
      (fun _ => Program.sustains_update fun state sound =>
        rules.dropQueued state requestId sound)
      fun _ => Program.sustains_throw _

theorem sustains_unlinkRunning
    (rules : RequestRules submits invariant fact) (requestId : Text) :
    (unlinkRunning requestId).Sustains invariant fun _ => True :=
  Program.sustains_observe_then fun _ _ =>
    Program.sustains_ite
      (fun _ => Program.sustains_update fun state sound =>
        rules.dropRunning state requestId sound)
      fun _ => Program.sustains_throw _

theorem RequestRules.moveToRunning
    (rules : RequestRules submits invariant fact) {state : State}
    (source target : Text) (sound : invariant state) :
    invariant (state.moveToRunning source target) := by
  rw [State.moveToRunning]
  cases isFile : state.queued.lookup source with
  | none => exact sound
  | some checkpoint =>
      exact rules.putRunning _ target checkpoint
        (rules.queued state source checkpoint sound isFile)
        (rules.dropQueued state source sound)

theorem sustains_replaceQueuedByRunning
    (rules : RequestRules submits invariant fact) (source target : Text) :
    (replaceQueuedByRunning source target).Sustains invariant
      fun _ => True :=
  Program.sustains_observe_then fun _ _ =>
    Program.sustains_ite
      (fun _ => Program.sustains_update fun _ sound =>
        rules.moveToRunning source target sound)
      fun _ => Program.sustains_throw _

theorem sustains_writeTerminalOnce
    (rules : RequestRules submits invariant fact)
    {receipt : SchedulerTerminalReceipt} (unsealed : receipt.sealed = false) :
    (writeTerminalOnce receipt).Sustains invariant fun _ => True := by
  refine Program.sustains_observe_then fun state sound => ?_
  cases state.terminal.lookup receipt.requestId with
  | some existing => exact Program.sustains_pure trivial
  | none =>
      refine Program.sustains_compute_then fun bound isBound => ?_
      obtain ⟨isId, isSealed, -⟩ := withId_fields isBound
      refine Program.sustains_then (sustains_atomicWriteJson ?_) fun _ =>
        Program.sustains_pure trivial
      intro before kept
      rw [← isId]
      exact rules.putUnsealed before bound (isSealed.trans unsealed) kept

/-! ## Operations -/

theorem RequestRules.submit
    (rules : RequestRules submits invariant fact)
    {request : RuntimeRunRequest} (isSubmitted : submits request)
    (maxQueued : Int) :
    (recordedSubmit request maxQueued).Sustains invariant
      fun _ => True := by
  refine Program.sustains_then ?_ fun _ =>
    Program.sustains_then (Program.sustains_update fun state sound =>
      rules.noteSubmitted state _ sound) fun _ =>
        Program.sustains_pure trivial
  refine Program.sustains_compute_then fun _ _ =>
    Program.sustains_ite (fun _ => Program.sustains_throw _) fun _ => ?_
  refine Program.sustains_observe_then fun state sound => ?_
  cases state.terminal.lookup request.requestId with
  | some receipt => exact Program.sustains_pure trivial
  | none =>
      refine Program.sustains_observe_then fun _ _ =>
        Program.sustains_ite (fun _ => Program.sustains_throw _)
          fun _ => ?_
      refine Program.sustains_observe_then fun _ _ =>
        Program.sustains_ite (fun _ => ?_) fun _ => ?_
      · exact Program.sustains_then
          (sustains_writeTerminalOnce rules rfl) fun _ =>
            Program.sustains_pure trivial
      · exact Program.sustains_then (sustains_nextSequence _) fun _ =>
          Program.sustains_then
            (sustains_atomicWriteJson fun state sound =>
              rules.putQueued state _ _ (rules.fresh _ isSubmitted rfl)
                sound)
            fun _ => Program.sustains_pure trivial

theorem sustains_cancelRequest
    (rules : RequestRules submits invariant fact) (requestId : Text) :
    (cancelRequest requestId).Sustains invariant fun _ => True := by
  refine Program.sustains_compute_then fun _ _ =>
    Program.sustains_observe_then fun _ _ =>
      Program.sustains_ite (fun _ => ?_) fun _ => ?_
  · exact Program.sustains_then (sustains_readFile_any _ _) fun _ =>
      Program.sustains_then (sustains_unlinkQueued rules _) fun _ =>
        Program.sustains_then (sustains_writeTerminalOnce rules rfl)
          fun _ => Program.sustains_pure trivial
  · refine Program.sustains_observe_then fun _ _ =>
      Program.sustains_ite (fun _ => ?_) fun _ => ?_
    · exact Program.sustains_then (sustains_readFile_any _ _) fun _ =>
        Program.sustains_then
          (sustains_atomicWriteJson fun state sound =>
            rules.putCancel state _ _ sound)
          fun _ => Program.sustains_pure trivial
    · refine Program.sustains_observe_then fun state _ => ?_
      cases state.terminal.lookup requestId with
      | some receipt => exact Program.sustains_pure trivial
      | none => exact Program.sustains_throw _

theorem sustains_recoverOne
    (rules : RequestRules submits invariant fact) (queuedPaths : List Text)
    (runningPath : Text) :
    (recoverOne queuedPaths runningPath).Sustains invariant
      fun _ => True := by
  refine Program.sustains_bind
    (sustains_readFile fun state record sound isFile =>
      rules.running state runningPath record sound isFile)
    fun checkpoint holds => Program.sustains_observe_then fun _ _ =>
      Program.sustains_ite (fun _ => ?_) fun _ => ?_
  · exact Program.sustains_then (sustains_unlinkRunning rules _)
      fun _ => Program.sustains_pure trivial
  · refine Program.sustains_observe_then fun _ _ =>
      Program.sustains_ite (fun _ => ?_) fun _ => ?_
    · exact Program.sustains_then (sustains_writeTerminalOnce rules rfl)
        fun _ => Program.sustains_then (sustains_unlinkRunning rules _)
          fun _ => Program.sustains_pure trivial
    · exact Program.sustains_then (sustains_nextSequence _) fun _ =>
        Program.sustains_then
          (sustains_atomicWriteJson fun state sound =>
            rules.putQueued state _ _
              (rules.carried checkpoint _ rfl rfl holds) sound)
          fun _ => Program.sustains_then (sustains_unlinkRunning rules _)
            fun _ => Program.sustains_pure trivial

theorem sustains_recoverEach
    (rules : RequestRules submits invariant fact)
    (queuedPaths runningPaths : List Text) :
    (recoverEach queuedPaths runningPaths).Sustains invariant
      fun _ => True := by
  induction runningPaths generalizing queuedPaths with
  | nil => exact Program.sustains_pure trivial
  | cons path paths induction =>
      refine Program.sustains_then (sustains_recoverOne rules _ _)
        fun resumed => ?_
      cases resumed with
      | none => exact induction _
      | some _ =>
          exact Program.sustains_then (induction _) fun _ =>
            Program.sustains_pure trivial

/-- What a dispatch finds out about a request before it attempts it. -/
structure Admitted (context : DispatchContext)
    (request : RuntimeRunRequest) : Prop where
  governed : packWaitDetail request context.packStatuses = none
  estimated : admitEstimate request.resourceEstimate context.policy
    request.useException ≠ .waitRemoteExecutor
  roomy : ∃ free, context.freeDiskBytes = .ok free ∧
    context.policy.requiredFreeDiskBytes ≤ free

theorem RequestRules.dispatchRunning
    (rules : RequestRules submits invariant fact)
    {context : DispatchContext} {checkpoint : RuntimeRunCheckpoint}
    (attempt : Admitted context checkpoint.request →
      (runAdmitted context checkpoint).Sustains invariant
        fun _ => True) :
    (dispatchRunning context checkpoint).Sustains invariant
      fun _ => True := by
  refine Program.sustains_observe_then fun _ _ =>
    Program.sustains_ite
      (fun _ => sustains_writeTerminalOnce rules rfl) fun _ => ?_
  cases governed : packWaitDetail checkpoint.request
      context.packStatuses with
  | some detail => exact sustains_writeTerminalOnce rules rfl
  | none =>
      exact Program.sustains_ite
        (fun _ => sustains_writeTerminalOnce rules rfl) fun estimated =>
          Program.sustains_compute_then fun free isFree =>
            Program.sustains_ite
              (fun _ => sustains_writeTerminalOnce rules rfl)
              fun enough => attempt
                ⟨governed, estimated, free, isFree, not_lt.mp enough⟩

theorem RequestRules.dispatchNext
    (rules : RequestRules submits invariant fact)
    {context : DispatchContext}
    (attempt : ∀ checkpoint, fact checkpoint →
      Admitted context checkpoint.request →
        (runAdmitted context checkpoint).Sustains invariant
          fun _ => True)
    (maxQueued : Int) :
    (dispatchNext context maxQueued).Sustains invariant fun _ => True := by
  refine Program.sustains_ite (fun _ => Program.sustains_throw _)
    fun _ => Program.sustains_observe_then fun _ _ =>
      Program.sustains_ite (fun _ => Program.sustains_pure trivial)
        fun _ => ?_
  refine Program.sustains_then sustains_nextQueuedPath fun path => ?_
  cases path with
  | none => exact Program.sustains_pure trivial
  | some queuedPath =>
      refine Program.sustains_bind
        (sustains_readFile fun state record sound isFile =>
          rules.queued state queuedPath record sound isFile)
        fun checkpoint holds => ?_
      exact Program.sustains_then
        (sustains_replaceQueuedByRunning rules _ _) fun _ =>
        Program.sustains_then
          (sustains_atomicWriteJson fun state sound =>
            rules.putRunning state _ _
              (rules.carried checkpoint _ rfl rfl holds) sound) fun _ =>
        Program.sustains_then
          (rules.dispatchRunning
            (attempt _ (rules.carried checkpoint _ rfl rfl holds)))
          fun _ =>
        Program.sustains_then
          (Program.sustains_update fun state sound =>
            rules.dropRunning state _ sound) fun _ =>
        Program.sustains_then
          (Program.sustains_update fun state sound =>
            rules.dropCancel state _ sound) fun _ =>
        Program.sustains_pure trivial

def Operation.Dispatches (condition : DispatchContext → Prop) :
    Operation → Prop
  | .dispatchNext context _ => condition context
  | .submitAndDispatchOnce _ context _ => condition context
  | _ => True

def Operation.Submits (condition : RuntimeRunRequest → Prop) :
    Operation → Prop
  | .submit request _ => condition request
  | .submitAndDispatchOnce request _ _ => condition request
  | _ => True

theorem Operation.dispatches_true (operation : Operation) :
    operation.Dispatches fun _ => True := by
  cases operation <;> trivial

theorem Operation.Dispatches.mono
    {first second : DispatchContext → Prop} {operation : Operation}
    (dispatches : operation.Dispatches first)
    (weaker : ∀ context, first context → second context) :
    operation.Dispatches second := by
  cases operation with
  | dispatchNext context maxQueued => exact weaker context dispatches
  | submitAndDispatchOnce request context maxQueued =>
      exact weaker context dispatches
  | _ => trivial

theorem Operation.submits_true (operation : Operation) :
    operation.Submits fun _ => True := by
  cases operation <;> trivial

/-- An invariant that the attempts keep is kept by every operation. -/
theorem RequestRules.code
    (rules : RequestRules submits invariant fact)
    {condition : DispatchContext → Prop}
    (attempt : ∀ context, condition context →
      ∀ checkpoint, fact checkpoint →
        Admitted context checkpoint.request →
          (runAdmitted context checkpoint).Sustains invariant
            fun _ => True)
    {operation : Operation} (dispatches : operation.Dispatches condition)
    (submitted : operation.Submits submits) :
    (code operation).Sustains invariant fun _ => True := by
  cases operation with
  | submit request maxQueued => exact rules.submit submitted maxQueued
  | cancelRequest requestId => exact sustains_cancelRequest rules requestId
  | recoverInterrupted =>
      exact Program.sustains_observe_then fun _ _ =>
        Program.sustains_observe_then fun _ _ =>
          sustains_recoverEach rules _ _
  | dispatchNext context maxQueued =>
      exact rules.dispatchNext (attempt context dispatches) maxQueued
  | submitAndDispatchOnce request context maxQueued =>
      refine Program.sustains_then (rules.submit submitted maxQueued)
        fun outcome => ?_
      cases outcome with
      | terminal receipt => exact Program.sustains_pure trivial
      | checkpoint checkpoint =>
          refine Program.sustains_then
            (rules.dispatchNext (attempt context dispatches) maxQueued)
            fun terminal => ?_
          cases terminal with
          | some receipt => exact Program.sustains_pure trivial
          | none => exact Program.sustains_throw _

theorem sustains_submit
    (rules : WriteRules invariant fact) (request : RuntimeRunRequest)
    (maxQueued : Int) :
    (recordedSubmit request maxQueued).Sustains invariant
      fun _ => True :=
  rules.submit trivial maxQueued

/-- Where the rules hold of every request, attempts may forget the gates. -/
theorem sustains_code
    (rules : WriteRules invariant fact)
    {condition : DispatchContext → Prop}
    (attempt : ∀ context, condition context →
      ∀ checkpoint, fact checkpoint →
        (runAdmitted context checkpoint).Sustains invariant
          fun _ => True)
    {operation : Operation} (dispatches : operation.Dispatches condition) :
    (code operation).Sustains invariant fun _ => True :=
  rules.code
    (fun context holds checkpoint isFact _ =>
      attempt context holds checkpoint isFact)
    dispatches operation.submits_true

end

end ScientificResourceLab.Scheduler
