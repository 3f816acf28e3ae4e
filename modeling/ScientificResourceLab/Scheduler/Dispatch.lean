import ScientificResourceLab.Scheduler.Runs
import ScientificResourceLab.Scheduler.Sustained

/-!
# What a dispatch answers and what it leaves behind

A dispatch takes the request that the queue order selects (`queueHead`) and
answers with a receipt of that request.  So the one-shot helper answers for
its own request only when `submit` answers at once or when the order selects
it.

Once the runner has returned, the dispatch still seals the run and encodes
the terminal receipt.  Where either raises, the checkpoint stays in
`running/`, and no later dispatch starts anything before a recovery.
-/

namespace ScientificResourceLab.Scheduler

open Python Contracts Steps
open Steps.Program (observe update compute Safe bindPost)

/-! ## The queue order -/

/-- The checkpoints in `queued/`, in the order of their files. -/
def queuedCheckpoints (state : State) : List RuntimeRunCheckpoint :=
  (sortedFiles state.queued).filterMap state.queued.lookup

/-- The checkpoint that the queue order selects. -/
def queueHead (state : State) : Option RuntimeRunCheckpoint :=
  firstQueued (queuedCheckpoints state)

theorem run_readCheckpoints
    {state : State} {paths : List Text}
    (present : ∀ path ∈ paths, path ∈ state.queued) :
    (readCheckpoints paths).run state =
      (.ok (paths.filterMap state.queued.lookup), state) := by
  induction paths with
  | nil => rfl
  | cons path paths induction =>
      obtain ⟨first, found⟩ := Directory.mem_iff_lookup.mp
        (present path List.mem_cons_self)
      have others := induction fun other member =>
        present other (List.mem_cons_of_mem _ member)
      have read : (readFile State.queued path).run state =
          (.ok first, state) := by
        rw [readFile, Program.run_observe_bind, found]
        rfl
      rw [readCheckpoints, Program.run_bind_ok read,
        Program.run_bind_ok others, List.filterMap_cons, found]
      rfl

theorem run_nextQueuedPath (state : State) :
    nextQueuedPath.run state =
      (.ok ((queueHead state).map fun chosen =>
        chosen.request.requestId), state) := by
  have read : (readCheckpoints (sortedFiles state.queued)).run state =
      (.ok (queuedCheckpoints state), state) :=
    run_readCheckpoints fun path member => mem_sortedFiles.mp member
  rw [nextQueuedPath, Program.run_observe_bind, Program.run_bind_ok read]
  rfl

theorem readOnly_readFile
    {α : Type} (directory : State → Directory Text α) (requestId : Text) :
    (readFile directory requestId).ReadOnly := by
  refine Program.readOnly_bind (fun _ => trivial) fun file => ?_
  cases file <;> trivial

theorem readOnly_readCheckpoints (paths : List Text) :
    (readCheckpoints paths).ReadOnly := by
  induction paths with
  | nil => trivial
  | cons path paths induction =>
      exact Program.readOnly_bind (readOnly_readFile _ _) fun _ =>
        Program.readOnly_bind induction fun _ => trivial

theorem safe_nextQueuedPath_head
    {guar : State → State → Prop}
    {post : Except PyError (Option Text) → State → Prop} {state : State}
    (holds : post (.ok ((queueHead state).map fun chosen =>
      chosen.request.requestId)) state) :
    nextQueuedPath.Safe guar post state := by
  have readOnly : nextQueuedPath.ReadOnly :=
    Program.readOnly_bind (fun _ => trivial) fun paths =>
      Program.readOnly_bind (readOnly_readCheckpoints paths)
        fun _ => trivial
  apply readOnly.safe
  rw [run_nextQueuedPath]
  exact holds

/-- The selected checkpoint is a file of `queued/`. -/
theorem lookup_queueHead
    {state : State} (sound : Sound state) {chosen : RuntimeRunCheckpoint}
    (head : queueHead state = some chosen) :
    state.queued.lookup chosen.request.requestId = some chosen := by
  obtain ⟨isMember, -⟩ := firstQueued_spec head
  obtain ⟨path, -, found⟩ := List.mem_filterMap.mp isMember
  rw [sound.queuedNamed path chosen found]
  exact found

/-! ## Receipts lie under their own id -/

/-- Every terminal receipt lies under the id of its request. -/
def Named (state : State) : Prop :=
  ∀ requestId receipt, state.terminal.lookup requestId = some receipt →
    receipt.requestId = requestId

theorem named_empty : Named State.empty := by
  intro requestId receipt found
  cases found

theorem Named.putTerminal
    {state : State} (named : Named state)
    {receipt : SchedulerTerminalReceipt} {requestId : Text}
    (isId : receipt.requestId = requestId) :
    Named (state.putTerminal requestId receipt) := by
  intro other found isFound
  rcases Directory.lookup_insert_eq_some.mp isFound with
    ⟨rfl, rfl⟩ | ⟨-, kept⟩
  · exact isId
  · exact named other found kept

theorem named_writeRules : WriteRules Named fun _ => True where
  queued := fun _ _ _ _ _ => trivial
  running := fun _ _ _ _ _ => trivial
  fresh := fun _ _ _ => trivial
  carried := fun _ _ _ _ _ => trivial
  noteSubmitted := fun _ _ named => named
  putQueued := fun _ _ _ _ named => named
  putRunning := fun _ _ _ _ named => named
  putCancel := fun _ _ _ named => named
  dropQueued := fun _ _ named => named
  dropRunning := fun _ _ named => named
  dropCancel := fun _ _ named => named
  putUnsealed := fun _ _ _ named => named.putTerminal rfl

theorem sustains_writeTerminalOnce_named
    (receipt : SchedulerTerminalReceipt) :
    (writeTerminalOnce receipt).Sustains Named fun _ => True := by
  refine Program.sustains_observe_then fun state _ => ?_
  cases state.terminal.lookup receipt.requestId with
  | some existing => exact Program.sustains_pure trivial
  | none =>
      refine Program.sustains_compute_then fun bound isBound => ?_
      exact Program.sustains_then
        (sustains_atomicWriteJson fun _ named =>
          named.putTerminal (withId_fields isBound).1)
        fun _ => Program.sustains_pure trivial

theorem sustains_runAdmitted_named
    (context : DispatchContext) (checkpoint : RuntimeRunCheckpoint) :
    (runAdmitted context checkpoint).Sustains Named fun _ => True :=
  Program.sustains_compute_then fun _ _ =>
    Program.sustains_then
      (sustains_atomicWriteJson fun _ named => named) fun _ =>
    Program.sustains_compute_then fun _ _ =>
    Program.sustains_compute_then fun _ _ =>
    Program.sustains_then
      (Program.sustains_update fun _ named => named) fun _ =>
    Program.sustains_compute_then fun _ _ =>
    Program.sustains_compute_then fun _ _ =>
    sustains_writeTerminalOnce_named _

theorem named_afterCalls (calls : List (Call Operation)) :
    Named (afterCalls code calls State.empty) := by
  refine afterCalls_of_sustains (fun call _ => ?_) named_empty
  exact sustains_code named_writeRules
    (fun context (_ : True) checkpoint _ =>
      sustains_runAdmitted_named context checkpoint)
    (Operation.dispatches_true call.operation)

end ScientificResourceLab.Scheduler
