import ScientificResourceLab.Scheduler.Roots

/-!
# The file steps of the scheduler

`CarefulStep` lists the writes that the scheduler makes, each with the
condition under which it is made.  `FileStep` adds the one write that has no
such condition, the removal of a queued checkpoint by a cancellation.

`Sound` is the invariant of the directories: files are named after their
contents, at most one request runs, a queued request has no terminal receipt,
and a cancellation marker belongs to a request that runs or is finished.
Every file step keeps it, and no file step changes a terminal receipt.
-/

namespace ScientificResourceLab.Scheduler

open Python Contracts Steps
open Steps.Program (observe update compute)

/-! ## Fields after a write -/

section

variable (state : State) (requestId : Text)
variable (checkpoint : RuntimeRunCheckpoint)

@[simp]
theorem putQueued_queued :
    (state.putQueued requestId checkpoint).queued =
      state.queued.insert requestId checkpoint :=
  rfl

@[simp]
theorem putQueued_running :
    (state.putQueued requestId checkpoint).running = state.running :=
  rfl

@[simp]
theorem putQueued_terminal :
    (state.putQueued requestId checkpoint).terminal = state.terminal :=
  rfl

@[simp]
theorem putQueued_cancel :
    (state.putQueued requestId checkpoint).cancel = state.cancel :=
  rfl

@[simp]
theorem putRunning_queued :
    (state.putRunning requestId checkpoint).queued = state.queued :=
  rfl

@[simp]
theorem putRunning_running :
    (state.putRunning requestId checkpoint).running =
      state.running.insert requestId checkpoint :=
  rfl

@[simp]
theorem putRunning_terminal :
    (state.putRunning requestId checkpoint).terminal = state.terminal :=
  rfl

@[simp]
theorem putRunning_cancel :
    (state.putRunning requestId checkpoint).cancel = state.cancel :=
  rfl

@[simp]
theorem putTerminal_queued (receipt : SchedulerTerminalReceipt) :
    (state.putTerminal requestId receipt).queued = state.queued :=
  rfl

@[simp]
theorem putTerminal_running (receipt : SchedulerTerminalReceipt) :
    (state.putTerminal requestId receipt).running = state.running :=
  rfl

@[simp]
theorem putTerminal_terminal (receipt : SchedulerTerminalReceipt) :
    (state.putTerminal requestId receipt).terminal =
      state.terminal.insert requestId receipt :=
  rfl

@[simp]
theorem putTerminal_cancel (receipt : SchedulerTerminalReceipt) :
    (state.putTerminal requestId receipt).cancel = state.cancel :=
  rfl

@[simp]
theorem dropQueued_queued :
    (state.dropQueued requestId).queued = state.queued.erase requestId :=
  rfl

@[simp]
theorem dropQueued_running :
    (state.dropQueued requestId).running = state.running :=
  rfl

@[simp]
theorem dropQueued_terminal :
    (state.dropQueued requestId).terminal = state.terminal :=
  rfl

@[simp]
theorem dropQueued_cancel :
    (state.dropQueued requestId).cancel = state.cancel :=
  rfl

@[simp]
theorem dropRunning_queued :
    (state.dropRunning requestId).queued = state.queued :=
  rfl

@[simp]
theorem dropRunning_running :
    (state.dropRunning requestId).running =
      state.running.erase requestId :=
  rfl

@[simp]
theorem dropRunning_terminal :
    (state.dropRunning requestId).terminal = state.terminal :=
  rfl

@[simp]
theorem dropRunning_cancel :
    (state.dropRunning requestId).cancel = state.cancel :=
  rfl

end

/-! ## The steps -/

/-- A request that some directory holds. -/
def State.Held (state : State) (requestId : Text) : Prop :=
  requestId ∈ state.queued ∨ requestId ∈ state.running ∨
    requestId ∈ state.terminal

/-- A write of the scheduler that takes no request from its last place. -/
inductive CarefulStep : State → State → Prop
  | enqueue
      {state : State} {requestId : Text}
      {checkpoint : RuntimeRunCheckpoint}
      (named : checkpoint.request.requestId = requestId)
      (unfinished : requestId ∉ state.terminal)
      (unmarked : requestId ∉ state.cancel) :
      CarefulStep state (state.putQueued requestId checkpoint)
  | close
      {state : State} {requestId : Text}
      {receipt : SchedulerTerminalReceipt}
      (unfinished : requestId ∉ state.terminal)
      (unqueued : requestId ∉ state.queued) :
      CarefulStep state (state.putTerminal requestId receipt)
  | mark
      {state : State} {requestId : Text} {generation : Nat}
      (running : requestId ∈ state.running)
      (unqueued : requestId ∉ state.queued) :
      CarefulStep state (state.putCancel requestId generation)
  | start
      {state : State} {requestId : Text}
      {checkpoint : RuntimeRunCheckpoint}
      (idle : state.running.keys = [])
      (queued : state.queued.lookup requestId = some checkpoint) :
      CarefulStep state
        ((state.dropQueued requestId).putRunning requestId checkpoint)
  | rewrite
      {state : State} {requestId : Text}
      {checkpoint : RuntimeRunCheckpoint}
      (named : checkpoint.request.requestId = requestId)
      (running : requestId ∈ state.running) :
      CarefulStep state (state.putRunning requestId checkpoint)
  | finish
      {state : State} {requestId : Text}
      (kept : requestId ∈ state.terminal ∨ requestId ∈ state.queued) :
      CarefulStep state (state.dropRunning requestId)
  | unmark
      {state : State} {requestId : Text} :
      CarefulStep state (state.dropCancel requestId)
  | submitted
      {state : State} {requestId : Text}
      (held : state.Held requestId) :
      CarefulStep state (state.noteSubmitted requestId)
  | invoke
      {state : State} {request : RuntimeRunRequest}
      (unfinished : request.requestId ∉ state.terminal) :
      CarefulStep state (state.noteInvocation request)

/-- A write of the scheduler. -/
inductive FileStep : State → State → Prop
  | careful {before after : State} (step : CarefulStep before after) :
      FileStep before after
  | unqueue {state : State} {requestId : Text} :
      FileStep state (state.dropQueued requestId)

/-! ## The invariant -/

/-- What holds of the directories between any two writes. -/
structure Sound (state : State) : Prop where
  queuedNamed : ∀ requestId checkpoint,
    state.queued.lookup requestId = some checkpoint →
      checkpoint.request.requestId = requestId
  runningNamed : ∀ requestId checkpoint,
    state.running.lookup requestId = some checkpoint →
      checkpoint.request.requestId = requestId
  oneRunning : state.running.keys.length ≤ 1
  queuedUnfinished : ∀ requestId ∈ state.queued,
    requestId ∉ state.terminal
  markedUnqueued : ∀ requestId ∈ state.cancel,
    requestId ∉ state.queued
  markedKnown : ∀ requestId ∈ state.cancel,
    requestId ∈ state.running ∨ requestId ∈ state.terminal
  invokedUnfinished : ∀ invocation ∈ state.invocations,
    invocation.hadTerminal = false

theorem sound_empty : Sound State.empty where
  queuedNamed := by simp [State.empty]
  runningNamed := by simp [State.empty]
  oneRunning := by simp [State.empty]
  queuedUnfinished := by simp [State.empty]
  markedUnqueued := by simp [State.empty]
  markedKnown := by simp [State.empty]
  invokedUnfinished := by simp [State.empty]

/-- Every step keeps the invariant. -/
theorem CarefulStep.sound
    {before after : State}
    (step : CarefulStep before after) (sound : Sound before) :
    Sound after := by
  cases step with
  | enqueue named unfinished unmarked =>
      refine { sound with
        queuedNamed := ?_, queuedUnfinished := ?_, markedUnqueued := ?_ }
      · intro requestId checkpoint found
        rcases Directory.lookup_insert_eq_some.mp found with
          ⟨rfl, rfl⟩ | ⟨_, old⟩
        · exact named
        · exact sound.queuedNamed _ _ old
      · intro requestId queued
        rcases (AList.mem_insert _).mp queued with rfl | old
        · exact unfinished
        · exact sound.queuedUnfinished _ old
      · intro requestId marked queued
        rcases (AList.mem_insert _).mp queued with rfl | old
        · exact unmarked marked
        · exact sound.markedUnqueued _ marked old
  | close unfinished unqueued =>
      refine { sound with queuedUnfinished := ?_, markedKnown := ?_ }
      · intro requestId queued finished
        rcases (AList.mem_insert _).mp finished with rfl | old
        · exact unqueued queued
        · exact sound.queuedUnfinished _ queued old
      · intro requestId marked
        exact (sound.markedKnown _ marked).imp_right fun old =>
          (AList.mem_insert _).mpr (.inr old)
  | mark running unqueued =>
      refine { sound with markedUnqueued := ?_, markedKnown := ?_ }
      · intro requestId marked
        rcases (AList.mem_insert _).mp marked with rfl | old
        · exact unqueued
        · exact sound.markedUnqueued _ old
      · intro requestId marked
        rcases (AList.mem_insert _).mp marked with rfl | old
        · exact .inl running
        · exact sound.markedKnown _ old
  | @start started checkpoint idle queued =>
      have noneRunning : ∀ requestId, requestId ∉ before.running := by
        intro requestId
        rw [AList.mem_keys, idle]
        exact List.not_mem_nil
      refine { sound with
        queuedNamed := ?_, runningNamed := ?_, oneRunning := ?_
        queuedUnfinished := ?_, markedUnqueued := ?_, markedKnown := ?_ }
      · intro requestId other found
        exact sound.queuedNamed _ _
          (Directory.lookup_erase_eq_some.mp found).2
      · intro requestId other found
        rcases Directory.lookup_insert_eq_some.mp found with
          ⟨rfl, rfl⟩ | ⟨_, old⟩
        · exact sound.queuedNamed _ _ queued
        · exact sound.runningNamed _ _ old
      · exact le_of_eq (Directory.length_keys_insert_of_empty idle)
      · intro requestId stillQueued
        exact sound.queuedUnfinished _ (AList.mem_erase.mp stillQueued).2
      · intro requestId marked stillQueued
        exact sound.markedUnqueued _ marked
          (AList.mem_erase.mp stillQueued).2
      · intro requestId marked
        exact .inr ((sound.markedKnown _ marked).resolve_left
          (noneRunning requestId))
  | rewrite named running =>
      refine { sound with
        runningNamed := ?_, oneRunning := ?_, markedKnown := ?_ }
      · intro requestId checkpoint found
        rcases Directory.lookup_insert_eq_some.mp found with
          ⟨rfl, rfl⟩ | ⟨_, old⟩
        · exact named
        · exact sound.runningNamed _ _ old
      · rw [putRunning_running,
          Directory.length_keys_insert_of_mem running]
        exact sound.oneRunning
      · intro requestId marked
        exact (sound.markedKnown _ marked).imp_left fun old =>
          (AList.mem_insert _).mpr (.inr old)
  | @finish finished kept =>
      refine { sound with
        runningNamed := ?_, oneRunning := ?_, markedKnown := ?_ }
      · intro requestId checkpoint found
        exact sound.runningNamed _ _
          (Directory.lookup_erase_eq_some.mp found).2
      · exact le_trans Directory.length_keys_erase_le sound.oneRunning
      · intro requestId marked
        rcases sound.markedKnown _ marked with running | isFinished
        · by_cases same : requestId = finished
          · subst same
            exact .inr (kept.resolve_right
              (sound.markedUnqueued _ marked))
          · exact .inl (AList.mem_erase.mpr ⟨same, running⟩)
        · exact .inr isFinished
  | unmark =>
      refine { sound with markedUnqueued := ?_, markedKnown := ?_ }
      · intro requestId marked
        exact sound.markedUnqueued _ (AList.mem_erase.mp marked).2
      · intro requestId marked
        exact sound.markedKnown _ (AList.mem_erase.mp marked).2
  | submitted held => exact { sound with }
  | invoke unfinished =>
      refine { sound with invokedUnfinished := ?_ }
      intro invocation isOne
      rcases List.mem_append.mp isOne with old | new
      · exact sound.invokedUnfinished _ old
      · rw [List.mem_singleton.mp new]
        exact decide_eq_false unfinished

/-- So does the removal of a queued checkpoint. -/
theorem FileStep.sound
    {before after : State}
    (step : FileStep before after) (sound : Sound before) :
    Sound after := by
  cases step with
  | careful step => exact step.sound sound
  | unqueue =>
      refine { sound with
        queuedNamed := ?_, queuedUnfinished := ?_, markedUnqueued := ?_ }
      · intro requestId checkpoint found
        exact sound.queuedNamed _ _
          (Directory.lookup_erase_eq_some.mp found).2
      · intro requestId queued
        exact sound.queuedUnfinished _ (AList.mem_erase.mp queued).2
      · intro requestId marked queued
        exact sound.markedUnqueued _ marked (AList.mem_erase.mp queued).2

/-- A terminal receipt is never changed or removed. -/
theorem FileStep.terminal_kept
    {before after : State} (step : FileStep before after)
    {requestId : Text} {receipt : SchedulerTerminalReceipt}
    (finished : before.terminal.lookup requestId = some receipt) :
    after.terminal.lookup requestId = some receipt := by
  cases step with
  | unqueue => exact finished
  | careful step =>
      cases step with
      | close unfinished unqueued =>
          refine Directory.lookup_insert_eq_some.mpr (.inr ⟨?_, finished⟩)
          rintro rfl
          exact unfinished (Directory.mem_of_lookup finished)
      | enqueue | mark | start | rewrite | finish | unmark | submitted
      | invoke => exact finished

/-! ## No request is lost -/

/-- Every request whose `submit` returned is in some directory. -/
def NoLoss (state : State) : Prop :=
  ∀ requestId ∈ state.submitted, state.Held requestId

/-- A careful step takes no request from its last place. -/
theorem CarefulStep.held
    {before after : State} (step : CarefulStep before after)
    {requestId : Text} (held : before.Held requestId) :
    after.Held requestId := by
  cases step with
  | enqueue named unfinished unmarked =>
      exact held.imp_left fun queued => (AList.mem_insert _).mpr (.inr queued)
  | close unfinished unqueued =>
      exact held.imp_right fun held => held.imp_right fun finished =>
        (AList.mem_insert _).mpr (.inr finished)
  | @start started checkpoint idle queued =>
      by_cases same : requestId = started
      · exact .inr (.inl ((AList.mem_insert _).mpr (.inl same)))
      · rcases held with inQueued | running | finished
        · exact .inl (AList.mem_erase.mpr ⟨same, inQueued⟩)
        · exact .inr (.inl ((AList.mem_insert _).mpr (.inr running)))
        · exact .inr (.inr finished)
  | rewrite named running =>
      exact held.imp_right fun held => held.imp_left fun old =>
        (AList.mem_insert _).mpr (.inr old)
  | @finish finished kept =>
      by_cases same : requestId = finished
      · subst same
        exact kept.elim (fun isFinished => .inr (.inr isFinished)) .inl
      · exact held.imp_right fun held => held.imp_left fun running =>
          AList.mem_erase.mpr ⟨same, running⟩
  | mark | unmark | submitted | invoke => exact held

theorem CarefulStep.noLoss
    {before after : State}
    (step : CarefulStep before after) (noLoss : NoLoss before) :
    NoLoss after := by
  have kept (requestId : Text) (submitted : requestId ∈ before.submitted) :
      after.Held requestId :=
    step.held (noLoss requestId submitted)
  cases step with
  | submitted held =>
      intro requestId submitted
      rcases List.mem_append.mp submitted with old | new
      · exact kept requestId old
      · rw [List.mem_singleton.mp new]
        exact held
  | enqueue | close | mark | start | rewrite | finish | unmark | invoke =>
      exact kept

end ScientificResourceLab.Scheduler
