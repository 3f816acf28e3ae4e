import ScientificResourceLab.Scheduler.Operations

/-!
# Histories of the scheduler

A history is a list of operations, each complete or cut by a crash after any
number of its writes.  The two theorems of this file hold for every history
from the empty directories.

Terminal receipts are final, the runner is called only for requests without
one, at most one request runs, and a recovery that returns leaves every
request in at most one directory.

Requests can be lost, and `noLoss_iff_careful_cancels` says when.
`cancel_request` removes the queued checkpoint before it writes the terminal
receipt, while `recover_interrupted` and `dispatch_next` remove a checkpoint
only after its successor was written.  A cancellation loses a submitted
request that only `queued/` holds when it is cut between these two writes, or
when the generation of the receipt exceeds the digit limit of the encoder.
Nothing else loses a request.
-/

namespace ScientificResourceLab.Scheduler

open Python Contracts Steps
open Steps.Program (observe update compute Safe)

/-! ## Calls are chains of file steps -/

/-- Every write of every operation is a file step. -/
theorem safe_code
    {state : State} (sound : Sound state) (operation : Operation) :
    (code operation).Safe FileStep (fun _ _ => True) state := by
  have careful {α : Type} {program : Action α}
      {post : Except PyError α → State → Prop}
      (safe : program.Safe CarefulStep post state) :
      program.Safe FileStep (fun _ _ => True) state :=
    safe.mono (fun _ _ step => .careful step) fun _ _ _ => trivial
  cases operation with
  | submit request maxQueued =>
      exact careful (safe_recordedSubmit sound request maxQueued)
  | cancelRequest requestId => exact safe_cancelRequest state requestId
  | recoverInterrupted => exact careful (safe_recoverInterrupted sound)
  | dispatchNext context maxQueued =>
      exact careful (safe_dispatchNext sound context maxQueued)
  | submitAndDispatchOnce request context maxQueued =>
      exact careful
        (safe_submitAndDispatchOnce sound request context maxQueued)

/-- A call, complete or cut, is a chain of file steps. -/
theorem call_reaches
    {state : State} (sound : Sound state) (call : Call Operation) :
    Relation.ReflTransGen FileStep state (call.after code state) := by
  cases call with
  | complete operation => exact (safe_code sound operation).run_reaches
  | crashed operation writes =>
      exact (safe_code sound operation).crash_reaches writes

theorem call_sound
    (call : Call Operation) (state : State) (sound : Sound state) :
    Sound (call.after code state) :=
  Program.holds_of_reaches Sound (call_reaches sound call)
    (fun _ _ step => step.sound) sound

theorem sound_afterCalls (calls : List (Call Operation)) :
    Sound (afterCalls code calls State.empty) :=
  afterCalls_induction call_sound calls sound_empty

/-! ## Terminal receipts are final -/

/-- A terminal receipt outlives every later call. -/
theorem terminal_afterCalls
    {state : State} (sound : Sound state)
    (calls : List (Call Operation))
    {requestId : Text} {receipt : SchedulerTerminalReceipt}
    (finished : state.terminal.lookup requestId = some receipt) :
    (afterCalls code calls state).terminal.lookup requestId =
      some receipt := by
  have kept (call : Call Operation) (state : State)
      (holds : Sound state ∧
        state.terminal.lookup requestId = some receipt) :
      Sound (call.after code state) ∧
        (call.after code state).terminal.lookup requestId =
          some receipt := by
    obtain ⟨sound, finished⟩ := holds
    refine ⟨call_sound call state sound, ?_⟩
    exact Program.holds_of_reaches
      (fun after => after.terminal.lookup requestId = some receipt)
      (call_reaches sound call) (fun _ _ step => step.terminal_kept)
      finished
  exact (afterCalls_induction kept calls ⟨sound, finished⟩).2

/-- No request is in two of the three directories. -/
def State.Exclusive (state : State) : Prop :=
  ∀ requestId,
    ¬ (requestId ∈ state.queued ∧ requestId ∈ state.running) ∧
      ¬ (requestId ∈ state.queued ∧ requestId ∈ state.terminal) ∧
      ¬ (requestId ∈ state.running ∧ requestId ∈ state.terminal)

theorem exclusive_of_idle
    {state : State} (sound : Sound state)
    (idle : ∀ requestId, requestId ∉ state.running) :
    state.Exclusive := by
  intro requestId
  refine ⟨fun both => idle requestId both.2, fun both => ?_,
    fun both => idle requestId both.1⟩
  exact sound.queuedUnfinished requestId both.1 both.2

/--
After every history: terminal receipts never change again, the runner was
never called for a request that had one, at most one checkpoint is running,
and a recovery that returns now leaves the directories disjoint.
-/
theorem terminal_receipts_final_and_exclusive
    (calls : List (Call Operation)) :
    (∀ later requestId receipt,
      (afterCalls code calls State.empty).terminal.lookup requestId =
          some receipt →
        (afterCalls code (calls ++ later) State.empty).terminal.lookup
          requestId = some receipt) ∧
      (∀ invocation ∈ (afterCalls code calls State.empty).invocations,
        invocation.hadTerminal = false) ∧
      (afterCalls code calls State.empty).running.keys.length ≤ 1 ∧
      (∀ recovered,
        (recoverInterrupted.run (afterCalls code calls State.empty)).1 =
            .ok recovered →
          (afterCalls code
            (calls ++ [.complete .recoverInterrupted])
            State.empty).Exclusive) := by
  have sound := sound_afterCalls calls
  refine ⟨?_, sound.invokedUnfinished, sound.oneRunning, ?_⟩
  · intro later requestId receipt finished
    rw [afterCalls_append]
    exact terminal_afterCalls sound later finished
  · intro recovered returned
    have soundAfter :=
      sound_afterCalls (calls ++ [.complete .recoverInterrupted])
    refine exclusive_of_idle soundAfter ?_
    rw [afterCalls_append]
    exact (safe_recoverInterrupted sound).run_post recovered returned

/-! ## Lost requests -/

/-- What `cancel_request` does after it removed the queued file. -/
def writeCancelled (requestId : Text) (generation : Nat) :
    Action Outcome := do
  let receipt ← writeTerminalOnce (cancelledReceipt requestId generation)
  pure (.terminal receipt)

section

variable {state : State} {requestId : Text}
variable {checkpoint : RuntimeRunCheckpoint}

/-- Cancelling a queued request starts with the removal of its file. -/
theorem cancelRequest_queued
    (valid : isRequestId requestId = true)
    (found : state.queued.lookup requestId = some checkpoint) :
    ((cancelRequest requestId).run state).2 =
        ((writeCancelled requestId (checkpoint.generation + 1)).run
          (state.dropQueued requestId)).2 ∧
      (cancelRequest requestId).crash 0 state = state ∧
      ∀ writes, (cancelRequest requestId).crash (writes + 1) state =
        (writeCancelled requestId (checkpoint.generation + 1)).crash
          writes (state.dropQueued requestId) := by
  have queued := Directory.mem_of_lookup found
  refine ⟨?_, ?_, fun writes => ?_⟩ <;>
    simp [cancelRequest, validateRequestId, valid, queued, found,
      readFile, unlinkQueued, writeCancelled, bind, pure, Program.bind,
      observe, update, compute, Program.run, Program.crash]

/-- A refused receipt leaves the state as it is. -/
theorem writeCancelled_refused
    (state : State) {generation : Nat} (unprintable : ¬ Printable generation)
    (unfinished : requestId ∉ state.terminal) :
    ((writeCancelled requestId generation).run state).2 = state ∧
      ∀ writes, (writeCancelled requestId generation).crash writes state =
        state := by
  obtain ⟨error, refused⟩ :=
    cancelledReceipt_refused requestId unprintable
  have absent : state.terminal.lookup
      (cancelledReceipt requestId generation).requestId = none :=
    AList.lookup_eq_none.mpr unfinished
  constructor <;>
    simp [writeCancelled, writeTerminalOnce, absent, refused, bind,
      Program.bind, observe, compute, Program.run, Program.crash]

theorem writeCancelled_written
    (state : State) {generation : Nat} (valid : isRequestId requestId = true)
    (printable : Printable generation)
    (unfinished : requestId ∉ state.terminal) :
    ∃ receipt,
      ((writeCancelled requestId generation).run state).2 =
          state.putTerminal requestId receipt ∧
        (writeCancelled requestId generation).crash 0 state = state ∧
        ∀ writes,
          (writeCancelled requestId generation).crash (writes + 1)
            state = state.putTerminal requestId receipt := by
  obtain ⟨bound, data, bounds, dumped⟩ :=
    cancelledReceipt_written valid printable
  have absent : state.terminal.lookup
      (cancelledReceipt requestId generation).requestId = none :=
    AList.lookup_eq_none.mpr unfinished
  have named :
      (cancelledReceipt requestId generation).requestId = requestId :=
    rfl
  refine ⟨bound, ?_, ?_, fun writes => ?_⟩ <;>
    simp [writeCancelled, writeTerminalOnce, atomicWriteJson, absent,
      bounds, dumped, named, bind, pure, Program.bind, observe, update,
      compute, Program.run, Program.crash]

end

/-- A submitted request that only `queued/` holds, with its file. -/
def OnlyQueued
    (state : State) (requestId : Text)
    (checkpoint : RuntimeRunCheckpoint) : Prop :=
  state.queued.lookup requestId = some checkpoint ∧
    requestId ∉ state.running ∧ requestId ∈ state.submitted

/--
The call cancels a submitted request that only `queued/` holds, and stops
after the removal of the queued file: by a crash, or because the generation
of the receipt is not printable.
-/
def Loses (state : State) : Call Operation → Prop
  | .complete (.cancelRequest requestId) =>
      ∃ checkpoint, OnlyQueued state requestId checkpoint ∧
        ¬ Printable (checkpoint.generation + 1)
  | .crashed (.cancelRequest requestId) writes =>
      ∃ checkpoint, OnlyQueued state requestId checkpoint ∧
        (writes = 1 ∨
          ¬ Printable (checkpoint.generation + 1) ∧ 0 < writes)
  | _ => False

/-- Careful programs lose nothing, whether they end or crash. -/
theorem noLoss_of_safe
    {α : Type} {program : Action α}
    {post : Except PyError α → State → Prop} {state : State}
    (safe : program.Safe CarefulStep post state) (noLoss : NoLoss state) :
    NoLoss (program.run state).2 ∧
      ∀ writes, NoLoss (program.crash writes state) :=
  ⟨Program.holds_of_reaches NoLoss safe.run_reaches
      (fun _ _ step => step.noLoss) noLoss,
    fun writes => Program.holds_of_reaches NoLoss (safe.crash_reaches writes)
      (fun _ _ step => step.noLoss) noLoss⟩

/-- Removing a queued file loses exactly a request held nowhere else. -/
theorem noLoss_dropQueued_iff
    {state : State} (noLoss : NoLoss state) {requestId : Text}
    (unfinished : requestId ∉ state.terminal) :
    NoLoss (state.dropQueued requestId) ↔
      ¬ (requestId ∉ state.running ∧ requestId ∈ state.submitted) := by
  constructor
  · rintro kept ⟨idle, submitted⟩
    rcases kept requestId submitted with queued | running | finished
    · exact (AList.mem_erase.mp queued).1 rfl
    · exact idle running
    · exact unfinished finished
  · intro elsewhere other submitted
    by_cases same : other = requestId
    · subst same
      have running : other ∈ state.running := by
        by_contra idle
        exact elsewhere ⟨idle, submitted⟩
      exact .inr (.inl running)
    · exact (noLoss other submitted).imp_left fun queued =>
        AList.mem_erase.mpr ⟨same, queued⟩

/-- Removing a queued file and writing its receipt loses nothing. -/
theorem noLoss_cancelled
    {state : State} (noLoss : NoLoss state) (requestId : Text)
    (receipt : SchedulerTerminalReceipt) :
    NoLoss ((state.dropQueued requestId).putTerminal requestId
      receipt) := by
  intro other submitted
  by_cases same : other = requestId
  · exact .inr (.inr ((AList.mem_insert _).mpr (.inl same)))
  · rcases noLoss other submitted with queued | running | finished
    · exact .inl (AList.mem_erase.mpr ⟨same, queued⟩)
    · exact .inr (.inl running)
    · exact .inr (.inr ((AList.mem_insert _).mpr (.inr finished)))

section

variable {state : State} {requestId : Text}
variable {checkpoint : RuntimeRunCheckpoint}

/-- The file of a queued request is the one under its name. -/
theorem exists_onlyQueued_iff
    (found : state.queued.lookup requestId = some checkpoint)
    (fault : RuntimeRunCheckpoint → Prop) :
    (∃ queued, OnlyQueued state requestId queued ∧ fault queued) ↔
      (requestId ∉ state.running ∧ requestId ∈ state.submitted) ∧
        fault checkpoint := by
  constructor
  · rintro ⟨queued, ⟨lookup, elsewhere⟩, faulty⟩
    obtain rfl := Option.some.inj (found.symm.trans lookup)
    exact ⟨elsewhere, faulty⟩
  · rintro ⟨elsewhere, faulty⟩
    exact ⟨checkpoint, ⟨found, elsewhere⟩, faulty⟩

/-- Cancelling a queued request, call by call. -/
theorem noLoss_cancel_queued
    (sound : Sound state) (noLoss : NoLoss state)
    (found : state.queued.lookup requestId = some checkpoint) :
    (NoLoss ((cancelRequest requestId).run state).2 ↔
        ¬ Loses state (.complete (.cancelRequest requestId))) ∧
      ∀ writes,
        (NoLoss ((cancelRequest requestId).crash writes state) ↔
          ¬ Loses state (.crashed (.cancelRequest requestId) writes)) := by
  have valid : isRequestId requestId = true := by
    rw [← sound.queuedNamed _ _ found]
    exact checkpoint.request.requestIdValid
  have unfinished : requestId ∉ state.terminal :=
    sound.queuedUnfinished _ (Directory.mem_of_lookup found)
  have dropped := noLoss_dropQueued_iff noLoss unfinished
  obtain ⟨ran, untouched, cut⟩ := cancelRequest_queued valid found
  rw [Loses, exists_onlyQueued_iff found
    (fun queued => ¬ Printable (queued.generation + 1)), ran]
  by_cases printable : Printable (checkpoint.generation + 1)
  · obtain ⟨receipt, written, pending, closed⟩ :=
      writeCancelled_written (state.dropQueued requestId) valid
        printable unfinished
    have cancelled := noLoss_cancelled noLoss requestId receipt
    refine ⟨by simp [written, cancelled, printable], fun writes => ?_⟩
    rw [Loses, exists_onlyQueued_iff found (fun queued => writes = 1 ∨
      ¬ Printable (queued.generation + 1) ∧ 0 < writes)]
    match writes with
    | 0 => simp [untouched, noLoss]
    | 1 => simp [cut, pending, dropped]
    | count + 2 => simp [cut, closed, cancelled, printable]
  · obtain ⟨raisedState, stays⟩ :=
      writeCancelled_refused (state.dropQueued requestId) printable
        unfinished
    refine ⟨by simp [raisedState, dropped, printable], fun writes => ?_⟩
    rw [Loses, exists_onlyQueued_iff found (fun queued => writes = 1 ∨
      ¬ Printable (queued.generation + 1) ∧ 0 < writes)]
    match writes with
    | 0 => simp [untouched, noLoss]
    | count + 1 => simp [cut, stays, dropped, printable]

end

/-- A call keeps all submitted requests exactly when it does not lose one. -/
theorem noLoss_call_iff
    (call : Call Operation) (state : State)
    (sound : Sound state) (noLoss : NoLoss state) :
    NoLoss (call.after code state) ↔ ¬ Loses state call := by
  have careful {α : Type} {program : Action α}
      {post : Except PyError α → State → Prop}
      (safe : program.Safe CarefulStep post state) :=
    noLoss_of_safe safe noLoss
  have every (operation : Operation) :
      (NoLoss ((code operation).run state).2 ↔
          ¬ Loses state (.complete operation)) ∧
        ∀ writes, (NoLoss ((code operation).crash writes state) ↔
          ¬ Loses state (.crashed operation writes)) := by
    cases operation with
    | submit request maxQueued =>
        have kept := careful (safe_recordedSubmit sound request maxQueued)
        exact ⟨iff_of_true kept.1 id,
          fun writes => iff_of_true (kept.2 writes) id⟩
    | cancelRequest requestId =>
        by_cases queued : requestId ∈ state.queued
        · obtain ⟨checkpoint, found⟩ := Directory.mem_iff_lookup.mp queued
          exact noLoss_cancel_queued sound noLoss found
        · have kept := careful (safe_cancelRequest_unqueued queued)
          constructor
          · refine iff_of_true kept.1 ?_
            rintro ⟨checkpoint, ⟨found, _⟩, _⟩
            exact queued (Directory.mem_of_lookup found)
          · intro writes
            refine iff_of_true (kept.2 writes) ?_
            rintro ⟨checkpoint, ⟨found, _⟩, _⟩
            exact queued (Directory.mem_of_lookup found)
    | recoverInterrupted =>
        have kept := careful (safe_recoverInterrupted sound)
        exact ⟨iff_of_true kept.1 id,
          fun writes => iff_of_true (kept.2 writes) id⟩
    | dispatchNext context maxQueued =>
        have kept := careful (safe_dispatchNext sound context maxQueued)
        exact ⟨iff_of_true kept.1 id,
          fun writes => iff_of_true (kept.2 writes) id⟩
    | submitAndDispatchOnce request context maxQueued =>
        have kept := careful
          (safe_submitAndDispatchOnce sound request context maxQueued)
        exact ⟨iff_of_true kept.1 id,
          fun writes => iff_of_true (kept.2 writes) id⟩
  cases call with
  | complete operation => exact (every operation).1
  | crashed operation writes => exact (every operation).2 writes

theorem noLoss_empty : NoLoss State.empty := by
  simp [NoLoss, State.empty]

/--
A history keeps every submitted request in some directory, in each of its
states, exactly when none of its cancellations stops after the removal of the
queued file of a request that no other directory holds.
-/
theorem noLoss_iff_careful_cancels (calls : List (Call Operation)) :
    Throughout code NoLoss calls State.empty ↔
      Meets code (fun state call => ¬ Loses state call) calls
        State.empty :=
  throughout_iff_meets call_sound noLoss_call_iff calls sound_empty
    noLoss_empty

theorem sampleId_valid : isRequestId (text "r") = true := by
  decide

theorem sampleAdapter_nonempty : text "a" ≠ [] := by
  decide

/-- A small request. -/
def sampleRequest : RuntimeRunRequest where
  requestId := text "r"
  adapterId := text "a"
  inputPayload := .null
  resourceEstimate := ⟨0, 0, 0, 0⟩
  packId := none
  useException := false
  priority := 0
  pool := .light
  requestIdValid := sampleId_valid
  adapterIdNonempty := sampleAdapter_nonempty
  payloadDumps := dumps_of_writable trivial

/-- A submitted request is lost by a cancellation cut after its unlink. -/
theorem cut_cancel_loses_request :
    ¬ Throughout code NoLoss
      [.complete (.submit sampleRequest 1),
        .crashed (.cancelRequest (text "r")) 1] State.empty := by
  have final :
      (let state := afterCalls code
        [.complete (.submit sampleRequest 1),
          .crashed (.cancelRequest (text "r")) 1] State.empty
      (state.submitted, state.queued.keys, state.running.keys,
        state.terminal.keys)) = ([text "r"], [], [], []) := by
    unfold code recordedSubmit submit cancelRequest cancelledReceipt
      unsealedReceipt writeTerminalOnce SchedulerTerminalReceipt.withId
      SchedulerTerminalReceipt.toDict
      SchedulerTerminalReceipt.toDictWithoutId
      SchedulerTerminalReceipt.members RuntimeRunCheckpoint.toDict
      RuntimeRunRequest.toDict ResourceEstimate.digest
      ResourceEstimate.toCanonicalDict RuntimeRunStatus.value
      RuntimePool.value
    rw [objectId_eq_strict, sha256_eq_strict]
    simp -index only [text_ofList]
    decide +kernel
  simp only [Prod.mk.injEq] at final
  obtain ⟨submitted, queued, running, terminal⟩ := final
  rw [throughout_iff_prefixes]
  intro every
  have held := every _ List.prefix_rfl (text "r") (by simp [submitted])
  simp only [State.Held, AList.mem_keys, queued, running, terminal,
    List.not_mem_nil, or_self] at held

end ScientificResourceLab.Scheduler
