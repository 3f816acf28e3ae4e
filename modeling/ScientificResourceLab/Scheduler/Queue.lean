import ScientificResourceLab.Scheduler.Runs

/-!
# The queue and its sequence numbers

This file follows `queued/` through the calls of a history.  A submission
adds at most its own request, under a number above all queued ones; a
dispatch removes at most one request, which leads the queue; a cancellation
removes at most its request; a recovery replaces the files of requests that
were running.  Two consequences hold for every history, crashes included:
queued requests have distinct numbers, and requests of one priority are
dispatched in the order of their submission.
-/

namespace ScientificResourceLab.Scheduler

open Python Contracts Steps
open Steps.Program (observe update compute Visits)

/-! ## Code that leaves the queue alone -/

theorem keeps_atomicWriteJson
    {τ : Type} {view : State → τ} {payload : Except PyError Json}
    {rename : State → State}
    (kept : ∀ state, view (rename state) = view state) :
    (atomicWriteJson payload rename).Keeps view :=
  Program.keeps_bind (Program.keeps_compute _) fun _ =>
    Program.keeps_bind (Program.keeps_compute _) fun _ =>
      Program.keeps_update kept

theorem keeps_writeTerminalOnce (receipt : SchedulerTerminalReceipt) :
    (writeTerminalOnce receipt).Keeps State.queued := by
  refine Program.keeps_bind (Program.keeps_observe _) fun found => ?_
  cases found with
  | some existing => trivial
  | none =>
      refine Program.keeps_bind (Program.keeps_compute _) fun bound => ?_
      exact Program.keeps_bind (keeps_atomicWriteJson fun _ => rfl)
        fun _ => trivial

theorem keeps_runAdmitted
    (context : DispatchContext) (checkpoint : RuntimeRunCheckpoint) :
    (runAdmitted context checkpoint).Keeps State.queued := by
  refine Program.keeps_bind (Program.keeps_compute _) fun _ => ?_
  refine Program.keeps_bind (keeps_atomicWriteJson fun _ => rfl)
    fun _ => ?_
  refine Program.keeps_bind (Program.keeps_compute _) fun _ => ?_
  refine Program.keeps_bind (Program.keeps_compute _) fun _ => ?_
  refine Program.keeps_bind (Program.keeps_update fun _ => rfl)
    fun _ => ?_
  refine Program.keeps_bind (Program.keeps_compute _) fun _ => ?_
  refine Program.keeps_bind (Program.keeps_compute _) fun _ => ?_
  exact keeps_writeTerminalOnce _

/-- A request that was taken from the queue is run without it. -/
theorem keeps_dispatchRunning
    (context : DispatchContext) (checkpoint : RuntimeRunCheckpoint) :
    (dispatchRunning context checkpoint).Keeps State.queued := by
  refine Program.keeps_bind (Program.keeps_observe _) fun _ => ?_
  refine Program.keeps_ite (keeps_writeTerminalOnce _) ?_
  cases packWaitDetail checkpoint.request context.packStatuses with
  | some detail => exact keeps_writeTerminalOnce _
  | none =>
      refine Program.keeps_ite (keeps_writeTerminalOnce _) ?_
      refine Program.keeps_bind (Program.keeps_compute _) fun _ => ?_
      exact Program.keeps_ite (keeps_writeTerminalOnce _)
        (keeps_runAdmitted context checkpoint)

/-! ## What the operations do to the queue -/

/-- A new request is put under a number above all queued ones. -/
structure Enqueues
    (request : RuntimeRunRequest) (before after : State) : Prop where
  fresh : ¬ before.Held request.requestId
  put : ∃ checkpoint : RuntimeRunCheckpoint,
    checkpoint.request = request ∧
      (∀ requestId other,
        before.queued.lookup requestId = some other →
          other.sequence < checkpoint.sequence) ∧
      after.queued =
        before.queued.insert request.requestId checkpoint

/-- A request that leads the queue is taken from it. -/
def Dequeues (before after : State) : Prop :=
  ∃ chosen : RuntimeRunCheckpoint,
    before.queued.lookup chosen.request.requestId = some chosen ∧
      Leads before chosen ∧
      after.queued = before.queued.erase chosen.request.requestId

/-- A submission adds at most its request. -/
def Added (request : RuntimeRunRequest) (before after : State) : Prop :=
  after.queued = before.queued ∨ Enqueues request before after

/-- A dispatch takes at most one request, which leads the queue. -/
def Taken (before after : State) : Prop :=
  after.queued = before.queued ∨ Dequeues before after

/-- A cancellation removes at most its request. -/
def Removed (requestId : Text) (before after : State) : Prop :=
  after.queued = before.queued ∨
    after.queued = before.queued.erase requestId

theorem visits_submit
    (state : State) (request : RuntimeRunRequest) (maxQueued : Int) :
    (submit request maxQueued).Visits (Added request state) state := by
  have stays : Added request state state := .inl rfl
  simp only [submit, validateRequestId, request.requestIdValid, if_true,
    Visits, Program.safe_bind, Program.safe_compute, Program.bindPost_ok,
    Program.safe_ite, Program.safe_throw, Program.bindPost_error,
    Program.safe_observe]
  refine ⟨fun _ => stays, fun _ => ?_⟩
  cases found : state.terminal.lookup request.requestId with
  | some receipt => exact stays
  | none =>
      simp only [Program.safe_bind, Program.safe_observe,
        Program.bindPost_ok, Program.safe_ite, Program.safe_throw,
        Program.bindPost_error, Bool.or_eq_true, decide_eq_true_eq,
        not_or]
      refine ⟨fun _ => stays, fun inactive => ⟨fun _ => ?_, fun _ => ?_⟩⟩
      · refine ((keeps_writeTerminalOnce _).visits state
          (fun _ => .inl) rfl).mono (fun _ _ visited => visited) ?_
        intro result final holds
        cases result <;> exact holds
      · refine safe_nextSequence _ (fun sequence above => ?_)
          fun _ => stays
        simp only [Program.bindPost_ok, Program.safe_bind]
        have enqueues : Enqueues request state
            (state.putQueued request.requestId
              { request := request
                status := .queued
                generation := 1
                sequence := sequence
                inputDigest := none }) := by
          refine ⟨?_, _, rfl, fun requestId other isOther => ?_, rfl⟩
          · rintro (queued | running | finished)
            · exact inactive.1 queued
            · exact inactive.2 running
            · exact AList.lookup_eq_none.mp found finished
          · exact above requestId
              (mem_sortedFiles.mpr (Directory.mem_of_lookup isOther))
              other isOther
        exact safe_atomicWriteJson (.inr enqueues) (.inr enqueues)
          fun _ => stays

theorem visits_recordedSubmit
    (state : State) (request : RuntimeRunRequest) (maxQueued : Int) :
    (recordedSubmit request maxQueued).Visits (Added request state)
      state := by
  rw [recordedSubmit, Visits, Program.safe_bind]
  refine (visits_submit state request maxQueued).mono
    (fun _ _ visited => visited) ?_
  intro result final added
  cases result with
  | error error => exact added
  | ok outcome =>
      have noted : Added request state
          (final.noteSubmitted request.requestId) :=
        added.imp_right fun enqueues => ⟨enqueues.fresh, enqueues.put⟩
      exact ⟨noted, noted⟩

theorem visits_dispatchNext
    {state : State} (sound : Sound state) (context : DispatchContext)
    (maxQueued : Int) :
    (dispatchNext context maxQueued).Visits (Taken state) state := by
  have stays : Taken state state := .inl rfl
  simp only [dispatchNext, Visits, Program.safe_bind, Program.safe_ite,
    Program.safe_throw, Program.safe_pure, Program.safe_observe,
    Program.bindPost_ok, Program.bindPost_error]
  refine ⟨fun _ => stays, fun _ => ⟨fun _ => stays, fun _ => ?_⟩⟩
  refine (safe_nextQueuedPath sound).mono (fun _ _ step => step) ?_
  rintro result final ⟨rfl, chosen⟩
  cases result with
  | error error => exact stays
  | ok path =>
      cases path with
      | none => exact stays
      | some path =>
          obtain ⟨checkpoint, found, leads⟩ := chosen path rfl
          obtain rfl := sound.queuedNamed _ _ found
          have queued := Directory.mem_of_lookup found
          have taken (after : State)
              (same : after.queued =
                final.queued.erase checkpoint.request.requestId) :
              Taken final after :=
            .inr ⟨checkpoint, found, leads, same⟩
          simp only [Program.bindPost_ok, Program.safe_bind]
          refine safe_readFile found ?_
          simp only [Program.bindPost_ok, Program.safe_bind,
            replaceQueuedByRunning, Program.safe_observe, queued,
            decide_true, if_true, Program.safe_update,
            State.moveToRunning, found]
          refine ⟨taken _ rfl, ?_⟩
          refine safe_atomicWriteJson (taken _ rfl) ?_
            fun _ => taken _ rfl
          rw [Program.bindPost_ok]
          refine Program.Keeps.visits ?_
            (final.dropQueued checkpoint.request.requestId) taken rfl
          refine Program.keeps_bind (keeps_dispatchRunning _ _)
            fun _ => ?_
          refine Program.keeps_bind (Program.keeps_update fun _ => rfl)
            fun _ => ?_
          exact Program.keeps_bind (Program.keeps_update fun _ => rfl)
            fun _ => trivial

theorem visits_cancelRequest (state : State) (requestId : Text) :
    (cancelRequest requestId).Visits (Removed requestId state) state := by
  have stays : Removed requestId state state := .inl rfl
  rw [cancelRequest, Visits, Program.safe_bind, Program.safe_compute]
  cases validateRequestId requestId with
  | error error => exact stays
  | ok value =>
      simp only [Program.bindPost_ok, Program.safe_bind,
        Program.safe_observe, Program.safe_ite, decide_eq_true_eq]
      constructor
      · intro isQueued
        obtain ⟨queued, found⟩ := Directory.mem_iff_lookup.mp isQueued
        refine safe_readFile found ?_
        simp only [Program.bindPost_ok, Program.safe_bind, unlinkQueued,
          Program.safe_observe, isQueued, decide_true, if_true,
          Program.safe_update]
        refine ⟨.inr rfl, ?_⟩
        rw [← Program.safe_bind]
        refine Program.Keeps.visits ?_ (state.dropQueued requestId)
          (fun _ => .inr) rfl
        exact Program.keeps_bind (keeps_writeTerminalOnce _)
          fun _ => trivial
      · intro _
        refine ⟨fun isRunning => ?_, fun _ => ?_⟩
        · obtain ⟨running, found⟩ :=
            Directory.mem_iff_lookup.mp isRunning
          refine safe_readFile found ?_
          simp only [Program.bindPost_ok, Program.safe_bind]
          exact safe_atomicWriteJson (.inl rfl) (.inl rfl) fun _ => stays
        · cases state.terminal.lookup requestId <;> exact stays

/-! ## Distinct numbers -/

/-- Different requests are queued under different numbers. -/
def Numbered (queued : Directory Text RuntimeRunCheckpoint) : Prop :=
  ∀ first second firstItem secondItem,
    queued.lookup first = some firstItem →
      queued.lookup second = some secondItem →
        firstItem.sequence = secondItem.sequence → first = second

section

variable {queued : Directory Text RuntimeRunCheckpoint}

theorem Numbered.erase (numbered : Numbered queued) (requestId : Text) :
    Numbered (queued.erase requestId) :=
  fun first second firstItem secondItem isFirst isSecond =>
    numbered first second firstItem secondItem
      (Directory.lookup_erase_eq_some.mp isFirst).2
      (Directory.lookup_erase_eq_some.mp isSecond).2

theorem Numbered.insert
    (numbered : Numbered queued) {requestId : Text}
    {checkpoint : RuntimeRunCheckpoint}
    (above : ∀ other item, queued.lookup other = some item →
      item.sequence < checkpoint.sequence) :
    Numbered (queued.insert requestId checkpoint) := by
  intro first second firstItem secondItem isFirst isSecond same
  rcases Directory.lookup_insert_eq_some.mp isFirst with
    ⟨rfl, rfl⟩ | ⟨_, oldFirst⟩ <;>
    rcases Directory.lookup_insert_eq_some.mp isSecond with
      ⟨rfl, rfl⟩ | ⟨_, oldSecond⟩
  · rfl
  · exact absurd (above _ _ oldSecond) (by omega)
  · exact absurd (above _ _ oldFirst) (by omega)
  · exact numbered _ _ _ _ oldFirst oldSecond same

end

theorem Added.numbered
    {request : RuntimeRunRequest} {before after : State}
    (added : Added request before after)
    (numbered : Numbered before.queued) : Numbered after.queued := by
  rcases added with same | ⟨_, checkpoint, _, above, same⟩
  · rwa [same]
  · rw [same]
    exact numbered.insert above

theorem Taken.numbered
    {before after : State} (taken : Taken before after)
    (numbered : Numbered before.queued) : Numbered after.queued := by
  rcases taken with same | ⟨chosen, _, _, same⟩
  · rwa [same]
  · rw [same]
    exact numbered.erase _

theorem Removed.numbered
    {requestId : Text} {before after : State}
    (removed : Removed requestId before after)
    (numbered : Numbered before.queued) : Numbered after.queued := by
  rcases removed with same | same
  · rwa [same]
  · rw [same]
    exact numbered.erase _

/-! ## Recovery -/

/-- What the loop of a recovery needs to know of its list of paths. -/
structure Covered (queuedPaths : List Text) (state : State) : Prop where
  numbered : Numbered state.queued
  listed : ∀ requestId ∈ state.queued, requestId ∈ queuedPaths

/-- The paths that the loop goes on with. -/
def nextPaths
    (queuedPaths : List Text) : Option RuntimeRunCheckpoint → List Text
  | none => queuedPaths
  | some resumed => queuedPaths ++ [resumed.request.requestId]

theorem keeps_unlinkRunning (requestId : Text) :
    (unlinkRunning requestId).Keeps State.queued :=
  Program.keeps_bind (Program.keeps_observe _) fun _ =>
    Program.keeps_ite (Program.keeps_update fun _ => rfl) trivial

/-- The numbers stay distinct, and a recovery that returns is listed. -/
def Recovered (queuedPaths : List Text) :
    Except PyError (Option RuntimeRunCheckpoint) → State → Prop
  | .error _, final => Numbered final.queued
  | .ok resumed, final => Covered (nextPaths queuedPaths resumed) final

/-- A request that is finished or cancelled leaves the queue as it is. -/
theorem safe_ended
    {state : State} {queuedPaths : List Text}
    (covered : Covered queuedPaths state) {first : Action PUnit}
    (keeps : first.Keeps State.queued) :
    (first >>= fun _ => pure none).Safe
      (fun _ after => Numbered after.queued) (Recovered queuedPaths)
      state := by
  rw [Program.safe_bind]
  refine keeps.safe state ?_ (fun result final same => ?_) rfl
  · intro _ after same
    rw [same]
    exact covered.numbered
  · have stays : Covered queuedPaths final := by
      refine ⟨?_, fun requestId queued => ?_⟩
      · rw [same]
        exact covered.numbered
      · rw [same] at queued
        exact covered.listed requestId queued
    cases result with
    | error error => exact stays.numbered
    | ok value => exact stays

theorem safe_resumed
    {state : State} {queuedPaths : List Text}
    (covered : Covered queuedPaths state) (runningPath : Text)
    {resumed : RuntimeRunCheckpoint}
    (above : ∀ path ∈ queuedPaths, ∀ item,
      state.queued.lookup path = some item →
        item.sequence < resumed.sequence) :
    (do
      atomicWriteJson resumed.toDict fun state =>
        state.putQueued resumed.request.requestId resumed
      unlinkRunning runningPath
      pure (some resumed) : Action (Option RuntimeRunCheckpoint)).Safe
        (fun _ after => Numbered after.queued) (Recovered queuedPaths)
        state := by
  have numbered : Numbered
      (state.putQueued resumed.request.requestId resumed).queued :=
    covered.numbered.insert fun other item isItem => above other
      (covered.listed other (Directory.mem_of_lookup isItem)) item isItem
  rw [Program.safe_bind]
  refine safe_atomicWriteJson numbered ?_ fun _ => covered.numbered
  rw [Program.bindPost_ok, Program.safe_bind]
  refine (keeps_unlinkRunning runningPath).safe
    (state.putQueued resumed.request.requestId resumed) ?_
    (fun result final same => ?_) rfl
  · intro _ after same
    rw [same]
    exact numbered
  · rw [← same] at numbered
    cases result with
    | error error => exact numbered
    | ok value =>
        refine ⟨numbered, fun requestId queued => ?_⟩
        rw [same] at queued
        refine List.mem_append.mpr ?_
        rcases (AList.mem_insert _).mp queued with rfl | old
        · exact .inr List.mem_cons_self
        · exact .inl (covered.listed requestId old)

theorem safe_recoverOne_covered
    {state : State} {queuedPaths : List Text}
    (covered : Covered queuedPaths state) (runningPath : Text) :
    (recoverOne queuedPaths runningPath).Safe
      (fun _ after => Numbered after.queued) (Recovered queuedPaths)
      state := by
  simp only [recoverOne, readFile, Program.safe_bind,
    Program.safe_observe, Program.bindPost_ok]
  cases state.running.lookup runningPath with
  | none => exact covered.numbered
  | some checkpoint =>
      simp only [Program.safe_pure, Program.bindPost_ok,
        Program.safe_bind, Program.safe_observe, Program.safe_ite]
      refine ⟨fun _ => ?_, fun _ => ⟨fun _ => ?_, fun _ => ?_⟩⟩
      · rw [← Program.safe_bind]
        exact safe_ended covered (keeps_unlinkRunning runningPath)
      · have closed := safe_ended covered (Program.keeps_bind
          (keeps_writeTerminalOnce (unsealedReceipt
            checkpoint.request.requestId .cancelled
            (checkpoint.generation + 1) "CANCELLED_BY_OPERATOR"
            (text "cancelled during interrupted run recovery")))
          fun _ => keeps_unlinkRunning runningPath)
        rw [Program.program_bind_assoc, Program.safe_bind] at closed
        exact closed
      · refine safe_nextSequence _ (fun sequence above => ?_)
          fun _ => covered.numbered
        rw [Program.bindPost_ok]
        exact safe_resumed covered runningPath above

/-- The loop keeps the numbers distinct. -/
theorem visits_recoverEach
    {state : State} {queuedPaths : List Text}
    (covered : Covered queuedPaths state) (runningPaths : List Text) :
    (recoverEach queuedPaths runningPaths).Visits
      (fun after => Numbered after.queued) state := by
  induction runningPaths generalizing state queuedPaths with
  | nil => exact covered.numbered
  | cons path paths induction =>
      rw [recoverEach, Visits, Program.safe_bind]
      refine (safe_recoverOne_covered covered path).mono
        (fun _ _ visited => visited) ?_
      intro result final recovered
      cases result with
      | error error => exact recovered
      | ok resumed =>
          cases resumed with
          | none => exact induction recovered
          | some checkpoint =>
              rw [Program.bindPost_ok, Program.safe_bind]
              refine (induction recovered).mono
                (fun _ _ visited => visited) ?_
              intro result last numbered
              cases result <;> exact numbered

theorem visits_recoverInterrupted
    {state : State} (numbered : Numbered state.queued) :
    recoverInterrupted.Visits (fun after => Numbered after.queued)
      state := by
  simp only [recoverInterrupted, Visits, Program.safe_bind,
    Program.safe_observe, Program.bindPost_ok]
  exact visits_recoverEach
    ⟨numbered, fun _ queued => mem_sortedFiles.mpr queued⟩ _

/-! ## Histories -/

/-- What a call does to the queue. -/
inductive QueueChange (before after : State) : Operation → Prop
  | submit
      {request : RuntimeRunRequest} {maxQueued : Int}
      (added : Added request before after) :
      QueueChange before after (.submit request maxQueued)
  | cancelRequest
      {requestId : Text} (removed : Removed requestId before after) :
      QueueChange before after (.cancelRequest requestId)
  | recoverInterrupted
      (numbered : Numbered before.queued → Numbered after.queued) :
      QueueChange before after .recoverInterrupted
  | dispatchNext
      {context : DispatchContext} {maxQueued : Int}
      (taken : Taken before after) :
      QueueChange before after (.dispatchNext context maxQueued)
  | submitAndDispatchOnce
      {request : RuntimeRunRequest} {context : DispatchContext}
      {maxQueued : Int} {between : State}
      (added : Added request before between)
      (taken : Taken between after) :
      QueueChange before after
        (.submitAndDispatchOnce request context maxQueued)

theorem visits_submitAndDispatchOnce
    {state : State} (sound : Sound state) (request : RuntimeRunRequest)
    (context : DispatchContext) (maxQueued : Int) :
    (submitAndDispatchOnce request context maxQueued).Visits
      (fun after => ∃ between, Added request state between ∧
        Taken between after) state := by
  rw [submitAndDispatchOnce, Visits, Program.safe_bind]
  refine ((visits_recordedSubmit state request maxQueued).and
    (safe_recordedSubmit sound request maxQueued)).mono
      (fun _ after step => ⟨after, step.1, .inl rfl⟩) ?_
  rintro result final ⟨added, soundFinal⟩
  have between : ∃ between, Added request state between ∧
      Taken between final :=
    ⟨final, added, .inl rfl⟩
  cases result with
  | error error => exact between
  | ok outcome =>
      cases outcome with
      | terminal receipt => exact between
      | checkpoint checkpoint =>
          rw [Program.bindPost_ok, Program.safe_bind]
          refine (visits_dispatchNext soundFinal context
            maxQueued).mono (fun _ _ taken => ⟨final, added, taken⟩) ?_
          intro result last taken
          cases result with
          | error error => exact ⟨final, added, taken⟩
          | ok terminal => cases terminal <;> exact ⟨final, added, taken⟩

/-- Every call, complete or cut, changes the queue in its own way. -/
theorem call_queueChange
    {state : State} (sound : Sound state) (call : Call Operation) :
    QueueChange state (call.after code state) call.operation := by
  have changed (operation : Operation) :
      QueueChange state ((code operation).run state).2 operation ∧
        ∀ writes, QueueChange state
          ((code operation).crash writes state) operation := by
    cases operation with
    | submit request maxQueued =>
        have visits :=
          (visits_recordedSubmit state request maxQueued).ends (.inl rfl)
        exact ⟨.submit visits.1, fun writes => .submit (visits.2 writes)⟩
    | cancelRequest requestId =>
        have visits := (visits_cancelRequest state requestId).ends
          (.inl rfl)
        exact ⟨.cancelRequest visits.1,
          fun writes => .cancelRequest (visits.2 writes)⟩
    | recoverInterrupted =>
        have visits (numbered : Numbered state.queued) :=
          (visits_recoverInterrupted numbered).ends numbered
        exact ⟨.recoverInterrupted fun numbered => (visits numbered).1,
          fun writes => .recoverInterrupted fun numbered =>
            (visits numbered).2 writes⟩
    | dispatchNext context maxQueued =>
        have visits := (visits_dispatchNext sound context maxQueued).ends
          (.inl rfl)
        exact ⟨.dispatchNext visits.1,
          fun writes => .dispatchNext (visits.2 writes)⟩
    | submitAndDispatchOnce request context maxQueued =>
        have visits := (visits_submitAndDispatchOnce sound request context
          maxQueued).ends ⟨state, .inl rfl, .inl rfl⟩
        obtain ⟨⟨between, added, taken⟩, cut⟩ := visits
        refine ⟨.submitAndDispatchOnce added taken, fun writes => ?_⟩
        obtain ⟨between, added, taken⟩ := cut writes
        exact .submitAndDispatchOnce added taken
  cases call with
  | complete operation => exact (changed operation).1
  | crashed operation writes => exact (changed operation).2 writes

theorem QueueChange.numbered
    {before after : State} {operation : Operation}
    (change : QueueChange before after operation)
    (numbered : Numbered before.queued) : Numbered after.queued := by
  cases change with
  | submit added => exact added.numbered numbered
  | cancelRequest removed => exact removed.numbered numbered
  | recoverInterrupted kept => exact kept numbered
  | dispatchNext taken => exact taken.numbered numbered
  | submitAndDispatchOnce added taken =>
      exact taken.numbered (added.numbered numbered)

/-- After every history the queued requests have distinct numbers. -/
theorem numbered_afterCalls (calls : List (Call Operation)) :
    Numbered (afterCalls code calls State.empty).queued := by
  have kept (call : Call Operation) (state : State)
      (holds : Sound state ∧ Numbered state.queued) :
      Sound (call.after code state) ∧
        Numbered (call.after code state).queued :=
    ⟨call_sound call state holds.1,
      (call_queueChange holds.1 call).numbered holds.2⟩
  refine (afterCalls_induction kept calls ⟨sound_empty, ?_⟩).2
  simp [Numbered, State.empty]

end ScientificResourceLab.Scheduler
