import ScientificResourceLab.Scheduler.FileSteps

/-!
# The operations make file steps

Each operation is run symbolically through the rules of `Program.Safe`.  From
a sound state all of its writes are careful steps; the exception is
`cancel_request` on a queued request, whose first write is not.  A recovery
that returns leaves `running/` empty.
-/

namespace ScientificResourceLab.Scheduler

open Python Contracts Steps
open Steps.Program (observe update compute Safe bindPost)

/-! ## Files and the queue -/

section

variable {α : Type} {guar : State → State → Prop}
variable {post : Except PyError α → State → Prop} {state : State}

theorem safe_readFile
    {directory : State → Directory Text α} {requestId : Text} {record : α}
    (found : (directory state).lookup requestId = some record)
    (holds : post (.ok record) state) :
    (readFile directory requestId).Safe guar post state := by
  simp only [readFile, Program.safe_bind, Program.safe_observe, found,
    Program.bindPost_ok, Program.safe_pure]
  exact holds

/-- An encoded record is put in place by one step; a refused one is not. -/
theorem safe_atomicWriteJson
    {post : Except PyError PUnit → State → Prop}
    {payload : Except PyError Json} {rename : State → State}
    (step : guar state (rename state))
    (written : post (.ok ⟨⟩) (rename state))
    (refused : ∀ error, post (.error error) state) :
    (atomicWriteJson payload rename).Safe guar post state := by
  simp only [atomicWriteJson, Program.safe_bind, Program.safe_compute]
  cases payload with
  | error error => exact refused error
  | ok document =>
      simp only [Program.bindPost_ok, Program.safe_bind,
        Program.safe_compute]
      cases dumps document with
      | error error => exact refused error
      | ok data => exact ⟨step, written⟩

end

section

variable {guar : State → State → Prop} {state : State}

/-- Reading checkpoints returns the listed files and changes nothing. -/
theorem safe_readCheckpoints (paths : List Text) :
    (readCheckpoints paths).Safe guar
      (fun result final => final = state ∧
        ∀ checkpoints, result = .ok checkpoints →
          checkpoints.map some = paths.map state.queued.lookup)
      state := by
  induction paths with
  | nil =>
      simp only [readCheckpoints, Program.safe_pure, true_and]
      rintro checkpoints ⟨⟩
      rfl
  | cons path paths induction =>
      simp only [readCheckpoints, readFile, Program.safe_bind,
        Program.safe_observe, Program.bindPost_ok]
      cases found : state.queued.lookup path with
      | none => simp
      | some first =>
          simp only [Program.safe_pure, Program.bindPost_ok,
            Program.safe_bind]
          refine induction.mono (fun _ _ step => step) ?_
          rintro result final ⟨rfl, queued⟩
          cases result with
          | error error => simp
          | ok others =>
              simp only [Program.bindPost_ok, Program.safe_pure, true_and]
              rintro checkpoints ⟨⟩
              rw [List.map_cons, List.map_cons, found,
                queued others rfl]

/-- The largest sequence number is at least every one of the list. -/
theorem sequence_le_latestSequence
    {checkpoints : List RuntimeRunCheckpoint}
    {checkpoint : RuntimeRunCheckpoint}
    (member : checkpoint ∈ checkpoints) :
    checkpoint.sequence ≤ latestSequence checkpoints := by
  rw [latestSequence, List.foldl_max]
  exact le_max_of_le_right
    (List.le_max?_getD_of_mem (List.mem_map_of_mem member))

/-- The next sequence number is above those of the listed files. -/
theorem safe_nextSequence
    {post : Except PyError Nat → State → Prop} (paths : List Text)
    (holds : ∀ sequence,
      (∀ path ∈ paths, ∀ checkpoint,
        state.queued.lookup path = some checkpoint →
          checkpoint.sequence < sequence) →
        post (.ok sequence) state)
    (refused : ∀ error, post (.error error) state) :
    (nextSequence paths).Safe guar post state := by
  rw [nextSequence, Program.safe_ite]
  constructor
  · rintro rfl
    exact holds _ fun _ member => (List.not_mem_nil member).elim
  intro _
  rw [Program.safe_bind]
  refine (safe_readCheckpoints paths).mono (fun _ _ step => step) ?_
  rintro result final ⟨rfl, queued⟩
  cases result with
  | error error => exact refused _
  | ok checkpoints =>
      refine holds _ fun path member checkpoint found => ?_
      have listed : some checkpoint ∈ checkpoints.map some := by
        rw [queued checkpoints rfl, ← found]
        exact List.mem_map_of_mem member
      have read := (List.mem_map_of_injective
        (Option.some_injective _)).mp listed
      exact Nat.lt_succ_of_le (sequence_le_latestSequence read)

theorem keyBefore_total (left right : Int × Nat × Nat) :
    KeyBefore left right ∨ KeyBefore right left := by
  simp only [KeyBefore]
  omega

theorem KeyBefore.trans
    {first second third : Int × Nat × Nat}
    (before : KeyBefore first second) (after : KeyBefore second third) :
    KeyBefore first third := by
  simp only [KeyBefore] at *
  omega

/-- What one item has in priority over another covers their distance. -/
theorem KeyBefore.distance_le
    {first second : RuntimeRunCheckpoint} {latest : Nat}
    (before : KeyBefore (queueSortKey first latest)
      (queueSortKey second latest))
    (firstOld : first.sequence ≤ latest)
    (secondOld : second.sequence ≤ latest) :
    second.request.priority + first.sequence ≤
      first.request.priority + second.sequence := by
  simp only [KeyBefore, queueSortKey] at before
  omega

/-- The item that is dispatched first, among those it is chosen from. -/
theorem firstQueued_spec
    {candidates : List RuntimeRunCheckpoint}
    {chosen : RuntimeRunCheckpoint}
    (first : firstQueued candidates = some chosen) :
    chosen ∈ candidates ∧ ∀ other ∈ candidates,
      other.request.priority + chosen.sequence ≤
        chosen.request.priority + other.sequence := by
  rw [firstQueued] at first
  set latest := latestSequence candidates
  set order := fun left right : RuntimeRunCheckpoint =>
    KeyBefore (queueSortKey left latest) (queueSortKey right latest)
  have total : Std.Total order := ⟨fun _ _ => keyBefore_total _ _⟩
  have transitive : IsTrans _ order := ⟨fun _ _ _ => KeyBefore.trans⟩
  have sorted := List.pairwise_insertionSort order candidates
  have mem {item : RuntimeRunCheckpoint} :
      item ∈ candidates.insertionSort order ↔ item ∈ candidates :=
    List.mem_insertionSort order
  obtain ⟨rest, isSorted⟩ := List.head?_eq_some_iff.mp first
  rw [isSorted] at sorted mem
  have isMember := mem.mp List.mem_cons_self
  refine ⟨isMember, fun other otherMember => ?_⟩
  rcases List.mem_cons.mp (mem.mpr otherMember) with rfl | inRest
  · exact le_rfl
  · exact (List.rel_of_pairwise_cons sorted inRest).distance_le
      (sequence_le_latestSequence isMember)
      (sequence_le_latestSequence otherMember)

theorem mem_sortedFiles
    {α : Type} {directory : Directory Text α} {requestId : Text} :
    requestId ∈ sortedFiles directory ↔ requestId ∈ directory := by
  rw [sortedFiles, List.mem_insertionSort, AList.mem_keys]

theorem nodup_sortedFiles
    {α : Type} (directory : Directory Text α) :
    (sortedFiles directory).Nodup :=
  (List.perm_insertionSort _ _).nodup_iff.mpr directory.keys_nodup

/-- A queued item that no other queued item is preferred to. -/
def Leads (state : State) (chosen : RuntimeRunCheckpoint) : Prop :=
  ∀ requestId other, state.queued.lookup requestId = some other →
    other.request.priority + chosen.sequence ≤
      chosen.request.priority + other.sequence

/-- The path that is chosen is a file of `queued/` that leads. -/
theorem safe_nextQueuedPath (sound : Sound state) :
    nextQueuedPath.Safe guar
      (fun result final => final = state ∧
        ∀ requestId, result = .ok (some requestId) →
          ∃ checkpoint,
            state.queued.lookup requestId = some checkpoint ∧
              Leads state checkpoint) state := by
  simp only [nextQueuedPath, Program.safe_bind, Program.safe_observe,
    Program.bindPost_ok]
  refine (safe_readCheckpoints _).mono (fun _ _ step => step) ?_
  rintro result final ⟨rfl, queued⟩
  cases result with
  | error error => simp
  | ok candidates =>
      simp only [Program.bindPost_ok, Program.safe_pure, true_and,
        Except.ok.injEq]
      intro requestId chosenId
      obtain ⟨chosen, first, rfl⟩ := Option.map_eq_some_iff.mp chosenId
      obtain ⟨isMember, leads⟩ := firstQueued_spec first
      have listed {item : RuntimeRunCheckpoint} :
          item ∈ candidates ↔ some item ∈
            (sortedFiles final.queued).map final.queued.lookup := by
        rw [← queued candidates rfl,
          List.mem_map_of_injective (Option.some_injective _)]
      obtain ⟨name, _, found⟩ := List.mem_map.mp (listed.mp isMember)
      rw [sound.queuedNamed name chosen found]
      refine ⟨chosen, found, fun other item itemFound => ?_⟩
      refine leads item (listed.mpr (List.mem_map.mpr ⟨other, ?_,
        itemFound⟩))
      exact mem_sortedFiles.mpr (Directory.mem_of_lookup itemFound)

end

/-! ## Terminal receipts -/

/-- At most a terminal receipt of the request was added. -/
def Closes (requestId : Text) (before after : State) : Prop :=
  after = before ∨
    ∃ receipt, after = before.putTerminal requestId receipt

theorem Closes.running
    {requestId : Text} {before after : State}
    (closes : Closes requestId before after) :
    after.running = before.running := by
  rcases closes with rfl | ⟨receipt, rfl⟩ <;> rfl

/-- A receipt is written unless one exists. -/
theorem safe_writeTerminalOnce
    {state : State} (receipt : SchedulerTerminalReceipt)
    (unqueued : receipt.requestId ∉ state.queued) :
    (writeTerminalOnce receipt).Safe CarefulStep
      (fun result final => Closes receipt.requestId state final ∧
        ∀ value, result = .ok value →
          receipt.requestId ∈ final.terminal) state := by
  simp only [writeTerminalOnce, Program.safe_bind, Program.safe_observe,
    Program.bindPost_ok]
  cases found : state.terminal.lookup receipt.requestId with
  | some existing =>
      simp only [Program.safe_pure]
      exact ⟨.inl rfl, fun _ _ => Directory.mem_of_lookup found⟩
  | none =>
      have unfinished : receipt.requestId ∉ state.terminal :=
        AList.lookup_eq_none.mp found
      simp only [Program.safe_bind, Program.safe_compute]
      cases receipt.withId with
      | error error => exact ⟨.inl rfl, by simp⟩
      | ok bound =>
          simp only [Program.bindPost_ok, Program.safe_bind]
          refine safe_atomicWriteJson (.close unfinished unqueued) ?_ ?_
          · refine ⟨.inr ⟨bound, rfl⟩, fun _ _ => ?_⟩
            exact (AList.mem_insert _).mpr (.inl rfl)
          · intro error
            exact ⟨.inl rfl, by simp⟩

/-! ## Submission and cancellation -/

/-- `submit` is careful, and a returned `submit` leaves its request held. -/
theorem safe_submit
    {state : State} (sound : Sound state)
    (request : RuntimeRunRequest) (maxQueued : Int) :
    (submit request maxQueued).Safe CarefulStep
      (fun result final => ∀ outcome, result = .ok outcome →
        final.Held request.requestId) state := by
  simp only [submit, validateRequestId, request.requestIdValid, if_true,
    Program.safe_bind, Program.safe_compute, Program.bindPost_ok,
    Program.safe_ite, Program.safe_throw, Program.bindPost_error,
    reduceCtorEq, false_imp_iff, implies_true, true_and]
  intro _
  simp only [Program.safe_observe, Program.bindPost_ok]
  cases found : state.terminal.lookup request.requestId with
  | some receipt =>
      simp only [Program.safe_pure]
      exact fun _ _ => .inr (.inr (Directory.mem_of_lookup found))
  | none =>
      have unfinished : request.requestId ∉ state.terminal :=
        AList.lookup_eq_none.mp found
      simp only [Program.safe_bind, Program.safe_observe,
        Program.bindPost_ok, Program.safe_ite, Program.safe_throw,
        Program.bindPost_error, reduceCtorEq, false_imp_iff,
        implies_true, true_and, Bool.or_eq_true, decide_eq_true_eq,
        not_or]
      rintro ⟨unqueued, idle⟩
      constructor
      · intro _
        refine (safe_writeTerminalOnce _ unqueued).mono
          (fun _ _ step => step) ?_
        rintro result final ⟨_, finished⟩
        cases result with
        | error error => simp
        | ok receipt =>
            simp only [Program.bindPost_ok, Program.safe_pure]
            exact fun _ _ => .inr (.inr (finished receipt rfl))
      · intro _
        refine safe_nextSequence _ (fun sequence _ => ?_) (by simp)
        simp only [Program.bindPost_ok, Program.safe_bind]
        have unmarked : request.requestId ∉ state.cancel :=
          fun marked => (sound.markedKnown _ marked).elim idle unfinished
        refine safe_atomicWriteJson
          (.enqueue rfl unfinished unmarked) ?_ (by simp)
        simp only [Program.bindPost_ok, Program.safe_pure]
        exact fun _ _ => .inl ((AList.mem_insert _).mpr (.inl rfl))

theorem safe_recordedSubmit
    {state : State} (sound : Sound state)
    (request : RuntimeRunRequest) (maxQueued : Int) :
    (recordedSubmit request maxQueued).Safe CarefulStep
      (fun _ final => Sound final) state := by
  rw [recordedSubmit, Program.safe_bind]
  refine ((safe_submit sound request maxQueued).and_invariant
    (fun _ _ step => step.sound) sound).mono (fun _ _ step => step) ?_
  rintro result final ⟨held, soundFinal⟩
  cases result with
  | error error => exact soundFinal
  | ok outcome =>
      simp only [Program.bindPost_ok, Program.safe_bind,
        Program.safe_update, Program.safe_pure]
      have step := CarefulStep.submitted (held outcome rfl)
      exact ⟨step, step.sound soundFinal⟩

theorem safe_cancelRequest_unqueued
    {state : State} {requestId : Text}
    (unqueued : requestId ∉ state.queued) :
    (cancelRequest requestId).Safe CarefulStep (fun _ _ => True)
      state := by
  rw [cancelRequest, Program.safe_bind, Program.safe_compute]
  cases validateRequestId requestId with
  | error error => trivial
  | ok value =>
      simp only [Program.bindPost_ok, Program.safe_bind,
        Program.safe_observe, Program.safe_ite, decide_eq_true_eq,
        unqueued, false_imp_iff, not_false_eq_true, true_imp_iff,
        true_and]
      constructor
      · intro isRunning
        obtain ⟨running, found⟩ := Directory.mem_iff_lookup.mp isRunning
        refine safe_readFile found ?_
        simp only [Program.bindPost_ok, Program.safe_bind]
        exact safe_atomicWriteJson (.mark isRunning unqueued) trivial
          (by simp)
      · intro _
        cases state.terminal.lookup requestId <;> trivial

/-- Every write of a cancellation is a file step. -/
theorem safe_cancelRequest (state : State) (requestId : Text) :
    (cancelRequest requestId).Safe FileStep (fun _ _ => True) state := by
  by_cases isQueued : requestId ∈ state.queued
  · rw [cancelRequest, Program.safe_bind, Program.safe_compute]
    cases validateRequestId requestId with
    | error error => trivial
    | ok value =>
        obtain ⟨queued, found⟩ := Directory.mem_iff_lookup.mp isQueued
        simp only [Program.bindPost_ok, Program.safe_bind,
          Program.safe_observe, isQueued, decide_true, if_true]
        refine safe_readFile found ?_
        simp only [Program.bindPost_ok, Program.safe_bind, unlinkQueued,
          Program.safe_observe, isQueued, decide_true, if_true,
          Program.safe_update]
        refine ⟨.unqueue, ?_⟩
        have unqueued : (cancelledReceipt requestId
            (queued.generation + 1)).requestId ∉
              (state.dropQueued requestId).queued :=
          fun stays => (AList.mem_erase.mp stays).1 rfl
        refine (safe_writeTerminalOnce _ unqueued).mono
          (fun _ _ step => .careful step) ?_
        rintro result final _
        cases result <;> trivial
  · exact (safe_cancelRequest_unqueued isQueued).mono
      (fun _ _ step => .careful step) (fun _ _ holds => holds)

/-! ## Recovery -/

theorem safe_unlinkRunning
    {state : State} {requestId : Text}
    {post : Except PyError PUnit → State → Prop}
    (running : requestId ∈ state.running)
    (kept : requestId ∈ state.terminal ∨ requestId ∈ state.queued)
    (holds : post (.ok ⟨⟩) (state.dropRunning requestId)) :
    (unlinkRunning requestId).Safe CarefulStep post state := by
  simp only [unlinkRunning, Program.safe_bind, Program.safe_observe,
    Program.bindPost_ok, running, decide_true, if_true,
    Program.safe_update]
  exact ⟨.finish kept, holds⟩

/-- One recovery is careful and, if it returns, ends the run. -/
theorem safe_recoverOne
    {state : State} (sound : Sound state)
    (queuedPaths : List Text) {requestId : Text}
    (isRunning : requestId ∈ state.running) :
    (recoverOne queuedPaths requestId).Safe CarefulStep
      (fun result final => ∀ value, result = .ok value →
        final.running = state.running.erase requestId) state := by
  obtain ⟨checkpoint, found⟩ := Directory.mem_iff_lookup.mp isRunning
  have named := sound.runningNamed _ _ found
  rw [recoverOne, Program.safe_bind]
  refine safe_readFile found ?_
  simp only [Program.bindPost_ok, Program.safe_bind, Program.safe_observe,
    Program.safe_ite, decide_eq_true_eq, named]
  constructor
  · intro finished
    refine safe_unlinkRunning isRunning (.inl finished) ?_
    simp
  intro unfinished
  constructor
  · intro marked
    refine (safe_writeTerminalOnce (unsealedReceipt requestId
      .cancelled (checkpoint.generation + 1) "CANCELLED_BY_OPERATOR"
      (text "cancelled during interrupted run recovery"))
      (sound.markedUnqueued _ marked)).mono (fun _ _ step => step) ?_
    rintro result final ⟨closes, finished⟩
    cases result with
    | error error => simp
    | ok receipt =>
        simp only [Program.bindPost_ok, Program.safe_bind]
        refine safe_unlinkRunning (by rw [closes.running]; exact isRunning)
          (.inl (finished receipt rfl)) ?_
        simp [closes.running]
  · intro unmarked
    refine safe_nextSequence _ (fun sequence _ => ?_) (by simp)
    simp only [Program.bindPost_ok, Program.safe_bind]
    refine safe_atomicWriteJson
      (.enqueue named unfinished unmarked) ?_ (by simp)
    simp only [Program.bindPost_ok, Program.safe_bind]
    refine safe_unlinkRunning isRunning
      (.inr ((AList.mem_insert _).mpr (.inl rfl))) ?_
    simp

/-- The loop is careful and, if it returns, ends the listed runs. -/
theorem safe_recoverEach
    {state : State} (sound : Sound state)
    (queuedPaths runningPaths : List Text)
    (distinct : runningPaths.Nodup)
    (listed : ∀ requestId,
      requestId ∈ runningPaths ↔ requestId ∈ state.running) :
    (recoverEach queuedPaths runningPaths).Safe CarefulStep
      (fun result final => ∀ value, result = .ok value →
        ∀ requestId, requestId ∉ final.running) state := by
  induction runningPaths generalizing state queuedPaths with
  | nil =>
      simp only [recoverEach, Program.safe_pure]
      intro _ _ requestId running
      cases (listed requestId).mpr running
  | cons path paths induction =>
      obtain ⟨fresh, distinctPaths⟩ := List.nodup_cons.mp distinct
      have isRunning := (listed path).mp List.mem_cons_self
      rw [recoverEach, Program.safe_bind]
      refine ((safe_recoverOne sound queuedPaths isRunning).and_invariant
        (fun _ _ step => step.sound) sound).mono
          (fun _ _ step => step) ?_
      rintro result final ⟨ended, soundFinal⟩
      cases result with
      | error error => simp
      | ok resumed =>
          have remaining : ∀ requestId,
              requestId ∈ paths ↔ requestId ∈ final.running := by
            intro requestId
            rw [ended resumed rfl, AList.mem_erase, ← listed,
              List.mem_cons]
            constructor
            · rintro member
              exact ⟨fun same => fresh (same ▸ member), .inr member⟩
            · rintro ⟨differs, same | member⟩
              · exact (differs same).elim
              · exact member
          cases resumed with
          | none => exact induction soundFinal _ distinctPaths remaining
          | some checkpoint =>
              simp only [Program.bindPost_ok, Program.safe_bind]
              refine (induction soundFinal _ distinctPaths
                remaining).mono (fun _ _ step => step) ?_
              intro result last ends
              cases result with
              | error error => simp
              | ok recovered =>
                  simp only [Program.bindPost_ok, Program.safe_pure]
                  exact fun _ _ => ends recovered rfl

/-- A recovery that returns leaves nothing running. -/
theorem safe_recoverInterrupted {state : State} (sound : Sound state) :
    recoverInterrupted.Safe CarefulStep
      (fun result final => ∀ value, result = .ok value →
        ∀ requestId, requestId ∉ final.running) state := by
  simp only [recoverInterrupted, Program.safe_bind, Program.safe_observe,
    Program.bindPost_ok]
  exact safe_recoverEach sound _ _ (nodup_sortedFiles state.running)
    fun requestId => mem_sortedFiles

/-! ## Dispatch -/

/-- A started request whose fate is open. -/
structure Started (requestId : Text) (state : State) : Prop where
  running : requestId ∈ state.running
  unqueued : requestId ∉ state.queued
  unfinished : requestId ∉ state.terminal

/-- A dispatch that returns has written a terminal receipt. -/
def Finishes (requestId : Text) :
    Except PyError SchedulerTerminalReceipt → State → Prop :=
  fun result final => ∀ value, result = .ok value →
    requestId ∈ final.terminal

theorem safe_terminalFromWait
    {state : State} {request : RuntimeRunRequest}
    (started : Started request.requestId state) (generation : Nat)
    (status : RuntimeRunStatus) (failReason : String) (detail : Text) :
    (terminalFromWait request generation status failReason detail).Safe
      CarefulStep (Finishes request.requestId) state :=
  (safe_writeTerminalOnce _ started.unqueued).mono
    (fun _ _ step => step) fun _ _ finished => finished.2

/-- The runner is called for a request without a terminal receipt. -/
theorem safe_runAdmitted
    {state : State} (context : DispatchContext)
    {checkpoint : RuntimeRunCheckpoint}
    (started : Started checkpoint.request.requestId state) :
    (runAdmitted context checkpoint).Safe CarefulStep
      (Finishes checkpoint.request.requestId) state := by
  rw [runAdmitted, Program.safe_bind, Program.safe_compute]
  cases inputDigestOf context checkpoint with
  | error error => simp [Finishes]
  | ok inputDigest =>
      simp only [Program.bindPost_ok, Program.safe_bind]
      refine safe_atomicWriteJson (.rewrite rfl started.running) ?_
        (by simp [Finishes])
      simp only [Program.bindPost_ok, Program.safe_bind,
        Program.safe_compute]
      cases context.materializeRun checkpoint.request.adapterId
          inputDigest with
      | error error => simp [Finishes]
      | ok staged =>
          simp only [Program.bindPost_ok, Program.safe_bind,
            Program.safe_compute]
          cases context.prepareScratch with
          | error error => simp [Finishes]
          | ok ready =>
              simp only [Program.bindPost_ok, Program.safe_bind,
                Program.safe_update, Program.safe_compute]
              refine ⟨.invoke started.unfinished, ?_⟩
              cases context.runner checkpoint.request context.policy with
              | error error => simp [Finishes]
              | ok outcome =>
                  simp only [Program.bindPost_ok, Program.safe_bind,
                    Program.safe_compute]
                  cases context.sealRun staged outcome with
                  | error error => simp [Finishes]
                  | ok sealedRun =>
                      simp only [Program.bindPost_ok]
                      refine (safe_writeTerminalOnce _ ?_).mono
                        (fun _ _ step => step)
                        fun _ _ finished => finished.2
                      exact started.unqueued

theorem safe_dispatchRunning
    {state : State} (context : DispatchContext)
    {checkpoint : RuntimeRunCheckpoint}
    (started : Started checkpoint.request.requestId state) :
    (dispatchRunning context checkpoint).Safe CarefulStep
      (Finishes checkpoint.request.requestId) state := by
  simp only [dispatchRunning, Program.safe_bind, Program.safe_observe,
    Program.bindPost_ok, Program.safe_ite]
  refine ⟨fun _ => safe_terminalFromWait started _ _ _ _, fun _ => ?_⟩
  cases packWaitDetail checkpoint.request context.packStatuses with
  | some detail => exact safe_terminalFromWait started _ _ _ _
  | none =>
      simp only [Program.safe_ite, Program.safe_bind,
        Program.safe_compute]
      refine ⟨fun _ => safe_terminalFromWait started _ _ _ _,
        fun _ => ?_⟩
      cases context.freeDiskBytes with
      | error error => simp [Finishes]
      | ok free =>
          simp only [Program.bindPost_ok, Program.safe_ite]
          exact ⟨fun _ => safe_terminalFromWait started _ _ _ _,
            fun _ => safe_runAdmitted context started⟩

theorem safe_dispatchNext
    {state : State} (sound : Sound state)
    (context : DispatchContext) (maxQueued : Int) :
    (dispatchNext context maxQueued).Safe CarefulStep (fun _ _ => True)
      state := by
  simp only [dispatchNext, Program.safe_bind, Program.safe_ite,
    Program.safe_throw, Program.safe_pure, Program.safe_observe,
    Program.bindPost_ok, Program.bindPost_error, implies_true, true_and]
  intro _ idleFiles
  have idle : state.running.keys = [] := by
    refine List.eq_nil_iff_forall_not_mem.mpr fun requestId listed => ?_
    rw [← AList.mem_keys, ← mem_sortedFiles, not_not.mp idleFiles] at listed
    exact List.not_mem_nil listed
  refine (safe_nextQueuedPath sound).mono (fun _ _ step => step) ?_
  rintro result final ⟨rfl, chosen⟩
  cases result with
  | error error => trivial
  | ok path =>
      cases path with
      | none => trivial
      | some path =>
          obtain ⟨checkpoint, found, _⟩ := chosen path rfl
          obtain rfl := sound.queuedNamed _ _ found
          have queued := Directory.mem_of_lookup found
          simp only [Program.bindPost_ok, Program.safe_bind]
          refine safe_readFile found ?_
          simp only [Program.bindPost_ok, Program.safe_bind,
            replaceQueuedByRunning, Program.safe_observe, queued,
            decide_true, if_true, Program.safe_update,
            State.moveToRunning, found]
          refine ⟨.start idle found, ?_⟩
          refine safe_atomicWriteJson
            (.rewrite rfl ((AList.mem_insert _).mpr (.inl rfl))) ?_
            (by simp)
          simp only [Program.bindPost_ok, Program.safe_bind]
          refine (safe_dispatchRunning context ?_).mono
            (fun _ _ step => step) ?_
          · exact
              { running := (AList.mem_insert _).mpr (.inl rfl)
                unqueued := fun stays => (AList.mem_erase.mp stays).1 rfl
                unfinished := sound.queuedUnfinished _ queued }
          · intro result last finished
            cases result with
            | error error => trivial
            | ok terminal =>
                simp only [Program.bindPost_ok, Program.safe_bind,
                  Program.safe_update, Program.safe_pure, and_true]
                exact ⟨.finish (.inl (finished terminal rfl)), .unmark⟩

theorem safe_submitAndDispatchOnce
    {state : State} (sound : Sound state)
    (request : RuntimeRunRequest) (context : DispatchContext)
    (maxQueued : Int) :
    (submitAndDispatchOnce request context maxQueued).Safe CarefulStep
      (fun _ _ => True) state := by
  rw [submitAndDispatchOnce, Program.safe_bind]
  refine (safe_recordedSubmit sound request maxQueued).mono
    (fun _ _ step => step) ?_
  intro result final soundFinal
  cases result with
  | error error => trivial
  | ok outcome =>
      cases outcome with
      | terminal receipt => trivial
      | checkpoint checkpoint =>
          simp only [Program.bindPost_ok, Program.safe_bind]
          refine (safe_dispatchNext soundFinal context maxQueued).mono
            (fun _ _ step => step) ?_
          intro result last _
          cases result with
          | error error => trivial
          | ok terminal => cases terminal <;> trivial

end ScientificResourceLab.Scheduler
