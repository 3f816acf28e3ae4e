import ScientificResourceLab.Scheduler.Queue

/-!
# Order of dispatch

The calls of a history are numbered from zero, and `directories` is the state
before the call at an index.  A queued file is traced back to the submission
that put it and has not changed since.  It follows that two requests of one
priority and pool are dispatched in the order of their submission, in every
history with crashes.
-/

namespace ScientificResourceLab.Scheduler

open Python Contracts Steps

/-! ## Calls by index -/

/-- The directories before the call at an index. -/
def directories (calls : List (Call Operation)) (index : Nat) : State :=
  stateBefore code calls State.empty index

/-- The call at an index submits the request. -/
def SubmittedAt
    (calls : List (Call Operation)) (index : Nat)
    (request : RuntimeRunRequest) : Prop :=
  ∃ call maxQueued, calls[index]? = some call ∧
    call.operation = .submit request maxQueued

/-- The call at an index takes the request from the queue to run it. -/
def DispatchedAt
    (calls : List (Call Operation)) (index : Nat) (requestId : Text) :
    Prop :=
  (∃ call context maxQueued, calls[index]? = some call ∧
    call.operation = .dispatchNext context maxQueued) ∧
    requestId ∈ (directories calls index).queued ∧
    requestId ∉ (directories calls (index + 1)).queued

/-- The call at an index is a recovery that queues the request again. -/
def RequeuedAt
    (calls : List (Call Operation)) (index : Nat) (requestId : Text) :
    Prop :=
  (∃ call, calls[index]? = some call ∧
    call.operation = .recoverInterrupted) ∧
    (directories calls (index + 1)).queued.lookup requestId ≠
      (directories calls index).queued.lookup requestId

/-- The calls are those of the four operations, not of their composite. -/
def Elementary (calls : List (Call Operation)) : Prop :=
  ∀ call ∈ calls, ∀ request context maxQueued,
    call.operation ≠ .submitAndDispatchOnce request context maxQueued

theorem sound_directories
    (calls : List (Call Operation)) (index : Nat) :
    Sound (directories calls index) :=
  sound_afterCalls (calls.take index)

section

variable {calls : List (Call Operation)} {index : Nat}

theorem directories_queueChange
    {call : Call Operation} (called : calls[index]? = some call) :
    QueueChange (directories calls index)
      (directories calls (index + 1)) call.operation := by
  rw [directories, directories, stateBefore_succ called]
  exact call_queueChange (sound_directories calls index) call

/-- A dispatch takes at most the request that leads the queue. -/
theorem DispatchedAt.leads
    {requestId : Text} (dispatched : DispatchedAt calls index requestId) :
    ∃ chosen : RuntimeRunCheckpoint,
      (directories calls index).queued.lookup requestId = some chosen ∧
        chosen.request.requestId = requestId ∧
        Leads (directories calls index) chosen ∧
        (directories calls (index + 1)).queued =
          (directories calls index).queued.erase requestId := by
  obtain ⟨⟨call, context, maxQueued, called, isDispatch⟩, queued, left⟩ :=
    dispatched
  have change := directories_queueChange called
  rw [isDispatch] at change
  cases change with
  | dispatchNext taken =>
      rcases taken with same | ⟨chosen, found, leads, same⟩
      · rw [same] at left
        exact (left queued).elim
      · have isChosen : requestId = chosen.request.requestId := by
          by_contra differs
          refine left ?_
          rw [same]
          exact AList.mem_erase.mpr ⟨differs, queued⟩
        subst isChosen
        exact ⟨chosen, found, rfl, leads, same⟩

/-- The file was put by the submission at an index. -/
structure EnteredAt
    (calls : List (Call Operation)) (index : Nat)
    (checkpoint : RuntimeRunCheckpoint) : Prop where
  submitted : SubmittedAt calls index checkpoint.request
  fresh : ¬ (directories calls index).Held checkpoint.request.requestId
  above : ∀ requestId other,
    (directories calls index).queued.lookup requestId = some other →
      other.sequence < checkpoint.sequence
  found : (directories calls (index + 1)).queued.lookup
    checkpoint.request.requestId = some checkpoint

/-- A queued file was there before the call, or the call submitted it. -/
theorem queued_before_or_entered
    (elementary : Elementary calls) {requestId : Text}
    {checkpoint : RuntimeRunCheckpoint}
    (found : (directories calls (index + 1)).queued.lookup requestId =
      some checkpoint)
    (kept : ¬ RequeuedAt calls index requestId) :
    (directories calls index).queued.lookup requestId =
        some checkpoint ∨ EnteredAt calls index checkpoint := by
  cases called : calls[index]? with
  | none =>
      rw [directories, stateBefore_rests called] at found
      exact .inl found
  | some call =>
      have change := directories_queueChange called
      cases isOperation : call.operation with
      | submit request maxQueued =>
          rw [isOperation] at change
          cases change with
          | submit added =>
              rcases added with same | ⟨fresh, put, isRequest, above, same⟩
              · rw [same] at found
                exact .inl found
              · rw [same] at found
                rcases Directory.lookup_insert_eq_some.mp found with
                  ⟨rfl, rfl⟩ | ⟨_, old⟩
                · subst isRequest
                  refine .inr ⟨⟨call, maxQueued, called, isOperation⟩,
                    fresh, above, ?_⟩
                  rw [same]
                  exact found
                · exact .inl old
      | cancelRequest cancelled =>
          rw [isOperation] at change
          cases change with
          | cancelRequest removed =>
              rcases removed with same | same
              · rw [same] at found
                exact .inl found
              · rw [same] at found
                exact .inl (Directory.lookup_erase_eq_some.mp found).2
      | recoverInterrupted =>
          left
          by_contra differs
          refine kept ⟨⟨call, called, isOperation⟩, ?_⟩
          rw [found]
          exact fun same => differs same.symm
      | dispatchNext context maxQueued =>
          rw [isOperation] at change
          cases change with
          | dispatchNext taken =>
              rcases taken with same | ⟨chosen, _, _, same⟩
              · rw [same] at found
                exact .inl found
              · rw [same] at found
                exact .inl (Directory.lookup_erase_eq_some.mp found).2
      | submitAndDispatchOnce request context maxQueued =>
          exact (elementary call (List.mem_of_getElem? called) request
            context maxQueued isOperation).elim

/-- A queued file has been queued unchanged since its submission. -/
theorem queued_since_entered
    (elementary : Elementary calls) {requestId : Text}
    (kept : ∀ earlier, ¬ RequeuedAt calls earlier requestId)
    {checkpoint : RuntimeRunCheckpoint}
    (found : (directories calls index).queued.lookup requestId =
      some checkpoint) :
    ∃ entry < index, EnteredAt calls entry checkpoint ∧
      ∀ later, entry < later → later ≤ index →
        (directories calls later).queued.lookup requestId =
          some checkpoint := by
  induction index with
  | zero =>
      simp [directories, stateBefore, afterCalls, State.empty] at found
  | succ index induction =>
      rcases queued_before_or_entered elementary found (kept index) with
        old | entered
      · obtain ⟨entry, before, entered, since⟩ := induction old
        refine ⟨entry, by omega, entered, fun later after bound => ?_⟩
        rcases Nat.lt_or_eq_of_le bound with earlier | rfl
        · exact since later after (Nat.le_of_lt_succ earlier)
        · exact found
      · refine ⟨index, by omega, entered, fun later after bound => ?_⟩
        obtain rfl : later = index + 1 := by omega
        exact found

end

/-! ## First in, first out -/

/-- The request is submitted at an index and never again. -/
def OnceSubmitted
    (calls : List (Call Operation)) (index : Nat)
    (request : RuntimeRunRequest) : Prop :=
  SubmittedAt calls index request ∧
    ∀ other again, SubmittedAt calls other again →
      again.requestId = request.requestId → other = index

theorem SubmittedAt.unique
    {calls : List (Call Operation)} {index : Nat}
    {first second : RuntimeRunRequest}
    (isFirst : SubmittedAt calls index first)
    (isSecond : SubmittedAt calls index second) : first = second := by
  obtain ⟨call, maxQueued, called, isSubmit⟩ := isFirst
  obtain ⟨other, otherQueued, otherCalled, otherSubmit⟩ := isSecond
  obtain rfl := Option.some.inj (called.symm.trans otherCalled)
  rw [isSubmit] at otherSubmit
  cases otherSubmit
  rfl

theorem dispatched_since_submitted
    {calls : List (Call Operation)} (elementary : Elementary calls)
    {request : RuntimeRunRequest} {submission dispatch : Nat}
    (once : OnceSubmitted calls submission request)
    (kept : ∀ index, ¬ RequeuedAt calls index request.requestId)
    (dispatched : DispatchedAt calls dispatch request.requestId) :
    ∃ checkpoint : RuntimeRunCheckpoint,
      checkpoint.request = request ∧ submission < dispatch ∧
        EnteredAt calls submission checkpoint ∧
        ∀ later, submission < later → later ≤ dispatch →
          (directories calls later).queued.lookup request.requestId =
            some checkpoint := by
  obtain ⟨checkpoint, found, named, _, _⟩ := dispatched.leads
  obtain ⟨entry, before, entered, since⟩ :=
    queued_since_entered elementary kept found
  obtain rfl := once.2 entry _ entered.submitted named
  exact ⟨checkpoint, entered.submitted.unique once.1, before, entered,
    since⟩

theorem dispatched_in_order
    {calls : List (Call Operation)} (elementary : Elementary calls)
    {first second : RuntimeRunRequest}
    (samePriority : first.priority = second.priority)
    {firstSubmission secondSubmission firstDispatch secondDispatch : Nat}
    (firstOnce : OnceSubmitted calls firstSubmission first)
    (secondOnce : OnceSubmitted calls secondSubmission second)
    (firstKept : ∀ index, ¬ RequeuedAt calls index first.requestId)
    (secondKept : ∀ index, ¬ RequeuedAt calls index second.requestId)
    (before : firstSubmission < secondSubmission)
    (firstDispatched : DispatchedAt calls firstDispatch first.requestId)
    (secondDispatched :
      DispatchedAt calls secondDispatch second.requestId) :
    firstDispatch < secondDispatch := by
  by_contra overtaken
  have late : secondDispatch ≤ firstDispatch := not_lt.mp overtaken
  obtain ⟨firstItem, isFirst, _, _, firstSince⟩ :=
    dispatched_since_submitted elementary firstOnce firstKept
      firstDispatched
  obtain ⟨secondItem, isSecond, entersFirst, entered, secondSince⟩ :=
    dispatched_since_submitted elementary secondOnce secondKept
      secondDispatched
  obtain ⟨chosen, found, _, leads, taken⟩ := secondDispatched.leads
  obtain rfl : chosen = secondItem := Option.some.inj
    (found.symm.trans (secondSince secondDispatch entersFirst le_rfl))
  -- The first was queued when the second was submitted and dispatched.
  have smaller := entered.above _ _
    (firstSince secondSubmission before (by omega))
  have preferred := leads _ _
    (firstSince secondDispatch (by omega) late)
  rw [isFirst, isSecond, samePriority] at preferred
  omega

/--
After every history, crashes included, the queued requests have distinct
sequence numbers.  And of two requests with one priority and one pool, each
submitted once and never queued again by a recovery, the one submitted first
is dispatched first.
-/
theorem distinct_numbers_and_fifo (calls : List (Call Operation)) :
    Numbered (afterCalls code calls State.empty).queued ∧
      (Elementary calls →
        ∀ (first second : RuntimeRunRequest)
          (firstSubmission secondSubmission : Nat)
          (firstDispatch secondDispatch : Nat),
          first.priority = second.priority → first.pool = second.pool →
          OnceSubmitted calls firstSubmission first →
          OnceSubmitted calls secondSubmission second →
          (∀ index, ¬ RequeuedAt calls index first.requestId) →
          (∀ index, ¬ RequeuedAt calls index second.requestId) →
          DispatchedAt calls firstDispatch first.requestId →
          DispatchedAt calls secondDispatch second.requestId →
          firstSubmission < secondSubmission →
            firstDispatch < secondDispatch) := by
  refine ⟨numbered_afterCalls calls, ?_⟩
  intro elementary first second firstSubmission secondSubmission
    firstDispatch secondDispatch samePriority _ firstOnce secondOnce
    firstKept secondKept firstDispatched secondDispatched before
  exact dispatched_in_order elementary samePriority firstOnce secondOnce
    firstKept secondKept before firstDispatched secondDispatched

/-! ## A history -/

/-- A request with an id and a priority of its own. -/
def prioritized
    (name : String) (priority : Int)
    (valid : isRequestId (text name) = true) : RuntimeRunRequest :=
  { sampleRequest with
    requestId := text name
    priority := priority
    requestIdValid := valid }

/-- A dispatch on a full disk, which parks the request it takes. -/
def fullDisk : DispatchContext where
  policy :=
    { default := ⟨0, 0, 0, 0⟩
      exception := ⟨0, 0, 0, 0⟩
      requiredFreeDiskBytes := 1 }
  packStatuses := fun _ => none
  freeDiskBytes := .ok 0
  ingestBytes := fun _ => .error (raised .fileNotFoundError "")
  materializeRun := fun _ _ => .error (raised .fileNotFoundError "")
  prepareScratch := .error (raised .fileNotFoundError "")
  runner := fun _ _ => .error (raised .fileNotFoundError "")
  sealRun := fun _ _ => .error (raised .fileNotFoundError "")

theorem oldId_valid : isRequestId (text "old") = true := by
  decide

theorem urgentId_valid : isRequestId (text "a") = true := by
  decide

theorem secondId_valid : isRequestId (text "b") = true := by
  decide

theorem thirdId_valid : isRequestId (text "c") = true := by
  decide

/-- Requests of priority two are dispatched as they come; `old` waits. -/
def newestFirst : List (Call Operation) :=
  [.complete (.submit (prioritized "old" 0 oldId_valid) 4),
    .complete (.submit (prioritized "a" 2 urgentId_valid) 4),
    .complete (.dispatchNext fullDisk 4),
    .complete (.submit (prioritized "b" 2 secondId_valid) 4),
    .complete (.dispatchNext fullDisk 4),
    .complete (.submit (prioritized "c" 2 thirdId_valid) 4),
    .complete (.dispatchNext fullDisk 4)]

theorem newestFirst_queues :
    (List.range 8).map (fun index =>
        (directories newestFirst index).queued.keys) =
      [[], [text "old"], [text "a", text "old"], [text "old"],
        [text "b", text "old"], [text "old"], [text "c", text "old"],
        [text "old"]] := by
  unfold directories newestFirst code recordedSubmit submit dispatchNext
    dispatchRunning terminalFromWait unsealedReceipt writeTerminalOnce
    SchedulerTerminalReceipt.withId SchedulerTerminalReceipt.toDict
    SchedulerTerminalReceipt.toDictWithoutId
    SchedulerTerminalReceipt.members RuntimeRunCheckpoint.toDict
    RuntimeRunRequest.toDict ResourceEstimate.digest
    ResourceEstimate.toCanonicalDict RuntimeRunStatus.value
    RuntimePool.value
  rw [objectId_eq_strict, sha256_eq_strict]
  simp -index only [text_ofList]
  decide +kernel

theorem newestFirst_queued
    {index : Nat} (bound : index < 8) (requestId : Text) :
    requestId ∈ (directories newestFirst index).queued ↔
      requestId ∈ [[], [text "old"], [text "a", text "old"],
        [text "old"], [text "b", text "old"], [text "old"],
        [text "c", text "old"], [text "old"]].getD index [] := by
  have keys := congrArg (fun queues => queues.getD index [])
    newestFirst_queues
  simp only [List.getD_eq_getElem?_getD, List.getElem?_map,
    List.getElem?_range bound, Option.map_some, Option.getD_some] at keys
  rw [AList.mem_keys, keys, List.getD_eq_getElem?_getD]

/-- The submissions of the history. -/
theorem newestFirst_submitted
    {index : Nat} {request : RuntimeRunRequest}
    (submitted : SubmittedAt newestFirst index request) :
    index = 0 ∧ request = prioritized "old" 0 (by decide) ∨
      index = 1 ∧ request = prioritized "a" 2 (by decide) ∨
      index = 3 ∧ request = prioritized "b" 2 (by decide) ∨
      index = 5 ∧ request = prioritized "c" 2 (by decide) := by
  obtain ⟨call, maxQueued, called, isSubmit⟩ := submitted
  match index with
  | 0 | 1 | 3 | 5 =>
      cases called
      cases isSubmit
      simp
  | 2 | 4 | 6 =>
      cases called
      cases isSubmit
  | _ + 7 => cases called

theorem newestFirst_elementary : Elementary newestFirst := by
  simp [Elementary, newestFirst, Call.operation]

theorem newestFirst_not_requeued (index : Nat) (requestId : Text) :
    ¬ RequeuedAt newestFirst index requestId := by
  rintro ⟨⟨call, called, isRecovery⟩, _⟩
  have member := List.mem_of_getElem? called
  simp only [newestFirst, List.mem_cons, List.not_mem_nil, or_false]
    at member
  rcases member with rfl | rfl | rfl | rfl | rfl | rfl | rfl <;>
    cases isRecovery

/-- Two requests of the history, in the order of their submission. -/
theorem fifo_in_newestFirst :
    DispatchedAt newestFirst 2 (text "a") ∧
      DispatchedAt newestFirst 4 (text "b") ∧ 2 < 4 := by
  have first : DispatchedAt newestFirst 2 (text "a") := by
    refine ⟨⟨_, fullDisk, 4, rfl, rfl⟩, ?_, ?_⟩
    · rw [newestFirst_queued (by decide)]
      decide
    · rw [newestFirst_queued (by decide)]
      decide
  have second : DispatchedAt newestFirst 4 (text "b") := by
    refine ⟨⟨_, fullDisk, 4, rfl, rfl⟩, ?_, ?_⟩
    · rw [newestFirst_queued (by decide)]
      decide
    · rw [newestFirst_queued (by decide)]
      decide
  refine ⟨first, second, ?_⟩
  refine (distinct_numbers_and_fifo newestFirst).2 newestFirst_elementary
    (prioritized "a" 2 (by decide)) (prioritized "b" 2 (by decide)) 1 3
    2 4 rfl rfl ⟨⟨_, 4, rfl, rfl⟩, ?_⟩ ⟨⟨_, 4, rfl, rfl⟩, ?_⟩
    (newestFirst_not_requeued · _) (newestFirst_not_requeued · _)
    first second (by decide)
  · intro other again submitted same
    rcases newestFirst_submitted submitted with
      ⟨rfl, rfl⟩ | ⟨rfl, rfl⟩ | ⟨rfl, rfl⟩ | ⟨rfl, rfl⟩
    · exact absurd same (by decide)
    · rfl
    · exact absurd same (by decide)
    · exact absurd same (by decide)
  · intro other again submitted same
    rcases newestFirst_submitted submitted with
      ⟨rfl, rfl⟩ | ⟨rfl, rfl⟩ | ⟨rfl, rfl⟩ | ⟨rfl, rfl⟩
    · exact absurd same (by decide)
    · exact absurd same (by decide)
    · rfl
    · exact absurd same (by decide)

end ScientificResourceLab.Scheduler
