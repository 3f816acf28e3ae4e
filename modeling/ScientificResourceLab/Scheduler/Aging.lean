import ScientificResourceLab.Scheduler.Fairness
import Mathlib.Combinatorics.Enumerative.DoubleCounting

/-!
# Aging

A queued request earns one point of priority for each later enqueue, so that
a bounded difference of priorities is used up after as many of them.  The
points are not stored: the age of a request is its distance to the largest
queued number, and the next number is one above the largest queued one.

A dispatch of the newest request gives its number back.  When the next
submission takes it again, the requests that wait do not age, and a stream of
submissions and dispatches passes them over without end.  The bound holds for
the histories in which a submission that finds requests waiting still finds
the one queued last among them: no number is then taken twice while a request
waits.
-/

namespace ScientificResourceLab.Scheduler

open Python Contracts Steps

/-! ## Overtaking -/

/-- Only submissions and dispatches, none of them cut. -/
def Undisturbed (calls : List (Call Operation)) : Prop :=
  ∀ call ∈ calls,
    (∃ request maxQueued, call = .complete (.submit request maxQueued)) ∨
      ∃ context maxQueued,
        call = .complete (.dispatchNext context maxQueued)

/-- The priorities of all submissions lie in an interval. -/
def PrioritiesWithin
    (calls : List (Call Operation)) (lowest : Int) (spread : Nat) :
    Prop :=
  ∀ index request, SubmittedAt calls index request →
    lowest ≤ request.priority ∧ request.priority ≤ lowest + spread

/-- The call at an index queues the request. -/
def QueuedAt
    (calls : List (Call Operation)) (index : Nat) (requestId : Text) :
    Prop :=
  requestId ∉ (directories calls index).queued ∧
    requestId ∈ (directories calls (index + 1)).queued

/-- A request is dispatched while one queued before it stays queued. -/
def Overtakes
    (calls : List (Call Operation)) (later earlier : Text) : Prop :=
  ∃ first second dispatch,
    QueuedAt calls first earlier ∧ QueuedAt calls second later ∧
      first < second ∧ DispatchedAt calls dispatch later ∧
      earlier ∈ (directories calls dispatch).queued ∧
      earlier ∈ (directories calls (dispatch + 1)).queued

/-- Every request is overtaken by at most so many others. -/
def OvertakingsWithin
    (calls : List (Call Operation)) (spread : Nat) : Prop :=
  ∀ (earlier : Text) (overtakers : Finset Text),
    (∀ later ∈ overtakers, Overtakes calls later earlier) →
      overtakers.card ≤ spread

/--
A request is queued only while the one queued before it is still queued, or
when the queue is empty.
-/
def LastStays (calls : List (Call Operation)) : Prop :=
  ∀ last next newest queued, last < next →
    QueuedAt calls last newest → QueuedAt calls next queued →
    (∀ between other, last < between → between < next →
      ¬ QueuedAt calls between other) →
      (directories calls next).queued.keys = [] ∨
        newest ∈ (directories calls next).queued

/-! ## Submissions are the only entries -/

section

variable {calls : List (Call Operation)}

theorem Undisturbed.elementary (undisturbed : Undisturbed calls) :
    Elementary calls := by
  intro call member request context maxQueued isBoth
  rcases undisturbed call member with
    ⟨_, _, rfl⟩ | ⟨_, _, rfl⟩ <;> cases isBoth

theorem Undisturbed.not_requeued
    (undisturbed : Undisturbed calls) (index : Nat) (requestId : Text) :
    ¬ RequeuedAt calls index requestId := by
  rintro ⟨⟨call, called, isRecovery⟩, _⟩
  rcases undisturbed call (List.mem_of_getElem? called) with
    ⟨_, _, rfl⟩ | ⟨_, _, rfl⟩ <;> cases isRecovery

/-- Without cancellations and crashes a request stays in some directory. -/
theorem Undisturbed.held_later
    (undisturbed : Undisturbed calls) {requestId : Text}
    {index later : Nat} (after : index ≤ later)
    (held : (directories calls index).Held requestId) :
    (directories calls later).Held requestId := by
  induction later, after using Nat.le_induction with
  | base => exact held
  | succ later _ induction =>
      cases called : calls[later]? with
      | none =>
          rw [directories, stateBefore_rests called]
          exact induction
      | some call =>
          rw [directories, stateBefore_succ called]
          have sound := sound_directories calls later
          have careful {before after : State}
              (chain : Relation.ReflTransGen CarefulStep before after)
              (heldBefore : before.Held requestId) :
              after.Held requestId :=
            Program.holds_of_reaches (fun state => state.Held requestId)
              chain (fun _ _ step => step.held) heldBefore
          rcases undisturbed call (List.mem_of_getElem? called) with
            ⟨request, maxQueued, rfl⟩ | ⟨context, maxQueued, rfl⟩
          · exact careful
              (safe_recordedSubmit sound request maxQueued).run_reaches
              induction
          · exact careful
              (safe_dispatchNext sound context maxQueued).run_reaches
              induction

theorem Undisturbed.entered_of_queuedAt
    (undisturbed : Undisturbed calls) {index : Nat} {requestId : Text}
    (queued : QueuedAt calls index requestId) :
    ∃ item : RuntimeRunCheckpoint,
      item.request.requestId = requestId ∧ EnteredAt calls index item := by
  obtain ⟨item, found⟩ := Directory.mem_iff_lookup.mp queued.2
  refine ⟨item,
    (sound_directories calls (index + 1)).queuedNamed _ _ found, ?_⟩
  rcases queued_before_or_entered undisturbed.elementary found
    (undisturbed.not_requeued index requestId) with old | entered
  · exact (queued.1 (Directory.mem_of_lookup old)).elim
  · exact entered

theorem EnteredAt.queuedAt
    {index : Nat} {item : RuntimeRunCheckpoint}
    (entered : EnteredAt calls index item) :
    QueuedAt calls index item.request.requestId :=
  ⟨fun queued => entered.fresh (.inl queued),
    Directory.mem_of_lookup entered.found⟩

/-- A request enters the queue once, with one file. -/
theorem Undisturbed.entered_unique
    (undisturbed : Undisturbed calls) {first second : Nat}
    {firstItem secondItem : RuntimeRunCheckpoint}
    (isFirst : EnteredAt calls first firstItem)
    (isSecond : EnteredAt calls second secondItem)
    (same : firstItem.request.requestId = secondItem.request.requestId) :
    first = second ∧ firstItem = secondItem := by
  have notLater {early late : Nat}
      {earlyItem lateItem : RuntimeRunCheckpoint}
      (isEarly : EnteredAt calls early earlyItem)
      (isLate : EnteredAt calls late lateItem)
      (same : earlyItem.request.requestId = lateItem.request.requestId) :
      ¬ early < late := by
    intro before
    refine isLate.fresh (undisturbed.held_later before (.inl ?_))
    rw [← same]
    exact Directory.mem_of_lookup isEarly.found
  have sameIndex : first = second := by
    have notBefore := notLater isFirst isSecond same
    have notAfter := notLater isSecond isFirst same.symm
    omega
  subst sameIndex
  have found := isFirst.found
  rw [same, isSecond.found] at found
  exact ⟨rfl, (Option.some.inj found).symm⟩

theorem Undisturbed.queued_since
    (undisturbed : Undisturbed calls) {entry index : Nat}
    {item : RuntimeRunCheckpoint} (entered : EnteredAt calls entry item)
    (queued :
      item.request.requestId ∈ (directories calls index).queued) :
    entry < index ∧ ∀ later, entry < later → later ≤ index →
      (directories calls later).queued.lookup item.request.requestId =
        some item := by
  obtain ⟨found, isFound⟩ := Directory.mem_iff_lookup.mp queued
  have named :=
    (sound_directories calls index).queuedNamed _ _ isFound
  obtain ⟨other, before, enteredOther, since⟩ :=
    queued_since_entered undisturbed.elementary
      (undisturbed.not_requeued · item.request.requestId) isFound
  obtain ⟨rfl, rfl⟩ :=
    undisturbed.entered_unique entered enteredOther named.symm
  exact ⟨before, since⟩

/-! ## Numbers that grow -/

/-- While a request waits, later entries have larger numbers. -/
theorem LastStays.sequence_lt
    (lastStays : LastStays calls) (undisturbed : Undisturbed calls)
    {entry first second : Nat}
    {waiting firstItem secondItem : RuntimeRunCheckpoint}
    (isWaiting : EnteredAt calls entry waiting)
    (isFirst : EnteredAt calls first firstItem)
    (isSecond : EnteredAt calls second secondItem)
    (afterEntry : entry < first) (before : first < second)
    (waits : waiting.request.requestId ∈
      (directories calls second).queued) :
    firstItem.sequence < secondItem.sequence := by
  have waitsSince := (undisturbed.queued_since isWaiting waits).2
  -- The file queued last is still there when the next one is queued.
  have next {last index : Nat} {newest item : RuntimeRunCheckpoint}
      (isNewest : EnteredAt calls last newest)
      (isItem : EnteredAt calls index item)
      (later : last < index) (bound : index ≤ second)
      (afterFirst : first ≤ last)
      (quiet : ∀ between other, last < between → between < index →
        ¬ QueuedAt calls between other) :
      newest.sequence < item.sequence := by
    have stays : newest.request.requestId ∈
        (directories calls index).queued := by
      refine (lastStays last index _ _ later isNewest.queuedAt
        isItem.queuedAt quiet).resolve_left fun empty => ?_
      have listed := AList.mem_keys.mp (Directory.mem_of_lookup
        (waitsSince index (by omega) bound))
      rw [empty] at listed
      exact List.not_mem_nil listed
    exact isItem.above _ _
      ((undisturbed.queued_since isNewest stays).2 index later le_rfl)
  have newest (index : Nat) (later : first + 1 ≤ index)
      (bound : index ≤ second) :
      ∃ last item, first ≤ last ∧ last < index ∧
        EnteredAt calls last item ∧
        firstItem.sequence ≤ item.sequence ∧
        ∀ between other, last < between → between < index →
          ¬ QueuedAt calls between other := by
    induction index, later using Nat.le_induction with
    | base =>
        refine ⟨first, firstItem, le_rfl, by omega, isFirst, le_rfl, ?_⟩
        intro between other after until_
        omega
    | succ index later induction =>
        obtain ⟨last, item, afterFirst, isBefore, entered, atLeast,
          quiet⟩ := induction (by omega)
        by_cases queues : ∃ other, QueuedAt calls index other
        · obtain ⟨other, queued⟩ := queues
          obtain ⟨new, _, isNew⟩ := undisturbed.entered_of_queuedAt queued
          have larger := next entered isNew isBefore (by omega)
            afterFirst quiet
          refine ⟨index, new, by omega, by omega, isNew, by omega, ?_⟩
          intro between other after until_
          omega
        · refine ⟨last, item, afterFirst, by omega, entered, atLeast, ?_⟩
          intro between other after until_
          rcases Nat.lt_or_eq_of_le (Nat.le_of_lt_succ until_) with
            earlier | rfl
          · exact quiet between other after earlier
          · exact fun queued => queues ⟨other, queued⟩
  obtain ⟨last, item, afterFirst, isBefore, entered, atLeast, quiet⟩ :=
    newest second before le_rfl
  exact lt_of_le_of_lt atLeast
    (next entered isSecond isBefore le_rfl afterFirst quiet)

/-- An overtaker entered with one of the numbers after the overtaken. -/
theorem Undisturbed.overtakes_number
    (undisturbed : Undisturbed calls) {lowest : Int} {spread : Nat}
    (priorities : PrioritiesWithin calls lowest spread)
    {later earlier : Text} (overtakes : Overtakes calls later earlier) :
    ∃ first second earlierItem laterItem,
      EnteredAt calls first earlierItem ∧
        earlierItem.request.requestId = earlier ∧
        EnteredAt calls second laterItem ∧
        laterItem.request.requestId = later ∧ first < second ∧
        earlier ∈ (directories calls second).queued ∧
        earlierItem.sequence < laterItem.sequence ∧
        laterItem.sequence ≤ earlierItem.sequence + spread := by
  obtain ⟨first, second, dispatch, earlierQueued, laterQueued, order,
    dispatched, waits, _⟩ := overtakes
  obtain ⟨earlierItem, rfl, isEarlier⟩ :=
    undisturbed.entered_of_queuedAt earlierQueued
  obtain ⟨laterItem, rfl, isLater⟩ :=
    undisturbed.entered_of_queuedAt laterQueued
  obtain ⟨firstBefore, earlierSince⟩ :=
    undisturbed.queued_since isEarlier waits
  obtain ⟨secondBefore, laterSince⟩ :=
    undisturbed.queued_since isLater dispatched.2.1
  have present := earlierSince second order (by omega)
  obtain ⟨chosen, found, _, leads, _⟩ := dispatched.leads
  obtain rfl : chosen = laterItem := Option.some.inj
    (found.symm.trans (laterSince dispatch secondBefore le_rfl))
  have preferred := leads _ _ (earlierSince dispatch firstBefore le_rfl)
  have low := (priorities _ _ isEarlier.submitted).1
  have high := (priorities _ _ isLater.submitted).2
  exact ⟨first, second, earlierItem, chosen, isEarlier, rfl, isLater, rfl,
    order, Directory.mem_of_lookup present,
    isLater.above _ _ present, by omega⟩

/--
In a history of submissions and dispatches whose priorities differ by at most
`spread`, and in which a request is queued only while the one queued before
it is still queued, every request is overtaken by at most `spread` others.
-/
theorem overtakings_within_spread
    {calls : List (Call Operation)} (undisturbed : Undisturbed calls)
    {lowest : Int} {spread : Nat}
    (priorities : PrioritiesWithin calls lowest spread)
    (lastStays : LastStays calls) :
    OvertakingsWithin calls spread := by
  intro earlier overtakers overtake
  rcases overtakers.eq_empty_or_nonempty with rfl | ⟨some, isSome⟩
  · exact Nat.zero_le spread
  obtain ⟨entry, _, waiting, _, isWaiting, rfl, _⟩ :=
    undisturbed.overtakes_number priorities (overtake some isSome)
  -- Each overtaker took a number of its own, out of `spread` many.
  let Takes (later : Text) (number : Nat) : Prop :=
    ∃ index item, EnteredAt calls index item ∧
      item.request.requestId = later ∧ item.sequence = number ∧
      entry < index ∧ waiting.request.requestId ∈
        (directories calls index).queued
  have takes : ∀ later ∈ overtakers, ∃ number,
      number ∈ Finset.Ioc waiting.sequence (waiting.sequence + spread) ∧
        Takes later number := by
    intro later member
    obtain ⟨first, second, earlierItem, laterItem, isEarlier, same,
      isLater, isId, order, waits, above, within⟩ :=
      undisturbed.overtakes_number priorities (overtake later member)
    obtain ⟨rfl, rfl⟩ :=
      undisturbed.entered_unique isEarlier isWaiting same
    exact ⟨laterItem.sequence, Finset.mem_Ioc.mpr ⟨above, within⟩,
      second, laterItem, isLater, isId, rfl, order, waits⟩
  have single : ∀ number ∈
      Finset.Ioc waiting.sequence (waiting.sequence + spread),
      ({later ∈ overtakers | Takes later number} :
        Set Text).Subsingleton := by
    rintro number _ left ⟨_, leftIndex, leftItem, isLeft, rfl, leftNumber,
      leftAfter, leftWaits⟩ right ⟨_, rightIndex, rightItem, isRight, rfl,
      rightNumber, rightAfter, rightWaits⟩
    rcases Nat.lt_trichotomy leftIndex rightIndex with
      before | rfl | after
    · have smaller := lastStays.sequence_lt undisturbed isWaiting isLeft
        isRight leftAfter before rightWaits
      omega
    · rw [isLeft.submitted.unique isRight.submitted]
    · have smaller := lastStays.sequence_lt undisturbed isWaiting isRight
        isLeft rightAfter after leftWaits
      omega
  have counted := Finset.card_le_card_of_forall_subsingleton Takes takes
    single
  rwa [Nat.card_Ioc, Nat.add_sub_cancel_left] at counted

end

/-! ## A request that starves -/

theorem newestFirst_undisturbed : Undisturbed newestFirst := by
  intro call member
  simp only [newestFirst, List.mem_cons, List.not_mem_nil, or_false]
    at member
  rcases member with rfl | rfl | rfl | rfl | rfl | rfl | rfl
  case inr.inr.inl => exact .inr ⟨_, _, rfl⟩
  case inr.inr.inr.inr.inl => exact .inr ⟨_, _, rfl⟩
  case inr.inr.inr.inr.inr.inr => exact .inr ⟨_, _, rfl⟩
  all_goals exact .inl ⟨_, _, rfl⟩

theorem newestFirst_priorities : PrioritiesWithin newestFirst 0 2 := by
  intro index request submitted
  rcases newestFirst_submitted submitted with
    ⟨_, rfl⟩ | ⟨_, rfl⟩ | ⟨_, rfl⟩ | ⟨_, rfl⟩ <;> decide

/-- A request that is queued and at once dispatched overtakes `old`. -/
theorem newestFirst_overtakes
    (second : Nat) {later : Text} (after : 0 < second)
    (submitted : QueuedAt newestFirst second later)
    (dispatched : DispatchedAt newestFirst (second + 1) later)
    (before : text "old" ∈
      (directories newestFirst (second + 1)).queued)
    (stays : text "old" ∈
      (directories newestFirst (second + 2)).queued) :
    Overtakes newestFirst later (text "old") := by
  refine ⟨0, second, second + 1, ⟨?_, ?_⟩, submitted, after, dispatched,
    before, stays⟩
  · rw [newestFirst_queued (by decide)]
    decide
  · rw [newestFirst_queued (by decide)]
    decide

/--
Three requests overtake `old`, whose priority is smaller by two.  Each takes
the number that the one before it gave back, so `old` does not age.
-/
theorem newest_first_starves :
    Undisturbed newestFirst ∧ PrioritiesWithin newestFirst 0 2 ∧
      ¬ OvertakingsWithin newestFirst 2 := by
  refine ⟨newestFirst_undisturbed, newestFirst_priorities, fun within => ?_⟩
  have three := within (text "old") {text "a", text "b", text "c"} ?_
  · exact absurd three (by decide)
  intro later member
  simp only [Finset.mem_insert, Finset.mem_singleton] at member
  have isDispatch (index : Nat) (context : DispatchContext)
      (maxQueued : Int)
      (called : newestFirst[index]? =
        some (.complete (.dispatchNext context maxQueued))) :
      ∃ call context maxQueued, newestFirst[index]? = some call ∧
        call.operation = .dispatchNext context maxQueued :=
    ⟨_, context, maxQueued, called, rfl⟩
  rcases member with rfl | rfl | rfl
  · refine newestFirst_overtakes 1 (by decide) ⟨?_, ?_⟩
      ⟨isDispatch 2 fullDisk 4 rfl, ?_, ?_⟩ ?_ ?_ <;>
      rw [newestFirst_queued (by decide)] <;> decide
  · refine newestFirst_overtakes 3 (by decide) ⟨?_, ?_⟩
      ⟨isDispatch 4 fullDisk 4 rfl, ?_, ?_⟩ ?_ ?_ <;>
      rw [newestFirst_queued (by decide)] <;> decide
  · refine newestFirst_overtakes 5 (by decide) ⟨?_, ?_⟩
      ⟨isDispatch 6 fullDisk 4 rfl, ?_, ?_⟩ ?_ ?_ <;>
      rw [newestFirst_queued (by decide)] <;> decide

/-! ## Its beginning -/

theorem directories_take
    (calls : List (Call Operation)) (count index : Nat) :
    directories (calls.take count) index =
      directories calls (min index count) := by
  rw [directories, stateBefore, List.take_take]
  rfl

/-- In a shortened history a request is queued where it was. -/
theorem QueuedAt.of_take
    {calls : List (Call Operation)} {count index : Nat}
    {requestId : Text} (queued : QueuedAt (calls.take count) index requestId) :
    index < count ∧ QueuedAt calls index requestId := by
  rw [QueuedAt, directories_take, directories_take] at queued
  by_cases inside : index < count
  · rw [min_eq_left inside.le, min_eq_left inside] at queued
    exact ⟨inside, queued⟩
  · rw [min_eq_right (by omega), min_eq_right (by omega)] at queued
    exact (queued.1 queued.2).elim

theorem SubmittedAt.of_take
    {calls : List (Call Operation)} {count index : Nat}
    {request : RuntimeRunRequest}
    (submitted : SubmittedAt (calls.take count) index request) :
    SubmittedAt calls index request := by
  obtain ⟨call, maxQueued, called, isSubmit⟩ := submitted
  rw [List.getElem?_take] at called
  split at called
  · exact ⟨call, maxQueued, called, isSubmit⟩
  · cases called

/-- Up to the first dispatch no number is taken twice. -/
theorem lastStays_beginning : LastStays (newestFirst.take 3) := by
  intro last next newest queued before isLast isNext _
  obtain ⟨inside, isNext⟩ := isNext.of_take
  have notTwo : next ≠ 2 := by
    rintro rfl
    rw [QueuedAt, newestFirst_queued (by decide),
      newestFirst_queued (by decide)] at isNext
    obtain ⟨absent, present⟩ := isNext
    exact absent (List.mem_cons_of_mem _ present)
  obtain rfl : next = last + 1 := by omega
  exact .inr isLast.2

/-- One request overtakes `old` there, and two are the bound. -/
theorem overtakings_in_beginning :
    Overtakes (newestFirst.take 3) (text "a") (text "old") ∧
      OvertakingsWithin (newestFirst.take 3) 2 := by
  have priorities : PrioritiesWithin (newestFirst.take 3) 0 2 :=
    fun index request submitted =>
      newestFirst_priorities index request submitted.of_take
  have undisturbed : Undisturbed (newestFirst.take 3) :=
    fun call member =>
      newestFirst_undisturbed call (List.mem_of_mem_take member)
  refine ⟨?_, overtakings_within_spread undisturbed priorities
    lastStays_beginning⟩
  refine ⟨0, 1, 2, ⟨?_, ?_⟩, ⟨?_, ?_⟩, by decide,
    ⟨⟨_, fullDisk, 4, rfl, rfl⟩, ?_, ?_⟩, ?_, ?_⟩ <;>
    rw [directories_take, newestFirst_queued (by decide)] <;> decide

end ScientificResourceLab.Scheduler
