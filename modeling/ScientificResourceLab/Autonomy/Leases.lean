import ScientificResourceLab.Autonomy.Lanes

/-!
# How lanes end

`release_lane` and `expire_leases` on the ledgers that the operations reach.
An id can be acquired again once its lane has ended, so a ledger may hold
several entries of one id, of which at most one is active.  `release_lane`
takes the first entry of the id, whether or not it is the active one, and
`expire_leases` stops lanes before it has read the leases of all.
-/

namespace ScientificResourceLab.Autonomy

open Python Steps

/-! ## Reachable ledgers -/

section

variable (fromIsoformat : Text → Option Moment)

/-- The ledgers that operations reach, each acquisition under any policy. -/
inductive Reachable : LaneLedger → Prop
  | empty : Reachable []
  | acquireLane {ledger : LaneLedger} (policy : List (Text × Json))
      (request : LaneRequest) :
      Reachable ledger →
        Reachable (Autonomy.acquireLane policy request ledger).2
  | heartbeat {ledger : LaneLedger} (laneId now : Text) :
      Reachable ledger → Reachable (Autonomy.heartbeat laneId now ledger).2
  | releaseLane {ledger : LaneLedger} (laneId : Text)
      (status : LaneStatus) :
      Reachable ledger →
        Reachable (Autonomy.releaseLane laneId status ledger).2
  | expireLeases {ledger : LaneLedger} (now : Text) :
      Reachable ledger →
        Reachable (Autonomy.expireLeases fromIsoformat now ledger).2

end

/-- The active lanes have different ids. -/
def DistinctActive (ledger : LaneLedger) : Prop :=
  (claims ledger).Pairwise fun left right => left.laneId ≠ right.laneId

theorem acquisition_apart
    {policy : List (Text × Json)} {request : LaneRequest}
    {ledger : LaneLedger} {entry : LaneEntry}
    (acquired : acquisition policy request ledger = .ok entry) :
    entry.status = .active ∧
      ∀ held ∈ claims ledger, Apart held entry.claim := by
  cases declared : policyLaneCap policy with
  | error error =>
      rw [acquisition, declared] at acquired
      cases acquired
  | ok cap => exact (acquisition_ok declared acquired).2

/-- No id has two active lanes. -/
theorem Reachable.distinctActive
    {fromIsoformat : Text → Option Moment} {ledger : LaneLedger}
    (reachable : Reachable fromIsoformat ledger) :
    DistinctActive ledger := by
  induction reachable with
  | empty => exact List.Pairwise.nil
  | @acquireLane ledger policy request _ induction =>
      rw [Autonomy.acquireLane]
      cases acquired : acquisition policy request ledger with
      | error error => exact induction
      | ok entry =>
          obtain ⟨isActive, apart⟩ := acquisition_apart acquired
          rw [DistinctActive, claims_append, claims_cons_active isActive,
            List.pairwise_append]
          refine ⟨induction, List.pairwise_singleton _ _, ?_⟩
          intro held isHeld new isNew
          rw [List.mem_singleton.mp isNew]
          exact (apart held isHeld).laneId
  | heartbeat laneId now _ induction =>
      exact induction.sublist (claims_heartbeat laneId now _)
  | releaseLane laneId status _ induction =>
      exact induction.sublist (claims_releaseLane laneId status _)
  | expireLeases now _ induction =>
      exact induction.sublist (claims_expireLeases fromIsoformat now _)

/-! ## Releasing -/

theorem replaceFirst_eq
    {matching : LaneEntry → Bool} {update : LaneEntry → LaneEntry}
    {ledger : LaneLedger} (present : ∃ entry ∈ ledger, matching entry) :
    ∃ before first after, ledger = before ++ first :: after ∧
      (∀ entry ∈ before, matching entry = false) ∧
      matching first = true ∧
      replaceFirst matching update ledger =
        some (update first, before ++ update first :: after) := by
  induction ledger with
  | nil => simp at present
  | cons entry rest induction =>
      rw [replaceFirst]
      by_cases isMatch : matching entry = true
      · exact ⟨[], entry, rest, rfl, List.forall_mem_nil _, isMatch,
          if_pos isMatch⟩
      · have later : ∃ other ∈ rest, matching other := by
          obtain ⟨other, isOther, otherMatches⟩ := present
          rcases List.mem_cons.mp isOther with rfl | inRest
          · exact absurd otherMatches isMatch
          · exact ⟨other, inRest, otherMatches⟩
        obtain ⟨before, first, after, rfl, none, isFirst, replaced⟩ :=
          induction later
        refine ⟨entry :: before, first, after, rfl, ?_, isFirst, ?_⟩
        · exact List.forall_mem_cons.mpr
            ⟨Bool.eq_false_iff.mpr isMatch, none⟩
        · rw [if_neg isMatch, replaced]
          rfl

/-- The statuses that a lane can be released into. -/
def IsRelease (status : LaneStatus) : Prop :=
  status = .parked ∨ status = .completed

theorem releaseLane_eq
    {ledger : LaneLedger} {laneId : Text} {status : LaneStatus}
    (present : ∃ entry ∈ ledger, entry.laneId = laneId)
    (isRelease : IsRelease status) :
    ∃ before first after, ledger = before ++ first :: after ∧
      (∀ entry ∈ before, entry.laneId ≠ laneId) ∧
      first.laneId = laneId ∧
      releaseLane laneId status ledger =
        (.ok { first with status := status },
          before ++ { first with status := status } :: after) := by
  have admissible : ¬ (status ≠ .parked ∧ status ≠ .completed) := by
    rintro ⟨notParked, notCompleted⟩
    rcases isRelease with parked | completed
    · exact notParked parked
    · exact notCompleted completed
  have set (entry : LaneEntry) :
      (if entry.status = status then entry
        else { entry with status := status }) =
        { entry with status := status } := by
    split_ifs with same
    · rw [← same]
    · rfl
  obtain ⟨before, first, after, rfl, none, isFirst, replaced⟩ :=
    @replaceFirst_eq (fun entry => entry.laneId = laneId)
      (fun entry => if entry.status = status then entry
        else { entry with status := status }) ledger
      (by simpa using present)
  refine ⟨before, first, after, rfl, ?_, of_decide_eq_true isFirst, ?_⟩
  · intro entry isEntry
    exact of_decide_eq_false (none entry isEntry)
  · rw [releaseLane, if_neg admissible, replaced, set]

/-- A release ended the lane and touched no other. -/
structure Ended (laneId : Text) (ledger updated : LaneLedger) : Prop where
  ended : ∀ entry ∈ updated, entry.laneId = laneId →
    entry.status ≠ .active
  others : List.Forall₂
    (fun before after => after.laneId = before.laneId ∧
      (before.laneId ≠ laneId → after = before)) ledger updated

def ActiveIsFirst (laneId : Text) (ledger : LaneLedger) : Prop :=
  ∀ entry ∈ ledger, entry.laneId = laneId → entry.status = .active →
    ledger.find? (fun other => other.laneId = laneId) = some entry

/-- A release ends the lane exactly when its active entry comes first. -/
theorem releaseLane_ends_iff
    {fromIsoformat : Text → Option Moment} {ledger : LaneLedger}
    (reachable : Reachable fromIsoformat ledger) {laneId : Text}
    (present : ∃ entry ∈ ledger, entry.laneId = laneId)
    {status : LaneStatus} (isRelease : IsRelease status) :
    ∃ entry updated,
      releaseLane laneId status ledger = (.ok entry, updated) ∧
        (Ended laneId ledger updated ↔ ActiveIsFirst laneId ledger) := by
  obtain ⟨before, first, after, rfl, none, isFirst, released⟩ :=
    releaseLane_eq present isRelease
  refine ⟨_, _, released, ?_⟩
  have notActive : status ≠ .active := by
    rintro rfl
    rcases isRelease with parked | completed
    · cases parked
    · cases completed
  have found : (before ++ first :: after).find?
      (fun other => other.laneId = laneId) = some first := by
    rw [List.find?_append, List.find?_cons_of_pos (by simpa using isFirst),
      List.find?_eq_none.mpr (by simpa using none)]
    rfl
  constructor
  · intro ends entry isEntry isLane isActive
    rw [found]
    rcases List.mem_append.mp isEntry with inBefore | inRest
    · exact absurd isLane (none entry inBefore)
    · rcases List.mem_cons.mp inRest with rfl | inAfter
      · rfl
      · exact absurd isActive (ends.ended entry
          (List.mem_append_right _ (List.mem_cons_of_mem _ inAfter)) isLane)
  · intro activeIsFirst
    constructor
    · intro entry isEntry isLane
      rcases List.mem_append.mp isEntry with inBefore | inRest
      · exact absurd isLane (none entry inBefore)
      · rcases List.mem_cons.mp inRest with rfl | inAfter
        · exact notActive
        · intro isActive
          have same := activeIsFirst entry
            (List.mem_append_right _ (List.mem_cons_of_mem _ inAfter))
            isLane isActive
          rw [found] at same
          cases same
          have distinct := reachable.distinctActive
          rw [DistinctActive, claims_append, List.pairwise_append,
            claims_cons_active isActive, List.pairwise_cons] at distinct
          refine distinct.2.1.1 first.claim ?_ rfl
          exact List.mem_map_of_mem
            (List.mem_filter.mpr ⟨inAfter, by simpa using isActive⟩)
    · refine List.rel_append (List.forall₂_same.mpr ?_) (.cons ?_
        (List.forall₂_same.mpr ?_))
      · exact fun _ _ => ⟨rfl, fun _ => rfl⟩
      · exact ⟨rfl, fun other => absurd isFirst other⟩
      · exact fun _ _ => ⟨rfl, fun _ => rfl⟩

/-! ### An id that was acquired again -/

/-- A timestamp that `datetime.fromisoformat` reads, and no other. -/
def newYear (timestamp : Text) : Option Moment :=
  if timestamp = text "2026-01-01T00:00:00" then
    some { wall := 739616 * 86400000000, offset := 0 }
  else none

/-- A lane is parked, and its id is acquired again. -/
def resumedLedger : LaneLedger :=
  (acquireLane samplePolicy (sampleLane "a" "/w/b" "src/b")
    (releaseLane (text "a") .parked
      (acquireLane samplePolicy (sampleLane "a" "/w/a" "src/a") []).2).2).2

theorem resumedLedger_reachable : Reachable newYear resumedLedger :=
  .acquireLane _ _ (.releaseLane _ _ (.acquireLane _ _ .empty))

theorem releaseLane_ends_iff_resumed :
    ∃ entry updated,
      releaseLane (text "a") .completed resumedLedger =
          (.ok entry, updated) ∧
        (Ended (text "a") resumedLedger updated ↔
          ActiveIsFirst (text "a") resumedLedger) :=
  releaseLane_ends_iff resumedLedger_reachable (by decide)
    (.inr rfl)

/-- Releasing the resumed lane completes the entry that was parked. -/
theorem resumedLane_stays_active :
    Reachable newYear resumedLedger ∧
      (∃ entry ∈ resumedLedger, entry.laneId = text "a") ∧
      IsRelease .completed ∧
      ¬ Ended (text "a") resumedLedger
        (releaseLane (text "a") .completed resumedLedger).2 := by
  refine ⟨resumedLedger_reachable, by decide, .inr rfl, ?_⟩
  intro ends
  have ended := ends.ended
  revert ended
  decide

/-! ## Expiry -/

section

variable (fromIsoformat : Text → Option Moment)

/-- The lease of an active lane has run out. -/
def isDue (now : Text) (entry : LaneEntry) : Bool :=
  entry.status = .active &&
    match leaseExpired fromIsoformat entry.lease now with
    | .ok expired => expired
    | .error _ => false

/-- What evaluating the lease of an active lane raises. -/
def leaseError (now : Text) (entry : LaneEntry) : Option PyError :=
  if entry.status = .active then
    match leaseExpired fromIsoformat entry.lease now with
    | .ok _ => none
    | .error error => some error
  else none

/-- The entry of a lane whose lease has run out. -/
def LaneEntry.stop (entry : LaneEntry) : LaneEntry :=
  { entry with status := .stopped }

/-- The entry that the expiry owes to a lane. -/
def expire (now : Text) (entry : LaneEntry) : LaneEntry :=
  if isDue fromIsoformat now entry then entry.stop else entry

/-- An expiry stopped exactly the due lanes, or failed without a trace. -/
inductive ExactOrClean (now : Text) (ledger : LaneLedger) :
    Except PyError (List LaneEntry) × LaneLedger → Prop
  | exact :
      ExactOrClean now ledger
        (.ok ((ledger.filter (isDue fromIsoformat now)).map
            LaneEntry.stop),
          ledger.map (expire fromIsoformat now))
  | clean {error : PyError} (isLaneError : error.kind = .laneError) :
      ExactOrClean now ledger (.error error, ledger)

/-- The leases of the active lanes can be evaluated up to an entry. -/
def readable (now : Text) (entry : LaneEntry) : Bool :=
  (leaseError fromIsoformat now entry).isNone

/-- The lane whose lease is the first that cannot be evaluated. -/
def firstUnreadable (now : Text) (ledger : LaneLedger) :
    Option LaneEntry :=
  ledger.find? fun entry => !readable fromIsoformat now entry

/--
The first lease that cannot be evaluated is one that `LaneError` reports, and
no lane ahead of it is due.
-/
def FailsCleanly (now : Text) (ledger : LaneLedger) : Prop :=
  ∀ entry ∈ firstUnreadable fromIsoformat now ledger,
    (∀ error ∈ leaseError fromIsoformat now entry,
      error.kind = .laneError) ∧
    ∀ earlier ∈ ledger.takeWhile (readable fromIsoformat now),
      isDue fromIsoformat now earlier = false

/-- The expiry stops the due lanes ahead of the first unreadable lease. -/
theorem expireLeases_ledger (now : Text) (ledger : LaneLedger) :
    (expireLeases fromIsoformat now ledger).2 =
      (ledger.takeWhile (readable fromIsoformat now)).map
          (expire fromIsoformat now) ++
        ledger.dropWhile (readable fromIsoformat now) := by
  induction ledger with
  | nil => rfl
  | cons entry rest induction =>
      rw [expireLeases, List.takeWhile_cons, List.dropWhile_cons]
      by_cases isActive : entry.status = .active
      · rw [if_neg (not_not.mpr isActive)]
        cases lease : leaseExpired fromIsoformat entry.lease now with
        | error error =>
            have unreadable : readable fromIsoformat now entry = false := by
              simp [readable, leaseError, isActive, lease]
            simp [unreadable]
        | ok expired =>
            have isReadable : readable fromIsoformat now entry = true := by
              simp [readable, leaseError, isActive, lease]
            have due : isDue fromIsoformat now entry = expired := by
              simp [isDue, isActive, lease]
            cases expired <;>
              simp [isReadable, expire, due, induction, LaneEntry.stop]
      · have isReadable : readable fromIsoformat now entry = true := by
          simp [readable, leaseError, isActive]
        have notDue : isDue fromIsoformat now entry = false := by
          simp [isDue, isActive]
        simp [isActive, isReadable, expire, notDue, induction]

/-- The expiry returns the lanes it stopped, or the first failure. -/
theorem expireLeases_result (now : Text) (ledger : LaneLedger) :
    (expireLeases fromIsoformat now ledger).1 =
      match (firstUnreadable fromIsoformat now ledger).bind
          (leaseError fromIsoformat now) with
      | some error => .error error
      | none => .ok ((ledger.filter (isDue fromIsoformat now)).map
          LaneEntry.stop) := by
  induction ledger with
  | nil => rfl
  | cons entry rest induction =>
      rw [expireLeases, firstUnreadable, List.find?_cons,
        ← firstUnreadable]
      by_cases isActive : entry.status = .active
      · rw [if_neg (not_not.mpr isActive)]
        cases lease : leaseExpired fromIsoformat entry.lease now with
        | error error =>
            have failed : leaseError fromIsoformat now entry =
                some error := by
              simp [leaseError, isActive, lease]
            simp [readable, failed]
        | ok expired =>
            have isReadable : readable fromIsoformat now entry = true := by
              simp [readable, leaseError, isActive, lease]
            have due : isDue fromIsoformat now entry = expired := by
              simp [isDue, isActive, lease]
            cases expired with
            | false => simp [isReadable, due, induction]
            | true =>
                cases failed : (firstUnreadable fromIsoformat now rest).bind
                    (leaseError fromIsoformat now) with
                | none =>
                    rw [failed] at induction
                    simp [isReadable, due, induction, failed, Except.map,
                      LaneEntry.stop]
                | some error =>
                    rw [failed] at induction
                    simp [isReadable, induction, failed, Except.map]
      · have isReadable : readable fromIsoformat now entry = true := by
          simp [readable, leaseError, isActive]
        have notDue : isDue fromIsoformat now entry = false := by
          simp [isDue, isActive]
        simp [isActive, isReadable, notDue, induction]

/-- A stopped lane is not the active lane it was. -/
theorem expire_eq_self_iff (now : Text) (entry : LaneEntry) :
    expire fromIsoformat now entry = entry ↔
      isDue fromIsoformat now entry = false := by
  rw [expire]
  split_ifs with due
  · have isActive : entry.status = .active := by
      rw [isDue, Bool.and_eq_true, decide_eq_true_eq] at due
      exact due.1
    constructor
    · intro same
      have status := congrArg LaneEntry.status same
      rw [isActive] at status
      cases status
    · intro notDue
      rw [due] at notDue
      cases notDue
  · exact ⟨fun _ => Bool.eq_false_iff.mpr due, fun _ => rfl⟩

/-- The ledger is left alone when nothing ahead of the failure is due. -/
theorem expireLeases_ledger_eq_iff (now : Text) (ledger : LaneLedger) :
    (expireLeases fromIsoformat now ledger).2 = ledger ↔
      ∀ earlier ∈ ledger.takeWhile (readable fromIsoformat now),
        isDue fromIsoformat now earlier = false := by
  have split := List.takeWhile_append_dropWhile
    (p := readable fromIsoformat now) (l := ledger)
  rw [expireLeases_ledger]
  constructor
  · intro same earlier isEarlier
    have heads := (List.append_inj (same.trans split.symm)
      (List.length_map _)).1
    rw [← expire_eq_self_iff]
    exact List.map_inj_left.mp (heads.trans (List.map_id _).symm) earlier
      isEarlier
  · intro notDue
    have heads : (ledger.takeWhile (readable fromIsoformat now)).map
        (expire fromIsoformat now) =
          ledger.takeWhile (readable fromIsoformat now) :=
      (List.map_congr_left fun earlier isEarlier =>
        (expire_eq_self_iff fromIsoformat now earlier).mpr
          (notDue earlier isEarlier)).trans (List.map_id _)
    rw [heads, split]

/-- A run that raises and has stopped a lane is neither. -/
theorem not_exactOrClean
    {fromIsoformat : Text → Option Moment} {now : Text}
    {ledger : LaneLedger}
    {outcome : Except PyError (List LaneEntry) × LaneLedger}
    (raises : outcome.1.toBool = false) (changed : outcome.2 ≠ ledger) :
    ¬ ExactOrClean fromIsoformat now ledger outcome := by
  intro holds
  cases holds with
  | exact => cases raises
  | clean _ => exact changed rfl

/--
The expiry is exact or clean exactly when the first lease that cannot be
evaluated, if there is one, fails cleanly.
-/
theorem expireLeases_exactOrClean_iff (now : Text) (ledger : LaneLedger) :
    ExactOrClean fromIsoformat now ledger
        (expireLeases fromIsoformat now ledger) ↔
      FailsCleanly fromIsoformat now ledger := by
  have result := expireLeases_result fromIsoformat now ledger
  have left := expireLeases_ledger fromIsoformat now ledger
  have kept := expireLeases_ledger_eq_iff fromIsoformat now ledger
  generalize expireLeases fromIsoformat now ledger = outcome at *
  obtain ⟨returned, updated⟩ := outcome
  cases first : firstUnreadable fromIsoformat now ledger with
  | none =>
      have all : ∀ entry ∈ ledger, readable fromIsoformat now entry = true :=
        by simpa [firstUnreadable] using first
      rw [first] at result
      rw [List.takeWhile_eq_self_iff.mpr all,
        List.dropWhile_eq_nil_iff.mpr all, List.append_nil] at left
      dsimp only [Option.bind_none] at result left
      rw [result, left]
      refine ⟨fun _ => ?_, fun _ => .exact⟩
      rw [FailsCleanly, first]
      exact nofun
  | some entry =>
      have unreadable : (leaseError fromIsoformat now entry).isSome := by
        have holds := List.find?_some first
        simpa [readable] using holds
      obtain ⟨error, failed⟩ := Option.isSome_iff_exists.mp unreadable
      rw [first, Option.bind_some, failed] at result
      dsimp only at result kept
      rw [result, FailsCleanly, first]
      constructor
      · intro outcome
        cases outcome with
        | clean isLaneError =>
            rintro _ ⟨⟩
            refine ⟨?_, kept.mp rfl⟩
            rw [failed]
            rintro _ ⟨⟩
            exact isLaneError
      · intro cleanly
        obtain ⟨isLaneError, notDue⟩ := cleanly entry rfl
        cases kept.mpr notDue
        exact .clean (isLaneError error failed)

end

/-- A lane that is due at once, and one whose timestamp is no timestamp. -/
def unreadableLedger : LaneLedger :=
  (acquireLane samplePolicy
    { sampleLane "b" "/w/b" "src/b" with now := text "soon" }
    (acquireLane samplePolicy
      { sampleLane "a" "/w/a" "src/a" with ttlSeconds := 0 } []).2).2

/-- The first lane is stopped although the expiry raises. -/
theorem unreadableLedger_half_expired :
    Reachable newYear unreadableLedger ∧
      ¬ ExactOrClean newYear (text "2026-01-01T00:00:00Z")
        unreadableLedger (expireLeases newYear
          (text "2026-01-01T00:00:00Z") unreadableLedger) := by
  refine ⟨.acquireLane _ _ (.acquireLane _ _ .empty), ?_⟩
  exact not_exactOrClean (by decide +kernel) (by decide +kernel)

end ScientificResourceLab.Autonomy
