import ScientificResourceLab.Autonomy.Paths
import ScientificResourceLab.Python.Printing
import ScientificResourceLab.Python.Sha256
import Mathlib.Data.List.DropRight

/-!
# The active-lane ledger

The operations of `srl.autonomy.lanes` on a ledger held in memory.  An
operation takes the ledger and returns its result with the ledger it leaves,
also when it raises: `expire_leases` may have stopped some lanes before it
meets a timestamp that it cannot read.

What a lane claims is its id, its worktree and its owned paths.  The claims
of the active lanes are the abstract state: acquiring appends a claim that is
apart from all others, a heartbeat changes no claim, releasing and expiring
take claims away.  `lane_isolation` is the invariant this gives for every
sequence of operations, down to the writes that the scope guard permits.

Reading a timestamp is the standard library's.  `fromIsoformat` stands for
`datetime.fromisoformat` and returns a wall clock with its offset from UTC;
nothing is assumed of it.
-/

namespace ScientificResourceLab.Autonomy

open Python Steps

/-! ## Entries -/

/-- `Executor`. -/
inductive Executor where
  | glm52
  | kimiForCoding
  | orchestrator
  deriving DecidableEq, Repr

/-- `LaneStatus`. -/
inductive LaneStatus where
  | active
  | parked
  | completed
  | stopped
  deriving DecidableEq, Repr

/-- `Lease`. -/
structure Lease where
  acquiredUtc : Text
  heartbeatUtc : Text
  ttlSeconds : Int
  deriving DecidableEq

/-- `LaneEntry`. -/
structure LaneEntry where
  laneId : Text
  wpId : Text
  executor : Executor
  worktreeFingerprint : Text
  branch : Text
  baseSha : Text
  ownedPaths : List Text
  lease : Lease
  status : LaneStatus
  deriving DecidableEq

/-- The lanes of a `LaneLedger`, in insertion order. -/
abbrev LaneLedger := List LaneEntry

/-- `_active`. -/
def active (ledger : LaneLedger) : List LaneEntry :=
  ledger.filter fun entry => entry.status = .active

/-! ## Acquiring -/

/-- The refusal of a lane cap. -/
def laneCapError (value : Json) : PyError :=
  ⟨.laneError, text "policy lane cap must be a positive int, got " ++
    reprJson value⟩

/-- `policy_lane_cap`. -/
def policyLaneCap (policy : List (Text × Json)) : Except PyError Nat :=
  match Json.lookup (text "max_parallel_implementation_lanes") policy with
  | none =>
      .error (raised .laneError
        ("policy missing lane-cap key " ++
          "'max_parallel_implementation_lanes'"))
  | some (.int value) =>
      if value ≤ 0 then .error (laneCapError (.int value))
      else .ok value.toNat
  | some value => .error (laneCapError value)

/-- `Executor(value)`. -/
def executorOf (value : Text) : Except PyError Executor :=
  if value = text "glm-5.2" then .ok .glm52
  else if value = text "kimi-for-coding" then .ok .kimiForCoding
  else if value = text "orchestrator" then .ok .orchestrator
  else
    .error ⟨.valueError, quoted value ++ text " is not a valid Executor"⟩

/-- `worktree_fingerprint` of a resolved absolute path. -/
def worktreeFingerprint (absolute : Text) : Except PyError Text :=
  match utf8Encode absolute with
  | none => .error (raised .unicodeEncodeError "surrogates not allowed")
  | some encoded => .ok (sha256 encoded)

/-- The inner loop of `_find_ownership_collision`. -/
def ownershipCollisionIn
    (candidate : List Text) (entry : LaneEntry) :
    List Text → Except PyError (Option PyError)
  | [] => .ok none
  | owned :: rest => do
      let parts ← normalizeOwned owned
      if pathsOverlap candidate parts then
        pure (some ⟨.pathOwnershipError,
          text "owned path " ++ quoted (pathText candidate) ++
            text " collides with lane " ++ quoted entry.laneId ++
            text " (owned " ++ quoted owned ++ text ")"⟩)
      else ownershipCollisionIn candidate entry rest

/-- `_find_ownership_collision`. -/
def findOwnershipCollision (candidate : List Text) :
    List LaneEntry → Except PyError (Option PyError)
  | [] => .ok none
  | entry :: rest => do
      match ← ownershipCollisionIn candidate entry entry.ownedPaths with
      | some collision => pure (some collision)
      | none => findOwnershipCollision candidate rest

/-- `_check_disjointness`, raising the collision it finds. -/
def checkDisjointness (lanes : List LaneEntry) :
    List Text → Except PyError Unit
  | [] => .ok ()
  | path :: rest => do
      let normalized ← normalizeOwned path
      match ← findOwnershipCollision normalized lanes with
      | some collision => throw collision
      | none => checkDisjointness lanes rest

/-- The arguments of `acquire_lane` beside the ledger and the policy. -/
structure LaneRequest where
  wpId : Text
  executor : Text
  worktreePath : Text
  branch : Text
  baseSha : Text
  ownedPaths : List Text
  laneId : Text
  now : Text
  ttlSeconds : Int

/-- The checks of `acquire_lane` and the entry it builds. -/
def acquisition
    (policy : List (Text × Json)) (request : LaneRequest)
    (ledger : LaneLedger) : Except PyError LaneEntry := do
  let cap ← policyLaneCap policy
  let executor ← executorOf request.executor
  let lanes := active ledger
  refuseIf (cap ≤ lanes.length)
    ⟨.laneError, text "lane cap reached: " ++ decimalText lanes.length ++
      text " active lanes, cap is " ++ decimalText cap ++
      text " (policy key 'max_parallel_implementation_lanes')"⟩
  checkDisjointness lanes request.ownedPaths
  let fingerprint ← worktreeFingerprint request.worktreePath
  refuseIf (∃ lane ∈ lanes, lane.worktreeFingerprint = fingerprint)
    ⟨.laneError,
      text "worktree fingerprint already in use by active lane " ++
        quoted (((lanes.find? (·.worktreeFingerprint = fingerprint)).map
          (·.laneId)).getD []) ++
        text " (one worktree, one lane)"⟩
  refuseIf (∃ lane ∈ lanes, lane.laneId = request.laneId)
    ⟨.laneError, text "active lane with id " ++ quoted request.laneId ++
      text " already exists"⟩
  pure
    { laneId := request.laneId
      wpId := request.wpId
      executor := executor
      worktreeFingerprint := fingerprint
      branch := request.branch
      baseSha := request.baseSha
      ownedPaths := request.ownedPaths
      lease :=
        { acquiredUtc := request.now
          heartbeatUtc := request.now
          ttlSeconds := request.ttlSeconds }
      status := .active }

/-- `acquire_lane`. -/
def acquireLane
    (policy : List (Text × Json)) (request : LaneRequest)
    (ledger : LaneLedger) : Except PyError LaneEntry × LaneLedger :=
  match acquisition policy request ledger with
  | .ok entry => (.ok entry, ledger ++ [entry])
  | .error error => (.error error, ledger)

/-! ## Heartbeats and releases -/

def replaceFirst
    (matching : LaneEntry → Bool) (update : LaneEntry → LaneEntry) :
    LaneLedger → Option (LaneEntry × LaneLedger)
  | [] => none
  | entry :: rest =>
      if matching entry then some (update entry, update entry :: rest)
      else
        (replaceFirst matching update rest).map fun result =>
          (result.1, entry :: result.2)

/-- `heartbeat`. -/
def heartbeat (laneId now : Text) (ledger : LaneLedger) :
    Except PyError LaneEntry × LaneLedger :=
  match replaceFirst
      (fun entry => entry.laneId = laneId ∧ entry.status = .active)
      (fun entry =>
        { entry with lease := { entry.lease with heartbeatUtc := now } })
      ledger with
  | some (entry, updated) => (.ok entry, updated)
  | none =>
      (.error ⟨.laneError, text "no active lane with id " ++
        quoted laneId ++ text " to heartbeat"⟩, ledger)

/-- `repr` of a status. -/
def LaneStatus.repr : LaneStatus → Text
  | .active => text "<LaneStatus.ACTIVE: 'active'>"
  | .parked => text "<LaneStatus.PARKED: 'parked'>"
  | .completed => text "<LaneStatus.COMPLETED: 'completed'>"
  | .stopped => text "<LaneStatus.STOPPED: 'stopped'>"

/-- `release_lane`. -/
def releaseLane (laneId : Text) (status : LaneStatus)
    (ledger : LaneLedger) : Except PyError LaneEntry × LaneLedger :=
  if status ≠ .parked ∧ status ≠ .completed then
    (.error ⟨.laneError, text "release status must be one of " ++
      text "['completed', 'parked'], got " ++ status.repr⟩, ledger)
  else
    match replaceFirst (fun entry => entry.laneId = laneId)
        (fun entry =>
          if entry.status = status then entry
          else { entry with status := status })
        ledger with
    | some (entry, updated) => (.ok entry, updated)
    | none =>
        (.error ⟨.laneError, text "no lane with id " ++ quoted laneId ++
          text " to release"⟩, ledger)

/-! ## Expiry -/

/--
A `datetime`: the microseconds of its wall clock from the first datetime, and
those of its offset from UTC, which are zero where none is written.
-/
structure Moment where
  wall : Int
  offset : Int
  deriving DecidableEq

/-- The instant that comparisons of aware datetimes look at. -/
def Moment.instant (moment : Moment) : Int :=
  moment.wall - moment.offset

section

variable (fromIsoformat : Text → Option Moment)

/-- `_parse_utc`. -/
def parseUtc (timestamp : Text) : Except PyError Moment :=
  match fromIsoformat
      (timestamp.rdropWhile (· = codePoint 'Z')) with
  | some moment => .ok moment
  | none =>
      .error ⟨.laneError, text "timestamp " ++ quoted timestamp ++
        text " is not a valid ISO-8601 datetime"⟩

/-- The microseconds between `datetime.min` and `datetime.max`. -/
def datetimeSpan : Int := 315537897599999999

/-- `_add_seconds`. -/
def addSeconds (timestamp : Text) (seconds : Int) :
    Except PyError Moment := do
  let start ← parseUtc fromIsoformat timestamp
  let wall := start.wall + seconds * 1000000
  if 0 ≤ wall ∧ wall ≤ datetimeSpan then pure { start with wall := wall }
  else throw (raised .overflowError "date value out of range")

/-- Whether a lease has run out at `now`. -/
def leaseExpired (lease : Lease) (now : Text) : Except PyError Bool := do
  let deadline ← addSeconds fromIsoformat lease.heartbeatUtc
    lease.ttlSeconds
  let current ← parseUtc fromIsoformat now
  pure (decide (deadline.instant ≤ current.instant))

/-- `expire_leases`; entries before a failure are already replaced. -/
def expireLeases (now : Text) :
    LaneLedger → Except PyError (List LaneEntry) × LaneLedger
  | [] => (.ok [], [])
  | entry :: rest =>
      if entry.status ≠ .active then
        let (result, updated) := expireLeases now rest
        (result, entry :: updated)
      else
        match leaseExpired fromIsoformat entry.lease now with
        | .error error => (.error error, entry :: rest)
        | .ok false =>
            let (result, updated) := expireLeases now rest
            (result, entry :: updated)
        | .ok true =>
            let stopped := { entry with status := .stopped }
            let (result, updated) := expireLeases now rest
            (result.map (stopped :: ·), stopped :: updated)

/-! ## Sequences of operations -/

/-- The operations on a ledger under one policy. -/
inductive LaneOperation where
  | acquireLane (request : LaneRequest)
  | heartbeat (laneId now : Text)
  | releaseLane (laneId : Text) (status : LaneStatus)
  | expireLeases (now : Text)

/-- The ledger that one operation leaves. -/
def LaneOperation.apply
    (policy : List (Text × Json)) (ledger : LaneLedger) :
    LaneOperation → LaneLedger
  | .acquireLane request =>
      (Autonomy.acquireLane policy request ledger).2
  | .heartbeat laneId now => (Autonomy.heartbeat laneId now ledger).2
  | .releaseLane laneId status =>
      (Autonomy.releaseLane laneId status ledger).2
  | .expireLeases now =>
      (Autonomy.expireLeases fromIsoformat now ledger).2

/-- The ledger that a sequence of operations leaves. -/
def ledgerAfter
    (policy : List (Text × Json)) (operations : List LaneOperation) :
    LaneLedger :=
  operations.foldl (LaneOperation.apply fromIsoformat policy) []

end

/-! ## Claims -/

/-- What an active lane holds against the others. -/
structure Claim where
  laneId : Text
  worktreeFingerprint : Text
  ownedPaths : List Text
  deriving DecidableEq

def LaneEntry.claim (entry : LaneEntry) : Claim where
  laneId := entry.laneId
  worktreeFingerprint := entry.worktreeFingerprint
  ownedPaths := entry.ownedPaths

/-- The claims of the active lanes. -/
def claims (ledger : LaneLedger) : List Claim :=
  (active ledger).map LaneEntry.claim

/-- Two claims that exclude each other in nothing. -/
structure Apart (left right : Claim) : Prop where
  laneId : left.laneId ≠ right.laneId
  worktree : left.worktreeFingerprint ≠ right.worktreeFingerprint
  paths : ∀ first ∈ left.ownedPaths, ∀ second ∈ right.ownedPaths,
    ∀ parts others,
      normalizeOwned first = .ok parts →
      normalizeOwned second = .ok others →
        pathsOverlap parts others = false

/-- At most `cap` claims, any two of them apart. -/
structure Isolated (cap : Nat) (held : List Claim) : Prop where
  bounded : held.length ≤ cap
  apart : held.Pairwise Apart

theorem Isolated.sublist
    {cap : Nat} {held kept : List Claim}
    (isolated : Isolated cap held) (fewer : kept.Sublist held) :
    Isolated cap kept where
  bounded := le_trans fewer.length_le isolated.bounded
  apart := isolated.apart.sublist fewer

@[simp]
theorem claims_cons_active
    {entry : LaneEntry} (isActive : entry.status = .active)
    (rest : LaneLedger) :
    claims (entry :: rest) = entry.claim :: claims rest := by
  simp [claims, active, isActive]

@[simp]
theorem claims_cons_inactive
    {entry : LaneEntry} (inactive : entry.status ≠ .active)
    (rest : LaneLedger) :
    claims (entry :: rest) = claims rest := by
  simp [claims, active, inactive]

theorem claims_append (first second : LaneLedger) :
    claims (first ++ second) = claims first ++ claims second := by
  simp [claims, active]

/-! ## Operations that add no claim -/

/-- A replacement that activates nothing adds no claim. -/
theorem claims_replaceFirst
    {matching : LaneEntry → Bool} {update : LaneEntry → LaneEntry}
    (sameClaim : ∀ entry, (update entry).claim = entry.claim)
    (calm : ∀ entry, matching entry = true →
      (update entry).status = .active → entry.status = .active)
    {ledger updated : LaneLedger} {entry : LaneEntry}
    (replaced : replaceFirst matching update ledger =
      some (entry, updated)) :
    (claims updated).Sublist (claims ledger) := by
  induction ledger generalizing updated with
  | nil => cases replaced
  | cons first rest induction =>
      rw [replaceFirst] at replaced
      split_ifs at replaced with isMatch
      · cases replaced
        by_cases stays : (update first).status = .active
        · rw [claims_cons_active stays,
            claims_cons_active (calm first isMatch stays),
            sameClaim first]
        · rw [claims_cons_inactive stays]
          by_cases wasActive : first.status = .active
          · rw [claims_cons_active wasActive]
            exact List.sublist_cons_self _ _
          · rw [claims_cons_inactive wasActive]
      · obtain ⟨⟨found, others⟩, inRest, same⟩ :=
          Option.map_eq_some_iff.mp replaced
        cases same
        have fewer := induction inRest
        by_cases wasActive : first.status = .active
        · rw [claims_cons_active wasActive, claims_cons_active wasActive]
          exact fewer.cons_cons _
        · rw [claims_cons_inactive wasActive,
            claims_cons_inactive wasActive]
          exact fewer

theorem claims_heartbeat (laneId now : Text) (ledger : LaneLedger) :
    (claims (heartbeat laneId now ledger).2).Sublist (claims ledger) := by
  rw [heartbeat]
  split
  · rename_i entry updated replaced
    refine claims_replaceFirst (fun _ => ?_) (fun _ _ stays => ?_)
      replaced
    · rfl
    · exact stays
  · exact List.Sublist.refl _

theorem claims_releaseLane
    (laneId : Text) (status : LaneStatus) (ledger : LaneLedger) :
    (claims (releaseLane laneId status ledger).2).Sublist
      (claims ledger) := by
  rw [releaseLane]
  split_ifs with refused
  · exact List.Sublist.refl _
  · have released : status ≠ .active := by
      rintro rfl
      exact refused ⟨by decide, by decide⟩
    split
    · rename_i entry updated replaced
      refine claims_replaceFirst (fun entry => ?_)
        (fun entry _ stays => ?_) replaced
      · split_ifs <;> rfl
      · split_ifs at stays with same
        · exact stays
        · exact (released stays).elim
    · exact List.Sublist.refl _

theorem claims_expireLeases
    (fromIsoformat : Text → Option Moment) (now : Text)
    (ledger : LaneLedger) :
    (claims (expireLeases fromIsoformat now ledger).2).Sublist
      (claims ledger) := by
  induction ledger with
  | nil => exact List.Sublist.refl _
  | cons entry rest induction =>
      rw [expireLeases]
      by_cases isActive : entry.status = .active
      · rw [if_neg (not_not.mpr isActive)]
        cases leaseExpired fromIsoformat entry.lease now with
        | error error => exact List.Sublist.refl _
        | ok expired =>
            rw [claims_cons_active isActive]
            cases expired with
            | false =>
                rw [claims_cons_active isActive]
                exact induction.cons_cons _
            | true =>
                rw [claims_cons_inactive (by simp)]
                exact induction.cons _
      · rw [if_pos isActive, claims_cons_inactive isActive,
          claims_cons_inactive isActive]
        exact induction

/-! ## Acquiring adds a claim apart from the others -/

theorem ownershipCollisionIn_none
    {candidate : List Text} {entry : LaneEntry} {ownedPaths : List Text}
    (clear : ownershipCollisionIn candidate entry ownedPaths = .ok none) :
    ∀ owned ∈ ownedPaths, ∀ parts, normalizeOwned owned = .ok parts →
      pathsOverlap candidate parts = false := by
  induction ownedPaths with
  | nil => simp
  | cons path rest induction =>
      simp only [ownershipCollisionIn, bind_eq_ok_iff] at clear
      obtain ⟨found, normalized, checked⟩ := clear
      split_ifs at checked with overlap
      · simp at checked
      · intro owned isOwned parts ownedParts
        rcases List.mem_cons.mp isOwned with rfl | inRest
        · obtain rfl := Except.ok.inj (normalized.symm.trans ownedParts)
          exact Bool.eq_false_iff.mpr overlap
        · exact induction checked owned inRest parts ownedParts

theorem findOwnershipCollision_none
    {candidate : List Text} {lanes : List LaneEntry}
    (clear : findOwnershipCollision candidate lanes = .ok none) :
    ∀ entry ∈ lanes, ∀ owned ∈ entry.ownedPaths, ∀ parts,
      normalizeOwned owned = .ok parts →
        pathsOverlap candidate parts = false := by
  induction lanes with
  | nil => simp
  | cons lane rest induction =>
      simp only [findOwnershipCollision, bind_eq_ok_iff] at clear
      obtain ⟨collision, found, checked⟩ := clear
      cases collision with
      | some collision => simp at checked
      | none =>
          intro entry isLane
          rcases List.mem_cons.mp isLane with rfl | inRest
          · exact ownershipCollisionIn_none found
          · exact induction checked entry inRest

theorem checkDisjointness_ok
    {lanes : List LaneEntry} {ownedPaths : List Text}
    (clear : checkDisjointness lanes ownedPaths = .ok ()) :
    ∀ path ∈ ownedPaths, ∀ normalized,
      normalizeOwned path = .ok normalized →
      ∀ entry ∈ lanes, ∀ owned ∈ entry.ownedPaths, ∀ parts,
        normalizeOwned owned = .ok parts →
          pathsOverlap normalized parts = false := by
  induction ownedPaths with
  | nil => simp
  | cons first rest induction =>
      simp only [checkDisjointness, bind_eq_ok_iff] at clear
      obtain ⟨firstParts, normal, collision, found, checked⟩ := clear
      cases collision with
      | some collision => simp at checked
      | none =>
          intro path isPath normalized pathParts
          rcases List.mem_cons.mp isPath with rfl | inRest
          · obtain rfl := Except.ok.inj (normal.symm.trans pathParts)
            exact findOwnershipCollision_none found
          · exact induction checked path inRest normalized pathParts

theorem pathsOverlap_comm (left right : List Text) :
    pathsOverlap left right = pathsOverlap right left := by
  rw [Bool.eq_iff_iff, pathsOverlap_iff, pathsOverlap_iff, or_comm]

/-- The entry of a successful acquisition passed every check. -/
theorem acquisition_ok
    {policy : List (Text × Json)} {request : LaneRequest}
    {ledger : LaneLedger} {entry : LaneEntry} {cap : Nat}
    (declared : policyLaneCap policy = .ok cap)
    (acquired : acquisition policy request ledger = .ok entry) :
    (claims ledger).length < cap ∧ entry.status = .active ∧
      ∀ held ∈ claims ledger, Apart held entry.claim := by
  simp only [acquisition, declared, bind_eq_ok_iff, Except.ok.injEq,
    exists_eq_left', pure_eq_ok_iff, refuseIf_eq_ok_iff] at acquired
  obtain ⟨executor, _, _, room, _, disjoint, fingerprint, _, _, unused, _,
    fresh, rfl⟩ := acquired
  refine ⟨by simpa [claims] using room, rfl, ?_⟩
  intro held isHeld
  obtain ⟨lane, isLane, rfl⟩ := List.mem_map.mp isHeld
  exact
    { laneId := fun same => fresh ⟨lane, isLane, same⟩
      worktree := fun same => unused ⟨lane, isLane, same⟩
      paths := by
        intro first isFirst second isSecond parts others firstParts
          secondParts
        rw [pathsOverlap_comm]
        exact checkDisjointness_ok disjoint second isSecond others
          secondParts lane isLane first isFirst parts firstParts }

/-! ## Isolation -/

theorem isolated_apply
    (fromIsoformat : Text → Option Moment)
    {policy : List (Text × Json)} {cap : Nat}
    (declared : policyLaneCap policy = .ok cap)
    {ledger : LaneLedger} (isolated : Isolated cap (claims ledger))
    (operation : LaneOperation) :
    Isolated cap
      (claims (operation.apply fromIsoformat policy ledger)) := by
  cases operation with
  | acquireLane request =>
      simp only [LaneOperation.apply, acquireLane]
      cases acquired : acquisition policy request ledger with
      | error error => exact isolated
      | ok entry =>
          obtain ⟨room, isActive, apart⟩ := acquisition_ok declared acquired
          simp only [claims_append, claims_cons_active isActive]
          constructor
          · rw [List.length_append]
            exact room
          · rw [List.pairwise_append]
            refine ⟨isolated.apart, List.pairwise_singleton _ _, ?_⟩
            intro held isHeld new isNew
            rw [List.mem_singleton.mp isNew]
            exact apart held isHeld
  | heartbeat laneId now =>
      exact isolated.sublist (claims_heartbeat laneId now ledger)
  | releaseLane laneId status =>
      exact isolated.sublist (claims_releaseLane laneId status ledger)
  | expireLeases now =>
      exact isolated.sublist
        (claims_expireLeases fromIsoformat now ledger)

theorem isolated_ledgerAfter
    (fromIsoformat : Text → Option Moment)
    {policy : List (Text × Json)} {cap : Nat}
    (declared : policyLaneCap policy = .ok cap)
    (operations : List LaneOperation) :
    Isolated cap
      (claims (ledgerAfter fromIsoformat policy operations)) := by
  have every (ledger : LaneLedger)
      (isolated : Isolated cap (claims ledger)) :
      Isolated cap (claims (operations.foldl
        (LaneOperation.apply fromIsoformat policy) ledger)) := by
    induction operations generalizing ledger with
    | nil => exact isolated
    | cons operation operations induction =>
        exact induction _
          (isolated_apply fromIsoformat declared isolated operation)
  exact every [] ⟨Nat.zero_le cap, List.Pairwise.nil⟩

/-- The scope guard permits a write of the lane to the path. -/
def Permits (entry : LaneEntry) (path : Text) : Prop :=
  checkWrite path entry.ownedPaths = .ok ()

/--
After any sequence of operations under a policy with a lane cap, at most that
many lanes are active, and any two of them differ in their ids and worktrees
and are never both permitted to write to a path.
-/
theorem lane_isolation
    (fromIsoformat : Text → Option Moment)
    (policy : List (Text × Json)) (cap : Nat)
    (declared : policyLaneCap policy = .ok cap)
    (operations : List LaneOperation) :
    (active (ledgerAfter fromIsoformat policy operations)).length ≤ cap ∧
      (active (ledgerAfter fromIsoformat policy operations)).Pairwise
        fun left right =>
          left.laneId ≠ right.laneId ∧
            left.worktreeFingerprint ≠ right.worktreeFingerprint ∧
            ∀ path, ¬ (Permits left path ∧ Permits right path) := by
  have isolated := isolated_ledgerAfter fromIsoformat declared operations
  constructor
  · simpa [claims] using isolated.bounded
  · refine (List.pairwise_map.mp isolated.apart).imp ?_
    intro left right apart
    exact ⟨apart.laneId, apart.worktree, not_both_permitted apart.paths⟩

/-- A policy with four lanes. -/
def samplePolicy : List (Text × Json) :=
  [(text "max_parallel_implementation_lanes", .int 4)]

/-- A request for one worktree and one owned path. -/
def sampleLane (laneId worktree owned : String) : LaneRequest where
  wpId := text "WP"
  executor := text "orchestrator"
  worktreePath := text worktree
  branch := text "main"
  baseSha := text "0"
  ownedPaths := [text owned]
  laneId := text laneId
  now := text "2026-01-01T00:00:00Z"
  ttlSeconds := 900

/-- Two lanes that were both acquired are isolated. -/
theorem lane_isolation_two_lanes :
    (active (ledgerAfter (fun _ => none) samplePolicy
        [.acquireLane (sampleLane "a" "/w/a" "src/a"),
          .acquireLane (sampleLane "b" "/w/b" "src/b")])).length = 2 ∧
      (active (ledgerAfter (fun _ => none) samplePolicy
        [.acquireLane (sampleLane "a" "/w/a" "src/a"),
          .acquireLane (sampleLane "b" "/w/b" "src/b")])).Pairwise
        fun left right =>
          left.laneId ≠ right.laneId ∧
            left.worktreeFingerprint ≠ right.worktreeFingerprint ∧
            ∀ path, ¬ (Permits left path ∧ Permits right path) :=
  ⟨by decide +kernel,
    (lane_isolation (fun _ => none) samplePolicy 4 (by rfl)
      [.acquireLane (sampleLane "a" "/w/a" "src/a"),
        .acquireLane (sampleLane "b" "/w/b" "src/b")]).2⟩

end ScientificResourceLab.Autonomy
