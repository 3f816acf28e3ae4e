import ScientificResourceLab.Autonomy.Leases
import ScientificResourceLab.Contracts.AsciiJson
import ScientificResourceLab.Python.Printing
import ScientificResourceLab.Python.StrictSha256
import ScientificResourceLab.Python.Strings
import ScientificResourceLab.Steps.StableSort
import Mathlib.Algebra.Order.BigOperators.Group.List

/-!
# The ledger file

How `srl.autonomy.lanes` writes a ledger and reads it back.  The encoding
sorts the lanes by their id alone, and the sort is stable, so it keeps the
order of the lanes with one id.  A string is written with `\u` escapes and
read back with its surrogate pairs joined.
-/

namespace ScientificResourceLab.Autonomy

open Python Contracts Steps

/-! ## Writing -/

def Executor.value : Executor → Text
  | .glm52 => text "glm-5.2"
  | .kimiForCoding => text "kimi-for-coding"
  | .orchestrator => text "orchestrator"

def LaneStatus.value : LaneStatus → Text
  | .active => text "active"
  | .parked => text "parked"
  | .completed => text "completed"
  | .stopped => text "stopped"

/-- `asdict` of a lease. -/
def Lease.toDict (lease : Lease) : Json :=
  .obj [(text "acquired_utc", .str lease.acquiredUtc),
    (text "heartbeat_utc", .str lease.heartbeatUtc),
    (text "ttl_seconds", .int lease.ttlSeconds)]

/-- `_lane_to_dict`. -/
def laneToDict (entry : LaneEntry) : Json :=
  .obj [(text "lane_id", .str entry.laneId),
    (text "wp_id", .str entry.wpId),
    (text "executor", .str entry.executor.value),
    (text "worktree_fingerprint", .str entry.worktreeFingerprint),
    (text "branch", .str entry.branch),
    (text "base_sha", .str entry.baseSha),
    (text "owned_paths", .arr (entry.ownedPaths.map .str)),
    (text "lease", entry.lease.toDict),
    (text "status", .str entry.status.value)]

/-- The payload of `_canonical_bytes`. -/
def ledgerPayload (ledger : LaneLedger) : Json :=
  .obj [(text "schema_version", .str (text "ActiveLaneLedger/v1")),
    (text "lanes",
      .arr ((sortBy LaneEntry.laneId ledger).map laneToDict))]

/-- `_canonical_bytes`. -/
def canonicalBytes (ledger : LaneLedger) : Except PyError Bytes :=
  match asciiText (ledgerPayload ledger) with
  | none => .error (raised .valueError
      "Exceeds the limit (4300 digits) for integer string conversion")
  | some written =>
      match utf8Encode (written ++ text "\n") with
      | none => .error (raised .unicodeEncodeError "surrogates not allowed")
      | some encoded => .ok encoded

/-! ## Reading -/

/-- A `LaneEntry` as it is loaded: the types of its texts are not checked. -/
structure LoadedLane where
  laneId : Json
  wpId : Json
  executor : Executor
  worktreeFingerprint : Json
  branch : Json
  baseSha : Json
  ownedPaths : List Json
  acquiredUtc : Json
  heartbeatUtc : Json
  ttlSeconds : Int
  status : LaneStatus

def LaneEntry.loaded (entry : LaneEntry) : LoadedLane where
  laneId := .str entry.laneId
  wpId := .str entry.wpId
  executor := entry.executor
  worktreeFingerprint := .str entry.worktreeFingerprint
  branch := .str entry.branch
  baseSha := .str entry.baseSha
  ownedPaths := entry.ownedPaths.map .str
  acquiredUtc := .str entry.lease.acquiredUtc
  heartbeatUtc := .str entry.lease.heartbeatUtc
  ttlSeconds := entry.lease.ttlSeconds
  status := entry.status

/-- `Executor(value)` of a decoded value. -/
def executorFrom : Json → Option Executor
  | .str value => (executorOf value).toOption
  | _ => none

/-- `LaneStatus(value)` of a decoded value. -/
def statusFrom : Json → Option LaneStatus
  | .str value =>
      if value = text "active" then some .active
      else if value = text "parked" then some .parked
      else if value = text "completed" then some .completed
      else if value = text "stopped" then some .stopped
      else none
  | _ => none

/-- The error for a value that is no member of an enumeration. -/
def unknownMember (kind : String) (members : List (Text × Json))
    (value : Json) : PyError :=
  ⟨.laneError, text "lane " ++
    reprJson ((Json.lookup (text "lane_id") members).getD (.str (text "?"))) ++
    text (" has unknown " ++ kind ++ " ") ++ reprJson value⟩

/-- `int(value)` of a decoded value. -/
def intFrom : Json → Except PyError Int
  | .int value => .ok value
  | .bool value => .ok (if value then 1 else 0)
  | .float value =>
      if value.isFinite then
        let whole := value.toRatio.1 / value.toRatio.2
        .ok (if value.isNegative then -whole else whole)
      else if value.fraction = 0 then
        .error (raised .overflowError
          "cannot convert float infinity to integer")
      else .error (raised .valueError "cannot convert float NaN to integer")
  | .str value =>
      match intOf value with
      | some value => .ok value
      | none => .error ⟨.valueError,
          text "invalid literal for int() with base 10: " ++ quoted value⟩
  | other => .error ⟨.typeError,
      text "int() argument must be a string, a bytes-like object or a " ++
        text "real number, not '" ++ typeName other ++ text "'"⟩

/-- `tuple(value)` of a decoded value. -/
def tupleFrom : Json → Except PyError (List Json)
  | .arr items => .ok items
  | .str points => .ok (points.map fun point => .str [point])
  | .obj members => .ok (members.map fun member => .str member.1)
  | other => .error ⟨.typeError,
      text "'" ++ typeName other ++ text "' object is not iterable"⟩

/-- `_lane_from_dict`. -/
def laneFromDict (data : Json) : Except PyError LoadedLane := do
  let members ← subscripted data
  let executorValue ← getItem "executor" members
  let executor ← (executorFrom executorValue).elim
    (.error (unknownMember "executor" members executorValue)) .ok
  let statusValue ← getItem "status" members
  let status ← (statusFrom statusValue).elim
    (.error (unknownMember "status" members statusValue)) .ok
  let lease ← getItem "lease" members
  let lease ← subscripted lease
  let acquiredUtc ← getItem "acquired_utc" lease
  let heartbeatUtc ← getItem "heartbeat_utc" lease
  let ttlSeconds ←
    intFrom ((Json.lookup (text "ttl_seconds") lease).getD (.int 900))
  let laneId ← getItem "lane_id" members
  let wpId ← getItem "wp_id" members
  let worktreeFingerprint ← getItem "worktree_fingerprint" members
  let branch ← getItem "branch" members
  let baseSha ← getItem "base_sha" members
  let ownedPaths ← getItem "owned_paths" members
  let ownedPaths ← tupleFrom ownedPaths
  pure
    { laneId := laneId
      wpId := wpId
      executor := executor
      worktreeFingerprint := worktreeFingerprint
      branch := branch
      baseSha := baseSha
      ownedPaths := ownedPaths
      acquiredUtc := acquiredUtc
      heartbeatUtc := heartbeatUtc
      ttlSeconds := ttlSeconds
      status := status }

/-- A `LaneError` about the ledger file. -/
def ledgerError (path : Text) (before after : String) : PyError :=
  ⟨.laneError, text before ++ path ++ text after⟩

/-- The version is `LEDGER_SCHEMA_VERSION`. -/
def isLedgerVersion : Json → Bool
  | .str value => value = text "ActiveLaneLedger/v1"
  | _ => false

/-- The lanes of a decoded ledger file. -/
def lanesFrom (path : Text) (parsed : Json) :
    Except PyError (List LoadedLane) := do
  let members ← match parsed with
    | .obj members => pure members
    | other => throw ⟨.laneError, text "lane ledger " ++ path ++
        text " must be a JSON object, got " ++ typeName other⟩
  let version := getOrNone (text "schema_version") members
  refuseIf (isLedgerVersion version = false)
    ⟨.laneError, text "lane ledger has schema_version " ++
      reprJson version ++ text ", expected 'ActiveLaneLedger/v1'"⟩
  let rawLanes ←
    match (Json.lookup (text "lanes") members).getD (.arr []) with
    | .arr items => pure items
    | _ => throw (raised .laneError "lane ledger 'lanes' must be an array")
  rawLanes.mapM laneFromDict

/-- `load_ledger`, where no file is stored at the path or one is. -/
def loadLedger (path : Text) (stored : Option Bytes) :
    Except PyError (List LoadedLane) :=
  match stored with
  | none => .error (ledgerError path "lane ledger file not found: " "")
  | some raw =>
      match utf8Decode raw with
      | none => .error (raised .unicodeDecodeError
          "'utf-8' codec can't decode bytes")
      | some document =>
          match parseText true document with
          | .ok parsed => lanesFrom path parsed
          | .error .value => .error (raised .valueError
              "Exceeds the limit (4300 digits) for integer string conversion")
          | .error _ => .error
              (ledgerError path "lane ledger " " is not valid JSON")

/-! ## What is read back -/

/-- The entry with the surrogate pairs of every text joined. -/
def LaneEntry.reread (entry : LaneEntry) : LaneEntry where
  laneId := joinPairs entry.laneId
  wpId := joinPairs entry.wpId
  executor := entry.executor
  worktreeFingerprint := joinPairs entry.worktreeFingerprint
  branch := joinPairs entry.branch
  baseSha := joinPairs entry.baseSha
  ownedPaths := entry.ownedPaths.map joinPairs
  lease :=
    { acquiredUtc := joinPairs entry.lease.acquiredUtc
      heartbeatUtc := joinPairs entry.lease.heartbeatUtc
      ttlSeconds := entry.lease.ttlSeconds }
  status := entry.status

theorem rereadItems_str (values : List Text) :
    rereadItems joinPairs (values.map .str) =
      (values.map joinPairs).map .str := by
  rw [rereadItems_eq_map, List.map_map, List.map_map]
  rfl

/-- The value of an executor has no surrogates. -/
theorem joinPairs_executor (executor : Executor) :
    joinPairs executor.value = executor.value := by
  cases executor <;> decide

/-- The value of a status has no surrogates. -/
theorem joinPairs_status (status : LaneStatus) :
    joinPairs status.value = status.value := by
  cases status <;> decide

/-- The members of the dict of an entry, in the order of their keys. -/
def storedLane (entry : LaneEntry) : List (Text × Json) :=
  [(text "base_sha", .str entry.baseSha),
    (text "branch", .str entry.branch),
    (text "executor", .str entry.executor.value),
    (text "lane_id", .str entry.laneId),
    (text "lease", entry.lease.toDict),
    (text "owned_paths", .arr (entry.ownedPaths.map .str)),
    (text "status", .str entry.status.value),
    (text "worktree_fingerprint", .str entry.worktreeFingerprint),
    (text "wp_id", .str entry.wpId)]

/-- The items of an array of strings are sorted. -/
theorem sortedItems_str (values : List Text) :
    sortedItems (values.map .str) = values.map .str := by
  rw [sortedItems_eq_map, List.map_map]
  rfl

theorem sorted_laneToDict (entry : LaneEntry) :
    (laneToDict entry).sorted = .obj (storedLane entry) := by
  rw [storedLane, ← sortedItems_str]
  rfl

/-- Every text of the dict of an entry is read back with its pairs joined. -/
theorem reread_laneToDict (entry : LaneEntry) :
    (laneToDict entry).sorted.reread joinPairs =
      .obj (storedLane entry.reread) := by
  rw [sorted_laneToDict, Json.reread, storedLane]
  simp only [rereadMembers, Json.reread, rereadItems_str, Lease.toDict,
    joinPairs_executor, joinPairs_status]
  rfl

theorem executorFrom_value (executor : Executor) :
    executorFrom (.str executor.value) = some executor := by
  cases executor <;> decide

theorem statusFrom_value (status : LaneStatus) :
    statusFrom (.str status.value) = some status := by
  cases status <;> decide

/-- The dict of an entry is made an entry again. -/
theorem laneFromDict_storedLane (entry : LaneEntry) :
    laneFromDict (.obj (storedLane entry)) = .ok entry.loaded := by
  simp only [laneFromDict, bind_eq_ok_iff, pure_eq_ok_iff]
  refine ⟨storedLane entry, rfl, .str entry.executor.value, rfl,
    entry.executor, ?executor, .str entry.status.value, rfl, entry.status,
    ?status, entry.lease.toDict, rfl, _, rfl, _, rfl, _, rfl, _, rfl, _,
    rfl, _, rfl, _, rfl, _, rfl, _, rfl, _, rfl, _, rfl, rfl⟩
  case executor => rw [executorFrom_value]; rfl
  case status => rw [statusFrom_value]; rfl

/-- Keys are distinct at every level of the payload. -/
theorem distinct_ledgerPayload (ledger : LaneLedger) :
    (ledgerPayload ledger).Distinct := by
  have lanes : ∀ item ∈ (sortBy LaneEntry.laneId ledger).map laneToDict,
      item.Distinct := by
    intro item isItem
    obtain ⟨entry, _, rfl⟩ := List.mem_map.mp isItem
    have paths : DistinctItems (entry.ownedPaths.map .str) := by
      rw [distinctItems_iff]
      intro item isItem
      obtain ⟨_, _, rfl⟩ := List.mem_map.mp isItem
      trivial
    have lease : entry.lease.toDict.Distinct := by
      refine ⟨⟨trivial, trivial, trivial, trivial⟩, ?_⟩
      simp only [List.map_cons, List.map_nil]
      decide
    refine ⟨⟨trivial, trivial, trivial, trivial, trivial, trivial, paths,
      lease, trivial, trivial⟩, ?_⟩
    simp only [List.map_cons, List.map_nil]
    decide
  refine ⟨⟨trivial, distinctItems_iff.mpr lanes, trivial⟩, ?_⟩
  simp only [List.map_cons, List.map_nil]
  decide

/-- The payload that is read back for a ledger. -/
def storedLedger (lanes : List LaneEntry) : Json :=
  .obj [(text "lanes", .arr (lanes.map fun entry => .obj (storedLane entry))),
    (text "schema_version", .str (text "ActiveLaneLedger/v1"))]

/-- The payload is read back with the pairs of every text joined. -/
theorem reread_ledgerPayload (ledger : LaneLedger) :
    (ledgerPayload ledger).sorted.reread joinPairs =
      storedLedger ((sortBy LaneEntry.laneId ledger).map
        LaneEntry.reread) := by
  have sorted : (ledgerPayload ledger).sorted =
      .obj [(text "lanes", .arr (sortedItems
          ((sortBy LaneEntry.laneId ledger).map laneToDict))),
        (text "schema_version", .str (text "ActiveLaneLedger/v1"))] :=
    rfl
  have lanes : rereadItems joinPairs (sortedItems
        ((sortBy LaneEntry.laneId ledger).map laneToDict)) =
      ((sortBy LaneEntry.laneId ledger).map LaneEntry.reread).map
        fun entry => .obj (storedLane entry) := by
    rw [rereadItems_eq_map, sortedItems_eq_map, List.map_map, List.map_map,
      List.map_map]
    exact List.map_congr_left fun entry _ => reread_laneToDict entry
  rw [sorted, storedLedger, ← lanes]
  rfl

/-- The lanes of a stored ledger are made entries again. -/
theorem lanesFrom_storedLedger (path : Text) (lanes : List LaneEntry) :
    lanesFrom path (storedLedger lanes) = .ok (lanes.map LaneEntry.loaded) := by
  have each : (lanes.map fun entry => Json.obj (storedLane entry)).mapM
      laneFromDict = .ok (lanes.map LaneEntry.loaded) := by
    induction lanes with
    | nil => rfl
    | cons entry rest induction =>
        rw [List.map_cons, List.mapM_cons, laneFromDict_storedLane,
          induction]
        rfl
  rw [← each]
  rfl

/-- What is loaded of a saved ledger: its lanes by their id, with the pairs
of every text joined. -/
theorem loadLedger_canonicalBytes
    {ledger : LaneLedger} {data : Bytes}
    (saved : canonicalBytes ledger = .ok data) (path : Text) :
    loadLedger path (some data) =
      .ok (((sortBy LaneEntry.laneId ledger).map LaneEntry.reread).map
        LaneEntry.loaded) := by
  rw [canonicalBytes] at saved
  cases dumped : asciiText (ledgerPayload ledger) with
  | none =>
      rw [dumped] at saved
      cases saved
  | some written =>
      obtain ⟨encoded, encodes, decodes, parsed⟩ :=
        asciiText_readBack (distinct_ledgerPayload ledger) dumped
      rw [dumped] at saved
      simp only [encodes] at saved
      obtain rfl := Except.ok.inj saved
      rw [reread_ledgerPayload] at parsed
      rw [loadLedger]
      simp only [decodes, parsed]
      exact lanesFrom_storedLedger path _

/-! ## Texts without pairs -/

def LaneEntry.texts (entry : LaneEntry) : List Text :=
  [entry.laneId, entry.wpId, entry.worktreeFingerprint, entry.branch,
    entry.baseSha, entry.lease.acquiredUtc, entry.lease.heartbeatUtc] ++
    entry.ownedPaths

/-- No text of the entry has a surrogate pair in two code points. -/
def LaneEntry.Unpaired (entry : LaneEntry) : Prop :=
  ∀ value ∈ entry.texts, Python.Unpaired value

instance (entry : LaneEntry) : Decidable entry.Unpaired :=
  inferInstanceAs (Decidable (∀ value ∈ entry.texts, _))

@[simp]
theorem texts_reread (entry : LaneEntry) :
    entry.reread.texts = entry.texts.map joinPairs := by
  simp [LaneEntry.texts, LaneEntry.reread]

/-- The entries without pairs are those that are read back as they are. -/
theorem reread_eq_self_iff (entry : LaneEntry) :
    entry.reread = entry ↔ entry.Unpaired := by
  constructor
  · intro same value isText
    have texts : entry.texts.map joinPairs = entry.texts.map id := by
      rw [← texts_reread, same, List.map_id]
    exact (joinPairs_eq_self_iff value).mp
      (List.map_inj_left.mp texts value isText)
  · intro unpaired
    have keeps : ∀ value ∈ entry.texts, joinPairs value = value :=
      fun value isText => (joinPairs_eq_self_iff value).mpr
        (unpaired value isText)
    have paths : entry.ownedPaths.map joinPairs = entry.ownedPaths := by
      rw [List.map_congr_left (fun value isPath => keeps value
        (List.mem_append_right _ isPath)), List.map_id']
    obtain ⟨laneId, wpId, executor, fingerprint, branch, baseSha,
      ownedPaths, ⟨acquiredUtc, heartbeatUtc, ttlSeconds⟩, status⟩ := entry
    simp only [LaneEntry.texts, List.cons_append, List.nil_append,
      List.forall_mem_cons] at keeps
    obtain ⟨laneId, wpId, fingerprint, branch, baseSha, acquired, heartbeat,
      _⟩ := keeps
    simp only [LaneEntry.reread, laneId, wpId, fingerprint, branch, baseSha,
      acquired, heartbeat, paths]

/-- Joining pairs shortens the texts together when one of them has one. -/
theorem sum_length_lt
    {values : List Text} {value : Text} (isText : value ∈ values)
    (paired : ¬ Python.Unpaired value) :
    ((values.map joinPairs).map List.length).sum <
      (values.map List.length).sum := by
  rw [List.map_map]
  refine List.sum_lt_sum _ _ (fun other _ => length_joinPairs_le other)
    ⟨value, isText, lt_of_le_of_ne (length_joinPairs_le value) ?_⟩
  exact fun same => paired ((length_joinPairs_iff value).mp same)

theorem unpaired_of_perm
    {lanes ledger : List LaneEntry} (same : lanes.Perm ledger)
    (readBack : (lanes.map LaneEntry.reread).Perm ledger) :
    ∀ entry ∈ ledger, entry.Unpaired := by
  intro entry isEntry value isText
  by_contra paired
  have texts : (lanes.map LaneEntry.reread).flatMap LaneEntry.texts =
      (lanes.flatMap LaneEntry.texts).map joinPairs := by
    simp [List.flatMap_map, List.map_flatMap]
  have lengths : (((lanes.flatMap LaneEntry.texts).map joinPairs).map
        List.length).sum =
      ((lanes.flatMap LaneEntry.texts).map List.length).sum := by
    rw [← texts]
    exact (((readBack.trans same.symm).flatMap_right _).map _).sum_eq
  have shorter := sum_length_lt (List.mem_flatMap.mpr
    ⟨entry, same.mem_iff.mpr isEntry, isText⟩) paired
  exact absurd lengths shorter.ne

theorem loaded_injective : Function.Injective LaneEntry.loaded := by
  intro left right same
  have paths := congrArg LoadedLane.ownedPaths same
  have strings : Function.Injective Json.str := fun _ _ => Json.str.inj
  obtain ⟨_, _, _, _, _, _, _, ⟨_, _, _⟩, _⟩ := left
  obtain ⟨_, _, _, _, _, _, _, ⟨_, _, _⟩, _⟩ := right
  simp only [LaneEntry.loaded, LoadedLane.mk.injEq, Json.str.injEq,
    LaneEntry.mk.injEq, Lease.mk.injEq] at same paths ⊢
  have paths := List.map_injective_iff.mpr strings paths
  tauto

/-- A saved ledger is loaded with the same lanes, up to their order, exactly
when none of its texts has a surrogate pair. -/
theorem loadLedger_perm_iff
    {ledger : LaneLedger} {data : Bytes}
    (saved : canonicalBytes ledger = .ok data) (path : Text) :
    (∃ loaded, loadLedger path (some data) = .ok loaded ∧
        loaded.Perm (ledger.map LaneEntry.loaded)) ↔
      ∀ entry ∈ ledger, entry.Unpaired := by
  have sorted := perm_sortBy LaneEntry.laneId ledger
  rw [loadLedger_canonicalBytes saved]
  constructor
  · rintro ⟨loaded, isLoaded, perm⟩
    obtain rfl := Except.ok.inj isLoaded
    exact unpaired_of_perm sorted
      ((List.map_perm_map_iff loaded_injective).mp perm)
  · intro unpaired
    refine ⟨_, rfl, List.Perm.map _ ?_⟩
    rw [List.map_congr_left (fun entry isEntry =>
      (reread_eq_self_iff entry).mpr
        (unpaired entry (sorted.mem_iff.mp isEntry))), List.map_id']
    exact sorted

/-! ## The order of the lanes -/

theorem dumpItemsWith_joinPairs (values : List Text) :
    dumpItemsWith asciiPoint ((values.map joinPairs).map .str) =
      dumpItemsWith asciiPoint (values.map .str) := by
  induction values with
  | nil => rfl
  | cons value rest induction =>
      simp only [List.map_cons, dumpItemsWith_cons, dumpTextWith_str,
        stringTextWith, flatMap_joinPairs, induction]

/-- An entry and what is read back of it are written alike. -/
theorem dumpTextWith_reread (entry : LaneEntry) :
    dumpTextWith asciiPoint (laneToDict entry.reread) =
      dumpTextWith asciiPoint (laneToDict entry) := by
  simp only [laneToDict, LaneEntry.reread, Lease.toDict, dumpTextWith_obj,
    dumpMembersWith_cons, dumpTextWith_str, dumpTextWith_arr,
    stringTextWith, flatMap_joinPairs, dumpItemsWith_joinPairs]

theorem dumpItemsWith_reread (lanes : List LaneEntry) :
    dumpItemsWith asciiPoint ((lanes.map LaneEntry.reread).map laneToDict) =
      dumpItemsWith asciiPoint (lanes.map laneToDict) := by
  induction lanes with
  | nil => rfl
  | cons entry rest induction =>
      simp only [List.map_cons, dumpItemsWith_cons, dumpTextWith_reread,
        induction]

/-- Ledgers whose sorted lanes are read back alike are written alike. -/
theorem canonicalBytes_congr
    {first second : LaneLedger}
    (same : (sortBy LaneEntry.laneId first).map LaneEntry.reread =
      (sortBy LaneEntry.laneId second).map LaneEntry.reread) :
    canonicalBytes first = canonicalBytes second := by
  have payloads : asciiText (ledgerPayload first) =
      asciiText (ledgerPayload second) := by
    simp only [asciiText, ledgerPayload, dumpTextWith_obj,
      dumpMembersWith_cons, dumpTextWith_arr]
    rw [← dumpItemsWith_reread, same, dumpItemsWith_reread]
  rw [canonicalBytes, canonicalBytes, payloads]

/-- Two orders of the same lanes are written alike exactly when the lanes
with one id, as they are read back, come in the same order. -/
theorem canonicalBytes_eq_iff
    {first second : LaneLedger} {data : Bytes}
    (saved : canonicalBytes first = .ok data) (perm : first.Perm second) :
    canonicalBytes second = .ok data ↔ ∀ laneId,
      (group LaneEntry.laneId first laneId).map LaneEntry.reread =
        (group LaneEntry.laneId second laneId).map LaneEntry.reread := by
  rw [← map_sortBy_eq_iff LaneEntry.laneId perm]
  constructor
  · intro alsoSaved
    have loadedFirst := loadLedger_canonicalBytes saved []
    rw [loadLedger_canonicalBytes alsoSaved, Except.ok.injEq] at loadedFirst
    exact (List.map_injective_iff.mpr loaded_injective loadedFirst).symm
  · intro same
    rw [← canonicalBytes_congr same]
    exact saved

/-- A saved ledger is loaded with the same lanes, and another order of its
lanes has the same encoding, exactly when no text of a lane has a surrogate
pair and the lanes with one id come in the same order in both. -/
theorem ledgerEncoding_iff
    {first second : LaneLedger} {data : Bytes} (path : Text)
    (saved : canonicalBytes first = .ok data) (perm : first.Perm second) :
    ((∃ loaded, loadLedger path (some data) = .ok loaded ∧
        loaded.Perm (first.map LaneEntry.loaded)) ∧
      canonicalBytes second = .ok data) ↔
      (∀ entry ∈ first, entry.Unpaired) ∧
        ∀ laneId, group LaneEntry.laneId first laneId =
          group LaneEntry.laneId second laneId := by
  rw [loadLedger_perm_iff saved, canonicalBytes_eq_iff saved perm]
  refine and_congr_right fun unpaired => forall_congr' fun laneId => ?_
  have keeps : ∀ ledger : LaneLedger, ledger.Perm first →
      (group LaneEntry.laneId ledger laneId).map LaneEntry.reread =
        group LaneEntry.laneId ledger laneId := by
    intro ledger same
    rw [List.map_congr_left (fun entry isEntry =>
      (reread_eq_self_iff entry).mpr (unpaired entry
        (same.mem_iff.mp ((mem_group _).mp isEntry).1))), List.map_id']
  rw [keeps first (List.Perm.refl first), keeps second perm.symm]

/-- Two lanes are acquired. -/
def twoLanes (first second : String) : LaneLedger :=
  (acquireLane samplePolicy (sampleLane second second second)
    (acquireLane samplePolicy (sampleLane first first first) []).2).2

theorem twoLanes_facts :
    (canonicalBytes (twoLanes "a" "b")).toBool = true ∧
      (twoLanes "a" "b").Perm (twoLanes "b" "a") ∧
      (∀ entry ∈ twoLanes "a" "b", entry.Unpaired) ∧
      ((twoLanes "a" "b").map LaneEntry.laneId).Nodup := by
  unfold canonicalBytes ledgerPayload laneToDict Lease.toDict twoLanes
    acquireLane acquisition executorOf worktreeFingerprint sampleLane
    samplePolicy
  rw [sha256_eq_strict]
  simp -index only [text_ofList]
  decide +kernel

/-- Two lanes with their own ids are loaded again and written alike. -/
theorem ownIds_written_alike :
    ∃ data, canonicalBytes (twoLanes "a" "b") = .ok data ∧
      (∃ loaded, loadLedger (text "ledger.json") (some data) = .ok loaded ∧
        loaded.Perm ((twoLanes "a" "b").map LaneEntry.loaded)) ∧
      canonicalBytes (twoLanes "b" "a") = .ok data := by
  cases saved : canonicalBytes (twoLanes "a" "b") with
  | error failure =>
      have isSaved := twoLanes_facts.1
      rw [saved] at isSaved
      exact Bool.noConfusion isSaved
  | ok data =>
      obtain ⟨-, perm, unpaired, distinct⟩ := twoLanes_facts
      exact ⟨data, rfl, (ledgerEncoding_iff (text "ledger.json") saved
        perm).mpr ⟨unpaired, group_eq_of_nodup _ perm distinct⟩⟩

/-! ### An id with two stopped lanes -/

/-- A lane is acquired and expires at once. -/
def acquireExpired (owned : String) (ledger : LaneLedger) : LaneLedger :=
  (expireLeases newYear (text "2026-01-01T00:00:00Z")
    (acquireLane samplePolicy
      { sampleLane "a" "/w/a" owned with ttlSeconds := 0 } ledger).2).2

/-- Two lanes have one id, one after the other. -/
def twoTurns (first second : String) : LaneLedger :=
  acquireExpired second (acquireExpired first [])

theorem twoTurns_reachable (first second : String) :
    Reachable newYear (twoTurns first second) :=
  .expireLeases _ (.acquireLane _ _ (.expireLeases _
    (.acquireLane _ _ .empty)))

theorem twoTurns_written_apart :
    (twoTurns "src/a" "src/b").Perm (twoTurns "src/b" "src/a") ∧
      canonicalBytes (twoTurns "src/a" "src/b") ≠
        canonicalBytes (twoTurns "src/b" "src/a") := by
  unfold canonicalBytes ledgerPayload laneToDict Lease.toDict twoTurns
    acquireExpired acquireLane acquisition executorOf worktreeFingerprint
    sampleLane samplePolicy
  rw [sha256_eq_strict]
  simp -index only [text_ofList]
  decide +kernel

/-- Two reachable ledgers with the same lanes have different encodings. -/
theorem sameId_written_apart :
    Reachable newYear (twoTurns "src/a" "src/b") ∧
      Reachable newYear (twoTurns "src/b" "src/a") ∧
      (twoTurns "src/a" "src/b").Perm (twoTurns "src/b" "src/a") ∧
      canonicalBytes (twoTurns "src/a" "src/b") ≠
        canonicalBytes (twoTurns "src/b" "src/a") := by
  exact ⟨twoTurns_reachable _ _, twoTurns_reachable _ _,
    twoTurns_written_apart⟩

end ScientificResourceLab.Autonomy
