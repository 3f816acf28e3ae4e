import ScientificResourceLab.Contracts.Encoding
import ScientificResourceLab.Scheduler.Inputs
import ScientificResourceLab.Scheduler.Sealing

/-!
# Checkpoints on disk

A request takes any value for its payload that `dumps` encodes, so a
checkpoint in memory holds a `PyObject`; the file of the checkpoint is read
again by `_read_checkpoint`, whose payload is a `Json` value.  A checkpoint
is read back as it was exactly when its payload is made of strings, numbers,
lists and dicts with strings for keys (`readCheckpoint_iff`).
-/

namespace ScientificResourceLab.Scheduler

open Python Contracts Steps
open Cas (readJson)
open Execution (StagingOps)

/-! ## Writing -/

/-- `RuntimeRunRequest` with any value for its payload. -/
structure PyRunRequest where
  requestId : Text
  adapterId : Text
  inputPayload : PyObject
  resourceEstimate : ResourceEstimate
  packId : Option Text
  useException : Bool
  priority : Int
  pool : RuntimePool
  requestIdValid : isRequestId requestId = true
  adapterIdNonempty : adapterId ≠ []
  payloadDumps : ∃ data, dumpsValue inputPayload.value = .ok data

/-- `RuntimeRunCheckpoint` of such a request. -/
structure PyRunCheckpoint where
  request : PyRunRequest
  status : RuntimeRunStatus
  generation : Nat
  sequence : Nat
  inputDigest : Option Text

/-- A dict with strings for keys. -/
def namedDictValue (members : List (Text × PyValue)) : PyValue :=
  .dict (members.map fun member => (.str member.1, member.2))

/-- `None` or a string. -/
def optionalValue : Option Text → PyValue
  | none => .none
  | some value => .str value

/-- `ResourceEstimate.to_canonical_dict`. -/
def ResourceEstimate.members (estimate : ResourceEstimate) :
    List (Text × PyValue) :=
  [(text "cpu_cores", .int estimate.cpuCores),
    (text "rss_bytes", .int estimate.rssBytes),
    (text "scratch_bytes", .int estimate.scratchBytes),
    (text "wall_seconds", .int estimate.wallSeconds)]

/-- The members of `RuntimeRunRequest.to_dict`. -/
def PyRunRequest.members (request : PyRunRequest) (digest : Text) :
    List (Text × PyValue) :=
  [(text "schema_version", .str (text "RuntimeRunRequest/v1")),
    (text "request_id", .str request.requestId),
    (text "adapter_id", .str request.adapterId),
    (text "input_payload", request.inputPayload.value),
    (text "resource_estimate",
      namedDictValue request.resourceEstimate.members),
    (text "resource_estimate_digest", .str digest),
    (text "pack_id", optionalValue request.packId),
    (text "use_exception", .bool request.useException),
    (text "priority", .int request.priority),
    (text "pool", .str request.pool.value),
    (text "canonical_writes", .int 0),
    (text "grants_authority", .bool false)]

/-- The members of `RuntimeRunCheckpoint.to_dict`. -/
def PyRunCheckpoint.members (checkpoint : PyRunCheckpoint) (digest : Text) :
    List (Text × PyValue) :=
  [(text "schema_version", .str (text "RuntimeRunCheckpoint/v1")),
    (text "request",
      namedDictValue (checkpoint.request.members digest)),
    (text "status", .str checkpoint.status.value),
    (text "generation", .int checkpoint.generation),
    (text "sequence", .int checkpoint.sequence),
    (text "input_digest", optionalValue checkpoint.inputDigest),
    (text "canonical_writes", .int 0),
    (text "grants_authority", .bool false)]

/-- The bytes of the file: `dumps(dict(checkpoint.to_dict()))`. -/
def PyRunCheckpoint.fileBytes (checkpoint : PyRunCheckpoint) :
    Except PyError Bytes := do
  let digest ← checkpoint.request.resourceEstimate.digest
  dumpsValue (namedDictValue (checkpoint.members digest))

/-! ## Reading -/

/-- `_validate_non_negative_int`. -/
def validateNonNegativeInt (field : String) : Json → Except PyError Nat
  | .bool _ => .error ⟨.resourceEstimateError,
      text "estimate field " ++ quoted (text field) ++
        text " must be an int, got bool"⟩
  | .int value =>
      if value < 0 then
        .error ⟨.resourceEstimateError,
          text "estimate field " ++ quoted (text field) ++
            text " must be >= 0, got " ++ intText value⟩
      else .ok value.toNat
  | other => .error ⟨.resourceEstimateError,
      text "estimate field " ++ quoted (text field) ++
        text " must be an int, got " ++ typeName other⟩

/-- `ResourceEstimate(...)` over the members of a dict. -/
def readEstimate (members : List (Text × Json)) :
    Except PyError ResourceEstimate := do
  let wallSeconds ← getItem "wall_seconds" members
  let rssBytes ← getItem "rss_bytes" members
  let scratchBytes ← getItem "scratch_bytes" members
  let cpuCores ← getItem "cpu_cores" members
  let wallSeconds ← validateNonNegativeInt "wall_seconds" wallSeconds
  let rssBytes ← validateNonNegativeInt "rss_bytes" rssBytes
  let scratchBytes ← validateNonNegativeInt "scratch_bytes" scratchBytes
  let cpuCores ← validateNonNegativeInt "cpu_cores" cpuCores
  pure ⟨wallSeconds, rssBytes, scratchBytes, cpuCores⟩

/-- `RuntimePool(value)`. -/
def readPool (value : Json) : Except PyError RuntimePool :=
  match value with
  | .str name =>
      if name = text "light" then .ok .light
      else if name = text "heavy" then .ok .heavy
      else .error ⟨.valueError,
        quoted name ++ text " is not a valid RuntimePool"⟩
  | _ => .error (raised .valueError "value is not a valid RuntimePool")

def RuntimeRunStatus.all : List RuntimeRunStatus :=
  [.queued, .running, .completed, .failed, .cancelled, .waitBackpressure,
    .waitPackGovernance, .waitRemoteExecutor, .waitLocalDisk]

/-- `RuntimeRunStatus(value)`. -/
def readStatus (value : Json) : Except PyError RuntimeRunStatus :=
  match value with
  | .str name =>
      match RuntimeRunStatus.all.find? fun status =>
          status.value = name with
      | some status => .ok status
      | none => .error ⟨.valueError,
          quoted name ++ text " is not a valid RuntimeRunStatus"⟩
  | _ => .error (raised .valueError
      "value is not a valid RuntimeRunStatus")

/-! ### The checks of `RuntimeRunRequest.__post_init__` -/

/-- `_validate_request_id`, on any value. -/
def checkRequestId (value : Json) :
    Except PyError { id : Text // isRequestId id = true } :=
  match value with
  | .str id =>
      if valid : isRequestId id = true then .ok ⟨id, valid⟩
      else .error (raised .schedulerError
        "request_id must be 1-128 safe filename characters")
  | _ => .error (raised .schedulerError
      "request_id must be 1-128 safe filename characters")

/-- The adapter is a non-empty string. -/
def checkAdapterId (value : Json) :
    Except PyError { id : Text // id ≠ [] } :=
  match value with
  | .str id =>
      if nonempty : id ≠ [] then .ok ⟨id, nonempty⟩
      else .error (raised .schedulerError
        "adapter_id must be a non-empty string")
  | _ => .error (raised .schedulerError
      "adapter_id must be a non-empty string")

/-- The pack is a string or `None`. -/
def checkPackId : Json → Except PyError (Option Text)
  | .null => .ok none
  | .str id => .ok (some id)
  | _ => .error (raised .schedulerError "pack_id must be a string or None")

def checkUseException : Json → Except PyError Bool
  | .bool value => .ok value
  | _ => .error (raised .schedulerError "use_exception must be a bool")

def checkPriority : Json → Except PyError Int
  | .int value => .ok value
  | _ => .error (raised .schedulerError "priority must be an int")

/-- `dumps(self.input_payload)`. -/
def checkPayload (payload : Json) :
    Except PyError { value : Json // ∃ data, dumps value = .ok data } :=
  match dumped : dumps payload with
  | .ok data => .ok ⟨payload, data, dumped⟩
  | .error error => .error error

/-- The request in a checkpoint file. -/
def readRequest (members : List (Text × Json)) :
    Except PyError RuntimeRunRequest := do
  let estimateValue ← getItem "resource_estimate" members
  let requestId ← getItem "request_id" members
  let adapterId ← getItem "adapter_id" members
  let inputPayload ← getItem "input_payload" members
  let estimateMembers ← subscripted estimateValue
  let resourceEstimate ← readEstimate estimateMembers
  let packId ← getItem "pack_id" members
  let useException ← getItem "use_exception" members
  let priority ← getItem "priority" members
  let pool ← readPool
    ((Json.lookup (text "pool") members).getD (.str (text "light")))
  let requestId ← checkRequestId requestId
  let adapterId ← checkAdapterId adapterId
  let packId ← checkPackId packId
  let useException ← checkUseException useException
  let priority ← checkPriority priority
  let inputPayload ← checkPayload inputPayload
  pure
    { requestId := requestId.val
      adapterId := adapterId.val
      inputPayload := inputPayload.val
      resourceEstimate := resourceEstimate
      packId := packId
      useException := useException
      priority := priority
      pool := pool
      requestIdValid := requestId.property
      adapterIdNonempty := adapterId.property
      payloadDumps := inputPayload.property }

/-- The checkpoint that is read; the last fields are not checked. -/
structure ReadCheckpoint where
  request : RuntimeRunRequest
  status : RuntimeRunStatus
  generation : Json
  sequence : Json
  inputDigest : Json

/-- `_read_checkpoint`. -/
def readCheckpoint (data : Bytes) : Except PyError ReadCheckpoint := do
  let document ← readJson data
  let members ← subscripted document
  let requestValue ← getItem "request" members
  let requestMembers ← subscripted requestValue
  let request ← readRequest requestMembers
  let status ← getItem "status" members
  let status ← readStatus status
  let generation ← getItem "generation" members
  let sequence ← getItem "sequence" members
  pure
    { request := request
      status := status
      generation := generation
      sequence := sequence
      inputDigest :=
        (Json.lookup (text "input_digest") members).getD .null }

/-- The checkpoint that was read equals the one that was written. -/
structure SameCheckpoint
    (written : PyRunCheckpoint) (decoded : ReadCheckpoint) : Prop where
  requestId : decoded.request.requestId = written.request.requestId
  adapterId : decoded.request.adapterId = written.request.adapterId
  inputPayload : sameAs written.request.inputPayload.value
    decoded.request.inputPayload = true
  resourceEstimate :
    decoded.request.resourceEstimate = written.request.resourceEstimate
  packId : decoded.request.packId = written.request.packId
  useException :
    decoded.request.useException = written.request.useException
  priority : decoded.request.priority = written.request.priority
  pool : decoded.request.pool = written.request.pool
  status : decoded.status = written.status
  generation : decoded.generation = .int written.generation
  sequence : decoded.sequence = .int written.sequence
  inputDigest : decoded.inputDigest = optionalText written.inputDigest

/-! ## What is written is a dict of strings -/

/-- The members as `Json` values. -/
def jsonMembers (members : List (Text × PyValue)) : List (Text × Json) :=
  members.map fun member => (member.1, member.2.toJson)

theorem toJson_namedDictValue (members : List (Text × PyValue)) :
    (namedDictValue members).toJson = .obj (jsonMembers members) := by
  rw [namedDictValue, PyValue.toJson, jsonMembers, Json.obj.injEq]
  induction members with
  | nil => rfl
  | cons member rest induction =>
      rw [List.map_cons, toJsonMembers, List.map_cons, induction]
      rfl

theorem jsonable_namedDictValue
    {members : List (Text × PyValue)}
    (jsonable : ∀ member ∈ members, Jsonable member.2) :
    Jsonable (namedDictValue members) := by
  rw [namedDictValue, Jsonable]
  induction members with
  | nil => trivial
  | cons member rest induction =>
      exact ⟨rfl, jsonable member List.mem_cons_self,
        induction fun other isMember =>
          jsonable other (List.mem_cons_of_mem _ isMember)⟩

theorem valid_namedDictValue
    {members : List (Text × PyValue)}
    (valid : ∀ member ∈ members, member.2.Valid)
    (distinct : (members.map Prod.fst).Nodup) :
    (namedDictValue members).Valid := by
  refine ⟨?_, ?_⟩
  · clear distinct
    induction members with
    | nil => trivial
    | cons member rest induction =>
        exact ⟨valid member List.mem_cons_self,
          induction fun other isMember =>
            valid other (List.mem_cons_of_mem _ isMember)⟩
  · rw [List.map_map]
    have names : (members.map ((fun member => member.1.form) ∘
        fun member => (PyKey.str member.1, member.2))) =
          (members.map Prod.fst).map PyKey.str := by
      rw [List.map_map]
      rfl
    rw [names]
    exact distinct.map fun _ _ same => PyKey.str.inj same

theorem jsonable_optionalValue (value : Option Text) :
    Jsonable (optionalValue value) := by
  cases value <;> trivial

theorem valid_optionalValue (value : Option Text) :
    (optionalValue value).Valid := by
  cases value <;> trivial

theorem toJson_optionalValue (value : Option Text) :
    (optionalValue value).toJson = optionalText value := by
  cases value <;> rfl

theorem keys_jsonMembers (members : List (Text × PyValue)) :
    (jsonMembers members).map Prod.fst = members.map Prod.fst := by
  rw [jsonMembers, List.map_map]
  rfl

/-! ## Reading a written checkpoint -/

section

variable {members : List (Text × PyValue)} {key : String}
variable {value result : Json}

theorem lookup_read
    (distinct : (members.map Prod.fst).Nodup)
    (found : Json.lookup (text key) (jsonMembers members) = some value)
    (isSorted : value.sorted = result) :
    Json.lookup (text key) (stored (jsonMembers members)) =
      some result := by
  rw [← keys_jsonMembers] at distinct
  rw [lookup_stored distinct, found, Option.map_some, isSorted]

theorem item_read
    (distinct : (members.map Prod.fst).Nodup)
    (found : Json.lookup (text key) (jsonMembers members) = some value)
    (isSorted : value.sorted = result) :
    getItem key (stored (jsonMembers members)) = .ok result := by
  rw [getItem, lookup_read distinct found isSorted]

end

theorem validateNonNegativeInt_natCast (field : String) (value : Nat) :
    validateNonNegativeInt field (.int value) = .ok value := by
  rw [validateNonNegativeInt, if_neg (Int.not_lt.mpr value.cast_nonneg),
    Int.toNat_natCast]

theorem ResourceEstimate.distinct_members (estimate : ResourceEstimate) :
    (estimate.members.map Prod.fst).Nodup := by
  simp only [ResourceEstimate.members, List.map_cons, List.map_nil]
  simp -index only [text_ofList]
  decide

theorem readEstimate_stored (estimate : ResourceEstimate) :
    readEstimate (stored (jsonMembers estimate.members)) =
      .ok estimate := by
  have distinct := estimate.distinct_members
  simp only [readEstimate, bind_eq_ok_iff]
  exact ⟨.int estimate.wallSeconds, item_read distinct rfl rfl,
    .int estimate.rssBytes, item_read distinct rfl rfl,
    .int estimate.scratchBytes, item_read distinct rfl rfl,
    .int estimate.cpuCores, item_read distinct rfl rfl,
    _, validateNonNegativeInt_natCast _ _,
    _, validateNonNegativeInt_natCast _ _,
    _, validateNonNegativeInt_natCast _ _,
    _, validateNonNegativeInt_natCast _ _, rfl⟩

theorem readPool_value (pool : RuntimePool) :
    readPool (.str pool.value) = .ok pool := by
  cases pool <;> rfl

theorem readStatus_value (status : RuntimeRunStatus) :
    readStatus (.str status.value) = .ok status := by
  cases status <;> rfl

theorem checkPackId_optionalText (value : Option Text) :
    checkPackId (optionalText value) = .ok value := by
  cases value <;> rfl

theorem checkPayload_eq_ok
    {payload : Json} (dumped : ∃ data, dumps payload = .ok data) :
    checkPayload payload = .ok ⟨payload, dumped⟩ := by
  obtain ⟨data, isData⟩ := dumped
  rw [checkPayload]
  split
  · rfl
  · next error raises =>
      rw [isData] at raises
      cases raises

section

variable (request : PyRunRequest) (digest : Text)

theorem PyRunRequest.distinct_members :
    ((request.members digest).map Prod.fst).Nodup := by
  simp only [PyRunRequest.members, List.map_cons, List.map_nil]
  simp -index only [text_ofList]
  decide

variable {request digest}

/-- The payload that is read back can be encoded again. -/
theorem dumps_readPayload (jsonable : Jsonable request.inputPayload.value) :
    ∃ data, dumps request.inputPayload.value.toJson.sorted = .ok data := by
  obtain ⟨data, dumped⟩ := request.payloadDumps
  rw [dumpsValue_eq jsonable] at dumped
  exact ⟨data, by rw [← dumped, dumps, dumps, dumpText_sorted]⟩

/-- The request that is read from the file of a checkpoint. -/
def PyRunRequest.readBack (request : PyRunRequest)
    (jsonable : Jsonable request.inputPayload.value) :
    RuntimeRunRequest where
  requestId := request.requestId
  adapterId := request.adapterId
  inputPayload := request.inputPayload.value.toJson.sorted
  resourceEstimate := request.resourceEstimate
  packId := request.packId
  useException := request.useException
  priority := request.priority
  pool := request.pool
  requestIdValid := request.requestIdValid
  adapterIdNonempty := request.adapterIdNonempty
  payloadDumps := dumps_readPayload jsonable

theorem readRequest_stored
    (jsonable : Jsonable request.inputPayload.value) :
    readRequest (stored (jsonMembers (request.members digest))) =
      .ok (request.readBack jsonable) := by
  have distinct := request.distinct_members digest
  have estimate : getItem "resource_estimate"
      (stored (jsonMembers (request.members digest))) =
        .ok (.obj (stored
          (jsonMembers request.resourceEstimate.members))) :=
    item_read distinct rfl (by rw [toJson_namedDictValue, sorted_obj])
  have packId : getItem "pack_id"
      (stored (jsonMembers (request.members digest))) =
        .ok (optionalText request.packId) :=
    item_read distinct rfl
      (by rw [toJson_optionalValue, optionalText_sorted])
  have pool : Json.lookup (text "pool")
      (stored (jsonMembers (request.members digest))) =
        some (.str request.pool.value) :=
    lookup_read distinct rfl rfl
  have requestId : checkRequestId (.str request.requestId) =
      .ok ⟨request.requestId, request.requestIdValid⟩ := by
    rw [checkRequestId, dif_pos request.requestIdValid]
  have adapterId : checkAdapterId (.str request.adapterId) =
      .ok ⟨request.adapterId, request.adapterIdNonempty⟩ := by
    rw [checkAdapterId, dif_pos request.adapterIdNonempty]
  simp only [readRequest, bind_eq_ok_iff, pool, Option.getD_some]
  exact ⟨_, estimate, .str request.requestId, item_read distinct rfl rfl,
    .str request.adapterId, item_read distinct rfl rfl,
    request.inputPayload.value.toJson.sorted, item_read distinct rfl rfl,
    _, rfl, _, readEstimate_stored _, _, packId,
    .bool request.useException, item_read distinct rfl rfl,
    .int request.priority, item_read distinct rfl rfl,
    _, readPool_value _, _, requestId, _, adapterId,
    _, checkPackId_optionalText _, _, rfl, _, rfl,
    _, checkPayload_eq_ok (dumps_readPayload jsonable), rfl⟩

end

section

variable {checkpoint : PyRunCheckpoint} {digest : Text}

theorem PyRunCheckpoint.distinct_members
    (checkpoint : PyRunCheckpoint) (digest : Text) :
    ((checkpoint.members digest).map Prod.fst).Nodup := by
  simp only [PyRunCheckpoint.members, List.map_cons, List.map_nil]
  simp -index only [text_ofList]
  decide

theorem jsonable_members
    (jsonable : Jsonable checkpoint.request.inputPayload.value) :
    Jsonable (namedDictValue (checkpoint.members digest)) := by
  have estimate : Jsonable
      (namedDictValue checkpoint.request.resourceEstimate.members) :=
    jsonable_namedDictValue (by
      simp [ResourceEstimate.members, Jsonable])
  have request : Jsonable
      (namedDictValue (checkpoint.request.members digest)) :=
    jsonable_namedDictValue (by
      simp [PyRunRequest.members, estimate, jsonable,
        jsonable_optionalValue, Jsonable])
  exact jsonable_namedDictValue (by
    simp [PyRunCheckpoint.members, request, jsonable_optionalValue,
      Jsonable])

theorem valid_members (checkpoint : PyRunCheckpoint) (digest : Text) :
    (namedDictValue (checkpoint.members digest)).Valid := by
  have estimate :
      (namedDictValue checkpoint.request.resourceEstimate.members).Valid :=
    valid_namedDictValue
      (by simp [ResourceEstimate.members, PyValue.Valid])
      checkpoint.request.resourceEstimate.distinct_members
  have request :
      (namedDictValue (checkpoint.request.members digest)).Valid :=
    valid_namedDictValue
      (by simp [PyRunRequest.members, estimate,
        checkpoint.request.inputPayload.valid, valid_optionalValue,
        PyValue.Valid])
      (checkpoint.request.distinct_members digest)
  exact valid_namedDictValue
    (by simp [PyRunCheckpoint.members, request, valid_optionalValue,
      PyValue.Valid])
    (checkpoint.distinct_members digest)

/-- The file of a checkpoint with such a payload is read back. -/
theorem readCheckpoint_fileBytes
    {data : Bytes} (written : checkpoint.fileBytes = .ok data)
    (jsonable : Jsonable checkpoint.request.inputPayload.value) :
    readCheckpoint data = .ok
      { request := checkpoint.request.readBack jsonable
        status := checkpoint.status
        generation := .int checkpoint.generation
        sequence := .int checkpoint.sequence
        inputDigest := optionalText checkpoint.inputDigest } := by
  obtain ⟨digest, -, dumped⟩ := bind_eq_ok_iff.mp written
  have isJsonable : Jsonable
      (namedDictValue (checkpoint.members digest)) :=
    jsonable_members jsonable
  rw [dumpsValue_eq isJsonable] at dumped
  have document := Cas.readJson_dumps_sorted
    (distinct_toJson _ isJsonable (valid_members checkpoint digest)) dumped
  rw [toJson_namedDictValue, sorted_obj] at document
  have distinct := checkpoint.distinct_members digest
  have request : getItem "request"
      (stored (jsonMembers (checkpoint.members digest))) =
        .ok (.obj (stored
          (jsonMembers (checkpoint.request.members digest)))) :=
    item_read distinct rfl (by rw [toJson_namedDictValue, sorted_obj])
  have inputDigest : Json.lookup (text "input_digest")
      (stored (jsonMembers (checkpoint.members digest))) =
        some (optionalText checkpoint.inputDigest) :=
    lookup_read distinct rfl
      (by rw [toJson_optionalValue, optionalText_sorted])
  simp only [readCheckpoint, bind_eq_ok_iff]
  refine ⟨_, document, _, rfl, _, request, _, rfl, _,
    readRequest_stored jsonable, .str checkpoint.status.value,
    item_read distinct rfl rfl, _, readStatus_value _,
    .int checkpoint.generation, item_read distinct rfl rfl,
    .int checkpoint.sequence, item_read distinct rfl rfl, ?_⟩
  rw [inputDigest]
  rfl

/--
A checkpoint whose file was written is read back as it was exactly when its
payload holds no tuple and only strings for keys.
-/
theorem readCheckpoint_iff
    {data : Bytes} (written : checkpoint.fileBytes = .ok data) :
    (∃ decoded, readCheckpoint data = .ok decoded ∧
        SameCheckpoint checkpoint decoded) ↔
      Jsonable checkpoint.request.inputPayload.value := by
  constructor
  · rintro ⟨decoded, -, same⟩
    exact jsonable_of_sameAs _ same.inputPayload
  · intro jsonable
    refine ⟨_, readCheckpoint_fileBytes written jsonable, ?_⟩
    constructor
    case inputPayload =>
      exact sameAs_sorted _ jsonable checkpoint.request.inputPayload.valid
    all_goals rfl

end

/--
After every history over a local store, cut anywhere, a sealed receipt names
the payload with which the runner was last called for its request.  A
checkpoint whose file was written is read back as it was exactly when its
payload holds no tuple and only strings for keys.
-/
theorem sealed_input_named_and_checkpoint_read_back
    (calls : List (Call Operation))
    (overStore : ∀ call ∈ calls, call.operation.Dispatches OverStore)
    (checkpoint : PyRunCheckpoint) (data : Bytes)
    (written : checkpoint.fileBytes = .ok data) :
    SealedNamesInput (afterCalls code calls State.empty) ∧
      ((∃ decoded, readCheckpoint data = .ok decoded ∧
          SameCheckpoint checkpoint decoded) ↔
        Jsonable checkpoint.request.inputPayload.value) :=
  ⟨sealedNamesInput_afterCalls overStore, readCheckpoint_iff written⟩

/-! ## A payload with a number for a key -/

/-- A queued request with the payload `{1: "a"}`. -/
def numberedCheckpoint : PyRunCheckpoint where
  request :=
    { requestId := text "r"
      adapterId := text "a"
      inputPayload := numberedDict
      resourceEstimate := ⟨0, 0, 0, 0⟩
      packId := none
      useException := false
      priority := 0
      pool := .light
      requestIdValid := sampleId_valid
      adapterIdNonempty := sampleAdapter_nonempty
      payloadDumps := ⟨_, rfl⟩ }
  status := .queued
  generation := 1
  sequence := 1
  inputDigest := none

/-- Whether bytes were written. -/
def isWritten (result : Except PyError Bytes) : Bool :=
  match result with
  | .ok _ => true
  | .error _ => false

theorem eq_ok_of_isWritten
    {result : Except PyError Bytes} (holds : isWritten result = true) :
    ∃ data, result = .ok data := by
  cases result with
  | error error => cases holds
  | ok data => exact ⟨data, rfl⟩

theorem numberedCheckpoint_isWritten :
    isWritten numberedCheckpoint.fileBytes = true := by
  unfold PyRunCheckpoint.fileBytes PyRunCheckpoint.members
    PyRunRequest.members ResourceEstimate.members ResourceEstimate.digest
    ResourceEstimate.toCanonicalDict RuntimeRunStatus.value
    RuntimePool.value
  rw [sha256_eq_strict]
  simp -index only [text_ofList]
  decide +kernel

theorem numberedCheckpoint_written :
    ∃ data, numberedCheckpoint.fileBytes = .ok data :=
  eq_ok_of_isWritten numberedCheckpoint_isWritten

/-- Its file is written and is not read back as it was. -/
theorem numberedCheckpoint_not_read_back :
    ∃ data, numberedCheckpoint.fileBytes = .ok data ∧
      ¬ ∃ decoded, readCheckpoint data = .ok decoded ∧
        SameCheckpoint numberedCheckpoint decoded := by
  obtain ⟨data, written⟩ := numberedCheckpoint_written
  refine ⟨data, written, fun same => ?_⟩
  cases ((readCheckpoint_iff written).mp same).1

/-- A store on an empty disk, and a staging directory that takes files. -/
def emptyStorage : LocalStore × StagingOps (Except PyError) :=
  (⟨Cas.Store.empty, text "2026-01-01T00:00:00Z", none⟩,
    { has := fun _ => .ok true
      get := fun _ => .ok [110, 117, 108, 108, 10]
      makeStaging := .ok [text "staging"]
      makeParents := fun _ => .ok ()
      writeBytes := fun _ _ => .ok ()
      chmod := fun _ _ => .ok ()
      readBytes := fun _ => .ok [110, 117, 108, 108, 10]
      unlink := fun _ => .ok ()
      removeStaging := fun _ => .ok () })

def submittedAndDispatched : List (Call Operation) :=
  [.complete (.submit sampleRequest 1),
    .complete (.dispatchNext
      ((answering.sealedBy taking none).storing emptyStorage.1
        emptyStorage.2) 1)]

theorem sealed_input_named_after_dispatch :
    ∃ data,
      SealedNamesInput (afterCalls code submittedAndDispatched
        State.empty) ∧
      ((∃ decoded, readCheckpoint data = .ok decoded ∧
          SameCheckpoint numberedCheckpoint decoded) ↔
        Jsonable numberedCheckpoint.request.inputPayload.value) := by
  obtain ⟨data, written⟩ := numberedCheckpoint_written
  refine ⟨data, sealed_input_named_and_checkpoint_read_back
    submittedAndDispatched ?_ numberedCheckpoint data written⟩
  intro call member
  rcases List.mem_pair.mp member with rfl | rfl
  · trivial
  · exact ⟨answering.sealedBy taking none, emptyStorage.1,
      emptyStorage.2, rfl⟩

end ScientificResourceLab.Scheduler
