import ScientificResourceLab.Contracts.Canonical

/-!
# Runtime requests, checkpoints and terminal receipts

The records of `srl.runtime.scheduler` with the parts of the execution layer
they refer to: resource estimates, the two envelopes of a resource policy and
the admission decision.  A request carries the facts its constructor checks,
so a request that the constructor refuses cannot be written down.

`toDict` gives the document that is written to disk.  Writing a record means
encoding that document first, and the encoder may refuse it.
-/

namespace ScientificResourceLab.Scheduler

open Python Contracts

/-! ## Estimates and admission -/

/-- `ResourceEstimate`: four non-negative integers. -/
structure ResourceEstimate where
  wallSeconds : Nat
  rssBytes : Nat
  scratchBytes : Nat
  cpuCores : Nat
  deriving DecidableEq

/-- `ResourceEstimate.to_canonical_dict`. -/
def ResourceEstimate.toCanonicalDict (estimate : ResourceEstimate) :
    Json :=
  .obj
    [(text "cpu_cores", .int estimate.cpuCores),
      (text "rss_bytes", .int estimate.rssBytes),
      (text "scratch_bytes", .int estimate.scratchBytes),
      (text "wall_seconds", .int estimate.wallSeconds)]

/-- `ResourceEstimate.digest`, over an encoder of its own. -/
def ResourceEstimate.digest (estimate : ResourceEstimate) :
    Except PyError Text :=
  match dumpText estimate.toCanonicalDict with
  | none => .error (raised .valueError "Exceeds the limit")
  | some written =>
      match utf8Encode (written ++ [codePoint '\n']) with
      | none => .error (raised .unicodeEncodeError "surrogates not allowed")
      | some encoded => .ok (text "sha256:" ++ sha256 encoded)

/-- `_Envelope`. -/
structure Envelope where
  cpuCores : Nat
  rssBytes : Nat
  scratchBytes : Nat
  wallSeconds : Nat
  deriving DecidableEq

/-- The fields of `ResourcePolicy` that a dispatch reads. -/
structure ResourcePolicy where
  default : Envelope
  exception : Envelope
  requiredFreeDiskBytes : Nat
  deriving DecidableEq

/-- `AdmissionDecision`. -/
inductive AdmissionDecision where
  | admittedDefault
  | admittedException
  | waitRemoteExecutor
  deriving DecidableEq, Repr

/-- `_within`. -/
def within (estimate : ResourceEstimate) (envelope : Envelope) : Bool :=
  estimate.cpuCores ≤ envelope.cpuCores &&
    estimate.rssBytes ≤ envelope.rssBytes &&
    estimate.scratchBytes ≤ envelope.scratchBytes &&
    estimate.wallSeconds ≤ envelope.wallSeconds

/-- `admit`. -/
def admitEstimate
    (estimate : ResourceEstimate) (policy : ResourcePolicy)
    (useException : Bool) : AdmissionDecision :=
  if within estimate policy.default then .admittedDefault
  else if useException && within estimate policy.exception then
    .admittedException
  else .waitRemoteExecutor

/-- `PackLifecycleStatus`. -/
inductive PackLifecycleStatus where
  | active
  | waitSbom
  | waitLock
  | waitVulnerabilityScan
  | waitAdmissionReceipt
  | waitLicense
  | revoked
  deriving DecidableEq, Repr

def PackLifecycleStatus.value : PackLifecycleStatus → Text
  | .active => text "ACTIVE"
  | .waitSbom => text "WAIT_SBOM"
  | .waitLock => text "WAIT_LOCK"
  | .waitVulnerabilityScan => text "WAIT_VULNERABILITY_SCAN"
  | .waitAdmissionReceipt => text "WAIT_ADMISSION_RECEIPT"
  | .waitLicense => text "WAIT_LICENSE"
  | .revoked => text "REVOKED"

/-! ## Statuses and pools -/

/-- `RuntimeRunStatus`. -/
inductive RuntimeRunStatus where
  | queued
  | running
  | completed
  | failed
  | cancelled
  | waitBackpressure
  | waitPackGovernance
  | waitRemoteExecutor
  | waitLocalDisk
  deriving DecidableEq, Repr

def RuntimeRunStatus.value : RuntimeRunStatus → Text
  | .queued => text "queued"
  | .running => text "running"
  | .completed => text "completed"
  | .failed => text "failed"
  | .cancelled => text "cancelled"
  | .waitBackpressure => text "wait_backpressure"
  | .waitPackGovernance => text "wait_pack_governance"
  | .waitRemoteExecutor => text "wait_remote_executor"
  | .waitLocalDisk => text "wait_local_disk"

/-- `RuntimePool`. -/
inductive RuntimePool where
  | light
  | heavy
  deriving DecidableEq, Repr

def RuntimePool.value : RuntimePool → Text
  | .light => text "light"
  | .heavy => text "heavy"

/-- `_pool_rank`. -/
def poolRank : RuntimePool → Nat
  | .light => 0
  | .heavy => 1

/-! ## Requests -/

/-- `[A-Za-z0-9]`. -/
def isAlphanumeric (point : CodePoint) : Bool :=
  CodePoint.isDigit point || 65 ≤ point.val && point.val ≤ 90 ||
    97 ≤ point.val && point.val ≤ 122

/-- `[A-Za-z0-9_.-]`. -/
def isSafeFileCharacter (point : CodePoint) : Bool :=
  isAlphanumeric point || point = codePoint '_' ||
    point = codePoint '.' || point = codePoint '-'

/-- `^[A-Za-z0-9][A-Za-z0-9_.-]{0,127}$`, matched in full. -/
def isRequestId : Text → Bool
  | [] => false
  | first :: rest =>
      isAlphanumeric first && rest.all isSafeFileCharacter &&
        rest.length ≤ 127

/-- `_validate_request_id`. -/
def validateRequestId (requestId : Text) : Except PyError Unit :=
  if isRequestId requestId then .ok ()
  else
    .error (raised .schedulerError
      "request_id must be 1-128 safe filename characters")

/-- `RuntimeRunRequest` with what `__post_init__` checks. -/
structure RuntimeRunRequest where
  requestId : Text
  adapterId : Text
  inputPayload : Json
  resourceEstimate : ResourceEstimate
  packId : Option Text
  useException : Bool
  priority : Int
  pool : RuntimePool
  requestIdValid : isRequestId requestId = true
  adapterIdNonempty : adapterId ≠ []
  payloadDumps : ∃ data, dumps inputPayload = .ok data

/-- `RuntimeRunRequest.to_dict`. -/
def RuntimeRunRequest.toDict (request : RuntimeRunRequest) :
    Except PyError Json := do
  let digest ← request.resourceEstimate.digest
  pure (.obj
    [(text "schema_version", .str (text "RuntimeRunRequest/v1")),
      (text "request_id", .str request.requestId),
      (text "adapter_id", .str request.adapterId),
      (text "input_payload", request.inputPayload),
      (text "resource_estimate",
        request.resourceEstimate.toCanonicalDict),
      (text "resource_estimate_digest", .str digest),
      (text "pack_id", optionalText request.packId),
      (text "use_exception", .bool request.useException),
      (text "priority", .int request.priority),
      (text "pool", .str request.pool.value),
      (text "canonical_writes", .int 0),
      (text "grants_authority", .bool false)])

/-! ## Checkpoints -/

/-- `RuntimeRunCheckpoint`. -/
structure RuntimeRunCheckpoint where
  request : RuntimeRunRequest
  status : RuntimeRunStatus
  generation : Nat
  sequence : Nat
  inputDigest : Option Text

/-- `RuntimeRunCheckpoint.to_dict`. -/
def RuntimeRunCheckpoint.toDict (checkpoint : RuntimeRunCheckpoint) :
    Except PyError Json := do
  let request ← checkpoint.request.toDict
  pure (.obj
    [(text "schema_version", .str (text "RuntimeRunCheckpoint/v1")),
      (text "request", request),
      (text "status", .str checkpoint.status.value),
      (text "generation", .int checkpoint.generation),
      (text "sequence", .int checkpoint.sequence),
      (text "input_digest", optionalText checkpoint.inputDigest),
      (text "canonical_writes", .int 0),
      (text "grants_authority", .bool false)])

/-! ## Terminal receipts -/

/-- `SchedulerTerminalReceipt`. -/
structure SchedulerTerminalReceipt where
  requestId : Text
  status : RuntimeRunStatus
  generation : Nat
  failReason : Option Text
  detail : Text
  stagedInputDigests : List (Text × Text)
  runReceiptId : Option Text
  engineReceiptId : Option Text
  outputDigests : List (Text × Text)
  sealed : Bool
  terminalReceiptId : Option Text
  deriving DecidableEq

/-- A dict of strings, sorted by key. -/
def digestsDict (digests : List (Text × Text)) : Json :=
  .obj ((digests.insertionSort KeyLe).map fun member =>
    (member.1, .str member.2))

/-- The members of `to_dict` that do not carry the receipt's own id. -/
def SchedulerTerminalReceipt.members
    (receipt : SchedulerTerminalReceipt) : List (Text × Json) :=
  [(text "schema_version", .str (text "RuntimeRunTerminalReceipt/v1")),
    (text "request_id", .str receipt.requestId),
    (text "status", .str receipt.status.value),
    (text "generation", .int receipt.generation),
    (text "fail_reason", optionalText receipt.failReason),
    (text "detail", .str receipt.detail),
    (text "staged_input_digests", digestsDict receipt.stagedInputDigests),
    (text "run_receipt_id", optionalText receipt.runReceiptId),
    (text "engine_receipt_id", optionalText receipt.engineReceiptId),
    (text "output_digests", digestsDict receipt.outputDigests),
    (text "sealed", .bool receipt.sealed),
    (text "canonical_writes", .int 0),
    (text "grants_authority", .bool false)]

/-- `SchedulerTerminalReceipt.to_dict(include_id=False)`. -/
def SchedulerTerminalReceipt.toDictWithoutId
    (receipt : SchedulerTerminalReceipt) : Json :=
  .obj receipt.members

/-- `SchedulerTerminalReceipt.to_dict()`. -/
def SchedulerTerminalReceipt.toDict
    (receipt : SchedulerTerminalReceipt) : Json :=
  .obj (receipt.members ++
    [(text "terminal_receipt_id", optionalText receipt.terminalReceiptId)])

/-- A receipt without run evidence. -/
def unsealedReceipt
    (requestId : Text) (status : RuntimeRunStatus) (generation : Nat)
    (failReason : String) (detail : Text) : SchedulerTerminalReceipt where
  requestId := requestId
  status := status
  generation := generation
  failReason := some (text failReason)
  detail := detail
  stagedInputDigests := []
  runReceiptId := none
  engineReceiptId := none
  outputDigests := []
  sealed := false
  terminalReceiptId := none

/-- Set the receipt's own id unless it already has one. -/
def SchedulerTerminalReceipt.withId
    (receipt : SchedulerTerminalReceipt) :
    Except PyError SchedulerTerminalReceipt :=
  match receipt.terminalReceiptId with
  | some _ => .ok receipt
  | none => do
      let id ← objectId receipt.toDictWithoutId
      pure { receipt with terminalReceiptId := some id }

/-- Binding its id changes nothing else of a receipt. -/
theorem withId_fields
    {receipt bound : SchedulerTerminalReceipt}
    (bind : receipt.withId = .ok bound) :
    bound.requestId = receipt.requestId ∧
      bound.sealed = receipt.sealed ∧
      bound.stagedInputDigests = receipt.stagedInputDigests := by
  rw [SchedulerTerminalReceipt.withId] at bind
  cases own : receipt.terminalReceiptId with
  | some id =>
      rw [own] at bind
      cases bind
      exact ⟨rfl, rfl, rfl⟩
  | none =>
      rw [own] at bind
      cases computed : objectId receipt.toDictWithoutId with
      | error error =>
          rw [computed] at bind
          cases bind
      | ok id =>
          rw [computed] at bind
          cases bind
          exact ⟨rfl, rfl, rfl⟩

/-! ## The cancellation receipt -/

/-- The receipt that cancelling a queued request leaves. -/
def cancelledReceipt (requestId : Text) (generation : Nat) :
    SchedulerTerminalReceipt :=
  unsealedReceipt requestId .cancelled generation
    "CANCELLED_BY_OPERATOR" (text "cancelled before dispatch")

/-- A number that Python prints within its digit limit. -/
def Printable (value : Nat) : Prop :=
  (decimalText value).length ≤ intMaxStrDigits

instance (value : Nat) : Decidable (Printable value) :=
  inferInstanceAs (Decidable (_ ≤ _))

theorem scalars_requestId
    {requestId : Text} (valid : isRequestId requestId = true) :
    Scalars requestId := by
  intro point member
  have ascii : point.val < 128 := by
    cases requestId with
    | nil => cases member
    | cons first rest =>
        simp only [isRequestId, Bool.and_eq_true, List.all_eq_true,
          decide_eq_true_eq] at valid
        obtain ⟨⟨isFirst, areSafe⟩, _⟩ := valid
        have safe : isSafeFileCharacter point = true := by
          rcases List.mem_cons.mp member with rfl | inRest
          · simp [isSafeFileCharacter, isFirst]
          · exact areSafe point inRest
        simp only [isSafeFileCharacter, isAlphanumeric, CodePoint.isDigit,
          Bool.or_eq_true, Bool.and_eq_true, decide_eq_true_eq] at safe
        rcases safe with ((((digit | upper) | lower) | rfl) | rfl) | rfl
        · omega
        · omega
        · omega
        all_goals decide
  simp only [CodePoint.isSurrogate, Bool.and_eq_false_imp,
    decide_eq_true_eq, decide_eq_false_iff_not]
  omega

/-- A receipt never carries an `object_id`. -/
theorem ownObjectId_toDictWithoutId
    (receipt : SchedulerTerminalReceipt) :
    ownObjectId receipt.toDictWithoutId = none := by
  have absent : objectIdField ∉ receipt.members.map Prod.fst := by
    simp only [SchedulerTerminalReceipt.members, List.map_cons,
      List.map_nil]
    simp -index only [objectIdField, text_ofList]
    decide
  rw [SchedulerTerminalReceipt.toDictWithoutId, ownObjectId,
    Json.lookup_of_not_mem absent]

theorem objectId_toDictWithoutId (receipt : SchedulerTerminalReceipt) :
    objectId receipt.toDictWithoutId =
      (dumps receipt.toDictWithoutId).map
        (objectIdPrefix ++ sha256 ·) := by
  rw [objectId, ownObjectId_toDictWithoutId]
  cases dumps receipt.toDictWithoutId <;> rfl

theorem scalars_objectId
    {value : Json} {id : Text} (computed : objectId value = .ok id) :
    Scalars id := by
  have shape := objectId_isObjectId computed
  simp only [isObjectId, Bool.and_eq_true, List.all_eq_true,
    List.isPrefixOf_iff_prefix] at shape
  obtain ⟨⟨⟨rest, rfl⟩, _⟩, hex⟩ := shape
  rw [List.drop_left] at hex
  refine scalars_append.mpr ⟨scalars_text _, fun point member => ?_⟩
  have isHex := hex point member
  simp only [CodePoint.isLowerHex, CodePoint.isDigit, Bool.or_eq_true,
    Bool.and_eq_true, decide_eq_true_eq] at isHex
  simp only [CodePoint.isSurrogate, Bool.and_eq_false_imp,
    decide_eq_true_eq, decide_eq_false_iff_not]
  omega

theorem writableMembers_cancelled
    {requestId : Text} (valid : isRequestId requestId = true)
    {generation : Nat} (printable : Printable generation) :
    WritableMembers (cancelledReceipt requestId generation).members := by
  have short : (decimalText 0).length ≤ intMaxStrDigits := by decide
  simp only [SchedulerTerminalReceipt.members, cancelledReceipt,
    unsealedReceipt, WritableMembers, Writable, digestsDict, optionalText,
    List.insertionSort, List.foldr_nil, List.map_nil, scalars_text,
    scalars_requestId valid, RuntimeRunStatus.value, true_and, and_true]
  exact ⟨by simpa [Printable] using printable, by simpa using short⟩

theorem cancelledReceipt_written
    {requestId : Text} (valid : isRequestId requestId = true)
    {generation : Nat} (printable : Printable generation) :
    ∃ bound data,
      (cancelledReceipt requestId generation).withId = .ok bound ∧
        dumps bound.toDict = .ok data := by
  set receipt := cancelledReceipt requestId generation with isReceipt
  have writable : WritableMembers receipt.members :=
    writableMembers_cancelled valid printable
  obtain ⟨blob, blobDumps⟩ : ∃ blob,
      dumps receipt.toDictWithoutId = .ok blob :=
    dumps_of_writable writable
  have computed : objectId receipt.toDictWithoutId =
      .ok (objectIdPrefix ++ sha256 blob) := by
    rw [objectId_toDictWithoutId, blobDumps]
    rfl
  have bound : receipt.withId = .ok { receipt with
      terminalReceiptId := some (objectIdPrefix ++ sha256 blob) } := by
    have unset : receipt.terminalReceiptId = none := rfl
    rw [SchedulerTerminalReceipt.withId, unset]
    simp only [computed]
    rfl
  obtain ⟨data, dataDumps⟩ : ∃ data,
      dumps (SchedulerTerminalReceipt.toDict { receipt with
        terminalReceiptId := some (objectIdPrefix ++ sha256 blob) }) =
          .ok data :=
    dumps_of_writable (writableMembers_append.mpr ⟨writable,
      scalars_text _, scalars_objectId computed, trivial⟩)
  exact ⟨_, data, bound, dataDumps⟩

theorem cancelledReceipt_refused
    (requestId : Text) {generation : Nat}
    (unprintable : ¬ Printable generation) :
    ∃ error,
      (cancelledReceipt requestId generation).withId = .error error := by
  set receipt := cancelledReceipt requestId generation with isReceipt
  have noText : dumpText receipt.toDictWithoutId = none := by
    have noNumber : dumpText (.int generation) = none :=
      if_neg (by simpa [Printable] using unprintable)
    have noMembers : dumpMembers receipt.members = none := by
      simp only [SchedulerTerminalReceipt.members, isReceipt,
        cancelledReceipt, unsealedReceipt, dumpMembers, noNumber]
      simp [dumpText]
    rw [SchedulerTerminalReceipt.toDictWithoutId, dumpText, noMembers]
    rfl
  have refused : dumps receipt.toDictWithoutId =
      .error (raised .canonicalJsonError
        "value is not canonical-JSON serializable") := by
    rw [dumps, noText]
  have unset : receipt.terminalReceiptId = none := rfl
  refine ⟨raised .canonicalJsonError
    "value is not canonical-JSON serializable", ?_⟩
  rw [SchedulerTerminalReceipt.withId, unset]
  simp only [objectId_toDictWithoutId, refused]
  rfl

end ScientificResourceLab.Scheduler
