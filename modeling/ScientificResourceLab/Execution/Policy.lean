import ScientificResourceLab.Scheduler.Records
import ScientificResourceLab.Python.Printing
import ScientificResourceLab.Steps.Fallible

/-!
# Loading a resource policy

`_validate_policy_dict` reads a decoded document into the policy that a
dispatch works with.  The exception envelope of a policy that was loaded is
within absolute caps, whatever the document says, so an estimate that the
policy admits is within the default envelope or within the caps.

A refusal is a `PolicyError`; it is kept as its message.
-/

namespace ScientificResourceLab.Execution

open Python Steps
open Scheduler (Envelope ResourcePolicy ResourceEstimate within
  admitEstimate)

/-! ## Fields -/

/-- `RESOURCE_POLICY_SCHEMA_VERSION`. -/
def resourcePolicySchemaVersion : Text :=
  text "ResourcePolicy/v1"

/-- `_EXCEPTION_CAPS`, in the order of the dictionary. -/
def exceptionCaps : List (Text × (Envelope → Nat) × Nat) :=
  [(text "cpu_cores", Envelope.cpuCores, 2),
    (text "rss_bytes", Envelope.rssBytes, 2 * 1024 ^ 3),
    (text "wall_seconds", Envelope.wallSeconds, 900)]

/-- `_EXCEPTION_FIELDS`. -/
def exceptionFields : List Text :=
  [text "cpu_cores", text "rss_bytes", text "scratch_bytes",
    text "wall_seconds"]

/-- `_as_int`. -/
def asInt (value : Json) (field : Text) : Except Text Int :=
  match value with
  | .int number => .ok number
  | other => .error (text "policy field " ++ quoted field ++
      text " must be an int, got " ++ typeName other)

/-- `_as_non_negative_int`. -/
def asNonNegativeInt (value : Json) (field : Text) : Except Text Nat := do
  let number ← asInt value field
  if number < 0 then
    .error (text "policy field " ++ quoted field ++
      text " must be >= 0, got " ++ intText number)
  else .ok number.toNat

/-- `_as_bool`. -/
def asBool (value : Json) (field : Text) : Except Text Bool :=
  match value with
  | .bool flag => .ok flag
  | other => .error (text "policy field " ++ quoted field ++
      text " must be a bool, got " ++ typeName other)

/-- `_as_str`. -/
def asStr (value : Json) (field : Text) : Except Text Text :=
  match value with
  | .str (first :: rest) => .ok (first :: rest)
  | _ => .error (text "policy field " ++ quoted field ++
      text " must be a non-empty string")

/-! ## Envelopes -/

/-- The four fields of an envelope, named with a prefix in messages. -/
def readEnvelope (named : Text → Text) (members : List (Text × Json)) :
    Except Text Envelope := do
  let read (field : Text) :=
    asNonNegativeInt (getOrNone field members) (named field)
  let cpuCores ← read (text "cpu_cores")
  let rssBytes ← read (text "rss_bytes")
  let scratchBytes ← read (text "scratch_bytes")
  let wallSeconds ← read (text "wall_seconds")
  pure { cpuCores, rssBytes, scratchBytes, wallSeconds }

/-- One absolute cap in `_validate_exception`. -/
def checkCap (envelope : Envelope)
    (cap : Text × (Envelope → Nat) × Nat) : Except Text Unit :=
  refuseIf (cap.2.1 envelope > cap.2.2)
    (text "policy exception." ++ cap.1 ++ text "=" ++
      decimalText (cap.2.1 envelope) ++
      text " exceeds the absolute cap " ++ decimalText cap.2.2 ++
      text ("; the exception envelope may not be widened beyond its " ++
        "bounds"))

/-- The loop over `_EXCEPTION_CAPS`. -/
def checkCaps (envelope : Envelope) :
    List (Text × (Envelope → Nat) × Nat) → Except Text Unit
  | [] => .ok ()
  | cap :: rest => do
      checkCap envelope cap
      checkCaps envelope rest

/-- `_validate_exception`. -/
def validateException (exception : Json) (default : Envelope) :
    Except Text Envelope :=
  match exception with
  | .obj members => do
      let actualKeys := members.map Prod.fst
      let missing :=
        exceptionFields.filter fun field => field ∉ actualKeys
      refuseIf (missing ≠ [])
        (text "policy exception missing key(s): " ++ quotedList missing)
      let extra := (actualKeys.dedup.filter fun key =>
        key ∉ exceptionFields).insertionSort (· ≤ ·)
      refuseIf (extra ≠ [])
        (text "policy exception has unexpected key(s): " ++
          quotedList extra)
      let envelope ← readEnvelope
        (fun field => text "exception." ++ field) members
      checkCaps envelope exceptionCaps
      refuseIf (envelope.scratchBytes > default.scratchBytes)
        (text "policy exception.scratch_bytes=" ++
          decimalText envelope.scratchBytes ++
          text " exceeds the default scratch_bytes=" ++
          decimalText default.scratchBytes ++
          text "; scratch is never widened by the exception")
      pure envelope
  | _ => .error (text "policy field 'exception' must be an object")

/-! ## The document -/

/-- The schema version in `_validate_policy_dict`. -/
def checkSchemaVersion (version : Json) : Except Text Unit :=
  let refusal := text "policy schema_version is " ++ reprJson version ++
    text ", expected " ++ quoted resourcePolicySchemaVersion
  match version with
  | .str found => refuseIf (found ≠ resourcePolicySchemaVersion) refusal
  | _ => .error refusal

/-- `_validate_policy_dict`. -/
def validatePolicyDict (doc : List (Text × Json)) :
    Except Text ResourcePolicy := do
  let get (field : Text) := getOrNone field doc
  checkSchemaVersion (get (text "schema_version"))
  let _ ← asNonNegativeInt (get (text "concurrency"))
    (text "concurrency")
  let default ← readEnvelope id doc
  let requiredFreeDiskBytes ← asNonNegativeInt
    (get (text "required_free_disk_bytes"))
    (text "required_free_disk_bytes")
  let canonicalWrites ← asInt (get (text "canonical_writes"))
    (text "canonical_writes")
  refuseIf (canonicalWrites ≠ 0)
    (text "policy canonical_writes must be 0 (safety const), got " ++
      intText canonicalWrites)
  let grantsAuthority ← asBool (get (text "grants_authority"))
    (text "grants_authority")
  refuseIf (grantsAuthority = true)
    (text ("policy grants_authority must be false " ++
      "(a resource policy never grants authority)"))
  let _ ← asStr (get (text "name")) (text "name")
  let _ ← asStr (get (text "overflow_action")) (text "overflow_action")
  let exception ← validateException (get (text "exception")) default
  pure { default, exception, requiredFreeDiskBytes }

/-! ## What a loaded policy can admit -/

/-- An envelope within the absolute caps and the default scratch. -/
structure Capped (default envelope : Envelope) : Prop where
  cpuCores : envelope.cpuCores ≤ 2
  rssBytes : envelope.rssBytes ≤ 2 * 1024 ^ 3
  wallSeconds : envelope.wallSeconds ≤ 900
  scratchBytes : envelope.scratchBytes ≤ default.scratchBytes

theorem le_of_checkCaps
    {envelope : Envelope} {caps : List (Text × (Envelope → Nat) × Nat)}
    {value : Unit} (checked : checkCaps envelope caps = .ok value) :
    ∀ cap ∈ caps, cap.2.1 envelope ≤ cap.2.2 := by
  induction caps with
  | nil => intro cap isCap; cases isCap
  | cons first rest induction =>
      rcases bind_eq_ok_iff.mp checked with ⟨_, one, others⟩
      rw [checkCap, refuseIf_eq_ok_iff, gt_iff_lt, not_lt] at one
      intro cap isCap
      rcases List.mem_cons.mp isCap with rfl | isLater
      · exact one
      · exact induction others cap isLater

theorem capped_of_validateException
    {exception : Json} {default envelope : Envelope}
    (valid : validateException exception default = .ok envelope) :
    Capped default envelope := by
  cases exception with
  | obj members =>
      simp only [validateException, bind_eq_ok_iff, refuseIf_eq_ok_iff,
        pure_eq_ok_iff, not_lt, gt_iff_lt] at valid
      rcases valid with
        ⟨-, -, -, -, read, -, _, checked, -, scratch, rfl⟩
      have caps := le_of_checkCaps checked
      simp only [exceptionCaps, List.forall_mem_cons] at caps
      exact ⟨caps.1, caps.2.1, caps.2.2.1, scratch⟩
  | _ => cases valid

theorem capped_of_validatePolicyDict
    {doc : List (Text × Json)} {policy : ResourcePolicy}
    (valid : validatePolicyDict doc = .ok policy) :
    Capped policy.default policy.exception := by
  simp only [validatePolicyDict, bind_eq_ok_iff, pure_eq_ok_iff] at valid
  rcases valid with
    ⟨-, -, -, -, default, -, floor, -, -, -, -, -, -, -, -, -, -, -, -, -,
      exception, bounded, rfl⟩
  exact capped_of_validateException bounded

/-- What an estimate is within when a loaded policy admits it. -/
def WithinLoaded (policy : ResourcePolicy) (estimate : ResourceEstimate)
    (useException : Bool) : Prop :=
  within estimate policy.default = true ∨
    useException = true ∧ estimate.cpuCores ≤ 2 ∧
      estimate.rssBytes ≤ 2 * 1024 ^ 3 ∧ estimate.wallSeconds ≤ 900 ∧
      estimate.scratchBytes ≤ policy.default.scratchBytes

theorem withinLoaded_of_admitEstimate
    {doc : List (Text × Json)} {policy : ResourcePolicy}
    (valid : validatePolicyDict doc = .ok policy)
    {estimate : ResourceEstimate} {useException : Bool}
    (admits : admitEstimate estimate policy useException ≠
      .waitRemoteExecutor) :
    WithinLoaded policy estimate useException := by
  have capped := capped_of_validatePolicyDict valid
  rw [admitEstimate] at admits
  split_ifs at admits with fits excepted
  · exact .inl fits
  · simp only [Bool.and_eq_true, within, decide_eq_true_eq] at excepted
    rcases excepted with ⟨asked, ⟨⟨cores, rss⟩, scratch⟩, wall⟩
    exact .inr ⟨asked, cores.trans capped.cpuCores,
      rss.trans capped.rssBytes, wall.trans capped.wallSeconds,
      scratch.trans capped.scratchBytes⟩
  · exact absurd rfl admits

/-- The document `policies/resource-policy-m1.json`. -/
def resourcePolicyM1 : List (Text × Json) :=
  [(text "canonical_writes", .int 0),
    (text "concurrency", .int 1),
    (text "cpu_cores", .int 1),
    (text "exception", .obj
      [(text "cpu_cores", .int 2),
        (text "rss_bytes", .int 2147483648),
        (text "scratch_bytes", .int 4294967296),
        (text "wall_seconds", .int 900)]),
    (text "grants_authority", .bool false),
    (text "name", .str (text "m1-default")),
    (text "overflow_action", .str (text "WAIT_REMOTE_EXECUTOR")),
    (text "required_free_disk_bytes", .int 21474836480),
    (text "rss_bytes", .int 1610612736),
    (text "schema_version", .str (text "ResourcePolicy/v1")),
    (text "scratch_bytes", .int 4294967296),
    (text "wall_seconds", .int 300)]

/-- The policy that it loads to. -/
def policyM1 : ResourcePolicy where
  default := ⟨1, 1610612736, 4294967296, 300⟩
  exception := ⟨2, 2147483648, 4294967296, 900⟩
  requiredFreeDiskBytes := 21474836480

theorem validatePolicyDict_resourcePolicyM1 :
    validatePolicyDict resourcePolicyM1 = .ok policyM1 := by
  rfl

end ScientificResourceLab.Execution
