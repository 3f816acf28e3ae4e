import Mathlib.Algebra.Order.Group.Int
import ScientificResourceLab.Python.Sha256
import ScientificResourceLab.Steps.CappedGrowth
import ScientificResourceLab.Transport.Identity

/-!
# The retry schedule

`RetryPolicy` and `deterministic_retry_delays`.  The delays double from the
base, are capped, are moved by a jitter below the base, and are capped again.
The jitter comes from the first byte of a hash of the message id and the
attempt; that byte is an argument here, so what is proved of the schedule
does not rest on the hash.
-/

namespace ScientificResourceLab.Transport

open Python Contracts Steps

/-! ## The policy -/

/-- `_MIN_RETRY_SECONDS` and `_MAX_RETRY_SECONDS`. -/
def minRetrySeconds : Int := 1

def maxRetrySeconds : Int := 3600

/-- A `RetryPolicy` that its `__post_init__` lets through. -/
structure RetryPolicy where
  maxAttempts : Int
  baseSeconds : Int
  maxDelaySeconds : Int
  attempts_nonneg : 0 ≤ maxAttempts
  base_atLeast : minRetrySeconds ≤ baseSeconds
  base_le_maxDelay : baseSeconds ≤ maxDelaySeconds
  maxDelay_atMost : maxDelaySeconds ≤ maxRetrySeconds

/-- The constructor of `RetryPolicy`. -/
def retryPolicy (maxAttempts baseSeconds maxDelaySeconds : Int) :
    Except PyError RetryPolicy :=
  if negative : maxAttempts < 0 then
    .error (raised .spoolError "max_attempts must be non-negative")
  else if low : baseSeconds < minRetrySeconds then
    .error (raised .spoolError "base_seconds must be at least 1")
  else if inverted : maxDelaySeconds < baseSeconds then
    .error (raised .spoolError "max_delay_seconds must be >= base_seconds")
  else if high : maxDelaySeconds > maxRetrySeconds then
    .error (raised .spoolError "max_delay_seconds must be <= 3600")
  else
    .ok
      { maxAttempts, baseSeconds, maxDelaySeconds
        attempts_nonneg := Int.not_lt.mp negative
        base_atLeast := Int.not_lt.mp low
        base_le_maxDelay := Int.not_lt.mp inverted
        maxDelay_atMost := Int.not_lt.mp high }

/-! ## The schedule -/

/-- The first byte of `hashlib.sha256(content).digest()`. -/
def firstDigestByte (content : Bytes) : UInt8 :=
  (sha256Digest content).headD 0

section Schedule

variable (firstByte : Bytes → UInt8)

/-- `f"{message_id}:{attempt}".encode()`. -/
def attemptContent (messageId : Text) (attempt : Nat) :
    Except PyError Bytes :=
  match utf8Encode (messageId ++ text ":" ++ decimalText attempt) with
  | some content => .ok content
  | none => .error (raised .unicodeEncodeError "surrogates not allowed")

/-- One turn of the loop of `deterministic_retry_delays`. -/
def retryDelay (policy : RetryPolicy) (messageId : Text) (attempt : Nat) :
    Except PyError Int := do
  let exponential := policy.baseSeconds * 2 ^ attempt
  let capped := min exponential policy.maxDelaySeconds
  let content ← attemptContent messageId attempt
  let jitter :=
    ((firstByte content).toNat : Int) % max policy.baseSeconds 1
  pure (min (capped + jitter) policy.maxDelaySeconds)

/-- `deterministic_retry_delays`. -/
def deterministicRetryDelays (messageId : Text) (policy : RetryPolicy) :
    Except PyError (List Int) := do
  let _ ← validateObjectId messageId
  (List.range policy.maxAttempts.toNat).mapM
    (retryDelay firstByte policy messageId)

end Schedule

/-! ## Every schedule -/

variable {firstByte : Bytes → UInt8} {policy : RetryPolicy}
    {messageId : Text}

theorem RetryPolicy.base_pos (policy : RetryPolicy) :
    0 < policy.baseSeconds :=
  lt_of_lt_of_le Int.one_pos policy.base_atLeast

/-- An object id is ASCII, so its attempts have an encoding. -/
theorem attemptContent_of_isObjectId
    (shaped : isObjectId messageId = true) (attempt : Nat) :
    ∃ content, attemptContent messageId attempt = .ok content := by
  have scalars :
      Scalars (messageId ++ text ":" ++ decimalText attempt) :=
    scalars_append.mpr
      ⟨scalars_append.mpr ⟨scalars_of_isObjectId shaped, scalars_text _⟩,
        scalars_decimalText attempt⟩
  rcases utf8Encode_of_scalars scalars with ⟨content, encodes⟩
  exact ⟨content, by rw [attemptContent, encodes]⟩

/-- The jitter of an attempt, in seconds. -/
def jitterOf (firstByte : Bytes → UInt8) (policy : RetryPolicy)
    (messageId : Text) (attempt : Nat) : Int :=
  match attemptContent messageId attempt with
  | .ok content =>
      ((firstByte content).toNat : Int) % max policy.baseSeconds 1
  | .error _ => 0

theorem jitterOf_nonneg (attempt : Nat) :
    0 ≤ jitterOf firstByte policy messageId attempt := by
  have positive : 0 < max policy.baseSeconds 1 :=
    lt_max_of_lt_right Int.one_pos
  rw [jitterOf]
  split
  · exact Int.emod_nonneg _ (ne_of_gt positive)
  · exact le_refl 0

/-- The jitter stays below the base. -/
theorem jitterOf_le (attempt : Nat) :
    jitterOf firstByte policy messageId attempt ≤
      policy.baseSeconds - 1 := by
  have atLeast : max policy.baseSeconds 1 = policy.baseSeconds :=
    max_eq_left policy.base_atLeast
  rw [jitterOf, atLeast]
  split
  · exact Int.le_sub_one_of_lt (Int.emod_lt_of_pos _ policy.base_pos)
  · exact Int.le_sub_one_of_lt policy.base_pos

/-- The doubling base is never below the base. -/
theorem base_le_doubled (attempt : Nat) :
    policy.baseSeconds ≤ policy.baseSeconds * 2 ^ attempt :=
  le_mul_of_one_le_right policy.base_pos.le (one_le_pow₀ one_le_two)

/-- One doubling makes up for any jitter. -/
theorem doubled_add_le (attempt : Nat) :
    policy.baseSeconds * 2 ^ attempt + (policy.baseSeconds - 1) ≤
      policy.baseSeconds * 2 ^ (attempt + 1) := by
  calc
    policy.baseSeconds * 2 ^ attempt + (policy.baseSeconds - 1) ≤
        policy.baseSeconds * 2 ^ attempt +
          policy.baseSeconds * 2 ^ attempt :=
      add_le_add_right
        ((Int.sub_le_self _ Int.one_nonneg).trans (base_le_doubled attempt))
        _
    _ = policy.baseSeconds * 2 ^ (attempt + 1) := by ring

theorem retryDelay_of_isObjectId
    (shaped : isObjectId messageId = true) (attempt : Nat) :
    retryDelay firstByte policy messageId attempt =
      .ok (cappedGrowth (fun index => policy.baseSeconds * 2 ^ index)
        (jitterOf firstByte policy messageId) policy.maxDelaySeconds
        attempt) := by
  rcases attemptContent_of_isObjectId shaped attempt with
    ⟨content, encodes⟩
  rw [retryDelay, cappedGrowth, jitterOf, encodes]
  rfl

/-- The whole schedule of an accepted message id. -/
theorem deterministicRetryDelays_of_isObjectId
    (shaped : isObjectId messageId = true) :
    deterministicRetryDelays firstByte messageId policy =
      .ok ((List.range policy.maxAttempts.toNat).map
        (cappedGrowth (fun index => policy.baseSeconds * 2 ^ index)
          (jitterOf firstByte policy messageId)
          policy.maxDelaySeconds)) := by
  rw [deterministicRetryDelays,
    validateObjectId_eq_ok.mpr ⟨rfl, shaped⟩]
  exact mapM_of_forall_ok fun attempt _ =>
    retryDelay_of_isObjectId shaped attempt

/-- Message ids that are not object ids are refused. -/
theorem isObjectId_of_retryDelays {delays : List Int}
    (returned :
      deterministicRetryDelays firstByte messageId policy = .ok delays) :
    isObjectId messageId = true := by
  rw [deterministicRetryDelays, bind_eq_ok_iff] at returned
  rcases returned with ⟨id, validated, _⟩
  rcases validateObjectId_eq_ok.mp validated with ⟨rfl, shaped⟩
  exact shaped

/-- Every schedule has one delay for each attempt, within the bounds of the
policy and never decreasing, whatever the bytes of the hash are; and every
object id has a schedule. -/
theorem retryDelays_bounded_and_sorted
    (firstByte : Bytes → UInt8) (policy : RetryPolicy)
    (messageId : Text) :
    (isObjectId messageId = true ↔
        ∃ delays, deterministicRetryDelays firstByte messageId policy =
          .ok delays) ∧
      ∀ delays, deterministicRetryDelays firstByte messageId policy =
          .ok delays →
        (delays.length : Int) = policy.maxAttempts ∧
          (∀ delay ∈ delays, policy.baseSeconds ≤ delay ∧
            delay ≤ policy.maxDelaySeconds) ∧
          delays.Pairwise (· ≤ ·) := by
  constructor
  · constructor
    · intro shaped
      exact ⟨_, deterministicRetryDelays_of_isObjectId shaped⟩
    · rintro ⟨delays, returned⟩
      exact isObjectId_of_retryDelays returned
  · intro delays returned
    have computed :
        deterministicRetryDelays firstByte messageId policy = .ok _ :=
      deterministicRetryDelays_of_isObjectId
        (isObjectId_of_retryDelays returned)
    rw [returned] at computed
    cases computed
    refine ⟨?_, ?_, ?_⟩
    · rw [List.length_map, List.length_range]
      exact Int.toNat_of_nonneg policy.attempts_nonneg
    · intro delay isDelay
      rcases List.mem_map.mp isDelay with ⟨attempt, _, rfl⟩
      constructor
      · exact le_cappedGrowth base_le_doubled policy.base_le_maxDelay
          jitterOf_nonneg attempt
      · exact cappedGrowth_le_cap attempt
    · have monotone :
          Monotone (cappedGrowth (fun index => policy.baseSeconds * 2 ^ index)
            (jitterOf firstByte policy messageId)
            policy.maxDelaySeconds) :=
        cappedGrowth_monotone doubled_add_le jitterOf_nonneg jitterOf_le
      exact List.pairwise_lt_range.map _ fun first second before =>
        monotone (le_of_lt before)

end ScientificResourceLab.Transport
