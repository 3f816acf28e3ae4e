import Mathlib.Algebra.Order.Field.Basic
import Mathlib.Tactic.Linarith

/-!
# Token buckets

A bucket holds tokens up to a capacity and is refilled at a rate when it is
asked for a token.  The tokens in the bucket are the potential of the usual
argument: what is granted up to some time is paid by the tokens at the start
and by what flowed in since.  In a window of time the start can be taken as
the first request of the window, after its refill, and then the bucket holds
at most its capacity.
-/

namespace ScientificResourceLab.Steps

universe u

/-- The tokens that a bucket held when it was last refilled. -/
structure TokenBucket (𝕜 : Type u) where
  tokens : 𝕜
  clock : 𝕜

namespace TokenBucket

variable {𝕜 : Type u} [Field 𝕜] [LinearOrder 𝕜]
variable (capacity rate : 𝕜)

def refill (now : 𝕜) (bucket : TokenBucket 𝕜) : TokenBucket 𝕜 where
  tokens := min capacity (bucket.tokens + max 0 (now - bucket.clock) * rate)
  clock := now

/-- A bucket grants a token when it holds one after its refill. -/
def grants (now : 𝕜) (bucket : TokenBucket 𝕜) : Prop :=
  1 ≤ (bucket.refill capacity rate now).tokens

instance (now : 𝕜) (bucket : TokenBucket 𝕜) :
    Decidable (grants capacity rate now bucket) :=
  inferInstanceAs (Decidable (1 ≤ _))

/-- The bucket after a request. -/
def ask (now : 𝕜) (bucket : TokenBucket 𝕜) : TokenBucket 𝕜 :=
  if bucket.grants capacity rate now then
    { tokens := (bucket.refill capacity rate now).tokens - 1, clock := now }
  else bucket.refill capacity rate now

/-- The times at which requests are granted. -/
def grantTimes : TokenBucket 𝕜 → List 𝕜 → List 𝕜
  | _, [] => []
  | bucket, now :: later =>
      if bucket.grants capacity rate now then
        now :: grantTimes (bucket.ask capacity rate now) later
      else grantTimes (bucket.ask capacity rate now) later

/-- A bucket that holds no more than its capacity. -/
structure Within (bucket : TokenBucket 𝕜) : Prop where
  nonneg : 0 ≤ bucket.tokens
  le : bucket.tokens ≤ capacity

variable {capacity rate}

@[simp]
theorem refill_clock (now : 𝕜) (bucket : TokenBucket 𝕜) :
    (bucket.refill capacity rate now).clock = now :=
  rfl

@[simp]
theorem ask_clock (now : 𝕜) (bucket : TokenBucket 𝕜) :
    (bucket.ask capacity rate now).clock = now := by
  rw [ask]
  split_ifs <;> rfl

/-- A request that is not granted leaves less than one token. -/
theorem ask_tokens_lt_one
    {now : 𝕜} {bucket : TokenBucket 𝕜}
    (refused : ¬ bucket.grants capacity rate now) :
    (bucket.ask capacity rate now).tokens < 1 := by
  rw [ask, if_neg refused]
  exact not_le.mp refused

/-- Refilling twice at one time is refilling once. -/
@[simp]
theorem refill_refill (now : 𝕜) (bucket : TokenBucket 𝕜) :
    (bucket.refill capacity rate now).refill capacity rate now =
      bucket.refill capacity rate now := by
  simp [refill]

/-- A grant takes one token out of what the refill left. -/
theorem ask_tokens (now : 𝕜) (bucket : TokenBucket 𝕜) :
    (bucket.ask capacity rate now).tokens +
        (if bucket.grants capacity rate now then 1 else 0) =
      (bucket.refill capacity rate now).tokens := by
  rw [ask]
  split_ifs
  · exact sub_add_cancel _ _
  · exact add_zero _

theorem grantTimes_sublist
    (times : List 𝕜) (bucket : TokenBucket 𝕜) :
    (bucket.grantTimes capacity rate times).Sublist times := by
  induction times generalizing bucket with
  | nil => exact List.Sublist.refl _
  | cons now rest induction =>
      rw [grantTimes]
      split_ifs
      · exact (induction _).cons_cons now
      · exact (induction _).cons now

/-- The grants up to a time. -/
def grantsUntil (capacity rate stop : 𝕜) (bucket : TokenBucket 𝕜)
    (times : List 𝕜) : Nat :=
  ((bucket.grantTimes capacity rate times).filter (· ≤ stop)).length

theorem grantsUntil_cons
    {stop now : 𝕜} (inTime : now ≤ stop) (bucket : TokenBucket 𝕜)
    (rest : List 𝕜) :
    (bucket.grantsUntil capacity rate stop (now :: rest) : 𝕜) =
      (if bucket.grants capacity rate now then 1 else 0) +
        (bucket.ask capacity rate now).grantsUntil capacity rate stop
          rest := by
  rw [grantsUntil, grantTimes]
  split_ifs
  · rw [List.filter_cons_of_pos (by simpa using inTime), List.length_cons,
      Nat.cast_succ, add_comm, grantsUntil]
  · rw [zero_add, grantsUntil]

/-- No request after a time is granted before it. -/
theorem grantsUntil_eq_zero
    {stop : 𝕜} {times : List 𝕜} (late : ∀ time ∈ times, stop < time)
    (bucket : TokenBucket 𝕜) :
    bucket.grantsUntil capacity rate stop times = 0 := by
  rw [grantsUntil, List.length_eq_zero_iff, List.filter_eq_nil_iff]
  intro time isGrant
  have isTime := (grantTimes_sublist times bucket).subset isGrant
  simpa using late time isTime

/-- A refill just before a request makes no difference to it. -/
theorem grantTimes_refill
    (now : 𝕜) (rest : List 𝕜) (bucket : TokenBucket 𝕜) :
    (bucket.refill capacity rate now).grantTimes capacity rate
        (now :: rest) =
      bucket.grantTimes capacity rate (now :: rest) := by
  have sameGrant : (bucket.refill capacity rate now).grants capacity rate
      now ↔ bucket.grants capacity rate now := by
    rw [grants, grants, refill_refill]
  have sameBucket : (bucket.refill capacity rate now).ask capacity rate
      now = bucket.ask capacity rate now := by
    simp only [ask, sameGrant, refill_refill]
  simp only [grantTimes, sameGrant, sameBucket]

/-! ## Bounds -/

variable [IsStrictOrderedRing 𝕜]

theorem within_refill
    (positive : 0 ≤ capacity) (flows : 0 ≤ rate) (now : 𝕜)
    {bucket : TokenBucket 𝕜} (within : bucket.Within capacity) :
    (bucket.refill capacity rate now).Within capacity where
  nonneg := le_min positive (add_nonneg within.nonneg
    (mul_nonneg (le_max_left _ _) flows))
  le := min_le_left _ _

/-- A request keeps a bucket within its capacity. -/
theorem within_ask
    (positive : 0 ≤ capacity) (flows : 0 ≤ rate) (now : 𝕜)
    {bucket : TokenBucket 𝕜} (within : bucket.Within capacity) :
    (bucket.ask capacity rate now).Within capacity := by
  have filled := within_refill positive flows now within
  rw [ask]
  split_ifs with granted
  · constructor
    · exact sub_nonneg.mpr granted
    · exact (sub_le_self _ zero_le_one).trans filled.le
  · exact filled

/-- What flows in is no more than the rate allows. -/
theorem refill_tokens_le
    {now : 𝕜} {bucket : TokenBucket 𝕜} (later : bucket.clock ≤ now) :
    (bucket.refill capacity rate now).tokens ≤
      bucket.tokens + (now - bucket.clock) * rate := by
  apply (min_le_right _ _).trans
  rw [max_eq_right (sub_nonneg.mpr later)]

theorem grants_iff_elapsed
    (room : 1 ≤ capacity) (flows : 0 < rate) {now : 𝕜}
    {bucket : TokenBucket 𝕜} (later : bucket.clock ≤ now) :
    bucket.grants capacity rate now ↔
      bucket.clock + (1 - bucket.tokens) / rate ≤ now := by
  rw [grants, refill, max_eq_right (sub_nonneg.mpr later), le_min_iff,
    and_iff_right room, ← le_sub_iff_add_le', div_le_iff₀ flows,
    sub_le_iff_le_add']

/-! ## Windows -/

/-- The grants up to some time are paid by the tokens and the inflow. -/
theorem grantsUntil_le
    (positive : 0 ≤ capacity) (flows : 0 ≤ rate) {stop : 𝕜}
    {times : List 𝕜} {bucket : TokenBucket 𝕜}
    (within : bucket.Within capacity) (ordered : times.Pairwise (· ≤ ·))
    (later : ∀ time ∈ times, bucket.clock ≤ time)
    (ahead : bucket.clock ≤ stop) :
    (bucket.grantsUntil capacity rate stop times : 𝕜) ≤
      bucket.tokens + (stop - bucket.clock) * rate := by
  have paid : 0 ≤ bucket.tokens + (stop - bucket.clock) * rate :=
    add_nonneg within.nonneg (mul_nonneg (sub_nonneg.mpr ahead) flows)
  induction times generalizing bucket with
  | nil => simpa [grantsUntil, grantTimes] using paid
  | cons now rest induction =>
      obtain ⟨first, others⟩ := List.pairwise_cons.mp ordered
      by_cases inTime : now ≤ stop
      · have inflow := @refill_tokens_le _ _ _ capacity rate _ _ _
          (later now List.mem_cons_self)
        have taken := @ask_tokens _ _ _ capacity rate now bucket
        have kept := within_ask positive flows now within
        have rest_le := induction kept others
          (by simpa using first) (by simpa using inTime)
          (add_nonneg kept.nonneg (mul_nonneg
            (sub_nonneg.mpr (by simpa using inTime)) flows))
        rw [grantsUntil_cons inTime]
        rw [ask_clock] at rest_le
        linarith
      · have late : ∀ time ∈ now :: rest, stop < time := by
          intro time isTime
          rcases List.mem_cons.mp isTime with rfl | inRest
          · exact not_le.mp inTime
          · exact (not_le.mp inTime).trans_le (first time inRest)
        rw [grantsUntil_eq_zero late, Nat.cast_zero]
        exact paid

/-- The grants in a window. -/
def grantsBetween (capacity rate start stop : 𝕜)
    (bucket : TokenBucket 𝕜) (times : List 𝕜) : Nat :=
  ((bucket.grantTimes capacity rate times).filter fun time =>
    start ≤ time ∧ time ≤ stop).length

/--
In a window a bucket grants at most its capacity and what flows in meanwhile.
-/
theorem grantsBetween_le
    (positive : 0 ≤ capacity) (flows : 0 ≤ rate) {start stop : 𝕜}
    (window : start ≤ stop) {times : List 𝕜} {bucket : TokenBucket 𝕜}
    (within : bucket.Within capacity)
    (ordered : times.Pairwise (· ≤ ·)) :
    (bucket.grantsBetween capacity rate start stop times : 𝕜) ≤
      capacity + (stop - start) * rate := by
  have paid : 0 ≤ capacity + (stop - start) * rate :=
    add_nonneg positive (mul_nonneg (sub_nonneg.mpr window) flows)
  induction times generalizing bucket with
  | nil => simpa [grantsBetween, grantTimes] using paid
  | cons now rest induction =>
      obtain ⟨first, others⟩ := List.pairwise_cons.mp ordered
      by_cases inside : start ≤ now
      · have after : ∀ time ∈ now :: rest, now ≤ time := by
          simpa using first
        -- From here on the window is open only to the right.
        have half : bucket.grantsBetween capacity rate start stop
            (now :: rest) =
          (bucket.refill capacity rate now).grantsUntil capacity rate stop
            (now :: rest) := by
          rw [grantsBetween, grantsUntil, grantTimes_refill]
          congr 1
          apply List.filter_congr
          intro time isGrant
          have isTime := (grantTimes_sublist _ bucket).subset isGrant
          simp [inside.trans (after time isTime)]
        rw [half]
        by_cases inTime : now ≤ stop
        · have filled := within_refill positive flows now within
          have bound := grantsUntil_le positive flows filled ordered after
            inTime
          have shorter : (stop - now) * rate ≤ (stop - start) * rate :=
            mul_le_mul_of_nonneg_right (by linarith) flows
          have full := filled.le
          rw [refill_clock] at bound
          linarith
        · have late : ∀ time ∈ now :: rest, stop < time :=
            fun time isTime =>
              (not_le.mp inTime).trans_le (after time isTime)
          rw [grantsUntil_eq_zero late, Nat.cast_zero]
          exact paid
      · have skipped : bucket.grantsBetween capacity rate start stop
            (now :: rest) =
          (bucket.ask capacity rate now).grantsBetween capacity rate start
            stop rest := by
          rw [grantsBetween, grantTimes]
          split_ifs
          · rw [List.filter_cons_of_neg (by simp [inside]), grantsBetween]
          · rw [grantsBetween]
        rw [skipped]
        exact induction (within_ask positive flows now within) others

end TokenBucket

end ScientificResourceLab.Steps
