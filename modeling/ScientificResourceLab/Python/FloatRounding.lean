import ScientificResourceLab.Python.Float64
import Mathlib.Algebra.Order.Field.Basic
import Mathlib.Algebra.Order.Field.Power
import Mathlib.Algebra.Order.Field.Rat
import Mathlib.Tactic.Linarith
import Mathlib.Tactic.NormNum
import Mathlib.Tactic.Ring
import Mathlib.Tactic.FieldSimp

/-!
# Rounding to doubles

The rational meaning of the arithmetic in `Float64`.  A ratio of natural
numbers denotes a rational; `ofRatio` depends on that rational only
(`ofRatio_congr`), and it returns a given double for every rational that is
closer to it, relatively, than `2 ^ -54` (`ofRatio_near`).

Seventeen significant digits are that close.  Since the number of digits is
found by trying, this is the one place where the shortest decimal needs an
argument: `ofDecimal_shortestDigits` says that the digits it returns read
back as the double they were taken from.
-/

namespace ScientificResourceLab.Python

namespace Float64

/-! ## Ratios -/

/-- The rational that a ratio denotes. -/
def rational (ratio : Nat × Nat) : ℚ :=
  (ratio.1 : ℚ) / ratio.2

theorem scale_den_pos
    {base : Nat} (base_pos : 0 < base) (power : Int) {ratio : Nat × Nat}
    (den_pos : 0 < ratio.2) : 0 < (scale base power ratio).2 := by
  unfold scale
  split
  · exact den_pos
  · exact Nat.mul_pos den_pos (Nat.pow_pos base_pos)

/-- Scaling multiplies by a power of the base. -/
theorem rational_scale
    {base : Nat} (base_pos : 0 < base) (power : Int)
    (ratio : Nat × Nat) :
    rational (scale base power ratio) =
      rational ratio * (base : ℚ) ^ power := by
  have base_ne : (base : ℚ) ≠ 0 := by positivity
  unfold scale rational
  split
  · next nonneg =>
      obtain ⟨count, rfl⟩ := Int.eq_ofNat_of_zero_le nonneg
      push_cast
      rw [Int.toNat_natCast, zpow_natCast]
      ring
  · next negative =>
      obtain ⟨count, isCount⟩ := Int.eq_ofNat_of_zero_le
        (show 0 ≤ -power by omega)
      rw [isCount, Int.toNat_natCast,
        show power = -(count : Int) by omega, zpow_neg, zpow_natCast]
      push_cast
      rw [div_mul_eq_div_div, div_eq_mul_inv]

/-- A ratio is compared with one through its parts. -/
theorem one_le_rational {ratio : Nat × Nat} (den_pos : 0 < ratio.2) :
    1 ≤ rational ratio ↔ ratio.2 ≤ ratio.1 := by
  unfold rational
  rw [one_le_div (by exact_mod_cast den_pos)]
  exact_mod_cast Iff.rfl

theorem rational_pos {ratio : Nat × Nat} (den_pos : 0 < ratio.2) :
    0 < rational ratio ↔ ratio.1 ≠ 0 := by
  unfold rational
  have den : (0 : ℚ) < ratio.2 := by exact_mod_cast den_pos
  rw [div_pos_iff_of_pos_right den]
  exact_mod_cast Nat.pos_iff_ne_zero

/-- Equal rationals have equal cross products. -/
theorem cross_of_rational_eq
    {first second : Nat × Nat} (firstPos : 0 < first.2)
    (secondPos : 0 < second.2) (same : rational first = rational second) :
    first.1 * second.2 = second.1 * first.2 := by
  unfold rational at same
  have firstNe : (first.2 : ℚ) ≠ 0 := by positivity
  have secondNe : (second.2 : ℚ) ≠ 0 := by positivity
  rw [div_eq_div_iff firstNe secondNe] at same
  exact_mod_cast same

/-! ## Logarithms -/

/-- The condition that `floorLog` tests. -/
theorem le_scale_iff
    {base : Nat} (base_pos : 0 < base) (power : Int) {ratio : Nat × Nat}
    (den_pos : 0 < ratio.2) :
    (scale base (-power) ratio).2 ≤ (scale base (-power) ratio).1 ↔
      (base : ℚ) ^ power ≤ rational ratio := by
  have positive : (0 : ℚ) < (base : ℚ) ^ power := by positivity
  rw [← one_le_rational (scale_den_pos base_pos _ den_pos),
    rational_scale base_pos, zpow_neg, ← div_eq_mul_inv,
    one_le_div positive]

/-- `floorLog` from an estimate that is off by at most one. -/
theorem floorLog_spec
    {base : Nat} (base_pos : 0 < base) (estimate : Int)
    {ratio : Nat × Nat} (den_pos : 0 < ratio.2)
    (low : (base : ℚ) ^ (estimate - 1) ≤ rational ratio)
    (high : rational ratio < (base : ℚ) ^ (estimate + 2)) :
    (base : ℚ) ^ floorLog base estimate ratio ≤ rational ratio ∧
      rational ratio < (base : ℚ) ^ (floorLog base estimate ratio + 1) := by
  unfold floorLog
  simp only [decide_eq_true_eq, le_scale_iff base_pos _ den_pos]
  split
  · next above =>
      rw [add_assoc]
      exact ⟨above, high⟩
  · next notAbove =>
      split
      · next atLeast => exact ⟨atLeast, not_le.mp notAbove⟩
      · next below =>
          rw [sub_add_cancel]
          exact ⟨low, not_le.mp below⟩

/-- Two steps of `floorLog` from an estimate that is off by at most two. -/
theorem floorLog_twice_spec
    {base : Nat} (base_gt : 1 < base) (estimate : Int)
    {ratio : Nat × Nat} (den_pos : 0 < ratio.2)
    (low : (base : ℚ) ^ (estimate - 2) ≤ rational ratio)
    (high : rational ratio < (base : ℚ) ^ (estimate + 3)) :
    (base : ℚ) ^ floorLog base (floorLog base estimate ratio) ratio ≤
        rational ratio ∧
      rational ratio <
        (base : ℚ) ^
          (floorLog base (floorLog base estimate ratio) ratio + 1) := by
  have base_pos : 0 < base := by omega
  have grows : (1 : ℚ) ≤ base := by exact_mod_cast base_gt.le
  have nearer :
      (base : ℚ) ^ (floorLog base estimate ratio - 1) ≤ rational ratio ∧
        rational ratio <
          (base : ℚ) ^ (floorLog base estimate ratio + 2) := by
    unfold floorLog
    simp only [decide_eq_true_eq, le_scale_iff base_pos _ den_pos]
    split
    · next above =>
        constructor
        · exact (zpow_le_zpow_right₀ grows (by omega)).trans above
        · rwa [show estimate + 1 + 2 = estimate + 3 by ring]
    · next notAbove =>
        split
        · next atLeast =>
            constructor
            · exact (zpow_le_zpow_right₀ grows (by omega)).trans atLeast
            · exact (not_le.mp notAbove).trans_le
                (zpow_le_zpow_right₀ grows (by omega))
        · next below =>
            constructor
            · rwa [show estimate - 1 - 1 = estimate - 2 by ring]
            · exact (not_le.mp below).trans_le
                (zpow_le_zpow_right₀ grows (by omega))
  exact floorLog_spec base_pos _ den_pos nearer.1 nearer.2

/-- The power of a number between two powers is unique. -/
theorem power_unique
    {base : ℚ} (base_gt : 1 < base) {value : ℚ} {first second : Int}
    (firstLow : base ^ first ≤ value)
    (firstHigh : value < base ^ (first + 1))
    (secondLow : base ^ second ≤ value)
    (secondHigh : value < base ^ (second + 1)) :
    first = second := by
  have below : first < second + 1 :=
    (zpow_lt_zpow_iff_right₀ base_gt).mp (firstLow.trans_lt secondHigh)
  have above : second < first + 1 :=
    (zpow_lt_zpow_iff_right₀ base_gt).mp (secondLow.trans_lt firstHigh)
  omega

def binaryEstimate (ratio : Nat × Nat) : Int :=
  (Nat.log2 ratio.1 : Int) - Nat.log2 ratio.2

/-- A ratio lies within a factor of two of its binary estimate. -/
theorem rational_between
    {ratio : Nat × Nat} (num_ne : ratio.1 ≠ 0) (den_pos : 0 < ratio.2) :
    (2 : ℚ) ^ (binaryEstimate ratio - 1) ≤ rational ratio ∧
      rational ratio < (2 : ℚ) ^ (binaryEstimate ratio + 1) := by
  have numLow : (2 : ℚ) ^ Nat.log2 ratio.1 ≤ ratio.1 := by
    exact_mod_cast Nat.log2_self_le num_ne
  have numHigh : (ratio.1 : ℚ) < 2 ^ (Nat.log2 ratio.1 + 1) := by
    exact_mod_cast Nat.lt_log2_self
  have denLow : (2 : ℚ) ^ Nat.log2 ratio.2 ≤ ratio.2 := by
    exact_mod_cast Nat.log2_self_le den_pos.ne'
  have denHigh : (ratio.2 : ℚ) < 2 ^ (Nat.log2 ratio.2 + 1) := by
    exact_mod_cast Nat.lt_log2_self
  have den : (0 : ℚ) < ratio.2 := by exact_mod_cast den_pos
  unfold rational binaryEstimate
  constructor
  · rw [le_div_iff₀ den]
    calc
      (2 : ℚ) ^ ((Nat.log2 ratio.1 : Int) - Nat.log2 ratio.2 - 1) *
            ratio.2 ≤
          (2 : ℚ) ^ ((Nat.log2 ratio.1 : Int) - Nat.log2 ratio.2 - 1) *
            2 ^ (Nat.log2 ratio.2 + 1) := by
        gcongr
      _ = (2 : ℚ) ^ Nat.log2 ratio.1 := by
        rw [← zpow_natCast, ← zpow_natCast, ← zpow_add₀ two_ne_zero]
        congr 1
        push_cast
        ring
      _ ≤ ratio.1 := numLow
  · rw [div_lt_iff₀ den]
    calc
      (ratio.1 : ℚ) < 2 ^ (Nat.log2 ratio.1 + 1) := numHigh
      _ = (2 : ℚ) ^ ((Nat.log2 ratio.1 : Int) - Nat.log2 ratio.2 + 1) *
            2 ^ Nat.log2 ratio.2 := by
        rw [← zpow_natCast, ← zpow_natCast, ← zpow_add₀ two_ne_zero]
        congr 1
        push_cast
        ring
      _ ≤ (2 : ℚ) ^ ((Nat.log2 ratio.1 : Int) - Nat.log2 ratio.2 + 1) *
            ratio.2 := by
        gcongr

/-- The binary logarithm of a ratio is exact. -/
theorem floorLog_binary
    {ratio : Nat × Nat} (num_ne : ratio.1 ≠ 0) (den_pos : 0 < ratio.2) :
    (2 : ℚ) ^ floorLog 2 (binaryEstimate ratio) ratio ≤ rational ratio ∧
      rational ratio <
        (2 : ℚ) ^ (floorLog 2 (binaryEstimate ratio) ratio + 1) := by
  obtain ⟨low, high⟩ := rational_between num_ne den_pos
  refine floorLog_spec Nat.two_pos _ den_pos low (high.trans_le ?_)
  exact zpow_le_zpow_right₀ one_le_two (by omega)

/-! ## Rounding to integers -/

theorem roundHalfEven_mul
    (num den : Nat) {factor : Nat} (positive : 0 < factor) :
    roundHalfEven (num * factor) (den * factor) =
      roundHalfEven num den := by
  unfold roundHalfEven
  simp only [Nat.mul_div_mul_right _ _ positive,
    Nat.mul_mod_mul_right, ← mul_assoc,
    Nat.mul_lt_mul_right positive, Nat.mul_left_inj positive.ne']

/-- Rounding depends on the rational only. -/
theorem roundHalfEven_congr
    {first second : Nat × Nat} (firstPos : 0 < first.2)
    (secondPos : 0 < second.2) (same : rational first = rational second) :
    roundHalfEven first.1 first.2 = roundHalfEven second.1 second.2 := by
  have cross := cross_of_rational_eq firstPos secondPos same
  calc
    roundHalfEven first.1 first.2 =
        roundHalfEven (first.1 * second.2) (first.2 * second.2) :=
      (roundHalfEven_mul _ _ secondPos).symm
    _ = roundHalfEven (second.1 * first.2) (second.2 * first.2) := by
      rw [cross, Nat.mul_comm first.2]
    _ = roundHalfEven second.1 second.2 := roundHalfEven_mul _ _ firstPos

/-- Rounding moves a ratio by at most one half. -/
theorem roundHalfEven_error
    (num : Nat) {den : Nat} (den_pos : 0 < den) :
    |(roundHalfEven num den : ℚ) - num / den| ≤ 1 / 2 := by
  have den_pos' : (0 : ℚ) < den := by exact_mod_cast den_pos
  have split : (num : ℚ) = den * (num / den : Nat) + (num % den : Nat) := by
    exact_mod_cast (Nat.div_add_mod num den).symm
  have value : (num : ℚ) / den =
      (num / den : Nat) + ((num % den : Nat) : ℚ) / den := by
    rw [div_eq_iff den_pos'.ne', add_mul, div_mul_cancel₀ _ den_pos'.ne',
      mul_comm]
    exact split
  rw [value]
  have lower : (0 : ℚ) ≤ ((num % den : Nat) : ℚ) / den :=
    div_nonneg (Nat.cast_nonneg _) den_pos'.le
  have upper : ((num % den : Nat) : ℚ) / den < 1 := by
    rw [div_lt_one den_pos']
    exact_mod_cast Nat.mod_lt num den_pos
  unfold roundHalfEven
  dsimp only
  split
  · next down =>
      have half : ((num % den : Nat) : ℚ) / den ≤ 1 / 2 := by
        rw [div_le_iff₀ den_pos']
        have twice : 2 * (num % den) ≤ den := by omega
        have twice' : 2 * ((num % den : Nat) : ℚ) ≤ den := by
          exact_mod_cast twice
        linarith
      rw [abs_le]
      constructor <;> linarith
  · next up =>
      have half : 1 / 2 ≤ ((num % den : Nat) : ℚ) / den := by
        rw [le_div_iff₀ den_pos']
        have twice : den ≤ 2 * (num % den) := by omega
        have twice' : (den : ℚ) ≤ 2 * ((num % den : Nat) : ℚ) := by
          exact_mod_cast twice
        linarith
      push_cast
      rw [abs_le]
      constructor <;> linarith

/-- The only integer within less than one half is the rounded one. -/
theorem roundHalfEven_eq
    {num den target : Nat} (den_pos : 0 < den)
    (close : |(target : ℚ) - num / den| < 1 / 2) :
    roundHalfEven num den = target := by
  have error := roundHalfEven_error num den_pos
  have distance : |(roundHalfEven num den : ℚ) - target| < 1 := by
    calc
      |(roundHalfEven num den : ℚ) - target| ≤
          |(roundHalfEven num den : ℚ) - num / den| +
            |(num : ℚ) / den - target| := abs_sub_le _ _ _
      _ < 1 / 2 + 1 / 2 := by
        rw [abs_sub_comm _ (target : ℚ)]
        exact add_lt_add_of_le_of_lt error close
      _ = 1 := by norm_num
  have integers : |((roundHalfEven num den : Int) - target : Int)| < 1 := by
    exact_mod_cast distance
  have same := Int.abs_lt_one_iff.mp integers
  omega

/-! ## Rounding to doubles -/

/-- The exponent that `ofRatio` scales by. -/
def ratioPower (ratio : Nat × Nat) : Int :=
  max (floorLog 2 (binaryEstimate ratio) ratio) (-1022)

/-- The mantissa that `ofRatio` rounds to. -/
def ratioMantissa (ratio : Nat × Nat) : Nat :=
  roundHalfEven (scale 2 (52 - ratioPower ratio) ratio).1
    (scale 2 (52 - ratioPower ratio) ratio).2

theorem ofRatio_eq
    (negative : Bool) {ratio : Nat × Nat} (num_ne : ratio.1 ≠ 0) :
    ofRatio negative ratio =
      if ratioMantissa ratio < 2 ^ 52 then
        ofParts negative 0 (ratioMantissa ratio)
      else if ratioPower ratio +
          (if ratioMantissa ratio = 2 ^ 53 then 1 else 0) > 1023 then
        infinity negative
      else
        ofParts negative (ratioPower ratio + 1022).toNat
          (ratioMantissa ratio) := by
  rw [ofRatio, if_neg num_ne]
  rfl

theorem ratioPower_congr
    {first second : Nat × Nat} (firstNe : first.1 ≠ 0)
    (firstPos : 0 < first.2) (secondNe : second.1 ≠ 0)
    (secondPos : 0 < second.2) (same : rational first = rational second) :
    ratioPower first = ratioPower second := by
  obtain ⟨firstLow, firstHigh⟩ := floorLog_binary firstNe firstPos
  obtain ⟨secondLow, secondHigh⟩ := floorLog_binary secondNe secondPos
  rw [same] at firstLow firstHigh
  unfold ratioPower
  rw [power_unique one_lt_two firstLow firstHigh secondLow secondHigh]

theorem ratioMantissa_congr
    {first second : Nat × Nat} (firstPos : 0 < first.2)
    (secondPos : 0 < second.2) (same : rational first = rational second)
    (samePower : ratioPower first = ratioPower second) :
    ratioMantissa first = ratioMantissa second := by
  unfold ratioMantissa
  rw [samePower]
  apply roundHalfEven_congr
  · exact scale_den_pos Nat.two_pos _ firstPos
  · exact scale_den_pos Nat.two_pos _ secondPos
  · rw [rational_scale Nat.two_pos, rational_scale Nat.two_pos, same]

/-- The double of a ratio depends on the rational only. -/
theorem ofRatio_congr
    (negative : Bool) {first second : Nat × Nat} (firstPos : 0 < first.2)
    (secondPos : 0 < second.2) (same : rational first = rational second) :
    ofRatio negative first = ofRatio negative second := by
  by_cases zero : first.1 = 0
  · have secondZero : second.1 = 0 := by
      by_contra nonzero
      have positive := (rational_pos secondPos).mpr nonzero
      rw [← same] at positive
      exact (rational_pos firstPos).mp positive zero
    rw [ofRatio, ofRatio, if_pos zero, if_pos secondZero]
  · have secondNe : second.1 ≠ 0 := by
      rw [← rational_pos secondPos, ← same, rational_pos firstPos]
      exact zero
    have samePower := ratioPower_congr zero firstPos secondNe secondPos same
    have sameMantissa :=
      ratioMantissa_congr firstPos secondPos same samePower
    rw [ofRatio_eq negative zero, ofRatio_eq negative secondNe, samePower,
      sameMantissa]

/-- The double of a decimal depends on its rational only. -/
theorem ofDecimal_congr
    (negative : Bool) {first second : Nat} {firstPower secondPower : Int}
    (same : (first : ℚ) * 10 ^ firstPower =
      (second : ℚ) * 10 ^ secondPower) :
    ofDecimal negative first firstPower =
      ofDecimal negative second secondPower := by
  unfold ofDecimal
  apply ofRatio_congr
  · exact scale_den_pos (by decide) _ Nat.one_pos
  · exact scale_den_pos (by decide) _ Nat.one_pos
  · rw [rational_scale (by decide), rational_scale (by decide)]
    simpa [rational] using same

/-! ## Doubles as rationals -/

/-- The integer significand of a finite double. -/
def significand (value : Float64) : Nat :=
  if value.exponent = 0 then value.fraction else 2 ^ 52 + value.fraction

/-- The exponent of a finite double, of its leading place. -/
def leadingPower (value : Float64) : Int :=
  if value.exponent = 0 then -1022 else (value.exponent : Int) - 1023

/-- The magnitude of a finite double. -/
def magnitude (value : Float64) : ℚ :=
  (value.significand : ℚ) * 2 ^ (value.leadingPower - 52)

theorem toRatio_den_pos (value : Float64) : 0 < value.toRatio.2 := by
  unfold toRatio
  split
  · exact Nat.two_pow_pos 1074
  · exact scale_den_pos Nat.two_pos _ Nat.one_pos

theorem rational_toRatio (value : Float64) :
    rational value.toRatio = value.magnitude := by
  unfold toRatio magnitude significand leadingPower
  split
  · unfold rational
    rw [show (-1022 - 52 : Int) = -(1074 : Nat) by norm_num, zpow_neg,
      zpow_natCast]
    push_cast
    rw [div_eq_mul_inv]
  · rw [rational_scale Nat.two_pos]
    unfold rational
    push_cast
    rw [div_one]
    congr 2
    ring

theorem fraction_lt (value : Float64) : value.fraction < 2 ^ 52 :=
  Nat.mod_lt _ (Nat.two_pow_pos 52)

theorem significand_lt (value : Float64) :
    value.significand < 2 ^ 53 := by
  have small := value.fraction_lt
  unfold significand
  split <;> omega

theorem significand_pos
    {value : Float64} (nonzero : value.isZero = false) :
    0 < value.significand := by
  unfold significand
  split
  · next isZero =>
      by_contra zero
      have fraction : value.fraction = 0 := by omega
      simp [Float64.isZero, isZero, fraction] at nonzero
  · omega

theorem leadingPower_ge (value : Float64) :
    -1022 ≤ value.leadingPower := by
  unfold leadingPower
  split <;> omega

theorem leadingPower_le
    {value : Float64} (finite : value.isFinite = true) :
    value.leadingPower ≤ 1023 := by
  have small : value.exponent < 2047 := of_decide_eq_true finite
  unfold leadingPower
  split <;> omega

/-- A double whose leading place is used is not subnormal. -/
theorem significand_ge
    {value : Float64} (normal : -1022 < value.leadingPower) :
    2 ^ 52 ≤ value.significand := by
  unfold leadingPower at normal
  unfold significand
  split
  · next isZero =>
      rw [if_pos isZero] at normal
      omega
  · omega

theorem magnitude_pos
    {value : Float64} (nonzero : value.isZero = false) :
    0 < value.magnitude := by
  have positive : (0 : ℚ) < value.significand := by
    exact_mod_cast significand_pos nonzero
  unfold magnitude
  positivity

/-- A double is put together again from its fields. -/
theorem ofParts_fields (value : Float64) :
    ofParts value.isNegative value.exponent value.fraction = value := by
  obtain ⟨bits⟩ := value
  have small := bits.isLt
  rw [ofParts, mk.injEq]
  apply BitVec.eq_of_toNat_eq
  simp only [isNegative, exponent, fraction, decide_eq_true_eq,
    BitVec.toNat_ofNat]
  split_ifs <;> omega

/-- The implicit leading bit is a unit of the exponent field. -/
theorem ofParts_normal
    {value : Float64} (normal : value.exponent ≠ 0) :
    ofParts value.isNegative (value.exponent - 1)
        (2 ^ 52 + value.fraction) =
      value := by
  have moved (sign : Nat) :
      sign + (value.exponent - 1) * 2 ^ 52 + (2 ^ 52 + value.fraction) =
        sign + value.exponent * 2 ^ 52 + value.fraction := by
    omega
  calc
    ofParts value.isNegative (value.exponent - 1)
          (2 ^ 52 + value.fraction) =
        ofParts value.isNegative value.exponent value.fraction := by
      rw [ofParts, ofParts, moved]
    _ = value := ofParts_fields value

/-! ## Rationals close to a double -/

/-- A mantissa closer than one half is the one that is taken. -/
theorem ratioMantissa_eq
    {ratio : Nat × Nat} (den_pos : 0 < ratio.2) {power : Int}
    (isPower : ratioPower ratio = power) {target : Nat}
    (close : |(target : ℚ) - rational ratio * 2 ^ (52 - power)| < 1 / 2) :
    ratioMantissa ratio = target := by
  unfold ratioMantissa
  rw [isPower]
  apply roundHalfEven_eq (scale_den_pos Nat.two_pos _ den_pos)
  have scaled := rational_scale Nat.two_pos (52 - power) ratio
  unfold rational at scaled close
  rw [scaled]
  exact_mod_cast close

section Near

variable {value : Float64} (nonzero : value.isZero = false)
  {ratio : Nat × Nat}
  (near : |rational ratio - value.magnitude| * 2 ^ 54 < value.magnitude)

include nonzero near

theorem near_num_ne (den_pos : 0 < ratio.2) : ratio.1 ≠ 0 := by
  have positive := magnitude_pos nonzero
  have lower := (abs_lt.mp
    ((lt_div_iff₀ (by positivity)).mpr near)).1
  rw [← rational_pos den_pos]
  have small : value.magnitude / 2 ^ 54 < value.magnitude :=
    div_lt_self positive (by norm_num)
  linarith

omit nonzero in
/-- Less than half a unit in the last place. -/
theorem near_half_unit :
    |rational ratio - value.magnitude| <
      2 ^ (value.leadingPower - 52) / 2 := by
  have small : (value.significand : ℚ) < 2 ^ 53 := by
    exact_mod_cast value.significand_lt
  have unit : (0 : ℚ) < 2 ^ (value.leadingPower - 52) := by positivity
  have bound : value.magnitude <
      2 ^ 53 * 2 ^ (value.leadingPower - 52) :=
    mul_lt_mul_of_pos_right small unit
  have scaled := near.trans bound
  rw [show (2 : ℚ) ^ 54 = 2 ^ 53 * 2 by norm_num] at scaled
  nlinarith

omit nonzero in
/-- The leading place of a close rational is not above the double's. -/
theorem near_power_le (num_ne : ratio.1 ≠ 0) (den_pos : 0 < ratio.2) :
    ratioPower ratio ≤ value.leadingPower := by
  obtain ⟨low, _⟩ := floorLog_binary num_ne den_pos
  have half := near_half_unit near
  have small : (value.significand : ℚ) ≤ 2 ^ 53 - 1 := by
    have small := value.significand_lt
    have small' : (value.significand : ℚ) + 1 ≤ 2 ^ 53 := by
      exact_mod_cast small
    linarith
  have unit : (0 : ℚ) < 2 ^ (value.leadingPower - 52) := by positivity
  have bound : value.magnitude ≤
      (2 ^ 53 - 1) * 2 ^ (value.leadingPower - 52) :=
    mul_le_mul_of_nonneg_right small unit.le
  have below : rational ratio <
      2 ^ 53 * 2 ^ (value.leadingPower - 52) := by
    have upper := (abs_lt.mp half).2
    linarith
  have power : (2 : ℚ) ^ 53 * 2 ^ (value.leadingPower - 52) =
      2 ^ (value.leadingPower + 1) := by
    rw [← zpow_natCast, ← zpow_add₀ two_ne_zero]
    congr 1
    push_cast
    ring
  rw [power] at below
  have exponents :=
    (zpow_lt_zpow_iff_right₀ one_lt_two).mp (low.trans_lt below)
  have least := value.leadingPower_ge
  unfold ratioPower
  omega

omit nonzero in
/-- With the same leading place the mantissa is the significand. -/
theorem ofRatio_same_power
    (finite : value.isFinite = true) (num_ne : ratio.1 ≠ 0)
    (den_pos : 0 < ratio.2)
    (same : ratioPower ratio = value.leadingPower) :
    ofRatio value.isNegative ratio = value := by
  have half := near_half_unit near
  have cancel : (2 : ℚ) ^ (value.leadingPower - 52) *
      2 ^ (52 - value.leadingPower) = 1 := by
    rw [← zpow_add₀ two_ne_zero]
    simp
  have mantissa : ratioMantissa ratio = value.significand := by
    apply ratioMantissa_eq den_pos same
    have positive : (0 : ℚ) < 2 ^ (52 - value.leadingPower) := by
      positivity
    calc
      |(value.significand : ℚ) -
            rational ratio * 2 ^ (52 - value.leadingPower)| =
          |rational ratio - value.magnitude| *
            2 ^ (52 - value.leadingPower) := by
        rw [abs_sub_comm, ← abs_of_pos positive, ← abs_mul, sub_mul,
          abs_of_pos positive, magnitude, mul_assoc, cancel, mul_one]
      _ < 2 ^ (value.leadingPower - 52) / 2 *
            2 ^ (52 - value.leadingPower) :=
        mul_lt_mul_of_pos_right half positive
      _ = 1 / 2 := by
        rw [div_mul_eq_mul_div, cancel]
  rw [ofRatio_eq _ num_ne, mantissa, same]
  have notCarried : value.significand ≠ 2 ^ 53 :=
    (value.significand_lt).ne
  have small := leadingPower_le finite
  rw [if_neg notCarried]
  by_cases subnormal : value.exponent = 0
  · have isFraction : value.significand = value.fraction := by
      rw [significand, if_pos subnormal]
    rw [isFraction, if_pos value.fraction_lt]
    have fields := ofParts_fields value
    rwa [subnormal] at fields
  · have isSum : value.significand = 2 ^ 52 + value.fraction := by
      rw [significand, if_neg subnormal]
    have isPower : value.leadingPower = (value.exponent : Int) - 1023 := by
      rw [leadingPower, if_neg subnormal]
    have field : (value.leadingPower + 1022).toNat =
        value.exponent - 1 := by
      omega
    rw [isSum, if_neg (by omega), if_neg (by omega), field]
    exact ofParts_normal subnormal

/--
Only just below a power of two does a close rational have a smaller leading
place than the double.
-/
theorem near_below
    (num_ne : ratio.1 ≠ 0) (den_pos : 0 < ratio.2)
    (less : ratioPower ratio < value.leadingPower) :
    value.significand = 2 ^ 52 ∧
      ratioPower ratio = value.leadingPower - 1 := by
  obtain ⟨low, high⟩ := floorLog_binary num_ne den_pos
  have normal : -1022 < value.leadingPower := by
    unfold ratioPower at less
    omega
  have unit : (0 : ℚ) < 2 ^ (value.leadingPower - 52) := by positivity
  have positive := magnitude_pos nonzero
  have lower := (abs_lt.mp
    ((lt_div_iff₀ (by positivity)).mpr near)).1
  have leading : (2 : ℚ) ^ value.leadingPower =
      2 ^ 52 * 2 ^ (value.leadingPower - 52) := by
    rw [← zpow_natCast, ← zpow_add₀ two_ne_zero]
    congr 1
    push_cast
    ring
  have below : rational ratio < 2 ^ value.leadingPower := by
    refine high.trans_le (zpow_le_zpow_right₀ one_le_two ?_)
    unfold ratioPower at less
    omega
  have isLeast : value.significand = 2 ^ 52 := by
    have atLeast := significand_ge normal
    have less : (value.significand : ℚ) < 2 ^ 52 + 1 := by
      have product : (value.significand : ℚ) *
          2 ^ (value.leadingPower - 52) * (2 ^ 54 - 1) <
            2 ^ 54 * (2 ^ 52 * 2 ^ (value.leadingPower - 52)) := by
        rw [leading] at below
        unfold magnitude at lower
        linarith
      by_contra more
      rw [not_lt] at more
      have scaled := mul_le_mul_of_nonneg_right more unit.le
      nlinarith
    have less' : value.significand < 2 ^ 52 + 1 := by exact_mod_cast less
    omega
  refine ⟨isLeast, ?_⟩
  have isPower : value.magnitude = 2 ^ value.leadingPower := by
    rw [magnitude, isLeast, leading]
    norm_num
  have above : (2 : ℚ) ^ (value.leadingPower - 1) < rational ratio := by
    rw [isPower] at lower
    rw [zpow_sub_one₀ two_ne_zero]
    have powerPos : (0 : ℚ) < 2 ^ value.leadingPower := by positivity
    linarith
  have exponents :=
    (zpow_lt_zpow_iff_right₀ one_lt_two).mp (above.trans high)
  unfold ratioPower at less ⊢
  omega

/-- Just below a power of two the mantissa carries into the exponent. -/
theorem ofRatio_below
    (finite : value.isFinite = true) (num_ne : ratio.1 ≠ 0)
    (den_pos : 0 < ratio.2)
    (less : ratioPower ratio < value.leadingPower) :
    ofRatio value.isNegative ratio = value := by
  obtain ⟨isLeast, isPower⟩ :=
    near_below nonzero near num_ne den_pos less
  have small := leadingPower_le finite
  have normal : value.exponent ≠ 0 := by
    intro subnormal
    rw [significand, if_pos subnormal] at isLeast
    exact value.fraction_lt.ne isLeast
  have noFraction : value.fraction = 0 := by
    rw [significand, if_neg normal] at isLeast
    omega
  have isExponent : value.leadingPower = (value.exponent : Int) - 1023 := by
    rw [leadingPower, if_neg normal]
  have mantissa : ratioMantissa ratio = 2 ^ 53 := by
    apply ratioMantissa_eq den_pos isPower
    have positive : (0 : ℚ) < 2 ^ (52 - (value.leadingPower - 1)) := by
      positivity
    have scaled : value.magnitude * 2 ^ (52 - (value.leadingPower - 1)) =
        2 ^ 53 := by
      rw [magnitude, isLeast, mul_assoc, ← zpow_add₀ two_ne_zero,
        show value.leadingPower - 52 + (52 - (value.leadingPower - 1)) =
          1 by ring]
      norm_num
    have product := mul_lt_mul_of_pos_right near positive
    rw [scaled] at product
    calc
      |((2 ^ 53 : Nat) : ℚ) -
            rational ratio * 2 ^ (52 - (value.leadingPower - 1))| =
          |rational ratio - value.magnitude| *
            2 ^ (52 - (value.leadingPower - 1)) := by
        rw [Nat.cast_pow, Nat.cast_ofNat, ← scaled, abs_sub_comm,
          ← sub_mul, abs_mul, abs_of_pos positive]
      _ < 1 / 2 := by
        rw [show (2 : ℚ) ^ 54 = 2 ^ 53 * 2 by norm_num] at product
        nlinarith
  rw [ofRatio_eq _ num_ne, mantissa, isPower, if_neg (by decide),
    if_pos rfl, if_neg (by omega)]
  have large : 2 ≤ value.exponent := by
    unfold ratioPower at less
    omega
  have field : (value.leadingPower - 1 + 1022).toNat =
      value.exponent - 2 := by
    omega
  have fields := ofParts_fields value
  rw [noFraction] at fields
  rw [field]
  conv_rhs => rw [← fields]
  have moved (sign : Nat) :
      sign + (value.exponent - 2) * 2 ^ 52 + 2 ^ 53 =
        sign + value.exponent * 2 ^ 52 + 0 := by
    omega
  rw [ofParts, ofParts, moved]

/-- A rational relatively closer than `2 ^ -54` rounds to the double. -/
theorem ofRatio_near
    (finite : value.isFinite = true) (den_pos : 0 < ratio.2) :
    ofRatio value.isNegative ratio = value := by
  have num_ne := near_num_ne nonzero near den_pos
  rcases (near_power_le near num_ne den_pos).lt_or_eq with less | same
  · exact ofRatio_below nonzero near finite num_ne den_pos less
  · exact ofRatio_same_power near finite num_ne den_pos same

end Near

/-! ## Decimal digits -/

/-- The decimal estimate that `repr` starts from. -/
def decimalGuess (estimate : Int) : Int :=
  estimate * 30103 / 100000

/--
The estimate is off by at most two: `10 ^ (guess - 2)` is not above
`2 ^ (estimate - 1)` and `10 ^ (guess + 3)` not below
`2 ^ (estimate + 1)`, with the exponents shifted to natural numbers.
-/
def GuessFits (estimate : Int) : Prop :=
  10 ^ (decimalGuess estimate + 398).toNat * 2 ^ 1100 ≤
      2 ^ (estimate + 1099).toNat * 10 ^ 400 ∧
    2 ^ (estimate + 1101).toNat * 10 ^ 400 ≤
      10 ^ (decimalGuess estimate + 403).toNat * 2 ^ 1100

instance (estimate : Int) : Decidable (GuessFits estimate) :=
  inferInstanceAs (Decidable (_ ∧ _))

/-- The estimate fits for every exponent a finite double can have. -/
theorem guessFits_range :
    (List.range 2099).all
      (fun shifted => GuessFits ((shifted : Int) - 1074)) = true := by
  decide +kernel

theorem guessFits
    {estimate : Int} (low : -1074 ≤ estimate) (high : estimate ≤ 1024) :
    GuessFits estimate := by
  have fits := List.all_eq_true.mp guessFits_range
    (estimate + 1074).toNat (List.mem_range.mpr (by omega))
  rw [Int.toNat_of_nonneg (by omega), add_sub_cancel_right,
    decide_eq_true_eq] at fits
  exact fits

theorem zpow_shift
    {base : ℚ} (base_ne : base ≠ 0) (power : Int) (shift : Nat)
    {shifted : Int} (isShifted : shifted = power + shift)
    (nonneg : 0 ≤ shifted) :
    base ^ shifted.toNat = base ^ power * base ^ shift := by
  rw [← zpow_natCast, ← zpow_natCast, ← zpow_add₀ base_ne,
    Int.toNat_of_nonneg nonneg, isShifted]

theorem GuessFits.powers
    {estimate : Int} (low : -1074 ≤ estimate) (fits : GuessFits estimate) :
    (10 : ℚ) ^ (decimalGuess estimate - 2) ≤ 2 ^ (estimate - 1) ∧
      (2 : ℚ) ^ (estimate + 1) ≤ 10 ^ (decimalGuess estimate + 3) := by
  have guessLow : -398 ≤ decimalGuess estimate := by
    unfold decimalGuess
    omega
  have scalePos : (0 : ℚ) < 10 ^ 400 * 2 ^ 1100 := by positivity
  obtain ⟨below, above⟩ := fits
  constructor
  · have below' : (10 : ℚ) ^ (decimalGuess estimate + 398).toNat *
        2 ^ 1100 ≤ 2 ^ (estimate + 1099).toNat * 10 ^ 400 := by
      exact_mod_cast below
    rw [zpow_shift (by norm_num) (decimalGuess estimate - 2) 400
        (by push_cast; ring) (by omega),
      zpow_shift (by norm_num) (estimate - 1) 1100
        (by push_cast; ring) (by omega)] at below'
    refine le_of_mul_le_mul_right ?_ scalePos
    linarith
  · have above' : (2 : ℚ) ^ (estimate + 1101).toNat * 10 ^ 400 ≤
        10 ^ (decimalGuess estimate + 403).toNat * 2 ^ 1100 := by
      exact_mod_cast above
    rw [zpow_shift (by norm_num) (estimate + 1) 1100
        (by push_cast; ring) (by omega),
      zpow_shift (by norm_num) (decimalGuess estimate + 3) 400
        (by push_cast; ring) (by omega)] at above'
    refine le_of_mul_le_mul_right ?_ scalePos
    linarith

/-- The exponent of the leading decimal digit, as `repr` finds it. -/
def decimalPower (value : Float64) : Int :=
  floorLog 10
    (floorLog 10 (decimalGuess (binaryEstimate value.toRatio))
      value.toRatio)
    value.toRatio

section Digits

variable {value : Float64} (finite : value.isFinite = true)
  (nonzero : value.isZero = false)

include finite nonzero

/-- The binary exponents of finite doubles. -/
theorem binaryEstimate_bounds :
    -1074 ≤ binaryEstimate value.toRatio ∧
      binaryEstimate value.toRatio ≤ 1024 := by
  have positive := magnitude_pos nonzero
  rw [← rational_toRatio, rational_pos value.toRatio_den_pos] at positive
  obtain ⟨low, high⟩ := rational_between positive value.toRatio_den_pos
  rw [rational_toRatio] at low high
  have unit : (0 : ℚ) < 2 ^ (value.leadingPower - 52) := by positivity
  have atLeast : (2 : ℚ) ^ (value.leadingPower - 52) ≤ value.magnitude := by
    refine le_mul_of_one_le_left unit.le ?_
    exact_mod_cast significand_pos nonzero
  have below : value.magnitude < 2 ^ (value.leadingPower + 1) := by
    calc
      value.magnitude < 2 ^ 53 * 2 ^ (value.leadingPower - 52) := by
        refine mul_lt_mul_of_pos_right ?_ unit
        exact_mod_cast value.significand_lt
      _ = 2 ^ (value.leadingPower + 1) := by
        rw [← zpow_natCast, ← zpow_add₀ two_ne_zero]
        congr 1
        push_cast
        ring
  have lower :=
    (zpow_lt_zpow_iff_right₀ one_lt_two).mp (atLeast.trans_lt high)
  have upper :=
    (zpow_lt_zpow_iff_right₀ one_lt_two).mp (low.trans_lt below)
  have least := value.leadingPower_ge
  have most := leadingPower_le finite
  omega

/-- The leading decimal digit is found exactly. -/
theorem decimalPower_spec :
    (10 : ℚ) ^ value.decimalPower ≤ value.magnitude ∧
      value.magnitude < 10 ^ (value.decimalPower + 1) := by
  have positive := magnitude_pos nonzero
  rw [← rational_toRatio, rational_pos value.toRatio_den_pos] at positive
  obtain ⟨estimateLow, estimateHigh⟩ :=
    binaryEstimate_bounds finite nonzero
  obtain ⟨below, above⟩ :=
    (guessFits estimateLow estimateHigh).powers estimateLow
  obtain ⟨low, high⟩ := rational_between positive value.toRatio_den_pos
  rw [← rational_toRatio]
  exact floorLog_twice_spec (by decide) _ value.toRatio_den_pos
    (by exact_mod_cast below.trans low)
    (by exact_mod_cast high.trans_le above)

end Digits

/-- The decimal that some digits denote. -/
theorem rational_decimal (digits : Nat) (power : Int) :
    rational (scale 10 power (digits, 1)) = digits * 10 ^ power := by
  rw [rational_scale (by decide)]
  simp [rational]

/-- The nearest digits are off by at most half a unit. -/
theorem nearestDigits_error (value : Float64) (power : Int) (count : Nat) :
    |(shortestDigits.nearestDigits value power count : ℚ) -
        value.magnitude * 10 ^ ((count : Int) - 1 - power)| ≤ 1 / 2 := by
  have error := roundHalfEven_error
    (scale 10 ((count : Int) - 1 - power) value.toRatio).1
    (scale_den_pos (show 0 < 10 by decide) ((count : Int) - 1 - power)
      value.toRatio_den_pos)
  have scaled := rational_scale (show 0 < 10 by decide)
    ((count : Int) - 1 - power) value.toRatio
  rw [rational_toRatio] at scaled
  unfold rational at scaled
  rw [scaled] at error
  exact_mod_cast error

section Digits

variable {value : Float64} (finite : value.isFinite = true)
  (nonzero : value.isZero = false)

include finite nonzero

/-- As many digits as asked for, or a carry to one more. -/
theorem nearestDigits_bounds {count : Nat} (positive : 1 ≤ count) :
    10 ^ (count - 1) ≤
        shortestDigits.nearestDigits value value.decimalPower count ∧
      shortestDigits.nearestDigits value value.decimalPower count ≤
        10 ^ count := by
  obtain ⟨low, high⟩ := decimalPower_spec finite nonzero
  have error := abs_le.mp
    (nearestDigits_error value value.decimalPower count)
  have factor :
      (0 : ℚ) < 10 ^ ((count : Int) - 1 - value.decimalPower) := by
    positivity
  have scaledLow : (10 : ℚ) ^ (count - 1) ≤
      value.magnitude * 10 ^ ((count : Int) - 1 - value.decimalPower) := by
    calc
      (10 : ℚ) ^ (count - 1) = 10 ^ value.decimalPower *
            10 ^ ((count : Int) - 1 - value.decimalPower) := by
        rw [← zpow_add₀ (by norm_num), ← zpow_natCast]
        congr 1
        omega
      _ ≤ _ := mul_le_mul_of_nonneg_right low factor.le
  have scaledHigh :
      value.magnitude * 10 ^ ((count : Int) - 1 - value.decimalPower) <
        10 ^ count := by
    calc
      _ < (10 : ℚ) ^ (value.decimalPower + 1) *
            10 ^ ((count : Int) - 1 - value.decimalPower) :=
        mul_lt_mul_of_pos_right high factor
      _ = 10 ^ count := by
        rw [← zpow_add₀ (by norm_num), ← zpow_natCast]
        congr 1
        omega
  constructor
  · have below : ((10 ^ (count - 1) : Nat) : ℚ) <
        (shortestDigits.nearestDigits value value.decimalPower count +
          1 : Nat) := by
      push_cast
      linarith
    exact Nat.lt_succ_iff.mp (by exact_mod_cast below)
  · have above :
        ((shortestDigits.nearestDigits value value.decimalPower count :
          Nat) : ℚ) < (10 ^ count + 1 : Nat) := by
      push_cast
      linarith
    exact Nat.lt_succ_iff.mp (by exact_mod_cast above)

/-- Seventeen digits are enough. -/
theorem ofDecimal_seventeen :
    ofDecimal value.isNegative
        (shortestDigits.nearestDigits value value.decimalPower 17)
        (value.decimalPower + 1 - (17 : Nat)) =
      value := by
  obtain ⟨low, _⟩ := decimalPower_spec finite nonzero
  have error := nearestDigits_error value value.decimalPower 17
  apply ofRatio_near nonzero ?_ finite
    (scale_den_pos (by decide) _ Nat.one_pos)
  rw [rational_decimal]
  have factor :
      (0 : ℚ) < 10 ^ (value.decimalPower + 1 - (17 : Nat)) := by
    positivity
  have inverse : (10 : ℚ) ^ (((17 : Nat) : Int) - 1 - value.decimalPower) *
      10 ^ (value.decimalPower + 1 - (17 : Nat)) = 1 := by
    rw [← zpow_add₀ (by norm_num), show ((17 : Nat) : Int) - 1 -
      value.decimalPower + (value.decimalPower + 1 - (17 : Nat)) = 0 by
        ring, zpow_zero]
  have unit : (10 : ℚ) ^ (value.decimalPower + 1 - (17 : Nat)) * 10 ^ 16 =
      10 ^ value.decimalPower := by
    rw [← zpow_natCast, ← zpow_add₀ (by norm_num)]
    congr 1
    push_cast
    ring
  have distance :
      |(shortestDigits.nearestDigits value value.decimalPower 17 : ℚ) *
          10 ^ (value.decimalPower + 1 - (17 : Nat)) - value.magnitude| ≤
        1 / 2 * 10 ^ (value.decimalPower + 1 - (17 : Nat)) := by
    calc
      _ = |(shortestDigits.nearestDigits value value.decimalPower 17 : ℚ) -
              value.magnitude *
                10 ^ (((17 : Nat) : Int) - 1 - value.decimalPower)| *
            10 ^ (value.decimalPower + 1 - (17 : Nat)) := by
        rw [← abs_of_pos factor, ← abs_mul, abs_of_pos factor, sub_mul,
          mul_assoc value.magnitude, inverse, mul_one]
      _ ≤ _ := mul_le_mul_of_nonneg_right error factor.le
  calc
    _ ≤ 1 / 2 * (10 : ℚ) ^ (value.decimalPower + 1 - (17 : Nat)) *
          2 ^ 54 :=
      mul_le_mul_of_nonneg_right distance (by positivity)
    _ < (10 : ℚ) ^ (value.decimalPower + 1 - (17 : Nat)) * 10 ^ 16 := by
      rw [mul_comm (1 / 2 : ℚ), mul_assoc]
      exact mul_lt_mul_of_pos_left (by norm_num) factor
    _ = 10 ^ value.decimalPower := unit
    _ ≤ value.magnitude := low

/-- The digits of the shortest decimal read back as the double. -/
theorem ofDecimal_shortestDigits
    (fuel count : Nat) (seventeen : fuel + count = 17)
    (positive : 1 ≤ count) {shown digits : Nat}
    (shortest : shortestDigits value value.decimalPower fuel count =
      (shown, digits)) :
    ofDecimal value.isNegative digits
        (value.decimalPower + 1 - shown) = value ∧
      1 ≤ shown ∧ 10 ^ (shown - 1) ≤ digits ∧ digits ≤ 10 ^ shown + 1 := by
  induction fuel generalizing count with
  | zero =>
      obtain rfl : count = 17 := by omega
      cases shortest
      obtain ⟨low, high⟩ := nearestDigits_bounds finite nonzero positive
      exact ⟨ofDecimal_seventeen finite nonzero, positive, low,
        Nat.le_succ_of_le high⟩
  | succ fuel induction =>
      obtain ⟨low, high⟩ := nearestDigits_bounds finite nonzero positive
      unfold shortestDigits at shortest
      dsimp only at shortest
      split_ifs at shortest with nearest above
      · cases shortest
        exact ⟨of_decide_eq_true nearest, positive, low,
          Nat.le_succ_of_le high⟩
      · cases shortest
        exact ⟨of_decide_eq_true above, positive,
          Nat.le_succ_of_le low, Nat.succ_le_succ high⟩
      · exact induction (count + 1) (by omega) (by omega) shortest

end Digits

end Float64

end ScientificResourceLab.Python
