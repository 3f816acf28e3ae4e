import Mathlib.Algebra.Order.Floor.Ring
import Mathlib.Algebra.Order.Field.Rat
import Mathlib.Data.Int.Log
import Mathlib.Data.Rat.Floor
import Mathlib.Tactic.FieldSimp
import Mathlib.Tactic.Linarith
import Mathlib.Tactic.Positivity
import Mathlib.Tactic.Ring
import ScientificResourceLab.Steps.Fallible

/-!
# Decimal arithmetic in a context

Finite decimal numbers with the operations of the `decimal` module: rounding
to a context (`fix`), `multiply`, `scaleb`, `quantize` and `normalize`.  A
context has a precision, a rounding mode and bounds on the adjusted exponent;
the signals for an invalid operation and for an overflow are trapped, the
others only set flags.

The abstract side is rational.  `halfUpAt` rounds a magnitude at a decimal
place, and a number is `Representable` when some coefficient of the precision
has its value.  `fix` keeps a representable value (`fix_exact`), what it
returns is representable (`representable_fix`), and it moves a value by half
a unit at most (`fix_near`).
-/

namespace ScientificResourceLab.Python

open Steps

/-! ## Numbers and contexts -/

/-- A finite `Decimal`. -/
structure Decimal where
  sign : Bool
  coefficient : Nat
  exponent : Int
  deriving DecidableEq, Repr

/-- The rounding modes in use. -/
inductive Rounding where
  | halfUp
  | halfEven
  deriving DecidableEq, Repr

/-- `decimal.Context`, with the bounds of its adjusted exponents. -/
structure DecimalContext where
  precision : Nat
  rounding : Rounding
  emin : Int
  emax : Int

/-- A trapped signal. -/
inductive DecimalSignal where
  | invalidOperation
  | overflow
  deriving DecidableEq, Repr

/-- `Context.Etiny`. -/
def DecimalContext.etiny (context : DecimalContext) : Int :=
  context.emin - context.precision + 1

/-- `Context.Etop`. -/
def DecimalContext.etop (context : DecimalContext) : Int :=
  context.emax - context.precision + 1

/-- The number of digits of a coefficient, one for zero. -/
def digitCount (coefficient : Nat) : Nat :=
  Nat.log 10 coefficient + 1

/-- `Decimal.adjusted`. -/
def Decimal.adjusted (number : Decimal) : Int :=
  number.exponent + digitCount number.coefficient - 1

/-! ## Operations -/

/-- A coefficient without its last digits, rounded. -/
def Rounding.divide (mode : Rounding) (coefficient places : Nat) : Nat :=
  let unit := 10 ^ places
  let quotient := coefficient / unit
  let rest := coefficient % unit
  if unit < 2 * rest ∨
      2 * rest = unit ∧ (mode = .halfUp ∨ quotient % 2 = 1) then
    quotient + 1
  else quotient

/-- `Decimal._rescale`. -/
def Decimal.rescale (number : Decimal) (target : Int) (mode : Rounding) :
    Decimal :=
  if target ≤ number.exponent then
    ⟨number.sign,
      number.coefficient * 10 ^ (number.exponent - target).toNat, target⟩
  else
    ⟨number.sign,
      mode.divide number.coefficient (target - number.exponent).toNat,
      target⟩

/-- A rounded coefficient that has one digit too many loses its last zero. -/
def carry (precision : Nat) (sign : Bool) (rounded : Nat) (place : Int) :
    Decimal :=
  if precision < digitCount rounded then ⟨sign, rounded / 10, place + 1⟩
  else ⟨sign, rounded, place⟩

/-- The place that a nonzero number is rounded at. -/
def DecimalContext.place (context : DecimalContext) (number : Decimal) :
    Int :=
  max (digitCount number.coefficient + number.exponent -
    context.precision) context.etiny

/-- `Decimal._fix`. -/
def DecimalContext.fix (context : DecimalContext) (number : Decimal) :
    Except DecimalSignal Decimal :=
  if number.coefficient = 0 then
    .ok { number with
      exponent := min (max number.exponent context.etiny) context.emax }
  else if context.etop < digitCount number.coefficient +
      number.exponent - context.precision then
    .error .overflow
  else if number.exponent < context.place number then
    let result := carry context.precision number.sign
      (context.rounding.divide number.coefficient
        (context.place number - number.exponent).toNat)
      (context.place number)
    if context.etop < result.exponent then .error .overflow
    else .ok result
  else .ok number

/-- `Context.multiply`. -/
def DecimalContext.multiply (context : DecimalContext)
    (left right : Decimal) : Except DecimalSignal Decimal :=
  context.fix ⟨left.sign ^^ right.sign,
    left.coefficient * right.coefficient, left.exponent + right.exponent⟩

/-- `Decimal.scaleb`. -/
def DecimalContext.scaleb (context : DecimalContext) (number : Decimal)
    (shift : Int) : Except DecimalSignal Decimal :=
  let limit := 2 * (context.emax + context.precision)
  if shift < -limit ∨ limit < shift then .error .invalidOperation
  else context.fix { number with exponent := number.exponent + shift }

/-- `Context.quantize`, given the exponent of its second argument. -/
def DecimalContext.quantize (context : DecimalContext) (number : Decimal)
    (target : Int) : Except DecimalSignal Decimal :=
  if target < context.etiny ∨ context.emax < target then
    .error .invalidOperation
  else if number.coefficient = 0 then
    context.fix { number with exponent := target }
  else if context.emax < number.adjusted ∨
      context.precision < number.adjusted - target + 1 then
    .error .invalidOperation
  else
    let result := number.rescale target context.rounding
    if context.emax < result.adjusted ∨
        context.precision < digitCount result.coefficient then
      .error .invalidOperation
    else context.fix result

/-- The loop of `normalize`, over at most the given number of digits. -/
def stripZeros (limit : Int) : Nat → Decimal → Decimal
  | 0, number => number
  | digits + 1, number =>
      if number.coefficient % 10 = 0 ∧ number.exponent < limit then
        stripZeros limit digits
          ⟨number.sign, number.coefficient / 10, number.exponent + 1⟩
      else number

/-- `Decimal.normalize`. -/
def DecimalContext.normalize (context : DecimalContext)
    (number : Decimal) : Except DecimalSignal Decimal := do
  let fixed ← context.fix number
  if fixed.coefficient = 0 then pure ⟨fixed.sign, 0, 0⟩
  else pure (stripZeros context.emax (digitCount fixed.coefficient) fixed)

/-! ## Values -/

/-- The absolute value of a number. -/
def Decimal.magnitude (number : Decimal) : ℚ :=
  number.coefficient * 10 ^ number.exponent

def Decimal.value (number : Decimal) : ℚ :=
  (if number.sign then -1 else 1) * number.magnitude

/-- A magnitude rounded half up at a decimal place. -/
def halfUpAt (place : Int) (magnitude : ℚ) : ℚ :=
  ⌊magnitude / 10 ^ place + 1 / 2⌋ * 10 ^ place

/-- A rational rounded half up to significant digits. -/
def roundHalfUp (digits : Nat) (value : ℚ) : ℚ :=
  (if value < 0 then -1 else 1) *
    halfUpAt (Int.log 10 |value| + 1 - digits) |value|

/-- A magnitude that is a small multiple of a decimal place. -/
def AtPlace (digits : Nat) (place : Int) (magnitude : ℚ) : Prop :=
  ∃ coefficient : Nat, coefficient < 10 ^ digits ∧
    magnitude = coefficient * 10 ^ place

/-- A rational with no more than some significant digits. -/
def SignificantDigits (digits : Nat) (value : ℚ) : Prop :=
  ∃ place : Int, AtPlace digits place |value|

/-- A rational that a context has a number for. -/
def DecimalContext.Representable (context : DecimalContext) (value : ℚ) :
    Prop :=
  ∃ place : Int, context.etiny ≤ place ∧ place ≤ context.etop ∧
    AtPlace context.precision place |value|

theorem ten_zpow_pos (place : Int) : (0 : ℚ) < 10 ^ place :=
  zpow_pos (by norm_num) place

theorem Decimal.magnitude_nonneg (number : Decimal) :
    0 ≤ number.magnitude :=
  mul_nonneg (Nat.cast_nonneg _) (ten_zpow_pos _).le

@[simp]
theorem Decimal.abs_value (number : Decimal) :
    |number.value| = number.magnitude := by
  rw [Decimal.value, abs_mul, abs_of_nonneg number.magnitude_nonneg]
  split_ifs <;> simp

/-- A power of ten of a natural difference. -/
theorem ten_zpow_toNat {low high : Int} (isLow : low ≤ high) :
    ((10 : ℚ) ^ (high - low).toNat) * 10 ^ low = 10 ^ high := by
  rw [← zpow_natCast, Int.toNat_of_nonneg (by omega), ← zpow_add₀
    (by norm_num)]
  congr 1
  omega

/-! ## Rounding a coefficient -/

/-- A rounded coefficient is within half a unit. -/
theorem Rounding.divide_near (mode : Rounding) (coefficient places : Nat) :
    2 * (mode.divide coefficient places * 10 ^ places) ≤
        2 * coefficient + 10 ^ places ∧
      2 * coefficient ≤
        2 * (mode.divide coefficient places * 10 ^ places) +
          10 ^ places := by
  have positive : 0 < 10 ^ places := by positivity
  have parts := Nat.div_add_mod coefficient (10 ^ places)
  have small := Nat.mod_lt coefficient positive
  simp only [Rounding.divide]
  split_ifs with up
  · rw [Nat.add_mul, Nat.mul_comm (coefficient / 10 ^ places)]
    omega
  · rw [Nat.mul_comm (coefficient / 10 ^ places)]
    omega

/-- Digits that are zero are dropped. -/
theorem Rounding.divide_exact
    (mode : Rounding) (coefficient places : Nat) :
    mode.divide (coefficient * 10 ^ places) places = coefficient := by
  have positive : 0 < 10 ^ places := by positivity
  simp only [Rounding.divide, Nat.mul_mod_left, Nat.mul_div_cancel _
    positive]
  rw [if_neg]
  omega

/-- Rounding half up takes the floor after adding a half. -/
theorem Rounding.divide_halfUp (coefficient places : Nat) :
    ⌊(coefficient : ℚ) / 10 ^ places + 1 / 2⌋ =
      (Rounding.halfUp.divide coefficient places : Int) := by
  have positive : (0 : ℚ) < 10 ^ places := by positivity
  have parts := Nat.div_add_mod coefficient (10 ^ places)
  have small := Nat.mod_lt coefficient
    (show 0 < 10 ^ places by positivity)
  have bounds : 2 * (Rounding.halfUp.divide coefficient places *
        10 ^ places) ≤ 2 * coefficient + 10 ^ places ∧
      2 * coefficient + 10 ^ places <
        2 * (Rounding.halfUp.divide coefficient places * 10 ^ places) +
          2 * 10 ^ places := by
    simp only [Rounding.divide, true_or, and_true]
    split_ifs with up
    · rw [Nat.add_mul, Nat.mul_comm (coefficient / 10 ^ places)]
      omega
    · rw [Nat.mul_comm (coefficient / 10 ^ places)]
      omega
  rw [Int.floor_eq_iff]
  obtain ⟨lower, upper⟩ := bounds
  have lower' : (2 * (Rounding.halfUp.divide coefficient places *
      10 ^ places) : ℚ) ≤ 2 * coefficient + 10 ^ places := by
    exact_mod_cast lower
  have upper' : (2 * coefficient + 10 ^ places : ℚ) <
      2 * (Rounding.halfUp.divide coefficient places * 10 ^ places) +
        2 * 10 ^ places := by
    exact_mod_cast upper
  constructor
  · rw [← sub_le_iff_le_add, le_div_iff₀ positive]
    push_cast
    linarith
  · rw [← lt_sub_iff_add_lt, div_lt_iff₀ positive]
    push_cast
    linarith

/-! ## Rescaling -/

/-- A number with more digits after its coefficient. -/
theorem magnitude_pad
    {number : Decimal} {target : Int} (isLow : target ≤ number.exponent) :
    ((number.coefficient * 10 ^ (number.exponent - target).toNat : Nat) :
        ℚ) * 10 ^ target = number.magnitude := by
  push_cast
  rw [mul_assoc, ten_zpow_toNat isLow, Decimal.magnitude]

/-- The magnitude in units of a higher place. -/
theorem magnitude_div
    {number : Decimal} {target : Int} (isHigh : number.exponent ≤ target) :
    number.magnitude / 10 ^ target =
      number.coefficient / 10 ^ (target - number.exponent).toNat := by
  rw [Decimal.magnitude, ← ten_zpow_toNat isHigh, mul_div_mul_right]
  exact (ten_zpow_pos _).ne'

/-- Rescaling half up rounds the magnitude half up. -/
theorem magnitude_rescale_halfUp (number : Decimal) (target : Int) :
    (number.rescale target .halfUp).magnitude =
      halfUpAt target number.magnitude := by
  by_cases isLow : target ≤ number.exponent
  · rw [Decimal.rescale, if_pos isLow, halfUpAt, ← magnitude_pad isLow,
      mul_div_cancel_right₀ _ (ten_zpow_pos target).ne', Decimal.magnitude]
    congr 1
    rw [eq_comm, ← Int.cast_natCast, Int.cast_inj, Int.floor_eq_iff]
    constructor
    · push_cast
      linarith
    · push_cast
      linarith
  · have isHigh : number.exponent ≤ target := by omega
    rw [Decimal.rescale, if_neg isLow, halfUpAt, magnitude_div isHigh,
      Rounding.divide_halfUp, Decimal.magnitude, Int.cast_natCast]

/-- A rounded coefficient is within half a unit of its place. -/
theorem magnitude_divide_near
    (mode : Rounding) {number : Decimal} {target : Int}
    (isHigh : number.exponent ≤ target) :
    |(mode.divide number.coefficient
        (target - number.exponent).toNat : ℚ) * 10 ^ target -
      number.magnitude| ≤ 10 ^ target / 2 := by
  obtain ⟨lower, upper⟩ := mode.divide_near number.coefficient
    (target - number.exponent).toNat
  have unit := ten_zpow_toNat isHigh
  have positive := ten_zpow_pos number.exponent
  have lower' : (2 * (mode.divide number.coefficient
      (target - number.exponent).toNat *
      10 ^ (target - number.exponent).toNat) : ℚ) ≤
      2 * number.coefficient + 10 ^ (target - number.exponent).toNat := by
    exact_mod_cast lower
  have upper' : (2 * number.coefficient : ℚ) ≤
      2 * (mode.divide number.coefficient
        (target - number.exponent).toNat *
        10 ^ (target - number.exponent).toNat) +
        10 ^ (target - number.exponent).toNat := by
    exact_mod_cast upper
  have scaledLower := mul_le_mul_of_nonneg_right lower' positive.le
  have scaledUpper := mul_le_mul_of_nonneg_right upper' positive.le
  rw [abs_le, Decimal.magnitude, ← unit]
  constructor
  · linarith
  · linarith

/-! ## Digits and places -/

theorem pow_digitCount_le {coefficient : Nat} (nonzero : coefficient ≠ 0) :
    10 ^ (digitCount coefficient - 1) ≤ coefficient :=
  Nat.pow_log_le_self 10 nonzero

theorem lt_pow_digitCount (coefficient : Nat) :
    coefficient < 10 ^ digitCount coefficient :=
  Nat.lt_pow_succ_log_self (by decide) coefficient

theorem digitCount_le_iff {coefficient digits : Nat} (some : 0 < digits) :
    digitCount coefficient ≤ digits ↔ coefficient < 10 ^ digits := by
  rw [digitCount, Nat.succ_le_iff]
  by_cases zero : coefficient = 0
  · subst zero
    simp [some]
  · exact Nat.log_lt_iff_lt_pow (by decide) zero

/-- The adjusted exponent is the place of the first digit. -/
theorem log_magnitude
    {number : Decimal} (nonzero : number.coefficient ≠ 0) :
    Int.log 10 number.magnitude = number.adjusted := by
  have positive : (0 : ℚ) < number.magnitude :=
    mul_pos (Nat.cast_pos.mpr (Nat.pos_of_ne_zero nonzero))
      (ten_zpow_pos _)
  have ten : (1 : Nat) < 10 := by decide
  have lower := pow_digitCount_le nonzero
  have upper := lt_pow_digitCount number.coefficient
  have counted : 0 < digitCount number.coefficient := Nat.succ_pos _
  apply le_antisymm
  · rw [← Int.lt_add_one_iff, ← Int.lt_zpow_iff_log_lt ten positive,
      Decimal.adjusted, sub_add_cancel, zpow_add₀ (by norm_num),
      zpow_natCast, mul_comm, Decimal.magnitude, Nat.cast_ofNat]
    exact mul_lt_mul_of_pos_right (by exact_mod_cast upper)
      (ten_zpow_pos _)
  · rw [← Int.zpow_le_iff_le_log ten positive, Decimal.adjusted,
      add_sub_assoc, zpow_add₀ (by norm_num), mul_comm,
      Decimal.magnitude, Nat.cast_ofNat]
    refine mul_le_mul_of_nonneg_right ?_ (ten_zpow_pos _).le
    have isCount : (digitCount number.coefficient : Int) - 1 =
        ((digitCount number.coefficient - 1 : Nat) : Int) := by omega
    rw [isCount, zpow_natCast]
    exact_mod_cast lower

theorem Decimal.magnitude_pos
    {number : Decimal} (nonzero : number.coefficient ≠ 0) :
    0 < number.magnitude :=
  mul_pos (Nat.cast_pos.mpr (Nat.pos_of_ne_zero nonzero)) (ten_zpow_pos _)

/-- A magnitude at a place has its first digit below the precision. -/
theorem AtPlace.adjusted_lt
    {digits : Nat} {place : Int} {number : Decimal}
    (atPlace : AtPlace digits place number.magnitude)
    (nonzero : number.coefficient ≠ 0) :
    number.adjusted < digits + place := by
  obtain ⟨coefficient, small, isMagnitude⟩ := atPlace
  rw [← log_magnitude nonzero, ← Int.lt_zpow_iff_log_lt (by decide)
    (Decimal.magnitude_pos nonzero), isMagnitude, Nat.cast_ofNat,
    zpow_add₀ (by norm_num), zpow_natCast]
  exact mul_lt_mul_of_pos_right (by exact_mod_cast small)
    (ten_zpow_pos _)

/-- A multiple of a place is a multiple of every lower place. -/
theorem AtPlace.lower
    {digits : Nat} {place lower : Int} {magnitude : ℚ}
    (atPlace : AtPlace digits place magnitude) (isLower : lower ≤ place) :
    ∃ coefficient : Nat, magnitude = coefficient * 10 ^ lower := by
  obtain ⟨coefficient, -, isMagnitude⟩ := atPlace
  refine ⟨coefficient * 10 ^ (place - lower).toNat, ?_⟩
  push_cast
  rw [mul_assoc, ten_zpow_toNat isLower, isMagnitude]

/-! ## Rounding to a context -/

section Fix

variable {context : DecimalContext} {number result : Decimal}

/-- The last place is below every place that a value can be written at. -/
theorem AtPlace.place_le
    {place : Int} (isPlace : context.etiny ≤ place)
    (atPlace : AtPlace context.precision place number.magnitude)
    (nonzero : number.coefficient ≠ 0) :
    context.place number ≤ place := by
  have first := atPlace.adjusted_lt nonzero
  rw [Decimal.adjusted] at first
  exact max_le (by omega) isPlace

theorem divide_of_multiple
    (mode : Rounding) {place : Int} {multiple : Nat}
    (isHigh : number.exponent ≤ place)
    (isMultiple : number.magnitude = multiple * 10 ^ place) :
    mode.divide number.coefficient (place - number.exponent).toNat =
      multiple := by
  have scaled : (number.coefficient : ℚ) =
      (multiple * 10 ^ (place - number.exponent).toNat : Nat) := by
    rw [Decimal.magnitude, ← ten_zpow_toNat isHigh, ← mul_assoc]
      at isMultiple
    push_cast
    exact mul_right_cancel₀ (ten_zpow_pos _).ne' isMultiple
  rw [Nat.cast_injective scaled, Rounding.divide_exact]

/-- A value that the context has a number for is kept. -/
theorem fix_exact
    (wide : context.etiny ≤ context.etop)
    (nonzero : number.coefficient ≠ 0)
    (below : number.adjusted ≤ context.emax)
    {place : Int} (isPlace : context.etiny ≤ place)
    (atPlace : AtPlace context.precision place number.magnitude) :
    ∃ result, context.fix number = .ok result ∧
      result.sign = number.sign ∧ result.coefficient ≠ 0 ∧
      result.magnitude = number.magnitude := by
  have last := atPlace.place_le isPlace nonzero
  have isTop : context.etop = context.emax - context.precision + 1 := rfl
  rw [Decimal.adjusted] at below
  have noOverflow : ¬ context.etop < digitCount number.coefficient +
      number.exponent - context.precision := by omega
  have lastTop : context.place number ≤ context.etop :=
    max_le (Int.not_lt.mp noOverflow) wide
  rw [DecimalContext.fix, if_neg nonzero, if_neg noOverflow]
  by_cases rounds : number.exponent < context.place number
  · obtain ⟨multiple, isMultiple⟩ := atPlace.lower last
    have rounded := divide_of_multiple context.rounding rounds.le isMultiple
    have positive := Decimal.magnitude_pos nonzero
    have multipleNonzero : multiple ≠ 0 := by
      rintro rfl
      rw [isMultiple, Nat.cast_zero, zero_mul] at positive
      exact positive.false
    have written : (⟨number.sign, multiple, context.place number⟩ :
        Decimal).magnitude = number.magnitude := isMultiple.symm
    have small : digitCount multiple ≤ context.precision := by
      have same := @log_magnitude ⟨number.sign, multiple,
        context.place number⟩ multipleNonzero
      rw [written, log_magnitude nonzero, Decimal.adjusted,
        Decimal.adjusted] at same
      have low : (digitCount number.coefficient : Int) + number.exponent -
          context.precision ≤ context.place number := le_max_left _ _
      dsimp only at same
      omega
    rw [if_pos rounds]
    simp only [rounded, carry, if_neg (Nat.not_lt.mpr small)]
    rw [if_neg (Int.not_lt.mpr lastTop)]
    exact ⟨_, rfl, rfl, multipleNonzero, written⟩
  · rw [if_neg rounds]
    exact ⟨number, rfl, rfl, nonzero, rfl⟩

/-- Rounding gives one more than the largest coefficient at most. -/
theorem divide_le
    (mode : Rounding) (rounds : number.exponent ≤ context.place number) :
    mode.divide number.coefficient
        (context.place number - number.exponent).toNat ≤
      10 ^ context.precision := by
  have near := (mode.divide_near number.coefficient
    (context.place number - number.exponent).toNat).1
  have small : number.coefficient < 10 ^ context.precision *
      10 ^ (context.place number - number.exponent).toNat := by
    have low : (digitCount number.coefficient : Int) + number.exponent -
        context.precision ≤ context.place number := le_max_left _ _
    rw [← pow_add]
    exact (lt_pow_digitCount _).trans_le
      (Nat.pow_le_pow_right (by decide) (by omega))
  have positive :
      0 < 10 ^ (context.place number - number.exponent).toNat := by
    positivity
  by_contra large
  have scaled := Nat.mul_le_mul_right
    (10 ^ (context.place number - number.exponent).toNat)
    (Nat.succ_le_of_lt (Nat.lt_of_not_le large))
  rw [Nat.succ_mul] at scaled
  omega

/-- Taking a digit off a carried coefficient keeps its value. -/
theorem magnitude_carry
    {precision : Nat} (precise : 0 < precision) (sign : Bool)
    {rounded : Nat} (small : rounded ≤ 10 ^ precision) (place : Int) :
    (carry precision sign rounded place).magnitude =
      rounded * 10 ^ place := by
  rw [carry]
  split_ifs with long
  · have large : 10 ^ precision ≤ rounded := by
      by_contra less
      have short := (digitCount_le_iff precise).mpr (Nat.lt_of_not_le less)
      omega
    obtain ⟨digits, rfl⟩ := Nat.exists_eq_succ_of_ne_zero precise.ne'
    have isPower : rounded = 10 ^ digits * 10 := by
      rw [← pow_succ]
      exact le_antisymm small large
    rw [Decimal.magnitude, isPower, Nat.mul_div_cancel _ (by decide),
      zpow_add_one₀ (by norm_num)]
    push_cast
    ring
  · rfl

theorem sign_carry
    (precision : Nat) (sign : Bool) (rounded : Nat) (place : Int) :
    (carry precision sign rounded place).sign = sign := by
  rw [carry]
  split_ifs <;> rfl

/-- What rounding to a context returns. -/
theorem fix_cases (fixed : context.fix number = .ok result) :
    (number.coefficient = 0 ∧ result.coefficient = 0) ∨
    number.coefficient ≠ 0 ∧
      (number.exponent < context.place number ∧
          result.exponent ≤ context.etop ∧
          result = carry context.precision number.sign
            (context.rounding.divide number.coefficient
              (context.place number - number.exponent).toNat)
            (context.place number) ∨
        context.place number ≤ number.exponent ∧
          digitCount number.coefficient + number.exponent -
            context.precision ≤ context.etop ∧
          result = number) := by
  simp only [DecimalContext.fix] at fixed
  split_ifs at fixed with zero overflows rounds tooLarge
  · cases fixed
    exact .inl ⟨zero, zero⟩
  · cases fixed
    exact .inr ⟨zero, .inl ⟨rounds, Int.not_lt.mp tooLarge, rfl⟩⟩
  · cases fixed
    exact .inr ⟨zero,
      .inr ⟨Int.not_lt.mp rounds, Int.not_lt.mp overflows, rfl⟩⟩

/-- What is returned is within half a unit in the last place. -/
theorem fix_near
    (precise : 0 < context.precision) (nonzero : number.coefficient ≠ 0)
    (fixed : context.fix number = .ok result) :
    result.sign = number.sign ∧
      |result.magnitude - number.magnitude| ≤
        10 ^ context.place number / 2 := by
  rcases fix_cases fixed with
    ⟨zero, -⟩ | ⟨-, ⟨rounds, -, rfl⟩ | ⟨-, -, rfl⟩⟩
  · exact absurd zero nonzero
  · rw [sign_carry, magnitude_carry precise _ (divide_le _ rounds.le)]
    exact ⟨rfl, magnitude_divide_near _ rounds.le⟩
  · refine ⟨rfl, ?_⟩
    rw [sub_self, abs_zero]
    exact div_nonneg (ten_zpow_pos _).le (by norm_num)

/-- A number below the largest exponent is rounded without an overflow. -/
theorem fix_returns
    (nonzero : number.coefficient ≠ 0)
    (below : number.adjusted < context.emax)
    (wide : context.etiny < context.etop) :
    ∃ result, context.fix number = .ok result := by
  rw [Decimal.adjusted] at below
  have isTop : context.etop = context.emax - context.precision + 1 := rfl
  have last : context.place number < context.etop :=
    max_lt (by omega) wide
  simp only [DecimalContext.fix, if_neg nonzero]
  rw [if_neg (by omega)]
  split_ifs with rounds tooLarge
  · have exponent : (carry context.precision number.sign
        (context.rounding.divide number.coefficient
          (context.place number - number.exponent).toNat)
        (context.place number)).exponent ≤ context.place number + 1 := by
      rw [carry]
      split_ifs
      · exact le_refl _
      · dsimp only
        omega
    omega
  · exact ⟨_, rfl⟩
  · exact ⟨_, rfl⟩

/-- What is returned is representable. -/
theorem representable_fix
    (precise : 0 < context.precision)
    (wide : context.etiny ≤ context.etop)
    (fixed : context.fix number = .ok result) :
    context.Representable result.value := by
  rw [DecimalContext.Representable, Decimal.abs_value]
  rcases fix_cases fixed with
    ⟨-, zero⟩ | ⟨-, ⟨rounds, isTop, rfl⟩ | ⟨least, below, rfl⟩⟩
  · refine ⟨context.etop, wide, le_refl _, 0, by positivity, ?_⟩
    rw [Decimal.magnitude, zero]
    simp
  · have bound := divide_le context.rounding rounds.le
    have low := le_max_right (digitCount number.coefficient +
      number.exponent - context.precision : Int) context.etiny
    change context.etiny ≤ context.place number at low
    rw [carry] at isTop ⊢
    split_ifs at isTop ⊢ with long
    · refine ⟨_, by dsimp only; omega, isTop, _, ?_, rfl⟩
      have positive : 0 < 10 ^ context.precision := by positivity
      have tenth := Nat.div_lt_self positive (show 1 < 10 by decide)
      exact (Nat.div_le_div_right bound).trans_lt tenth
    · exact ⟨_, low, isTop, _,
        (digitCount_le_iff precise).mp (Nat.not_lt.mp long), rfl⟩
  · have digits : (digitCount result.coefficient : Int) +
        result.exponent - context.precision ≤ result.exponent :=
      (le_max_left _ _).trans least
    have low : context.etiny ≤ result.exponent :=
      (le_max_right _ _).trans least
    by_cases high : result.exponent ≤ context.etop
    · refine ⟨_, low, high, _, ?_, rfl⟩
      exact (digitCount_le_iff precise).mp (by omega)
    · have isHigh : context.etop ≤ result.exponent := by omega
      refine ⟨context.etop, wide, le_refl _, _, ?_,
        (magnitude_pad isHigh).symm⟩
      refine (Nat.mul_lt_mul_of_pos_right (lt_pow_digitCount _)
        (by positivity)).trans_le ?_
      rw [← pow_add]
      exact Nat.pow_le_pow_right (by decide) (by omega)

end Fix

/-- A one below the last place is rounded off. -/
theorem Rounding.divide_one
    (mode : Rounding) {places : Nat} (positive : 0 < places) :
    mode.divide 1 places = 0 := by
  have large : 10 ≤ 10 ^ places := by
    calc
      10 = 10 ^ 1 := rfl
      _ ≤ 10 ^ places := Nat.pow_le_pow_right (by decide) positive
  simp only [Rounding.divide, Nat.div_eq_of_lt
    (show 1 < 10 ^ places by omega), Nat.mod_eq_of_lt
    (show 1 < 10 ^ places by omega)]
  rw [if_neg]
  omega

/-- A power of ten has the exponent it was made with, or the least one. -/
theorem scaleb_one
    {context : DecimalContext} (precise : 0 < context.precision)
    (wide : context.etiny ≤ context.etop) {shift : Int}
    (low : -(2 * (context.emax + context.precision)) ≤ shift)
    (high : shift ≤ context.emax) (positive : 0 ≤ context.emax) :
    ∃ result, context.scaleb ⟨false, 1, 0⟩ shift = .ok result ∧
      result.exponent = max shift context.etiny := by
  have one : digitCount 1 = 1 := by decide
  have zero : digitCount 0 = 1 := by decide
  have isTop : context.etop = context.emax - context.precision + 1 := rfl
  have inside : ¬ (shift < -(2 * (context.emax + context.precision)) ∨
      2 * (context.emax + context.precision) < shift) := by omega
  have isPlace : context.place ⟨false, 1, 0 + shift⟩ =
      max (1 + shift - context.precision) context.etiny := by
    rw [DecimalContext.place, one, zero_add]
    rfl
  simp only [DecimalContext.scaleb, if_neg inside, DecimalContext.fix,
    one, isPlace]
  rw [if_neg (by decide), if_neg (by push_cast; omega)]
  split_ifs with rounds tooLarge
  · have places : 0 < (max (1 + shift - context.precision) context.etiny -
        (0 + shift)).toNat := by omega
    rw [Rounding.divide_one _ places, carry, zero,
      if_neg (by omega)] at tooLarge
    dsimp only at tooLarge
    omega
  · have places : 0 < (max (1 + shift - context.precision) context.etiny -
        (0 + shift)).toNat := by omega
    rw [Rounding.divide_one _ places, carry, zero, if_neg (by omega)]
    exact ⟨_, rfl, by dsimp only; omega⟩
  · exact ⟨_, rfl, by dsimp only; omega⟩

/-! ## Rounding half up -/

/-- Rounding half up moves a magnitude by half a unit at most. -/
theorem halfUpAt_near (place : Int) (magnitude : ℚ) :
    |halfUpAt place magnitude - magnitude| ≤ 10 ^ place / 2 := by
  have positive := ten_zpow_pos place
  have lower := Int.floor_le (magnitude / 10 ^ place + 1 / 2)
  have upper := Int.lt_floor_add_one (magnitude / 10 ^ place + 1 / 2)
  have unit : magnitude / 10 ^ place * 10 ^ place = magnitude :=
    div_mul_cancel₀ _ positive.ne'
  have scaledLower := mul_le_mul_of_nonneg_right lower positive.le
  have scaledUpper := mul_lt_mul_of_pos_right upper positive
  rw [add_mul, unit] at scaledLower
  rw [add_mul, add_mul, unit] at scaledUpper
  rw [halfUpAt, abs_le]
  constructor
  · linarith
  · linarith

/-- The multiple that is nearer than half a unit is the rounded one. -/
theorem halfUpAt_eq_of_near
    {place : Int} {magnitude : ℚ} {multiple : Nat}
    (near : |multiple * 10 ^ place - magnitude| < 10 ^ place / 2) :
    halfUpAt place magnitude = multiple * 10 ^ place := by
  have positive := ten_zpow_pos place
  rw [abs_lt] at near
  have isFloor : ⌊magnitude / 10 ^ place + 1 / 2⌋ = (multiple : Int) := by
    rw [Int.floor_eq_iff]
    constructor
    · rw [← sub_le_iff_le_add, le_div_iff₀ positive, Int.cast_natCast]
      linarith
    · rw [← lt_sub_iff_add_lt, div_lt_iff₀ positive, Int.cast_natCast]
      linarith
  rw [halfUpAt, isFloor, Int.cast_natCast]

/-- A magnitude that is a multiple of the place is kept. -/
theorem halfUpAt_multiple (place : Int) (multiple : Nat) :
    halfUpAt place (multiple * 10 ^ place) = multiple * 10 ^ place := by
  apply halfUpAt_eq_of_near
  rw [sub_self, abs_zero]
  exact half_pos (ten_zpow_pos place)

/-! ## Quantizing and normalizing -/

section Quantize

variable {context : DecimalContext} {number result : Decimal}

theorem stripZeros_keeps (limit : Int) (digits : Nat) (number : Decimal) :
    (stripZeros limit digits number).sign = number.sign ∧
      (stripZeros limit digits number).magnitude = number.magnitude := by
  induction digits generalizing number with
  | zero => exact ⟨rfl, rfl⟩
  | succ digits induction =>
      rw [stripZeros]
      split_ifs with isZero
      · obtain ⟨sign, magnitude⟩ := induction ⟨number.sign,
          number.coefficient / 10, number.exponent + 1⟩
        refine ⟨sign, magnitude.trans ?_⟩
        have tens : number.coefficient =
            number.coefficient / 10 * 10 := by omega
        rw [Decimal.magnitude, Decimal.magnitude,
          zpow_add_one₀ (by norm_num)]
        nth_rewrite 2 [tens]
        push_cast
        ring
      · exact ⟨rfl, rfl⟩

/-- Normalizing keeps the value that rounding to the context gives. -/
theorem normalize_eq_ok
    (normal : context.normalize number = .ok result) :
    ∃ fixed, context.fix number = .ok fixed ∧
      result.value = fixed.value := by
  simp only [DecimalContext.normalize, bind_eq_ok_iff] at normal
  obtain ⟨fixed, isFixed, returned⟩ := normal
  refine ⟨fixed, isFixed, ?_⟩
  split_ifs at returned with zero
  · cases returned
    rw [Decimal.value, Decimal.value, Decimal.magnitude,
      Decimal.magnitude, zero]
    simp
  · cases returned
    obtain ⟨sign, magnitude⟩ := stripZeros_keeps context.emax
      (digitCount fixed.coefficient) fixed
    rw [Decimal.value, Decimal.value, sign, magnitude]

/-- A representable number is normalized to its value. -/
theorem normalize_exact
    (wide : context.etiny ≤ context.etop)
    (nonzero : number.coefficient ≠ 0)
    (representable : context.Representable number.value) :
    ∃ result, context.normalize number = .ok result ∧
      result.value = number.value := by
  obtain ⟨place, isPlace, isTop, atPlace⟩ := representable
  rw [Decimal.abs_value] at atPlace
  have first := atPlace.adjusted_lt nonzero
  have top : context.etop = context.emax - context.precision + 1 := rfl
  obtain ⟨fixed, isFixed, sign, fixedNonzero, magnitude⟩ :=
    fix_exact wide nonzero (by omega) isPlace atPlace
  have returns : ∃ result, context.normalize number = .ok result := by
    simp only [DecimalContext.normalize, bind_eq_ok_iff]
    exact ⟨_, fixed, isFixed, by rw [if_neg fixedNonzero]; rfl⟩
  obtain ⟨result, normal⟩ := returns
  refine ⟨result, normal, ?_⟩
  obtain ⟨again, isAgain, value⟩ := normalize_eq_ok normal
  cases isFixed.symm.trans isAgain
  rw [value, Decimal.value, Decimal.value, sign, magnitude]

theorem quantize_halfUp
    (wide : context.etiny ≤ context.etop)
    (halfUp : context.rounding = .halfUp)
    (nonzero : number.coefficient ≠ 0) {target : Int}
    (isPlace : context.etiny ≤ target)
    (below : number.adjusted ≤ context.emax)
    (fits : number.adjusted - target + 1 < context.precision)
    (isTarget : target ≤ context.emax)
    (atPlace : AtPlace context.precision target
      (halfUpAt target number.magnitude))
    (positive : 0 < halfUpAt target number.magnitude)
    (small : halfUpAt target number.magnitude <
      10 ^ (context.emax + 1)) :
    ∃ result, context.quantize number target = .ok result ∧
      result.sign = number.sign ∧ result.coefficient ≠ 0 ∧
      result.magnitude = halfUpAt target number.magnitude := by
  have isRescaled := magnitude_rescale_halfUp number target
  have rescaledSign : (number.rescale target .halfUp).sign =
      number.sign := by
    rw [Decimal.rescale]
    split_ifs <;> rfl
  have rescaledExponent : (number.rescale target .halfUp).exponent =
      target := by
    rw [Decimal.rescale]
    split_ifs <;> rfl
  have rescaledNonzero :
      (number.rescale target .halfUp).coefficient ≠ 0 := by
    intro zero
    rw [← isRescaled, Decimal.magnitude, zero, Nat.cast_zero, zero_mul]
      at positive
    exact positive.false
  have rescaledBelow :
      (number.rescale target .halfUp).adjusted ≤ context.emax := by
    rw [← log_magnitude rescaledNonzero, isRescaled, ← Int.lt_add_one_iff,
      ← Int.lt_zpow_iff_log_lt (by decide) positive]
    exact_mod_cast small
  have rescaledDigits :
      digitCount (number.rescale target .halfUp).coefficient ≤
        context.precision := by
    rw [← isRescaled] at atPlace
    have first := atPlace.adjusted_lt rescaledNonzero
    rw [Decimal.adjusted, rescaledExponent] at first
    omega
  rw [← isRescaled] at atPlace
  obtain ⟨result, fixed, sign, resultNonzero, magnitude⟩ :=
    fix_exact wide rescaledNonzero rescaledBelow isPlace atPlace
  refine ⟨result, ?_, sign.trans rescaledSign, resultNonzero,
    magnitude.trans isRescaled⟩
  simp only [DecimalContext.quantize, halfUp]
  rw [if_neg (by omega), if_neg nonzero, if_neg (by omega),
    if_neg (by omega)]
  exact fixed

end Quantize

end ScientificResourceLab.Python
