import Mathlib.Algebra.Order.Field.Rat
import Mathlib.Tactic.FieldSimp
import Mathlib.Tactic.Ring
import ScientificResourceLab.Contracts.Canonical

/-!
# Decimal strings

The decimal-string policy of `srl.contracts.canonical`: an optional sign,
digits, and an optional fraction, without an exponent.  `policyValue` is the
rational that such a string denotes, and `DecimalTuple.value` the rational of
a sign, a digit tuple and an exponent.

Every branch of the renderer lays out digits before and after the point, so
one lemma about layouts (`layout_isDecimalString`, `layout_policyValue`)
serves all of them; what is left is where the point goes.
-/

namespace ScientificResourceLab.Contracts

open Python Steps

/-! ## Policy strings -/

/-- A text without its minus sign. -/
def unsigned (value : Text) : Text :=
  if value.head? = some (codePoint '-') then value.drop 1 else value

/-- The digits before the point. -/
def wholePart (value : Text) : Text :=
  (unsigned value).takeWhile (· ≠ codePoint '.')

/-- The point and what follows it. -/
def pointPart (value : Text) : Text :=
  (unsigned value).dropWhile (· ≠ codePoint '.')

/-- `DECIMAL_STRING_PATTERN`, matched in full. -/
def isDecimalString (value : Text) : Bool :=
  !(wholePart value).isEmpty && (wholePart value).all CodePoint.isDigit &&
    (pointPart value = [] ||
      !((pointPart value).drop 1).isEmpty &&
        ((pointPart value).drop 1).all CodePoint.isDigit)

/-- The rational that a policy string denotes. -/
def policyValue (value : Text) : ℚ :=
  (if value.head? = some (codePoint '-') then -1 else 1) *
    digitsValue (wholePart value ++ (pointPart value).drop 1) /
    10 ^ ((pointPart value).drop 1).length

/-! ## Rendering -/

/-- `Decimal.as_tuple` of a finite `Decimal`. -/
structure DecimalTuple where
  sign : Bool
  digits : List (Fin 10)
  exponent : Int

/-- A value handed to `decimal_to_str`. -/
inductive PrecisionValue where
  | int (value : Int)
  | str (value : Text)
  | decimal (value : DecimalTuple)
  | notFinite (repr : Text)
  | other (typeName : Text)

/-- `_check_decimal_string_shape`. -/
def checkDecimalStringShape (value : Text) : Except PyError Unit :=
  refuseIf (isDecimalString value = false)
    ⟨.decimalPolicyError,
      text "string " ++ quoted value ++
        text " is not a decimal policy string (must match " ++
        quoted (text "^-?[0-9]+(\\.[0-9]+)?$") ++ text ")"⟩

/-- The coefficient of a tuple, `0` for the empty one. -/
def coefficientText (digits : List (Fin 10)) : Text :=
  if digits = [] then text "0" else digits.map fun digit => digitPoint digit.val

/-- The digits of the renderer before and after the point. -/
def splitCoefficient (coefficient : Text) (exponent : Int) :
    Text × Text :=
  if 0 ≤ exponent then
    (coefficient ++ List.replicate exponent.toNat (codePoint '0'), [])
  else
    let fracLen := (-exponent).toNat
    if fracLen < coefficient.length then
      (coefficient.take (coefficient.length - fracLen),
        coefficient.drop (coefficient.length - fracLen))
    else
      (text "0",
        List.replicate (fracLen - coefficient.length) (codePoint '0') ++
          coefficient)

/-- A sign, digits, and a point when digits follow it. -/
def layout (negative : Bool) (whole fraction : Text) : Text :=
  (if negative then [codePoint '-'] else []) ++ whole ++
    (if fraction = [] then [] else codePoint '.' :: fraction)

/-- `_decimal_tuple_to_str`. -/
def decimalTupleToStr (value : DecimalTuple) : Except PyError Text := do
  let (whole, fraction) :=
    splitCoefficient (coefficientText value.digits) value.exponent
  let rendered := layout value.sign whole fraction
  checkDecimalStringShape rendered
  pure rendered

/-- `decimal_to_str`. -/
def decimalToStr : PrecisionValue → Except PyError Text
  | .int value =>
      if intMaxStrDigits < (decimalText value.natAbs).length then
        .error (raised .valueError
          "Exceeds the limit for integer string conversion")
      else .ok (intText value)
  | .str value => do
      checkDecimalStringShape value
      pure value
  | .decimal value => decimalTupleToStr value
  | .notFinite repr =>
      .error ⟨.decimalPolicyError,
        text "Decimal " ++ repr ++
          text " is not finite and cannot be a policy string"⟩
  | .other typeName =>
      .error ⟨.decimalPolicyError,
        text "value of type " ++ quoted typeName ++
          text " is not a Decimal/int/str; precision-sensitive fields " ++
          text "must be rendered to a decimal string"⟩

/-- The natural number of a digit tuple. -/
def digitsNat (digits : List (Fin 10)) : Nat :=
  digits.foldl (fun value digit => 10 * value + digit.val) 0

/-- The rational of a tuple. -/
def DecimalTuple.value (tuple : DecimalTuple) : ℚ :=
  (if tuple.sign then -1 else 1) * digitsNat tuple.digits *
    10 ^ tuple.exponent

/-- The digits of a natural number, one for zero. -/
def natDigits (value : Nat) : List (Fin 10) :=
  if value = 0 then [0]
  else (Nat.digits 10 value).reverse.map fun digit => Fin.ofNat 10 digit

/-- `Decimal` on a policy string, as a tuple. -/
def decimalOf (value : Text) : DecimalTuple where
  sign := value.head? = some (codePoint '-')
  digits :=
    natDigits (digitsValue (wholePart value ++ (pointPart value).drop 1))
  exponent := -((pointPart value).drop 1).length

/-! ## Layouts -/

/-- Digits, and at least one of them. -/
def Digits (value : Text) : Prop :=
  ∀ point ∈ value, CodePoint.isDigit point = true

theorem Digits.ne_point
    {value : Text} (digits : Digits value) :
    ∀ point ∈ value, decide (point ≠ codePoint '.') = true := by
  intro point member
  refine decide_eq_true ?_
  rintro rfl
  exact absurd (digits _ member) (by decide)

theorem unsigned_layout
    (negative : Bool) {whole fraction : Text} (digits : Digits whole)
    (nonempty : whole ≠ []) :
    unsigned (layout negative whole fraction) =
      whole ++ (if fraction = [] then [] else codePoint '.' :: fraction) ∧
    ((layout negative whole fraction).head? = some (codePoint '-') ↔
      negative = true) := by
  cases negative with
  | true =>
      refine ⟨?_, ?_⟩
      · simp [unsigned, layout]
      · simp [layout]
  | false =>
      obtain ⟨first, rest, rfl⟩ := List.exists_cons_of_ne_nil nonempty
      have notMinus : first ≠ codePoint '-' := by
        rintro rfl
        exact absurd (digits _ List.mem_cons_self) (by decide)
      refine ⟨?_, ?_⟩
      · simp [unsigned, layout, notMinus]
      · simp [layout, notMinus]

theorem layout_parts
    (negative : Bool) {whole fraction : Text} (digits : Digits whole)
    (nonempty : whole ≠ []) :
    wholePart (layout negative whole fraction) = whole ∧
      pointPart (layout negative whole fraction) =
        (if fraction = [] then [] else codePoint '.' :: fraction) := by
  obtain ⟨body, -⟩ := @unsigned_layout negative whole fraction digits nonempty
  rw [wholePart, pointPart, body]
  by_cases empty : fraction = []
  · rw [if_pos empty, List.append_nil]
    exact ⟨List.takeWhile_eq_self_iff.mpr digits.ne_point,
      List.dropWhile_eq_nil_iff.mpr digits.ne_point⟩
  · rw [if_neg empty, List.takeWhile_append_of_pos digits.ne_point,
      List.dropWhile_append_of_pos digits.ne_point]
    simp

theorem drop_pointPart (fraction : Text) :
    (if fraction = [] then [] else codePoint '.' :: fraction).drop 1 =
      fraction := by
  by_cases empty : fraction = []
  · rw [if_pos empty, empty]
    rfl
  · rw [if_neg empty]
    rfl

theorem layout_isDecimalString
    (negative : Bool) {whole fraction : Text} (digits : Digits whole)
    (nonempty : whole ≠ []) (fractionDigits : Digits fraction) :
    isDecimalString (layout negative whole fraction) = true := by
  obtain ⟨isWhole, isPoint⟩ :=
    @layout_parts negative whole fraction digits nonempty
  rw [isDecimalString, isWhole, isPoint, drop_pointPart]
  have allWhole := List.all_eq_true.mpr digits
  have allFraction := List.all_eq_true.mpr fractionDigits
  by_cases empty : fraction = []
  · simp [empty, nonempty, allWhole]
  · simp [empty, nonempty, allWhole, allFraction]

/-- What a layout of digits denotes. -/
theorem layout_policyValue
    (negative : Bool) {whole fraction : Text} (digits : Digits whole)
    (nonempty : whole ≠ []) :
    policyValue (layout negative whole fraction) =
      (if negative then -1 else 1) * digitsValue (whole ++ fraction) /
        10 ^ fraction.length := by
  obtain ⟨isWhole, isPoint⟩ :=
    @layout_parts negative whole fraction digits nonempty
  obtain ⟨-, sign⟩ := @unsigned_layout negative whole fraction digits nonempty
  rw [policyValue, isWhole, isPoint, drop_pointPart]
  by_cases minus : negative = true
  · rw [if_pos (sign.mpr minus), if_pos minus]
  · rw [if_neg (fun holds => minus (sign.mp holds)), if_neg minus]

/-! ## Coefficients -/

theorem digitsValue_map_digitPoint (digits : List (Fin 10)) :
    digitsValue (digits.map fun digit => digitPoint digit.val) =
      digitsNat digits := by
  have general : ∀ start : Nat,
      (digits.map fun digit => digitPoint digit.val).foldl
          (fun value digit => 10 * value + (digit.val - 48)) start =
        digits.foldl (fun value digit => 10 * value + digit.val) start := by
    induction digits with
    | nil => exact fun _ => rfl
    | cons digit digits induction =>
        intro start
        rw [List.map_cons, List.foldl_cons, List.foldl_cons,
          digitPoint_val digit.isLt, Nat.add_sub_cancel_left]
        exact induction _
  exact general 0

theorem coefficientText_digits (digits : List (Fin 10)) :
    Digits (coefficientText digits) := by
  intro point member
  rw [coefficientText] at member
  split_ifs at member with empty
  · have zero : point = codePoint '0' := by simpa [text] using member
    rw [zero]
    decide
  · obtain ⟨digit, -, rfl⟩ := List.mem_map.mp member
    exact digitPoint_isDigit digit.isLt

theorem coefficientText_ne_nil (digits : List (Fin 10)) :
    coefficientText digits ≠ [] := by
  rw [coefficientText]
  split_ifs with empty
  · decide
  · simpa using empty

theorem digitsValue_coefficientText (digits : List (Fin 10)) :
    digitsValue (coefficientText digits) = digitsNat digits := by
  rw [coefficientText]
  split_ifs with empty
  · rw [empty]
    decide
  · exact digitsValue_map_digitPoint digits

theorem zeros_digits (count : Nat) :
    Digits (List.replicate count (codePoint '0')) := by
  intro point member
  rw [List.eq_of_mem_replicate member]
  decide

/-- Digits around the point that denote a scaled coefficient. -/
structure PointSplit
    (coefficient : Text) (exponent : Int) (parts : Text × Text) :
    Prop where
  whole : Digits parts.1
  nonempty : parts.1 ≠ []
  fraction : Digits parts.2
  value : (digitsValue (parts.1 ++ parts.2) : ℚ) / 10 ^ parts.2.length =
    digitsValue coefficient * 10 ^ exponent

/-- Dividing by a power is scaling by a negative exponent. -/
theorem div_pow_eq_mul_zpow
    (value : ℚ) {count : Nat} {exponent : Int}
    (same : (count : Int) = -exponent) :
    value / 10 ^ count = value * 10 ^ exponent := by
  rw [div_eq_mul_inv, ← zpow_natCast, ← zpow_neg, same, neg_neg]

theorem pointSplit_zeros
    {coefficient : Text} (digits : Digits coefficient)
    (nonempty : coefficient ≠ []) (count : Nat) :
    PointSplit coefficient count
      (coefficient ++ List.replicate count (codePoint '0'), []) where
  whole := by
    intro point member
    rcases List.mem_append.mp member with inCoefficient | inZeros
    · exact digits point inCoefficient
    · exact zeros_digits _ point inZeros
  nonempty := fun empty => nonempty (List.append_eq_nil_iff.mp empty).1
  fraction := fun point member => absurd member List.not_mem_nil
  value := by
    rw [List.append_nil, digitsValue_append, digitsValue_zeros,
      List.length_replicate]
    simp

theorem pointSplit_inside
    {coefficient : Text} (digits : Digits coefficient)
    {fracLen : Nat} (longer : fracLen < coefficient.length) :
    PointSplit coefficient (-fracLen)
      (coefficient.take (coefficient.length - fracLen),
        coefficient.drop (coefficient.length - fracLen)) where
  whole := fun point member => digits point (List.mem_of_mem_take member)
  nonempty := by
    intro empty
    have lengths := congrArg List.length empty
    rw [List.length_take, List.length_nil] at lengths
    omega
  fraction := fun point member =>
    digits point (List.mem_of_mem_drop member)
  value := by
    rw [List.take_append_drop, List.length_drop]
    apply div_pow_eq_mul_zpow
    omega

theorem pointSplit_before
    {coefficient : Text} (digits : Digits coefficient)
    {fracLen : Nat} (shorter : coefficient.length ≤ fracLen) :
    PointSplit coefficient (-fracLen)
      (text "0",
        List.replicate (fracLen - coefficient.length) (codePoint '0') ++
          coefficient) where
  whole := by
    intro point member
    have zero : point = codePoint '0' := List.mem_singleton.mp member
    rw [zero]
    decide
  nonempty := List.cons_ne_nil _ _
  fraction := by
    intro point member
    rcases List.mem_append.mp member with inZeros | inCoefficient
    · exact zeros_digits _ point inZeros
    · exact digits point inCoefficient
  value := by
    have zero : digitsValue (text "0") = 0 := by decide
    rw [digitsValue_append, digitsValue_append, digitsValue_zeros, zero,
      Nat.zero_mul, Nat.zero_mul, Nat.zero_add, Nat.zero_add,
      List.length_append, List.length_replicate]
    apply div_pow_eq_mul_zpow
    omega

/-- Where the renderer puts the point. -/
theorem splitCoefficient_spec
    {coefficient : Text} (digits : Digits coefficient)
    (nonempty : coefficient ≠ []) (exponent : Int) :
    PointSplit coefficient exponent
      (splitCoefficient coefficient exponent) := by
  by_cases positive : 0 ≤ exponent
  · obtain ⟨count, rfl⟩ := Int.eq_ofNat_of_zero_le positive
    rw [splitCoefficient, if_pos positive, Int.toNat_natCast]
    exact pointSplit_zeros digits nonempty count
  · obtain ⟨fracLen, isLen⟩ : ∃ fracLen : Nat, exponent = -fracLen :=
      ⟨(-exponent).toNat, by omega⟩
    subst isLen
    rw [splitCoefficient, if_neg positive, neg_neg, Int.toNat_natCast]
    by_cases longer : fracLen < coefficient.length
    · simp only [if_pos longer]
      exact pointSplit_inside digits longer
    · simp only [if_neg longer]
      exact pointSplit_before digits (not_lt.mp longer)

/-! ## Exactness -/

theorem decimalTupleToStr_exact (tuple : DecimalTuple) :
    ∃ rendered, decimalTupleToStr tuple = .ok rendered ∧
      isDecimalString rendered = true ∧
      policyValue rendered = tuple.value := by
  have split := splitCoefficient_spec
    (coefficientText_digits tuple.digits)
    (coefficientText_ne_nil tuple.digits) tuple.exponent
  have shaped := layout_isDecimalString tuple.sign split.whole
    split.nonempty split.fraction
  refine ⟨_, ?_, shaped, ?_⟩
  · simp only [decimalTupleToStr, checkDecimalStringShape, bind_eq_ok_iff,
      refuseIf_eq_ok_iff, pure_eq_ok_iff]
    exact ⟨⟨⟩, by simp [shaped], trivial⟩
  · rw [layout_policyValue tuple.sign split.whole split.nonempty,
      mul_div_assoc, split.value, digitsValue_coefficientText,
      DecimalTuple.value, mul_assoc]

theorem digitsNat_reverse
    {digits : List Nat} (small : ∀ digit ∈ digits, digit < 10) :
    digitsNat (digits.reverse.map fun digit => Fin.ofNat 10 digit) =
      Nat.ofDigits 10 digits := by
  induction digits with
  | nil => rfl
  | cons digit digits induction =>
      have rest := induction fun other member =>
        small other (List.mem_cons_of_mem _ member)
      rw [List.reverse_cons, List.map_append, digitsNat, List.foldl_append]
      change 10 * digitsNat _ + (Fin.ofNat 10 digit).val = _
      rw [rest, Nat.ofDigits_cons, Fin.val_ofNat,
        Nat.mod_eq_of_lt (small digit List.mem_cons_self), Nat.add_comm]

theorem digitsNat_natDigits (value : Nat) :
    digitsNat (natDigits value) = value := by
  rw [natDigits]
  split_ifs with zero
  · rw [zero]
    rfl
  · rw [digitsNat_reverse fun digit member =>
      Nat.digits_lt_base (by decide) member, Nat.ofDigits_digits]

/-- `Decimal` keeps the value of a policy string. -/
theorem decimalOf_value (value : Text) :
    (decimalOf value).value = policyValue value := by
  rw [DecimalTuple.value, decimalOf, policyValue]
  simp only [digitsNat_natDigits]
  rw [← div_pow_eq_mul_zpow _ (by rw [neg_neg])]
  simp

/--
Every finite `Decimal` is rendered as a policy string of its exact value, a
policy string is rendered as itself, and the `Decimal` of a policy string is
rendered with the same value.
-/
theorem decimalToStr_exact :
    (∀ tuple : DecimalTuple, ∃ rendered,
      decimalToStr (.decimal tuple) = .ok rendered ∧
        isDecimalString rendered = true ∧
        policyValue rendered = tuple.value) ∧
    ∀ value : Text, isDecimalString value = true →
      decimalToStr (.str value) = .ok value ∧
        ∃ rendered,
          decimalToStr (.decimal (decimalOf value)) = .ok rendered ∧
            policyValue rendered = policyValue value := by
  refine ⟨decimalTupleToStr_exact, ?_⟩
  intro value shaped
  constructor
  · simp only [decimalToStr, checkDecimalStringShape, bind_eq_ok_iff,
      refuseIf_eq_ok_iff, pure_eq_ok_iff]
    exact ⟨⟨⟩, by simp [shaped], trivial⟩
  · obtain ⟨rendered, computed, -, exact⟩ :=
      decimalTupleToStr_exact (decimalOf value)
    exact ⟨rendered, computed, exact.trans (decimalOf_value value)⟩

/-- A policy string with leading and trailing zeros. -/
theorem decimalToStr_exact_padded :
    isDecimalString (text "-00.50") = true ∧
      decimalToStr (.str (text "-00.50")) = .ok (text "-00.50") ∧
        ∃ rendered,
          decimalToStr (.decimal (decimalOf (text "-00.50"))) =
              .ok rendered ∧
            policyValue rendered = policyValue (text "-00.50") :=
  ⟨by decide, decimalToStr_exact.2 (text "-00.50") (by decide)⟩

end ScientificResourceLab.Contracts
