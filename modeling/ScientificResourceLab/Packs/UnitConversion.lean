import ScientificResourceLab.Contracts.Decimals
import ScientificResourceLab.Packs.UnitNames
import ScientificResourceLab.Python.DecimalArithmetic

/-!
# Unit conversion

`convert` of `srl.packs.adapters.units`: the value times the factor that Pint
reports, rounded to fifty significant digits.  Three contexts take part.  The
product is made with eighty digits, `quantize` rounds half up with eighty
digits, and `normalize`, which only has to strip zeros, works in the default
context of twenty-eight digits and rounds once more.

So the conversion denotes the product rounded to fifty digits exactly when
that number is representable in the default context (`convert_exact_iff`).
-/

namespace ScientificResourceLab.Packs.Units

open Python Contracts Steps

/-! ## Pint -/

/-- The parts of Pint that the adapter uses; a unit that it does not parse is
`none`, a dimensionality holds the names and the exponents as texts. -/
structure Pint where
  Quantity : Type
  parseUnits : Text → Option Quantity
  dimensionality : Quantity → List (Text × Text)
  factorText : Quantity → Quantity → Text

/-- The exponents of a `Dimension`, in the order of the names. -/
abbrev Dimension := List (Text × Int)

/-- A `UnitError`. -/
def unitError (message : Text) : PyError :=
  ⟨.unitError, message⟩

/-- `Dimension.from_container`. -/
def fromContainer (container : List (Text × Text)) :
    Except PyError Dimension := do
  let exponents ← container.mapM fun entry =>
    match intOf entry.2 with
    | some exponent => .ok (entry.1, exponent)
    | none => .error ⟨.valueError,
        text "invalid literal for int() with base 10: " ++ quoted entry.2⟩
  pure ((exponents.filter fun entry => entry.2 ≠ 0).insertionSort
    fun left right => left.1 ≤ right.1)

/-- `Dimension.__str__`. -/
def dimensionText (dimension : Dimension) : Text :=
  if dimension = [] then text "1"
  else List.intercalate (text " * ") (dimension.map fun entry =>
    if entry.2 = 1 then entry.1
    else entry.1 ++ text "^" ++ intText entry.2)

variable (tables : UnicodeTables) (pint : Pint)

/-- `_parse_pint`. -/
def parsePint (unit : Text) : Except PyError pint.Quantity :=
  match pint.parseUnits unit with
  | some parsed => .ok parsed
  | none =>
      match pint.parseUnits (normaliseUcum tables unit) with
      | some parsed => .ok parsed
      | none => .error (unitError (text "unit " ++ quoted unit ++
          text " is not a recognized unit in the pinned QUDT subset"))

/-- `_parse_unit_or_raise`. -/
def parseUnitOrRaise (unit context : Text) :
    Except PyError (Dimension × pint.Quantity) := do
  refuseIf (strip unit = [])
    (unitError (text "unit for " ++ context ++
      text " must be a non-empty string"))
  gateTokens tables unit context
  let parsed ← parsePint tables pint unit
  let dimension ← fromContainer (pint.dimensionality parsed)
  pure (dimension, parsed)

/-- The conversion factor between two units, as Pint prints it. -/
def conversionFactor (fromUnit toUnit : Text) : Except PyError Text := do
  let source ← parseUnitOrRaise tables pint fromUnit (text "from_unit")
  let target ← parseUnitOrRaise tables pint toUnit (text "to_unit")
  refuseIf (source.1 ≠ target.1)
    (unitError (text "cannot convert " ++ quoted fromUnit ++ text " to " ++
      quoted toUnit ++ text ": dimensions differ (" ++
      dimensionText source.1 ++ text " vs " ++ dimensionText target.1 ++
      text ")"))
  pure (pint.factorText source.2 target.2)

/-! ## Decimals of texts -/

/-- `Decimal` on a policy string. -/
def policyDecimal (value : Text) : Decimal where
  sign := value.head? = some (codePoint '-')
  coefficient := digitsValue (wholePart value ++ (pointPart value).drop 1)
  exponent := -((pointPart value).drop 1).length

/-- The exponent of a numeral, given what follows its digits. -/
def numeralExponent : Text → Option Int
  | [] => some 0
  | _ :: rest =>
      let negative := rest.head? = some (codePoint '-')
      let digits :=
        if negative ∨ rest.head? = some (codePoint '+') then rest.drop 1
        else rest
      if digits ≠ [] ∧ digits.all CodePoint.isDigit then
        some (if negative then -digitsValue digits else digitsValue digits)
      else none

/-- `Decimal` on a numeral with an optional exponent. -/
def decimalOfNumeral (numeral : Text) : Option Decimal :=
  let negative := numeral.head? = some (codePoint '-')
  let body :=
    if negative ∨ numeral.head? = some (codePoint '+') then numeral.drop 1
    else numeral
  let isMark := fun point => point = codePoint 'e' ∨ point = codePoint 'E'
  let mantissa := body.takeWhile (¬ isMark ·)
  let whole := mantissa.takeWhile (· ≠ codePoint '.')
  let fraction := (mantissa.dropWhile (· ≠ codePoint '.')).drop 1
  match numeralExponent (body.dropWhile (¬ isMark ·)) with
  | some exponent =>
      if whole ++ fraction ≠ [] ∧
          (whole ++ fraction).all CodePoint.isDigit then
        some ⟨negative, digitsValue (whole ++ fraction),
          exponent - fraction.length⟩
      else none
  | none => none

/-- `_validate_decimal_value` on a string. -/
def validateDecimalValue (value : Text) : Except PyError Decimal := do
  refuseIf (strip value = [])
    (unitError (text "value must be a non-empty decimal string, got " ++
      quoted value))
  refuseIf (isDecimalString value = false)
    (unitError (text "value " ++ quoted value ++
      text " must match the decimal-string policy (" ++
      quoted (text "^-?[0-9]+(\\.[0-9]+)?$") ++
      text "); no exponent, no float coercion"))
  pure (policyDecimal value)

/-! ## Converting -/

/-- `CONVERSION_SIG_DIGITS`. -/
def conversionSigDigits : Nat := 50

/-- `_DECIMAL_PREC`. -/
def decimalPrec : Nat := 80

/-- The context that `decimal` starts with. -/
def defaultContext : DecimalContext :=
  ⟨28, .halfEven, -999999, 999999⟩

/-- `Context(prec=_DECIMAL_PREC)`. -/
def productContext : DecimalContext :=
  { defaultContext with precision := decimalPrec }

/-- The context of the quantisation. -/
def quantiseContext (sigDigits : Nat) : DecimalContext :=
  { defaultContext with
    precision := max (sigDigits + 2) decimalPrec
    rounding := .halfUp }

/-- `format(number, "f")`. -/
def formatFixed (number : Decimal) : Text :=
  let parts :=
    splitCoefficient (decimalText number.coefficient) number.exponent
  layout number.sign parts.1 parts.2

/-- `_quantise_to_sig_digits`. -/
def quantiseToSigDigits (value : Decimal) (sigDigits : Nat) :
    Except DecimalSignal Text :=
  if value.coefficient = 0 then .ok (text "0")
  else do
    let firstSigPos := digitCount value.coefficient + value.exponent
    let targetExponent := firstSigPos - sigDigits
    let quantiser ← defaultContext.scaleb ⟨false, 1, 0⟩ targetExponent
    let quantised ← (quantiseContext sigDigits).quantize value
      quantiser.exponent
    let normalised ← defaultContext.normalize quantised
    let rendered := formatFixed normalised
    pure (if rendered ∈ [text "-0", text "-0.0", text "+0"] then text "0"
      else rendered)

/-- The exception of a trapped signal. -/
def signalled {α : Type} : Except DecimalSignal α → Except PyError α
  | .ok value => .ok value
  | .error .invalidOperation =>
      .error (raised .invalidOperation "InvalidOperation")
  | .error .overflow => .error (raised .decimalOverflow "Overflow")

/-- The product of `convert`, with the handler around it. -/
def convertedProduct (value fromUnit toUnit : Text) (number : Decimal)
    (numeral : Text) : Except PyError Decimal :=
  let refusal := unitError (text "conversion " ++ quoted value ++
    text " " ++ quoted fromUnit ++ text " -> " ++ quoted toUnit ++
    text " is not representable")
  match decimalOfNumeral numeral with
  | none => .error refusal
  | some factor =>
      match productContext.multiply number factor with
      | .error .invalidOperation => .error refusal
      | product => signalled product

/-- `convert`. -/
def convert (value fromUnit toUnit : Text) : Except PyError Text := do
  let number ← validateDecimalValue value
  let numeral ← conversionFactor tables pint fromUnit toUnit
  let product ← convertedProduct value fromUnit toUnit number numeral
  signalled (quantiseToSigDigits product conversionSigDigits)

/-! ## What is denoted -/

/-- A result that is a policy string of a rational. -/
def Denotes (result : Except PyError Text) (value : ℚ) : Prop :=
  ∃ rendered, result = .ok rendered ∧ isDecimalString rendered = true ∧
    policyValue rendered = value

theorem value_policyDecimal (value : Text) :
    (policyDecimal value).value = policyValue value := by
  rw [Decimal.value, Decimal.magnitude, policyDecimal, policyValue]
  simp only [decide_eq_true_eq]
  rw [← div_pow_eq_mul_zpow _ (by rw [neg_neg])]
  rw [mul_div_assoc]

theorem decimalText_ne_nil (value : Nat) : decimalText value ≠ [] := by
  obtain ⟨digit, rest, isText, -⟩ := decimalText_head value
  rw [isText]
  exact List.cons_ne_nil digit rest

/-- A number is printed as a policy string of its value. -/
theorem formatFixed_exact (number : Decimal) :
    isDecimalString (formatFixed number) = true ∧
      policyValue (formatFixed number) = number.value := by
  have split := splitCoefficient_spec
    (decimalText_isDigit number.coefficient)
    (decimalText_ne_nil number.coefficient) number.exponent
  refine ⟨layout_isDecimalString number.sign split.whole split.nonempty
    split.fraction, ?_⟩
  rw [formatFixed, layout_policyValue number.sign split.whole
    split.nonempty, mul_div_assoc, split.value, digitsValue_decimalText,
    Decimal.value, Decimal.magnitude]

theorem policyValue_zero : policyValue (text "0") = 0 := by
  decide +kernel

theorem policyValue_negativeZero
    {rendered : Text}
    (isZero : rendered ∈ [text "-0", text "-0.0", text "+0"])
    (shaped : isDecimalString rendered = true) :
    policyValue rendered = 0 := by
  simp only [List.mem_cons, List.not_mem_nil, or_false] at isZero
  rcases isZero with rfl | rfl | rfl
  · decide +kernel
  · decide +kernel
  · revert shaped
    decide

/-- What the quantisation returns for a normalised number. -/
theorem rendered_exact (number : Decimal) :
    isDecimalString (if formatFixed number ∈
        [text "-0", text "-0.0", text "+0"] then text "0"
        else formatFixed number) = true ∧
      policyValue (if formatFixed number ∈
        [text "-0", text "-0.0", text "+0"] then text "0"
        else formatFixed number) = number.value := by
  obtain ⟨shaped, value⟩ := formatFixed_exact number
  split_ifs with isZero
  · refine ⟨by decide, ?_⟩
    rw [policyValue_zero, ← value, policyValue_negativeZero isZero shaped]
  · exact ⟨shaped, value⟩

theorem defaultContext_precise : 0 < defaultContext.precision := by
  decide

theorem defaultContext_wide :
    defaultContext.etiny ≤ defaultContext.etop := by
  decide

/-- Every returned text denotes a number of the default context. -/
theorem representable_of_quantise
    {value : Decimal} {sigDigits : Nat} {rendered : Text}
    (returned : quantiseToSigDigits value sigDigits = .ok rendered) :
    defaultContext.Representable (policyValue rendered) := by
  rw [quantiseToSigDigits] at returned
  split_ifs at returned with zero
  · cases returned
    rw [policyValue_zero]
    refine ⟨0, by decide, by decide, 0, by decide, by simp⟩
  · simp only [bind_eq_ok_iff, pure_eq_ok_iff] at returned
    obtain ⟨quantiser, -, quantised, -, normalised, normal, rfl⟩ :=
      returned
    obtain ⟨fixed, isFixed, value⟩ := normalize_eq_ok normal
    rw [(rendered_exact normalised).2, value]
    exact representable_fix defaultContext_precise defaultContext_wide
      isFixed

/-! ## Quantising exactly -/

/-- The place that a number is quantised at. -/
def quantisePlace (value : Decimal) : Int :=
  max (value.adjusted + 1 - conversionSigDigits) defaultContext.etiny

theorem lt_of_representable
    {value : ℚ} (representable : defaultContext.Representable value) :
    |value| < 10 ^ (defaultContext.emax + 1) := by
  obtain ⟨place, -, isTop, coefficient, small, isValue⟩ := representable
  have first : (coefficient : ℚ) * 10 ^ place < 10 ^ (28 + place) := by
    rw [zpow_add₀ (by norm_num)]
    refine mul_lt_mul_of_pos_right ?_ (ten_zpow_pos place)
    exact_mod_cast small
  have top : place ≤ 999972 := isTop
  rw [isValue]
  exact first.trans_le (zpow_le_zpow_right₀ (by norm_num)
    (show 28 + place ≤ (999999 : Int) + 1 by omega))

/-- A rounded magnitude is a short multiple of the place. -/
theorem atPlace_halfUpAt
    {value : Decimal} (nonzero : value.coefficient ≠ 0) {place : Int}
    (low : value.adjusted + 1 - conversionSigDigits ≤ place) :
    AtPlace decimalPrec place (halfUpAt place value.magnitude) := by
  have rescaled := magnitude_rescale_halfUp value place
  have exponent : (value.rescale place .halfUp).exponent = place := by
    rw [Decimal.rescale]
    split_ifs <;> rfl
  rw [Decimal.magnitude, exponent] at rescaled
  refine ⟨_, ?_, rescaled.symm⟩
  have near := (abs_le.mp (halfUpAt_near place value.magnitude)).2
  have first : value.magnitude < 10 ^ (50 + place) := by
    have below : value.magnitude < 10 ^ (value.adjusted + 1) := by
      have log := Int.lt_zpow_succ_log_self (show 1 < 10 by decide)
        value.magnitude
      rw [log_magnitude nonzero] at log
      exact_mod_cast log
    refine below.trans_le (zpow_le_zpow_right₀ (by norm_num) ?_)
    have digits : (conversionSigDigits : Int) = 50 := rfl
    omega
  rw [← rescaled, zpow_add₀ (by norm_num)] at *
  have positive := ten_zpow_pos place
  have bounded : ((value.rescale place .halfUp).coefficient : ℚ) *
      10 ^ place < (10 ^ 50 + 1) * 10 ^ place := by
    have cast : (10 : ℚ) ^ (50 : Int) = 10 ^ 50 := by norm_cast
    rw [cast] at first
    linarith
  have small := lt_of_mul_lt_mul_right bounded positive.le
  have natural : (value.rescale place .halfUp).coefficient <
      10 ^ 50 + 1 := by
    exact_mod_cast small
  exact natural.trans (by decide)

/-- A number whose rounding is representable is quantised to it. -/
theorem quantise_exact
    {value : Decimal} (nonzero : value.coefficient ≠ 0)
    (below : value.adjusted ≤ defaultContext.emax)
    (least : -1000078 ≤ value.adjusted)
    (positive : 0 < halfUpAt (quantisePlace value) value.magnitude)
    (representable : defaultContext.Representable
      (halfUpAt (quantisePlace value) value.magnitude)) :
    ∃ rendered,
      quantiseToSigDigits value conversionSigDigits = .ok rendered ∧
        isDecimalString rendered = true ∧
        policyValue rendered = (if value.sign then -1 else 1) *
          halfUpAt (quantisePlace value) value.magnitude := by
  have digits : (conversionSigDigits : Int) = 50 := rfl
  have emax : defaultContext.emax = 999999 := rfl
  have etiny : defaultContext.etiny = -1000026 := rfl
  have precision : defaultContext.precision = 28 := rfl
  have isPlace : quantisePlace value = max (value.adjusted + 1 -
    conversionSigDigits) defaultContext.etiny := rfl
  obtain ⟨quantiser, scaled, isExponent⟩ :=
    @scaleb_one defaultContext (by decide) (by decide)
      (digitCount value.coefficient + value.exponent -
        conversionSigDigits)
      (by rw [Decimal.adjusted] at least; omega)
      (by rw [Decimal.adjusted] at below; omega) (by decide)
  have samePlace : quantiser.exponent = quantisePlace value := by
    rw [isExponent, isPlace, Decimal.adjusted]
    congr 1
    omega
  have small := lt_of_representable representable
  rw [abs_of_pos positive] at small
  have quantiseEtiny : (quantiseContext conversionSigDigits).etiny =
    -1000078 := rfl
  have quantisePrecision :
    ((quantiseContext conversionSigDigits).precision : Int) = 80 := rfl
  have quantiseEmax : (quantiseContext conversionSigDigits).emax =
    999999 := rfl
  obtain ⟨quantised, isQuantised, sign, quantisedNonzero, magnitude⟩ :=
    @quantize_halfUp (quantiseContext conversionSigDigits) value
      (by decide) rfl nonzero (quantisePlace value) (by omega) (by omega)
      (by omega) (by omega)
      (atPlace_halfUpAt nonzero (le_max_left _ _)) positive small
  have quantisedValue : quantised.value = (if value.sign then -1 else 1) *
      halfUpAt (quantisePlace value) value.magnitude := by
    rw [Decimal.value, sign, magnitude]
  have quantisedRepresentable :
      defaultContext.Representable quantised.value := by
    rw [DecimalContext.Representable, Decimal.abs_value, magnitude,
      ← abs_of_pos positive]
    exact representable
  obtain ⟨normalised, normal, value'⟩ :=
    normalize_exact defaultContext_wide quantisedNonzero
      quantisedRepresentable
  obtain ⟨shaped, denoted⟩ := rendered_exact normalised
  refine ⟨_, ?_, shaped, ?_⟩
  · rw [quantiseToSigDigits, if_neg nonzero]
    simp only [bind_eq_ok_iff, pure_eq_ok_iff]
    refine ⟨quantiser, scaled, quantised, ?_, normalised, normal, rfl⟩
    rw [samePlace, isQuantised]
  · rw [denoted, value', quantisedValue]

/-! ## The product -/

/-- The place of the fiftieth digit of a number. -/
def wantedPlace (number : Decimal) : Int :=
  number.adjusted + 1 - conversionSigDigits

theorem magnitude_lt
    {number : Decimal} (nonzero : number.coefficient ≠ 0) :
    number.magnitude < 10 ^ (number.adjusted + 1) := by
  have log := Int.lt_zpow_succ_log_self (show 1 < 10 by decide)
    number.magnitude
  rw [log_magnitude nonzero] at log
  exact_mod_cast log

theorem le_magnitude
    {number : Decimal} (nonzero : number.coefficient ≠ 0) :
    10 ^ number.adjusted ≤ number.magnitude := by
  have log := Int.zpow_log_le_self (show 1 < 10 by decide)
    (Decimal.magnitude_pos nonzero)
  rw [log_magnitude nonzero] at log
  exact_mod_cast log

/-- Rounding to fifty digits keeps the place of the first one. -/
theorem le_halfUpAt
    {number : Decimal} (nonzero : number.coefficient ≠ 0) :
    10 ^ number.adjusted ≤
      halfUpAt (wantedPlace number) number.magnitude := by
  have positive := ten_zpow_pos (wantedPlace number)
  have units : (10 : ℚ) ^ number.adjusted =
      ((10 ^ 49 : Int) : ℚ) * 10 ^ wantedPlace number := by
    have isAdjusted : number.adjusted = 49 + wantedPlace number := by
      have digits : (conversionSigDigits : Int) = 50 := rfl
      rw [wantedPlace]
      omega
    rw [isAdjusted, zpow_add₀ (by norm_num)]
    norm_cast
  have least := le_magnitude nonzero
  rw [units] at least ⊢
  refine mul_le_mul_of_nonneg_right ?_ positive.le
  rw [Int.cast_le, Int.le_floor]
  have quotient := (le_div_iff₀ positive).mpr least
  linarith

theorem abs_le_of_place {high low : Int} (isLow : low ≤ high) {gap : ℚ}
    (bound : gap ≤ 10 ^ low / 2) : gap ≤ 10 ^ high / 2 := by
  have powers : (10 : ℚ) ^ low ≤ 10 ^ high :=
    zpow_le_zpow_right₀ (by norm_num) isLow
  linarith

/-- Rounding at a higher place finds a multiple of it that is close. -/
theorem halfUpAt_clamped
    {place : Int} {magnitude moved : ℚ} {multiple : Nat}
    (near : |multiple * 10 ^ place - magnitude| ≤ 10 ^ (place - 1) / 2)
    (close : |moved - magnitude| ≤ 10 ^ (place - 1) / 2) :
    halfUpAt place moved = multiple * 10 ^ place := by
  apply halfUpAt_eq_of_near
  have unit : (10 : ℚ) ^ place = 10 * 10 ^ (place - 1) := by
    rw [zpow_sub_one₀ (by norm_num)]
    ring
  have positive := ten_zpow_pos (place - 1)
  rw [abs_le] at near close
  rw [abs_lt]
  constructor
  · linarith
  · linarith

/-- What the product of `convert` hands to the quantisation. -/
structure Quantisable (product fixed : Decimal) : Prop where
  fix : productContext.fix product = .ok fixed
  sign : fixed.sign = product.sign
  nonzero : fixed.coefficient ≠ 0
  below : fixed.adjusted ≤ defaultContext.emax
  least : -1000078 ≤ fixed.adjusted
  rounded : halfUpAt (quantisePlace fixed) fixed.magnitude =
    halfUpAt (wantedPlace product) product.magnitude

/-- A product whose rounding is representable has its first digit within the
default context. -/
theorem adjusted_bounds
    {product : Decimal} (nonzero : product.coefficient ≠ 0)
    (representable : defaultContext.Representable
      (halfUpAt (wantedPlace product) product.magnitude)) :
    product.adjusted ≤ 999999 ∧ -1000028 ≤ product.adjusted := by
  have first := le_halfUpAt nonzero
  have positive := (ten_zpow_pos product.adjusted).trans_le first
  have small := lt_of_representable representable
  rw [abs_of_pos positive] at small
  constructor
  · have powers := (zpow_lt_zpow_iff_right₀ (show (1 : ℚ) < 10 by
      norm_num)).mp (first.trans_lt small)
    have emax : defaultContext.emax = 999999 := rfl
    omega
  · obtain ⟨place, isPlace, -, coefficient, -, isValue⟩ := representable
    rw [abs_of_pos positive] at isValue
    have least : (10 : ℚ) ^ place ≤
        halfUpAt (wantedPlace product) product.magnitude := by
      have one : (1 : ℚ) ≤ coefficient := by
        rw [Nat.one_le_cast, Nat.one_le_iff_ne_zero]
        rintro rfl
        rw [isValue, Nat.cast_zero, zero_mul] at positive
        exact positive.false
      rw [isValue]
      exact le_mul_of_one_le_left (ten_zpow_pos place).le one
    have near := (abs_le.mp (halfUpAt_near (wantedPlace product)
      product.magnitude)).2
    have below := magnitude_lt nonzero
    have step : (10 : ℚ) ^ wantedPlace product ≤
        10 ^ (product.adjusted + 1) := by
      refine zpow_le_zpow_right₀ (by norm_num) ?_
      rw [wantedPlace]
      omega
    have ten : (10 : ℚ) ^ (product.adjusted + 2) =
        10 * 10 ^ (product.adjusted + 1) := by
      rw [show product.adjusted + 2 = 1 + (product.adjusted + 1) by ring,
        zpow_add₀ (by norm_num), zpow_one]
    have powers : (10 : ℚ) ^ place < 10 ^ (product.adjusted + 2) := by
      have unit := ten_zpow_pos (product.adjusted + 1)
      linarith
    have exponents := (zpow_lt_zpow_iff_right₀ (show (1 : ℚ) < 10 by
      norm_num)).mp powers
    have etiny : defaultContext.etiny = -1000026 := rfl
    omega

theorem adjusted_of_magnitude
    {left right : Decimal} (leftNonzero : left.coefficient ≠ 0)
    (rightNonzero : right.coefficient ≠ 0)
    (same : left.magnitude = right.magnitude) :
    left.adjusted = right.adjusted := by
  rw [← log_magnitude leftNonzero, same, log_magnitude rightNonzero]

/-- At the least place of the default context, a close magnitude is rounded
to the same representable number. -/
theorem rounded_of_clamped
    {product : Decimal} (nonzero : product.coefficient ≠ 0)
    (representable : defaultContext.Representable
      (halfUpAt (wantedPlace product) product.magnitude))
    (low : wantedPlace product < defaultContext.etiny) {moved : ℚ}
    (close : |moved - product.magnitude| ≤
      10 ^ (defaultContext.etiny - 1) / 2) :
    halfUpAt defaultContext.etiny moved =
      halfUpAt (wantedPlace product) product.magnitude := by
  have positive := (ten_zpow_pos product.adjusted).trans_le
    (le_halfUpAt nonzero)
  obtain ⟨place, isPlace, -, atPlace⟩ := representable
  rw [abs_of_pos positive] at atPlace
  obtain ⟨multiple, isMultiple⟩ := atPlace.lower isPlace
  rw [isMultiple]
  refine halfUpAt_clamped ?_ close
  rw [← isMultiple]
  exact abs_le_of_place (by omega) (halfUpAt_near _ _)

/-- A product that the working context holds is handed on as it is. -/
theorem quantisable_exact
    {product : Decimal} (nonzero : product.coefficient ≠ 0) {place : Int}
    (short : AtPlace decimalPrec place product.magnitude)
    (inside : productContext.etiny ≤ place)
    (representable : defaultContext.Representable
      (halfUpAt (wantedPlace product) product.magnitude)) :
    ∃ fixed, Quantisable product fixed := by
  have bounds := adjusted_bounds nonzero representable
  obtain ⟨fixed, isFixed, sign, fixedNonzero, magnitude⟩ :=
    @fix_exact productContext product (by decide) nonzero bounds.1 place
      inside short
  have adjusted := adjusted_of_magnitude fixedNonzero nonzero magnitude
  refine ⟨fixed, isFixed, sign, fixedNonzero, ?_, ?_, ?_⟩
  · rw [adjusted]
    exact bounds.1
  · omega
  · have isPlace : quantisePlace fixed =
        max (wantedPlace product) defaultContext.etiny := by
      rw [quantisePlace, wantedPlace, adjusted]
    rw [isPlace, magnitude]
    by_cases low : wantedPlace product < defaultContext.etiny
    · rw [max_eq_right low.le]
      apply rounded_of_clamped nonzero representable low
      rw [sub_self, abs_zero]
      exact (half_pos (ten_zpow_pos _)).le
    · rw [max_eq_left (Int.not_lt.mp low)]

/-- A product below the working context is rounded far below the place that
the quantisation rounds at. -/
theorem quantisable_tiny
    {product : Decimal} (nonzero : product.coefficient ≠ 0) {place : Int}
    (short : AtPlace decimalPrec place product.magnitude)
    (tiny : place < productContext.etiny)
    (representable : defaultContext.Representable
      (halfUpAt (wantedPlace product) product.magnitude)) :
    ∃ fixed, Quantisable product fixed := by
  have bounds := adjusted_bounds nonzero representable
  have first := short.adjusted_lt nonzero
  have productEtiny : productContext.etiny = -1000078 := rfl
  have etiny : defaultContext.etiny = -1000026 := rfl
  have precision : (decimalPrec : Int) = 80 := rfl
  have digits : (conversionSigDigits : Int) = 50 := rfl
  have emax : productContext.emax = 999999 := rfl
  obtain ⟨fixed, isFixed⟩ := @fix_returns productContext product nonzero
    (by omega) (by decide)
  obtain ⟨sign, near⟩ := @fix_near productContext product fixed (by decide)
    nonzero isFixed
  have isPlace : productContext.place product = -1000078 := by
    have productPrecision : (productContext.precision : Int) = 80 := rfl
    rw [DecimalContext.place]
    rw [Decimal.adjusted] at first
    omega
  rw [isPlace] at near
  have far := abs_le_of_place (show (-1000078 : Int) ≤
    product.adjusted - 1 by omega) near
  have least := le_magnitude nonzero
  have most := magnitude_lt nonzero
  have unit : (10 : ℚ) ^ product.adjusted =
      10 * 10 ^ (product.adjusted - 1) := by
    rw [zpow_sub_one₀ (by norm_num)]
    ring
  have next : (10 : ℚ) ^ (product.adjusted + 1) =
      10 * 10 ^ product.adjusted := by
    rw [zpow_add_one₀ (by norm_num)]
    ring
  have afterNext : (10 : ℚ) ^ (product.adjusted + 2) =
      10 * 10 ^ (product.adjusted + 1) := by
    rw [show product.adjusted + 2 = product.adjusted + 1 + 1 by ring,
      zpow_add_one₀ (by norm_num)]
    ring
  have small := ten_zpow_pos (product.adjusted - 1)
  have range := abs_le.mp far
  have above : (10 : ℚ) ^ (product.adjusted - 1) ≤ fixed.magnitude := by
    linarith
  have below : fixed.magnitude < 10 ^ (product.adjusted + 2) := by
    linarith
  have fixedNonzero : fixed.coefficient ≠ 0 := by
    intro zero
    rw [Decimal.magnitude, zero, Nat.cast_zero, zero_mul] at above
    linarith
  have fixedPositive := Decimal.magnitude_pos fixedNonzero
  have atLeast : product.adjusted - 1 ≤ fixed.adjusted := by
    rw [← log_magnitude fixedNonzero, ← Int.zpow_le_iff_le_log (by decide)
      fixedPositive]
    exact_mod_cast above
  have atMost : fixed.adjusted < product.adjusted + 2 := by
    rw [← log_magnitude fixedNonzero, ← Int.lt_zpow_iff_log_lt (by decide)
      fixedPositive]
    exact_mod_cast below
  refine ⟨fixed, isFixed, sign, fixedNonzero, ?_, by omega, ?_⟩
  · have defaultEmax : defaultContext.emax = 999999 := rfl
    omega
  · have clamped : quantisePlace fixed = defaultContext.etiny := by
      rw [quantisePlace]
      omega
    rw [clamped]
    refine rounded_of_clamped nonzero representable ?_ ?_
    · rw [wantedPlace]
      omega
    · exact abs_le_of_place (by omega) near

/-- A product of eighty digits whose rounding is representable is quantised
to that rounding. -/
theorem quantisable_of_representable
    {product : Decimal} (nonzero : product.coefficient ≠ 0) {place : Int}
    (short : AtPlace decimalPrec place product.magnitude)
    (representable : defaultContext.Representable
      (halfUpAt (wantedPlace product) product.magnitude)) :
    ∃ fixed, Quantisable product fixed := by
  by_cases inside : productContext.etiny ≤ place
  · exact quantisable_exact nonzero short inside representable
  · exact quantisable_tiny nonzero short (Int.not_le.mp inside)
      representable

/-! ## The conversion -/

theorem all_space_of_strip
    {value : Text} (empty : strip value = []) :
    ∀ point ∈ value, CodePoint.isSpace point = true := by
  rw [strip, List.reverse_eq_nil_iff, List.dropWhile_eq_nil_iff] at empty
  rw [← List.dropWhile_eq_nil_iff]
  cases rest : value.dropWhile CodePoint.isSpace with
  | nil => rfl
  | cons point tail =>
      have space := empty point (by rw [rest]; simp)
      have notSpace := @List.head_dropWhile_not _ CodePoint.isSpace value
        (by rw [rest]; exact List.cons_ne_nil _ _)
      simp only [rest, List.head_cons, space] at notSpace
      cases notSpace

theorem strip_ne_nil_of_policy
    {value : Text} (policy : isDecimalString value = true) :
    strip value ≠ [] := by
  intro empty
  have spaces := all_space_of_strip empty
  simp only [isDecimalString, Bool.and_eq_true, Bool.not_eq_true',
    List.isEmpty_eq_false_iff, List.all_eq_true] at policy
  obtain ⟨⟨nonempty, digits⟩, -⟩ := policy
  obtain ⟨point, rest, isWhole⟩ := List.exists_cons_of_ne_nil nonempty
  have inWhole : point ∈ wholePart value := by
    rw [isWhole]
    exact List.mem_cons_self
  have inValue : point ∈ value := by
    have inUnsigned := (List.takeWhile_sublist _).subset inWhole
    rw [unsigned] at inUnsigned
    split_ifs at inUnsigned
    · exact List.mem_of_mem_drop inUnsigned
    · exact inUnsigned
  have digit := digits point inWhole
  have space := spaces point inValue
  simp only [CodePoint.isDigit, Bool.and_eq_true, decide_eq_true_eq]
    at digit
  simp only [CodePoint.isSpace, Bool.or_eq_true, Bool.and_eq_true,
    decide_eq_true_eq] at space
  omega

theorem validateDecimalValue_policy
    {value : Text} (policy : isDecimalString value = true) :
    validateDecimalValue value = .ok (policyDecimal value) := by
  simp only [validateDecimalValue, bind_eq_ok_iff, refuseIf_eq_ok_iff,
    pure_eq_ok_iff]
  exact ⟨⟨⟩, strip_ne_nil_of_policy policy, ⟨⟩, by simp [policy], trivial⟩

/-- The exact product of two numbers. -/
def exactProduct (left right : Decimal) : Decimal :=
  ⟨left.sign ^^ right.sign, left.coefficient * right.coefficient,
    left.exponent + right.exponent⟩

theorem value_exactProduct (left right : Decimal) :
    (exactProduct left right).value = left.value * right.value := by
  rw [Decimal.value, Decimal.value, Decimal.value, Decimal.magnitude,
    Decimal.magnitude, Decimal.magnitude, exactProduct,
    zpow_add₀ (by norm_num)]
  push_cast
  cases left.sign <;> cases right.sign <;> simp <;> ring

/-- The specified result, on the number of the product. -/
theorem roundHalfUp_value
    {product : Decimal} (nonzero : product.coefficient ≠ 0) :
    roundHalfUp conversionSigDigits product.value =
      (if product.sign then -1 else 1) *
        halfUpAt (wantedPlace product) product.magnitude := by
  have positive := Decimal.magnitude_pos nonzero
  rw [roundHalfUp, Decimal.abs_value, log_magnitude nonzero, wantedPlace]
  congr 1
  rw [Decimal.value]
  cases product.sign <;> simp [positive, positive.le]

theorem representable_abs
    {context : DecimalContext} {left right : ℚ} (same : |left| = |right|) :
    context.Representable left ↔ context.Representable right := by
  rw [DecimalContext.Representable, DecimalContext.Representable, same]

/-- What `convert` does after its checks. -/
theorem convert_of_factor
    {value fromUnit toUnit numeral : Text} {factor : Decimal}
    (policy : isDecimalString value = true)
    (reported : conversionFactor tables pint fromUnit toUnit =
      .ok numeral)
    (isFactor : decimalOfNumeral numeral = some factor)
    {rendered : Text} :
    convert tables pint value fromUnit toUnit = .ok rendered ↔
      ∃ fixed,
        productContext.fix (exactProduct (policyDecimal value) factor) =
            .ok fixed ∧
          quantiseToSigDigits fixed conversionSigDigits =
            .ok rendered := by
  have product (fixed : Decimal) :
      convertedProduct value fromUnit toUnit (policyDecimal value)
          numeral = .ok fixed ↔
        productContext.fix (exactProduct (policyDecimal value) factor) =
          .ok fixed := by
    simp only [convertedProduct, isFactor]
    change (match productContext.fix (exactProduct _ _) with
      | .error .invalidOperation => _
      | product => signalled product) = _ ↔ _
    cases productContext.fix (exactProduct (policyDecimal value)
        factor) with
    | ok number => simp [signalled]
    | error signal => cases signal <;> simp [signalled]
  have quantised (fixed : Decimal) :
      signalled (quantiseToSigDigits fixed conversionSigDigits) =
          .ok rendered ↔
        quantiseToSigDigits fixed conversionSigDigits = .ok rendered := by
    cases quantiseToSigDigits fixed conversionSigDigits with
    | ok text => simp [signalled]
    | error signal => cases signal <;> simp [signalled]
  simp only [convert, validateDecimalValue_policy policy, bind_eq_ok_iff,
    reported, Except.ok.injEq, exists_eq_left', product, quantised]

/-- The conversion denotes the rounded product exactly when the default
context has a number for it. -/
theorem denotes_product_iff
    {value fromUnit toUnit numeral : Text} {factor : Decimal}
    (policy : isDecimalString value = true)
    (reported : conversionFactor tables pint fromUnit toUnit =
      .ok numeral)
    (isFactor : decimalOfNumeral numeral = some factor)
    (short : SignificantDigits decimalPrec
      (policyValue value * factor.value)) :
    Denotes (convert tables pint value fromUnit toUnit)
        (roundHalfUp conversionSigDigits
          (policyValue value * factor.value)) ↔
      defaultContext.Representable (roundHalfUp conversionSigDigits
        (policyValue value * factor.value)) := by
  have isProduct : policyValue value * factor.value =
      (exactProduct (policyDecimal value) factor).value := by
    rw [value_exactProduct, value_policyDecimal]
  rw [isProduct] at short ⊢
  constructor
  · rintro ⟨rendered, returned, -, denoted⟩
    obtain ⟨fixed, -, quantised⟩ :=
      (convert_of_factor tables pint policy reported isFactor).mp returned
    rw [← denoted]
    exact representable_of_quantise quantised
  · intro representable
    by_cases zero :
        (exactProduct (policyDecimal value) factor).coefficient = 0
    · have nothing :
          (exactProduct (policyDecimal value) factor).value = 0 := by
        rw [Decimal.value, Decimal.magnitude, zero]
        simp
      refine ⟨text "0", (convert_of_factor tables pint policy reported
        isFactor).mpr ⟨_, by rw [DecimalContext.fix, if_pos zero], ?_⟩,
        by decide, ?_⟩
      · rw [quantiseToSigDigits, if_pos zero]
      · rw [policyValue_zero, nothing, roundHalfUp, halfUpAt]
        norm_num
    · rw [roundHalfUp_value zero] at representable ⊢
      obtain ⟨place, atPlace⟩ := short
      rw [Decimal.abs_value] at atPlace
      have same : |(if (exactProduct (policyDecimal value) factor).sign
          then (-1 : ℚ) else 1) * halfUpAt (wantedPlace (exactProduct
            (policyDecimal value) factor)) (exactProduct
              (policyDecimal value) factor).magnitude| =
          |halfUpAt (wantedPlace (exactProduct (policyDecimal value)
            factor)) (exactProduct (policyDecimal value)
              factor).magnitude| := by
        rw [abs_mul]
        split_ifs <;> simp
      rw [representable_abs same] at representable
      obtain ⟨fixed, quantisable⟩ :=
        quantisable_of_representable zero atPlace representable
      have positive := (ten_zpow_pos _).trans_le (le_halfUpAt zero)
      rw [← quantisable.rounded] at representable positive
      obtain ⟨rendered, quantised, shaped, denoted⟩ :=
        quantise_exact quantisable.nonzero quantisable.below
          quantisable.least positive representable
      refine ⟨rendered, (convert_of_factor tables pint policy reported
        isFactor).mpr ⟨fixed, quantisable.fix, quantised⟩, shaped, ?_⟩
      rw [denoted, quantisable.rounded, quantisable.sign]

/-- A number of fifty significant digits is its own rounding. -/
theorem roundHalfUp_of_significantDigits
    {value : ℚ} (short : SignificantDigits conversionSigDigits value) :
    roundHalfUp conversionSigDigits value = value := by
  obtain ⟨place, atPlace⟩ := short
  by_cases zero : value = 0
  · rw [zero, roundHalfUp, halfUpAt]
    norm_num
  · have positive : 0 < |value| := abs_pos.mpr zero
    have low : Int.log 10 |value| + 1 - conversionSigDigits ≤ place := by
      obtain ⟨coefficient, small, isValue⟩ := atPlace
      have below : |value| <
          ((10 : Nat) : ℚ) ^ (conversionSigDigits + place) := by
        rw [isValue, Nat.cast_ofNat, zpow_add₀ (by norm_num),
          zpow_natCast]
        exact mul_lt_mul_of_pos_right (by exact_mod_cast small)
          (ten_zpow_pos place)
      have log := (Int.lt_zpow_iff_log_lt (by decide) positive).mp below
      omega
    obtain ⟨multiple, isMultiple⟩ := atPlace.lower low
    have kept : halfUpAt (Int.log 10 |value| + 1 - conversionSigDigits)
        |value| = |value| := by
      nth_rewrite 2 [isMultiple]
      rw [halfUpAt_multiple, ← isMultiple]
    rw [roundHalfUp, kept]
    split_ifs with negative
    · rw [abs_of_neg negative]
      ring
    · rw [abs_of_nonneg (not_lt.mp negative), one_mul]

/--
Where Pint reports an exact factor and the product has no more than eighty
significant digits, the conversion denotes the product rounded half up to
fifty digits exactly when that rounding is representable in the default
context; between coherent units, a value of no more than fifty digits is kept
exactly when it is representable there itself.
-/
theorem convert_exact_iff
    (value fromUnit toUnit numeral : Text) (factor : Decimal)
    (policy : isDecimalString value = true)
    (reported : conversionFactor tables pint fromUnit toUnit =
      .ok numeral)
    (isFactor : decimalOfNumeral numeral = some factor)
    (short : SignificantDigits decimalPrec
      (policyValue value * factor.value)) :
    (Denotes (convert tables pint value fromUnit toUnit)
        (roundHalfUp conversionSigDigits
          (policyValue value * factor.value)) ↔
      defaultContext.Representable (roundHalfUp conversionSigDigits
        (policyValue value * factor.value))) ∧
    (factor.value = 1 →
      SignificantDigits conversionSigDigits (policyValue value) →
        (Denotes (convert tables pint value fromUnit toUnit)
            (policyValue value) ↔
          defaultContext.Representable (policyValue value))) := by
  have general := denotes_product_iff tables pint policy reported isFactor
    short
  refine ⟨general, ?_⟩
  intro coherent digits
  rw [coherent, mul_one, roundHalfUp_of_significantDigits digits]
    at general
  exact general

/-! ## A coherent conversion -/

/-- Pint on the metre alone. -/
def metrePint : Pint where
  Quantity := Unit
  parseUnits unit := if unit = text "m" then some ⟨⟩ else none
  dimensionality _ := [(text "[length]", text "1")]
  factorText _ _ := text "1"

/-- A value of three digits is kept. -/
theorem convert_exact_metre :
    Denotes (convert latinTables metrePint (text "9.8") (text "m")
      (text "m")) (policyValue (text "9.8")) := by
  have short : SignificantDigits conversionSigDigits
      (policyValue (text "9.8")) :=
    ⟨-1, 98, by decide, by decide +kernel⟩
  have product : policyValue (text "9.8") *
      (Decimal.mk false 1 0).value = policyValue (text "9.8") := by
    rw [Decimal.value, Decimal.magnitude]
    norm_num
  have one : (Decimal.mk false 1 0).value = 1 := by
    rw [Decimal.value, Decimal.magnitude]
    norm_num
  refine ((convert_exact_iff latinTables metrePint (text "9.8") (text "m")
    (text "m") (text "1") ⟨false, 1, 0⟩ (by decide)
    (by decide) (by decide) ?_).2 one short).mpr ?_
  · rw [product]
    exact ⟨-1, 98, by decide, by decide +kernel⟩
  · exact ⟨-1, by decide, by decide, 98, by decide, by decide +kernel⟩

/-- A value of twenty-nine digits. -/
def longMetres : Text :=
  text "12345678901234567890123456789"

/-- The twenty-ninth digit is lost between coherent units. -/
theorem longMetres_not_kept :
    ¬ ∀ (tables : UnicodeTables) (pint : Pint)
        (value fromUnit toUnit numeral : Text) (factor : Decimal),
      isDecimalString value = true →
        conversionFactor tables pint fromUnit toUnit = .ok numeral →
        decimalOfNumeral numeral = some factor →
        factor.value = 1 →
        SignificantDigits conversionSigDigits (policyValue value) →
          Denotes (convert tables pint value fromUnit toUnit)
            (policyValue value) := by
  intro keeps
  have one : (Decimal.mk false 1 0).value = 1 := by
    rw [Decimal.value, Decimal.magnitude]
    norm_num
  obtain ⟨rendered, returned, -, denoted⟩ := keeps latinTables metrePint
    longMetres (text "m") (text "m") (text "1") ⟨false, 1, 0⟩
    (by decide) (by decide) (by decide) one
    ⟨0, 12345678901234567890123456789, by decide, by decide +kernel⟩
  have rounded : convert latinTables metrePint longMetres (text "m")
      (text "m") = .ok (text "12345678901234567890123456790") := by
    decide
  cases rounded.symm.trans returned
  revert denoted
  decide +kernel

end ScientificResourceLab.Packs.Units
