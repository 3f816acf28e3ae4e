import ScientificResourceLab.Python.FloatRounding
import ScientificResourceLab.Python.Json
import Mathlib.Data.List.TakeWhile

/-!
# Reading numbers back

The decoder takes a number apart into integer digits, a fraction and an
exponent.  On the text of an integer it finds the integer
(`parseScalar_intText`), and on the shortest decimal of a finite double it
finds that double (`parseScalar_repr`), whatever delimiter follows.

For a double the argument has two halves.  The digits of the shortest
decimal denote the double by `Float64.ofDecimal_shortestDigits`; the layout,
in any of its four shapes, is read as those digits without their trailing
zeros, which is the same decimal.
-/

namespace ScientificResourceLab.Python

/-- A text that may follow a value: nothing, or a delimiter. -/
def Delimited : Text → Prop
  | [] => True
  | point :: _ =>
      point = codePoint ',' ∨ point = codePoint ']' ∨
        point = codePoint '}' ∨ point = codePoint '\n'

/-! ## Integers -/

theorem spanDigits_append
    {digits rest : Text}
    (areDigits : ∀ point ∈ digits, CodePoint.isDigit point = true)
    (ends : ∀ point after, rest = point :: after →
      CodePoint.isDigit point = false) :
    spanDigits (digits ++ rest) = (digits, rest) := by
  induction digits with
  | nil =>
      cases rest with
      | nil => rfl
      | cons point after =>
          simp [spanDigits, ends point after rfl]
  | cons digit digits induction =>
      have head : CodePoint.isDigit digit = true :=
        areDigits digit List.mem_cons_self
      have tail := induction fun point member =>
        areDigits point (List.mem_cons_of_mem _ member)
      rw [List.cons_append, spanDigits, head, tail]
      rfl

theorem Delimited.not_digit
    {rest : Text} (delimited : Delimited rest) :
    ∀ point after, rest = point :: after →
      CodePoint.isDigit point = false := by
  rintro point after rfl
  rcases delimited with rfl | rfl | rfl | rfl <;> decide

theorem Delimited.no_exponent
    {rest : Text} (delimited : Delimited rest) :
    scanExponent rest = (none, rest) := by
  match rest, delimited with
  | [], _ => rfl
  | point :: after, delimited =>
      have notLower : point ≠ codePoint 'e' := by
        rcases delimited with rfl | rfl | rfl | rfl <;> decide
      have notUpper : point ≠ codePoint 'E' := by
        rcases delimited with rfl | rfl | rfl | rfl <;> decide
      simp [scanExponent, notLower, notUpper]

/-- After an integer comes neither a fraction nor an exponent. -/
theorem finishNumber_delimited
    (negative : Bool) {digits rest : Text}
    (short : digits.length ≤ intMaxStrDigits)
    (delimited : Delimited rest) :
    finishNumber negative digits rest =
      .ok (.int
        (if negative then -(digitsValue digits : Int)
          else digitsValue digits), rest) := by
  have noFraction : scanFraction rest = (none, rest) := by
    match rest, delimited with
    | [], _ => rfl
    | [_], _ => rfl
    | point :: next :: after, delimited =>
        have notPoint : point ≠ codePoint '.' := by
          rcases delimited with rfl | rfl | rfl | rfl <;> decide
        simp [scanFraction, notPoint]
  simp only [finishNumber, noFraction, delimited.no_exponent, and_self,
    if_true, not_lt.mpr short, if_false]

/-- Unsigned decimal digits are read back. -/
theorem parseMagnitude_decimalText
    (negative : Bool) (value : Nat) {rest : Text}
    (short : (decimalText value).length ≤ intMaxStrDigits)
    (delimited : Delimited rest) :
    parseMagnitude negative (decimalText value ++ rest) =
      .ok (.int (if negative then -(value : Int) else value), rest) := by
  by_cases zero : value = 0
  · subst zero
    have written : decimalText 0 = [codePoint '0'] := by decide
    rw [written] at short ⊢
    rw [List.cons_append, List.nil_append, parseMagnitude,
      if_pos rfl, finishNumber_delimited negative short delimited]
    have denotes : digitsValue [codePoint '0'] = 0 := by decide
    rw [denotes]
  · obtain ⟨digit, tail, written, positive, small⟩ :=
      decimalText_cons zero
    have areDigits := decimalText_isDigit value
    have denotes := digitsValue_decimalText value
    rw [written] at short areDigits denotes ⊢
    have isDigit : CodePoint.isDigit (digitPoint digit) = true :=
      areDigits _ List.mem_cons_self
    have notZero : digitPoint digit ≠ codePoint '0' := by
      intro equal
      have values := congrArg Fin.val equal
      rw [digitPoint_val small,
        show (codePoint '0').val = 48 by decide] at values
      omega
    have spanned := spanDigits_append
      (fun point member => areDigits point (List.mem_cons_of_mem _ member))
      delimited.not_digit
    rw [List.cons_append, parseMagnitude, if_neg notZero,
      if_pos isDigit, spanned, finishNumber_delimited negative short
        delimited, denotes]

theorem stripLiteral_of_ne
    {first point : CodePoint} (literal rest : Text)
    (differ : first ≠ point) :
    stripLiteral (first :: literal) (point :: rest) = none := by
  simp [stripLiteral, List.isPrefixOf, differ]

/-- A text that starts with a digit is read as a number. -/
theorem parseScalar_digit
    (allowConstants : Bool) {digit : CodePoint} (rest : Text)
    (isDigit : CodePoint.isDigit digit = true) :
    parseScalar allowConstants (digit :: rest) =
      parseMagnitude false (digit :: rest) := by
  have differs : ∀ char : CodePoint, CodePoint.isDigit char = false →
      char ≠ digit := by
    rintro char notDigit rfl
    rw [isDigit] at notDigit
    cases notDigit
  rw [parseScalar,
    show text "null" = codePoint 'n' :: text "ull" from rfl,
    show text "true" = codePoint 't' :: text "rue" from rfl,
    show text "false" = codePoint 'f' :: text "alse" from rfl,
    show text "NaN" = codePoint 'N' :: text "aN" from rfl,
    show text "Infinity" = codePoint 'I' :: text "nfinity" from rfl,
    show text "-Infinity" = codePoint '-' :: text "Infinity" from rfl]
  simp only [stripLiteral_of_ne _ _ (differs (codePoint 'n') (by decide)),
    stripLiteral_of_ne _ _ (differs (codePoint 't') (by decide)),
    stripLiteral_of_ne _ _ (differs (codePoint 'f') (by decide)),
    stripLiteral_of_ne _ _ (differs (codePoint 'N') (by decide)),
    stripLiteral_of_ne _ _ (differs (codePoint 'I') (by decide)),
    stripLiteral_of_ne _ _ (differs (codePoint '-') (by decide))]
  rw [if_neg (Ne.symm (differs (codePoint '-') (by decide)))]

/-- A minus sign before a digit starts a negative number. -/
theorem parseScalar_minus
    (allowConstants : Bool) {digit : CodePoint} (rest : Text)
    (isDigit : CodePoint.isDigit digit = true) :
    parseScalar allowConstants (codePoint '-' :: digit :: rest) =
      parseMagnitude true (digit :: rest) := by
  have notInfinity : codePoint 'I' ≠ digit := by
    rintro rfl
    exact absurd isDigit (by decide)
  have noConstant :
      stripLiteral (text "-Infinity") (codePoint '-' :: digit :: rest) =
        none := by
    rw [show text "-Infinity" =
      codePoint '-' :: codePoint 'I' :: text "nfinity" from rfl]
    simp [stripLiteral, List.isPrefixOf, notInfinity]
  rw [parseScalar, noConstant,
    show text "null" = codePoint 'n' :: text "ull" from rfl,
    show text "true" = codePoint 't' :: text "rue" from rfl,
    show text "false" = codePoint 'f' :: text "alse" from rfl,
    show text "NaN" = codePoint 'N' :: text "aN" from rfl,
    show text "Infinity" = codePoint 'I' :: text "nfinity" from rfl]
  simp only [stripLiteral_of_ne _ _
    (show codePoint 'n' ≠ codePoint '-' by decide),
    stripLiteral_of_ne _ _ (show codePoint 't' ≠ codePoint '-' by decide),
    stripLiteral_of_ne _ _ (show codePoint 'f' ≠ codePoint '-' by decide),
    stripLiteral_of_ne _ _ (show codePoint 'N' ≠ codePoint '-' by decide),
    stripLiteral_of_ne _ _ (show codePoint 'I' ≠ codePoint '-' by decide),
    if_true]

theorem decimalText_head (value : Nat) :
    ∃ digit rest, decimalText value = digit :: rest ∧
      CodePoint.isDigit digit = true := by
  have areDigits := decimalText_isDigit value
  by_cases zero : value = 0
  · subst zero
    exact ⟨codePoint '0', [], by decide, by decide⟩
  · obtain ⟨digit, rest, written, _, _⟩ := decimalText_cons zero
    rw [written] at areDigits
    exact ⟨_, rest, written, areDigits _ List.mem_cons_self⟩

/-- An integer literal is read back. -/
theorem parseScalar_intText
    (allowConstants : Bool) (value : Int) {rest : Text}
    (short : (decimalText value.natAbs).length ≤ intMaxStrDigits)
    (delimited : Delimited rest) :
    parseScalar allowConstants (intText value ++ rest) =
      .ok (.int value, rest) := by
  obtain ⟨digit, tail, written, isDigit⟩ :=
    decimalText_head value.natAbs
  have readBack := fun negative =>
    parseMagnitude_decimalText negative value.natAbs short delimited
  rw [written, List.cons_append] at readBack
  rw [intText, written]
  split_ifs with negative
  · simp only [List.cons_append, List.nil_append]
    rw [parseScalar_minus allowConstants _ isDigit, readBack true]
    simp only [if_true]
    rw [show -(value.natAbs : Int) = value by omega]
  · rw [List.nil_append, List.cons_append,
      parseScalar_digit allowConstants _ isDigit, readBack false]
    simp only [Bool.false_eq_true, if_false]
    rw [show (value.natAbs : Int) = value by omega]

/-! ## Digits -/

theorem foldl_digits (start : Nat) (digits : Text) :
    digits.foldl (fun value digit => 10 * value + (digit.val - 48)) start =
      start * 10 ^ digits.length + digitsValue digits := by
  induction digits generalizing start with
  | nil => simp [digitsValue]
  | cons digit digits induction =>
      rw [digitsValue, List.foldl_cons, List.foldl_cons, induction,
        induction (10 * 0 + _), List.length_cons, Nat.pow_succ]
      ring

/-- Digits put after others. -/
theorem digitsValue_append (first second : Text) :
    digitsValue (first ++ second) =
      digitsValue first * 10 ^ second.length + digitsValue second := by
  rw [digitsValue, List.foldl_append, foldl_digits]
  rfl

theorem digitsValue_zeros (count : Nat) :
    digitsValue (List.replicate count (codePoint '0')) = 0 := by
  induction count with
  | zero => rfl
  | succ count induction =>
      rw [List.replicate_succ, ← List.singleton_append,
        digitsValue_append, induction]
      simp [digitsValue, show (codePoint '0').val = 48 by decide]

theorem exists_trailing_zeros (digits : Text) :
    ∃ count,
      digits =
        (digits.reverse.dropWhile (· == codePoint '0')).reverse ++
          List.replicate count (codePoint '0') := by
  refine ⟨(digits.reverse.takeWhile (· == codePoint '0')).length, ?_⟩
  have zeros : digits.reverse.takeWhile (· == codePoint '0') =
      List.replicate
        (digits.reverse.takeWhile (· == codePoint '0')).length
        (codePoint '0') := by
    apply List.eq_replicate_of_mem
    intro point member
    have isZero := List.mem_takeWhile_imp member
    exact eq_of_beq isZero
  rw [← List.reverse_replicate, ← zeros, ← List.reverse_append,
    List.takeWhile_append_dropWhile, List.reverse_reverse]

/-- Dropping trailing zeros keeps a leading digit that is none. -/
theorem dropZeros_cons
    {point : CodePoint} (notZero : point ≠ codePoint '0') (rest : Text) :
    ∃ others zeros,
      ((point :: rest).reverse.dropWhile (· == codePoint '0')).reverse =
          point :: others ∧
        rest = others ++ List.replicate zeros (codePoint '0') := by
  obtain ⟨zeros, stripped⟩ := exists_trailing_zeros (point :: rest)
  cases kept : ((point :: rest).reverse.dropWhile
      (· == codePoint '0')).reverse with
  | nil =>
      rw [kept, List.nil_append] at stripped
      have member : point ∈ List.replicate zeros (codePoint '0') := by
        rw [← stripped]
        exact List.mem_cons_self
      exact absurd (List.eq_of_mem_replicate member) notZero
  | cons first others =>
      rw [kept, List.cons_append, List.cons.injEq] at stripped
      obtain ⟨rfl, isRest⟩ := stripped
      exact ⟨others, zeros, rfl, isRest⟩

/-- The number of digits of a number between powers of ten. -/
theorem decimalText_length
    {value count : Nat} (low : 10 ^ (count - 1) ≤ value)
    (positive : 1 ≤ count) : count ≤ (decimalText value).length := by
  have nonzero : value ≠ 0 := by
    have power : 0 < 10 ^ (count - 1) := Nat.pow_pos (by decide)
    omega
  rw [decimalText, if_neg nonzero, List.length_map, List.length_reverse]
  have more := (Nat.lt_digits_length_iff (b := 10) (by decide)
    value (k := count - 1)).mpr low
  omega

/-! ## Fractions and exponents -/

/-- No digit comes first. -/
def NoDigit (rest : Text) : Prop :=
  ∀ point after, rest = point :: after → CodePoint.isDigit point = false

theorem noDigit_cons
    {point : CodePoint} (notDigit : CodePoint.isDigit point = false)
    (rest : Text) : NoDigit (point :: rest) := by
  rintro _ _ ⟨⟩
  exact notDigit

/-- A fraction is read up to its last digit. -/
theorem scanFraction_digits
    {decimals rest : Text} (nonempty : decimals ≠ [])
    (areDigits : ∀ point ∈ decimals, CodePoint.isDigit point = true)
    (ends : NoDigit rest) :
    scanFraction (codePoint '.' :: (decimals ++ rest)) =
      (some decimals, rest) := by
  cases decimals with
  | nil => exact absurd rfl nonempty
  | cons digit decimals =>
      have spanned := spanDigits_append areDigits ends
      rw [List.cons_append] at spanned ⊢
      rw [scanFraction,
        if_pos ⟨rfl, areDigits digit List.mem_cons_self⟩, spanned]

theorem scanFraction_none
    {rest : Text} (noPoint : ∀ after, rest ≠ codePoint '.' :: after) :
    scanFraction rest = (none, rest) := by
  match rest with
  | [] => rfl
  | [_] => rfl
  | point :: next :: after =>
      have notPoint : point ≠ codePoint '.' := by
        rintro rfl
        exact noPoint _ rfl
      simp [scanFraction, notPoint]

/-- An exponent with its sign is read up to its last digit. -/
theorem scanExponent_digits
    (negative : Bool) {shown rest : Text} (nonempty : shown ≠ [])
    (areDigits : ∀ point ∈ shown, CodePoint.isDigit point = true)
    (ends : NoDigit rest) :
    scanExponent
        (text (if negative then "e-" else "e+") ++ (shown ++ rest)) =
      (some (if negative then -(digitsValue shown : Int)
        else digitsValue shown), rest) := by
  have spanned := spanDigits_append areDigits ends
  cases negative with
  | false =>
      change scanExponent
        (codePoint 'e' :: codePoint '+' :: (shown ++ rest)) = _
      have plus : codePoint '+' ≠ codePoint '-' := by decide
      simp only [scanExponent, true_or, if_true, if_neg plus, spanned,
        if_neg nonempty, Bool.false_eq_true, if_false]
  | true =>
      change scanExponent
        (codePoint 'e' :: codePoint '-' :: (shown ++ rest)) = _
      simp only [scanExponent, true_or, if_true, spanned, if_neg nonempty]

/-- Integer digits without a leading zero are read up to the last. -/
theorem parseMagnitude_digits
    (negative : Bool) {first : CodePoint} {others rest : Text}
    (notZero : first ≠ codePoint '0')
    (areDigits : ∀ point ∈ first :: others,
      CodePoint.isDigit point = true)
    (ends : NoDigit rest) :
    parseMagnitude negative (first :: others ++ rest) =
      finishNumber negative (first :: others) rest := by
  have spanned := spanDigits_append
    (fun point member => areDigits point (List.mem_cons_of_mem _ member))
    ends
  rw [List.cons_append, parseMagnitude, if_neg notZero,
    if_pos (areDigits first List.mem_cons_self), spanned]

theorem finishNumber_fraction
    (negative : Bool) (digits : Text) {decimals rest : Text}
    (nonempty : decimals ≠ [])
    (areDigits : ∀ point ∈ decimals, CodePoint.isDigit point = true)
    (delimited : Delimited rest) :
    finishNumber negative digits
        (codePoint '.' :: (decimals ++ rest)) =
      .ok (.float (Float64.ofDecimal negative
        (digitsValue (digits ++ decimals)) (0 - decimals.length)),
        rest) := by
  simp only [finishNumber,
    scanFraction_digits nonempty areDigits delimited.not_digit,
    delimited.no_exponent, reduceCtorEq, false_and, if_false,
    Option.getD_some, Option.getD_none]

/-- A number with an exponent and perhaps a fraction. -/
theorem finishNumber_exponent
    (negative below : Bool) (digits : Text)
    {decimals shown rest : Text}
    (areDigits : ∀ point ∈ decimals, CodePoint.isDigit point = true)
    (nonempty : shown ≠ [])
    (shownDigits : ∀ point ∈ shown, CodePoint.isDigit point = true)
    (delimited : Delimited rest) :
    finishNumber negative digits
        ((if decimals = [] then [] else codePoint '.' :: decimals) ++
          (text (if below then "e-" else "e+") ++ (shown ++ rest))) =
      .ok (.float (Float64.ofDecimal negative
        (digitsValue (digits ++ decimals))
        ((if below then -(digitsValue shown : Int)
          else digitsValue shown) - decimals.length)), rest) := by
  have exponent := scanExponent_digits below nonempty shownDigits
    delimited.not_digit
  have opens : ∃ after,
      text (if below then "e-" else "e+") ++ (shown ++ rest) =
        codePoint 'e' :: after := by
    cases below <;> exact ⟨_, rfl⟩
  by_cases empty : decimals = []
  · subst empty
    have none : scanFraction
        (text (if below then "e-" else "e+") ++ (shown ++ rest)) =
        (none, text (if below then "e-" else "e+") ++ (shown ++ rest)) := by
      apply scanFraction_none
      intro after isPoint
      obtain ⟨other, isLetter⟩ := opens
      rw [isLetter, List.cons.injEq] at isPoint
      exact absurd isPoint.1 (by decide)
    simp only [finishNumber, if_true, List.nil_append, none, exponent,
      reduceCtorEq, and_false, if_false, Option.getD_some,
      Option.getD_none, List.append_nil, List.length_nil]
  · have ends : NoDigit
        (text (if below then "e-" else "e+") ++ (shown ++ rest)) := by
      obtain ⟨after, isLetter⟩ := opens
      rw [isLetter]
      exact noDigit_cons (by decide) _
    have some := scanFraction_digits empty areDigits ends
    simp only [finishNumber, if_neg empty, List.cons_append, some,
      exponent, reduceCtorEq, and_false, if_false, Option.getD_some]

/-! ## Floats -/

theorem zero_isDigit (count : Nat) :
    ∀ point ∈ List.replicate count (codePoint '0'),
      CodePoint.isDigit point = true := by
  intro point member
  rw [List.eq_of_mem_replicate member]
  decide

section Layout

variable {first : CodePoint} {others : Text}
  (notZero : first ≠ codePoint '0')
  (areDigits : ∀ point ∈ first :: others, CodePoint.isDigit point = true)
  (negative : Bool) {power : Int} {rest : Text}
  (delimited : Delimited rest)

include areDigits delimited

/-- Zeros between the point and the digits. -/
theorem parseMagnitude_layOut_below
    (plain : -4 ≤ power ∧ power < 16) (below : power < 0) :
    parseMagnitude negative
        (Float64.layOut (first :: others) power ++ rest) =
      .ok (.float (Float64.ofDecimal negative
        (digitsValue (first :: others))
        (power + 1 - (first :: others).length)), rest) := by
  have decimals : ∀ point ∈
      List.replicate (-power - 1).toNat (codePoint '0') ++
        first :: others, CodePoint.isDigit point = true := by
    intro point member
    rcases List.mem_append.mp member with zero | digit
    · exact zero_isDigit _ point zero
    · exact areDigits point digit
  have laidOut : Float64.layOut (first :: others) power ++ rest =
      codePoint '0' :: codePoint '.' ::
        (List.replicate (-power - 1).toNat (codePoint '0') ++
          first :: others ++ rest) := by
    rw [Float64.layOut, if_pos plain, if_pos below]
    rfl
  have value : digitsValue ([codePoint '0'] ++
      (List.replicate (-power - 1).toNat (codePoint '0') ++
        first :: others)) = digitsValue (first :: others) := by
    rw [← List.append_assoc, ← List.replicate_one,
      List.replicate_append_replicate, digitsValue_append,
      digitsValue_zeros, Nat.zero_mul, Nat.zero_add]
  have places :
      (0 - (List.replicate (-power - 1).toNat (codePoint '0') ++
        first :: others).length : Int) =
        power + 1 - (first :: others).length := by
    rw [List.length_append, List.length_replicate]
    omega
  rw [laidOut, parseMagnitude, if_pos rfl,
    finishNumber_fraction negative _ (by simp) decimals delimited, value,
    places]

include notZero

/-- Zeros after the digits, up to the point. -/
theorem parseMagnitude_layOut_whole
    (plain : -4 ≤ power ∧ power < 16) (above : ¬ power < 0)
    (short : (first :: others).length ≤ power.toNat + 1) :
    parseMagnitude negative
        (Float64.layOut (first :: others) power ++ rest) =
      .ok (.float (Float64.ofDecimal negative
        (digitsValue (first :: others))
        (power + 1 - (first :: others).length)), rest) := by
  obtain ⟨count, isCount⟩ : ∃ count,
      power.toNat + 1 = (first :: others).length + count :=
    Nat.exists_eq_add_of_le short
  have laidOut : Float64.layOut (first :: others) power ++ rest =
      first :: (others ++ List.replicate count (codePoint '0')) ++
        codePoint '.' :: (List.replicate 1 (codePoint '0') ++ rest) := by
    rw [Float64.layOut, if_pos plain, if_neg above, if_pos short, isCount,
      Nat.add_sub_cancel_left]
    simp [show text ".0" = [codePoint '.', codePoint '0'] from rfl]
  have wholeDigits : ∀ point ∈
      first :: (others ++ List.replicate count (codePoint '0')),
      CodePoint.isDigit point = true := by
    intro point member
    rw [← List.cons_append] at member
    rcases List.mem_append.mp member with digit | zero
    · exact areDigits point digit
    · exact zero_isDigit _ point zero
  rw [laidOut, parseMagnitude_digits negative notZero wholeDigits
      (noDigit_cons (by decide) _),
    finishNumber_fraction negative _ (by simp)
      (zero_isDigit 1) delimited]
  have value : digitsValue
      (first :: (others ++ List.replicate count (codePoint '0')) ++
        List.replicate 1 (codePoint '0')) =
      digitsValue (first :: others) * 10 ^ (count + 1) := by
    rw [← List.cons_append, List.append_assoc,
      List.replicate_append_replicate, digitsValue_append,
      digitsValue_zeros, List.length_replicate, Nat.add_zero]
  have power_eq : power + 1 - (first :: others).length = count := by
    omega
  have same : Float64.ofDecimal negative
      (digitsValue
        (first :: (others ++ List.replicate count (codePoint '0')) ++
          List.replicate 1 (codePoint '0')))
      (0 - (List.replicate 1 (codePoint '0')).length) =
      Float64.ofDecimal negative (digitsValue (first :: others))
        (power + 1 - (first :: others).length) := by
    apply Float64.ofDecimal_congr
    rw [value, power_eq, List.length_replicate]
    push_cast
    rw [mul_assoc, zpow_natCast, pow_succ, zpow_neg_one,
      mul_assoc (10 ^ count), mul_inv_cancel₀ (by norm_num), mul_one]
  rw [same]

theorem parseMagnitude_layOut_point
    (plain : -4 ≤ power ∧ power < 16) (above : ¬ power < 0)
    (long : ¬ (first :: others).length ≤ power.toNat + 1) :
    parseMagnitude negative
        (Float64.layOut (first :: others) power ++ rest) =
      .ok (.float (Float64.ofDecimal negative
        (digitsValue (first :: others))
        (power + 1 - (first :: others).length)), rest) := by
  have laidOut : Float64.layOut (first :: others) power ++ rest =
      first :: others.take power.toNat ++
        codePoint '.' :: (others.drop power.toNat ++ rest) := by
    rw [Float64.layOut, if_pos plain, if_neg above, if_neg long,
      List.take_succ_cons, List.drop_succ_cons]
    simp [show text "." = [codePoint '.'] from rfl]
  rw [List.length_cons] at long
  have wholeDigits : ∀ point ∈ first :: others.take power.toNat,
      CodePoint.isDigit point = true := by
    intro point member
    refine areDigits point ?_
    rcases List.mem_cons.mp member with rfl | later
    · exact List.mem_cons_self
    · exact List.mem_cons_of_mem _ (List.mem_of_mem_take later)
  have decimals : ∀ point ∈ others.drop power.toNat,
      CodePoint.isDigit point = true := fun point member =>
    areDigits point
      (List.mem_cons_of_mem _ (List.mem_of_mem_drop member))
  have nonempty : others.drop power.toNat ≠ [] := by
    rw [Ne, List.drop_eq_nil_iff]
    omega
  have places : (0 - (others.drop power.toNat).length : Int) =
      power + 1 - (first :: others).length := by
    rw [List.length_drop, List.length_cons]
    omega
  rw [laidOut, parseMagnitude_digits negative notZero wholeDigits
      (noDigit_cons (by decide) _),
    finishNumber_fraction negative _ nonempty decimals delimited, places,
    List.cons_append, List.take_append_drop]

/-- One digit before the point, and an exponent. -/
theorem parseMagnitude_layOut_exponent
    (scientific : ¬ (-4 ≤ power ∧ power < 16)) :
    parseMagnitude negative
        (Float64.layOut (first :: others) power ++ rest) =
      .ok (.float (Float64.ofDecimal negative
        (digitsValue (first :: others))
        (power + 1 - (first :: others).length)), rest) := by
  obtain ⟨pad, laidOut⟩ : ∃ pad : Nat,
      Float64.layOut (first :: others) power ++ rest =
        [first] ++
          ((if others = [] then [] else codePoint '.' :: others) ++
            (text (if decide (power < 0) then "e-" else "e+") ++
              (List.replicate pad (codePoint '0') ++
                decimalText power.natAbs ++ rest))) := by
    refine ⟨if (decimalText power.natAbs).length < 2 then 1 else 0, ?_⟩
    have single : (first :: others).length ≤ 1 ↔ others = [] := by
      rw [List.length_cons, ← List.length_eq_zero_iff]
      omega
    rw [Float64.layOut, if_neg scientific]
    simp only [single, List.take_succ_cons, List.take_zero,
      List.drop_succ_cons, List.drop_zero, decide_eq_true_eq,
      List.append_assoc]
    congr 3
    split_ifs <;> rfl
  have shownDigits : ∀ point ∈
      List.replicate pad (codePoint '0') ++ decimalText power.natAbs,
      CodePoint.isDigit point = true := by
    intro point member
    rcases List.mem_append.mp member with zero | digit
    · exact zero_isDigit _ point zero
    · exact decimalText_isDigit _ point digit
  have nonempty :
      List.replicate pad (codePoint '0') ++
        decimalText power.natAbs ≠ [] := by
    obtain ⟨digit, tail, written, _⟩ := decimalText_head power.natAbs
    rw [written]
    simp
  have value : digitsValue
      (List.replicate pad (codePoint '0') ++ decimalText power.natAbs) =
      power.natAbs := by
    rw [digitsValue_append, digitsValue_zeros, digitsValue_decimalText,
      Nat.zero_mul, Nat.zero_add]
  have otherDigits : ∀ point ∈ others, CodePoint.isDigit point = true :=
    fun point member => areDigits point (List.mem_cons_of_mem _ member)
  have ends : NoDigit
      ((if others = [] then [] else codePoint '.' :: others) ++
        (text (if decide (power < 0) then "e-" else "e+") ++
          (List.replicate pad (codePoint '0') ++
            decimalText power.natAbs ++ rest))) := by
    split_ifs
    · exact noDigit_cons (by decide) _
    · exact noDigit_cons (by decide) _
    · exact noDigit_cons (by decide) _
    · exact noDigit_cons (by decide) _
  have firstDigit : ∀ point ∈ [first],
      CodePoint.isDigit point = true := by
    intro point member
    rw [List.mem_singleton.mp member]
    exact areDigits first List.mem_cons_self
  have places :
      ((if decide (power < 0) then -(power.natAbs : Int)
        else power.natAbs) - others.length : Int) =
        power + 1 - (first :: others).length := by
    rw [List.length_cons]
    split_ifs with below
    · have negative := of_decide_eq_true below
      omega
    · have nonneg := of_decide_eq_false (Bool.not_eq_true _ ▸ below)
      omega
  rw [laidOut, parseMagnitude_digits negative notZero firstDigit ends,
    finishNumber_exponent negative _ _ otherDigits nonempty shownDigits
      delimited, value, places]
  rfl

/-- Digits laid out are read as the decimal they denote. -/
theorem parseMagnitude_layOut :
    parseMagnitude negative
        (Float64.layOut (first :: others) power ++ rest) =
      .ok (.float (Float64.ofDecimal negative
        (digitsValue (first :: others))
        (power + 1 - (first :: others).length)), rest) := by
  by_cases plain : -4 ≤ power ∧ power < 16
  · by_cases below : power < 0
    · exact parseMagnitude_layOut_below areDigits negative delimited plain
        below
    · by_cases short : (first :: others).length ≤ power.toNat + 1
      · exact parseMagnitude_layOut_whole notZero areDigits negative
          delimited plain below short
      · exact parseMagnitude_layOut_point notZero areDigits negative
          delimited plain below short
  · exact parseMagnitude_layOut_exponent notZero areDigits negative
      delimited plain

end Layout

/-- Digits laid out start with a digit. -/
theorem layOut_head
    {first : CodePoint} (others : Text) (power : Int)
    (isDigit : CodePoint.isDigit first = true) :
    ∃ digit rest, Float64.layOut (first :: others) power = digit :: rest ∧
      CodePoint.isDigit digit = true := by
  unfold Float64.layOut
  split
  · split
    · exact ⟨codePoint '0', _, rfl, by decide⟩
    · split
      · exact ⟨first, _, rfl, isDigit⟩
      · exact ⟨first, _, rfl, isDigit⟩
  · exact ⟨first, _, rfl, isDigit⟩

/-- What `repr` writes of a nonzero double. -/
structure Shown (value : Float64) (first : CodePoint) (others : Text)
    (power : Int) : Prop where
  written : value.repr =
    (if value.isNegative then text "-" else []) ++
      Float64.layOut (first :: others) power
  notZero : first ≠ codePoint '0'
  areDigits : ∀ point ∈ first :: others, CodePoint.isDigit point = true
  denotes : Float64.ofDecimal value.isNegative
    (digitsValue (first :: others))
    (power + 1 - (first :: others).length) = value

/-- A nonzero double is written with digits that denote it. -/
theorem exists_shown
    {value : Float64} (finite : value.isFinite = true)
    (nonzero : value.isZero = false) :
    ∃ first others power, Shown value first others power := by
  obtain ⟨count, digits, shortest⟩ : ∃ count digits,
      Float64.shortestDigits value value.decimalPower 16 1 =
        (count, digits) := ⟨_, _, rfl⟩
  obtain ⟨denotes, positive, low, high⟩ :=
    Float64.ofDecimal_shortestDigits finite nonzero 16 1 rfl le_rfl shortest
  have digitsNe : digits ≠ 0 := by
    have power : 0 < 10 ^ (count - 1) := Nat.pow_pos (by decide)
    omega
  obtain ⟨digit, tail, written, leading, small⟩ :=
    decimalText_cons digitsNe
  have notZero : digitPoint digit ≠ codePoint '0' := by
    intro equal
    have values := congrArg Fin.val equal
    rw [digitPoint_val small,
      show (codePoint '0').val = 48 by decide] at values
    omega
  obtain ⟨others, zeros, kept, isTail⟩ := dropZeros_cons notZero tail
  have areDigits := decimalText_isDigit digits
  have isValue := digitsValue_decimalText digits
  have longEnough := decimalText_length low positive
  have shortEnough : (decimalText digits).length ≤ count + 1 := by
    refine decimalText_length_le (Nat.succ_pos count) ?_
    have grows : 10 ^ (count + 1) = 10 * 10 ^ count := by ring
    have power : 0 < 10 ^ count := Nat.pow_pos (by decide)
    omega
  have length : (decimalText digits).length =
      (digitPoint digit :: others).length + zeros := by
    rw [written, isTail]
    simp only [List.length_cons, List.length_append,
      List.length_replicate]
    omega
  have carried :
      ((if count < (decimalText digits).length then 1 else 0 : Int)) =
        (digitPoint digit :: others).length + zeros - count := by
    rw [length] at longEnough shortEnough ⊢
    split_ifs <;> omega
  rw [written, isTail] at areDigits isValue
  refine ⟨digitPoint digit, others,
    value.decimalPower +
      (if count < (decimalText digits).length then 1 else 0),
    ?_, notZero, ?_, ?_⟩
  · rw [Float64.decimalPower, Float64.decimalGuess,
      Float64.binaryEstimate] at shortest ⊢
    simp only [Float64.repr, nonzero, Bool.false_eq_true, if_false,
      shortest]
    rw [← kept, ← written]
  · intro point member
    refine areDigits point ?_
    rw [← List.cons_append]
    exact List.mem_append_left _ member
  · conv_rhs => rw [← denotes]
    apply Float64.ofDecimal_congr
    rw [← List.cons_append, digitsValue_append, digitsValue_zeros,
      List.length_replicate, Nat.add_zero] at isValue
    rw [carried, ← isValue]
    push_cast
    have exponents : value.decimalPower +
        ((digitPoint digit :: others).length + zeros - count) + 1 -
          (digitPoint digit :: others).length =
        zeros + (value.decimalPower + 1 - count) := by
      ring
    rw [mul_assoc, ← zpow_natCast, ← zpow_add₀ (by norm_num), exponents]

/-- A double is written with a digit after its sign. -/
theorem repr_head (value : Float64) (finite : value.isFinite = true) :
    ∃ digit rest,
      value.repr =
          (if value.isNegative then text "-" else []) ++ digit :: rest ∧
        CodePoint.isDigit digit = true := by
  cases zero : value.isZero with
  | true =>
      refine ⟨codePoint '0', text ".0", ?_, by decide⟩
      rw [Float64.repr, if_pos zero]
      rfl
  | false =>
      obtain ⟨first, others, power, shown⟩ := exists_shown finite zero
      obtain ⟨digit, rest, laidOut, isDigit⟩ := layOut_head others power
        (shown.areDigits first List.mem_cons_self)
      refine ⟨digit, rest, ?_, isDigit⟩
      rw [shown.written, laidOut]

/-- The zero of either sign is read back. -/
theorem parseMagnitude_zero
    (negative : Bool) {rest : Text} (delimited : Delimited rest) :
    parseMagnitude negative (text "0.0" ++ rest) =
      .ok (.float (Float64.ofParts negative 0 0), rest) := by
  have spanned : spanDigits ([codePoint '0'] ++ rest) =
      ([codePoint '0'], rest) := by
    refine spanDigits_append ?_ delimited.not_digit
    intro point member
    rw [List.mem_singleton.mp member]
    decide
  have fraction : scanFraction (text ".0" ++ rest) =
      (some [codePoint '0'], rest) := by
    rw [show text ".0" ++ rest =
      codePoint '.' :: codePoint '0' :: rest from rfl, scanFraction,
      if_pos (by decide)]
    rw [List.singleton_append] at spanned
    rw [spanned]
  rw [show text "0.0" ++ rest = codePoint '0' :: (text ".0" ++ rest)
    from rfl, parseMagnitude, if_pos rfl, finishNumber, fraction]
  simp only [delimited.no_exponent, reduceCtorEq, false_and, if_false]
  rfl

/-- A zero is known by its sign. -/
theorem Float64.eq_of_isZero
    {value : Float64} (zero : value.isZero = true) :
    value = Float64.ofParts value.isNegative 0 0 := by
  obtain ⟨bits⟩ := value
  have fields : bits.toNat / 2 ^ 52 % 2048 = 0 ∧
      bits.toNat % 2 ^ 52 = 0 := by
    rw [Float64.isZero, Bool.and_eq_true] at zero
    exact ⟨of_decide_eq_true zero.1, of_decide_eq_true zero.2⟩
  have small := bits.isLt
  rw [Float64.ofParts, Float64.mk.injEq]
  apply BitVec.eq_of_toNat_eq
  simp only [Float64.isNegative, decide_eq_true_eq, BitVec.toNat_ofNat]
  split_ifs <;> omega

theorem Float64.repr_of_isZero
    {value : Float64} (zero : value.isZero = true) :
    value.repr =
      (if value.isNegative then text "-" else []) ++ text "0.0" := by
  rw [Float64.repr, if_pos zero]

/-- The magnitude of a finite double is read back. -/
theorem parseMagnitude_repr
    {value : Float64} (finite : value.isFinite = true) {magnitude : Text}
    (written : value.repr =
      (if value.isNegative then text "-" else []) ++ magnitude)
    {rest : Text} (delimited : Delimited rest) :
    parseMagnitude value.isNegative (magnitude ++ rest) =
      .ok (.float value, rest) := by
  cases zero : value.isZero with
  | true =>
      rw [Float64.repr_of_isZero zero] at written
      rw [← List.append_cancel_left written,
        parseMagnitude_zero value.isNegative delimited,
        ← Float64.eq_of_isZero zero]
  | false =>
      obtain ⟨first, others, power, shown⟩ := exists_shown finite zero
      rw [shown.written] at written
      rw [← List.append_cancel_left written,
        parseMagnitude_layOut shown.notZero shown.areDigits _ delimited,
        shown.denotes]

/-- The shortest decimal of a finite double is read back. -/
theorem parseScalar_repr
    (allowConstants : Bool) {value : Float64}
    (finite : value.isFinite = true) {rest : Text}
    (delimited : Delimited rest) :
    parseScalar allowConstants (value.repr ++ rest) =
      .ok (.float value, rest) := by
  obtain ⟨digit, tail, written, isDigit⟩ := repr_head value finite
  have readBack := parseMagnitude_repr finite written delimited
  rw [written]
  cases negative : value.isNegative with
  | true =>
      rw [negative] at readBack
      rw [← readBack]
      exact parseScalar_minus allowConstants _ isDigit
  | false =>
      rw [negative] at readBack
      rw [← readBack]
      exact parseScalar_digit allowConstants _ isDigit

end ScientificResourceLab.Python
