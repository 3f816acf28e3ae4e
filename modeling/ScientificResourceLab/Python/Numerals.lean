import ScientificResourceLab.Python.Json

/-!
# The characters of a number

What `int.__repr__` and `float.__repr__` write consists of the digits, the
two signs, the point and the letter `e`.
-/

namespace ScientificResourceLab.Python

/-- The code points of numbers. -/
def numeralPoints : List CodePoint :=
  text "0123456789+-.e"

/-- A text with no other code points than those of numbers. -/
def Numeral (value : Text) : Prop :=
  ∀ point ∈ value, point ∈ numeralPoints

@[simp]
theorem numeral_append {first second : Text} :
    Numeral (first ++ second) ↔ Numeral first ∧ Numeral second :=
  List.forall_mem_append

@[simp]
theorem numeral_nil : Numeral [] :=
  nofun

/-- A fixed text is one when a test says so. -/
theorem numeral_text
    {literal : String}
    (plain : (text literal).all numeralPoints.contains = true) :
    Numeral (text literal) := by
  intro point member
  simpa using List.all_eq_true.mp plain point member

theorem numeral_digits
    {digits : Text}
    (areDigits : ∀ point ∈ digits, CodePoint.isDigit point = true) :
    Numeral digits := by
  intro point member
  have isDigit := areDigits point member
  simp only [CodePoint.isDigit, Bool.and_eq_true, decide_eq_true_eq]
    at isDigit
  obtain ⟨digit, small, rfl⟩ : ∃ digit, digit < 10 ∧
      point = Fin.ofNat 0x110000 (48 + digit) := by
    refine ⟨point.val - 48, by omega, Fin.ext ?_⟩
    rw [Fin.val_ofNat, Nat.mod_eq_of_lt (by omega)]
    omega
  interval_cases digit <;> decide

theorem numeral_decimalText (value : Nat) : Numeral (decimalText value) :=
  numeral_digits (decimalText_isDigit value)

theorem Numeral.subset
    {whole part : Text} (numeral : Numeral whole) (within : part ⊆ whole) :
    Numeral part :=
  fun point member => numeral point (within member)

theorem numeral_replicate (count : Nat) :
    Numeral (List.replicate count (codePoint '0')) := by
  intro point member
  rw [List.eq_of_mem_replicate member]
  decide

theorem numeral_ite
    {condition : Prop} [Decidable condition] {first second : Text}
    (inFirst : Numeral first) (inSecond : Numeral second) :
    Numeral (if condition then first else second) := by
  split_ifs
  · exact inFirst
  · exact inSecond

theorem numeral_intText (value : Int) : Numeral (intText value) := by
  have sign : Numeral [codePoint '-'] := by
    rw [Numeral, List.forall_mem_singleton]
    decide
  rw [intText, numeral_append]
  exact ⟨numeral_ite sign numeral_nil, numeral_decimalText _⟩

theorem numeral_layOut
    {digits : Text} (numeral : Numeral digits) (power : Int) :
    Numeral (Float64.layOut digits power) := by
  have front (count : Nat) : Numeral (digits.take count) :=
    numeral.subset (List.take_subset _ _)
  have back (count : Nat) : Numeral (digits.drop count) :=
    numeral.subset (List.drop_subset _ _)
  have point : Numeral (text ".") := numeral_text (by decide)
  have zeroPoint : Numeral (text "0.") := numeral_text (by decide)
  have pointZero : Numeral (text ".0") := numeral_text (by decide)
  have minus : Numeral (text "e-") := numeral_text (by decide)
  have plus : Numeral (text "e+") := numeral_text (by decide)
  have padding : Numeral
      (if (decimalText power.natAbs).length < 2 then text "0" else []) :=
    numeral_ite (numeral_text (by decide)) numeral_nil
  rw [Float64.layOut]
  split_ifs <;>
    simp only [numeral_append, numeral, front, back, point, zeroPoint,
      pointZero, minus, plus, padding, numeral_replicate, numeral_decimalText,
      numeral_nil, and_self]

theorem numeral_trimmed (value : Nat) :
    Numeral ((decimalText value).reverse.dropWhile
      (· == codePoint '0')).reverse := by
  intro point member
  rw [List.mem_reverse] at member
  exact numeral_decimalText value point
    (List.mem_reverse.mp (List.dropWhile_subset _ member))

/-- What a float is written as. -/
theorem numeral_repr (value : Float64) : Numeral value.repr := by
  have sign : Numeral (if value.isNegative then text "-" else []) :=
    numeral_ite (numeral_text (by decide)) numeral_nil
  refine numeral_ite (numeral_append.mpr
    ⟨sign, numeral_text (by decide)⟩) ?_
  exact numeral_append.mpr ⟨sign, numeral_layOut (numeral_trimmed _) _⟩

end ScientificResourceLab.Python
