import ScientificResourceLab.Python.Text

/-!
# Python floats as IEEE 754 doubles

A Python `float` is known here by its 64 bits.  `Float64.ofDecimal` is the
correctly rounded value of a decimal literal, ties to even, and
`Float64.repr` the shortest decimal that reads back as the same double, laid
out as Python's `float.__repr__` does.  Both are exact integer arithmetic on
the ratio the bits denote.
-/

namespace ScientificResourceLab.Python

/-- An IEEE 754 binary64 value. -/
structure Float64 where
  bits : BitVec 64
  deriving DecidableEq

namespace Float64

/-- Assemble a sign, a biased exponent and a 52-bit fraction. -/
def ofParts (negative : Bool) (exponent fraction : Nat) : Float64 :=
  ⟨BitVec.ofNat 64
    ((if negative then 2 ^ 63 else 0) + exponent * 2 ^ 52 + fraction)⟩

/-- The sign bit. -/
def isNegative (value : Float64) : Bool :=
  2 ^ 63 ≤ value.bits.toNat

/-- The biased exponent. -/
def exponent (value : Float64) : Nat :=
  value.bits.toNat / 2 ^ 52 % 2048

/-- The fraction field. -/
def fraction (value : Float64) : Nat :=
  value.bits.toNat % 2 ^ 52

/-- Neither an infinity nor a NaN. -/
def isFinite (value : Float64) : Bool :=
  value.exponent < 2047

/-- Positive or negative zero. -/
def isZero (value : Float64) : Bool :=
  value.exponent = 0 && value.fraction = 0

/-- The infinity of the given sign. -/
def infinity (negative : Bool) : Float64 :=
  ofParts negative 2047 0

/-- The quiet NaN. -/
def nan : Float64 :=
  ofParts false 2047 (2 ^ 51)

/-- Round a ratio to the nearest natural number, ties to even. -/
def roundHalfEven (num den : Nat) : Nat :=
  let quotient := num / den
  let twice := 2 * (num % den)
  if twice < den ∨ (twice = den ∧ quotient % 2 = 0) then
    quotient
  else
    quotient + 1

/-- Multiply a ratio by a power of a base with an integer exponent. -/
def scale (base : Nat) (power : Int) (ratio : Nat × Nat) : Nat × Nat :=
  if 0 ≤ power then
    (ratio.1 * base ^ power.toNat, ratio.2)
  else
    (ratio.1, ratio.2 * base ^ (-power).toNat)

/-- The largest `k` with `base ^ k ≤ ratio`, searched from an estimate. -/
def floorLog (base : Nat) (estimate : Int) (ratio : Nat × Nat) : Int :=
  let atLeast (power : Int) : Bool :=
    (scale base (-power) ratio).2 ≤ (scale base (-power) ratio).1
  if atLeast (estimate + 1) then estimate + 1
  else if atLeast estimate then estimate
  else estimate - 1

/-- The double nearest to a ratio of natural numbers. -/
def ofRatio (negative : Bool) (ratio : Nat × Nat) : Float64 :=
  if ratio.1 = 0 then
    ofParts negative 0 0
  else
    let estimate : Int := (Nat.log2 ratio.1 : Int) - Nat.log2 ratio.2
    let power := max (floorLog 2 estimate ratio) (-1022)
    let scaled := scale 2 (52 - power) ratio
    let mantissa := roundHalfEven scaled.1 scaled.2
    if mantissa < 2 ^ 52 then
      ofParts negative 0 mantissa
    else if power + (if mantissa = 2 ^ 53 then 1 else 0) > 1023 then
      infinity negative
    else
      -- A carry into `2 ^ 53` moves into the exponent field by itself.
      ofParts negative (power + 1022).toNat mantissa

/-- The double of `(-1)^negative * digits * 10^power`. -/
def ofDecimal (negative : Bool) (digits : Nat) (power : Int) : Float64 :=
  ofRatio negative (scale 10 power (digits, 1))

/-- The magnitude of a finite double as a ratio. -/
def toRatio (value : Float64) : Nat × Nat :=
  if value.exponent = 0 then
    (value.fraction, 2 ^ 1074)
  else
    scale 2 ((value.exponent : Int) - 1075)
      (2 ^ 52 + value.fraction, 1)

/--
The fewest significant digits that denote a finite nonzero double, with
their number, trying each number of digits up to seventeen.
-/
def shortestDigits (value : Float64) (power : Int) :
    Nat → Nat → Nat × Nat
  | 0, count => (count, nearestDigits count)
  | fuel + 1, count =>
      let digits := nearestDigits count
      if readsBack digits count then
        (count, digits)
      -- Doubles lie twice as close below a power of two as above it, so
      -- the nearest digits can miss it where the next ones above do not.
      else if readsBack (digits + 1) count then
        (count, digits + 1)
      else
        shortestDigits value power fuel (count + 1)
where
  nearestDigits (count : Nat) : Nat :=
    let scaled := scale 10 ((count : Int) - 1 - power) value.toRatio
    roundHalfEven scaled.1 scaled.2
  readsBack (digits count : Nat) : Bool :=
    ofDecimal value.isNegative digits (power + 1 - count) = value

/-- Lay digits out with the decimal point after position `power`. -/
def layOut (digits : Text) (power : Int) : Text :=
  if -4 ≤ power ∧ power < 16 then
    if power < 0 then
      text "0." ++ List.replicate (-power - 1).toNat (codePoint '0') ++
        digits
    else if digits.length ≤ power.toNat + 1 then
      digits ++
        List.replicate (power.toNat + 1 - digits.length) (codePoint '0') ++
        text ".0"
    else
      digits.take (power.toNat + 1) ++ text "." ++
        digits.drop (power.toNat + 1)
  else
    let shown := decimalText power.natAbs
    digits.take 1 ++
      (if digits.length ≤ 1 then [] else text "." ++ digits.drop 1) ++
      text (if power < 0 then "e-" else "e+") ++
      (if shown.length < 2 then text "0" else []) ++ shown

/-- `float.__repr__` on a finite double. -/
def repr (value : Float64) : Text :=
  let sign := if value.isNegative then text "-" else []
  if value.isZero then
    sign ++ text "0.0"
  else
    let ratio := value.toRatio
    let guess : Int :=
      ((Nat.log2 ratio.1 : Int) - Nat.log2 ratio.2) * 30103 / 100000
    let power := floorLog 10 (floorLog 10 guess ratio) ratio
    let (count, shortest) := shortestDigits value power 16 1
    let digits := decimalText shortest
    -- Rounding up to a power of ten moves the point by one place.
    let carried := if count < digits.length then 1 else 0
    sign ++ layOut (digits.reverse.dropWhile (· == codePoint '0')).reverse
      (power + carried)

end Float64

end ScientificResourceLab.Python
