import ScientificResourceLab.Python.Float64
import Mathlib.Data.List.Sort

/-!
# Python's `json` module

`Json` is the type of values `json.loads` returns.  An object is the list of
its members in insertion order.  `dumpText` writes a value with sorted keys,
compact separators and `ensure_ascii=False`; `parseText` reads a document as
the standard decoder does: control characters in strings are refused, escaped
surrogate pairs are joined, a repeated key keeps its first place and its last
value, and an integer literal longer than the interpreter's digit limit is a
`ValueError` rather than a decoding error.

The decoder's recursion is bounded by the length of the text, which no
document exhausts: every level of nesting and every item takes at least one
character.
-/

namespace ScientificResourceLab.Python

/-- A value of Python's `json` module. -/
inductive Json where
  | null
  | bool (value : Bool)
  | int (value : Int)
  | float (value : Float64)
  | str (value : Text)
  | arr (items : List Json)
  | obj (members : List (Text × Json))

/-- The ways in which reading or writing a document fails. -/
inductive JsonError where
  | decode
  | value
  | constant
  deriving DecidableEq, Repr

/-- `sys.get_int_max_str_digits()`. -/
def intMaxStrDigits : Nat := 4300

namespace Json

/-- `dict.get` on the members of an object. -/
def lookup (key : Text) : List (Text × Json) → Option Json
  | [] => none
  | (name, value) :: rest =>
      if name = key then some value else lookup key rest

/-- `dict.__setitem__`: a present key keeps its place. -/
def insert (key : Text) (value : Json) :
    List (Text × Json) → List (Text × Json)
  | [] => [(key, value)]
  | (name, old) :: rest =>
      if name = key then (name, value) :: rest
      else (name, old) :: insert key value rest

/-- The dict built by storing members one after another. -/
def ofMembers (members : List (Text × Json)) : List (Text × Json) :=
  members.foldl (fun stored member => insert member.1 member.2 stored) []

theorem lookup_of_not_mem
    {key : Text} {members : List (Text × Json)}
    (absent : key ∉ members.map Prod.fst) :
    lookup key members = none := by
  induction members with
  | nil => rfl
  | cons member rest induction =>
      simp only [List.map_cons, List.mem_cons, not_or] at absent
      rw [lookup, if_neg (Ne.symm absent.1), induction absent.2]

end Json

/-- `type(value).__name__`. -/
def typeName : Json → Text
  | .null => text "NoneType"
  | .bool _ => text "bool"
  | .int _ => text "int"
  | .float _ => text "float"
  | .str _ => text "str"
  | .arr _ => text "list"
  | .obj _ => text "dict"

/-- A string or `None`. -/
def optionalText : Option Text → Json
  | none => .null
  | some value => .str value

/-- An `int` of a decoded value, of which `bool` is a subclass. -/
def asInteger : Json → Option Int
  | .int value => some value
  | .bool value => some (if value then 1 else 0)
  | _ => none

/-- `sorted` on strings. -/
def sortedTexts (values : List Text) : List Text :=
  values.insertionSort (· ≤ ·)

/-! ## Writing -/

/-- The escape of one code point inside a string. -/
def escapePoint (point : CodePoint) : Text :=
  if point = codePoint '"' then text "\\\""
  else if point = codePoint '\\' then text "\\\\"
  else if point = codePoint '\n' then text "\\n"
  else if point = codePoint '\r' then text "\\r"
  else if point = codePoint '\t' then text "\\t"
  else if point.val = 8 then text "\\b"
  else if point.val = 12 then text "\\f"
  else if point.val < 32 then
    text "\\u00" ++ [hexPoint (point.val / 16), hexPoint (point.val % 16)]
  else [point]

/-- A string literal. -/
def stringText (value : Text) : Text :=
  codePoint '"' :: (value.flatMap escapePoint ++ [codePoint '"'])

/-- `int.__repr__`. -/
def intText (value : Int) : Text :=
  (if value < 0 then [codePoint '-'] else []) ++ decimalText value.natAbs

/-- A float as `json.dumps` writes it, with the constants of JavaScript. -/
def jsonFloat (value : Float64) : Text :=
  if value.isFinite then value.repr
  else if value = Float64.infinity false then text "Infinity"
  else if value = Float64.infinity true then text "-Infinity"
  else text "NaN"

def joinComma : List Text → Text
  | [] => []
  | [item] => item
  | item :: rest => item ++ codePoint ',' :: joinComma rest

/-- Members ordered by their key. -/
def KeyLe {α : Type*} (left right : Text × α) : Prop :=
  left.1 ≤ right.1

instance {α : Type*} : DecidableRel (KeyLe (α := α)) :=
  fun left right => inferInstanceAs (Decidable (left.1 ≤ right.1))

mutual

/--
`json.dumps(value, sort_keys=True, separators=(",", ":"),
ensure_ascii=False, allow_nan=False)`; `none` is its `ValueError`.
-/
def dumpText : Json → Option Text
  | .null => some (text "null")
  | .bool true => some (text "true")
  | .bool false => some (text "false")
  | .int value =>
      if (decimalText value.natAbs).length ≤ intMaxStrDigits then
        some (intText value)
      else none
  | .float value => if value.isFinite then some value.repr else none
  | .str value => some (stringText value)
  | .arr items => do
      let texts ← dumpItems items
      pure (codePoint '[' :: (joinComma texts ++ [codePoint ']']))
  | .obj members => do
      let texts ← dumpMembers members
      let sorted := texts.insertionSort KeyLe
      pure (codePoint '{' ::
        (joinComma (sorted.map fun member =>
          stringText member.1 ++ codePoint ':' :: member.2) ++
        [codePoint '}']))

/-- The texts of the items of an array. -/
def dumpItems : List Json → Option (List Text)
  | [] => some []
  | item :: rest => do
      let head ← dumpText item
      let tail ← dumpItems rest
      pure (head :: tail)

/-- The keys of an object with the texts of their values. -/
def dumpMembers : List (Text × Json) → Option (List (Text × Text))
  | [] => some []
  | (key, value) :: rest => do
      let head ← dumpText value
      let tail ← dumpMembers rest
      pure ((key, head) :: tail)

end

/-! ## Reading -/

/-- JSON whitespace. -/
def isBlank (point : CodePoint) : Bool :=
  point = codePoint ' ' || point = codePoint '\t' ||
    point = codePoint '\n' || point = codePoint '\r'

/-- Drop leading JSON whitespace. -/
def skipBlank (source : Text) : Text :=
  source.dropWhile isBlank

/-- The longest run of leading decimal digits, and what follows it. -/
def spanDigits : Text → Text × Text
  | [] => ([], [])
  | point :: rest =>
      if CodePoint.isDigit point then
        (point :: (spanDigits rest).1, (spanDigits rest).2)
      else ([], point :: rest)

/-- The value of a hexadecimal digit of either case. -/
def hexValue (point : CodePoint) : Option Nat :=
  if 48 ≤ point.val ∧ point.val ≤ 57 then some (point.val - 48)
  else if 97 ≤ point.val ∧ point.val ≤ 102 then some (point.val - 87)
  else if 65 ≤ point.val ∧ point.val ≤ 70 then some (point.val - 55)
  else none

/-- The code point of four hexadecimal digits. -/
def hexEscape (first second third fourth : CodePoint) :
    Option CodePoint := do
  let a ← hexValue first
  let b ← hexValue second
  let c ← hexValue third
  let d ← hexValue fourth
  pure (Fin.ofNat 0x110000 (a * 4096 + b * 256 + c * 16 + d))

/-- The code point of a one-letter escape. -/
def simpleEscape (point : CodePoint) : Option CodePoint :=
  if point = codePoint '"' then some (codePoint '"')
  else if point = codePoint '\\' then some (codePoint '\\')
  else if point = codePoint '/' then some (codePoint '/')
  else if point = codePoint 'b' then some 8
  else if point = codePoint 'f' then some 12
  else if point = codePoint 'n' then some (codePoint '\n')
  else if point = codePoint 'r' then some (codePoint '\r')
  else if point = codePoint 't' then some (codePoint '\t')
  else none

/-- The code point denoted by a surrogate pair. -/
def joinSurrogates (high low : CodePoint) : CodePoint :=
  Fin.ofNat 0x110000
    (0x10000 + (high.val - 0xD800) * 1024 + (low.val - 0xDC00))

def joinEscapes : List (CodePoint × Bool) → Text
  | [] => []
  | [(point, _)] => [point]
  | (first, true) :: (second, true) :: rest =>
      if CodePoint.isHighSurrogate first ∧
          CodePoint.isLowSurrogate second then
        joinSurrogates first second :: joinEscapes rest
      else
        first :: joinEscapes ((second, true) :: rest)
  | (first, _) :: rest => first :: joinEscapes rest

/--
The body of a string literal up to its closing quote, each code point marked
when it was written as a `\u` escape.
-/
def scanString : Text → Option (List (CodePoint × Bool) × Text)
  | [] => none
  | point :: rest =>
      if point = codePoint '"' then
        some ([], rest)
      else if point = codePoint '\\' then
        match rest with
        | [] => none
        | letter :: rest =>
            if letter = codePoint 'u' then
              match rest with
              | a :: b :: c :: d :: rest =>
                  match hexEscape a b c d with
                  | none => none
                  | some value =>
                      (scanString rest).map fun scanned =>
                        ((value, true) :: scanned.1, scanned.2)
              | _ => none
            else
              match simpleEscape letter with
              | none => none
              | some value =>
                  (scanString rest).map fun scanned =>
                    ((value, false) :: scanned.1, scanned.2)
      else if point.val < 32 then
        none
      else
        (scanString rest).map fun scanned =>
          ((point, false) :: scanned.1, scanned.2)

/-- A string literal after its opening quote. -/
def parseString (source : Text) : Except JsonError (Text × Text) :=
  match scanString source with
  | none => .error .decode
  | some (points, rest) => .ok (joinEscapes points, rest)

/-- The fraction digits after a number, if any. -/
def scanFraction (source : Text) : Option Text × Text :=
  match source with
  | point :: digit :: rest =>
      if point = codePoint '.' ∧ CodePoint.isDigit digit then
        (some (spanDigits (digit :: rest)).1,
          (spanDigits (digit :: rest)).2)
      else (none, source)
  | _ => (none, source)

/-- The exponent after a number, if any. -/
def scanExponent (source : Text) : Option Int × Text :=
  match source with
  | letter :: rest =>
      if letter = codePoint 'e' ∨ letter = codePoint 'E' then
        let (negative, digits) :=
          match rest with
          | sign :: digits =>
              if sign = codePoint '-' then (true, digits)
              else if sign = codePoint '+' then (false, digits)
              else (false, rest)
          | [] => (false, rest)
        if (spanDigits digits).1 = [] then
          (none, source)
        else
          let value : Int := digitsValue (spanDigits digits).1
          (some (if negative then -value else value),
            (spanDigits digits).2)
      else (none, source)
  | [] => (none, source)

/-- What follows the integer digits of a number. -/
def finishNumber (negative : Bool) (digits rest : Text) :
    Except JsonError (Json × Text) :=
  let (fraction, afterFraction) := scanFraction rest
  let (exponent, afterExponent) := scanExponent afterFraction
  if fraction = none ∧ exponent = none then
    if intMaxStrDigits < digits.length then
      .error .value
    else
      let value : Int := digitsValue digits
      .ok (.int (if negative then -value else value), afterExponent)
  else
    let decimals := fraction.getD []
    .ok (.float
        (Float64.ofDecimal negative (digitsValue (digits ++ decimals))
          (exponent.getD 0 - decimals.length)),
      afterExponent)

/-- A number without its sign. -/
def parseMagnitude (negative : Bool) :
    Text → Except JsonError (Json × Text)
  | [] => .error .decode
  | digit :: rest =>
      if digit = codePoint '0' then
        finishNumber negative [digit] rest
      else if CodePoint.isDigit digit then
        finishNumber negative (digit :: (spanDigits rest).1)
          (spanDigits rest).2
      else .error .decode

/-- The rest of a text that starts with a literal. -/
def stripLiteral (literal : Text) (source : Text) : Option Text :=
  if literal.isPrefixOf source then some (source.drop literal.length)
  else none

/-- The constants `NaN`, `Infinity` and `-Infinity`. -/
def parseConstant (allowConstants : Bool) (value : Float64)
    (rest : Text) : Except JsonError (Json × Text) :=
  if allowConstants then .ok (.float value, rest) else .error .constant

/-- A value that is not a string, an array or an object. -/
def parseScalar (allowConstants : Bool) (source : Text) :
    Except JsonError (Json × Text) :=
  match stripLiteral (text "null") source with
  | some rest => .ok (.null, rest)
  | none =>
  match stripLiteral (text "true") source with
  | some rest => .ok (.bool true, rest)
  | none =>
  match stripLiteral (text "false") source with
  | some rest => .ok (.bool false, rest)
  | none =>
  match stripLiteral (text "NaN") source with
  | some rest => parseConstant allowConstants Float64.nan rest
  | none =>
  match stripLiteral (text "Infinity") source with
  | some rest =>
      parseConstant allowConstants (Float64.infinity false) rest
  | none =>
  match stripLiteral (text "-Infinity") source with
  | some rest =>
      parseConstant allowConstants (Float64.infinity true) rest
  | none =>
  match source with
  | sign :: rest =>
      if sign = codePoint '-' then parseMagnitude true rest
      else parseMagnitude false source
  | [] => .error .decode

mutual

/-- `scan_once`: one value at the start of a text. -/
def parseValue (allowConstants : Bool) :
    Nat → Text → Except JsonError (Json × Text)
  | 0, _ => .error .decode
  | fuel + 1, source =>
      match source with
      | [] => .error .decode
      | point :: rest =>
          if point = codePoint '"' then do
            let (value, rest) ← parseString rest
            pure (.str value, rest)
          else if point = codePoint '[' then
            match skipBlank rest with
            | [] => .error .decode
            | next :: after =>
                if next = codePoint ']' then
                  .ok (.arr [], after)
                else do
                  let (items, rest) ←
                    parseItems allowConstants fuel (next :: after)
                  pure (.arr items, rest)
          else if point = codePoint '{' then
            match skipBlank rest with
            | [] => .error .decode
            | next :: after =>
                if next = codePoint '}' then
                  .ok (.obj [], after)
                else do
                  let (members, rest) ←
                    parseMembers allowConstants fuel (next :: after)
                  pure (.obj (Json.ofMembers members), rest)
          else
            parseScalar allowConstants source

/-- The items of an array, up to its closing bracket. -/
def parseItems (allowConstants : Bool) :
    Nat → Text → Except JsonError (List Json × Text)
  | 0, _ => .error .decode
  | fuel + 1, source => do
      let (item, rest) ← parseValue allowConstants fuel source
      match skipBlank rest with
      | [] => .error .decode
      | next :: after =>
          if next = codePoint ']' then
            pure ([item], after)
          else if next = codePoint ',' then do
            let (items, rest) ←
              parseItems allowConstants fuel (skipBlank after)
            pure (item :: items, rest)
          else .error .decode

/-- The members of an object, up to its closing brace. -/
def parseMembers (allowConstants : Bool) :
    Nat → Text → Except JsonError (List (Text × Json) × Text)
  | 0, _ => .error .decode
  | fuel + 1, source =>
      match source with
      | [] => .error .decode
      | point :: rest =>
          if point = codePoint '"' then do
            let (key, rest) ← parseString rest
            match skipBlank rest with
            | [] => .error .decode
            | colon :: rest =>
                if colon = codePoint ':' then do
                  let (value, rest) ←
                    parseValue allowConstants fuel (skipBlank rest)
                  match skipBlank rest with
                  | [] => .error .decode
                  | next :: after =>
                      if next = codePoint '}' then
                        pure ([(key, value)], after)
                      else if next = codePoint ',' then do
                        let (members, rest) ←
                          parseMembers allowConstants fuel
                            (skipBlank after)
                        pure ((key, value) :: members, rest)
                      else .error .decode
                else .error .decode
          else .error .decode

end

/--
`json.loads` on a `str`, with the constants `NaN` and `Infinity` accepted or
refused by the `parse_constant` hook.
-/
def parseText (allowConstants : Bool) (source : Text) :
    Except JsonError Json :=
  if source.head? = some 0xFEFF then
    .error .decode
  else do
    let (value, rest) ←
      parseValue allowConstants (2 * source.length + 1)
        (skipBlank source)
    if skipBlank rest = [] then pure value else .error .decode

end ScientificResourceLab.Python
