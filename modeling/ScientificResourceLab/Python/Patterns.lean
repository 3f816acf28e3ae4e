import ScientificResourceLab.Python.Strings

/-!
# Substitution by patterns

`re.sub` for a pattern that matches no empty text.  A pattern is given by what
it finds at a position: the length of the match there and the text that takes
its place.  It sees the code point before the position, for look-behind, and
the rest of the text.

`UnicodeTables` holds what a pattern asks about code points outside ASCII.
-/

namespace ScientificResourceLab.Python

/-- The Unicode properties that patterns use. -/
structure UnicodeTables where
  /-- A decimal digit, as `\d` has it. -/
  isDecimal : CodePoint → Bool
  /-- A letter outside ASCII. -/
  isLetter : CodePoint → Bool
  isDecimal_ascii : ∀ point : CodePoint, point.val < 128 →
    isDecimal point = CodePoint.isDigit point

def latinTables : UnicodeTables where
  isDecimal := CodePoint.isDigit
  isLetter point := point.val = 0xAA || point.val = 0xB5 ||
    point.val = 0xBA || 0xC0 ≤ point.val && point.val ≤ 0xFF &&
      point.val ≠ 0xD7 && point.val ≠ 0xF7
  isDecimal_ascii _ _ := rfl

/-- `[A-Za-z]`. -/
def CodePoint.isAsciiLetter (point : CodePoint) : Bool :=
  65 ≤ point.val && point.val ≤ 90 || 97 ≤ point.val && point.val ≤ 122

/-- A match at a position: its length and what takes its place. -/
structure Match where
  length : Nat
  replacement : Text

/-- A pattern with its replacement, given the code point before a position
and the text from there on. -/
abbrev Pattern := Option CodePoint → Text → Option Match

/-- The text after a position, with some code points of it already matched. -/
def substituteFrom (find : Pattern) (previous : Option CodePoint)
    (matched : Nat) : Text → Text
  | [] => []
  | point :: rest =>
      match matched with
      | matched + 1 => substituteFrom find (some point) matched rest
      | 0 =>
          match find previous (point :: rest) with
          | some found => found.replacement ++
              substituteFrom find (some point) (found.length - 1) rest
          | none => point :: substituteFrom find (some point) 0 rest

/-- `re.sub`. -/
def substitute (find : Pattern) (value : Text) : Text :=
  substituteFrom find none 0 value

/-- A pattern of one code point. -/
def oneOf (holds : CodePoint → Bool) (replacement : Text) : Pattern
  | _, point :: _ => if holds point then some ⟨1, replacement⟩ else none
  | _, [] => none

def literal (pattern replacement : Text) : Pattern := fun _ rest =>
  if pattern.isPrefixOf rest then some ⟨pattern.length, replacement⟩
  else none

/-- The maximal runs of code points with a property. -/
def runs (holds : CodePoint → Bool) (value : Text) : List Text :=
  (value.splitOnP fun point => !holds point).filter (· ≠ [])

/-- `str.split()`. -/
def words (value : Text) : List Text :=
  runs (fun point => !CodePoint.isSpace point) value

/-- `" ".join(words)`. -/
def joinWords (parts : List Text) : Text :=
  List.intercalate [codePoint ' '] parts

end ScientificResourceLab.Python
