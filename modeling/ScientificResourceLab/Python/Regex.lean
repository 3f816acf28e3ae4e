import ScientificResourceLab.Python.Strings

/-!
# Regular expressions

The part of `re` that the source uses for searching.  `Regex.ends` lists the
ends of the matches at a position in the order in which the engine tries them,
so that the first one is the match that it reports.

`\w` asks for Unicode properties; a pattern with `\b` takes them as a
parameter.
-/

namespace ScientificResourceLab.Python

/-- A position in a text: the code point before it and the text after it. -/
structure Position where
  previous : Option CodePoint
  rest : Text

/-- A regular expression. -/
inductive Regex where
  | empty
  /-- One code point out of a class. -/
  | one (holds : CodePoint → Bool)
  /-- `^`. -/
  | start
  /-- `\b`. -/
  | boundary (isWord : CodePoint → Bool)
  /-- `(?<!…)` on one code point. -/
  | notAfter (holds : CodePoint → Bool)
  | seq (first second : Regex)
  | alt (first second : Regex)
  /-- Greedy repetition, `*`. -/
  | many (body : Regex)

namespace Regex

/-- The ends of a repetition; a round that matches nothing ends it. -/
def manyEnds (body : Position → List Position) :
    Nat → Position → List Position
  | 0, position => [position]
  | rounds + 1, position =>
      ((body position).filter fun next =>
        next.rest.length < position.rest.length).flatMap
          (manyEnds body rounds) ++ [position]

/-- The ends of the matches at a position, in the order of the engine. -/
def ends : Regex → Position → List Position
  | .empty, position => [position]
  | .one holds, position =>
      match position.rest with
      | point :: rest => if holds point then [⟨some point, rest⟩] else []
      | [] => []
  | .start, position =>
      if position.previous = none then [position] else []
  | .boundary isWord, position =>
      if position.previous.any isWord = position.rest.head?.any isWord then
        []
      else [position]
  | .notAfter holds, position =>
      if position.previous.any holds then [] else [position]
  | .seq first second, position =>
      (first.ends position).flatMap second.ends
  | .alt first second, position =>
      first.ends position ++ second.ends position
  | .many body, position =>
      manyEnds body.ends position.rest.length position

/-- The text of the first match from a position on. -/
def searchFrom (regex : Regex) (previous : Option CodePoint) :
    Text → Option Text
  | [] =>
      match regex.ends ⟨previous, []⟩ with
      | [] => none
      | _ :: _ => some []
  | point :: rest =>
      match regex.ends ⟨previous, point :: rest⟩ with
      | [] => searchFrom regex (some point) rest
      | found :: _ =>
          some ((point :: rest).take (rest.length + 1 - found.rest.length))

/-- `pattern.search(value)`, as the text of the match. -/
def search (regex : Regex) (value : Text) : Option Text :=
  regex.searchFrom none value

/-! ## Derived forms -/

/-- A fixed code point. -/
def point (char : Char) : Regex :=
  .one fun found => found = codePoint char

/-- A fixed text. -/
def literal (value : String) : Regex :=
  (text value).foldr
    (fun point rest => .seq (.one fun found => found = point) rest) .empty

/--
The lower case that `re.IGNORECASE` compares, on the code points that meet an
ASCII letter: dotted and dotless I, long S and the Kelvin sign.
-/
def foldCase (point : CodePoint) : CodePoint :=
  if 65 ≤ point.val ∧ point.val ≤ 90 then
    Fin.ofNat 0x110000 (point.val + 32)
  else if point.val = 0x130 ∨ point.val = 0x131 then codePoint 'i'
  else if point.val = 0x17F then codePoint 's'
  else if point.val = 0x212A then codePoint 'k'
  else point

/-- A code point of a class without regard to case. -/
def oneAnyCase (holds : CodePoint → Bool) : Regex :=
  .one fun found => holds (foldCase found)

/-- A fixed text in lower case, without regard to case. -/
def literalAnyCase (value : String) : Regex :=
  (text value).foldr
    (fun point rest =>
      .seq (oneAnyCase fun found => found = foldCase point) rest)
    .empty

/-- One of several expressions. -/
def oneOf : List Regex → Regex
  | [] => .one fun _ => false
  | [only] => only
  | first :: rest => .alt first (oneOf rest)

/-- One after the other. -/
def sequence : List Regex → Regex
  | [] => .empty
  | [only] => only
  | first :: rest => .seq first (sequence rest)

/-- `?`. -/
def opt (body : Regex) : Regex :=
  .alt body .empty

/-- `{count}`. -/
def exactly (body : Regex) : Nat → Regex
  | 0 => .empty
  | count + 1 => .seq body (exactly body count)

/-- `{count,}`. -/
def atLeast (count : Nat) (body : Regex) : Regex :=
  .seq (exactly body count) (.many body)

/-- `{0,count}`. -/
def atMost (body : Regex) : Nat → Regex
  | 0 => .empty
  | count + 1 => opt (.seq body (atMost body count))

/-! ## Classes -/

/-- `[A-Z]`. -/
def upper (point : CodePoint) : Bool :=
  65 ≤ point.val && point.val ≤ 90

/-- `[A-Za-z]`. -/
def letter (point : CodePoint) : Bool :=
  upper point || 97 ≤ point.val && point.val ≤ 122

/-- `[A-Za-z0-9]`. -/
def alphanumeric (point : CodePoint) : Bool :=
  letter point || CodePoint.isDigit point

/-- One of the characters of a text. -/
def among (chars : String) (point : CodePoint) : Bool :=
  (text chars).contains point

/-- `[A-Za-z0-9_]`. -/
def identifierPoint (point : CodePoint) : Bool :=
  alphanumeric point || among "_" point

/-- `[A-Za-z0-9._-]`. -/
def segmentPoint (point : CodePoint) : Bool :=
  alphanumeric point || among "._-" point

/-- `\S`. -/
def visible (point : CodePoint) : Bool :=
  !CodePoint.isSpace point

end Regex

end ScientificResourceLab.Python
