import ScientificResourceLab.Python.Exceptions
import ScientificResourceLab.Python.Patterns
import ScientificResourceLab.Steps.Fallible

/-!
# The gate of unit names

`_normalise_ucum` and `_gate_tokens` of `srl.packs.adapters.units`.  The gate
splits a normalised unit at operators and whitespace and looks up those tokens
that consist of ASCII letters; every other token passes.

That is all the gate checks (`gateTokens_eq_ok_iff`), so a unit passes with a
name that is no such token (`micrometre_passes`).
-/

namespace ScientificResourceLab.Packs.Units

open Python Steps

/-! ## The pinned subset -/

/-- `PINNED_QUDT_SUBSET`. -/
def pinnedQudtSubset : List Text :=
  [text "m", text "kg", text "s", text "A", text "K", text "mol",
    text "cd", text "N", text "Pa", text "J", text "W", text "Hz",
    text "V", text "C", text "ohm", text "m/s", text "m/s^2",
    text "kg*m/s^2", text "dimensionless"]

/-- `_UCUM_ALIASES`. -/
def ucumAliases : List (Text × Text) :=
  [(text "Ohm", text "ohm")]

/-- `_ALLOWED_TOKENS`. -/
def allowedTokens : List Text :=
  pinnedQudtSubset.filter (· ≠ text "dimensionless") ++
    [text "dimensionless"]

/-- `_UCUM_ALIASES.get(token, token)`. -/
def aliased (token : Text) : Text :=
  (ucumAliases.lookup token).getD token

/-! ## Normalising -/

variable (tables : UnicodeTables)

/-- A dot between two symbols. -/
def separatorDot : Pattern
  | some before, point :: after :: _ =>
      if point = codePoint '.' ∧
          (CodePoint.isAsciiLetter before ∨ CodePoint.isDigit before ∨
            before = codePoint ')') ∧
          (CodePoint.isAsciiLetter after ∨ after = codePoint '(') then
        some ⟨1, text "*"⟩
      else none
  | _, _ => none

/-- `_rewrite` on the letters, the sign and the digits of a token. -/
def rewrite (letters sign digits : Text) : Text :=
  if digits = [] then aliased (letters ++ sign)
  else aliased letters ++ text "**" ++ sign ++ digits

/-- `[A-Za-z]+-?\d*` with its rewriting. -/
def symbolToken : Pattern := fun _ rest =>
  let letters := rest.takeWhile CodePoint.isAsciiLetter
  let tail := rest.drop letters.length
  let sign := tail.take 1 |>.filter (· = codePoint '-')
  let digits := (tail.drop sign.length).takeWhile tables.isDecimal
  if letters = [] then none
  else some ⟨letters.length + sign.length + digits.length,
    rewrite letters sign digits⟩

/-- `_normalise_ucum`. -/
def normaliseUcum (unit : Text) : Text :=
  let cleaned := joinWords (words (strip unit))
  let normalised := substitute separatorDot cleaned
  substitute (symbolToken tables) normalised

/-! ## The gate -/

/-- `[\*/\^()\s]`. -/
def isOperator (point : CodePoint) : Bool :=
  point = codePoint '*' || point = codePoint '/' ||
    point = codePoint '^' || point = codePoint '(' ||
    point = codePoint ')' || CodePoint.isSpace point

/-- The tokens of a normalised unit that consist of ASCII letters. -/
def nameTokens (normalised : Text) : List Text :=
  let cleaned := substitute (oneOf isOperator (text " ")) normalised
  let cleaned := substitute (literal (text "**") (text " ")) cleaned
  (words cleaned).filter fun token => token.all CodePoint.isAsciiLetter

/-- A token that is in the subset, or the alias of one that is. -/
def Admitted (token : Text) : Prop :=
  token ∈ allowedTokens ∨
    ∃ resolved ∈ allowedTokens, ucumAliases.lookup token = some resolved

instance (token : Text) : Decidable (Admitted token) :=
  inferInstanceAs (Decidable (_ ∨ _))

/-- The `UnitError` of a token. -/
def outOfSubset (unit context token : Text) : PyError :=
  ⟨.unitError,
    text "unit " ++ quoted unit ++ text " (" ++ context ++
      text ") uses token " ++ quoted token ++
      text " which is not in the pinned QUDT subset"⟩

/-- The loop of the gate. -/
def checkTokens (unit context : Text) :
    List Text → Except PyError Unit
  | [] => .ok ⟨⟩
  | token :: rest => do
      refuseIf (¬ Admitted token) (outOfSubset unit context token)
      checkTokens unit context rest

/-- `_gate_tokens`. -/
def gateTokens (unit context : Text) : Except PyError Unit :=
  checkTokens unit context (nameTokens (normaliseUcum tables unit))

/-! ## Names in a unit -/

/-- A sign and decimal digits after a power operator. -/
def powerOperand (rest : Text) : Nat :=
  let sign := rest.take 1 |>.filter fun point =>
    point = codePoint '-' || point = codePoint '+'
  let digits := (rest.drop sign.length).takeWhile tables.isDecimal
  if digits = [] then 0 else sign.length + digits.length

def exponent : Pattern := fun _ rest =>
  let operator :=
    if (text "**").isPrefixOf rest then 2
    else if (text "^").isPrefixOf rest then 1
    else 0
  let operand := powerOperand tables (rest.drop operator)
  if operator = 0 ∨ operand = 0 then none
  else some ⟨operator + operand, text " "⟩

/-- A code point that stands in a name. -/
def isNamePoint (point : CodePoint) : Bool :=
  CodePoint.isAsciiLetter point || CodePoint.isDigit point ||
    point = codePoint '_' || 128 ≤ point.val && tables.isLetter point

/-- A run that starts with a letter or an underscore. -/
def startsName (run : Text) : Bool :=
  match run with
  | [] => false
  | point :: _ => isNamePoint tables point && !CodePoint.isDigit point

/-- The unit names that occur in a unit, without its exponents. -/
def unitNames (unit : Text) : List Text :=
  (runs (isNamePoint tables) (substitute (exponent tables) unit)).filter
    (startsName tables)

/-- On a unit that passes the gate, every name is in the subset. -/
def GateComplete (unit context : Text) : Prop :=
  gateTokens tables unit context = .ok ⟨⟩ →
    ∀ name ∈ unitNames tables (normaliseUcum tables unit),
      name ∈ allowedTokens

theorem checkTokens_eq_ok
    {unit context : Text} {tokens : List Text} {result : Unit} :
    checkTokens unit context tokens = .ok result ↔
      ∀ token ∈ tokens, Admitted token := by
  induction tokens with
  | nil => simp [checkTokens]
  | cons token rest induction =>
      simp only [checkTokens, bind_eq_ok_iff, refuseIf_eq_ok_iff, not_not,
        induction, List.forall_mem_cons]
      constructor
      · rintro ⟨_, isAdmitted, others⟩
        exact ⟨isAdmitted, others⟩
      · rintro ⟨isAdmitted, others⟩
        exact ⟨⟨⟩, isAdmitted, others⟩

/-- What the gate looks at: the tokens of ASCII letters, and nothing else. -/
theorem gateTokens_eq_ok_iff {unit context : Text} :
    gateTokens tables unit context = .ok ⟨⟩ ↔
      ∀ token ∈ nameTokens (normaliseUcum tables unit), Admitted token :=
  checkTokens_eq_ok

/-- A micrometre, with the sign U+00B5. -/
def micrometre : Text :=
  [⟨0xB5, by decide⟩, codePoint 'm']

/-- The name of a micrometre is not looked up. -/
theorem micrometre_passes :
    ¬ ∀ tables unit context, GateComplete tables unit context := by
  intro complete
  have passes : gateTokens latinTables micrometre (text "parse_unit") =
      .ok ⟨⟩ := by
    decide
  have isName : micrometre ∈
      unitNames latinTables (normaliseUcum latinTables micrometre) := by
    decide
  have isAllowed := complete latinTables micrometre (text "parse_unit")
    passes micrometre isName
  revert isAllowed
  decide

end ScientificResourceLab.Packs.Units
