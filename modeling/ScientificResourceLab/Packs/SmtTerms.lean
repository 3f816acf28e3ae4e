import ScientificResourceLab.Python.Printing
import ScientificResourceLab.Steps.Fallible

/-!
# Formulas of the SMT adapter

A formula is an S-expression of JSON lists.  `validateSpec` checks its shape,
its operators and their numbers of operands; `buildTerm` then constructs the
solver's term bottom-up.  Variables are declared once: a cache, keyed by the
name of the variable, hands out the constant that was declared first.

The solver's own library is a parameter `Z3`: which terms it refuses to
construct, and in which models a term holds.  Of the two only conjunctions
are constrained, as its documentation has them.
-/

namespace ScientificResourceLab.Packs

open Python Steps

/-! ## Terms -/

/-- The sorts of variables. -/
inductive VarSort where
  | int
  | real
  deriving DecidableEq, Repr

/-- The comparisons of the `operator` module. -/
inductive Relation where
  | eq
  | lt
  | le
  | gt
  | ge
  deriving DecidableEq, Repr

/-- Terms, by the call of the library that constructs them. -/
inductive Term where
  | intVal (value : Int)
  | realVal (numeral : Text)
  | constant (sort : VarSort) (name : Text)
  | and (arguments : List Term)
  | or (arguments : List Term)
  | not (argument : Term)
  | implies (left right : Term)
  | compare (relation : Relation) (left right : Term)
  | distinct (arguments : List Term)
  | sum (arguments : List Term)
  | sub (left right : Term)
  | mul (left right : Term)
  | product (arguments : List Term)
  | div (left right : Term)

/-- `SmtError` with a message. -/
def smtError (message : Text) : PyError :=
  { kind := .smtError, message := message }

/-- An error of the solver's library; it is not one of the adapter's. -/
structure Refusal where
  error : PyError
  foreign : error.kind ≠ .smtError

/-- The solver's library. -/
structure Z3 where
  /-- Why a term cannot be constructed. -/
  refuses : Term → Option Refusal
  Model : Type
  holds : Model → Term → Prop
  /-- Whether a conjunction can be constructed does not depend on an order. -/
  refuses_and : ∀ arguments reordered : List Term,
    arguments.Perm reordered → refuses (.and arguments) = none →
      refuses (.and reordered) = none
  /-- A conjunction holds where all its arguments do. -/
  holds_and : ∀ (model : Model) (arguments : List Term),
    holds model (.and arguments) ↔
      ∀ argument ∈ arguments, holds model argument

/-- One call of the library. -/
def Z3.make (z3 : Z3) (term : Term) : Except PyError Term :=
  match z3.refuses term with
  | none => .ok term
  | some refusal => .error refusal.error

/-! ## The grammar -/

/-- `SUPPORTED_OPERATORS`, sorted. -/
def supportedOperators : List Text :=
  [text "*", text "+", text "-", text "/", text "<", text "<=", text "=",
    text ">", text ">=", text "and", text "distinct", text "implies",
    text "int-const", text "int-var", text "not", text "or",
    text "real-const", text "real-var"]

/-- The tags of the arity rules. -/
inductive ArityKind where
  | unary
  | binary
  | variadic
  deriving DecidableEq, Repr

/-- `_ARITY`. -/
def arityRules : List (Text × Nat × ArityKind) :=
  [(text "and", 2, .variadic), (text "or", 2, .variadic),
    (text "not", 1, .unary), (text "implies", 2, .binary),
    (text "=", 2, .variadic), (text "distinct", 2, .variadic),
    (text "<", 2, .variadic), (text "<=", 2, .variadic),
    (text ">", 2, .variadic), (text ">=", 2, .variadic),
    (text "+", 2, .variadic), (text "-", 2, .binary),
    (text "*", 2, .variadic), (text "/", 2, .variadic),
    (text "int-const", 1, .unary), (text "real-const", 1, .unary),
    (text "int-var", 1, .unary), (text "real-var", 1, .unary)]

/-- `MAX_FORMULA_NODES`. -/
def maxFormulaNodes : Nat := 10000

mutual

/-- `_count_nodes`. -/
def countNodes : Json → Nat
  | .arr items => 1 + countItems items
  | _ => 0

def countItems : List Json → Nat
  | [] => 0
  | item :: rest => countNodes item + countItems rest

end

/-- `_is_atom`. -/
def isAtom : Json → Bool
  | .str _ | .int _ | .float _ | .bool _ => true
  | _ => false

/-- The operators that take an atom. -/
def isLeafOperator (op : Text) : Bool :=
  [text "int-const", text "real-const", text "int-var",
    text "real-var"].contains op

/-- `_validate_arity`. -/
def validateArity (op : Text) (args : List Json) : Except PyError Unit :=
  match arityRules.lookup op with
  | none => .error ⟨.keyError, quoted op⟩
  | some (floor, kind) =>
      let got := args.length
      if kind = .unary ∧ got ≠ 1 then
        .error (smtError (text "operator " ++ quoted op ++
          text " takes exactly 1 operand, got " ++ intText got))
      else if kind = .binary ∧ got ≠ 2 then
        .error (smtError (text "operator " ++ quoted op ++
          text " takes exactly 2 operands, got " ++ intText got))
      else if kind = .variadic ∧ got < floor then
        .error (smtError (text "operator " ++ quoted op ++
          text " takes at least " ++ intText floor ++
          text " operands, got " ++ intText got))
      else .ok ()

/-- `_validate_leaf`. -/
def validateLeaf (op : Text) (atom : Json) : Except PyError Unit :=
  if op = text "int-const" then
    match atom with
    | .int _ => .ok ()
    | _ => .error (smtError (text
        "int-const operand must be a JSON integer, got " ++ reprJson atom))
  else if op = text "real-const" then
    match atom with
    | .int _ | .float _ => .ok ()
    | _ => .error (smtError (text
        "real-const operand must be a JSON number, got " ++ reprJson atom))
  else
    match atom with
    | .str (_ :: _) => .ok ()
    | _ => .error (smtError (op ++
        text " operand must be a non-empty variable name string, got " ++
        reprJson atom))

/-- The leaf of a list of operands, `args[0]`. -/
def validateLeafOperand (op : Text) (args : List Json) :
    Except PyError Unit :=
  match args with
  | atom :: _ => validateLeaf op atom
  | [] => .error (raised .indexError "list index out of range")

/-- The operator of an S-expression. -/
def validateOperator (op : Json) : Except PyError Text :=
  match op with
  | .str name =>
      if supportedOperators.contains name then .ok name
      else .error (smtError (text "formula_spec operator " ++
        quoted name ++ text " is not supported; must be one of " ++
        quotedList supportedOperators))
  | _ => .error (smtError (text "formula_spec operator " ++
      reprJson op ++ text " is not supported; must be one of " ++
      quotedList supportedOperators))

mutual

/-- `_validate_spec_rec`. -/
def validateSpecRec : Json → Except PyError Unit
  | .arr (op :: args) => do
      let name ← validateOperator op
      validateArity name args
      if isLeafOperator name then validateLeafOperand name args
      else validateOperands args
  | .arr [] | .null | .obj _ => .error (smtError (text
      "formula_spec operand must be an atom or a non-empty [operator, *operands] S-expression"))
  | _ => .ok ()

def validateOperands : List Json → Except PyError Unit
  | [] => .ok ()
  | arg :: rest => do
      validateSpecRec arg
      validateOperands rest

end

/-- `_validate_spec`. -/
def validateSpec (spec : Json) : Except PyError Unit :=
  match spec with
  | .arr (op :: args) =>
      if maxFormulaNodes < countNodes (.arr (op :: args)) then
        .error (smtError (text "formula_spec has " ++
          intText (countNodes (.arr (op :: args))) ++
          text " AST nodes, exceeding the size cap of " ++
          intText maxFormulaNodes ++
          text "; an oversized formula is rejected before the solver runs"))
      else validateSpecRec (.arr (op :: args))
  | _ => .error (smtError (text
      "formula_spec must be a non-empty list S-expression [operator, *operands], got a non-list or empty value"))

/-! ## Builders of operators -/

/-- `c[0]`, an argument of a builder. -/
def argument (children : List Term) (index : Nat) : Except PyError Term :=
  match children[index]? with
  | some child => .ok child
  | none => .error (raised .indexError "list index out of range")

/-- A builder for one operand. -/
def buildUnary (z3 : Z3) (shape : Term → Term) (children : List Term) :
    Except PyError Term := do
  let only ← argument children 0
  z3.make (shape only)

/-- A builder for two operands. -/
def buildBinary
    (z3 : Z3) (shape : Term → Term → Term) (children : List Term) :
    Except PyError Term := do
  let left ← argument children 0
  let right ← argument children 1
  z3.make (shape left right)

/-- `_chain_compare`. -/
def chainCompare (z3 : Z3) (relation : Relation) (children : List Term) :
    Except PyError Term := do
  let comparisons ← (children.zip children.tail).mapM fun pair =>
    z3.make (.compare relation pair.1 pair.2)
  z3.make (.and comparisons)

/-- The divisions of `_build_division` after the first operand. -/
def divideBy (z3 : Z3) : Term → List Term → Except PyError Term
  | quotient, [] => .ok quotient
  | quotient, child :: rest => do
      let next ← z3.make (.div quotient child)
      divideBy z3 next rest

/-- `_build_division`. -/
def buildDivision (z3 : Z3) (children : List Term) :
    Except PyError Term := do
  let dividend ← argument children 0
  divideBy z3 dividend children.tail

/-- `_build_product`. -/
def buildProduct (z3 : Z3) (children : List Term) : Except PyError Term :=
  match children with
  | [left, right] => z3.make (.mul left right)
  | _ => z3.make (.product children)

/-- `_OPERATOR_BUILDERS`. -/
def operatorBuilders (z3 : Z3) :
    List (Text × (List Term → Except PyError Term)) :=
  [(text "and", fun children => z3.make (.and children)),
    (text "or", fun children => z3.make (.or children)),
    (text "not", buildUnary z3 .not),
    (text "implies", buildBinary z3 .implies),
    (text "=", chainCompare z3 .eq),
    (text "distinct", fun children => z3.make (.distinct children)),
    (text "<", chainCompare z3 .lt),
    (text "<=", chainCompare z3 .le),
    (text ">", chainCompare z3 .gt),
    (text ">=", chainCompare z3 .ge),
    (text "+", fun children => z3.make (.sum children)),
    (text "-", buildBinary z3 .sub),
    (text "*", buildProduct z3),
    (text "/", buildDivision z3)]

/-- What `_apply_operator` raises for an operator without a builder. -/
def missingBuilder (op : Text) : PyError :=
  smtError (text "operator " ++ quoted op ++
    text " passed arity but had no z3 builder (adapter bug)")

/-- `_apply_operator`. -/
def applyOperator (z3 : Z3) (op : Text) (children : List Term) :
    Except PyError Term :=
  match (operatorBuilders z3).lookup op with
  | none => .error (missingBuilder op)
  | some builder => builder children

/-! ## The term builder -/

/-- What `_build_term` raises for an atom. -/
def bareAtom : PyError :=
  smtError (text
    "bare atom reached the term builder; expected a leaf S-expression")

/-- What a leaf S-expression denotes. -/
inductive Leaf where
  | numeral (term : Term)
  | variable (sort : VarSort) (name : Text)
  /-- An operand that `_validate_leaf` refuses. -/
  | malformed

/-- The leaf S-expressions of `_build_term`. -/
def leafOf (op : Text) (args : List Json) : Option Leaf :=
  if op = text "int-const" then
    match args with
    | .int value :: _ => some (.numeral (.intVal value))
    | _ => some .malformed
  else if op = text "real-const" then
    match args with
    | .int value :: _ => some (.numeral (.realVal (intText value)))
    | .float value :: _ => some (.numeral (.realVal (floatText value)))
    | _ => some .malformed
  else if op = text "int-var" then
    match args with
    | .str name :: _ => some (.variable .int name)
    | _ => some .malformed
  else if op = text "real-var" then
    match args with
    | .str name :: _ => some (.variable .real name)
    | _ => some .malformed
  else none

/-- `var_cache`: the sort of the constant stored under a name. -/
abbrev VarCache : Type := List (Text × VarSort)

/-- The constant of a variable, declared when the name is new. -/
def declare (z3 : Z3) (sort : VarSort) (name : Text) (cache : VarCache) :
    Except PyError (Term × VarCache) :=
  match cache.lookup name with
  | some stored => .ok (.constant stored name, cache)
  | none => do
      let term ← z3.make (.constant sort name)
      pure (term, cache ++ [(name, sort)])

def buildLeaf (z3 : Z3) (leaf : Leaf) (cache : VarCache) :
    Except PyError (Term × VarCache) :=
  match leaf with
  | .numeral term => do
      let term ← z3.make term
      pure (term, cache)
  | .variable sort name => declare z3 sort name cache
  | .malformed => .error (raised .typeError "malformed leaf")

mutual

/-- `_build_term`. -/
def buildTerm (z3 : Z3) :
    Json → VarCache → Except PyError (Term × VarCache)
  | .arr (op :: args), cache =>
      match op with
      | .str name =>
          match leafOf name args with
          | some leaf => buildLeaf z3 leaf cache
          | none => do
              let (children, cache) ← buildTerms z3 args cache
              let term ← applyOperator z3 name children
              pure (term, cache)
      | _ => .error (raised .typeError "not an operator")
  | .arr [], _ => .error (raised .indexError "list index out of range")
  | .null, _ | .obj _, _ =>
      .error (raised .typeError "not an S-expression")
  | _, _ => .error bareAtom

/-- The children of a term, built from the left. -/
def buildTerms (z3 : Z3) :
    List Json → VarCache → Except PyError (List Term × VarCache)
  | [], cache => .ok ([], cache)
  | arg :: rest, cache => do
      let (child, cache) ← buildTerm z3 arg cache
      let (children, cache) ← buildTerms z3 rest cache
      pure (child :: children, cache)

end

end ScientificResourceLab.Packs
