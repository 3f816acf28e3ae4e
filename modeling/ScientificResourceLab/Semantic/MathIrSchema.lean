import ScientificResourceLab.Semantic.MathIr

/-!
# The schema of MathIR expressions

The expression part of the `MathIR/v1` schema as a predicate on values, and
where the validator agrees with it.  The schema closes every node: an object
has the keys of its kind and no others.  The validator only discriminates by
the keys it knows, so the two agree on a value exactly when a value that is
well formed otherwise has no further keys (`agrees_iff_closed`).
-/

namespace ScientificResourceLab.Semantic

open Python Contracts Steps

/-! ## The schema -/

/-- The `enum` of the operators. -/
def opEnum : List Text :=
  [text "arith1.abs", text "arith1.divide", text "arith1.minus",
    text "arith1.plus", text "arith1.power", text "arith1.root",
    text "arith1.times", text "arith1.unary_minus",
    text "calculus1.diff", text "calculus1.int",
    text "calculus1.partialdiff",
    text "fns1.domain", text "fns1.lambda", text "fns1.range",
    text "linalg1.determinant", text "linalg1.inverse",
    text "linalg1.transpose",
    text "logic1.and", text "logic1.equivalent", text "logic1.implies",
    text "logic1.not", text "logic1.or",
    text "nums1.e", text "nums1.i", text "nums1.infinity",
    text "nums1.pi",
    text "relation1.eq", text "relation1.geq", text "relation1.gt",
    text "relation1.leq", text "relation1.lt", text "relation1.neq",
    text "set1.in", text "set1.intersect", text "set1.subset",
    text "set1.union",
    text "stats1.covariance", text "stats1.mean", text "stats1.variance"]

/-- `additionalProperties: false`. -/
def OnlyKeys (keys : List Text) (members : List (Text × Json)) : Prop :=
  ∀ key ∈ members.map Prod.fst, key ∈ keys

/--
`$defs/expr`.  The alternatives of the `oneOf` require different keys and
exclude all others, so a value matches at most one of them.
-/
inductive MatchesExpr : Json → Prop where
  | application {members : List (Text × Json)} {op : Text}
      {items : List Json}
      (closed : OnlyKeys [text "op", text "args"] members)
      (hasOp : Json.lookup (text "op") members = some (.str op))
      (isOp : op ∈ opEnum)
      (hasArgs : Json.lookup (text "args") members = some (.arr items))
      (each : ∀ item ∈ items, MatchesExpr item) :
      MatchesExpr (.obj members)
  | const {members : List (Text × Json)} {value : Text}
      (closed : OnlyKeys [text "const"] members)
      (hasConst : Json.lookup (text "const") members = some (.str value))
      (isDecimal : isDecimalString value = true) :
      MatchesExpr (.obj members)
  | var {members : List (Text × Json)} {symbolId : Text}
      (closed : OnlyKeys [text "var"] members)
      (hasVar : Json.lookup (text "var") members = some (.str symbolId))
      (nonEmpty : symbolId ≠ []) : MatchesExpr (.obj members)

theorem mem_opEnum_iff {op : Text} :
    op ∈ opEnum ↔ op ∈ mathIrAllowlist := by
  have forward : ∀ op ∈ opEnum, op ∈ mathIrAllowlist := by
    simp -index only [opEnum, mathIrAllowlist, text_ofList]
    decide
  have backward : ∀ op ∈ mathIrAllowlist, op ∈ opEnum := by
    simp -index only [opEnum, mathIrAllowlist, text_ofList]
    decide
  exact ⟨forward op, backward op⟩

/-! ## Closed values -/

/-- The keys of the kind that a node has. -/
def ownKeys (members : List (Text × Json)) : List Text :=
  if hasKey "op" members then [text "op", text "args"]
  else if hasKey "const" members then [text "const"]
  else [text "var"]

/-- No node has a key beyond those of its kind. -/
inductive Closed : Json → Prop where
  | node {members : List (Text × Json)}
      (own : OnlyKeys (ownKeys members) members)
      (each : ∀ items,
        Json.lookup (text "args") members = some (.arr items) →
        ∀ item ∈ items, Closed item) : Closed (.obj members)

/-- Induction on the nodes of a value. -/
theorem node_induction
    {motive : Json → Prop}
    (node : ∀ members : List (Text × Json),
      (∀ items, Json.lookup (text "args") members = some (.arr items) →
        ∀ item ∈ items, motive item) → motive (.obj members))
    (other : ∀ value, (∀ members, value ≠ .obj members) → motive value)
    (value : Json) : motive value := by
  induction size : sizeOf value using Nat.strong_induction_on
    generalizing value with
  | _ bound induction =>
      subst size
      cases value with
      | obj members =>
          refine node members fun items hasArgs item isItem => ?_
          refine induction _ ?_ item rfl
          have inMembers := Json.mem_of_lookup hasArgs
          have small := List.sizeOf_lt_of_mem inMembers
          have smaller := List.sizeOf_lt_of_mem isItem
          simp only [Prod.mk.sizeOf_spec, Json.arr.sizeOf_spec,
            Json.obj.sizeOf_spec] at small ⊢
          omega
      | null | bool _ | int _ | float _ | str _ | arr _ =>
          exact other _ (by simp)

/-! ## Values that match -/

theorem treesOf_eq_some_of_forall
    {items : List Json} {wanted : Tree → Prop}
    (each : ∀ item ∈ items, ∃ tree, treeOf item = some tree ∧
      wanted tree) :
    ∃ trees, treesOf items = some trees ∧ ∀ tree ∈ trees, wanted tree := by
  induction items with
  | nil => exact ⟨[], rfl, by simp⟩
  | cons item rest induction =>
      obtain ⟨tree, isTree, holds⟩ := each item List.mem_cons_self
      obtain ⟨trees, isTrees, others⟩ := induction fun other isOther =>
        each other (List.mem_cons_of_mem _ isOther)
      refine ⟨tree :: trees, by rw [treesOf, isTree, isTrees], ?_⟩
      intro other isOther
      rcases List.mem_cons.mp isOther with rfl | later
      · exact holds
      · exact others other later

theorem forall_of_treesOf
    {items : List Json} {trees : List Tree}
    (isTrees : treesOf items = some trees) {wanted : Tree → Prop}
    (each : ∀ tree ∈ trees, wanted tree) :
    ∀ item ∈ items, ∃ tree, treeOf item = some tree ∧ wanted tree := by
  induction items generalizing trees with
  | nil => simp
  | cons item rest induction =>
      rw [treesOf] at isTrees
      split at isTrees
      · next tree others isTree isOthers =>
          cases isTrees
          intro other isOther
          rcases List.mem_cons.mp isOther with rfl | later
          · exact ⟨tree, isTree, each tree List.mem_cons_self⟩
          · exact induction isOthers
              (fun tree isTree =>
                each tree (List.mem_cons_of_mem _ isTree)) other later
      · cases isTrees

theorem allWellFormed_iff {trees : List Tree} :
    AllWellFormed trees ↔ ∀ tree ∈ trees, tree.WellFormed := by
  induction trees with
  | nil => simp [AllWellFormed]
  | cons tree rest induction => simp [AllWellFormed, induction]

theorem lookup_eq_none_of_onlyKeys
    {keys : List Text} {members : List (Text × Json)}
    (closed : OnlyKeys keys members) {key : Text} (other : key ∉ keys) :
    Json.lookup key members = none := by
  cases found : Json.lookup key members with
  | none => rfl
  | some value =>
      have isKey := List.mem_map_of_mem (f := Prod.fst)
        (Json.mem_of_lookup found)
      exact absurd (closed key isKey) other

/-- A well-formed tree, of a value without further keys. -/
def WellFormedValue (value : Json) : Prop :=
  ∃ tree, treeOf value = some tree ∧ tree.WellFormed

/-- The schema accepts the closed values that denote a well-formed tree. -/
theorem matchesExpr_iff (value : Json) :
    MatchesExpr value ↔ WellFormedValue value ∧ Closed value := by
  constructor
  · intro matched
    induction matched with
    | @application members op items closed hasOp isOp hasArgs _ induction =>
        have noConst := lookup_eq_none_of_onlyKeys closed
          (by decide : text "const" ∉ _)
        have noVar := lookup_eq_none_of_onlyKeys closed
          (by decide : text "var" ∉ _)
        obtain ⟨trees, isTrees, wellFormed⟩ :=
          treesOf_eq_some_of_forall fun item isItem =>
            (induction item isItem).1
        refine ⟨⟨.application op trees, ?_, mem_opEnum_iff.mp isOp,
          allWellFormed_iff.mpr wellFormed⟩, .node ?_ ?_⟩
        · rw [treeOf, nodeOf, hasOp, noConst, noVar, argsOf_eq, hasArgs]
          simp only [isTrees, Option.map_some]
        · rw [ownKeys, hasKey, hasOp]
          exact closed
        · intro others isOthers item isItem
          cases hasArgs.symm.trans isOthers
          exact (induction item isItem).2
    | @const members decimal closed hasConst isDecimal =>
        have noOp := lookup_eq_none_of_onlyKeys closed
          (by decide : text "op" ∉ _)
        have noVar := lookup_eq_none_of_onlyKeys closed
          (by decide : text "var" ∉ _)
        have noArgs := lookup_eq_none_of_onlyKeys closed
          (by decide : text "args" ∉ _)
        refine ⟨⟨.const decimal, ?_, isDecimal⟩, .node ?_ ?_⟩
        · rw [treeOf, nodeOf, noOp, hasConst, noVar]
        · rw [ownKeys, hasKey, hasKey, noOp, hasConst]
          exact closed
        · intro items hasArgs
          rw [noArgs] at hasArgs
          cases hasArgs
    | @var members symbol closed hasVar nonEmpty =>
        have noOp := lookup_eq_none_of_onlyKeys closed
          (by decide : text "op" ∉ _)
        have noConst := lookup_eq_none_of_onlyKeys closed
          (by decide : text "const" ∉ _)
        have noArgs := lookup_eq_none_of_onlyKeys closed
          (by decide : text "args" ∉ _)
        refine ⟨⟨.var symbol, ?_, nonEmpty⟩, .node ?_ ?_⟩
        · rw [treeOf, nodeOf, noOp, noConst, hasVar]
        · rw [ownKeys, hasKey, hasKey, noOp, noConst]
          exact closed
        · intro items hasArgs
          rw [noArgs] at hasArgs
          cases hasArgs
  · rintro ⟨wellFormed, closed⟩
    induction value using node_induction with
    | other value notObject =>
        cases closed with
        | node _ _ => exact absurd rfl (notObject _)
    | node members induction =>
        obtain ⟨tree, isTree, holds⟩ := wellFormed
        cases closed with
        | node own each =>
            rw [treeOf, nodeOf.eq_def] at isTree
            split at isTree
            · next op hasOp noConst noVar =>
                rw [Option.map_eq_some_iff] at isTree
                obtain ⟨trees, isTrees, rfl⟩ := isTree
                rw [argsOf_eq] at isTrees
                split at isTrees
                · next items hasArgs =>
                    rw [ownKeys, hasKey, hasOp] at own
                    refine .application own hasOp
                      (mem_opEnum_iff.mpr holds.1) hasArgs ?_
                    intro item isItem
                    exact induction items hasArgs item isItem
                      (forall_of_treesOf isTrees
                        (allWellFormed_iff.mp holds.2) item isItem)
                      (each items hasArgs item isItem)
                · cases isTrees
            · next decimal noOp hasConst noVar =>
                cases isTree
                rw [ownKeys, hasKey, hasKey, noOp, hasConst] at own
                exact .const own hasConst holds
            · next symbol noOp noConst hasVar =>
                cases isTree
                rw [ownKeys, hasKey, hasKey, noOp, noConst] at own
                exact .var own hasVar holds
            · cases isTree

/-! ## Agreement -/

/-- Allowed operators and both limits, for the tree that a value denotes. -/
def WithinLimits (value : Json) : Prop :=
  ∀ tree, treeOf value = some tree →
    (∀ op ∈ tree.ops, op ∈ mathIrAllowlist) ∧
      tree.depth ≤ maxDepth ∧ tree.size ≤ maxNodes

/-- The validator accepts a value exactly when the schema and limits do. -/
def Agrees (value : Json) : Prop :=
  validateExpression value = .ok () ↔
    MatchesExpr value ∧ WithinLimits value

/-- The schema and the limits, on a value without further keys. -/
theorem matches_within_iff (value : Json) :
    MatchesExpr value ∧ WithinLimits value ↔
      (∃ tree, treeOf value = some tree ∧ tree.Valid) ∧ Closed value := by
  rw [matchesExpr_iff]
  constructor
  · rintro ⟨⟨⟨tree, isTree, wellFormed⟩, closed⟩, limits⟩
    obtain ⟨-, depth, size⟩ := limits tree isTree
    exact ⟨⟨tree, isTree, wellFormed, depth, size⟩, closed⟩
  · rintro ⟨⟨tree, isTree, valid⟩, closed⟩
    refine ⟨⟨⟨tree, isTree, valid.wellFormed⟩, closed⟩, ?_⟩
    intro other isOther
    cases isTree.symm.trans isOther
    exact ⟨valid.wellFormed.ops, valid.depth, valid.size⟩

/--
The validator agrees with the schema on a value exactly when a value that
denotes a well-formed tree within the limits has no node with a key beyond
those of its kind.
-/
theorem agrees_iff_closed (value : Json) :
    Agrees value ↔
      ((∃ tree, treeOf value = some tree ∧ tree.Valid) →
        Closed value) := by
  rw [Agrees, validateExpression_eq_ok, matches_within_iff]
  exact ⟨fun agrees valid => (agrees.mp valid).2,
    fun closed => ⟨fun valid => ⟨valid, closed valid⟩, And.left⟩⟩

/-- A variable with a further key. -/
def annotatedVariable : Json :=
  .obj [(text "var", .str (text "x")), (text "note", .null)]

/-- The validator accepts a variable with a further key. -/
theorem annotatedVariable_disagrees : ¬ ∀ value, Agrees value := by
  intro agrees
  have accepted : validateExpression annotatedVariable = .ok () := by
    decide
  have matched := ((agrees annotatedVariable).mp accepted).1
  have closed := ((matchesExpr_iff _).mp matched).2
  cases closed with
  | node own _ =>
      have isOwn := own (text "note") (by decide)
      exact absurd isOwn (by decide)

end ScientificResourceLab.Semantic
