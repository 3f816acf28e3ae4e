import ScientificResourceLab.Contracts.Decimals
import ScientificResourceLab.Python.JsonOrder
import ScientificResourceLab.Python.Printing

/-!
# The validator of MathIR expressions

`validate_expression` of `srl.semantic.ir` walks the wire form of an
expression with a depth limit and a running count of nodes.  A `Tree` is what
the wire form denotes when the kind of each node is read off its keys; the
validator accepts a value exactly when it denotes a well-formed tree within
both limits (`validateExpression_eq_ok`).

The keys of a node beyond those of its kind are not looked at, where the
schema of `MathIR/v1` excludes them.
-/

namespace ScientificResourceLab.Semantic

open Python Contracts Steps

/-! ## Tables -/

/-- `MAX_DEPTH`. -/
def maxDepth : Nat := 64

/-- `MAX_NODES`. -/
def maxNodes : Nat := 10000

/-- `MATH_IR_ALLOWLIST`. -/
def mathIrAllowlist : List Text :=
  [text "arith1.plus", text "arith1.minus", text "arith1.times",
    text "arith1.divide", text "arith1.power", text "arith1.root",
    text "arith1.abs", text "arith1.unary_minus",
    text "relation1.eq", text "relation1.neq", text "relation1.lt",
    text "relation1.leq", text "relation1.gt", text "relation1.geq",
    text "logic1.and", text "logic1.or", text "logic1.not",
    text "logic1.implies", text "logic1.equivalent",
    text "set1.in", text "set1.subset", text "set1.union",
    text "set1.intersect",
    text "calculus1.diff", text "calculus1.partialdiff",
    text "calculus1.int",
    text "linalg1.determinant", text "linalg1.transpose",
    text "linalg1.inverse",
    text "nums1.pi", text "nums1.e", text "nums1.i",
    text "nums1.infinity",
    text "fns1.lambda", text "fns1.domain", text "fns1.range",
    text "stats1.mean", text "stats1.variance", text "stats1.covariance"]

/-- The content dictionary of an operator, `op.split(".", 1)[0]`. -/
def contentDictionary (op : Text) : Text :=
  op.takeWhile (· ≠ codePoint '.')

/-- `_ACCEPTED_CDS`, in the order of `sorted`. -/
def acceptedCds : List Text :=
  (mathIrAllowlist.map contentDictionary).dedup.insertionSort (· ≤ ·)

/-- A code point of either half of an operator. -/
def isOpPoint (point : CodePoint) : Bool :=
  CodePoint.isDigit point || (97 ≤ point.val && point.val ≤ 122) ||
    point = codePoint '_'

/-- `_OP_RE`, matched in full. -/
def isOpShape (op : Text) : Bool :=
  match op.dropWhile (· ≠ codePoint '.') with
  | _ :: name =>
      contentDictionary op ≠ [] && (contentDictionary op).all isOpPoint &&
        name ≠ [] && name.all isOpPoint
  | [] => false

/-! ## The validator -/

/-- A `ContractError`. -/
def irContractError (message : Text) : PyError :=
  ⟨.contractError, message⟩

def checkOperator (op : Text) : Except PyError Unit := do
  refuseIf (isOpShape op = false)
    ⟨.unsupportedOperatorError, text "MathIR operator " ++ quoted op ++
      text " is not a valid '<cd>.<name>' pair; rejected as unsupported"⟩
  refuseIf (op ∉ mathIrAllowlist)
    ⟨.unsupportedOperatorError,
      if contentDictionary op ∈ acceptedCds then
        text "MathIR operator " ++ quoted op ++
          text " uses known content dictionary " ++
          quoted (contentDictionary op) ++
          text " but the name is not in the allowlist"
      else
        text "MathIR operator " ++ quoted op ++
          text " uses unknown content dictionary " ++
          quoted (contentDictionary op) ++ text "; only " ++
          quotedList acceptedCds ++ text " are accepted"⟩

/-- `_validate_application`, with the validator of the children. -/
def validateApplication
    (validateChild : Nat → Json → Except PyError Nat)
    (members : List (Text × Json)) (count : Nat) : Except PyError Nat :=
  match getOrNone (text "op") members with
  | .str op => do
      checkOperator op
      match getOrNone (text "args") members with
      | .arr items => items.foldlM validateChild count
      | other =>
          .error (irContractError
            (text "MathIR application 'args' must be an array, got " ++
              typeName other))
  | other =>
      .error (irContractError
        (text "MathIR application 'op' must be a string, got " ++
          typeName other))

/-- `_validate_const`. -/
def validateConst (members : List (Text × Json)) : Except PyError Unit :=
  let refusal := irContractError (text "MathIR constant " ++
    reprJson (getOrNone (text "const") members) ++
    text " must be a decimal-string policy value " ++
    text "('^-?[0-9]+(\\\\.[0-9]+)?$'); non-finite values are the " ++
    text "symbolic 'nums1.infinity', not a float")
  match getOrNone (text "const") members with
  | .str value => refuseIf (isDecimalString value = false) refusal
  | _ => .error refusal

/-- `_validate_var`. -/
def validateVar (members : List (Text × Json)) : Except PyError Unit :=
  let refusal := irContractError
    (text "MathIR variable 'var' must be a non-empty string symbol-id")
  match getOrNone (text "var") members with
  | .str symbolId => refuseIf (symbolId = []) refusal
  | _ => .error refusal

/-- The presence of a key. -/
def hasKey (key : String) (members : List (Text × Json)) : Bool :=
  (Json.lookup (text key) members).isSome

/-- `_validate_node` on an object, with the validator of the children. -/
def validateMembers
    (validateChild : Nat → Json → Except PyError Nat)
    (members : List (Text × Json)) (count : Nat) : Except PyError Nat :=
  match hasKey "op" members, hasKey "const" members,
      hasKey "var" members with
  | true, false, false => validateApplication validateChild members count
  | false, true, false => do
      validateConst members
      pure count
  | false, false, true => do
      validateVar members
      pure count
  | _, _, _ =>
      .error (irContractError
        (text "MathIR node must be exactly one of " ++
          text "\x7bop, const, var\x7d; got keys " ++
          quotedList
            ((members.map Prod.fst).insertionSort (· ≤ ·))))

/--
`_validate_node`, which returns the count after the node.  The first argument
is the number of levels that are left: it is `MAX_DEPTH + 1 - depth`.
-/
def validateNode : Nat → Nat → Json → Except PyError Nat
  | 0, _, _ =>
      .error ⟨.irResourceLimitError,
        text "MathIR expression exceeds depth limit 64 (got depth 65)"⟩
  | levels + 1, count, node => do
      refuseIf (count + 1 > maxNodes)
        ⟨.irResourceLimitError,
          text "MathIR expression exceeds node-count limit 10000"⟩
      match node with
      | .obj members =>
          validateMembers (validateNode levels) members (count + 1)
      | other =>
          .error (irContractError
            (text "MathIR node must be an object, got " ++
              typeName other))

/-- `validate_expression`. -/
def validateExpression (tree : Json) : Except PyError Unit := do
  let _ ← validateNode maxDepth 0 tree
  pure ()

/-! ## Trees -/

/-- An expression. -/
inductive Tree where
  | application (op : Text) (args : List Tree)
  | const (value : Text)
  | var (symbolId : Text)

mutual

/-- The number of nodes on the longest path from the root to a leaf. -/
def Tree.depth : Tree → Nat
  | .application _ args => depths args + 1
  | .const _ => 1
  | .var _ => 1

def depths : List Tree → Nat
  | [] => 0
  | tree :: rest => max tree.depth (depths rest)

end

mutual

/-- The number of nodes. -/
def Tree.size : Tree → Nat
  | .application _ args => sizes args + 1
  | .const _ => 1
  | .var _ => 1

def sizes : List Tree → Nat
  | [] => 0
  | tree :: rest => tree.size + sizes rest

end

mutual

/-- Allowed operators, decimal strings and non-empty symbol ids. -/
def Tree.WellFormed : Tree → Prop
  | .application op args => op ∈ mathIrAllowlist ∧ AllWellFormed args
  | .const value => isDecimalString value = true
  | .var symbolId => symbolId ≠ []

def AllWellFormed : List Tree → Prop
  | [] => True
  | tree :: rest => tree.WellFormed ∧ AllWellFormed rest

end

mutual

/-- The operators in the order in which a walk from the root meets them. -/
def Tree.ops : Tree → List Text
  | .application op args => op :: opsOf args
  | .const _ => []
  | .var _ => []

def opsOf : List Tree → List Text
  | [] => []
  | tree :: rest => tree.ops ++ opsOf rest

end

/-- The node that the keys of an object select. -/
def nodeOf (members : List (Text × Json)) (args : Option (List Tree)) :
    Option Tree :=
  match Json.lookup (text "op") members,
      Json.lookup (text "const") members,
      Json.lookup (text "var") members with
  | some (.str op), none, none => args.map (.application op)
  | none, some (.str value), none => some (.const value)
  | none, none, some (.str symbolId) => some (.var symbolId)
  | _, _, _ => none

mutual

/-- The tree that a wire form denotes. -/
def treeOf : Json → Option Tree
  | .obj members => nodeOf members (argsOf members)
  | _ => none

/-- The trees of the array under the key `args`. -/
def argsOf : List (Text × Json) → Option (List Tree)
  | [] => none
  | (key, .arr items) :: rest =>
      if key = text "args" then treesOf items else argsOf rest
  | (key, _) :: rest => if key = text "args" then none else argsOf rest

def treesOf : List Json → Option (List Tree)
  | [] => some []
  | item :: rest =>
      match treeOf item, treesOf rest with
      | some tree, some trees => some (tree :: trees)
      | _, _ => none

end

/-- The arguments of a node are under its first key `args`. -/
theorem argsOf_eq (members : List (Text × Json)) :
    argsOf members =
      match Json.lookup (text "args") members with
      | some (.arr items) => treesOf items
      | _ => none := by
  induction members with
  | nil => rfl
  | cons member rest induction =>
      obtain ⟨key, value⟩ := member
      cases value with
      | arr items =>
          rw [argsOf, Json.lookup]
          split_ifs with isArgs
          · rfl
          · exact induction
      | null | bool _ | int _ | float _ | str _ | obj _ =>
          rw [argsOf, Json.lookup]
          · split_ifs with isArgs
            · rfl
            · exact induction
          · simp

theorem argsOf_eq_some_iff
    {members : List (Text × Json)} {trees : List Tree} :
    argsOf members = some trees ↔
      ∃ items, getOrNone (text "args") members = .arr items ∧
        treesOf items = some trees := by
  rw [argsOf_eq, getOrNone]
  cases Json.lookup (text "args") members with
  | none => simp
  | some value => cases value <;> simp

/-! ## What the validator accepts -/

/-- A tree that the validator counts from a number of nodes on. -/
structure Counts (levels count : Nat) (tree : Tree) (after : Nat) :
    Prop where
  wellFormed : tree.WellFormed
  depth : tree.depth ≤ levels
  total : after = count + tree.size
  size : after ≤ maxNodes

/-- Trees that the validator counts one after the other. -/
structure CountsAll (levels count : Nat) (trees : List Tree) (after : Nat) :
    Prop where
  wellFormed : AllWellFormed trees
  depth : depths trees ≤ levels
  total : after = count + sizes trees
  size : after ≤ maxNodes

theorem validateChildren_eq_ok
    {levels : Nat}
    (one : ∀ {count : Nat} {node : Json} {after : Nat},
      validateNode levels count node = .ok after ↔
        ∃ tree, treeOf node = some tree ∧ Counts levels count tree after)
    {items : List Json} {count after : Nat} (within : count ≤ maxNodes) :
    items.foldlM (validateNode levels) count = .ok after ↔
      ∃ trees, treesOf items = some trees ∧
        CountsAll levels count trees after := by
  induction items generalizing count with
  | nil =>
      rw [List.foldlM_nil, pure_eq_ok_iff]
      constructor
      · rintro rfl
        exact ⟨[], rfl, trivial, Nat.zero_le _, rfl, within⟩
      · rintro ⟨trees, isTrees, counts⟩
        cases isTrees
        exact counts.total.symm
  | cons item rest induction =>
      rw [List.foldlM_cons, bind_eq_ok_iff]
      constructor
      · rintro ⟨middle, first, later⟩
        obtain ⟨tree, isTree, counts⟩ := one.mp first
        obtain ⟨trees, isTrees, others⟩ := (induction counts.size).mp later
        refine ⟨tree :: trees, by rw [treesOf, isTree, isTrees],
          ⟨counts.wellFormed, others.wellFormed⟩,
          max_le counts.depth others.depth, ?_, others.size⟩
        rw [others.total, counts.total, sizes, Nat.add_assoc]
      · rintro ⟨trees, isTrees, counts⟩
        rw [treesOf] at isTrees
        split at isTrees
        · next tree others isTree isOthers =>
            cases isTrees
            obtain ⟨wellFormed, depth, isAfter, size⟩ := counts
            rw [depths] at depth
            rw [sizes] at isAfter
            have bound : count + tree.size ≤ maxNodes := by omega
            refine ⟨count + tree.size, one.mpr ⟨tree, isTree,
              wellFormed.1, (le_max_left _ _).trans depth, rfl, bound⟩,
              (induction bound).mpr ⟨others, isOthers, wellFormed.2,
                (le_max_right _ _).trans depth, by omega, size⟩⟩
        · cases isTrees

/-- Every allowed operator has the shape of one. -/
theorem isOpShape_of_mem {op : Text} (isAllowed : op ∈ mathIrAllowlist) :
    isOpShape op = true := by
  have every : ∀ op ∈ mathIrAllowlist, isOpShape op = true := by
    simp -index only [mathIrAllowlist, text_ofList]
    decide
  exact every op isAllowed

theorem checkOperator_eq_ok {op : Text} {result : Unit} :
    checkOperator op = .ok result ↔ op ∈ mathIrAllowlist := by
  simp only [checkOperator, bind_eq_ok_iff, refuseIf_eq_ok_iff, not_not]
  constructor
  · rintro ⟨_, _, isAllowed⟩
    exact isAllowed
  · intro isAllowed
    exact ⟨⟨⟩, by simp [isOpShape_of_mem isAllowed], isAllowed⟩

theorem validateConst_eq_ok
    {members : List (Text × Json)} {result : Unit} :
    validateConst members = .ok result ↔
      ∃ value, getOrNone (text "const") members = .str value ∧
        isDecimalString value = true := by
  rw [validateConst]
  cases getOrNone (text "const") members <;> simp

theorem validateVar_eq_ok
    {members : List (Text × Json)} {result : Unit} :
    validateVar members = .ok result ↔
      ∃ symbolId, getOrNone (text "var") members = .str symbolId ∧
        symbolId ≠ [] := by
  rw [validateVar]
  cases getOrNone (text "var") members <;> simp

theorem validateApplication_eq_ok
    {validateChild : Nat → Json → Except PyError Nat}
    {members : List (Text × Json)} {count after : Nat} :
    validateApplication validateChild members count = .ok after ↔
      ∃ op items, getOrNone (text "op") members = .str op ∧
        op ∈ mathIrAllowlist ∧
        getOrNone (text "args") members = .arr items ∧
        items.foldlM validateChild count = .ok after := by
  rw [validateApplication]
  cases getOrNone (text "op") members with
  | str op =>
      simp only [bind_eq_ok_iff, checkOperator_eq_ok]
      cases getOrNone (text "args") members with
      | arr items => simp
      | null | bool _ | int _ | float _ | str _ | obj _ => simp
  | null | bool _ | int _ | float _ | arr _ | obj _ => simp

/-- What a node denotes by its keys. -/
theorem nodeOf_eq_some_iff
    {members : List (Text × Json)} {args : Option (List Tree)}
    {tree : Tree} :
    nodeOf members args = some tree ↔
      (hasKey "op" members = true ∧ hasKey "const" members = false ∧
        hasKey "var" members = false ∧
        ∃ op trees, getOrNone (text "op") members = .str op ∧
          args = some trees ∧ tree = .application op trees) ∨
      (hasKey "op" members = false ∧ hasKey "const" members = true ∧
        hasKey "var" members = false ∧
        ∃ value, getOrNone (text "const") members = .str value ∧
          tree = .const value) ∨
      (hasKey "op" members = false ∧ hasKey "const" members = false ∧
        hasKey "var" members = true ∧
        ∃ symbolId, getOrNone (text "var") members = .str symbolId ∧
          tree = .var symbolId) := by
  rw [nodeOf]
  simp only [hasKey, getOrNone]
  cases Json.lookup (text "op") members with
  | none =>
      cases Json.lookup (text "const") members with
      | none =>
          cases Json.lookup (text "var") members with
          | none => simp
          | some symbol => cases symbol <;> simp [eq_comm]
      | some value =>
          cases Json.lookup (text "var") members with
          | none => cases value <;> simp [eq_comm]
          | some symbol => simp
  | some op =>
      cases Json.lookup (text "const") members with
      | none =>
          cases Json.lookup (text "var") members with
          | none =>
              cases op with
              | str name =>
                  cases args with
                  | none => simp
                  | some trees => simp [eq_comm]
              | null | bool _ | int _ | float _ | arr _ | obj _ => simp
          | some symbol => simp
      | some value => simp

/-- The validator accepts a node exactly when it denotes a tree in bounds. -/
theorem validateNode_eq_ok
    {levels count : Nat} {node : Json} {after : Nat} :
    validateNode levels count node = .ok after ↔
      ∃ tree, treeOf node = some tree ∧
        Counts levels count tree after := by
  induction levels generalizing count node after with
  | zero =>
      rw [validateNode]
      refine iff_of_false (by simp) ?_
      rintro ⟨tree, _, counts⟩
      have positive : 0 < tree.depth := by
        cases tree <;> simp [Tree.depth]
      exact absurd counts.depth (by omega)
  | succ levels induction =>
      cases node with
      | null | bool _ | int _ | float _ | str _ | arr _ =>
          rw [validateNode, bind_eq_ok_iff]
          · simp [treeOf]
          · simp
      | obj members =>
          rw [validateNode, bind_eq_ok_iff]
          simp only [refuseIf_eq_ok_iff, not_lt, gt_iff_lt, exists_const]
          simp only [validateMembers, treeOf, nodeOf_eq_some_iff,
            argsOf_eq_some_iff]
          constructor
          · rintro ⟨within, accepted⟩
            split at accepted
            · next isOp noConst noVar =>
                obtain ⟨op, items, hasOp, isAllowed, hasArgs, ran⟩ :=
                  validateApplication_eq_ok.mp accepted
                obtain ⟨trees, isTrees, counts⟩ :=
                  (validateChildren_eq_ok induction within).mp ran
                refine ⟨.application op trees, .inl ⟨isOp, noConst, noVar,
                  op, trees, hasOp, ⟨items, hasArgs, isTrees⟩, rfl⟩,
                  ⟨isAllowed, counts.wellFormed⟩,
                  Nat.succ_le_succ counts.depth, ?_, counts.size⟩
                rw [counts.total, Tree.size]
                omega
            · next noOp isConst noVar =>
                simp only [bind_eq_ok_iff, pure_eq_ok_iff,
                  validateConst_eq_ok] at accepted
                obtain ⟨_, ⟨value, hasConst, decimal⟩, rfl⟩ := accepted
                exact ⟨.const value, .inr (.inl ⟨noOp, isConst, noVar,
                  value, hasConst, rfl⟩), decimal,
                  Nat.succ_le_succ (Nat.zero_le _), rfl, within⟩
            · next noOp noConst isVar =>
                simp only [bind_eq_ok_iff, pure_eq_ok_iff,
                  validateVar_eq_ok] at accepted
                obtain ⟨_, ⟨symbol, hasVar, nonEmpty⟩, rfl⟩ := accepted
                exact ⟨.var symbol, .inr (.inr ⟨noOp, noConst, isVar,
                  symbol, hasVar, rfl⟩), nonEmpty,
                  Nat.succ_le_succ (Nat.zero_le _), rfl, within⟩
            · cases accepted
          · rintro ⟨tree, ⟨isOp, noConst, noVar, op, trees, hasOp,
                ⟨items, hasArgs, isTrees⟩, rfl⟩ |
              ⟨noOp, isConst, noVar, value, hasConst, rfl⟩ |
              ⟨noOp, noConst, isVar, symbol, hasVar, rfl⟩, counts⟩
            · obtain ⟨wellFormed, depth, isAfter, size⟩ := counts
              rw [Tree.size] at isAfter
              have within : count + 1 ≤ maxNodes := by omega
              refine ⟨within, ?_⟩
              rw [isOp, noConst, noVar]
              refine validateApplication_eq_ok.mpr ⟨op, items, hasOp,
                wellFormed.1, hasArgs,
                (validateChildren_eq_ok induction within).mpr
                  ⟨trees, isTrees, wellFormed.2,
                    Nat.le_of_succ_le_succ depth, by omega, size⟩⟩
            · obtain ⟨decimal, _, isAfter, size⟩ := counts
              rw [Tree.size] at isAfter
              refine ⟨by omega, ?_⟩
              rw [noOp, isConst, noVar]
              simp only [bind_eq_ok_iff, pure_eq_ok_iff,
                validateConst_eq_ok]
              exact ⟨⟨⟩, ⟨value, hasConst, decimal⟩, isAfter.symm⟩
            · obtain ⟨nonEmpty, _, isAfter, size⟩ := counts
              rw [Tree.size] at isAfter
              refine ⟨by omega, ?_⟩
              rw [noOp, noConst, isVar]
              simp only [bind_eq_ok_iff, pure_eq_ok_iff,
                validateVar_eq_ok]
              exact ⟨⟨⟩, ⟨symbol, hasVar, nonEmpty⟩, isAfter.symm⟩

mutual

/-- The operators of a well-formed tree are allowed. -/
theorem Tree.WellFormed.ops
    {tree : Tree} (wellFormed : tree.WellFormed) :
    ∀ op ∈ tree.ops, op ∈ mathIrAllowlist := by
  cases tree with
  | application op args =>
      intro other isOther
      rcases List.mem_cons.mp isOther with rfl | later
      · exact wellFormed.1
      · exact opsOf_allowed wellFormed.2 other later
  | const value => simp [Tree.ops]
  | var symbolId => simp [Tree.ops]

theorem opsOf_allowed
    {trees : List Tree} (wellFormed : AllWellFormed trees) :
    ∀ op ∈ opsOf trees, op ∈ mathIrAllowlist := by
  cases trees with
  | nil => simp [opsOf]
  | cons tree rest =>
      intro op isOp
      rcases List.mem_append.mp isOp with inTree | inRest
      · exact wellFormed.1.ops op inTree
      · exact opsOf_allowed wellFormed.2 op inRest

end

/-- A well-formed tree within the limits. -/
structure Tree.Valid (tree : Tree) : Prop where
  wellFormed : tree.WellFormed
  depth : tree.depth ≤ maxDepth
  size : tree.size ≤ maxNodes

/-- What `validate_expression` accepts. -/
theorem validateExpression_eq_ok {tree : Json} {result : Unit} :
    validateExpression tree = .ok result ↔
      ∃ denoted, treeOf tree = some denoted ∧ denoted.Valid := by
  simp only [validateExpression, bind_eq_ok_iff, validateNode_eq_ok]
  constructor
  · rintro ⟨after, ⟨denoted, isDenoted, counts⟩, _⟩
    have size := counts.size
    rw [counts.total, Nat.zero_add] at size
    exact ⟨denoted, isDenoted, counts.wellFormed, counts.depth, size⟩
  · rintro ⟨denoted, isDenoted, valid⟩
    exact ⟨denoted.size, ⟨denoted, isDenoted, valid.wellFormed,
      valid.depth, (Nat.zero_add _).symm, valid.size⟩, rfl⟩

end ScientificResourceLab.Semantic
