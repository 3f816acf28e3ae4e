import ScientificResourceLab.Packs.SmtBuilders

/-!
# Sorts of variables in the built term

`termUnder` is the construction without a cache, for a choice of the sort of
each variable; with the declared sorts it is `declaredTerm`.  Building with
the cache is `termUnder` for the sorts in the final cache (`buildTerm_eq`),
and for an accepted formula the term determines the sorts of its variables
(`termUnder_injective`).  Hence the built term has the declared sorts exactly
when no name is declared with both.
-/

namespace ScientificResourceLab.Packs

open Python Steps

/-! ## Formulas -/

/-- A list that starts with the name of an operator. -/
def IsApplication (spec : Json) : Prop :=
  ∃ name args, spec = .arr (.str name :: args)

/-- Induction on formulas: a value is an application or has no operands. -/
theorem formula_induction
    {motive : Json → Prop}
    (application : ∀ name args, (∀ arg ∈ args, motive arg) →
      motive (.arr (.str name :: args)))
    (other : ∀ spec, ¬ IsApplication spec → motive spec) (spec : Json) :
    motive spec := by
  by_cases isApplication : IsApplication spec
  · obtain ⟨name, args, isSpec⟩ := isApplication
    rw [isSpec]
    apply application name args
    intro arg member
    have smaller := List.sizeOf_lt_of_mem member
    exact formula_induction application other arg
  · exact other spec isApplication
termination_by sizeOf spec
decreasing_by
  simp only [isSpec, Json.arr.sizeOf_spec, List.cons.sizeOf_spec]
  omega

/-! ## Construction for given sorts -/

/-- The term of a leaf, for a choice of sorts. -/
def leafUnder (z3 : Z3) (sorts : VarSort → Text → VarSort) (leaf : Leaf) :
    Except PyError Term :=
  match leaf with
  | .numeral term => z3.make term
  | .variable sort name => z3.make (.constant (sorts sort name) name)
  | .malformed => .error (raised .typeError "malformed leaf")

mutual

/-- The term of a formula, for a choice of sorts. -/
def termUnder (z3 : Z3) (sorts : VarSort → Text → VarSort) :
    Json → Except PyError Term
  | .arr (op :: args) =>
      match op with
      | .str name =>
          match leafOf name args with
          | some leaf => leafUnder z3 sorts leaf
          | none => do
              let children ← termsUnder z3 sorts args
              applyOperator z3 name children
      | _ => .error (raised .typeError "not an operator")
  | .arr [] => .error (raised .indexError "list index out of range")
  | .null | .obj _ => .error (raised .typeError "not an S-expression")
  | _ => .error bareAtom

def termsUnder (z3 : Z3) (sorts : VarSort → Text → VarSort) :
    List Json → Except PyError (List Term)
  | [] => .ok []
  | arg :: rest => do
      let child ← termUnder z3 sorts arg
      let children ← termsUnder z3 sorts rest
      pure (child :: children)

end

/--
The term in which every `int-var` leaf is an integer constant and every
`real-var` leaf a real constant.
-/
def declaredTerm (z3 : Z3) (spec : Json) : Except PyError Term :=
  termUnder z3 (fun sort _ => sort) spec

/-! ## Declarations -/

/-- The variable that a leaf declares. -/
def leafDeclarations : Leaf → List (Text × VarSort)
  | .variable sort name => [(name, sort)]
  | .numeral _ | .malformed => []

mutual

/-- The variables of a formula with their declared sorts, from the left. -/
def declarations : Json → List (Text × VarSort)
  | .arr (op :: args) =>
      match op with
      | .str name =>
          match leafOf name args with
          | some leaf => leafDeclarations leaf
          | none => operandDeclarations args
      | _ => []
  | _ => []

def operandDeclarations : List Json → List (Text × VarSort)
  | [] => []
  | arg :: rest => declarations arg ++ operandDeclarations rest

end

variable {z3 : Z3}

theorem termsUnder_eq_mapM
    (sorts : VarSort → Text → VarSort) (args : List Json) :
    termsUnder z3 sorts args = args.mapM (termUnder z3 sorts) := by
  induction args with
  | nil => rfl
  | cons arg rest induction =>
      rw [termsUnder, induction, List.mapM_cons]

theorem operandDeclarations_eq_flatMap (args : List Json) :
    operandDeclarations args = args.flatMap declarations := by
  induction args with
  | nil => rfl
  | cons arg rest induction =>
      rw [operandDeclarations, induction, List.flatMap_cons]

/-- Only applications declare variables. -/
theorem declarations_eq_nil
    {spec : Json} (other : ¬ IsApplication spec) :
    declarations spec = [] := by
  rw [declarations.eq_def]
  split
  · split
    · next name => exact absurd ⟨name, _, rfl⟩ other
    · rfl
  · rfl

theorem termUnder_ne_ok
    {sorts : VarSort → Text → VarSort} {spec : Json} {term : Term}
    (other : ¬ IsApplication spec) :
    termUnder z3 sorts spec ≠ .ok term := by
  rw [termUnder.eq_def]
  split
  · split
    · next name => exact absurd ⟨name, _, rfl⟩ other
    · rintro ⟨⟩
  · rintro ⟨⟩
  · rintro ⟨⟩
  · rintro ⟨⟩
  · rintro ⟨⟩

/-- Values that are no applications stop both constructions alike. -/
theorem buildTerm_other
    (sorts : VarSort → Text → VarSort) {spec : Json} (cache : VarCache)
    (other : ¬ IsApplication spec) :
    buildTerm z3 spec cache =
      (termUnder z3 sorts spec).map (·, cache) := by
  cases spec with
  | arr items =>
      cases items with
      | nil => rfl
      | cons op args =>
          cases op with
          | str name => exact absurd ⟨name, args, rfl⟩ other
          | null => rfl
          | bool value => rfl
          | int value => rfl
          | float value => rfl
          | arr items => rfl
          | obj members => rfl
  | null => rfl
  | bool value => rfl
  | int value => rfl
  | float value => rfl
  | str value => rfl
  | obj members => rfl

/-- No name is declared with both sorts. -/
def OneSortEach (spec : Json) : Prop :=
  ∀ name, ¬ ((name, VarSort.int) ∈ declarations spec ∧
    (name, VarSort.real) ∈ declarations spec)

/-- The cache after one declaration. -/
def declareOne (cache : VarCache) (declaration : Text × VarSort) :
    VarCache :=
  if (cache.lookup declaration.1).isSome then cache
  else cache ++ [declaration]

/-- The cache after several declarations. -/
def declareAll (cache : VarCache) (declared : List (Text × VarSort)) :
    VarCache :=
  declared.foldl declareOne cache

/-- The sort that a cache gives to a variable. -/
def sortIn (cache : VarCache) (sort : VarSort) (name : Text) : VarSort :=
  (cache.lookup name).getD sort

/-- A cache keeps what an earlier one has. -/
def VarCache.Extends (later earlier : VarCache) : Prop :=
  ∀ name sort, earlier.lookup name = some sort →
    later.lookup name = some sort

theorem lookup_append_single
    {cache : VarCache} {name : Text} {sort : VarSort} (other : Text) :
    (cache ++ [(name, sort)]).lookup other =
      (cache.lookup other).or
        (if other = name then some sort else none) := by
  rw [List.lookup_append, List.lookup_cons]
  by_cases same : other = name
  · simp [same]
  · simp [same, beq_eq_false_iff_ne.mpr same]

theorem declareOne_extends
    (cache : VarCache) (declaration : Text × VarSort) :
    (declareOne cache declaration).Extends cache := by
  intro name sort stored
  rw [declareOne]
  split
  · exact stored
  · rw [lookup_append_single, stored, Option.some_or]

theorem declareAll_extends
    (cache : VarCache) (declared : List (Text × VarSort)) :
    (declareAll cache declared).Extends cache := by
  induction declared generalizing cache with
  | nil => exact fun _ _ stored => stored
  | cons declaration declared induction =>
      intro name sort stored
      exact induction _ name sort
        (declareOne_extends cache declaration name sort stored)

theorem declareAll_append
    (cache : VarCache) (first second : List (Text × VarSort)) :
    declareAll cache (first ++ second) =
      declareAll (declareAll cache first) second :=
  List.foldl_append

theorem lookup_declareAll_isSome
    {cache : VarCache} {declared : List (Text × VarSort)}
    {name : Text} {sort : VarSort} (member : (name, sort) ∈ declared) :
    ∃ stored, (declareAll cache declared).lookup name = some stored := by
  induction declared generalizing cache with
  | nil => cases member
  | cons declaration declared induction =>
      rcases List.mem_cons.mp member with rfl | later
      · have present : ∃ stored,
            (declareOne cache (name, sort)).lookup name = some stored := by
          rw [declareOne]
          split
          · next known => exact Option.isSome_iff_exists.mp known
          · next unknown =>
              rw [Option.not_isSome_iff_eq_none] at unknown
              exact ⟨sort, by
                rw [lookup_append_single, unknown, Option.none_or,
                  if_pos rfl]⟩
        obtain ⟨stored, isStored⟩ := present
        exact ⟨stored, declareAll_extends _ declared name stored isStored⟩
      · exact induction later

/-- The cache holds declarations only. -/
theorem mem_of_lookup_declareAll
    {cache : VarCache} {declared : List (Text × VarSort)}
    {name : Text} {sort : VarSort}
    (stored : (declareAll cache declared).lookup name = some sort) :
    cache.lookup name = some sort ∨ (name, sort) ∈ declared := by
  induction declared generalizing cache with
  | nil => exact .inl stored
  | cons declaration declared induction =>
      rcases induction stored with earlier | later
      · rw [declareOne] at earlier
        split at earlier
        · exact .inl earlier
        · rw [lookup_append_single, Option.or_eq_some_iff] at earlier
          rcases earlier with known | ⟨-, new⟩
          · exact .inl known
          · split_ifs at new with same
            cases new
            rw [same]
            exact .inr List.mem_cons_self
      · exact .inr (List.mem_cons_of_mem _ later)

/-! ## The cache holds what was made -/

/-- The library accepts the constants of a cache. -/
def Made (z3 : Z3) (cache : VarCache) : Prop :=
  ∀ name sort, cache.lookup name = some sort →
    z3.refuses (.constant sort name) = none

theorem leafUnder_made
    {sorts : VarSort → Text → VarSort} {leaf : Leaf} {term : Term}
    (built : leafUnder z3 sorts leaf = .ok term) :
    ∀ name sort, (name, sort) ∈ leafDeclarations leaf →
      z3.refuses (.constant (sorts sort name) name) = none := by
  cases leaf with
  | «variable» sort name =>
      intro other otherSort member
      obtain ⟨rfl, rfl⟩ := Prod.mk.inj (List.mem_singleton.mp member)
      exact (make_eq_ok_iff.mp built).1
  | numeral term => rintro _ _ ⟨⟩
  | malformed => rintro _ _ ⟨⟩

/-- Every variable of a constructed term was accepted. -/
theorem termUnder_made
    {sorts : VarSort → Text → VarSort} {spec : Json} {term : Term}
    (built : termUnder z3 sorts spec = .ok term) :
    ∀ name sort, (name, sort) ∈ declarations spec →
      z3.refuses (.constant (sorts sort name) name) = none := by
  induction spec using formula_induction generalizing term with
  | application op args induction =>
      rw [termUnder] at built
      rw [declarations]
      split at built
      · exact leafUnder_made built
      · simp only [operandDeclarations_eq_flatMap, List.mem_flatMap]
        simp only [bind_eq_ok_iff, termsUnder_eq_mapM] at built
        obtain ⟨children, constructed, -⟩ := built
        rintro name sort ⟨arg, isArg, declared⟩
        obtain ⟨child, -, isChild⟩ := (mapM_eq_ok constructed).1 arg isArg
        exact induction arg isArg isChild name sort declared
  | other spec other => exact absurd built (termUnder_ne_ok other)

/-- Declaring what the library accepts. -/
theorem Made.declareAll
    {cache final : VarCache} {declared : List (Text × VarSort)}
    (made : Made z3 cache)
    (final_extends : final.Extends (declareAll cache declared))
    (accepted : ∀ name sort, (name, sort) ∈ declared →
      z3.refuses (.constant (sortIn final sort name) name) = none) :
    Made z3 (declareAll cache declared) := by
  intro name sort stored
  rcases mem_of_lookup_declareAll stored with earlier | member
  · exact made name sort earlier
  · have known := final_extends name sort stored
    have isAccepted := accepted name sort member
    rwa [sortIn, known, Option.getD_some] at isAccepted

/-! ## Building with the cache -/

theorem buildLeaf_eq
    {cache final : VarCache} {leaf : Leaf} (made : Made z3 cache)
    (final_extends : final.Extends
      (declareAll cache (leafDeclarations leaf))) :
    buildLeaf z3 leaf cache =
      (leafUnder z3 (sortIn final) leaf).map
        (·, declareAll cache (leafDeclarations leaf)) := by
  cases leaf with
  | numeral term =>
      simp only [buildLeaf, leafUnder]
      cases z3.make term with
      | error error => rfl
      | ok built => rfl
  | malformed => rfl
  | «variable» sort name =>
      obtain ⟨stored, isStored⟩ := @lookup_declareAll_isSome cache
        (leafDeclarations (.variable sort name)) name sort
        List.mem_cons_self
      have known := final_extends name stored isStored
      simp only [buildLeaf, leafUnder, declare, sortIn, known,
        Option.getD_some]
      simp only [leafDeclarations, declareAll, List.foldl_cons,
        List.foldl_nil, declareOne] at isStored ⊢
      cases present : cache.lookup name with
      | some earlier =>
          simp only [present, Option.isSome_some, if_true] at isStored ⊢
          have same : earlier = stored :=
            Option.some.inj isStored
          subst same
          rw [make_eq_ok_iff.mpr ⟨made name earlier present, rfl⟩]
          rfl
      | none =>
          simp only [present, Option.isSome_none, Bool.false_eq_true,
            if_false, lookup_append_single, Option.none_or, if_true]
            at isStored ⊢
          cases isStored
          cases z3.make (.constant sort name) with
          | error error => rfl
          | ok built => rfl

theorem buildTerms_eq
    {final : VarCache} {args : List Json}
    (each : ∀ arg ∈ args, ∀ cache, Made z3 cache →
      final.Extends (declareAll cache (declarations arg)) →
      buildTerm z3 arg cache =
        (termUnder z3 (sortIn final) arg).map
          (·, declareAll cache (declarations arg)))
    {cache : VarCache} (made : Made z3 cache)
    (final_extends : final.Extends
      (declareAll cache (operandDeclarations args))) :
    buildTerms z3 args cache =
      (termsUnder z3 (sortIn final) args).map
        (·, declareAll cache (operandDeclarations args)) := by
  induction args generalizing cache with
  | nil => rfl
  | cons arg rest induction =>
      rw [operandDeclarations, declareAll_append] at final_extends ⊢
      have afterArg : final.Extends
          (declareAll cache (declarations arg)) := by
        intro name sort stored
        exact final_extends name sort
          (declareAll_extends _ _ name sort stored)
      rw [buildTerms, termsUnder,
        each arg List.mem_cons_self cache made afterArg]
      cases built : termUnder z3 (sortIn final) arg with
      | error error => rfl
      | ok child =>
          have madeNext := made.declareAll afterArg (termUnder_made built)
          have rest_eq := induction
            (fun other member => each other
              (List.mem_cons_of_mem _ member)) madeNext final_extends
          simp only [Except.map, bind, Except.bind, rest_eq]
          cases termsUnder z3 (sortIn final) rest with
          | error error => rfl
          | ok children => rfl

/--
Building with the cache gives each variable the sort that the final cache has
for its name.
-/
theorem buildTerm_eq
    {spec : Json} {cache final : VarCache} (made : Made z3 cache)
    (final_extends : final.Extends
      (declareAll cache (declarations spec))) :
    buildTerm z3 spec cache =
      (termUnder z3 (sortIn final) spec).map
        (·, declareAll cache (declarations spec)) := by
  induction spec using formula_induction generalizing cache with
  | application op args induction =>
      rw [declarations] at final_extends ⊢
      rw [buildTerm, termUnder]
      simp only at final_extends ⊢
      cases isLeaf : leafOf op args with
      | some leaf =>
          simp only [isLeaf] at final_extends ⊢
          exact buildLeaf_eq made final_extends
      | none =>
          simp only [isLeaf] at final_extends ⊢
          rw [buildTerms_eq
            (fun arg member cache made later =>
              induction arg member made later) made final_extends]
          cases termsUnder z3 (sortIn final) args with
          | error error => rfl
          | ok children =>
              simp only [Except.map, bind, Except.bind]
              cases applyOperator z3 op children with
              | error error => rfl
              | ok term => rfl
  | other spec other =>
      rw [declarations_eq_nil other]
      exact buildTerm_other (sortIn final) cache other

/-! ## What the validator establishes -/

theorem leafOf_eq_none_iff {name : Text} {args : List Json} :
    leafOf name args = none ↔ isLeafOperator name = false := by
  have leaves : isLeafOperator name = true ↔
      name = text "int-const" ∨ name = text "real-const" ∨
        name = text "int-var" ∨ name = text "real-var" := by
    simp [isLeafOperator]
  rw [← Bool.not_eq_true, leaves, leafOf.eq_def]
  split_ifs with intConst realConst intVar realVar
  · split <;> simp [intConst]
  · split <;> simp [realConst]
  · split <;> simp [intVar]
  · split <;> simp [realVar]
  · simp [intConst, realConst, intVar, realVar]

/-- A validated leaf is well formed. -/
theorem leafOf_ne_malformed
    {name : Text} {args : List Json}
    (validated : validateLeafOperand name args = .ok ()) :
    leafOf name args ≠ some .malformed := by
  cases args with
  | nil => cases validated
  | cons atom args =>
      simp only [validateLeafOperand, validateLeaf] at validated
      rw [leafOf.eq_def]
      split_ifs at validated ⊢ with intConst realConst
      · split at validated
        · simp
        · cases validated
      · split at validated
        · simp
        · simp
        · cases validated
      all_goals
        split at validated
        · simp
        · cases validated

theorem validateOperands_eq_ok_iff {args : List Json} :
    validateOperands args = .ok () ↔
      ∀ arg ∈ args, validateSpecRec arg = .ok () := by
  induction args with
  | nil => simp [validateOperands]
  | cons arg rest induction =>
      simp only [validateOperands, bind_eq_ok_iff, induction,
        List.forall_mem_cons]
      constructor
      · rintro ⟨_, head, tail⟩
        exact ⟨head, tail⟩
      · rintro ⟨head, tail⟩
        exact ⟨(), head, tail⟩

/-- A validated formula is a leaf or a known operator with operands. -/
theorem validated_cases
    {op : Json} {args : List Json}
    (validated : validateSpecRec (.arr (op :: args)) = .ok ()) :
    ∃ name, op = .str name ∧
      ((∃ leaf, leafOf name args = some leaf ∧ leaf ≠ .malformed) ∨
        leafOf name args = none ∧
          (∀ arg ∈ args, validateSpecRec arg = .ok ()) ∧
          ∃ builder, (operatorBuilders z3).lookup name = some builder ∧
            Builds z3 builder args.length) := by
  simp only [validateSpecRec, bind_eq_ok_iff] at validated
  obtain ⟨name, operator, _, arity, rest⟩ := validated
  have isOperator : op = .str name := by
    rw [validateOperator.eq_def] at operator
    split at operator
    · split_ifs at operator
      cases operator
      rfl
    · cases operator
  refine ⟨name, isOperator, ?_⟩
  split_ifs at rest with isLeaf
  · cases found : leafOf name args with
    | none =>
        rw [leafOf_eq_none_iff, isLeaf] at found
        cases found
    | some leaf =>
        refine .inl ⟨leaf, rfl, ?_⟩
        rintro rfl
        exact leafOf_ne_malformed rest found
  · rw [Bool.not_eq_true] at isLeaf
    exact .inr ⟨leafOf_eq_none_iff.mpr isLeaf,
      validateOperands_eq_ok_iff.mp rest,
      (builds_of_validated operator arity isLeaf).2⟩

/-! ## The term determines the sorts -/

theorem leafUnder_injective
    {first second : VarSort → Text → VarSort} {leaf : Leaf} {term : Term}
    (fromFirst : leafUnder z3 first leaf = .ok term)
    (fromSecond : leafUnder z3 second leaf = .ok term) :
    ∀ name sort, (name, sort) ∈ leafDeclarations leaf →
      first sort name = second sort name := by
  cases leaf with
  | «variable» sort name =>
      intro other otherSort member
      obtain ⟨rfl, rfl⟩ := Prod.mk.inj (List.mem_singleton.mp member)
      obtain ⟨-, rfl⟩ := make_eq_ok_iff.mp fromFirst
      obtain ⟨-, same⟩ := make_eq_ok_iff.mp fromSecond
      injection same with sameSort
      exact sameSort.symm
  | numeral term => rintro _ _ ⟨⟩
  | malformed => rintro _ _ ⟨⟩

/-- The term of an accepted formula determines the sorts. -/
theorem termUnder_injective
    {first second : VarSort → Text → VarSort} {spec : Json} {term : Term}
    (validated : validateSpecRec spec = .ok ())
    (fromFirst : termUnder z3 first spec = .ok term)
    (fromSecond : termUnder z3 second spec = .ok term) :
    ∀ name sort, (name, sort) ∈ declarations spec →
      first sort name = second sort name := by
  induction spec using formula_induction generalizing term with
  | application op args induction =>
      obtain ⟨name, same, found⟩ := @validated_cases z3 _ _ validated
      cases same
      rw [termUnder] at fromFirst fromSecond
      rw [declarations]
      rcases found with ⟨leaf, isLeaf, -⟩ |
        ⟨isInner, operands, builder, stored, builds⟩
      · simp only [isLeaf] at fromFirst fromSecond ⊢
        exact leafUnder_injective fromFirst fromSecond
      · simp only [isInner, applyOperator, stored, bind_eq_ok_iff,
          termsUnder_eq_mapM] at fromFirst fromSecond
        obtain ⟨left, isLeft, builtLeft⟩ := fromFirst
        obtain ⟨right, isRight, builtRight⟩ := fromSecond
        have sameChildren := builds.recovers left right term
          (length_of_mapM isLeft) (length_of_mapM isRight)
          builtLeft builtRight
        subst sameChildren
        simp only [isInner, operandDeclarations_eq_flatMap,
          List.mem_flatMap]
        rintro variableName sort ⟨arg, isArg, declared⟩
        obtain ⟨child, byFirst, bySecond⟩ :=
          mapM_agree isLeft isRight arg isArg
        exact induction arg isArg (operands arg isArg) byFirst bySecond
          variableName sort declared
  | other spec other => exact absurd fromFirst (termUnder_ne_ok other)

theorem leafUnder_congr
    {first second : VarSort → Text → VarSort} {leaf : Leaf}
    (agree : ∀ name sort, (name, sort) ∈ leafDeclarations leaf →
      first sort name = second sort name) :
    leafUnder z3 first leaf = leafUnder z3 second leaf := by
  cases leaf with
  | «variable» sort name =>
      rw [leafUnder, leafUnder, agree name sort List.mem_cons_self]
  | numeral term => rfl
  | malformed => rfl

theorem termsUnder_congr
    {first second : VarSort → Text → VarSort} {args : List Json}
    (each : ∀ arg ∈ args,
      termUnder z3 first arg = termUnder z3 second arg) :
    termsUnder z3 first args = termsUnder z3 second args := by
  induction args with
  | nil => rfl
  | cons arg rest induction =>
      rw [termsUnder, termsUnder, each arg List.mem_cons_self,
        induction fun other member =>
          each other (List.mem_cons_of_mem _ member)]

/-- Only the sorts of declared variables matter. -/
theorem termUnder_congr
    {first second : VarSort → Text → VarSort} {spec : Json}
    (agree : ∀ name sort, (name, sort) ∈ declarations spec →
      first sort name = second sort name) :
    termUnder z3 first spec = termUnder z3 second spec := by
  induction spec using formula_induction with
  | application op args induction =>
      rw [termUnder, termUnder]
      rw [declarations] at agree
      cases isLeaf : leafOf op args with
      | some leaf =>
          simp only [isLeaf] at agree ⊢
          exact leafUnder_congr agree
      | none =>
          simp only [isLeaf, operandDeclarations_eq_flatMap,
            List.mem_flatMap] at agree
          have sameOperands : termsUnder z3 first args =
              termsUnder z3 second args := by
            apply termsUnder_congr
            intro arg member
            exact induction arg member fun name sort declared =>
              agree name sort ⟨arg, member, declared⟩
          simp only [sameOperands]
  | other spec other =>
      have stops := @buildTerm_other z3 first spec [] other
      rw [buildTerm_other second [] other] at stops
      cases isFirst : termUnder z3 first spec with
      | ok term => exact absurd isFirst (termUnder_ne_ok other)
      | error error =>
          cases isSecond : termUnder z3 second spec with
          | ok term => exact absurd isSecond (termUnder_ne_ok other)
          | error otherError =>
              rw [isFirst, isSecond] at stops
              cases stops
              rfl

/-! ## Declared sorts and the order of conjuncts -/

/-- The S-expression `['and', c1, ..., cn]`. -/
def conjunction (conjuncts : List Json) : Json :=
  .arr (.str (text "and") :: conjuncts)

/-- The models of the term that is built from a formula. -/
def models (z3 : Z3) (spec : Json) : Set z3.Model :=
  {model | ∃ term cache,
    buildTerm z3 spec [] = .ok (term, cache) ∧ z3.holds model term}

/--
The built term has the declared sorts, and the models of a conjunction do not
depend on the order of its conjuncts.
-/
structure RespectsSorts (z3 : Z3) (spec : Json) : Prop where
  leaves : ∀ term cache, buildTerm z3 spec [] = .ok (term, cache) →
    declaredTerm z3 spec = .ok term
  order : ∀ conjuncts reordered, spec = conjunction conjuncts →
    reordered.Perm conjuncts →
    models z3 (conjunction reordered) = models z3 spec

theorem made_nil : Made z3 [] := by
  rintro name sort ⟨⟩

/-- The sorts in the cache when all of a formula has been declared. -/
def finalSorts (spec : Json) : VarSort → Text → VarSort :=
  sortIn (declareAll [] (declarations spec))

theorem buildTerm_finalSorts (spec : Json) :
    buildTerm z3 spec [] =
      (termUnder z3 (finalSorts spec) spec).map
        (·, declareAll [] (declarations spec)) :=
  buildTerm_eq made_nil fun _ _ stored => stored

theorem OneSortEach.finalSorts_eq
    {spec : Json} (oneSort : OneSortEach spec)
    {name : Text} {sort : VarSort}
    (declared : (name, sort) ∈ declarations spec) :
    finalSorts spec sort name = sort := by
  obtain ⟨stored, isStored⟩ := @lookup_declareAll_isSome [] _ _ _ declared
  rw [finalSorts, sortIn, isStored, Option.getD_some]
  have alsoDeclared : (name, stored) ∈ declarations spec := by
    rcases mem_of_lookup_declareAll isStored with absent | member
    · cases absent
    · exact member
  cases sort with
  | int =>
      cases stored with
      | int => rfl
      | real => exact absurd ⟨declared, alsoDeclared⟩ (oneSort name)
  | real =>
      cases stored with
      | int => exact absurd ⟨alsoDeclared, declared⟩ (oneSort name)
      | real => rfl

/-- Without a clash the cache makes no difference. -/
theorem OneSortEach.buildTerm_eq
    {spec : Json} (oneSort : OneSortEach spec) :
    buildTerm z3 spec [] =
      (declaredTerm z3 spec).map
        (·, declareAll [] (declarations spec)) := by
  rw [buildTerm_finalSorts, declaredTerm,
    termUnder_congr fun name sort declared =>
      oneSort.finalSorts_eq declared]

theorem OneSortEach.mem_models_iff
    {spec : Json} (oneSort : OneSortEach spec) {model : z3.Model} :
    model ∈ models z3 spec ↔
      ∃ term, declaredTerm z3 spec = .ok term ∧ z3.holds model term := by
  rw [models, Set.mem_ofPred_eq, oneSort.buildTerm_eq]
  constructor
  · rintro ⟨term, cache, built, holds⟩
    cases declared : declaredTerm z3 spec with
    | error error =>
        rw [declared] at built
        cases built
    | ok other =>
        rw [declared] at built
        cases built
        exact ⟨_, rfl, holds⟩
  · rintro ⟨term, declared, holds⟩
    rw [declared]
    exact ⟨term, _, rfl, holds⟩

theorem declaredTerm_conjunction (conjuncts : List Json) :
    declaredTerm z3 (conjunction conjuncts) =
      conjuncts.mapM (declaredTerm z3) >>=
        fun children => z3.make (.and children) := by
  rw [declaredTerm, conjunction, termUnder, termsUnder_eq_mapM]
  rfl

theorem declarations_conjunction (conjuncts : List Json) :
    declarations (conjunction conjuncts) =
      conjuncts.flatMap declarations := by
  rw [conjunction, declarations, ← operandDeclarations_eq_flatMap]
  rfl

theorem OneSortEach.perm
    {conjuncts reordered : List Json}
    (oneSort : OneSortEach (conjunction conjuncts))
    (perm : reordered.Perm conjuncts) :
    OneSortEach (conjunction reordered) := by
  intro name clash
  apply oneSort name
  rw [declarations_conjunction] at clash ⊢
  have same := perm.flatMap_right declarations
  exact ⟨same.mem_iff.mp clash.1, same.mem_iff.mp clash.2⟩

theorem OneSortEach.models_subset
    {conjuncts reordered : List Json}
    (oneSort : OneSortEach (conjunction conjuncts))
    (perm : reordered.Perm conjuncts) :
    models z3 (conjunction conjuncts) ⊆
      models z3 (conjunction reordered) := by
  intro model member
  rw [oneSort.mem_models_iff] at member
  rw [(oneSort.perm perm).mem_models_iff]
  obtain ⟨term, declared, holds⟩ := member
  rw [declaredTerm_conjunction, bind_eq_ok_iff] at declared
  obtain ⟨children, isChildren, made⟩ := declared
  obtain ⟨accepted, rfl⟩ := make_eq_ok_iff.mp made
  obtain ⟨others, isOthers, same⟩ := mapM_perm perm.symm isChildren
  refine ⟨.and others, ?_, ?_⟩
  · rw [declaredTerm_conjunction, bind_eq_ok_iff]
    exact ⟨others, isOthers, make_eq_ok_iff.mpr
      ⟨z3.refuses_and children others same accepted, rfl⟩⟩
  · rw [z3.holds_and] at holds ⊢
    intro argument isArgument
    exact holds argument (same.mem_iff.mpr isArgument)

theorem OneSortEach.respectsSorts
    {spec : Json} (oneSort : OneSortEach spec) :
    RespectsSorts z3 spec := by
  constructor
  · intro term cache built
    rw [oneSort.buildTerm_eq] at built
    cases declared : declaredTerm z3 spec with
    | error error =>
        rw [declared] at built
        cases built
    | ok other =>
        rw [declared] at built
        cases built
        rfl
  · rintro conjuncts reordered rfl perm
    apply Set.Subset.antisymm
    · exact (oneSort.perm perm).models_subset perm.symm
    · exact oneSort.models_subset perm

theorem oneSortEach_of_leaves
    {spec : Json} {term : Term} {cache : VarCache}
    (validated : validateSpecRec spec = .ok ())
    (built : buildTerm z3 spec [] = .ok (term, cache))
    (declared : declaredTerm z3 spec = .ok term) : OneSortEach spec := by
  rw [buildTerm_finalSorts] at built
  cases constructed : termUnder z3 (finalSorts spec) spec with
  | error error =>
      rw [constructed] at built
      cases built
  | ok other =>
      rw [constructed] at built
      cases built
      have same := termUnder_injective validated constructed declared
      rintro name ⟨isInt, isReal⟩
      obtain ⟨stored, isStored⟩ :=
        @lookup_declareAll_isSome [] _ _ _ isInt
      have asInt := same name .int isInt
      have asReal := same name .real isReal
      rw [finalSorts, sortIn, isStored, Option.getD_some] at asInt asReal
      rw [asInt] at asReal
      cases asReal

theorem validateSpecRec_of_validateSpec
    {spec : Json} (accepted : validateSpec spec = .ok ()) :
    validateSpecRec spec = .ok () := by
  rw [validateSpec.eq_def] at accepted
  split at accepted
  · split_ifs at accepted
    exact accepted
  · cases accepted

/--
Terms of accepted formulas respect the declared sorts exactly when no name is
declared with both; where the library refuses the term there is no sort to
respect.
-/
theorem buildTerm_respectsSorts_iff
    (z3 : Z3) (spec : Json) (accepted : validateSpec spec = .ok ()) :
    (OneSortEach spec → RespectsSorts z3 spec) ∧
      ((∃ built, buildTerm z3 spec [] = .ok built) →
        RespectsSorts z3 spec → OneSortEach spec) := by
  constructor
  · intro oneSort
    exact oneSort.respectsSorts
  · rintro ⟨⟨term, cache⟩, built⟩ respects
    exact oneSortEach_of_leaves (validateSpecRec_of_validateSpec accepted)
      built (respects.leaves term cache built)

/-! ### Two conjuncts -/

mutual

/-- The truth of a term whose atoms a model decides. -/
def Term.truth (atoms : Term → Bool) : Term → Bool
  | .and arguments => Term.allTrue atoms arguments
  | .or arguments => Term.anyTrue atoms arguments
  | .not argument => !argument.truth atoms
  | .implies left right => !left.truth atoms || right.truth atoms
  | term => atoms term

def Term.allTrue (atoms : Term → Bool) : List Term → Bool
  | [] => true
  | term :: rest => term.truth atoms && Term.allTrue atoms rest

def Term.anyTrue (atoms : Term → Bool) : List Term → Bool
  | [] => false
  | term :: rest => term.truth atoms || Term.anyTrue atoms rest

end

theorem allTrue_iff {atoms : Term → Bool} {arguments : List Term} :
    Term.allTrue atoms arguments = true ↔
      ∀ argument ∈ arguments, argument.truth atoms = true := by
  induction arguments with
  | nil => simp [Term.allTrue]
  | cons term rest induction =>
      simp [Term.allTrue, induction]

/-- A library that constructs every term; models decide the atoms. -/
def booleanZ3 : Z3 where
  refuses _ := none
  Model := Term → Bool
  holds atoms term := term.truth atoms = true
  refuses_and _ _ _ _ := rfl
  holds_and atoms arguments := by
    rw [Term.truth]
    exact allTrue_iff

/-- `x > 0` and `y < 1`, for variables of given sorts and names. -/
def betweenSpec (sort : String) (other : String) (name : String) : Json :=
  conjunction
    [.arr [.str (text ">"), .arr [.str (text sort), .str (text "x")],
      .arr [.str (text "int-const"), .int 0]],
    .arr [.str (text "<"), .arr [.str (text other), .str (text name)],
      .arr [.str (text "int-const"), .int 1]]]

/-- An integer variable and a real variable with names of their own. -/
theorem respectsSorts_of_two_names :
    validateSpec (betweenSpec "int-var" "real-var" "y") = .ok () ∧
      RespectsSorts booleanZ3
        (betweenSpec "int-var" "real-var" "y") := by
  have accepted :
      validateSpec (betweenSpec "int-var" "real-var" "y") = .ok () := rfl
  have declared : declarations (betweenSpec "int-var" "real-var" "y") =
      [(text "x", .int), (text "y", .real)] := rfl
  refine ⟨accepted,
    (buildTerm_respectsSorts_iff booleanZ3 _ accepted).1 ?_⟩
  rw [OneSortEach, declared]
  rintro name ⟨isInt, isReal⟩
  simp only [List.mem_cons, Prod.mk.injEq, reduceCtorEq, and_false,
    and_true, List.not_mem_nil, or_false, false_or] at isInt isReal
  rw [isInt] at isReal
  exact absurd isReal (by decide)

/-- One name for an integer and a real variable. -/
theorem clash_breaks_sorts :
    validateSpec (betweenSpec "real-var" "int-var" "x") = .ok () ∧
      ¬ RespectsSorts booleanZ3
        (betweenSpec "real-var" "int-var" "x") := by
  refine ⟨rfl, fun respects => ?_⟩
  have oneSort := oneSortEach_of_leaves rfl rfl
    (respects.leaves _ _ rfl)
  exact oneSort (text "x") ⟨by decide, by decide⟩

end ScientificResourceLab.Packs
