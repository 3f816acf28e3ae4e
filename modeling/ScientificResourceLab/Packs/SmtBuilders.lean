import ScientificResourceLab.Packs.SmtTerms

/-!
# The builders of operators

A builder that has been given the number of operands its operator takes stops
only where the solver's library refuses a term, and its result determines
the operands.  Both facts are proved once for each shape of builder; every
operator that passes the validator and is not a leaf then has a builder with
both.
-/

namespace ScientificResourceLab.Packs

open Python Steps

/-- The library refuses some term with this error. -/
def RefusedBy (z3 : Z3) (error : PyError) : Prop :=
  ∃ term refusal, z3.refuses term = some refusal ∧ refusal.error = error

/-- What a builder does with a number of operands. -/
structure Builds
    (z3 : Z3) (builder : List Term → Except PyError Term) (count : Nat) :
    Prop where
  recovers : ∀ left right term, left.length = count →
    right.length = count → builder left = .ok term →
      builder right = .ok term → left = right
  raises : ∀ children, children.length = count →
    RaisesOnly (RefusedBy z3) (builder children)

variable {z3 : Z3}

theorem make_eq_ok_iff {term built : Term} :
    z3.make term = .ok built ↔ z3.refuses term = none ∧ term = built := by
  rw [Z3.make]
  split
  · next accepted => simp [accepted]
  · next refusal refused => simp [refused]

theorem make_raises (term : Term) :
    RaisesOnly (RefusedBy z3) (z3.make term) := by
  intro error stopped
  rw [Z3.make] at stopped
  split at stopped
  · cases stopped
  · next refusal refused =>
      cases stopped
      exact ⟨term, refusal, refused, rfl⟩

/-! ## One builder after another -/

theorem builds_make
    {shape : List Term → Term} (injective : Function.Injective shape)
    (count : Nat) :
    Builds z3 (fun children => z3.make (shape children)) count := by
  constructor
  · intro left right term _ _ fromLeft fromRight
    obtain ⟨-, rfl⟩ := make_eq_ok_iff.mp fromLeft
    obtain ⟨-, same⟩ := make_eq_ok_iff.mp fromRight
    exact injective same.symm
  · intro children _
    exact make_raises _

theorem builds_unary
    {shape : Term → Term} (injective : Function.Injective shape) :
    Builds z3 (buildUnary z3 shape) 1 := by
  constructor
  · intro left right term one alsoOne fromLeft fromRight
    obtain ⟨first, rfl⟩ := List.length_eq_one_iff.mp one
    obtain ⟨second, rfl⟩ := List.length_eq_one_iff.mp alsoOne
    obtain ⟨-, rfl⟩ := make_eq_ok_iff.mp fromLeft
    obtain ⟨-, same⟩ := make_eq_ok_iff.mp fromRight
    rw [injective same]
  · intro children one
    obtain ⟨only, rfl⟩ := List.length_eq_one_iff.mp one
    exact make_raises _

theorem builds_binary
    {shape : Term → Term → Term} (injective : Function.Injective2 shape) :
    Builds z3 (buildBinary z3 shape) 2 := by
  constructor
  · intro left right term two alsoTwo fromLeft fromRight
    obtain ⟨first, second, rfl⟩ := List.length_eq_two.mp two
    obtain ⟨third, fourth, rfl⟩ := List.length_eq_two.mp alsoTwo
    obtain ⟨-, rfl⟩ := make_eq_ok_iff.mp fromLeft
    obtain ⟨-, same⟩ := make_eq_ok_iff.mp fromRight
    obtain ⟨rfl, rfl⟩ := injective same
    rfl
  · intro children two
    obtain ⟨left, right, rfl⟩ := List.length_eq_two.mp two
    exact make_raises _

theorem comparisons_eq_map
    {relation : Relation} {pairs : List (Term × Term)}
    {comparisons : List Term}
    (made : (pairs.mapM fun pair =>
      z3.make (.compare relation pair.1 pair.2)) = .ok comparisons) :
    comparisons =
      pairs.map fun pair => .compare relation pair.1 pair.2 := by
  induction pairs generalizing comparisons with
  | nil =>
      rw [List.mapM_nil, pure_eq_ok_iff] at made
      exact made.symm
  | cons pair pairs induction =>
      simp only [List.mapM_cons, bind_eq_ok_iff, pure_eq_ok_iff] at made
      obtain ⟨head, isHead, rest, isRest, rfl⟩ := made
      obtain ⟨-, rfl⟩ := make_eq_ok_iff.mp isHead
      rw [induction isRest, List.map_cons]

/-- Neighbours determine a list of at least two items. -/
theorem eq_of_zip_tail_eq
    {α : Type} {left right : List α} (atLeast : 2 ≤ left.length)
    (sameLength : left.length = right.length)
    (same : left.zip left.tail = right.zip right.tail) : left = right := by
  match left, right, atLeast, sameLength, same with
  | first :: second :: left, third :: fourth :: right, _, sameLength,
      same =>
      have tails : (first :: second :: left).tail =
          (third :: fourth :: right).tail := by
        have seconds := congrArg (List.map Prod.snd) same
        rwa [List.map_snd_zip (by simp), List.map_snd_zip (by simp)]
          at seconds
      have heads : first = third := by
        simp only [List.tail_cons, List.zip_cons_cons, List.cons.injEq,
          Prod.mk.injEq] at same
        exact same.1.1
      rw [List.tail_cons, List.tail_cons] at tails
      rw [heads, tails]

theorem builds_chainCompare
    (relation : Relation) {count : Nat} (atLeast : 2 ≤ count) :
    Builds z3 (chainCompare z3 relation) count := by
  constructor
  · intro left right term isLeft isRight fromLeft fromRight
    simp only [chainCompare, bind_eq_ok_iff, make_eq_ok_iff]
      at fromLeft fromRight
    obtain ⟨first, madeFirst, -, rfl⟩ := fromLeft
    obtain ⟨second, madeSecond, -, same⟩ := fromRight
    have sameComparisons : second = first := by
      injection same
    rw [comparisons_eq_map madeFirst, comparisons_eq_map madeSecond]
      at sameComparisons
    have injective : Function.Injective fun pair : Term × Term =>
        Term.compare relation pair.1 pair.2 := by
      rintro ⟨a, b⟩ ⟨c, d⟩ equal
      injection equal with _ firsts seconds
      exact Prod.ext firsts seconds
    apply eq_of_zip_tail_eq (by omega) (by omega)
    exact (injective.list_map sameComparisons).symm
  · intro children _
    rw [chainCompare]
    apply raisesOnly_bind
    · exact raisesOnly_mapM fun pair _ => make_raises _
    · intro comparisons _
      exact make_raises _

theorem builds_product (count : Nat) :
    Builds z3 (buildProduct z3) count := by
  constructor
  · intro left right term isLeft isRight fromLeft fromRight
    rw [buildProduct.eq_def] at fromLeft fromRight
    split at fromLeft
    · split at fromRight
      · obtain ⟨-, rfl⟩ := make_eq_ok_iff.mp fromLeft
        obtain ⟨-, same⟩ := make_eq_ok_iff.mp fromRight
        injection same with firsts seconds
        rw [firsts, seconds]
      · next other =>
          subst isLeft
          obtain ⟨first, second, rfl⟩ := List.length_eq_two.mp isRight
          exact absurd rfl (other first second)
    · next other =>
        split at fromRight
        · subst isRight
          obtain ⟨first, second, rfl⟩ := List.length_eq_two.mp isLeft
          exact absurd rfl (other first second)
        · obtain ⟨-, rfl⟩ := make_eq_ok_iff.mp fromLeft
          obtain ⟨-, same⟩ := make_eq_ok_iff.mp fromRight
          injection same with equal
          exact equal.symm
  · intro children _
    rw [buildProduct.eq_def]
    split
    · exact make_raises _
    · exact make_raises _

theorem divideBy_injective
    {first second term : Term} {left right : List Term}
    (sameLength : left.length = right.length)
    (fromLeft : divideBy z3 first left = .ok term)
    (fromRight : divideBy z3 second right = .ok term) :
    first = second ∧ left = right := by
  induction left generalizing first second right with
  | nil =>
      cases right with
      | nil =>
          rw [divideBy] at fromLeft fromRight
          cases fromLeft
          cases fromRight
          exact ⟨rfl, rfl⟩
      | cons child right => cases sameLength
  | cons child left induction =>
      cases right with
      | nil => cases sameLength
      | cons other right =>
          simp only [divideBy, bind_eq_ok_iff, make_eq_ok_iff]
            at fromLeft fromRight
          obtain ⟨_, ⟨-, rfl⟩, fromLeft⟩ := fromLeft
          obtain ⟨_, ⟨-, rfl⟩, fromRight⟩ := fromRight
          obtain ⟨sameQuotient, rfl⟩ := induction
            (Nat.succ.inj sameLength) fromLeft fromRight
          injection sameQuotient with firsts seconds
          rw [firsts, seconds]
          exact ⟨rfl, rfl⟩

theorem divideBy_raises (dividend : Term) (children : List Term) :
    RaisesOnly (RefusedBy z3) (divideBy z3 dividend children) := by
  induction children generalizing dividend with
  | nil => exact raisesOnly_ok _
  | cons child children induction =>
      rw [divideBy]
      apply raisesOnly_bind (make_raises _)
      intro quotient _
      exact induction quotient

theorem builds_division {count : Nat} (atLeast : 1 ≤ count) :
    Builds z3 (buildDivision z3) count := by
  constructor
  · intro left right term isLeft isRight fromLeft fromRight
    cases left with
    | nil => simp at isLeft; omega
    | cons first left =>
        cases right with
        | nil => simp at isRight; omega
        | cons second right =>
            obtain ⟨rfl, rfl⟩ := divideBy_injective
              (Nat.succ.inj (isLeft.trans isRight.symm))
              fromLeft fromRight
            rfl
  · intro children isCount
    cases children with
    | nil => simp at isCount; omega
    | cons dividend children => exact divideBy_raises dividend children

/-! ## Operators that pass the validator -/

/-- What an arity rule asks of the number of operands. -/
theorem validateArity_eq_ok
    {op : Text} {args : List Json} {floor : Nat} {kind : ArityKind}
    (rule : arityRules.lookup op = some (floor, kind))
    (validated : validateArity op args = .ok ()) :
    (kind = .unary → args.length = 1) ∧
      (kind = .binary → args.length = 2) ∧
      (kind = .variadic → floor ≤ args.length) := by
  simp only [validateArity, rule] at validated
  split_ifs at validated with unary binary variadic
  refine ⟨fun isUnary => ?_, fun isBinary => ?_, fun isVariadic => ?_⟩
  · by_contra other
    exact unary ⟨isUnary, other⟩
  · by_contra other
    exact binary ⟨isBinary, other⟩
  · by_contra fewer
    exact variadic ⟨isVariadic, not_le.mp fewer⟩

/-- Every operator of the grammar that is not a leaf has a builder. -/
theorem builds_of_validated
    {op : Json} {name : Text} {args : List Json}
    (operator : validateOperator op = .ok name)
    (arity : validateArity name args = .ok ())
    (inner : isLeafOperator name = false) :
    op = .str name ∧ ∃ builder,
      (operatorBuilders z3).lookup name = some builder ∧
        Builds z3 builder args.length := by
  rw [validateOperator.eq_def] at operator
  split at operator
  · next stored =>
      split_ifs at operator with supported
      cases operator
      refine ⟨rfl, ?_⟩
      have variadic : ∀ {floor : Nat},
          arityRules.lookup name = some (floor, .variadic) →
            floor ≤ args.length :=
        fun rule => (validateArity_eq_ok rule arity).2.2 rfl
      have binary : ∀ {floor : Nat},
          arityRules.lookup name = some (floor, .binary) →
            args.length = 2 :=
        fun rule => (validateArity_eq_ok rule arity).2.1 rfl
      have unary : ∀ {floor : Nat},
          arityRules.lookup name = some (floor, .unary) →
            args.length = 1 :=
        fun rule => (validateArity_eq_ok rule arity).1 rfl
      simp only [supportedOperators, List.contains_iff_mem,
        List.mem_cons, List.not_mem_nil, or_false] at supported
      rcases supported with rfl | rfl | rfl | rfl | rfl | rfl | rfl | rfl |
        rfl | rfl | rfl | rfl | rfl | rfl | rfl | rfl | rfl | rfl
      · exact ⟨_, rfl, builds_product _⟩
      · exact ⟨_, rfl, builds_make (fun _ _ same => by
          injection same) _⟩
      · rw [binary rfl]
        exact ⟨_, rfl, builds_binary fun _ _ _ _ same => by
          injection same with firsts seconds
          exact ⟨firsts, seconds⟩⟩
      · have atLeast := variadic rfl
        exact ⟨_, rfl, builds_division (by omega)⟩
      · exact ⟨_, rfl, builds_chainCompare _ (variadic rfl)⟩
      · exact ⟨_, rfl, builds_chainCompare _ (variadic rfl)⟩
      · exact ⟨_, rfl, builds_chainCompare _ (variadic rfl)⟩
      · exact ⟨_, rfl, builds_chainCompare _ (variadic rfl)⟩
      · exact ⟨_, rfl, builds_chainCompare _ (variadic rfl)⟩
      · exact ⟨_, rfl, builds_make (fun _ _ same => by
          injection same) _⟩
      · exact ⟨_, rfl, builds_make (fun _ _ same => by
          injection same) _⟩
      · rw [binary rfl]
        exact ⟨_, rfl, builds_binary fun _ _ _ _ same => by
          injection same with firsts seconds
          exact ⟨firsts, seconds⟩⟩
      · exact absurd inner (by decide)
      · exact absurd inner (by decide)
      · rw [unary rfl]
        exact ⟨_, rfl, builds_unary fun _ _ same => by
          injection same⟩
      · exact ⟨_, rfl, builds_make (fun _ _ same => by
          injection same) _⟩
      · exact absurd inner (by decide)
      · exact absurd inner (by decide)
  · cases operator

end ScientificResourceLab.Packs
