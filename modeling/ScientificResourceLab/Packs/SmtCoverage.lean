import ScientificResourceLab.Packs.SmtSorts

/-!
# What the validator leaves to the builder

The term builder has two branches for formulas that it should never see: an
atom, and an operator without a builder.  Operators are covered, but the
validator accepts an atom wherever an operand may stand, and the builder
takes atoms only inside leaves.
-/

namespace ScientificResourceLab.Packs

open Python Steps

/-- The errors of the two defensive branches. -/
def Defensive (error : PyError) : Prop :=
  error = bareAtom ∨ ∃ op, error = missingBuilder op

/-- Building a formula ends in a defensive branch. -/
def ReachesDefensive (z3 : Z3) (spec : Json) : Prop :=
  ∃ error, buildTerm z3 spec [] = .error error ∧ Defensive error

mutual

/-- No atom stands as a formula, or as an operand outside a leaf. -/
def WithoutAtoms : Json → Prop
  | .arr (op :: args) =>
      match op with
      | .str name =>
          isLeafOperator name = true ∨ OperandsWithoutAtoms args
      | _ => True
  | .arr [] | .null | .obj _ => True
  | _ => False

def OperandsWithoutAtoms : List Json → Prop
  | [] => True
  | arg :: rest => WithoutAtoms arg ∧ OperandsWithoutAtoms rest

end

theorem operandsWithoutAtoms_iff {args : List Json} :
    OperandsWithoutAtoms args ↔ ∀ arg ∈ args, WithoutAtoms arg := by
  induction args with
  | nil => simp [OperandsWithoutAtoms]
  | cons arg rest induction =>
      simp [OperandsWithoutAtoms, induction]

variable {z3 : Z3}

/-- The errors of a library are not the adapter's. -/
theorem RefusedBy.not_defensive
    {error : PyError} (refused : RefusedBy z3 error) :
    ¬ Defensive error := by
  obtain ⟨term, refusal, -, rfl⟩ := refused
  have foreign := refusal.foreign
  rintro (isAtom | ⟨op, isMissing⟩)
  · rw [isAtom] at foreign
    exact foreign rfl
  · rw [isMissing] at foreign
    exact foreign rfl

/-! ## What stops the builder -/

theorem declare_raises
    (sort : VarSort) (name : Text) (cache : VarCache) :
    RaisesOnly (RefusedBy z3) (declare z3 sort name cache) := by
  rw [declare.eq_def]
  split
  · exact raisesOnly_ok _
  · apply raisesOnly_bind (make_raises _)
    intro term _
    exact raisesOnly_ok _

theorem buildLeaf_raises
    {leaf : Leaf} (wellFormed : leaf ≠ .malformed) (cache : VarCache) :
    RaisesOnly (RefusedBy z3) (buildLeaf z3 leaf cache) := by
  cases leaf with
  | numeral term =>
      apply raisesOnly_bind (make_raises _)
      intro built _
      exact raisesOnly_ok _
  | «variable» sort name => exact declare_raises sort name cache
  | malformed => exact absurd rfl wellFormed

/-- What can stop the building of a formula. -/
def Stops (z3 : Z3) (clean : Prop) (error : PyError) : Prop :=
  RefusedBy z3 error ∨ error = bareAtom ∧ ¬ clean

theorem buildTerms_raises
    {args : List Json}
    (each : ∀ arg ∈ args, ∀ cache,
      RaisesOnly (Stops z3 (WithoutAtoms arg)) (buildTerm z3 arg cache))
    (cache : VarCache) :
    RaisesOnly (Stops z3 (OperandsWithoutAtoms args))
      (buildTerms z3 args cache) := by
  induction args generalizing cache with
  | nil => exact raisesOnly_ok _
  | cons arg rest induction =>
      rw [buildTerms]
      apply raisesOnly_bind
      · intro error stopped
        rcases each arg List.mem_cons_self cache error stopped with
          refused | ⟨isAtom, unclean⟩
        · exact .inl refused
        · exact .inr ⟨isAtom, fun clean => unclean clean.1⟩
      · rintro ⟨child, next⟩ _
        apply raisesOnly_bind
        · intro error stopped
          rcases induction
            (fun other member => each other
              (List.mem_cons_of_mem _ member)) next error stopped with
            refused | ⟨isAtom, unclean⟩
          · exact .inl refused
          · exact .inr ⟨isAtom, fun clean => unclean clean.2⟩
        · rintro ⟨children, last⟩ _
          exact raisesOnly_ok _

theorem buildTerms_length
    {args : List Json} {cache next : VarCache} {children : List Term}
    (built : buildTerms z3 args cache = .ok (children, next)) :
    children.length = args.length := by
  induction args generalizing cache children with
  | nil =>
      cases built
      rfl
  | cons arg rest induction =>
      simp only [buildTerms, bind_eq_ok_iff, pure_eq_ok_iff] at built
      obtain ⟨⟨child, after⟩, -, ⟨others, last⟩, isRest, same⟩ := built
      cases same
      rw [List.length_cons, List.length_cons, induction isRest]

/--
An accepted formula stops the builder where the library refuses a term or at
a bare atom; every operator has its builder.
-/
theorem buildTerm_raises
    {spec : Json} (validated : validateSpecRec spec = .ok ())
    (cache : VarCache) :
    RaisesOnly (Stops z3 (WithoutAtoms spec))
      (buildTerm z3 spec cache) := by
  induction spec using formula_induction generalizing cache with
  | application op args induction =>
      obtain ⟨name, same, found⟩ := @validated_cases z3 _ _ validated
      cases same
      rw [buildTerm, WithoutAtoms]
      rcases found with ⟨leaf, isLeaf, wellFormed⟩ |
        ⟨isInner, operands, builder, stored, builds⟩
      · simp only [isLeaf]
        intro error stopped
        exact .inl (buildLeaf_raises wellFormed cache error stopped)
      · have inner := leafOf_eq_none_iff.mp isInner
        simp only [isInner, inner, Bool.false_eq_true, false_or]
        apply raisesOnly_bind
        · exact buildTerms_raises (fun arg member cache =>
            induction arg member (operands arg member) cache) cache
        · rintro ⟨children, next⟩ built
          have count := buildTerms_length built
          apply raisesOnly_bind
          · rw [applyOperator, stored]
            intro error stopped
            exact .inl (builds.raises children count error stopped)
          · intro term _
            exact raisesOnly_ok _
  | other spec other =>
      cases spec with
      | arr items =>
          cases items with
          | nil => cases validated
          | cons op args =>
              obtain ⟨name, rfl, -⟩ := @validated_cases z3 _ _ validated
              exact absurd ⟨name, args, rfl⟩ other
      | null => cases validated
      | obj members => cases validated
      | bool value =>
          exact raisesOnly_error (.inr ⟨rfl, fun clean => clean⟩)
      | int value =>
          exact raisesOnly_error (.inr ⟨rfl, fun clean => clean⟩)
      | float value =>
          exact raisesOnly_error (.inr ⟨rfl, fun clean => clean⟩)
      | str value =>
          exact raisesOnly_error (.inr ⟨rfl, fun clean => clean⟩)

/-! ## Formulas that are built -/

theorem mem_buildTerms
    {args : List Json} {cache next : VarCache} {children : List Term}
    (built : buildTerms z3 args cache = .ok (children, next)) :
    ∀ arg ∈ args, ∃ before result,
      buildTerm z3 arg before = .ok result := by
  induction args generalizing cache children with
  | nil => simp
  | cons arg rest induction =>
      simp only [buildTerms, bind_eq_ok_iff, pure_eq_ok_iff] at built
      obtain ⟨⟨child, after⟩, isChild, ⟨others, last⟩, isRest, same⟩ :=
        built
      cases same
      intro other member
      rcases List.mem_cons.mp member with rfl | later
      · exact ⟨cache, _, isChild⟩
      · exact induction isRest other later

/-- A formula that is built has no bare atom. -/
theorem withoutAtoms_of_built
    {spec : Json} {cache : VarCache} {result : Term × VarCache}
    (built : buildTerm z3 spec cache = .ok result) :
    WithoutAtoms spec := by
  induction spec using formula_induction generalizing cache result with
  | application op args induction =>
      rw [buildTerm] at built
      rw [WithoutAtoms]
      split at built
      · next leaf isLeaf =>
          left
          by_contra inner
          rw [Bool.not_eq_true] at inner
          have none : leafOf op args = none :=
            leafOf_eq_none_iff.mpr inner
          rw [none] at isLeaf
          cases isLeaf
      · right
        simp only [bind_eq_ok_iff] at built
        obtain ⟨⟨children, next⟩, isOperands, -⟩ := built
        rw [operandsWithoutAtoms_iff]
        intro arg member
        obtain ⟨before, other, isArg⟩ := mem_buildTerms isOperands arg member
        exact induction arg member isArg
  | other spec other =>
      rw [buildTerm_other (fun sort _ => sort) cache other] at built
      cases constructed : termUnder z3 (fun sort _ => sort) spec with
      | ok term => exact absurd constructed (termUnder_ne_ok other)
      | error error =>
          rw [constructed] at built
          cases built

/--
The validator covers the builder exactly for the formulas in which no operand
is a bare atom, unless the library refuses a term first.
-/
theorem validator_covers_builder_iff
    (z3 : Z3) (spec : Json) (accepted : validateSpec spec = .ok ()) :
    (WithoutAtoms spec → ¬ ReachesDefensive z3 spec) ∧
      ((∀ error, buildTerm z3 spec [] = .error error →
          ¬ RefusedBy z3 error) →
        ¬ ReachesDefensive z3 spec → WithoutAtoms spec) := by
  have stops := @buildTerm_raises z3 spec
    (validateSpecRec_of_validateSpec accepted) []
  constructor
  · rintro clean ⟨error, stopped, defensive⟩
    rcases stops error stopped with refused | ⟨-, unclean⟩
    · exact refused.not_defensive defensive
    · exact unclean clean
  · intro accepts unreached
    cases built : buildTerm z3 spec [] with
    | ok result => exact withoutAtoms_of_built built
    | error error =>
        rcases stops error built with refused | ⟨isAtom, -⟩
        · exact absurd refused (accepts error built)
        · exact absurd ⟨error, built, .inl isAtom⟩ unreached

/-- A formula of two conjuncts, each a comparison of leaves. -/
theorem covers_between :
    validateSpec (betweenSpec "int-var" "real-var" "y") = .ok () ∧
      ¬ ReachesDefensive booleanZ3
        (betweenSpec "int-var" "real-var" "y") := by
  have accepted :
      validateSpec (betweenSpec "int-var" "real-var" "y") = .ok () := rfl
  refine ⟨accepted,
    (validator_covers_builder_iff booleanZ3 _ accepted).1 ?_⟩
  exact @withoutAtoms_of_built booleanZ3 _ [] _ rfl

/-- `["not", "x"]` is accepted, and its atom reaches the builder. -/
theorem negated_atom_reaches_builder :
    validateSpec (.arr [.str (text "not"), .str (text "x")]) = .ok () ∧
      ReachesDefensive booleanZ3
        (.arr [.str (text "not"), .str (text "x")]) :=
  ⟨rfl, bareAtom, rfl, .inl rfl⟩

end ScientificResourceLab.Packs
