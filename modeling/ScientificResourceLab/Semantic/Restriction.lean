import ScientificResourceLab.Semantic.Projection

/-!
# What a projection returns

`project_to_backend` plans which operators a backend drops, and records the
plan in the receipt, but the tree that it returns is the tree that it got.
The restricted tree, its identity and the receipt fit together exactly when
nothing had to be dropped or approximated.
-/

namespace ScientificResourceLab.Semantic

open Python Contracts Steps

/-- A backend can take an operator, as it is or approximately. -/
def Usable (profile : Fields) (op : Text) : Prop :=
  op ∈ supportedOps profile ∨
    behaviorForOp op profile = some (text "approximate")

/-- What a projection onto a backend is for. -/
structure Restricts (irTree profile restricted receipt : Fields) :
    Prop where
  /-- No operator is left that the backend drops. -/
  usable : ∃ expression tree,
    Json.lookup (text "expression") restricted = some expression ∧
      treeOf expression = some tree ∧
        ∀ op ∈ tree.ops, Usable profile op
  /-- The expression is the same exactly when nothing was lost. -/
  faithful : Json.lookup (text "expression") restricted =
      some (.obj irTree) ↔
    Json.lookup (text "conversion_class") receipt = some (.str lossless)
  /-- The receipt names the expression that was returned. -/
  identified : ∃ expression targetId,
    Json.lookup (text "expression") restricted = some expression ∧
      irId expression = .ok targetId ∧
        Json.lookup (text "target_object_id") receipt =
          some (.str targetId)

/-- What `record_transformation` writes about a step. -/
theorem recordTransformation_eq_ok
    {step : Transformation} {receipt : Fields}
    (recorded : recordTransformation step = .ok receipt) :
    Json.lookup (text "conversion_class") receipt =
        some (.str step.conversionClass) ∧
      Json.lookup (text "target_object_id") receipt =
        some (.str step.targetObjectId) := by
  simp only [recordTransformation, bind_eq_ok_iff, pure_eq_ok_iff]
    at recorded
  obtain ⟨_, _, _, _, _, _, _, _, assumptions, _, dropped, _, _, _, _, _,
    _, _, createdUtc, _, receiptId, _, _, _, rfl⟩ := recorded
  exact ⟨rfl, rfl⟩

/-- A plan that was made records the unsupported operators. -/
theorem planProjection_eq_ok
    {profile : Fields} (sound : ProfileSound profile) {ops : List Text}
    {plan : List Text × List Assumption}
    (planned : planProjection (supportedOps profile) profile ops =
      .ok plan) :
    plan = (unsupported profile ops,
      (unsupported profile ops).map (introducedFor profile)) := by
  have admitted : ∀ op ∈ ops, ¬ Rejected profile op := by
    intro op isOp rejected
    obtain ⟨error, stopped, -⟩ :=
      planProjection_rejected sound ⟨op, isOp, rejected⟩
    rw [stopped] at planned
    cases planned
  rw [planProjection_planned sound admitted] at planned
  exact (Except.ok.inj planned).symm

/-- A projection returns the expression it got, under its own identity. -/
theorem projectToBackend_eq_ok
    {irTree profile restricted receipt : Fields} {createdUtc : Text}
    (validExpression : ValidExpression irTree)
    (validProfile : ValidProfile profile)
    (returned : projectToBackend irTree (.obj profile) createdUtc =
      .ok (restricted, receipt)) :
    ∃ tree sourceId, treeOf (.obj irTree) = some tree ∧
      irId (.obj irTree) = .ok sourceId ∧
      restricted = restrictedTree sourceId (.obj irTree) ∧
      Json.lookup (text "target_object_id") receipt =
        some (.str sourceId) ∧
      (Json.lookup (text "conversion_class") receipt =
          some (.str lossless) ↔
        ∀ op ∈ tree.ops, op ∈ supportedOps profile) := by
  obtain ⟨tree, sourceId, isTree, -, identified, -⟩ :=
    validExpression.denotes
  obtain ⟨_, -, -, validated, sound⟩ := validProfile.sound
  simp only [projectToBackend, bind_eq_ok_iff, pure_eq_ok_iff] at returned
  obtain ⟨members, isMembers, wire, isWire, _, _, computed, isComputed,
    plan, planned, packHash, _, adapterRef, _, written, recorded,
    isReturned⟩ := returned
  cases validated.symm.trans isMembers
  cases (extractWire_of_matchesExpr
    validExpression.matchesSchema).symm.trans isWire
  cases identified.symm.trans isComputed
  cases isReturned
  obtain ⟨hasClass, hasTarget⟩ := recordTransformation_eq_ok recorded
  rw [collectOps, walkOps_eq _ tree isTree] at planned
  cases planProjection_eq_ok sound planned
  refine ⟨tree, sourceId, isTree, identified, rfl, hasTarget, ?_⟩
  rw [hasClass]
  exact @projectionStep_lossless_iff profile tree.ops sourceId adapterRef
    packHash

/--
A projection restricts the expression exactly when there was nothing to
restrict: the backend supports every operator.
-/
theorem projectToBackend_restricts_iff
    {irTree profile restricted receipt : Fields} {createdUtc : Text}
    (validExpression : ValidExpression irTree)
    (validProfile : ValidProfile profile)
    (returned : projectToBackend irTree (.obj profile) createdUtc =
      .ok (restricted, receipt)) :
    Restricts irTree profile restricted receipt ↔
      ∀ op ∈ collectOps (.obj irTree), op ∈ supportedOps profile := by
  obtain ⟨tree, sourceId, isTree, identified, rfl, hasTarget, cost⟩ :=
    projectToBackend_eq_ok validExpression validProfile returned
  rw [collectOps, walkOps_eq _ tree isTree, ← cost]
  constructor
  · intro restricts
    exact restricts.faithful.mp rfl
  · intro isLossless
    exact
      { usable := ⟨_, tree, rfl, isTree, fun op isOp =>
          Or.inl (cost.mp isLossless op isOp)⟩
        faithful := ⟨fun _ => isLossless, fun _ => rfl⟩
        identified := ⟨_, sourceId, rfl, identified, hasTarget⟩ }

/-- The derivative is not rejected, because the backend drops it. -/
theorem derivative_admitted
    {tree : Tree} (isTree : treeOf (.obj derivative) = some tree) :
    ∀ op ∈ tree.ops, ¬ Rejected arithmeticProfile op := by
  have handled : ∀ op ∈ collectOps (.obj derivative),
      op ∈ supportedOps arithmeticProfile ∨
        behaviorForOp op arithmeticProfile = some (text "drop") := by
    decide
  rw [collectOps, walkOps_eq _ tree isTree] at handled
  rintro op isOp ⟨notSupported, undeclared⟩
  rcases handled op isOp with isSupported | dropped
  · exact notSupported isSupported
  · rw [dropped] at undeclared
    revert undeclared
    decide

/-- The projection of the derivative onto a backend that drops it. -/
theorem project_derivative :
    ∃ restricted receipt,
      projectToBackend derivative (.obj arithmeticProfile)
        defaultCreatedUtc = .ok (restricted, receipt) := by
  obtain ⟨tree, _, isTree, -⟩ := derivative_valid.denotes
  obtain ⟨_, _, _, _, returned⟩ := projectToBackend_accepted
    derivative_valid arithmeticProfile_valid isTree
    (derivative_admitted isTree)
  exact ⟨_, _, returned⟩

theorem projectToBackend_restricts_iff_derivative :
    ∃ restricted receipt,
      projectToBackend derivative (.obj arithmeticProfile)
          defaultCreatedUtc = .ok (restricted, receipt) ∧
        (Restricts derivative arithmeticProfile restricted receipt ↔
          ∀ op ∈ collectOps (.obj derivative),
            op ∈ supportedOps arithmeticProfile) := by
  obtain ⟨restricted, receipt, returned⟩ := project_derivative
  exact ⟨restricted, receipt, returned, projectToBackend_restricts_iff
    derivative_valid arithmeticProfile_valid returned⟩

/-- The dropped derivative is still there after its projection. -/
theorem derivative_not_restricted :
    ValidExpression derivative ∧ ValidProfile arithmeticProfile ∧
      ∃ restricted receipt,
        projectToBackend derivative (.obj arithmeticProfile)
            defaultCreatedUtc = .ok (restricted, receipt) ∧
          ¬ Restricts derivative arithmeticProfile restricted receipt := by
  refine ⟨derivative_valid, arithmeticProfile_valid, ?_⟩
  obtain ⟨restricted, receipt, returned⟩ := project_derivative
  refine ⟨restricted, receipt, returned, ?_⟩
  intro restricts
  obtain ⟨tree, sourceId, isTree, -, rfl, -⟩ := projectToBackend_eq_ok
    derivative_valid arithmeticProfile_valid returned
  obtain ⟨expression, same, found, isSame, usable⟩ := restricts.usable
  cases found
  cases isTree.symm.trans isSame
  rw [← walkOps_eq _ tree isTree] at usable
  revert usable
  simp only [Usable]
  decide

end ScientificResourceLab.Semantic
