import ScientificResourceLab.Contracts.Timestamps
import ScientificResourceLab.Graphs.TopologicalOrder
import ScientificResourceLab.Planning.Router

/-!
# The plan builder

`buildPlan` turns a routing decision into a plan: the applicable profiles in
topological order, then the other profiles in canonical order, each with the
decision of the router, its dependencies and a resource estimate.  The
estimates of the selected steps are admitted against the caps of the policy.

The plan has a step for each of the fifteen capability profiles.  It has one
for every profile of the decision exactly when the request names no future
profile, since the router decides those too and the planner does not list
them.
-/

namespace ScientificResourceLab.Planning

open Python Contracts Steps Graphs

/-! ## Resources -/

/-- Amounts of the three resource dimensions. -/
structure Resources where
  wallSeconds : Nat
  rssBytes : Nat
  scratchBytes : Nat
  deriving DecidableEq, Repr

/-- The dimensions with their wire names, in their order. -/
def dimensions : List (String × (Resources → Nat)) :=
  [("wall_seconds", Resources.wallSeconds),
    ("rss_bytes", Resources.rssBytes),
    ("scratch_bytes", Resources.scratchBytes)]

/-- The wire form of an amount. -/
def Resources.toJson (resources : Resources) : Json :=
  .obj (dimensions.map fun dimension =>
    (text dimension.1, .int (dimension.2 resources)))

/-- `DEFAULT_CAPS`. -/
def defaultCaps : Resources :=
  ⟨300, 1610612736, 4294967296⟩

/-- `EXCEPTION_CAPS`. -/
def exceptionCaps : Resources :=
  ⟨900, 2147483648, 4294967296⟩

/-- `AdmissionPolicy`: its caps and its digest. -/
structure AdmissionPolicy where
  defaultCaps : Resources
  exceptionCaps : Resources
  digest : Text

/-- The resource classes. -/
inductive ResourceClass where
  | default
  | exception
  deriving DecidableEq, Repr

/-- The wire form of a resource class. -/
def ResourceClass.name : ResourceClass → Text
  | .default => text "default"
  | .exception => text "exception"

/-- `caps_for`. -/
def AdmissionPolicy.capsFor (policy : AdmissionPolicy) :
    ResourceClass → Resources
  | .exception => policy.exceptionCaps
  | .default => policy.defaultCaps

/-- `_BASE_ESTIMATES`. -/
def baseEstimates : List (Text × Resources) :=
  [(text "algebra_exact", ⟨20, 268435456, 104857600⟩),
    (text "symbolic_law", ⟨30, 268435456, 104857600⟩),
    (text "dynamics", ⟨60, 536870912, 524288000⟩),
    (text "geometry_tda", ⟨120, 805306368, 1073741824⟩),
    (text "causal_time_series", ⟨45, 536870912, 524288000⟩),
    (text "uncertainty", ⟨40, 402653184, 314572800⟩),
    (text "optimization", ⟨90, 536870912, 524288000⟩),
    (text "formal_protocol", ⟨50, 402653184, 209715200⟩),
    (text "literature", ⟨10, 134217728, 52428800⟩),
    (text "theorem_or_proof_obligation", ⟨70, 536870912, 314572800⟩),
    (text "nonlinear_continuous_or_hybrid_constraint",
      ⟨110, 805306368, 536870912⟩),
    (text "executable_ode_dae_sde_model", ⟨100, 671088640, 805306368⟩),
    (text "pde_variational_model", ⟨150, 939524096, 1610612736⟩),
    (text "model_composition", ⟨80, 536870912, 419430400⟩),
    (text "literature_extraction", ⟨15, 201326592, 104857600⟩)]

/-- `_estimate`; the quotients are exact doubles before they are cut. -/
def estimate (profile : Text) (resourceClass : ResourceClass) :
    Except PyError Resources :=
  match baseEstimates.lookup profile, resourceClass with
  | some base, .default => .ok base
  | some base, .exception =>
      .ok ⟨base.wallSeconds * 3 / 2, base.rssBytes * 5 / 4,
        base.scratchBytes⟩
  | none, _ => .error ⟨.keyError, quoted profile⟩

/-! ## Dependencies -/

/-- `_build_dependency_graph`: the set of dependencies of each profile. -/
def buildDependencyGraph (applicable : List Text) :
    List (Text × List Text) :=
  applicable.map fun profile =>
    (profile,
      if profile = text "model_composition" ∧ 1 < applicable.length then
        applicable.filter (· ≠ text "model_composition")
      else [])

/-- What a dependency map says of a profile. -/
def neededBy (deps : List (Text × List Text)) (profile : Text) :
    List Text :=
  (deps.lookup profile).getD []

/-- The same as a finite set. -/
def needed (deps : List (Text × List Text)) (profile : Text) :
    Finset Text :=
  (neededBy deps profile).toFinset

/-- `_topological_order`, also `topological_order`. -/
def topologicalOrder
    (applicable : List Text) (deps : List (Text × List Text)) :
    Except PyError (List Text) :=
  match applicable.find? fun profile => deps.lookup profile = none,
    (applicable.flatMap (neededBy deps)).find? (· ∉ applicable) with
  | some profile, _ => .error ⟨.keyError, quoted profile⟩
  | none, some dependency => .error ⟨.keyError, quoted dependency⟩
  | none, none =>
      let order := kahnOrder applicable (needed deps)
      if order.length ≠ applicable.length then
        .error ⟨.planError,
          text "plan dependency cycle detected among profiles: " ++
            quotedList (sortedNames (applicable.filter (· ∉ order)))⟩
      else .ok order

/-! ## Steps -/

/-- A step of a plan. -/
structure PlanStep where
  stepId : Text
  profile : Text
  capabilityId : Text
  adapterId : Option Text
  dependsOn : List Text
  selection : Selection
  exclusionReason : Option Text
  resourceEstimate : Resources

/-- A string or `null`. -/
def optionJson : Option Text → Json
  | some value => .str value
  | none => .null

/-- The wire form of a step. -/
def PlanStep.toJson (step : PlanStep) : Json :=
  .obj [(text "step_id", .str step.stepId),
    (text "profile", .str step.profile),
    (text "capability_id", .str step.capabilityId),
    (text "adapter_id", optionJson step.adapterId),
    (text "depends_on", .arr (step.dependsOn.map Json.str)),
    (text "selection", .str step.selection.name),
    (text "exclusion_reason", optionJson step.exclusionReason),
    (text "resource_estimate", step.resourceEstimate.toJson)]

def planStep
    (routing : RoutingDecision) (resourceClass : ResourceClass)
    (dependsOn : Text → List Text) (profile : Text) :
    Except PyError PlanStep :=
  match routing.profiles.lookup profile with
  | none => .error ⟨.keyError, quoted profile⟩
  | some decided => do
      let estimated ← estimate profile resourceClass
      pure ⟨profile, profile, decided.capabilityId, decided.adapterId,
        dependsOn profile, decided.selection, decided.exclusionReason,
        estimated⟩

/-- The profiles that apply, in canonical order. -/
def applicableProfiles (routing : RoutingDecision) :
    Except PyError (List Text) := do
  let decided ← decideAll scienceLabProfiles routing.selectionFor
  pure ((decided.filter fun entry =>
    entry.2 = .selected || entry.2 = .waitCapability).map Prod.fst)

/-- The `resource_class` of a request. -/
def requestClass (request : List (Text × Json)) :
    Except PyError ResourceClass := do
  let name ← nameIn [text "default", text "exception"]
    (fun resourceClass => contractFailure
      (text "request resource_class " ++ reprJson resourceClass ++
        text " must be 'default' or 'exception'"))
    ((Json.lookup (text "resource_class") request).getD
      (.str (text "default")))
  pure (if name = text "exception" then .exception else .default)

/-- `_build_steps`. -/
def buildSteps (request : List (Text × Json)) (routing : RoutingDecision) :
    Except PyError (List PlanStep) := do
  let resourceClass ← requestClass request
  let applicable ← applicableProfiles routing
  let deps := buildDependencyGraph applicable
  let topo ← topologicalOrder applicable deps
  let ordered ← topo.mapM
    (planStep routing resourceClass fun profile =>
      sortedNames (neededBy deps profile))
  let others ← (scienceLabProfiles.filter (· ∉ topo)).mapM
    (planStep routing resourceClass fun _ => [])
  pure (ordered ++ others)

/-! ## Admission -/

/-- The sum of one dimension over the selected steps. -/
def totalOf (dimension : Resources → Nat) (steps : List PlanStep) : Nat :=
  ((steps.filter (·.selection = .selected)).map fun step =>
    dimension step.resourceEstimate).sum

/-- The dimensions that a plan exceeds, with the amount and the cap. -/
def exceeded (steps : List PlanStep) (caps : Resources) :
    List (Text × Json) :=
  dimensions.filterMap fun dimension =>
    let total := totalOf dimension.2 steps
    let cap := dimension.2 caps
    if cap < total then
      some (text dimension.1,
        .obj [(text "requested", .int total), (text "cap", .int cap)])
    else none

/-- `_admit`. -/
def admitPlan
    (steps : List PlanStep) (policy : AdmissionPolicy)
    (resourceClass : ResourceClass) : Except PyError Unit :=
  let excess := exceeded steps (policy.capsFor resourceClass)
  refuseIf (excess.isEmpty = false)
    ⟨.resourceAdmissionError,
      text "plan resource estimates exceed " ++
        quoted resourceClass.name ++ text " caps: " ++
        reprJson (.obj excess) ++
        text " (a remote executor is required; the planner waits rather " ++
        text "than silently overflowing local)"⟩

/-! ## Plans -/

/-- `_require_request`, with the request id it has found. -/
def requireRequest : Json → Except PyError (List (Text × Json) × Text)
  | .obj request => do
      refuseIf (stringField "schema_version" request ≠
          text "ScienceLabRunRequest/v1")
        (contractFailure
          (text "request schema_version must be " ++
            quoted (text "ScienceLabRunRequest/v1") ++ text ", got " ++
            reprJson (getOrNone (text "schema_version") request)))
      refuseIf ((text "sha256:").isPrefixOf
          (stringField "request_id" request) = false)
        (contractFailure (text "request must carry a sha256 request_id"))
      pure (request, stringField "request_id" request)
  | other =>
      .error (contractFailure
        (text "request must be an object, got " ++ typeName other))

/-- A `ScienceLabPlan/v1`. -/
structure Plan where
  requestId : Text
  steps : List PlanStep
  policyHash : Text
  catalogHash : Text
  createdUtc : Text
  planDigest : Text
  planId : Text

/-- The members of a plan that its digest covers. -/
def planBody
    (requestId : Text) (steps : List PlanStep)
    (policyHash catalogHash createdUtc : Text) : List (Text × Json) :=
  [(text "schema_version", .str (text "ScienceLabPlan/v1")),
    (text "request_id", .str requestId),
    (text "steps", .arr (steps.map PlanStep.toJson)),
    (text "policy_hash", .str policyHash),
    (text "catalog_hash", .str catalogHash),
    (text "created_utc", .str createdUtc),
    (text "canonical_writes", .int 0),
    (text "grants_authority", .bool false)]

/-- `build_plan`. -/
def buildPlan
    (request : Json) (routing : RoutingDecision)
    (catalog : CapabilityCatalog) (policy : AdmissionPolicy)
    (createdUtc : Text) : Except PyError Plan := do
  let (request, requestId) ← requireRequest request
  let normalizedUtc ← normalizeTimestamp createdUtc
  let steps ← buildSteps request routing
  let resourceClass ← requestClass request
  admitPlan steps policy resourceClass
  let body := planBody requestId steps policy.digest catalog.digest
    normalizedUtc
  let planDigest ← objectId (.obj body)
  let planId ← objectId
    (.obj (body ++ [(text "plan_digest", .str planDigest)]))
  pure ⟨requestId, steps, policy.digest, catalog.digest, normalizedUtc,
    planDigest, planId⟩

/-! ## What a plan is made of -/

theorem topologicalOrder_eq_ok
    {applicable topo : List Text} {deps : List (Text × List Text)}
    (distinct : applicable.Nodup)
    (ordered : topologicalOrder applicable deps = .ok topo) :
    topo.Perm applicable ∧ Respects (needed deps) topo := by
  unfold topologicalOrder at ordered
  split at ordered
  · cases ordered
  · cases ordered
  · dsimp only at ordered
    split at ordered
    · cases ordered
    · next complete =>
        cases ordered
        exact kahnOrder_sound distinct _ (not_not.mp complete)

theorem applicableProfiles_sublist
    {routing : RoutingDecision} {applicable : List Text}
    (computed : applicableProfiles routing = .ok applicable) :
    applicable.Sublist scienceLabProfiles := by
  simp only [applicableProfiles, bind_eq_ok_iff, pure_eq_ok_iff]
    at computed
  obtain ⟨decided, filled, rfl⟩ := computed
  rw [← decideAll_keys filled]
  exact List.filter_sublist.map _

/-- A step that carries the decision of the router for its profile. -/
def Carries (routing : RoutingDecision) (step : PlanStep) : Prop :=
  ∃ decided, routing.profiles.lookup step.profile = some decided ∧
    step.selection = decided.selection ∧
    step.capabilityId = decided.capabilityId ∧
    step.adapterId = decided.adapterId ∧
    step.exclusionReason = decided.exclusionReason

theorem planStep_eq_ok
    {routing : RoutingDecision} {resourceClass : ResourceClass}
    {dependsOn : Text → List Text} {profile : Text} {step : PlanStep}
    (made : planStep routing resourceClass dependsOn profile = .ok step) :
    step.profile = profile ∧ step.stepId = profile ∧
      step.dependsOn = dependsOn profile ∧ Carries routing step := by
  unfold planStep at made
  split at made
  · cases made
  · next decided found =>
      simp only [bind_eq_ok_iff, pure_eq_ok_iff] at made
      obtain ⟨estimated, -, rfl⟩ := made
      exact ⟨rfl, rfl, rfl, decided, found, rfl, rfl, rfl, rfl⟩

theorem planSteps_eq_ok
    {routing : RoutingDecision} {resourceClass : ResourceClass}
    {dependsOn : Text → List Text} {profiles : List Text}
    {steps : List PlanStep}
    (made : profiles.mapM (planStep routing resourceClass dependsOn) =
      .ok steps) :
    steps.map PlanStep.profile = profiles ∧
      ∀ step ∈ steps, step.stepId = step.profile ∧
        step.dependsOn = dependsOn step.profile ∧
        Carries routing step := by
  refine ⟨mapM_keys (fun _ _ ran => (planStep_eq_ok ran).1) made, ?_⟩
  intro step member
  obtain ⟨profile, -, ran⟩ := (mapM_eq_ok made).2 step member
  obtain ⟨isProfile, isId, isDeps, carries⟩ := planStep_eq_ok ran
  rw [isProfile]
  exact ⟨isId, isDeps, carries⟩

/-- The step ids that a plan lets the step of an id depend on. -/
def stepDeps (steps : List PlanStep) (id : Text) : Finset Text :=
  ((steps.filter (·.stepId = id)).flatMap PlanStep.dependsOn).toFinset

theorem mem_stepDeps
    {steps : List PlanStep} {id name : Text} :
    name ∈ stepDeps steps id ↔
      ∃ step ∈ steps, step.stepId = id ∧ name ∈ step.dependsOn := by
  simp [stepDeps, and_assoc]

/-- What `_build_steps` returns. -/
structure Built (routing : RoutingDecision) (steps : List PlanStep) :
    Prop where
  profiles : (steps.map PlanStep.profile).Perm scienceLabProfiles
  ids : ∀ step ∈ steps, step.stepId = step.profile
  carries : ∀ step ∈ steps, Carries routing step
  respects : Respects (stepDeps steps) (steps.map PlanStep.stepId)

/-- A sublist and what it leaves out make up a list. -/
theorem perm_append_filter
    {whole chosen part : List Text} (distinct : whole.Nodup)
    (included : part.Sublist whole) (same : chosen.Perm part) :
    (chosen ++ whole.filter (· ∉ chosen)).Perm whole := by
  have chosenNodup : chosen.Nodup :=
    same.nodup_iff.mpr (included.nodup distinct)
  refine (List.perm_ext_iff_of_nodup ?_ distinct).mpr ?_
  · refine List.nodup_append.mpr
      ⟨chosenNodup, distinct.filter _, ?_⟩
    rintro name isChosen other isOther rfl
    simp only [List.mem_filter, decide_eq_true_eq] at isOther
    exact isOther.2 isChosen
  · intro name
    simp only [List.mem_append, List.mem_filter, decide_eq_true_eq]
    constructor
    · rintro (isChosen | ⟨member, -⟩)
      · exact included.subset (same.mem_iff.mp isChosen)
      · exact member
    · intro member
      by_cases isChosen : name ∈ chosen
      · exact .inl isChosen
      · exact .inr ⟨member, isChosen⟩

theorem buildSteps_eq_ok
    {request : List (Text × Json)} {routing : RoutingDecision}
    {steps : List PlanStep}
    (built : buildSteps request routing = .ok steps) :
    Built routing steps := by
  simp only [buildSteps, bind_eq_ok_iff, pure_eq_ok_iff] at built
  obtain ⟨resourceClass, -, applicable, isApplicable, topo, isTopo,
    ordered, isOrdered, others, isOthers, rfl⟩ := built
  have sublist := applicableProfiles_sublist isApplicable
  obtain ⟨same, respects⟩ := topologicalOrder_eq_ok
    (sublist.nodup scienceLabProfiles_nodup) isTopo
  obtain ⟨orderedProfiles, orderedSteps⟩ := planSteps_eq_ok isOrdered
  obtain ⟨otherProfiles, otherSteps⟩ := planSteps_eq_ok isOthers
  have ids : ∀ step ∈ ordered ++ others,
      step.stepId = step.profile := by
    intro step member
    rcases List.mem_append.mp member with isMember | isMember
    · exact (orderedSteps step isMember).1
    · exact (otherSteps step isMember).1
  have stepIds : (ordered ++ others).map PlanStep.stepId =
      topo ++ scienceLabProfiles.filter (· ∉ topo) := by
    rw [List.map_congr_left ids, List.map_append, orderedProfiles,
      otherProfiles]
  refine ⟨?_, ids, ?_, ?_⟩
  · rw [← List.map_congr_left ids, stepIds]
    exact perm_append_filter scienceLabProfiles_nodup sublist same
  · intro step member
    rcases List.mem_append.mp member with isMember | isMember
    · exact (orderedSteps step isMember).2.2
    · exact (otherSteps step isMember).2.2
  · have sourced : ∀ id name, name ∈ stepDeps (ordered ++ others) id →
        id ∈ topo ∧ name ∈ needed (buildDependencyGraph applicable) id := by
      intro id name isDep
      obtain ⟨step, member, rfl, depends⟩ := mem_stepDeps.mp isDep
      rw [ids step member]
      rcases List.mem_append.mp member with isMember | isMember
      · refine ⟨?_, ?_⟩
        · rw [← orderedProfiles]
          exact List.mem_map_of_mem isMember
        · rw [(orderedSteps step isMember).2.1] at depends
          exact List.mem_toFinset.mpr (mem_sortedNames.mp depends)
      · rw [(otherSteps step isMember).2.1] at depends
        exact absurd depends List.not_mem_nil
    rw [stepIds]
    refine Respects.append (respects.mono fun id name isDep =>
      (sourced id name isDep).2) ?_
    intro id isOther
    simp only [List.mem_filter, decide_eq_true_eq] at isOther
    refine Finset.eq_empty_of_forall_notMem fun name isDep => ?_
    exact isOther.2 (sourced id name isDep).1

/-- What a successful `build_plan` has computed. -/
theorem buildPlan_eq_ok
    {request : Json} {routing : RoutingDecision}
    {catalog : CapabilityCatalog} {policy : AdmissionPolicy}
    {createdUtc : Text} {plan : Plan}
    (built : buildPlan request routing catalog policy createdUtc =
      .ok plan) :
    Built routing plan.steps := by
  simp only [buildPlan, bind_eq_ok_iff, pure_eq_ok_iff] at built
  obtain ⟨⟨members, requestId⟩, -, normalized, -, steps, isSteps,
    resourceClass, -, -, -, planDigest, -, planId, -, rfl⟩ := built
  exact buildSteps_eq_ok isSteps

/-! ## Plans and decisions -/

/-- A dependency stands in an earlier step. -/
theorem Built.earlier
    {routing : RoutingDecision} {steps : List PlanStep}
    (built : Built routing steps)
    {before after : List PlanStep} {step : PlanStep}
    (split : steps = before ++ step :: after) {name : Text}
    (depends : name ∈ step.dependsOn) :
    ∃ other ∈ before, other.stepId = name := by
  have member : step ∈ steps := by
    rw [split]
    exact List.mem_append_right _ List.mem_cons_self
  have named : steps.map PlanStep.stepId =
      before.map PlanStep.stepId ++
        step.stepId :: after.map PlanStep.stepId := by
    rw [split, List.map_append, List.map_cons]
  exact List.mem_map.mp (built.respects _ _ _ named name
    (mem_stepDeps.mpr ⟨step, member, rfl, depends⟩))

/-- No step depends on itself through a chain. -/
theorem Built.acyclic
    {routing : RoutingDecision} {steps : List PlanStep}
    (built : Built routing steps) {step : PlanStep}
    (member : step ∈ steps) :
    ¬ Relation.TransGen
      (fun name id => ∃ step ∈ steps, step.stepId = id ∧
        name ∈ step.dependsOn)
      step.stepId step.stepId := by
  intro chain
  refine built.respects.acyclic
    (List.mem_map_of_mem (f := PlanStep.stepId) member) ?_
  exact Relation.TransGen.mono
    (fun name id depends => mem_stepDeps.mpr depends) _ _ chain

theorem Built.covers_iff
    {lower : Text → Text} {request claim : Json}
    {catalog : CapabilityCatalog} {routing : RoutingDecision}
    {steps : List PlanStep}
    (routed : route lower request claim catalog = .ok routing)
    (built : Built routing steps) :
    (steps.map PlanStep.profile).Perm (routing.profiles.map Prod.fst) ↔
      ∀ name ∈ requestedNames request, name ∉ futureProfileNames := by
  obtain ⟨members, claimed, requested, rfl, isRequested, keys⟩ :=
    route_eq_ok routed
  rw [keys, requestedProfiles_eq_ok isRequested]
  constructor
  · intro covers name isName future
    have member : name ∈
        futureOf (applicableSet lower requested members claimed) :=
      mem_futureOf.mpr ⟨isName, future⟩
    have lengths := (built.profiles.symm.trans covers).length_eq
    rw [List.length_append] at lengths
    have positive := List.length_pos_of_mem member
    omega
  · intro none
    have empty :
        futureOf (applicableSet lower requested members claimed) = [] := by
      refine List.eq_nil_iff_forall_not_mem.mpr fun name member => ?_
      obtain ⟨isName, future⟩ := mem_futureOf.mp member
      exact none name isName future
    rw [empty, List.append_nil]
    exact built.profiles

/--
The steps of a plan are the fifteen capability profiles, each once and with
the decision of the router; every dependency is an earlier step and no step
depends on itself through a chain.  They are all the profiles of the
decision exactly when the request names no future profile.
-/
theorem plan_carries_routing
    (lower : Text → Text) (request claim : Json)
    (catalog : CapabilityCatalog) (policy : AdmissionPolicy)
    (createdUtc : Text) (routing : RoutingDecision) (plan : Plan)
    (routed : route lower request claim catalog = .ok routing)
    (planned : buildPlan request routing catalog policy createdUtc =
      .ok plan) :
    ((plan.steps.map PlanStep.profile).Perm scienceLabProfiles ∧
      ∀ step ∈ plan.steps, Carries routing step) ∧
    (∀ before step after, plan.steps = before ++ step :: after →
      ∀ name ∈ step.dependsOn, ∃ other ∈ before, other.stepId = name) ∧
    (∀ step ∈ plan.steps, ¬ Relation.TransGen
      (fun name id => ∃ step ∈ plan.steps, step.stepId = id ∧
        name ∈ step.dependsOn)
      step.stepId step.stepId) ∧
    ((plan.steps.map PlanStep.profile).Perm
        (routing.profiles.map Prod.fst) ↔
      ∀ name ∈ requestedNames request, name ∉ futureProfileNames) := by
  have built := buildPlan_eq_ok planned
  refine ⟨⟨built.profiles, built.carries⟩, ?_, ?_, ?_⟩
  · intro before step after split name depends
    exact built.earlier split depends
  · intro step member
    exact built.acyclic member
  · exact built.covers_iff routed

/-! ## A requested future profile -/

/-- An id of one repeated digit. -/
def sampleId (digit : Char) : Text :=
  text "sha256:" ++ List.replicate 64 (codePoint digit)

theorem scalars_sampleId (digit : Char) : Scalars (sampleId digit) :=
  scalars_append.mpr ⟨scalars_text _, scalars_replicate _ _⟩

/-- A `ScienceLabRunRequest/v1` that names profiles. -/
def sampleRequest (profiles : List String) : List (Text × Json) :=
  [(text "schema_version", .str (text "ScienceLabRunRequest/v1")),
    (text "request_id", .str (sampleId 'a')),
    (text "requested_profiles",
      .arr (profiles.map fun name => .str (text name))),
    (text "resource_class", .str (text "default"))]

/-- A `ScientificClaim/v1` that the rules do not match. -/
def sampleClaim : Json :=
  .obj [(text "statement",
    .str (text "a claim that names a future profile"))]

/-- A catalog with one local adapter. -/
def sampleCatalog : CapabilityCatalog :=
  ⟨[(text "dynamics", ⟨text "cap.dynamics", text "dynamics",
      some (text "scipy"), .available⟩)],
    sampleId 'b'⟩

/-- The shipped caps. -/
def samplePolicy : AdmissionPolicy :=
  ⟨defaultCaps, exceptionCaps,
    sampleId 'c'⟩

def PlanStep.texts (step : PlanStep) : List Text :=
  [step.stepId, step.profile, step.capabilityId] ++
    step.adapterId.toList ++ step.dependsOn ++ step.exclusionReason.toList

/-- Texts without surrogates, and amounts within the digit limit. -/
def PlanStep.isPlain (step : PlanStep) : Bool :=
  (step.texts.all fun value =>
      value.all fun point => !CodePoint.isSurrogate point) &&
    dimensions.all fun dimension =>
      dimension.2 step.resourceEstimate < 10 ^ 20

theorem writable_amount {amount : Nat} (small : amount < 10 ^ 20) :
    Writable (.int amount) := by
  rw [Writable, Int.natAbs_natCast, decimalText]
  by_cases zero : amount = 0
  · rw [if_pos zero]
    decide
  · rw [if_neg zero, List.length_map, List.length_reverse]
    have few : ¬ 20 < (Nat.digits 10 amount).length := fun many =>
      absurd ((Nat.lt_digits_length_iff (by decide) amount).mp many)
        (not_le.mpr small)
    exact (not_lt.mp few).trans (by decide)

theorem writable_option {value : Option Text}
    (scalars : ∀ inner ∈ value.toList, Scalars inner) :
    Writable (optionJson value) := by
  cases value with
  | none => trivial
  | some inner => exact scalars inner (List.mem_singleton_self inner)

theorem writable_texts {values : List Text}
    (scalars : ∀ value ∈ values, Scalars value) :
    WritableItems (values.map Json.str) := by
  induction values with
  | nil => trivial
  | cons value values induction =>
      exact ⟨scalars value List.mem_cons_self,
        induction fun other member =>
          scalars other (List.mem_cons_of_mem _ member)⟩

/-- A plain step can be written. -/
theorem writable_step {step : PlanStep} (plain : step.isPlain = true) :
    Writable step.toJson := by
  rw [PlanStep.isPlain, Bool.and_eq_true] at plain
  obtain ⟨texts, amounts⟩ := plain
  have scalars : ∀ value ∈ step.texts, Scalars value := by
    intro value member point inValue
    have holds := List.all_eq_true.mp
      (List.all_eq_true.mp texts value member) point inValue
    exact Bool.not_eq_true' _ ▸ holds
  have small : ∀ dimension ∈ dimensions,
      Writable (.int (dimension.2 step.resourceEstimate)) :=
    fun dimension member => writable_amount
      (of_decide_eq_true (List.all_eq_true.mp amounts dimension member))
  have resources : Writable step.resourceEstimate.toJson :=
    ⟨scalars_text _, small _ (by simp [dimensions]),
      scalars_text _, small _ (by simp [dimensions]),
      scalars_text _, small _ (by simp [dimensions]), trivial⟩
  have selection : Scalars step.selection.name := by
    cases step.selection <;> exact scalars_text _
  refine ⟨scalars_text _, scalars _ (by simp [PlanStep.texts]),
    scalars_text _, scalars _ (by simp [PlanStep.texts]),
    scalars_text _, scalars _ (by simp [PlanStep.texts]),
    scalars_text _, writable_option fun value member =>
      scalars value ?_,
    scalars_text _, writable_texts fun value member =>
      scalars value ?_,
    scalars_text _, selection,
    scalars_text _, writable_option fun value member =>
      scalars value ?_,
    scalars_text _, resources, trivial⟩
  · exact List.mem_append_left _ (List.mem_append_left _
      (List.mem_append_right _ member))
  · exact List.mem_append_left _ (List.mem_append_right _ member)
  · exact List.mem_append_right _ member

theorem writable_steps {steps : List PlanStep}
    (plain : steps.all PlanStep.isPlain = true) :
    WritableItems (steps.map PlanStep.toJson) := by
  induction steps with
  | nil => trivial
  | cons step steps induction =>
      rw [List.all_cons, Bool.and_eq_true] at plain
      exact ⟨writable_step plain.1, induction plain.2⟩

theorem planBody_unnamed
    (requestId : Text) (steps : List PlanStep)
    (policyHash catalogHash createdUtc : Text) :
    objectIdField ∉
      (planBody requestId steps policyHash catalogHash createdUtc).map
        Prod.fst := by
  simp only [planBody, List.map_cons, List.map_nil]
  simp -index only [objectIdField, text_ofList]
  decide

/-- The body of a plan with plain steps can be written. -/
theorem writable_planBody
    {requestId policyHash catalogHash createdUtc : Text}
    {steps : List PlanStep} (request : Scalars requestId)
    (plain : steps.all PlanStep.isPlain = true)
    (policy : Scalars policyHash) (catalog : Scalars catalogHash)
    (created : Scalars createdUtc) :
    WritableMembers
      (planBody requestId steps policyHash catalogHash createdUtc) :=
  ⟨scalars_text _, scalars_text _, scalars_text _, request,
    scalars_text _, writable_steps plain, scalars_text _, policy,
    scalars_text _, catalog, scalars_text _, created,
    scalars_text _, @writable_amount 0 (by decide),
    scalars_text _, trivial, trivial⟩

/-- Whether a request is routed and its steps are admitted and plain. -/
def isPlanned (profiles : List String) : Bool :=
  match route id (.obj (sampleRequest profiles)) sampleClaim
      sampleCatalog with
  | .error _ => false
  | .ok routing =>
      match buildSteps (sampleRequest profiles) routing with
      | .error _ => false
      | .ok steps =>
          (exceeded steps defaultCaps).isEmpty &&
            steps.all PlanStep.isPlain

/-- Such a request gets a plan. -/
theorem planned_of_isPlanned
    {profiles : List String} (holds : isPlanned profiles = true) :
    ∃ routing plan,
      route id (.obj (sampleRequest profiles)) sampleClaim sampleCatalog =
        .ok routing ∧
      buildPlan (.obj (sampleRequest profiles)) routing sampleCatalog
        samplePolicy (text "2026-07-28T00:00:00Z") = .ok plan := by
  rw [isPlanned] at holds
  split at holds
  · cases holds
  next routing routed =>
  split at holds
  · cases holds
  next steps made =>
  obtain ⟨within, plain⟩ := Bool.and_eq_true_iff.mp holds
  have request : requireRequest (.obj (sampleRequest profiles)) =
      .ok (sampleRequest profiles, sampleId 'a') := rfl
  have created : normalizeTimestamp (text "2026-07-28T00:00:00Z") =
      .ok (text "2026-07-28T00:00:00Z") := by decide
  have ofClass : requestClass (sampleRequest profiles) = .ok .default :=
    rfl
  have accepted : admitPlan steps samplePolicy .default = .ok () := by
    rw [admitPlan, refuseIf_eq_ok_iff]
    change ¬ (exceeded steps defaultCaps).isEmpty = false
    rw [within]
    decide
  have body := writable_planBody (scalars_sampleId 'a') plain
    (scalars_sampleId 'c') (scalars_sampleId 'b')
    (scalars_text "2026-07-28T00:00:00Z")
  obtain ⟨planDigest, isDigest, shaped⟩ :=
    objectId_of_writable body (planBody_unnamed _ _ _ _ _)
  have digested : WritableMembers
      [(text "plan_digest", Json.str planDigest)] :=
    ⟨scalars_text _, scalars_of_isObjectId shaped, trivial⟩
  obtain ⟨planId, isId, -⟩ := objectId_of_writable
    (writableMembers_append.mpr ⟨body, digested⟩) (by
      rw [List.map_append, List.mem_append, not_or]
      refine ⟨planBody_unnamed _ _ _ _ _, ?_⟩
      change objectIdField ∉ [text "plan_digest"]
      decide)
  refine ⟨routing, ⟨sampleId 'a', steps, sampleId 'c', sampleId 'b',
    text "2026-07-28T00:00:00Z", planDigest, planId⟩, routed, ?_⟩
  rw [buildPlan]
  simp only [bind_eq_ok_iff, pure_eq_ok_iff]
  exact ⟨_, request, _, created, _, made, _, ofClass, _, accepted, _,
    isDigest, _, isId, rfl⟩

/--
A requested future profile is routed and has no step, so the plan does not
correspond to the decision.
-/
theorem plan_drops_future_profile :
    ∃ routing plan,
      route id (.obj (sampleRequest ["dreal"])) sampleClaim
        sampleCatalog = .ok routing ∧
      buildPlan (.obj (sampleRequest ["dreal"])) routing sampleCatalog
        samplePolicy (text "2026-07-28T00:00:00Z") = .ok plan ∧
      text "dreal" ∈ routing.profiles.map Prod.fst ∧
      text "dreal" ∉ plan.steps.map PlanStep.profile := by
  obtain ⟨routing, plan, routed, planned⟩ :=
    @planned_of_isPlanned ["dreal"] (by decide)
  refine ⟨routing, plan, routed, planned, ?_, ?_⟩
  · obtain ⟨members, claimed, requested, isRequest, isRequested, keys⟩ :=
      route_eq_ok routed
    cases isRequest
    rw [keys]
    refine List.mem_append_right _ (mem_futureOf.mpr ⟨?_, ?_⟩)
    · rw [← requestedProfiles_eq_ok isRequested]
      decide
    · decide
  · rw [(buildPlan_eq_ok planned).profiles.mem_iff]
    decide

/-- A composed model with its component, routed and planned. -/
theorem plan_carries_composition :
    ∃ routing plan,
      route id
        (.obj (sampleRequest ["dynamics", "model_composition"]))
        sampleClaim sampleCatalog = .ok routing ∧
      buildPlan
        (.obj (sampleRequest ["dynamics", "model_composition"])) routing
        sampleCatalog samplePolicy (text "2026-07-28T00:00:00Z") =
          .ok plan ∧
      (plan.steps.map PlanStep.profile).Perm
        (routing.profiles.map Prod.fst) := by
  obtain ⟨routing, plan, routed, planned⟩ :=
    @planned_of_isPlanned ["dynamics", "model_composition"]
      (by decide)
  refine ⟨routing, plan, routed, planned, ?_⟩
  obtain ⟨-, -, -, covers⟩ := plan_carries_routing id _ sampleClaim
    sampleCatalog samplePolicy _ routing plan routed planned
  exact covers.mpr (by decide)

end ScientificResourceLab.Planning
