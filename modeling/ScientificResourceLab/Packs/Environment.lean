import ScientificResourceLab.Graphs.DepthFirst
import ScientificResourceLab.Packs.Manifest

/-!
# Environment profiles

`build_environment_profile` of `srl.packs.environment`: the dependencies of a
profile in depth-first order, the scheduling status and the manifest with its
content address.

A specification is what its constructor accepts, of which the results need
that the dependency ids are distinct.  The order depends on the dependencies
only up to their order and the order of what each of them names, so the
manifest does too (`manifestId_rearranged`).
-/

namespace ScientificResourceLab.Packs

open Python Contracts Steps Graphs

/-- `EnvironmentDependency`. -/
structure EnvironmentDependency where
  dependencyId : Text
  version : Text
  licenseSpdx : Text
  artifactSha256 : Text
  dependsOn : List Text

/-- `EnvironmentKind`. -/
inductive EnvironmentKind where
  | pythonUv
  | nativeBinary
  | juliaDepot
  | leanProver
  deriving DecidableEq

def EnvironmentKind.value : EnvironmentKind → Text
  | .pythonUv => text "python_uv"
  | .nativeBinary => text "native_binary"
  | .juliaDepot => text "julia_depot"
  | .leanProver => text "lean_prover"

/-- `EnvironmentStatus`. -/
inductive EnvironmentStatus where
  | active
  | waitLicense
  | revoked
  | invalid
  deriving DecidableEq

/-- `EnvironmentProfileSpec`, whose constructor refuses repeated ids. -/
structure EnvironmentProfileSpec where
  profileId : Text
  kind : EnvironmentKind
  lockSha256 : Text
  sbomSha256 : Text
  dependencies : List EnvironmentDependency
  mutableRoots : List Text
  nativeTools : List Text
  distinct :
    (dependencies.map EnvironmentDependency.dependencyId).Nodup

/-- `EnvironmentProfileRecord`. -/
structure EnvironmentProfileRecord where
  profileId : Text
  kind : EnvironmentKind
  status : EnvironmentStatus
  reasons : List Text
  manifest : Fields

/-- An array of strings. -/
def textArray (values : List Text) : Json :=
  .arr (values.map .str)

/-- `EnvironmentDependency.to_dict`. -/
def EnvironmentDependency.toDict (dependency : EnvironmentDependency) :
    Fields :=
  [(text "dependency_id", .str dependency.dependencyId),
    (text "version", .str dependency.version),
    (text "license_spdx", .str dependency.licenseSpdx),
    (text "artifact_sha256", .str dependency.artifactSha256),
    (text "depends_on", textArray (sortedTexts dependency.dependsOn))]

/-! ## The order of the dependencies -/

/-- An `EnvironmentFactoryError` about the dependency graph. -/
def dagFailure (message : Text) : Failure :=
  ⟨⟨.environmentFactoryError, message⟩, some .dependencyDagInvalid⟩

/-- `by_id.get`: of several dependencies with one id, the last. -/
def byId (dependencies : List EnvironmentDependency) (id : Text) :
    Option EnvironmentDependency :=
  dependencies.reverse.find? fun dependency =>
    dependency.dependencyId = id

/-- `sorted(by_id)`. -/
def sortedIds (dependencies : List EnvironmentDependency) : List Text :=
  sortedTexts
    (dependencies.map EnvironmentDependency.dependencyId).dedup

/-- `sorted(dep.depends_on)`. -/
def sortedChildren (dependency : EnvironmentDependency) : List Text :=
  sortedTexts dependency.dependsOn

/-- The exception that an obstacle of the search is raised as. -/
def obstacleFailure : Obstacle Text → Failure
  | .cycle id =>
      dagFailure (text "dependency graph contains a cycle at " ++
        quoted id)
  | .undeclared id =>
      dagFailure (text "dependency " ++ quoted id ++
        text " referenced but not declared")
  | .exhausted =>
      ⟨raised .recursionError "maximum recursion depth exceeded", none⟩

/--
`_topological_dependency_order`.  A chain of calls never visits an id twice,
so one more level than there are ids is enough for the recursion.
-/
def topologicalDependencyOrder
    (dependencies : List EnvironmentDependency) :
    Except Failure (List EnvironmentDependency) :=
  let ids := sortedIds dependencies
  match depthFirst (byId dependencies) sortedChildren (ids.length + 1)
      ids with
  | .ok search => .ok search.ordered
  | .error obstacle => .error (obstacleFailure obstacle)

/-! ## The profile -/

/-- A dependency whose licence is neither allowed nor known to be barred. -/
def hasUnknownLicense (dependency : EnvironmentDependency) : Bool :=
  dependency.licenseSpdx ∉ licenseAllowlist &&
    !hasIncompatibleStart dependency.licenseSpdx

/-- The sorted ids of the dependencies that a condition selects. -/
def selectedIds (selects : EnvironmentDependency → Bool)
    (dependencies : List EnvironmentDependency) : List Text :=
  sortedTexts
    ((dependencies.filter selects).map EnvironmentDependency.dependencyId)

/-- Reasons that name dependencies. -/
def namedReasons (reason : String) (ids : List Text) : List Text :=
  ids.map fun id => text reason ++ text ":" ++ id

/-- `_status_for`, with the revoked dependency ids of the registry. -/
def statusFor (order : List EnvironmentDependency) (revoked : List Text) :
    EnvironmentStatus × List Text :=
  let revokedIds := selectedIds
    (fun dependency => dependency.dependencyId ∈ revoked) order
  let unknown := selectedIds hasUnknownLicense order
  let incompatible := selectedIds
    (fun dependency => hasIncompatibleStart dependency.licenseSpdx) order
  if revokedIds ≠ [] then
    (.revoked, namedReasons "revoked_dependency" revokedIds)
  else if unknown ≠ [] then
    (.waitLicense, namedReasons "license_unknown" unknown)
  else if incompatible ≠ [] then
    (.waitLicense, namedReasons "license_incompatible" incompatible)
  else (.active, [text "complete_environment_profile_evidence"])

/-- `ENVIRONMENT_PROFILE_SCHEMA_VERSION`. -/
def environmentProfileSchemaVersion : Text :=
  text "EnvironmentProfile/v1"

/-- The manifest of a profile without its `manifest_id`. -/
def environmentManifest
    (spec : EnvironmentProfileSpec) (order : List EnvironmentDependency) :
    Fields :=
  [(text "schema_version", .str environmentProfileSchemaVersion),
    (text "profile_id", .str spec.profileId),
    (text "kind", .str spec.kind.value),
    (text "lock_sha256", .str spec.lockSha256),
    (text "sbom_sha256", .str spec.sbomSha256),
    (text "dependencies", .arr (order.map fun dependency =>
      .obj dependency.toDict)),
    (text "dependency_graph", .obj (order.map fun dependency =>
      (dependency.dependencyId,
        textArray (sortedTexts dependency.dependsOn)))),
    (text "mutable_roots", textArray (sortedTexts spec.mutableRoots)),
    (text "native_tools", textArray (sortedTexts spec.nativeTools)),
    (text "canonical_writes", .int 0),
    (text "grants_authority", .bool false),
    (text "factory_executes_install", .bool false)]

/-- `build_environment_profile`. -/
def buildEnvironmentProfile
    (spec : EnvironmentProfileSpec) (revoked : List Text) :
    Except Failure EnvironmentProfileRecord := do
  let order ← topologicalDependencyOrder spec.dependencies
  let assessed := statusFor order revoked
  let manifest := environmentManifest spec order
  let manifestId ← (objectId (.obj manifest)).mapError Failure.ofError
  pure
    { profileId := spec.profileId
      kind := spec.kind
      status := assessed.1
      reasons := assessed.2
      manifest := manifest ++ [(text "manifest_id", .str manifestId)] }

/-- The `manifest_id` of a built record. -/
def EnvironmentProfileRecord.manifestId
    (record : EnvironmentProfileRecord) : Json :=
  getOrNone (text "manifest_id") record.manifest

/-! ## The order is a topological one -/

/-- The dependencies of a list. -/
def DependsOn (dependencies : List EnvironmentDependency)
    (id other : Text) : Prop :=
  ∃ dependency ∈ dependencies,
    dependency.dependencyId = id ∧ other ∈ dependency.dependsOn

variable {dependencies : List EnvironmentDependency}

theorem mem_sortedTexts {values : List Text} {value : Text} :
    value ∈ sortedTexts values ↔ value ∈ values :=
  (List.perm_insertionSort _ _).mem_iff

theorem byId_eq_some_iff
    (distinct :
      (dependencies.map EnvironmentDependency.dependencyId).Nodup)
    {id : Text} {dependency : EnvironmentDependency} :
    byId dependencies id = some dependency ↔
      dependency ∈ dependencies ∧ dependency.dependencyId = id := by
  constructor
  · intro found
    exact ⟨List.mem_reverse.mp (List.mem_of_find?_eq_some found),
      by simpa using List.find?_some found⟩
  · rintro ⟨isDependency, rfl⟩
    cases found : byId dependencies dependency.dependencyId with
    | none =>
        have absent := List.find?_eq_none.mp found dependency
          (List.mem_reverse.mpr isDependency)
        simp at absent
    | some other =>
        have isOther := List.mem_reverse.mp
          (List.mem_of_find?_eq_some found)
        have sameId : other.dependencyId = dependency.dependencyId := by
          simpa using List.find?_some found
        rw [List.inj_on_of_nodup_map distinct isOther isDependency sameId]

theorem byId_isSome_iff {id : Text} :
    (byId dependencies id).isSome ↔ id ∈ sortedIds dependencies := by
  rw [byId, List.find?_isSome, sortedIds, mem_sortedTexts, List.mem_dedup,
    List.mem_map]
  simp

theorem leads_iff
    (distinct :
      (dependencies.map EnvironmentDependency.dependencyId).Nodup)
    {id other : Text} :
    Leads (byId dependencies) sortedChildren id other ↔
      DependsOn dependencies id other := by
  simp only [Leads, byId_eq_some_iff distinct, sortedChildren,
    mem_sortedTexts, DependsOn, and_assoc]

/-- The order is raised exactly on undeclared references and cycles. -/
theorem topologicalDependencyOrder_raises_iff
    (distinct :
      (dependencies.map EnvironmentDependency.dependencyId).Nodup) :
    (∃ failure, topologicalDependencyOrder dependencies =
        .error failure) ↔
      (∃ dependency ∈ dependencies, ∃ id ∈ dependency.dependsOn,
        id ∉ dependencies.map EnvironmentDependency.dependencyId) ∨
      ∃ id, Relation.TransGen (DependsOn dependencies) id id := by
  have raises : (∃ failure, topologicalDependencyOrder dependencies =
      .error failure) ↔
      ∃ obstacle, depthFirst (byId dependencies) sortedChildren
        ((sortedIds dependencies).length + 1) (sortedIds dependencies) =
          .error obstacle := by
    rw [topologicalDependencyOrder]
    cases depthFirst (byId dependencies) sortedChildren
        ((sortedIds dependencies).length + 1)
        (sortedIds dependencies) with
    | ok search => simp
    | error obstacle => simp
  have same : Leads (byId dependencies) sortedChildren =
      DependsOn dependencies := by
    funext id other
    exact propext (leads_iff distinct)
  have absent {id : Text} : byId dependencies id = none ↔
      id ∉ dependencies.map EnvironmentDependency.dependencyId := by
    rw [← Option.not_isSome_iff_eq_none, byId_isSome_iff, sortedIds,
      mem_sortedTexts, List.mem_dedup]
  rw [raises, depthFirst_stops_iff fun _ => byId_isSome_iff, same]
  refine or_congr_left ?_
  simp only [absent, DependsOn]
  constructor
  · rintro ⟨_, id, ⟨dependency, isDependency, _, isNamed⟩, undeclared⟩
    exact ⟨dependency, isDependency, id, isNamed, undeclared⟩
  · rintro ⟨dependency, isDependency, id, isNamed, undeclared⟩
    exact ⟨dependency.dependencyId, id,
      ⟨dependency, isDependency, rfl, isNamed⟩, undeclared⟩

theorem depthFirst_of_order
    {order : List EnvironmentDependency}
    (returned : topologicalDependencyOrder dependencies = .ok order) :
    ∃ search, depthFirst (byId dependencies) sortedChildren
        ((sortedIds dependencies).length + 1) (sortedIds dependencies) =
          .ok search ∧ search.ordered = order := by
  rw [topologicalDependencyOrder] at returned
  split at returned
  · next search ran =>
      exact ⟨search, ran, Except.ok.inj returned⟩
  · cases returned

/-- The ids of the contents of a search are the nodes it placed. -/
theorem ids_of_contents
    (distinct :
      (dependencies.map EnvironmentDependency.dependencyId).Nodup)
    {visited : List Text} {ordered : List EnvironmentDependency}
    (contents : List.Forall₂
      (fun id dependency => byId dependencies id = some dependency)
      visited ordered) :
    ordered.map EnvironmentDependency.dependencyId = visited ∧
      ∀ dependency ∈ ordered, dependency ∈ dependencies := by
  induction contents with
  | nil => simp
  | cons found _ induction =>
      obtain ⟨isDependency, isId⟩ := (byId_eq_some_iff distinct).mp found
      obtain ⟨ids, each⟩ := induction
      refine ⟨by rw [List.map_cons, ids, isId], ?_⟩
      intro other isOther
      rcases List.mem_cons.mp isOther with rfl | later
      · exact isDependency
      · exact each other later

/-- The order is a permutation of the dependencies. -/
theorem order_perm
    (distinct :
      (dependencies.map EnvironmentDependency.dependencyId).Nodup)
    {order : List EnvironmentDependency}
    (returned : topologicalDependencyOrder dependencies = .ok order) :
    order.Perm dependencies := by
  obtain ⟨search, ran, rfl⟩ := depthFirst_of_order returned
  have visits := visits_depthFirst ran
  obtain ⟨ids, each⟩ := ids_of_contents distinct visits.placing.contents
  have orderDistinct : (search.ordered.map
      EnvironmentDependency.dependencyId).Nodup := by
    rw [ids]
    exact visits.placing.distinct
  refine (List.perm_ext_iff_of_nodup (List.Nodup.of_map _ orderDistinct)
    (List.Nodup.of_map _ distinct)).mpr fun dependency =>
      ⟨each dependency, fun isDependency => ?_⟩
  have isPlaced : dependency.dependencyId ∈ search.visited := by
    refine visits.placed _ (byId_isSome_iff.mp ?_)
    rw [(byId_eq_some_iff distinct).mpr ⟨isDependency, rfl⟩]
    rfl
  rw [← ids, List.mem_map] at isPlaced
  obtain ⟨other, isOther, sameId⟩ := isPlaced
  rw [← List.inj_on_of_nodup_map distinct (each other isOther)
    isDependency sameId]
  exact isOther

/-- Every dependency comes after all it depends on. -/
theorem order_after
    (distinct :
      (dependencies.map EnvironmentDependency.dependencyId).Nodup)
    {order : List EnvironmentDependency}
    (returned : topologicalDependencyOrder dependencies = .ok order)
    {earlier later : List EnvironmentDependency}
    {dependency : EnvironmentDependency}
    (isSplit : order = earlier ++ dependency :: later) :
    ∀ id ∈ dependency.dependsOn,
      id ∈ earlier.map EnvironmentDependency.dependencyId := by
  have isDependency : dependency ∈ dependencies := by
    refine (order_perm distinct returned).mem_iff.mp ?_
    rw [isSplit]
    simp
  obtain ⟨search, ran, rfl⟩ := depthFirst_of_order returned
  have visits := visits_depthFirst ran
  obtain ⟨ids, _⟩ := ids_of_contents distinct visits.placing.contents
  rw [isSplit, List.map_append, List.map_cons] at ids
  intro id isNamed
  exact visits.placing.after _ _ _ ids.symm id
    ((leads_iff distinct).mpr ⟨dependency, isDependency, rfl, isNamed⟩)

/-! ## Rearranged specifications -/

theorem sortedTexts_perm {left right : List Text}
    (same : left.Perm right) : sortedTexts left = sortedTexts right :=
  List.Perm.eq_of_pairwise (fun _ _ _ _ first second =>
      le_antisymm first second)
    (List.pairwise_insertionSort _ _) (List.pairwise_insertionSort _ _)
    (((List.perm_insertionSort _ _).trans same).trans
      (List.perm_insertionSort _ _).symm)

/-- The order of the input does not matter. -/
theorem topologicalDependencyOrder_perm
    {others : List EnvironmentDependency}
    (distinct :
      (dependencies.map EnvironmentDependency.dependencyId).Nodup)
    (same : dependencies.Perm others) :
    topologicalDependencyOrder dependencies =
      topologicalDependencyOrder others := by
  have otherDistinct := (same.map _).nodup_iff.mp distinct
  have sameIds : sortedIds dependencies = sortedIds others :=
    sortedTexts_perm (same.map _).dedup
  have sameFind : byId dependencies = byId others := by
    funext id
    apply Option.ext
    intro dependency
    rw [byId_eq_some_iff distinct, byId_eq_some_iff otherDistinct,
      same.mem_iff]
  rw [topologicalDependencyOrder, topologicalDependencyOrder, sameIds,
    sameFind]

/-- A dependency with the ids that it names in order. -/
def EnvironmentDependency.arranged (dependency : EnvironmentDependency) :
    EnvironmentDependency :=
  { dependency with dependsOn := sortedTexts dependency.dependsOn }

theorem sortedTexts_sortedTexts (values : List Text) :
    sortedTexts (sortedTexts values) = sortedTexts values :=
  sortedTexts_perm (List.perm_insertionSort _ _)

theorem byId_arranged (id : Text) :
    byId (dependencies.map EnvironmentDependency.arranged) id =
      (byId dependencies id).map EnvironmentDependency.arranged := by
  rw [byId, byId, ← List.map_reverse, List.find?_map]
  rfl

/-- The order sees the ids that a dependency names only in their order. -/
theorem topologicalDependencyOrder_arranged :
    topologicalDependencyOrder
        (dependencies.map EnvironmentDependency.arranged) =
      (topologicalDependencyOrder dependencies).map
        (List.map EnvironmentDependency.arranged) := by
  have sameIds : sortedIds
      (dependencies.map EnvironmentDependency.arranged) =
        sortedIds dependencies := by
    rw [sortedIds, List.map_map]
    rfl
  have searched : depthFirst
      (byId (dependencies.map EnvironmentDependency.arranged))
      sortedChildren ((sortedIds dependencies).length + 1)
      (sortedIds dependencies) =
        (depthFirst (byId dependencies) sortedChildren
          ((sortedIds dependencies).length + 1)
          (sortedIds dependencies)).map
            (Search.map EnvironmentDependency.arranged) :=
    depthFirst_map (fun id => byId_arranged id)
      (fun dependency => sortedTexts_sortedTexts dependency.dependsOn) _ _
  rw [topologicalDependencyOrder, topologicalDependencyOrder, sameIds,
    searched]
  cases depthFirst (byId dependencies) sortedChildren
      ((sortedIds dependencies).length + 1) (sortedIds dependencies) with
  | ok search => rfl
  | error obstacle => rfl

/-- Two dependencies that differ in the order of what they name. -/
structure Reordered (left right : EnvironmentDependency) : Prop where
  dependencyId : left.dependencyId = right.dependencyId
  version : left.version = right.version
  licenseSpdx : left.licenseSpdx = right.licenseSpdx
  artifactSha256 : left.artifactSha256 = right.artifactSha256
  dependsOn : left.dependsOn.Perm right.dependsOn

theorem Reordered.arranged_eq
    {left right : EnvironmentDependency} (same : Reordered left right) :
    left.arranged = right.arranged := by
  rw [EnvironmentDependency.arranged, EnvironmentDependency.arranged,
    same.dependencyId, same.version, same.licenseSpdx,
    same.artifactSha256, sortedTexts_perm same.dependsOn]

/-- Two specifications that differ in the order of their lists. -/
structure Rearranged (left right : EnvironmentProfileSpec) : Prop where
  profileId : left.profileId = right.profileId
  kind : left.kind = right.kind
  lockSha256 : left.lockSha256 = right.lockSha256
  sbomSha256 : left.sbomSha256 = right.sbomSha256
  dependencies : ∃ middle, left.dependencies.Perm middle ∧
    List.Forall₂ Reordered middle right.dependencies
  mutableRoots : left.mutableRoots.Perm right.mutableRoots
  nativeTools : left.nativeTools.Perm right.nativeTools

theorem map_arranged_of_forall₂
    {left right : List EnvironmentDependency}
    (same : List.Forall₂ Reordered left right) :
    left.map EnvironmentDependency.arranged =
      right.map EnvironmentDependency.arranged := by
  induction same with
  | nil => rfl
  | cons head _ induction =>
      rw [List.map_cons, List.map_cons, head.arranged_eq, induction]

theorem Rearranged.order_eq
    {left right : EnvironmentProfileSpec} (same : Rearranged left right) :
    (topologicalDependencyOrder left.dependencies).map
        (List.map EnvironmentDependency.arranged) =
      (topologicalDependencyOrder right.dependencies).map
        (List.map EnvironmentDependency.arranged) := by
  obtain ⟨middle, permuted, pointwise⟩ := same.dependencies
  rw [topologicalDependencyOrder_perm left.distinct permuted,
    ← topologicalDependencyOrder_arranged,
    ← topologicalDependencyOrder_arranged,
    map_arranged_of_forall₂ pointwise]

/-- The manifest sees what a dependency names only in its order. -/
theorem environmentManifest_arranged
    (spec : EnvironmentProfileSpec) (order : List EnvironmentDependency) :
    environmentManifest spec
        (order.map EnvironmentDependency.arranged) =
      environmentManifest spec order := by
  have toDict (dependency : EnvironmentDependency) :
      dependency.arranged.toDict = dependency.toDict := by
    rw [EnvironmentDependency.toDict, EnvironmentDependency.toDict]
    simp only [EnvironmentDependency.arranged, sortedTexts_sortedTexts]
  rw [environmentManifest, environmentManifest, List.map_map,
    List.map_map]
  simp only [Function.comp_def, toDict]
  simp only [EnvironmentDependency.arranged, sortedTexts_sortedTexts]

theorem Rearranged.manifest_eq
    {left right : EnvironmentProfileSpec} (same : Rearranged left right)
    (order : List EnvironmentDependency) :
    environmentManifest left order = environmentManifest right order := by
  rw [environmentManifest, environmentManifest, same.profileId, same.kind,
    same.lockSha256, same.sbomSha256, sortedTexts_perm same.mutableRoots,
    sortedTexts_perm same.nativeTools]

/-- The content address that is computed for a profile. -/
def addressOf (spec : EnvironmentProfileSpec) : Except Failure Text := do
  let order ← topologicalDependencyOrder spec.dependencies
  (objectId (.obj (environmentManifest spec order))).mapError
    Failure.ofError

theorem manifestId_eq_address
    (spec : EnvironmentProfileSpec) (revoked : List Text) :
    (buildEnvironmentProfile spec revoked).map
        EnvironmentProfileRecord.manifestId =
      (addressOf spec).map .str := by
  rw [buildEnvironmentProfile, addressOf]
  cases topologicalDependencyOrder spec.dependencies with
  | error failure => rfl
  | ok order =>
      dsimp only [bind, Except.bind]
      cases objectId (.obj (environmentManifest spec order)) with
      | error error => rfl
      | ok id => rfl

/-- Rearranging a specification keeps the address of its manifest. -/
theorem Rearranged.address_eq
    {left right : EnvironmentProfileSpec} (same : Rearranged left right) :
    addressOf left = addressOf right := by
  have orders := same.order_eq
  rw [addressOf, addressOf]
  cases fromLeft : topologicalDependencyOrder left.dependencies with
  | error failure =>
      cases fromRight : topologicalDependencyOrder right.dependencies with
      | error other =>
          rw [fromLeft, fromRight] at orders
          cases orders
          rfl
      | ok order =>
          rw [fromLeft, fromRight] at orders
          cases orders
  | ok order =>
      cases fromRight : topologicalDependencyOrder right.dependencies with
      | error other =>
          rw [fromLeft, fromRight] at orders
          cases orders
      | ok other =>
          rw [fromLeft, fromRight] at orders
          have sameOrder : order.map EnvironmentDependency.arranged =
              other.map EnvironmentDependency.arranged :=
            Except.ok.inj orders
          change (objectId (.obj (environmentManifest left order))).mapError
            _ = (objectId (.obj (environmentManifest right other))).mapError
              _
          rw [← environmentManifest_arranged left order, sameOrder,
            environmentManifest_arranged, same.manifest_eq]

/-! ## The status -/

theorem selectedIds_eq_nil_iff
    {selects : EnvironmentDependency → Bool}
    {order : List EnvironmentDependency} :
    selectedIds selects order = [] ↔
      ∀ dependency ∈ order, selects dependency = false := by
  have sorted := List.perm_insertionSort (· ≤ ·)
    ((order.filter selects).map EnvironmentDependency.dependencyId)
  rw [selectedIds, sortedTexts, ← List.length_eq_zero_iff,
    sorted.length_eq, List.length_eq_zero_iff, List.map_eq_nil_iff,
    List.filter_eq_nil_iff]
  simp

/-- An active profile has no revoked dependency and only allowed licences. -/
theorem statusFor_active
    {order : List EnvironmentDependency} {revoked : List Text}
    (isActive : (statusFor order revoked).1 = .active) :
    ∀ dependency ∈ order, dependency.dependencyId ∉ revoked ∧
      dependency.licenseSpdx ∈ licenseAllowlist := by
  rw [statusFor] at isActive
  split_ifs at isActive with isRevoked isUnknown isBarred
  rw [ne_eq, not_not, selectedIds_eq_nil_iff] at isRevoked
  rw [ne_eq, not_not, selectedIds_eq_nil_iff] at isUnknown
  rw [ne_eq, not_not, selectedIds_eq_nil_iff] at isBarred
  intro dependency isDependency
  have known := isUnknown dependency isDependency
  have compatible := isBarred dependency isDependency
  refine ⟨by simpa using isRevoked dependency isDependency, ?_⟩
  simpa [hasUnknownLicense, compatible] using known

/-! ## Environment profiles -/

/--
The order of distinct dependencies is refused exactly on an undeclared
reference or a cycle; otherwise it is a permutation in which every dependency
comes after all it depends on, whatever the order of the input.  Rearranging
a specification keeps its `manifest_id`, and an active profile has no revoked
dependency and only allowed licences.
-/
theorem environment_order_sound :
    (∀ dependencies : List EnvironmentDependency,
      (dependencies.map EnvironmentDependency.dependencyId).Nodup →
        ((∃ failure, topologicalDependencyOrder dependencies =
            .error failure) ↔
          (∃ dependency ∈ dependencies, ∃ id ∈ dependency.dependsOn,
            id ∉ dependencies.map EnvironmentDependency.dependencyId) ∨
          ∃ id, Relation.TransGen (DependsOn dependencies) id id) ∧
        (∀ order, topologicalDependencyOrder dependencies = .ok order →
          order.Perm dependencies ∧
          ∀ (earlier : List EnvironmentDependency) dependency later,
            order = earlier ++ dependency :: later →
            ∀ id ∈ dependency.dependsOn,
              id ∈ earlier.map EnvironmentDependency.dependencyId) ∧
        ∀ others, dependencies.Perm others →
          topologicalDependencyOrder others =
            topologicalDependencyOrder dependencies) ∧
    (∀ left right : EnvironmentProfileSpec, Rearranged left right →
      ∀ revoked,
        (buildEnvironmentProfile left revoked).map
            EnvironmentProfileRecord.manifestId =
          (buildEnvironmentProfile right revoked).map
            EnvironmentProfileRecord.manifestId) ∧
    ∀ spec revoked record,
      buildEnvironmentProfile spec revoked = .ok record →
      record.status = .active →
        ∀ dependency ∈ spec.dependencies,
          dependency.dependencyId ∉ revoked ∧
            dependency.licenseSpdx ∈ licenseAllowlist := by
  refine ⟨?_, ?_, ?_⟩
  · intro dependencies distinct
    refine ⟨topologicalDependencyOrder_raises_iff distinct, ?_, ?_⟩
    · intro order returned
      exact ⟨order_perm distinct returned,
        fun _ _ _ isSplit => order_after distinct returned isSplit⟩
    · intro others same
      exact (topologicalDependencyOrder_perm distinct same).symm
  · intro left right same revoked
    rw [manifestId_eq_address, manifestId_eq_address, same.address_eq]
  · intro spec revoked record built isActive dependency isDependency
    simp only [buildEnvironmentProfile, bind_eq_ok_iff, pure_eq_ok_iff]
      at built
    obtain ⟨order, ordered, _, _, rfl⟩ := built
    exact statusFor_active isActive dependency
      ((order_perm spec.distinct ordered).mem_iff.mpr isDependency)

/-- A dependency of these runs. -/
def dependencyNamed (id : String) (dependsOn : List Text) :
    EnvironmentDependency :=
  ⟨text id, text "1.0", text "MIT", text "sha256:00", dependsOn⟩

/-- What a dependency needs comes before it, and must be declared. -/
theorem environment_order_sound_pair :
    (∃ failure, topologicalDependencyOrder
      [dependencyNamed "b" [text "a"]] = .error failure) ∧
    ∃ order, topologicalDependencyOrder
        [dependencyNamed "b" [text "a"], dependencyNamed "a" []] =
          .ok order ∧
      order.Perm
        [dependencyNamed "b" [text "a"], dependencyNamed "a" []] := by
  constructor
  · exact (environment_order_sound.1 _ (by decide)).1.mpr
      (.inl ⟨_, List.mem_cons_self, text "a", List.mem_cons_self, by decide⟩)
  · exact ⟨_, rfl, ((environment_order_sound.1 _ (by decide)).2.1 _ rfl).1⟩

end ScientificResourceLab.Packs
