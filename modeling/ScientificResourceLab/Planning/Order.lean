import ScientificResourceLab.Graphs.LeastOrder
import ScientificResourceLab.Planning.Planner

/-!
# The order of the profiles

`topological_order` on a dependency map over the profiles: it raises exactly
on a cycle, and otherwise it returns the least of all orders in which every
profile comes after its dependencies.
-/

namespace ScientificResourceLab.Planning

open Python Contracts Steps Graphs

/-- A dependency map over a list of profiles. -/
structure MapsOver (profiles : List Text)
    (deps : List (Text × List Text)) : Prop where
  covered : ∀ profile ∈ profiles, (deps.lookup profile).isSome
  closed : ∀ profile ∈ profiles, ∀ dependency ∈ neededBy deps profile,
    dependency ∈ profiles

/-- The first profile is a dependency of the second. -/
def DependencyOf (deps : List (Text × List Text)) (first second : Text) :
    Prop :=
  first ∈ needed deps second

/-- Some profile depends on itself through others. -/
def Cyclic (profiles : List Text) (deps : List (Text × List Text)) :
    Prop :=
  ∃ profile ∈ profiles,
    Relation.TransGen (DependencyOf deps) profile profile

/-- The refusal of a cycle, which names what was not placed. -/
def cycleDetected (profiles order : List Text) : PyError :=
  ⟨.planError,
    text "plan dependency cycle detected among profiles: " ++
      quotedList (sortedNames (profiles.filter (· ∉ order)))⟩

theorem sortedNames_perm {left right : List Text}
    (same : left.Perm right) : sortedNames left = sortedNames right :=
  List.Perm.eq_of_pairwise (fun _ _ _ _ => le_antisymm)
    (List.pairwise_insertionSort _ _) (List.pairwise_insertionSort _ _)
    (((List.perm_insertionSort _ _).trans same.dedup).trans
      (List.perm_insertionSort _ _).symm)

section

variable {profiles : List Text} {deps : List (Text × List Text)}

/-- On a map over the profiles no key is missing. -/
theorem topologicalOrder_eq (mapsOver : MapsOver profiles deps) :
    topologicalOrder profiles deps =
      if (kahnOrder profiles (needed deps)).length = profiles.length then
        .ok (kahnOrder profiles (needed deps))
      else .error (cycleDetected profiles
        (kahnOrder profiles (needed deps))) := by
  have covered : profiles.find?
      (fun profile => deps.lookup profile = none) = none := by
    rw [List.find?_eq_none]
    intro profile isProfile missing
    have isSome := mapsOver.covered profile isProfile
    rw [of_decide_eq_true missing] at isSome
    cases isSome
  have closed : (profiles.flatMap (neededBy deps)).find?
      (· ∉ profiles) = none := by
    rw [List.find?_eq_none]
    intro dependency isDependency outside
    obtain ⟨profile, isProfile, isNeeded⟩ :=
      List.mem_flatMap.mp isDependency
    exact of_decide_eq_true outside
      (mapsOver.closed profile isProfile dependency isNeeded)
  rw [topologicalOrder, covered, closed]
  by_cases complete :
      (kahnOrder profiles (needed deps)).length = profiles.length
  · rw [if_pos complete]
    exact if_neg (not_not.mpr complete)
  · rw [if_neg complete]
    exact if_pos complete

/-- All profiles are placed exactly when there is no cycle. -/
theorem kahnOrder_complete_iff
    (distinct : profiles.Nodup) (mapsOver : MapsOver profiles deps) :
    (kahnOrder profiles (needed deps)).length = profiles.length ↔
      ¬ Cyclic profiles deps := by
  constructor
  · rintro complete ⟨profile, isProfile, cycle⟩
    obtain ⟨perm, respects⟩ := kahnOrder_sound distinct _ complete
    exact respects.acyclic (perm.mem_iff.mpr isProfile) cycle
  · intro acyclic
    refine kahnOrder_complete distinct _ ?_ ?_
    · intro profile isProfile dependency isNeeded
      exact mapsOver.closed profile isProfile dependency
        (List.mem_toFinset.mp isNeeded)
    · exact fun profile isProfile cycle =>
        acyclic ⟨profile, isProfile, cycle⟩

/-- What a topological sort returns on acyclic dependencies. -/
structure LeastSort (profiles : List Text)
    (deps : List (Text × List Text)) (order : List Text) : Prop where
  perm : order.Perm profiles
  respects : Respects (needed deps) order
  least : ∀ other : List Text, other.Perm profiles →
    Respects (needed deps) other → order ≤ other

theorem topologicalOrder_perm
    (distinct : profiles.Nodup) (mapsOver : MapsOver profiles deps)
    {others : List Text} (same : others.Perm profiles) :
    topologicalOrder others deps = topologicalOrder profiles deps := by
  have otherMap : MapsOver others deps :=
    { covered := fun profile isProfile =>
        mapsOver.covered profile (same.mem_iff.mp isProfile)
      closed := fun profile isProfile dependency isNeeded =>
        same.mem_iff.mpr (mapsOver.closed profile
          (same.mem_iff.mp isProfile) dependency isNeeded) }
  have names (order : List Text) :
      cycleDetected others order = cycleDetected profiles order := by
    rw [cycleDetected, cycleDetected,
      sortedNames_perm (same.filter _)]
  rw [topologicalOrder_eq mapsOver, topologicalOrder_eq otherMap,
    kahnOrder_perm distinct _ same, same.length_eq, names]

/--
The topological sort of the profiles raises `PlanError` exactly on a cycle,
otherwise returns the least order that respects the dependencies, and does
not depend on the order of its input.
-/
theorem topologicalOrder_least
    (distinct : profiles.Nodup) (mapsOver : MapsOver profiles deps) :
    ((∃ error, topologicalOrder profiles deps = .error error ∧
        error.kind = .planError) ↔ Cyclic profiles deps) ∧
      (¬ Cyclic profiles deps → ∃ order,
        topologicalOrder profiles deps = .ok order ∧
          LeastSort profiles deps order) ∧
      ∀ others : List Text, others.Perm profiles →
        topologicalOrder others deps = topologicalOrder profiles deps := by
  have complete := kahnOrder_complete_iff distinct mapsOver
  refine ⟨?_, ?_, fun _ same =>
    topologicalOrder_perm distinct mapsOver same⟩
  · rw [topologicalOrder_eq mapsOver]
    split_ifs with isComplete
    · exact ⟨nofun, fun cyclic => absurd cyclic (complete.mp isComplete)⟩
    · exact ⟨fun _ => by_contra (isComplete ∘ complete.mpr),
        fun _ => ⟨_, rfl, rfl⟩⟩
  · intro acyclic
    have isComplete := complete.mpr acyclic
    obtain ⟨perm, respects⟩ := kahnOrder_sound distinct _ isComplete
    refine ⟨_, (topologicalOrder_eq mapsOver).trans (if_pos isComplete),
      perm, respects, ?_⟩
    intro other otherPerm otherRespects
    exact (kahnOrder_greedy distinct _).le
      ⟨otherPerm.nodup_iff.mpr distinct, otherPerm.subset, otherRespects⟩
      (isComplete.trans otherPerm.length_eq.symm)

end

/-- Steps of which two wait for a third. -/
def forkedDeps : List (Text × List Text) :=
  [(text "optimization", [text "dynamics"]),
    (text "algebra_exact", [text "dynamics"]), (text "dynamics", [])]

theorem topologicalOrder_least_forked :
    ((∃ error, topologicalOrder (forkedDeps.map Prod.fst) forkedDeps =
          .error error ∧ error.kind = .planError) ↔
        Cyclic (forkedDeps.map Prod.fst) forkedDeps) ∧
      topologicalOrder (forkedDeps.map Prod.fst) forkedDeps =
        .ok [text "dynamics", text "algebra_exact",
          text "optimization"] :=
  ⟨(topologicalOrder_least (by decide)
      { covered := by decide, closed := by decide }).1,
    by decide⟩

end ScientificResourceLab.Planning
