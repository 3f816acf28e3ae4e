import ScientificResourceLab.Graphs.TopologicalOrder
import Mathlib.Data.Fintype.Card
import Mathlib.Data.Fintype.EquivFin
import Mathlib.Data.Fintype.Sets
import Mathlib.Data.List.Lex
import Mathlib.Order.WellFounded

/-!
# The order that Kahn's algorithm finds

With a sorted frontier the algorithm is greedy: it always places the smallest
node whose dependencies are placed.  Greedy orders that cannot be continued
are unique, so the result depends on the set of nodes only, and among the
complete orders the greedy one is the least: at the first place where another
order differs, the node there was ready for the greedy order as well.

The algorithm stops short of all nodes only when the dependencies have a
cycle, since otherwise some node that is not placed has all its dependencies
placed.
-/

namespace ScientificResourceLab.Graphs

variable {α : Type*}

/-- A node that could be placed next. -/
structure Enabled (nodes : List α) (deps : α → Finset α)
    (placed : List α) (node : α) : Prop where
  isNode : node ∈ nodes
  fresh : node ∉ placed
  met : ∀ dependency ∈ deps node, dependency ∈ placed

/-- An order of some of the nodes that places no node too early. -/
structure Feasible (nodes : List α) (deps : α → Finset α)
    (order : List α) : Prop where
  distinct : order.Nodup
  included : order ⊆ nodes
  respects : Respects deps order

/-- An order that cannot be continued. -/
def Stuck (nodes : List α) (deps : α → Finset α) (order : List α) :
    Prop :=
  ∀ node, ¬ Enabled nodes deps order node

/-- The next node of a feasible order could be placed. -/
theorem Feasible.enabled
    {nodes : List α} {deps : α → Finset α} {earlier later : List α}
    {node : α} (feasible : Feasible nodes deps (earlier ++ node :: later)) :
    Enabled nodes deps earlier node where
  isNode := feasible.included
    (List.mem_append_right _ List.mem_cons_self)
  fresh := by
    intro isEarlier
    exact (List.nodup_append.mp feasible.distinct).2.2 node isEarlier node
      List.mem_cons_self rfl
  met := feasible.respects earlier node later rfl

section

variable [LinearOrder α]

/-- An order that always places the smallest node that could be placed. -/
def Greedy (nodes : List α) (deps : α → Finset α) (order : List α) :
    Prop :=
  ∀ earlier node later, order = earlier ++ node :: later →
    ∀ other, Enabled nodes deps earlier other → node ≤ other

/-! ## Greedy orders -/

/-- A greedy order that cannot be continued is unique. -/
theorem Greedy.unique
    {nodes : List α} {deps : α → Finset α} {first second : List α}
    (firstFeasible : Feasible nodes deps first)
    (secondFeasible : Feasible nodes deps second)
    (firstGreedy : Greedy nodes deps first)
    (secondGreedy : Greedy nodes deps second)
    (firstStuck : Stuck nodes deps first)
    (secondStuck : Stuck nodes deps second) : first = second := by
  have agree (rest others placed : List α)
      (isFirst : first = placed ++ rest)
      (isSecond : second = placed ++ others) : rest = others := by
    induction rest generalizing others placed with
    | nil =>
        cases others with
        | nil => rfl
        | cons node later =>
            rw [isSecond] at secondFeasible
            rw [isFirst, List.append_nil] at firstStuck
            exact absurd secondFeasible.enabled (firstStuck node)
    | cons node later induction =>
        have firstEnabled : Enabled nodes deps placed node := by
          rw [isFirst] at firstFeasible
          exact firstFeasible.enabled
        cases others with
        | nil =>
            rw [isSecond, List.append_nil] at secondStuck
            exact absurd firstEnabled (secondStuck node)
        | cons other others =>
            have secondEnabled : Enabled nodes deps placed other := by
              rw [isSecond] at secondFeasible
              exact secondFeasible.enabled
            have same : node = other := le_antisymm
              (firstGreedy placed node later isFirst other secondEnabled)
              (secondGreedy placed other others isSecond node firstEnabled)
            subst same
            rw [induction others (placed ++ [node])
              (by rw [isFirst, List.append_assoc]; rfl)
              (by rw [isSecond, List.append_assoc]; rfl)]
  exact agree first second [] rfl rfl

/-- A greedy order is the least of the orders of the same length. -/
theorem Greedy.le
    {nodes : List α} {deps : α → Finset α} {first second : List α}
    (greedy : Greedy nodes deps first)
    (feasible : Feasible nodes deps second)
    (sameLength : first.length = second.length) : first ≤ second := by
  have least (rest others placed : List α)
      (isFirst : first = placed ++ rest)
      (isSecond : second = placed ++ others) : rest ≤ others := by
    induction rest generalizing others placed with
    | nil =>
        cases others with
        | nil => exact le_rfl
        | cons other others =>
            rw [isFirst, isSecond] at sameLength
            simp at sameLength
    | cons node later induction =>
        cases others with
        | nil =>
            rw [isFirst, isSecond] at sameLength
            simp at sameLength
        | cons other others =>
            have enabled : Enabled nodes deps placed other := by
              rw [isSecond] at feasible
              exact feasible.enabled
            rcases (greedy placed node later isFirst other
              enabled).lt_or_eq with smaller | rfl
            · exact le_of_lt (List.Lex.rel smaller)
            · exact List.cons_le_cons node (induction others
                (placed ++ [node])
                (by rw [isFirst, List.append_assoc]; rfl)
                (by rw [isSecond, List.append_assoc]; rfl))
  exact least first second [] rfl rfl

/-- The smallest node that could be placed continues a greedy order. -/
theorem Greedy.concat
    {nodes : List α} {deps : α → Finset α} {order : List α} {node : α}
    (greedy : Greedy nodes deps order)
    (least : ∀ other, Enabled nodes deps order other → node ≤ other) :
    Greedy nodes deps (order ++ [node]) := by
  intro earlier next later split
  rcases List.eq_nil_or_concat later with rfl | ⟨front, last, rfl⟩
  · obtain ⟨rfl, sameNode⟩ := List.append_inj' split (by simp)
    obtain rfl := List.singleton_injective sameNode
    exact least
  · rw [List.concat_eq_append, ← List.cons_append, ← List.append_assoc]
      at split
    obtain ⟨sameOrder, _⟩ := List.append_inj' split (by simp)
    exact greedy earlier next front sameOrder

/-! ## The loop is greedy -/

section Round

variable {nodes : List α} {deps : α → Finset α} {frontier : Frontier α}

/-- A node that could be placed is ready. -/
theorem Settled.mem_ready
    (settled : Settled nodes deps frontier) {node : α}
    (enabled : Enabled nodes deps frontier.order node) :
    node ∈ frontier.ready := by
  have none : (deps node).filter (· ∉ frontier.order) = ∅ :=
    Finset.filter_eq_empty_iff.mpr fun dependency needed =>
      not_not.mpr (enabled.met dependency needed)
  have zero : frontier.counts node = 0 := by
    rw [settled.counts node enabled.isNode, none]
    rfl
  rcases List.mem_append.mp
    ((settled.reached node).mpr ⟨enabled.isNode, zero⟩) with
    placed | isReady
  · exact absurd placed enabled.fresh
  · exact isReady

theorem Settled.feasible
    (settled : Settled nodes deps frontier) :
    Feasible nodes deps frontier.order where
  distinct := settled.distinct.of_append_left
  included := fun node member =>
    ((settled.reached node).mp (List.mem_append_left _ member)).1
  respects := settled.respects

/-- The loop keeps its order greedy. -/
theorem Greedy.placeAll
    (fuel : Nat) (settled : Settled nodes deps frontier)
    (greedy : Greedy nodes deps frontier.order) :
    Greedy nodes deps (placeAll nodes deps fuel frontier).order := by
  induction fuel generalizing frontier with
  | zero => exact greedy
  | succ fuel induction =>
      rw [Graphs.placeAll]
      split
      · exact greedy
      · next node others sorted =>
          have chosen := (List.perm_insertionSort (· ≤ ·)
            frontier.ready).symm
          have ordered := List.pairwise_insertionSort (· ≤ ·)
            frontier.ready
          rw [sorted] at chosen ordered
          refine induction (settled.place chosen) (greedy.concat ?_)
          intro other enabled
          rcases List.mem_cons.mp
            (chosen.mem_iff.mp (settled.mem_ready enabled)) with
            rfl | isOther
          · exact le_rfl
          · exact (List.pairwise_cons.mp ordered).1 other isOther

/-- With a round for every node, the loop goes on until none is ready. -/
theorem Settled.ready_eq_nil
    (fuel : Nat) (settled : Settled nodes deps frontier)
    (enough : nodes.length ≤ frontier.order.length + fuel) :
    (Graphs.placeAll nodes deps fuel frontier).ready = [] := by
  induction fuel generalizing frontier with
  | zero =>
      have fewer : (frontier.order ++ frontier.ready).length ≤
          nodes.length :=
        (settled.distinct.subperm fun node member =>
          ((settled.reached node).mp member).1).length_le
      rw [List.length_append] at fewer
      rw [Graphs.placeAll]
      exact List.length_eq_zero_iff.mp (by omega)
  | succ fuel induction =>
      rw [Graphs.placeAll]
      split
      · next sorted =>
          have perm := List.perm_insertionSort (· ≤ ·) frontier.ready
          rw [sorted] at perm
          exact perm.symm.eq_nil
      · next node others sorted =>
          have chosen := (List.perm_insertionSort (· ≤ ·)
            frontier.ready).symm
          rw [sorted] at chosen
          refine induction (settled.place chosen) ?_
          rw [Graphs.place, List.length_append, List.length_singleton]
          omega

end Round

/-! ## What the algorithm returns -/

section

variable {nodes : List α} (distinct : nodes.Nodup) (deps : α → Finset α)

include distinct

theorem kahnOrder_feasible :
    Feasible nodes deps (kahnOrder nodes deps) :=
  ((settled_initial distinct deps).placeAll nodes.length).feasible

theorem kahnOrder_greedy : Greedy nodes deps (kahnOrder nodes deps) := by
  refine Greedy.placeAll nodes.length (settled_initial distinct deps) ?_
  intro earlier node later split
  exact absurd (congrArg List.length split) (by simp [initialFrontier])

theorem kahnOrder_stuck : Stuck nodes deps (kahnOrder nodes deps) := by
  intro node enabled
  have settled := settled_initial distinct deps
  have isReady := (settled.placeAll nodes.length).mem_ready enabled
  rw [settled.ready_eq_nil nodes.length (Nat.le_add_left _ _)] at isReady
  exact absurd isReady List.not_mem_nil

/-- The order of the nodes does not matter. -/
theorem kahnOrder_perm {others : List α} (same : others.Perm nodes) :
    kahnOrder others deps = kahnOrder nodes deps := by
  have otherDistinct := same.nodup_iff.mpr distinct
  have enabled_iff {placed : List α} {node : α} :
      Enabled others deps placed node ↔ Enabled nodes deps placed node :=
    ⟨fun ⟨isNode, fresh, met⟩ => ⟨same.mem_iff.mp isNode, fresh, met⟩,
      fun ⟨isNode, fresh, met⟩ => ⟨same.mem_iff.mpr isNode, fresh, met⟩⟩
  have feasible := kahnOrder_feasible otherDistinct deps
  have greedy := kahnOrder_greedy otherDistinct deps
  have stuck := kahnOrder_stuck otherDistinct deps
  simp only [Greedy, Stuck, enabled_iff] at greedy stuck
  exact Greedy.unique
    ⟨feasible.distinct,
      List.Subset.trans feasible.included same.subset,
      feasible.respects⟩
    (kahnOrder_feasible distinct deps) greedy
    (kahnOrder_greedy distinct deps) stuck (kahnOrder_stuck distinct deps)

/-- Without a cycle among its nodes, the algorithm places all of them. -/
theorem kahnOrder_complete
    (closed : ∀ node ∈ nodes, ∀ dependency ∈ deps node,
      dependency ∈ nodes)
    (acyclic : ∀ node ∈ nodes,
      ¬ Relation.TransGen (fun first second => first ∈ deps second)
        node node) :
    (kahnOrder nodes deps).length = nodes.length := by
  have feasible := kahnOrder_feasible distinct deps
  refine le_antisymm (feasible.distinct.subperm
    feasible.included).length_le ?_
  refine (distinct.subperm ?_).length_le
  -- Below a node that is not placed, a minimal one could still be placed.
  let Before := fun first second : {node // node ∈ nodes} =>
    Relation.TransGen (fun first second => first ∈ deps second)
      first.val second.val
  have : IsTrans {node // node ∈ nodes} Before :=
    ⟨fun _ _ _ => Relation.TransGen.trans⟩
  have : Std.Irrefl Before :=
    ⟨fun node => acyclic node.val node.property⟩
  have founded : WellFounded Before :=
    Finite.wellFounded_of_trans_of_irrefl Before
  intro node isNode
  by_contra missing
  obtain ⟨least, notPlaced, minimal⟩ := founded.has_min
    {node | node.val ∉ kahnOrder nodes deps} ⟨⟨node, isNode⟩, missing⟩
  refine kahnOrder_stuck distinct deps least.val
    ⟨least.property, notPlaced, ?_⟩
  intro dependency needed
  by_contra absent
  exact minimal ⟨dependency, closed _ least.property _ needed⟩ absent
    (Relation.TransGen.single needed)

end

end

end ScientificResourceLab.Graphs
