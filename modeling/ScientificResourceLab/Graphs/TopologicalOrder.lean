import Mathlib.Algebra.Order.Ring.Int
import Mathlib.Data.Finset.Card
import Mathlib.Data.Nat.Cast.Order.Ring
import Mathlib.Data.List.Dedup
import Mathlib.Data.List.Sort
import Mathlib.Logic.Relation

/-!
# Kahn's algorithm with a sorted frontier

The algorithm keeps, for every node, the number of dependencies that are not
yet placed, and a list of the nodes that are ready.  Each round places the
smallest ready node and lowers the counts of the nodes that depend on it; a
node whose count reaches zero becomes ready.

`Settled` is the invariant of the loop: the counts are exact, the nodes of
count zero are those placed or ready, each once, and every placed node comes
after its dependencies.  One round keeps it, hence so does the loop, and an
order as long as the list of nodes is a permutation of it.
-/

namespace ScientificResourceLab.Graphs

variable {α : Type*} [LinearOrder α]

/-- Every node of a list comes after its dependencies. -/
def Respects (deps : α → Finset α) (order : List α) : Prop :=
  ∀ earlier node later, order = earlier ++ node :: later →
    ∀ dependency ∈ deps node, dependency ∈ earlier

/-- The loop state of the algorithm. -/
structure Frontier (α : Type*) where
  counts : α → Int
  ready : List α
  order : List α

/-- The nodes that depend on a node, in increasing order. -/
def dependents (nodes : List α) (deps : α → Finset α) (node : α) :
    List α :=
  ((nodes.filter (node ∈ deps ·)).dedup).insertionSort (· ≤ ·)

/-- Lower the count of one node; it becomes ready at zero. -/
def release (lowered : (α → Int) × List α) (node : α) :
    (α → Int) × List α :=
  let count := lowered.1 node - 1
  (Function.update lowered.1 node count,
    if count = 0 then lowered.2 ++ [node] else lowered.2)

/-- Place a node whose turn it is, the other ready nodes being given. -/
def place
    (nodes : List α) (deps : α → Finset α) (frontier : Frontier α)
    (node : α) (others : List α) : Frontier α :=
  let lowered :=
    (dependents nodes deps node).foldl release (frontier.counts, others)
  ⟨lowered.1, lowered.2, frontier.order ++ [node]⟩

/-- The loop: place the smallest ready node until none is ready. -/
def placeAll (nodes : List α) (deps : α → Finset α) :
    Nat → Frontier α → Frontier α
  | 0, frontier => frontier
  | fuel + 1, frontier =>
      match frontier.ready.insertionSort (· ≤ ·) with
      | [] => frontier
      | node :: others =>
          placeAll nodes deps fuel (place nodes deps frontier node others)

/-- The counts and the ready nodes before the first round. -/
def initialFrontier (nodes : List α) (deps : α → Finset α) :
    Frontier α :=
  ⟨fun node => (deps node).card,
    (nodes.filter (fun node => (deps node).card = 0)).insertionSort
      (· ≤ ·), []⟩

/-- The nodes that the algorithm places; a round places one. -/
def kahnOrder (nodes : List α) (deps : α → Finset α) : List α :=
  (placeAll nodes deps nodes.length (initialFrontier nodes deps)).order

/-! ## Lowering the counts -/

theorem mem_dependents
    {nodes : List α} {deps : α → Finset α} {node dependent : α} :
    dependent ∈ dependents nodes deps node ↔
      dependent ∈ nodes ∧ node ∈ deps dependent := by
  simp [dependents]

theorem dependents_nodup
    (nodes : List α) (deps : α → Finset α) (node : α) :
    (dependents nodes deps node).Nodup :=
  (List.perm_insertionSort _ _).nodup_iff.mpr (List.nodup_dedup _)

theorem foldl_release_counts
    {released : List α} (distinct : released.Nodup)
    (lowered : (α → Int) × List α) (node : α) :
    (released.foldl release lowered).1 node =
      if node ∈ released then lowered.1 node - 1 else lowered.1 node := by
  induction released generalizing lowered with
  | nil => simp
  | cons first rest induction =>
      obtain ⟨fresh, distinctRest⟩ := List.nodup_cons.mp distinct
      rw [List.foldl_cons, induction distinctRest]
      by_cases same : node = first
      · subst same
        simp [release, fresh]
      · simp [release, same]

theorem foldl_release_ready
    {released : List α} (distinct : released.Nodup)
    (lowered : (α → Int) × List α) :
    (released.foldl release lowered).2 =
      lowered.2 ++ released.filter (fun node => lowered.1 node = 1) := by
  induction released generalizing lowered with
  | nil => simp
  | cons first rest induction =>
      obtain ⟨fresh, distinctRest⟩ := List.nodup_cons.mp distinct
      have unchanged :
          rest.filter (fun node => (release lowered first).1 node = 1) =
            rest.filter (fun node => lowered.1 node = 1) := by
        apply List.filter_congr
        intro node member
        have different : node ≠ first := by
          rintro rfl
          exact fresh member
        simp [release, different]
      rw [List.foldl_cons, induction distinctRest, unchanged]
      by_cases last : lowered.1 first = 1
      · simp [release, last]
      · have positive : ¬ lowered.1 first - 1 = 0 := by omega
        simp [release, last, positive]

/-! ## The loop invariant -/

/-- What holds between two rounds. -/
structure Settled
    (nodes : List α) (deps : α → Finset α) (frontier : Frontier α) :
    Prop where
  counts : ∀ node ∈ nodes, frontier.counts node =
    ((deps node).filter (· ∉ frontier.order)).card
  distinct : (frontier.order ++ frontier.ready).Nodup
  reached : ∀ node, node ∈ frontier.order ++ frontier.ready ↔
    node ∈ nodes ∧ frontier.counts node = 0
  respects : Respects deps frontier.order

theorem settled_initial
    {nodes : List α} (distinct : nodes.Nodup) (deps : α → Finset α) :
    Settled nodes deps (initialFrontier nodes deps) where
  counts := by
    intro node _
    simp [initialFrontier]
  distinct := by
    rw [initialFrontier, List.nil_append]
    exact (List.perm_insertionSort _ _).nodup_iff.mpr
      (distinct.filter _)
  reached := by
    intro node
    simp [initialFrontier]
  respects := by
    intro earlier node later split
    exact absurd (congrArg List.length split) (by simp [initialFrontier])

omit [LinearOrder α] in
/-- Placing a node whose dependencies are placed keeps the order. -/
theorem Respects.concat
    {deps : α → Finset α} {order : List α} {node : α}
    (respects : Respects deps order)
    (met : ∀ dependency ∈ deps node, dependency ∈ order) :
    Respects deps (order ++ [node]) := by
  intro earlier other later split
  rcases List.eq_nil_or_concat later with rfl | ⟨front, last, rfl⟩
  · obtain ⟨rfl, sameNode⟩ :=
      List.append_inj' split (by simp)
    obtain rfl := List.singleton_injective sameNode
    exact met
  · rw [List.concat_eq_append, ← List.cons_append, ← List.append_assoc]
      at split
    obtain ⟨sameOrder, _⟩ := List.append_inj' split (by simp)
    exact respects earlier other front sameOrder

/-- Counting one dependency less. -/
theorem card_filter_concat
    (needed : Finset α) (order : List α) (node : α)
    (fresh : node ∉ order) :
    ((needed.filter (· ∉ order ++ [node])).card : Int) =
      if node ∈ needed then ((needed.filter (· ∉ order)).card : Int) - 1
      else ((needed.filter (· ∉ order)).card : Int) := by
  have erased : needed.filter (· ∉ order ++ [node]) =
      (needed.filter (· ∉ order)).erase node := by
    ext other
    simp only [Finset.mem_filter, Finset.mem_erase, List.mem_append,
      List.mem_singleton]
    tauto
  rw [erased]
  by_cases needs : node ∈ needed
  · have member : node ∈ needed.filter (· ∉ order) :=
      Finset.mem_filter.mpr ⟨needs, fresh⟩
    have positive := Finset.card_pos.mpr ⟨node, member⟩
    rw [Finset.card_erase_of_mem member, if_pos needs,
      Nat.cast_sub positive, Nat.cast_one]
  · have absent : node ∉ needed.filter (· ∉ order) :=
      fun member => needs (Finset.mem_filter.mp member).1
    rw [Finset.erase_eq_of_notMem absent, if_neg needs]

/-- A placed or ready node has all its dependencies placed. -/
theorem Settled.met
    {nodes : List α} {deps : α → Finset α} {frontier : Frontier α}
    (settled : Settled nodes deps frontier) {node : α}
    (reached : node ∈ frontier.order ++ frontier.ready) :
    ∀ dependency ∈ deps node, dependency ∈ frontier.order := by
  obtain ⟨member, zero⟩ := (settled.reached node).mp reached
  rw [settled.counts node member] at zero
  have none := Finset.card_eq_zero.mp (Int.ofNat_eq_zero.mp zero)
  intro dependency needed
  by_contra missing
  exact Finset.filter_eq_empty_iff.mp none needed missing

/-- The counts after a round. -/
theorem place_counts
    {nodes : List α} (deps : α → Finset α) (frontier : Frontier α)
    (node : α) (others : List α) {other : α} (member : other ∈ nodes) :
    (place nodes deps frontier node others).counts other =
      if node ∈ deps other then frontier.counts other - 1
      else frontier.counts other := by
  rw [place]
  simp only
  rw [foldl_release_counts (dependents_nodup nodes deps node)]
  simp [mem_dependents, member]

/-- The nodes that a round makes ready. -/
def woken
    (nodes : List α) (deps : α → Finset α) (frontier : Frontier α)
    (node : α) : List α :=
  (dependents nodes deps node).filter fun other =>
    frontier.counts other = 1

theorem place_ready
    (nodes : List α) (deps : α → Finset α) (frontier : Frontier α)
    (node : α) (others : List α) :
    (place nodes deps frontier node others).ready =
      others ++ woken nodes deps frontier node :=
  foldl_release_ready (dependents_nodup nodes deps node) _

theorem mem_woken
    {nodes : List α} {deps : α → Finset α} {frontier : Frontier α}
    {node other : α} :
    other ∈ woken nodes deps frontier node ↔
      (other ∈ nodes ∧ node ∈ deps other) ∧
        frontier.counts other = 1 := by
  rw [woken, List.mem_filter, mem_dependents, decide_eq_true_iff]

section Round

variable {nodes : List α} {deps : α → Finset α} {frontier : Frontier α}
  {node : α} {others : List α}

omit [LinearOrder α] in
/-- What a round starts from: one ready node taken out. -/
theorem chosen_split
    (chosen : frontier.ready.Perm (node :: others)) :
    (frontier.order ++ frontier.ready).Perm
      (frontier.order ++ [node] ++ others) := by
  rw [List.append_assoc]
  exact chosen.append_left _

theorem Settled.fresh
    (settled : Settled nodes deps frontier)
    (chosen : frontier.ready.Perm (node :: others)) :
    node ∉ frontier.order := by
  have apart := (chosen.append_left frontier.order).nodup_iff.mp
    settled.distinct
  intro member
  exact (List.nodup_append.mp apart).2.2 node member node
    List.mem_cons_self rfl

theorem Settled.not_woken
    (settled : Settled nodes deps frontier) {other : α}
    (reached : other ∈ frontier.order ++ frontier.ready) :
    other ∉ woken nodes deps frontier node := by
  intro wakes
  have zero := ((settled.reached other).mp reached).2
  rw [(mem_woken.mp wakes).2] at zero
  exact absurd zero (by decide)

/-- The reached nodes after a round. -/
theorem Settled.reached_place
    (settled : Settled nodes deps frontier)
    (chosen : frontier.ready.Perm (node :: others)) (other : α) :
    other ∈ frontier.order ++ frontier.ready ∨
        other ∈ woken nodes deps frontier node ↔
      other ∈ nodes ∧
        (place nodes deps frontier node others).counts other = 0 := by
  have fresh := settled.fresh chosen
  constructor
  · rintro (reached | wakes)
    · obtain ⟨member, zero⟩ := (settled.reached other).mp reached
      refine ⟨member, ?_⟩
      have unneeded : node ∉ deps other := fun needed =>
        fresh (settled.met reached node needed)
      rw [place_counts deps frontier node others member,
        if_neg unneeded, zero]
    · obtain ⟨⟨member, needed⟩, one⟩ := mem_woken.mp wakes
      refine ⟨member, ?_⟩
      rw [place_counts deps frontier node others member,
        if_pos needed, one, sub_self]
  · rintro ⟨member, zero⟩
    rw [place_counts deps frontier node others member] at zero
    by_cases needed : node ∈ deps other
    · rw [if_pos needed] at zero
      exact .inr (mem_woken.mpr
        ⟨⟨member, needed⟩, sub_eq_zero.mp zero⟩)
    · rw [if_neg needed] at zero
      exact .inl ((settled.reached other).mpr ⟨member, zero⟩)

/-- One round keeps the invariant. -/
theorem Settled.place
    (settled : Settled nodes deps frontier)
    (chosen : frontier.ready.Perm (node :: others)) :
    Settled nodes deps (place nodes deps frontier node others) where
  counts := by
    intro other member
    rw [place_counts deps frontier node others member,
      settled.counts other member]
    exact (card_filter_concat _ _ _ (settled.fresh chosen)).symm
  distinct := by
    rw [place_ready, ← List.append_assoc]
    refine List.nodup_append.mpr
      ⟨(chosen_split chosen).nodup_iff.mp settled.distinct,
        (dependents_nodup nodes deps node).filter _, ?_⟩
    rintro reached isReached other wakes rfl
    exact settled.not_woken
      ((chosen_split chosen).mem_iff.mpr isReached) wakes
  reached := by
    intro other
    rw [← settled.reached_place chosen, place_ready, ← List.append_assoc,
      List.mem_append, (chosen_split chosen).mem_iff]
    rfl
  respects := by
    have isReady : node ∈ frontier.ready :=
      chosen.mem_iff.mpr List.mem_cons_self
    exact settled.respects.concat
      (settled.met (List.mem_append_right _ isReady))

end Round

theorem Settled.placeAll
    {nodes : List α} {deps : α → Finset α}
    (fuel : Nat) {frontier : Frontier α}
    (settled : Settled nodes deps frontier) :
    Settled nodes deps (placeAll nodes deps fuel frontier) := by
  induction fuel generalizing frontier with
  | zero => exact settled
  | succ fuel induction =>
      rw [Graphs.placeAll]
      split
      · exact settled
      · next node others sorted =>
          have chosen := (List.perm_insertionSort (· ≤ ·)
            frontier.ready).symm
          rw [sorted] at chosen
          exact induction (settled.place chosen)

/--
An order that has as many nodes as there are is a permutation of them in
which every node comes after its dependencies.
-/
theorem kahnOrder_sound
    {nodes : List α} (distinct : nodes.Nodup) (deps : α → Finset α)
    (complete : (kahnOrder nodes deps).length = nodes.length) :
    (kahnOrder nodes deps).Perm nodes ∧
      Respects deps (kahnOrder nodes deps) := by
  have settled := (settled_initial distinct deps).placeAll nodes.length
  have distinctOrder : (kahnOrder nodes deps).Nodup :=
    settled.distinct.of_append_left
  have included : kahnOrder nodes deps ⊆ nodes := fun node member =>
    ((settled.reached node).mp (List.mem_append_left _ member)).1
  exact ⟨(distinctOrder.subperm included).perm_of_length_le
    complete.ge, settled.respects⟩

/-! ## Chains of dependencies -/

omit [LinearOrder α] in
/-- Fewer dependencies are respected as well. -/
theorem Respects.mono
    {fewer deps : α → Finset α} {order : List α}
    (respects : Respects deps order)
    (subset : ∀ node, fewer node ⊆ deps node) : Respects fewer order :=
  fun earlier node later split dependency needs =>
    respects earlier node later split dependency (subset node needs)

omit [LinearOrder α] in
/-- Nodes without dependencies may follow. -/
theorem Respects.append
    {deps : α → Finset α} {order rest : List α}
    (respects : Respects deps order)
    (free : ∀ node ∈ rest, deps node = ∅) :
    Respects deps (order ++ rest) := by
  intro earlier node later split dependency needs
  rcases List.append_eq_append_iff.mp split with
    ⟨between, rfl, isRest⟩ | ⟨between, isOrder, tail⟩
  · have member : node ∈ rest := by
      rw [isRest]
      exact List.mem_append_right _ List.mem_cons_self
    rw [free node member] at needs
    exact absurd needs (Finset.notMem_empty _)
  · cases between with
    | nil =>
        have member : node ∈ rest := by
          rw [← (List.nil_append rest ▸ tail : node :: later = rest)]
          exact List.mem_cons_self
        rw [free node member] at needs
        exact absurd needs (Finset.notMem_empty _)
    | cons next between =>
        obtain ⟨rfl, -⟩ := List.cons.inj tail
        exact respects earlier node between isOrder dependency needs

/-- A dependency stands before what depends on it. -/
theorem Respects.idxOf_lt
    {deps : α → Finset α} {order : List α}
    (respects : Respects deps order) {first second : α}
    (member : second ∈ order) (needed : first ∈ deps second) :
    first ∈ order ∧ order.idxOf first < order.idxOf second := by
  obtain ⟨earlier, later, split, absent⟩ :=
    List.eq_append_cons_of_mem member
  have placed := respects earlier second later split first needed
  rw [split]
  refine ⟨List.mem_append_left _ placed, ?_⟩
  rw [List.idxOf_append_of_mem placed, List.idxOf_append_of_notMem absent]
  exact Nat.lt_add_right _ (List.idxOf_lt_length_of_mem placed)

/-- In an order that respects them, dependencies have no cycle. -/
theorem Respects.acyclic
    {deps : α → Finset α} {order : List α}
    (respects : Respects deps order) {node : α} (member : node ∈ order) :
    ¬ Relation.TransGen (fun first second => first ∈ deps second)
      node node := by
  have decreases : ∀ {first second : α},
      Relation.TransGen (fun first second => first ∈ deps second)
        first second →
      second ∈ order →
        first ∈ order ∧ order.idxOf first < order.idxOf second := by
    intro first second chain isMember
    induction chain with
    | single needed => exact respects.idxOf_lt isMember needed
    | tail _ needed induction =>
        obtain ⟨between, before⟩ := respects.idxOf_lt isMember needed
        obtain ⟨start, earlier⟩ := induction between
        exact ⟨start, earlier.trans before⟩
  intro cycle
  exact absurd (decreases cycle member).2 (lt_irrefl _)

end ScientificResourceLab.Graphs
