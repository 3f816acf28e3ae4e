import Mathlib.Data.List.Chain
import Mathlib.Data.List.Infix
import Mathlib.Data.List.Nodup
import Mathlib.Data.List.Perm.Subperm
import Mathlib.Logic.Relation
import ScientificResourceLab.Steps.Fallible

/-!
# Depth-first order with two marker sets

A node is marked while its children are visited and again when it is placed,
after all of them.  A child that still carries the first mark closes a cycle;
a child that is not declared stops the search.

`Placing` is the invariant of the search: the placed nodes are distinct and
each comes after its children, and none of them carries the first mark.  A
search that stops has found a cycle or an undeclared child; a search that
returns has placed every node after its children, so there was neither.
-/

namespace ScientificResourceLab.Graphs

open Steps

variable {α ν μ : Type}

/-- Why a search stops. -/
inductive Obstacle (α : Type) where
  | cycle (node : α)
  | undeclared (node : α)
  | exhausted

/-- The marker sets and the nodes in the order in which they are placed. -/
structure Search (α ν : Type) where
  visiting : List α
  visited : List α
  ordered : List ν

variable {find : α → Option ν} {children : ν → List α}

/-- A node has another one among its children. -/
def Leads (find : α → Option ν) (children : ν → List α) (node child : α) :
    Prop :=
  ∃ content, find node = some content ∧ child ∈ children content

/-- The invariant of the search. -/
structure Placing
    (find : α → Option ν) (children : ν → List α) (search : Search α ν) :
    Prop where
  contents : List.Forall₂ (fun node content => find node = some content)
    search.visited search.ordered
  distinct : search.visited.Nodup
  after : ∀ earlier node later,
    search.visited = earlier ++ node :: later →
      ∀ child, Leads find children node child → child ∈ earlier
  marked : search.visiting.Nodup
  apart : ∀ node ∈ search.visiting, node ∉ search.visited
  declared : ∀ node ∈ search.visiting, (find node).isSome

/-- What a visit that returns has done. -/
structure Visits
    (find : α → Option ν) (children : ν → List α) (before : Search α ν)
    (nodes : List α) (after : Search α ν) : Prop where
  placing : Placing find children after
  visiting : after.visiting = before.visiting
  grows : before.visited <+: after.visited
  placed : ∀ node ∈ nodes, node ∈ after.visited

theorem Placing.mark
    {search : Search α ν} (placing : Placing find children search)
    {node : α} (unplaced : node ∉ search.visited)
    (unmarked : node ∉ search.visiting) (isDeclared : (find node).isSome) :
    Placing find children
      { search with visiting := node :: search.visiting } where
  contents := placing.contents
  distinct := placing.distinct
  after := placing.after
  marked := List.nodup_cons.mpr ⟨unmarked, placing.marked⟩
  apart := by
    intro other isOther
    rcases List.mem_cons.mp isOther with rfl | inRest
    · exact unplaced
    · exact placing.apart other inRest
  declared := by
    intro other isOther
    rcases List.mem_cons.mp isOther with rfl | inRest
    · exact isDeclared
    · exact placing.declared other inRest

theorem placing_empty :
    Placing find children (⟨[], [], []⟩ : Search α ν) where
  contents := .nil
  distinct := List.nodup_nil
  after := by simp
  marked := List.nodup_nil
  apart := by simp
  declared := by simp

/-- A placed node is declared. -/
theorem found_of_contents
    {visited : List α} {ordered : List ν}
    (contents : List.Forall₂ (fun node content => find node = some content)
      visited ordered)
    {node : α} (isPlaced : node ∈ visited) :
    ∃ content, find node = some content := by
  induction contents with
  | nil => cases isPlaced
  | cons found _ induction =>
      rcases List.mem_cons.mp isPlaced with rfl | later
      · exact ⟨_, found⟩
      · exact induction later

/-! ## Obstacles -/

/-- The nodes that are being visited lead down to the node in hand. -/
def Descends
    (find : α → Option ν) (children : ν → List α) (visiting : List α)
    (node : α) : Prop :=
  (node :: visiting).IsChain fun child parent =>
    Leads find children parent child

/-- A node above the one in hand leads to it. -/
theorem Descends.transGen
    {visiting : List α} {node above : α}
    (descends : Descends find children visiting node)
    (isAbove : above ∈ visiting) :
    Relation.TransGen (Leads find children) above node := by
  induction visiting generalizing node with
  | nil => cases isAbove
  | cons parent rest induction =>
      have step := (List.isChain_cons_cons.mp descends).1
      have later := (List.isChain_cons_cons.mp descends).2
      rcases List.mem_cons.mp isAbove with rfl | inRest
      · exact .single step
      · exact .tail (induction later inRest) step

/-- What is wrong with a graph when a search stops. -/
def Blocked
    (find : α → Option ν) (children : ν → List α) (nodes : List α) :
    Obstacle α → Prop
  | .cycle node => Relation.TransGen (Leads find children) node node
  | .undeclared node =>
      find node = none ∧
        (node ∈ nodes ∨ ∃ parent, Leads find children parent node)
  | .exhausted => False

theorem Blocked.widen
    {nodes others : List α} {obstacle : Obstacle α}
    (blocked : Blocked find children nodes obstacle)
    (each : ∀ node ∈ nodes,
      node ∈ others ∨ ∃ parent, Leads find children parent node) :
    Blocked find children others obstacle := by
  cases obstacle with
  | cycle node => exact blocked
  | undeclared node =>
      obtain ⟨absent, isNode | isChild⟩ := blocked
      · exact ⟨absent, each node isNode⟩
      · exact ⟨absent, .inr isChild⟩
  | exhausted => exact blocked

/-! ## Visiting -/

/-- The search with its contents renamed. -/
def Search.map (rename : ν → μ) (search : Search α ν) : Search α μ :=
  ⟨search.visiting, search.visited, search.ordered.map rename⟩

variable [DecidableEq α]

/-- Visit a node: its children first, then the node itself. -/
def visit (find : α → Option ν) (children : ν → List α) :
    Nat → Search α ν → α → Except (Obstacle α) (Search α ν)
  | 0, _, _ => .error .exhausted
  | fuel + 1, search, node =>
      if node ∈ search.visited then .ok search
      else if node ∈ search.visiting then .error (.cycle node)
      else
        match find node with
        | none => .error (.undeclared node)
        | some content => do
            let inner ← (children content).foldlM
              (visit find children fuel)
              { search with visiting := node :: search.visiting }
            pure
              { visiting := inner.visiting.erase node
                visited := inner.visited ++ [node]
                ordered := inner.ordered ++ [content] }

/-- Visit all nodes of a list, starting with nothing marked. -/
def depthFirst
    (find : α → Option ν) (children : ν → List α) (fuel : Nat)
    (nodes : List α) : Except (Obstacle α) (Search α ν) :=
  nodes.foldlM (visit find children fuel) ⟨[], [], []⟩

/-- Visiting the nodes of a list, when visiting one of them is understood. -/
theorem visits_foldlM
    {fuel : Nat}
    (one : ∀ {search node result}, Placing find children search →
      visit find children fuel search node = .ok result →
        Visits find children search [node] result)
    {nodes : List α} {search result : Search α ν}
    (placing : Placing find children search)
    (returned : nodes.foldlM (visit find children fuel) search =
      .ok result) :
    Visits find children search nodes result := by
  induction nodes generalizing search with
  | nil =>
      rw [List.foldlM_nil, pure_eq_ok_iff] at returned
      subst returned
      exact ⟨placing, rfl, List.prefix_rfl, by simp⟩
  | cons node rest induction =>
      rw [List.foldlM_cons, bind_eq_ok_iff] at returned
      obtain ⟨middle, first, later⟩ := returned
      have visitsFirst := one placing first
      have visitsRest := induction visitsFirst.placing later
      refine ⟨visitsRest.placing,
        visitsRest.visiting.trans visitsFirst.visiting,
        visitsFirst.grows.trans visitsRest.grows, ?_⟩
      intro other isOther
      rcases List.mem_cons.mp isOther with rfl | inRest
      · exact visitsRest.grows.subset
          (visitsFirst.placed _ List.mem_cons_self)
      · exact visitsRest.placed other inRest

theorem Placing.place
    {inner : Search α ν} (placing : Placing find children inner)
    {node : α} {content : ν} {others : List α}
    (isVisiting : inner.visiting = node :: others)
    (found : find node = some content)
    (placed : ∀ child ∈ children content, child ∈ inner.visited) :
    Placing find children
      { visiting := inner.visiting.erase node
        visited := inner.visited ++ [node]
        ordered := inner.ordered ++ [content] } := by
  have isMarked : node ∈ inner.visiting := by
    rw [isVisiting]
    exact List.mem_cons_self
  have fresh : node ∉ inner.visited := placing.apart node isMarked
  have isErased : inner.visiting.erase node = others := by
    rw [isVisiting, List.erase_cons_head]
  have marked := placing.marked
  rw [isVisiting, List.nodup_cons] at marked
  refine
    { contents := List.rel_append placing.contents
        (.cons found .nil)
      distinct := ?_, after := ?_, marked := ?_, apart := ?_
      declared := ?_ }
  · refine List.nodup_append.mpr ⟨placing.distinct,
      List.nodup_singleton _, ?_⟩
    rintro other isOther _ isNode rfl
    rw [List.mem_singleton.mp isNode] at isOther
    exact fresh isOther
  · intro earlier other later isSplit child leads
    rcases List.eq_nil_or_concat later with rfl | ⟨middle, last, rfl⟩
    · obtain ⟨rfl, same⟩ := List.append_inj' isSplit rfl
      cases same
      obtain ⟨_, isContent, isChild⟩ := leads
      cases found.symm.trans isContent
      exact placed child isChild
    · have inner := isSplit
      rw [List.concat_eq_append, ← List.cons_append,
        ← List.append_assoc] at inner
      obtain ⟨same, _⟩ := List.append_inj' inner rfl
      exact placing.after earlier other middle same child leads
  · rw [isErased]
    exact marked.2
  · intro other isOther
    rw [isErased] at isOther
    have inVisiting : other ∈ inner.visiting := by
      rw [isVisiting]
      exact List.mem_cons_of_mem _ isOther
    intro isPlaced
    rcases List.mem_append.mp isPlaced with before | isNode
    · exact placing.apart other inVisiting before
    · rw [List.mem_singleton.mp isNode] at isOther
      exact marked.1 isOther
  · intro other isOther
    rw [isErased] at isOther
    refine placing.declared other ?_
    rw [isVisiting]
    exact List.mem_cons_of_mem _ isOther

/-- A visit that returns keeps the invariant and has placed its node. -/
theorem visits_of_visit
    {fuel : Nat} {search result : Search α ν} {node : α}
    (placing : Placing find children search)
    (returned : visit find children fuel search node = .ok result) :
    Visits find children search [node] result := by
  induction fuel generalizing search result node with
  | zero => cases returned
  | succ fuel induction =>
      rw [visit] at returned
      split_ifs at returned with isPlaced isMarked
      · cases returned
        exact ⟨placing, rfl, List.prefix_rfl, by simpa using isPlaced⟩
      · split at returned
        · cases returned
        · next content found =>
            rw [bind_eq_ok_iff] at returned
            obtain ⟨inner, isInner, same⟩ := returned
            rw [pure_eq_ok_iff] at same
            subst same
            have marks := placing.mark isPlaced isMarked
              (by rw [found]; rfl)
            have visits := visits_foldlM induction marks isInner
            refine ⟨visits.placing.place visits.visiting found
              visits.placed, ?_, ?_, by simp⟩
            · simp only [visits.visiting, List.erase_cons_head]
            · exact visits.grows.trans (List.prefix_append _ _)

/-! ## Stopping -/

/-- A loop that stops has stopped at one of its nodes. -/
theorem blocked_foldlM
    {fuel : Nat} {visiting : List α}
    (one : ∀ {search node obstacle}, Placing find children search →
      search.visiting = visiting → Descends find children visiting node →
      visit find children fuel search node = .error obstacle →
        Blocked find children [node] obstacle)
    {nodes : List α} {search : Search α ν} {obstacle : Obstacle α}
    (placing : Placing find children search)
    (isVisiting : search.visiting = visiting)
    (descends : ∀ node ∈ nodes, Descends find children visiting node)
    (stopped : nodes.foldlM (visit find children fuel) search =
      .error obstacle) :
    Blocked find children nodes obstacle := by
  induction nodes generalizing search with
  | nil => cases stopped
  | cons node rest induction =>
      rw [List.foldlM_cons] at stopped
      cases first : visit find children fuel search node with
      | error other =>
          rw [first] at stopped
          cases stopped
          refine (one placing isVisiting
            (descends node List.mem_cons_self) first).widen ?_
          intro other isOther
          rw [List.mem_singleton.mp isOther]
          exact .inl List.mem_cons_self
      | ok middle =>
          rw [first] at stopped
          have visits := visits_of_visit placing first
          have blocked := induction visits.placing
            (visits.visiting.trans isVisiting)
            (fun other isOther =>
              descends other (List.mem_cons_of_mem _ isOther)) stopped
          exact blocked.widen fun other isOther =>
            .inl (List.mem_cons_of_mem _ isOther)

/-- A visit that stops has met a cycle or an undeclared node. -/
theorem blocked_of_visit
    {declared : List α} (isDeclared : ∀ node, (find node).isSome →
      node ∈ declared)
    {fuel : Nat} {search : Search α ν} {node : α} {obstacle : Obstacle α}
    (placing : Placing find children search)
    (descends : Descends find children search.visiting node)
    (enough : declared.length < search.visiting.length + fuel)
    (stopped : visit find children fuel search node = .error obstacle) :
    Blocked find children [node] obstacle := by
  induction fuel generalizing search node obstacle with
  | zero =>
      have within : search.visiting ⊆ declared := fun other isOther =>
        isDeclared other (placing.declared other isOther)
      have bound := (List.Nodup.subperm placing.marked within).length_le
      omega
  | succ fuel induction =>
      rw [visit] at stopped
      split_ifs at stopped with isPlaced isMarked
      · cases stopped
        exact descends.transGen isMarked
      · split at stopped
        · next absent =>
            cases stopped
            exact ⟨absent, .inl List.mem_cons_self⟩
        · next content found =>
            have marks := placing.mark isPlaced isMarked
              (by rw [found]; rfl)
            have inner : (children content).foldlM
                (visit find children fuel)
                { search with visiting := node :: search.visiting } =
                  .error obstacle := by
              cases ran : (children content).foldlM
                  (visit find children fuel)
                  { search with visiting := node :: search.visiting } with
              | ok result =>
                  rw [ran] at stopped
                  cases stopped
              | error other =>
                  rw [ran] at stopped
                  cases stopped
                  rfl
            have blocked := blocked_foldlM
              (fun placing same descends stopped =>
                induction placing (same ▸ descends)
                  (by rw [same, List.length_cons]; omega) stopped)
              marks rfl
              (fun child isChild => List.isChain_cons_cons.mpr
                ⟨⟨content, found, isChild⟩, descends⟩) inner
            exact blocked.widen fun child isChild =>
              .inr ⟨node, content, found, isChild⟩

/-! ## Whole searches -/

theorem visits_depthFirst
    {fuel : Nat} {nodes : List α} {result : Search α ν}
    (returned : depthFirst find children fuel nodes = .ok result) :
    Visits find children ⟨[], [], []⟩ nodes result :=
  visits_foldlM visits_of_visit placing_empty returned

theorem blocked_depthFirst
    {nodes : List α}
    (isDeclared : ∀ node, (find node).isSome → node ∈ nodes)
    {obstacle : Obstacle α}
    (stopped : depthFirst find children (nodes.length + 1) nodes =
      .error obstacle) :
    Blocked find children nodes obstacle := by
  refine blocked_foldlM ?_ placing_empty rfl ?_ stopped
  · intro search node other placing isVisiting descends failed
    refine blocked_of_visit isDeclared placing (isVisiting ▸ descends) ?_
      failed
    omega
  · intro node _
    exact List.isChain_singleton _

/-- A child is placed before its parent. -/
theorem Placing.idxOf_lt
    {search : Search α ν} (placing : Placing find children search)
    {node child : α} (isPlaced : node ∈ search.visited)
    (leads : Leads find children node child) :
    child ∈ search.visited ∧
      search.visited.idxOf child < search.visited.idxOf node := by
  obtain ⟨earlier, later, isSplit⟩ := List.append_of_mem isPlaced
  have distinct := placing.distinct
  rw [isSplit, List.nodup_append] at distinct
  have fresh : node ∉ earlier := fun isEarlier =>
    distinct.2.2 node isEarlier node List.mem_cons_self rfl
  have isEarlier := placing.after earlier node later isSplit child leads
  rw [isSplit]
  refine ⟨List.mem_append_left _ isEarlier, ?_⟩
  rw [List.idxOf_append_of_mem isEarlier,
    List.idxOf_append_of_notMem fresh, List.idxOf_cons_self]
  exact Nat.lt_add_right 0 (List.idxOf_lt_length_of_mem isEarlier)

theorem Placing.acyclic
    {search : Search α ν} (placing : Placing find children search)
    (each : ∀ node, (find node).isSome → node ∈ search.visited)
    (node : α) : ¬ Relation.TransGen (Leads find children) node node := by
  have placed {parent child : α}
      (leads : Leads find children parent child) :
      parent ∈ search.visited := by
    obtain ⟨content, found, _⟩ := leads
    exact each parent (by rw [found]; rfl)
  have descends {above below : α}
      (path : Relation.TransGen (Leads find children) above below) :
      search.visited.idxOf below < search.visited.idxOf above := by
    induction path with
    | single leads => exact (placing.idxOf_lt (placed leads) leads).2
    | tail _ leads induction =>
        exact (placing.idxOf_lt (placed leads) leads).2.trans induction
  intro cycle
  exact lt_irrefl _ (descends cycle)

/--
A search over the declared nodes stops exactly when a node has an undeclared
child or there is a cycle.
-/
theorem depthFirst_stops_iff
    {nodes : List α}
    (isDeclared : ∀ node, (find node).isSome ↔ node ∈ nodes) :
    (∃ obstacle, depthFirst find children (nodes.length + 1) nodes =
        .error obstacle) ↔
      (∃ parent child, Leads find children parent child ∧
        find child = none) ∨
      ∃ node, Relation.TransGen (Leads find children) node node := by
  constructor
  · rintro ⟨obstacle, stopped⟩
    have blocked := blocked_depthFirst
      (fun node => (isDeclared node).mp) stopped
    cases obstacle with
    | cycle node => exact .inr ⟨node, blocked⟩
    | undeclared node =>
        obtain ⟨absent, isNode | ⟨parent, leads⟩⟩ := blocked
        · have found := (isDeclared node).mpr isNode
          rw [absent] at found
          cases found
        · exact .inl ⟨parent, node, leads, absent⟩
    | exhausted => exact blocked.elim
  · intro wrong
    cases ran : depthFirst find children (nodes.length + 1) nodes with
    | error obstacle => exact ⟨obstacle, rfl⟩
    | ok result =>
        have visits := visits_depthFirst ran
        have each : ∀ node, (find node).isSome →
            node ∈ result.visited := fun node found =>
          visits.placed node ((isDeclared node).mp found)
        exfalso
        rcases wrong with ⟨parent, child, leads, absent⟩ | ⟨node, cycle⟩
        · obtain ⟨content, found, isChild⟩ := leads
          have isPlaced := (visits.placing.idxOf_lt
            (each parent (by rw [found]; rfl))
            ⟨content, found, isChild⟩).1
          obtain ⟨other, isOther⟩ :=
            found_of_contents visits.placing.contents isPlaced
          rw [absent] at isOther
          cases isOther
        · exact visits.placing.acyclic each node cycle

/-! ## Renamed contents -/

variable {other : α → Option μ} {otherChildren : μ → List α}
  {rename : ν → μ}

theorem foldlM_map_search
    {fuel : Nat}
    (one : ∀ search node,
      visit other otherChildren fuel (search.map rename) node =
        (visit find children fuel search node).map (Search.map rename))
    (nodes : List α) (search : Search α ν) :
    nodes.foldlM (visit other otherChildren fuel) (search.map rename) =
      (nodes.foldlM (visit find children fuel) search).map
        (Search.map rename) := by
  induction nodes generalizing search with
  | nil => rfl
  | cons node rest induction =>
      rw [List.foldlM_cons, List.foldlM_cons, one]
      cases visit find children fuel search node with
      | error obstacle => rfl
      | ok middle => exact induction middle

/-- A search sees the children of a content and nothing else of it. -/
theorem visit_map
    (found : ∀ node, other node = (find node).map rename)
    (same : ∀ content, otherChildren (rename content) = children content)
    (fuel : Nat) (search : Search α ν) (node : α) :
    visit other otherChildren fuel (search.map rename) node =
      (visit find children fuel search node).map (Search.map rename) := by
  induction fuel generalizing search node with
  | zero => rfl
  | succ fuel induction =>
      rw [visit, visit]
      by_cases isPlaced : node ∈ search.visited
      · rw [if_pos isPlaced, if_pos (by exact isPlaced)]
        rfl
      rw [if_neg isPlaced, if_neg (by exact isPlaced)]
      by_cases isMarked : node ∈ search.visiting
      · rw [if_pos isMarked, if_pos (by exact isMarked)]
        rfl
      rw [if_neg isMarked, if_neg (by exact isMarked), found]
      cases find node with
      | none => rfl
      | some content =>
          have inner := foldlM_map_search induction (children content)
            { search with visiting := node :: search.visiting }
          simp only [Search.map] at inner
          simp only [Option.map_some, same, Search.map, inner]
          cases (children content).foldlM (visit find children fuel)
              { search with visiting := node :: search.visiting } with
          | error obstacle => rfl
          | ok result =>
              simp [Except.map, Search.map, bind, Except.bind, pure,
                Except.pure]

theorem depthFirst_map
    (found : ∀ node, other node = (find node).map rename)
    (same : ∀ content, otherChildren (rename content) = children content)
    (fuel : Nat) (nodes : List α) :
    depthFirst other otherChildren fuel nodes =
      (depthFirst find children fuel nodes).map (Search.map rename) :=
  foldlM_map_search (visit_map found same fuel) nodes ⟨[], [], []⟩

end ScientificResourceLab.Graphs
