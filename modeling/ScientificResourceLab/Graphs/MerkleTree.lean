import Mathlib.Data.List.Nodup
import Mathlib.Data.Set.Function
import Mathlib.Logic.Function.Iterate

/-!
# Merkle trees over a list of strings

The leaves of the tree are the hashes of the strings; a level is hashed in
pairs to the level above it, and a last node without a partner is paired with
itself.  Leaves and inner nodes are hashed alike.

Two trees with the same root over lists without repetition are trees over the
same list, unless two distinct strings that are hashed in the two trees have
the same hash (`root_injective`).  The hash has a fixed width, and no string
under a leaf is empty or has the width of a pair of nodes.
-/

namespace ScientificResourceLab.Graphs.MerkleTree

variable {β : Type*}

/-! ## Trees -/

/-- The strings that are hashed to the level above a level. -/
def pairStrings : List (List β) → List (List β)
  | left :: right :: rest => (left ++ right) :: pairStrings rest
  | [left] => [left ++ left]
  | [] => []

def levelAbove (hash : List β → List β) (level : List (List β)) :
    List (List β) :=
  (pairStrings level).map hash

theorem levelAbove_length
    (hash : List β → List β) (level : List (List β)) :
    (levelAbove hash level).length = (level.length + 1) / 2 := by
  rw [levelAbove, List.length_map]
  fun_induction pairStrings level with
  | case1 left right rest induction =>
      simp only [List.length_cons, induction]
      omega
  | case2 left => simp
  | case3 => simp

/-- The top of the tree over a level. -/
def top (hash : List β → List β) : List (List β) → List β
  | [] => []
  | [node] => node
  | left :: right :: rest =>
      top hash (levelAbove hash (left :: right :: rest))
termination_by level => level.length
decreasing_by
  rw [levelAbove_length]
  simp only [List.length_cons]
  omega

/-- The strings that are hashed above a level. -/
def innerStrings (hash : List β → List β) :
    List (List β) → List (List β)
  | [] => []
  | [_] => []
  | left :: right :: rest =>
      pairStrings (left :: right :: rest) ++
        innerStrings hash (levelAbove hash (left :: right :: rest))
termination_by level => level.length
decreasing_by
  rw [levelAbove_length]
  simp only [List.length_cons]
  omega

/-- The root over a list of strings. -/
def root (hash : List β → List β) (strings : List (List β)) : List β :=
  match strings with
  | [] => hash []
  | strings => top hash (strings.map hash)

/-- All strings that are hashed for a root. -/
def hashedStrings (hash : List β → List β) (strings : List (List β)) :
    List (List β) :=
  match strings with
  | [] => [[]]
  | strings => strings ++ innerStrings hash (strings.map hash)

/-! ## Levels -/

/-- A level some steps above a level. -/
def ascend (hash : List β → List β) (steps : Nat) (level : List (List β)) :
    List (List β) :=
  (levelAbove hash)^[steps] level

theorem ascend_succ
    (hash : List β → List β) (steps : Nat) (level : List (List β)) :
    ascend hash (steps + 1) level =
      levelAbove hash (ascend hash steps level) :=
  Function.iterate_succ_apply' _ _ _

theorem ascend_add
    (hash : List β → List β) (first second : Nat)
    (level : List (List β)) :
    ascend hash (first + second) level =
      ascend hash first (ascend hash second level) :=
  Function.iterate_add_apply _ _ _ _

/-- A level and its tree. -/
structure Tree (hash : List β → List β) (level : List (List β))
    (depth : Nat) : Prop where
  top_eq : ascend hash depth level = [top hash level]
  inner : ∀ steps < depth, ∀ string ∈ pairStrings (ascend hash steps level),
    string ∈ innerStrings hash level

/-- Every level that is not empty has a tree. -/
theorem exists_tree
    (hash : List β → List β) {level : List (List β)}
    (nonempty : level ≠ []) : ∃ depth, Tree hash level depth := by
  match level, nonempty with
  | [node], _ =>
      refine ⟨0, ?_, fun steps less => absurd less (Nat.not_lt_zero _)⟩
      rw [top]
      rfl
  | left :: right :: rest, _ =>
      have shorter : (levelAbove hash (left :: right :: rest)).length <
          (left :: right :: rest).length := by
        rw [levelAbove_length]
        simp only [List.length_cons]
        omega
      have above : levelAbove hash (left :: right :: rest) ≠ [] := by
        intro empty
        have length := levelAbove_length hash (left :: right :: rest)
        rw [empty] at length
        simp only [List.length_nil, List.length_cons] at length
        omega
      obtain ⟨depth, tree⟩ := exists_tree hash above
      refine ⟨depth + 1, ?_, ?_⟩
      · rw [ascend_add, top]
        exact tree.top_eq
      · intro steps less string member
        rw [innerStrings, List.mem_append]
        cases steps with
        | zero => exact .inl member
        | succ steps =>
            rw [ascend_add] at member
            exact .inr (tree.inner steps (Nat.lt_of_succ_lt_succ less)
              string member)
termination_by level.length
decreasing_by exact shorter

/-! ## Nodes of a fixed width -/

section Width

variable {hash : List β → List β} {width : Nat}

/-- Every node of a level has the width of the hash. -/
def Wide (width : Nat) (level : List (List β)) : Prop :=
  ∀ node ∈ level, node.length = width

theorem wide_map
    (fixed : ∀ string, (hash string).length = width)
    (strings : List (List β)) : Wide width (strings.map hash) := by
  intro node member
  obtain ⟨string, -, rfl⟩ := List.mem_map.mp member
  exact fixed string

theorem mem_pairStrings
    {level : List (List β)} {string : List β}
    (member : string ∈ pairStrings level) :
    ∃ left ∈ level, ∃ right ∈ level, string = left ++ right := by
  fun_induction pairStrings level with
  | case1 left right rest induction =>
      rcases List.mem_cons.mp member with rfl | later
      · exact ⟨left, by simp, right, by simp, rfl⟩
      · obtain ⟨first, isFirst, second, isSecond, rfl⟩ := induction later
        exact ⟨first, by simp [isFirst], second, by simp [isSecond], rfl⟩
  | case2 left =>
      rw [List.mem_singleton] at member
      exact ⟨left, by simp, left, by simp, member⟩
  | case3 => cases member

theorem length_of_mem_pairStrings
    {level : List (List β)} (wide : Wide width level) {string : List β}
    (member : string ∈ pairStrings level) :
    string.length = 2 * width := by
  obtain ⟨left, isLeft, right, isRight, rfl⟩ := mem_pairStrings member
  rw [List.length_append, wide left isLeft, wide right isRight]
  omega

/-- The pairs of a level without repetition are not repeated. -/
theorem nodup_pairStrings
    {level : List (List β)} (wide : Wide width level)
    (distinct : level.Nodup) : (pairStrings level).Nodup := by
  fun_induction pairStrings level with
  | case1 left right rest induction =>
      have restWide : Wide width rest := fun node member =>
        wide node (by simp [member])
      obtain ⟨leftNew, rightNew, restDistinct⟩ :
          left ∉ right :: rest ∧ right ∉ rest ∧ rest.Nodup := by
        simpa using distinct
      refine List.nodup_cons.mpr ⟨?_, induction restWide restDistinct⟩
      intro member
      obtain ⟨first, isFirst, second, isSecond, same⟩ :=
        mem_pairStrings member
      have sameLength : left.length = first.length := by
        rw [wide left (by simp), restWide first isFirst]
      obtain ⟨rfl, -⟩ := List.append_inj same sameLength
      exact leftNew (List.mem_cons_of_mem _ isFirst)
  | case2 left => simp
  | case3 => exact List.nodup_nil

/-- The pairs of a level without repetition determine it. -/
theorem pairStrings_injective
    {left right : List (List β)} (leftWide : Wide width left)
    (rightWide : Wide width right) (leftDistinct : left.Nodup)
    (rightDistinct : right.Nodup)
    (same : pairStrings left = pairStrings right) : left = right := by
  match left, right, same with
  | [], [], _ => rfl
  | [], _ :: _ :: _, same => cases same
  | [], [_], same => cases same
  | [_], [], same => cases same
  | _ :: _ :: _, [], same => cases same
  | [first], [second], same =>
      have doubled : first ++ first = second ++ second := by
        simpa [pairStrings] using same
      have sameLength : first.length = second.length := by
        rw [leftWide first (by simp), rightWide second (by simp)]
      rw [(List.append_inj doubled sameLength).1]
  | [first], second :: third :: rest, same =>
      have doubled : first ++ first = second ++ third :=
        (List.cons.inj same).1
      have sameLength : first.length = second.length := by
        rw [leftWide first (by simp), rightWide second (by simp)]
      obtain ⟨rfl, rfl⟩ := List.append_inj doubled sameLength
      simp at rightDistinct
  | second :: third :: rest, [first], same =>
      have doubled : second ++ third = first ++ first :=
        (List.cons.inj same).1
      have sameLength : second.length = first.length := by
        rw [leftWide second (by simp), rightWide first (by simp)]
      obtain ⟨rfl, rfl⟩ := List.append_inj doubled sameLength
      simp at leftDistinct
  | first :: second :: left, third :: fourth :: right, same =>
      obtain ⟨sameHead, sameTail⟩ := List.cons.inj same
      have sameLength : first.length = third.length := by
        rw [leftWide first (by simp), rightWide third (by simp)]
      obtain ⟨rfl, rfl⟩ := List.append_inj sameHead sameLength
      have tails := pairStrings_injective
        (fun node member => leftWide node (by simp [member]))
        (fun node member => rightWide node (by simp [member]))
        (List.nodup_cons.mp (List.nodup_cons.mp leftDistinct).2).2
        (List.nodup_cons.mp (List.nodup_cons.mp rightDistinct).2).2
        sameTail
      rw [tails]

/-! ## Trees without a collision -/

variable {hashed : Set (List β)}

theorem eq_of_map_hash_eq
    (injective : Set.InjOn hash hashed) {left right : List (List β)}
    (inLeft : ∀ string ∈ left, string ∈ hashed)
    (inRight : ∀ string ∈ right, string ∈ hashed)
    (same : left.map hash = right.map hash) : left = right := by
  induction left generalizing right with
  | nil => exact (List.map_eq_nil_iff.mp same.symm).symm
  | cons first left induction =>
      cases right with
      | nil => cases same
      | cons second right =>
          obtain ⟨sameHead, sameTail⟩ := List.cons.inj same
          have heads := injective (inLeft first List.mem_cons_self)
            (inRight second List.mem_cons_self) sameHead
          have tails := induction
            (fun string member => inLeft string (by simp [member]))
            (fun string member => inRight string (by simp [member]))
            sameTail
          rw [heads, tails]

/-- A tree whose strings are among given ones. -/
structure TreeAmong (hash : List β → List β) (width : Nat)
    (hashed : Set (List β)) (level : List (List β)) (depth : Nat) :
    Prop where
  wide : Wide width level
  distinct : level.Nodup
  inner : ∀ steps < depth,
    ∀ string ∈ pairStrings (ascend hash steps level), string ∈ hashed

/-- No level of such a tree has a repetition. -/
theorem TreeAmong.levels
    (fixed : ∀ string, (hash string).length = width)
    (injective : Set.InjOn hash hashed) {level : List (List β)}
    {depth : Nat} (tree : TreeAmong hash width hashed level depth) :
    ∀ steps ≤ depth, Wide width (ascend hash steps level) ∧
      (ascend hash steps level).Nodup := by
  intro steps
  induction steps with
  | zero =>
      intro _
      exact ⟨tree.wide, tree.distinct⟩
  | succ steps induction =>
      intro bound
      obtain ⟨wide, distinct⟩ := induction (by omega)
      have among := tree.inner steps (by omega)
      rw [ascend_succ, levelAbove]
      refine ⟨wide_map fixed _, ?_⟩
      apply List.Nodup.map_on
      · intro first isFirst second isSecond same
        exact injective (among first isFirst) (among second isSecond) same
      · exact nodup_pairStrings wide distinct

/-- From the same top down, the levels of two trees are the same. -/
theorem descend
    (fixed : ∀ string, (hash string).length = width)
    (injective : Set.InjOn hash hashed) {left right : List (List β)}
    {shallow extra : Nat}
    (leftTree : TreeAmong hash width hashed left shallow)
    (rightTree : TreeAmong hash width hashed right (shallow + extra))
    (same : ascend hash shallow left =
      ascend hash (shallow + extra) right) :
    left = ascend hash extra right := by
  induction shallow with
  | zero =>
      rw [Nat.zero_add] at same
      exact same
  | succ shallow induction =>
      have depth : shallow + 1 + extra = shallow + extra + 1 := by omega
      rw [depth, ascend_succ, ascend_succ, levelAbove, levelAbove] at same
      have samePairs := eq_of_map_hash_eq injective
        (leftTree.inner shallow (by omega))
        (rightTree.inner (shallow + extra) (by omega)) same
      obtain ⟨leftWide, leftDistinct⟩ :=
        leftTree.levels fixed injective shallow (by omega)
      obtain ⟨rightWide, rightDistinct⟩ :=
        rightTree.levels fixed injective (shallow + extra) (by omega)
      apply induction
      · exact ⟨leftTree.wide, leftTree.distinct, fun steps less =>
          leftTree.inner steps (by omega)⟩
      · exact ⟨rightTree.wide, rightTree.distinct, fun steps less =>
          rightTree.inner steps (by omega)⟩
      · exact pairStrings_injective leftWide rightWide leftDistinct
          rightDistinct samePairs

/-- Two trees with the same top have the same leaves. -/
theorem leaves_eq_of_le
    (fixed : ∀ string, (hash string).length = width)
    (injective : Set.InjOn hash hashed) {left right : List (List β)}
    (inLeft : ∀ string ∈ left, string ∈ hashed)
    (notPair : ∀ string ∈ left, string.length ≠ 2 * width)
    (nonempty : left ≠ []) {shallow extra : Nat}
    (leftTree : TreeAmong hash width hashed (left.map hash) shallow)
    (rightTree : TreeAmong hash width hashed (right.map hash)
      (shallow + extra))
    (same : ascend hash shallow (left.map hash) =
      ascend hash (shallow + extra) (right.map hash)) :
    left.map hash = right.map hash := by
  have leaves := descend fixed injective leftTree rightTree same
  cases extra with
  | zero => exact leaves
  | succ extra =>
      -- A leaf on the left is an inner node on the right.
      obtain ⟨first, rest, rfl⟩ := List.exists_cons_of_ne_nil nonempty
      rw [ascend_succ, levelAbove] at leaves
      have member : hash first ∈
          (pairStrings (ascend hash extra (right.map hash))).map hash := by
        rw [← leaves]
        exact List.mem_cons_self
      obtain ⟨pair, isPair, sameHash⟩ := List.mem_map.mp member
      have isInner := rightTree.inner extra (by omega) pair isPair
      have equal := injective isInner (inLeft first List.mem_cons_self)
        sameHash
      obtain ⟨wide, -⟩ :=
        rightTree.levels fixed injective extra (by omega)
      have length := length_of_mem_pairStrings wide isPair
      rw [equal] at length
      exact absurd length (notPair first List.mem_cons_self)

theorem hashedStrings_of_ne_nil
    {strings : List (List β)} (nonempty : strings ≠ []) :
    hashedStrings hash strings =
      strings ++ innerStrings hash (strings.map hash) := by
  cases strings with
  | nil => exact absurd rfl nonempty
  | cons first rest => rfl

theorem exists_treeAmong
    (fixed : ∀ string, (hash string).length = width)
    (injective : Set.InjOn hash hashed) {strings : List (List β)}
    (nonempty : strings ≠ []) (distinct : strings.Nodup)
    (among : ∀ string ∈ hashedStrings hash strings, string ∈ hashed) :
    ∃ depth, TreeAmong hash width hashed (strings.map hash) depth ∧
      ascend hash depth (strings.map hash) = [root hash strings] := by
  rw [hashedStrings_of_ne_nil nonempty] at among
  have leavesNonempty : strings.map hash ≠ [] := by
    simpa using nonempty
  obtain ⟨depth, tree⟩ := exists_tree hash leavesNonempty
  have isRoot : root hash strings = top hash (strings.map hash) := by
    cases strings with
    | nil => exact absurd rfl nonempty
    | cons first rest => rfl
  refine ⟨depth, ⟨wide_map fixed _, ?_, ?_⟩, ?_⟩
  · apply List.Nodup.map_on
    · intro first isFirst second isSecond same
      exact injective (among first (by simp [isFirst]))
        (among second (by simp [isSecond])) same
    · exact distinct
  · intro steps less string member
    exact among string (by simp [tree.inner steps less string member])
  · rw [isRoot]
    exact tree.top_eq

theorem root_ne_hash_nil
    (fixed : ∀ string, (hash string).length = width)
    (positive : 0 < width) (injective : Set.InjOn hash hashed)
    {strings : List (List β)} (nonempty : strings ≠ [])
    (distinct : strings.Nodup) (noEmpty : [] ∉ strings)
    (among : ∀ string ∈ hashedStrings hash strings, string ∈ hashed)
    (hashedEmpty : [] ∈ hashed) :
    root hash strings ≠ hash [] := by
  intro same
  obtain ⟨depth, tree, isTop⟩ :=
    exists_treeAmong fixed injective nonempty distinct among
  rw [same] at isTop
  cases depth with
  | zero =>
      have leaves : strings.map hash = [hash []] := isTop
      obtain ⟨first, rest, rfl⟩ := List.exists_cons_of_ne_nil nonempty
      have sameHash : hash first = hash [] := (List.cons.inj leaves).1
      have isHashed : first ∈ hashed :=
        among first (by rw [hashedStrings_of_ne_nil nonempty]; simp)
      have equal := injective isHashed hashedEmpty sameHash
      exact noEmpty (by rw [equal]; exact List.mem_cons_self)
  | succ depth =>
      rw [ascend_succ, levelAbove] at isTop
      have member : hash [] ∈
          (pairStrings (ascend hash depth (strings.map hash))).map hash := by
        rw [isTop]
        exact List.mem_cons_self
      obtain ⟨pair, isPair, sameHash⟩ := List.mem_map.mp member
      have equal := injective (tree.inner depth (by omega) pair isPair)
        hashedEmpty sameHash
      obtain ⟨wide, -⟩ := tree.levels fixed injective depth (by omega)
      have length := length_of_mem_pairStrings wide isPair
      rw [equal, List.length_nil] at length
      omega

/-- Where the hash is injective on what is hashed, the root determines the
list. -/
theorem root_injective
    (fixed : ∀ string, (hash string).length = width)
    (positive : 0 < width) (injective : Set.InjOn hash hashed)
    {left right : List (List β)} (leftDistinct : left.Nodup)
    (rightDistinct : right.Nodup)
    (plain : ∀ string ∈ left ++ right,
      string ≠ [] ∧ string.length ≠ 2 * width)
    (amongLeft : ∀ string ∈ hashedStrings hash left, string ∈ hashed)
    (amongRight : ∀ string ∈ hashedStrings hash right, string ∈ hashed)
    (same : root hash left = root hash right) : left = right := by
  have leftNoEmpty : [] ∉ left := fun member =>
    (plain [] (by simp [member])).1 rfl
  have rightNoEmpty : [] ∉ right := fun member =>
    (plain [] (by simp [member])).1 rfl
  by_cases leftEmpty : left = []
  · subst leftEmpty
    by_contra rightNonempty
    exact root_ne_hash_nil fixed positive injective
      (fun empty => rightNonempty empty.symm) rightDistinct rightNoEmpty
      amongRight (amongLeft [] List.mem_cons_self) same.symm
  by_cases rightEmpty : right = []
  · subst rightEmpty
    exact absurd same (root_ne_hash_nil fixed positive injective leftEmpty
      leftDistinct leftNoEmpty amongLeft
      (amongRight [] List.mem_cons_self))
  obtain ⟨leftDepth, leftTree, leftTop⟩ :=
    exists_treeAmong fixed injective leftEmpty leftDistinct amongLeft
  obtain ⟨rightDepth, rightTree, rightTop⟩ :=
    exists_treeAmong fixed injective rightEmpty rightDistinct amongRight
  rw [hashedStrings_of_ne_nil leftEmpty] at amongLeft
  rw [hashedStrings_of_ne_nil rightEmpty] at amongRight
  have inLeft : ∀ string ∈ left, string ∈ hashed := fun string member =>
    amongLeft string (by simp [member])
  have inRight : ∀ string ∈ right, string ∈ hashed := fun string member =>
    amongRight string (by simp [member])
  have sameTop : ascend hash leftDepth (left.map hash) =
      ascend hash rightDepth (right.map hash) := by
    rw [leftTop, rightTop, same]
  have sameLeaves : left.map hash = right.map hash := by
    rcases Nat.le_total leftDepth rightDepth with shallow | deep
    · obtain ⟨extra, rfl⟩ := Nat.exists_eq_add_of_le shallow
      exact leaves_eq_of_le fixed injective inLeft
        (fun string member => (plain string (by simp [member])).2)
        leftEmpty leftTree rightTree sameTop
    · obtain ⟨extra, rfl⟩ := Nat.exists_eq_add_of_le deep
      exact (leaves_eq_of_le fixed injective inRight
        (fun string member => (plain string (by simp [member])).2)
        rightEmpty rightTree leftTree sameTop.symm).symm
  exact eq_of_map_hash_eq injective inLeft inRight sameLeaves

end Width

end ScientificResourceLab.Graphs.MerkleTree
