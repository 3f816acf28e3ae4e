import Mathlib.Data.List.Sort

/-!
# Sorting by a key

A stable sort by a key keeps the elements with one key in their order
(`filter_sortBy`).  So two orders of the same elements are sorted to the same
images exactly when they agree on the order of the images of each key
(`map_sortBy_eq_iff`).
-/

namespace ScientificResourceLab.Steps

section

variable {α β κ : Type*} [LinearOrder κ] (key : α → κ)

def KeyOrder (left right : α) : Prop :=
  key left ≤ key right

instance : DecidableRel (KeyOrder key) :=
  fun left right => inferInstanceAs (Decidable (key left ≤ key right))

instance : Std.Total (KeyOrder key) where
  total left right := le_total (key left) (key right)

instance : IsTrans α (KeyOrder key) where
  trans _ _ _ first second := le_trans (α := κ) first second

/-- A stable sort by a key. -/
def sortBy (items : List α) : List α :=
  items.insertionSort (KeyOrder key)

/-- The elements with a key, in their order. -/
def group (items : List α) (value : κ) : List α :=
  items.filter fun item => key item = value

/-- Sorting permutes. -/
theorem perm_sortBy (items : List α) : (sortBy key items).Perm items :=
  List.perm_insertionSort _ items

theorem pairwise_sortBy (items : List α) :
    (sortBy key items).Pairwise (KeyOrder key) :=
  List.pairwise_insertionSort (KeyOrder key) items

/-- An element is inserted ahead of those with its key. -/
theorem group_orderedInsert (item : α) (items : List α) (value : κ) :
    group key (items.orderedInsert (KeyOrder key) item) value =
      group key (item :: items) value := by
  induction items with
  | nil => rfl
  | cons first rest induction =>
      by_cases before : KeyOrder key item first
      · rw [List.orderedInsert_cons_of_le _ _ before]
      · rw [List.orderedInsert_of_not_le _ _ before]
        unfold group at induction ⊢
        rw [List.filter_cons, induction]
        by_cases isFirst : key first = value
        · have notItem : key item ≠ value := by
            rintro isItem
            exact before (isItem.trans isFirst.symm).le
          simp [isFirst, notItem]
        · simp [List.filter_cons, isFirst]

/-- Sorting keeps the elements with one key in their order. -/
theorem group_sortBy (items : List α) (value : κ) :
    group key (sortBy key items) value = group key items value := by
  induction items with
  | nil => rfl
  | cons item rest induction =>
      rw [sortBy, List.insertionSort_cons, group_orderedInsert]
      unfold group at induction ⊢
      rw [List.filter_cons, ← sortBy, induction, List.filter_cons]

theorem map_group_of_map
    {image : α → β} {left right : List α}
    (keys : left.map key = right.map key)
    (images : left.map image = right.map image) (value : κ) :
    (group key left value).map image =
      (group key right value).map image := by
  induction left generalizing right with
  | nil =>
      cases right with
      | nil => rfl
      | cons first rest => cases keys
  | cons item items induction =>
      cases right with
      | nil => cases keys
      | cons first rest =>
          rw [List.map_cons, List.map_cons, List.cons.injEq] at keys images
          have tails := induction keys.2 images.2
          unfold group at tails ⊢
          rw [List.filter_cons, List.filter_cons, keys.1]
          split_ifs
          · rw [List.map_cons, List.map_cons, images.1, tails]
          · exact tails

/-- An element is in the group of its key. -/
theorem mem_group {item : α} {items : List α} {value : κ} :
    item ∈ group key items value ↔ item ∈ items ∧ key item = value := by
  rw [group, List.mem_filter, decide_eq_true_eq]

/-- Where the images of a key are not empty, the key occurs. -/
theorem exists_of_map_group
    {image : α → β} {left right : List α} {item : α}
    (groups : ∀ value, (group key left value).map image =
      (group key right value).map image)
    (member : item ∈ left) : ∃ other ∈ right, key other = key item := by
  have nonempty : (group key left (key item)).map image ≠ [] :=
    List.ne_nil_of_mem (List.mem_map_of_mem
      ((mem_group key).mpr ⟨member, rfl⟩))
  rw [groups] at nonempty
  obtain ⟨other, isOther⟩ := List.exists_mem_of_ne_nil _ (by
    rintro empty
    exact nonempty (by rw [empty, List.map_nil]) :
      group key right (key item) ≠ [])
  obtain ⟨inRight, sameKey⟩ := (mem_group key).mp isOther
  exact ⟨other, inRight, sameKey⟩

/-- A list with ascending keys is determined by the images of each key. -/
theorem map_eq_of_groups
    {image : α → β} {left right : List α}
    (leftSorted : left.Pairwise (KeyOrder key))
    (rightSorted : right.Pairwise (KeyOrder key))
    (groups : ∀ value, (group key left value).map image =
      (group key right value).map image) :
    left.map image = right.map image := by
  induction left generalizing right with
  | nil =>
      cases right with
      | nil => rfl
      | cons first rest =>
          obtain ⟨_, absurdMember, _⟩ := exists_of_map_group key
            (fun value => (groups value).symm) List.mem_cons_self
          exact (List.not_mem_nil absurdMember).elim
  | cons item items induction =>
      cases right with
      | nil =>
          obtain ⟨_, absurdMember, _⟩ :=
            exists_of_map_group key groups List.mem_cons_self
          exact (List.not_mem_nil absurdMember).elim
      | cons first rest =>
          have ⟨leftLeast, leftRest⟩ := List.pairwise_cons.mp leftSorted
          have ⟨rightLeast, rightRest⟩ := List.pairwise_cons.mp rightSorted
          have sameKey : key item = key first := by
            apply le_antisymm
            · obtain ⟨other, isOther, same⟩ := exists_of_map_group key
                (fun value => (groups value).symm)
                (List.mem_cons_self : first ∈ first :: rest)
              rw [← same]
              rcases List.mem_cons.mp isOther with rfl | inRest
              · exact le_rfl
              · exact leftLeast other inRest
            · obtain ⟨other, isOther, same⟩ := exists_of_map_group key
                groups (List.mem_cons_self : item ∈ item :: items)
              rw [← same]
              rcases List.mem_cons.mp isOther with rfl | inRest
              · exact le_rfl
              · exact rightLeast other inRest
          have split : ∀ value, image item = image first ∧
              (group key items value).map image =
                (group key rest value).map image := by
            intro value
            have atKey := groups (key item)
            have atValue := groups value
            unfold group at atKey atValue ⊢
            rw [List.filter_cons, List.filter_cons, ← sameKey] at atKey atValue
            simp only [decide_true, if_true, List.map_cons,
              List.cons.injEq] at atKey
            refine ⟨atKey.1, ?_⟩
            split_ifs at atValue
            · exact (List.cons.inj atValue).2
            · exact atValue
          rw [List.map_cons, List.map_cons, (split (key item)).1,
            induction leftRest rightRest fun value => (split value).2]

/-- Two orders of the same elements are sorted to the same images when they
agree on the order of the images of each key, and only then. -/
theorem map_sortBy_eq_iff
    {image : α → β} {left right : List α} (perm : left.Perm right) :
    (sortBy key left).map image = (sortBy key right).map image ↔
      ∀ value, (group key left value).map image =
        (group key right value).map image := by
  have keys : (sortBy key left).map key = (sortBy key right).map key := by
    have same : ((sortBy key left).map key).Perm
        ((sortBy key right).map key) :=
      (((perm_sortBy key left).trans perm).trans
        (perm_sortBy key right).symm).map key
    exact same.eq_of_pairwise
      (fun _ _ _ _ less more => le_antisymm less more)
      (List.pairwise_map.mpr (pairwise_sortBy key left))
      (List.pairwise_map.mpr (pairwise_sortBy key right))
  constructor
  · intro images value
    have groups := map_group_of_map key keys images value
    rwa [group_sortBy, group_sortBy] at groups
  · intro groups
    refine map_eq_of_groups key (pairwise_sortBy key left)
      (pairwise_sortBy key right) fun value => ?_
    rw [group_sortBy, group_sortBy]
    exact groups value

/-- Where the keys are distinct no order of the elements is lost. -/
theorem group_eq_of_nodup
    {left right : List α} (perm : left.Perm right)
    (distinct : (left.map key).Nodup) (value : κ) :
    group key left value = group key right value := by
  have same : (group key left value).Perm (group key right value) :=
    perm.filter _
  have keys : ((group key left value).map key).Nodup :=
    distinct.sublist (List.filter_sublist.map key)
  have atValue : ∀ item ∈ group key left value, key item = value :=
    fun item member => ((mem_group key).mp member).2
  cases elements : group key left value with
  | nil =>
      rw [elements] at same
      exact same.nil_eq
  | cons first rest =>
      rw [elements] at same keys atValue
      cases rest with
      | nil => exact (List.perm_singleton.mp same.symm).symm
      | cons second others =>
          have sameKey : key first = key second :=
            (atValue first List.mem_cons_self).trans
              (atValue second (List.mem_cons_of_mem _
                List.mem_cons_self)).symm
          simp [sameKey] at keys

end

end ScientificResourceLab.Steps
