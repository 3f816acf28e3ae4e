import ScientificResourceLab.Steps.Fallible

/-!
# Sequences of checks

A validator is a sequence of checks, each of which is reached only when the
ones before it pass.  What such a sequence can raise is what the first check
that does not pass can raise, so a condition on the whole is a condition on
every check that is reached.
-/

namespace ScientificResourceLab.Steps

universe u v

/-- A check: when it passes, and what is wanted of it if it is reached. -/
structure Check where
  passes : Prop
  wanted : Prop

/-- Every check that is reached is as wanted. -/
def Reached : List Check → Prop
  | [] => True
  | check :: rest => check.wanted ∧ (check.passes → Reached rest)

@[simp]
theorem reached_nil : Reached [] :=
  trivial

@[simp]
theorem reached_cons {check : Check} {rest : List Check} :
    Reached (check :: rest) ↔
      check.wanted ∧ (check.passes → Reached rest) :=
  Iff.rfl

variable {ε : Type u} {α β : Type v} {allowed : ε → Prop}

/-- A computation returns. -/
def Returns (result : Except ε α) : Prop :=
  ∃ value, result = .ok value

/--
A sequence raises only what is allowed when its first part does and, if this
returns, the rest does; the rest may not depend on what was returned.
-/
theorem raisesOnly_bind_reached
    {first : Except ε α} {rest : α → Except ε β} {later : Prop}
    (same : ∀ value, first = .ok value →
      (RaisesOnly allowed (rest value) ↔ later)) :
    RaisesOnly allowed (first >>= rest) ↔
      RaisesOnly allowed first ∧ (Returns first → later) := by
  rw [raisesOnly_bind_iff]
  refine and_congr_right fun _ => ?_
  constructor
  · rintro each ⟨value, isValue⟩
    exact (same value isValue).mp (each value isValue)
  · intro holds value isValue
    exact (same value isValue).mpr (holds ⟨value, isValue⟩)

theorem raisesOnly_bind_check
    {first : Except ε α} {rest : α → Except ε β} {wanted : Prop}
    {later : List Check} (head : RaisesOnly allowed first ↔ wanted)
    (tail : ∀ value, first = .ok value →
      (RaisesOnly allowed (rest value) ↔ Reached later)) :
    RaisesOnly allowed (first >>= rest) ↔
      Reached (⟨Returns first, wanted⟩ :: later) := by
  rw [reached_cons, ← head]
  exact raisesOnly_bind_reached tail

/-- A check that raises nothing else, in front of a sequence. -/
theorem raisesOnly_bind_of_head
    {first : Except ε α} {rest : α → Except ε β} {later : Prop}
    (head : RaisesOnly allowed first)
    (tail : ∀ value, first = .ok value →
      (RaisesOnly allowed (rest value) ↔ later)) :
    RaisesOnly allowed (first >>= rest) ↔ (Returns first → later) :=
  (raisesOnly_bind_reached tail).trans (and_iff_right head)

/-- A loop raises only what is allowed when every item it reaches does. -/
theorem raisesOnly_mapM_reached
    {items : List α} {body : α → Except ε β} :
    RaisesOnly allowed (items.mapM body) ↔
      Reached (items.map fun item =>
        ⟨Returns (body item), RaisesOnly allowed (body item)⟩) := by
  induction items with
  | nil =>
      rw [List.mapM_nil]
      exact iff_of_true (raisesOnly_ok []) trivial
  | cons item items induction =>
      rw [List.mapM_cons, List.map_cons, reached_cons, ← induction]
      refine raisesOnly_bind_reached fun first _ => ?_
      rw [raisesOnly_bind_iff]
      exact and_iff_left fun _ _ => raisesOnly_ok _

/-- Sequences of checks that agree check by check. -/
theorem reached_map_congr
    {γ : Type*} {items : List γ} {left right : γ → Check}
    (passes : ∀ item ∈ items, ((left item).passes ↔ (right item).passes))
    (wanted : ∀ item ∈ items, ((left item).wanted ↔ (right item).wanted)) :
    Reached (items.map left) ↔ Reached (items.map right) := by
  induction items with
  | nil => rfl
  | cons item items induction =>
      have head := passes item List.mem_cons_self
      have rest := induction
        (fun other member => passes other (List.mem_cons_of_mem _ member))
        fun other member => wanted other (List.mem_cons_of_mem _ member)
      rw [List.map_cons, List.map_cons, reached_cons, reached_cons,
        wanted item List.mem_cons_self, head, rest]

end ScientificResourceLab.Steps
