import Mathlib.Algebra.Order.Group.Defs
import Mathlib.Algebra.Order.Monoid.Unbundled.MinMax
import Mathlib.Order.Monotone.Basic

/-!
# Growth under a cap

A sequence that grows by at least a spread at every step is capped, moved up
by at most the spread, and capped again.  What comes out still does not
decrease, wherever the cap sets in.
-/

namespace ScientificResourceLab.Steps

variable {α : Type*} [AddCommGroup α] [LinearOrder α] [IsOrderedAddMonoid α]

/-- A term of a sequence, capped before and after it is moved. -/
def cappedGrowth (grow jitter : Nat → α) (cap : α) (index : Nat) : α :=
  min (min (grow index) cap + jitter index) cap

variable {grow jitter : Nat → α} {cap spread floor : α}

omit [IsOrderedAddMonoid α] in
/-- No term is above the cap. -/
theorem cappedGrowth_le_cap (index : Nat) :
    cappedGrowth grow jitter cap index ≤ cap :=
  min_le_right _ _

/-- A bound of the sequence and of the cap from below is one of the terms. -/
theorem le_cappedGrowth
    (growsFrom : ∀ index, floor ≤ grow index) (belowCap : floor ≤ cap)
    (movesUp : ∀ index, 0 ≤ jitter index) (index : Nat) :
    floor ≤ cappedGrowth grow jitter cap index := by
  have capped : floor ≤ min (grow index) cap :=
    le_min (growsFrom index) belowCap
  have moved : floor ≤ min (grow index) cap + jitter index :=
    le_add_of_le_of_nonneg capped (movesUp index)
  exact le_min moved belowCap

/-- The terms do not decrease: where the next one is not capped, the growth
makes up for the spread. -/
theorem cappedGrowth_monotone
    (grows : ∀ index, grow index + spread ≤ grow (index + 1))
    (movesUp : ∀ index, 0 ≤ jitter index)
    (withinSpread : ∀ index, jitter index ≤ spread) :
    Monotone (cappedGrowth grow jitter cap) := by
  apply monotone_nat_of_le_succ
  intro index
  have upward : min (grow (index + 1)) cap ≤
      min (grow (index + 1)) cap + jitter (index + 1) :=
    le_add_of_nonneg_right (movesUp (index + 1))
  refine le_min (le_trans ?_ upward) (cappedGrowth_le_cap index)
  rcases le_total (grow (index + 1)) cap with uncapped | isCapped
  · rw [min_eq_left uncapped]
    calc
      cappedGrowth grow jitter cap index ≤
          min (grow index) cap + jitter index := min_le_left _ _
      _ ≤ grow index + spread :=
          add_le_add (min_le_left _ _) (withinSpread index)
      _ ≤ grow (index + 1) := grows index
  · rw [min_eq_right isCapped]
    exact cappedGrowth_le_cap index

end ScientificResourceLab.Steps
