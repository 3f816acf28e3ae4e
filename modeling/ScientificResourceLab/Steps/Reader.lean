import Mathlib.Data.List.Basic

/-!
# Readers with short reads

A reader is read in portions: asked for a number of items it returns some of
the pending ones, possibly fewer, but none only at the end.  Nothing else is
assumed of how it splits what is pending, so a result about every reader
holds for every way of splitting.

`readExactly` asks again until it has as many items as it wants.  What it
returns and what it leaves depend on the pending items alone
(`readExactly_spec`).
-/

namespace ScientificResourceLab.Steps

variable {σ α : Type}

/-- A reader with the items that are still to be read from each state. -/
structure Reader (σ α : Type) where
  read : σ → Nat → List α × σ
  pending : σ → List α
  splits : ∀ state count,
    pending state = (read state count).1 ++ pending (read state count).2
  bounded : ∀ state count, (read state count).1.length ≤ count
  progress : ∀ state count, 0 < count →
    (read state count).1 = [] → pending state = []

namespace Reader

variable (reader : Reader σ α)

/-- A portion that is not empty makes what is pending shorter. -/
theorem pending_lt
    {state : σ} {count : Nat} (nonempty : (reader.read state count).1 ≠ []) :
    (reader.pending (reader.read state count).2).length <
      (reader.pending state).length := by
  have splits := congrArg List.length (reader.splits state count)
  rw [List.length_append] at splits
  have positive := List.length_pos_of_ne_nil nonempty
  omega

/-- At the end a reader returns nothing. -/
theorem read_of_pending_nil
    {state : σ} (ended : reader.pending state = []) (count : Nat) :
    (reader.read state count).1 = [] ∧
      reader.pending (reader.read state count).2 = [] := by
  have splits := reader.splits state count
  rw [ended] at splits
  exact List.append_eq_nil_iff.mp splits.symm

/-- A reader that is asked for one item returns the first pending one. -/
theorem read_one
    {state : σ} {item : α} {rest : List α}
    (pending : reader.pending state = item :: rest) :
    (reader.read state 1).1 = [item] ∧
      reader.pending (reader.read state 1).2 = rest := by
  have splits := reader.splits state 1
  rw [pending] at splits
  cases portion : (reader.read state 1).1 with
  | nil =>
      have ended := reader.progress state 1 Nat.one_pos portion
      rw [pending] at ended
      cases ended
  | cons first others =>
      have short := reader.bounded state 1
      rw [portion, List.length_cons] at short
      have single : others = [] :=
        List.length_eq_zero_iff.mp (by omega)
      subst single
      rw [portion, List.cons_append, List.nil_append] at splits
      cases splits
      exact ⟨rfl, rfl⟩

/--
Read until `remaining` more items are there.  At the end of what is pending
the result is the number of items that are missing.
-/
def readExactly (remaining : Nat) (taken : List α) (state : σ) :
    Except Nat (List α) × σ :=
  if remaining = 0 then (.ok taken, state)
  else if _ended : (reader.read state remaining).1 = [] then
    (.error remaining, (reader.read state remaining).2)
  else
    readExactly (remaining - (reader.read state remaining).1.length)
      (taken ++ (reader.read state remaining).1)
      (reader.read state remaining).2
termination_by remaining
decreasing_by
  have positive := List.length_pos_of_ne_nil _ended
  omega

/-- Reading exactly takes the first items of what is pending. -/
theorem readExactly_spec
    (remaining : Nat) (taken : List α) (state : σ) :
    (reader.readExactly remaining taken state).1 =
        (if (reader.pending state).length < remaining then
          .error (remaining - (reader.pending state).length)
        else .ok (taken ++ (reader.pending state).take remaining)) ∧
      reader.pending (reader.readExactly remaining taken state).2 =
        (reader.pending state).drop remaining := by
  fun_induction readExactly reader remaining taken state with
  | case1 taken state => simp
  | case2 remaining taken state positive ended =>
      have empty := reader.progress state remaining
        (Nat.pos_of_ne_zero positive) ended
      rw [empty]
      refine ⟨?_, ?_⟩
      · simp [Nat.pos_of_ne_zero positive]
      · rw [(reader.read_of_pending_nil empty remaining).2]
        simp
  | case3 remaining taken state positive portion induction =>
      have short := reader.bounded state remaining
      rw [induction.1, induction.2, reader.splits state remaining,
        List.length_append]
      refine ⟨?_, ?_⟩
      · split_ifs with before after after
        · congr 1
          omega
        · omega
        · omega
        · rw [List.append_assoc, List.take_append,
            List.take_of_length_le short]
      · rw [List.drop_append, List.drop_of_length_le short,
          List.nil_append]

end Reader

/-! ## A reader of a list -/

/-- The size of the next portion, of at least one item. -/
def portionSize (sizes : List Nat) (count : Nat) : Nat :=
  min count (max 1 (sizes.headD count))

/--
A list that is read in portions of given sizes, and in portions as large as
asked for when the sizes are used up.
-/
def portions (α : Type) : Reader (List α × List Nat) α where
  read state count :=
    (state.1.take (portionSize state.2 count),
      (state.1.drop (portionSize state.2 count), state.2.tail))
  pending state := state.1
  splits state count := (List.take_append_drop _ _).symm
  bounded state count := by
    refine Nat.le_trans (List.length_take_le _ _) ?_
    exact Nat.min_le_left _ _
  progress state count positive ended := by
    rcases List.take_eq_nil_iff.mp ended with zero | empty
    · exfalso
      revert zero
      simp only [portionSize]
      omega
    · exact empty

end ScientificResourceLab.Steps
