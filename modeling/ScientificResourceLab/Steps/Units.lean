import Mathlib.Data.List.Basic
import Mathlib.Order.Nat

/-!
# Reading a stream unit by unit

A size function cuts a finite stream into units: it says how much of a
non-empty stream the unit at its head takes.  `units` lists the units with
their positions.  A reader that follows another size function, and may stop
after a unit, visits the positions that `visited` lists.

A reader that never takes more than the unit stays in step with the cutting
exactly when it takes the whole unit each time it goes on
(`visited_eq_of_whole` and `whole_of_visited`).
-/

namespace ScientificResourceLab.Steps

universe u

variable {β : Type u}

/--
The positions, with the stream that remains there, that a reader visits when
it takes `size` items at a time and stops after a unit on which `goesOn`
fails.
-/
def visited (size : List β → Nat) (goesOn : List β → Bool) :
    Nat → Nat → List β → List (Nat × List β)
  | 0, _, _ => []
  | _ + 1, _, [] => []
  | fuel + 1, position, item :: rest =>
      (position, item :: rest) ::
        if goesOn (item :: rest) then
          visited size goesOn fuel (position + size (item :: rest))
            ((item :: rest).drop (size (item :: rest)))
        else []

/-- The units of a stream under a size function. -/
def units (size : List β → Nat) :
    Nat → Nat → List β → List (Nat × List β) :=
  visited size fun _ => true

variable {size taken : List β → Nat} {goesOn : List β → Bool}

/-- Stopping only removes units. -/
theorem visited_subset_units
    (fuel position : Nat) (stream : List β) :
    visited size goesOn fuel position stream ⊆
      units size fuel position stream := by
  induction fuel generalizing position stream with
  | zero => exact List.Subset.refl _
  | succ fuel induction =>
      cases stream with
      | nil => exact List.Subset.refl _
      | cons item rest =>
          rw [units, visited, visited, if_pos rfl]
          refine List.cons_subset_cons _ ?_
          by_cases goes : goesOn (item :: rest) = true
          · rw [if_pos goes]
            exact induction _ _
          · rw [if_neg goes]
            exact List.nil_subset _

/-- A reader stops at the end of the stream. -/
theorem ne_nil_of_mem_visited
    {fuel position : Nat} {stream : List β} {unit : Nat × List β}
    (member : unit ∈ visited size goesOn fuel position stream) :
    unit.2 ≠ [] := by
  induction fuel generalizing position stream with
  | zero => cases member
  | succ fuel induction =>
      cases stream with
      | nil => cases member
      | cons item rest =>
          rw [visited] at member
          rcases List.mem_cons.mp member with rfl | later
          · exact List.cons_ne_nil _ _
          · split_ifs at later with goes
            · exact induction later
            · cases later

/-- Positions only grow. -/
theorem le_of_mem_units
    {fuel position : Nat} {stream : List β} {unit : Nat × List β}
    (member : unit ∈ units size fuel position stream) :
    position ≤ unit.1 := by
  induction fuel generalizing position stream with
  | zero => cases member
  | succ fuel induction =>
      cases stream with
      | nil => cases member
      | cons item rest =>
          rw [units, visited, if_pos rfl] at member
          rcases List.mem_cons.mp member with rfl | later
          · exact le_rfl
          · exact le_trans (Nat.le_add_right _ _) (induction later)

/-- A reader that goes on visits the position after what it took. -/
theorem next_mem_visited
    {fuel position : Nat} {stream : List β}
    (goes : goesOn stream = true) (nonempty : stream ≠ [])
    (remains : stream.drop (size stream) ≠ []) :
    (position + size stream, stream.drop (size stream)) ∈
      visited size goesOn (fuel + 2) position stream := by
  obtain ⟨item, rest, rfl⟩ := List.exists_cons_of_ne_nil nonempty
  obtain ⟨next, after, isNext⟩ := List.exists_cons_of_ne_nil remains
  rw [visited, if_pos goes, isNext, visited]
  exact List.mem_cons_of_mem _ List.mem_cons_self

/-- A reader that takes whole units whenever it goes on visits only units. -/
theorem visited_eq_of_whole
    {fuel position : Nat} {stream : List β}
    (whole : ∀ unit ∈ visited size goesOn fuel position stream,
      goesOn unit.2 = true → taken unit.2 = size unit.2) :
    visited taken goesOn fuel position stream =
      visited size goesOn fuel position stream := by
  induction fuel generalizing position stream with
  | zero => rfl
  | succ fuel induction =>
      cases stream with
      | nil => rfl
      | cons item rest =>
          rw [visited] at whole ⊢
          rw [visited]
          by_cases goes : goesOn (item :: rest) = true
          · simp only [goes, if_true] at whole ⊢
            rw [whole _ List.mem_cons_self goes]
            rw [induction fun unit member =>
              whole unit (List.mem_cons_of_mem _ member)]
          · simp [goes]

/--
A reader that takes part of each unit, and visits only positions of units,
takes the whole unit whenever it goes on.
-/
theorem whole_of_visited
    (some : ∀ stream, stream ≠ [] → 0 < taken stream)
    (part : ∀ stream, stream ≠ [] → taken stream ≤ size stream)
    (within : ∀ stream, stream ≠ [] → size stream ≤ stream.length)
    {fuel position : Nat} {stream : List β}
    (enough : stream.length < fuel)
    (inStep : ∀ unit ∈ visited taken goesOn fuel position stream,
      ∃ start ∈ units size fuel position stream, start.1 = unit.1) :
    ∀ unit ∈ visited size goesOn fuel position stream,
      goesOn unit.2 = true → taken unit.2 = size unit.2 := by
  induction fuel generalizing position stream with
  | zero => exact absurd enough (Nat.not_lt_zero _)
  | succ fuel induction =>
      cases stream with
      | nil => simp [visited]
      | cons item rest =>
          have nonempty : item :: rest ≠ [] := List.cons_ne_nil _ _
          have positive := some _ nonempty
          by_cases goes : goesOn (item :: rest) = true
          · have whole : taken (item :: rest) = size (item :: rest) := by
              by_contra differs
              have less : taken (item :: rest) < size (item :: rest) :=
                lt_of_le_of_ne (part _ nonempty) differs
              have remains : ((item :: rest).drop
                  (taken (item :: rest))) ≠ [] := by
                rw [Ne, List.drop_eq_nil_iff, not_le]
                exact lt_of_lt_of_le less (within _ nonempty)
              obtain ⟨fuel, rfl⟩ : ∃ count, fuel = count + 1 := by
                refine ⟨fuel - 1, ?_⟩
                simp only [List.length_cons] at enough
                omega
              obtain ⟨start, isUnit, same⟩ := inStep _
                (next_mem_visited goes nonempty remains)
              rw [units, visited, if_pos rfl] at isUnit
              simp only at same
              rcases List.mem_cons.mp isUnit with rfl | later
              · simp only at same
                omega
              · have after := le_of_mem_units later
                omega
            have tail := @induction (position + size (item :: rest))
              ((item :: rest).drop (size (item :: rest))) (by
                have bound := within _ nonempty
                rw [whole] at positive
                simp only [List.length_drop, List.length_cons] at *
                omega) (by
                intro unit member
                obtain ⟨start, isUnit, same⟩ := inStep unit (by
                  rw [visited, if_pos goes, whole]
                  exact List.mem_cons_of_mem _ member)
                have later : position + size (item :: rest) ≤ unit.1 :=
                  le_of_mem_units (visited_subset_units _ _ _ member)
                rw [units, visited, if_pos rfl] at isUnit
                rcases List.mem_cons.mp isUnit with rfl | isLater
                · simp only at same
                  omega
                · exact ⟨start, isLater, same⟩)
            intro unit member
            rw [visited, if_pos goes] at member
            rcases List.mem_cons.mp member with rfl | later
            · exact fun _ => whole
            · exact tail unit later
          · intro unit member
            rw [visited, if_neg goes] at member
            rw [List.mem_singleton.mp member]
            exact fun goesNow => absurd goesNow goes

end ScientificResourceLab.Steps
