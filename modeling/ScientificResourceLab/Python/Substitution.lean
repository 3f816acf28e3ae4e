import ScientificResourceLab.Python.Patterns

/-!
# What a substitution does along a text

`re.sub` goes through a text from the left: it copies what its pattern passes
over and replaces what it finds.  `substituteFrom_copy` and
`substituteFrom_found` are these two steps.
-/

namespace ScientificResourceLab.Python

/-- The code point before what follows a text. -/
def lastPoint (previous : Option CodePoint) : Text → Option CodePoint
  | [] => previous
  | point :: rest => lastPoint (some point) rest

@[simp]
theorem lastPoint_concat
    (previous : Option CodePoint) (front : Text) (last : CodePoint) :
    lastPoint previous (front ++ [last]) = some last := by
  induction front generalizing previous with
  | nil => rfl
  | cons point rest induction => exact induction (some point)

theorem lastPoint_append
    (previous : Option CodePoint) (front rest : Text) :
    lastPoint previous (front ++ rest) =
      lastPoint (lastPoint previous front) rest := by
  induction front generalizing previous with
  | nil => rfl
  | cons point front induction => exact induction (some point)

/-- A code point at which a pattern matches nothing, whatever is around it. -/
def Passes (find : Pattern) (point : CodePoint) : Prop :=
  ∀ previous rest, find previous (point :: rest) = none

/-- Code points that a pattern passes over are copied. -/
theorem substituteFrom_copy
    {find : Pattern} {front : Text}
    (passes : ∀ point ∈ front, Passes find point)
    (previous : Option CodePoint) (rest : Text) :
    substituteFrom find previous 0 (front ++ rest) =
      front ++ substituteFrom find (lastPoint previous front) 0 rest := by
  induction front generalizing previous with
  | nil => rfl
  | cons point front induction =>
      rw [List.forall_mem_cons] at passes
      rw [List.cons_append, substituteFrom, passes.1 previous]
      simp only
      rw [induction passes.2, lastPoint, List.cons_append]

theorem substitute_copy
    {find : Pattern} {value : Text}
    (passes : ∀ point ∈ value, Passes find point) :
    substitute find value = value := by
  have copied := substituteFrom_copy passes none []
  rwa [List.append_nil, substituteFrom, List.append_nil] at copied

/-- What is matched already is dropped. -/
theorem substituteFrom_matched
    (find : Pattern) (previous : Option CodePoint) (found rest : Text) :
    substituteFrom find previous found.length (found ++ rest) =
      substituteFrom find (lastPoint previous found) 0 rest := by
  induction found generalizing previous with
  | nil => rfl
  | cons point found induction => exact induction (some point)

/-- A match is replaced, and the search goes on behind it. -/
theorem substituteFrom_found
    {find : Pattern} {previous : Option CodePoint}
    {token rest replacement : Text} (nonempty : token ≠ [])
    (found : find previous (token ++ rest) =
      some ⟨token.length, replacement⟩) :
    substituteFrom find previous 0 (token ++ rest) =
      replacement ++
        substituteFrom find (lastPoint previous token) 0 rest := by
  cases token with
  | nil => exact absurd rfl nonempty
  | cons point token =>
      rw [List.cons_append] at found ⊢
      rw [substituteFrom, found]
      simp only [List.length_cons, Nat.add_sub_cancel]
      rw [substituteFrom_matched, lastPoint]

/-- A property of what is copied and of every replacement holds of the
result. -/
theorem forall_mem_substituteFrom
    {find : Pattern} {holds : CodePoint → Prop}
    (replaced : ∀ previous rest found, find previous rest = some found →
      ∀ point ∈ found.replacement, holds point)
    (copied : ∀ previous point rest, find previous (point :: rest) = none →
      holds point)
    (previous : Option CodePoint) (matched : Nat) (value : Text) :
    ∀ point ∈ substituteFrom find previous matched value, holds point := by
  induction value generalizing previous matched with
  | nil => exact nofun
  | cons first rest induction =>
      cases matched with
      | succ matched => exact induction (some first) matched
      | zero =>
          rw [substituteFrom]
          cases found : find previous (first :: rest) with
          | some isMatch =>
              exact List.forall_mem_append.mpr
                ⟨replaced _ _ _ found, induction _ _⟩
          | none =>
              exact List.forall_mem_cons.mpr
                ⟨copied _ _ _ found, induction _ _⟩

/-- A run ends where its property does. -/
theorem takeWhile_append_stop
    {holds : CodePoint → Bool} {front rest : Text}
    (all : ∀ point ∈ front, holds point = true)
    (stops : ∀ point ∈ rest.head?, holds point = false) :
    (front ++ rest).takeWhile holds = front := by
  rw [List.takeWhile_append_of_pos all]
  cases rest with
  | nil => rw [List.takeWhile_nil, List.append_nil]
  | cons point rest =>
      have stop := stops point rfl
      rw [List.takeWhile_cons_of_neg (by simp [stop]), List.append_nil]

end ScientificResourceLab.Python
