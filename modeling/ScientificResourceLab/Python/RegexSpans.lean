import ScientificResourceLab.Python.Regex

/-!
# The matches of an expression

`pattern.finditer`, for an expression that matches no empty text, as the spans
of its matches.  `mem_spans` says where a span comes from, and `least` is a
bound below the length of every match.
-/

namespace ScientificResourceLab.Python

namespace Regex

/-- Where a match starts and stops. -/
structure Span where
  start : Nat
  stop : Nat
  deriving DecidableEq

/--
The spans from a position on.  The first number is the position, the second
how many code points of the last match are still ahead.
-/
def spansFrom (regex : Regex) :
    Nat → Nat → Option CodePoint → Text → List Span
  | _, _, _, [] => []
  | position, skip + 1, _, point :: rest =>
      regex.spansFrom (position + 1) skip (some point) rest
  | position, 0, previous, point :: rest =>
      match (regex.ends ⟨previous, point :: rest⟩).find? fun next =>
          next.rest.length ≤ rest.length with
      | none => regex.spansFrom (position + 1) 0 (some point) rest
      | some next =>
          ⟨position, position + (rest.length + 1 - next.rest.length)⟩ ::
            regex.spansFrom (position + 1)
              (rest.length - next.rest.length) (some point) rest

/-- `pattern.finditer(value)`, as the spans of the matches. -/
def spans (regex : Regex) (value : Text) : List Span :=
  regex.spansFrom 0 0 none value

/-- A span of a text at a position is an end of the engine at its start. -/
def Ends (regex : Regex) (position : Nat) (value : Text) (span : Span) :
    Prop :=
  ∃ offset before, ∃ next ∈ regex.ends ⟨before, value.drop offset⟩,
    next.rest.length + offset < value.length ∧
      span.start = position + offset ∧
      span.stop = position + (value.length - next.rest.length)

theorem Ends.later
    {regex : Regex} {position : Nat} {rest : Text} {span : Span}
    (found : Ends regex (position + 1) rest span) (point : CodePoint) :
    Ends regex position (point :: rest) span := by
  obtain ⟨offset, before, next, isEnd, inside, starts, stops⟩ := found
  refine ⟨offset + 1, before, next, isEnd, ?_, ?_, ?_⟩
  · rw [List.length_cons]
    omega
  · omega
  · rw [List.length_cons]
    omega

theorem ends_of_mem_spansFrom
    {regex : Regex} {span : Span} {position skip : Nat}
    {previous : Option CodePoint} {value : Text}
    (member : span ∈ regex.spansFrom position skip previous value) :
    Ends regex position value span := by
  induction value generalizing position skip previous with
  | nil =>
      rw [spansFrom] at member
      exact absurd member List.not_mem_nil
  | cons point rest induction =>
      cases skip with
      | succ skip =>
          rw [spansFrom] at member
          exact (induction member).later point
      | zero =>
          rw [spansFrom] at member
          split at member
          · exact (induction member).later point
          · next next found =>
              rcases List.mem_cons.mp member with rfl | member
              · have isEnd := List.mem_of_find?_eq_some found
                have shorter := List.find?_some found
                rw [decide_eq_true_eq] at shorter
                refine ⟨0, previous, next, isEnd, ?_, rfl, ?_⟩
                · rw [List.length_cons]
                  omega
                · rw [List.length_cons]
              · exact (induction member).later point

theorem mem_spans
    {regex : Regex} {value : Text} {span : Span}
    (member : span ∈ regex.spans value) :
    ∃ before, ∃ next ∈ regex.ends ⟨before, value.drop span.start⟩,
      next.rest.length + span.start < value.length ∧
        span.stop = value.length - next.rest.length := by
  obtain ⟨offset, before, next, isEnd, inside, starts, stops⟩ :=
    ends_of_mem_spansFrom member
  rw [Nat.zero_add] at starts stops
  subst starts
  exact ⟨before, next, isEnd, inside, stops⟩

/-! ## The length of a match -/

/-- A bound below the length of every match. -/
def least : Regex → Nat
  | .one _ => 1
  | .seq first second => first.least + second.least
  | .alt first second => min first.least second.least
  | .empty | .start | .boundary _ | .notAfter _ | .many _ => 0

@[simp]
theorem least_exactly (body : Regex) (count : Nat) :
    (exactly body count).least = count * body.least := by
  induction count with
  | zero => rw [exactly, least, Nat.zero_mul]
  | succ count induction =>
      rw [exactly, least, induction, Nat.succ_mul, Nat.add_comm]

theorem length_manyEnds
    {body : Position → List Position} {rounds : Nat}
    {position next : Position}
    (member : next ∈ manyEnds body rounds position) :
    next.rest.length ≤ position.rest.length := by
  induction rounds generalizing position with
  | zero =>
      rw [manyEnds, List.mem_singleton] at member
      rw [member]
  | succ rounds induction =>
      rw [manyEnds, List.mem_append, List.mem_flatMap,
        List.mem_singleton] at member
      rcases member with ⟨middle, isMiddle, member⟩ | rfl
      · have shorter := (List.mem_filter.mp isMiddle).2
        rw [decide_eq_true_eq] at shorter
        exact (induction member).trans shorter.le
      · exact le_rfl

/-- A match is at least as long as the bound. -/
theorem length_ends
    {regex : Regex} {position next : Position}
    (member : next ∈ regex.ends position) :
    next.rest.length + regex.least ≤ position.rest.length := by
  induction regex generalizing position next with
  | empty =>
      rw [ends, List.mem_singleton] at member
      rw [member]
      exact le_rfl
  | one holds =>
      rw [ends] at member
      split at member
      · next point rest isRest =>
          split_ifs at member with isHeld
          · rw [List.mem_singleton] at member
            rw [member, isRest]
            exact le_rfl
          · exact absurd member List.not_mem_nil
      · exact absurd member List.not_mem_nil
  | start =>
      rw [ends] at member
      split_ifs at member
      · rw [List.mem_singleton] at member
        rw [member]
        exact le_rfl
      · exact absurd member List.not_mem_nil
  | boundary isWord =>
      rw [ends] at member
      split_ifs at member
      · exact absurd member List.not_mem_nil
      · rw [List.mem_singleton] at member
        rw [member]
        exact le_rfl
  | notAfter holds =>
      rw [ends] at member
      split_ifs at member
      · exact absurd member List.not_mem_nil
      · rw [List.mem_singleton] at member
        rw [member]
        exact le_rfl
  | seq first second firstBound secondBound =>
      rw [ends, List.mem_flatMap] at member
      obtain ⟨middle, isMiddle, member⟩ := member
      have early := firstBound isMiddle
      have late := secondBound member
      rw [least]
      omega
  | alt first second firstBound secondBound =>
      rw [ends, List.mem_append] at member
      rw [least]
      rcases member with member | member
      · have bound := firstBound member
        omega
      · have bound := secondBound member
        omega
  | many body =>
      rw [ends] at member
      exact length_manyEnds member

end Regex

end ScientificResourceLab.Python
