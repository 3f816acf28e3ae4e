import Mathlib.Logic.Relation
import ScientificResourceLab.Python.Regex
import ScientificResourceLab.Python.Substitution

/-!
# What an expression matches

`Regex.Matches` is the relation between the start and the end of a match, and
`mem_ends_iff` says that the engine lists exactly its ends.  So a search finds
something exactly when the expression occurs in the text.

An expression that avoids a set of delimiters does not see past them:
`occurs_delimiter_iff` cuts a text at one.
-/

namespace ScientificResourceLab.Python

/-- A position with more text behind it. -/
def Position.extend (place : Position) (more : Text) : Position :=
  ⟨place.previous, place.rest ++ more⟩

/-- What `\w` holds of; in ASCII the letters, the digits and `_`. -/
structure WordTable where
  isWord : CodePoint → Bool
  isWord_ascii : ∀ point : CodePoint, point.val < 128 →
    isWord point =
      (Regex.alphanumeric point || decide (point = codePoint '_'))

def asciiWords : WordTable where
  isWord point := Regex.alphanumeric point || decide (point = codePoint '_')
  isWord_ascii _ _ := rfl

namespace Regex

open Relation

/-! ## Matches -/

/-- A match from one position to another. -/
def Matches : Regex → Position → Position → Prop
  | .empty, place, next => place = next
  | .one holds, place, next =>
      ∃ point, holds point = true ∧ place.rest = point :: next.rest ∧
        next.previous = some point
  | .start, place, next => place.previous = none ∧ place = next
  | .boundary isWord, place, next =>
      place.previous.any isWord ≠ place.rest.head?.any isWord ∧ place = next
  | .notAfter holds, place, next =>
      place.previous.any holds = false ∧ place = next
  | .seq first second, place, next =>
      ∃ middle, first.Matches place middle ∧ second.Matches middle next
  | .alt first second, place, next =>
      first.Matches place next ∨ second.Matches place next
  | .many body, place, next => ReflTransGen body.Matches place next

/-- A match goes over a part of the text. -/
theorem Matches.advances
    {regex : Regex} {place next : Position}
    (isMatch : regex.Matches place next) :
    ∃ consumed, place.rest = consumed ++ next.rest ∧
      next.previous = lastPoint place.previous consumed := by
  induction regex generalizing place next with
  | empty =>
      cases isMatch
      exact ⟨[], rfl, rfl⟩
  | one holds =>
      obtain ⟨point, -, rest, previous⟩ := isMatch
      exact ⟨[point], rest, previous⟩
  | start =>
      cases isMatch.2
      exact ⟨[], rfl, rfl⟩
  | boundary isWord =>
      cases isMatch.2
      exact ⟨[], rfl, rfl⟩
  | notAfter holds =>
      cases isMatch.2
      exact ⟨[], rfl, rfl⟩
  | seq first second early late =>
      obtain ⟨middle, isFirst, isSecond⟩ := isMatch
      obtain ⟨front, split, previous⟩ := early isFirst
      obtain ⟨back, splitLater, previousLater⟩ := late isSecond
      refine ⟨front ++ back, ?_, ?_⟩
      · rw [split, splitLater, List.append_assoc]
      · rw [previousLater, previous, lastPoint_append]
  | alt first second early late =>
      rcases isMatch with isMatch | isMatch
      · exact early isMatch
      · exact late isMatch
  | many body step =>
      induction isMatch using ReflTransGen.head_induction_on with
      | refl => exact ⟨[], rfl, rfl⟩
      | head isStep _ rest =>
          obtain ⟨front, split, previous⟩ := step isStep
          obtain ⟨back, splitLater, previousLater⟩ := rest
          refine ⟨front ++ back, ?_, ?_⟩
          · rw [split, splitLater, List.append_assoc]
          · rw [previousLater, previous, lastPoint_append]

/-- A match that does not get shorter stays where it is. -/
theorem Matches.eq_of_length
    {regex : Regex} {place next : Position}
    (isMatch : regex.Matches place next)
    (same : ¬ next.rest.length < place.rest.length) : next = place := by
  obtain ⟨consumed, split, previous⟩ := isMatch.advances
  have length := congrArg List.length split
  rw [List.length_append] at length
  have isEmpty : consumed = [] := List.eq_nil_of_length_eq_zero (by omega)
  rw [isEmpty] at split previous
  cases place
  cases next
  cases split
  cases previous
  rfl

theorem mem_manyEnds_iff
    {body : Regex}
    (each : ∀ place next, next ∈ body.ends place ↔ body.Matches place next)
    {rounds : Nat} {place next : Position}
    (enough : place.rest.length ≤ rounds) :
    next ∈ manyEnds body.ends rounds place ↔
      ReflTransGen body.Matches place next := by
  constructor
  · clear enough
    intro member
    induction rounds generalizing place with
    | zero =>
        rw [manyEnds, List.mem_singleton] at member
        rw [member]
    | succ rounds induction =>
        rw [manyEnds, List.mem_append, List.mem_flatMap,
          List.mem_singleton] at member
        rcases member with ⟨middle, isMiddle, member⟩ | rfl
        · have isStep := (each place middle).mp (List.mem_filter.mp isMiddle).1
          exact (induction member).head isStep
        · exact .refl
  · intro isMatch
    induction isMatch using ReflTransGen.head_induction_on
        generalizing rounds with
    | refl =>
        cases rounds with
        | zero => exact List.mem_singleton_self _
        | succ rounds =>
            rw [manyEnds]
            exact List.mem_append_right _ (List.mem_singleton_self _)
    | @head place middle isStep _ rest =>
        by_cases shorter : middle.rest.length < place.rest.length
        · obtain ⟨fewer, rfl⟩ : ∃ fewer, rounds = fewer + 1 :=
            ⟨rounds - 1, by omega⟩
          rw [manyEnds]
          refine List.mem_append_left _ (List.mem_flatMap.mpr
            ⟨middle, List.mem_filter.mpr ⟨(each _ _).mpr isStep, ?_⟩, ?_⟩)
          · exact decide_eq_true shorter
          · exact rest (by omega)
        · have same := Matches.eq_of_length isStep shorter
          rw [← same]
          exact rest (by rw [same]; exact enough)

/-- The engine lists the ends of the matches. -/
theorem mem_ends_iff {regex : Regex} {place next : Position} :
    next ∈ regex.ends place ↔ regex.Matches place next := by
  induction regex generalizing place next with
  | empty =>
      rw [ends, List.mem_singleton]
      exact eq_comm
  | one holds =>
      rw [ends, Matches]
      cases place with
      | mk previous rest =>
          cases rest with
          | nil => simp
          | cons point rest =>
              by_cases isHeld : holds point = true
              · simp only [if_pos isHeld, List.mem_singleton,
                  List.cons.injEq]
                constructor
                · rintro rfl
                  exact ⟨point, isHeld, ⟨rfl, rfl⟩, rfl⟩
                · rintro ⟨other, -, ⟨rfl, rfl⟩, same⟩
                  cases next
                  cases same
                  rfl
              · simp only [if_neg isHeld, List.not_mem_nil, false_iff,
                  List.cons.injEq]
                rintro ⟨other, otherHeld, ⟨rfl, -⟩, -⟩
                exact isHeld otherHeld
  | start =>
      rw [ends, Matches]
      split_ifs with isStart
      · simp [isStart, eq_comm]
      · simp [isStart]
  | boundary isWord =>
      rw [ends, Matches]
      split_ifs with same
      · simp [same]
      · simp [same, eq_comm]
  | notAfter holds =>
      rw [ends, Matches]
      split_ifs with after
      · simp [after]
      · simp [after, eq_comm]
  | seq first second early late =>
      simp only [ends, Matches, List.mem_flatMap, early, late]
  | alt first second early late =>
      simp only [ends, Matches, List.mem_append, early, late]
  | many body each =>
      rw [ends, Matches]
      exact mem_manyEnds_iff (fun _ _ => each) le_rfl

/-! ## Searching -/

/-- The expression matches somewhere in a text, after a code point. -/
def OccursAfter (regex : Regex) (previous : Option CodePoint)
    (value : Text) : Prop :=
  ∃ front rest next, value = front ++ rest ∧
    regex.Matches ⟨lastPoint previous front, rest⟩ next

/-- The expression matches somewhere in a text. -/
def Occurs (regex : Regex) (value : Text) : Prop :=
  regex.OccursAfter none value

theorem searchFrom_isSome_iff
    {regex : Regex} {previous : Option CodePoint} {value : Text} :
    (regex.searchFrom previous value).isSome = true ↔
      regex.OccursAfter previous value := by
  induction value generalizing previous with
  | nil =>
      rw [searchFrom]
      cases found : regex.ends ⟨previous, []⟩ with
      | nil =>
          simp only [Option.isSome_none, Bool.false_eq_true, false_iff]
          rintro ⟨front, rest, next, split, isMatch⟩
          obtain ⟨rfl, rfl⟩ := List.append_eq_nil_iff.mp split.symm
          rw [← mem_ends_iff, lastPoint, found] at isMatch
          exact absurd isMatch List.not_mem_nil
      | cons next others =>
          simp only [Option.isSome_some, true_iff]
          exact ⟨[], [], next, rfl,
            mem_ends_iff.mp (found ▸ List.mem_cons_self)⟩
  | cons point rest induction =>
      rw [searchFrom]
      cases found : regex.ends ⟨previous, point :: rest⟩ with
      | nil =>
          simp only [induction]
          constructor
          · rintro ⟨front, later, next, rfl, isMatch⟩
            exact ⟨point :: front, later, next, rfl, isMatch⟩
          · rintro ⟨front, later, next, split, isMatch⟩
            cases front with
            | nil =>
                rw [List.nil_append] at split
                rw [← split, ← mem_ends_iff, lastPoint, found] at isMatch
                exact absurd isMatch List.not_mem_nil
            | cons first front =>
                cases split
                exact ⟨front, later, next, rfl, isMatch⟩
      | cons next others =>
          simp only [Option.isSome_some, true_iff]
          exact ⟨[], point :: rest, next, rfl,
            mem_ends_iff.mp (found ▸ List.mem_cons_self)⟩

/-- A search finds something exactly when the expression occurs. -/
theorem search_isSome_iff {regex : Regex} {value : Text} :
    (regex.search value).isSome = true ↔ regex.Occurs value :=
  searchFrom_isSome_iff

/-! ## Delimiters -/

/-- No class of the expression holds of a delimiter, and it does not ask for
the start of the text. -/
def Avoids (delimiter : CodePoint → Prop) : Regex → Prop
  | .empty => True
  | .one holds => ∀ point, delimiter point → holds point = false
  | .start => False
  | .boundary isWord => ∀ point, delimiter point → isWord point = false
  | .notAfter holds => ∀ point, delimiter point → holds point = false
  | .seq first second => first.Avoids delimiter ∧ second.Avoids delimiter
  | .alt first second => first.Avoids delimiter ∧ second.Avoids delimiter
  | .many body => body.Avoids delimiter

section

variable {delimiter : CodePoint → Prop} {point : CodePoint}
variable (isDelimiter : delimiter point) (later : Text)

include isDelimiter

/-- A delimiter behind a text looks like its end. -/
theorem any_head_extend
    {holds : CodePoint → Bool}
    (avoids : ∀ point, delimiter point → holds point = false)
    (place : Position) :
    (place.extend (point :: later)).rest.head?.any holds =
      place.rest.head?.any holds := by
  cases place with
  | mk previous rest =>
      cases rest with
      | nil => exact avoids point isDelimiter
      | cons first rest => rfl

/-- A match is one before a delimiter as well. -/
theorem Matches.extend
    {regex : Regex} (avoids : regex.Avoids delimiter)
    {place next : Position} (isMatch : regex.Matches place next) :
    regex.Matches (place.extend (point :: later))
      (next.extend (point :: later)) := by
  induction regex generalizing place next with
  | empty =>
      cases isMatch
      rfl
  | one holds =>
      obtain ⟨first, isHeld, rest, previous⟩ := isMatch
      refine ⟨first, isHeld, ?_, previous⟩
      rw [Position.extend, rest]
      rfl
  | start => exact avoids.elim
  | boundary isWord =>
      obtain ⟨differs, rfl⟩ := isMatch
      refine ⟨?_, rfl⟩
      rw [any_head_extend isDelimiter later avoids]
      exact differs
  | notAfter holds =>
      obtain ⟨holdsNot, rfl⟩ := isMatch
      exact ⟨holdsNot, rfl⟩
  | seq first second early late =>
      obtain ⟨middle, isFirst, isSecond⟩ := isMatch
      exact ⟨middle.extend (point :: later), early avoids.1 isFirst,
        late avoids.2 isSecond⟩
  | alt first second early late =>
      exact isMatch.imp (early avoids.1) (late avoids.2)
  | many body each =>
      rw [Matches] at isMatch ⊢
      exact ReflTransGen.lift
        (fun place : Position => place.extend (point :: later))
        (fun _ _ isStep => each avoids isStep) _ _ isMatch

/-- A match before a delimiter ends before it. -/
theorem Matches.of_extend
    {regex : Regex} (avoids : regex.Avoids delimiter)
    {place next : Position}
    (isMatch : regex.Matches (place.extend (point :: later)) next) :
    ∃ inner, next = inner.extend (point :: later) ∧
      regex.Matches place inner := by
  induction regex generalizing place next with
  | empty => exact ⟨place, isMatch.symm, rfl⟩
  | one holds =>
      obtain ⟨first, isHeld, split, previous⟩ := isMatch
      cases place with
      | mk before rest =>
          cases rest with
          | nil =>
              cases split
              rw [avoids point isDelimiter] at isHeld
              cases isHeld
          | cons head rest =>
              cases next
              cases split
              cases previous
              exact ⟨⟨some first, rest⟩, rfl, first, isHeld, rfl, rfl⟩
  | start => exact avoids.elim
  | boundary isWord =>
      obtain ⟨differs, rfl⟩ := isMatch
      rw [any_head_extend isDelimiter later avoids] at differs
      exact ⟨place, rfl, differs, rfl⟩
  | notAfter holds =>
      obtain ⟨holdsNot, rfl⟩ := isMatch
      exact ⟨place, rfl, holdsNot, rfl⟩
  | seq first second early late =>
      obtain ⟨middle, isFirst, isSecond⟩ := isMatch
      obtain ⟨inner, rfl, firstInside⟩ := early avoids.1 isFirst
      obtain ⟨last, rfl, secondInside⟩ := late avoids.2 isSecond
      exact ⟨last, rfl, inner, firstInside, secondInside⟩
  | alt first second early late =>
      rcases isMatch with isMatch | isMatch
      · obtain ⟨inner, same, isMatch⟩ := early avoids.1 isMatch
        exact ⟨inner, same, .inl isMatch⟩
      · obtain ⟨inner, same, isMatch⟩ := late avoids.2 isMatch
        exact ⟨inner, same, .inr isMatch⟩
  | many body each =>
      rw [Matches] at isMatch
      generalize isFrom : place.extend (point :: later) = outer at isMatch
      induction isMatch using ReflTransGen.head_induction_on
          generalizing place with
      | refl => exact ⟨place, isFrom.symm, .refl⟩
      | head isStep _ rest =>
          rw [← isFrom] at isStep
          obtain ⟨middle, rfl, stepInside⟩ := each avoids isStep
          obtain ⟨inner, same, isMatch⟩ := rest rfl
          exact ⟨inner, same, isMatch.head stepInside⟩

end

/-- Nothing, or a delimiter. -/
def Blank (delimiter : CodePoint → Prop) (previous : Option CodePoint) :
    Prop :=
  ∀ point ∈ previous, delimiter point

theorem Blank.any
    {delimiter : CodePoint → Prop} {previous : Option CodePoint}
    (blank : Blank delimiter previous) {holds : CodePoint → Bool}
    (avoids : ∀ point, delimiter point → holds point = false) :
    previous.any holds = false := by
  cases previous with
  | none => rfl
  | some point => exact avoids point (blank point rfl)

/-- The same text, after the same code point or after a delimiter or none. -/
def Alike (delimiter : CodePoint → Prop) (first second : Position) : Prop :=
  first.rest = second.rest ∧
    (first.previous = second.previous ∨
      Blank delimiter first.previous ∧ Blank delimiter second.previous)

theorem Alike.any
    {delimiter : CodePoint → Prop} {first second : Position}
    (alike : Alike delimiter first second) {holds : CodePoint → Bool}
    (avoids : ∀ point, delimiter point → holds point = false) :
    first.previous.any holds = second.previous.any holds := by
  rcases alike.2 with same | ⟨blank, other⟩
  · rw [same]
  · rw [blank.any avoids, other.any avoids]

/-- An expression that avoids delimiters matches alike after them. -/
theorem Matches.alike
    {delimiter : CodePoint → Prop} {regex : Regex}
    (avoids : regex.Avoids delimiter) {place next other : Position}
    (isMatch : regex.Matches place next) (alike : Alike delimiter place other) :
    ∃ last, Alike delimiter next last ∧ regex.Matches other last := by
  induction regex generalizing place next other with
  | empty =>
      cases isMatch
      exact ⟨other, alike, rfl⟩
  | one holds =>
      obtain ⟨point, isHeld, split, previous⟩ := isMatch
      refine ⟨⟨some point, next.rest⟩, ⟨rfl, .inl previous⟩, point, isHeld,
        ?_, rfl⟩
      rw [← alike.1, split]
  | start => exact avoids.elim
  | boundary isWord =>
      obtain ⟨differs, rfl⟩ := isMatch
      refine ⟨other, alike, ?_, rfl⟩
      rw [← alike.any avoids, ← alike.1]
      exact differs
  | notAfter holds =>
      obtain ⟨holdsNot, rfl⟩ := isMatch
      refine ⟨other, alike, ?_, rfl⟩
      rw [← alike.any avoids]
      exact holdsNot
  | seq first second early late =>
      obtain ⟨middle, isFirst, isSecond⟩ := isMatch
      obtain ⟨halfway, likeMiddle, firstAgain⟩ :=
        early avoids.1 isFirst alike
      obtain ⟨last, likeNext, secondAgain⟩ :=
        late avoids.2 isSecond likeMiddle
      exact ⟨last, likeNext, halfway, firstAgain, secondAgain⟩
  | alt first second early late =>
      rcases isMatch with isMatch | isMatch
      · obtain ⟨last, likeNext, again⟩ := early avoids.1 isMatch alike
        exact ⟨last, likeNext, .inl again⟩
      · obtain ⟨last, likeNext, again⟩ := late avoids.2 isMatch alike
        exact ⟨last, likeNext, .inr again⟩
  | many body each =>
      rw [Matches] at isMatch
      induction isMatch using ReflTransGen.head_induction_on
          generalizing other with
      | refl => exact ⟨other, alike, .refl⟩
      | head isStep _ rest =>
          obtain ⟨halfway, likeMiddle, stepAgain⟩ :=
            each avoids isStep alike
          obtain ⟨last, likeNext, again⟩ := rest likeMiddle
          exact ⟨last, likeNext, again.head stepAgain⟩

/-- After a delimiter an expression occurs as in a text of its own. -/
theorem occursAfter_blank_iff
    {delimiter : CodePoint → Prop} {regex : Regex}
    (avoids : regex.Avoids delimiter) {previous : Option CodePoint}
    (blank : Blank delimiter previous) {value : Text} :
    regex.OccursAfter previous value ↔ regex.Occurs value := by
  have alike (first second : Option CodePoint) (front rest : Text)
      (both : Blank delimiter first ∧ Blank delimiter second) :
      Alike delimiter ⟨lastPoint first front, rest⟩
        ⟨lastPoint second front, rest⟩ := by
    refine ⟨rfl, ?_⟩
    cases front with
    | nil => exact .inr both
    | cons point front => exact .inl rfl
  have nothing : Blank delimiter none := nofun
  constructor
  · rintro ⟨front, rest, next, split, isMatch⟩
    obtain ⟨last, -, again⟩ := isMatch.alike avoids
      (alike previous none front rest ⟨blank, nothing⟩)
    exact ⟨front, rest, last, split, again⟩
  · rintro ⟨front, rest, next, split, isMatch⟩
    obtain ⟨last, -, again⟩ := isMatch.alike avoids
      (alike none previous front rest ⟨nothing, blank⟩)
    exact ⟨front, rest, last, split, again⟩

theorem occurs_delimiter_iff
    {delimiter : CodePoint → Prop} {regex : Regex}
    (avoids : regex.Avoids delimiter) {point : CodePoint}
    (isDelimiter : delimiter point) {first second : Text} :
    regex.Occurs (first ++ point :: second) ↔
      regex.Occurs first ∨ regex.Occurs second := by
  have blank : Blank delimiter (some point) := by
    rintro _ ⟨⟩
    exact isDelimiter
  constructor
  · rintro ⟨front, rest, next, split, isMatch⟩
    rcases List.append_eq_append_iff.mp split.symm with
      ⟨inner, isFirst, isRest⟩ | ⟨inner, isFront, isSecond⟩
    · left
      rw [isRest] at isMatch
      obtain ⟨last, -, inside⟩ :=
        @Matches.of_extend _ _ isDelimiter second regex avoids
          ⟨lastPoint none front, inner⟩ next isMatch
      exact ⟨front, inner, last, isFirst, inside⟩
    · cases inner with
      | nil =>
          rw [List.append_nil] at isFront
          rw [isFront, ← List.nil_append rest, ← isSecond] at isMatch
          left
          obtain ⟨last, -, inside⟩ :=
            @Matches.of_extend _ _ isDelimiter second regex avoids
              ⟨lastPoint none first, []⟩ next isMatch
          exact ⟨first, [], last, (List.append_nil first).symm, inside⟩
      | cons head inner =>
          right
          cases isSecond
          rw [isFront, lastPoint_append] at isMatch
          exact (occursAfter_blank_iff avoids blank).mp
            ⟨inner, rest, next, rfl, isMatch⟩
  · rintro (⟨front, rest, next, rfl, isMatch⟩ | occurs)
    · refine ⟨front, rest ++ point :: second, _, List.append_assoc _ _ _,
        isMatch.extend isDelimiter second avoids⟩
    · obtain ⟨front, rest, next, rfl, isMatch⟩ :=
        (occursAfter_blank_iff avoids blank).mpr occurs
      refine ⟨first ++ point :: front, rest, next, by simp, ?_⟩
      rw [lastPoint_append]
      exact isMatch

/-! ## Avoiding -/

section

variable {delimiter : CodePoint → Prop}

theorem avoids_sequence
    {parts : List Regex} (each : ∀ part ∈ parts, part.Avoids delimiter) :
    (sequence parts).Avoids delimiter := by
  induction parts with
  | nil => trivial
  | cons part rest induction =>
      obtain ⟨here, later⟩ := List.forall_mem_cons.mp each
      cases rest with
      | nil => exact here
      | cons next others => exact ⟨here, induction later⟩

theorem avoids_oneOf
    {parts : List Regex} (each : ∀ part ∈ parts, part.Avoids delimiter) :
    (oneOf parts).Avoids delimiter := by
  induction parts with
  | nil => exact fun _ _ => rfl
  | cons part rest induction =>
      obtain ⟨here, later⟩ := List.forall_mem_cons.mp each
      cases rest with
      | nil => exact here
      | cons next others => exact ⟨here, induction later⟩

theorem avoids_one
    {holds : CodePoint → Bool}
    (apart : ∀ point, delimiter point → holds point = false) :
    (Regex.one holds).Avoids delimiter :=
  apart

theorem avoids_boundary
    {isWord : CodePoint → Bool}
    (apart : ∀ point, delimiter point → isWord point = false) :
    (Regex.boundary isWord).Avoids delimiter :=
  apart

theorem avoids_opt
    {body : Regex} (avoids : body.Avoids delimiter) :
    (opt body).Avoids delimiter :=
  ⟨avoids, trivial⟩

theorem avoids_atLeast
    {body : Regex} (avoids : body.Avoids delimiter) (count : Nat) :
    (atLeast count body).Avoids delimiter := by
  refine ⟨?_, avoids⟩
  induction count with
  | zero => trivial
  | succ count induction => exact ⟨avoids, induction⟩

/-- No code point of a list matches one of a text, case aside. -/
def apartAnyCase (delimiters : List CodePoint) (value : String) : Bool :=
  (text value).all fun point =>
    delimiters.all fun other => foldCase other ≠ foldCase point

theorem avoids_literalAnyCase
    {delimiters : List CodePoint} {value : String}
    (apart : apartAnyCase delimiters value = true) :
    (literalAnyCase value).Avoids (· ∈ delimiters) := by
  unfold apartAnyCase at apart
  unfold literalAnyCase
  generalize text value = points at apart ⊢
  induction points with
  | nil => trivial
  | cons point rest induction =>
      rw [List.all_cons, Bool.and_eq_true] at apart
      refine ⟨fun other isDelimiter => ?_, induction apart.2⟩
      simpa using List.all_eq_true.mp apart.1 other isDelimiter

/-- No code point of a list is in a text. -/
def apartFrom (delimiters : List CodePoint) (value : String) : Bool :=
  (text value).all fun point => delimiters.all fun other => other ≠ point

theorem avoids_literal
    {delimiters : List CodePoint} {value : String}
    (apart : apartFrom delimiters value = true) :
    (literal value).Avoids (· ∈ delimiters) := by
  unfold apartFrom at apart
  unfold literal
  generalize text value = points at apart ⊢
  induction points with
  | nil => trivial
  | cons point rest induction =>
      rw [List.all_cons, Bool.and_eq_true] at apart
      refine ⟨fun other isDelimiter => ?_, induction apart.2⟩
      simpa using List.all_eq_true.mp apart.1 other isDelimiter

end

/-! ## What a match needs -/

/-- Every match goes over a code point outside a set. -/
def NeedsOther (among : CodePoint → Prop) : Regex → Prop
  | .one holds => ∀ point, among point → holds point = false
  | .seq first second => first.NeedsOther among ∨ second.NeedsOther among
  | .alt first second => first.NeedsOther among ∧ second.NeedsOther among
  | .empty | .start | .boundary _ | .notAfter _ | .many _ => False

theorem Matches.needsOther
    {among : CodePoint → Prop} {regex : Regex}
    (needs : regex.NeedsOther among) {place next : Position}
    (isMatch : regex.Matches place next) :
    ∃ point ∈ place.rest, ¬ among point := by
  induction regex generalizing place next with
  | one holds =>
      obtain ⟨point, isHeld, split, -⟩ := isMatch
      refine ⟨point, split ▸ List.mem_cons_self, fun isAmong => ?_⟩
      rw [needs point isAmong] at isHeld
      cases isHeld
  | seq first second early late =>
      obtain ⟨middle, isFirst, isSecond⟩ := isMatch
      rcases needs with needs | needs
      · exact early needs isFirst
      · obtain ⟨point, member, other⟩ := late needs isSecond
        obtain ⟨consumed, split, -⟩ := isFirst.advances
        exact ⟨point, split ▸ List.mem_append_right _ member, other⟩
  | alt first second early late =>
      rcases isMatch with isMatch | isMatch
      · exact early needs.1 isMatch
      · exact late needs.2 isMatch
  | empty | start | boundary | notAfter | many => exact needs.elim

/-- Among its code points alone, the expression does not occur. -/
theorem not_occurs_of_needsOther
    {among : CodePoint → Prop} {regex : Regex}
    (needs : regex.NeedsOther among) {value : Text}
    (all : ∀ point ∈ value, among point) : ¬ regex.Occurs value := by
  rintro ⟨front, rest, next, rfl, isMatch⟩
  obtain ⟨point, member, other⟩ := isMatch.needsOther needs
  exact other (all point (List.mem_append_right _ member))

theorem needsOther_sequence
    {among : CodePoint → Prop} {parts : List Regex} {part : Regex}
    (member : part ∈ parts) (needs : part.NeedsOther among) :
    (sequence parts).NeedsOther among := by
  induction parts with
  | nil => exact absurd member List.not_mem_nil
  | cons first rest induction =>
      cases rest with
      | nil =>
          rw [List.mem_singleton.mp member] at needs
          exact needs
      | cons next others =>
          rcases List.mem_cons.mp member with rfl | member
          · exact .inl needs
          · exact .inr (induction member)

theorem needsOther_oneOf
    {among : CodePoint → Prop} {parts : List Regex}
    (each : ∀ part ∈ parts, part.NeedsOther among) :
    (oneOf parts).NeedsOther among := by
  induction parts with
  | nil => exact fun _ _ => rfl
  | cons part rest induction =>
      obtain ⟨here, later⟩ := List.forall_mem_cons.mp each
      cases rest with
      | nil => exact here
      | cons next others => exact ⟨here, induction later⟩

/-- Some code point of a text is apart from a list, case aside. -/
def partlyApart (among : List CodePoint) (value : String) : Bool :=
  (text value).any fun point =>
    among.all fun other => foldCase other ≠ foldCase point

theorem needsOther_literalAnyCase
    {among : List CodePoint} {value : String}
    (apart : partlyApart among value = true) :
    (literalAnyCase value).NeedsOther (· ∈ among) := by
  unfold partlyApart at apart
  unfold literalAnyCase
  generalize text value = points at apart ⊢
  induction points with
  | nil => cases apart
  | cons point rest induction =>
      rw [List.any_cons, Bool.or_eq_true] at apart
      rcases apart with here | later
      · refine .inl fun other isAmong => ?_
        simpa using List.all_eq_true.mp here other isAmong
      · exact .inr (induction later)

theorem needsOther_literal
    {among : List CodePoint} {value : String}
    (apart : apartFrom among value = true) (nonempty : text value ≠ []) :
    (literal value).NeedsOther (· ∈ among) := by
  unfold apartFrom at apart
  unfold literal
  cases points : text value with
  | nil => exact absurd points nonempty
  | cons point rest =>
      rw [points, List.all_cons, Bool.and_eq_true] at apart
      refine .inl fun other isAmong => ?_
      simpa using List.all_eq_true.mp apart.1 other isAmong

attribute [irreducible] Avoids NeedsOther

/-- The expression without its word boundaries. -/
def withoutBoundaries : Regex → Regex
  | .boundary _ => .empty
  | .seq first second =>
      .seq first.withoutBoundaries second.withoutBoundaries
  | .alt first second =>
      .alt first.withoutBoundaries second.withoutBoundaries
  | .many body => .many body.withoutBoundaries
  | other => other

theorem Matches.withoutBoundaries
    {regex : Regex} {place next : Position}
    (isMatch : regex.Matches place next) :
    regex.withoutBoundaries.Matches place next := by
  induction regex generalizing place next with
  | boundary isWord => exact isMatch.2
  | seq first second early late =>
      obtain ⟨middle, isFirst, isSecond⟩ := isMatch
      exact ⟨middle, early isFirst, late isSecond⟩
  | alt first second early late => exact isMatch.imp early late
  | many body each => exact ReflTransGen.mono (fun _ _ => each) _ _ isMatch
  | empty | one | start | notAfter => exact isMatch

theorem Occurs.withoutBoundaries
    {regex : Regex} {value : Text} (occurs : regex.Occurs value) :
    regex.withoutBoundaries.Occurs value := by
  obtain ⟨front, rest, next, split, isMatch⟩ := occurs
  exact ⟨front, rest, next, split, isMatch.withoutBoundaries⟩

end Regex

end ScientificResourceLab.Python
