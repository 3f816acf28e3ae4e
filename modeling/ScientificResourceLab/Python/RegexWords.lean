import ScientificResourceLab.Python.RegexMatches

/-!
# The words that an expression reads

An expression without anchors reads the words of a set, whatever is around
them.  A pattern that begins with such expressions is searched word by word:
`Reads.matchesAt_seq` takes one off the front.
-/

namespace ScientificResourceLab.Python

/-- At the start of a text the code point before is the last one, if any. -/
theorem lastPoint_none (front : Text) :
    lastPoint none front = front.getLast? := by
  induction front using List.reverseRecOn with
  | nil => rfl
  | append_singleton front last =>
      rw [lastPoint_concat, List.getLast?_concat]

theorem lastPoint_eq_none_iff {front : Text} :
    lastPoint none front = none ↔ front = [] := by
  rw [lastPoint_none, List.getLast?_eq_none_iff]

namespace Regex

/-! ## The words of an expression -/

/-- The expression matches the words of a set and nothing else, whatever is
around them. -/
def Reads (regex : Regex) (words : Set Text) : Prop :=
  ∀ place next, regex.Matches place next ↔
    ∃ word ∈ words, place.rest = word ++ next.rest ∧
      next.previous = lastPoint place.previous word

theorem reads_empty : Regex.empty.Reads {[]} := by
  intro place next
  constructor
  · rintro rfl
    exact ⟨[], rfl, rfl, rfl⟩
  · rintro ⟨word, rfl, rest, previous⟩
    cases place
    cases next
    cases rest
    cases previous
    rfl

theorem reads_one (holds : CodePoint → Bool) :
    (Regex.one holds).Reads
      {word | ∃ point, holds point = true ∧ word = [point]} := by
  intro place next
  constructor
  · rintro ⟨point, isHeld, rest, previous⟩
    exact ⟨[point], ⟨point, isHeld, rfl⟩, rest, previous⟩
  · rintro ⟨_, ⟨point, isHeld, rfl⟩, rest, previous⟩
    exact ⟨point, isHeld, rest, previous⟩

theorem Reads.seq
    {first second : Regex} {front back : Set Text}
    (readsFirst : first.Reads front) (readsSecond : second.Reads back) :
    (Regex.seq first second).Reads
      {word |
        ∃ early ∈ front, ∃ late ∈ back, word = early ++ late} := by
  intro place next
  constructor
  · rintro ⟨middle, isFirst, isSecond⟩
    rcases (readsFirst _ _).mp isFirst with
      ⟨early, inFront, split, previous⟩
    rcases (readsSecond _ _).mp isSecond with
      ⟨late, inBack, splitLater, previousLater⟩
    refine ⟨early ++ late, ⟨early, inFront, late, inBack, rfl⟩, ?_, ?_⟩
    · rw [split, splitLater, List.append_assoc]
    · rw [previousLater, previous, lastPoint_append]
  · rintro ⟨_, ⟨early, inFront, late, inBack, rfl⟩, split, previous⟩
    refine ⟨⟨lastPoint place.previous early, late ++ next.rest⟩,
      (readsFirst _ _).mpr ⟨early, inFront, ?_, rfl⟩,
      (readsSecond _ _).mpr ⟨late, inBack, rfl, ?_⟩⟩
    · rw [split, List.append_assoc]
    · rw [previous, lastPoint_append]

theorem reads_point (char : Char) :
    (point char).Reads {[codePoint char]} := by
  intro place next
  refine (reads_one (fun found => found = codePoint char) place
    next).trans ?_
  simp only [decide_eq_true_eq, exists_eq_left, Set.mem_ofPred_eq,
    Set.mem_singleton_iff]

theorem Reads.alt
    {first second : Regex} {front back : Set Text}
    (readsFirst : first.Reads front) (readsSecond : second.Reads back) :
    (Regex.alt first second).Reads (front ∪ back) := by
  intro place next
  refine (or_congr (readsFirst place next) (readsSecond place next)).trans ?_
  simp only [Set.mem_union, or_and_right, exists_or]

/-- One of several expressions reads the words of all of them. -/
theorem reads_oneOf
    {α : Type} {regex : α → Regex} {words : α → Set Text}
    (each : ∀ part, (regex part).Reads (words part)) (parts : List α) :
    (oneOf (parts.map regex)).Reads
      {word | ∃ part ∈ parts, word ∈ words part} := by
  induction parts with
  | nil =>
      intro place next
      constructor
      · rintro ⟨_, never, _⟩
        exact absurd never Bool.false_ne_true
      · rintro ⟨_, ⟨part, isPart, _⟩, _⟩
        exact absurd isPart List.not_mem_nil
  | cons first rest induction =>
      cases rest with
      | nil =>
          intro place next
          refine (each first place next).trans ?_
          simp
      | cons second others =>
          intro place next
          refine ((each first).alt induction place next).trans ?_
          simp only [Set.mem_union, Set.mem_ofPred_eq, List.mem_cons,
            exists_eq_or_imp]

/-- A row of classes reads the words whose code points are in them, each in
its own. -/
theorem reads_row
    (holds : CodePoint → CodePoint → Bool) (points : Text) :
    (points.foldr (fun point rest => .seq (.one (holds point)) rest)
        Regex.empty).Reads
      {word | List.Forall₂ (fun point found => holds point found = true)
        points word} := by
  induction points with
  | nil =>
      intro place next
      refine (reads_empty place next).trans ?_
      simp only [Set.mem_singleton_iff, Set.mem_ofPred_eq,
        List.forall₂_nil_left_iff]
  | cons point rest induction =>
      intro place next
      refine (((reads_one (holds point)).seq induction) place next).trans ?_
      refine exists_congr fun word => and_congr_left fun _ => ?_
      constructor
      · rintro ⟨_, ⟨found, isHeld, rfl⟩, late, isLate, rfl⟩
        exact .cons isHeld isLate
      · rintro (_ | ⟨isHeld, isLate⟩)
        exact ⟨_, ⟨_, isHeld, rfl⟩, _, isLate, rfl⟩

/-- A fixed text is read by itself. -/
theorem reads_literal (value : String) :
    (literal value).Reads {text value} := by
  intro place next
  refine (reads_row (fun point found => found = point) (text value)
    place next).trans ?_
  refine exists_congr fun word => and_congr_left fun _ => ?_
  rw [Set.mem_ofPred_eq, Set.mem_singleton_iff, eq_comm,
    ← List.forall₂_eq_eq_eq]
  constructor
  · exact fun all => all.imp fun _ _ same => (of_decide_eq_true same).symm
  · exact fun all => all.imp fun _ _ same => decide_eq_true same.symm

/-- One of several fixed texts. -/
theorem reads_anyLiteral (values : List String) :
    (oneOf (values.map literal)).Reads
      {word | ∃ value ∈ values, word = text value} :=
  reads_oneOf reads_literal values

/-- What a text without regard to case reads. -/
def foldings (value : String) : Set Text :=
  {word | word.map foldCase = (text value).map foldCase}

theorem reads_literalAnyCase (value : String) :
    (literalAnyCase value).Reads (foldings value) := by
  intro place next
  refine (reads_row
    (fun point found => foldCase found = foldCase point) (text value)
    place next).trans ?_
  refine exists_congr fun word => and_congr_left fun _ => ?_
  rw [foldings, Set.mem_ofPred_eq, Set.mem_ofPred_eq, eq_comm,
    ← List.forall₂_eq_eq_eq, List.forall₂_map_left_iff,
    List.forall₂_map_right_iff]
  constructor
  · exact fun all => all.imp fun _ _ same => (of_decide_eq_true same).symm
  · exact fun all => all.imp fun _ _ same => decide_eq_true same.symm

/-- A repetition reads as many code points of its class. -/
theorem reads_exactly (holds : CodePoint → Bool) (count : Nat) :
    (exactly (.one holds) count).Reads
      {word | word.length = count ∧ ∀ point ∈ word,
        holds point = true} := by
  induction count with
  | zero =>
      intro place next
      refine (reads_empty place next).trans ?_
      refine exists_congr fun word => and_congr_left fun _ => ?_
      constructor
      · rintro rfl
        exact ⟨rfl, by simp⟩
      · rintro ⟨isEmpty, _⟩
        exact List.eq_nil_of_length_eq_zero isEmpty
  | succ count induction =>
      intro place next
      refine (((reads_one holds).seq induction) place next).trans ?_
      refine exists_congr fun word => and_congr_left fun _ => ?_
      constructor
      · rintro ⟨_, ⟨point, isHeld, rfl⟩, late, ⟨length, all⟩, rfl⟩
        refine ⟨congrArg (· + 1) length, ?_⟩
        exact List.forall_mem_cons.mpr ⟨isHeld, all⟩
      · rintro ⟨length, all⟩
        cases word with
        | nil => exact absurd length.symm (Nat.succ_ne_zero count)
        | cons point late =>
            rcases List.forall_mem_cons.mp all with ⟨isHeld, isLate⟩
            exact ⟨[point], ⟨point, isHeld, rfl⟩, late,
              ⟨Nat.succ.inj length, isLate⟩, rfl⟩

/-! ## Where a match begins -/

/-- Some match begins at a position. -/
def MatchesAt (regex : Regex) (place : Position) : Prop :=
  ∃ next, regex.Matches place next

theorem occurs_iff_matchesAt {regex : Regex} {value : Text} :
    regex.Occurs value ↔
      ∃ front rest, value = front ++ rest ∧
        regex.MatchesAt ⟨lastPoint none front, rest⟩ := by
  constructor
  · rintro ⟨front, rest, next, split, isMatch⟩
    exact ⟨front, rest, split, next, isMatch⟩
  · rintro ⟨front, rest, split, next, isMatch⟩
    exact ⟨front, rest, next, split, isMatch⟩

theorem matchesAt_start_seq {rest : Regex} {place : Position} :
    (Regex.seq .start rest).MatchesAt place ↔
      place.previous = none ∧ rest.MatchesAt place := by
  constructor
  · rintro ⟨next, _, ⟨atStart, rfl⟩, isMatch⟩
    exact ⟨atStart, next, isMatch⟩
  · rintro ⟨atStart, next, isMatch⟩
    exact ⟨next, place, ⟨atStart, rfl⟩, isMatch⟩

theorem matchesAt_alt_seq {first second rest : Regex} {place : Position} :
    (Regex.seq (.alt first second) rest).MatchesAt place ↔
      (Regex.seq first rest).MatchesAt place ∨
        (Regex.seq second rest).MatchesAt place := by
  constructor
  · rintro ⟨next, middle, isFirst | isSecond, isRest⟩
    · exact .inl ⟨next, middle, isFirst, isRest⟩
    · exact .inr ⟨next, middle, isSecond, isRest⟩
  · rintro (⟨next, middle, isFirst, isRest⟩ |
      ⟨next, middle, isSecond, isRest⟩)
    · exact ⟨next, middle, .inl isFirst, isRest⟩
    · exact ⟨next, middle, .inr isSecond, isRest⟩

theorem matchesAt_boundary_seq
    {isWord : CodePoint → Bool} {rest : Regex} {place : Position} :
    (Regex.seq (.boundary isWord) rest).MatchesAt place ↔
      place.previous.any isWord ≠ place.rest.head?.any isWord ∧
        rest.MatchesAt place := by
  constructor
  · rintro ⟨next, _, ⟨atBoundary, rfl⟩, isMatch⟩
    exact ⟨atBoundary, next, isMatch⟩
  · rintro ⟨atBoundary, next, isMatch⟩
    exact ⟨next, place, ⟨atBoundary, rfl⟩, isMatch⟩

theorem matchesAt_boundary
    {isWord : CodePoint → Bool} {place : Position} :
    (Regex.boundary isWord).MatchesAt place ↔
      place.previous.any isWord ≠ place.rest.head?.any isWord := by
  constructor
  · rintro ⟨next, atBoundary, _⟩
    exact atBoundary
  · intro atBoundary
    exact ⟨place, atBoundary, rfl⟩

/-- No repetition is one too. -/
theorem matchesAt_many (body : Regex) (place : Position) :
    (Regex.many body).MatchesAt place :=
  ⟨place, .refl⟩

theorem Reads.matchesAt_seq
    {first rest : Regex} {words : Set Text} (reads : first.Reads words)
    {place : Position} :
    (Regex.seq first rest).MatchesAt place ↔
      ∃ word ∈ words, ∃ later, place.rest = word ++ later ∧
        rest.MatchesAt ⟨lastPoint place.previous word, later⟩ := by
  constructor
  · rintro ⟨next, middle, isFirst, isRest⟩
    rcases (reads _ _).mp isFirst with ⟨word, isWord, split, previous⟩
    refine ⟨word, isWord, middle.rest, split, next, ?_⟩
    rw [← previous]
    exact isRest
  · rintro ⟨word, isWord, later, split, next, isRest⟩
    exact ⟨next, _, (reads _ _).mpr ⟨word, isWord, split, rfl⟩, isRest⟩

theorem Reads.matchesAt
    {regex : Regex} {words : Set Text} (reads : regex.Reads words)
    {place : Position} :
    regex.MatchesAt place ↔
      ∃ word ∈ words, ∃ later, place.rest = word ++ later := by
  constructor
  · rintro ⟨next, isMatch⟩
    rcases (reads _ _).mp isMatch with ⟨word, isWord, split, _⟩
    exact ⟨word, isWord, next.rest, split⟩
  · rintro ⟨word, isWord, later, split⟩
    exact ⟨⟨_, later⟩, (reads _ _).mpr ⟨word, isWord, split, rfl⟩⟩

end Regex

end ScientificResourceLab.Python
