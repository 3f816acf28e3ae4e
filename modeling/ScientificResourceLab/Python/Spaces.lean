import ScientificResourceLab.Python.Patterns

/-!
# White space around words

`str.strip` and `str.split` on texts whose white space is known.
-/

namespace ScientificResourceLab.Python

/-- A text that neither starts nor ends with white space is not stripped. -/
theorem strip_of_ends
    {value : Text}
    (starts : ∀ point ∈ value.head?, CodePoint.isSpace point = false)
    (ends : ∀ point ∈ value.getLast?, CodePoint.isSpace point = false) :
    strip value = value := by
  have front : value.dropWhile CodePoint.isSpace = value :=
    dropWhile_of_head starts
  have back : value.reverse.dropWhile CodePoint.isSpace = value.reverse := by
    apply dropWhile_of_head
    rw [List.head?_reverse]
    exact ends
  rw [strip, front, back, List.reverse_reverse]

/-- White space in front is stripped. -/
theorem strip_cons_space
    {space : CodePoint} (isSpace : CodePoint.isSpace space = true)
    (value : Text) : strip (space :: value) = strip value := by
  rw [strip, strip, List.dropWhile_cons_of_pos isSpace]

theorem noSpace_of_mem_words
    {value word : Text} (member : word ∈ words value) :
    ∀ point ∈ word, CodePoint.isSpace point = false := by
  have isRun := (List.mem_filter.mp member).1
  clear member
  induction value generalizing word with
  | nil =>
      rw [List.splitOnP_nil, List.mem_singleton] at isRun
      rw [isRun]
      exact fun point isPoint => absurd isPoint List.not_mem_nil
  | cons first rest induction =>
      rw [List.splitOnP_cons_eq_if_modifyHead] at isRun
      split_ifs at isRun with isSeparator
      · rcases List.mem_cons.mp isRun with rfl | isRun
        · exact fun point isPoint => absurd isPoint List.not_mem_nil
        · exact induction isRun
      · have held : CodePoint.isSpace first = false := by
          simpa using isSeparator
        cases runs : rest.splitOnP fun point =>
            !(!CodePoint.isSpace point) with
        | nil => exact absurd runs (List.splitOnP_ne_nil _ _)
        | cons run others =>
            rw [runs, List.modifyHead_cons] at isRun
            rw [runs] at induction
            rcases List.mem_cons.mp isRun with rfl | isRun
            · exact List.forall_mem_cons.mpr
                ⟨held, induction List.mem_cons_self⟩
            · exact induction (List.mem_cons_of_mem _ isRun)

/-- A text without white space is one word, if it is not empty. -/
theorem words_of_noSpace
    {value : Text} (nonempty : value ≠ [])
    (noSpace : ∀ point ∈ value, CodePoint.isSpace point = false) :
    words value = [value] := by
  rw [words, runs, List.splitOnP_eq_singleton (by simpa using noSpace),
    List.filter_cons_of_pos (by simpa using nonempty), List.filter_nil]

/-- A text without white space before a space is the first word. -/
theorem words_append_space
    {front : Text} (nonempty : front ≠ [])
    (noSpace : ∀ point ∈ front, CodePoint.isSpace point = false)
    {space : CodePoint} (isSpace : CodePoint.isSpace space = true)
    (rest : Text) :
    words (front ++ space :: rest) = front :: words rest := by
  rw [words, runs, List.splitOnP_append_cons_of_forall_mem
    (by simpa using noSpace) space (by simpa using isSpace),
    List.filter_cons_of_pos (by simpa using nonempty)]
  rfl

/-- Words with single spaces between them are split again. -/
theorem words_join
    {parts : List Text}
    (each : ∀ part ∈ parts, part ≠ [] ∧
      ∀ point ∈ part, CodePoint.isSpace point = false) :
    words (List.intercalate [codePoint ' '] parts) = parts := by
  induction parts with
  | nil => rfl
  | cons part rest induction =>
      obtain ⟨⟨nonempty, noSpace⟩, others⟩ := List.forall_mem_cons.mp each
      cases rest with
      | nil =>
          rw [List.intercalate_singleton]
          exact words_of_noSpace nonempty noSpace
      | cons next later =>
          have isSpace : CodePoint.isSpace (codePoint ' ') = true := by
            decide
          rw [List.intercalate_cons_cons, List.append_assoc,
            List.cons_append, List.nil_append,
            words_append_space nonempty noSpace isSpace, induction others]

theorem words_cut
    {space : CodePoint} (isSpace : CodePoint.isSpace space = true)
    (front rest : Text) :
    words (front ++ space :: rest) = words front ++ words rest := by
  rw [words, runs, List.splitOnP_append_cons _ _ (by simpa using isSpace),
    List.filter_append]
  rfl

/-- A space in front belongs to no word. -/
theorem words_cons_space
    {space : CodePoint} (isSpace : CodePoint.isSpace space = true)
    (rest : Text) : words (space :: rest) = words rest :=
  words_cut isSpace [] rest

theorem words_append_spaces
    {spaces : Text}
    (areSpaces : ∀ point ∈ spaces, CodePoint.isSpace point = true)
    (rest : Text) : words (spaces ++ rest) = words rest := by
  induction spaces with
  | nil => rfl
  | cons space spaces induction =>
      obtain ⟨here, later⟩ := List.forall_mem_cons.mp areSpaces
      rw [List.cons_append, words_cons_space here, induction later]

theorem ne_nil_of_mem_words
    {value word : Text} (member : word ∈ words value) : word ≠ [] := by
  simpa using (List.mem_filter.mp member).2

/-- White space behind a text is stripped. -/
theorem strip_concat_space
    {space : CodePoint} (isSpace : CodePoint.isSpace space = true)
    (value : Text) : strip (value ++ [space]) = strip value := by
  rw [strip, strip, List.dropWhile_append]
  cases dropped : value.dropWhile CodePoint.isSpace with
  | nil => simp [isSpace]
  | cons first rest => simp [isSpace]

/-- Words with single spaces between them have no space at their ends. -/
theorem strip_join
    {parts : List Text}
    (each : ∀ part ∈ parts, part ≠ [] ∧
      ∀ point ∈ part, CodePoint.isSpace point = false) :
    strip (List.intercalate [codePoint ' '] parts) =
      List.intercalate [codePoint ' '] parts := by
  apply strip_of_ends
  · cases parts with
    | nil => nofun
    | cons part rest =>
        obtain ⟨⟨nonempty, noSpace⟩, -⟩ := List.forall_mem_cons.mp each
        obtain ⟨first, later, rfl⟩ := List.exists_cons_of_ne_nil nonempty
        intro point isHead
        have same : first = point := by
          cases rest <;> simpa using isHead
        rw [← same]
        exact noSpace first List.mem_cons_self
  · induction parts with
    | nil => nofun
    | cons part rest induction =>
        obtain ⟨⟨nonempty, noSpace⟩, others⟩ := List.forall_mem_cons.mp each
        intro point isLast
        cases rest with
        | nil =>
            rw [List.intercalate_singleton] at isLast
            exact noSpace point (List.mem_of_mem_getLast? isLast)
        | cons next later =>
            have joined : List.intercalate [codePoint ' '] (next :: later) ≠
                [] := by
              obtain ⟨⟨nextNonempty, -⟩, -⟩ := List.forall_mem_cons.mp others
              cases later <;> simp [nextNonempty]
            rw [List.intercalate_cons_cons,
              List.getLast?_append_of_ne_nil _ joined] at isLast
            exact induction others point isLast

/-- A text that starts with a property starts with a run of it. -/
theorem exists_run
    (holds : CodePoint → Bool) {first : CodePoint} (others : Text)
    (isHeld : holds first = true) :
    ∃ run rest, first :: others = run ++ rest ∧ run ≠ [] ∧
      (∀ point ∈ run, holds point = true) ∧
      ∀ point ∈ rest.head?, holds point = false := by
  refine ⟨(first :: others).takeWhile holds,
    (first :: others).dropWhile holds, ?_, ?_, ?_, ?_⟩
  · exact List.takeWhile_append_dropWhile.symm
  · rw [List.takeWhile_cons_of_pos isHeld]
    exact List.cons_ne_nil _ _
  · exact List.all_eq_true.mp List.all_takeWhile
  · intro point isHead
    have stops := List.head?_dropWhile_not holds (first :: others)
    rw [isHead] at stops
    simpa using stops

theorem runs_cons_of_not
    {holds : CodePoint → Bool} {point : CodePoint}
    (stops : holds point = false) (rest : Text) :
    runs holds (point :: rest) = runs holds rest := by
  have cut := List.splitOnP_append_cons (p := fun point => !holds point)
    [] rest (by simpa using stops)
  rw [runs, show point :: rest = [] ++ point :: rest from rfl, cut]
  rfl

/-- A run ends where the property does. -/
theorem runs_append_of_head
    {holds : CodePoint → Bool} {run rest : Text} (nonempty : run ≠ [])
    (all : ∀ point ∈ run, holds point = true)
    (stops : ∀ point ∈ rest.head?, holds point = false) :
    runs holds (run ++ rest) = run :: runs holds rest := by
  cases rest with
  | nil =>
      rw [List.append_nil, runs, List.splitOnP_eq_singleton
        (by simpa using all), List.filter_cons_of_pos (by simpa using nonempty)]
      rfl
  | cons point rest =>
      have notHeld : holds point = false := stops point rfl
      rw [runs_cons_of_not notHeld, runs, List.splitOnP_append_cons_of_forall_mem
        (by simpa using all) point (by simpa using notHeld),
        List.filter_cons_of_pos (by simpa using nonempty)]
      rfl

/-- What stands around the first run of a text. -/
theorem exists_of_runs_cons
    {holds : CodePoint → Bool} {value run : Text} {others : List Text}
    (isRuns : runs holds value = run :: others) :
    ∃ gap rest, value = gap ++ (run ++ rest) ∧ run ≠ [] ∧
      (∀ point ∈ gap, holds point = false) ∧
      (∀ point ∈ run, holds point = true) ∧
      (∀ point ∈ rest.head?, holds point = false) ∧
      runs holds rest = others := by
  induction value with
  | nil => cases isRuns
  | cons first later induction =>
      cases isHeld : holds first with
      | false =>
          rw [runs_cons_of_not isHeld] at isRuns
          obtain ⟨gap, rest, split, nonempty, skipped, around⟩ :=
            induction isRuns
          refine ⟨first :: gap, rest, congrArg (first :: ·) split, nonempty,
            List.forall_mem_cons.mpr ⟨isHeld, skipped⟩, around⟩
      | true =>
          obtain ⟨front, rest, split, nonempty, all, stops⟩ :=
            exists_run holds later isHeld
          rw [split, runs_append_of_head nonempty all stops] at isRuns
          cases isRuns
          exact ⟨[], rest, split, nonempty, by simp, all, stops, rfl⟩

/-- A text is nothing, a run of spaces and what follows, or a run without
spaces and what follows. -/
theorem runs_induction
    {motive : Text → Prop} (nil : motive [])
    (space : ∀ spaces rest, spaces ≠ [] →
      (∀ point ∈ spaces, CodePoint.isSpace point = true) →
      (∀ point ∈ rest.head?, CodePoint.isSpace point = false) →
      motive rest → motive (spaces ++ rest))
    (word : ∀ front rest, front ≠ [] →
      (∀ point ∈ front, CodePoint.isSpace point = false) →
      (∀ point ∈ rest.head?, CodePoint.isSpace point = true) →
      motive rest → motive (front ++ rest))
    (value : Text) : motive value := by
  induction length : value.length using Nat.strong_induction_on
      generalizing value with
  | _ count induction =>
      cases value with
      | nil => exact nil
      | cons first others =>
          have shorter {run rest : Text} (nonempty : run ≠ [])
              (split : first :: others = run ++ rest) : motive rest := by
            have lengths := congrArg List.length split
            rw [length, List.length_append] at lengths
            have positive := List.length_pos_iff.mpr nonempty
            exact induction rest.length (by omega) rest rfl
          by_cases isSpace : CodePoint.isSpace first = true
          · obtain ⟨run, rest, split, nonempty, all, stops⟩ :=
              exists_run CodePoint.isSpace others isSpace
            rw [split]
            exact space run rest nonempty all stops (shorter nonempty split)
          · have isHeld : (!CodePoint.isSpace first) = true := by
              simpa using isSpace
            obtain ⟨run, rest, split, nonempty, all, stops⟩ :=
              exists_run (fun point => !CodePoint.isSpace point) others
                isHeld
            rw [split]
            exact word run rest nonempty (by simpa using all)
              (by simpa using stops) (shorter nonempty split)

end ScientificResourceLab.Python
