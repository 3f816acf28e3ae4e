import ScientificResourceLab.Execution.Orphans
import ScientificResourceLab.Python.Printing
import ScientificResourceLab.Python.Spaces

/-!
# The axiom inventory of a proof receipt

`_extract_axioms` of `srl.packs.formal.lean.adapter` on the output of
`#print axioms`.  It looks for the report of a declaration without axioms
anywhere in the output, and else reads the first line with a list.  The names
of a report stand between brackets and commas, which it keeps, so it has none
of them by its name (`inventoryComplete_iff`).
-/

namespace ScientificResourceLab.Packs.Formal

open Python
open Execution (splitLines isLineBreak)

/-! ## Decoding -/

/-- The second byte of a sequence of three, after its lead. -/
def opensThree (lead second : Nat) : Bool :=
  (if lead = 0xE0 then 0xA0 else 0x80) ≤ second &&
    second ≤ (if lead = 0xED then 0x9F else 0xBF)

/-- The second byte of a sequence of four, after its lead. -/
def opensFour (lead second : Nat) : Bool :=
  (if lead = 0xF0 then 0x90 else 0x80) ≤ second &&
    second ≤ (if lead = 0xF4 then 0x8F else 0xBF)

/-- `U+FFFD`. -/
def replacementPoint : CodePoint :=
  ⟨0xFFFD, by decide⟩

/--
`bytes.decode("utf-8", errors="replace")`: the longest start of a sequence
that breaks off is replaced as a whole.
-/
def utf8Replace : Bytes → Text
  | [] => []
  | first :: rest =>
      let lead := first.toNat
      if lead < 0x80 then Fin.ofNat 0x110000 lead :: utf8Replace rest
      else if 0xC2 ≤ lead ∧ lead ≤ 0xDF then
        match rest with
        | [] => [replacementPoint]
        | second :: others =>
            if isTail second then
              Fin.ofNat 0x110000
                ((lead - 0xC0) * 64 + (second.toNat - 0x80)) ::
                  utf8Replace others
            else replacementPoint :: utf8Replace (second :: others)
      else if 0xE0 ≤ lead ∧ lead ≤ 0xEF then
        match rest with
        | [] => [replacementPoint]
        | second :: more =>
            if opensThree lead second.toNat then
              match more with
              | [] => [replacementPoint]
              | third :: others =>
                  if isTail third then
                    Fin.ofNat 0x110000 ((lead - 0xE0) * 4096 +
                      (second.toNat - 0x80) * 64 +
                      (third.toNat - 0x80)) :: utf8Replace others
                  else replacementPoint :: utf8Replace (third :: others)
            else replacementPoint :: utf8Replace (second :: more)
      else if 0xF0 ≤ lead ∧ lead ≤ 0xF4 then
        match rest with
        | [] => [replacementPoint]
        | second :: more =>
            if opensFour lead second.toNat then
              match more with
              | [] => [replacementPoint]
              | third :: later =>
                  if isTail third then
                    match later with
                    | [] => [replacementPoint]
                    | fourth :: others =>
                        if isTail fourth then
                          Fin.ofNat 0x110000 ((lead - 0xF0) * 262144 +
                            (second.toNat - 0x80) * 4096 +
                            (third.toNat - 0x80) * 64 +
                            (fourth.toNat - 0x80)) :: utf8Replace others
                        else
                          replacementPoint ::
                            utf8Replace (fourth :: others)
                  else replacementPoint :: utf8Replace (third :: later)
            else replacementPoint :: utf8Replace (second :: more)
      else replacementPoint :: utf8Replace rest

/-! ## Extraction -/

/-- What a report says of a declaration without axioms. -/
def freeMark : Text :=
  text "does not depend on any axioms"

/-- The mark before the list of a report. -/
def dependsMark : Text :=
  text "depends on axioms:"

/-- The mark of a line that is a list. -/
def listMark : Text :=
  text "axioms:"

/-- What follows the last occurrence of a part. -/
def behindLast (part : Text) : Text → Option Text
  | [] => none
  | point :: rest =>
      (behindLast part rest).or
        (if part.isPrefixOf (point :: rest) then
          some ((point :: rest).drop part.length)
        else none)

/-- `value.rsplit(part, maxsplit=1)[-1]`. -/
def afterLast (part value : Text) : Text :=
  (behindLast part value).getD value

/-- `[] if not value else sorted(value.split())`. -/
def listedNames (value : Text) : List Text :=
  if value = [] then [] else (words value).insertionSort (· ≤ ·)

def lineNames (line : Text) : Option (List Text) :=
  let stripped := strip line
  if listMark.isPrefixOf stripped then
    some (listedNames (strip (stripped.drop listMark.length)))
  else if dependsMark <:+: stripped then
    some (listedNames (strip (afterLast dependsMark stripped)))
  else none

/-- `_extract_axioms`. -/
def extractAxioms (output : Bytes) : List Text :=
  let decoded := utf8Replace output
  if freeMark <:+: decoded then []
  else
    match (splitLines decoded).findSome? lineNames with
    | some names => names
    | none =>
        if strip decoded = [] then []
        else [text "UNPARSED_AXIOM_OUTPUT"]

/-! ## Reports -/

/-- A text on one line. -/
structure LineText where
  value : Text
  unbroken : ∀ point ∈ value, isLineBreak point = false

/-- A line of the output. -/
inductive ReportLine where
  /-- The declaration depends on no axiom. -/
  | free (declaration : LineText)
  /-- The declaration depends on these axioms. -/
  | depends (declaration : LineText) (names : List LineText)
      (nonempty : names ≠ [])
  /-- Any other diagnostic. -/
  | diagnostic (line : LineText)

namespace ReportLine

/-- The line as Lean writes it. -/
def text : ReportLine → Text
  | .free declaration =>
      Python.text "'" ++ declaration.value ++
        Python.text "' does not depend on any axioms"
  | .depends declaration names _ =>
      Python.text "'" ++ declaration.value ++
        Python.text "' depends on axioms: [" ++
        joinCommaBlank (names.map LineText.value) ++ Python.text "]"
  | .diagnostic line => line.value

def axiomNames : ReportLine → List Text
  | .depends _ names _ => names.map LineText.value
  | _ => []

end ReportLine

/-- The lines, with line feeds between them. -/
def outputText (lines : List ReportLine) : Text :=
  List.intercalate [codePoint '\n'] (lines.map ReportLine.text)

/-- Nothing that a line names is missing from the inventory, and where the
inventory is empty no line names anything. -/
def InventoryComplete (output : Bytes) (lines : List ReportLine) : Prop :=
  (∀ line ∈ lines, ∀ name ∈ line.axiomNames,
      name ∈ extractAxioms output) ∧
    (extractAxioms output = [] → ∀ line ∈ lines, line.axiomNames = [])

/-! ## Lines -/

theorem splitLines_cons
    {line : Text} (unbroken : ∀ point ∈ line, isLineBreak point = false)
    (rest : Text) :
    splitLines (line ++ codePoint '\n' :: rest) =
      line :: splitLines rest := by
  induction line with
  | nil =>
      cases rest with
      | nil => rfl
      | cons next others => rfl
  | cons point line induction =>
      obtain ⟨here, later⟩ := List.forall_mem_cons.mp unbroken
      have notReturn : point ≠ codePoint '\r' := by
        rintro rfl
        revert here
        decide
      have split := induction later
      cases found : line ++ codePoint '\n' :: rest with
      | nil => simp at found
      | cons next others =>
          rw [found] at split
          rw [List.cons_append, found, splitLines,
            if_neg fun both => notReturn both.1,
            if_neg (by simp [here]), split]

theorem splitLines_single
    {line : Text} (nonempty : line ≠ [])
    (unbroken : ∀ point ∈ line, isLineBreak point = false) :
    splitLines line = [line] := by
  induction line with
  | nil => exact absurd rfl nonempty
  | cons point line induction =>
      obtain ⟨here, later⟩ := List.forall_mem_cons.mp unbroken
      have notReturn : point ≠ codePoint '\r' := by
        rintro rfl
        revert here
        decide
      cases line with
      | nil => rw [splitLines, if_neg (by simp [here])]
      | cons next others =>
          rw [splitLines, if_neg fun both => notReturn both.1,
            if_neg (by simp [here]), induction (List.cons_ne_nil _ _) later]

theorem lineNames_nil : lineNames [] = none := by
  decide

/-- Joined lines are read as they are; an empty last line is lost. -/
theorem findSome_splitLines
    {lines : List Text}
    (unbroken : ∀ line ∈ lines, ∀ point ∈ line,
      isLineBreak point = false) :
    (splitLines (List.intercalate [codePoint '\n'] lines)).findSome?
        lineNames = lines.findSome? lineNames := by
  induction lines with
  | nil => rfl
  | cons line rest induction =>
      obtain ⟨here, later⟩ := List.forall_mem_cons.mp unbroken
      cases rest with
      | nil =>
          rw [List.intercalate_singleton]
          by_cases isEmpty : line = []
          · rw [isEmpty, List.findSome?_cons, lineNames_nil]
            rfl
          · rw [splitLines_single isEmpty here]
      | cons next others =>
          rw [List.intercalate_cons_cons, List.append_assoc,
            List.cons_append, List.nil_append, splitLines_cons here,
            List.findSome?_cons, List.findSome?_cons, induction later]

theorem unbroken_append
    {front rest : Text}
    (first : ∀ point ∈ front, isLineBreak point = false)
    (second : ∀ point ∈ rest, isLineBreak point = false) :
    ∀ point ∈ front ++ rest, isLineBreak point = false :=
  List.forall_mem_append.mpr ⟨first, second⟩

/-- A fixed text is on one line when a test says so. -/
theorem unbroken_text
    {literal : String}
    (plain : (Python.text literal).all (fun point => !isLineBreak point) =
      true) :
    ∀ point ∈ Python.text literal, isLineBreak point = false := by
  intro point member
  simpa using List.all_eq_true.mp plain point member

theorem unbroken_joinCommaBlank
    {parts : List Text}
    (each : ∀ part ∈ parts, ∀ point ∈ part, isLineBreak point = false) :
    ∀ point ∈ joinCommaBlank parts, isLineBreak point = false := by
  induction parts with
  | nil => exact fun point member => absurd member List.not_mem_nil
  | cons part rest induction =>
      obtain ⟨here, later⟩ := List.forall_mem_cons.mp each
      cases rest with
      | nil => exact here
      | cons next others =>
          exact unbroken_append (unbroken_append here
            (unbroken_text (by decide))) (induction later)

theorem ReportLine.unbroken (line : ReportLine) :
    ∀ point ∈ line.text, isLineBreak point = false := by
  cases line with
  | free declaration =>
      exact unbroken_append (unbroken_append
        (unbroken_text (by decide)) declaration.unbroken)
        (unbroken_text (by decide))
  | depends declaration names nonempty =>
      have each : ∀ name ∈ names.map LineText.value,
          ∀ point ∈ name, isLineBreak point = false := by
        intro name isName
        obtain ⟨line, -, rfl⟩ := List.mem_map.mp isName
        exact line.unbroken
      exact unbroken_append (unbroken_append (unbroken_append
        (unbroken_append (unbroken_text (by decide))
          declaration.unbroken) (unbroken_text (by decide)))
        (unbroken_joinCommaBlank each)) (unbroken_text (by decide))
  | diagnostic line => exact line.unbroken

/-! ## The last mark -/

theorem behindLast_append
    {part front value found : Text}
    (isLast : behindLast part value = some found) :
    behindLast part (front ++ value) = some found := by
  induction front with
  | nil => exact isLast
  | cons point front induction =>
      rw [List.cons_append, behindLast, induction]
      rfl

/-- A mark is the last one when none starts inside it or behind it. -/
theorem behindLast_mark
    {part rest : Text}
    (later : behindLast part ((part ++ rest).drop 1) = none)
    (nonempty : part ≠ []) :
    behindLast part (part ++ rest) = some rest := by
  cases part with
  | nil => exact absurd rfl nonempty
  | cons first part =>
      rw [List.cons_append, List.drop_succ_cons, List.drop_zero] at later
      have starts :
          (first :: part).isPrefixOf (first :: (part ++ rest)) = true :=
        List.isPrefixOf_iff_prefix.mpr (List.prefix_append (first :: part) rest)
      rw [List.cons_append, behindLast, later, Option.none_or,
        if_pos starts, List.length_cons, List.drop_succ_cons,
        List.drop_left]

/-- No mark starts in front of a text without one, if none of what starts
there fits. -/
theorem behindLast_eq_none
    {part front rest : Text}
    (apart : ∀ start ∈ front.tails, start ≠ [] →
      ¬ part <+: start ++ rest)
    (absent : behindLast part rest = none) :
    behindLast part (front ++ rest) = none := by
  induction front with
  | nil => exact absent
  | cons point front induction =>
      have here := apart (point :: front) (by simp) (List.cons_ne_nil _ _)
      have later := induction fun start isStart =>
        apart start (by
          rw [List.tails_cons]
          exact List.mem_cons_of_mem _ isStart)
      rw [List.cons_append, behindLast, later, Option.none_or, if_neg]
      rw [List.isPrefixOf_iff_prefix]
      exact here

/-- Inside its own text the mark does not start again. -/
theorem dependsMark_apart
    {rest start : Text} (isStart : start ∈ (dependsMark.drop 1).tails)
    (nonempty : start ≠ []) : ¬ dependsMark <+: start ++ rest := by
  intro fits
  have checked : (dependsMark.drop 1).tails.all (fun start =>
      start.isEmpty || !start.isPrefixOf dependsMark) = true := by
    decide
  have refused := List.all_eq_true.mp checked start isStart
  have short : start.length ≤ dependsMark.length := by
    have isSuffix := ((List.mem_tails _ _).mp isStart).length_le
    rw [List.length_drop] at isSuffix
    omega
  have isPrefix := List.prefix_of_prefix_length_le
    (List.prefix_append start rest) fits short
  rw [List.isPrefixOf_iff_prefix.mpr isPrefix] at refused
  simp [nonempty] at refused

theorem token_apart
    {token rest start : Text} {last : CodePoint}
    (noSpace : ∀ point ∈ token, CodePoint.isSpace point = false)
    (foreign : last ∉ dependsMark)
    (lastNoSpace : CodePoint.isSpace last = false)
    (isStart : start ∈ (token ++ [last]).tails) (nonempty : start ≠ []) :
    ¬ dependsMark <+: start ++ rest := by
  intro fits
  have isSuffix := (List.mem_tails _ _).mp isStart
  have endsIn : last ∈ start := by
    obtain ⟨front, split⟩ := isSuffix
    have isLast := congrArg List.getLast? split
    rw [List.getLast?_append, List.getLast?_concat,
      List.getLast?_eq_some_getLast nonempty, Option.some_or,
      Option.some.injEq] at isLast
    rw [← isLast]
    exact List.getLast_mem nonempty
  rcases le_total start.length dependsMark.length with short | long
  · exact foreign ((List.prefix_of_prefix_length_le
      (List.prefix_append start rest) fits short).subset endsIn)
  · have inside := (List.prefix_of_prefix_length_le fits
      (List.prefix_append start rest) long).subset
    have blank : codePoint ' ' ∈ dependsMark := by
      decide
    have inToken := isSuffix.subset (inside blank)
    have isSpace : CodePoint.isSpace (codePoint ' ') = true := by
      decide
    rcases List.mem_append.mp inToken with inToken | isLast
    · rw [noSpace _ inToken] at isSpace
      cases isSpace
    · rw [List.mem_singleton.mp isLast, lastNoSpace] at isSpace
      cases isSpace

/-! ## The tokens of a report -/

/-- The words behind the mark of a report: each name with the punctuation
around it. -/
def reportTokens (opening : Text) : List Text → List Text
  | [] => []
  | [name] => [opening ++ name ++ text "]"]
  | name :: rest => (opening ++ name ++ text ",") :: reportTokens [] rest

theorem reportTokens_join
    (opening : Text) {names : List Text} (nonempty : names ≠ []) :
    opening ++ joinCommaBlank names ++ text "]" =
      List.intercalate [codePoint ' '] (reportTokens opening names) := by
  induction names generalizing opening with
  | nil => exact absurd rfl nonempty
  | cons name rest induction =>
      cases rest with
      | nil =>
          rw [reportTokens, List.intercalate_singleton, joinCommaBlank]
      | cons next others =>
          have later := induction [] (List.cons_ne_nil next others)
          cases tokens : reportTokens [] (next :: others) with
          | nil => cases others <;> cases tokens
          | cons token more =>
              rw [tokens, List.nil_append] at later
              rw [joinCommaBlank, reportTokens, tokens,
                List.intercalate_cons_cons, ← later]
              · simp only [List.append_assoc]
                rfl
              · exact nofun
              · exact nofun

theorem mem_reportTokens
    {opening : Text} {names : List Text} {token : Text}
    (member : token ∈ reportTokens opening names) :
    ∃ front, ∃ name ∈ names, ∃ last, token = front ++ name ++ [last] ∧
      (front = opening ∨ front = []) ∧
        (last = codePoint ',' ∨ last = codePoint ']') := by
  induction names generalizing opening with
  | nil => exact absurd member List.not_mem_nil
  | cons name rest induction =>
      cases rest with
      | nil =>
          rw [reportTokens, List.mem_singleton] at member
          exact ⟨opening, name, List.mem_cons_self, codePoint ']', member,
            .inl rfl, .inr rfl⟩
      | cons next others =>
          rw [reportTokens, List.mem_cons] at member
          · rcases member with rfl | member
            · exact ⟨opening, name, List.mem_cons_self, codePoint ',', rfl,
                .inl rfl, .inl rfl⟩
            · obtain ⟨front, other, isName, last, same, isFront, isLast⟩ :=
                induction member
              exact ⟨front, other, List.mem_cons_of_mem _ isName, last,
                same, .inr (isFront.elim id id), isLast⟩
          · exact nofun

section

variable {names : List Text}
variable (noSpace : ∀ name ∈ names, ∀ point ∈ name,
  CodePoint.isSpace point = false)

include noSpace

theorem reportTokens_words
    {token : Text} (member : token ∈ reportTokens (text "[") names) :
    token ≠ [] ∧ ∀ point ∈ token, CodePoint.isSpace point = false := by
  obtain ⟨front, name, isName, last, rfl, isFront, isLast⟩ :=
    mem_reportTokens member
  refine ⟨List.concat_ne_nil _ _, ?_⟩
  intro point isPoint
  rcases List.mem_append.mp isPoint with isPoint | isPoint
  · rcases List.mem_append.mp isPoint with inFront | inName
    · rcases isFront with rfl | rfl
      · have bracket : text "[" = [codePoint '['] := rfl
        rw [bracket, List.mem_singleton] at inFront
        rw [inFront]
        decide
      · exact absurd inFront List.not_mem_nil
    · exact noSpace name isName point inName
  · rw [List.mem_singleton.mp isPoint]
    rcases isLast with rfl | rfl <;> decide

/-- No mark is found in the tokens of a report. -/
theorem behindLast_join
    {tokens : List Text}
    (among : ∀ token ∈ tokens, token ∈ reportTokens (text "[") names) :
    behindLast dependsMark (List.intercalate [codePoint ' '] tokens) =
      none := by
  induction tokens with
  | nil => rfl
  | cons token rest induction =>
      obtain ⟨isToken, others⟩ := List.forall_mem_cons.mp among
      obtain ⟨front, name, isName, last, same, isFront, isLast⟩ :=
        mem_reportTokens isToken
      have plain := (reportTokens_words noSpace isToken).2
      rw [same] at plain
      obtain ⟨inFront, inLast⟩ := List.forall_mem_append.mp plain
      have foreign : last ∉ dependsMark := by
        rcases isLast with rfl | rfl <;> decide
      have apart (rest : Text) :
          ∀ start ∈ token.tails, start ≠ [] →
            ¬ dependsMark <+: start ++ rest := by
        rw [same]
        intro start isStart nonempty
        exact token_apart inFront foreign
          (inLast last List.mem_cons_self) isStart nonempty
      cases rest with
      | nil =>
          rw [List.intercalate_singleton, ← List.append_nil token]
          exact behindLast_eq_none (apart []) rfl
      | cons next later =>
          rw [List.intercalate_cons_cons, List.append_assoc]
          apply behindLast_eq_none (apart _)
          rw [List.cons_append, List.nil_append, behindLast,
            induction others]
          rfl

end

/-- A name of a report without white space in its names is no token: the
shortest of them is shorter than every token. -/
theorem not_all_tokens
    {names : List Text} (nonempty : names ≠ []) :
    ¬ ∀ name ∈ names, name ∈ reportTokens (text "[") names := by
  intro all
  have longer : ∀ count, ∀ name ∈ names, name.length ≠ count := by
    intro count
    induction count using Nat.strong_induction_on with
    | _ count shorter =>
        intro name isName isLength
        obtain ⟨front, other, isOther, last, same, -, -⟩ :=
          mem_reportTokens (all name isName)
        have length := congrArg List.length same
        simp only [List.length_append, List.length_singleton] at length
        exact shorter other.length (by omega) other isOther rfl
  obtain ⟨name, rest, rfl⟩ := List.exists_cons_of_ne_nil nonempty
  exact longer name.length name List.mem_cons_self rfl

/-! ## What is read from a report -/

theorem mem_listedNames {value name : Text} :
    name ∈ listedNames value ↔ name ∈ words value := by
  unfold listedNames
  split_ifs with isEmpty
  · rw [isEmpty]
    exact Iff.rfl
  · exact List.mem_insertionSort _

/-- What precedes the mark in a report. -/
def reportStart (declaration : Text) : Text :=
  text "'" ++ declaration ++ text "' "

theorem depends_text
    (declaration : LineText) (names : List LineText) (nonempty : names ≠ []) :
    (ReportLine.depends declaration names nonempty).text =
      reportStart declaration.value ++ (dependsMark ++
        codePoint ' ' :: List.intercalate [codePoint ' ']
          (reportTokens (text "[") (names.map LineText.value))) := by
  have isNamed : names.map LineText.value ≠ [] := by
    simpa using nonempty
  have joined := reportTokens_join (text "[") isNamed
  have opening : text "' depends on axioms: [" =
      text "' " ++ dependsMark ++ [codePoint ' '] ++ text "[" := by
    decide
  rw [← joined, ReportLine.text, opening, reportStart]
  simp only [List.append_assoc, List.cons_append, List.nil_append]

/-- A report starts with a quote and ends with a bracket. -/
theorem strip_depends
    (declaration : LineText) (names : List LineText) (nonempty : names ≠ []) :
    strip (ReportLine.depends declaration names nonempty).text =
      (ReportLine.depends declaration names nonempty).text := by
  apply strip_of_ends
  · intro point isHead
    cases isHead
    decide
  · intro point isLast
    have closing : text "]" = [codePoint ']'] := rfl
    rw [ReportLine.text, closing, List.getLast?_concat] at isLast
    cases isLast
    decide

/-- A report has its names read from behind its mark. -/
theorem lineNames_depends
    (declaration : LineText) (names : List LineText) (nonempty : names ≠ []) :
    ∃ value, lineNames (ReportLine.depends declaration names nonempty).text =
        some (listedNames value) ∧
      ((∀ name ∈ names.map LineText.value, ∀ point ∈ name,
          CodePoint.isSpace point = false) →
        words value =
          reportTokens (text "[") (names.map LineText.value)) := by
  have notList : listMark.isPrefixOf
      (ReportLine.depends declaration names nonempty).text = false := rfl
  have marked : dependsMark <:+:
      (ReportLine.depends declaration names nonempty).text := by
    rw [depends_text]
    exact (List.prefix_append _ _).isInfix.trans
      (List.suffix_append _ _).isInfix
  refine ⟨strip (afterLast dependsMark
    (ReportLine.depends declaration names nonempty).text), ?_, ?_⟩
  · rw [lineNames, strip_depends, notList]
    simp only [Bool.false_eq_true, if_false, if_pos marked]
  · intro noSpace
    have each := fun token member => @reportTokens_words _ noSpace token member
    have absent := behindLast_join noSpace fun _ member => member
    have later : behindLast dependsMark
        ((dependsMark ++ codePoint ' ' :: List.intercalate [codePoint ' ']
          (reportTokens (text "[") (names.map LineText.value))).drop 1) =
        none := by
      rw [List.drop_append_of_le_length (by decide)]
      refine behindLast_eq_none (fun start isStart nonempty =>
        dependsMark_apart isStart nonempty) ?_
      rw [behindLast, absent]
      rfl
    have behind := @behindLast_append _ (reportStart declaration.value) _ _
      (behindLast_mark later (by decide))
    have isBlank : CodePoint.isSpace (codePoint ' ') = true := by
      decide
    have joined := words_join each
    have isNamed : names.map LineText.value ≠ [] := by
      simpa using nonempty
    have written := reportTokens_join (text "[") isNamed
    rw [afterLast, depends_text, behind, Option.getD_some,
      strip_cons_space isBlank, strip_of_ends, joined]
    · rw [← written]
      intro point isHead
      cases isHead
      decide
    · rw [← written]
      intro point isLast
      have closing : text "]" = [codePoint ']'] := rfl
      rw [closing, List.getLast?_concat] at isLast
      cases isLast
      decide

/-- Some name of a report is missing from what is read from it. -/
theorem not_all_listed
    {declaration : LineText} {names : List LineText} {nonempty : names ≠ []}
    {found : List Text}
    (isRead : lineNames
      (ReportLine.depends declaration names nonempty).text = some found) :
    ¬ ∀ name ∈ names, name.value ∈ found := by
  intro all
  obtain ⟨value, isValue, tokens⟩ :=
    lineNames_depends declaration names nonempty
  rw [isRead, Option.some.injEq] at isValue
  rw [isValue] at all
  have inWords : ∀ name ∈ names.map LineText.value, name ∈ words value := by
    intro name isName
    obtain ⟨line, isLine, rfl⟩ := List.mem_map.mp isName
    exact mem_listedNames.mp (all line isLine)
  have noSpace := fun name isName =>
    noSpace_of_mem_words (inWords name isName)
  have isNamed : names.map LineText.value ≠ [] := by
    simpa using nonempty
  rw [tokens noSpace] at inWords
  exact not_all_tokens isNamed inWords

/-! ## When the inventory is complete -/

/-- The first line that the inventory is read from is a diagnostic, nothing
says that a declaration is free of axioms, and the diagnostic lists every name
that a report names. -/
def DiagnosticLists (lines : List ReportLine) : Prop :=
  ¬ freeMark <:+: outputText lines ∧
    ∃ line names,
      lines.find? (fun line => (lineNames line.text).isSome) =
        some (.diagnostic line) ∧
      lineNames line.value = some names ∧
      ∀ report ∈ lines, ∀ name ∈ report.axiomNames, name ∈ names

theorem infix_join
    {separator : Text} {part : Text} {parts : List Text}
    (member : part ∈ parts) : part <:+: List.intercalate separator parts := by
  induction parts with
  | nil => exact absurd member List.not_mem_nil
  | cons first rest induction =>
      cases rest with
      | nil =>
          have same := List.mem_singleton.mp member
          subst same
          rw [List.intercalate_singleton]
      | cons next others =>
          rw [List.intercalate_cons_cons]
          rcases List.mem_cons.mp member with rfl | member
          · rw [List.append_assoc]
            exact (List.prefix_append _ _).isInfix
          · exact (induction member).trans (List.suffix_append _ _).isInfix

theorem free_between (declaration : LineText) :
    freeMark <:+: (ReportLine.free declaration).text := by
  have split : text "' does not depend on any axioms" =
      text "' " ++ freeMark := by
    decide
  rw [ReportLine.text, split, ← List.append_assoc]
  exact (List.suffix_append _ _).isInfix

theorem findSome_of_find
    {α β : Type} {read : α → Option β} {items : List α} {item : α}
    {value : β} (first : items.find? (fun item => (read item).isSome) =
      some item) (isRead : read item = some value) :
    items.findSome? read = some value := by
  induction items with
  | nil => cases first
  | cons head rest induction =>
      rw [List.findSome?_cons]
      cases here : read head with
      | none =>
          rw [List.find?_cons_of_neg (by simp [here])] at first
          exact induction first
      | some found =>
          rw [List.find?_cons_of_pos (by simp [here])] at first
          cases first
          rw [← isRead, here]

/-- What is read from an output without a report of freedom. -/
theorem extractAxioms_eq
    {output : Bytes} {lines : List ReportLine}
    (decodes : utf8Replace output = outputText lines)
    (notFree : ¬ freeMark <:+: outputText lines)
    {line : ReportLine} {names : List Text}
    (first : lines.find? (fun line => (lineNames line.text).isSome) =
      some line)
    (listed : lineNames line.text = some names) :
    extractAxioms output = names := by
  have unbroken : ∀ part ∈ lines.map ReportLine.text, ∀ point ∈ part,
      isLineBreak point = false := by
    intro part isPart
    obtain ⟨report, -, rfl⟩ := List.mem_map.mp isPart
    exact report.unbroken
  have found : (splitLines (outputText lines)).findSome? lineNames =
      some names := by
    rw [outputText, findSome_splitLines unbroken, List.findSome?_map]
    exact findSome_of_find first listed
  rw [extractAxioms, decodes]
  simp only [if_neg notFree, found]

/--
On an output of reports and other lines, the inventory is complete exactly
when no report names an axiom, or a diagnostic that comes first lists them
all.
-/
theorem inventoryComplete_iff
    {output : Bytes} {lines : List ReportLine}
    (decodes : utf8Replace output = outputText lines) :
    InventoryComplete output lines ↔
      (∀ line ∈ lines, line.axiomNames = []) ∨ DiagnosticLists lines := by
  constructor
  · intro complete
    by_cases named : ∀ line ∈ lines, line.axiomNames = []
    · exact .inl named
    · right
      simp only [not_forall] at named
      obtain ⟨report, isReport, names⟩ := named
      obtain ⟨name, others, isName⟩ := List.exists_cons_of_ne_nil names
      have inventory := complete.1 report isReport name
        (isName ▸ List.mem_cons_self)
      have notFree : ¬ freeMark <:+: outputText lines := by
        intro isFree
        rw [extractAxioms, decodes] at inventory
        simp only [if_pos isFree] at inventory
        exact absurd inventory List.not_mem_nil
      refine ⟨notFree, ?_⟩
      have marked : (lineNames report.text).isSome = true := by
        cases report with
        | free declaration => exact absurd rfl names
        | diagnostic line => exact absurd rfl names
        | depends declaration listed nonempty =>
            obtain ⟨value, isRead, -⟩ :=
              lineNames_depends declaration listed nonempty
            rw [isRead]
            rfl
      cases first : lines.find? fun line => (lineNames line.text).isSome with
      | none =>
          exact absurd marked (List.find?_eq_none.mp first report isReport)
      | some line =>
          have isLine := List.mem_of_find?_eq_some first
          have isMarked : (lineNames line.text).isSome = true := by
            simpa using List.find?_some first
          obtain ⟨listed, isRead⟩ := Option.isSome_iff_exists.mp isMarked
          have isInventory := extractAxioms_eq decodes notFree first isRead
          have all := complete.1
          rw [isInventory] at all
          cases line with
          | free declaration =>
              exact absurd ((free_between declaration).trans
                (infix_join (List.mem_map_of_mem isLine))) notFree
          | depends declaration listedHere nonempty =>
              refine absurd ?_ (not_all_listed isRead)
              intro name isName
              exact all _ isLine name.value (List.mem_map_of_mem isName)
          | diagnostic line => exact ⟨line, listed, rfl, isRead, all⟩
  · rintro (unnamed | ⟨notFree, line, names, first, isRead, all⟩)
    · refine ⟨fun line isLine name isName => ?_, fun _ => unnamed⟩
      rw [unnamed line isLine] at isName
      exact absurd isName List.not_mem_nil
    · have isInventory := extractAxioms_eq decodes notFree first isRead
      rw [InventoryComplete, isInventory]
      refine ⟨all, fun isEmpty report isReport => ?_⟩
      rw [isEmpty] at all
      exact List.eq_nil_iff_forall_not_mem.mpr fun name isName =>
        absurd (all report isReport name isName) List.not_mem_nil

/-- A text on one line, from a literal. -/
def lineOf (literal : String)
    (plain : (text literal).all (fun point => !isLineBreak point) = true) :
    LineText :=
  ⟨text literal, unbroken_text plain⟩

/-- Two reports, the second with an axiom. -/
def mixedReports : List ReportLine :=
  [.free (lineOf "one" (by decide)),
    .depends (lineOf "two" (by decide))
      [lineOf "choice" (by decide)] (List.cons_ne_nil _ _)]

/-- The output of the two reports. -/
def mixedOutput : Bytes :=
  (utf8Encode (outputText mixedReports)).getD []

/-- The axiom of the second report is lost. -/
theorem mixedReports_incomplete :
    ¬ ∀ output lines, utf8Replace output = outputText lines →
      InventoryComplete output lines := by
  intro complete
  have lost : extractAxioms mixedOutput = [] := by
    decide +kernel
  have decodes : utf8Replace mixedOutput = outputText mixedReports := by
    decide +kernel
  have unnamed := (complete mixedOutput mixedReports decodes).2 lost _
    (List.mem_cons_of_mem _ List.mem_cons_self)
  exact absurd unnamed (List.cons_ne_nil _ _)

/-- The condition, on the output of the two reports. -/
theorem inventoryComplete_iff_mixed :
    InventoryComplete mixedOutput mixedReports ↔
      (∀ line ∈ mixedReports, line.axiomNames = []) ∨
        DiagnosticLists mixedReports :=
  inventoryComplete_iff (by decide +kernel)

end ScientificResourceLab.Packs.Formal
