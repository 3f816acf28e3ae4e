import ScientificResourceLab.Python.JsonRoundTrip
import ScientificResourceLab.Python.Numerals
import ScientificResourceLab.Python.RegexMatches

/-!
# Searching a JSON document

An expression that avoids the punctuation of JSON and occurs in no number and
no constant occurs in a document exactly when it occurs in the escaped form of
one of its strings (`occurs_dumpText_iff`).
-/

namespace ScientificResourceLab.Python

/-! ## The strings of a value -/

mutual

/-- The keys and the string values of a value, at any depth. -/
def Json.strings : Json → List Text
  | .str value => [value]
  | .arr items => stringsOfItems items
  | .obj members => stringsOfMembers members
  | .null | .bool _ | .int _ | .float _ => []

def stringsOfItems : List Json → List Text
  | [] => []
  | item :: rest => item.strings ++ stringsOfItems rest

def stringsOfMembers : List (Text × Json) → List Text
  | [] => []
  | (key, value) :: rest => key :: (value.strings ++ stringsOfMembers rest)

end

/-! ## Where an expression occurs -/

/-- The punctuation of JSON and of its strings. -/
def jsonDelimiters : List CodePoint :=
  text "\",:\x7b\x7d[]\\"

/-- An expression that only the strings of a document can contain. -/
structure OnlyInStrings (regex : Regex) : Prop where
  avoids : regex.Avoids (· ∈ jsonDelimiters)
  numbers : ∀ value, Numeral value → ¬ regex.Occurs value
  words : ∀ word ∈ [text "null", text "true", text "false", text "\n"],
    ¬ regex.Occurs word

namespace OnlyInStrings

variable {regex : Regex} (only : OnlyInStrings regex)

include only

theorem occurs_delimiter {point : CodePoint}
    (isDelimiter : point ∈ jsonDelimiters) {first second : Text} :
    regex.Occurs (first ++ point :: second) ↔
      regex.Occurs first ∨ regex.Occurs second :=
  Regex.occurs_delimiter_iff only.avoids isDelimiter

theorem occurs_cons {point : CodePoint}
    (isDelimiter : point ∈ jsonDelimiters) {value : Text} :
    regex.Occurs (point :: value) ↔ regex.Occurs value := by
  have cut : regex.Occurs ([] ++ point :: value) ↔
      regex.Occurs [] ∨ regex.Occurs value :=
    only.occurs_delimiter isDelimiter
  exact cut.trans (or_iff_right (only.numbers [] numeral_nil))

theorem occurs_concat {point : CodePoint}
    (isDelimiter : point ∈ jsonDelimiters) {value : Text} :
    regex.Occurs (value ++ [point]) ↔ regex.Occurs value := by
  rw [only.occurs_delimiter isDelimiter]
  exact or_iff_left (only.numbers [] numeral_nil)

/-- The quotes of a literal do not matter. -/
theorem occurs_stringText {value : Text} :
    regex.Occurs (stringText value) ↔
      regex.Occurs (value.flatMap escapePoint) := by
  have quote : codePoint '"' ∈ jsonDelimiters := by
    decide
  rw [stringText, only.occurs_cons quote, only.occurs_concat quote]

theorem occurs_joinComma {texts : List Text} :
    regex.Occurs (joinComma texts) ↔ ∃ item ∈ texts, regex.Occurs item := by
  have comma : codePoint ',' ∈ jsonDelimiters := by
    decide
  induction texts with
  | nil =>
      constructor
      · exact fun occurs => absurd occurs (only.numbers [] numeral_nil)
      · rintro ⟨item, member, -⟩
        exact absurd member List.not_mem_nil
  | cons item rest induction =>
      rw [List.exists_mem_cons_iff]
      cases rest with
      | nil => simp [joinComma]
      | cons next others =>
          rw [joinComma_cons (List.cons_ne_nil next others),
            only.occurs_delimiter comma]
          exact or_congr Iff.rfl induction

end OnlyInStrings

mutual

/-- In a document an expression occurs where it does in a string of it. -/
theorem occurs_dumpText_iff
    {regex : Regex} (only : OnlyInStrings regex) (value : Json)
    {written : Text} (dumped : dumpText value = some written) :
    regex.Occurs written ↔
      ∃ string ∈ value.strings,
        regex.Occurs (string.flatMap escapePoint) := by
  cases value with
  | null =>
      cases dumped
      simpa [Json.strings] using only.words _ (by simp)
  | bool value =>
      cases value
      · cases dumped
        simpa [Json.strings] using only.words _ (by simp)
      · cases dumped
        simpa [Json.strings] using only.words _ (by simp)
  | int value =>
      rw [dumpText] at dumped
      split_ifs at dumped
      cases dumped
      simpa [Json.strings] using only.numbers _ (numeral_intText value)
  | float value =>
      rw [dumpText] at dumped
      split_ifs at dumped
      cases dumped
      simpa [Json.strings] using only.numbers _ (numeral_repr value)
  | str value =>
      cases dumped
      rw [only.occurs_stringText, Json.strings]
      simp
  | arr items =>
      simp only [dumpText, Option.bind_eq_bind, Option.bind_eq_some_iff,
        Option.pure_def, Option.some.injEq] at dumped
      obtain ⟨texts, listed, rfl⟩ := dumped
      rw [only.occurs_cons (by decide),
        only.occurs_concat (by decide), only.occurs_joinComma,
        occurs_dumpItems_iff only items listed]
      rfl
  | obj members =>
      simp only [dumpText, Option.bind_eq_bind, Option.bind_eq_some_iff,
        Option.pure_def, Option.some.injEq] at dumped
      obtain ⟨texts, listed, rfl⟩ := dumped
      have colon : codePoint ':' ∈ jsonDelimiters := by
        decide
      rw [only.occurs_cons (by decide),
        only.occurs_concat (by decide), only.occurs_joinComma,
        Json.strings, ← occurs_dumpMembers_iff only members listed]
      simp only [List.mem_map, List.mem_insertionSort, exists_exists_and_eq_and,
        only.occurs_delimiter colon, only.occurs_stringText]

theorem occurs_dumpItems_iff
    {regex : Regex} (only : OnlyInStrings regex) (items : List Json)
    {texts : List Text} (dumped : dumpItems items = some texts) :
    (∃ item ∈ texts, regex.Occurs item) ↔
      ∃ string ∈ stringsOfItems items,
        regex.Occurs (string.flatMap escapePoint) := by
  cases items with
  | nil =>
      cases dumped
      simp [stringsOfItems]
  | cons item rest =>
      simp only [dumpItems, Option.bind_eq_bind, Option.bind_eq_some_iff,
        Option.pure_def, Option.some.injEq] at dumped
      obtain ⟨head, headDumped, tail, tailDumped, rfl⟩ := dumped
      have here := occurs_dumpText_iff only item headDumped
      have later := occurs_dumpItems_iff only rest tailDumped
      rw [List.exists_mem_cons_iff, here, later, stringsOfItems]
      simp only [List.mem_append, or_and_right, exists_or]

theorem occurs_dumpMembers_iff
    {regex : Regex} (only : OnlyInStrings regex)
    (members : List (Text × Json)) {texts : List (Text × Text)}
    (dumped : dumpMembers members = some texts) :
    (∃ member ∈ texts,
        regex.Occurs (member.1.flatMap escapePoint) ∨
          regex.Occurs member.2) ↔
      ∃ string ∈ stringsOfMembers members,
        regex.Occurs (string.flatMap escapePoint) := by
  cases members with
  | nil =>
      cases dumped
      simp [stringsOfMembers]
  | cons member rest =>
      cases member with
      | mk key value =>
          simp only [dumpMembers, Option.bind_eq_bind,
            Option.bind_eq_some_iff, Option.pure_def, Option.some.injEq]
            at dumped
          obtain ⟨head, headDumped, tail, tailDumped, rfl⟩ := dumped
          have here := occurs_dumpText_iff only value headDumped
          have later := occurs_dumpMembers_iff only rest tailDumped
          rw [List.exists_mem_cons_iff, here, later, stringsOfMembers,
            List.exists_mem_cons_iff]
          simp only [List.mem_append, or_and_right, exists_or, or_assoc]

end

/-- The final newline of a document adds no occurrence. -/
theorem occurs_line_iff
    {regex : Regex} (only : OnlyInStrings regex) {front : Text}
    {point : CodePoint} (isDelimiter : point ∈ jsonDelimiters) :
    regex.Occurs (front ++ [point] ++ text "\n") ↔
      regex.Occurs (front ++ [point]) := by
  have newline : ¬ regex.Occurs (text "\n") := only.words _ (by simp)
  rw [List.append_assoc, List.cons_append, List.nil_append,
    only.occurs_delimiter isDelimiter, only.occurs_concat isDelimiter]
  exact or_iff_left newline

/-- Without control characters, escaping neither hides nor makes a match. -/
theorem occurs_escaped_iff
    {regex : Regex} (only : OnlyInStrings regex) {value : Text}
    (noControl : ∀ point ∈ value, ¬ point.val < 32) :
    regex.Occurs (value.flatMap escapePoint) ↔ regex.Occurs value := by
  have quote : codePoint '"' ∈ jsonDelimiters := by
    decide
  have backslash : codePoint '\\' ∈ jsonDelimiters := by
    decide
  have behind (front : Text) :
      regex.Occurs (front ++ value.flatMap escapePoint) ↔
        regex.Occurs (front ++ value) := by
    induction value generalizing front with
    | nil => rfl
    | cons point rest induction =>
        obtain ⟨here, later⟩ := List.forall_mem_cons.mp noControl
        have both := induction later []
        rw [List.nil_append, List.nil_append] at both
        rw [List.flatMap_cons]
        by_cases isQuote : point = codePoint '"'
        · have escaped : escapePoint point =
              [codePoint '\\', codePoint '"'] := by
            rw [isQuote]
            rfl
          rw [escaped, isQuote, List.cons_append, List.cons_append,
            List.nil_append, only.occurs_delimiter backslash,
            only.occurs_cons quote, only.occurs_delimiter quote, both]
        · by_cases isBackslash : point = codePoint '\\'
          · have escaped : escapePoint point =
                [codePoint '\\', codePoint '\\'] := by
              rw [isBackslash]
              rfl
            rw [escaped, isBackslash, List.cons_append, List.cons_append,
              List.nil_append, only.occurs_delimiter backslash,
              only.occurs_cons backslash, only.occurs_delimiter backslash,
              both]
          · have escaped : escapePoint point = [point] := by
              have apart (char : Char) (low : char.toNat < 32) :
                  point ≠ codePoint char := by
                rintro rfl
                apply here
                rw [codePoint, Fin.val_ofNat]
                omega
              rw [escapePoint, if_neg isQuote, if_neg isBackslash,
                if_neg (apart '\n' (by decide)),
                if_neg (apart '\r' (by decide)),
                if_neg (apart '\t' (by decide)), if_neg (by omega),
                if_neg (by omega), if_neg here]
            rw [escaped, ← List.append_assoc,
              induction later (front ++ [point]), List.append_assoc]
            rfl
  exact behind []

end ScientificResourceLab.Python
