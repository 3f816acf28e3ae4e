import ScientificResourceLab.Mcp.Server
import Mathlib.Data.List.DropRight

/-!
# The grammar of header blocks

`parse_content_length` takes a block apart at its line ends, skips empty
lines, and reads the value of the one `Content-Length` header with `int`.  So
the value may have a sign, and single underscores between its digits, and the
length is not compared with the size limit, which `_read_frame` does.
-/

namespace ScientificResourceLab.Mcp

open Python Contracts Steps

/-! ## Blocks -/

/-- The lines of a block that are not empty. -/
def headerLines (block : Text) : List Text :=
  (splitCrlf block).filter (· ≠ [])

/-- The line is a `Content-Length` header. -/
def isContentLength (line : Text) : Bool :=
  lowerAscii (strip (partitionColon line).1) = text "content-length"

/-- The value of a header line, without blanks around it. -/
def headerValue (line : Text) : Text :=
  strip (partitionColon line).2

/--
A block of lines with a colon, exactly one of which is a `Content-Length`
header, with a value that denotes the length.
-/
structure Declares (denotes : Text → Nat → Prop) (block : Text)
    (length : Nat) : Prop where
  wellFormed : ∀ line ∈ headerLines block, codePoint ':' ∈ line
  only : ∃ line, (headerLines block).filter isContentLength = [line] ∧
    denotes (headerValue line) length

/-! ## Values -/

/-- A numeral of ASCII digits within the size limit. -/
def AsciiNumeral (value : Text) (length : Nat) : Prop :=
  (value ≠ [] ∧ ∀ point ∈ value, CodePoint.isDigit point = true) ∧
    digitsValue value = length ∧ length ≤ maxFrameBytes

/-- Digits that follow a digit, each after at most one underscore. -/
inductive DigitTail : Text → Text → Prop
  | done : DigitTail [] []
  | digit {point : CodePoint} {rest digits : Text}
      (isDigit : CodePoint.isDigit point = true) :
      DigitTail rest digits → DigitTail (point :: rest) (point :: digits)
  | separated {point : CodePoint} {rest digits : Text}
      (isDigit : CodePoint.isDigit point = true) :
      DigitTail rest digits →
        DigitTail (codePoint '_' :: point :: rest) (point :: digits)

/-- Digits with single underscores between them. -/
inductive Numeral : Text → Text → Prop
  | intro {point : CodePoint} {rest digits : Text}
      (isDigit : CodePoint.isDigit point = true)
      (tail : DigitTail rest digits) :
      Numeral (point :: rest) (point :: digits)

/-- A literal of `int` that is not negative. -/
structure IntLiteral (value : Text) (length : Nat) : Prop where
  signed : ∃ sign numeral digits, value = sign ++ numeral ∧
    sign ∈ [[], text "+", text "-"] ∧ Numeral numeral digits ∧
    digits.length ≤ intMaxStrDigits ∧ digitsValue digits = length ∧
    (sign = text "-" → length = 0)

theorem not_isDigit_underscore :
    CodePoint.isDigit (codePoint '_') = false := by
  decide

theorem moreDigits_iff {value digits : Text} :
    moreDigits value = some digits ↔ DigitTail value digits := by
  constructor
  · intro read
    induction value using moreDigits.induct generalizing digits with
    | case1 =>
        cases read
        exact .done
    | case2 point isDigit =>
        rw [moreDigits, if_pos isDigit] at read
        cases read
        exact .digit isDigit .done
    | case3 point notDigit =>
        rw [moreDigits, if_neg notDigit] at read
        cases read
    | case4 point next rest isDigit induction =>
        rw [moreDigits, if_pos isDigit] at read
        obtain ⟨later, isLater, rfl⟩ := Option.map_eq_some_iff.mp read
        exact .digit isDigit (induction isLater)
    | case5 point next rest notDigit separated induction =>
        rw [moreDigits, if_neg notDigit, if_pos separated] at read
        obtain ⟨later, isLater, rfl⟩ := Option.map_eq_some_iff.mp read
        rw [separated.1]
        exact .separated separated.2 (induction isLater)
    | case6 point next rest notDigit notSeparated =>
        rw [moreDigits, if_neg notDigit, if_neg notSeparated] at read
        cases read
  · intro tail
    induction tail with
    | done => rfl
    | @digit point rest digits isDigit _ induction =>
        cases rest with
        | nil =>
            cases induction
            rw [moreDigits, if_pos isDigit]
        | cons next rest =>
            rw [moreDigits, if_pos isDigit, induction]
            rfl
    | @separated point rest digits isDigit _ induction =>
        rw [moreDigits, if_neg (by simp [not_isDigit_underscore]),
          if_pos ⟨rfl, isDigit⟩, induction]
        rfl

theorem literalDigits_iff {value digits : Text} :
    literalDigits value = some digits ↔ Numeral value digits := by
  constructor
  · intro read
    cases value with
    | nil => cases read
    | cons point rest =>
        rw [literalDigits] at read
        split_ifs at read with isDigit
        obtain ⟨later, isLater, rfl⟩ := Option.map_eq_some_iff.mp read
        exact .intro isDigit (moreDigits_iff.mp isLater)
  · rintro ⟨isDigit, tail⟩
    rw [literalDigits, if_pos isDigit, moreDigits_iff.mpr tail]
    rfl

/-- A numeral starts with neither sign. -/
theorem Numeral.head
    {point : CodePoint} {rest digits : Text}
    (numeral : Numeral (point :: rest) digits) :
    point ≠ codePoint '-' ∧ point ≠ codePoint '+' := by
  cases numeral with
  | intro isDigit _ =>
      constructor
      · rintro rfl
        revert isDigit
        decide
      · rintro rfl
        revert isDigit
        decide

/-- The sign and the digits that `int` sees in a trimmed value. -/
theorem intLiteral_iff
    {value digits : Text} {negative : Bool}
    (trimmed : strip value = value) :
    intLiteral value = some (negative, digits) ↔
      ∃ sign numeral, value = sign ++ numeral ∧
        sign ∈ [[], text "+", text "-"] ∧ Numeral numeral digits ∧
        (negative = true ↔ sign = text "-") := by
  have minus : text "-" = [codePoint '-'] := rfl
  have plus : text "+" = [codePoint '+'] := rfl
  have signs : codePoint '+' ≠ codePoint '-' := by decide
  rw [intLiteral, trimmed]
  constructor
  · intro read
    cases value with
    | nil => cases read
    | cons point rest =>
        dsimp only at read
        split_ifs at read with isMinus isPlus
        · obtain ⟨found, isFound, same⟩ := Option.map_eq_some_iff.mp read
          cases same
          exact ⟨text "-", rest, by rw [minus, isMinus]; rfl, by simp,
            literalDigits_iff.mp isFound, by simp⟩
        · obtain ⟨found, isFound, same⟩ := Option.map_eq_some_iff.mp read
          cases same
          refine ⟨text "+", rest, by rw [plus, isPlus]; rfl, by simp,
            literalDigits_iff.mp isFound, ?_⟩
          rw [minus, plus]
          simp [signs]
        · obtain ⟨found, isFound, same⟩ := Option.map_eq_some_iff.mp read
          cases same
          refine ⟨[], point :: rest, rfl, by simp,
            literalDigits_iff.mp isFound, ?_⟩
          rw [minus]
          simp
  · rintro ⟨sign, numeral, rfl, isSign, isNumeral, isNegative⟩
    have read := literalDigits_iff.mpr isNumeral
    simp only [List.mem_cons, List.not_mem_nil, or_false] at isSign
    rcases isSign with rfl | rfl | rfl
    · cases numeral with
      | nil => cases isNumeral
      | cons point rest =>
          obtain ⟨notMinus, notPlus⟩ := isNumeral.head
          have isFalse : negative = false := by
            rw [minus] at isNegative
            simpa using isNegative
          rw [List.nil_append]
          dsimp only
          rw [if_neg notMinus, if_neg notPlus, read, isFalse]
          rfl
    · have isFalse : negative = false := by
        rw [minus, plus] at isNegative
        simpa [signs] using isNegative
      rw [plus, List.singleton_append]
      dsimp only
      rw [if_neg signs, if_pos rfl, read, isFalse]
      rfl
    · have isTrue : negative = true := by simpa using isNegative
      rw [minus, List.singleton_append]
      dsimp only
      rw [if_pos rfl, read, isTrue]
      rfl

/-- `int` reads the lengths that literals denote. -/
theorem intOf_iff
    {value : Text} (trimmed : strip value = value) (length : Nat) :
    intOf value = some (length : Int) ↔ IntLiteral value length := by
  have denotes (negative : Bool) (digits : Text) :
      signedValue (negative, digits) = length ↔
        digitsValue digits = length ∧ (negative = true → length = 0) := by
    cases negative with
    | false => simp [signedValue]
    | true =>
        simp only [signedValue, if_true, forall_const]
        omega
  constructor
  · intro read
    rw [intOf] at read
    cases found : intLiteral value with
    | none =>
        rw [found] at read
        cases read
    | some literal =>
        obtain ⟨negative, digits⟩ := literal
        rw [found] at read
        dsimp only at read
        split_ifs at read with short
        obtain ⟨sign, numeral, isValue, isSign, isNumeral, isNegative⟩ :=
          (intLiteral_iff trimmed).mp found
        obtain ⟨isLength, zero⟩ :=
          (denotes negative digits).mp (Option.some.inj read)
        exact ⟨sign, numeral, digits, isValue, isSign, isNumeral, short,
          isLength, fun isMinus => zero (isNegative.mpr isMinus)⟩
  · rintro ⟨sign, numeral, digits, isValue, isSign, isNumeral, short,
      isLength, zero⟩
    have found := (@intLiteral_iff value digits (decide (sign = text "-"))
      trimmed).mpr ⟨sign, numeral, isValue, isSign, isNumeral, by simp⟩
    rw [intOf, found]
    dsimp only
    rw [if_pos short]
    refine congrArg some ((denotes _ digits).mpr ⟨isLength, ?_⟩)
    simpa using zero

/-- A trimmed value is trimmed. -/
theorem strip_strip (value : Text) : strip (strip value) = strip value := by
  have trimmed : strip value =
      (value.dropWhile CodePoint.isSpace).rdropWhile CodePoint.isSpace :=
    rfl
  have front : (strip value).dropWhile CodePoint.isSpace = strip value := by
    apply dropWhile_of_head
    intro point isHead
    obtain ⟨rest, split⟩ := List.rdropWhile_prefix CodePoint.isSpace
      (value.dropWhile CodePoint.isSpace)
    have notSpace := List.head?_dropWhile_not CodePoint.isSpace value
    rw [← split, ← trimmed, List.head?_append_of_ne_nil _ (by
      intro empty
      rw [empty] at isHead
      cases isHead), isHead] at notSpace
    exact notSpace
  have back : (strip value).rdropWhile CodePoint.isSpace = strip value := by
    rw [trimmed, List.rdropWhile_idempotent]
  change ((strip value).dropWhile CodePoint.isSpace).rdropWhile
    CodePoint.isSpace = strip value
  rw [front, back]

/-! ## Parsing a block -/

/-- What one `Content-Length` header adds to the lengths found. -/
theorem contentLengths_header
    {line : Text} {rawValue : Text} {rest headers : List Text}
    {found : List Nat} {wellFormed : Prop}
    (isValue : headerValue line = strip rawValue)
    (others : ∀ {later : List Nat}, contentLengths rest = .ok later ↔
      wellFormed ∧ List.Forall₂
        (fun line length => IntLiteral (headerValue line) length)
        headers later) :
    (match intOf (strip rawValue) with
      | none =>
          .error ⟨.malformed,
            text "Content-Length is not an integer: " ++
              quoted (strip rawValue)⟩
      | some value =>
          if value < 0 then
            .error ⟨.malformed,
              text "Content-Length is negative: " ++ intText value⟩
          else do
            let others ← contentLengths rest
            pure (value.toNat :: others) : Except FrameError (List Nat)) =
        .ok found ↔
      wellFormed ∧ List.Forall₂
        (fun line length => IntLiteral (headerValue line) length)
        (line :: headers) found := by
  have reads (length : Nat) : intOf (strip rawValue) =
      some (length : Int) ↔ IntLiteral (headerValue line) length := by
    rw [isValue]
    exact intOf_iff (strip_strip rawValue) length
  constructor
  · intro returned
    cases read : intOf (strip rawValue) with
    | none =>
        rw [read] at returned
        cases returned
    | some value =>
        rw [read] at returned
        dsimp only at returned
        split_ifs at returned with negative
        rw [bind_eq_ok_iff] at returned
        obtain ⟨later, isLater, isFound⟩ := returned
        cases isFound
        obtain ⟨holds, paired⟩ := others.mp isLater
        refine ⟨holds, .cons ((reads _).mp ?_) paired⟩
        rw [read, Int.toNat_of_nonneg (not_lt.mp negative)]
  · rintro ⟨holds, paired⟩
    cases paired with
    | @cons _ length _ later isLength paired =>
        rw [(reads length).mpr isLength]
        dsimp only
        rw [if_neg (by omega), others.mpr ⟨holds, paired⟩]
        rfl

theorem contentLengths_eq_ok
    {lines : List Text} {found : List Nat} :
    contentLengths lines = .ok found ↔
      (∀ line ∈ lines.filter (· ≠ []), codePoint ':' ∈ line) ∧
        List.Forall₂
          (fun line length => IntLiteral (headerValue line) length)
          ((lines.filter (· ≠ [])).filter isContentLength) found := by
  induction lines generalizing found with
  | nil =>
      constructor
      · rintro ⟨⟩
        exact ⟨nofun, .nil⟩
      · rintro ⟨_, ⟨⟩⟩
        rfl
  | cons line rest induction =>
      rw [contentLengths]
      by_cases empty : line = []
      · rw [if_pos empty, List.filter_cons_of_neg (by simpa using empty)]
        exact induction
      · rw [if_neg empty, List.filter_cons_of_pos (by simpa using empty),
          List.forall_mem_cons]
        by_cases colon : codePoint ':' ∈ line
        · rw [if_neg (not_not.mpr colon), and_iff_right colon]
          generalize isParts : partitionColon line = parts
          obtain ⟨name, rawValue⟩ := parts
          dsimp only
          by_cases isHeader : isContentLength line = true
          · have isName : lowerAscii (strip name) =
                text "content-length" := by
              rw [isContentLength, isParts] at isHeader
              exact of_decide_eq_true isHeader
            have isValue : headerValue line = strip rawValue := by
              rw [headerValue, isParts]
            rw [List.filter_cons_of_pos isHeader,
              if_neg (not_not.mpr isName)]
            exact contentLengths_header isValue induction
          · have isOther : lowerAscii (strip name) ≠
                text "content-length" := by
              rw [isContentLength, isParts] at isHeader
              simpa using isHeader
            rw [List.filter_cons_of_neg isHeader, if_pos isOther]
            exact induction
        · rw [if_pos colon]
          exact ⟨nofun, fun ⟨⟨has, _⟩, _⟩ => absurd has colon⟩

theorem parseContentLength_eq_ok {block : Text} {length : Nat} :
    parseContentLength block = .ok length ↔
      Declares IntLiteral block length := by
  rw [parseContentLength, bind_eq_ok_iff]
  constructor
  · rintro ⟨found, isFound, returned⟩
    obtain ⟨wellFormed, paired⟩ := contentLengths_eq_ok.mp isFound
    change List.Forall₂ _ ((headerLines block).filter isContentLength)
      found at paired
    cases found with
    | nil => cases returned
    | cons first others =>
        cases others with
        | cons _ _ => cases returned
        | nil =>
            cases returned
            obtain ⟨line, _, isLength, none, only⟩ :=
              List.forall₂_cons_right_iff.mp paired
            cases none
            exact ⟨wellFormed, line, only, isLength⟩
  · rintro ⟨wellFormed, line, only, isLength⟩
    refine ⟨[length], contentLengths_eq_ok.mpr ⟨wellFormed, ?_⟩, rfl⟩
    rw [headerLines] at only
    rw [only]
    exact .cons isLength .nil

/--
On the bytes of a header block, `parse_content_length` returns the length that
the block declares with a literal of `int`, and raises in every other case.
-/
theorem parseContentLength_declares (block : Bytes) :
    (∀ length, parseContentLength (asciiReplace block) = .ok length ↔
        Declares IntLiteral (asciiReplace block) length) ∧
      ((∀ length, ¬ Declares IntLiteral (asciiReplace block) length) →
        ∃ error : FrameError,
          parseContentLength (asciiReplace block) = .error error) := by
  refine ⟨fun _ => parseContentLength_eq_ok, fun none => ?_⟩
  cases parsed : parseContentLength (asciiReplace block) with
  | error error => exact ⟨error, rfl⟩
  | ok length =>
      exact absurd (parseContentLength_eq_ok.mp parsed) (none length)

/-- A block with one header. -/
def lengthBlock (value : String) : Bytes :=
  asciiBytes (text "Content-Length: " ++ text value ++ text "\r\n\r\n")

theorem not_asciiNumeral_of_large
    {value : Text} {length : Nat} (large : maxFrameBytes < length) :
    ¬ AsciiNumeral value length :=
  fun ⟨_, _, small⟩ => absurd small (not_le.mpr large)

/-- A length with a sign, and one beyond the size limit, are returned. -/
theorem parseContentLength_lax :
    (parseContentLength (asciiReplace (lengthBlock "+5")) = .ok 5 ∧
        ¬ Declares AsciiNumeral (asciiReplace (lengthBlock "+5")) 5) ∧
      parseContentLength (asciiReplace (lengthBlock "1048577")) =
          .ok 1048577 ∧
        ¬ Declares AsciiNumeral (asciiReplace (lengthBlock "1048577"))
          1048577 := by
  have signed : (headerLines (asciiReplace (lengthBlock "+5"))).filter
      isContentLength = [text "Content-Length: +5"] := by
    decide
  refine ⟨⟨by decide, ?_⟩, by decide, ?_⟩
  · rintro ⟨_, line, only, ⟨_, areDigits⟩, _⟩
    cases signed.symm.trans only
    have isDigit := areDigits (codePoint '+') (by decide)
    revert isDigit
    decide
  · rintro ⟨_, line, _, denotes⟩
    exact not_asciiNumeral_of_large (by decide) denotes

end ScientificResourceLab.Mcp
