import ScientificResourceLab.Python.Json

/-!
# String methods, integer literals and encodings

The methods of `str` and `bytes` that header parsing uses, `int` on a string,
and `json.loads` on bytes with the decoder's own detection of the encoding.
Lines are split off a text, and a number that was printed is read back.
-/

namespace ScientificResourceLab.Python

/-! ## Methods of strings -/

/-- `str.isspace` of one code point. -/
def CodePoint.isSpace (point : CodePoint) : Bool :=
  let value := point.val
  9 ≤ value && value ≤ 13 || 28 ≤ value && value ≤ 32 || value = 0x85 ||
    value = 0xA0 || value = 0x1680 || 0x2000 ≤ value && value ≤ 0x200A ||
    value = 0x2028 || value = 0x2029 || value = 0x202F ||
    value = 0x205F || value = 0x3000

/-- `str.strip()`. -/
def strip (value : Text) : Text :=
  ((value.dropWhile CodePoint.isSpace).reverse.dropWhile
    CodePoint.isSpace).reverse

/-- `str.lower()` on ASCII letters. -/
def lowerAscii (value : Text) : Text :=
  value.map fun point =>
    if 65 ≤ point.val ∧ point.val ≤ 90 then
      Fin.ofNat 0x110000 (point.val + 32)
    else point

/-- `str.split("\\r\\n")`. -/
def splitCrlf : Text → List Text
  | [] => [[]]
  | [point] => [[point]]
  | point :: next :: rest =>
      if point = codePoint '\r' ∧ next = codePoint '\n' then
        [] :: splitCrlf rest
      else
        match splitCrlf (next :: rest) with
        | [] => [[point]]
        | line :: lines => (point :: line) :: lines

/-- The parts of `str.partition(":")` before and after the colon. -/
def partitionColon (line : Text) : Text × Text :=
  (line.takeWhile (· ≠ codePoint ':'),
    (line.dropWhile (· ≠ codePoint ':')).drop 1)

/-- `bytes.decode("ascii", errors="replace")`. -/
def asciiReplace (data : Bytes) : Text :=
  data.map fun value =>
    if value.toNat < 128 then Fin.ofNat 0x110000 value.toNat else 0xFFFD

/-! ## Integer literals -/

/-- The digits after the first one; single underscores may separate them. -/
def moreDigits : Text → Option Text
  | [] => some []
  | [point] => if CodePoint.isDigit point then some [point] else none
  | point :: next :: rest =>
      if CodePoint.isDigit point then
        (moreDigits (next :: rest)).map (point :: ·)
      else if point = codePoint '_' ∧ CodePoint.isDigit next then
        (moreDigits rest).map (next :: ·)
      else none

/-- The digits of an unsigned integer literal. -/
def literalDigits : Text → Option Text
  | [] => none
  | point :: rest =>
      if CodePoint.isDigit point then
        (moreDigits rest).map (point :: ·)
      else none

/-- The sign and the digits of a decimal integer literal. -/
def intLiteral (value : Text) : Option (Bool × Text) :=
  match strip value with
  | [] => none
  | point :: rest =>
      if point = codePoint '-' then (literalDigits rest).map (true, ·)
      else if point = codePoint '+' then
        (literalDigits rest).map (false, ·)
      else (literalDigits (point :: rest)).map (false, ·)

/-- The integer that a sign and digits denote. -/
def signedValue (literal : Bool × Text) : Int :=
  if literal.1 then -(digitsValue literal.2 : Int)
  else digitsValue literal.2

/-- `int(value)`; `none` is its `ValueError`. -/
def intOf (value : Text) : Option Int :=
  match intLiteral value with
  | none => none
  | some literal =>
      if literal.2.length ≤ intMaxStrDigits then some (signedValue literal)
      else none

/-! ## `json.loads` on bytes -/

/-- The encodings that `json.detect_encoding` returns. -/
inductive JsonEncoding where
  | utf8
  | utf8Sig
  | utf16 (bigEndian : Bool)
  | utf16Bom
  | utf32 (bigEndian : Bool)
  | utf32Bom
  deriving DecidableEq, Repr

/-- `json.detect_encoding`. -/
def detectEncoding (data : Bytes) : JsonEncoding :=
  if [0x00, 0x00, 0xFE, 0xFF].isPrefixOf data ||
      [0xFF, 0xFE, 0x00, 0x00].isPrefixOf data then .utf32Bom
  else if [0xFE, 0xFF].isPrefixOf data ||
      [0xFF, 0xFE].isPrefixOf data then .utf16Bom
  else if [0xEF, 0xBB, 0xBF].isPrefixOf data then .utf8Sig
  else
    match data with
    | first :: second :: third :: fourth :: _ =>
        if first = 0 then
          if second ≠ 0 then .utf16 true else .utf32 true
        else if second = 0 then
          if third ≠ 0 ∨ fourth ≠ 0 then .utf16 false else .utf32 false
        else .utf8
    | [first, second] =>
        if first = 0 then .utf16 true
        else if second = 0 then .utf16 false
        else .utf8
    | _ => .utf8

/-- UTF-8 with the `surrogatepass` error handler. -/
def utf8DecodePass : Bytes → Option Text
  | [] => some []
  | first :: rest =>
      let lead := first.toNat
      if lead < 0x80 then
        (utf8DecodePass rest).map (Fin.ofNat 0x110000 lead :: ·)
      else if 0xC2 ≤ lead ∧ lead ≤ 0xDF then
        match rest with
        | second :: rest =>
            if isTail second then
              (utf8DecodePass rest).map
                (Fin.ofNat 0x110000
                  ((lead - 0xC0) * 64 + (second.toNat - 0x80)) :: ·)
            else none
        | _ => none
      else if 0xE0 ≤ lead ∧ lead ≤ 0xEF then
        match rest with
        | second :: third :: rest =>
            let value := (lead - 0xE0) * 4096 +
              (second.toNat - 0x80) * 64 + (third.toNat - 0x80)
            if isTail second ∧ isTail third ∧ 0x800 ≤ value then
              (utf8DecodePass rest).map (Fin.ofNat 0x110000 value :: ·)
            else none
        | _ => none
      else if 0xF0 ≤ lead ∧ lead ≤ 0xF4 then
        match rest with
        | second :: third :: fourth :: rest =>
            let value := (lead - 0xF0) * 262144 +
              (second.toNat - 0x80) * 4096 +
              (third.toNat - 0x80) * 64 + (fourth.toNat - 0x80)
            if isTail second ∧ isTail third ∧ isTail fourth ∧
                0x10000 ≤ value ∧ value ≤ 0x10FFFF then
              (utf8DecodePass rest).map (Fin.ofNat 0x110000 value :: ·)
            else none
        | _ => none
      else none

/-- The sixteen-bit units of a byte string. -/
def utf16Units (bigEndian : Bool) : Bytes → Option (List Nat)
  | [] => some []
  | [_] => none
  | first :: second :: rest =>
      let unit :=
        if bigEndian then first.toNat * 256 + second.toNat
        else second.toNat * 256 + first.toNat
      (utf16Units bigEndian rest).map (unit :: ·)

/-- Join surrogate pairs; lone surrogates pass. -/
def utf16Join : List Nat → Text
  | [] => []
  | [unit] => [Fin.ofNat 0x110000 unit]
  | unit :: next :: rest =>
      if 0xD800 ≤ unit ∧ unit ≤ 0xDBFF ∧ 0xDC00 ≤ next ∧
          next ≤ 0xDFFF then
        Fin.ofNat 0x110000
          (0x10000 + (unit - 0xD800) * 1024 + (next - 0xDC00)) ::
            utf16Join rest
      else Fin.ofNat 0x110000 unit :: utf16Join (next :: rest)

/-- UTF-32 with the `surrogatepass` error handler. -/
def utf32Decode (bigEndian : Bool) : Bytes → Option Text
  | [] => some []
  | a :: b :: c :: d :: rest =>
      let value :=
        if bigEndian then
          a.toNat * 16777216 + b.toNat * 65536 + c.toNat * 256 + d.toNat
        else
          d.toNat * 16777216 + c.toNat * 65536 + b.toNat * 256 + a.toNat
      if value < 0x110000 then
        (utf32Decode bigEndian rest).map (Fin.ofNat 0x110000 value :: ·)
      else none
  | _ => none

/-- Decode bytes in a detected encoding; a byte order mark is dropped. -/
def decodeDetected (data : Bytes) : Option Text :=
  match detectEncoding data with
  | .utf8 => utf8DecodePass data
  | .utf8Sig => utf8DecodePass (data.drop 3)
  | .utf16 bigEndian => (utf16Units bigEndian data).map utf16Join
  | .utf16Bom =>
      (utf16Units (decide (data.head? = some 0xFE)) (data.drop 2)).map
        utf16Join
  | .utf32 bigEndian => utf32Decode bigEndian data
  | .utf32Bom =>
      utf32Decode (decide (data.head? = some 0x00)) (data.drop 4)

/-- `json.loads(data)`; bytes that do not decode are a decoding error. -/
def loadsBytes (data : Bytes) : Except JsonError Json :=
  match decodeDetected data with
  | none => .error .decode
  | some document => parseText true document

/-! ## Encoded texts -/

/-- What strict decoding accepts is decoded alike when surrogates pass. -/
theorem utf8DecodePass_of_utf8Decode
    {data : Bytes} {decoded : Text}
    (decodes : utf8Decode data = some decoded) :
    utf8DecodePass data = some decoded := by
  fun_induction utf8Decode data generalizing decoded with
  | case1 => exact decodes
  | case2 first rest lead small =>
      rename_i induction
      obtain ⟨tail, isTail, rfl⟩ := Option.map_eq_some_iff.mp decodes
      rw [utf8DecodePass.eq_def]
      dsimp only
      rw [if_pos small, induction isTail]
      rfl
  | case3 first lead large two second rest isSecond =>
      rename_i induction
      obtain ⟨tail, isTail, rfl⟩ := Option.map_eq_some_iff.mp decodes
      rw [utf8DecodePass.eq_def]
      dsimp only
      rw [if_neg large, if_pos two, if_pos isSecond, induction isTail]
      rfl
  | case6 first lead large notTwo three second third rest value
      isTails =>
      rename_i induction
      obtain ⟨tail, isTail, rfl⟩ := Option.map_eq_some_iff.mp decodes
      rw [utf8DecodePass.eq_def]
      dsimp only
      rw [if_neg large, if_neg notTwo, if_pos three,
        if_pos ⟨isTails.1, isTails.2.1, isTails.2.2.1⟩, induction isTail]
      rfl
  | case9 first lead large notTwo notThree four second third fourth rest
      value isTails =>
      rename_i induction
      obtain ⟨isSecond, isThird, isFourth, low, high⟩ := isTails
      obtain ⟨tail, isTail, rfl⟩ := Option.map_eq_some_iff.mp decodes
      rw [utf8DecodePass.eq_def]
      dsimp only
      rw [if_neg large, if_neg notTwo, if_neg notThree, if_pos four,
        if_pos ⟨isSecond, isThird, isFourth, low, Nat.le_of_lt_succ high⟩,
        induction isTail]
      rfl
  | _ => cases decodes

/-! ## Lines -/

/-- A line without a carriage return ends at the first line break. -/
theorem splitCrlf_line
    {line : Text} (plain : codePoint '\r' ∉ line) (rest : Text) :
    splitCrlf (line ++ codePoint '\r' :: codePoint '\n' :: rest) =
      line :: splitCrlf rest := by
  induction line with
  | nil => rw [List.nil_append, splitCrlf, if_pos ⟨rfl, rfl⟩]
  | cons point others induction =>
      rw [List.mem_cons, not_or] at plain
      have after := induction plain.2
      cases others with
      | nil =>
          rw [List.nil_append] at after
          rw [List.cons_append, List.nil_append, splitCrlf,
            if_neg fun both => plain.1 both.1.symm, after]
      | cons next others =>
          rw [List.cons_append] at after
          rw [List.cons_append, List.cons_append, splitCrlf,
            if_neg fun both => plain.1 both.1.symm, after]

theorem dropWhile_of_head
    {α : Type} {accepts : α → Bool} {values : List α}
    (refused : ∀ value ∈ values.head?, accepts value = false) :
    values.dropWhile accepts = values := by
  cases values with
  | nil => rfl
  | cons value rest =>
      rw [List.dropWhile_cons_of_neg]
      simp [refused value rfl]

/-- A text without spaces is not stripped. -/
theorem strip_of_noSpace
    {value : Text}
    (noSpace : ∀ point ∈ value, CodePoint.isSpace point = false) :
    strip value = value := by
  have front : value.dropWhile CodePoint.isSpace = value :=
    dropWhile_of_head fun point isHead =>
      noSpace point (List.mem_of_mem_head? isHead)
  have back : value.reverse.dropWhile CodePoint.isSpace = value.reverse :=
    dropWhile_of_head fun point isHead =>
      noSpace point (List.mem_reverse.mp (List.mem_of_mem_head? isHead))
  rw [strip, front, back, List.reverse_reverse]

theorem isSpace_of_isDigit
    {point : CodePoint} (isDigit : CodePoint.isDigit point = true) :
    CodePoint.isSpace point = false := by
  simp only [CodePoint.isDigit, Bool.and_eq_true, decide_eq_true_eq]
    at isDigit
  simp only [CodePoint.isSpace, Bool.or_eq_false_iff,
    Bool.and_eq_false_imp, decide_eq_true_eq, decide_eq_false_iff_not]
  omega

theorem moreDigits_of_isDigit
    {digits : Text}
    (areDigits : ∀ point ∈ digits, CodePoint.isDigit point = true) :
    moreDigits digits = some digits := by
  induction digits with
  | nil => rfl
  | cons point rest induction =>
      have isDigit := areDigits point List.mem_cons_self
      have after := induction fun other isOther =>
        areDigits other (List.mem_cons_of_mem _ isOther)
      cases rest with
      | nil => rw [moreDigits, if_pos isDigit]
      | cons next rest =>
          rw [moreDigits, if_pos isDigit, after]
          rfl

/-- A printed number is a literal. -/
theorem literalDigits_decimalText (value : Nat) :
    literalDigits (decimalText value) = some (decimalText value) := by
  have areDigits := decimalText_isDigit value
  cases digits : decimalText value with
  | nil =>
      rw [decimalText] at digits
      split_ifs at digits with zero
      simp [Nat.digits_ne_nil_iff_ne_zero.mpr zero] at digits
  | cons point rest =>
      rw [digits] at areDigits
      have after := moreDigits_of_isDigit fun other isOther =>
        areDigits other (List.mem_cons_of_mem _ isOther)
      rw [literalDigits, if_pos (areDigits point List.mem_cons_self), after]
      rfl

/-- `int` undoes `str` on integers that are not too long. -/
theorem intOf_intText
    {value : Int}
    (short : (decimalText value.natAbs).length ≤ intMaxStrDigits) :
    intOf (intText value) = some value := by
  have areDigits := decimalText_isDigit value.natAbs
  have noSpace : ∀ point ∈ intText value,
      CodePoint.isSpace point = false := by
    intro point member
    rw [intText, List.mem_append] at member
    rcases member with inSign | inDigits
    · split_ifs at inSign
      · rw [List.mem_singleton.mp inSign]
        decide
      · cases inSign
    · exact isSpace_of_isDigit (areDigits point inDigits)
  have literal : intLiteral (intText value) =
      some (decide (value < 0), decimalText value.natAbs) := by
    rw [intLiteral, strip_of_noSpace noSpace, intText]
    by_cases negative : value < 0
    · simp only [negative, if_true, List.singleton_append,
        literalDigits_decimalText, Option.map_some, decide_true]
    · have found := literalDigits_decimalText value.natAbs
      rw [if_neg negative, List.nil_append]
      cases digits : decimalText value.natAbs with
      | nil =>
          rw [digits] at found
          cases found
      | cons point rest =>
          rw [digits] at found areDigits
          have isDigit := areDigits point List.mem_cons_self
          have notMinus : point ≠ codePoint '-' := by
            rintro rfl
            revert isDigit
            decide
          have notPlus : point ≠ codePoint '+' := by
            rintro rfl
            revert isDigit
            decide
          dsimp only
          rw [if_neg notMinus, if_neg notPlus, found]
          simp [negative]
  rw [intOf, literal]
  dsimp only
  rw [if_pos short]
  congr 1
  rw [signedValue, digitsValue_decimalText]
  by_cases negative : value < 0
  · simp only [negative, decide_true, if_true]
    omega
  · simp only [negative, decide_false, Bool.false_eq_true, if_false]
    omega

/-- `int` undoes `str` on natural numbers that are not too long. -/
theorem intOf_decimalText
    {value : Nat}
    (short : (decimalText value).length ≤ intMaxStrDigits) :
    intOf (decimalText value) = some (value : Int) := by
  have printed : intText (value : Int) = decimalText value := by
    rw [intText, if_neg (by omega), List.nil_append, Int.natAbs_natCast]
  rw [← printed]
  exact intOf_intText (by rwa [Int.natAbs_natCast])

end ScientificResourceLab.Python
