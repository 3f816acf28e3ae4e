import Mathlib.Data.List.Basic
import Mathlib.Data.Fin.Basic
import Mathlib.Data.Nat.Digits.Lemmas

/-!
# Python text and its UTF-8 encoding

A Python string is a sequence of Unicode code points, and a lone surrogate is
a code point like any other.  `Text` is that type.  The order of `List` on it
is the code-point order in which Python sorts strings.

Strict UTF-8 refuses surrogates, so encoding is partial; decoding refuses
every byte string that encoding does not produce.  `utf8Decode_utf8Encode`
is the round trip.  The last sections split paths, and write and read natural
numbers in decimal.
-/

namespace ScientificResourceLab.Python

/-- A Unicode code point, surrogates included. -/
abbrev CodePoint := Fin 0x110000

/-- A Python `str`. -/
abbrev Text := List CodePoint

/-- There are code points. -/
instance codePointNeZero : NeZero 0x110000 :=
  ⟨Nat.succ_ne_zero _⟩

/-- Code points are equal where they compare equal. -/
instance codePointLawfulBEq : LawfulBEq CodePoint where
  eq_of_beq := of_decide_eq_true
  rfl := decide_eq_true rfl

instance textLawfulBEq : LawfulBEq Text :=
  List.instLawfulBEq

/-- A Python `bytes`. -/
abbrev Bytes := List UInt8

/-- The code point of a character literal. -/
def codePoint (char : Char) : CodePoint :=
  Fin.ofNat 0x110000 char.toNat

/-- The Python string written as a Lean literal. -/
def text (literal : String) : Text :=
  literal.toList.map codePoint

/-- A literal by its characters, which is how it is evaluated quickly. -/
theorem text_ofList (chars : List Char) :
    text (String.ofList chars) = chars.map codePoint := by
  rw [text, String.toList_ofList]

/-- `0xD800` to `0xDFFF`. -/
def CodePoint.isSurrogate (point : CodePoint) : Bool :=
  0xD800 ≤ point.val && point.val ≤ 0xDFFF

/-- `\ud800` to `\udbff`. -/
def CodePoint.isHighSurrogate (point : CodePoint) : Bool :=
  0xD800 ≤ point.val && point.val ≤ 0xDBFF

/-- `\udc00` to `\udfff`. -/
def CodePoint.isLowSurrogate (point : CodePoint) : Bool :=
  0xDC00 ≤ point.val && point.val ≤ 0xDFFF

/-- An ASCII decimal digit. -/
def CodePoint.isDigit (point : CodePoint) : Bool :=
  48 ≤ point.val && point.val ≤ 57

/-- A lowercase hexadecimal digit. -/
def hexPoint (value : Nat) : CodePoint :=
  Fin.ofNat 0x110000 (if value < 10 then 48 + value else 87 + value)

/-- `[0-9a-f]`. -/
def CodePoint.isLowerHex (point : CodePoint) : Bool :=
  isDigit point || 97 ≤ point.val && point.val ≤ 102

/-! ## Strict UTF-8 -/

def byte (value : Nat) : UInt8 :=
  UInt8.ofNat value

/-- The UTF-8 form of one code point; a surrogate has none. -/
def utf8EncodePoint (point : CodePoint) : Option Bytes :=
  let value := point.val
  if value < 0x80 then
    some [byte value]
  else if value < 0x800 then
    some [byte (0xC0 + value / 64), byte (0x80 + value % 64)]
  else if point.isSurrogate then
    none
  else if value < 0x10000 then
    some [byte (0xE0 + value / 4096), byte (0x80 + value / 64 % 64),
      byte (0x80 + value % 64)]
  else
    some [byte (0xF0 + value / 262144), byte (0x80 + value / 4096 % 64),
      byte (0x80 + value / 64 % 64), byte (0x80 + value % 64)]

/-- `str.encode("utf-8")`; `none` is the `UnicodeEncodeError`. -/
def utf8Encode : Text → Option Bytes
  | [] => some []
  | point :: rest => do
      let head ← utf8EncodePoint point
      let tail ← utf8Encode rest
      pure (head ++ tail)

/-- A continuation byte `0x80` to `0xBF`. -/
def isTail (value : UInt8) : Bool :=
  0x80 ≤ value.toNat && value.toNat ≤ 0xBF

/--
`bytes.decode("utf-8")`; `none` is the `UnicodeDecodeError`.  Overlong forms,
surrogates and values above `0x10FFFF` are refused.
-/
def utf8Decode : Bytes → Option Text
  | [] => some []
  | first :: rest =>
      let lead := first.toNat
      if lead < 0x80 then
        (utf8Decode rest).map (Fin.ofNat 0x110000 lead :: ·)
      else if 0xC2 ≤ lead ∧ lead ≤ 0xDF then
        match rest with
        | second :: rest =>
            if isTail second then
              (utf8Decode rest).map
                (Fin.ofNat 0x110000
                  ((lead - 0xC0) * 64 + (second.toNat - 0x80)) :: ·)
            else none
        | _ => none
      else if 0xE0 ≤ lead ∧ lead ≤ 0xEF then
        match rest with
        | second :: third :: rest =>
            let value := (lead - 0xE0) * 4096 +
              (second.toNat - 0x80) * 64 + (third.toNat - 0x80)
            if isTail second ∧ isTail third ∧ 0x800 ≤ value ∧
                ¬ (0xD800 ≤ value ∧ value ≤ 0xDFFF) then
              (utf8Decode rest).map (Fin.ofNat 0x110000 value :: ·)
            else none
        | _ => none
      else if 0xF0 ≤ lead ∧ lead ≤ 0xF4 then
        match rest with
        | second :: third :: fourth :: rest =>
            let value := (lead - 0xF0) * 262144 +
              (second.toNat - 0x80) * 4096 +
              (third.toNat - 0x80) * 64 + (fourth.toNat - 0x80)
            if isTail second ∧ isTail third ∧ isTail fourth ∧
                0x10000 ≤ value ∧ value < 0x110000 then
              (utf8Decode rest).map (Fin.ofNat 0x110000 value :: ·)
            else none
        | _ => none
      else none

theorem byte_toNat (value : Nat) (small : value < 256) :
    (byte value).toNat = value := by
  simp only [byte, UInt8.toNat_ofNat']
  omega

theorem ofNat_eq_point {value : Nat} (point : CodePoint)
    (equal : value = point.val) :
    Fin.ofNat 0x110000 value = point := by
  subst equal
  apply Fin.ext
  simp [Fin.ofNat, Nat.mod_eq_of_lt point.isLt]

/-- Decoding takes off exactly the encoding of one code point. -/
theorem utf8Decode_encodePoint
    {point : CodePoint} {encoded : Bytes}
    (encodes : utf8EncodePoint point = some encoded) (rest : Bytes) :
    utf8Decode (encoded ++ rest) =
      (utf8Decode rest).map (point :: ·) := by
  have bound := point.isLt
  rw [utf8EncodePoint] at encodes
  simp only [CodePoint.isSurrogate, Bool.and_eq_true,
    decide_eq_true_eq] at encodes
  split_ifs at encodes with one two surrogate three <;>
    simp only [Option.some.injEq] at encodes <;> subst encodes
  · have lead := byte_toNat point.val (by omega)
    rw [List.cons_append, List.nil_append, utf8Decode.eq_def]
    simp only [lead, one, if_true]
    rw [ofNat_eq_point point rfl]
  · have lead := byte_toNat (0xC0 + point.val / 64) (by omega)
    have second := byte_toNat (0x80 + point.val % 64) (by omega)
    simp only [List.cons_append, List.nil_append, utf8Decode, lead,
      isTail, second]
    rw [if_neg (by omega), if_pos (by omega), if_pos (by simp; omega),
      ofNat_eq_point point (by omega)]
  · have lead := byte_toNat (0xE0 + point.val / 4096) (by omega)
    have second :=
      byte_toNat (0x80 + point.val / 64 % 64) (by omega)
    have third := byte_toNat (0x80 + point.val % 64) (by omega)
    simp only [List.cons_append, List.nil_append, utf8Decode, lead,
      isTail, second, third, Bool.and_eq_true, decide_eq_true_eq]
    rw [if_neg (by omega), if_neg (by omega), if_pos (by omega),
      if_pos (by omega), ofNat_eq_point point (by omega)]
  · have lead := byte_toNat (0xF0 + point.val / 262144) (by omega)
    have second :=
      byte_toNat (0x80 + point.val / 4096 % 64) (by omega)
    have third :=
      byte_toNat (0x80 + point.val / 64 % 64) (by omega)
    have fourth := byte_toNat (0x80 + point.val % 64) (by omega)
    simp only [List.cons_append, List.nil_append, utf8Decode, lead,
      isTail, second, third, fourth, Bool.and_eq_true, decide_eq_true_eq]
    rw [if_neg (by omega), if_neg (by omega), if_neg (by omega),
      if_pos (by omega), if_pos (by omega),
      ofNat_eq_point point (by omega)]

/-- Strict UTF-8 decoding undoes strict UTF-8 encoding. -/
theorem utf8Decode_utf8Encode
    {source : Text} {encoded : Bytes}
    (encodes : utf8Encode source = some encoded) :
    utf8Decode encoded = some source := by
  induction source generalizing encoded with
  | nil =>
      cases encodes
      rfl
  | cons point rest induction =>
      simp only [utf8Encode, Option.bind_eq_bind,
        Option.bind_eq_some_iff, Option.pure_def,
        Option.some.injEq] at encodes
      obtain ⟨head, headEncodes, tail, tailEncodes, rfl⟩ := encodes
      rw [utf8Decode_encodePoint headEncodes, induction tailEncodes]
      rfl

/-! ## Hexadecimal digits -/

theorem hexPoint_isLowerHex {value : Nat} (small : value < 16) :
    CodePoint.isLowerHex (hexPoint value) = true := by
  interval_cases value <;> decide

/-! ## Paths -/

/-- Whether a path is absolute. -/
def isAbsolute (path : Text) : Bool :=
  path.head? = some (codePoint '/')

/-- The names of a path, as `pathlib` splits it. -/
def pathParts (path : Text) : List Text :=
  (path.splitOn (codePoint '/')).filter fun part =>
    part ≠ [] ∧ part ≠ text "."

/-! ## Decimal numbers -/

/-- The decimal digit of a value below ten. -/
def digitPoint (value : Nat) : CodePoint :=
  Fin.ofNat 0x110000 (48 + value)

/-- `str(n)` for a natural number. -/
def decimalText (value : Nat) : Text :=
  if value = 0 then [digitPoint 0]
  else (Nat.digits 10 value).reverse.map digitPoint

/-- The number a string of decimal digits denotes. -/
def digitsValue (digits : Text) : Nat :=
  digits.foldl (fun value digit => 10 * value + (digit.val - 48)) 0

theorem digitPoint_val {value : Nat} (small : value < 10) :
    (digitPoint value).val = 48 + value := by
  simp only [digitPoint, Fin.val_ofNat]
  omega

theorem digitPoint_isDigit {value : Nat} (small : value < 10) :
    CodePoint.isDigit (digitPoint value) = true := by
  simp only [CodePoint.isDigit, digitPoint_val small, Bool.and_eq_true,
    decide_eq_true_eq]
  omega

theorem decimalText_isDigit (value : Nat) :
    ∀ point ∈ decimalText value, CodePoint.isDigit point = true := by
  intro point member
  simp only [decimalText] at member
  split_ifs at member with zero
  · rw [List.mem_singleton.mp member]
    exact digitPoint_isDigit (by omega)
  · obtain ⟨digit, isDigit, rfl⟩ := List.mem_map.mp member
    exact digitPoint_isDigit
      (Nat.digits_lt_base (by omega) (List.mem_reverse.mp isDigit))

theorem digitsValue_decimalText (value : Nat) :
    digitsValue (decimalText value) = value := by
  simp only [decimalText]
  split_ifs with zero
  · simp [digitsValue, digitPoint_val, zero]
  · rw [digitsValue, List.foldl_map, List.foldl_reverse]
    conv_rhs => rw [← Nat.ofDigits_digits 10 value, Nat.ofDigits_eq_foldr]
    apply List.foldr_ext
    intro digit isDigit rest
    have small : digit < 10 := Nat.digits_lt_base (by omega) isDigit
    rw [digitPoint_val small]
    simp only [Nat.cast_id]
    omega

/-- A positive number is written without a leading zero. -/
theorem decimalText_cons {value : Nat} (positive : value ≠ 0) :
    ∃ digit rest,
      decimalText value = digitPoint digit :: rest ∧
        1 ≤ digit ∧ digit < 10 := by
  have nonempty := Nat.digits_ne_nil_iff_ne_zero (b := 10) |>.mpr positive
  have leading := Nat.getLast_digit_ne_zero 10 positive
  have small :=
    Nat.digits_lt_base (b := 10) (by omega)
      (List.getLast_mem nonempty)
  refine ⟨(Nat.digits 10 value).getLast nonempty,
    (Nat.digits 10 value).dropLast.reverse.map digitPoint, ?_,
    Nat.one_le_iff_ne_zero.mpr leading, small⟩
  rw [decimalText, if_neg positive]
  conv_lhs => rw [← List.dropLast_append_getLast nonempty]
  simp

/-- A number below a power of ten has at most that many digits. -/
theorem decimalText_length_le
    {value count : Nat} (positive : 0 < count)
    (small : value < 10 ^ count) : (decimalText value).length ≤ count := by
  rw [decimalText]
  split_ifs with zero
  · exact positive
  · rw [List.length_map, List.length_reverse]
    exact (Nat.digits_length_le_iff (by omega) value).mpr small

end ScientificResourceLab.Python
