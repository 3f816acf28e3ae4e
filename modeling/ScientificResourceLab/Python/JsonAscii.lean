import ScientificResourceLab.Python.JsonOrder

/-!
# Reading ASCII documents

A code point above the basic plane is written as two escapes, and the decoder
joins any escaped high surrogate with the escaped low one after it.  So a
string is read back with its surrogate pairs joined (`readsStrings_ascii`),
and two strings that differ only in this are written alike
(`flatMap_joinPairs`).
-/

namespace ScientificResourceLab.Python

/-- The string with each high surrogate joined with the low one after it. -/
def joinPairs : Text → Text
  | [] => []
  | [point] => [point]
  | first :: second :: rest =>
      if CodePoint.isHighSurrogate first ∧
          CodePoint.isLowSurrogate second then
        joinSurrogates first second :: joinPairs rest
      else first :: joinPairs (second :: rest)

/-- The high surrogate of a code point above the basic plane. -/
def highUnit (point : CodePoint) : CodePoint :=
  Fin.ofNat 0x110000 (0xD800 + (point.val - 0x10000) / 1024)

/-- The low surrogate of a code point above the basic plane. -/
def lowUnit (point : CodePoint) : CodePoint :=
  Fin.ofNat 0x110000 (0xDC00 + (point.val - 0x10000) % 1024)

/-- What the decoder scans of one escaped code point. -/
def scannedUnits (point : CodePoint) : List (CodePoint × Bool) :=
  if point.val < 127 then [(point, escapeMark point)]
  else if point.val < 0x10000 then [(point, true)]
  else [(highUnit point, true), (lowUnit point, true)]

theorem rereadItems_eq_map (read : Text → Text) (items : List Json) :
    rereadItems read items = items.map (Json.reread read) := by
  induction items with
  | nil => rfl
  | cons item rest induction =>
      rw [rereadItems, List.map_cons, induction]

/-! ## Scanning -/

theorem hexEscape_unit {unit : Nat} (small : unit < 0x10000) :
    hexEscape (hexPoint (unit / 4096 % 16)) (hexPoint (unit / 256 % 16))
        (hexPoint (unit / 16 % 16)) (hexPoint (unit % 16)) =
      some (Fin.ofNat 0x110000 unit) := by
  have digit (value : Nat) : hexValue (hexPoint (value % 16)) =
      some (value % 16) :=
    hexValue_hexPoint (Nat.mod_lt _ (by decide))
  simp only [hexEscape, digit, Option.bind_eq_bind, Option.bind_some,
    Option.pure_def]
  congr 2
  omega

theorem scanString_unicodeEscape
    {unit : Nat} (small : unit < 0x10000) (rest : Text) :
    scanString (unicodeEscape unit ++ rest) =
      (scanString rest).map fun scanned =>
        ((Fin.ofNat 0x110000 unit, true) :: scanned.1, scanned.2) :=
  scanString_hexEscape (hexEscape_unit small) rest

theorem scanString_asciiPoint (point : CodePoint) (rest : Text) :
    scanString (asciiPoint point ++ rest) =
      (scanString rest).map fun scanned =>
        (scannedUnits point ++ scanned.1, scanned.2) := by
  have bound := point.isLt
  rw [asciiPoint, scannedUnits]
  split_ifs with isAscii basic
  · exact scanString_escapePoint point rest
  · rw [scanString_unicodeEscape basic, ofNat_eq_point point rfl]
    rfl
  · rw [List.append_assoc, scanString_unicodeEscape (by omega),
      scanString_unicodeEscape (by omega), Option.map_map]
    rfl

/-- An escaped string is scanned up to its closing quote. -/
theorem scanString_ascii (value rest : Text) :
    scanString (value.flatMap asciiPoint ++ codePoint '"' :: rest) =
      some (value.flatMap scannedUnits, rest) := by
  induction value with
  | nil =>
      rw [List.flatMap_nil, List.nil_append, scanString.eq_def]
      simp
  | cons point value induction =>
      rw [List.flatMap_cons, List.append_assoc, scanString_asciiPoint,
        induction]
      rfl

/-! ## Joining -/

/-- A point that is no high surrogate stands alone. -/
theorem joinEscapes_of_not_high
    {point : CodePoint} (notHigh : CodePoint.isHighSurrogate point = false)
    (mark : Bool) (rest : List (CodePoint × Bool)) :
    joinEscapes ((point, mark) :: rest) = point :: joinEscapes rest := by
  cases rest with
  | nil => rfl
  | cons next rest =>
      obtain ⟨second, secondMark⟩ := next
      cases mark with
      | false => rw [joinEscapes] <;> simp
      | true =>
          cases secondMark with
          | false => rw [joinEscapes] <;> simp
          | true => rw [joinEscapes, if_neg (by simp [notHigh])]

/-- A point stands alone ahead of one that is no low surrogate. -/
theorem joinEscapes_of_not_low
    {point next : CodePoint}
    (notLow : CodePoint.isLowSurrogate next = false)
    (mark nextMark : Bool) (rest : List (CodePoint × Bool)) :
    joinEscapes ((point, mark) :: (next, nextMark) :: rest) =
      point :: joinEscapes ((next, nextMark) :: rest) := by
  cases mark with
  | false => rw [joinEscapes] <;> simp
  | true =>
      cases nextMark with
      | false => rw [joinEscapes] <;> simp
      | true => rw [joinEscapes, if_neg (by simp [notLow])]

theorem joinEscapes_pair
    {high low : CodePoint}
    (isHigh : CodePoint.isHighSurrogate high = true)
    (isLow : CodePoint.isLowSurrogate low = true)
    (rest : List (CodePoint × Bool)) :
    joinEscapes ((high, true) :: (low, true) :: rest) =
      joinSurrogates high low :: joinEscapes rest := by
  rw [joinEscapes, if_pos ⟨isHigh, isLow⟩]

theorem units_pair {point : CodePoint} (above : 0x10000 ≤ point.val) :
    CodePoint.isHighSurrogate (highUnit point) = true ∧
      CodePoint.isLowSurrogate (lowUnit point) = true ∧
      joinSurrogates (highUnit point) (lowUnit point) = point := by
  have bound := point.isLt
  have high : (highUnit point).val =
      0xD800 + (point.val - 0x10000) / 1024 :=
    Nat.mod_eq_of_lt (by omega)
  have low : (lowUnit point).val = 0xDC00 + (point.val - 0x10000) % 1024 :=
    Nat.mod_eq_of_lt (by omega)
  refine ⟨?_, ?_, ?_⟩
  · simp only [CodePoint.isHighSurrogate, high, Bool.and_eq_true,
      decide_eq_true_eq]
    omega
  · simp only [CodePoint.isLowSurrogate, low, Bool.and_eq_true,
      decide_eq_true_eq]
    omega
  · rw [joinSurrogates, high, low]
    exact ofNat_eq_point point (by omega)

theorem scannedUnits_head
    {point : CodePoint} (notLow : CodePoint.isLowSurrogate point = false) :
    ∃ first mark rest, scannedUnits point = (first, mark) :: rest ∧
      CodePoint.isLowSurrogate first = false := by
  have bound := point.isLt
  rw [scannedUnits]
  split_ifs with isAscii basic
  · exact ⟨point, _, [], rfl, notLow⟩
  · exact ⟨point, _, [], rfl, notLow⟩
  · refine ⟨highUnit point, _, _, rfl, ?_⟩
    have high : (highUnit point).val =
        0xD800 + (point.val - 0x10000) / 1024 :=
      Nat.mod_eq_of_lt (by omega)
    simp only [CodePoint.isLowSurrogate, high, Bool.and_eq_false_imp,
      decide_eq_true_eq, decide_eq_false_iff_not]
    omega

/-- A point that is no high surrogate is joined to nothing but itself. -/
theorem joinEscapes_units_of_not_high
    {point : CodePoint} (notHigh : CodePoint.isHighSurrogate point = false)
    (rest : List (CodePoint × Bool)) :
    joinEscapes (scannedUnits point ++ rest) =
      point :: joinEscapes rest := by
  rw [scannedUnits]
  split_ifs with isAscii basic
  · exact joinEscapes_of_not_high notHigh _ rest
  · exact joinEscapes_of_not_high notHigh _ rest
  · obtain ⟨isHigh, isLow, joined⟩ :=
      units_pair (not_lt.mp basic)
    exact (joinEscapes_pair isHigh isLow rest).trans (by rw [joined])

theorem scannedUnits_surrogate
    {point : CodePoint}
    (range : 0xD800 ≤ point.val ∧ point.val ≤ 0xDFFF) :
    scannedUnits point = [(point, true)] := by
  rw [scannedUnits, if_neg (by omega), if_pos (by omega)]

theorem isHighSurrogate_iff {point : CodePoint} :
    CodePoint.isHighSurrogate point = true ↔
      0xD800 ≤ point.val ∧ point.val ≤ 0xDBFF := by
  simp [CodePoint.isHighSurrogate]

theorem isLowSurrogate_iff {point : CodePoint} :
    CodePoint.isLowSurrogate point = true ↔
      0xDC00 ≤ point.val ∧ point.val ≤ 0xDFFF := by
  simp [CodePoint.isLowSurrogate]

/-- The decoder joins the pairs of the string. -/
theorem joinEscapes_units (value : Text) :
    joinEscapes (value.flatMap scannedUnits) = joinPairs value := by
  induction value using joinPairs.induct with
  | case1 => rfl
  | case2 point =>
      rw [List.flatMap_cons, List.flatMap_nil, List.append_nil, joinPairs]
      by_cases isHigh : CodePoint.isHighSurrogate point = true
      · have range := isHighSurrogate_iff.mp isHigh
        rw [scannedUnits_surrogate (by omega)]
        rfl
      · have alone := joinEscapes_units_of_not_high
          (Bool.eq_false_iff.mpr isHigh) []
        rwa [List.append_nil] at alone
  | case3 first second rest pair induction =>
      have high := isHighSurrogate_iff.mp pair.1
      have low := isLowSurrogate_iff.mp pair.2
      rw [List.flatMap_cons, List.flatMap_cons,
        scannedUnits_surrogate (by omega), scannedUnits_surrogate (by omega),
        joinPairs, if_pos pair, ← induction]
      exact joinEscapes_pair pair.1 pair.2 _
  | case4 first second rest noPair induction =>
      rw [joinPairs, if_neg noPair, ← induction, List.flatMap_cons]
      by_cases isHigh : CodePoint.isHighSurrogate first = true
      · have range := isHighSurrogate_iff.mp isHigh
        have notLow : CodePoint.isLowSurrogate second = false :=
          Bool.eq_false_iff.mpr fun isLow => noPair ⟨isHigh, isLow⟩
        obtain ⟨unit, mark, others, isScanned, unitNotLow⟩ :=
          scannedUnits_head notLow
        rw [scannedUnits_surrogate (by omega), List.flatMap_cons, isScanned]
        exact joinEscapes_of_not_low unitNotLow _ _ _
      · exact joinEscapes_units_of_not_high (Bool.eq_false_iff.mpr isHigh) _

/-- A string is read back with its surrogate pairs joined. -/
theorem readsStrings_ascii : ReadsStrings asciiPoint joinPairs := by
  intro value rest
  rw [parseString, scanString_ascii]
  simp only [joinEscapes_units]

/-- Joining the pairs of a string does not change how it is written. -/
theorem flatMap_joinPairs (value : Text) :
    (joinPairs value).flatMap asciiPoint = value.flatMap asciiPoint := by
  induction value using joinPairs.induct with
  | case1 => rfl
  | case2 point => rfl
  | case3 first second rest pair induction =>
      have high := isHighSurrogate_iff.mp pair.1
      have low := isLowSurrogate_iff.mp pair.2
      have joined : (joinSurrogates first second).val =
          0x10000 + (first.val - 0xD800) * 1024 + (second.val - 0xDC00) :=
        Nat.mod_eq_of_lt (by omega)
      have highUnit : 0xD800 + ((joinSurrogates first second).val -
          0x10000) / 1024 = first.val := by
        omega
      have lowUnit : 0xDC00 + ((joinSurrogates first second).val -
          0x10000) % 1024 = second.val := by
        omega
      have written : asciiPoint (joinSurrogates first second) =
          unicodeEscape first.val ++ unicodeEscape second.val := by
        rw [asciiPoint, if_neg (by omega), if_neg (by omega), highUnit,
          lowUnit]
      have writtenFirst : asciiPoint first = unicodeEscape first.val := by
        rw [asciiPoint, if_neg (by omega), if_pos (by omega)]
      have writtenSecond : asciiPoint second = unicodeEscape second.val := by
        rw [asciiPoint, if_neg (by omega), if_pos (by omega)]
      rw [joinPairs, if_pos pair]
      simp only [List.flatMap_cons, induction, written, writtenFirst,
        writtenSecond, List.append_assoc]
  | case4 first second rest noPair induction =>
      rw [joinPairs, if_neg noPair]
      simp only [List.flatMap_cons] at induction ⊢
      rw [induction]

/-! ## Strings without pairs -/

/-- No high surrogate stands directly ahead of a low one. -/
def Unpaired (value : Text) : Prop :=
  value.IsChain fun first second =>
    ¬ (CodePoint.isHighSurrogate first = true ∧
      CodePoint.isLowSurrogate second = true)

instance (value : Text) : Decidable (Unpaired value) :=
  inferInstanceAs (Decidable (List.IsChain _ _))

/-- Joining pairs never lengthens a string. -/
theorem length_joinPairs_le (value : Text) :
    (joinPairs value).length ≤ value.length := by
  induction value using joinPairs.induct with
  | case1 => exact le_rfl
  | case2 point => exact le_rfl
  | case3 first second rest pair induction =>
      rw [joinPairs, if_pos pair]
      simp only [List.length_cons]
      omega
  | case4 first second rest noPair induction =>
      rw [joinPairs, if_neg noPair]
      simp only [List.length_cons] at induction ⊢
      omega

/-- Joining pairs keeps the length of the strings that have none. -/
theorem length_joinPairs_iff (value : Text) :
    (joinPairs value).length = value.length ↔ Unpaired value := by
  induction value using joinPairs.induct with
  | case1 => exact iff_of_true rfl List.isChain_nil
  | case2 point => exact iff_of_true rfl (List.isChain_singleton point)
  | case3 first second rest pair induction =>
      have shorter := length_joinPairs_le rest
      rw [joinPairs, if_pos pair, Unpaired, List.isChain_cons_cons]
      refine iff_of_false ?_ fun unpaired => unpaired.1 pair
      simp only [List.length_cons]
      omega
  | case4 first second rest noPair induction =>
      rw [joinPairs, if_neg noPair, Unpaired, List.isChain_cons_cons,
        List.length_cons, List.length_cons, Nat.succ_inj, induction]
      exact (and_iff_right noPair).symm

/-- The strings without pairs are those that joining leaves as they are. -/
theorem joinPairs_eq_self_iff (value : Text) :
    joinPairs value = value ↔ Unpaired value := by
  constructor
  · intro same
    rw [← length_joinPairs_iff, same]
  · intro unpaired
    induction value using joinPairs.induct with
    | case1 => rfl
    | case2 point => rfl
    | case3 first second rest pair induction =>
        exact absurd pair (List.isChain_cons_cons.mp unpaired).1
    | case4 first second rest noPair induction =>
        rw [joinPairs, if_neg noPair,
          induction (List.isChain_cons_cons.mp unpaired).2]

end ScientificResourceLab.Python
