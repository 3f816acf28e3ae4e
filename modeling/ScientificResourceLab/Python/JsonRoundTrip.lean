import ScientificResourceLab.Python.JsonNumbers
import ScientificResourceLab.Python.JsonWriting

/-!
# Decoding undoes encoding

The objects of a plain value list their members by strictly increasing key,
so it is the form in which the decoder returns a document written with
sorted keys.  `parseText_dumpText` is the round trip on
plain values: the text that `dumpText` writes is read back as the same value,
with or without a trailing newline.  For a writer with other escapes
`parseText_dumpTextWith` reads a value back with every string as the decoder
reads its literal.

The induction is on the value.  At every place it is carried by the text that
may follow a value in a document, `Delimited`, and by the fuel bound of twice
the length of the text.
-/

namespace ScientificResourceLab.Python

mutual

/-- Strictly increasing keys at every level. -/
def Json.Plain : Json → Prop
  | .null => True
  | .bool _ => True
  | .int _ => True
  | .float _ => True
  | .str _ => True
  | .arr items => PlainItems items
  | .obj members =>
      PlainMembers members ∧
        (members.map Prod.fst).Pairwise (· < ·)

def PlainItems : List Json → Prop
  | [] => True
  | item :: rest => item.Plain ∧ PlainItems rest

def PlainMembers : List (Text × Json) → Prop
  | [] => True
  | (_, value) :: rest => value.Plain ∧ PlainMembers rest

end

/-! ## Strings -/

theorem hexValue_hexPoint {value : Nat} (small : value < 16) :
    hexValue (hexPoint value) = some value := by
  interval_cases value <;> decide

/-- The mark the decoder leaves on an escaped code point. -/
def escapeMark (point : CodePoint) : Bool :=
  point.val < 32 &&
    !(point.val = 8 || point.val = 9 || point.val = 10 ||
      point.val = 12 || point.val = 13)

theorem scanString_simpleEscape
    {letter value : CodePoint}
    (escape : simpleEscape letter = some value) (rest : Text) :
    scanString (codePoint '\\' :: letter :: rest) =
      (scanString rest).map fun scanned =>
        ((value, false) :: scanned.1, scanned.2) := by
  have notHex : letter ≠ codePoint 'u' := by
    rintro rfl
    rw [show simpleEscape (codePoint 'u') = none by decide] at escape
    cases escape
  rw [scanString.eq_def]
  simp [escape, notHex, show codePoint '\\' ≠ codePoint '"' by decide]

theorem scanString_hexEscape
    {a b c d value : CodePoint}
    (escape : hexEscape a b c d = some value) (rest : Text) :
    scanString
        (codePoint '\\' :: codePoint 'u' :: a :: b :: c :: d :: rest) =
      (scanString rest).map fun scanned =>
        ((value, true) :: scanned.1, scanned.2) := by
  rw [scanString.eq_def]
  simp [escape, show codePoint '\\' ≠ codePoint '"' by decide]

theorem scanString_raw
    {point : CodePoint}
    (notQuote : point ≠ codePoint '"')
    (notBackslash : point ≠ codePoint '\\')
    (notControl : ¬ point.val < 32) (rest : Text) :
    scanString (point :: rest) =
      (scanString rest).map fun scanned =>
        ((point, false) :: scanned.1, scanned.2) := by
  rw [scanString.eq_def]
  simp [notQuote, notBackslash, notControl]

theorem hexEscape_control {point : CodePoint} (control : point.val < 32) :
    hexEscape (codePoint '0') (codePoint '0')
        (hexPoint (point.val / 16)) (hexPoint (point.val % 16)) =
      some point := by
  have zero : hexValue (codePoint '0') = some 0 := by decide
  simp only [hexEscape, zero, hexValue_hexPoint
    (show point.val / 16 < 16 by omega), hexValue_hexPoint
    (show point.val % 16 < 16 by omega), Option.bind_eq_bind,
    Option.bind_some, Option.pure_def]
  rw [ofNat_eq_point point (by omega)]

/-- The decoder reads back one escaped code point. -/
theorem scanString_escapePoint (point : CodePoint) (rest : Text) :
    scanString (escapePoint point ++ rest) =
      (scanString rest).map fun scanned =>
        ((point, escapeMark point) :: scanned.1, scanned.2) := by
  fun_cases escapePoint point with
  | case1 quote =>
      subst quote
      exact scanString_simpleEscape (by decide) rest
  | case2 _ backslash =>
      subst backslash
      exact scanString_simpleEscape (by decide) rest
  | case3 _ _ newline =>
      subst newline
      exact scanString_simpleEscape (by decide) rest
  | case4 _ _ _ return_ =>
      subst return_
      exact scanString_simpleEscape (by decide) rest
  | case5 _ _ _ _ tab =>
      subst tab
      exact scanString_simpleEscape (by decide) rest
  | case6 _ _ _ _ _ backspace =>
      obtain rfl : point = 8 := Fin.ext backspace
      exact scanString_simpleEscape (by decide) rest
  | case7 _ _ _ _ _ _ feed =>
      obtain rfl : point = 12 := Fin.ext feed
      exact scanString_simpleEscape (by decide) rest
  | case8 _ _ newline return_ tab backspace feed control =>
      have marked : escapeMark point = true := by
        have notNewline : point.val ≠ 10 := fun equal =>
          newline (Fin.ext equal)
        have notReturn : point.val ≠ 13 := fun equal =>
          return_ (Fin.ext equal)
        have notTab : point.val ≠ 9 := fun equal =>
          tab (Fin.ext equal)
        simp [escapeMark, control, backspace, feed, notNewline, notReturn,
          notTab]
      rw [marked]
      exact scanString_hexEscape (hexEscape_control control) rest
  | case9 quote backslash _ _ _ _ _ control =>
      have unmarked : escapeMark point = false := by
        simp [escapeMark, control]
      rw [unmarked]
      exact scanString_raw quote backslash control rest

theorem scanString_escaped (value rest : Text) :
    scanString
        (value.flatMap escapePoint ++ codePoint '"' :: rest) =
      some (value.map fun point => (point, escapeMark point), rest) := by
  induction value with
  | nil =>
      rw [List.flatMap_nil, List.nil_append, scanString.eq_def]
      simp
  | cons point value induction =>
      rw [List.flatMap_cons, List.append_assoc, scanString_escapePoint,
        induction]
      rfl

/-- Control characters are no surrogates, so nothing is joined. -/
theorem joinEscapes_marked (value : Text) :
    joinEscapes (value.map fun point => (point, escapeMark point)) =
      value := by
  induction value with
  | nil => rfl
  | cons first value induction =>
      cases value with
      | nil => rfl
      | cons second value =>
          simp only [List.map_cons] at induction ⊢
          cases firstMark : escapeMark first with
          | false => rw [joinEscapes, induction] <;> simp
          | true =>
              have control : first.val < 32 := by
                simp only [escapeMark, Bool.and_eq_true,
                  decide_eq_true_eq] at firstMark
                exact firstMark.1
              have notHigh : CodePoint.isHighSurrogate first = false := by
                simp only [CodePoint.isHighSurrogate,
                  Bool.and_eq_false_imp, decide_eq_true_eq,
                  decide_eq_false_iff_not]
                omega
              cases secondMark : escapeMark second with
              | false =>
                  rw [secondMark] at induction
                  rw [joinEscapes, induction] <;> simp
              | true =>
                  rw [secondMark] at induction
                  rw [joinEscapes, notHigh]
                  simp [induction]

/-- A string literal is read back. -/
theorem parseString_stringText (value rest : Text) :
    parseString
        (value.flatMap escapePoint ++ codePoint '"' :: rest) =
      .ok (value, rest) := by
  rw [parseString, scanString_escaped]
  simp only [joinEscapes_marked]

/-! ## Objects -/

theorem insert_of_absent
    {key : Text} (value : Json) {members : List (Text × Json)}
    (absent : key ∉ members.map Prod.fst) :
    Json.insert key value members = members ++ [(key, value)] := by
  induction members with
  | nil => rfl
  | cons member members induction =>
      simp only [List.map_cons, List.mem_cons, not_or] at absent
      obtain ⟨name, old⟩ := member
      rw [Json.insert, if_neg (Ne.symm absent.1), induction absent.2]
      rfl

theorem foldl_insert_of_nodup
    (stored members : List (Text × Json))
    (distinct : ((stored ++ members).map Prod.fst).Nodup) :
    members.foldl
        (fun stored member => Json.insert member.1 member.2 stored)
        stored =
      stored ++ members := by
  induction members generalizing stored with
  | nil => simp
  | cons member members induction =>
      have absent : member.1 ∉ stored.map Prod.fst := by
        simp only [List.map_append, List.map_cons] at distinct
        have disjoint := (List.nodup_append.mp distinct).2.2
        intro present
        exact disjoint _ present _ List.mem_cons_self rfl
      rw [List.foldl_cons, insert_of_absent _ absent, induction]
      · simp
      · simpa using distinct

/-- Storing members with distinct keys lists them as they came. -/
theorem ofMembers_of_nodup
    {members : List (Text × Json)}
    (distinct : (members.map Prod.fst).Nodup) :
    Json.ofMembers members = members := by
  simpa [Json.ofMembers] using
    foldl_insert_of_nodup [] members (by simpa using distinct)

/-! ## What is read back -/

mutual

/-- The value with every string as it is read back. -/
def Json.reread (read : Text → Text) : Json → Json
  | .arr items => .arr (rereadItems read items)
  | .obj members => .obj (Json.ofMembers (rereadMembers read members))
  | .str value => .str (read value)
  | .null => .null
  | .bool value => .bool value
  | .int value => .int value
  | .float value => .float value

/-- Every item as it is read back. -/
def rereadItems (read : Text → Text) : List Json → List Json
  | [] => []
  | item :: rest => item.reread read :: rereadItems read rest

/-- Every key and value as they are read back. -/
def rereadMembers (read : Text → Text) :
    List (Text × Json) → List (Text × Json)
  | [] => []
  | (key, value) :: rest =>
      (read key, value.reread read) :: rereadMembers read rest

end

mutual

/-- A plain value is unchanged when every string is. -/
theorem reread_id (value : Json) (plain : value.Plain) :
    value.reread id = value := by
  cases value with
  | null => rfl
  | bool value => rfl
  | int value => rfl
  | float value => rfl
  | str value => rfl
  | arr items => rw [Json.reread, rereadItems_id items plain]
  | obj members =>
      obtain ⟨plainMembers, increasing⟩ := plain
      rw [Json.reread, rereadMembers_id members plainMembers,
        ofMembers_of_nodup (increasing.imp fun less => ne_of_lt less)]

theorem rereadItems_id (items : List Json) (plain : PlainItems items) :
    rereadItems id items = items := by
  cases items with
  | nil => rfl
  | cons item rest =>
      rw [rereadItems, reread_id item plain.1, rereadItems_id rest plain.2]

theorem rereadMembers_id
    (members : List (Text × Json)) (plain : PlainMembers members) :
    rereadMembers id members = members := by
  cases members with
  | nil => rfl
  | cons member rest =>
      cases member with
      | mk key value =>
          rw [rereadMembers, reread_id value plain.1,
            rereadMembers_id rest plain.2]
          rfl

end

/-! ## Values -/

theorem skipBlank_cons
    {point : CodePoint} (notBlank : isBlank point = false) (rest : Text) :
    skipBlank (point :: rest) = point :: rest := by
  simp [skipBlank, notBlank]

/-- The first character of a value. -/
def Opens (point : CodePoint) : Prop :=
  isBlank point = false ∧ point ≠ codePoint ']' ∧
    point ≠ codePoint '}' ∧ point ≠ 0xFEFF

instance (point : CodePoint) : Decidable (Opens point) :=
  inferInstanceAs (Decidable (_ ∧ _))

theorem opens_digit {point : CodePoint}
    (isDigit : CodePoint.isDigit point = true) : Opens point := by
  have differs : ∀ char : CodePoint, CodePoint.isDigit char = false →
      point ≠ char := by
    rintro char notDigit rfl
    rw [isDigit] at notDigit
    cases notDigit
  refine ⟨?_, differs _ (by decide), differs _ (by decide),
    differs _ (by decide)⟩
  simp [isBlank, differs (codePoint ' ') (by decide),
    differs (codePoint '\t') (by decide),
    differs (codePoint '\n') (by decide),
    differs (codePoint '\r') (by decide)]

section

variable {escape : CodePoint → Text}

theorem dumpTextWith_opens
    {value : Json} {written : Text}
    (dumps : dumpTextWith escape value = some written) :
    ∃ point rest, written = point :: rest ∧ Opens point := by
  cases value with
  | null =>
      cases dumps
      exact ⟨codePoint 'n', text "ull", rfl, by decide⟩
  | bool value =>
      cases value <;> cases dumps
      · exact ⟨codePoint 'f', text "alse", rfl, by decide⟩
      · exact ⟨codePoint 't', text "rue", rfl, by decide⟩
  | int value =>
      simp only [dumpTextWith_int] at dumps
      split_ifs at dumps
      cases dumps
      obtain ⟨digit, rest, decimal, isDigit⟩ :=
        decimalText_head value.natAbs
      rw [intText, decimal]
      split_ifs
      · exact ⟨codePoint '-', digit :: rest, rfl, by decide⟩
      · exact ⟨digit, rest, rfl, opens_digit isDigit⟩
  | float value =>
      simp only [dumpTextWith_float] at dumps
      split_ifs at dumps with finite
      cases dumps
      obtain ⟨digit, rest, decimal, isDigit⟩ := repr_head value finite
      rw [decimal]
      split_ifs
      · exact ⟨codePoint '-', digit :: rest, rfl, by decide⟩
      · exact ⟨digit, rest, rfl, opens_digit isDigit⟩
  | str value =>
      cases dumps
      exact ⟨codePoint '"', _, rfl, by decide⟩
  | arr items =>
      simp only [dumpTextWith_arr, Option.bind_eq_bind, Option.bind_eq_some_iff,
        Option.pure_def, Option.some.injEq] at dumps
      obtain ⟨_, _, rfl⟩ := dumps
      exact ⟨codePoint '[', _, rfl, by decide⟩
  | obj members =>
      simp only [dumpTextWith_obj, Option.bind_eq_bind, Option.bind_eq_some_iff,
        Option.pure_def, Option.some.injEq] at dumps
      obtain ⟨_, _, rfl⟩ := dumps
      exact ⟨codePoint '{', _, rfl, by decide⟩

theorem dumpMembersWith_keys
    {members : List (Text × Json)} {texts : List (Text × Text)}
    (dumps : dumpMembersWith escape members = some texts) :
    texts.map Prod.fst = members.map Prod.fst := by
  induction members generalizing texts with
  | nil =>
      cases dumps
      rfl
  | cons member members induction =>
      simp only [dumpMembersWith_cons, Option.bind_eq_bind,
        Option.bind_eq_some_iff, Option.pure_def,
        Option.some.injEq] at dumps
      obtain ⟨_, _, tail, tailDumps, rfl⟩ := dumps
      simp [induction tailDumps]

/-- A literal at the start of a text is stripped. -/
theorem stripLiteral_append (literal rest : Text) :
    stripLiteral literal (literal ++ rest) = some rest := by
  simp [stripLiteral]

/-- Members written in the order of their keys are not moved. -/
theorem insertionSort_of_increasing
    {texts : List (Text × Text)}
    (increasing : (texts.map Prod.fst).Pairwise (· < ·)) :
    texts.insertionSort KeyLe = texts := by
  apply List.Pairwise.insertionSort_eq
  rw [List.pairwise_map] at increasing
  exact increasing.imp fun less => le_of_lt less

theorem joinComma_cons
    {item : Text} {rest : List Text} (nonempty : rest ≠ []) :
    joinComma (item :: rest) = item ++ codePoint ',' :: joinComma rest := by
  cases rest with
  | nil => exact (nonempty rfl).elim
  | cons next rest => rfl

/-- A joined text starts like its first item. -/
theorem joinComma_head
    (point : CodePoint) (tail : Text) (rest : List Text) :
    ∃ after, joinComma ((point :: tail) :: rest) = point :: after := by
  cases rest with
  | nil => exact ⟨tail, rfl⟩
  | cons next rest => exact ⟨tail ++ codePoint ',' :: joinComma (next :: rest), rfl⟩

theorem joinComma_opens
    {item : Json} {items : List Json} {texts : List Text}
    (dumps : dumpItemsWith escape (item :: items) = some texts) :
    ∃ point rest, joinComma texts = point :: rest ∧ Opens point := by
  simp only [dumpItemsWith_cons, Option.bind_eq_bind, Option.bind_eq_some_iff,
    Option.pure_def, Option.some.injEq] at dumps
  obtain ⟨head, headDumps, tail, _, rfl⟩ := dumps
  obtain ⟨point, rest, rfl, opens⟩ := dumpTextWith_opens headDumps
  obtain ⟨after, joined⟩ := joinComma_head point rest tail
  exact ⟨point, after, joined, opens⟩

theorem joinComma_quote
    {member : Text × Json} {members : List (Text × Json)}
    {texts : List (Text × Text)}
    (dumps : dumpMembersWith escape (member :: members) = some texts) :
    ∃ rest,
      joinComma (texts.map (memberTextWith escape)) = codePoint '"' :: rest := by
  obtain ⟨key, value⟩ := member
  simp only [dumpMembersWith_cons, Option.bind_eq_bind, Option.bind_eq_some_iff,
    Option.pure_def, Option.some.injEq] at dumps
  obtain ⟨head, _, tail, _, rfl⟩ := dumps
  exact joinComma_head _ _ (tail.map (memberTextWith escape))

/-- The decoder reads the string literals of a writer in one way. -/
def ReadsStrings (escape : CodePoint → Text) (read : Text → Text) : Prop :=
  ∀ value rest, parseString
    (value.flatMap escape ++ codePoint '"' :: rest) = .ok (read value, rest)

section

variable (allowConstants : Bool)

/-- The key of the first member is read back. -/
theorem parseMembers_head
    {read : Text → Text} (reads : ReadsStrings escape read)
    (key written rest : Text) (fuel : Nat) :
    parseMembers allowConstants (fuel + 1)
        (memberTextWith escape (key, written) ++ rest) =
      (do
        let (value, rest) ←
          parseValue allowConstants fuel (skipBlank (written ++ rest))
        match skipBlank rest with
        | [] => .error .decode
        | next :: after =>
            if next = codePoint '}' then
              pure ([(read key, value)], after)
            else if next = codePoint ',' then do
              let (members, rest) ←
                parseMembers allowConstants fuel (skipBlank after)
              pure ((read key, value) :: members, rest)
            else .error .decode) := by
  rw [memberTextWith, stringTextWith]
  simp only [List.cons_append, List.append_assoc, List.nil_append]
  rw [parseMembers, if_pos rfl, reads]
  have colon := skipBlank_cons
    (show isBlank (codePoint ':') = false by decide) (written ++ rest)
  simp only [bind, Except.bind, colon]
  exact if_pos trivial

/-- The three words are read back. -/
theorem parseScalar_word (rest : Text) :
    parseScalar allowConstants (text "null" ++ rest) =
        .ok (.null, rest) ∧
      parseScalar allowConstants (text "true" ++ rest) =
        .ok (.bool true, rest) ∧
      parseScalar allowConstants (text "false" ++ rest) =
        .ok (.bool false, rest) := by
  have noNull (word : Text) (first : CodePoint)
      (differs : codePoint 'n' ≠ first) :
      stripLiteral (text "null") (first :: word) = none :=
    stripLiteral_of_ne (text "ull") word differs
  have noTrue (word : Text) (first : CodePoint)
      (differs : codePoint 't' ≠ first) :
      stripLiteral (text "true") (first :: word) = none :=
    stripLiteral_of_ne (text "rue") word differs
  refine ⟨?_, ?_, ?_⟩
  · rw [parseScalar.eq_def, stripLiteral_append]
  · rw [parseScalar.eq_def, stripLiteral_append,
      show text "true" ++ rest = codePoint 't' :: (text "rue" ++ rest)
        from rfl, noNull _ _ (by decide)]
  · rw [parseScalar.eq_def, stripLiteral_append,
      show text "false" ++ rest = codePoint 'f' :: (text "alse" ++ rest)
        from rfl, noNull _ _ (by decide), noTrue _ _ (by decide)]

/-- A text that opens no string, array or object is a scalar. -/
theorem parseValue_scalar
    {fuel : Nat} (enough : 1 ≤ fuel) {point : CodePoint} (rest : Text)
    (notQuote : point ≠ codePoint '"')
    (notBracket : point ≠ codePoint '[')
    (notBrace : point ≠ codePoint '{') :
    parseValue allowConstants fuel (point :: rest) =
      parseScalar allowConstants (point :: rest) := by
  obtain ⟨fuel, rfl⟩ := Nat.exists_eq_add_of_le' enough
  rw [parseValue, if_neg notQuote, if_neg notBracket, if_neg notBrace]

/-- A digit, perhaps after a minus sign, opens a scalar. -/
theorem parseValue_number
    {digit : CodePoint} (isDigit : CodePoint.isDigit digit = true)
    (tail : Text) {isSigned : Prop} [Decidable isSigned] {sign : Text}
    (isMinus : sign = [codePoint '-']) {fuel : Nat}
    (enough : 2 * ((if isSigned then sign else []) ++
      digit :: tail).length ≤ fuel) (rest : Text) :
    parseValue allowConstants fuel
        ((if isSigned then sign else []) ++ digit :: tail ++ rest) =
      parseScalar allowConstants
        ((if isSigned then sign else []) ++ digit :: tail ++ rest) := by
  have differs : ∀ char : CodePoint,
      CodePoint.isDigit char = false → digit ≠ char := by
    rintro char notDigit rfl
    rw [isDigit] at notDigit
    cases notDigit
  subst isMinus
  split_ifs at enough ⊢
  · simp only [List.cons_append, List.nil_append,
      List.length_cons] at enough ⊢
    exact parseValue_scalar allowConstants (by omega) _
      (by decide) (by decide) (by decide)
  · simp only [List.cons_append, List.nil_append,
      List.length_cons] at enough ⊢
    exact parseValue_scalar allowConstants (by omega) _
      (differs _ (by decide)) (differs _ (by decide))
      (differs _ (by decide))

variable {read : Text → Text}

mutual

/-- A plain value is read back, whatever delimiter follows it. -/
theorem parseValue_dumpTextWith (reads : ReadsStrings escape read)
    (value : Json) (plain : value.Plain) {written : Text}
    (dumps : dumpTextWith escape value = some written) (rest : Text)
    (delimited : Delimited rest) (fuel : Nat)
    (enough : 2 * written.length ≤ fuel) :
    parseValue allowConstants fuel (written ++ rest) =
      .ok (value.reread read, rest) := by
  cases value with
  | null =>
      cases dumps
      have positive : 1 ≤ fuel := le_trans (by decide) enough
      rw [Json.reread, ← (parseScalar_word allowConstants rest).1]
      exact parseValue_scalar allowConstants positive _
        (by decide) (by decide) (by decide)
  | bool value =>
      have positive : 1 ≤ fuel := by
        cases value <;> cases dumps <;> exact le_trans (by decide) enough
      cases value <;> cases dumps
      · rw [Json.reread, ← (parseScalar_word allowConstants rest).2.2]
        exact parseValue_scalar allowConstants positive _
          (by decide) (by decide) (by decide)
      · rw [Json.reread, ← (parseScalar_word allowConstants rest).2.1]
        exact parseValue_scalar allowConstants positive _
          (by decide) (by decide) (by decide)
  | int value =>
      simp only [dumpTextWith_int] at dumps
      split_ifs at dumps with short
      cases dumps
      rw [Json.reread,
        ← parseScalar_intText allowConstants value short delimited]
      obtain ⟨digit, tail, decimal, isDigit⟩ :=
        decimalText_head value.natAbs
      rw [intText, decimal] at enough ⊢
      exact parseValue_number allowConstants isDigit tail rfl enough rest
  | float value =>
      simp only [dumpTextWith_float] at dumps
      split_ifs at dumps with finite
      cases dumps
      rw [Json.reread, ← parseScalar_repr allowConstants finite delimited]
      obtain ⟨digit, tail, decimal, isDigit⟩ := repr_head value finite
      rw [decimal] at enough ⊢
      exact parseValue_number allowConstants isDigit tail rfl enough rest
  | str value =>
      rw [dumpTextWith_str] at dumps
      cases dumps
      obtain ⟨fuel, rfl⟩ : ∃ count, fuel = count + 1 :=
        ⟨fuel - 1, by simp [stringTextWith] at enough; omega⟩
      rw [stringTextWith, List.cons_append, List.append_assoc, parseValue,
        if_pos rfl, List.singleton_append, reads]
      rfl
  | arr items =>
      simp only [dumpTextWith_arr, Option.bind_eq_bind, Option.bind_eq_some_iff,
        Option.pure_def, Option.some.injEq] at dumps
      obtain ⟨texts, itemDumps, rfl⟩ := dumps
      simp only [List.length_cons, List.length_append,
        List.length_nil] at enough
      obtain ⟨fuel, rfl⟩ : ∃ count, fuel = count + 1 :=
        ⟨fuel - 1, by omega⟩
      rw [List.cons_append, List.append_assoc, List.singleton_append,
        parseValue, if_neg (by decide), if_pos rfl]
      cases items with
      | nil =>
          cases itemDumps
          rw [joinComma, List.nil_append,
            skipBlank_cons (by decide)]
          rfl
      | cons item items =>
          obtain ⟨point, tail, opened, opens⟩ :=
            joinComma_opens itemDumps
          have readBack := parseItems_dumpItemsWith reads item items plain
            itemDumps rest fuel (by omega)
          rw [opened, List.cons_append] at readBack ⊢
          rw [skipBlank_cons opens.1]
          simp only [if_neg opens.2.1, readBack]
          rfl
  | obj members =>
      simp only [dumpTextWith_obj, Option.bind_eq_bind, Option.bind_eq_some_iff,
        Option.pure_def, Option.some.injEq] at dumps
      obtain ⟨texts, memberDumps, rfl⟩ := dumps
      obtain ⟨plainMembers, increasing⟩ := plain
      have sorted : texts.insertionSort KeyLe = texts := by
        apply insertionSort_of_increasing
        rw [dumpMembersWith_keys memberDumps]
        exact increasing
      rw [sorted] at enough ⊢
      change 2 * (codePoint '{' ::
        (joinComma (texts.map (memberTextWith escape)) ++ [codePoint '}'])).length ≤
          fuel at enough
      change parseValue allowConstants fuel (codePoint '{' ::
        (joinComma (texts.map (memberTextWith escape)) ++ [codePoint '}']) ++ rest) =
          _
      simp only [List.length_cons, List.length_append,
        List.length_nil] at enough
      obtain ⟨fuel, rfl⟩ : ∃ count, fuel = count + 1 :=
        ⟨fuel - 1, by omega⟩
      rw [List.cons_append, List.append_assoc, List.singleton_append,
        parseValue, if_neg (by decide), if_neg (by decide), if_pos rfl]
      cases members with
      | nil =>
          cases memberDumps
          rw [List.map_nil, joinComma, List.nil_append,
            skipBlank_cons (by decide)]
          rfl
      | cons member members =>
          cases member with
          | mk key value =>
              obtain ⟨tail, opened⟩ := joinComma_quote memberDumps
              have readBack := parseMembers_dumpMembersWith reads key value members
                plainMembers memberDumps rest fuel (by omega)
              rw [opened, List.cons_append] at readBack ⊢
              rw [skipBlank_cons (by decide)]
              simp only [if_neg (show codePoint '"' ≠ codePoint '}' by decide),
                readBack]
              rfl
termination_by sizeOf value
decreasing_by all_goals subst_vars; simp_wf

/-- The items of an array are read back up to its bracket. -/
theorem parseItems_dumpItemsWith (reads : ReadsStrings escape read)
    (item : Json) (items : List Json)
    (plain : PlainItems (item :: items)) {texts : List Text}
    (dumps : dumpItemsWith escape (item :: items) = some texts) (rest : Text)
    (fuel : Nat) (enough : 2 * (joinComma texts).length + 1 ≤ fuel) :
    parseItems allowConstants fuel
        (joinComma texts ++ codePoint ']' :: rest) =
      .ok (rereadItems read (item :: items), rest) := by
  obtain ⟨plainItem, plainItems⟩ := plain
  simp only [dumpItemsWith_cons, Option.bind_eq_bind, Option.bind_eq_some_iff,
    Option.pure_def, Option.some.injEq] at dumps
  obtain ⟨head, headDumps, tail, tailDumps, rfl⟩ := dumps
  obtain ⟨fuel, rfl⟩ : ∃ count, fuel = count + 1 :=
    ⟨fuel - 1, by omega⟩
  cases items with
  | nil =>
      cases tailDumps
      rw [joinComma] at enough ⊢
      have readBack := parseValue_dumpTextWith reads item plainItem headDumps
        (codePoint ']' :: rest) (by simp [Delimited])
        fuel (by omega)
      rw [parseItems, readBack]
      simp only [bind, Except.bind,
        skipBlank_cons (show isBlank (codePoint ']') = false by decide),
        if_true]
      rfl
  | cons next items =>
      obtain ⟨point, after, opened, opens⟩ :=
        joinComma_opens tailDumps
      have nonempty : tail ≠ [] := by
        rintro rfl
        simp [joinComma] at opened
      rw [joinComma_cons nonempty] at enough ⊢
      simp only [List.length_append, List.length_cons] at enough
      have readHead := parseValue_dumpTextWith reads item plainItem headDumps
        (codePoint ',' :: (joinComma tail ++ codePoint ']' :: rest))
        (by simp [Delimited]) fuel (by omega)
      have readTail := parseItems_dumpItemsWith reads next items plainItems
        tailDumps rest fuel (by omega)
      rw [List.append_assoc, List.cons_append, parseItems, readHead]
      simp only [bind, Except.bind,
        skipBlank_cons (show isBlank (codePoint ',') = false by decide),
        opened, List.cons_append]
      rw [opened, List.cons_append] at readTail
      simp only [if_neg (show codePoint ',' ≠ codePoint ']' by decide),
        if_true, skipBlank_cons opens.1, readTail]
      rfl
termination_by sizeOf (item :: items)
decreasing_by all_goals subst_vars; simp_wf <;> omega

/-- The members of an object are read back up to its brace. -/
theorem parseMembers_dumpMembersWith (reads : ReadsStrings escape read)
    (key : Text) (value : Json) (members : List (Text × Json))
    (plain : PlainMembers ((key, value) :: members))
    {texts : List (Text × Text)}
    (dumps : dumpMembersWith escape ((key, value) :: members) = some texts)
    (rest : Text) (fuel : Nat)
    (enough :
      2 * (joinComma (texts.map (memberTextWith escape))).length + 1 ≤ fuel) :
    parseMembers allowConstants fuel
        (joinComma (texts.map (memberTextWith escape)) ++ codePoint '}' :: rest) =
      .ok (rereadMembers read ((key, value) :: members), rest) := by
  obtain ⟨plainValue, plainMembers⟩ := plain
  simp only [dumpMembersWith_cons, Option.bind_eq_bind, Option.bind_eq_some_iff,
    Option.pure_def, Option.some.injEq] at dumps
  obtain ⟨head, headDumps, tail, tailDumps, rfl⟩ := dumps
  obtain ⟨fuel, rfl⟩ : ∃ count, fuel = count + 1 :=
    ⟨fuel - 1, by omega⟩
  obtain ⟨point, headTail, headOpened, headOpens⟩ :=
    dumpTextWith_opens headDumps
  cases members with
  | nil =>
      cases tailDumps
      rw [List.map_cons, List.map_nil, joinComma] at enough ⊢
      simp only [memberTextWith, List.length_append,
        List.length_cons] at enough
      have readBack := parseValue_dumpTextWith reads value plainValue headDumps
        (codePoint '}' :: rest) (by simp [Delimited])
        fuel (by omega)
      rw [parseMembers_head allowConstants reads, headOpened, List.cons_append,
        skipBlank_cons headOpens.1]
      rw [headOpened, List.cons_append] at readBack
      rw [readBack]
      simp only [bind, Except.bind,
        skipBlank_cons (show isBlank (codePoint '}') = false by decide),
        if_true]
      rfl
  | cons next members =>
      cases next with
      | mk nextKey nextValue =>
          obtain ⟨after, opened⟩ := joinComma_quote tailDumps
          have nonempty : tail.map (memberTextWith escape) ≠ [] := by
            intro empty
            rw [empty] at opened
            simp [joinComma] at opened
          rw [List.map_cons, joinComma_cons nonempty] at enough ⊢
          simp only [memberTextWith, List.length_append,
            List.length_cons] at enough
          have readHead := parseValue_dumpTextWith reads value plainValue headDumps
            (codePoint ',' ::
              (joinComma (tail.map (memberTextWith escape)) ++ codePoint '}' :: rest))
            (by simp [Delimited]) fuel (by omega)
          have readTail := parseMembers_dumpMembersWith reads nextKey nextValue members
            plainMembers tailDumps rest fuel (by omega)
          rw [List.append_assoc, List.cons_append, parseMembers_head allowConstants reads,
            headOpened, List.cons_append, skipBlank_cons headOpens.1]
          rw [headOpened, List.cons_append] at readHead
          rw [readHead]
          simp only [bind, Except.bind,
            skipBlank_cons (show isBlank (codePoint ',') = false by decide),
            opened, List.cons_append]
          rw [opened, List.cons_append] at readTail
          simp only [if_neg (show codePoint ',' ≠ codePoint '}' by decide),
            if_true, skipBlank_cons (show isBlank (codePoint '"') = false by
              decide), readTail]
          rfl
termination_by sizeOf ((key, value) :: members)
decreasing_by all_goals subst_vars; simp_wf <;> omega

end

/-- A document is read back, with or without a final newline. -/
theorem parseText_dumpTextWith (reads : ReadsStrings escape read)
    {value : Json} (plain : value.Plain) {written : Text}
    (dumps : dumpTextWith escape value = some written) {final : Text}
    (newline : final = [] ∨ final = [codePoint '\n']) :
    parseText allowConstants (written ++ final) =
      .ok (value.reread read) := by
  have delimited : Delimited final := by
    rcases newline with rfl | rfl <;> simp [Delimited]
  have blank : skipBlank final = [] := by
    rcases newline with rfl | rfl <;> decide
  have readBack := parseValue_dumpTextWith allowConstants reads value plain
    dumps final delimited (2 * (written ++ final).length + 1)
    (by rw [List.length_append]; omega)
  obtain ⟨point, rest, rfl, opens⟩ := dumpTextWith_opens dumps
  have noMark : (point :: rest ++ final).head? ≠ some 0xFEFF := by
    simpa using opens.2.2.2
  rw [parseText, if_neg noMark, List.cons_append,
    skipBlank_cons opens.1, ← List.cons_append, readBack]
  simp only [bind, Except.bind, blank, if_true]
  rfl

end

end

def memberText (member : Text × Text) : Text :=
  stringText member.1 ++ codePoint ':' :: member.2

theorem dumpMembers_keys
    {members : List (Text × Json)} {texts : List (Text × Text)}
    (dumps : dumpMembers members = some texts) :
    texts.map Prod.fst = members.map Prod.fst := by
  rw [← dumpMembersWith_escapePoint] at dumps
  exact dumpMembersWith_keys dumps

/-- A plain document is read back as it was written. -/
theorem parseText_dumpText
    (allowConstants : Bool) {value : Json} (plain : value.Plain)
    {written : Text} (dumps : dumpText value = some written) {final : Text}
    (newline : final = [] ∨ final = [codePoint '\n']) :
    parseText allowConstants (written ++ final) = .ok value := by
  rw [← dumpTextWith_escapePoint] at dumps
  rw [parseText_dumpTextWith allowConstants
    (fun value rest => parseString_stringText value rest) plain dumps
    newline]
  exact congrArg Except.ok (reread_id value plain)

/-! ## Over-long integers -/

/-- A digit is none of the points that open another value. -/
theorem isDigit_ne
    {digit char : CodePoint} (isDigit : CodePoint.isDigit digit = true)
    (notDigit : CodePoint.isDigit char = false) : digit ≠ char := by
  rintro rfl
  rw [isDigit] at notDigit
  cases notDigit

/-- An integer with more digits than `int` converts is refused. -/
theorem parseText_overlong
    (allowConstants : Bool) {digit : CodePoint} {digits : Text}
    (nonzero : digit ≠ codePoint '0')
    (areDigits : ∀ point ∈ digit :: digits,
      CodePoint.isDigit point = true)
    (long : intMaxStrDigits < (digit :: digits).length) :
    parseText allowConstants (digit :: digits) = .error .value := by
  have isDigit := areDigits digit List.mem_cons_self
  have differs : ∀ char : CodePoint, CodePoint.isDigit char = false →
      digit ≠ char := fun _ notDigit => isDigit_ne isDigit notDigit
  have spanned : spanDigits digits = (digits, []) := by
    have split := @spanDigits_append digits []
      (fun point member => areDigits point (List.mem_cons_of_mem _ member))
      (fun _ _ nothing => nomatch nothing)
    rwa [List.append_nil] at split
  have unmarked : (digit :: digits).head? ≠ some 0xFEFF := by
    intro marked
    exact differs 0xFEFF (by decide) (Option.some.inj marked)
  have notBlank : isBlank digit = false := by
    simp [isBlank, differs (codePoint ' ') (by decide),
      differs (codePoint '\t') (by decide),
      differs (codePoint '\n') (by decide),
      differs (codePoint '\r') (by decide)]
  have magnitude : parseMagnitude false (digit :: digits) =
      .error .value := by
    rw [parseMagnitude, if_neg nonzero, if_pos isDigit, spanned]
    simp only [finishNumber, scanFraction, scanExponent, and_self, if_true,
      long]
  have value : ∀ fuel, parseValue allowConstants (fuel + 1)
      (digit :: digits) = .error .value := by
    intro fuel
    rw [parseValue]
    simp only
    rw [if_neg (differs _ (by decide)), if_neg (differs _ (by decide)),
      if_neg (differs _ (by decide)),
      parseScalar_digit allowConstants digits isDigit, magnitude]
  rw [parseText, if_neg unmarked, skipBlank_cons notBlank, value]
  rfl

end ScientificResourceLab.Python
