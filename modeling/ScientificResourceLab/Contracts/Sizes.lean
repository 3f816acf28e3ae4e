import ScientificResourceLab.Contracts.Canonical

/-!
# The length of canonical documents

`jsonSize` adds up the bytes of the canonical document of a value along its
structure, before anything is written (`textSize_dumpText`).
-/

namespace ScientificResourceLab.Contracts

open Python

/-! ## Texts -/

/-- The bytes of a code point in UTF-8. -/
def pointSize (point : CodePoint) : Nat :=
  if point.val < 0x80 then 1
  else if point.val < 0x800 then 2
  else if point.val < 0x10000 then 3
  else 4

/-- The bytes of a text in UTF-8. -/
def textSize (value : Text) : Nat :=
  (value.map pointSize).sum

@[simp]
theorem textSize_nil : textSize [] = 0 :=
  rfl

@[simp]
theorem textSize_cons (point : CodePoint) (rest : Text) :
    textSize (point :: rest) = pointSize point + textSize rest := by
  rw [textSize, List.map_cons, List.sum_cons, textSize]

@[simp]
theorem textSize_append (first second : Text) :
    textSize (first ++ second) = textSize first + textSize second := by
  rw [textSize, List.map_append, List.sum_append, textSize, textSize]

theorem length_utf8EncodePoint
    {point : CodePoint} {encoded : Bytes}
    (encodes : utf8EncodePoint point = some encoded) :
    encoded.length = pointSize point := by
  rw [pointSize]
  simp only [utf8EncodePoint] at encodes
  split_ifs at encodes ⊢ <;> cases encodes <;> rfl

theorem length_utf8Encode
    {value : Text} {encoded : Bytes}
    (encodes : utf8Encode value = some encoded) :
    encoded.length = textSize value := by
  induction value generalizing encoded with
  | nil =>
      cases encodes
      rfl
  | cons point rest induction =>
      simp only [utf8Encode, Option.bind_eq_bind, Option.bind_eq_some_iff,
        Option.pure_def, Option.some.injEq] at encodes
      obtain ⟨head, isHead, tail, isTail, rfl⟩ := encodes
      rw [List.length_append, length_utf8EncodePoint isHead,
        induction isTail, textSize_cons]

/-! ## Values -/

/-- The bytes of a string literal. -/
def literalSize (value : Text) : Nat :=
  textSize (stringText value)

theorem literalSize_append (first second : Text) :
    literalSize (first ++ second) + 2 =
      literalSize first + literalSize second := by
  simp only [literalSize, stringText, List.flatMap_append, textSize_cons,
    textSize_append, textSize_nil]
  have quote : pointSize (codePoint '"') = 1 := rfl
  omega

mutual

/--
The bytes of the canonical document of a value.  Every item counts with the
comma or the bracket behind it.
-/
def jsonSize : Json → Nat
  | .null => 4
  | .bool true => 4
  | .bool false => 5
  | .int value => textSize (intText value)
  | .float value => textSize value.repr
  | .str value => literalSize value
  | .arr items => 1 + max 1 (itemsSize items)
  | .obj members => 1 + max 1 (membersSize members)

def itemsSize : List Json → Nat
  | [] => 0
  | item :: rest => jsonSize item + 1 + itemsSize rest

def membersSize : List (Text × Json) → Nat
  | [] => 0
  | (key, value) :: rest =>
      literalSize key + 1 + jsonSize value + 1 + membersSize rest

end

theorem membersSize_append (first second : List (Text × Json)) :
    membersSize (first ++ second) =
      membersSize first + membersSize second := by
  induction first with
  | nil => rw [List.nil_append, membersSize, Nat.zero_add]
  | cons member rest induction =>
      rw [List.cons_append, membersSize, membersSize, induction]
      omega

/-- Texts with commas between them, and a bracket behind. -/
theorem textSize_joinComma (texts : List Text) :
    textSize (joinComma texts) + 1 =
      max 1 (texts.map fun item => textSize item + 1).sum := by
  induction texts with
  | nil => rfl
  | cons item rest induction =>
      cases rest with
      | nil =>
          rw [joinComma, List.map_singleton, List.sum_singleton]
          omega
      | cons next others =>
          rw [joinComma_cons (List.cons_ne_nil _ _), textSize_append,
            textSize_cons, List.map_cons, List.sum_cons]
          have comma : pointSize (codePoint ',') = 1 := rfl
          rw [List.map_cons, List.sum_cons] at induction ⊢
          omega

mutual

/-- A document has the size of its value. -/
theorem textSize_dumpText
    (value : Json) {written : Text} (dumped : dumpText value = some written) :
    textSize written = jsonSize value := by
  cases value with
  | null =>
      cases dumped
      rfl
  | bool value =>
      cases value <;> cases dumped <;> rfl
  | int value =>
      rw [dumpText] at dumped
      split_ifs at dumped
      cases dumped
      rw [jsonSize]
  | float value =>
      rw [dumpText] at dumped
      split_ifs at dumped
      cases dumped
      rw [jsonSize]
  | str value =>
      cases dumped
      rw [jsonSize, literalSize]
  | arr items =>
      simp only [dumpText, Option.bind_eq_bind, Option.bind_eq_some_iff,
        Option.pure_def, Option.some.injEq] at dumped
      obtain ⟨texts, listed, rfl⟩ := dumped
      rw [textSize_cons, textSize_append, textSize_cons, textSize_nil,
        jsonSize, ← itemsSize_of_dumpItems items listed,
        ← textSize_joinComma]
      rfl
  | obj members =>
      simp only [dumpText, Option.bind_eq_bind, Option.bind_eq_some_iff,
        Option.pure_def, Option.some.injEq] at dumped
      obtain ⟨texts, listed, rfl⟩ := dumped
      rw [textSize_cons, textSize_append, textSize_cons, textSize_nil,
        jsonSize, ← membersSize_of_dumpMembers members listed,
        ← ((List.perm_insertionSort KeyLe texts).map _).sum_eq]
      have joined := textSize_joinComma
        ((texts.insertionSort KeyLe).map memberText)
      rw [List.map_map] at joined
      exact congrArg (1 + ·) joined

theorem itemsSize_of_dumpItems
    (items : List Json) {texts : List Text}
    (dumped : dumpItems items = some texts) :
    (texts.map fun item => textSize item + 1).sum = itemsSize items := by
  cases items with
  | nil =>
      cases dumped
      rfl
  | cons item rest =>
      simp only [dumpItems, Option.bind_eq_bind, Option.bind_eq_some_iff,
        Option.pure_def, Option.some.injEq] at dumped
      obtain ⟨head, isHead, tail, isTail, rfl⟩ := dumped
      rw [List.map_cons, List.sum_cons, textSize_dumpText item isHead,
        itemsSize_of_dumpItems rest isTail, itemsSize]

theorem membersSize_of_dumpMembers
    (members : List (Text × Json)) {texts : List (Text × Text)}
    (dumped : dumpMembers members = some texts) :
    (texts.map fun member => textSize (memberText member) + 1).sum =
      membersSize members := by
  cases members with
  | nil =>
      cases dumped
      rfl
  | cons member rest =>
      cases member with
      | mk key value =>
          simp only [dumpMembers, Option.bind_eq_bind,
            Option.bind_eq_some_iff, Option.pure_def, Option.some.injEq]
            at dumped
          obtain ⟨head, isHead, tail, isTail, rfl⟩ := dumped
          rw [List.map_cons, List.sum_cons,
            membersSize_of_dumpMembers rest isTail, membersSize,
            memberText, textSize_append, textSize_cons,
            textSize_dumpText value isHead, literalSize]
          have colon : pointSize (codePoint ':') = 1 := rfl
          dsimp only
          omega

end

end ScientificResourceLab.Contracts
