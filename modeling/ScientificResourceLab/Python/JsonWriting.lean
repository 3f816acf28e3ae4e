import ScientificResourceLab.Python.Json

/-!
# Writing with other escapes

`json.dumps` with sorted keys, over the layout that its arguments choose.  Of
the compact layouts `dumpText` escapes only what JSON requires, `asciiText`
what `ensure_ascii` does.
-/

namespace ScientificResourceLab.Python

/-! ## Escapes -/

/-- The escape `\uXXXX`. -/
def unicodeEscape (unit : Nat) : Text :=
  text "\\u" ++ [hexPoint (unit / 4096 % 16), hexPoint (unit / 256 % 16),
    hexPoint (unit / 16 % 16), hexPoint (unit % 16)]

/-- The escape of one code point, with `ensure_ascii`. -/
def asciiPoint (point : CodePoint) : Text :=
  if point.val < 127 then escapePoint point
  else if point.val < 0x10000 then unicodeEscape point.val
  else
    unicodeEscape (0xD800 + (point.val - 0x10000) / 1024) ++
      unicodeEscape (0xDC00 + (point.val - 0x10000) % 1024)

/-! ## Layouts -/

/-- A string literal. -/
def stringTextWith (escape : CodePoint → Text) (value : Text) : Text :=
  codePoint '"' :: (value.flatMap escape ++ [codePoint '"'])

def memberTextWith (escape : CodePoint → Text) (member : Text × Text) :
    Text :=
  stringTextWith escape member.1 ++ codePoint ':' :: member.2

/-- What the arguments of `json.dumps` choose. -/
structure Layout where
  escape : CodePoint → Text
  join : List Text → Text
  colon : Text
  float : Float64 → Option Text

section

variable (layout : Layout)

mutual

/-- `json.dumps` with sorted keys; `none` is its `ValueError`. -/
def writeText : Json → Option Text
  | .null => some (text "null")
  | .bool true => some (text "true")
  | .bool false => some (text "false")
  | .int value =>
      if (decimalText value.natAbs).length ≤ intMaxStrDigits then
        some (intText value)
      else none
  | .float value => layout.float value
  | .str value => some (stringTextWith layout.escape value)
  | .arr items => do
      let texts ← writeItems items
      pure (codePoint '[' :: (layout.join texts ++ [codePoint ']']))
  | .obj members => do
      let texts ← writeMembers members
      let sorted := texts.insertionSort KeyLe
      pure (codePoint '{' ::
        (layout.join (sorted.map fun member =>
          stringTextWith layout.escape member.1 ++
            (layout.colon ++ member.2)) ++
        [codePoint '}']))

/-- The texts of the items of an array. -/
def writeItems : List Json → Option (List Text)
  | [] => some []
  | item :: rest => do
      let head ← writeText item
      let tail ← writeItems rest
      pure (head :: tail)

/-- The keys of an object with the texts of their values. -/
def writeMembers : List (Text × Json) → Option (List (Text × Text))
  | [] => some []
  | (key, value) :: rest => do
      let head ← writeText value
      let tail ← writeMembers rest
      pure ((key, head) :: tail)

end

end

/-! ## The compact layout -/

section

variable (escape : CodePoint → Text)

/-- `separators=(",", ":")`, without infinities and NaN. -/
def compact : Layout where
  escape := escape
  join := joinComma
  colon := [codePoint ':']
  float value := if value.isFinite then some value.repr else none

/-- `json.dumps(value, sort_keys=True, separators=(",", ":"))`. -/
def dumpTextWith (value : Json) : Option Text :=
  writeText (compact escape) value

/-- The texts of the items of an array. -/
def dumpItemsWith (items : List Json) : Option (List Text) :=
  writeItems (compact escape) items

/-- The keys of an object with the texts of their values. -/
def dumpMembersWith (members : List (Text × Json)) :
    Option (List (Text × Text)) :=
  writeMembers (compact escape) members

theorem dumpTextWith_int (value : Int) :
    dumpTextWith escape (.int value) =
      if (decimalText value.natAbs).length ≤ intMaxStrDigits then
        some (intText value)
      else none :=
  rfl

theorem dumpTextWith_float (value : Float64) :
    dumpTextWith escape (.float value) =
      if value.isFinite then some value.repr else none :=
  rfl

theorem dumpTextWith_str (value : Text) :
    dumpTextWith escape (.str value) = some (stringTextWith escape value) :=
  rfl

theorem dumpTextWith_arr (items : List Json) :
    dumpTextWith escape (.arr items) = (do
      let texts ← dumpItemsWith escape items
      pure (codePoint '[' :: (joinComma texts ++ [codePoint ']']))) :=
  rfl

theorem dumpTextWith_obj (members : List (Text × Json)) :
    dumpTextWith escape (.obj members) = (do
      let texts ← dumpMembersWith escape members
      let sorted := texts.insertionSort KeyLe
      pure (codePoint '{' ::
        (joinComma (sorted.map (memberTextWith escape)) ++
        [codePoint '}']))) :=
  rfl

theorem dumpItemsWith_cons (item : Json) (rest : List Json) :
    dumpItemsWith escape (item :: rest) = (do
      let head ← dumpTextWith escape item
      let tail ← dumpItemsWith escape rest
      pure (head :: tail)) :=
  rfl

@[simp]
theorem dumpMembersWith_nil : dumpMembersWith escape [] = some [] :=
  rfl

theorem dumpMembersWith_cons
    (member : Text × Json) (rest : List (Text × Json)) :
    dumpMembersWith escape (member :: rest) = (do
      let head ← dumpTextWith escape member.2
      let tail ← dumpMembersWith escape rest
      pure ((member.1, head) :: tail)) :=
  rfl

end

/-- `dumpTextWith`, with `ensure_ascii`. -/
def asciiText (value : Json) : Option Text :=
  dumpTextWith asciiPoint value

mutual

/-- `dumpText` escapes with `escapePoint`. -/
theorem dumpTextWith_escapePoint (value : Json) :
    dumpTextWith escapePoint value = dumpText value := by
  cases value with
  | null => rfl
  | bool value => cases value <;> rfl
  | int value => rfl
  | float value => rfl
  | str value => rfl
  | arr items =>
      rw [dumpTextWith_arr, dumpText, dumpItemsWith_escapePoint items]
  | obj members =>
      rw [dumpTextWith_obj, dumpText, dumpMembersWith_escapePoint members]
      rfl

theorem dumpItemsWith_escapePoint (items : List Json) :
    dumpItemsWith escapePoint items = dumpItems items := by
  cases items with
  | nil => rfl
  | cons item rest =>
      rw [dumpItemsWith_cons, dumpItems, dumpTextWith_escapePoint item,
        dumpItemsWith_escapePoint rest]

theorem dumpMembersWith_escapePoint (members : List (Text × Json)) :
    dumpMembersWith escapePoint members = dumpMembers members := by
  cases members with
  | nil => rfl
  | cons member rest =>
      rw [dumpMembersWith_cons, dumpMembers, dumpTextWith_escapePoint member.2,
        dumpMembersWith_escapePoint rest]

end

end ScientificResourceLab.Python
