import ScientificResourceLab.Python.JsonOrder

/-!
# Python values and the encoder

`PyValue` is the type of values built from `dict`, `list`, `tuple`, `str`,
`int`, `float`, `bool` and `None`, with any such hashable key in a dict.  It is larger than
the type `Json` of values that the decoder returns: the encoder writes a
tuple as it writes a list, and a number, a boolean or `None` in the place of
a key as a string.

`dumpObject` follows the encoder with sorted keys.  A value whose keys are
strings and that holds no tuple is a `Json` value (`dumpObject_eq`), and
only such a value can be the same as a decoded one (`jsonable_of_sameAs`).
-/

namespace ScientificResourceLab.Python

/-- A hashable value, in the place of a dict key. -/
inductive PyKey where
  | none
  | bool (value : Bool)
  | int (value : Int)
  | float (value : Float64)
  | str (value : Text)
  | tuple (items : List PyKey)

/-- A value handed to the encoder; a dict lists its items in order. -/
inductive PyValue where
  | none
  | bool (value : Bool)
  | int (value : Int)
  | float (value : Float64)
  | str (value : Text)
  | list (items : List PyValue)
  | tuple (items : List PyValue)
  | dict (members : List (PyKey × PyValue))

/-- A finite double as a signed numerator and a denominator. -/
def signedRatio (value : Float64) : Int × Nat :=
  let ratio := value.toRatio
  (if value.isNegative then -(ratio.1 : Int) else ratio.1, ratio.2)

/-- The integer that a double is equal to. -/
def integerOf (value : Float64) : Option Int :=
  let ratio := signedRatio value
  if value.isFinite && ratio.1 % ratio.2 = 0 then some (ratio.1 / ratio.2)
  else Option.none

mutual

/-- Two keys are equal when their forms are: `True == 1 == 1.0`. -/
def PyKey.form : PyKey → PyKey
  | .bool value => .int (if value then 1 else 0)
  | .float value =>
      match integerOf value with
      | some number => .int number
      | Option.none => .float value
  | .tuple items => .tuple (keyForms items)
  | .none => .none
  | .int value => .int value
  | .str value => .str value

/-- The forms of the items of a tuple. -/
def keyForms : List PyKey → List PyKey
  | [] => []
  | item :: rest => item.form :: keyForms rest

end

mutual

/-- No dict holds two equal keys. -/
def PyValue.Valid : PyValue → Prop
  | .list items => ValidItems items
  | .tuple items => ValidItems items
  | .dict members =>
      ValidMembers members ∧
        (members.map fun member => member.1.form).Nodup
  | _ => True

/-- No item holds a dict with two equal keys. -/
def ValidItems : List PyValue → Prop
  | [] => True
  | item :: rest => item.Valid ∧ ValidItems rest

/-- No value of a member holds a dict with two equal keys. -/
def ValidMembers : List (PyKey × PyValue) → Prop
  | [] => True
  | (_, value) :: rest => value.Valid ∧ ValidMembers rest

end

/-- A value whose dicts are dicts. -/
structure PyObject where
  value : PyValue
  valid : value.Valid

/-! ## The encoder -/

/-- Numbers, among which the booleans, as a ratio. -/
def PyKey.number : PyKey → Option (Int × Nat)
  | .int value => some (value, 1)
  | .bool value => some (if value then 1 else 0, 1)
  | .float value =>
      if value.isFinite then some (signedRatio value) else Option.none
  | _ => Option.none

/-- Strings. -/
def PyKey.name : PyKey → Option Text
  | .str value => some value
  | _ => Option.none

/--
Whether `sorted` orders the keys: there is nothing to compare, or all of them
are numbers or all of them are strings.  A dict with a tuple, an infinity or
a NaN for a key is refused in any case, by `keyText`.
-/
def sortable (keys : List PyKey) : Bool :=
  keys.length ≤ 1 || keys.all (·.number.isSome) ||
    keys.all (·.name.isSome)

/-- The order of two keys of one kind. -/
def PyKey.le : PyKey → PyKey → Bool
  | .str left, .str right => left ≤ right
  | left, right =>
      match left.number, right.number with
      | some first, some second =>
          first.1 * second.2 ≤ second.1 * first.2
      | _, _ => true

/-- Items ordered by their key. -/
def ItemLe {α : Type*} (left right : PyKey × α) : Prop :=
  left.1.le right.1 = true

instance {α : Type*} : DecidableRel (ItemLe (α := α)) :=
  fun left right => inferInstanceAs (Decidable (left.1.le right.1 = true))

/-- The string that is written for a key; `none` is a raised error. -/
def keyText : PyKey → Option Text
  | .str value => some value
  | .none => some (text "null")
  | .bool value => some (if value then text "true" else text "false")
  | .int value =>
      if (decimalText value.natAbs).length ≤ intMaxStrDigits then
        some (intText value)
      else Option.none
  | .float value => if value.isFinite then some value.repr else Option.none
  | .tuple _ => Option.none

mutual

/--
`json.dumps(value, sort_keys=True, separators=(",", ":"),
ensure_ascii=False, allow_nan=False)`; `none` is its `TypeError` or its
`ValueError`.
-/
def dumpObject : PyValue → Option Text
  | .none => some (text "null")
  | .bool value => some (if value then text "true" else text "false")
  | .int value =>
      if (decimalText value.natAbs).length ≤ intMaxStrDigits then
        some (intText value)
      else Option.none
  | .float value => if value.isFinite then some value.repr else Option.none
  | .str value => some (stringText value)
  | .list items => do
      let texts ← dumpObjects items
      pure (codePoint '[' :: (joinComma texts ++ [codePoint ']']))
  | .tuple items => do
      let texts ← dumpObjects items
      pure (codePoint '[' :: (joinComma texts ++ [codePoint ']']))
  | .dict members => do
      let texts ← dumpPairs members
      if sortable (members.map Prod.fst) then
        pure (codePoint '{' ::
          (joinComma ((texts.insertionSort ItemLe).map fun member =>
            stringText member.2.1 ++ codePoint ':' :: member.2.2) ++
          [codePoint '}']))
      else Option.none

/-- The texts of the items of a list. -/
def dumpObjects : List PyValue → Option (List Text)
  | [] => some []
  | item :: rest => do
      let head ← dumpObject item
      let tail ← dumpObjects rest
      pure (head :: tail)

/-- The keys of a dict, with the strings and the texts written for them. -/
def dumpPairs :
    List (PyKey × PyValue) → Option (List (PyKey × Text × Text))
  | [] => some []
  | (key, value) :: rest => do
      let name ← keyText key
      let head ← dumpObject value
      let tail ← dumpPairs rest
      pure ((key, name, head) :: tail)

end

/-! ## Refused values -/

mutual

/--
Somewhere in the value there is an integer beyond the digit limit, an
infinity or a NaN, a key that is a tuple or such a number, or a dict whose
keys have no order.
-/
def Refused : PyValue → Prop
  | .int value =>
      intMaxStrDigits < (decimalText value.natAbs).length
  | .float value => value.isFinite = false
  | .list items => RefusedItems items
  | .tuple items => RefusedItems items
  | .dict members =>
      RefusedMembers members ∨ sortable (members.map Prod.fst) = false
  | _ => False

def RefusedItems : List PyValue → Prop
  | [] => False
  | item :: rest => Refused item ∨ RefusedItems rest

def RefusedMembers : List (PyKey × PyValue) → Prop
  | [] => False
  | (key, value) :: rest =>
      keyText key = Option.none ∨ Refused value ∨ RefusedMembers rest

end

mutual

/-- The encoder raises on the refused values, and on no others. -/
theorem dumpObject_eq_none (value : PyValue) :
    dumpObject value = Option.none ↔ Refused value := by
  cases value with
  | none => simp [dumpObject, Refused]
  | bool value => simp [dumpObject, Refused]
  | int value => simp [dumpObject, Refused]
  | float value => simp [dumpObject, Refused]
  | str value => simp [dumpObject, Refused]
  | list items =>
      rw [dumpObject, Refused, ← dumpObjects_eq_none items]
      cases dumpObjects items <;> simp
  | tuple items =>
      rw [dumpObject, Refused, ← dumpObjects_eq_none items]
      cases dumpObjects items <;> simp
  | dict members =>
      rw [dumpObject, Refused, ← dumpPairs_eq_none members]
      cases dumpPairs members <;> simp

theorem dumpObjects_eq_none (items : List PyValue) :
    dumpObjects items = Option.none ↔ RefusedItems items := by
  cases items with
  | nil => simp [dumpObjects, RefusedItems]
  | cons item rest =>
      rw [dumpObjects, RefusedItems, ← dumpObject_eq_none item,
        ← dumpObjects_eq_none rest]
      cases dumpObject item <;> cases dumpObjects rest <;> simp

theorem dumpPairs_eq_none (members : List (PyKey × PyValue)) :
    dumpPairs members = Option.none ↔ RefusedMembers members := by
  cases members with
  | nil => simp [dumpPairs, RefusedMembers]
  | cons member rest =>
      cases member with
      | mk key value =>
          rw [dumpPairs, RefusedMembers, ← dumpObject_eq_none value,
            ← dumpPairs_eq_none rest]
          cases keyText key <;> cases dumpObject value <;>
            cases dumpPairs rest <;> simp

end

/-! ## Values of the decoder -/

mutual

/-- No tuple, and only strings for keys. -/
def Jsonable : PyValue → Prop
  | .list items => JsonableItems items
  | .tuple _ => False
  | .dict members => JsonableMembers members
  | _ => True

/-- No tuple in any item, and only strings for keys. -/
def JsonableItems : List PyValue → Prop
  | [] => True
  | item :: rest => Jsonable item ∧ JsonableItems rest

/-- Every key is a string, and no value holds a tuple. -/
def JsonableMembers : List (PyKey × PyValue) → Prop
  | [] => True
  | (key, value) :: rest =>
      key.name.isSome = true ∧ Jsonable value ∧ JsonableMembers rest

end

mutual

/-- The value that a decoder could return, the keys being strings. -/
def PyValue.toJson : PyValue → Json
  | .none => .null
  | .bool value => .bool value
  | .int value => .int value
  | .float value => .float value
  | .str value => .str value
  | .list items => .arr (toJsonItems items)
  | .tuple items => .arr (toJsonItems items)
  | .dict members => .obj (toJsonMembers members)

def toJsonItems : List PyValue → List Json
  | [] => []
  | item :: rest => item.toJson :: toJsonItems rest

/-- The members of a dict. -/
def toJsonMembers : List (PyKey × PyValue) → List (Text × Json)
  | [] => []
  | (key, value) :: rest =>
      (key.name.getD [], value.toJson) :: toJsonMembers rest

end

mutual

/--
A decoded value is equal to the value and of the same type at every node; two
dicts are equal when they have as many members and the same value under each
key.
-/
def sameAs : PyValue → Json → Bool
  | .none, .null => true
  | .bool left, .bool right => left = right
  | .int left, .int right => left = right
  | .float left, .float right => left = right
  | .str left, .str right => left = right
  | .list left, .arr right => sameItems left right
  | .dict left, .obj right =>
      left.length = right.length && sameMembers left right
  | _, _ => false

def sameItems : List PyValue → List Json → Bool
  | [], [] => true
  | first :: left, second :: right =>
      sameAs first second && sameItems left right
  | _, _ => false

/-- Under every key there is the same value. -/
def sameMembers : List (PyKey × PyValue) → List (Text × Json) → Bool
  | [], _ => true
  | (key, value) :: rest, right =>
      (match key.name with
        | Option.none => false
        | some name =>
            match Json.lookup name right with
            | Option.none => false
            | some stored => sameAs value stored) &&
        sameMembers rest right

end

mutual

/-- Only a value of strings and lists is the same as a decoded one. -/
theorem jsonable_of_sameAs
    (value : PyValue) {decoded : Json}
    (same : sameAs value decoded = true) : Jsonable value := by
  cases value with
  | none => trivial
  | bool value => trivial
  | int value => trivial
  | float value => trivial
  | str value => trivial
  | list items =>
      cases decoded with
      | arr right => exact jsonable_of_sameItems items same
      | _ => simp [sameAs] at same
  | tuple items => cases decoded <;> simp [sameAs] at same
  | dict members =>
      cases decoded with
      | obj right =>
          rw [sameAs, Bool.and_eq_true] at same
          exact jsonable_of_sameMembers members same.2
      | _ => simp [sameAs] at same

theorem jsonable_of_sameItems
    (items : List PyValue) {decoded : List Json}
    (same : sameItems items decoded = true) : JsonableItems items := by
  cases items with
  | nil => trivial
  | cons item rest =>
      cases decoded with
      | nil => simp [sameItems] at same
      | cons first right =>
          rw [sameItems, Bool.and_eq_true] at same
          exact ⟨jsonable_of_sameAs item same.1,
            jsonable_of_sameItems rest same.2⟩

theorem jsonable_of_sameMembers
    (members : List (PyKey × PyValue)) {decoded : List (Text × Json)}
    (same : sameMembers members decoded = true) :
    JsonableMembers members := by
  cases members with
  | nil => trivial
  | cons member rest =>
      cases member with
      | mk key value =>
          rw [sameMembers, Bool.and_eq_true] at same
          obtain ⟨head, tail⟩ := same
          cases named : key.name with
          | none => simp [named] at head
          | some name =>
              cases found : Json.lookup name decoded with
              | none => simp [named, found] at head
              | some stored =>
                  simp only [named, found] at head
                  exact ⟨by simp [named], jsonable_of_sameAs value head,
                    jsonable_of_sameMembers rest tail⟩

end

/-! ### The same document -/

theorem jsonableMembers_names
    {members : List (PyKey × PyValue)} (jsonable : JsonableMembers members) :
    (members.map Prod.fst).all (·.name.isSome) = true := by
  induction members with
  | nil => rfl
  | cons member rest induction =>
      rw [List.map_cons, List.all_cons, Bool.and_eq_true]
      exact ⟨jsonable.1, induction jsonable.2.2⟩

theorem PyKey.eq_str {key : PyKey} (named : key.name.isSome = true) :
    ∃ name, key = .str name := by
  cases key with
  | str name => exact ⟨name, rfl⟩
  | _ => simp [PyKey.name] at named

/-- A string in the place of a key, with the texts written for it. -/
def namedItem (member : Text × Text) : PyKey × Text × Text :=
  (.str member.1, member)

/-- Strings are ordered as the members of a `Json` object are. -/
theorem insertionSort_namedItem (texts : List (Text × Text)) :
    (texts.map namedItem).insertionSort ItemLe =
      (texts.insertionSort KeyLe).map namedItem := by
  refine (List.map_insertionSort KeyLe ItemLe namedItem texts ?_).symm
  intro left _ right _
  simp [ItemLe, KeyLe, namedItem, PyKey.le]

mutual

/-- A value of strings and lists is written as the `Json` value it is. -/
theorem dumpObject_eq (value : PyValue) (jsonable : Jsonable value) :
    dumpObject value = dumpText value.toJson := by
  cases value with
  | none => rfl
  | bool value => cases value <;> rfl
  | int value => rfl
  | float value => rfl
  | str value => rfl
  | list items =>
      rw [dumpObject, PyValue.toJson, dumpText,
        dumpObjects_eq items jsonable]
  | tuple items => exact jsonable.elim
  | dict members =>
      have names : sortable (members.map Prod.fst) = true := by
        rw [sortable, jsonableMembers_names jsonable, Bool.or_true]
      rw [dumpObject, PyValue.toJson, dumpText, names,
        dumpPairs_eq members jsonable]
      cases dumpMembers (toJsonMembers members) with
      | none => rfl
      | some texts =>
          simp [insertionSort_namedItem, namedItem, Function.comp_def]

theorem dumpObjects_eq
    (items : List PyValue) (jsonable : JsonableItems items) :
    dumpObjects items = dumpItems (toJsonItems items) := by
  cases items with
  | nil => rfl
  | cons item rest =>
      rw [dumpObjects, toJsonItems, dumpItems,
        dumpObject_eq item jsonable.1, dumpObjects_eq rest jsonable.2]

theorem dumpPairs_eq
    (members : List (PyKey × PyValue)) (jsonable : JsonableMembers members) :
    dumpPairs members =
      (dumpMembers (toJsonMembers members)).map (List.map namedItem) := by
  cases members with
  | nil => rfl
  | cons member rest =>
      cases member with
      | mk key value =>
          obtain ⟨name, rfl⟩ := PyKey.eq_str jsonable.1
          rw [dumpPairs, toJsonMembers, dumpMembers,
            dumpObject_eq value jsonable.2.1,
            dumpPairs_eq rest jsonable.2.2]
          cases dumpText value.toJson <;>
            cases dumpMembers (toJsonMembers rest) <;>
              simp [keyText, namedItem, PyKey.name]

end

/-! ### The same value -/

theorem keys_toJsonMembers
    {members : List (PyKey × PyValue)} (jsonable : JsonableMembers members) :
    (toJsonMembers members).map (fun member => PyKey.str member.1) =
      members.map fun member => member.1.form := by
  induction members with
  | nil => rfl
  | cons member rest induction =>
      obtain ⟨name, isName⟩ := PyKey.eq_str jsonable.1
      rw [toJsonMembers, List.map_cons, List.map_cons,
        induction jsonable.2.2, isName]
      rfl

/-- Distinct keys are distinct strings. -/
theorem nodup_toJsonMembers
    {members : List (PyKey × PyValue)} (jsonable : JsonableMembers members)
    (distinct : (members.map fun member => member.1.form).Nodup) :
    ((toJsonMembers members).map Prod.fst).Nodup := by
  rw [← keys_toJsonMembers jsonable] at distinct
  refine List.Nodup.of_map PyKey.str ?_
  rwa [List.map_map]

mutual

theorem distinct_toJson
    (value : PyValue) (jsonable : Jsonable value) (valid : value.Valid) :
    value.toJson.Distinct := by
  cases value with
  | none => trivial
  | bool value => trivial
  | int value => trivial
  | float value => trivial
  | str value => trivial
  | list items => exact distinct_toJsonItems items jsonable valid
  | tuple items => exact jsonable.elim
  | dict members =>
      exact ⟨distinct_toJsonMembers members jsonable valid.1,
        nodup_toJsonMembers jsonable valid.2⟩

theorem distinct_toJsonItems
    (items : List PyValue) (jsonable : JsonableItems items)
    (valid : ValidItems items) : DistinctItems (toJsonItems items) := by
  cases items with
  | nil => trivial
  | cons item rest =>
      exact ⟨distinct_toJson item jsonable.1 valid.1,
        distinct_toJsonItems rest jsonable.2 valid.2⟩

theorem distinct_toJsonMembers
    (members : List (PyKey × PyValue)) (jsonable : JsonableMembers members)
    (valid : ValidMembers members) :
    DistinctMembers (toJsonMembers members) := by
  cases members with
  | nil => trivial
  | cons member rest =>
      exact ⟨distinct_toJson member.2 jsonable.2.1 valid.1,
        distinct_toJsonMembers rest jsonable.2.2 valid.2⟩

end

mutual

/-- A value of strings and lists is the same as its sorted form. -/
theorem sameAs_sorted
    (value : PyValue) (jsonable : Jsonable value) (valid : value.Valid) :
    sameAs value value.toJson.sorted = true := by
  cases value with
  | none => rfl
  | bool value => simp [PyValue.toJson, Json.sorted, sameAs]
  | int value => simp [PyValue.toJson, Json.sorted, sameAs]
  | float value => simp [PyValue.toJson, Json.sorted, sameAs]
  | str value => simp [PyValue.toJson, Json.sorted, sameAs]
  | list items =>
      rw [PyValue.toJson, Json.sorted, sameAs]
      exact sameItems_sorted items jsonable valid
  | tuple items => exact jsonable.elim
  | dict members =>
      have distinct := nodup_toJsonMembers jsonable valid.2
      have length : members.length =
          (stored (toJsonMembers members)).length := by
        have permuted := (keys_stored (toJsonMembers members)).length_eq
        have keys := congrArg List.length (keys_toJsonMembers jsonable)
        simp only [List.length_map] at permuted keys
        rw [permuted, keys]
      rw [PyValue.toJson, sorted_obj, sameAs, Bool.and_eq_true,
        decide_eq_true_eq]
      refine ⟨length, sameMembers_sorted members jsonable valid.1 ?_⟩
      intro name decoded member
      rw [lookup_stored distinct,
        (Json.lookup_eq_some_iff distinct).mpr member]
      rfl

theorem sameItems_sorted
    (items : List PyValue) (jsonable : JsonableItems items)
    (valid : ValidItems items) :
    sameItems items (sortedItems (toJsonItems items)) = true := by
  cases items with
  | nil => rfl
  | cons item rest =>
      rw [toJsonItems, sortedItems, sameItems,
        sameAs_sorted item jsonable.1 valid.1,
        sameItems_sorted rest jsonable.2 valid.2]
      rfl

theorem sameMembers_sorted
    (members : List (PyKey × PyValue)) (jsonable : JsonableMembers members)
    (valid : ValidMembers members) {decoded : List (Text × Json)}
    (stores : ∀ name value, (name, value) ∈ toJsonMembers members →
      Json.lookup name decoded = some value.sorted) :
    sameMembers members decoded = true := by
  cases members with
  | nil => rfl
  | cons member rest =>
      cases member with
      | mk key value =>
          obtain ⟨name, rfl⟩ := PyKey.eq_str jsonable.1
          have found := stores name value.toJson List.mem_cons_self
          have tail := sameMembers_sorted rest jsonable.2.2 valid.2
            fun other stored member =>
              stores other stored (List.mem_cons_of_mem _ member)
          rw [sameMembers, tail, Bool.and_true]
          simp only [PyKey.name, found]
          exact sameAs_sorted value jsonable.2.1 valid.1

end

/-! ## Decoded values -/

mutual

/-- A decoded value as a value that the encoder takes. -/
def PyValue.ofJson : Json → PyValue
  | .null => .none
  | .bool value => .bool value
  | .int value => .int value
  | .float value => .float value
  | .str value => .str value
  | .arr items => .list (ofJsonItems items)
  | .obj members => .dict (ofJsonMembers members)

def ofJsonItems : List Json → List PyValue
  | [] => []
  | item :: rest => .ofJson item :: ofJsonItems rest

def ofJsonMembers : List (Text × Json) → List (PyKey × PyValue)
  | [] => []
  | (key, value) :: rest =>
      (.str key, .ofJson value) :: ofJsonMembers rest

end

mutual

theorem jsonable_ofJson (value : Json) : Jsonable (.ofJson value) := by
  cases value with
  | arr items => exact jsonable_ofJsonItems items
  | obj members => exact jsonable_ofJsonMembers members
  | _ => trivial

theorem jsonable_ofJsonItems (items : List Json) :
    JsonableItems (ofJsonItems items) := by
  cases items with
  | nil => trivial
  | cons item rest =>
      exact ⟨jsonable_ofJson item, jsonable_ofJsonItems rest⟩

theorem jsonable_ofJsonMembers (members : List (Text × Json)) :
    JsonableMembers (ofJsonMembers members) := by
  cases members with
  | nil => trivial
  | cons member rest =>
      exact ⟨rfl, jsonable_ofJson member.2, jsonable_ofJsonMembers rest⟩

end

mutual

theorem toJson_ofJson (value : Json) :
    (PyValue.ofJson value).toJson = value := by
  cases value with
  | arr items =>
      rw [PyValue.ofJson, PyValue.toJson, toJsonItems_ofJsonItems items]
  | obj members =>
      rw [PyValue.ofJson, PyValue.toJson,
        toJsonMembers_ofJsonMembers members]
  | _ => rfl

theorem toJsonItems_ofJsonItems (items : List Json) :
    toJsonItems (ofJsonItems items) = items := by
  cases items with
  | nil => rfl
  | cons item rest =>
      rw [ofJsonItems, toJsonItems, toJson_ofJson item,
        toJsonItems_ofJsonItems rest]

theorem toJsonMembers_ofJsonMembers (members : List (Text × Json)) :
    toJsonMembers (ofJsonMembers members) = members := by
  cases members with
  | nil => rfl
  | cons member rest =>
      rw [ofJsonMembers, toJsonMembers, toJson_ofJson member.2,
        toJsonMembers_ofJsonMembers rest]
      rfl

end

theorem ofJsonMembers_eq_map (members : List (Text × Json)) :
    ofJsonMembers members =
      members.map fun member => (.str member.1, .ofJson member.2) := by
  induction members with
  | nil => rfl
  | cons member rest induction =>
      rw [ofJsonMembers, List.map_cons, induction]

end ScientificResourceLab.Python
