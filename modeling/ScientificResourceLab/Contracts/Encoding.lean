import ScientificResourceLab.Contracts.Canonical
import ScientificResourceLab.Python.Objects

/-!
# Encoding any value

`dumpsValue` is `dumps` on every value that Python can hand to it, not only
on the values that `loads` returns.  What is read back from its bytes is the
value itself when the value has strings for keys, no tuples and no surrogates
(`Plain`).  Outside of these the encoder raises the contract's own error only
for what the `json` module refuses: a key that is a number, a boolean or
`None` is written as a string, a tuple as a list, and a surrogate raises
another error.
-/

namespace ScientificResourceLab.Contracts

open Python

/-- `srl.contracts.canonical.dumps` on any value. -/
def dumpsValue (value : PyValue) : Except PyError Bytes :=
  match dumpObject value with
  | none =>
      .error (raised .canonicalJsonError
        "value is not canonical-JSON serializable")
  | some written =>
      match utf8Encode (written ++ [codePoint '\n']) with
      | none => .error (raised .unicodeEncodeError "surrogates not allowed")
      | some encoded => .ok encoded

theorem dumpsValue_eq
    {value : PyValue} (jsonable : Jsonable value) :
    dumpsValue value = dumps value.toJson := by
  unfold dumpsValue dumps
  have same := dumpObject_eq value jsonable
  cases isText : dumpText value.toJson with
  | none => simp only [same, isText]
  | some written =>
      cases isEncoded : utf8Encode (written ++ [codePoint '\n']) with
      | none => simp only [*]
      | some encoded => simp only [*]

/-! ## Plain values -/

mutual

/-- Strings for keys, no tuples, no surrogates. -/
def Plain : PyValue → Prop
  | .str value => Scalars value
  | .list items => PlainItems items
  | .tuple _ => False
  | .dict members => PlainMembers members
  | _ => True

def PlainItems : List PyValue → Prop
  | [] => True
  | item :: rest => Plain item ∧ PlainItems rest

/-- Every key is a string without surrogates, every value is plain. -/
def PlainMembers : List (PyKey × PyValue) → Prop
  | [] => True
  | (key, value) :: rest =>
      (∃ name, key = .str name ∧ Scalars name) ∧ Plain value ∧
        PlainMembers rest

end

mutual

theorem Plain.jsonable (value : PyValue) (plain : Plain value) :
    Jsonable value := by
  cases value with
  | none => trivial
  | bool value => trivial
  | int value => trivial
  | float value => trivial
  | str value => trivial
  | list items => exact PlainItems.jsonable items plain
  | tuple items => exact plain
  | dict members => exact PlainMembers.jsonable members plain

theorem PlainItems.jsonable
    (items : List PyValue) (plain : PlainItems items) :
    JsonableItems items := by
  cases items with
  | nil => trivial
  | cons item rest =>
      exact ⟨Plain.jsonable item plain.1,
        PlainItems.jsonable rest plain.2⟩

theorem PlainMembers.jsonable
    (members : List (PyKey × PyValue)) (plain : PlainMembers members) :
    JsonableMembers members := by
  cases members with
  | nil => trivial
  | cons member rest =>
      cases member with
      | mk key value =>
          obtain ⟨⟨name, rfl, -⟩, plainValue, plainRest⟩ := plain
          exact ⟨rfl, Plain.jsonable value plainValue,
            PlainMembers.jsonable rest plainRest⟩

end

mutual

/-- What is not refused and plain can be written. -/
theorem Plain.writable
    (value : PyValue) (plain : Plain value) (accepted : ¬ Refused value) :
    Writable value.toJson := by
  cases value with
  | none => trivial
  | bool value => trivial
  | int value => exact Nat.le_of_not_lt accepted
  | float value => exact Bool.eq_true_of_not_eq_false accepted
  | str value => exact plain
  | list items => exact PlainItems.writable items plain accepted
  | tuple items => exact plain.elim
  | dict members =>
      exact PlainMembers.writable members plain fun refused =>
        accepted (.inl refused)

theorem PlainItems.writable
    (items : List PyValue) (plain : PlainItems items)
    (accepted : ¬ RefusedItems items) :
    WritableItems (toJsonItems items) := by
  cases items with
  | nil => trivial
  | cons item rest =>
      rw [RefusedItems, not_or] at accepted
      exact ⟨Plain.writable item plain.1 accepted.1,
        PlainItems.writable rest plain.2 accepted.2⟩

theorem PlainMembers.writable
    (members : List (PyKey × PyValue)) (plain : PlainMembers members)
    (accepted : ¬ RefusedMembers members) :
    WritableMembers (toJsonMembers members) := by
  cases members with
  | nil => trivial
  | cons member rest =>
      cases member with
      | mk key value =>
          rw [RefusedMembers, not_or, not_or] at accepted
          obtain ⟨⟨name, rfl, scalars⟩, plainValue, plainRest⟩ := plain
          exact ⟨scalars, Plain.writable value plainValue accepted.2.1,
            PlainMembers.writable rest plainRest accepted.2.2⟩

end

mutual

/-- What is written without surrogates is plain. -/
theorem plain_of_writable
    (value : PyValue) (jsonable : Jsonable value)
    (writable : Writable value.toJson) : Plain value := by
  cases value with
  | none => trivial
  | bool value => trivial
  | int value => trivial
  | float value => trivial
  | str value => exact writable
  | list items => exact plainItems_of_writable items jsonable writable
  | tuple items => exact jsonable
  | dict members =>
      exact plainMembers_of_writable members jsonable writable

theorem plainItems_of_writable
    (items : List PyValue) (jsonable : JsonableItems items)
    (writable : WritableItems (toJsonItems items)) : PlainItems items := by
  cases items with
  | nil => trivial
  | cons item rest =>
      exact ⟨plain_of_writable item jsonable.1 writable.1,
        plainItems_of_writable rest jsonable.2 writable.2⟩

theorem plainMembers_of_writable
    (members : List (PyKey × PyValue)) (jsonable : JsonableMembers members)
    (writable : WritableMembers (toJsonMembers members)) :
    PlainMembers members := by
  cases members with
  | nil => trivial
  | cons member rest =>
      cases member with
      | mk key value =>
          obtain ⟨name, rfl⟩ := PyKey.eq_str jsonable.1
          exact ⟨⟨name, rfl, writable.1⟩,
            plain_of_writable value jsonable.2.1 writable.2.1,
            plainMembers_of_writable rest jsonable.2.2 writable.2.2⟩

end

/-! ## What is read back -/

/--
The value is refused with the contract's error, or its bytes are read back as
an equal value of the same types.
-/
def DecodesBack (value : PyValue) : Prop :=
  match dumpsValue value with
  | .error error => error.kind = .canonicalJsonError
  | .ok data =>
      ∃ decoded, loads data = .ok decoded ∧ sameAs value decoded = true

theorem dumpsValue_of_refused
    {value : PyValue} (refused : Refused value) :
    dumpsValue value =
      .error (raised .canonicalJsonError
        "value is not canonical-JSON serializable") := by
  rw [dumpsValue, (dumpObject_eq_none value).mpr refused]

theorem refused_of_dumpsValue
    {value : PyValue} {error : PyError}
    (raises : dumpsValue value = .error error)
    (kind : error.kind = .canonicalJsonError) : Refused value := by
  rw [← dumpObject_eq_none]
  rw [dumpsValue] at raises
  split at raises
  · assumption
  · split at raises
    · cases raises
      cases kind
    · cases raises

/-- A plain value that is not refused is written and read back. -/
theorem loads_dumpsValue
    {value : PyValue} (valid : value.Valid) (plain : Plain value)
    (accepted : ¬ Refused value) :
    ∃ data, dumpsValue value = .ok data ∧
      loads data = .ok value.toJson.sorted := by
  have jsonable := Plain.jsonable value plain
  obtain ⟨data, dumped⟩ :=
    dumps_of_writable (Plain.writable value plain accepted)
  refine ⟨data, by rw [dumpsValue_eq jsonable, dumped], ?_⟩
  exact loads_dumps_sorted (distinct_toJson value jsonable valid) dumped

theorem plain_of_sameAs
    {value : PyValue} {data : Bytes} (dumped : dumpsValue value = .ok data)
    {decoded : Json} (same : sameAs value decoded = true) :
    Plain value := by
  have jsonable := jsonable_of_sameAs value same
  rw [dumpsValue_eq jsonable] at dumped
  exact plain_of_writable value jsonable (writable_of_dumps dumped)

theorem decodesBack_iff_of_valid
    {value : PyValue} (valid : value.Valid) :
    DecodesBack value ↔ Refused value ∨ Plain value := by
  rw [DecodesBack]
  constructor
  · intro decodes
    split at decodes
    · next error raises =>
        exact .inl (refused_of_dumpsValue raises decodes)
    · next data dumped =>
        obtain ⟨decoded, -, same⟩ := decodes
        exact .inr (plain_of_sameAs dumped same)
  · intro condition
    by_cases refused : Refused value
    · rw [dumpsValue_of_refused refused]
      rfl
    · have plain := condition.resolve_left refused
      obtain ⟨data, dumped, loaded⟩ :=
        loads_dumpsValue valid plain refused
      rw [dumped]
      exact ⟨_, loaded,
        sameAs_sorted value (Plain.jsonable value plain) valid⟩

/-- Plain values with the same bytes differ in the order of members only. -/
theorem sorted_eq_of_dumpsValue
    {left right : PyValue} (leftValid : left.Valid)
    (rightValid : right.Valid) (leftPlain : Plain left)
    (rightPlain : Plain right) {data : Bytes}
    (leftDumps : dumpsValue left = .ok data)
    (rightDumps : dumpsValue right = .ok data) :
    left.toJson.sorted = right.toJson.sorted := by
  have leftJsonable := Plain.jsonable left leftPlain
  have rightJsonable := Plain.jsonable right rightPlain
  rw [dumpsValue_eq leftJsonable] at leftDumps
  rw [dumpsValue_eq rightJsonable] at rightDumps
  have loadsLeft := loads_dumps_sorted
    (distinct_toJson left leftJsonable leftValid) leftDumps
  have loadsRight := loads_dumps_sorted
    (distinct_toJson right rightJsonable rightValid) rightDumps
  rw [loadsLeft] at loadsRight
  exact Except.ok.inj loadsRight

/--
A value decodes back exactly when the encoder refuses it or it has strings
for keys, no tuples and no surrogates; and two values of the second kind with
the same bytes are equal up to the order of members.
-/
theorem decodesBack_iff (object : PyObject) :
    (DecodesBack object.value ↔
      Refused object.value ∨ Plain object.value) ∧
    ∀ other : PyObject, ∀ data,
      Plain object.value → Plain other.value →
      dumpsValue object.value = .ok data →
      dumpsValue other.value = .ok data →
      object.value.toJson.sorted = other.value.toJson.sorted :=
  ⟨decodesBack_iff_of_valid object.valid,
    fun other _ plain otherPlain dumped otherDumped =>
      sorted_eq_of_dumpsValue object.valid other.valid plain otherPlain
        dumped otherDumped⟩

/-- `{1: "a"}`. -/
def numberedDict : PyObject where
  value := .dict [(.int 1, .str (text "a"))]
  valid := by simp [PyValue.Valid, ValidMembers]

/-- `{"1": "a"}`. -/
def namedDict : PyObject where
  value := .dict [(.str (text "1"), .str (text "a"))]
  valid := by simp [PyValue.Valid, ValidMembers]

/-- A dict with a number for a key is written as the one with a string. -/
theorem numberedDict_not_decodesBack :
    dumpsValue numberedDict.value = dumpsValue namedDict.value ∧
      ¬ DecodesBack numberedDict.value := by
  refine ⟨rfl, ?_⟩
  rw [decodesBack_iff_of_valid numberedDict.valid]
  rintro (refused | plain)
  · rcases refused with refused | unsorted
    · rcases refused with unnamed | refused | refused
      · revert unnamed
        decide
      · exact refused
      · exact refused
    · cases unsorted
  · obtain ⟨⟨name, isName, -⟩, -⟩ := plain
    cases isName

end ScientificResourceLab.Contracts
