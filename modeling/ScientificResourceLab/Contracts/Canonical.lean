import ScientificResourceLab.Python.Exceptions
import ScientificResourceLab.Python.JsonOrder
import ScientificResourceLab.Python.StrictSha256

/-!
# Canonical documents and content addresses

`dumps` and `loads` are the canonical encoding of the contracts layer: sorted
keys, compact separators, UTF-8 bytes, one trailing newline, no constants.
`objectId` is the content address of a value, the digest of its canonical
bytes.  A closed run is evaluated after `objectId_eq_strict` has replaced the
content addresses in it.

`loads_dumps` is the round trip on plain values, and a value is refused
unless it is writable (`dumps_of_writable` and `writable_of_dumps`).
-/

namespace ScientificResourceLab.Contracts

open Python

/-- `srl.contracts.canonical.dumps`. -/
def dumps (value : Json) : Except PyError Bytes :=
  match dumpText value with
  | none =>
      .error (raised .canonicalJsonError
        "value is not canonical-JSON serializable")
  | some written =>
      match utf8Encode (written ++ [codePoint '\n']) with
      | none => .error (raised .unicodeEncodeError "surrogates not allowed")
      | some encoded => .ok encoded

/-- `srl.contracts.canonical.loads` on a text. -/
def loadsText (document : Text) : Except PyError Json :=
  match parseText false document with
  | .ok value => .ok value
  | .error .decode =>
      .error (raised .canonicalJsonError
        "value is not valid canonical JSON")
  | .error .value =>
      .error (raised .valueError
        "Exceeds the limit for integer string conversion")
  | .error .constant =>
      .error (raised .canonicalJsonError
        "canonical JSON must not contain the constant")

/-- `srl.contracts.canonical.loads` on bytes. -/
def loads (data : Bytes) : Except PyError Json :=
  match utf8Decode data with
  | none =>
      .error (raised .canonicalJsonError
        "canonical JSON bytes are not valid UTF-8")
  | some document => loadsText document

/-- `OBJECT_ID_FIELD`. -/
def objectIdField : Text :=
  text "object_id"

/-- `OBJECT_ID_PREFIX`. -/
def objectIdPrefix : Text :=
  text "sha256:"

/-- The non-empty `object_id` that a value already carries. -/
def ownObjectId : Json → Option Text
  | .obj members =>
      match Json.lookup objectIdField members with
      | some (.str existing) => if existing = [] then none else some existing
      | _ => none
  | _ => none

/-- `srl.contracts.ids.object_id`. -/
def objectId (value : Json) : Except PyError Text :=
  match ownObjectId value with
  | some existing =>
      .error ⟨.selfHashError,
        text "cannot compute object_id: object already carries its own " ++
          text "'object_id' field (" ++ quoted existing ++
          text "); strip the field before hashing"⟩
  | none => do
      let blob ← dumps value
      pure (objectIdPrefix ++ sha256 blob)

/-- `objectId` over `strictSha256`. -/
def strictObjectId (value : Json) : Except PyError Text :=
  match ownObjectId value with
  | some existing =>
      .error ⟨.selfHashError,
        text "cannot compute object_id: object already carries its own " ++
          text "'object_id' field (" ++ quoted existing ++
          text "); strip the field before hashing"⟩
  | none => do
      let blob ← dumps value
      pure (objectIdPrefix ++ strictSha256 blob)

theorem objectId_eq_strict : objectId = strictObjectId := by
  funext value
  cases own : ownObjectId value with
  | none => simp only [objectId, strictObjectId, own, sha256_eq_strict]
  | some existing => simp only [objectId, strictObjectId, own]

/-- `sha256:[0-9a-f]{64}`, matched in full. -/
def isObjectId (value : Text) : Bool :=
  objectIdPrefix.isPrefixOf value &&
    (value.drop objectIdPrefix.length).length = 64 &&
    (value.drop objectIdPrefix.length).all CodePoint.isLowerHex

/-- `srl.contracts.ids.validate_object_id` on a string. -/
def validateObjectId (value : Text) : Except PyError Text :=
  if isObjectId value then .ok value
  else
    .error ⟨.identityError,
      text "object_id " ++ quoted value ++
        text " must be 'sha256:' + 64 lowercase hex digits"⟩

/-! ## Content addresses -/

/-- A prefixed digest has the shape of an object id. -/
theorem isObjectId_sha256 (content : Bytes) :
    isObjectId (objectIdPrefix ++ sha256 content) = true := by
  obtain ⟨length, hex⟩ := sha256_hex content
  have isPrefix :
      objectIdPrefix.isPrefixOf (objectIdPrefix ++ sha256 content) =
        true :=
    List.isPrefixOf_iff_prefix.mpr (List.prefix_append _ _)
  simpa [isObjectId, isPrefix, length, List.all_eq_true] using hex

theorem isObjectId_ne_nil
    {id : Text} (shaped : isObjectId id = true) : id ≠ [] := by
  rintro rfl
  revert shaped
  decide

theorem objectId_isObjectId
    {value : Json} {id : Text} (computed : objectId value = .ok id) :
    isObjectId id = true := by
  rw [objectId] at computed
  cases own : ownObjectId value with
  | some existing =>
      rw [own] at computed
      cases computed
  | none =>
      rw [own] at computed
      cases dumped : dumps value with
      | error error =>
          rw [dumped] at computed
          cases computed
      | ok blob =>
          rw [dumped] at computed
          cases computed
          exact isObjectId_sha256 blob

/-- The bytes of a document are those of its text and a newline. -/
theorem dumps_eq_ok_iff {value : Json} {blob : Bytes} :
    dumps value = .ok blob ↔
      ∃ written, dumpText value = some written ∧
        utf8Encode (written ++ [codePoint '\n']) = some blob := by
  rw [dumps]
  cases dumpText value with
  | none => simp
  | some written =>
      cases encoded : utf8Encode (written ++ [codePoint '\n']) with
      | none => simp [encoded]
      | some bytes => simp [encoded]

/-! ## The round trip -/

/-- Decoding a canonical document returns the plain value it encodes. -/
theorem loads_dumps
    {value : Json} (plain : value.Plain) {data : Bytes}
    (dumped : dumps value = .ok data) :
    loads data = .ok value := by
  obtain ⟨document, written, encoded⟩ := dumps_eq_ok_iff.mp dumped
  simp only [loads, utf8Decode_utf8Encode encoded, loadsText,
    parseText_dumpText false plain written (.inr rfl)]

/-- A value with distinct keys is decoded in the order of its keys. -/
theorem loads_dumps_sorted
    {value : Json} (distinct : value.Distinct) {data : Bytes}
    (dumped : dumps value = .ok data) :
    loads data = .ok value.sorted := by
  refine loads_dumps (plain_sorted value distinct) ?_
  rw [← dumped, dumps, dumps, dumpText_sorted]

/-- A decoded object has distinct keys. -/
theorem loads_obj_nodup
    {data : Bytes} {members : List (Text × Json)}
    (decoded : loads data = .ok (.obj members)) :
    (members.map Prod.fst).Nodup := by
  rw [loads] at decoded
  split at decoded
  · cases decoded
  · next document _ =>
      rw [loadsText] at decoded
      split at decoded
      · next value parsed =>
          cases decoded
          exact parseText_obj_nodup parsed
      all_goals cases decoded

/-! ## Flat dicts -/

/-- A value without members whose order could matter. -/
def Flat (value : Json) : Prop :=
  value.sorted = value ∧ value.Distinct

/-- A dict with flat values keeps only the order of its members. -/
theorem sorted_of_flat
    {members : List (Text × Json)} (flat : ∀ member ∈ members, Flat member.2) :
    Json.sorted (.obj members) = .obj (members.insertionSort KeyLe) := by
  have unchanged : sortedMembers members = members := by
    rw [sortedMembers_eq_map]
    calc
      members.map (fun member => (member.1, member.2.sorted)) =
          members.map id := by
        refine List.map_congr_left fun member isMember => ?_
        rw [(flat member isMember).1]
        rfl
      _ = members := List.map_id _
  rw [Json.sorted, unchanged]

theorem distinctMembers_iff {members : List (Text × Json)} :
    DistinctMembers members ↔ ∀ member ∈ members, member.2.Distinct := by
  induction members with
  | nil => simp [DistinctMembers]
  | cons member rest induction => simp [DistinctMembers, induction]

theorem distinct_of_flat
    {members : List (Text × Json)} (distinct : (members.map Prod.fst).Nodup)
    (flat : ∀ member ∈ members, Flat member.2) :
    (Json.obj members).Distinct :=
  ⟨distinctMembers_iff.mpr fun member isMember =>
    (flat member isMember).2, distinct⟩

theorem dumps_perm
    {left right : List (Text × Json)} (same : left.Perm right)
    (distinct : (left.map Prod.fst).Nodup) :
    dumps (.obj left) = dumps (.obj right) := by
  rw [dumps, dumps, dumpText_perm same distinct]

/-! ## Values that are not refused -/

/-- A text without surrogates. -/
def Scalars (value : Text) : Prop :=
  ∀ point ∈ value, CodePoint.isSurrogate point = false

mutual

/-- Finite floats, integers within the digit limit, no surrogates. -/
def Writable : Json → Prop
  | .null => True
  | .bool _ => True
  | .int value =>
      (decimalText value.natAbs).length ≤ intMaxStrDigits
  | .float value => value.isFinite = true
  | .str value => Scalars value
  | .arr items => WritableItems items
  | .obj members => WritableMembers members

def WritableItems : List Json → Prop
  | [] => True
  | item :: rest => Writable item ∧ WritableItems rest

def WritableMembers : List (Text × Json) → Prop
  | [] => True
  | (key, value) :: rest =>
      Scalars key ∧ Writable value ∧ WritableMembers rest

end

theorem writable_zero : Writable (.int 0) := by
  rw [Writable]
  decide

theorem writableMembers_iff {members : List (Text × Json)} :
    WritableMembers members ↔
      ∀ member ∈ members, Scalars member.1 ∧ Writable member.2 := by
  induction members with
  | nil => simp [WritableMembers]
  | cons member rest induction =>
      simp [WritableMembers, induction, and_assoc]

theorem writableMembers_append {first second : List (Text × Json)} :
    WritableMembers (first ++ second) ↔
      WritableMembers first ∧ WritableMembers second := by
  induction first with
  | nil => simp [WritableMembers]
  | cons member rest induction =>
      obtain ⟨key, value⟩ := member
      simp only [List.cons_append, WritableMembers, induction, and_assoc]

theorem scalars_append {first second : Text} :
    Scalars (first ++ second) ↔ Scalars first ∧ Scalars second := by
  simp only [Scalars, List.mem_append]
  constructor
  · intro every
    exact ⟨fun point member => every point (.inl member),
      fun point member => every point (.inr member)⟩
  · rintro ⟨inFirst, inSecond⟩ point (member | member)
    · exact inFirst point member
    · exact inSecond point member

theorem scalars_cons {point : CodePoint} {rest : Text} :
    Scalars (point :: rest) ↔
      CodePoint.isSurrogate point = false ∧ Scalars rest := by
  simp [Scalars]

theorem scalars_nil : Scalars [] := by
  simp [Scalars]

/-- A character literal is no surrogate. -/
theorem codePoint_scalar (char : Char) :
    CodePoint.isSurrogate (codePoint char) = false := by
  have valid : char.toNat < 0xD800 ∨
      0xDFFF < char.toNat ∧ char.toNat < 0x110000 := char.valid
  have value : (codePoint char).val = char.toNat := by
    simp only [codePoint, Fin.val_ofNat]
    omega
  simp only [CodePoint.isSurrogate, value, Bool.and_eq_false_imp,
    decide_eq_true_eq, decide_eq_false_iff_not]
  omega

theorem scalars_text (literal : String) : Scalars (text literal) := by
  intro point member
  obtain ⟨char, _, rfl⟩ := List.mem_map.mp member
  exact codePoint_scalar char

/-- A text without surrogates has a UTF-8 form. -/
theorem utf8Encode_of_scalars
    {value : Text} (scalars : Scalars value) :
    ∃ encoded, utf8Encode value = some encoded := by
  induction value with
  | nil => exact ⟨[], rfl⟩
  | cons point rest induction =>
      obtain ⟨notSurrogate, scalarRest⟩ := scalars_cons.mp scalars
      obtain ⟨tail, tailEncodes⟩ := induction scalarRest
      obtain ⟨head, headEncodes⟩ :
          ∃ head, utf8EncodePoint point = some head := by
        simp only [utf8EncodePoint, notSurrogate, Bool.false_eq_true,
          if_false]
        split_ifs <;> exact ⟨_, rfl⟩
      exact ⟨head ++ tail, by simp [utf8Encode, headEncodes, tailEncodes]⟩

theorem hexPoint_scalar (value : Nat) :
    CodePoint.isSurrogate (hexPoint (value % 16)) = false := by
  have small : value % 16 < 16 := Nat.mod_lt _ (by decide)
  generalize value % 16 = digit at small
  interval_cases digit <;> decide

/-- Escaping adds no surrogates. -/
theorem scalars_escapePoint
    {point : CodePoint} (scalar : CodePoint.isSurrogate point = false) :
    Scalars (escapePoint point) := by
  fun_cases escapePoint point with
  | case8 =>
      have small : point.val / 16 = point.val / 16 % 16 := by omega
      rw [small]
      refine scalars_append.mpr ⟨scalars_text _, ?_⟩
      simp [scalars_cons, scalars_nil, hexPoint_scalar]
  | case9 => exact scalars_cons.mpr ⟨scalar, scalars_nil⟩
  | _ => exact scalars_text _

theorem scalars_stringText
    {value : Text} (scalars : Scalars value) :
    Scalars (stringText value) := by
  rw [stringText, scalars_cons, scalars_append, scalars_cons]
  refine ⟨by decide, ?_, by decide, scalars_nil⟩
  intro point member
  obtain ⟨origin, isOrigin, inEscape⟩ := List.mem_flatMap.mp member
  exact scalars_escapePoint (scalars origin isOrigin) point inEscape

theorem isDigit_scalar
    {point : CodePoint} (isDigit : CodePoint.isDigit point = true) :
    CodePoint.isSurrogate point = false := by
  simp only [CodePoint.isDigit, Bool.and_eq_true,
    decide_eq_true_eq] at isDigit
  simp only [CodePoint.isSurrogate, Bool.and_eq_false_imp,
    decide_eq_true_eq, decide_eq_false_iff_not]
  omega

theorem isLowerHex_scalar
    {point : CodePoint} (isHex : CodePoint.isLowerHex point = true) :
    CodePoint.isSurrogate point = false := by
  simp only [CodePoint.isLowerHex, CodePoint.isDigit, Bool.or_eq_true,
    Bool.and_eq_true, decide_eq_true_eq] at isHex
  simp only [CodePoint.isSurrogate, Bool.and_eq_false_imp,
    decide_eq_true_eq, decide_eq_false_iff_not]
  omega

theorem scalars_of_isObjectId
    {id : Text} (shaped : isObjectId id = true) : Scalars id := by
  simp only [isObjectId, Bool.and_eq_true] at shaped
  obtain ⟨rest, rfl⟩ := List.isPrefixOf_iff_prefix.mp shaped.1.1
  rw [List.drop_left, List.all_eq_true] at shaped
  exact scalars_append.mpr ⟨scalars_text _,
    fun point member => isLowerHex_scalar (shaped.2 point member)⟩

theorem scalars_hexPoints
    (digits : List Nat) (small : ∀ digit ∈ digits, digit < 16) :
    Scalars (digits.map hexPoint) := by
  intro point member
  obtain ⟨digit, isDigit, rfl⟩ := List.mem_map.mp member
  exact isLowerHex_scalar (hexPoint_isLowerHex (small digit isDigit))

theorem scalars_hexDigits (count value : Nat) :
    Scalars (hexDigits count value) := by
  intro point member
  obtain ⟨index, -, rfl⟩ := List.mem_map.mp member
  exact isLowerHex_scalar (hexPoint_isLowerHex (Nat.mod_lt _ (by decide)))

theorem scalars_reprPoint
    {quote : CodePoint} (scalar : CodePoint.isSurrogate quote = false)
    (point : CodePoint) : Scalars (reprPoint quote point) := by
  have escape (start : String) (count : Nat) :
      Scalars (text start ++ hexDigits count point.val) :=
    scalars_append.mpr ⟨scalars_text _, scalars_hexDigits count _⟩
  rw [reprPoint]
  split_ifs with isQuote _ _ _ printable
  · rw [scalars_cons, scalars_cons]
    refine ⟨by decide, ?_, scalars_nil⟩
    rcases isQuote with rfl | rfl
    · exact scalar
    · decide
  · exact scalars_text _
  · exact scalars_text _
  · exact scalars_text _
  · refine scalars_cons.mpr ⟨?_, scalars_nil⟩
    by_contra surrogate
    rw [Bool.not_eq_false] at surrogate
    rw [isSurrogate_not_printable surrogate] at printable
    cases printable
  · exact escape _ 2
  · exact escape _ 4
  · exact escape _ 8

/-- A `repr` writes surrogates as escapes. -/
theorem scalars_quoted (value : Text) : Scalars (quoted value) := by
  have quote : CodePoint.isSurrogate
      (if codePoint '\'' ∈ value ∧ codePoint '"' ∉ value then
        codePoint '"' else codePoint '\'') = false := by
    split_ifs <;> decide
  rw [quoted, scalars_cons, scalars_append, scalars_cons]
  refine ⟨quote, ?_, quote, scalars_nil⟩
  intro point member
  obtain ⟨origin, -, inEscape⟩ := List.mem_flatMap.mp member
  exact scalars_reprPoint quote origin point inEscape

theorem scalars_decimalText (value : Nat) :
    Scalars (decimalText value) := by
  intro point member
  exact isDigit_scalar (decimalText_isDigit value point member)

theorem scalars_intText (value : Int) : Scalars (intText value) := by
  rw [intText, scalars_append]
  refine ⟨?_, scalars_decimalText _⟩
  split_ifs
  · exact scalars_cons.mpr ⟨by decide, scalars_nil⟩
  · exact scalars_nil

theorem Scalars.subset
    {whole part : Text} (scalars : Scalars whole) (within : part ⊆ whole) :
    Scalars part :=
  fun point member => scalars point (within member)

theorem scalars_replicate (count : Nat) (char : Char) :
    Scalars (List.replicate count (codePoint char)) := by
  intro point member
  rw [List.eq_of_mem_replicate member]
  exact codePoint_scalar char

theorem scalars_ite
    {condition : Prop} [Decidable condition] {first second : Text}
    (inFirst : Scalars first) (inSecond : Scalars second) :
    Scalars (if condition then first else second) := by
  split_ifs
  · exact inFirst
  · exact inSecond

theorem scalars_layOut
    {digits : Text} (scalars : Scalars digits) (power : Int) :
    Scalars (Float64.layOut digits power) := by
  have front : Scalars (digits.take (power.toNat + 1)) :=
    scalars.subset (List.take_subset _ _)
  have back : Scalars (digits.drop (power.toNat + 1)) :=
    scalars.subset (List.drop_subset _ _)
  have first : Scalars (digits.take 1) :=
    scalars.subset (List.take_subset _ _)
  have others : Scalars (digits.drop 1) :=
    scalars.subset (List.drop_subset _ _)
  have padding : Scalars
      (if (decimalText power.natAbs).length < 2 then text "0" else []) :=
    scalars_ite (scalars_text _) scalars_nil
  rw [Float64.layOut]
  split_ifs <;>
    simp only [scalars_append, scalars_text, scalars_replicate, scalars,
      front, back, first, others, padding, scalars_decimalText,
      scalars_nil, and_self]

theorem scalars_trimmed (value : Nat) :
    Scalars ((decimalText value).reverse.dropWhile
      (· == codePoint '0')).reverse := by
  intro point member
  rw [List.mem_reverse] at member
  exact scalars_decimalText value point
    (List.mem_reverse.mp (List.dropWhile_subset _ member))

theorem scalars_repr (value : Float64) : Scalars value.repr := by
  have sign : Scalars (if value.isNegative then text "-" else []) :=
    scalars_ite (scalars_text _) scalars_nil
  refine scalars_ite (scalars_append.mpr ⟨sign, scalars_text _⟩) ?_
  exact scalars_append.mpr ⟨sign, scalars_layOut (scalars_trimmed _) _⟩

theorem scalars_joinComma
    {texts : List Text} (scalars : ∀ item ∈ texts, Scalars item) :
    Scalars (joinComma texts) := by
  induction texts with
  | nil => exact scalars_nil
  | cons item rest induction =>
      have head := scalars item List.mem_cons_self
      have tail := induction fun other member =>
        scalars other (List.mem_cons_of_mem _ member)
      cases rest with
      | nil => exact head
      | cons next rest =>
          rw [joinComma_cons (by simp), scalars_append, scalars_cons]
          exact ⟨head, by decide, tail⟩

mutual

theorem dumpText_of_writable
    (value : Json) (writable : Writable value) :
    ∃ written, dumpText value = some written ∧ Scalars written := by
  cases value with
  | null => exact ⟨_, rfl, scalars_text _⟩
  | bool value =>
      cases value <;> exact ⟨_, rfl, scalars_text _⟩
  | int value =>
      exact ⟨intText value, if_pos writable, scalars_intText value⟩
  | float value =>
      exact ⟨value.repr, if_pos writable, scalars_repr value⟩
  | str value =>
      exact ⟨stringText value, rfl, scalars_stringText writable⟩
  | arr items =>
      obtain ⟨texts, dumped, scalars⟩ :=
        dumpItems_of_writable items writable
      refine ⟨codePoint '[' :: (joinComma texts ++ [codePoint ']']),
        by simp [dumpText, dumped], ?_⟩
      rw [scalars_cons, scalars_append, scalars_cons]
      exact ⟨by decide, scalars_joinComma scalars, by decide, scalars_nil⟩
  | obj members =>
      obtain ⟨texts, dumped, scalars⟩ :=
        dumpMembers_of_writable members writable
      refine ⟨codePoint '{' ::
        (joinComma ((texts.insertionSort KeyLe).map memberText) ++
          [codePoint '}']), by rw [dumpText, dumped]; rfl, ?_⟩
      rw [scalars_cons, scalars_append, scalars_cons]
      refine ⟨by decide, scalars_joinComma ?_, by decide, scalars_nil⟩
      intro item isItem
      obtain ⟨member, isMember, rfl⟩ := List.mem_map.mp isItem
      obtain ⟨key, value⟩ := scalars member
        ((List.mem_insertionSort KeyLe).mp isMember)
      rw [memberText, scalars_append, scalars_cons]
      exact ⟨scalars_stringText key, by decide, value⟩

theorem dumpItems_of_writable
    (items : List Json) (writable : WritableItems items) :
    ∃ texts, dumpItems items = some texts ∧
      ∀ item ∈ texts, Scalars item := by
  cases items with
  | nil => exact ⟨[], rfl, by simp⟩
  | cons item rest =>
      obtain ⟨head, headDumps, headScalars⟩ :=
        dumpText_of_writable item writable.1
      obtain ⟨tail, tailDumps, tailScalars⟩ :=
        dumpItems_of_writable rest writable.2
      refine ⟨head :: tail, by simp [dumpItems, headDumps, tailDumps], ?_⟩
      rintro other member
      rcases List.mem_cons.mp member with rfl | inTail
      · exact headScalars
      · exact tailScalars other inTail

theorem dumpMembers_of_writable
    (members : List (Text × Json)) (writable : WritableMembers members) :
    ∃ texts, dumpMembers members = some texts ∧
      ∀ member ∈ texts, Scalars member.1 ∧ Scalars member.2 := by
  cases members with
  | nil => exact ⟨[], rfl, by simp⟩
  | cons member rest =>
      cases member with
      | mk key value =>
          obtain ⟨keyScalars, valueWritable, restWritable⟩ := writable
          obtain ⟨head, headDumps, headScalars⟩ :=
            dumpText_of_writable value valueWritable
          obtain ⟨tail, tailDumps, tailScalars⟩ :=
            dumpMembers_of_writable rest restWritable
          refine ⟨(key, head) :: tail,
            by simp [dumpMembers, headDumps, tailDumps], ?_⟩
          rintro other isMember
          rcases List.mem_cons.mp isMember with rfl | inTail
          · exact ⟨keyScalars, headScalars⟩
          · exact tailScalars other inTail

end

/-- A writable value has a canonical document. -/
theorem dumps_of_writable
    {value : Json} (writable : Writable value) :
    ∃ data, dumps value = .ok data := by
  obtain ⟨written, dumped, scalars⟩ := dumpText_of_writable value writable
  obtain ⟨encoded, encodes⟩ := utf8Encode_of_scalars
    (scalars_append.mpr
      ⟨scalars, scalars_cons.mpr ⟨codePoint_scalar '\n', scalars_nil⟩⟩)
  exact ⟨encoded, dumps_eq_ok_iff.mpr ⟨written, dumped, encodes⟩⟩

/-! ### The converse -/

/-- The content address of a writable value without one of its own. -/
theorem objectId_returns
    {value : Json} (noOwn : ownObjectId value = none)
    (writable : Writable value) :
    ∃ blob, objectId value = .ok (objectIdPrefix ++ sha256 blob) := by
  obtain ⟨blob, encoded⟩ := dumps_of_writable writable
  refine ⟨blob, ?_⟩
  rw [objectId, noOwn, encoded]
  rfl

/-- A record without surrogates gets an id. -/
theorem objectId_of_writable
    {members : List (Text × Json)} (writable : WritableMembers members)
    (unnamed : objectIdField ∉ members.map Prod.fst) :
    ∃ id, objectId (.obj members) = .ok id ∧ isObjectId id = true := by
  have own : ownObjectId (.obj members) = none := by
    rw [ownObjectId, Json.lookup_of_not_mem unnamed]
  obtain ⟨blob, computed⟩ := objectId_returns own writable
  exact ⟨_, computed, isObjectId_sha256 blob⟩

/-- A text with a UTF-8 form has no surrogates. -/
theorem scalars_of_utf8Encode
    {value : Text} {encoded : Bytes}
    (encodes : utf8Encode value = some encoded) : Scalars value := by
  induction value generalizing encoded with
  | nil => exact scalars_nil
  | cons point rest induction =>
      simp only [utf8Encode, Option.bind_eq_bind, Option.bind_eq_some_iff,
        Option.pure_def, Option.some.injEq] at encodes
      obtain ⟨head, headEncodes, tail, tailEncodes, rfl⟩ := encodes
      refine scalars_cons.mpr ⟨?_, induction tailEncodes⟩
      cases surrogate : CodePoint.isSurrogate point with
      | false => rfl
      | true =>
          have refused : utf8EncodePoint point = none := by
            simp only [CodePoint.isSurrogate, Bool.and_eq_true,
              decide_eq_true_eq] at surrogate
            rw [utf8EncodePoint, if_neg (by omega), if_neg (by omega),
              if_pos (by simpa [CodePoint.isSurrogate] using surrogate)]
          rw [refused] at headEncodes
          cases headEncodes

theorem scalars_of_stringText
    {value : Text} (scalars : Scalars (stringText value)) :
    Scalars value := by
  rw [stringText, scalars_cons, scalars_append] at scalars
  intro point member
  by_contra surrogate
  have isSurrogate : CodePoint.isSurrogate point = true := by
    simpa using surrogate
  have self : escapePoint point = [point] := by
    simp only [CodePoint.isSurrogate, Bool.and_eq_true,
      decide_eq_true_eq] at isSurrogate
    have differs (char : Char) (small : (codePoint char).val < 0xD800) :
        point ≠ codePoint char := by
      rintro rfl
      omega
    rw [escapePoint, if_neg (differs _ (by decide)),
      if_neg (differs _ (by decide)), if_neg (differs _ (by decide)),
      if_neg (differs _ (by decide)), if_neg (differs _ (by decide)),
      if_neg (by omega), if_neg (by omega), if_neg (by omega)]
  have within : point ∈ value.flatMap escapePoint :=
    List.mem_flatMap.mpr ⟨point, member, by rw [self]; simp⟩
  exact surrogate (scalars.2.1 point within)

theorem scalars_of_joinComma
    {texts : List Text} (scalars : Scalars (joinComma texts)) :
    ∀ item ∈ texts, Scalars item := by
  induction texts with
  | nil => simp
  | cons item rest induction =>
      cases rest with
      | nil => simpa [joinComma] using scalars
      | cons next rest =>
          rw [joinComma_cons (by simp), scalars_append,
            scalars_cons] at scalars
          intro other member
          rcases List.mem_cons.mp member with rfl | later
          · exact scalars.1
          · exact induction scalars.2.2 other later

mutual

theorem writable_of_dumpText
    (value : Json) {written : Text} (dumped : dumpText value = some written)
    (scalars : Scalars written) : Writable value := by
  cases value with
  | null => trivial
  | bool value => trivial
  | int value =>
      rw [dumpText] at dumped
      split_ifs at dumped with short
      exact short
  | float value =>
      rw [dumpText] at dumped
      split_ifs at dumped with finite
      exact finite
  | str value =>
      cases dumped
      exact scalars_of_stringText scalars
  | arr items =>
      simp only [dumpText, Option.bind_eq_bind, Option.bind_eq_some_iff,
        Option.pure_def, Option.some.injEq] at dumped
      obtain ⟨texts, itemsDump, rfl⟩ := dumped
      rw [scalars_cons, scalars_append] at scalars
      exact writableItems_of_dumpItems items itemsDump
        (scalars_of_joinComma scalars.2.1)
  | obj members =>
      simp only [dumpText, Option.bind_eq_bind, Option.bind_eq_some_iff,
        Option.pure_def, Option.some.injEq] at dumped
      obtain ⟨texts, membersDump, rfl⟩ := dumped
      rw [scalars_cons, scalars_append] at scalars
      refine writableMembers_of_dumpMembers members membersDump ?_
      intro member isMember
      have inText := scalars_of_joinComma scalars.2.1
        (memberText member) (List.mem_map_of_mem
          ((List.mem_insertionSort KeyLe).mpr isMember))
      rw [memberText, scalars_append, scalars_cons] at inText
      exact ⟨scalars_of_stringText inText.1, inText.2.2⟩

theorem writableItems_of_dumpItems
    (items : List Json) {texts : List Text}
    (dumped : dumpItems items = some texts)
    (scalars : ∀ item ∈ texts, Scalars item) : WritableItems items := by
  cases items with
  | nil => trivial
  | cons item rest =>
      simp only [dumpItems, Option.bind_eq_bind, Option.bind_eq_some_iff,
        Option.pure_def, Option.some.injEq] at dumped
      obtain ⟨head, headDumps, tail, tailDumps, rfl⟩ := dumped
      exact ⟨writable_of_dumpText item headDumps
          (scalars head List.mem_cons_self),
        writableItems_of_dumpItems rest tailDumps fun other member =>
          scalars other (List.mem_cons_of_mem _ member)⟩

theorem writableMembers_of_dumpMembers
    (members : List (Text × Json)) {texts : List (Text × Text)}
    (dumped : dumpMembers members = some texts)
    (scalars : ∀ member ∈ texts, Scalars member.1 ∧ Scalars member.2) :
    WritableMembers members := by
  cases members with
  | nil => trivial
  | cons member rest =>
      cases member with
      | mk key value =>
          simp only [dumpMembers, Option.bind_eq_bind,
            Option.bind_eq_some_iff, Option.pure_def,
            Option.some.injEq] at dumped
          obtain ⟨head, headDumps, tail, tailDumps, rfl⟩ := dumped
          have first := scalars _ List.mem_cons_self
          exact ⟨first.1, writable_of_dumpText value headDumps first.2,
            writableMembers_of_dumpMembers rest tailDumps
              fun other isMember =>
                scalars other (List.mem_cons_of_mem _ isMember)⟩

end

/-- Only a writable value has a canonical document. -/
theorem writable_of_dumps
    {value : Json} {data : Bytes} (dumped : dumps value = .ok data) :
    Writable value := by
  obtain ⟨document, written, encoded⟩ := dumps_eq_ok_iff.mp dumped
  exact writable_of_dumpText value written
    (scalars_append.mp (scalars_of_utf8Encode encoded)).1

end ScientificResourceLab.Contracts
