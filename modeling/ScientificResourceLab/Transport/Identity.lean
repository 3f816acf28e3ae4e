import ScientificResourceLab.Transport.Spool

/-!
# Checked messages

A message that passed the schema and the identity check is flat: its values
are strings, one zero and one `false`.  So it can always be written, and it is
read back with its members in the order of their keys, which no check of the
spool depends on.
-/

namespace ScientificResourceLab.Transport

open Python Contracts Steps

/-- A message that `receive` and `queue_message` let through. -/
structure Checked (message : Members) (messageId : Text) : Prop where
  distinct : (message.map Prod.fst).Nodup
  accepted : spoolMessageSchema.accepts message = true
  named : Json.lookup (text "message_id") message = some (.str messageId)
  shaped : isObjectId messageId = true
  content : objectId (.obj (withoutMessageId message)) = .ok messageId

/-! ## Reading objects -/

theorem readJsonObject_eq_ok
    {file : Option Bytes} {members : Members}
    (read : readJsonObject file = .ok members) :
    ∃ data, file = some data ∧ loads data = .ok (.obj members) := by
  cases file with
  | none => cases read
  | some data =>
      refine ⟨data, rfl, ?_⟩
      simp only [readJsonObject, bind_eq_ok_iff] at read
      obtain ⟨value, decoded, returned⟩ := read
      cases value with
      | obj found =>
          cases returned
          exact decoded
      | null | bool _ | int _ | float _ | str _ | arr _ => cases returned

theorem readJsonObject_of_loads
    {data : Bytes} {members : Members}
    (decoded : loads data = .ok (.obj members)) :
    readJsonObject (some data) = .ok members := by
  simp only [readJsonObject, decoded]
  rfl

theorem readJsonObject_nodup
    {file : Option Bytes} {members : Members}
    (read : readJsonObject file = .ok members) :
    (members.map Prod.fst).Nodup := by
  obtain ⟨data, -, decoded⟩ := readJsonObject_eq_ok read
  exact loads_obj_nodup decoded

/-! ## Identities -/

theorem validateObjectId_eq_ok
    {value id : Text} :
    validateObjectId value = .ok id ↔
      value = id ∧ isObjectId id = true := by
  rw [validateObjectId]
  split_ifs with shaped
  · constructor
    · rintro ⟨⟩
      exact ⟨rfl, shaped⟩
    · rintro ⟨rfl, -⟩
      rfl
  · constructor
    · rintro ⟨⟩
    · rintro ⟨rfl, isShaped⟩
      exact absurd isShaped shaped

theorem validateIdValue_eq_ok
    {value : Option Json} {id : Text} :
    validateIdValue value = .ok id ↔
      value = some (.str id) ∧ isObjectId id = true := by
  constructor
  · intro valid
    rw [validateIdValue.eq_def] at valid
    split at valid
    · next candidate =>
        obtain ⟨rfl, shaped⟩ := validateObjectId_eq_ok.mp valid
        exact ⟨rfl, shaped⟩
    · cases valid
  · rintro ⟨rfl, shaped⟩
    exact validateObjectId_eq_ok.mpr ⟨rfl, shaped⟩

theorem messageIdFromMapping_eq_ok
    {message : Members} {id : Text} :
    messageIdFromMapping message = .ok id ↔
      Json.lookup (text "message_id") message = some (.str id) ∧
        isObjectId id = true :=
  validateIdValue_eq_ok

theorem messageIdMatchesContent_eq_true
    {message : Members} {id : Text}
    (named : Json.lookup (text "message_id") message = some (.str id)) :
    messageIdMatchesContent message = .ok true ↔
      isObjectId id = true ∧
        objectId (.obj (withoutMessageId message)) = .ok id := by
  simp only [messageIdMatchesContent, named, bind_eq_ok_iff,
    pure_eq_ok_iff, decide_eq_true_eq, validateIdValue_eq_ok,
    Option.some.injEq, Json.str.injEq]
  constructor
  · rintro ⟨_, ⟨rfl, shaped⟩, computed, content, rfl⟩
    exact ⟨shaped, content⟩
  · rintro ⟨shaped, content⟩
    exact ⟨id, ⟨rfl, shaped⟩, id, content, rfl⟩

/-- The guarded part of `receive` returns checked messages. -/
theorem decodeMessage_eq_ok
    {file : Option Bytes} {message : Members} {messageId : Text} :
    decodeMessage file = .ok (message, messageId) ↔
      readJsonObject file = .ok message ∧ Checked message messageId := by
  simp only [decodeMessage, schemaValidate, bind_eq_ok_iff,
    refuseIf_eq_ok_iff, pure_eq_ok_iff, Bool.not_eq_false, Prod.mk.injEq,
    messageIdFromMapping_eq_ok]
  constructor
  · rintro ⟨_, read, _, accepted, _, ⟨named, shaped⟩, _, isContent, _,
      rfl, rfl, rfl⟩
    obtain ⟨-, content⟩ :=
      (messageIdMatchesContent_eq_true named).mp isContent
    exact ⟨read,
      ⟨readJsonObject_nodup read, accepted, named, shaped, content⟩⟩
  · rintro ⟨read, checked⟩
    exact ⟨_, read, ⟨⟩, checked.accepted, _,
      ⟨checked.named, checked.shaped⟩, true,
      (messageIdMatchesContent_eq_true checked.named).mpr
        ⟨checked.shaped, checked.content⟩, ⟨⟩, rfl, rfl, rfl⟩

theorem decodeSignature_eq_ok
    {file : Option Bytes} {signature : Members} :
    decodeSignature file = .ok signature ↔
      readJsonObject file = .ok signature ∧
        validateDetachedSignature signature = .ok ⟨⟩ := by
  simp only [decodeSignature, bind_eq_ok_iff, pure_eq_ok_iff]
  constructor
  · rintro ⟨_, read, ⟨⟩, valid, rfl⟩
    exact ⟨read, valid⟩
  · rintro ⟨read, valid⟩
    exact ⟨signature, read, ⟨⟩, valid, rfl⟩

/-- The name of the file of an object. -/
def filename (objectRef : Text) : Text :=
  objectRef.drop objectIdPrefix.length ++ text ".json"

theorem jsonFilename_eq_ok
    {objectRef name : Text} :
    jsonFilename objectRef = .ok name ↔
      isObjectId objectRef = true ∧ name = filename objectRef := by
  simp only [jsonFilename, bind_eq_ok_iff, pure_eq_ok_iff,
    validateObjectId_eq_ok]
  constructor
  · rintro ⟨_, ⟨rfl, shaped⟩, rfl⟩
    exact ⟨shaped, rfl⟩
  · rintro ⟨shaped, rfl⟩
    exact ⟨objectRef, ⟨rfl, shaped⟩, rfl⟩

/-- Files of different objects have different names. -/
theorem filename_injective
    {left right : Text} (leftShaped : isObjectId left = true)
    (rightShaped : isObjectId right = true)
    (same : filename left = filename right) : left = right := by
  have split {ref : Text} (shaped : isObjectId ref = true) :
      objectIdPrefix ++ ref.drop objectIdPrefix.length = ref := by
    simp only [isObjectId, Bool.and_eq_true] at shaped
    obtain ⟨rest, rfl⟩ := List.isPrefixOf_iff_prefix.mp shaped.1.1
    rw [List.drop_left]
  have digits := List.append_cancel_right same
  rw [← split leftShaped, ← split rightShaped, digits]

theorem isText_eq_true
    {members : Members} {key value : Text} :
    isText members key value = true ↔
      Json.lookup key members = some (.str value) := by
  rw [isText]
  split
  · next found isFound => simp [isFound]
  · next other =>
      simp only [Bool.false_eq_true, false_iff]
      exact other value

/-! ## Flat values -/

theorem flat_of_accepts
    {property : PropertySchema} {value : Json}
    (accepts : property.accepts value = true) : Flat value := by
  cases value with
  | null | bool _ | int _ | float _ | str _ => exact ⟨rfl, trivial⟩
  | arr _ | obj _ => cases property <;> cases accepts

theorem accepts_eq_true_iff
    {schema : ObjectSchema} {members : Members} :
    schema.accepts members = true ↔
      (∀ key ∈ members.map Prod.fst,
        key ∈ schema.properties.map Prod.fst) ∧
      ∀ property ∈ schema.properties, ∃ value,
        Json.lookup property.1 members = some value ∧
          property.2.accepts value = true := by
  simp only [ObjectSchema.accepts, Bool.and_eq_true, List.all_eq_true,
    List.contains_iff_mem, List.forall_mem_map]
  refine and_congr_right fun _ => forall₂_congr fun property _ => ?_
  cases Json.lookup property.1 members <;> simp

/-- Every value of an accepted dict was checked by a property. -/
theorem accepts_member
    {schema : ObjectSchema} {members : Members}
    (distinct : (members.map Prod.fst).Nodup)
    (accepted : schema.accepts members = true)
    {member : Text × Json} (isMember : member ∈ members) :
    ∃ property ∈ schema.properties,
      property.1 = member.1 ∧ property.2.accepts member.2 = true := by
  obtain ⟨keys, properties⟩ := accepts_eq_true_iff.mp accepted
  obtain ⟨property, isProperty, sameKey⟩ :=
    List.mem_map.mp (keys member.1 (List.mem_map_of_mem isMember))
  obtain ⟨value, lookup, checked⟩ := properties property isProperty
  have found : Json.lookup property.1 members = some member.2 := by
    rw [Json.lookup_eq_some_iff distinct, sameKey]
    exact isMember
  rw [found, Option.some.injEq] at lookup
  subst lookup
  exact ⟨property, isProperty, sameKey, checked⟩

/-- A written flat dict is read back in the order of its keys. -/
theorem readJsonObject_dumps
    {members : Members} (distinct : (members.map Prod.fst).Nodup)
    (flat : ∀ member ∈ members, Flat member.2) {data : Bytes}
    (dumped : dumps (.obj members) = .ok data) :
    readJsonObject (some data) =
      .ok (members.insertionSort KeyLe) := by
  refine readJsonObject_of_loads ?_
  rw [← sorted_of_flat flat]
  exact loads_dumps_sorted (distinct_of_flat distinct flat) dumped

theorem objectId_perm
    {left right : Members} (same : left.Perm right)
    (distinct : (left.map Prod.fst).Nodup) :
    objectId (.obj left) = objectId (.obj right) := by
  rw [objectId, objectId, ownObjectId, ownObjectId,
    Json.lookup_perm same distinct, dumps_perm same distinct]

theorem accepts_perm
    {schema : ObjectSchema} {left right : Members}
    (same : left.Perm right) (distinct : (left.map Prod.fst).Nodup) :
    schema.accepts left = schema.accepts right := by
  simp only [ObjectSchema.accepts, Json.lookup_perm same distinct]
  congr 1
  rw [Bool.eq_iff_iff]
  simp only [List.all_eq_true, same.mem_iff]

namespace Checked

variable {message : Members} {messageId : Text}

theorem flat (checked : Checked message messageId) :
    ∀ member ∈ message, Flat member.2 := by
  intro member isMember
  obtain ⟨property, -, -, accepts⟩ :=
    accepts_member checked.distinct checked.accepted isMember
  exact flat_of_accepts accepts

/-- The id was computed, so the message can be encoded. -/
theorem writable (checked : Checked message messageId) :
    WritableMembers message := by
  have content := checked.content
  rw [objectId] at content
  split at content
  · cases content
  · simp only [bind_eq_ok_iff] at content
    obtain ⟨data, dumped, -⟩ := content
    have others : WritableMembers (withoutMessageId message) :=
      writable_of_dumps dumped
    rw [writableMembers_iff] at others ⊢
    intro member isMember
    by_cases isId : member.1 = text "message_id"
    · have found : Json.lookup (text "message_id") message =
          some member.2 := by
        rw [Json.lookup_eq_some_iff checked.distinct, ← isId]
        exact isMember
      rw [checked.named, Option.some.injEq] at found
      rw [isId, ← found]
      exact ⟨scalars_text _, scalars_of_isObjectId checked.shaped⟩
    · refine others member (List.mem_filter.mpr ⟨isMember, ?_⟩)
      simpa using isId

theorem encodes (checked : Checked message messageId) :
    ∃ data, dumps (.obj message) = .ok data :=
  dumps_of_writable checked.writable

/-- The order of the members does not matter to the checks. -/
theorem perm
    {other : Members} (checked : Checked message messageId)
    (same : message.Perm other) : Checked other messageId where
  distinct := (same.map Prod.fst).nodup_iff.mp checked.distinct
  accepted := by
    rw [← accepts_perm same checked.distinct]
    exact checked.accepted
  named := by
    rw [← Json.lookup_perm same checked.distinct]
    exact checked.named
  shaped := checked.shaped
  content := by
    have distinct : ((withoutMessageId message).map Prod.fst).Nodup :=
      (List.filter_sublist.map Prod.fst).nodup checked.distinct
    have sameRest :
        (withoutMessageId message).Perm (withoutMessageId other) :=
      same.filter _
    rw [← objectId_perm sameRest distinct]
    exact checked.content

/-- A written message is read back as a checked message. -/
theorem read_dumps
    (checked : Checked message messageId) {data : Bytes}
    (dumped : dumps (.obj message) = .ok data) :
    readJsonObject (some data) = .ok (message.insertionSort KeyLe) ∧
      Checked (message.insertionSort KeyLe) messageId :=
  ⟨readJsonObject_dumps checked.distinct checked.flat dumped,
    checked.perm (List.perm_insertionSort KeyLe message).symm⟩

end Checked

end ScientificResourceLab.Transport
