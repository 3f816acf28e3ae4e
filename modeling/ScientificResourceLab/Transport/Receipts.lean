import ScientificResourceLab.Transport.Verdicts

/-!
# Receipts are always written

The records that the spool writes consist of object ids, of a normalised
timestamp, of literals, of a message that was encoded before and of the text
of an exception.  None of these is refused by the encoder, so every exit of
`receive` makes its writes: `perform` is the tree of these writes.
-/

namespace ScientificResourceLab.Transport

open Python Contracts Steps
open Steps.Program (observe inspect update compute Safe)

/-! ## Programs of one write -/

/-- The program that makes one write and returns a value. -/
def writing {α : Type} (action : State → State) (value : α) : Action α :=
  .write action fun _ => .ret value

theorem atomicWriteJson_eq
    {put : State → Text → Bytes → State} {objectRef : Text}
    {payload : Members} {data : Bytes}
    (shaped : isObjectId objectRef = true)
    (dumped : dumps (.obj payload) = .ok data) :
    atomicWriteJson put objectRef payload =
      writing (fun state => put state (filename objectRef) data) ⟨⟩ := by
  have name : jsonFilename objectRef = .ok (filename objectRef) :=
    jsonFilename_eq_ok.mpr ⟨shaped, rfl⟩
  rw [atomicWriteJson, name, dumped]
  rfl

/-! ## Acknowledgements -/

/-- The members of an acknowledgement. -/
def ackMembers (ackId messageId : Text) (status : AckStatus)
    (created : Text) : Members :=
  [(text "ack_id", .str ackId),
    (text "schema_version", .str (text "SpoolAck/v1")),
    (text "message_id", .str messageId),
    (text "ack_status", .str status.value),
    (text "created_utc", .str created),
    (text "canonical_writes", .int 0),
    (text "grants_authority", .bool false)]

theorem matchesObjectIdPattern_of_isObjectId
    {id : Text} (shaped : isObjectId id = true) :
    matchesObjectIdPattern id = true := by
  rw [matchesObjectIdPattern, shaped, Bool.true_or]

theorem ackMembers_accepted
    {ackId messageId created : Text} (status : AckStatus)
    (ackShaped : isObjectId ackId = true)
    (shaped : isObjectId messageId = true)
    (pattern : matchesTimestampPattern created = true) :
    spoolAckSchema.accepts (ackMembers ackId messageId status created) =
      true := by
  rw [accepts_eq_true_iff]
  constructor
  · simp only [spoolAckSchema, ackMembers, List.map_cons, List.map_nil]
    simp -index only [text_ofList]
    decide
  · have known : (PropertySchema.enum [text "ACKNOWLEDGED",
        text "DUPLICATE", text "REJECTED", text "EXPIRED",
        text "QUARANTINED"]).accepts (.str status.value) = true := by
      cases status <;> rfl
    simp only [spoolAckSchema, List.forall_mem_cons]
    exact ⟨⟨_, rfl, rfl⟩,
      ⟨_, rfl, matchesObjectIdPattern_of_isObjectId ackShaped⟩,
      ⟨_, rfl, matchesObjectIdPattern_of_isObjectId shaped⟩,
      ⟨_, rfl, known⟩, ⟨_, rfl, pattern⟩, ⟨_, rfl, rfl⟩, ⟨_, rfl, rfl⟩,
      by simp⟩

/-- A written acknowledgement is read back with its status. -/
theorem readJsonObject_ack
    {ackId messageId created : Text} {status : AckStatus} {data : Bytes}
    (dumped : dumps (.obj (ackMembers ackId messageId status created)) =
      .ok data) :
    ∃ ack, readJsonObject (some data) = .ok ack ∧
      isText ack (text "ack_status") status.value = true := by
  have distinct : ((ackMembers ackId messageId status created).map
      Prod.fst).Nodup := by
    simp only [ackMembers, List.map_cons, List.map_nil]
    simp -index only [text_ofList]
    decide
  refine ⟨_, readJsonObject_dumps distinct ?_ dumped, ?_⟩
  · simp only [ackMembers, List.forall_mem_cons]
    exact ⟨⟨rfl, trivial⟩, ⟨rfl, trivial⟩, ⟨rfl, trivial⟩,
      ⟨rfl, trivial⟩, ⟨rfl, trivial⟩, ⟨rfl, trivial⟩, ⟨rfl, trivial⟩,
      by simp⟩
  · rw [isText_eq_true, ← Json.lookup_perm
      (List.perm_insertionSort KeyLe _).symm distinct]
    rfl

/-- `_build_ack` returns for every object id and timestamp. -/
theorem buildAck_eq
    {messageId createdUtc created : Text} (status : AckStatus)
    (shaped : isObjectId messageId = true)
    (normalized : normalizeTimestamp createdUtc = .ok created) :
    ∃ ackId data,
      buildAck messageId status createdUtc =
        .ok (ackMembers ackId messageId status created) ∧
      dumps (.obj (ackMembers ackId messageId status created)) =
        .ok data := by
  obtain ⟨pattern, scalars⟩ := normalizeTimestamp_shape normalized
  have valid : validateObjectId messageId = .ok messageId :=
    validateObjectId_eq_ok.mpr ⟨rfl, shaped⟩
  have statusScalars : Scalars status.value := by
    cases status <;> exact scalars_text _
  have writable : WritableMembers
      (ackMembers [] messageId status created).tail := by
    simp only [ackMembers, List.tail_cons, WritableMembers, Writable,
      scalars_text, scalars_of_isObjectId shaped, statusScalars, scalars,
      true_and, and_true]
    exact writable_zero
  have unnamed : objectIdField ∉
      [text "schema_version", text "message_id", text "ack_status",
        text "created_utc", text "canonical_writes",
        text "grants_authority"] := by
          simp -index only [text_ofList]
          decide
  obtain ⟨ackId, computed, ackShaped⟩ :=
    objectId_of_writable writable unnamed
  obtain ⟨data, dumped⟩ : ∃ data,
      dumps (.obj (ackMembers ackId messageId status created)) =
        .ok data :=
    dumps_of_writable
      ⟨scalars_text _, scalars_of_isObjectId ackShaped, writable⟩
  have accepted := ackMembers_accepted status ackShaped shaped pattern
  refine ⟨ackId, data, ?_, dumped⟩
  simp only [buildAck, valid, normalized, bind, Except.bind]
  change identified _ _ (ackMembers [] messageId status created).tail = _
  simp only [identified, computed, schemaValidate, bind_eq_ok_iff,
    refuseIf_eq_ok_iff, pure_eq_ok_iff, Except.ok.injEq, exists_eq_left']
  refine ⟨⟨⟩, ?_, rfl⟩
  change ¬ spoolAckSchema.accepts
    (ackMembers ackId messageId status created) = false
  rw [accepted]
  exact Bool.noConfusion

/-- The members of an acknowledgement that `_build_ack` returned. -/
theorem ackMembers_of_buildAck
    {messageId createdUtc : Text} {status : AckStatus} {ack : Members}
    (built : buildAck messageId status createdUtc = .ok ack) :
    ∃ ackId created, ack = ackMembers ackId messageId status created := by
  obtain ⟨shaped, created, normalized⟩ : isObjectId messageId = true ∧
      ∃ created, normalizeTimestamp createdUtc = .ok created := by
    simp only [buildAck, bind_eq_ok_iff] at built
    obtain ⟨_, valid, created, normalized, -⟩ := built
    obtain ⟨rfl, shaped⟩ := validateObjectId_eq_ok.mp valid
    exact ⟨shaped, created, normalized⟩
  obtain ⟨ackId, data, isAck, -⟩ := buildAck_eq status shaped normalized
  rw [built, Except.ok.injEq] at isAck
  exact ⟨ackId, created, isAck⟩

theorem writeAck_eq
    {messageId createdUtc created : Text} (status : AckStatus)
    (shaped : isObjectId messageId = true)
    (normalized : normalizeTimestamp createdUtc = .ok created) :
    ∃ ackId data,
      dumps (.obj (ackMembers ackId messageId status created)) =
        .ok data ∧
      writeAck messageId status createdUtc =
        writing (fun state => state.putAck (filename messageId) data)
          (ackMembers ackId messageId status created) := by
  obtain ⟨ackId, data, built, dumped⟩ :=
    buildAck_eq status shaped normalized
  refine ⟨ackId, data, dumped, ?_⟩
  rw [writeAck, built]
  change atomicWriteJson State.putAck messageId _ >>= _ = _
  rw [atomicWriteJson_eq shaped dumped]
  rfl

/-! ## The texts of exceptions -/

/-- Every error has a text without surrogates. -/
def Printable {α : Type} (result : Except PyError α) : Prop :=
  ∀ error, result = .error error → Scalars error.message

section

variable {α β : Type}

theorem printable_ok (value : α) :
    Printable (.ok value : Except PyError α) := by
  rintro error ⟨⟩

theorem printable_error
    {error : PyError} (scalars : Scalars error.message) :
    Printable (.error error : Except PyError α) := by
  rintro _ ⟨⟩
  exact scalars

theorem printable_bind
    {first : Except PyError α} {rest : α → Except PyError β}
    (inFirst : Printable first) (inRest : ∀ value, Printable (rest value)) :
    Printable (first >>= rest) := by
  cases first with
  | error error => exact printable_error (inFirst error rfl)
  | ok value => exact inRest value

theorem printable_refuseIf
    {condition : Prop} [Decidable condition] {error : PyError}
    (scalars : Scalars error.message) :
    Printable (refuseIf condition error) := by
  rw [refuseIf]
  split_ifs
  · exact printable_error scalars
  · exact printable_ok _

end

theorem printable_dumps (value : Json) : Printable (dumps value) := by
  rw [dumps]
  split
  · exact printable_error (scalars_text _)
  · split
    · exact printable_error (scalars_text _)
    · exact printable_ok _

theorem printable_objectId (value : Json) : Printable (objectId value) := by
  rw [objectId]
  split
  · refine printable_error ?_
    simp only [scalars_append, scalars_text, scalars_quoted, and_self]
  · exact printable_bind (printable_dumps _) fun _ => printable_ok _

theorem printable_readJsonObject (file : Option Bytes) :
    Printable (readJsonObject file) := by
  cases file with
  | none => exact printable_error (scalars_text _)
  | some data =>
      refine printable_bind ?_ fun value => ?_
      · rw [loads]
        split
        · exact printable_error (scalars_text _)
        · rw [loadsText]
          split
          · exact printable_ok _
          all_goals exact printable_error (scalars_text _)
      · cases value with
        | obj members => exact printable_ok _
        | null | bool _ | int _ | float _ | str _ | arr _ =>
            exact printable_error (scalars_text _)

theorem printable_validateIdValue (value : Option Json) :
    Printable (validateIdValue value) := by
  rw [validateIdValue.eq_def]
  split
  · rw [validateObjectId]
    split_ifs
    · exact printable_ok _
    · refine printable_error ?_
      simp only [scalars_append, scalars_text, scalars_quoted, and_self]
  · refine printable_error (scalars_append.mpr ⟨scalars_text _, ?_⟩)
    generalize Option.getD _ _ = shown
    cases shown <;> exact scalars_text _

theorem printable_decodeMessage (file : Option Bytes) :
    Printable (decodeMessage file) := by
  refine printable_bind (printable_readJsonObject file) fun message => ?_
  refine printable_bind (printable_refuseIf ?_) fun _ => ?_
  · exact scalars_append.mpr ⟨scalars_text _, scalars_quoted _⟩
  refine printable_bind (printable_validateIdValue _) fun messageId => ?_
  refine printable_bind ?_ fun isContent => ?_
  · rw [messageIdMatchesContent]
    split
    · exact printable_ok _
    · exact printable_bind (printable_validateIdValue _) fun _ =>
        printable_bind (printable_objectId _) fun _ => printable_ok _
  exact printable_bind (printable_refuseIf (scalars_text _)) fun _ =>
    printable_ok _

theorem printable_sequenceFromSignature (signature : Members) :
    Printable (sequenceFromSignature signature) := by
  rw [sequenceFromSignature]
  split
  · split_ifs
    · exact printable_error (scalars_text _)
    · exact printable_ok _
  · exact printable_error (scalars_text _)

theorem printable_previousRefFromSignature (signature : Members) :
    Printable (previousRefFromSignature signature) := by
  rw [previousRefFromSignature]
  split
  · exact printable_ok _
  · exact printable_ok _
  · exact printable_bind (printable_validateIdValue _) fun _ =>
      printable_ok _

theorem printable_decodeSignature (file : Option Bytes) :
    Printable (decodeSignature file) := by
  refine printable_bind (printable_readJsonObject file) fun signature => ?_
  have literal {condition : Prop} [Decidable condition]
      (kind : ErrorKind) (message : String) :
      Printable (refuseIf condition (raised kind message)) :=
    printable_refuseIf (scalars_text _)
  have nonEmpty (key : String) :
      Printable (requireNonEmpty signature (text key)) :=
    printable_refuseIf
      (scalars_append.mpr ⟨scalars_text _, scalars_text _⟩)
  refine printable_bind ?_ fun _ => printable_ok _
  exact printable_bind (literal _ _) fun _ =>
    printable_bind (literal _ _) fun _ =>
    printable_bind (nonEmpty _) fun _ =>
    printable_bind (nonEmpty _) fun _ =>
    printable_bind (printable_validateIdValue _) fun _ =>
    printable_bind (printable_sequenceFromSignature _) fun _ =>
    printable_bind (printable_previousRefFromSignature _) fun _ =>
    literal _ _

/-! ## The writes of the exits -/

theorem run_receive
    {state : State} {file : Option Bytes} {verifier : Verifier}
    {nowUtc : Text} {ttlSeconds : Int} {exit : Verdict}
    (chosen : state.verdict file verifier nowUtc ttlSeconds = .ok exit) :
    (receive file verifier nowUtc ttlSeconds).run state =
      (perform file nowUtc exit).run state :=
  Program.run_inspect_bind
    (fun start : State => start.verdict file verifier nowUtc ttlSeconds)
    chosen

theorem crash_receive
    {state : State} {file : Option Bytes} {verifier : Verifier}
    {nowUtc : Text} {ttlSeconds : Int} {exit : Verdict}
    (chosen : state.verdict file verifier nowUtc ttlSeconds = .ok exit)
    (writes : Nat) :
    (receive file verifier nowUtc ttlSeconds).crash writes state =
      (perform file nowUtc exit).crash writes state :=
  Program.crash_inspect_bind
    (fun start : State => start.verdict file verifier nowUtc ttlSeconds)
    chosen writes

/-- `queue_message` writes the message and then its signature. -/
theorem run_queueMessage
    {state : State} {signer : Signer} {message : Dict}
    {sequence : Option Int} {previousSignatureRef : Option Text}
    {messageId : Text} {prior : Int × Option Text}
    {signature : DetachedSignature} {data : Bytes}
    (checked : Checked message.members messageId)
    (isPrior : state.prior previousSignatureRef = .ok prior)
    (signed : signer message.members (sequence.getD (prior.1 + 1))
      prior.2 = .ok signature)
    (written : dumps (.obj signature.toDict) = .ok data) :
    ∃ encoded, ((queueMessage signer message sequence
        previousSignatureRef).run state).2 =
      (state.putQueued (filename messageId) encoded).putSignature
        message.members (filename messageId) data := by
  have accepted : schemaValidate spoolMessageSchema message.members =
      .ok ⟨⟩ := by
    rw [schemaValidate, refuseIf_eq_ok_iff, checked.accepted]
    exact Bool.noConfusion
  have content : messageIdMatchesContent message.members = .ok true :=
    (messageIdMatchesContent_eq_true checked.named).mpr
      ⟨checked.shaped, checked.content⟩
  have named : messageIdFromMapping message.members = .ok messageId :=
    messageIdFromMapping_eq_ok.mpr ⟨checked.named, checked.shaped⟩
  obtain ⟨encoded, dumped⟩ := checked.encodes
  refine ⟨encoded, ?_⟩
  rw [queueMessage, accepted, content, named]
  change (Program.run (inspect (fun start : State =>
    start.prior previousSignatureRef) >>= _) state).2 = _
  rw [Program.run_inspect_bind (fun start : State =>
    start.prior previousSignatureRef) isPrior]
  simp only [signed, Program.compute_ok_bind,
    atomicWriteJson_eq checked.shaped dumped,
    atomicWriteJson_eq checked.shaped written]
  rfl

theorem quarantineRaw_eq
    (file : Option Bytes) {reason : Text} (scalars : Scalars reason) :
    ∃ data, quarantineRaw file reason =
      writing (fun state =>
        state.putQuarantine (filename (fileRef (file.getD []))) data)
        ⟨⟩ := by
  have shaped := isObjectId_sha256 (file.getD [])
  have writable : WritableMembers
      (rawQuarantineRecord (fileRef (file.getD [])) reason) := by
    simp only [rawQuarantineRecord, WritableMembers, Writable,
      scalars_text, scalars, and_true, true_and, fileRef]
    exact ⟨scalars_of_isObjectId shaped, scalars_of_isObjectId shaped⟩
  obtain ⟨data, dumped⟩ : ∃ data, dumps (.obj
      (rawQuarantineRecord (fileRef (file.getD [])) reason)) =
        .ok data :=
    dumps_of_writable writable
  exact ⟨data, atomicWriteJson_eq shaped dumped⟩

theorem quarantineMessage_eq
    {message : Members} {messageId reason : Text}
    (checked : Checked message messageId) (scalars : Scalars reason) :
    ∃ data, quarantineMessage message reason =
      writing (fun state =>
        state.putQuarantine (filename messageId) data) ⟨⟩ := by
  have writable : WritableMembers
      (quarantineRecord messageId reason message) := by
    simp only [quarantineRecord, WritableMembers, Writable, scalars_text,
      scalars, and_true, true_and, checked.writable]
    exact scalars_of_isObjectId checked.shaped
  obtain ⟨data, dumped⟩ : ∃ data, dumps (.obj
      (quarantineRecord messageId reason message)) = .ok data :=
    dumps_of_writable writable
  have named : messageIdFromMapping message = .ok messageId :=
    messageIdFromMapping_eq_ok.mpr ⟨checked.named, checked.shaped⟩
  refine ⟨data, ?_⟩
  rw [quarantineMessage, named]
  exact atomicWriteJson_eq checked.shaped dumped

/-! ## Built messages -/

/-- The members of a built message. -/
def messageMembers
    (messageId idempotency sourceCell targetCell payloadRef classification
      created : Text) : Members :=
  [(text "message_id", .str messageId),
    (text "schema_version", .str (text "SpoolMessage/v1")),
    (text "idempotency_key", .str idempotency),
    (text "source_cell", .str sourceCell),
    (text "target_cell", .str targetCell),
    (text "payload_ref", .str payloadRef),
    (text "classification", .str classification),
    (text "created_utc", .str created),
    (text "canonical_writes", .int 0),
    (text "grants_authority", .bool false)]

section

variable {sourceCell targetCell payloadRef classification : Text}

theorem messageMembers_accepted
    {messageId idempotency created : Text}
    (named : isObjectId messageId = true)
    (keyed : isObjectId idempotency = true)
    (fromCell : sourceCell ≠ []) (toCell : targetCell ≠ [])
    (shaped : isObjectId payloadRef = true)
    (known : classification ∈ [text "D0", text "D1"])
    (pattern : matchesTimestampPattern created = true) :
    spoolMessageSchema.accepts (messageMembers messageId idempotency
      sourceCell targetCell payloadRef classification created) = true := by
  rw [accepts_eq_true_iff]
  constructor
  · simp only [spoolMessageSchema, messageMembers, List.map_cons,
      List.map_nil]
    simp -index only [text_ofList]
    decide
  · simp only [spoolMessageSchema, List.forall_mem_cons]
    exact ⟨⟨_, rfl, rfl⟩,
      ⟨_, rfl, matchesObjectIdPattern_of_isObjectId named⟩,
      ⟨_, rfl, matchesObjectIdPattern_of_isObjectId keyed⟩,
      ⟨_, rfl, decide_eq_true fromCell⟩, ⟨_, rfl, decide_eq_true toCell⟩,
      ⟨_, rfl, matchesObjectIdPattern_of_isObjectId shaped⟩,
      ⟨_, rfl, List.contains_iff_mem.mpr known⟩, ⟨_, rfl, pattern⟩,
      ⟨_, rfl, rfl⟩, ⟨_, rfl, rfl⟩, by simp⟩

theorem withoutMessageId_cons
    {value : Json} {rest : Members}
    (absent : text "message_id" ∉ rest.map Prod.fst) :
    withoutMessageId ((text "message_id", value) :: rest) = rest := by
  rw [withoutMessageId, List.filter_cons_of_neg (by simp),
    List.filter_eq_self]
  intro member isMember
  rw [decide_eq_true_iff]
  intro isId
  exact absent (isId ▸ List.mem_map_of_mem isMember)

theorem messageMembers_checked
    {messageId idempotency created : Text}
    (isId : objectId (.obj (messageMembers [] idempotency sourceCell
      targetCell payloadRef classification created).tail) = .ok messageId)
    (named : isObjectId messageId = true)
    (accepted : spoolMessageSchema.accepts (messageMembers messageId
      idempotency sourceCell targetCell payloadRef classification
      created) = true) :
    Checked (messageMembers messageId idempotency sourceCell targetCell
      payloadRef classification created) messageId := by
  have distinct : [text "message_id", text "schema_version",
      text "idempotency_key", text "source_cell", text "target_cell",
      text "payload_ref", text "classification", text "created_utc",
      text "canonical_writes", text "grants_authority"].Nodup := by
    simp -index only [text_ofList]
    decide
  refine ⟨distinct, accepted, rfl, named, ?_⟩
  rw [messageMembers, withoutMessageId_cons]
  · exact isId
  · exact (List.nodup_cons.mp distinct).1

/-- `build_spool_message` returns a message that passes every check. -/
theorem buildSpoolMessage_eq
    {createdUtc created : Text}
    (fromCell : sourceCell ≠ []) (fromScalars : Scalars sourceCell)
    (toCell : targetCell ≠ []) (toScalars : Scalars targetCell)
    (shaped : isObjectId payloadRef = true)
    (known : classification ∈ [text "D0", text "D1"])
    (normalized : normalizeTimestamp createdUtc = .ok created) :
    ∃ messageId idempotency,
      buildSpoolMessage sourceCell targetCell payloadRef classification
          createdUtc none =
        .ok (messageMembers messageId idempotency sourceCell targetCell
          payloadRef classification created) ∧
      Checked (messageMembers messageId idempotency sourceCell targetCell
        payloadRef classification created) messageId := by
  obtain ⟨pattern, createdScalars⟩ := normalizeTimestamp_shape normalized
  have knownScalars : Scalars classification := by
    simp only [List.mem_cons, List.not_mem_nil, or_false] at known
    rcases known with rfl | rfl <;> exact scalars_text _
  have payloadScalars := scalars_of_isObjectId shaped
  obtain ⟨idempotency, isKey, keyed⟩ : ∃ id,
      idempotencyKeyOr none sourceCell targetCell payloadRef
        classification = .ok id ∧ isObjectId id = true := by
    change ∃ id, objectId (.obj
      [(text "schema_version", .str (text "SpoolIdempotencyKey/v1")),
        (text "source_cell", .str sourceCell),
        (text "target_cell", .str targetCell),
        (text "payload_ref", .str payloadRef),
        (text "classification", .str classification)]) = .ok id ∧ _
    refine objectId_of_writable ?_ ?_
    · simp only [WritableMembers, Writable, scalars_text, fromScalars,
        toScalars, payloadScalars, knownScalars, and_self]
    · simp only [List.map_cons, List.map_nil]
      simp -index only [objectIdField, text_ofList]
      decide
  obtain ⟨messageId, isId, named⟩ : ∃ id, objectId (.obj
      (messageMembers [] idempotency sourceCell targetCell payloadRef
        classification created).tail) = .ok id ∧ isObjectId id = true := by
    refine objectId_of_writable ?_ ?_
    · simp only [messageMembers, List.tail_cons, WritableMembers, Writable,
        scalars_text, fromScalars, toScalars, payloadScalars, knownScalars,
        createdScalars, scalars_of_isObjectId keyed, true_and, and_true]
      exact writable_zero
    · simp only [messageMembers, List.tail_cons, List.map_cons,
        List.map_nil]
      simp -index only [objectIdField, text_ofList]
      decide
  have accepted := messageMembers_accepted named keyed fromCell toCell
    shaped known pattern
  refine ⟨messageId, idempotency, ?_,
    messageMembers_checked isId named accepted⟩
  have validPayload : validateObjectId payloadRef = .ok payloadRef :=
    validateObjectId_eq_ok.mpr ⟨rfl, shaped⟩
  have validKey : validateObjectId idempotency = .ok idempotency :=
    validateObjectId_eq_ok.mpr ⟨rfl, keyed⟩
  rw [buildSpoolMessage, validPayload]
  simp only [bind_eq_ok_iff, Except.ok.injEq, exists_eq_left',
    refuseIf_eq_ok_iff, not_not, normalized, isKey, validKey]
  refine ⟨⟨⟩, known, ⟨⟩, fromCell, ⟨⟩, toCell, ?_⟩
  change identified _ _ (messageMembers [] idempotency sourceCell
    targetCell payloadRef classification created).tail = _
  simp only [identified, isId, schemaValidate, bind_eq_ok_iff,
    refuseIf_eq_ok_iff, pure_eq_ok_iff, Except.ok.injEq,
    exists_eq_left']
  refine ⟨⟨⟩, ?_, rfl⟩
  change ¬ spoolMessageSchema.accepts (messageMembers messageId
    idempotency sourceCell targetCell payloadRef classification
    created) = false
  rw [accepted]
  exact Bool.noConfusion

end

end ScientificResourceLab.Transport
