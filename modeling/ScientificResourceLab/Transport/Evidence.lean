import ScientificResourceLab.Transport.Reconciliation

/-!
# The files of a spool account for its acknowledgements

`receive` writes what happened to a message before it acknowledges it, so a
crash between the two leaves a record without an acknowledgement and never
the other way round.  `Accounted` says this of a spool, together with what
`replay` needs: every file of every directory is that of an object id which
can be read out of it.
-/

namespace ScientificResourceLab.Transport

open Python Contracts Steps
open Steps.Program (observe inspect update compute Safe)

/-! ## Dead letters and replay -/

/-- `dead_letter`, and the record that it returns. -/
def deadLetter (message : Dict) (reason createdUtc : Text) :
    Action Members :=
  deadLetterMessage message.members reason createdUtc

/-- `SpoolState`. -/
inductive SpoolState where
  | queued
  | inFlight
  | acknowledged
  | importedAsC3
  | rejected
  | expired
  | duplicate
  | quarantined
  | deadLettered
  deriving DecidableEq, Repr

def SpoolState.value : SpoolState → Text
  | .queued => text "queued"
  | .inFlight => text "in-flight"
  | .acknowledged => text "acknowledged"
  | .importedAsC3 => text "imported-as-c3"
  | .rejected => text "rejected"
  | .expired => text "expired"
  | .duplicate => text "duplicate"
  | .quarantined => text "quarantined"
  | .deadLettered => text "dead-lettered"

/-- `_directory_for_state`. -/
def State.directoryForState (state : State) :
    SpoolState → Except PyError (Directory Text Bytes)
  | .queued => .ok state.queued
  | .acknowledged => .ok state.acks
  | .importedAsC3 => .ok state.imported
  | .quarantined => .ok state.quarantine
  | .deadLettered => .ok state.dlq
  | other => .error ⟨.spoolError, text "state " ++ quoted other.value ++
      text " has no replay directory"⟩

/-- `ReplayItem`; the state is that of the replay. -/
structure ReplayItem where
  messageId : Text
  name : Text
  payload : Members

/-- One file in `replay`. -/
def replayItem (file : Text × Bytes) : Except PyError ReplayItem := do
  let payload ← readJsonObject (some file.2)
  let messageId ← messageIdForReplay payload
  pure { messageId, name := file.1, payload }

/-- `replay`. -/
def State.replay (state : State) (spoolState : SpoolState) :
    Except PyError (List ReplayItem) := do
  let directory ← state.directoryForState spoolState
  let items ← (sortedFiles directory).mapM replayItem
  pure (items.insertionSort fun left right =>
    left.messageId ≤ right.messageId)

/-! ## Files that can be replayed -/

/-- The file of an object whose id can be read out of it. -/
structure FileOf (messageId name : Text) (data : Bytes) : Prop where
  shaped : isObjectId messageId = true
  named : name = filename messageId
  replayed : ∃ payload, readJsonObject (some data) = .ok payload ∧
    messageIdForReplay payload = .ok messageId

/-- Every file of a directory is the file of an object. -/
def Named (directory : Directory Text Bytes) : Prop :=
  ∀ name data, directory.lookup name = some data →
    ∃ messageId, FileOf messageId name data

theorem Named.insert
    {directory : Directory Text Bytes} (named : Named directory)
    {messageId name : Text} {data : Bytes}
    (file : FileOf messageId name data) :
    Named (directory.insert name data) := by
  intro other stored found
  rcases Directory.lookup_insert_eq_some.mp found with
    ⟨rfl, rfl⟩ | ⟨-, kept⟩
  · exact ⟨messageId, file⟩
  · exact named other stored kept

/-- A written record with a message id is the file of that id. -/
theorem fileOf_dumps
    {members : Members} (distinct : (Json.obj members).Distinct)
    {messageId : Text} (shaped : isObjectId messageId = true)
    (isId : Json.lookup (text "message_id") members =
      some (.str messageId))
    {data : Bytes} (dumped : dumps (.obj members) = .ok data) :
    FileOf messageId (filename messageId) data := by
  refine ⟨shaped, rfl, (sortedMembers members).insertionSort KeyLe,
    readJsonObject_of_loads (loads_dumps_sorted distinct dumped), ?_⟩
  have keys : ((sortedMembers members).map Prod.fst).Nodup := by
    rw [sortedMembers_keys]
    exact distinct.2
  have found : Json.lookup (text "message_id")
      ((sortedMembers members).insertionSort KeyLe) =
        some (.str messageId) := by
    rw [← Json.lookup_perm (List.perm_insertionSort KeyLe _).symm keys,
      lookup_sortedMembers, isId]
    rfl
  simp only [messageIdForReplay, found]
  exact validateObjectId_eq_ok.mpr ⟨rfl, shaped⟩

/-- A message that was let through is the file of its id. -/
theorem Checked.fileOf
    {message : Members} {messageId : Text}
    (checked : Checked message messageId) {data : Bytes}
    (dumped : dumps (.obj message) = .ok data) :
    FileOf messageId (filename messageId) data :=
  fileOf_dumps (distinct_of_flat checked.distinct checked.flat)
    checked.shaped checked.named dumped

theorem fileOf_quarantineRecord
    {message : Members} {messageId reason : Text}
    (distinct : (Json.obj message).Distinct)
    (shaped : isObjectId messageId = true) {data : Bytes}
    (dumped : dumps (.obj (quarantineRecord messageId reason message)) =
      .ok data) :
    FileOf messageId (filename messageId) data := by
  refine fileOf_dumps ⟨?_, ?_⟩ shaped rfl dumped
  · exact ⟨trivial, trivial, trivial, distinct, trivial⟩
  · simp only [quarantineRecord, List.map_cons, List.map_nil]
    simp -index only [text_ofList]
    decide

theorem fileOf_rawQuarantineRecord
    {messageId reason : Text} (shaped : isObjectId messageId = true)
    {data : Bytes}
    (dumped : dumps (.obj (rawQuarantineRecord messageId reason)) =
      .ok data) :
    FileOf messageId (filename messageId) data := by
  refine fileOf_dumps ⟨?_, ?_⟩ shaped rfl dumped
  · exact ⟨trivial, trivial, trivial, trivial, trivial⟩
  · simp only [rawQuarantineRecord, List.map_cons, List.map_nil]
    simp -index only [text_ofList]
    decide

theorem fileOf_deadLetterRecord
    {messageId reason createdUtc : Text} {record : Members}
    (shaped : isObjectId messageId = true)
    (built : deadLetterRecord messageId reason createdUtc = .ok record)
    {data : Bytes} (dumped : dumps (.obj record) = .ok data) :
    FileOf messageId (filename messageId) data := by
  simp only [deadLetterRecord, identified, bind_eq_ok_iff,
    pure_eq_ok_iff] at built
  rcases built with ⟨-, -, created, -, recordId, -, -, -, rfl⟩
  refine fileOf_dumps ⟨?_, ?_⟩ shaped rfl dumped
  · exact ⟨trivial, trivial, trivial, trivial, trivial, trivial, trivial,
      trivial⟩
  · change [text "record_id", text "schema_version", text "message_id",
      text "reason", text "created_utc", text "canonical_writes",
      text "grants_authority"].Nodup
    decide

theorem fileOf_buildAck
    {messageId createdUtc : Text} {status : AckStatus} {ack : Members}
    (shaped : isObjectId messageId = true)
    (built : buildAck messageId status createdUtc = .ok ack)
    {data : Bytes} (dumped : dumps (.obj ack) = .ok data) :
    FileOf messageId (filename messageId) data := by
  rcases ackMembers_of_buildAck built with ⟨ackId, created, rfl⟩
  refine fileOf_dumps ⟨?_, ?_⟩ shaped rfl dumped
  · exact ⟨trivial, trivial, trivial, trivial, trivial, trivial, trivial,
      trivial⟩
  · simp only [ackMembers, List.map_cons, List.map_nil]
    simp -index only [text_ofList]
    decide

/-! ## Evidence -/

/-- The file that has to be there for an acknowledgement. -/
def Evidence (state : State) (name : Text) : AckStatus → Prop
  | .acknowledged => name ∈ state.imported
  | .duplicate => False
  | .rejected => name ∈ state.quarantine
  | .expired => name ∈ state.dlq
  | .quarantined => name ∈ state.quarantine

/-- The content of an acknowledgement with this status. -/
def StatesStatus (data : Bytes) (status : AckStatus) : Prop :=
  ∃ ack, readJsonObject (some data) = .ok ack ∧
    isText ack (text "ack_status") status.value = true

/-- The files are those of objects, and acknowledgements have evidence. -/
structure Accounted (state : State) : Prop where
  queued : Named state.queued
  imported : Named state.imported
  acks : Named state.acks
  quarantine : Named state.quarantine
  dlq : Named state.dlq
  evidenced : ∀ name data, state.acks.lookup name = some data →
    ∃ status, StatesStatus data status ∧ Evidence state name status

theorem named_empty : Named (∅ : Directory Text Bytes) := by
  intro name data found
  cases found

theorem accounted_empty : Accounted State.empty where
  queued := named_empty
  imported := named_empty
  acks := named_empty
  quarantine := named_empty
  dlq := named_empty
  evidenced _ _ found := nomatch found

section

variable {state : State} {messageId name : Text} {data : Bytes}

/-- Evidence stays while no file is removed. -/
theorem Evidence.mono
    {after : State} {status : AckStatus}
    (evidence : Evidence state name status)
    (imported : ∀ other ∈ state.imported, other ∈ after.imported)
    (quarantine : ∀ other ∈ state.quarantine, other ∈ after.quarantine)
    (dlq : ∀ other ∈ state.dlq, other ∈ after.dlq) :
    Evidence after name status := by
  cases status with
  | acknowledged => exact imported name evidence
  | duplicate => exact evidence
  | rejected => exact quarantine name evidence
  | expired => exact dlq name evidence
  | quarantined => exact quarantine name evidence

theorem Accounted.putQueued
    (accounted : Accounted state) (file : FileOf messageId name data) :
    Accounted (state.putQueued name data) :=
  { accounted with queued := accounted.queued.insert file }

theorem Accounted.putImported
    (accounted : Accounted state) (file : FileOf messageId name data) :
    Accounted (state.putImported name data) := by
  refine { accounted with
    imported := accounted.imported.insert file, evidenced := ?_ }
  intro other stored found
  rcases accounted.evidenced other stored found with
    ⟨status, states, evidence⟩
  exact ⟨status, states, evidence.mono
    (fun _ isFile => (AList.mem_insert _).mpr (.inr isFile))
    (fun _ isFile => isFile) fun _ isFile => isFile⟩

theorem Accounted.putQuarantine
    (accounted : Accounted state) (file : FileOf messageId name data) :
    Accounted (state.putQuarantine name data) := by
  refine { accounted with
    quarantine := accounted.quarantine.insert file, evidenced := ?_ }
  intro other stored found
  rcases accounted.evidenced other stored found with
    ⟨status, states, evidence⟩
  exact ⟨status, states, evidence.mono (fun _ isFile => isFile)
    (fun _ isFile => (AList.mem_insert _).mpr (.inr isFile))
    fun _ isFile => isFile⟩

theorem Accounted.putDlq
    (accounted : Accounted state) (file : FileOf messageId name data) :
    Accounted (state.putDlq name data) := by
  refine { accounted with
    dlq := accounted.dlq.insert file, evidenced := ?_ }
  intro other stored found
  rcases accounted.evidenced other stored found with
    ⟨status, states, evidence⟩
  exact ⟨status, states, evidence.mono (fun _ isFile => isFile)
    (fun _ isFile => isFile)
    fun _ isFile => (AList.mem_insert _).mpr (.inr isFile)⟩

theorem Accounted.putAck
    (accounted : Accounted state) (file : FileOf messageId name data)
    {status : AckStatus} (states : StatesStatus data status)
    (evidence : Evidence state name status) :
    Accounted (state.putAck name data) := by
  refine { accounted with
    acks := accounted.acks.insert file, evidenced := ?_ }
  intro other stored found
  rcases Directory.lookup_insert_eq_some.mp found with
    ⟨rfl, rfl⟩ | ⟨-, kept⟩
  · exact ⟨status, states, evidence⟩
  · exact accounted.evidenced other stored kept

theorem Accounted.putSignature
    (accounted : Accounted state) (message : Members) :
    Accounted (State.putSignature message state name data) :=
  { accounted with }

theorem Accounted.alterSignature
    (accounted : Accounted state) (content : Option Bytes) :
    Accounted (state.alterSignature name content) := by
  cases content with
  | none => exact { accounted with }
  | some data => exact { accounted with }

/-! ## Every write keeps the accounts -/

/-- What every write of a call leaves. -/
def Keeps (_ after : State) : Prop :=
  Accounted after

/-- An acknowledgement may be written where its evidence is. -/
theorem safe_writeAck_accounted
    {post : Except PyError Members → State → Prop} {createdUtc : Text}
    {status : AckStatus} (accounted : Accounted state)
    (evidence : Evidence state (filename messageId) status)
    (written : ∀ ack data, Accounted (state.putAck (filename messageId)
      data) → post (.ok ack) (state.putAck (filename messageId) data))
    (refused : ∀ error, post (.error error) state) :
    (writeAck messageId status createdUtc).Safe Keeps post state := by
  refine safe_writeAck (fun ack data shaped built dumped => ?_) refused
  have closed := accounted.putAck (fileOf_buildAck shaped built dumped)
    (readJsonObject_of_buildAck built dumped) evidence
  exact ⟨closed, written ack data closed⟩

theorem safe_quarantineMessage_accounted
    {message : Members} {reason createdUtc : Text} {status : AckStatus}
    (accounted : Accounted state) (checked : Checked message messageId)
    (isQuarantined : ∀ after, Evidence after (filename messageId) status ↔
      filename messageId ∈ after.quarantine) :
    (do
      quarantineMessage message reason
      writeAck messageId status createdUtc : Action Members).Safe Keeps
        (fun _ _ => True) state := by
  have named : messageIdFromMapping message = .ok messageId :=
    messageIdFromMapping_eq_ok.mpr ⟨checked.named, checked.shaped⟩
  rw [Program.safe_bind, quarantineMessage, named,
    Program.compute_ok_bind]
  refine safe_atomicWriteJson (fun data shaped dumped => ?_)
    fun _ => trivial
  have closed := accounted.putQuarantine (fileOf_quarantineRecord
    (distinct_of_flat checked.distinct checked.flat) shaped dumped)
  refine ⟨closed, safe_writeAck_accounted closed
    ((isQuarantined _).mpr ?_) (fun _ _ _ => trivial) fun _ => trivial⟩
  exact (AList.mem_insert _).mpr (.inl rfl)

theorem safe_deadLetterMessage_accounted
    {post : Except PyError Members → State → Prop} {message : Members}
    {reason createdUtc : Text} (accounted : Accounted state)
    (written : ∀ messageId record data,
      messageIdFromMapping message = .ok messageId →
      Accounted (state.putDlq (filename messageId) data) →
        post (.ok record) (state.putDlq (filename messageId) data))
    (refused : ∀ error, post (.error error) state) :
    (deadLetterMessage message reason createdUtc).Safe Keeps post
      state := by
  refine Program.safe_compute_bind (fun messageId named => ?_) refused
  refine Program.safe_compute_bind (fun record built => ?_) refused
  rw [Program.safe_bind]
  refine safe_atomicWriteJson (fun data shaped dumped => ?_) refused
  have closed := accounted.putDlq
    (fileOf_deadLetterRecord shaped built dumped)
  exact ⟨closed, written messageId record data named closed⟩

/-- The messages of an exit were let through. -/
def Verdict.CheckedMessage : Verdict → Prop
  | .malformed _ => True
  | .quarantined message messageId _ => Checked message messageId
  | .duplicate _ => True
  | .rejected message messageId => Checked message messageId
  | .expired message messageId => Checked message messageId
  | .imported message messageId => Checked message messageId

theorem checkedMessage_of_verdict
    {file : Option Bytes} {verifier : Verifier} {nowUtc : Text}
    {ttlSeconds : Int} {exit : Verdict}
    (chosen : state.verdict file verifier nowUtc ttlSeconds = .ok exit) :
    exit.CheckedMessage := by
  rcases verdict_eq_ok_iff.mp chosen with
    ⟨now, -, -, ⟨error, -, -, rfl⟩ |
      ⟨message, messageId, -, checked, messageExit⟩⟩
  · trivial
  rcases (messageVerdict_eq_ok_iff checked.shaped).mp messageExit with
    ⟨error, -, -, rfl⟩ |
      ⟨signature, -, ⟨-, rfl⟩ | ⟨-, verifiedExit⟩⟩
  · exact checked
  · exact checked
  rcases verifiedVerdict_eq_ok_iff.mp verifiedExit with
    ⟨-, rfl⟩ | ⟨-, ⟨-, rfl⟩ | ⟨-, ⟨-, rfl⟩ |
      ⟨-, -, -, ⟨-, rfl⟩ | ⟨-, rfl⟩⟩⟩⟩
  · trivial
  · exact checked
  · exact checked
  · exact checked
  · exact checked

theorem safe_perform_accounted
    (accounted : Accounted state) {exit : Verdict}
    (checked : exit.CheckedMessage) (file : Option Bytes)
    (nowUtc : Text) :
    (perform file nowUtc exit).Safe Keeps (fun _ _ => True) state := by
  cases exit with
  | malformed error =>
      rw [perform, Program.safe_bind, quarantineRaw]
      refine safe_atomicWriteJson (fun data shaped dumped => ?_)
        fun _ => trivial
      have closed := accounted.putQuarantine
        (fileOf_rawQuarantineRecord shaped dumped)
      refine ⟨closed, safe_writeAck_accounted closed ?_
        (fun _ _ _ => trivial) fun _ => trivial⟩
      exact (AList.mem_insert _).mpr (.inl rfl)
  | quarantined message messageId reason =>
      exact safe_quarantineMessage_accounted accounted checked
        fun _ => Iff.rfl
  | duplicate messageId =>
      rw [perform, Program.safe_compute]
      trivial
  | rejected message messageId =>
      exact safe_quarantineMessage_accounted accounted checked
        fun _ => Iff.rfl
  | expired message messageId =>
      rw [perform, Program.safe_bind]
      refine safe_deadLetterMessage_accounted accounted ?_ fun _ => trivial
      intro foundId record data named closed
      rcases messageIdFromMapping_eq_ok.mp named with ⟨isId, -⟩
      rw [checked.named, Option.some.injEq, Json.str.injEq] at isId
      rcases isId with rfl
      refine safe_writeAck_accounted closed ?_ (fun _ _ _ => trivial)
        fun _ => trivial
      exact (AList.mem_insert _).mpr (.inl rfl)
  | imported message messageId =>
      rw [perform, Program.safe_bind]
      refine safe_atomicWriteJson (fun data shaped dumped => ?_)
        fun _ => trivial
      have closed := accounted.putImported (checked.fileOf dumped)
      refine ⟨closed, safe_writeAck_accounted closed ?_
        (fun _ _ _ => trivial) fun _ => trivial⟩
      exact (AList.mem_insert _).mpr (.inl rfl)

theorem mem_replayIds
    {files : List (Text × Bytes)} {ids : List Text}
    (replayed : replayIds files = .ok ids) :
    ∀ id ∈ ids, ∃ file ∈ files, ∃ payload,
      readJsonObject (some file.2) = .ok payload ∧
        messageIdForReplay payload = .ok id := by
  induction files generalizing ids with
  | nil =>
      cases replayed
      intro id isId
      cases isId
  | cons file rest induction =>
      simp only [replayIds, bind_eq_ok_iff, pure_eq_ok_iff] at replayed
      rcases replayed with
        ⟨payload, read, messageId, isId, others, isOthers, rfl⟩
      intro id isMember
      rcases List.mem_cons.mp isMember with rfl | isLater
      · exact ⟨file, List.mem_cons_self, payload, read, isId⟩
      · rcases induction isOthers id isLater with ⟨other, isFile, found⟩
        exact ⟨other, List.mem_cons_of_mem _ isFile, found⟩

/-- The files that reconciliation acknowledges are imported ones. -/
theorem Accounted.imported_of_replayIds
    (accounted : Accounted state) {ids : List Text}
    (replayed : replayIds (sortedFiles state.imported) = .ok ids) :
    ∀ id ∈ ids, filename id ∈ state.imported := by
  intro id isId
  rcases mem_replayIds replayed id isId with
    ⟨file, isFile, payload, read, isPayload⟩
  rw [mem_sortedFiles] at isFile
  rcases accounted.imported file.1 file.2 isFile with ⟨other, named⟩
  rcases named.replayed with ⟨same, isSame, isOther⟩
  rw [read, Except.ok.injEq] at isSame
  rw [← isSame, isPayload, Except.ok.injEq] at isOther
  rw [isOther, ← named.named]
  exact Directory.mem_of_lookup isFile

theorem safe_reconcileEach_accounted
    {createdUtc : Text} (ids : List Text) (accounted : Accounted state)
    (imported : ∀ id ∈ ids, filename id ∈ state.imported) :
    (reconcileEach createdUtc ids).Safe Keeps (fun _ _ => True)
      state := by
  induction ids generalizing state with
  | nil => trivial
  | cons id rest induction =>
      rcases List.forall_mem_cons.mp imported with ⟨isImported, later⟩
      refine Program.safe_compute_bind (fun name named => ?_)
        fun _ => trivial
      rw [Program.safe_bind, Program.safe_observe, Program.bindPost_ok,
        Program.safe_ite]
      refine ⟨fun _ => induction accounted later, fun _ => ?_⟩
      rw [Program.safe_bind]
      refine safe_writeAck_accounted accounted isImported
        (fun ack data closed => ?_) fun _ => trivial
      rw [Program.bindPost_ok, Program.safe_bind]
      refine (induction closed later).mono (fun _ _ step => step) ?_
      intro result final _
      cases result with
      | error error => trivial
      | ok others => trivial

theorem safe_queueMessage_accounted
    (accounted : Accounted state) (signer : Signer) (message : Dict)
    (sequence : Option Int) (previousSignatureRef : Option Text) :
    (queueMessage signer message sequence previousSignatureRef).Safe
      Keeps (fun _ _ => True) state := by
  refine Program.safe_compute_bind (fun _ accepted => ?_) fun _ => trivial
  refine Program.safe_compute_bind (fun content isContent => ?_)
    fun _ => trivial
  refine Program.safe_compute_bind (fun _ matched => ?_) fun _ => trivial
  refine Program.safe_compute_bind (fun messageId named => ?_)
    fun _ => trivial
  have checked : Checked message.members messageId := by
    rcases messageIdFromMapping_eq_ok.mp named with ⟨found, shaped⟩
    rw [schemaValidate, refuseIf_eq_ok_iff, Bool.not_eq_false] at accepted
    rw [refuseIf_eq_ok_iff, Bool.not_eq_false] at matched
    rw [matched] at isContent
    exact ⟨message.distinct, accepted, found, shaped,
      ((messageIdMatchesContent_eq_true found).mp isContent).2⟩
  refine Program.safe_inspect_bind (fun _ _ => ?_) fun _ => trivial
  refine Program.safe_compute_bind (fun _ _ => ?_) fun _ => trivial
  rw [Program.safe_bind]
  refine safe_atomicWriteJson (fun data _ dumped => ?_) fun _ => trivial
  have queued := accounted.putQueued (checked.fileOf dumped)
  refine ⟨queued, ?_⟩
  rw [Program.bindPost_ok, Program.safe_bind]
  exact safe_atomicWriteJson
    (fun _ _ _ => ⟨queued.putSignature message.members, trivial⟩)
    fun _ => trivial

end

/-! ## Histories -/

/-- The calls on a spool, with those that dead-letter a message. -/
inductive SpoolCall where
  | spool (operation : Operation)
  | deadLetter (message : Dict) (reason createdUtc : Text)

/-- What a call returns. -/
def SpoolCall.Result : SpoolCall → Type
  | .spool operation => operation.Result
  | .deadLetter _ _ _ => Members

def spoolCode : (call : SpoolCall) → Action call.Result
  | .spool operation => code operation
  | .deadLetter message reason createdUtc =>
      Transport.deadLetter message reason createdUtc

theorem safe_spoolCode
    {state : State} (accounted : Accounted state) (call : SpoolCall) :
    (spoolCode call).Safe Keeps (fun _ _ => True) state := by
  cases call with
  | spool operation =>
      cases operation with
      | queueMessage signer message sequence previousSignatureRef =>
          exact safe_queueMessage_accounted accounted signer message
            sequence previousSignatureRef
      | receive file verifier nowUtc ttlSeconds =>
          exact Program.safe_inspect_bind
            (fun _ chosen => safe_perform_accounted accounted
              (checkedMessage_of_verdict chosen) file nowUtc)
            fun _ => trivial
      | reconcileAcknowledgements createdUtc =>
          refine Program.safe_inspect_bind (fun ids replayed => ?_)
            fun _ => trivial
          refine safe_reconcileEach_accounted _ accounted
            fun id isId => ?_
          exact accounted.imported_of_replayIds replayed id
            ((List.mem_insertionSort _).mp isId)
      | alterSignature name content =>
          exact ⟨accounted.alterSignature content, trivial⟩
  | deadLetter message reason createdUtc =>
      exact safe_deadLetterMessage_accounted accounted
        (fun _ _ _ _ _ => trivial) fun _ => trivial

theorem accounted_afterCalls (calls : List (Call SpoolCall)) :
    Accounted (afterCalls spoolCode calls State.empty) := by
  refine afterCalls_induction (fun call state accounted => ?_) calls
    accounted_empty
  have safe := safe_spoolCode accounted call.operation
  have step : ∀ before after, Keeps before after →
      Accounted before → Accounted after := fun _ _ kept _ => kept
  cases call with
  | complete operation =>
      exact Program.holds_of_reaches Accounted safe.run_reaches step
        accounted
  | crashed operation writes =>
      exact Program.holds_of_reaches Accounted
        (safe.crash_reaches writes) step accounted

/-! ## Replay -/

/-- What a replay of a directory returns. -/
structure Replays (directory : Directory Text Bytes)
    (items : List ReplayItem) : Prop where
  names : (items.map ReplayItem.name).Perm directory.keys
  ordered : (items.map ReplayItem.messageId).Pairwise (· < ·)
  files : ∀ item ∈ items, item.name = filename item.messageId ∧
    ∃ data, directory.lookup item.name = some data ∧
      readJsonObject (some data) = .ok item.payload

theorem map_fst_sortedFiles (directory : Directory Text Bytes) :
    ((sortedFiles directory).map Prod.fst).Perm directory.keys := by
  have same : (directory.entries.map fun entry =>
      (entry.1, entry.2)).map Prod.fst = directory.keys := by
    rw [List.map_map]
    rfl
  rw [← same]
  exact (List.perm_insertionSort KeyLe _).map Prod.fst

theorem ascending_insertionSort (items : List ReplayItem) :
    ((items.insertionSort fun left right =>
      left.messageId ≤ right.messageId).map
        ReplayItem.messageId).Pairwise (· ≤ ·) := by
  have total : Std.Total fun left right : ReplayItem =>
      left.messageId ≤ right.messageId := ⟨fun _ _ => le_total _ _⟩
  have transitive : IsTrans ReplayItem fun left right =>
      left.messageId ≤ right.messageId := ⟨fun _ _ _ => le_trans⟩
  rw [List.pairwise_map]
  exact List.pairwise_insertionSort _ items

/-- The files of a named directory are replayed in the order of their ids. -/
theorem replays_of_named
    {directory : Directory Text Bytes} (named : Named directory) :
    ∃ items, (sortedFiles directory).mapM replayItem = .ok items ∧
      Replays directory (items.insertionSort fun left right =>
        left.messageId ≤ right.messageId) := by
  have one : ∀ file ∈ sortedFiles directory, ∃ item,
      replayItem file = .ok item := by
    intro file isFile
    rcases named file.1 file.2 (mem_sortedFiles.mp isFile) with
      ⟨messageId, -, -, payload, read, isId⟩
    refine ⟨⟨messageId, file.1, payload⟩, ?_⟩
    simp only [replayItem, bind_eq_ok_iff, pure_eq_ok_iff]
    exact ⟨payload, read, messageId, isId, rfl⟩
  rcases mapM_ok_of_forall one with ⟨items, returned⟩
  refine ⟨items, returned, ?_⟩
  have sorts := List.perm_insertionSort
    (fun left right : ReplayItem => left.messageId ≤ right.messageId) items
  have labels : items.map ReplayItem.name =
      (sortedFiles directory).map Prod.fst := by
    refine map_of_mapM (fun file item isItem => ?_) returned
    simp only [replayItem, bind_eq_ok_iff, pure_eq_ok_iff] at isItem
    rcases isItem with ⟨payload, -, messageId, -, rfl⟩
    rfl
  have names : (items.map ReplayItem.name).Perm directory.keys := by
    rw [labels]
    exact map_fst_sortedFiles directory
  have files : ∀ item ∈ items, item.name = filename item.messageId ∧
      ∃ data, directory.lookup item.name = some data ∧
        readJsonObject (some data) = .ok item.payload := by
    intro item isItem
    rcases (mapM_eq_ok returned).2 item isItem with ⟨file, isFile, ran⟩
    have found := mem_sortedFiles.mp isFile
    simp only [replayItem, bind_eq_ok_iff, pure_eq_ok_iff] at ran
    rcases ran with ⟨payload, read, messageId, isId, rfl⟩
    rcases named file.1 file.2 found with ⟨other, isFileOf⟩
    rcases isFileOf.replayed with ⟨same, isSame, isOther⟩
    rw [read, Except.ok.injEq] at isSame
    rw [← isSame, isId, Except.ok.injEq] at isOther
    exact ⟨isOther ▸ isFileOf.named, file.2, found, read⟩
  have distinct : (items.map ReplayItem.messageId).Nodup := by
    have labels : (items.map ReplayItem.messageId).map filename =
        items.map ReplayItem.name := by
      rw [List.map_map]
      exact List.map_congr_left fun item isItem =>
        (files item isItem).1.symm
    refine List.Nodup.of_map filename ?_
    rw [labels]
    exact names.nodup_iff.mpr directory.keys_nodup
  refine ⟨(sorts.map _).trans names, ?_, fun item isItem =>
    files item ((List.mem_insertionSort _).mp isItem)⟩
  have ascending := ascending_insertionSort items
  have apart := ((sorts.map ReplayItem.messageId).nodup_iff).mpr distinct
  exact (ascending.and apart).imp fun both =>
    lt_of_le_of_ne both.1 both.2

/-- Where a state has a directory, and which. -/
inductive HasDirectory (state : State) :
    SpoolState → Directory Text Bytes → Prop where
  | queued : HasDirectory state .queued state.queued
  | acknowledged : HasDirectory state .acknowledged state.acks
  | importedAsC3 : HasDirectory state .importedAsC3 state.imported
  | quarantined : HasDirectory state .quarantined state.quarantine
  | deadLettered : HasDirectory state .deadLettered state.dlq

theorem directoryForState_eq_ok
    {state : State} {spoolState : SpoolState}
    {directory : Directory Text Bytes} :
    state.directoryForState spoolState = .ok directory ↔
      HasDirectory state spoolState directory := by
  constructor
  · intro found
    cases spoolState <;> cases found <;> constructor
  · intro found
    cases found <;> rfl

theorem Accounted.named
    {state : State} (accounted : Accounted state)
    {spoolState : SpoolState} {directory : Directory Text Bytes}
    (found : HasDirectory state spoolState directory) :
    Named directory := by
  cases found with
  | queued => exact accounted.queued
  | acknowledged => exact accounted.acks
  | importedAsC3 => exact accounted.imported
  | quarantined => exact accounted.quarantine
  | deadLettered => exact accounted.dlq

/--
After any history of calls, each possibly cut between two writes: a replay of
any state that has a directory returns every file of it once, in the order of
the message ids; and every acknowledgement on disk states a status for which
the record that it stands for is there, which is never `DUPLICATE`.
-/
theorem spool_accounts_for_acknowledgements
    (calls : List (Call SpoolCall)) :
    let state := afterCalls spoolCode calls State.empty
    (∀ spoolState directory,
      state.directoryForState spoolState = .ok directory →
        ∃ items, state.replay spoolState = .ok items ∧
          Replays directory items) ∧
    ∀ name data, state.acks.lookup name = some data →
      ∃ status, StatesStatus data status ∧ Evidence state name status := by
  intro state
  have accounted : Accounted state := accounted_afterCalls calls
  refine ⟨fun spoolState directory found => ?_, accounted.evidenced⟩
  have named := accounted.named (directoryForState_eq_ok.mp found)
  rcases replays_of_named named with ⟨items, returned, replays⟩
  refine ⟨_, ?_, replays⟩
  simp only [State.replay, found, bind_eq_ok_iff, pure_eq_ok_iff]
  exact ⟨directory, rfl, items, returned, rfl⟩

end ScientificResourceLab.Transport
