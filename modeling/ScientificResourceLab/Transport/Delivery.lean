import ScientificResourceLab.Transport.Chain

/-!
# Delivery of queued messages

A sender queues messages and a receiver is given their files, in any order of
the two.  A fresh message that was queued is imported and acknowledged exactly
when it was signed right after the last signed message that is imported.  So a
message that was signed and not imported, because it expired or was a
duplicate, blocks every message that is queued after it.
-/

namespace ScientificResourceLab.Transport

open Python Contracts Steps
open Steps.Program (observe inspect update compute Safe)

/-! ## Fresh messages -/

/-- A file with a queued message, neither expired nor a duplicate. -/
structure Fresh
    (state : State) (file : Option Bytes) (nowUtc : Text)
    (ttlSeconds : Int) (message : Members) (messageId : Text) : Prop where
  read : readJsonObject file = .ok message
  checked : Checked message messageId
  queued : ∃ last, lastSigned (filename messageId) state.signed =
    some last ∧ last.message.Perm message
  unexpired : ∃ now created, parseUtc nowUtc = .ok now ∧
    parseUtc (textField message (text "created_utc")) = .ok created ∧
    0 ≤ ttlSeconds ∧ (now : Int) - created ≤ ttlSeconds
  novel : ∀ name data imported,
    state.imported.lookup name = some data →
    readJsonObject (some data) = .ok imported →
    Json.lookup (text "message_id") imported ≠ some (.str messageId) ∧
      ¬ SamePair imported message

/-- The call imports a message and acknowledges it, also on disk. -/
def Acknowledged
    (state : State) (call : Action Members) (messageId : Text) : Prop :=
  ∃ ack data, (call.run state).1 = .ok ack ∧
    isText ack (text "ack_status") (text "ACKNOWLEDGED") = true ∧
    dumps (.obj ack) = .ok data ∧
    (call.run state).2.acks.lookup (filename messageId) = some data ∧
    filename messageId ∈ (call.run state).2.imported

/-- The guard of the hash chain refuses a message, and it is not imported. -/
structure Blocked
    (state : State) (file : Option Bytes) (verifier : Verifier)
    (nowUtc : Text) (ttlSeconds : Int) (message : Members)
    (messageId : Text) : Prop where
  chosen : state.verdict file verifier nowUtc ttlSeconds =
    .ok (.quarantined message messageId (text "hash_chain_rejected"))
  unchanged : ((receive file verifier nowUtc ttlSeconds).run
    state).2.imported = state.imported

theorem duplicateAmong_of_novel
    {messageId : Text} {message : Members} {files : List (Text × Bytes)}
    (novel : ∀ file ∈ files, ∃ imported,
      readJsonObject (some file.2) = .ok imported ∧
      isText imported (text "message_id") messageId = false ∧
      ¬ (sameField (text "idempotency_key") imported message = true ∧
        sameField (text "payload_ref") imported message = true)) :
    duplicateAmong messageId message files = .ok false := by
  induction files with
  | nil => rfl
  | cons file rest induction =>
      obtain ⟨imported, read, differs⟩ := novel file List.mem_cons_self
      have later := induction fun other member =>
        novel other (List.mem_cons_of_mem _ member)
      simp only [duplicateAmong, read, bind_eq_ok_iff, Except.ok.injEq,
        exists_eq_left']
      rw [if_neg, later]
      rw [not_or, Bool.not_eq_true]
      exact differs

theorem sameField_eq_true
    {key value : Text} {imported message : Members}
    (found : Json.lookup key message = some (.str value)) :
    sameField key imported message = true ↔
      Json.lookup key imported = Json.lookup key message := by
  rw [sameField, found]
  exact isText_eq_true

section

variable {authority : Authority} {state : State}
variable {file : Option Bytes} {nowUtc : Text} {ttlSeconds : Int}
variable {message : Members} {messageId : Text}

theorem Fresh.isDuplicate
    (fresh : Fresh state file nowUtc ttlSeconds message messageId)
    (sound : ImportedApart state) :
    state.isDuplicate message = .ok false := by
  have isId : messageIdFromMapping message = .ok messageId :=
    messageIdFromMapping_eq_ok.mpr
      ⟨fresh.checked.named, fresh.checked.shaped⟩
  rw [State.isDuplicate, isId]
  refine duplicateAmong_of_novel fun entry isFile => ?_
  have isImported := mem_sortedFiles.mp isFile
  obtain ⟨imported, _, read, -, -⟩ := sound.stored _ _ isImported
  obtain ⟨otherId, otherPair⟩ := fresh.novel _ _ imported isImported read
  obtain ⟨key, isKey⟩ :=
    fresh.checked.textAt (text "idempotency_key") (by decide)
  obtain ⟨payload, isPayload⟩ :=
    fresh.checked.textAt (text "payload_ref") (by decide)
  refine ⟨imported, read, ?_, ?_⟩
  · rw [← Bool.not_eq_true, isText_eq_true]
    exact otherId
  · rw [sameField_eq_true isKey, sameField_eq_true isPayload]
    exact otherPair

/-- The schema admits the classifications that `receive` admits. -/
theorem Checked.classification (checked : Checked message messageId) :
    textField message (text "classification") ∈
      [text "D0", text "D1"] := by
  obtain ⟨value, found, accepts⟩ :=
    (accepts_eq_true_iff.mp checked.accepted).2
      (text "classification", .enum [text "D0", text "D1"]) (by decide)
  rw [textField, found]
  cases value with
  | str value => exact List.contains_iff_mem.mp accepts
  | null | bool _ | int _ | float _ | arr _ | obj _ => cases accepts

/-- The exit on a fresh message depends on its place alone. -/
theorem Fresh.verdict
    (fresh : Fresh state file nowUtc ttlSeconds message messageId)
    (sound : ChainState authority state) :
    (Follows state (filename messageId) ∧
      state.verdict file authority.verifier nowUtc ttlSeconds =
        .ok (.imported message messageId)) ∨
    (¬ Follows state (filename messageId) ∧
      state.verdict file authority.verifier nowUtc ttlSeconds =
        .ok (.quarantined message messageId
          (text "hash_chain_rejected"))) := by
  obtain ⟨now, created, isNow, isCreated, nonNegative, inTime⟩ :=
    fresh.unexpired
  obtain ⟨last, isLast, sameMessage⟩ := fresh.queued
  obtain ⟨isName, newer, earlier, split, isPlace⟩ :=
    lastSigned_eq_some isLast
  have chain := sound.chain
  rw [split] at chain
  obtain ⟨lastId, signature, read, checked, named, signed, same, isRead,
    valid, sequence, previous⟩ := chain.suffix.1.read
  have decoded : decodeSignature
      (state.signatures.lookup (filename messageId)) = .ok read := by
    rw [sound.signature isLast]
    exact decodeSignature_eq_ok.mpr ⟨isRead, valid⟩
  have verified : authority.verifier message read = .ok true :=
    authority.accepts checked (by omega) (isObjectId_of_newestRef earlier)
      signed sameMessage same
  have unique := fresh.isDuplicate sound.apart
  obtain ⟨accepted, isAccepted, follows⟩ :=
    hashChainAccepts_of_chain sound split isPlace sequence previous
  have reaches {exit : Verdict}
      (chosen : state.verifiedVerdict message read messageId now
        ttlSeconds = .ok exit) :
      state.verdict file authority.verifier nowUtc ttlSeconds =
        .ok exit :=
    verdict_eq_ok_iff.mpr ⟨now, isNow, nonNegative, .inr ⟨message,
      messageId, fresh.read, fresh.checked,
      (messageVerdict_eq_ok_iff fresh.checked.shaped).mpr
        (.inr ⟨read, decoded, .inr ⟨verified, chosen⟩⟩)⟩⟩
  cases accepted with
  | true =>
      refine .inl ⟨follows.mp rfl, reaches ?_⟩
      exact verifiedVerdict_eq_ok_iff.mpr (.inr ⟨unique, .inr ⟨isAccepted,
        .inr ⟨fresh.checked.classification, created, isCreated,
          .inr ⟨inTime, rfl⟩⟩⟩⟩)
  | false =>
      refine .inr ⟨fun holds => Bool.noConfusion (follows.mpr holds),
        reaches ?_⟩
      exact verifiedVerdict_eq_ok_iff.mpr
        (.inr ⟨unique, .inl ⟨isAccepted, rfl⟩⟩)

/-- The exit that imports a message writes both files. -/
theorem run_of_imported
    {verifier : Verifier} (checked : Checked message messageId)
    (chosen : state.verdict file verifier nowUtc ttlSeconds =
      .ok (.imported message messageId)) :
    ∃ ackId created data ackData,
      dumps (.obj message) = .ok data ∧
      dumps (.obj (ackMembers ackId messageId .acknowledged created)) =
        .ok ackData ∧
      (receive file verifier nowUtc ttlSeconds).run state =
        (.ok (ackMembers ackId messageId .acknowledged created),
          (state.putImported (filename messageId) data).putAck
            (filename messageId) ackData) := by
  obtain ⟨now, isNow, -⟩ := verdict_eq_ok_iff.mp chosen
  obtain ⟨created, normalized⟩ := normalizeTimestamp_of_parseUtc isNow
  obtain ⟨data, dumped⟩ := checked.encodes
  obtain ⟨ackId, ackData, ackDumped, acked⟩ :=
    writeAck_eq .acknowledged checked.shaped normalized
  refine ⟨ackId, created, data, ackData, dumped, ackDumped, ?_⟩
  rw [run_receive chosen]
  simp only [perform, atomicWriteJson_eq checked.shaped dumped, acked]
  rfl

theorem acknowledged_of_verdict
    {verifier : Verifier} (checked : Checked message messageId)
    (chosen : state.verdict file verifier nowUtc ttlSeconds =
      .ok (.imported message messageId)) :
    Acknowledged state (receive file verifier nowUtc ttlSeconds)
      messageId := by
  obtain ⟨ackId, created, data, ackData, -, dumped, ran⟩ :=
    run_of_imported checked chosen
  refine ⟨_, ackData, by rw [ran], rfl, dumped, ?_, ?_⟩
  · rw [ran]
    exact AList.lookup_insert _
  · rw [ran]
    exact (AList.mem_insert _).mpr (.inl rfl)

/-- The guard of the hash chain imports nothing. -/
theorem Fresh.blocked
    (fresh : Fresh state file nowUtc ttlSeconds message messageId)
    (sound : ChainState authority state)
    (jumps : ¬ Follows state (filename messageId)) :
    Blocked state file authority.verifier nowUtc ttlSeconds message
      messageId := by
  obtain ⟨_, chosen⟩ :=
    (fresh.verdict sound).resolve_left fun next => jumps next.1
  have unchanged : (Call.after code (.complete (.receive file
      authority.verifier nowUtc ttlSeconds)) state).imported =
        state.imported := by
    apply call_keeps (fun after => after.imported = state.imported) ?_ rfl
    intro before after step same
    cases step with
    | quarantine | deadLetter | acknowledge _ _ _ _ _ => exact same
    | store imports written =>
        rw [chosen] at imports
        cases imports
  exact ⟨chosen, unchanged⟩

theorem Fresh.acknowledged_iff
    (fresh : Fresh state file nowUtc ttlSeconds message messageId)
    (sound : ChainState authority state) :
    Acknowledged state
        (receive file authority.verifier nowUtc ttlSeconds) messageId ↔
      Follows state (filename messageId) := by
  rcases fresh.verdict sound with ⟨follows, chosen⟩ | ⟨jumps, _⟩
  · exact iff_of_true (acknowledged_of_verdict fresh.checked chosen)
      follows
  · refine iff_of_false ?_ jumps
    rintro ⟨ack, data, -, -, -, -, isImported⟩
    obtain ⟨content, found⟩ := Directory.mem_iff_lookup.mp isImported
    rw [(fresh.blocked sound jumps).unchanged] at found
    obtain ⟨imported, importedId, read, checked, named⟩ :=
      sound.apart.stored _ _ found
    refine (fresh.novel _ _ imported found read).1 ?_
    rw [checked.named, filename_injective checked.shaped
      fresh.checked.shaped named.symm]

end

/-! ## Runs -/

/-- What the sender and the receiver do. -/
inductive Event where
  | queue (message : Dict)
  | deliver (file : Option Bytes) (nowUtc : Text) (ttlSeconds : Int)

/-- The call of an event: a signature of, or a check by, one authority. -/
def Event.call (authority : Authority) : Event → Call Operation
  | .queue message =>
      .complete (.queueMessage authority.signer message none none)
  | .deliver file nowUtc ttlSeconds =>
      .complete (.receive file authority.verifier nowUtc ttlSeconds)

/-- A fresh message of a delivery is imported and acknowledged. -/
def Serves (state : State) : Call Operation → Prop
  | .complete (.receive file verifier nowUtc ttlSeconds) =>
      ∀ message messageId,
        Fresh state file nowUtc ttlSeconds message messageId →
          Acknowledged state (receive file verifier nowUtc ttlSeconds)
            messageId
  | _ => True

/-- It is when it was signed right after the imported ones; otherwise the
guard of the hash chain does not import it. -/
def ServesNext (state : State) : Call Operation → Prop
  | .complete (.receive file verifier nowUtc ttlSeconds) =>
      ∀ message messageId,
        Fresh state file nowUtc ttlSeconds message messageId →
          (Acknowledged state (receive file verifier nowUtc ttlSeconds)
            messageId ↔ Follows state (filename messageId)) ∧
          (¬ Follows state (filename messageId) →
            Blocked state file verifier nowUtc ttlSeconds message messageId)
  | _ => True

theorem oneSender_call (authority : Authority) (event : Event) :
    OneSender authority (Event.call authority event).operation := by
  cases event with
  | queue message => exact .queueMessage
  | deliver file nowUtc ttlSeconds => exact .receive

/--
In every run of a sender and a receiver with one authority, a fresh message
that is delivered is imported and acknowledged exactly when it was signed
right after the last signed message imported so far.  Otherwise the guard of
the hash chain does not import it.
-/
theorem fresh_served_iff_next
    (authority : Authority) (events : List Event) :
    Meets code ServesNext (events.map (Event.call authority))
      State.empty := by
  refine meets_of_invariant (ChainState authority) ?_ ?_ chainState_empty
  · intro call isCall state sound
    obtain ⟨event, -, rfl⟩ := List.mem_map.mp isCall
    exact chainState_call _ state (oneSender_call authority event) sound
  · intro call isCall state sound
    obtain ⟨event, -, rfl⟩ := List.mem_map.mp isCall
    cases event with
    | queue message => trivial
    | deliver file nowUtc ttlSeconds =>
        intro message messageId fresh
        exact ⟨fresh.acknowledged_iff sound, fresh.blocked sound⟩

/-! ## An expired message blocks the ones after it -/

theorem after_queue
    {authority : Authority} {state : State}
    (sound : ChainState authority state) {message : Dict}
    {messageId : Text} {signature : DetachedSignature} {data : Bytes}
    (checked : Checked message.members messageId)
    (signed : authority.signer message.members
      ((state.signed.length : Int) + 1) (newestRef state.signed) =
        .ok signature)
    (written : dumps (.obj signature.toDict) = .ok data) :
    (Call.after code (Event.call authority (.queue message))
      state).signed =
        ⟨filename messageId, message.members, data⟩ :: state.signed := by
  obtain ⟨encoded, ran⟩ : ∃ encoded,
      ((queueMessage authority.signer message none none).run state).2 =
        (state.putQueued (filename messageId) encoded).putSignature
          message.members (filename messageId) data :=
    run_queueMessage checked (prior_of_chain sound) signed written
  change ((queueMessage authority.signer message none none).run
    state).2.signed = _
  rw [ran]
  rfl

/-- A sender does not import. -/
theorem imported_after_queue
    (authority : Authority) (message : Dict) (state : State) :
    (Call.after code (Event.call authority (.queue message))
      state).imported = state.imported := by
  rcases call_imports (Event.call authority (.queue message)) state with
    same | ⟨_, _, admits, _⟩
  · exact same
  · cases admits

/-- A receiver does not sign. -/
theorem signed_after_deliver
    (authority : Authority) (state : State) (file : Option Bytes)
    (nowUtc : Text) (ttlSeconds : Int) :
    (Call.after code (Event.call authority
      (.deliver file nowUtc ttlSeconds)) state).signed = state.signed := by
  refine call_keeps (fun after => after.signed = state.signed) ?_ rfl
  intro before after step same
  cases step with
  | quarantine | deadLetter | acknowledge _ _ _ _ _ | store _ _ =>
      exact same

theorem imported_after_expired
    (authority : Authority) (state : State) (nowUtc : Text)
    (ttlSeconds : Int) {file : Option Bytes} {message : Members}
    {now created : Nat} (read : readJsonObject file = .ok message)
    (isNow : parseUtc nowUtc = .ok now)
    (isCreated :
      parseUtc (textField message (text "created_utc")) = .ok created)
    (late : ttlSeconds < (now : Int) - created) :
    (Call.after code (Event.call authority
      (.deliver file nowUtc ttlSeconds)) state).imported =
        state.imported := by
  rcases call_imports (Event.call authority
      (.deliver file nowUtc ttlSeconds)) state with
    same | ⟨_, _, admits, _⟩
  · exact same
  · cases admits with
    | receive isRead _ _ _ _ _ isNow' isCreated' fresh _ =>
        rw [read, Except.ok.injEq] at isRead
        subst isRead
        rw [isNow, Except.ok.injEq] at isNow'
        rw [isCreated, Except.ok.injEq] at isCreated'
        subst isNow' isCreated'
        exact absurd fresh (not_le.mpr late)

/-- Without an imported message only the first signed one follows. -/
theorem not_follows_of_empty
    {state : State} {name : Text} (empty : state.imported = ∅)
    (later : 1 < place name state.signed) : ¬ Follows state name := by
  have none : state.importedUpTo = 0 := by
    rw [State.importedUpTo, empty]
    rfl
  rw [Follows, none]
  omega

/-- `_signer()` of the tests. -/
def fixtureSigner : HmacSha256Signer where
  signerCell := text "standalone"
  secret := [102, 105, 120, 116, 117, 114, 101, 45, 115, 101, 99, 114, 101,
    116]

/-- The fixture signs a checked message with a small sequence number. -/
theorem fixtureSigner_signs
    {state : State}
    (sound : ChainState fixtureSigner.authority state)
    {message : Dict} {messageId : Text}
    (checked : Checked message.members messageId)
    (short : Writable (.int ((state.signed.length : Int) + 1))) :
    ∃ data, (Call.after code
      (Event.call fixtureSigner.authority (.queue message)) state).signed =
        ⟨filename messageId, message.members, data⟩ :: state.signed := by
  have isCell : fixtureSigner.signerCell ≠ [] := by decide
  obtain ⟨signature, data, signed, written⟩ :=
    HmacSha256Signer.sign_of_checked isCell (scalars_text _) checked
      (by omega) short (isObjectId_of_newestRef state.signed)
  exact ⟨data, after_queue sound checked signed written⟩

/-- `_message()` of the tests, as it is built, written and read back. -/
theorem fixtureMessage
    (payloadRef createdUtc : Text) (shaped : isObjectId payloadRef = true)
    (normalized : normalizeTimestamp createdUtc = .ok createdUtc) :
    ∃ (message : Dict) (messageId : Text) (file : Bytes) (read : Members),
      buildSpoolMessage (text "standalone") (text "market") payloadRef
        (text "D1") createdUtc none = .ok message.members ∧
      dumps (.obj message.members) = .ok file ∧
      Checked message.members messageId ∧ Checked read messageId ∧
      readJsonObject (some file) = .ok read ∧
      message.members.Perm read ∧
      textField read (text "created_utc") = createdUtc ∧
      textField read (text "payload_ref") = payloadRef := by
  have fromCell : text "standalone" ≠ [] := by decide
  have toCell : text "market" ≠ [] := by decide
  have known : text "D1" ∈ [text "D0", text "D1"] := by decide
  obtain ⟨messageId, idempotency, built, checked⟩ :=
    buildSpoolMessage_eq fromCell (scalars_text _) toCell (scalars_text _)
      shaped known normalized
  obtain ⟨file, dumped⟩ := checked.encodes
  obtain ⟨isRead, checkedRead⟩ := checked.read_dumps dumped
  have same := (List.perm_insertionSort KeyLe (messageMembers messageId
    idempotency (text "standalone") (text "market") payloadRef
    (text "D1") createdUtc)).symm
  refine ⟨⟨_, checked.distinct⟩, messageId, file, _, built, dumped,
    checked, checkedRead, isRead, same, ?_, ?_⟩
  · rw [textField, ← Json.lookup_perm same checked.distinct]
    rfl
  · rw [textField, ← Json.lookup_perm same checked.distinct]
    rfl

/--
Two queued messages: the first is delivered after its time, the second in
time.  The second is not acknowledged.
-/
theorem expired_message_blocks_next :
    ∃ (older newer : Dict) (olderFile newerFile : Bytes),
      buildSpoolMessage (text "standalone") (text "market") (fileRef [])
        (text "D1") (text "2026-07-29T00:00:00Z") none =
          .ok older.members ∧
      buildSpoolMessage (text "standalone") (text "market") (fileRef [0])
        (text "D1") (text "2026-07-29T00:01:00Z") none =
          .ok newer.members ∧
      dumps (.obj older.members) = .ok olderFile ∧
      dumps (.obj newer.members) = .ok newerFile ∧
      ¬ Meets code Serves
        ([.queue older, .queue newer,
          .deliver (some olderFile) (text "2026-07-29T00:02:00Z") 60,
          .deliver (some newerFile) (text "2026-07-29T00:02:00Z") 60].map
            (Event.call fixtureSigner.authority)) State.empty := by
  obtain ⟨older, olderId, olderFile, olderRead, olderBuilt, olderDumped,
    olderChecked, -, readOlder, -, olderCreated, -⟩ :=
    fixtureMessage (fileRef []) (text "2026-07-29T00:00:00Z")
      (isObjectId_sha256 []) (by decide)
  obtain ⟨newer, newerId, newerFile, newerRead, newerBuilt, newerDumped,
    newerChecked, checkedNewer, readNewer, sameNewer, newerCreated, -⟩ :=
    fixtureMessage (fileRef [0]) (text "2026-07-29T00:01:00Z")
      (isObjectId_sha256 [0]) (by decide)
  refine ⟨older, newer, olderFile, newerFile, olderBuilt, newerBuilt,
    olderDumped, newerDumped, ?_⟩
  simp only [List.map_cons, List.map_nil, Meets]
  rintro ⟨-, -, -, serves, -⟩
  have kept (event : Event) (state : State)
      (sound : ChainState fixtureSigner.authority state) :
      ChainState fixtureSigner.authority (Call.after code
        (Event.call fixtureSigner.authority event) state) :=
    chainState_call _ state (oneSender_call _ event) sound
  have sound := kept (.queue older) State.empty chainState_empty
  have short (count : Nat) (small : count < 2) :
      Writable (.int ((count : Int) + 1)) := by
    rw [Writable]
    interval_cases count <;> decide
  obtain ⟨olderData, olderSigned⟩ := fixtureSigner_signs chainState_empty
    olderChecked (short 0 (by decide))
  obtain ⟨newerData, newerSigned⟩ := fixtureSigner_signs sound
    newerChecked (by rw [olderSigned]; exact short 1 (by decide))
  rw [← signed_after_deliver fixtureSigner.authority _ (some olderFile)
    (text "2026-07-29T00:02:00Z") 60, olderSigned] at newerSigned
  have isNow : parseUtc (text "2026-07-29T00:02:00Z") =
      .ok 63920880120 := by decide
  have isOlder : parseUtc (textField olderRead (text "created_utc")) =
      .ok 63920880000 := by
    rw [olderCreated]
    decide
  have isNewer : parseUtc (textField newerRead (text "created_utc")) =
      .ok 63920880060 := by
    rw [newerCreated]
    decide
  have isEmpty := imported_after_queue fixtureSigner.authority older
    State.empty
  rw [← imported_after_queue fixtureSigner.authority newer,
    ← imported_after_expired fixtureSigner.authority _ _ 60 readOlder
      isNow isOlder (by decide)] at isEmpty
  have soundAfter := kept (.deliver (some olderFile)
    (text "2026-07-29T00:02:00Z") 60) _ (kept (.queue newer) _ sound)
  generalize Call.after code (Event.call fixtureSigner.authority (.deliver
    (some olderFile) (text "2026-07-29T00:02:00Z") 60)) _ = state at *
  have fresh : Fresh state (some newerFile) (text "2026-07-29T00:02:00Z")
      60 newerRead newerId := by
    refine ⟨readNewer, checkedNewer,
      ⟨⟨filename newerId, newer.members, newerData⟩, ?_, sameNewer⟩,
      ⟨_, _, isNow, isNewer, by decide, by decide⟩, ?_⟩
    · rw [newerSigned, lastSigned, if_pos rfl]
    · rw [isEmpty]
      rintro name data imported ⟨⟩
  refine not_follows_of_empty isEmpty ?_
    ((fresh.acknowledged_iff soundAfter).mp
      (serves newerRead newerId fresh))
  rw [newerSigned, place, if_pos rfl]
  exact Nat.succ_lt_succ (Nat.succ_pos _)

end ScientificResourceLab.Transport
