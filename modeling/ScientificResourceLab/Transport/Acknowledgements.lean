import ScientificResourceLab.Transport.Delivery

/-!
# Acknowledgements on disk

A message is settled when it is imported and its acknowledgement on disk says
`ACKNOWLEDGED`.  The duplicate test protects a settled message, but only from
deliveries that reach it: `receive` first reads the message file and checks
its signature, and a failure there writes `QUARANTINED` over the
acknowledgement.  `Overwrites` is this condition, on the call and on the state
in which it is made.
-/

namespace ScientificResourceLab.Transport

open Python Contracts Steps
open Steps.Program (observe inspect update compute Safe)

/-- A message that is imported and acknowledged on disk. -/
structure Settled (messageId : Text) (state : State) : Prop where
  shaped : isObjectId messageId = true
  acked : ∃ data ack,
    state.acks.lookup (filename messageId) = some data ∧
    readJsonObject (some data) = .ok ack ∧
    isText ack (text "ack_status") (text "ACKNOWLEDGED") = true
  imported : ∃ data message,
    state.imported.lookup (filename messageId) = some data ∧
    readJsonObject (some data) = .ok message ∧
    isText message (text "message_id") messageId = true

/--
The file cannot be decoded and its bytes have the id of the message, or it
holds the message and the signature is missing, bad or not verified.
-/
def Rejects
    (messageId : Text) (state : State) (file : Option Bytes)
    (verifier : Verifier) (nowUtc : Text) (ttlSeconds : Int) : Prop :=
  (∃ now, parseUtc nowUtc = .ok now) ∧ 0 ≤ ttlSeconds ∧
    ((∃ error, decodeMessage file = .error error ∧
        caught error = true ∧ fileRef (file.getD []) = messageId) ∨
      ∃ message, decodeMessage file = .ok (message, messageId) ∧
        ((∃ error, decodeSignature
              (state.signatures.lookup (filename messageId)) =
                .error error ∧ caught error = true) ∨
          ∃ signature, decodeSignature
              (state.signatures.lookup (filename messageId)) =
                .ok signature ∧
            verifier message signature = .ok false))

/-- The call writes over the acknowledgement of the message. -/
def Overwrites (messageId : Text) (state : State) :
    Call Operation → Prop
  | .complete (.receive file verifier nowUtc ttlSeconds) =>
      Rejects messageId state file verifier nowUtc ttlSeconds
  | .crashed (.receive file verifier nowUtc ttlSeconds) writes =>
      2 ≤ writes ∧
        Rejects messageId state file verifier nowUtc ttlSeconds
  | _ => False

section

variable {state : State} {messageId : Text} {file : Option Bytes}
variable {verifier : Verifier} {nowUtc : Text} {ttlSeconds : Int}

/-! ## What the duplicate test protects -/

/-- The message under an id is imported. -/
def HoldsMessage (messageId : Text) (state : State) : Prop :=
  ∃ data message,
    state.imported.lookup (filename messageId) = some data ∧
    readJsonObject (some data) = .ok message ∧
    isText message (text "message_id") messageId = true

/-- An imported message never passes the duplicate test. -/
theorem HoldsMessage.not_unique
    (holds : HoldsMessage messageId state) {message : Members}
    (checked : Checked message messageId) :
    state.isDuplicate message ≠ .ok false := by
  intro unique
  have isId : messageIdFromMapping message = .ok messageId :=
    messageIdFromMapping_eq_ok.mpr ⟨checked.named, checked.shaped⟩
  rw [State.isDuplicate, isId] at unique
  obtain ⟨data, imported, isImported, read, named⟩ := holds
  obtain ⟨found, readFound, differs, -⟩ := duplicateAmong_eq_false unique
    (filename messageId, data) (mem_sortedFiles.mpr isImported)
  rw [read, Except.ok.injEq] at readFound
  subst readFound
  rw [named] at differs
  cases differs

/-- The exits that write to an imported message come before that test. -/
theorem HoldsMessage.rejects_of_acks
    (holds : HoldsMessage messageId state) {exit : Verdict}
    {status : AckStatus}
    (chosen : state.verdict file verifier nowUtc ttlSeconds = .ok exit)
    (acks : exit.acks file = some (messageId, status)) :
    Rejects messageId state file verifier nowUtc ttlSeconds := by
  obtain ⟨now, isNow, nonNegative, chosen⟩ := verdict_eq_ok_iff.mp chosen
  refine ⟨⟨now, isNow⟩, nonNegative, ?_⟩
  rcases chosen with ⟨error, undecoded, isCaught, rfl⟩ |
    ⟨message, foundId, read, checked, chosen⟩
  · cases acks
    exact .inl ⟨error, undecoded, isCaught, rfl⟩
  · have decoded := decodeMessage_eq_ok.mpr ⟨read, checked⟩
    rcases (messageVerdict_eq_ok_iff checked.shaped).mp chosen with
      ⟨error, unsigned, isCaught, rfl⟩ | ⟨signature, signed, chosen⟩
    · cases acks
      exact .inr ⟨message, decoded, .inl ⟨error, unsigned, isCaught⟩⟩
    · rcases chosen with ⟨refused, rfl⟩ | ⟨-, chosen⟩
      · cases acks
        exact .inr ⟨message, decoded, .inr ⟨signature, signed, refused⟩⟩
      · rcases verifiedVerdict_eq_ok_iff.mp chosen with
          ⟨-, rfl⟩ | ⟨unique, chosen⟩
        · cases acks
        · have same : foundId = messageId := by
            rcases chosen with ⟨-, rfl⟩ | ⟨-, ⟨-, rfl⟩ |
              ⟨-, _, -, ⟨-, rfl⟩ | ⟨-, rfl⟩⟩⟩
            all_goals
              cases acks
              rfl
          subst same
          exact absurd unique (holds.not_unique checked)

/-- What does not write to a settled message keeps it. -/
theorem Settled.putAck
    (settled : Settled messageId state) {other : Text} {data : Bytes}
    (shaped : isObjectId other = true) (apart : other ≠ messageId) :
    Settled messageId (state.putAck (filename other) data) where
  shaped := settled.shaped
  acked := by
    obtain ⟨content, ack, found, rest⟩ := settled.acked
    refine ⟨content, ack, ?_, rest⟩
    rw [State.putAck, Directory.lookup_insert_eq_some]
    exact .inr ⟨fun same => apart
      (filename_injective settled.shaped shaped same).symm, found⟩
  imported := settled.imported

theorem Settled.putImported
    (settled : Settled messageId state) {other : Text} {data : Bytes}
    (shaped : isObjectId other = true) (apart : other ≠ messageId) :
    Settled messageId (state.putImported (filename other) data) where
  shaped := settled.shaped
  acked := settled.acked
  imported := by
    obtain ⟨content, message, found, rest⟩ := settled.imported
    refine ⟨content, message, ?_, rest⟩
    rw [State.putImported, Directory.lookup_insert_eq_some]
    exact .inr ⟨fun same => apart
      (filename_injective settled.shaped shaped same).symm, found⟩

/-- A call that does not reject the message keeps it settled. -/
theorem Settled.call
    {call : Call Operation} (settled : Settled messageId state)
    (accepts : ∀ file verifier nowUtc ttlSeconds,
      call.operation = .receive file verifier nowUtc ttlSeconds →
        ¬ Rejects messageId state file verifier nowUtc ttlSeconds) :
    Settled messageId (call.after code state) := by
  refine call_keeps (Settled messageId) ?_ settled
  intro before after step kept
  generalize call.operation = operation at step accepts
  cases step with
  | queue | sign _ _ _ _ _ | quarantine | deadLetter =>
      exact ⟨kept.shaped, kept.acked, kept.imported⟩
  | @alter name content =>
      cases content with
      | none => exact ⟨kept.shaped, kept.acked, kept.imported⟩
      | some data => exact ⟨kept.shaped, kept.acked, kept.imported⟩
  | store chosen written =>
      cases admits_of_verdict chosen written with
      | receive _ checked named _ _ unique _ _ _ _ =>
          rw [named]
          refine kept.putImported checked.shaped ?_
          rintro rfl
          exact HoldsMessage.not_unique settled.imported checked unique
  | acknowledge chosen acks shaped built written =>
      refine kept.putAck shaped ?_
      rintro rfl
      exact accepts _ _ _ _ rfl
        (HoldsMessage.rejects_of_acks settled.imported chosen acks)
  | @reconcile _ _ other _ _ absent shaped built written =>
      refine kept.putAck shaped ?_
      rintro rfl
      obtain ⟨data, ack, found, -⟩ := kept.acked
      exact absent (Directory.mem_of_lookup found)

/-! ## What a rejection writes -/

/-- A rejection quarantines first, and then acknowledges. -/
theorem Rejects.performs
    (rejects : Rejects messageId state file verifier nowUtc ttlSeconds) :
    ∃ exit name record,
      state.verdict file verifier nowUtc ttlSeconds = .ok exit ∧
      exit.acks file = some (messageId, .quarantined) ∧
      isObjectId messageId = true ∧
      perform file nowUtc exit = (do
        writing (fun before => before.putQuarantine name record) ⟨⟩
        writeAck messageId .quarantined nowUtc) := by
  obtain ⟨⟨now, isNow⟩, nonNegative, reason⟩ := rejects
  rcases reason with ⟨error, undecoded, isCaught, rfl⟩ |
    ⟨message, decoded, reason⟩
  · obtain ⟨record, quarantined⟩ := quarantineRaw_eq file
      (scalars_append.mpr ⟨scalars_text "malformed_message:",
        printable_decodeMessage file error undecoded⟩)
    refine ⟨.malformed error, filename (fileRef (file.getD [])), record,
      ?_, rfl, isObjectId_sha256 _, ?_⟩
    · exact verdict_eq_ok_iff.mpr ⟨now, isNow, nonNegative,
        .inl ⟨error, undecoded, isCaught, rfl⟩⟩
    · rw [perform, quarantined]
  · obtain ⟨read, checked⟩ := decodeMessage_eq_ok.mp decoded
    obtain ⟨cause, scalars, chosen⟩ : ∃ cause, Scalars cause ∧
        state.messageVerdict message messageId verifier now ttlSeconds =
          .ok (.quarantined message messageId cause) := by
      simp only [messageVerdict_eq_ok_iff checked.shaped]
      rcases reason with ⟨error, unsigned, isCaught⟩ |
        ⟨signature, signed, refused⟩
      · exact ⟨_, scalars_append.mpr
          ⟨scalars_text "missing_or_bad_signature:",
            printable_decodeSignature _ error unsigned⟩,
          .inl ⟨error, unsigned, isCaught, rfl⟩⟩
      · exact ⟨_, scalars_text "signature_verification_failed",
          .inr ⟨signature, signed, .inl ⟨refused, rfl⟩⟩⟩
    obtain ⟨record, quarantined⟩ := quarantineMessage_eq checked scalars
    refine ⟨.quarantined message messageId cause, filename messageId,
      record, ?_, rfl, checked.shaped, ?_⟩
    · exact verdict_eq_ok_iff.mpr ⟨now, isNow, nonNegative,
        .inr ⟨message, messageId, read, checked, chosen⟩⟩
    · rw [perform, quarantined]

/-- The acknowledgement is the second write of a rejection. -/
theorem Rejects.after
    (rejects : Rejects messageId state file verifier nowUtc ttlSeconds) :
    ∃ name record ack data,
      readJsonObject (some data) = .ok ack ∧
      isText ack (text "ack_status") (text "QUARANTINED") = true ∧
      Call.after code
          (.complete (.receive file verifier nowUtc ttlSeconds)) state =
        (state.putQuarantine name record).putAck (filename messageId)
          data ∧
      ∀ writes, Call.after code
          (.crashed (.receive file verifier nowUtc ttlSeconds) writes)
            state =
        if writes = 0 then state
        else if writes = 1 then state.putQuarantine name record
        else (state.putQuarantine name record).putAck (filename messageId)
          data := by
  obtain ⟨exit, name, record, chosen, -, shaped, performs⟩ :=
    rejects.performs
  obtain ⟨⟨now, isNow⟩, -⟩ := rejects
  obtain ⟨created, normalized⟩ := normalizeTimestamp_of_parseUtc isNow
  obtain ⟨ackId, data, dumped, acked⟩ :=
    writeAck_eq .quarantined shaped normalized
  obtain ⟨ack, read, status⟩ := readJsonObject_ack dumped
  refine ⟨name, record, ack, data, read, status, ?_, ?_⟩
  · change ((receive file verifier nowUtc ttlSeconds).run state).2 = _
    rw [run_receive chosen, performs, acked]
    rfl
  · intro writes
    change (receive file verifier nowUtc ttlSeconds).crash writes state = _
    rw [crash_receive chosen, performs, acked]
    rcases writes with _ | _ | writes <;> rfl

theorem not_settled_of_ack
    {start : State} {ack : Members} {data : Bytes}
    (read : readJsonObject (some data) = .ok ack)
    (status : isText ack (text "ack_status") (text "QUARANTINED") =
      true) :
    ¬ Settled messageId (start.putAck (filename messageId) data) := by
  intro settled
  obtain ⟨content, found, isContent, readFound, acknowledged⟩ :=
    settled.acked
  rw [State.putAck, AList.lookup_insert, Option.some.injEq] at isContent
  subst isContent
  rw [read, Except.ok.injEq] at readFound
  subst readFound
  rw [isText_eq_true] at status acknowledged
  rw [status] at acknowledged
  cases acknowledged

/-- A call keeps a message settled exactly when it does not overwrite. -/
theorem Settled.call_iff
    (call : Call Operation) (settled : Settled messageId state) :
    Settled messageId (call.after code state) ↔
      ¬ Overwrites messageId state call := by
  by_cases rejects : ∃ file verifier nowUtc ttlSeconds,
      call.operation = .receive file verifier nowUtc ttlSeconds ∧
        Rejects messageId state file verifier nowUtc ttlSeconds
  · obtain ⟨file, verifier, nowUtc, ttlSeconds, isReceive, rejects⟩ :=
      rejects
    obtain ⟨name, record, ack, data, read, status, complete, crashed⟩ :=
      rejects.after
    cases call with
    | complete operation =>
        obtain rfl : operation = _ := isReceive
        rw [complete]
        exact iff_of_false (not_settled_of_ack read status)
          (not_not.mpr rejects)
    | crashed operation writes =>
        obtain rfl : operation = _ := isReceive
        rw [crashed, Overwrites]
        rcases writes with _ | _ | writes
        · exact iff_of_true settled (by omega)
        · exact iff_of_true
            ⟨settled.shaped, settled.acked, settled.imported⟩ (by omega)
        · exact iff_of_false (not_settled_of_ack read status)
            (not_not.mpr ⟨by omega, rejects⟩)
  · refine iff_of_true (settled.call fun file verifier nowUtc ttlSeconds
      isReceive rejected => rejects ⟨file, verifier, nowUtc, ttlSeconds,
        isReceive, rejected⟩) fun overwrites => rejects ?_
    cases call with
    | complete operation =>
        cases operation with
        | receive file verifier nowUtc ttlSeconds =>
            exact ⟨file, verifier, nowUtc, ttlSeconds, rfl, overwrites⟩
        | queueMessage _ _ _ _ | reconcileAcknowledgements _
        | alterSignature _ _ => cases overwrites
    | crashed operation writes =>
        cases operation with
        | receive file verifier nowUtc ttlSeconds =>
            exact ⟨file, verifier, nowUtc, ttlSeconds, rfl, overwrites.2⟩
        | queueMessage _ _ _ _ | reconcileAcknowledgements _
        | alterSignature _ _ => cases overwrites

end

/--
From every spool state in which a message is imported and acknowledged, over
every history of calls and of changes to signature files: the message stays
imported and acknowledged exactly when no call overwrites it.
-/
theorem settled_throughout_iff
    (messageId : Text) (calls : List (Call Operation)) (start : State)
    (settled : Settled messageId start) :
    Throughout code (Settled messageId) calls start ↔
      Meets code (fun state call => ¬ Overwrites messageId state call)
        calls start :=
  throughout_iff_meets (fun _ _ (_ : True) => trivial)
    (fun call _ _ holds => holds.call_iff call) calls trivial settled

/-! ## A redelivery that is not verified -/

/-- `NullSignatureVerifier`. -/
def nullSignatureVerifier : Verifier :=
  fun _ _ => .ok false

/-- A receiver leaves the signature files. -/
theorem signatures_after_receive
    (state : State) (file : Option Bytes) (verifier : Verifier)
    (nowUtc : Text) (ttlSeconds : Int) :
    (Call.after code (.complete (.receive file verifier nowUtc
      ttlSeconds)) state).signatures = state.signatures := by
  refine call_keeps (fun after => after.signatures = state.signatures) ?_
    rfl
  intro before after step same
  cases step with
  | quarantine | deadLetter | acknowledge _ _ _ _ _ | store _ _ =>
      exact same

theorem settled_of_verdict
    {state : State} {file : Option Bytes} {verifier : Verifier}
    {nowUtc : Text} {ttlSeconds : Int} {message : Members}
    {messageId : Text} (checked : Checked message messageId)
    (chosen : state.verdict file verifier nowUtc ttlSeconds =
      .ok (.imported message messageId)) :
    Settled messageId (Call.after code
      (.complete (.receive file verifier nowUtc ttlSeconds)) state) := by
  obtain ⟨ackId, created, data, ackData, dumped, ackDumped, ran⟩ :=
    run_of_imported checked chosen
  obtain ⟨ack, readAck, status⟩ := readJsonObject_ack ackDumped
  obtain ⟨read, checkedRead⟩ := checked.read_dumps dumped
  change Settled messageId
    ((receive file verifier nowUtc ttlSeconds).run state).2
  rw [ran]
  exact ⟨checked.shaped,
    ⟨ackData, ack, AList.lookup_insert _, readAck, status⟩,
    ⟨data, _, AList.lookup_insert _, read,
      isText_eq_true.mpr checkedRead.named⟩⟩

/-- The message of the tests, queued: any such state imports it. -/
theorem fixture_queued :
    ∃ (message : Dict) (messageId : Text) (file : Bytes) (read : Members)
      (data : Bytes),
      buildSpoolMessage (text "standalone") (text "market") (fileRef [])
        (text "D1") (text "2026-07-29T00:00:00Z") none =
          .ok message.members ∧
      dumps (.obj message.members) = .ok file ∧
      Checked message.members messageId ∧
      decodeMessage (some file) = .ok (read, messageId) ∧
      textField read (text "payload_ref") = fileRef [] ∧
      (Call.after code (Event.call fixtureSigner.authority
        (.queue message)) State.empty).signed =
          [⟨filename messageId, message.members, data⟩] ∧
      ∀ state, ChainState fixtureSigner.authority state →
        state.signed = [⟨filename messageId, message.members, data⟩] →
        state.imported = ∅ →
        state.verdict (some file) fixtureSigner.authority.verifier
            (text "2026-07-29T00:00:10Z") 60 =
          .ok (.imported read messageId) := by
  obtain ⟨message, messageId, file, read, built, dumped, checked,
    checkedRead, isRead, same, isCreated, isPayload⟩ :=
    fixtureMessage (fileRef []) (text "2026-07-29T00:00:00Z")
      (isObjectId_sha256 []) (by decide)
  obtain ⟨data, signed⟩ := fixtureSigner_signs chainState_empty checked
    (by rw [Writable]; decide)
  have created : parseUtc (textField read (text "created_utc")) =
      .ok 63920880000 := by
    rw [isCreated]
    decide
  have isNow : parseUtc (text "2026-07-29T00:00:10Z") =
      .ok 63920880010 := by decide
  refine ⟨message, messageId, file, read, data, built, dumped, checked,
    decodeMessage_eq_ok.mpr ⟨isRead, checkedRead⟩, isPayload, signed, ?_⟩
  intro state sound isSigned isEmpty
  have fresh : Fresh state (some file) (text "2026-07-29T00:00:10Z") 60
      read messageId := by
    refine ⟨isRead, checkedRead,
      ⟨⟨filename messageId, message.members, data⟩, ?_, same⟩,
      ⟨_, _, isNow, created, by decide, by decide⟩, ?_⟩
    · rw [isSigned, lastSigned, if_pos rfl]
    · rw [isEmpty]
      rintro name data imported ⟨⟩
  have follows : Follows state (filename messageId) := by
    have none : state.importedUpTo = 0 := by
      rw [State.importedUpTo, isEmpty]
      rfl
    rw [Follows, none, isSigned, place, if_pos rfl]
    rfl
  exact ((fresh.verdict sound).resolve_right fun jumps =>
    jumps.1 follows).2

/-- The message of the tests is queued, delivered and settled. -/
theorem fixture_settles :
    ∃ (message : Dict) (messageId : Text) (file : Bytes)
      (read signature : Members) (state : State),
      buildSpoolMessage (text "standalone") (text "market") (fileRef [])
        (text "D1") (text "2026-07-29T00:00:00Z") none =
          .ok message.members ∧
      dumps (.obj message.members) = .ok file ∧
      state = afterCalls code
        ([.queue message,
          .deliver (some file) (text "2026-07-29T00:00:10Z") 60].map
            (Event.call fixtureSigner.authority)) State.empty ∧
      decodeMessage (some file) = .ok (read, messageId) ∧
      decodeSignature (state.signatures.lookup (filename messageId)) =
        .ok signature ∧
      Settled messageId state := by
  obtain ⟨message, messageId, file, read, data, built, dumped, -, decoded,
    -, signed, imports⟩ := fixture_queued
  have sound : ChainState fixtureSigner.authority _ := chainState_call
    (Event.call fixtureSigner.authority (.queue message)) State.empty
    (oneSender_call _ _) chainState_empty
  have chosen := imports _ sound signed
    (imported_after_queue fixtureSigner.authority message State.empty)
  obtain ⟨isRead, checkedRead⟩ := decodeMessage_eq_ok.mp decoded
  obtain ⟨written, isWritten⟩ := checkedRead.encodes
  cases admits_of_verdict chosen isWritten with
  | @receive _ _ _ _ _ signature _ _ _ _ _ _ isSigned _ _ _ _ _ _ =>
      refine ⟨message, messageId, file, read, signature, _, built, dumped,
        rfl, decoded, ?_, settled_of_verdict checkedRead chosen⟩
      change decodeSignature ((Call.after code (.complete (.receive _ _ _
        _)) _).signatures.lookup _) = _
      rw [signatures_after_receive]
      exact isSigned

/-- The theorem at the settled message of the tests. -/
theorem settled_throughout_iff_fixture :
    ∃ (messageId : Text) (file : Bytes) (state : State),
      Settled messageId state ∧
        (Throughout code (Settled messageId)
            [.complete (.receive (some file) nullSignatureVerifier
              (text "2026-07-29T00:00:20Z") 60)] state ↔
          Meets code (fun state call => ¬ Overwrites messageId state call)
            [.complete (.receive (some file) nullSignatureVerifier
              (text "2026-07-29T00:00:20Z") 60)] state) := by
  obtain ⟨message, messageId, file, read, signature, state, -, -, -, -, -,
    settled⟩ := fixture_settles
  exact ⟨messageId, file, state, settled,
    settled_throughout_iff messageId _ state settled⟩

/--
The message of the tests is queued, delivered, and delivered again to a
receiver without a key binding.  Its acknowledgement is overwritten.
-/
theorem redelivery_overwrites_acknowledgement :
    ∃ (message : Dict) (messageId : Text) (file : Bytes) (state : State),
      buildSpoolMessage (text "standalone") (text "market") (fileRef [])
        (text "D1") (text "2026-07-29T00:00:00Z") none =
          .ok message.members ∧
      dumps (.obj message.members) = .ok file ∧
      state = afterCalls code
        ([.queue message,
          .deliver (some file) (text "2026-07-29T00:00:10Z") 60].map
            (Event.call fixtureSigner.authority)) State.empty ∧
      Settled messageId state ∧
      ¬ Settled messageId (afterCalls code
        [.complete (.receive (some file) nullSignatureVerifier
          (text "2026-07-29T00:00:20Z") 60)] state) := by
  obtain ⟨message, messageId, file, read, signature, state, built, dumped,
    isState, decoded, signed, settled⟩ := fixture_settles
  refine ⟨message, messageId, file, state, built, dumped, isState, settled,
    ?_⟩
  have isNow : parseUtc (text "2026-07-29T00:00:20Z") =
      .ok 63920880020 := by decide
  have rejects : Rejects messageId state (some file) nullSignatureVerifier
      (text "2026-07-29T00:00:20Z") 60 :=
    ⟨⟨_, isNow⟩, by decide, .inr ⟨read, decoded,
      .inr ⟨signature, signed, rfl⟩⟩⟩
  intro kept
  exact (settled.call_iff (.complete (.receive (some file)
    nullSignatureVerifier (text "2026-07-29T00:00:20Z") 60))).mp kept
      rejects

end ScientificResourceLab.Transport
