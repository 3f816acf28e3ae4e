import ScientificResourceLab.Transport.Reconciliation

/-!
# Recovery of acknowledgements after a crash

`Spoils` lists the calls that leave an imported message with an acknowledgement
that reconciliation does not repair: a `receive` that is cut between its two
writes while an earlier delivery has left a file, and a `receive` that rejects
a file under the id of an imported message.
-/

namespace ScientificResourceLab.Transport

open Python Contracts Steps
open Steps.Program (observe inspect update compute Safe)

/-! ## Calls -/

/-- The call leaves an imported message with another acknowledgement. -/
def Spoils (state : State) : Call Operation → Prop
  | .complete (.receive file verifier nowUtc ttlSeconds) =>
      ∃ messageId, filename messageId ∈ state.imported ∧
        Rejects messageId state file verifier nowUtc ttlSeconds
  | .crashed (.receive file verifier nowUtc ttlSeconds) writes =>
      (2 ≤ writes ∧ ∃ messageId, filename messageId ∈ state.imported ∧
        Rejects messageId state file verifier nowUtc ttlSeconds) ∨
      (writes = 1 ∧ ∃ message messageId,
        state.verdict file verifier nowUtc ttlSeconds =
          .ok (.imported message messageId) ∧
        filename messageId ∈ state.acks)
  | _ => False

/-- Only imported messages are acknowledged. -/
structure AcksImported (state : State) : Prop where
  apart : ImportedApart state
  imported : ∀ name, HoldsAck name state → name ∈ state.imported

section

variable {state : State} {file : Option Bytes} {verifier : Verifier}
variable {nowUtc : Text} {ttlSeconds : Int} {message : Members}
variable {messageId : Text}

theorem holdsMessage_of_mem
    (sound : ImportedApart state) (shaped : isObjectId messageId = true)
    (isImported : filename messageId ∈ state.imported) :
    HoldsMessage messageId state := by
  obtain ⟨data, found⟩ := Directory.mem_iff_lookup.mp isImported
  obtain ⟨message, otherId, read, checked, named⟩ :=
    sound.stored _ data found
  obtain rfl := filename_injective shaped checked.shaped named
  exact ⟨data, message, found, read, isText_eq_true.mpr checked.named⟩

/-- The two writes of a `receive` that imports a message. -/
theorem after_of_imported
    (chosen : state.verdict file verifier nowUtc ttlSeconds =
      .ok (.imported message messageId)) :
    ∃ data ackData,
      (∀ before : State, HoldsAck (filename messageId)
        (before.putAck (filename messageId) ackData)) ∧
      Call.after code
          (.complete (.receive file verifier nowUtc ttlSeconds)) state =
        (state.putImported (filename messageId) data).putAck
          (filename messageId) ackData ∧
      ∀ writes, Call.after code
          (.crashed (.receive file verifier nowUtc ttlSeconds) writes)
            state =
        if writes = 0 then state
        else if writes = 1 then
          state.putImported (filename messageId) data
        else (state.putImported (filename messageId) data).putAck
          (filename messageId) ackData := by
  obtain ⟨now, _, _, isNow, -, -, checked, -⟩ :=
    verdict_eq_imported_iff.mp chosen
  obtain ⟨created, normalized⟩ := normalizeTimestamp_of_parseUtc isNow
  obtain ⟨data, dumped⟩ := checked.encodes
  obtain ⟨ackId, ackData, ackDumped, acked⟩ :=
    writeAck_eq .acknowledged checked.shaped normalized
  obtain ⟨ack, read, status⟩ := readJsonObject_ack ackDumped
  refine ⟨data, ackData,
    fun before => ⟨ackData, ack, AList.lookup_insert _, read, status⟩,
    ?_, fun writes => ?_⟩
  · change ((receive file verifier nowUtc ttlSeconds).run state).2 = _
    rw [run_receive chosen]
    simp only [perform, atomicWriteJson_eq checked.shaped dumped, acked]
    rfl
  · change (receive file verifier nowUtc ttlSeconds).crash writes state = _
    rw [crash_receive chosen]
    simp only [perform, atomicWriteJson_eq checked.shaped dumped, acked]
    rcases writes with _ | _ | writes <;> rfl

/-- The acknowledgements of a `receive` that does not import. -/
structure Refuses (file : Option Bytes) (verifier : Verifier)
    (nowUtc : Text) (ttlSeconds : Int) (before after : State) : Prop where
  imported : after.imported = before.imported
  acks : ∀ name,
    after.acks.lookup name = before.acks.lookup name ∨
    (¬ HoldsAck name after ∧ ∃ exit messageId status,
      before.verdict file verifier nowUtc ttlSeconds = .ok exit ∧
      exit.acks file = some (messageId, status) ∧
      isObjectId messageId = true ∧ name = filename messageId)

theorem not_holdsAck_putAck
    {status : AckStatus} {createdUtc : Text} {ack : Members}
    {data : Bytes}
    (built : buildAck messageId status createdUtc = .ok ack)
    (written : dumps (.obj ack) = .ok data)
    (other : status ≠ .acknowledged) :
    ¬ HoldsAck (filename messageId)
      (state.putAck (filename messageId) data) := by
  obtain ⟨read, isRead, isStatus⟩ :=
    readJsonObject_of_buildAck built written
  rintro ⟨content, found, isContent, readFound, acknowledged⟩
  rw [State.putAck, AList.lookup_insert, Option.some.injEq] at isContent
  subst isContent
  rw [isRead, Except.ok.injEq] at readFound
  subst readFound
  rw [isText_eq_true] at isStatus acknowledged
  rw [isStatus, Option.some.injEq, Json.str.injEq] at acknowledged
  cases status with
  | acknowledged => exact other rfl
  | duplicate | rejected | expired | quarantined =>
      revert acknowledged
      decide

theorem Verdict.imported_of_acks
    {exit : Verdict} (acks : exit.acks file =
      some (messageId, .acknowledged)) :
    ∃ message, exit = .imported message messageId := by
  cases exit with
  | imported message otherId =>
      cases acks
      exact ⟨message, rfl⟩
  | malformed _ | quarantined _ _ _ | duplicate _ | rejected _ _
  | expired _ _ => cases acks

theorem refuses_call
    {call : Call Operation}
    (isReceive : call.operation =
      .receive file verifier nowUtc ttlSeconds)
    (refused : ∀ message messageId,
      state.verdict file verifier nowUtc ttlSeconds ≠
        .ok (.imported message messageId)) :
    Refuses file verifier nowUtc ttlSeconds state
      (call.after code state) := by
  refine call_keeps (Refuses file verifier nowUtc ttlSeconds state) ?_
    ⟨rfl, fun _ => .inl rfl⟩
  intro before after step refuses
  rw [isReceive] at step
  cases step with
  | quarantine | deadLetter => exact ⟨refuses.imported, refuses.acks⟩
  | store chosen _ => exact absurd chosen (refused _ _)
  | @acknowledge _ _ _ _ _ exit otherId status ack data chosen acks shaped
      built written =>
      refine ⟨refuses.imported, fun name => ?_⟩
      by_cases same : name = filename otherId
      · subst same
        refine .inr ⟨not_holdsAck_putAck built written ?_, exit,
          otherId, status, chosen, acks, shaped, rfl⟩
        rintro rfl
        obtain ⟨message, rfl⟩ := Verdict.imported_of_acks acks
        exact refused message otherId chosen
      · rw [holdsAck_putAck_of_ne same, State.putAck,
          AList.lookup_insert_ne same]
        exact refuses.acks name

/-- An import adds its message to the imported ones. -/
theorem mem_putImported
    {name other : Text} {data : Bytes} :
    name ∈ (state.putImported other data).imported ↔
      name = other ∨ name ∈ state.imported :=
  AList.mem_insert _

/-- The files of a message that was imported and acknowledged. -/
theorem acksImported_imported
    (sound : AcksImported state) (name : Text) (data ackData : Bytes) :
    (∀ other, HoldsAck other (state.putImported name data) →
      other ∈ (state.putImported name data).imported) ∧
    ∀ other,
      HoldsAck other ((state.putImported name data).putAck name ackData) →
      other ∈
        ((state.putImported name data).putAck name ackData).imported := by
  have first : ∀ other, HoldsAck other (state.putImported name data) →
      other ∈ (state.putImported name data).imported := fun other holds =>
    mem_putImported.mpr (.inr (sound.imported other holds))
  refine ⟨first, fun other holds => ?_⟩
  by_cases same : other = name
  · exact mem_putImported.mpr (.inl same)
  · rw [holdsAck_putAck_of_ne same] at holds
    exact first other holds

/-- Only imported messages are acknowledged, after any call. -/
theorem acksImported_call
    (call : Call Operation) (start : State) (sound : AcksImported start) :
    AcksImported (call.after code start) := by
  refine ⟨importedApart_call call start sound.apart, fun name holds => ?_⟩
  by_cases isReceive : ∃ file verifier nowUtc ttlSeconds,
      call.operation = .receive file verifier nowUtc ttlSeconds
  · obtain ⟨file, verifier, nowUtc, ttlSeconds, isReceive⟩ := isReceive
    by_cases imports : ∃ message messageId,
        start.verdict file verifier nowUtc ttlSeconds =
          .ok (.imported message messageId)
    · obtain ⟨message, messageId, chosen⟩ := imports
      obtain ⟨data, ackData, -, complete, crashed⟩ :=
        after_of_imported chosen
      obtain ⟨first, second⟩ := acksImported_imported sound
        (filename messageId) data ackData
      cases call with
      | complete operation =>
          obtain rfl : operation = _ := isReceive
          rw [complete] at holds ⊢
          exact second name holds
      | crashed operation writes =>
          obtain rfl : operation = _ := isReceive
          rw [crashed] at holds ⊢
          split_ifs at holds ⊢
          · exact sound.imported name holds
          · exact first name holds
          · exact second name holds
    · push Not at imports
      have refuses := refuses_call isReceive imports
      rw [refuses.imported]
      rcases refuses.acks name with same | ⟨absent, -⟩
      · obtain ⟨data, ack, found, rest⟩ := holds
        rw [same] at found
        exact sound.imported name ⟨data, ack, found, rest⟩
      · exact absurd holds absent
  · push Not at isReceive
    have repairs := repairs_call start isReceive
    rw [repairs.imported]
    have acked : name ∈ (call.after code start).acks := by
      obtain ⟨data, _, found, -⟩ := holds
      exact Directory.mem_of_lookup found
    rcases acks_of_other_call sound.apart isReceive name acked with
      earlier | isImported
    · obtain ⟨data, ack, found, rest⟩ := holds
      rw [repairs.kept name earlier] at found
      exact sound.imported name ⟨data, ack, found, rest⟩
    · exact isImported

/-! ## What a call means for recovery -/

/-- Acknowledging an imported message keeps the others reconcilable. -/
theorem reconcilable_imported
    (reconcilable : Reconcilable state) {name : Text} {data ackData : Bytes}
    (holds : ∀ before : State, HoldsAck name (before.putAck name ackData)) :
    Reconcilable ((state.putImported name data).putAck name ackData) := by
  intro other isImported isAcked
  by_cases same : other = name
  · rw [same]
    exact holds _
  · rw [holdsAck_putAck_of_ne same]
    refine reconcilable other ?_ ?_
    · exact (mem_putImported.mp isImported).resolve_left same
    · exact ((AList.mem_insert _).mp isAcked).resolve_left same

/-- An import without its acknowledgement needs that there is none. -/
theorem reconcilable_cut_iff
    (sound : AcksImported state) (reconcilable : Reconcilable state)
    {name : Text} {data : Bytes} (absent : name ∉ state.imported) :
    Reconcilable (state.putImported name data) ↔ name ∉ state.acks := by
  constructor
  · intro after isAcked
    exact absent (sound.imported name
      (after name (mem_putImported.mpr (.inl rfl)) isAcked))
  · intro unacked other isImported isAcked
    rcases mem_putImported.mp isImported with rfl | earlier
    · exact absurd isAcked unacked
    · exact reconcilable other earlier isAcked

/-- A refused delivery spoils the messages that it rejects. -/
theorem Refuses.reconcilable
    {after : State}
    (refuses : Refuses file verifier nowUtc ttlSeconds state after)
    (sound : ImportedApart state) (reconcilable : Reconcilable state)
    (accepts : ∀ messageId, filename messageId ∈ state.imported →
      ¬ Rejects messageId state file verifier nowUtc ttlSeconds) :
    Reconcilable after := by
  intro name isImported isAcked
  rw [refuses.imported] at isImported
  rcases refuses.acks name with same | ⟨-, exit, messageId, status, chosen,
    acks, shaped, rfl⟩
  · rw [← AList.lookup_isSome, same, AList.lookup_isSome] at isAcked
    obtain ⟨data, ack, found, rest⟩ := reconcilable name isImported isAcked
    rw [← same] at found
    exact ⟨data, ack, found, rest⟩
  · exact absurd ((holdsMessage_of_mem sound shaped
      isImported).rejects_of_acks chosen acks) (accepts messageId isImported)

theorem Rejects.not_imported
    (rejects : Rejects messageId state file verifier nowUtc ttlSeconds)
    (message : Members) (otherId : Text) :
    state.verdict file verifier nowUtc ttlSeconds ≠
      .ok (.imported message otherId) := by
  obtain ⟨exit, name, record, chosen, acks, -⟩ := rejects.performs
  rw [chosen]
  rintro ⟨⟩
  cases acks

/-- A rejection overwrites the acknowledgement of an imported message. -/
theorem Rejects.not_reconcilable
    {name : Text} {record data : Bytes} {ack : Members}
    (isImported : filename messageId ∈ state.imported)
    (read : readJsonObject (some data) = .ok ack)
    (status : isText ack (text "ack_status") (text "QUARANTINED") =
      true) :
    ¬ Reconcilable ((state.putQuarantine name record).putAck
      (filename messageId) data) := by
  intro reconcilable
  obtain ⟨content, found, isContent, readFound, acknowledged⟩ :=
    reconcilable (filename messageId) isImported
      (AList.mem_insert _ |>.mpr (.inl rfl))
  rw [State.putAck, AList.lookup_insert, Option.some.injEq] at isContent
  subst isContent
  rw [read, Except.ok.injEq] at readFound
  subst readFound
  rw [isText_eq_true] at status acknowledged
  rw [status] at acknowledged
  cases acknowledged

/-- A `receive` that imports its message. -/
theorem reconcilable_import_iff
    {call : Call Operation} (sound : AcksImported state)
    (reconcilable : Reconcilable state)
    (isReceive : call.operation =
      .receive file verifier nowUtc ttlSeconds)
    (chosen : state.verdict file verifier nowUtc ttlSeconds =
      .ok (.imported message messageId)) :
    Reconcilable (call.after code state) ↔ ¬ Spoils state call := by
  obtain ⟨data, ackData, holds, complete, crashed⟩ :=
    after_of_imported chosen
  have unrejected (otherId : Text) :
      ¬ Rejects otherId state file verifier nowUtc ttlSeconds :=
    fun rejects => rejects.not_imported message messageId chosen
  have both : Reconcilable ((state.putImported (filename messageId)
      data).putAck (filename messageId) ackData) :=
    reconcilable_imported reconcilable holds
  cases call with
  | complete operation =>
      obtain rfl : operation = _ := isReceive
      rw [complete]
      refine iff_of_true both ?_
      rintro ⟨otherId, -, rejects⟩
      exact unrejected otherId rejects
  | crashed operation writes =>
      obtain rfl : operation = _ := isReceive
      have spoils : Spoils state (.crashed (.receive file verifier nowUtc
          ttlSeconds) writes) ↔
          writes = 1 ∧ filename messageId ∈ state.acks := by
        constructor
        · rintro (⟨-, otherId, -, rejects⟩ | ⟨isOne, found, foundId,
            alsoChosen, acked⟩)
          · exact absurd rejects (unrejected otherId)
          · rw [chosen] at alsoChosen
            cases alsoChosen
            exact ⟨isOne, acked⟩
        · rintro ⟨isOne, acked⟩
          exact .inr ⟨isOne, message, messageId, chosen, acked⟩
      rw [crashed, spoils]
      rcases writes with _ | _ | writes
      · exact iff_of_true reconcilable (by simp)
      · obtain ⟨_, _, _, -, -, -, checked, -⟩ :=
          verdict_eq_imported_iff.mp chosen
        obtain ⟨written, isWritten⟩ := checked.encodes
        have absent :=
          ((admits_of_verdict chosen isWritten).apart sound.apart).2
        simpa using reconcilable_cut_iff sound reconcilable absent
      · exact iff_of_true both (by simp)

/-- A `receive` that does not import its message. -/
theorem reconcilable_refuse_iff
    {call : Call Operation} (sound : AcksImported state)
    (reconcilable : Reconcilable state)
    (isReceive : call.operation =
      .receive file verifier nowUtc ttlSeconds)
    (refused : ∀ message messageId,
      state.verdict file verifier nowUtc ttlSeconds ≠
        .ok (.imported message messageId)) :
    Reconcilable (call.after code state) ↔ ¬ Spoils state call := by
  by_cases rejected : ∃ messageId, filename messageId ∈ state.imported ∧
      Rejects messageId state file verifier nowUtc ttlSeconds
  · obtain ⟨messageId, isImported, rejects⟩ := rejected
    obtain ⟨name, record, ack, data, read, status, complete, crashed⟩ :=
      rejects.after
    have spoiled : ¬ Reconcilable ((state.putQuarantine name
        record).putAck (filename messageId) data) :=
      Rejects.not_reconcilable isImported read status
    cases call with
    | complete operation =>
        obtain rfl : operation = _ := isReceive
        rw [complete]
        exact iff_of_false spoiled
          (not_not.mpr ⟨messageId, isImported, rejects⟩)
    | crashed operation writes =>
        obtain rfl : operation = _ := isReceive
        have spoils : Spoils state (.crashed (.receive file verifier
            nowUtc ttlSeconds) writes) ↔ 2 ≤ writes := by
          constructor
          · rintro (⟨enough, -⟩ | ⟨-, found, foundId, chosen, -⟩)
            · exact enough
            · exact absurd chosen (refused found foundId)
          · intro enough
            exact .inl ⟨enough, messageId, isImported, rejects⟩
        rw [crashed, spoils]
        rcases writes with _ | _ | writes
        · exact iff_of_true reconcilable (by omega)
        · exact iff_of_true reconcilable (by omega)
        · exact iff_of_false spoiled (by omega)
  · push Not at rejected
    refine iff_of_true ((refuses_call isReceive refused).reconcilable
      sound.apart reconcilable rejected) fun spoils => ?_
    cases call with
    | complete operation =>
        obtain rfl : operation = _ := isReceive
        obtain ⟨messageId, isImported, rejects⟩ := spoils
        exact rejected messageId isImported rejects
    | crashed operation writes =>
        obtain rfl : operation = _ := isReceive
        rcases spoils with ⟨-, messageId, isImported, rejects⟩ |
          ⟨-, found, foundId, chosen, -⟩
        · exact rejected messageId isImported rejects
        · exact refused found foundId chosen

/-- A call keeps recovery exactly when it does not spoil it. -/
theorem reconcilable_call_iff
    (call : Call Operation) (sound : AcksImported state)
    (reconcilable : Reconcilable state) :
    Reconcilable (call.after code state) ↔ ¬ Spoils state call := by
  by_cases isReceive : ∃ file verifier nowUtc ttlSeconds,
      call.operation = .receive file verifier nowUtc ttlSeconds
  · obtain ⟨file, verifier, nowUtc, ttlSeconds, isReceive⟩ := isReceive
    by_cases imports : ∃ message messageId,
        state.verdict file verifier nowUtc ttlSeconds =
          .ok (.imported message messageId)
    · obtain ⟨message, messageId, chosen⟩ := imports
      exact reconcilable_import_iff sound reconcilable isReceive chosen
    · push Not at imports
      exact reconcilable_refuse_iff sound reconcilable isReceive imports
  · push Not at isReceive
    have repairs := repairs_call state isReceive
    refine iff_of_true (fun name isImported isAcked => ?_) ?_
    · rw [repairs.imported] at isImported
      rcases repairs.added name isAcked with earlier | holds
      · obtain ⟨data, ack, found, rest⟩ :=
          reconcilable name isImported earlier
        rw [← repairs.kept name earlier] at found
        exact ⟨data, ack, found, rest⟩
      · exact holds
    · intro spoils
      cases call with
      | complete operation =>
          cases operation with
          | receive _ _ _ _ => exact isReceive _ _ _ _ rfl
          | queueMessage _ _ _ _ | reconcileAcknowledgements _
          | alterSignature _ _ => cases spoils
      | crashed operation writes =>
          cases operation with
          | receive _ _ _ _ => exact isReceive _ _ _ _ rfl
          | queueMessage _ _ _ _ | reconcileAcknowledgements _
          | alterSignature _ _ => cases spoils

end

/-! ## Runs -/

theorem acksImported_empty : AcksImported State.empty where
  apart := importedApart_empty
  imported := by
    rintro name ⟨data, ack, ⟨⟩, -⟩

theorem reconcilable_empty : Reconcilable State.empty := by
  rintro name ⟨⟩

/--
Over every history of calls, each complete or cut after any of its writes:
reconciliation recovers the acknowledgements in every state that is reached
exactly when no call spoils them.
-/
theorem recovers_throughout_iff (calls : List (Call Operation)) :
    Throughout code Recovers calls State.empty ↔
      Meets code (fun state call => ¬ Spoils state call) calls
        State.empty := by
  refine throughout_iff_meets acksImported_call ?_ calls
    acksImported_empty
    ((recovers_iff_reconcilable importedApart_empty).mpr
      reconcilable_empty)
  intro call state sound recovers
  rw [recovers_iff_reconcilable (acksImported_call call state sound).apart]
  exact reconcilable_call_iff call sound
    ((recovers_iff_reconcilable sound.apart).mp recovers)

/--
The message of the tests is queued, and delivered to a receiver without a key
binding, which writes `QUARANTINED`.  The next delivery is cut after it has
imported the message, and reconciliation leaves the old acknowledgement.
-/
theorem stale_acknowledgement_survives_reconciliation :
    ∃ (message : Dict) (file : Bytes) (first last : List (Call Operation)),
      buildSpoolMessage (text "standalone") (text "market") (fileRef [])
        (text "D1") (text "2026-07-29T00:00:00Z") none =
          .ok message.members ∧
      dumps (.obj message.members) = .ok file ∧
      first = [.complete (.queueMessage fixtureSigner.sign message none
          none),
        .complete (.receive (some file) nullSignatureVerifier
          (text "2026-07-29T00:00:05Z") 60)] ∧
      last = [.crashed (.receive (some file) fixtureSigner.verify
        (text "2026-07-29T00:00:10Z") 60) 1] ∧
      (afterCalls code first State.empty).imported = ∅ ∧
      ¬ Recovers (afterCalls code (first ++ last) State.empty) := by
  obtain ⟨message, messageId, file, read, data, built, dumped, -, decoded,
    -, signed, imports⟩ := fixture_queued
  have sound : ChainState fixtureSigner.authority _ := chainState_call
    (Event.call fixtureSigner.authority (.queue message)) State.empty
    (oneSender_call _ _) chainState_empty
  have isEmpty := imported_after_queue fixtureSigner.authority message
    State.empty
  generalize isQueued : Call.after code (Event.call
    fixtureSigner.authority (.queue message)) State.empty = queued
      at sound signed isEmpty
  obtain ⟨_, _, signature, -, -, -, -, isSigned, -⟩ :=
    verdict_eq_imported_iff.mp (imports queued sound signed isEmpty)
  have isNow : parseUtc (text "2026-07-29T00:00:05Z") =
      .ok 63920880005 := by decide
  have rejects : Rejects messageId queued (some file)
      nullSignatureVerifier (text "2026-07-29T00:00:05Z") 60 :=
    ⟨⟨_, isNow⟩, by decide, .inr ⟨read, decoded,
      .inr ⟨signature, isSigned, rfl⟩⟩⟩
  obtain ⟨name, record, ack, ackData, -, -, complete, -⟩ := rejects.after
  have soundAfter : ChainState fixtureSigner.authority
      ((queued.putQuarantine name record).putAck (filename messageId)
        ackData) := by
    rw [← complete]
    exact chainState_call _ queued .receive sound
  have isFirst : afterCalls code
      [.complete (.queueMessage fixtureSigner.sign message none none),
        .complete (.receive (some file) nullSignatureVerifier
          (text "2026-07-29T00:00:05Z") 60)] State.empty =
      (queued.putQuarantine name record).putAck (filename messageId)
        ackData := by
    rw [← complete, ← isQueued]
    rfl
  have acksImported : AcksImported ((queued.putQuarantine name
      record).putAck (filename messageId) ackData) := by
    rw [← isFirst]
    exact afterCalls_induction acksImported_call _ acksImported_empty
  have reconcilable : Reconcilable ((queued.putQuarantine name
      record).putAck (filename messageId) ackData) := by
    intro other isImported
    change other ∈ queued.imported at isImported
    rw [isEmpty] at isImported
    cases isImported
  refine ⟨message, file, _, _, built, dumped, rfl, rfl, ?_, ?_⟩
  · rw [isFirst]
    exact isEmpty
  · rw [afterCalls_append, isFirst]
    intro recovers
    have unspoiled := (reconcilable_call_iff (.crashed (.receive
      (some file) fixtureSigner.verify (text "2026-07-29T00:00:10Z") 60) 1)
      acksImported reconcilable).mp ((recovers_iff_reconcilable
        (acksImported_call _ _ acksImported).apart).mp recovers)
    exact unspoiled (.inr ⟨rfl, read, messageId,
      imports _ soundAfter signed isEmpty,
      AList.mem_insert _ |>.mpr (.inl rfl)⟩)

end ScientificResourceLab.Transport
