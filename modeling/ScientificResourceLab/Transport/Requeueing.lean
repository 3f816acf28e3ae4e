import ScientificResourceLab.Transport.Recovery

/-!
# Queueing a message again

`queue_message` writes the signature file of its message in place, whether or
not the message has been imported.  The receiver reads the head of the chain
from the signature files of the imported messages, so a retry of an imported
message can move the head.  `MovesHead` is this condition, on the state before
the retry and on its arguments; a retry with default arguments always meets it
when the message is imported.
-/

namespace ScientificResourceLab.Transport

open Python Contracts Steps
open Steps.Program (observe inspect update compute Safe)

/-- The call returns an acknowledgement with the status `ACKNOWLEDGED`. -/
def Acknowledges (state : State) (call : Action Members) : Prop :=
  ∃ ack, (call.run state).1 = .ok ack ∧
    isText ack (text "ack_status") (text "ACKNOWLEDGED") = true

/-- The signature file that `queue_message` writes for a message. -/
structure SignsAgain (state : State) (signer : Signer) (message : Dict)
    (sequence : Option Int) (previousSignatureRef : Option Text)
    (messageId : Text) (data : Bytes) : Prop where
  checked : Checked message.members messageId
  signed : ∃ prior signature,
    state.prior previousSignatureRef = .ok prior ∧
    signer message.members (sequence.getD (prior.1 + 1)) prior.2 =
      .ok signature ∧
    dumps (.obj signature.toDict) = .ok data

/--
The message is imported, and its new signature file changes what
`_latest_imported_signature` returns.
-/
def MovesHead (state : State) (signer : Signer) (message : Dict)
    (sequence : Option Int) (previousSignatureRef : Option Text) : Prop :=
  ∃ messageId data,
    SignsAgain state signer message sequence previousSignatureRef messageId
      data ∧
    filename messageId ∈ state.imported ∧
    (state.alterSignature (filename messageId)
      (some data)).latestImportedSignature ≠ state.latestImportedSignature

/-! ## The status that `receive` returns -/

/-- An acknowledgement that the exit built. -/
def BuiltBy (exit : Verdict) (file : Option Bytes) (nowUtc : Text)
    (result : Except PyError Members) : Prop :=
  ∀ ack, result = .ok ack →
    ∃ messageId status, buildAck messageId status nowUtc = .ok ack ∧
      (status = .acknowledged →
        exit.acks file = some (messageId, .acknowledged))

theorem builtBy_error
    {exit : Verdict} {file : Option Bytes} {nowUtc : Text}
    (error : PyError) : BuiltBy exit file nowUtc (.error error) := by
  rintro ack ⟨⟩

theorem safe_perform_status
    (file : Option Bytes) (nowUtc : Text) (exit : Verdict)
    (state : State) :
    (perform file nowUtc exit).Safe (fun _ _ => True)
      (fun result _ => BuiltBy exit file nowUtc result) state := by
  have acknowledged {messageId : Text} {status : AckStatus}
      {state : State}
      (acks : exit.acks file = some (messageId, status)) :
      (writeAck messageId status nowUtc).Safe (fun _ _ => True)
        (fun result _ => BuiltBy exit file nowUtc result) state := by
    refine safe_writeAck (fun ack data shaped built written =>
      ⟨trivial, fun found isFound => ?_⟩) fun error => builtBy_error error
    cases isFound
    refine ⟨messageId, status, built, ?_⟩
    rintro rfl
    exact acks
  have quarantined {message : Members} {messageId reason : Text}
      {status : AckStatus} {state : State}
      (acks : exit.acks file = some (messageId, status)) :
      (quarantineMessage message reason >>= fun _ =>
        writeAck messageId status nowUtc).Safe (fun _ _ => True)
        (fun result _ => BuiltBy exit file nowUtc result) state := by
    rw [Program.safe_bind]
    refine Program.safe_compute_bind (fun _ _ => ?_)
      fun error => builtBy_error error
    exact safe_atomicWriteJson (fun _ _ _ => ⟨trivial, acknowledged acks⟩)
      fun error => builtBy_error error
  cases exit with
  | malformed error =>
      simp only [perform, Program.safe_bind]
      exact safe_atomicWriteJson
        (fun _ _ _ => ⟨trivial, acknowledged rfl⟩)
        fun error => builtBy_error error
  | quarantined message messageId reason => exact quarantined rfl
  | duplicate messageId =>
      simp only [perform, Program.safe_compute]
      intro ack built
      refine ⟨messageId, .duplicate, built, ?_⟩
      rintro ⟨⟩
  | rejected message messageId => exact quarantined rfl
  | expired message messageId =>
      rw [perform, Program.safe_bind]
      refine Program.safe_compute_bind (fun _ _ => ?_)
        fun error => builtBy_error error
      refine Program.safe_compute_bind (fun _ _ => ?_)
        fun error => builtBy_error error
      rw [Program.safe_bind]
      exact safe_atomicWriteJson
        (fun _ _ _ => ⟨trivial, acknowledged rfl⟩)
        fun error => builtBy_error error
  | imported message messageId =>
      simp only [perform, Program.safe_bind]
      exact safe_atomicWriteJson
        (fun _ _ _ => ⟨trivial, acknowledged rfl⟩)
        fun error => builtBy_error error

/-- The status that an acknowledgement was built with. -/
theorem status_of_buildAck
    {messageId createdUtc : Text} {status : AckStatus} {ack : Members}
    (built : buildAck messageId status createdUtc = .ok ack) :
    isText ack (text "ack_status") status.value = true := by
  obtain ⟨ackId, created, rfl⟩ := ackMembers_of_buildAck built
  rw [isText_eq_true]
  rfl

section

variable {state after : State} {file : Option Bytes} {verifier : Verifier}
variable {nowUtc : Text} {ttlSeconds : Int}

/-- `receive` acknowledges exactly the messages that it imports. -/
theorem acknowledges_iff_verdict :
    Acknowledges state (receive file verifier nowUtc ttlSeconds) ↔
      ∃ message messageId,
        state.verdict file verifier nowUtc ttlSeconds =
          .ok (.imported message messageId) := by
  constructor
  · rintro ⟨ack, returned, acknowledged⟩
    obtain ⟨exit, chosen⟩ : ∃ exit,
        state.verdict file verifier nowUtc ttlSeconds = .ok exit := by
      cases chosen : state.verdict file verifier nowUtc ttlSeconds with
      | ok exit => exact ⟨exit, rfl⟩
      | error error =>
          have raises : (receive file verifier nowUtc ttlSeconds).run
              state = (.error error, state) := by
            change (Program.bind (inspect fun start : State =>
              start.verdict file verifier nowUtc ttlSeconds) _).run state =
                _
            simp only [inspect, Program.bind, Program.run, chosen]
          rw [raises] at returned
          cases returned
    rw [run_receive chosen] at returned
    obtain ⟨messageId, status, built, acks⟩ :=
      (safe_perform_status file nowUtc exit state).run_post ack returned
    have isStatus := status_of_buildAck built
    rw [isText_eq_true] at isStatus acknowledged
    rw [isStatus, Option.some.injEq, Json.str.injEq] at acknowledged
    have isAcknowledged : status = .acknowledged := by
      revert acknowledged
      cases status <;> decide
    obtain ⟨message, rfl⟩ :=
      Verdict.imported_of_acks (acks isAcknowledged)
    exact ⟨message, messageId, chosen⟩
  · rintro ⟨message, messageId, chosen⟩
    obtain ⟨_, _, _, -, -, -, checked, -⟩ :=
      verdict_eq_imported_iff.mp chosen
    obtain ⟨ack, data, returned, acknowledged, -⟩ :=
      acknowledged_of_verdict checked chosen
    exact ⟨ack, returned, acknowledged⟩

/-! ## The head of the chain -/

/-- A signature is accepted when it continues the head, if there is one. -/
theorem hashChainAccepts_eq_true
    {signature : Members} :
    state.hashChainAccepts signature = .ok true ↔
      ∃ sequence previous,
        sequenceFromSignature signature = .ok sequence ∧
        previousRefFromSignature signature = .ok previous ∧
        state.latestImportedSignature =
          .ok (previous.map fun ref => (sequence - 1, ref)) := by
  simp only [State.hashChainAccepts, bind_eq_ok_iff]
  refine exists_congr fun sequence => ?_
  constructor
  · rintro ⟨isSequence, previous, isPrevious, latest, isLatest, accepted⟩
    refine ⟨previous, isSequence, isPrevious, ?_⟩
    rw [isLatest, Except.ok.injEq]
    cases latest with
    | none =>
        have isNone : previous = none := by simpa using accepted
        rw [isNone]
        rfl
    | some head =>
        obtain ⟨next, isRef⟩ : sequence = head.1 + 1 ∧
            previous = some head.2 := by simpa using accepted
        rw [isRef, next, Option.map_some, Int.add_sub_cancel]
  · rintro ⟨previous, isSequence, isPrevious, isLatest⟩
    refine ⟨isSequence, previous, isPrevious, _, isLatest, ?_⟩
    cases previous with
    | none => rfl
    | some ref =>
        simp

/-- What `receive` does with a message depends on the head only. -/
theorem imports_iff_same_head
    {message : Members} {messageId : Text}
    (chosen : state.verdict file verifier nowUtc ttlSeconds =
      .ok (.imported message messageId))
    (imported : after.imported = state.imported)
    (signature : after.signatures.lookup (filename messageId) =
      state.signatures.lookup (filename messageId)) :
    (∃ found foundId,
      after.verdict file verifier nowUtc ttlSeconds =
        .ok (.imported found foundId)) ↔
    after.latestImportedSignature = state.latestImportedSignature := by
  obtain ⟨now, created, sealed, isNow, nonNegative, read, checked, signed,
    verified, unique, accepted, known, isCreated, fresh⟩ :=
    verdict_eq_imported_iff.mp chosen
  obtain ⟨sequence, previous, isSequence, isPrevious, isLatest⟩ :=
    hashChainAccepts_eq_true.mp accepted
  rw [isLatest]
  constructor
  · rintro ⟨found, foundId, alsoChosen⟩
    obtain ⟨_, _, foundSealed, -, -, alsoRead, alsoChecked, alsoSigned, -,
      -, alsoAccepted, -⟩ := verdict_eq_imported_iff.mp alsoChosen
    rw [read, Except.ok.injEq] at alsoRead
    subst alsoRead
    have sameId := checked.named.symm.trans alsoChecked.named
    rw [Option.some.injEq, Json.str.injEq] at sameId
    subst sameId
    rw [signature, signed, Except.ok.injEq] at alsoSigned
    subst alsoSigned
    obtain ⟨otherSequence, otherPrevious, alsoSequence, alsoPrevious,
      alsoLatest⟩ := hashChainAccepts_eq_true.mp alsoAccepted
    rw [isSequence, Except.ok.injEq] at alsoSequence
    rw [isPrevious, Except.ok.injEq] at alsoPrevious
    rw [alsoSequence, alsoPrevious]
    exact alsoLatest
  · intro sameHead
    refine ⟨message, messageId, verdict_eq_imported_iff.mpr ⟨now, created,
      sealed, isNow, nonNegative, read, checked, ?_, verified, ?_, ?_,
      known, isCreated, fresh⟩⟩
    · rw [signature]
      exact signed
    · rw [State.isDuplicate, imported]
      exact unique
    · exact hashChainAccepts_eq_true.mpr
        ⟨sequence, previous, isSequence, isPrevious, sameHead⟩

/-! ## The retry -/

/-- A retry that signs its message writes two files. -/
theorem SignsAgain.writes
    {signer : Signer} {message : Dict} {sequence : Option Int}
    {previousSignatureRef : Option Text} {messageId : Text} {data : Bytes}
    (signs : SignsAgain state signer message sequence previousSignatureRef
      messageId data) :
    ∃ encoded, Call.after code (.complete (.queueMessage signer message
        sequence previousSignatureRef)) state =
      (state.putQueued (filename messageId) encoded).putSignature
        message.members (filename messageId) data := by
  obtain ⟨checked, prior, signature, isPrior, signed, written⟩ := signs
  exact run_queueMessage checked isPrior signed written

theorem SignsAgain.unique
    {signer : Signer} {message : Dict} {sequence : Option Int}
    {previousSignatureRef : Option Text} {messageId otherId : Text}
    {data otherData : Bytes}
    (signs : SignsAgain state signer message sequence previousSignatureRef
      messageId data)
    (otherSigns : SignsAgain state signer message sequence
      previousSignatureRef otherId otherData) :
    messageId = otherId ∧ data = otherData := by
  obtain ⟨checked, prior, signature, isPrior, signed, written⟩ := signs
  obtain ⟨otherChecked, otherPrior, otherSignature, isOtherPrior,
    otherSigned, otherWritten⟩ := otherSigns
  have sameId := checked.named.symm.trans otherChecked.named
  rw [Option.some.injEq, Json.str.injEq] at sameId
  rw [isPrior, Except.ok.injEq] at isOtherPrior
  subst isOtherPrior
  rw [signed, Except.ok.injEq] at otherSigned
  subst otherSigned
  rw [written, Except.ok.injEq] at otherWritten
  exact ⟨sameId, otherWritten⟩

/-- A retry writes no signature file unless it signs. -/
theorem signatures_of_not_signs
    {signer : Signer} {message : Dict} {sequence : Option Int}
    {previousSignatureRef : Option Text}
    (refused : ∀ messageId data, ¬ SignsAgain state signer message
      sequence previousSignatureRef messageId data) :
    (Call.after code (.complete (.queueMessage signer message sequence
      previousSignatureRef)) state).signatures = state.signatures := by
  refine call_keeps (fun after => after.signatures = state.signatures) ?_
    rfl
  intro before after step same
  cases step with
  | queue => exact same
  | sign first checked follows signed written =>
      exact absurd ⟨checked, _, _, follows, signed, written⟩
        (refused _ _)

/-- The signature of a message that is not imported is not looked at. -/
theorem latestImportedSignature_alter
    (sound : ImportedApart state) {name : Text} {data : Bytes}
    (absent : name ∉ state.imported) :
    (state.alterSignature name (some data)).latestImportedSignature =
      state.latestImportedSignature := by
  have entries : (sortedFiles state.imported).map (fun file =>
        importedEntry (state.signatures.insert name data) file.2) =
      (sortedFiles state.imported).map fun file =>
        importedEntry state.signatures file.2 := by
    refine List.map_congr_left fun file isFile => ?_
    have isImported := mem_sortedFiles.mp isFile
    obtain ⟨message, messageId, read, checked, named⟩ :=
      sound.stored file.1 file.2 isImported
    have isId : messageIdFromMapping message = .ok messageId :=
      messageIdFromMapping_eq_ok.mpr ⟨checked.named, checked.shaped⟩
    have isName : jsonFilename messageId = .ok (filename messageId) :=
      jsonFilename_eq_ok.mpr ⟨checked.shaped, rfl⟩
    have apart : filename messageId ≠ name := by
      rintro rfl
      rw [← named] at absent
      exact absent (Directory.mem_of_lookup isImported)
    simp only [importedEntry, read, isId, isName, bind, Except.bind,
      AList.lookup_insert_ne apart]
  change skipCaught _ >>= _ = skipCaught _ >>= _
  rw [State.alterSignature]
  rw [entries]

/-- A retry of another message keeps the acknowledgement, or moves the head. -/
theorem acknowledges_after_retry_iff
    (sound : ImportedApart state)
    (acknowledged : Acknowledges state
      (receive file verifier nowUtc ttlSeconds))
    {signer : Signer} {message : Dict} {sequence : Option Int}
    {previousSignatureRef : Option Text}
    (other : ∀ delivered deliveredId,
      decodeMessage file = .ok (delivered, deliveredId) →
      Json.lookup (text "message_id") message.members ≠
        some (.str deliveredId)) :
    Acknowledges (Call.after code (.complete (.queueMessage signer message
        sequence previousSignatureRef)) state)
      (receive file verifier nowUtc ttlSeconds) ↔
    ¬ MovesHead state signer message sequence previousSignatureRef := by
  obtain ⟨delivered, deliveredId, chosen⟩ :=
    acknowledges_iff_verdict.mp acknowledged
  obtain ⟨_, _, _, -, -, read, checked, -⟩ :=
    verdict_eq_imported_iff.mp chosen
  have imported : (Call.after code (.complete (.queueMessage signer message
      sequence previousSignatureRef)) state).imported = state.imported :=
    (signatures_after_queue state rfl).1
  rw [acknowledges_iff_verdict]
  by_cases signs : ∃ messageId data, SignsAgain state signer message
      sequence previousSignatureRef messageId data
  · obtain ⟨messageId, data, signs⟩ := signs
    obtain ⟨encoded, writes⟩ := signs.writes
    have apart : filename deliveredId ≠ filename messageId := by
      intro same
      refine other delivered deliveredId
        (decodeMessage_eq_ok.mpr ⟨read, checked⟩) ?_
      rw [filename_injective checked.shaped signs.checked.shaped same]
      exact signs.checked.named
    rw [imports_iff_same_head chosen imported (by
      rw [writes]
      exact AList.lookup_insert_ne apart)]
    rw [writes]
    change (state.alterSignature (filename messageId)
      (some data)).latestImportedSignature = _ ↔ _
    constructor
    · rintro sameHead ⟨otherId, otherData, otherSigns, -, differs⟩
      obtain ⟨rfl, rfl⟩ := signs.unique otherSigns
      exact differs sameHead
    · intro unmoved
      by_cases isImported : filename messageId ∈ state.imported
      · by_contra differs
        exact unmoved ⟨messageId, data, signs, isImported, differs⟩
      · exact latestImportedSignature_alter sound isImported
  · push Not at signs
    have same := signatures_of_not_signs signs
    rw [imports_iff_same_head chosen imported (by rw [same])]
    refine iff_of_true ?_ ?_
    · rw [State.latestImportedSignature, imported, same]
      rfl
    · rintro ⟨messageId, data, signed, -⟩
      exact signs messageId data signed

end

/-! ## Retries with default arguments -/

/-- A loop that skips what it catches keeps every result. -/
theorem mem_of_skipCaught
    {α : Type} {steps : List (Except PyError α)} {results : List α}
    {value : α} (collected : skipCaught steps = .ok results)
    (member : .ok value ∈ steps) : value ∈ results := by
  induction steps generalizing results with
  | nil => cases member
  | cons step rest induction =>
      cases step with
      | ok first =>
          simp only [skipCaught, bind_eq_ok_iff, pure_eq_ok_iff]
            at collected
          obtain ⟨others, isOthers, rfl⟩ := collected
          rcases List.mem_cons.mp member with isFirst | later
          · cases isFirst
            exact List.mem_cons_self
          · exact List.mem_cons_of_mem _ (induction isOthers later)
      | error error =>
          rw [skipCaught] at collected
          split_ifs at collected
          rcases List.mem_cons.mp member with isError | later
          · cases isError
          · exact induction collected later

/-- The latest of some entries is not below any of them. -/
theorem le_of_latestOf
    {entries : List (Int × Text)} {entry : Int × Text}
    (member : entry ∈ entries) :
    ∃ latest, latestOf entries = some latest ∧ entry.1 ≤ latest.1 := by
  rcases latestOf_spec entries with ⟨rfl, -⟩ | ⟨latest, -, isLatest, above⟩
  · cases member
  · exact ⟨latest, isLatest, above entry member⟩

theorem one_le_of_sequence
    {signature : Members} {sequence : Int}
    (isSequence : sequenceFromSignature signature = .ok sequence) :
    1 ≤ sequence := by
  rw [sequenceFromSignature] at isSequence
  split at isSequence
  · split_ifs at isSequence with below
    cases isSequence
    exact not_lt.mp below
  · cases isSequence

/-- The default predecessor is not below any signature file. -/
theorem prior_of_signature
    {state : State} {prior : Int × Option Text} {name : Text}
    {signature : Members} {sequence : Int}
    (isPrior : state.prior none = .ok prior)
    (read : readJsonObject (state.signatures.lookup name) = .ok signature)
    (isSequence : sequenceFromSignature signature = .ok sequence) :
    sequence ≤ prior.1 := by
  obtain ⟨content, isFile, -⟩ := readJsonObject_eq_ok read
  rw [isFile] at read
  have isEntry : signatureEntry content =
      .ok (sequence, fileRef content) := by
    simp only [signatureEntry, read, isSequence, bind_eq_ok_iff,
      Except.ok.injEq, exists_eq_left', pure_eq_ok_iff]
  simp only [State.prior, State.latestSignature, bind_eq_ok_iff,
    pure_eq_ok_iff] at isPrior
  obtain ⟨_, ⟨entries, collected, rfl⟩, isPrior⟩ := isPrior
  have member : (sequence, fileRef content) ∈ entries := by
    refine mem_of_skipCaught collected (List.mem_map.mpr
      ⟨(name, content), mem_sortedFiles.mpr isFile, isEntry⟩)
  obtain ⟨latest, isLatest, bound⟩ := le_of_latestOf member
  rw [isLatest] at isPrior
  cases isPrior
  exact bound

/-- The head is not below the signature file of any imported message. -/
theorem head_of_imported
    {state : State} {name : Text} {data : Bytes} {signature : Members}
    {sequence : Int} {latest : Option (Int × Text)}
    (sound : ImportedApart state) (isImported : name ∈ state.imported)
    (isFile : state.signatures.lookup name = some data)
    (read : readJsonObject (some data) = .ok signature)
    (isSequence : sequenceFromSignature signature = .ok sequence)
    (isLatest : state.latestImportedSignature = .ok latest) :
    ∃ head, latest = some head ∧ sequence ≤ head.1 := by
  obtain ⟨content, found⟩ := Directory.mem_iff_lookup.mp isImported
  obtain ⟨message, messageId, readMessage, checked, rfl⟩ :=
    sound.stored name content found
  have isId : messageIdFromMapping message = .ok messageId :=
    messageIdFromMapping_eq_ok.mpr ⟨checked.named, checked.shaped⟩
  have isName : jsonFilename messageId = .ok (filename messageId) :=
    jsonFilename_eq_ok.mpr ⟨checked.shaped, rfl⟩
  have isEntry : importedEntry state.signatures content =
      .ok (sequence, fileRef data) := by
    simp only [importedEntry, readMessage, isId, isName, isFile, read,
      isSequence, bind_eq_ok_iff, Except.ok.injEq, exists_eq_left',
      pure_eq_ok_iff, Option.getD_some]
  simp only [State.latestImportedSignature, bind_eq_ok_iff,
    pure_eq_ok_iff] at isLatest
  obtain ⟨entries, collected, rfl⟩ := isLatest
  have member : (sequence, fileRef data) ∈ entries :=
    mem_of_skipCaught collected (List.mem_map.mpr
      ⟨(filename messageId, content), mem_sortedFiles.mpr found, isEntry⟩)
  exact le_of_latestOf member

/--
With default arguments the retry of an imported message takes a number above
that of every queued message, so it always moves the head.
-/
theorem movesHead_of_default
    {authority : Authority} {state : State} {file : Option Bytes}
    {verifier : Verifier} {nowUtc : Text} {ttlSeconds : Int}
    (sound : ImportedApart state)
    (acknowledged : Acknowledges state
      (receive file verifier nowUtc ttlSeconds))
    {message : Dict} {messageId : Text} {data : Bytes}
    (signs : SignsAgain state authority.signer message none none messageId
      data)
    (isImported : filename messageId ∈ state.imported) :
    MovesHead state authority.signer message none none := by
  refine ⟨messageId, data, signs, isImported, fun sameHead => ?_⟩
  obtain ⟨delivered, deliveredId, chosen⟩ :=
    acknowledges_iff_verdict.mp acknowledged
  obtain ⟨_, _, sealed, -, -, -, -, isSigned, -, -, accepted, -⟩ :=
    verdict_eq_imported_iff.mp chosen
  obtain ⟨sequence, previous, isSequence, -, isLatest⟩ :=
    hashChainAccepts_eq_true.mp accepted
  obtain ⟨checked, prior, signature, isPrior, signed, written⟩ := signs
  rw [Option.getD_none] at signed
  have above : sequence ≤ prior.1 := prior_of_signature isPrior
    (decodeSignature_eq_ok.mp isSigned).1 isSequence
  have positive : 1 ≤ sequence := one_le_of_sequence isSequence
  have isRead := readJsonObject_dumps (toDict_nodup signature)
    (toDict_flat signature) written
  have isNext := sequenceFromSignature_of_seals
    (authority.seals checked signed) (by omega)
    (List.perm_insertionSort KeyLe signature.toDict).symm
  rw [isLatest] at sameHead
  have altered : ImportedApart (state.alterSignature (filename messageId)
      (some data)) := ⟨sound.stored, sound.apart⟩
  obtain ⟨head, isHead, atLeast⟩ := head_of_imported altered
    isImported (AList.lookup_insert state.signatures) isRead isNext
    sameHead
  obtain ⟨ref, -, rfl⟩ := Option.map_eq_some_iff.mp isHead
  simp only at atLeast
  omega

/-! ## Runs -/

/--
In every state that a history of calls reaches: when a delivery would be
acknowledged, and another message is queued (again) with any arguments, the
same delivery is still acknowledged exactly when the retry does not move the
head of the chain.
-/
theorem retry_harmless_iff
    (calls : List (Call Operation)) (file : Option Bytes)
    (verifier : Verifier) (nowUtc : Text) (ttlSeconds : Int)
    (acknowledged : Acknowledges (afterCalls code calls State.empty)
      (receive file verifier nowUtc ttlSeconds))
    (signer : Signer) (message : Dict) (sequence : Option Int)
    (previousSignatureRef : Option Text)
    (other : ∀ delivered deliveredId,
      decodeMessage file = .ok (delivered, deliveredId) →
      Json.lookup (text "message_id") message.members ≠
        some (.str deliveredId)) :
    Acknowledges (afterCalls code (calls ++
        [Call.complete (Operation.queueMessage signer message sequence
          previousSignatureRef)]) State.empty)
      (receive file verifier nowUtc ttlSeconds) ↔
    ¬ MovesHead (afterCalls code calls State.empty) signer message sequence
      previousSignatureRef := by
  rw [afterCalls_append]
  exact acknowledges_after_retry_iff (importedApart_afterCalls calls)
    acknowledged other

/-! ## A retry of an imported message -/

def builtId (built : Except PyError Members) : Text :=
  match built with
  | .ok message => textField message (text "message_id")
  | .error _ => []

theorem builtId_of_checked
    {message : Members} {messageId : Text}
    (checked : Checked message messageId) :
    builtId (.ok message) = messageId := by
  rw [builtId, textField, checked.named]

/-- Two messages of the tests have two ids. -/
theorem fixture_ids_differ :
    builtId (buildSpoolMessage (text "standalone") (text "market")
        (fileRef []) (text "D1") (text "2026-07-29T00:00:00Z") none) ≠
      builtId (buildSpoolMessage (text "standalone") (text "market")
        (fileRef [0]) (text "D1") (text "2026-07-29T00:00:00Z") none) := by
  unfold buildSpoolMessage idempotencyKeyOr identified fileRef
  rw [objectId_eq_strict, sha256_eq_strict]
  decide +kernel

/-- A fresh message that is queued after the only imported one. -/
theorem fixture_next
    {state : State} {file : Bytes} {message read : Members}
    {messageId otherId : Text} {first : SignedFile} {data content : Bytes}
    (sound : ChainState fixtureSigner.authority state)
    (isRead : readJsonObject (some file) = .ok read)
    (checked : Checked read messageId) (same : message.Perm read)
    (isCreated : textField read (text "created_utc") =
      text "2026-07-29T00:00:00Z")
    (isSigned : state.signed = [⟨filename messageId, message, data⟩, first])
    (isFirst : first.name = filename otherId)
    (isImported : state.imported =
      AList.insert (filename otherId) content ∅)
    (apart : ∀ imported,
      readJsonObject (some content) = .ok imported →
      Json.lookup (text "message_id") imported ≠ some (.str messageId) ∧
        ¬ SamePair imported read)
    (differs : filename messageId ≠ filename otherId) :
    Acknowledges state (receive (some file)
      fixtureSigner.authority.verifier (text "2026-07-29T00:00:20Z")
        60) := by
  have created : parseUtc (textField read (text "created_utc")) =
      .ok 63920880000 := by
    rw [isCreated]
    decide
  have isNow : parseUtc (text "2026-07-29T00:00:20Z") =
      .ok 63920880020 := by decide
  have fresh : Fresh state (some file) (text "2026-07-29T00:00:20Z") 60
      read messageId := by
    refine ⟨isRead, checked, ⟨⟨filename messageId, message, data⟩, ?_,
      same⟩, ⟨_, _, isNow, created, by decide, by decide⟩, ?_⟩
    · rw [isSigned, lastSigned, if_pos rfl]
    · intro name found imported isFound readFound
      rw [isImported, Directory.lookup_insert_eq_some] at isFound
      rcases isFound with ⟨-, rfl⟩ | ⟨-, ⟨⟩⟩
      exact apart imported readFound
  have follows : Follows state (filename messageId) := by
    have places : place (filename otherId) state.signed = 1 := by
      rw [isSigned, place, if_neg differs, place, if_pos isFirst]
      rfl
    have upTo : state.importedUpTo = 1 := by
      rw [State.importedUpTo, isImported]
      change Finset.sup {filename otherId} _ = 1
      rw [Finset.sup_singleton]
      exact places
    rw [Follows, upTo, isSigned, place, if_pos rfl]
    rfl
  have chosen := ((fresh.verdict sound).resolve_right fun jumps =>
    jumps.1 follows).2
  exact acknowledges_iff_verdict.mpr ⟨read, messageId, chosen⟩

/-- The first message is imported, the second one is queued. -/
def fixtureCalls (older newer : Dict) (file : Bytes) :
    List (Call Operation) :=
  [.complete (.queueMessage fixtureSigner.sign older none none),
    .complete (.receive (some file) fixtureSigner.verify
      (text "2026-07-29T00:00:10Z") 60),
    .complete (.queueMessage fixtureSigner.sign newer none none)]

/-- The state in which the second message waits for its delivery. -/
structure FixtureState (older newer : Dict) (olderId newerId : Text)
    (olderRead : Members) (state : State) : Prop where
  sound : ChainState fixtureSigner.authority state
  signed : ∃ olderData newerData, state.signed =
    [⟨filename newerId, newer.members, newerData⟩,
      ⟨filename olderId, older.members, olderData⟩]
  imported : ∃ content, dumps (.obj olderRead) = .ok content ∧
    state.imported = AList.insert (filename olderId) content ∅

theorem writable_small
    (count : Nat) (small : count < 3) :
    Writable (.int ((count : Int) + 1)) := by
  rw [Writable]
  interval_cases count <;> decide

/-- The first message is queued and imported, the second one is queued. -/
theorem fixtureState_calls
    {older : Dict} {olderId newerId : Text} {olderFile : Bytes}
    {olderRead : Members} {olderData : Bytes} (newer : Dict)
    (decoded : decodeMessage (some olderFile) = .ok (olderRead, olderId))
    (newerChecked : Checked newer.members newerId)
    (olderSigned : (Call.after code (Event.call fixtureSigner.authority
      (.queue older)) State.empty).signed =
        [⟨filename olderId, older.members, olderData⟩])
    (imports : ∀ state, ChainState fixtureSigner.authority state →
      state.signed = [⟨filename olderId, older.members, olderData⟩] →
      state.imported = ∅ →
      state.verdict (some olderFile) fixtureSigner.authority.verifier
          (text "2026-07-29T00:00:10Z") 60 =
        .ok (.imported olderRead olderId)) :
    FixtureState older newer olderId newerId olderRead
      (afterCalls code (fixtureCalls older newer olderFile)
        State.empty) := by
  have kept (event : Event) (state : State)
      (sound : ChainState fixtureSigner.authority state) :
      ChainState fixtureSigner.authority (Call.after code
        (Event.call fixtureSigner.authority event) state) :=
    chainState_call _ state (oneSender_call _ event) sound
  have queued := kept (.queue older) State.empty chainState_empty
  have isEmpty := imported_after_queue fixtureSigner.authority older
    State.empty
  obtain ⟨-, checkedRead⟩ := decodeMessage_eq_ok.mp decoded
  obtain ⟨ackId, created, content, ackData, written, -, ran⟩ :=
    run_of_imported checkedRead (imports _ queued olderSigned isEmpty)
  have delivered := kept (.deliver (some olderFile)
    (text "2026-07-29T00:00:10Z") 60) _ queued
  obtain ⟨newerData, newerSigned⟩ := fixtureSigner_signs delivered
    newerChecked (by
      rw [signed_after_deliver, olderSigned]
      exact writable_small 1 (by decide))
  rw [signed_after_deliver, olderSigned] at newerSigned
  refine ⟨kept (.queue newer) _ delivered, ⟨_, _, newerSigned⟩,
    content, written, ?_⟩
  refine (imported_after_queue fixtureSigner.authority newer _).trans ?_
  change ((receive _ _ _ _).run (Call.after code (Event.call
    fixtureSigner.authority (.queue older)) State.empty)).2.imported = _
  rw [show (receive (some olderFile) fixtureSigner.verify
    (text "2026-07-29T00:00:10Z") 60).run _ = _ from ran]
  change AList.insert (filename olderId) content (Call.after code _
    State.empty).imported = _
  rw [isEmpty]
  rfl

/-- The second message would be acknowledged, and a retry prevents it. -/
theorem fixture_retry :
    ∃ (older newer : Dict) (olderFile newerFile : Bytes),
      buildSpoolMessage (text "standalone") (text "market") (fileRef [])
        (text "D1") (text "2026-07-29T00:00:00Z") none =
          .ok older.members ∧
      buildSpoolMessage (text "standalone") (text "market") (fileRef [0])
        (text "D1") (text "2026-07-29T00:00:00Z") none =
          .ok newer.members ∧
      dumps (.obj older.members) = .ok olderFile ∧
      dumps (.obj newer.members) = .ok newerFile ∧
      Acknowledges (afterCalls code (fixtureCalls older newer olderFile)
          State.empty)
        (receive (some newerFile) fixtureSigner.verify
          (text "2026-07-29T00:00:20Z") 60) ∧
      (∀ delivered deliveredId,
        decodeMessage (some newerFile) = .ok (delivered, deliveredId) →
        Json.lookup (text "message_id") older.members ≠
          some (.str deliveredId)) ∧
      MovesHead (afterCalls code (fixtureCalls older newer olderFile)
        State.empty) fixtureSigner.sign older none none := by
  obtain ⟨older, olderId, olderFile, olderRead, olderData, olderBuilt,
    olderDumped, olderChecked, decoded, olderPayload, olderSigned,
    imports⟩ := fixture_queued
  obtain ⟨newer, newerId, newerFile, newerRead, newerBuilt, newerDumped,
    newerChecked, checkedNewer, readNewer, sameNewer, newerCreated,
    newerPayload⟩ :=
    fixtureMessage (fileRef [0]) (text "2026-07-29T00:00:00Z")
      (isObjectId_sha256 [0]) (by decide)
  refine ⟨older, newer, olderFile, newerFile, olderBuilt, newerBuilt,
    olderDumped, newerDumped, ?_⟩
  have idsDiffer := fixture_ids_differ
  rw [olderBuilt, newerBuilt, builtId_of_checked olderChecked,
    builtId_of_checked newerChecked] at idsDiffer
  have namesDiffer : filename newerId ≠ filename olderId := fun same =>
    idsDiffer (filename_injective newerChecked.shaped olderChecked.shaped
      same).symm
  obtain ⟨sound, ⟨_, newerData, newerSigned⟩, content, written,
    imported⟩ := fixtureState_calls newer decoded newerChecked
      olderSigned imports
  generalize afterCalls code (fixtureCalls older newer olderFile)
    State.empty = state at sound newerSigned imported ⊢
  have acknowledged : Acknowledges state (receive (some newerFile)
      fixtureSigner.verify (text "2026-07-29T00:00:20Z") 60) := by
    refine fixture_next sound readNewer checkedNewer sameNewer newerCreated
      newerSigned rfl imported ?_ namesDiffer
    intro found readFound
    obtain ⟨-, checkedRead⟩ := decodeMessage_eq_ok.mp decoded
    obtain ⟨readBack, checkedBack⟩ := checkedRead.read_dumps written
    rw [readBack, Except.ok.injEq] at readFound
    subst readFound
    refine ⟨?_, fun pair => ?_⟩
    · rw [checkedBack.named]
      intro same
      rw [Option.some.injEq, Json.str.injEq] at same
      exact idsDiffer same
    · have samePayload := pair.2
      rw [Json.lookup_perm (List.perm_insertionSort KeyLe olderRead)
        checkedBack.distinct] at samePayload
      have sameText : textField olderRead (text "payload_ref") =
          textField newerRead (text "payload_ref") := by
        rw [textField, samePayload, textField]
      rw [olderPayload, newerPayload] at sameText
      revert sameText
      decide +kernel
  refine ⟨acknowledged, ?_, ?_⟩
  · intro found foundId isFound
    obtain ⟨readFound, checkedFound⟩ := decodeMessage_eq_ok.mp isFound
    rw [readNewer, Except.ok.injEq] at readFound
    subst readFound
    have sameId := checkedNewer.named.symm.trans checkedFound.named
    rw [olderChecked.named, ← sameId]
    intro same
    rw [Option.some.injEq, Json.str.injEq] at same
    exact idsDiffer same
  · have length : state.signed.length = 2 := by
      rw [newerSigned]
      rfl
    obtain ⟨signature, data, signed, dumped⟩ : ∃ signature data,
        fixtureSigner.sign older.members ((state.signed.length : Int) + 1)
          (newestRef state.signed) = .ok signature ∧
        dumps (.obj signature.toDict) = .ok data :=
      HmacSha256Signer.sign_of_checked (by decide) (scalars_text _)
        olderChecked (by omega)
        (by rw [length]; exact writable_small 2 (by decide))
        (isObjectId_of_newestRef state.signed)
    have signs : SignsAgain state fixtureSigner.authority.signer older none
        none olderId data :=
      ⟨olderChecked, _, signature, prior_of_chain sound, signed, dumped⟩
    refine movesHead_of_default sound.apart acknowledged signs ?_
    rw [imported]
    exact AList.mem_insert _ |>.mpr (.inl rfl)

/-- The equivalence at the two messages of the tests. -/
theorem retry_harmless_iff_fixture :
    ∃ (older newer : Dict) (olderFile newerFile : Bytes),
      Acknowledges (afterCalls code (fixtureCalls older newer olderFile)
          State.empty)
        (receive (some newerFile) fixtureSigner.verify
          (text "2026-07-29T00:00:20Z") 60) ∧
      (Acknowledges (afterCalls code (fixtureCalls older newer olderFile ++
          [Call.complete (Operation.queueMessage fixtureSigner.sign older
            none none)])
          State.empty)
        (receive (some newerFile) fixtureSigner.verify
          (text "2026-07-29T00:00:20Z") 60) ↔
      ¬ MovesHead (afterCalls code (fixtureCalls older newer olderFile)
        State.empty) fixtureSigner.sign older none none) := by
  obtain ⟨older, newer, olderFile, newerFile, -, -, -, -, acknowledged,
    other, -⟩ := fixture_retry
  exact ⟨older, newer, olderFile, newerFile, acknowledged,
    retry_harmless_iff _ _ _ _ _ acknowledged _ _ _ _ other⟩

/--
One message of the tests is imported and a second one is queued.  Its delivery
would be acknowledged, and no longer is after the first one is queued again
with default arguments.
-/
theorem retry_blocks_next_message :
    ∃ (older newer : Dict) (olderFile newerFile : Bytes),
      buildSpoolMessage (text "standalone") (text "market") (fileRef [])
        (text "D1") (text "2026-07-29T00:00:00Z") none =
          .ok older.members ∧
      buildSpoolMessage (text "standalone") (text "market") (fileRef [0])
        (text "D1") (text "2026-07-29T00:00:00Z") none =
          .ok newer.members ∧
      dumps (.obj older.members) = .ok olderFile ∧
      dumps (.obj newer.members) = .ok newerFile ∧
      Acknowledges (afterCalls code (fixtureCalls older newer olderFile)
          State.empty)
        (receive (some newerFile) fixtureSigner.verify
          (text "2026-07-29T00:00:20Z") 60) ∧
      ¬ Acknowledges (afterCalls code (fixtureCalls older newer olderFile ++
          [Call.complete (Operation.queueMessage fixtureSigner.sign older
            none none)])
          State.empty)
        (receive (some newerFile) fixtureSigner.verify
          (text "2026-07-29T00:00:20Z") 60) := by
  obtain ⟨older, newer, olderFile, newerFile, olderBuilt, newerBuilt,
    olderDumped, newerDumped, acknowledged, other, moves⟩ := fixture_retry
  refine ⟨older, newer, olderFile, newerFile, olderBuilt, newerBuilt,
    olderDumped, newerDumped, acknowledged, ?_⟩
  rw [afterCalls_append]
  intro still
  exact (acknowledges_after_retry_iff (importedApart_afterCalls _)
    acknowledged other).mp still moves

end ScientificResourceLab.Transport
