import ScientificResourceLab.Transport.Verdicts

/-!
# What a call writes

`FileStep` lists every write that an operation can make, with what the code
had established before it, relative to the state in which the call started.
Every invariant of the spool is derived from this list.
-/

namespace ScientificResourceLab.Transport

open Python Contracts Steps
open Steps.Program (observe inspect update compute Safe)

/-- The acknowledgement that an exit writes: its message and status. -/
def Verdict.acks (file : Option Bytes) :
    Verdict → Option (Text × AckStatus)
  | .malformed _ => some (fileRef (file.getD []), .quarantined)
  | .quarantined _ messageId _ => some (messageId, .quarantined)
  | .duplicate _ => none
  | .rejected _ messageId => some (messageId, .rejected)
  | .expired _ messageId => some (messageId, .expired)
  | .imported _ messageId => some (messageId, .acknowledged)

/-- The writes of a call that started in a given state. -/
inductive FileStep (start : State) :
    Operation → State → State → Prop where
  | queue
      {signer : Signer} {message : Dict} {sequence : Option Int}
      {previousSignatureRef : Option Text} {state : State}
      {name : Text} {data : Bytes} :
      FileStep start
        (.queueMessage signer message sequence previousSignatureRef)
        state (state.putQueued name data)
  | sign
      {signer : Signer} {message : Dict} {sequence : Option Int}
      {previousSignatureRef : Option Text} {state : State}
      {messageId : Text} {prior : Int × Option Text}
      {signature : DetachedSignature} {data : Bytes}
      (first : state.signed = start.signed)
      (checked : Checked message.members messageId)
      (follows : start.prior previousSignatureRef = .ok prior)
      (signed : signer message.members (sequence.getD (prior.1 + 1))
        prior.2 = .ok signature)
      (written : dumps (.obj signature.toDict) = .ok data) :
      FileStep start
        (.queueMessage signer message sequence previousSignatureRef)
        state (state.putSignature message.members (filename messageId)
          data)
  | quarantine
      {file : Option Bytes} {verifier : Verifier} {nowUtc : Text}
      {ttlSeconds : Int} {state : State} {name : Text} {data : Bytes} :
      FileStep start (.receive file verifier nowUtc ttlSeconds)
        state (state.putQuarantine name data)
  | deadLetter
      {file : Option Bytes} {verifier : Verifier} {nowUtc : Text}
      {ttlSeconds : Int} {state : State} {name : Text} {data : Bytes} :
      FileStep start (.receive file verifier nowUtc ttlSeconds)
        state (state.putDlq name data)
  | store
      {file : Option Bytes} {verifier : Verifier} {nowUtc : Text}
      {ttlSeconds : Int} {state : State} {message : Members}
      {messageId : Text} {data : Bytes}
      (chosen : start.verdict file verifier nowUtc ttlSeconds =
        .ok (.imported message messageId))
      (written : dumps (.obj message) = .ok data) :
      FileStep start (.receive file verifier nowUtc ttlSeconds)
        state (state.putImported (filename messageId) data)
  | acknowledge
      {file : Option Bytes} {verifier : Verifier} {nowUtc : Text}
      {ttlSeconds : Int} {state : State} {exit : Verdict}
      {messageId : Text} {status : AckStatus} {ack : Members}
      {data : Bytes}
      (chosen : start.verdict file verifier nowUtc ttlSeconds = .ok exit)
      (acks : exit.acks file = some (messageId, status))
      (shaped : isObjectId messageId = true)
      (built : buildAck messageId status nowUtc = .ok ack)
      (written : dumps (.obj ack) = .ok data) :
      FileStep start (.receive file verifier nowUtc ttlSeconds)
        state (state.putAck (filename messageId) data)
  | reconcile
      {createdUtc : Text} {state : State} {messageId : Text}
      {ack : Members} {data : Bytes}
      (absent : filename messageId ∉ state.acks)
      (shaped : isObjectId messageId = true)
      (built : buildAck messageId .acknowledged createdUtc = .ok ack)
      (written : dumps (.obj ack) = .ok data) :
      FileStep start (.reconcileAcknowledgements createdUtc)
        state (state.putAck (filename messageId) data)
  | alter
      {name : Text} {content : Option Bytes} {state : State} :
      FileStep start (.alterSignature name content)
        state (state.alterSignature name content)

/-! ## Files and acknowledgements -/

section

variable {guar : State → State → Prop} {state : State}

/-- A file is put in place, or the record is refused. -/
theorem safe_atomicWriteJson
    {post : Except PyError PUnit → State → Prop}
    {put : State → Text → Bytes → State} {objectRef : Text}
    {payload : Members}
    (written : ∀ data, isObjectId objectRef = true →
      dumps (.obj payload) = .ok data →
        guar state (put state (filename objectRef) data) ∧
          post (.ok ⟨⟩) (put state (filename objectRef) data))
    (refused : ∀ error, post (.error error) state) :
    (atomicWriteJson put objectRef payload).Safe guar post state := by
  refine Program.safe_compute_bind (fun name named => ?_) refused
  obtain ⟨shaped, rfl⟩ := jsonFilename_eq_ok.mp named
  exact Program.safe_compute_bind
    (fun data dumped => written data shaped dumped) refused

theorem safe_writeAck
    {post : Except PyError Members → State → Prop}
    {messageId createdUtc : Text} {status : AckStatus}
    (written : ∀ ack data, isObjectId messageId = true →
      buildAck messageId status createdUtc = .ok ack →
      dumps (.obj ack) = .ok data →
        guar state (state.putAck (filename messageId) data) ∧
          post (.ok ack) (state.putAck (filename messageId) data))
    (refused : ∀ error, post (.error error) state) :
    (writeAck messageId status createdUtc).Safe guar post state := by
  refine Program.safe_compute_bind (fun ack built => ?_) refused
  rw [Program.safe_bind]
  exact safe_atomicWriteJson
    (fun data shaped dumped => written ack data shaped built dumped)
    refused

end

/-! ## The operations -/

/-- The writes of an exit of `receive`. -/
theorem safe_perform
    {start state : State} {file : Option Bytes} {verifier : Verifier}
    {nowUtc : Text} {ttlSeconds : Int} {exit : Verdict}
    (chosen : start.verdict file verifier nowUtc ttlSeconds = .ok exit) :
    (perform file nowUtc exit).Safe
      (FileStep start (.receive file verifier nowUtc ttlSeconds))
      (fun _ _ => True) state := by
  have acknowledged {state : State} {messageId : Text}
      {status : AckStatus}
      (acks : exit.acks file = some (messageId, status)) :
      (writeAck messageId status nowUtc).Safe
        (FileStep start (.receive file verifier nowUtc ttlSeconds))
        (fun _ _ => True) state :=
    safe_writeAck
      (fun _ _ shaped built written =>
        ⟨.acknowledge chosen acks shaped built written, trivial⟩)
      fun _ => trivial
  have quarantined {message : Members} {messageId reason : Text}
      {status : AckStatus}
      (acks : exit.acks file = some (messageId, status)) :
      (quarantineMessage message reason >>= fun _ =>
        writeAck messageId status nowUtc).Safe
        (FileStep start (.receive file verifier nowUtc ttlSeconds))
        (fun _ _ => True) state := by
    rw [Program.safe_bind]
    refine Program.safe_compute_bind (fun _ _ => ?_) fun _ => trivial
    exact safe_atomicWriteJson
      (fun _ _ _ => ⟨.quarantine, acknowledged acks⟩) fun _ => trivial
  cases exit with
  | malformed error =>
      simp only [perform, Program.safe_bind]
      exact safe_atomicWriteJson
        (fun _ _ _ => ⟨.quarantine, acknowledged rfl⟩) fun _ => trivial
  | quarantined message messageId reason => exact quarantined rfl
  | duplicate messageId =>
      simp only [perform, Program.safe_compute]
  | rejected message messageId => exact quarantined rfl
  | expired message messageId =>
      rw [perform, Program.safe_bind]
      refine Program.safe_compute_bind (fun _ _ => ?_) fun _ => trivial
      refine Program.safe_compute_bind (fun _ _ => ?_) fun _ => trivial
      rw [Program.safe_bind]
      exact safe_atomicWriteJson
        (fun _ _ _ => ⟨.deadLetter, acknowledged rfl⟩) fun _ => trivial
  | imported message messageId =>
      simp only [perform, Program.safe_bind]
      exact safe_atomicWriteJson
        (fun _ _ written => ⟨.store chosen written, acknowledged rfl⟩)
        fun _ => trivial

theorem safe_reconcileEach
    {start : State} {createdUtc : Text} (messageIds : List Text)
    (state : State) :
    (reconcileEach createdUtc messageIds).Safe
      (FileStep start (.reconcileAcknowledgements createdUtc))
      (fun _ _ => True) state := by
  induction messageIds generalizing state with
  | nil => trivial
  | cons messageId rest induction =>
      refine Program.safe_compute_bind (fun name named => ?_)
        fun _ => trivial
      obtain ⟨-, rfl⟩ := jsonFilename_eq_ok.mp named
      simp only [Program.safe_bind, Program.safe_observe,
        Program.bindPost_ok, Program.safe_ite]
      refine ⟨fun _ => induction state, fun unacked => ?_⟩
      have absent : filename messageId ∉ state.acks := by
        rw [← AList.lookup_isSome]
        simpa using unacked
      refine safe_writeAck ?_ fun _ => trivial
      intro ack data shaped built written
      refine ⟨.reconcile absent shaped built written, ?_⟩
      simp only [Program.bindPost_ok, Program.safe_bind]
      refine (induction _).mono (fun _ _ step => step) ?_
      intro result final _
      cases result with
      | error error => trivial
      | ok others => trivial

theorem safe_queueMessage
    {start : State} (signer : Signer) (message : Dict)
    (sequence : Option Int) (previousSignatureRef : Option Text) :
    (queueMessage signer message sequence previousSignatureRef).Safe
      (FileStep start
        (.queueMessage signer message sequence previousSignatureRef))
      (fun _ _ => True) start := by
  refine Program.safe_compute_bind (fun _ accepted => ?_) fun _ => trivial
  refine Program.safe_compute_bind (fun content isContent => ?_)
    fun _ => trivial
  refine Program.safe_compute_bind (fun _ matched => ?_) fun _ => trivial
  refine Program.safe_compute_bind (fun messageId named => ?_)
    fun _ => trivial
  have checked : Checked message.members messageId := by
    obtain ⟨found, shaped⟩ := messageIdFromMapping_eq_ok.mp named
    rw [schemaValidate, refuseIf_eq_ok_iff, Bool.not_eq_false] at accepted
    rw [refuseIf_eq_ok_iff, Bool.not_eq_false] at matched
    rw [matched] at isContent
    exact ⟨message.distinct, accepted, found, shaped,
      ((messageIdMatchesContent_eq_true found).mp isContent).2⟩
  refine Program.safe_inspect_bind (fun prior follows => ?_)
    fun _ => trivial
  refine Program.safe_compute_bind (fun signature signed => ?_)
    fun _ => trivial
  rw [Program.safe_bind]
  refine safe_atomicWriteJson (fun _ _ _ => ⟨.queue, ?_⟩) fun _ => trivial
  rw [Program.bindPost_ok, Program.safe_bind]
  exact safe_atomicWriteJson
    (fun _ _ written =>
      ⟨.sign rfl checked follows signed written, trivial⟩)
    fun _ => trivial

/-- Every write of an operation is a file step. -/
theorem safe_code (start : State) (operation : Operation) :
    (code operation).Safe (FileStep start operation) (fun _ _ => True)
      start := by
  cases operation with
  | queueMessage signer message sequence previousSignatureRef =>
      exact safe_queueMessage signer message sequence previousSignatureRef
  | receive file verifier nowUtc ttlSeconds =>
      exact Program.safe_inspect_bind
        (fun _ chosen => safe_perform chosen) fun _ => trivial
  | reconcileAcknowledgements createdUtc =>
      exact Program.safe_inspect_bind
        (fun _ _ => safe_reconcileEach _ start) fun _ => trivial
  | alterSignature name content => exact ⟨.alter, trivial⟩

/-- A call, complete or cut, is a chain of its file steps. -/
theorem call_reaches (call : Call Operation) (start : State) :
    Relation.ReflTransGen (FileStep start call.operation) start
      (call.after code start) := by
  cases call with
  | complete operation => exact (safe_code start operation).run_reaches
  | crashed operation writes =>
      exact (safe_code start operation).crash_reaches writes

theorem call_keeps
    (property : State → Prop) {call : Call Operation} {start : State}
    (kept : ∀ before after,
      FileStep start call.operation before after →
        property before → property after)
    (holds : property start) : property (call.after code start) :=
  Program.holds_of_reaches property (call_reaches call start) kept holds

end ScientificResourceLab.Transport
