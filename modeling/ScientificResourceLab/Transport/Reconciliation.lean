import ScientificResourceLab.Transport.HashChain

/-!
# Reconciliation of acknowledgements

`reconcile_acknowledgements` writes the acknowledgement of an imported message
when there is none.  It asks only whether the file exists, so what it achieves
depends on the files that are there: `recovers_iff_reconcilable` says that it
recovers all acknowledgements exactly when no imported message has one that
says something else.
-/

namespace ScientificResourceLab.Transport

open Python Contracts Steps
open Steps.Program (observe inspect update compute Safe)

/-- The acknowledgement on disk says `ACKNOWLEDGED`. -/
def HoldsAck (name : Text) (state : State) : Prop :=
  ∃ data ack, state.acks.lookup name = some data ∧
    readJsonObject (some data) = .ok ack ∧
    isText ack (text "ack_status") (text "ACKNOWLEDGED") = true

/--
When `reconcile_acknowledgements` returns, every imported message has an
acknowledgement that says so; and it returns for every timestamp.
-/
def Recovers (state : State) : Prop :=
  ∀ createdUtc,
    (∀ repaired,
      ((reconcileAcknowledgements createdUtc).run state).1 =
        .ok repaired →
      ∀ name ∈ ((reconcileAcknowledgements createdUtc).run
        state).2.imported,
        HoldsAck name
          ((reconcileAcknowledgements createdUtc).run state).2) ∧
    ((∃ created, normalizeTimestamp createdUtc = .ok created) →
      ∃ repaired,
        ((reconcileAcknowledgements createdUtc).run state).1 =
          .ok repaired)

/-- No imported message has an acknowledgement that says otherwise. -/
def Reconcilable (state : State) : Prop :=
  ∀ name ∈ state.imported, name ∈ state.acks → HoldsAck name state

/-! ## The loop of reconciliation -/

theorem replayIds_of_checked
    (files : List (Text × Bytes))
    (stored : ∀ file ∈ files, ∃ message messageId,
      readJsonObject (some file.2) = .ok message ∧
      Checked message messageId ∧ file.1 = filename messageId) :
    ∃ ids, replayIds files = .ok ids ∧
      (∀ messageId ∈ ids, isObjectId messageId = true ∧
        ∃ file ∈ files, file.1 = filename messageId) ∧
      ∀ file ∈ files, ∃ messageId ∈ ids,
        file.1 = filename messageId := by
  induction files with
  | nil => exact ⟨[], rfl, by simp, by simp⟩
  | cons file rest induction =>
      obtain ⟨message, messageId, read, checked, named⟩ :=
        stored file List.mem_cons_self
      obtain ⟨ids, replayed, shaped, listed⟩ :=
        induction fun other member =>
          stored other (List.mem_cons_of_mem _ member)
      have isId : messageIdForReplay message = .ok messageId := by
        simp only [messageIdForReplay, checked.named]
        exact validateObjectId_eq_ok.mpr ⟨rfl, checked.shaped⟩
      refine ⟨messageId :: ids, ?_, ?_, ?_⟩
      · rw [replayIds, read]
        change (messageIdForReplay message >>= _) = _
        rw [isId]
        change (replayIds rest >>= _) = _
        rw [replayed]
        rfl
      · refine List.forall_mem_cons.mpr ⟨⟨checked.shaped, file,
          List.mem_cons_self, named⟩, fun otherId isOther => ?_⟩
        obtain ⟨isShaped, other, member, isName⟩ := shaped otherId isOther
        exact ⟨isShaped, other, List.mem_cons_of_mem _ member, isName⟩
      · rintro other member
        rcases List.mem_cons.mp member with rfl | later
        · exact ⟨messageId, List.mem_cons_self, named⟩
        · obtain ⟨otherId, isOther, isName⟩ := listed other later
          exact ⟨otherId, List.mem_cons_of_mem _ isOther, isName⟩

/-- When the loop returns, every id has an acknowledgement. -/
theorem safe_reconcileEach_acks
    {createdUtc : Text} (ids : List Text) (state : State) :
    (reconcileEach createdUtc ids).Safe
      (fun before after => ∀ name ∈ before.acks, name ∈ after.acks)
      (fun result final => ∀ repaired, result = .ok repaired →
        ∀ messageId ∈ ids, filename messageId ∈ final.acks) state := by
  induction ids generalizing state with
  | nil =>
      intro repaired _ messageId absent
      cases absent
  | cons messageId rest induction =>
      refine Program.safe_compute_bind (fun name named => ?_)
        (fun _ _ raised => by cases raised)
      obtain ⟨-, rfl⟩ := jsonFilename_eq_ok.mp named
      -- The acknowledgement of this id stays while the loop goes on.
      have continues (later : State)
          (acked : filename messageId ∈ later.acks) :
          (reconcileEach createdUtc rest).Safe
            (fun before after => ∀ name ∈ before.acks, name ∈ after.acks)
            (fun result final => ∀ repaired, result = .ok repaired →
              ∀ other ∈ messageId :: rest, filename other ∈ final.acks)
            later := by
        refine ((induction later).and_invariant
          (fun _ _ kept => kept (filename messageId)) acked).mono
          (fun _ _ step => step) ?_
        rintro result final ⟨others, isAcked⟩ repaired isRepaired other
          member
        rcases List.mem_cons.mp member with rfl | inRest
        · exact isAcked
        · exact others repaired isRepaired other inRest
      simp only [Program.safe_bind, Program.safe_observe,
        Program.bindPost_ok, Program.safe_ite]
      refine ⟨fun acked => ?_, fun unacked => ?_⟩
      · exact continues state (AList.lookup_isSome.mp acked)
      · refine safe_writeAck ?_ (fun _ _ raised => by cases raised)
        intro ack data shaped built written
        refine ⟨fun name member => AList.mem_insert _ |>.mpr (.inr member),
          ?_⟩
        simp only [Program.bindPost_ok, Program.safe_bind]
        refine (continues _ (AList.mem_insert _ |>.mpr (.inl rfl))).mono
          (fun _ _ step => step) ?_
        intro result final acked
        cases result with
        | error error => exact fun _ raised => by cases raised
        | ok others => exact fun _ _ => acked others rfl

/-- The loop writes acknowledgements of its ids only. -/
theorem safe_reconcileEach_names
    {createdUtc : Text} {names : Text → Prop} (ids : List Text)
    (listed : ∀ messageId ∈ ids, names (filename messageId))
    (state : State) :
    (reconcileEach createdUtc ids).Safe
      (fun before after => ∀ name ∈ after.acks,
        name ∈ before.acks ∨ names name)
      (fun _ _ => True) state := by
  induction ids generalizing state with
  | nil => trivial
  | cons messageId rest induction =>
      have later := induction fun other member =>
        listed other (List.mem_cons_of_mem _ member)
      refine Program.safe_compute_bind (fun name named => ?_)
        fun _ => trivial
      simp only [Program.safe_bind, Program.safe_observe,
        Program.bindPost_ok, Program.safe_ite]
      refine ⟨fun _ => later state, fun _ => ?_⟩
      refine safe_writeAck ?_ fun _ => trivial
      intro ack data shaped built written
      refine ⟨fun name member => ?_, ?_⟩
      · rcases (AList.mem_insert _).mp member with rfl | earlier
        · exact .inr (listed messageId List.mem_cons_self)
        · exact .inl earlier
      · simp only [Program.bindPost_ok, Program.safe_bind]
        refine (later _).mono (fun _ _ step => step) ?_
        intro result final _
        cases result with
        | error error => trivial
        | ok others => trivial

/-- The loop returns for every timestamp. -/
theorem run_reconcileEach
    {createdUtc created : Text}
    (normalized : normalizeTimestamp createdUtc = .ok created)
    (ids : List Text)
    (shaped : ∀ messageId ∈ ids, isObjectId messageId = true)
    (state : State) :
    ∃ repaired final,
      (reconcileEach createdUtc ids).run state = (.ok repaired, final) := by
  induction ids generalizing state with
  | nil => exact ⟨[], state, rfl⟩
  | cons messageId rest induction =>
      have isShaped := shaped messageId List.mem_cons_self
      have later := induction fun other member =>
        shaped other (List.mem_cons_of_mem _ member)
      have named : jsonFilename messageId = .ok (filename messageId) :=
        jsonFilename_eq_ok.mpr ⟨isShaped, rfl⟩
      obtain ⟨ackId, data, -, written⟩ :=
        writeAck_eq .acknowledged isShaped normalized
      rw [reconcileEach, named, Program.compute_ok_bind,
        Program.run_observe_bind]
      split
      · exact later state
      · obtain ⟨repaired, final, ran⟩ :=
          later (state.putAck (filename messageId) data)
        rw [written]
        change ∃ others after, (reconcileEach createdUtc rest >>= _).run
          (state.putAck (filename messageId) data) = (.ok others, after)
        rw [Program.run_bind_ok ran]
        exact ⟨_, _, rfl⟩

/-! ## Reconciliation as a whole -/

/-- The status of an acknowledgement, as it is read back. -/
theorem readJsonObject_of_buildAck
    {messageId createdUtc : Text} {status : AckStatus} {ack : Members}
    {data : Bytes} (built : buildAck messageId status createdUtc = .ok ack)
    (written : dumps (.obj ack) = .ok data) :
    ∃ read, readJsonObject (some data) = .ok read ∧
      isText read (text "ack_status") status.value = true := by
  obtain ⟨ackId, created, rfl⟩ := ackMembers_of_buildAck built
  exact readJsonObject_ack written

/-- A new acknowledgement says `ACKNOWLEDGED`. -/
theorem holdsAck_putAck
    {state : State} {messageId createdUtc : Text} {ack : Members}
    {data : Bytes}
    (built : buildAck messageId .acknowledged createdUtc = .ok ack)
    (written : dumps (.obj ack) = .ok data) :
    HoldsAck (filename messageId)
      (state.putAck (filename messageId) data) := by
  obtain ⟨read, isRead, status⟩ :=
    readJsonObject_of_buildAck built written
  exact ⟨data, read, AList.lookup_insert _, isRead, status⟩

/-- A file under another name does not matter. -/
theorem holdsAck_putAck_of_ne
    {state : State} {name other : Text} {data : Bytes}
    (apart : name ≠ other) :
    HoldsAck name (state.putAck other data) ↔ HoldsAck name state := by
  simp only [HoldsAck, State.putAck, AList.lookup_insert_ne apart]

/-- Reconciliation keeps the files there are, and adds good ones. -/
structure Repairs (before after : State) : Prop where
  imported : after.imported = before.imported
  kept : ∀ name ∈ before.acks,
    after.acks.lookup name = before.acks.lookup name
  added : ∀ name ∈ after.acks,
    name ∈ before.acks ∨ HoldsAck name after

/-- What is not a `receive` repairs acknowledgements or leaves them. -/
theorem repairs_call
    {call : Call Operation} (start : State)
    (isOther : ∀ file verifier nowUtc ttlSeconds,
      call.operation ≠ .receive file verifier nowUtc ttlSeconds) :
    Repairs start (call.after code start) := by
  refine call_keeps (Repairs start) ?_
    ⟨rfl, fun _ _ => rfl, fun _ member => .inl member⟩
  intro before after step repairs
  generalize call.operation = operation at isOther step
  cases step with
  | queue | sign _ _ _ _ _ =>
      exact ⟨repairs.imported, repairs.kept, repairs.added⟩
  | quarantine | deadLetter | store _ _ | acknowledge _ _ _ _ _ =>
      exact absurd rfl (isOther _ _ _ _)
  | @alter name content =>
      cases content with
      | none => exact ⟨repairs.imported, repairs.kept, repairs.added⟩
      | some data => exact ⟨repairs.imported, repairs.kept, repairs.added⟩
  | @reconcile _ _ messageId ack data absent shaped built written =>
      refine ⟨repairs.imported, fun name member => ?_,
        fun name member => ?_⟩
      · rw [← repairs.kept name member]
        refine AList.lookup_insert_ne ?_
        rintro rfl
        refine absent ?_
        rw [← AList.lookup_isSome, repairs.kept _ member,
          AList.lookup_isSome]
        exact member
      · by_cases same : name = filename messageId
        · subst same
          exact .inr (holdsAck_putAck built written)
        · rw [holdsAck_putAck_of_ne same]
          rcases (AList.mem_insert _).mp member with isName | earlier
          · exact absurd isName same
          · exact repairs.added name earlier

/-- Reconciliation acknowledges imported messages only. -/
theorem acks_of_reconcile_call
    {call : Call Operation} {createdUtc : Text} {start : State}
    (sound : ImportedApart start)
    (isReconcile : call.operation =
      .reconcileAcknowledgements createdUtc) :
    ∀ name ∈ (call.after code start).acks,
      name ∈ start.acks ∨ name ∈ start.imported := by
  obtain ⟨ids, replayed, shaped, -⟩ := replayIds_of_checked
    (sortedFiles start.imported) fun file member =>
      sound.stored file.1 file.2 (mem_sortedFiles.mp member)
  have safe : (reconcileAcknowledgements createdUtc).Safe
      (fun before after => ∀ name ∈ after.acks,
        name ∈ before.acks ∨ name ∈ start.imported)
      (fun _ _ => True) start := by
    refine Program.safe_inspect_bind (fun found isFound => ?_)
      fun _ => trivial
    rw [replayed, Except.ok.injEq] at isFound
    subst isFound
    refine safe_reconcileEach_names _ (fun messageId isId => ?_) start
    obtain ⟨-, file, member, named⟩ :=
      shaped messageId (List.mem_insertionSort _ |>.mp isId)
    rw [← named]
    exact Directory.mem_of_lookup (mem_sortedFiles.mp member)
  have reaches : Relation.ReflTransGen
      (fun before after : State => ∀ name ∈ after.acks,
        name ∈ before.acks ∨ name ∈ start.imported)
      start (call.after code start) := by
    cases call with
    | complete operation =>
        obtain rfl : operation = _ := isReconcile
        exact safe.run_reaches
    | crashed operation writes =>
        obtain rfl : operation = _ := isReconcile
        exact safe.crash_reaches writes
  refine Program.holds_of_reaches (fun after => ∀ name ∈ after.acks,
    name ∈ start.acks ∨ name ∈ start.imported) reaches ?_
    fun _ member => .inl member
  intro before after step earlier name member
  rcases step name member with older | isImported
  · exact earlier name older
  · exact .inr isImported

/-- So does every call that is not a `receive`. -/
theorem acks_of_other_call
    {call : Call Operation} {start : State}
    (sound : ImportedApart start)
    (isOther : ∀ file verifier nowUtc ttlSeconds,
      call.operation ≠ .receive file verifier nowUtc ttlSeconds) :
    ∀ name ∈ (call.after code start).acks,
      name ∈ start.acks ∨ name ∈ start.imported := by
  by_cases isReconcile : ∃ createdUtc,
      call.operation = .reconcileAcknowledgements createdUtc
  · obtain ⟨createdUtc, isReconcile⟩ := isReconcile
    exact acks_of_reconcile_call sound isReconcile
  · have same : (call.after code start).acks = start.acks := by
      refine call_keeps (fun after => after.acks = start.acks) ?_ rfl
      intro before after step same
      generalize call.operation = operation at isOther isReconcile step
      cases step with
      | queue | sign _ _ _ _ _ => exact same
      | quarantine | deadLetter | store _ _ | acknowledge _ _ _ _ _ =>
          exact absurd rfl (isOther _ _ _ _)
      | reconcile _ _ _ _ => exact absurd ⟨_, rfl⟩ isReconcile
      | @alter name content =>
          cases content with
          | none => exact same
          | some data => exact same
    intro name member
    rw [same] at member
    exact .inl member

theorem repairs_reconcile (createdUtc : Text) (state : State) :
    Repairs state ((reconcileAcknowledgements createdUtc).run state).2 := by
  change Repairs state (Call.after code
    (.complete (.reconcileAcknowledgements createdUtc)) state)
  refine repairs_call state fun _ _ _ _ isReceive => ?_
  cases isReceive

theorem acks_of_reconcile
    {state : State} (sound : ImportedApart state) (createdUtc : Text) :
    (∀ repaired,
      ((reconcileAcknowledgements createdUtc).run state).1 =
        .ok repaired →
      ∀ name ∈ state.imported,
        name ∈ ((reconcileAcknowledgements createdUtc).run
          state).2.acks) ∧
    ((∃ created, normalizeTimestamp createdUtc = .ok created) →
      ∃ repaired,
        ((reconcileAcknowledgements createdUtc).run state).1 =
          .ok repaired) := by
  obtain ⟨ids, replayed, shaped, listed⟩ := replayIds_of_checked
    (sortedFiles state.imported) fun file member =>
      sound.stored file.1 file.2 (mem_sortedFiles.mp member)
  have runs : (reconcileAcknowledgements createdUtc).run state =
      (reconcileEach createdUtc (ids.insertionSort (· ≤ ·))).run state :=
    Program.run_inspect_bind
      (fun start : State => replayIds (sortedFiles start.imported))
      replayed
  rw [runs]
  refine ⟨fun repaired returned name member => ?_, ?_⟩
  · obtain ⟨data, isImported⟩ := Directory.mem_iff_lookup.mp member
    obtain ⟨messageId, isId, rfl⟩ :=
      listed (name, data) (mem_sortedFiles.mpr isImported)
    refine (safe_reconcileEach_acks _ state).run_post repaired returned
      messageId ?_
    exact List.mem_insertionSort _ |>.mpr isId
  · rintro ⟨created, normalized⟩
    obtain ⟨repaired, final, ran⟩ := run_reconcileEach normalized
      (ids.insertionSort (· ≤ ·))
      (fun messageId isId =>
        (shaped messageId (List.mem_insertionSort _ |>.mp isId)).1) state
    exact ⟨repaired, by rw [ran]⟩

/-- Recovery fails only where an acknowledgement says otherwise. -/
theorem recovers_iff_reconcilable
    {state : State} (sound : ImportedApart state) :
    Recovers state ↔ Reconcilable state := by
  constructor
  · intro recovers name isImported isAcked
    have valid : ∃ created,
        normalizeTimestamp (text "2026-07-29T00:00:00Z") =
          .ok created := ⟨_, rfl⟩
    obtain ⟨every, returns⟩ := recovers (text "2026-07-29T00:00:00Z")
    obtain ⟨repaired, returned⟩ := returns valid
    have repairs :=
      repairs_reconcile (text "2026-07-29T00:00:00Z") state
    rw [← repairs.imported] at isImported
    obtain ⟨data, ack, found, rest⟩ :=
      every repaired returned name isImported
    rw [repairs.kept name isAcked] at found
    exact ⟨data, ack, found, rest⟩
  · intro reconcilable createdUtc
    have repairs := repairs_reconcile createdUtc state
    obtain ⟨acked, returns⟩ := acks_of_reconcile sound createdUtc
    refine ⟨fun repaired returned name isImported => ?_, returns⟩
    rw [repairs.imported] at isImported
    rcases repairs.added name (acked repaired returned name isImported)
      with earlier | holds
    · obtain ⟨data, ack, found, rest⟩ :=
        reconcilable name isImported earlier
      rw [← repairs.kept name earlier] at found
      exact ⟨data, ack, found, rest⟩
    · exact holds

end ScientificResourceLab.Transport
