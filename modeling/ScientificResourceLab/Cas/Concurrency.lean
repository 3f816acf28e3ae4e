import ScientificResourceLab.Cas.Completion

/-!
# Concurrent calls with equal bytes

Calls of `ingest` with the same bytes share the name of their partial file.
One call may therefore take the partial file of another one away, by
publishing it or by dropping it, between the step in which the other call
staged it and the steps in which it reads it back and publishes it.  The
module says when this does not matter: a schedule is `Clear` when each call
that is about to read back or to publish finds a partial file, and each call
that is about to publish finds no object.

A call moves through three phases.  It waits until it has seen the object or
published it; the call that publishes leads, and the others follow.
-/

namespace ScientificResourceLab.Cas

open Python Contracts Steps
open Steps.Program (observe inspect update compute)

/-! ## What is left of a call -/

/-- A call that is about to replace the object by its partial file. -/
def publishing (request : IngestRequest) : Action IngestOutcome := do
  replacePartial request.hexDigest
  writeDescriptorAndReceipt request

/-- A call that saw the object of another call before it published. -/
def dropping (request : IngestRequest) : Action IngestOutcome := do
  update fun store => store.dropPartial request.hexDigest
  dedupOutcome request

/-- A call that is about to look for the object a second time. -/
def rechecking (request : IngestRequest) : Action IngestOutcome := do
  let published ← observe fun store => store.hasObject request.hexDigest
  if published then dropping request else publishing request

/-- `partial_path.read_bytes()`. -/
def readPartial (hexDigest : Text) (store : Store) : Except PyError Bytes :=
  (store.incoming.lookup (partialName hexDigest)).elim
    (.error absentFile) .ok

/-- The second half of `_write_partial_and_verify`. -/
def verifyPartial (request : IngestRequest) : Action PUnit := do
  let readback ← inspect (readPartial request.hexDigest)
  if sha256 readback ≠ request.hexDigest ∨
      readback.length ≠ request.sourceBytes.val.length then
    update fun store => store.dropPartial request.hexDigest
    throw (readbackFailure request readback)
  else pure ⟨⟩

/-- A call that is about to read its partial file back. -/
def readingBack (request : IngestRequest) : Action IngestOutcome := do
  verifyPartial request
  rechecking request

/-- A call that is about to stage its partial file. -/
def staging (request : IngestRequest) : Action IngestOutcome := do
  update fun store =>
    store.stage request.hexDigest request.sourceBytes.val
  readingBack request

/-- A call that is about to look for the object. -/
def checking (request : IngestRequest) : Action IngestOutcome := do
  let published ← observe fun store => store.hasObject request.hexDigest
  if published then dedupOutcome request else staging request

/-- An accepted call within its quota starts by looking for the object. -/
theorem ingest_eq_checking
    {request : IngestRequest} (accepted : Accepted request)
    (within : consultHook request = .ok ⟨⟩) :
    ingest request = checking request := by
  rw [ingest, checkRequest_eq_ok.mpr accepted, Program.compute_ok_bind,
    within]
  rfl

/-! ## Clear schedules -/

/--
A call that reads back finds a partial file; a call that publishes finds a
partial file and no object.
-/
def Clear (request : IngestRequest) (program : Action IngestOutcome)
    (store : Store) : Prop :=
  (program = readingBack request →
    partialName request.hexDigest ∈ store.incoming) ∧
  (program = publishing request →
    partialName request.hexDigest ∈ store.incoming ∧
      objectPath request.hexDigest ∉ store.objects)

/-! ## Phases -/

/-- Where a call stands. -/
inductive Phase where
  | waiting
  | leading
  | following

/-- The partial file, if there is one, holds the bytes of the calls. -/
def Staged (source : Bytes) (store : Store) : Prop :=
  ∀ data, store.incoming.lookup (partialName (sha256 source)) =
    some data → data = source

/-- Descriptors and receipts stay, and so do staged bytes. -/
def Retains (source : Bytes) (before after : Store) : Prop :=
  (∀ name ∈ before.descriptors, name ∈ after.descriptors) ∧
  (∀ name ∈ before.receipts, name ∈ after.receipts) ∧
  (Staged source before → Staged source after)

/-- The writes of a call that follows. -/
def Drops (source : Bytes) (before after : Store) : Prop :=
  after = before.dropPartial (sha256 source)

/-- The end of a call that follows. -/
def Deduplicated : Except PyError IngestOutcome → Store → Prop
  | .ok outcome, _ => outcome.deduplicated = true
  | .error _, _ => False

/-- The writes of a call that leads. -/
def Adds (before after : Store) : Prop :=
  (∃ hexDigest data, after = before.putDescriptor hexDigest data) ∨
    ∃ receiptId data, after = before.putReceipt receiptId data

/-- The end of a call that leads. -/
def Fresh (source : Bytes) : Except PyError IngestOutcome → Store → Prop
  | .ok outcome, store =>
      outcome.deduplicated = false ∧
        descriptorFile (sha256 source) ∈ store.descriptors ∧
        recordFile outcome.receiptId ∈ store.receipts
  | .error _, _ => False

/-- The places of a call before it has seen or published the object. -/
inductive Waits (request : IngestRequest) (store : Store) :
    Action IngestOutcome → Prop where
  | check : Waits request store (checking request)
  | stage : Waits request store (staging request)
  | readBack (staged : Staged request.sourceBytes.val store) :
      Waits request store (readingBack request)
  | recheck : Waits request store (rechecking request)
  | publish : Waits request store (publishing request)

/-- A call stands in a phase. -/
def Stands (request : IngestRequest) (program : Action IngestOutcome)
    (store : Store) : Phase → Prop
  | .waiting => Waits request store program
  | .leading =>
      program.Secure (Retains request.sourceBytes.val) Adds
        (Fresh request.sourceBytes.val) store
  | .following =>
      program.Secure (fun _ _ => True) (Drops request.sourceBytes.val)
        Deduplicated store

/-- What a step of a call means for the object. -/
inductive Move (hexDigest : Text) (before after : Store) :
    Phase → Phase → Prop where
  | stay (phase : Phase) (same : after.objects = before.objects) :
      Move hexDigest before after phase phase
  | follow (present : objectPath hexDigest ∈ before.objects)
      (same : after.objects = before.objects) :
      Move hexDigest before after .waiting .following
  | lead (absent : objectPath hexDigest ∉ before.objects)
      (published : objectPath hexDigest ∈ after.objects) :
      Move hexDigest before after .waiting .leading

/-! ## Steps of the other calls -/

variable {source : Bytes} {before after : Store}

theorem retains_refl (source : Bytes) (store : Store) :
    Retains source store store :=
  ⟨fun _ member => member, fun _ member => member, fun staged => staged⟩

theorem retains_trans
    (first second third : Store)
    (former : Retains source first second)
    (latter : Retains source second third) :
    Retains source first third :=
  ⟨fun name member => latter.1 name (former.1 name member),
    fun name member => latter.2.1 name (former.2.1 name member),
    fun staged => latter.2.2 (former.2.2 staged)⟩

theorem retains_stage (source : Bytes) (store : Store) :
    Retains source store (store.stage (sha256 source) source) := by
  refine ⟨fun _ member => member, fun _ member => member,
    fun staged data found => ?_⟩
  rcases Directory.lookup_insert_eq_some.mp found with
    ⟨-, rfl⟩ | ⟨differs, -⟩
  · rfl
  · exact absurd rfl differs

theorem retains_dropPartial (store : Store) :
    Retains source store (store.dropPartial (sha256 source)) := by
  refine ⟨fun _ member => member, fun _ member => member,
    fun staged data found => ?_⟩
  exact staged data (Directory.lookup_erase_eq_some.mp found).2

theorem retains_publish (store : Store) :
    Retains source store (store.publish (sha256 source)) := by
  refine ⟨fun name member => ?_, fun name member => ?_,
    fun staged data found => ?_⟩
  · rw [publish_descriptors]
    exact member
  · rw [publish_receipts]
    exact member
  · rw [Store.publish] at found
    split at found
    · exact staged data found
    · exact staged data (Directory.lookup_erase_eq_some.mp found).2

theorem Adds.retains (adds : Adds before after) :
    Retains source before after := by
  rcases adds with ⟨hexDigest, data, rfl⟩ | ⟨receiptId, data, rfl⟩
  · exact ⟨fun name member => AList.mem_insert _ |>.mpr (.inr member),
      fun name member => member, fun staged => staged⟩
  · exact ⟨fun name member => member,
      fun name member => AList.mem_insert _ |>.mpr (.inr member),
      fun staged => staged⟩

theorem Adds.objects (adds : Adds before after) :
    after.objects = before.objects := by
  rcases adds with ⟨_, _, rfl⟩ | ⟨_, _, rfl⟩ <;> rfl

/-- The end of a call that leads stays what it is. -/
theorem Fresh.later
    (result : Except PyError IngestOutcome) (before after : Store)
    (retains : Retains source before after)
    (fresh : Fresh source result before) : Fresh source result after := by
  cases result with
  | error error => exact fresh
  | ok outcome =>
      obtain ⟨isFresh, described, attested⟩ := fresh
      exact ⟨isFresh, retains.1 _ described, retains.2.1 _ attested⟩

/-- A call stays in its phase while the others move. -/
theorem Stands.later
    {request : IngestRequest} {program : Action IngestOutcome}
    {phase : Phase} (stands : Stands request program before phase)
    (retains : Retains request.sourceBytes.val before after) :
    Stands request program after phase := by
  cases phase with
  | waiting =>
      cases (show Waits request before program from stands) with
      | check => exact .check
      | stage => exact .stage
      | readBack staged => exact .readBack (retains.2.2 staged)
      | recheck => exact .recheck
      | publish => exact .publish
  | leading =>
      exact Program.Secure.later stands retains_trans Fresh.later retains
  | following =>
      refine Program.Secure.later stands (fun _ _ _ _ _ => trivial)
        (fun result _ _ _ ended => ?_) trivial
      cases result with
      | ok outcome => exact ended
      | error error => exact ended

/-! ## Steps of a call -/

/-- A call that has seen the object deduplicates. -/
theorem secure_dedupOutcome
    {request : IngestRequest} (accepted : Accepted request)
    (store : Store) :
    (dedupOutcome request).Secure (fun _ _ => True) (Drops source)
      Deduplicated store := by
  obtain ⟨fresh, built, -⟩ := freshDescriptor_eq accepted
  have ends : ∀ (descriptor : Members) (store : Store),
      Program.secureBind (fun _ _ => True) (Drops source) Deduplicated
        (fun descriptor => do
          let receiptId := ingestReceiptIdOf descriptor
          let receipt ← compute (syntheticReceipt request receiptId)
          pure
            { digest := request.digest
              sizeBytes := request.sizeBytes
              descriptor := descriptor
              receipt := receipt
              receiptId := receiptId
              deduplicated := true })
        (.ok descriptor) store := by
    intro descriptor store
    obtain ⟨receipt, isReceipt⟩ :=
      syntheticReceipt_eq accepted (ingestReceiptIdOf descriptor)
    simp only [Program.secureBind, isReceipt, Program.compute_ok_bind]
    rfl
  refine Program.secure_bind ?_
  refine Program.secure_observe_bind fun first _ => ?_
  split
  · refine Program.secure_observe_bind fun second _ => ?_
    split
    · exact ends _ second
    · next error failed =>
      have isUnreadable : unreadable error = true := by
        generalize second.descriptors.lookup
          (descriptorFile request.hexDigest) = file at failed
        cases file with
        | none =>
            obtain rfl : absentFile = error := Except.error.inj failed
            rfl
        | some data => exact unreadable_of_readDescriptor failed
      rw [if_pos isUnreadable, built]
      exact ends fresh second
  · rw [built]
    exact ends fresh first

theorem secure_dropping
    {request : IngestRequest} (accepted : Accepted request)
    (store : Store) :
    (dropping request).Secure (fun _ _ => True)
      (Drops request.sourceBytes.val) Deduplicated store :=
  Program.secure_update_bind fun _ _ =>
    ⟨rfl, secure_dedupOutcome accepted _⟩

/-- A call that has published writes its records. -/
theorem secure_writeDescriptorAndReceipt
    {request : IngestRequest} (accepted : Accepted request)
    (store : Store) :
    (writeDescriptorAndReceipt request).Secure
      (Retains request.sourceBytes.val) Adds
      (Fresh request.sourceBytes.val) store := by
  obtain ⟨outcome, descriptorData, receiptData, isCode, -, isFresh, -⟩ :=
    writeDescriptorAndReceipt_eq accepted
  rw [isCode]
  refine Program.secure_update_bind fun first _ =>
    ⟨.inl ⟨_, _, rfl⟩, ?_⟩
  refine Program.secure_update_bind fun second retains =>
    ⟨.inr ⟨_, _, rfl⟩, isFresh, ?_, ?_⟩
  · exact retains.1 _ (AList.mem_insert _ |>.mpr (.inl rfl))
  · exact AList.mem_insert _ |>.mpr (.inl rfl)

theorem hasObject_iff {store : Store} {hexDigest : Text} :
    store.hasObject hexDigest = true ↔
      objectPath hexDigest ∈ store.objects := by
  rw [Store.hasObject, decide_eq_true_iff]

theorem Waits.step
    {request : IngestRequest} (accepted : Accepted request)
    {program : Action IngestOutcome} {store : Store}
    (waits : Waits request store program)
    (clear : Clear request program store) :
    Retains request.sourceBytes.val store (program.step store).2 ∧
    ∃ phase, Stands request (program.step store).1
        (program.step store).2 phase ∧
      Move request.hexDigest store (program.step store).2 .waiting
        phase := by
  cases waits with
  | check =>
      refine ⟨retains_refl _ store, ?_⟩
      change ∃ phase, Stands request
        (if store.hasObject request.hexDigest then dedupOutcome request
          else staging request) store phase ∧ _
      split
      · next present =>
        exact ⟨.following, secure_dedupOutcome accepted store,
          .follow (hasObject_iff.mp present) rfl⟩
      · exact ⟨.waiting, .stage, .stay _ rfl⟩
  | stage =>
      refine ⟨retains_stage _ store, .waiting, .readBack ?_,
        .stay _ rfl⟩
      intro data found
      rcases Directory.lookup_insert_eq_some.mp found with
        ⟨-, rfl⟩ | ⟨differs, -⟩
      · rfl
      · exact absurd rfl differs
  | readBack staged =>
      obtain ⟨data, found⟩ := Directory.mem_iff_lookup.mp (clear.1 rfl)
      obtain rfl := staged data found
      have stepped : ((readingBack request).step store).1 =
          rechecking request := by
        have readback : readPartial request.hexDigest store =
            .ok request.sourceBytes.val := by
          rw [readPartial, found]
          rfl
        rw [readingBack, verifyPartial, Program.program_bind_assoc,
          Program.step_inspect_bind readback,
          if_neg (by simp [IngestRequest.hexDigest])]
        rfl
      rw [stepped]
      exact ⟨retains_refl _ store, .waiting, .recheck, .stay _ rfl⟩
  | recheck =>
      refine ⟨retains_refl _ store, ?_⟩
      change ∃ phase, Stands request
        (if store.hasObject request.hexDigest then dropping request
          else publishing request) store phase ∧ _
      split
      · next present =>
        exact ⟨.following, secure_dropping accepted store,
          .follow (hasObject_iff.mp present) rfl⟩
      · exact ⟨.waiting, .publish, .stay _ rfl⟩
  | publish =>
      obtain ⟨staged, absent⟩ := clear.2 rfl
      have stepped : ((publishing request).step store).1 =
          writeDescriptorAndReceipt request := by
        change (Program.bind (if _ then _ else _) _) = _
        rw [if_pos staged]
        rfl
      rw [stepped]
      exact ⟨retains_publish store, .leading,
        secure_writeDescriptorAndReceipt accepted _,
        .lead absent (publish_published staged)⟩

/-- The steps of a call in any phase. -/
theorem Stands.step
    {request : IngestRequest} (accepted : Accepted request)
    {program : Action IngestOutcome} {store : Store} {phase : Phase}
    (stands : Stands request program store phase)
    (clear : Clear request program store) :
    Retains request.sourceBytes.val store (program.step store).2 ∧
    ∃ next, Stands request (program.step store).1
        (program.step store).2 next ∧
      Move request.hexDigest store (program.step store).2 phase next := by
  cases phase with
  | waiting => exact Waits.step accepted stands clear
  | leading =>
      obtain ⟨adds | same, rest⟩ := Program.Secure.step stands
        (retains_refl request.sourceBytes.val)
      · exact ⟨adds.retains, .leading, rest, .stay _ adds.objects⟩
      · refine ⟨?_, .leading, rest, .stay _ (by rw [same])⟩
        rw [same]
        exact retains_refl _ store
  | following =>
      obtain ⟨drops | same, rest⟩ := Program.Secure.step stands
        (fun _ => trivial)
      · refine ⟨?_, .following, rest, .stay _ (by rw [drops]; rfl)⟩
        rw [drops]
        exact retains_dropPartial store
      · refine ⟨?_, .following, rest, .stay _ (by rw [same])⟩
        rw [same]
        exact retains_refl _ store

/-! ## All calls together -/

section

variable {ι : Type}

def calls (requests : ι → IngestRequest) :
    Pool Store PyError fun _ : ι => IngestOutcome :=
  fun thread => ingest (requests thread)

/--
Each call stands in a phase, at most one of them leads, and the object is
there exactly when one of them does.
-/
structure Coordinated (requests : ι → IngestRequest) (hexDigest : Text)
    (pool : Pool Store PyError fun _ : ι => IngestOutcome) (store : Store)
    (phase : ι → Phase) : Prop where
  stands : ∀ thread,
    Stands (requests thread) (pool thread) store (phase thread)
  leader_unique : ∀ first second, phase first = .leading →
    phase second = .leading → first = second
  published_iff : objectPath hexDigest ∈ store.objects ↔
    ∃ thread, phase thread = .leading
  published_of_following : ∀ thread, phase thread = .following →
    objectPath hexDigest ∈ store.objects

/-- The leader after a step of one call. -/
theorem Move.leader_update [DecidableEq ι]
    {requests : ι → IngestRequest} {hexDigest : Text}
    {pool : Pool Store PyError fun _ : ι => IngestOutcome}
    {phase : ι → Phase} {thread : ι} {next : Phase}
    (move : Move hexDigest before after (phase thread) next)
    (coordinated : Coordinated requests hexDigest pool before phase) :
    (∀ first second,
      Function.update phase thread next first = .leading →
      Function.update phase thread next second = .leading →
      first = second) ∧
    (objectPath hexDigest ∈ after.objects ↔
      ∃ other, Function.update phase thread next other = .leading) ∧
    ∀ other, Function.update phase thread next other = .following →
      objectPath hexDigest ∈ after.objects := by
  obtain ⟨-, unique, published, followed⟩ := coordinated
  generalize isPhase : phase thread = old at move
  cases move with
  | stay phase same =>
      rw [← isPhase, Function.update_eq_self, same]
      exact ⟨unique, published, followed⟩
  | follow present same =>
      rw [same]
      obtain ⟨leader, leads⟩ := published.mp present
      have differs : leader ≠ thread := by
        rintro rfl
        rw [isPhase] at leads
        cases leads
      have still : ∀ other,
          Function.update phase thread .following other = .leading →
          phase other = .leading := by
        intro other
        rw [Function.update_apply]
        split_ifs with isThread
        · intro wrong
          cases wrong
        · exact id
      refine ⟨fun first second firstLeads secondLeads =>
        unique first second (still first firstLeads)
          (still second secondLeads), ?_, fun _ _ => present⟩
      refine iff_of_true present ⟨leader, ?_⟩
      rw [Function.update_of_ne differs]
      exact leads
  | lead absent present =>
      have only : ∀ other,
          Function.update phase thread .leading other = .leading →
          other = thread := by
        intro other leads
        by_contra isOther
        rw [Function.update_of_ne isOther] at leads
        exact absent (published.mpr ⟨other, leads⟩)
      refine ⟨fun first second firstLeads secondLeads =>
        (only first firstLeads).trans (only second secondLeads).symm, ?_,
        fun _ _ => present⟩
      exact iff_of_true present ⟨thread, Function.update_self ..⟩

/-- A clear step keeps the calls coordinated. -/
theorem Coordinated.step [DecidableEq ι]
    {requests : ι → IngestRequest} {source : SourceBytes}
    (same : ∀ thread, (requests thread).sourceBytes = source)
    (accepted : ∀ thread, Accepted (requests thread))
    {pool : Pool Store PyError fun _ : ι => IngestOutcome} {store : Store}
    {phase : ι → Phase}
    (coordinated : Coordinated requests (sha256 source.val) pool store
      phase)
    (thread : ι) (clear : Clear (requests thread) (pool thread) store) :
    ∃ phase, Coordinated requests (sha256 source.val)
      (pool.step thread store) ((pool thread).step store).2 phase := by
  obtain ⟨retains, next, stands, move⟩ :=
    (coordinated.stands thread).step (accepted thread) clear
  rw [IngestRequest.hexDigest, same thread] at move
  have leaders := move.leader_update coordinated
  refine ⟨Function.update phase thread next, fun other => ?_,
    leaders.1, leaders.2.1, leaders.2.2⟩
  · by_cases isThread : other = thread
    · subst isThread
      rw [Pool.step, Function.update_self, Function.update_self]
      exact stands
    · rw [Pool.step, Function.update_of_ne isThread,
        Function.update_of_ne isThread]
      refine (coordinated.stands other).later ?_
      rw [same other, ← same thread]
      exact retains

/-- The calls before their first step. -/
theorem coordinated_calls
    {requests : ι → IngestRequest}
    (accepted : ∀ thread, Accepted (requests thread))
    (within : ∀ thread, consultHook (requests thread) = .ok ⟨⟩)
    {hexDigest : Text} {store : Store}
    (absent : objectPath hexDigest ∉ store.objects) :
    Coordinated requests hexDigest (calls requests) store
      fun _ => .waiting where
  stands thread := by
    rw [calls, ingest_eq_checking (accepted thread) (within thread)]
    exact .check
  leader_unique _ _ leads := by cases leads
  published_iff := by simpa using absent
  published_of_following _ follows := by cases follows

/-- The longest path of `ingest`. -/
def ingestSteps : Nat := 7

theorem endsWithin_dedupOutcome (request : IngestRequest) :
    (dedupOutcome request).EndsWithin 2 := by
  have reads : (readDescriptorOrBuild request).EndsWithin 2 := by
    refine Program.endsWithin_observe_bind fun present => ?_
    split
    · refine Program.endsWithin_observe_bind fun file => ?_
      split
      · trivial
      · split
        · exact Program.endsWithin_compute _
        · trivial
    · exact (Program.endsWithin_compute _).mono (by omega)
  change (dedupOutcome request).EndsWithin (0 + 2)
  refine Program.endsWithin_bind reads fun descriptor => ?_
  change Program.EndsWithin (0 + 0) _
  exact Program.endsWithin_bind (Program.endsWithin_compute _)
    fun _ => trivial

theorem endsWithin_writeDescriptorAndReceipt
    {request : IngestRequest} (accepted : Accepted request) :
    (writeDescriptorAndReceipt request).EndsWithin 2 := by
  obtain ⟨outcome, descriptorData, receiptData, isCode, -⟩ :=
    writeDescriptorAndReceipt_eq accepted
  rw [isCode]
  exact fun _ _ => trivial

/-- A call ends within its steps, whatever the others do. -/
theorem endsWithin_ingest
    {request : IngestRequest} (accepted : Accepted request)
    (within : consultHook request = .ok ⟨⟩) :
    (ingest request).EndsWithin ingestSteps := by
  have publishes : (publishing request).EndsWithin 3 := by
    intro store
    change Program.EndsWithin 2 (Program.bind (if _ then _ else _) _)
    split
    · exact endsWithin_writeDescriptorAndReceipt accepted
    · trivial
  have rechecks : (rechecking request).EndsWithin 4 := by
    refine Program.endsWithin_observe_bind fun published => ?_
    split
    · exact Program.endsWithin_update_bind
        (endsWithin_dedupOutcome request)
    · exact publishes
  have readsBack : (readingBack request).EndsWithin 5 := by
    rw [readingBack, verifyPartial, Program.program_bind_assoc]
    refine Program.endsWithin_inspect_bind fun readback => ?_
    split
    · exact fun _ => trivial
    · exact rechecks
  rw [ingest_eq_checking accepted within]
  refine Program.endsWithin_observe_bind fun published => ?_
  split
  · exact (endsWithin_dedupOutcome request).mono (by omega)
  · exact Program.endsWithin_update_bind readsBack

/--
All calls returned, exactly one of them reports a fresh publication, and the
object is there with the descriptor and the receipt of that call.
-/
def SharedPublication (requests : ι → IngestRequest)
    (final : (Pool Store PyError fun _ : ι => IngestOutcome) × Store) :
    Prop :=
  ∃ (outcomes : ι → IngestOutcome) (leader : ι),
    (∀ thread, final.1 thread = .ret (outcomes thread)) ∧
    (∀ thread,
      (outcomes thread).deduplicated = false ↔ thread = leader) ∧
    objectPath (requests leader).hexDigest ∈ final.2.objects ∧
    descriptorFile (requests leader).hexDigest ∈ final.2.descriptors ∧
    recordFile (outcomes leader).receiptId ∈ final.2.receipts

/-- What a call that has ended returned. -/
theorem Stands.outcome
    {request : IngestRequest} {program : Action IngestOutcome}
    {store : Store} {phase : Phase}
    (stands : Stands request program store phase)
    (ended : program.Ended) :
    ∃ outcome, program = .ret outcome ∧
      ((outcome.deduplicated = false ∧ phase = .leading ∧
          Fresh request.sourceBytes.val (.ok outcome) store) ∨
        (outcome.deduplicated = true ∧ phase = .following)) := by
  cases phase with
  | waiting =>
      cases (show Waits request store program from stands) <;>
        exact ended.elim
  | leading =>
      cases program with
      | ret outcome => exact ⟨outcome, rfl, .inl ⟨stands.1, rfl, stands⟩⟩
      | raise error => exact stands.elim
      | read next => exact ended.elim
      | write action next => exact ended.elim
  | following =>
      cases program with
      | ret outcome => exact ⟨outcome, rfl, .inr ⟨stands, rfl⟩⟩
      | raise error => exact stands.elim
      | read next => exact ended.elim
      | write action next => exact ended.elim

/-- Coordinated calls that have ended share one publication. -/
theorem Coordinated.sharedPublication [Nonempty ι]
    {requests : ι → IngestRequest} {source : SourceBytes}
    (same : ∀ thread, (requests thread).sourceBytes = source)
    {pool : Pool Store PyError fun _ : ι => IngestOutcome} {store : Store}
    {phase : ι → Phase}
    (coordinated : Coordinated requests (sha256 source.val) pool store
      phase)
    (ended : ∀ thread, (pool thread).Ended) :
    SharedPublication requests (pool, store) := by
  have ends := fun thread =>
    (coordinated.stands thread).outcome (ended thread)
  choose outcomes returned fresh using ends
  have led : ∃ leader, phase leader = .leading := by
    obtain ⟨thread⟩ := ‹Nonempty ι›
    rcases fresh thread with ⟨-, leads, -⟩ | ⟨-, follows⟩
    · exact ⟨thread, leads⟩
    · exact coordinated.published_iff.mp
        (coordinated.published_of_following thread follows)
  obtain ⟨leader, leads⟩ := led
  have records : Fresh source.val (.ok (outcomes leader)) store := by
    rcases fresh leader with ⟨-, -, records⟩ | ⟨-, follows⟩
    · rw [same leader] at records
      exact records
    · rw [leads] at follows
      cases follows
  refine ⟨outcomes, leader, returned, fun thread => ?_, ?_, ?_,
    records.2.2⟩
  · constructor
    · intro isFresh
      rcases fresh thread with ⟨-, alsoLeads, -⟩ | ⟨deduplicated, -⟩
      · exact coordinated.leader_unique thread leader alsoLeads leads
      · rw [deduplicated] at isFresh
        cases isFresh
    · rintro rfl
      exact records.1
  · rw [IngestRequest.hexDigest, same leader]
    exact coordinated.published_iff.mpr ⟨leader, leads⟩
  · rw [IngestRequest.hexDigest, same leader]
    exact records.2.1

/--
Calls with the same bytes, on a store without their object, under a clear
schedule: a call that was given its steps has returned, and once all calls
have ended they share one publication.
-/
theorem ingests_share_publication [DecidableEq ι] [Nonempty ι]
    (requests : ι → IngestRequest) (source : SourceBytes)
    (same : ∀ thread, (requests thread).sourceBytes = source)
    (accepted : ∀ thread, Accepted (requests thread))
    (within : ∀ thread, consultHook (requests thread) = .ok ⟨⟩)
    (store : Store)
    (absent : objectPath (sha256 source.val) ∉ store.objects)
    (schedule : List ι)
    (clear : Along (fun thread => Clear (requests thread)) schedule
      (calls requests) store) :
    let final := interleave schedule (calls requests) store
    (∀ thread, ingestSteps ≤ schedule.count thread →
      ∃ outcome, final.1 thread = .ret outcome) ∧
    ((∀ thread, (final.1 thread).Ended) →
      SharedPublication requests final) := by
  intro final
  have holds : ∃ phase, Coordinated requests (sha256 source.val)
      final.1 final.2 phase := by
    refine invariant_of_along
      (fun pool store => ∃ phase, Coordinated requests
        (sha256 source.val) pool store phase) ?_ schedule clear
      ⟨_, coordinated_calls accepted within absent⟩
    rintro pool store thread ⟨phase, coordinated⟩ clear
    exact coordinated.step same accepted thread clear
  obtain ⟨phase, coordinated⟩ := holds
  refine ⟨fun thread given => ?_, coordinated.sharedPublication same⟩
  have ended : (final.1 thread).Ended := ended_of_count schedule
    (endsWithin_ingest (accepted thread) (within thread)) given
  obtain ⟨outcome, returned, -⟩ :=
    (coordinated.stands thread).outcome ended
  exact ⟨outcome, returned⟩

end

/-! ## Two calls -/

/-- A step that raises when there are no files. -/
def needsFile (program : Action IngestOutcome) : Bool :=
  match (program.step Store.empty).1 with
  | .raise _ => true
  | _ => false

/-- Only a step that needs a file can be unclear. -/
theorem clear_of_needsFile
    {request : IngestRequest} {program : Action IngestOutcome}
    {store : Store}
    (found : needsFile program = true →
      partialName request.hexDigest ∈ store.incoming ∧
        objectPath request.hexDigest ∉ store.objects) :
    Clear request program store := by
  constructor
  · rintro rfl
    exact (found rfl).1
  · rintro rfl
    exact found rfl

/-- Two calls, one after the other. -/
theorem ingests_one_after_the_other :
    SharedPublication (fun _ : Bool => emptyRequest)
      (interleave (List.replicate 7 false ++ List.replicate 7 true)
        (calls fun _ => emptyRequest) Store.empty) := by
  have clear : Along
      (fun (_ : Bool) program store => needsFile program = true →
        partialName emptyRequest.hexDigest ∈ store.incoming ∧
          objectPath emptyRequest.hexDigest ∉ store.objects)
      (List.replicate 7 false ++ List.replicate 7 true)
      (calls fun _ => emptyRequest) Store.empty := by
    decide +kernel
  obtain ⟨returns, shares⟩ := ingests_share_publication
    (fun _ : Bool => emptyRequest) emptyRequest.sourceBytes
    (fun _ => rfl) (fun _ => accepted_emptyRequest) (fun _ => rfl)
    Store.empty (AList.notMem_empty _)
    (List.replicate 7 false ++ List.replicate 7 true)
    (clear.mono (fun _ _ _ => clear_of_needsFile) _)
  refine shares fun thread => ?_
  obtain ⟨outcome, returned⟩ := returns thread (by cases thread <;> decide)
  rw [returned]
  trivial

/-- The kind of error that a call raised. -/
def raisedKind (program : Action IngestOutcome) : Option ErrorKind :=
  match program with
  | .raise error => some error.kind
  | _ => none

/--
Two accepted calls on an empty store.  Both stage their partial file, the
first one publishes it, and the second one reads it back.
-/
theorem concurrent_ingest_raises :
    let requests := fun _ : Bool => emptyRequest
    let final := interleave
      [false, true, false, true, false, false, false, true, false, false]
      (calls requests) Store.empty
    (∀ thread, Accepted (requests thread) ∧
      consultHook (requests thread) = .ok ⟨⟩) ∧
    (∀ thread, (final.1 thread).Ended) ∧
    raisedKind (final.1 true) = some .fileNotFoundError ∧
    ¬ SharedPublication requests final := by
  intro requests final
  obtain ⟨ended, raises⟩ : (∀ thread, (final.1 thread).Ended) ∧
      raisedKind (final.1 true) = some .fileNotFoundError := by
    decide +kernel
  refine ⟨fun _ => ⟨accepted_emptyRequest, rfl⟩, ended, raises, ?_⟩
  rintro ⟨outcomes, leader, returned, -⟩
  rw [returned true] at raises
  cases raises

end ScientificResourceLab.Cas
