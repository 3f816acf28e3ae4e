import ScientificResourceLab.Cas.Integrity

/-!
# What a successful ingest leaves on disk

Calls of `ingest` made one after another, each complete or cut by a crash
after any of its file steps.  The records on disk are then those of the calls
that wrote them (`Recorded`), and a call on such a store either publishes its
object with both records, or finds the object and takes the receipt id from
the descriptor that lies beside it.

The second exit asks only for the object.  So a call that returns leaves a
complete publication behind exactly when the store was `Ready` for it: no
earlier call with the same bytes was cut after its publish and before its
receipt.
-/

namespace ScientificResourceLab.Cas

open Python Contracts Steps
open Steps.Program (observe inspect update compute)

/-! ## The records on disk -/

/-- Every record is one that the engine wrote. -/
structure Recorded (store : Store) : Prop where
  objects : ∀ path data, store.objects.lookup path = some data →
    path = objectPath (sha256 data)
  descriptors : ∀ name data, store.descriptors.lookup name = some data →
    ∃ hexDigest object receiptId,
      name = descriptorFile hexDigest ∧
      store.objects.lookup (objectPath hexDigest) = some object ∧
      Describes data (digestOf hexDigest) object.length (some receiptId)
  receipts : ∀ name data, store.receipts.lookup name = some data →
    ∃ hexDigest receiptId sizeBytes,
      name = recordFile receiptId ∧
      Attests data receiptId (digestOf hexDigest) sizeBytes

/-- A file step of a call that runs alone. -/
inductive RecordStep (before : Store) : Store → Prop where
  | incoming (after : Store) (objects : after.objects = before.objects)
      (descriptors : after.descriptors = before.descriptors)
      (receipts : after.receipts = before.receipts) :
      RecordStep before after
  | publish (after : Store) (data : Bytes)
      (absent : objectPath (sha256 data) ∉ before.objects)
      (objects : after.objects =
        before.objects.insert (objectPath (sha256 data)) data)
      (descriptors : after.descriptors = before.descriptors)
      (receipts : after.receipts = before.receipts) :
      RecordStep before after
  | describe (object data : Bytes) (receiptId : Text)
      (published : before.objects.lookup (objectPath (sha256 object)) =
        some object)
      (describes : Describes data (digestOf (sha256 object)) object.length
        (some receiptId)) :
      RecordStep before (before.putDescriptor (sha256 object) data)
  | attest (hexDigest receiptId : Text) (sizeBytes : Int) (data : Bytes)
      (attests : Attests data receiptId (digestOf hexDigest) sizeBytes) :
      RecordStep before (before.putReceipt receiptId data)

theorem recorded_empty : Recorded Store.empty where
  objects _ _ found := by cases found
  descriptors _ _ found := by cases found
  receipts _ _ found := by cases found

theorem RecordStep.recorded
    (before after : Store) (step : RecordStep before after)
    (recorded : Recorded before) : Recorded after := by
  cases step with
  | incoming _ objects descriptors receipts =>
      refine ⟨?_, ?_, ?_⟩
      · rw [objects]
        exact recorded.objects
      · rw [objects, descriptors]
        exact recorded.descriptors
      · rw [receipts]
        exact recorded.receipts
  | publish _ data absent objects descriptors receipts =>
      refine ⟨fun path content found => ?_,
        fun name content found => ?_, ?_⟩
      · rw [objects] at found
        rcases Directory.lookup_insert_eq_some.mp found with
          ⟨rfl, rfl⟩ | ⟨-, kept⟩
        · rfl
        · exact recorded.objects path content kept
      · rw [descriptors] at found
        obtain ⟨hexDigest, object, receiptId, isName, published,
          describes⟩ := recorded.descriptors name content found
        refine ⟨hexDigest, object, receiptId, isName, ?_, describes⟩
        rw [objects, Directory.lookup_insert_eq_some]
        refine .inr ⟨?_, published⟩
        rintro same
        rw [same] at published
        exact absent (Directory.mem_of_lookup published)
      · rw [receipts]
        exact recorded.receipts
  | describe object data receiptId published describes =>
      refine ⟨recorded.objects, fun name content found => ?_,
        recorded.receipts⟩
      rcases Directory.lookup_insert_eq_some.mp found with
        ⟨rfl, rfl⟩ | ⟨-, kept⟩
      · exact ⟨sha256 object, object, receiptId, rfl, published,
          describes⟩
      · exact recorded.descriptors name content kept
  | attest hexDigest receiptId sizeBytes data attests =>
      refine ⟨recorded.objects, recorded.descriptors,
        fun name content found => ?_⟩
      rcases Directory.lookup_insert_eq_some.mp found with
        ⟨rfl, rfl⟩ | ⟨-, kept⟩
      · exact ⟨hexDigest, receiptId, sizeBytes, rfl, attests⟩
      · exact recorded.receipts name content kept

/-! ## The deduplicated exit -/

/-- The receipt id that the descriptor of an object carries, or `""`. -/
def Store.storedReceiptId (store : Store) (hexDigest : Text) : Text :=
  match store.descriptors.lookup (descriptorFile hexDigest) with
  | none => []
  | some data =>
      match readDescriptor data with
      | .ok descriptor => ingestReceiptIdOf descriptor
      | .error _ => []

theorem run_readDescriptorOrBuild
    {request : IngestRequest} (accepted : Accepted request)
    (store : Store) :
    ∃ descriptor,
      (readDescriptorOrBuild request).run store = (.ok descriptor, store) ∧
      ingestReceiptIdOf descriptor =
        store.storedReceiptId request.hexDigest := by
  obtain ⟨fresh, isFresh, unnamed⟩ := freshDescriptor_eq accepted
  rw [readDescriptorOrBuild, Program.run_observe_bind,
    Store.storedReceiptId]
  cases found : store.descriptors.lookup
      (descriptorFile request.hexDigest) with
  | none =>
      have absent := AList.lookup_eq_none.mp found
      simp only [absent, decide_false, Bool.false_eq_true, if_false,
        Program.run_compute, isFresh]
      exact ⟨fresh, rfl, unnamed⟩
  | some data =>
      have present := Directory.mem_of_lookup found
      simp only [present, decide_true, if_true, Program.run_observe_bind,
        found, Option.elim_some]
      cases reads : readDescriptor data with
      | ok descriptor => exact ⟨descriptor, rfl, rfl⟩
      | error error =>
          simp only [unreadable_of_readDescriptor reads, if_true,
            Program.run_compute, isFresh]
          exact ⟨fresh, rfl, unnamed⟩

/-- A call that finds its object returns what the descriptor says. -/
theorem run_dedupOutcome
    {request : IngestRequest} (accepted : Accepted request)
    (store : Store) :
    ∃ outcome,
      (dedupOutcome request).run store = (.ok outcome, store) ∧
      outcome.digest = request.digest ∧
      outcome.receiptId = store.storedReceiptId request.hexDigest := by
  obtain ⟨descriptor, ran, isId⟩ :=
    run_readDescriptorOrBuild accepted store
  obtain ⟨receipt, isReceipt⟩ := syntheticReceipt_eq accepted
    (ingestReceiptIdOf descriptor)
  refine ⟨⟨request.digest, request.sizeBytes, descriptor, receipt,
    ingestReceiptIdOf descriptor, true⟩, ?_, rfl, isId⟩
  rw [dedupOutcome, Program.run_bind_ok ran]
  simp only [isReceipt, Program.compute_ok_bind]
  rfl

/-! ## One call -/

/-- What a call that publishes its object leaves behind. -/
structure Publishes (request : IngestRequest) (before : Store)
    (outcome : IngestOutcome) (after : Store) : Prop where
  absent : objectPath request.hexDigest ∉ before.objects
  objects : after.objects = before.objects.insert
    (objectPath request.hexDigest) request.sourceBytes.val
  descriptors : ∃ data, after.descriptors = before.descriptors.insert
      (descriptorFile request.hexDigest) data ∧
    Describes data request.digest request.sizeBytes
      (some outcome.receiptId)
  receipts : ∃ data, after.receipts = before.receipts.insert
      (recordFile outcome.receiptId) data ∧
    Attests data outcome.receiptId request.digest request.sizeBytes

/-- The outcome of a call of `ingest` on a store. -/
def IngestPost (request : IngestRequest) (before : Store) :
    Except PyError IngestOutcome → Store → Prop
  | .ok outcome, after =>
      Accepted request ∧ outcome.digest = request.digest ∧
        (Publishes request before outcome after ∨
          objectPath request.hexDigest ∈ before.objects ∧
          after = before ∧
          outcome.receiptId = before.storedReceiptId request.hexDigest)
  | .error _, after =>
      ¬ (Accepted request ∧
        objectPath request.hexDigest ∈ before.objects) ∧
      after.objects = before.objects ∧
      after.descriptors = before.descriptors ∧
      after.receipts = before.receipts

/-- The outcome of a call, which raises only where something refuses it. -/
def IngestAnswer (request : IngestRequest) (before : Store)
    (result : Except PyError IngestOutcome) (after : Store) : Prop :=
  IngestPost request before result after ∧
    (Accepted request → consultHook request = .ok ⟨⟩ →
      ∃ outcome, result = .ok outcome)

/-- After a verified staging the object is published with both records. -/
theorem safe_publication
    {request : IngestRequest} (accepted : Accepted request)
    {before store : Store}
    (absent : objectPath request.hexDigest ∉ before.objects)
    (objects : store.objects = before.objects)
    (descriptors : store.descriptors = before.descriptors)
    (receipts : store.receipts = before.receipts)
    (staged : store.incoming.lookup (partialName request.hexDigest) =
      some request.sourceBytes.val) :
    Program.Safe RecordStep (IngestAnswer request before)
      (replacePartial request.hexDigest >>= fun _ =>
        writeDescriptorAndReceipt request) store := by
  obtain ⟨outcome, descriptorData, receiptData, isCode, isDigest, -,
    describes, attests⟩ := writeDescriptorAndReceipt_eq accepted
  have published : store.publish request.hexDigest =
      { store with
        incoming := store.incoming.erase (partialName request.hexDigest)
        objects := store.objects.insert (objectPath request.hexDigest)
          request.sourceBytes.val } := by
    rw [Store.publish, staged]
  have present := Directory.mem_of_lookup staged
  rw [Program.safe_bind, replacePartial, Program.Safe]
  refine ⟨.publish _ request.sourceBytes.val ?_ ?_ ?_ ?_, ?_⟩
  · rw [objects]
    exact absent
  · rw [published]
    rfl
  · rw [published]
  · rw [published]
  simp only [if_pos present]
  rw [Program.Safe, Program.bindPost_ok, isCode, published]
  refine ⟨.describe request.sourceBytes.val descriptorData _
    (AList.lookup_insert _) describes, .attest _ _ _ _ attests,
    ⟨accepted, isDigest, .inl ⟨absent, ?_, ?_, ?_⟩⟩,
    fun _ _ => ⟨_, rfl⟩⟩
  · rw [← objects]
    rfl
  · refine ⟨descriptorData, ?_, describes⟩
    rw [← descriptors]
    rfl
  · refine ⟨receiptData, ?_, attests⟩
    rw [← receipts]
    rfl

/-- A call that runs alone makes record steps and answers as described. -/
theorem safe_ingest_answer (request : IngestRequest) (store : Store) :
    (ingest request).Safe RecordStep (IngestAnswer request store)
      store := by
  rw [ingest]
  by_cases accepted : Accepted request
  · rw [checkRequest_eq_ok.mpr accepted, Program.compute_ok_bind]
    by_cases present : objectPath request.hexDigest ∈ store.objects
    · have isPresent : store.hasObject request.hexDigest = true :=
        decide_eq_true present
      obtain ⟨outcome, ran, isDigest, isId⟩ :=
        run_dedupOutcome accepted store
      rw [Program.safe_bind, Program.safe_observe, Program.bindPost_ok,
        isPresent, if_pos rfl]
      refine (readOnly_dedupOutcome request).safe ?_
      rw [ran]
      exact ⟨⟨accepted, isDigest, .inr ⟨present, rfl, isId⟩⟩,
        fun _ _ => ⟨outcome, rfl⟩⟩
    · have isAbsent : store.hasObject request.hexDigest = false :=
        decide_eq_false present
      rw [Program.safe_bind, Program.safe_observe, Program.bindPost_ok,
        isAbsent, if_neg (by simp)]
      rw [Program.safe_bind, Program.safe_compute]
      cases consulted : consultHook request with
      | error error =>
          refine ⟨⟨fun both => present both.2, rfl, rfl, rfl⟩, ?_⟩
          intro _ agreed
          rw [consulted] at agreed
          cases agreed
      | ok _ =>
      rw [Program.bindPost_ok]
      have staged : (store.stage request.hexDigest
          request.sourceBytes.val).incoming.lookup
          (partialName request.hexDigest) =
            some request.sourceBytes.val :=
        AList.lookup_insert _
      rw [Program.safe_bind, writePartialAndVerify, Program.safe_bind,
        Program.safe_update]
      refine ⟨.incoming _ rfl rfl rfl, ?_⟩
      rw [Program.bindPost_ok, Program.safe_bind, Program.safe_inspect,
        staged, Option.elim_some, Program.bindPost_ok, if_neg (by simp [
          IngestRequest.hexDigest]), Program.safe_pure,
        Program.bindPost_ok, Program.safe_bind, Program.safe_observe,
        Program.bindPost_ok]
      have stillAbsent : (store.stage request.hexDigest
          request.sourceBytes.val).hasObject request.hexDigest = false :=
        isAbsent
      rw [stillAbsent, if_neg (by simp)]
      exact safe_publication accepted present rfl rfl rfl staged
  · obtain ⟨error, refused⟩ := checkRequest_of_not_accepted accepted
    rw [refused, Program.safe_bind, Program.safe_compute,
      Program.bindPost_error]
    exact ⟨⟨fun both => accepted both.1, rfl, rfl, rfl⟩,
      fun isAccepted => absurd isAccepted accepted⟩

/-- A call that runs alone makes record steps and ends as described. -/
theorem safe_ingest (request : IngestRequest) (store : Store) :
    (ingest request).Safe RecordStep (IngestPost request store) store :=
  (safe_ingest_answer request store).mono (fun _ _ step => step)
    fun _ _ answer => answer.1

/-! ## Histories -/

/-- A history of calls leaves records that the engine wrote. -/
theorem recorded_afterCalls (calls : List (Call IngestRequest)) :
    Recorded (afterCalls ingest calls Store.empty) := by
  refine afterCalls_induction (fun call store recorded => ?_) calls
    recorded_empty
  have safe := safe_ingest call.operation store
  cases call with
  | complete request =>
      exact Program.holds_of_reaches Recorded safe.run_reaches
        RecordStep.recorded recorded
  | crashed request writes =>
      exact Program.holds_of_reaches Recorded (safe.crash_reaches writes)
        RecordStep.recorded recorded

/--
The object of an outcome, its descriptor and a receipt under the returned id
are on disk, and the records name the digest of the outcome.
-/
def Complete (outcome : IngestOutcome) (store : Store) : Prop :=
  ∃ hexDigest, outcome.digest = digestOf hexDigest ∧
    objectPath hexDigest ∈ store.objects ∧
    (∃ data sizeBytes ingestReceiptId,
      store.descriptors.lookup (descriptorFile hexDigest) = some data ∧
      Describes data outcome.digest sizeBytes ingestReceiptId) ∧
    ∃ data sizeBytes,
      store.receipts.lookup (recordFile outcome.receiptId) = some data ∧
      Attests data outcome.receiptId outcome.digest sizeBytes

/-- A call that returns leaves a complete publication behind. -/
def Completes (request : IngestRequest) (store : Store) : Prop :=
  ∀ outcome, ((ingest request).run store).1 = .ok outcome →
    Complete outcome ((ingest request).run store).2

/--
The arguments are refused, or the object is not there yet, or its descriptor
is there together with the receipt that the descriptor names.
-/
def Ready (request : IngestRequest) (store : Store) : Prop :=
  ¬ Accepted request ∨ objectPath request.hexDigest ∉ store.objects ∨
    ∃ descriptorData receiptData sizeBytes receiptId,
      store.descriptors.lookup (descriptorFile request.hexDigest) =
        some descriptorData ∧
      Describes descriptorData request.digest sizeBytes
        (some receiptId) ∧
      store.receipts.lookup (recordFile receiptId) = some receiptData ∧
      ∃ receiptSize,
        Attests receiptData receiptId request.digest receiptSize

theorem digestOf_injective : Function.Injective digestOf := by
  intro first second same
  exact List.append_cancel_left same

theorem recordFile_injective : Function.Injective recordFile := by
  intro first second same
  exact List.append_cancel_right same

/-- The descriptor of an object describes it. -/
theorem Recorded.describes
    {store : Store} (recorded : Recorded store) {hexDigest : Text}
    {data : Bytes}
    (found : store.descriptors.lookup (descriptorFile hexDigest) =
      some data) :
    ∃ receiptId sizeBytes,
      Describes data (digestOf hexDigest) sizeBytes (some receiptId) := by
  obtain ⟨other, object, receiptId, isName, -, describes⟩ :=
    recorded.descriptors _ data found
  have same : hexDigest = other :=
    digestOf_injective (recordFile_injective isName)
  rw [same]
  exact ⟨receiptId, _, describes⟩

/-- The receipt id that a readable descriptor carries. -/
theorem storedReceiptId_of_describes
    {store : Store} {hexDigest receiptId digest : Text} {data : Bytes}
    {sizeBytes : Int}
    (found : store.descriptors.lookup (descriptorFile hexDigest) =
      some data)
    (describes : Describes data digest sizeBytes (some receiptId)) :
    store.storedReceiptId hexDigest = receiptId := by
  obtain ⟨descriptor, reads, -, -, isId⟩ := describes
  simp only [Store.storedReceiptId, found, reads, ingestReceiptIdOf, isId,
    optionalText]

theorem complete_of_publishes
    {request : IngestRequest} {outcome : IngestOutcome}
    {before after : Store}
    (published : Publishes request before outcome after)
    (isDigest : outcome.digest = request.digest) :
    Complete outcome after := by
  obtain ⟨descriptorData, descriptors, describes⟩ := published.descriptors
  obtain ⟨receiptData, receipts, attests⟩ := published.receipts
  refine ⟨request.hexDigest, isDigest, ?_,
    ⟨descriptorData, _, _, ?_, isDigest ▸ describes⟩,
    receiptData, _, ?_, isDigest ▸ attests⟩
  · rw [published.objects]
    exact AList.mem_insert _ |>.mpr (.inl rfl)
  · rw [descriptors]
    exact AList.lookup_insert _
  · rw [receipts]
    exact AList.lookup_insert _

/--
On a store that the engine wrote, a call completes exactly when the store is
ready for it.
-/
theorem completes_iff_ready_of_recorded
    {store : Store} (recorded : Recorded store) (request : IngestRequest) :
    Completes request store ↔ Ready request store := by
  have post := (safe_ingest request store).run_post
  rw [Completes]
  generalize (ingest request).run store = ran at post
  obtain ⟨result, final⟩ := ran
  simp only at post ⊢
  cases result with
  | error error =>
      obtain ⟨refused, -⟩ := post
      constructor
      · intro _
        by_cases accepted : Accepted request
        · exact .inr (.inl fun present => refused ⟨accepted, present⟩)
        · exact .inl accepted
      · rintro - outcome ⟨⟩
  | ok outcome =>
      obtain ⟨accepted, isDigest, published | ⟨present, rfl, isId⟩⟩ := post
      · constructor
        · exact fun _ => .inr (.inl published.absent)
        · rintro - _ ⟨rfl⟩
          exact complete_of_publishes published isDigest
      · constructor
        · intro completes
          obtain ⟨hexDigest, isHex, -,
            ⟨descriptorData, _, _, isDescriptor, -⟩, receiptData,
            receiptSize, isReceipt, attests⟩ := completes outcome rfl
          have same : hexDigest = request.hexDigest :=
            digestOf_injective (isHex.symm.trans isDigest)
          subst same
          obtain ⟨receiptId, sizeBytes, describes⟩ :=
            recorded.describes isDescriptor
          have isStored := storedReceiptId_of_describes isDescriptor
            describes
          rw [isId, isStored] at isReceipt attests
          rw [isDigest] at attests
          exact .inr (.inr ⟨descriptorData, receiptData, sizeBytes,
            receiptId, isDescriptor, describes, isReceipt, receiptSize,
            attests⟩)
        · rintro (refused | absent | ⟨descriptorData, receiptData,
            sizeBytes, receiptId, isDescriptor, describes, isReceipt,
            receiptSize, attests⟩) _ ⟨rfl⟩
          · exact absurd accepted refused
          · exact absurd present absent
          · have isStored := storedReceiptId_of_describes isDescriptor
              describes
            rw [isStored] at isId
            refine ⟨request.hexDigest, isDigest, present,
              ⟨descriptorData, _, _, isDescriptor, isDigest ▸ describes⟩,
              receiptData, receiptSize, ?_, ?_⟩
            · rw [isId]
              exact isReceipt
            · rw [isId, isDigest]
              exact attests

/--
In every store that a history of calls reaches from an empty one, a call of
`ingest` that returns leaves the object, its descriptor and the returned
receipt behind exactly when the store is ready for it.
-/
theorem completes_iff_ready
    (calls : List (Call IngestRequest)) (request : IngestRequest) :
    Completes request (afterCalls ingest calls Store.empty) ↔
      Ready request (afterCalls ingest calls Store.empty) :=
  completes_iff_ready_of_recorded (recorded_afterCalls calls) request

/-- An empty byte string with its media type and time. -/
def emptyRequest : IngestRequest where
  sourceBytes := ⟨[], by decide⟩
  mediaType := text "text/plain"
  capacityHook := none
  usedBytes := 0
  createdUtc := some (text "2026-01-01T00:00:00Z")
  nowUtc := text "2026-01-01T00:00:00Z"

theorem accepted_emptyRequest : Accepted emptyRequest where
  fields :=
    { digest_shaped := isObjectId_digestOf_sha256 []
      size_natural := le_refl 0
      size_writable := writable_length ⟨[], by decide⟩
      created_valid := by decide }
  media := by decide

/-- The receipt id of a call that returned. -/
def returnedReceiptId (result : Except PyError IngestOutcome) :
    Option Text :=
  match result with
  | .ok outcome => some outcome.receiptId
  | .error _ => none

/--
After a call that was cut behind its publish, the same call returns with an
empty receipt id and no receipt on disk.
-/
theorem interrupted_publish_reported_complete :
    let store := afterCalls ingest [.crashed emptyRequest 2] Store.empty
    ∃ outcome, ((ingest emptyRequest).run store).1 = .ok outcome ∧
      outcome.receiptId = [] ∧
      ¬ Complete outcome ((ingest emptyRequest).run store).2 := by
  intro store
  obtain ⟨returns, unwritten⟩ :
      returnedReceiptId ((ingest emptyRequest).run store).1 = some [] ∧
        ((ingest emptyRequest).run store).2.receipts.lookup
          (recordFile []) = none := by
    decide +kernel
  cases result : ((ingest emptyRequest).run store).1 with
  | error error =>
      rw [result] at returns
      cases returns
  | ok outcome =>
      rw [result] at returns
      have isEmpty : outcome.receiptId = [] := Option.some.inj returns
      refine ⟨outcome, rfl, isEmpty, ?_⟩
      rintro ⟨_, -, -, -, data, _, isReceipt, -⟩
      rw [isEmpty, unwritten] at isReceipt
      cases isReceipt

end ScientificResourceLab.Cas
