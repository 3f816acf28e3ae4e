import ScientificResourceLab.Cas.Soundness

/-!
# The receipt that an ingest returns

A call that publishes its object returns the receipt that it wrote: the id is
the hash of the receipt without its id, and the file of that name has its
content.  A call that finds its object writes no receipt.  It returns the
receipt id of the descriptor that lies beside the object, in a receipt-shaped
dict with the time of the call in the place of the original one.

`Authentic` is the invariant behind this: a descriptor on disk names the
receipt with its own digest, size and creation time, and a receipt on disk
lies under its own id.
-/

namespace ScientificResourceLab.Cas

open Python Contracts Steps
open Steps.Program (observe inspect update compute)

/--
The id of an outcome is the canonical id of its receipt, and the file of that
name has exactly the content of the receipt.
-/
def SelfConsistent (outcome : IngestOutcome) (store : Store) : Prop :=
  canonicalReceiptId outcome.receipt = .ok outcome.receiptId ∧
    ∃ data,
      store.receipts.lookup (recordFile outcome.receiptId) = some data ∧
      dumps (.obj outcome.receipt) = .ok data

/-! ## Built records -/

theorem canonicalReceiptId_of_built
    {digest createdUtc receiptId : Text} {sizeBytes : Int}
    {receipt : Members}
    (built : buildIngestReceipt digest sizeBytes true true true createdUtc =
      .ok (receipt, receiptId)) :
    canonicalReceiptId
      (receiptMembers digest sizeBytes createdUtc receiptId) =
        .ok receiptId := by
  simp only [buildIngestReceipt, bind_eq_ok_iff, pure_eq_ok_iff,
    Prod.mk.injEq] at built
  obtain ⟨_, -, _, -, _, -, data, dumped, -, isId⟩ := built
  exact canonicalReceiptId_of_perm (List.Perm.refl _) dumped isId

/-- A descriptor names the receipt with its own fields. -/
def NamesReceipt (descriptor : Members) (digest : Text) : Prop :=
  ∃ sizeBytes createdUtc receiptId,
    valueAt descriptor (text "size_bytes") = .int sizeBytes ∧
    valueAt descriptor (text "created_utc") = .str createdUtc ∧
    valueAt descriptor (text "ingest_receipt_id") = .str receiptId ∧
    canonicalReceiptId
      (receiptMembers digest sizeBytes createdUtc receiptId) =
        .ok receiptId

/-- The descriptor of a call is read back with the fields it was given. -/
theorem readDescriptor_written
    {request : IngestRequest} (accepted : Accepted request)
    {receiptId : Text} (shaped : isObjectId receiptId = true)
    {data : Bytes}
    (dumped : dumps (.obj (descriptorMembers request.digest
      request.sizeBytes request.mediaType request.created
      (some receiptId))) = .ok data)
    (isCanonical : canonicalReceiptId (receiptMembers request.digest
      request.sizeBytes request.created receiptId) = .ok receiptId) :
    ∃ descriptor, readDescriptor data = .ok descriptor ∧
      NamesReceipt descriptor request.digest := by
  have sorted := (List.perm_insertionSort KeyLe (descriptorMembers
    request.digest request.sizeBytes request.mediaType request.created
    (some receiptId))).symm
  have value := valueAt_perm sorted objectDescriptorKeys_nodup
  have distinct : ((descriptorMembers request.digest request.sizeBytes
      request.mediaType request.created (some receiptId)).map
        Prod.fst).Nodup :=
    objectDescriptorKeys_nodup
  refine ⟨_, readDescriptor_eq_ok.mpr ⟨readJson_dumps distinct ?_ dumped,
    validateObjectDescriptor_of_fields accepted.fields accepted.media
      (by simpa using shaped) sorted⟩,
    request.sizeBytes, request.created, receiptId, (value _).symm,
    (value _).symm, (value _).symm, isCanonical⟩
  simp only [descriptorMembers, List.forall_mem_cons]
  exact ⟨⟨rfl, trivial⟩, ⟨rfl, trivial⟩, ⟨rfl, trivial⟩,
    ⟨rfl, trivial⟩, ⟨rfl, trivial⟩, flat_optionalText _, by simp⟩

/-- The records that an accepted request writes, in full. -/
theorem writeDescriptorAndReceipt_exact
    {request : IngestRequest} (accepted : Accepted request) :
    ∃ outcome descriptorData receiptData,
      writeDescriptorAndReceipt request = (do
        update fun store =>
          store.putDescriptor request.hexDigest descriptorData
        update fun store => store.putReceipt outcome.receiptId receiptData
        pure outcome) ∧
      outcome.deduplicated = false ∧
      (∃ descriptor, readDescriptor descriptorData = .ok descriptor ∧
        NamesReceipt descriptor request.digest) ∧
      dumps (.obj outcome.receipt) = .ok receiptData ∧
      canonicalReceiptId outcome.receipt = .ok outcome.receiptId := by
  obtain ⟨receiptId, receiptData, builtReceipt, shaped, dumpedReceipt,
    -⟩ := buildIngestReceipt_eq accepted.fields
  obtain ⟨descriptorData, builtDescriptor, dumpedDescriptor, -⟩ :=
    buildObjectDescriptor_eq accepted.fields accepted.media
      (some receiptId) (by simpa using shaped)
  have isCanonical := canonicalReceiptId_of_built builtReceipt
  refine ⟨⟨request.digest, request.sizeBytes,
      descriptorMembers request.digest request.sizeBytes
        request.mediaType request.created (some receiptId),
      receiptMembers request.digest request.sizeBytes request.created
        receiptId, receiptId, false⟩,
    descriptorData, receiptData, ?_, rfl,
    readDescriptor_written accepted shaped dumpedDescriptor isCanonical,
    dumpedReceipt, isCanonical⟩
  rw [writeDescriptorAndReceipt, builtReceipt, Program.compute_ok_bind]
  simp only [builtDescriptor, Program.compute_ok_bind, dumpedDescriptor,
    dumpedReceipt]

/-! ## The records on disk -/

/-- Every record on disk names what it is the record of. -/
structure Authentic (store : Store) : Prop where
  descriptors : ∀ hexDigest data,
    store.descriptors.lookup (descriptorFile hexDigest) = some data →
    ∃ descriptor, readDescriptor data = .ok descriptor ∧
      NamesReceipt descriptor (digestOf hexDigest)
  receipts : ∀ receiptId data,
    store.receipts.lookup (recordFile receiptId) = some data →
    ∃ receipt, dumps (.obj receipt) = .ok data ∧
      canonicalReceiptId receipt = .ok receiptId

theorem authentic_empty : Authentic Store.empty where
  descriptors _ _ found := by cases found
  receipts _ _ found := by cases found

/-- A step that keeps the records authentic. -/
def KeepsAuthentic (before after : Store) : Prop :=
  Authentic before → Authentic after

theorem keepsAuthentic_of_same
    {before after : Store} (descriptors : after.descriptors = before.descriptors)
    (receipts : after.receipts = before.receipts) :
    KeepsAuthentic before after := by
  rintro ⟨ofDescriptors, ofReceipts⟩
  rw [← descriptors] at ofDescriptors
  rw [← receipts] at ofReceipts
  exact ⟨ofDescriptors, ofReceipts⟩

theorem publish_records (store : Store) (hexDigest : Text) :
    (store.publish hexDigest).descriptors = store.descriptors ∧
      (store.publish hexDigest).receipts = store.receipts := by
  rw [Store.publish]
  split <;> exact ⟨rfl, rfl⟩

theorem keepsAuthentic_putDescriptor
    (store : Store) (hexDigest : Text) {data : Bytes}
    (names : ∃ descriptor, readDescriptor data = .ok descriptor ∧
      NamesReceipt descriptor (digestOf hexDigest)) :
    KeepsAuthentic store (store.putDescriptor hexDigest data) := by
  intro authentic
  refine ⟨fun other content found => ?_, authentic.receipts⟩
  rcases Directory.lookup_insert_eq_some.mp found with
    ⟨isName, rfl⟩ | ⟨-, kept⟩
  · rw [digestOf_injective (recordFile_injective isName)]
    exact names
  · exact authentic.descriptors other content kept

theorem keepsAuthentic_putReceipt
    (store : Store) {receiptId : Text} {receipt : Members} {data : Bytes}
    (dumped : dumps (.obj receipt) = .ok data)
    (isCanonical : canonicalReceiptId receipt = .ok receiptId) :
    KeepsAuthentic store (store.putReceipt receiptId data) := by
  intro authentic
  refine ⟨authentic.descriptors, fun other content found => ?_⟩
  rcases Directory.lookup_insert_eq_some.mp found with
    ⟨isName, rfl⟩ | ⟨-, kept⟩
  · rw [recordFile_injective isName]
    exact ⟨receipt, dumped, isCanonical⟩
  · exact authentic.receipts other content kept

/-! ## One call -/

/-- What a call that finds its object returns. -/
structure Echoes (request : IngestRequest) (before : Store)
    (outcome : IngestOutcome) : Prop where
  digest : outcome.digest = request.digest
  receiptId : outcome.receiptId = ingestReceiptIdOf outcome.descriptor
  receipt : syntheticReceipt request outcome.receiptId =
    .ok outcome.receipt
  descriptor : ∀ data descriptor,
    before.descriptors.lookup (descriptorFile request.hexDigest) =
      some data →
    readDescriptor data = .ok descriptor → outcome.descriptor = descriptor

/-- The receipt of the outcome of a call. -/
def ReceiptPost (request : IngestRequest) (before : Store) :
    Except PyError IngestOutcome → Store → Prop
  | .error _, _ => True
  | .ok outcome, after =>
      outcome.deduplicated = false ∧ SelfConsistent outcome after ∨
        outcome.deduplicated = true ∧ after = before ∧
          Echoes request before outcome

theorem run_readDescriptorOrBuild_stored
    {request : IngestRequest} (accepted : Accepted request)
    (store : Store) :
    ∃ descriptor,
      (readDescriptorOrBuild request).run store = (.ok descriptor, store) ∧
      ∀ data stored,
        store.descriptors.lookup (descriptorFile request.hexDigest) =
          some data →
        readDescriptor data = .ok stored → descriptor = stored := by
  obtain ⟨descriptor, ran, -⟩ := run_readDescriptorOrBuild accepted store
  refine ⟨descriptor, ran, fun data stored found reads => ?_⟩
  have present := Directory.mem_of_lookup found
  rw [readDescriptorOrBuild, Program.run_observe_bind] at ran
  simp only [present, decide_true, if_true, Program.run_observe_bind,
    found, Option.elim_some, reads] at ran
  cases ran
  rfl

theorem run_dedupOutcome_echoes
    {request : IngestRequest} (accepted : Accepted request)
    (store : Store) :
    ∃ outcome, (dedupOutcome request).run store = (.ok outcome, store) ∧
      outcome.deduplicated = true ∧ Echoes request store outcome := by
  obtain ⟨descriptor, ran, isStored⟩ :=
    run_readDescriptorOrBuild_stored accepted store
  obtain ⟨receipt, isReceipt⟩ := syntheticReceipt_eq accepted
    (ingestReceiptIdOf descriptor)
  refine ⟨⟨request.digest, request.sizeBytes, descriptor, receipt,
    ingestReceiptIdOf descriptor, true⟩, ?_, rfl, rfl, rfl, isReceipt,
    isStored⟩
  rw [dedupOutcome, Program.run_bind_ok ran]
  simp only [isReceipt, Program.compute_ok_bind]
  rfl

/-- After the publish both records are written and returned. -/
theorem safe_records
    {request : IngestRequest} (accepted : Accepted request)
    (before store : Store) :
    (replacePartial request.hexDigest >>= fun _ =>
      writeDescriptorAndReceipt request).Safe KeepsAuthentic
        (ReceiptPost request before) store := by
  obtain ⟨outcome, descriptorData, receiptData, isCode, isFresh, names,
    dumped, isCanonical⟩ := writeDescriptorAndReceipt_exact accepted
  rw [Program.safe_bind, replacePartial, Program.Safe]
  obtain ⟨descriptors, receipts⟩ :=
    publish_records store request.hexDigest
  refine ⟨keepsAuthentic_of_same descriptors receipts, ?_⟩
  split_ifs
  · rw [Program.Safe, Program.bindPost_ok, isCode]
    exact ⟨keepsAuthentic_putDescriptor _ _ names,
      keepsAuthentic_putReceipt _ dumped isCanonical,
      .inl ⟨isFresh, isCanonical, receiptData, AList.lookup_insert _,
        dumped⟩⟩
  · trivial

/-- A call keeps the records authentic and returns what they say. -/
theorem safe_ingest_receipt (request : IngestRequest) (store : Store) :
    (ingest request).Safe KeepsAuthentic (ReceiptPost request store)
      store := by
  rw [ingest]
  refine Program.safe_compute_bind (fun _ checked => ?_) fun _ => trivial
  have accepted := checkRequest_eq_ok.mp checked
  rw [Program.safe_bind, Program.safe_observe, Program.bindPost_ok]
  by_cases present : store.hasObject request.hexDigest = true
  · obtain ⟨outcome, ran, isDedup, echoes⟩ :=
      run_dedupOutcome_echoes accepted store
    rw [if_pos present]
    refine (readOnly_dedupOutcome request).safe ?_
    rw [ran]
    exact .inr ⟨isDedup, rfl, echoes⟩
  · rw [if_neg present]
    refine Program.safe_compute_bind (fun _ _ => ?_) fun _ => trivial
    have stillAbsent : ¬ (store.stage request.hexDigest
        request.sourceBytes.val).hasObject request.hexDigest = true :=
      present
    rw [Program.safe_bind, writePartialAndVerify, Program.safe_bind,
      Program.safe_update]
    refine ⟨keepsAuthentic_of_same rfl rfl, ?_⟩
    rw [Program.bindPost_ok]
    refine Program.safe_inspect_bind (fun readback _ => ?_)
      fun _ => trivial
    split_ifs
    · exact ⟨keepsAuthentic_of_same rfl rfl, trivial⟩
    · rw [Program.safe_pure, Program.bindPost_ok, Program.safe_bind,
        Program.safe_observe, Program.bindPost_ok, if_neg stillAbsent]
      exact safe_records accepted store _

/-! ## Histories -/

theorem authentic_afterCalls (calls : List (Call IngestRequest)) :
    Authentic (afterCalls ingest calls Store.empty) := by
  refine afterCalls_induction (fun call store authentic => ?_) calls
    authentic_empty
  have safe := safe_ingest_receipt call.operation store
  cases call with
  | complete request =>
      exact Program.holds_of_reaches Authentic safe.run_reaches
        (fun _ _ kept => kept) authentic
  | crashed request writes =>
      exact Program.holds_of_reaches Authentic (safe.crash_reaches writes)
        (fun _ _ kept => kept) authentic

/--
The receipt of a call that found its object and a descriptor beside it: the
returned descriptor is the one on disk, the id is that of the receipt with the
size and the creation time of that descriptor, a receipt under that id has it
for its canonical id, and the returned dict has that id with the size and the
time of the call.
-/
def CarriesForward (request : IngestRequest) (outcome : IngestOutcome)
    (store : Store) : Prop :=
  (∃ data,
    store.descriptors.lookup (descriptorFile request.hexDigest) =
      some data ∧
    readDescriptor data = .ok outcome.descriptor) ∧
  NamesReceipt outcome.descriptor outcome.digest ∧
    valueAt outcome.descriptor (text "ingest_receipt_id") =
      .str outcome.receiptId ∧
    outcome.receipt.Perm (receiptMembers outcome.digest request.sizeBytes
      request.created outcome.receiptId) ∧
    ∀ data,
      store.receipts.lookup (recordFile outcome.receiptId) = some data →
      ∃ receipt, dumps (.obj receipt) = .ok data ∧
        canonicalReceiptId receipt = .ok outcome.receiptId

theorem syntheticReceipt_perm
    {request : IngestRequest} {receiptId : Text} {receipt : Members}
    (named : receiptId ≠ [])
    (built : syntheticReceipt request receiptId = .ok receipt) :
    receipt.Perm (receiptMembers request.digest request.sizeBytes
      request.created receiptId) := by
  rw [syntheticReceipt, if_pos named] at built
  cases built
  refine List.Perm.cons _ ?_
  exact (List.perm_append_singleton _ _).symm

theorem canonicalReceiptId_ne_nil
    {receipt : Members} {receiptId : Text}
    (isCanonical : canonicalReceiptId receipt = .ok receiptId) :
    receiptId ≠ [] := by
  simp only [canonicalReceiptId, bind_eq_ok_iff, pure_eq_ok_iff]
    at isCanonical
  obtain ⟨_, -, data, -, rfl⟩ := isCanonical
  exact isObjectId_ne_nil (isObjectId_sha256 data)

theorem Echoes.carriesForward
    {request : IngestRequest} {store : Store} {outcome : IngestOutcome}
    (authentic : Authentic store) (echoes : Echoes request store outcome)
    {data : Bytes}
    (found : store.descriptors.lookup
      (descriptorFile request.hexDigest) = some data) :
    CarriesForward request outcome store := by
  obtain ⟨descriptor, reads, names⟩ := authentic.descriptors _ data found
  have same := echoes.descriptor data descriptor found reads
  have isDigest : outcome.digest = digestOf request.hexDigest :=
    echoes.digest
  obtain ⟨sizeBytes, createdUtc, receiptId, isSize, isCreated, isId,
    isCanonical⟩ := names
  have carried : outcome.receiptId = receiptId := by
    rw [echoes.receiptId, same, ingestReceiptIdOf, isId]
  have named := canonicalReceiptId_ne_nil isCanonical
  refine ⟨⟨data, found, ?_⟩, ?_, ?_, ?_,
    fun file isFile => authentic.receipts _ file isFile⟩
  · rw [same, reads]
  · rw [same, isDigest]
    exact ⟨sizeBytes, createdUtc, receiptId, isSize, isCreated, isId,
      isCanonical⟩
  · rw [same, carried, isId]
  · rw [echoes.digest]
    exact syntheticReceipt_perm (carried ▸ named) echoes.receipt

/--
In every store that a history of calls reaches from an empty one, an ingest
that publishes its object returns the receipt that it wrote, and an ingest
that finds its object writes nothing and carries the id of the original
receipt forward.
-/
theorem ingest_receipt_identity
    (calls : List (Call IngestRequest)) (request : IngestRequest)
    (outcome : IngestOutcome)
    (returned : ((ingest request).run
      (afterCalls ingest calls Store.empty)).1 = .ok outcome) :
    (outcome.deduplicated = false →
      SelfConsistent outcome ((ingest request).run
        (afterCalls ingest calls Store.empty)).2) ∧
    (outcome.deduplicated = true →
      ((ingest request).run (afterCalls ingest calls Store.empty)).2 =
        afterCalls ingest calls Store.empty ∧
      (descriptorFile request.hexDigest ∈
          (afterCalls ingest calls Store.empty).descriptors →
        CarriesForward request outcome
          (afterCalls ingest calls Store.empty))) := by
  have authentic := authentic_afterCalls calls
  have post := (safe_ingest_receipt request
    (afterCalls ingest calls Store.empty)).run_post
  rw [returned] at post
  rcases post with ⟨isFresh, consistent⟩ | ⟨isDedup, same, echoes⟩
  · refine ⟨fun _ => consistent, fun isDedup => ?_⟩
    rw [isFresh] at isDedup
    cases isDedup
  · refine ⟨fun isFresh => ?_, fun _ => ⟨same, fun present => ?_⟩⟩
    · rw [isDedup] at isFresh
      cases isFresh
    · obtain ⟨data, found⟩ := Directory.mem_iff_lookup.mp present
      exact echoes.carriesForward authentic found

/-- The empty byte string again, a day later. -/
def laterRequest : IngestRequest :=
  { emptyRequest with createdUtc := some (text "2026-01-02T00:00:00Z") }

/-- The store after the empty byte string was ingested. -/
def onceIngested : Store :=
  afterCalls ingest [.complete emptyRequest] Store.empty

/-- A deduplicated outcome with another id than that of its receipt. -/
def misnamed (result : Except PyError IngestOutcome) : Bool :=
  match result with
  | .ok outcome =>
      outcome.deduplicated &&
        (match canonicalReceiptId outcome.receipt with
          | .ok id => outcome.receiptId != id
          | .error _ => false)
  | .error _ => false

theorem misnamed_later :
    misnamed ((ingest laterRequest).run onceIngested).1 = true ∧
      descriptorFile laterRequest.hexDigest ∈ onceIngested.descriptors := by
  decide +kernel

theorem eq_ok_of_misnamed
    {result : Except PyError IngestOutcome}
    (holds : misnamed result = true) :
    ∃ outcome id, result = .ok outcome ∧ outcome.deduplicated = true ∧
      canonicalReceiptId outcome.receipt = .ok id ∧
      outcome.receiptId ≠ id := by
  cases result with
  | error error => cases holds
  | ok outcome =>
      rw [misnamed, Bool.and_eq_true] at holds
      cases recomputed : canonicalReceiptId outcome.receipt with
      | error error =>
          rw [recomputed] at holds
          cases holds.2
      | ok id =>
          simp only [recomputed, bne_iff_ne] at holds
          exact ⟨outcome, id, rfl, holds.1, recomputed, holds.2⟩

/-- The second ingest returns a receipt whose id is not its own hash. -/
theorem carried_receipt_not_self_consistent :
    ∃ outcome, ((ingest laterRequest).run onceIngested).1 = .ok outcome ∧
      outcome.deduplicated = true ∧
      ¬ SelfConsistent outcome
        ((ingest laterRequest).run onceIngested).2 := by
  obtain ⟨outcome, id, result, isDedup, recomputed, differs⟩ :=
    eq_ok_of_misnamed misnamed_later.1
  refine ⟨outcome, result, isDedup, ?_⟩
  rintro ⟨isCanonical, -⟩
  rw [recomputed] at isCanonical
  exact differs (Except.ok.inj isCanonical).symm

/-- The carried id at the empty byte string. -/
theorem ingest_receipt_identity_later :
    ∃ outcome, ((ingest laterRequest).run onceIngested).1 = .ok outcome ∧
      outcome.deduplicated = true ∧
      CarriesForward laterRequest outcome onceIngested := by
  obtain ⟨outcome, _, result, isDedup, -⟩ :=
    eq_ok_of_misnamed misnamed_later.1
  exact ⟨outcome, result, isDedup,
    ((ingest_receipt_identity [.complete emptyRequest] laterRequest
      outcome result).2 isDedup).2 misnamed_later.2⟩

end ScientificResourceLab.Cas
