import ScientificResourceLab.Cas.Engine

/-!
# Integrity of the store under crashes and interleaving

Any number of calls of `ingest` and `recover_partials` run on one store, their
file steps interleaved in any order, and any of them may stop for good.  Each
file step is one of five kinds (`FileStep`), and the kinds keep the store
`Sound`: partial files and objects hold what their names say, and a receipt
comes after the descriptor and the object that it names.

A call relies on nothing but that objects and descriptors stay.  That the
shared partial file may be replaced or taken away by another call does not
matter here, since every call stages bytes under their own hash.
-/

namespace ScientificResourceLab.Cas

open Python Contracts Steps
open Steps.Program (observe inspect update compute)

/-! ## Calls -/

/-- The operations on a store. -/
inductive Operation where
  | ingest (request : IngestRequest)
  | recoverPartials

/-- What an operation returns. -/
def Operation.Result : Operation → Type
  | .ingest _ => IngestOutcome
  | .recoverPartials => List PartialEntry

def code : (operation : Operation) → Action operation.Result
  | .ingest request => Cas.ingest request
  | .recoverPartials => Cas.recoverPartials

/-! ## File steps -/

/-- A file step of any operation. -/
inductive FileStep (before : Store) : Store → Prop where
  | stage (data : Bytes) :
      FileStep before (before.stage (sha256 data) data)
  | dropPartial (hexDigest : Text) :
      FileStep before (before.dropPartial hexDigest)
  | publish (hexDigest : Text) :
      FileStep before (before.publish hexDigest)
  | describe (hexDigest : Text) (data : Bytes)
      (published : objectPath hexDigest ∈ before.objects) :
      FileStep before (before.putDescriptor hexDigest data)
  | attest (hexDigest receiptId : Text) (sizeBytes : Int) (data : Bytes)
      (attests : Attests data receiptId (digestOf hexDigest) sizeBytes)
      (published : objectPath hexDigest ∈ before.objects)
      (described : descriptorFile hexDigest ∈ before.descriptors) :
      FileStep before (before.putReceipt receiptId data)

/-- Objects and descriptors stay. -/
def Grows (before after : Store) : Prop :=
  (∀ path ∈ before.objects, path ∈ after.objects) ∧
    ∀ name ∈ before.descriptors, name ∈ after.descriptors

theorem grows_refl (store : Store) : Grows store store :=
  ⟨fun _ member => member, fun _ member => member⟩

theorem grows_trans
    (first second third : Store)
    (former : Grows first second) (latter : Grows second third) :
    Grows first third :=
  ⟨fun path member => latter.1 path (former.1 path member),
    fun name member => latter.2 name (former.2 name member)⟩

theorem publish_objects
    {store : Store} {hexDigest : Text} {path : Text × Text}
    (present : path ∈ store.objects) :
    path ∈ (store.publish hexDigest).objects := by
  rw [Store.publish]
  split
  · exact present
  · exact AList.mem_insert _ |>.mpr (.inr present)

theorem publish_descriptors (store : Store) (hexDigest : Text) :
    (store.publish hexDigest).descriptors = store.descriptors := by
  rw [Store.publish]
  split <;> rfl

theorem publish_receipts (store : Store) (hexDigest : Text) :
    (store.publish hexDigest).receipts = store.receipts := by
  rw [Store.publish]
  split <;> rfl

theorem FileStep.grows
    (before after : Store) (step : FileStep before after) :
    Grows before after := by
  cases step with
  | stage data => exact grows_refl before
  | dropPartial hexDigest => exact grows_refl before
  | publish hexDigest =>
      refine ⟨fun path member => publish_objects member,
        fun name member => ?_⟩
      rw [publish_descriptors]
      exact member
  | describe hexDigest data published =>
      exact ⟨fun path member => member,
        fun name member => AList.mem_insert _ |>.mpr (.inr member)⟩
  | attest hexDigest receiptId sizeBytes data attests published
      described => exact grows_refl before

/-! ## Soundness -/

/-- What holds of every store that the engine leaves behind. -/
structure Sound (store : Store) : Prop where
  partials : ∀ hexDigest data,
    store.incoming.lookup (partialName hexDigest) = some data →
    sha256 data = hexDigest
  objects : ∀ path data, store.objects.lookup path = some data →
    path = objectPath (sha256 data)
  receipts : ∀ name data, store.receipts.lookup name = some data →
    ∃ hexDigest receiptId sizeBytes,
      Attests data receiptId (digestOf hexDigest) sizeBytes ∧
      objectPath hexDigest ∈ store.objects ∧
      descriptorFile hexDigest ∈ store.descriptors

theorem partialName_injective : Function.Injective partialName := by
  intro first second same
  exact List.append_cancel_right (List.append_cancel_left same)

theorem sound_empty : Sound Store.empty where
  partials _ _ found := by cases found
  objects _ _ found := by cases found
  receipts _ _ found := by cases found

/-- Receipts stay sound while objects and descriptors stay. -/
theorem Sound.receipts_of_grows
    {before after : Store} (sound : Sound before)
    (grows : Grows before after) (same : after.receipts = before.receipts) :
    ∀ name data, after.receipts.lookup name = some data →
      ∃ hexDigest receiptId sizeBytes,
        Attests data receiptId (digestOf hexDigest) sizeBytes ∧
        objectPath hexDigest ∈ after.objects ∧
        descriptorFile hexDigest ∈ after.descriptors := by
  intro name data found
  rw [same] at found
  obtain ⟨hexDigest, receiptId, sizeBytes, attests, published,
    described⟩ := sound.receipts name data found
  exact ⟨hexDigest, receiptId, sizeBytes, attests,
    grows.1 _ published, grows.2 _ described⟩

theorem FileStep.sound
    (before after : Store) (step : FileStep before after)
    (sound : Sound before) : Sound after := by
  have grows := FileStep.grows before after step
  cases step with
  | stage data =>
      refine ⟨fun hexDigest staged found => ?_, sound.objects,
        sound.receipts⟩
      rcases Directory.lookup_insert_eq_some.mp found with
        ⟨same, rfl⟩ | ⟨-, kept⟩
      · exact (partialName_injective same).symm
      · exact sound.partials hexDigest staged kept
  | dropPartial hexDigest =>
      refine ⟨fun hexDigest data found => ?_, sound.objects,
        sound.receipts⟩
      exact sound.partials hexDigest data
        (Directory.lookup_erase_eq_some.mp found).2
  | publish hexDigest =>
      have receipts := sound.receipts_of_grows grows
        (publish_receipts before hexDigest)
      cases staged : before.incoming.lookup (partialName hexDigest) with
      | none =>
          have same : before.publish hexDigest = before := by
            rw [Store.publish, staged]
          rw [same]
          exact sound
      | some data =>
          have hash := sound.partials hexDigest data staged
          have moved : before.publish hexDigest =
              { before with
                incoming := before.incoming.erase (partialName hexDigest)
                objects := before.objects.insert (objectPath hexDigest)
                  data } := by
            rw [Store.publish, staged]
          rw [moved] at receipts ⊢
          refine ⟨fun other content found => ?_,
            fun path content found => ?_, receipts⟩
          · exact sound.partials other content
              (Directory.lookup_erase_eq_some.mp found).2
          · rcases Directory.lookup_insert_eq_some.mp found with
              ⟨rfl, rfl⟩ | ⟨-, kept⟩
            · rw [hash]
            · exact sound.objects path content kept
  | describe hexDigest data published =>
      exact ⟨sound.partials, sound.objects,
        sound.receipts_of_grows grows rfl⟩
  | attest hexDigest receiptId sizeBytes data attests published
      described =>
      refine ⟨sound.partials, sound.objects, fun name content found => ?_⟩
      rcases Directory.lookup_insert_eq_some.mp found with
        ⟨-, rfl⟩ | ⟨-, kept⟩
      · exact ⟨hexDigest, receiptId, sizeBytes, attests, published,
          described⟩
      · exact sound.receipts name content kept

/-! ## Every call makes file steps only -/

/-- The deduplicated exits write nothing. -/
theorem readOnly_dedupOutcome (request : IngestRequest) :
    (dedupOutcome request).ReadOnly := by
  refine Program.readOnly_bind ?_ fun descriptor =>
    Program.readOnly_bind (Program.readOnly_compute _) fun _ => trivial
  refine Program.readOnly_bind (fun _ => trivial) fun present => ?_
  split
  · refine Program.readOnly_bind (fun _ => trivial) fun file => ?_
    split
    · trivial
    · split
      · exact Program.readOnly_compute _
      · trivial
  · exact Program.readOnly_compute _

/-- A call of `ingest` among others. -/
abbrev Secured {α : Type} (program : Action α) (store : Store) : Prop :=
  program.Secure Grows FileStep (fun _ _ => True) store

theorem secured_writeDescriptorAndReceipt
    {request : IngestRequest} (accepted : Accepted request) {store : Store}
    (published : objectPath request.hexDigest ∈ store.objects) :
    Secured (writeDescriptorAndReceipt request) store := by
  obtain ⟨outcome, descriptorData, receiptData, isCode, -, -, -,
    attests⟩ := writeDescriptorAndReceipt_eq accepted
  rw [isCode]
  refine Program.secure_update_bind fun first grown =>
    ⟨.describe _ _ (grown.1 _ published), ?_⟩
  refine Program.secure_update_bind fun second more =>
    ⟨.attest _ _ _ _ attests (more.1 _ (grown.1 _ published))
      (more.2 _ (AList.mem_insert _ |>.mpr (.inl rfl))), trivial⟩

theorem publish_published
    {store : Store} {hexDigest : Text}
    (staged : partialName hexDigest ∈ store.incoming) :
    objectPath hexDigest ∈ (store.publish hexDigest).objects := by
  obtain ⟨data, found⟩ := Directory.mem_iff_lookup.mp staged
  rw [Store.publish, found]
  exact AList.mem_insert _ |>.mpr (.inl rfl)

theorem secured_publication
    {request : IngestRequest} (accepted : Accepted request)
    (store : Store) :
    Secured (replacePartial request.hexDigest >>= fun _ =>
      writeDescriptorAndReceipt request) store := by
  refine Program.secure_bind fun later grown =>
    ⟨.publish request.hexDigest, ?_⟩
  by_cases staged : partialName request.hexDigest ∈ later.incoming
  · simp only [if_pos staged]
    exact secured_writeDescriptorAndReceipt accepted
      (publish_published staged)
  · simp only [if_neg staged]
    trivial

theorem secured_ingest (request : IngestRequest) (store : Store) :
    Secured (ingest request) store := by
  refine Program.secure_compute_bind (fun _ checked => ?_) fun _ => trivial
  have accepted := checkRequest_eq_ok.mp checked
  refine Program.secure_observe_bind fun first _ => ?_
  split
  · exact (readOnly_dedupOutcome request).secure first
  · refine Program.secure_compute_bind (fun _ _ => ?_) fun _ => trivial
    refine Program.secure_bind ?_
    refine Program.secure_update_bind fun second _ => ⟨.stage _, ?_⟩
    refine Program.secure_inspect_bind (fun third readback _ _ => ?_)
      fun _ _ _ => trivial
    split
    · exact Program.secure_update_bind fun _ _ => ⟨.dropPartial _, trivial⟩
    · refine Program.secure_observe_bind fun fourth _ => ?_
      split
      · exact Program.secure_update_bind fun fifth _ =>
          ⟨.dropPartial _, (readOnly_dedupOutcome request).secure _⟩
      · exact secured_publication accepted fourth

theorem secured_code (operation : Operation) (store : Store) :
    Secured (code operation) store := by
  cases operation with
  | ingest request => exact secured_ingest request store
  | recoverPartials => exact fun _ _ => trivial

/-! ## A call that raises -/

/-- A write that adds nothing to the store proper. -/
def Incoming (write : Store × Store) : Prop :=
  write.2.objects = write.1.objects ∧
    write.2.descriptors = write.1.descriptors ∧
    write.2.receipts = write.1.receipts

/-- The records are written without an error. -/
theorem runs_writeDescriptorAndReceipt
    {request : IngestRequest} (accepted : Accepted request)
    {writes : List (Store × Store)} {result : Except PyError IngestOutcome}
    (runs : (writeDescriptorAndReceipt request).Runs writes result) :
    ∃ outcome, result = .ok outcome := by
  obtain ⟨outcome, _, _, isCode, -⟩ := writeDescriptorAndReceipt_eq accepted
  rw [isCode] at runs
  obtain ⟨_, _, -, later⟩ := Program.runs_update_bind runs
  obtain ⟨_, _, -, last⟩ := Program.runs_update_bind later
  cases last
  exact ⟨outcome, rfl⟩

/-- Staging and reading back touches `incoming/` only. -/
theorem runs_writePartialAndVerify
    {request : IngestRequest} {writes : List (Store × Store)}
    {result : Except PyError PUnit}
    (runs : (writePartialAndVerify request).Runs writes result) :
    ∀ write ∈ writes, Incoming write := by
  obtain ⟨staged, later, rfl, path⟩ := Program.runs_update_bind runs
  have first : Incoming (staged, staged.stage request.hexDigest
      request.sourceBytes.val) := ⟨rfl, rfl, rfl⟩
  rcases Program.runs_inspect_bind path with ⟨rfl, -⟩ |
    ⟨_, readback, -, path⟩
  · simpa using first
  split at path
  · obtain ⟨dropped, rest, rfl, last⟩ := Program.runs_update_bind path
    cases last
    have second : Incoming (dropped, dropped.dropPartial
        request.hexDigest) := ⟨rfl, rfl, rfl⟩
    simpa using ⟨first, second⟩
  · cases path
    simpa using first

/-- An `os.replace` that raises moves nothing. -/
theorem runs_replacePartial_error
    {hexDigest : Text} {writes : List (Store × Store)} {error : PyError}
    (runs : (replacePartial hexDigest).Runs writes (.error error)) :
    ∀ write ∈ writes, Incoming write := by
  cases runs with
  | @write _ _ store later _ path =>
      by_cases staged : partialName hexDigest ∈ store.incoming
      · simp only [if_pos staged] at path
        cases path
      · simp only [if_neg staged] at path
        cases path
        have absent := AList.lookup_eq_none.mpr staged
        have same : store.publish hexDigest = store := by
          rw [Store.publish, absent]
        simp [Incoming, same]

/-- A raising call only touched `incoming/`. -/
theorem runs_ingest_error
    {request : IngestRequest} {writes : List (Store × Store)}
    {error : PyError}
    (runs : (ingest request).Runs writes (.error error)) :
    ∀ write ∈ writes, Incoming write := by
  rcases Program.runs_compute_bind runs with ⟨_, -, rfl, -⟩ |
    ⟨_, checked, path⟩
  · simp
  have accepted := checkRequest_eq_ok.mp checked
  obtain ⟨_, path⟩ := Program.runs_observe_bind path
  split at path
  · rw [(readOnly_dedupOutcome request).runs path]
    simp
  rcases Program.runs_compute_bind path with ⟨_, -, rfl, -⟩ | ⟨_, -, path⟩
  · simp
  rcases Program.runs_bind path with ⟨_, -, path⟩ |
    ⟨_, first, second, rfl, staging, path⟩
  · exact runs_writePartialAndVerify path
  refine List.forall_mem_append.mpr
    ⟨runs_writePartialAndVerify staging, ?_⟩
  obtain ⟨_, path⟩ := Program.runs_observe_bind path
  split at path
  · obtain ⟨dropped, rest, rfl, last⟩ := Program.runs_update_bind path
    rw [(readOnly_dedupOutcome request).runs last]
    have drop : Incoming (dropped, dropped.dropPartial
        request.hexDigest) := ⟨rfl, rfl, rfl⟩
    simpa using drop
  · rcases Program.runs_bind path with ⟨_, -, path⟩ |
      ⟨_, _, _, rfl, -, path⟩
    · exact runs_replacePartial_error path
    · obtain ⟨_, returned⟩ := runs_writeDescriptorAndReceipt accepted path
      cases returned

theorem runs_code_error
    {operation : Operation} {writes : List (Store × Store)}
    {error : PyError}
    (runs : (code operation).Runs writes (.error error)) :
    ∀ write ∈ writes, Incoming write := by
  cases operation with
  | ingest request => exact runs_ingest_error runs
  | recoverPartials =>
      have readOnly : Cas.recoverPartials.ReadOnly := fun _ => trivial
      rw [readOnly.runs runs]
      simp

/-! ## The store after any interleaving -/

variable {ι : Type} [DecidableEq ι]

/-- The calls of a set of threads. -/
def pool (calls : ι → Operation) :
    Pool Store PyError fun thread => (calls thread).Result :=
  fun thread => code (calls thread)

theorem sound_interleave (calls : ι → Operation) (schedule : List ι) :
    Sound (interleave schedule (pool calls) Store.empty).2 := by
  refine Program.holds_of_reaches Sound ?_ FileStep.sound sound_empty
  exact interleave_reaches grows_refl grows_trans FileStep.grows schedule
    fun thread => secured_code (calls thread) Store.empty

/--
After any schedule of the file steps of any calls on an empty store, the path
of an object encodes its hash, a receipt names an object and a descriptor that
exist, and a call of `ingest` that raised has added no object, descriptor or
receipt.
-/
theorem store_integrity (calls : ι → Operation) (schedule : List ι) :
    let final := interleave schedule (pool calls) Store.empty
    (∀ path data, final.2.objects.lookup path = some data →
      path = objectPath (sha256 data)) ∧
    (∀ name data, final.2.receipts.lookup name = some data →
      ∃ hexDigest receiptId sizeBytes,
        Attests data receiptId (digestOf hexDigest) sizeBytes ∧
        objectPath hexDigest ∈ final.2.objects ∧
        descriptorFile hexDigest ∈ final.2.descriptors) ∧
    ∀ thread error,
      final.1 thread = .raise error →
      ∀ write ∈ writesOf thread schedule (pool calls) Store.empty,
        write.2.objects = write.1.objects ∧
        write.2.descriptors = write.1.descriptors ∧
        write.2.receipts = write.1.receipts := by
  have sound := sound_interleave calls schedule
  refine ⟨sound.objects, sound.receipts, fun thread error raised => ?_⟩
  have ended : ((interleave schedule (pool calls) Store.empty).1
      thread).Runs [] (.error error) := by
    rw [raised]
    exact .raise
  have path := runs_of_interleave thread schedule ended
  rw [List.append_nil] at path
  exact runs_code_error path

end ScientificResourceLab.Cas
