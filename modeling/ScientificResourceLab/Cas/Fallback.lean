import ScientificResourceLab.Cas.Soundness

/-!
# The local fallback store

`LocalFallbackStore` is a policy over the local store: only fixtures, each of
at most 1 MiB, and all of them together of at most 25 MiB.  The policy reads
the store and then hands the bytes to `ingest`, so a put either is refused
before anything is written, or finds its object and writes nothing, or
publishes it.  `fallbackPut_cases` is this inversion, and the bounds along
every sequence of puts follow from it.

The clock of the machine shows an instant with a canonical timestamp.
-/

namespace ScientificResourceLab.Cas

open Python Contracts Steps
open Steps.Program (observe inspect update compute)

/-- `ObjectClass`. -/
inductive ObjectClass where
  | packImage
  | runReceipt
  | dataset
  | sourceBlob
  | fixture
  | pilotRun
  | catalogSbom
  | quarantine
  deriving DecidableEq, Repr

/-- `ObjectClass.value`. -/
def ObjectClass.value : ObjectClass → Text
  | .packImage => text "pack_image"
  | .runReceipt => text "run_receipt"
  | .dataset => text "dataset"
  | .sourceBlob => text "source_blob"
  | .fixture => text "fixture"
  | .pilotRun => text "pilot_run"
  | .catalogSbom => text "catalog_sbom"
  | .quarantine => text "quarantine"

/-- `ObjectClass.t7_bound`. -/
def ObjectClass.t7Bound (objectClass : ObjectClass) : Bool :=
  objectClass ≠ .fixture

/-- What `_now_utc_seconds` returns. -/
abbrev Instant :=
  { value : Text // validateTimestamp value = .ok value }

/-! ## The local store -/

/-- `ArtifactDescriptor`, without the redacted root. -/
structure ArtifactDescriptor where
  schemaVersion : Text
  digest : Text
  sizeBytes : Int

/-- `LocalArtifactStore.has`. -/
def has (digest : Text) : Action Bool := do
  compute (refuseIf (isObjectId digest = false) ⟨.storeError,
    text "digest argument must match '^sha256:[0-9a-f]\x7b64\x7d$', got " ++
      quoted digest⟩)
  observe fun store => decide (storePath digest ∈ store.objects)

/-- `LocalArtifactStore.ingest_bytes`. -/
def ingestBytes (request : IngestRequest) : Action IngestOutcome :=
  tryCatch (ingest request) fun error =>
    if error.kind = .quotaExceededError ∨
        error.kind = .casIntegrityError then
      throw error
    else if error.kind.isContractError then
      throw ⟨.storeError, error.message⟩
    else throw error

/-- The request that `LocalArtifactStore.put` makes. -/
def putRequest (data : SourceBytes) (now : Instant) : IngestRequest where
  sourceBytes := data
  mediaType := text "application/octet-stream"
  capacityHook := none
  usedBytes := 0
  createdUtc := none
  nowUtc := now.val

/-- `LocalArtifactStore.put`. -/
def put (data : SourceBytes) (now : Instant) :
    Action ArtifactDescriptor := do
  let outcome ← ingestBytes (putRequest data now)
  pure ⟨text "ArtifactDescriptor/v1", outcome.digest,
    outcome.sizeBytes⟩

/-! ## The policy -/

/-- `_FALLBACK_SINGLE_OBJECT_MAX_BYTES`. -/
def fallbackSingleObjectMaxBytes : Nat :=
  1024 * 1024

/-- `_FALLBACK_TOTAL_MAX_BYTES`. -/
def fallbackTotalMaxBytes : Nat :=
  25 * 1024 * 1024

/-- `_current_usage_bytes`. -/
def Store.currentUsageBytes (store : Store) : Nat :=
  (store.objects.entries.map fun entry => entry.2.length).sum

/-- The arguments of a put, and the time at which it is called. -/
structure FallbackRequest where
  data : SourceBytes
  objectClass : ObjectClass
  now : Instant

namespace FallbackRequest

variable (request : FallbackRequest)

/-- `len(data)`. -/
def size : Nat :=
  request.data.val.length

def path : Text × Text :=
  objectPath (sha256 request.data.val)

end FallbackRequest

/-- The refusal of a class that belongs on the T7 volume. -/
def classRefusal (objectClass : ObjectClass) : PyError :=
  ⟨.storeWaitError,
    text "LocalFallbackStore refuses T7-bound object class " ++
      quoted objectClass.value ++
      text "; WAIT_STORAGE for the T7 volume"⟩

/-- The refusal of an object that is not tiny. -/
def sizeRefusal (size : Nat) : PyError :=
  ⟨.storeWaitError,
    text "LocalFallbackStore refuses object of " ++ decimalText size ++
      text " bytes (single-object limit " ++
      decimalText fallbackSingleObjectMaxBytes ++
      text " bytes); WAIT_STORAGE"⟩

/-- The refusal of an object for which there is no room. -/
def totalRefusal (size usage : Nat) : PyError :=
  ⟨.storeWaitError,
    text "LocalFallbackStore refuses object of " ++ decimalText size ++
      text " bytes: aggregate " ++ decimalText (usage + size) ++
      text " bytes would exceed total limit " ++
      decimalText fallbackTotalMaxBytes ++ text " bytes; WAIT_STORAGE"⟩

/-- The checks of a put on the room that is left. -/
def checkTotal (request : FallbackRequest) : Action PUnit := do
  let present ← has (digestOf (sha256 request.data.val))
  if present then pure ⟨⟩
  else
    let usage ← observe Store.currentUsageBytes
    if fallbackTotalMaxBytes < usage + request.size then
      throw (totalRefusal request.size usage)
    else pure ⟨⟩

/-- `LocalFallbackStore.put`. -/
def fallbackPut (request : FallbackRequest) :
    Action ArtifactDescriptor := do
  if request.objectClass.t7Bound then
    throw (classRefusal request.objectClass)
  else if fallbackSingleObjectMaxBytes < request.size then
    throw (sizeRefusal request.size)
  else
    checkTotal request
    put request.data request.now

/-! ## One put -/

theorem storePath_digestOf (hexDigest : Text) :
    storePath (digestOf hexDigest) = objectPath hexDigest := by
  rw [storePath, digestOf, List.drop_left]
  rfl

theorem run_has (data : Bytes) (store : Store) :
    (has (digestOf (sha256 data))).run store =
      (.ok (decide (objectPath (sha256 data) ∈ store.objects)), store) := by
  have shaped := isObjectId_digestOf_sha256 data
  rw [has, storePath_digestOf, shaped]
  rfl

theorem accepted_putRequest (data : SourceBytes) (now : Instant) :
    Accepted (putRequest data now) := by
  refine ⟨⟨isObjectId_digestOf_sha256 _, Int.natCast_nonneg _,
    writable_length data, now.property⟩, ?_⟩
  change validateMediaType _ (.str (text "application/octet-stream")) =
    .ok (text "application/octet-stream")
  decide

/-- A put on the local store finds its object or publishes it. -/
theorem run_put (data : SourceBytes) (now : Instant) (store : Store) :
    ∃ descriptor after,
      (put data now).run store = (.ok descriptor, after) ∧
      (objectPath (sha256 data.val) ∈ store.objects ∧ after = store ∨
        objectPath (sha256 data.val) ∉ store.objects ∧
        after.objects = store.objects.insert
          (objectPath (sha256 data.val)) data.val) := by
  have answer := (safe_ingest_answer (putRequest data now) store).run_post
  cases ran : (ingest (putRequest data now)).run store with
  | mk result after =>
      rw [ran] at answer
      obtain ⟨outcome, rfl⟩ :=
        answer.2 (accepted_putRequest data now) rfl
      obtain ⟨-, -, exits⟩ := answer.1
      have caught : (ingestBytes (putRequest data now)).run store =
          (.ok outcome, after) :=
        Program.run_tryCatch_ok _ ran
      refine ⟨_, after, Program.run_bind_ok caught, ?_⟩
      rcases exits with published | ⟨present, same, -⟩
      · exact .inr ⟨published.absent, published.objects⟩
      · exact .inl ⟨present, same⟩

/-- The room is there, or the store is left as it is. -/
theorem run_checkTotal (request : FallbackRequest) (store : Store) :
    (checkTotal request).run store =
      (if request.path ∉ store.objects ∧
          fallbackTotalMaxBytes < store.currentUsageBytes + request.size
        then .error (totalRefusal request.size store.currentUsageBytes)
        else .ok ⟨⟩, store) := by
  rw [checkTotal, Program.run_bind_ok (run_has request.data.val store),
    FallbackRequest.path]
  by_cases present : objectPath (sha256 request.data.val) ∈ store.objects
  · simp only [present, decide_true, if_true, not_true, false_and, if_false]
    rfl
  · simp only [present, decide_false, not_false_eq_true, true_and]
    rw [if_neg (by simp), Program.run_observe_bind]
    split_ifs <;> rfl

/-- What a put can do. -/
inductive FallbackPost (request : FallbackRequest) (before : Store) :
    Except PyError ArtifactDescriptor → Store → Prop where
  | refused (error : PyError)
      (reason : request.objectClass ≠ .fixture ∨
        fallbackSingleObjectMaxBytes < request.size ∨
        request.path ∉ before.objects ∧
          fallbackTotalMaxBytes <
            before.currentUsageBytes + request.size) :
      FallbackPost request before (.error error) before
  | found (descriptor : ArtifactDescriptor)
      (present : request.path ∈ before.objects) :
      FallbackPost request before (.ok descriptor) before
  | published (descriptor : ArtifactDescriptor) (after : Store)
      (isFixture : request.objectClass = .fixture)
      (tiny : request.size ≤ fallbackSingleObjectMaxBytes)
      (absent : request.path ∉ before.objects)
      (room : before.currentUsageBytes + request.size ≤
        fallbackTotalMaxBytes)
      (objects : after.objects =
        before.objects.insert request.path request.data.val) :
      FallbackPost request before (.ok descriptor) after

theorem fallbackPut_cases (request : FallbackRequest) (store : Store) :
    FallbackPost request store ((fallbackPut request).run store).1
      ((fallbackPut request).run store).2 := by
  rw [fallbackPut]
  split_ifs with bound large
  · exact .refused _ (.inl (by simpa [ObjectClass.t7Bound] using bound))
  · exact .refused _ (.inr (.inl large))
  · have isFixture : request.objectClass = .fixture := by
      simpa [ObjectClass.t7Bound] using bound
    have checked := run_checkTotal request store
    split_ifs at checked with full
    · rw [Program.run_bind_error checked]
      exact .refused _ (.inr (.inr full))
    · rw [Program.run_bind_ok checked]
      obtain ⟨descriptor, after, ran, exits⟩ :=
        run_put request.data request.now store
      rw [ran]
      rcases exits with ⟨present, rfl⟩ | ⟨absent, objects⟩
      · exact .found descriptor present
      · refine .published descriptor after isFixture
          (Nat.le_of_not_lt large) absent ?_ objects
        exact Nat.le_of_not_lt fun above => full ⟨absent, above⟩

/-! ## Sequences of puts -/

/-- The bounds of the policy. -/
structure WithinPolicy (requests : List FallbackRequest) (store : Store) :
    Prop where
  single : ∀ path data, store.objects.lookup path = some data →
    data.length ≤ fallbackSingleObjectMaxBytes
  total : store.currentUsageBytes ≤ fallbackTotalMaxBytes
  hashes : ∀ path data, store.objects.lookup path = some data →
    path = objectPath (sha256 data)
  fixtures : ∀ path data, store.objects.lookup path = some data →
    ∃ request ∈ requests,
      request.data.val = data ∧ request.objectClass = .fixture

theorem withinPolicy_empty : WithinPolicy [] Store.empty where
  single _ _ found := by cases found
  total := Nat.zero_le _
  hashes _ _ found := by cases found
  fixtures _ _ found := by cases found

theorem WithinPolicy.later
    {requests : List FallbackRequest} {store : Store}
    (within : WithinPolicy requests store) (request : FallbackRequest) :
    WithinPolicy (requests ++ [request]) store where
  single := within.single
  total := within.total
  hashes := within.hashes
  fixtures path data found := by
    obtain ⟨source, isSource, facts⟩ := within.fixtures path data found
    exact ⟨source, List.mem_append_left _ isSource, facts⟩

/-- A new object adds its size to the usage. -/
theorem currentUsageBytes_insert
    {before after : Store} {path : Text × Text} {data : Bytes}
    (absent : path ∉ before.objects)
    (objects : after.objects = before.objects.insert path data) :
    after.currentUsageBytes = before.currentUsageBytes + data.length := by
  rw [Store.currentUsageBytes, objects,
    AList.entries_insert_of_notMem absent, List.map_cons, List.sum_cons,
    Store.currentUsageBytes, Nat.add_comm]

/-- One put keeps the bounds. -/
theorem WithinPolicy.put
    {requests : List FallbackRequest} {store : Store}
    (within : WithinPolicy requests store) (request : FallbackRequest) :
    WithinPolicy (requests ++ [request])
      ((fallbackPut request).run store).2 := by
  have outcome := fallbackPut_cases request store
  generalize (fallbackPut request).run store = ran at outcome ⊢
  obtain ⟨result, after⟩ := ran
  cases outcome with
  | refused error reason => exact within.later request
  | found descriptor present => exact within.later request
  | published descriptor _ isFixture tiny absent room objects =>
      refine ⟨fun path data found => ?_, ?_, fun path data found => ?_,
        fun path data found => ?_⟩
      · rw [objects] at found
        rcases Directory.lookup_insert_eq_some.mp found with
          ⟨-, rfl⟩ | ⟨-, kept⟩
        · exact tiny
        · exact within.single path data kept
      · rw [currentUsageBytes_insert absent objects]
        exact room
      · rw [objects] at found
        rcases Directory.lookup_insert_eq_some.mp found with
          ⟨rfl, rfl⟩ | ⟨-, kept⟩
        · rfl
        · exact within.hashes path data kept
      · rw [objects] at found
        rcases Directory.lookup_insert_eq_some.mp found with
          ⟨-, rfl⟩ | ⟨-, kept⟩
        · exact ⟨request, by simp, rfl, isFixture⟩
        · exact (within.later request).fixtures path data kept

/-- The store after a sequence of puts on an empty one. -/
def afterPuts (requests : List FallbackRequest) : Store :=
  afterCalls fallbackPut (requests.map .complete) Store.empty

theorem afterPuts_append
    (requests : List FallbackRequest) (request : FallbackRequest) :
    afterPuts (requests ++ [request]) =
      ((fallbackPut request).run (afterPuts requests)).2 := by
  rw [afterPuts, List.map_append, afterCalls_append]
  rfl

theorem withinPolicy_afterPuts (requests : List FallbackRequest) :
    WithinPolicy requests (afterPuts requests) := by
  induction requests using List.reverseRecOn with
  | nil => exact withinPolicy_empty
  | append_singleton requests request induction =>
      rw [afterPuts_append]
      exact induction.put request

/--
The object of a put is there.  An object is its bytes with their class, and
no object of another class is ever there.
-/
def Present (request : FallbackRequest) (store : Store) : Prop :=
  request.objectClass = .fixture ∧
    store.objects.lookup request.path = some request.data.val

/-- A put of an object that is there returns and changes nothing. -/
theorem run_fallbackPut_of_present
    {requests : List FallbackRequest} {store : Store}
    (within : WithinPolicy requests store) {request : FallbackRequest}
    (present : Present request store) :
    ∃ descriptor,
      (fallbackPut request).run store = (.ok descriptor, store) := by
  obtain ⟨isFixture, found⟩ := present
  have member := Directory.mem_of_lookup found
  have outcome := fallbackPut_cases request store
  cases ran : (fallbackPut request).run store with
  | mk result after =>
      rw [ran] at outcome
      cases outcome with
      | refused error reason =>
          rcases reason with other | large | ⟨absent, -⟩
          · exact absurd isFixture other
          · exact absurd (within.single _ _ found) (Nat.not_le.mpr large)
          · exact absurd member absent
      | found descriptor _ => exact ⟨descriptor, rfl⟩
      | published descriptor _ _ _ absent _ _ => exact absurd member absent

/--
After every sequence of puts the bounds of the policy hold; a put that is
refused leaves the store as it is, and so does a put of an object that is
there, which returns.
-/
theorem fallback_store_bounds (requests : List FallbackRequest) :
    WithinPolicy requests (afterPuts requests) ∧
    ∀ request : FallbackRequest,
      (∀ error,
        ((fallbackPut request).run (afterPuts requests)).1 =
          .error error →
        ((fallbackPut request).run (afterPuts requests)).2 =
          afterPuts requests) ∧
      (Present request (afterPuts requests) →
        ∃ descriptor,
          (fallbackPut request).run (afterPuts requests) =
            (.ok descriptor, afterPuts requests)) := by
  have within := withinPolicy_afterPuts requests
  refine ⟨within, fun request => ⟨fun error raised => ?_,
    fun present => run_fallbackPut_of_present within present⟩⟩
  have outcome := fallbackPut_cases request (afterPuts requests)
  rw [raised] at outcome
  generalize ((fallbackPut request).run (afterPuts requests)).2 = after
    at outcome ⊢
  cases outcome with
  | refused _ _ => rfl

end ScientificResourceLab.Cas
