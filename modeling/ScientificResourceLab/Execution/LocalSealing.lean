import ScientificResourceLab.Cas.Fallback
import ScientificResourceLab.Execution.Sealer

/-!
# Sealing into the local store

`seal_run` over the transaction engine of the store and a receipt directory.
An ingest may be stopped after any number of its writes, and the receipt file
may be refused; one file is written in one step.  A call that raises adds no
receipt, and one that returns has written a receipt all of whose references
are objects of the store (`sealRun_closed`).
-/

namespace ScientificResourceLab.Execution

open Python Contracts Steps

/-! ## The surroundings of the sealer -/

/-- The store, and the files of the receipt directory. -/
structure SealState where
  store : Cas.Store
  receipts : Directory Text Bytes

/-- What a call of the sealer meets: the clock, the redacted root, and where
an ingest or the receipt file is refused. -/
structure Surroundings where
  nowUtc : Bytes → Text → Text
  storeRootRedacted : Text
  engineCreatedUtc : Text
  runCreatedUtc : Text
  ingestFault : Bytes → Text → Option (Nat × PyError)
  receiptFault : Option PyError

/-- Code that reads and writes both, and may raise. -/
abbrev Sealing := ExceptT PyError (StateM SealState)

/-- The answer of a call, and the state that it leaves. -/
def Sealing.perform {α : Type} (call : Sealing α) (state : SealState) :
    Except PyError α × SealState :=
  call.run state

namespace Surroundings

variable (around : Surroundings)

/-- The request that `ingest_bytes` makes of the engine. -/
def request (data : Cas.SourceBytes) (mediaType : Text) :
    Cas.IngestRequest where
  sourceBytes := data
  mediaType := mediaType
  capacityHook := none
  usedBytes := 0
  createdUtc := none
  nowUtc := around.nowUtc data.val mediaType

/-- An ingest, which a fault stops after some of its writes. -/
def ingestSource (data : Cas.SourceBytes) (mediaType : Text) :
    Sealing Text :=
  ExceptT.mk fun state =>
    let call := Cas.ingestBytes (around.request data mediaType)
    match around.ingestFault data.val mediaType with
    | some (count, error) =>
        (.error error, { state with store := call.crash count state.store })
    | none =>
        let ended := call.run state.store
        (ended.1.map Cas.IngestOutcome.digest,
          { state with store := ended.2 })

/--
`store.ingest_bytes(data, media_type).digest`; no byte string is longer than
a machine word counts.
-/
def ingestBytes (data : Bytes) (mediaType : Text) : Sealing Text :=
  if small : data.length < 2 ^ 63 then
    around.ingestSource ⟨data, small⟩ mediaType
  else throw (raised .overflowError "byte string is too long")

/-- The name of a receipt file. -/
def receiptFile (receiptId : Text) : Text :=
  receiptId ++ text ".json"

/-- `receipt_file.write_bytes(data)`. -/
def writeReceipt (receiptId : Text) (data : Bytes) : Sealing Unit :=
  ExceptT.mk fun state =>
    match around.receiptFault with
    | some error => (.error error, state)
    | none =>
        (.ok (), { state with
          receipts := state.receipts.insert (receiptFile receiptId) data })

/-- The sealer over the store and the receipt directory. -/
def ops : SealingOps Sealing where
  ingestBytes := around.ingestBytes
  storeRootRedacted := around.storeRootRedacted
  engineCreatedUtc := around.engineCreatedUtc
  runCreatedUtc := around.runCreatedUtc
  writeReceipt := around.writeReceipt

end Surroundings

/-! ## Calls one after the other -/

namespace Sealing

variable {α β : Type} {call : Sealing α} {rest : α → Sealing β}
    {before after : SealState}

@[simp]
theorem perform_pure (value : α) (state : SealState) :
    perform (pure value) state = (.ok value, state) :=
  rfl

@[simp]
theorem perform_throw (error : PyError) (state : SealState) :
    perform (throw error : Sealing α) state = (.error error, state) :=
  rfl

@[simp]
theorem perform_ofExcept (result : Except PyError α) (state : SealState) :
    perform (MonadExcept.ofExcept result) state = (result, state) := by
  cases result <;> rfl

theorem perform_bind (call : Sealing α) (rest : α → Sealing β)
    (state : SealState) :
    perform (call >>= rest) state =
      match call.perform state with
      | (.ok value, later) => (rest value).perform later
      | (.error error, later) => (.error error, later) := by
  have split : perform (call >>= rest) state =
      match call.perform state with
      | (answer, later) =>
          (ExceptT.bindCont rest answer : StateM SealState _) later :=
    rfl
  rw [split]
  rcases call.perform state with ⟨error | value, later⟩ <;> rfl

/-- A sequence returns when both of its parts do. -/
theorem perform_bind_eq_ok {result : β} :
    perform (call >>= rest) before = (.ok result, after) ↔
      ∃ value middle, call.perform before = (.ok value, middle) ∧
        (rest value).perform middle = (.ok result, after) := by
  rw [perform_bind]
  rcases ended : call.perform before with ⟨answer, later⟩
  cases answer with
  | error error => simp
  | ok value =>
      constructor
      · intro returned
        exact ⟨value, later, rfl, returned⟩
      · rintro ⟨_, _, same, returned⟩
        cases same
        exact returned

/-- A sequence raises where one of its parts does. -/
theorem perform_bind_eq_error {error : PyError} :
    perform (call >>= rest) before = (.error error, after) ↔
      call.perform before = (.error error, after) ∨
      ∃ value middle, call.perform before = (.ok value, middle) ∧
        (rest value).perform middle = (.error error, after) := by
  rw [perform_bind]
  rcases ended : call.perform before with ⟨answer, later⟩
  cases answer with
  | error other => simp
  | ok value =>
      constructor
      · intro raises
        exact .inr ⟨value, later, rfl, raises⟩
      · rintro (never | ⟨_, _, same, raises⟩)
        · cases never
        · cases same
          exact raises

/-- A property that both parts keep is kept by their sequence. -/
theorem kept_bind (property : SealState → Prop)
    (first : property (call.perform before).2)
    (second : ∀ value middle, property middle →
      property ((rest value).perform middle).2) :
    property (perform (call >>= rest) before).2 := by
  rw [perform_bind]
  rcases ended : call.perform before with ⟨answer, later⟩
  rw [ended] at first
  cases answer with
  | error error => exact first
  | ok value => exact second value later first

end Sealing

/-! ## What the surroundings answer -/

/-- What an ingest that returned has done. -/
structure Ingested (data : Bytes) (id : Text) (before after : SealState) :
    Prop where
  isId : id = objectIdPrefix ++ sha256 data
  present : Cas.storePath id ∈ after.store.objects
  kept : ∀ path held, before.store.objects.lookup path = some held →
    after.store.objects.lookup path = some held
  added : ∀ path held, after.store.objects.lookup path = some held →
    before.store.objects.lookup path = some held ∨
      path = Cas.storePath id ∧ held = data
  receipts : after.receipts = before.receipts

/-- The store looks for an object where the engine put it. -/
theorem storePath_digest (data : Bytes) :
    Cas.storePath (objectIdPrefix ++ sha256 data) =
      Cas.objectPath (sha256 data) := by
  rw [Cas.storePath, List.drop_left]
  rfl

theorem run_ingestBytes_ok
    {request : Cas.IngestRequest} {before after : Cas.Store}
    {outcome : Cas.IngestOutcome}
    (returned :
      (Cas.ingestBytes request).run before = (.ok outcome, after)) :
    (Cas.ingest request).run before = (.ok outcome, after) := by
  rcases ran : (Cas.ingest request).run before with ⟨answer, later⟩
  cases answer with
  | ok value =>
      rw [Cas.ingestBytes, Program.run_tryCatch_ok _ ran] at returned
      exact returned
  | error error =>
      rw [Cas.ingestBytes, Program.run_tryCatch_error _ ran] at returned
      split_ifs at returned <;> cases returned

/-- A call of the engine that returned. -/
theorem ingested_of_run
    {request : Cas.IngestRequest} {before : SealState} {after : Cas.Store}
    {outcome : Cas.IngestOutcome}
    (returned : (Cas.ingest request).run before.store =
      (.ok outcome, after)) :
    Ingested request.sourceBytes.val outcome.digest before
      { before with store := after } := by
  have post := (Cas.safe_ingest request before.store).run_post
  rw [returned] at post
  rcases post with ⟨_, isDigest, published⟩
  have isId : outcome.digest =
      objectIdPrefix ++ sha256 request.sourceBytes.val := isDigest
  have isPath : Cas.storePath outcome.digest =
      Cas.objectPath request.hexDigest := by
    rw [isId, storePath_digest]
    rfl
  rcases published with publishes | ⟨present, rfl, _⟩
  · have found : ∀ path held, after.objects.lookup path = some held ↔
        path = Cas.objectPath request.hexDigest ∧
            held = request.sourceBytes.val ∨
          path ≠ Cas.objectPath request.hexDigest ∧
            before.store.objects.lookup path = some held := by
      intro path held
      rw [publishes.objects, Directory.lookup_insert_eq_some]
    refine ⟨isId, ?_, fun path held isHeld => ?_, fun path held isHeld => ?_,
      rfl⟩
    · rw [isPath]
      exact Directory.mem_of_lookup ((found _ _).mpr (.inl ⟨rfl, rfl⟩))
    · refine (found path held).mpr (.inr ⟨?_, isHeld⟩)
      rintro rfl
      exact publishes.absent (Directory.mem_of_lookup isHeld)
    · rcases (found path held).mp isHeld with
        ⟨atPath, isData⟩ | ⟨_, old⟩
      · exact .inr ⟨atPath.trans isPath.symm, isData⟩
      · exact .inl old
  · refine ⟨isId, ?_, fun _ _ isHeld => isHeld, fun _ _ isHeld =>
      .inl isHeld, rfl⟩
    rw [isPath]
    exact present

namespace Surroundings

variable {around : Surroundings} {before after : SealState}

theorem ingestBytes_receipts
    {data : Bytes} {mediaType : Text} {answer : Except PyError Text}
    (ended : (around.ingestBytes data mediaType).perform before =
      (answer, after)) :
    after.receipts = before.receipts := by
  have reached : ((around.ingestBytes data mediaType).perform before).2 =
      after := congrArg Prod.snd ended
  rw [← reached, ingestBytes]
  split_ifs with small
  · cases fault : around.ingestFault data mediaType with
    | some refused =>
        simp [ingestSource, Sealing.perform, fault]
    | none =>
        simp [ingestSource, Sealing.perform, fault]
  · rfl

theorem ingested_of_eq_ok
    {data : Bytes} {mediaType id : Text}
    (returned : (around.ingestBytes data mediaType).perform before =
      (.ok id, after)) :
    Ingested data id before after := by
  rw [ingestBytes] at returned
  split_ifs at returned with small
  · cases fault : around.ingestFault data mediaType with
    | some refused =>
        simp [ingestSource, Sealing.perform, fault] at returned
    | none =>
        rcases ran : (Cas.ingestBytes
          (around.request ⟨data, small⟩ mediaType)).run before.store with
          ⟨answer, later⟩
        cases answer with
        | error error =>
            simp [ingestSource, Sealing.perform, fault, ran, Except.map]
              at returned
        | ok outcome =>
            simp [ingestSource, Sealing.perform, fault, ran, Except.map]
              at returned
            rcases returned with ⟨rfl, rfl⟩
            exact ingested_of_run (run_ingestBytes_ok ran)
  · cases returned

theorem writeReceipt_eq_ok
    {receiptId : Text} {data : Bytes} {answer : Unit}
    (returned : (around.writeReceipt receiptId data).perform before =
      (.ok answer, after)) :
    after = { before with
      receipts := before.receipts.insert (receiptFile receiptId) data } := by
  cases fault : around.receiptFault with
  | some error =>
      simp [writeReceipt, Sealing.perform, fault] at returned
  | none =>
      simp [writeReceipt, Sealing.perform, fault] at returned
      exact returned.symm

/-- A receipt file that is refused is not written. -/
theorem writeReceipt_error
    {receiptId : Text} {data : Bytes} {error : PyError}
    (raises : (around.writeReceipt receiptId data).perform before =
      (.error error, after)) :
    after = before := by
  cases fault : around.receiptFault with
  | some error =>
      simp [writeReceipt, Sealing.perform, fault] at raises
      exact raises.2.symm
  | none =>
      simp [writeReceipt, Sealing.perform, fault] at raises

end Surroundings

/-! ## Sealed runs -/

section

variable {around : Surroundings}
variable {outputValidator : Option (Json → Except PyError Unit)}
variable {staged : StagedRun} {outcome : RunOutcome}

/-- A receipt whose id is the hash of its other members. -/
structure SelfHashed (body : List (Text × Json)) (receiptId : Text)
    (data : Bytes) : Prop where
  noId : Json.lookup (text "receipt_id") body = none
  isId : ∃ seed, dumps (.obj body) = .ok seed ∧
    receiptId = objectIdPrefix ++ sha256 seed
  isData :
    dumps (.obj (body ++ [(text "receipt_id", .str receiptId)])) = .ok data

theorem selfHashed_of_published
    {body : List (Text × Json)} {published : Text × Bytes}
    (noId : ∀ member ∈ body, member.1 ≠ text "receipt_id")
    (encodes : publishedReceipt body = .ok published) :
    SelfHashed body published.1 published.2 := by
  have whole : (body.filter fun member => member.1 ≠ text "receipt_id") =
      body :=
    List.filter_eq_self.mpr fun member isMember =>
      decide_eq_true (noId member isMember)
  rw [publishedReceipt, computeReceiptId, whole] at encodes
  simp only [bind_eq_ok_iff, pure_eq_ok_iff] at encodes
  rcases encodes with ⟨_, ⟨seed, hashed, rfl⟩, data, encoded, rfl⟩
  refine ⟨Json.lookup_of_not_mem fun isKey => ?_, ⟨seed, hashed, rfl⟩,
    encoded⟩
  rcases List.mem_map.mp isKey with ⟨member, isMember, isName⟩
  exact noId member isMember isName

theorem engineReceiptBody_noId
    (outputObjectId : Option Text) (createdUtc : Text) :
    ∀ member ∈ engineReceiptBody staged outcome outputObjectId createdUtc,
      member.1 ≠ text "receipt_id" := by
  simp only [engineReceiptBody, List.forall_mem_cons, List.not_mem_nil,
    false_imp_iff, implies_true, and_true]
  decide

theorem runReceiptBody_noId
    (outputObjectId : Option Text)
    (engineReceiptId engineReceiptObjectId redacted createdUtc : Text) :
    ∀ member ∈ runReceiptBody staged outputObjectId engineReceiptId
        engineReceiptObjectId redacted createdUtc,
      member.1 ≠ text "receipt_id" := by
  simp only [runReceiptBody, List.forall_mem_cons, List.not_mem_nil,
    false_imp_iff, implies_true, and_true]
  decide

/-- The output that is stored: the one that a validator accepted. -/
def OutputStored
    (outputValidator : Option (Json → Except PyError Unit))
    (outcome : RunOutcome) (outputObjectId : Option Text) : Prop :=
  match outcome.presentOutput, outputValidator with
  | some output, some validator =>
      validator output = .ok () ∧ ∃ payload, dumps output = .ok payload ∧
        outputObjectId = some (objectIdPrefix ++ sha256 payload)
  | _, _ => outputObjectId = none

/-- Two byte strings with one digest. -/
def Collision (first second : Bytes) : Prop :=
  first ≠ second ∧ sha256 first = sha256 second

/-- A run receipt all of whose references are in the store. -/
structure ClosedReceipt
    (around : Surroundings)
    (outputValidator : Option (Json → Except PyError Unit))
    (staged : StagedRun) (outcome : RunOutcome) (before after : SealState)
    (sealed : SealedRun) (outputObjectId : Option Text)
    (engineReceiptObjectId : Text) : Prop where
  output : OutputStored outputValidator outcome outputObjectId
  outputDigests : sealed.outputDigests = outputDigestsOf outputObjectId
  engine : ∃ data,
    SelfHashed (engineReceiptBody staged outcome outputObjectId
        around.engineCreatedUtc) sealed.engineReceiptId data ∧
      engineReceiptObjectId = objectIdPrefix ++ sha256 data ∧
      (Cas.Sound before.store → ∃ held,
        after.store.objects.lookup (Cas.storePath engineReceiptObjectId) =
          some held ∧
        (held = data ∨ Collision held data))
  receipt : ∃ data,
    SelfHashed (runReceiptBody staged outputObjectId
        sealed.engineReceiptId engineReceiptObjectId
        around.storeRootRedacted around.runCreatedUtc)
        sealed.runReceiptId data ∧
      after.receipts = before.receipts.insert
        (Surroundings.receiptFile sealed.runReceiptId) data
  present : ∀ id ∈ outputObjectId.toList ++ [engineReceiptObjectId],
    Cas.storePath id ∈ after.store.objects

/-- Every object is where its digest says. -/
def Addressed (store : Cas.Store) : Prop :=
  ∀ path data, store.objects.lookup path = some data →
    path = Cas.objectPath (sha256 data)

theorem Ingested.addressed
    {data : Bytes} {id : Text} {before after : SealState}
    (ingested : Ingested data id before after)
    (addressed : Addressed before.store) : Addressed after.store := by
  intro path held isHeld
  rcases ingested.added path held isHeld with old | ⟨rfl, rfl⟩
  · exact addressed path held old
  · rw [ingested.isId, storePath_digest]

theorem Ingested.stored
    {data : Bytes} {id : Text} {before after : SealState}
    (ingested : Ingested data id before after)
    (addressed : Addressed before.store) :
    ∃ held, after.store.objects.lookup (Cas.storePath id) = some held ∧
      (held = data ∨ Collision held data) := by
  rcases Directory.mem_iff_lookup.mp ingested.present with ⟨held, isHeld⟩
  refine ⟨held, isHeld, or_iff_not_imp_left.mpr fun differs =>
    ⟨differs, ?_⟩⟩
  have isPath := ingested.addressed addressed _ _ isHeld
  rw [ingested.isId, storePath_digest] at isPath
  exact (List.append_cancel_left (congrArg Prod.snd isPath)).symm

theorem Ingested.keeps
    {data : Bytes} {id : Text} {before after : SealState}
    (ingested : Ingested data id before after) {path : Text × Text}
    (present : path ∈ before.store.objects) :
    path ∈ after.store.objects := by
  rcases Directory.mem_iff_lookup.mp present with ⟨held, isHeld⟩
  exact Directory.mem_of_lookup (ingested.kept path held isHeld)

theorem sealOutput_receipts
    {answer : Except PyError (Option Text)} {before after : SealState}
    (ended : (sealOutput around.ops outputValidator outcome).perform
      before = (answer, after)) :
    after.receipts = before.receipts := by
  have reached : ((sealOutput around.ops outputValidator
      outcome).perform before).2 = after := congrArg Prod.snd ended
  rw [← reached]
  unfold sealOutput
  split
  · split
    · rfl
    · refine Sealing.kept_bind
        (fun state => state.receipts = before.receipts) ?_ ?_
      · rw [Sealing.perform_ofExcept]
      · intro payload middle same
        refine Sealing.kept_bind
          (fun state => state.receipts = before.receipts) ?_ ?_
        · exact (Surroundings.ingestBytes_receipts rfl).trans same
        · exact fun id later sameLater => sameLater
  · rfl

/-- What has become of the output when it is taken. -/
theorem sealOutput_eq_ok
    {outputObjectId : Option Text} {before after : SealState}
    (returned : (sealOutput around.ops outputValidator outcome).perform
      before = (.ok outputObjectId, after)) :
    OutputStored outputValidator outcome outputObjectId ∧
      (outputObjectId = none ∧ after = before ∨
        ∃ data id, outputObjectId = some id ∧
          Ingested data id before after) := by
  unfold OutputStored
  unfold sealOutput at returned
  cases isOutput : outcome.presentOutput with
  | none =>
      simp only [isOutput] at returned
      cases returned
      exact ⟨rfl, .inl ⟨rfl, rfl⟩⟩
  | some output =>
      simp only [isOutput] at returned
      cases outputValidator with
      | none =>
          cases returned
          exact ⟨rfl, .inl ⟨rfl, rfl⟩⟩
      | some validator =>
          cases validated : validator output with
          | error error =>
              simp only [validated] at returned
              cases returned
          | ok accepted =>
              simp only [validated] at returned
              rcases Sealing.perform_bind_eq_ok.mp returned with
                ⟨payload, middle, encoded, rest⟩
              rw [Sealing.perform_ofExcept] at encoded
              rcases Prod.mk.inj encoded with ⟨encodes, rfl⟩
              rcases Sealing.perform_bind_eq_ok.mp rest with
                ⟨id, later, taken, done⟩
              cases done
              have ingested := Surroundings.ingested_of_eq_ok taken
              have whole : nonemptyId id = some id := by
                rw [nonemptyId, ingested.isId]
                have notEmpty : objectIdPrefix ≠ [] := by
                  decide
                exact if_neg
                  (List.append_ne_nil_of_left_ne_nil notEmpty _)
              rw [whole]
              exact ⟨⟨validated, payload, encodes,
                congrArg some ingested.isId⟩,
                .inr ⟨payload, id, rfl, ingested⟩⟩

/-- A rejected output leaves everything as it is. -/
theorem sealRun_rejected
    {output : Json} {validator : Json → Except PyError Unit}
    {error : PyError} (before : SealState)
    (isOutput : outcome.presentOutput = some output)
    (rejects : validator output = .error error) :
    ∃ refusal, (sealRun around.ops (some validator) staged
      outcome).perform before = (.error refusal, before) := by
  rw [sealRun, Sealing.perform_bind]
  simp only [sealOutput, isOutput, rejects, Sealing.perform_throw]
  exact ⟨_, rfl⟩

/-- A call that raises writes no receipt. -/
theorem sealRun_error
    {before after : SealState} {error : PyError}
    (raises : (sealRun around.ops outputValidator staged outcome).perform
      before = (.error error, after)) :
    after.receipts = before.receipts := by
  rcases Sealing.perform_bind_eq_error.mp raises with
    refused | ⟨outputObjectId, first, tookOutput, rest⟩
  · exact sealOutput_receipts refused
  have kept := sealOutput_receipts tookOutput
  rcases Sealing.perform_bind_eq_error.mp rest with
    refused | ⟨engine, second, encodedEngine, rest⟩
  · rw [Sealing.perform_ofExcept] at refused
    rw [← (Prod.mk.inj refused).2, kept]
  rw [Sealing.perform_ofExcept] at encodedEngine
  cases (Prod.mk.inj encodedEngine).2
  rcases Sealing.perform_bind_eq_error.mp rest with
    refused | ⟨engineReceiptObjectId, third, tookEngine, rest⟩
  · rw [Surroundings.ingestBytes_receipts refused, kept]
  have keptToo := (Surroundings.ingestBytes_receipts tookEngine).trans kept
  rcases Sealing.perform_bind_eq_error.mp rest with
    refused | ⟨receipt, fourth, encodedReceipt, rest⟩
  · rw [Sealing.perform_ofExcept] at refused
    rw [← (Prod.mk.inj refused).2, keptToo]
  rw [Sealing.perform_ofExcept] at encodedReceipt
  cases (Prod.mk.inj encodedReceipt).2
  rcases Sealing.perform_bind_eq_error.mp rest with
    refused | ⟨_, fifth, _, done⟩
  · rw [Surroundings.writeReceipt_error refused, keptToo]
  · cases done

/-- A call that returns has closed its receipt. -/
theorem sealRun_eq_ok
    {before after : SealState} {sealed : SealedRun}
    (returned : (sealRun around.ops outputValidator staged outcome).perform
      before = (.ok sealed, after)) :
    ∃ outputObjectId engineReceiptObjectId,
      ClosedReceipt around outputValidator staged outcome before after
        sealed outputObjectId engineReceiptObjectId := by
  rcases Sealing.perform_bind_eq_ok.mp returned with
    ⟨outputObjectId, first, tookOutput, rest⟩
  rcases Sealing.perform_bind_eq_ok.mp rest with
    ⟨engine, second, encodedEngine, rest⟩
  rcases Sealing.perform_bind_eq_ok.mp rest with
    ⟨engineReceiptObjectId, third, tookEngine, rest⟩
  rcases Sealing.perform_bind_eq_ok.mp rest with
    ⟨receipt, fourth, encodedReceipt, rest⟩
  rcases Sealing.perform_bind_eq_ok.mp rest with
    ⟨_, fifth, wrote, done⟩
  cases done
  rw [Sealing.perform_ofExcept] at encodedEngine encodedReceipt
  rcases Prod.mk.inj encodedEngine with ⟨engineEncodes, rfl⟩
  rcases Prod.mk.inj encodedReceipt with ⟨receiptEncodes, rfl⟩
  rcases sealOutput_eq_ok tookOutput with ⟨stored, taken⟩
  have ingested := Surroundings.ingested_of_eq_ok tookEngine
  have written := Surroundings.writeReceipt_eq_ok wrote
  refine ⟨outputObjectId, engineReceiptObjectId, stored, rfl,
    ⟨engine.2, selfHashed_of_published (engineReceiptBody_noId _ _)
      engineEncodes, ingested.isId, fun sound => ?_⟩,
    ⟨receipt.2, selfHashed_of_published (runReceiptBody_noId _ _ _ _ _)
      receiptEncodes, ?_⟩, fun id isId => ?_⟩
  · have addressed : Addressed first.store := by
      rcases taken with ⟨_, rfl⟩ | ⟨data, id, _, isTaken⟩
      · exact sound.objects
      · exact isTaken.addressed sound.objects
    rw [written]
    exact ingested.stored addressed
  · rw [written, ingested.receipts, sealOutput_receipts tookOutput]
  · rw [written]
    rcases List.mem_append.mp isId with isOutput | isEngine
    · refine ingested.keeps ?_
      rcases taken with ⟨rfl, _⟩ | ⟨data, other, rfl, isTaken⟩
      · cases isOutput
      · cases Option.mem_toList.mp isOutput
        exact isTaken.present
    · cases List.mem_singleton.mp isEngine
      exact ingested.present

/--
A call that raises adds no receipt, and one whose validator rejects the output
leaves the store alone as well.  A call that returns has written one receipt,
under its own hash, all of whose references are in the store.
-/
theorem sealRun_closed
    (around : Surroundings)
    (outputValidator : Option (Json → Except PyError Unit))
    (staged : StagedRun) (outcome : RunOutcome) (before : SealState) :
    (∀ error after,
      (sealRun around.ops outputValidator staged outcome).perform before =
        (.error error, after) → after.receipts = before.receipts) ∧
    (∀ output validator error, outcome.presentOutput = some output →
      outputValidator = some validator → validator output = .error error →
      ∃ refusal, (sealRun around.ops outputValidator staged
        outcome).perform before = (.error refusal, before)) ∧
    ∀ sealed after,
      (sealRun around.ops outputValidator staged outcome).perform before =
        (.ok sealed, after) →
      ∃ outputObjectId engineReceiptObjectId,
        ClosedReceipt around outputValidator staged outcome before after
          sealed outputObjectId engineReceiptObjectId := by
  refine ⟨fun _ _ => sealRun_error, ?_, fun _ _ => sealRun_eq_ok⟩
  rintro output validator error isOutput rfl rejects
  exact sealRun_rejected before isOutput rejects

end

end ScientificResourceLab.Execution
