import ScientificResourceLab.Cas.Completion
import ScientificResourceLab.Execution.Materialize
import ScientificResourceLab.Scheduler.Dispatch

/-!
# The input that a sealed receipt names

An attempt stores its payload before it starts and writes the digest into its
checkpoint, so that a later attempt after a crash reuses the digest instead
of the payload.  `Traced` says that every digest on its way, in `queued/` or
in `running/`, is the digest of the payload beside it, and that a sealed
receipt names the payload of the last attempt of its request.
-/

namespace ScientificResourceLab.Scheduler

open Python Contracts Steps
open Execution (StagedRun RunOutcome StagingOps RunSpec validateRunSpec
  materializeRun_inputDigests)
open Steps.Program (observe update compute)

/-! ## Digests on their way -/

/-- The digest of the canonical bytes of a payload. -/
def NamesPayload (digest : Text) (payload : Json) : Prop :=
  ∃ data, dumps payload = .ok data ∧
    digest = objectIdPrefix ++ sha256 data

/-- A digest in a checkpoint is the digest of its own payload. -/
def Carries (checkpoint : RuntimeRunCheckpoint) : Prop :=
  ∀ digest, checkpoint.inputDigest = some digest →
    NamesPayload digest checkpoint.request.inputPayload

/-- The calls of the runner for a request before it had a receipt. -/
def State.attempts (state : State) (requestId : Text) : List Invocation :=
  state.invocations.filter fun invocation =>
    invocation.requestId = requestId ∧ invocation.hadTerminal = false

def NamesLast (receipt : SchedulerTerminalReceipt)
    (attempts : List Invocation) : Prop :=
  ∃ attempt digest, attempts.getLast? = some attempt ∧
    receipt.stagedInputDigests.lookup (text "input.json") = some digest ∧
    NamesPayload digest attempt.inputPayload

/-- Digests on their way and in sealed receipts are those of payloads. -/
structure Traced (state : State) : Prop where
  queuedCarries : ∀ requestId checkpoint,
    state.queued.lookup requestId = some checkpoint → Carries checkpoint
  runningCarries : ∀ requestId checkpoint,
    state.running.lookup requestId = some checkpoint → Carries checkpoint
  sealedNames : ∀ requestId receipt,
    state.terminal.lookup requestId = some receipt →
      receipt.sealed = true →
        NamesLast receipt (state.attempts requestId)

theorem traced_empty : Traced State.empty where
  queuedCarries := fun _ _ found => nomatch found
  runningCarries := fun _ _ found => nomatch found
  sealedNames := fun _ _ found => nomatch found

section

variable {state : State}

theorem Traced.putQueued
    (traced : Traced state) {requestId : Text}
    {checkpoint : RuntimeRunCheckpoint} (carries : Carries checkpoint) :
    Traced (state.putQueued requestId checkpoint) := by
  refine { traced with queuedCarries := ?_ }
  intro other stored found
  rcases Directory.lookup_insert_eq_some.mp found with
    ⟨-, rfl⟩ | ⟨-, kept⟩
  · exact carries
  · exact traced.queuedCarries other stored kept

theorem Traced.putRunning
    (traced : Traced state) {requestId : Text}
    {checkpoint : RuntimeRunCheckpoint} (carries : Carries checkpoint) :
    Traced (state.putRunning requestId checkpoint) := by
  refine { traced with runningCarries := ?_ }
  intro other stored found
  rcases Directory.lookup_insert_eq_some.mp found with
    ⟨-, rfl⟩ | ⟨-, kept⟩
  · exact carries
  · exact traced.runningCarries other stored kept

theorem Traced.dropQueued (traced : Traced state) (requestId : Text) :
    Traced (state.dropQueued requestId) := by
  refine { traced with queuedCarries := ?_ }
  intro other stored found
  exact traced.queuedCarries other stored
    (Directory.lookup_erase_eq_some.mp found).2

theorem Traced.dropRunning (traced : Traced state) (requestId : Text) :
    Traced (state.dropRunning requestId) := by
  refine { traced with runningCarries := ?_ }
  intro other stored found
  exact traced.runningCarries other stored
    (Directory.lookup_erase_eq_some.mp found).2

/-- A receipt that is unsealed, or names the last attempt, may be put. -/
theorem Traced.putTerminal
    (traced : Traced state) {requestId : Text}
    {receipt : SchedulerTerminalReceipt}
    (names : receipt.sealed = true →
      NamesLast receipt (state.attempts requestId)) :
    Traced (state.putTerminal requestId receipt) := by
  refine { traced with sealedNames := ?_ }
  intro other stored found isSealed
  rcases Directory.lookup_insert_eq_some.mp found with
    ⟨rfl, rfl⟩ | ⟨-, kept⟩
  · exact names isSealed
  · exact traced.sealedNames other stored kept isSealed

/-- A call of the runner is an attempt only of an unfinished request. -/
theorem attempts_noteInvocation
    (request : RuntimeRunRequest) (requestId : Text) :
    (state.noteInvocation request).attempts requestId =
      if request.requestId = requestId ∧ requestId ∉ state.terminal then
        state.attempts requestId ++
          [⟨request.requestId, request.inputPayload, false⟩]
      else state.attempts requestId := by
  rw [State.attempts, State.noteInvocation, List.filter_append,
    State.attempts]
  split_ifs with attempted
  · obtain ⟨rfl, unfinished⟩ := attempted
    simp [unfinished]
  · rw [List.filter_cons_of_neg, List.filter_nil, List.append_nil]
    intro kept
    obtain ⟨rfl, unfinished⟩ := of_decide_eq_true kept
    exact attempted ⟨rfl, of_decide_eq_false unfinished⟩

theorem Traced.noteInvocation
    (traced : Traced state) (request : RuntimeRunRequest) :
    Traced (state.noteInvocation request) := by
  refine { traced with sealedNames := ?_ }
  intro requestId receipt found isSealed
  have finished := Directory.mem_of_lookup found
  rw [attempts_noteInvocation, if_neg fun attempted =>
    attempted.2 finished]
  exact traced.sealedNames requestId receipt found isSealed

end

theorem traced_writeRules : WriteRules Traced Carries where
  queued := fun _ requestId checkpoint traced =>
    traced.queuedCarries requestId checkpoint
  running := fun _ requestId checkpoint traced =>
    traced.runningCarries requestId checkpoint
  fresh := fun _ _ noDigest digest isDigest => by
    rw [noDigest] at isDigest
    cases isDigest
  carried := fun first second sameRequest sameDigest carries digest
      isDigest => by
    rw [sameRequest]
    exact carries digest (sameDigest.symm.trans isDigest)
  noteSubmitted := fun _ _ traced => { traced with }
  putQueued := fun _ _ _ carries traced => traced.putQueued carries
  putRunning := fun _ _ _ carries traced => traced.putRunning carries
  putCancel := fun _ _ _ traced => { traced with }
  dropQueued := fun _ requestId traced => traced.dropQueued requestId
  dropRunning := fun _ requestId traced => traced.dropRunning requestId
  dropCancel := fun _ _ traced => { traced with }
  putUnsealed := fun _ _ unsealed traced => traced.putTerminal
    fun isSealed => nomatch unsealed.symm.trans isSealed

/-! ## An attempt -/

/-- The store and the staging of a dispatch name the bytes they hold. -/
structure StagesInput (context : DispatchContext) : Prop where
  ingested : ∀ data id, context.ingestBytes data = .ok id →
    id = objectIdPrefix ++ sha256 data
  staged : ∀ adapterId inputDigest staged,
    context.materializeRun adapterId inputDigest = .ok staged →
      staged.inputDigests = [(text "input.json", inputDigest)]

theorem inputDigestOf_names
    {context : DispatchContext} (stages : StagesInput context)
    {checkpoint : RuntimeRunCheckpoint} (carries : Carries checkpoint)
    {inputDigest : Text}
    (isDigest : inputDigestOf context checkpoint = .ok inputDigest) :
    NamesPayload inputDigest checkpoint.request.inputPayload := by
  unfold inputDigestOf at isDigest
  split at isDigest
  · next stored =>
      cases isDigest
      exact carries _ stored
  · obtain ⟨data, dumped, isId⟩ := bind_eq_ok_iff.mp isDigest
    exact ⟨data, dumped, stages.ingested data inputDigest isId⟩

theorem names_sealedReceipt
    {state : State} {request : RuntimeRunRequest} {staged : StagedRun}
    {outcome : RunOutcome} {generation : Nat}
    {sealedRun : Execution.SealedRun} {inputDigest : Text}
    (isStaged : staged.inputDigests = [(text "input.json", inputDigest)])
    (names : NamesPayload inputDigest request.inputPayload)
    (unfinished : request.requestId ∉ state.terminal)
    {bound : SchedulerTerminalReceipt}
    (isBound : (sealedReceipt request generation staged outcome
      sealedRun).withId = .ok bound) :
    NamesLast bound
      ((state.noteInvocation request).attempts request.requestId) := by
  obtain ⟨-, -, isDigests⟩ := withId_fields isBound
  refine ⟨⟨request.requestId, request.inputPayload, false⟩, inputDigest,
    ?_, ?_, names⟩
  · rw [attempts_noteInvocation, if_pos ⟨rfl, unfinished⟩,
      List.getLast?_concat]
  · rw [isDigests]
    change staged.inputDigests.lookup (text "input.json") = _
    rw [isStaged]
    exact List.lookup_cons_self

theorem sustains_attempt
    {request : RuntimeRunRequest} {staged : StagedRun}
    {inputDigest : Text}
    (isStaged : staged.inputDigests = [(text "input.json", inputDigest)])
    (names : NamesPayload inputDigest request.inputPayload)
    (ran : Except PyError RunOutcome)
    (sealRun : RunOutcome → Except PyError Execution.SealedRun)
    (generation : Nat) :
    (do
      update fun state => state.noteInvocation request
      let outcome ← compute ran
      let sealedRun ← compute (sealRun outcome)
      writeTerminalOnce (sealedReceipt request generation staged outcome
        sealedRun) : Action SchedulerTerminalReceipt).Sustains Traced
          fun _ => True := by
  intro state traced
  have noted := traced.noteInvocation request
  have stops (error : PyError) :
      Program.SustainedPost Traced (fun _ => True)
        (.error error : Except PyError SchedulerTerminalReceipt)
        (state.noteInvocation request) :=
    ⟨noted, fun _ isResult => nomatch isResult⟩
  refine ⟨noted, ?_⟩
  refine Program.safe_compute_bind (fun outcome _ => ?_) stops
  refine Program.safe_compute_bind (fun sealedRun _ => ?_) stops
  rw [writeTerminalOnce, Program.safe_bind, Program.safe_observe,
    Program.bindPost_ok]
  cases found : (state.noteInvocation request).terminal.lookup
      request.requestId with
  | some existing =>
      simp only [sealedReceipt, found]
      exact ⟨noted, fun _ _ => trivial⟩
  | none =>
      have unfinished : request.requestId ∉ state.terminal :=
        AList.lookup_eq_none.mp found
      simp only [sealedReceipt, found]
      refine Program.safe_compute_bind (fun bound isBound => ?_) stops
      have closed := noted.putTerminal fun _ =>
        names_sealedReceipt isStaged names unfinished isBound
      rw [Program.safe_bind]
      exact safe_atomicWriteJson closed ⟨closed, fun _ _ => trivial⟩ stops

theorem sustains_runAdmitted_traced
    {context : DispatchContext} (stages : StagesInput context)
    {checkpoint : RuntimeRunCheckpoint} (carries : Carries checkpoint) :
    (runAdmitted context checkpoint).Sustains Traced fun _ => True := by
  refine Program.sustains_compute_then fun inputDigest isDigest => ?_
  have names := inputDigestOf_names stages carries isDigest
  refine Program.sustains_then
    (sustains_atomicWriteJson fun _ traced => traced.putRunning ?_)
    fun _ => ?_
  · rintro digest ⟨⟩
    exact names
  · exact Program.sustains_compute_then fun staged isStaged =>
      Program.sustains_compute_then fun _ _ =>
        sustains_attempt (stages.staged _ _ staged isStaged) names _ _ _

/-- Every digest is traced after a history over such stores. -/
theorem traced_afterCalls
    {calls : List (Call Operation)}
    (stages : ∀ call ∈ calls, call.operation.Dispatches StagesInput) :
    Traced (afterCalls code calls State.empty) :=
  afterCalls_of_sustains
    (fun call member => sustains_code traced_writeRules
      (fun _ staged _ carries =>
        sustains_runAdmitted_traced staged carries)
      (stages call member))
    traced_empty

/-! ## The local store and its staging -/

/-- `self.store` when it is called: its files, the clock, the disk. -/
structure LocalStore where
  contents : Cas.Store
  nowUtc : Text
  fault : Option PyError

/-- The request with which an input is stored. -/
def LocalStore.inputRequest (store : LocalStore) (data : Cas.SourceBytes) :
    Cas.IngestRequest where
  sourceBytes := data
  mediaType := text "application/json"
  capacityHook := none
  usedBytes := 0
  createdUtc := none
  nowUtc := store.nowUtc

/-- `self.store.ingest_bytes(data, _INPUT_MEDIA_TYPE).digest`. -/
def LocalStore.ingestBytes (store : LocalStore) (data : Bytes) :
    Except PyError Text :=
  match store.fault with
  | some error => .error error
  | none =>
      if small : data.length < 2 ^ 63 then do
        let outcome ← ((Cas.ingest (store.inputRequest ⟨data, small⟩)).run
          store.contents).1
        pure outcome.digest
      else .error (raised .overflowError "byte string is too long")

/-- The run specification of a dispatch. -/
def runSpec (adapterId inputDigest : Text) : Json :=
  .obj
    [(text "adapter_id", .str adapterId),
      (text "input_payloads",
        .obj [(text "input.json", .str inputDigest)]),
      (text "pack_ref", .null)]

/-- A dispatch over this store that stages with these operations. -/
def DispatchContext.storing
    (context : DispatchContext) (store : LocalStore)
    (staging : StagingOps (Except PyError)) : DispatchContext :=
  { context with
    ingestBytes := store.ingestBytes
    materializeRun := fun adapterId inputDigest =>
      Execution.materializeRun staging (runSpec adapterId inputDigest) }

/-- The dispatches of the source have a store and a staging directory. -/
def OverStore (context : DispatchContext) : Prop :=
  ∃ base store staging, context = DispatchContext.storing base store staging

theorem ingestBytes_eq_ok
    {store : LocalStore} {data : Bytes} {id : Text}
    (stored : store.ingestBytes data = .ok id) :
    id = objectIdPrefix ++ sha256 data := by
  unfold LocalStore.ingestBytes at stored
  split at stored
  · cases stored
  · split at stored
    · next small =>
        obtain ⟨outcome, ran, isId⟩ := bind_eq_ok_iff.mp stored
        cases isId
        have answer := (Cas.safe_ingest_answer
          (store.inputRequest ⟨data, small⟩) store.contents).run_post.1
        rw [ran] at answer
        exact answer.2.1
    · cases stored

theorem validateRunSpec_runSpec
    {adapterId inputDigest : Text} {spec : RunSpec}
    (valid : validateRunSpec (runSpec adapterId inputDigest) = .ok spec) :
    spec.inputPayloads = [(text "input.json", inputDigest)] := by
  cases adapterId with
  | nil => cases valid
  | cons first rest =>
      cases valid
      rfl

theorem OverStore.stagesInput
    {context : DispatchContext} (overStore : OverStore context) :
    StagesInput context := by
  obtain ⟨base, store, staging, rfl⟩ := overStore
  constructor
  · intro data id stored
    exact ingestBytes_eq_ok stored
  · intro adapterId inputDigest staged returned
    have materialized : Execution.materializeRun staging
        (runSpec adapterId inputDigest) = .ok staged := returned
    obtain ⟨spec, valid⟩ := Execution.validRunSpec_of_eq_ok materialized
    rw [materializeRun_inputDigests valid materialized]
    exact validateRunSpec_runSpec valid

/-! ## Sealed receipts -/

/-- The calls of the runner for a request. -/
def State.invocationsOf (state : State) (requestId : Text) :
    List Invocation :=
  state.invocations.filter fun invocation =>
    invocation.requestId = requestId

theorem attempts_eq_invocationsOf
    {state : State} (sound : Sound state) (requestId : Text) :
    state.attempts requestId = state.invocationsOf requestId := by
  refine List.filter_congr fun invocation member => ?_
  simp [sound.invokedUnfinished invocation member]

/-- A sealed receipt names the payload of the last call of the runner. -/
def SealedNamesInput (state : State) : Prop :=
  ∀ requestId receipt,
    state.terminal.lookup requestId = some receipt →
      receipt.sealed = true →
        NamesLast receipt (state.invocationsOf requestId)

theorem sealedNamesInput_afterCalls
    {calls : List (Call Operation)}
    (overStore : ∀ call ∈ calls, call.operation.Dispatches OverStore) :
    SealedNamesInput (afterCalls code calls State.empty) := by
  intro requestId receipt found isSealed
  have traced := traced_afterCalls fun call member =>
    (overStore call member).mono fun _ => OverStore.stagesInput
  rw [← attempts_eq_invocationsOf (sound_afterCalls calls)]
  exact traced.sealedNames requestId receipt found isSealed

end ScientificResourceLab.Scheduler
