import ScientificResourceLab.Execution.Sealer
import ScientificResourceLab.Scheduler.Records
import ScientificResourceLab.Steps.History
import ScientificResourceLab.Steps.Directory

/-!
# The scheduler's directories and operations

The state is the four directories `queued/`, `running/`, `terminal/` and
`cancel/`, each a finite map from request ids to the records in their files.
An operation is a program over that state: reading a file is a read, and
`os.replace`, `unlink` and the final rename of `_atomic_write_json` are one
write each.  Temporary files are never read and are left out; encoding a
record happens before its rename and may raise.

Two history variables stand beside the directories.  `submitted` lists the
ids whose `submit` returned, and `invocations` records for every call of the
runner the payload it was given and whether the id had a terminal receipt at
that moment.  No operation reads them.

The collaborators of a dispatch, that is the disk, the artifact store, the
runner and the sealer, are an argument of the dispatch.  Each may raise.
-/

namespace ScientificResourceLab.Scheduler

open Python Contracts Steps
open Execution (RunStatus RunOutcome StagedRun SealedRun)
open Steps.Program (observe update compute)

/-! ## State -/

/-- One call of the runner. -/
structure Invocation where
  requestId : Text
  inputPayload : Json
  hadTerminal : Bool

/-- The directories under the root, and what happened so far. -/
structure State where
  queued : Directory Text RuntimeRunCheckpoint
  running : Directory Text RuntimeRunCheckpoint
  terminal : Directory Text SchedulerTerminalReceipt
  cancel : Directory Text Nat
  submitted : List Text
  invocations : List Invocation

/-- The directories that `create` makes. -/
def State.empty : State where
  queued := ∅
  running := ∅
  terminal := ∅
  cancel := ∅
  submitted := []
  invocations := []

/-- Code over the scheduler's directories. -/
abbrev Action (α : Type) := Program State PyError α

/-- `sorted(directory.glob("*.json"))`, as request ids. -/
def sortedFiles {α : Type} (directory : Directory Text α) : List Text :=
  directory.keys.insertionSort fun left right =>
    left ++ text ".json" ≤ right ++ text ".json"

/-! ## Files -/

def readFile
    {α : Type} (directory : State → Directory Text α) (requestId : Text) :
    Action α := do
  match ← observe fun state => (directory state).lookup requestId with
  | some record => pure record
  | none => throw (raised .fileNotFoundError "No such file or directory")

/-- `_atomic_write_json`: encode, then rename into place. -/
def atomicWriteJson
    (payload : Except PyError Json) (rename : State → State) :
    Action PUnit := do
  let document ← compute payload
  let _ ← compute (dumps document)
  update rename

/-- Put a checkpoint into `queued/`. -/
def State.putQueued
    (state : State) (requestId : Text)
    (checkpoint : RuntimeRunCheckpoint) : State :=
  { state with queued := state.queued.insert requestId checkpoint }

/-- Put a checkpoint into `running/`. -/
def State.putRunning
    (state : State) (requestId : Text)
    (checkpoint : RuntimeRunCheckpoint) : State :=
  { state with running := state.running.insert requestId checkpoint }

/-- Put a receipt into `terminal/`. -/
def State.putTerminal
    (state : State) (requestId : Text)
    (receipt : SchedulerTerminalReceipt) : State :=
  { state with terminal := state.terminal.insert requestId receipt }

/-- Put a marker into `cancel/`. -/
def State.putCancel
    (state : State) (requestId : Text) (generation : Nat) : State :=
  { state with cancel := state.cancel.insert requestId generation }

/-- Remove a file from `queued/`. -/
def State.dropQueued (state : State) (requestId : Text) : State :=
  { state with queued := state.queued.erase requestId }

/-- Remove a file from `running/`. -/
def State.dropRunning (state : State) (requestId : Text) : State :=
  { state with running := state.running.erase requestId }

/-- Remove a file from `cancel/`. -/
def State.dropCancel (state : State) (requestId : Text) : State :=
  { state with cancel := state.cancel.erase requestId }

/-- Rename a queued file into `running/`. -/
def State.moveToRunning
    (state : State) (source target : Text) : State :=
  match state.queued.lookup source with
  | some checkpoint =>
      (state.dropQueued source).putRunning target checkpoint
  | none => state

/-- Note that `submit` returned. -/
def State.noteSubmitted (state : State) (requestId : Text) : State :=
  { state with submitted := state.submitted ++ [requestId] }

/-- Note a call of the runner. -/
def State.noteInvocation (state : State) (request : RuntimeRunRequest) :
    State :=
  { state with
    invocations := state.invocations ++
      [{ requestId := request.requestId
         inputPayload := request.inputPayload
         hadTerminal := decide (request.requestId ∈ state.terminal) }] }

/-- `unlink()` of a queued file. -/
def unlinkQueued (requestId : Text) : Action PUnit := do
  if ← observe fun state => decide (requestId ∈ state.queued) then
    update fun state => state.dropQueued requestId
  else throw (raised .fileNotFoundError "No such file or directory")

/-- `unlink()` of a running file. -/
def unlinkRunning (requestId : Text) : Action PUnit := do
  if ← observe fun state => decide (requestId ∈ state.running) then
    update fun state => state.dropRunning requestId
  else throw (raised .fileNotFoundError "No such file or directory")

/-- `os.replace` from `queued/` to `running/`. -/
def replaceQueuedByRunning (source target : Text) : Action PUnit := do
  if ← observe fun state => decide (source ∈ state.queued) then
    update fun state => state.moveToRunning source target
  else throw (raised .fileNotFoundError "No such file or directory")

/-! ## Queue order -/

/-- `[_read_checkpoint(path) for path in paths]` in `queued/`. -/
def readCheckpoints : List Text → Action (List RuntimeRunCheckpoint)
  | [] => pure []
  | requestId :: rest => do
      let checkpoint ← readFile State.queued requestId
      let others ← readCheckpoints rest
      pure (checkpoint :: others)

/-- The largest sequence number of a list of checkpoints. -/
def latestSequence (checkpoints : List RuntimeRunCheckpoint) : Nat :=
  (checkpoints.map RuntimeRunCheckpoint.sequence).foldl max 0

/-- `_next_sequence`. -/
def nextSequence (queuedPaths : List Text) : Action Nat := do
  if queuedPaths = [] then pure 1
  else
    let checkpoints ← readCheckpoints queuedPaths
    pure (latestSequence checkpoints + 1)

/-- `_queue_sort_key`. -/
def queueSortKey
    (checkpoint : RuntimeRunCheckpoint) (latestSequence : Nat) :
    Int × Nat × Nat :=
  let ageBonus := latestSequence - checkpoint.sequence
  let effectivePriority := checkpoint.request.priority + ageBonus
  (-effectivePriority, poolRank checkpoint.request.pool,
    checkpoint.sequence)

/-- The order of Python tuples of three integers. -/
def KeyBefore (left right : Int × Nat × Nat) : Prop :=
  left.1 < right.1 ∨ left.1 = right.1 ∧
    (left.2.1 < right.2.1 ∨ left.2.1 = right.2.1 ∧
      left.2.2 ≤ right.2.2)

instance : DecidableRel KeyBefore := fun _ _ =>
  inferInstanceAs (Decidable (_ ∨ _ ∧ (_ ∨ _ ∧ _)))

/-- The checkpoint that is dispatched first. -/
def firstQueued (candidates : List RuntimeRunCheckpoint) :
    Option RuntimeRunCheckpoint :=
  (candidates.insertionSort fun left right =>
    KeyBefore (queueSortKey left (latestSequence candidates))
      (queueSortKey right (latestSequence candidates))).head?

/-- `_next_queued_path`, as a request id. -/
def nextQueuedPath : Action (Option Text) := do
  let paths ← observe fun state => sortedFiles state.queued
  let candidates ← readCheckpoints paths
  pure ((firstQueued candidates).map fun chosen =>
    chosen.request.requestId)

/-! ## Terminal receipts -/

/-- `_write_terminal_once`. -/
def writeTerminalOnce (receipt : SchedulerTerminalReceipt) :
    Action SchedulerTerminalReceipt := do
  match ← observe fun state =>
      state.terminal.lookup receipt.requestId with
  | some existing => pure existing
  | none =>
      let bound ← compute receipt.withId
      atomicWriteJson (.ok bound.toDict) fun state =>
        state.putTerminal receipt.requestId bound
      pure bound

/-- `_terminal_from_wait`. -/
def terminalFromWait
    (request : RuntimeRunRequest) (generation : Nat)
    (status : RuntimeRunStatus) (failReason : String) (detail : Text) :
    Action SchedulerTerminalReceipt :=
  writeTerminalOnce
    (unsealedReceipt request.requestId status generation failReason detail)

/-! ## Submission and cancellation -/

/-- What `submit` and `cancel_request` return. -/
inductive Outcome where
  | checkpoint (checkpoint : RuntimeRunCheckpoint)
  | terminal (receipt : SchedulerTerminalReceipt)

/-- `submit`. -/
def submit (request : RuntimeRunRequest) (maxQueued : Int) :
    Action Outcome := do
  compute (validateRequestId request.requestId)
  if maxQueued < 0 then
    throw (raised .schedulerError "max_queued must be non-negative")
  match ← observe fun state =>
      state.terminal.lookup request.requestId with
  | some receipt => pure (.terminal receipt)
  | none =>
      let active ← observe fun state =>
        decide (request.requestId ∈ state.queued) ||
          decide (request.requestId ∈ state.running)
      if active then
        throw ⟨.schedulerError,
          text "request " ++ quoted request.requestId ++
            text " is already active"⟩
      let queued ← observe fun state => sortedFiles state.queued
      if maxQueued ≤ queued.length then
        let receipt ← writeTerminalOnce
          (unsealedReceipt request.requestId .waitBackpressure 1
            "WAIT_BACKPRESSURE"
            (text "queue capacity " ++ intText maxQueued ++
              text " reached"))
        pure (.terminal receipt)
      else
        let sequence ← nextSequence queued
        let checkpoint : RuntimeRunCheckpoint :=
          { request := request
            status := .queued
            generation := 1
            sequence := sequence
            inputDigest := none }
        atomicWriteJson checkpoint.toDict fun state =>
          state.putQueued request.requestId checkpoint
        pure (.checkpoint checkpoint)

/-- `submit`, noting its return. -/
def recordedSubmit (request : RuntimeRunRequest) (maxQueued : Int) :
    Action Outcome := do
  let outcome ← submit request maxQueued
  update fun state => state.noteSubmitted request.requestId
  pure outcome

/-- The document of a cancellation marker. -/
def cancelMarker (requestId : Text) (generation : Nat) : Json :=
  .obj
    [(text "schema_version", .str (text "RuntimeCancelRequest/v1")),
      (text "request_id", .str requestId),
      (text "generation", .int generation),
      (text "canonical_writes", .int 0),
      (text "grants_authority", .bool false)]

/-- `cancel_request`. -/
def cancelRequest (requestId : Text) : Action Outcome := do
  compute (validateRequestId requestId)
  if ← observe fun state => decide (requestId ∈ state.queued) then
    let queued ← readFile State.queued requestId
    unlinkQueued requestId
    let receipt ← writeTerminalOnce
      (cancelledReceipt requestId (queued.generation + 1))
    pure (.terminal receipt)
  else if ← observe fun state => decide (requestId ∈ state.running) then
    let running ← readFile State.running requestId
    atomicWriteJson (.ok (cancelMarker requestId running.generation))
      fun state => state.putCancel requestId running.generation
    pure (.checkpoint running)
  else
    match ← observe fun state => state.terminal.lookup requestId with
    | some receipt => pure (.terminal receipt)
    | none =>
        throw ⟨.schedulerError,
          text "request " ++ quoted requestId ++ text " is not active"⟩

/-! ## Recovery -/

/-- The body of the loop of `recover_interrupted`. -/
def recoverOne (queuedPaths : List Text) (runningPath : Text) :
    Action (Option RuntimeRunCheckpoint) := do
  let checkpoint ← readFile State.running runningPath
  let requestId := checkpoint.request.requestId
  if ← observe fun state => decide (requestId ∈ state.terminal) then
    unlinkRunning runningPath
    pure none
  else if ← observe fun state => decide (requestId ∈ state.cancel) then
    let _ ← writeTerminalOnce
      (unsealedReceipt requestId .cancelled (checkpoint.generation + 1)
        "CANCELLED_BY_OPERATOR"
        (text "cancelled during interrupted run recovery"))
    unlinkRunning runningPath
    pure none
  else
    let sequence ← nextSequence queuedPaths
    let resumed : RuntimeRunCheckpoint :=
      { request := checkpoint.request
        status := .queued
        generation := checkpoint.generation + 1
        sequence := sequence
        inputDigest := checkpoint.inputDigest }
    atomicWriteJson resumed.toDict fun state =>
      state.putQueued requestId resumed
    unlinkRunning runningPath
    pure (some resumed)

/-- The loop of `recover_interrupted`. -/
def recoverEach (queuedPaths : List Text) :
    List Text → Action (List RuntimeRunCheckpoint)
  | [] => pure []
  | runningPath :: rest => do
      match ← recoverOne queuedPaths runningPath with
      | none => recoverEach queuedPaths rest
      | some resumed =>
          let recovered ← recoverEach
            (queuedPaths ++ [resumed.request.requestId]) rest
          pure (resumed :: recovered)

/-- `recover_interrupted`. -/
def recoverInterrupted : Action (List RuntimeRunCheckpoint) := do
  let queuedPaths ← observe fun state => sortedFiles state.queued
  let runningPaths ← observe fun state => sortedFiles state.running
  recoverEach queuedPaths runningPaths

/-! ## Dispatch -/

/-- The arguments of a dispatch and the answers of its collaborators. -/
structure DispatchContext where
  policy : ResourcePolicy
  packStatuses : Text → Option PackLifecycleStatus
  freeDiskBytes : Except PyError Nat
  ingestBytes : Bytes → Except PyError Text
  materializeRun : Text → Text → Except PyError StagedRun
  prepareScratch : Except PyError Unit
  runner : RuntimeRunRequest → ResourcePolicy → Except PyError RunOutcome
  sealRun : StagedRun → RunOutcome → Except PyError SealedRun

/-- `_pack_wait_detail`. -/
def packWaitDetail
    (request : RuntimeRunRequest)
    (packStatuses : Text → Option PackLifecycleStatus) : Option Text :=
  match request.packId with
  | none => none
  | some packId =>
      match packStatuses packId with
      | some .active => none
      | none =>
          some (text "pack " ++ quoted packId ++
            text " has no ACTIVE governance record")
      | some status =>
          some (text "pack " ++ quoted packId ++ text " status is " ++
            status.value)

/-- `checkpoint.input_digest or store.ingest_bytes(...).digest`. -/
def inputDigestOf
    (context : DispatchContext) (checkpoint : RuntimeRunCheckpoint) :
    Except PyError Text :=
  match checkpoint.inputDigest with
  | some (first :: rest) => .ok (first :: rest)
  | _ => do
      let payload ← dumps checkpoint.request.inputPayload
      context.ingestBytes payload

/-- The receipt of `_terminal_from_sealed`. -/
def sealedReceipt
    (request : RuntimeRunRequest) (generation : Nat) (staged : StagedRun)
    (outcome : RunOutcome) (sealedRun : SealedRun) :
    SchedulerTerminalReceipt where
  requestId := request.requestId
  status :=
    if outcome.status = .completed then .completed else .failed
  generation := generation
  failReason := outcome.failReason
  detail := outcome.detail
  stagedInputDigests := staged.inputDigests
  runReceiptId := some sealedRun.runReceiptId
  engineReceiptId := some sealedRun.engineReceiptId
  outputDigests := sealedRun.outputDigests
  sealed := true
  terminalReceiptId := none

/-- The part of `_dispatch_running` after all waits. -/
def runAdmitted
    (context : DispatchContext) (checkpoint : RuntimeRunCheckpoint) :
    Action SchedulerTerminalReceipt := do
  let request := checkpoint.request
  let inputDigest ← compute (inputDigestOf context checkpoint)
  let runningWithInput : RuntimeRunCheckpoint :=
    { request := request
      status := .running
      generation := checkpoint.generation + 1
      sequence := checkpoint.sequence
      inputDigest := some inputDigest }
  atomicWriteJson runningWithInput.toDict fun state =>
    state.putRunning request.requestId runningWithInput
  let staged ← compute
    (context.materializeRun request.adapterId inputDigest)
  compute context.prepareScratch
  update fun state => state.noteInvocation request
  let outcome ← compute (context.runner request context.policy)
  let sealedRun ← compute (context.sealRun staged outcome)
  writeTerminalOnce (sealedReceipt request (checkpoint.generation + 2)
    staged outcome sealedRun)

/-- `_dispatch_running`. -/
def dispatchRunning
    (context : DispatchContext) (checkpoint : RuntimeRunCheckpoint) :
    Action SchedulerTerminalReceipt := do
  let request := checkpoint.request
  let cancelled ← observe fun state =>
    decide (request.requestId ∈ state.cancel)
  if cancelled then
    terminalFromWait request (checkpoint.generation + 1) .cancelled
      "CANCELLED_BY_OPERATOR" (text "cancelled before runner spawn")
  else
    match packWaitDetail request context.packStatuses with
    | some detail =>
        terminalFromWait request (checkpoint.generation + 1)
          .waitPackGovernance "WAIT_PACK_GOVERNANCE" detail
    | none =>
        if admitEstimate request.resourceEstimate context.policy
            request.useException = .waitRemoteExecutor then
          terminalFromWait request (checkpoint.generation + 1)
            .waitRemoteExecutor "WAIT_REMOTE_EXECUTOR"
            (text "WAIT_REMOTE_EXECUTOR")
        else
          let free ← compute context.freeDiskBytes
          if free < context.policy.requiredFreeDiskBytes then
            terminalFromWait request (checkpoint.generation + 1)
              .waitLocalDisk "WAIT_LOCAL_DISK"
              (text
                "local runtime root is below required free disk floor")
          else runAdmitted context checkpoint

/-- `dispatch_next`. -/
def dispatchNext (context : DispatchContext) (maxQueued : Int) :
    Action (Option SchedulerTerminalReceipt) := do
  if maxQueued < 0 then
    throw (raised .schedulerError "max_queued must be non-negative")
  let busy ← observe fun state => sortedFiles state.running
  if busy ≠ [] then pure none
  else
    match ← nextQueuedPath with
    | none => pure none
    | some queuedPath =>
        let checkpoint ← readFile State.queued queuedPath
        let running : RuntimeRunCheckpoint :=
          { request := checkpoint.request
            status := .running
            generation := checkpoint.generation + 1
            sequence := checkpoint.sequence
            inputDigest := checkpoint.inputDigest }
        let requestId := running.request.requestId
        replaceQueuedByRunning queuedPath requestId
        atomicWriteJson running.toDict fun state =>
          state.putRunning requestId running
        let terminal ← dispatchRunning context running
        update fun state => state.dropRunning requestId
        update fun state => state.dropCancel requestId
        pure (some terminal)

/-- `submit_and_dispatch_once`. -/
def submitAndDispatchOnce
    (request : RuntimeRunRequest) (context : DispatchContext)
    (maxQueued : Int) : Action SchedulerTerminalReceipt := do
  match ← recordedSubmit request maxQueued with
  | .terminal receipt => pure receipt
  | .checkpoint _ =>
      match ← dispatchNext context maxQueued with
      | some terminal => pure terminal
      | none =>
          throw (raised .schedulerError
            "dispatch did not produce a terminal receipt")

/-! ## The interface -/

/-- The operations of the scheduler with their arguments. -/
inductive Operation where
  | submit (request : RuntimeRunRequest) (maxQueued : Int)
  | cancelRequest (requestId : Text)
  | recoverInterrupted
  | dispatchNext (context : DispatchContext) (maxQueued : Int)
  | submitAndDispatchOnce
      (request : RuntimeRunRequest) (context : DispatchContext)
      (maxQueued : Int)

/-- What an operation returns. -/
def Operation.Result : Operation → Type
  | .submit _ _ => Outcome
  | .cancelRequest _ => Outcome
  | .recoverInterrupted => List RuntimeRunCheckpoint
  | .dispatchNext _ _ => Option SchedulerTerminalReceipt
  | .submitAndDispatchOnce _ _ _ => SchedulerTerminalReceipt

def code : (operation : Operation) → Action operation.Result
  | .submit request maxQueued => recordedSubmit request maxQueued
  | .cancelRequest requestId => cancelRequest requestId
  | .recoverInterrupted => recoverInterrupted
  | .dispatchNext context maxQueued => dispatchNext context maxQueued
  | .submitAndDispatchOnce request context maxQueued =>
      submitAndDispatchOnce request context maxQueued

end ScientificResourceLab.Scheduler
