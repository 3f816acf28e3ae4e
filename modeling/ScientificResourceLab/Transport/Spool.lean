import ScientificResourceLab.Transport.Messages
import ScientificResourceLab.Steps.Directory
import ScientificResourceLab.Steps.History

/-!
# The local spool

The operations of `SpoolRoot` as programs of atomic steps on its directories.
A directory holds the bytes of its files under their names; a file is put in
place by the one step of `os.replace`, and `tmp/` is not represented.  The
methods that only read are functions of the state.

`receive` is given the content of the message file, or none if the file
cannot be read.  Signers and verifiers are arguments, as in the source.  All
of its checks come before its first write, so it is split into the choice of
an exit, `verdict`, and the writes of that exit, `perform`.

The state has one history variable: the signature files that
`queue_message` wrote, the newest first, each with the message it signs.
-/

namespace ScientificResourceLab.Transport

open Python Contracts Steps
open Steps.Program (observe inspect update compute)

/-- A signature file that `queue_message` wrote. -/
structure SignedFile where
  name : Text
  message : Members
  data : Bytes

/-- The directories of a spool. -/
structure State where
  queued : Directory Text Bytes
  imported : Directory Text Bytes
  acks : Directory Text Bytes
  quarantine : Directory Text Bytes
  dlq : Directory Text Bytes
  signatures : Directory Text Bytes
  signed : List SignedFile

/-- An initialised spool. -/
def State.empty : State where
  queued := ∅
  imported := ∅
  acks := ∅
  quarantine := ∅
  dlq := ∅
  signatures := ∅
  signed := []

/-- Code of the spool. -/
abbrev Action := Program State PyError

/-! ## Files -/

def State.putQueued (state : State) (name : Text) (data : Bytes) : State :=
  { state with queued := state.queued.insert name data }

def State.putImported (state : State) (name : Text) (data : Bytes) :
    State :=
  { state with imported := state.imported.insert name data }

def State.putAck (state : State) (name : Text) (data : Bytes) : State :=
  { state with acks := state.acks.insert name data }

def State.putQuarantine (state : State) (name : Text) (data : Bytes) :
    State :=
  { state with quarantine := state.quarantine.insert name data }

def State.putDlq (state : State) (name : Text) (data : Bytes) : State :=
  { state with dlq := state.dlq.insert name data }

/-- A signature file written by `queue_message`. -/
def State.putSignature (message : Members) (state : State) (name : Text)
    (data : Bytes) : State :=
  { state with
    signatures := state.signatures.insert name data
    signed := ⟨name, message, data⟩ :: state.signed }

/-- `_atomic_write_json` to the file of an object. -/
def atomicWriteJson
    (put : State → Text → Bytes → State)
    (objectRef : Text)
    (payload : Members) : Action PUnit := do
  let name ← compute (jsonFilename objectRef)
  let data ← compute (dumps (.obj payload))
  update fun state => put state name data

/-- The files of a directory in the order of their names. -/
def sortedFiles (directory : Directory Text Bytes) :
    List (Text × Bytes) :=
  (directory.entries.map fun entry => (entry.1, entry.2)).insertionSort
    KeyLe

/-- `except (ContractError, OSError)`. -/
def caught (error : PyError) : Bool :=
  error.kind.isContractError || error.kind.isOsError

/-- The results of a loop body that skips the errors it catches. -/
def skipCaught {α : Type} : List (Except PyError α) →
    Except PyError (List α)
  | [] => .ok []
  | .ok value :: rest => do
      let others ← skipCaught rest
      pure (value :: others)
  | .error error :: rest =>
      if caught error then skipCaught rest else .error error

/-- `max(signatures, key=lambda item: (item[0], item[1]))`. -/
def latestOf : List (Int × Text) → Option (Int × Text)
  | [] => none
  | entry :: rest =>
      match latestOf rest with
      | none => some entry
      | some other =>
          if entry.1 < other.1 ∨ entry.1 = other.1 ∧ entry.2 < other.2 then
            some other
          else some entry

/-! ## Sending -/

/-- One file in `latest_signature`. -/
def signatureEntry (data : Bytes) : Except PyError (Int × Text) := do
  let payload ← readJsonObject (some data)
  let sequence ← sequenceFromSignature payload
  pure (sequence, fileRef data)

/-- `latest_signature`, as the sequence and the ref. -/
def State.latestSignature (state : State) :
    Except PyError (Option (Int × Text)) := do
  let entries ← skipCaught ((sortedFiles state.signatures).map fun file =>
    signatureEntry file.2)
  pure (latestOf entries)

/-- The sequence and the ref that a new signature follows. -/
def State.prior (state : State) (previousSignatureRef : Option Text) :
    Except PyError (Int × Option Text) :=
  match previousSignatureRef with
  | some ref => .ok (0, some ref)
  | none => do
      match ← state.latestSignature with
      | none => pure (0, none)
      | some (priorSequence, ref) => pure (priorSequence, some ref)

/-- `QueuedMessage`. -/
structure QueuedMessage where
  message : Members
  signature : Members

/-- `queue_message`. -/
def queueMessage
    (signer : Signer)
    (dict : Dict)
    (sequence : Option Int)
    (previousSignatureRef : Option Text) : Action QueuedMessage := do
  let message := dict.members
  compute (schemaValidate spoolMessageSchema message)
  let isContent ← compute (messageIdMatchesContent message)
  compute (refuseIf (isContent = false) contentMismatch)
  let messageId ← compute (messageIdFromMapping message)
  let prior ← inspect fun state => state.prior previousSignatureRef
  let signature ← compute
    (signer message (sequence.getD (prior.1 + 1)) prior.2)
  atomicWriteJson State.putQueued messageId message
  atomicWriteJson (State.putSignature message) messageId
    signature.toDict
  pure { message := message, signature := signature.toDict }

/-! ## Receiving -/

/-- `_write_ack`. -/
def writeAck (messageId : Text) (status : AckStatus) (createdUtc : Text) :
    Action Members := do
  let ack ← compute (buildAck messageId status createdUtc)
  atomicWriteJson State.putAck messageId ack
  pure ack

/-- `_quarantine_message`. -/
def quarantineMessage (message : Members) (reason : Text) :
    Action PUnit := do
  let messageId ← compute (messageIdFromMapping message)
  atomicWriteJson State.putQuarantine messageId
    (quarantineRecord messageId reason message)

/-- `_quarantine_raw`. -/
def quarantineRaw (file : Option Bytes) (reason : Text) :
    Action PUnit :=
  let rawId := fileRef (file.getD [])
  atomicWriteJson State.putQuarantine rawId
    (rawQuarantineRecord rawId reason)

/-- `_dead_letter_message`. -/
def deadLetterMessage (message : Members) (reason createdUtc : Text) :
    Action Members := do
  let messageId ← compute (messageIdFromMapping message)
  let record ← compute (deadLetterRecord messageId reason createdUtc)
  atomicWriteJson State.putDlq messageId record
  pure record

/-- `imported.get(key) == message.get(key)`, where the latter is a string. -/
def sameField (key : Text) (imported message : Members) : Bool :=
  match Json.lookup key message with
  | some (.str value) => isText imported key value
  | _ => false

/-- The loop of `_is_duplicate` over the imported files. -/
def duplicateAmong (messageId : Text) (message : Members) :
    List (Text × Bytes) → Except PyError Bool
  | [] => .ok false
  | file :: rest => do
      let imported ← readJsonObject (some file.2)
      if isText imported (text "message_id") messageId ∨
          sameField (text "idempotency_key") imported message ∧
            sameField (text "payload_ref") imported message then
        pure true
      else duplicateAmong messageId message rest

/-- `_is_duplicate`. -/
def State.isDuplicate (state : State) (message : Members) :
    Except PyError Bool := do
  let messageId ← messageIdFromMapping message
  duplicateAmong messageId message (sortedFiles state.imported)

/-- One imported file in `_latest_imported_signature`. -/
def importedEntry (signatures : Directory Text Bytes) (data : Bytes) :
    Except PyError (Int × Text) := do
  let message ← readJsonObject (some data)
  let messageId ← messageIdFromMapping message
  let name ← jsonFilename messageId
  let signature ← readJsonObject (signatures.lookup name)
  let sequence ← sequenceFromSignature signature
  pure (sequence, fileRef ((signatures.lookup name).getD []))

/-- `_latest_imported_signature`, as the sequence and the ref. -/
def State.latestImportedSignature (state : State) :
    Except PyError (Option (Int × Text)) := do
  let entries ← skipCaught ((sortedFiles state.imported).map fun file =>
    importedEntry state.signatures file.2)
  pure (latestOf entries)

/-- `_hash_chain_accepts`. -/
def State.hashChainAccepts (state : State) (signature : Members) :
    Except PyError Bool := do
  let sequence ← sequenceFromSignature signature
  let previous ← previousRefFromSignature signature
  match ← state.latestImportedSignature with
  | none => pure (previous = none)
  | some (latestSequence, latestRef) =>
      pure (sequence = latestSequence + 1 ∧ previous = some latestRef)

/-- The text under a key, empty unless it is a string. -/
def textField (message : Members) (key : Text) : Text :=
  match Json.lookup key message with
  | some (.str value) => value
  | _ => []

/-- The exits of `receive`. -/
inductive Verdict where
  | malformed (error : PyError)
  | quarantined (message : Members) (messageId reason : Text)
  | duplicate (messageId : Text)
  | rejected (message : Members) (messageId : Text)
  | expired (message : Members) (messageId : Text)
  | imported (message : Members) (messageId : Text)

/-- The exit after the signature was verified. -/
def State.verifiedVerdict
    (state : State)
    (message signature : Members)
    (messageId : Text)
    (now : Nat)
    (ttlSeconds : Int) : Except PyError Verdict := do
  let duplicate ← state.isDuplicate message
  if duplicate then pure (.duplicate messageId)
  else
    let accepted ← state.hashChainAccepts signature
    if accepted = false then
      pure (.quarantined message messageId (text "hash_chain_rejected"))
    else if textField message (text "classification") ∉
        [text "D0", text "D1"] then
      pure (.rejected message messageId)
    else
      let created ← parseUtc (textField message (text "created_utc"))
      if ttlSeconds < (now : Int) - created then
        pure (.expired message messageId)
      else pure (.imported message messageId)

/-- The exit after the message was decoded. -/
def State.messageVerdict
    (state : State)
    (message : Members)
    (messageId : Text)
    (verifier : Verifier)
    (now : Nat)
    (ttlSeconds : Int) : Except PyError Verdict := do
  let name ← jsonFilename messageId
  match decodeSignature (state.signatures.lookup name) with
  | .error error =>
      if caught error then
        pure (.quarantined message messageId
          (text "missing_or_bad_signature:" ++ error.message))
      else throw error
  | .ok signature =>
      let verified ← verifier message signature
      if verified = false then
        pure (.quarantined message messageId
          (text "signature_verification_failed"))
      else
        state.verifiedVerdict message signature messageId now ttlSeconds

/-- The exit that `receive` takes on the content of the message file. -/
def State.verdict
    (state : State)
    (file : Option Bytes)
    (verifier : Verifier)
    (nowUtc : Text)
    (ttlSeconds : Int) : Except PyError Verdict := do
  let now ← parseUtc nowUtc
  refuseIf (ttlSeconds < 0)
    (raised .spoolError "ttl_seconds must be non-negative")
  match decodeMessage file with
  | .error error =>
      if caught error then pure (.malformed error) else throw error
  | .ok (message, messageId) =>
      state.messageVerdict message messageId verifier now ttlSeconds

/-- The writes of an exit, and the acknowledgement it returns. -/
def perform (file : Option Bytes) (nowUtc : Text) :
    Verdict → Action Members
  | .malformed error => do
      quarantineRaw file (text "malformed_message:" ++ error.message)
      writeAck (fileRef (file.getD [])) .quarantined nowUtc
  | .quarantined message messageId reason => do
      quarantineMessage message reason
      writeAck messageId .quarantined nowUtc
  | .duplicate messageId => compute (buildAck messageId .duplicate nowUtc)
  | .rejected message messageId => do
      quarantineMessage message (text "classification_rejected")
      writeAck messageId .rejected nowUtc
  | .expired message messageId => do
      let _ ← deadLetterMessage message (text "ttl_expired") nowUtc
      writeAck messageId .expired nowUtc
  | .imported message messageId => do
      atomicWriteJson State.putImported messageId message
      writeAck messageId .acknowledged nowUtc

/-- `receive` on the content of the message file. -/
def receive
    (file : Option Bytes)
    (verifier : Verifier)
    (nowUtc : Text)
    (ttlSeconds : Int) : Action Members := do
  let exit ← inspect fun state =>
    state.verdict file verifier nowUtc ttlSeconds
  perform file nowUtc exit

/-! ## Reconciliation -/

/-- `_message_id_for_replay`. -/
def messageIdForReplay (payload : Members) : Except PyError Text :=
  match Json.lookup (text "message_id") payload,
      Json.lookup (text "record_id") payload,
      Json.lookup (text "ack_id") payload with
  | some (.str candidate), _, _ => validateObjectId candidate
  | _, some (.str candidate), _ => validateObjectId candidate
  | _, _, some (.str candidate) => validateObjectId candidate
  | _, _, _ =>
      .error (raised .spoolError "replay payload has no object identity")

/-- The ids of replayed files. -/
def replayIds : List (Text × Bytes) → Except PyError (List Text)
  | [] => .ok []
  | file :: rest => do
      let payload ← readJsonObject (some file.2)
      let messageId ← messageIdForReplay payload
      let others ← replayIds rest
      pure (messageId :: others)

/-- The loop of `reconcile_acknowledgements`. -/
def reconcileEach (createdUtc : Text) :
    List Text → Action (List Members)
  | [] => pure []
  | messageId :: rest => do
      let name ← compute (jsonFilename messageId)
      let acked ← observe fun state => (state.acks.lookup name).isSome
      if acked then reconcileEach createdUtc rest
      else
        let ack ← writeAck messageId .acknowledged createdUtc
        let others ← reconcileEach createdUtc rest
        pure (ack :: others)

/-- `reconcile_acknowledgements`. -/
def reconcileAcknowledgements (createdUtc : Text) :
    Action (List Members) := do
  let ids ← inspect fun state => replayIds (sortedFiles state.imported)
  reconcileEach createdUtc (ids.insertionSort (· ≤ ·))

/-! ## Histories -/

/-- The calls on a spool, and changes of its signature files by others. -/
inductive Operation where
  | queueMessage (signer : Signer) (message : Dict)
      (sequence : Option Int) (previousSignatureRef : Option Text)
  | receive (file : Option Bytes) (verifier : Verifier) (nowUtc : Text)
      (ttlSeconds : Int)
  | reconcileAcknowledgements (createdUtc : Text)
  | alterSignature (name : Text) (content : Option Bytes)

/-- What an operation returns. -/
def Operation.Result : Operation → Type
  | .queueMessage _ _ _ _ => QueuedMessage
  | .receive _ _ _ _ => Members
  | .reconcileAcknowledgements _ => List Members
  | .alterSignature _ _ => PUnit

/-- A signature file that something else wrote or removed. -/
def State.alterSignature (state : State) (name : Text) :
    Option Bytes → State
  | some data =>
      { state with signatures := state.signatures.insert name data }
  | none => { state with signatures := state.signatures.erase name }

def code : (operation : Operation) → Action operation.Result
  | .queueMessage signer message sequence previousSignatureRef =>
      Transport.queueMessage signer message sequence previousSignatureRef
  | .receive file verifier nowUtc ttlSeconds =>
      Transport.receive file verifier nowUtc ttlSeconds
  | .reconcileAcknowledgements createdUtc =>
      Transport.reconcileAcknowledgements createdUtc
  | .alterSignature name content =>
      update fun state => state.alterSignature name content

end ScientificResourceLab.Transport
