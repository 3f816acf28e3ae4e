import ScientificResourceLab.Transport.Acknowledgements
import Mathlib.Data.List.Chain

/-!
# The imported messages as a hash chain

`_hash_chain_accepts` keeps no head of the chain.  It reads the signature
files of all imported messages again and compares with the latest of them.
The module shows that this suffices while no signature file is written twice:
the imported messages, in the order of their numbers, are a chain in which
every signature names the file of the one before it.

Nothing is assumed of signers and verifiers, and the sender chooses numbers
and predecessors freely.
-/

namespace ScientificResourceLab.Transport

open Python Contracts Steps
open Steps.Program (observe inspect update compute Safe)

/-- A signature file, and the number and the predecessor that it holds. -/
structure Link where
  name : Text
  data : Bytes
  sequence : Int
  previous : Option Text

/-- The number and the predecessor are those of the file in `signatures/`. -/
def State.Reads (state : State) (link : Link) : Prop :=
  state.signatures.lookup link.name = some link.data ∧
    ∃ signature, readJsonObject (some link.data) = .ok signature ∧
      sequenceFromSignature signature = .ok link.sequence ∧
      previousRefFromSignature signature = .ok link.previous

/-- A signature continues the one before it. -/
def Precedes (before link : Link) : Prop :=
  link.sequence = before.sequence + 1 ∧
    link.previous = some (fileRef before.data)

/-- The signatures of the imported messages in the order of numbers. -/
structure ImportedChain (state : State) (links : List Link) : Prop where
  names : (links.map Link.name).Perm state.imported.keys
  reads : ∀ link ∈ links, state.Reads link
  first : ∀ link ∈ links.head?, link.previous = none
  linked : links.IsChain Precedes

/-! ## The head of the chain -/

/-- The last link has the largest number. -/
theorem isChain_last
    {links : List Link} {last : Link}
    (linked : (links ++ [last]).IsChain Precedes) :
    ∀ link ∈ links, link.sequence < last.sequence := by
  have numbered : (links ++ [last]).IsChain
      fun before link => before.sequence < link.sequence := by
    refine linked.imp fun before link precedes => ?_
    rw [precedes.1]
    exact Int.lt_succ _
  have sorted : (links ++ [last]).Pairwise
      fun before link => before.sequence < link.sequence := by
    have : IsTrans Link fun before link =>
        before.sequence < link.sequence :=
      ⟨fun _ _ _ => lt_trans⟩
    exact numbered.pairwise
  intro link member
  exact (List.pairwise_append.mp sorted).2.2 link member last
    List.mem_cons_self

/-- A loop that catches nothing returns the results of its steps. -/
theorem skipCaught_of_ok
    {α β : Type} [Nonempty β] (values : List α)
    (view : α → Except PyError β)
    (every : ∀ value ∈ values, ∃ result, view value = .ok result) :
    ∃ results, skipCaught (values.map view) = .ok results ∧
      ∀ result, result ∈ results ↔
        ∃ value ∈ values, view value = .ok result := by
  choose! result isResult using every
  refine ⟨_, skipCaught_map result isResult, fun entry => ?_⟩
  rw [List.mem_map]
  constructor
  · rintro ⟨value, member, rfl⟩
    exact ⟨value, member, isResult value member⟩
  · rintro ⟨value, member, found⟩
    rw [isResult value member, Except.ok.injEq] at found
    exact ⟨value, member, found⟩

section

variable {state : State} {links : List Link}

theorem ImportedChain.link
    (chain : ImportedChain state links) {name : Text} {data : Bytes}
    (isImported : state.imported.lookup name = some data) :
    ∃ link ∈ links, link.name = name := by
  have listed : name ∈ links.map Link.name := by
    rw [chain.names.mem_iff, ← AList.mem_keys]
    exact Directory.mem_of_lookup isImported
  exact List.mem_map.mp listed

/-- What `_latest_imported_signature` reads for an imported file. -/
theorem ImportedChain.importedEntry
    (chain : ImportedChain state links) (sound : ImportedApart state)
    {link : Link} (member : link ∈ links) {data : Bytes}
    (isImported : state.imported.lookup link.name = some data) :
    Transport.importedEntry state.signatures data =
      .ok (link.sequence, fileRef link.data) := by
  obtain ⟨found, signature, isRead, sequence, -⟩ := chain.reads link member
  obtain ⟨message, messageId, readMessage, checked, named⟩ :=
    sound.stored link.name data isImported
  have isId : messageIdFromMapping message = .ok messageId :=
    messageIdFromMapping_eq_ok.mpr ⟨checked.named, checked.shaped⟩
  have isName : jsonFilename messageId = .ok link.name :=
    jsonFilename_eq_ok.mpr ⟨checked.shaped, named⟩
  simp only [Transport.importedEntry, readMessage, isId, isName, found,
    isRead, sequence, bind_eq_ok_iff, Except.ok.injEq, exists_eq_left',
    pure_eq_ok_iff, Option.getD_some]

/-- The entries of `_latest_imported_signature` are those of the links. -/
theorem ImportedChain.entries
    (chain : ImportedChain state links) (sound : ImportedApart state) :
    ∃ entries,
      state.latestImportedSignature = .ok (latestOf entries) ∧
      ∀ entry, entry ∈ entries ↔
        ∃ link ∈ links, entry = (link.sequence, fileRef link.data) := by
  obtain ⟨entries, isEntries, isEntry⟩ := skipCaught_of_ok
    (sortedFiles state.imported)
    (fun file => Transport.importedEntry state.signatures file.2)
    (by
      rintro ⟨name, data⟩ isFile
      have isImported := mem_sortedFiles.mp isFile
      obtain ⟨link, member, rfl⟩ := chain.link isImported
      exact ⟨_, chain.importedEntry sound member isImported⟩)
  refine ⟨entries, ?_, fun entry => ?_⟩
  · rw [State.latestImportedSignature, isEntries]
    rfl
  · rw [isEntry]
    constructor
    · rintro ⟨⟨name, data⟩, isFile, found⟩
      have isImported := mem_sortedFiles.mp isFile
      obtain ⟨link, member, rfl⟩ := chain.link isImported
      rw [chain.importedEntry sound member isImported,
        Except.ok.injEq] at found
      exact ⟨link, member, found.symm⟩
    · rintro ⟨link, member, rfl⟩
      have listed : link.name ∈ state.imported := by
        rw [AList.mem_keys, ← chain.names.mem_iff]
        exact List.mem_map_of_mem member
      obtain ⟨data, isImported⟩ := Directory.mem_iff_lookup.mp listed
      exact ⟨(link.name, data), mem_sortedFiles.mpr isImported,
        chain.importedEntry sound member isImported⟩

theorem ImportedChain.latest
    (chain : ImportedChain state links) (sound : ImportedApart state) :
    state.latestImportedSignature =
      .ok (links.getLast?.map fun link =>
        (link.sequence, fileRef link.data)) := by
  obtain ⟨entries, isLatest, isEntry⟩ := chain.entries sound
  rw [isLatest, Except.ok.injEq]
  rcases List.eq_nil_or_concat links with rfl | ⟨before, last, rfl⟩
  · have empty : entries = [] := by
      refine List.eq_nil_iff_forall_not_mem.mpr fun entry member => ?_
      obtain ⟨link, absent, -⟩ := (isEntry entry).mp member
      cases absent
    rw [empty]
    rfl
  · rw [List.concat_eq_append] at chain isEntry ⊢
    have isLast : (last.sequence, fileRef last.data) ∈ entries :=
      (isEntry _).mpr ⟨last, List.mem_append_right _ List.mem_cons_self,
        rfl⟩
    rcases latestOf_spec entries with ⟨rfl, -⟩ |
      ⟨latest, member, found, above⟩
    · cases isLast
    · obtain ⟨link, isLink, rfl⟩ := (isEntry latest).mp member
      rw [found, List.getLast?_append, List.getLast?_singleton,
        Option.some_or, Option.map_some]
      rcases List.mem_append.mp isLink with earlier | isSelf
      · have larger := isChain_last chain.linked link earlier
        have bound := above _ isLast
        exact absurd larger (not_lt.mpr bound)
      · rw [List.mem_singleton.mp isSelf]

/-! ## Steps -/

/-- The chain is read from two directories. -/
theorem ImportedChain.congr
    (chain : ImportedChain state links) {after : State}
    (imported : after.imported = state.imported)
    (signatures : after.signatures = state.signatures) :
    ImportedChain after links where
  names := by
    rw [imported]
    exact chain.names
  reads link member := by
    rw [State.Reads, signatures]
    exact chain.reads link member
  first := chain.first
  linked := chain.linked

/-- The chain does not look at other signature files. -/
theorem ImportedChain.putSignature
    (chain : ImportedChain state links) (message : Members) {name : Text}
    {data : Bytes} (absent : name ∉ state.imported) :
    ImportedChain (state.putSignature message name data) links where
  names := chain.names
  reads link member := by
    obtain ⟨found, rest⟩ := chain.reads link member
    refine ⟨Directory.lookup_insert_eq_some.mpr (.inr ⟨?_, found⟩), rest⟩
    rintro rfl
    rw [AList.mem_keys, ← chain.names.mem_iff] at absent
    exact absent (List.mem_map_of_mem member)
  first := chain.first
  linked := chain.linked

theorem ImportedChain.next
    (chain : ImportedChain state links) (sound : ImportedApart state)
    {name : Text} {signature : Members}
    (signed : decodeSignature (state.signatures.lookup name) =
      .ok signature)
    (accepted : state.hashChainAccepts signature = .ok true) :
    ∃ link, link.name = name ∧ state.Reads link ∧
      (links = [] → link.previous = none) ∧
      ∀ last ∈ links.getLast?, Precedes last link := by
  obtain ⟨isRead, -⟩ := decodeSignature_eq_ok.mp signed
  obtain ⟨data, isFile, -⟩ := readJsonObject_eq_ok isRead
  simp only [State.hashChainAccepts, chain.latest sound, bind_eq_ok_iff,
    Except.ok.injEq, exists_eq_left'] at accepted
  obtain ⟨sequence, isSequence, previous, isPrevious, accepted⟩ := accepted
  rw [isFile] at isRead
  refine ⟨⟨name, data, sequence, previous⟩, rfl,
    ⟨isFile, signature, isRead, isSequence, isPrevious⟩, ?_, ?_⟩
  · rintro rfl
    simpa using accepted
  · intro last isLast
    rw [Option.mem_def.mp isLast] at accepted
    simpa [Precedes] using accepted

/-- An imported message is the next link. -/
theorem ImportedChain.putImported
    (chain : ImportedChain state links) {name : Text} {data : Bytes}
    (absent : name ∉ state.imported) {link : Link}
    (named : link.name = name) (reads : state.Reads link)
    (first : links = [] → link.previous = none)
    (follows : ∀ last ∈ links.getLast?, Precedes last link) :
    ImportedChain (state.putImported name data) (links ++ [link]) where
  names := by
    rw [List.map_append, List.map_singleton, named]
    refine List.perm_append_singleton _ _ |>.trans ?_
    change List.Perm _ (state.imported.insert name data).keys
    rw [Directory.keys_insert_of_not_mem absent]
    exact chain.names.cons name
  reads other member := by
    rcases List.mem_append.mp member with earlier | isLink
    · exact chain.reads other earlier
    · rw [List.mem_singleton.mp isLink]
      exact reads
  first other isHead := by
    cases links with
    | nil =>
        cases isHead
        exact first rfl
    | cons head rest => exact chain.first other isHead
  linked := by
    refine List.isChain_append.mpr ⟨chain.linked, .singleton _, ?_⟩
    intro last isLast other isOther
    cases isOther
    exact follows last isLast

end

/-! ## Histories -/

def Operation.queuedId : Operation → Option Text
  | .queueMessage _ message _ _ =>
      match Json.lookup (text "message_id") message.members with
      | some (.str messageId) => some messageId
      | _ => none
  | _ => none

/-- The ids of the messages that a history queues, in order. -/
def queuedIds (calls : List (Call Operation)) : List Text :=
  calls.filterMap fun call => call.operation.queuedId

/-- The operations of the spool itself. -/
def Operation.IsSpool : Operation → Prop
  | .alterSignature _ _ => False
  | _ => True

/-- Signature files belong to messages that were queued. -/
def SignedIds (ids : List Text) (state : State) : Prop :=
  ∀ name ∈ state.signatures,
    ∃ messageId ∈ ids, isObjectId messageId = true ∧
      name = filename messageId

/-- What a receiver does to the two directories. -/
theorem imported_after_receive
    {call : Call Operation} {file : Option Bytes} {verifier : Verifier}
    {nowUtc : Text} {ttlSeconds : Int} (start : State)
    (isReceive : call.operation =
      .receive file verifier nowUtc ttlSeconds) :
    (call.after code start).signatures = start.signatures ∧
    ((call.after code start).imported = start.imported ∨
      ∃ message messageId data,
        start.verdict file verifier nowUtc ttlSeconds =
          .ok (.imported message messageId) ∧
        dumps (.obj message) = .ok data ∧
        (call.after code start).imported =
          start.imported.insert (filename messageId) data) := by
  refine call_keeps (fun after => after.signatures = start.signatures ∧
    (after.imported = start.imported ∨
      ∃ message messageId data,
        start.verdict file verifier nowUtc ttlSeconds =
          .ok (.imported message messageId) ∧
        dumps (.obj message) = .ok data ∧
        after.imported =
          start.imported.insert (filename messageId) data)) ?_
    ⟨rfl, .inl rfl⟩
  rintro before after step ⟨signatures, imported⟩
  rw [isReceive] at step
  cases step with
  | quarantine | deadLetter | acknowledge _ _ _ _ _ =>
      exact ⟨signatures, imported⟩
  | @store _ _ _ _ _ message messageId data chosen written =>
      refine ⟨signatures, .inr ⟨message, messageId, data, chosen, written,
        ?_⟩⟩
      rcases imported with same | ⟨other, otherId, content, chosenOther,
        writtenOther, inserted⟩
      · rw [State.putImported, same]
      · rw [chosen] at chosenOther
        cases chosenOther
        rw [State.putImported, inserted, AList.insert_insert]

theorem imported_after_reconcile
    {call : Call Operation} {createdUtc : Text} (start : State)
    (isReconcile : call.operation =
      .reconcileAcknowledgements createdUtc) :
    (call.after code start).signatures = start.signatures ∧
      (call.after code start).imported = start.imported := by
  refine call_keeps (fun after => after.signatures = start.signatures ∧
    after.imported = start.imported) ?_ ⟨rfl, rfl⟩
  intro before after step same
  rw [isReconcile] at step
  cases step with
  | reconcile _ _ _ _ => exact same

/-- A sender adds at most the signature file of its message. -/
theorem signatures_after_queue
    {call : Call Operation} {signer : Signer} {message : Dict}
    {sequence : Option Int} {previousSignatureRef : Option Text}
    (start : State)
    (isQueue : call.operation =
      .queueMessage signer message sequence previousSignatureRef) :
    (call.after code start).imported = start.imported ∧
    ((call.after code start).signatures = start.signatures ∨
      ∃ messageId data, Checked message.members messageId ∧
        (call.after code start).signatures =
          start.signatures.insert (filename messageId) data) := by
  refine call_keeps (fun after => after.imported = start.imported ∧
    (after.signatures = start.signatures ∨
      ∃ messageId data, Checked message.members messageId ∧
        after.signatures =
          start.signatures.insert (filename messageId) data)) ?_
    ⟨rfl, .inl rfl⟩
  rintro before after step ⟨imported, signatures⟩
  rw [isQueue] at step
  cases step with
  | queue => exact ⟨imported, signatures⟩
  | @sign _ _ _ _ _ messageId _ _ data first checked follows signed
      written =>
      refine ⟨imported, .inr ⟨messageId, data, checked, ?_⟩⟩
      rcases signatures with same | ⟨otherId, content, checkedOther,
        inserted⟩
      · rw [State.putSignature, same]
      · have sameId := checked.named.symm.trans checkedOther.named
        rw [Option.some.injEq, Json.str.injEq] at sameId
        rw [State.putSignature, inserted, ← sameId, AList.insert_insert]

theorem queuedId_of_checked
    {signer : Signer} {message : Dict} {sequence : Option Int}
    {previousSignatureRef : Option Text} {messageId : Text}
    (checked : Checked message.members messageId) :
    (Operation.queueMessage signer message sequence
      previousSignatureRef).queuedId = some messageId := by
  simp only [Operation.queuedId, checked.named]

/-- The file of a message that was not queued belongs to no one. -/
theorem SignedIds.not_mem
    {ids : List Text} {state : State} (signed : SignedIds ids state)
    {messageId : Text} (shaped : isObjectId messageId = true)
    (unqueued : messageId ∉ ids) :
    filename messageId ∉ state.signatures := by
  intro present
  obtain ⟨otherId, isOther, otherShaped, same⟩ := signed _ present
  rw [filename_injective shaped otherShaped same] at unqueued
  exact unqueued isOther

/-- Signature files appear only for messages that a call queues. -/
theorem signedIds_call
    {call : Call Operation} {start : State} {ids : List Text}
    (isSpool : call.operation.IsSpool) (signed : SignedIds ids start) :
    SignedIds (ids ++ call.operation.queuedId.toList)
      (call.after code start) := by
  have kept : SignedIds (ids ++ call.operation.queuedId.toList) start := by
    intro name present
    obtain ⟨messageId, isId, rest⟩ := signed name present
    exact ⟨messageId, List.mem_append_left _ isId, rest⟩
  cases isOperation : call.operation with
  | queueMessage signer message sequence previousSignatureRef =>
      rw [isOperation] at kept
      rcases (signatures_after_queue start isOperation).2 with
        same | ⟨messageId, data, checked, inserted⟩
      · rw [SignedIds, same]
        exact kept
      · rw [SignedIds, inserted]
        intro name present
        rcases (AList.mem_insert _).mp present with rfl | earlier
        · refine ⟨messageId, ?_, checked.shaped, rfl⟩
          rw [queuedId_of_checked checked]
          exact List.mem_append_right _ List.mem_cons_self
        · exact kept name earlier
  | receive file verifier nowUtc ttlSeconds =>
      rw [isOperation] at kept
      rw [SignedIds, (imported_after_receive start isOperation).1]
      exact kept
  | reconcileAcknowledgements createdUtc =>
      rw [isOperation] at kept
      rw [SignedIds, (imported_after_reconcile start isOperation).1]
      exact kept
  | alterSignature name content =>
      rw [isOperation] at isSpool
      exact isSpool.elim

/-- A call keeps the chain unless it queues a message a second time. -/
theorem importedChain_call
    {call : Call Operation} {start : State} {ids : List Text}
    (isSpool : call.operation.IsSpool)
    (unqueued : ∀ messageId ∈ call.operation.queuedId, messageId ∉ ids)
    (apart : ImportedApart start) (signed : SignedIds ids start)
    {links : List Link} (chain : ImportedChain start links) :
    ∃ later, ImportedChain (call.after code start) later := by
  cases isOperation : call.operation with
  | queueMessage signer message sequence previousSignatureRef =>
      obtain ⟨imported, same | ⟨messageId, data, checked, inserted⟩⟩ :=
        signatures_after_queue start isOperation
      · exact ⟨links, chain.congr imported same⟩
      · have isNew : messageId ∉ ids := by
          refine unqueued messageId ?_
          rw [isOperation, queuedId_of_checked checked]
          rfl
        have absent : filename messageId ∉ start.imported := by
          intro present
          obtain ⟨content, isImported⟩ :=
            Directory.mem_iff_lookup.mp present
          obtain ⟨link, member, named⟩ := chain.link isImported
          refine signed.not_mem checked.shaped isNew ?_
          rw [← named]
          exact Directory.mem_of_lookup (chain.reads link member).1
        exact ⟨links, (chain.putSignature message.members absent).congr
          imported inserted⟩
  | receive file verifier nowUtc ttlSeconds =>
      obtain ⟨signatures, same | ⟨message, messageId, data, chosen,
        written, inserted⟩⟩ := imported_after_receive start isOperation
      · exact ⟨links, chain.congr same signatures⟩
      · obtain ⟨_, _, signature, -, -, -, -, isSigned, -, -, accepted, -⟩ :=
          verdict_eq_imported_iff.mp chosen
        obtain ⟨link, named, reads, first, follows⟩ :=
          chain.next apart isSigned accepted
        have absent :=
          ((admits_of_verdict chosen written).apart apart).2
        exact ⟨links ++ [link], (chain.putImported absent named reads
          first follows).congr inserted signatures⟩
  | reconcileAcknowledgements createdUtc =>
      obtain ⟨signatures, imported⟩ :=
        imported_after_reconcile start isOperation
      exact ⟨links, chain.congr imported signatures⟩
  | alterSignature name content =>
      rw [isOperation] at isSpool
      exact isSpool.elim

theorem queuedIds_append_singleton
    (calls : List (Call Operation)) (call : Call Operation) :
    queuedIds (calls ++ [call]) =
      queuedIds calls ++ call.operation.queuedId.toList := by
  rw [queuedIds, List.filterMap_append, queuedIds]
  cases isQueued : call.operation.queuedId with
  | none => simp [isQueued]
  | some messageId => simp [isQueued]

/--
After every history of calls on one spool, each complete or cut, in which no
message id is queued twice and no one else writes signature files: the
signatures of the imported messages are a hash chain.
-/
theorem imported_hash_chain
    (calls : List (Call Operation))
    (spool : ∀ call ∈ calls, call.operation.IsSpool)
    (once : (queuedIds calls).Nodup) :
    ∃ links, ImportedChain (afterCalls code calls State.empty) links := by
  suffices both : SignedIds (queuedIds calls)
        (afterCalls code calls State.empty) ∧
      ∃ links, ImportedChain (afterCalls code calls State.empty) links from
    both.2
  induction calls using List.reverseRecOn with
  | nil =>
      refine ⟨fun name present => ?_, [], ?_, ?_, ?_, .nil⟩
      · cases present
      · exact .refl _
      · simp
      · simp
  | append_singleton before call induction =>
      rw [queuedIds_append_singleton] at once ⊢
      obtain ⟨onceBefore, -, apartIds⟩ := List.nodup_append.mp once
      obtain ⟨signed, links, chain⟩ := induction
        (fun other member => spool other (List.mem_append_left _ member))
        onceBefore
      have isSpool := spool call (List.mem_append_right _ (by simp))
      have unqueued : ∀ messageId ∈ call.operation.queuedId,
          messageId ∉ queuedIds before := by
        intro messageId isQueued earlier
        exact apartIds messageId earlier messageId
          (Option.mem_toList.mpr isQueued) rfl
      rw [afterCalls_append]
      exact ⟨signedIds_call isSpool signed,
        importedChain_call isSpool unqueued
          (importedApart_afterCalls before) signed chain⟩

/-- The message of the tests, queued and imported. -/
theorem imported_hash_chain_fixture :
    ∃ (calls : List (Call Operation)) (messageId : Text)
      (links : List Link),
      Settled messageId (afterCalls code calls State.empty) ∧
      ImportedChain (afterCalls code calls State.empty) links := by
  obtain ⟨message, messageId, file, read, signature, state, -, -, rfl, -,
    -, settled⟩ := fixture_settles
  obtain ⟨links, chain⟩ := imported_hash_chain
    ([.queue message,
      .deliver (some file) (text "2026-07-29T00:00:10Z") 60].map
        (Event.call fixtureSigner.authority))
    (by simp [Event.call, Call.operation, Operation.IsSpool])
    (by
      simp only [queuedIds, List.map_cons, List.map_nil, Event.call,
        Call.operation, List.filterMap_cons, List.filterMap_nil]
      cases Operation.queuedId (.queueMessage
        fixtureSigner.authority.signer message none none) with
      | none => exact List.nodup_nil
      | some queued => exact List.nodup_singleton queued)
  exact ⟨_, messageId, links, settled, chain⟩

end ScientificResourceLab.Transport
