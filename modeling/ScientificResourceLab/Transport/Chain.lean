import Mathlib.Order.Lattice.Nat
import ScientificResourceLab.Transport.Imports
import ScientificResourceLab.Transport.Signers

/-!
# The signature chain

One sender queues messages with default arguments, so that the signatures are
numbered consecutively and each names the one before it.  `ChainState` says
that the signature files are the last ones signed under their names and form
this chain.  It survives every call of the sender and of the receiver.

In such a state `_hash_chain_accepts` depends only on the order of signing:
`Follows` is the condition under which it accepts a queued message.
-/

namespace ScientificResourceLab.Transport

open Python Contracts Steps
open Steps.Program (observe inspect update compute Safe)

/-! ## The order of signing -/

/-- The last signature file under a name. -/
def lastSigned (name : Text) : List SignedFile → Option SignedFile
  | [] => none
  | file :: earlier =>
      if file.name = name then some file else lastSigned name earlier

/-- Its number in the order of signing, from 1; 0 if there is none. -/
def place (name : Text) : List SignedFile → Nat
  | [] => 0
  | file :: earlier =>
      if file.name = name then earlier.length + 1 else place name earlier

/-- The ref of the newest signature file. -/
def newestRef (signed : List SignedFile) : Option Text :=
  signed.head?.map fun file => fileRef file.data

theorem lastSigned_eq_some
    {name : Text} {signed : List SignedFile} {file : SignedFile}
    (last : lastSigned name signed = some file) :
    file.name = name ∧ ∃ newer earlier, signed = newer ++ file :: earlier ∧
      place name signed = earlier.length + 1 := by
  induction signed with
  | nil => cases last
  | cons first earlier induction =>
      rw [lastSigned] at last
      rw [place]
      split_ifs at last ⊢ with same
      · rw [Option.some.injEq] at last
        subst last
        exact ⟨same, [], earlier, rfl, rfl⟩
      · obtain ⟨isName, newer, rest, rfl, isPlace⟩ := induction last
        exact ⟨isName, first :: newer, rest, rfl, isPlace⟩

theorem place_le_length (name : Text) (signed : List SignedFile) :
    place name signed ≤ signed.length := by
  induction signed with
  | nil => exact le_rfl
  | cons file earlier induction =>
      rw [place, List.length_cons]
      split_ifs
      · exact le_rfl
      · exact le_trans induction (Nat.le_succ _)

theorem isObjectId_of_newestRef
    (signed : List SignedFile) (ref : Text)
    (isRef : newestRef signed = some ref) : isObjectId ref = true := by
  obtain ⟨file, -, rfl⟩ := Option.map_eq_some_iff.mp isRef
  exact isObjectId_sha256 _

/-! ## Chains -/

section

variable (authority : Authority)

/-- A signature file that continues the chain of the earlier ones. -/
def Continues (file : SignedFile) (earlier : List SignedFile) : Prop :=
  ∃ messageId signature, Checked file.message messageId ∧
    file.name = filename messageId ∧
    authority.signer file.message (earlier.length + 1)
      (newestRef earlier) = .ok signature ∧
    dumps (.obj signature.toDict) = .ok file.data

/-- Each signature file continues the chain of those before it. -/
def SignedChain : List SignedFile → Prop
  | [] => True
  | file :: earlier => Continues authority file earlier ∧ SignedChain earlier

/-- The signature files are the chain, and imported messages are in it. -/
structure Linked (state : State) : Prop where
  chain : SignedChain authority state.signed
  files : ∀ name, state.signatures.lookup name =
    (lastSigned name state.signed).map SignedFile.data
  importedSigned : ∀ name ∈ state.imported,
    ∃ file, lastSigned name state.signed = some file

/-- The state of a spool with one sender. -/
structure ChainState (state : State) : Prop
    extends Linked authority state where
  apart : ImportedApart state

end

variable {authority : Authority}

theorem SignedChain.suffix
    {newer earlier : List SignedFile}
    (chain : SignedChain authority (newer ++ earlier)) :
    SignedChain authority earlier := by
  induction newer with
  | nil => exact chain
  | cons file rest induction => exact induction chain.2

/-- What is read back from a signature file of the chain. -/
theorem Continues.read
    {file : SignedFile} {earlier : List SignedFile}
    (continues : Continues authority file earlier) :
    ∃ messageId signature read, Checked file.message messageId ∧
      file.name = filename messageId ∧
      authority.signer file.message (earlier.length + 1)
        (newestRef earlier) = .ok signature ∧
      signature.toDict.Perm read ∧
      readJsonObject (some file.data) = .ok read ∧
      validateDetachedSignature read = .ok ⟨⟩ ∧
      sequenceFromSignature read = .ok (earlier.length + 1) ∧
      previousRefFromSignature read = .ok (newestRef earlier) := by
  obtain ⟨messageId, signature, checked, named, signed, dumped⟩ := continues
  have seals := authority.seals checked signed
  have positive : (1 : Int) ≤ earlier.length + 1 := by omega
  have same := (List.perm_insertionSort KeyLe signature.toDict).symm
  exact ⟨messageId, signature, _, checked, named, signed, same,
    readJsonObject_dumps (toDict_nodup signature) (toDict_flat signature)
      dumped,
    validateDetachedSignature_of_seals seals checked.shaped positive
      (isObjectId_of_newestRef earlier) same,
    sequenceFromSignature_of_seals seals positive same,
    previousRefFromSignature_of_seals seals
      (isObjectId_of_newestRef earlier) same⟩

/-! ## The latest signature -/

theorem skipCaught_map
    {α β : Type} {values : List α} {view : α → Except PyError β}
    (result : α → β)
    (every : ∀ value ∈ values, view value = .ok (result value)) :
    skipCaught (values.map view) = .ok (values.map result) := by
  induction values with
  | nil => rfl
  | cons value rest induction =>
      have tail := induction fun other member =>
        every other (List.mem_cons_of_mem _ member)
      rw [List.map_cons, every value List.mem_cons_self, skipCaught, tail]
      rfl

/-- The latest entry is one of the entries with the largest number. -/
theorem latestOf_spec (entries : List (Int × Text)) :
    (entries = [] ∧ latestOf entries = none) ∨
      ∃ latest ∈ entries, latestOf entries = some latest ∧
        ∀ entry ∈ entries, entry.1 ≤ latest.1 := by
  induction entries with
  | nil => exact .inl ⟨rfl, rfl⟩
  | cons entry rest induction =>
      refine .inr ?_
      rcases induction with ⟨rfl, isNone⟩ | ⟨other, isEntry, isOther, above⟩
      · refine ⟨entry, List.mem_cons_self, rfl, ?_⟩
        simp
      · simp only [latestOf, isOther]
        split_ifs with smaller
        · refine ⟨other, List.mem_cons_of_mem _ isEntry, rfl, ?_⟩
          intro candidate member
          rcases List.mem_cons.mp member with rfl | later
          · omega
          · exact above candidate later
        · refine ⟨entry, List.mem_cons_self, rfl, ?_⟩
          intro candidate member
          rcases List.mem_cons.mp member with rfl | later
          · exact le_rfl
          · have bound := above candidate later
            omega

theorem SignedChain.readLast
    {signed : List SignedFile} (chain : SignedChain authority signed)
    {name : Text} {file : SignedFile}
    (last : lastSigned name signed = some file) :
    ∃ read, readJsonObject (some file.data) = .ok read ∧
      sequenceFromSignature read = .ok (place name signed : Int) := by
  obtain ⟨-, newer, earlier, rfl, isPlace⟩ := lastSigned_eq_some last
  obtain ⟨-, -, read, -, -, -, -, isRead, -, sequence, -⟩ :=
    chain.suffix.1.read
  refine ⟨read, isRead, ?_⟩
  rw [sequence, isPlace]
  rfl

theorem newestRef_of_place
    {name : Text} {signed : List SignedFile} {file : SignedFile}
    (last : lastSigned name signed = some file)
    {newer earlier : List SignedFile} (split : signed = newer ++ earlier)
    (isLast : place name signed = earlier.length) :
    newestRef earlier = some (fileRef file.data) := by
  obtain ⟨-, before, after, isSigned, isPlace⟩ := lastSigned_eq_some last
  have sameLength : earlier.length = (file :: after).length := by
    rw [← isLast, isPlace, List.length_cons]
  obtain ⟨-, rfl⟩ := List.append_inj' (split.symm.trans isSigned) sameLength
  rfl

section

variable {state : State}

theorem Linked.signature
    (sound : Linked authority state) {name : Text} {file : SignedFile}
    (last : lastSigned name state.signed = some file) :
    state.signatures.lookup name = some file.data := by
  rw [sound.files, last]
  rfl

theorem Linked.lastSigned
    (sound : Linked authority state) {name : Text} {data : Bytes}
    (found : state.signatures.lookup name = some data) :
    ∃ file, Transport.lastSigned name state.signed = some file ∧
      file.data = data := by
  rw [sound.files] at found
  exact Option.map_eq_some_iff.mp found

/-- The signature files, as `latest_signature` sees them. -/
theorem latestSignature_of_chain (sound : ChainState authority state) :
    state.latestSignature =
      .ok (latestOf ((sortedFiles state.signatures).map fun file =>
        ((place file.1 state.signed : Int), fileRef file.2))) := by
  have entries : skipCaught ((sortedFiles state.signatures).map
      fun file => signatureEntry file.2) = .ok _ :=
    skipCaught_map (fun file =>
      ((place file.1 state.signed : Int), fileRef file.2)) ?_
  · rw [State.latestSignature, entries]
    rfl
  · intro file isFile
    obtain ⟨last, isLast, sameData⟩ :=
      sound.lastSigned (mem_sortedFiles.mp isFile)
    obtain ⟨read, isRead, sequence⟩ := sound.chain.readLast isLast
    rw [sameData] at isRead
    simp only [signatureEntry, isRead, sequence, bind_eq_ok_iff,
      Except.ok.injEq, exists_eq_left', pure_eq_ok_iff]

/-- The default predecessor of a new signature is the newest one. -/
theorem prior_of_chain (sound : ChainState authority state) :
    state.prior none =
      .ok ((state.signed.length : Int), newestRef state.signed) := by
  have newest {file : SignedFile} {earlier : List SignedFile}
      (isSigned : state.signed = file :: earlier) :
      (file.name, file.data) ∈ sortedFiles state.signatures ∧
        place file.name state.signed = state.signed.length := by
    have last : Transport.lastSigned file.name state.signed = some file := by
      rw [isSigned, Transport.lastSigned, if_pos rfl]
    refine ⟨mem_sortedFiles.mpr (sound.signature last), ?_⟩
    rw [isSigned, place, if_pos rfl, List.length_cons]
  rw [State.prior, latestSignature_of_chain sound]
  rcases latestOf_spec ((sortedFiles state.signatures).map fun file =>
      ((place file.1 state.signed : Int), fileRef file.2)) with
    ⟨empty, isNone⟩ | ⟨latest, isEntry, isLatest, above⟩
  · rw [isNone]
    cases isSigned : state.signed with
    | nil => rfl
    | cons file earlier =>
        have member := (newest isSigned).1
        rw [List.map_eq_nil_iff.mp empty] at member
        cases member
  · rw [isLatest]
    obtain ⟨file, isFile, rfl⟩ := List.mem_map.mp isEntry
    obtain ⟨last, isLast, sameData⟩ :=
      sound.lastSigned (mem_sortedFiles.mp isFile)
    have atEnd : place file.1 state.signed = state.signed.length := by
      refine le_antisymm (place_le_length _ _) ?_
      cases isSigned : state.signed with
      | nil => exact Nat.zero_le _
      | cons first earlier =>
          obtain ⟨member, isPlace⟩ := newest isSigned
          have bound := above _ (List.mem_map_of_mem member)
          simp only [Nat.cast_le] at bound
          rw [← isSigned, ← isPlace]
          exact bound
    rw [newestRef_of_place isLast (List.nil_append _).symm atEnd, atEnd,
      sameData]
    rfl

/-! ## The accept rule -/

/-- The place of the last signed message that is imported; 0 if none is. -/
def State.importedUpTo (state : State) : Nat :=
  state.imported.keys.toFinset.sup fun name => place name state.signed

/-- The message was signed right after the last signed imported one. -/
def Follows (state : State) (name : Text) : Prop :=
  place name state.signed = state.importedUpTo + 1

theorem place_le_importedUpTo
    {name : Text} {data : Bytes}
    (isImported : state.imported.lookup name = some data) :
    place name state.signed ≤ state.importedUpTo := by
  refine Finset.le_sup (f := fun name => place name state.signed) ?_
  rw [List.mem_toFinset, ← AList.mem_keys]
  exact Directory.mem_of_lookup isImported

theorem importedUpTo_le
    {bound : Nat}
    (below : ∀ name data, state.imported.lookup name = some data →
      place name state.signed ≤ bound) :
    state.importedUpTo ≤ bound := by
  refine Finset.sup_le fun name isName => ?_
  rw [List.mem_toFinset, ← AList.mem_keys,
    Directory.mem_iff_lookup] at isName
  obtain ⟨data, isImported⟩ := isName
  exact below name data isImported

/-- The imported files, as `_latest_imported_signature` sees them. -/
theorem latestImportedSignature_of_chain
    (sound : ChainState authority state) :
    state.latestImportedSignature =
      .ok (latestOf ((sortedFiles state.imported).map fun file =>
        ((place file.1 state.signed : Int),
          fileRef ((state.signatures.lookup file.1).getD [])))) := by
  have entries : skipCaught ((sortedFiles state.imported).map
      fun file => importedEntry state.signatures file.2) = .ok _ :=
    skipCaught_map (fun file => ((place file.1 state.signed : Int),
      fileRef ((state.signatures.lookup file.1).getD []))) ?_
  · rw [State.latestImportedSignature, entries]
    rfl
  · rintro ⟨name, data⟩ isFile
    have isImported := mem_sortedFiles.mp isFile
    obtain ⟨message, messageId, isRead, checked, rfl⟩ :=
      sound.apart.stored name data isImported
    obtain ⟨last, isLast⟩ := sound.importedSigned _
      (Directory.mem_of_lookup isImported)
    obtain ⟨signature, isSignature, sequence⟩ :=
      sound.chain.readLast isLast
    have named : messageIdFromMapping message = .ok messageId :=
      messageIdFromMapping_eq_ok.mpr ⟨checked.named, checked.shaped⟩
    have isName : jsonFilename messageId = .ok (filename messageId) :=
      jsonFilename_eq_ok.mpr ⟨checked.shaped, rfl⟩
    simp only [importedEntry, isRead, named, isName,
      sound.signature isLast, isSignature, sequence, bind_eq_ok_iff,
      Except.ok.injEq, exists_eq_left', pure_eq_ok_iff]

/-- `_hash_chain_accepts` compares two places in the order of signing. -/
theorem hashChainAccepts_of_chain
    (sound : ChainState authority state) {name : Text} {file : SignedFile}
    {newer earlier : List SignedFile} {signature : Members}
    (split : state.signed = newer ++ file :: earlier)
    (isPlace : place name state.signed = earlier.length + 1)
    (sequence : sequenceFromSignature signature = .ok (earlier.length + 1))
    (previous : previousRefFromSignature signature =
      .ok (newestRef earlier)) :
    ∃ accepted, state.hashChainAccepts signature = .ok accepted ∧
      (accepted = true ↔ Follows state name) := by
  simp only [State.hashChainAccepts, sequence, previous,
    latestImportedSignature_of_chain sound, bind_eq_ok_iff,
    Except.ok.injEq, exists_eq_left']
  rcases latestOf_spec ((sortedFiles state.imported).map fun file =>
      ((place file.1 state.signed : Int),
        fileRef ((state.signatures.lookup file.1).getD []))) with
    ⟨empty, isNone⟩ | ⟨latest, isEntry, isLatest, above⟩
  · have none : state.importedUpTo = 0 := by
      refine Nat.le_zero.mp (importedUpTo_le fun other data found => ?_)
      have member : (other, data) ∈ sortedFiles state.imported :=
        mem_sortedFiles.mpr found
      rw [List.map_eq_nil_iff.mp empty] at member
      cases member
    rw [isNone]
    refine ⟨_, rfl, ?_⟩
    rw [decide_eq_true_iff, Follows, none, isPlace]
    cases earlier with
    | nil => simp [newestRef]
    | cons first rest => simp [newestRef]
  · obtain ⟨⟨other, data⟩, isFile, rfl⟩ := List.mem_map.mp isEntry
    have isImported := mem_sortedFiles.mp isFile
    have upTo : state.importedUpTo = place other state.signed := by
      refine le_antisymm (importedUpTo_le fun candidate content found => ?_)
        (place_le_importedUpTo isImported)
      have member : (candidate, content) ∈ sortedFiles state.imported :=
        mem_sortedFiles.mpr found
      exact Nat.cast_le.mp (above _ (List.mem_map_of_mem member))
    obtain ⟨otherFile, isOther⟩ := sound.importedSigned other
      (Directory.mem_of_lookup isImported)
    rw [isLatest]
    refine ⟨_, rfl, ?_⟩
    rw [decide_eq_true_iff, Follows, upTo, isPlace]
    simp only [sound.signature isOther, Option.getD_some]
    constructor
    · rintro ⟨sameSequence, -⟩
      omega
    · intro isNext
      refine ⟨by omega, ?_⟩
      have splitNext : state.signed = (newer ++ [file]) ++ earlier := by
        rw [split, List.append_assoc]
        rfl
      exact newestRef_of_place isOther splitNext (by omega)

end

/-! ## The chain is kept -/

/-- Calls of one sender and of a receiver. -/
inductive OneSender (authority : Authority) : Operation → Prop where
  | queueMessage {message : Dict} :
      OneSender authority (.queueMessage authority.signer message none none)
  | receive {file : Option Bytes} {verifier : Verifier} {nowUtc : Text}
      {ttlSeconds : Int} :
      OneSender authority (.receive file verifier nowUtc ttlSeconds)

theorem lastSigned_cons
    {name : Text} {file : SignedFile} {signed : List SignedFile}
    (first : SignedFile) (last : lastSigned name signed = some file) :
    ∃ other, lastSigned name (first :: signed) = some other := by
  rw [lastSigned]
  split_ifs
  · exact ⟨first, rfl⟩
  · exact ⟨file, last⟩

theorem Linked.putSignature
    {state : State} (sound : Linked authority state)
    {message : Members} {messageId : Text} {data : Bytes}
    (continues : Continues authority
      ⟨filename messageId, message, data⟩ state.signed) :
    Linked authority
      (state.putSignature message (filename messageId) data) where
  chain := ⟨continues, sound.chain⟩
  files := by
    intro name
    rw [State.putSignature, Transport.lastSigned]
    split_ifs with same
    · rw [← same]
      exact AList.lookup_insert _
    · rw [AList.lookup_insert_ne (Ne.symm same)]
      exact sound.files name
  importedSigned := by
    intro name isImported
    obtain ⟨file, last⟩ := sound.importedSigned name isImported
    exact lastSigned_cons _ last

/-- An imported message was found signed. -/
theorem Linked.putImported
    {state : State} (sound : Linked authority state)
    {name : Text} {data : Bytes} {file : SignedFile}
    (last : Transport.lastSigned name state.signed = some file) :
    Linked authority (state.putImported name data) where
  chain := sound.chain
  files := sound.files
  importedSigned := by
    intro other isImported
    rcases (AList.mem_insert _).mp isImported with rfl | earlier
    · exact ⟨file, last⟩
    · exact sound.importedSigned other earlier

/-- The calls of one sender and of a receiver keep the chain. -/
theorem chainState_call
    (call : Call Operation) (start : State)
    (honest : OneSender authority call.operation)
    (sound : ChainState authority start) :
    ChainState authority (call.after code start) := by
  -- A file that was signed at the start stays signed during the call.
  suffices kept : Linked authority (call.after code start) ∧
      ∀ name file, lastSigned name start.signed = some file →
        ∃ other, lastSigned name (call.after code start).signed =
          some other from
    ⟨kept.1, importedApart_call call start sound.apart⟩
  refine call_keeps (fun state => Linked authority state ∧
      ∀ name file, lastSigned name start.signed = some file →
        ∃ other, lastSigned name state.signed = some other) ?_
    ⟨sound.toLinked, fun _ file last => ⟨file, last⟩⟩
  rintro before after step ⟨linked, signed⟩
  generalize call.operation = operation at honest step
  cases honest with
  | queueMessage =>
      cases step with
      | queue => exact ⟨⟨linked.chain, linked.files,
          linked.importedSigned⟩, signed⟩
      | sign first checked follows isSigned written =>
          rw [prior_of_chain sound, Except.ok.injEq] at follows
          subst follows
          refine ⟨linked.putSignature ?_, fun name file last => ?_⟩
          · rw [first]
            exact ⟨_, _, checked, rfl, isSigned, written⟩
          · obtain ⟨other, isOther⟩ := signed name file last
            exact lastSigned_cons _ isOther
  | receive =>
      cases step with
      | quarantine | deadLetter | acknowledge _ _ _ _ _ =>
          exact ⟨⟨linked.chain, linked.files, linked.importedSigned⟩,
            signed⟩
      | store chosen written =>
          cases admits_of_verdict chosen written with
          | receive _ _ _ isSigned _ _ _ _ _ _ =>
          obtain ⟨_, isFile, _⟩ := readJsonObject_eq_ok
            (decodeSignature_eq_ok.mp isSigned).1
          obtain ⟨file, last, -⟩ := sound.lastSigned isFile
          obtain ⟨other, isOther⟩ := signed _ file last
          exact ⟨linked.putImported isOther, signed⟩

theorem chainState_empty : ChainState authority State.empty where
  chain := trivial
  files := fun _ => rfl
  importedSigned := by
    rintro name ⟨⟩
  apart := importedApart_empty

end ScientificResourceLab.Transport
