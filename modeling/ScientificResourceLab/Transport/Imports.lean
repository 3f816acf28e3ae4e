import ScientificResourceLab.Transport.FileSteps

/-!
# Messages are imported once

`Admits` lists the checks that a message passes in the call that imports it.
A call changes `inbox/imported` by at most one admitted file, whether it runs
to its end or is cut after any of its writes, and the duplicate test keeps the
imported messages apart by their ids and by their pairs of idempotency key and
payload.
-/

namespace ScientificResourceLab.Transport

open Python Contracts Steps
open Steps.Program (observe inspect update compute Safe)

/-! ## Admission -/

/-- The operation is a `receive` whose checks the message passed. -/
inductive Admits (state : State) (name : Text) (data : Bytes) :
    Operation → Prop where
  | receive
      {file : Option Bytes} {verifier : Verifier} {nowUtc : Text}
      {ttlSeconds : Int} {message signature : Members} {messageId : Text}
      {now created : Nat}
      (read : readJsonObject file = .ok message)
      (checked : Checked message messageId)
      (named : name = filename messageId)
      (signed : decodeSignature (state.signatures.lookup name) =
        .ok signature)
      (verified : verifier message signature = .ok true)
      (unique : state.isDuplicate message = .ok false)
      (isNow : parseUtc nowUtc = .ok now)
      (isCreated :
        parseUtc (textField message (text "created_utc")) = .ok created)
      (fresh : (now : Int) - created ≤ ttlSeconds)
      (written : dumps (.obj message) = .ok data) :
      Admits state name data (.receive file verifier nowUtc ttlSeconds)

/-- At most one admitted file was added to the imported ones. -/
def ImportsBy (operation : Operation) (before after : State) : Prop :=
  after.imported = before.imported ∨
    ∃ name data, Admits before name data operation ∧
      after.imported = before.imported.insert name data

/-- The exit that imports a message comes after every check. -/
theorem admits_of_verdict
    {state : State} {file : Option Bytes} {verifier : Verifier}
    {nowUtc : Text} {ttlSeconds : Int} {message : Members}
    {messageId : Text} {data : Bytes}
    (chosen : state.verdict file verifier nowUtc ttlSeconds =
      .ok (.imported message messageId))
    (written : dumps (.obj message) = .ok data) :
    Admits state (filename messageId) data
      (.receive file verifier nowUtc ttlSeconds) := by
  obtain ⟨now, created, signature, isNow, -, read, checked, signed,
    verified, unique, -, -, isCreated, fresh⟩ :=
    verdict_eq_imported_iff.mp chosen
  exact .receive read checked rfl signed verified unique isNow isCreated
    fresh written

/-- An operation admits one file. -/
theorem Admits.unique
    {state : State} {operation : Operation} {name other : Text}
    {data content : Bytes} (admits : Admits state name data operation)
    (admitsOther : Admits state other content operation) :
    name = other ∧ data = content := by
  cases admits with
  | receive read checked named signed verified unique isNow isCreated
      fresh written =>
      cases admitsOther with
      | receive readOther checkedOther namedOther _ _ _ _ _ _
          writtenOther =>
          rw [read, Except.ok.injEq] at readOther
          subst readOther
          have sameId := checked.named.symm.trans checkedOther.named
          rw [Option.some.injEq, Json.str.injEq] at sameId
          rw [written, Except.ok.injEq] at writtenOther
          rw [named, namedOther, sameId]
          exact ⟨rfl, writtenOther⟩

/-- A call, complete or cut, imports at most the file it admits. -/
theorem call_imports (call : Call Operation) (start : State) :
    ImportsBy call.operation start (call.after code start) := by
  refine call_keeps (ImportsBy call.operation start) ?_ (.inl rfl)
  intro before after step imports
  generalize call.operation = operation at step imports
  cases step with
  | queue | sign _ _ _ _ _ | quarantine | deadLetter
  | acknowledge _ _ _ _ _ | reconcile _ _ _ _ => exact imports
  | @alter name content =>
      cases content with
      | none => exact imports
      | some data => exact imports
  | store chosen written =>
      have admits := admits_of_verdict chosen written
      rcases imports with same | ⟨name, data, earlier, inserted⟩
      · exact .inr ⟨_, _, admits, by rw [State.putImported, same]⟩
      · obtain ⟨rfl, rfl⟩ := earlier.unique admits
        refine .inr ⟨_, _, admits, ?_⟩
        rw [State.putImported, inserted, AList.insert_insert]

/-! ## Duplicates -/

theorem mem_sortedFiles
    {directory : Directory Text Bytes} {file : Text × Bytes} :
    file ∈ sortedFiles directory ↔
      directory.lookup file.1 = some file.2 := by
  rw [sortedFiles, List.mem_insertionSort, List.mem_map,
    ← Option.mem_def, AList.mem_lookup_iff]
  constructor
  · rintro ⟨entry, isEntry, rfl⟩
    exact isEntry
  · intro isEntry
    exact ⟨_, isEntry, rfl⟩

theorem duplicateAmong_eq_false
    {messageId : Text} {message : Members} {files : List (Text × Bytes)}
    (unique : duplicateAmong messageId message files = .ok false) :
    ∀ file ∈ files, ∃ imported,
      readJsonObject (some file.2) = .ok imported ∧
      isText imported (text "message_id") messageId = false ∧
      ¬ (sameField (text "idempotency_key") imported message = true ∧
        sameField (text "payload_ref") imported message = true) := by
  induction files with
  | nil => simp
  | cons file rest induction =>
      simp only [duplicateAmong, bind_eq_ok_iff] at unique
      obtain ⟨imported, read, unique⟩ := unique
      split_ifs at unique with duplicate
      · cases unique
      · rw [not_or, Bool.not_eq_true] at duplicate
        rintro other member
        rcases List.mem_cons.mp member with rfl | later
        · exact ⟨imported, read, duplicate⟩
        · exact induction unique other later

theorem Checked.textAt
    {message : Members} {messageId : Text}
    (checked : Checked message messageId) (key : Text)
    (isKey : (key, PropertySchema.objectId) ∈
      spoolMessageSchema.properties) :
    ∃ value, Json.lookup key message = some (.str value) := by
  obtain ⟨value, found, accepts⟩ :=
    (accepts_eq_true_iff.mp checked.accepted).2 _ isKey
  cases value with
  | str value => exact ⟨value, found⟩
  | null | bool _ | int _ | float _ | arr _ | obj _ => cases accepts

/-! ## Imported messages stay apart -/

/-- Two messages have one idempotency key and one payload. -/
def SamePair (left right : Members) : Prop :=
  Json.lookup (text "idempotency_key") left =
      Json.lookup (text "idempotency_key") right ∧
    Json.lookup (text "payload_ref") left =
      Json.lookup (text "payload_ref") right

/-- Imported files hold checked messages under their ids, apart by pair. -/
structure ImportedApart (state : State) : Prop where
  stored : ∀ name data, state.imported.lookup name = some data →
    ∃ message messageId, readJsonObject (some data) = .ok message ∧
      Checked message messageId ∧ name = filename messageId
  apart : ∀ first second firstData secondData firstMessage secondMessage,
    state.imported.lookup first = some firstData →
    state.imported.lookup second = some secondData →
    readJsonObject (some firstData) = .ok firstMessage →
    readJsonObject (some secondData) = .ok secondMessage →
    SamePair firstMessage secondMessage → first = second

/-- An admitted message differs from every imported one. -/
theorem Admits.apart
    {state : State} {name : Text} {data : Bytes} {operation : Operation}
    (admits : Admits state name data operation)
    (sound : ImportedApart state) :
    (∃ message messageId, readJsonObject (some data) = .ok message ∧
      Checked message messageId ∧ name = filename messageId ∧
      ∀ other content imported,
        state.imported.lookup other = some content →
        readJsonObject (some content) = .ok imported →
        ¬ SamePair imported message) ∧
    name ∉ state.imported := by
  cases admits with
  | @receive _ _ _ _ message _ messageId _ _ read checked named signed
      verified unique isNow isCreated fresh written =>
      have isId : messageIdFromMapping message = .ok messageId :=
        messageIdFromMapping_eq_ok.mpr ⟨checked.named, checked.shaped⟩
      rw [State.isDuplicate, isId] at unique
      have none := duplicateAmong_eq_false unique
      obtain ⟨readBack, stillChecked⟩ := checked.read_dumps written
      have same (key : Text) :
          Json.lookup key (message.insertionSort KeyLe) =
            Json.lookup key message :=
        Json.lookup_perm (List.perm_insertionSort KeyLe message)
          stillChecked.distinct key
      refine ⟨⟨_, _, readBack, stillChecked, named, ?_⟩, ?_⟩
      · intro other content imported isImported readImported pair
        obtain ⟨found, readFound, -, differs⟩ :=
          none (other, content) (mem_sortedFiles.mpr isImported)
        rw [readImported, Except.ok.injEq] at readFound
        subst readFound
        rw [SamePair, same, same] at pair
        obtain ⟨key, isKey⟩ :=
          checked.textAt (text "idempotency_key") (by decide)
        obtain ⟨payload, isPayload⟩ :=
          checked.textAt (text "payload_ref") (by decide)
        refine differs ⟨?_, ?_⟩
        · rw [sameField, isKey]
          exact isText_eq_true.mpr (pair.1.trans isKey)
        · rw [sameField, isPayload]
          exact isText_eq_true.mpr (pair.2.trans isPayload)
      · intro present
        obtain ⟨content, isImported⟩ := Directory.mem_iff_lookup.mp present
        obtain ⟨imported, importedId, readImported, isChecked, isName⟩ :=
          sound.stored name content isImported
        obtain ⟨found, readFound, differs, -⟩ :=
          none (name, content) (mem_sortedFiles.mpr isImported)
        rw [readImported, Except.ok.injEq] at readFound
        subst readFound
        have sameId : importedId = messageId :=
          filename_injective isChecked.shaped checked.shaped
            (isName.symm.trans named)
        rw [sameId] at isChecked
        rw [isText_eq_true.mpr isChecked.named] at differs
        cases differs

/-- A call keeps the imported messages apart. -/
theorem importedApart_call
    (call : Call Operation) (start : State) (sound : ImportedApart start) :
    ImportedApart (call.after code start) := by
  rcases call_imports call start with same | ⟨name, data, admits, inserted⟩
  · rcases sound with ⟨stored, apart⟩
    rw [← same] at stored apart
    exact ⟨stored, apart⟩
  · obtain ⟨⟨message, messageId, read, checked, named, differs⟩, absent⟩ :=
      admits.apart sound
    constructor
    · intro other content isImported
      rw [inserted, Directory.lookup_insert_eq_some] at isImported
      rcases isImported with ⟨rfl, rfl⟩ | ⟨-, earlier⟩
      · exact ⟨message, messageId, read, checked, named⟩
      · exact sound.stored other content earlier
    · intro first second firstData secondData firstMessage secondMessage
        isFirst isSecond readFirst readSecond pair
      rw [inserted, Directory.lookup_insert_eq_some] at isFirst isSecond
      rcases isFirst with ⟨rfl, rfl⟩ | ⟨-, earlierFirst⟩
      · rcases isSecond with ⟨rfl, rfl⟩ | ⟨-, earlierSecond⟩
        · rfl
        · rw [read, Except.ok.injEq] at readFirst
          subst readFirst
          exact absurd ⟨pair.1.symm, pair.2.symm⟩
            (differs second secondData secondMessage earlierSecond
              readSecond)
      · rcases isSecond with ⟨rfl, rfl⟩ | ⟨-, earlierSecond⟩
        · rw [read, Except.ok.injEq] at readSecond
          subst readSecond
          exact absurd pair
            (differs first firstData firstMessage earlierFirst readFirst)
        · exact sound.apart first second firstData secondData firstMessage
            secondMessage earlierFirst earlierSecond readFirst readSecond
            pair

theorem importedApart_empty : ImportedApart State.empty where
  stored := by
    intro name data isImported
    cases isImported
  apart := by
    intro first second firstData secondData firstMessage secondMessage
      isFirst
    cases isFirst

/-- A call of the history imported the file, and admitted it. -/
def ImportedBy (calls : List (Call Operation)) (name : Text)
    (data : Bytes) : Prop :=
  ∃ (before : List (Call Operation)) (call : Call Operation)
      (after : List (Call Operation)), calls = before ++ call :: after ∧
    name ∉ (afterCalls code before State.empty).imported ∧
    Admits (afterCalls code before State.empty) name data call.operation

theorem ImportedBy.append
    {calls : List (Call Operation)} {name : Text} {data : Bytes}
    (importedBy : ImportedBy calls name data) (last : Call Operation) :
    ImportedBy (calls ++ [last]) name data := by
  obtain ⟨before, call, after, rfl, absent, admits⟩ := importedBy
  exact ⟨before, call, after ++ [last], by simp, absent, admits⟩

/-- After every history the imported messages are apart and accounted for. -/
theorem importedApart_afterCalls (calls : List (Call Operation)) :
    ImportedApart (afterCalls code calls State.empty) :=
  afterCalls_induction importedApart_call calls importedApart_empty

theorem importedBy_of_lookup
    (calls : List (Call Operation)) {name : Text} {data : Bytes}
    (isImported : (afterCalls code calls State.empty).imported.lookup
      name = some data) :
    ImportedBy calls name data := by
  induction calls using List.reverseRecOn with
  | nil => cases isImported
  | append_singleton before call induction =>
      rw [afterCalls_append] at isImported
      change (call.after code (afterCalls code before
        State.empty)).imported.lookup name = some data at isImported
      rcases call_imports call (afterCalls code before State.empty) with
        same | ⟨added, content, admits, inserted⟩
      · rw [same] at isImported
        exact (induction isImported).append call
      · rw [inserted, Directory.lookup_insert_eq_some] at isImported
        rcases isImported with ⟨rfl, rfl⟩ | ⟨-, earlier⟩
        · exact ⟨before, call, [], rfl,
            (admits.apart (importedApart_afterCalls before)).2, admits⟩
        · exact (induction earlier).append call

/--
After every history of calls, each complete or cut by a crash after any of its
writes: every imported file is readable, two files with one message id or with
one pair of idempotency key and payload are the same file, and each file was
imported by a call in which its message passed the content-id check, the
signature verifier and the TTL check.
-/
theorem imported_at_most_once (calls : List (Call Operation)) :
    (∀ name data,
      (afterCalls code calls State.empty).imported.lookup name =
          some data →
        (∃ message, readJsonObject (some data) = .ok message) ∧
          ImportedBy calls name data) ∧
      ∀ first second firstData secondData firstMessage secondMessage,
        (afterCalls code calls State.empty).imported.lookup first =
            some firstData →
        (afterCalls code calls State.empty).imported.lookup second =
            some secondData →
        readJsonObject (some firstData) = .ok firstMessage →
        readJsonObject (some secondData) = .ok secondMessage →
        (Json.lookup (text "message_id") firstMessage =
            Json.lookup (text "message_id") secondMessage ∨
          SamePair firstMessage secondMessage) →
        first = second := by
  have sound := importedApart_afterCalls calls
  refine ⟨?_, ?_⟩
  · intro name data isImported
    obtain ⟨message, _, read, _⟩ := sound.stored name data isImported
    exact ⟨⟨message, read⟩, importedBy_of_lookup calls isImported⟩
  · intro first second firstData secondData firstMessage secondMessage
      isFirst isSecond readFirst readSecond same
    rcases same with sameId | pair
    · obtain ⟨_, firstId, isRead, checked, rfl⟩ :=
        sound.stored first firstData isFirst
      rw [readFirst, Except.ok.injEq] at isRead
      subst isRead
      obtain ⟨_, secondId, isRead, checkedSecond, rfl⟩ :=
        sound.stored second secondData isSecond
      rw [readSecond, Except.ok.injEq] at isRead
      subst isRead
      rw [checked.named, checkedSecond.named, Option.some.injEq,
        Json.str.injEq] at sameId
      rw [sameId]
    · exact sound.apart first second firstData secondData firstMessage
        secondMessage isFirst isSecond readFirst readSecond pair

end ScientificResourceLab.Transport
