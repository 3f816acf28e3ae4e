import ScientificResourceLab.Transport.Delivery

/-!
# Which message files are answered

`receive` catches the errors of the contracts and of the file system while it
reads the message and its signature, and nothing else.  `Answerable` lists
what remains: an integer beyond the digit limit in a file that is read, a
message with a lone surrogate, a verifier that raises, and a timestamp that
has the shape of one and names no instant.  On all other files `receive`
returns an acknowledgement.
-/

namespace ScientificResourceLab.Transport

open Python Contracts Steps

/-! ## Errors that the guards catch -/

section

variable {α β : Type}

/-- Nothing is raised that a guard of `receive` does not catch. -/
def Guarded (result : Except PyError α) : Prop :=
  ∀ error, result = .error error → caught error = true

theorem guarded_ok (value : α) :
    Guarded (.ok value : Except PyError α) := by
  rintro error ⟨⟩

theorem guarded_error_iff {error : PyError} :
    Guarded (.error error : Except PyError α) ↔ caught error = true := by
  constructor
  · intro guarded
    exact guarded error rfl
  · rintro isCaught _ ⟨⟩
    exact isCaught

theorem guarded_bind_iff
    {first : Except PyError α} {rest : α → Except PyError β} :
    Guarded (first >>= rest) ↔
      Guarded first ∧
        ∀ value, first = .ok value → Guarded (rest value) := by
  cases first with
  | error error =>
      change Guarded (.error error) ↔ _
      rw [guarded_error_iff, guarded_error_iff]
      constructor
      · intro isCaught
        exact ⟨isCaught, fun _ isValue => nomatch isValue⟩
      · exact And.left
  | ok value =>
      constructor
      · intro guarded
        refine ⟨guarded_ok value, ?_⟩
        rintro _ ⟨⟩
        exact guarded
      · rintro ⟨-, guarded⟩
        exact guarded value rfl

theorem guarded_refuseIf
    {condition : Prop} [Decidable condition] {error : PyError}
    (isCaught : caught error = true) : Guarded (refuseIf condition error) := by
  rw [refuseIf]
  split_ifs
  · exact guarded_error_iff.mpr isCaught
  · exact guarded_ok _

end

theorem guarded_readJsonObject_iff {file : Option Bytes} :
    Guarded (readJsonObject file) ↔
      ∀ data, file = some data → Guarded (loads data) := by
  cases file with
  | none =>
      constructor
      · rintro - data ⟨⟩
      · intro _
        exact guarded_error_iff.mpr rfl
  | some data =>
      rw [readJsonObject, guarded_bind_iff]
      constructor
      · rintro ⟨guarded, -⟩ _ ⟨⟩
        exact guarded
      · intro guarded
        refine ⟨guarded data rfl, fun value _ => ?_⟩
        cases value with
        | obj members => exact guarded_ok _
        | null | bool _ | int _ | float _ | str _ | arr _ =>
            exact guarded_error_iff.mpr rfl

theorem guarded_validateIdValue (value : Option Json) :
    Guarded (validateIdValue value) := by
  rw [validateIdValue.eq_def]
  split
  · rw [validateObjectId]
    split_ifs
    · exact guarded_ok _
    · exact guarded_error_iff.mpr rfl
  · exact guarded_error_iff.mpr rfl

theorem guarded_objectId_iff {members : Members} :
    Guarded (objectId (.obj members)) ↔
      ownObjectId (.obj members) = none →
        Guarded (dumps (.obj members)) := by
  rw [objectId]
  split
  · next existing own =>
      simp only [own, reduceCtorEq, false_implies, iff_true]
      exact guarded_error_iff.mpr rfl
  · next own =>
      rw [guarded_bind_iff]
      simp only [own, true_implies]
      constructor
      · exact And.left
      · intro guarded
        exact ⟨guarded, fun _ _ => guarded_ok _⟩

/-! ## Reading a message and its signature -/

/-- A message of the schema has no `object_id`. -/
theorem ownObjectId_of_accepts
    {message : Members} (accepted : spoolMessageSchema.accepts message = true) :
    ownObjectId (.obj (withoutMessageId message)) = none := by
  have unnamed : objectIdField ∉
      (withoutMessageId message).map Prod.fst := by
    intro member
    have known := (accepts_eq_true_iff.mp accepted).1 objectIdField
      ((List.filter_sublist.map Prod.fst).mem member)
    revert known
    decide
  rw [ownObjectId, Json.lookup_of_not_mem unnamed]

/-- The message file holds no over-long integer and no lone surrogate. -/
structure MessageReadable (file : Option Bytes) : Prop where
  loads : ∀ data, file = some data → Guarded (Contracts.loads data)
  encodes : ∀ message messageId, readJsonObject file = .ok message →
    spoolMessageSchema.accepts message = true →
      messageIdFromMapping message = .ok messageId →
        Guarded (dumps (.obj (withoutMessageId message)))

theorem guarded_messageIdMatchesContent_iff
    {message : Members} {messageId : Text}
    (accepted : spoolMessageSchema.accepts message = true)
    (named : messageIdFromMapping message = .ok messageId) :
    Guarded (messageIdMatchesContent message) ↔
      Guarded (dumps (.obj (withoutMessageId message))) := by
  obtain ⟨found, shaped⟩ := messageIdFromMapping_eq_ok.mp named
  have valid : validateIdValue (some (.str messageId)) = .ok messageId :=
    validateIdValue_eq_ok.mpr ⟨rfl, shaped⟩
  rw [messageIdMatchesContent, found]
  simp only [guarded_bind_iff, guarded_objectId_iff,
    ownObjectId_of_accepts accepted, true_implies]
  constructor
  · rintro ⟨-, rest⟩
    exact (rest messageId valid).1
  · intro guarded
    exact ⟨guarded_validateIdValue _, fun _ _ =>
      ⟨guarded, fun _ _ => guarded_ok _⟩⟩

theorem guarded_decodeMessage_iff {file : Option Bytes} :
    Guarded (decodeMessage file) ↔ MessageReadable file := by
  rw [decodeMessage, guarded_bind_iff, guarded_readJsonObject_iff]
  constructor
  · rintro ⟨loads, rest⟩
    refine ⟨loads, fun message messageId read accepted named => ?_⟩
    have valid : schemaValidate spoolMessageSchema message = .ok ⟨⟩ := by
      rw [schemaValidate, refuseIf_eq_ok_iff, accepted]
      exact Bool.noConfusion
    have checks := (guarded_bind_iff.mp (rest message read)).2 _ valid
    have matching := (guarded_bind_iff.mp checks).2 messageId named
    exact (guarded_messageIdMatchesContent_iff accepted named).mp
      (guarded_bind_iff.mp matching).1
  · intro readable
    refine ⟨readable.loads, fun message read => ?_⟩
    rw [guarded_bind_iff]
    refine ⟨guarded_refuseIf rfl, fun _ valid => ?_⟩
    have accepted : spoolMessageSchema.accepts message = true := by
      rw [schemaValidate, refuseIf_eq_ok_iff, Bool.not_eq_false] at valid
      exact valid
    rw [guarded_bind_iff]
    refine ⟨guarded_validateIdValue _, fun messageId named => ?_⟩
    rw [guarded_bind_iff]
    refine ⟨(guarded_messageIdMatchesContent_iff accepted named).mpr
      (readable.encodes message messageId read accepted named),
      fun _ _ => ?_⟩
    rw [guarded_bind_iff]
    exact ⟨guarded_refuseIf rfl, fun _ _ => guarded_ok _⟩

theorem guarded_sequenceFromSignature (signature : Members) :
    Guarded (sequenceFromSignature signature) := by
  rw [sequenceFromSignature]
  split
  · split_ifs
    · exact guarded_error_iff.mpr rfl
    · exact guarded_ok _
  · exact guarded_error_iff.mpr rfl

theorem guarded_previousRefFromSignature (signature : Members) :
    Guarded (previousRefFromSignature signature) := by
  rw [previousRefFromSignature]
  split
  · exact guarded_ok _
  · exact guarded_ok _
  · rw [guarded_bind_iff]
    exact ⟨guarded_validateIdValue _, fun _ _ => guarded_ok _⟩

theorem guarded_validateDetachedSignature (signature : Members) :
    Guarded (validateDetachedSignature signature) := by
  simp only [validateDetachedSignature, guarded_bind_iff]
  exact ⟨guarded_refuseIf rfl, fun _ _ => ⟨guarded_refuseIf rfl,
    fun _ _ => ⟨guarded_refuseIf rfl, fun _ _ => ⟨guarded_refuseIf rfl,
    fun _ _ => ⟨guarded_validateIdValue _, fun _ _ =>
    ⟨guarded_sequenceFromSignature _, fun _ _ =>
    ⟨guarded_previousRefFromSignature _, fun _ _ =>
    guarded_refuseIf rfl⟩⟩⟩⟩⟩⟩⟩

theorem guarded_decodeSignature_iff {file : Option Bytes} :
    Guarded (decodeSignature file) ↔
      ∀ data, file = some data → Guarded (loads data) := by
  rw [decodeSignature, guarded_bind_iff, guarded_readJsonObject_iff]
  constructor
  · exact And.left
  · intro guarded
    refine ⟨guarded, fun signature _ => ?_⟩
    rw [guarded_bind_iff]
    exact ⟨guarded_validateDetachedSignature signature,
      fun _ _ => guarded_ok _⟩

/-! ## Duplicates and the hash chain -/

theorem duplicateAmong_returns
    {messageId : Text} {message : Members} {files : List (Text × Bytes)}
    (readable : ∀ file ∈ files, ∃ imported,
      readJsonObject (some file.2) = .ok imported) :
    ∃ duplicate, duplicateAmong messageId message files =
      .ok duplicate := by
  induction files with
  | nil => exact ⟨false, rfl⟩
  | cons file rest induction =>
      obtain ⟨imported, read⟩ := readable file List.mem_cons_self
      obtain ⟨later, isLater⟩ := induction fun other member =>
        readable other (List.mem_cons_of_mem _ member)
      simp only [duplicateAmong, bind_eq_ok_iff, read, Except.ok.injEq,
        exists_eq_left']
      split_ifs
      · exact ⟨true, rfl⟩
      · exact ⟨later, isLater⟩

theorem isDuplicate_returns
    {state : State} (apart : ImportedApart state) {message : Members}
    {messageId : Text} (checked : Checked message messageId) :
    ∃ duplicate, state.isDuplicate message = .ok duplicate := by
  have named : messageIdFromMapping message = .ok messageId :=
    messageIdFromMapping_eq_ok.mpr ⟨checked.named, checked.shaped⟩
  rw [State.isDuplicate, named]
  refine duplicateAmong_returns fun file member => ?_
  obtain ⟨imported, -, read, -⟩ :=
    apart.stored file.1 file.2 (mem_sortedFiles.mp member)
  exact ⟨imported, read⟩

theorem skipCaught_returns_iff
    {α : Type} {entries : List (Except PyError α)} :
    (∃ values, skipCaught entries = .ok values) ↔
      ∀ entry ∈ entries, Guarded entry := by
  induction entries with
  | nil => simp [skipCaught]
  | cons entry rest induction =>
      rw [List.forall_mem_cons, ← induction]
      cases entry with
      | ok value =>
          simp only [skipCaught, bind_eq_ok_iff, pure_eq_ok_iff,
            guarded_ok, true_and]
          constructor
          · rintro ⟨_, others, isOthers, -⟩
            exact ⟨others, isOthers⟩
          · rintro ⟨others, isOthers⟩
            exact ⟨_, others, isOthers, rfl⟩
      | error error =>
          rw [skipCaught, guarded_error_iff]
          cases caught error with
          | true => simp
          | false => simp

/-- No signature file of an imported message holds an over-long integer. -/
def ImportedSignaturesLoad (state : State) : Prop :=
  ∀ name data signature, state.imported.lookup name = some data →
    state.signatures.lookup name = some signature →
      Guarded (loads signature)

theorem guarded_importedEntry_iff
    {signatures : Directory Text Bytes} {data : Bytes}
    {message : Members} {messageId : Text}
    (read : readJsonObject (some data) = .ok message)
    (checked : Checked message messageId) :
    Guarded (importedEntry signatures data) ↔
      ∀ signature,
        signatures.lookup (filename messageId) = some signature →
          Guarded (loads signature) := by
  have named : messageIdFromMapping message = .ok messageId :=
    messageIdFromMapping_eq_ok.mpr ⟨checked.named, checked.shaped⟩
  have isName : jsonFilename messageId = .ok (filename messageId) :=
    jsonFilename_eq_ok.mpr ⟨checked.shaped, rfl⟩
  rw [importedEntry, read]
  change Guarded (messageIdFromMapping message >>= _) ↔ _
  rw [named]
  change Guarded (jsonFilename messageId >>= _) ↔ _
  rw [isName]
  change Guarded (readJsonObject (signatures.lookup (filename messageId))
    >>= _) ↔ _
  rw [guarded_bind_iff, guarded_readJsonObject_iff]
  constructor
  · exact And.left
  · intro guarded
    refine ⟨guarded, fun signature _ => ?_⟩
    rw [guarded_bind_iff]
    exact ⟨guarded_sequenceFromSignature signature,
      fun _ _ => guarded_ok _⟩

theorem latestImportedSignature_returns_iff
    {state : State} (apart : ImportedApart state) :
    (∃ latest, state.latestImportedSignature = .ok latest) ↔
      ImportedSignaturesLoad state := by
  have entries : (∃ latest, state.latestImportedSignature = .ok latest) ↔
      ∀ file ∈ sortedFiles state.imported,
        Guarded (importedEntry state.signatures file.2) := by
    rw [← List.forall_mem_map, ← skipCaught_returns_iff]
    simp only [State.latestImportedSignature, bind_eq_ok_iff,
      pure_eq_ok_iff]
    constructor
    · rintro ⟨_, values, isValues, -⟩
      exact ⟨values, isValues⟩
    · rintro ⟨values, isValues⟩
      exact ⟨_, values, isValues, rfl⟩
  rw [entries]
  constructor
  · intro guarded name data signature found signed
    obtain ⟨message, messageId, read, checked, rfl⟩ :=
      apart.stored name data found
    exact (guarded_importedEntry_iff read checked).mp
      (guarded (filename messageId, data) (mem_sortedFiles.mpr found))
      signature signed
  · intro signaturesLoad file member
    have found := mem_sortedFiles.mp member
    obtain ⟨message, messageId, read, checked, isName⟩ :=
      apart.stored file.1 file.2 found
    rw [guarded_importedEntry_iff read checked, ← isName]
    exact fun signature => signaturesLoad file.1 file.2 signature found

theorem hashChainAccepts_returns_iff
    {state : State} (apart : ImportedApart state) {file : Option Bytes}
    {signature : Members} (signed : decodeSignature file = .ok signature) :
    (∃ accepts, state.hashChainAccepts signature = .ok accepts) ↔
      ImportedSignaturesLoad state := by
  obtain ⟨-, valid⟩ := decodeSignature_eq_ok.mp signed
  obtain ⟨sequence, isSequence, previous, isPrevious⟩ :
      ∃ sequence, sequenceFromSignature signature = .ok sequence ∧
        ∃ previous, previousRefFromSignature signature =
          .ok previous := by
    simp only [validateDetachedSignature, bind_eq_ok_iff] at valid
    obtain ⟨_, _, _, _, _, _, _, _, _, _, sequence, isSequence, previous,
      isPrevious, _⟩ := valid
    exact ⟨sequence, isSequence, previous, isPrevious⟩
  rw [← latestImportedSignature_returns_iff apart]
  simp only [State.hashChainAccepts, bind_eq_ok_iff, isSequence,
    isPrevious, Except.ok.injEq, exists_eq_left']
  constructor
  · rintro ⟨_, latest, isLatest, -⟩
    exact ⟨latest, isLatest⟩
  · rintro ⟨latest, isLatest⟩
    cases latest with
    | none => exact ⟨_, none, isLatest, rfl⟩
    | some entry => exact ⟨_, some entry, isLatest, rfl⟩

/-! ## When a verdict is reached -/

section

variable {state : State} {file : Option Bytes} {verifier : Verifier}
variable {message signature : Members} {messageId : Text}
variable {now : Nat} {nowUtc : Text} {ttlSeconds : Int}

/-- The message is no duplicate, and its place in the chain is known. -/
structure VerifiedAnswerable (state : State) (message signature : Members) :
    Prop where
  chain : state.isDuplicate message = .ok false →
    ImportedSignaturesLoad state
  created : state.isDuplicate message = .ok false →
    state.hashChainAccepts signature = .ok true →
      ∃ created, parseUtc (textField message (text "created_utc")) =
        .ok created

theorem verifiedVerdict_returns_iff
    (apart : ImportedApart state) (checked : Checked message messageId)
    {signatureFile : Option Bytes}
    (signed : decodeSignature signatureFile = .ok signature) :
    (∃ exit, state.verifiedVerdict message signature messageId now
        ttlSeconds = .ok exit) ↔
      VerifiedAnswerable state message signature := by
  have chain := hashChainAccepts_returns_iff apart signed
  obtain ⟨duplicate, isDuplicate⟩ := isDuplicate_returns apart checked
  simp only [verifiedVerdict_eq_ok_iff]
  cases duplicate with
  | true =>
      refine iff_of_true ⟨_, .inl ⟨isDuplicate, rfl⟩⟩ ⟨?_, ?_⟩
      · intro unique
        rw [isDuplicate] at unique
        cases unique
      · intro unique
        rw [isDuplicate] at unique
        cases unique
  | false =>
      constructor
      · rintro ⟨exit, ⟨isOther, -⟩ | ⟨-, rest⟩⟩
        · rw [isDuplicate] at isOther
          cases isOther
        · rcases rest with ⟨refused, -⟩ | ⟨accepted, rest⟩
          · refine ⟨fun _ => chain.mp ⟨false, refused⟩, ?_⟩
            intro _ accepted
            rw [refused] at accepted
            cases accepted
          · refine ⟨fun _ => chain.mp ⟨true, accepted⟩, fun _ _ => ?_⟩
            rcases rest with ⟨unknown, -⟩ | ⟨-, created, isCreated, -⟩
            · exact absurd checked.classification unknown
            · exact ⟨created, isCreated⟩
      · intro answerable
        obtain ⟨accepts, isAccepts⟩ := chain.mpr
          (answerable.chain isDuplicate)
        cases accepts with
        | false =>
            exact ⟨_, .inr ⟨isDuplicate, .inl ⟨isAccepts, rfl⟩⟩⟩
        | true =>
            obtain ⟨created, isCreated⟩ :=
              answerable.created isDuplicate isAccepts
            rcases lt_or_ge ttlSeconds ((now : Int) - created) with
              late | fresh
            · exact ⟨_, .inr ⟨isDuplicate, .inr ⟨isAccepts, .inr
                ⟨checked.classification, created, isCreated,
                  .inl ⟨late, rfl⟩⟩⟩⟩⟩
            · exact ⟨_, .inr ⟨isDuplicate, .inr ⟨isAccepts, .inr
                ⟨checked.classification, created, isCreated,
                  .inr ⟨fresh, rfl⟩⟩⟩⟩⟩

/-- The signature file can be read, and the verifier answers. -/
structure SignedAnswerable (state : State) (message : Members)
    (messageId : Text) (verifier : Verifier) : Prop where
  signature : ∀ data,
    state.signatures.lookup (filename messageId) = some data →
      Guarded (loads data)
  verifies : ∀ signature,
    decodeSignature (state.signatures.lookup (filename messageId)) =
        .ok signature →
      ∃ verified, verifier message signature = .ok verified
  verified : ∀ signature,
    decodeSignature (state.signatures.lookup (filename messageId)) =
        .ok signature →
      verifier message signature = .ok true →
        VerifiedAnswerable state message signature

theorem messageVerdict_returns_iff
    (apart : ImportedApart state) (checked : Checked message messageId) :
    (∃ exit, state.messageVerdict message messageId verifier now
        ttlSeconds = .ok exit) ↔
      SignedAnswerable state message messageId verifier := by
  simp only [messageVerdict_eq_ok_iff checked.shaped]
  cases signed : decodeSignature
      (state.signatures.lookup (filename messageId)) with
  | error error =>
      have guarded : caught error = true ↔ ∀ data,
          state.signatures.lookup (filename messageId) = some data →
            Guarded (loads data) := by
        rw [← guarded_decodeSignature_iff, signed, guarded_error_iff]
      constructor
      · rintro ⟨exit, ⟨_, ⟨⟩, isCaught, -⟩ | ⟨_, ⟨⟩, -⟩⟩
        refine ⟨guarded.mp isCaught, ?_, ?_⟩
        · intro signature isSigned
          rw [signed] at isSigned
          cases isSigned
        · intro signature isSigned
          rw [signed] at isSigned
          cases isSigned
      · intro answerable
        exact ⟨_, .inl ⟨error, rfl,
          guarded.mpr answerable.signature, rfl⟩⟩
  | ok signature =>
      have loaded : ∀ data,
          state.signatures.lookup (filename messageId) = some data →
            Guarded (loads data) := by
        rw [← guarded_decodeSignature_iff, signed]
        exact guarded_ok signature
      constructor
      · rintro ⟨exit, ⟨_, ⟨⟩, -⟩ | ⟨_, ⟨⟩, rest⟩⟩
        refine ⟨loaded, ?_, ?_⟩
        · intro other isSigned
          rw [signed] at isSigned
          cases isSigned
          rcases rest with ⟨refused, -⟩ | ⟨verified, -⟩
          · exact ⟨false, refused⟩
          · exact ⟨true, verified⟩
        · intro other isSigned isVerified
          rw [signed] at isSigned
          cases isSigned
          rcases rest with ⟨refused, -⟩ | ⟨-, chosen⟩
          · rw [isVerified] at refused
            cases refused
          · exact (verifiedVerdict_returns_iff apart checked signed).mp
              ⟨exit, chosen⟩
      · intro answerable
        obtain ⟨verified, isVerified⟩ :=
          answerable.verifies signature signed
        cases verified with
        | false =>
            exact ⟨_, .inr ⟨signature, rfl, .inl ⟨isVerified, rfl⟩⟩⟩
        | true =>
            obtain ⟨exit, chosen⟩ :=
              (verifiedVerdict_returns_iff apart checked signed).mpr
                (answerable.verified signature signed isVerified)
            exact ⟨exit, .inr ⟨signature, rfl,
              .inr ⟨isVerified, chosen⟩⟩⟩

/-- Nothing is raised outside the guards of `receive`. -/
structure Answerable (state : State) (file : Option Bytes)
    (verifier : Verifier) : Prop where
  message : MessageReadable file
  signed : ∀ message messageId,
    decodeMessage file = .ok (message, messageId) →
      SignedAnswerable state message messageId verifier

theorem verdict_returns_iff
    (apart : ImportedApart state) (isNow : parseUtc nowUtc = .ok now)
    (natural : 0 ≤ ttlSeconds) :
    (∃ exit, state.verdict file verifier nowUtc ttlSeconds = .ok exit) ↔
      Answerable state file verifier := by
  simp only [verdict_eq_ok_iff]
  constructor
  · rintro ⟨exit, other, isOther, -, ⟨error, undecoded, isCaught, -⟩ |
      ⟨message, messageId, read, checked, chosen⟩⟩
    · constructor
      · rw [← guarded_decodeMessage_iff, undecoded]
        exact guarded_error_iff.mpr isCaught
      · intro message messageId decoded
        rw [undecoded] at decoded
        cases decoded
    · have decoded := decodeMessage_eq_ok.mpr ⟨read, checked⟩
      constructor
      · rw [← guarded_decodeMessage_iff, decoded]
        exact guarded_ok _
      · intro found foundId isFound
        rw [decoded, Except.ok.injEq, Prod.mk.injEq] at isFound
        obtain ⟨rfl, rfl⟩ := isFound
        exact (messageVerdict_returns_iff apart checked).mp ⟨exit, chosen⟩
  · intro answerable
    cases decoded : decodeMessage file with
    | error error =>
        have guarded := guarded_decodeMessage_iff.mpr answerable.message
        exact ⟨_, now, isNow, natural,
          .inl ⟨error, rfl, guarded error decoded, rfl⟩⟩
    | ok result =>
        obtain ⟨message, messageId⟩ := result
        obtain ⟨read, checked⟩ := decodeMessage_eq_ok.mp decoded
        obtain ⟨exit, chosen⟩ :=
          (messageVerdict_returns_iff apart checked).mpr
            (answerable.signed message messageId decoded)
        exact ⟨exit, now, isNow, natural,
          .inr ⟨message, messageId, read, checked, chosen⟩⟩

end

/-! ## What an exit writes -/

/-- The records of an exit can be written. -/
def Verdict.Writable : Verdict → Prop
  | .malformed error => Scalars error.message
  | .quarantined message messageId reason =>
      Checked message messageId ∧ Scalars reason
  | .duplicate messageId => isObjectId messageId = true
  | .rejected message messageId => Checked message messageId
  | .expired message messageId => Checked message messageId
  | .imported message messageId => Checked message messageId

section

variable {state : State} {file : Option Bytes} {verifier : Verifier}
variable {message signature : Members} {messageId : Text}
variable {now : Nat} {nowUtc : Text} {ttlSeconds : Int} {exit : Verdict}

theorem verifiedVerdict_writable
    (checked : Checked message messageId)
    (chosen : state.verifiedVerdict message signature messageId now
      ttlSeconds = .ok exit) : exit.Writable := by
  rcases verifiedVerdict_eq_ok_iff.mp chosen with ⟨-, rfl⟩ | ⟨-, rest⟩
  · exact checked.shaped
  · rcases rest with ⟨-, rfl⟩ | ⟨-, rest⟩
    · exact ⟨checked, scalars_text _⟩
    · rcases rest with ⟨-, rfl⟩ | ⟨-, _, -, ⟨-, rfl⟩ | ⟨-, rfl⟩⟩
      · exact checked
      · exact checked
      · exact checked

theorem verdict_writable
    (chosen : state.verdict file verifier nowUtc ttlSeconds = .ok exit) :
    exit.Writable := by
  obtain ⟨now, -, -, ⟨error, undecoded, -, rfl⟩ |
    ⟨message, messageId, -, checked, rest⟩⟩ := verdict_eq_ok_iff.mp chosen
  · exact printable_decodeMessage file error undecoded
  · rcases (messageVerdict_eq_ok_iff checked.shaped).mp rest with
      ⟨error, unsigned, -, rfl⟩ | ⟨signature, -, ⟨-, rfl⟩ | ⟨-, verified⟩⟩
    · exact ⟨checked, scalars_append.mpr ⟨scalars_text _,
        printable_decodeSignature _ error unsigned⟩⟩
    · exact ⟨checked, scalars_text _⟩
    · exact verifiedVerdict_writable checked verified

end

def deadLetterMembers (recordId messageId reason created : Text) :
    Members :=
  [(text "record_id", .str recordId),
    (text "schema_version", .str (text "DeadLetterRecord/v1")),
    (text "message_id", .str messageId),
    (text "reason", .str reason),
    (text "created_utc", .str created),
    (text "canonical_writes", .int 0),
    (text "grants_authority", .bool false)]

theorem deadLetterMembers_accepted
    {recordId messageId reason created : Text}
    (recordShaped : isObjectId recordId = true)
    (shaped : isObjectId messageId = true) (nonempty : reason ≠ [])
    (pattern : matchesTimestampPattern created = true) :
    deadLetterRecordSchema.accepts
      (deadLetterMembers recordId messageId reason created) = true := by
  rw [accepts_eq_true_iff]
  constructor
  · simp only [deadLetterRecordSchema, deadLetterMembers, List.map_cons,
      List.map_nil]
    simp -index only [text_ofList]
    decide
  · simp only [deadLetterRecordSchema, List.forall_mem_cons]
    exact ⟨⟨_, rfl, rfl⟩,
      ⟨_, rfl, matchesObjectIdPattern_of_isObjectId recordShaped⟩,
      ⟨_, rfl, matchesObjectIdPattern_of_isObjectId shaped⟩,
      ⟨_, rfl, decide_eq_true nonempty⟩, ⟨_, rfl, pattern⟩,
      ⟨_, rfl, rfl⟩, ⟨_, rfl, rfl⟩, by simp⟩

theorem deadLetterRecord_eq
    {messageId reason createdUtc created : Text}
    (shaped : isObjectId messageId = true) (nonempty : reason ≠ [])
    (scalars : Scalars reason)
    (normalized : normalizeTimestamp createdUtc = .ok created) :
    ∃ record data, deadLetterRecord messageId reason createdUtc =
        .ok record ∧ dumps (.obj record) = .ok data := by
  obtain ⟨pattern, createdScalars⟩ := normalizeTimestamp_shape normalized
  have writable : WritableMembers
      (deadLetterMembers [] messageId reason created).tail := by
    simp only [deadLetterMembers, List.tail_cons, WritableMembers, Writable,
      scalars_text, scalars_of_isObjectId shaped, scalars, createdScalars,
      true_and, and_true]
    exact writable_zero
  have unnamed : objectIdField ∉
      [text "schema_version", text "message_id", text "reason",
        text "created_utc", text "canonical_writes",
        text "grants_authority"] := by decide
  obtain ⟨recordId, computed, recordShaped⟩ :=
    objectId_of_writable writable unnamed
  obtain ⟨data, dumped⟩ : ∃ data, dumps (.obj
      (deadLetterMembers recordId messageId reason created)) = .ok data :=
    dumps_of_writable
      ⟨scalars_text _, scalars_of_isObjectId recordShaped, writable⟩
  have accepted := deadLetterMembers_accepted recordShaped shaped nonempty
    pattern
  refine ⟨_, data, ?_, dumped⟩
  simp only [deadLetterRecord, bind_eq_ok_iff, refuseIf_eq_ok_iff,
    normalized, Except.ok.injEq, exists_eq_left']
  refine ⟨⟨⟩, nonempty, ?_⟩
  change identified _ _
    (deadLetterMembers [] messageId reason created).tail = _
  simp only [identified, computed, schemaValidate, bind_eq_ok_iff,
    refuseIf_eq_ok_iff, pure_eq_ok_iff, Except.ok.injEq, exists_eq_left']
  refine ⟨⟨⟩, ?_, rfl⟩
  change ¬ deadLetterRecordSchema.accepts
    (deadLetterMembers recordId messageId reason created) = false
  rw [accepted]
  exact Bool.noConfusion

/-- A `SpoolAck/v1` with this status. -/
def IsAck (status : AckStatus) (ack : Members) : Prop :=
  spoolAckSchema.accepts ack = true ∧
    isText ack (text "ack_status") status.value = true

theorem isAck_of_buildAck
    {messageId createdUtc : Text} {status : AckStatus} {ack : Members}
    (built : buildAck messageId status createdUtc = .ok ack) :
    IsAck status ack := by
  obtain ⟨ackId, created, isMembers⟩ := ackMembers_of_buildAck built
  constructor
  · simp only [buildAck, identified, schemaValidate, bind_eq_ok_iff,
      pure_eq_ok_iff, refuseIf_eq_ok_iff, Bool.not_eq_false] at built
    obtain ⟨_, -, _, -, _, -, _, accepted, rfl⟩ := built
    exact accepted
  · rw [isMembers, isText_eq_true]
    rfl

theorem buildAck_isAck
    {messageId createdUtc created : Text} (status : AckStatus)
    (shaped : isObjectId messageId = true)
    (normalized : normalizeTimestamp createdUtc = .ok created) :
    ∃ ack data, buildAck messageId status createdUtc = .ok ack ∧
      dumps (.obj ack) = .ok data ∧ IsAck status ack := by
  obtain ⟨ackId, data, built, dumped⟩ :=
    buildAck_eq status shaped normalized
  exact ⟨_, data, built, dumped, isAck_of_buildAck built⟩

theorem writeAck_isAck
    {messageId createdUtc created : Text} (status : AckStatus)
    (shaped : isObjectId messageId = true)
    (normalized : normalizeTimestamp createdUtc = .ok created) :
    ∃ ack data, IsAck status ack ∧
      writeAck messageId status createdUtc =
        writing (fun state => state.putAck (filename messageId) data)
          ack := by
  obtain ⟨ack, data, built, dumped, isAck⟩ :=
    buildAck_isAck status shaped normalized
  refine ⟨ack, data, isAck, ?_⟩
  rw [writeAck, built]
  change atomicWriteJson State.putAck messageId _ >>= _ = _
  rw [atomicWriteJson_eq shaped dumped]
  rfl

/-- What `receive` leaves: its answer, and what became of `imported/`. -/
def Answered (before : State) (result : Except PyError Members)
    (after : State) : Prop :=
  ∃ ack status, result = .ok ack ∧ IsAck status ack ∧
    (status ≠ .acknowledged → after.imported = before.imported)

theorem perform_answered
    {state : State} {file : Option Bytes} {nowUtc created : Text}
    {exit : Verdict} (writable : exit.Writable)
    (normalized : normalizeTimestamp nowUtc = .ok created) :
    Answered state ((perform file nowUtc exit).run state).1
      ((perform file nowUtc exit).run state).2 := by
  cases exit with
  | malformed error =>
      obtain ⟨record, quarantined⟩ := quarantineRaw_eq file
        (scalars_append.mpr ⟨scalars_text "malformed_message:", writable⟩)
      obtain ⟨ack, data, isAck, acked⟩ := writeAck_isAck .quarantined
        (isObjectId_sha256 (file.getD [])) normalized
      rw [perform, quarantined, fileRef, acked]
      exact ⟨ack, .quarantined, rfl, isAck, fun _ => rfl⟩
  | quarantined message messageId reason =>
      obtain ⟨checked, scalars⟩ := writable
      obtain ⟨record, quarantined⟩ := quarantineMessage_eq checked scalars
      obtain ⟨ack, data, isAck, acked⟩ :=
        writeAck_isAck .quarantined checked.shaped normalized
      rw [perform, quarantined, acked]
      exact ⟨ack, .quarantined, rfl, isAck, fun _ => rfl⟩
  | duplicate messageId =>
      obtain ⟨ack, data, built, -, isAck⟩ :=
        buildAck_isAck .duplicate writable normalized
      rw [perform, built]
      exact ⟨ack, .duplicate, rfl, isAck, fun _ => rfl⟩
  | rejected message messageId =>
      obtain ⟨record, quarantined⟩ := quarantineMessage_eq writable
        (scalars_text "classification_rejected")
      obtain ⟨ack, data, isAck, acked⟩ :=
        writeAck_isAck .rejected writable.shaped normalized
      rw [perform, quarantined, acked]
      exact ⟨ack, .rejected, rfl, isAck, fun _ => rfl⟩
  | expired message messageId =>
      obtain ⟨record, letter, recorded, dumped⟩ := deadLetterRecord_eq
        writable.shaped (show text "ttl_expired" ≠ [] by decide)
        (scalars_text "ttl_expired") normalized
      obtain ⟨ack, data, isAck, acked⟩ :=
        writeAck_isAck .expired writable.shaped normalized
      have named : messageIdFromMapping message = .ok messageId :=
        messageIdFromMapping_eq_ok.mpr ⟨writable.named, writable.shaped⟩
      rw [perform, deadLetterMessage, named]
      simp only [Steps.Program.compute_ok_bind, recorded,
        atomicWriteJson_eq writable.shaped dumped, acked]
      exact ⟨ack, .expired, rfl, isAck, fun _ => rfl⟩
  | imported message messageId =>
      obtain ⟨bytes, dumped⟩ := writable.encodes
      obtain ⟨ack, data, isAck, acked⟩ :=
        writeAck_isAck .acknowledged writable.shaped normalized
      rw [perform, atomicWriteJson_eq writable.shaped dumped, acked]
      exact ⟨ack, .acknowledged, rfl, isAck,
        fun different => absurd rfl different⟩

theorem receive_raises
    {state : State} {file : Option Bytes} {verifier : Verifier}
    {nowUtc : Text} {ttlSeconds : Int} {error : PyError}
    (raised : state.verdict file verifier nowUtc ttlSeconds =
      .error error) :
    (receive file verifier nowUtc ttlSeconds).run state =
      (.error error, state) := by
  refine Steps.Program.run_bind_error ?_
  simp only [Steps.Program.inspect, Steps.Program.run, raised]

/--
In every reachable spool, on every content of the message file, `receive`
returns an acknowledgement with one of the five statuses, and leaves
`imported/` as it was unless the message is acknowledged, exactly when
nothing is raised outside its guards.
-/
theorem receive_answers_iff
    (calls : List (Call Operation)) (file : Option Bytes)
    (verifier : Verifier) (nowUtc : Text) (now : Nat) (ttlSeconds : Int)
    (isNow : parseUtc nowUtc = .ok now) (natural : 0 ≤ ttlSeconds) :
    Answered (afterCalls code calls State.empty)
        ((receive file verifier nowUtc ttlSeconds).run
          (afterCalls code calls State.empty)).1
        ((receive file verifier nowUtc ttlSeconds).run
          (afterCalls code calls State.empty)).2 ↔
      Answerable (afterCalls code calls State.empty) file verifier := by
  rw [← verdict_returns_iff (importedApart_afterCalls calls) isNow natural]
  generalize afterCalls code calls State.empty = state
  obtain ⟨created, normalized⟩ := normalizeTimestamp_of_parseUtc isNow
  cases chosen : state.verdict file verifier nowUtc ttlSeconds with
  | ok exit =>
      rw [run_receive chosen]
      exact iff_of_true
        (perform_answered (verdict_writable chosen) normalized)
        ⟨exit, rfl⟩
  | error error =>
      refine iff_of_false ?_ ?_
      · rintro ⟨ack, status, returned, -⟩
        rw [receive_raises chosen] at returned
        cases returned
      · rintro ⟨exit, ⟨⟩⟩

/-! ## A file with an over-long integer -/

/-- An integer of 4301 digits. -/
def overlongInteger : Bytes :=
  List.replicate 4301 49

theorem utf8Decode_ones (count : Nat) :
    utf8Decode (List.replicate count 49) =
      some (List.replicate count (codePoint '1')) := by
  apply utf8Decode_utf8Encode
  induction count with
  | zero => rfl
  | succ count induction =>
      rw [List.replicate_succ, utf8Encode, induction]
      rfl

/-- `loads` raises on it an error that no guard catches. -/
theorem loads_overlongInteger :
    loads overlongInteger =
      .error (raised .valueError
        "Exceeds the limit for integer string conversion") := by
  have refused := @parseText_overlong false
    (codePoint '1') (List.replicate 4300 (codePoint '1'))
    (by decide)
    (fun point member => by
      rw [← List.replicate_succ] at member
      rw [List.eq_of_mem_replicate member]
      decide)
    (by
      rw [← List.replicate_succ, List.length_replicate]
      decide)
  rw [loads, overlongInteger, utf8Decode_ones]
  simp only
  rw [loadsText, List.replicate_succ, refused]

theorem overlongInteger_escapes :
    ¬ Guarded (loads overlongInteger) := by
  intro guarded
  exact absurd (guarded _ loads_overlongInteger) (by decide)

theorem not_answerable_overlongInteger
    (state : State) (verifier : Verifier) :
    ¬ Answerable state (some overlongInteger) verifier :=
  fun answerable => overlongInteger_escapes
    (answerable.message.loads overlongInteger rfl)

/-- A signature verifier that accepts everything. -/
def acceptAll : Verifier :=
  fun _ _ => .ok true

theorem parseUtc_newYear :
    ∃ now, parseUtc (text "2026-01-01T00:00:00Z") = .ok now :=
  ⟨_, rfl⟩

/-- On that file `receive` raises. -/
theorem receive_raises_on_overlong_integer :
    (∃ now, parseUtc (text "2026-01-01T00:00:00Z") = .ok now) ∧
      ¬ Answered State.empty
        ((receive (some overlongInteger) acceptAll
          (text "2026-01-01T00:00:00Z") 0).run State.empty).1
        ((receive (some overlongInteger) acceptAll
          (text "2026-01-01T00:00:00Z") 0).run State.empty).2 := by
  obtain ⟨now, isNow⟩ := parseUtc_newYear
  refine ⟨⟨now, isNow⟩, ?_⟩
  rintro ⟨ack, status, returned, -⟩
  refine not_answerable_overlongInteger State.empty acceptAll ?_
  rw [← verdict_returns_iff importedApart_empty isNow (le_refl 0)]
  cases chosen : State.empty.verdict (some overlongInteger) acceptAll
      (text "2026-01-01T00:00:00Z") 0 with
  | ok exit => exact ⟨exit, rfl⟩
  | error error =>
      rw [receive_raises chosen] at returned
      cases returned

/-- The message of the tests is answered when its signature is missing. -/
theorem receive_answers_unsigned_message :
    ∃ (message : Dict) (file : Bytes),
      buildSpoolMessage (text "standalone") (text "market") (fileRef [])
        (text "D1") (text "2026-07-29T00:00:00Z") none =
          .ok message.members ∧
      dumps (.obj message.members) = .ok file ∧
      Answered (afterCalls code [] State.empty)
        ((receive (some file) acceptAll (text "2026-01-01T00:00:00Z") 0).run
          (afterCalls code [] State.empty)).1
        ((receive (some file) acceptAll (text "2026-01-01T00:00:00Z") 0).run
          (afterCalls code [] State.empty)).2 := by
  obtain ⟨message, _, file, read, built, dumped, -, checked, isRead, -⟩ :=
    fixtureMessage (fileRef []) (text "2026-07-29T00:00:00Z")
      (isObjectId_sha256 []) (by decide)
  obtain ⟨now, isNow⟩ := parseUtc_newYear
  refine ⟨message, file, built, dumped, (receive_answers_iff [] (some file)
    acceptAll _ now 0 isNow (le_refl 0)).mpr ⟨?_, ?_⟩⟩
  · rw [← guarded_decodeMessage_iff, decodeMessage_eq_ok.mpr
      ⟨isRead, checked⟩]
    exact guarded_ok _
  · intro _ _ _
    constructor
    · rintro data ⟨⟩
    · rintro signature ⟨⟩
    · rintro signature ⟨⟩

end ScientificResourceLab.Transport
