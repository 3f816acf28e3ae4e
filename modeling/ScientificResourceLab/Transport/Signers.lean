import ScientificResourceLab.Transport.Receipts

/-!
# Signers and verifiers

`HmacSha256Signer` is the signer of the repository that needs no external
library.  An `Authority` is a signer with a verifier that accepts what it
signs: the signer puts the message, the sequence number and the predecessor
that it is given into the signature, and the verifier accepts the signature
for that message, in whatever order the members of both are read back.
`HmacSha256Signer` is one.
-/

namespace ScientificResourceLab.Transport

open Python Contracts Steps

/-! ## The fixture signer -/

/-- `HmacSha256Signer`. -/
structure HmacSha256Signer where
  signerCell : Text
  secret : Bytes

namespace HmacSha256Signer

variable (signer : HmacSha256Signer)

/-- `_SIGNATURE_ALGORITHM_HMAC_SHA256`. -/
def algorithm : Text :=
  text "test-hmac-sha256"

/-- `key_id`. -/
def keyId : Text :=
  text "fixture-hmac:" ++ signer.signerCell

/-- `_signature_body`. -/
def signatureBody (messageId : Text) (sequence : Int)
    (previousSignatureRef : Option Text) : Except PyError Members := do
  refuseIf (signer.signerCell = [])
    (raised .spoolError "signer_cell must be a non-empty string")
  refuseIf (signer.keyId = [])
    (raised .spoolError "key_id must be a non-empty string")
  let messageId ← validateObjectId messageId
  pure
    [(text "schema_version", .str signatureSchemaVersion),
      (text "algorithm", .str algorithm),
      (text "signer_cell", .str signer.signerCell),
      (text "key_id", .str signer.keyId),
      (text "message_id", .str messageId),
      (text "sequence", .int sequence),
      (text "previous_signature_ref", optionalText previousSignatureRef)]

/-- `sign`. -/
def sign : Signer := fun message sequence previousSignatureRef => do
  refuseIf (sequence < 1)
    (raised .spoolError "signature sequence must be a positive integer")
  let messageId ← messageIdFromMapping message
  let body ← signer.signatureBody messageId sequence previousSignatureRef
  let encoded ← dumps (.obj body)
  pure
    { schemaVersion := signatureSchemaVersion
      algorithm := algorithm
      signerCell := signer.signerCell
      keyId := signer.keyId
      messageId := messageId
      sequence := sequence
      previousSignatureRef := previousSignatureRef
      signatureValue := hmacSha256 signer.secret encoded }

/-- The part of `verify` that its handler guards. -/
def expected (message signature : Members) :
    Except PyError (Option DetachedSignature) := do
  validateDetachedSignature signature
  if isText signature (text "algorithm") algorithm ∧
      isText signature (text "schema_version") signatureSchemaVersion ∧
      isText signature (text "signer_cell") signer.signerCell ∧
      isText signature (text "key_id") signer.keyId ∧
      sameField (text "message_id") signature message then do
    let sequence ← sequenceFromSignature signature
    let previous ← previousRefFromSignature signature
    let again ← signer.sign message sequence previous
    pure (some again)
  else pure none

/-- `verify`; `hmac.compare_digest` refuses texts that are not ASCII. -/
def verify : Verifier := fun message signature =>
  match signer.expected message signature with
  | .error error =>
      if error.kind.isContractError then .ok false else .error error
  | .ok none => .ok false
  | .ok (some again) =>
      let given := textField signature (text "signature_value")
      if given.any fun point => 128 ≤ point.val then
        .error (raised .typeError
          "comparing strings with non-ASCII characters is not supported")
      else .ok (given = again.signatureValue)

end HmacSha256Signer

/-! ## Authorities -/

/-- What a signature says is what the signer was given. -/
structure DetachedSignature.Seals
    (signature : DetachedSignature) (messageId : Text) (sequence : Int)
    (previousSignatureRef : Option Text) : Prop where
  schemaVersion : signature.schemaVersion = signatureSchemaVersion
  algorithm : signature.algorithm ≠ []
  signerCell : signature.signerCell ≠ []
  keyId : signature.keyId ≠ []
  messageId : signature.messageId = messageId
  sequence : signature.sequence = sequence
  previousSignatureRef :
    signature.previousSignatureRef = previousSignatureRef
  signatureValue : signature.signatureValue ≠ []

/-- A signer with a verifier that accepts what it signs. -/
structure Authority where
  signer : Signer
  verifier : Verifier
  seals : ∀ {message messageId sequence previousSignatureRef signature},
    Checked message messageId →
    signer message sequence previousSignatureRef = .ok signature →
    signature.Seals messageId sequence previousSignatureRef
  accepts : ∀ {message messageId sequence previousSignatureRef signature
      delivered read},
    Checked message messageId → 1 ≤ sequence →
    (∀ ref, previousSignatureRef = some ref → isObjectId ref = true) →
    signer message sequence previousSignatureRef = .ok signature →
    message.Perm delivered → signature.toDict.Perm read →
    verifier delivered read = .ok true

/-! ## Reading a sealed signature back -/

theorem toDict_nodup (signature : DetachedSignature) :
    (signature.toDict.map Prod.fst).Nodup := by
  simp only [DetachedSignature.toDict, List.map_cons, List.map_nil]
  simp -index only [text_ofList]
  decide

theorem toDict_flat (signature : DetachedSignature) :
    ∀ member ∈ signature.toDict, Flat member.2 := by
  have optional (value : Option Text) : Flat (optionalText value) := by
    cases value <;> exact ⟨rfl, trivial⟩
  simp only [DetachedSignature.toDict, List.forall_mem_cons]
  exact ⟨⟨rfl, trivial⟩, ⟨rfl, trivial⟩, ⟨rfl, trivial⟩, ⟨rfl, trivial⟩,
    ⟨rfl, trivial⟩, ⟨rfl, trivial⟩, optional _, ⟨rfl, trivial⟩, by simp⟩

section

variable {signature : DetachedSignature} {messageId : Text}
variable {sequence : Int} {previousSignatureRef : Option Text}
variable {read : Members}

theorem sequenceFromSignature_of_seals
    (seals : signature.Seals messageId sequence previousSignatureRef)
    (positive : 1 ≤ sequence) (same : signature.toDict.Perm read) :
    sequenceFromSignature read = .ok sequence := by
  have found : Json.lookup (text "sequence") read =
      some (.int sequence) := by
    rw [← Json.lookup_perm same (toDict_nodup signature), ← seals.sequence]
    rfl
  simp only [sequenceFromSignature, found, not_lt.mpr positive, if_false]

theorem previousRefFromSignature_of_seals
    (seals : signature.Seals messageId sequence previousSignatureRef)
    (shaped : ∀ ref, previousSignatureRef = some ref →
      isObjectId ref = true)
    (same : signature.toDict.Perm read) :
    previousRefFromSignature read = .ok previousSignatureRef := by
  have found : Json.lookup (text "previous_signature_ref") read =
      some (optionalText previousSignatureRef) := by
    rw [← Json.lookup_perm same (toDict_nodup signature),
      ← seals.previousSignatureRef]
    rfl
  cases previousSignatureRef with
  | none =>
      simp only [previousRefFromSignature, found, optionalText]
  | some ref =>
      have valid : validateIdValue (some (.str ref)) = .ok ref :=
        validateIdValue_eq_ok.mpr ⟨rfl, shaped ref rfl⟩
      simp only [previousRefFromSignature, found, optionalText, valid]
      rfl

/-- A sealed signature passes `_validate_detached_signature`. -/
theorem validateDetachedSignature_of_seals
    (seals : signature.Seals messageId sequence previousSignatureRef)
    (named : isObjectId messageId = true) (positive : 1 ≤ sequence)
    (shaped : ∀ ref, previousSignatureRef = some ref →
      isObjectId ref = true)
    (same : signature.toDict.Perm read) :
    validateDetachedSignature read = .ok ⟨⟩ := by
  have lookup (key : Text) :
      Json.lookup key read = Json.lookup key signature.toDict :=
    (Json.lookup_perm same (toDict_nodup signature) key).symm
  have version : isText read (text "schema_version")
      signatureSchemaVersion = true := by
    rw [isText_eq_true, lookup, ← seals.schemaVersion]
    rfl
  have algorithm : isNonEmptyString read (text "algorithm") = true := by
    rw [isNonEmptyString, lookup]
    exact decide_eq_true seals.algorithm
  have value : isNonEmptyString read (text "signature_value") = true := by
    rw [isNonEmptyString, lookup]
    exact decide_eq_true seals.signatureValue
  have cell : emptyAsText read (text "signer_cell") = false := by
    rw [emptyAsText, lookup]
    exact decide_eq_false seals.signerCell
  have key : emptyAsText read (text "key_id") = false := by
    rw [emptyAsText, lookup]
    exact decide_eq_false seals.keyId
  have id : messageIdFromMapping read = .ok messageId := by
    rw [messageIdFromMapping_eq_ok, lookup, ← seals.messageId]
    exact ⟨rfl, by rw [seals.messageId]; exact named⟩
  simp only [validateDetachedSignature, requireNonEmpty, version,
    algorithm, value, cell, key, id,
    sequenceFromSignature_of_seals seals positive same,
    previousRefFromSignature_of_seals seals shaped same, refuseIf]
  rfl

end

/-! ## The fixture signer is an authority -/

namespace HmacSha256Signer

variable {signer : HmacSha256Signer} {message : Members}
variable {messageId : Text} {sequence : Int}
variable {previousSignatureRef : Option Text}
variable {signature : DetachedSignature}

theorem sign_eq_ok
    (signed : signer.sign message sequence previousSignatureRef =
      .ok signature) :
    signer.signerCell ≠ [] ∧
      ∃ messageId encoded,
        messageIdFromMapping message = .ok messageId ∧
        signature =
          { schemaVersion := signatureSchemaVersion
            algorithm := algorithm
            signerCell := signer.signerCell
            keyId := signer.keyId
            messageId := messageId
            sequence := sequence
            previousSignatureRef := previousSignatureRef
            signatureValue := hmacSha256 signer.secret encoded } := by
  simp only [sign, signatureBody, bind_eq_ok_iff, refuseIf_eq_ok_iff,
    pure_eq_ok_iff] at signed
  obtain ⟨_, _, found, isId, _, ⟨_, isCell, _⟩, encoded, _, rfl⟩ := signed
  exact ⟨isCell, found, encoded, isId, rfl⟩

/-- A checked message is signed, and its signature can be written. -/
theorem sign_of_checked
    (isCell : signer.signerCell ≠ []) (cell : Scalars signer.signerCell)
    (checked : Checked message messageId) (positive : 1 ≤ sequence)
    (short : Writable (.int sequence))
    (shaped : ∀ ref, previousSignatureRef = some ref →
      isObjectId ref = true) :
    ∃ signature data,
      signer.sign message sequence previousSignatureRef = .ok signature ∧
      dumps (.obj signature.toDict) = .ok data := by
  have named : messageIdFromMapping message = .ok messageId :=
    messageIdFromMapping_eq_ok.mpr ⟨checked.named, checked.shaped⟩
  have valid : validateObjectId messageId = .ok messageId :=
    validateObjectId_eq_ok.mpr ⟨rfl, checked.shaped⟩
  have isKey : signer.keyId ≠ [] :=
    List.append_ne_nil_of_left_ne_nil (by decide) _
  have key : Scalars signer.keyId :=
    scalars_append.mpr ⟨scalars_text _, cell⟩
  have previous : Writable (optionalText previousSignatureRef) := by
    cases previousSignatureRef with
    | none => trivial
    | some ref => exact scalars_of_isObjectId (shaped ref rfl)
  have id := scalars_of_isObjectId checked.shaped
  obtain ⟨encoded, dumped⟩ : ∃ encoded, dumps (.obj
      [(text "schema_version", .str signatureSchemaVersion),
        (text "algorithm", .str algorithm),
        (text "signer_cell", .str signer.signerCell),
        (text "key_id", .str signer.keyId),
        (text "message_id", .str messageId),
        (text "sequence", .int sequence),
        (text "previous_signature_ref",
          optionalText previousSignatureRef)]) = .ok encoded := by
    refine dumps_of_writable ?_
    rw [Writable] at short
    simp only [Writable, WritableMembers, scalars_text, cell, key, id,
      short, previous, signatureSchemaVersion, algorithm, and_self]
  obtain ⟨signature, signed⟩ : ∃ signature,
      signer.sign message sequence previousSignatureRef =
        .ok signature := by
    simp only [sign, signatureBody, bind_eq_ok_iff, refuseIf_eq_ok_iff,
      pure_eq_ok_iff, named, valid, Except.ok.injEq, exists_eq_left',
      not_lt]
    exact ⟨_, ⟨⟩, positive, _, ⟨⟨⟩, isCell, ⟨⟩, isKey, rfl⟩, encoded,
      dumped, rfl⟩
  obtain ⟨data, written⟩ : ∃ data,
      dumps (.obj signature.toDict) = .ok data := by
    obtain ⟨-, found, content, isId, rfl⟩ := sign_eq_ok signed
    rw [named, Except.ok.injEq] at isId
    subst isId
    have value : Scalars (hmacSha256 signer.secret content) :=
      fun point member => isLowerHex_scalar
        ((hmacSha256_hex signer.secret content).2 point member)
    refine dumps_of_writable ?_
    rw [Writable] at short
    simp only [DetachedSignature.toDict, Writable, WritableMembers,
      scalars_text, cell, key, id, short, previous, value,
      signatureSchemaVersion, algorithm, and_self]
  exact ⟨signature, data, signed, written⟩

theorem hmacSha256_ne_nil (key content : Bytes) :
    hmacSha256 key content ≠ [] := by
  intro empty
  have length := (hmacSha256_hex key content).1
  rw [empty] at length
  cases length

theorem seals_of_sign
    (checked : Checked message messageId)
    (signed : signer.sign message sequence previousSignatureRef =
      .ok signature) :
    signature.Seals messageId sequence previousSignatureRef := by
  obtain ⟨isCell, found, encoded, isId, rfl⟩ := sign_eq_ok signed
  have sameId : found = messageId := by
    have named := (messageIdFromMapping_eq_ok.mp isId).1
    rw [checked.named, Option.some.injEq, Json.str.injEq] at named
    exact named.symm
  exact
    { schemaVersion := rfl
      algorithm := show algorithm ≠ [] by decide
      signerCell := isCell
      keyId := List.append_ne_nil_of_left_ne_nil (by decide) _
      messageId := sameId
      sequence := rfl
      previousSignatureRef := rfl
      signatureValue := hmacSha256_ne_nil _ _ }

/-- The signature is computed again from what was read. -/
theorem sign_perm
    {delivered : Members} (checked : Checked message messageId)
    (same : message.Perm delivered) :
    signer.sign delivered sequence previousSignatureRef =
      signer.sign message sequence previousSignatureRef := by
  have named : messageIdFromMapping delivered =
      messageIdFromMapping message := by
    rw [messageIdFromMapping, messageIdFromMapping,
      Json.lookup_perm same checked.distinct]
  rw [sign, sign, named]

theorem verify_of_sign
    {delivered read : Members} (checked : Checked message messageId)
    (positive : 1 ≤ sequence)
    (shaped : ∀ ref, previousSignatureRef = some ref →
      isObjectId ref = true)
    (signed : signer.sign message sequence previousSignatureRef =
      .ok signature)
    (sameMessage : message.Perm delivered)
    (same : signature.toDict.Perm read) :
    signer.verify delivered read = .ok true := by
  have seals := seals_of_sign checked signed
  have lookup (key : Text) :
      Json.lookup key read = Json.lookup key signature.toDict :=
    (Json.lookup_perm same (toDict_nodup signature) key).symm
  have again : signer.expected delivered read = .ok (some signature) := by
    have isRead (key value : Text)
        (found : Json.lookup key signature.toDict = some (.str value)) :
        isText read key value = true := by
      rw [isText_eq_true, lookup, found]
    have sameId : sameField (text "message_id") read delivered = true := by
      rw [sameField, ← Json.lookup_perm sameMessage checked.distinct,
        checked.named]
      refine isRead _ _ ?_
      rw [← seals.messageId]
      rfl
    obtain ⟨-, found, encoded, isId, isSignature⟩ := sign_eq_ok signed
    have fields : isText read (text "algorithm") algorithm = true ∧
        isText read (text "schema_version") signatureSchemaVersion =
          true ∧
        isText read (text "signer_cell") signer.signerCell = true ∧
        isText read (text "key_id") signer.keyId = true ∧
        sameField (text "message_id") read delivered = true := by
      refine ⟨isRead _ _ ?_, isRead _ _ ?_, isRead _ _ ?_, isRead _ _ ?_,
        sameId⟩
      all_goals
        rw [isSignature]
        rfl
    rw [expected, validateDetachedSignature_of_seals seals checked.shaped
      positive shaped same]
    simp only [fields, and_self, if_true, bind, Except.bind,
      sequenceFromSignature_of_seals seals positive same,
      previousRefFromSignature_of_seals seals shaped same,
      sign_perm checked sameMessage, signed]
    rfl
  have given : textField read (text "signature_value") =
      signature.signatureValue := by
    rw [textField, lookup]
    rfl
  have ascii : (signature.signatureValue.any
      fun point => 128 ≤ point.val) = false := by
    obtain ⟨-, found, encoded, isId, rfl⟩ := sign_eq_ok signed
    rw [List.any_eq_false]
    intro point member
    have isHex := (hmacSha256_hex signer.secret encoded).2 point member
    simp only [CodePoint.isLowerHex, CodePoint.isDigit, Bool.or_eq_true,
      Bool.and_eq_true, decide_eq_true_eq] at isHex
    simp only [decide_eq_true_eq, not_le]
    omega
  rw [verify, again]
  simp only [given, ascii, Bool.false_eq_true, if_false, decide_true]

end HmacSha256Signer

/-- The fixture signer signs, and verifies what it signed. -/
def HmacSha256Signer.authority (signer : HmacSha256Signer) : Authority where
  signer := signer.sign
  verifier := signer.verify
  seals := HmacSha256Signer.seals_of_sign
  accepts := HmacSha256Signer.verify_of_sign

end ScientificResourceLab.Transport
