import ScientificResourceLab.Cas.Records
import ScientificResourceLab.Semantic.Evidence
import ScientificResourceLab.Semantic.MathIr

/-!
# Adapter profiles

`validate_profile` of `srl.semantic.adapter_profiles`: the operators that a
backend supports, the behaviour it declares for the others, and the reference
to its pack.  What the projection reads of a profile is `supportedOps` and
`declaredBehaviors`; the last section says what the validator has made sure
of in both.
-/

namespace ScientificResourceLab.Semantic

open Python Contracts Steps

/-- The members of a dict. -/
abbrev Fields := List (Text × Json)

/-! ## Artifact references -/

/-- An `ArtifactRefError`. -/
def artifactRefError (message : Text) : PyError :=
  ⟨.artifactRefError, message⟩

/-- A letter of the ASCII alphabet. -/
def isAsciiLetter (point : CodePoint) : Bool :=
  (65 ≤ point.val && point.val ≤ 90) ||
    (97 ≤ point.val && point.val ≤ 122)

/-- `_DRIVE_LETTER_RE`, matched in full on the first three code points. -/
def hasDriveStart (value : Text) : Bool :=
  match value.take 3 with
  | [letter, colon, slash] =>
      isAsciiLetter letter && colon = codePoint ':' &&
        (slash = codePoint '\\' || slash = codePoint '/')
  | _ => false

/-- The first segment of a path. -/
def firstSegment (value : Text) : Text :=
  value.takeWhile (· ≠ codePoint '/')

/-- `validate_portable_path`. -/
def validatePortablePath (field : Text) (value : Json) :
    Except PyError Text :=
  match value with
  | .str (point :: rest) => do
      let path := point :: rest
      let subject := text "field " ++ quoted field ++ text "=" ++
        quoted path
      refuseIf (point = codePoint '/') (artifactRefError
        (subject ++ text " is absolute (must be repo-relative)"))
      refuseIf (codePoint '\\' ∈ path) (artifactRefError
        (subject ++ text " contains a backslash (non-portable)"))
      refuseIf (hasDriveStart path = true ∨
          codePoint ':' ∈ firstSegment path) (artifactRefError
        (subject ++ text " contains a drive letter (non-portable)"))
      refuseIf (text ".." ∈ path.splitOn (codePoint '/'))
        (artifactRefError
          (subject ++ text " contains '..' (traversal forbidden)"))
      pure path
  | other =>
      .error (artifactRefError (text "field " ++ quoted field ++
        text " must be a non-empty string, got " ++ typeName other))

/-- `ARTIFACT_REF_SCHEMA_VERSION`. -/
def artifactRefSchemaVersion : Text :=
  text "ArtifactRef/v1"

/-- The keys that an artifact reference must have. -/
def artifactRefKeys : List Text :=
  [text "schema_version", text "media_type", text "digest",
    text "size_bytes"]

/-- The check of the schema version of a reference. -/
def checkRefVersion (members : Fields) : Except PyError Unit :=
  let refusal (shown : Text) := artifactRefError
    (text "ArtifactRef.schema_version is " ++ shown ++
      text ", expected " ++ quoted artifactRefSchemaVersion)
  match getOrNone (text "schema_version") members with
  | .str version =>
      refuseIf (version ≠ artifactRefSchemaVersion)
        (refusal (quoted version))
  | other => .error (refusal (reprJson other))

/-- The check of the size, whose error becomes an `ArtifactRefError`. -/
def checkRefSize (members : Fields) : Except PyError Unit :=
  match Cas.validateIntegerByteCount (text "size_bytes")
      (getOrNone (text "size_bytes") members) with
  | .ok _ => pure ()
  | .error error => .error (artifactRefError error.message)

/-- The check of the optional path. -/
def checkRefPath (members : Fields) : Except PyError Unit :=
  if hasKey "path" members then do
    let _ ← validatePortablePath (text "path")
      (getOrNone (text "path") members)
    pure ()
  else pure ()

/-- `validate_artifact_ref` on a dict. -/
def validateArtifactRef (members : Fields) : Except PyError Unit := do
  let keys := members.map Prod.fst
  let missing := artifactRefKeys.filter (· ∉ keys)
  refuseIf (missing ≠ []) (artifactRefError
    (text "ArtifactRef missing required key(s): " ++
      quotedList (missing.insertionSort (· ≤ ·))))
  let extra := keys.filter (· ∉ artifactRefKeys ++ [text "path"])
  refuseIf (extra ≠ []) (artifactRefError
    (text "ArtifactRef has unexpected key(s): " ++
      quotedList (extra.insertionSort (· ≤ ·))))
  checkRefVersion members
  let _ ← Cas.validateMediaType (text "media_type")
    (getOrNone (text "media_type") members)
  let _ ← Cas.validateHashField .artifactRefError (text "digest")
    (getOrNone (text "digest") members)
  checkRefSize members
  checkRefPath members

/-! ## Profiles -/

/-- `_ADAPTER_PROFILE_V1`. -/
def adapterProfileV1 : Text :=
  text "AdapterSemanticProfile/v1"

/-- A `ProfileInvariantError`. -/
def profileInvariantError (message : Text) : PyError :=
  ⟨.profileInvariantError, message⟩

/-- One entry of `supported_cds`. -/
def validateSupportedOp (op : Json) : Except PyError Text :=
  let refusal (shown : Text) := profileInvariantError
    (text "AdapterSemanticProfile 'supported_cds' entry " ++ shown ++
      text " is not a member of MATH_IR_ALLOWLIST; a profile may only " ++
      text "claim support for operators the IR admits " ++
      text "(the allowlist is closed)")
  match op with
  | .str name => do
      refuseIf (name ∉ mathIrAllowlist) (refusal (quoted name))
      pure name
  | other => .error (refusal (reprJson other))

/-- `_validate_supported_cds`. -/
def validateSupportedCds (value : Json) : Except PyError (List Text) :=
  match value with
  | .arr items => items.mapM validateSupportedOp
  | _ =>
      .error (irContractError
        (text "AdapterSemanticProfile 'supported_cds' must be an array"))

/-- The behaviours that a profile may declare, in the order of `sorted`. -/
def behaviors : List Text :=
  [text "approximate", text "drop", text "reject"]

/-- The check of a declared behaviour, which hashes it. -/
def validateBehavior (feature : Text) (behavior : Json) :
    Except PyError Text :=
  let refusal (shown : Text) := irContractError
    (text "AdapterSemanticProfile unsupported feature " ++
      quoted feature ++ text " has behavior " ++ shown ++
      text "; must be one of " ++ quotedList behaviors)
  match behavior with
  | .str name => do
      refuseIf (name ∉ behaviors) (refusal (quoted name))
      pure name
  | .arr _ => .error (raised .typeError "unhashable type: 'list'")
  | .obj _ => .error (raised .typeError "unhashable type: 'dict'")
  | other => .error (refusal (reprJson other))

/-- `feature.endswith(_CD_WILDCARD_SUFFIX)`. -/
def isWildcard (feature : Text) : Bool :=
  (text ".*").isSuffixOf feature

/-- One entry of `unsupported_features`. -/
def validateUnsupportedFeature (supported : List Text) (entry : Json) :
    Except PyError (Text × Text) :=
  match entry with
  | .obj members =>
      match getOrNone (text "feature") members with
      | .str (point :: rest) => do
          let feature := point :: rest
          let behavior ← validateBehavior feature
            (getOrNone (text "behavior") members)
          refuseIf (isWildcard feature = false ∧ feature ∈ supported)
            (profileInvariantError
              (text "AdapterSemanticProfile feature " ++ quoted feature ++
                text " is declared unsupported but is also in " ++
                text "'supported_cds'; an operator is either supported " ++
                text "or unsupported, not both"))
          pure (feature, behavior)
      | _ =>
          .error (irContractError
            (text "AdapterSemanticProfile 'unsupported_features' entry " ++
              text "is missing a non-empty 'feature' string"))
  | other =>
      .error (irContractError
        (text "AdapterSemanticProfile 'unsupported_features' entries " ++
          text "must be objects, got " ++ typeName other))

/-- `_validate_unsupported_features`. -/
def validateUnsupportedFeatures (value : Json) (supported : List Text) :
    Except PyError (List (Text × Text)) :=
  match value with
  | .arr items => items.mapM (validateUnsupportedFeature supported)
  | _ =>
      .error (irContractError
        (text "AdapterSemanticProfile 'unsupported_features' must be " ++
          text "an array"))

/-- `_validate_pack_ref`. -/
def validatePackRef (packRef : Json) : Except PyError Unit :=
  match packRef with
  | .obj members =>
      match validateArtifactRef members with
      | .ok () => pure ()
      | .error error =>
          .error (irContractError
            (text "AdapterSemanticProfile 'pack_ref' is not a valid " ++
              text "ArtifactRef/v1: " ++ error.message))
  | _ =>
      .error (irContractError
        (text "AdapterSemanticProfile 'pack_ref' must be an object " ++
          text "(ArtifactRef/v1)"))

def checkProfileVersion (members : Fields) : Except PyError Unit :=
  let refusal (shown : Text) := irContractError
    (text "AdapterSemanticProfile schema_version must be " ++
      quoted adapterProfileV1 ++ text ", got " ++ shown)
  match getOrNone (text "schema_version") members with
  | .str version =>
      refuseIf (version ≠ adapterProfileV1) (refusal (quoted version))
  | other => .error (refusal (reprJson other))

/-- `validate_profile`, which returns the members of the profile. -/
def validateProfile (profile : Json) : Except PyError Fields :=
  match profile with
  | .obj members => do
      checkProfileVersion members
      let supported ← validateSupportedCds
        (getOr "supported_cds" (.arr []) members)
      let _ ← validateUnsupportedFeatures
        (getOr "unsupported_features" (.arr []) members) supported
      validatePackRef (getOrNone (text "pack_ref") members)
      pure members
  | other =>
      .error (irContractError
        (text "AdapterSemanticProfile must be an object, got " ++
          typeName other))

/-- `profile_id`. -/
def profileId (profile : Json) : Except PyError Text := do
  let members ← validateProfile profile
  objectId (.obj (members.filter fun member =>
    member.1 ≠ text "profile_id"))

/-! ## What the projection reads -/

/-- A string entry of an array. -/
def stringItem : Json → Option Text
  | .str name => some name
  | _ => none

/-- `set(profile.get("supported_cds", []))`. -/
def supportedOps (profile : Fields) : List Text :=
  match getOr "supported_cds" (.arr []) profile with
  | .arr items => items.filterMap stringItem
  | _ => []

/-- The feature and the behaviour of an entry that has both as strings. -/
def declaredEntry : Json → Option (Text × Text)
  | .obj members =>
      match getOrNone (text "feature") members,
          getOrNone (text "behavior") members with
      | .str feature, .str behavior => some (feature, behavior)
      | _, _ => none
  | _ => none

/-- The items of the dict `declared` in the order of their assignment. -/
def declaredBehaviors (profile : Fields) : List (Text × Text) :=
  match getOr "unsupported_features" (.arr []) profile with
  | .arr items => items.filterMap declaredEntry
  | _ => []

/-- A lookup in the dict `declared`, where a later assignment counts. -/
def declaredFor (declared : List (Text × Text)) (feature : Text) :
    Option Text :=
  (declared.reverse.find? fun entry => entry.1 = feature).map Prod.snd

/-- `_behavior_for_op`. -/
def behaviorForOp (op : Text) (profile : Fields) : Option Text :=
  let declared := declaredBehaviors profile
  match declaredFor declared op with
  | some behavior => some behavior
  | none => declaredFor declared (contentDictionary op ++ text ".*")

/-! ## What the validator has made sure of -/

/-- A profile that was validated. -/
structure ProfileSound (members : Fields) : Prop where
  version : getOrNone (text "schema_version") members =
    .str adapterProfileV1
  behaviors : ∀ entry ∈ declaredBehaviors members, entry.2 ∈ behaviors
  packRef : ∃ packRef digest,
    getOrNone (text "pack_ref") members = .obj packRef ∧
      getOrNone (text "digest") packRef = .str digest ∧
      isObjectId digest = true

theorem validateArtifactRef_digest
    {members : Fields} {result : Unit}
    (validated : validateArtifactRef members = .ok result) :
    ∃ digest, getOrNone (text "digest") members = .str digest ∧
      isObjectId digest = true := by
  simp only [validateArtifactRef, bind_eq_ok_iff,
    Cas.validateHashField_eq_ok] at validated
  obtain ⟨_, _, _, _, _, _, _, _, digest, shaped, _⟩ := validated
  exact ⟨digest, shaped⟩

theorem validatePackRef_eq_ok
    {packRef : Json} {result : Unit}
    (validated : validatePackRef packRef = .ok result) :
    ∃ members digest, packRef = .obj members ∧
      getOrNone (text "digest") members = .str digest ∧
      isObjectId digest = true := by
  cases packRef with
  | obj members =>
      rw [validatePackRef] at validated
      split at validated
      · next valid =>
          obtain ⟨digest, shaped⟩ := validateArtifactRef_digest valid
          exact ⟨members, digest, rfl, shaped⟩
      · cases validated
  | null | bool _ | int _ | float _ | str _ | arr _ => cases validated

/-- The behaviour of a validated entry is one of the three. -/
theorem behavior_of_declaredEntry
    {supported : List Text} {entry : Json} {declared validated : Text × Text}
    (valid : validateUnsupportedFeature supported entry = .ok validated)
    (isDeclared : declaredEntry entry = some declared) :
    declared.2 ∈ behaviors := by
  cases entry with
  | obj members =>
      rw [validateUnsupportedFeature] at valid
      rw [declaredEntry] at isDeclared
      split at valid
      · next point rest hasFeature =>
          simp only [bind_eq_ok_iff] at valid
          obtain ⟨behavior, checked, _⟩ := valid
          rw [hasFeature] at isDeclared
          cases hasBehavior : getOrNone (text "behavior") members with
          | str name =>
              rw [hasBehavior] at checked isDeclared
              cases isDeclared
              simp only [validateBehavior, bind_eq_ok_iff,
                refuseIf_eq_ok_iff, not_not] at checked
              obtain ⟨_, isBehavior, _⟩ := checked
              exact isBehavior
          | null | bool _ | int _ | float _ | arr _ | obj _ =>
              rw [hasBehavior] at isDeclared
              cases isDeclared
      · cases valid
  | null | bool _ | int _ | float _ | str _ | arr _ => cases isDeclared

theorem behaviors_of_validate
    {value : Json} {supported : List Text} {result : List (Text × Text)}
    {members : Fields}
    (isValue : getOr "unsupported_features" (.arr []) members = value)
    (valid : validateUnsupportedFeatures value supported = .ok result) :
    ∀ entry ∈ declaredBehaviors members, entry.2 ∈ behaviors := by
  rw [declaredBehaviors, isValue]
  cases value with
  | arr items =>
      intro declared isDeclared
      obtain ⟨entry, isEntry, same⟩ := List.mem_filterMap.mp isDeclared
      obtain ⟨validated, _, checked⟩ := (mapM_eq_ok valid).1 entry isEntry
      exact behavior_of_declaredEntry checked same
  | null | bool _ | int _ | float _ | str _ | obj _ => cases valid

theorem validateProfile_sound
    {profile : Json} {members : Fields}
    (validated : validateProfile profile = .ok members) :
    profile = .obj members ∧ ProfileSound members := by
  cases profile with
  | obj others =>
      simp only [validateProfile, bind_eq_ok_iff, pure_eq_ok_iff]
        at validated
      obtain ⟨_, version, supported, _, _, features, _, packRef, rfl⟩ :=
        validated
      refine ⟨rfl, ?_, behaviors_of_validate rfl features,
        validatePackRef_eq_ok packRef⟩
      rw [checkProfileVersion] at version
      split at version
      · next found isFound =>
          rw [refuseIf_eq_ok_iff, not_not] at version
          rw [isFound, version]
      · cases version
  | null | bool _ | int _ | float _ | str _ | arr _ => cases validated

/-- The behaviour found for an operator is one of the three. -/
theorem behaviorForOp_mem
    {members : Fields} (sound : ProfileSound members) {op behavior : Text}
    (found : behaviorForOp op members = some behavior) :
    behavior ∈ behaviors := by
  have ofLookup {feature : Text}
      (looked : declaredFor (declaredBehaviors members) feature =
        some behavior) : behavior ∈ behaviors := by
    rw [declaredFor, Option.map_eq_some_iff] at looked
    obtain ⟨entry, isEntry, rfl⟩ := looked
    exact sound.behaviors entry
      (List.mem_reverse.mp (List.mem_of_find?_eq_some isEntry))
  rw [behaviorForOp] at found
  split at found
  · next exact isExact =>
      cases found
      exact ofLookup isExact
  · exact ofLookup found

end ScientificResourceLab.Semantic
