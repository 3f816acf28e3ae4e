import ScientificResourceLab.Packs.Manifest
import ScientificResourceLab.Steps.Checks

/-!
# What building a manifest can raise

The builder documents two exceptions.  Two others can pass: hashing a list or
a dict in the place of a name, and printing an integer beyond the digit limit.
`HarmlessManifest` says when neither is reached, check by check in the order
of the source, and `buildManifest_contained_iff` that this is the exact
condition.
-/

namespace ScientificResourceLab.Packs

open Python Contracts Steps

/-- A `PackManifestError`, of which `LicenseError` is a subclass. -/
def ManifestFailure (failure : Failure) : Prop :=
  failure.error.kind = .packManifestError ∨
    failure.error.kind = .licenseError

theorem manifestFailure_allowed (message : Text) :
    ManifestFailure (manifestFailure message) :=
  .inl rfl

theorem contained_refuseIf
    {condition : Prop} [Decidable condition] {message : Text} :
    RaisesOnly ManifestFailure
      (refuseIf condition (manifestFailure message)) :=
  raisesOnly_refuseIf (manifestFailure_allowed message)

theorem contained_manifestFailure {α : Type} (message : Text) :
    RaisesOnly ManifestFailure
      (.error (manifestFailure message) : Except Failure α) :=
  raisesOnly_error (manifestFailure_allowed message)

/-! ## Values -/

/-- Printing is stopped by an over-long integer only. -/
theorem contained_shown_iff {value : Json} :
    RaisesOnly ManifestFailure (shown value) ↔ printable value = true := by
  rw [shown]
  split
  · next isPrintable =>
      exact iff_of_true (raisesOnly_ok _) isPrintable
  · next notPrintable =>
      refine iff_of_false ?_ notPrintable
      rw [raisesOnly_error_iff]
      rintro (isKind | isKind)
      · cases isKind
      · cases isKind

/-- Printing a value and then refusing it. -/
theorem contained_refusal_iff
    {α : Type} {value : Json} {message : Text → Text} :
    RaisesOnly ManifestFailure (do
      let shownValue ← shown value
      (.error (manifestFailure (message shownValue)) :
        Except Failure α)) ↔ printable value = true := by
  rw [raisesOnly_bind_iff, contained_shown_iff]
  exact and_iff_left fun _ _ => contained_manifestFailure _

theorem contained_nonEmptyString_iff {value : Json} {field : Text} :
    RaisesOnly ManifestFailure (validateNonEmptyString value field) ↔
      printable value = true := by
  rw [validateNonEmptyString.eq_def]
  split
  · exact iff_of_true (raisesOnly_ok _) rfl
  · exact contained_refusal_iff

/-- A value that may stand in the place of a name. -/
def Nameable (value : Json) : Prop :=
  hashable value = true ∧ printable value = true

theorem contained_inFrozenSet_iff {names : List Text} {value : Json} :
    RaisesOnly ManifestFailure (inFrozenSet names value) ↔
      hashable value = true := by
  rw [inFrozenSet.eq_def]
  split
  · next isHashable =>
      refine iff_of_true ?_ isHashable
      split
      · exact raisesOnly_ok _
      · exact raisesOnly_ok _
  · next notHashable =>
      refine iff_of_false ?_ notHashable
      rw [raisesOnly_error_iff]
      rintro (isKind | isKind)
      · cases isKind
      · cases isKind

theorem inFrozenSet_returns
    {names : List Text} {value : Json} (isHashable : hashable value = true) :
    ∃ answer, inFrozenSet names value = .ok answer := by
  rw [inFrozenSet.eq_def, if_pos isHashable]
  split
  · exact ⟨_, rfl⟩
  · exact ⟨_, rfl⟩

theorem contained_name_iff
    {names : List Text} {label : String} {value : Json} :
    RaisesOnly ManifestFailure (validateName names label value) ↔
      Nameable value := by
  rw [validateName, raisesOnly_bind_iff, contained_inFrozenSet_iff]
  refine and_congr_right fun isHashable => ?_
  obtain ⟨answer, isAnswer⟩ := @inFrozenSet_returns names _ isHashable
  constructor
  · intro each
    have raises := each answer isAnswer
    split at raises
    · rfl
    · exact contained_refusal_iff.mp raises
  · intro isPrintable answer _
    split
    · exact raisesOnly_ok _
    · exact contained_refusal_iff.mpr isPrintable

theorem contained_sha256 (value : Json) (field : Text) :
    RaisesOnly ManifestFailure (validateSha256 value field) := by
  rw [validateSha256.eq_def]
  split
  · split
    · exact raisesOnly_ok _
    · exact contained_manifestFailure _
  · exact contained_manifestFailure _

theorem contained_optionalString (value : Json) (field : Text) :
    RaisesOnly ManifestFailure (validateOptionalString value field) := by
  rw [validateOptionalString.eq_def]
  split
  · exact raisesOnly_ok _
  · exact raisesOnly_ok _
  · exact contained_manifestFailure _

theorem contained_dict (subject : Text) (value : Json) :
    RaisesOnly ManifestFailure (requireDict subject value) := by
  rw [requireDict.eq_def]
  split
  · exact raisesOnly_ok _
  · exact contained_manifestFailure _

theorem contained_array (field : String) (value : Json) :
    RaisesOnly ManifestFailure (requireArray field value) := by
  rw [requireArray.eq_def]
  split
  · exact raisesOnly_ok _
  · exact contained_manifestFailure _

theorem contained_keys
    (subject : String) (required allowed : List Text) (members : Fields) :
    RaisesOnly ManifestFailure
      (requireExactKeys subject required allowed members) :=
  raisesOnly_bind contained_refuseIf fun _ _ => contained_refuseIf

theorem requireDict_returns_iff
    {subject : Text} {value : Json} {members : Fields} :
    requireDict subject value = .ok members ↔ value = .obj members := by
  rw [requireDict.eq_def]
  split
  · simp
  · next notDict => exact iff_of_false (by simp) (notDict members)

theorem requireArray_returns_iff
    {field : String} {value : Json} {items : List Json} :
    requireArray field value = .ok items ↔ value = .arr items := by
  rw [requireArray.eq_def]
  split
  · simp
  · next notArray => exact iff_of_false (by simp) (notArray items)

/-- The keys of a dict are those that are required and allowed. -/
structure HasKeys (required allowed : List Text) (members : Fields) :
    Prop where
  required : ∀ key ∈ required, key ∈ members.map Prod.fst
  allowed : ∀ key ∈ members.map Prod.fst, key ∈ allowed

theorem keysBeyond_eq_nil_iff {keys others : List Text} :
    keysBeyond keys others = [] ↔ ∀ key ∈ keys, key ∈ others := by
  have sorted := List.perm_insertionSort (· ≤ ·)
    (keys.filter (· ∉ others))
  rw [keysBeyond, ← List.length_eq_zero_iff, sorted.length_eq,
    List.length_eq_zero_iff, List.filter_eq_nil_iff]
  simp

theorem requireExactKeys_eq_ok_iff
    {subject : String} {required allowed : List Text} {members : Fields}
    {result : Unit} :
    requireExactKeys subject required allowed members = .ok result ↔
      HasKeys required allowed members := by
  simp only [requireExactKeys, bind_eq_ok_iff, refuseIf_eq_ok_iff, ne_eq,
    not_not, keysBeyond_eq_nil_iff]
  constructor
  · rintro ⟨_, isRequired, isAllowed⟩
    exact ⟨isRequired, isAllowed⟩
  · intro keys
    exact ⟨⟨⟩, keys.required, keys.allowed⟩

/-- A record that is read from a dict with known keys. -/
theorem contained_record_iff
    {α : Type} {subject : Text} {label : String}
    {required allowed : List Text} {value : Json}
    {body : Fields → Except Failure α} {harmless : Fields → Prop}
    (each : ∀ members,
      (RaisesOnly ManifestFailure (body members) ↔ harmless members)) :
    RaisesOnly ManifestFailure (do
        let members ← requireDict subject value
        requireExactKeys label required allowed members
        body members) ↔
      ∀ members, value = .obj members → HasKeys required allowed members →
        harmless members := by
  rw [raisesOnly_bind_iff]
  refine (and_iff_right (contained_dict _ _)).trans ?_
  refine forall_congr' fun members => ?_
  rw [requireDict_returns_iff]
  refine imp_congr_right fun _ => ?_
  rw [raisesOnly_bind_of_head (contained_keys _ _ _ _)
    fun _ _ => each members, Returns]
  simp only [requireExactKeys_eq_ok_iff, exists_const]

/-! ## Records -/

/-- The checks of the names of a platform. -/
def HarmlessPlatform (value : Json) : Prop :=
  ∀ members, value = .obj members →
    HasKeys [text "os", text "arch"] [text "os", text "arch", text "abi"]
      members →
    Reached
      [⟨Returns (validateName osNames "platform.os"
          (getOrNone (text "os") members)),
        Nameable (getOrNone (text "os") members)⟩,
      ⟨True, Nameable (getOrNone (text "arch") members)⟩]

theorem contained_platform_iff {value : Json} {field : Text} :
    RaisesOnly ManifestFailure (validatePlatform value field) ↔
      HarmlessPlatform value := by
  refine contained_record_iff fun members => ?_
  refine raisesOnly_bind_check contained_name_iff fun _ _ => ?_
  rw [raisesOnly_bind_iff, contained_name_iff]
  refine (and_iff_left ?_).trans (by simp)
  intro _ _
  exact raisesOnly_bind (contained_optionalString _ _)
    fun _ _ => raisesOnly_ok _

theorem contained_source (value : Json) :
    RaisesOnly ManifestFailure (validateSource value) := by
  refine raisesOnly_bind (contained_dict _ _) fun members _ => ?_
  refine raisesOnly_bind (contained_keys _ _ _ _) fun _ _ => ?_
  refine raisesOnly_bind (contained_optionalString _ _) fun _ _ => ?_
  refine raisesOnly_bind (contained_optionalString _ _) fun _ _ => ?_
  exact raisesOnly_bind (contained_sha256 _ _) fun _ _ => raisesOnly_ok _

theorem contained_spdx (spdx : Text) :
    RaisesOnly ManifestFailure (checkSpdx spdx) := by
  rw [checkSpdx]
  split_ifs
  · exact raisesOnly_ok _
  · exact raisesOnly_error (.inr rfl)
  · exact raisesOnly_error (.inr rfl)

/-- The printed identifier of a licence. -/
def HarmlessLicense (value : Json) : Prop :=
  ∀ members, value = .obj members →
    HasKeys [text "spdx", text "texts_sha256"]
      [text "spdx", text "texts_sha256"] members →
    printable (getOrNone (text "spdx") members) = true

theorem contained_license_iff {value : Json} :
    RaisesOnly ManifestFailure (validateLicense value) ↔
      HarmlessLicense value := by
  refine contained_record_iff fun members => ?_
  rw [raisesOnly_bind_iff, contained_nonEmptyString_iff]
  refine and_iff_left fun _ _ => ?_
  refine raisesOnly_bind (contained_spdx _) fun _ _ => ?_
  refine raisesOnly_bind (contained_array _ _) fun _ _ => ?_
  refine raisesOnly_bind (raisesOnly_mapM fun _ _ => ?_)
    fun _ _ => raisesOnly_ok _
  exact contained_sha256 _ _

/-- The checks of the fields of an entrypoint. -/
def HarmlessEntrypoint (value : Json) : Prop :=
  ∀ members, value = .obj members →
    HasKeys [text "entrypoint_id", text "kind", text "ref"]
      [text "entrypoint_id", text "kind", text "ref"] members →
    Reached
      [⟨Returns (validateNonEmptyString
          (getOrNone (text "entrypoint_id") members)
          (text "entrypoint.entrypoint_id")),
        printable (getOrNone (text "entrypoint_id") members) = true⟩,
      ⟨Returns (validateName entrypointKinds "entrypoint.kind"
          (getOrNone (text "kind") members)),
        Nameable (getOrNone (text "kind") members)⟩,
      ⟨True, printable (getOrNone (text "ref") members) = true⟩]

/-- The last check of a sequence, after which nothing is raised. -/
theorem raisesOnly_last_check
    {α β : Type} {first : Except Failure α} {rest : α → Except Failure β}
    {wanted : Prop} (head : RaisesOnly ManifestFailure first ↔ wanted)
    (tail : ∀ value, RaisesOnly ManifestFailure (rest value)) :
    RaisesOnly ManifestFailure (first >>= rest) ↔
      Reached [⟨True, wanted⟩] := by
  rw [raisesOnly_bind_iff, head]
  refine (and_iff_left fun value _ => tail value).trans (by simp)

theorem contained_entrypoint_iff {value : Json} {field : Text} :
    RaisesOnly ManifestFailure (validateEntrypoint value field) ↔
      HarmlessEntrypoint value := by
  refine contained_record_iff fun members => ?_
  refine raisesOnly_bind_check contained_nonEmptyString_iff fun _ _ => ?_
  refine raisesOnly_bind_check contained_name_iff fun _ _ => ?_
  exact raisesOnly_last_check contained_nonEmptyString_iff
    fun _ => raisesOnly_ok _

/-- The checks of the two probes. -/
def HarmlessProbes (value : Json) : Prop :=
  ∀ members, value = .obj members →
    HasKeys [text "runtime_probe", text "actual_compute_probe"]
      [text "runtime_probe", text "actual_compute_probe"] members →
    Reached
      [⟨Returns (validateNonEmptyString
          (getOrNone (text "runtime_probe") members)
          (text "probes.runtime_probe")),
        printable (getOrNone (text "runtime_probe") members) = true⟩,
      ⟨True,
        printable (getOrNone (text "actual_compute_probe") members) =
          true⟩]

theorem contained_probes_iff {value : Json} :
    RaisesOnly ManifestFailure (validateProbes value) ↔
      HarmlessProbes value := by
  refine contained_record_iff fun members => ?_
  refine raisesOnly_bind_check contained_nonEmptyString_iff fun _ _ => ?_
  exact raisesOnly_last_check contained_nonEmptyString_iff
    fun _ => raisesOnly_ok _

/-! ## Fields -/

theorem contained_schemaVersion_iff {value : Json} :
    RaisesOnly ManifestFailure (validateSchemaVersion value) ↔
      printable value = true := by
  rw [validateSchemaVersion, raisesOnly_bind_iff,
    contained_nonEmptyString_iff]
  exact and_iff_left fun _ _ => contained_refuseIf

theorem contained_profile_iff {item : Json} {index : Nat} :
    RaisesOnly ManifestFailure (validateProfile item index) ↔
      printable item = true := by
  rw [validateProfile.eq_def]
  split
  · refine iff_of_true ?_ rfl
    exact raisesOnly_bind contained_refuseIf fun _ _ => raisesOnly_ok _
  · exact contained_refusal_iff

/-- The items of an array that are reached are harmless. -/
def HarmlessItems
    {α : Type} (body : Json → Nat → Except Failure α)
    (harmless : Json → Prop) (items : List Json) : Prop :=
  Reached (items.zipIdx.map fun entry =>
    ⟨Returns (body entry.1 entry.2), harmless entry.1⟩)

theorem contained_items_iff
    {α : Type} {body : Json → Nat → Except Failure α}
    {harmless : Json → Prop} {items : List Json}
    (each : ∀ item index,
      (RaisesOnly ManifestFailure (body item index) ↔ harmless item)) :
    RaisesOnly ManifestFailure
        (items.zipIdx.mapM fun entry => body entry.1 entry.2) ↔
      HarmlessItems body harmless items := by
  rw [raisesOnly_mapM_reached]
  exact reached_map_congr (fun _ _ => Iff.rfl) fun entry _ =>
    each entry.1 entry.2

/-- The profiles that are reached. -/
def HarmlessProfiles (value : Json) : Prop :=
  ∀ items, value = .arr items →
    HarmlessItems validateProfile (fun item => printable item = true) items

theorem contained_profilesField_iff {members : Fields} :
    RaisesOnly ManifestFailure (validateProfilesField members) ↔
      HarmlessProfiles
        (getOrNone (text "capability_profiles") members) := by
  rw [validateProfilesField, raisesOnly_bind_iff]
  refine (and_iff_right (contained_array _ _)).trans ?_
  refine forall_congr' fun items => ?_
  rw [requireArray_returns_iff]
  exact imp_congr_right fun _ =>
    contained_items_iff fun _ _ => contained_profile_iff

/-- The platforms that are reached. -/
def HarmlessPlatforms (value : Json) : Prop :=
  ∀ items, value = .arr items →
    HarmlessItems
      (fun item index =>
        validatePlatform item (indexedField "platforms" index))
      HarmlessPlatform items

theorem contained_platformsField_iff {members : Fields} :
    RaisesOnly ManifestFailure (validatePlatformsField members) ↔
      HarmlessPlatforms (getOrNone (text "platforms") members) := by
  rw [validatePlatformsField, HarmlessPlatforms]
  cases getOrNone (text "platforms") members with
  | null | bool _ | int _ | float _ | str _ | obj _ =>
      refine iff_of_true (contained_manifestFailure _) ?_
      intro items isArray
      cases isArray
  | arr items =>
      cases items with
      | nil =>
          refine iff_of_true (contained_manifestFailure _) ?_
          rintro _ ⟨⟩
          exact trivial
      | cons first rest =>
          have items := @contained_items_iff _
            (fun item index =>
              validatePlatform item (indexedField "platforms" index))
            HarmlessPlatform (first :: rest)
            fun _ _ => contained_platform_iff
          refine items.trans ?_
          simp

/-- The entrypoints that are reached, and then the probes. -/
def HarmlessEntrypoints (members : Fields) : Prop :=
  ∀ items, getOrNone (text "entrypoints") members = .arr items →
    Reached
      [⟨Returns (items.zipIdx.mapM fun entry =>
          validateEntrypoint entry.1
            (indexedField "entrypoints" entry.2)),
        HarmlessItems
          (fun item index =>
            validateEntrypoint item (indexedField "entrypoints" index))
          HarmlessEntrypoint items⟩,
      ⟨True, HarmlessProbes (getOrNone (text "probes") members)⟩]

theorem contained_entrypointsAndProbes_iff {members : Fields} :
    RaisesOnly ManifestFailure (validateEntrypointsAndProbes members) ↔
      HarmlessEntrypoints members := by
  rw [validateEntrypointsAndProbes, raisesOnly_bind_iff]
  refine (and_iff_right (contained_array _ _)).trans ?_
  refine forall_congr' fun items => ?_
  rw [requireArray_returns_iff]
  have entrypoints := @contained_items_iff _
    (fun item index =>
      validateEntrypoint item (indexedField "entrypoints" index))
    HarmlessEntrypoint items fun _ _ => contained_entrypoint_iff
  refine imp_congr_right fun _ => ?_
  refine raisesOnly_bind_check entrypoints fun _ _ => ?_
  refine raisesOnly_last_check contained_probes_iff fun _ => ?_
  refine raisesOnly_bind contained_refuseIf fun _ _ => ?_
  exact raisesOnly_bind contained_refuseIf fun _ _ => raisesOnly_ok _

/-- An integer within the digit limit, or no integer at all. -/
def ShortWrites (value : Json) : Prop :=
  ∀ writes, value = .int writes → printable (.int writes) = true

theorem contained_canonicalWrites_iff {value : Json} :
    RaisesOnly ManifestFailure (validateCanonicalWrites value) ↔
      ShortWrites value := by
  rw [validateCanonicalWrites.eq_def]
  split
  · refine iff_of_true (raisesOnly_ok _) ?_
    rintro _ ⟨⟩
    decide
  · refine contained_refusal_iff.trans ?_
    simp [ShortWrites]
  · next notInt =>
      refine iff_of_true (contained_manifestFailure _) ?_
      intro writes isInt
      exact absurd isInt (notInt writes)

theorem contained_grantsAuthority (value : Json) :
    RaisesOnly ManifestFailure (validateGrantsAuthority value) := by
  rw [validateGrantsAuthority.eq_def]
  split
  · exact raisesOnly_ok _
  · exact contained_manifestFailure _
  · exact contained_manifestFailure _

/-- The checks of the last three fields. -/
def HarmlessTail (members : Fields) : Prop :=
  Reached
    [⟨Returns (validateNonEmptyString
        (getOrNone (text "created_utc") members) (text "created_utc")),
      printable (getOrNone (text "created_utc") members) = true⟩,
    ⟨True, ShortWrites (getOrNone (text "canonical_writes") members)⟩]

theorem contained_manifestTail_iff {members : Fields} :
    RaisesOnly ManifestFailure (validateManifestTail members) ↔
      HarmlessTail members := by
  refine raisesOnly_bind_check contained_nonEmptyString_iff fun _ _ => ?_
  refine raisesOnly_last_check contained_canonicalWrites_iff fun _ => ?_
  exact raisesOnly_bind (contained_grantsAuthority _)
    fun _ _ => raisesOnly_ok _

theorem contained_sbom (value : Json) :
    RaisesOnly ManifestFailure (validateSbom value) := by
  rw [validateSbom.eq_def]
  split
  · exact raisesOnly_ok _
  · exact raisesOnly_bind (contained_sha256 _ _) fun _ _ => raisesOnly_ok _

/-! ## The builder -/

def stringCheck (members : Fields) (key : String) : Check :=
  ⟨Returns (validateNonEmptyString (getOrNone (text key) members)
      (text key)),
    printable (getOrNone (text key) members) = true⟩

/-- The checks of a manifest in the order of the source. -/
def manifestChecks (members : Fields) : List Check :=
  [⟨Returns (validateSchemaVersion
        (getOrNone (text "schema_version") members)),
      printable (getOrNone (text "schema_version") members) = true⟩,
    stringCheck members "pack_id", stringCheck members "name",
    stringCheck members "version",
    ⟨Returns (validateProfilesField members),
      HarmlessProfiles
        (getOrNone (text "capability_profiles") members)⟩,
    ⟨Returns (validatePlatformsField members),
      HarmlessPlatforms (getOrNone (text "platforms") members)⟩,
    ⟨Returns (validateSource (getOrNone (text "source") members)), True⟩,
    ⟨Returns (validateSha256 (getOrNone (text "lock_sha256") members)
        (text "lock_sha256")), True⟩,
    ⟨Returns (validateSha256 (getOrNone (text "tree_sha256") members)
        (text "tree_sha256")), True⟩,
    ⟨Returns (validateLicense (getOrNone (text "license") members)),
      HarmlessLicense (getOrNone (text "license") members)⟩,
    ⟨Returns (validateSbom (getOrNone (text "sbom_sha256") members)),
      True⟩,
    ⟨Returns (validateEntrypointsAndProbes members),
      HarmlessEntrypoints members⟩,
    ⟨True, HarmlessTail members⟩]

/--
No check that is reached hashes a list or a dict or prints an integer beyond
the digit limit.
-/
def HarmlessManifest (value : Json) : Prop :=
  ∀ members, value = .obj members →
    HasKeys manifestKeys manifestKeys members →
    Reached (manifestChecks members)

/--
Building a manifest returns it or raises one of the documented errors exactly
when no check that is reached meets a list or dict in the place of a name or
prints an over-long integer.
-/
theorem buildManifest_contained_iff (value : Json) :
    RaisesOnly ManifestFailure (buildManifest value) ↔
      HarmlessManifest value := by
  cases value with
  | null | bool _ | int _ | float _ | str _ | arr _ =>
      refine iff_of_true (contained_manifestFailure _) ?_
      intro members isDict
      cases isDict
  | obj members =>
      have always {α : Type} {result : Except Failure α}
          (contained : RaisesOnly ManifestFailure result) :
          RaisesOnly ManifestFailure result ↔ True :=
        iff_true_intro contained
      have keys :
          (Returns (requireExactKeys "manifest" manifestKeys manifestKeys
              members) → Reached (manifestChecks members)) ↔
            HarmlessManifest (.obj members) := by
        simp only [HarmlessManifest, Returns, requireExactKeys_eq_ok_iff,
          exists_const, Json.obj.injEq, forall_eq']
      rw [buildManifest, validateTopStructure, bind_assoc]
      refine Iff.trans (raisesOnly_bind_of_head (contained_keys _ _ _ _)
        fun _ _ => ?_) keys
      rw [bind_assoc]
      refine raisesOnly_bind_check contained_schemaVersion_iff
        fun _ _ => ?_
      rw [pure_bind]
      refine raisesOnly_bind_check contained_nonEmptyString_iff
        fun _ _ => ?_
      refine raisesOnly_bind_check contained_nonEmptyString_iff
        fun _ _ => ?_
      refine raisesOnly_bind_check contained_nonEmptyString_iff
        fun _ _ => ?_
      refine raisesOnly_bind_check contained_profilesField_iff
        fun _ _ => ?_
      refine raisesOnly_bind_check contained_platformsField_iff
        fun _ _ => ?_
      refine raisesOnly_bind_check (always (contained_source _))
        fun _ _ => ?_
      refine raisesOnly_bind_check (always (contained_sha256 _ _))
        fun _ _ => ?_
      refine raisesOnly_bind_check (always (contained_sha256 _ _))
        fun _ _ => ?_
      refine raisesOnly_bind_check contained_license_iff fun _ _ => ?_
      refine raisesOnly_bind_check (always (contained_sbom _))
        fun _ _ => ?_
      refine raisesOnly_bind_check contained_entrypointsAndProbes_iff
        fun _ _ => ?_
      exact raisesOnly_last_check contained_manifestTail_iff
        fun _ => raisesOnly_ok _

/-- A manifest whose platform has a list in the place of its system. -/
def listedSystem : Json :=
  .obj (manifestKeys.map fun key =>
    if key = text "schema_version" then
      (key, .str packManifestSchemaVersion)
    else if key = text "capability_profiles" then (key, .arr [])
    else if key = text "platforms" then
      (key, .arr [.obj [(text "os", .arr []),
        (text "arch", .str (text "arm64"))]])
    else (key, .str (text "x")))

/-- The exception is not one of the documented ones. -/
def escapesManifest {α : Type} : Except Failure α → Bool
  | .ok _ => false
  | .error failure =>
      failure.error.kind ≠ .packManifestError &&
        failure.error.kind ≠ .licenseError

/-- Looking a list up in a frozen set raises a `TypeError`. -/
theorem listedSystem_escapes :
    ¬ ∀ value, RaisesOnly ManifestFailure (buildManifest value) := by
  intro total
  have escapes : escapesManifest (buildManifest listedSystem) = true := by
    decide
  cases built : buildManifest listedSystem with
  | ok manifest =>
      rw [built] at escapes
      cases escapes
  | error failure =>
      rw [built] at escapes
      have contained := total listedSystem failure built
      rcases contained with isKind | isKind
      · simp [escapesManifest, isKind] at escapes
      · simp [escapesManifest, isKind] at escapes

end ScientificResourceLab.Packs
