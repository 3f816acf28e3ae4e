import ScientificResourceLab.Catalog.Cache

/-!
# The errors of reading a cache file

`SnapshotCache.read` turns undecodable bytes, a malformed envelope and a
mismatch into a `LocalCacheError`, and the validators of the registry raise a
`CatalogError`.  Between these checks stand operations with exceptions of
their own: the conversion of a long integer, the iteration over `entries`,
the membership tests that hash a value, the conversion of a location state
to a dict and the UTF-8 encoding of a document.

`HarmlessFile` says what a file must look like for none of them to fail, and
it is exactly the condition under which reading raises errors of the
`ContractError` family alone (`read_contained_iff`).
-/

namespace ScientificResourceLab.Catalog

open Python Contracts Steps

/-! ## Hashing -/

/-- A value that a membership test can hash. -/
def hashable : Json → Bool
  | .arr _ | .obj _ => false
  | _ => true

theorem raisesOnly_requireMember_iff
    {names : List Text} {subject : Text} {value : Json} :
    RaisesOnly ContractFailure (requireMember names subject value) ↔
      hashable value = true := by
  rw [requireMember.eq_def]
  cases value with
  | arr _ | obj _ =>
      dsimp only
      rw [raisesOnly_error_iff, ContractFailure, hashable]
      exact Iff.of_eq rfl
  | str value =>
      dsimp only
      simp only [hashable, iff_true]
      split_ifs
      · exact raisesOnly_ok _
      · exact raisesOnly_error rfl
  | null | bool _ | int _ | float _ =>
      simp only [hashable, iff_true]
      exact raisesOnly_error rfl

/-- A platform whose names can be hashed as far as they are looked at. -/
def PlatformHashable (platform : RawPlatform) : Prop :=
  hashable platform.os = true ∧
    (∀ os ∈ osNames, platform.os = .str os → hashable platform.arch = true)

theorem raisesOnly_validatePlatform_iff
    {index : Nat} {platform : RawPlatform} :
    RaisesOnly ContractFailure (validatePlatform index platform) ↔
      PlatformHashable platform := by
  simp only [validatePlatform, raisesOnly_bind_iff,
    raisesOnly_requireMember_iff, requireMember_eq_ok, PlatformHashable]
  refine and_congr_right fun _ => ?_
  constructor
  · intro reached os isName isOs
    exact (reached os ⟨isOs, isName⟩).1
  · rintro reached os ⟨isOs, isName⟩
    exact ⟨reached os isName isOs, fun _ _ => raisesOnly_ok _⟩

/-- A platform that is accepted. -/
def PlatformNamed (platform : RawPlatform) : Prop :=
  (∃ os ∈ osNames, platform.os = .str os) ∧
    ∃ arch ∈ archNames, platform.arch = .str arch

theorem validatePlatform_returns_iff
    {index : Nat} {platform : RawPlatform} :
    (∃ result, validatePlatform index platform = .ok result) ↔
      PlatformNamed platform := by
  simp only [validatePlatform, bind_eq_ok_iff, pure_eq_ok_iff,
    requireMember_eq_ok, PlatformNamed]
  constructor
  · rintro ⟨_, os, ⟨isOs, osName⟩, arch, ⟨isArch, archName⟩, -⟩
    exact ⟨⟨os, osName, isOs⟩, arch, archName, isArch⟩
  · rintro ⟨⟨os, osName, isOs⟩, arch, archName, isArch⟩
    exact ⟨_, os, ⟨isOs, osName⟩, arch, ⟨isArch, archName⟩, rfl⟩

/-- A counting loop raises what its body raises where it stops first. -/
theorem raisesOnly_enumerateM_iff
    {α β : Type} {allowed : PyError → Prop}
    {body : Nat → α → Except PyError β} {items : List α} {start : Nat} :
    RaisesOnly allowed (enumerateM body start items) ↔
      ∀ before item after, items = before ++ item :: after →
        (∃ results, enumerateM body start before = .ok results) →
          RaisesOnly allowed (body (start + before.length) item) := by
  induction items generalizing start with
  | nil =>
      constructor
      · intro _ before item after isSplit
        exact absurd isSplit (by simp)
      · intro _
        exact raisesOnly_ok []
  | cons first rest induction =>
      rw [enumerateM, raisesOnly_bind_iff]
      constructor
      · rintro ⟨head, tail⟩ before item after isSplit ⟨results, passed⟩
        cases before with
        | nil =>
            cases isSplit
            exact head
        | cons earlier before =>
            cases isSplit
            simp only [enumerateM, bind_eq_ok_iff] at passed
            obtain ⟨result, isResult, others, isOthers, -⟩ := passed
            have loop := (raisesOnly_bind_iff.mp (tail _ isResult)).1
            have reached := induction.mp loop before item after rfl
              ⟨others, isOthers⟩
            rwa [Nat.add_right_comm, Nat.add_assoc] at reached
      · intro each
        refine ⟨each [] first rest rfl ⟨[], rfl⟩, fun result isResult => ?_⟩
        refine raisesOnly_bind (induction.mpr ?_) fun _ _ => raisesOnly_ok _
        rintro before item after isSplit ⟨results, passed⟩
        have reached := each (first :: before) item after
          (by rw [isSplit]; rfl)
          ⟨result :: results, by
            simp only [enumerateM, bind_eq_ok_iff, pure_eq_ok_iff]
            exact ⟨_, isResult, _, passed, rfl⟩⟩
        rwa [List.length_cons, Nat.add_comm before.length,
          ← Nat.add_assoc] at reached

/-- A counting loop returns when its body does. -/
theorem enumerateM_returns_iff
    {α β : Type} {accepted : α → Prop}
    {body : Nat → α → Except PyError β}
    (returns : ∀ index item,
      (∃ result, body index item = .ok result) ↔ accepted item)
    {items : List α} {start : Nat} :
    (∃ results, enumerateM body start items = .ok results) ↔
      ∀ item ∈ items, accepted item := by
  induction items generalizing start with
  | nil => simp [enumerateM]
  | cons first rest induction =>
      rw [List.forall_mem_cons, ← returns start first,
        ← @induction (start + 1)]
      simp only [enumerateM, bind_eq_ok_iff, pure_eq_ok_iff]
      constructor
      · rintro ⟨_, result, isResult, others, isOthers, -⟩
        exact ⟨⟨result, isResult⟩, others, isOthers⟩
      · rintro ⟨⟨result, isResult⟩, others, isOthers⟩
        exact ⟨_, result, isResult, others, isOthers, rfl⟩

/-- Platforms whose names can be hashed as far as they are looked at. -/
def PlatformsHashable (platforms : List RawPlatform) : Prop :=
  ∀ before platform after, platforms = before ++ platform :: after →
    (∀ earlier ∈ before, PlatformNamed earlier) →
      PlatformHashable platform

theorem raisesOnly_validatePlatforms_iff
    {platforms : List RawPlatform} :
    RaisesOnly ContractFailure (enumerateM validatePlatform 0 platforms) ↔
      PlatformsHashable platforms := by
  have returns (before : List RawPlatform) :
      (∃ results, enumerateM validatePlatform 0 before = .ok results) ↔
        ∀ earlier ∈ before, PlatformNamed earlier :=
    enumerateM_returns_iff fun index platform =>
      @validatePlatform_returns_iff index platform
  simp only [raisesOnly_enumerateM_iff, raisesOnly_validatePlatform_iff,
    returns, PlatformsHashable]

/-! ## The validators of an entry -/

theorem contained_requireNonEmptyStr (value : Json) (field : String) :
    RaisesOnly ContractFailure (requireNonEmptyStr value field) := by
  unfold requireNonEmptyStr
  split
  · exact raisesOnly_ok _
  · exact raisesOnly_error rfl

theorem contained_validateProfile (value : Json) :
    RaisesOnly ContractFailure (validateProfile value) := by
  apply raisesOnly_bind (contained_requireNonEmptyStr value "profile")
  intro name _
  have hashes : hashable (.str name) = true := rfl
  exact raisesOnly_requireMember_iff.mpr hashes

theorem contained_validateAdapterId (value : Json) :
    RaisesOnly ContractFailure (validateAdapterId value) := by
  rw [validateAdapterId.eq_def]
  split
  · exact raisesOnly_ok _
  · have inner := contained_requireNonEmptyStr value "adapter_id"
    cases checked : requireNonEmptyStr value "adapter_id" with
    | ok name => exact raisesOnly_ok _
    | error error => exact raisesOnly_error (inner error checked)

theorem contained_validateOptionalDigest (value : Json) (field : String) :
    RaisesOnly ContractFailure (validateOptionalDigest value field) := by
  rw [validateOptionalDigest.eq_def]
  split
  · exact raisesOnly_ok _
  · split_ifs
    · exact raisesOnly_ok _
    · exact raisesOnly_error rfl
  · exact raisesOnly_error rfl

theorem contained_catalogRefusal
    {condition : Prop} [Decidable condition] {message : Text} :
    RaisesOnly ContractFailure
      (refuseIf condition (catalogError message)) :=
  raisesOnly_refuseIf rfl

theorem contained_requireKeys
    (required : List Text) (members : Fields) (subject : Text) :
    RaisesOnly ContractFailure (requireKeys required members subject) :=
  contained_catalogRefusal

theorem contained_requireOptionalStr (value : Json) (field : Text) :
    RaisesOnly ContractFailure (requireOptionalStr value field) := by
  rw [requireOptionalStr.eq_def]
  split
  · exact raisesOnly_ok _
  · exact raisesOnly_ok _
  · exact raisesOnly_error rfl

theorem contained_buildPlatform (index : Nat) (value : Json) :
    RaisesOnly ContractFailure (buildPlatform index value) := by
  rw [buildPlatform.eq_def]
  split
  · apply raisesOnly_bind (contained_requireKeys _ _ _)
    intro _ _
    refine raisesOnly_bind contained_catalogRefusal ?_
    intro _ _
    apply raisesOnly_bind (contained_requireOptionalStr _ _)
    intro _ _
    exact raisesOnly_ok _
  · exact raisesOnly_error rfl

theorem contained_buildMeasuredResources (value : Json) :
    RaisesOnly ContractFailure (buildMeasuredResources value) := by
  rw [buildMeasuredResources.eq_def]
  split
  · exact raisesOnly_ok _
  · apply raisesOnly_bind (contained_requireKeys _ _ _)
    intro _ _
    exact raisesOnly_ok _
  · exact raisesOnly_error rfl

theorem contained_requireCount (value : Json) (field : String) :
    RaisesOnly ContractFailure (requireCount value field) := by
  rw [requireCount.eq_def]
  split
  · split_ifs
    · exact raisesOnly_error rfl
    · exact raisesOnly_ok _
  · exact raisesOnly_error rfl

theorem contained_requireSeconds (value : Json) :
    RaisesOnly ContractFailure (requireSeconds value) := by
  rw [requireSeconds.eq_def]
  split
  · split_ifs
    · exact raisesOnly_error rfl
    · exact raisesOnly_ok _
  · split_ifs
    · exact raisesOnly_error rfl
    · exact raisesOnly_ok _
  · exact raisesOnly_error rfl

theorem contained_validateMeasuredResources
    (measured : Option RawMeasured) :
    RaisesOnly ContractFailure (validateMeasuredResources measured) := by
  cases measured with
  | none => exact raisesOnly_ok _
  | some raw =>
      apply raisesOnly_bind (contained_requireCount _ _)
      intro _ _
      apply raisesOnly_bind (contained_requireCount _ _)
      intro _ _
      apply raisesOnly_bind (contained_requireSeconds _)
      intro _ _
      exact raisesOnly_ok _

theorem contained_buildProvenance (value : Json) :
    RaisesOnly ContractFailure (buildProvenance value) := by
  rw [buildProvenance.eq_def]
  split
  · apply raisesOnly_bind (contained_requireKeys _ _ _)
    intro _ _
    apply raisesOnly_bind (contained_requireOptionalStr _ _)
    intro _ _
    exact raisesOnly_ok _
  · exact raisesOnly_error rfl

theorem contained_validateProvenance (raw : RawProvenance) :
    RaisesOnly ContractFailure (validateProvenance raw) := by
  apply raisesOnly_bind (contained_validateOptionalDigest _ _)
  intro _ _
  exact raisesOnly_ok _

theorem contained_requirePlatforms (value : Json) :
    RaisesOnly ContractFailure (requirePlatforms value) := by
  rw [requirePlatforms.eq_def]
  split
  · exact raisesOnly_ok _
  · exact raisesOnly_error rfl

theorem contained_buildPlatforms (items : List Json) :
    RaisesOnly ContractFailure (enumerateM buildPlatform 0 items) := by
  rw [raisesOnly_enumerateM_iff]
  intro before item after _ _
  exact contained_buildPlatform _ item

/-! ## An entry -/

/-- The checks on an entry that come before the names of its platforms. -/
structure ReachesPlatforms (members : Fields)
    (platforms : List RawPlatform) (measured : Option RawMeasured)
    (provenance : RawProvenance) : Prop where
  keys : missingKeys entryKeys members = []
  platforms : ∃ items, getOrNone (text "platforms") members = .arr items ∧
    enumerateM buildPlatform 0 items = .ok platforms
  measured : buildMeasuredResources
    (getOrNone (text "measured_resources") members) = .ok measured
  provenance : buildProvenance
    (getOrNone (text "provenance") members) = .ok provenance
  capabilityId : ∃ id,
    getOrNone (text "capability_id") members = .str id ∧ id ≠ []
  profile : ∃ name,
    validateProfile (getOrNone (text "profile") members) = .ok name
  adapterId : ∃ id,
    validateAdapterId (getOrNone (text "adapter_id") members) = .ok id
  packManifestDigest : ∃ digest,
    validateOptionalDigest (getOrNone (text "pack_manifest_digest") members)
      "pack_manifest_digest" = .ok digest

/-- The checks on an entry between its platforms and its stage. -/
structure ReachesStage (members : Fields)
    (platforms : List RawPlatform) (measured : Option RawMeasured)
    (provenance : RawProvenance) : Prop where
  platforms : ∀ platform ∈ platforms, PlatformNamed platform
  measured : ∃ result, validateMeasuredResources measured = .ok result
  licenseSpdx : ∃ license,
    getOrNone (text "license_spdx") members = .str license ∧ license ≠ []
  provenance : ∃ result, validateProvenance provenance = .ok result

/-- An entry whose names can be hashed as far as they are looked at. -/
def EntryHashable (entry : Json) : Prop :=
  ∀ members platforms measured provenance, entry = .obj members →
    ReachesPlatforms members platforms measured provenance →
      PlatformsHashable platforms ∧
        (ReachesStage members platforms measured provenance →
          hashable (getOrNone (text "admission_stage") members) = true)

theorem raisesOnly_buildEntry_iff
    {members : Fields} {platforms : List RawPlatform}
    {measured : Option RawMeasured} {provenance : RawProvenance} :
    RaisesOnly ContractFailure
        (buildEntry members platforms measured provenance) ↔
      ((∃ id, getOrNone (text "capability_id") members = .str id ∧
          id ≠ []) →
        (∃ name,
          validateProfile (getOrNone (text "profile") members) =
            .ok name) →
        (∃ id, validateAdapterId
          (getOrNone (text "adapter_id") members) = .ok id) →
        (∃ digest, validateOptionalDigest
          (getOrNone (text "pack_manifest_digest") members)
            "pack_manifest_digest" = .ok digest) →
        PlatformsHashable platforms ∧
          (ReachesStage members platforms measured provenance →
            hashable (getOrNone (text "admission_stage") members) =
              true)) := by
  have named : (∃ results, enumerateM validatePlatform 0 platforms =
      .ok results) ↔ ∀ platform ∈ platforms, PlatformNamed platform :=
    enumerateM_returns_iff fun index platform =>
      @validatePlatform_returns_iff index platform
  simp only [buildEntry, raisesOnly_bind_iff, contained_requireNonEmptyStr,
    contained_validateProfile, contained_validateAdapterId,
    contained_validateOptionalDigest, raisesOnly_validatePlatforms_iff,
    contained_validateMeasuredResources, contained_validateProvenance,
    raisesOnly_requireMember_iff, true_and, requireNonEmptyStr_eq_ok]
  constructor
  · rintro each ⟨id, isId⟩ ⟨name, isName⟩ ⟨adapter, isAdapter⟩
      ⟨digest, isDigest⟩
    obtain ⟨areHashable, later⟩ :=
      each id isId name isName adapter isAdapter digest isDigest
    refine ⟨areHashable, fun reaches => ?_⟩
    obtain ⟨checked, isChecked⟩ := named.mpr reaches.platforms
    obtain ⟨result, isResult⟩ := reaches.measured
    obtain ⟨license, isLicense⟩ := reaches.licenseSpdx
    obtain ⟨source, isSource⟩ := reaches.provenance
    exact (later checked isChecked result isResult license isLicense source
      isSource).1
  · intro each id isId name isName adapter isAdapter digest isDigest
    obtain ⟨areHashable, later⟩ := each ⟨id, isId⟩ ⟨name, isName⟩
      ⟨adapter, isAdapter⟩ ⟨digest, isDigest⟩
    refine ⟨areHashable, ?_⟩
    intro checked isChecked result isResult license isLicense source
      isSource
    exact ⟨later ⟨named.mp ⟨checked, isChecked⟩, ⟨result, isResult⟩,
      ⟨license, isLicense⟩, ⟨source, isSource⟩⟩,
      fun _ _ => raisesOnly_ok _⟩

/-- The loader of an entry raises catalog errors alone when what it hashes
can be hashed. -/
theorem raisesOnly_buildEntryFromRaw_iff {entry : Json} :
    RaisesOnly ContractFailure (buildEntryFromRaw entry) ↔
      EntryHashable entry := by
  cases entry with
  | obj members =>
      simp only [buildEntryFromRaw, raisesOnly_bind_iff,
        contained_requirePlatforms,
        contained_buildPlatforms, contained_buildMeasuredResources,
        contained_buildProvenance, raisesOnly_buildEntry_iff, true_and,
        requireKeys, refuseIf_eq_ok_iff, not_not, EntryHashable,
        contained_catalogRefusal, Json.obj.injEq]
      constructor
      · rintro each _ platforms measured provenance rfl reaches
        obtain ⟨items, isItems, arePlatforms⟩ := reaches.platforms
        exact each ⟨⟩ reaches.keys items (by rw [isItems]; rfl) platforms
          arePlatforms measured reaches.measured provenance
          reaches.provenance reaches.capabilityId reaches.profile
          reaches.adapterId reaches.packManifestDigest
      · intro each _ keys items isItems platforms arePlatforms measured
          isMeasured provenance isProvenance id profile adapter digest
        refine each members platforms measured provenance rfl
          ⟨keys, ⟨items, ?_, arePlatforms⟩, isMeasured, isProvenance, id,
            profile, adapter, digest⟩
        rw [requirePlatforms.eq_def] at isItems
        split at isItems
        · next found =>
            cases isItems
            exact found
        · cases isItems
  | null | bool _ | int _ | float _ | str _ | arr _ =>
      constructor
      · rintro _ _ _ _ _ ⟨⟩
      · intro _
        exact raisesOnly_error rfl

/-! ## Location states -/

/-- A list element that `dict` takes as a key and a value. -/
def pairLike : Json → Bool
  | .arr [key, _] => hashable key
  | .str [_, _] => true
  | .obj [_, _] => true
  | _ => false

/-- A value that `dict` takes. -/
def convertible : Json → Bool
  | .obj _ => true
  | .arr elements => elements.all pairLike
  | .str [] => true
  | _ => false

/-- An exception outside the family. -/
def Escapes (error : PyError) : Prop :=
  ¬ ContractFailure error

/-- Where every exception escapes, none does only if there is none. -/
theorem contained_iff_returns
    {α : Type} {result : Except PyError α}
    (escapes : RaisesOnly Escapes result) :
    RaisesOnly ContractFailure result ↔ ∃ value, result = .ok value := by
  cases result with
  | ok value =>
      exact ⟨fun _ => ⟨value, rfl⟩, fun _ => raisesOnly_ok value⟩
  | error error =>
      constructor
      · intro contained
        exact absurd (contained error rfl) (escapes error rfl)
      · rintro ⟨value, ⟨⟩⟩

theorem escapes_of_kind
    {error : PyError} (kind : error.kind.isContractError = false) :
    Escapes error := by
  intro contract
  rw [ContractFailure, kind] at contract
  cases contract

theorem escapes_keyOf (key : Json) : RaisesOnly Escapes (keyOf key) := by
  cases key with
  | arr _ | obj _ => exact raisesOnly_error (escapes_of_kind rfl)
  | null | bool _ | int _ | float _ | str _ => exact raisesOnly_ok _

theorem keyOf_returns_iff {key : Json} :
    (∃ result, keyOf key = .ok result) ↔ hashable key = true := by
  cases key <;> simp [keyOf, hashable]

theorem escapes_dictElement (index : Nat) (element : Json) :
    RaisesOnly Escapes (dictElement index element) := by
  unfold dictElement
  split
  · next key value =>
      have inner := escapes_keyOf key
      cases isKey : keyOf key with
      | ok result => exact raisesOnly_ok _
      | error error => exact raisesOnly_error (inner error isKey)
  · exact raisesOnly_error (escapes_of_kind rfl)
  · exact raisesOnly_ok _
  · exact raisesOnly_error (escapes_of_kind rfl)
  · exact raisesOnly_ok _
  · exact raisesOnly_error (escapes_of_kind rfl)
  · exact raisesOnly_error (escapes_of_kind rfl)

theorem dictElement_returns_iff {index : Nat} {element : Json} :
    (∃ result, dictElement index element = .ok result) ↔
      pairLike element = true := by
  rw [dictElement.eq_def, pairLike.eq_def]
  cases element with
  | arr items =>
      match items with
      | [key, value] =>
          dsimp only
          rw [← keyOf_returns_iff]
          cases keyOf key <;> simp [Except.map]
      | [] | [_] | _ :: _ :: _ :: _ => simp only [reduceCtorEq, exists_false]
  | str points =>
      match points with
      | [_, _] => simp only [Except.ok.injEq, exists_eq']
      | [] | [_] | _ :: _ :: _ :: _ => simp only [reduceCtorEq, exists_false]
  | obj members =>
      match members with
      | [_, _] => simp only [Except.ok.injEq, exists_eq']
      | [] | [_] | _ :: _ :: _ :: _ => simp only [reduceCtorEq, exists_false]
  | null | bool _ | int _ | float _ => simp only [reduceCtorEq, exists_false]

theorem escapes_enumerateM
    {α β : Type} {body : Nat → α → Except PyError β}
    (each : ∀ index item, RaisesOnly Escapes (body index item))
    (items : List α) (start : Nat) :
    RaisesOnly Escapes (enumerateM body start items) := by
  rw [raisesOnly_enumerateM_iff]
  intro before item after _ _
  exact each _ item

theorem escapes_dictOf (state : Json) :
    RaisesOnly Escapes (dictOf state) := by
  unfold dictOf
  split
  · exact raisesOnly_ok _
  · apply raisesOnly_bind (escapes_enumerateM escapes_dictElement _ _)
    intro _ _
    exact raisesOnly_ok _
  · exact raisesOnly_ok _
  · exact raisesOnly_error (escapes_of_kind rfl)
  · exact raisesOnly_error (escapes_of_kind rfl)

theorem dictOf_returns_iff {state : Json} :
    (∃ copy, dictOf state = .ok copy) ↔ convertible state = true := by
  cases state with
  | arr elements =>
      have pairs : (∃ results, enumerateM dictElement 0 elements =
          .ok results) ↔
            ∀ element ∈ elements, pairLike element = true :=
        enumerateM_returns_iff fun index element =>
          @dictElement_returns_iff index element
      rw [convertible, List.all_eq_true, ← pairs]
      simp only [dictOf, bind_eq_ok_iff, pure_eq_ok_iff]
      constructor
      · rintro ⟨_, results, isResults, -⟩
        exact ⟨results, isResults⟩
      · rintro ⟨results, isResults⟩
        exact ⟨_, results, isResults, rfl⟩
  | str points => cases points <;> simp [dictOf, convertible]
  | obj members => simp [dictOf, convertible]
  | null | bool _ | int _ | float _ => simp [dictOf, convertible]

/-- Locations whose states `dict` takes. -/
def Convertible (locations : Fields) : Prop :=
  ∀ location ∈ locations, convertible location.2 = true

theorem escapes_copyLocations (locations : Fields) :
    RaisesOnly Escapes (copyLocations locations) := by
  induction locations with
  | nil => exact raisesOnly_ok _
  | cons location rest induction =>
      apply raisesOnly_bind (escapes_dictOf location.2)
      intro _ _
      apply raisesOnly_bind induction
      intro _ _
      exact raisesOnly_ok _

theorem copyLocations_returns_iff {locations : Fields} :
    (∃ copies, copyLocations locations = .ok copies) ↔
      Convertible locations := by
  induction locations with
  | nil => simp [copyLocations, Convertible]
  | cons location rest induction =>
      rw [Convertible, List.forall_mem_cons, ← dictOf_returns_iff]
      rw [Convertible] at induction
      rw [← induction]
      simp only [copyLocations, bind_eq_ok_iff, pure_eq_ok_iff]
      constructor
      · rintro ⟨_, copy, isCopy, others, areOthers, -⟩
        exact ⟨⟨copy, isCopy⟩, others, areOthers⟩
      · rintro ⟨⟨copy, isCopy⟩, others, areOthers⟩
        exact ⟨_, copy, isCopy, others, areOthers, rfl⟩

theorem contained_copyLocations_iff {locations : Fields} :
    RaisesOnly ContractFailure (copyLocations locations) ↔
      Convertible locations :=
  (contained_iff_returns (escapes_copyLocations locations)).trans
    copyLocations_returns_iff

/-! ## Encoding -/

/-- What the encoder writes of a value holds no lone surrogate. -/
def SurrogateFree (value : PyValue) : Prop :=
  ∀ written, dumpObject value = some written → Scalars written

theorem dumps_eq_dumpsValue (value : Json) :
    dumps value = dumpsValue (.ofJson value) := by
  rw [dumpsValue_eq (jsonable_ofJson value), toJson_ofJson]

theorem scalars_newline : Scalars [codePoint '\n'] :=
  scalars_cons.mpr ⟨codePoint_scalar '\n', scalars_nil⟩

theorem contained_dumpsValue_iff {value : PyValue} :
    RaisesOnly ContractFailure (dumpsValue value) ↔
      SurrogateFree value := by
  rw [dumpsValue]
  cases isWritten : dumpObject value with
  | none =>
      refine iff_of_true (raisesOnly_error rfl) ?_
      intro written again
      rw [isWritten] at again
      cases again
  | some written =>
      dsimp only
      cases encodes : utf8Encode (written ++ [codePoint '\n']) with
      | none =>
          refine iff_of_false ?_ ?_
          · intro contained
            exact escapes_of_kind rfl (contained _ rfl)
          · intro free
            obtain ⟨encoded, isEncoded⟩ := utf8Encode_of_scalars
              (scalars_append.mpr ⟨free written isWritten, scalars_newline⟩)
            rw [encodes] at isEncoded
            cases isEncoded
      | some encoded =>
          refine iff_of_true (raisesOnly_ok _) ?_
          intro again isAgain
          cases isWritten.symm.trans isAgain
          exact (scalars_append.mp (scalars_of_utf8Encode encodes)).1

theorem contained_objectId_iff {value : Json} :
    RaisesOnly ContractFailure (objectId value) ↔
      (ownObjectId value = none → SurrogateFree (.ofJson value)) := by
  rw [objectId]
  split
  · next existing own =>
      refine iff_of_true (raisesOnly_error rfl) ?_
      intro none
      rw [own] at none
      cases none
  · next own =>
      rw [raisesOnly_bind_iff, dumps_eq_dumpsValue,
        contained_dumpsValue_iff]
      constructor
      · rintro ⟨free, -⟩ -
        exact free
      · intro free
        exact ⟨free own, fun _ _ => raisesOnly_ok _⟩

theorem contained_entryDigest_iff {entry : CapabilityRegistryEntry} :
    RaisesOnly ContractFailure (entryDigest entry) ↔
      SurrogateFree (.ofJson (.obj entry.toDict)) := by
  rw [entryDigest, raisesOnly_bind_iff, dumps_eq_dumpsValue,
    contained_dumpsValue_iff]
  exact and_iff_left fun _ _ => raisesOnly_ok _

/-- Entries that hold no lone surrogate as far as they are encoded. -/
def EncodesInOrder (entries : List CapabilityRegistryEntry) : Prop :=
  ∀ (before : List CapabilityRegistryEntry)
      (entry : CapabilityRegistryEntry)
      (after : List CapabilityRegistryEntry),
    entries = before ++ entry :: after →
    (∀ earlier ∈ before, Writable (.obj earlier.toDict)) →
      SurrogateFree (.ofJson (.obj entry.toDict))

theorem contained_parseDigest (value : Text) :
    RaisesOnly ContractFailure (parseDigest value) := by
  rw [parseDigest]
  refine raisesOnly_bind (raisesOnly_refuseIf rfl) fun _ _ => ?_
  refine raisesOnly_bind (raisesOnly_refuseIf rfl) fun _ _ => ?_
  split
  · exact raisesOnly_ok _
  · exact raisesOnly_error rfl

theorem contained_merkleRoot (digests : List Text) :
    RaisesOnly ContractFailure (merkleRoot digests) := by
  unfold merkleRoot
  split
  · exact raisesOnly_ok _
  · apply raisesOnly_bind
      (raisesOnly_mapM fun value _ => contained_parseDigest value)
    intro _ _
    exact raisesOnly_ok _

theorem contained_entriesRoot_iff
    {entries : List CapabilityRegistryEntry} :
    RaisesOnly ContractFailure (entriesRoot entries) ↔
      EncodesInOrder entries := by
  rw [entriesRoot, raisesOnly_bind_iff, raisesOnly_mapM_iff]
  simp only [contained_entryDigest_iff, entryDigest_returns_iff]
  exact and_iff_left fun digests _ => contained_merkleRoot digests

/-! ## Building and verifying -/

theorem contained_checkDistinct
    (seen : List Text) (entries : List CapabilityRegistryEntry) :
    RaisesOnly ContractFailure (checkDistinct seen entries) := by
  induction entries generalizing seen with
  | nil => exact raisesOnly_ok _
  | cons entry rest induction =>
      rw [checkDistinct]
      refine raisesOnly_bind (raisesOnly_refuseIf rfl) fun _ _ => ?_
      exact induction _

theorem contained_identityBody
    {entries : List CapabilityRegistryEntry} {root : Text}
    (isRoot : entriesRoot entries = .ok root) :
    RaisesOnly ContractFailure (objectId (identityBody entries root)) := by
  have writable := entriesRoot_returns_iff.mp ⟨root, isRoot⟩
  obtain ⟨top, isTop⟩ := entriesRoot_returns writable
  cases isRoot.symm.trans isTop
  obtain ⟨blob, isId⟩ := objectId_returns
    (show ownObjectId (identityBody entries (formatDigest top)) = none
      from rfl)
    (writable_identityBody writable (scalars_formatDigest top))
  rw [isId]
  exact raisesOnly_ok _

theorem writable_sortEntries_iff
    {entries : List CapabilityRegistryEntry} :
    (∀ entry ∈ sortEntries entries, Writable (.obj entry.toDict)) ↔
      ∀ entry ∈ entries, Writable (.obj entry.toDict) := by
  simp only [sortEntries, List.mem_insertionSort]

theorem contained_locationRef_iff
    {copies : List (Text × StateCopy)} :
    RaisesOnly ContractFailure (locationRef copies) ↔
      SurrogateFree (mapObject copies) := by
  rw [locationRef, raisesOnly_bind_iff, contained_dumpsValue_iff]
  exact and_iff_left fun _ _ => raisesOnly_ok _

/-- When the builder raises errors of the family alone. -/
theorem contained_buildSnapshot_iff
    {entries : List CapabilityRegistryEntry} {locations : Fields}
    {createdUtc : Option Text} {now : Text} :
    RaisesOnly ContractFailure
        (buildSnapshot entries (some locations) createdUtc now) ↔
      ((capabilityIds entries).Nodup →
        EncodesInOrder (sortEntries entries) ∧
          ((∀ entry ∈ entries, Writable (.obj entry.toDict)) →
            Convertible locations ∧
              ∀ copies, copyLocations locations = .ok copies →
                SurrogateFree (mapObject copies))) := by
  simp only [buildSnapshot, raisesOnly_bind_iff, verifyLocations,
    contained_checkDistinct, contained_entriesRoot_iff,
    contained_copyLocations_iff, contained_locationRef_iff, true_and,
    checkDistinct_eq_ok, nodup_sortEntries]
  constructor
  · intro each distinct
    obtain ⟨encodes, later⟩ := each ⟨⟩ ⟨distinct, by simp⟩
    refine ⟨encodes, fun writable => ?_⟩
    obtain ⟨root, isRoot⟩ :=
      entriesRoot_returns_iff.mpr (writable_sortEntries_iff.mpr writable)
    obtain ⟨converts, copied⟩ := later root isRoot
    exact ⟨converts, fun copies areCopies => (copied copies areCopies).1⟩
  · rintro each _ ⟨distinct, -⟩
    obtain ⟨encodes, later⟩ := each distinct
    refine ⟨encodes, fun root isRoot => ?_⟩
    have writable := writable_sortEntries_iff.mp
      (entriesRoot_returns_iff.mp ⟨root, isRoot⟩)
    obtain ⟨converts, free⟩ := later writable
    refine ⟨converts, fun copies areCopies => ⟨free copies areCopies, ?_⟩⟩
    intro ref _
    exact ⟨contained_identityBody isRoot, fun _ _ => raisesOnly_ok _⟩

theorem Identified.fixedTail
    {snapshot : ScientificCatalogSnapshot}
    (identified : Identified snapshot) :
    verifyFixedTail snapshot = .ok ⟨⟩ := by
  simp only [verifyFixedTail, bind_eq_ok_iff, refuseIf_eq_ok_iff, not_not]
  exact ⟨⟨⟩, identified.schemaVersion, ⟨⟩, identified.canonicalWrites,
    identified.grantsAuthority⟩

theorem contained_verifySnapshot_iff
    {snapshot : ScientificCatalogSnapshot} {locations : Fields}
    (identified : Identified snapshot) :
    RaisesOnly ContractFailure
        (verifySnapshot snapshot (some locations)) ↔
      (ownObjectId (.obj locations) = none →
        SurrogateFree (.ofJson (.obj locations))) := by
  have shortened : verifySnapshot snapshot (some locations) =
      objectId (.obj locations) >>= fun ref =>
        refuseIf (ref ≠ snapshot.locationStateRef)
          (mismatch "location_state_ref"
            (quoted snapshot.locationStateRef) (quoted ref)) := by
    have continues {α β : Type} (value : α)
        (rest : α → Except PyError β) :
        (Except.ok value >>= rest) = rest value := rfl
    simp only [verifySnapshot, identified.fixedTail, continues,
      sortEntries_of_ordered identified.ordered, identified.merkleRoot,
      identified.snapshotId, verifyLocations, ne_eq, not_true_eq_false,
      refuseIf, if_false]
  rw [shortened, raisesOnly_bind_iff, contained_objectId_iff]
  exact and_iff_left fun _ _ => raisesOnly_refuseIf rfl

theorem contained_verifyCached_iff
    {snapshot : ScientificCatalogSnapshot} {locations : Fields} :
    RaisesOnly ContractFailure (verifyCached snapshot locations) ↔
      RaisesOnly ContractFailure
        (verifySnapshot snapshot (some locations)) := by
  unfold verifyCached
  cases verified : verifySnapshot snapshot (some locations) with
  | ok _ => exact iff_of_true (raisesOnly_ok _) (raisesOnly_ok _)
  | error error =>
      dsimp only
      split_ifs with isMismatch
      · refine iff_of_true (raisesOnly_error rfl) (raisesOnly_error ?_)
        rw [ContractFailure, isMismatch]
        rfl
      · rw [raisesOnly_error_iff, raisesOnly_error_iff]

/-! ## Reading -/

/-- Entries that can be iterated over. -/
def iterable : Option Json → Bool
  | none | some (.arr _) | some (.str _) | some (.obj _) => true
  | _ => false

/-- Location states that can be copied and encoded. -/
structure HarmlessLocations (locations : Fields) : Prop where
  converts : Convertible locations
  copies : ∀ copies, copyLocations locations = .ok copies →
    SurrogateFree (mapObject copies) ∧
      (¬ Refused (mapObject copies) →
        ownObjectId (.obj locations) = none →
          SurrogateFree (.ofJson (.obj locations)))

/-- A recorded snapshot on which no operation fails outside the checks. -/
structure HarmlessRecord (recorded locations : Fields) : Prop where
  iterates : iterable (Json.lookup (text "entries") recorded) = true
  hashes : ∀ items, iterateEntries recorded = .ok items →
    ∀ before item after, items = before ++ item :: after →
      (∀ earlier ∈ before, ∃ entry,
        buildEntryFromRaw earlier = .ok entry) →
        EntryHashable item
  encodes : ∀ entries, recordedEntries recorded = .ok entries →
    (capabilityIds entries).Nodup → EncodesInOrder (sortEntries entries)
  locations : ∀ entries, recordedEntries recorded = .ok entries →
    (capabilityIds entries).Nodup →
      (∀ entry ∈ entries, Writable (.obj entry.toDict)) →
        HarmlessLocations locations

/-- A file on which no operation fails outside the checks. -/
structure HarmlessFile (raw : Bytes) : Prop where
  integers : raw.length ≤ maxCacheBytes → ∀ document,
    utf8Decode raw = some document →
      parseText true document ≠ .error .value
  record : ∀ recorded locations, Opens raw recorded locations →
    HarmlessRecord recorded locations

theorem contained_decodeCache_iff {path : Text} {raw : Bytes} :
    RaisesOnly ContractFailure (decodeCache path raw) ↔
      ∀ document, utf8Decode raw = some document →
        parseText true document ≠ .error .value := by
  rw [decodeCache]
  cases decoded : utf8Decode raw with
  | none =>
      refine iff_of_true (raisesOnly_error rfl) ?_
      rintro _ ⟨⟩
  | some document =>
      simp only [Option.some.injEq, forall_eq']
      cases parsed : parseText true document with
      | ok value =>
          refine iff_of_true (raisesOnly_ok _) ?_
          rintro ⟨⟩
      | error failure =>
          cases failure with
          | value =>
              refine iff_of_false ?_ fun differs => differs rfl
              intro contained
              exact escapes_of_kind rfl (contained _ rfl)
          | decode =>
              refine iff_of_true (raisesOnly_error rfl) ?_
              rintro ⟨⟩
          | constant =>
              refine iff_of_true (raisesOnly_error rfl) ?_
              rintro ⟨⟩

theorem contained_requireObject (value : Option Json) (message : String) :
    RaisesOnly ContractFailure (requireObject value message) := by
  unfold requireObject
  split
  · exact raisesOnly_ok _
  · exact raisesOnly_error rfl

theorem contained_requireCacheVersion (envelope : Fields) :
    RaisesOnly ContractFailure (requireCacheVersion envelope) := by
  unfold requireCacheVersion
  split
  · exact raisesOnly_refuseIf rfl
  · exact raisesOnly_error rfl

theorem contained_requireEnvelope (value : Json) :
    RaisesOnly ContractFailure (openCache.requireEnvelope value) := by
  cases value with
  | obj members => exact raisesOnly_ok _
  | null | bool _ | int _ | float _ | str _ | arr _ =>
      exact raisesOnly_error rfl

theorem contained_openCache_iff {path : Text} {raw : Bytes} :
    RaisesOnly ContractFailure (openCache path raw) ↔
      (raw.length ≤ maxCacheBytes → ∀ document,
        utf8Decode raw = some document →
          parseText true document ≠ .error .value) := by
  simp only [openCache, raisesOnly_bind_iff, contained_decodeCache_iff,
    contained_requireEnvelope, contained_requireCacheVersion,
    contained_requireObject, true_and, refuseIf_eq_ok_iff, Nat.not_lt]
  constructor
  · rintro ⟨-, each⟩ small
    exact (each ⟨⟩ small).1
  · intro each
    refine ⟨raisesOnly_refuseIf rfl, fun _ small => ⟨each small, ?_⟩⟩
    intro _ _ _ _ _ _ _ _ _ _
    exact raisesOnly_ok _

theorem contained_iterateEntries_iff {recorded : Fields} :
    RaisesOnly ContractFailure (iterateEntries recorded) ↔
      iterable (Json.lookup (text "entries") recorded) = true := by
  unfold iterateEntries
  cases Json.lookup (text "entries") recorded with
  | none => exact iff_of_true (raisesOnly_ok _) rfl
  | some value =>
      cases value with
      | arr _ | str _ | obj _ => exact iff_of_true (raisesOnly_ok _) rfl
      | null | bool _ | int _ | float _ =>
          refine iff_of_false ?_ Bool.false_ne_true
          intro contained
          exact escapes_of_kind rfl (contained _ rfl)

theorem contained_recordedEntries_iff {recorded : Fields} :
    RaisesOnly ContractFailure (recordedEntries recorded) ↔
      iterable (Json.lookup (text "entries") recorded) = true ∧
        ∀ items, iterateEntries recorded = .ok items →
          ∀ before item after, items = before ++ item :: after →
            (∀ earlier ∈ before, ∃ entry,
              buildEntryFromRaw earlier = .ok entry) →
              EntryHashable item := by
  simp only [recordedEntries, raisesOnly_bind_iff,
    contained_iterateEntries_iff, raisesOnly_mapM_iff,
    raisesOnly_buildEntryFromRaw_iff]

theorem contained_snapshotFromDict_iff
    {recorded locations : Fields} {now : Text} :
    RaisesOnly ContractFailure (snapshotFromDict recorded locations now) ↔
      RaisesOnly ContractFailure (recordedEntries recorded) ∧
        ∀ entries, recordedEntries recorded = .ok entries →
          (capabilityIds entries).Nodup →
            EncodesInOrder (sortEntries entries) ∧
              ((∀ entry ∈ entries, Writable (.obj entry.toDict)) →
                Convertible locations ∧
                  ∀ copies, copyLocations locations = .ok copies →
                    SurrogateFree (mapObject copies)) := by
  simp only [snapshotFromDict, raisesOnly_bind_iff,
    contained_buildSnapshot_iff]

theorem locationRef_returns_iff
    {copies : List (Text × StateCopy)}
    (free : SurrogateFree (mapObject copies)) :
    (∃ ref, locationRef copies = .ok ref) ↔
      ¬ Refused (mapObject copies) := by
  rw [← dumpObject_eq_none]
  simp only [locationRef, bind_eq_ok_iff, pure_eq_ok_iff]
  constructor
  · rintro ⟨_, blob, encoded, -⟩ refused
    rw [dumpsValue, refused] at encoded
    cases encoded
  · intro accepted
    cases isWritten : dumpObject (mapObject copies) with
    | none => exact absurd isWritten accepted
    | some written =>
        obtain ⟨encoded, encodes⟩ := utf8Encode_of_scalars
          (scalars_append.mpr ⟨free written isWritten, scalars_newline⟩)
        refine ⟨_, encoded, ?_, rfl⟩
        simp only [dumpsValue, isWritten, encodes]

/-- A built record is the one that is verified. -/
theorem snapshotFromDict_identified
    {recorded locations : Fields} {now : Text}
    {snapshot : ScientificCatalogSnapshot}
    (built : snapshotFromDict recorded locations now = .ok snapshot) :
    Identified snapshot := by
  simp only [snapshotFromDict, bind_eq_ok_iff] at built
  obtain ⟨entries, -, isBuilt⟩ := built
  obtain ⟨-, copies, -, -, -, identified, -⟩ :=
    buildSnapshot_eq_ok.mp isBuilt
  exact identified

theorem snapshotFromDict_returns_iff
    {recorded locations : Fields} {now : Text} :
    (∃ snapshot, snapshotFromDict recorded locations now =
        .ok snapshot) ↔
      ∃ entries copies, recordedEntries recorded = .ok entries ∧
        (capabilityIds entries).Nodup ∧
        (∀ entry ∈ entries, Writable (.obj entry.toDict)) ∧
        copyLocations locations = .ok copies ∧
        ∃ ref, locationRef copies = .ok ref := by
  simp only [snapshotFromDict, bind_eq_ok_iff, buildSnapshot_eq_ok,
    verifyLocations]
  constructor
  · rintro ⟨snapshot, entries, accepted, distinct, copies, copied,
      isEntries, -, identified, isRef⟩
    have isRoot := identified.merkleRoot
    rw [isEntries] at isRoot
    exact ⟨entries, copies, accepted, distinct, writable_sortEntries_iff.mp
      (entriesRoot_returns_iff.mp ⟨_, isRoot⟩), copied, _, isRef⟩
  · rintro ⟨entries, copies, accepted, distinct, writable, copied, ref,
      isRef⟩
    have sortedWritable := writable_sortEntries_iff.mpr writable
    obtain ⟨root, isRoot⟩ := entriesRoot_returns sortedWritable
    obtain ⟨blob, isId⟩ := objectId_returns
      (show ownObjectId (identityBody (sortEntries entries)
        (formatDigest root)) = none from rfl)
      (writable_identityBody sortedWritable (scalars_formatDigest root))
    exact ⟨rebuiltSnapshot recorded entries ⟨_, _, ref⟩ now, entries,
      accepted, distinct, copies, copied, rfl, rfl,
      ⟨rfl, rfl, rfl, ordered_sortEntries entries, isRoot, isId⟩, isRef⟩

/-- Past the checks of the envelope, a record raises errors of the family
alone when it is harmless. -/
theorem contained_record_iff
    {recorded locations : Fields} {now : Text} :
    (RaisesOnly ContractFailure
        (snapshotFromDict recorded locations now) ∧
      ∀ snapshot, snapshotFromDict recorded locations now =
          .ok snapshot →
        RaisesOnly ContractFailure (verifyCached snapshot locations)) ↔
      HarmlessRecord recorded locations := by
  rw [contained_snapshotFromDict_iff, contained_recordedEntries_iff]
  constructor
  · rintro ⟨⟨⟨iterates, hashes⟩, builds⟩, verifies⟩
    refine ⟨iterates, hashes, fun entries accepted distinct =>
      (builds entries accepted distinct).1, ?_⟩
    intro entries accepted distinct writable
    obtain ⟨converts, free⟩ :=
      (builds entries accepted distinct).2 writable
    refine ⟨converts, fun copies copied => ⟨free copies copied, ?_⟩⟩
    intro notRefused
    obtain ⟨snapshot, built⟩ := snapshotFromDict_returns_iff.mpr
      ⟨entries, copies, accepted, distinct, writable, copied,
        (locationRef_returns_iff (free copies copied)).mpr notRefused⟩
    exact (contained_verifySnapshot_iff
      (@snapshotFromDict_identified _ _ now _ built)).mp
      (contained_verifyCached_iff.mp (verifies snapshot built))
  · intro harmless
    refine ⟨⟨⟨harmless.iterates, harmless.hashes⟩, ?_⟩, ?_⟩
    · intro entries accepted distinct
      refine ⟨harmless.encodes entries accepted distinct, ?_⟩
      intro writable
      have copied := harmless.locations entries accepted distinct writable
      exact ⟨copied.converts, fun copies areCopies =>
        (copied.copies copies areCopies).1⟩
    · intro snapshot built
      obtain ⟨entries, copies, accepted, distinct, writable, copied,
        hasRef⟩ := snapshotFromDict_returns_iff.mp ⟨snapshot, built⟩
      obtain ⟨free, verified⟩ := (harmless.locations entries accepted
        distinct writable).copies copies copied
      rw [contained_verifyCached_iff, contained_verifySnapshot_iff
        (snapshotFromDict_identified built)]
      exact verified ((locationRef_returns_iff free).mp hasRef)

/-- Reading returns a snapshot with its locations, or it raises an error of
the family. -/
def ReadsOrRefuses (path : Text) (raw : Bytes) (now : Text) : Prop :=
  (∃ snapshot locations,
    read path (some raw) now = .ok (some (snapshot, locations))) ∨
    ∃ error, read path (some raw) now = .error error ∧
      ContractFailure error

theorem readsOrRefuses_iff
    {path : Text} {raw : Bytes} {now : Text} :
    ReadsOrRefuses path raw now ↔
      RaisesOnly ContractFailure (read path (some raw) now) := by
  constructor
  · rintro (⟨snapshot, locations, returned⟩ | ⟨error, refused, contract⟩)
    · rw [returned]
      exact raisesOnly_ok _
    · rw [refused]
      exact raisesOnly_error contract
  · intro contained
    cases result : read path (some raw) now with
    | error error => exact .inr ⟨error, result, contained error result⟩
    | ok found =>
        have returned := result
        simp only [read, bind_eq_ok_iff, pure_eq_ok_iff] at returned
        obtain ⟨recorded, -, snapshot, -, -, -, rfl⟩ := returned
        exact .inl ⟨snapshot, recorded.2, result⟩

/--
Reading a cache file returns a snapshot or raises an error of the
`ContractError` family exactly when the file is harmless.
-/
theorem read_contained_iff (path : Text) (raw : Bytes) (now : Text) :
    ReadsOrRefuses path raw now ↔ HarmlessFile raw := by
  have record (opened : Fields × Fields) :
      RaisesOnly ContractFailure (do
        let snapshot ← snapshotFromDict opened.1 opened.2 now
        verifyCached snapshot opened.2
        pure (some (snapshot, opened.2))) ↔
        HarmlessRecord opened.1 opened.2 := by
    rw [← @contained_record_iff opened.1 opened.2 now]
    simp only [raisesOnly_bind_iff]
    refine and_congr_right fun _ => forall₂_congr fun snapshot _ => ?_
    exact and_iff_left fun _ _ => raisesOnly_ok _
  rw [readsOrRefuses_iff, read, raisesOnly_bind_iff,
    contained_openCache_iff]
  simp only [record]
  constructor
  · rintro ⟨integers, records⟩
    exact ⟨integers, fun recorded locations opens =>
      records (recorded, locations) (openCache_eq_ok.mpr opens)⟩
  · intro harmless
    refine ⟨harmless.integers, ?_⟩
    rintro ⟨recorded, locations⟩ opened
    exact harmless.record recorded locations (openCache_eq_ok.mp opened)

/-- A cache file whose `entries` is the number five. -/
def numberedEntries : Bytes :=
  (utf8Encode
    (text "\x7b\"schema_version\":\"CapabilityCatalogCache/v1\"," ++
      text "\"snapshot\":\x7b\"entries\":5\x7d," ++
      text "\"locations\":\x7b\x7d\x7d")).getD []

/-- The exception escapes the family. -/
def escapesFamily {α : Type} : Except PyError α → Bool
  | .ok _ => false
  | .error error => !error.kind.isContractError

/-- Iterating over a number raises a `TypeError`. -/
theorem numberedEntries_escapes :
    ¬ ∀ path raw now, ReadsOrRefuses path raw now := by
  intro total
  have contained := readsOrRefuses_iff.mp (total [] numberedEntries [])
  have escapes : escapesFamily (read [] (some numberedEntries) []) =
      true := by
    decide +kernel
  cases result : read [] (some numberedEntries) [] with
  | ok _ =>
      rw [result] at escapes
      cases escapes
  | error error =>
      have contract : error.kind.isContractError = true :=
        contained error result
      rw [result, escapesFamily, contract] at escapes
      cases escapes

end ScientificResourceLab.Catalog
