import ScientificResourceLab.Contracts.Reencoding
import ScientificResourceLab.Packs.ManifestFailures

/-!
# Reading a manifest back

A manifest that was built from well-formed strings is encoded, decoded and
built again as the same manifest.  Each record has a `Sound` predicate, what
its validator has checked together with the absence of lone surrogates; a
sound record is returned by its validator from the sorted form of its own
dict, which is what `loads` gives back.
-/

namespace ScientificResourceLab.Packs

open Python Contracts Steps
open Catalog (PlatformSpec platformKeys_nodup)

/-! ## What the validators return -/

theorem validateNonEmptyString_eq_ok
    {value : Json} {field result : Text} :
    validateNonEmptyString value field = .ok result ↔
      value = .str result ∧ result ≠ [] := by
  rw [validateNonEmptyString.eq_def]
  split
  · next point rest =>
      constructor
      · rintro ⟨⟩
        exact ⟨rfl, List.cons_ne_nil _ _⟩
      · rintro ⟨same, -⟩
        cases same
        rfl
  · next notFull =>
      refine iff_of_false (by simp) ?_
      rintro ⟨rfl, nonEmpty⟩
      obtain ⟨point, rest, rfl⟩ := List.exists_cons_of_ne_nil nonEmpty
      exact notFull point rest rfl

theorem validateSha256_eq_ok {value : Json} {field result : Text} :
    validateSha256 value field = .ok result ↔
      value = .str result ∧ isObjectId result = true := by
  rw [validateSha256.eq_def]
  split
  · split
    · next digest validated =>
        rw [← Cas.validateHashField_eq_ok, validated, Except.ok.injEq,
          Except.ok.injEq]
    · next error refused =>
        refine iff_of_false (by simp) ?_
        intro shaped
        rw [← @Cas.validateHashField_eq_ok .artifactRefError field,
          refused] at shaped
        cases shaped
  · next notString =>
      refine iff_of_false (by simp) ?_
      rintro ⟨rfl, -⟩
      exact notString result rfl

theorem validateOptionalString_eq_ok
    {value : Json} {field : Text} {result : Option Text} :
    validateOptionalString value field = .ok result ↔
      value = optionalText result := by
  rw [validateOptionalString.eq_def]
  split
  · cases result with
    | none => simp [optionalText]
    | some result => simp [optionalText]
  · cases result with
    | none => simp [optionalText]
    | some result => simp [optionalText]
  · next notNull notString =>
      refine iff_of_false (by simp) ?_
      rintro rfl
      cases result with
      | none => exact notNull rfl
      | some result => exact notString result rfl

theorem validateName_eq_ok
    {names : List Text} {label : String} {value : Json} {result : Text} :
    validateName names label value = .ok result ↔
      value = .str result ∧ result ∈ names := by
  constructor
  · intro validated
    simp only [validateName, bind_eq_ok_iff] at validated
    obtain ⟨isName, looked, returned⟩ := validated
    split at returned
    · cases returned
      refine ⟨rfl, ?_⟩
      have found : Except.ok (decide (result ∈ names)) =
          (.ok true : Except Failure Bool) :=
        looked
      exact of_decide_eq_true (Except.ok.inj found)
    · simp at returned
  · rintro ⟨rfl, isName⟩
    simp only [validateName, bind_eq_ok_iff]
    refine ⟨true, ?_, rfl⟩
    change Except.ok (decide (result ∈ names)) = _
    rw [decide_eq_true isName]

theorem checkSpdx_eq_ok {spdx : Text} {result : Unit} :
    checkSpdx spdx = .ok result ↔ spdx ∈ licenseAllowlist := by
  rw [checkSpdx]
  split_ifs with isAllowed isIncompatible
  · exact iff_of_true rfl isAllowed
  · exact iff_of_false (by simp) isAllowed
  · exact iff_of_false (by simp) isAllowed

theorem validateProfile_eq_ok
    {item : Json} {index : Nat} {result : Text} :
    validateProfile item index = .ok result ↔
      item = .str result ∧ result ∈ Catalog.profileNames := by
  rw [validateProfile.eq_def]
  split
  · simp only [bind_eq_ok_iff, refuseIf_eq_ok_iff, pure_eq_ok_iff, not_not]
    constructor
    · rintro ⟨_, isName, rfl⟩
      exact ⟨rfl, isName⟩
    · rintro ⟨same, isName⟩
      cases same
      exact ⟨⟨⟩, isName, rfl⟩
  · next notFull =>
      refine iff_of_false (by simp) ?_
      rintro ⟨rfl, isName⟩
      cases result with
      | nil => exact absurd isName (by decide)
      | cons point rest => exact notFull point rest rfl

theorem validateSbom_eq_ok {value : Json} {result : Option Text} :
    validateSbom value = .ok result ↔
      value = optionalText result ∧
        ∀ digest, result = some digest → isObjectId digest = true := by
  rw [validateSbom.eq_def]
  split
  · cases result with
    | none => simp [optionalText]
    | some result => simp [optionalText]
  · next notNull =>
      simp only [bind_eq_ok_iff, pure_eq_ok_iff, validateSha256_eq_ok]
      constructor
      · rintro ⟨digest, ⟨rfl, shaped⟩, rfl⟩
        refine ⟨rfl, ?_⟩
        rintro _ ⟨⟩
        exact shaped
      · rintro ⟨rfl, shaped⟩
        cases result with
        | none => exact absurd rfl notNull
        | some digest => exact ⟨digest, ⟨rfl, shaped digest rfl⟩, rfl⟩

theorem validateCanonicalWrites_eq_ok {value : Json} {result : Int} :
    validateCanonicalWrites value = .ok result ↔
      value = .int 0 ∧ result = 0 := by
  rw [validateCanonicalWrites.eq_def]
  split
  · simp [eq_comm]
  · next notZero =>
      refine iff_of_false (by simp) ?_
      rintro ⟨same, -⟩
      cases same
      exact notZero rfl
  · next notInt =>
      refine iff_of_false (by simp) ?_
      rintro ⟨rfl, -⟩
      exact notInt 0 rfl

theorem validateGrantsAuthority_eq_ok {value : Json} {result : Bool} :
    validateGrantsAuthority value = .ok result ↔
      value = .bool false ∧ result = false := by
  rw [validateGrantsAuthority.eq_def]
  split
  · simp [eq_comm]
  · simp
  · next notFalse notTrue =>
      refine iff_of_false (by simp) ?_
      rintro ⟨rfl, -⟩
      exact notFalse rfl

/-! ## Loops -/

/-- A counting loop over an image that reads every item back. -/
theorem mapM_zipIdx_map
    {α : Type} {body : Json → Nat → Except Failure α} {items : List α}
    {image : α → Json}
    (each : ∀ item ∈ items, ∀ index,
      body (image item) index = .ok item) (start : Nat) :
    (((items.map image).zipIdx start).mapM fun entry =>
        body entry.1 entry.2) = .ok items := by
  induction items generalizing start with
  | nil => rfl
  | cons item items induction =>
      have rest := induction (fun other isItem =>
        each other (List.mem_cons_of_mem _ isItem)) (start + 1)
      simp only [List.map_cons, List.zipIdx_cons, List.mapM_cons,
        bind_eq_ok_iff, pure_eq_ok_iff]
      exact ⟨item, each item List.mem_cons_self start, items, rest, rfl⟩

/-- What a counting loop returned, item by item. -/
theorem mem_of_mapM_zipIdx
    {α : Type} {body : Json → Nat → Except Failure α} {items : List Json}
    {results : List α}
    (returned : (items.zipIdx.mapM fun entry => body entry.1 entry.2) =
      .ok results) :
    ∀ result ∈ results, ∃ index, ∃ item ∈ items,
      body item index = .ok result := by
  intro result isResult
  obtain ⟨⟨item, index⟩, isEntry, ran⟩ :=
    (mapM_eq_ok returned).2 result isResult
  exact ⟨index, item, List.fst_mem_of_mem_zipIdx isEntry, ran⟩

/-! ## Surrogates -/

theorem paired_obj_iff {members : Fields} :
    SurrogatesPaired (.obj members) ↔
      (∀ key ∈ members.map Prod.fst, Scalars key) ∧
        ∀ member ∈ members, SurrogatesPaired member.2 := by
  rw [SurrogatesPaired, Json.All, allMembers_iff]
  rfl

theorem paired_arr_iff {items : List Json} :
    SurrogatesPaired (.arr items) ↔
      ∀ item ∈ items, SurrogatesPaired item := by
  rw [SurrogatesPaired, Json.All]
  induction items with
  | nil => simp [AllItems]
  | cons item rest induction =>
      simp [AllItems, induction, SurrogatesPaired]

theorem paired_getOrNone
    {members : Fields} (paired : SurrogatesPaired (.obj members))
    (key : Text) : SurrogatesPaired (getOrNone key members) := by
  rw [getOrNone]
  cases found : Json.lookup key members with
  | none => trivial
  | some value =>
      exact (paired_obj_iff.mp paired).2 _ (Json.mem_of_lookup found)

theorem tidy_arr_iff {items : List Json} :
    (Json.arr items).Tidy ↔ ∀ item ∈ items, item.Tidy := by
  rw [Json.Tidy, Json.All]
  induction items with
  | nil => simp [AllItems]
  | cons item rest induction => simp [AllItems, induction, Json.Tidy]

theorem tidy_optionalText (value : Option Text) :
    (optionalText value).Tidy := by
  cases value <;> trivial

/-! ## Nested records -/

/-- What a validator has checked of a platform. -/
structure SoundPlatform (platform : PlatformSpec) : Prop where
  os : platform.os ∈ osNames
  arch : platform.arch ∈ archNames
  paired : SurrogatesPaired (.obj platform.toDict)

theorem sound_of_validatePlatform
    {value : Json} {field : Text} {platform : PlatformSpec}
    (paired : SurrogatesPaired value)
    (validated : validatePlatform value field = .ok platform) :
    SoundPlatform platform := by
  simp only [validatePlatform, bind_eq_ok_iff, pure_eq_ok_iff,
    requireDict_returns_iff, validateName_eq_ok,
    validateOptionalString_eq_ok] at validated
  obtain ⟨members, rfl, _, _, os, ⟨isOs, hasOs⟩, arch, ⟨isArch, hasArch⟩,
    abi, isAbi, rfl⟩ := validated
  refine ⟨hasOs, hasArch, paired_obj_iff.mpr ⟨?_, ?_⟩⟩
  · simp [PlatformSpec.toDict, scalars_text]
  · have each := paired_getOrNone paired
    simp only [PlatformSpec.toDict, ← isOs, ← isArch, ← isAbi,
      List.forall_mem_cons, List.not_mem_nil, each, true_and,
      false_implies, implies_true]

theorem hasKeys_stored
    {required allowed : List Text} {members : Fields}
    (keys : HasKeys required allowed members) :
    HasKeys required allowed (stored members) where
  required key isKey :=
    (keys_stored members).mem_iff.mpr (keys.required key isKey)
  allowed key isKey :=
    keys.allowed key ((keys_stored members).mem_iff.mp isKey)

theorem validatePlatform_sorted
    {platform : PlatformSpec} (sound : SoundPlatform platform) (field : Text) :
    validatePlatform (Json.sorted (.obj platform.toDict)) field =
      .ok platform := by
  have distinct := platformKeys_nodup platform
  have keys : HasKeys [text "os", text "arch"]
      [text "os", text "arch", text "abi"] platform.toDict := by
    constructor
    · change ∀ key ∈ [text "os", text "arch"],
        key ∈ [text "os", text "arch", text "abi"]
      decide
    · intro key isKey
      exact isKey
  rw [sorted_obj]
  simp only [validatePlatform, bind_eq_ok_iff, pure_eq_ok_iff,
    requireDict_returns_iff, requireExactKeys_eq_ok_iff,
    validateName_eq_ok, validateOptionalString_eq_ok]
  refine ⟨_, rfl, ⟨⟩, hasKeys_stored keys, platform.os, ⟨?_, sound.os⟩,
    platform.arch, ⟨?_, sound.arch⟩, platform.abi, ?_, rfl⟩
  · exact Catalog.getOrNone_stored distinct rfl rfl
  · exact Catalog.getOrNone_stored distinct rfl rfl
  · exact Catalog.getOrNone_stored distinct rfl (optionalText_sorted _)

/-- What a validator has checked of a source. -/
structure SourceSpec.Sound (source : SourceSpec) : Prop where
  digest : isObjectId source.sourceSha256 = true
  paired : SurrogatesPaired (.obj source.toDict)

theorem sourceKeys_nodup (source : SourceSpec) :
    (source.toDict.map Prod.fst).Nodup := by
  change [text "url", text "commit", text "source_sha256"].Nodup
  decide

theorem sound_of_validateSource
    {value : Json} {source : SourceSpec} (paired : SurrogatesPaired value)
    (validated : validateSource value = .ok source) : source.Sound := by
  simp only [validateSource, bind_eq_ok_iff, pure_eq_ok_iff,
    requireDict_returns_iff, validateSha256_eq_ok,
    validateOptionalString_eq_ok] at validated
  obtain ⟨members, rfl, _, _, url, isUrl, commit, isCommit, digest,
    ⟨isDigest, shaped⟩, rfl⟩ := validated
  refine ⟨shaped, paired_obj_iff.mpr ⟨?_, ?_⟩⟩
  · simp [SourceSpec.toDict, scalars_text]
  · have each := paired_getOrNone paired
    simp only [SourceSpec.toDict, ← isUrl, ← isCommit, ← isDigest,
      List.forall_mem_cons, List.not_mem_nil, each, true_and,
      false_implies, implies_true]

theorem hasKeys_self {keys : List Text} {members : Fields}
    (same : members.map Prod.fst = keys) : HasKeys keys keys members := by
  subst same
  exact ⟨fun _ isKey => isKey, fun _ isKey => isKey⟩

theorem validateSource_sorted
    {source : SourceSpec} (sound : source.Sound) :
    validateSource (Json.sorted (.obj source.toDict)) = .ok source := by
  have distinct := sourceKeys_nodup source
  rw [sorted_obj]
  simp only [validateSource, bind_eq_ok_iff, pure_eq_ok_iff,
    requireDict_returns_iff, requireExactKeys_eq_ok_iff,
    validateSha256_eq_ok, validateOptionalString_eq_ok]
  refine ⟨_, rfl, ⟨⟩, hasKeys_stored (hasKeys_self rfl), source.url, ?_,
    source.commit, ?_, source.sourceSha256, ⟨?_, sound.digest⟩, rfl⟩
  · exact Catalog.getOrNone_stored distinct rfl (optionalText_sorted _)
  · exact Catalog.getOrNone_stored distinct rfl (optionalText_sorted _)
  · exact Catalog.getOrNone_stored distinct rfl rfl

/-- What a validator has checked of a licence. -/
structure LicenseSpec.Sound (license : LicenseSpec) : Prop where
  spdx : license.spdx ∈ licenseAllowlist
  texts : ∀ digest ∈ license.textsSha256, isObjectId digest = true
  paired : SurrogatesPaired (.obj license.toDict)

theorem licenseKeys_nodup (license : LicenseSpec) :
    (license.toDict.map Prod.fst).Nodup := by
  change [text "spdx", text "texts_sha256"].Nodup
  decide

theorem sound_of_validateLicense
    {value : Json} {license : LicenseSpec}
    (paired : SurrogatesPaired value)
    (validated : validateLicense value = .ok license) :
    license.Sound := by
  simp only [validateLicense, bind_eq_ok_iff, pure_eq_ok_iff,
    requireDict_returns_iff, requireArray_returns_iff,
    validateNonEmptyString_eq_ok, checkSpdx_eq_ok] at validated
  obtain ⟨members, rfl, _, _, spdx, ⟨isSpdx, _⟩, _, isAllowed, items,
    isItems, texts, isTexts, rfl⟩ := validated
  have each := paired_getOrNone paired
  have eachText : ∀ digest ∈ texts,
      isObjectId digest = true ∧ SurrogatesPaired (.str digest) := by
    intro digest isDigest
    obtain ⟨index, item, isItem, ran⟩ :=
      @mem_of_mapM_zipIdx _ (fun item index => validateSha256 item
        (indexedField "license.texts_sha256" index)) _ _ isTexts
        digest isDigest
    obtain ⟨rfl, shaped⟩ := validateSha256_eq_ok.mp ran
    have inArray := each (text "texts_sha256")
    rw [isItems] at inArray
    exact ⟨shaped, paired_arr_iff.mp inArray _ isItem⟩
  refine ⟨isAllowed, fun digest isDigest => (eachText digest isDigest).1,
    paired_obj_iff.mpr ⟨?_, ?_⟩⟩
  · simp [LicenseSpec.toDict, scalars_text]
  · have inTexts : SurrogatesPaired (.arr (texts.map .str)) := by
      refine paired_arr_iff.mpr fun item isItem => ?_
      obtain ⟨digest, isDigest, rfl⟩ := List.mem_map.mp isItem
      exact (eachText digest isDigest).2
    simp only [LicenseSpec.toDict, ← isSpdx, List.forall_mem_cons,
      List.not_mem_nil, each, inTexts, true_and, false_implies,
      implies_true]

/-- Strings in a list are their own sorted forms. -/
theorem sorted_strings (values : List Text) :
    (Json.arr (values.map .str)).sorted = .arr (values.map .str) := by
  rw [Json.sorted, sortedItems_eq_map, List.map_map]
  rfl

theorem validateLicense_sorted
    {license : LicenseSpec} (sound : license.Sound) :
    validateLicense (Json.sorted (.obj license.toDict)) =
      .ok license := by
  have distinct := licenseKeys_nodup license
  have nonEmpty : license.spdx ≠ [] := by
    intro empty
    have isAllowed := sound.spdx
    rw [empty] at isAllowed
    exact absurd isAllowed (by decide)
  rw [sorted_obj]
  simp only [validateLicense, bind_eq_ok_iff, pure_eq_ok_iff,
    requireDict_returns_iff, requireExactKeys_eq_ok_iff,
    requireArray_returns_iff, validateNonEmptyString_eq_ok,
    checkSpdx_eq_ok]
  refine ⟨_, rfl, ⟨⟩, hasKeys_stored (hasKeys_self rfl), license.spdx,
    ⟨?_, nonEmpty⟩, ⟨⟩, sound.spdx, license.textsSha256.map .str, ?_,
    license.textsSha256, ?_, rfl⟩
  · exact Catalog.getOrNone_stored distinct rfl rfl
  · exact Catalog.getOrNone_stored distinct rfl (sorted_strings _)
  · refine @mapM_zipIdx_map Text (fun item index => validateSha256 item
      (indexedField "license.texts_sha256" index)) license.textsSha256
      .str ?_ 0
    intro digest isDigest index
    exact validateSha256_eq_ok.mpr ⟨rfl, sound.texts digest isDigest⟩

/-- What a validator has checked of an entrypoint. -/
structure EntrypointSpec.Sound (entrypoint : EntrypointSpec) : Prop where
  entrypointId : entrypoint.entrypointId ≠ []
  kind : entrypoint.kind ∈ entrypointKinds
  ref : entrypoint.ref ≠ []
  paired : SurrogatesPaired (.obj entrypoint.toDict)

theorem entrypointKeys_nodup (entrypoint : EntrypointSpec) :
    (entrypoint.toDict.map Prod.fst).Nodup := by
  change [text "entrypoint_id", text "kind", text "ref"].Nodup
  decide

theorem sound_of_validateEntrypoint
    {value : Json} {field : Text} {entrypoint : EntrypointSpec}
    (paired : SurrogatesPaired value)
    (validated : validateEntrypoint value field = .ok entrypoint) :
    entrypoint.Sound := by
  simp only [validateEntrypoint, bind_eq_ok_iff, pure_eq_ok_iff,
    requireDict_returns_iff, validateNonEmptyString_eq_ok,
    validateName_eq_ok] at validated
  obtain ⟨members, rfl, _, _, id, ⟨isId, fullId⟩, kind, ⟨isKind, known⟩,
    ref, ⟨isRef, fullRef⟩, rfl⟩ := validated
  refine ⟨fullId, known, fullRef, paired_obj_iff.mpr ⟨?_, ?_⟩⟩
  · simp [EntrypointSpec.toDict, scalars_text]
  · have each := paired_getOrNone paired
    simp only [EntrypointSpec.toDict, ← isId, ← isKind, ← isRef,
      List.forall_mem_cons, List.not_mem_nil, each, true_and,
      false_implies, implies_true]

theorem validateEntrypoint_sorted
    {entrypoint : EntrypointSpec} (sound : entrypoint.Sound)
    (field : Text) :
    validateEntrypoint (Json.sorted (.obj entrypoint.toDict)) field =
      .ok entrypoint := by
  have distinct := entrypointKeys_nodup entrypoint
  rw [sorted_obj]
  simp only [validateEntrypoint, bind_eq_ok_iff, pure_eq_ok_iff,
    requireDict_returns_iff, requireExactKeys_eq_ok_iff,
    validateNonEmptyString_eq_ok, validateName_eq_ok]
  refine ⟨_, rfl, ⟨⟩, hasKeys_stored (hasKeys_self rfl),
    entrypoint.entrypointId, ⟨?_, sound.entrypointId⟩, entrypoint.kind,
    ⟨?_, sound.kind⟩, entrypoint.ref, ⟨?_, sound.ref⟩, rfl⟩
  · exact Catalog.getOrNone_stored distinct rfl rfl
  · exact Catalog.getOrNone_stored distinct rfl rfl
  · exact Catalog.getOrNone_stored distinct rfl rfl

/-- What a validator has checked of the probes. -/
structure ProbesSpec.Sound (probes : ProbesSpec) : Prop where
  runtime : probes.runtimeProbe ≠ []
  compute : probes.actualComputeProbe ≠ []
  paired : SurrogatesPaired (.obj probes.toDict)

theorem probesKeys_nodup (probes : ProbesSpec) :
    (probes.toDict.map Prod.fst).Nodup := by
  change [text "runtime_probe", text "actual_compute_probe"].Nodup
  decide

theorem sound_of_validateProbes
    {value : Json} {probes : ProbesSpec} (paired : SurrogatesPaired value)
    (validated : validateProbes value = .ok probes) : probes.Sound := by
  simp only [validateProbes, bind_eq_ok_iff, pure_eq_ok_iff,
    requireDict_returns_iff, validateNonEmptyString_eq_ok] at validated
  obtain ⟨members, rfl, _, _, runtime, ⟨isRuntime, fullRuntime⟩, compute,
    ⟨isCompute, fullCompute⟩, rfl⟩ := validated
  refine ⟨fullRuntime, fullCompute, paired_obj_iff.mpr ⟨?_, ?_⟩⟩
  · simp [ProbesSpec.toDict, scalars_text]
  · have each := paired_getOrNone paired
    simp only [ProbesSpec.toDict, ← isRuntime, ← isCompute,
      List.forall_mem_cons, List.not_mem_nil, each, true_and,
      false_implies, implies_true]

theorem validateProbes_sorted
    {probes : ProbesSpec} (sound : probes.Sound) :
    validateProbes (Json.sorted (.obj probes.toDict)) = .ok probes := by
  have distinct := probesKeys_nodup probes
  rw [sorted_obj]
  simp only [validateProbes, bind_eq_ok_iff, pure_eq_ok_iff,
    requireDict_returns_iff, requireExactKeys_eq_ok_iff,
    validateNonEmptyString_eq_ok]
  refine ⟨_, rfl, ⟨⟩, hasKeys_stored (hasKeys_self rfl),
    probes.runtimeProbe, ⟨?_, sound.runtime⟩, probes.actualComputeProbe,
    ⟨?_, sound.compute⟩, rfl⟩
  · exact Catalog.getOrNone_stored distinct rfl rfl
  · exact Catalog.getOrNone_stored distinct rfl rfl

/-! ## Manifests -/

/-- What the builder has checked of a manifest. -/
structure ResourcePackManifest.Sound (manifest : ResourcePackManifest) :
    Prop where
  schemaVersion : manifest.schemaVersion = packManifestSchemaVersion
  packId : manifest.packId ≠ []
  name : manifest.name ≠ []
  version : manifest.version ≠ []
  profiles : ∀ profile ∈ manifest.capabilityProfiles,
    profile ∈ Catalog.profileNames
  somePlatform : manifest.platforms ≠ []
  platforms : ∀ platform ∈ manifest.platforms, SoundPlatform platform
  source : manifest.source.Sound
  lock : isObjectId manifest.lockSha256 = true
  tree : isObjectId manifest.treeSha256 = true
  license : manifest.license.Sound
  sbom : ∀ digest, manifest.sbomSha256 = some digest →
    isObjectId digest = true
  entrypoints : ∀ entrypoint ∈ manifest.entrypoints, entrypoint.Sound
  probes : manifest.probes.Sound
  runtimeDeclared : manifest.probes.runtimeProbe ∈
    manifest.entrypoints.map EntrypointSpec.entrypointId
  computeDeclared : manifest.probes.actualComputeProbe ∈
    manifest.entrypoints.map EntrypointSpec.entrypointId
  createdUtc : manifest.createdUtc ≠ []
  canonicalWrites : manifest.canonicalWrites = 0
  grantsAuthority : manifest.grantsAuthority = false
  paired : SurrogatesPaired (.obj manifest.toDict)

theorem validateTopStructure_eq_ok {value : Json} {members : Fields} :
    validateTopStructure value = .ok members ↔
      value = .obj members ∧ HasKeys manifestKeys manifestKeys members ∧
        getOrNone (text "schema_version") members =
          .str packManifestSchemaVersion := by
  cases value with
  | null | bool _ | int _ | float _ | str _ | arr _ =>
      exact iff_of_false (by simp [validateTopStructure]) (by simp)
  | obj others =>
      simp only [validateTopStructure, validateSchemaVersion,
        bind_eq_ok_iff, pure_eq_ok_iff, requireExactKeys_eq_ok_iff,
        validateNonEmptyString_eq_ok, refuseIf_eq_ok_iff, ne_eq, not_not]
      constructor
      · rintro ⟨_, keys, _, ⟨version, ⟨isVersion, _⟩, rfl⟩, rfl⟩
        exact ⟨rfl, keys, isVersion⟩
      · rintro ⟨same, keys, isVersion⟩
        cases same
        exact ⟨⟨⟩, keys, ⟨⟩, ⟨_, ⟨isVersion, by decide⟩, rfl⟩, rfl⟩

theorem validateProfilesField_sound
    {members : Fields} {profiles : List Text}
    (paired : SurrogatesPaired (.obj members))
    (validated : validateProfilesField members = .ok profiles) :
    (∀ profile ∈ profiles, profile ∈ Catalog.profileNames) ∧
      SurrogatesPaired (.arr (profiles.map .str)) := by
  simp only [validateProfilesField, bind_eq_ok_iff,
    requireArray_returns_iff] at validated
  obtain ⟨items, isItems, returned⟩ := validated
  have inArray := paired_getOrNone paired (text "capability_profiles")
  rw [isItems] at inArray
  have each : ∀ profile ∈ profiles, profile ∈ Catalog.profileNames ∧
      SurrogatesPaired (.str profile) := by
    intro profile isProfile
    obtain ⟨index, item, isItem, ran⟩ :=
      mem_of_mapM_zipIdx returned profile isProfile
    obtain ⟨rfl, known⟩ := validateProfile_eq_ok.mp ran
    exact ⟨known, paired_arr_iff.mp inArray _ isItem⟩
  refine ⟨fun profile isProfile => (each profile isProfile).1,
    paired_arr_iff.mpr fun item isItem => ?_⟩
  obtain ⟨profile, isProfile, rfl⟩ := List.mem_map.mp isItem
  exact (each profile isProfile).2

theorem validatePlatformsField_sound
    {members : Fields} {platforms : List PlatformSpec}
    (paired : SurrogatesPaired (.obj members))
    (validated : validatePlatformsField members = .ok platforms) :
    platforms ≠ [] ∧ ∀ platform ∈ platforms, SoundPlatform platform := by
  have inField := paired_getOrNone paired (text "platforms")
  rw [validatePlatformsField] at validated
  split at validated
  · next first rest isArray =>
      rw [isArray] at inField
      constructor
      · rintro rfl
        have lengths := length_of_mapM validated
        simp at lengths
      · intro platform isPlatform
        obtain ⟨index, item, isItem, ran⟩ :=
          @mem_of_mapM_zipIdx _ (fun item index =>
            validatePlatform item (indexedField "platforms" index)) _ _
            validated platform isPlatform
        exact sound_of_validatePlatform
          (paired_arr_iff.mp inField _ isItem) ran
  · cases validated

theorem validateEntrypointsAndProbes_sound
    {members : Fields} {entrypoints : List EntrypointSpec}
    {probes : ProbesSpec} (paired : SurrogatesPaired (.obj members))
    (validated : validateEntrypointsAndProbes members =
      .ok (entrypoints, probes)) :
    (∀ entrypoint ∈ entrypoints, entrypoint.Sound) ∧ probes.Sound ∧
      probes.runtimeProbe ∈
        entrypoints.map EntrypointSpec.entrypointId ∧
      probes.actualComputeProbe ∈
        entrypoints.map EntrypointSpec.entrypointId := by
  simp only [validateEntrypointsAndProbes, requireDeclared, bind_eq_ok_iff,
    pure_eq_ok_iff, requireArray_returns_iff, refuseIf_eq_ok_iff, not_not,
    Prod.mk.injEq] at validated
  obtain ⟨items, isItems, _, returned, _, isProbes, _, runtime, _, compute,
    rfl, rfl⟩ := validated
  have inArray := paired_getOrNone paired (text "entrypoints")
  rw [isItems] at inArray
  refine ⟨?_, sound_of_validateProbes (paired_getOrNone paired _) isProbes,
    runtime, compute⟩
  intro entrypoint isEntrypoint
  obtain ⟨index, item, isItem, ran⟩ :=
    @mem_of_mapM_zipIdx _ (fun item index =>
      validateEntrypoint item (indexedField "entrypoints" index)) _ _
      returned entrypoint isEntrypoint
  exact sound_of_validateEntrypoint (paired_arr_iff.mp inArray _ isItem) ran

/-- A built manifest has passed every check. -/
theorem sound_of_buildManifest
    {value : Json} {manifest : ResourcePackManifest}
    (paired : SurrogatesPaired value)
    (built : buildManifest value = .ok manifest) : manifest.Sound := by
  simp only [buildManifest, validateManifestTail, bind_eq_ok_iff,
    pure_eq_ok_iff, validateTopStructure_eq_ok,
    validateNonEmptyString_eq_ok, validateSha256_eq_ok, validateSbom_eq_ok,
    validateCanonicalWrites_eq_ok, validateGrantsAuthority_eq_ok,
    Prod.exists] at built
  obtain ⟨members, ⟨rfl, keys, isVersion⟩, packId, ⟨isPackId, fullPackId⟩,
    name, ⟨isName, fullName⟩, version, ⟨isRelease, fullRelease⟩, profiles,
    isProfiles, platforms, isPlatforms, source, isSource, lock,
    ⟨isLock, lockShaped⟩, tree, ⟨isTree, treeShaped⟩, license, isLicense,
    sbom, ⟨isSbom, sbomShaped⟩, entrypoints, probes, isEntrypoints,
    created, writes, authority,
    ⟨_, ⟨isCreated, fullCreated⟩, _, ⟨isWrites, noWrites⟩, _,
      ⟨isAuthority, noAuthority⟩, same⟩, rfl⟩ := built
  obtain ⟨rfl, rfl, rfl⟩ : _ ∧ _ ∧ _ := by
    simpa only [Prod.mk.injEq] using same
  obtain ⟨knownProfiles, pairedProfiles⟩ :=
    validateProfilesField_sound paired isProfiles
  obtain ⟨somePlatform, soundPlatforms⟩ :=
    validatePlatformsField_sound paired isPlatforms
  obtain ⟨soundEntrypoints, soundProbes, runtime, compute⟩ :=
    validateEntrypointsAndProbes_sound paired isEntrypoints
  have each := paired_getOrNone paired
  have soundSource := sound_of_validateSource (each _) isSource
  have soundLicense := sound_of_validateLicense (each _) isLicense
  have pairedPlatforms : SurrogatesPaired
      (.arr (platforms.map fun platform => .obj platform.toDict)) := by
    refine paired_arr_iff.mpr fun item isItem => ?_
    obtain ⟨platform, isPlatform, rfl⟩ := List.mem_map.mp isItem
    exact (soundPlatforms platform isPlatform).paired
  have pairedEntrypoints : SurrogatesPaired
      (.arr (entrypoints.map fun entrypoint =>
        .obj entrypoint.toDict)) := by
    refine paired_arr_iff.mpr fun item isItem => ?_
    obtain ⟨entrypoint, isEntrypoint, rfl⟩ := List.mem_map.mp isItem
    exact (soundEntrypoints entrypoint isEntrypoint).paired
  refine
    { schemaVersion := rfl, packId := fullPackId, name := fullName
      version := fullRelease, profiles := knownProfiles
      somePlatform := somePlatform, platforms := soundPlatforms
      source := soundSource, lock := lockShaped, tree := treeShaped
      license := soundLicense, sbom := sbomShaped
      entrypoints := soundEntrypoints, probes := soundProbes
      runtimeDeclared := runtime, computeDeclared := compute
      createdUtc := fullCreated, canonicalWrites := noWrites
      grantsAuthority := noAuthority
      paired := paired_obj_iff.mpr ⟨?_, ?_⟩ }
  · simp [ResourcePackManifest.toDict, scalars_text]
  · simp only [ResourcePackManifest.toDict, ← isVersion, ← isPackId,
      ← isName, ← isRelease, ← isLock, ← isTree, ← isSbom, ← isCreated,
      List.forall_mem_cons, List.not_mem_nil, each, pairedProfiles,
      pairedPlatforms, soundSource.paired, soundLicense.paired,
      pairedEntrypoints, soundProbes.paired, true_and, false_implies,
      implies_true]
    exact ⟨trivial, trivial, trivial⟩

theorem manifestKeys_nodup (manifest : ResourcePackManifest) :
    (manifest.toDict.map Prod.fst).Nodup := by
  change manifestKeys.Nodup
  simp -index only [manifestKeys, text_ofList]
  decide

/-- A member of the dict of a manifest, as it is read back. -/
theorem getOrNone_manifest
    (manifest : ResourcePackManifest) {key : Text} {value result : Json}
    (found : Json.lookup key manifest.toDict = some value)
    (isResult : value.sorted = result) :
    getOrNone key (stored manifest.toDict) = result :=
  Catalog.getOrNone_stored (manifestKeys_nodup manifest) found isResult

theorem sorted_records {α : Type} (toDict : α → Fields) (items : List α) :
    (Json.arr (items.map fun item => .obj (toDict item))).sorted =
      .arr (items.map fun item => Json.sorted (.obj (toDict item))) := by
  rw [Json.sorted, sortedItems_eq_map, List.map_map]
  rfl

theorem validateProfilesField_stored
    {manifest : ResourcePackManifest} (sound : manifest.Sound) :
    validateProfilesField (stored manifest.toDict) =
      .ok manifest.capabilityProfiles := by
  simp only [validateProfilesField, bind_eq_ok_iff,
    requireArray_returns_iff]
  refine ⟨manifest.capabilityProfiles.map .str, ?_, ?_⟩
  · exact getOrNone_manifest manifest rfl (sorted_strings _)
  · refine mapM_zipIdx_map (fun profile isProfile index => ?_) 0
    exact validateProfile_eq_ok.mpr
      ⟨rfl, sound.profiles profile isProfile⟩

theorem validatePlatformsField_stored
    {manifest : ResourcePackManifest} (sound : manifest.Sound) :
    validatePlatformsField (stored manifest.toDict) =
      .ok manifest.platforms := by
  have read := @mapM_zipIdx_map _ (fun item index =>
    validatePlatform item (indexedField "platforms" index))
    manifest.platforms
    (fun platform => Json.sorted (.obj platform.toDict))
    (fun platform isPlatform index =>
      validatePlatform_sorted (sound.platforms platform isPlatform) _) 0
  rw [validatePlatformsField, getOrNone_manifest manifest rfl
    (sorted_records PlatformSpec.toDict manifest.platforms)]
  obtain ⟨first, rest, isCons⟩ :=
    List.exists_cons_of_ne_nil sound.somePlatform
  rw [isCons] at read ⊢
  exact read

theorem validateEntrypointsAndProbes_stored
    {manifest : ResourcePackManifest} (sound : manifest.Sound) :
    validateEntrypointsAndProbes (stored manifest.toDict) =
      .ok (manifest.entrypoints, manifest.probes) := by
  have read := @mapM_zipIdx_map _ (fun item index =>
    validateEntrypoint item (indexedField "entrypoints" index))
    manifest.entrypoints
    (fun entrypoint => Json.sorted (.obj entrypoint.toDict))
    (fun entrypoint isEntrypoint index =>
      validateEntrypoint_sorted
        (sound.entrypoints entrypoint isEntrypoint) _) 0
  simp only [validateEntrypointsAndProbes, requireDeclared, bind_eq_ok_iff,
    pure_eq_ok_iff, requireArray_returns_iff, refuseIf_eq_ok_iff, not_not]
  refine ⟨_, getOrNone_manifest manifest rfl
    (sorted_records EntrypointSpec.toDict manifest.entrypoints),
    manifest.entrypoints, read, manifest.probes, ?_, ⟨⟩,
    sound.runtimeDeclared, ⟨⟩, sound.computeDeclared, rfl⟩
  rw [getOrNone_manifest manifest rfl rfl]
  exact validateProbes_sorted sound.probes

/-- A sound manifest is built again from its own dict. -/
theorem buildManifest_sorted
    {manifest : ResourcePackManifest} (sound : manifest.Sound) :
    buildManifest (Json.sorted (.obj manifest.toDict)) = .ok manifest := by
  have keys : HasKeys manifestKeys manifestKeys (stored manifest.toDict) :=
    hasKeys_stored (hasKeys_self rfl)
  rw [sorted_obj]
  simp only [buildManifest, validateManifestTail, bind_eq_ok_iff,
    pure_eq_ok_iff, validateTopStructure_eq_ok,
    validateNonEmptyString_eq_ok, validateSha256_eq_ok, validateSbom_eq_ok,
    validateCanonicalWrites_eq_ok, validateGrantsAuthority_eq_ok,
    Prod.exists]
  refine ⟨stored manifest.toDict, ⟨rfl, keys, ?_⟩, manifest.packId,
    ⟨?_, sound.packId⟩, manifest.name, ⟨?_, sound.name⟩,
    manifest.version, ⟨?_, sound.version⟩, manifest.capabilityProfiles,
    validateProfilesField_stored sound, manifest.platforms,
    validatePlatformsField_stored sound, manifest.source, ?_,
    manifest.lockSha256, ⟨?_, sound.lock⟩, manifest.treeSha256,
    ⟨?_, sound.tree⟩, manifest.license, ?_, manifest.sbomSha256,
    ⟨?_, sound.sbom⟩, manifest.entrypoints, manifest.probes,
    validateEntrypointsAndProbes_stored sound, manifest.createdUtc,
    manifest.canonicalWrites, manifest.grantsAuthority,
    ⟨_, ⟨?_, sound.createdUtc⟩, _, ⟨?_, sound.canonicalWrites⟩, _,
      ⟨?_, sound.grantsAuthority⟩, rfl⟩, ?_⟩
  · rw [← sound.schemaVersion]
    exact getOrNone_manifest manifest rfl rfl
  · exact getOrNone_manifest manifest rfl rfl
  · exact getOrNone_manifest manifest rfl rfl
  · exact getOrNone_manifest manifest rfl rfl
  · rw [getOrNone_manifest manifest rfl rfl]
    exact validateSource_sorted sound.source
  · exact getOrNone_manifest manifest rfl rfl
  · exact getOrNone_manifest manifest rfl rfl
  · rw [getOrNone_manifest manifest rfl rfl]
    exact validateLicense_sorted sound.license
  · exact getOrNone_manifest manifest rfl (optionalText_sorted _)
  · exact getOrNone_manifest manifest rfl rfl
  · rw [← sound.canonicalWrites]
    exact getOrNone_manifest manifest rfl rfl
  · rw [← sound.grantsAuthority]
    exact getOrNone_manifest manifest rfl rfl
  · rw [← sound.schemaVersion]

/-! ## Encoding -/

theorem tidy_toDict
    {manifest : ResourcePackManifest} (sound : manifest.Sound) :
    (Json.obj manifest.toDict).Tidy := by
  have strings (values : List Text) :
      (Json.arr (values.map .str)).Tidy := by
    refine tidy_arr_iff.mpr fun item isItem => ?_
    obtain ⟨value, _, rfl⟩ := List.mem_map.mp isItem
    trivial
  have platforms : (Json.arr (manifest.platforms.map fun platform =>
      .obj platform.toDict)).Tidy := by
    refine tidy_arr_iff.mpr fun item isItem => ?_
    obtain ⟨platform, _, rfl⟩ := List.mem_map.mp isItem
    exact ⟨platformKeys_nodup platform, trivial, trivial,
      tidy_optionalText _, trivial⟩
  have source : (Json.obj manifest.source.toDict).Tidy :=
    ⟨sourceKeys_nodup _, tidy_optionalText _, tidy_optionalText _, trivial,
      trivial⟩
  have license : (Json.obj manifest.license.toDict).Tidy :=
    ⟨licenseKeys_nodup _, trivial, strings _, trivial⟩
  have entrypoints : (Json.arr (manifest.entrypoints.map
      fun entrypoint => .obj entrypoint.toDict)).Tidy := by
    refine tidy_arr_iff.mpr fun item isItem => ?_
    obtain ⟨entrypoint, _, rfl⟩ := List.mem_map.mp isItem
    exact ⟨entrypointKeys_nodup entrypoint, trivial, trivial, trivial,
      trivial⟩
  have probes : (Json.obj manifest.probes.toDict).Tidy :=
    ⟨probesKeys_nodup _, trivial, trivial, trivial⟩
  have writes : (Json.int manifest.canonicalWrites).Tidy := by
    rw [sound.canonicalWrites]
    change (decimalText (Int.natAbs 0)).length ≤ intMaxStrDigits
    decide
  exact ⟨manifestKeys_nodup manifest, trivial, trivial, trivial, trivial,
    strings _, platforms, source, trivial, trivial, license,
    tidy_optionalText _, entrypoints, probes, trivial, writes, trivial,
    trivial⟩

/--
A manifest that was built from a dict with well-formed strings is encoded,
and what is decoded from the encoding builds the same manifest, so the
encoding and with it the digest are those of the first time.
-/
theorem buildManifest_reads_back
    (value : Json) (manifest : ResourcePackManifest)
    (wellFormed : SurrogatesPaired value)
    (built : buildManifest value = .ok manifest) :
    ∃ encoded decoded,
      manifest.canonicalDumps = .ok encoded ∧
        loads encoded = .ok decoded ∧
        ∃ again, buildManifest decoded = .ok again ∧ again = manifest ∧
          again.canonicalDumps = .ok encoded := by
  have sound := sound_of_buildManifest wellFormed built
  have tidy := tidy_toDict sound
  have distinct := distinct_of_tidy _ tidy
  obtain ⟨encoded, dumped⟩ :=
    dumps_of_writable (writable_of_tidy _ tidy sound.paired)
  exact ⟨encoded, _, dumped, loads_dumps_sorted distinct dumped, manifest,
    buildManifest_sorted sound, rfl, dumped⟩

/-- The digest of sixty-four zeros. -/
def zeroDigest : Text :=
  text ("sha256:00000000000000000000000000000000" ++
    "00000000000000000000000000000000")

/-- A manifest with one platform and one entrypoint. -/
def smallManifest : ResourcePackManifest :=
  { schemaVersion := packManifestSchemaVersion
    packId := text "pack"
    name := text "Pack"
    version := text "1.0"
    capabilityProfiles := [text "dynamics"]
    platforms := [⟨text "linux", text "x86_64", none⟩]
    source := ⟨some (text "upstream"), none, zeroDigest⟩
    lockSha256 := zeroDigest
    treeSha256 := zeroDigest
    license := ⟨text "MIT", [zeroDigest]⟩
    sbomSha256 := none
    entrypoints := [⟨text "probe", text "binary", text "bin/probe"⟩]
    probes := ⟨text "probe", text "probe"⟩
    createdUtc := text "2026-01-01T00:00:00Z"
    canonicalWrites := 0
    grantsAuthority := false }

theorem smallManifest_reads_back :
    SurrogatesPaired (.obj smallManifest.toDict) ∧
      buildManifest (.obj smallManifest.toDict) = .ok smallManifest ∧
      ∃ encoded decoded,
        smallManifest.canonicalDumps = .ok encoded ∧
          loads encoded = .ok decoded ∧
          ∃ again, buildManifest decoded = .ok again ∧
            again = smallManifest ∧ again.canonicalDumps = .ok encoded := by
  have wellFormed : SurrogatesPaired (.obj smallManifest.toDict) := by
    simp [smallManifest, zeroDigest, ResourcePackManifest.toDict,
      PlatformSpec.toDict, SourceSpec.toDict, LicenseSpec.toDict,
      EntrypointSpec.toDict, ProbesSpec.toDict, packManifestSchemaVersion,
      optionalText, SurrogatesPaired, Json.All, AllMembers, AllItems,
      ScalarString, scalars_text]
  have built : buildManifest (.obj smallManifest.toDict) =
      .ok smallManifest := by
    decide
  exact ⟨wellFormed, built,
    buildManifest_reads_back _ _ wellFormed built⟩

end ScientificResourceLab.Packs
