import ScientificResourceLab.Contracts.Canonical
import ScientificResourceLab.Python.Printing
import ScientificResourceLab.Steps.Fallible

/-!
# Capability registry entries

`srl.catalog.registry`: an entry is the identity of one capability, and
`_build_entry_from_raw` is the only way from decoded JSON to an entry.  It
takes the raw dict apart, builds the nested records unchecked and passes
every field through `build_entry`.

An entry that it returns satisfies `CapabilityRegistryEntry.Valid`, and a
valid entry is read back from its own dict, in whatever order the members of
that dict are stored (`buildEntryFromRaw_toDict`).
-/

namespace ScientificResourceLab.Catalog

open Python Contracts Steps

/-- The members of a dict. -/
abbrev Fields := List (Text × Json)

/-! ## Records -/

/-- `PlatformSpec`. -/
structure PlatformSpec where
  os : Text
  arch : Text
  abi : Option Text
  deriving DecidableEq

/-- A number of seconds, an `int` or a `float`. -/
inductive Seconds where
  | int (value : Int)
  | float (value : Float64)
  deriving DecidableEq

/-- The value as a document holds it. -/
def Seconds.toJson : Seconds → Json
  | .int value => .int value
  | .float value => .float value

/-- `MeasuredResources`. -/
structure MeasuredResources where
  expandedBytes : Int
  rssBytes : Int
  wallSeconds : Seconds
  deriving DecidableEq

/-- `Provenance`. -/
structure Provenance where
  sourceUrl : Option Text
  sourceSha256 : Option Text
  deriving DecidableEq

/-- `CapabilityRegistryEntry`. -/
structure CapabilityRegistryEntry where
  capabilityId : Text
  profile : Text
  adapterId : Option Text
  packManifestDigest : Option Text
  platforms : List PlatformSpec
  measuredResources : Option MeasuredResources
  licenseSpdx : Text
  provenance : Provenance
  admissionStage : Text
  deriving DecidableEq

/-- `asdict` on a platform. -/
def PlatformSpec.toDict (platform : PlatformSpec) : Fields :=
  [(text "os", .str platform.os), (text "arch", .str platform.arch),
    (text "abi", optionalText platform.abi)]

/-- The measured resources in the dict of an entry. -/
def MeasuredResources.toDict (measured : MeasuredResources) : Fields :=
  [(text "expanded_bytes", .int measured.expandedBytes),
    (text "rss_bytes", .int measured.rssBytes),
    (text "wall_seconds", measured.wallSeconds.toJson)]

/-- `asdict` on a provenance. -/
def Provenance.toDict (provenance : Provenance) : Fields :=
  [(text "source_url", optionalText provenance.sourceUrl),
    (text "source_sha256", optionalText provenance.sourceSha256)]

/-- The measured resources, or `None`. -/
def optionalMeasured : Option MeasuredResources → Json
  | none => .null
  | some measured => .obj measured.toDict

/-- `CapabilityRegistryEntry.to_dict`. -/
def CapabilityRegistryEntry.toDict (entry : CapabilityRegistryEntry) :
    Fields :=
  [(text "capability_id", .str entry.capabilityId),
    (text "profile", .str entry.profile),
    (text "adapter_id", optionalText entry.adapterId),
    (text "pack_manifest_digest", optionalText entry.packManifestDigest),
    (text "platforms", .arr (entry.platforms.map fun platform =>
      .obj platform.toDict)),
    (text "measured_resources", optionalMeasured entry.measuredResources),
    (text "license_spdx", .str entry.licenseSpdx),
    (text "provenance", .obj entry.provenance.toDict),
    (text "admission_stage", .str entry.admissionStage)]

/-! ## Tables -/

/-- `PROFILE_NAMES`, in the order of `sorted`. -/
def profileNames : List Text :=
  [text "algebra_exact", text "causal_time_series", text "dynamics",
    text "executable_ode_dae_sde_model", text "formal_protocol",
    text "geometry_tda", text "literature", text "literature_extraction",
    text "model_composition",
    text "nonlinear_continuous_or_hybrid_constraint", text "optimization",
    text "pde_variational_model", text "symbolic_law",
    text "theorem_or_proof_obligation", text "uncertainty"]

/-- The admission stages, in the order of `sorted`. -/
def admissionStages : List Text :=
  [text "ACTUAL_COMPUTE_PROBED", text "BUILT", text "BYTE_VERIFIED",
    text "DISCOVERED", text "EXPERIMENTAL_ACCEPTED",
    text "LICENSE_CLEARED", text "LOCKED", text "RUNTIME_PROBED",
    text "SOURCE_VERIFIED", text "not_admitted"]

/-- `_OS_NAMES`. -/
def osNames : List Text :=
  [text "linux", text "macos"]

/-- `_ARCH_NAMES`. -/
def archNames : List Text :=
  [text "arm64", text "x86_64"]

/-! ## Checks -/

/-- A `CatalogError`. -/
def catalogError (message : Text) : PyError :=
  ⟨.catalogError, message⟩

/-- `_require_non_empty_str`. -/
def requireNonEmptyStr (value : Json) (field : String) :
    Except PyError Text :=
  match value with
  | .str (point :: rest) => .ok (point :: rest)
  | _ => .error (catalogError (text field ++
      text " must be a non-empty string, got " ++ reprJson value))

/-- `value not in names` for a set of strings: only scalars are hashable. -/
def requireMember (names : List Text) (subject : Text) (value : Json) :
    Except PyError Text :=
  match value with
  | .str value =>
      if value ∈ names then .ok value
      else .error (catalogError (subject ++ text " " ++ quoted value ++
        text " must be one of " ++ quotedList names))
  | .arr _ => .error (raised .typeError "unhashable type: 'list'")
  | .obj _ => .error (raised .typeError "unhashable type: 'dict'")
  | _ => .error (catalogError (subject ++ text " " ++ reprJson value ++
      text " must be one of " ++ quotedList names))

/-- `_validate_profile`. -/
def validateProfile (value : Json) : Except PyError Text := do
  let name ← requireNonEmptyStr value "profile"
  requireMember profileNames (text "profile") (.str name)

/-- `_validate_adapter_id`. -/
def validateAdapterId (value : Json) : Except PyError (Option Text) :=
  match value with
  | .null => .ok none
  | value => (requireNonEmptyStr value "adapter_id").map some

/-- `_validate_optional_digest`, and the digest of a provenance. -/
def validateOptionalDigest (value : Json) (field : String) :
    Except PyError (Option Text) :=
  match value with
  | .null => .ok none
  | .str digest =>
      if isObjectId digest then .ok (some digest)
      else .error (catalogError (text field ++ text " " ++
        quoted digest ++ text " is not a valid object id"))
  | value => .error (catalogError (text field ++ text " " ++
      reprJson value ++ text " is not a valid object id"))

/-- A platform before its names are checked. -/
structure RawPlatform where
  os : Json
  arch : Json
  abi : Option Text

/-- The required keys that a dict lacks. -/
def missingKeys (required : List Text) (members : Fields) : List Text :=
  required.filter fun key => (Json.lookup key members).isNone

/-- Refuse a dict that lacks required keys. -/
def requireKeys (required : List Text) (members : Fields)
    (subject : Text) : Except PyError PUnit :=
  refuseIf (missingKeys required members ≠ [])
    (catalogError (subject ++ text " missing required key(s): " ++
      quotedList (missingKeys required members)))

/-- `f"{prefix}[{index}]"`. -/
def indexed (index : Nat) : Text :=
  text "platforms[" ++ decimalText index ++ text "]"

/-- A string or `None`, else a `CatalogError`. -/
def requireOptionalStr (value : Json) (field : Text) :
    Except PyError (Option Text) :=
  match value with
  | .null => .ok none
  | .str value => .ok (some value)
  | value => .error (catalogError (field ++
      text " must be a string or null, got " ++ typeName value))

/-- `_build_platform`. -/
def buildPlatform (index : Nat) (value : Json) :
    Except PyError RawPlatform :=
  match value with
  | .obj members => do
      requireKeys [text "arch", text "os"] members (indexed index)
      let extra := (members.map Prod.fst).filter fun key =>
        key ∉ [text "os", text "arch", text "abi"]
      refuseIf (extra ≠ [])
        (catalogError (indexed index ++ text " has unexpected key(s): " ++
          quotedList (extra.insertionSort (· ≤ ·))))
      let abi ← requireOptionalStr (getOrNone (text "abi") members)
        (indexed index ++ text ".abi")
      pure ⟨getOrNone (text "os") members,
        getOrNone (text "arch") members, abi⟩
  | value => .error (catalogError (indexed index ++
      text " must be an object, got " ++ typeName value))

/-- The check of `_validate_platforms` on one platform. -/
def validatePlatform (index : Nat) (platform : RawPlatform) :
    Except PyError PlatformSpec := do
  let os ← requireMember osNames (indexed index ++ text ".os") platform.os
  let arch ← requireMember archNames (indexed index ++ text ".arch")
    platform.arch
  pure ⟨os, arch, platform.abi⟩

/-- A loop that counts from an index. -/
def enumerateM {α β : Type} (body : Nat → α → Except PyError β) :
    Nat → List α → Except PyError (List β)
  | _, [] => .ok []
  | index, item :: rest => do
      let first ← body index item
      let others ← enumerateM body (index + 1) rest
      pure (first :: others)

/-- Measured resources before their values are checked. -/
structure RawMeasured where
  expandedBytes : Json
  rssBytes : Json
  wallSeconds : Json

/-- `_build_measured_resources`. -/
def buildMeasuredResources (value : Json) :
    Except PyError (Option RawMeasured) :=
  match value with
  | .null => .ok none
  | .obj members => do
      requireKeys
        [text "expanded_bytes", text "rss_bytes", text "wall_seconds"]
        members (text "measured_resources")
      pure (some ⟨getOrNone (text "expanded_bytes") members,
        getOrNone (text "rss_bytes") members,
        getOrNone (text "wall_seconds") members⟩)
  | value => .error (catalogError (text
      "measured_resources must be an object or null, got " ++
      typeName value))

/-- A non-negative `int` that is no `bool`. -/
def requireCount (value : Json) (field : String) : Except PyError Int :=
  match value with
  | .int count =>
      if count < 0 then
        .error (catalogError (text field ++
          text " must be non-negative, got " ++ intText count))
      else .ok count
  | value => .error (catalogError (text field ++
      text " must be an int, got " ++ reprJson value))

/-- `value < 0` on a double: false on zeros and on NaN. -/
def isBelowZero (value : Float64) : Bool :=
  value.isNegative && !value.isZero &&
    (value.isFinite || value.fraction = 0)

/-- The check of `wall_seconds`. -/
def requireSeconds (value : Json) : Except PyError Seconds :=
  match value with
  | .int seconds =>
      if seconds < 0 then
        .error (catalogError (text
          "measured_resources.wall_seconds must be non-negative, got " ++
          intText seconds))
      else .ok (.int seconds)
  | .float seconds =>
      if isBelowZero seconds then
        .error (catalogError (text
          "measured_resources.wall_seconds must be non-negative, got " ++
          floatText seconds))
      else .ok (.float seconds)
  | value => .error (catalogError (text
      "measured_resources.wall_seconds must be a number, got " ++
      typeName value))

/-- `_validate_measured_resources`. -/
def validateMeasuredResources :
    Option RawMeasured → Except PyError (Option MeasuredResources)
  | none => .ok none
  | some raw => do
      let expandedBytes ← requireCount raw.expandedBytes
        "measured_resources.expanded_bytes"
      let rssBytes ← requireCount raw.rssBytes
        "measured_resources.rss_bytes"
      let wallSeconds ← requireSeconds raw.wallSeconds
      pure (some ⟨expandedBytes, rssBytes, wallSeconds⟩)

/-- A provenance before its digest is checked. -/
structure RawProvenance where
  sourceUrl : Option Text
  sourceSha256 : Json

/-- `_build_provenance`. -/
def buildProvenance (value : Json) : Except PyError RawProvenance :=
  match value with
  | .obj members => do
      requireKeys [text "source_sha256", text "source_url"] members
        (text "provenance")
      let sourceUrl ← requireOptionalStr
        (getOrNone (text "source_url") members)
        (text "provenance.source_url")
      pure ⟨sourceUrl, getOrNone (text "source_sha256") members⟩
  | value => .error (catalogError (text
      "provenance must be an object, got " ++ typeName value))

/-- `_validate_provenance`. -/
def validateProvenance (raw : RawProvenance) :
    Except PyError Provenance := do
  let sourceSha256 ← validateOptionalDigest raw.sourceSha256
    "provenance.source_sha256"
  pure ⟨raw.sourceUrl, sourceSha256⟩

/-! ## Building an entry -/

/-- The required keys of an entry, in the order of `sorted`. -/
def entryKeys : List Text :=
  [text "adapter_id", text "admission_stage", text "capability_id",
    text "license_spdx", text "measured_resources",
    text "pack_manifest_digest", text "platforms", text "profile",
    text "provenance"]

/-- A list, else a `CatalogError`. -/
def requirePlatforms (value : Json) : Except PyError (List Json) :=
  match value with
  | .arr items => .ok items
  | value => .error (catalogError (text
      "platforms must be an array, got " ++ typeName value))

/-- `build_entry` on the fields of a raw dict. -/
def buildEntry (members : Fields) (platforms : List RawPlatform)
    (measured : Option RawMeasured) (provenance : RawProvenance) :
    Except PyError CapabilityRegistryEntry := do
  let capabilityId ← requireNonEmptyStr
    (getOrNone (text "capability_id") members) "capability_id"
  let profile ← validateProfile (getOrNone (text "profile") members)
  let adapterId ← validateAdapterId
    (getOrNone (text "adapter_id") members)
  let packManifestDigest ← validateOptionalDigest
    (getOrNone (text "pack_manifest_digest") members)
    "pack_manifest_digest"
  let platforms ← enumerateM validatePlatform 0 platforms
  let measuredResources ← validateMeasuredResources measured
  let licenseSpdx ← requireNonEmptyStr
    (getOrNone (text "license_spdx") members) "license_spdx"
  let provenance ← validateProvenance provenance
  let admissionStage ← requireMember admissionStages
    (text "admission_stage") (getOrNone (text "admission_stage") members)
  pure
    { capabilityId := capabilityId
      profile := profile
      adapterId := adapterId
      packManifestDigest := packManifestDigest
      platforms := platforms
      measuredResources := measuredResources
      licenseSpdx := licenseSpdx
      provenance := provenance
      admissionStage := admissionStage }

/-- `_build_entry_from_raw`. -/
def buildEntryFromRaw (entry : Json) :
    Except PyError CapabilityRegistryEntry :=
  match entry with
  | .obj members => do
      requireKeys entryKeys members (text "seed entry")
      let rawPlatforms ← requirePlatforms
        (getOrNone (text "platforms") members)
      let platforms ← enumerateM buildPlatform 0 rawPlatforms
      let measured ← buildMeasuredResources
        (getOrNone (text "measured_resources") members)
      let provenance ← buildProvenance
        (getOrNone (text "provenance") members)
      buildEntry members platforms measured provenance
  | value => .error (catalogError (text
      "seed entry must be an object, got " ++ typeName value))

/-! ## Valid entries -/

/-- An optional digest has the shape of one. -/
def DigestShaped (digest : Option Text) : Prop :=
  ∀ value, digest = some value → isObjectId value = true

/-- A number of seconds that passes its check. -/
def Seconds.Valid : Seconds → Prop
  | .int value => 0 ≤ value
  | .float value => isBelowZero value = false

/-- What `build_entry` guarantees of an entry. -/
structure CapabilityRegistryEntry.Valid
    (entry : CapabilityRegistryEntry) : Prop where
  capabilityId : entry.capabilityId ≠ []
  profile : entry.profile ∈ profileNames
  adapterId : ∀ id, entry.adapterId = some id → id ≠ []
  packManifestDigest : DigestShaped entry.packManifestDigest
  platforms : ∀ platform ∈ entry.platforms,
    platform.os ∈ osNames ∧ platform.arch ∈ archNames
  measuredResources : ∀ measured, entry.measuredResources = some measured →
    0 ≤ measured.expandedBytes ∧ 0 ≤ measured.rssBytes ∧
      measured.wallSeconds.Valid
  licenseSpdx : entry.licenseSpdx ≠ []
  provenance : DigestShaped entry.provenance.sourceSha256
  admissionStage : entry.admissionStage ∈ admissionStages

theorem requireNonEmptyStr_eq_ok
    {value : Json} {field : String} {result : Text} :
    requireNonEmptyStr value field = .ok result ↔
      value = .str result ∧ result ≠ [] := by
  unfold requireNonEmptyStr
  split
  · next point rest =>
      constructor
      · rintro ⟨⟩
        exact ⟨rfl, List.cons_ne_nil point rest⟩
      · rintro ⟨same, _⟩
        rw [Json.str.inj same]
  · next notText =>
      constructor
      · rintro ⟨⟩
      · rintro ⟨rfl, nonEmpty⟩
        obtain ⟨point, rest, rfl⟩ := List.exists_cons_of_ne_nil nonEmpty
        exact absurd rfl (notText point rest)

theorem requireMember_eq_ok
    {names : List Text} {subject result : Text} {value : Json} :
    requireMember names subject value = .ok result ↔
      value = .str result ∧ result ∈ names := by
  cases value with
  | str value =>
      simp only [requireMember]
      by_cases isMember : value ∈ names
      · simp only [if_pos isMember, Except.ok.injEq, Json.str.injEq]
        constructor
        · rintro rfl
          exact ⟨rfl, isMember⟩
        · rintro ⟨same, _⟩
          exact same
      · simp only [if_neg isMember, reduceCtorEq, Json.str.injEq,
          false_iff]
        rintro ⟨rfl, inNames⟩
        exact isMember inNames
  | null | bool _ | int _ | float _ | arr _ | obj _ =>
      simp [requireMember]

theorem validateOptionalDigest_eq_ok
    {value : Json} {field : String} {result : Option Text} :
    validateOptionalDigest value field = .ok result ↔
      value = optionalText result ∧ DigestShaped result := by
  cases value with
  | null =>
      cases result <;>
        simp [validateOptionalDigest, optionalText, DigestShaped]
  | str digest =>
      simp only [validateOptionalDigest]
      by_cases shaped : isObjectId digest = true
      · cases result with
        | none => simp [shaped, optionalText]
        | some result =>
            simp only [shaped, if_true, Except.ok.injEq, Option.some.injEq,
              optionalText, Json.str.injEq, DigestShaped, forall_eq']
            constructor
            · rintro rfl
              exact ⟨rfl, shaped⟩
            · rintro ⟨same, _⟩
              exact same
      · cases result with
        | none => simp [shaped, optionalText]
        | some result =>
            simp only [shaped, Bool.false_eq_true, if_false, reduceCtorEq,
              optionalText, Json.str.injEq, DigestShaped,
              Option.some.injEq, forall_eq', false_iff]
            rintro ⟨rfl, isShaped⟩
            exact shaped isShaped
  | bool _ | int _ | float _ | arr _ | obj _ =>
      cases result <;> simp [validateOptionalDigest, optionalText]

theorem requireOptionalStr_optionalText
    (value : Option Text) (field : Text) :
    requireOptionalStr (optionalText value) field = .ok value := by
  cases value <;> rfl

theorem requireCount_eq_ok
    {value : Json} {field : String} {result : Int} :
    requireCount value field = .ok result ↔
      value = .int result ∧ 0 ≤ result := by
  cases value with
  | int count =>
      simp only [requireCount]
      split_ifs with negative
      · simp only [Json.int.injEq, false_iff]
        rintro ⟨rfl, nonneg⟩
        omega
      · simp only [Except.ok.injEq, Json.int.injEq]
        constructor
        · rintro rfl
          exact ⟨rfl, by omega⟩
        · rintro ⟨same, _⟩
          exact same
  | null | bool _ | float _ | str _ | arr _ | obj _ =>
      simp [requireCount]

theorem requireSeconds_eq_ok {value : Json} {result : Seconds} :
    requireSeconds value = .ok result ↔
      value = result.toJson ∧ result.Valid := by
  cases value with
  | int seconds =>
      cases result with
      | int result =>
          simp only [requireSeconds, Seconds.toJson, Seconds.Valid,
            Json.int.injEq]
          split_ifs with negative
          · simp only [false_iff]
            rintro ⟨rfl, nonneg⟩
            omega
          · simp only [Except.ok.injEq, Seconds.int.injEq]
            constructor
            · rintro rfl
              exact ⟨rfl, by omega⟩
            · rintro ⟨same, _⟩
              exact same
      | float result =>
          simp only [requireSeconds, Seconds.toJson, reduceCtorEq,
            false_and, iff_false]
          split_ifs <;> simp
  | float seconds =>
      cases result with
      | int result =>
          simp only [requireSeconds, Seconds.toJson, reduceCtorEq,
            false_and, iff_false]
          split_ifs <;> simp
      | float result =>
          simp only [requireSeconds, Seconds.toJson, Seconds.Valid,
            Json.float.injEq]
          split_ifs with below
          · simp only [false_iff]
            rintro ⟨rfl, notBelow⟩
            rw [below] at notBelow
            cases notBelow
          · simp only [Except.ok.injEq, Seconds.float.injEq]
            constructor
            · rintro rfl
              exact ⟨rfl, by simpa using below⟩
            · rintro ⟨same, _⟩
              exact same
  | null | bool _ | str _ | arr _ | obj _ =>
      cases result <;> simp [requireSeconds, Seconds.toJson]

theorem validateAdapterId_eq_ok {value : Json} {result : Option Text} :
    validateAdapterId value = .ok result ↔
      value = optionalText result ∧ ∀ id, result = some id → id ≠ [] := by
  by_cases isNull : value = .null
  · subst isNull
    cases result <;> simp [validateAdapterId, optionalText]
  · have body : validateAdapterId value =
        (requireNonEmptyStr value "adapter_id").map some := by
      cases value with
      | null => exact absurd rfl isNull
      | bool _ | int _ | float _ | str _ | arr _ | obj _ => rfl
    rw [body]
    constructor
    · intro mapped
      cases checked : requireNonEmptyStr value "adapter_id" with
      | error error =>
          rw [checked] at mapped
          cases mapped
      | ok id =>
          rw [checked] at mapped
          cases mapped
          obtain ⟨rfl, nonEmpty⟩ := requireNonEmptyStr_eq_ok.mp checked
          refine ⟨rfl, ?_⟩
          rintro _ ⟨⟩
          exact nonEmpty
    · rintro ⟨rfl, nonEmpty⟩
      cases result with
      | none => exact absurd rfl isNull
      | some id =>
          have checked : requireNonEmptyStr (.str id) "adapter_id" =
              .ok id :=
            requireNonEmptyStr_eq_ok.mpr ⟨rfl, nonEmpty id rfl⟩
          rw [optionalText, checked]
          rfl

/-- What a counting loop returned, item by item. -/
theorem mem_of_enumerateM
    {α β : Type} {body : Nat → α → Except PyError β} {start : Nat}
    {items : List α} {results : List β}
    (returned : enumerateM body start items = .ok results) :
    ∀ result ∈ results, ∃ index, ∃ item ∈ items,
      body index item = .ok result := by
  induction items generalizing start results with
  | nil =>
      cases returned
      simp
  | cons item items induction =>
      simp only [enumerateM, bind_eq_ok_iff, pure_eq_ok_iff] at returned
      obtain ⟨first, isFirst, others, isOthers, rfl⟩ := returned
      intro result isResult
      rcases List.mem_cons.mp isResult with rfl | inOthers
      · exact ⟨start, item, List.mem_cons_self, isFirst⟩
      · obtain ⟨index, other, isItem, ran⟩ :=
          induction isOthers result inOthers
        exact ⟨index, other, List.mem_cons_of_mem _ isItem, ran⟩

/-- A counting loop over an image. -/
theorem enumerateM_map
    {α β γ : Type} {body : Nat → α → Except PyError β} {items : List γ}
    {image : γ → α} {result : γ → β}
    (each : ∀ item ∈ items, ∀ index,
      body index (image item) = .ok (result item)) (start : Nat) :
    enumerateM body start (items.map image) = .ok (items.map result) := by
  induction items generalizing start with
  | nil => rfl
  | cons item items induction =>
      have rest := induction (fun other isItem =>
        each other (List.mem_cons_of_mem _ isItem)) (start + 1)
      simp only [List.map_cons, enumerateM, bind_eq_ok_iff,
        pure_eq_ok_iff]
      exact ⟨result item, each item List.mem_cons_self start, _, rest, rfl⟩

/-- Every entry that the loader returns is valid. -/
theorem valid_of_buildEntryFromRaw
    {raw : Json} {entry : CapabilityRegistryEntry}
    (built : buildEntryFromRaw raw = .ok entry) : entry.Valid := by
  cases raw with
  | obj members =>
      simp only [buildEntryFromRaw, buildEntry, validateProfile,
        validateProvenance, bind_eq_ok_iff, pure_eq_ok_iff] at built
      obtain ⟨_, _, _, _, _, _, measured, _, _, _, capabilityId, hasId,
        profile, ⟨_, _, hasProfile⟩, adapterId, hasAdapter, digest,
        hasDigest, platforms, hasPlatforms, resources, hasResources,
        license, hasLicense, provenance, ⟨_, hasSha, rfl⟩, stage,
        hasStage, rfl⟩ := built
      refine
        { capabilityId := (requireNonEmptyStr_eq_ok.mp hasId).2
          profile := (requireMember_eq_ok.mp hasProfile).2
          adapterId := (validateAdapterId_eq_ok.mp hasAdapter).2
          packManifestDigest :=
            (validateOptionalDigest_eq_ok.mp hasDigest).2
          platforms := ?_
          measuredResources := ?_
          licenseSpdx := (requireNonEmptyStr_eq_ok.mp hasLicense).2
          provenance := (validateOptionalDigest_eq_ok.mp hasSha).2
          admissionStage := (requireMember_eq_ok.mp hasStage).2 }
      · intro platform isPlatform
        obtain ⟨index, raw, _, validated⟩ :=
          mem_of_enumerateM hasPlatforms platform isPlatform
        simp only [validatePlatform, bind_eq_ok_iff, pure_eq_ok_iff]
          at validated
        obtain ⟨_, hasOs, _, hasArch, rfl⟩ := validated
        exact ⟨(requireMember_eq_ok.mp hasOs).2,
          (requireMember_eq_ok.mp hasArch).2⟩
      · rintro resource rfl
        cases measured with
        | none => cases hasResources
        | some raw =>
            simp only [validateMeasuredResources, bind_eq_ok_iff,
              pure_eq_ok_iff, Option.some.injEq] at hasResources
            obtain ⟨_, hasExpanded, _, hasRss, _, hasSeconds, rfl⟩ :=
              hasResources
            exact ⟨(requireCount_eq_ok.mp hasExpanded).2,
              (requireCount_eq_ok.mp hasRss).2,
              (requireSeconds_eq_ok.mp hasSeconds).2⟩
  | null | bool _ | int _ | float _ | str _ | arr _ => cases built

/-! ## Reading an entry back -/

/-- A field of a dict that is read back. -/
theorem getOrNone_stored
    {members : Fields} (distinct : (members.map Prod.fst).Nodup)
    {key : Text} {value result : Json}
    (found : Json.lookup key members = some value)
    (isResult : value.sorted = result) :
    getOrNone key (stored members) = result := by
  rw [getOrNone, lookup_stored distinct, found, ← isResult]
  rfl

theorem missingKeys_stored
    {members : Fields} (distinct : (members.map Prod.fst).Nodup)
    (required : List Text) :
    missingKeys required (stored members) =
      missingKeys required members := by
  unfold missingKeys
  congr 1
  funext key
  rw [lookup_stored distinct, Option.isNone_map]

theorem requireKeys_stored
    {members : Fields} (distinct : (members.map Prod.fst).Nodup)
    {required : List Text}
    (present : missingKeys required members = []) (subject : Text) :
    requireKeys required (stored members) subject = .ok ⟨⟩ := by
  rw [requireKeys, refuseIf_eq_ok_iff, missingKeys_stored distinct,
    not_not]
  exact present

theorem platformKeys_nodup (platform : PlatformSpec) :
    (platform.toDict.map Prod.fst).Nodup := by
  change [text "os", text "arch", text "abi"].Nodup
  decide

theorem buildPlatform_sorted (platform : PlatformSpec) (index : Nat) :
    buildPlatform index (Json.sorted (.obj platform.toDict)) =
      .ok ⟨.str platform.os, .str platform.arch, platform.abi⟩ := by
  have distinct := platformKeys_nodup platform
  have noExtra : ((stored platform.toDict).map Prod.fst).filter
      (fun key => key ∉ [text "os", text "arch", text "abi"]) = [] := by
    rw [List.filter_eq_nil_iff]
    intro key isKey
    have isOwn : key ∈ [text "os", text "arch", text "abi"] :=
      (keys_stored platform.toDict).mem_iff.mp isKey
    simp only [decide_eq_true_eq, not_not]
    exact isOwn
  have os : getOrNone (text "os") (stored platform.toDict) =
      .str platform.os :=
    getOrNone_stored distinct rfl rfl
  have arch : getOrNone (text "arch") (stored platform.toDict) =
      .str platform.arch :=
    getOrNone_stored distinct rfl rfl
  have abi : getOrNone (text "abi") (stored platform.toDict) =
      optionalText platform.abi :=
    getOrNone_stored distinct rfl (optionalText_sorted _)
  rw [sorted_obj]
  simp only [buildPlatform, bind_eq_ok_iff, refuseIf_eq_ok_iff,
    pure_eq_ok_iff, noExtra, os, arch, abi,
    requireOptionalStr_optionalText]
  exact ⟨⟨⟩, requireKeys_stored distinct rfl _, ⟨⟩, not_not.mpr rfl, _,
    rfl, rfl⟩

theorem secondsToJson_sorted (seconds : Seconds) :
    seconds.toJson.sorted = seconds.toJson := by
  cases seconds <;> rfl

theorem measuredKeys_nodup (measured : MeasuredResources) :
    (measured.toDict.map Prod.fst).Nodup := by
  change [text "expanded_bytes", text "rss_bytes",
    text "wall_seconds"].Nodup
  decide

/-- The raw form of measured resources. -/
def MeasuredResources.raw (measured : MeasuredResources) : RawMeasured :=
  ⟨.int measured.expandedBytes, .int measured.rssBytes,
    measured.wallSeconds.toJson⟩

theorem buildMeasuredResources_sorted
    (measured : Option MeasuredResources) :
    buildMeasuredResources (optionalMeasured measured).sorted =
      .ok (measured.map MeasuredResources.raw) := by
  cases measured with
  | none => rfl
  | some measured =>
      have distinct := measuredKeys_nodup measured
      have expanded : getOrNone (text "expanded_bytes")
          (stored measured.toDict) = .int measured.expandedBytes :=
        getOrNone_stored distinct rfl rfl
      have rss : getOrNone (text "rss_bytes")
          (stored measured.toDict) = .int measured.rssBytes :=
        getOrNone_stored distinct rfl rfl
      have seconds : getOrNone (text "wall_seconds")
          (stored measured.toDict) = measured.wallSeconds.toJson :=
        getOrNone_stored distinct rfl (secondsToJson_sorted _)
      rw [optionalMeasured, sorted_obj]
      simp only [buildMeasuredResources, bind_eq_ok_iff, pure_eq_ok_iff,
        expanded, rss, seconds]
      exact ⟨⟨⟩, requireKeys_stored distinct rfl _, rfl⟩

theorem provenanceKeys_nodup (provenance : Provenance) :
    (provenance.toDict.map Prod.fst).Nodup := by
  change [text "source_url", text "source_sha256"].Nodup
  decide

theorem buildProvenance_sorted (provenance : Provenance) :
    buildProvenance (Json.sorted (.obj provenance.toDict)) =
      .ok ⟨provenance.sourceUrl,
        optionalText provenance.sourceSha256⟩ := by
  have distinct := provenanceKeys_nodup provenance
  have url : getOrNone (text "source_url") (stored provenance.toDict) =
      optionalText provenance.sourceUrl :=
    getOrNone_stored distinct rfl (optionalText_sorted _)
  have sha : getOrNone (text "source_sha256")
      (stored provenance.toDict) =
        optionalText provenance.sourceSha256 :=
    getOrNone_stored distinct rfl (optionalText_sorted _)
  rw [sorted_obj]
  simp only [buildProvenance, bind_eq_ok_iff, pure_eq_ok_iff, url, sha,
    requireOptionalStr_optionalText]
  exact ⟨⟨⟩, requireKeys_stored distinct rfl _, _, rfl, rfl⟩

theorem toDict_keys (entry : CapabilityRegistryEntry) :
    entry.toDict.map Prod.fst =
      [text "capability_id", text "profile", text "adapter_id",
        text "pack_manifest_digest", text "platforms",
        text "measured_resources", text "license_spdx",
        text "provenance", text "admission_stage"] :=
  rfl

theorem toDict_keys_nodup (entry : CapabilityRegistryEntry) :
    (entry.toDict.map Prod.fst).Nodup := by
  rw [toDict_keys]
  decide

theorem validateMeasuredResources_raw
    {measured : Option MeasuredResources}
    (valid : ∀ resources, measured = some resources →
      0 ≤ resources.expandedBytes ∧ 0 ≤ resources.rssBytes ∧
        resources.wallSeconds.Valid) :
    validateMeasuredResources (measured.map MeasuredResources.raw) =
      .ok measured := by
  cases measured with
  | none => rfl
  | some resources =>
      obtain ⟨expanded, rss, seconds⟩ := valid resources rfl
      simp only [Option.map_some, validateMeasuredResources,
        bind_eq_ok_iff, pure_eq_ok_iff]
      exact ⟨_, requireCount_eq_ok.mpr ⟨rfl, expanded⟩, _,
        requireCount_eq_ok.mpr ⟨rfl, rss⟩, _,
        requireSeconds_eq_ok.mpr ⟨rfl, seconds⟩, rfl⟩

/-- A valid entry is read back from its dict. -/
theorem buildEntryFromRaw_toDict
    {entry : CapabilityRegistryEntry} (valid : entry.Valid) :
    buildEntryFromRaw (Json.sorted (.obj entry.toDict)) = .ok entry := by
  have distinct := toDict_keys_nodup entry
  have platforms : enumerateM buildPlatform 0
      (entry.platforms.map fun platform =>
        Json.sorted (.obj platform.toDict)) =
      .ok (entry.platforms.map fun platform =>
        ⟨.str platform.os, .str platform.arch, platform.abi⟩) :=
    enumerateM_map (fun platform _ index =>
      buildPlatform_sorted platform index) 0
  have validated : enumerateM validatePlatform 0
      (entry.platforms.map fun platform =>
        ⟨.str platform.os, .str platform.arch, platform.abi⟩) =
      .ok (entry.platforms.map id) := by
    refine enumerateM_map (fun platform isPlatform index => ?_) 0
    obtain ⟨os, arch⟩ := valid.platforms platform isPlatform
    simp only [validatePlatform, bind_eq_ok_iff, pure_eq_ok_iff]
    exact ⟨_, requireMember_eq_ok.mpr ⟨rfl, os⟩, _,
      requireMember_eq_ok.mpr ⟨rfl, arch⟩, rfl⟩
  rw [List.map_id] at validated
  have rawPlatforms : getOrNone (text "platforms") (stored entry.toDict) =
      .arr (entry.platforms.map fun platform =>
        Json.sorted (.obj platform.toDict)) := by
    refine getOrNone_stored distinct rfl ?_
    rw [Json.sorted, sortedItems_eq_map, List.map_map]
    rfl
  have profileNonEmpty : entry.profile ≠ [] := by
    intro empty
    have isName := valid.profile
    rw [empty] at isName
    exact absurd isName (by decide)
  rw [sorted_obj]
  simp only [buildEntryFromRaw, buildEntry, validateProfile,
    validateProvenance, bind_eq_ok_iff, pure_eq_ok_iff]
  refine ⟨⟨⟩, requireKeys_stored distinct rfl _, _,
    by rw [rawPlatforms]; rfl, _, platforms, _, ?_,
    ⟨entry.provenance.sourceUrl,
      optionalText entry.provenance.sourceSha256⟩, ?_,
    entry.capabilityId, ?_, entry.profile,
    ⟨entry.profile, ?_, requireMember_eq_ok.mpr ⟨rfl, valid.profile⟩⟩,
    entry.adapterId, ?_, entry.packManifestDigest, ?_, entry.platforms,
    validated, entry.measuredResources,
    validateMeasuredResources_raw valid.measuredResources,
    entry.licenseSpdx, ?_, entry.provenance,
    ⟨_, validateOptionalDigest_eq_ok.mpr ⟨rfl, valid.provenance⟩, rfl⟩,
    entry.admissionStage, ?_, rfl⟩
  · rw [getOrNone_stored distinct rfl rfl]
    exact buildMeasuredResources_sorted entry.measuredResources
  · rw [getOrNone_stored distinct rfl rfl]
    exact buildProvenance_sorted entry.provenance
  · rw [getOrNone_stored distinct rfl rfl]
    exact requireNonEmptyStr_eq_ok.mpr ⟨rfl, valid.capabilityId⟩
  · rw [getOrNone_stored distinct rfl rfl]
    exact requireNonEmptyStr_eq_ok.mpr ⟨rfl, profileNonEmpty⟩
  · rw [getOrNone_stored distinct rfl (optionalText_sorted _)]
    exact validateAdapterId_eq_ok.mpr ⟨rfl, valid.adapterId⟩
  · rw [getOrNone_stored distinct rfl (optionalText_sorted _)]
    exact validateOptionalDigest_eq_ok.mpr ⟨rfl, valid.packManifestDigest⟩
  · rw [getOrNone_stored distinct rfl rfl]
    exact requireNonEmptyStr_eq_ok.mpr ⟨rfl, valid.licenseSpdx⟩
  · rw [getOrNone_stored distinct rfl rfl]
    exact requireMember_eq_ok.mpr ⟨rfl, valid.admissionStage⟩

/-! ## The dict of an entry -/

theorem optionalText_distinct (value : Option Text) :
    (optionalText value).Distinct := by
  cases value <;> trivial

theorem platformDict_distinct (platform : PlatformSpec) :
    (Json.obj platform.toDict).Distinct :=
  ⟨⟨trivial, trivial, optionalText_distinct _, trivial⟩,
    platformKeys_nodup platform⟩

theorem optionalMeasured_distinct (measured : Option MeasuredResources) :
    (optionalMeasured measured).Distinct := by
  cases measured with
  | none => trivial
  | some measured =>
      have seconds : measured.wallSeconds.toJson.Distinct := by
        cases measured.wallSeconds <;> trivial
      exact ⟨⟨trivial, trivial, seconds, trivial⟩,
        measuredKeys_nodup measured⟩

/-- The dict of an entry has distinct keys at every level. -/
theorem toDict_distinct (entry : CapabilityRegistryEntry) :
    (Json.obj entry.toDict).Distinct := by
  have platforms : (Json.arr (entry.platforms.map fun platform =>
      .obj platform.toDict)).Distinct := by
    refine distinctItems_iff.mpr fun item isItem => ?_
    obtain ⟨platform, _, rfl⟩ := List.mem_map.mp isItem
    exact platformDict_distinct platform
  refine ⟨?_, toDict_keys_nodup entry⟩
  exact ⟨trivial, trivial, optionalText_distinct _,
    optionalText_distinct _, platforms, optionalMeasured_distinct _,
    trivial, ⟨⟨optionalText_distinct _, optionalText_distinct _, trivial⟩,
      provenanceKeys_nodup _⟩, trivial, trivial⟩

end ScientificResourceLab.Catalog
