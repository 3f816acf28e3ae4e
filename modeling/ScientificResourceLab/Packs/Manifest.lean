import ScientificResourceLab.Catalog.Registry
import ScientificResourceLab.Cas.Records
import ScientificResourceLab.Packs.Receipts

/-!
# Pack manifests

`build_manifest` of `srl.packs.manifest`: the validators of the nested records
and of the sixteen fields of a manifest, in the order in which the source
makes the checks, with the dict that a manifest is encoded from.  A platform
has the fields of the catalog's.

A value that stands in a message is printed by `repr`, which refuses an
integer beyond the digit limit, and a value that is looked up in a frozen set
is hashed first, which refuses a list and a dict.  Both exceptions are outside
the family that the builder documents, so both are part of the model.
-/

namespace ScientificResourceLab.Packs

open Python Contracts Steps
open Catalog (PlatformSpec)

/-- The members of a dict. -/
abbrev Fields := List (Text × Json)

/-! ## Printing and hashing -/

mutual

/-- No integer beyond the digit limit. -/
def printable : Json → Bool
  | .int value =>
      (decimalText value.natAbs).length ≤ intMaxStrDigits
  | .arr items => printableItems items
  | .obj members => printableMembers members
  | _ => true

def printableItems : List Json → Bool
  | [] => true
  | item :: rest => printable item && printableItems rest

def printableMembers : Fields → Bool
  | [] => true
  | (_, value) :: rest => printable value && printableMembers rest

end

/-- `repr` of a value, which an over-long integer stops. -/
def shown (value : Json) : Except Failure Text :=
  if printable value then .ok (reprJson value)
  else .error ⟨raised .valueError
    "Exceeds the limit (4300 digits) for integer string conversion", none⟩

/-- A value that can be hashed. -/
def hashable : Json → Bool
  | .arr _ => false
  | .obj _ => false
  | _ => true

/-- `value in names`, for a frozen set of strings. -/
def inFrozenSet (names : List Text) (value : Json) : Except Failure Bool :=
  if hashable value then
    match value with
    | .str name => .ok (name ∈ names)
    | _ => .ok false
  else
    .error ⟨⟨.typeError,
      text "unhashable type: '" ++ typeName value ++ text "'"⟩, none⟩

/-! ## Records -/

/-- `SourceSpec`. -/
structure SourceSpec where
  url : Option Text
  commit : Option Text
  sourceSha256 : Text
  deriving DecidableEq

/-- `LicenseSpec`. -/
structure LicenseSpec where
  spdx : Text
  textsSha256 : List Text
  deriving DecidableEq

/-- `EntrypointSpec`. -/
structure EntrypointSpec where
  entrypointId : Text
  kind : Text
  ref : Text
  deriving DecidableEq

/-- `ProbesSpec`. -/
structure ProbesSpec where
  runtimeProbe : Text
  actualComputeProbe : Text
  deriving DecidableEq

/-- `ResourcePackManifest`. -/
structure ResourcePackManifest where
  schemaVersion : Text
  packId : Text
  name : Text
  version : Text
  capabilityProfiles : List Text
  platforms : List PlatformSpec
  source : SourceSpec
  lockSha256 : Text
  treeSha256 : Text
  license : LicenseSpec
  sbomSha256 : Option Text
  entrypoints : List EntrypointSpec
  probes : ProbesSpec
  createdUtc : Text
  canonicalWrites : Int
  grantsAuthority : Bool
  deriving DecidableEq

/-- `asdict` on a source. -/
def SourceSpec.toDict (source : SourceSpec) : Fields :=
  [(text "url", optionalText source.url),
    (text "commit", optionalText source.commit),
    (text "source_sha256", .str source.sourceSha256)]

/-- `asdict` on a licence. -/
def LicenseSpec.toDict (license : LicenseSpec) : Fields :=
  [(text "spdx", .str license.spdx),
    (text "texts_sha256", .arr (license.textsSha256.map .str))]

/-- `asdict` on an entrypoint. -/
def EntrypointSpec.toDict (entrypoint : EntrypointSpec) : Fields :=
  [(text "entrypoint_id", .str entrypoint.entrypointId),
    (text "kind", .str entrypoint.kind), (text "ref", .str entrypoint.ref)]

/-- `asdict` on the probes. -/
def ProbesSpec.toDict (probes : ProbesSpec) : Fields :=
  [(text "runtime_probe", .str probes.runtimeProbe),
    (text "actual_compute_probe", .str probes.actualComputeProbe)]

/-- `ResourcePackManifest.to_dict`. -/
def ResourcePackManifest.toDict (manifest : ResourcePackManifest) :
    Fields :=
  [(text "schema_version", .str manifest.schemaVersion),
    (text "pack_id", .str manifest.packId),
    (text "name", .str manifest.name),
    (text "version", .str manifest.version),
    (text "capability_profiles",
      .arr (manifest.capabilityProfiles.map .str)),
    (text "platforms", .arr (manifest.platforms.map fun platform =>
      .obj platform.toDict)),
    (text "source", .obj manifest.source.toDict),
    (text "lock_sha256", .str manifest.lockSha256),
    (text "tree_sha256", .str manifest.treeSha256),
    (text "license", .obj manifest.license.toDict),
    (text "sbom_sha256", optionalText manifest.sbomSha256),
    (text "entrypoints", .arr (manifest.entrypoints.map fun entrypoint =>
      .obj entrypoint.toDict)),
    (text "probes", .obj manifest.probes.toDict),
    (text "created_utc", .str manifest.createdUtc),
    (text "canonical_writes", .int manifest.canonicalWrites),
    (text "grants_authority", .bool manifest.grantsAuthority)]

/-- `ResourcePackManifest.canonical_dumps`. -/
def ResourcePackManifest.canonicalDumps (manifest : ResourcePackManifest) :
    Except PyError Bytes :=
  dumps (.obj manifest.toDict)

/-! ## Tables -/

/-- `PACK_MANIFEST_SCHEMA_VERSION`. -/
def packManifestSchemaVersion : Text :=
  text "ResourcePackManifest/v1"

/-- `LICENSE_ALLOWLIST`. -/
def licenseAllowlist : List Text :=
  [text "MIT", text "BSD-2-Clause", text "BSD-3-Clause",
    text "Apache-2.0", text "ISC", text "PSF-2.0", text "Python-2.0",
    text "MPL-2.0", text "CC0-1.0"]

/-- `LICENSE_INCOMPATIBLE_PREFIXES`. -/
def licenseIncompatiblePrefixes : List Text :=
  [text "GPL-", text "LGPL-", text "AGPL-", text "SSPL-", text "BUSL-"]

/-- `OS_NAMES`, in the order of `sorted`. -/
def osNames : List Text :=
  [text "linux", text "macos"]

/-- `ARCH_NAMES`, in the order of `sorted`. -/
def archNames : List Text :=
  [text "arm64", text "x86_64"]

/-- `ENTRYPOINT_KINDS`, in the order of `sorted`. -/
def entrypointKinds : List Text :=
  [text "binary", text "python_module"]

def manifestKeys : List Text :=
  [text "schema_version", text "pack_id", text "name", text "version",
    text "capability_profiles", text "platforms", text "source",
    text "lock_sha256", text "tree_sha256", text "license",
    text "sbom_sha256", text "entrypoints", text "probes",
    text "created_utc", text "canonical_writes", text "grants_authority"]

/-! ## Field validators -/

/-- A `PackManifestError`. -/
def manifestFailure (message : Text) : Failure :=
  ⟨⟨.packManifestError, message⟩, some .contractInvalid⟩

/-- A `LicenseError`. -/
def licenseFailure (reason : FailReason) (message : Text) : Failure :=
  ⟨⟨.licenseError, message⟩, some reason⟩

/-- `_validate_sha256`. -/
def validateSha256 (value : Json) (field : Text) : Except Failure Text :=
  match value with
  | .str _ =>
      match Cas.validateHashField .artifactRefError field value with
      | .ok digest => .ok digest
      | .error error =>
          .error (manifestFailure (text "field " ++ quoted field ++
            text " is not a valid sha256 digest: " ++ error.message))
  | other =>
      .error (manifestFailure (text "field " ++ quoted field ++
        text " must be a string, got " ++ typeName other))

/-- `_validate_non_empty_string`. -/
def validateNonEmptyString (value : Json) (field : Text) :
    Except Failure Text :=
  match value with
  | .str (point :: rest) => .ok (point :: rest)
  | other => do
      let shownValue ← shown other
      .error (manifestFailure (text "field " ++ quoted field ++
        text " must be a non-empty string, got " ++ shownValue))

/-- `_validate_optional_string`. -/
def validateOptionalString (value : Json) (field : Text) :
    Except Failure (Option Text) :=
  match value with
  | .null => .ok none
  | .str value => .ok (some value)
  | other =>
      .error (manifestFailure (text "optional field " ++ quoted field ++
        text " must be a string or null, got " ++ typeName other))

/-- The check that a value is one of a frozen set of names. -/
def validateName (names : List Text) (label : String) (value : Json) :
    Except Failure Text := do
  let isName ← inFrozenSet names value
  match isName, value with
  | true, .str name => pure name
  | _, _ =>
      let shownValue ← shown value
      .error (manifestFailure (text label ++ text " " ++ shownValue ++
        text " must be one of " ++ quotedList names))

/-- The sorted difference of two sets of keys. -/
def keysBeyond (keys others : List Text) : List Text :=
  (keys.filter (· ∉ others)).insertionSort (· ≤ ·)

/-- The check of the keys of a dict. -/
def requireExactKeys (subject : String) (required allowed : List Text)
    (members : Fields) : Except Failure Unit := do
  let actual := members.map Prod.fst
  refuseIf (keysBeyond required actual ≠ [])
    (manifestFailure (text subject ++
      text " missing required key(s): " ++
      quotedList (keysBeyond required actual)))
  refuseIf (keysBeyond actual allowed ≠ [])
    (manifestFailure (text subject ++ text " has unexpected key(s): " ++
      quotedList (keysBeyond actual allowed)))

def requireDict (subject : Text) : Json → Except Failure Fields
  | .obj members => .ok members
  | other =>
      .error (manifestFailure (subject ++
        text " must be an object, got " ++ typeName other))

def indexedField (field : String) (index : Nat) : Text :=
  text field ++ text "[" ++ decimalText index ++ text "]"

/-- `_validate_platform`. -/
def validatePlatform (value : Json) (field : Text) :
    Except Failure PlatformSpec := do
  let members ← requireDict (text "field " ++ quoted field) value
  requireExactKeys "platform spec" [text "os", text "arch"]
    [text "os", text "arch", text "abi"] members
  let os ← validateName osNames "platform.os"
    (getOrNone (text "os") members)
  let arch ← validateName archNames "platform.arch"
    (getOrNone (text "arch") members)
  let abi ← validateOptionalString (getOrNone (text "abi") members)
    (text "platform.abi")
  pure ⟨os, arch, abi⟩

/-- `_validate_source`. -/
def validateSource (value : Json) : Except Failure SourceSpec := do
  let members ← requireDict (text "source") value
  let required := [text "url", text "commit", text "source_sha256"]
  requireExactKeys "source block" required required members
  let url ← validateOptionalString (getOrNone (text "url") members)
    (text "source.url")
  let commit ← validateOptionalString (getOrNone (text "commit") members)
    (text "source.commit")
  let sourceSha256 ← validateSha256
    (getOrNone (text "source_sha256") members)
    (text "source.source_sha256")
  pure ⟨url, commit, sourceSha256⟩

/-- `any(spdx.startswith(prefix) for prefix in ...)`. -/
def hasIncompatibleStart (spdx : Text) : Bool :=
  licenseIncompatiblePrefixes.any fun start => start.isPrefixOf spdx

/-- The licence policy. -/
def checkSpdx (spdx : Text) : Except Failure Unit :=
  if spdx ∈ licenseAllowlist then .ok ()
  else if hasIncompatibleStart spdx then
    .error (licenseFailure .licenseIncompatible (text "license " ++
      quoted spdx ++ text " is incompatible with the SRL pack policy"))
  else
    .error (licenseFailure .licenseUnknown (text "license " ++
      quoted spdx ++ text " is not in the SRL pack allowlist"))

def requireArray (field : String) : Json → Except Failure (List Json)
  | .arr items => .ok items
  | other =>
      .error (manifestFailure (text field ++
        text " must be an array, got " ++ typeName other))

/-- `_validate_license`. -/
def validateLicense (value : Json) : Except Failure LicenseSpec := do
  let members ← requireDict (text "license") value
  let required := [text "spdx", text "texts_sha256"]
  requireExactKeys "license block" required required members
  let spdx ← validateNonEmptyString (getOrNone (text "spdx") members)
    (text "license.spdx")
  checkSpdx spdx
  let texts ← requireArray "license.texts_sha256"
    (getOrNone (text "texts_sha256") members)
  let validated ← texts.zipIdx.mapM fun entry =>
    validateSha256 entry.1 (indexedField "license.texts_sha256" entry.2)
  pure ⟨spdx, validated⟩

/-- `_validate_entrypoint`. -/
def validateEntrypoint (value : Json) (field : Text) :
    Except Failure EntrypointSpec := do
  let members ← requireDict (text "field " ++ quoted field) value
  let required := [text "entrypoint_id", text "kind", text "ref"]
  requireExactKeys "entrypoint spec" required required members
  let entrypointId ← validateNonEmptyString
    (getOrNone (text "entrypoint_id") members)
    (text "entrypoint.entrypoint_id")
  let kind ← validateName entrypointKinds "entrypoint.kind"
    (getOrNone (text "kind") members)
  let ref ← validateNonEmptyString (getOrNone (text "ref") members)
    (text "entrypoint.ref")
  pure ⟨entrypointId, kind, ref⟩

/-- `_validate_probes`. -/
def validateProbes (value : Json) : Except Failure ProbesSpec := do
  let members ← requireDict (text "probes") value
  let required := [text "runtime_probe", text "actual_compute_probe"]
  requireExactKeys "probes block" required required members
  let runtimeProbe ← validateNonEmptyString
    (getOrNone (text "runtime_probe") members)
    (text "probes.runtime_probe")
  let actualComputeProbe ← validateNonEmptyString
    (getOrNone (text "actual_compute_probe") members)
    (text "probes.actual_compute_probe")
  pure ⟨runtimeProbe, actualComputeProbe⟩

/-! ## The builder -/

/-- The check of the schema version. -/
def validateSchemaVersion (value : Json) : Except Failure Unit := do
  let schemaVersion ← validateNonEmptyString value (text "schema_version")
  refuseIf (schemaVersion ≠ packManifestSchemaVersion)
    (manifestFailure (text "schema_version is " ++ quoted schemaVersion ++
      text ", expected " ++ quoted packManifestSchemaVersion))

/-- `_validate_top_structure`. -/
def validateTopStructure (value : Json) : Except Failure Fields :=
  match value with
  | .obj members => do
      requireExactKeys "manifest" manifestKeys manifestKeys members
      validateSchemaVersion (getOrNone (text "schema_version") members)
      pure members
  | other =>
      .error (manifestFailure
        (text "manifest must be a JSON object, got " ++ typeName other))

/-- One item of `_validate_profiles_field`. -/
def validateProfile (item : Json) (index : Nat) : Except Failure Text :=
  let field := indexedField "capability_profiles" index
  match item with
  | .str (point :: rest) => do
      refuseIf (point :: rest ∉ Catalog.profileNames)
        (manifestFailure (field ++ text "=" ++ quoted (point :: rest) ++
          text " is not a known profile; must be one of " ++
          quotedList Catalog.profileNames))
      pure (point :: rest)
  | other => do
      let shownValue ← shown other
      .error (manifestFailure (field ++
        text " must be a non-empty string, got " ++ shownValue))

/-- `_validate_profiles_field`. -/
def validateProfilesField (members : Fields) :
    Except Failure (List Text) := do
  let profiles ← requireArray "capability_profiles"
    (getOrNone (text "capability_profiles") members)
  profiles.zipIdx.mapM fun entry => validateProfile entry.1 entry.2

/-- `_validate_platforms_field`. -/
def validatePlatformsField (members : Fields) :
    Except Failure (List PlatformSpec) :=
  match getOrNone (text "platforms") members with
  | .arr (first :: rest) =>
      (first :: rest).zipIdx.mapM fun entry =>
        validatePlatform entry.1 (indexedField "platforms" entry.2)
  | _ =>
      .error (manifestFailure
        (text "platforms must be a non-empty array"))

/-- The check that a probe is one of the declared entrypoints. -/
def requireDeclared (field : String) (probe : Text)
    (entrypoints : List EntrypointSpec) : Except Failure Unit :=
  refuseIf (probe ∉ entrypoints.map EntrypointSpec.entrypointId)
    (manifestFailure (text field ++ text " " ++ quoted probe ++
      text " is not a declared entrypoint"))

/-- `_validate_entrypoints_and_probes`. -/
def validateEntrypointsAndProbes (members : Fields) :
    Except Failure (List EntrypointSpec × ProbesSpec) := do
  let raw ← requireArray "entrypoints"
    (getOrNone (text "entrypoints") members)
  let entrypoints ← raw.zipIdx.mapM fun entry =>
    validateEntrypoint entry.1 (indexedField "entrypoints" entry.2)
  let probes ← validateProbes (getOrNone (text "probes") members)
  requireDeclared "probes.runtime_probe" probes.runtimeProbe entrypoints
  requireDeclared "probes.actual_compute_probe" probes.actualComputeProbe
    entrypoints
  pure (entrypoints, probes)

/-- The check of `canonical_writes`. -/
def validateCanonicalWrites (value : Json) : Except Failure Int :=
  match value with
  | .int 0 => .ok 0
  | .int writes => do
      let shownValue ← shown (.int writes)
      .error (manifestFailure
        (text "canonical_writes must be 0, got " ++ shownValue))
  | other =>
      .error (manifestFailure
        (text "canonical_writes must be an integer, got " ++
          typeName other))

/-- The check of `grants_authority`. -/
def validateGrantsAuthority (value : Json) : Except Failure Bool :=
  match value with
  | .bool false => .ok false
  | .bool true =>
      .error (manifestFailure
        (text "grants_authority must be false, got True"))
  | other =>
      .error (manifestFailure
        (text "grants_authority must be a boolean, got " ++
          typeName other))

/-- `_validate_manifest_tail`. -/
def validateManifestTail (members : Fields) :
    Except Failure (Text × Int × Bool) := do
  let createdUtc ← validateNonEmptyString
    (getOrNone (text "created_utc") members) (text "created_utc")
  let canonicalWrites ← validateCanonicalWrites
    (getOrNone (text "canonical_writes") members)
  let grantsAuthority ← validateGrantsAuthority
    (getOrNone (text "grants_authority") members)
  pure (createdUtc, canonicalWrites, grantsAuthority)

/-- The check of `sbom_sha256`. -/
def validateSbom (value : Json) : Except Failure (Option Text) :=
  match value with
  | .null => .ok none
  | other => do
      let digest ← validateSha256 other (text "sbom_sha256")
      pure (some digest)

/-- `build_manifest`. -/
def buildManifest (value : Json) :
    Except Failure ResourcePackManifest := do
  let members ← validateTopStructure value
  let packId ← validateNonEmptyString
    (getOrNone (text "pack_id") members) (text "pack_id")
  let name ← validateNonEmptyString
    (getOrNone (text "name") members) (text "name")
  let version ← validateNonEmptyString
    (getOrNone (text "version") members) (text "version")
  let capabilityProfiles ← validateProfilesField members
  let platforms ← validatePlatformsField members
  let source ← validateSource (getOrNone (text "source") members)
  let lockSha256 ← validateSha256
    (getOrNone (text "lock_sha256") members) (text "lock_sha256")
  let treeSha256 ← validateSha256
    (getOrNone (text "tree_sha256") members) (text "tree_sha256")
  let license ← validateLicense (getOrNone (text "license") members)
  let sbomSha256 ← validateSbom (getOrNone (text "sbom_sha256") members)
  let (entrypoints, probes) ← validateEntrypointsAndProbes members
  let (createdUtc, canonicalWrites, grantsAuthority) ←
    validateManifestTail members
  pure
    { schemaVersion := packManifestSchemaVersion
      packId := packId
      name := name
      version := version
      capabilityProfiles := capabilityProfiles
      platforms := platforms
      source := source
      lockSha256 := lockSha256
      treeSha256 := treeSha256
      license := license
      sbomSha256 := sbomSha256
      entrypoints := entrypoints
      probes := probes
      createdUtc := createdUtc
      canonicalWrites := canonicalWrites
      grantsAuthority := grantsAuthority }

end ScientificResourceLab.Packs
