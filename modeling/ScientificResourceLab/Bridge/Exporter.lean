import ScientificResourceLab.Bridge.Sanitizer
import ScientificResourceLab.Contracts.Canonical
import ScientificResourceLab.Contracts.Timestamps

/-!
# The packet exporter

`srl.bridge.exporter`: a policy and source objects, the seed of a packet, the
replacement of private digests, and `build_packet`.

What a packet shows of its sources apart from digests is a function of their
types and summaries.  The digests enter the objects and the packet only
through `replacementDigest`, and through the identifier of the packet.

The validation against the packaged schema is a parameter.
-/

namespace ScientificResourceLab.Bridge

open Python Steps Contracts

/-- The members of a dict. -/
abbrev Fields := List (Text × Json)

/-! ## Policy and objects -/

/-- `_PRIVATE_IDENTITIES_ALLOWED`. -/
inductive PrivateIdentities where
  | digestReplaced
  | omitted
  deriving DecidableEq

/-- The name of a policy for private identities. -/
def PrivateIdentities.name : PrivateIdentities → Text
  | .digestReplaced => text "digest_replaced"
  | .omitted => text "omitted"

/-- `_SUMMARY_MAX_CHARS`. -/
def summaryMaxChars : Nat := 2000

/-- `DisclosurePolicy`, as its constructor accepts it. -/
structure DisclosurePolicy where
  privateIdentities : PrivateIdentities
  summaryMaxBytes : Nat
  inRange : 1 ≤ summaryMaxBytes ∧ summaryMaxBytes ≤ summaryMaxChars

/-- `DisclosurePolicy.to_dict`. -/
def DisclosurePolicy.toDict (policy : DisclosurePolicy) : Fields :=
  [(text "private_identities", .str policy.privateIdentities.name),
    (text "summary_max_bytes", .int policy.summaryMaxBytes)]

/-- `_EXPORT_OBJECT_TYPES`, in the order of `sorted`. -/
def exportObjectTypes : List Text :=
  [text "adapter_profile", text "claim", text "condition_set",
    text "constant_ref", text "engine_receipt",
    text "evidence_assessment", text "math_ir", text "model_interface",
    text "pilot_spec", text "plan", text "request", text "run_receipt",
    text "symbol_table", text "transformation_receipt",
    text "validation_receipt"]

/-- `ExportObject`, as its constructor accepts it. -/
structure ExportObject where
  objectDigest : Text
  objectType : Text
  sanitizedSummary : Json
  provenanceRefs : List Text
  digestValid : isObjectId objectDigest = true
  typeKnown : objectType ∈ exportObjectTypes
  refsValid : ∀ ref ∈ provenanceRefs, isObjectId ref = true
  refsUnique : provenanceRefs.Nodup

/-- `_require_digest`. -/
def requireDigest (field : String) (value : Text) : Except PyError Text :=
  match validateObjectId value with
  | .ok digest => .ok digest
  | .error error => .error (contractError
      (text field ++ text " must be a 'sha256:<64 hex>' digest: " ++
        error.message))

/-! ## Packets -/

/-- `value.removeprefix("sha256:")`. -/
def removeDigestPrefix (value : Text) : Text :=
  if objectIdPrefix.isPrefixOf value then value.drop objectIdPrefix.length
  else value

/-- `replacement_digest`. -/
def replacementDigest (seed privateDigest : Text) : Except PyError Text :=
  match utf8Encode
    (removeDigestPrefix seed ++ removeDigestPrefix privateDigest) with
  | some mixed => .ok (objectIdPrefix ++ sha256 mixed)
  | none => .error (raised .unicodeEncodeError "surrogates not allowed")

section

variable (isWord : CodePoint → Bool)

/-- An object of `_seed_objects`. -/
def seedObject (policy : DisclosurePolicy) (obj : ExportObject) :
    Except PyError Json := do
  let summary ← normalizeSummary isWord policy.summaryMaxBytes
    obj.sanitizedSummary
  pure (.obj [(text "object_type", .str obj.objectType),
    (text "sanitized_summary", .str summary)])

/-- `packet_seed`. -/
def packetSeed (objects : List ExportObject) (policy : DisclosurePolicy) :
    Except PyError Text := do
  let seedObjs ← objects.mapM (seedObject isWord policy)
  objectId (.obj [(text "objects", .arr seedObjs),
    (text "policy", .obj policy.toDict)])

/-- The references of an object under a policy. -/
def wireRefs (policy : DisclosurePolicy) (seed : Text)
    (provenanceRefs : List Text) : Except PyError (List Text) :=
  match policy.privateIdentities with
  | .digestReplaced => provenanceRefs.mapM (replacementDigest seed)
  | .omitted => .ok []

/-- The wire form of an object. -/
def wireObject (policy : DisclosurePolicy) (seed : Text)
    (obj : ExportObject) : Except PyError Json := do
  let summary ← normalizeSummary isWord policy.summaryMaxBytes
    obj.sanitizedSummary
  let objDigest ← replacementDigest seed obj.objectDigest
  let provRefs ← wireRefs policy seed obj.provenanceRefs
  refuseIf (¬ provRefs.Nodup) (contractError
    (text "provenance_refs must be unique after digest replacement"))
  pure (.obj [(text "object_digest", .str objDigest),
    (text "object_type", .str obj.objectType),
    (text "sanitized_summary", .str summary),
    (text "provenance_refs", .arr (provRefs.map .str))])

/-- The reference to the source snapshot, or `None`. -/
def snapshotJson : Option Text → Json
  | some digest => .str digest
  | none => .null

/-- The packet without its identifier. -/
def packetBody (createdUtc : Text) (sourceSnapshotDigest : Option Text)
    (policy : DisclosurePolicy) (objectsWire : List Json) : Fields :=
  [(text "schema_version", .str (text "LabExportPacket/v1")),
    (text "created_utc", .str createdUtc),
    (text "source_snapshot_digest", snapshotJson sourceSnapshotDigest),
    (text "objects", .arr objectsWire),
    (text "disclosure_policy", .obj policy.toDict),
    (text "review_only", .bool true),
    (text "canonical_effect", .str (text "none")),
    (text "grants_authority", .bool false),
    (text "canonical_writes", .int 0)]

/-- `PACKET_MAX_BYTES`. -/
def packetMaxBytes : Nat := 1024 * 1024

/-- The checks of a packet, from its identifier on. -/
def sealPacket (schemaValidate : Fields → Except PyError PUnit)
    (body : Fields) : Except PyError Fields := do
  let packetId ← objectId (.obj body)
  let packet := body ++ [(text "packet_id", Json.str packetId)]
  scanPayload isWord (.str []) (.ofJson (.obj packet))
  schemaValidate packet
  let encoded ← dumps (.obj packet)
  refuseIf (packetMaxBytes < encoded.length) ⟨.oversizePacketError,
    text "canonical encoded packet is " ++ decimalText encoded.length ++
      text " bytes, exceeds the 1048576 byte (1 MiB) cap; the exporter " ++
      text "refuses and performs no truncation — reduce the object set " ++
      text "or shorten summaries"⟩
  pure packet

/-- The seed of a packet without objects. -/
def emptySeed : Text :=
  objectIdPrefix ++ List.replicate 64 (codePoint '0')

/-- The seed that `build_packet` uses. -/
def seedOf (objects : List ExportObject) (policy : DisclosurePolicy) :
    Except PyError Text :=
  if objects = [] then .ok emptySeed else packetSeed isWord objects policy

/-- What `build_packet` takes beside the objects. -/
structure PacketArguments where
  policy : DisclosurePolicy
  createdUtc : Text
  sourceSnapshotDigest : Option Text

/-- `build_packet`. -/
def buildPacket (schemaValidate : Fields → Except PyError PUnit)
    (arguments : PacketArguments) (objects : List ExportObject) :
    Except PyError Fields := do
  let normalizedUtc ← normalizeTimestamp arguments.createdUtc
  let _ ← arguments.sourceSnapshotDigest.toList.mapM
    (requireDigest "source_snapshot_digest")
  let seed ← seedOf isWord objects arguments.policy
  let objectsWire ← objects.mapM (wireObject isWord arguments.policy seed)
  sealPacket isWord schemaValidate (packetBody normalizedUtc
    arguments.sourceSnapshotDigest arguments.policy objectsWire)

end

/-! ## What a packet shows -/

/-- Members without some keys. -/
def without (keys : List Text) (members : Fields) : Fields :=
  members.filter fun member => member.1 ∉ keys

theorem without_kept
    {keys : List Text} {key : Text} (kept : key ∉ keys) (value : Json)
    (rest : Fields) :
    without keys ((key, value) :: rest) =
      (key, value) :: without keys rest :=
  List.filter_cons_of_pos (decide_eq_true kept)

theorem without_dropped
    {keys : List Text} {key : Text} (dropped : key ∈ keys) (value : Json)
    (rest : Fields) :
    without keys ((key, value) :: rest) = without keys rest :=
  List.filter_cons_of_neg (by simp [dropped])

/-- An object of a packet without its digests. -/
def shownObject : Json → Json
  | .obj members =>
      .obj (without [text "object_digest", text "provenance_refs"] members)
  | other => other

/-- The field of a packet, the objects without their digests. -/
def shownField (member : Text × Json) : Text × Json :=
  match member with
  | (key, .arr items) =>
      if key = text "objects" then (key, .arr (items.map shownObject))
      else (key, .arr items)
  | other => other

/-- A packet without its identifier and without the digests of objects. -/
def shownPacket (packet : Fields) : Fields :=
  (without [text "packet_id"] packet).map shownField

/-- Sources with the same type and the same summary. -/
structure SamePublic (first second : ExportObject) : Prop where
  objectType : first.objectType = second.objectType
  sanitizedSummary : first.sanitizedSummary = second.sanitizedSummary

/-- Sources that differ in their provenance alone. -/
structure SameButProvenance (first second : ExportObject) : Prop
    extends SamePublic first second where
  objectDigest : first.objectDigest = second.objectDigest

theorem mapM_congr_of_forall₂
    {α β : Type} {related : α → α → Prop} {body : α → Except PyError β}
    (same : ∀ first second, related first second →
      body first = body second) {firsts seconds : List α}
    (paired : List.Forall₂ related firsts seconds) :
    firsts.mapM body = seconds.mapM body := by
  induction paired with
  | nil => rfl
  | cons here _ induction =>
      rw [List.mapM_cons, List.mapM_cons, same _ _ here, induction]

section

variable {isWord : CodePoint → Bool}

/-- What the wire form of an object shows. -/
theorem wireObject_shown
    {policy : DisclosurePolicy} {seed : Text} {obj : ExportObject}
    {wire : Json} (wired : wireObject isWord policy seed obj = .ok wire) :
    ∃ summary, normalizeSummary isWord policy.summaryMaxBytes
        obj.sanitizedSummary = .ok summary ∧
      shownObject wire = .obj [(text "object_type", .str obj.objectType),
        (text "sanitized_summary", .str summary)] := by
  simp only [wireObject, bind_eq_ok_iff, pure_eq_ok_iff] at wired
  obtain ⟨summary, normalized, _, _, _, _, _, _, rfl⟩ := wired
  refine ⟨summary, normalized, ?_⟩
  rw [shownObject, without_dropped (by decide),
    without_kept (by decide), without_kept (by decide),
    without_dropped (by decide)]
  rfl

/-- Sources with the same public content show the same objects. -/
theorem mapM_wireObject_shown
    {policy : DisclosurePolicy} {firstSeed secondSeed : Text}
    {firsts seconds : List ExportObject} {firstWires secondWires : List Json}
    (paired : List.Forall₂ SamePublic firsts seconds)
    (firstWired : firsts.mapM (wireObject isWord policy firstSeed) =
      .ok firstWires)
    (secondWired : seconds.mapM (wireObject isWord policy secondSeed) =
      .ok secondWires) :
    firstWires.map shownObject = secondWires.map shownObject := by
  induction paired generalizing firstWires secondWires with
  | nil =>
      cases firstWired
      cases secondWired
      rfl
  | cons here _ induction =>
      rw [List.mapM_cons] at firstWired secondWired
      simp only [bind_eq_ok_iff, pure_eq_ok_iff] at firstWired secondWired
      obtain ⟨wire, wired, wires, others, rfl⟩ := firstWired
      obtain ⟨wire', wired', wires', others', rfl⟩ := secondWired
      obtain ⟨summary, normalized, shown⟩ := wireObject_shown wired
      obtain ⟨summary', normalized', shown'⟩ := wireObject_shown wired'
      rw [here.sanitizedSummary] at normalized
      cases normalized.symm.trans normalized'
      rw [List.map_cons, List.map_cons, induction others others', shown,
        shown', here.objectType]

theorem sealPacket_shown
    {schemaValidate : Fields → Except PyError PUnit} {body packet : Fields}
    (noId : without [text "packet_id"] body = body)
    (isSealed : sealPacket isWord schemaValidate body = .ok packet) :
    shownPacket packet = body.map shownField := by
  simp only [sealPacket, bind_eq_ok_iff, pure_eq_ok_iff] at isSealed
  obtain ⟨packetId, _, _, _, _, _, _, _, _, _, rfl⟩ := isSealed
  have split : without [text "packet_id"]
      (body ++ [(text "packet_id", Json.str packetId)]) =
      without [text "packet_id"] body ++ without [text "packet_id"]
        [(text "packet_id", Json.str packetId)] := List.filter_append _ _
  rw [shownPacket, split, noId,
    without_dropped (List.mem_singleton_self _), without, List.filter_nil,
    List.append_nil]

theorem packetBody_noId
    (createdUtc : Text) (sourceSnapshotDigest : Option Text)
    (policy : DisclosurePolicy) (wires : List Json) :
    without [text "packet_id"]
        (packetBody createdUtc sourceSnapshotDigest policy wires) =
      packetBody createdUtc sourceSnapshotDigest policy wires := by
  rw [packetBody, without_kept (by decide),
    without_kept (by decide), without_kept (by decide),
    without_kept (by decide), without_kept (by decide),
    without_kept (by decide), without_kept (by decide),
    without_kept (by decide), without_kept (by decide)]
  rfl

theorem packetBody_shown
    (createdUtc : Text) (sourceSnapshotDigest : Option Text)
    (policy : DisclosurePolicy) {firstWires secondWires : List Json}
    (same : firstWires.map shownObject = secondWires.map shownObject) :
    (packetBody createdUtc sourceSnapshotDigest policy firstWires).map
        shownField =
      (packetBody createdUtc sourceSnapshotDigest policy secondWires).map
        shownField := by
  simp only [packetBody, List.map_cons, shownField, if_true, same]

/--
Sources with the same types and summaries give packets that differ in digests
and identifiers alone, and where provenance is omitted it does not matter at
all.
-/
theorem buildPacket_noninterference
    (isWord : CodePoint → Bool)
    (schemaValidate : Fields → Except PyError PUnit)
    (arguments : PacketArguments) :
    (∀ firsts seconds, List.Forall₂ SamePublic firsts seconds →
      ∀ first second,
        buildPacket isWord schemaValidate arguments firsts = .ok first →
        buildPacket isWord schemaValidate arguments seconds = .ok second →
        shownPacket first = shownPacket second) ∧
    (arguments.policy.privateIdentities = .omitted →
      ∀ firsts seconds, List.Forall₂ SameButProvenance firsts seconds →
        buildPacket isWord schemaValidate arguments firsts =
          buildPacket isWord schemaValidate arguments seconds) := by
  constructor
  · intro firsts seconds paired first second firstBuilt secondBuilt
    simp only [buildPacket, bind_eq_ok_iff] at firstBuilt secondBuilt
    obtain ⟨createdUtc, normalized, _, _, _, _, firstWires, firstWired,
      firstSealed⟩ := firstBuilt
    obtain ⟨createdUtc', normalized', _, _, _, _, secondWires, secondWired,
      secondSealed⟩ := secondBuilt
    cases normalized.symm.trans normalized'
    rw [sealPacket_shown (packetBody_noId _ _ _ _) firstSealed,
      sealPacket_shown (packetBody_noId _ _ _ _) secondSealed]
    exact packetBody_shown _ _ _
      (mapM_wireObject_shown paired firstWired secondWired)
  · intro isOmitted firsts seconds paired
    have seeds : packetSeed isWord firsts arguments.policy =
        packetSeed isWord seconds arguments.policy := by
      rw [packetSeed, packetSeed]
      congr 1
      refine mapM_congr_of_forall₂ (fun first second same => ?_) paired
      rw [seedObject, seedObject, same.sanitizedSummary, same.objectType]
    have wires (seed : Text) :
        firsts.mapM (wireObject isWord arguments.policy seed) =
          seconds.mapM (wireObject isWord arguments.policy seed) := by
      refine mapM_congr_of_forall₂ (fun first second same => ?_) paired
      rw [wireObject, wireObject, same.sanitizedSummary, same.objectType,
        same.objectDigest, wireRefs, wireRefs, isOmitted]
    have empties : firsts = [] ↔ seconds = [] := by
      cases paired with
      | nil => rfl
      | cons _ _ => simp
    simp only [buildPacket, seedOf, seeds, wires, empties]

end

def repeatedDigest (digit : Char) : Text :=
  objectIdPrefix ++ List.replicate 64 (codePoint digit)

/-- A claim with a digest of its own. -/
def solvedClaim (digit : Char) (provenanceRefs : List Text)
    (digestValid : isObjectId (repeatedDigest digit) = true)
    (refsValid : ∀ ref ∈ provenanceRefs, isObjectId ref = true)
    (refsUnique : provenanceRefs.Nodup) : ExportObject where
  objectDigest := repeatedDigest digit
  objectType := text "claim"
  sanitizedSummary := .str (text "Solved  exactly")
  provenanceRefs := provenanceRefs
  digestValid := digestValid
  typeKnown := by decide
  refsValid := refsValid
  refsUnique := refsUnique

/-- A claim that derives from another object. -/
def derivedClaim : ExportObject :=
  solvedClaim 'a' [repeatedDigest 'c'] (by decide)
    (by decide) (by decide)

/-- A claim that derives from nothing. -/
def looseClaim : ExportObject :=
  solvedClaim 'b' [] (by decide) nofun List.nodup_nil

/-- The arguments of a packet under a policy. -/
def plainArguments (privateIdentities : PrivateIdentities) :
    PacketArguments :=
  ⟨⟨privateIdentities, 1024, by decide⟩, text "2026-07-28T00:00:00Z", none⟩

/-- A packet of one object without a schema. -/
def claimPacket (obj : ExportObject) : Except PyError Fields :=
  buildPacket Regex.alphanumeric (fun _ => .ok ⟨⟩)
    (plainArguments .digestReplaced) [obj]

theorem claimPacket_returns :
    (claimPacket derivedClaim).isOk = true ∧
      (claimPacket looseClaim).isOk = true := by
  unfold claimPacket buildPacket seedOf packetSeed wireObject wireRefs
    replacementDigest sealPacket
  rw [objectId_eq_strict, sha256_eq_strict]
  decide +kernel

theorem claimPacket_noninterference :
    (∃ first second, claimPacket derivedClaim = .ok first ∧
      claimPacket looseClaim = .ok second ∧
        shownPacket first = shownPacket second) ∧
    buildPacket Regex.alphanumeric (fun _ => .ok ⟨⟩)
        (plainArguments .omitted) [derivedClaim] =
      buildPacket Regex.alphanumeric (fun _ => .ok ⟨⟩)
        (plainArguments .omitted) [{ derivedClaim with
          provenanceRefs := [], refsValid := nofun
          refsUnique := List.nodup_nil }] := by
  have hidden := buildPacket_noninterference Regex.alphanumeric
    (fun _ => .ok ⟨⟩)
  obtain ⟨firstReturns, secondReturns⟩ := claimPacket_returns
  constructor
  · cases firstBuilt : claimPacket derivedClaim with
    | error error =>
        rw [firstBuilt] at firstReturns
        cases firstReturns
    | ok first =>
        cases secondBuilt : claimPacket looseClaim with
        | error error =>
            rw [secondBuilt] at secondReturns
            cases secondReturns
        | ok second =>
            exact ⟨first, second, rfl, rfl,
              (hidden (plainArguments .digestReplaced)).1 [derivedClaim]
                [looseClaim] (.cons ⟨rfl, rfl⟩ .nil) first second
                firstBuilt secondBuilt⟩
  · exact (hidden (plainArguments .omitted)).2 rfl [derivedClaim] _
      (.cons ⟨⟨rfl, rfl⟩, rfl⟩ .nil)

end ScientificResourceLab.Bridge
