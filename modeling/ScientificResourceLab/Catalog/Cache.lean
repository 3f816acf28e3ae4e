import ScientificResourceLab.Catalog.Snapshot

/-!
# The local snapshot cache

`SnapshotCache` of `srl.catalog.local_cache`: `write` rebuilds a snapshot
together with the full location map and replaces the cache file, `read`
decodes the file, rebuilds the snapshot from its entries and verifies what it
rebuilt.

What was written is read back (`cache_round_trip`), and a write that raises
leaves the file alone.  The identity fields recorded in the file take no part
in reading: a file that passes the checks on its shape is returned whatever
they say (`detects_iff`).
-/

namespace ScientificResourceLab.Catalog

open Python Contracts Steps

/-! ## The file -/

/-- `_MAX_CACHE_BYTES`. -/
def maxCacheBytes : Nat := 1024 * 1024

/-- `_CACHE_SCHEMA_VERSION`. -/
def cacheSchemaVersion : Text :=
  text "CapabilityCatalogCache/v1"

/-- A `LocalCacheError`. -/
def localCacheError (message : Text) : PyError :=
  ⟨.localCacheError, message⟩

/-- The cache file and the temporary file beside it. -/
structure CacheFiles where
  file : Option Bytes
  temporary : Option Bytes

/-- The call of `write` that the operating system refuses. -/
inductive WriteFault where
  | mkdir
  | mkstemp
  | write
  | replace
  deriving DecidableEq, Repr

/-- `mkdir` and `_atomic_write`: a failed write removes its temporary file. -/
def atomicWrite (fault : Option WriteFault) (blob : Bytes)
    (files : CacheFiles) : Except PyError Unit × CacheFiles :=
  match fault with
  | none => (.ok ⟨⟩, ⟨some blob, none⟩)
  | some .mkdir => (.error (raised .osError "mkdir"), files)
  | some .mkstemp => (.error (raised .osError "mkstemp"), files)
  | some .write =>
      (.error (raised .osError "write"), { files with temporary := none })
  | some .replace =>
      (.error (raised .osError "replace"),
        { files with temporary := none })

/-! ## Writing -/

/-- The location state of every entry, recorded or unknown. -/
def storedLocations (entries : List CapabilityRegistryEntry)
    (recorded : Fields) : Fields :=
  Json.ofMembers (entries.map fun entry =>
    (entry.capabilityId,
      (Json.lookup entry.capabilityId recorded).getD unknownState))

/-- The envelope of a cache file. -/
def cacheEnvelope (snapshot locations : Fields) : Fields :=
  [(text "schema_version", .str cacheSchemaVersion),
    (text "snapshot", .obj snapshot), (text "locations", .obj locations)]

/-- The bytes that `SnapshotCache.write` puts into the file. -/
def cacheBlob (snapshot : ScientificCatalogSnapshot)
    (locations : Option Fields) (now : Text) : Except PyError Bytes := do
  let stored := storedLocations snapshot.entries (locations.getD [])
  let rebuilt ← buildSnapshot snapshot.entries (some stored)
    (some snapshot.createdUtc) now
  let blob ← dumps (.obj (cacheEnvelope rebuilt.toDict stored))
  refuseIf (maxCacheBytes < blob.length)
    (localCacheError (text "cache size " ++ decimalText blob.length ++
      text " bytes exceeds the " ++ decimalText maxCacheBytes ++
      text " byte ceiling; refusing to write an oversized cache"))
  pure blob

/-- `SnapshotCache.write`. -/
def write (fault : Option WriteFault)
    (snapshot : ScientificCatalogSnapshot) (locations : Option Fields)
    (now : Text) (files : CacheFiles) :
    Except PyError Unit × CacheFiles :=
  match cacheBlob snapshot locations now with
  | .error error => (.error error, files)
  | .ok blob => atomicWrite fault blob files

/-! ## Reading -/

/-- The decoded cache file. -/
def decodeCache (path : Text) (raw : Bytes) : Except PyError Json :=
  match utf8Decode raw with
  | none => .error (localCacheError (text "cache file " ++ path ++
      text " is not valid JSON"))
  | some document =>
      match parseText true document with
      | .ok value => .ok value
      | .error .value => .error (raised .valueError
          "Exceeds the limit for integer string conversion")
      | .error _ => .error (localCacheError (text "cache file " ++ path ++
          text " is not valid JSON"))

/-- A dict under a key of the envelope, else a `LocalCacheError`. -/
def requireObject (value : Option Json) (message : String) :
    Except PyError Fields :=
  match value with
  | some (.obj members) => .ok members
  | _ => .error (localCacheError (text message))

/-- The schema version of the envelope. -/
def requireCacheVersion (envelope : Fields) : Except PyError PUnit :=
  match Json.lookup (text "schema_version") envelope with
  | some (.str version) =>
      refuseIf (version ≠ cacheSchemaVersion) (refusal (.str version))
  | other => .error (refusal (other.getD .null))
where
  refusal (got : Json) : PyError :=
    localCacheError (text "cache schema_version must be " ++
      quoted cacheSchemaVersion ++ text ", got " ++ reprJson got)

/-- The recorded snapshot and the recorded locations of a cache file. -/
def openCache (path : Text) (raw : Bytes) :
    Except PyError (Fields × Fields) := do
  refuseIf (maxCacheBytes < raw.length)
    (localCacheError (text "cache file " ++ path ++ text " is " ++
      decimalText raw.length ++ text " bytes, exceeding the " ++
      decimalText maxCacheBytes ++
      text " byte ceiling; refusing to load"))
  let value ← decodeCache path raw
  let envelope ← requireEnvelope value
  requireCacheVersion envelope
  let snapshot ← requireObject (Json.lookup (text "snapshot") envelope)
    "cache envelope missing 'snapshot' object"
  let locations ← requireObject (Json.lookup (text "locations") envelope)
    "cache envelope 'locations' must be an object"
  pure (snapshot, locations)
where
  requireEnvelope : Json → Except PyError Fields
    | .obj members => .ok members
    | value => .error (localCacheError (text
        "cache envelope must be an object, got " ++ typeName value))

/-- What `for e in value.get("entries", [])` runs over. -/
def iterateEntries (snapshot : Fields) : Except PyError (List Json) :=
  match Json.lookup (text "entries") snapshot with
  | none => .ok []
  | some (.arr items) => .ok items
  | some (.str points) => .ok (points.map fun point => .str [point])
  | some (.obj members) => .ok (members.map fun member => .str member.1)
  | some other => .error ⟨.typeError,
      quoted (typeName other) ++ text " object is not iterable"⟩

/-- The entries recorded in a cache file. -/
def recordedEntries (snapshot : Fields) :
    Except PyError (List CapabilityRegistryEntry) := do
  let items ← iterateEntries snapshot
  items.mapM buildEntryFromRaw

def recordedTime (snapshot : Fields) : Option Text :=
  match Json.lookup (text "created_utc") snapshot with
  | some (.str createdUtc) => some createdUtc
  | _ => none

/-- `_snapshot_from_dict`. -/
def snapshotFromDict (snapshot locations : Fields) (now : Text) :
    Except PyError ScientificCatalogSnapshot := do
  let entries ← recordedEntries snapshot
  buildSnapshot entries (some locations) (recordedTime snapshot) now

/-- The verification in `read`, with its handler. -/
def verifyCached (snapshot : ScientificCatalogSnapshot)
    (locations : Fields) : Except PyError PUnit :=
  match verifySnapshot snapshot (some locations) with
  | .ok _ => .ok ⟨⟩
  | .error error =>
      if error.kind = .snapshotMismatchError then
        .error (localCacheError (text
          "cached snapshot failed identity verification: " ++
          error.message))
      else .error error

/-- `SnapshotCache.read`. -/
def read (path : Text) (file : Option Bytes) (now : Text) :
    Except PyError (Option (ScientificCatalogSnapshot × Fields)) :=
  match file with
  | none => .ok none
  | some raw => do
      let recorded ← openCache path raw
      let snapshot ← snapshotFromDict recorded.1 recorded.2 now
      verifyCached snapshot recorded.2
      pure (some (snapshot, recorded.2))

/-! ## What reading returns -/

/-- The identity fields of a snapshot. -/
structure Identity where
  snapshotId : Text
  merkleRoot : Text
  locationStateRef : Text

/-- The identity fields that entries and locations have. -/
def recomputeIdentity (entries : List CapabilityRegistryEntry)
    (locations : Fields) : Except PyError Identity := do
  let sorted := sortEntries entries
  let root ← entriesRoot sorted
  let snapshotId ← objectId (identityBody sorted root)
  let locationStateRef ← objectId (.obj locations)
  pure ⟨snapshotId, root, locationStateRef⟩

/-- The identity fields recorded in the dict of a snapshot. -/
structure Records (recorded : Fields) (identity : Identity) : Prop where
  snapshotId : Json.lookup (text "snapshot_id") recorded =
    some (.str identity.snapshotId)
  merkleRoot : Json.lookup (text "merkle_root") recorded =
    some (.str identity.merkleRoot)
  locationStateRef : Json.lookup (text "location_state_ref") recorded =
    some (.str identity.locationStateRef)

/--
A file that passes the checks on its shape: it opens, its entries are
accepted and have distinct ids, everything in it can be encoded, and its
location states are dicts, or at least their copies as dicts have the content
address of the states themselves.
-/
structure WellShaped (path : Text) (raw : Bytes)
    (recorded locations : Fields) (entries : List CapabilityRegistryEntry)
    (identity : Identity) : Prop where
  opened : openCache path raw = .ok (recorded, locations)
  accepted : recordedEntries recorded = .ok entries
  distinct : (capabilityIds entries).Nodup
  recomputed : recomputeIdentity entries locations = .ok identity
  copied : ∃ copies, copyLocations locations = .ok copies ∧
    locationRef copies = .ok identity.locationStateRef

/-- The snapshot that reading rebuilds. -/
def rebuiltSnapshot (recorded : Fields)
    (entries : List CapabilityRegistryEntry) (identity : Identity)
    (now : Text) : ScientificCatalogSnapshot where
  schemaVersion := snapshotSchemaVersion
  snapshotId := identity.snapshotId
  createdUtc := (recordedTime recorded).getD now
  entries := sortEntries entries
  merkleRoot := identity.merkleRoot
  locationStateRef := identity.locationStateRef
  canonicalWrites := 0
  grantsAuthority := false

theorem verifyCached_eq_ok
    {snapshot : ScientificCatalogSnapshot} {locations : Fields}
    {result : PUnit} :
    verifyCached snapshot locations = .ok result ↔
      Consistent snapshot (some locations) := by
  rw [← verifySnapshot_eq_ok]
  unfold verifyCached
  split
  · next verified => simp [verified]
  · next error refused =>
      rw [refused]
      split_ifs <;> simp

/-- Reading returns exactly on well-shaped files. -/
theorem read_eq_ok
    {path : Text} {raw : Bytes} {now : Text}
    {snapshot : ScientificCatalogSnapshot} {locations : Fields} :
    read path (some raw) now = .ok (some (snapshot, locations)) ↔
      ∃ recorded entries identity,
        WellShaped path raw recorded locations entries identity ∧
          snapshot = rebuiltSnapshot recorded entries identity now := by
  simp only [read, snapshotFromDict, bind_eq_ok_iff, pure_eq_ok_iff,
    Option.some.injEq, Prod.mk.injEq, verifyCached_eq_ok]
  constructor
  · rintro ⟨⟨recorded, found⟩, opened, built, ⟨entries, accepted, isBuilt⟩,
      _, verified, rfl, rfl⟩
    obtain ⟨distinct, copies, copied, isEntries, isCreated, identified,
      isRef⟩ := buildSnapshot_eq_ok.mp isBuilt
    have isRoot := identified.merkleRoot
    have isId := identified.snapshotId
    rw [isEntries] at isRoot isId
    refine ⟨recorded, entries,
      ⟨built.snapshotId, built.merkleRoot, built.locationStateRef⟩,
      ⟨opened, accepted, distinct, ?_, copies, copied, isRef⟩, ?_⟩
    · simp only [recomputeIdentity, bind_eq_ok_iff, pure_eq_ok_iff]
      exact ⟨_, isRoot, _, isId, _, verified.locationStateRef, rfl⟩
    · obtain ⟨version, id, created, stored, root, ref, writes,
        authority⟩ := built
      simp only [rebuiltSnapshot, ScientificCatalogSnapshot.mk.injEq]
      exact ⟨identified.schemaVersion, trivial, isCreated, isEntries,
        trivial, trivial, identified.canonicalWrites,
        identified.grantsAuthority⟩
  · rintro ⟨recorded, entries, identity, shaped, rfl⟩
    obtain ⟨copies, copied, copiedRef⟩ := shaped.copied
    have recomputed := shaped.recomputed
    simp only [recomputeIdentity, bind_eq_ok_iff, pure_eq_ok_iff]
      at recomputed
    obtain ⟨root, isRoot, id, isId, ref, isRef, rfl⟩ := recomputed
    have identified : Identified
        (rebuiltSnapshot recorded entries ⟨id, root, ref⟩ now) :=
      ⟨rfl, rfl, rfl, ordered_sortEntries entries, isRoot, isId⟩
    refine ⟨(recorded, locations), shaped.opened, _,
      ⟨entries, shaped.accepted, ?_⟩, ⟨⟩, identified.consistent isRef, rfl,
      rfl⟩
    exact buildSnapshot_eq_ok.mpr ⟨shaped.distinct, copies, copied, rfl,
      rfl, identified, copiedRef⟩

/-! ## The shape of a file -/

/-- A file that holds a well-formed envelope. -/
structure Opens (raw : Bytes) (recorded locations : Fields) : Prop where
  small : raw.length ≤ maxCacheBytes
  envelope : ∃ document members, utf8Decode raw = some document ∧
    parseText true document = .ok (.obj members) ∧
    Json.lookup (text "schema_version") members =
      some (.str cacheSchemaVersion) ∧
    Json.lookup (text "snapshot") members = some (.obj recorded) ∧
    Json.lookup (text "locations") members = some (.obj locations)

theorem requireObject_eq_ok
    {value : Option Json} {message : String} {members : Fields} :
    requireObject value message = .ok members ↔
      value = some (.obj members) := by
  unfold requireObject
  split
  · simp
  · next notObject =>
      simp only [reduceCtorEq, false_iff]
      intro isObject
      exact notObject members isObject

theorem requireCacheVersion_eq_ok {envelope : Fields} {result : PUnit} :
    requireCacheVersion envelope = .ok result ↔
      Json.lookup (text "schema_version") envelope =
        some (.str cacheSchemaVersion) := by
  unfold requireCacheVersion
  split
  · next version found =>
      rw [found]
      simp
  · next notText =>
      simp only [reduceCtorEq, false_iff]
      intro isText
      exact notText _ isText

theorem openCache_eq_ok
    {path : Text} {raw : Bytes} {recorded locations : Fields} :
    openCache path raw = .ok (recorded, locations) ↔
      Opens raw recorded locations := by
  simp only [openCache, bind_eq_ok_iff, refuseIf_eq_ok_iff, Nat.not_lt,
    pure_eq_ok_iff, requireObject_eq_ok, requireCacheVersion_eq_ok,
    Prod.mk.injEq]
  constructor
  · rintro ⟨_, small, value, decoded, members, isObject, _, version,
      _, snapshot, _, map, rfl, rfl⟩
    refine ⟨small, ?_⟩
    rw [decodeCache] at decoded
    cases isText : utf8Decode raw with
    | none =>
        rw [isText] at decoded
        cases decoded
    | some document =>
        simp only [isText] at decoded
        split at decoded
        · next parsed =>
            cases decoded
            cases value with
            | obj found =>
                cases isObject
                exact ⟨document, members, rfl, parsed, version, snapshot,
                  map⟩
            | null | bool _ | int _ | float _ | str _ | arr _ =>
                cases isObject
        · cases decoded
        · cases decoded
  · rintro ⟨small, document, members, decoded, parsed, version, snapshot,
      map⟩
    refine ⟨⟨⟩, small, .obj members, ?_, members, rfl, ⟨⟩, version, _,
      snapshot, _, map, rfl, rfl⟩
    simp only [decodeCache, decoded, parsed]

/-- What is returned has the identity that the file records. -/
def Detects (path : Text) (raw : Bytes) (now : Text) : Prop :=
  ∀ snapshot locations,
    read path (some raw) now = .ok (some (snapshot, locations)) →
      ∃ recorded entries identity,
        openCache path raw = .ok (recorded, locations) ∧
          recordedEntries recorded = .ok entries ∧
          recomputeIdentity entries locations = .ok identity ∧
          Records recorded identity

theorem Detects.records
    {path : Text} {raw : Bytes} {now : Text}
    (detects : Detects path raw now) {recorded locations : Fields}
    {entries : List CapabilityRegistryEntry} {identity : Identity}
    (shaped : WellShaped path raw recorded locations entries identity) :
    Records recorded identity := by
  obtain ⟨opened, found, recomputed, isOpened, isFound, isRecomputed,
    records⟩ := detects _ locations
      (read_eq_ok.mpr ⟨recorded, entries, identity, shaped, rfl⟩)
  rw [shaped.opened] at isOpened
  cases isOpened
  rw [shaped.accepted] at isFound
  cases isFound
  rw [shaped.recomputed] at isRecomputed
  cases isRecomputed
  exact records

theorem cacheEnvelope_keys (recorded locations : Fields) :
    ((cacheEnvelope recorded locations).map Prod.fst).Nodup := by
  simp only [cacheEnvelope, List.map_cons, List.map_nil]
  simp -index only [text_ofList]
  decide

/-- Decoding a cache file undoes encoding it. -/
theorem decodeCache_dumps
    {value : Json} (distinct : value.Distinct) {blob : Bytes}
    (encoded : dumps value = .ok blob) (path : Text) :
    decodeCache path blob = .ok value.sorted := by
  obtain ⟨document, written, bytes⟩ := dumps_eq_ok_iff.mp encoded
  simp only [decodeCache, utf8Decode_utf8Encode bytes,
    parseText_dumpText_sorted distinct written (.inr rfl)]

/-- An encoded envelope opens as its parts, in the order of their keys. -/
theorem openCache_dumps
    {recorded locations : Fields}
    (recordedDistinct : (Json.obj recorded).Distinct)
    (locationsDistinct : (Json.obj locations).Distinct) {blob : Bytes}
    (encoded : dumps (.obj (cacheEnvelope recorded locations)) = .ok blob)
    (small : ¬ maxCacheBytes < blob.length) (path : Text) :
    openCache path blob = .ok (stored recorded, stored locations) := by
  have keys := cacheEnvelope_keys recorded locations
  have distinct : (Json.obj (cacheEnvelope recorded locations)).Distinct :=
    ⟨⟨trivial, recordedDistinct, locationsDistinct, trivial⟩, keys⟩
  have decoded := decodeCache_dumps distinct encoded path
  rw [sorted_obj] at decoded
  have version : Json.lookup (text "schema_version")
      (stored (cacheEnvelope recorded locations)) =
        some (.str cacheSchemaVersion) := by
    rw [lookup_stored keys]
    rfl
  have snapshot : Json.lookup (text "snapshot")
      (stored (cacheEnvelope recorded locations)) =
        some (.obj (stored recorded)) := by
    rw [lookup_stored keys, ← sorted_obj]
    rfl
  have map : Json.lookup (text "locations")
      (stored (cacheEnvelope recorded locations)) =
        some (.obj (stored locations)) := by
    rw [lookup_stored keys, ← sorted_obj]
    rfl
  simp only [openCache, bind_eq_ok_iff, refuseIf_eq_ok_iff,
    pure_eq_ok_iff]
  refine ⟨⟨⟩, small, _, decoded, _, rfl, ⟨⟩, ?_, _, by rw [snapshot]; rfl,
    _, by rw [map]; rfl, rfl⟩
  simp only [requireCacheVersion, version, refuseIf_eq_ok_iff]
  exact not_not.mpr rfl

/-- Recorded entries are read back. -/
theorem recordedEntries_stored
    {recorded : Fields} (distinct : (recorded.map Prod.fst).Nodup)
    {entries : List CapabilityRegistryEntry}
    (found : Json.lookup (text "entries") recorded =
      some (entryDicts entries))
    (valid : ∀ entry ∈ entries, entry.Valid) :
    recordedEntries (stored recorded) = .ok entries := by
  have items : iterateEntries (stored recorded) =
      .ok (entries.map fun entry => Json.sorted (.obj entry.toDict)) := by
    rw [iterateEntries, lookup_stored distinct, found, Option.map_some,
      entryDicts, Json.sorted, sortedItems_eq_map, List.map_map]
    rfl
  have built : ∀ others : List CapabilityRegistryEntry,
      (∀ entry ∈ others, entry.Valid) →
        (others.map fun entry =>
          Json.sorted (.obj entry.toDict)).mapM buildEntryFromRaw =
            .ok others := by
    intro others valid
    induction others with
    | nil => rfl
    | cons entry rest induction =>
        simp only [List.map_cons, List.mapM_cons, bind_eq_ok_iff,
          pure_eq_ok_iff]
        exact ⟨_, buildEntryFromRaw_toDict (valid entry List.mem_cons_self),
          _, induction fun other isEntry =>
            valid other (List.mem_cons_of_mem _ isEntry), rfl⟩
  simp only [recordedEntries, bind_eq_ok_iff]
  exact ⟨_, items, built entries valid⟩

theorem dicts_stored
    {locations : Fields}
    (dicts : DictStates locations) :
    DictStates (stored locations) := by
  intro location isLocation
  have inSorted := (perm_stored locations).mem_iff.mp isLocation
  rw [sortedMembers_eq_map] at inSorted
  obtain ⟨origin, isOrigin, rfl⟩ := List.mem_map.mp inSorted
  obtain ⟨members, isDict⟩ := dicts origin isOrigin
  refine ⟨stored members, ?_⟩
  rw [isDict, sorted_obj]

/-- The content address of a location map does not depend on its order. -/
theorem objectId_stored
    {locations : Fields} (dicts : DictStates locations) :
    objectId (.obj (stored locations)) = objectId (.obj locations) := by
  have same : dumps (.obj (stored locations)) = dumps (.obj locations) := by
    rw [dumps, dumps, ← sorted_obj, dumpText_sorted]
  rw [objectId, objectId, ownObjectId_of_dicts dicts,
    ownObjectId_of_dicts (dicts_stored dicts), same]

theorem wellShaped_of_dumps
    {recorded locations : Fields}
    (recordedDistinct : (Json.obj recorded).Distinct)
    (locationsDistinct : (Json.obj locations).Distinct)
    (dicts : DictStates locations)
    {entries : List CapabilityRegistryEntry}
    (found : Json.lookup (text "entries") recorded =
      some (entryDicts entries))
    (valid : ∀ entry ∈ entries, entry.Valid)
    (distinct : (capabilityIds entries).Nodup) {identity : Identity}
    (recomputed : recomputeIdentity entries locations = .ok identity)
    {blob : Bytes}
    (encoded : dumps (.obj (cacheEnvelope recorded locations)) = .ok blob)
    (small : ¬ maxCacheBytes < blob.length) (path : Text) :
    WellShaped path blob (stored recorded) (stored locations) entries
      identity := by
  have address := objectId_stored dicts
  simp only [recomputeIdentity, bind_eq_ok_iff, pure_eq_ok_iff]
    at recomputed
  obtain ⟨root, isRoot, id, isId, ref, isRef, rfl⟩ := recomputed
  refine ⟨openCache_dumps recordedDistinct locationsDistinct encoded small
    path, recordedEntries_stored recordedDistinct.2 found valid, distinct,
    ?_, _, copyLocations_of_dicts (dicts_stored dicts), ?_⟩
  · simp only [recomputeIdentity, bind_eq_ok_iff, pure_eq_ok_iff]
    exact ⟨root, isRoot, id, isId, ref, by rw [address, isRef], rfl⟩
  · rw [locationRef_of_dicts (dicts_stored dicts), address, isRef]

/-! ## What was written is read back -/

/-- What reading returns after a snapshot and a location map were written. -/
structure Restores (snapshot : ScientificCatalogSnapshot)
    (locations : Fields) (restored : ScientificCatalogSnapshot)
    (found : Fields) : Prop where
  entries : restored.entries = sortEntries snapshot.entries
  createdUtc : restored.createdUtc = snapshot.createdUtc
  snapshotId : restored.snapshotId = snapshot.snapshotId
  merkleRoot : restored.merkleRoot = snapshot.merkleRoot
  locations : ∀ id, Json.lookup id found =
    if id ∈ capabilityIds snapshot.entries then
      some ((Json.lookup id locations).getD unknownState).sorted
    else none

theorem storedLocations_eq_map
    {entries : List CapabilityRegistryEntry}
    (distinct : (capabilityIds entries).Nodup) (recorded : Fields) :
    storedLocations entries recorded = entries.map fun entry =>
      (entry.capabilityId,
        (Json.lookup entry.capabilityId recorded).getD unknownState) := by
  refine ofMembers_of_nodup ?_
  rw [List.map_map]
  exact distinct

theorem lookup_storedLocations
    {entries : List CapabilityRegistryEntry}
    (distinct : (capabilityIds entries).Nodup) (recorded : Fields)
    (id : Text) :
    Json.lookup id (storedLocations entries recorded) =
      if id ∈ capabilityIds entries then
        some ((Json.lookup id recorded).getD unknownState)
      else none := by
  have keys := ofMembers_nodup (entries.map fun entry =>
    (entry.capabilityId,
      (Json.lookup entry.capabilityId recorded).getD unknownState))
  split_ifs with isId
  · obtain ⟨entry, isEntry, rfl⟩ := List.mem_map.mp isId
    refine (Json.lookup_eq_some_iff keys).mpr ?_
    change _ ∈ storedLocations entries recorded
    rw [storedLocations_eq_map distinct]
    exact List.mem_map.mpr ⟨entry, isEntry, rfl⟩
  · cases found : Json.lookup id (storedLocations entries recorded) with
    | none => rfl
    | some state =>
        have isMember := (Json.lookup_eq_some_iff keys).mp found
        change _ ∈ storedLocations entries recorded at isMember
        rw [storedLocations_eq_map distinct] at isMember
        obtain ⟨entry, isEntry, same⟩ := List.mem_map.mp isMember
        cases same
        exact absurd (List.mem_map_of_mem isEntry) isId

theorem storedLocations_cases
    {entries : List CapabilityRegistryEntry} {recorded : Fields}
    (distinct : (capabilityIds entries).Nodup) {location : Text × Json}
    (isLocation : location ∈ storedLocations entries recorded) :
    Json.lookup location.1 recorded = some location.2 ∨
      location.2 = unknownState := by
  rw [storedLocations_eq_map distinct] at isLocation
  obtain ⟨entry, _, rfl⟩ := List.mem_map.mp isLocation
  dsimp only
  cases Json.lookup entry.capabilityId recorded with
  | none => exact .inr rfl
  | some state => exact .inl rfl

theorem unknownState_distinct : unknownState.Distinct :=
  ⟨⟨trivial, trivial⟩, by decide⟩

theorem storedLocations_distinct
    {entries : List CapabilityRegistryEntry} {recorded : Fields}
    (ids : (capabilityIds entries).Nodup)
    (distinct : (Json.obj recorded).Distinct) :
    (Json.obj (storedLocations entries recorded)).Distinct := by
  refine ⟨distinctMembers_iff.mpr fun location isLocation => ?_,
    ofMembers_nodup _⟩
  rcases storedLocations_cases ids isLocation with isRecorded | isUnknown
  · exact distinctMembers_iff.mp distinct.1 _
      ((Json.lookup_eq_some_iff distinct.2).mp isRecorded)
  · rw [isUnknown]
    exact unknownState_distinct

theorem storedLocations_dicts
    {entries : List CapabilityRegistryEntry}
    (ids : (capabilityIds entries).Nodup)
    {locations : List (Text × Fields)}
    (distinct : (Json.obj (locationFields locations)).Distinct) :
    DictStates
      (storedLocations entries (locationFields locations)) := by
  intro location isLocation
  rcases storedLocations_cases ids isLocation with isRecorded | isUnknown
  · have isMember := (Json.lookup_eq_some_iff distinct.2).mp isRecorded
    obtain ⟨origin, _, same⟩ := List.mem_map.mp isMember
    exact ⟨origin.2, (congrArg Prod.snd same).symm⟩
  · exact ⟨_, isUnknown⟩

theorem snapshotDict_distinct (snapshot : ScientificCatalogSnapshot) :
    (Json.obj snapshot.toDict).Distinct := by
  have entries : (entryDicts snapshot.entries).Distinct := by
    refine distinctItems_iff.mpr fun item isItem => ?_
    obtain ⟨entry, _, rfl⟩ := List.mem_map.mp isItem
    exact toDict_distinct entry
  refine ⟨⟨trivial, trivial, trivial, entries, trivial, trivial, trivial,
    trivial, trivial⟩, ?_⟩
  simp only [ScientificCatalogSnapshot.toDict, List.map_cons, List.map_nil]
  simp -index only [text_ofList]
  decide

theorem recordedTime_stored (snapshot : ScientificCatalogSnapshot) :
    recordedTime (stored snapshot.toDict) = some snapshot.createdUtc := by
  rw [recordedTime, lookup_stored (snapshotDict_distinct snapshot).2]
  rfl

/-- What the bytes of a cache file encode. -/
theorem cacheBlob_eq_ok
    {snapshot : ScientificCatalogSnapshot} {locations : Option Fields}
    {now : Text} {blob : Bytes} :
    cacheBlob snapshot locations now = .ok blob ↔
      ∃ rebuilt,
        buildSnapshot snapshot.entries
            (some (storedLocations snapshot.entries (locations.getD [])))
            (some snapshot.createdUtc) now = .ok rebuilt ∧
          dumps (.obj (cacheEnvelope rebuilt.toDict
            (storedLocations snapshot.entries (locations.getD [])))) =
              .ok blob ∧
          ¬ maxCacheBytes < blob.length := by
  simp only [cacheBlob, bind_eq_ok_iff, refuseIf_eq_ok_iff,
    pure_eq_ok_iff]
  constructor
  · rintro ⟨rebuilt, isRebuilt, _, encoded, _, small, rfl⟩
    exact ⟨rebuilt, isRebuilt, encoded, small⟩
  · rintro ⟨rebuilt, isRebuilt, encoded, small⟩
    exact ⟨rebuilt, isRebuilt, blob, encoded, ⟨⟩, small, rfl⟩

/-- A write that returns has put its bytes into the file. -/
theorem write_eq_ok
    {fault : Option WriteFault} {snapshot : ScientificCatalogSnapshot}
    {locations : Option Fields} {now : Text} {files after : CacheFiles}
    (returned : write fault snapshot locations now files =
      (.ok ⟨⟩, after)) :
    ∃ blob, cacheBlob snapshot locations now = .ok blob ∧
      after.file = some blob := by
  unfold write at returned
  split at returned
  · cases returned
  · next blob isBlob =>
      refine ⟨blob, isBlob, ?_⟩
      unfold atomicWrite at returned
      split at returned
      · cases returned
        rfl
      all_goals cases returned

/-- A write that raises leaves the file alone. -/
theorem write_eq_error
    {fault : Option WriteFault} {snapshot : ScientificCatalogSnapshot}
    {locations : Option Fields} {now : Text} {files after : CacheFiles}
    {error : PyError}
    (refused : write fault snapshot locations now files =
      (.error error, after)) :
    after.file = files.file := by
  unfold write at refused
  split at refused
  · cases refused
    rfl
  · unfold atomicWrite at refused
    split at refused
    all_goals
      cases refused
      try rfl

/-- Two such records of the same entries have one identity. -/
theorem Identified.identity_unique
    {left right : ScientificCatalogSnapshot}
    (leftIdentified : Identified left)
    (rightIdentified : Identified right)
    (entries : left.entries = right.entries) :
    left.snapshotId = right.snapshotId ∧
      left.merkleRoot = right.merkleRoot := by
  have root : left.merkleRoot = right.merkleRoot := by
    have isRoot := leftIdentified.merkleRoot
    rw [entries, rightIdentified.merkleRoot] at isRoot
    exact (Except.ok.inj isRoot).symm
  have id := leftIdentified.snapshotId
  rw [entries, root, rightIdentified.snapshotId] at id
  exact ⟨(Except.ok.inj id).symm, root⟩

/-- Reading what was encoded returns what was rebuilt. -/
theorem read_of_cacheBlob
    {snapshot : ScientificCatalogSnapshot}
    {locations : List (Text × Fields)}
    (distinct : (Json.obj (locationFields locations)).Distinct)
    (valid : ∀ entry ∈ snapshot.entries, entry.Valid)
    (identified : Identified snapshot) {now : Text} {blob : Bytes}
    (encoded : cacheBlob snapshot (some (locationFields locations)) now =
      .ok blob) (path later : Text) :
    ∃ restored found,
      read path (some blob) later = .ok (some (restored, found)) ∧
        Restores snapshot (locationFields locations) restored found := by
  obtain ⟨rebuilt, isRebuilt, isBlob, small⟩ := cacheBlob_eq_ok.mp encoded
  have ids := (buildSnapshot_eq_ok.mp isRebuilt).1
  have dicts := storedLocations_dicts ids distinct
  have taken : DictStates (verifyLocations (sortEntries snapshot.entries)
    (some (storedLocations snapshot.entries
      (locationFields locations)))) := dicts
  obtain ⟨_, isEntries, isCreated, isConsistent⟩ :=
    (buildSnapshot_dicts_eq_ok taken).mp isRebuilt
  have sorted := sortEntries_of_ordered identified.ordered
  rw [sorted] at isEntries
  have recomputed : recomputeIdentity snapshot.entries
      (storedLocations snapshot.entries (locationFields locations)) =
        .ok ⟨rebuilt.snapshotId, rebuilt.merkleRoot,
          rebuilt.locationStateRef⟩ := by
    have isRoot := isConsistent.merkleRoot
    have isId := isConsistent.snapshotId
    have isRef := isConsistent.locationStateRef
    rw [isEntries] at isRoot isId
    simp only [recomputeIdentity, sorted, bind_eq_ok_iff, pure_eq_ok_iff]
    exact ⟨_, isRoot, _, isId, _, isRef, rfl⟩
  have found : Json.lookup (text "entries") rebuilt.toDict =
      some (entryDicts snapshot.entries) := by
    rw [← isEntries]
    rfl
  have shaped := wellShaped_of_dumps (snapshotDict_distinct rebuilt)
    (storedLocations_distinct ids distinct) dicts found valid ids
    recomputed isBlob small path
  refine ⟨_, _, read_eq_ok.mpr ⟨_, _, _, shaped, rfl⟩, rfl, ?_, ?_, ?_, ?_⟩
  · rw [rebuiltSnapshot, recordedTime_stored, isCreated]
    rfl
  · exact (isConsistent.identified.identity_unique identified isEntries).1
  · exact (isConsistent.identified.identity_unique identified isEntries).2
  · intro id
    rw [lookup_stored (storedLocations_distinct ids distinct).2,
      lookup_storedLocations ids]
    split_ifs <;> rfl

/--
Reading after a write that returned restores the snapshot and the location
of each of its entries; a write that raised changed nothing.  The entries of
the snapshot come from the loader, and its locations are dicts.
-/
theorem cache_round_trip
    {entries : List CapabilityRegistryEntry} {initial : Option Fields}
    {createdUtc : Option Text} {minted : Text}
    {snapshot : ScientificCatalogSnapshot}
    (built : buildSnapshot entries initial createdUtc minted =
      .ok snapshot)
    (loaded : ∀ entry ∈ entries, ∃ raw, buildEntryFromRaw raw = .ok entry)
    (locations : Option (List (Text × Fields)))
    (distinct : (Json.obj (locationFields (locations.getD []))).Distinct)
    (fault : Option WriteFault) (now later path : Text)
    (files after : CacheFiles) :
    (write fault snapshot (locations.map locationFields) now files =
        (.ok ⟨⟩, after) →
      ∃ restored found,
        read path after.file later = .ok (some (restored, found)) ∧
          Restores snapshot (locationFields (locations.getD [])) restored
            found) ∧
      ∀ error,
        write fault snapshot (locations.map locationFields) now files =
            (.error error, after) →
          after.file = files.file := by
  obtain ⟨_, _, _, isEntries, _, identified, _⟩ :=
    buildSnapshot_eq_ok.mp built
  have valid : ∀ entry ∈ snapshot.entries, entry.Valid := by
    intro entry isEntry
    rw [isEntries, sortEntries, List.mem_insertionSort] at isEntry
    obtain ⟨raw, isRaw⟩ := loaded entry isEntry
    exact valid_of_buildEntryFromRaw isRaw
  constructor
  · intro returned
    obtain ⟨blob, encoded, isFile⟩ := write_eq_ok returned
    rw [isFile]
    have sameBlob : cacheBlob snapshot
        (some (locationFields (locations.getD []))) now = .ok blob := by
      cases locations <;> exact encoded
    exact read_of_cacheBlob distinct valid identified sameBlob path later
  · intro error refused
    exact write_eq_error refused

/-! ## Files of one entry -/

theorem algebraExact_valid : algebraExact.Valid where
  capabilityId := by decide
  profile := by decide
  adapterId := by simp [algebraExact]
  packManifestDigest := by simp [algebraExact, DigestShaped]
  platforms := by simp [algebraExact]
  measuredResources := by simp [algebraExact]
  licenseSpdx := by decide
  provenance := by simp [algebraExact, DigestShaped]
  admissionStage := by decide

/-- Bytes that fit into a cache file. -/
def fits : Except PyError Bytes → Bool
  | .ok blob => blob.length ≤ maxCacheBytes
  | .error _ => false

theorem exists_of_fits
    {encoded : Except PyError Bytes} (isFit : fits encoded = true) :
    ∃ blob, encoded = .ok blob ∧ ¬ maxCacheBytes < blob.length := by
  cases encoded with
  | ok blob =>
      exact ⟨blob, rfl, Nat.not_lt.mpr (of_decide_eq_true isFit)⟩
  | error _ => cases isFit

/-- A page of bytes is far below the ceiling. -/
theorem fits_of_page
    {encoded : Except PyError Bytes}
    (page : encoded.map (fun blob => (blob.drop 4096).isEmpty) =
      .ok true) :
    fits encoded = true := by
  cases encoded with
  | ok blob =>
      have short : (blob.drop 4096).isEmpty = true := Except.ok.inj page
      rw [List.isEmpty_iff, List.drop_eq_nil_iff] at short
      exact decide_eq_true (short.trans (by decide))
  | error _ => cases page

/-- The bytes of a cache file depend on the entries and the time alone. -/
theorem cacheBlob_congr
    {left right : ScientificCatalogSnapshot}
    (same : left.entries = right.entries ∧
      left.createdUtc = right.createdUtc)
    (locations : Option Fields) (now : Text) :
    cacheBlob left locations now = cacheBlob right locations now := by
  rw [cacheBlob, cacheBlob, same.1, same.2]

/-- The fields of the algebra snapshot that a cache file depends on. -/
def algebraFields : ScientificCatalogSnapshot where
  schemaVersion := []
  snapshotId := []
  createdUtc := text "2026-07-28T00:00:00Z"
  entries := [algebraExact]
  merkleRoot := []
  locationStateRef := []
  canonicalWrites := 0
  grantsAuthority := false

/-- A recorded state of the one entry. -/
def availableState : Fields :=
  [(text "state", .str (text "available"))]

theorem fits_oneState
    {state : Json} (isState : state = .obj availableState ∨ state = .arr []) :
    fits (cacheBlob algebraFields
      (some [(text "cap.algebra_exact", state)]) []) = true := by
  apply fits_of_page
  unfold cacheBlob cacheEnvelope buildSnapshot entriesRoot entryDigest
    identityBody locationRef ScientificCatalogSnapshot.toDict entryDicts
    CapabilityRegistryEntry.toDict Provenance.toDict algebraFields
    algebraExact cacheSchemaVersion snapshotSchemaVersion
  rw [objectId_eq_strict, sha256_eq_strict]
  rcases isState with rfl | rfl
  · unfold availableState
    simp -index only [text_ofList]
    decide +kernel
  · simp -index only [text_ofList]
    decide +kernel

/-- The write of the one entry returns. -/
theorem write_oneState
    {snapshot : ScientificCatalogSnapshot}
    (same : snapshot.entries = algebraFields.entries ∧
      snapshot.createdUtc = algebraFields.createdUtc)
    {state : Json} (isState : state = .obj availableState ∨ state = .arr []) :
    ∃ blob,
      cacheBlob algebraFields (some [(text "cap.algebra_exact", state)]) [] =
          .ok blob ∧
        write none snapshot (some [(text "cap.algebra_exact", state)]) []
          ⟨none, none⟩ = (.ok ⟨⟩, ⟨some blob, none⟩) := by
  obtain ⟨blob, encoded, _⟩ := exists_of_fits (fits_oneState isState)
  refine ⟨blob, encoded, ?_⟩
  rw [write, (cacheBlob_congr same _ []).trans encoded]
  rfl

/-- A recorded location is read back. -/
theorem cache_round_trip_algebra :
    ∃ snapshot after restored found,
      buildSnapshot [algebraExact] none
          (some (text "2026-07-28T00:00:00Z"))
          (text "2026-07-29T00:00:00Z") = .ok snapshot ∧
        write none snapshot
            (some (locationFields
              [(text "cap.algebra_exact", availableState)])) []
            ⟨none, none⟩ = (.ok ⟨⟩, after) ∧
        read (text "catalog.json") after.file [] =
            .ok (some (restored, found)) ∧
        Restores snapshot
          (locationFields [(text "cap.algebra_exact", availableState)])
          restored found := by
  obtain ⟨snapshot, isEntries, isCreated, built⟩ := exists_algebraSnapshot
  obtain ⟨_, _, written⟩ := write_oneState ⟨isEntries, isCreated⟩ (.inl rfl)
  obtain ⟨restored, found, isRead, restores⟩ := (cache_round_trip built
    (List.forall_mem_singleton.mpr
      ⟨_, buildEntryFromRaw_toDict algebraExact_valid⟩)
    (some [(text "cap.algebra_exact", availableState)])
    ⟨⟨⟨⟨trivial, trivial⟩, by decide⟩, trivial⟩, by decide⟩
    none [] [] (text "catalog.json") ⟨none, none⟩ _).1 written
  exact ⟨snapshot, _, restored, found, built, written, isRead, restores⟩

/-- A location state that is a list is written and not read back. -/
theorem list_state_not_read :
    ∃ snapshot blob,
      buildSnapshot [algebraExact] none
          (some (text "2026-07-28T00:00:00Z"))
          (text "2026-07-29T00:00:00Z") = .ok snapshot ∧
        write none snapshot (some [(text "cap.algebra_exact", .arr [])])
          [] ⟨none, none⟩ = (.ok ⟨⟩, ⟨some blob, none⟩) ∧
        ∀ path now restored found,
          read path (some blob) now ≠ .ok (some (restored, found)) := by
  obtain ⟨snapshot, isEntries, isCreated, built⟩ := exists_algebraSnapshot
  obtain ⟨blob, encoded, written⟩ :=
    write_oneState ⟨isEntries, isCreated⟩ (.inr rfl)
  refine ⟨snapshot, blob, built, written, ?_⟩
  intro path now restored found isRead
  obtain ⟨rebuilt, _, isEnvelope, small⟩ := cacheBlob_eq_ok.mp encoded
  obtain ⟨recorded, entries, identity, shaped, _⟩ := read_eq_ok.mp isRead
  have opened := openCache_dumps (snapshotDict_distinct rebuilt)
    (show (Json.obj [(text "cap.algebra_exact", .arr [])]).Distinct from
      ⟨⟨trivial, trivial⟩, List.nodup_singleton _⟩) isEnvelope small path
  have isMap : found = [(text "cap.algebra_exact", .arr [])] := by
    have same := shaped.opened.symm.trans opened
    exact congrArg Prod.snd (Except.ok.inj same)
  obtain ⟨copies, copied, copiedRef⟩ := shaped.copied
  have recomputed := shaped.recomputed
  rw [isMap] at copied recomputed
  cases copied
  simp only [recomputeIdentity, bind_eq_ok_iff, pure_eq_ok_iff]
    at recomputed
  obtain ⟨root, _, id, _, ref, isRef, rfl⟩ := recomputed
  have same := copiedRef.trans isRef.symm
  revert same
  decide +kernel

end ScientificResourceLab.Catalog
