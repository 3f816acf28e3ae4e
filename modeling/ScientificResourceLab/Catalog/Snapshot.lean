import ScientificResourceLab.Catalog.Registry
import ScientificResourceLab.Contracts.Encoding

/-!
# Catalog snapshots and their verification

`build_snapshot` of `srl.catalog.snapshot` and `verify_snapshot` of
`srl.catalog.verify`.  Both compute the order of the entries, a Merkle root
over the digests of the entries, the content address of the identity body
and the content address of the location map.

The builder refuses a capability id that occurs twice and the verifier does
not look for one.  So the two agree on a record unless it is consistent and
an id is repeated in it (`verify_iff_build`).
-/

namespace ScientificResourceLab.Catalog

open Python Contracts Steps

/-! ## Records -/

/-- `SNAPSHOT_SCHEMA_VERSION`. -/
def snapshotSchemaVersion : Text :=
  text "ScientificCatalogSnapshot/v1"

/-- `ScientificCatalogSnapshot`. -/
structure ScientificCatalogSnapshot where
  schemaVersion : Text
  snapshotId : Text
  createdUtc : Text
  entries : List CapabilityRegistryEntry
  merkleRoot : Text
  locationStateRef : Text
  canonicalWrites : Int
  grantsAuthority : Bool

def entryDicts (entries : List CapabilityRegistryEntry) : Json :=
  .arr (entries.map fun entry => .obj entry.toDict)

/-- `ScientificCatalogSnapshot.to_dict`. -/
def ScientificCatalogSnapshot.toDict
    (snapshot : ScientificCatalogSnapshot) : Fields :=
  [(text "schema_version", .str snapshot.schemaVersion),
    (text "snapshot_id", .str snapshot.snapshotId),
    (text "created_utc", .str snapshot.createdUtc),
    (text "entries", entryDicts snapshot.entries),
    (text "merkle_root", .str snapshot.merkleRoot),
    (text "location_state_ref", .str snapshot.locationStateRef),
    (text "canonical_writes", .int snapshot.canonicalWrites),
    (text "grants_authority", .bool snapshot.grantsAuthority)]

/-! ## Digests -/

/-- ASCII whitespace. -/
def isAsciiSpace (point : CodePoint) : Bool :=
  point.val = 32 || (9 ≤ point.val && point.val ≤ 13)

/-- `bytes.fromhex`, which skips whitespace between bytes. -/
def bytesFromHex : Text → Option Bytes
  | [] => some []
  | [point] => if isAsciiSpace point then some [] else none
  | first :: second :: rest =>
      if isAsciiSpace first then bytesFromHex (second :: rest)
      else do
        let high ← hexValue first
        let low ← hexValue second
        let tail ← bytesFromHex rest
        pure (byte (high * 16 + low) :: tail)

/-- `bytes.hex`. -/
def hexOfBytes (data : Bytes) : Text :=
  data.flatMap fun value =>
    [hexPoint (value.toNat / 16), hexPoint (value.toNat % 16)]

/-- A `SnapshotError`. -/
def snapshotError (message : Text) : PyError :=
  ⟨.snapshotError, message⟩

/-- `_parse_digest`. -/
def parseDigest (value : Text) : Except PyError Bytes := do
  refuseIf (objectIdPrefix.isPrefixOf value = false)
    (snapshotError (text "digest must be 'sha256:<hex>', got " ++
      quoted value))
  let hexPart := value.drop objectIdPrefix.length
  refuseIf (hexPart.length ≠ 64)
    (snapshotError (text "digest hex must be 64 characters, got " ++
      decimalText hexPart.length))
  match bytesFromHex hexPart with
  | some raw => pure raw
  | none => throw (snapshotError (text "digest " ++ quoted value ++
      text " is not valid hex"))

/-- `_format_digest`. -/
def formatDigest (raw : Bytes) : Text :=
  objectIdPrefix ++ hexOfBytes raw

/-- `_entry_digest`. -/
def entryDigest (entry : CapabilityRegistryEntry) :
    Except PyError Text := do
  let blob ← dumps (.obj entry.toDict)
  pure (objectIdPrefix ++ sha256 blob)

/-- The level above a level; a last node without a partner is doubled. -/
def nextLevel : List Bytes → List Bytes
  | left :: right :: rest => sha256Digest (left ++ right) :: nextLevel rest
  | [left] => [sha256Digest (left ++ left)]
  | [] => []

theorem nextLevel_length (level : List Bytes) :
    (nextLevel level).length = (level.length + 1) / 2 := by
  fun_induction nextLevel level with
  | case1 left right rest induction =>
      simp only [List.length_cons, induction]
      omega
  | case2 left => simp
  | case3 => rfl

/-- The node at the top of a tree over a level. -/
def treeTop : List Bytes → Bytes
  | [] => []
  | [top] => top
  | left :: right :: rest => treeTop (nextLevel (left :: right :: rest))
termination_by level => level.length
decreasing_by
  rw [nextLevel_length]
  simp only [List.length_cons]
  omega

/-- `_merkle_root`. -/
def merkleRoot (digests : List Text) : Except PyError Text :=
  match digests with
  | [] => .ok (formatDigest (sha256Digest []))
  | digests => do
      let level ← digests.mapM parseDigest
      pure (formatDigest (treeTop level))

/-! ## Building -/

/-- Entries ordered by their capability id. -/
def IdLe (left right : CapabilityRegistryEntry) : Prop :=
  left.capabilityId ≤ right.capabilityId

instance : DecidableRel IdLe := fun left right =>
  inferInstanceAs (Decidable (left.capabilityId ≤ right.capabilityId))

/-- `sorted(entries, key=lambda e: e.capability_id)`. -/
def sortEntries (entries : List CapabilityRegistryEntry) :
    List CapabilityRegistryEntry :=
  entries.insertionSort IdLe

/-- The loop of `build_snapshot` that looks for repeated ids. -/
def checkDistinct (seen : List Text) :
    List CapabilityRegistryEntry → Except PyError PUnit
  | [] => .ok ⟨⟩
  | entry :: rest => do
      refuseIf (entry.capabilityId ∈ seen)
        (snapshotError (text "duplicate capability_id in snapshot: " ++
          quoted entry.capabilityId))
      checkDistinct (entry.capabilityId :: seen) rest

/-- The state of a location that nobody recorded. -/
def unknownState : Json :=
  .obj [(text "state", .str (text "unknown"))]

/-- Every capability id mapped to the unknown state. -/
def unknownLocations (entries : List CapabilityRegistryEntry) : Fields :=
  Json.ofMembers (entries.map fun entry =>
    (entry.capabilityId, unknownState))

/-- A hashable value as a key. -/
def keyOf : Json → Except PyError PyKey
  | .null => .ok .none
  | .bool value => .ok (.bool value)
  | .int value => .ok (.int value)
  | .float value => .ok (.float value)
  | .str value => .ok (.str value)
  | .arr _ => .error (raised .typeError "unhashable type: 'list'")
  | .obj _ => .error (raised .typeError "unhashable type: 'dict'")

/-- One element of the sequence that `dict` reads. -/
def dictElement (index : Nat) (element : Json) :
    Except PyError (PyKey × Json) :=
  match element with
  | .arr [key, value] => (keyOf key).map (·, value)
  | .arr items => .error (wrongLength items.length)
  | .str [key, value] => .ok (.str [key], .str [value])
  | .str points => .error (wrongLength points.length)
  | .obj [(key, _), (value, _)] => .ok (.str key, .str value)
  | .obj members => .error (wrongLength members.length)
  | _ => .error ⟨.typeError,
      text "cannot convert dictionary update sequence element #" ++
        decimalText index ++ text " to a sequence"⟩
where
  wrongLength (length : Nat) : PyError :=
    ⟨.valueError,
      text "dictionary update sequence element #" ++ decimalText index ++
        text " has length " ++ decimalText length ++
        text "; 2 is required"⟩

/-- `==` on keys. -/
def sameKey (left right : PyKey) : Bool :=
  match left.form, right.form with
  | .none, .none => true
  | .int left, .int right => left = right
  | .float left, .float right => left = right
  | .str left, .str right => left = right
  | _, _ => false

/-- A dict with any hashable keys, as the copy of a location state. -/
abbrev StateCopy := List (PyKey × Json)

/-- `dict.__setitem__` with any key. -/
def setItem (key : PyKey) (value : Json) : StateCopy → StateCopy
  | [] => [(key, value)]
  | (name, old) :: rest =>
      if sameKey name key then (name, value) :: rest
      else (name, old) :: setItem key value rest

/-- `dict(state)`. -/
def dictOf (state : Json) : Except PyError StateCopy :=
  match state with
  | .obj members =>
      .ok (members.map fun member => (.str member.1, member.2))
  | .arr elements => do
      let pairs ← enumerateM dictElement 0 elements
      pure (pairs.foldl (fun copy pair => setItem pair.1 pair.2 copy) [])
  | .str [] => .ok []
  | .str _ => .error (raised .valueError
      "dictionary update sequence element #0 has length 1; 2 is required")
  | other => .error ⟨.typeError,
      quoted (typeName other) ++ text " object is not iterable"⟩

/-- `{cid: dict(state) for cid, state in locations.items()}`. -/
def copyLocations :
    Fields → Except PyError (List (Text × StateCopy))
  | [] => .ok []
  | (capabilityId, state) :: rest => do
      let copied ← dictOf state
      let others ← copyLocations rest
      pure ((capabilityId, copied) :: others)

/-- The location map that is taken. -/
def verifyLocations (entries : List CapabilityRegistryEntry) :
    Option Fields → Fields
  | none => unknownLocations entries
  | some locations => locations

/-- A map of copied states as a value that the encoder takes. -/
def mapObject (copies : List (Text × StateCopy)) : PyValue :=
  .dict (copies.map fun copy => (.str copy.1,
    .dict (copy.2.map fun member => (member.1, .ofJson member.2))))

/--
`_location_state_ref` of `srl.catalog.snapshot`; the values of the map are
dicts, so that it does not carry an object id of its own.
-/
def locationRef (copies : List (Text × StateCopy)) :
    Except PyError Text := do
  let blob ← dumpsValue (mapObject copies)
  pure (objectIdPrefix ++ sha256 blob)

def identityBody (entries : List CapabilityRegistryEntry)
    (merkleRoot : Text) : Json :=
  .obj
    [(text "schema_version", .str snapshotSchemaVersion),
      (text "entries", entryDicts entries),
      (text "merkle_root", .str merkleRoot),
      (text "canonical_writes", .int 0),
      (text "grants_authority", .bool false)]

/-- The Merkle root of some entries in their order. -/
def entriesRoot (entries : List CapabilityRegistryEntry) :
    Except PyError Text := do
  let digests ← entries.mapM entryDigest
  merkleRoot digests

/-- `build_snapshot`; `now` is the clock. -/
def buildSnapshot (entries : List CapabilityRegistryEntry)
    (locations : Option Fields) (createdUtc : Option Text) (now : Text) :
    Except PyError ScientificCatalogSnapshot := do
  let sorted := sortEntries entries
  checkDistinct [] sorted
  let root ← entriesRoot sorted
  let copies ← copyLocations (verifyLocations sorted locations)
  let locationStateRef ← locationRef copies
  let snapshotId ← objectId (identityBody sorted root)
  pure
    { schemaVersion := snapshotSchemaVersion
      snapshotId := snapshotId
      createdUtc := createdUtc.getD now
      entries := sorted
      merkleRoot := root
      locationStateRef := locationStateRef
      canonicalWrites := 0
      grantsAuthority := false }

/-! ## Verifying -/

/-- `SnapshotMismatchError`. -/
def mismatch (field : String) (recorded recomputed : Text) : PyError :=
  ⟨.snapshotMismatchError,
    text "snapshot " ++ quoted (text field) ++ text " mismatch: recorded " ++
      recorded ++ text " != recomputed " ++ recomputed⟩

/-- `_verify_fixed_tail`. -/
def verifyFixedTail (snapshot : ScientificCatalogSnapshot) :
    Except PyError PUnit := do
  refuseIf (snapshot.schemaVersion ≠ snapshotSchemaVersion)
    (mismatch "schema_version" (quoted snapshot.schemaVersion)
      (quoted snapshotSchemaVersion))
  refuseIf (snapshot.canonicalWrites ≠ 0)
    (mismatch "canonical_writes" (intText snapshot.canonicalWrites)
      (text "0"))
  refuseIf (snapshot.grantsAuthority ≠ false)
    (mismatch "grants_authority" (text "True") (text "False"))

def capabilityIds (entries : List CapabilityRegistryEntry) : List Text :=
  entries.map CapabilityRegistryEntry.capabilityId

/-- `verify_snapshot`. -/
def verifySnapshot (snapshot : ScientificCatalogSnapshot)
    (locations : Option Fields) : Except PyError PUnit := do
  verifyFixedTail snapshot
  let sorted := sortEntries snapshot.entries
  refuseIf (capabilityIds snapshot.entries ≠ capabilityIds sorted)
    (mismatch "entries_order"
      (quotedList (capabilityIds snapshot.entries))
      (quotedList (capabilityIds sorted)))
  let root ← entriesRoot sorted
  refuseIf (root ≠ snapshot.merkleRoot)
    (mismatch "merkle_root" (quoted snapshot.merkleRoot) (quoted root))
  let snapshotId ← objectId (identityBody sorted root)
  refuseIf (snapshotId ≠ snapshot.snapshotId)
    (mismatch "snapshot_id" (quoted snapshot.snapshotId)
      (quoted snapshotId))
  let locationStateRef ←
    objectId (.obj (verifyLocations sorted locations))
  refuseIf (locationStateRef ≠ snapshot.locationStateRef)
    (mismatch "location_state_ref" (quoted snapshot.locationStateRef)
      (quoted locationStateRef))

/-! ## What the two accept -/

/-- A location map of dicts, as a dict of JSON values. -/
def locationFields (locations : List (Text × Fields)) : Fields :=
  locations.map fun location => (location.1, .obj location.2)

/-- A record whose fields are those computed from its entries. -/
structure Consistent (snapshot : ScientificCatalogSnapshot)
    (locations : Option Fields) : Prop where
  schemaVersion : snapshot.schemaVersion = snapshotSchemaVersion
  canonicalWrites : snapshot.canonicalWrites = 0
  grantsAuthority : snapshot.grantsAuthority = false
  ordered : snapshot.entries.Pairwise IdLe
  merkleRoot : entriesRoot snapshot.entries = .ok snapshot.merkleRoot
  snapshotId : objectId (identityBody snapshot.entries
    snapshot.merkleRoot) = .ok snapshot.snapshotId
  locationStateRef : objectId (.obj
    (verifyLocations snapshot.entries locations)) =
      .ok snapshot.locationStateRef

/-- A record whose fields are those computed from its entries, but for the
location map. -/
structure Identified (snapshot : ScientificCatalogSnapshot) : Prop where
  schemaVersion : snapshot.schemaVersion = snapshotSchemaVersion
  canonicalWrites : snapshot.canonicalWrites = 0
  grantsAuthority : snapshot.grantsAuthority = false
  ordered : snapshot.entries.Pairwise IdLe
  merkleRoot : entriesRoot snapshot.entries = .ok snapshot.merkleRoot
  snapshotId : objectId (identityBody snapshot.entries
    snapshot.merkleRoot) = .ok snapshot.snapshotId

theorem Consistent.identified
    {snapshot : ScientificCatalogSnapshot} {locations : Option Fields}
    (consistent : Consistent snapshot locations) : Identified snapshot :=
  ⟨consistent.schemaVersion, consistent.canonicalWrites,
    consistent.grantsAuthority, consistent.ordered, consistent.merkleRoot,
    consistent.snapshotId⟩

theorem Identified.consistent
    {snapshot : ScientificCatalogSnapshot} {locations : Option Fields}
    (identified : Identified snapshot)
    (isRef : objectId (.obj
      (verifyLocations snapshot.entries locations)) =
        .ok snapshot.locationStateRef) : Consistent snapshot locations :=
  ⟨identified.schemaVersion, identified.canonicalWrites,
    identified.grantsAuthority, identified.ordered, identified.merkleRoot,
    identified.snapshotId, isRef⟩

instance : Std.Total IdLe where
  total left right := le_total left.capabilityId right.capabilityId

instance : IsTrans CapabilityRegistryEntry IdLe where
  trans _ _ _ first second := le_trans (α := Text) first second

theorem sortEntries_of_ordered
    {entries : List CapabilityRegistryEntry}
    (ordered : entries.Pairwise IdLe) : sortEntries entries = entries :=
  ordered.insertionSort_eq

theorem ordered_sortEntries (entries : List CapabilityRegistryEntry) :
    (sortEntries entries).Pairwise IdLe :=
  List.pairwise_insertionSort IdLe entries

/-- The verifier's comparison of ids says that the entries are in order. -/
theorem capabilityIds_sortEntries
    {entries : List CapabilityRegistryEntry} :
    capabilityIds entries = capabilityIds (sortEntries entries) ↔
      entries.Pairwise IdLe := by
  constructor
  · intro same
    have ids : (capabilityIds (sortEntries entries)).Pairwise (· ≤ ·) :=
      List.pairwise_map.mpr (ordered_sortEntries entries)
    rw [← same, capabilityIds, List.pairwise_map] at ids
    exact ids
  · intro ordered
    rw [sortEntries_of_ordered ordered]

/-- The verifier returns on consistent records. -/
theorem verifySnapshot_eq_ok
    {snapshot : ScientificCatalogSnapshot} {locations : Option Fields} :
    verifySnapshot snapshot locations = .ok ⟨⟩ ↔
      Consistent snapshot locations := by
  simp only [verifySnapshot, verifyFixedTail, bind_eq_ok_iff,
    refuseIf_eq_ok_iff, not_not, capabilityIds_sortEntries]
  constructor
  · rintro ⟨_, ⟨_, version, _, writes, authority⟩, _, ordered, root,
      isRoot, _, rfl, id, isId, _, rfl, ref, isRef, rfl⟩
    rw [sortEntries_of_ordered ordered] at isRoot isId isRef
    exact ⟨version, writes, authority, ordered, isRoot, isId, isRef⟩
  · intro consistent
    rw [sortEntries_of_ordered consistent.ordered]
    exact ⟨⟨⟩, ⟨⟨⟩, consistent.schemaVersion, ⟨⟩,
      consistent.canonicalWrites, consistent.grantsAuthority⟩, ⟨⟩,
      consistent.ordered, _, consistent.merkleRoot, ⟨⟩, rfl, _,
      consistent.snapshotId, ⟨⟩, rfl, _, consistent.locationStateRef,
      rfl⟩

theorem checkDistinct_eq_ok
    {seen : List Text} {entries : List CapabilityRegistryEntry}
    {result : PUnit} :
    checkDistinct seen entries = .ok result ↔
      (capabilityIds entries).Nodup ∧
        ∀ id ∈ capabilityIds entries, id ∉ seen := by
  induction entries generalizing seen with
  | nil => simp [checkDistinct, capabilityIds]
  | cons entry rest induction =>
      simp only [checkDistinct, bind_eq_ok_iff, refuseIf_eq_ok_iff,
        induction, capabilityIds, List.map_cons, List.nodup_cons,
        List.forall_mem_cons]
      constructor
      · rintro ⟨_, unseen, distinct, others⟩
        refine ⟨⟨?_, distinct⟩, unseen, ?_⟩
        · intro again
          exact others _ again List.mem_cons_self
        · intro id isId inSeen
          exact others id isId (List.mem_cons_of_mem _ inSeen)
      · rintro ⟨⟨notAgain, distinct⟩, unseen, others⟩
        refine ⟨⟨⟩, unseen, distinct, ?_⟩
        intro id isId inSeen
        rcases List.mem_cons.mp inSeen with rfl | before
        · exact notAgain isId
        · exact others id isId before

theorem nodup_sortEntries {entries : List CapabilityRegistryEntry} :
    (capabilityIds (sortEntries entries)).Nodup ↔
      (capabilityIds entries).Nodup :=
  ((List.perm_insertionSort IdLe entries).map _).nodup_iff

/-- Every location state is a dict. -/
def DictStates (locations : Fields) : Prop :=
  ∀ location ∈ locations, ∃ members, location.2 = .obj members

def copyOfDict : Json → StateCopy
  | .obj members => members.map fun member => (.str member.1, member.2)
  | _ => []

/-- Dicts are copied. -/
theorem copyLocations_of_dicts
    {locations : Fields} (dicts : DictStates locations) :
    copyLocations locations =
      .ok (locations.map fun location =>
        (location.1, copyOfDict location.2)) := by
  induction locations with
  | nil => rfl
  | cons location rest induction =>
      obtain ⟨id, state⟩ := location
      obtain ⟨members, isDict⟩ := dicts _ List.mem_cons_self
      cases isDict
      simp only [copyLocations, bind_eq_ok_iff, pure_eq_ok_iff]
      exact ⟨_, rfl, _, induction fun other isLocation =>
        dicts other (List.mem_cons_of_mem _ isLocation), rfl⟩

theorem mapObject_of_dicts
    {locations : Fields} (dicts : DictStates locations) :
    mapObject (locations.map fun location =>
      (location.1, copyOfDict location.2)) = .ofJson (.obj locations) := by
  rw [mapObject, PyValue.ofJson, ofJsonMembers_eq_map, List.map_map]
  congr 1
  apply List.map_congr_left
  intro location isLocation
  obtain ⟨members, isDict⟩ := dicts location isLocation
  simp only [Function.comp_apply, isDict, copyOfDict, PyValue.ofJson,
    ofJsonMembers_eq_map, List.map_map]
  rfl

theorem ownObjectId_of_dicts
    {locations : Fields} (dicts : DictStates locations) :
    ownObjectId (.obj locations) = none := by
  simp only [ownObjectId]
  split
  · next existing found =>
      obtain ⟨members, isDict⟩ :=
        dicts (objectIdField, .str existing) (Json.mem_of_lookup found)
      cases isDict
  · rfl

/-- The copies of dicts have the content address of the dicts. -/
theorem locationRef_of_dicts
    {locations : Fields} (dicts : DictStates locations) :
    locationRef (locations.map fun location =>
      (location.1, copyOfDict location.2)) =
        objectId (.obj locations) := by
  rw [locationRef, mapObject_of_dicts dicts,
    dumpsValue_eq (jsonable_ofJson _), toJson_ofJson, objectId,
    ownObjectId_of_dicts dicts]

theorem dictStates_locationFields (locations : List (Text × Fields)) :
    DictStates (locationFields locations) := by
  intro location isLocation
  obtain ⟨origin, -, rfl⟩ := List.mem_map.mp isLocation
  exact ⟨origin.2, rfl⟩

theorem dictStates_unknownLocations
    (entries : List CapabilityRegistryEntry) :
    DictStates (unknownLocations entries) := by
  rintro ⟨id, state⟩ isLocation
  have found := (Json.lookup_eq_some_iff
    (ofMembers_nodup _)).mpr isLocation
  obtain ⟨entry, -, same⟩ :=
    List.mem_map.mp (mem_of_lookup_ofMembers found)
  cases same
  exact ⟨_, rfl⟩

theorem dictStates_verifyLocations
    (entries : List CapabilityRegistryEntry)
    (locations : Option (List (Text × Fields))) :
    DictStates
      (verifyLocations entries (locations.map locationFields)) := by
  cases locations with
  | none => exact dictStates_unknownLocations entries
  | some locations => exact dictStates_locationFields locations

/-- What the builder returns. -/
theorem buildSnapshot_eq_ok
    {entries : List CapabilityRegistryEntry} {locations : Option Fields}
    {createdUtc : Option Text} {now : Text}
    {snapshot : ScientificCatalogSnapshot} :
    buildSnapshot entries locations createdUtc now = .ok snapshot ↔
      (capabilityIds entries).Nodup ∧
        ∃ copies,
          copyLocations (verifyLocations (sortEntries entries) locations) =
              .ok copies ∧
            snapshot.entries = sortEntries entries ∧
            snapshot.createdUtc = createdUtc.getD now ∧
            Identified snapshot ∧
            locationRef copies = .ok snapshot.locationStateRef := by
  simp only [buildSnapshot, bind_eq_ok_iff, pure_eq_ok_iff,
    checkDistinct_eq_ok, nodup_sortEntries]
  constructor
  · rintro ⟨_, ⟨distinct, _⟩, root, isRoot, map, isMap, ref, isRef, id,
      isId, rfl⟩
    exact ⟨distinct, map, isMap, rfl, rfl,
      ⟨rfl, rfl, rfl, ordered_sortEntries entries, isRoot, isId⟩, isRef⟩
  · rintro ⟨distinct, map, isMap, isEntries, isCreated, identified,
      isRef⟩
    have isRoot := identified.merkleRoot
    have isId := identified.snapshotId
    rw [isEntries] at isRoot isId
    refine ⟨⟨⟩, ⟨distinct, by simp⟩, _, isRoot, map, isMap, _, isRef, _,
      isId, ?_⟩
    obtain ⟨version, id, created, stored, root, ref, writes, authority⟩ :=
      snapshot
    simp only [ScientificCatalogSnapshot.mk.injEq]
    exact ⟨identified.schemaVersion.symm, trivial, isCreated.symm,
      isEntries.symm, trivial, trivial, identified.canonicalWrites.symm,
      identified.grantsAuthority.symm⟩

/-- What the builder returns on location states that are dicts. -/
theorem buildSnapshot_dicts_eq_ok
    {entries : List CapabilityRegistryEntry} {locations : Option Fields}
    {createdUtc : Option Text} {now : Text}
    {snapshot : ScientificCatalogSnapshot}
    (dicts : DictStates
      (verifyLocations (sortEntries entries) locations)) :
    buildSnapshot entries locations createdUtc now = .ok snapshot ↔
      (capabilityIds entries).Nodup ∧
        snapshot.entries = sortEntries entries ∧
        snapshot.createdUtc = createdUtc.getD now ∧
        Consistent snapshot
          (some (verifyLocations (sortEntries entries) locations)) := by
  rw [buildSnapshot_eq_ok, copyLocations_of_dicts dicts]
  simp only [Except.ok.injEq, exists_eq_left']
  rw [locationRef_of_dicts dicts]
  refine and_congr_right fun _ => and_congr_right fun _ =>
    and_congr_right fun _ => ?_
  constructor
  · rintro ⟨identified, isRef⟩
    exact identified.consistent isRef
  · intro consistent
    exact ⟨consistent.identified, consistent.locationStateRef⟩

/-- An explicit map in place of the one that is taken. -/
theorem consistent_verifyLocations
    {snapshot : ScientificCatalogSnapshot} {locations : Option Fields} :
    Consistent snapshot
        (some (verifyLocations snapshot.entries locations)) ↔
      Consistent snapshot locations :=
  ⟨fun consistent => { consistent with
      locationStateRef := consistent.locationStateRef },
    fun consistent => { consistent with
      locationStateRef := consistent.locationStateRef }⟩

/-- The builder returns a record on its own entries. -/
theorem buildSnapshot_self
    {snapshot : ScientificCatalogSnapshot}
    {locations : Option (List (Text × Fields))} {now : Text} :
    buildSnapshot snapshot.entries (locations.map locationFields)
        (some snapshot.createdUtc) now = .ok snapshot ↔
      (capabilityIds snapshot.entries).Nodup ∧
        Consistent snapshot (locations.map locationFields) := by
  rw [buildSnapshot_dicts_eq_ok (dictStates_verifyLocations _ _)]
  simp only [Option.getD_some, true_and]
  refine and_congr_right fun _ => ?_
  constructor
  · rintro ⟨sorted, consistent⟩
    rwa [← sorted, consistent_verifyLocations] at consistent
  · intro consistent
    have sorted := sortEntries_of_ordered consistent.ordered
    rw [sorted, consistent_verifyLocations]
    exact ⟨rfl, consistent⟩

/--
The verifier accepts exactly what the builder returns, unless the record is
consistent and repeats a capability id.
-/
theorem verify_iff_build
    (snapshot : ScientificCatalogSnapshot)
    (locations : Option (List (Text × Fields))) (now : Text) :
    (verifySnapshot snapshot (locations.map locationFields) = .ok ⟨⟩ ↔
        buildSnapshot snapshot.entries (locations.map locationFields)
          (some snapshot.createdUtc) now = .ok snapshot) ↔
      ((capabilityIds snapshot.entries).Nodup ∨
        ¬ Consistent snapshot (locations.map locationFields)) := by
  rw [verifySnapshot_eq_ok, buildSnapshot_self]
  tauto

/-! ## Entries that can be sealed -/

theorem hexValue_isLowerHex
    {point : CodePoint} (isHex : CodePoint.isLowerHex point = true) :
    isAsciiSpace point = false ∧ ∃ value, hexValue point = some value := by
  simp only [CodePoint.isLowerHex, CodePoint.isDigit, Bool.or_eq_true,
    Bool.and_eq_true, decide_eq_true_eq] at isHex
  constructor
  · simp only [isAsciiSpace, Bool.or_eq_false_iff, decide_eq_false_iff_not,
      Bool.and_eq_false_imp, decide_eq_true_eq]
    omega
  · unfold hexValue
    rcases isHex with digit | letter
    · exact ⟨_, if_pos digit⟩
    · refine ⟨_, (if_neg ?_).trans (if_pos letter)⟩
      omega

/-- An even number of hexadecimal digits is read. -/
theorem bytesFromHex_isLowerHex
    (count : Nat) {digits : Text} (length : digits.length = 2 * count)
    (areHex : ∀ point ∈ digits, CodePoint.isLowerHex point = true) :
    ∃ data, bytesFromHex digits = some data := by
  induction count generalizing digits with
  | zero =>
      rw [List.length_eq_zero_iff.mp length]
      exact ⟨[], rfl⟩
  | succ count induction =>
      match digits with
      | [] => cases length
      | [_] =>
          simp only [List.length_cons, List.length_nil] at length
          omega
      | first :: second :: rest =>
          obtain ⟨notSpace, high, isHigh⟩ :=
            hexValue_isLowerHex (areHex first (by simp))
          obtain ⟨_, low, isLow⟩ :=
            hexValue_isLowerHex (areHex second (by simp))
          simp only [List.length_cons] at length
          have half : rest.length = 2 * count := by omega
          obtain ⟨tail, isTail⟩ := induction half fun point isPoint =>
            areHex point
              (List.mem_cons_of_mem _ (List.mem_cons_of_mem _ isPoint))
          refine ⟨byte (high * 16 + low) :: tail, ?_⟩
          rw [bytesFromHex, notSpace, isHigh, isLow, isTail]
          rfl

theorem parseDigest_sha256 (content : Bytes) :
    ∃ raw, parseDigest (objectIdPrefix ++ sha256 content) = .ok raw := by
  obtain ⟨length, areHex⟩ := sha256_hex content
  obtain ⟨raw, isRaw⟩ := bytesFromHex_isLowerHex 32 length areHex
  have isPrefix : objectIdPrefix.isPrefixOf
      (objectIdPrefix ++ sha256 content) = true :=
    List.isPrefixOf_iff_prefix.mpr (List.prefix_append _ _)
  refine ⟨raw, ?_⟩
  simp only [parseDigest, bind_eq_ok_iff, refuseIf_eq_ok_iff, isPrefix,
    List.drop_left, length, isRaw]
  exact ⟨⟨⟩, by simp, ⟨⟩, by simp, rfl⟩

theorem entriesRoot_returns
    {entries : List CapabilityRegistryEntry}
    (writable : ∀ entry ∈ entries, Writable (.obj entry.toDict)) :
    ∃ root, entriesRoot entries = .ok (formatDigest root) := by
  have digest : ∀ entry ∈ entries, ∃ blob,
      entryDigest entry = .ok (objectIdPrefix ++ sha256 blob) := by
    intro entry isEntry
    obtain ⟨blob, encoded⟩ := dumps_of_writable (writable entry isEntry)
    refine ⟨blob, ?_⟩
    simp only [entryDigest, bind_eq_ok_iff, pure_eq_ok_iff]
    exact ⟨blob, encoded, rfl⟩
  obtain ⟨digests, isDigests⟩ := mapM_ok_of_forall fun entry isEntry => by
    obtain ⟨_, returned⟩ := digest entry isEntry
    exact ⟨_, returned⟩
  have parsed : ∀ value ∈ digests, ∃ raw, parseDigest value = .ok raw := by
    intro value isValue
    obtain ⟨entry, isEntry, returned⟩ :=
      (mapM_eq_ok isDigests).2 value isValue
    obtain ⟨blob, isDigest⟩ := digest entry isEntry
    rw [isDigest] at returned
    cases returned
    exact parseDigest_sha256 blob
  obtain ⟨level, isLevel⟩ := mapM_ok_of_forall parsed
  cases digests with
  | nil =>
      refine ⟨sha256Digest [], ?_⟩
      simp only [entriesRoot, bind_eq_ok_iff]
      exact ⟨[], isDigests, rfl⟩
  | cons first rest =>
      refine ⟨treeTop level, ?_⟩
      simp only [entriesRoot, bind_eq_ok_iff]
      refine ⟨first :: rest, isDigests, ?_⟩
      simp only [merkleRoot, bind_eq_ok_iff, pure_eq_ok_iff]
      exact ⟨level, isLevel, rfl⟩

theorem entryDigest_returns_iff {entry : CapabilityRegistryEntry} :
    (∃ digest, entryDigest entry = .ok digest) ↔
      Writable (.obj entry.toDict) := by
  simp only [entryDigest, bind_eq_ok_iff, pure_eq_ok_iff]
  constructor
  · rintro ⟨_, blob, encoded, -⟩
    exact writable_of_dumps encoded
  · intro writable
    obtain ⟨blob, encoded⟩ := dumps_of_writable writable
    exact ⟨_, blob, encoded, rfl⟩

theorem entriesRoot_returns_iff
    {entries : List CapabilityRegistryEntry} :
    (∃ root, entriesRoot entries = .ok root) ↔
      ∀ entry ∈ entries, Writable (.obj entry.toDict) := by
  constructor
  · rintro ⟨root, isRoot⟩ entry isEntry
    simp only [entriesRoot, bind_eq_ok_iff] at isRoot
    obtain ⟨digests, areDigests, -⟩ := isRoot
    obtain ⟨digest, -, isDigest⟩ := (mapM_eq_ok areDigests).1 entry isEntry
    exact entryDigest_returns_iff.mp ⟨digest, isDigest⟩
  · intro writable
    obtain ⟨root, isRoot⟩ := entriesRoot_returns writable
    exact ⟨_, isRoot⟩

theorem scalars_formatDigest (raw : Bytes) :
    Scalars (formatDigest raw) := by
  refine scalars_append.mpr ⟨scalars_text _, ?_⟩
  intro point isPoint
  obtain ⟨value, _, inPair⟩ := List.mem_flatMap.mp isPoint
  have bound : value.toNat < 256 := value.toNat_lt
  refine scalars_hexPoints [value.toNat / 16, value.toNat % 16] ?_ point
    inPair
  simp only [List.mem_cons, List.not_mem_nil, or_false, forall_eq_or_imp,
    forall_eq]
  omega

theorem writable_entryDicts
    {entries : List CapabilityRegistryEntry}
    (writable : ∀ entry ∈ entries, Writable (.obj entry.toDict)) :
    Writable (entryDicts entries) := by
  have items : ∀ others : List CapabilityRegistryEntry,
      (∀ entry ∈ others, Writable (.obj entry.toDict)) →
        WritableItems (others.map fun entry => .obj entry.toDict) := by
    intro others each
    induction others with
    | nil => trivial
    | cons entry rest induction =>
        exact ⟨each entry List.mem_cons_self,
          induction fun other isEntry =>
            each other (List.mem_cons_of_mem _ isEntry)⟩
  exact items entries writable

theorem writable_identityBody
    {entries : List CapabilityRegistryEntry}
    (writable : ∀ entry ∈ entries, Writable (.obj entry.toDict))
    {root : Text} (scalars : Scalars root) :
    Writable (identityBody entries root) := by
  have zero : Writable (.int 0) := by
    rw [Writable]
    decide
  exact ⟨scalars_text _, scalars_text _, scalars_text _,
    writable_entryDicts writable, scalars_text _, scalars, scalars_text _,
    zero, scalars_text _, trivial, trivial⟩

theorem exists_consistent
    {entries : List CapabilityRegistryEntry}
    (ordered : entries.Pairwise IdLe)
    (writable : ∀ entry ∈ entries, Writable (.obj entry.toDict))
    {locations : Option Fields}
    (noOwn : ownObjectId (.obj (verifyLocations entries locations)) = none)
    (mapWritable : Writable (.obj (verifyLocations entries locations)))
    (createdUtc : Text) :
    ∃ snapshot : ScientificCatalogSnapshot,
      snapshot.entries = entries ∧ snapshot.createdUtc = createdUtc ∧
        Consistent snapshot locations := by
  obtain ⟨root, isRoot⟩ := entriesRoot_returns writable
  obtain ⟨idBlob, isId⟩ := objectId_returns
    (show ownObjectId (identityBody entries (formatDigest root)) = none
      from rfl)
    (writable_identityBody writable (scalars_formatDigest root))
  obtain ⟨refBlob, isRef⟩ := objectId_returns noOwn mapWritable
  exact
    ⟨⟨snapshotSchemaVersion, _, createdUtc, entries, _, _, 0, false⟩, rfl,
      rfl, rfl, rfl, rfl, ordered, isRoot, isId, isRef⟩

/-! ## A repeated id -/

/-- The first entry of the packaged seed. -/
def algebraExact : CapabilityRegistryEntry where
  capabilityId := text "cap.algebra_exact"
  profile := text "algebra_exact"
  adapterId := none
  packManifestDigest := none
  platforms := []
  measuredResources := none
  licenseSpdx := text "NOASSERTION"
  provenance := ⟨none, none⟩
  admissionStage := text "not_admitted"

theorem algebraExact_writable : Writable (.obj algebraExact.toDict) :=
  ⟨scalars_text _, scalars_text _, scalars_text _, scalars_text _,
    scalars_text _, trivial, scalars_text _, trivial, scalars_text _,
    trivial, scalars_text _, trivial, scalars_text _, scalars_text _,
    scalars_text _, ⟨scalars_text _, trivial, scalars_text _, trivial,
      trivial⟩, scalars_text _, scalars_text _, trivial⟩

/-- A snapshot of the one entry is built. -/
theorem exists_algebraSnapshot :
    ∃ snapshot, snapshot.entries = [algebraExact] ∧
      snapshot.createdUtc = text "2026-07-28T00:00:00Z" ∧
      buildSnapshot [algebraExact] none
          (some (text "2026-07-28T00:00:00Z"))
          (text "2026-07-29T00:00:00Z") = .ok snapshot := by
  obtain ⟨snapshot, isEntries, isCreated, consistent⟩ := exists_consistent
    (List.pairwise_singleton IdLe algebraExact)
    (List.forall_mem_singleton.mpr algebraExact_writable)
    (show ownObjectId (.obj (verifyLocations [algebraExact] none)) = none
      by decide)
    ⟨scalars_text _, ⟨scalars_text _, scalars_text _, trivial⟩, trivial⟩
    (text "2026-07-28T00:00:00Z")
  refine ⟨snapshot, isEntries, isCreated, ?_⟩
  have taken := consistent_verifyLocations.mpr consistent
  rw [isEntries] at taken
  exact (buildSnapshot_dicts_eq_ok
    (dictStates_verifyLocations _ none)).mpr
      ⟨List.nodup_singleton _, isEntries, isCreated, taken⟩

/-- A record with the same entry twice, which only the verifier accepts. -/
theorem verify_accepts_repeated :
    ∃ snapshot : ScientificCatalogSnapshot,
      snapshot.entries = [algebraExact, algebraExact] ∧
        verifySnapshot snapshot none = .ok ⟨⟩ ∧
        buildSnapshot snapshot.entries none (some snapshot.createdUtc)
            (text "2026-07-29T00:00:00Z") =
          .error (snapshotError (text
            "duplicate capability_id in snapshot: 'cap.algebra_exact'")) := by
  have writable : ∀ entry ∈ [algebraExact, algebraExact],
      Writable (.obj entry.toDict) := by
    intro entry isEntry
    have same : entry = algebraExact := by simpa using isEntry
    rw [same]
    exact algebraExact_writable
  have mapWritable : Writable (.obj
      (verifyLocations [algebraExact, algebraExact] none)) :=
    ⟨scalars_text _, ⟨scalars_text _, scalars_text _, trivial⟩, trivial⟩
  obtain ⟨snapshot, isEntries, isCreated, consistent⟩ := exists_consistent
    (by simp [IdLe]) writable (by decide) mapWritable
    (text "2026-07-28T00:00:00Z")
  refine ⟨snapshot, isEntries, verifySnapshot_eq_ok.mpr consistent, ?_⟩
  rw [isEntries]
  rfl

end ScientificResourceLab.Catalog
