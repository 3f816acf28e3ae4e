import ScientificResourceLab.Catalog.Snapshot
import ScientificResourceLab.Graphs.MerkleTree
import Mathlib.Algebra.Order.BigOperators.Group.List

/-!
# What the Merkle root of a catalog commits to

The Merkle root of a snapshot is the root of the tree over the canonical
forms of its entries.  The tree does not tell leaves from inner nodes and
doubles the last node of an odd level; but entries have distinct ids, and the
canonical form of an entry is longer than a pair of digests.  So equal roots
come from equal entries or from a collision of the hash.

The entries that are stored, the root and the snapshot id depend neither on
the order in which the entries were given nor on the time and the locations.
-/

namespace ScientificResourceLab.Catalog

open Python Contracts Steps
open Graphs

/-! ## Entries from their canonical form -/

theorem getOrNone_congr
    {left right : Fields} (same : stored left = stored right)
    (leftDistinct : (left.map Prod.fst).Nodup)
    (rightDistinct : (right.map Prod.fst).Nodup)
    {key : Text} {first second : Json}
    (isFirst : Json.lookup key left = some first)
    (isSecond : Json.lookup key right = some second) :
    first.sorted = second.sorted := by
  rw [← getOrNone_stored leftDistinct isFirst rfl,
    ← getOrNone_stored rightDistinct isSecond rfl, same]

theorem optionalText_injective : Function.Injective optionalText := by
  intro left right same
  cases left <;> cases right <;> cases same <;> rfl

theorem platform_eq_of_sorted
    {left right : PlatformSpec}
    (same : Json.sorted (.obj left.toDict) =
      Json.sorted (.obj right.toDict)) : left = right := by
  have built := buildPlatform_sorted left 0
  rw [same, buildPlatform_sorted right 0] at built
  simp only [Except.ok.injEq, RawPlatform.mk.injEq, Json.str.injEq]
    at built
  cases left
  cases right
  simp_all

theorem provenance_eq_of_sorted
    {left right : Provenance}
    (same : Json.sorted (.obj left.toDict) =
      Json.sorted (.obj right.toDict)) : left = right := by
  have built := buildProvenance_sorted left
  rw [same, buildProvenance_sorted right] at built
  simp only [Except.ok.injEq, RawProvenance.mk.injEq] at built
  obtain ⟨url, digest⟩ := built
  have sameDigest := optionalText_injective digest
  cases left
  cases right
  simp_all

theorem seconds_toJson_injective : Function.Injective Seconds.toJson := by
  intro left right same
  cases left <;> cases right <;> cases same <;> rfl

theorem measured_eq_of_sorted
    {left right : Option MeasuredResources}
    (same : (optionalMeasured left).sorted =
      (optionalMeasured right).sorted) : left = right := by
  have built := buildMeasuredResources_sorted left
  rw [same, buildMeasuredResources_sorted right] at built
  have raw := Except.ok.inj built
  cases left with
  | none =>
      cases right with
      | none => rfl
      | some right => cases raw
  | some left =>
      cases right with
      | none => cases raw
      | some right =>
          simp only [Option.map_some, Option.some.injEq,
            MeasuredResources.raw, RawMeasured.mk.injEq,
            Json.int.injEq] at raw
          obtain ⟨expanded, rss, seconds⟩ := raw
          have sameSeconds := seconds_toJson_injective seconds
          cases left
          cases right
          simp_all

/-- The dict of an entry, in the order of its keys, determines the entry. -/
theorem entry_eq_of_sorted
    {left right : CapabilityRegistryEntry}
    (same : Json.sorted (.obj left.toDict) =
      Json.sorted (.obj right.toDict)) : left = right := by
  rw [sorted_obj, sorted_obj, Json.obj.injEq] at same
  have field : ∀ {key : Text} {first second : Json},
      Json.lookup key left.toDict = some first →
      Json.lookup key right.toDict = some second →
      first.sorted = second.sorted :=
    fun isFirst isSecond => getOrNone_congr same
      (toDict_keys_nodup left) (toDict_keys_nodup right) isFirst isSecond
  have capabilityId := @field (text "capability_id") _ _ rfl rfl
  have profile := @field (text "profile") _ _ rfl rfl
  have adapterId := @field (text "adapter_id") _ _ rfl rfl
  have packManifestDigest :=
    @field (text "pack_manifest_digest") _ _ rfl rfl
  have platforms := @field (text "platforms") _ _ rfl rfl
  have measured := @field (text "measured_resources") _ _ rfl rfl
  have licenseSpdx := @field (text "license_spdx") _ _ rfl rfl
  have provenance := @field (text "provenance") _ _ rfl rfl
  have admissionStage := @field (text "admission_stage") _ _ rfl rfl
  have samePlatforms : left.platforms = right.platforms := by
    rw [Json.sorted, Json.sorted, Json.arr.injEq, sortedItems_eq_map,
      sortedItems_eq_map, List.map_map, List.map_map] at platforms
    have injective : Function.Injective fun platform : PlatformSpec =>
        Json.sorted (.obj platform.toDict) :=
      fun _ _ same => platform_eq_of_sorted same
    exact injective.list_map platforms
  rw [optionalText_sorted, optionalText_sorted]
    at adapterId packManifestDigest
  have sameAdapter := optionalText_injective adapterId
  have sameDigest := optionalText_injective packManifestDigest
  have sameMeasured := measured_eq_of_sorted measured
  have sameProvenance := provenance_eq_of_sorted provenance
  cases left
  cases right
  simp only [Json.sorted, Json.str.injEq]
    at capabilityId profile licenseSpdx admissionStage
  simp_all

/-- The canonical form of an entry determines the entry. -/
theorem entry_eq_of_dumps
    {left right : CapabilityRegistryEntry} {blob : Bytes}
    (fromLeft : dumps (.obj left.toDict) = .ok blob)
    (fromRight : dumps (.obj right.toDict) = .ok blob) :
    left = right := by
  have readLeft := loads_dumps_sorted (toDict_distinct left) fromLeft
  have readRight := loads_dumps_sorted (toDict_distinct right) fromRight
  rw [readLeft] at readRight
  exact entry_eq_of_sorted (Except.ok.inj readRight)

/-! ## The length of the canonical form -/

theorem length_le_stringText (value : Text) :
    value.length ≤ (stringText value).length := by
  have escaped : value.length ≤ (value.flatMap escapePoint).length := by
    induction value with
    | nil => exact Nat.le_refl _
    | cons point rest induction =>
        have positive : 1 ≤ (escapePoint point).length := by
          fun_cases escapePoint point <;>
            exact Nat.succ_le_succ (Nat.zero_le _)
        rw [List.flatMap_cons, List.length_append, List.length_cons]
        omega
  rw [stringText, List.length_cons, List.length_append]
  omega

theorem length_le_joinComma (texts : List Text) :
    (texts.map List.length).sum ≤ (joinComma texts).length := by
  fun_induction joinComma texts with
  | case1 => exact Nat.le_refl _
  | case2 item => simp
  | case3 item rest _ induction =>
      simp only [List.map_cons, List.sum_cons, List.length_append,
        List.length_cons]
      omega

/-- A written dict holds its keys. -/
theorem keys_length_le
    {members : Fields} {written : Text}
    (dumped : dumpText (.obj members) = some written) :
    (members.map fun member => member.1.length).sum ≤ written.length := by
  simp only [dumpText, Option.bind_eq_bind, Option.bind_eq_some_iff,
    Option.pure_def, Option.some.injEq] at dumped
  obtain ⟨texts, isTexts, rfl⟩ := dumped
  have keys : members.map (fun member => member.1.length) =
      texts.map fun member => member.1.length := by
    have same := congrArg (List.map List.length) (dumpMembers_keys isTexts)
    rw [List.map_map, List.map_map] at same
    exact same.symm
  have sorted : (texts.map fun member => member.1.length).sum =
      ((texts.insertionSort KeyLe).map fun member =>
        member.1.length).sum :=
    ((List.perm_insertionSort KeyLe texts).map _).sum_eq.symm
  have joined := length_le_joinComma
    ((texts.insertionSort KeyLe).map fun member =>
      stringText member.1 ++ codePoint ':' :: member.2)
  have each : ((texts.insertionSort KeyLe).map fun member =>
      member.1.length).sum ≤
      (((texts.insertionSort KeyLe).map fun member =>
        stringText member.1 ++ codePoint ':' :: member.2).map
          List.length).sum := by
    rw [List.map_map]
    apply List.sum_le_sum
    intro member _
    have key := length_le_stringText member.1
    simp only [Function.comp_apply, List.length_append]
    omega
  rw [keys, sorted, List.length_cons, List.length_append]
  omega

theorem length_le_utf8Encode
    {value : Text} {data : Bytes} (encoded : utf8Encode value = some data) :
    value.length ≤ data.length := by
  induction value generalizing data with
  | nil => exact Nat.zero_le _
  | cons point rest induction =>
      simp only [utf8Encode, Option.bind_eq_bind, Option.bind_eq_some_iff,
        Option.pure_def, Option.some.injEq] at encoded
      obtain ⟨head, isHead, tail, isTail, rfl⟩ := encoded
      have positive : 1 ≤ head.length := by
        unfold utf8EncodePoint at isHead
        simp only at isHead
        split_ifs at isHead <;> cases isHead <;> simp
      have bound := induction isTail
      rw [List.length_append, List.length_cons]
      omega

/-- The canonical form of an entry is longer than two digests. -/
theorem entry_blob_length
    {entry : CapabilityRegistryEntry} {blob : Bytes}
    (dumped : dumps (.obj entry.toDict) = .ok blob) :
    64 < blob.length := by
  obtain ⟨written, isWritten, isEncoded⟩ := dumps_eq_ok_iff.mp dumped
  have keys := keys_length_le isWritten
  have sum : (entry.toDict.map fun member =>
      member.1.length).sum = 114 := rfl
  have bound := length_le_utf8Encode isEncoded
  rw [List.length_append] at bound
  omega

/-! ## Digests and their hexadecimal form -/

theorem bytesFromHex_pair
    {high low : Nat} (highSmall : high < 16) (lowSmall : low < 16)
    (rest : Text) :
    bytesFromHex (hexPoint high :: hexPoint low :: rest) =
      (bytesFromHex rest).map (byte (high * 16 + low) :: ·) := by
  have notSpace :=
    (hexValue_isLowerHex (hexPoint_isLowerHex highSmall)).1
  rw [bytesFromHex, notSpace, hexValue_hexPoint highSmall,
    hexValue_hexPoint lowSmall]
  cases bytesFromHex rest with
  | none => rfl
  | some tail => rfl

theorem bytesFromHex_hexWord (word : Nat) (rest : Text) :
    bytesFromHex (Sha256.hexWord word ++ rest) =
      (bytesFromHex rest).map (Sha256.wordBytes word ++ ·) := by
  have small : ∀ value : Nat, value % 16 < 16 := fun value =>
    Nat.mod_lt _ (by decide)
  have pair : ∀ shift : Nat, word >>> (shift + 4) % 16 * 16 +
      word >>> shift % 16 = word >>> shift % 256 := by
    intro shift
    rw [Nat.shiftRight_add]
    simp only [Nat.shiftRight_eq_div_pow]
    omega
  have points : Sha256.hexWord word ++ rest =
      hexPoint (word >>> 28 % 16) :: hexPoint (word >>> 24 % 16) ::
      hexPoint (word >>> 20 % 16) :: hexPoint (word >>> 16 % 16) ::
      hexPoint (word >>> 12 % 16) :: hexPoint (word >>> 8 % 16) ::
      hexPoint (word >>> 4 % 16) :: hexPoint (word >>> 0 % 16) ::
        rest := rfl
  have bytes : Sha256.wordBytes word =
      [byte (word >>> 24 % 256), byte (word >>> 16 % 256),
        byte (word >>> 8 % 256), byte (word >>> 0 % 256)] := rfl
  rw [points, bytes, bytesFromHex_pair (small _) (small _),
    bytesFromHex_pair (small _) (small _),
    bytesFromHex_pair (small _) (small _),
    bytesFromHex_pair (small _) (small _), pair 24, pair 16, pair 8,
    pair 0]
  cases bytesFromHex rest with
  | none => rfl
  | some tail => rfl

theorem bytesFromHex_words (words : List Nat) :
    bytesFromHex (words.flatMap Sha256.hexWord) =
      some (words.flatMap Sha256.wordBytes) := by
  induction words with
  | nil => rfl
  | cons word rest induction =>
      rw [List.flatMap_cons, List.flatMap_cons, bytesFromHex_hexWord,
        induction]
      rfl

/-- The printed digest is read back as the digest. -/
theorem parseDigest_printed (content : Bytes) :
    parseDigest (objectIdPrefix ++ sha256 content) =
      .ok (sha256Digest content) := by
  obtain ⟨raw, isRaw⟩ := parseDigest_sha256 content
  have read : bytesFromHex (sha256 content) =
      some (sha256Digest content) := by
    rw [sha256, sha256Digest]
    exact bytesFromHex_words _
  rw [isRaw]
  simp only [parseDigest, bind_eq_ok_iff, refuseIf_eq_ok_iff,
    List.drop_left, read, pure_eq_ok_iff] at isRaw
  obtain ⟨-, -, -, -, rfl⟩ := isRaw
  rfl

theorem sha256Digest_length (content : Bytes) :
    (sha256Digest content).length = 32 := by
  simp [sha256Digest, Sha256.wordBytes, Sha256.Words.list]

theorem bytesFromHex_hexOfBytes (data : Bytes) :
    bytesFromHex (hexOfBytes data) = some data := by
  induction data with
  | nil => rfl
  | cons value rest induction =>
      have bound : value.toNat < 256 := value.toNat_lt
      have whole : byte (value.toNat / 16 * 16 + value.toNat % 16) =
          value := by
        rw [Nat.div_add_mod']
        exact UInt8.ofNat_toNat
      rw [hexOfBytes, List.flatMap_cons, ← hexOfBytes]
      rw [List.cons_append, List.cons_append, List.nil_append,
        bytesFromHex_pair (by omega) (by omega), induction, whole]
      rfl

/-- A printed digest determines its bytes. -/
theorem formatDigest_injective : Function.Injective formatDigest := by
  intro left right same
  have hex := List.append_cancel_left same
  have read := bytesFromHex_hexOfBytes left
  rw [hex, bytesFromHex_hexOfBytes] at read
  exact (Option.some.inj read).symm

/-! ## The tree of a snapshot -/

theorem nextLevel_eq (level : List Bytes) :
    nextLevel level = MerkleTree.levelAbove sha256Digest level := by
  fun_induction nextLevel level with
  | case1 left right rest induction =>
      rw [induction, MerkleTree.levelAbove, MerkleTree.levelAbove,
        MerkleTree.pairStrings, List.map_cons]
  | case2 left => rfl
  | case3 => rfl

theorem treeTop_eq (level : List Bytes) :
    treeTop level = MerkleTree.top sha256Digest level := by
  fun_induction treeTop level with
  | case1 => rw [MerkleTree.top]
  | case2 node => rw [MerkleTree.top]
  | case3 left right rest induction =>
      rw [induction, nextLevel_eq]
      conv_rhs => rw [MerkleTree.top]

/-- The canonical forms of some entries. -/
def entryBlobs (entries : List CapabilityRegistryEntry) :
    Except PyError (List Bytes) :=
  entries.mapM fun entry => dumps (.obj entry.toDict)

theorem mapM_entryDigest
    {entries : List CapabilityRegistryEntry} {digests : List Text}
    (returned : entries.mapM entryDigest = .ok digests) :
    ∃ blobs, entryBlobs entries = .ok blobs ∧
      digests = blobs.map fun blob => objectIdPrefix ++ sha256 blob := by
  induction entries generalizing digests with
  | nil =>
      rw [List.mapM_nil, pure_eq_ok_iff] at returned
      exact ⟨[], rfl, returned.symm⟩
  | cons entry rest induction =>
      simp only [List.mapM_cons, bind_eq_ok_iff, pure_eq_ok_iff,
        entryDigest] at returned
      obtain ⟨_, ⟨blob, isBlob, rfl⟩, others, isOthers, rfl⟩ := returned
      obtain ⟨blobs, areBlobs, rfl⟩ := induction isOthers
      refine ⟨blob :: blobs, ?_, rfl⟩
      rw [entryBlobs] at areBlobs ⊢
      simp only [List.mapM_cons, bind_eq_ok_iff, pure_eq_ok_iff]
      exact ⟨blob, isBlob, blobs, areBlobs, rfl⟩

theorem mapM_parseDigest (blobs : List Bytes) :
    (blobs.map fun blob => objectIdPrefix ++ sha256 blob).mapM
        parseDigest = .ok (blobs.map sha256Digest) := by
  induction blobs with
  | nil => rfl
  | cons blob rest induction =>
      simp only [List.map_cons, List.mapM_cons, bind_eq_ok_iff,
        pure_eq_ok_iff]
      exact ⟨_, parseDigest_printed blob, _, induction, rfl⟩

/-- The root of some entries is the root over their canonical forms. -/
theorem entriesRoot_eq_ok
    {entries : List CapabilityRegistryEntry} {root : Text}
    (isRoot : entriesRoot entries = .ok root) :
    ∃ blobs, entryBlobs entries = .ok blobs ∧
      root = formatDigest (MerkleTree.root sha256Digest blobs) := by
  simp only [entriesRoot, bind_eq_ok_iff] at isRoot
  obtain ⟨digests, isDigests, isTop⟩ := isRoot
  obtain ⟨blobs, isBlobs, rfl⟩ := mapM_entryDigest isDigests
  refine ⟨blobs, isBlobs, ?_⟩
  cases blobs with
  | nil =>
      cases isTop
      rfl
  | cons blob rest =>
      have parsed := mapM_parseDigest (blob :: rest)
      simp only [List.map_cons] at parsed isTop
      rw [merkleRoot, parsed] at isTop
      · simp only [bind_eq_ok_iff, pure_eq_ok_iff, Except.ok.injEq]
          at isTop
        obtain ⟨_, rfl, rfl⟩ := isTop
        rw [treeTop_eq]
        rfl
      · rintro ⟨⟩

theorem entries_eq_of_blobs
    {left right : List CapabilityRegistryEntry} {blobs : List Bytes}
    (fromLeft : entryBlobs left = .ok blobs)
    (fromRight : entryBlobs right = .ok blobs) : left = right := by
  induction left generalizing right blobs with
  | nil =>
      cases fromLeft
      cases right with
      | nil => rfl
      | cons entry rest =>
          simp only [entryBlobs, List.mapM_cons, bind_eq_ok_iff,
            pure_eq_ok_iff] at fromRight
          obtain ⟨_, _, _, _, ⟨⟩⟩ := fromRight
  | cons entry rest induction =>
      simp only [entryBlobs, List.mapM_cons, bind_eq_ok_iff,
        pure_eq_ok_iff] at fromLeft
      obtain ⟨blob, isBlob, others, isOthers, rfl⟩ := fromLeft
      cases right with
      | nil => cases fromRight
      | cons other right =>
          simp only [entryBlobs, List.mapM_cons, bind_eq_ok_iff,
            pure_eq_ok_iff] at fromRight
          obtain ⟨_, alsoBlob, _, alsoOthers, same⟩ := fromRight
          obtain ⟨rfl, rfl⟩ := List.cons.inj same
          rw [entry_eq_of_dumps isBlob alsoBlob,
            induction isOthers alsoOthers]

/-- Distinct entries have distinct canonical forms. -/
theorem nodup_entryBlobs
    {entries : List CapabilityRegistryEntry} {blobs : List Bytes}
    (isBlobs : entryBlobs entries = .ok blobs)
    (distinct : entries.Nodup) : blobs.Nodup := by
  induction entries generalizing blobs with
  | nil =>
      cases isBlobs
      exact List.nodup_nil
  | cons entry rest induction =>
      simp only [entryBlobs, List.mapM_cons, bind_eq_ok_iff,
        pure_eq_ok_iff] at isBlobs
      obtain ⟨blob, isBlob, others, isOthers, rfl⟩ := isBlobs
      obtain ⟨fresh, restDistinct⟩ := List.nodup_cons.mp distinct
      refine List.nodup_cons.mpr ⟨?_, induction isOthers restDistinct⟩
      intro again
      obtain ⟨other, isOther, alsoBlob⟩ :=
        (mapM_eq_ok isOthers).2 blob again
      rw [entry_eq_of_dumps isBlob alsoBlob] at fresh
      exact fresh isOther

/-! ## Equal roots -/

/-- The strings that are hashed for the root of some entries. -/
def hashedFor (entries : List CapabilityRegistryEntry) : List Bytes :=
  match entryBlobs (sortEntries entries) with
  | .ok blobs => MerkleTree.hashedStrings sha256Digest blobs
  | .error _ => []

/-- Two distinct strings among those hashed have the same SHA-256. -/
def Collision (left right : List CapabilityRegistryEntry) : Prop :=
  ∃ first ∈ hashedFor left ++ hashedFor right,
    ∃ second ∈ hashedFor left ++ hashedFor right,
      first ≠ second ∧ sha256Digest first = sha256Digest second

theorem injOn_of_not_collision
    {left right : List CapabilityRegistryEntry}
    (none : ¬ Collision left right) :
    Set.InjOn sha256Digest
      {string | string ∈ hashedFor left ++ hashedFor right} := by
  intro first isFirst second isSecond same
  by_contra distinct
  exact none ⟨first, isFirst, second, isSecond, distinct, same⟩

theorem nodup_of_ids
    {entries : List CapabilityRegistryEntry}
    (distinct : (capabilityIds entries).Nodup) :
    (sortEntries entries).Nodup :=
  List.Nodup.of_map _ (nodup_sortEntries.mpr distinct)

theorem sortEntries_eq_of_root
    {left right : List CapabilityRegistryEntry} {root : Text}
    (leftDistinct : (capabilityIds left).Nodup)
    (rightDistinct : (capabilityIds right).Nodup)
    (fromLeft : entriesRoot (sortEntries left) = .ok root)
    (fromRight : entriesRoot (sortEntries right) = .ok root)
    (none : ¬ Collision left right) :
    sortEntries left = sortEntries right := by
  obtain ⟨leftBlobs, isLeft, rfl⟩ := entriesRoot_eq_ok fromLeft
  obtain ⟨rightBlobs, isRight, sameRoot⟩ := entriesRoot_eq_ok fromRight
  have plain : ∀ blob ∈ leftBlobs ++ rightBlobs,
      blob ≠ [] ∧ blob.length ≠ 2 * 32 := by
    intro blob member
    have long : 64 < blob.length := by
      rcases List.mem_append.mp member with inLeft | inRight
      · obtain ⟨entry, -, isBlob⟩ := (mapM_eq_ok isLeft).2 blob inLeft
        exact entry_blob_length isBlob
      · obtain ⟨entry, -, isBlob⟩ := (mapM_eq_ok isRight).2 blob inRight
        exact entry_blob_length isBlob
    constructor
    · rintro rfl
      exact absurd long (by decide)
    · omega
  have leftHashed : hashedFor left =
      MerkleTree.hashedStrings sha256Digest leftBlobs := by
    rw [hashedFor, isLeft]
  have rightHashed : hashedFor right =
      MerkleTree.hashedStrings sha256Digest rightBlobs := by
    rw [hashedFor, isRight]
  have sameBlobs : leftBlobs = rightBlobs := by
    apply MerkleTree.root_injective sha256Digest_length (by decide)
      (injOn_of_not_collision none)
      (nodup_entryBlobs isLeft (nodup_of_ids leftDistinct))
      (nodup_entryBlobs isRight (nodup_of_ids rightDistinct)) plain
    · intro string member
      rw [← leftHashed] at member
      exact List.mem_append_left _ member
    · intro string member
      rw [← rightHashed] at member
      exact List.mem_append_right _ member
    · exact formatDigest_injective sameRoot
  subst sameBlobs
  exact entries_eq_of_blobs isLeft isRight

/-! ## Reordered entries -/

theorem capabilityIds_sortEntries_perm
    {entries reordered : List CapabilityRegistryEntry}
    (perm : reordered.Perm entries) :
    capabilityIds (sortEntries reordered) =
      capabilityIds (sortEntries entries) := by
  have ordered : ∀ others : List CapabilityRegistryEntry,
      (capabilityIds (sortEntries others)).Pairwise (· ≤ ·) :=
    fun others => List.pairwise_map.mpr (ordered_sortEntries others)
  have same : (capabilityIds (sortEntries reordered)).Perm
      (capabilityIds (sortEntries entries)) :=
    ((List.perm_insertionSort IdLe reordered).trans
      (perm.trans (List.perm_insertionSort IdLe entries).symm)).map _
  exact same.eq_of_pairwise (fun _ _ _ _ => le_antisymm) (ordered _)
    (ordered _)

/-- The search for repeated ids looks at the ids only. -/
theorem checkDistinct_congr
    {left right : List CapabilityRegistryEntry} (seen : List Text)
    (same : capabilityIds left = capabilityIds right) :
    checkDistinct seen left = checkDistinct seen right := by
  induction left generalizing right seen with
  | nil =>
      cases right with
      | nil => rfl
      | cons entry rest => cases same
  | cons entry rest induction =>
      cases right with
      | nil => cases same
      | cons other right =>
          obtain ⟨sameId, sameRest⟩ := List.cons.inj same
          rw [checkDistinct, checkDistinct, sameId,
            induction (other.capabilityId :: seen) sameRest]

theorem sortEntries_perm
    {entries reordered : List CapabilityRegistryEntry}
    (perm : reordered.Perm entries)
    (distinct : (capabilityIds entries).Nodup) :
    sortEntries reordered = sortEntries entries := by
  have same : (sortEntries reordered).Perm (sortEntries entries) :=
    (List.perm_insertionSort IdLe reordered).trans
      (perm.trans (List.perm_insertionSort IdLe entries).symm)
  refine same.eq_of_pairwise ?_ (ordered_sortEntries _)
    (ordered_sortEntries _)
  intro first second isFirst isSecond le ge
  have sameId : first.capabilityId = second.capabilityId :=
    le_antisymm le ge
  have sortedDistinct := nodup_sortEntries.mpr distinct
  exact List.inj_on_of_nodup_map sortedDistinct (same.mem_iff.mp isFirst)
    isSecond sameId

/-- The builder does not depend on the order of the entries. -/
theorem buildSnapshot_perm
    {entries reordered : List CapabilityRegistryEntry}
    (perm : reordered.Perm entries) (locations : Option Fields)
    (createdUtc : Option Text) (now : Text) :
    buildSnapshot reordered locations createdUtc now =
      buildSnapshot entries locations createdUtc now := by
  by_cases distinct : (capabilityIds entries).Nodup
  · rw [buildSnapshot, buildSnapshot, sortEntries_perm perm distinct]
  · have sameCheck := checkDistinct_congr []
      (capabilityIds_sortEntries_perm perm)
    rw [buildSnapshot, buildSnapshot, sameCheck]
    cases checked : checkDistinct [] (sortEntries entries) with
    | error error => rfl
    | ok result =>
        have found := (checkDistinct_eq_ok.mp checked).1
        exact absurd (nodup_sortEntries.mp found) distinct

/-- What identifies a snapshot does not depend on time and locations. -/
theorem buildSnapshot_identity
    {entries : List CapabilityRegistryEntry}
    {locations otherLocations : Option Fields}
    {createdUtc otherCreatedUtc : Option Text} {now otherNow : Text}
    {snapshot other : ScientificCatalogSnapshot}
    (built : buildSnapshot entries locations createdUtc now =
      .ok snapshot)
    (otherBuilt : buildSnapshot entries otherLocations otherCreatedUtc
      otherNow = .ok other) :
    snapshot.snapshotId = other.snapshotId ∧
      snapshot.merkleRoot = other.merkleRoot ∧
      snapshot.entries = other.entries := by
  simp only [buildSnapshot, bind_eq_ok_iff, pure_eq_ok_iff]
    at built otherBuilt
  obtain ⟨_, -, root, isRoot, _, -, _, -, id, isId, rfl⟩ := built
  obtain ⟨_, -, otherRoot, alsoRoot, _, -, _, -, otherId, alsoId, rfl⟩ :=
    otherBuilt
  rw [isRoot] at alsoRoot
  cases alsoRoot
  rw [isId] at alsoId
  cases alsoId
  exact ⟨rfl, rfl, rfl⟩

/--
Equal Merkle roots come from the same entries or from a collision among the
strings hashed for them; the snapshot does not depend on the order of the
entries, and its id, its root and its entries neither on the time nor on the
locations.
-/
theorem snapshot_identity :
    (∀ (left right : List CapabilityRegistryEntry)
        (leftLocations rightLocations : Option Fields)
        (leftCreated rightCreated : Option Text) (leftNow rightNow : Text)
        (snapshot other : ScientificCatalogSnapshot),
      buildSnapshot left leftLocations leftCreated leftNow =
          .ok snapshot →
        buildSnapshot right rightLocations rightCreated rightNow =
          .ok other →
        snapshot.merkleRoot = other.merkleRoot →
        (∀ entry, entry ∈ left ↔ entry ∈ right) ∨
          Collision left right) ∧
    (∀ (entries reordered : List CapabilityRegistryEntry)
        (locations : Option Fields) (createdUtc : Option Text)
        (now : Text), reordered.Perm entries →
      buildSnapshot reordered locations createdUtc now =
        buildSnapshot entries locations createdUtc now) ∧
    ∀ (entries : List CapabilityRegistryEntry)
        (locations otherLocations : Option Fields)
        (createdUtc otherCreatedUtc : Option Text) (now otherNow : Text)
        (snapshot other : ScientificCatalogSnapshot),
      buildSnapshot entries locations createdUtc now = .ok snapshot →
        buildSnapshot entries otherLocations otherCreatedUtc otherNow =
          .ok other →
        snapshot.snapshotId = other.snapshotId ∧
          snapshot.merkleRoot = other.merkleRoot ∧
          snapshot.entries = other.entries := by
  refine ⟨?_, ?_, ?_⟩
  · intro left right _ _ _ _ _ _ snapshot other built otherBuilt same
    obtain ⟨leftDistinct, _, -, isLeft, -, identified, -⟩ :=
      buildSnapshot_eq_ok.mp built
    obtain ⟨rightDistinct, _, -, isRight, -, otherIdentified,
      -⟩ :=
      buildSnapshot_eq_ok.mp otherBuilt
    by_cases collision : Collision left right
    · exact .inr collision
    · left
      have leftRoot := identified.merkleRoot
      have rightRoot := otherIdentified.merkleRoot
      rw [isLeft] at leftRoot
      rw [isRight, ← same] at rightRoot
      have sorted := sortEntries_eq_of_root leftDistinct rightDistinct
        leftRoot rightRoot collision
      intro entry
      rw [← (List.perm_insertionSort IdLe left).mem_iff,
        ← (List.perm_insertionSort IdLe right).mem_iff]
      change entry ∈ sortEntries left ↔ entry ∈ sortEntries right
      rw [sorted]
  · intro entries reordered locations createdUtc now perm
    exact buildSnapshot_perm perm locations createdUtc now
  · intro entries _ _ _ _ _ _ snapshot other built otherBuilt
    exact buildSnapshot_identity built otherBuilt

/-- Another entry, with its own id. -/
def algebraOther : CapabilityRegistryEntry :=
  { algebraExact with capabilityId := text "cap.algebra_other" }

/-- A snapshot of both entries is built in either order, at any time. -/
theorem exists_snapshot_of_both
    {entries : List CapabilityRegistryEntry}
    (both : entries.Perm [algebraExact, algebraOther])
    (createdUtc : Text) :
    ∃ snapshot, snapshot.createdUtc = createdUtc ∧
      buildSnapshot entries none (some createdUtc) [] = .ok snapshot := by
  have writable : ∀ entry ∈ [algebraExact, algebraOther],
      Writable (.obj entry.toDict) := by
    simp only [List.forall_mem_cons, List.not_mem_nil, false_implies,
      implies_true, and_true]
    exact ⟨algebraExact_writable, scalars_text _, scalars_text _,
      algebraExact_writable.2.2⟩
  obtain ⟨snapshot, isEntries, isCreated, consistent⟩ :=
    @exists_consistent [algebraExact, algebraOther] (by decide) writable
    none (by decide)
    ⟨scalars_text _, ⟨scalars_text _, scalars_text _, trivial⟩,
      scalars_text _, ⟨scalars_text _, scalars_text _, trivial⟩, trivial⟩
    createdUtc
  have taken := consistent_verifyLocations.mpr consistent
  rw [isEntries] at taken
  have sorted : sortEntries [algebraExact, algebraOther] =
      [algebraExact, algebraOther] :=
    sortEntries_of_ordered (by decide)
  have built : buildSnapshot [algebraExact, algebraOther] none
      (some createdUtc) [] = .ok snapshot := by
    refine (buildSnapshot_dicts_eq_ok
      (dictStates_verifyLocations _ none)).mpr
        ⟨by decide, ?_, isCreated, ?_⟩
    · rw [sorted, isEntries]
    · rw [sorted]
      exact taken
  exact ⟨snapshot, isCreated,
    (buildSnapshot_perm both none (some createdUtc) []).trans built⟩

/-- Two snapshots of two entries, in different orders and at different
times. -/
theorem snapshot_identity_reordered :
    ∃ snapshot other,
      buildSnapshot [algebraExact, algebraOther] none
          (some (text "2026-07-28T00:00:00Z")) [] = .ok snapshot ∧
        buildSnapshot [algebraOther, algebraExact] none
          (some (text "2026-07-29T00:00:00Z")) [] = .ok other ∧
        snapshot.createdUtc ≠ other.createdUtc ∧
        snapshot.snapshotId = other.snapshotId ∧
        snapshot.merkleRoot = other.merkleRoot ∧
        snapshot.entries = other.entries ∧
        ((∀ entry, entry ∈ [algebraExact, algebraOther] ↔
            entry ∈ [algebraOther, algebraExact]) ∨
          Collision [algebraExact, algebraOther]
            [algebraOther, algebraExact]) := by
  obtain ⟨snapshot, isCreated, built⟩ := exists_snapshot_of_both
    (List.Perm.refl _) (text "2026-07-28T00:00:00Z")
  obtain ⟨other, otherCreated, otherBuilt⟩ := exists_snapshot_of_both
    (List.Perm.swap _ _ _) (text "2026-07-29T00:00:00Z")
  have sameBuilt := otherBuilt
  rw [← snapshot_identity.2.1 _ _ none _ _ (List.Perm.swap _ _ [])]
    at sameBuilt
  obtain ⟨sameId, sameRoot, sameEntries⟩ := snapshot_identity.2.2 _ _ _ _ _
    _ _ _ _ built sameBuilt
  refine ⟨snapshot, other, built, otherBuilt, ?_, sameId, sameRoot,
    sameEntries, snapshot_identity.1 _ _ _ _ _ _ _ _ _ _ built otherBuilt
      sameRoot⟩
  rw [isCreated, otherCreated]
  decide

end ScientificResourceLab.Catalog
