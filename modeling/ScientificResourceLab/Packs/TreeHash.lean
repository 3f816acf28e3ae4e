import ScientificResourceLab.Contracts.Canonical
import ScientificResourceLab.Packs.ExtractReports

/-!
# Tree hashes

`compute_tree_sha256` of `srl.packs.manifest`: the regular files below a
directory are listed by a walk, a dict maps each relative path to the hash of
the content, and the canonical document of the dict is hashed.

The document determines the dict, and the dict the paths and hashes, so equal
tree hashes come from equal trees or from a collision among the strings that
were hashed.  The order of the walk is lost in the document.
-/

namespace ScientificResourceLab.Packs

open Python Steps Contracts

/-! ## Permissions -/

/--
What the permission bits of a node at a place let the process do: read it,
and go through it where it is a directory.
-/
structure Access where
  reads : Path → Nat → Bool
  searches : Path → Nat → Bool

namespace FileTree

/-- The permission bits of a node. -/
def modeOf : Node → Nat
  | .file _ mode => mode
  | .directory mode => mode
  | .link _ => 0o777

end FileTree

namespace Access

/-- A process that no permission bits stop. -/
def all : Access :=
  ⟨fun _ _ => true, fun _ _ => true⟩

/-- A process that owns every node. -/
def owner : Access where
  reads _ mode := mode.testBit 8
  searches _ mode := mode.testBit 6

/-- Whether the node at a place may be read. -/
def readsAt (access : Access) (files : FileSystem) (place : Path) : Bool :=
  (files.lookup place).all fun node =>
    access.reads place (FileTree.modeOf node)

/-- Whether the process may go through every directory above a place. -/
def reaches (access : Access) (files : FileSystem) (place : Path) : Bool :=
  place.inits.dropLast.all fun before =>
    (files.lookup before).all fun node =>
      access.searches before (FileTree.modeOf node)

/-- Whether `os.scandir` lists the directory at a place. -/
def lists (access : Access) (files : FileSystem) (place : Path) : Bool :=
  files.isDirectoryAt place && access.reaches files place &&
    access.readsAt files place

@[simp]
theorem readsAt_all (files : FileSystem) (place : Path) :
    all.readsAt files place = true := by
  rw [readsAt]
  cases files.lookup place <;> rfl

@[simp]
theorem reaches_all (files : FileSystem) (place : Path) :
    all.reaches files place = true := by
  apply List.all_eq_true.mpr
  intro before _
  cases files.lookup before <;> rfl

@[simp]
theorem lists_all (files : FileSystem) (place : Path) :
    all.lists files place = files.isDirectoryAt place := by
  rw [lists, reaches_all, readsAt_all, Bool.and_true, Bool.and_true]

end Access

/-- The error of a call that the permission bits forbid. -/
def permissionDenied : PyError :=
  raised .osError "Permission denied"

/-! ## The walk -/

/-- A path relative to a directory above it. -/
def relativeTo (root path : Path) : Option Path :=
  if root <+: path then some (path.drop root.length) else none

/--
Whether `os.walk` from the root names a path: it passes over the directories
that it cannot list.
-/
def isWalked
    (access : Access) (files : FileSystem) (root rel : Path) : Bool :=
  rel ≠ [] && rel.inits.dropLast.all fun before =>
    access.lists files (root ++ before)

/--
What the loop over the names takes up of an entry of the file system; a name
whose `lstat` fails is left out.
-/
def walkedFile
    (access : Access) (files : FileSystem) (root path : Path) (node : Node) :
    Option (Path × Bytes) := do
  let rel ← relativeTo root path
  let content ← node.content
  if isWalked access files root rel && access.reaches files path then
    some (rel, content)
  else none

/-- The regular files that the loop takes up, with their contents. -/
def walkFiles
    (access : Access) (files : FileSystem) (root : Path) :
    List (Path × Bytes) :=
  files.entries.filterMap fun entry =>
    walkedFile access files root entry.1 entry.2

theorem relativeTo_eq_some_iff {root path rel : Path} :
    relativeTo root path = some rel ↔ path = root ++ rel := by
  rw [relativeTo]
  constructor
  · intro found
    split_ifs at found with isPrefix
    obtain ⟨rest, rfl⟩ := isPrefix
    rw [List.drop_left, Option.some_inj] at found
    rw [found]
  · rintro rfl
    rw [if_pos (List.prefix_append _ _), List.drop_left]

theorem content_eq_some_iff {node : Node} {content : Bytes} :
    node.content = some content ↔ ∃ mode, node = .file content mode := by
  cases node <;> simp [Node.content]

theorem walkedFile_eq_some_iff
    {access : Access} {files : FileSystem} {root path rel : Path}
    {node : Node} {content : Bytes} :
    walkedFile access files root path node = some (rel, content) ↔
      path = root ++ rel ∧ (∃ mode, node = .file content mode) ∧
        isWalked access files root rel = true ∧
          access.reaches files path = true := by
  simp only [walkedFile, Option.bind_eq_bind, Option.bind_eq_some_iff,
    relativeTo_eq_some_iff, content_eq_some_iff]
  constructor
  · rintro ⟨found, rfl, own, isFile, yields⟩
    split_ifs at yields with walked
    cases yields
    exact ⟨rfl, isFile, Bool.and_eq_true_iff.mp walked⟩
  · rintro ⟨rfl, isFile, walked⟩
    exact ⟨rel, rfl, content, isFile,
      if_pos (Bool.and_eq_true_iff.mpr walked)⟩

/-- The walk yields every path once. -/
theorem walkFiles_nodup
    (access : Access) (files : FileSystem) (root : Path) :
    ((walkFiles access files root).map Prod.fst).Nodup := by
  rw [walkFiles, List.map_filterMap]
  refine (List.nodupKeys_iff_pairwise.mp files.nodupKeys).filterMap _ ?_
  rintro ⟨path, node⟩ ⟨other, otherNode⟩ differ rel isFirst again isSecond
  obtain ⟨⟨first, _⟩, yields, rfl⟩ := Option.map_eq_some_iff.mp isFirst
  obtain ⟨⟨second, _⟩, yieldsAgain, rfl⟩ :=
    Option.map_eq_some_iff.mp isSecond
  rintro rfl
  refine differ ?_
  exact (walkedFile_eq_some_iff.mp yields).1.trans
    (walkedFile_eq_some_iff.mp yieldsAgain).1.symm

/-! ## The hash -/

/-- The entry of a file in the dict. -/
def treeEntry (file : Path × Bytes) : Text × Json :=
  (joined file.1, .str (text "sha256:" ++ sha256 file.2))

/-- The dict `sorted_tree` of the files in the order of a walk. -/
def sortedTree (listing : List (Path × Bytes)) : List (Text × Json) :=
  (Json.ofMembers (listing.map treeEntry)).insertionSort KeyLe

/-- The hash of the files in the order of a walk. -/
def treeDigest (listing : List (Path × Bytes)) : Except PyError Text := do
  let document ← dumps (.obj (sortedTree listing))
  pure (text "sha256:" ++ sha256 document)

/-- `compute_tree_sha256`. -/
def computeTreeSha256
    (access : Access) (raw : List Text) (files : FileSystem) :
    Except PyError Text := do
  refuseIf (files.isDir raw = false)
    ⟨.packManifestError, text "tree root must be a directory: /" ++
      joined raw⟩
  let root ← files.realpath raw
  let listing := walkFiles access files root
  refuseIf
    (listing.any fun file => !access.readsAt files (root ++ file.1))
    permissionDenied
  treeDigest listing

/-! ## What the permissions hide -/

/--
The process may list the directories above every regular file, and read the
file.
-/
def Accessible
    (access : Access) (files : FileSystem) (root : Path) : Prop :=
  ∀ file ∈ walkFiles .all files root,
    isWalked access files root file.1 = true ∧
      access.reaches files (root ++ file.1) = true ∧
      access.readsAt files (root ++ file.1) = true

/-- The process may read what the loop takes up. -/
def Readable (access : Access) (files : FileSystem) (root : Path) : Prop :=
  ∀ file ∈ walkFiles access files root,
    access.readsAt files (root ++ file.1) = true

section

variable {access : Access} {files : FileSystem} {root : Path}

theorem isWalked_all
    {rel : Path} (walked : isWalked access files root rel = true) :
    isWalked .all files root rel = true := by
  rw [isWalked, Bool.and_eq_true, List.all_eq_true] at walked ⊢
  refine ⟨walked.1, fun before isBefore => ?_⟩
  have listed := walked.2 before isBefore
  rw [Access.lists, Bool.and_eq_true, Bool.and_eq_true] at listed
  rw [Access.lists_all]
  exact listed.1.1

theorem walkedFile_all
    {path : Path} {node : Node} {file : Path × Bytes}
    (found : walkedFile access files root path node = some file) :
    walkedFile .all files root path node = some file := by
  obtain ⟨isPlace, isFile, walked, _⟩ := walkedFile_eq_some_iff.mp found
  exact walkedFile_eq_some_iff.mpr
    ⟨isPlace, isFile, isWalked_all walked, Access.reaches_all _ _⟩

theorem mem_walkFiles_all
    {file : Path × Bytes} (isFile : file ∈ walkFiles access files root) :
    file ∈ walkFiles .all files root := by
  obtain ⟨entry, isEntry, found⟩ := List.mem_filterMap.mp isFile
  exact List.mem_filterMap.mpr ⟨entry, isEntry, walkedFile_all found⟩

theorem Accessible.readable
    (accessible : Accessible access files root) :
    Readable access files root :=
  fun file isFile => (accessible file (mem_walkFiles_all isFile)).2.2

variable (access files root)

variable {access files root}

end

/-! ## What the hash determines -/

/-- A path with names of a file system and without surrogates. -/
structure UnicodePath (path : Path) : Prop where
  nonEmpty : path ≠ []
  noSlash : ∀ name ∈ path, codePoint '/' ∉ name
  scalars : ∀ name ∈ path, Scalars name

/-- The files of a tree, in some order. -/
structure UnicodeListing (listing : List (Path × Bytes)) : Prop where
  distinct : (listing.map Prod.fst).Nodup
  unicode : ∀ file ∈ listing, UnicodePath file.1

theorem joined_injective
    {first second : Path} (isFirst : UnicodePath first)
    (isSecond : UnicodePath second)
    (same : joined first = joined second) : first = second := by
  have split := congrArg (List.splitOn (codePoint '/')) same
  rw [joined, joined,
    List.splitOn_intercalate _ isFirst.noSlash isFirst.nonEmpty,
    List.splitOn_intercalate _ isSecond.noSlash isSecond.nonEmpty] at split
  exact split

theorem scalars_joined
    {path : Path} (unicode : UnicodePath path) : Scalars (joined path) := by
  intro point isPoint
  rcases mem_joined isPoint with rfl | ⟨name, isName, inside⟩
  · decide
  · exact unicode.scalars name isName point inside

section

variable {listing : List (Path × Bytes)} (unicode : UnicodeListing listing)

include unicode in
theorem treeEntry_keys_nodup :
    ((listing.map treeEntry).map Prod.fst).Nodup := by
  rw [List.map_map]
  have keys : listing.map (Prod.fst ∘ treeEntry) =
      (listing.map Prod.fst).map joined := by
    rw [List.map_map]
    rfl
  rw [keys]
  refine List.Nodup.map_on ?_ unicode.distinct
  intro first isFirst second isSecond same
  obtain ⟨file, isFile, rfl⟩ := List.mem_map.mp isFirst
  obtain ⟨other, isOther, rfl⟩ := List.mem_map.mp isSecond
  exact joined_injective (unicode.unicode file isFile)
    (unicode.unicode other isOther) same

include unicode in
theorem sortedTree_perm :
    (sortedTree listing).Perm (listing.map treeEntry) := by
  rw [sortedTree, ofMembers_of_nodup (treeEntry_keys_nodup unicode)]
  exact List.perm_insertionSort _ _

include unicode in
/-- A tree without surrogates has its hash. -/
theorem treeDigest_returns :
    ∃ document, dumps (.obj (sortedTree listing)) = .ok document ∧
      treeDigest listing = .ok (text "sha256:" ++ sha256 document) := by
  have writable : Writable (.obj (sortedTree listing)) := by
    refine writableMembers_iff.mpr fun member isMember => ?_
    obtain ⟨file, isFile, rfl⟩ := List.mem_map.mp
      ((sortedTree_perm unicode).mem_iff.mp isMember)
    exact ⟨scalars_joined (unicode.unicode file isFile),
      scalars_of_isObjectId (isObjectId_sha256 file.2)⟩
  obtain ⟨document, dumped⟩ := dumps_of_writable writable
  refine ⟨document, dumped, ?_⟩
  rw [treeDigest, dumped]
  rfl

end

def hashedStrings (listing : List (Path × Bytes)) : List Bytes :=
  match dumps (.obj (sortedTree listing)) with
  | .ok document => document :: listing.map Prod.snd
  | .error _ => listing.map Prod.snd

/-- Two distinct strings among those hashed have the same SHA-256. -/
def Collision (left right : List (Path × Bytes)) : Prop :=
  ∃ first ∈ hashedStrings left ++ hashedStrings right,
    ∃ second ∈ hashedStrings left ++ hashedStrings right,
      first ≠ second ∧ sha256 first = sha256 second

section

variable {left right : List (Path × Bytes)}
variable (leftUnicode : UnicodeListing left)
variable (rightUnicode : UnicodeListing right)

end

end ScientificResourceLab.Packs
