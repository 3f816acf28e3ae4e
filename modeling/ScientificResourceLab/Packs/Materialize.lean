import ScientificResourceLab.Packs.Manifest
import ScientificResourceLab.Packs.TreeHash
import ScientificResourceLab.Steps.Invariants

/-!
# Materialization of packs

`materialize` of `srl.packs.materialize`: the pack root is checked against
the manifest, the staging directory is deleted recursively, the pack is copied
there, and the copy is checked again.

The deletion and the copy touch files only at the place that the staging path
denotes and below it (`Spares`).  So the pack is safe where that place and the
pack root are unrelated; where one contains the other, the deletion reaches
into the pack.
-/

namespace ScientificResourceLab.Packs

open Python Steps Contracts

/-! ## Copying -/

namespace FileTree

/-- The name of a child of a directory. -/
def childName (place path : Path) : Option Text :=
  match relativeTo place path with
  | some [name] =>
      if name = currentName ∨ name = parentName then none else some name
  | _ => none

/-- The names in a directory, `os.scandir`. -/
def scandir (access : Access) (raw : List Text) (files : FileSystem) :
    Except PyError (List Text) := do
  let place ← files.locate raw
  if files.isDirectoryAt place then
    if access.lists files place then
      pure (files.keys.filterMap (childName place))
    else .error permissionDenied
  else if (files.lookup place).isSome then
    .error (raised .osError "Not a directory")
  else .error (raised .fileNotFoundError "No such file or directory")

/-- The node that a call reads through links. -/
def nodeAt (raw : List Text) (files : FileSystem) : Except PyError Node := do
  let place ← files.locate raw
  match files.lookup place with
  | some node => pure node
  | none => .error (raised .fileNotFoundError "No such file or directory")

/-- The content of a file, `open(raw, "rb").read()`. -/
def readBytes (raw : List Text) (files : FileSystem) :
    Except PyError Bytes := do
  match ← nodeAt raw files with
  | .file content _ => pure content
  | _ => .error (raised .osError "Is a directory")

/-- The file system without a directory and what is below it. -/
def removeBelow (place : Path) (files : FileSystem) : FileSystem :=
  (files.keys.filter fun path => place.isPrefixOf path).foldl
    (fun left path => left.erase path) files

/-- Whether the last name of a path is a link. -/
def endsInLink (raw : List Text) (files : FileSystem) : Bool :=
  match raw.getLast?, files.realpath raw.dropLast with
  | some name, .ok parent =>
      name ≠ currentName && name ≠ parentName &&
        (files.linkAt (parent ++ [name])).isSome
  | _, _ => false

/-- `shutil.rmtree`. -/
def rmtree (raw : List Text) (files : FileSystem) :
    Except PyError FileSystem := do
  if endsInLink raw files then
    .error (raised .osError "Cannot call rmtree on a symbolic link")
  else
    let place ← files.locate raw
    if files.isDirectoryAt place then pure (removeBelow place files)
    else .error (raised .osError "Not a directory")

/-- `os.makedirs` on the reversed path. -/
def makedirsReversed (umask : Nat) : List Text → FileProgram PUnit
  | [] => perform (FileSystem.mkdir umask [])
  | name :: before => do
      let headExists ← Program.observe fun files : FileSystem =>
        files.pathExists before.reverse
      if headExists then pure ⟨⟩
      else
        tryCatch (makedirsReversed umask before) fun error =>
          if error.kind = .fileExistsError then pure ⟨⟩ else throw error
      if name = currentName then pure ⟨⟩
      else perform (FileSystem.mkdir umask (name :: before).reverse)

/-- `os.makedirs`. -/
def makedirs (umask : Nat) (raw : List Text) : FileProgram PUnit :=
  makedirsReversed umask raw.reverse

/-- `shutil.copystat`, as far as permission bits go. -/
def copystat (source target : List Text) : FileProgram PUnit := do
  let node ← Program.inspect (nodeAt source)
  perform (FileSystem.chmod target (modeOf node))

/-- The target of `shutil.copy2`, which goes into a directory. -/
def copyTarget (source target : List Text) (files : FileSystem) :
    List Text :=
  if files.isDir target then target ++ source.getLast?.toList else target

/-- The content of a file that the process may read. -/
def readAllowed
    (access : Access) (raw : List Text) (files : FileSystem) :
    Except PyError Bytes := do
  let place ← files.locate raw
  if access.reaches files place && access.readsAt files place then
    readBytes raw files
  else .error permissionDenied

/-- `shutil.copy2`. -/
def copy2 (access : Access) (umask : Nat) (source target : List Text) :
    FileProgram PUnit := do
  let final ← Program.observe (copyTarget source target)
  let same ← Program.observe fun files : FileSystem =>
    files.pathExists final && decide
      ((files.realpath source).toOption = (files.realpath final).toOption)
  if same then throw (raised .osError "are the same file")
  else do
    let content ← Program.inspect (readAllowed access source)
    perform (FileSystem.writeBytes umask final content)
    copystat source final

/-- The entries of a directory; an `OSError` is noted and the loop goes on. -/
def copyEntries (copyEntry : Text → FileProgram PUnit) :
    List Text → FileProgram Bool
  | [] => pure false
  | name :: rest => do
      let failed ← tryCatch
        (do
          copyEntry name
          pure false)
        fun error =>
          if error.kind.isOsError then pure true else throw error
      let others ← copyEntries copyEntry rest
      pure (failed || others)

/--
`shutil.copytree` with `symlinks=False`; `depth` is the depth of nesting from
which on the system refuses the name as too long.
-/
def copytree (access : Access) (umask : Nat) :
    Nat → List Text → List Text → FileProgram PUnit
  | 0, _, _ => throw (raised .osError "File name too long")
  | depth + 1, source, target => do
      let names ← Program.inspect (scandir access source)
      makedirs umask target
      let failed ← copyEntries
        (fun name => do
          let isDirectory ← Program.observe fun files : FileSystem =>
            files.isDir (source ++ [name])
          if isDirectory then
            copytree access umask depth (source ++ [name])
              (target ++ [name])
          else copy2 access umask (source ++ [name]) (target ++ [name]))
        names
      copystat source target
      if failed then throw (raised .osError "shutil.Error") else pure ⟨⟩

/-- What lies below a directory, the directories before their contents. -/
def pathsBelow (raw : List Text) (files : FileSystem) : List Path :=
  match files.realpath raw with
  | .ok root =>
      (files.keys.filterMap (relativeTo root)).insertionSort
        fun first second => first.length ≤ second.length
  | .error _ => []

/-- Whether the walk names a path below a directory. -/
def isNamed
    (access : Access) (raw : List Text) (rel : Path) (files : FileSystem) :
    Bool :=
  match files.realpath raw with
  | .ok root => isWalked access files root rel
  | .error _ => false

/-- `Path.chmod`, which has to come to the path. -/
def chmodReached
    (access : Access) (raw : List Text) (mode : Nat) (files : FileSystem) :
    Except PyError FileSystem := do
  let place ← files.locate raw
  if access.reaches files place then FileSystem.chmod raw mode files
  else .error permissionDenied

/-- The reset of the permission bits of one path, if the walk names it. -/
def normalizeMode
    (access : Access) (raw : List Text) (rel : Path) : FileProgram PUnit := do
  let named ← Program.observe (isNamed access raw rel)
  let isDirectory ← Program.observe fun files : FileSystem =>
    files.isDir (raw ++ rel)
  if named then
    perform (chmodReached access (raw ++ rel)
      (if isDirectory then 0o755 else 0o644))
  else pure ⟨⟩

/--
The walk that resets the permission bits; a directory is listed with the bits
that it was given before.
-/
def normalizeModes (access : Access) (raw : List Text) :
    List Path → FileProgram PUnit
  | [] => pure ⟨⟩
  | rel :: rest => do
      normalizeMode access raw rel
      normalizeModes access raw rest

/-- `_copy_tree`. -/
def copyTree
    (access : Access) (umask depth : Nat) (source target : List Text) :
    FileProgram PUnit := do
  let present ← Program.observe fun files : FileSystem =>
    files.pathExists target
  if present then perform (rmtree target) else pure ⟨⟩
  copytree access umask depth source target
  let paths ← Program.observe (pathsBelow target)
  normalizeModes access target paths

end FileTree

/-! ## Materializing -/

/-- A `MaterializationError`. -/
def materializationError (message : Text) : PyError :=
  ⟨.materializationError, message⟩

/-- `_IMMUTABLE_FLAG`. -/
def immutableFlag : Text :=
  text ".srl_immutable"

/-- `_is_immutable_root`. -/
def isImmutableRoot (raw : List Text) (files : FileSystem) :
    Except PyError Bool := do
  let current ← files.realpath raw
  pure (current.inits.any fun ancestor =>
    files.pathExists (ancestor ++ [immutableFlag]))

/-- `MaterializationReceipt`. -/
structure MaterializationReceipt where
  schemaVersion : Text
  packId : Text
  fromTreeSha256 : Text
  toTreeSha256 : Text
  verified : Bool
  stagingPath : Path
  materializedAtUtc : Text
  canonicalWrites : Int
  grantsAuthority : Bool

/-- The checks of `materialize` before the copy. -/
def checkSource
    (access : Access) (manifest : ResourcePackManifest)
    (packRoot : List Text) : FileProgram Text := do
  let isDirectory ← Program.observe fun files : FileSystem =>
    files.isDir packRoot
  if isDirectory then pure PUnit.unit
  else throw (materializationError
    (text "pack_root is not a directory: /" ++ joined packRoot))
  let isImmutable ← Program.inspect (isImmutableRoot packRoot)
  if isImmutable then
    throw (materializationError
      (text "mutable T7 execution forbidden: pack_root is inside an " ++
        text "immutable store"))
  else pure PUnit.unit
  let observed ← Program.inspect (computeTreeSha256 access packRoot)
  if observed = manifest.treeSha256 then pure observed
  else throw (materializationError
    (text "tree hash mismatch for pack " ++ quoted manifest.packId ++
      text ": manifest=" ++ quoted manifest.treeSha256 ++
      text ", observed=" ++ quoted observed))

/-- The check of `materialize` after the copy. -/
def checkCopy
    (access : Access) (manifest : ResourcePackManifest)
    (staging : List Text) : FileProgram Text := do
  let copied ← Program.inspect (computeTreeSha256 access staging)
  if copied = manifest.treeSha256 then pure copied
  else throw (materializationError
    (text "post-copy tree hash mismatch for pack " ++
      quoted manifest.packId ++ text ": manifest=" ++
      quoted manifest.treeSha256 ++ text ", copied=" ++ quoted copied))

/-- `materialize` on a validated manifest; `now` is the clock. -/
def materialize
    (access : Access) (umask depth : Nat) (now : Text)
    (manifest : ResourcePackManifest) (packRoot staging : List Text) :
    FileProgram MaterializationReceipt := do
  let observed ← checkSource access manifest packRoot
  FileTree.copyTree access umask depth packRoot staging
  let copied ← checkCopy access manifest staging
  let stagingPath ← Program.inspect fun files : FileSystem =>
    files.realpath staging
  pure
    { schemaVersion := text "MaterializationReceipt/v1"
      packId := manifest.packId
      fromTreeSha256 := observed
      toTreeSha256 := copied
      verified := true
      stagingPath := stagingPath
      materializedAtUtc := now
      canonicalWrites := 0
      grantsAuthority := false }

/-! ## What a success says -/

/-- A directory whose files have well-formed Unicode paths. -/
structure UnicodeTree (raw : List Text) (root : Path) (files : FileSystem) :
    Prop where
  isDir : files.isDir raw = true
  resolved : files.realpath raw = .ok root
  unicode : ∀ file ∈ walkFiles .all files root, UnicodePath file.1

section

variable {access : Access} {raw : List Text} {root : Path}
variable {files : FileSystem} (tree : UnicodeTree raw root files)

include tree

theorem UnicodeTree.listing :
    UnicodeListing (walkFiles access files root) :=
  ⟨walkFiles_nodup access files root,
    fun file isFile => tree.unicode file (mem_walkFiles_all isFile)⟩

theorem UnicodeTree.computeTreeSha256_eq :
    computeTreeSha256 access raw files =
      (refuseIf
        (((walkFiles access files root).any fun file =>
          !access.readsAt files (root ++ file.1)) = true)
        permissionDenied >>= fun _ =>
          treeDigest (walkFiles access files root)) := by
  rw [computeTreeSha256, tree.isDir, tree.resolved]
  rfl

theorem UnicodeTree.computes (readable : Readable access files root) :
    computeTreeSha256 access raw files =
      treeDigest (walkFiles access files root) := by
  have allowed : ((walkFiles access files root).any fun file =>
      !access.readsAt files (root ++ file.1)) ≠ true := by
    rw [ne_eq, List.any_eq_true]
    rintro ⟨file, isFile, denied⟩
    rw [readable file isFile] at denied
    cases denied
  rw [tree.computeTreeSha256_eq, refuseIf, if_neg allowed]
  rfl

/-- A hash is given only where all that is taken up can be read. -/
theorem UnicodeTree.readable
    {digest : Text}
    (computed : computeTreeSha256 access raw files = .ok digest) :
    Readable access files root := by
  intro file isFile
  by_contra denied
  have refused : ((walkFiles access files root).any fun file =>
      !access.readsAt files (root ++ file.1)) = true :=
    List.any_eq_true.mpr ⟨file, isFile, by simpa using denied⟩
  rw [tree.computeTreeSha256_eq, refuseIf, if_pos refused] at computed
  cases computed

theorem UnicodeTree.digest
    {digest : Text}
    (computed : computeTreeSha256 access raw files = .ok digest) :
    treeDigest (walkFiles access files root) = .ok digest :=
  (tree.computes (tree.readable computed)).symm.trans computed

end

theorem Collision.mono
    {left right : List (Path × Bytes)} (collision : Collision left left) :
    Collision left right := by
  obtain ⟨first, isFirst, second, isSecond, differ⟩ := collision
  rw [List.mem_append, or_self_iff] at isFirst isSecond
  exact ⟨first, List.mem_append_left _ isFirst,
    second, List.mem_append_left _ isSecond, differ⟩

section

variable {access : Access} {raw : List Text} {root : Path}
variable {files : FileSystem} (tree : UnicodeTree raw root files)

include tree

end

/-- A directory with one file, and an empty one. -/
def packedDirectory : FileSystem :=
  linkedDirectories.insert [text "real", text "values"] (.file [1] 0o644)

theorem packedDirectory_walk :
    walkFiles .all packedDirectory [text "real"] =
      [([text "values"], [1])] := by
  decide

theorem packedDirectory_unicode :
    UnicodeTree [text "alias"] [text "real"] packedDirectory where
  isDir := by decide
  resolved := by decide
  unicode := by
    rw [packedDirectory_walk, List.forall_mem_singleton]
    refine ⟨by decide, by decide, ?_⟩
    rw [List.forall_mem_singleton]
    exact scalars_text _

theorem packedDirectory_accessible :
    Accessible .owner packedDirectory [text "real"] := by
  rw [Accessible, packedDirectory_walk, List.forall_mem_singleton]
  decide

end ScientificResourceLab.Packs
