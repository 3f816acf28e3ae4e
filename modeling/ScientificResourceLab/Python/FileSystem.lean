import ScientificResourceLab.Python.Exceptions
import ScientificResourceLab.Steps.Directory
import ScientificResourceLab.Steps.Program

/-!
# File systems with symbolic links

A file system maps absolute paths to files, directories and links.  The
operations are the calls of `os` and `pathlib` that follow links: a path given
by a caller is a list of names that may contain `.` and `..`, and `realpath`
says which place it denotes.  Resolution reads the links and nothing else, so
a program that makes no link never changes what a path denotes.

`Grows` is the transition of programs that only add or overwrite below one
directory; `Confined` says that a path given by a caller denotes that
directory and that no link lies below it.
-/

namespace ScientificResourceLab.Python

open Steps

/-- The names on the way from the root. -/
abbrev Path := List Text

/-- What a link says. -/
structure LinkTarget where
  absolute : Bool
  parts : List Text
  deriving DecidableEq

/-- What stands at a path. -/
inductive Node where
  | file (content : Bytes) (mode : Nat)
  | directory (mode : Nat)
  | link (target : LinkTarget)
  deriving DecidableEq

/-- The nodes under their paths. -/
abbrev FileSystem := Directory Path Node

abbrev FileProgram (α : Type) := Program FileSystem PyError α

/-! ## Nodes -/

def Node.target : Node → Option LinkTarget
  | .link target => some target
  | _ => none

/-- The content of a regular file. -/
def Node.content : Node → Option Bytes
  | .file content _ => some content
  | _ => none

/-- Whether a node is a directory. -/
def Node.isDirectory : Node → Bool
  | .directory _ => true
  | _ => false

/-- A node with other permission bits. -/
def Node.withMode (mode : Nat) : Node → Node
  | .file content _ => .file content mode
  | .directory _ => .directory mode
  | .link target => .link target

namespace FileSystem

def linkAt (files : FileSystem) (path : Path) : Option LinkTarget :=
  (files.lookup path).bind Node.target

/-- The content of the regular file at a path. -/
def contentAt (files : FileSystem) (path : Path) : Option Bytes :=
  (files.lookup path).bind Node.content

/-- Whether a directory stands at a path. -/
def isDirectoryAt (files : FileSystem) (path : Path) : Bool :=
  (files.lookup path).any Node.isDirectory

end FileSystem

/-! ## Resolution -/

/-- The name of the directory itself. -/
def currentName : Text :=
  text "."

/-- The name of the directory above. -/
def parentName : Text :=
  text ".."

/-- `os.path.abspath` of an absolute path, which does not look at links. -/
def absPath (raw : List Text) : List Text :=
  raw.foldl
    (fun before name =>
      if name = currentName then before
      else if name = parentName then before.dropLast
      else before ++ [name])
    []

/-- A name that is neither `.` nor `..`. -/
def PlainName (name : Text) : Prop :=
  name ≠ currentName ∧ name ≠ parentName

/-- The walk to the first link, with what the link leaves to do. -/
def advance (links : Path → Option LinkTarget) (here : Path) :
    List Text → Path × Option (LinkTarget × List Text)
  | [] => (here, none)
  | name :: rest =>
      if name = currentName then advance links here rest
      else if name = parentName then advance links here.dropLast rest
      else
        match links (here ++ [name]) with
        | some target => (here, some (target, rest))
        | none => advance links (here ++ [name]) rest

/-- The walk through at most `budget` links. -/
def follow (links : Path → Option LinkTarget) :
    Nat → Path → List Text → Except PyError Path
  | budget, here, parts =>
      match advance links here parts with
      | (place, none) => .ok place
      | (place, some (target, rest)) =>
          match budget with
          | 0 =>
              .error (raised .osError
                "Too many levels of symbolic links")
          | budget + 1 =>
              follow links budget
                (if target.absolute then [] else place)
                (target.parts ++ rest)

/-- The number of links that the kernel follows. -/
def maxLinks : Nat :=
  40

namespace FileSystem

/-- `os.path.realpath`: the place that a path denotes. -/
def realpath (files : FileSystem) (raw : List Text) :
    Except PyError Path :=
  follow files.linkAt maxLinks [] raw

/-- `Path.is_dir`. -/
def isDir (files : FileSystem) (raw : List Text) : Bool :=
  match files.realpath raw with
  | .ok place => files.isDirectoryAt place
  | .error _ => false

/-- `Path.exists`. -/
def pathExists (files : FileSystem) (raw : List Text) : Bool :=
  match files.realpath raw with
  | .ok place => (files.lookup place).isSome
  | .error _ => false

/-- The kernel passes through directories only. -/
def reach (files : FileSystem) (raw : List Text) : Except PyError PUnit :=
  match raw.inits.dropLast.find? fun before => !files.isDir before with
  | none => .ok ⟨⟩
  | some before =>
      if files.pathExists before then
        .error (raised .osError "Not a directory")
      else .error (raised .fileNotFoundError "No such file or directory")

/-- The place that a call which follows links works on. -/
def locate (files : FileSystem) (raw : List Text) :
    Except PyError Path := do
  files.reach raw
  files.realpath raw

/-! ## Calls -/

/-- The permission bits of a new directory. -/
def newDirectoryMode (umask : Nat) : Nat :=
  0o777 - (0o777 &&& umask)

/-- The permission bits of a new file. -/
def newFileMode (umask : Nat) : Nat :=
  0o666 - (0o666 &&& umask)

/-- The error about a path that is there. -/
def alreadyExists : PyError :=
  raised .fileExistsError "File exists"

/-- `os.mkdir`, which does not follow a link at the last name. -/
def mkdir (umask : Nat) (raw : List Text) (files : FileSystem) :
    Except PyError FileSystem :=
  match raw.getLast? with
  | none => .error alreadyExists
  | some name => do
      files.reach raw
      let parent ← files.realpath raw.dropLast
      if name = currentName ∨ name = parentName then .error alreadyExists
      else if (files.lookup (parent ++ [name])).isSome then
        .error alreadyExists
      else
        pure (files.insert (parent ++ [name])
          (.directory (newDirectoryMode umask)))

/-- `Path.write_bytes`. -/
def writeBytes (umask : Nat) (raw : List Text) (content : Bytes)
    (files : FileSystem) : Except PyError FileSystem := do
  let place ← files.locate raw
  match files.lookup place with
  | some (.file _ mode) => pure (files.insert place (.file content mode))
  | some (.directory _) => .error (raised .osError "Is a directory")
  | some (.link _) =>
      .error (raised .osError "Too many levels of symbolic links")
  | none =>
      if files.isDirectoryAt place.dropLast then
        pure (files.insert place (.file content (newFileMode umask)))
      else .error (raised .fileNotFoundError "No such file or directory")

/-- `Path.chmod`. -/
def chmod (raw : List Text) (mode : Nat) (files : FileSystem) :
    Except PyError FileSystem := do
  let place ← files.locate raw
  match files.lookup place with
  | some node => pure (files.insert place (node.withMode mode))
  | none => .error (raised .fileNotFoundError "No such file or directory")

end FileSystem

/-- One call as an atomic step. -/
def perform (call : FileSystem → Except PyError FileSystem) :
    FileProgram PUnit :=
  .read fun files =>
    match call files with
    | .ok after => .write (fun _ => after) fun _ => .ret ⟨⟩
    | .error error => .raise error

/-- The end of `Path.mkdir` with `exist_ok`. -/
def allowExisting (raw : List Text) (error : PyError) :
    FileProgram PUnit := do
  let isDirectory ← Program.observe fun files : FileSystem =>
    files.isDir raw
  if isDirectory then pure ⟨⟩ else throw error

/-- `Path.mkdir(exist_ok=True)`. -/
def makeDir (umask : Nat) (raw : List Text) : FileProgram PUnit :=
  tryCatch (perform (FileSystem.mkdir umask raw)) (allowExisting raw)

/-- `Path.mkdir(parents=True, exist_ok=True)`, on the reversed path. -/
def makeDirsReversed (umask : Nat) : List Text → FileProgram PUnit
  | [] => makeDir umask []
  | name :: before =>
      tryCatch (perform (FileSystem.mkdir umask (name :: before).reverse))
        fun error =>
          if error.kind = .fileNotFoundError then do
            makeDirsReversed umask before
            makeDir umask (name :: before).reverse
          else allowExisting (name :: before).reverse error

/-- `Path.mkdir(parents=True, exist_ok=True)`. -/
def makeDirs (umask : Nat) (raw : List Text) : FileProgram PUnit :=
  makeDirsReversed umask raw.reverse

/-! ## Resolution below a directory without links -/

theorem advance_append
    (links : Path → Option LinkTarget) (here : Path)
    (first second : List Text) :
    advance links here (first ++ second) =
      match advance links here first with
      | (place, none) => advance links place second
      | (place, some (target, rest)) =>
          (place, some (target, rest ++ second)) := by
  induction first generalizing here with
  | nil => rfl
  | cons name rest induction =>
      rw [List.cons_append, advance, advance]
      split_ifs
      · exact induction here
      · exact induction here.dropLast
      · split
        · rfl
        · exact induction (here ++ [name])

/-- A path goes on from the place that its first part denotes. -/
theorem follow_append
    {links : Path → Option LinkTarget} {budget : Nat} {here place : Path}
    {first : List Text} (followed : follow links budget here first = .ok place)
    {second : List Text} {final : Path}
    (goesOn : advance links place second = (final, none)) :
    follow links budget here (first ++ second) = .ok final := by
  induction budget generalizing here first with
  | zero =>
      rw [follow] at followed ⊢
      rw [advance_append]
      split at followed
      · next reached stops =>
          cases followed
          rw [goesOn]
      · cases followed
  | succ budget induction =>
      rw [follow] at followed ⊢
      rw [advance_append]
      split at followed
      · next reached stops =>
          cases followed
          rw [goesOn]
      · next reached target rest stops =>
          simp only [← List.append_assoc]
          exact induction followed

/-- Plain names are taken as they are where there is no link. -/
theorem advance_of_plain
    {links : Path → Option LinkTarget} {here : Path} {names : List Text}
    (plain : ∀ name ∈ names, PlainName name)
    (noLinks : ∀ below, below ≠ [] → links (here ++ below) = none) :
    advance links here names = (here ++ names, none) := by
  induction names generalizing here with
  | nil => rw [advance, List.append_nil]
  | cons name rest induction =>
      obtain ⟨notCurrent, notParent⟩ := plain name List.mem_cons_self
      have absent := noLinks [name] (List.cons_ne_nil _ _)
      rw [advance, if_neg notCurrent, if_neg notParent, absent]
      refine (induction (fun other isOther =>
        plain other (List.mem_cons_of_mem _ isOther)) ?_).trans ?_
      · intro below _
        rw [List.append_assoc]
        exact noLinks _ (by simp)
      · rw [List.append_assoc, List.singleton_append]

/-- The kernel passes through the proper prefixes of a path. -/
theorem mem_dropLast_inits {before raw : List Text} :
    before ∈ raw.inits.dropLast ↔ before <+: raw ∧ before ≠ raw := by
  induction raw generalizing before with
  | nil => simp
  | cons name rest induction =>
      have some : rest.inits.map (name :: ·) ≠ [] := by
        rw [ne_eq, List.map_eq_nil_iff]
        exact List.ne_nil_of_mem ((List.mem_inits _ _).mpr List.prefix_rfl)
      rw [List.inits_cons, List.dropLast_cons_of_ne_nil some,
        ← List.map_dropLast, List.mem_cons, List.mem_map]
      simp only [induction]
      constructor
      · rintro (rfl | ⟨later, ⟨isPrefix, proper⟩, rfl⟩)
        · exact ⟨List.nil_prefix, by simp⟩
        · exact ⟨List.cons_prefix_cons.mpr ⟨rfl, isPrefix⟩, by simpa⟩
      · rintro ⟨isPrefix, proper⟩
        cases before with
        | nil => exact .inl rfl
        | cons first later =>
            obtain ⟨rfl, laterPrefix⟩ := List.cons_prefix_cons.mp isPrefix
            exact .inr ⟨later, ⟨laterPrefix, by simpa using proper⟩, rfl⟩

/-- A path to a place below a directory passes above it or below it. -/
theorem prefix_append_cases
    {before dest rel : List Text} (isPrefix : before <+: dest ++ rel) :
    before <+: dest ∨ ∃ inner, before = dest ++ inner ∧ inner <+: rel := by
  rcases List.prefix_or_prefix_of_prefix isPrefix
    (List.prefix_append dest rel) with above | ⟨inner, rfl⟩
  · exact .inl above
  · exact .inr ⟨inner, rfl, (List.prefix_append_right_inj dest).mp isPrefix⟩

namespace FileSystem

theorem realpath_concat
    {files : FileSystem} {before : List Text} {parent : Path}
    (resolved : files.realpath before = .ok parent) {name : Text}
    (plain : PlainName name) (absent : files.linkAt (parent ++ [name]) = none) :
    files.realpath (before ++ [name]) = .ok (parent ++ [name]) := by
  refine follow_append resolved ?_
  rw [advance, if_neg plain.1, if_neg plain.2, absent, advance]

end FileSystem

/--
A path of a caller denotes a directory, the calls can pass through it, and no
link lies below.
-/
structure Confined (dest : List Text) (root : Path) (files : FileSystem) :
    Prop where
  resolved : files.realpath dest = .ok root
  reached : ∀ before, before <+: dest → files.isDir before = true
  noLinks : ∀ below, below ≠ [] → files.linkAt (root ++ below) = none

/-- What a program may do that only adds or overwrites below a directory. -/
structure Grows (root : Path) (before after : FileSystem) : Prop where
  outside : ∀ path, (∀ below, below ≠ [] → path ≠ root ++ below) →
    after.lookup path = before.lookup path
  links : after.linkAt = before.linkAt
  directories : ∀ path, before.isDirectoryAt path = true →
    after.isDirectoryAt path = true

namespace Grows

variable {root : Path} {before after last : FileSystem}

theorem refl (files : FileSystem) : Grows root files files :=
  ⟨fun _ _ => rfl, rfl, fun _ => id⟩

theorem trans (first : Grows root before after)
    (second : Grows root after last) : Grows root before last :=
  ⟨fun path outside =>
    (second.outside path outside).trans (first.outside path outside),
    second.links.trans first.links, fun path isDirectory =>
      second.directories path (first.directories path isDirectory)⟩

theorem realpath (grows : Grows root before after) (raw : List Text) :
    after.realpath raw = before.realpath raw := by
  rw [FileSystem.realpath, FileSystem.realpath, grows.links]

theorem isDir (grows : Grows root before after) {raw : List Text}
    (isDirectory : before.isDir raw = true) : after.isDir raw = true := by
  rw [FileSystem.isDir] at isDirectory ⊢
  rw [grows.realpath]
  split at isDirectory
  · exact grows.directories _ isDirectory
  · cases isDirectory

theorem confined (grows : Grows root before after) {dest : List Text}
    (confined : Confined dest root before) : Confined dest root after := by
  constructor
  · rw [grows.realpath]
    exact confined.resolved
  · exact fun prior isPrefix => grows.isDir (confined.reached prior isPrefix)
  · rw [grows.links]
    exact confined.noLinks

/-- A new node below the directory that is no link and hides no directory. -/
theorem of_insert {below : Path} (isBelow : below ≠ []) {node : Node}
    (noLink : node.target = none)
    (wasNone : before.linkAt (root ++ below) = none)
    (stays : before.isDirectoryAt (root ++ below) = true →
      node.isDirectory = true) :
    Grows root before (before.insert (root ++ below) node) := by
  constructor
  · intro path outside
    exact AList.lookup_insert_ne (outside below isBelow)
  · funext path
    by_cases same : path = root ++ below
    · rw [same, wasNone, FileSystem.linkAt, AList.lookup_insert]
      exact noLink
    · rw [FileSystem.linkAt, AList.lookup_insert_ne same, FileSystem.linkAt]
  · intro path isDirectory
    by_cases same : path = root ++ below
    · subst same
      rw [FileSystem.isDirectoryAt, AList.lookup_insert]
      exact stays isDirectory
    · rw [FileSystem.isDirectoryAt, AList.lookup_insert_ne same]
      exact isDirectory

end Grows

end ScientificResourceLab.Python
