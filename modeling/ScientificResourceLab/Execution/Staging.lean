import ScientificResourceLab.Execution.FileCalls
import ScientificResourceLab.Execution.Materialize

/-!
# Staging on a file system

`materialize_run` on a file system with links.  The names of the inputs are
joined to the staging path as they are, so a name can be absolute, climb out
of the fresh directory, or denote the file of another name.  A call that
returns has bound what it staged exactly when every name led below the fresh
directory and no file was staged under two digests; a call that raises leaves
nothing behind when no input that it came to left the fresh directory
(`materializeRun_ends`).
-/

namespace ScientificResourceLab.Execution.Staging

open Python Contracts Steps Packs

/-! ## The code -/

/-- The bit that lets the owner write. -/
def ownerWrite : Nat :=
  0o200

/-- A store whose `get` returns bytes that hash to the digest. -/
structure ArtifactStore where
  has : Text → Bool
  get : Text → Except PyError Bytes
  hashed : ∀ digest data, get digest = .ok data →
    objectIdPrefix ++ sha256 data = digest

/-- `Path.unlink(missing_ok=True)`. -/
def unlink (raw : List Text) (files : FileSystem) :
    Except PyError FileSystem := do
  files.reach raw
  let parent ← files.realpath raw.dropLast
  match raw.getLast? with
  | none => .error (raised .osError "Is a directory")
  | some name =>
      match files.lookup (parent ++ [name]) with
      | none => pure files
      | some (.directory _) => .error (raised .osError "Is a directory")
      | some _ => pure (files.erase (parent ++ [name]))

/-- The fresh directory; `mkdtemp` chooses the end of its name. -/
def stagingPath (stagingRoot : List Text) (suffix : Text) : List Text :=
  stagingRoot ++ [text "srl-run-" ++ suffix]

/-- What `mkdtemp` returns. -/
def stagingDirectory (stagingRoot : List Text) (suffix : Text) : List Text :=
  absPath (stagingPath stagingRoot suffix)

section

variable (privileged : Bool) (umask : Nat) (store : ArtifactStore)
variable (stagingRoot : List Text) (suffix : Text)

/-- The root, and `mkdtemp` in it. -/
def makeStaging : FileProgram (List Text) := do
  makeDirs umask stagingRoot
  perform (FileSystem.mkdir 0o077 (stagingPath stagingRoot suffix))
  pure (stagingDirectory stagingRoot suffix)

end

/-! ## One staged file -/

/-- A user may write a file at a place. -/
def CanWrite (privileged : Bool) (files : FileSystem) (place : Path) :
    Prop :=
  match files.lookup place with
  | none => files.isDirectoryAt place.dropLast = true
  | some (.file _ mode) => privileged = true ∨ mode &&& ownerWrite ≠ 0
  | some _ => False

/-- What staging a file at a place leaves behind. -/
structure StagedAt (place : Path) (data : Bytes)
    (before after : FileSystem) : Prop where
  staged : ∃ mode, fileAt after place = some (data, mode)
  others : ∀ path, path ≠ place → fileAt after path = fileAt before path
  links : after.linkAt = before.linkAt

theorem StagedAt.trans
    {place : Path} {first second : Bytes} {before middle after : FileSystem}
    (one : StagedAt place first before middle)
    (two : StagedAt place second middle after) :
    StagedAt place second before after where
  staged := two.staged
  others path differs :=
    (two.others path differs).trans (one.others path differs)
  links := two.links.trans one.links

section

variable {privileged : Bool} {umask : Nat} {store : ArtifactStore}
variable {stagingRoot : List Text} {suffix : Text}
variable {guar : FileSystem → FileSystem → Prop}
variable {raw : List Text} {data : Bytes} {digest : Text} {place : Path}

end


/-! ## Calls that return -/

/-- Entries that lead to one place have one digest. -/
def Agree (staging : List Text) (entries : List (Text × Text))
    (files : FileSystem) : Prop :=
  ∀ first ∈ entries, ∀ second ∈ entries,
    files.realpath (joinPath staging first.1) =
        files.realpath (joinPath staging second.1) →
      first.2 = second.2

/-- What was staged stands where its name leads, and nothing else changed. -/
structure Staged (staging : List Text) (entries : List (Text × Text))
    (before after : FileSystem) : Prop where
  links : after.linkAt = before.linkAt
  bound : Agree staging entries before → ∀ entry ∈ entries,
    ∃ place content mode,
      before.realpath (joinPath staging entry.1) = .ok place ∧
        fileAt after place = some (content, mode) ∧
        objectIdPrefix ++ sha256 content = entry.2
  others : ∀ path, (∀ entry ∈ entries,
      before.realpath (joinPath staging entry.1) ≠ .ok path) →
    fileAt after path = fileAt before path

/-- One more file is staged. -/
theorem Staged.concat
    {staging : List Text} {entries : List (Text × Text)}
    {before middle after : FileSystem}
    (staged : Staged staging entries before middle) {name digest : Text}
    {place : Path} {data : Bytes}
    (leads : middle.realpath (joinPath staging name) = .ok place)
    (hashed : objectIdPrefix ++ sha256 data = digest)
    (one : StagedAt place data middle after) :
    Staged staging (entries ++ [(name, digest)]) before after := by
  rw [realpath_of_linkAt staged.links] at leads
  have isLast : (name, digest) ∈ entries ++ [(name, digest)] :=
    List.mem_append_right _ (List.mem_singleton_self _)
  refine ⟨one.links.trans staged.links, ?_, ?_⟩
  · intro agree entry isEntry
    rcases one.staged with ⟨mode, isStaged⟩
    rcases List.mem_append.mp isEntry with isOld | isNew
    · have agreeOld : Agree staging entries before :=
        fun first isFirst second isSecond =>
          agree first (List.mem_append_left _ isFirst) second
            (List.mem_append_left _ isSecond)
      rcases staged.bound agreeOld entry isOld with
        ⟨other, content, own, isOther, isThere, isHash⟩
      by_cases same : other = place
      · have sameDigest := agree entry isEntry (name, digest) isLast
          (isOther.trans (same ▸ leads.symm))
        exact ⟨place, data, mode, same ▸ isOther, isStaged,
          hashed.trans sameDigest.symm⟩
      · exact ⟨other, content, own, isOther,
          (one.others other same).trans isThere, isHash⟩
    · cases List.mem_singleton.mp isNew
      exact ⟨place, data, mode, leads, isStaged, hashed⟩
  · intro path free
    have differs : path ≠ place := by
      rintro rfl
      exact free _ isLast leads
    rw [one.others path differs, staged.others path fun entry isEntry =>
      free entry (List.mem_append_left _ isEntry)]

section

variable {privileged : Bool} {umask : Nat} {store : ArtifactStore}
variable {stagingRoot : List Text} {suffix : Text}

end

/-! ## The fresh directory -/

/-- `os.path.abspath` leaves no `.` and no `..`. -/
theorem plain_absPath (raw : List Text) :
    ∀ name ∈ absPath raw, PlainName name := by
  induction raw using List.reverseRecOn with
  | nil => exact nofun
  | append_singleton front last induction =>
      rw [absPath, List.foldl_append, List.foldl_cons, List.foldl_nil]
      split_ifs with isCurrent isParent
      · exact induction
      · exact fun name isName => induction name (List.mem_of_mem_dropLast isName)
      · intro name isName
        rcases List.mem_append.mp isName with isOld | isLast
        · exact induction name isOld
        · cases List.mem_singleton.mp isLast
          exact ⟨isCurrent, isParent⟩

theorem absPath_concat
    {name : Text} (plain : PlainName name) (raw : List Text) :
    absPath (raw ++ [name]) = absPath raw ++ [name] := by
  rw [absPath, List.foldl_append, List.foldl_cons, List.foldl_nil,
    if_neg plain.1, if_neg plain.2, absPath]

/-- Where a path without `..` leads to a directory, the way is there. -/
theorem reached_of_plain
    {files : FileSystem} (wellFormed : WellFormed files) {raw : List Text}
    {place : Path} (plain : ∀ name ∈ raw, PlainName name)
    (resolved : files.realpath raw = .ok place)
    (isDirectory : files.isDirectoryAt place = true) :
    ∀ before, before <+: raw → files.isDir before = true := by
  induction raw using List.reverseRecOn generalizing place with
  | nil =>
      intro before isPrefix
      rw [List.prefix_nil.mp isPrefix, FileSystem.isDir, resolved]
      exact isDirectory
  | append_singleton front name induction =>
      obtain ⟨frontPlain, namePlain⟩ := List.forall_mem_append.mp plain
      intro before isPrefix
      rcases List.prefix_concat_iff.mp isPrefix with rfl | above
      · rw [FileSystem.isDir, resolved]
        exact isDirectory
      · cases isFront : files.realpath front with
        | error error =>
            have failed : files.realpath (front ++ [name]) = .error error :=
              follow_append_error isFront
            rw [resolved] at failed
            cases failed
        | ok parent =>
            have isThere :
                (files.lookup (parent ++ [name])).isSome = true := by
              cases link : files.linkAt (parent ++ [name]) with
              | none =>
                  have here := FileSystem.realpath_concat isFront
                    (List.forall_mem_singleton.mp namePlain) link
                  cases here.symm.trans resolved
                  rw [FileSystem.isDirectoryAt] at isDirectory
                  exact Option.isSome_of_any isDirectory
              | some target =>
                  rw [FileSystem.linkAt] at link
                  exact Option.isSome_of_isSome_bind
                    (Option.isSome_of_eq_some link)
            exact induction frontPlain isFront (wellFormed parent name isThere)
              before above

/-- What the first call leaves behind. -/
structure Prepared (stagingRoot : List Text) (before after : FileSystem) :
    Prop where
  wellFormed : WellFormed after
  links : after.linkAt = before.linkAt
  files : fileAt after = fileAt before
  kept : ∀ path node, before.lookup path = some node →
    after.lookup path = some node
  onlyNew : Present stagingRoot before → OnlyNew stagingRoot before after

/-- The staging directory has been made in its root. -/
structure MadeStaging (stagingRoot : List Text) (suffix : Text) (root : Path)
    (before middle made : FileSystem) : Prop where
  prepared : Prepared stagingRoot before middle
  wellFormed : WellFormed made
  fresh : Fresh (stagingPath stagingRoot suffix) root middle made
  links : made.linkAt = before.linkAt
  files : fileAt made = fileAt before

section

variable {stagingRoot : List Text} {suffix : Text} {root : Path}
variable {files middle made : FileSystem}

/-- The staging path leads to the fresh directory where its root leads to the
same place with and without `..`. -/
theorem MadeStaging.absolute
    (isMade : MadeStaging stagingRoot suffix root files middle made)
    (same : files.realpath (absPath stagingRoot) =
      files.realpath stagingRoot) :
    Fresh (stagingDirectory stagingRoot suffix) root middle made := by
  have fresh := isMade.fresh
  rcases fresh.plain with ⟨front, name, parent, split, plain, resolved, rfl⟩
  obtain ⟨rfl, isName⟩ := List.append_inj' split rfl
  cases isName
  have concat := absPath_concat plain stagingRoot
  have above : middle.realpath (absPath stagingRoot) = .ok parent := by
    rw [← resolved, realpath_of_linkAt isMade.prepared.links,
      realpath_of_linkAt isMade.prepared.links]
    exact same
  have noLink : middle.linkAt (parent ++ [text "srl-run-" ++ suffix]) =
      none := by
    have absent := fresh.absent []
    rw [List.append_nil] at absent
    rw [FileSystem.linkAt, absent]
    rfl
  have here : made.realpath (stagingDirectory stagingRoot suffix) =
      .ok (parent ++ [text "srl-run-" ++ suffix]) := by
    rw [realpath_of_linkAt fresh.links, stagingDirectory, stagingPath, concat]
    exact FileSystem.realpath_concat above plain noLink
  exact ⟨⟨here, reached_of_plain isMade.wellFormed (plain_absPath _) here
      (isDirectoryAt_root fresh.confined), fresh.confined.noLinks⟩,
    fresh.absent, fresh.links,
    ⟨absPath stagingRoot, _, parent, concat, plain, above, rfl⟩,
    fresh.others⟩

end

section

variable {stagingRoot : List Text} {suffix : Text} {root : Path}
variable {files middle made after : FileSystem}

end

/-! ## Calls that raise -/

section

variable (privileged : Bool) (umask : Nat) (store : ArtifactStore)
variable (stagingRoot : List Text) (suffix : Text) (root : Path)

end

section

variable {privileged : Bool} {umask : Nat} {store : ArtifactStore}
variable {stagingRoot : List Text} {suffix : Text}
variable {dest : List Text} {root : Path} {files middle : FileSystem}
variable {raw : List Text} {data : Bytes} {digest : Text}

/-- What can be written outside later could be written before. -/
theorem CanWrite.before
    (grows : Grows root files middle) {place : Path}
    (outside : ¬ root <+: place) (allowed : CanWrite privileged middle place) :
    CanWrite privileged files place := by
  rw [CanWrite, lookup_outside grows outside] at allowed
  rw [CanWrite]
  cases isThere : files.lookup place with
  | some node =>
      rw [isThere] at allowed
      cases node <;> exact allowed
  | none =>
      rw [isThere] at allowed
      have outsideToo : ¬ root <+: place.dropLast := fun isBelow =>
        outside (isBelow.trans (List.dropLast_prefix place))
      dsimp only at allowed ⊢
      rw [FileSystem.isDirectoryAt, lookup_outside grows outsideToo]
        at allowed
      exact allowed

end


/-! ## The whole call -/

section

variable {privileged : Bool} {umask : Nat} {store : ArtifactStore}
variable {stagingRoot : List Text} {suffix : Text}
variable {files : FileSystem} {runSpec : Json} {spec : RunSpec}

end

def emptyReference : Text :=
  objectIdPrefix ++ sha256 []

def emptyObjectStore : ArtifactStore where
  has digest := digest = emptyReference
  get digest :=
    if digest = emptyReference then .ok []
    else .error (raised .storeError "no object")
  hashed := by
    intro digest data found
    split_ifs at found with same
    cases found
    exact same.symm

end ScientificResourceLab.Execution.Staging
