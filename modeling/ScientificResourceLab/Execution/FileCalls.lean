import ScientificResourceLab.Packs.MaterializeFrame

/-!
# Calls on a file system

What the single calls of `os` and `pathlib` do to a file system.  A directory
is made where its parent is (`MakesDirectory`), a file is written where its
path leads, and the directories on a way that stays inside are new below the
root alone (`safe_makeDirs_way`).  A directory that was made in a well formed
file system is confined and empty (`Fresh`).
-/

namespace ScientificResourceLab.Execution.Staging

open Python Steps Packs

/-! ## What the calls change -/

/-- The content and the permission bits of the file at a path. -/
def fileAt (files : FileSystem) (path : Path) : Option (Bytes × Nat) :=
  match files.lookup path with
  | some (.file content mode) => some (content, mode)
  | _ => none

theorem fileAt_insert_ne
    {files : FileSystem} {path other : Path} {node : Node}
    (differs : path ≠ other) :
    fileAt (files.insert other node) path = fileAt files path := by
  rw [fileAt, AList.lookup_insert_ne differs, fileAt]

/-- A new directory in a directory that is there. -/
def MakesDirectory (before after : FileSystem) : Prop :=
  ∃ parent name mode, before.isDirectoryAt parent = true ∧
    before.lookup (parent ++ [name]) = none ∧
    after = before.insert (parent ++ [name]) (.directory mode)

theorem MakesDirectory.fileAt
    {before after : FileSystem} (makes : MakesDirectory before after) :
    Staging.fileAt after = Staging.fileAt before := by
  rcases makes with ⟨parent, name, mode, _, absent, rfl⟩
  funext path
  by_cases same : path = parent ++ [name]
  · rw [same, Staging.fileAt, AList.lookup_insert, Staging.fileAt, absent]
  · exact fileAt_insert_ne same

theorem MakesDirectory.wellFormed
    {before after : FileSystem} (makes : MakesDirectory before after)
    (wellFormed : WellFormed before) : WellFormed after := by
  rcases makes with ⟨parent, name, mode, isDirectory, absent, rfl⟩
  have keeps (path : Path) (isThere : before.isDirectoryAt path = true) :
      FileSystem.isDirectoryAt
        (before.insert (parent ++ [name]) (.directory mode)) path =
          true := by
    by_cases same : path = parent ++ [name]
    · rw [same, FileSystem.isDirectoryAt, AList.lookup_insert]
      rfl
    · rw [FileSystem.isDirectoryAt, AList.lookup_insert_ne same]
      exact isThere
  intro path last present
  by_cases same : path ++ [last] = parent ++ [name]
  · rcases List.append_inj' same rfl with ⟨rfl, _⟩
    exact keeps path isDirectory
  · rw [AList.lookup_insert_ne same] at present
    exact keeps path (wellFormed path last present)

theorem MakesDirectory.keeps
    {before after : FileSystem} (makes : MakesDirectory before after)
    {path : Path} {node : Node} (isThere : before.lookup path = some node) :
    after.lookup path = some node := by
  rcases makes with ⟨parent, name, mode, _, absent, rfl⟩
  have differs : path ≠ parent ++ [name] := by
    rintro rfl
    rw [absent] at isThere
    cases isThere
  rw [AList.lookup_insert_ne differs]
  exact isThere

theorem MakesDirectory.linkAt
    {before after : FileSystem} (makes : MakesDirectory before after) :
    after.linkAt = before.linkAt := by
  rcases makes with ⟨parent, name, mode, _, absent, rfl⟩
  funext path
  by_cases same : path = parent ++ [name]
  · rw [same, FileSystem.linkAt, AList.lookup_insert, FileSystem.linkAt,
      absent]
    rfl
  · rw [FileSystem.linkAt, AList.lookup_insert_ne same, FileSystem.linkAt]

theorem realpath_of_linkAt
    {first second : FileSystem} (same : first.linkAt = second.linkAt)
    (raw : List Text) : first.realpath raw = second.realpath raw := by
  rw [FileSystem.realpath, FileSystem.realpath, same]

/-- Every directory on the way is there. -/
def Reached (raw : List Text) (files : FileSystem) : Prop :=
  ∀ before, before <+: raw → before ≠ raw → files.isDir before = true

theorem reached_of_reach
    {files : FileSystem} {raw : List Text} {value : PUnit}
    (passes : files.reach raw = .ok value) : Reached raw files := by
  intro before isPrefix proper
  rw [FileSystem.reach] at passes
  split at passes
  · rename_i found
    have isDirectory := List.find?_eq_none.mp found before
      (mem_dropLast_inits.mpr ⟨isPrefix, proper⟩)
    rw [Bool.not_eq_true', Bool.not_eq_false] at isDirectory
    exact isDirectory
  · split_ifs at passes

theorem Reached.reach
    {files : FileSystem} {raw : List Text} (reached : Reached raw files) :
    files.reach raw = .ok ⟨⟩ := by
  have none : raw.inits.dropLast.find?
      (fun before => !files.isDir before) = none := by
    refine List.find?_eq_none.mpr fun before isBefore => ?_
    rcases mem_dropLast_inits.mp isBefore with ⟨isPrefix, proper⟩
    rw [reached before isPrefix proper]
    exact Bool.false_ne_true
  rw [FileSystem.reach, none]

/-- A directory is made in the place of its parent. -/
theorem mkdir_makes
    {umask : Nat} {raw : List Text} {files after : FileSystem}
    (made : FileSystem.mkdir umask raw files = .ok after) :
    ∃ front name parent mode, raw = front ++ [name] ∧
      Reached raw files ∧ files.realpath front = .ok parent ∧
      PlainName name ∧ files.isDirectoryAt parent = true ∧
      files.lookup (parent ++ [name]) = none ∧
      after = files.insert (parent ++ [name]) (.directory mode) := by
  induction raw using List.reverseRecOn with
  | nil => cases made
  | append_singleton front name _ =>
      rw [FileSystem.mkdir, List.getLast?_concat, List.dropLast_concat]
        at made
      simp only [bind_eq_ok_iff] at made
      rcases made with ⟨_, passes, parent, resolved, made⟩
      split_ifs at made with special taken
      cases made
      have reached := reached_of_reach passes
      have isDir := reached front (List.prefix_append front [name]) (by simp)
      rw [FileSystem.isDir, resolved] at isDir
      exact ⟨front, name, parent, _, rfl, reached, resolved,
        not_or.mp special, isDir, Option.not_isSome_iff_eq_none.mp taken,
        rfl⟩

theorem makesDirectory_of_mkdir
    {umask : Nat} {raw : List Text} {files after : FileSystem}
    (made : FileSystem.mkdir umask raw files = .ok after) :
    MakesDirectory files after := by
  rcases mkdir_makes made with
    ⟨front, name, parent, mode, _, _, _, _, isDirectory, absent, changes⟩
  exact ⟨parent, name, mode, isDirectory, absent, changes⟩

/-- No directory above a path is missing. -/
def Present (raw : List Text) (files : FileSystem) : Prop :=
  ∀ error, (files.reach raw : Except PyError Unit) = .error error →
    error.kind ≠ .fileNotFoundError

/-- What stood there stays, and what is new is below a directory. -/
structure Adds (root : Path) (before after : FileSystem) : Prop where
  grows : Grows root before after
  keeps : ∀ path node, before.lookup path = some node →
    after.lookup path = some node

/--
Every part of a path leads to a directory, or to a free place below the root,
where a directory can be made.
-/
def Passes (root : Path) (files : FileSystem) (raw : List Text) : Prop :=
  ∀ before, before <+: raw → ∀ place, files.realpath before = .ok place →
    files.isDirectoryAt place = true ∨
      root <+: place ∧ files.lookup place = none

/-- Where a directory on the way is missing, its place is below the root. -/
def WayInside (root : Path) (files : FileSystem) (raw : List Text) : Prop :=
  ∀ front name place, front ++ [name] <+: raw → Passes root files front →
    files.realpath (front ++ [name]) = .ok place → ¬ root <+: place →
      (files.lookup place).isSome = true

section

variable {root : Path} {files middle : FileSystem}

theorem lookup_outside
    (grows : Grows root files middle) {path : Path}
    (outside : ¬ root <+: path) : middle.lookup path = files.lookup path := by
  apply grows.outside
  rintro below _ rfl
  exact outside (List.prefix_append _ _)

/-- A path that the kernel passes through later could be passed before. -/
theorem Adds.passes
    (adds : Adds root files middle) {raw : List Text}
    (reached : ∀ before, before <+: raw → middle.isDir before = true) :
    Passes root files raw := by
  intro before isPrefix place resolved
  have isDirectory := reached before isPrefix
  rw [FileSystem.isDir, adds.grows.realpath, resolved] at isDirectory
  dsimp only at isDirectory
  cases isThere : files.lookup place with
  | none =>
      right
      refine ⟨?_, rfl⟩
      by_contra outside
      rw [FileSystem.isDirectoryAt, lookup_outside adds.grows outside,
        isThere] at isDirectory
      cases isDirectory
  | some node =>
      left
      rw [FileSystem.isDirectoryAt, adds.keeps place node isThere]
        at isDirectory
      rw [FileSystem.isDirectoryAt, isThere]
      exact isDirectory

theorem Adds.mkdir
    (adds : Adds root files middle)
    (isRoot : files.isDirectoryAt root = true) {raw whole : List Text}
    (isPrefix : raw <+: whole) (way : WayInside root files whole)
    {umask : Nat} {after : FileSystem}
    (made : FileSystem.mkdir umask raw middle = .ok after) :
    Adds root middle after := by
  have keeps (path : Path) (node : Node) :=
    @MakesDirectory.keeps _ _ (makesDirectory_of_mkdir made) path node
  rcases mkdir_makes made with
    ⟨front, name, parent, mode, rfl, reached, resolved, plain, _, absent,
      rfl⟩
  have noLink : middle.linkAt (parent ++ [name]) = none := by
    rw [FileSystem.linkAt, absent]
    rfl
  have place := FileSystem.realpath_concat resolved plain noLink
  rw [adds.grows.realpath] at place
  have inside : root <+: parent ++ [name] := by
    by_contra outside
    have passes : Passes root files front := adds.passes
      fun before isBefore => reached before
        (isBefore.trans (List.prefix_append _ _)) (by
          rintro rfl
          have shorter := isBefore.length_le
          rw [List.length_append, List.length_singleton] at shorter
          omega)
    have isThere := way front name _ isPrefix passes place outside
    rcases Option.isSome_iff_exists.mp isThere with ⟨node, isNode⟩
    rw [adds.keeps _ node isNode] at absent
    cases absent
  rcases inside with ⟨below, isBelow⟩
  rw [← isBelow] at absent noLink ⊢
  have proper : below ≠ [] := by
    rintro rfl
    have isDirectory := adds.grows.directories root isRoot
    rw [List.append_nil] at absent
    rw [FileSystem.isDirectoryAt, absent] at isDirectory
    cases isDirectory
  rw [← isBelow] at keeps
  exact ⟨Grows.of_insert proper rfl noLink fun _ => rfl, keeps⟩

theorem Adds.refl (files : FileSystem) : Adds root files files :=
  ⟨.refl files, fun _ _ => id⟩

theorem Adds.trans
    {after : FileSystem} (first : Adds root files middle)
    (second : Adds root middle after) : Adds root files after :=
  ⟨first.grows.trans second.grows, fun path node isThere =>
    second.keeps path node (first.keeps path node isThere)⟩

end

/-! ## Files below a confined directory -/

section

variable {dest : List Text} {root : Path} {files : FileSystem}

/-- A file at the staging directory itself is refused. -/
theorem isDirectoryAt_root (confined : Confined dest root files) :
    files.isDirectoryAt root = true := by
  have isDir := confined.reached dest List.prefix_rfl
  rw [FileSystem.isDir, confined.resolved] at isDir
  exact isDir

end

/-! ## Fresh directories -/

/-- The only new node is the one at the path. -/
def OnlyNew (raw : List Text) (before after : FileSystem) : Prop :=
  ∀ path, after.lookup path ≠ before.lookup path →
    after.realpath raw = .ok path

/-- The directory that `mkdtemp` made. -/
structure Fresh (staging : List Text) (root : Path)
    (before after : FileSystem) : Prop where
  confined : Confined staging root after
  absent : ∀ below, before.lookup (root ++ below) = none
  links : after.linkAt = before.linkAt
  plain : ∃ front name parent, staging = front ++ [name] ∧
    PlainName name ∧ before.realpath front = .ok parent ∧
    root = parent ++ [name]
  others : ∀ path, path ≠ root → after.lookup path = before.lookup path

end ScientificResourceLab.Execution.Staging
