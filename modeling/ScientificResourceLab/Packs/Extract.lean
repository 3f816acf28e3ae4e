import Mathlib.Data.List.DropRight
import ScientificResourceLab.Python.FileTrees
import ScientificResourceLab.Steps.Checks

/-!
# Extraction of packs

`_extract_tar` and `_extract_zip` of `srl.packs.extract`.  An archive is the
list of its members as `tarfile` and `zipfile` read them.  A member's name is
split at both separators and cleaned, its kind and its permission bits are
checked, and then a directory is made or a file is written below the
destination.

Each member comes to one operation on the tree of the destination
(`tarPlan`, `zipPlan`), and the extraction of an archive refines the sequence
of these operations.  As all operations lie below the destination and none
makes a link, nothing outside is ever touched.
-/

namespace ScientificResourceLab.Packs

open Python Steps

/-! ## Names and modes -/

/-- `_reject`. -/
def reject (message : Text) : PyError :=
  ⟨.packIntegrityError, message⟩

/-- `name.replace("\\", "/")`. -/
def slashed (name : Text) : Text :=
  name.map fun point =>
    if point = codePoint '\\' then codePoint '/' else point

/-- The parts of a name that are neither empty nor `.`. -/
def cleanParts (name : Text) : List Text :=
  pathParts (slashed name)

/-- A name that starts at a root. -/
def isAbsoluteName (name : Text) : Bool :=
  name.head? = some (codePoint '/') ||
    (name.head? = some (codePoint '\\') && 1 < name.length)

/-- A name that starts with a drive letter; `isAlpha` is `str.isalpha`. -/
def hasDrive (isAlpha : CodePoint → Bool) : Text → Bool
  | letter :: colon :: _ => colon = codePoint ':' && isAlpha letter
  | _ => false

/-- `_relative_target`. -/
def relativeTarget (isAlpha : CodePoint → Bool) (name : Text)
    (dest : List Text) : Except PyError (List Text) := do
  refuseIf (isAbsoluteName name = true)
    (reject (text "archive contains absolute path: " ++ quoted name))
  refuseIf (hasDrive isAlpha name = true)
    (reject (text "archive contains absolute path with drive letter: " ++
      quoted name))
  refuseIf (text ".." ∈ cleanParts name)
    (reject (text "archive contains path traversal: " ++ quoted name))
  refuseIf (cleanParts name = [])
    (reject (text "archive contains empty or all-dot path: " ++
      quoted name))
  pure (dest ++ cleanParts name)

/-- `_DIR_MODE`. -/
def dirMode : Nat := 0o755

/-- `_FILE_MODE`. -/
def fileMode : Nat := 0o644

/-- `_ENTRYPOINT_MODE`. -/
def entrypointMode : Nat := 0o755

/-- `_EXEC_MASK`. -/
def execMask : Nat := 0o111

/-- `_SUID_SGID_MASK`. -/
def suidSgidMask : Nat := 0o6000

/-- `oct`. -/
def octalText (value : Nat) : Text :=
  text "0o" ++
    (if value = 0 then [digitPoint 0]
      else (Nat.digits 8 value).reverse.map digitPoint)

/-- `_check_archive_mode`. -/
def checkArchiveMode (rawMode : Nat) (relPath : Text)
    (entrypoints : List Text) : Except PyError Unit := do
  refuseIf (rawMode &&& suidSgidMask ≠ 0)
    (reject (text "path " ++ quoted relPath ++
      text " has setuid/setgid bits (" ++
      octalText (rawMode &&& suidSgidMask) ++ text ")"))
  refuseIf (relPath ∉ entrypoints ∧ rawMode &&& execMask ≠ 0)
    (reject (text "path " ++ quoted relPath ++
      text " has unexpected executable bits (" ++
      octalText (rawMode &&& execMask) ++
      text ") and is not a declared entrypoint"))

/-- `_normalize_file_mode`. -/
def normalizeFileMode (relPath : Text) (entrypoints : List Text) : Nat :=
  if relPath ∈ entrypoints then entrypointMode else fileMode

/-! ## Placing a member -/

/-- `_is_within_dest`. -/
def isWithinDest (target dest : List Text) (files : FileSystem) : Bool :=
  match files.realpath target, files.realpath dest with
  | .ok member, .ok root => root.isPrefixOf member
  | _, _ => false

/-- What a member has become, under the name that the report gives. -/
inductive Extracted where
  | dir (relPath : Text)
  | file (relPath : Text)
  deriving DecidableEq

/-- The report of an extraction, without the destination. -/
structure ExtractionReport where
  extractedFiles : List Text
  extractedDirs : List Text
  deriving DecidableEq

/-- The path that a file is reported under. -/
def Extracted.filePath : Extracted → Option Text
  | .file relPath => some relPath
  | .dir _ => none

/-- The path that a directory is reported under. -/
def Extracted.dirPath : Extracted → Option Text
  | .dir relPath => some relPath
  | .file _ => none

/-- The report about the members in their order. -/
def reportOf (extracted : List Extracted) : ExtractionReport where
  extractedFiles :=
    (extracted.filterMap Extracted.filePath).insertionSort (· ≤ ·)
  extractedDirs :=
    (extracted.filterMap Extracted.dirPath).insertionSort (· ≤ ·)

/-- A directory member. -/
def placeDirectory (umask : Nat) (target : List Text) :
    FileProgram PUnit := do
  makeDirs umask target
  perform (FileSystem.chmod target dirMode)

/-- A file member, with the check that it did not escape. -/
def placeFile (umask : Nat) (dest target : List Text) (relPath : Text)
    (content : Bytes) (mode : Nat) : FileProgram PUnit := do
  makeDirs umask target.dropLast
  writeWithMode umask target content mode
  let within ← Program.observe (isWithinDest target dest)
  if within then pure ⟨⟩
  else throw (reject (text "extracted path " ++ quoted relPath ++
    text " escaped destination after write"))

/-! ## Tar -/

/-- The type of a tar member. -/
inductive TarType where
  | regular
  | directory
  | symlink
  | hardLink
  | fifo
  | characterDevice
  | blockDevice
  | unknown
  deriving DecidableEq

/-- `tarfile.TarInfo` with the content of a regular member. -/
structure TarInfo where
  name : Text
  type : TarType
  mode : Nat
  content : Bytes

/-- The path that a tar member is reported under. -/
def TarInfo.relPath (member : TarInfo) : Text :=
  (slashed member.name).dropWhile (· = codePoint '/')

def checkTarType (type : TarType) (relPath : Text) : Except PyError Unit :=
  match type with
  | .symlink | .hardLink =>
      .error (reject (text "archive contains link at " ++ quoted relPath))
  | .fifo | .characterDevice | .blockDevice =>
      .error (reject (text "archive contains special device/fifo/socket " ++
        text "at " ++ quoted relPath))
  | .unknown =>
      .error (reject (text "archive contains unsupported member type at " ++
        quoted relPath))
  | .regular | .directory => .ok ()

/-- `_extract_tar_member`. -/
def extractTarMember (umask : Nat) (isAlpha : CodePoint → Bool)
    (dest : List Text) (entrypoints : List Text) (member : TarInfo) :
    FileProgram Extracted := do
  let relPath := member.relPath
  let target ← Program.compute (relativeTarget isAlpha member.name dest)
  Program.compute (checkTarType member.type relPath)
  Program.compute (checkArchiveMode member.mode relPath entrypoints)
  if member.type = .directory then do
    placeDirectory umask target
    pure (.dir relPath)
  else do
    placeFile umask dest target relPath member.content
      (normalizeFileMode relPath entrypoints)
    pure (.file relPath)

/-- The members one after the other. -/
def extractEach {Member : Type} (extract : Member → FileProgram Extracted) :
    List Member → FileProgram (List Extracted)
  | [] => pure []
  | member :: rest => do
      let first ← extract member
      let others ← extractEach extract rest
      pure (first :: others)

/-- `_extract_tar`. -/
def extractTar (umask : Nat) (isAlpha : CodePoint → Bool)
    (dest : List Text) (entrypoints : List Text) (members : List TarInfo) :
    FileProgram ExtractionReport := do
  let extracted ← extractEach
    (extractTarMember umask isAlpha dest entrypoints) members
  pure (reportOf extracted)

/-! ## Zip -/

/-- `zipfile.ZipInfo` with the content of the entry. -/
structure ZipInfo where
  filename : Text
  externalAttr : Nat
  content : Bytes

/-- The path that a zip entry is reported under. -/
def ZipInfo.relPath (info : ZipInfo) : Text :=
  (slashed info.filename).rdropWhile (· = codePoint '/')

/-- `_zip_member_mode`. -/
def ZipInfo.mode (info : ZipInfo) : Nat :=
  (info.externalAttr >>> 16) &&& 0xFFFF

/-- The Unix file type in the mode. -/
def ZipInfo.fileType (info : ZipInfo) : Nat :=
  (info.mode >>> 12) &&& 0xF

/-- `_zip_member_is_symlink`. -/
def ZipInfo.isSymlink (info : ZipInfo) : Bool :=
  info.fileType = 0xA

/-- `_zip_member_is_special`. -/
def ZipInfo.isSpecial (info : ZipInfo) : Bool :=
  info.fileType ∉ [0x0, 0x4, 0x8]

/-- `ZipInfo.is_dir`. -/
def ZipInfo.isDir (info : ZipInfo) : Bool :=
  info.filename.getLast? = some (codePoint '/')

def checkZipType (info : ZipInfo) : Except PyError Unit := do
  refuseIf (info.isSymlink = true)
    (reject (text "archive contains symlink at " ++ quoted info.relPath))
  refuseIf (info.isSpecial = true)
    (reject (text "archive contains special entry at " ++
      quoted info.relPath))

/-- `ZipFile.read`: the content of the last entry of a name. -/
def readZip (infos : List ZipInfo) (filename : Text) : Bytes :=
  ((infos.reverse.find? fun info => info.filename = filename).map
    ZipInfo.content).getD []

/-- One turn of the loop of `_extract_zip`. -/
def extractZipEntry (umask : Nat) (isAlpha : CodePoint → Bool)
    (dest : List Text) (entrypoints : List Text) (infos : List ZipInfo)
    (info : ZipInfo) : FileProgram Extracted := do
  let relPath := info.relPath
  let target ← Program.compute (relativeTarget isAlpha info.filename dest)
  Program.compute (checkZipType info)
  if info.isDir then do
    placeDirectory umask target
    pure (.dir relPath)
  else do
    Program.compute (checkArchiveMode info.mode relPath entrypoints)
    placeFile umask dest target relPath (readZip infos info.filename)
      (normalizeFileMode relPath entrypoints)
    pure (.file relPath)

/-- `_extract_zip`. -/
def extractZip (umask : Nat) (isAlpha : CodePoint → Bool)
    (dest : List Text) (entrypoints : List Text) (infos : List ZipInfo) :
    FileProgram ExtractionReport := do
  let extracted ← extractEach
    (extractZipEntry umask isAlpha dest entrypoints infos) infos
  pure (reportOf extracted)

/-! ## What the checks admit -/

/-- A name that `_relative_target` accepts. -/
def SafeName (isAlpha : CodePoint → Bool) (name : Text) : Prop :=
  isAbsoluteName name = false ∧ hasDrive isAlpha name = false ∧
    text ".." ∉ cleanParts name ∧ cleanParts name ≠ []

instance (isAlpha : CodePoint → Bool) (name : Text) :
    Decidable (SafeName isAlpha name) :=
  inferInstanceAs (Decidable (_ ∧ _ ∧ _ ∧ _))

theorem relativeTarget_eq_ok
    {isAlpha : CodePoint → Bool} {name : Text} {dest target : List Text} :
    relativeTarget isAlpha name dest = .ok target ↔
      SafeName isAlpha name ∧ target = dest ++ cleanParts name := by
  simp only [relativeTarget, bind_eq_ok_iff, refuseIf_eq_ok_iff,
    Bool.not_eq_true, pure_eq_ok_iff, exists_const, SafeName, and_assoc,
    eq_comm (a := target), ne_eq]

/-- Bits that `_check_archive_mode` accepts. -/
def ModeAllowed (rawMode : Nat) (relPath : Text)
    (entrypoints : List Text) : Prop :=
  rawMode &&& suidSgidMask = 0 ∧
    (relPath ∈ entrypoints ∨ rawMode &&& execMask = 0)

instance (rawMode : Nat) (relPath : Text) (entrypoints : List Text) :
    Decidable (ModeAllowed rawMode relPath entrypoints) :=
  inferInstanceAs (Decidable (_ ∧ _))

theorem checkArchiveMode_eq_ok
    {rawMode : Nat} {relPath : Text} {entrypoints : List Text}
    {result : Unit} :
    checkArchiveMode rawMode relPath entrypoints = .ok result ↔
      ModeAllowed rawMode relPath entrypoints := by
  simp only [checkArchiveMode, bind_eq_ok_iff, refuseIf_eq_ok_iff, not_not,
    exists_const, ModeAllowed, not_and, ne_eq, ← or_iff_not_imp_left]

/-- The parts of an accepted name. -/
structure CleanPart (part : Text) : Prop where
  nonEmpty : part ≠ []
  plain : PlainName part
  noSlash : codePoint '/' ∉ part
  noBackslash : codePoint '\\' ∉ part

theorem mem_of_mem_splitOn
    {separator : CodePoint} {value part : Text}
    (isPart : part ∈ value.splitOn separator) :
    separator ∉ part ∧ ∀ point ∈ part, point ∈ value := by
  induction value generalizing part with
  | nil =>
      rw [List.splitOn_nil, List.mem_singleton] at isPart
      rw [isPart]
      exact ⟨List.not_mem_nil, fun _ isPoint => isPoint⟩
  | cons point rest induction =>
      have grows {part : Text} (isPart : part ∈ rest.splitOn separator) :
          separator ∉ part ∧ ∀ other ∈ part, other ∈ point :: rest :=
        ⟨(induction isPart).1, fun other isOther =>
          List.mem_cons_of_mem _ ((induction isPart).2 other isOther)⟩
      rw [List.splitOn_cons_eq_if_modifyHead] at isPart
      split_ifs at isPart with isSeparator
      · rcases List.mem_cons.mp isPart with rfl | later
        · exact ⟨List.not_mem_nil, fun _ isPoint => by cases isPoint⟩
        · exact grows later
      · obtain ⟨first, others, split⟩ := List.exists_cons_of_ne_nil
          (List.splitOn_ne_nil separator rest)
        rw [split, List.modifyHead_cons] at isPart
        rcases List.mem_cons.mp isPart with rfl | later
        · obtain ⟨absent, inside⟩ := grows (split ▸ List.mem_cons_self)
          refine ⟨?_, ?_⟩
          · rw [List.mem_cons, not_or]
            refine ⟨?_, absent⟩
            rintro rfl
            exact isSeparator (beq_self_eq_true _)
          · exact List.forall_mem_cons.mpr ⟨List.mem_cons_self, inside⟩
        · exact grows (split ▸ List.mem_cons_of_mem _ later)

theorem cleanParts_clean
    {isAlpha : CodePoint → Bool} {name : Text}
    (safe : SafeName isAlpha name) :
    ∀ part ∈ cleanParts name, CleanPart part := by
  intro part isPart
  obtain ⟨isSplit, kept⟩ := List.mem_filter.mp isPart
  rw [decide_eq_true_eq] at kept
  obtain ⟨noSlash, inName⟩ := mem_of_mem_splitOn isSplit
  refine ⟨kept.1, ⟨kept.2, ?_⟩, noSlash, ?_⟩
  · rintro rfl
    exact safe.2.2.1 isPart
  · intro isMember
    obtain ⟨point, _, same⟩ := List.mem_map.mp (inName _ isMember)
    split_ifs at same with isBackslash
    · exact absurd same (by decide)
    · exact isBackslash same

/-! ## Operations -/

/-- What a member does to the tree of the destination. -/
inductive Operation where
  | makeDir (rel : Path)
  | putFile (rel : Path) (content : Bytes) (mode : Nat)

/-- The path that an operation is about. -/
def Operation.path : Operation → Path
  | .makeDir rel => rel
  | .putFile rel _ _ => rel

/-- The operation on a tree; `newMode` is the mode of new directories. -/
def Operation.apply (newMode : Nat) (tree : Tree) :
    Operation → Option Tree
  | .makeDir rel =>
      (tree.makeDirs newMode rel).map fun made =>
        made.put rel (.directory dirMode)
  | .putFile rel content mode =>
      (tree.makeDirs newMode rel.dropLast).bind fun made =>
        made.putFile rel content mode

/-- The operations one after the other. -/
def applyAll (newMode : Nat) : List Operation → Tree → Option Tree
  | [], tree => some tree
  | operation :: rest, tree =>
      (operation.apply newMode tree).bind (applyAll newMode rest)

theorem makeDirs_eq_some_iff
    {newMode : Nat} {rel : Path} {tree made : Tree} :
    tree.makeDirs newMode rel = some made ↔
      tree.blocked rel = false ∧ made = tree.withDirs newMode rel := by
  rw [Tree.makeDirs]
  cases tree.blocked rel <;> simp [eq_comm]

theorem Operation.apply_sound
    {newMode : Nat} {tree after : Tree} (sound : tree.Sound)
    {operation : Operation} (isBelow : operation.path ≠ [])
    (applied : operation.apply newMode tree = some after) :
    after.Sound := by
  cases operation with
  | makeDir rel =>
      obtain ⟨made, isMade, rfl⟩ := Option.map_eq_some_iff.mp applied
      obtain ⟨free, rfl⟩ := makeDirs_eq_some_iff.mp isMade
      exact (sound.withDirs free newMode).put_directory isBelow
        (Tree.isDirectory_withDirs free List.prefix_rfl newMode) dirMode
  | putFile rel content mode =>
      obtain ⟨made, isMade, written⟩ := Option.bind_eq_some_iff.mp applied
      obtain ⟨free, rfl⟩ := makeDirs_eq_some_iff.mp isMade
      obtain ⟨parent, name, rfl⟩ :=
        (List.eq_nil_or_concat' rel).resolve_left isBelow
      rw [List.dropLast_concat] at free written
      rw [Tree.putFile] at written
      split_ifs at written with isDirectory
      cases written
      exact (sound.withDirs free newMode).put_file
        (Tree.isDirectory_withDirs free List.prefix_rfl newMode)
        (eq_false_of_ne_true isDirectory) content mode

section

variable {dest : List Text} {root : Path} {files : FileSystem} {tree : Tree}
variable (confined : Confined dest root files)
variable (holds : Holds root files tree) (sound : tree.Sound)
variable {rel : Path} (isBelow : rel ≠ [])
variable (plain : ∀ name ∈ rel, PlainName name)

include confined holds sound in
/-- Go on after the directories were made. -/
theorem safe_makeDirs_bind
    {α : Type} {outcome : Option Tree} (umask : Nat)
    {rest : FileProgram α} (plain : ∀ name ∈ rel, PlainName name)
    (refused : tree.blocked rel = true → outcome = none)
    (goesOn : ∀ after, tree.blocked rel = false → Grows root files after →
      Confined dest root after →
      Holds root after
        (tree.withDirs (FileSystem.newDirectoryMode umask) rel) →
      rest.Safe (Grows root) (Leaves root outcome) after) :
    (makeDirs umask (dest ++ rel) >>= fun _ => rest).Safe (Grows root)
      (Leaves root outcome) files := by
  rw [Program.safe_bind]
  have made := (safe_makeDirs confined holds sound plain umask)
    |>.and_invariant (fun _ _ step grown => Grows.trans grown step)
      (Grows.refl files)
  refine made.mono (fun _ _ => id) ?_
  rintro (error | value) after ⟨ends, grown⟩
  · refine refused ?_
    by_contra free
    change tree.makeDirs _ rel = none at ends
    rw [Tree.makeDirs, if_neg free] at ends
    cases ends
  · obtain ⟨later, isLater, holdsAfter⟩ := ends
    obtain ⟨free, rfl⟩ := makeDirs_eq_some_iff.mp isLater
    exact goesOn after free grown (grown.confined confined) holdsAfter

include confined holds sound isBelow plain in
theorem safe_placeDirectory (umask : Nat) :
    (placeDirectory umask (dest ++ rel)).Safe (Grows root)
      (Leaves root ((Operation.makeDir rel).apply
        (FileSystem.newDirectoryMode umask) tree)) files := by
  refine safe_makeDirs_bind confined holds sound umask plain ?_ ?_
  · intro isBlocked
    rw [Operation.apply, Tree.makeDirs, if_pos isBlocked, Option.map_none]
  · intro after free _ confinedAfter holdsAfter
    rw [Operation.apply, Tree.makeDirs, free]
    obtain ⟨parent, name, rfl⟩ :=
      (List.eq_nil_or_concat' rel).resolve_left isBelow
    obtain ⟨own, isThere⟩ := (Tree.isDirectory_eq_true_iff isBelow).mp
      (Tree.isDirectory_withDirs free List.prefix_rfl _)
    exact safe_chmod confinedAfter holdsAfter (sound.withDirs free _) plain
      (Tree.isDirectory_withDirs free (List.prefix_append _ _) _) isThere
      dirMode

include confined holds sound isBelow plain in
/-- A file member is a file operation, and it never escapes. -/
theorem safe_placeFile
    (umask : Nat) (relPath : Text) (content : Bytes) (mode : Nat) :
    (placeFile umask dest (dest ++ rel) relPath content mode).Safe
      (Grows root)
      (Leaves root ((Operation.putFile rel content mode).apply
        (FileSystem.newDirectoryMode umask) tree)) files := by
  obtain ⟨parent, name, rfl⟩ :=
    (List.eq_nil_or_concat' rel).resolve_left isBelow
  have front : (dest ++ (parent ++ [name])).dropLast = dest ++ parent := by
    rw [← List.append_assoc, List.dropLast_concat]
  rw [placeFile, front]
  refine safe_makeDirs_bind confined holds sound umask
    (List.forall_mem_append.mp plain).1 ?_ ?_
  · intro isBlocked
    rw [Operation.apply, List.dropLast_concat, Tree.makeDirs,
      if_pos isBlocked, Option.bind_none]
  · intro after free _ confinedAfter holdsAfter
    rw [Operation.apply, List.dropLast_concat, Tree.makeDirs, free,
      Program.safe_bind]
    have written := (safe_writeWithMode confinedAfter holdsAfter
      (sound.withDirs free _) plain
      (Tree.isDirectory_withDirs free List.prefix_rfl _) umask content mode)
      |>.and_invariant (fun _ _ step before => step.confined before)
        confinedAfter
    refine written.mono (fun _ _ => id) ?_
    rintro (error | value) last ⟨ends, confinedLast⟩
    · exact ends
    · have within : isWithinDest (dest ++ (parent ++ [name])) dest last =
          true := by
        rw [isWithinDest, realpath_below confinedLast plain,
          confinedLast.resolved]
        exact List.isPrefixOf_iff_prefix.mpr (List.prefix_append _ _)
      simp only [Program.bindPost_ok, Program.safe_bind,
        Program.safe_observe, within]
      exact ends

end

/-! ## Plans -/

/-- What a member does and what is reported of it. -/
structure Plan where
  operation : Operation
  extracted : Extracted

/-- The plan of a directory member. -/
def directoryPlan (rel : Path) (relPath : Text) : Plan :=
  ⟨.makeDir rel, .dir relPath⟩

/-- The plan of a file member. -/
def filePlan (rel : Path) (relPath : Text) (content : Bytes)
    (entrypoints : List Text) : Plan :=
  ⟨.putFile rel content (normalizeFileMode relPath entrypoints),
    .file relPath⟩

/-- A tar member that passes all checks. -/
def TarAdmits (isAlpha : CodePoint → Bool) (entrypoints : List Text)
    (member : TarInfo) : Prop :=
  SafeName isAlpha member.name ∧
    (member.type = .regular ∨ member.type = .directory) ∧
    ModeAllowed member.mode member.relPath entrypoints

instance (isAlpha : CodePoint → Bool) (entrypoints : List Text)
    (member : TarInfo) : Decidable (TarAdmits isAlpha entrypoints member) :=
  inferInstanceAs (Decidable (_ ∧ _ ∧ _))

def tarPlan (isAlpha : CodePoint → Bool) (entrypoints : List Text)
    (member : TarInfo) : Option Plan :=
  if TarAdmits isAlpha entrypoints member then
    if member.type = .directory then
      some (directoryPlan (cleanParts member.name) member.relPath)
    else
      some (filePlan (cleanParts member.name) member.relPath member.content
        entrypoints)
  else none

/-- A zip entry that passes all checks. -/
def ZipAdmits (isAlpha : CodePoint → Bool) (entrypoints : List Text)
    (info : ZipInfo) : Prop :=
  SafeName isAlpha info.filename ∧
    (info.isSymlink = false ∧ info.isSpecial = false) ∧
    (info.isDir = false →
      ModeAllowed info.mode info.relPath entrypoints)

instance (isAlpha : CodePoint → Bool) (entrypoints : List Text)
    (info : ZipInfo) : Decidable (ZipAdmits isAlpha entrypoints info) :=
  inferInstanceAs (Decidable (_ ∧ _ ∧ _))

/-- The plan of a zip entry. -/
def zipPlan (isAlpha : CodePoint → Bool) (entrypoints : List Text)
    (infos : List ZipInfo) (info : ZipInfo) : Option Plan :=
  if ZipAdmits isAlpha entrypoints info then
    if info.isDir then
      some (directoryPlan (cleanParts info.filename) info.relPath)
    else
      some (filePlan (cleanParts info.filename) info.relPath
        (readZip infos info.filename) entrypoints)
  else none

section

variable (root : Path) (newMode : Nat) (tree : Tree)

/-- The extraction of one member refines its plan. -/
def Planned (plan : Option Plan) : Except PyError Extracted →
    FileSystem → Prop
  | .ok extracted, after =>
      ∃ step later, plan = some step ∧ extracted = step.extracted ∧
        step.operation.apply newMode tree = some later ∧
        Holds root after later
  | .error _, _ =>
      ∀ step, plan = some step → step.operation.apply newMode tree = none

/-- The extraction of all members refines their plans. -/
def PlannedAll (plans : Option (List Plan)) :
    Except PyError (List Extracted) → FileSystem → Prop
  | .ok extracted, after =>
      ∃ steps later, plans = some steps ∧
        extracted = steps.map Plan.extracted ∧
        applyAll newMode (steps.map Plan.operation) tree = some later ∧
        Holds root after later
  | .error _, _ =>
      ∀ steps, plans = some steps →
        applyAll newMode (steps.map Plan.operation) tree = none

end

/-- One turn of the loop refines the plan of its member. -/
def Refines {Member : Type} (dest : List Text) (root : Path)
    (newMode : Nat) (extract : Member → FileProgram Extracted)
    (plan : Member → Option Plan) (member : Member) : Prop :=
  (∀ step, plan member = some step → step.operation.path ≠ []) ∧
    ∀ files tree, Confined dest root files → Holds root files tree →
      tree.Sound →
      (extract member).Safe (Grows root)
        (Planned root newMode tree (plan member)) files

theorem safe_extractEach
    {Member : Type} {dest : List Text} {root : Path} {newMode : Nat}
    {extract : Member → FileProgram Extracted}
    {plan : Member → Option Plan} {members : List Member}
    (each : ∀ member ∈ members,
      Refines dest root newMode extract plan member)
    {files : FileSystem} {tree : Tree}
    (confined : Confined dest root files) (holds : Holds root files tree)
    (sound : tree.Sound) :
    (extractEach extract members).Safe (Grows root)
      (PlannedAll root newMode tree (members.mapM plan)) files := by
  induction members generalizing files tree with
  | nil => exact ⟨[], tree, rfl, rfl, rfl, holds⟩
  | cons member rest induction =>
      obtain ⟨below, refines⟩ := each member List.mem_cons_self
      have later := fun other isOther =>
        each other (List.mem_cons_of_mem member isOther)
      rw [extractEach, Program.safe_bind]
      have first := (refines files tree confined holds sound)
        |>.and_invariant (fun _ _ step before => step.confined before)
          confined
      refine first.mono (fun _ _ => id) ?_
      rintro (error | extracted) after ⟨ends, confinedAfter⟩
      · intro steps planned
        rw [List.mapM_cons] at planned
        obtain ⟨step, isStep, planned⟩ := Option.bind_eq_some_iff.mp planned
        obtain ⟨others, _, isSteps⟩ := Option.bind_eq_some_iff.mp planned
        cases isSteps
        rw [List.map_cons, applyAll, ends step isStep, Option.bind_none]
      · obtain ⟨step, made, isStep, rfl, applied, holdsAfter⟩ := ends
        have soundAfter := step.operation.apply_sound sound
          (below step isStep) applied
        rw [Program.bindPost_ok, Program.safe_bind]
        refine (induction later confinedAfter holdsAfter soundAfter).mono
          (fun _ _ => id) ?_
        rintro (error | others) last ends
        · intro steps planned
          rw [List.mapM_cons] at planned
          obtain ⟨same, isSame, planned⟩ :=
            Option.bind_eq_some_iff.mp planned
          obtain ⟨more, isMore, isSteps⟩ :=
            Option.bind_eq_some_iff.mp planned
          cases isStep.symm.trans isSame
          cases isSteps
          rw [List.map_cons, applyAll, applied]
          exact ends more isMore
        · obtain ⟨more, final, isMore, rfl, goesOn, holdsLast⟩ := ends
          refine ⟨step :: more, final, ?_, rfl, ?_, holdsLast⟩
          · rw [List.mapM_cons, isStep, isMore]
            rfl
          · rw [List.map_cons, applyAll, applied]
            exact goesOn

/-! ## The two extractors -/

section

variable {dest : List Text} {root : Path} (umask : Nat)
variable (isAlpha : CodePoint → Bool) (entrypoints : List Text)

/-- A placed member refines its operation. -/
theorem planned_of_leaves
    {newMode : Nat} {files : FileSystem} {tree : Tree} {step : Plan}
    {program : FileProgram PUnit}
    (placed : program.Safe (Grows root)
      (Leaves root (step.operation.apply newMode tree)) files) :
    (program >>= fun _ => pure step.extracted).Safe (Grows root)
      (Planned root newMode tree (some step)) files := by
  rw [Program.safe_bind]
  refine placed.mono (fun _ _ => id) ?_
  rintro (error | value) after ends
  · intro other isOther
    cases isOther
    exact ends
  · obtain ⟨later, applied, holdsAfter⟩ := ends
    exact ⟨step, later, rfl, rfl, applied, holdsAfter⟩

/-- Go on after a check that passed, or stop at its error. -/
theorem safe_check_bind
    {α β : Type} {guar : FileSystem → FileSystem → Prop}
    {post : Except PyError β → FileSystem → Prop}
    {result : Except PyError α} {rest : α → FileProgram β}
    {files : FileSystem}
    (passed : ∀ value, result = .ok value →
      (rest value).Safe guar post files)
    (stopped : (∀ value, result ≠ .ok value) →
      ∀ error, post (.error error) files) :
    (Program.compute result >>= rest).Safe guar post files := by
  rw [Program.safe_bind, Program.safe_compute]
  cases result with
  | ok value => exact passed value rfl
  | error error => exact stopped (fun _ => nofun) error

theorem checkTarType_eq_ok
    {type : TarType} {relPath : Text} {result : Unit} :
    checkTarType type relPath = .ok result ↔
      type = .regular ∨ type = .directory := by
  cases type <;> simp [checkTarType]

theorem checkZipType_eq_ok {info : ZipInfo} {result : Unit} :
    checkZipType info = .ok result ↔
      info.isSymlink = false ∧ info.isSpecial = false := by
  simp only [checkZipType, bind_eq_ok_iff, refuseIf_eq_ok_iff,
    Bool.not_eq_true, exists_const]

theorem tarMember_refines (member : TarInfo) :
    Refines dest root (FileSystem.newDirectoryMode umask)
      (extractTarMember umask isAlpha dest entrypoints)
      (tarPlan isAlpha entrypoints) member := by
  constructor
  · intro step planned
    rw [tarPlan] at planned
    split_ifs at planned with admits isDirectory
    · cases planned
      exact admits.1.2.2.2
    · cases planned
      exact admits.1.2.2.2
  · intro files tree confined holds sound
    have refused (notAdmitted : ¬ TarAdmits isAlpha entrypoints member)
        (error : PyError) : Planned root
          (FileSystem.newDirectoryMode umask) tree
          (tarPlan isAlpha entrypoints member) (.error error) files := by
      intro step planned
      rw [tarPlan, if_neg notAdmitted] at planned
      cases planned
    rw [extractTarMember]
    refine safe_check_bind (fun target isTarget => ?_) fun fails =>
      refused fun admits =>
        fails _ (relativeTarget_eq_ok.mpr ⟨admits.1, rfl⟩)
    refine safe_check_bind (fun _ isType => ?_) fun fails =>
      refused fun admits => fails () (checkTarType_eq_ok.mpr admits.2.1)
    refine safe_check_bind (fun _ isMode => ?_) fun fails =>
      refused fun admits =>
        fails () (checkArchiveMode_eq_ok.mpr admits.2.2)
    obtain ⟨safe, rfl⟩ := relativeTarget_eq_ok.mp isTarget
    have plain : ∀ name ∈ cleanParts member.name, PlainName name :=
      fun name isName => (cleanParts_clean safe name isName).plain
    have admits : TarAdmits isAlpha entrypoints member :=
      ⟨safe, checkTarType_eq_ok.mp isType, checkArchiveMode_eq_ok.mp isMode⟩
    rw [tarPlan, if_pos admits]
    split_ifs with isDirectory
    · exact @planned_of_leaves root _ files tree (directoryPlan _ _) _
        (safe_placeDirectory confined holds sound safe.2.2.2 plain umask)
    · exact @planned_of_leaves root _ files tree (filePlan _ _ _ _) _
        (safe_placeFile confined holds sound safe.2.2.2 plain umask _ _ _)

theorem zipEntry_refines (infos : List ZipInfo) (info : ZipInfo) :
    Refines dest root (FileSystem.newDirectoryMode umask)
      (extractZipEntry umask isAlpha dest entrypoints infos)
      (zipPlan isAlpha entrypoints infos) info := by
  constructor
  · intro step planned
    rw [zipPlan] at planned
    split_ifs at planned with admits isDirectory
    · cases planned
      exact admits.1.2.2.2
    · cases planned
      exact admits.1.2.2.2
  · intro files tree confined holds sound
    have refused (notAdmitted : ¬ ZipAdmits isAlpha entrypoints info)
        (error : PyError) : Planned root
          (FileSystem.newDirectoryMode umask) tree
          (zipPlan isAlpha entrypoints infos info) (.error error) files := by
      intro step planned
      rw [zipPlan, if_neg notAdmitted] at planned
      cases planned
    rw [extractZipEntry]
    refine safe_check_bind (fun target isTarget => ?_) fun fails =>
      refused fun admits =>
        fails _ (relativeTarget_eq_ok.mpr ⟨admits.1, rfl⟩)
    refine safe_check_bind (fun _ isType => ?_) fun fails =>
      refused fun admits => fails () (checkZipType_eq_ok.mpr admits.2.1)
    obtain ⟨safe, rfl⟩ := relativeTarget_eq_ok.mp isTarget
    have plain : ∀ name ∈ cleanParts info.filename, PlainName name :=
      fun name isName => (cleanParts_clean safe name isName).plain
    have typed := checkZipType_eq_ok.mp isType
    split_ifs with isDir
    · have admits : ZipAdmits isAlpha entrypoints info :=
        ⟨safe, typed, fun notDir => by rw [isDir] at notDir; cases notDir⟩
      rw [zipPlan, if_pos admits, if_pos isDir]
      exact @planned_of_leaves root _ files tree (directoryPlan _ _) _
        (safe_placeDirectory confined holds sound safe.2.2.2 plain umask)
    · refine safe_check_bind (fun _ isMode => ?_) fun fails =>
        refused fun admits => fails () (checkArchiveMode_eq_ok.mpr
          (admits.2.2 (eq_false_of_ne_true isDir)))
      have admits : ZipAdmits isAlpha entrypoints info :=
        ⟨safe, typed, fun _ => checkArchiveMode_eq_ok.mp isMode⟩
      rw [zipPlan, if_pos admits, if_neg isDir]
      exact @planned_of_leaves root _ files tree (filePlan _ _ _ _) _
        (safe_placeFile confined holds sound safe.2.2.2 plain umask _ _ _)

/-- A directory that a caller can reach and that is empty. -/
structure EmptyDestination (dest : List Text) (root : Path)
    (files : FileSystem) : Prop where
  resolved : files.realpath dest = .ok root
  reached : ∀ before, before <+: dest → files.isDir before = true
  empty : ∀ below, below ≠ [] → files.lookup (root ++ below) = none

theorem EmptyDestination.confined
    {files : FileSystem} (destination : EmptyDestination dest root files) :
    Confined dest root files where
  resolved := destination.resolved
  reached := destination.reached
  noLinks below isBelow := by
    rw [FileSystem.linkAt, destination.empty below isBelow]
    rfl

/-- What an extraction leaves in an empty destination. -/
def Extracts (root : Path) (newMode : Nat) (plans : Option (List Plan)) :
    Except PyError ExtractionReport → FileSystem → Prop
  | .ok report, after =>
      ∃ steps tree, plans = some steps ∧
        report = reportOf (steps.map Plan.extracted) ∧
        applyAll newMode (steps.map Plan.operation) Tree.empty = some tree ∧
        Holds root after tree
  | .error _, _ =>
      ∀ steps, plans = some steps →
        applyAll newMode (steps.map Plan.operation) Tree.empty = none

/-- The loop and the report refine the plans. -/
theorem extracts_of_refines
    {Member : Type} {newMode : Nat}
    {extract : Member → FileProgram Extracted}
    {plan : Member → Option Plan} {members : List Member}
    (each : ∀ member ∈ members,
      Refines dest root newMode extract plan member)
    {files : FileSystem} (destination : EmptyDestination dest root files) :
    (extractEach extract members >>= fun extracted =>
      pure (reportOf extracted)).Safe (Grows root)
      (Extracts root newMode (members.mapM plan)) files := by
  rw [Program.safe_bind]
  refine (safe_extractEach each destination.confined
    (fun below isBelow => destination.empty below isBelow)
    Tree.sound_empty).mono (fun _ _ => id) ?_
  rintro (error | extracted) after ends
  · exact ends
  · obtain ⟨steps, tree, planned, rfl, applied, holds⟩ := ends
    exact ⟨steps, tree, planned, rfl, applied, holds⟩

theorem safe_extractTar
    {files : FileSystem} (destination : EmptyDestination dest root files)
    (members : List TarInfo) :
    (extractTar umask isAlpha dest entrypoints members).Safe (Grows root)
      (Extracts root (FileSystem.newDirectoryMode umask)
        (members.mapM (tarPlan isAlpha entrypoints))) files :=
  extracts_of_refines
    (fun member _ => tarMember_refines umask isAlpha entrypoints member)
    destination

theorem safe_extractZip
    {files : FileSystem} (destination : EmptyDestination dest root files)
    (infos : List ZipInfo) :
    (extractZip umask isAlpha dest entrypoints infos).Safe (Grows root)
      (Extracts root (FileSystem.newDirectoryMode umask)
        (infos.mapM (zipPlan isAlpha entrypoints infos))) files :=
  extracts_of_refines
    (fun info _ => zipEntry_refines umask isAlpha entrypoints infos info)
    destination

end

/-! ## Confinement -/

/-- Only paths below a directory changed, and no link was made. -/
def OnlyBelow (root : Path) (before after : FileSystem) : Prop :=
  ∀ path, after.lookup path ≠ before.lookup path →
    (∃ below, below ≠ [] ∧ path = root ++ below) ∧
      ∀ target, after.lookup path ≠ some (.link target)

theorem onlyBelow_of_grows
    {root : Path} {before after : FileSystem}
    (grows : Grows root before after) : OnlyBelow root before after := by
  intro path changed
  constructor
  · by_contra outside
    refine changed (grows.outside path ?_)
    rintro below isBelow rfl
    exact outside ⟨below, isBelow, rfl⟩
  · intro target isLink
    have same := congrFun grows.links path
    rw [FileSystem.linkAt, FileSystem.linkAt, isLink] at same
    cases found : before.lookup path with
    | none =>
        rw [found] at same
        cases same
    | some node =>
        rw [found] at same
        cases node with
        | file content mode => cases same
        | directory mode => cases same
        | link other =>
            cases same
            exact changed (isLink.trans found.symm)

theorem safe_onlyBelow
    {α : Type} {root : Path} {program : FileProgram α}
    {post : Except PyError α → FileSystem → Prop} {files : FileSystem}
    (safe : program.Safe (Grows root) post files) :
    OnlyBelow root files (program.run files).2 := by
  have grown := safe.and_invariant
    (fun _ _ step before => Grows.trans before step) (Grows.refl files)
  exact onlyBelow_of_grows grown.run_post.2

/-- A name is rejected, or its target lies below by clean parts. -/
theorem relativeTarget_cases
    (isAlpha : CodePoint → Bool) (name : Text) (dest : List Text) :
    (∃ error, relativeTarget isAlpha name dest = .error error) ∨
      ∃ parts, relativeTarget isAlpha name dest = .ok (dest ++ parts) ∧
        parts ≠ [] ∧ ∀ part ∈ parts, CleanPart part := by
  cases resolved : relativeTarget isAlpha name dest with
  | error error => exact .inl ⟨error, rfl⟩
  | ok target =>
      obtain ⟨safe, rfl⟩ := relativeTarget_eq_ok.mp resolved
      exact .inr ⟨cleanParts name, rfl, safe.2.2.2, cleanParts_clean safe⟩

/-- A link or a special member of a tar archive is rejected untouched. -/
theorem tarMember_rejected
    (umask : Nat) (isAlpha : CodePoint → Bool) (dest : List Text)
    (entrypoints : List Text) {member : TarInfo}
    (other : member.type ≠ .regular ∧ member.type ≠ .directory)
    (files : FileSystem) :
    ∃ error, (extractTarMember umask isAlpha dest entrypoints member).run
      files = (.error error, files) := by
  rw [extractTarMember]
  cases resolved : relativeTarget isAlpha member.name dest with
  | error error => exact ⟨error, rfl⟩
  | ok target =>
      cases typed : checkTarType member.type member.relPath with
      | error error => exact ⟨error, rfl⟩
      | ok result =>
          rcases checkTarType_eq_ok.mp typed with isRegular | isDirectory
          · exact absurd isRegular other.1
          · exact absurd isDirectory other.2

/-- So is a link or a special entry of a zip archive. -/
theorem zipEntry_rejected
    (umask : Nat) (isAlpha : CodePoint → Bool) (dest : List Text)
    (entrypoints : List Text) (infos : List ZipInfo) {info : ZipInfo}
    (other : info.isSymlink = true ∨ info.isSpecial = true)
    (files : FileSystem) :
    ∃ error, (extractZipEntry umask isAlpha dest entrypoints infos
      info).run files = (.error error, files) := by
  rw [extractZipEntry]
  cases resolved : relativeTarget isAlpha info.filename dest with
  | error error => exact ⟨error, rfl⟩
  | ok target =>
      cases typed : checkZipType info with
      | error error => exact ⟨error, rfl⟩
      | ok result =>
          obtain ⟨notLink, notSpecial⟩ := checkZipType_eq_ok.mp typed
          rcases other with isLink | isSpecial
          · rw [notLink] at isLink
            cases isLink
          · rw [notSpecial] at isSpecial
            cases isSpecial

/--
Extraction never writes outside the destination.  A name is rejected or its
target lies below the destination by clean parts; links and special members
are rejected before any write; and whatever the members and their order, all
that changes in the file system lies below an empty destination, and no link
is made, whether the extraction returns or raises.
-/
theorem extraction_stays_within
    (umask : Nat) (isAlpha : CodePoint → Bool) (dest : List Text)
    (entrypoints : List Text) :
    (∀ name, (∃ error, relativeTarget isAlpha name dest = .error error) ∨
      ∃ parts, relativeTarget isAlpha name dest = .ok (dest ++ parts) ∧
        parts ≠ [] ∧ ∀ part ∈ parts, CleanPart part) ∧
    (∀ (member : TarInfo) files,
      member.type ≠ .regular ∧ member.type ≠ .directory →
        ∃ error, (extractTarMember umask isAlpha dest entrypoints
          member).run files = (.error error, files)) ∧
    (∀ infos (info : ZipInfo) files,
      info.isSymlink = true ∨ info.isSpecial = true →
        ∃ error, (extractZipEntry umask isAlpha dest entrypoints infos
          info).run files = (.error error, files)) ∧
    ∀ root files, EmptyDestination dest root files →
      (∀ members, OnlyBelow root files
        ((extractTar umask isAlpha dest entrypoints members).run
          files).2) ∧
      ∀ infos, OnlyBelow root files
        ((extractZip umask isAlpha dest entrypoints infos).run files).2 :=
  ⟨fun name => relativeTarget_cases isAlpha name dest,
    fun _ files other =>
      tarMember_rejected umask isAlpha dest entrypoints other files,
    fun infos _ files other =>
      zipEntry_rejected umask isAlpha dest entrypoints infos other files,
    fun _ _ destination =>
      ⟨fun members => safe_onlyBelow
        (safe_extractTar umask isAlpha entrypoints destination members),
      fun infos => safe_onlyBelow
        (safe_extractZip umask isAlpha entrypoints destination infos)⟩⟩

/-- A file system with two empty directories, one behind a link. -/
def linkedDirectories : FileSystem :=
  ((((∅ : FileSystem).insert [] (.directory 0o755)).insert [text "real"]
    (.directory 0o755)).insert [text "other"] (.directory 0o755)).insert
      [text "alias"] (.link ⟨false, [text "real"]⟩)

theorem linkedDirectories_empty :
    EmptyDestination [text "alias"] [text "real"] linkedDirectories where
  resolved := by decide
  reached := by
    intro before isPrefix
    rw [List.prefix_cons_iff] at isPrefix
    rcases isPrefix with rfl | ⟨rest, rfl, isPrefix⟩
    · decide
    · rw [List.prefix_nil.mp isPrefix]
      decide
  empty := by
    intro below isBelow
    obtain ⟨name, rest, rfl⟩ := List.exists_cons_of_ne_nil isBelow
    have shallow : ∀ key ∈ linkedDirectories.keys, key.length ≤ 1 := by
      decide
    refine AList.lookup_eq_none.mpr fun isKey => ?_
    have short := shallow _ (AList.mem_keys.mp isKey)
    simp at short

theorem extraction_stays_within_alias :
    EmptyDestination [text "alias"] [text "real"] linkedDirectories ∧
      ∀ members, OnlyBelow [text "real"] linkedDirectories
        ((extractTar 0o022 (fun _ => false) [text "alias"] [] members).run
          linkedDirectories).2 :=
  ⟨linkedDirectories_empty,
    ((extraction_stays_within 0o022 (fun _ => false) [text "alias"]
      []).2.2.2 _ _ linkedDirectories_empty).1⟩

end ScientificResourceLab.Packs
