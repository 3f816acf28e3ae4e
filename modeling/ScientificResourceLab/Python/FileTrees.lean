import ScientificResourceLab.Python.FileSystem
import ScientificResourceLab.Steps.Fallible

/-!
# What lies below a directory

A tree gives the nodes below a directory by their relative paths.  The
programs that make directories and write files below a confined directory
refine two operations on trees, `makeDirs` and `putFile`, which either fail or
give the tree that is there afterwards.
-/

namespace ScientificResourceLab.Python

open Steps

/-- The nodes below a directory. -/
abbrev Tree := Path → Option Node

namespace Tree

/-- Whether a directory stands at a relative path. -/
def isDirectory (tree : Tree) (rel : Path) : Bool :=
  rel = [] || (tree rel).any Node.isDirectory

/-- Whether something else than a directory stands on the way. -/
def blocked (tree : Tree) (rel : Path) : Bool :=
  rel.inits.any fun before =>
    (tree before).any fun node => !node.isDirectory

/-- The tree with the directories on the way. -/
def withDirs (mode : Nat) (rel : Path) (tree : Tree) : Tree := fun path =>
  if path <+: rel ∧ path ≠ [] ∧ tree path = none then
    some (.directory mode)
  else tree path

/-- Make the directories on the way, and the last one. -/
def makeDirs (mode : Nat) (rel : Path) (tree : Tree) : Option Tree :=
  if tree.blocked rel then none else some (tree.withDirs mode rel)

/-- The tree with another node. -/
def put (rel : Path) (node : Node) (tree : Tree) : Tree := fun path =>
  if path = rel then some node else tree path

/-- Write a file in a directory that is there. -/
def putFile (rel : Path) (content : Bytes) (mode : Nat) (tree : Tree) :
    Option Tree :=
  if tree.isDirectory rel then none
  else some (tree.put rel (.file content mode))

/-- Parents are directories, and there is no link. -/
structure Sound (tree : Tree) : Prop where
  top : tree [] = none
  noLinks : ∀ rel target, tree rel ≠ some (.link target)
  closed : ∀ rel name, (tree (rel ++ [name])).isSome = true →
    tree.isDirectory rel = true

/-- The tree of an empty directory. -/
def empty : Tree := fun _ => none

theorem sound_empty : empty.Sound :=
  ⟨rfl, fun _ _ => nofun, fun _ _ => nofun⟩

variable {tree : Tree} {rel before : Path}

theorem isDirectory_nil : tree.isDirectory [] = true := by
  rw [isDirectory]
  rfl

theorem isDirectory_eq_true_iff (isBelow : rel ≠ []) :
    tree.isDirectory rel = true ↔ ∃ mode, tree rel = some (.directory mode) := by
  rw [isDirectory, Bool.or_eq_true, decide_eq_true_eq, Option.any_eq_true]
  constructor
  · rintro (isTop | ⟨node, found, isDirectory⟩)
    · exact absurd isTop isBelow
    · cases node with
      | directory mode => exact ⟨mode, found⟩
      | file content mode => cases isDirectory
      | link target => cases isDirectory
  · rintro ⟨mode, found⟩
    exact .inr ⟨_, found, rfl⟩

/-- What stands below a directory has directories all the way. -/
theorem Sound.isDirectory_of_isSome
    (sound : tree.Sound) (found : (tree rel).isSome = true)
    (isPrefix : before <+: rel) (proper : before ≠ rel) :
    tree.isDirectory before = true := by
  induction rel using List.reverseRecOn with
  | nil => exact absurd (List.prefix_nil.mp isPrefix) proper
  | append_singleton parent name induction =>
      have isDirectory := sound.closed parent name found
      rcases List.prefix_concat_iff.mp isPrefix with same | earlier
      · exact absurd same proper
      · by_cases same : before = parent
        · rw [same]
          exact isDirectory
        · refine induction ?_ earlier same
          have isBelow : parent ≠ [] := by
            rintro rfl
            exact same (List.prefix_nil.mp earlier)
          obtain ⟨mode, isThere⟩ :=
            (isDirectory_eq_true_iff isBelow).mp isDirectory
          rw [isThere]
          rfl

theorem Sound.isDirectory_of_prefix
    (sound : tree.Sound) (isDirectory : tree.isDirectory rel = true)
    (isPrefix : before <+: rel) : tree.isDirectory before = true := by
  by_cases same : before = rel
  · rw [same]
    exact isDirectory
  · by_cases isBelow : rel = []
    · rw [isBelow] at isPrefix same
      exact absurd (List.prefix_nil.mp isPrefix) same
    · obtain ⟨mode, found⟩ :=
        (isDirectory_eq_true_iff isBelow).mp isDirectory
      refine sound.isDirectory_of_isSome ?_ isPrefix same
      rw [found]
      rfl

theorem blocked_eq_true_iff :
    tree.blocked rel = true ↔ ∃ before node, before <+: rel ∧
      tree before = some node ∧ node.isDirectory = false := by
  simp only [blocked, List.any_eq_true, List.mem_inits, Option.any_eq_true,
    Bool.not_eq_true']
  constructor
  · rintro ⟨before, isPrefix, node, found, isOther⟩
    exact ⟨before, node, isPrefix, found, isOther⟩
  · rintro ⟨before, node, isPrefix, found, isOther⟩
    exact ⟨before, isPrefix, node, found, isOther⟩

theorem blocked_of_prefix
    (isPrefix : before <+: rel) (isBlocked : tree.blocked before = true) :
    tree.blocked rel = true := by
  rw [blocked_eq_true_iff] at isBlocked ⊢
  obtain ⟨first, node, isFirst, found, isOther⟩ := isBlocked
  exact ⟨first, node, isFirst.trans isPrefix, found, isOther⟩

theorem Sound.not_blocked
    (sound : tree.Sound) (isDirectory : tree.isDirectory rel = true) :
    tree.blocked rel = false := by
  rw [Bool.eq_false_iff, ne_eq, blocked_eq_true_iff]
  rintro ⟨before, node, isPrefix, found, isOther⟩
  have isThere := sound.isDirectory_of_prefix isDirectory isPrefix
  by_cases isTop : before = []
  · rw [isTop, sound.top] at found
    cases found
  · obtain ⟨mode, same⟩ := (isDirectory_eq_true_iff isTop).mp isThere
    rw [found] at same
    cases same
    cases isOther

/-- Nothing is made where all directories are there. -/
theorem Sound.withDirs_eq
    (sound : tree.Sound) (isDirectory : tree.isDirectory rel = true)
    (mode : Nat) : tree.withDirs mode rel = tree := by
  funext path
  rw [withDirs, if_neg]
  rintro ⟨isPrefix, isBelow, absent⟩
  obtain ⟨_, found⟩ := (isDirectory_eq_true_iff isBelow).mp
    (sound.isDirectory_of_prefix isDirectory isPrefix)
  rw [absent] at found
  cases found

theorem withDirs_withDirs (isPrefix : before <+: rel) (mode : Nat) :
    (tree.withDirs mode before).withDirs mode rel =
      tree.withDirs mode rel := by
  funext path
  by_cases made : path <+: before ∧ path ≠ [] ∧ tree path = none
  · have later : path <+: rel ∧ path ≠ [] ∧ tree path = none :=
      ⟨made.1.trans isPrefix, made.2⟩
    rw [withDirs, withDirs, if_pos made, withDirs, if_pos later]
    simp
  · rw [withDirs, withDirs, if_neg made, withDirs]

theorem blocked_withDirs (mode : Nat) (made rel : Path) :
    (tree.withDirs mode made).blocked rel = tree.blocked rel := by
  rw [Bool.eq_iff_iff, blocked_eq_true_iff, blocked_eq_true_iff]
  constructor
  · rintro ⟨before, node, isPrefix, found, isOther⟩
    refine ⟨before, node, isPrefix, ?_, isOther⟩
    rw [withDirs] at found
    split_ifs at found
    · cases found
      cases isOther
    · exact found
  · rintro ⟨before, node, isPrefix, found, isOther⟩
    refine ⟨before, node, isPrefix, ?_, isOther⟩
    rw [withDirs, if_neg, found]
    rintro ⟨_, _, absent⟩
    rw [found] at absent
    cases absent

/-- Directories made on the way change nothing of what is made later. -/
theorem makeDirs_withDirs (isPrefix : before <+: rel) (mode : Nat) :
    (tree.withDirs mode before).makeDirs mode rel =
      tree.makeDirs mode rel := by
  rw [makeDirs, makeDirs, blocked_withDirs, withDirs_withDirs isPrefix]

/-- With its directories, the way is free. -/
theorem isDirectory_withDirs
    (free : tree.blocked rel = false) (isPrefix : before <+: rel)
    (mode : Nat) : (tree.withDirs mode rel).isDirectory before = true := by
  by_cases isTop : before = []
  · rw [isTop]
    exact isDirectory_nil
  · rw [isDirectory_eq_true_iff isTop, withDirs]
    split_ifs with made
    · exact ⟨mode, rfl⟩
    · cases found : tree before with
      | none => exact absurd ⟨isPrefix, isTop, found⟩ made
      | some node =>
          cases node with
          | directory own => exact ⟨own, rfl⟩
          | file content own =>
              have isBlocked := blocked_eq_true_iff.mpr
                ⟨before, _, isPrefix, found, rfl⟩
              rw [free] at isBlocked
              cases isBlocked
          | link target =>
              have isBlocked := blocked_eq_true_iff.mpr
                ⟨before, _, isPrefix, found, rfl⟩
              rw [free] at isBlocked
              cases isBlocked

theorem isDirectory_withDirs_of_isDirectory
    (isDirectory : tree.isDirectory before = true) (mode : Nat) :
    (tree.withDirs mode rel).isDirectory before = true := by
  by_cases isTop : before = []
  · rw [isTop]
    exact isDirectory_nil
  · obtain ⟨own, found⟩ := (isDirectory_eq_true_iff isTop).mp isDirectory
    refine (isDirectory_eq_true_iff isTop).mpr ⟨own, ?_⟩
    rw [withDirs, if_neg, found]
    rintro ⟨_, _, absent⟩
    rw [found] at absent
    cases absent

theorem Sound.withDirs
    (sound : tree.Sound) (free : tree.blocked rel = false) (mode : Nat) :
    (tree.withDirs mode rel).Sound := by
  constructor
  · rw [Tree.withDirs, if_neg (by simp)]
    exact sound.top
  · intro path target
    rw [Tree.withDirs]
    split_ifs
    · exact nofun
    · exact sound.noLinks path target
  · intro path name found
    by_cases made : path ++ [name] <+: rel
    · exact isDirectory_withDirs free
        ((List.prefix_append path [name]).trans made) mode
    · rw [Tree.withDirs, if_neg (fun both => made both.1)] at found
      exact isDirectory_withDirs_of_isDirectory
        (sound.closed path name found) mode

/-- One directory is made where its parent is there. -/
theorem Sound.withDirs_concat
    (sound : tree.Sound) {name : Text}
    (isDirectory : tree.isDirectory rel = true)
    (absent : tree (rel ++ [name]) = none) (mode : Nat) :
    tree.withDirs mode (rel ++ [name]) =
      tree.put (rel ++ [name]) (.directory mode) := by
  funext path
  by_cases same : path = rel ++ [name]
  · subst same
    rw [Tree.withDirs, put, if_pos rfl, if_pos]
    exact ⟨List.prefix_rfl, by simp, absent⟩
  · rw [put, if_neg same, Tree.withDirs]
    refine if_neg ?_
    rintro ⟨isPrefix, isBelow, missing⟩
    have earlier := (List.prefix_concat_iff.mp isPrefix).resolve_left same
    obtain ⟨_, found⟩ := (isDirectory_eq_true_iff isBelow).mp
      (sound.isDirectory_of_prefix isDirectory earlier)
    rw [missing] at found
    cases found

theorem Sound.put_file
    (sound : tree.Sound) {parent : Path} {name : Text}
    (parentThere : tree.isDirectory parent = true)
    (notDirectory : tree.isDirectory (parent ++ [name]) = false)
    (content : Bytes) (mode : Nat) :
    (tree.put (parent ++ [name]) (.file content mode)).Sound := by
  have keeps (path : Path) (isDirectory : tree.isDirectory path = true) :
      (tree.put (parent ++ [name]) (.file content mode)).isDirectory path =
        true := by
    have other : path ≠ parent ++ [name] := by
      rintro rfl
      rw [notDirectory] at isDirectory
      cases isDirectory
    rw [Tree.isDirectory, put, if_neg other]
    exact isDirectory
  constructor
  · rw [put, if_neg (by simp)]
    exact sound.top
  · intro path target
    rw [put]
    split_ifs
    · exact nofun
    · exact sound.noLinks path target
  · intro path last found
    rw [put] at found
    split_ifs at found with same
    · obtain ⟨rfl, _⟩ := List.append_inj' same rfl
      exact keeps path parentThere
    · exact keeps path (sound.closed path last found)

/-- A directory with other permission bits. -/
theorem Sound.put_directory
    (sound : tree.Sound) (isBelow : rel ≠ [])
    (isThere : tree.isDirectory rel = true) (mode : Nat) :
    (tree.put rel (.directory mode)).Sound := by
  have keeps (path : Path) (isDirectory : tree.isDirectory path = true) :
      (tree.put rel (.directory mode)).isDirectory path = true := by
    by_cases same : path = rel
    · subst same
      exact (isDirectory_eq_true_iff isBelow).mpr
        ⟨mode, by rw [put, if_pos rfl]⟩
    · rw [Tree.isDirectory, put, if_neg same]
      exact isDirectory
  constructor
  · rw [put, if_neg (Ne.symm isBelow)]
    exact sound.top
  · intro path target
    rw [put]
    split_ifs
    · exact nofun
    · exact sound.noLinks path target
  · intro path last found
    rw [put] at found
    split_ifs at found with same
    · obtain ⟨_, there⟩ := (isDirectory_eq_true_iff isBelow).mp isThere
      refine keeps path (sound.closed path last ?_)
      rw [same, there]
      rfl
    · exact keeps path (sound.closed path last found)

end Tree

/-! ## The calls below a confined directory -/

@[simp]
theorem safe_perform
    {guar : FileSystem → FileSystem → Prop}
    {post : Except PyError PUnit → FileSystem → Prop}
    (call : FileSystem → Except PyError FileSystem) (files : FileSystem) :
    (perform call).Safe guar post files ↔
      match call files with
      | .ok after => guar files after ∧ post (.ok ⟨⟩) after
      | .error error => post (.error error) files := by
  rw [perform, Program.Safe]
  cases call files <;> rfl

/-- The tree that lies below a directory of a file system. -/
def Holds (root : Path) (files : FileSystem) (tree : Tree) : Prop :=
  ∀ below, below ≠ [] → files.lookup (root ++ below) = tree below

/-- A program ends in an error, or leaves the tree of an operation. -/
def Leaves {α : Type} (root : Path) (outcome : Option Tree) :
    Except PyError α → FileSystem → Prop
  | .ok _, after => ∃ tree, outcome = some tree ∧ Holds root after tree
  | .error _, _ => outcome = none

theorem Holds.insert
    {root : Path} {files : FileSystem} {tree : Tree}
    (holds : Holds root files tree) (rel : Path) (node : Node) :
    Holds root (files.insert (root ++ rel) node) (tree.put rel node) := by
  intro below isBelow
  by_cases same : below = rel
  · rw [same, AList.lookup_insert, Tree.put, if_pos rfl]
  · have other : root ++ below ≠ root ++ rel := fun both =>
      same (List.append_cancel_left both)
    rw [AList.lookup_insert_ne other, Tree.put, if_neg same]
    exact holds below isBelow

section

variable {dest : List Text} {root : Path} {files : FileSystem} {tree : Tree}
variable (confined : Confined dest root files)
variable (holds : Holds root files tree) (sound : tree.Sound)
variable {rel : Path} (plain : ∀ name ∈ rel, PlainName name)

include confined plain in
/-- Below the directory a path denotes itself. -/
theorem realpath_below :
    files.realpath (dest ++ rel) = .ok (root ++ rel) :=
  follow_append confined.resolved
    (advance_of_plain plain confined.noLinks)

include confined holds plain in
theorem isDir_below :
    files.isDir (dest ++ rel) = tree.isDirectory rel := by
  by_cases isTop : rel = []
  · rw [isTop, List.append_nil, Tree.isDirectory_nil]
    exact confined.reached dest List.prefix_rfl
  · rw [FileSystem.isDir, realpath_below confined plain]
    simp only [FileSystem.isDirectoryAt, holds rel isTop,
      Tree.isDirectory, isTop, decide_false, Bool.false_or]

include confined holds plain in
/-- The calls pass where the parents are there. -/
theorem reach_below
    (parents : ∀ before, before <+: rel → before ≠ rel →
      tree.isDirectory before = true) :
    files.reach (dest ++ rel) = .ok ⟨⟩ := by
  have passes : (dest ++ rel).inits.dropLast.find?
      (fun before => !files.isDir before) = none := by
    refine List.find?_eq_none.mpr fun before isBefore => ?_
    obtain ⟨isPrefix, proper⟩ := mem_dropLast_inits.mp isBefore
    rw [Bool.not_eq_true', Bool.not_eq_false]
    rcases prefix_append_cases isPrefix with above | below
    · exact confined.reached before above
    · obtain ⟨inner, rfl, innerPrefix⟩ := below
      rw [isDir_below confined holds fun name isName =>
        plain name (innerPrefix.subset isName)]
      exact parents inner innerPrefix fun same => proper (by rw [same])
  rw [FileSystem.reach, passes]

include confined holds plain in
/-- They fail at the first name that is missing or is no directory. -/
theorem reach_below_error
    {before : Path} (isPrefix : before <+: rel) (proper : before ≠ rel)
    (notThere : tree.isDirectory before = false) :
    ∃ error, files.reach (dest ++ rel) = .error error ∧
      (error.kind = .fileNotFoundError ∨
        error.kind ≠ .fileNotFoundError ∧
          ∃ first, first <+: rel ∧ first ≠ rel ∧
            tree.blocked first = true) := by
  cases found : (dest ++ rel).inits.dropLast.find?
      (fun before => !files.isDir before) with
  | none =>
      have passes := List.find?_eq_none.mp found (dest ++ before)
        (mem_dropLast_inits.mpr
          ⟨(List.prefix_append_right_inj dest).mpr isPrefix,
            fun same => proper (List.append_cancel_left same)⟩)
      rw [isDir_below confined holds fun name isName =>
        plain name (isPrefix.subset isName), notThere] at passes
      exact absurd rfl passes
  | some first =>
      rw [FileSystem.reach, found]
      have fails := List.find?_some found
      rw [Bool.not_eq_true'] at fails
      obtain ⟨firstPrefix, firstProper⟩ :=
        mem_dropLast_inits.mp (List.mem_of_find?_eq_some found)
      dsimp only
      split_ifs with isThere
      · refine ⟨_, rfl, .inr ⟨by decide, ?_⟩⟩
        rcases prefix_append_cases firstPrefix with above | below
        · rw [confined.reached first above] at fails
          cases fails
        · obtain ⟨inner, rfl, innerPrefix⟩ := below
          have innerPlain : ∀ name ∈ inner, PlainName name :=
            fun name isName => plain name (innerPrefix.subset isName)
          refine ⟨inner, innerPrefix,
            fun same => firstProper (by rw [same]), ?_⟩
          have isBelow : inner ≠ [] := by
            rintro rfl
            rw [List.append_nil,
              confined.reached dest List.prefix_rfl] at fails
            cases fails
          rw [isDir_below confined holds innerPlain] at fails
          rw [FileSystem.pathExists, realpath_below confined innerPlain]
            at isThere
          simp only [holds inner isBelow] at isThere
          obtain ⟨node, isNode⟩ := Option.isSome_iff_exists.mp isThere
          refine Tree.blocked_eq_true_iff.mpr
            ⟨inner, node, List.prefix_rfl, isNode, ?_⟩
          rw [Tree.isDirectory, isNode, Bool.or_eq_false_iff] at fails
          exact fails.2
      · exact ⟨_, rfl, .inl rfl⟩

/-- What `mkdir` does below a confined directory. -/
inductive MkdirOutcome (root : Path) (tree : Tree) (umask : Nat)
    (files : FileSystem) (rel : Path) (name : Text) :
    Except PyError FileSystem → Prop where
  | made (parent : tree.isDirectory rel = true)
      (absent : tree (rel ++ [name]) = none) :
      MkdirOutcome root tree umask files rel name
        (.ok (files.insert (root ++ (rel ++ [name]))
          (.directory (FileSystem.newDirectoryMode umask))))
  | present (parent : tree.isDirectory rel = true)
      (isThere : (tree (rel ++ [name])).isSome = true) :
      MkdirOutcome root tree umask files rel name
        (.error FileSystem.alreadyExists)
  | missing (parent : tree.isDirectory rel = false) (error : PyError)
      (kind : error.kind = .fileNotFoundError) :
      MkdirOutcome root tree umask files rel name (.error error)
  | blocked (isBlocked : tree.blocked rel = true) (error : PyError)
      (kind : error.kind ≠ .fileNotFoundError) :
      MkdirOutcome root tree umask files rel name (.error error)

include confined holds sound plain in
theorem mkdir_below
    {name : Text} (plainName : PlainName name) (umask : Nat) :
    MkdirOutcome root tree umask files rel name
      (FileSystem.mkdir umask (dest ++ (rel ++ [name])) files) := by
  have allPlain : ∀ other ∈ rel ++ [name], PlainName other := by
    intro other isOther
    rcases List.mem_append.mp isOther with earlier | last
    · exact plain other earlier
    · rw [List.mem_singleton.mp last]
      exact plainName
  have last : (dest ++ (rel ++ [name])).getLast? = some name := by
    rw [← List.append_assoc, List.getLast?_concat]
  have front : (dest ++ (rel ++ [name])).dropLast = dest ++ rel := by
    rw [← List.append_assoc, List.dropLast_concat]
  rw [FileSystem.mkdir, last]
  simp only [front]
  cases parent : tree.isDirectory rel with
  | false =>
      obtain ⟨error, fails, kind⟩ := reach_below_error confined holds
        allPlain (List.prefix_append rel [name]) (by simp) parent
      rw [fails]
      rcases kind with missing | ⟨kind, first, isPrefix, proper, isBlocked⟩
      · exact .missing parent error missing
      · have earlier :=
          (List.prefix_concat_iff.mp isPrefix).resolve_left proper
        exact .blocked (Tree.blocked_of_prefix earlier isBlocked) error kind
  | true =>
      have passes := reach_below confined holds allPlain
        fun before isPrefix proper => sound.isDirectory_of_prefix parent
          ((List.prefix_concat_iff.mp isPrefix).resolve_left proper)
      rw [passes, realpath_below confined plain]
      have found := holds (rel ++ [name]) (by simp)
      rw [← List.append_assoc] at found
      change MkdirOutcome root tree umask files rel name
        (if name = currentName ∨ name = parentName then _ else _)
      rw [if_neg (not_or.mpr plainName), found]
      cases isThere : tree (rel ++ [name]) with
      | none =>
          have made := @MkdirOutcome.made root tree umask files rel name
            parent isThere
          rw [← List.append_assoc] at made
          exact made
      | some node =>
          refine .present parent ?_
          rw [isThere]
          rfl

include confined holds sound plain in
theorem safe_allowExisting
    (isThere : tree.isDirectory rel = false → tree.blocked rel = true)
    (error : PyError) (mode : Nat) :
    (allowExisting (dest ++ rel) error).Safe (Grows root)
      (Leaves root (tree.makeDirs mode rel)) files := by
  simp only [allowExisting, Program.safe_bind, Program.safe_observe,
    Program.bindPost_ok, isDir_below confined holds plain]
  cases isDirectory : tree.isDirectory rel with
  | true =>
      refine ⟨tree, ?_, holds⟩
      rw [Tree.makeDirs, sound.not_blocked isDirectory,
        sound.withDirs_eq isDirectory]
      rfl
  | false =>
      change tree.makeDirs mode rel = none
      rw [Tree.makeDirs, if_pos (isThere isDirectory)]

include confined in
/-- A new directory below the confined one. -/
theorem grows_mkdir {name : Text} (mode : Nat) :
    Grows root files
      (files.insert (root ++ (rel ++ [name])) (.directory mode)) := by
  refine Grows.of_insert (by simp) rfl (confined.noLinks _ (by simp)) ?_
  exact fun _ => rfl

include holds sound in
theorem leaves_mkdir
    {name : Text} (parent : tree.isDirectory rel = true)
    (absent : tree (rel ++ [name]) = none) (mode : Nat) :
    Leaves root (tree.makeDirs mode (rel ++ [name])) (.ok PUnit.unit)
      (files.insert (root ++ (rel ++ [name])) (.directory mode)) := by
  have free : tree.blocked (rel ++ [name]) = false := by
    rw [Bool.eq_false_iff, ne_eq, Tree.blocked_eq_true_iff]
    rintro ⟨before, node, isPrefix, found, isOther⟩
    rcases List.prefix_concat_iff.mp isPrefix with rfl | earlier
    · rw [absent] at found
      cases found
    · have isBlocked := Tree.blocked_eq_true_iff.mpr
        ⟨before, node, earlier, found, isOther⟩
      rw [sound.not_blocked parent] at isBlocked
      cases isBlocked
  refine ⟨tree.put (rel ++ [name]) (.directory mode), ?_,
    holds.insert _ _⟩
  rw [Tree.makeDirs, free, sound.withDirs_concat parent absent]
  rfl

theorem blocked_of_isSome
    (isThere : (tree rel).isSome = true)
    (notDirectory : tree.isDirectory rel = false) :
    tree.blocked rel = true := by
  obtain ⟨node, found⟩ := Option.isSome_iff_exists.mp isThere
  rw [Tree.isDirectory, found, Bool.or_eq_false_iff] at notDirectory
  exact Tree.blocked_eq_true_iff.mpr
    ⟨rel, node, List.prefix_rfl, found, notDirectory.2⟩

include confined holds sound plain in
/-- `Path.mkdir(exist_ok=True)` where the parent is there. -/
theorem safe_makeDir
    {name : Text} (plainName : PlainName name)
    (parent : tree.isDirectory rel = true) (umask : Nat) :
    (makeDir umask (dest ++ (rel ++ [name]))).Safe (Grows root)
      (Leaves root (tree.makeDirs (FileSystem.newDirectoryMode umask)
        (rel ++ [name]))) files := by
  have allPlain := List.forall_mem_append.mpr
    ⟨plain, List.forall_mem_singleton.mpr plainName⟩
  rw [makeDir, Program.safe_tryCatch, safe_perform]
  have outcome := mkdir_below confined holds sound plain plainName umask
  generalize FileSystem.mkdir umask (dest ++ (rel ++ [name])) files =
    result at outcome ⊢
  cases outcome with
  | made parent absent =>
      exact ⟨grows_mkdir confined _,
        leaves_mkdir holds sound parent absent _⟩
  | present _ isThere =>
      exact safe_allowExisting confined holds sound allPlain
        (blocked_of_isSome isThere) _ _
  | missing absent =>
      rw [parent] at absent
      cases absent
  | blocked isBlocked =>
      rw [sound.not_blocked parent] at isBlocked
      cases isBlocked

end

/-- A directory that is there is not made again. -/
theorem mkdir_present
    {dest : List Text} {files : FileSystem}
    (reached : ∀ before, before <+: dest → files.isDir before = true)
    (umask : Nat) :
    FileSystem.mkdir umask dest files = .error FileSystem.alreadyExists := by
  have isThere := reached dest List.prefix_rfl
  induction dest using List.reverseRecOn with
  | nil => rfl
  | append_singleton front name _ =>
      have passes : files.reach (front ++ [name]) = .ok ⟨⟩ := by
        rw [FileSystem.reach, List.find?_eq_none.mpr]
        intro before isBefore
        rw [reached before (mem_dropLast_inits.mp isBefore).1]
        exact nofun
      have above := reached front (List.prefix_append _ _)
      rw [FileSystem.mkdir, List.getLast?_concat, List.dropLast_concat]
      dsimp only
      rw [passes]
      cases resolved : files.realpath front with
      | error error =>
          rw [FileSystem.isDir, resolved] at above
          cases above
      | ok parent =>
          change (if name = currentName ∨ name = parentName then _ else _) =
            _
          split_ifs with special taken
          · rfl
          · rfl
          · have absent := Option.not_isSome_iff_eq_none.mp taken
            have here := FileSystem.realpath_concat resolved
              (not_or.mp special) (by rw [FileSystem.linkAt, absent]; rfl)
            rw [FileSystem.isDir, here] at isThere
            simp only [FileSystem.isDirectoryAt, absent] at isThere
            cases isThere

theorem safe_makeDirs_present
    {guar : FileSystem → FileSystem → Prop}
    {post : Except PyError PUnit → FileSystem → Prop}
    {dest : List Text} {files : FileSystem}
    (reached : ∀ before, before <+: dest → files.isDir before = true)
    (umask : Nat) (ends : post (.ok ⟨⟩) files) :
    (makeDirs umask dest).Safe guar post files := by
  have isMade := mkdir_present reached umask
  have passes (error : PyError) :
      (allowExisting dest error).Safe guar post files := by
    simp only [allowExisting, Program.safe_bind, Program.safe_observe,
      Program.bindPost_ok, reached dest List.prefix_rfl]
    exact ends
  rw [makeDirs]
  cases isReversed : dest.reverse with
  | nil =>
      rw [List.reverse_eq_nil_iff] at isReversed
      subst isReversed
      rw [makeDirsReversed, makeDir, Program.safe_tryCatch, safe_perform,
        isMade]
      exact passes _
  | cons name before =>
      rw [makeDirsReversed, ← isReversed, List.reverse_reverse,
        Program.safe_tryCatch, safe_perform, isMade]
      dsimp only
      rw [Program.handlePost_error, if_neg (by decide)]
      exact passes _

theorem safe_makeDirs_confined
    {dest : List Text} {root : Path} {files : FileSystem} {tree : Tree}
    (confined : Confined dest root files) (holds : Holds root files tree)
    (umask : Nat) :
    (makeDirs umask dest).Safe (Grows root) (Leaves root (some tree))
      files :=
  safe_makeDirs_present confined.reached umask ⟨tree, rfl, holds⟩

/-- `Path.mkdir(parents=True, exist_ok=True)` below a confined directory. -/
theorem safe_makeDirs
    {dest : List Text} {root : Path} {files : FileSystem} {tree : Tree}
    (confined : Confined dest root files) (holds : Holds root files tree)
    (sound : tree.Sound) {rel : Path}
    (plain : ∀ name ∈ rel, PlainName name) (umask : Nat) :
    (makeDirs umask (dest ++ rel)).Safe (Grows root)
      (Leaves root (tree.makeDirs (FileSystem.newDirectoryMode umask) rel))
      files := by
  -- The recursion takes away the last name, and the first call fails there
  -- without a change of the file system.
  induction rel using List.reverseRecOn with
  | nil =>
      have stays : tree.makeDirs (FileSystem.newDirectoryMode umask) [] =
          some tree := by
        rw [Tree.makeDirs, sound.not_blocked Tree.isDirectory_nil,
          sound.withDirs_eq Tree.isDirectory_nil]
        rfl
      rw [stays, List.append_nil]
      exact safe_makeDirs_confined confined holds umask
  | append_singleton rel name induction =>
      obtain ⟨frontPlain, plainName⟩ := List.forall_mem_append.mp plain
      have plainName := List.forall_mem_singleton.mp plainName
      have reversed : (dest ++ (rel ++ [name])).reverse =
          name :: (dest ++ rel).reverse := by
        rw [← List.append_assoc, List.reverse_concat]
      have straight : (name :: (dest ++ rel).reverse).reverse =
          dest ++ (rel ++ [name]) := by
        rw [← reversed, List.reverse_reverse]
      rw [makeDirs, reversed, makeDirsReversed, straight,
        Program.safe_tryCatch, safe_perform]
      have outcome := mkdir_below confined holds sound frontPlain plainName
        umask
      generalize FileSystem.mkdir umask (dest ++ (rel ++ [name])) files =
        result at outcome ⊢
      cases outcome with
      | made parent absent =>
          exact ⟨grows_mkdir confined _,
            leaves_mkdir holds sound parent absent _⟩
      | present _ isThere =>
          dsimp only
          rw [Program.handlePost_error, if_neg (by decide)]
          exact safe_allowExisting confined holds sound plain
            (blocked_of_isSome isThere) _ _
      | missing parent error kind =>
          dsimp only
          rw [Program.handlePost_error, if_pos kind, Program.safe_bind]
          have made := (induction frontPlain).and_invariant
            (fun _ _ grows => grows.confined) confined
          refine made.mono (fun _ _ => id) ?_
          rintro (error | value) after ⟨outcome, confinedAfter⟩
          · have isBlocked : tree.blocked rel = true := by
              by_contra free
              change tree.makeDirs _ rel = none at outcome
              rw [Tree.makeDirs, if_neg free] at outcome
              cases outcome
            change tree.makeDirs _ (rel ++ [name]) = none
            rw [Tree.makeDirs, if_pos (Tree.blocked_of_prefix
              (List.prefix_append rel [name]) isBlocked)]
          · obtain ⟨later, isLater, holdsAfter⟩ := outcome
            rw [Tree.makeDirs] at isLater
            split_ifs at isLater with isBlocked
            cases isLater
            have free := eq_false_of_ne_true isBlocked
            have second := safe_makeDir confinedAfter holdsAfter
              (sound.withDirs free _) frontPlain plainName
              (Tree.isDirectory_withDirs free List.prefix_rfl _) umask
            rw [Tree.makeDirs_withDirs (List.prefix_append rel [name])]
              at second
            exact second
      | blocked isBlocked error kind =>
          dsimp only
          rw [Program.handlePost_error, if_neg kind]
          have later := Tree.blocked_of_prefix
            (List.prefix_append rel [name]) isBlocked
          exact safe_allowExisting confined holds sound plain
            (fun _ => later) _ _

section

variable {dest : List Text} {root : Path} {files : FileSystem} {tree : Tree}
variable (confined : Confined dest root files)
variable (holds : Holds root files tree) (sound : tree.Sound)
variable {parent : Path} {name : Text}
variable (plain : ∀ other ∈ parent ++ [name], PlainName other)
variable (parentThere : tree.isDirectory parent = true)

include confined holds sound plain parentThere in
theorem locate_below :
    files.locate (dest ++ (parent ++ [name])) =
      .ok (root ++ (parent ++ [name])) := by
  have passes := reach_below confined holds plain
    fun before isPrefix proper => sound.isDirectory_of_prefix parentThere
      ((List.prefix_concat_iff.mp isPrefix).resolve_left proper)
  rw [FileSystem.locate, passes]
  exact realpath_below confined plain

include confined holds sound plain parentThere in
/-- `Path.chmod` below a confined directory. -/
theorem safe_chmod
    {node : Node} (isThere : tree (parent ++ [name]) = some node)
    (mode : Nat) :
    (perform (FileSystem.chmod (dest ++ (parent ++ [name])) mode)).Safe
      (Grows root)
      (Leaves root
        (some (tree.put (parent ++ [name]) (node.withMode mode))))
      files := by
  have found := (holds (parent ++ [name]) (by simp)).trans isThere
  have changed : FileSystem.chmod (dest ++ (parent ++ [name])) mode files =
      .ok (files.insert (root ++ (parent ++ [name]))
        (node.withMode mode)) := by
    simp only [FileSystem.chmod,
      locate_below confined holds sound plain parentThere, ok_bind, found]
    rfl
  rw [safe_perform, changed]
  refine ⟨?_, _, rfl, holds.insert _ _⟩
  refine Grows.of_insert (by simp) ?_ (confined.noLinks _ (by simp)) ?_
  · cases node with
    | file content own => rfl
    | directory own => rfl
    | link target => exact absurd isThere (sound.noLinks _ target)
  · intro isDirectory
    rw [FileSystem.isDirectoryAt, found] at isDirectory
    cases node with
    | file content own => cases isDirectory
    | directory own => rfl
    | link target => cases isDirectory

/-- `Path.write_bytes` and `Path.chmod`. -/
def writeWithMode (umask : Nat) (raw : List Text) (content : Bytes)
    (mode : Nat) : FileProgram PUnit := do
  perform (FileSystem.writeBytes umask raw content)
  perform (FileSystem.chmod raw mode)

theorem Tree.put_put (rel : Path) (first second : Node) :
    (tree.put rel first).put rel second = tree.put rel second := by
  funext path
  by_cases same : path = rel
  · rw [put, if_pos same, put, if_pos same]
  · rw [put, if_neg same, put, if_neg same, put, if_neg same]

include confined holds sound plain parentThere in
/-- `Path.write_bytes` below a confined directory. -/
theorem writeBytes_below (umask : Nat) (content : Bytes) :
    (tree.isDirectory (parent ++ [name]) = true ∧
      ∃ error, FileSystem.writeBytes umask (dest ++ (parent ++ [name]))
        content files = .error error) ∨
    (tree.isDirectory (parent ++ [name]) = false ∧
      ∃ own, FileSystem.writeBytes umask (dest ++ (parent ++ [name]))
        content files = .ok (files.insert (root ++ (parent ++ [name]))
          (.file content own))) := by
  have isBelow : parent ++ [name] ≠ [] := by simp
  have found := holds (parent ++ [name]) isBelow
  have located := locate_below confined holds sound plain parentThere
  have parentDirectory :
      files.isDirectoryAt (root ++ (parent ++ [name])).dropLast = true := by
    have parentPlain := (List.forall_mem_append.mp plain).1
    have isDir := isDir_below confined holds parentPlain
    rw [FileSystem.isDir, realpath_below confined parentPlain,
      parentThere] at isDir
    rw [← List.append_assoc, List.dropLast_concat]
    exact isDir
  simp only [FileSystem.writeBytes, located, ok_bind]
  rw [found, Tree.isDirectory]
  simp only [isBelow, decide_false, Bool.false_or]
  cases isThere : tree (parent ++ [name]) with
  | none => exact .inr ⟨rfl, _, if_pos parentDirectory⟩
  | some node =>
      cases node with
      | file old own => exact .inr ⟨rfl, own, rfl⟩
      | directory own => exact .inl ⟨rfl, _, rfl⟩
      | link target => exact absurd isThere (sound.noLinks _ target)

include confined holds sound plain parentThere in
/-- The content of a file below a confined directory. -/
theorem safe_writeWithMode
    (umask : Nat) (content : Bytes) (mode : Nat) :
    (writeWithMode umask (dest ++ (parent ++ [name])) content mode).Safe
      (Grows root)
      (Leaves root (tree.putFile (parent ++ [name]) content mode))
      files := by
  have isBelow : parent ++ [name] ≠ [] := by simp
  rw [writeWithMode, Program.safe_bind, safe_perform]
  rcases writeBytes_below confined holds sound plain parentThere umask
    content with ⟨isDirectory, error, refused⟩ |
      ⟨notDirectory, own, written⟩
  · rw [refused]
    change tree.putFile (parent ++ [name]) content mode = none
    rw [Tree.putFile, if_pos isDirectory]
  · rw [written]
    have grows : Grows root files (files.insert
        (root ++ (parent ++ [name])) (.file content own)) := by
      refine Grows.of_insert isBelow rfl (confined.noLinks _ isBelow) ?_
      intro isDirectory
      rw [FileSystem.isDirectoryAt, holds _ isBelow] at isDirectory
      rw [Tree.isDirectory, isDirectory, Bool.or_true] at notDirectory
      cases notDirectory
    have parentStays : (tree.put (parent ++ [name])
        (.file content own)).isDirectory parent = true := by
      rw [Tree.isDirectory, Tree.put, if_neg (by simp)]
      exact parentThere
    have changes := safe_chmod (grows.confined confined)
      (holds.insert (parent ++ [name]) (.file content own))
      (sound.put_file parentThere notDirectory content own) plain
      parentStays (if_pos rfl) mode
    rw [Tree.put_put] at changes
    refine ⟨grows, ?_⟩
    rw [Program.bindPost_ok, Tree.putFile, notDirectory]
    exact changes

end

end ScientificResourceLab.Python
