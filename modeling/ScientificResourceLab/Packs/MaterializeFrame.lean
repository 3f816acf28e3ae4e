import ScientificResourceLab.Packs.ManifestRoundTrip
import ScientificResourceLab.Packs.Materialize

/-!
# What materialization does to its source

`Sparing` is the invariant of the copy: the staging path denotes one place,
no link lies below it, and no file outside has changed.  Every call of the
copy keeps it, also where the copy stops in the middle.  The deletion before
the copy establishes it, unless the way to the staging directory leads through
a link inside of that directory.
-/

namespace ScientificResourceLab.Packs

open Python Steps Contracts

/-! ## What the calls change -/

/-- A new directory stands where nothing was. -/
theorem mkdir_inserts
    {umask : Nat} {raw : List Text} {files after : FileSystem}
    (made : FileSystem.mkdir umask raw files = .ok after) :
    ∃ parent name mode, files.realpath raw.dropLast = .ok parent ∧
      raw.getLast? = some name ∧ PlainName name ∧
      files.lookup (parent ++ [name]) = none ∧
      after = files.insert (parent ++ [name]) (.directory mode) := by
  rw [FileSystem.mkdir] at made
  cases last : raw.getLast? with
  | none =>
      rw [last] at made
      cases made
  | some name =>
      rw [last] at made
      simp only [bind_eq_ok_iff] at made
      obtain ⟨_, _, parent, resolved, made⟩ := made
      split_ifs at made with special taken
      cases made
      exact ⟨parent, name, _, resolved, rfl, not_or.mp special,
        Option.not_isSome_iff_eq_none.mp taken, rfl⟩

theorem chmod_inserts
    {raw : List Text} {mode : Nat} {files after : FileSystem}
    (changed : FileSystem.chmod raw mode files = .ok after) :
    ∃ path node, files.lookup path = some node ∧
      after = files.insert path (node.withMode mode) := by
  simp only [FileSystem.chmod, bind_eq_ok_iff] at changed
  obtain ⟨path, _, changed⟩ := changed
  split at changed
  · next node found =>
      cases changed
      exact ⟨path, node, found, rfl⟩
  · cases changed

/-- A file is written at the place that its path denotes. -/
theorem writeBytes_inserts
    {umask : Nat} {raw : List Text} {content : Bytes}
    {files after : FileSystem}
    (written : FileSystem.writeBytes umask raw content files = .ok after) :
    ∃ path mode, files.realpath raw = .ok path ∧
      files.linkAt path = none ∧
      after = files.insert path (.file content mode) := by
  simp only [FileSystem.writeBytes, FileSystem.locate, bind_eq_ok_iff]
    at written
  obtain ⟨path, ⟨_, _, resolved⟩, written⟩ := written
  split at written
  · next old mode found =>
      cases written
      refine ⟨path, mode, resolved, ?_, rfl⟩
      rw [FileSystem.linkAt, found]
      rfl
  · cases written
  · cases written
  · next absent =>
      split_ifs at written
      cases written
      refine ⟨path, _, resolved, ?_, rfl⟩
      rw [FileSystem.linkAt, absent]
      rfl

/-- A path whose beginning cannot be resolved cannot be resolved. -/
theorem follow_append_error
    {links : Path → Option LinkTarget} {budget : Nat} {here : Path}
    {first second : List Text} {error : PyError}
    (failed : follow links budget here first = .error error) :
    follow links budget here (first ++ second) = .error error := by
  induction budget generalizing here first with
  | zero =>
      rw [follow] at failed ⊢
      rw [advance_append]
      split at failed
      · cases failed
      · exact failed
  | succ budget induction =>
      rw [follow] at failed ⊢
      rw [advance_append]
      split at failed
      · cases failed
      · simp only [← List.append_assoc]
        exact induction failed

/-! ## The invariant of the copy -/

/--
The links are those left by the deletion, and the files outside of the place
of the staging path are as they were.
-/
structure Sparing (staging : List Text) (place : Option Path)
    (links : Path → Option LinkTarget) (first files : FileSystem) : Prop where
  links : files.linkAt = links
  resolved : (files.realpath staging).toOption = place
  noLinks : ∀ root ∈ place, ∀ below, below ≠ [] →
    files.linkAt (root ++ below) = none
  contents : ∀ path, (∀ root ∈ place, ¬ root <+: path) →
    files.contentAt path = first.contentAt path

section

variable {staging : List Text} {place : Option Path}
variable {links : Path → Option LinkTarget} {first files : FileSystem}

/-- A node that keeps links, and contents outside of the place. -/
theorem Sparing.insert
    (sparing : Sparing staging place links first files) {path : Path}
    {node : Node}
    (link : node.target = files.linkAt path)
    (content : (∃ root ∈ place, root <+: path) ∨
      node.content = files.contentAt path) :
    Sparing staging place links first (files.insert path node) := by
  have sameLinks : FileSystem.linkAt (files.insert path node) =
      files.linkAt := by
    funext other
    by_cases same : other = path
    · rw [same, FileSystem.linkAt, AList.lookup_insert]
      exact link
    · rw [FileSystem.linkAt, AList.lookup_insert_ne same,
        FileSystem.linkAt]
  constructor
  · rw [sameLinks]
    exact sparing.links
  · rw [FileSystem.realpath, sameLinks]
    exact sparing.resolved
  · rw [sameLinks]
    exact sparing.noLinks
  · intro other outside
    rw [← sparing.contents other outside]
    by_cases same : other = path
    · subst same
      rw [FileSystem.contentAt, AList.lookup_insert]
      refine content.resolve_left ?_
      rintro ⟨root, isPlace, isPrefix⟩
      exact outside root isPlace isPrefix
    · rw [FileSystem.contentAt, AList.lookup_insert_ne same,
        FileSystem.contentAt]

theorem sustains_perform
    {invariant : FileSystem → Prop}
    {call : FileSystem → Except PyError FileSystem}
    (kept : ∀ files after, invariant files → call files = .ok after →
      invariant after) :
    (perform call).Sustains invariant fun _ => True := by
  intro files sound
  rw [safe_perform]
  cases called : call files with
  | error error => exact ⟨sound, nofun⟩
  | ok after =>
      have holds := kept files after sound called
      exact ⟨holds, holds, fun _ _ => trivial⟩

/-- The programs that keep the invariant. -/
abbrev Spares {α : Type} (staging : List Text) (place : Option Path)
    (links : Path → Option LinkTarget) (first : FileSystem)
    (program : FileProgram α) : Prop :=
  program.Sustains (Sparing staging place links first) fun _ => True

theorem spares_mkdir (umask : Nat) (raw : List Text) :
    Spares staging place links first (perform (FileSystem.mkdir umask raw)) := by
  refine sustains_perform fun files after sparing made => ?_
  obtain ⟨parent, name, mode, _, _, _, absent, rfl⟩ := mkdir_inserts made
  refine sparing.insert ?_ (.inr ?_)
  · rw [FileSystem.linkAt, absent]
    rfl
  · rw [FileSystem.contentAt, absent]
    rfl

/-- New permission bits change neither links nor contents. -/
theorem Sparing.chmod
    (sparing : Sparing staging place links first files)
    {raw : List Text} {mode : Nat} {after : FileSystem}
    (changed : FileSystem.chmod raw mode files = .ok after) :
    Sparing staging place links first after := by
  obtain ⟨path, node, found, rfl⟩ := chmod_inserts changed
  refine sparing.insert ?_ (.inr ?_)
  · rw [FileSystem.linkAt, found]
    cases node <;> rfl
  · rw [FileSystem.contentAt, found]
    cases node <;> rfl

theorem spares_chmod (raw : List Text) (mode : Nat) :
    Spares staging place links first (perform (FileSystem.chmod raw mode)) :=
  sustains_perform fun _ _ sparing changed => sparing.chmod changed

theorem spares_chmodReached
    (access : Access) (raw : List Text) (mode : Nat) :
    Spares staging place links first
      (perform (FileTree.chmodReached access raw mode)) := by
  refine sustains_perform fun files after sparing changed => ?_
  simp only [FileTree.chmodReached, bind_eq_ok_iff] at changed
  obtain ⟨found, _, changed⟩ := changed
  split_ifs at changed
  exact sparing.chmod changed

/-- Files are written below the place of the staging path. -/
theorem spares_writeBytes
    (umask : Nat) {rel : Path} (plain : ∀ name ∈ rel, PlainName name)
    (content : Bytes) :
    Spares staging place links first
      (perform (FileSystem.writeBytes umask (staging ++ rel) content)) := by
  refine sustains_perform fun files after sparing written => ?_
  obtain ⟨path, mode, resolved, notLink, rfl⟩ := writeBytes_inserts written
  cases found : files.realpath staging with
  | error error =>
      rw [FileSystem.realpath, follow_append_error found] at resolved
      cases resolved
  | ok root =>
      have isPlace : root ∈ place := by
        rw [← sparing.resolved, found]
        rfl
      have below : files.realpath (staging ++ rel) = .ok (root ++ rel) :=
        follow_append found
          (advance_of_plain plain (sparing.noLinks root isPlace))
      cases below.symm.trans resolved
      exact sparing.insert notLink.symm
        (.inl ⟨root, isPlace, List.prefix_append _ _⟩)

theorem spares_makedirs (umask : Nat) (raw : List Text) :
    Spares staging place links first (FileTree.makedirs umask raw) := by
  rw [FileTree.makedirs]
  induction raw.reverse with
  | nil => exact spares_mkdir umask []
  | cons name before induction =>
      rw [FileTree.makedirsReversed]
      refine Program.sustains_observe_then fun files _ => ?_
      have finish : Spares staging place links first
          (if name = currentName then pure PUnit.unit
          else perform
            (FileSystem.mkdir umask (name :: before).reverse)) :=
        Program.sustains_ite (fun _ => Program.sustains_pure trivial)
          fun _ => spares_mkdir umask _
      by_cases headExists : files.pathExists before.reverse = true
      · rw [if_pos headExists]
        exact finish
      · rw [if_neg headExists]
        refine Program.sustains_then ?_ fun _ => finish
        refine Program.sustains_tryCatch induction fun error => ?_
        exact Program.sustains_ite
          (fun _ => Program.sustains_pure trivial)
          fun _ => Program.sustains_throw error

theorem spares_copystat (source target : List Text) :
    Spares staging place links first (FileTree.copystat source target) :=
  Program.sustains_then
    (Program.sustains_inspect fun _ _ _ _ => trivial)
    fun _ => spares_chmod target _

/-- A copied file lands below the place of the staging path. -/
theorem spares_copy2
    (access : Access) (umask : Nat) {source : List Text} {name : Text}
    (plainName : PlainName name) {rel : Path}
    (plain : ∀ other ∈ rel, PlainName other) :
    Spares staging place links first
      (FileTree.copy2 access umask (source ++ [name]) (staging ++ rel)) := by
  rw [FileTree.copy2]
  refine Program.sustains_observe_then fun files _ => ?_
  have final : ∃ below, (∀ other ∈ below, PlainName other) ∧
      FileTree.copyTarget (source ++ [name]) (staging ++ rel) files =
        staging ++ below := by
    rw [FileTree.copyTarget, List.getLast?_concat]
    split_ifs
    · refine ⟨rel ++ [name], ?_, List.append_assoc _ _ _⟩
      exact List.forall_mem_append.mpr
        ⟨plain, List.forall_mem_singleton.mpr plainName⟩
    · exact ⟨rel, plain, rfl⟩
  obtain ⟨below, belowPlain, isFinal⟩ := final
  rw [isFinal]
  refine Program.sustains_observe_then fun _ _ => ?_
  refine Program.sustains_ite (fun _ => Program.sustains_throw _) fun _ => ?_
  refine Program.sustains_then
    (Program.sustains_inspect fun _ _ _ _ => trivial) fun content => ?_
  exact Program.sustains_then (spares_writeBytes umask belowPlain content)
    fun _ => spares_copystat _ _

theorem spares_copyEntries
    {copyEntry : Text → FileProgram PUnit} {names : List Text}
    (each : ∀ name ∈ names, Spares staging place links first (copyEntry name)) :
    Spares staging place links first (FileTree.copyEntries copyEntry names) := by
  induction names with
  | nil => exact Program.sustains_pure trivial
  | cons name rest induction =>
      obtain ⟨here, others⟩ := List.forall_mem_cons.mp each
      rw [FileTree.copyEntries]
      refine Program.sustains_then ?_ fun failed =>
        Program.sustains_then (induction others)
          fun _ => Program.sustains_pure trivial
      refine Program.sustains_tryCatch
        (Program.sustains_then here fun _ => Program.sustains_pure trivial)
        fun error => ?_
      exact Program.sustains_ite (fun _ => Program.sustains_pure trivial)
        fun _ => Program.sustains_throw error

theorem scandir_plain
    {access : Access} {raw : List Text} {files : FileSystem}
    {names : List Text}
    (listed : FileTree.scandir access raw files = .ok names) :
    ∀ name ∈ names, PlainName name := by
  simp only [FileTree.scandir, bind_eq_ok_iff] at listed
  obtain ⟨found, _, listed⟩ := listed
  split_ifs at listed
  cases listed
  intro name isName
  obtain ⟨path, _, isChild⟩ := List.mem_filterMap.mp isName
  rw [FileTree.childName.eq_def] at isChild
  split at isChild
  · split_ifs at isChild with special
    cases isChild
    exact not_or.mp special
  · cases isChild

/-- The copy of a tree lands below the place of the staging path. -/
theorem spares_copytree
    (access : Access) (umask depth : Nat) (source : List Text) {rel : Path}
    (plain : ∀ name ∈ rel, PlainName name) :
    Spares staging place links first
      (FileTree.copytree access umask depth source (staging ++ rel)) := by
  induction depth generalizing source rel with
  | zero => exact Program.sustains_throw _
  | succ depth induction =>
      rw [FileTree.copytree]
      refine Program.sustains_bind
        (Program.sustains_inspect fun _ _ _ listed => scandir_plain listed)
        fun names namesPlain => ?_
      refine Program.sustains_then (spares_makedirs umask _) fun _ => ?_
      refine Program.sustains_then (spares_copyEntries fun name isName => ?_)
        fun failed => ?_
      · have entryPlain : ∀ other ∈ rel ++ [name], PlainName other :=
          List.forall_mem_append.mpr
            ⟨plain, List.forall_mem_singleton.mpr (namesPlain name isName)⟩
        refine Program.sustains_observe_then fun _ _ => ?_
        rw [List.append_assoc]
        exact Program.sustains_ite (fun _ => induction _ entryPlain)
          fun _ => spares_copy2 access umask (namesPlain name isName) entryPlain
      · refine Program.sustains_then (spares_copystat _ _) fun _ => ?_
        exact Program.sustains_ite (fun _ => Program.sustains_throw _)
          fun _ => Program.sustains_pure trivial

theorem spares_normalizeModes
    (access : Access) (raw : List Text) (paths : List Path) :
    Spares staging place links first
      (FileTree.normalizeModes access raw paths) := by
  induction paths with
  | nil => exact Program.sustains_pure trivial
  | cons rel rest induction =>
      refine Program.sustains_then ?_ fun _ => induction
      refine Program.sustains_observe_then fun _ _ => ?_
      refine Program.sustains_observe_then fun _ _ => ?_
      exact Program.sustains_ite
        (fun _ => spares_chmodReached access _ _)
        fun _ => Program.sustains_pure trivial

end

/-! ## The deletion -/

theorem lookup_foldl_erase
    (keys : List Path) (files : FileSystem) (path : Path) :
    (keys.foldl (fun left key => left.erase key) files).lookup path =
      if path ∈ keys then none else files.lookup path := by
  induction keys generalizing files with
  | nil => rfl
  | cons key rest induction =>
      rw [List.foldl_cons, induction]
      by_cases same : path = key
      · subst same
        rw [AList.lookup_erase, if_pos List.mem_cons_self]
        exact ite_self _
      · rw [AList.lookup_erase_ne same]
        simp [same]

/-- What is left after a directory was deleted. -/
theorem lookup_removeBelow
    (place : Path) (files : FileSystem) (path : Path) :
    (FileTree.removeBelow place files).lookup path =
      if place <+: path then none else files.lookup path := by
  rw [FileTree.removeBelow, lookup_foldl_erase]
  by_cases isBelow : place <+: path
  · rw [if_pos isBelow]
    split_ifs with isKey
    · rfl
    · refine AList.lookup_eq_none.mpr fun present => isKey ?_
      exact List.mem_filter.mpr ⟨AList.mem_keys.mp present,
        List.isPrefixOf_iff_prefix.mpr isBelow⟩
  · rw [if_neg isBelow, if_neg]
    intro isKey
    exact isBelow (List.isPrefixOf_iff_prefix.mp
      (List.mem_filter.mp isKey).2)

/-- Every node of a file system stands in a directory. -/
def WellFormed (files : FileSystem) : Prop :=
  ∀ path name, (files.lookup (path ++ [name])).isSome = true →
    files.isDirectoryAt path = true

theorem WellFormed.lookup_below
    {files : FileSystem} (wellFormed : WellFormed files) {place : Path}
    (absent : files.lookup place = none) (below : Path) :
    files.lookup (place ++ below) = none := by
  induction below using List.reverseRecOn with
  | nil => rw [List.append_nil, absent]
  | append_singleton front name induction =>
      by_contra present
      have isDirectory := wellFormed (place ++ front) name (by
        rw [List.append_assoc]
        exact Option.isSome_iff_ne_none.mpr present)
      rw [FileSystem.isDirectoryAt, induction] at isDirectory
      cases isDirectory

/-- The deletion before the copy fails. -/
def DeletionRefused (staging : List Text) (files : FileSystem) : Prop :=
  files.pathExists staging = true ∧
    ∃ error, FileTree.rmtree staging files = .error error

/-- A path denotes a place, and the same one after a deletion. -/
structure Settles (raw : List Text) (files : FileSystem)
    (deleted found : Path) : Prop where
  before : files.realpath raw = .ok found
  after : (FileTree.removeBelow deleted files).realpath raw = .ok found

theorem rmtree_eq_ok
    {staging : List Text} {files after : FileSystem} {place : Path}
    (resolved : files.realpath staging = .ok place)
    (removed : FileTree.rmtree staging files = .ok after) :
    after = FileTree.removeBelow place files := by
  rw [FileTree.rmtree] at removed
  split_ifs at removed
  simp only [FileSystem.locate, bind_eq_ok_iff] at removed
  obtain ⟨found, ⟨_, _, isFound⟩, removed⟩ := removed
  cases resolved.symm.trans isFound
  split_ifs at removed
  cases removed
  rfl

/-- After the deletion nothing lies at the place. -/
theorem sparing_removeBelow
    {staging : List Text} {files : FileSystem} {root : Path}
    (settled : Settles staging files root root) :
    Sparing staging (some root) (FileTree.removeBelow root files).linkAt
      files (FileTree.removeBelow root files) := by
  constructor
  · rfl
  · rw [settled.after]
    rfl
  · rintro _ ⟨⟩ below _
    rw [FileSystem.linkAt, lookup_removeBelow,
      if_pos (List.prefix_append _ _)]
    rfl
  · intro path outside
    rw [FileSystem.contentAt, lookup_removeBelow, if_neg (outside root rfl),
      FileSystem.contentAt]

/-- Where nothing is to be deleted the invariant holds from the start. -/
theorem sparing_absent
    {staging : List Text} {files : FileSystem} (wellFormed : WellFormed files)
    (absent : files.pathExists staging = false) :
    Sparing staging (files.realpath staging).toOption files.linkAt files
      files := by
  constructor
  · rfl
  · rfl
  · intro root isPlace below _
    cases found : files.realpath staging with
    | error error =>
        rw [found] at isPlace
        cases isPlace
    | ok place =>
        rw [found] at isPlace
        cases isPlace
        rw [FileSystem.pathExists, found] at absent
        have nothing := Option.not_isSome_iff_eq_none.mp
          (ne_true_of_eq_false absent)
        rw [FileSystem.linkAt, wellFormed.lookup_below nothing]
        rfl
  · exact fun _ _ => rfl

/-- The copy after the deletion, with the reset of the permission bits. -/
theorem spares_copy
    (access : Access) (umask depth : Nat) (source staging : List Text) {place : Option Path}
    {links : Path → Option LinkTarget} {first : FileSystem} :
    Spares staging place links first (do
      FileTree.copytree access umask depth source staging
      let paths ← Program.observe (FileTree.pathsBelow staging)
      FileTree.normalizeModes access staging paths) := by
  refine Program.sustains_then ?_ fun _ => ?_
  · have top := @spares_copytree staging place links first access umask depth
      source [] (by simp)
    rw [List.append_nil] at top
    exact top
  · exact Program.sustains_observe_then fun _ _ =>
      spares_normalizeModes access staging _

/-- What the deletion and the copy leave outside of a place. -/
structure LeavesOutside (place : Option Path)
    (before after : FileSystem) : Prop where
  contents : ∀ path, (∀ root ∈ place, ¬ root <+: path) →
    after.contentAt path = before.contentAt path
  links : after.linkAt = before.linkAt ∨
    ∃ root ∈ place, after.linkAt =
      (FileTree.removeBelow root before).linkAt

/-- The deletion and the copy spare what lies outside of the place. -/
theorem copyTree_leavesOutside
    {access : Access} {umask depth : Nat} {source staging : List Text} {files : FileSystem}
    (wellFormed : WellFormed files)
    (settles : ∀ root, files.realpath staging = .ok root →
      Settles staging files root root) :
    (FileTree.copyTree access umask depth source staging).Safe
      (fun _ _ => True)
      (fun _ after =>
        LeavesOutside (files.realpath staging).toOption files after)
      files := by
  rw [FileTree.copyTree, Program.safe_bind, Program.safe_observe,
    Program.bindPost_ok]
  cases present : files.pathExists staging with
  | false =>
      refine (spares_copy access umask depth source staging files
        (sparing_absent wellFormed present)).mono (fun _ _ _ => trivial)
        fun _ final kept => ?_
      exact ⟨kept.1.contents, .inl kept.1.links⟩
  | true =>
      rw [if_pos rfl, Program.safe_bind, safe_perform]
      cases found : files.realpath staging with
      | error error =>
          rw [FileSystem.pathExists, found] at present
          cases present
      | ok root =>
          cases removed : FileTree.rmtree staging files with
          | error error => exact ⟨fun _ _ => rfl, .inl rfl⟩
          | ok after =>
              obtain rfl := rmtree_eq_ok found removed
              refine ⟨trivial, ?_⟩
              refine (spares_copy access umask depth source staging _
                (sparing_removeBelow (settles root found))).mono
                (fun _ _ _ => trivial) fun _ final kept => ?_
              exact ⟨kept.1.contents, .inr ⟨root, rfl, kept.1.links⟩⟩

/-- A refused deletion is all that happens. -/
theorem copyTree_refused
    {access : Access} {umask depth : Nat} {source staging : List Text} {files : FileSystem}
    (refused : DeletionRefused staging files) :
    (FileTree.copyTree access umask depth source staging).Safe
      (fun _ _ => True) (fun _ after => after = files) files := by
  obtain ⟨present, error, failed⟩ := refused
  rw [FileTree.copyTree, Program.safe_bind, Program.safe_observe,
    Program.bindPost_ok, if_pos present, Program.safe_bind, safe_perform,
    failed]
  rfl

/-! ## The source -/

/-- The checks before the copy pass. -/
structure SourcePasses
    (access : Access) (manifest : ResourcePackManifest)
    (packRoot : List Text) (files : FileSystem) : Prop where
  isDir : files.isDir packRoot = true
  isMutable : isImmutableRoot packRoot files = .ok false
  matching : computeTreeSha256 access packRoot files = .ok manifest.treeSha256

theorem checkSource_run
    {access : Access} {manifest : ResourcePackManifest}
    {packRoot : List Text} {files : FileSystem} (passes : SourcePasses access manifest packRoot files) :
    (checkSource access manifest packRoot).run files =
      (.ok manifest.treeSha256, files) := by
  rw [checkSource, Program.run_observe_bind, passes.isDir]
  change (Program.inspect (isImmutableRoot packRoot) >>= _).run files = _
  rw [Program.run_inspect_bind _ passes.isMutable]
  change (Program.inspect (computeTreeSha256 access packRoot) >>= _).run files = _
  rw [Program.run_inspect_bind _ passes.matching, if_pos rfl]
  rfl

/-- The checks before the copy change nothing. -/
theorem checkSource_safe
    (access : Access) (manifest : ResourcePackManifest) (packRoot : List Text)
    (files : FileSystem) :
    (checkSource access manifest packRoot).Safe (fun _ _ => True)
      (fun result after => after = files ∧ ∀ value, result = .ok value →
        SourcePasses access manifest packRoot files) files := by
  rw [checkSource, Program.safe_bind, Program.safe_observe,
    Program.bindPost_ok]
  cases isDir : files.isDir packRoot with
  | false => exact ⟨rfl, nofun⟩
  | true =>
      refine Program.safe_inspect_bind (fun isImmutable flagged => ?_)
        fun error => ⟨rfl, nofun⟩
      cases isImmutable with
      | true => exact ⟨rfl, nofun⟩
      | false =>
          refine Program.safe_inspect_bind (fun observed computed => ?_)
            fun error => ⟨rfl, nofun⟩
          rw [Program.safe_ite]
          refine ⟨fun same => ?_, fun _ => ⟨rfl, nofun⟩⟩
          rw [same] at computed
          exact ⟨rfl, fun _ _ => ⟨isDir, flagged, computed⟩⟩

/-- The check after the copy and the receipt change nothing. -/
theorem materialize_safe
    {access : Access} {umask depth : Nat} {now : Text} {manifest : ResourcePackManifest}
    {packRoot staging : List Text} {files : FileSystem}
    {left : FileSystem → Prop} (unchanged : left files)
    (copied : SourcePasses access manifest packRoot files →
      (FileTree.copyTree access umask depth packRoot staging).Safe
        (fun _ _ => True) (fun _ after => left after) files) :
    left ((materialize access umask depth now manifest packRoot staging).run
      files).2 := by
  have safe : (materialize access umask depth now manifest packRoot staging).Safe
      (fun _ _ => True) (fun _ after => left after) files := by
    rw [materialize, Program.safe_bind]
    refine (checkSource_safe access manifest packRoot files).mono
      (fun _ _ kept => kept) fun checked state passed => ?_
    obtain ⟨rfl, passes⟩ := passed
    cases checked with
    | error error => exact unchanged
    | ok observed =>
        rw [Program.bindPost_ok, Program.safe_bind]
        refine (copied (passes observed rfl)).mono (fun _ _ kept => kept)
          fun result after kept => ?_
        cases result with
        | error error => exact kept
        | ok value =>
            rw [Program.bindPost_ok, Program.safe_bind, checkCopy]
            refine Program.safe_inspect_bind (fun found _ => ?_)
              fun error => kept
            rw [Program.safe_ite]
            refine ⟨fun _ => ?_, fun _ => kept⟩
            rw [Program.safe_pure, Program.bindPost_ok]
            exact Program.safe_inspect_bind (fun _ _ => kept)
              fun error => kept
  exact safe.run_post

/-- The files and the links of the pack are as they were. -/
def SourceKept (packRoot : List Text) (before after : FileSystem) : Prop :=
  ∀ root, before.realpath packRoot = .ok root →
    after.realpath packRoot = .ok root ∧
      ∀ below,
        after.contentAt (root ++ below) = before.contentAt (root ++ below) ∧
          after.linkAt (root ++ below) = before.linkAt (root ++ below)

/-- The pack and the staging directory have nothing in common. -/
structure Apart (packRoot staging : List Text) (files : FileSystem)
    (root place : Path) : Prop where
  source : Settles packRoot files place root
  staged : Settles staging files place place
  outside : ¬ place <+: root
  inside : ¬ root <+: place

theorem Apart.below
    {packRoot staging : List Text} {files : FileSystem} {root place : Path}
    (apart : Apart packRoot staging files root place) (below : Path) :
    ¬ place <+: root ++ below := by
  intro isPrefix
  rcases List.prefix_or_prefix_of_prefix isPrefix
    (List.prefix_append root below) with outside | inside
  · exact apart.outside outside
  · exact apart.inside inside

theorem LeavesOutside.sourceKept
    {packRoot staging : List Text} {before after : FileSystem}
    (leaves : LeavesOutside (before.realpath staging).toOption before after)
    (apart : ∀ root place, before.realpath packRoot = .ok root →
      before.realpath staging = .ok place →
      Apart packRoot staging before root place) :
    SourceKept packRoot before after := by
  intro root resolved
  have isPlace {place : Path}
      (member : place ∈ (before.realpath staging).toOption) :
      before.realpath staging = .ok place := by
    cases found : before.realpath staging with
    | error error =>
        rw [found] at member
        cases member
    | ok found =>
        rw [found] at member
        cases member
        rfl
  refine ⟨?_, fun below => ⟨?_, ?_⟩⟩
  · rcases leaves.links with links | ⟨place, member, links⟩
    · rw [FileSystem.realpath, links]
      exact resolved
    · rw [FileSystem.realpath, links]
      exact (apart root place resolved (isPlace member)).source.after
  · refine leaves.contents _ fun place member => ?_
    exact (apart root place resolved (isPlace member)).below below
  · rcases leaves.links with links | ⟨place, member, links⟩
    · rw [links]
    · have outside := (apart root place resolved (isPlace member)).below
        below
      rw [links, FileSystem.linkAt, lookup_removeBelow, if_neg outside,
        FileSystem.linkAt]

/-- When the pack cannot come to harm. -/
def SourceSafe
    (access : Access) (manifest : ResourcePackManifest)
    (packRoot staging : List Text) (files : FileSystem) : Prop :=
  ¬ SourcePasses access manifest packRoot files ∨
    DeletionRefused staging files ∨
    ∀ root place, files.realpath packRoot = .ok root →
      files.realpath staging = .ok place →
      Apart packRoot staging files root place

/--
The pack is as it was, whether the call returns or raises, where a check
before the copy fails, the deletion is refused, or the staging directory and
the pack have nothing in common.
-/
theorem materialize_keeps_source
    {access : Access} {files : FileSystem} (wellFormed : WellFormed files)
    {manifest : ResourcePackManifest} {packRoot staging : List Text}
    (safe : SourceSafe access manifest packRoot staging files)
    (umask depth : Nat) (now : Text) :
    SourceKept packRoot files
      ((materialize access umask depth now manifest packRoot staging).run
        files).2 := by
  have same : SourceKept packRoot files files :=
    fun _ resolved => ⟨resolved, fun _ => ⟨rfl, rfl⟩⟩
  refine materialize_safe same fun passes => ?_
  rcases safe with fails | refused | apart
  · exact absurd passes fails
  · refine (copyTree_refused refused).mono (fun _ _ kept => kept)
      fun _ after isSame => ?_
    rw [isSame]
    exact same
  · cases found : files.realpath packRoot with
    | error error =>
        have isMutable := passes.isMutable
        rw [isImmutableRoot, found] at isMutable
        cases isMutable
    | ok root =>
        refine (copyTree_leavesOutside wellFormed fun place staged =>
          (apart root place found staged).staged).mono
          (fun _ _ kept => kept) fun _ after leaves => ?_
        exact leaves.sourceKept apart

theorem wellFormed_of_keys
    {files : FileSystem}
    (keys : ∀ key ∈ files.keys,
      key = [] ∨ files.isDirectoryAt key.dropLast = true) :
    WellFormed files := by
  intro path name present
  have isKey : path ++ [name] ∈ files.keys :=
    AList.mem_keys.mp (AList.lookup_isSome.mp present)
  rcases keys _ isKey with empty | isDirectory
  · exact absurd empty (by simp)
  · rw [List.dropLast_concat] at isDirectory
    exact isDirectory

theorem packedDirectory_wellFormed : WellFormed packedDirectory :=
  wellFormed_of_keys (by decide)

/-- A manifest that declares the tree hash of the packed directory. -/
theorem packedDirectory_passes :
    ∃ manifest, SourcePasses .owner manifest [text "real"] packedDirectory := by
  have unicode := packedDirectory_unicode.unicode
  have tree : UnicodeTree [text "real"] [text "real"] packedDirectory :=
    ⟨by decide, by decide, unicode⟩
  obtain ⟨_, _, computed⟩ := treeDigest_returns tree.listing
  refine ⟨{ smallManifest with treeSha256 := _ }, tree.isDir,
    by decide, (tree.computes packedDirectory_accessible.readable).trans computed⟩

theorem materialize_keeps_packedDirectory :
    WellFormed packedDirectory ∧
      ∃ manifest,
        SourcePasses .owner manifest [text "real"] packedDirectory ∧
          SourceSafe .owner manifest [text "real"] [text "copy"]
            packedDirectory ∧
          SourceKept [text "real"] packedDirectory
            ((materialize .owner 0o022 255 [] manifest [text "real"]
              [text "copy"]).run packedDirectory).2 := by
  obtain ⟨manifest, passes⟩ := packedDirectory_passes
  have safe : SourceSafe .owner manifest [text "real"] [text "copy"]
      packedDirectory := by
    refine .inr (.inr fun root place isRoot isPlace => ?_)
    have rootIs : packedDirectory.realpath [text "real"] =
        .ok [text "real"] := by decide
    have placeIs : packedDirectory.realpath [text "copy"] =
        .ok [text "copy"] := by decide
    cases isRoot.symm.trans rootIs
    cases isPlace.symm.trans placeIs
    exact ⟨⟨rootIs, by decide⟩, ⟨placeIs, by decide⟩,
      by decide, by decide⟩
  exact ⟨packedDirectory_wellFormed, manifest, passes, safe,
    materialize_keeps_source packedDirectory_wellFormed safe 0o022 255 []⟩

/-- A pack that is its own staging directory is deleted. -/
theorem materialize_destroys_source :
    ∃ manifest,
      SourcePasses .owner manifest [text "real"] packedDirectory ∧
        ¬ SourceKept [text "real"] packedDirectory
          ((materialize .owner 0o022 255 [] manifest [text "real"]
            [text "real"]).run packedDirectory).2 := by
  obtain ⟨manifest, passes⟩ := packedDirectory_passes
  refine ⟨manifest, passes, fun kept => ?_⟩
  have copied : ∃ error after,
      (FileTree.copyTree .owner 0o022 255 [text "real"] [text "real"]).run
        packedDirectory = (.error error, after) ∧
      after.contentAt [text "real", text "values"] = none := by
    refine ⟨raised .fileNotFoundError "No such file or directory",
      FileTree.removeBelow [text "real"] packedDirectory, rfl, ?_⟩
    decide
  obtain ⟨error, after, ran, gone⟩ := copied
  rw [materialize, Program.run_bind_ok (checkSource_run passes),
    Program.run_bind_error ran] at kept
  have same := ((kept [text "real"] (by decide)).2
    [text "values"]).1
  have held : packedDirectory.contentAt [text "real", text "values"] =
      some [1] := by decide
  rw [List.singleton_append, gone, held] at same
  cases same

end ScientificResourceLab.Packs
