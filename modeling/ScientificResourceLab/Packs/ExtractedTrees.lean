import ScientificResourceLab.Packs.Extract

/-!
# The tree of an extraction

`treeOf` says what a sequence of operations leaves in an empty directory
without running it: a path holds the last file written to it, and the
directories are those that some operation needs.  The operations go through
exactly when no path is both a file and a needed directory
(`applyAll_empty`), so neither depends on more of the order than the last
write.

The report of an extraction is compared with that tree.  It lists the names as
they are spelled in the archive, so it is right exactly when the spelling of
each file is the cleaned one and no file is repeated.
-/

namespace ScientificResourceLab.Packs

open Python Steps

/-! ## What a sequence of operations leaves -/

/-- Whether an operation makes a directory of its own path. -/
def Operation.makes : Operation → Bool
  | .makeDir _ => true
  | .putFile _ _ _ => false

def Operation.writes (path : Path) : Operation → Option Node
  | .makeDir _ => none
  | .putFile rel content mode =>
      if path = rel then some (.file content mode) else none

/-- A directory that an operation needs. -/
def Operation.Needs (operation : Operation) (path : Path) : Prop :=
  path ≠ [] ∧ path <+: operation.path ∧
    (operation.makes = true ∨ path ≠ operation.path)

instance (operation : Operation) (path : Path) :
    Decidable (operation.Needs path) :=
  inferInstanceAs (Decidable (_ ∧ _ ∧ _))

/-- The last file written at a path. -/
def lastWrite (operations : List Operation) (path : Path) : Option Node :=
  operations.reverse.findSome? (Operation.writes path)

/-- Whether a directory of a path is asked for. -/
def isMade (operations : List Operation) (path : Path) : Bool :=
  operations.any fun operation => operation.makes && operation.path = path

/-- The permission bits of a directory that is needed. -/
def directoryMode (newMode : Nat) (operations : List Operation)
    (path : Path) : Nat :=
  if isMade operations path then dirMode else newMode

/-- What operations leave in an empty directory. -/
def treeOf (newMode : Nat) (operations : List Operation) : Tree :=
  fun path =>
    (lastWrite operations path).or
      (if ∃ operation ∈ operations, operation.Needs path then
        some (.directory (directoryMode newMode operations path))
      else none)

/-- No path is both a file and a needed directory. -/
def Compatible (operations : List Operation) : Prop :=
  ∀ path, lastWrite operations path ≠ none →
    ∀ operation ∈ operations, ¬ operation.Needs path

theorem applyAll_append
    (newMode : Nat) (first second : List Operation) (tree : Tree) :
    applyAll newMode (first ++ second) tree =
      (applyAll newMode first tree).bind (applyAll newMode second) := by
  induction first generalizing tree with
  | nil => rfl
  | cons operation rest induction =>
      rw [List.cons_append, applyAll, applyAll]
      cases operation.apply newMode tree with
      | none => rfl
      | some after => exact induction after

theorem lastWrite_concat
    (operations : List Operation) (operation : Operation) (path : Path) :
    lastWrite (operations ++ [operation]) path =
      (operation.writes path).or (lastWrite operations path) := by
  rw [lastWrite, List.reverse_append, List.reverse_singleton,
    List.singleton_append, List.findSome?_cons, lastWrite]
  cases operation.writes path <;> rfl

theorem lastWrite_eq_some
    {operations : List Operation} {path : Path} {node : Node}
    (found : lastWrite operations path = some node) :
    ∃ content mode, node = .file content mode ∧
      .putFile path content mode ∈ operations := by
  obtain ⟨operation, isOperation, writes⟩ :=
    List.exists_of_findSome?_eq_some found
  cases operation with
  | makeDir rel => cases writes
  | putFile rel content mode =>
      rw [Operation.writes] at writes
      split_ifs at writes with same
      cases writes
      subst same
      exact ⟨content, mode, rfl, List.mem_reverse.mp isOperation⟩

theorem lastWrite_ne_none_iff
    {operations : List Operation} {path : Path} :
    lastWrite operations path ≠ none ↔
      ∃ content mode, .putFile path content mode ∈ operations := by
  constructor
  · intro written
    obtain ⟨node, found⟩ := Option.ne_none_iff_exists'.mp written
    obtain ⟨content, mode, _, isOperation⟩ := lastWrite_eq_some found
    exact ⟨content, mode, isOperation⟩
  · rintro ⟨content, mode, isOperation⟩ absent
    have missing := List.findSome?_eq_none_iff.mp absent _
      (List.mem_reverse.mpr isOperation)
    rw [Operation.writes, if_pos rfl] at missing
    cases missing

section

variable {newMode : Nat} {operations : List Operation}
variable (compatible : Compatible operations)

theorem treeOf_of_lastWrite
    {path : Path} {node : Node}
    (written : lastWrite operations path = some node) :
    treeOf newMode operations path = some node := by
  rw [treeOf, written, Option.some_or]

include compatible in
theorem treeOf_of_needs
    {path : Path}
    (needed : ∃ operation ∈ operations, operation.Needs path) :
    treeOf newMode operations path =
      some (.directory (directoryMode newMode operations path)) := by
  have notWritten : lastWrite operations path = none := by
    by_contra written
    obtain ⟨operation, isOperation, needs⟩ := needed
    exact compatible path written operation isOperation needs
  rw [treeOf, notWritten, Option.none_or, if_pos needed]

theorem treeOf_eq_none
    {path : Path} (notWritten : lastWrite operations path = none)
    (notNeeded : ¬ ∃ operation ∈ operations, operation.Needs path) :
    treeOf newMode operations path = none := by
  rw [treeOf, notWritten, Option.none_or, if_neg notNeeded]

/-- A file stands where one was written. -/
theorem treeOf_eq_file_iff {path : Path} {content : Bytes} {mode : Nat} :
    treeOf newMode operations path = some (.file content mode) ↔
      lastWrite operations path = some (.file content mode) := by
  constructor
  · intro found
    rw [treeOf] at found
    cases written : lastWrite operations path with
    | some node =>
        rw [written] at found
        exact found
    | none =>
        rw [written, Option.none_or] at found
        split_ifs at found
        cases found
  · exact treeOf_of_lastWrite

include compatible in
theorem isDirectory_treeOf {path : Path} (isBelow : path ≠ []) :
    (treeOf newMode operations).isDirectory path = true ↔
      ∃ operation ∈ operations, operation.Needs path := by
  rw [Tree.isDirectory_eq_true_iff isBelow]
  constructor
  · rintro ⟨mode, found⟩
    by_contra notNeeded
    cases written : lastWrite operations path with
    | none =>
        rw [treeOf_eq_none written notNeeded] at found
        cases found
    | some node =>
        rw [treeOf_of_lastWrite written] at found
        obtain ⟨content, own, isFile, _⟩ := lastWrite_eq_some written
        rw [isFile] at found
        cases found
  · intro needed
    exact ⟨_, treeOf_of_needs compatible needed⟩

/-- The way is blocked by a file that was written. -/
theorem blocked_treeOf {rel : Path} :
    (treeOf newMode operations).blocked rel = true ↔
      ∃ path, path <+: rel ∧ lastWrite operations path ≠ none := by
  rw [Tree.blocked_eq_true_iff]
  constructor
  · rintro ⟨path, node, isPrefix, found, isOther⟩
    refine ⟨path, isPrefix, fun notWritten => ?_⟩
    rw [treeOf, notWritten, Option.none_or] at found
    split_ifs at found
    cases found
    cases isOther
  · rintro ⟨path, isPrefix, written⟩
    obtain ⟨node, found⟩ := Option.ne_none_iff_exists'.mp written
    obtain ⟨content, mode, rfl, _⟩ := lastWrite_eq_some found
    exact ⟨path, _, isPrefix, treeOf_of_lastWrite found, rfl⟩

end

/-- What one more operation asks for. -/
theorem compatible_concat_iff
    {operations : List Operation} {operation : Operation} :
    Compatible (operations ++ [operation]) ↔
      Compatible operations ∧
        (∀ path, lastWrite operations path ≠ none →
          ¬ operation.Needs path) ∧
        ∀ path, operation.writes path ≠ none →
          ∀ other ∈ operations, ¬ other.Needs path := by
  have ownFile {path : Path} (writes : operation.writes path ≠ none) :
      ¬ operation.Needs path := by
    cases operation with
    | makeDir rel => exact absurd rfl writes
    | putFile rel content mode =>
        rintro ⟨_, _, isMade | other⟩
        · cases isMade
        · exact writes (if_neg other)
  constructor
  · intro compatible
    have either {path : Path} (written : operation.writes path ≠ none ∨
        lastWrite operations path ≠ none) :
        lastWrite (operations ++ [operation]) path ≠ none := by
      rw [lastWrite_concat, ne_eq, Option.or_eq_none_iff]
      rcases written with now | before
      · exact fun both => now both.1
      · exact fun both => before both.2
    refine ⟨fun path written other isOther => ?_, fun path written => ?_,
      fun path written other isOther => ?_⟩
    · exact compatible path (either (.inr written)) other
        (List.mem_append_left _ isOther)
    · exact compatible path (either (.inr written)) operation
        (List.mem_append_right _ (List.mem_singleton.mpr rfl))
    · exact compatible path (either (.inl written)) other
        (List.mem_append_left _ isOther)
  · rintro ⟨before, ofNeeds, ofWrites⟩ path written other isOther
    rw [lastWrite_concat, ne_eq, Option.or_eq_none_iff, not_and_or]
      at written
    rcases List.mem_append.mp isOther with earlier | last
    · rcases written with now | earlierWrite
      · exact ofWrites path now other earlier
      · exact before path earlierWrite other earlier
    · rw [List.mem_singleton.mp last]
      rcases written with now | earlierWrite
      · exact ownFile now
      · exact ofNeeds path earlierWrite

/-! ## Running the operations -/

section

variable {newMode : Nat} {operations : List Operation}
variable (compatible : Compatible operations)
variable (below : ∀ operation ∈ operations, operation.path ≠ [])

include below in
theorem ne_nil_of_lastWrite
    {path : Path} (written : lastWrite operations path ≠ none) :
    path ≠ [] := by
  obtain ⟨content, mode, isOperation⟩ := lastWrite_ne_none_iff.mp written
  exact below _ isOperation

theorem isMade_concat (operation : Operation) (path : Path) :
    isMade (operations ++ [operation]) path =
      (isMade operations path ||
        (operation.makes && operation.path = path)) := by
  rw [isMade, List.any_append, isMade]
  simp

/-- A directory that is asked for is needed. -/
theorem needs_of_isMade
    {path : Path} (isBelow : path ≠ [])
    (made : isMade operations path = true) :
    ∃ operation ∈ operations, operation.Needs path := by
  obtain ⟨operation, isOperation, both⟩ := List.any_eq_true.mp made
  rw [Bool.and_eq_true, decide_eq_true_eq] at both
  refine ⟨operation, isOperation, isBelow, ?_, .inl both.1⟩
  rw [both.2]

/-- The directories on the way to an operation that leaves a path alone. -/
theorem withDirs_treeOf
    {operation : Operation} {rel path : Path}
    (isOnTheWay : operation.Needs path ↔ path ≠ [] ∧ path <+: rel)
    (notMade : (operation.makes && operation.path = path) = false)
    (notWritten : operation.writes path = none) :
    (treeOf newMode operations).withDirs newMode rel path =
      treeOf newMode (operations ++ [operation]) path := by
  have needed : (∃ other ∈ operations ++ [operation], other.Needs path) ↔
      (∃ other ∈ operations, other.Needs path) ∨
        path ≠ [] ∧ path <+: rel := by
    simp only [List.mem_append, List.mem_singleton, or_and_right,
      exists_or, exists_eq_left, isOnTheWay]
  have sameMode : directoryMode newMode (operations ++ [operation]) path =
      directoryMode newMode operations path := by
    rw [directoryMode, isMade_concat, notMade, Bool.or_false,
      directoryMode]
  cases written : lastWrite operations path with
  | some node =>
      have old := @treeOf_of_lastWrite newMode _ _ _ written
      have new : lastWrite (operations ++ [operation]) path = some node := by
        rw [lastWrite_concat, notWritten, Option.none_or, written]
      rw [Tree.withDirs, if_neg (by rw [old]; simp), old,
        treeOf_of_lastWrite new]
  | none =>
      have old : treeOf newMode operations path =
          if ∃ other ∈ operations, other.Needs path then
            some (.directory (directoryMode newMode operations path))
          else none := by
        rw [treeOf, written, Option.none_or]
      have new : treeOf newMode (operations ++ [operation]) path =
          if (∃ other ∈ operations, other.Needs path) ∨
              path ≠ [] ∧ path <+: rel then
            some (.directory (directoryMode newMode operations path))
          else none := by
        rw [treeOf, lastWrite_concat, notWritten, Option.none_or, written,
          Option.none_or, sameMode]
        simp only [needed]
      rw [Tree.withDirs, new]
      by_cases before : ∃ other ∈ operations, other.Needs path
      · rw [if_pos before] at old
        rw [if_neg (by rw [old]; simp), old, if_pos (.inl before)]
      · rw [if_neg before] at old
        by_cases onTheWay : path ≠ [] ∧ path <+: rel
        · have fresh : directoryMode newMode operations path =
              newMode := by
            rw [directoryMode, if_neg]
            exact fun made => before (needs_of_isMade onTheWay.1 made)
          rw [if_pos ⟨onTheWay.2, onTheWay.1, old⟩, fresh,
            if_pos (.inr onTheWay)]
        · rw [if_neg fun all => onTheWay ⟨all.2.1, all.1⟩, old,
            if_neg fun either => onTheWay (either.resolve_left before)]

theorem needs_makeDir {rel path : Path} :
    (Operation.makeDir rel).Needs path ↔ path ≠ [] ∧ path <+: rel := by
  simp [Operation.Needs, Operation.makes, Operation.path]

theorem needs_putFile
    {rel path : Path} {content : Bytes} {mode : Nat} (isBelow : rel ≠ []) :
    (Operation.putFile rel content mode).Needs path ↔
      path ≠ [] ∧ path <+: rel.dropLast := by
  obtain ⟨parent, name, rfl⟩ :=
    (List.eq_nil_or_concat' rel).resolve_left isBelow
  simp only [Operation.Needs, Operation.makes, Operation.path,
    Bool.false_eq_true, false_or, List.dropLast_concat,
    List.prefix_concat_iff]
  constructor
  · rintro ⟨nonEmpty, isPrefix, proper⟩
    exact ⟨nonEmpty, isPrefix.resolve_left proper⟩
  · rintro ⟨nonEmpty, isPrefix⟩
    refine ⟨nonEmpty, .inr isPrefix, ?_⟩
    rintro rfl
    have short := isPrefix.length_le
    simp at short

include below in
/-- The way of an operation is free when it needs no file. -/
theorem blocked_treeOf_iff
    {operation : Operation} {rel : Path}
    (isOnTheWay : ∀ path,
      operation.Needs path ↔ path ≠ [] ∧ path <+: rel) :
    (treeOf newMode operations).blocked rel = true ↔
      ¬ ∀ path, lastWrite operations path ≠ none →
        ¬ operation.Needs path := by
  rw [blocked_treeOf]
  push Not
  constructor
  · rintro ⟨path, isPrefix, written⟩
    exact ⟨path, written, (isOnTheWay path).mpr
      ⟨ne_nil_of_lastWrite below written, isPrefix⟩⟩
  · rintro ⟨path, written, needs⟩
    exact ⟨path, ((isOnTheWay path).mp needs).2, written⟩

theorem makes_and_ne
    {operation : Operation} {path : Path} (other : path ≠ operation.path) :
    (operation.makes && operation.path = path) = false := by
  rw [decide_eq_false (Ne.symm other), Bool.and_false]

include compatible below in
/-- A directory operation on a tree that the earlier ones describe. -/
theorem apply_makeDir_treeOf {rel : Path} (isBelow : rel ≠ []) :
    (Compatible (operations ++ [.makeDir rel]) →
      (Operation.makeDir rel).apply newMode (treeOf newMode operations) =
        some (treeOf newMode (operations ++ [.makeDir rel]))) ∧
    (¬ Compatible (operations ++ [.makeDir rel]) →
      (Operation.makeDir rel).apply newMode (treeOf newMode operations) =
        none) := by
  have blockedIff := @blocked_treeOf_iff newMode _ below _ _
    fun path => @needs_makeDir rel path
  rw [Operation.apply, Tree.makeDirs]
  constructor
  · intro after
    have free := (compatible_concat_iff.mp after).2.1
    rw [if_neg fun isBlocked => blockedIff.mp isBlocked free,
      Option.map_some, Option.some_inj]
    funext path
    by_cases same : path = rel
    · have needed : ∃ other ∈ operations ++ [.makeDir rel],
          other.Needs path := by
        refine ⟨.makeDir rel, by simp, needs_makeDir.mpr ?_⟩
        rw [same]
        exact ⟨isBelow, List.prefix_rfl⟩
      have made : isMade (operations ++ [.makeDir rel]) path = true := by
        rw [isMade_concat, same]
        simp [Operation.makes, Operation.path]
      rw [Tree.put, if_pos same, treeOf_of_needs after needed,
        directoryMode, if_pos made]
    · rw [Tree.put, if_neg same]
      exact withDirs_treeOf needs_makeDir (makes_and_ne same) rfl
  · intro conflict
    have blocked : (treeOf newMode operations).blocked rel = true := by
      refine blockedIff.mpr fun free => conflict ?_
      exact compatible_concat_iff.mpr
        ⟨compatible, free, fun _ writes => absurd rfl writes⟩
    rw [if_pos blocked, Option.map_none]

include compatible below in
/-- A file operation on a tree that the earlier ones describe. -/
theorem apply_putFile_treeOf
    {rel : Path} (isBelow : rel ≠ []) (content : Bytes) (mode : Nat) :
    (Compatible (operations ++ [Operation.putFile rel content mode]) →
      (Operation.putFile rel content mode).apply newMode
          (treeOf newMode operations) =
        some (treeOf newMode
          (operations ++ [Operation.putFile rel content mode]))) ∧
    (¬ Compatible (operations ++ [Operation.putFile rel content mode]) →
      (Operation.putFile rel content mode).apply newMode
        (treeOf newMode operations) = none) := by
  have blockedIff := @blocked_treeOf_iff newMode _ below _ _
    fun path => @needs_putFile rel path content mode isBelow
  have writesSelf : (Operation.putFile rel content mode).writes rel ≠
      none := by
    rw [Operation.writes, if_pos rfl]
    exact nofun
  have notOnTheWay : ¬ rel <+: rel.dropLast := fun isPrefix => by
    have short := isPrefix.length_le
    have positive := List.length_pos_iff.mpr isBelow
    rw [List.length_dropLast] at short
    omega
  have isDirectory : ((treeOf newMode operations).withDirs newMode
      rel.dropLast).isDirectory rel = true ↔
        ∃ other ∈ operations, other.Needs rel := by
    rw [← isDirectory_treeOf compatible isBelow, Tree.isDirectory,
      Tree.withDirs, if_neg fun all => notOnTheWay all.1]
    rfl
  rw [Operation.apply, Tree.makeDirs]
  constructor
  · intro after
    obtain ⟨_, free, notNeeded⟩ := compatible_concat_iff.mp after
    have notDirectory : ¬ ∃ other ∈ operations, other.Needs rel := by
      rintro ⟨other, isOther, needs⟩
      exact notNeeded rel writesSelf other isOther needs
    rw [if_neg fun isBlocked => blockedIff.mp isBlocked free,
      Option.bind_some, Tree.putFile,
      if_neg (mt isDirectory.mp notDirectory), Option.some_inj]
    funext path
    by_cases same : path = rel
    · have written : lastWrite
          (operations ++ [Operation.putFile rel content mode]) path =
            some (.file content mode) := by
        rw [lastWrite_concat, Operation.writes, if_pos same,
          Option.some_or]
      rw [Tree.put, if_pos same, treeOf_of_lastWrite written]
    · rw [Tree.put, if_neg same]
      exact withDirs_treeOf (needs_putFile isBelow) rfl (if_neg same)
  · intro conflict
    by_cases free : ∀ path, lastWrite operations path ≠ none →
        ¬ (Operation.putFile rel content mode).Needs path
    · have needed : ∃ other ∈ operations, other.Needs rel := by
        by_contra notNeeded
        refine conflict (compatible_concat_iff.mpr
          ⟨compatible, free, fun path writes other isOther needs => ?_⟩)
        rw [Operation.writes] at writes
        split_ifs at writes with same
        · subst same
          exact notNeeded ⟨other, isOther, needs⟩
        · exact writes rfl
      rw [if_neg fun isBlocked => blockedIff.mp isBlocked free,
        Option.bind_some, Tree.putFile, if_pos (isDirectory.mpr needed)]
    · rw [if_pos (blockedIff.mpr free), Option.bind_none]

end

theorem compatible_of_concat
    {operations : List Operation} {operation : Operation}
    (compatible : Compatible (operations ++ [operation])) :
    Compatible operations :=
  (compatible_concat_iff.mp compatible).1

/--
Operations below an empty directory go through exactly when they are
compatible, and then they leave the described tree.
-/
theorem applyAll_empty
    (newMode : Nat) {operations : List Operation}
    (below : ∀ operation ∈ operations, operation.path ≠ []) :
    (Compatible operations →
      applyAll newMode operations Tree.empty =
        some (treeOf newMode operations)) ∧
    (¬ Compatible operations →
      applyAll newMode operations Tree.empty = none) := by
  induction operations using List.reverseRecOn with
  | nil =>
      refine ⟨fun _ => rfl, fun conflict => absurd ?_ conflict⟩
      exact fun _ _ _ isOperation => absurd isOperation List.not_mem_nil
  | append_singleton front operation induction =>
      obtain ⟨frontBelow, isBelow⟩ := List.forall_mem_append.mp below
      have isBelow := List.forall_mem_singleton.mp isBelow
      obtain ⟨goes, fails⟩ := induction frontBelow
      rw [applyAll_append]
      by_cases compatible : Compatible front
      · have one (tree : Tree) : applyAll newMode [operation] tree =
            operation.apply newMode tree := by
          rw [applyAll]
          cases operation.apply newMode tree <;> rfl
        rw [goes compatible, Option.bind_some, one]
        cases operation with
        | makeDir rel =>
            exact apply_makeDir_treeOf compatible frontBelow isBelow
        | putFile rel content mode =>
            exact apply_putFile_treeOf compatible frontBelow isBelow content
              mode
      · rw [fails compatible, Option.bind_none]
        exact ⟨fun after => absurd (compatible_of_concat after) compatible,
          fun _ => rfl⟩

end ScientificResourceLab.Packs
