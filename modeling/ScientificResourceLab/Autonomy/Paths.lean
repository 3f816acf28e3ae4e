import ScientificResourceLab.Python.Exceptions
import ScientificResourceLab.Steps.Fallible

/-!
# Repository-relative paths

`PurePosixPath` keeps of a path whether it is absolute and its parts, the
non-empty components other than `.` between the slashes.  The lane ledger and
the write-scope guard each normalise path strings to lists of parts with the
same rules and compare them by their own predicates: the ledger refuses two
owned paths of which one is an initial segment of the other, and the guard
permits a write below an owned path.

`not_both_permitted` is where the two meet: owned sets without overlapping
paths permit no common write.
-/

namespace ScientificResourceLab.Autonomy

open Python Steps

/-! ## Pure POSIX paths -/

/-- `str(path)` of a relative path with these parts. -/
def pathText (parts : List Text) : Text :=
  if parts = [] then text "."
  else [codePoint '/'].intercalate parts

/--
The rules for a repository-relative path: not empty, no backslash, not
absolute, no `..`.  `label` is the subject of the messages.
-/
def normalizeRelative (kind : ErrorKind) (label : String) (path : Text) :
    Except PyError (List Text) :=
  if path = [] then
    .error ⟨kind, text label ++ text " must be a non-empty string"⟩
  else if codePoint '\\' ∈ path then
    .error ⟨kind, text label ++
      text " contains a backslash (non-portable): " ++ quoted path⟩
  else if isAbsolute path then
    .error ⟨kind, text label ++
      text " is absolute (must be repo-relative): " ++ quoted path⟩
  else if text ".." ∈ pathParts path then
    .error ⟨kind, text label ++
      text " contains '..' (traversal forbidden): " ++ quoted path⟩
  else .ok ((pathParts path).filter (· ≠ text "."))

/-! ## The lane ledger's view -/

/-- `srl.autonomy.lanes._normalize_owned`. -/
def normalizeOwned (path : Text) : Except PyError (List Text) :=
  normalizeRelative .laneError "owned path" path

/-- `srl.autonomy.lanes._paths_overlap`, on parts. -/
def pathsOverlap (left right : List Text) : Bool :=
  left = right ||
    left.length < right.length && right.take left.length = left ||
    right.length < left.length && left.take right.length = right

/-! ## The write-scope guard's view -/

/-- `srl.autonomy.scopes._normalize`. -/
def normalizeWrite (path : Text) : Except PyError (List Text) :=
  normalizeRelative .scopeViolation "write path" path

/-- `srl.autonomy.scopes._normalize_owned`. -/
def normalizeOwnedSet : List Text → Except PyError (List (List Text))
  | [] => .ok []
  | entry :: rest => do
      let head ← normalizeWrite entry
      let tail ← normalizeOwnedSet rest
      pure (head :: tail)

/-- `srl.autonomy.scopes._is_within`, on parts. -/
def isWithin (candidate : List Text) (owned : List (List Text)) : Bool :=
  owned.any fun anchor =>
    candidate = anchor ||
      anchor.length < candidate.length &&
        candidate.take anchor.length = anchor

/-- `srl.autonomy.scopes.check_write`. -/
def checkWrite (path : Text) (ownedPaths : List Text) :
    Except PyError Unit := do
  let owned ← normalizeOwnedSet ownedPaths
  let candidate ← normalizeWrite path
  if isWithin candidate owned then pure ()
  else
    throw ⟨.scopeViolation,
      text "write target " ++ quoted path ++
        text " is outside the owned set"⟩

/-! ## Agreement of the two views -/

/-- The ledger overlaps paths exactly when one starts the other. -/
theorem pathsOverlap_iff {left right : List Text} :
    pathsOverlap left right = true ↔ left <+: right ∨ right <+: left := by
  simp only [pathsOverlap, Bool.or_eq_true, Bool.and_eq_true,
    decide_eq_true_eq]
  constructor
  · rintro ((rfl | ⟨_, taken⟩) | ⟨_, taken⟩)
    · exact .inl (List.prefix_rfl)
    · exact .inl (List.prefix_iff_eq_take.mpr taken.symm)
    · exact .inr (List.prefix_iff_eq_take.mpr taken.symm)
  · rintro (start | start)
    · rcases start.length_le.lt_or_eq with shorter | same
      · exact .inl (.inr
          ⟨shorter, (List.prefix_iff_eq_take.mp start).symm⟩)
      · exact .inl (.inl (start.eq_of_length same))
    · rcases start.length_le.lt_or_eq with shorter | same
      · exact .inr ⟨shorter, (List.prefix_iff_eq_take.mp start).symm⟩
      · exact .inl (.inl (start.eq_of_length same).symm)

/-- The guard permits what starts with an owned path. -/
theorem isWithin_iff
    {candidate : List Text} {owned : List (List Text)} :
    isWithin candidate owned = true ↔
      ∃ anchor ∈ owned, anchor <+: candidate := by
  simp only [isWithin, List.any_eq_true, Bool.or_eq_true,
    Bool.and_eq_true, decide_eq_true_eq]
  constructor
  · rintro ⟨anchor, isOwned, rfl | ⟨_, taken⟩⟩
    · exact ⟨_, isOwned, List.prefix_rfl⟩
    · exact ⟨anchor, isOwned, List.prefix_iff_eq_take.mpr taken.symm⟩
  · rintro ⟨anchor, isOwned, start⟩
    refine ⟨anchor, isOwned, ?_⟩
    rcases start.length_le.lt_or_eq with shorter | same
    · exact .inr ⟨shorter, (List.prefix_iff_eq_take.mp start).symm⟩
    · exact .inl (start.eq_of_length same).symm

/-- Both modules normalise a path to the same parts. -/
theorem normalizeOwned_eq_ok_iff {path : Text} {parts : List Text} :
    normalizeOwned path = .ok parts ↔ normalizeWrite path = .ok parts := by
  simp only [normalizeOwned, normalizeWrite, normalizeRelative]
  split_ifs <;> simp

/-- Every normalised anchor comes from an owned path. -/
theorem mem_normalizeOwnedSet
    {ownedPaths : List Text} {owned : List (List Text)}
    (normalized : normalizeOwnedSet ownedPaths = .ok owned)
    {anchor : List Text} (isOwned : anchor ∈ owned) :
    ∃ entry ∈ ownedPaths, normalizeOwned entry = .ok anchor := by
  induction ownedPaths generalizing owned with
  | nil =>
      cases normalized
      cases isOwned
  | cons entry rest induction =>
      simp only [normalizeOwnedSet, bind_eq_ok_iff,
        pure_eq_ok_iff] at normalized
      obtain ⟨head, headParts, tail, tailParts, rfl⟩ := normalized
      rcases List.mem_cons.mp isOwned with rfl | inRest
      · exact ⟨entry, List.mem_cons_self,
          normalizeOwned_eq_ok_iff.mpr headParts⟩
      · obtain ⟨origin, isOrigin, origins⟩ := induction tailParts inRest
        exact ⟨origin, List.mem_cons_of_mem _ isOrigin, origins⟩

theorem below_of_checkWrite
    {path : Text} {ownedPaths : List Text}
    (permitted : checkWrite path ownedPaths = .ok ()) :
    ∃ candidate, normalizeWrite path = .ok candidate ∧
      ∃ entry ∈ ownedPaths, ∃ anchor,
        normalizeOwned entry = .ok anchor ∧ anchor <+: candidate := by
  simp only [checkWrite, bind_eq_ok_iff] at permitted
  obtain ⟨owned, normalized, candidate, candidateParts, checked⟩ :=
    permitted
  have within : isWithin candidate owned = true := by
    by_contra outside
    simp [outside] at checked
  obtain ⟨anchor, isOwned, start⟩ := isWithin_iff.mp within
  obtain ⟨entry, isEntry, origin⟩ :=
    mem_normalizeOwnedSet normalized isOwned
  exact ⟨candidate, candidateParts, entry, isEntry, anchor, origin,
    start⟩

/-- Owned sets of which no two paths overlap permit no common write. -/
theorem not_both_permitted
    {left right : List Text}
    (apart : ∀ first ∈ left, ∀ second ∈ right, ∀ parts others,
      normalizeOwned first = .ok parts →
      normalizeOwned second = .ok others →
        pathsOverlap parts others = false)
    (path : Text) :
    ¬ (checkWrite path left = .ok () ∧ checkWrite path right = .ok ()) := by
  rintro ⟨inLeft, inRight⟩
  obtain ⟨candidate, isCandidate, first, isFirst, parts, firstParts,
    belowFirst⟩ := below_of_checkWrite inLeft
  obtain ⟨other, isOther, second, isSecond, others, secondParts,
    belowSecond⟩ := below_of_checkWrite inRight
  obtain rfl := Except.ok.inj (isCandidate.symm.trans isOther)
  have overlap : pathsOverlap parts others = true :=
    pathsOverlap_iff.mpr
      (List.prefix_or_prefix_of_prefix belowFirst belowSecond)
  rw [apart first isFirst second isSecond parts others firstParts
    secondParts] at overlap
  cases overlap

end ScientificResourceLab.Autonomy
