import ScientificResourceLab.Packs.ExtractedTrees

/-!
# Reports and modes of an extraction

The report of an accepted archive is compared with the files that are there
afterwards.  The extractors report a name as the archive spells it, write the
file under the cleaned name and compare the spelled name with the
entrypoints.  So the report and the modes are right exactly when each file is
spelled as it is cleaned and no file is listed twice.
-/

namespace ScientificResourceLab.Packs

open Python Steps

/-! ## Spelled and cleaned names -/

theorem slashed_slashed (name : Text) :
    slashed (slashed name) = slashed name := by
  rw [slashed, slashed, List.map_map]
  refine List.map_congr_left fun point _ => ?_
  rw [Function.comp_apply]
  split_ifs with isBackslash isSlash
  · exact absurd isSlash (by decide)
  · rfl
  · rfl

@[simp]
theorem cleanParts_slashed (name : Text) :
    cleanParts (slashed name) = cleanParts name := by
  rw [cleanParts, slashed_slashed, cleanParts]

theorem slashed_append (first second : Text) :
    slashed (first ++ second) = slashed first ++ slashed second :=
  List.map_append

theorem slashed_slash : slashed [codePoint '/'] = [codePoint '/'] := by
  decide

@[simp]
theorem cleanParts_cons_slash (name : Text) :
    cleanParts (codePoint '/' :: name) = cleanParts name := by
  have split := slashed_append [codePoint '/'] name
  rw [slashed_slash, List.singleton_append, List.singleton_append] at split
  rw [cleanParts, split, pathParts, List.splitOn_cons_eq_if_modifyHead,
    if_pos (beq_self_eq_true _), List.filter_cons_of_neg (by simp),
    cleanParts, pathParts]

@[simp]
theorem cleanParts_concat_slash (name : Text) :
    cleanParts (name ++ [codePoint '/']) = cleanParts name := by
  rw [cleanParts, slashed_append, slashed_slash, pathParts,
    List.splitOn_append_cons_self, List.splitOn_nil, List.filter_append,
    List.filter_cons_of_neg (by simp), List.filter_nil, List.append_nil,
    cleanParts, pathParts]

theorem cleanParts_dropWhile (name : Text) :
    cleanParts (name.dropWhile (· = codePoint '/')) = cleanParts name := by
  induction name with
  | nil => rfl
  | cons point rest induction =>
      rw [List.dropWhile_cons]
      split_ifs with isSlash
      · rw [induction, decide_eq_true_eq.mp isSlash, cleanParts_cons_slash]
      · rfl

theorem cleanParts_rdropWhile (name : Text) :
    cleanParts (name.rdropWhile (· = codePoint '/')) = cleanParts name := by
  induction name using List.reverseRecOn with
  | nil => rfl
  | append_singleton front point induction =>
      rw [List.rdropWhile_concat]
      split_ifs with isSlash
      · rw [induction, decide_eq_true_eq.mp isSlash,
          cleanParts_concat_slash]
      · rfl

/-- The relative path of a file, with slashes. -/
def joined (rel : Path) : Text :=
  [codePoint '/'].intercalate rel

theorem mem_joined {rel : Path} {point : CodePoint}
    (isPoint : point ∈ joined rel) :
    point = codePoint '/' ∨ ∃ part ∈ rel, point ∈ part := by
  induction rel with
  | nil => cases isPoint
  | cons part rest induction =>
      cases rest with
      | nil =>
          rw [joined, List.intercalate_singleton] at isPoint
          exact .inr ⟨part, List.mem_cons_self, isPoint⟩
      | cons next others =>
          rw [joined, List.intercalate_cons_cons, List.mem_append,
            List.mem_append, List.mem_singleton] at isPoint
          rcases isPoint with (inPart | isSlash) | later
          · exact .inr ⟨part, List.mem_cons_self, inPart⟩
          · exact .inl isSlash
          · rcases induction later with isSlash | ⟨other, isOther, inside⟩
            · exact .inl isSlash
            · exact .inr ⟨other, List.mem_cons_of_mem _ isOther, inside⟩

/-- Clean parts come back from the path that joins them. -/
theorem cleanParts_joined
    {rel : Path} (isBelow : rel ≠ [])
    (clean : ∀ part ∈ rel, CleanPart part) :
    cleanParts (joined rel) = rel := by
  have noBackslash : slashed (joined rel) = joined rel := by
    have unchanged : ∀ point ∈ joined rel, (if point = codePoint '\\' then
        codePoint '/' else point) = point := by
      intro point isPoint
      refine if_neg ?_
      rintro rfl
      rcases mem_joined isPoint with isSlash | ⟨part, isPart, inside⟩
      · exact absurd isSlash (by decide)
      · exact (clean part isPart).noBackslash inside
    rw [slashed, List.map_congr_left unchanged, List.map_id']
  rw [cleanParts, noBackslash, joined, pathParts,
    List.splitOn_intercalate _ (fun part isPart =>
      (clean part isPart).noSlash) isBelow]
  refine List.filter_eq_self.mpr fun part isPart => ?_
  rw [decide_eq_true_eq]
  exact ⟨(clean part isPart).nonEmpty, (clean part isPart).plain.1⟩

/-! ## The files of the plans -/

/-- The cleaned and the spelled path of a file step. -/
def Plan.file : Plan → Option (Path × Text)
  | ⟨.putFile rel _ _, .file relPath⟩ => some (rel, relPath)
  | _ => none

/-- A step as the extractors plan it. -/
inductive WellPlanned (entrypoints : List Text) : Plan → Prop where
  | directory {rel : Path} {relPath : Text} (isBelow : rel ≠ []) :
      WellPlanned entrypoints (directoryPlan rel relPath)
  | file {rel : Path} {relPath : Text} {content : Bytes}
      (isBelow : rel ≠ []) (clean : ∀ part ∈ rel, CleanPart part)
      (spelled : cleanParts relPath = rel) :
      WellPlanned entrypoints (filePlan rel relPath content entrypoints)

theorem tarPlan_wellPlanned
    {isAlpha : CodePoint → Bool} {entrypoints : List Text}
    {member : TarInfo} {step : Plan}
    (planned : tarPlan isAlpha entrypoints member = some step) :
    WellPlanned entrypoints step := by
  rw [tarPlan] at planned
  split_ifs at planned with admits isDirectory
  · cases planned
    exact .directory admits.1.2.2.2
  · cases planned
    refine .file admits.1.2.2.2 (cleanParts_clean admits.1) ?_
    rw [TarInfo.relPath, cleanParts_dropWhile, cleanParts_slashed]

theorem zipPlan_wellPlanned
    {isAlpha : CodePoint → Bool} {entrypoints : List Text}
    {infos : List ZipInfo} {info : ZipInfo} {step : Plan}
    (planned : zipPlan isAlpha entrypoints infos info = some step) :
    WellPlanned entrypoints step := by
  rw [zipPlan] at planned
  split_ifs at planned with admits isDirectory
  · cases planned
    exact .directory admits.1.2.2.2
  · cases planned
    refine .file admits.1.2.2.2 (cleanParts_clean admits.1) ?_
    rw [ZipInfo.relPath, cleanParts_rdropWhile, cleanParts_slashed]

/-- The report matches the files that are there, and so do the modes. -/
structure ReportMatches (entrypoints : List Text) (root : Path)
    (report : ExtractionReport) (after : FileSystem) : Prop where
  distinct : report.extractedFiles.Nodup
  listed : ∀ relPath, relPath ∈ report.extractedFiles ↔
    ∃ below content mode, below ≠ [] ∧
      after.lookup (root ++ below) = some (.file content mode) ∧
      relPath = joined below
  modes : ∀ below content mode, below ≠ [] →
    after.lookup (root ++ below) = some (.file content mode) →
    mode = if joined below ∈ entrypoints then 0o755 else 0o644

section

variable {entrypoints : List Text} {steps : List Plan}
variable (planned : ∀ step ∈ steps, WellPlanned entrypoints step)

include planned in
theorem extractedFiles_perm :
    (reportOf (steps.map Plan.extracted)).extractedFiles.Perm
      ((steps.filterMap Plan.file).map Prod.snd) := by
  refine (List.perm_insertionSort _ _).trans (List.Perm.of_eq ?_)
  rw [List.filterMap_map, List.map_filterMap]
  refine List.filterMap_congr fun step isStep => ?_
  cases planned step isStep with
  | directory => rfl
  | file => rfl

include planned in
/-- A file that is left was planned, with the mode of its spelling. -/
theorem planned_of_lastWrite
    {path : Path} {content : Bytes} {mode : Nat}
    (written : lastWrite (steps.map Plan.operation) path =
      some (.file content mode)) :
    ∃ relPath, (path, relPath) ∈ steps.filterMap Plan.file ∧
      mode = normalizeFileMode relPath entrypoints := by
  obtain ⟨own, ownMode, same, isOperation⟩ := lastWrite_eq_some written
  cases same
  obtain ⟨step, isStep, isWrite⟩ := List.mem_map.mp isOperation
  cases planned step isStep with
  | directory => cases isWrite
  | @file rel relPath bytes isBelow clean spelled =>
      cases isWrite
      exact ⟨relPath, List.mem_filterMap.mpr ⟨_, isStep, rfl⟩, rfl⟩

include planned in
/-- A planned file is left. -/
theorem lastWrite_of_planned
    {path : Path} {relPath : Text}
    (isFile : (path, relPath) ∈ steps.filterMap Plan.file) :
    cleanParts relPath = path ∧ path ≠ [] ∧
      (∀ part ∈ path, CleanPart part) ∧
      ∃ content mode, lastWrite (steps.map Plan.operation) path =
        some (.file content mode) := by
  obtain ⟨step, isStep, same⟩ := List.mem_filterMap.mp isFile
  cases planned step isStep with
  | directory => cases same
  | @file rel spelledPath bytes isBelow clean spelled =>
      cases same
      have isOperation : Operation.putFile path bytes
          (normalizeFileMode relPath entrypoints) ∈
            steps.map Plan.operation :=
        List.mem_map.mpr ⟨_, isStep, rfl⟩
      have written := lastWrite_ne_none_iff.mpr ⟨_, _, isOperation⟩
      obtain ⟨node, found⟩ := Option.ne_none_iff_exists'.mp written
      obtain ⟨content, mode, rfl, _⟩ := lastWrite_eq_some found
      exact ⟨spelled, isBelow, clean, content, mode, found⟩

include planned in
/-- The report is right exactly when every file is spelled as cleaned. -/
theorem reportMatches_iff
    {newMode : Nat} {root : Path} {after : FileSystem}
    (holds : Holds root after
      (treeOf newMode (steps.map Plan.operation))) :
    ReportMatches entrypoints root (reportOf (steps.map Plan.extracted))
        after ↔
      (∀ file ∈ steps.filterMap Plan.file, file.2 = joined file.1) ∧
        ((steps.filterMap Plan.file).map Prod.snd).Nodup := by
  have perm := extractedFiles_perm planned
  have fileAt {below : Path} (isBelow : below ≠ []) {content : Bytes}
      {mode : Nat} :
      after.lookup (root ++ below) = some (.file content mode) ↔
        lastWrite (steps.map Plan.operation) below =
          some (.file content mode) := by
    rw [holds below isBelow, treeOf_eq_file_iff]
  constructor
  · intro reported
    refine ⟨fun file isFile => ?_, perm.nodup_iff.mp reported.distinct⟩
    obtain ⟨rel, relPath⟩ := file
    obtain ⟨spelled, _⟩ := lastWrite_of_planned planned isFile
    obtain ⟨below, content, mode, isBelow, found, same⟩ :=
      (reported.listed relPath).mp (perm.mem_iff.mpr
        (List.mem_map_of_mem isFile))
    obtain ⟨other, isOther, _⟩ := planned_of_lastWrite planned
      ((fileAt isBelow).mp found)
    obtain ⟨_, _, clean, _⟩ := lastWrite_of_planned planned isOther
    rw [same, cleanParts_joined isBelow clean] at spelled
    rw [same, spelled]
  · rintro ⟨spelled, distinct⟩
    refine ⟨perm.nodup_iff.mpr distinct, fun relPath => ?_, ?_⟩
    · rw [perm.mem_iff, List.mem_map]
      constructor
      · rintro ⟨⟨rel, own⟩, isFile, rfl⟩
        obtain ⟨_, isBelow, _, content, mode, written⟩ :=
          lastWrite_of_planned planned isFile
        exact ⟨rel, content, mode, isBelow,
          (fileAt isBelow).mpr written, spelled _ isFile⟩
      · rintro ⟨below, content, mode, isBelow, found, rfl⟩
        obtain ⟨own, isFile, _⟩ := planned_of_lastWrite planned
          ((fileAt isBelow).mp found)
        exact ⟨_, isFile, spelled _ isFile⟩
    · intro below content mode isBelow found
      obtain ⟨own, isFile, rfl⟩ := planned_of_lastWrite planned
        ((fileAt isBelow).mp found)
      rw [← spelled _ isFile]
      rfl

end

/-! ## Accepted archives -/

theorem mem_of_mapM
    {Member : Type} {plan : Member → Option Plan} {members : List Member}
    {steps : List Plan} (planned : members.mapM plan = some steps) :
    ∀ step ∈ steps, ∃ member ∈ members, plan member = some step := by
  induction members generalizing steps with
  | nil =>
      cases planned
      simp
  | cons member rest induction =>
      rw [List.mapM_cons] at planned
      obtain ⟨first, isFirst, planned⟩ := Option.bind_eq_some_iff.mp planned
      obtain ⟨others, isOthers, same⟩ := Option.bind_eq_some_iff.mp planned
      cases same
      intro step isStep
      rcases List.mem_cons.mp isStep with rfl | later
      · exact ⟨member, List.mem_cons_self, isFirst⟩
      · obtain ⟨other, isOther, found⟩ := induction isOthers step later
        exact ⟨other, List.mem_cons_of_mem _ isOther, found⟩

/-- What the plans say about each member, said about all of them. -/
theorem filterMap_of_mapM
    {Member α : Type} {plan : Member → Option Plan}
    {ofStep : Plan → Option α} {ofMember : Member → Option α}
    (each : ∀ member step, plan member = some step →
      ofStep step = ofMember member)
    {members : List Member} {steps : List Plan}
    (planned : members.mapM plan = some steps) :
    steps.filterMap ofStep = members.filterMap ofMember := by
  induction members generalizing steps with
  | nil =>
      cases planned
      rfl
  | cons member rest induction =>
      rw [List.mapM_cons] at planned
      obtain ⟨first, isFirst, planned⟩ := Option.bind_eq_some_iff.mp planned
      obtain ⟨others, isOthers, same⟩ := Option.bind_eq_some_iff.mp planned
      cases same
      rw [List.filterMap_cons, List.filterMap_cons, each _ _ isFirst,
        induction isOthers]

/-- The cleaned and the spelled path of a file in a tar archive. -/
def TarInfo.file (member : TarInfo) : Option (Path × Text) :=
  if member.type = .directory then none
  else some (cleanParts member.name, member.relPath)

/-- The cleaned and the spelled path of a file in a zip archive. -/
def ZipInfo.file (info : ZipInfo) : Option (Path × Text) :=
  if info.isDir then none
  else some (cleanParts info.filename, info.relPath)

/-- Every file is spelled as it is cleaned, and none is listed twice. -/
def SpelledClean (files : List (Path × Text)) : Prop :=
  (∀ file ∈ files, file.2 = joined file.1) ∧
    (files.map Prod.snd).Nodup

theorem accepted_tree
    {root : Path} {newMode : Nat} {plans : Option (List Plan)}
    (below : ∀ steps, plans = some steps →
      ∀ operation ∈ steps.map Plan.operation, operation.path ≠ [])
    {report : ExtractionReport} {after : FileSystem}
    (extracts : Extracts root newMode plans (.ok report) after) :
    ∃ steps, plans = some steps ∧
      report = reportOf (steps.map Plan.extracted) ∧
      Compatible (steps.map Plan.operation) ∧
      Holds root after (treeOf newMode (steps.map Plan.operation)) := by
  obtain ⟨steps, tree, planned, reported, applied, holds⟩ := extracts
  obtain ⟨goes, fails⟩ := applyAll_empty newMode (below steps planned)
  by_cases compatible : Compatible (steps.map Plan.operation)
  · rw [goes compatible] at applied
    cases applied
    exact ⟨steps, planned, reported, compatible, holds⟩
  · rw [fails compatible] at applied
    cases applied

theorem WellPlanned.isBelow
    {entrypoints : List Text} {steps : List Plan}
    (planned : ∀ step ∈ steps, WellPlanned entrypoints step) :
    ∀ operation ∈ steps.map Plan.operation, operation.path ≠ [] := by
  intro operation isOperation
  obtain ⟨step, isStep, rfl⟩ := List.mem_map.mp isOperation
  cases planned step isStep with
  | directory isBelow => exact isBelow
  | file isBelow _ _ => exact isBelow

theorem tarSteps_wellPlanned
    {isAlpha : CodePoint → Bool} {entrypoints : List Text}
    {members : List TarInfo} {steps : List Plan}
    (planned : members.mapM (tarPlan isAlpha entrypoints) = some steps) :
    ∀ step ∈ steps, WellPlanned entrypoints step := by
  intro step isStep
  obtain ⟨_, _, found⟩ := mem_of_mapM planned step isStep
  exact tarPlan_wellPlanned found

theorem zipSteps_wellPlanned
    {isAlpha : CodePoint → Bool} {entrypoints : List Text}
    {infos : List ZipInfo} {steps : List Plan}
    (planned : infos.mapM (zipPlan isAlpha entrypoints infos) =
      some steps) :
    ∀ step ∈ steps, WellPlanned entrypoints step := by
  intro step isStep
  obtain ⟨_, _, found⟩ := mem_of_mapM planned step isStep
  exact zipPlan_wellPlanned found

theorem file_of_tarPlan
    {isAlpha : CodePoint → Bool} {entrypoints : List Text}
    (member : TarInfo) (step : Plan)
    (planned : tarPlan isAlpha entrypoints member = some step) :
    step.file = member.file := by
  rw [tarPlan] at planned
  rw [TarInfo.file]
  split_ifs at planned with admits isDirectory
  · cases planned
    rw [if_pos isDirectory]
    rfl
  · cases planned
    rw [if_neg isDirectory]
    rfl

theorem file_of_zipPlan
    {isAlpha : CodePoint → Bool} {entrypoints : List Text}
    (infos : List ZipInfo) (info : ZipInfo) (step : Plan)
    (planned : zipPlan isAlpha entrypoints infos info = some step) :
    step.file = info.file := by
  rw [zipPlan] at planned
  rw [ZipInfo.file]
  split_ifs at planned with admits isDir
  · cases planned
    rw [if_pos isDir]
    rfl
  · cases planned
    rw [if_neg isDir]
    rfl

/--
The report and the modes of an accepted archive are right exactly when every
file of it is spelled as it is cleaned and no file is listed twice, for tar
and for zip.
-/
theorem reportMatches_iff_spelledClean
    (umask : Nat) (isAlpha : CodePoint → Bool) (entrypoints : List Text)
    {dest : List Text} {root : Path} {files : FileSystem}
    (destination : EmptyDestination dest root files) :
    (∀ members report after,
      (extractTar umask isAlpha dest entrypoints members).run files =
        (.ok report, after) →
      (ReportMatches entrypoints root report after ↔
        SpelledClean (members.filterMap TarInfo.file))) ∧
    ∀ infos report after,
      (extractZip umask isAlpha dest entrypoints infos).run files =
        (.ok report, after) →
      (ReportMatches entrypoints root report after ↔
        SpelledClean (infos.filterMap ZipInfo.file)) := by
  constructor
  · intro members report after ran
    have ends := (safe_extractTar umask isAlpha entrypoints destination
      members).run_post
    rw [ran] at ends
    obtain ⟨steps, planned, rfl, _, holds⟩ := accepted_tree
      (fun steps planned =>
        WellPlanned.isBelow (tarSteps_wellPlanned planned)) ends
    rw [reportMatches_iff (tarSteps_wellPlanned planned) holds,
      filterMap_of_mapM file_of_tarPlan planned]
    rfl
  · intro infos report after ran
    have ends := (safe_extractZip umask isAlpha entrypoints destination
      infos).run_post
    rw [ran] at ends
    obtain ⟨steps, planned, rfl, _, holds⟩ := accepted_tree
      (fun steps planned =>
        WellPlanned.isBelow (zipSteps_wellPlanned planned)) ends
    rw [reportMatches_iff (zipSteps_wellPlanned planned) holds,
      filterMap_of_mapM (file_of_zipPlan infos) planned]
    rfl

/-- The extraction of one entrypoint under a given name. -/
def extractEntrypoint (name : String) :
    Except PyError ExtractionReport × FileSystem :=
  (extractTar 0o022 (fun _ => false) [text "alias"] [text "run.py"]
    [⟨text name, .regular, 0o644, []⟩]).run linkedDirectories

theorem reportMatches_entrypoint :
    ∃ report after, extractEntrypoint "run.py" = (.ok report, after) ∧
      ReportMatches [text "run.py"] [text "real"] report after := by
  have accepted : (extractEntrypoint "run.py").1.isOk = true := by
    decide
  have spelled : SpelledClean
      ([⟨text "run.py", .regular, 0o644, []⟩].filterMap TarInfo.file) :=
    ⟨by decide, by decide⟩
  cases ran : extractEntrypoint "run.py" with
  | mk result after =>
      rw [ran] at accepted
      cases result with
      | error error => cases accepted
      | ok report =>
          exact ⟨report, after, rfl,
            ((reportMatches_iff_spelledClean 0o022 (fun _ => false)
              [text "run.py"] linkedDirectories_empty).1 _ report after
              ran).mpr spelled⟩

/-- A file that is spelled with a dot is reported and moded as spelled. -/
theorem dottedEntrypoint_mismatch :
    ¬ ∀ members report after,
      (extractTar 0o022 (fun _ => false) [text "alias"] [text "run.py"]
        members).run linkedDirectories = (.ok report, after) →
      ReportMatches [text "run.py"] [text "real"] report after := by
  intro claimed
  have accepted : (extractEntrypoint "./run.py").1.isOk = true := by
    decide
  have left : (extractEntrypoint "./run.py").2.lookup
      ([text "real"] ++ [text "run.py"]) = some (.file [] 0o644) := by
    decide
  cases ran : extractEntrypoint "./run.py" with
  | mk result after =>
      rw [ran] at accepted left
      cases result with
      | error error => cases accepted
      | ok report =>
          have mode := (claimed _ report after ran).modes _ _ _
            (List.cons_ne_nil _ _) left
          exact absurd mode (by decide)

end ScientificResourceLab.Packs
