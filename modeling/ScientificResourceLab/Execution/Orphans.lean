import ScientificResourceLab.Python.Printing
import ScientificResourceLab.Python.Strings
import Mathlib.Data.List.GetD

/-!
# Orphan detection of the sandbox

After a kill the sandbox walks the process table for members of the child's
process group.  On Linux the group of a process is taken from the line in
`/proc/<pid>/stat`, which is split from the right because the command name is
free text.

A line has 52 fields.  The split keeps the last seven apart, so the fourth
part from the right is field 49, the end of the argument area, and not field
5, the process group (`procPgrp_eq`).
-/

namespace ScientificResourceLab.Execution

open Python

/-! ## Splitting text -/

/-- `str.rsplit(" ", count)`. -/
def rsplit : Nat → Text → List Text
  | 0, value => [value]
  | count + 1, value =>
      let field := (value.reverse.takeWhile (· ≠ codePoint ' ')).reverse
      match value.reverse.dropWhile (· ≠ codePoint ' ') with
      | [] => [value]
      | _ :: front => rsplit count front.reverse ++ [field]

/-- The line boundaries of `str.splitlines`. -/
def isLineBreak (point : CodePoint) : Bool :=
  let value := point.val
  10 ≤ value && value ≤ 13 || 28 ≤ value && value ≤ 30 || value = 0x85 ||
    value = 0x2028 || value = 0x2029

/-- `str.splitlines()`. -/
def splitLines : Text → List Text
  | [] => []
  | [point] => if isLineBreak point then [[]] else [[point]]
  | point :: next :: rest =>
      if point = codePoint '\r' ∧ next = codePoint '\n' then
        [] :: splitLines rest
      else if isLineBreak point then [] :: splitLines (next :: rest)
      else
        match splitLines (next :: rest) with
        | [] => [[point]]
        | line :: lines => (point :: line) :: lines

/-! ## The process table -/

/-- `/proc`: the listed names, and the text of `<pid>/stat` where readable. -/
structure ProcFs where
  entries : List Text
  stat : Int → Option Text

/-- `_PROC_STAT_MIN_PARTS`. -/
def procStatMinParts : Nat := 5

/-- `_proc_pgrp`. -/
def procPgrp (proc : ProcFs) (pid : Int) : Option Int := do
  let line ← proc.stat pid
  let parts := rsplit 7 line
  if parts.length < procStatMinParts then none
  else
    let part ← parts[parts.length - 4]?
    intOf part

/-- `str.isdigit` on the names in `/proc`. -/
def isDigits (entry : Text) : Bool :=
  !entry.isEmpty && entry.all CodePoint.isDigit

/-- The loop of `_survivors_linux` over the listed names. -/
def survivorsAmong (proc : ProcFs) (selfPid pgid : Int) :
    List Text → Except PyError (List Int)
  | [] => .ok []
  | entry :: rest =>
      if isDigits entry = false then survivorsAmong proc selfPid pgid rest
      else
        match intOf entry with
        | none => .error (raised .valueError
            "Exceeds the limit (4300 digits) for integer string conversion")
        | some pid =>
            if pid = selfPid then survivorsAmong proc selfPid pgid rest
            else if procPgrp proc pid = some pgid then
              (survivorsAmong proc selfPid pgid rest).map (pid :: ·)
            else survivorsAmong proc selfPid pgid rest

/-- `_survivors_linux`. -/
def survivorsLinux (proc : ProcFs) (selfPid pgid : Int) :
    Except PyError (List Int) :=
  survivorsAmong proc selfPid pgid proc.entries

/-- `_survivors_ps`, on the output of `ps`; `none` is a failed call. -/
def survivorsPs (stdout : Option Text) (pgid : Int) :
    Except PyError (List Int) :=
  match stdout with
  | none => .error ⟨.orphanDetectedError, text
      "cannot verify no orphan: process table inspection failed for pgid="
      ++ intText pgid⟩
  | some output =>
      .ok (((splitLines output).drop 1).filterMap fun line =>
        match intOf (strip line) with
        | some pgrp => if pgrp = pgid then some pgrp else none
        | none => none)

/-- Where the process table is read from. -/
inductive ProcessTable where
  | procfs (proc : ProcFs)
  | ps (stdout : Option Text)

/-- The survivors that `verify_no_orphan` asks for. -/
def survivorsIn (table : ProcessTable) (selfPid pgid : Int) :
    Except PyError (List Int) :=
  match table with
  | .procfs proc => survivorsLinux proc selfPid pgid
  | .ps stdout => survivorsPs stdout pgid

/-- `verify_no_orphan`. -/
def verifyNoOrphan (table : ProcessTable) (selfPid pgid : Int) :
    Except PyError Unit := do
  if pgid ≤ 0 then pure ()
  else
    let survivors ← survivorsIn table selfPid pgid
    match survivors with
    | [] => pure ()
    | _ => .error ⟨.orphanDetectedError,
        text "orphan process(es) survived watchdog kill for pgid=" ++
        intText pgid ++ text ": [" ++
        joinCommaBlank ((survivors.take 8).map intText) ++ text "]"⟩

/-! ## Lines of `/proc/<pid>/stat` -/

/--
A process as the kernel writes it: the command name is free text, and the
state letter is followed by the fields 4 to 52.
-/
structure Process where
  pid : Nat
  comm : Text
  state : CodePoint
  numbers : List Int
  count : numbers.length = 49
  pidSmall : pid ≤ 4194304
  small : ∀ number ∈ numbers, number.natAbs < 2 ^ 64

/-- A field by its number in the manual, from 4 to 52. -/
def Process.field (process : Process) (number : Nat) : Int :=
  process.numbers.getD (number - 4) 0

/-- Field 5, the process group. -/
def Process.pgrp (process : Process) : Int :=
  process.field 5

/-- Field 49, the end of the argument area. -/
def Process.argEnd (process : Process) : Int :=
  process.field 49

def blankNumber (number : Int) : Text :=
  codePoint ' ' :: intText number

def Process.statLine (process : Process) : Text :=
  decimalText process.pid ++ text " (" ++ process.comm ++ text ") " ++
    [process.state] ++ process.numbers.flatMap blankNumber ++ text "\n"

/-- `/proc` shows these processes. -/
structure ProcFs.Shows (proc : ProcFs) (processes : List Process) :
    Prop where
  listed : proc.entries.filter isDigits =
    processes.map fun process => decimalText process.pid
  readable : ∀ process ∈ processes,
    proc.stat process.pid = some process.statLine

/-! ## The parsed field -/

/-- The last blank-free word is split off. -/
theorem rsplit_append
    {count : Nat} {front field : Text} (plain : codePoint ' ' ∉ field) :
    rsplit (count + 1) (front ++ codePoint ' ' :: field) =
      rsplit count front ++ [field] := by
  have reversed : (front ++ codePoint ' ' :: field).reverse =
      field.reverse ++ codePoint ' ' :: front.reverse := by
    simp
  have blankFree : ∀ point ∈ field.reverse,
      decide (point ≠ codePoint ' ') = true := by
    intro point member
    rw [decide_eq_true_eq]
    rintro rfl
    exact plain (List.mem_reverse.mp member)
  have taken : (front ++ codePoint ' ' :: field).reverse.takeWhile
      (· ≠ codePoint ' ') = field.reverse := by
    rw [reversed, List.takeWhile_append_of_pos blankFree]
    simp
  have dropped : (front ++ codePoint ' ' :: field).reverse.dropWhile
      (· ≠ codePoint ' ') = codePoint ' ' :: front.reverse := by
    rw [reversed, List.dropWhile_append_of_pos blankFree]
    simp
  rw [rsplit]
  simp only [taken, dropped, List.reverse_reverse]

theorem blank_notMem_intText (number : Int) :
    codePoint ' ' ∉ intText number := by
  intro member
  rw [intText, List.mem_append] at member
  rcases member with inSign | inDigits
  · split_ifs at inSign
    · exact absurd (List.mem_singleton.mp inSign) (by decide)
    · cases inSign
  · have isDigit := decimalText_isDigit _ _ inDigits
    exact absurd isDigit (by decide)

theorem intOf_small
    {number : Int} (small : number.natAbs < 2 ^ 64) :
    intOf (intText number) = some number := by
  apply intOf_intText
  have digits : (decimalText number.natAbs).length ≤ 20 :=
    decimalText_length_le (by decide) (by omega)
  exact digits.trans (by decide)

theorem rsplit_blankNumber
    (count : Nat) (front : Text) (number : Int) :
    rsplit (count + 1) (front ++ blankNumber number) =
      rsplit count front ++ [intText number] :=
  rsplit_append (blank_notMem_intText number)

/-- The parts of a line: everything up to field 45, and the last seven. -/
theorem rsplit_statLine (process : Process) :
    ∃ front first second third fifth sixth last,
      rsplit 7 process.statLine =
        [front, first, second, third, intText process.argEnd, fifth,
          sixth, last] := by
  have count := process.count
  have split := List.take_append_drop 42 process.numbers
  have seven : (process.numbers.drop 42).length = 7 := by
    rw [List.length_drop, count]
  match ending : process.numbers.drop 42, seven with
  | [a, b, c, d, e, f, g], _ =>
      rw [ending] at split
      have argEnd : process.argEnd = d := by
        rw [Process.argEnd, Process.field, ← split]
        rw [List.getD_append_right _ _ _ _ (by
          rw [List.length_take, count]; decide), List.length_take, count]
        rfl
      have lastPlain : codePoint ' ' ∉ intText g ++ text "\n" := by
        intro member
        rcases List.mem_append.mp member with inNumber | inBreak
        · exact blank_notMem_intText g inNumber
        · exact absurd inBreak (by decide)
      have line : process.statLine =
          (decimalText process.pid ++ text " (" ++ process.comm ++
            text ") " ++ [process.state] ++
            (process.numbers.take 42).flatMap blankNumber) ++
            blankNumber a ++ blankNumber b ++ blankNumber c ++
            blankNumber d ++ blankNumber e ++ blankNumber f ++
            codePoint ' ' :: (intText g ++ text "\n") := by
        rw [Process.statLine]
        conv_lhs => rw [← split]
        simp [blankNumber]
      rw [line, rsplit_append lastPlain, rsplit_blankNumber,
        rsplit_blankNumber, rsplit_blankNumber, rsplit_blankNumber,
        rsplit_blankNumber, rsplit_blankNumber, argEnd]
      exact ⟨_, _, _, _, _, _, _, rfl⟩

/-- The parsed field is the 49th. -/
theorem procPgrp_eq
    {proc : ProcFs} {process : Process}
    (readable : proc.stat process.pid = some process.statLine) :
    procPgrp proc process.pid = some process.argEnd := by
  obtain ⟨front, first, second, third, fifth, sixth, last, parts⟩ :=
    rsplit_statLine process
  have small : process.argEnd.natAbs < 2 ^ 64 := by
    rw [Process.argEnd, Process.field,
      List.getD_eq_getElem _ _ (by rw [process.count]; decide)]
    exact process.small _ (List.getElem_mem _)
  rw [procPgrp, readable]
  simp only [Option.bind_eq_bind, Option.bind_some, parts]
  exact intOf_small small

/-! ## Survivors -/

/-- The processes, other than the caller, with a value in a field. -/
def othersWith (field : Process → Int) (selfPid value : Int)
    (processes : List Process) : List Int :=
  (processes.filter fun process =>
    decide ((process.pid : Int) ≠ selfPid) &&
      decide (field process = value)).map fun process => (process.pid : Int)

theorem isDigits_decimalText (value : Nat) :
    isDigits (decimalText value) = true := by
  have areDigits := decimalText_isDigit value
  have literal := literalDigits_decimalText value
  rw [isDigits, Bool.and_eq_true]
  constructor
  · cases digits : decimalText value with
    | nil =>
        rw [digits] at literal
        cases literal
    | cons point rest => rfl
  · exact List.all_eq_true.mpr areDigits

theorem intOf_pid (process : Process) :
    intOf (decimalText process.pid) = some (process.pid : Int) := by
  apply intOf_decimalText
  have bound := process.pidSmall
  have digits : (decimalText process.pid).length ≤ 7 :=
    decimalText_length_le (by decide) (by omega)
  exact digits.trans (by decide)

/-- Names that are no numbers are passed over. -/
theorem survivorsAmong_filter
    (proc : ProcFs) (selfPid pgid : Int) (entries : List Text) :
    survivorsAmong proc selfPid pgid entries =
      survivorsAmong proc selfPid pgid (entries.filter isDigits) := by
  induction entries with
  | nil => rfl
  | cons entry rest induction =>
      by_cases digits : isDigits entry = true
      · rw [List.filter_cons_of_pos digits, survivorsAmong, survivorsAmong,
          induction]
      · rw [List.filter_cons_of_neg digits, survivorsAmong, ← induction,
          if_pos (Bool.not_eq_true _ ▸ digits)]

/-- The walk compares the 49th field with the group. -/
theorem survivorsLinux_eq
    {proc : ProcFs} {processes : List Process}
    (shown : proc.Shows processes) (selfPid pgid : Int) :
    survivorsLinux proc selfPid pgid =
      .ok (othersWith Process.argEnd selfPid pgid processes) := by
  rw [survivorsLinux, survivorsAmong_filter, shown.listed]
  have readable := shown.readable
  clear shown
  induction processes with
  | nil => rfl
  | cons process rest induction =>
      have walked := induction fun other member =>
        readable other (List.mem_cons_of_mem _ member)
      have parsed := procPgrp_eq (readable process List.mem_cons_self)
      rw [List.map_cons, survivorsAmong, if_neg (by
        rw [isDigits_decimalText]; decide), intOf_pid, walked]
      simp only [parsed, Option.some.injEq]
      by_cases itself : (process.pid : Int) = selfPid
      · rw [if_pos itself, othersWith, othersWith,
          List.filter_cons_of_neg (by simp [itself])]
      · rw [if_neg itself]
        by_cases member : process.argEnd = pgid
        · rw [if_pos member, othersWith, othersWith,
            List.filter_cons_of_pos (by simp [itself, member])]
          rfl
        · rw [if_neg member, othersWith, othersWith,
            List.filter_cons_of_neg (by simp [member])]

theorem verifyNoOrphan_raises
    {proc : ProcFs} {selfPid pgid pid : Int} {others : List Int}
    (positive : 0 < pgid)
    (walked : survivorsLinux proc selfPid pgid = .ok (pid :: others)) :
    ∃ error, verifyNoOrphan (.procfs proc) selfPid pgid = .error error ∧
      error.kind = .orphanDetectedError := by
  rw [verifyNoOrphan, if_neg (not_le.mpr positive), survivorsIn, walked]
  exact ⟨_, rfl, rfl⟩

/-! ## When orphans are detected -/

/--
The parsed field is the process group, the survivors are the other members of
the group, and a living member is reported.
-/
structure DetectsOrphans
    (proc : ProcFs) (processes : List Process) (selfPid : Int) :
    Prop where
  group : ∀ process ∈ processes,
    procPgrp proc process.pid = some process.pgrp
  survivors : ∀ pgid, survivorsLinux proc selfPid pgid =
    .ok (othersWith Process.pgrp selfPid pgid processes)
  raises : ∀ pgid, 0 < pgid →
    (∃ process ∈ processes,
      (process.pid : Int) ≠ selfPid ∧ process.pgrp = pgid) →
    ∃ error, verifyNoOrphan (.procfs proc) selfPid pgid = .error error ∧
      error.kind = .orphanDetectedError

/-- Where orphans are detected the two fields coincide. -/
theorem DetectsOrphans.argEnd_eq
    {proc : ProcFs} {processes : List Process} {selfPid : Int}
    (detects : DetectsOrphans proc processes selfPid)
    (shown : proc.Shows processes) {process : Process}
    (member : process ∈ processes) : process.argEnd = process.pgrp := by
  have parsed := procPgrp_eq (shown.readable process member)
  rw [detects.group process member] at parsed
  exact (Option.some.inj parsed).symm

/--
Orphans are detected exactly when the 49th field of every line is the process
group.
-/
theorem detectsOrphans_iff
    (proc : ProcFs) (processes : List Process) (selfPid : Int)
    (shown : proc.Shows processes) :
    DetectsOrphans proc processes selfPid ↔
      ∀ process ∈ processes, process.argEnd = process.pgrp := by
  constructor
  · intro detects process member
    exact detects.argEnd_eq shown member
  · intro coincide
    have sameOthers : ∀ pgid,
        othersWith Process.argEnd selfPid pgid processes =
          othersWith Process.pgrp selfPid pgid processes := by
      intro pgid
      rw [othersWith, othersWith]
      congr 1
      apply List.filter_congr
      intro process member
      rw [coincide process member]
    refine ⟨?_, ?_, ?_⟩
    · intro process member
      rw [procPgrp_eq (shown.readable process member),
        coincide process member]
    · intro pgid
      rw [survivorsLinux_eq shown, sameOthers]
    · rintro pgid positive ⟨process, member, other, isGroup⟩
      have found : (process.pid : Int) ∈
          othersWith Process.argEnd selfPid pgid processes := by
        rw [sameOthers]
        apply List.mem_map.mpr
        refine ⟨process, List.mem_filter.mpr ⟨member, ?_⟩, rfl⟩
        simp [other, isGroup]
      obtain ⟨pid, others, isCons⟩ :=
        List.exists_cons_of_ne_nil (List.ne_nil_of_mem found)
      have walked := survivorsLinux_eq shown selfPid pgid
      rw [isCons] at walked
      exact verifyNoOrphan_raises positive walked

/-- A process of a number and a group; the other fields are 0. -/
def processOf (pid : Nat) (pidSmall : pid ≤ 4194304) (comm : String)
    (pgrp argEnd : Fin (2 ^ 64)) : Process where
  pid := pid
  comm := text comm
  state := codePoint 'S'
  numbers := [0, (pgrp.val : Int)] ++ List.replicate 43 0 ++
    [(argEnd.val : Int), 0, 0, 0]
  count := by simp
  pidSmall := pidSmall
  small := by
    intro number member
    simp only [List.mem_append, List.mem_cons, List.not_mem_nil, or_false,
      List.mem_replicate] at member
    have first := pgrp.isLt
    have second := argEnd.isLt
    omega

/-- `/proc` with one process besides other entries. -/
def procOf (process : Process) : ProcFs where
  entries := [text "self", decimalText process.pid, text "uptime"]
  stat pid := if pid = process.pid then some process.statLine else none

theorem procOf_shows (process : Process) :
    (procOf process).Shows [process] := by
  have self : isDigits (text "self") = false := by decide
  have uptime : isDigits (text "uptime") = false := by decide
  constructor
  · simp [procOf, self, uptime, isDigits_decimalText]
  · intro other member
    obtain rfl := List.mem_singleton.mp member
    exact if_pos rfl

/-- A kernel thread has group 0 and no arguments. -/
theorem detectsOrphans_kernelThread :
    DetectsOrphans (procOf (processOf 2 (by decide) "kthreadd" 0 0))
      [processOf 2 (by decide) "kthreadd" 0 0] 4000 := by
  apply (detectsOrphans_iff _ _ _ (procOf_shows _)).mpr
  intro process member
  obtain rfl := List.mem_singleton.mp member
  rfl

/-- A survivor of group 4242 whose arguments end at another address. -/
theorem survivor_not_detected :
    (procOf (processOf 4243 (by decide) "sleep (1) x" 4242
        140737488347136)).Shows
      [processOf 4243 (by decide) "sleep (1) x" 4242 140737488347136] ∧
    ¬ DetectsOrphans
      (procOf (processOf 4243 (by decide) "sleep (1) x" 4242
        140737488347136))
      [processOf 4243 (by decide) "sleep (1) x" 4242 140737488347136]
      4000 := by
  refine ⟨procOf_shows _, fun detects => ?_⟩
  have same := detects.argEnd_eq (procOf_shows _) List.mem_cons_self
  revert same
  decide

end ScientificResourceLab.Execution
