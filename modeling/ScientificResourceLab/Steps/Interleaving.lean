import ScientificResourceLab.Steps.Program
import Mathlib.Logic.Function.Basic

/-!
# Interleaved programs

Several programs run on one state.  A schedule is the list of the threads that
move, one atomic step at a time; a thread that is not scheduled any more was
cut by a crash, and a thread that is scheduled for the first time is a call
that starts there.  So every interleaving of every set of calls, each complete
or cut, is a schedule.

`Program.Secure` is the logic of one thread among others.  It asks that every
write satisfies a guarantee, whatever changes within `rely` the others make
before each step.  When the guarantee of every thread is within `rely`, an
interleaving is a chain of guaranteed writes.

`Program.Runs` is the set of paths of one program through such surroundings:
the writes it made and its result.  A finished thread took one of its paths.
-/

namespace ScientificResourceLab.Steps

universe u v w x

namespace Program

variable {σ : Type u} {ε : Type v} {α β : Type w}

/-- One atomic step; a finished program makes none. -/
def step : Program σ ε α → σ → Program σ ε α × σ
  | .ret value, state => (.ret value, state)
  | .raise error, state => (.raise error, state)
  | .read next, state => (next state, state)
  | .write action next, state => (next state, action state)

/-- The write that the next step makes, as the states around it. -/
def writeAt : Program σ ε α → σ → List (σ × σ)
  | .write action _, state => [(state, action state)]
  | _, _ => []

/-- A step that computes from the state goes on with the value. -/
theorem step_inspect_bind
    {view : σ → Except ε α} {rest : α → Program σ ε β} {state : σ}
    {value : α} (found : view state = .ok value) :
    (inspect view >>= rest).step state = (rest value, state) := by
  change ((inspect view).bind rest).step state = _
  simp only [inspect, Program.bind, step, found]

/-- A program with no step left. -/
def Ended : Program σ ε α → Prop
  | .ret _ => True
  | .raise _ => True
  | .read _ => False
  | .write _ _ => False

instance Ended.decidable :
    (program : Program σ ε α) → Decidable program.Ended
  | .ret _ => .isTrue trivial
  | .raise _ => .isTrue trivial
  | .read _ => .isFalse id
  | .write _ _ => .isFalse id

/-- Every path of the program has at most `count` steps. -/
def EndsWithin : Nat → Program σ ε α → Prop
  | _, .ret _ => True
  | _, .raise _ => True
  | 0, .read _ => False
  | 0, .write _ _ => False
  | count + 1, .read next => ∀ state, (next state).EndsWithin count
  | count + 1, .write _ next => ∀ state, (next state).EndsWithin count

theorem EndsWithin.ended
    {program : Program σ ε α} (ends : program.EndsWithin 0) :
    program.Ended := by
  cases program with
  | ret value => trivial
  | raise error => trivial
  | read next => exact ends
  | write action next => exact ends

theorem EndsWithin.step
    {program : Program σ ε α} {count : Nat}
    (ends : program.EndsWithin (count + 1)) (state : σ) :
    (program.step state).1.EndsWithin count := by
  cases program with
  | ret value => cases count <;> trivial
  | raise error => cases count <;> trivial
  | read next => exact ends state
  | write action next => exact ends state

theorem EndsWithin.mono
    {program : Program σ ε α} {count bound : Nat}
    (ends : program.EndsWithin count) (within : count ≤ bound) :
    program.EndsWithin bound := by
  induction program generalizing count bound with
  | ret value => cases bound <;> trivial
  | raise error => cases bound <;> trivial
  | read next induction =>
      obtain ⟨count, rfl⟩ : ∃ before, count = before + 1 := by
        cases count with
        | zero => exact ends.elim
        | succ before => exact ⟨before, rfl⟩
      obtain ⟨bound, rfl⟩ : ∃ before, bound = before + 1 :=
        ⟨bound - 1, by omega⟩
      exact fun state => induction state (ends state) (by omega)
  | write action next induction =>
      obtain ⟨count, rfl⟩ : ∃ before, count = before + 1 := by
        cases count with
        | zero => exact ends.elim
        | succ before => exact ⟨before, rfl⟩
      obtain ⟨bound, rfl⟩ : ∃ before, bound = before + 1 :=
        ⟨bound - 1, by omega⟩
      exact fun state => induction state (ends state) (by omega)

theorem endsWithin_compute (result : Except ε α) :
    (compute (σ := σ) result).EndsWithin 0 := by
  cases result <;> trivial

theorem endsWithin_observe_bind
    {view : σ → α} {rest : α → Program σ ε β} {count : Nat}
    (ends : ∀ value, (rest value).EndsWithin count) :
    (observe view >>= rest).EndsWithin (count + 1) :=
  fun state => ends (view state)

theorem endsWithin_update_bind
    {action : σ → σ} {rest : PUnit → Program σ ε β} {count : Nat}
    (ends : (rest ⟨⟩).EndsWithin count) :
    (update action >>= rest).EndsWithin (count + 1) :=
  fun _ => ends

theorem endsWithin_inspect_bind
    {view : σ → Except ε α} {rest : α → Program σ ε β} {count : Nat}
    (ends : ∀ value, (rest value).EndsWithin count) :
    (inspect view >>= rest).EndsWithin (count + 1) := by
  intro state
  dsimp only
  cases view state with
  | ok value => exact ends value
  | error error => cases count <;> trivial

theorem endsWithin_bind
    {program : Program σ ε α} {rest : α → Program σ ε β}
    {first second : Nat} (head : program.EndsWithin first)
    (tail : ∀ value, (rest value).EndsWithin second) :
    (program >>= rest).EndsWithin (second + first) := by
  change (program.bind rest).EndsWithin (second + first)
  induction program generalizing first with
  | ret value => exact (tail value).mono (by omega)
  | raise error => cases (second + first) <;> trivial
  | read next induction =>
      cases first with
      | zero => exact head.elim
      | succ first => exact fun state => induction state (head state)
  | write action next induction =>
      cases first with
      | zero => exact head.elim
      | succ first => exact fun state => induction state (head state)

/-! ## One thread among others -/

/--
Whatever changes within `rely` come before each step, every write is a `guar`
transition, and the outcome satisfies `post` in the state of the last step.
-/
def Secure (rely guar : σ → σ → Prop) (post : Except ε α → σ → Prop) :
    Program σ ε α → σ → Prop
  | .ret value, state => post (.ok value) state
  | .raise error, state => post (.error error) state
  | .read next, state =>
      ∀ later, rely state later → (next later).Secure rely guar post later
  | .write action next, state =>
      ∀ later, rely state later →
        guar later (action later) ∧
          (next later).Secure rely guar post (action later)

variable {rely guar : σ → σ → Prop} {post : Except ε β → σ → Prop}
variable {state : σ}

/-- What a bind does after its first program ended. -/
def secureBind
    (rely guar : σ → σ → Prop) (post : Except ε β → σ → Prop)
    (rest : α → Program σ ε β) : Except ε α → σ → Prop
  | .ok value, state => (rest value).Secure rely guar post state
  | .error error, state => post (.error error) state

theorem secure_bind
    {program : Program σ ε α} {rest : α → Program σ ε β}
    (secure : program.Secure rely guar
      (secureBind rely guar post rest) state) :
    (program >>= rest).Secure rely guar post state := by
  change (program.bind rest).Secure rely guar post state
  induction program generalizing state with
  | ret value => exact secure
  | raise error => exact secure
  | read next induction =>
      intro later relies
      exact induction later (secure later relies)
  | write action next induction =>
      intro later relies
      obtain ⟨guaranteed, rest⟩ := secure later relies
      exact ⟨guaranteed, induction later rest⟩

theorem secure_compute_bind
    {result : Except ε α} {rest : α → Program σ ε β}
    (returned : ∀ value, result = .ok value →
      (rest value).Secure rely guar post state)
    (stopped : ∀ error, post (.error error) state) :
    (compute result >>= rest).Secure rely guar post state := by
  cases result with
  | ok value => exact returned value rfl
  | error error => exact stopped error

theorem secure_observe_bind
    {view : σ → α} {rest : α → Program σ ε β}
    (continues : ∀ later, rely state later →
      (rest (view later)).Secure rely guar post later) :
    (observe view >>= rest).Secure rely guar post state :=
  continues

theorem secure_inspect_bind
    {view : σ → Except ε α} {rest : α → Program σ ε β}
    (returned : ∀ later value, rely state later →
      view later = .ok value → (rest value).Secure rely guar post later)
    (stopped : ∀ later error, rely state later →
      post (.error error) later) :
    (inspect view >>= rest).Secure rely guar post state := by
  refine secure_bind fun later relies => ?_
  cases found : view later with
  | ok value =>
      simp only [found]
      exact returned later value relies found
  | error error =>
      simp only [found]
      exact stopped later error relies

theorem secure_update_bind
    {action : σ → σ} {rest : PUnit → Program σ ε β}
    (continues : ∀ later, rely state later →
      guar later (action later) ∧
        (rest ⟨⟩).Secure rely guar post (action later)) :
    (update action >>= rest).Secure rely guar post state :=
  continues

/-- A thread without writes guarantees nothing and ends anywhere. -/
theorem ReadOnly.secure
    {program : Program σ ε α} (readOnly : program.ReadOnly) (state : σ) :
    program.Secure rely guar (fun _ _ => True) state := by
  induction program generalizing state with
  | ret value => trivial
  | raise error => trivial
  | read next induction =>
      exact fun later _ => induction later (readOnly later) later
  | write action next _ => exact readOnly.elim

/-- A thread stays secure while the others move. -/
theorem Secure.later
    {post : Except ε α → σ → Prop} {program : Program σ ε α} {after : σ}
    (secure : program.Secure rely guar post state)
    (transitive : ∀ first second third,
      rely first second → rely second third → rely first third)
    (stable : ∀ result first second,
      rely first second → post result first → post result second)
    (relies : rely state after) :
    program.Secure rely guar post after := by
  cases program with
  | ret value => exact stable _ _ _ relies secure
  | raise error => exact stable _ _ _ relies secure
  | read next =>
      intro later more
      exact secure later (transitive _ _ _ relies more)
  | write action next =>
      intro later more
      exact secure later (transitive _ _ _ relies more)

/-- A step of a secure thread is a guaranteed write, or changes nothing. -/
theorem Secure.step
    {post : Except ε α → σ → Prop} {program : Program σ ε α}
    (secure : program.Secure rely guar post state)
    (reflexive : ∀ any, rely any any) :
    (guar state (program.step state).2 ∨
      (program.step state).2 = state) ∧
    (program.step state).1.Secure rely guar post
      (program.step state).2 := by
  cases program with
  | ret value => exact ⟨.inr rfl, secure⟩
  | raise error => exact ⟨.inr rfl, secure⟩
  | read next => exact ⟨.inr rfl, secure state (reflexive state)⟩
  | write action next =>
      obtain ⟨guaranteed, rest⟩ := secure state (reflexive state)
      exact ⟨.inl guaranteed, rest⟩

/-! ## Paths of one program -/

/-- A path of a program: the writes it made, and its result. -/
inductive Runs :
    Program σ ε α → List (σ × σ) → Except ε α → Prop where
  | ret {value : α} : Runs (.ret value) [] (.ok value)
  | raise {error : ε} : Runs (.raise error) [] (.error error)
  | read {next : σ → Program σ ε α} {state : σ}
      {writes : List (σ × σ)} {result : Except ε α}
      (rest : Runs (next state) writes result) :
      Runs (.read next) writes result
  | write {action : σ → σ} {next : σ → Program σ ε α} {state : σ}
      {writes : List (σ × σ)} {result : Except ε α}
      (rest : Runs (next state) writes result) :
      Runs (.write action next) ((state, action state) :: writes) result

/-- A path of a bind: its first program ends it, or is followed. -/
theorem runs_bind
    {program : Program σ ε α} {rest : α → Program σ ε β}
    {writes : List (σ × σ)} {result : Except ε β}
    (runs : Runs (program >>= rest) writes result) :
    (∃ error, result = .error error ∧
      Runs program writes (.error error)) ∨
    ∃ value first second, writes = first ++ second ∧
      Runs program first (.ok value) ∧
      Runs (rest value) second result := by
  change Runs (program.bind rest) writes result at runs
  induction program generalizing writes with
  | ret value => exact .inr ⟨value, [], writes, rfl, .ret, runs⟩
  | raise error =>
      cases runs
      exact .inl ⟨error, rfl, .raise⟩
  | read next induction =>
      cases runs with
      | @read _ state _ _ path =>
          rcases induction state path with ⟨error, isError, ends⟩ |
            ⟨value, first, second, split, ends, continues⟩
          · exact .inl ⟨error, isError, .read ends⟩
          · exact .inr ⟨value, first, second, split, .read ends,
              continues⟩
  | write action next induction =>
      cases runs with
      | @write _ _ state writes _ path =>
          rcases induction state path with ⟨error, isError, ends⟩ |
            ⟨value, first, second, rfl, ends, continues⟩
          · exact .inl ⟨error, isError, .write ends⟩
          · exact .inr ⟨value, (state, action state) :: first, second,
              rfl, .write ends, continues⟩

/-- A path through a computation: its error ends the path. -/
theorem runs_compute_bind
    {computed : Except ε α} {rest : α → Program σ ε β}
    {writes : List (σ × σ)} {result : Except ε β}
    (runs : Runs (compute computed >>= rest) writes result) :
    (∃ error, computed = .error error ∧ writes = [] ∧
      result = .error error) ∨
    ∃ value, computed = .ok value ∧ Runs (rest value) writes result := by
  cases computed with
  | ok value => exact .inr ⟨value, rfl, runs⟩
  | error error =>
      cases runs
      exact .inl ⟨error, rfl, rfl, rfl⟩

theorem runs_observe_bind
    {view : σ → α} {rest : α → Program σ ε β}
    {writes : List (σ × σ)} {result : Except ε β}
    (runs : Runs (observe view >>= rest) writes result) :
    ∃ state, Runs (rest (view state)) writes result := by
  cases runs with
  | @read _ state _ _ path => exact ⟨state, path⟩

/-- A program without writes makes none on its paths. -/
theorem ReadOnly.runs
    {program : Program σ ε α} {writes : List (σ × σ)}
    {result : Except ε α} (readOnly : program.ReadOnly)
    (runs : Runs program writes result) : writes = [] := by
  induction runs with
  | ret => rfl
  | raise => rfl
  | @read _ state _ _ _ induction => exact induction (readOnly state)
  | write _ _ => exact readOnly.elim

theorem runs_update_bind
    {action : σ → σ} {rest : PUnit → Program σ ε β}
    {writes : List (σ × σ)} {result : Except ε β}
    (runs : Runs (update action >>= rest) writes result) :
    ∃ state later, writes = (state, action state) :: later ∧
      Runs (rest ⟨⟩) later result := by
  cases runs with
  | @write _ _ state later _ path => exact ⟨state, later, rfl, path⟩

theorem runs_inspect_bind
    {view : σ → Except ε α} {rest : α → Program σ ε β}
    {writes : List (σ × σ)} {result : Except ε β}
    (runs : Runs (inspect view >>= rest) writes result) :
    (writes = [] ∧ ∃ state error, view state = .error error ∧
      result = .error error) ∨
    ∃ state value, view state = .ok value ∧
      Runs (rest value) writes result := by
  rcases runs_bind runs with ⟨error, rfl, path⟩ |
    ⟨value, first, second, rfl, path, continues⟩
  · cases path with
    | @read _ state _ _ ends =>
        cases found : view state with
        | ok value =>
            simp only [found] at ends
            cases ends
        | error _ =>
            simp only [found] at ends
            cases ends
            exact .inl ⟨rfl, state, error, found, rfl⟩
  · cases path with
    | @read _ state _ _ ends =>
        cases found : view state with
        | ok _ =>
            simp only [found] at ends
            cases ends
            exact .inr ⟨state, value, found, continues⟩
        | error error =>
            simp only [found] at ends
            cases ends

end Program

/-! ## Schedules -/

section

variable {σ : Type u} {ε : Type v} {ι : Type x} {α : ι → Type w}

/-- The programs of the threads. -/
abbrev Pool (σ : Type u) (ε : Type v) (α : ι → Type w) :=
  (thread : ι) → Program σ ε (α thread)

variable [DecidableEq ι]

def Pool.step (pool : Pool σ ε α) (thread : ι) (state : σ) :
    Pool σ ε α :=
  Function.update pool thread ((pool thread).step state).1

/-- The programs and the state after a schedule. -/
def interleave : List ι → Pool σ ε α → σ → Pool σ ε α × σ
  | [], pool, state => (pool, state)
  | thread :: schedule, pool, state =>
      interleave schedule (pool.step thread state)
        ((pool thread).step state).2

/-- The writes of one thread during a schedule. -/
def writesOf (thread : ι) : List ι → Pool σ ε α → σ → List (σ × σ)
  | [], _, _ => []
  | next :: schedule, pool, state =>
      (if next = thread then (pool next).writeAt state else []) ++
        writesOf thread schedule (pool.step next state)
          ((pool next).step state).2

/-! ## Conditions along a schedule -/

/-- Each step of a schedule meets a condition on its thread and state. -/
def Along
    (condition : (thread : ι) → Program σ ε (α thread) → σ → Prop) :
    List ι → Pool σ ε α → σ → Prop
  | [], _, _ => True
  | thread :: schedule, pool, state =>
      condition thread (pool thread) state ∧
        Along condition schedule (pool.step thread state)
          ((pool thread).step state).2

theorem Along.mono
    {condition weaker : (thread : ι) → Program σ ε (α thread) → σ → Prop}
    (weaken : ∀ thread program state,
      condition thread program state → weaker thread program state)
    (schedule : List ι) {pool : Pool σ ε α} {state : σ}
    (along : Along condition schedule pool state) :
    Along weaker schedule pool state := by
  induction schedule generalizing pool state with
  | nil => trivial
  | cons thread schedule induction =>
      exact ⟨weaken _ _ _ along.1, induction along.2⟩

instance Along.decidable
    (condition : (thread : ι) → Program σ ε (α thread) → σ → Prop)
    [∀ thread program state, Decidable (condition thread program state)] :
    (schedule : List ι) → (pool : Pool σ ε α) → (state : σ) →
      Decidable (Along condition schedule pool state)
  | [], _, _ => .isTrue trivial
  | thread :: schedule, pool, state =>
      @instDecidableAnd _ _ inferInstance
        (Along.decidable condition schedule (pool.step thread state)
          ((pool thread).step state).2)

theorem invariant_of_along
    {condition : (thread : ι) → Program σ ε (α thread) → σ → Prop}
    (invariant : Pool σ ε α → σ → Prop)
    (kept : ∀ pool state thread, invariant pool state →
      condition thread (pool thread) state →
      invariant (pool.step thread state) ((pool thread).step state).2)
    (schedule : List ι) {pool : Pool σ ε α} {state : σ}
    (along : Along condition schedule pool state)
    (holds : invariant pool state) :
    invariant (interleave schedule pool state).1
      (interleave schedule pool state).2 := by
  induction schedule generalizing pool state with
  | nil => exact holds
  | cons thread schedule induction =>
      exact induction along.2 (kept pool state thread holds along.1)

/-- A thread has ended once it was given the steps of its longest path. -/
theorem ended_of_count
    {thread : ι} (schedule : List ι) {pool : Pool σ ε α} {state : σ}
    {count : Nat} (ends : (pool thread).EndsWithin count)
    (given : count ≤ schedule.count thread) :
    ((interleave schedule pool state).1 thread).Ended := by
  induction schedule generalizing pool state count with
  | nil =>
      obtain rfl : count = 0 := by simpa using given
      exact ends.ended
  | cons next schedule induction =>
      by_cases isThread : next = thread
      · subst isThread
        rw [List.count_cons_self] at given
        have stepped : (pool.step next state next).EndsWithin
            (count - 1) := by
          rw [Pool.step, Function.update_self]
          exact (ends.mono (by omega : count ≤ count - 1 + 1)).step state
        exact induction stepped (by omega)
      · rw [List.count_cons_of_ne (fun same => isThread same)] at given
        refine induction ?_ given
        rw [Pool.step, Function.update_of_ne (Ne.symm isThread)]
        exact ends

variable {rely guar : σ → σ → Prop}

/--
When the guarantee of the threads is within what each of them relies on, an
interleaving is a chain of guaranteed writes.
-/
theorem interleave_reaches
    (reflexive : ∀ any, rely any any)
    (transitive : ∀ first second third,
      rely first second → rely second third → rely first third)
    (within : ∀ before after, guar before after → rely before after)
    (schedule : List ι) {pool : Pool σ ε α} {state : σ}
    (secure : ∀ thread,
      (pool thread).Secure rely guar (fun _ _ => True) state) :
    Relation.ReflTransGen guar state
      (interleave schedule pool state).2 := by
  induction schedule generalizing pool state with
  | nil => exact .refl
  | cons thread schedule induction =>
      obtain ⟨move, moved⟩ := (secure thread).step reflexive
      have relies : rely state ((pool thread).step state).2 := by
        rcases move with guaranteed | same
        · exact within _ _ guaranteed
        · rw [same]
          exact reflexive state
      have next : Relation.ReflTransGen guar
          ((pool thread).step state).2
          (interleave schedule (pool.step thread state)
            ((pool thread).step state).2).2 := induction ?_
      · rcases move with guaranteed | same
        · exact .head guaranteed next
        · rw [interleave]
          rw [same] at next ⊢
          exact next
      · intro other
        rw [Pool.step]
        by_cases isThread : other = thread
        · subst isThread
          rw [Function.update_self]
          exact moved
        · rw [Function.update_of_ne isThread]
          exact (secure other).later transitive
            (fun _ _ _ _ holds => holds) relies

/-- What is left of a thread continues the path of its writes. -/
theorem runs_of_interleave
    (thread : ι) (schedule : List ι) {pool : Pool σ ε α} {state : σ}
    {writes : List (σ × σ)} {result : Except ε (α thread)}
    (runs : ((interleave schedule pool state).1 thread).Runs writes
      result) :
    (pool thread).Runs (writesOf thread schedule pool state ++ writes)
      result := by
  induction schedule generalizing pool state with
  | nil => exact runs
  | cons next schedule induction =>
      have later := induction runs
      rw [writesOf, List.append_assoc]
      generalize writesOf thread schedule (pool.step next state)
        ((pool next).step state).2 ++ writes = rest at later
      by_cases isThread : next = thread
      · subst isThread
        rw [Pool.step, Function.update_self] at later
        rw [if_pos rfl]
        cases isProgram : pool next with
        | ret value =>
            rw [isProgram] at later
            exact later
        | raise error =>
            rw [isProgram] at later
            exact later
        | read view =>
            rw [isProgram] at later
            exact .read later
        | write action view =>
            rw [isProgram] at later
            exact .write later
      · rw [Pool.step, Function.update_of_ne (Ne.symm isThread)] at later
        rw [if_neg isThread]
        exact later

end

end ScientificResourceLab.Steps
