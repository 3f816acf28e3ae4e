import Mathlib.Logic.Relation

/-!
# Programs made of atomic steps on a shared state

A `Program` is a tree of the atomic steps that a sequential piece of code
performs on a state it shares with its surroundings.  A read observes the
state and leaves it alone; a write replaces the state and lets the rest of
the program see the state that stood before.  Everything between two steps
is local computation and is not represented.

The tree has two ends, a returned value and a raised error, so a program of
this kind renders code with exceptions without a separate error monad.  A
crash is a cut: `Program.crash n` is the state left behind when the code
stops after its first `n` writes and never runs again.

`Program.Safe` is the logic of such trees.  It asks that every write made
from a given state satisfies a transition relation and that the result and
final state satisfy a postcondition.  The rules below compute it through the
program, so a proof about code is a symbolic run of the code; the soundness
theorems then speak about complete runs and about every crash.
-/

namespace ScientificResourceLab.Steps

universe u v w x

/-- A tree of atomic reads and writes of a state `σ` with errors `ε`. -/
inductive Program (σ : Type u) (ε : Type v) (α : Type w) where
  | ret (value : α)
  | raise (error : ε)
  | read (next : σ → Program σ ε α)
  | write (action : σ → σ) (next : σ → Program σ ε α)

namespace Program

variable {σ : Type u} {ε : Type v} {α : Type w} {β : Type x}

/-- Sequential composition; an error skips the continuation. -/
def bind : Program σ ε α → (α → Program σ ε β) → Program σ ε β
  | .ret value, rest => rest value
  | .raise error, _ => .raise error
  | .read next, rest => .read fun state => (next state).bind rest
  | .write action next, rest =>
      .write action fun state => (next state).bind rest

/-- Run a handler at the place where the program raises. -/
def handle : Program σ ε α → (ε → Program σ ε α) → Program σ ε α
  | .ret value, _ => .ret value
  | .raise error, handler => handler error
  | .read next, handler =>
      .read fun state => (next state).handle handler
  | .write action next, handler =>
      .write action fun state => (next state).handle handler

instance : Monad (Program σ ε) where
  pure := .ret
  bind := bind

instance : MonadExcept ε (Program σ ε) where
  throw := .raise
  tryCatch := handle

/-- Observe one part of the state. -/
def observe (view : σ → α) : Program σ ε α :=
  .read fun state => .ret (view state)

/-- Compute from the state, with an error or a value. -/
def inspect (view : σ → Except ε α) : Program σ ε α :=
  .read fun state =>
    match view state with
    | .ok value => .ret value
    | .error error => .raise error

/-- Replace the state by one atomic step. -/
def update (action : σ → σ) : Program σ ε PUnit :=
  .write action fun _ => .ret ⟨⟩

/-- Continue with a value computed without touching the state. -/
def compute : Except ε α → Program σ ε α
  | .ok value => .ret value
  | .error error => .raise error

/-! ## Complete runs and crashes -/

/-- Run a program from a state to its end. -/
def run : Program σ ε α → σ → Except ε α × σ
  | .ret value, state => (.ok value, state)
  | .raise error, state => (.error error, state)
  | .read next, state => (next state).run state
  | .write action next, state => (next state).run (action state)

/-- The state left behind by a crash after the first `count` writes. -/
def crash : Nat → Program σ ε α → σ → σ
  | _, .ret _, state => state
  | _, .raise _, state => state
  | count, .read next, state => (next state).crash count state
  | 0, .write _ _, state => state
  | count + 1, .write action next, state =>
      (next state).crash count (action state)

theorem program_bind_assoc
    {α β γ : Type w} (program : Program σ ε α)
    (first : α → Program σ ε β) (second : β → Program σ ε γ) :
    program >>= first >>= second =
      program >>= fun value => first value >>= second := by
  change (program.bind first).bind second =
    program.bind fun value => (first value).bind second
  induction program with
  | ret value => rfl
  | raise error => rfl
  | read next induction =>
      simp only [Program.bind, induction]
  | write action next induction =>
      simp only [Program.bind, induction]

@[simp]
theorem compute_ok_bind
    {α β : Type w} (value : α) (rest : α → Program σ ε β) :
    compute (.ok value) >>= rest = rest value :=
  rfl

@[simp]
theorem run_compute (result : Except ε α) (state : σ) :
    (compute result).run state = (result, state) := by
  cases result <;> rfl

theorem run_observe_bind
    {α β : Type w} (view : σ → α) (rest : α → Program σ ε β) (state : σ) :
    (observe view >>= rest).run state = (rest (view state)).run state :=
  rfl

/-- A run goes on with the value and the state of its first part. -/
theorem run_bind_ok
    {α β : Type w} {program : Program σ ε α} {rest : α → Program σ ε β}
    {state later : σ} {value : α}
    (ran : program.run state = (.ok value, later)) :
    (program >>= rest).run state = (rest value).run later := by
  change (program.bind rest).run state = _
  induction program generalizing state with
  | ret returned =>
      obtain ⟨⟨rfl⟩, rfl⟩ := Prod.mk.inj ran
      rfl
  | raise error => cases ran
  | read next induction => exact induction state ran
  | write action next induction => exact induction state ran

/-- A run stops where its first part raised. -/
theorem run_bind_error
    {α β : Type w} {program : Program σ ε α} {rest : α → Program σ ε β}
    {state later : σ} {error : ε}
    (ran : program.run state = (.error error, later)) :
    (program >>= rest).run state = (.error error, later) := by
  change (program.bind rest).run state = _
  induction program generalizing state with
  | ret returned => cases ran
  | raise raised =>
      obtain ⟨⟨rfl⟩, rfl⟩ := Prod.mk.inj ran
      rfl
  | read next induction => exact induction state ran
  | write action next induction => exact induction state ran

/-- A handler is passed by when nothing is raised. -/
theorem run_tryCatch_ok
    {program : Program σ ε α} (handler : ε → Program σ ε α)
    {state later : σ} {value : α}
    (ran : program.run state = (.ok value, later)) :
    (tryCatch program handler).run state = (.ok value, later) := by
  change (program.handle handler).run state = _
  induction program generalizing state with
  | ret returned => exact ran
  | raise raised => cases ran
  | read next induction => exact induction state ran
  | write action next induction => exact induction state ran

/-- A handler goes on where the program it guards raised. -/
theorem run_tryCatch_error
    {program : Program σ ε α} (handler : ε → Program σ ε α)
    {state later : σ} {error : ε}
    (ran : program.run state = (.error error, later)) :
    (tryCatch program handler).run state = (handler error).run later := by
  change (program.handle handler).run state = _
  induction program generalizing state with
  | ret returned => cases ran
  | raise raised =>
      obtain ⟨⟨rfl⟩, rfl⟩ := Prod.mk.inj ran
      rfl
  | read next induction => exact induction state ran
  | write action next induction => exact induction state ran

/-- A run goes on with what it computes from the state. -/
theorem run_inspect_bind
    {α β : Type w} (view : σ → Except ε α) {rest : α → Program σ ε β}
    {state : σ} {value : α} (found : view state = .ok value) :
    (inspect view >>= rest).run state = (rest value).run state := by
  change ((inspect view).bind rest).run state = _
  simp only [inspect, Program.bind, run, found]

theorem crash_inspect_bind
    {α β : Type w} (view : σ → Except ε α) {rest : α → Program σ ε β}
    {state : σ} {value : α} (found : view state = .ok value)
    (count : Nat) :
    (inspect view >>= rest).crash count state =
      (rest value).crash count state := by
  change ((inspect view).bind rest).crash count state = _
  simp only [inspect, Program.bind, crash, found]

/-! ## Programs without writes -/

/-- A program that makes no write. -/
def ReadOnly : Program σ ε α → Prop
  | .ret _ => True
  | .raise _ => True
  | .read next => ∀ state, (next state).ReadOnly
  | .write _ _ => False

theorem readOnly_compute (result : Except ε α) :
    ReadOnly (σ := σ) (compute result) := by
  cases result <;> trivial

theorem readOnly_bind
    {α β : Type w} {program : Program σ ε α} {rest : α → Program σ ε β}
    (head : program.ReadOnly) (tail : ∀ value, (rest value).ReadOnly) :
    (program >>= rest).ReadOnly := by
  change (program.bind rest).ReadOnly
  induction program with
  | ret value => exact tail value
  | raise error => trivial
  | read next induction => exact fun state => induction state (head state)
  | write action next _ => exact head.elim

/-! ## Programs that leave a part of the state alone -/

/-- No write of the program changes the view. -/
def Keeps {τ : Type x} (view : σ → τ) : Program σ ε α → Prop
  | .ret _ => True
  | .raise _ => True
  | .read next => ∀ state, (next state).Keeps view
  | .write action next =>
      (∀ state, view (action state) = view state) ∧
        ∀ state, (next state).Keeps view

section

variable {τ : Type x} {view : σ → τ}

theorem keeps_compute (result : Except ε α) :
    (compute result).Keeps view := by
  cases result <;> trivial

theorem keeps_observe (observed : σ → α) :
    (observe (ε := ε) observed).Keeps view :=
  fun _ => trivial

theorem keeps_update
    {action : σ → σ} (kept : ∀ state, view (action state) = view state) :
    (update (ε := ε) action).Keeps view :=
  ⟨kept, fun _ => trivial⟩

theorem keeps_bind
    {α β : Type w} {program : Program σ ε α} {rest : α → Program σ ε β}
    (head : program.Keeps view) (tail : ∀ value, (rest value).Keeps view) :
    (program >>= rest).Keeps view := by
  change (program.bind rest).Keeps view
  induction program with
  | ret value => exact tail value
  | raise error => trivial
  | read next induction => exact fun state => induction state (head state)
  | write action next induction =>
      exact ⟨head.1, fun state => induction state (head.2 state)⟩

theorem keeps_ite
    {condition : Prop} [Decidable condition]
    {first second : Program σ ε α}
    (holds : first.Keeps view) (fails : second.Keeps view) :
    (if condition then first else second).Keeps view := by
  by_cases decided : condition
  · rw [if_pos decided]
    exact holds
  · rw [if_neg decided]
    exact fails

end

/-! ## The logic of single runs -/

/--
Every write made by `program` from `state` is a `guar` transition, and its
outcome and final state satisfy `post`.
-/
def Safe (guar : σ → σ → Prop) (post : Except ε α → σ → Prop) :
    Program σ ε α → σ → Prop
  | .ret value, state => post (.ok value) state
  | .raise error, state => post (.error error) state
  | .read next, state => (next state).Safe guar post state
  | .write action next, state =>
      guar state (action state) ∧
        (next state).Safe guar post (action state)

variable {guar : σ → σ → Prop} {post : Except ε α → σ → Prop}

@[simp]
theorem safe_pure (value : α) (state : σ) :
    Safe guar post (pure value) state ↔ post (.ok value) state :=
  Iff.rfl

@[simp]
theorem safe_throw (error : ε) (state : σ) :
    Safe guar post (throw error) state ↔ post (.error error) state :=
  Iff.rfl

@[simp]
theorem safe_observe (view : σ → α) (state : σ) :
    Safe guar post (observe view) state ↔
      post (.ok (view state)) state :=
  Iff.rfl

@[simp]
theorem safe_inspect (view : σ → Except ε α) (state : σ) :
    Safe guar post (inspect view) state ↔ post (view state) state := by
  simp only [inspect, Safe]
  cases view state <;> rfl

@[simp]
theorem safe_update
    {post : Except ε PUnit → σ → Prop}
    (action : σ → σ) (state : σ) :
    Safe guar post (update action) state ↔
      guar state (action state) ∧ post (.ok ⟨⟩) (action state) :=
  Iff.rfl

/-- What a bind does after its first program ended. -/
def bindPost
    (guar : σ → σ → Prop) (post : Except ε β → σ → Prop)
    (rest : α → Program σ ε β) : Except ε α → σ → Prop
  | .ok value, state => (rest value).Safe guar post state
  | .error error, state => post (.error error) state

@[simp]
theorem bindPost_ok
    {post : Except ε β → σ → Prop} (rest : α → Program σ ε β)
    (value : α) (state : σ) :
    bindPost guar post rest (.ok value) state ↔
      (rest value).Safe guar post state :=
  Iff.rfl

@[simp]
theorem bindPost_error
    {post : Except ε β → σ → Prop} (rest : α → Program σ ε β)
    (error : ε) (state : σ) :
    bindPost guar post rest (.error error) state ↔
      post (.error error) state :=
  Iff.rfl

theorem safe_program_bind
    {post : Except ε β → σ → Prop}
    (program : Program σ ε α) (rest : α → Program σ ε β) (state : σ) :
    Safe guar post (program.bind rest) state ↔
      Safe guar (bindPost guar post rest) program state := by
  induction program generalizing state with
  | ret value => rfl
  | raise error => rfl
  | read next induction => exact induction state state
  | write action next induction =>
      simp only [Program.bind, Safe]
      rw [induction state (action state)]

@[simp]
theorem safe_bind
    {α β : Type w} {post : Except ε β → σ → Prop}
    (program : Program σ ε α) (rest : α → Program σ ε β) (state : σ) :
    Safe guar post (program >>= rest) state ↔
      Safe guar (bindPost guar post rest) program state :=
  safe_program_bind program rest state

/-- What a handler does after the program it guards ended. -/
def handlePost
    (guar : σ → σ → Prop) (post : Except ε α → σ → Prop)
    (handler : ε → Program σ ε α) : Except ε α → σ → Prop
  | .ok value, state => post (.ok value) state
  | .error error, state => (handler error).Safe guar post state

@[simp]
theorem handlePost_error
    (handler : ε → Program σ ε α) (error : ε) (state : σ) :
    handlePost guar post handler (.error error) state ↔
      (handler error).Safe guar post state :=
  Iff.rfl

@[simp]
theorem safe_tryCatch
    (program : Program σ ε α) (handler : ε → Program σ ε α)
    (state : σ) :
    Safe guar post (tryCatch program handler) state ↔
      Safe guar (handlePost guar post handler) program state := by
  change Safe guar post (program.handle handler) state ↔ _
  induction program generalizing state with
  | ret value => rfl
  | raise error => rfl
  | read next induction => exact induction state state
  | write action next induction =>
      simp only [handle, Safe]
      rw [induction state (action state)]

@[simp]
theorem safe_compute (result : Except ε α) (state : σ) :
    Safe guar post (compute result) state ↔ post result state := by
  cases result <;> rfl

/-- Go on with a computed value, or stop at its error. -/
theorem safe_compute_bind
    {α β : Type w} {post : Except ε β → σ → Prop}
    {result : Except ε α} {rest : α → Program σ ε β} {state : σ}
    (returned : ∀ value, result = .ok value →
      (rest value).Safe guar post state)
    (stopped : ∀ error, post (.error error) state) :
    (compute result >>= rest).Safe guar post state := by
  rw [safe_bind, safe_compute]
  cases result with
  | ok value => exact returned value rfl
  | error error => exact stopped error

/-- Go on with a value computed from the state, or stop at its error. -/
theorem safe_inspect_bind
    {α β : Type w} {post : Except ε β → σ → Prop}
    {view : σ → Except ε α} {rest : α → Program σ ε β} {state : σ}
    (returned : ∀ value, view state = .ok value →
      (rest value).Safe guar post state)
    (stopped : ∀ error, post (.error error) state) :
    (inspect view >>= rest).Safe guar post state := by
  rw [safe_bind, safe_inspect]
  cases found : view state with
  | ok value => exact returned value found
  | error error => exact stopped error

@[simp]
theorem safe_ite
    (condition : Prop) [Decidable condition]
    (first second : Program σ ε α) (state : σ) :
    Safe guar post (if condition then first else second) state ↔
      (condition → first.Safe guar post state) ∧
        (¬ condition → second.Safe guar post state) := by
  by_cases holds : condition <;> simp [holds]

/-- Safety may be weakened in its transitions and in its postcondition. -/
theorem Safe.mono
    {guar' : σ → σ → Prop} {post' : Except ε α → σ → Prop}
    {program : Program σ ε α} {state : σ}
    (safe : program.Safe guar post state)
    (weaken : ∀ before after, guar before after → guar' before after)
    (conclude : ∀ result final, post result final → post' result final) :
    program.Safe guar' post' state := by
  induction program generalizing state with
  | ret value => exact conclude _ _ safe
  | raise error => exact conclude _ _ safe
  | read next induction => exact induction state safe
  | write action next induction =>
      exact ⟨weaken _ _ safe.1, induction state safe.2⟩

/-- Two facts about one run hold together. -/
theorem Safe.and
    {guar' : σ → σ → Prop} {post' : Except ε α → σ → Prop}
    {program : Program σ ε α} {state : σ}
    (first : program.Safe guar post state)
    (second : program.Safe guar' post' state) :
    program.Safe
      (fun before after => guar before after ∧ guar' before after)
      (fun result final => post result final ∧ post' result final)
      state := by
  induction program generalizing state with
  | ret value => exact ⟨first, second⟩
  | raise error => exact ⟨first, second⟩
  | read next induction => exact induction state first second
  | write action next induction =>
      exact ⟨⟨first.1, second.1⟩, induction state first.2 second.2⟩

/-- An invariant of the transitions may be added to a postcondition. -/
theorem Safe.and_invariant
    {invariant : σ → Prop} {program : Program σ ε α} {state : σ}
    (safe : program.Safe guar post state)
    (kept : ∀ before after,
      guar before after → invariant before → invariant after)
    (holds : invariant state) :
    program.Safe guar
      (fun result final => post result final ∧ invariant final) state := by
  induction program generalizing state with
  | ret value => exact ⟨safe, holds⟩
  | raise error => exact ⟨safe, holds⟩
  | read next induction => exact induction state safe holds
  | write action next induction =>
      exact ⟨safe.1, induction state safe.2 (kept _ _ safe.1 holds)⟩

/-- A program without writes is safe when its outcome is as required. -/
theorem ReadOnly.safe
    {program : Program σ ε α} (readOnly : program.ReadOnly) {state : σ}
    (holds : post (program.run state).1 state) :
    program.Safe guar post state := by
  induction program with
  | ret value => exact holds
  | raise error => exact holds
  | read next induction => exact induction state (readOnly state) holds
  | write action next _ => exact readOnly.elim

/-- All states after `state` that a run visits have the property. -/
abbrev Visits
    (property : σ → Prop) (program : Program σ ε α) (state : σ) : Prop :=
  program.Safe (fun _ after => property after)
    (fun _ final => property final) state

/-- A program that keeps a view makes steps between states of that view. -/
theorem Keeps.safe
    {τ : Type x} {view : σ → τ} {program : Program σ ε α}
    (keeps : program.Keeps view) (first : σ) {state : σ}
    (step : ∀ before after, view after = view first → guar before after)
    (ends : ∀ result final, view final = view first → post result final)
    (same : view state = view first) :
    program.Safe guar post state := by
  induction program generalizing state with
  | ret value => exact ends _ _ same
  | raise error => exact ends _ _ same
  | read next induction => exact induction state (keeps state) same
  | write action next induction =>
      have kept := (keeps.1 state).trans same
      exact ⟨step _ _ kept, induction state (keeps.2 state) kept⟩

theorem Keeps.visits
    {τ : Type x} {view : σ → τ} {program : Program σ ε α}
    (keeps : program.Keeps view) {property : σ → Prop}
    (first : σ) {state : σ}
    (holds : ∀ later, view later = view first → property later)
    (same : view state = view first) :
    program.Visits property state :=
  keeps.safe first (fun _ => holds) (fun _ => holds) same

/-! ## Soundness -/

/-- The postcondition holds at the end of a complete run. -/
theorem Safe.run_post
    {program : Program σ ε α} {state : σ}
    (safe : program.Safe guar post state) :
    post (program.run state).1 (program.run state).2 := by
  induction program generalizing state with
  | ret value => exact safe
  | raise error => exact safe
  | read next induction => exact induction state safe
  | write action next induction => exact induction state safe.2

/-- A complete run is a chain of guaranteed transitions. -/
theorem Safe.run_reaches
    {program : Program σ ε α} {state : σ}
    (safe : program.Safe guar post state) :
    Relation.ReflTransGen guar state (program.run state).2 := by
  induction program generalizing state with
  | ret value => exact .refl
  | raise error => exact .refl
  | read next induction => exact induction state safe
  | write action next induction =>
      exact .head safe.1 (induction state safe.2)

theorem Safe.crash_reaches
    {program : Program σ ε α} {state : σ}
    (safe : program.Safe guar post state) (count : Nat) :
    Relation.ReflTransGen guar state (program.crash count state) := by
  induction program generalizing state count with
  | ret value => exact .refl
  | raise error => exact .refl
  | read next induction => exact induction state safe count
  | write action next induction =>
      cases count with
      | zero => exact .refl
      | succ count => exact .head safe.1 (induction state safe.2 count)

/-- A property kept by every transition is kept by a chain of them. -/
theorem holds_of_reaches
    (property : σ → Prop) {first last : σ}
    (chain : Relation.ReflTransGen guar first last)
    (kept : ∀ before after,
      guar before after → property before → property after)
    (holds : property first) :
    property last := by
  induction chain with
  | refl => exact holds
  | tail _ step induction => exact kept _ _ step induction

theorem Visits.ends
    {property : σ → Prop} {program : Program σ ε α} {state : σ}
    (visits : program.Visits property state) (holds : property state) :
    property (program.run state).2 ∧
      ∀ writes, property (program.crash writes state) := by
  have kept (before after : σ) (visited : property after)
      (_ : property before) : property after := visited
  exact ⟨holds_of_reaches property visits.run_reaches kept holds,
    fun writes =>
      holds_of_reaches property (visits.crash_reaches writes) kept holds⟩

end Program

end ScientificResourceLab.Steps
