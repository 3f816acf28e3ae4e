import ScientificResourceLab.Steps.Program
import Mathlib.Data.List.Basic

/-!
# Histories of calls, each complete or cut by a crash

The code of a component is a family of programs, one for each operation with
its arguments.  A history is a finite list of calls, where a call runs to its
end or is cut by a crash after some number of its writes.  A history of calls
acts on states, and the results below carry a property of states along it.

`Throughout` says that a property holds in every state a history visits
between its calls.  `Meets` says that every call of the history satisfies a
condition in the state in which it is made.  `throughout_iff_meets` is the
rule for components that keep a property exactly when their calls meet a
condition.
-/

namespace ScientificResourceLab.Steps

universe u v w x

/-- One call of an operation: run to its end, or cut after some writes. -/
inductive Call (ι : Type x) where
  | complete (operation : ι)
  | crashed (operation : ι) (writes : Nat)
  deriving DecidableEq

def Call.operation {ι : Type x} : Call ι → ι
  | .complete operation => operation
  | .crashed operation _ => operation

section

variable {σ : Type u} {ε : Type v} {ι : Type x} {α : ι → Type w}
variable (code : (operation : ι) → Program σ ε (α operation))

def Call.after : Call ι → σ → σ
  | .complete operation, state => ((code operation).run state).2
  | .crashed operation writes, state =>
      (code operation).crash writes state

/-- The state after a history of calls. -/
def afterCalls : List (Call ι) → σ → σ
  | [], state => state
  | call :: calls, state => afterCalls calls (call.after code state)

/-- The state in which the call at an index is made. -/
def stateBefore (calls : List (Call ι)) (state : σ) (index : Nat) : σ :=
  afterCalls code (calls.take index) state

/-- A property of every state visited between the calls of a history. -/
def Throughout (property : σ → Prop) : List (Call ι) → σ → Prop
  | [], state => property state
  | call :: calls, state =>
      property state ∧ Throughout property calls (call.after code state)

/-- Every call of a history meets a condition where it is made. -/
def Meets (condition : σ → Call ι → Prop) : List (Call ι) → σ → Prop
  | [], _ => True
  | call :: calls, state =>
      condition state call ∧
        Meets condition calls (call.after code state)

variable {code}

theorem afterCalls_append (first second : List (Call ι)) (state : σ) :
    afterCalls code (first ++ second) state =
      afterCalls code second (afterCalls code first state) := by
  induction first generalizing state with
  | nil => rfl
  | cons call calls induction => exact induction (call.after code state)

theorem stateBefore_succ
    {calls : List (Call ι)} {index : Nat} {call : Call ι}
    (called : calls[index]? = some call) (state : σ) :
    stateBefore code calls state (index + 1) =
      call.after code (stateBefore code calls state index) := by
  rw [stateBefore, List.take_add_one, called, afterCalls_append]
  rfl

/-- After its last call a history rests. -/
theorem stateBefore_rests
    {calls : List (Call ι)} {index : Nat}
    (ended : calls[index]? = none) (state : σ) :
    stateBefore code calls state (index + 1) =
      stateBefore code calls state index := by
  rw [stateBefore, List.take_add_one, ended, Option.toList_none,
    List.append_nil]
  rfl

theorem afterCalls_induction
    {property : σ → Prop}
    (kept : ∀ (call : Call ι) (state : σ), property state →
      property (call.after code state))
    (calls : List (Call ι)) {state : σ} (holds : property state) :
    property (afterCalls code calls state) := by
  induction calls generalizing state with
  | nil => exact holds
  | cons call calls induction => exact induction (kept call state holds)

/-- `Throughout` is the property at every prefix of the history. -/
theorem throughout_iff_prefixes
    {property : σ → Prop} (calls : List (Call ι)) (state : σ) :
    Throughout code property calls state ↔
      ∀ before, before <+: calls →
        property (afterCalls code before state) := by
  induction calls generalizing state with
  | nil =>
      simp [Throughout, afterCalls]
  | cons call calls induction =>
      rw [Throughout, induction]
      constructor
      · rintro ⟨here, later⟩ before isBefore
        cases before with
        | nil => exact here
        | cons first rest =>
            obtain ⟨rfl, inTail⟩ := List.cons_prefix_cons.mp isBefore
            exact later rest inTail
      · intro every
        refine ⟨every [] List.nil_prefix, fun before isBefore => ?_⟩
        exact every (call :: before)
          (List.cons_prefix_cons.mpr ⟨rfl, isBefore⟩)

/--
When an invariant survives every call, and a call keeps the property exactly
when it meets the condition, a history keeps the property throughout exactly
when all its calls meet the condition.
-/
theorem throughout_iff_meets
    {invariant property : σ → Prop} {condition : σ → Call ι → Prop}
    (kept : ∀ (call : Call ι) (state : σ), invariant state →
      invariant (call.after code state))
    (precise : ∀ (call : Call ι) (state : σ),
      invariant state → property state →
      (property (call.after code state) ↔ condition state call))
    (calls : List (Call ι)) {state : σ}
    (sound : invariant state) (holds : property state) :
    Throughout code property calls state ↔
      Meets code condition calls state := by
  induction calls generalizing state with
  | nil => simp [Throughout, Meets, holds]
  | cons call calls induction =>
      simp only [Throughout, Meets, holds, true_and]
      constructor
      · intro later
        have next : property (call.after code state) := by
          cases calls with
          | nil => exact later
          | cons _ _ => exact later.1
        exact ⟨(precise call state sound holds).mp next,
          (induction (kept call state sound) next).mp later⟩
      · rintro ⟨meets, later⟩
        have next := (precise call state sound holds).mpr meets
        exact (induction (kept call state sound) next).mpr later

theorem meets_of_invariant
    (invariant : σ → Prop) {condition : σ → Call ι → Prop}
    {calls : List (Call ι)}
    (kept : ∀ call ∈ calls, ∀ state, invariant state →
      invariant (call.after code state))
    (meets : ∀ call ∈ calls, ∀ state, invariant state →
      condition state call)
    {state : σ} (sound : invariant state) :
    Meets code condition calls state := by
  induction calls generalizing state with
  | nil => trivial
  | cons call calls induction =>
      have here := List.mem_cons_self (a := call) (l := calls)
      refine ⟨meets call here state sound, ?_⟩
      exact induction
        (fun other member => kept other (List.mem_cons_of_mem _ member))
        (fun other member => meets other (List.mem_cons_of_mem _ member))
        (kept call here state sound)

end

end ScientificResourceLab.Steps
