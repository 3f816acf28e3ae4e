import ScientificResourceLab.Steps.History

/-!
# Programs that keep an invariant

`Sustains invariant fact program` says that the program, started where the
invariant holds, passes only through states where it holds, and that a value
it returns has the fact.  The fact is about the value alone, so it survives
whatever happens to the state later; this is how a record that was read from
the state is known to be sound when it is written back.
-/

namespace ScientificResourceLab.Steps

universe u v w x

namespace Program

variable {σ : Type u} {ε : Type v} {α β : Type w}

/-- What holds when a program that keeps an invariant ends. -/
def SustainedPost (invariant : σ → Prop) (fact : α → Prop)
    (result : Except ε α) (state : σ) : Prop :=
  invariant state ∧ ∀ value, result = .ok value → fact value

/-- The invariant holds after every write, and the fact of the result. -/
def Sustains (invariant : σ → Prop) (fact : α → Prop)
    (program : Program σ ε α) : Prop :=
  ∀ state, invariant state →
    program.Safe (fun _ after => invariant after)
      (SustainedPost invariant fact) state

variable {invariant : σ → Prop} {fact : α → Prop} {other : β → Prop}

theorem sustains_pure {value : α} (holds : fact value) :
    Sustains (ε := ε) invariant fact (pure value) := by
  intro state sound
  refine ⟨sound, fun result isResult => ?_⟩
  cases isResult
  exact holds

theorem sustains_throw (error : ε) :
    Sustains invariant fact (throw error : Program σ ε α) :=
  fun _ sound => ⟨sound, fun _ isResult => nomatch isResult⟩

theorem sustains_compute
    {result : Except ε α} (holds : ∀ value, result = .ok value → fact value) :
    Sustains invariant fact (compute result : Program σ ε α) := by
  intro state sound
  rw [safe_compute]
  exact ⟨sound, holds⟩

theorem sustains_observe
    {view : σ → α} (holds : ∀ state, invariant state → fact (view state)) :
    Sustains (ε := ε) invariant fact (observe view) := by
  intro state sound
  refine ⟨sound, fun value isValue => ?_⟩
  cases isValue
  exact holds state sound

theorem sustains_update
    {action : σ → σ}
    (kept : ∀ state, invariant state → invariant (action state)) :
    Sustains (ε := ε) invariant (fun _ => True) (update action) :=
  fun state sound =>
    ⟨kept state sound, kept state sound, fun _ _ => trivial⟩

theorem sustains_bind
    {program : Program σ ε α} {rest : α → Program σ ε β}
    (head : program.Sustains invariant fact)
    (tail : ∀ value, fact value → (rest value).Sustains invariant other) :
    (program >>= rest).Sustains invariant other := by
  intro state sound
  rw [safe_bind]
  refine (head state sound).mono (fun _ _ step => step) ?_
  intro result final kept
  cases result with
  | ok value => exact tail value (kept.2 value rfl) final kept.1
  | error error => exact ⟨kept.1, fun _ isResult => nomatch isResult⟩

/-- Go on after a program whose result does not matter. -/
theorem sustains_then
    {program : Program σ ε α} {rest : α → Program σ ε β}
    (head : program.Sustains invariant fun _ => True)
    (tail : ∀ value, (rest value).Sustains invariant other) :
    (program >>= rest).Sustains invariant other :=
  sustains_bind head fun value _ => tail value

/-- Go on with a computed value. -/
theorem sustains_compute_then
    {result : Except ε α} {rest : α → Program σ ε β}
    (tail : ∀ value, result = .ok value →
      (rest value).Sustains invariant other) :
    (compute result >>= rest).Sustains invariant other :=
  sustains_bind (sustains_compute fun _ isResult => isResult) tail

/-- Go on with a value read from the state. -/
theorem sustains_observe_then
    {view : σ → α} {rest : α → Program σ ε β}
    (tail : ∀ state, invariant state →
      (rest (view state)).Sustains invariant other) :
    (observe view >>= rest).Sustains invariant other := by
  have seen : (observe (ε := ε) view).Sustains invariant
      fun value => ∃ state, invariant state ∧ value = view state :=
    sustains_observe fun state sound => ⟨state, sound, rfl⟩
  refine sustains_bind seen ?_
  rintro _ ⟨state, sound, rfl⟩
  exact tail state sound

/-- A handler that keeps the invariant may follow any error. -/
theorem sustains_tryCatch
    {program : Program σ ε α} {handler : ε → Program σ ε α}
    (guarded : program.Sustains invariant fact)
    (handled : ∀ error, (handler error).Sustains invariant fact) :
    (tryCatch program handler).Sustains invariant fact := by
  intro state sound
  rw [safe_tryCatch]
  refine (guarded state sound).mono (fun _ _ step => step) ?_
  intro result final kept
  cases result with
  | ok value => exact kept
  | error error => exact handled error final kept.1

theorem sustains_inspect
    {view : σ → Except ε α}
    (holds : ∀ state value, invariant state → view state = .ok value →
      fact value) :
    Sustains invariant fact (inspect view) := by
  intro state sound
  rw [safe_inspect]
  exact ⟨sound, fun value => holds state value sound⟩

theorem sustains_ite
    {condition : Prop} [Decidable condition]
    {first second : Program σ ε α}
    (holds : condition → first.Sustains invariant fact)
    (fails : ¬ condition → second.Sustains invariant fact) :
    (if condition then first else second).Sustains invariant fact := by
  split_ifs with decided
  · exact holds decided
  · exact fails decided

end Program

/-- A history of calls that keep an invariant keeps it, cut or not. -/
theorem afterCalls_of_sustains
    {σ : Type u} {ε : Type v} {ι : Type x} {α : ι → Type w}
    {code : (operation : ι) → Program σ ε (α operation)}
    {invariant : σ → Prop} {calls : List (Call ι)}
    (sustains : ∀ call ∈ calls, (code call.operation).Sustains invariant
      fun _ => True)
    {state : σ} (sound : invariant state) :
    invariant (afterCalls code calls state) := by
  induction calls generalizing state with
  | nil => exact sound
  | cons call calls induction =>
      have safe := sustains call List.mem_cons_self state sound
      refine induction
        (fun later member => sustains later (List.mem_cons_of_mem _ member)) ?_
      cases call with
      | complete operation => exact safe.run_post.1
      | crashed operation writes =>
          exact Program.holds_of_reaches invariant
            (safe.crash_reaches writes) (fun _ _ after _ => after) sound

end ScientificResourceLab.Steps
