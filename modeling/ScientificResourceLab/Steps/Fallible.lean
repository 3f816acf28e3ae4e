import Mathlib.Data.List.Forall2
import Mathlib.Logic.Basic

/-!
# Inverting successful computations

Code with exceptions is a `do` block in `Except`.  The rules below turn the
statement that such a block returned into the statements that its parts
returned, so a proof peels a computation apart without unfolding it.
-/

namespace ScientificResourceLab.Steps

universe u v

/-- Raise when a condition holds, and go on otherwise. -/
def refuseIf
    {ε : Type u} (condition : Prop) [Decidable condition] (error : ε) :
    Except ε PUnit :=
  if condition then .error error else .ok ⟨⟩

variable {ε : Type u} {α β : Type v}

/-- A sequence returns when its parts do. -/
@[simp]
theorem bind_eq_ok_iff
    {first : Except ε α} {rest : α → Except ε β} {result : β} :
    first >>= rest = .ok result ↔
      ∃ value, first = .ok value ∧ rest value = .ok result := by
  cases first with
  | error error => simp [bind, Except.bind]
  | ok value => simp [bind, Except.bind]

/-- A value is passed on. -/
theorem ok_bind (value : α) (rest : α → Except ε β) :
    (Except.ok value >>= rest) = rest value :=
  rfl

@[simp]
theorem pure_eq_ok_iff {value result : α} :
    (pure value : Except ε α) = .ok result ↔ value = result := by
  simp [pure, Except.pure]

@[simp]
theorem throw_eq_ok_iff {error : ε} {result : α} :
    (throw error : Except ε α) = .ok result ↔ False := by
  simp [throw, throwThe, MonadExceptOf.throw]

/-- A guard returns when its condition fails. -/
@[simp]
theorem refuseIf_eq_ok_iff
    {condition : Prop} [Decidable condition] {error : ε} {result : PUnit} :
    refuseIf condition error = .ok result ↔ ¬ condition := by
  by_cases holds : condition <;> simp [refuseIf, holds]

/-- A loop over a list that returned has the results of its items. -/
theorem mapM_eq_ok
    {items : List α} {body : α → Except ε β} {results : List β}
    (returned : items.mapM body = .ok results) :
    (∀ item ∈ items, ∃ result ∈ results, body item = .ok result) ∧
      ∀ result ∈ results, ∃ item ∈ items, body item = .ok result := by
  induction items generalizing results with
  | nil =>
      rw [List.mapM_nil, pure_eq_ok_iff] at returned
      subst returned
      simp
  | cons item items induction =>
      simp only [List.mapM_cons, bind_eq_ok_iff, pure_eq_ok_iff]
        at returned
      obtain ⟨first, isFirst, rest, isRest, rfl⟩ := returned
      obtain ⟨forward, backward⟩ := induction isRest
      constructor
      · intro other member
        rcases List.mem_cons.mp member with rfl | inRest
        · exact ⟨first, List.mem_cons_self, isFirst⟩
        · obtain ⟨result, isResult, ran⟩ := forward other inRest
          exact ⟨result, List.mem_cons_of_mem _ isResult, ran⟩
      · intro result member
        rcases List.mem_cons.mp member with rfl | inRest
        · exact ⟨item, List.mem_cons_self, isFirst⟩
        · obtain ⟨other, isItem, ran⟩ := backward result inRest
          exact ⟨other, List.mem_cons_of_mem _ isItem, ran⟩

/-- A loop whose results carry their item keeps the items. -/
theorem mapM_keys
    {items : List α} {body : α → Except ε β}
    {key : β → α} {results : List β}
    (keyed : ∀ item result, body item = .ok result → key result = item)
    (returned : items.mapM body = .ok results) :
    results.map key = items := by
  induction items generalizing results with
  | nil =>
      rw [List.mapM_nil, pure_eq_ok_iff] at returned
      subst returned
      rfl
  | cons item items induction =>
      simp only [List.mapM_cons, bind_eq_ok_iff, pure_eq_ok_iff]
        at returned
      obtain ⟨head, isHead, rest, isRest, rfl⟩ := returned
      rw [List.map_cons, keyed item head isHead, induction isRest]

/-- Loop bodies that keep a label keep it over the list. -/
theorem map_of_mapM
    {γ : Type*} {items : List α} {body : α → Except ε β}
    {name : α → γ} {label : β → γ} {results : List β}
    (labelled : ∀ item result, body item = .ok result →
      label result = name item)
    (returned : items.mapM body = .ok results) :
    results.map label = items.map name := by
  induction items generalizing results with
  | nil =>
      rw [List.mapM_nil, pure_eq_ok_iff] at returned
      rw [← returned]
      rfl
  | cons item items induction =>
      rw [List.mapM_cons] at returned
      simp only [bind_eq_ok_iff, pure_eq_ok_iff] at returned
      rcases returned with ⟨result, isResult, rest, isRest, rfl⟩
      rw [List.map_cons, List.map_cons, labelled item result isResult,
        induction isRest]

/-- A loop returns when its body does for every item. -/
theorem mapM_ok_of_forall
    {items : List α} {body : α → Except ε β}
    (each : ∀ item ∈ items, ∃ result, body item = .ok result) :
    ∃ results, items.mapM body = .ok results := by
  induction items with
  | nil => exact ⟨[], List.mapM_nil⟩
  | cons item items induction =>
      obtain ⟨first, isFirst⟩ := each item List.mem_cons_self
      obtain ⟨rest, isRest⟩ := induction fun other member =>
        each other (List.mem_cons_of_mem _ member)
      refine ⟨first :: rest, ?_⟩
      simp only [List.mapM_cons, bind_eq_ok_iff, pure_eq_ok_iff]
      exact ⟨first, isFirst, rest, isRest, rfl⟩

/-- A loop whose body returns on every item returns its values. -/
theorem mapM_of_forall_ok
    {items : List α} {body : α → Except ε β} {value : α → β}
    (each : ∀ item ∈ items, body item = .ok (value item)) :
    items.mapM body = .ok (items.map value) := by
  induction items with
  | nil => exact List.mapM_nil
  | cons item items induction =>
      have rest := induction fun other member =>
        each other (List.mem_cons_of_mem _ member)
      rw [List.mapM_cons, each item List.mem_cons_self, rest]
      rfl

theorem length_of_mapM
    {items : List α} {body : α → Except ε β}
    {results : List β} (returned : items.mapM body = .ok results) :
    results.length = items.length := by
  induction items generalizing results with
  | nil =>
      rw [List.mapM_nil, pure_eq_ok_iff] at returned
      rw [← returned]
      rfl
  | cons item items induction =>
      simp only [List.mapM_cons, bind_eq_ok_iff, pure_eq_ok_iff]
        at returned
      obtain ⟨head, -, rest, isRest, rfl⟩ := returned
      rw [List.length_cons, List.length_cons, induction isRest]

/-- Two loops with the same results agree on every item. -/
theorem mapM_agree
    {items : List α} {first second : α → Except ε β}
    {results : List β} (fromFirst : items.mapM first = .ok results)
    (fromSecond : items.mapM second = .ok results) :
    ∀ item ∈ items, ∃ result,
      first item = .ok result ∧ second item = .ok result := by
  induction items generalizing results with
  | nil => simp
  | cons item items induction =>
      simp only [List.mapM_cons, bind_eq_ok_iff, pure_eq_ok_iff]
        at fromFirst fromSecond
      obtain ⟨head, isHead, rest, isRest, rfl⟩ := fromFirst
      obtain ⟨_, alsoHead, _, alsoRest, same⟩ := fromSecond
      obtain ⟨rfl, rfl⟩ := List.cons.inj same
      rintro other member
      rcases List.mem_cons.mp member with rfl | later
      · exact ⟨_, isHead, alsoHead⟩
      · exact induction isRest alsoRest other later

theorem mapM_perm
    {items reordered : List α} {body : α → Except ε β}
    (perm : items.Perm reordered) {results : List β}
    (returned : items.mapM body = .ok results) :
    ∃ others, reordered.mapM body = .ok others ∧ results.Perm others := by
  induction perm generalizing results with
  | nil => exact ⟨results, returned, .refl _⟩
  | cons item _ induction =>
      simp only [List.mapM_cons, bind_eq_ok_iff, pure_eq_ok_iff]
        at returned ⊢
      obtain ⟨head, isHead, rest, isRest, rfl⟩ := returned
      obtain ⟨others, isOthers, same⟩ := induction isRest
      exact ⟨_, ⟨head, isHead, others, isOthers, rfl⟩, same.cons head⟩
  | swap left right items =>
      simp only [List.mapM_cons, bind_eq_ok_iff, pure_eq_ok_iff]
        at returned ⊢
      obtain ⟨first, isFirst, _, ⟨second, isSecond, rest, isRest, rfl⟩,
        rfl⟩ := returned
      exact ⟨_, ⟨second, isSecond, _, ⟨first, isFirst, rest, isRest, rfl⟩,
        rfl⟩, .swap _ _ _⟩
  | trans _ _ first second =>
      obtain ⟨middle, isMiddle, toMiddle⟩ := first returned
      obtain ⟨others, isOthers, toOthers⟩ := second isMiddle
      exact ⟨others, isOthers, toMiddle.trans toOthers⟩

/-! ## Classes of errors -/

/-- Every error that a computation can stop with is allowed. -/
def RaisesOnly (allowed : ε → Prop) (result : Except ε α) : Prop :=
  ∀ error, result = .error error → allowed error

variable {allowed : ε → Prop}

theorem raisesOnly_ok (value : α) :
    RaisesOnly allowed (.ok value : Except ε α) := by
  rintro error ⟨⟩

theorem raisesOnly_error {error : ε} (isAllowed : allowed error) :
    RaisesOnly allowed (.error error : Except ε α) := by
  rintro _ ⟨⟩
  exact isAllowed

/-- A sequence raises what its parts raise. -/
theorem raisesOnly_bind
    {first : Except ε α} {rest : α → Except ε β}
    (head : RaisesOnly allowed first)
    (tail : ∀ value, first = .ok value →
      RaisesOnly allowed (rest value)) :
    RaisesOnly allowed (first >>= rest) := by
  cases first with
  | error error => exact raisesOnly_error (head error rfl)
  | ok value => exact tail value rfl

theorem raisesOnly_mapM
    {items : List α} {body : α → Except ε β}
    (each : ∀ item ∈ items, RaisesOnly allowed (body item)) :
    RaisesOnly allowed (items.mapM body) := by
  induction items with
  | nil =>
      rw [List.mapM_nil]
      exact raisesOnly_ok []
  | cons item items induction =>
      rw [List.mapM_cons]
      apply raisesOnly_bind (each item List.mem_cons_self)
      intro first _
      apply raisesOnly_bind
        (induction fun other member =>
          each other (List.mem_cons_of_mem _ member))
      intro rest _
      exact raisesOnly_ok _

theorem raisesOnly_refuseIf
    {condition : Prop} [Decidable condition] {error : ε}
    (isAllowed : allowed error) :
    RaisesOnly allowed (refuseIf condition error) := by
  rw [refuseIf]
  split
  · exact raisesOnly_error isAllowed
  · exact raisesOnly_ok _

theorem raisesOnly_error_iff {error : ε} :
    RaisesOnly allowed (.error error : Except ε α) ↔ allowed error := by
  constructor
  · intro raises
    exact raises error rfl
  · exact raisesOnly_error

/-- A sequence raises what its parts raise. -/
theorem raisesOnly_bind_iff
    {first : Except ε α} {rest : α → Except ε β} :
    RaisesOnly allowed (first >>= rest) ↔
      RaisesOnly allowed first ∧
        ∀ value, first = .ok value → RaisesOnly allowed (rest value) := by
  constructor
  · intro raises
    cases first with
    | error error =>
        exact ⟨raisesOnly_error (raises error rfl),
          fun _ isValue => nomatch isValue⟩
    | ok value =>
        refine ⟨raisesOnly_ok value, ?_⟩
        rintro _ ⟨⟩
        exact raises
  · rintro ⟨head, tail⟩
    exact raisesOnly_bind head tail

/-- A loop raises what its body raises on the first item it stops at. -/
theorem raisesOnly_mapM_iff
    {items : List α} {body : α → Except ε β} :
    RaisesOnly allowed (items.mapM body) ↔
      ∀ before item after, items = before ++ item :: after →
        (∀ earlier ∈ before, ∃ result, body earlier = .ok result) →
          RaisesOnly allowed (body item) := by
  induction items with
  | nil =>
      rw [List.mapM_nil]
      constructor
      · intro _ before item after isSplit
        exact absurd isSplit (by simp)
      · intro _
        exact raisesOnly_ok []
  | cons first rest induction =>
      rw [List.mapM_cons, raisesOnly_bind_iff]
      constructor
      · rintro ⟨head, tail⟩ before item after isSplit passed
        cases before with
        | nil =>
            cases isSplit
            exact head
        | cons earlier before =>
            cases isSplit
            obtain ⟨result, isResult⟩ := passed _ List.mem_cons_self
            have loop := (raisesOnly_bind_iff.mp (tail _ isResult)).1
            exact induction.mp loop before item after rfl
              fun other isOther => passed other
                (List.mem_cons_of_mem _ isOther)
      · intro each
        refine ⟨each [] first rest rfl (by simp), ?_⟩
        intro result isResult
        refine raisesOnly_bind (induction.mpr ?_) fun _ _ => raisesOnly_ok _
        intro before item after isSplit passed
        refine each (first :: before) item after (by rw [isSplit]; rfl) ?_
        intro earlier isEarlier
        rcases List.mem_cons.mp isEarlier with rfl | inRest
        · exact ⟨result, isResult⟩
        · exact passed earlier inRest

/-! ## Checks before the rest -/

section

variable {ε β : Type} {rest : Unit → Except ε β}

/-- A check and the rest return when the check passes and the rest returns. -/
theorem check_bind_eq_ok_iff {check : Except ε Unit} {result : β} :
    check >>= rest = .ok result ↔ check = .ok () ∧ rest () = .ok result := by
  rw [bind_eq_ok_iff]
  exact ⟨fun ⟨(), passes, returned⟩ => ⟨passes, returned⟩,
    fun ⟨passes, returned⟩ => ⟨(), passes, returned⟩⟩

end

end ScientificResourceLab.Steps
