import ScientificResourceLab.Contracts.Canonical
import ScientificResourceLab.Python.JsonAscii

/-!
# ASCII documents

What `json.dumps` writes with `ensure_ascii` has no surrogates, whatever the
strings of the value are, so it is always encoded; and it is read back with
the surrogate pairs of every string joined (`asciiText_readBack`).
-/

namespace ScientificResourceLab.Contracts

open Python

theorem scalars_unicodeEscape (unit : Nat) :
    Scalars (unicodeEscape unit) := by
  rw [unicodeEscape, scalars_append]
  refine ⟨scalars_text _, ?_⟩
  simp only [scalars_cons, hexPoint_scalar, scalars_nil, and_self]

/-- An escape has no surrogates, even that of a surrogate. -/
theorem scalars_asciiPoint (point : CodePoint) :
    Scalars (asciiPoint point) := by
  rw [asciiPoint]
  split_ifs with isAscii basic
  · apply scalars_escapePoint
    simp only [CodePoint.isSurrogate, Bool.and_eq_false_imp,
      decide_eq_true_eq, decide_eq_false_iff_not]
    omega
  · exact scalars_unicodeEscape _
  · exact scalars_append.mpr
      ⟨scalars_unicodeEscape _, scalars_unicodeEscape _⟩

/-! ## Layouts -/

/-- A layout whose own texts have no surrogates. -/
structure Layout.Scalar (layout : Layout) : Prop where
  escape : ∀ point, Scalars (layout.escape point)
  join : ∀ {texts}, (∀ item ∈ texts, Scalars item) →
    Scalars (layout.join texts)
  colon : Scalars layout.colon
  float : ∀ {value written}, layout.float value = some written →
    Scalars written

section

variable {layout : Layout}

theorem Layout.Scalar.stringText (scalar : Layout.Scalar layout)
    (value : Text) : Scalars (stringTextWith layout.escape value) := by
  rw [stringTextWith, scalars_cons, scalars_append, scalars_cons]
  refine ⟨by decide, ?_, by decide, scalars_nil⟩
  intro point isPoint
  obtain ⟨source, _, isEscape⟩ := List.mem_flatMap.mp isPoint
  exact scalar.escape source point isEscape

mutual

/-- What is written has no surrogates, whatever the strings are. -/
theorem scalars_writeText (scalar : Layout.Scalar layout)
    (value : Json) {written : Text}
    (writes : writeText layout value = some written) :
    Scalars written := by
  cases value with
  | null =>
      cases writes
      exact scalars_text _
  | bool value =>
      cases value <;> cases writes <;> exact scalars_text _
  | int value =>
      rw [writeText] at writes
      split_ifs at writes
      cases writes
      exact scalars_intText value
  | float value => exact scalar.float writes
  | str value =>
      cases writes
      exact scalar.stringText value
  | arr items =>
      simp only [writeText, Option.bind_eq_bind, Option.bind_eq_some_iff,
        Option.pure_def, Option.some.injEq] at writes
      obtain ⟨texts, listed, rfl⟩ := writes
      rw [scalars_cons, scalars_append, scalars_cons]
      exact ⟨by decide,
        scalar.join (scalars_writeItems scalar items listed), by decide,
        scalars_nil⟩
  | obj members =>
      simp only [writeText, Option.bind_eq_bind, Option.bind_eq_some_iff,
        Option.pure_def, Option.some.injEq] at writes
      obtain ⟨texts, listed, rfl⟩ := writes
      rw [scalars_cons, scalars_append, scalars_cons]
      refine ⟨by decide, scalar.join ?_, by decide, scalars_nil⟩
      intro item isItem
      obtain ⟨member, isMember, rfl⟩ := List.mem_map.mp isItem
      have value := scalars_writeMembers scalar members listed member
        ((List.mem_insertionSort KeyLe).mp isMember)
      rw [scalars_append, scalars_append]
      exact ⟨scalar.stringText _, scalar.colon, value⟩

theorem scalars_writeItems (scalar : Layout.Scalar layout)
    (items : List Json) {texts : List Text}
    (writes : writeItems layout items = some texts) :
    ∀ item ∈ texts, Scalars item := by
  cases items with
  | nil =>
      cases writes
      exact fun _ isItem => absurd isItem List.not_mem_nil
  | cons item rest =>
      simp only [writeItems, Option.bind_eq_bind, Option.bind_eq_some_iff,
        Option.pure_def, Option.some.injEq] at writes
      obtain ⟨head, headWrites, tail, tailWrites, rfl⟩ := writes
      exact List.forall_mem_cons.mpr
        ⟨scalars_writeText scalar item headWrites,
          scalars_writeItems scalar rest tailWrites⟩

theorem scalars_writeMembers (scalar : Layout.Scalar layout)
    (members : List (Text × Json)) {texts : List (Text × Text)}
    (writes : writeMembers layout members = some texts) :
    ∀ member ∈ texts, Scalars member.2 := by
  cases members with
  | nil =>
      cases writes
      exact fun _ isMember => absurd isMember List.not_mem_nil
  | cons member rest =>
      cases member with
      | mk key value =>
          simp only [writeMembers, Option.bind_eq_bind,
            Option.bind_eq_some_iff, Option.pure_def, Option.some.injEq]
            at writes
          obtain ⟨head, headWrites, tail, tailWrites, rfl⟩ := writes
          exact List.forall_mem_cons.mpr
            ⟨scalars_writeText scalar value headWrites,
              scalars_writeMembers scalar rest tailWrites⟩

end

end

theorem scalar_compact_ascii : Layout.Scalar (compact asciiPoint) where
  escape := scalars_asciiPoint
  join := scalars_joinComma
  colon := scalars_text ":"
  float := by
    intro value written writes
    simp only [compact] at writes
    split_ifs at writes
    cases writes
    exact scalars_repr value

/-- What is written with `ensure_ascii` has no surrogates. -/
theorem scalars_asciiText
    (value : Json) {written : Text}
    (dumped : dumpTextWith asciiPoint value = some written) :
    Scalars written :=
  scalars_writeText scalar_compact_ascii value dumped

/-- A document with a final newline is encoded, and what is read from the
bytes is the value with the surrogate pairs of every string joined. -/
theorem asciiText_readBack
    {value : Json} (distinct : value.Distinct) {written : Text}
    (dumped : asciiText value = some written) :
    ∃ encoded, utf8Encode (written ++ text "\n") = some encoded ∧
      utf8Decode encoded = some (written ++ text "\n") ∧
      parseText true (written ++ text "\n") =
        .ok (value.sorted.reread joinPairs) := by
  obtain ⟨encoded, encodes⟩ := utf8Encode_of_scalars
    (scalars_append.mpr ⟨scalars_asciiText value dumped, scalars_text "\n"⟩)
  refine ⟨encoded, encodes, utf8Decode_utf8Encode encodes, ?_⟩
  refine parseText_dumpTextWith true readsStrings_ascii
    (plain_sorted value distinct) ?_ (.inr rfl)
  rw [dumpTextWith_sorted]
  exact dumped

end ScientificResourceLab.Contracts
