import ScientificResourceLab.Contracts.Canonical
import ScientificResourceLab.Python.JsonSurvey

/-!
# Decoding and encoding again

`loads` and `dumps` of `srl.contracts.canonical` on documents whose number
literals are integers.  What `loads` returns can be encoded and decoded again
unless a string of it holds a lone surrogate, which the decoder accepts as an
escape and UTF-8 does not encode; and `loads` lets the `ValueError` of an
integer literal beyond the digit limit pass.

The condition is on the document: the literals that stand in it and the value
that it denotes, both by its survey (`reencodes_iff`).
-/

namespace ScientificResourceLab.Contracts

open Python

/-- A string without lone surrogates, or no string at all. -/
def ScalarString : Json → Prop
  | .str value => Scalars value
  | _ => True

/-- No lone surrogate in a string or a key. -/
def SurrogatesPaired (value : Json) : Prop :=
  value.All ScalarString fun keys => ∀ key ∈ keys, Scalars key

mutual

theorem writable_of_tidy
    (value : Json) (tidy : value.Tidy) (paired : SurrogatesPaired value) :
    Writable value := by
  cases value with
  | null => trivial
  | bool value => trivial
  | int value => exact tidy
  | float value => exact absurd tidy (by simp [Json.Tidy, Json.All,
      ShortInteger])
  | str value => exact paired
  | arr items => exact writableItems_of_tidy items tidy paired
  | obj members =>
      exact writableMembers_of_tidy members tidy.2 paired.2
        fun key isKey => paired.1 key isKey

theorem writableItems_of_tidy
    (items : List Json) (tidy : AllItems ShortInteger List.Nodup items)
    (paired : AllItems ScalarString
      (fun keys => ∀ key ∈ keys, Scalars key) items) :
    WritableItems items := by
  cases items with
  | nil => trivial
  | cons item rest =>
      exact ⟨writable_of_tidy item tidy.1 paired.1,
        writableItems_of_tidy rest tidy.2 paired.2⟩

theorem writableMembers_of_tidy
    (members : List (Text × Json))
    (tidy : AllMembers ShortInteger List.Nodup members)
    (paired : AllMembers ScalarString
      (fun keys => ∀ key ∈ keys, Scalars key) members)
    (keys : ∀ key ∈ members.map Prod.fst, Scalars key) :
    WritableMembers members := by
  cases members with
  | nil => trivial
  | cons member rest =>
      obtain ⟨key, value⟩ := member
      exact ⟨keys key List.mem_cons_self,
        writable_of_tidy value tidy.1 paired.1,
        writableMembers_of_tidy rest tidy.2 paired.2 fun other isKey =>
          keys other (List.mem_cons_of_mem _ isKey)⟩

end

mutual

theorem paired_of_writable (value : Json) (writable : Writable value) :
    SurrogatesPaired value := by
  cases value with
  | null | bool _ | int _ | float _ => trivial
  | str value => exact writable
  | arr items => exact pairedItems_of_writable items writable
  | obj members =>
      refine ⟨?_, pairedMembers_of_writable members writable⟩
      intro key isKey
      obtain ⟨member, isMember, rfl⟩ := List.mem_map.mp isKey
      exact (writableMembers_iff.mp writable member isMember).1

theorem pairedItems_of_writable
    (items : List Json) (writable : WritableItems items) :
    AllItems ScalarString (fun keys => ∀ key ∈ keys, Scalars key)
      items := by
  cases items with
  | nil => trivial
  | cons item rest =>
      exact ⟨paired_of_writable item writable.1,
        pairedItems_of_writable rest writable.2⟩

theorem pairedMembers_of_writable
    (members : List (Text × Json)) (writable : WritableMembers members) :
    AllMembers ScalarString (fun keys => ∀ key ∈ keys, Scalars key)
      members := by
  cases members with
  | nil => trivial
  | cons member rest =>
      exact ⟨paired_of_writable member.2 writable.2.1,
        pairedMembers_of_writable rest writable.2.2⟩

end

mutual

theorem distinct_of_tidy (value : Json) (tidy : value.Tidy) :
    value.Distinct := by
  cases value with
  | null | bool _ | int _ | float _ | str _ => trivial
  | arr items => exact distinctItems_of_tidy items tidy
  | obj members =>
      exact ⟨distinctMembers_of_tidy members tidy.2, tidy.1⟩

theorem distinctItems_of_tidy
    (items : List Json) (tidy : AllItems ShortInteger List.Nodup items) :
    DistinctItems items := by
  cases items with
  | nil => trivial
  | cons item rest =>
      exact ⟨distinct_of_tidy item tidy.1,
        distinctItems_of_tidy rest tidy.2⟩

theorem distinctMembers_of_tidy
    (members : List (Text × Json))
    (tidy : AllMembers ShortInteger List.Nodup members) :
    DistinctMembers members := by
  cases members with
  | nil => trivial
  | cons member rest =>
      exact ⟨distinct_of_tidy member.2 tidy.1,
        distinctMembers_of_tidy rest tidy.2⟩

end

mutual

/-- A value in the order of its keys is its own sorted form. -/
theorem sorted_of_plain (value : Json) (plain : value.Plain) :
    value.sorted = value := by
  cases value with
  | null | bool _ | int _ | float _ | str _ => rfl
  | arr items => rw [Json.sorted, sortedItems_of_plain items plain]
  | obj members =>
      have increasing := List.pairwise_map.mp plain.2
      have inOrder : members.Pairwise KeyLe :=
        increasing.imp fun less => le_of_lt less
      rw [Json.sorted, sortedMembers_of_plain members plain.1,
        inOrder.insertionSort_eq]

theorem sortedItems_of_plain (items : List Json)
    (plain : PlainItems items) : sortedItems items = items := by
  cases items with
  | nil => rfl
  | cons item rest =>
      rw [sortedItems, sorted_of_plain item plain.1,
        sortedItems_of_plain rest plain.2]

theorem sortedMembers_of_plain (members : List (Text × Json))
    (plain : PlainMembers members) : sortedMembers members = members := by
  cases members with
  | nil => rfl
  | cons member rest =>
      rw [sortedMembers, sorted_of_plain member.2 plain.1,
        sortedMembers_of_plain rest plain.2]

end

/-! ## Reading back -/

/--
Decoding raises a `CanonicalJSONError`, or it returns a value that is encoded
and decoded again as an equal one; the order of the members of a dict does not
count.
-/
def Reencodes (data : Bytes) : Prop :=
  (∃ error, loads data = .error error ∧
    error.kind = .canonicalJsonError) ∨
    ∃ value encoded decoded, loads data = .ok value ∧
      dumps value = .ok encoded ∧ loads encoded = .ok decoded ∧
      decoded.sorted = value.sorted

/-- A document whose number literals are integers. -/
def IntegersOnly (data : Bytes) : Prop :=
  ∀ document, utf8Decode data = some document →
    .fractional ∉ (surveyText document).literals

/-- Integer literals within the limit, and no lone surrogate in the value
that the document denotes. -/
def Encodable (data : Bytes) : Prop :=
  ∀ document, utf8Decode data = some document →
    ¬ Overlong (surveyText document).literals ∧
      ∀ value, (surveyText document).result = some value →
        SurrogatesPaired value

/-- The decoder's outcome on a document with an over-long integer. -/
theorem loadsText_overlong
    {document : Text}
    (overlong : Overlong (surveyText document).literals) :
    loadsText document = .error (raised .valueError
      "Exceeds the limit for integer string conversion") := by
  rw [loadsText, (parseText_agrees document).overlong overlong]

theorem loadsText_value
    {document : Text} (short : ¬ Overlong (surveyText document).literals)
    {value : Json} (isValue : (surveyText document).result = some value) :
    loadsText document = .ok value := by
  rw [loadsText, (parseText_agrees document).value short value isValue]

theorem loadsText_mistake
    {document : Text} (short : ¬ Overlong (surveyText document).literals)
    (isMistake : (surveyText document).result = none) :
    ∃ error, loadsText document = .error error ∧
      error.kind = .canonicalJsonError := by
  obtain ⟨failure, isFailure, notValue⟩ :=
    (parseText_agrees document).mistake short isMistake
  cases failure with
  | decode => exact ⟨_, by rw [loadsText, isFailure], rfl⟩
  | constant => exact ⟨_, by rw [loadsText, isFailure], rfl⟩
  | value => exact absurd rfl notValue

theorem shortLiterals_of
    {document : Text}
    (integers : .fractional ∉ (surveyText document).literals)
    (short : ¬ Overlong (surveyText document).literals) :
    ShortLiterals (surveyText document).literals := by
  intro literal member
  cases literal with
  | fractional => exact absurd member integers
  | integer digits =>
      refine ⟨digits, rfl, ?_⟩
      by_contra long
      exact short ⟨digits, member, Nat.lt_of_not_le long⟩

theorem reads_back
    {value : Json} (tidy : value.Tidy) (paired : SurrogatesPaired value) :
    ∃ encoded decoded, dumps value = .ok encoded ∧
      loads encoded = .ok decoded ∧ decoded.sorted = value.sorted := by
  have distinct := distinct_of_tidy value tidy
  obtain ⟨encoded, dumped⟩ :=
    dumps_of_writable (writable_of_tidy value tidy paired)
  exact ⟨encoded, value.sorted, dumped, loads_dumps_sorted distinct dumped,
    sorted_of_plain _ (plain_sorted value distinct)⟩

/--
On documents whose number literals are integers, decoding either raises a
`CanonicalJSONError` or returns a value that is encoded and read back, exactly
when the integer literals are within the digit limit and the denoted value
holds no lone surrogate.
-/
theorem reencodes_iff (data : Bytes) (integers : IntegersOnly data) :
    Reencodes data ↔ Encodable data := by
  cases decoded : utf8Decode data with
  | none =>
      refine iff_of_true (.inl ⟨_, by rw [loads, decoded], rfl⟩) ?_
      intro document isDocument
      rw [decoded] at isDocument
      cases isDocument
  | some document =>
      have isLoads : loads data = loadsText document := by
        rw [loads, decoded]
      have noFraction := integers document decoded
      constructor
      · intro reencodes other isDocument
        cases decoded.symm.trans isDocument
        have short : ¬ Overlong (surveyText document).literals := by
          intro overlong
          have raises := isLoads.trans (loadsText_overlong overlong)
          rcases reencodes with ⟨error, isError, kind⟩ |
            ⟨value, _, _, isValue, -⟩
          · cases raises.symm.trans isError
            cases kind
          · cases raises.symm.trans isValue
        refine ⟨short, fun value isValue => ?_⟩
        have returns := isLoads.trans (loadsText_value short isValue)
        rcases reencodes with ⟨error, isError, -⟩ |
          ⟨other, encoded, _, isOther, dumped, -⟩
        · cases returns.symm.trans isError
        · cases returns.symm.trans isOther
          exact paired_of_writable value (writable_of_dumps dumped)
      · intro encodable
        obtain ⟨short, paired⟩ := encodable document decoded
        cases isResult : (surveyText document).result with
        | none =>
            obtain ⟨error, isError, kind⟩ :=
              loadsText_mistake short isResult
            exact .inl ⟨error, isLoads.trans isError, kind⟩
        | some value =>
            have tidy := survey_tidy (shortLiterals_of noFraction short)
              isResult
            obtain ⟨encoded, again, dumped, read, same⟩ :=
              reads_back tidy (paired value isResult)
            exact .inr ⟨value, encoded, again,
              isLoads.trans (loadsText_value short isResult), dumped, read,
              same⟩

theorem integersOnly_of_survey
    {data : Bytes} {document : Text}
    (decoded : utf8Decode data = some document)
    (integers : .fractional ∉ (surveyText document).literals) :
    IntegersOnly data := by
  intro other isOther
  cases decoded.symm.trans isOther
  exact integers

/-- The document of an object with one integer. -/
def oneMember : Bytes :=
  (utf8Encode (text "\x7b\"a\": 1\x7d")).getD []

theorem oneMember_reencodes_iff :
    IntegersOnly oneMember ∧
      (Reencodes oneMember ↔ Encodable oneMember) := by
  have decoded : utf8Decode oneMember = some (text "\x7b\"a\": 1\x7d") := by
    decide +kernel
  have integers : IntegersOnly oneMember :=
    integersOnly_of_survey decoded (by decide +kernel)
  exact ⟨integers, reencodes_iff oneMember integers⟩

/-- The document of a lone surrogate, written as an escape. -/
def loneSurrogate : Bytes :=
  (utf8Encode (text "\"\\ud800\"")).getD []

/-- Decoding returns a value that encoding does not take. -/
def decodedOnly (data : Bytes) : Bool :=
  match loads data with
  | .ok value => !(dumps value).isOk
  | .error _ => false

theorem not_reencodes_of_decodedOnly
    {data : Bytes} (only : decodedOnly data = true) : ¬ Reencodes data := by
  rintro (⟨error, isError, -⟩ | ⟨value, encoded, _, isValue, dumped, -⟩)
  · rw [decodedOnly, isError] at only
    cases only
  · rw [decodedOnly, isValue] at only
    simp only [dumped] at only
    cases only

/-- A lone surrogate is decoded and not encoded again. -/
theorem loneSurrogate_not_reencoded :
    ¬ ∀ data, IntegersOnly data → Reencodes data := by
  intro reencodes
  have decoded : utf8Decode loneSurrogate =
      some (text "\"\\ud800\"") := by
    decide +kernel
  have integers : IntegersOnly loneSurrogate :=
    integersOnly_of_survey decoded (by decide +kernel)
  have only : decodedOnly loneSurrogate = true := by
    decide +kernel
  exact not_reencodes_of_decodedOnly only (reencodes loneSurrogate integers)

end ScientificResourceLab.Contracts
