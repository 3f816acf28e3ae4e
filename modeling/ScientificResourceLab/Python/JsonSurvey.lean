import ScientificResourceLab.Python.JsonOrder

/-!
# What stands in a document

A survey reads a JSON document without the interpreter's limits and notes the
number literals it meets, up to the end or the first mistake.  It gives the
value that the document denotes, if it is one, and knows nothing of the limit
on the digits of an integer.

The decoder agrees with it (`parseText_agrees`): where no integer literal is
too long the two have the same outcome, and otherwise the decoder stops with
the error of the limit.  A document of short integer literals alone denotes a
value whose integers are short, that has no floats and whose objects have
distinct keys (`survey_tidy`).
-/

namespace ScientificResourceLab.Python

/-! ## Surveys -/

/-- A number literal in a document. -/
inductive NumberLiteral where
  | integer (digits : Text)
  | fractional
deriving DecidableEq

/-- The literals that were met and the outcome, `none` after a mistake. -/
structure Survey (α : Type) where
  literals : List NumberLiteral
  result : Option α

/-- Nothing more is read after a mistake. -/
def Survey.bind {α β : Type} (survey : Survey α) (next : α → Survey β) :
    Survey β :=
  match survey.result with
  | some value =>
      ⟨survey.literals ++ (next value).literals, (next value).result⟩
  | none => ⟨survey.literals, none⟩

instance : Monad Survey where
  pure value := ⟨[], some value⟩
  bind := Survey.bind

/-- A mistake in the document. -/
def mistake {α : Type} : Survey α :=
  ⟨[], none⟩

/-- A string literal after its opening quote. -/
def surveyString (source : Text) : Survey (Text × Text) :=
  ⟨[], (scanString source).map fun scanned =>
    (joinEscapes scanned.1, scanned.2)⟩

/-- What follows the integer digits of a number. -/
def surveyNumber (negative : Bool) (digits rest : Text) :
    Survey (Json × Text) :=
  let (fraction, afterFraction) := scanFraction rest
  let (exponent, afterExponent) := scanExponent afterFraction
  if fraction = none ∧ exponent = none then
    let value : Int := digitsValue digits
    ⟨[.integer digits],
      some (.int (if negative then -value else value), afterExponent)⟩
  else
    let decimals := fraction.getD []
    ⟨[.fractional], some (.float
      (Float64.ofDecimal negative (digitsValue (digits ++ decimals))
        (exponent.getD 0 - decimals.length)), afterExponent)⟩

/-- A number without its sign. -/
def surveyMagnitude (negative : Bool) : Text → Survey (Json × Text)
  | [] => mistake
  | digit :: rest =>
      if digit = codePoint '0' then surveyNumber negative [digit] rest
      else if CodePoint.isDigit digit then
        surveyNumber negative (digit :: (spanDigits rest).1)
          (spanDigits rest).2
      else mistake

/-- A value that is not a string, an array or an object; a constant is a
mistake. -/
def surveyScalar (source : Text) : Survey (Json × Text) :=
  match stripLiteral (text "null") source with
  | some rest => pure (.null, rest)
  | none =>
  match stripLiteral (text "true") source with
  | some rest => pure (.bool true, rest)
  | none =>
  match stripLiteral (text "false") source with
  | some rest => pure (.bool false, rest)
  | none =>
  match stripLiteral (text "NaN") source with
  | some _ => mistake
  | none =>
  match stripLiteral (text "Infinity") source with
  | some _ => mistake
  | none =>
  match stripLiteral (text "-Infinity") source with
  | some _ => mistake
  | none =>
  match source with
  | sign :: rest =>
      if sign = codePoint '-' then surveyMagnitude true rest
      else surveyMagnitude false source
  | [] => mistake

mutual

/-- One value at the start of a text. -/
def surveyValue : Nat → Text → Survey (Json × Text)
  | 0, _ => mistake
  | fuel + 1, source =>
      match source with
      | [] => mistake
      | point :: rest =>
          if point = codePoint '"' then do
            let (value, rest) ← surveyString rest
            pure (.str value, rest)
          else if point = codePoint '[' then
            match skipBlank rest with
            | [] => mistake
            | next :: after =>
                if next = codePoint ']' then pure (.arr [], after)
                else do
                  let (items, rest) ← surveyItems fuel (next :: after)
                  pure (.arr items, rest)
          else if point = codePoint '{' then
            match skipBlank rest with
            | [] => mistake
            | next :: after =>
                if next = codePoint '}' then pure (.obj [], after)
                else do
                  let (members, rest) ← surveyMembers fuel (next :: after)
                  pure (.obj (Json.ofMembers members), rest)
          else surveyScalar source

/-- The items of an array, up to its closing bracket. -/
def surveyItems : Nat → Text → Survey (List Json × Text)
  | 0, _ => mistake
  | fuel + 1, source => do
      let (item, rest) ← surveyValue fuel source
      match skipBlank rest with
      | [] => mistake
      | next :: after =>
          if next = codePoint ']' then pure ([item], after)
          else if next = codePoint ',' then do
            let (items, rest) ← surveyItems fuel (skipBlank after)
            pure (item :: items, rest)
          else mistake

/-- The members of an object, up to its closing brace. -/
def surveyMembers : Nat → Text → Survey (List (Text × Json) × Text)
  | 0, _ => mistake
  | fuel + 1, source =>
      match source with
      | [] => mistake
      | point :: rest =>
          if point = codePoint '"' then do
            let (key, rest) ← surveyString rest
            match skipBlank rest with
            | [] => mistake
            | colon :: rest =>
                if colon = codePoint ':' then do
                  let (value, rest) ← surveyValue fuel (skipBlank rest)
                  match skipBlank rest with
                  | [] => mistake
                  | next :: after =>
                      if next = codePoint '}' then
                        pure ([(key, value)], after)
                      else if next = codePoint ',' then do
                        let (members, rest) ←
                          surveyMembers fuel (skipBlank after)
                        pure ((key, value) :: members, rest)
                      else mistake
                else mistake
          else mistake

end

/-- The survey of a document. -/
def surveyText (source : Text) : Survey Json :=
  if source.head? = some 0xFEFF then mistake
  else do
    let (value, rest) ←
      surveyValue (2 * source.length + 1) (skipBlank source)
    if skipBlank rest = [] then pure value else mistake

/-! ## The decoder -/

/-- Some integer literal has more digits than the interpreter converts. -/
def Overlong (literals : List NumberLiteral) : Prop :=
  ∃ digits, .integer digits ∈ literals ∧ intMaxStrDigits < digits.length

/-- The decoder's outcome is the survey's, but for the limit on integers. -/
structure Agrees {α : Type} (parsed : Except JsonError α)
    (survey : Survey α) : Prop where
  overlong : Overlong survey.literals → parsed = .error .value
  value : ¬ Overlong survey.literals → ∀ value,
    survey.result = some value → parsed = .ok value
  mistake : ¬ Overlong survey.literals → survey.result = none →
    ∃ error, parsed = .error error ∧ error ≠ .value

theorem not_overlong_nil : ¬ Overlong [] := by
  rintro ⟨digits, ⟨⟩, -⟩

theorem overlong_append {first second : List NumberLiteral} :
    Overlong (first ++ second) ↔ Overlong first ∨ Overlong second := by
  simp only [Overlong, List.mem_append]
  constructor
  · rintro ⟨digits, inFirst | inSecond, long⟩
    · exact .inl ⟨digits, inFirst, long⟩
    · exact .inr ⟨digits, inSecond, long⟩
  · rintro (⟨digits, inFirst, long⟩ | ⟨digits, inSecond, long⟩)
    · exact ⟨digits, .inl inFirst, long⟩
    · exact ⟨digits, .inr inSecond, long⟩

theorem agrees_pure {α : Type} (value : α) :
    Agrees (.ok value) (pure value : Survey α) where
  overlong := fun overlong => absurd overlong not_overlong_nil
  value := by
    rintro - _ ⟨⟩
    rfl
  mistake := by
    rintro - ⟨⟩

theorem agrees_mistake
    {α : Type} {error : JsonError} (notValue : error ≠ .value) :
    Agrees (.error error : Except JsonError α) mistake where
  overlong := fun overlong => absurd overlong not_overlong_nil
  value := by
    rintro - _ ⟨⟩
  mistake := fun _ _ => ⟨error, rfl, notValue⟩

/-- Steps that agree agree in sequence. -/
theorem agrees_bind
    {α β : Type} {parsed : Except JsonError α} {survey : Survey α}
    {parse : α → Except JsonError β} {next : α → Survey β}
    (first : Agrees parsed survey)
    (second : ∀ value, Agrees (parse value) (next value)) :
    Agrees (parsed >>= parse) (survey >>= next) := by
  obtain ⟨literals, result⟩ := survey
  cases result with
  | none =>
      have isBind : ((⟨literals, none⟩ : Survey α) >>= next) =
          ⟨literals, none⟩ := rfl
      rw [isBind]
      constructor
      · intro overlong
        rw [first.overlong overlong]
        rfl
      · rintro - _ ⟨⟩
      · intro short _
        obtain ⟨error, isError, notValue⟩ := first.mistake short rfl
        rw [isError]
        exact ⟨error, rfl, notValue⟩
  | some value =>
      have isBind : ((⟨literals, some value⟩ : Survey α) >>= next) =
          ⟨literals ++ (next value).literals, (next value).result⟩ := rfl
      have rest := second value
      rw [isBind]
      by_cases long : Overlong literals
      · have stopped := first.overlong long
        rw [stopped]
        refine ⟨fun _ => rfl, ?_, ?_⟩
        · intro short
          exact absurd (overlong_append.mpr (.inl long)) short
        · intro short
          exact absurd (overlong_append.mpr (.inl long)) short
      · have returned := first.value long value rfl
        rw [returned]
        have later : Overlong (literals ++ (next value).literals) ↔
            Overlong (next value).literals := by
          rw [overlong_append]
          exact or_iff_right long
        constructor
        · intro overlong
          exact rest.overlong (later.mp overlong)
        · intro short result isResult
          exact rest.value (fun overlong => short (later.mpr overlong))
            result isResult
        · intro short isMistake
          exact rest.mistake (fun overlong => short (later.mpr overlong))
            isMistake

theorem agrees_string (source : Text) :
    Agrees (parseString source) (surveyString source) := by
  rw [parseString, surveyString]
  cases scanString source with
  | none => exact agrees_mistake (by decide)
  | some scanned => exact agrees_pure (joinEscapes scanned.1, scanned.2)

theorem agrees_number (negative : Bool) (digits rest : Text) :
    Agrees (finishNumber negative digits rest)
      (surveyNumber negative digits rest) := by
  simp only [finishNumber, surveyNumber]
  by_cases isInteger : (scanFraction rest).1 = none ∧
      (scanExponent (scanFraction rest).2).1 = none
  · rw [if_pos isInteger, if_pos isInteger]
    by_cases long : intMaxStrDigits < digits.length
    · rw [if_pos long]
      constructor
      · intro _
        rfl
      · intro short
        exact absurd ⟨digits, List.mem_singleton_self _, long⟩ short
      · rintro - ⟨⟩
    · rw [if_neg long]
      constructor
      · rintro ⟨other, member, tooLong⟩
        cases List.mem_singleton.mp member
        exact absurd tooLong long
      · rintro - _ ⟨⟩
        rfl
      · rintro - ⟨⟩
  · rw [if_neg isInteger, if_neg isInteger]
    constructor
    · rintro ⟨other, member, -⟩
      cases List.mem_singleton.mp member
    · rintro - _ ⟨⟩
      rfl
    · rintro - ⟨⟩

theorem agrees_magnitude (negative : Bool) (source : Text) :
    Agrees (parseMagnitude negative source)
      (surveyMagnitude negative source) := by
  cases source with
  | nil => exact agrees_mistake (by decide)
  | cons digit rest =>
      rw [parseMagnitude, surveyMagnitude]
      split_ifs
      · exact agrees_number negative _ rest
      · exact agrees_number negative _ _
      · exact agrees_mistake (by decide)

theorem agrees_scalar (source : Text) :
    Agrees (parseScalar false source) (surveyScalar source) := by
  rw [parseScalar.eq_def, surveyScalar.eq_def]
  cases stripLiteral (text "null") source with
  | some rest => exact agrees_pure _
  | none =>
  cases stripLiteral (text "true") source with
  | some rest => exact agrees_pure _
  | none =>
  cases stripLiteral (text "false") source with
  | some rest => exact agrees_pure _
  | none =>
  cases stripLiteral (text "NaN") source with
  | some rest => exact agrees_mistake (by decide)
  | none =>
  cases stripLiteral (text "Infinity") source with
  | some rest => exact agrees_mistake (by decide)
  | none =>
  cases stripLiteral (text "-Infinity") source with
  | some rest => exact agrees_mistake (by decide)
  | none =>
  cases source with
  | nil => exact agrees_mistake (by decide)
  | cons sign rest =>
      dsimp only
      split_ifs
      · exact agrees_magnitude true rest
      · exact agrees_magnitude false _

mutual

theorem agrees_value (fuel : Nat) (source : Text) :
    Agrees (parseValue false fuel source) (surveyValue fuel source) := by
  cases fuel with
  | zero => exact agrees_mistake (by decide)
  | succ fuel =>
      cases source with
      | nil => exact agrees_mistake (by decide)
      | cons point rest =>
          rw [parseValue, surveyValue]
          split_ifs
          · exact agrees_bind (agrees_string rest)
              fun _ => agrees_pure _
          · cases skipBlank rest with
            | nil => exact agrees_mistake (by decide)
            | cons next after =>
                dsimp only
                split_ifs
                · exact agrees_pure _
                · exact agrees_bind (agrees_items fuel _)
                    fun _ => agrees_pure _
          · cases skipBlank rest with
            | nil => exact agrees_mistake (by decide)
            | cons next after =>
                dsimp only
                split_ifs
                · exact agrees_pure _
                · exact agrees_bind (agrees_members fuel _)
                    fun _ => agrees_pure _
          · exact agrees_scalar _

/-- The decoder agrees with the survey on the items of an array. -/
theorem agrees_items (fuel : Nat) (source : Text) :
    Agrees (parseItems false fuel source) (surveyItems fuel source) := by
  cases fuel with
  | zero => exact agrees_mistake (by decide)
  | succ fuel =>
      rw [parseItems, surveyItems]
      refine agrees_bind (agrees_value fuel source) fun read => ?_
      dsimp only
      cases skipBlank read.2 with
      | nil => exact agrees_mistake (by decide)
      | cons next after =>
          dsimp only
          split_ifs
          · exact agrees_pure _
          · exact agrees_bind (agrees_items fuel _) fun _ => agrees_pure _
          · exact agrees_mistake (by decide)

/-- The decoder agrees with the survey on the members of an object. -/
theorem agrees_members (fuel : Nat) (source : Text) :
    Agrees (parseMembers false fuel source)
      (surveyMembers fuel source) := by
  cases fuel with
  | zero => exact agrees_mistake (by decide)
  | succ fuel =>
      cases source with
      | nil => exact agrees_mistake (by decide)
      | cons point rest =>
          rw [parseMembers, surveyMembers]
          split_ifs
          · refine agrees_bind (agrees_string rest) fun key => ?_
            dsimp only
            cases skipBlank key.2 with
            | nil => exact agrees_mistake (by decide)
            | cons colon rest =>
                dsimp only
                split_ifs
                · refine agrees_bind (agrees_value fuel _) fun read => ?_
                  cases skipBlank read.2 with
                  | nil => exact agrees_mistake (by decide)
                  | cons next after =>
                      dsimp only
                      split_ifs
                      · exact agrees_pure _
                      · exact agrees_bind (agrees_members fuel _)
                          fun _ => agrees_pure _
                      · exact agrees_mistake (by decide)
                · exact agrees_mistake (by decide)
          · exact agrees_mistake (by decide)

end

/-- The decoder agrees with the survey of a document. -/
theorem parseText_agrees (source : Text) :
    Agrees (parseText false source) (surveyText source) := by
  rw [parseText, surveyText]
  split_ifs
  · exact agrees_mistake (by decide)
  · refine agrees_bind (agrees_value _ _) fun read => ?_
    dsimp only
    split_ifs
    · exact agrees_pure _
    · exact agrees_mistake (by decide)

/-! ## Tidy values -/

mutual

/-- A condition on the scalars and on the keys of each object of a value. -/
def Json.All (scalar : Json → Prop) (keys : List Text → Prop) : Json → Prop
  | .arr items => AllItems scalar keys items
  | .obj members =>
      keys (members.map Prod.fst) ∧ AllMembers scalar keys members
  | .null => scalar .null
  | .bool value => scalar (.bool value)
  | .int value => scalar (.int value)
  | .float value => scalar (.float value)
  | .str value => scalar (.str value)

/-- The condition on every item. -/
def AllItems (scalar : Json → Prop) (keys : List Text → Prop) :
    List Json → Prop
  | [] => True
  | item :: rest => item.All scalar keys ∧ AllItems scalar keys rest

/-- The condition on every value of a member. -/
def AllMembers (scalar : Json → Prop) (keys : List Text → Prop) :
    List (Text × Json) → Prop
  | [] => True
  | (_, value) :: rest => value.All scalar keys ∧ AllMembers scalar keys rest

end

/-- An integer of few digits, or no number at all. -/
def ShortInteger : Json → Prop
  | .int value => (decimalText value.natAbs).length ≤ intMaxStrDigits
  | .float _ => False
  | _ => True

/-- Short integers, no floats, distinct keys. -/
def Json.Tidy (value : Json) : Prop :=
  value.All ShortInteger List.Nodup

theorem allMembers_iff
    {scalar : Json → Prop} {keys : List Text → Prop}
    {members : List (Text × Json)} :
    AllMembers scalar keys members ↔
      ∀ member ∈ members, member.2.All scalar keys := by
  induction members with
  | nil => simp [AllMembers]
  | cons member rest induction => simp [AllMembers, induction]

/-- Storing members one after another keeps a condition on their values. -/
theorem allMembers_ofMembers
    {scalar : Json → Prop} {keys : List Text → Prop}
    {members : List (Text × Json)}
    (all : AllMembers scalar keys members) :
    AllMembers scalar keys (Json.ofMembers members) := by
  rw [allMembers_iff] at all ⊢
  rintro ⟨key, value⟩ isMember
  have found := (Json.lookup_eq_some_iff
    (ofMembers_nodup members)).mpr isMember
  exact all _ (mem_of_lookup_ofMembers found)

/-- Integer literals within the limit. -/
def ShortLiterals (literals : List NumberLiteral) : Prop :=
  ∀ literal ∈ literals, ∃ digits, literal = .integer digits ∧
    digits.length ≤ intMaxStrDigits

/-- What is read from short integer literals alone has a property. -/
def Yields {α : Type} (good : α → Prop) (survey : Survey α) : Prop :=
  ShortLiterals survey.literals → ∀ value, survey.result = some value →
    good value

theorem yields_pure
    {α : Type} {good : α → Prop} {value : α} (isGood : good value) :
    Yields good (pure value : Survey α) := by
  rintro - _ ⟨⟩
  exact isGood

theorem yields_mistake {α : Type} {good : α → Prop} :
    Yields good (mistake : Survey α) := by
  rintro - _ ⟨⟩

/-- A property of what is read first is known to what is read next. -/
theorem yields_bind
    {α β : Type} {known : α → Prop} {good : β → Prop} {survey : Survey α}
    {next : α → Survey β} (first : Yields known survey)
    (second : ∀ value, known value → Yields good (next value)) :
    Yields good (survey >>= next) := by
  obtain ⟨literals, result⟩ := survey
  cases result with
  | none =>
      rintro - _ ⟨⟩
  | some value =>
      intro short read isRead
      have isKnown := first
        (fun literal member => short literal
          (List.mem_append_left _ member)) value rfl
      exact second value isKnown
        (fun literal member => short literal
          (List.mem_append_right _ member)) read isRead

theorem yields_string (source : Text) :
    Yields (fun _ => True) (surveyString source) :=
  fun _ _ _ => trivial

theorem digitsValue_lt
    {digits : Text}
    (areDigits : ∀ point ∈ digits, CodePoint.isDigit point = true) :
    digitsValue digits < 10 ^ digits.length := by
  induction digits using List.reverseRecOn with
  | nil => decide
  | append_singleton digits point induction =>
      have small := induction fun other member =>
        areDigits other (List.mem_append_left _ member)
      have digit := areDigits point (by simp)
      simp only [CodePoint.isDigit, Bool.and_eq_true, decide_eq_true_eq]
        at digit
      rw [digitsValue, List.foldl_append, ← digitsValue, List.length_append,
        List.length_singleton, pow_succ]
      simp only [List.foldl_cons, List.foldl_nil]
      omega

theorem spanDigits_isDigit (source : Text) :
    ∀ point ∈ (spanDigits source).1, CodePoint.isDigit point = true := by
  induction source with
  | nil => simp [spanDigits]
  | cons point rest induction =>
      rw [spanDigits]
      split_ifs with isDigit
      · intro other member
        rcases List.mem_cons.mp member with rfl | inRest
        · exact isDigit
        · exact induction other inRest
      · simp

/-- A short integer literal denotes a short integer. -/
theorem yields_number
    (negative : Bool) {digits : Text} (nonempty : digits ≠ [])
    (areDigits : ∀ point ∈ digits, CodePoint.isDigit point = true)
    (rest : Text) :
    Yields (fun read => read.1.Tidy)
      (surveyNumber negative digits rest) := by
  simp only [surveyNumber]
  by_cases isInteger : (scanFraction rest).1 = none ∧
      (scanExponent (scanFraction rest).2).1 = none
  · rw [if_pos isInteger]
    rintro short _ ⟨⟩
    obtain ⟨same, isSame, few⟩ := short _ (List.mem_singleton_self _)
    cases isSame
    have small := digitsValue_lt areDigits
    have absolute : (if negative then -(digitsValue digits : Int)
        else digitsValue digits).natAbs = digitsValue digits := by
      split_ifs <;> simp
    change (decimalText (Int.natAbs _)).length ≤ intMaxStrDigits
    rw [absolute]
    exact (decimalText_length_le (List.length_pos_iff.mpr nonempty)
      small).trans few
  · rw [if_neg isInteger]
    intro short
    obtain ⟨digits, isSame, -⟩ := short _ (List.mem_singleton_self _)
    cases isSame

theorem yields_magnitude (negative : Bool) (source : Text) :
    Yields (fun read => read.1.Tidy) (surveyMagnitude negative source) := by
  cases source with
  | nil => exact yields_mistake
  | cons digit rest =>
      rw [surveyMagnitude]
      split_ifs with isZero isDigit
      · refine yields_number negative (List.cons_ne_nil _ _) ?_ rest
        intro point member
        rw [List.mem_singleton.mp member, isZero]
        decide
      · refine yields_number negative (List.cons_ne_nil _ _) ?_ _
        intro point member
        rcases List.mem_cons.mp member with rfl | inRest
        · exact isDigit
        · exact spanDigits_isDigit rest point inRest
      · exact yields_mistake

theorem yields_scalar (source : Text) :
    Yields (fun read => read.1.Tidy) (surveyScalar source) := by
  rw [surveyScalar.eq_def]
  cases stripLiteral (text "null") source with
  | some rest => exact yields_pure trivial
  | none =>
  cases stripLiteral (text "true") source with
  | some rest => exact yields_pure trivial
  | none =>
  cases stripLiteral (text "false") source with
  | some rest => exact yields_pure trivial
  | none =>
  cases stripLiteral (text "NaN") source with
  | some rest => exact yields_mistake
  | none =>
  cases stripLiteral (text "Infinity") source with
  | some rest => exact yields_mistake
  | none =>
  cases stripLiteral (text "-Infinity") source with
  | some rest => exact yields_mistake
  | none =>
  cases source with
  | nil => exact yields_mistake
  | cons sign rest =>
      dsimp only
      split_ifs
      · exact yields_magnitude true rest
      · exact yields_magnitude false _

mutual

/-- A value read from short integer literals is tidy. -/
theorem yields_value (fuel : Nat) (source : Text) :
    Yields (fun read => read.1.Tidy) (surveyValue fuel source) := by
  cases fuel with
  | zero => exact yields_mistake
  | succ fuel =>
      cases source with
      | nil => exact yields_mistake
      | cons point rest =>
          rw [surveyValue]
          split_ifs
          · exact yields_bind (yields_string rest)
              fun _ _ => yields_pure trivial
          · cases skipBlank rest with
            | nil => exact yields_mistake
            | cons next after =>
                dsimp only
                split_ifs
                · exact yields_pure trivial
                · exact yields_bind (yields_items fuel _)
                    fun _ tidy => yields_pure tidy
          · cases skipBlank rest with
            | nil => exact yields_mistake
            | cons next after =>
                dsimp only
                split_ifs
                · exact yields_pure ⟨List.nodup_nil, trivial⟩
                · exact yields_bind (yields_members fuel _)
                    fun read tidy => yields_pure
                      ⟨ofMembers_nodup read.1, allMembers_ofMembers tidy⟩
          · exact yields_scalar _

/-- The items read from short integer literals are tidy. -/
theorem yields_items (fuel : Nat) (source : Text) :
    Yields (fun read => AllItems ShortInteger List.Nodup read.1)
      (surveyItems fuel source) := by
  cases fuel with
  | zero => exact yields_mistake
  | succ fuel =>
      rw [surveyItems]
      refine yields_bind (yields_value fuel source) fun read tidy => ?_
      dsimp only
      cases skipBlank read.2 with
      | nil => exact yields_mistake
      | cons next after =>
          dsimp only
          split_ifs
          · exact yields_pure ⟨tidy, trivial⟩
          · exact yields_bind (yields_items fuel _)
              fun _ others => yields_pure ⟨tidy, others⟩
          · exact yields_mistake

/-- The members read from short integer literals are tidy. -/
theorem yields_members (fuel : Nat) (source : Text) :
    Yields (fun read => AllMembers ShortInteger List.Nodup read.1)
      (surveyMembers fuel source) := by
  cases fuel with
  | zero => exact yields_mistake
  | succ fuel =>
      cases source with
      | nil => exact yields_mistake
      | cons point rest =>
          rw [surveyMembers]
          split_ifs
          · refine yields_bind (yields_string rest) fun key _ => ?_
            dsimp only
            cases skipBlank key.2 with
            | nil => exact yields_mistake
            | cons colon rest =>
                dsimp only
                split_ifs
                · refine yields_bind (yields_value fuel _)
                    fun read tidy => ?_
                  cases skipBlank read.2 with
                  | nil => exact yields_mistake
                  | cons next after =>
                      dsimp only
                      split_ifs
                      · exact yields_pure ⟨tidy, trivial⟩
                      · exact yields_bind (yields_members fuel _)
                          fun _ others => yields_pure ⟨tidy, others⟩
                      · exact yields_mistake
                · exact yields_mistake
          · exact yields_mistake

end

/-- A document of short integer literals denotes a tidy value. -/
theorem survey_tidy
    {source : Text} (short : ShortLiterals (surveyText source).literals)
    {value : Json} (isValue : (surveyText source).result = some value) :
    value.Tidy := by
  have yields : Yields Json.Tidy (surveyText source) := by
    rw [surveyText]
    split_ifs
    · exact yields_mistake
    · refine yields_bind (yields_value _ _) fun read tidy => ?_
      dsimp only
      split_ifs
      · exact yields_pure tidy
      · exact yields_mistake
  exact yields short value isValue

end ScientificResourceLab.Python
