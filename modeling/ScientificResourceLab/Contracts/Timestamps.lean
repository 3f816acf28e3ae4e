import ScientificResourceLab.Contracts.Canonical

/-!
# Timestamps

The policy of `srl.contracts.timestamps`: RFC 3339 UTC at seconds precision.
`normalize` accepts the canonical form and two equivalent suffixes; `instant`
is the number of seconds that `datetime.strptime` attaches to a canonical
timestamp, counted from the proleptic year 1.
-/

namespace ScientificResourceLab.Contracts

open Python Steps

/-- The numbers of a timestamp. -/
structure TimestampFields where
  year : Nat
  month : Nat
  day : Nat
  hour : Nat
  minute : Nat
  second : Nat
  deriving DecidableEq, Repr

/-- The ranges that the patterns admit. -/
def TimestampFields.inRange (fields : TimestampFields) : Bool :=
  1 ≤ fields.month && fields.month ≤ 12 && 1 ≤ fields.day &&
    fields.day ≤ 31 && fields.hour ≤ 23 && fields.minute ≤ 59 &&
    fields.second ≤ 59

/-- `YYYY-MM-DDTHH:MM:SS` at the start of a text, and what follows it. -/
def timestampShape (value : Text) : Option (TimestampFields × Text) :=
  match value with
  | y₁ :: y₂ :: y₃ :: y₄ :: dash₁ :: m₁ :: m₂ :: dash₂ :: d₁ :: d₂ :: t ::
      h₁ :: h₂ :: colon₁ :: n₁ :: n₂ :: colon₂ :: s₁ :: s₂ :: suffix =>
      let fields : TimestampFields :=
        { year := digitsValue [y₁, y₂, y₃, y₄]
          month := digitsValue [m₁, m₂]
          day := digitsValue [d₁, d₂]
          hour := digitsValue [h₁, h₂]
          minute := digitsValue [n₁, n₂]
          second := digitsValue [s₁, s₂] }
      if [y₁, y₂, y₃, y₄, m₁, m₂, d₁, d₂, h₁, h₂, n₁, n₂, s₁, s₂].all
            CodePoint.isDigit ∧
          [dash₁, dash₂, t, colon₁, colon₂] = text "--T::" ∧
          fields.inRange then
        some (fields, suffix)
      else none
  | _ => none

/-- `_is_leap`. -/
def isLeap (year : Nat) : Bool :=
  year % 4 = 0 && (year % 100 ≠ 0 || year % 400 = 0)

/-- `_days_in_month`. -/
def daysInMonth (year month : Nat) : Nat :=
  if month < 1 ∨ 12 < month then 0
  else if month = 2 ∧ isLeap year then 29
  else [31, 28, 31, 30, 31, 30, 31, 31, 30, 31, 30, 31].getD (month - 1) 0

/-- `_check_calendar`. -/
def checkCalendar (value : Text) (fields : TimestampFields) :
    Except PyError PUnit := do
  refuseIf (23 < fields.hour ∨ 59 < fields.minute ∨ 59 < fields.second)
    ⟨.timestampError, text "timestamp " ++ quoted value ++
      text " has an out-of-range time component"⟩
  refuseIf (daysInMonth fields.year fields.month < fields.day)
    ⟨.timestampError, text "timestamp " ++ quoted value ++
      text " is not a valid calendar date"⟩

/-- `_looks_fractional`. -/
def looksFractional (value : Text) : Bool :=
  (value.dropWhile (· ≠ codePoint 'T')).contains (codePoint '.')

/-- `[+-]hh:mm`, matched in full. -/
def isOffset (value : Text) : Bool :=
  match value with
  | [sign, h₁, h₂, colon, m₁, m₂] =>
      (sign = codePoint '+' || sign = codePoint '-') &&
        [h₁, h₂, m₁, m₂].all CodePoint.isDigit &&
        digitsValue [h₁, h₂] ≤ 23 && digitsValue [m₁, m₂] ≤ 59 &&
        colon = codePoint ':'
  | _ => false

/-- `_has_non_utc_offset`; the pattern's `$` admits a final newline. -/
def hasNonUtcOffset (value : Text) : Bool :=
  let last := value.drop (value.length - 6)
  let beforeNewline := value.drop (value.length - 7)
  isOffset last && last ≠ text "+00:00" ||
    beforeNewline.getLast? = some (codePoint '\n') &&
      isOffset beforeNewline.dropLast

/-- The refusal of a value without an accepted shape. -/
def shapeError (value : Text) : PyError :=
  ⟨.timestampError,
    if looksFractional value then
      text "timestamp " ++ quoted value ++
        text " has fractional seconds; canonical timestamps are " ++
        text "seconds-precision (YYYY-MM-DDTHH:MM:SSZ)"
    else if hasNonUtcOffset value then
      text "timestamp " ++ quoted value ++
        text " has a non-UTC offset; canonical timestamps are UTC only " ++
        text "(trailing 'Z')"
    else
      text "timestamp " ++ quoted value ++
        text " is not canonical RFC 3339 UTC (expected " ++
        text "YYYY-MM-DDTHH:MM:SSZ, seconds precision, trailing 'Z')"⟩

/-- `srl.contracts.timestamps.normalize` on a string. -/
def normalizeTimestamp (value : Text) : Except PyError Text :=
  match timestampShape value with
  | some (fields, suffix) =>
      if suffix = text "Z" ∨ suffix = text "z" ∨
          suffix = text "+00:00" then do
        checkCalendar value fields
        pure (value.take 19 ++ text "Z")
      else .error (shapeError value)
  | none => .error (shapeError value)

/-- `_raise_shape`. -/
def canonicalShapeError (value : Text) : PyError :=
  ⟨.timestampError,
    text "timestamp " ++ quoted value ++
      text " is not canonical RFC 3339 UTC (expected YYYY-MM-DDTHH:MM:SSZ," ++
      text " seconds precision, trailing 'Z')"⟩

/-- `validate`. -/
def validateTimestamp (value : Text) : Except PyError Text :=
  match timestampShape value with
  | some (fields, suffix) =>
      if suffix = text "Z" then do
        checkCalendar value fields
        pure value
      else .error (canonicalShapeError value)
  | none => .error (canonicalShapeError value)

/-- The pattern of timestamps in the schemas, searched with `$`. -/
def matchesTimestampPattern (value : Text) : Bool :=
  match timestampShape value with
  | some (_, suffix) => suffix = text "Z" || suffix = text "Z\n"
  | none => false

/-! ## Instants -/

/-- Days before the first of January of a year, from year 1. -/
def daysBeforeYear (year : Nat) : Nat :=
  365 * (year - 1) + (year - 1) / 4 - (year - 1) / 100 + (year - 1) / 400

def daysBeforeMonth (year month : Nat) : Nat :=
  ((List.range (month - 1)).map fun earlier =>
    daysInMonth year (earlier + 1)).sum

/-- Seconds from the start of year 1. -/
def TimestampFields.seconds (fields : TimestampFields) : Nat :=
  (((daysBeforeYear fields.year + daysBeforeMonth fields.year fields.month +
    fields.day - 1) * 24 + fields.hour) * 60 + fields.minute) * 60 +
    fields.second

/-- `_parse_utc` of the spool: the instant of an accepted timestamp. -/
def parseUtc (value : Text) : Except PyError Nat := do
  let normalized ← normalizeTimestamp value
  match timestampShape normalized with
  | some (fields, _) =>
      if fields.year = 0 then
        throw (raised .valueError "year 0 is out of range")
      else pure fields.seconds
  | none => throw (raised .valueError "time data does not match format")

/-! ## Shapes -/

/-- A shape consists of its first nineteen code points, without surrogates. -/
theorem timestampShape_eq_some
    {value suffix : Text} {fields : TimestampFields}
    (shape : timestampShape value = some (fields, suffix)) :
    (value.take 19).length = 19 ∧ Scalars (value.take 19) ∧
      fields.inRange = true ∧
      ∀ other, timestampShape (value.take 19 ++ other) =
        some (fields, other) := by
  rw [timestampShape.eq_def] at shape
  split at shape
  · next y₁ y₂ y₃ y₄ dash₁ m₁ m₂ dash₂ d₁ d₂ t h₁ h₂ colon₁ n₁ n₂ colon₂
      s₁ s₂ rest =>
      simp only at shape
      split_ifs at shape with isShape
      obtain ⟨digits, separators, inRange⟩ := isShape
      rw [Option.some.injEq, Prod.mk.injEq] at shape
      obtain ⟨rfl, rfl⟩ := shape
      refine ⟨rfl, ?_, inRange, ?_⟩
      · simp only [List.all_cons, List.all_nil, Bool.and_true,
          Bool.and_eq_true] at digits
        have literal : [dash₁, dash₂, t, colon₁, colon₂] =
            [codePoint '-', codePoint '-', codePoint 'T', codePoint ':',
              codePoint ':'] := separators
        simp only [List.cons.injEq, and_true] at literal
        obtain ⟨rfl, rfl, rfl, rfl, rfl⟩ := literal
        simp only [List.take_succ_cons, List.take_zero, scalars_cons,
          scalars_nil, codePoint_scalar, and_true, true_and]
        simp only [isDigit_scalar, digits, and_self]
      · intro other
        simp only [List.take_succ_cons, List.take_zero, List.cons_append,
          List.nil_append, timestampShape]
        exact if_pos ⟨digits, separators, inRange⟩
  · cases shape

/-- The suffix of a shape follows its first nineteen code points. -/
theorem timestampShape_rest
    {value suffix : Text} {fields : TimestampFields}
    (shape : timestampShape value = some (fields, suffix)) :
    value.drop 19 = suffix := by
  rw [timestampShape.eq_def] at shape
  split at shape
  · simp only at shape
    split_ifs at shape
    rw [Option.some.injEq, Prod.mk.injEq] at shape
    exact shape.2
  · cases shape

/-- A normalised timestamp has the canonical shape. -/
theorem normalizeTimestamp_shape
    {value created : Text}
    (normalized : normalizeTimestamp value = .ok created) :
    matchesTimestampPattern created = true ∧ Scalars created := by
  rw [normalizeTimestamp] at normalized
  split at normalized
  · next fields suffix shape =>
      split_ifs at normalized
      simp only [bind_eq_ok_iff, pure_eq_ok_iff] at normalized
      obtain ⟨_, -, rfl⟩ := normalized
      obtain ⟨-, scalars, -, reads⟩ := timestampShape_eq_some shape
      refine ⟨?_, scalars_append.mpr ⟨scalars, scalars_text _⟩⟩
      rw [matchesTimestampPattern, reads]
      rfl
  · cases normalized

/-- A validated timestamp is returned unchanged, without surrogates. -/
theorem validateTimestamp_eq_ok
    {value validated : Text}
    (accepted : validateTimestamp value = .ok validated) :
    validated = value ∧ value ≠ [] ∧ Scalars value := by
  rw [validateTimestamp] at accepted
  split at accepted
  · next fields suffix shape =>
      split_ifs at accepted with isZulu
      simp only [bind_eq_ok_iff, pure_eq_ok_iff] at accepted
      obtain ⟨_, -, rfl⟩ := accepted
      obtain ⟨long, scalars, -, -⟩ := timestampShape_eq_some shape
      have rest : value.drop 19 = suffix := timestampShape_rest shape
      refine ⟨rfl, ?_, ?_⟩
      · rintro rfl
        simp at long
      · rw [← List.take_append_drop 19 value, rest, isZulu]
        exact scalars_append.mpr ⟨scalars, scalars_text _⟩
  · cases accepted

/-- An instant is read from a timestamp that can be normalised. -/
theorem normalizeTimestamp_of_parseUtc
    {value : Text} {seconds : Nat} (parsed : parseUtc value = .ok seconds) :
    ∃ created, normalizeTimestamp value = .ok created := by
  simp only [parseUtc, bind_eq_ok_iff] at parsed
  obtain ⟨created, normalized, -⟩ := parsed
  exact ⟨created, normalized⟩

end ScientificResourceLab.Contracts
