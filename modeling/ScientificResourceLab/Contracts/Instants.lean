import ScientificResourceLab.Contracts.Timestamps

/-!
# Timestamps and datetimes

`datetime` supports the years 1 to 9999 of the proleptic Gregorian calendar.
A `DateTime` is one of its values at seconds precision, and carries the facts
that its constructor checks; `strftimeUtc` and `strptimeUtc` are its
renderings in the format `%Y-%m-%dT%H:%M:%SZ`.

The two calendars coincide except for the year 0: `validate` and `normalize`
accept it and `datetime` does not have it.
-/

namespace ScientificResourceLab.Contracts

open Python Steps

/-! ## The calendar of `datetime` -/

/-- A leap year of the Gregorian calendar. -/
def IsLeapYear (year : Nat) : Prop :=
  4 ∣ year ∧ (¬ 100 ∣ year ∨ 400 ∣ year)

instance (year : Nat) : Decidable (IsLeapYear year) :=
  inferInstanceAs (Decidable (_ ∧ _))

/-- The number of days of a month, one to twelve. -/
def gregorianDays (year month : Nat) : Nat :=
  if month = 2 then if IsLeapYear year then 29 else 28
  else if month = 4 ∨ month = 6 ∨ month = 9 ∨ month = 11 then 30
  else 31

/-- What the constructor of `datetime` checks. -/
structure TimestampFields.Supported (fields : TimestampFields) : Prop where
  firstYear : 1 ≤ fields.year
  lastYear : fields.year ≤ 9999
  firstMonth : 1 ≤ fields.month
  lastMonth : fields.month ≤ 12
  firstDay : 1 ≤ fields.day
  lastDay : fields.day ≤ gregorianDays fields.year fields.month
  hour : fields.hour ≤ 23
  minute : fields.minute ≤ 59
  second : fields.second ≤ 59

instance (fields : TimestampFields) : Decidable fields.Supported :=
  decidable_of_iff
    ((1 ≤ fields.year ∧ fields.year ≤ 9999) ∧
      (1 ≤ fields.month ∧ fields.month ≤ 12) ∧
      (1 ≤ fields.day ∧
        fields.day ≤ gregorianDays fields.year fields.month) ∧
      fields.hour ≤ 23 ∧ fields.minute ≤ 59 ∧ fields.second ≤ 59)
    ⟨fun ⟨year, month, day, hour, minute, second⟩ =>
      ⟨year.1, year.2, month.1, month.2, day.1, day.2, hour, minute,
        second⟩,
    fun checked =>
      ⟨⟨checked.firstYear, checked.lastYear⟩,
        ⟨checked.firstMonth, checked.lastMonth⟩,
        ⟨checked.firstDay, checked.lastDay⟩, checked.hour,
        checked.minute, checked.second⟩⟩

/-- A value of `datetime` at seconds precision. -/
structure DateTime where
  fields : TimestampFields
  supported : fields.Supported

/-- The constructor of `datetime`. -/
def dateTime (fields : TimestampFields) : Except PyError DateTime :=
  if supported : fields.Supported then .ok ⟨fields, supported⟩
  else .error (raised .valueError "date or time value out of range")

/-! ## The format `%Y-%m-%dT%H:%M:%SZ` -/

/-- Two digits. -/
def pad2 (value : Nat) : Text :=
  [digitPoint (value / 10 % 10), digitPoint (value % 10)]

/-- Four digits. -/
def pad4 (value : Nat) : Text :=
  pad2 (value / 100) ++ pad2 value

/-- The numbers of a timestamp in the format, without the `Z`. -/
def TimestampFields.render (fields : TimestampFields) : Text :=
  pad4 fields.year ++ [codePoint '-'] ++ pad2 fields.month ++
    [codePoint '-'] ++ pad2 fields.day ++ [codePoint 'T'] ++
    pad2 fields.hour ++ [codePoint ':'] ++ pad2 fields.minute ++
    [codePoint ':'] ++ pad2 fields.second

/-- `strftime`. -/
def strftimeUtc (instant : DateTime) : Text :=
  instant.fields.render ++ text "Z"

/-- The patterns of `strptime` ignore the case of letters. -/
def isMark (mark point : CodePoint) : Bool :=
  point = mark || mark = codePoint 'T' && point = codePoint 't' ||
    mark = codePoint 'Z' && point = codePoint 'z'

/-- One or two digits of a value between two bounds. -/
def isField (low high : Nat) (field : Text) : Bool :=
  (field.length = 1 || field.length = 2) &&
    field.all CodePoint.isDigit &&
    low ≤ digitsValue field && digitsValue field ≤ high

/-- A day may have a blank in place of its first digit. -/
def isDayField (field : Text) : Bool :=
  isField 1 31 field ||
    field.length = 2 && field.head? = some (codePoint ' ') &&
      isField 1 9 (field.drop 1)

/-- One field of the format and the mark after it. -/
def readField (mark : CodePoint) (isField : Text → Bool)
    (value : Text) : Option (Nat × Text) :=
  let field := value.takeWhile fun point => !isMark mark point
  match value.dropWhile fun point => !isMark mark point with
  | [] => none
  | _ :: rest =>
      if isField field then
        some (digitsValue (field.filter CodePoint.isDigit), rest)
      else none

/-- The fields that `strptime` reads, on texts with ASCII digits. -/
def readFormat (value : Text) : Option TimestampFields := do
  let (year, value) ← readField (codePoint '-')
    (fun field => field.length = 4 && field.all CodePoint.isDigit) value
  let (month, value) ← readField (codePoint '-') (isField 1 12) value
  let (day, value) ← readField (codePoint 'T') isDayField value
  let (hour, value) ← readField (codePoint ':') (isField 0 23) value
  let (minute, value) ← readField (codePoint ':') (isField 0 59) value
  let (second, value) ← readField (codePoint 'Z') (isField 0 61) value
  if value = [] then some ⟨year, month, day, hour, minute, second⟩
  else none

/-- `datetime.strptime` with the format. -/
def strptimeUtc (value : Text) : Except PyError DateTime :=
  match readFormat value with
  | some fields => dateTime fields
  | none => .error (raised .valueError "time data does not match format")

/-! ## Instants -/

/-- Days before the first of January of a year, from year 1. -/
def elapsedDays (year : Nat) : Int :=
  365 * (year - 1) + (year - 1) / 4 - (year - 1) / 100 + (year - 1) / 400

/-- Seconds from the start of year 1. -/
def TimestampFields.elapsed (fields : TimestampFields) : Int :=
  (((elapsedDays fields.year + daysBeforeMonth fields.year fields.month +
    fields.day - 1) * 24 + fields.hour) * 60 + fields.minute) * 60 +
    fields.second

/-- The minutes of a zone suffix. -/
def offsetMinutes (suffix : Text) : Option Int :=
  if suffix = text "Z" ∨ suffix = text "z" then some 0
  else if isOffset suffix then
    let minutes : Int :=
      60 * digitsValue ((suffix.drop 1).take 2) +
        digitsValue (suffix.drop 4)
    some (if suffix.head? = some (codePoint '-') then -minutes else minutes)
  else none

/-- The instant that an RFC 3339 timestamp denotes, in seconds. -/
def denotedInstant (value : Text) : Option Int := do
  let (fields, suffix) ← timestampShape value
  let offset ← offsetMinutes suffix
  pure (fields.elapsed - 60 * offset)

/-! ## Digits -/

theorem digitPoint_of_isDigit
    {point : CodePoint} (digit : CodePoint.isDigit point = true) :
    digitPoint (point.val - 48) = point := by
  simp only [CodePoint.isDigit, Bool.and_eq_true, decide_eq_true_eq]
    at digit
  apply Fin.ext
  rw [digitPoint_val (by omega)]
  omega

theorem pad2_digitsValue
    {first second : CodePoint} (isFirst : CodePoint.isDigit first = true)
    (isSecond : CodePoint.isDigit second = true) :
    pad2 (digitsValue [first, second]) = [first, second] := by
  have value : digitsValue [first, second] =
      10 * (first.val - 48) + (second.val - 48) := by
    simp [digitsValue]
  have tens := digitPoint_of_isDigit isFirst
  have units := digitPoint_of_isDigit isSecond
  simp only [CodePoint.isDigit, Bool.and_eq_true, decide_eq_true_eq]
    at isFirst isSecond
  have high : digitsValue [first, second] / 10 % 10 =
      first.val - 48 := by omega
  have low : digitsValue [first, second] % 10 = second.val - 48 := by
    omega
  rw [pad2, high, low, tens, units]

theorem digitsValue_pad2 {value : Nat} (small : value < 100) :
    digitsValue (pad2 value) = value := by
  have tens := @digitPoint_val (value / 10 % 10)
    (Nat.mod_lt _ (by decide))
  have units := @digitPoint_val (value % 10)
    (Nat.mod_lt _ (by decide))
  simp only [pad2, digitsValue, List.foldl_cons, List.foldl_nil, tens,
    units]
  omega

theorem digitsValue_four (first second third fourth : CodePoint) :
    digitsValue [first, second, third, fourth] =
      100 * digitsValue [first, second] +
        digitsValue [third, fourth] := by
  simp only [digitsValue, List.foldl_cons, List.foldl_nil]
  omega

theorem pad2_mod (value : Nat) : pad2 (value % 100) = pad2 value := by
  rw [pad2, pad2]
  congr 2
  · omega
  · congr 1
    omega

theorem digitsValue_pad4 {value : Nat} (small : value ≤ 9999) :
    digitsValue (pad4 value) = value := by
  have high := @digitsValue_pad2 (value / 100) (by omega)
  have low := @digitsValue_pad2 (value % 100) (by omega)
  rw [pad2_mod] at low
  rw [pad4]
  rw [pad2] at high low ⊢
  rw [pad2]
  rw [List.cons_append, List.cons_append, List.nil_append,
    digitsValue_four, high, low]
  omega

theorem digitsValue_two_lt
    {first second : CodePoint} (isFirst : CodePoint.isDigit first = true)
    (isSecond : CodePoint.isDigit second = true) :
    digitsValue [first, second] < 100 := by
  simp only [CodePoint.isDigit, Bool.and_eq_true, decide_eq_true_eq]
    at isFirst isSecond
  simp only [digitsValue, List.foldl_cons, List.foldl_nil]
  omega

theorem pad4_digitsValue
    {first second third fourth : CodePoint}
    (isFirst : CodePoint.isDigit first = true)
    (isSecond : CodePoint.isDigit second = true)
    (isThird : CodePoint.isDigit third = true)
    (isFourth : CodePoint.isDigit fourth = true) :
    pad4 (digitsValue [first, second, third, fourth]) =
        [first, second, third, fourth] ∧
      digitsValue [first, second, third, fourth] ≤ 9999 := by
  have high := digitsValue_two_lt isFirst isSecond
  have low := digitsValue_two_lt isThird isFourth
  rw [digitsValue_four]
  constructor
  · have upper : (100 * digitsValue [first, second] +
        digitsValue [third, fourth]) / 100 =
          digitsValue [first, second] := by omega
    have lower : (100 * digitsValue [first, second] +
        digitsValue [third, fourth]) % 100 =
          digitsValue [third, fourth] := by omega
    rw [pad4, upper, pad2_digitsValue isFirst isSecond, ← pad2_mod, lower,
      pad2_digitsValue isThird isFourth]
    rfl
  · omega

/-! ## Shapes and renderings -/

theorem pad2_isDigit (value : Nat) :
    (pad2 value).all CodePoint.isDigit = true := by
  have tens := @digitPoint_isDigit (value / 10 % 10)
    (Nat.mod_lt _ (by decide))
  have units := @digitPoint_isDigit (value % 10)
    (Nat.mod_lt _ (by decide))
  simp [pad2, tens, units]

theorem render_of_timestampShape
    {value suffix : Text} {fields : TimestampFields}
    (shape : timestampShape value = some (fields, suffix)) :
    value = fields.render ++ suffix ∧ fields.year ≤ 9999 := by
  rw [timestampShape.eq_def] at shape
  split at shape
  · next y₁ y₂ y₃ y₄ dash₁ m₁ m₂ dash₂ d₁ d₂ t h₁ h₂ colon₁ n₁ n₂ colon₂
      s₁ s₂ rest =>
      simp only at shape
      split_ifs at shape with isShape
      obtain ⟨digits, separators, -⟩ := isShape
      rw [Option.some.injEq, Prod.mk.injEq] at shape
      obtain ⟨rfl, rfl⟩ := shape
      simp only [List.all_cons, List.all_nil, Bool.and_true,
        Bool.and_eq_true] at digits
      obtain ⟨isY₁, isY₂, isY₃, isY₄, isM₁, isM₂, isD₁, isD₂, isH₁, isH₂,
        isN₁, isN₂, isS₁, isS₂⟩ := digits
      have literal : [dash₁, dash₂, t, colon₁, colon₂] =
          [codePoint '-', codePoint '-', codePoint 'T', codePoint ':',
            codePoint ':'] := separators
      simp only [List.cons.injEq, and_true] at literal
      obtain ⟨rfl, rfl, rfl, rfl, rfl⟩ := literal
      obtain ⟨year, bound⟩ := pad4_digitsValue isY₁ isY₂ isY₃ isY₄
      refine ⟨?_, bound⟩
      simp only [TimestampFields.render, year,
        pad2_digitsValue isM₁ isM₂, pad2_digitsValue isD₁ isD₂,
        pad2_digitsValue isH₁ isH₂, pad2_digitsValue isN₁ isN₂,
        pad2_digitsValue isS₁ isS₂, List.cons_append, List.nil_append]
  · cases shape

theorem timestampShape_render
    {fields : TimestampFields} (inRange : fields.inRange = true)
    (year : fields.year ≤ 9999) (suffix : Text) :
    timestampShape (fields.render ++ suffix) = some (fields, suffix) := by
  have bounds := inRange
  simp only [TimestampFields.inRange, Bool.and_eq_true,
    decide_eq_true_eq] at bounds
  have isYear := digitsValue_pad4 year
  have isMonth := @digitsValue_pad2 fields.month (by omega)
  have isDay := @digitsValue_pad2 fields.day (by omega)
  have isHour := @digitsValue_pad2 fields.hour (by omega)
  have isMinute := @digitsValue_pad2 fields.minute (by omega)
  have isSecond := @digitsValue_pad2 fields.second (by omega)
  have digits : (pad4 fields.year ++ pad2 fields.month ++
      pad2 fields.day ++ pad2 fields.hour ++ pad2 fields.minute ++
      pad2 fields.second).all CodePoint.isDigit = true := by
    simp only [pad4, List.all_append, pad2_isDigit, Bool.and_true]
  simp only [pad4, pad2, List.cons_append, List.nil_append]
    at isYear isMonth isDay isHour isMinute isSecond digits
  simp only [TimestampFields.render, pad4, pad2, List.cons_append,
    List.nil_append, timestampShape, isYear, isMonth, isDay, isHour,
    isMinute, isSecond]
  exact if_pos ⟨digits, rfl, inRange⟩

/-- The calendars coincide. -/
theorem daysInMonth_eq
    {year month : Nat} (low : 1 ≤ month) (high : month ≤ 12) :
    daysInMonth year month = gregorianDays year month := by
  have leap : isLeap year = true ↔ IsLeapYear year := by
    simp only [isLeap, IsLeapYear, Bool.and_eq_true, Bool.or_eq_true,
      decide_eq_true_eq, Nat.dvd_iff_mod_eq_zero, ne_eq]
  rw [daysInMonth, if_neg (by omega)]
  by_cases february : month = 2
  · subst february
    by_cases isLeapYear : IsLeapYear year
    · rw [if_pos ⟨rfl, leap.mpr isLeapYear⟩, gregorianDays, if_pos rfl,
        if_pos isLeapYear]
    · rw [if_neg fun both => isLeapYear (leap.mp both.2), gregorianDays,
        if_pos rfl, if_neg isLeapYear]
      rfl
  · rw [if_neg fun both => february both.1, gregorianDays,
      if_neg february]
    interval_cases month <;> simp_all

/-! ## Reading the format -/

theorem readField_eq
    {mark : CodePoint} {accepts : Text → Bool} {field : Text}
    (unmarked : ∀ point ∈ field, isMark mark point = false)
    (digits : ∀ point ∈ field, CodePoint.isDigit point = true)
    (accepted : accepts field = true) (rest : Text) :
    readField mark accepts (field ++ mark :: rest) =
      some (digitsValue field, rest) := by
  have marked : isMark mark mark = true := by simp [isMark]
  have taken : (field ++ mark :: rest).takeWhile
      (fun point => !isMark mark point) = field := by
    rw [List.takeWhile_append_of_pos fun point member => by
      simp [unmarked point member]]
    simp [marked]
  have dropped : (field ++ mark :: rest).dropWhile
      (fun point => !isMark mark point) = mark :: rest := by
    rw [List.dropWhile_append_of_pos fun point member => by
      simp [unmarked point member]]
    simp [marked]
  simp only [readField, taken, dropped, accepted, if_true,
    List.filter_eq_self.mpr digits]

theorem isMark_of_isDigit
    {mark point : CodePoint} (digit : CodePoint.isDigit point = true)
    (notDigit : CodePoint.isDigit mark = false) :
    isMark mark point = false := by
  have differs : ∀ char : CodePoint, CodePoint.isDigit char = false →
      point ≠ char := fun _ other => isDigit_ne digit other
  simp [isMark, differs mark notDigit,
    differs (codePoint 't') (by decide), differs (codePoint 'z') (by decide)]

/-- A padded number is read back. -/
theorem readField_pad2
    {mark : CodePoint} {accepts : Text → Bool} {value : Nat}
    (small : value < 100) (notDigit : CodePoint.isDigit mark = false)
    (accepted : accepts (pad2 value) = true) (rest : Text) :
    readField mark accepts (pad2 value ++ mark :: rest) =
      some (value, rest) := by
  have digits := List.all_eq_true.mp (pad2_isDigit value)
  rw [readField_eq
    (fun point member => isMark_of_isDigit (digits point member) notDigit)
    digits accepted, digitsValue_pad2 small]

theorem isField_pad2
    {low high value : Nat} (above : low ≤ value) (below : value ≤ high)
    (small : value < 100) : isField low high (pad2 value) = true := by
  simp only [isField, pad2_isDigit, digitsValue_pad2 small, Bool.and_true,
    Bool.and_eq_true, decide_eq_true_eq]
  exact ⟨⟨by simp [pad2], above⟩, below⟩

/-- `strptime` reads a rendering back. -/
theorem readFormat_render
    {fields : TimestampFields} (inRange : fields.inRange = true)
    (year : fields.year ≤ 9999) :
    readFormat (fields.render ++ text "Z") = some fields := by
  simp only [TimestampFields.inRange, Bool.and_eq_true,
    decide_eq_true_eq] at inRange
  obtain ⟨⟨⟨⟨⟨⟨month₁, month₂⟩, day₁⟩, day₂⟩, hour⟩, minute⟩, second⟩ :=
    inRange
  have digits : ∀ point ∈ pad4 fields.year,
      CodePoint.isDigit point = true := by
    intro point member
    rcases List.mem_append.mp member with inHigh | inLow
    · exact List.all_eq_true.mp (pad2_isDigit _) point inHigh
    · exact List.all_eq_true.mp (pad2_isDigit _) point inLow
  have isYear : ((fun field : Text => decide (field.length = 4) &&
      field.all CodePoint.isDigit) (pad4 fields.year)) = true := by
    simp only [List.all_eq_true.mpr digits, Bool.and_true,
      decide_eq_true_eq]
    rfl
  have isDay : isDayField (pad2 fields.day) = true := by
    rw [isDayField, isField_pad2 day₁ day₂ (by omega), Bool.true_or]
  have laidOut : fields.render ++ text "Z" =
      pad4 fields.year ++ codePoint '-' :: (pad2 fields.month ++
        codePoint '-' :: (pad2 fields.day ++ codePoint 'T' ::
          (pad2 fields.hour ++ codePoint ':' :: (pad2 fields.minute ++
            codePoint ':' :: (pad2 fields.second ++
              codePoint 'Z' :: []))))) := by
    simp [TimestampFields.render, text]
  rw [laidOut, readFormat,
    readField_eq (fun point member => isMark_of_isDigit
      (digits point member) (by decide)) digits isYear]
  simp only [Option.bind_eq_bind, Option.bind_some]
  rw [readField_pad2 (by omega) (by decide)
    (isField_pad2 month₁ month₂ (by omega))]
  simp only [Option.bind_some]
  rw [readField_pad2 (by omega) (by decide) isDay]
  simp only [Option.bind_some]
  rw [readField_pad2 (by omega) (by decide)
    (isField_pad2 (Nat.zero_le _) hour (by omega))]
  simp only [Option.bind_some]
  rw [readField_pad2 (by omega) (by decide)
    (isField_pad2 (Nat.zero_le _) minute (by omega))]
  simp only [Option.bind_some]
  rw [readField_pad2 (by omega) (by decide)
    (isField_pad2 (Nat.zero_le _) (by omega) (by omega))]
  simp only [Option.bind_some, if_true, digitsValue_pad4 year]

/-! ## The normal form -/

/-- Numbers within the patterns that name a day of the calendar. -/
structure TimestampFields.Dated (fields : TimestampFields) : Prop where
  inRange : fields.inRange = true
  lastYear : fields.year ≤ 9999
  lastDay : fields.day ≤ daysInMonth fields.year fields.month

/-- The three zone suffixes that `normalize` accepts. -/
def UtcSuffix (suffix : Text) : Prop :=
  suffix = text "Z" ∨ suffix = text "z" ∨ suffix = text "+00:00"

theorem checkCalendar_eq_ok_iff
    {value : Text} {fields : TimestampFields} {result : PUnit}
    (inRange : fields.inRange = true) :
    checkCalendar value fields = .ok result ↔
      fields.day ≤ daysInMonth fields.year fields.month := by
  simp only [TimestampFields.inRange, Bool.and_eq_true,
    decide_eq_true_eq] at inRange
  have timely : ¬ (23 < fields.hour ∨ 59 < fields.minute ∨
      59 < fields.second) := by omega
  simp only [checkCalendar, bind_eq_ok_iff, refuseIf_eq_ok_iff]
  constructor
  · rintro ⟨-, -, dated⟩
    exact not_lt.mp dated
  · intro dated
    exact ⟨⟨⟩, timely, not_lt.mpr dated⟩

theorem render_length (fields : TimestampFields) :
    fields.render.length = 19 :=
  rfl

/-- What `normalize` accepts, and what it returns. -/
theorem normalizeTimestamp_eq_ok_iff {value normal : Text} :
    normalizeTimestamp value = .ok normal ↔
      ∃ (fields : TimestampFields) (suffix : Text), fields.Dated ∧
        UtcSuffix suffix ∧ value = fields.render ++ suffix ∧
        normal = fields.render ++ text "Z" := by
  constructor
  · intro normalized
    rw [normalizeTimestamp] at normalized
    split at normalized
    · next fields suffix shape =>
        split_ifs at normalized with utc
        simp only [bind_eq_ok_iff, pure_eq_ok_iff] at normalized
        obtain ⟨_, checked, rfl⟩ := normalized
        obtain ⟨-, -, inRange, -⟩ := timestampShape_eq_some shape
        obtain ⟨rfl, lastYear⟩ := render_of_timestampShape shape
        refine ⟨fields, suffix, ⟨inRange, lastYear,
          (checkCalendar_eq_ok_iff inRange).mp checked⟩, utc, rfl, ?_⟩
        rw [← render_length fields, List.take_left]
    · cases normalized
  · rintro ⟨fields, suffix, dated, utc, rfl, rfl⟩
    rw [normalizeTimestamp,
      timestampShape_render dated.inRange dated.lastYear suffix]
    have isUtc : suffix = text "Z" ∨ suffix = text "z" ∨
        suffix = text "+00:00" := utc
    simp only
    rw [if_pos isUtc]
    simp only [bind_eq_ok_iff, pure_eq_ok_iff]
    refine ⟨⟨⟩, (checkCalendar_eq_ok_iff dated.inRange).mpr dated.lastDay,
      ?_⟩
    rw [← render_length fields, List.take_left]

/-- What `validate` accepts. -/
theorem validateTimestamp_eq_ok_iff {value : Text} :
    validateTimestamp value = .ok value ↔
      ∃ fields : TimestampFields, fields.Dated ∧
        value = fields.render ++ text "Z" := by
  constructor
  · intro validated
    rw [validateTimestamp] at validated
    split at validated
    · next fields suffix shape =>
        split_ifs at validated with utc
        simp only [bind_eq_ok_iff] at validated
        obtain ⟨_, checked, -⟩ := validated
        obtain ⟨-, -, inRange, -⟩ := timestampShape_eq_some shape
        obtain ⟨isRender, lastYear⟩ := render_of_timestampShape shape
        exact ⟨fields, ⟨inRange, lastYear,
          (checkCalendar_eq_ok_iff inRange).mp checked⟩, by
            rw [isRender, utc]⟩
    · cases validated
  · rintro ⟨fields, dated, rfl⟩
    rw [validateTimestamp,
      timestampShape_render dated.inRange dated.lastYear]
    simp only [if_true, bind_eq_ok_iff, pure_eq_ok_iff]
    exact ⟨⟨⟩, (checkCalendar_eq_ok_iff dated.inRange).mpr dated.lastDay,
      trivial⟩

theorem normalizeTimestamp_error
    {value : Text} {error : PyError}
    (refused : normalizeTimestamp value = .error error) :
    error.kind = .timestampError := by
  rw [normalizeTimestamp] at refused
  split at refused
  · next fields suffix shape =>
      split_ifs at refused with utc
      · simp only [checkCalendar, refuseIf, bind, Except.bind, pure,
          Except.pure] at refused
        split_ifs at refused
        · cases refused
          rfl
        · cases refused
          rfl
        · cases refused
          rfl
      · cases refused
        rfl
  · cases refused
    rfl

/-- Dated numbers after the year 0 are a `datetime`. -/
theorem TimestampFields.Dated.supported_iff
    {fields : TimestampFields} (dated : fields.Dated) :
    fields.Supported ↔ fields.year ≠ 0 := by
  have bounds := dated.inRange
  simp only [TimestampFields.inRange, Bool.and_eq_true,
    decide_eq_true_eq] at bounds
  have lastDay := dated.lastDay
  rw [daysInMonth_eq (by omega) (by omega)] at lastDay
  constructor
  · intro supported
    have first := supported.firstYear
    omega
  · intro nonzero
    exact ⟨by omega, dated.lastYear, by omega, by omega, by omega, lastDay,
      by omega, by omega, by omega⟩

theorem TimestampFields.Supported.dated
    {fields : TimestampFields} (supported : fields.Supported) :
    fields.Dated := by
  have lastDay := supported.lastDay
  have short : gregorianDays fields.year fields.month ≤ 31 := by
    rw [gregorianDays]
    split_ifs <;> omega
  refine ⟨?_, supported.lastYear, ?_⟩
  · simp only [TimestampFields.inRange, Bool.and_eq_true,
      decide_eq_true_eq]
    exact ⟨⟨⟨⟨⟨⟨supported.firstMonth, supported.lastMonth⟩,
      supported.firstDay⟩, lastDay.trans short⟩, supported.hour⟩,
      supported.minute⟩, supported.second⟩
  · rw [daysInMonth_eq supported.firstMonth supported.lastMonth]
    exact lastDay

/-- `strptime` on a canonical timestamp. -/
theorem strptimeUtc_render
    {fields : TimestampFields} (dated : fields.Dated) :
    (∃ instant, strptimeUtc (fields.render ++ text "Z") = .ok instant) ↔
      fields.year ≠ 0 := by
  rw [strptimeUtc, readFormat_render dated.inRange dated.lastYear,
    ← dated.supported_iff]
  simp only [dateTime]
  constructor
  · rintro ⟨instant, read⟩
    by_contra unsupported
    rw [dif_neg unsupported] at read
    cases read
  · intro supported
    exact ⟨_, dif_pos supported⟩

/-- A suffix that `normalize` accepts has no offset. -/
theorem denotedInstant_render
    {fields : TimestampFields} (dated : fields.Dated)
    {suffix : Text} (utc : UtcSuffix suffix) :
    denotedInstant (fields.render ++ suffix) = some fields.elapsed := by
  have offset : offsetMinutes suffix = some 0 := by
    rcases utc with rfl | rfl | rfl <;> decide
  rw [denotedInstant, timestampShape_render dated.inRange dated.lastYear]
  simp [offset]

/--
A text is normalised to a canonical form of the same instant that `datetime`
reads, or refused with a `TimestampError`; and `validate` accepts it exactly
when it is the rendering of a `datetime`.
-/
def HasNormalForm (value : Text) : Prop :=
  ((∃ error, normalizeTimestamp value = .error error ∧
      error.kind = .timestampError) ∨
    ∃ normal, normalizeTimestamp value = .ok normal ∧
      validateTimestamp normal = .ok normal ∧
      denotedInstant normal = denotedInstant value ∧
      normalizeTimestamp normal = .ok normal ∧
      ∃ instant, strptimeUtc normal = .ok instant) ∧
  (validateTimestamp value = .ok value ↔
    ∃ instant : DateTime, value = strftimeUtc instant)

/-- A well-formed timestamp of the year 0. -/
def OfYearZero (value : Text) : Prop :=
  ∃ (fields : TimestampFields) (suffix : Text), fields.Dated ∧
    UtcSuffix suffix ∧ value = fields.render ++ suffix ∧ fields.year = 0

/-- A timestamp of the year 0 is normalised to a text `datetime` refuses. -/
theorem OfYearZero.not_hasNormalForm
    {value : Text} (yearZero : OfYearZero value) :
    ¬ HasNormalForm value := by
  rintro ⟨outcome, -⟩
  obtain ⟨fields, suffix, dated, utc, rfl, zero⟩ := yearZero
  have normalized := normalizeTimestamp_eq_ok_iff.mpr
    ⟨fields, suffix, dated, utc, rfl, rfl⟩
  rcases outcome with ⟨error, refused, -⟩ |
    ⟨normal, isNormal, -, -, -, read⟩
  · rw [normalized] at refused
    cases refused
  · rw [normalized] at isNormal
    cases isNormal
    exact (strptimeUtc_render dated).mp read zero

/-- Timestamps have a normal form exactly when they are not of year 0. -/
theorem hasNormalForm_iff (value : Text) :
    HasNormalForm value ↔ ¬ OfYearZero value := by
  constructor
  · intro normal yearZero
    exact yearZero.not_hasNormalForm normal
  · intro later
    constructor
    · cases outcome : normalizeTimestamp value with
      | error error =>
          exact .inl ⟨error, rfl, normalizeTimestamp_error outcome⟩
      | ok normal =>
          obtain ⟨fields, suffix, dated, utc, rfl, rfl⟩ :=
            normalizeTimestamp_eq_ok_iff.mp outcome
          have nonzero : fields.year ≠ 0 := fun zero =>
            later ⟨fields, suffix, dated, utc, rfl, zero⟩
          refine .inr ⟨_, rfl, ?_, ?_, ?_, ?_⟩
          · exact validateTimestamp_eq_ok_iff.mpr ⟨fields, dated, rfl⟩
          · rw [denotedInstant_render dated utc,
              denotedInstant_render dated (.inl rfl)]
          · exact normalizeTimestamp_eq_ok_iff.mpr
              ⟨fields, text "Z", dated, .inl rfl, rfl, rfl⟩
          · exact (strptimeUtc_render dated).mpr nonzero
    · rw [validateTimestamp_eq_ok_iff]
      constructor
      · rintro ⟨fields, dated, rfl⟩
        have nonzero : fields.year ≠ 0 := fun zero =>
          later ⟨fields, text "Z", dated, .inl rfl, rfl, zero⟩
        exact ⟨⟨fields, dated.supported_iff.mpr nonzero⟩, rfl⟩
      · rintro ⟨instant, rfl⟩
        exact ⟨instant.fields, instant.supported.dated, rfl⟩

/-- The first of January of the year 0 has no normal form. -/
theorem yearZero_no_normal_form :
    ¬ HasNormalForm (text "0000-01-01T00:00:00Z") := by
  have dated : TimestampFields.Dated ⟨0, 1, 1, 0, 0, 0⟩ :=
    ⟨by decide, by decide, by decide⟩
  have yearZero : OfYearZero (text "0000-01-01T00:00:00Z") :=
    ⟨_, text "Z", dated, .inl rfl, by decide, rfl⟩
  exact yearZero.not_hasNormalForm

end ScientificResourceLab.Contracts
