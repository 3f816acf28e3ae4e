import ScientificResourceLab.Packs.UnitConversion
import ScientificResourceLab.Packs.UnitNames
import ScientificResourceLab.Python.Substitution

/-!
# Products of units

`_normalise_ucum` on the dotted form of a product.  The dots become stars
first, and then each symbol with its exponent becomes a power; the second
substitution leaves alone what it has produced.
-/

namespace ScientificResourceLab.Packs.Units

open Python

/-! ## Factors -/

/-- A symbol of ASCII letters with an exponent. -/
structure Factor where
  symbol : Text
  exponent : Int
  nonempty : symbol ≠ []
  letters : ∀ point ∈ symbol, CodePoint.isAsciiLetter point = true
  nonzero : exponent ≠ 0

namespace Factor

/-- The exponent as it is written; one is left out. -/
def exponentText (factor : Factor) : Text :=
  if factor.exponent = 1 then [] else intText factor.exponent

/-- The factor in the dotted form, such as `s-2`. -/
def dotted (factor : Factor) : Text :=
  factor.symbol ++ factor.exponentText

/-- The factor as a power, such as `s**-2`. -/
def power (factor : Factor) : Text :=
  aliased factor.symbol ++
    if factor.exponent = 1 then [] else text "**" ++ factor.exponentText

end Factor

/-- The factors joined with dots. -/
def dottedForm (factors : List Factor) : Text :=
  List.intercalate [codePoint '.'] (factors.map Factor.dotted)

/-- The powers joined with stars. -/
def productForm (factors : List Factor) : Text :=
  List.intercalate [codePoint '*'] (factors.map Factor.power)

/-- The dotted form with its dots replaced. -/
def starredForm (factors : List Factor) : Text :=
  List.intercalate [codePoint '*'] (factors.map Factor.dotted)

/-! ## The code points of a factor -/

theorem aliased_eq (token : Text) :
    aliased token = if token = text "Ohm" then text "ohm" else token := by
  unfold aliased ucumAliases
  rw [List.lookup_cons]
  by_cases isAlias : token = text "Ohm"
  · rw [if_pos isAlias, isAlias, beq_self_eq_true]
    rfl
  · rw [if_neg isAlias, beq_false_of_ne isAlias]
    rfl

@[simp]
theorem aliased_aliased (token : Text) :
    aliased (aliased token) = aliased token := by
  rw [aliased_eq token]
  split_ifs with isAlias
  · decide
  · rw [aliased_eq, if_neg isAlias]

theorem aliased_letters
    {token : Text} (nonempty : token ≠ [])
    (letters : ∀ point ∈ token, CodePoint.isAsciiLetter point = true) :
    aliased token ≠ [] ∧
      ∀ point ∈ aliased token, CodePoint.isAsciiLetter point = true := by
  rw [aliased_eq]
  split_ifs
  · have ohm : (text "ohm").all CodePoint.isAsciiLetter = true := rfl
    exact ⟨List.cons_ne_nil _ _, List.all_eq_true.mp ohm⟩
  · exact ⟨nonempty, letters⟩

/-- The power operator consists of stars. -/
theorem eq_star_of_mem
    {point : CodePoint} (member : point ∈ text "**") :
    point = codePoint '*' := by
  have stars : text "**" = List.replicate 2 (codePoint '*') := rfl
  rw [stars] at member
  exact List.eq_of_mem_replicate member

/-- A code point of a product: of a symbol, an exponent or an operator. -/
def IsProductPoint (point : CodePoint) : Prop :=
  CodePoint.isAsciiLetter point = true ∨ CodePoint.isDigit point = true ∨
    point = codePoint '-' ∨ point = codePoint '*' ∨ point = codePoint '.'

theorem IsProductPoint.noSpace
    {point : CodePoint} (isPoint : IsProductPoint point) :
    CodePoint.isSpace point = false := by
  rcases isPoint with isLetter | isDigit | rfl | rfl | rfl
  · simp only [CodePoint.isAsciiLetter, Bool.or_eq_true, Bool.and_eq_true,
      decide_eq_true_eq] at isLetter
    simp only [CodePoint.isSpace, Bool.or_eq_false_iff,
      Bool.and_eq_false_imp, decide_eq_true_eq, decide_eq_false_iff_not]
    omega
  · exact isSpace_of_isDigit isDigit
  · decide
  · decide
  · decide

theorem mem_intText
    {value : Int} {point : CodePoint} (member : point ∈ intText value) :
    CodePoint.isDigit point = true ∨ point = codePoint '-' := by
  rcases List.mem_append.mp member with isSign | isDigit
  · split_ifs at isSign
    · exact .inr (List.mem_singleton.mp isSign)
    · exact absurd isSign List.not_mem_nil
  · exact .inl (decimalText_isDigit value.natAbs point isDigit)

namespace Factor

theorem mem_exponentText
    {factor : Factor} {point : CodePoint}
    (member : point ∈ factor.exponentText) :
    CodePoint.isDigit point = true ∨ point = codePoint '-' := by
  unfold exponentText at member
  split_ifs at member
  · exact absurd member List.not_mem_nil
  · exact mem_intText member

theorem mem_dotted
    {factor : Factor} {point : CodePoint} (member : point ∈ factor.dotted) :
    CodePoint.isAsciiLetter point = true ∨
      CodePoint.isDigit point = true ∨ point = codePoint '-' := by
  rcases List.mem_append.mp member with isSymbol | isExponent
  · exact .inl (factor.letters point isSymbol)
  · exact .inr (mem_exponentText isExponent)

theorem mem_power
    {factor : Factor} {point : CodePoint} (member : point ∈ factor.power) :
    CodePoint.isAsciiLetter point = true ∨
      CodePoint.isDigit point = true ∨ point = codePoint '-' ∨
        point = codePoint '*' := by
  have shown := aliased_letters factor.nonempty factor.letters
  rcases List.mem_append.mp member with isSymbol | isExponent
  · exact .inl (shown.2 point isSymbol)
  · split_ifs at isExponent
    · exact absurd isExponent List.not_mem_nil
    · rcases List.mem_append.mp isExponent with isStar | isExponent
      · exact .inr (.inr (.inr (eq_star_of_mem isStar)))
      · rcases mem_exponentText isExponent with isDigit | isSign
        · exact .inr (.inl isDigit)
        · exact .inr (.inr (.inl isSign))

end Factor

theorem mem_join
    {separator : CodePoint} {parts : List Text} {point : CodePoint}
    (member : point ∈ List.intercalate [separator] parts) :
    point = separator ∨ ∃ part ∈ parts, point ∈ part := by
  induction parts with
  | nil => exact absurd member List.not_mem_nil
  | cons part rest induction =>
      cases rest with
      | nil =>
          rw [List.intercalate_singleton] at member
          exact .inr ⟨part, List.mem_cons_self, member⟩
      | cons next others =>
          rw [List.intercalate_cons_cons, List.mem_append,
            List.mem_append, List.mem_singleton] at member
          rcases member with (inPart | isSeparator) | inRest
          · exact .inr ⟨part, List.mem_cons_self, inPart⟩
          · exact .inl isSeparator
          · rcases induction inRest with isSeparator | ⟨other, isPart, found⟩
            · exact .inl isSeparator
            · exact .inr ⟨other, List.mem_cons_of_mem _ isPart, found⟩

/-! ## White space -/

/-- A text without white space is its own only word. -/
theorem joinWords_words
    {value : Text}
    (noSpace : ∀ point ∈ value, CodePoint.isSpace point = false) :
    joinWords (words (strip value)) = value := by
  rw [strip_of_noSpace noSpace, words, runs,
    List.splitOnP_eq_singleton (by simpa using noSpace)]
  by_cases isNil : value = []
  · rw [isNil]
    rfl
  · rw [List.filter_cons_of_pos (by simpa using isNil), List.filter_nil,
      joinWords, List.intercalate_singleton]

theorem dottedForm_noSpace (factors : List Factor) :
    ∀ point ∈ dottedForm factors, CodePoint.isSpace point = false := by
  intro point member
  apply IsProductPoint.noSpace
  rcases mem_join member with isDot | ⟨part, isPart, inside⟩
  · exact .inr (.inr (.inr (.inr isDot)))
  · obtain ⟨factor, -, rfl⟩ := List.mem_map.mp isPart
    rcases Factor.mem_dotted inside with isLetter | isDigit | isSign
    · exact .inl isLetter
    · exact .inr (.inl isDigit)
    · exact .inr (.inr (.inl isSign))

theorem mem_productForm
    {factors : List Factor} {point : CodePoint}
    (member : point ∈ productForm factors) :
    CodePoint.isAsciiLetter point = true ∨
      CodePoint.isDigit point = true ∨ point = codePoint '-' ∨
        point = codePoint '*' := by
  rcases mem_join member with isStar | ⟨part, isPart, inside⟩
  · exact .inr (.inr (.inr isStar))
  · obtain ⟨factor, -, rfl⟩ := List.mem_map.mp isPart
    exact Factor.mem_power inside

theorem productForm_noSpace (factors : List Factor) :
    ∀ point ∈ productForm factors, CodePoint.isSpace point = false := by
  intro point member
  apply IsProductPoint.noSpace
  rcases mem_productForm member with isLetter | isDigit | isSign | isStar
  · exact .inl isLetter
  · exact .inr (.inl isDigit)
  · exact .inr (.inr (.inl isSign))
  · exact .inr (.inr (.inr (.inl isStar)))

/-! ## Dots -/

theorem separatorDot_passes
    {point : CodePoint} (notDot : point ≠ codePoint '.') :
    Passes separatorDot point := by
  intro previous rest
  cases previous with
  | none => rfl
  | some before =>
      cases rest with
      | nil => rfl
      | cons after rest =>
          rw [separatorDot, if_neg fun holds => notDot holds.1]

theorem ne_dot
    {point : CodePoint}
    (isFactor : CodePoint.isAsciiLetter point = true ∨
      CodePoint.isDigit point = true ∨ point = codePoint '-') :
    point ≠ codePoint '.' := by
  rintro rfl
  revert isFactor
  decide

theorem Factor.dotted_last (factor : Factor) :
    ∃ front last, factor.dotted = front ++ [last] ∧
      (CodePoint.isAsciiLetter last = true ∨
        CodePoint.isDigit last = true) := by
  by_cases isOne : factor.exponent = 1
  · refine ⟨factor.symbol.dropLast, factor.symbol.getLast factor.nonempty,
      ?_, .inl (factor.letters _ (List.getLast_mem factor.nonempty))⟩
    rw [dotted, exponentText, if_pos isOne, List.append_nil,
      List.dropLast_append_getLast]
  · have digits := decimalText_ne_nil factor.exponent.natAbs
    refine ⟨factor.symbol ++
      ((if factor.exponent < 0 then [codePoint '-'] else []) ++
        (decimalText factor.exponent.natAbs).dropLast),
      (decimalText factor.exponent.natAbs).getLast digits, ?_,
      .inr (decimalText_isDigit _ _ (List.getLast_mem digits))⟩
    rw [dotted, exponentText, if_neg isOne, intText, List.append_assoc,
      List.append_assoc, List.dropLast_append_getLast]

theorem head_dottedForm (factor : Factor) (rest : List Factor) :
    ∃ first more, dottedForm (factor :: rest) = first :: more ∧
      CodePoint.isAsciiLetter first = true := by
  obtain ⟨first, others, isSymbol⟩ :=
    List.exists_cons_of_ne_nil factor.nonempty
  have isLetter := factor.letters first (isSymbol ▸ List.mem_cons_self)
  cases rest with
  | nil =>
      refine ⟨first, others ++ factor.exponentText, ?_, isLetter⟩
      rw [dottedForm, List.map_cons, List.map_nil,
        List.intercalate_singleton, Factor.dotted, isSymbol,
        List.cons_append]
  | cons next more =>
      refine ⟨first, others ++ factor.exponentText ++ [codePoint '.'] ++
        dottedForm (next :: more), ?_, isLetter⟩
      rw [dottedForm, List.map_cons, List.map_cons,
        List.intercalate_cons_cons, Factor.dotted, isSymbol]
      rfl

/-- The first substitution replaces the dots. -/
theorem substituteFrom_separatorDot
    (factors : List Factor) (previous : Option CodePoint) :
    substituteFrom separatorDot previous 0 (dottedForm factors) =
      starredForm factors := by
  induction factors generalizing previous with
  | nil => rfl
  | cons factor rest induction =>
      have passes : ∀ point ∈ factor.dotted, Passes separatorDot point :=
        fun point member =>
          separatorDot_passes (ne_dot (Factor.mem_dotted member))
      cases rest with
      | nil =>
          have copied := substituteFrom_copy passes previous []
          rw [substituteFrom, List.append_nil] at copied
          rw [dottedForm, starredForm, List.map_cons, List.map_nil,
            List.intercalate_singleton, List.intercalate_singleton, copied]
      | cons next others =>
          obtain ⟨front, last, ends, isLast⟩ := factor.dotted_last
          obtain ⟨first, more, starts, isFirst⟩ :=
            head_dottedForm next others
          have found :
              separatorDot (some last)
                  ([codePoint '.'] ++ dottedForm (next :: others)) =
                some ⟨[codePoint '.'].length, text "*"⟩ := by
            rw [starts, List.cons_append, List.nil_append, separatorDot,
              if_pos ⟨rfl, isLast.imp_right .inl, .inl isFirst⟩]
            rfl
          have split :
              dottedForm (factor :: next :: others) =
                factor.dotted ++
                  ([codePoint '.'] ++ dottedForm (next :: others)) := by
            rw [dottedForm, List.map_cons, List.map_cons,
              List.intercalate_cons_cons, List.append_assoc]
            rfl
          rw [split, substituteFrom_copy passes, ends, lastPoint_concat,
            substituteFrom_found (List.cons_ne_nil _ _) found, induction,
            ← ends]
          rw [starredForm, starredForm, List.map_cons, List.map_cons,
            List.map_cons, List.intercalate_cons_cons, List.append_assoc]
          rfl

/-! ## Symbols -/

variable (tables : UnicodeTables)

/-- Nothing follows, or a star. -/
def Stops (rest : Text) : Prop :=
  ∀ point ∈ rest.head?, point = codePoint '*'

theorem Stops.fails
    {rest : Text} (stops : Stops rest) {holds : CodePoint → Bool}
    (notStar : holds (codePoint '*') = false) :
    ∀ point ∈ rest.head?, holds point = false := by
  intro point isHead
  rw [stops point isHead, notStar]

theorem notDecimal_star : tables.isDecimal (codePoint '*') = false :=
  tables.isDecimal_ascii (codePoint '*') (by decide)

theorem isDecimal_of_isDigit
    {point : CodePoint} (isDigit : CodePoint.isDigit point = true) :
    tables.isDecimal point = true := by
  rw [tables.isDecimal_ascii point]
  · exact isDigit
  · simp only [CodePoint.isDigit, Bool.and_eq_true, decide_eq_true_eq]
      at isDigit
    omega

/-- Letters before a star are looked up among the aliases. -/
theorem symbolToken_letters
    {letters rest : Text} (nonempty : letters ≠ [])
    (areLetters : ∀ point ∈ letters, CodePoint.isAsciiLetter point = true)
    (stops : Stops rest) (previous : Option CodePoint) :
    symbolToken tables previous (letters ++ rest) =
      some ⟨letters.length, aliased letters⟩ := by
  have taken := takeWhile_append_stop areLetters (stops.fails (by decide))
  have noSign :
      (rest.take 1).filter (fun point => point = codePoint '-') = [] := by
    cases rest with
    | nil => rfl
    | cons point rest =>
        rw [stops point rfl]
        rfl
  have noDigits : rest.takeWhile tables.isDecimal = [] := by
    have none : ∀ point ∈ ([] : Text), tables.isDecimal point = true := by
      simp
    exact takeWhile_append_stop none (stops.fails (notDecimal_star tables))
  simp only [symbolToken]
  rw [taken, List.drop_left, if_neg nonempty, noSign, List.length_nil,
    List.drop_zero, noDigits, rewrite, if_pos rfl, List.append_nil]
  rfl

/-- A symbol with a sign and digits before a star becomes a power. -/
theorem symbolToken_digits
    {letters sign digits rest : Text} (nonempty : letters ≠ [])
    (areLetters : ∀ point ∈ letters, CodePoint.isAsciiLetter point = true)
    (isSign : sign = [] ∨ sign = [codePoint '-']) (isNumber : digits ≠ [])
    (areDigits : ∀ point ∈ digits, CodePoint.isDigit point = true)
    (stops : Stops rest) (previous : Option CodePoint) :
    symbolToken tables previous (letters ++ (sign ++ (digits ++ rest))) =
      some ⟨letters.length + sign.length + digits.length,
        aliased letters ++ text "**" ++ sign ++ digits⟩ := by
  obtain ⟨first, more, isFirst⟩ := List.exists_cons_of_ne_nil isNumber
  have firstDigit := areDigits first (isFirst ▸ List.mem_cons_self)
  have notSign : first ≠ codePoint '-' := by
    rintro rfl
    revert firstDigit
    decide
  have notLetter : CodePoint.isAsciiLetter first = false := by
    simp only [CodePoint.isDigit, Bool.and_eq_true, decide_eq_true_eq]
      at firstDigit
    simp only [CodePoint.isAsciiLetter, Bool.or_eq_false_iff,
      Bool.and_eq_false_imp, decide_eq_true_eq, decide_eq_false_iff_not]
    omega
  have taken :
      (letters ++ (sign ++ (digits ++ rest))).takeWhile
        CodePoint.isAsciiLetter = letters := by
    apply takeWhile_append_stop areLetters
    intro point isHead
    rcases isSign with rfl | rfl
    · rw [isFirst, List.nil_append] at isHead
      cases isHead
      exact notLetter
    · cases isHead
      decide
  have signs :
      ((sign ++ (digits ++ rest)).take 1).filter
        (fun point => point = codePoint '-') = sign := by
    rcases isSign with rfl | rfl
    · rw [isFirst, List.nil_append, List.cons_append, List.take_succ_cons,
        List.take_zero]
      simp [notSign]
    · rfl
  have counted : (digits ++ rest).takeWhile tables.isDecimal = digits :=
    takeWhile_append_stop
      (fun point member => isDecimal_of_isDigit tables
        (areDigits point member))
      (stops.fails (notDecimal_star tables))
  simp only [symbolToken]
  rw [taken, List.drop_left, if_neg nonempty, signs, List.drop_left,
    counted, rewrite, if_neg isNumber]

namespace Factor

/-- A factor before a star becomes its power. -/
theorem symbolToken_dotted
    (factor : Factor) {rest : Text} (stops : Stops rest)
    (previous : Option CodePoint) :
    symbolToken tables previous (factor.dotted ++ rest) =
      some ⟨factor.dotted.length, factor.power⟩ := by
  unfold dotted power
  by_cases isOne : factor.exponent = 1
  · have written : factor.exponentText = [] := by
      rw [exponentText, if_pos isOne]
    rw [written, if_pos isOne, List.append_nil, List.append_nil]
    exact symbolToken_letters tables factor.nonempty factor.letters stops
      previous
  · have written : factor.exponentText =
        (if factor.exponent < 0 then [codePoint '-'] else []) ++
          decimalText factor.exponent.natAbs := by
      rw [exponentText, if_neg isOne, intText]
    have isSign :
        (if factor.exponent < 0 then [codePoint '-'] else []) = [] ∨
        (if factor.exponent < 0 then [codePoint '-'] else []) =
          [codePoint '-'] := by
      split_ifs
      · exact .inr rfl
      · exact .inl rfl
    have found := symbolToken_digits tables factor.nonempty factor.letters
      isSign (decimalText_ne_nil factor.exponent.natAbs)
      (decimalText_isDigit factor.exponent.natAbs) stops previous
    rw [if_neg isOne, written, List.append_assoc, List.append_assoc, found,
      List.length_append, List.length_append, Nat.add_assoc,
      List.append_assoc, List.append_assoc]

end Factor

/-- What follows the first of some joined parts. -/
def restOf (parts : List Text) : Text :=
  if parts = [] then []
  else codePoint '*' :: List.intercalate [codePoint '*'] parts

theorem stops_restOf (parts : List Text) : Stops (restOf parts) := by
  intro point isHead
  unfold restOf at isHead
  split_ifs at isHead
  · cases isHead
  · cases isHead
    rfl

theorem join_cons (part : Text) (parts : List Text) :
    List.intercalate [codePoint '*'] (part :: parts) =
      part ++ restOf parts := by
  cases parts with
  | nil => simp [restOf]
  | cons next others =>
      rw [List.intercalate_cons_cons, List.append_assoc]
      rfl

theorem symbolToken_passes
    {point : CodePoint} (notLetter : CodePoint.isAsciiLetter point = false) :
    Passes (symbolToken tables) point := by
  intro previous rest
  have none : (point :: rest).takeWhile CodePoint.isAsciiLetter = [] :=
    List.takeWhile_cons_of_neg (by simp [notLetter])
  simp only [symbolToken]
  rw [none, if_pos rfl]

theorem notLetter_star : CodePoint.isAsciiLetter (codePoint '*') = false := by
  decide

/-- The second substitution goes through the parts one after the other. -/
theorem substituteFrom_join
    {partOf resultOf : Factor → Text}
    (each : ∀ (factor : Factor) (rest : Text) (previous : Option CodePoint),
      Stops rest → ∃ later,
        substituteFrom (symbolToken tables) previous 0
            (partOf factor ++ rest) =
          resultOf factor ++
            substituteFrom (symbolToken tables) later 0 rest)
    (factors : List Factor) (previous : Option CodePoint) :
    substituteFrom (symbolToken tables) previous 0
        (List.intercalate [codePoint '*'] (factors.map partOf)) =
      List.intercalate [codePoint '*'] (factors.map resultOf) := by
  induction factors generalizing previous with
  | nil => rfl
  | cons factor rest induction =>
      obtain ⟨later, replaced⟩ := each factor (restOf (rest.map partOf))
        previous (stops_restOf _)
      rw [List.map_cons, List.map_cons, join_cons, join_cons, replaced]
      congr 1
      cases rest with
      | nil => rfl
      | cons next others =>
          have passes : ∀ point ∈ [codePoint '*'],
              Passes (symbolToken tables) point := by
            intro point isStar
            rw [List.mem_singleton.mp isStar]
            exact symbolToken_passes tables notLetter_star
          have copied := substituteFrom_copy passes later
            (List.intercalate [codePoint '*']
              ((next :: others).map partOf))
          rw [induction] at copied
          exact copied

/-- Starred factors become powers. -/
theorem substitute_starredForm (factors : List Factor) :
    substitute (symbolToken tables) (starredForm factors) =
      productForm factors := by
  apply substituteFrom_join
  intro factor rest previous stops
  have nonempty : factor.dotted ≠ [] :=
    List.append_ne_nil_of_left_ne_nil factor.nonempty _
  exact ⟨_, substituteFrom_found nonempty
    (factor.symbolToken_dotted tables stops previous)⟩

/-- Powers stay as they are. -/
theorem substitute_productForm (factors : List Factor) :
    substitute (symbolToken tables) (productForm factors) =
      productForm factors := by
  apply substituteFrom_join
  intro factor rest previous stops
  have shown := aliased_letters factor.nonempty factor.letters
  unfold Factor.power
  by_cases isOne : factor.exponent = 1
  · rw [if_pos isOne, List.append_nil]
    have found := symbolToken_letters tables shown.1 shown.2 stops previous
    rw [aliased_aliased] at found
    exact ⟨_, substituteFrom_found shown.1 found⟩
  · rw [if_neg isOne, List.append_assoc, List.append_assoc]
    have starred :
        Stops (text "**" ++ (factor.exponentText ++ rest)) := by
      intro point isHead
      cases isHead
      rfl
    have found := symbolToken_letters tables shown.1 shown.2 starred previous
    rw [aliased_aliased] at found
    have passes : ∀ point ∈ text "**" ++ factor.exponentText,
        Passes (symbolToken tables) point := by
      intro point member
      apply symbolToken_passes
      rcases List.mem_append.mp member with isStar | isExponent
      · rw [eq_star_of_mem isStar]
        exact notLetter_star
      · rcases Factor.mem_exponentText isExponent with isDigit | rfl
        · simp only [CodePoint.isDigit, Bool.and_eq_true,
            decide_eq_true_eq] at isDigit
          simp only [CodePoint.isAsciiLetter, Bool.or_eq_false_iff,
            Bool.and_eq_false_imp, decide_eq_true_eq,
            decide_eq_false_iff_not]
          omega
        · decide
    have copied := substituteFrom_copy passes
      (lastPoint previous (aliased factor.symbol)) rest
    have replaced := substituteFrom_found shown.1 found
    rw [← List.append_assoc (text "**"), copied] at replaced
    rw [← List.append_assoc (text "**")]
    exact ⟨_, replaced.trans (List.append_assoc _ _ _).symm⟩

/-! ## Normalising a product -/

/--
The dotted form of a product becomes the product of its powers, and that is
left as it is.
-/
theorem normaliseUcum_dottedForm (factors : List Factor) :
    normaliseUcum tables (dottedForm factors) = productForm factors ∧
      normaliseUcum tables (productForm factors) = productForm factors := by
  constructor
  · have starred : substitute separatorDot (dottedForm factors) =
        starredForm factors :=
      substituteFrom_separatorDot factors none
    rw [normaliseUcum, joinWords_words (dottedForm_noSpace factors),
      starred]
    exact substitute_starredForm tables factors
  · have noDots : ∀ point ∈ productForm factors,
        Passes separatorDot point := by
      intro point member
      apply separatorDot_passes
      rintro rfl
      revert member
      exact fun member => absurd (mem_productForm member) (by decide)
    rw [normaliseUcum, joinWords_words (productForm_noSpace factors),
      substitute_copy noDots]
    exact substitute_productForm tables factors

example :
    normaliseUcum latinTables (text "kg.m2.s-2") = text "kg*m**2*s**-2" := by
  decide

end ScientificResourceLab.Packs.Units
