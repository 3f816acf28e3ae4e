import ScientificResourceLab.Execution.Orphans
import ScientificResourceLab.Python.RegexSpans

/-!
# The leak guard

`srl.autonomy.leakguard`: the scan of a diff and the excerpts it reports.  An
excerpt masks the match it is about and copies the context on both sides as
it stands, so whether a matched text is shown is decided by what the context
holds and by the dots that the excerpt adds.

`\w` outside ASCII is a parameter.
-/

namespace ScientificResourceLab.Autonomy

open Python
open Execution (splitLines)

/-! ## Patterns -/

/-- An entry of `_PATTERNS`. -/
structure LeakPattern where
  name : String
  pattern : Regex
  kind : String
  failReason : String

/-- A name below a directory. -/
def namedBelow (directory : String) : Regex :=
  .seq (.literal directory) (.atLeast 1 (.one Regex.segmentPoint))

/-- A token with at least 16 characters behind what it starts with. -/
def longToken (start : String) (holds : CodePoint → Bool) : Regex :=
  .seq (.literal start) (.atLeast 16 (.one holds))

/-- `_HEX_SECRET_MIN_LEN`. -/
def hexSecretMinLen : Nat := 64

/-- `PUBLIC_LEAK_FAIL_REASON`. -/
def publicLeakFailReason : String := "PUBLIC_LEAK_DETECTED"

/-- `_PATTERN_SPECS`. -/
def patternSpecs (isWord : CodePoint → Bool) : List LeakPattern :=
  [⟨"absolute_users_home", namedBelow "/Users/",
      "absolute POSIX home path (/Users/<name>)", publicLeakFailReason⟩,
    ⟨"absolute_home", namedBelow "/home/",
      "absolute POSIX home path (/home/<name>)", publicLeakFailReason⟩,
    ⟨"volumes_path", namedBelow "/Volumes/",
      "mounted volume path (/Volumes/<name>)", publicLeakFailReason⟩,
    ⟨"github_pat_classic", longToken "ghp_" Regex.alphanumeric,
      "GitHub classic PAT token (ghp_)", publicLeakFailReason⟩,
    ⟨"github_oauth_token", longToken "gho_" Regex.alphanumeric,
      "GitHub OAuth token (gho_)", publicLeakFailReason⟩,
    ⟨"github_fine_grained_pat", longToken "github_pat_" fun point =>
        Regex.alphanumeric point || Regex.among "_" point,
      "GitHub fine-grained PAT (github_pat_)", publicLeakFailReason⟩,
    ⟨"sk_api_key", longToken "sk-" Regex.alphanumeric, "API key (sk-)",
      publicLeakFailReason⟩,
    ⟨"aws_access_key_id", .seq (.literal "AKIA")
        (.exactly (.one fun point =>
          CodePoint.isDigit point || Regex.upper point) 16),
      "AWS access key ID (AKIA...)", publicLeakFailReason⟩,
    ⟨"pem_private_key", .sequence [.literal "BEGIN ",
        .many (.one fun point =>
          Regex.upper point || Regex.among " " point),
        .literal "PRIVATE KEY"],
      "PEM private key block", publicLeakFailReason⟩,
    ⟨"long_hex_secret", .sequence [.boundary isWord,
        .atLeast hexSecretMinLen (.one fun point =>
          CodePoint.isDigit point || Regex.among "abcdefABCDEF" point),
        .boundary isWord],
      "long hex secret (>=64 hex digits)", publicLeakFailReason⟩]

/-! ## Excerpts -/

/-- `_SNIPPET_CONTEXT_CHARS`. -/
def snippetContextChars : Nat := 12

/-- `_SNIPPET_KEEP_CHARS`. -/
def snippetKeepChars : Nat := 4

/-- `_SNIPPET_MAX_CHARS`. -/
def snippetMaxChars : Nat := 80

/-- `value[start:stop]`, of positions that are not negative. -/
def slice (value : Text) (start stop : Nat) : Text :=
  (value.drop start).take (stop - start)

/-- The dots of an excerpt. -/
def dots : Text := text "..."

/-- `_sanitize_snippet`. -/
def sanitizeSnippet (line : Text) (start stop : Nat) : Text :=
  let lo := start - snippetContextChars
  let hi := min line.length (stop + snippetContextChars)
  let before := slice line lo start
  let matched := slice line start stop
  let after := slice line stop hi
  let keep := matched.take snippetKeepChars
  let masked :=
    if snippetKeepChars < matched.length then keep ++ dots else keep
  let snippet :=
    if 0 < lo ∨ hi < line.length then
      dots ++ before ++ masked ++ after ++ dots
    else before ++ masked ++ after
  if snippetMaxChars < snippet.length then
    snippet.take (snippetMaxChars - 3) ++ dots
  else snippet

/-! ## The scan -/

/-- `LeakViolation`. -/
structure LeakViolation where
  patternName : Text
  kind : Text
  line : Nat
  snippet : Text
  failReason : Text

section

variable (isWord : CodePoint → Bool)

def lineMatches (line : Text) : List (LeakPattern × Regex.Span) :=
  (patternSpecs isWord).flatMap fun pattern =>
    (pattern.pattern.spans line).map fun span => (pattern, span)

/-- The violation that is reported for a match. -/
def violationOf (number : Nat) (line : Text)
    (found : LeakPattern × Regex.Span) : LeakViolation where
  patternName := text found.1.name
  kind := text found.1.kind
  line := number
  snippet := sanitizeSnippet line found.2.start found.2.stop
  failReason := text found.1.failReason

/-- The loop of `scan_diff` from a line number on. -/
def scanLines : Nat → List Text → List LeakViolation
  | _, [] => []
  | number, line :: rest =>
      (lineMatches isWord line).map (violationOf number line) ++
        scanLines (number + 1) rest

/-- `scan_diff`. -/
def scanDiff (diffText : Text) : List LeakViolation :=
  if diffText = [] then [] else scanLines isWord 1 (splitLines diffText)

def matchedText (line : Text) (found : LeakPattern × Regex.Span) : Text :=
  slice line found.2.start found.2.stop

/-- No snippet of the result has the text of a match of its line in it. -/
def ShowsNoMatch (diffText : Text) : Prop :=
  ∀ violation ∈ scanDiff isWord diffText,
    ∀ line ∈ (splitLines diffText)[violation.line - 1]?,
      ∀ other ∈ lineMatches isWord line,
        ¬ matchedText line other <:+: violation.snippet

end

/-! ## What an excerpt shows -/

/-- The context ahead of a match, with the characters kept of it. -/
def shownAhead (line : Text) (span : Regex.Span) : Text :=
  slice line (span.start - snippetContextChars)
    (span.start + snippetKeepChars)

/-- The context behind a match. -/
def shownBehind (line : Text) (span : Regex.Span) : Text :=
  slice line span.stop
    (min line.length (span.stop + snippetContextChars))

/-- The dots at both ends of the excerpt of a longer line. -/
def outerDots (line : Text) (span : Regex.Span) : Text :=
  if 0 < span.start - snippetContextChars ∨
      span.stop + snippetContextChars < line.length then dots
  else []

/--
A text is in the context on one side, or its first part ends a side and the
rest of it is made up by the dots behind that side.
-/
inductive Shown (line : Text) (span : Regex.Span) (value : Text) : Prop where
  | ahead : value <:+: shownAhead line span → Shown line span value
  | behind : value <:+: shownBehind line span → Shown line span value
  | overMask (stem rest : Text) : stem ≠ [] → rest ≠ [] →
      value = stem ++ rest → stem <:+ shownAhead line span →
      rest <+: dots ++ (shownBehind line span ++ outerDots line span) →
      Shown line span value
  | overEnd (stem rest : Text) : stem ≠ [] → rest ≠ [] →
      value = stem ++ rest → stem <:+ shownBehind line span →
      rest <+: outerDots line span → Shown line span value

/-! ## Slices -/

theorem length_slice (value : Text) (start stop : Nat) :
    (slice value start stop).length =
      min (stop - start) (value.length - start) := by
  rw [slice, List.length_take, List.length_drop]

/-- Adjacent slices join. -/
theorem slice_append
    (value : Text) {start middle stop : Nat}
    (first : start ≤ middle) (second : middle ≤ stop) :
    slice value start middle ++ slice value middle stop =
      slice value start stop := by
  obtain ⟨ahead, rfl⟩ := Nat.exists_eq_add_of_le first
  obtain ⟨behind, rfl⟩ := Nat.exists_eq_add_of_le second
  have total : start + ahead + behind - start = ahead + behind := by omega
  simp only [slice, Nat.add_sub_cancel_left, total, List.take_add,
    List.drop_drop]

theorem take_slice
    (value : Text) {start stop count : Nat} (short : start + count ≤ stop) :
    (slice value start stop).take count =
      slice value start (start + count) := by
  rw [slice, slice, List.take_take, Nat.add_sub_cancel_left,
    min_eq_left (by omega)]

/-! ## The excerpt of a match -/

/-- The excerpt of a match that is masked: its context with the characters
kept, and dots for the rest. -/
theorem sanitizeSnippet_eq
    {line : Text} {span : Regex.Span}
    (long : span.start + snippetKeepChars < span.stop)
    (inside : span.stop ≤ line.length) :
    sanitizeSnippet line span.start span.stop =
      outerDots line span ++ (shownAhead line span ++
        (dots ++ (shownBehind line span ++ outerDots line span))) := by
  have masked : snippetKeepChars <
      (slice line span.start span.stop).length := by
    rw [length_slice]
    simp only [snippetKeepChars] at long ⊢
    omega
  have ahead : slice line (span.start - snippetContextChars) span.start ++
      (slice line span.start span.stop).take snippetKeepChars =
        shownAhead line span := by
    rw [take_slice line long.le]
    exact slice_append line (Nat.sub_le _ _) (Nat.le_add_right _ _)
  have cut : min line.length (span.stop + snippetContextChars) <
      line.length ↔ span.stop + snippetContextChars < line.length := by
    simp
  have joined (outer : Text) :
      outer ++ slice line (span.start - snippetContextChars) span.start ++
          ((slice line span.start span.stop).take snippetKeepChars ++ dots) ++
          shownBehind line span ++ outer =
        outer ++ (shownAhead line span ++
          (dots ++ (shownBehind line span ++ outer))) := by
    rw [← ahead]
    simp only [List.append_assoc]
  have short : (outerDots line span ++ (shownAhead line span ++
      (dots ++ (shownBehind line span ++ outerDots line span)))).length ≤
        snippetMaxChars := by
    have lengthAhead : (shownAhead line span).length ≤ 16 := by
      rw [shownAhead, length_slice]
      simp only [snippetContextChars, snippetKeepChars]
      omega
    have lengthBehind : (shownBehind line span).length ≤ 12 := by
      rw [shownBehind, length_slice]
      simp only [snippetContextChars]
      omega
    have lengthDots : dots.length = 3 := rfl
    have lengthOuter : (outerDots line span).length ≤ 3 := by
      rw [outerDots]
      split_ifs
      · exact le_rfl
      · exact Nat.zero_le 3
    simp only [List.length_append, snippetMaxChars]
    omega
  rw [sanitizeSnippet]
  simp only [masked, if_true, cut]
  rw [← shownBehind]
  by_cases isCut : 0 < span.start - snippetContextChars ∨
      span.stop + snippetContextChars < line.length
  · have outer : outerDots line span = dots := if_pos isCut
    rw [outer] at short ⊢
    rw [if_pos isCut, joined, if_neg (not_lt.mpr short)]
  · have outer : outerDots line span = [] := if_neg isCut
    have plain := joined []
    rw [List.append_nil, List.nil_append] at plain
    rw [outer] at short ⊢
    rw [if_neg isCut, plain, if_neg (not_lt.mpr short)]

/-- A text that starts with no dot is not found among dots. -/
theorem infix_dots_append
    {first : CodePoint} (notDot : first ≠ codePoint '.') {value : Text}
    {ahead : Text} (areDots : ∀ point ∈ ahead, point = codePoint '.')
    (rest : Text) :
    first :: value <:+: ahead ++ rest ↔ first :: value <:+: rest := by
  rw [List.infix_append_iff_ne_nil]
  constructor
  · rintro (among | found | ⟨stem, tail, nonempty, _, joined, ends, _⟩)
    · exact absurd (areDots first (among.subset List.mem_cons_self)) notDot
    · exact found
    · cases stem with
      | nil => exact absurd rfl nonempty
      | cons point stem =>
          obtain ⟨rfl, _⟩ := List.cons.inj joined
          exact absurd (areDots first (ends.subset List.mem_cons_self)) notDot
  · exact fun found => .inr (.inl found)

theorem dots_are (point : CodePoint) (isDot : point ∈ dots) :
    point = codePoint '.' := by
  have three : dots = [codePoint '.', codePoint '.', codePoint '.'] := rfl
  simpa [three] using isDot

theorem outerDots_are (line : Text) (span : Regex.Span) :
    ∀ point ∈ outerDots line span, point = codePoint '.' := by
  rw [outerDots]
  split_ifs
  · exact dots_are
  · exact fun _ isDot => absurd isDot List.not_mem_nil

/-- A text is in the excerpt of a match when it is shown. -/
theorem infix_sanitizeSnippet_iff
    {line : Text} {span : Regex.Span} {first : CodePoint} {value : Text}
    (notDot : first ≠ codePoint '.')
    (long : span.start + snippetKeepChars < span.stop)
    (inside : span.stop ≤ line.length) :
    first :: value <:+: sanitizeSnippet line span.start span.stop ↔
      Shown line span (first :: value) := by
  have notOuter : ¬ first :: value <:+: outerDots line span := by
    intro found
    exact notDot (outerDots_are line span first
      (found.subset List.mem_cons_self))
  rw [sanitizeSnippet_eq long inside,
    infix_dots_append notDot (outerDots_are line span),
    List.infix_append_iff_ne_nil, infix_dots_append notDot dots_are,
    List.infix_append_iff_ne_nil]
  constructor
  · rintro (ahead | (behind | outer |
      ⟨stem, rest, nonempty, completes, joined, ends, starts⟩) |
      ⟨stem, rest, nonempty, completes, joined, ends, starts⟩)
    · exact .ahead ahead
    · exact .behind behind
    · exact absurd outer notOuter
    · exact .overEnd stem rest nonempty completes joined ends starts
    · exact .overMask stem rest nonempty completes joined ends starts
  · intro shown
    cases shown with
    | ahead found => exact .inl found
    | behind found => exact .inr (.inl (.inl found))
    | overMask stem rest nonempty completes joined ends starts =>
        exact .inr (.inr ⟨stem, rest, nonempty, completes, joined, ends,
          starts⟩)
    | overEnd stem rest nonempty completes joined ends starts =>
        exact .inr (.inl (.inr (.inr ⟨stem, rest, nonempty, completes,
          joined, ends, starts⟩)))

/-! ## Matches -/

section

variable (isWord : CodePoint → Bool)

/-- Every pattern asks for more than the characters that are kept. -/
theorem patternSpecs_long :
    ∀ pattern ∈ patternSpecs isWord,
      snippetKeepChars < pattern.pattern.least := by
  simp only [patternSpecs, List.forall_mem_cons, List.not_mem_nil,
    false_imp_iff, implies_true, and_true]
  refine ⟨by decide, by decide, by decide,
    by decide, by decide, by decide,
    by decide, by decide, by decide, ?_⟩
  simp [Regex.sequence, Regex.atLeast, Regex.least, snippetKeepChars,
    hexSecretMinLen]

theorem patternSpecs_notDot :
    ∀ pattern ∈ patternSpecs isWord, ∀ before rest,
      pattern.pattern.ends ⟨before, codePoint '.' :: rest⟩ = [] := by
  simp only [patternSpecs, List.forall_mem_cons, List.not_mem_nil,
    false_imp_iff, implies_true, and_true]
  refine ⟨fun _ _ => rfl, fun _ _ => rfl, fun _ _ => rfl, fun _ _ => rfl,
    fun _ _ => rfl, fun _ _ => rfl, fun _ _ => rfl, fun _ _ => rfl,
    fun _ _ => rfl, fun before rest => ?_⟩
  change (Regex.seq (.boundary isWord) (.seq _ (.boundary isWord))).ends _ =
    []
  rw [Regex.ends, Regex.ends]
  split_ifs
  · rfl
  · rfl

/-- A match of a line is masked, and its text starts with no dot. -/
theorem lineMatches_spec
    {line : Text} {found : LeakPattern × Regex.Span}
    (member : found ∈ lineMatches isWord line) :
    found.2.start + snippetKeepChars < found.2.stop ∧
      found.2.stop ≤ line.length ∧
      ∃ first value, matchedText line found = first :: value ∧
        first ≠ codePoint '.' := by
  obtain ⟨pattern, isPattern, member⟩ := List.mem_flatMap.mp member
  obtain ⟨span, isSpan, rfl⟩ := List.mem_map.mp member
  obtain ⟨before, next, isEnd, inside, stops⟩ := Regex.mem_spans isSpan
  have longer := Regex.length_ends isEnd
  have least := patternSpecs_long isWord pattern isPattern
  rw [List.length_drop] at longer
  refine ⟨by dsimp only; omega, by dsimp only; omega, ?_⟩
  cases ahead : line.drop span.start with
  | nil =>
      have length := congrArg List.length ahead
      rw [List.length_drop, List.length_nil] at length
      omega
  | cons first rest =>
      have positive : span.stop - span.start =
          span.stop - span.start - 1 + 1 := by
        omega
      refine ⟨first, rest.take (span.stop - span.start - 1), ?_, ?_⟩
      · rw [matchedText, slice, ahead, positive, List.take_succ_cons]
        rfl
      · rintro rfl
        rw [ahead, patternSpecs_notDot isWord pattern isPattern] at isEnd
        exact absurd isEnd List.not_mem_nil

theorem mem_scanLines
    {number : Nat} {lines : List Text} {violation : LeakViolation} :
    violation ∈ scanLines isWord number lines ↔
      ∃ index line, lines[index]? = some line ∧
        ∃ found ∈ lineMatches isWord line,
          violation = violationOf (number + index) line found := by
  induction lines generalizing number with
  | nil => simp [scanLines]
  | cons first rest induction =>
      rw [scanLines, List.mem_append, List.mem_map, induction]
      constructor
      · rintro (⟨found, isFound, rfl⟩ | ⟨index, line, isLine, found, isFound,
          rfl⟩)
        · exact ⟨0, first, rfl, found, isFound, rfl⟩
        · refine ⟨index + 1, line, isLine, found, isFound, ?_⟩
          rw [Nat.add_assoc, Nat.add_comm 1 index]
      · rintro ⟨index, line, isLine, found, isFound, rfl⟩
        cases index with
        | zero =>
            obtain rfl := Option.some.inj isLine
            exact .inl ⟨found, isFound, rfl⟩
        | succ index =>
            refine .inr ⟨index, line, isLine, found, isFound, ?_⟩
            rw [Nat.add_assoc, Nat.add_comm 1 index]

theorem mem_scanDiff {diffText : Text} {violation : LeakViolation} :
    violation ∈ scanDiff isWord diffText ↔
      ∃ index line, (splitLines diffText)[index]? = some line ∧
        ∃ found ∈ lineMatches isWord line,
          violation = violationOf (1 + index) line found := by
  rw [scanDiff]
  split_ifs with isEmpty
  · subst isEmpty
    simp [splitLines]
  · exact mem_scanLines isWord

/-- No snippet shows a match of its line exactly when no two matches of a
line are such that the excerpt of one shows the text of the other. -/
theorem showsNoMatch_iff (diffText : Text) :
    ShowsNoMatch isWord diffText ↔
      ∀ line ∈ splitLines diffText, ∀ found ∈ lineMatches isWord line,
        ∀ other ∈ lineMatches isWord line,
          ¬ Shown line found.2 (matchedText line other) := by
  have inExcerpt {line : Text} {found other : LeakPattern × Regex.Span}
      (isFound : found ∈ lineMatches isWord line)
      (isOther : other ∈ lineMatches isWord line) (number : Nat) :
      matchedText line other <:+: (violationOf number line found).snippet ↔
        Shown line found.2 (matchedText line other) := by
    obtain ⟨long, inside, _⟩ := lineMatches_spec isWord isFound
    obtain ⟨_, _, first, value, isText, notDot⟩ :=
      lineMatches_spec isWord isOther
    rw [isText]
    exact infix_sanitizeSnippet_iff notDot long inside
  constructor
  · intro shows line isLine found isFound other isOther
    obtain ⟨index, isAt⟩ := List.mem_iff_getElem?.mp isLine
    rw [← inExcerpt isFound isOther (1 + index)]
    refine shows _ ((mem_scanDiff isWord).mpr
      ⟨index, line, isAt, found, isFound, rfl⟩) line ?_ other isOther
    rw [violationOf, Nat.add_sub_cancel_left]
    exact isAt
  · intro apart violation isViolation line isAt other isOther
    obtain ⟨index, source, isSource, found, isFound, rfl⟩ :=
      (mem_scanDiff isWord).mp isViolation
    rw [violationOf, Nat.add_sub_cancel_left, isSource] at isAt
    obtain rfl := Option.some.inj isAt
    rw [inExcerpt isFound isOther]
    exact apart source (List.mem_of_getElem? isSource) found isFound other
      isOther

end

/-! ### Two paths on one line -/

/-- A line with two paths. -/
def twoPaths : Text := text "/home/a /home/b"

/-- The entry of `_PATTERNS` for a path below `/home`. -/
def homePattern : LeakPattern :=
  ⟨"absolute_home", namedBelow "/home/",
    "absolute POSIX home path (/home/<name>)", publicLeakFailReason⟩

theorem twoPaths_matches :
    ∀ span ∈ [⟨0, 7⟩, ⟨8, 15⟩],
      (homePattern, span) ∈ lineMatches Regex.identifierPoint twoPaths := by
  intro span isSpan
  refine List.mem_flatMap.mpr ⟨homePattern,
    List.mem_cons_of_mem _ List.mem_cons_self, List.mem_map_of_mem ?_⟩
  have spans : homePattern.pattern.spans twoPaths = [⟨0, 7⟩, ⟨8, 15⟩] := by
    decide
  rwa [spans]

/-- The snippet for the first path shows the second. -/
theorem secondPath_shown : ¬ ShowsNoMatch Regex.identifierPoint twoPaths := by
  intro shows
  have isViolation : violationOf 1 twoPaths (homePattern, ⟨0, 7⟩) ∈
      scanDiff Regex.identifierPoint twoPaths :=
    (mem_scanDiff Regex.identifierPoint).mpr ⟨0, twoPaths, by decide,
      (homePattern, ⟨0, 7⟩), twoPaths_matches _ List.mem_cons_self, rfl⟩
  refine shows _ isViolation twoPaths (by decide)
    (homePattern, ⟨8, 15⟩)
    (twoPaths_matches _ (List.mem_cons_of_mem _ List.mem_cons_self)) ?_
  decide

end ScientificResourceLab.Autonomy
