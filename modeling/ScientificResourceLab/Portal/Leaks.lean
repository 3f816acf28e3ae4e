import ScientificResourceLab.Portal.Build
import ScientificResourceLab.Python.JsonSearch
import ScientificResourceLab.Python.RegexWords
import ScientificResourceLab.Python.Spaces

/-!
# What the public mode lets through

The three expressions of the leak detection in terms of the text around a
match: `absoluteUnixRe` finds a path at the start or behind a slash,
`windowsDriveRe` only a path at the start, and `credentialRe` a word at a word
boundary on both sides.  A build is blocked by every path under one of the
roots and by every delimited word of the list, whatever surrounds it, but a
PEM marker begins with a dash, so that only a word character in front of it
makes a boundary there, and a Windows path is not looked for inside a string.
-/

namespace ScientificResourceLab.Portal

open Python Steps

/-! ## Paths -/

/-- The roots of `_ABSOLUTE_UNIX_RE`. -/
def unixRoots : List String :=
  ["Users", "home", "root", "etc", "var", "tmp", "private", "opt"]

/-- A root, a slash, and a name. -/
def RootedPath (value : Text) : Prop :=
  ∃ root ∈ unixRoots, ∃ point rest,
    value = text root ++ codePoint '/' :: point :: rest ∧
      point ≠ codePoint '/' ∧ Regex.visible point = true

/-- A root behind a slash, then one slash, and a name. -/
def SlashedPath (value : Text) : Prop :=
  ∃ front rest, value = front ++ codePoint '/' :: rest ∧ RootedPath rest

/-- A root behind a slash, then two slashes or more, and a name. -/
def DoubledSlash (value : Text) : Prop :=
  ∃ front, ∃ root ∈ unixRoots, ∃ gap point rest,
    value = front ++ codePoint '/' :: (text root ++ codePoint '/' ::
      codePoint '/' :: (List.replicate gap (codePoint '/') ++
        point :: rest)) ∧
      point ≠ codePoint '/' ∧ Regex.visible point = true

/-- The names of a path; the system takes several slashes for one. -/
def pathNames (path : Text) : List Text :=
  runs (fun point => point ≠ codePoint '/') path

/-- An absolute path to something below one of the roots. -/
structure UnderRoot (path : Text) : Prop where
  absolute : path.head? = some (codePoint '/')
  visible : ∀ point ∈ path, Regex.visible point = true
  below : ∃ root ∈ unixRoots, ∃ name names,
    pathNames path = text root :: name :: names

/-- A path to something below one of the roots, anywhere in the text. -/
def UnixPath (value : Text) : Prop :=
  ∃ path, path <:+: value ∧ UnderRoot path

/-- A letter, a colon, and a slash or a backslash. -/
def DrivePath (value : Text) : Prop :=
  ∃ drive separator rest,
    value = drive :: codePoint ':' :: separator :: rest ∧
      Regex.letter drive = true ∧ Regex.among "/\\" separator = true

/-- A path on a drive, anywhere in the text behind a code point that is not
a letter. -/
def WindowsPath (value : Text) : Prop :=
  ∃ front rest, value = front ++ rest ∧ DrivePath rest ∧
    front.getLast?.any Regex.letter = false

/-! ## Words -/

/-- The words of `_CREDENTIAL_RE` other than the PEM marker. -/
def credentialWords : List String :=
  ["password", "secret", "token", "api_key", "private_key", "credential",
    "credentials", "bearer", "aws_access_key_id", "aws_secret_access_key",
    "ssh-rsa"]

/-- An access key: `AKIA` and sixteen letters and digits. -/
def AccessKey (holds : CodePoint → Bool) (word : Text) : Prop :=
  ∃ front back, word = front ++ back ∧ front ∈ Regex.foldings "AKIA" ∧
    back.length = 16 ∧ ∀ point ∈ back, holds point = true

/-- A credential word in ASCII, in upper or lower case. -/
def CredentialWord (word : Text) : Prop :=
  (∀ point ∈ word, point.val < 128) ∧
    ((∃ listed ∈ credentialWords, word ∈ Regex.foldings listed) ∨
      AccessKey Regex.alphanumeric word)

/-- A text with a credential word between other code points than those of
words, or at the ends. -/
def CredentialMarker (words : WordTable) (value : Text) : Prop :=
  ∃ front word rest, value = front ++ word ++ rest ∧ CredentialWord word ∧
    front.getLast?.any words.isWord = false ∧
    rest.head?.any words.isWord = false

/-- A text with the first dashes and word of a PEM block. -/
def PemMarker (value : Text) : Prop :=
  text "-----BEGIN" <:+: value

/-- A text that must not be published. -/
def Marked (words : WordTable) (value : Text) : Prop :=
  PemMarker value ∨ CredentialMarker words value ∨ UnixPath value ∨
    WindowsPath value

/-! ## What the expressions find -/

/-- `_ABSOLUTE_UNIX_RE` from the root on. -/
def rootedPathRe : Regex :=
  .seq (.oneOf (unixRoots.map Regex.literal))
    (.seq (.point '/') (.atLeast 1 (.one fun point =>
      point ≠ codePoint '/' && Regex.visible point)))

theorem absoluteUnixRe_eq :
    absoluteUnixRe = .seq (.alt .start (.point '/')) rootedPathRe :=
  rfl

theorem matchesAt_rootedPathRe_iff {place : Position} :
    rootedPathRe.MatchesAt place ↔ RootedPath place.rest := by
  rw [rootedPathRe, (Regex.reads_anyLiteral unixRoots).matchesAt_seq]
  constructor
  · rintro ⟨_, ⟨root, isRoot, rfl⟩, later, split, isLater⟩
    rcases (Regex.reads_point '/').matchesAt_seq.mp isLater with
      ⟨_, rfl, name, splitLater, isName⟩
    rcases (Regex.reads_exactly _ 1).matchesAt_seq.mp isName with
      ⟨first, ⟨length, all⟩, rest, splitName, _⟩
    rcases List.length_eq_one_iff.mp length with ⟨point, rfl⟩
    have holds := all point (List.mem_singleton_self point)
    rw [Bool.and_eq_true, decide_eq_true_eq] at holds
    refine ⟨root, isRoot, point, rest, ?_, holds⟩
    dsimp only at splitLater splitName
    rw [split, splitLater, splitName]
    rfl
  · rintro ⟨root, isRoot, point, rest, split, notSlash, isVisible⟩
    refine ⟨_, ⟨root, isRoot, rfl⟩, _, split, ?_⟩
    rw [(Regex.reads_point '/').matchesAt_seq]
    refine ⟨_, rfl, point :: rest, rfl, ?_⟩
    rw [Regex.atLeast, (Regex.reads_exactly _ 1).matchesAt_seq]
    refine ⟨[point], ⟨rfl, ?_⟩, rest, rfl, Regex.matchesAt_many _ _⟩
    intro other isOther
    rw [List.mem_singleton.mp isOther, Bool.and_eq_true,
      decide_eq_true_eq]
    exact ⟨notSlash, isVisible⟩

/-- A path is found at the start of a text and behind a slash. -/
theorem occurs_absoluteUnixRe_iff {value : Text} :
    absoluteUnixRe.Occurs value ↔ RootedPath value ∨ SlashedPath value := by
  rw [absoluteUnixRe_eq, Regex.occurs_iff_matchesAt]
  simp only [Regex.matchesAt_alt_seq, Regex.matchesAt_start_seq,
    (Regex.reads_point '/').matchesAt_seq, matchesAt_rootedPathRe_iff]
  constructor
  · rintro ⟨front, rest, rfl, ⟨atStart, isPath⟩ |
      ⟨_, rfl, later, isSlash, isPath⟩⟩
    · rw [lastPoint_eq_none_iff] at atStart
      cases atStart
      exact .inl isPath
    · exact .inr ⟨front, later, congrArg (front ++ ·) isSlash, isPath⟩
  · rintro (isPath | ⟨front, later, rfl, isPath⟩)
    · exact ⟨[], value, rfl, .inl ⟨rfl, isPath⟩⟩
    · exact ⟨front, _, rfl, .inr ⟨_, rfl, later, rfl, isPath⟩⟩

/-- A path on a drive is found at the start of a text only. -/
theorem occurs_windowsDriveRe_iff {value : Text} :
    windowsDriveRe.Occurs value ↔ DrivePath value := by
  have split : windowsDriveRe = .seq .start (.seq (.one Regex.letter)
      (.seq (.point ':') (.one (Regex.among "/\\")))) :=
    rfl
  rw [split, Regex.occurs_iff_matchesAt]
  simp only [Regex.matchesAt_start_seq,
    (Regex.reads_one Regex.letter).matchesAt_seq,
    (Regex.reads_point ':').matchesAt_seq,
    (Regex.reads_one (Regex.among "/\\")).matchesAt]
  constructor
  · rintro ⟨front, _, rfl, atStart, _, ⟨drive, isDrive, rfl⟩, _, rfl, _,
      rfl, _, splitLater, _, ⟨separator, isSeparator, rfl⟩, rest,
      splitRest⟩
    rw [lastPoint_eq_none_iff] at atStart
    cases atStart
    refine ⟨drive, separator, rest, ?_, isDrive, isSeparator⟩
    rw [splitLater, splitRest]
    rfl
  · rintro ⟨drive, separator, rest, rfl, isDrive, isSeparator⟩
    exact ⟨[], _, rfl, rfl, [drive], ⟨drive, isDrive, rfl⟩, _, rfl, _,
      rfl, _, rfl, [separator], ⟨separator, isSeparator, rfl⟩, rest, rfl⟩

theorem unixRoots_plain :
    ∀ root ∈ unixRoots, text root ≠ [] ∧
      (text root).all (fun point =>
        point ≠ codePoint '/' && Regex.visible point) = true := by
  decide

/-- A path below a root has one slash behind the root, or several. -/
theorem UnixPath.cases {value : Text} (isPath : UnixPath value) :
    SlashedPath value ∨ DoubledSlash value := by
  rcases isPath with
    ⟨path, ⟨before, after, rfl⟩, absolute, visible, root, isRoot, name, names,
      isNames⟩
  have slash {point : CodePoint}
      (notName : decide (point ≠ codePoint '/') = false) :
      point = codePoint '/' := by
    simpa using notName
  rcases exists_of_runs_cons isNames with
    ⟨lead, tail, rfl, rootSome, leads, rootNames, tailStops, isTail⟩
  rcases exists_of_runs_cons isTail with
    ⟨gap, rest, rfl, nameSome, gaps, nameNames, _⟩
  obtain ⟨first, others, rfl⟩ := List.exists_cons_of_ne_nil nameSome
  have firstPlain : first ≠ codePoint '/' := by
    simpa using nameNames first List.mem_cons_self
  have firstVisible := visible first (by simp)
  obtain ⟨front, leading⟩ : ∃ front, lead = front ++ [codePoint '/'] := by
    rcases List.eq_nil_or_concat lead with rfl | ⟨front, point, rfl⟩
    · obtain ⟨head, _, isHead⟩ := List.exists_cons_of_ne_nil rootSome
      rw [isHead] at absolute rootNames
      have plain := rootNames head List.mem_cons_self
      cases absolute
      exact absurd plain (by decide)
    · refine ⟨front, ?_⟩
      rw [List.concat_eq_append] at leads ⊢
      rw [slash (leads point (by simp))]
  cases gap with
  | nil =>
      have stops := tailStops first rfl
      rw [nameNames first List.mem_cons_self] at stops
      cases stops
  | cons point gap =>
      obtain ⟨here, later⟩ := List.forall_mem_cons.mp gaps
      rw [slash here, leading]
      cases gap with
      | nil =>
          refine .inl ⟨before ++ front,
            text root ++ codePoint '/' :: first :: (others ++ rest ++ after),
            by simp, root, isRoot, first, _, rfl, firstPlain, firstVisible⟩
      | cons next gap =>
          obtain ⟨isNext, others'⟩ := List.forall_mem_cons.mp later
          have isGap : gap =
              List.replicate gap.length (codePoint '/') :=
            List.eq_replicate_of_mem fun point isPoint =>
              slash (others' point isPoint)
          refine .inr ⟨before ++ front, root, isRoot, gap.length, first,
            others ++ rest ++ after, ?_, firstPlain, firstVisible⟩
          rw [slash isNext, ← isGap]
          simp

/-- Several slashes behind a root are still on a path. -/
theorem DoubledSlash.unixPath {value : Text} (doubled : DoubledSlash value) :
    UnixPath value := by
  rcases doubled with
    ⟨front, root, isRoot, gap, point, rest, rfl, notSlash, isVisible⟩
  rcases unixRoots_plain root isRoot with ⟨rootSome, each⟩
  have plain (other : CodePoint) (isName : other ∈ text root) :
      decide (other ≠ codePoint '/') = true ∧ Regex.visible other = true :=
    Bool.and_eq_true_iff.mp (List.all_eq_true.mp each other isName)
  have slashes : runs (fun point => point ≠ codePoint '/')
      (List.replicate gap (codePoint '/') ++ [point]) = [[point]] := by
    induction gap with
    | zero =>
        exact runs_append_of_head (List.cons_ne_nil point [])
          (by simpa using notSlash) nofun
    | succ gap induction =>
        rw [List.replicate_succ, List.cons_append,
          runs_cons_of_not (by simp)]
        exact induction
  have visibleSlash : Regex.visible (codePoint '/') = true := by decide
  refine ⟨codePoint '/' :: (text root ++ codePoint '/' :: codePoint '/' ::
    (List.replicate gap (codePoint '/') ++ [point])), ?_, rfl, ?_,
    root, isRoot, [point], [], ?_⟩
  · exact ⟨front, rest, by simp⟩
  · intro other isOther
    simp only [List.mem_cons, List.mem_append, List.mem_replicate,
      List.not_mem_nil, or_false] at isOther
    rcases isOther with rfl | isName | rfl | rfl | ⟨_, rfl⟩ | rfl
    · exact visibleSlash
    · exact (plain other isName).2
    · exact visibleSlash
    · exact visibleSlash
    · exact visibleSlash
    · exact isVisible
  · rw [pathNames, runs_cons_of_not (by simp),
      runs_append_of_head rootSome (fun other isName => (plain other isName).1)
        (by simp),
      runs_cons_of_not (by simp), runs_cons_of_not (by simp), slashes]

/-! ## Credential words -/

/-- Whether a word begins or ends between two texts. -/
def Boundary (isWord : CodePoint → Bool) (front back : Text) : Prop :=
  front.getLast?.any isWord ≠ back.head?.any isWord

/-- A word that `_CREDENTIAL_RE` lists, as it compares them. -/
def ListedWord (word : Text) : Prop :=
  (∃ listed ∈ credentialWords ++ ["-----BEGIN"],
      word ∈ Regex.foldings listed) ∨
    AccessKey (fun point => Regex.alphanumeric (Regex.foldCase point) &&
      !Regex.upper (Regex.foldCase point)) word

/-- A listed word with a boundary on both sides. -/
def FoundWord (isWord : CodePoint → Bool) (value : Text) : Prop :=
  ∃ front word rest, value = front ++ word ++ rest ∧ ListedWord word ∧
    Boundary isWord front (word ++ rest) ∧
    Boundary isWord (front ++ word) rest

/-- An alternative of `_CREDENTIAL_RE`: a word, or the access key. -/
def alternative : Option String → Regex
  | some listed => .literalAnyCase listed
  | none => .seq (.literalAnyCase "AKIA") (.exactly
      (.oneAnyCase fun point =>
        Regex.alphanumeric point && !Regex.upper point) 16)

/-- `_CREDENTIAL_RE` between its boundaries. -/
def listedWordRe : Regex :=
  .oneOf (((credentialWords ++ ["-----BEGIN"]).map some ++ [none]).map
    alternative)

theorem credentialRe_eq (isWord : CodePoint → Bool) :
    credentialRe isWord =
      .seq (.boundary isWord) (.seq listedWordRe (.boundary isWord)) :=
  rfl

/-- What an alternative reads. -/
def alternativeWords : Option String → Set Text
  | some listed => Regex.foldings listed
  | none => {word | AccessKey (fun point =>
      Regex.alphanumeric (Regex.foldCase point) &&
        !Regex.upper (Regex.foldCase point)) word}

theorem reads_alternative (listed : Option String) :
    (alternative listed).Reads (alternativeWords listed) := by
  cases listed with
  | some listed => exact Regex.reads_literalAnyCase listed
  | none =>
      intro place next
      refine (((Regex.reads_literalAnyCase "AKIA").seq
        (Regex.reads_exactly _ 16)) place next).trans ?_
      refine exists_congr fun word => and_congr_left fun _ => ?_
      constructor
      · rintro ⟨front, isFront, back, isBack, split⟩
        exact ⟨front, back, split, isFront, isBack⟩
      · rintro ⟨front, back, split, isFront, isBack⟩
        exact ⟨front, isFront, back, isBack, split⟩

theorem reads_listedWordRe :
    listedWordRe.Reads {word | ListedWord word} := by
  intro place next
  refine ((Regex.reads_oneOf reads_alternative _) place next).trans ?_
  refine exists_congr fun word => and_congr_left fun _ => ?_
  constructor
  · rintro ⟨part, isPart, reads⟩
    rcases List.mem_append.mp isPart with isPart | isPart
    · rcases List.mem_map.mp isPart with ⟨listed, isListed, rfl⟩
      exact .inl ⟨listed, isListed, reads⟩
    · cases List.mem_singleton.mp isPart
      exact .inr reads
  · rintro (⟨listed, isListed, folds⟩ | isKey)
    · exact ⟨some listed, List.mem_append_left _
        (List.mem_map_of_mem isListed), folds⟩
    · exact ⟨none, List.mem_append_right _
        (List.mem_singleton_self none), isKey⟩

/-- A listed word is found between two boundaries. -/
theorem occurs_credentialRe_iff
    {isWord : CodePoint → Bool} {value : Text} :
    (credentialRe isWord).Occurs value ↔ FoundWord isWord value := by
  rw [credentialRe_eq, Regex.occurs_iff_matchesAt]
  simp only [Regex.matchesAt_boundary_seq, Regex.matchesAt_boundary,
    reads_listedWordRe.matchesAt_seq]
  constructor
  · rintro ⟨front, _, rfl, before, word, isListed, rest, rfl, behind⟩
    rw [← lastPoint_append, lastPoint_none] at behind
    rw [lastPoint_none] at before
    exact ⟨front, word, rest, (List.append_assoc _ _ _).symm, isListed,
      before, behind⟩
  · rintro ⟨front, word, rest, rfl, isListed, before, behind⟩
    rw [Boundary, ← lastPoint_none] at before behind
    rw [lastPoint_append] at behind
    exact ⟨front, word ++ rest, List.append_assoc _ _ _, before, word,
      isListed, rest, rfl, behind⟩

/-! ## Delimited words -/

theorem isWord_of_folded
    (words : WordTable) {point : CodePoint} (isAscii : point.val < 128)
    (folded : Regex.alphanumeric (Regex.foldCase point) = true) :
    words.isWord point = true := by
  rw [words.isWord_ascii point isAscii, Bool.or_eq_true]
  left
  by_cases isUpper : 65 ≤ point.val ∧ point.val ≤ 90
  · simp [Regex.alphanumeric, Regex.letter, Regex.upper, isUpper]
  · have same : Regex.foldCase point = point := by
      rw [Regex.foldCase, if_neg isUpper, if_neg (by omega),
        if_neg (by omega), if_neg (by omega)]
    rw [same] at folded
    exact folded

theorem any_isWord_of_folded
    (words : WordTable) {found : Option CodePoint}
    (isAscii : ∀ point ∈ found, point.val < 128)
    (folded :
      (found.map Regex.foldCase).any Regex.alphanumeric = true) :
    found.any words.isWord = true := by
  cases found with
  | none => exact folded
  | some point => exact isWord_of_folded words (isAscii point rfl) folded

/-- The listed words other than the PEM marker begin and end with letters. -/
theorem credentialWords_ends :
    ∀ listed ∈ credentialWords,
      ((text listed).map Regex.foldCase).head?.any Regex.alphanumeric =
          true ∧
        ((text listed).map Regex.foldCase).getLast?.any
          Regex.alphanumeric = true := by
  decide +kernel

theorem CredentialWord.ends
    (words : WordTable) {word : Text} (isWord : CredentialWord word) :
    word.head?.any words.isWord = true ∧
      word.getLast?.any words.isWord = true := by
  rcases isWord with ⟨isAscii, ⟨listed, isListed, folds⟩ |
    ⟨front, back, rfl, isFront, length, all⟩⟩
  · rcases credentialWords_ends listed isListed with ⟨first, last⟩
    have same : word.map Regex.foldCase =
        (text listed).map Regex.foldCase := folds
    rw [← same] at first last
    rw [List.head?_map] at first
    rw [List.getLast?_map] at last
    exact ⟨any_isWord_of_folded words
        (fun point isHead => isAscii point (List.mem_of_head? isHead)) first,
      any_isWord_of_folded words
        (fun point isLast => isAscii point (List.mem_of_getLast? isLast))
        last⟩
  · have first : (front.map Regex.foldCase).head?.any
        Regex.alphanumeric = true := by
      rw [show front.map Regex.foldCase =
        (text "AKIA").map Regex.foldCase from isFront]
      decide
    rw [List.head?_map] at first
    have notEmpty : front ≠ [] := by
      rintro rfl
      exact absurd first Bool.false_ne_true
    have notShort : back ≠ [] := by
      rintro rfl
      exact absurd length (by decide)
    constructor
    · rw [List.head?_append_of_ne_nil _ notEmpty]
      exact any_isWord_of_folded words
        (fun point isHead => isAscii point
          (List.mem_append_left _ (List.mem_of_head? isHead))) first
    · rw [List.getLast?_append_of_ne_nil _ notShort,
        List.getLast?_eq_some_getLast notShort]
      have isLast := List.getLast_mem notShort
      rw [Option.any_some,
        words.isWord_ascii _ (isAscii _ (List.mem_append_right _ isLast)),
        all _ isLast, Bool.true_or]

theorem alphanumeric_foldCase
    {point : CodePoint} (holds : Regex.alphanumeric point = true) :
    (Regex.alphanumeric (Regex.foldCase point) &&
      !Regex.upper (Regex.foldCase point)) = true := by
  by_cases isUpper : 65 ≤ point.val ∧ point.val ≤ 90
  · have lowered : (Regex.foldCase point).val = point.val + 32 := by
      rw [Regex.foldCase, if_pos isUpper, Fin.val_ofNat,
        Nat.mod_eq_of_lt (by omega)]
    simp only [Regex.alphanumeric, Regex.letter, Regex.upper,
      CodePoint.isDigit, lowered, Bool.and_eq_true, Bool.or_eq_true,
      Bool.not_eq_true', decide_eq_true_eq, Bool.and_eq_false_iff,
      decide_eq_false_iff_not]
    omega
  · simp only [Regex.alphanumeric, Regex.letter, Regex.upper,
      CodePoint.isDigit, Bool.and_eq_true, Bool.or_eq_true,
      decide_eq_true_eq] at holds
    have same : Regex.foldCase point = point := by
      rw [Regex.foldCase, if_neg isUpper, if_neg (by omega),
        if_neg (by omega), if_neg (by omega)]
    simp only [same, Regex.alphanumeric, Regex.letter, Regex.upper,
      CodePoint.isDigit, Bool.and_eq_true, Bool.or_eq_true,
      Bool.not_eq_true', decide_eq_true_eq, Bool.and_eq_false_iff,
      decide_eq_false_iff_not]
    omega

theorem CredentialWord.listed
    {word : Text} (isWord : CredentialWord word) : ListedWord word := by
  rcases isWord with ⟨isAscii, ⟨listed, isListed, folds⟩ |
    ⟨front, back, rfl, isFront, length, all⟩⟩
  · exact .inl ⟨listed, List.mem_append_left _ isListed, folds⟩
  · refine .inr ⟨front, back, rfl, isFront, length, ?_⟩
    intro point isPoint
    exact alphanumeric_foldCase (all point isPoint)

theorem CredentialMarker.found
    {words : WordTable} {value : Text}
    (marked : CredentialMarker words value) :
    FoundWord words.isWord value := by
  rcases marked with ⟨front, word, rest, rfl, isWord, before, behind⟩
  rcases isWord.ends words with ⟨first, last⟩
  have notEmpty : word ≠ [] := by
    rintro rfl
    exact absurd first Bool.false_ne_true
  refine ⟨front, word, rest, rfl, isWord.listed, ?_, ?_⟩
  · rw [Boundary, before, List.head?_append_of_ne_nil _ notEmpty, first]
    exact Bool.false_ne_true
  · rw [Boundary, behind, List.getLast?_append_of_ne_nil _ notEmpty, last]
    exact Bool.false_ne_true.symm

/-! ## What blocks a build -/

/-- A text in which one of the expressions finds something. -/
def Recognised (words : WordTable) (value : Text) : Prop :=
  RootedPath value ∨ SlashedPath value ∨ DrivePath value ∨
    FoundWord words.isWord value

theorem scanString_eq_nil_iff {words : WordTable} {value : Text} :
    scanString words.isWord value = [] ↔ ¬ Recognised words value := by
  have paths : (absoluteUnixRe.search value).isSome = true ↔
      RootedPath value ∨ SlashedPath value :=
    Regex.search_isSome_iff.trans occurs_absoluteUnixRe_iff
  have drives : (windowsDriveRe.search value).isSome = true ↔
      DrivePath value :=
    Regex.search_isSome_iff.trans occurs_windowsDriveRe_iff
  have found : ((credentialRe words.isWord).search value).isSome = true ↔
      FoundWord words.isWord value :=
    Regex.search_isSome_iff.trans occurs_credentialRe_iff
  simp only [scanString, List.append_eq_nil_iff, ite_eq_right_iff,
    List.cons_ne_nil, imp_false, Bool.or_eq_true, paths, drives, found,
    Recognised, not_or, and_assoc]

mutual

/-- The details of an object are those of its strings. -/
theorem detectLeak_eq_nil_iff {words : WordTable} :
    (value : Json) → (detectLeak words.isWord value = [] ↔
      ∀ found ∈ value.strings, ¬ Recognised words found)
  | .str value => by
      simp only [detectLeak, Json.strings, List.mem_singleton, forall_eq,
        scanString_eq_nil_iff]
  | .arr items => by
      simp only [detectLeak, Json.strings]
      exact detectItems_eq_nil_iff items
  | .obj members => by
      simp only [detectLeak, Json.strings]
      exact detectMembers_eq_nil_iff members
  | .null | .bool _ | .int _ | .float _ => by
      simp [detectLeak, Json.strings]

theorem detectItems_eq_nil_iff {words : WordTable} :
    (items : List Json) → (detectItems words.isWord items = [] ↔
      ∀ found ∈ stringsOfItems items, ¬ Recognised words found)
  | [] => by simp [detectItems, stringsOfItems]
  | item :: rest => by
      simp only [detectItems, stringsOfItems, List.append_eq_nil_iff,
        detectLeak_eq_nil_iff item, detectItems_eq_nil_iff rest,
        List.forall_mem_append]

theorem detectMembers_eq_nil_iff {words : WordTable} :
    (members : Fields) → (detectMembers words.isWord members = [] ↔
      ∀ found ∈ stringsOfMembers members, ¬ Recognised words found)
  | [] => by simp [detectMembers, stringsOfMembers]
  | (key, value) :: rest => by
      simp only [detectMembers, stringsOfMembers, List.append_eq_nil_iff,
        scanString_eq_nil_iff, detectLeak_eq_nil_iff value,
        detectMembers_eq_nil_iff rest, List.forall_mem_append,
        List.forall_mem_cons, and_assoc]

end

section

variable {words : WordTable} {lower : Text → Text} {context : PageContext}
    {directory : List (Text × Bytes)} {raw : List Accepted}

/-- The build is refused as a whole: a leak is reported and no page is
written. -/
def Blocked (words : WordTable) (lower : Text → Text)
    (context : PageContext) (directory : List (Text × Bytes)) : Prop :=
  ∃ report, buildPortal words.isWord lower context directory =
      .ok (report, []) ∧
    report.leakDetected = true ∧ report.success = false

/-- A text with a mark that no expression finds. -/
def Unseen (value : Text) : Prop :=
  PemMarker value ∨ WindowsPath value ∨ DoubledSlash value

theorem Unseen.marked {value : Text} (unseen : Unseen value) :
    Marked words value := by
  rcases unseen with isPem | isDrive | isDoubled
  · exact .inl isPem
  · exact .inr (.inr (.inr isDrive))
  · exact .inr (.inr (.inl isDoubled.unixPath))

end

end ScientificResourceLab.Portal
