import ScientificResourceLab.Bridge.Exporter
import ScientificResourceLab.Python.RegexMatches
import ScientificResourceLab.Python.Spaces
import ScientificResourceLab.Python.Substitution

/-!
# What the sanitizer guarantees

The scan of a payload is the loop over what it comes to
(`scanPayload_eq_forM`): it refuses exactly the payloads with a forbidden class
in a string below no exempt name, unless a key that is an integer beyond the
limit of `str` has to be written into a path before (`refuses_iff_iff`).  Every
packet has gone through it.  A normalised summary is the words of the given one with
single spaces between them (`collapseSpace_eq`), so normalising it again
changes nothing.
-/

namespace ScientificResourceLab.Bridge

open Python Steps Contracts

/-! ## Forbidden classes -/

section

variable (isWord : CodePoint → Bool)

/-- A text contains a forbidden class. -/
def ContainsForbidden (value : Text) : Prop :=
  ∃ candidate ∈ detectors isWord ++ credentialPatterns,
    candidate.2.Occurs value

end

variable {isWord : CodePoint → Bool}

theorem firstHit_eq_none_iff
    {label : String → Text} {candidates : List (String × Regex)}
    {value : Text} :
    firstHit label candidates value = none ↔
      ∀ candidate ∈ candidates, ¬ candidate.2.Occurs value := by
  rw [firstHit, List.findSome?_eq_none_iff]
  apply forall₂_congr
  intro candidate _
  rw [Option.map_eq_none_iff, ← Regex.search_isSome_iff]
  simp

/-- Nothing is found exactly in a text without a forbidden class. -/
theorem findFirstForbidden_eq_none_iff {value : Text} :
    findFirstForbidden isWord value = none ↔
      ¬ ContainsForbidden isWord value := by
  simp only [findFirstForbidden, Option.or_eq_none_iff,
    firstHit_eq_none_iff, ContainsForbidden, List.mem_append, not_exists,
    not_and]
  constructor
  · rintro ⟨first, second⟩ candidate (member | member)
    · exact first candidate member
    · exact second candidate member
  · intro each
    exact ⟨fun candidate member => each candidate (.inl member),
      fun candidate member => each candidate (.inr member)⟩

/-! ## The scan -/

/-- A string that is reached in a payload below no exempt name. -/
inductive Leaf : PyValue → Text → Prop where
  | str (value : Text) : Leaf (.str value) value
  | member {members : List (PyKey × PyValue)} {key : PyKey}
      {value : PyValue} {string : Text} (isMember : (key, value) ∈ members)
      (free : isExempt key = false) (leaf : Leaf value string) :
      Leaf (.dict members) string
  | item {items : List PyValue} {value : PyValue} {string : Text}
      (isItem : value ∈ items) (leaf : Leaf value string) :
      Leaf (.list items) string
  | slot {items : List PyValue} {value : PyValue} {string : Text}
      (isItem : value ∈ items) (leaf : Leaf value string) :
      Leaf (.tuple items) string

/-! ## The order of the scan -/

/-- What the scan comes to: a path that it writes out, or a string. -/
inductive Visit where
  | path (key : PyKey)
  | string (path : PyKey) (value : Text)

/-- The path of a member, whether or not `str` writes it. -/
def memberName (path key : PyKey) : PyKey :=
  if keyIsTruthy path then
    .str (keyText path ++ text "." ++ keyText key)
  else key

/-- The path of an item, whether or not `str` writes it. -/
def itemName (path : PyKey) (index : Nat) : PyKey :=
  .str ((if keyIsTruthy path then keyText path else []) ++ text "[" ++
    decimalText index ++ text "]")

/-- The paths that are written out below a path. -/
def written (path : PyKey) (keys : List PyKey) : List Visit :=
  if keyIsTruthy path then (path :: keys).map .path else []

mutual

/-- What the scan of a payload comes to, in its order. -/
def visits (path : PyKey) : PyValue → List Visit
  | .str value => [.string path value]
  | .dict members => memberVisits path members
  | .list items => itemVisits path 0 items
  | .tuple items => itemVisits path 0 items
  | _ => []

def memberVisits (path : PyKey) : List (PyKey × PyValue) → List Visit
  | [] => []
  | (key, value) :: rest =>
      (if isExempt key then []
      else written path [key] ++ visits (memberName path key) value) ++
        memberVisits path rest

def itemVisits (path : PyKey) (index : Nat) : List PyValue → List Visit
  | [] => []
  | item :: rest =>
      written path [] ++ visits (itemName path index) item ++
        itemVisits path (index + 1) rest

end

section

variable (isWord)

/-- What the scan does where it comes to something. -/
def check : Visit → Except PyError PUnit
  | .path key => do
      let _ ← strKey key
      pure ⟨⟩
  | .string path value => scanText isWord path value

end

theorem strKey_bind
    (isWord : CodePoint → Bool)
    {key : PyKey} {rest : Text → Except PyError PUnit} :
    (strKey key >>= rest) =
      (check isWord (.path key) >>= fun _ => rest (keyText key)) := by
  rw [check, strKey]
  cases keyFits key with
  | false => rfl
  | true => rfl

theorem memberPath_bind
    (isWord : CodePoint → Bool)
    {path key : PyKey} {rest : PyKey → Except PyError PUnit} :
    (memberPath path key >>= rest) =
      (forM (written path [key]) (check isWord) >>= fun _ =>
        rest (memberName path key)) := by
  rw [memberPath, written, memberName]
  cases keyIsTruthy path with
  | false => rfl
  | true =>
      simp only [if_true, List.map_cons, List.map_nil, List.forM_cons,
        List.forM_nil, bind_assoc, pure_bind, strKey_bind isWord]

theorem itemPath_bind
    (isWord : CodePoint → Bool)
    {path : PyKey} {index : Nat} {rest : PyKey → Except PyError PUnit} :
    (itemPath path index >>= rest) =
      (forM (written path []) (check isWord) >>= fun _ =>
        rest (itemName path index)) := by
  rw [itemPath, pathText, written, itemName]
  cases keyIsTruthy path with
  | false => rfl
  | true =>
      simp only [if_true, List.map_cons, List.map_nil, List.forM_cons,
        List.forM_nil, bind_assoc, pure_bind, strKey_bind isWord]

mutual

/-- The scan is the loop over what it comes to. -/
theorem scanPayload_eq_forM (payload : PyValue) (path : PyKey) :
    scanPayload isWord path payload =
      forM (visits path payload) (check isWord) := by
  cases payload with
  | str value =>
      rw [scanPayload, visits, List.forM_cons, check]
      cases scanText isWord path value <;> rfl
  | dict members => exact scanMembers_eq_forM members path
  | list items => exact scanItems_eq_forM items path 0
  | tuple items => exact scanItems_eq_forM items path 0
  | none | bool | int | float => rfl

theorem scanMembers_eq_forM
    (members : List (PyKey × PyValue)) (path : PyKey) :
    scanMembers isWord path members =
      forM (memberVisits path members) (check isWord) := by
  cases members with
  | nil => rfl
  | cons member rest =>
      cases member with
      | mk key value =>
          rw [scanMembers, memberVisits, List.forM_append,
            ← scanMembers_eq_forM rest path]
          cases isExempt key with
          | true => rfl
          | false =>
              simp only [Bool.false_eq_true, if_false, List.forM_append,
                ← scanPayload_eq_forM value]
              rw [memberPath_bind isWord, bind_assoc]

theorem scanItems_eq_forM
    (items : List PyValue) (path : PyKey) (index : Nat) :
    scanItems isWord path index items =
      forM (itemVisits path index items) (check isWord) := by
  cases items with
  | nil => rfl
  | cons item rest =>
      rw [scanItems, itemVisits, itemPath_bind isWord]
      simp only [List.forM_append, ← scanPayload_eq_forM item,
        ← scanItems_eq_forM rest, bind_assoc]

end

theorem string_not_mem_written
    {path : PyKey} {keys : List PyKey} {name : PyKey} {value : Text} :
    Visit.string name value ∉ written path keys := by
  rw [written]
  split_ifs <;> simp

mutual

/-- A string is come to exactly if it is reached below no exempt name. -/
theorem leaf_iff_visited
    (payload : PyValue) (path : PyKey) (value : Text) :
    Leaf payload value ↔ ∃ name, Visit.string name value ∈
      visits path payload := by
  cases payload with
  | str given =>
      rw [visits]
      constructor
      · rintro ⟨⟩
        exact ⟨path, List.mem_singleton_self _⟩
      · rintro ⟨name, isVisit⟩
        cases List.mem_singleton.mp isVisit
        exact .str value
  | dict members =>
      rw [visits, ← memberLeaf_iff_visited members path value]
      constructor
      · rintro (_ | ⟨isMember, free, leaf⟩)
        exact ⟨_, isMember, free, leaf⟩
      · rintro ⟨member, isMember, free, leaf⟩
        exact .member isMember free leaf
  | list items =>
      rw [visits, ← itemLeaf_iff_visited items path 0 value]
      constructor
      · rintro (_ | _ | ⟨isItem, leaf⟩)
        exact ⟨_, isItem, leaf⟩
      · rintro ⟨item, isItem, leaf⟩
        exact .item isItem leaf
  | tuple items =>
      rw [visits, ← itemLeaf_iff_visited items path 0 value]
      constructor
      · rintro (_ | _ | _ | ⟨isItem, leaf⟩)
        exact ⟨_, isItem, leaf⟩
      · rintro ⟨item, isItem, leaf⟩
        exact .slot isItem leaf
  | none | bool | int | float =>
      apply iff_of_false
      · rintro ⟨⟩
      · rintro ⟨name, ⟨⟩⟩

theorem memberLeaf_iff_visited
    (members : List (PyKey × PyValue)) (path : PyKey) (value : Text) :
    (∃ member ∈ members, isExempt member.1 = false ∧
        Leaf member.2 value) ↔
      ∃ name, Visit.string name value ∈ memberVisits path members := by
  cases members with
  | nil => simp [memberVisits]
  | cons member rest =>
      cases member with
      | mk key payload =>
          have here := leaf_iff_visited payload (memberName path key) value
          have later := memberLeaf_iff_visited rest path value
          rw [memberVisits]
          cases isExempted : isExempt key with
          | true =>
              simp [isExempted, later]
          | false =>
              simp [isExempted, later, here, string_not_mem_written,
                exists_or]

theorem itemLeaf_iff_visited
    (items : List PyValue) (path : PyKey) (index : Nat) (value : Text) :
    (∃ item ∈ items, Leaf item value) ↔
      ∃ name, Visit.string name value ∈ itemVisits path index items := by
  cases items with
  | nil => simp [itemVisits]
  | cons item rest =>
      have here := leaf_iff_visited item (itemName path index) value
      have later := itemLeaf_iff_visited rest path (index + 1) value
      rw [itemVisits]
      simp [later, here, string_not_mem_written, exists_or]

end

/-! ## What the scan refuses -/

theorem forM_eq_ok_iff
    {α : Type} {items : List α} {body : α → Except PyError PUnit} :
    forM items body = .ok ⟨⟩ ↔ ∀ item ∈ items, body item = .ok ⟨⟩ := by
  induction items with
  | nil => exact iff_of_true rfl nofun
  | cons item rest induction =>
      rw [List.forM_cons, List.forall_mem_cons, ← induction]
      cases body item <;> simp [bind, Except.bind]

/-- A loop raises what its body raises on the first item it stops at. -/
theorem raisesOnly_forM_iff
    {α : Type} {items : List α} {body : α → Except PyError PUnit}
    {allowed : PyError → Prop} :
    RaisesOnly allowed (forM items body) ↔
      ∀ before item after, items = before ++ item :: after →
        (∀ earlier ∈ before, body earlier = .ok ⟨⟩) →
          RaisesOnly allowed (body item) := by
  induction items with
  | nil =>
      refine iff_of_true (raisesOnly_ok _) ?_
      intro before item after split
      exact absurd split (by simp)
  | cons first rest induction =>
      rw [List.forM_cons, raisesOnly_bind_iff]
      constructor
      · rintro ⟨head, tail⟩ before item after split passed
        cases before with
        | nil =>
            cases split
            exact head
        | cons earlier before =>
            cases split
            have later := tail ⟨⟩ (passed _ List.mem_cons_self)
            exact induction.mp later before item after rfl
              fun other isOther => passed other
                (List.mem_cons_of_mem _ isOther)
      · intro each
        refine ⟨each [] first rest rfl nofun, fun _ passes => ?_⟩
        refine induction.mpr fun before item after split passed => ?_
        refine each (first :: before) item after
          (congrArg (first :: ·) split) ?_
        exact List.forall_mem_cons.mpr ⟨passes, passed⟩

theorem scanText_eq_ok_iff {path : PyKey} {value : Text} :
    scanText isWord path value = .ok ⟨⟩ ↔
      ¬ ContainsForbidden isWord value := by
  rw [← findFirstForbidden_eq_none_iff, scanText]
  cases findFirstForbidden isWord value with
  | none => simp
  | some hit =>
      simp only [reduceCtorEq, iff_false]
      cases pathText path <;> nofun

/-- A string is refused where its path can be written out. -/
theorem raisesOnly_scanText_iff {path : PyKey} {value : Text} :
    RaisesOnly (·.kind = .sanitizerRefusalError)
        (scanText isWord path value) ↔
      (ContainsForbidden isWord value → keyIsTruthy path = true →
        keyFits path = true) := by
  have hits : findFirstForbidden isWord value = none ↔
      ¬ ContainsForbidden isWord value :=
    findFirstForbidden_eq_none_iff
  rw [scanText]
  cases found : findFirstForbidden isWord value with
  | none =>
      refine iff_of_true (raisesOnly_ok _) fun forbidden => ?_
      exact absurd forbidden (hits.mp found)
  | some hit =>
      have forbidden : ContainsForbidden isWord value := by
        by_contra clean
        rw [hits.mpr clean] at found
        cases found
      simp only [forbidden, true_imp_iff, pathText, strKey]
      cases keyIsTruthy path <;> cases keyFits path <;>
        simp [RaisesOnly, raised, bind, Except.bind]

section

variable (isWord)

/-- Nothing stops the scan where it comes to this. -/
def Clears : Visit → Prop
  | .path key => keyFits key = true
  | .string _ value => ¬ ContainsForbidden isWord value

/-- What is written out where the scan comes to this is within the limit. -/
def Written : Visit → Prop
  | .path key => keyFits key = true
  | .string path value => ContainsForbidden isWord value →
      keyIsTruthy path = true → keyFits path = true

/--
In the order of the scan, every integer that is written out as part of a path
is within the limit, up to the first string with a forbidden class and its own
path.
-/
def PathsWritten (payload : PyValue) : Prop :=
  ∀ before visit after,
    visits (.str []) payload = before ++ visit :: after →
      (∀ earlier ∈ before, Clears isWord earlier) → Written isWord visit

end

theorem check_eq_ok_iff {visit : Visit} :
    check isWord visit = .ok ⟨⟩ ↔ Clears isWord visit := by
  cases visit with
  | path key =>
      rw [check, strKey, Clears]
      cases keyFits key <;> simp [raised, bind, Except.bind, pure,
        Except.pure]
  | string path value => exact scanText_eq_ok_iff

theorem raisesOnly_check_iff {visit : Visit} :
    RaisesOnly (·.kind = .sanitizerRefusalError) (check isWord visit) ↔
      Written isWord visit := by
  cases visit with
  | path key =>
      rw [check, strKey, Written]
      cases keyFits key <;> simp [RaisesOnly, raised, bind, Except.bind,
        pure, Except.pure]
  | string path value => exact raisesOnly_scanText_iff

/-- A payload that reaches a forbidden class is not accepted. -/
theorem scanPayload_ne_ok
    {payload : PyValue} {string : Text} (leaf : Leaf payload string)
    (forbidden : ContainsForbidden isWord string) (path : PyKey) :
    scanPayload isWord path payload ≠ .ok ⟨⟩ := by
  rw [scanPayload_eq_forM]
  intro accepted
  obtain ⟨name, isVisit⟩ := (leaf_iff_visited payload path _).mp leaf
  exact scanText_eq_ok_iff.mp
    (forM_eq_ok_iff.mp accepted _ isVisit) forbidden

theorem raisesOnly_scanPayload_iff {payload : PyValue} :
    RaisesOnly (·.kind = .sanitizerRefusalError)
        (scanPayload isWord (.str []) payload) ↔
      PathsWritten isWord payload := by
  rw [scanPayload_eq_forM, raisesOnly_forM_iff]
  simp only [check_eq_ok_iff, raisesOnly_check_iff, PathsWritten]

section

variable (isWord)

/-- The scan raises the error of a refusal. -/
def Refuses (payload : PyValue) : Prop :=
  ∃ error, scanPayload isWord (.str []) payload = .error error ∧
    error.kind = .sanitizerRefusalError

/-- A string that is reached contains a forbidden class. -/
def ReachesForbidden (payload : PyValue) : Prop :=
  ∃ string, Leaf payload string ∧ ContainsForbidden isWord string

end

/-- A refusal comes from a string that contains a forbidden class. -/
theorem Refuses.reachesForbidden
    {payload : PyValue} (refuses : Refuses isWord payload) :
    ReachesForbidden isWord payload := by
  by_contra clean
  obtain ⟨error, raises, kind⟩ := refuses
  have strings : ∀ name value,
      Visit.string name value ∈ visits (.str []) payload →
        ¬ ContainsForbidden isWord value := by
    intro name value isVisit forbidden
    exact clean ⟨value, (leaf_iff_visited payload _ _).mpr ⟨name, isVisit⟩,
      forbidden⟩
  have values : RaisesOnly (·.kind = .valueError)
      (scanPayload isWord (.str []) payload) := by
    rw [scanPayload_eq_forM, raisesOnly_forM_iff]
    rintro before visit after split -
    have isVisit : visit ∈ visits (.str []) payload := by
      rw [split]
      exact List.mem_append_right _ List.mem_cons_self
    cases visit with
    | path key =>
        rw [check, strKey]
        cases keyFits key <;> simp [RaisesOnly, raised, bind, Except.bind,
          pure, Except.pure]
    | string path value =>
        rw [check, scanText_eq_ok_iff.mpr (strings path value isVisit)]
        exact raisesOnly_ok _
  rw [values error raises] at kind
  cases kind

/--
The scan refuses exactly the payloads that reach a forbidden class, if and
only if there is none or the paths up to the first one can be written out.
-/
theorem refuses_iff_iff {payload : PyValue} :
    (Refuses isWord payload ↔ ReachesForbidden isWord payload) ↔
      (ReachesForbidden isWord payload → PathsWritten isWord payload) := by
  rw [← raisesOnly_scanPayload_iff]
  constructor
  · rintro exactly ⟨string, leaf, forbidden⟩ error raises
    obtain ⟨found, isRaised, kind⟩ :=
      exactly.mpr ⟨string, leaf, forbidden⟩
    cases isRaised.symm.trans raises
    exact kind
  · intro writes
    refine ⟨Refuses.reachesForbidden, fun reaches => ?_⟩
    have only := writes reaches
    obtain ⟨string, leaf, forbidden⟩ := reaches
    cases scanned : scanPayload isWord (.str []) payload with
    | error error => exact ⟨error, scanned, only error scanned⟩
    | ok done => exact absurd scanned (scanPayload_ne_ok leaf forbidden _)

/-- Every packet has gone through the scan. -/
theorem scanned_of_buildPacket
    {schemaValidate : Fields → Except PyError PUnit}
    {arguments : PacketArguments} {objects : List ExportObject}
    {packet : Fields}
    (built : buildPacket isWord schemaValidate arguments objects =
      .ok packet) :
    scanPayload isWord (.str []) (.ofJson (.obj packet)) = .ok ⟨⟩ := by
  simp only [buildPacket, sealPacket, bind_eq_ok_iff, pure_eq_ok_iff]
    at built
  obtain ⟨_, -, _, -, _, -, _, -, id, -, done, scanned, -, -, _, -, _, -,
    rfl⟩ := built
  exact scanned

/-! ## Summaries -/

/-- A run of white space becomes one space. -/
def spaceRun : Pattern := fun _ rest =>
  let run := rest.takeWhile CodePoint.isSpace
  if run = [] then none else some ⟨run.length, text " "⟩

theorem passes_spaceRun
    {point : CodePoint} (noSpace : CodePoint.isSpace point = false) :
    Passes spaceRun point := by
  intro previous rest
  rw [spaceRun, List.takeWhile_cons_of_neg (by simp [noSpace])]
  rfl

theorem spaceRun_run
    {spaces rest : Text} (nonempty : spaces ≠ [])
    (areSpaces : ∀ point ∈ spaces, CodePoint.isSpace point = true)
    (stops : ∀ point ∈ rest.head?, CodePoint.isSpace point = false)
    (previous : Option CodePoint) :
    spaceRun previous (spaces ++ rest) =
      some ⟨spaces.length, text " "⟩ := by
  rw [spaceRun, takeWhile_append_stop areSpaces stops]
  exact if_neg nonempty

/-- One space, if the text starts with white space. -/
def leadingSpace (value : Text) : Text :=
  if value.head?.any CodePoint.isSpace then [codePoint ' '] else []

/-- The runs are single spaces, one of them perhaps in front and one perhaps
behind. -/
theorem substitute_spaceRun (value : Text) :
    ∃ trailing, (trailing = [] ∨ words value ≠ [] ∧
        trailing = [codePoint ' ']) ∧
      ∀ previous, substituteFrom spaceRun previous 0 value =
        leadingSpace value ++ joinWords (words value) ++ trailing := by
  induction value using runs_induction with
  | nil => exact ⟨[], .inl rfl, fun _ => rfl⟩
  | space spaces rest nonempty areSpaces stops induction =>
      obtain ⟨trailing, isTrailing, written⟩ := induction
      have none : leadingSpace rest = [] := by
        rw [leadingSpace, if_neg]
        cases isHead : rest.head? with
        | none => exact Bool.false_ne_true
        | some point =>
            rw [Option.any_some, stops point isHead]
            exact Bool.false_ne_true
      have one : leadingSpace (spaces ++ rest) = [codePoint ' '] := by
        obtain ⟨first, others, rfl⟩ := List.exists_cons_of_ne_nil nonempty
        exact if_pos (areSpaces first List.mem_cons_self)
      rw [words_append_spaces areSpaces, one]
      refine ⟨trailing, isTrailing, fun previous => ?_⟩
      rw [substituteFrom_found nonempty
        (spaceRun_run nonempty areSpaces stops previous), written, none]
      rfl
  | word front rest nonempty noSpace stops induction =>
      obtain ⟨trailing, isTrailing, written⟩ := induction
      have none : leadingSpace (front ++ rest) = [] := by
        obtain ⟨first, others, rfl⟩ := List.exists_cons_of_ne_nil nonempty
        rw [leadingSpace, List.cons_append, List.head?_cons,
          Option.any_some, noSpace first List.mem_cons_self]
        rfl
      have copied (previous : Option CodePoint) :
          substituteFrom spaceRun previous 0 (front ++ rest) =
            front ++ (leadingSpace rest ++ joinWords (words rest) ++
              trailing) := by
        rw [substituteFrom_copy
          (fun point member => passes_spaceRun (noSpace point member)),
          written]
      rw [none]
      cases rest with
      | nil =>
          have last : trailing = [] :=
            isTrailing.resolve_right fun both => both.1 rfl
          refine ⟨[], .inl rfl, fun previous => ?_⟩
          rw [copied, last, List.append_nil front,
            words_of_noSpace nonempty noSpace]
          simp [joinWords, leadingSpace, words, runs]
      | cons space rest =>
          have isSpace := stops space rfl
          have one : leadingSpace (space :: rest) = [codePoint ' '] :=
            if_pos isSpace
          rw [words_cons_space isSpace] at isTrailing copied
          rw [words_append_space nonempty noSpace isSpace]
          rw [one] at copied
          cases later : words rest with
          | nil =>
              have last : trailing = [] :=
                isTrailing.resolve_right fun both => both.1 later
              refine ⟨[codePoint ' '], .inr ⟨List.cons_ne_nil _ _, rfl⟩,
                fun previous => ?_⟩
              rw [copied, later, last]
              simp [joinWords]
          | cons next others =>
              refine ⟨trailing, ?_, fun previous => ?_⟩
              · exact isTrailing.imp_right fun both =>
                  ⟨List.cons_ne_nil _ _, both.2⟩
              · rw [copied, later, joinWords, joinWords,
                  List.intercalate_cons_cons]
                simp

/-- A collapsed text is its words with single spaces between them. -/
theorem collapseSpace_eq (value : Text) :
    collapseSpace value = joinWords (words value) := by
  obtain ⟨trailing, isTrailing, written⟩ := substitute_spaceRun value
  have isSpace : CodePoint.isSpace (codePoint ' ') = true := by
    decide
  have joined : strip (joinWords (words value)) = joinWords (words value) :=
    strip_join fun word member =>
      ⟨ne_nil_of_mem_words member, noSpace_of_mem_words member⟩
  have front : strip (leadingSpace value ++ joinWords (words value) ++
      trailing) = strip (joinWords (words value) ++ trailing) := by
    rw [leadingSpace]
    split_ifs
    · exact strip_cons_space isSpace _
    · rfl
  have behind : strip (joinWords (words value) ++ trailing) =
      strip (joinWords (words value)) := by
    rcases isTrailing with rfl | ⟨-, rfl⟩
    · rw [List.append_nil]
    · exact strip_concat_space isSpace _
  calc
    collapseSpace value = strip (substituteFrom spaceRun none 0 value) := rfl
    _ = joinWords (words value) := by
      rw [written, front, behind, joined]

/-- Collapsing keeps the words. -/
theorem words_collapseSpace (value : Text) :
    words (collapseSpace value) = words value := by
  rw [collapseSpace_eq]
  exact words_join fun word member =>
    ⟨ne_nil_of_mem_words member, noSpace_of_mem_words member⟩

theorem collapseSpace_idempotent (value : Text) :
    collapseSpace (collapseSpace value) = collapseSpace value := by
  rw [collapseSpace_eq (collapseSpace value), words_collapseSpace,
    collapseSpace_eq]

/-- A normalised summary is within the budget, has the words of the given one
and no forbidden class, and is normalised already. -/
theorem normalizeSummary_result
    {maxBytes : Nat} {summary : Json} {result : Text}
    (normalized : normalizeSummary isWord maxBytes summary = .ok result) :
    ∃ given, summary = .str given ∧
      (∃ encoded, utf8Encode result = some encoded ∧
        encoded.length ≤ maxBytes) ∧
      words result = words given ∧
      ¬ ContainsForbidden isWord result ∧
      normalizeSummary isWord maxBytes (.str result) = .ok result := by
  cases summary with
  | str given =>
      simp only [normalizeSummary, check_bind_eq_ok_iff,
        refuseIf_eq_ok_iff] at normalized
      obtain ⟨nonempty, normalized⟩ := normalized
      cases encodes : utf8Encode (collapseSpace given) with
      | none =>
          rw [encodes] at normalized
          cases normalized
      | some encoded =>
          simp only [encodes, check_bind_eq_ok_iff, refuseIf_eq_ok_iff,
            pure_eq_ok_iff] at normalized
          obtain ⟨fits, checked, rfl⟩ := normalized
          have clean : findFirstForbidden isWord (collapseSpace given) =
              none := by
            rw [checkSummary] at checked
            cases found : findFirstForbidden isWord (collapseSpace given)
              with
            | none => rfl
            | some hit =>
                rw [found] at checked
                cases checked
          refine ⟨given, rfl, ⟨encoded, encodes, Nat.not_lt.mp fits⟩,
            words_collapseSpace given,
            findFirstForbidden_eq_none_iff.mp clean, ?_⟩
          simp only [normalizeSummary, collapseSpace_idempotent,
            check_bind_eq_ok_iff, refuseIf_eq_ok_iff, encodes,
            pure_eq_ok_iff]
          exact ⟨nonempty, fits, checked, trivial⟩
  | null | bool | int | float | arr | obj =>
      simp only [normalizeSummary] at normalized
      cases normalized

/--
The scan refuses exactly the payloads that reach a forbidden class where the
paths up to the first one can be written out; every packet has gone through
it; and a normalised summary is within the budget, differs in white space
only, contains no forbidden class and is normalised already.
-/
theorem scan_exact_iff_and_normal
    (isWord : CodePoint → Bool)
    (schemaValidate : Fields → Except PyError PUnit) :
    (∀ payload,
      (Refuses isWord payload ↔ ReachesForbidden isWord payload) ↔
        (ReachesForbidden isWord payload → PathsWritten isWord payload)) ∧
    (∀ arguments objects packet,
      buildPacket isWord schemaValidate arguments objects = .ok packet →
        scanPayload isWord (.str []) (.ofJson (.obj packet)) = .ok ⟨⟩ ∧
          ¬ ReachesForbidden isWord (.ofJson (.obj packet))) ∧
    ∀ maxBytes summary result,
      normalizeSummary isWord maxBytes summary = .ok result →
        ∃ given, summary = .str given ∧
          (∃ encoded, utf8Encode result = some encoded ∧
            encoded.length ≤ maxBytes) ∧
          words result = words given ∧
          ¬ ContainsForbidden isWord result ∧
          normalizeSummary isWord maxBytes (.str result) = .ok result := by
  refine ⟨fun _ => refuses_iff_iff, ?_, fun _ _ _ =>
    normalizeSummary_result⟩
  intro arguments objects packet built
  have scanned := scanned_of_buildPacket built
  exact ⟨scanned, fun ⟨_, leaf, forbidden⟩ =>
    scanPayload_ne_ok leaf forbidden _ scanned⟩

/-- `"two  words "` is normalised to `"two words"`. -/
theorem scan_exact_iff_and_normal_twoWords :
    ∃ given, Json.str (text "two  words ") = .str given ∧
      (∃ encoded, utf8Encode (text "two words") = some encoded ∧
        encoded.length ≤ 20) ∧
      words (text "two words") = words given ∧
      ¬ ContainsForbidden asciiWords.isWord (text "two words") ∧
      normalizeSummary asciiWords.isWord 20 (.str (text "two words")) =
        .ok (text "two words") :=
  (scan_exact_iff_and_normal asciiWords.isWord fun _ => .ok ⟨⟩).2.2 20
    (.str (text "two  words ")) (text "two words") (by decide)

theorem keyIsTruthy_pow (exponent : Nat) :
    keyIsTruthy (.int (10 ^ exponent : Nat)) = true := by
  simp [keyIsTruthy]

/-- A key with 4301 digits over a local path. -/
def numberedPayload : PyValue :=
  .dict [(.int (10 ^ 4300 : Nat), .str (text "/Users/bob"))]

/-- The path of the number cannot be written into the refusal. -/
theorem numberedPayload_unrefused :
    ¬ ∀ isWord payload,
      Refuses isWord payload ↔ ReachesForbidden isWord payload := by
  intro claimed
  have forbidden : ContainsForbidden asciiWords.isWord
      (text "/Users/bob") := by
    by_contra clean
    rw [← findFirstForbidden_eq_none_iff] at clean
    revert clean
    decide +kernel
  have leaf : Leaf numberedPayload (text "/Users/bob") :=
    .member (List.mem_singleton_self _) rfl (.str _)
  have writes := refuses_iff_iff.mp (claimed asciiWords.isWord
    numberedPayload) ⟨_, leaf, forbidden⟩
  have fits : keyFits (.int (10 ^ 4300 : Nat)) = true :=
    writes [] _ [] rfl nofun forbidden (keyIsTruthy_pow 4300)
  rw [keyFits, decide_eq_true_eq, Int.natAbs_natCast] at fits
  have long : 4301 ≤ (decimalText (10 ^ 4300)).length :=
    decimalText_length le_rfl (by decide)
  exact absurd (long.trans fits) (by decide)

end ScientificResourceLab.Bridge
