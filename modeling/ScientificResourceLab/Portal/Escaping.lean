import ScientificResourceLab.Portal.Build
import ScientificResourceLab.Python.Numerals
import ScientificResourceLab.Python.Substitution

/-!
# Fragments of the pages

Whatever the objects hold, what a page inserts between its fixed markup can
neither open a tag nor close an attribute, and an ampersand in it starts one
of the entities of `escape_html` (`pages_inert`).  Escaping loses nothing
(`unescapeHtml_escapeHtml`).
-/

namespace ScientificResourceLab.Portal

open Python

/-! ## Entities -/

/-- The characters that `escape_html` replaces, with their entities. -/
def entities : List (CodePoint × Text) :=
  [(codePoint '&', text "&amp;"), (codePoint '<', text "&lt;"),
    (codePoint '>', text "&gt;"), (codePoint '"', text "&quot;"),
    (codePoint '\'', text "&#39;")]

/-- What a code point is written as. -/
def entityOf (point : CodePoint) : Text :=
  match entities.lookup point with
  | some entity => entity
  | none => [point]

/-- A code point is replaced by its entity, or it is none of the five. -/
theorem entityOf_cases (point : CodePoint) :
    (point, entityOf point) ∈ entities ∨
      entityOf point = [point] ∧
        ∀ entry ∈ entities, point ≠ entry.1 := by
  rw [entityOf]
  cases found : entities.lookup point with
  | some entity =>
      obtain ⟨front, rest, split, -⟩ := List.lookup_eq_some_iff.mp found
      left
      rw [split]
      exact List.mem_append_right _ List.mem_cons_self
  | none =>
      refine .inr ⟨rfl, ?_⟩
      intro entry member same
      have apart := List.lookup_eq_none_iff.mp found entry member
      simp [same] at apart

theorem forall_entities
    {holds : CodePoint × Text → Bool}
    (all : entities.all holds = true) :
    ∀ entry ∈ entities, holds entry = true :=
  List.all_eq_true.mp all

/-- The five replacements one after the other are one. -/
theorem escapeHtml_eq (value : Text) :
    escapeHtml value = value.flatMap entityOf := by
  have one (point : CodePoint) : escapeHtml [point] = entityOf point := by
    rcases entityOf_cases point with isEntity | ⟨isPoint, apart⟩
    · have written : ∀ entry ∈ entities, (escapeHtml [entry.1] == entry.2) =
          true :=
        forall_entities (by decide)
      simpa using written _ isEntity
    · simp only [entities, List.forall_mem_cons] at apart
      obtain ⟨ampersand, less, greater, quote, apostrophe, -⟩ := apart
      simp only [isPoint, escapeHtml, replacePoint, List.flatMap_singleton,
        if_neg ampersand, if_neg less, if_neg greater, if_neg quote,
        if_neg apostrophe]
  induction value with
  | nil => rfl
  | cons point rest induction =>
      have split : escapeHtml (point :: rest) =
          escapeHtml [point] ++ escapeHtml rest := by
        simp only [escapeHtml, replacePoint, List.flatMap_cons,
          List.flatMap_append, List.flatMap_nil, List.append_nil]
      rw [split, one, induction, List.flatMap_cons]

/-! ## Inert fragments -/

/-- The characters that open a tag or close an attribute. -/
def activePoints : List CodePoint :=
  text "<>\"'"

/-- A fragment without active characters, in which every ampersand starts an
entity. -/
structure Inert (fragment : Text) : Prop where
  quiet : ∀ point ∈ fragment, point ∉ activePoints
  entity : ∀ front rest, fragment = front ++ codePoint '&' :: rest →
    ∃ entry ∈ entities, entry.2 <+: codePoint '&' :: rest

/-- A fragment without any of the five characters is inert. -/
theorem inert_of_apart
    {fragment : Text}
    (apart : ∀ point ∈ fragment, ∀ entry ∈ entities, point ≠ entry.1) :
    Inert fragment where
  quiet point member active := by
    have listed : activePoints.all
        (entities.map Prod.fst).contains = true := by
      decide
    have isEntry := List.all_eq_true.mp listed point active
    simp only [List.contains_iff_mem, List.mem_map] at isEntry
    obtain ⟨entry, isEntity, same⟩ := isEntry
    exact apart point member entry isEntity same.symm
  entity front rest split := by
    have member : codePoint '&' ∈ fragment := by
      rw [split]
      exact List.mem_append_right _ List.mem_cons_self
    exact absurd rfl (apart _ member _ List.mem_cons_self)

/-- One replaced code point in front of an inert fragment. -/
theorem inert_entity_append
    (point : CodePoint) {rest : Text} (inert : Inert rest) :
    Inert (entityOf point ++ rest) := by
  rcases entityOf_cases point with isEntity | ⟨isPoint, apart⟩
  · have quiet : ∀ entry ∈ entities, (entry.2.all fun point =>
        !activePoints.contains point) = true :=
      forall_entities (by decide)
    have opens : ∀ entry ∈ entities,
        (!entry.2.tail.contains (codePoint '&')) = true :=
      forall_entities (by decide)
    constructor
    · intro other member
      rcases List.mem_append.mp member with inEntity | inRest
      · simpa using List.all_eq_true.mp (quiet _ isEntity) other inEntity
      · exact inert.quiet other inRest
    · intro front later split
      rcases List.append_eq_append_iff.mp split with
        ⟨inner, isFront, isRest⟩ | ⟨inner, isEntityText, isLater⟩
      · exact inert.entity inner later isRest
      · cases inner with
        | nil => exact inert.entity [] later isLater.symm
        | cons first inner =>
            cases isLater
            cases front with
            | nil =>
                refine ⟨_, isEntity, rest, ?_⟩
                rw [isEntityText]
                rfl
            | cons head front =>
                have none := opens _ isEntity
                rw [isEntityText] at none
                simp at none
  · rw [isPoint]
    constructor
    · intro other member
      rcases List.mem_cons.mp member with rfl | inRest
      · have alone : Inert [other] :=
          inert_of_apart (List.forall_mem_singleton.mpr apart)
        exact alone.quiet other List.mem_cons_self
      · exact inert.quiet other inRest
    · intro front later split
      cases front with
      | nil =>
          cases split
          exact absurd rfl (apart _ List.mem_cons_self)
      | cons first front =>
          cases split
          exact inert.entity front later rfl

/-- An escaped value is inert. -/
theorem inert_escapeHtml (value : Text) : Inert (escapeHtml value) := by
  rw [escapeHtml_eq]
  induction value with
  | nil => exact inert_of_apart nofun
  | cons point rest induction =>
      rw [List.flatMap_cons]
      exact inert_entity_append point induction

/-- A safe name is inert. -/
theorem inert_of_filename
    {value : Text}
    (safe : ∀ point ∈ value, isFilenamePoint point = true) :
    Inert value := by
  have outside : ∀ entry ∈ entities, (!isFilenamePoint entry.1) = true :=
    forall_entities (by decide)
  apply inert_of_apart
  rintro point member entry isEntity rfl
  have refused := outside entry isEntity
  rw [safe _ member] at refused
  cases refused

/-- A safe file name has safe code points only. -/
theorem safeFilename_points (objId : Text) :
    ∀ point ∈ safeFilename objId, isFilenamePoint point = true := by
  apply forall_mem_substituteFrom
  · intro previous rest found isFound point member
    dsimp only at isFound
    split_ifs at isFound
    cases isFound
    rw [List.mem_singleton.mp member]
    decide
  · intro previous point rest isCopied
    dsimp only at isCopied
    split_ifs at isCopied with none
    by_contra outside
    rw [List.takeWhile_cons_of_pos (by simpa using outside)] at none
    cases none

theorem inert_safeFilename (objId : Text) : Inert (safeFilename objId) :=
  inert_of_filename (safeFilename_points objId)

theorem inert_detailName (objId : Text) :
    Inert (detailName (safeFilename objId)) := by
  have fixedPoints (literal : String)
      (all : (text literal).all isFilenamePoint = true) :
      ∀ point ∈ text literal, isFilenamePoint point = true :=
    List.all_eq_true.mp all
  apply inert_of_filename
  rw [detailName, List.forall_mem_append, List.forall_mem_append]
  exact ⟨⟨fixedPoints _ (by decide), safeFilename_points objId⟩,
    fixedPoints _ (by decide)⟩

theorem inert_decimalText (number : Nat) : Inert (decimalText number) := by
  have digits : numeralPoints.all (fun point =>
      entities.all fun entry => !decide (point = entry.1)) = true := by
    decide
  apply inert_of_apart
  intro point member entry isEntity same
  have apart := List.all_eq_true.mp
    (List.all_eq_true.mp digits point (numeral_decimalText number point
      member)) entry isEntity
  simp [same] at apart

/-! ## Unescaping -/

/-- The entity at a position, with the character that it stands for. -/
def entityAt : Pattern := fun _ rest =>
  entities.findSome? fun entry =>
    if entry.2.isPrefixOf rest then some ⟨entry.2.length, [entry.1]⟩
    else none

/-- Every entity becomes its character again. -/
def unescapeHtml (value : Text) : Text :=
  substitute entityAt value

/-- No entity starts as another does. -/
theorem entityAt_entity
    {entry : CodePoint × Text} (isEntity : entry ∈ entities)
    (previous : Option CodePoint) (rest : Text) :
    entityAt previous (entry.2 ++ rest) =
      some ⟨entry.2.length, [entry.1]⟩ := by
  simp only [entities, List.mem_cons, List.not_mem_nil, or_false]
    at isEntity
  rcases isEntity with rfl | rfl | rfl | rfl | rfl
  · rfl
  · rfl
  · rfl
  · rfl
  · rfl

/-- Without an ampersand there is no entity. -/
theorem passes_entityAt
    {point : CodePoint} (apart : point ≠ codePoint '&') :
    Passes entityAt point := by
  have opens : ∀ entry ∈ entities,
      (entry.2.head? == some (codePoint '&')) = true :=
    forall_entities (by decide)
  intro previous rest
  rw [entityAt, List.findSome?_eq_none_iff]
  intro entry isEntity
  have isHead : entry.2.head? = some (codePoint '&') := by
    simpa using opens entry isEntity
  obtain ⟨others, split⟩ := List.head?_eq_some_iff.mp isHead
  rw [split, List.isPrefixOf_cons_cons, if_neg]
  simp [apart.symm]

/-- Unescaping recovers what was escaped. -/
theorem unescapeHtml_escapeHtml (value : Text) :
    unescapeHtml (escapeHtml value) = value := by
  have behind (previous : Option CodePoint) :
      substituteFrom entityAt previous 0 (value.flatMap entityOf) =
        value := by
    induction value generalizing previous with
    | nil => rfl
    | cons point rest induction =>
        rw [List.flatMap_cons]
        rcases entityOf_cases point with isEntity | ⟨isPoint, apart⟩
        · have nonempty : ∀ entry ∈ entities, (!entry.2.isEmpty) = true :=
            forall_entities (by decide)
          have filled : entityOf point ≠ [] := by
            simpa using nonempty _ isEntity
          rw [substituteFrom_found filled
            (entityAt_entity isEntity previous _), induction]
          rfl
        · have passes : Passes entityAt point :=
            passes_entityAt (apart _ List.mem_cons_self)
          rw [isPoint, substituteFrom_copy
            (List.forall_mem_singleton.mpr passes), induction]
          rfl
  rw [escapeHtml_eq, unescapeHtml, substitute, behind]

/-! ## Pages -/

/-- A part of a page: fixed markup, or a fragment that comes from the data. -/
inductive Part where
  | markup (literal : Text)
  | fragment (value : Text)

/-- What a part adds to the page. -/
def Part.html : Part → Text
  | .markup literal => literal
  | .fragment value => value

def Piece.parts : Piece → List Part
  | .markup literal => [.markup literal]
  | .escaped value => [.fragment (escapeHtml value)]
  | .plain value => [.fragment value]
  | .link safe objId =>
      [.markup (text "<a href=\""), .fragment (detailName safe),
        .markup (text "\">"), .fragment (escapeHtml objId),
        .markup (text "</a>")]

/-- The parts of a page, in their order. -/
def Page.parts (page : Page) : List Part :=
  page.flatMap Piece.parts

theorem html_eq_parts (page : Page) :
    page.html = page.parts.flatMap Part.html := by
  rw [Page.html, Page.parts, List.flatMap_assoc]
  apply List.flatMap_congr
  intro piece _
  cases piece with
  | markup literal => simp [Piece.html, Piece.parts, Part.html]
  | escaped value => simp [Piece.html, Piece.parts, Part.html]
  | plain value => simp [Piece.html, Piece.parts, Part.html]
  | link safe objId => simp [Piece.html, Piece.parts, Part.html]

def Piece.Inert (piece : Piece) : Prop :=
  ∀ value, .fragment value ∈ piece.parts → Portal.Inert value

/-- The renderers make inert pieces only, whatever is linked. -/
theorem keeps_inert (known : List Text) : Keeps Piece.Inert known where
  markup literal value member := by
    simp [Piece.parts] at member
  escaped shown value member := by
    simp only [Piece.parts, List.mem_singleton, Part.fragment.injEq]
      at member
    rw [member]
    exact inert_escapeHtml shown
  count number value member := by
    simp only [Piece.parts, List.mem_singleton, Part.fragment.injEq]
      at member
    rw [member]
    exact inert_decimalText number
  anchor objId value member := by
    simp only [Piece.parts, List.mem_singleton, Part.fragment.injEq]
      at member
    rw [member]
    exact inert_safeFilename objId
  link objId _ value member := by
    simp only [Piece.parts, List.mem_cons, Part.fragment.injEq,
      reduceCtorEq, List.not_mem_nil, or_false, false_or] at member
    rcases member with rfl | rfl
    · exact inert_detailName objId
    · exact inert_escapeHtml objId

/--
Every page of a site, of any accepted objects and in both modes, is made of
fixed markup and of fragments that are inert; and unescaping an escaped value
recovers it.
-/
theorem pages_inert
    (lower : Text → Text) (context : PageContext)
    (accepted : List Accepted) :
    (∀ page ∈ sitePages lower context (objectMapOf accepted) accepted,
      page.2.html = page.2.parts.flatMap Part.html ∧
        ∀ value, .fragment value ∈ page.2.parts → Inert value) ∧
      ∀ value, unescapeHtml (escapeHtml value) = value := by
  refine ⟨?_, unescapeHtml_escapeHtml⟩
  intro page isPage
  refine ⟨html_eq_parts page.2, ?_⟩
  intro value member
  obtain ⟨piece, isPiece, inPiece⟩ := List.mem_flatMap.mp member
  exact all_sitePages (keeps_inert (accepted.map Prod.fst)) lower context
    (fun entry isEntry => List.mem_map_of_mem isEntry)
    (fun _ => mem_of_objectMapOf) page isPage piece isPiece value inPiece

end ScientificResourceLab.Portal
