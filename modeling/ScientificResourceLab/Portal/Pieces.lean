import ScientificResourceLab.Portal.Pages

/-!
# The pieces of all pages

What the renderers put into a page: fixed markup, escaped values, numbers,
safe names of identifiers, and links to detail pages.  A property of these
holds of every piece of the site (`all_sitePages`).
-/

namespace ScientificResourceLab.Portal

open Python

/-- A property of all pieces of a page. -/
def Page.All (holds : Piece → Prop) (page : Page) : Prop :=
  ∀ piece ∈ page, holds piece

/-- A property of the pieces that the renderers make, with links to known
objects only. -/
structure Keeps (holds : Piece → Prop) (known : List Text) : Prop where
  markup : ∀ literal, holds (.markup literal)
  escaped : ∀ value, holds (.escaped value)
  count : ∀ number, holds (.plain (decimalText number))
  anchor : ∀ objId, holds (.plain (safeFilename objId))
  link : ∀ objId ∈ known, holds (.link (safeFilename objId) objId)

section

variable {holds : Piece → Prop} {known : List Text}

@[simp]
theorem all_append {first second : Page} :
    Page.All holds (first ++ second) ↔
      Page.All holds first ∧ Page.All holds second :=
  List.forall_mem_append

@[simp]
theorem all_cons {piece : Piece} {page : Page} :
    Page.All holds (piece :: page) ↔
      holds piece ∧ Page.All holds page :=
  List.forall_mem_cons

@[simp]
theorem all_nil : Page.All holds [] :=
  nofun

theorem all_flatMap
    {α : Type} {items : List α} {pageOf : α → Page}
    (each : ∀ item ∈ items, Page.All holds (pageOf item)) :
    Page.All holds (items.flatMap pageOf) := by
  intro piece isPiece
  obtain ⟨item, isItem, inPage⟩ := List.mem_flatMap.mp isPiece
  exact each item isItem piece inPage

namespace Keeps

variable (keeps : Keeps holds known)

include keeps

theorem fixed (literal : String) : holds (Portal.fixed literal) :=
  keeps.markup _

theorem joinedOr
    {otherwise : String} {pages : List Page}
    (each : ∀ page ∈ pages, Page.All holds page) :
    Page.All holds (Portal.joinedOr otherwise pages) := by
  cases pages with
  | nil => exact List.forall_mem_singleton.mpr (keeps.fixed otherwise)
  | cons first rest =>
      obtain ⟨here, others⟩ := List.forall_mem_cons.mp each
      refine all_append.mpr ⟨here, all_flatMap ?_⟩
      intro page isPage
      exact all_cons.mpr ⟨keeps.fixed _, others page isPage⟩

theorem renderPage
    (context : PageContext) (title : Text) {content : Page}
    (all : Page.All holds content) :
    Page.All holds (Portal.renderPage context title content) := by
  cases context with
  | mk mode generatorVersion builtAt =>
      cases mode with
      | privateLocal =>
          simp only [Portal.renderPage, baseTemplate, all_append, all_cons,
            all_nil, keeps.fixed, keeps.escaped, all, and_self]
      | publicDemo =>
          simp only [Portal.renderPage, baseTemplate, all_append, all_cons,
            all_nil, keeps.fixed, keeps.escaped, all, and_self]

theorem tables
    (columns otherwise : String)
    (rowsOf : Fields → Option (List (Text × Text)))
    (accepted : List Accepted) :
    Page.All holds (Portal.tables columns otherwise rowsOf accepted) := by
  refine keeps.joinedOr fun page isPage => ?_
  obtain ⟨entry, _, isTable⟩ := List.mem_filterMap.mp isPage
  obtain ⟨rows, _, rfl⟩ := Option.map_eq_some_iff.mp isTable
  simp only [tableSection, all_append, all_cons, all_nil, keeps.fixed,
    keeps.escaped, keeps.anchor, and_true, true_and]
  refine keeps.joinedOr fun line isLine => ?_
  obtain ⟨row, _, rfl⟩ := List.mem_map.mp isLine
  simp only [all_cons, all_nil, keeps.fixed, keeps.escaped, and_self]

end Keeps

theorem parentIn_known
    {objectMap : Fields}
    (listed : ∀ key, (Json.lookup key objectMap).isSome → key ∈ known)
    {parent : Json} {parentId : Text} {obj : Json}
    (found : parentIn objectMap parent = some (parentId, obj)) :
    parentId ∈ known := by
  cases parent with
  | str name =>
      obtain ⟨value, isValue, same⟩ := Option.map_eq_some_iff.mp found
      cases same
      exact listed _ (by rw [isValue]; rfl)
  | _ => cases found

namespace Keeps

variable (keeps : Keeps holds known)

include keeps

theorem parentLink
    {objectMap : Fields}
    (listed : ∀ key, (Json.lookup key objectMap).isSome → key ∈ known)
    (parent : Json) : holds (Portal.parentLink objectMap parent) := by
  rw [Portal.parentLink]
  split
  · next found => exact keeps.link _ (parentIn_known listed found)
  · exact keeps.escaped _

theorem lineageItem
    (lower : Text → Text) {objectMap : Fields}
    (listed : ∀ key, (Json.lookup key objectMap).isSome → key ∈ known)
    (obj : Fields) (parent : Json) :
    Page.All holds (Portal.lineageItem lower objectMap obj parent) := by
  rw [Portal.lineageItem]
  split
  · next parentId _ found =>
      have leads := keeps.link parentId (parentIn_known listed found)
      simp only [all_cons, all_nil, keeps.fixed, keeps.escaped, leads,
        and_self]
  · simp only [all_cons, all_nil, keeps.fixed, keeps.escaped, and_self]

end Keeps

/-- Every piece of the site is one that the renderers make. -/
theorem all_sitePages
    (keeps : Keeps holds known) (lower : Text → Text)
    (context : PageContext) {objectMap : Fields} {accepted : List Accepted}
    (entries : ∀ entry ∈ accepted, entry.1 ∈ known)
    (listed : ∀ key, (Json.lookup key objectMap).isSome → key ∈ known) :
    ∀ page ∈ sitePages lower context objectMap accepted,
      Page.All holds page.2 := by
  have index : Page.All holds (renderIndex lower context accepted).2 := by
    refine keeps.renderPage _ _ ?_
    simp only [indexTemplate, all_append, all_cons, all_nil, keeps.fixed,
      keeps.escaped, keeps.count, and_true, true_and]
    refine keeps.joinedOr fun row isRow => ?_
    obtain ⟨entry, isEntry, rfl⟩ := List.mem_map.mp isRow
    have leads := keeps.link entry.1 (entries entry isEntry)
    simp only [indexRow, all_cons, all_nil, keeps.fixed, keeps.escaped,
      leads, and_self]
  have details (entry : Accepted) : Page.All holds
      (renderObjectDetail lower context objectMap entry).2 := by
    refine keeps.renderPage _ _ ?_
    simp only [objectTemplate, backToCatalog, all_append, all_cons, all_nil,
      keeps.fixed, keeps.escaped, and_true, true_and]
    rw [parentsHtml]
    cases parentsOf entry.2 with
    | nil => exact List.forall_mem_singleton.mpr (keeps.fixed _)
    | cons first rest =>
        simp only [all_append, all_cons, all_nil, keeps.fixed, and_true,
          true_and]
        refine ⟨keeps.parentLink listed first, all_flatMap ?_⟩
        intro parent _
        simp only [all_cons, all_nil, keeps.fixed,
          keeps.parentLink listed parent, and_self]
  have lineage : Page.All holds
      (renderLineage lower context objectMap accepted).2 := by
    refine keeps.renderPage _ _ ?_
    simp only [lineageTemplate, backToCatalog, List.cons_append, all_append,
      all_cons, all_nil, keeps.fixed, and_true, true_and]
    refine keeps.joinedOr fun part isPart => ?_
    obtain ⟨entry, _, rfl⟩ := List.mem_map.mp isPart
    rw [lineageSection]
    cases parentsOf entry.2 with
    | nil =>
        simp only [all_cons, all_nil, keeps.fixed, keeps.escaped, and_self]
    | cons first rest =>
        simp only [all_append, all_cons, all_nil, keeps.fixed,
          keeps.escaped, and_true, true_and]
        exact all_flatMap fun parent _ =>
          keeps.lineageItem lower listed entry.2 parent
  have evidence : Page.All holds (renderEvidence context accepted).2 := by
    refine keeps.renderPage _ _ ?_
    simp only [evidenceTemplate, backToCatalog, List.cons_append,
      all_append, all_cons, all_nil, keeps.fixed, keeps.tables, and_self]
  have resources : Page.All holds (renderResources context accepted).2 := by
    refine keeps.renderPage _ _ ?_
    simp only [resourcesTemplate, backToCatalog, List.cons_append,
      all_append, all_cons, all_nil, keeps.fixed, keeps.tables, and_self]
  have interfaces : Page.All holds
      (renderInterfaces lower context accepted).2 := by
    refine keeps.renderPage _ _ ?_
    simp only [interfacesTemplate, backToCatalog, List.cons_append,
      all_append, all_cons, all_nil, keeps.fixed, keeps.tables, and_self]
  intro page isPage
  simp only [sitePages, List.mem_append, List.mem_cons, List.mem_map,
    List.not_mem_nil, or_false] at isPage
  rcases isPage with (rfl | ⟨entry, _, rfl⟩) | rfl | rfl | rfl | rfl
  · exact index
  · exact details entry
  · exact lineage
  · exact evidence
  · exact resources
  · exact interfaces

end

end ScientificResourceLab.Portal
