import ScientificResourceLab.Portal.Pieces
import ScientificResourceLab.Python.JsonOrder
import ScientificResourceLab.Steps.Fallible

/-!
# Building the portal

`build_portal`: the objects are loaded, in the public mode checked, and the
pages of the accepted ones are written one after the other.

A detail page takes its file name from the identifier through `safeFilename`,
which maps several identifiers to one name.  The pages keep apart, and every
link leads where it says, exactly when it maps the accepted ones to different
names.
-/

namespace ScientificResourceLab.Portal

open Python Steps

/-! ## The build -/

/-- An entry of `refusals`. -/
structure Refusal where
  objectId : Text
  reason : Text
  details : List Text

/-- `PortalBuildReport`. -/
structure PortalBuildReport where
  mode : PortalMode
  success : Bool
  objectsScanned : Nat
  objectsAccepted : Nat
  objectsRefused : Nat
  leakDetected : Bool
  refusals : List Refusal
  pages : List Text
  generatorVersion : Text
  builtAt : Text

/-- What becomes of a loaded object. -/
inductive Verdict where
  | accepted
  | leak (details : List Text)
  | notSynthetic

section

variable (isWord : CodePoint → Bool) (lower : Text → Text)

/-- The checks of the public mode. -/
def judge (mode : PortalMode) (obj : Fields) : Verdict :=
  match mode with
  | .privateLocal => .accepted
  | .publicDemo =>
      match detectLeak isWord (.obj obj) with
      | [] => if isPublicSynthetic obj then .accepted else .notSynthetic
      | leaks => .leak leaks

/-- The accepted objects. -/
def acceptedOf (mode : PortalMode) (raw : List Accepted) : List Accepted :=
  raw.filter fun entry =>
    match judge isWord mode entry.2 with
    | .accepted => true
    | _ => false

def refusalsOf (mode : PortalMode) (raw : List Accepted) : List Refusal :=
  raw.filterMap fun entry =>
    match judge isWord mode entry.2 with
    | .accepted => none
    | .leak details =>
        some ⟨entry.1, text "PUBLIC_LEAK_DETECTED", details⟩
    | .notSynthetic => some ⟨entry.1, text "PUBLIC_NON_SYNTHETIC", []⟩

/-- `leak_detected`. -/
def leakDetected (mode : PortalMode) (raw : List Accepted) : Bool :=
  raw.any fun entry =>
    match judge isWord mode entry.2 with
    | .leak _ => true
    | _ => false

/-- `object_map`. -/
def objectMapOf (accepted : List Accepted) : Fields :=
  Json.ofMembers (accepted.map fun entry => (entry.1, .obj entry.2))

theorem mem_of_objectMapOf
    {accepted : List Accepted} {key : Text}
    (isKey : (Json.lookup key (objectMapOf accepted)).isSome) :
    key ∈ accepted.map Prod.fst := by
  obtain ⟨obj, found⟩ := Option.isSome_iff_exists.mp isKey
  obtain ⟨entry, isEntry, same⟩ := List.mem_map.mp
    (mem_of_lookup_ofMembers found)
  cases same
  exact List.mem_map_of_mem isEntry

/-- The pages that a build writes, in the order of writing. -/
def portalPages (context : PageContext) (raw : List Accepted) :
    List (Text × Page) :=
  if leakDetected isWord context.mode raw then []
  else
    let accepted := acceptedOf isWord context.mode raw
    sitePages lower context (objectMapOf accepted) accepted

/-- `write_text(html, encoding="utf-8")`. -/
def writePage (page : Text × Page) : Except PyError (Text × Bytes) :=
  match utf8Encode page.2.html with
  | some content => .ok (page.1, content)
  | none => .error (raised .unicodeEncodeError "surrogates not allowed")

/--
`build_portal`: the report, and the writes in their order.  A directory entry
is a regular file with its content.
-/
def buildPortal (context : PageContext) (directory : List (Text × Bytes)) :
    Except PyError (PortalBuildReport × List (Text × Bytes)) := do
  let raw ← loadObjects directory
  let leaking := leakDetected isWord context.mode raw
  let pages := portalPages isWord lower context raw
  let written ← pages.mapM writePage
  pure
    ({ mode := context.mode
       success := !leaking
       objectsScanned := raw.length
       objectsAccepted := (acceptedOf isWord context.mode raw).length
       objectsRefused := (refusalsOf isWord context.mode raw).length
       leakDetected := leaking
       refusals := refusalsOf isWord context.mode raw
       pages := (pages.map Prod.fst).insertionSort (· ≤ ·)
       generatorVersion := context.generatorVersion
       builtAt := context.builtAt },
     written)

end

/-- What a file holds after a sequence of writes. -/
def heldAt {α : Type} (name : Text) : List (Text × α) → Option α
  | [] => none
  | write :: later =>
      (heldAt name later).or (if write.1 = name then some write.2 else none)

/-! ## File names -/

theorem detailName_injective : Function.Injective detailName := by
  intro first second same
  rw [detailName, detailName, List.append_assoc, List.append_assoc] at same
  exact List.append_cancel_right (List.append_cancel_left same)

/-- A fixed page name, which no detail page has. -/
def IsFixedName (name : Text) : Prop :=
  name.head? ≠ some (codePoint 'o')

theorem detailName_ne_fixed
    {name : Text} (isFixed : IsFixedName name) (safe : Text) :
    detailName safe ≠ name := by
  rintro rfl
  exact isFixed rfl

/-- The names of the pages after the detail pages. -/
def closingNames : List Text :=
  [text "lineage.html", text "evidence.html", text "resources.html",
    text "interfaces.html"]

theorem sitePages_names
    (lower : Text → Text) (context : PageContext) (objectMap : Fields)
    (accepted : List Accepted) :
    (sitePages lower context objectMap accepted).map Prod.fst =
      text "index.html" ::
        ((accepted.map fun entry => detailName (safeFilename entry.1)) ++
          closingNames) := by
  rw [sitePages, List.map_append, List.map_append, List.map_map]
  rfl

/-- The page names differ when those of the detail pages do. -/
theorem sitePages_nodup_iff
    (lower : Text → Text) (context : PageContext) (objectMap : Fields)
    (accepted : List Accepted) :
    ((sitePages lower context objectMap accepted).map Prod.fst).Nodup ↔
      (accepted.map fun entry => safeFilename entry.1).Nodup := by
  have details : (accepted.map fun entry =>
      detailName (safeFilename entry.1)) =
      (accepted.map fun entry => safeFilename entry.1).map detailName := by
    rw [List.map_map]
    rfl
  have closing : ∀ name ∈ closingNames, IsFixedName name := by
    simp only [IsFixedName]
    decide +kernel
  have apart (safe : Text) : detailName safe ≠ text "index.html" :=
    detailName_ne_fixed (by rw [IsFixedName]; decide +kernel) safe
  rw [sitePages_names, List.nodup_cons, List.nodup_append, details,
    List.nodup_map_iff detailName_injective]
  constructor
  · rintro ⟨_, distinct, _⟩
    exact distinct
  · intro distinct
    refine ⟨fun isListed => ?_, distinct, by decide, ?_⟩
    · rcases List.mem_append.mp isListed with isDetail | isClosing
      · obtain ⟨safe, _, same⟩ := List.mem_map.mp isDetail
        exact apart safe same
      · exact absurd isClosing (by decide)
    · intro name isDetail other isClosing same
      obtain ⟨safe, _, rfl⟩ := List.mem_map.mp isDetail
      exact detailName_ne_fixed (closing other isClosing) safe same

/-! ## Links -/

/-- A link leads to the detail page of one of the objects. -/
def Piece.LeadsTo (known : List Text) : Piece → Prop
  | .link safe objId => safe = safeFilename objId ∧ objId ∈ known
  | _ => True

/-- The renderers link to known objects only. -/
theorem keeps_leadsTo (known : List Text) :
    Keeps (Piece.LeadsTo known) known where
  markup _ := trivial
  escaped _ := trivial
  count _ := trivial
  anchor _ := trivial
  link _ isKnown := ⟨rfl, isKnown⟩

/-! ## Own pages -/

theorem heldAt_of_not_mem
    {α : Type} {writes : List (Text × α)} {name : Text}
    (absent : name ∉ writes.map Prod.fst) : heldAt name writes = none := by
  induction writes with
  | nil => rfl
  | cons write later induction =>
      rw [List.map_cons, List.mem_cons, not_or] at absent
      obtain ⟨other, absentLater⟩ := absent
      rw [heldAt, induction absentLater, if_neg (Ne.symm other)]
      rfl

/-- A file that is written once holds what was written. -/
theorem heldAt_of_nodup
    {α : Type} {writes : List (Text × α)}
    (distinct : (writes.map Prod.fst).Nodup) {write : Text × α}
    (isWrite : write ∈ writes) :
    heldAt write.1 writes = some write.2 := by
  induction writes with
  | nil => cases isWrite
  | cons first later induction =>
      obtain ⟨once, distinctLater⟩ := List.nodup_cons.mp distinct
      rcases List.mem_cons.mp isWrite with rfl | isLater
      · rw [heldAt, heldAt_of_not_mem once, if_pos rfl]
        rfl
      · rw [heldAt, induction distinctLater isLater]
        rfl

/-- A file holds the encoding of the last page that was written there. -/
theorem heldAt_written
    {pages : List (Text × Page)} {written : List (Text × Bytes)}
    (wrote : pages.mapM writePage = .ok written) (name : Text) :
    (heldAt name written).map some =
      (heldAt name pages).map fun page => utf8Encode page.html := by
  induction pages generalizing written with
  | nil =>
      cases wrote
      rfl
  | cons page later induction =>
      rw [List.mapM_cons] at wrote
      obtain ⟨write, encoded, wrote⟩ := bind_eq_ok_iff.mp wrote
      obtain ⟨writes, wroteLater, wrote⟩ := bind_eq_ok_iff.mp wrote
      cases wrote
      rw [writePage] at encoded
      split at encoded
      · next content isContent =>
          cases encoded
          rw [heldAt, heldAt, Option.map_or, Option.map_or,
            induction wroteLater]
          congr 1
          split_ifs
          · rw [Option.map_some, Option.map_some, isContent]
          · rfl
      · cases encoded

section

variable (isWord : CodePoint → Bool) (lower : Text → Text)
variable (context : PageContext) (raw : List Accepted)

/--
The pages have names of their own, and every link that shows an identifier
leads to the file with the detail page of that object.
-/
structure OwnPages : Prop where
  names : ((portalPages isWord lower context raw).map Prod.fst).Nodup
  links : ∀ page ∈ portalPages isWord lower context raw,
    ∀ link ∈ page.2.links,
      ∃ entry ∈ acceptedOf isWord context.mode raw, entry.1 = link.2 ∧
        heldAt link.1 (portalPages isWord lower context raw) =
          some (renderObjectDetail lower context
            (objectMapOf (acceptedOf isWord context.mode raw)) entry).2

/--
No two accepted identifiers become the same when every run of code points
other than ASCII letters, digits, `_`, `.` and `-` is made one `_`.
-/
def SafeNamesDiffer : Prop :=
  leakDetected isWord context.mode raw = false →
    ((acceptedOf isWord context.mode raw).map fun entry =>
      safeFilename entry.1).Nodup

theorem portalPages_leadTo
    {page : Text × Page}
    (isPage : page ∈ portalPages isWord lower context raw)
    {link : Text × Text} (isLink : link ∈ page.2.links) :
    ∃ entry ∈ acceptedOf isWord context.mode raw, entry.1 = link.2 ∧
      link.1 = detailName (safeFilename entry.1) := by
  rw [portalPages] at isPage
  split_ifs at isPage
  · cases isPage
  have leads := all_sitePages (keeps_leadsTo _) lower context
    (fun entry isEntry => List.mem_map_of_mem isEntry)
    (fun _ => mem_of_objectMapOf) page isPage
  obtain ⟨piece, isPiece, isShown⟩ := List.mem_filterMap.mp isLink
  cases piece with
  | link safe objId =>
      cases isShown
      obtain ⟨rfl, isKnown⟩ := leads _ isPiece
      obtain ⟨entry, isEntry, rfl⟩ := List.mem_map.mp isKnown
      exact ⟨entry, isEntry, rfl, rfl⟩
  | _ => cases isShown

end

/-- A build that returns reports these names and leaves these pages. -/
theorem buildPortal_leaves
    {isWord : CodePoint → Bool} {lower : Text → Text}
    {context : PageContext} {directory : List (Text × Bytes)}
    {raw : List Accepted} {report : PortalBuildReport}
    {written : List (Text × Bytes)}
    (loaded : loadObjects directory = .ok raw)
    (built : buildPortal isWord lower context directory =
      .ok (report, written)) :
    report.pages.Perm
        ((portalPages isWord lower context raw).map Prod.fst) ∧
      ∀ name, (heldAt name written).map some =
        (heldAt name (portalPages isWord lower context raw)).map
          fun page => utf8Encode page.html := by
  obtain ⟨_, reloaded, built⟩ := bind_eq_ok_iff.mp built
  cases loaded.symm.trans reloaded
  obtain ⟨_, wrote, returned⟩ := bind_eq_ok_iff.mp built
  cases returned
  exact ⟨List.perm_insertionSort _ _, heldAt_written wrote⟩

/--
Every accepted object has its own page, and every link leads to the page that
it names, if and only if the safe file names of the accepted objects differ.
-/
theorem ownPages_iff_safeNamesDiffer
    (isWord : CodePoint → Bool) (lower : Text → Text)
    (context : PageContext) (raw : List Accepted) :
    OwnPages isWord lower context raw ↔
      SafeNamesDiffer isWord context raw := by
  constructor
  · intro own noLeak
    have names := own.names
    rw [portalPages, noLeak, if_neg Bool.false_ne_true] at names
    exact (sitePages_nodup_iff _ _ _ _).mp names
  · intro differ
    have names : ((portalPages isWord lower context raw).map
        Prod.fst).Nodup := by
      rw [portalPages]
      split_ifs with leaking
      · exact List.nodup_nil
      · exact (sitePages_nodup_iff _ _ _ _).mpr
          (differ (Bool.eq_false_of_not_eq_true leaking))
    refine ⟨names, fun page isPage link isLink => ?_⟩
    obtain ⟨entry, isEntry, shown, target⟩ :=
      portalPages_leadTo isWord lower context raw isPage isLink
    refine ⟨entry, isEntry, shown, ?_⟩
    have isWritten : renderObjectDetail lower context
        (objectMapOf (acceptedOf isWord context.mode raw)) entry ∈
          portalPages isWord lower context raw := by
      rw [portalPages] at isPage ⊢
      split_ifs at isPage ⊢
      · cases isPage
      · simp only [sitePages, List.mem_append, List.mem_map]
        exact .inl (.inr ⟨entry, isEntry, rfl⟩)
    rw [target]
    exact heldAt_of_nodup names isWritten

/-- A file with two objects. -/
def clashingDirectory : List (Text × Bytes) :=
  [(text "objects.json",
    ((utf8Encode (text
      "\x7b\"object_id\":\"a:b\"\x7d\n\x7b\"object_id\":\"a/b\"\x7d")).getD
      []))]

theorem clashingDirectory_ids :
    (loadObjects clashingDirectory).map (fun raw => raw.map Prod.fst) =
      .ok [text "a:b", text "a/b"] := by
  decide +kernel

/-- The identifiers `a:b` and `a/b` share a page. -/
theorem clashingDirectory_shares_page :
    ∃ raw, loadObjects clashingDirectory = .ok raw ∧
      raw.map Prod.fst = [text "a:b", text "a/b"] ∧
      (raw.map Prod.fst).Nodup ∧
      ¬ OwnPages Regex.alphanumeric lowerAscii
        ⟨.privateLocal, text "1.0", text "2026-01-01T00:00:00Z"⟩ raw := by
  cases loaded : loadObjects clashingDirectory with
  | error error =>
      have ids := clashingDirectory_ids
      rw [loaded] at ids
      cases ids
  | ok raw =>
      have ids : raw.map Prod.fst = [text "a:b", text "a/b"] := by
        have mapped := clashingDirectory_ids
        rw [loaded] at mapped
        exact Except.ok.inj mapped
      refine ⟨raw, rfl, ids, ?_, fun own => ?_⟩
      · rw [ids]
        decide
      · have all : acceptedOf Regex.alphanumeric .privateLocal raw = raw :=
          List.filter_eq_self.mpr fun _ _ => rfl
        have noLeak : leakDetected Regex.alphanumeric .privateLocal raw =
            false := List.any_eq_false.mpr fun _ _ => Bool.false_ne_true
        have names := own.names
        rw [portalPages, noLeak, if_neg Bool.false_ne_true, all,
          sitePages_nodup_iff] at names
        have safe : (raw.map fun entry => safeFilename entry.1) =
            (raw.map Prod.fst).map safeFilename := by
          rw [List.map_map]
          rfl
        rw [safe, ids] at names
        exact absurd names (by decide)

end ScientificResourceLab.Portal
