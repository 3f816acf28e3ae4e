import ScientificResourceLab.Portal.Objects
import ScientificResourceLab.Python.Patterns

/-!
# Pages of the portal

The renderers of `srl.portal.build`.  A page is a list of pieces, which keep
the fixed markup apart from what comes from the objects; `Page.html` is the
text that is written.

`str.lower` is a parameter.
-/

namespace ScientificResourceLab.Portal

open Python

/-- `PortalMode`. -/
inductive PortalMode where
  | privateLocal
  | publicDemo
  deriving DecidableEq

/-- `PortalMode.value`. -/
def PortalMode.value : PortalMode → Text
  | .privateLocal => text "private_local"
  | .publicDemo => text "public_demo"

/-! ## Pieces -/

/-- `str.replace` of one code point. -/
def replacePoint (char : Char) (replacement : String) (value : Text) :
    Text :=
  value.flatMap fun point =>
    if point = codePoint char then text replacement else [point]

/-- `escape_html` on a string. -/
def escapeHtml (value : Text) : Text :=
  replacePoint '\'' "&#39;" (replacePoint '"' "&quot;"
    (replacePoint '>' "&gt;" (replacePoint '<' "&lt;"
      (replacePoint '&' "&amp;" value))))

/-- The code points that a file name keeps, `[A-Za-z0-9_.-]`. -/
def isFilenamePoint (point : CodePoint) : Bool :=
  Regex.alphanumeric point || Regex.among "_.-" point

/-- `_safe_filename`. -/
def safeFilename (objId : Text) : Text :=
  substitute
    (fun _ rest =>
      let run := rest.takeWhile fun point => !isFilenamePoint point
      if run = [] then none else some ⟨run.length, text "_"⟩)
    objId

/-- The name of a detail page. -/
def detailName (safe : Text) : Text :=
  text "obj_" ++ safe ++ text ".html"

/-- A piece of a page. -/
inductive Piece where
  | markup (literal : Text)
  /-- `escape_html(value)`. -/
  | escaped (value : Text)
  /-- A value as it is. -/
  | plain (value : Text)
  /-- A link to a detail page that shows an identifier. -/
  | link (safe objId : Text)

def Piece.html : Piece → Text
  | .markup literal => literal
  | .escaped value => escapeHtml value
  | .plain value => value
  | .link safe objId =>
      text "<a href=\"" ++ detailName safe ++ text "\">" ++
        escapeHtml objId ++ text "</a>"

abbrev Page := List Piece

def Page.html (page : Page) : Text :=
  page.flatMap Piece.html

/-- The links of a page: the file that they lead to, and what they show. -/
def Page.links (page : Page) : List (Text × Text) :=
  page.filterMap fun piece =>
    match piece with
    | .link safe objId => some (detailName safe, objId)
    | _ => none

def fixed (literal : String) : Piece :=
  .markup (text literal)

/-- Join with line breaks, or what stands there when there is nothing. -/
def joinedOr (otherwise : String) : List Page → Page
  | [] => [fixed otherwise]
  | first :: rest => first ++ rest.flatMap fun page => fixed "\n" :: page

/-! ## Templates -/

/-- `base.html`. -/
def baseTemplate (title : Piece) (watermark content : Page)
    (generator builtAt : Piece) : Page :=
  [fixed ("<!DOCTYPE html>\n<html lang=\"en\">\n<head>\n" ++
    "<meta charset=\"utf-8\">\n<meta name=\"viewport\" " ++
    "content=\"width=device-width, initial-scale=1\">\n<title>"), title,
    fixed ("</title>\n<style>\nbody \x7b\n  font-family: system-ui, " ++
    "-apple-system, BlinkMacSystemFont, \"Segoe UI\", sans-serif;\n" ++
    "  margin: 0;\n  padding: 1rem;\n  color: #111;\n" ++
    "  background: #fff;\n  line-height: 1.5;\n\x7d\n" ++
    "a \x7b color: #0645ad; \x7d\n.watermark \x7b\n" ++
    "  background: #fff3cd;\n  border: 2px solid #ffc107;\n" ++
    "  color: #856404;\n  padding: 0.75rem;\n  margin-bottom: 1rem;\n" ++
    "  font-weight: bold;\n  text-align: center;\n\x7d\n" ++
    "main \x7b max-width: 64rem; margin: 0 auto; \x7d\nfooter \x7b\n" ++
    "  margin-top: 2rem;\n  padding-top: 1rem;\n" ++
    "  border-top: 1px solid #ccc;\n  font-size: 0.85rem;\n" ++
    "  color: #555;\n\x7d\ntable \x7b\n  border-collapse: collapse;\n" ++
    "  width: 100%;\n  margin: 1rem 0;\n\x7d\nth, td \x7b\n" ++
    "  border: 1px solid #ccc;\n  padding: 0.4rem;\n" ++
    "  text-align: left;\n  vertical-align: top;\n\x7d\n" ++
    "th \x7b background: #f5f5f5; \x7d\npre \x7b\n" ++
    "  background: #f5f5f5;\n  padding: 0.5rem;\n" ++
    "  overflow-x: auto;\n\x7d\n</style>\n</head>\n<body>\n")] ++
  watermark ++ [fixed "\n<main>\n"] ++ content ++
  [fixed "\n</main>\n<footer>\n<p>Generated by ", generator,
    fixed " at ", builtAt, fixed ".</p>\n</footer>\n</body>\n</html>\n"]

/-- What all pages of a build share. -/
structure PageContext where
  mode : PortalMode
  generatorVersion : Text
  builtAt : Text

/-- `_PUBLIC_DEMO_MARKER`. -/
def publicDemoMarker : Text :=
  text "DEMO — synthetic public data only"

/-- `_render_page`. -/
def renderPage (context : PageContext) (title : Text) (content : Page) :
    Page :=
  let watermark := match context.mode with
    | .publicDemo => [fixed "<div class=\"watermark\">",
        .escaped publicDemoMarker, fixed "</div>"]
    | .privateLocal => []
  baseTemplate (.escaped title) watermark content
    (.escaped (text "srl-portal/" ++ context.generatorVersion))
    (.escaped context.builtAt)

/-- The way back of every page but the index. -/
def backToCatalog : Piece :=
  fixed "\n\n<p><a href=\"index.html\">Back to catalog</a></p>\n"

/-- `index.html`. -/
def indexTemplate (mode objectCount : Piece) (objectRows : Page) : Page :=
  [fixed ("<h1>Scientific Resource Lab Portal</h1>\n" ++
    "<p>Mode: <strong>"), mode,
    fixed "</strong></p>\n<p>Objects in catalog: <strong>", objectCount,
    fixed ("</strong></p>\n\n<h2>Capability / Catalog</h2>\n<table>\n" ++
    "<thead>\n<tr><th>Object ID</th><th>Type</th><th>Created</th>" ++
    "</tr>\n</thead>\n<tbody>\n")] ++ objectRows ++
  [fixed ("\n</tbody>\n</table>\n\n<h2>Views</h2>\n<ul>\n" ++
    "<li><a href=\"lineage.html\">Transformation lineage</a></li>\n" ++
    "<li><a href=\"evidence.html\">Evidence matrix</a></li>\n" ++
    "<li><a href=\"resources.html\">Run resources</a></li>\n" ++
    "<li><a href=\"interfaces.html\">Model interfaces</a></li>\n" ++
    "</ul>\n")]

/-- `object.html`. -/
def objectTemplate (objectId objectType created : Piece) (parents : Page)
    (payload : Piece) : Page :=
  [fixed ("<h1>Object Detail</h1>\n<p><strong>Object ID:</strong> "),
    objectId, fixed "</p>\n<p><strong>Type:</strong> ", objectType,
    fixed "</p>\n<p><strong>Created:</strong> ", created,
    fixed "</p>\n\n<h2>Parents</h2>\n"] ++ parents ++
  [fixed "\n\n<h2>Payload</h2>\n<pre>", payload, fixed "</pre>",
    backToCatalog]

/-- `lineage.html`. -/
def lineageTemplate (lineageRows : Page) : Page :=
  fixed ("<h1>Transformation Lineage</h1>\n<p>Each row shows how an " ++
    "object derives from its parents. Lossiness is visible\n" ++
    "for every step.</p>\n\n") :: lineageRows ++ [backToCatalog]

/-- `evidence.html`. -/
def evidenceTemplate (evidenceTables : Page) : Page :=
  fixed ("<h1>Evidence Matrix</h1>\n<p>The 11 orthogonal evidence axes " ++
    "are shown for every claim that carries an\nassessment.</p>\n\n") ::
    evidenceTables ++ [backToCatalog]

/-- `resources.html`. -/
def resourcesTemplate (resourceTables : Page) : Page :=
  fixed ("<h1>Run Resources</h1>\n<p>Resource usage captured by engine " ++
    "and run receipts.</p>\n\n") :: resourceTables ++ [backToCatalog]

/-- `interfaces.html`. -/
def interfacesTemplate (interfaceTables : Page) : Page :=
  fixed ("<h1>Model Interfaces</h1>\n<p>Adapter and model-interface " ++
    "definitions admitted to the portal.</p>\n\n") :: interfaceTables ++
  [fixed ("\n\n<h2>Integration Authority</h2>\n<p>Integration authority " ++
    "is always <strong>none</strong> in this codebase.</p>"),
    backToCatalog]

/-! ## Renderers -/

/-- An accepted object with its identifier. -/
abbrev Accepted := Text × Fields

section

variable (lower : Text → Text)

/-- `_object_type`. -/
def objectType (obj : Fields) : Text :=
  match Json.lookup (text "object_type") obj,
    Json.lookup (text "schema_version") obj with
  | some (.str objectType), _ => objectType
  | _, some (.str schemaVersion) =>
      lower (schemaVersion.takeWhile (· ≠ codePoint '/'))
  | _, _ => text "dict"

/-- `_object_created`. -/
def objectCreated (obj : Fields) : Text :=
  match Json.lookup (text "created_utc") obj with
  | some value => strJson value
  | none => text "unknown"

/-- A row of the catalog. -/
def indexRow (entry : Accepted) : Page :=
  [fixed "<tr><td>", .link (safeFilename entry.1) entry.1,
    fixed "</td><td>", .escaped (objectType lower entry.2),
    fixed "</td><td>", .escaped (objectCreated entry.2),
    fixed "</td></tr>"]

/-- `_render_index`. -/
def renderIndex (context : PageContext) (accepted : List Accepted) :
    Text × Page :=
  (text "index.html", renderPage context
    (text "SRL Portal — Capability Catalog")
    (indexTemplate (.escaped context.mode.value)
      (.plain (decimalText accepted.length))
      (joinedOr "<tr><td colspan=\"3\">No objects</td></tr>"
        (accepted.map (indexRow lower)))))

/-- `obj.get("parents", [])`, when it is a list with items. -/
def parentsOf (obj : Fields) : List Json :=
  match Json.lookup (text "parents") obj with
  | some (.arr parents) => parents
  | _ => []

/-- `object_map.get(parent_id)` for a parent that is a string. -/
def parentIn (objectMap : Fields) (parent : Json) : Option (Text × Json) :=
  match parent with
  | .str parentId =>
      (Json.lookup parentId objectMap).map fun obj => (parentId, obj)
  | _ => none

/-- A parent in the list of a detail page. -/
def parentLink (objectMap : Fields) (parent : Json) : Piece :=
  match parentIn objectMap parent with
  | some (parentId, _) => .link (safeFilename parentId) parentId
  | none => .escaped (strJson parent)

/-- The parents of a detail page. -/
def parentsHtml (objectMap : Fields) (obj : Fields) : Page :=
  match parentsOf obj with
  | [] => [fixed "<p>None</p>"]
  | first :: rest =>
      [fixed "<ul><li>", parentLink objectMap first] ++
        rest.flatMap (fun parent =>
          [fixed "</li><li>", parentLink objectMap parent]) ++
        [fixed "</li></ul>"]

/-- `_render_object_detail`. -/
def renderObjectDetail (context : PageContext) (objectMap : Fields)
    (entry : Accepted) : Text × Page :=
  let payload := (Json.lookup (text "payload") entry.2).getD (.obj entry.2)
  (detailName (safeFilename entry.1), renderPage context
    (text "Object " ++ entry.1)
    (objectTemplate (.escaped entry.1)
      (.escaped (objectType lower entry.2))
      (.escaped (objectCreated entry.2))
      (parentsHtml objectMap entry.2)
      (.escaped (laidOut indentedLayout 0 payload))))

/-- The members of a value that is a dict. -/
def fieldsOf : Json → Fields
  | .obj members => members
  | _ => []

/-- `_lossiness_note`. -/
def lossinessNote (child parent : Fields) : Text :=
  let childType := objectType lower child
  let parentType :=
    if parent = [] then text "unknown" else objectType lower parent
  if childType = parentType then text "same type; verify fidelity"
  else if childType = text "transformation_receipt" ∨
      childType = text "run_receipt" then
    text "transformation metadata may drop intermediate state"
  else parentType ++ text " -> " ++ childType

def lineageItem (objectMap : Fields) (obj : Fields) (parent : Json) :
    Page :=
  match parentIn objectMap parent with
  | some (parentId, parentObj) =>
      [fixed "<li>Parent: ", .link (safeFilename parentId) parentId,
        fixed " — lossiness: <em>",
        .escaped (lossinessNote lower obj (fieldsOf parentObj)),
        fixed "</em></li>"]
  | none =>
      [fixed "<li>Parent: ", .escaped (strJson parent),
        fixed " (lossiness: <em>parent not in corpus</em>)</li>"]

def lineageSection (objectMap : Fields) (entry : Accepted) : Page :=
  match parentsOf entry.2 with
  | [] => [fixed "<h2>", .escaped entry.1,
      fixed "</h2><p>Root object (no parents).</p>"]
  | parents =>
      [fixed "<h2>", .escaped entry.1, fixed "</h2><ul>"] ++
        parents.flatMap (lineageItem lower objectMap entry.2) ++
        [fixed "</ul>"]

/-- `_render_lineage`. -/
def renderLineage (context : PageContext) (objectMap : Fields)
    (accepted : List Accepted) : Text × Page :=
  (text "lineage.html", renderPage context
    (text "Transformation Lineage")
    (lineageTemplate (joinedOr "<p>No lineage data.</p>"
      (accepted.map (lineageSection lower objectMap)))))

/-- A table of one object, with the heads of its columns. -/
def tableSection (columns : String) (objId : Text)
    (rows : List (Text × Text)) : Page :=
  [fixed "<h2 id=\"", .plain (safeFilename objId), fixed "\">",
    .escaped objId, fixed ("</h2><table><thead><tr>" ++ columns ++
      "</tr></thead><tbody>")] ++
  joinedOr "" (rows.map fun row =>
    [fixed "<tr><td>", .escaped row.1, fixed "</td><td>",
      .escaped row.2, fixed "</td></tr>"]) ++
  [fixed "</tbody></table>"]

/-- The tables of the objects that have one. -/
def tables (columns otherwise : String)
    (rowsOf : Fields → Option (List (Text × Text)))
    (accepted : List Accepted) : Page :=
  joinedOr otherwise (accepted.filterMap fun entry =>
    (rowsOf entry.2).map (tableSection columns entry.1))

/-- `_AXIS_NAMES`. -/
def axisNames : List Text :=
  [text "capability_state", text "exercise_level",
    text "engine_execution", text "scientific_check",
    text "formal_check", text "formal_scope",
    text "statistical_support", text "causal_identification",
    text "algorithmic_cross_engine_reproduction",
    text "independent_empirical_replication",
    text "integration_authority"]

def dictAt (key : String) (obj : Fields) : Option Fields :=
  match Json.lookup (text key) obj with
  | some (.obj members) => some members
  | _ => none

/-- `_extract_axes`. -/
def extractAxes (obj : Fields) : Option (List (Text × Text)) :=
  let axes := (dictAt "axes" obj).or
    ((dictAt "payload" obj).bind (dictAt "axes"))
  axes.map fun members => axisNames.map fun name =>
    (name, match Json.lookup name members with
      | some value => strJson value
      | none => text "n/a")

/-- `_render_evidence`. -/
def renderEvidence (context : PageContext) (accepted : List Accepted) :
    Text × Page :=
  (text "evidence.html", renderPage context (text "Evidence Matrix")
    (evidenceTemplate (tables "<th>Axis</th><th>Value</th>"
      "<p>No evidence assessments.</p>" extractAxes accepted)))

/-- `isinstance(value, int)`. -/
def isInt : Option Json → Bool
  | some (.int _) | some (.bool _) => true
  | _ => false

/-- `_extract_resources`. -/
def extractResources (obj : Fields) : Option Fields :=
  match (dictAt "resource_usage" obj).or
    ((dictAt "payload" obj).bind (dictAt "resource_usage")) with
  | some resources => some resources
  | none =>
      let wallSeconds := Json.lookup (text "wall_seconds") obj
      let rssBytes := Json.lookup (text "rss_bytes") obj
      if isInt wallSeconds && isInt rssBytes then
        some [(text "wall_seconds", wallSeconds.getD .null),
          (text "rss_bytes", rssBytes.getD .null)]
      else none

/-- The rows of a dict. -/
def shownFields (members : Fields) : List (Text × Text) :=
  members.map fun member => (member.1, strJson member.2)

/-- `_render_resources`. -/
def renderResources (context : PageContext) (accepted : List Accepted) :
    Text × Page :=
  (text "resources.html", renderPage context (text "Run Resources")
    (resourcesTemplate (tables "<th>Metric</th><th>Value</th>"
      "<p>No run resource data.</p>"
      (fun obj => (extractResources obj).map shownFields) accepted)))

/-- `_extract_interfaces`. -/
def extractInterfaces (obj : Fields) : Option Fields :=
  match dictAt "payload" obj with
  | none => none
  | some payload =>
      match Json.lookup (text "object_type") obj with
      | some (.str objectType) =>
          if objectType = text "model_interface" then some payload
          else declared payload
      | _ => declared payload
where
  /-- A payload whose schema version names a model interface. -/
  declared (payload : Fields) : Option Fields :=
    let schemaVersion :=
      match Json.lookup (text "schema_version") payload with
      | some value => strJson value
      | none => []
    if contains (text "model_interface") (lower schemaVersion) then
      some payload
    else none

/-- `_render_interfaces`. -/
def renderInterfaces (context : PageContext) (accepted : List Accepted) :
    Text × Page :=
  (text "interfaces.html", renderPage context (text "Model Interfaces")
    (interfacesTemplate (tables "<th>Field</th><th>Value</th>"
      "<p>No model interfaces.</p>"
      (fun obj => (extractInterfaces lower obj).map shownFields)
      accepted)))

/-- The pages of `_render_site`, in the order in which they are written. -/
def sitePages (context : PageContext) (objectMap : Fields)
    (accepted : List Accepted) : List (Text × Page) :=
  [renderIndex lower context accepted] ++
    accepted.map (renderObjectDetail lower context objectMap) ++
    [renderLineage lower context objectMap accepted,
      renderEvidence context accepted, renderResources context accepted,
      renderInterfaces lower context accepted]

end

end ScientificResourceLab.Portal
