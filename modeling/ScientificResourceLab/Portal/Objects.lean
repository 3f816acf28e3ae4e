import ScientificResourceLab.Execution.Orphans
import ScientificResourceLab.Python.Printing
import ScientificResourceLab.Python.Regex
import ScientificResourceLab.Python.Sha256

/-!
# Objects of the portal

`srl.portal.build`: the objects that are read from a directory, their
identifiers, and the two checks of the public mode.
-/

namespace ScientificResourceLab.Portal

open Python

/-- The members of a dict. -/
abbrev Fields := List (Text × Json)

/-! ## Printing -/

/-- The layout of `json.dumps`. -/
structure Layout where
  lineBreak : Nat → Text
  colon : Text

/-- `separators=(",", ":")`. -/
def compactLayout : Layout where
  lineBreak _ := []
  colon := text ":"

/-- `indent=2`. -/
def indentedLayout : Layout where
  lineBreak depth :=
    codePoint '\n' :: List.replicate (2 * depth) (codePoint ' ')
  colon := text ": "

/-- Join texts with a separator, `separator.join(values)`. -/
def joinWith (separator : Text) : List Text → Text
  | [] => []
  | [value] => value
  | value :: rest => value ++ separator ++ joinWith separator rest

/-- The items of an array or an object between its brackets. -/
def bracketed (layout : Layout) (depth : Nat) (opening closing : String)
    (items : List Text) : Text :=
  if items = [] then text opening ++ text closing
  else
    text opening ++ layout.lineBreak (depth + 1) ++
      joinWith (text "," ++ layout.lineBreak (depth + 1)) items ++
      layout.lineBreak depth ++ text closing

mutual

/--
`json.dumps(value, sort_keys=True, ensure_ascii=False)` on a decoded value.
-/
def laidOut (layout : Layout) (depth : Nat) : Json → Text
  | .null => text "null"
  | .bool true => text "true"
  | .bool false => text "false"
  | .int value => intText value
  | .float value => jsonFloat value
  | .str value => stringText value
  | .arr items =>
      bracketed layout depth "[" "]" (laidOutItems layout (depth + 1) items)
  | .obj members =>
      bracketed layout depth "\x7b" "\x7d"
        (((laidOutMembers layout (depth + 1) members).insertionSort
          KeyLe).map fun member =>
            stringText member.1 ++ layout.colon ++ member.2)

def laidOutItems (layout : Layout) (depth : Nat) : List Json → List Text
  | [] => []
  | item :: rest =>
      laidOut layout depth item :: laidOutItems layout depth rest

def laidOutMembers (layout : Layout) (depth : Nat) :
    Fields → List (Text × Text)
  | [] => []
  | (key, value) :: rest =>
      (key, laidOut layout depth value) :: laidOutMembers layout depth rest

end

/-! ## Loading -/

/-- `_object_identifier`. -/
def objectIdentifier (obj : Fields) : Except PyError Text :=
  match Json.lookup (text "object_id") obj with
  | some (.str candidate) => .ok candidate
  | _ =>
      match utf8Encode (laidOut compactLayout 0 (.obj obj)) with
      | some payload => .ok (text "local:" ++ sha256 payload)
      | none => .error (raised .unicodeEncodeError "surrogates not allowed")

/-- `path.suffix`. -/
def suffix (name : Text) : Text :=
  let extension := (name.reverse.takeWhile (· ≠ codePoint '.')).reverse
  let dot := name.length - extension.length - 1
  if 0 < dot ∧ extension ≠ [] then codePoint '.' :: extension else []

/-- `json.loads` on a `str`. -/
def loadsText (source : Text) : Except PyError Json :=
  match parseText true source with
  | .ok value => .ok value
  | .error .value => .error (raised .valueError
      "Exceeds the limit (4300 digits) for integer string conversion")
  | .error _ => .error (raised .jsonDecodeError "Expecting value")

/-- One line of an object file. -/
def loadLine (line : Text) : Except PyError (Text × Fields) := do
  match ← loadsText line with
  | .obj members => do
      let objectId ← objectIdentifier members
      pure (objectId, members)
  | other =>
      .error ⟨.attributeError, text "'" ++ typeName other ++
        text "' object has no attribute 'get'"⟩

/-- The lines of an object file that are not blank. -/
def objectLines (content : Text) : List Text :=
  ((Execution.splitLines content).map strip).filter (· ≠ [])

/-- The objects of one file, `path.read_text(encoding="utf-8")` included. -/
def loadFile (content : Bytes) : Except PyError (List (Text × Fields)) :=
  match utf8Decode content with
  | some decoded => (objectLines decoded).mapM loadLine
  | none => .error (raised .unicodeDecodeError "invalid start byte")

/--
`_load_objects` on the regular files of a directory, given with their names.
-/
def loadObjects (directory : List (Text × Bytes)) :
    Except PyError (List (Text × Fields)) := do
  let listed := directory.insertionSort KeyLe
  let chosen := listed.filter fun entry => suffix entry.1 = text ".json"
  let loaded ← chosen.mapM fun entry => loadFile entry.2
  pure loaded.flatten

/-! ## The boundary of the public mode -/

section

variable (isWord : CodePoint → Bool)

/-- `_ABSOLUTE_UNIX_RE`. -/
def absoluteUnixRe : Regex :=
  .sequence
    [.oneOf [.start, .point '/'],
      .oneOf [.literal "Users", .literal "home", .literal "root",
        .literal "etc", .literal "var", .literal "tmp",
        .literal "private", .literal "opt"],
      .point '/',
      .atLeast 1 (.one fun point =>
        point ≠ codePoint '/' && Regex.visible point)]

/-- `_WINDOWS_DRIVE_RE`. -/
def windowsDriveRe : Regex :=
  .sequence [.start, .one Regex.letter, .point ':',
    .one (Regex.among "/\\")]

/-- `_CREDENTIAL_RE`. -/
def credentialRe : Regex :=
  .sequence
    [.boundary isWord,
      .oneOf [.literalAnyCase "password", .literalAnyCase "secret",
        .literalAnyCase "token", .literalAnyCase "api_key",
        .literalAnyCase "private_key", .literalAnyCase "credential",
        .literalAnyCase "credentials", .literalAnyCase "bearer",
        .literalAnyCase "aws_access_key_id",
        .literalAnyCase "aws_secret_access_key",
        .literalAnyCase "ssh-rsa", .literalAnyCase "-----BEGIN",
        .seq (.literalAnyCase "AKIA") (.exactly
          (.oneAnyCase fun point =>
            Regex.alphanumeric point && !Regex.upper point) 16)],
      .boundary isWord]

/-- `_scan_string`. -/
def scanString (value : Text) : List Text :=
  (if (absoluteUnixRe.search value).isSome ||
      (windowsDriveRe.search value).isSome then
    [text "absolute local path: " ++ quoted (value.take 120)]
  else []) ++
    (if ((credentialRe isWord).search value).isSome then
      [text "credential pattern: " ++ quoted (value.take 120)]
    else [])

mutual

/-- `_detect_leak`. -/
def detectLeak : Json → List Text
  | .obj members => detectMembers members
  | .arr items => detectItems items
  | .str value => scanString isWord value
  | _ => []

def detectItems : List Json → List Text
  | [] => []
  | item :: rest => detectLeak item ++ detectItems rest

def detectMembers : Fields → List Text
  | [] => []
  | (key, value) :: rest =>
      scanString isWord key ++ detectLeak value ++ detectMembers rest

end

end

/-- `part in value`, for strings. -/
def contains (part value : Text) : Bool :=
  value.tails.any part.isPrefixOf

mutual

/-- `_contains_public_marker`. -/
def containsPublicMarker : Json → Bool
  | .obj members => membersContainMarker members
  | .arr items => itemsContainMarker items
  | .str value => contains (text "fixtures/public/") value
  | _ => false

def itemsContainMarker : List Json → Bool
  | [] => false
  | item :: rest => containsPublicMarker item || itemsContainMarker rest

def membersContainMarker : Fields → Bool
  | [] => false
  | (_, value) :: rest =>
      containsPublicMarker value || membersContainMarker rest

end

/-- `_is_public_synthetic`. -/
def isPublicSynthetic (obj : Fields) : Bool :=
  match Json.lookup (text "synthetic") obj,
    Json.lookup (text "license") obj with
  | some (.bool true), _ => true
  | _, some (.str license) =>
      license = text "CC0-1.0" || containsPublicMarker (.obj obj)
  | _, _ => containsPublicMarker (.obj obj)

end ScientificResourceLab.Portal
