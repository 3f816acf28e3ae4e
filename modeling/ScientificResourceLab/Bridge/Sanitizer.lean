import ScientificResourceLab.Python.Exceptions
import ScientificResourceLab.Python.Objects
import ScientificResourceLab.Python.Patterns
import ScientificResourceLab.Python.Printing
import ScientificResourceLab.Python.Regex
import ScientificResourceLab.Steps.Fallible

/-!
# The disclosure sanitizer

`srl.bridge.sanitizer`: the detectors of forbidden classes, the scan of a
payload and the normalisation of a summary.  `\w` outside ASCII is a
parameter.
-/

namespace ScientificResourceLab.Bridge

open Python Steps

/-! ## Detectors -/

/-- `[A-Za-z0-9_-]`. -/
def dashedPoint (point : CodePoint) : Bool :=
  Regex.alphanumeric point || Regex.among "_-" point

/-- `[A-Za-z_]`. -/
def namePoint (point : CodePoint) : Bool :=
  Regex.letter point || Regex.among "_" point

/-- `[0-9a-fA-F]`. -/
def hexPoint (point : CodePoint) : Bool :=
  CodePoint.isDigit point || Regex.among "abcdefABCDEF" point

/-- The start of the text or white space, `(?:^|\s)`. -/
def startOrSpace : Regex :=
  .oneOf [.start, .one CodePoint.isSpace]

/-- `_LOCAL_PATH_RE`. -/
def localPathRe : Regex :=
  .oneOf [under "/Users/", under "/home/", under "/Volumes/"]
where
  /-- A name below a directory. -/
  under (directory : String) : Regex :=
    .sequence [.literal directory, .one Regex.alphanumeric,
      .many (.one Regex.segmentPoint)]

/-- `_UNIX_ABS_PATH_RE`. -/
def unixAbsPathRe : Regex :=
  .seq (.notAfter Regex.identifierPoint) (.oneOf
    [.sequence [.point '/', .one Regex.identifierPoint,
      .many (.one Regex.segmentPoint),
      .atLeast 1 (.seq (.point '/') (.atLeast 1 (.one Regex.segmentPoint)))],
      .sequence [.point '/', .one Regex.identifierPoint,
        .many (.one dashedPoint), .point '.', .one Regex.alphanumeric,
        .atMost (.one Regex.alphanumeric) 7]])

/-- `_ARGV_FLAG_RE`. -/
def argvFlagRe : Regex :=
  .sequence [startOrSpace, .literal "--", .one Regex.letter,
    .many (.one dashedPoint),
    .opt (.seq (.point '=') (.atLeast 1 (.one Regex.visible)))]

/-- `_ARGV_SHORT_FLAG_RE`. -/
def argvShortFlagRe : Regex :=
  .sequence [startOrSpace, .point '-', .one Regex.letter,
    .opt (.atLeast 1 (.one Regex.visible))]

/-- `_ENV_ASSIGN_RE`. -/
def envAssignRe : Regex :=
  .sequence
    [.oneOf [.start, .one fun point =>
        CodePoint.isSpace point || Regex.among ";&|" point],
      .one namePoint, .atLeast 2 (.one Regex.identifierPoint), .point '=',
      .one Regex.visible]

/-- `_ENV_REF_RE`. -/
def envRefRe : Regex :=
  .sequence [.point '$', .opt (.point '{'), .one namePoint,
    .atLeast 1 (.one Regex.identifierPoint), .opt (.point '}')]

/-- `_CREDENTIAL_KEYWORD_RE`. -/
def credentialKeywordRe : Regex :=
  .sequence
    [.oneOf [.sequence [.literalAnyCase "api",
        .opt (.one (Regex.among "-_")), .literalAnyCase "key"],
      .literalAnyCase "secret", .literalAnyCase "token",
      .literalAnyCase "password"],
      .many (.one CodePoint.isSpace), .one (Regex.among ":="),
      .many (.one CodePoint.isSpace), .one Regex.visible]

/-- The terms of a detector, without regard to case. -/
def termsRe (terms : List String) : Regex :=
  .oneOf (terms.map Regex.literalAnyCase)

/-- `_PRIVATE_KEY_RE`. -/
def privateKeyRe : Regex :=
  termsRe ["organism_pulse", "unified_snapshot", "operator_context"]

/-- `_CREDENTIAL_PATTERNS`. -/
def credentialPatterns : List (String × Regex) :=
  [("github_pat_classic", .seq (.literal "ghp_")
      (.atLeast 16 (.one Regex.alphanumeric))),
    ("github_oauth_token", .seq (.literal "gho_")
      (.atLeast 16 (.one Regex.alphanumeric))),
    ("github_fine_grained_pat", .seq (.literal "github_pat_")
      (.atLeast 16 (.one Regex.identifierPoint))),
    ("sk_api_key", .seq (.literal "sk-")
      (.atLeast 16 (.one Regex.alphanumeric))),
    ("aws_access_key_id", .seq (.literal "AKIA")
      (.exactly (.one fun point =>
        CodePoint.isDigit point || Regex.upper point) 16)),
    ("slack_bot_token", .seq (.literal "xoxb-")
      (.atLeast 10 (.one fun point =>
        Regex.alphanumeric point || Regex.among "-" point))),
    ("jwt", .sequence [.literal "eyJ", .many (.one dashedPoint),
      .literal ".eyJ", .many (.one dashedPoint), .point '.',
      .many (.one dashedPoint)]),
    ("pem_private_key", .sequence [.literal "BEGIN ",
      .many (.one fun point =>
        Regex.upper point || Regex.among " " point),
      .literal "PRIVATE KEY"])]

section

variable (isWord : CodePoint → Bool)

/-- `_WINDOWS_PATH_RE`. -/
def windowsPathRe : Regex :=
  .sequence [.boundary isWord, .one Regex.letter, .point ':',
    .one (Regex.among "\\/"),
    .many (.one fun point =>
      Regex.visible point && !Regex.among "'\"" point)]

/-- `_SHELL_COMMAND_RE`. -/
def shellCommandRe : Regex :=
  .sequence [startOrSpace,
    .oneOf [.literal "sudo", .literal "bash", .literal "zsh",
      .literal "curl", .literal "wget", .literal "scp", .literal "ssh",
      .literal "rsync", .literal "chmod", .literal "chown"],
    .boundary isWord]

/-- `_RAW_DATASET_RE`. -/
def rawDatasetRe : Regex :=
  .seq (.boundary isWord) (termsRe ["raw_dataset", "raw_data",
    "private_data", "patient_record", "patient_data", "phi", "pii",
    "source_record", "unredacted"])

/-- `_UUIDV7_RE`. -/
def uuidv7Re : Regex :=
  .sequence [.boundary isWord, .exactly (.one hexPoint) 8, .point '-',
    .exactly (.one hexPoint) 4, .literal "-7",
    .exactly (.one hexPoint) 3, .point '-',
    .one (Regex.among "89abAB"), .exactly (.one hexPoint) 3, .point '-',
    .exactly (.one hexPoint) 12, .boundary isWord]

/-- `_VPS_TOPOLOGY_RE`. -/
def vpsTopologyRe : Regex :=
  .seq (.boundary isWord) (termsRe ["vps_host", "instance_id",
    "availability_zone", "region_tag", "datacenter", "node_host",
    "cluster_name", "k8s_node"])

/-- `_PROMO_FLAG_RE`. -/
def promoFlagRe : Regex :=
  .sequence [.boundary isWord, termsRe ["live_mode", "live_trading",
    "trading_enabled", "production_deploy", "promotion_granted",
    "status_promoted", "ship_to_prod", "go_live"], .boundary isWord]

/-- `_DETECTORS`. -/
def detectors : List (String × Regex) :=
  [("local_path", localPathRe), ("unix_path", unixAbsPathRe),
    ("windows_path", windowsPathRe isWord), ("argv_flag", argvFlagRe),
    ("argv_short_flag", argvShortFlagRe),
    ("shell_command", shellCommandRe isWord),
    ("env_assignment", envAssignRe), ("env_reference", envRefRe),
    ("credential_keyword", credentialKeywordRe),
    ("raw_dataset_marker", rawDatasetRe isWord),
    ("t7_uuidv7", uuidv7Re isWord),
    ("vps_topology_marker", vpsTopologyRe isWord),
    ("private_key_marker", privateKeyRe),
    ("promotion_flag", promoFlagRe isWord)]

end

/-! ## Refusals -/

/-- `re.sub(r"\s+", " ", value).strip()`. -/
def collapseSpace (value : Text) : Text :=
  strip (substitute
    (fun _ rest =>
      let run := rest.takeWhile CodePoint.isSpace
      if run = [] then none else some ⟨run.length, text " "⟩)
    value)

/-- `_mask_snippet`. -/
def maskSnippet (matchText : Text) : Text :=
  collapseSpace (if matchText.length ≤ 4 then matchText
    else matchText.take 4 ++ text "...")

/-- The first detector of a list that finds something. -/
def firstHit (label : String → Text) (candidates : List (String × Regex))
    (value : Text) : Option (Text × Text) :=
  candidates.findSome? fun candidate =>
    (candidate.2.search value).map fun found =>
      (label candidate.1, maskSnippet found)

section

variable (isWord : CodePoint → Bool)

/-- `_find_first_forbidden`. -/
def findFirstForbidden (value : Text) : Option (Text × Text) :=
  (firstHit text (detectors isWord) value).or
    (firstHit (fun name =>
      text "credential_pattern (" ++ text name ++ text ")")
      credentialPatterns value)

/-- The end of every refusal. -/
def refusalAdvice : Text :=
  text "does not strip — honestly re-summarize the object (describe the " ++
    text "science, not the environment) before exporting"

/-- `check_summary`. -/
def checkSummary (summary : Text) : Except PyError PUnit :=
  match findFirstForbidden isWord summary with
  | none => .ok ⟨⟩
  | some (className, snippet) =>
      .error ⟨.sanitizerRefusalError,
        text "sanitized_summary refused: contains forbidden class " ++
          quoted className ++ text " (snippet=" ++ quoted snippet ++
          text "); the exporter refuses, it " ++ refusalAdvice⟩

/-- `_PAYLOAD_EXEMPT_FIELD_NAMES`. -/
def payloadExemptFieldNames : List Text :=
  [text "schema_version", text "packet_id",
    text "source_snapshot_digest", text "created_utc",
    text "object_digest", text "object_type", text "provenance_refs",
    text "review_only", text "canonical_effect",
    text "grants_authority", text "canonical_writes",
    text "private_identities", text "summary_max_bytes"]

mutual

/-- `repr` of a key. -/
def reprKey : PyKey → Text
  | .none => text "None"
  | .bool value => if value then text "True" else text "False"
  | .int value => intText value
  | .float value => floatText value
  | .str value => quoted value
  | .tuple [only] => text "(" ++ reprKey only ++ text ",)"
  | .tuple items =>
      text "(" ++ joinCommaBlank (reprKeys items) ++ text ")"

def reprKeys : List PyKey → List Text
  | [] => []
  | key :: rest => reprKey key :: reprKeys rest

end

/-- The text of `str` of a key. -/
def keyText : PyKey → Text
  | .str value => value
  | key => reprKey key

mutual

/-- Whether the integers in a key are within the limit of `str`. -/
def keyFits : PyKey → Bool
  | .int value => (decimalText value.natAbs).length ≤ intMaxStrDigits
  | .tuple items => keysFit items
  | _ => true

def keysFit : List PyKey → Bool
  | [] => true
  | key :: rest => keyFits key && keysFit rest

end

/-- `str` of a key. -/
def strKey (key : PyKey) : Except PyError Text :=
  if keyFits key then .ok (keyText key)
  else .error (raised .valueError
    "Exceeds the limit (4300 digits) for integer string conversion")

/-- `bool` of a key. -/
def keyIsTruthy : PyKey → Bool
  | .none => false
  | .bool value => value
  | .int value => value ≠ 0
  | .float value => !value.isZero
  | .str value => !value.isEmpty
  | .tuple items => !items.isEmpty

/-- The path of a member; at the top it is the key itself. -/
def memberPath (path key : PyKey) : Except PyError PyKey :=
  if keyIsTruthy path then do
    let front ← strKey path
    let back ← strKey key
    pure (.str (front ++ text "." ++ back))
  else .ok key

/-- A path as it stands in front of something. -/
def pathText (path : PyKey) : Except PyError Text :=
  if keyIsTruthy path then strKey path else .ok []

def itemPath (path : PyKey) (index : Nat) : Except PyError PyKey := do
  let front ← pathText path
  pure (.str (front ++ text "[" ++ decimalText index ++ text "]"))

/-- `isinstance(key, str) and key in _PAYLOAD_EXEMPT_FIELD_NAMES`. -/
def isExempt : PyKey → Bool
  | .str key => key ∈ payloadExemptFieldNames
  | _ => false

/-- What `scan_payload` does with a string. -/
def scanText (path : PyKey) (payload : Text) : Except PyError PUnit :=
  match findFirstForbidden isWord payload with
  | none => .ok ⟨⟩
  | some (className, snippet) => do
      let front ← pathText path
      .error ⟨.sanitizerRefusalError,
        text "payload string" ++
          (if keyIsTruthy path then text " at " ++ front else []) ++
          text " refused: contains forbidden class " ++
          quoted className ++ text " (snippet=" ++ quoted snippet ++
          text "); the exporter refuses, it " ++ refusalAdvice⟩

mutual

/-- `scan_payload`. -/
def scanPayload (path : PyKey) : PyValue → Except PyError PUnit
  | .str payload => scanText isWord path payload
  | .dict members => scanMembers path members
  | .list items => scanItems path 0 items
  | .tuple items => scanItems path 0 items
  | _ => .ok ⟨⟩

def scanMembers (path : PyKey) :
    List (PyKey × PyValue) → Except PyError PUnit
  | [] => .ok ⟨⟩
  | (key, value) :: rest => do
      if isExempt key then pure ⟨⟩
      else do
        let child ← memberPath path key
        scanPayload child value
      scanMembers path rest

def scanItems (path : PyKey) (index : Nat) :
    List PyValue → Except PyError PUnit
  | [] => .ok ⟨⟩
  | item :: rest => do
      let child ← itemPath path index
      scanPayload child item
      scanItems path (index + 1) rest

end

/-- A plain `ContractError`. -/
def contractError (message : Text) : PyError :=
  ⟨.contractError, message⟩

/-- `normalize_summary`. -/
def normalizeSummary (maxBytes : Nat) : Json → Except PyError Text
  | .str summary => do
      let collapsed := collapseSpace summary
      refuseIf (collapsed = []) (contractError
        (text "sanitized_summary is empty after normalization"))
      match utf8Encode collapsed with
      | none => .error (raised .unicodeEncodeError "surrogates not allowed")
      | some encoded => do
          refuseIf (maxBytes < encoded.length) (contractError
            (text "sanitized_summary is " ++ decimalText encoded.length ++
              text " bytes, exceeds the summary_max_bytes budget of " ++
              decimalText maxBytes ++ text "; shorten the summary or " ++
              text "raise the policy budget"))
          checkSummary isWord collapsed
          pure collapsed
  | other =>
      .error (contractError
        (text "sanitized_summary must be a string, got " ++
          typeName other))

end

end ScientificResourceLab.Bridge
