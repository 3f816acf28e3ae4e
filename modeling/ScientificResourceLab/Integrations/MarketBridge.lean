import ScientificResourceLab.Contracts.Canonical
import ScientificResourceLab.Python.JsonSearch
import ScientificResourceLab.Steps.Fallible

/-!
# The market bridge

`srl.integrations.market.bridge`: the import of an observation packet, the
request for a study, and the scan of both for blocked patterns.

The scan searches the JSON document, where a control character is an escape
sequence that ends with a letter or a digit.  It is no white space there, and
its last character hides the start of a word behind it.  So the scan is
complete but for hidden matches, for the evidence references, which it never
reads, and for the payload of a packet that was built before: its dict can
have changed since it was scanned (`scanComplete_iff`).

The payload is a JSON object.  The validator of the packaged schemas and `\w`
outside ASCII are parameters.
-/

namespace ScientificResourceLab.Integrations

open Python Steps
open Contracts

/-- The members of a dict. -/
abbrev MarketFields := List (Text × Json)

/-- `MarketBridgeError`. -/
def marketBridgeError (message : String) : PyError :=
  raised .marketBridgeError message

/-! ## The blocked patterns -/

/-- One of several words, without regard to case. -/
def anyWord (values : List String) : Regex :=
  .oneOf (values.map Regex.literalAnyCase)

/-- `\s+`. -/
def spaces : Regex :=
  .atLeast 1 (.one CodePoint.isSpace)

/-- An expression between word boundaries. -/
def delimited (words : WordTable) (parts : List Regex) : Regex :=
  .sequence (.boundary words.isWord :: parts ++ [.boundary words.isWord])

/-- `(place|submit|send|execute)\s+(order|trade)`. -/
def orderParts : List Regex :=
  [anyWord ["place", "submit", "send", "execute"], spaces,
    anyWord ["order", "trade"]]

/-- `(buy|sell|long|short|leverage|liquidate)`. -/
def actionParts : List Regex :=
  [anyWord ["buy", "sell", "long", "short", "leverage", "liquidate"]]

/-- `trading\s+strategy`. -/
def strategyParts : List Regex :=
  [.literalAnyCase "trading", spaces, .literalAnyCase "strategy"]

/-- `(api[_ -]?key|credential|secret)`. -/
def credentialParts : List Regex :=
  [.oneOf [.sequence [.literalAnyCase "api",
      .opt (.one (Regex.among "_ -")), .literalAnyCase "key"],
    .literalAnyCase "credential", .literalAnyCase "secret"]]

/-- `D[23]`. -/
def classParts : List Regex :=
  [.literal "D", .one (Regex.among "23")]

/-- `PRIVATE_PATH_MARKER`. -/
def markerParts : List Regex :=
  [.literal "PRIVATE_PATH_MARKER"]

/-- `/Users/|/Volumes/|/private/`. -/
def privateRoots : Regex :=
  anyWord ["/users/", "/volumes/", "/private/"]

/-- `_BLOCKED_MARKET_PATTERNS`. -/
def blockedMarketPatterns (words : WordTable) : List Regex :=
  [delimited words orderParts, delimited words actionParts,
    delimited words strategyParts, delimited words credentialParts,
    delimited words classParts, delimited words markerParts, privateRoots]

/-- `_scan_public_safe`. -/
def scanPublicSafe (words : WordTable) (value : Json) :
    Except PyError Unit := do
  let blob ← dumps value
  match utf8Decode blob with
  | none => .error (raised .unicodeDecodeError "invalid start byte")
  | some written =>
      refuseIf ((blockedMarketPatterns words).any
          fun pattern => (pattern.search written).isSome)
        (marketBridgeError
          "Market bridge input contains forbidden live/private material")

/-! ## Checks of fields -/

/-- The refusal of a field. -/
def marketFieldError (key : Text) (message : String) : PyError :=
  ⟨.marketBridgeError, key ++ text message⟩

/-- `_expect_str`. -/
def expectStr (packet : MarketFields) (key : Text) : Except PyError Text :=
  match Json.lookup key packet with
  | some (.str value) =>
      if value = [] then
        .error (marketFieldError key " must be a non-empty string")
      else .ok value
  | _ => .error (marketFieldError key " must be a non-empty string")

/-- `_expect_bool`. -/
def expectBool (packet : MarketFields) (key : Text) : Except PyError Bool :=
  match Json.lookup key packet with
  | some (.bool value) => .ok value
  | _ => .error (marketFieldError key " must be a bool")

/-- `_optional_str`. -/
def optionalStr (packet : MarketFields) (key : Text) :
    Except PyError (Option Text) :=
  match Json.lookup key packet with
  | none | some .null => .ok none
  | some (.str value) => .ok (some value)
  | _ => .error (marketFieldError key " must be a string or null")

/-- `_require_sha`. -/
def requireSha (value field : Text) : Except PyError Unit :=
  refuseIf (isObjectId value = false)
    (marketFieldError field " must be a sha256 digest")

/-- `re.fullmatch(r"[0-9a-f]{40}", value)`. -/
def isGitHead (value : Text) : Bool :=
  value.length = 40 && value.all CodePoint.isLowerHex

/-- `_require_git_head`. -/
def requireGitHead (value field : Text) : Except PyError Unit :=
  refuseIf (isGitHead value = false)
    (marketFieldError field " must be a git commit SHA")

/-- The classifications of public material. -/
def publicClassifications : List Text :=
  [text "D0", text "D1"]

/-! ## Packets -/

/-- The fields of `MarketObservationPacket`. -/
structure MarketObservation where
  observationId : Text
  requestId : Text
  marketHead : Text
  payload : MarketFields
  classification : Text
  semanticClass : Text
  authorityClaimed : Bool
  tradingAction : Option Text

/-- What `__post_init__` checks before it scans. -/
def MarketObservation.checkFields (observation : MarketObservation) :
    Except PyError Unit := do
  requireSha observation.observationId (text "observation_id")
  requireSha observation.requestId (text "request_id")
  requireGitHead observation.marketHead (text "market_head")
  refuseIf (observation.classification ∉ publicClassifications)
    (marketBridgeError "Market packet classification must be D0 or D1")
  refuseIf (observation.semanticClass ≠ text "C3_PROPOSAL")
    (marketBridgeError "Market packet must remain C3_PROPOSAL")
  refuseIf (observation.authorityClaimed = true)
    (marketBridgeError "Market packet must not claim authority")
  refuseIf (observation.tradingAction ≠ none ∧
      observation.tradingAction ≠ some [])
    (marketBridgeError "Market packet must not carry a trading action")

/-- `MarketObservationPacket.__post_init__`. -/
def MarketObservation.postInit (words : WordTable)
    (observation : MarketObservation) : Except PyError Unit := do
  observation.checkFields
  scanPublicSafe words (.obj observation.payload)

/-- `MarketObservationPacket`, as its constructor accepts it. -/
structure MarketObservationPacket (words : WordTable) extends
    MarketObservation where
  checked : toMarketObservation.postInit words = .ok ()

/--
What is imported: a dict, or a packet and what the dict of its payload holds
by now.  The fields of a packet are frozen, that dict is not.
-/
inductive MarketPacket (words : WordTable) where
  | dict (members : MarketFields)
  | built (packet : MarketObservationPacket words) (payload : MarketFields)

/-- A packet with what its payload holds by now. -/
def MarketObservationPacket.current
    {words : WordTable} (packet : MarketObservationPacket words)
    (payload : MarketFields) : MarketObservation :=
  { packet.toMarketObservation with payload := payload }

/-- `MARKET_OBSERVATION_PACKET_SCHEMA_VERSION`. -/
def marketObservationSchema : Text :=
  text "MarketScienceObservationPacket/v1"

/-- A dict has the schema version of a packet. -/
def hasMarketSchema (packet : MarketFields) : Bool :=
  match Json.lookup (text "schema_version") packet with
  | some (.str version) => version = marketObservationSchema
  | _ => false

/-- The arguments that `_coerce_packet` reads in a dict. -/
def readObservation (packet : MarketFields) :
    Except PyError MarketObservation := do
  refuseIf (hasMarketSchema packet = false)
    (marketBridgeError "unexpected Market observation schema_version")
  match Json.lookup (text "payload") packet with
  | some (.obj payload) => do
      let observationId ← expectStr packet (text "observation_id")
      let requestId ← expectStr packet (text "request_id")
      let marketHead ← expectStr packet (text "market_head")
      let classification ← expectStr packet (text "classification")
      let semanticClass ← expectStr packet (text "semantic_class")
      let authorityClaimed ← expectBool packet (text "authority_claimed")
      let tradingAction ← optionalStr packet (text "trading_action")
      pure ⟨observationId, requestId, marketHead, payload, classification,
        semanticClass, authorityClaimed, tradingAction⟩
  | _ => .error (marketBridgeError "payload must be an object")

section

variable (words : WordTable)

/-- `_coerce_packet`, which scans a dict but no packet. -/
def coercePacket : MarketPacket words → Except PyError MarketObservation
  | .built packet payload => .ok (packet.current payload)
  | .dict members => do
      let observation ← readObservation members
      observation.postInit words
      pure observation

def resultMembers (resultId requestId : Text) (payload : MarketFields)
    (classification : Text) : MarketFields :=
  [(text "schema_version", .str (text "ScientificResultEnvelope/v1")),
    (text "result_id", .str resultId),
    (text "request_id", .str requestId),
    (text "status", .str (text "COMPLETED")),
    (text "payload", .obj payload),
    (text "created_utc", .str (text "2026-07-29T00:00:01Z")),
    (text "classification", .str classification),
    (text "canonical_writes", .int 0),
    (text "grants_authority", .bool false)]

def requestMembers (requestId traceId : Text) (payload : MarketFields)
    (classification : Text) : MarketFields :=
  [(text "schema_version", .str (text "ScientificRequestEnvelope/v1")),
    (text "request_id", .str requestId),
    (text "trace_id", .str traceId),
    (text "payload", .obj payload),
    (text "created_utc", .str (text "2026-07-29T00:00:00Z")),
    (text "classification", .str classification),
    (text "canonical_writes", .int 0),
    (text "grants_authority", .bool false)]

/--
The validator of the packaged schemas.  The two schemas of the bridge demand
object ids and a public classification; the other members of its envelopes
are constants that they allow.
-/
structure EnvelopeSchemas where
  validate : Text → MarketFields → Except PyError Unit
  result : ∀ resultId requestId payload classification,
    isObjectId resultId = true → isObjectId requestId = true →
      classification ∈ publicClassifications →
        validate (text "ScientificResultEnvelope")
          (resultMembers resultId requestId payload classification) = .ok ()
  request : ∀ requestId traceId payload classification,
    isObjectId requestId = true → isObjectId traceId = true →
      classification ∈ publicClassifications →
        validate (text "ScientificRequestEnvelope")
          (requestMembers requestId traceId payload classification) = .ok ()

variable (schemas : EnvelopeSchemas)

def resultPayload (observation : MarketObservation) : MarketFields :=
  [(text "source", .str (text "market")),
    (text "semantic_class", .str observation.semanticClass),
    (text "activation_state", .str (text "INACTIVE")),
    (text "central_projector_required", .bool true),
    (text "native_admission_required", .bool true),
    (text "observation", .obj observation.payload),
    (text "market_head", .str observation.marketHead)]

/-- `import_market_observation_packet` from the coerced packet on. -/
def resultEnvelope (expectedMarketHead : Text)
    (seenObservationIds : List Text) (observation : MarketObservation) :
    Except PyError MarketFields := do
  refuseIf (observation.marketHead ≠ expectedMarketHead)
    (marketBridgeError "stale or cross-bound Market head")
  refuseIf (observation.observationId ∈ seenObservationIds)
    (marketBridgeError "duplicate Market observation import")
  let payload := resultPayload observation
  let blob ← dumps (.obj payload)
  let envelope := resultMembers (objectIdPrefix ++ sha256 blob)
    observation.requestId payload observation.classification
  schemas.validate (text "ScientificResultEnvelope") envelope
  pure envelope

/-- `import_market_observation_packet`. -/
def importMarketObservationPacket (packet : MarketPacket words)
    (expectedMarketHead : Text) (seenObservationIds : List Text) :
    Except PyError MarketFields := do
  requireGitHead expectedMarketHead (text "expected_market_head")
  let observation ← coercePacket words packet
  resultEnvelope schemas expectedMarketHead seenObservationIds observation

/-! ## Requests -/

/-- The arguments of `build_market_science_request`. -/
structure MarketScienceRequest where
  objective : Text
  marketHead : Text
  evidenceRefs : List Text
  classification : Text

/-- What `build_market_science_request` checks before it scans. -/
def MarketScienceRequest.checkFields (request : MarketScienceRequest) :
    Except PyError Unit := do
  refuseIf (request.objective = [])
    (marketFieldError (text "objective") " must be a non-empty string")
  requireGitHead request.marketHead (text "market_head")
  refuseIf ([] ∈ request.evidenceRefs)
    (marketFieldError (text "evidence_refs")
      " must be a tuple of non-empty strings")
  refuseIf (request.classification ∉ publicClassifications)
    (marketBridgeError "classification must be D0 or D1")

/-- The payload of the envelope of a request. -/
def requestPayload (request : MarketScienceRequest) : MarketFields :=
  [(text "domain", .str (text "market")),
    (text "objective", .str request.objective),
    (text "evidence_refs", .arr (request.evidenceRefs.map .str)),
    (text "semantic_class", .str (text "C3_PROPOSAL")),
    (text "activation_state", .str (text "INACTIVE")),
    (text "central_projector_required", .bool true),
    (text "native_admission_required", .bool true),
    (text "trading_allowed", .bool false),
    (text "live_actions_allowed", .bool false),
    (text "market_head", .str request.marketHead)]

/-- `build_market_science_request` behind the scan. -/
def requestEnvelope (request : MarketScienceRequest) :
    Except PyError MarketFields := do
  let payload := requestPayload request
  let blob ← dumps (.obj payload)
  let requestId := objectIdPrefix ++ sha256 blob
  match utf8Encode (requestId ++ request.marketHead) with
  | none =>
      .error (raised .unicodeEncodeError "surrogates not allowed")
  | some trace => do
      let envelope := requestMembers requestId
        (objectIdPrefix ++ sha256 trace) payload request.classification
      schemas.validate (text "ScientificRequestEnvelope") envelope
      pure envelope

/-- `build_market_science_request`. -/
def buildMarketScienceRequest (request : MarketScienceRequest) :
    Except PyError MarketFields := do
  request.checkFields
  scanPublicSafe words (.str request.objective)
  requestEnvelope schemas request

end

/-! ## The scan -/

/-- A pattern occurs in a text. -/
def Blocked (words : WordTable) (value : Text) : Prop :=
  ∃ pattern ∈ blockedMarketPatterns words, pattern.Occurs value

/-- A text as it stands between the quotes of its literal. -/
def escapedText (value : Text) : Text :=
  value.flatMap escapePoint

/--
A control character hides a match: a pattern occurs in the text, but none in
its literal.
-/
def Hidden (words : WordTable) (value : Text) : Prop :=
  (∃ point ∈ value, point.val < 32) ∧
    Blocked words value ∧ ¬ Blocked words (escapedText value)

/-! ### Patterns and JSON -/

/-- A class without any of a list of code points. -/
theorem apart_of_all
    {holds : CodePoint → Bool} {points : List CodePoint}
    (apart : points.all (fun point => !holds point) = true) :
    ∀ point, point ∈ points → holds point = false := by
  intro point member
  simpa using List.all_eq_true.mp apart point member

theorem isWord_delimiter (words : WordTable) :
    ∀ point, point ∈ jsonDelimiters → words.isWord point = false := by
  intro point member
  have ascii : point.val < 128 := by
    have all : jsonDelimiters.all (fun point => point.val < 128) = true := by
      decide
    simpa using List.all_eq_true.mp all point member
  have apart : jsonDelimiters.all (fun point => !(Regex.alphanumeric point ||
      decide (point = codePoint '_'))) = true := by
    decide
  rw [words.isWord_ascii point ascii]
  exact apart_of_all apart point member

theorem avoids_anyWord
    {values : List String}
    (apart : values.all (Regex.apartAnyCase jsonDelimiters) = true) :
    (anyWord values).Avoids (· ∈ jsonDelimiters) := by
  apply Regex.avoids_oneOf
  intro part member
  obtain ⟨value, isValue, rfl⟩ := List.mem_map.mp member
  exact Regex.avoids_literalAnyCase (List.all_eq_true.mp apart value isValue)

theorem avoids_spaces : spaces.Avoids (· ∈ jsonDelimiters) := by
  apply Regex.avoids_atLeast
  apply Regex.avoids_one
  exact apart_of_all (by decide)

/-- A delimited expression avoids the punctuation when its parts do. -/
theorem avoids_delimited
    {words : WordTable} {parts : List Regex}
    (each : ∀ part ∈ parts, part.Avoids (· ∈ jsonDelimiters)) :
    (delimited words parts).Avoids (· ∈ jsonDelimiters) := by
  have boundary : (Regex.boundary words.isWord).Avoids
      (· ∈ jsonDelimiters) :=
    Regex.avoids_boundary (isWord_delimiter words)
  apply Regex.avoids_sequence
  intro part member
  rw [List.cons_append, List.mem_cons, List.mem_append,
    List.mem_singleton] at member
  rcases member with rfl | member | rfl
  · exact boundary
  · exact each part member
  · exact boundary

theorem needsOther_anyWord
    {values : List String}
    (apart : values.all (Regex.partlyApart numeralPoints) = true) :
    (anyWord values).NeedsOther (· ∈ numeralPoints) := by
  apply Regex.needsOther_oneOf
  intro part member
  obtain ⟨value, isValue, rfl⟩ := List.mem_map.mp member
  exact Regex.needsOther_literalAnyCase
    (List.all_eq_true.mp apart value isValue)

/-- Without boundaries the table of words does not matter. -/
theorem withoutBoundaries_delimited
    {words : WordTable} {parts : List Regex} :
    (delimited words parts).withoutBoundaries =
      (delimited asciiWords parts).withoutBoundaries := by
  have behind (rest : List Regex) :
      (Regex.sequence
          (rest ++ [Regex.boundary words.isWord])).withoutBoundaries =
        (Regex.sequence
          (rest ++ [Regex.boundary asciiWords.isWord])).withoutBoundaries := by
    induction rest with
    | nil => rfl
    | cons part rest induction =>
        cases rest with
        | nil => rfl
        | cons next others =>
            exact congrArg (Regex.seq part.withoutBoundaries) induction
  cases parts with
  | nil => rfl
  | cons part rest =>
      exact congrArg (Regex.seq .empty) (behind (part :: rest))

/-- The documents of the constants, and the final newline. -/
def constantTexts : List Text :=
  [text "null", text "true", text "false", text "\n"]

/-- A delimited expression occurs in strings alone when its parts avoid the
punctuation, one needs a character of no number, and no constant of JSON
contains them. -/
theorem onlyInStrings_delimited
    {words : WordTable} {parts : List Regex} {part : Regex}
    (avoids : ∀ part ∈ parts, part.Avoids (· ∈ jsonDelimiters))
    (member : part ∈ parts)
    (needs : part.NeedsOther (· ∈ numeralPoints))
    (constants : (constantTexts.all fun word =>
      ((delimited asciiWords parts).withoutBoundaries.search word).isNone) =
        true) :
    OnlyInStrings (delimited words parts) where
  avoids := avoids_delimited avoids
  numbers value numeral := by
    apply Regex.not_occurs_of_needsOther _ numeral
    exact Regex.needsOther_sequence
      (List.mem_cons_of_mem _ (List.mem_append_left _ member)) needs
  words word isWord occurs := by
    have found := Regex.search_isSome_iff.mpr occurs.withoutBoundaries
    have missing := List.all_eq_true.mp constants word isWord
    rw [withoutBoundaries_delimited] at found
    rw [Option.isNone_iff_eq_none] at missing
    rw [missing] at found
    cases found

/-- No constant of JSON contains a delimited pattern. -/
theorem constants_free :
    ∀ parts ∈ [orderParts, actionParts, strategyParts, credentialParts,
        classParts, markerParts],
      (constantTexts.all fun word =>
        ((delimited asciiWords parts).withoutBoundaries.search
          word).isNone) = true := by
  decide +kernel

variable {words : WordTable}

theorem onlyInStrings_order :
    OnlyInStrings (delimited words orderParts) := by
  have verbs : (anyWord ["place", "submit", "send", "execute"]).Avoids
      (· ∈ jsonDelimiters) := avoids_anyWord (by decide)
  have nouns : (anyWord ["order", "trade"]).Avoids (· ∈ jsonDelimiters) :=
    avoids_anyWord (by decide)
  apply onlyInStrings_delimited
  · simp only [orderParts, List.forall_mem_cons]
    exact ⟨verbs, avoids_spaces, nouns, nofun⟩
  · exact List.mem_cons_self
  · exact needsOther_anyWord (by decide)
  · exact constants_free _ (by simp)

theorem onlyInStrings_action :
    OnlyInStrings (delimited words actionParts) := by
  apply onlyInStrings_delimited
  · rw [actionParts, List.forall_mem_singleton]
    exact avoids_anyWord (by decide)
  · exact List.mem_cons_self
  · exact needsOther_anyWord (by decide)
  · exact constants_free _ (by simp)

theorem onlyInStrings_strategy :
    OnlyInStrings (delimited words strategyParts) := by
  apply onlyInStrings_delimited
  · simp only [strategyParts, List.forall_mem_cons]
    exact ⟨Regex.avoids_literalAnyCase (by decide), avoids_spaces,
      Regex.avoids_literalAnyCase (by decide), nofun⟩
  · exact List.mem_cons_self
  · exact Regex.needsOther_literalAnyCase (by decide)
  · exact constants_free _ (by simp)

theorem onlyInStrings_credential :
    OnlyInStrings (delimited words credentialParts) := by
  have gap : (Regex.opt (.one (Regex.among "_ -"))).Avoids
      (· ∈ jsonDelimiters) := by
    apply Regex.avoids_opt
    apply Regex.avoids_one
    exact apart_of_all (by decide)
  apply onlyInStrings_delimited
  · rw [credentialParts, List.forall_mem_singleton]
    apply Regex.avoids_oneOf
    simp only [List.forall_mem_cons]
    refine ⟨Regex.avoids_sequence ?_,
      Regex.avoids_literalAnyCase (by decide),
      Regex.avoids_literalAnyCase (by decide), nofun⟩
    simp only [List.forall_mem_cons]
    exact ⟨Regex.avoids_literalAnyCase (by decide), gap,
      Regex.avoids_literalAnyCase (by decide), nofun⟩
  · exact List.mem_cons_self
  · apply Regex.needsOther_oneOf
    simp only [List.forall_mem_cons]
    refine ⟨Regex.needsOther_sequence List.mem_cons_self ?_,
      Regex.needsOther_literalAnyCase (by decide),
      Regex.needsOther_literalAnyCase (by decide), nofun⟩
    exact Regex.needsOther_literalAnyCase (by decide)
  · exact constants_free _ (by simp)

theorem onlyInStrings_class :
    OnlyInStrings (delimited words classParts) := by
  apply onlyInStrings_delimited
  · simp only [classParts, List.forall_mem_cons]
    refine ⟨Regex.avoids_literal (by decide), ?_, nofun⟩
    apply Regex.avoids_one
    exact apart_of_all (by decide)
  · exact List.mem_cons_self
  · exact Regex.needsOther_literal (by decide) (by decide)
  · exact constants_free _ (by simp)

theorem onlyInStrings_marker :
    OnlyInStrings (delimited words markerParts) := by
  apply onlyInStrings_delimited
  · rw [markerParts, List.forall_mem_singleton]
    exact Regex.avoids_literal (by decide)
  · exact List.mem_cons_self
  · exact Regex.needsOther_literal (by decide) (by decide)
  · exact constants_free _ (by simp)

theorem onlyInStrings_roots : OnlyInStrings privateRoots where
  avoids := avoids_anyWord (by decide)
  numbers value numeral :=
    Regex.not_occurs_of_needsOther
      (needsOther_anyWord (by decide)) numeral
  words word isWord occurs := by
    have none : (constantTexts.all fun word =>
        (privateRoots.search word).isNone) = true := by
      decide
    have missing := List.all_eq_true.mp none word isWord
    have found := Regex.search_isSome_iff.mpr occurs
    rw [Option.isNone_iff_eq_none] at missing
    rw [missing] at found
    cases found

/-- Every pattern occurs in the strings of a document alone. -/
theorem onlyInStrings_of_mem
    {pattern : Regex} (member : pattern ∈ blockedMarketPatterns words) :
    OnlyInStrings pattern := by
  simp only [blockedMarketPatterns, List.mem_cons, List.not_mem_nil,
    or_false] at member
  rcases member with rfl | rfl | rfl | rfl | rfl | rfl | rfl
  · exact onlyInStrings_order
  · exact onlyInStrings_action
  · exact onlyInStrings_strategy
  · exact onlyInStrings_credential
  · exact onlyInStrings_class
  · exact onlyInStrings_marker
  · exact onlyInStrings_roots

/-- Only a control character keeps a match out of a literal. -/
theorem hidden_of_not_shown
    {value : Text} (blocked : Blocked words value)
    (notShown : ¬ Blocked words (escapedText value)) :
    Hidden words value := by
  refine ⟨?_, blocked, notShown⟩
  by_contra! noControl
  obtain ⟨pattern, member, occurs⟩ := blocked
  apply notShown
  refine ⟨pattern, member, ?_⟩
  apply (occurs_escaped_iff (onlyInStrings_of_mem member) ?_).mpr occurs
  intro point isPoint
  exact Nat.not_lt.mpr (noControl point isPoint)

/-! ### What the scan sees -/

/-- A document of an object or a string ends with a delimiter. -/
theorem ends_of_dumpText
    {value : Json} (written : Text) (dumped : dumpText value = some written)
    (closed : (∃ members, value = .obj members) ∨
      ∃ string, value = .str string) :
    ∃ front, ∃ point ∈ jsonDelimiters, written = front ++ [point] := by
  rcases closed with ⟨members, rfl⟩ | ⟨string, rfl⟩
  · simp only [dumpText, Option.bind_eq_bind, Option.bind_eq_some_iff,
      Option.pure_def, Option.some.injEq] at dumped
    obtain ⟨texts, -, rfl⟩ := dumped
    refine ⟨_ :: _, codePoint '\x7d', by decide, rfl⟩
  · cases dumped
    exact ⟨_ :: _, codePoint '"', by decide, rfl⟩

/-- The scan accepts a document when none of its strings shows a match. -/
theorem scanPublicSafe_eq_ok_iff
    {value : Json}
    (closed : (∃ members, value = .obj members) ∨
      ∃ string, value = .str string) :
    scanPublicSafe words value = .ok () ↔
      (∃ blob, dumps value = .ok blob) ∧
        ∀ string ∈ value.strings, ¬ Blocked words (escapedText string) := by
  rw [scanPublicSafe, bind_eq_ok_iff, ← exists_and_right]
  apply exists_congr
  intro blob
  apply and_congr_right
  intro isBlob
  obtain ⟨written, dumped, encoded⟩ := dumps_eq_ok_iff.mp isBlob
  change utf8Encode (written ++ text "\n") = some blob at encoded
  obtain ⟨front, point, isDelimiter, rfl⟩ :=
    ends_of_dumpText written dumped closed
  rw [utf8Decode_utf8Encode encoded]
  simp only [refuseIf_eq_ok_iff, Bool.not_eq_true, List.any_eq_false,
    Regex.search_isSome_iff]
  constructor
  · rintro clean string member ⟨pattern, isPattern, occurs⟩
    have only := onlyInStrings_of_mem isPattern
    apply clean pattern isPattern
    rw [occurs_line_iff only isDelimiter, occurs_dumpText_iff only _ dumped]
    exact ⟨string, member, occurs⟩
  · intro clean pattern isPattern occurs
    have only := onlyInStrings_of_mem isPattern
    rw [occurs_line_iff only isDelimiter, occurs_dumpText_iff only _ dumped]
      at occurs
    obtain ⟨string, member, occurs⟩ := occurs
    exact clean string member ⟨pattern, isPattern, occurs⟩

/-! ## What the checks allow -/

/-- The fields of an observation are allowed. -/
structure MarketObservation.Allowed (observation : MarketObservation) :
    Prop where
  observationId : isObjectId observation.observationId = true
  requestId : isObjectId observation.requestId = true
  marketHead : isGitHead observation.marketHead = true
  classification : observation.classification ∈ publicClassifications
  semanticClass : observation.semanticClass = text "C3_PROPOSAL"
  authority : observation.authorityClaimed = false
  action : observation.tradingAction = none ∨
    observation.tradingAction = some []

/-- The import has nothing against an observation but its strings. -/
structure Importable
    (expectedMarketHead : Text) (seenObservationIds : List Text)
    (observation : MarketObservation) : Prop where
  allowed : observation.Allowed
  head : observation.marketHead = expectedMarketHead
  unseen : observation.observationId ∉ seenObservationIds
  writable : Writable (.obj observation.payload)

/-- A dict has the members of an observation. -/
structure Describes
    (members : MarketFields) (observation : MarketObservation) : Prop where
  schema : Json.lookup (text "schema_version") members =
    some (.str marketObservationSchema)
  observationId : Json.lookup (text "observation_id") members =
    some (.str observation.observationId)
  requestId : Json.lookup (text "request_id") members =
    some (.str observation.requestId)
  marketHead : Json.lookup (text "market_head") members =
    some (.str observation.marketHead)
  payload : Json.lookup (text "payload") members =
    some (.obj observation.payload)
  classification : Json.lookup (text "classification") members =
    some (.str observation.classification)
  semanticClass : Json.lookup (text "semantic_class") members =
    some (.str observation.semanticClass)
  authority : Json.lookup (text "authority_claimed") members =
    some (.bool observation.authorityClaimed)
  action : (Json.lookup (text "trading_action") members).getD .null =
    observation.tradingAction.elim .null .str

/-- A request can be built but for the scan of its objective. -/
structure MarketScienceRequest.Buildable (request : MarketScienceRequest) :
    Prop where
  objective : request.objective ≠ []
  marketHead : isGitHead request.marketHead = true
  refs : [] ∉ request.evidenceRefs
  classification : request.classification ∈ publicClassifications
  scalars : ∀ string ∈ request.objective :: request.evidenceRefs,
    Scalars string

/-- The checks of the constructor. -/
theorem checkFields_eq_ok_iff {observation : MarketObservation} :
    observation.checkFields = .ok () ↔ observation.Allowed := by
  simp only [MarketObservation.checkFields, requireSha, requireGitHead,
    check_bind_eq_ok_iff, refuseIf_eq_ok_iff, Bool.not_eq_false,
    Bool.not_eq_true, not_not, not_and_or]
  constructor
  · rintro ⟨observationId, requestId, head, classification, semanticClass,
      authority, action⟩
    exact ⟨observationId, requestId, head, classification, semanticClass,
      authority, action⟩
  · rintro ⟨observationId, requestId, head, classification, semanticClass,
      authority, action⟩
    exact ⟨observationId, requestId, head, classification, semanticClass,
      authority, action⟩

/-! ### Dicts -/

theorem expectStr_eq_ok_iff {packet : MarketFields} {key value : Text} :
    expectStr packet key = .ok value ↔
      Json.lookup key packet = some (.str value) ∧ value ≠ [] := by
  rw [expectStr]
  split
  · next found isFound =>
      rw [isFound]
      split_ifs with empty
      · simp [empty]
      · simp only [Except.ok.injEq, Option.some.injEq, Json.str.injEq]
        constructor
        · rintro rfl
          exact ⟨rfl, empty⟩
        · rintro ⟨rfl, -⟩
          rfl
  · next notStr =>
      constructor
      · intro raises
        cases raises
      · rintro ⟨isStr, -⟩
        exact absurd isStr (notStr value)

theorem expectBool_eq_ok_iff
    {packet : MarketFields} {key : Text} {value : Bool} :
    expectBool packet key = .ok value ↔
      Json.lookup key packet = some (.bool value) := by
  rw [expectBool]
  split
  · next found isFound =>
      rw [isFound]
      simp
  · next notBool =>
      constructor
      · intro raises
        cases raises
      · intro isBool
        exact absurd isBool (notBool value)

theorem optionalStr_eq_ok_iff
    {packet : MarketFields} {key : Text} {value : Option Text} :
    optionalStr packet key = .ok value ↔
      (Json.lookup key packet).getD .null = value.elim .null .str := by
  rw [optionalStr]
  cases Json.lookup key packet with
  | none => cases value <;> simp
  | some found => cases found <;> cases value <;> simp

theorem hasMarketSchema_iff {members : MarketFields} :
    hasMarketSchema members = true ↔
      Json.lookup (text "schema_version") members =
        some (.str marketObservationSchema) := by
  rw [hasMarketSchema]
  split
  · next found isFound =>
      rw [isFound]
      simp
  · next notStr =>
      constructor
      · intro impossible
        cases impossible
      · intro isStr
        exact absurd isStr (notStr _)

theorem describes_of_read
    {members : MarketFields} {observation : MarketObservation}
    (read : readObservation members = .ok observation) :
    Describes members observation := by
  simp only [readObservation, check_bind_eq_ok_iff, refuseIf_eq_ok_iff,
    Bool.not_eq_false, hasMarketSchema_iff] at read
  obtain ⟨schema, read⟩ := read
  split at read
  · next payload isPayload =>
      simp only [bind_eq_ok_iff, pure_eq_ok_iff, expectStr_eq_ok_iff,
        expectBool_eq_ok_iff, optionalStr_eq_ok_iff] at read
      obtain ⟨_, observationId, _, requestId, _, head, _, classification, _,
        semanticClass, _, authority, _, action, rfl⟩ := read
      exact ⟨schema, observationId.1, requestId.1, head.1, isPayload,
        classification.1, semanticClass.1, authority, action⟩
  · cases read

theorem read_of_describes
    {members : MarketFields} {observation : MarketObservation}
    (describes : Describes members observation)
    (allowed : observation.Allowed) :
    readObservation members = .ok observation := by
  have head : observation.marketHead ≠ [] := by
    intro empty
    have isHead := allowed.marketHead
    rw [empty] at isHead
    cases isHead
  have classification : observation.classification ≠ [] := by
    intro empty
    have isPublic := allowed.classification
    rw [empty] at isPublic
    exact absurd isPublic (by decide)
  have semanticClass : observation.semanticClass ≠ [] := by
    rw [allowed.semanticClass]
    exact List.cons_ne_nil _ _
  simp only [readObservation, check_bind_eq_ok_iff, refuseIf_eq_ok_iff,
    Bool.not_eq_false, hasMarketSchema_iff]
  refine ⟨describes.schema, ?_⟩
  rw [describes.payload]
  simp only [bind_eq_ok_iff, pure_eq_ok_iff, expectStr_eq_ok_iff,
    expectBool_eq_ok_iff, optionalStr_eq_ok_iff]
  exact ⟨_, ⟨describes.observationId, isObjectId_ne_nil
      allowed.observationId⟩, _,
    ⟨describes.requestId, isObjectId_ne_nil allowed.requestId⟩, _,
    ⟨describes.marketHead, head⟩, _,
    ⟨describes.classification, classification⟩, _,
    ⟨describes.semanticClass, semanticClass⟩, _, describes.authority, _,
    describes.action, rfl⟩

/-! ### Envelopes -/

theorem scalars_gitHead
    {value : Text} (isHead : isGitHead value = true) : Scalars value := by
  rw [isGitHead, Bool.and_eq_true, List.all_eq_true] at isHead
  exact fun point member => isLowerHex_scalar (isHead.2 point member)

theorem exists_dumps_iff {value : Json} :
    (∃ blob, dumps value = .ok blob) ↔ Writable value :=
  ⟨fun ⟨_, dumped⟩ => writable_of_dumps dumped, dumps_of_writable⟩

/-- An allowed observation has a result when it is not stale, not seen, and
can be written. -/
theorem result_iff
    (schemas : EnvelopeSchemas) (expectedMarketHead : Text)
    (seenObservationIds : List Text) {observation : MarketObservation}
    (allowed : observation.Allowed) :
    (∃ envelope, resultEnvelope schemas expectedMarketHead
        seenObservationIds observation = .ok envelope) ↔
      Importable expectedMarketHead seenObservationIds observation := by
  have written : Writable (.obj (resultPayload observation)) ↔
      Writable (.obj observation.payload) := by
    have head := scalars_gitHead allowed.marketHead
    simp only [Writable, resultPayload, WritableMembers, scalars_text, head,
      allowed.semanticClass, true_and, and_true]
  have valid (resultId : Text) (isId : isObjectId resultId = true) :=
    schemas.result resultId observation.requestId
      (resultPayload observation) observation.classification isId
      allowed.requestId allowed.classification
  constructor
  · rintro ⟨envelope, returned⟩
    simp only [resultEnvelope, check_bind_eq_ok_iff, refuseIf_eq_ok_iff,
      not_not] at returned
    obtain ⟨head, unseen, returned⟩ := returned
    obtain ⟨blob, dumped, -⟩ := bind_eq_ok_iff.mp returned
    exact ⟨allowed, head, unseen, written.mp (writable_of_dumps dumped)⟩
  · intro importable
    obtain ⟨blob, dumped⟩ :=
      dumps_of_writable (written.mpr importable.writable)
    have isId := isObjectId_sha256 blob
    refine ⟨resultMembers (objectIdPrefix ++ sha256 blob)
      observation.requestId (resultPayload observation)
      observation.classification, ?_⟩
    simp only [resultEnvelope, check_bind_eq_ok_iff, refuseIf_eq_ok_iff,
      not_not]
    refine ⟨importable.head, importable.unseen, ?_⟩
    exact bind_eq_ok_iff.mpr ⟨blob, dumped,
      check_bind_eq_ok_iff.mpr ⟨valid _ isId, rfl⟩⟩

/-- A request has an envelope when its payload can be written. -/
theorem request_iff {request : MarketScienceRequest} :
    (request.checkFields = .ok () ∧
        ∃ envelope, requestEnvelope schemas request = .ok envelope) ↔
      request.Buildable := by
  have fields : request.checkFields = .ok () ↔
      request.objective ≠ [] ∧ isGitHead request.marketHead = true ∧
        [] ∉ request.evidenceRefs ∧
        request.classification ∈ publicClassifications := by
    simp only [MarketScienceRequest.checkFields, requireGitHead,
      check_bind_eq_ok_iff, refuseIf_eq_ok_iff, Bool.not_eq_false, not_not,
      ne_eq]
  have strings (values : List Text) :
      WritableItems (values.map .str) ↔ ∀ value ∈ values, Scalars value := by
    induction values with
    | nil => simp [WritableItems]
    | cons value rest induction =>
        simp [WritableItems, Writable, induction]
  have written (isHead : isGitHead request.marketHead = true) :
      Writable (.obj (requestPayload request)) ↔
        ∀ string ∈ request.objective :: request.evidenceRefs,
          Scalars string := by
    have head := scalars_gitHead isHead
    simp only [Writable, requestPayload, WritableMembers, scalars_text, head,
      strings, true_and, and_true, List.forall_mem_cons]
  rw [fields]
  constructor
  · rintro ⟨⟨objective, head, refs, classification⟩, envelope, returned⟩
    rw [requestEnvelope] at returned
    obtain ⟨blob, dumped, -⟩ := bind_eq_ok_iff.mp returned
    exact ⟨objective, head, refs, classification,
      (written head).mp (writable_of_dumps dumped)⟩
  · intro buildable
    refine ⟨⟨buildable.objective, buildable.marketHead, buildable.refs,
      buildable.classification⟩, ?_⟩
    obtain ⟨blob, dumped⟩ := dumps_of_writable
      ((written buildable.marketHead).mpr buildable.scalars)
    have isId := isObjectId_sha256 blob
    obtain ⟨trace, encoded⟩ := utf8Encode_of_scalars (scalars_append.mpr
      ⟨scalars_of_isObjectId isId, scalars_gitHead buildable.marketHead⟩)
    have valid := schemas.request (objectIdPrefix ++ sha256 blob)
      (objectIdPrefix ++ sha256 trace) (requestPayload request)
      request.classification isId (isObjectId_sha256 trace)
      buildable.classification
    refine ⟨requestMembers (objectIdPrefix ++ sha256 blob)
      (objectIdPrefix ++ sha256 trace) (requestPayload request)
      request.classification, bind_eq_ok_iff.mpr ⟨blob, dumped, ?_⟩⟩
    dsimp only
    rw [encoded]
    exact check_bind_eq_ok_iff.mpr ⟨valid, rfl⟩

/-! ## Completeness -/

/-- The keys and the strings of the payload of a packet. -/
def MarketPacket.strings : MarketPacket words → List Text
  | .dict members =>
      match Json.lookup (text "payload") members with
      | some payload => payload.strings
      | none => []
  | .built _ payload => (Json.obj payload).strings

def MarketPacket.Holds :
    MarketPacket words → MarketObservation → Prop
  | .dict members, observation => Describes members observation
  | .built packet payload, observation =>
      packet.current payload = observation

/-- The scan of the import sees a match in a string of the packet. -/
def MarketPacket.Shown : MarketPacket words → Prop
  | .dict members =>
      ∃ string ∈ (@MarketPacket.dict words members).strings,
        Blocked words (escapedText string)
  | .built _ _ => False

/-- The import does not see the match in a string of the packet. -/
def MarketPacket.Overlooks : MarketPacket words → Text → Prop
  | .dict _, string => Hidden words string
  | .built _ _, string => Blocked words string

/-- The import has nothing against a packet but its strings. -/
def MarketPacket.Importable
    (packet : MarketPacket words) (expectedMarketHead : Text)
    (seenObservationIds : List Text) : Prop :=
  ∃ observation, packet.Holds observation ∧
    Integrations.Importable expectedMarketHead seenObservationIds observation

variable (words schemas)

/-- An accepted packet has no blocked string in its payload. -/
def PacketClean (packet : MarketPacket words)
    (expectedMarketHead : Text) (seenObservationIds : List Text) : Prop :=
  ∀ envelope,
    importMarketObservationPacket words schemas packet expectedMarketHead
      seenObservationIds = .ok envelope →
    ∀ string ∈ packet.strings, ¬ Blocked words string

/-- A request that is built has neither a blocked objective nor a blocked
reference. -/
def RequestClean (request : MarketScienceRequest) : Prop :=
  ∀ envelope,
    buildMarketScienceRequest words schemas request = .ok envelope →
    ¬ Blocked words request.objective ∧
      ∀ ref ∈ request.evidenceRefs, ¬ Blocked words ref

variable {words schemas}

/-- A packet is imported when nothing else is wrong with it and the scan sees
no match. -/
theorem import_accepted_iff
    {packet : MarketPacket words} {expectedMarketHead : Text}
    {seenObservationIds : List Text} :
    (∃ envelope, importMarketObservationPacket words schemas packet
        expectedMarketHead seenObservationIds = .ok envelope) ↔
      packet.Importable expectedMarketHead seenObservationIds ∧
        ¬ packet.Shown := by
  have head : requireGitHead expectedMarketHead
      (text "expected_market_head") = .ok () ↔
        isGitHead expectedMarketHead = true := by
    rw [requireGitHead, refuseIf_eq_ok_iff, Bool.not_eq_false]
  simp only [importMarketObservationPacket, check_bind_eq_ok_iff, head,
    exists_and_left]
  cases packet with
  | built packet payload =>
      have allowed : (packet.current payload).Allowed :=
        checkFields_eq_ok_iff.mp (check_bind_eq_ok_iff.mp packet.checked).1
      have result := result_iff schemas expectedMarketHead
        seenObservationIds allowed
      constructor
      · rintro ⟨-, envelope, imported⟩
        obtain ⟨observation, coerced, returned⟩ := bind_eq_ok_iff.mp imported
        cases coerced
        exact ⟨⟨_, rfl, result.mp ⟨envelope, returned⟩⟩, not_false⟩
      · rintro ⟨⟨observation, rfl, importable⟩, -⟩
        obtain ⟨envelope, returned⟩ := result.mpr importable
        exact ⟨importable.head ▸ importable.allowed.marketHead, envelope,
          bind_eq_ok_iff.mpr ⟨_, rfl, returned⟩⟩
  | dict members =>
      have scan (observation : MarketObservation)
          (describes : Describes members observation) :
          scanPublicSafe words (.obj observation.payload) = .ok () ↔
            Writable (.obj observation.payload) ∧
              ¬ (@MarketPacket.dict words members).Shown := by
        rw [scanPublicSafe_eq_ok_iff (.inl ⟨_, rfl⟩), exists_dumps_iff,
          MarketPacket.Shown, MarketPacket.strings, describes.payload]
        push Not
        rfl
      constructor
      · rintro ⟨-, envelope, imported⟩
        obtain ⟨observation, coerced, returned⟩ := bind_eq_ok_iff.mp imported
        obtain ⟨read, isRead, checked⟩ := bind_eq_ok_iff.mp coerced
        obtain ⟨post, same⟩ := check_bind_eq_ok_iff.mp checked
        cases same
        obtain ⟨fields, scanned⟩ := check_bind_eq_ok_iff.mp post
        have describes := describes_of_read isRead
        exact ⟨⟨observation, describes,
            (result_iff schemas _ _ (checkFields_eq_ok_iff.mp fields)).mp
              ⟨envelope, returned⟩⟩,
          ((scan observation describes).mp scanned).2⟩
      · rintro ⟨⟨observation, describes, importable⟩, notShown⟩
        obtain ⟨envelope, returned⟩ :=
          (result_iff schemas _ _ importable.allowed).mpr importable
        have scanned := (scan observation describes).mpr
          ⟨importable.writable, notShown⟩
        have post : observation.postInit words = .ok () :=
          check_bind_eq_ok_iff.mpr
            ⟨checkFields_eq_ok_iff.mpr importable.allowed, scanned⟩
        have coerced : coercePacket words (.dict members) =
            .ok observation :=
          bind_eq_ok_iff.mpr ⟨observation,
            read_of_describes describes importable.allowed,
            check_bind_eq_ok_iff.mpr ⟨post, rfl⟩⟩
        exact ⟨importable.head ▸ importable.allowed.marketHead, envelope,
          bind_eq_ok_iff.mpr ⟨observation, coerced, returned⟩⟩

/-- A request is built when nothing else is wrong with it and its objective
shows no match. -/
theorem request_built_iff {request : MarketScienceRequest} :
    (∃ envelope, buildMarketScienceRequest words schemas request =
        .ok envelope) ↔
      request.Buildable ∧ ¬ Blocked words (escapedText request.objective) := by
  have scan : scanPublicSafe words (.str request.objective) = .ok () ↔
      Scalars request.objective ∧
        ¬ Blocked words (escapedText request.objective) := by
    rw [scanPublicSafe_eq_ok_iff (.inr ⟨_, rfl⟩), exists_dumps_iff, Writable,
      Json.strings, List.forall_mem_singleton]
  simp only [buildMarketScienceRequest, check_bind_eq_ok_iff, scan,
    exists_and_left]
  constructor
  · rintro ⟨fields, ⟨-, notShown⟩, built⟩
    exact ⟨request_iff.mp ⟨fields, built⟩, notShown⟩
  · rintro ⟨buildable, notShown⟩
    obtain ⟨fields, built⟩ := request_iff.mpr buildable
    exact ⟨fields, ⟨buildable.scalars _ List.mem_cons_self, notShown⟩, built⟩

theorem shown_or_overlooked
    {packet : MarketPacket words} {string : Text}
    (member : string ∈ packet.strings) (blocked : Blocked words string) :
    packet.Shown ∨ packet.Overlooks string := by
  cases packet with
  | built packet payload => exact .inr blocked
  | dict members =>
      by_cases shown : Blocked words (escapedText string)
      · exact .inl ⟨string, member, shown⟩
      · exact .inr (hidden_of_not_shown blocked shown)

theorem blocked_of_overlooks
    {packet : MarketPacket words} {string : Text}
    (overlooks : packet.Overlooks string) : Blocked words string := by
  cases packet with
  | built packet payload => exact overlooks
  | dict members => exact overlooks.2.1

/-- An importable packet is clean exactly when the scan sees a match or
overlooks none. -/
theorem packetClean_iff
    {packet : MarketPacket words} {expectedMarketHead : Text}
    {seenObservationIds : List Text} :
    PacketClean words schemas packet expectedMarketHead
        seenObservationIds ↔
      (packet.Importable expectedMarketHead seenObservationIds →
        packet.Shown ∨ ∀ string ∈ packet.strings,
          ¬ packet.Overlooks string) := by
  constructor
  · intro clean importable
    by_cases shown : packet.Shown
    · exact .inl shown
    · right
      obtain ⟨envelope, accepted⟩ :=
        import_accepted_iff.mpr ⟨importable, shown⟩
      intro string member overlooks
      exact clean envelope accepted string member
        (blocked_of_overlooks overlooks)
  · intro condition envelope accepted string member blocked
    obtain ⟨importable, notShown⟩ :=
      import_accepted_iff.mp ⟨envelope, accepted⟩
    rcases condition importable with shown | none
    · exact notShown shown
    · exact none string member
        ((shown_or_overlooked member blocked).resolve_left notShown)

/-- The same of a request, where no reference is scanned. -/
theorem requestClean_iff {request : MarketScienceRequest} :
    RequestClean words schemas request ↔
      (request.Buildable →
        Blocked words (escapedText request.objective) ∨
          ¬ Hidden words request.objective ∧
            ∀ ref ∈ request.evidenceRefs, ¬ Blocked words ref) := by
  constructor
  · intro clean buildable
    by_cases shown : Blocked words (escapedText request.objective)
    · exact .inl shown
    · right
      obtain ⟨envelope, built⟩ := request_built_iff.mpr ⟨buildable, shown⟩
      obtain ⟨objective, refs⟩ := clean envelope built
      exact ⟨fun hidden => objective hidden.2.1, refs⟩
  · intro condition envelope built
    obtain ⟨buildable, notShown⟩ := request_built_iff.mp ⟨envelope, built⟩
    rcases condition buildable with shown | ⟨none, refs⟩
    · exact absurd shown notShown
    · exact ⟨fun blocked => none (hidden_of_not_shown blocked notShown),
        refs⟩

theorem unchanged_overlooks
    (packet : MarketObservationPacket words) {string : Text}
    (member : string ∈ (MarketPacket.built packet packet.payload).strings) :
    (MarketPacket.built packet packet.payload).Overlooks string ↔
      Hidden words string := by
  have scanned : scanPublicSafe words (.obj packet.payload) = .ok () :=
    (check_bind_eq_ok_iff.mp packet.checked).2
  have notShown :=
    ((scanPublicSafe_eq_ok_iff (.inl ⟨_, rfl⟩)).mp scanned).2 string member
  exact ⟨fun blocked => hidden_of_not_shown blocked notShown,
    fun hidden => hidden.2.1⟩

variable (words schemas)

/--
An importable packet is clean exactly when the scan sees a match in it or
overlooks none; a packet that was built before overlooks hidden strings alone
while its payload is unchanged.  A buildable request is clean exactly when
its objective shows a match, or hides none and no reference has one.
-/
theorem scanComplete_iff
    (packet : MarketPacket words) (expectedMarketHead : Text)
    (seenObservationIds : List Text) (request : MarketScienceRequest) :
    (PacketClean words schemas packet expectedMarketHead
        seenObservationIds ↔
      (packet.Importable expectedMarketHead seenObservationIds →
        packet.Shown ∨ ∀ string ∈ packet.strings,
          ¬ packet.Overlooks string)) ∧
    (∀ built : MarketObservationPacket words,
      packet = .built built built.payload → ∀ string ∈ packet.strings,
        (packet.Overlooks string ↔ Hidden words string)) ∧
    (RequestClean words schemas request ↔
      (request.Buildable →
        Blocked words (escapedText request.objective) ∨
          ¬ Hidden words request.objective ∧
            ∀ ref ∈ request.evidenceRefs, ¬ Blocked words ref)) := by
  refine ⟨packetClean_iff, ?_, requestClean_iff⟩
  rintro built rfl string member
  exact unchanged_overlooks built member

/-- A packet with the payload `{"note": "\tbuy"}`. -/
def tabbedPacket : MarketPacket asciiWords :=
  .dict
    [(text "schema_version", .str marketObservationSchema),
      (text "observation_id",
        .str (objectIdPrefix ++ List.replicate 64 (codePoint '1'))),
      (text "request_id",
        .str (objectIdPrefix ++ List.replicate 64 (codePoint '2'))),
      (text "market_head", .str (List.replicate 40 (codePoint 'a'))),
      (text "payload", .obj [(text "note", .str (text "\tbuy"))]),
      (text "classification", .str (text "D0")),
      (text "semantic_class", .str (text "C3_PROPOSAL")),
      (text "authority_claimed", .bool false),
      (text "trading_action", .null)]

/-- A request with `buy` for a reference. -/
def buyingRequest : MarketScienceRequest where
  objective := text "volatility"
  marketHead := List.replicate 40 (codePoint 'a')
  evidenceRefs := [text "buy"]
  classification := text "D0"

/-- A validator without an objection. -/
def lenientSchemas : EnvelopeSchemas where
  validate _ _ := .ok ()
  result _ _ _ _ _ _ _ := rfl
  request _ _ _ _ _ _ _ := rfl

theorem exists_ok_of_isSome
    {computed : Except PyError MarketFields}
    (isOk : computed.toOption.isSome = true) :
    ∃ result, computed = .ok result := by
  cases computed with
  | error error => cases isOk
  | ok result => exact ⟨result, rfl⟩

/-- A tab hides the word behind it, and a reference is not read. -/
theorem tabbedPacket_not_clean :
    ¬ PacketClean asciiWords lenientSchemas tabbedPacket
        (List.replicate 40 (codePoint 'a')) [] ∧
      ¬ RequestClean asciiWords lenientSchemas buyingRequest := by
  have action : delimited asciiWords actionParts ∈
      blockedMarketPatterns asciiWords := by
    rw [blockedMarketPatterns]
    exact List.mem_cons_of_mem _ List.mem_cons_self
  constructor
  · intro clean
    have accepted : (importMarketObservationPacket asciiWords
        lenientSchemas tabbedPacket
        (List.replicate 40 (codePoint 'a')) []).toOption.isSome = true := by
      decide +kernel
    obtain ⟨envelope, returned⟩ := exists_ok_of_isSome accepted
    have unblocked := clean envelope returned (text "\tbuy")
      (List.mem_cons_of_mem _ List.mem_cons_self)
    have found : ((delimited asciiWords actionParts).search
        (text "\tbuy")).isSome = true := by
      decide +kernel
    exact unblocked ⟨_, action, Regex.search_isSome_iff.mp found⟩
  · intro clean
    have built : (buildMarketScienceRequest asciiWords
        lenientSchemas buyingRequest).toOption.isSome = true := by
      decide +kernel
    obtain ⟨envelope, returned⟩ := exists_ok_of_isSome built
    obtain ⟨-, unblocked⟩ := clean envelope returned
    have found : ((delimited asciiWords actionParts).search
        (text "buy")).isSome = true := by
      decide +kernel
    exact unblocked (text "buy") List.mem_cons_self
      ⟨_, action, Regex.search_isSome_iff.mp found⟩

end ScientificResourceLab.Integrations
