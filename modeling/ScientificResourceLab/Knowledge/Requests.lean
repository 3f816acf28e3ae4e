import ScientificResourceLab.Contracts.Canonical
import ScientificResourceLab.Python.Printing
import ScientificResourceLab.Steps.Fallible

/-!
# Endpoint policies and request identities

The allowlist of `srl.knowledge.retriever` and what a request is known by:
its URL, its cache key and the receipt of its retrieval.  These are pure
functions of the request; nothing here reads or writes the cache directory.

Of `urllib.parse.urlsplit` the scheme and the network location are modelled.
Its closer inspection of a bracketed or non-ASCII location, which can only
refuse, is a parameter.
-/

namespace ScientificResourceLab.Knowledge

open Python Contracts Steps

/-! ## Policies -/

/-- `EndpointPolicy` as `_validate_policy_dict` accepts it. -/
structure EndpointPolicy where
  endpointId : Text
  baseUrl : Text
  rateLimitPerMinute : Nat
  byteBudget : Nat
  costBudgetUnits : Nat
  licenseTermsSha256 : Text
  attributionRequired : Bool
  attributionText : Text
  retentionDays : Nat

/-- `PolicyRegistry` as `from_dict` builds it: one policy per endpoint. -/
structure PolicyRegistry where
  policies : List EndpointPolicy
  distinct : (policies.map EndpointPolicy.endpointId).Nodup

/-- `PolicyRegistry.get`. -/
def PolicyRegistry.get (registry : PolicyRegistry) (endpointId : Text) :
    Except PyError EndpointPolicy :=
  match registry.policies.find? fun policy =>
      policy.endpointId = endpointId with
  | some policy => .ok policy
  | none =>
      .error ⟨.networkPolicyError,
        text "endpoint_id " ++ quoted endpointId ++
          text " is not in the policy registry allowlist; fetch refused " ++
          text "(NETWORK_POLICY_VIOLATION)"⟩

/-! ## URLs -/

/-- Query parameters: a dict of decoded values. -/
abbrev Params := List (Text × Json)

/-- `str` of a parameter, which refuses integers beyond the digit limit. -/
def paramText (value : Json) : Except PyError Text :=
  match value with
  | .int number =>
      if (decimalText number.natAbs).length ≤ intMaxStrDigits then
        .ok (intText number)
      else
        .error (raised .valueError
          "Exceeds the limit for integer string conversion")
  | other => .ok (strJson other)

/-- A parameter of a type that no request admits. -/
def unsupportedParam (key : Text) (value : Json) : PyError :=
  ⟨.valueError,
    text "param " ++ quoted key ++ text " has unsupported type " ++
      typeName value ++
      text "; only str/int/float/bool/None are permitted"⟩

/-- The loop of `_build_url` over the parameters. -/
def stringParams : Params → Except PyError (List (Text × Text))
  | [] => pure []
  | (key, value) :: rest =>
      match value with
      | .null => stringParams rest
      | .bool flag => do
          let later ← stringParams rest
          pure ((key, text (if flag then "true" else "false")) :: later)
      | .arr _ | .obj _ => .error (unsupportedParam key value)
      | scalar => do
          let shown ← paramText scalar
          let later ← stringParams rest
          pure ((key, shown) :: later)

/-- The bytes that `quote_plus` leaves as they are. -/
def isUnreserved (value : UInt8) : Bool :=
  let code := value.toNat
  (48 ≤ code && code ≤ 57) || (65 ≤ code && code ≤ 90) ||
    (97 ≤ code && code ≤ 122) || code = 95 || code = 46 || code = 45 ||
    code = 126

/-- An upper-case hexadecimal digit. -/
def upperHexPoint (value : Nat) : CodePoint :=
  if value < 10 then Fin.ofNat 0x110000 (48 + value)
  else Fin.ofNat 0x110000 (55 + value)

/-- `urllib.parse.quote_plus`. -/
def quotePlus (value : Text) : Except PyError Text :=
  match utf8Encode value with
  | none => .error (raised .unicodeEncodeError "surrogates not allowed")
  | some encoded =>
      .ok (encoded.flatMap fun byte =>
        if isUnreserved byte then [Fin.ofNat 0x110000 byte.toNat]
        else if byte.toNat = 32 then [codePoint '+']
        else [codePoint '%', upperHexPoint (byte.toNat / 16),
          upperHexPoint (byte.toNat % 16)])

/-- `urllib.parse.urlencode`. -/
def urlencode : List (Text × Text) → Except PyError Text
  | [] => pure []
  | [(key, value)] => do
      let key ← quotePlus key
      let value ← quotePlus value
      pure (key ++ text "=" ++ value)
  | (key, value) :: rest => do
      let key ← quotePlus key
      let value ← quotePlus value
      let later ← urlencode rest
      pure (key ++ text "=" ++ value ++ text "&" ++ later)

/-- `str.rstrip("/")`. -/
def rstripSlash (value : Text) : Text :=
  (value.reverse.dropWhile (· = codePoint '/')).reverse

/-- `_build_url`. -/
def buildUrl (baseUrl path : Text) (params : Params) :
    Except PyError Text := do
  let path :=
    if path ≠ [] ∧ path.head? ≠ some (codePoint '/') then
      codePoint '/' :: path
    else path
  let url := rstripSlash baseUrl ++ path
  let strings ← stringParams params
  if strings = [] then pure url
  else do
    let query ← urlencode strings
    pure (url ++ text "?" ++ query)

/-- The scheme characters of `urllib.parse`. -/
def isSchemeChar (point : CodePoint) : Bool :=
  let code := point.val
  (48 ≤ code && code ≤ 57) || (65 ≤ code && code ≤ 90) ||
    (97 ≤ code && code ≤ 122) || code = 43 || code = 45 || code = 46

def isAsciiLetter (point : CodePoint) : Bool :=
  let code := point.val
  (65 ≤ code && code ≤ 90) || (97 ≤ code && code ≤ 122)

/-- ASCII `str.lower`. -/
def lowerLetter (point : CodePoint) : CodePoint :=
  if 65 ≤ point.val ∧ point.val ≤ 90 then
    Fin.ofNat 0x110000 (point.val + 32)
  else point

/-- What `urlsplit` drops before it looks at a URL. -/
def cleanUrl (url : Text) : Text :=
  (url.dropWhile fun point => point.val ≤ 32).filter fun point =>
    point ≠ codePoint '\t' ∧ point ≠ codePoint '\r' ∧
      point ≠ codePoint '\n'

/-- The scheme of a cleaned URL and what follows it. -/
def splitScheme (url : Text) : Text × Text :=
  let scheme := url.takeWhile (· ≠ codePoint ':')
  if scheme.length < url.length ∧ scheme ≠ [] ∧
      scheme.head?.any isAsciiLetter ∧ scheme.all isSchemeChar then
    (scheme.map lowerLetter, url.drop (scheme.length + 1))
  else ([], url)

/-- The network location after a scheme. -/
def netlocOf (rest : Text) : Text :=
  if rest.take 2 = text "//" then
    (rest.drop 2).takeWhile fun point =>
      point ≠ codePoint '/' ∧ point ≠ codePoint '?' ∧
        point ≠ codePoint '#'
  else []

/-- The refusals of `urlsplit` that look inside a network location. -/
structure NetlocRules where
  refusal : Text → Option PyError

/-- The scheme and the network location of `urllib.parse.urlsplit`. -/
def urlsplit (rules : NetlocRules) (url : Text) :
    Except PyError (Text × Text) :=
  let (scheme, rest) := splitScheme (cleanUrl url)
  let netloc := netlocOf rest
  if (codePoint '[' ∈ netloc) ≠ (codePoint ']' ∈ netloc) then
    .error (raised .valueError "Invalid IPv6 URL")
  else
    match rules.refusal netloc with
    | some error => .error error
    | none => .ok (scheme, netloc)

/-- `_assert_https`. -/
def assertHttps (rules : NetlocRules) (url context : Text) :
    Except PyError Unit := do
  let (scheme, netloc) ← urlsplit rules url
  refuseIf (scheme ≠ text "https")
    ⟨.networkPolicyError,
      text "network policy requires https:// for " ++ context ++
        text ", got scheme " ++ quoted scheme ++ text " (url host: " ++
        quoted netloc ++
        text "); fetch refused (NETWORK_POLICY_VIOLATION)"⟩

/-! ## Identities -/

/-- `_digest` on bytes. -/
def digestBytes (value : Bytes) : Text :=
  text "sha256:" ++ sha256 value

/-- `_digest` on a string. -/
def digestText (value : Text) : Except PyError Text :=
  match utf8Encode value with
  | none => .error (raised .unicodeEncodeError "surrogates not allowed")
  | some encoded => .ok (digestBytes encoded)

/-- `_cache_key`. -/
def cacheKey (endpointId url : Text) (params : Params) :
    Except PyError Text := do
  let canonical ← dumps (.obj params)
  let blob ← dumps (.obj
    [(text "endpoint_id", .str endpointId),
      (text "url", .str url),
      (text "params", .str ((utf8Decode canonical).getD []))])
  pure (sha256 blob)

/-- The value that `_canonical_params` records for a parameter. -/
def cleanParam (member : Text × Json) : Except PyError (Text × Json) :=
  match member.2 with
  | .null => pure (member.1, .str [])
  | .bool flag =>
      pure (member.1, .str (text (if flag then "true" else "false")))
  | .arr _ | .obj _ => .error (unsupportedParam member.1 member.2)
  | scalar => do
      let shown ← paramText scalar
      pure (member.1, .str shown)

/-- `_canonical_params`. -/
def canonicalParams (params : Params) : Except PyError Bytes := do
  let clean ← (params.insertionSort KeyLe).mapM cleanParam
  dumps (.obj clean)

/-- `QueryReceipt`. -/
structure QueryReceipt where
  schemaVersion : Text
  receiptId : Text
  endpointId : Text
  requestUrlDigest : Text
  paramsDigest : Text
  responseSha256 : Text
  bytes : Nat
  cached : Bool
  retrievedUtc : Text
  licenseTermsSha256 : Text
  vintage : Text
  canonicalWrites : Nat
  grantsAuthority : Bool
  attribution : Text

/-- `_build_receipt`, at the instant that `_utc_now_iso` writes. -/
def buildReceipt
    (policy : EndpointPolicy) (url : Text) (params : Params)
    (payload : Bytes) (cached : Bool) (retrievedUtc : Text) :
    Except PyError QueryReceipt := do
  let responseSha := digestBytes payload
  let urlDigest ← digestText url
  let paramsBlob ← canonicalParams params
  let paramsDigest := digestBytes paramsBlob
  let idBlob ← dumps (.obj
    [(text "endpoint_id", .str policy.endpointId),
      (text "request_url_digest", .str urlDigest),
      (text "params_digest", .str paramsDigest),
      (text "response_sha256", .str responseSha)])
  pure
    { schemaVersion := text "QueryReceipt/v1"
      receiptId := digestBytes idBlob
      endpointId := policy.endpointId
      requestUrlDigest := urlDigest
      paramsDigest := paramsDigest
      responseSha256 := responseSha
      bytes := payload.length
      cached := cached
      retrievedUtc := retrievedUtc
      licenseTermsSha256 := policy.licenseTermsSha256
      vintage := retrievedUtc.take 10
      canonicalWrites := 0
      grantsAuthority := false
      attribution :=
        if policy.attributionRequired then policy.attributionText
        else [] }

end ScientificResourceLab.Knowledge
