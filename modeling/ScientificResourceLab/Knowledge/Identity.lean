import ScientificResourceLab.Contracts.AsciiJson
import ScientificResourceLab.Knowledge.Budgets

/-!
# The identity of a request

What `fetch` stores is read back (`readPayload_written`), so the same request
finds it again, and its receipt has the same identifier.

A request is the same for parameters in another order as far as their digest
goes.  The URL lists the parameters in the order of the mapping, so the cache
key and the URL are the same when the parameters that are not `None` keep
their order (`identity_of_sameOrder`).
-/

namespace ScientificResourceLab.Knowledge

open Python Contracts Steps

/-! ## Metadata read back -/

/-- A document that was written is read back with its surrogate pairs
joined. -/
theorem parseText_asciiText
    {value : Json} (distinct : value.Distinct) {content : Text}
    (dumped : asciiText value = some content) :
    parseText true content = .ok (value.sorted.reread joinPairs) := by
  rw [asciiText, ← dumpTextWith_sorted] at dumped
  have readBack := parseText_dumpTextWith true readsStrings_ascii
    (plain_sorted value distinct) dumped (.inl rfl)
  rwa [List.append_nil] at readBack

theorem joinPairs_digestBytes (payload : Bytes) :
    joinPairs (digestBytes payload) = digestBytes payload := by
  have scalars : Scalars (digestBytes payload) :=
    scalars_of_isObjectId (isObjectId_sha256 payload)
  rw [joinPairs_eq_self_iff]
  refine List.Pairwise.isChain (List.pairwise_of_forall_mem_list ?_)
  rintro first isFirst second - ⟨isHigh, -⟩
  have range := isHighSurrogate_iff.mp isHigh
  have notSurrogate := scalars first isFirst
  simp only [CodePoint.isSurrogate, Bool.and_eq_false_imp,
    decide_eq_true_eq, decide_eq_false_iff_not] at notSurrogate
  omega

/-- The members of the stored metadata, in the order of their keys. -/
theorem reread_payloadMeta
    (policy : EndpointPolicy) (key : Text) (payload : Bytes) :
    (payloadMeta policy key payload).sorted.reread joinPairs =
      .obj
        [(text "bytes", .int payload.length),
          (text "cache_key", .str (joinPairs key)),
          (text "endpoint_id", .str (joinPairs policy.endpointId)),
          (text "license_terms_sha256",
            .str (joinPairs policy.licenseTermsSha256)),
          (text "response_sha256", .str (digestBytes payload)),
          (text "retention_days", .int policy.retentionDays)] := by
  have sorted : (payloadMeta policy key payload).sorted =
      .obj
        [(text "bytes", .int payload.length),
          (text "cache_key", .str key),
          (text "endpoint_id", .str policy.endpointId),
          (text "license_terms_sha256", .str policy.licenseTermsSha256),
          (text "response_sha256", .str (digestBytes payload)),
          (text "retention_days", .int policy.retentionDays)] :=
    rfl
  rw [sorted]
  conv_rhs => rw [← joinPairs_digestBytes payload]
  rfl

/-- A cache that holds what was stored for a key gives the payload back. -/
theorem readPayload_stored
    {cache : Cache} {policy : EndpointPolicy} {key content : Text}
    {payload : Bytes} (stored : cache.payloads key = some payload)
    (described : cache.metas key = some content)
    (dumped : asciiText (payloadMeta policy key payload) = some content) :
    readPayload cache key = .ok (some payload) := by
  have distinct : (payloadMeta policy key payload).Distinct := by
    refine ⟨⟨trivial, trivial, trivial, trivial, trivial, trivial,
      trivial⟩, ?_⟩
    have keys : [text "endpoint_id", text "cache_key",
        text "response_sha256", text "bytes", text "license_terms_sha256",
        text "retention_days"].Nodup := by
      decide
    exact keys
  have parsed := parseText_asciiText distinct dumped
  rw [reread_payloadMeta] at parsed
  simp only [readPayload, stored, described, parsed]
  have sha : getOrNone (text "response_sha256")
      [(text "bytes", .int payload.length),
        (text "cache_key", .str (joinPairs key)),
        (text "endpoint_id", .str (joinPairs policy.endpointId)),
        (text "license_terms_sha256",
          .str (joinPairs policy.licenseTermsSha256)),
        (text "response_sha256", .str (digestBytes payload)),
        (text "retention_days", .int policy.retentionDays)] =
      .str (digestBytes payload) :=
    rfl
  rw [sha]
  exact if_pos rfl

/-- Reading a payload looks at the two files of its key. -/
theorem readPayload_congr
    {first second : Cache} {key : Text}
    (payloads : first.payloads key = second.payloads key)
    (metas : first.metas key = second.metas key) :
    readPayload first key = readPayload second key := by
  simp only [readPayload, payloads, metas]

/-! ## Receipts -/

/-- Two receipts of one request: nothing that identifies it differs. -/
structure SameIdentity (first second : QueryReceipt) : Prop where
  receiptId : first.receiptId = second.receiptId
  requestUrlDigest : first.requestUrlDigest = second.requestUrlDigest
  paramsDigest : first.paramsDigest = second.paramsDigest

/-- A receipt knows its parameters by their digest, and its identifier does
not know when it was made nor whether the payload was cached. -/
theorem buildReceipt_again
    {policy : EndpointPolicy} {url : Text} {first second : Params}
    {payload : Bytes} {cached : Bool} {retrievedUtc : Text}
    {receipt : QueryReceipt}
    (same : canonicalParams first = canonicalParams second)
    (built : buildReceipt policy url first payload cached retrievedUtc =
      .ok receipt) (again : Bool) (later : Text) :
    ∃ other, buildReceipt policy url second payload again later =
        .ok other ∧ other.cached = again ∧ SameIdentity receipt other := by
  simp only [buildReceipt, bind_eq_ok_iff, pure_eq_ok_iff] at built ⊢
  obtain ⟨urlDigest, isUrl, blob, isBlob, idBlob, isId, rfl⟩ := built
  rw [same] at isBlob
  exact ⟨_, ⟨urlDigest, isUrl, blob, isBlob, idBlob, isId, rfl⟩, rfl,
    ⟨rfl, rfl, rfl⟩⟩

theorem receiptOutcome_eq_returned
    {payload given : Bytes} {built : Except PyError QueryReceipt}
    {receipt : QueryReceipt}
    (outcome : receiptOutcome payload built = .returned receipt given) :
    built = .ok receipt ∧ payload = given := by
  cases built with
  | error error => cases outcome
  | ok other =>
      cases outcome
      exact ⟨rfl, rfl⟩

theorem readPayload_written
    {cache stored : Cache} {policy : EndpointPolicy} {key : Text}
    {payload : Bytes}
    (wrote : writePayload cache key payload (payloadMeta policy key payload) =
      (stored, .ok ())) :
    readPayload stored key = .ok (some payload) := by
  rw [writePayload] at wrote
  cases dumped : asciiText (payloadMeta policy key payload) with
  | none =>
      rw [dumped] at wrote
      cases wrote
  | some content =>
      rw [dumped] at wrote
      cases wrote
      exact readPayload_stored (Function.update_self _ _ _)
        (Function.update_self _ _ _) dumped

/-- A call that settles has stored its payload. -/
theorem settle_returned
    {cache : Cache} {request : Request} {call : Call} {payload given : Bytes}
    {receipt : QueryReceipt}
    (outcome : (settle cache request call payload).2 =
      .returned receipt given) :
    buildReceipt request.policy request.url call.params given false
        call.clock.retrievedUtc = .ok receipt ∧
      readPayload (settle cache request call payload).1 request.key =
        .ok (some given) := by
  rw [settle] at outcome ⊢
  cases paid : payBudget cache request.policy payload with
  | error error =>
      rw [paid] at outcome
      cases outcome
  | ok rest =>
      simp only [paid] at outcome ⊢
      rcases wrote : writePayload rest request.key payload
          (payloadMeta request.policy request.key payload) with
        ⟨stored, error | done⟩
      · rw [wrote] at outcome
        cases outcome
      · simp only [wrote] at outcome ⊢
        obtain ⟨built, rfl⟩ := receiptOutcome_eq_returned outcome
        exact ⟨built, readPayload_written wrote⟩

theorem fetch_returned
    {rules : NetlocRules} {registry : PolicyRegistry} {cache : Cache}
    {call : Call} {receipt : QueryReceipt} {payload : Bytes}
    (outcome : (fetch rules registry cache call).outcome =
      .returned receipt payload) :
    ∃ request cached, prepare rules registry call = .ok request ∧
      buildReceipt request.policy request.url call.params payload cached
        call.clock.retrievedUtc = .ok receipt ∧
      readPayload (fetch rules registry cache call).cache request.key =
        .ok (some payload) := by
  rw [fetch] at outcome ⊢
  cases prepared : prepare rules registry call with
  | error error =>
      rw [prepared] at outcome
      cases outcome
  | ok request =>
      simp only [prepared] at outcome ⊢
      refine ⟨request, ?_⟩
      rcases held : readPayload cache request.key with
        error | (_ | stored)
      · rw [held] at outcome
        cases outcome
      · simp only [held, fetchUncached] at outcome ⊢
        rcases asked : acquireToken cache request.policy call.clock
            call.rateLimitSleep with ⟨drained, _ | _ | _⟩
        · simp only [asked] at outcome ⊢
          rcases answered : fetchWithRetry request.policy call.answers with
            ⟨requests, error | answer⟩
          · rw [answered] at outcome
            cases outcome
          · simp only [answered] at outcome ⊢
            obtain ⟨built, stored⟩ := settle_returned outcome
            exact ⟨false, trivial, built, stored⟩
        · rw [asked] at outcome
          cases outcome
        · rw [asked] at outcome
          cases outcome
      · simp only [held] at outcome ⊢
        obtain ⟨built, rfl⟩ := receiptOutcome_eq_returned outcome
        exact ⟨true, trivial, built, rfl⟩

/-- The same request, on a cache with the files of its key as they were left,
is a hit: it asks for no token, makes no request and changes no file, and its
receipt has the same identity. -/
theorem fetch_again
    {rules : NetlocRules} {registry : PolicyRegistry}
    {cache later : Cache} {first second : Call} {request : Request}
    {receipt : QueryReceipt} {payload : Bytes}
    (outcome : (fetch rules registry cache first).outcome =
      .returned receipt payload)
    (prepared : prepare rules registry first = .ok request)
    (preparedAgain : prepare rules registry second = .ok request)
    (sameParams : canonicalParams first.params =
      canonicalParams second.params)
    (payloads : later.payloads request.key =
      (fetch rules registry cache first).cache.payloads request.key)
    (metas : later.metas request.key =
      (fetch rules registry cache first).cache.metas request.key) :
    ∃ again, fetch rules registry later second =
        ⟨later, 0, 0, .returned again payload⟩ ∧
      again.cached = true ∧ SameIdentity receipt again := by
  obtain ⟨other, cached, isOther, built, held⟩ := fetch_returned outcome
  rw [prepared] at isOther
  cases isOther
  obtain ⟨again, builtAgain, isCached, identity⟩ :=
    buildReceipt_again sameParams built true second.clock.retrievedUtc
  refine ⟨again, ?_, isCached, identity⟩
  rw [← readPayload_congr payloads metas] at held
  simp only [fetch, preparedAgain, held, builtAgain, receiptOutcome]

/-! ## Parameters in another order -/

/-- Two mappings with the same items, in any order. -/
structure SameMapping (first second : Params) : Prop where
  perm : first.Perm second
  distinct : (first.map Prod.fst).Nodup

/-- A parameter that is not `None`. -/
def isGiven (member : Text × Json) : Bool :=
  match member.2 with
  | .null => false
  | _ => true

/-- The parameters that are not `None` come in the same order. -/
def SameOrder (first second : Params) : Prop :=
  first.filter isGiven = second.filter isGiven

/-- The canonical parameters do not know the order of the mapping. -/
theorem canonicalParams_perm
    {first second : Params} (same : SameMapping first second) :
    canonicalParams first = canonicalParams second := by
  rw [canonicalParams, canonicalParams,
    insertionSort_perm same.perm same.distinct]

/-- `None` is not part of a URL. -/
theorem stringParams_filter (params : Params) :
    stringParams (params.filter isGiven) = stringParams params := by
  induction params with
  | nil => rfl
  | cons member rest induction =>
      cases member with
      | mk key value =>
          cases value with
          | null =>
              rw [List.filter_cons_of_neg (by simp [isGiven]), induction,
                stringParams]
          | bool | int | float | str | arr | obj =>
              rw [List.filter_cons_of_pos (by simp [isGiven])]
              simp only [stringParams, induction]

/-- Two calls for the same endpoint, path and mapping. -/
structure SameRequest (first second : Call) : Prop where
  endpointId : first.endpointId = second.endpointId
  path : first.path = second.path
  params : SameMapping first.params second.params

theorem buildUrl_congr
    {baseUrl path : Text} {first second : Params}
    (order : SameOrder first second) :
    buildUrl baseUrl path first = buildUrl baseUrl path second := by
  have strings : stringParams first = stringParams second := by
    rw [← stringParams_filter first, ← stringParams_filter second, order]
  rw [buildUrl, buildUrl, strings]

theorem cacheKey_congr
    {endpointId url : Text} {first second : Params}
    (same : SameMapping first second) :
    cacheKey endpointId url first = cacheKey endpointId url second := by
  rw [cacheKey, cacheKey, dumps_perm same.perm same.distinct]

/-- A request is prepared alike. -/
theorem prepare_congr
    {rules : NetlocRules} {registry : PolicyRegistry} {first second : Call}
    (same : SameRequest first second)
    (order : SameOrder first.params second.params) :
    prepare rules registry first = prepare rules registry second := by
  have urls (baseUrl : Text) :
      buildUrl baseUrl first.path first.params =
        buildUrl baseUrl second.path second.params := by
    rw [same.path]
    exact buildUrl_congr order
  have keys (url : Text) : cacheKey second.endpointId url first.params =
      cacheKey second.endpointId url second.params :=
    cacheKey_congr same.params
  simp only [prepare, urls, keys, same.endpointId]

/--
Two calls with the same mapping of parameters have the same canonical
parameters, and for one URL the same cache key.  When the parameters that are
not `None` come in the same order, they have the same URL and cache key, and
the second after a successful first is a hit that takes no token, makes no
request and changes no budget; its receipt has the same identity.
-/
theorem identity_of_sameOrder
    (rules : NetlocRules) (registry : PolicyRegistry)
    {first second : Call} (same : SameRequest first second) :
    canonicalParams first.params = canonicalParams second.params ∧
      (∀ url, cacheKey first.endpointId url first.params =
        cacheKey second.endpointId url second.params) ∧
      (SameOrder first.params second.params →
        (∀ baseUrl, buildUrl baseUrl first.path first.params =
          buildUrl baseUrl second.path second.params) ∧
        ∀ cache receipt payload,
          (fetch rules registry cache first).outcome =
              .returned receipt payload →
            ∃ again,
              fetch rules registry (fetch rules registry cache first).cache
                  second =
                ⟨(fetch rules registry cache first).cache, 0, 0,
                  .returned again payload⟩ ∧
              again.cached = true ∧ SameIdentity receipt again) := by
  refine ⟨canonicalParams_perm same.params, ?_, ?_⟩
  · intro url
    rw [same.endpointId]
    exact cacheKey_congr same.params
  · intro order
    refine ⟨?_, ?_⟩
    · intro baseUrl
      rw [same.path]
      exact buildUrl_congr order
    · intro cache receipt payload outcome
      obtain ⟨request, _, prepared, -, -⟩ := fetch_returned outcome
      have preparedAgain := prepared
      rw [prepare_congr same order] at preparedAgain
      exact fetch_again outcome prepared preparedAgain
        (canonicalParams_perm same.params) rfl rfl

/-- A policy for `https://data.example`. -/
def examplePolicy : EndpointPolicy where
  endpointId := text "data"
  baseUrl := text "https://data.example"
  rateLimitPerMinute := 60
  byteBudget := 100
  costBudgetUnits := 10
  licenseTermsSha256 := digestBytes []
  attributionRequired := false
  attributionText := []
  retentionDays := 30

/-- A registry with one endpoint. -/
def exampleRegistry : PolicyRegistry where
  policies := [examplePolicy]
  distinct := List.nodup_singleton _

/-- A call whose transport answers with nothing. -/
def exampleCall (params : Params) : Call where
  endpointId := text "data"
  path := text "search"
  params := params
  rateLimitSleep := false
  clock := ⟨0, 0, [], text "2026-01-01T00:00:00Z"⟩
  answers _ := .response [] (text "https") (text "data.example")

/-- `{"a": 1, "b": 2}`. -/
def forwardParams : Params :=
  [(text "a", .int 1), (text "b", .int 2)]

/-- `{"b": 2, "a": 1}`. -/
def backwardParams : Params :=
  [(text "b", .int 2), (text "a", .int 1)]

/-- No refusals of a network location. -/
def noRules : NetlocRules :=
  ⟨fun _ => none⟩

/-- The cache key that a call looks up. -/
def keyOf (call : Call) : Option Text :=
  (prepare noRules exampleRegistry call).toOption.map Request.key

theorem sameRequest_example
    {first second : Params} (same : SameMapping first second) :
    SameRequest (exampleCall first) (exampleCall second) :=
  ⟨rfl, rfl, same⟩

theorem sameMapping_backward :
    SameMapping forwardParams backwardParams :=
  ⟨List.Perm.swap _ _ _, by decide⟩

/-- A fetch with two parameters the other way round is no hit. -/
theorem backwardParams_other_key :
    SameRequest (exampleCall forwardParams) (exampleCall backwardParams) ∧
      (keyOf (exampleCall forwardParams)).isSome = true ∧
      (keyOf (exampleCall backwardParams)).isSome = true ∧
      keyOf (exampleCall forwardParams) ≠
        keyOf (exampleCall backwardParams) := by
  refine ⟨sameRequest_example sameMapping_backward, ?_⟩
  decide +kernel

/-- `{"c": None, "a": 1, "b": 2}`. -/
def noneFirstParams : Params :=
  (text "c", .null) :: forwardParams

/-- `{"a": 1, "c": None, "b": 2}`. -/
def noneBetweenParams : Params :=
  [(text "a", .int 1), (text "c", .null), (text "b", .int 2)]

theorem sameMapping_noneBetween :
    SameMapping noneFirstParams noneBetweenParams :=
  ⟨List.Perm.swap _ _ _, by decide⟩

/-- Whether a call returned an empty payload. -/
def Outcome.isEmpty : Outcome → Bool
  | .returned _ payload => payload = []
  | _ => false

/-- On an empty cache the call returns what its transport answers. -/
theorem exampleCall_returns :
    ∃ receipt, (fetch noRules exampleRegistry (.empty [])
      (exampleCall noneFirstParams)).outcome = .returned receipt [] := by
  have returned : (fetch noRules exampleRegistry (.empty [])
      (exampleCall noneFirstParams)).outcome.isEmpty = true := by
    decide +kernel
  cases outcome : (fetch noRules exampleRegistry (.empty [])
      (exampleCall noneFirstParams)).outcome with
  | returned receipt payload =>
      rw [outcome] at returned
      obtain rfl := of_decide_eq_true returned
      exact ⟨receipt, rfl⟩
  | raised error =>
      rw [outcome] at returned
      cases returned
  | asleep =>
      rw [outcome] at returned
      cases returned

/-- With `None` elsewhere among the parameters the second fetch is a hit. -/
theorem identity_of_sameOrder_none :
    ∃ cache receipt again,
      fetch noRules exampleRegistry cache (exampleCall noneBetweenParams) =
        ⟨cache, 0, 0, .returned again []⟩ ∧
      again.cached = true ∧ SameIdentity receipt again := by
  have same : SameRequest (exampleCall noneFirstParams)
      (exampleCall noneBetweenParams) :=
    sameRequest_example sameMapping_noneBetween
  have order : SameOrder noneFirstParams noneBetweenParams := rfl
  obtain ⟨receipt, outcome⟩ := exampleCall_returns
  obtain ⟨again, hit, cached, identity⟩ :=
    ((identity_of_sameOrder noRules exampleRegistry same).2.2 order).2
      (.empty []) receipt [] outcome
  exact ⟨_, receipt, again, hit, cached, identity⟩

end ScientificResourceLab.Knowledge
