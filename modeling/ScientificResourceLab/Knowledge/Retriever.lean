import ScientificResourceLab.Knowledge.Requests
import ScientificResourceLab.Python.FileSystem
import ScientificResourceLab.Python.JsonWriting
import Mathlib.Data.Rat.Floor

/-!
# The budgeted retriever

`fetch` of `srl.knowledge.retriever` on a cache directory.  The directory is
known by its real path and its files: the rate-limiter and the budget state of
each endpoint, and the payloads with their metadata.  A call brings along what
the outside answers: the readings of the clock and what the transport does at
each attempt.

The tokens of the bucket are rationals here, where the source has floats.
Every other number is an integer in the source as well.

`Fetched` records, beside the result, how many tokens a call took from the
bucket and how many requests it made of the transport.
-/

namespace ScientificResourceLab.Knowledge

open Python Contracts Steps

/-! ## The cache directory -/

/-- `_BucketState`. -/
structure BucketState where
  tokens : ℚ
  lastRefill : ℚ
  deriving DecidableEq

/--
The files of a cache directory.  A state file is known by what its two loaders
find in it: the bucket that it holds, and its text where it is no bucket's.
-/
structure Cache where
  directory : Path
  buckets : Path → Option BucketState
  budgets : Path → Option Text
  payloads : Text → Option Bytes
  metas : Text → Option Text

/-- A directory without files. -/
def Cache.empty (directory : Path) : Cache :=
  ⟨directory, fun _ => none, fun _ => none, fun _ => none, fun _ => none⟩

/--
The place of a state file.  Its name may contain slashes and `..`; a save
makes the directories on the way, and no link is among them.
-/
def statePath (kind : String) (directory : Path) (endpointId : Text) :
    Except PyError Path :=
  match utf8Encode endpointId with
  | none => .error (raised .unicodeEncodeError "surrogates not allowed")
  | some encoded =>
      .ok (absPath (directory ++ pathParts (text kind ++ (endpointId ++
        (text "-" ++ (sha256 encoded).take 32 ++ text ".json")))))

/-- `_rate_state_path`. -/
def rateStatePath : Path → Text → Except PyError Path :=
  statePath "ratelimit-"

/-- `_budget_state_path`. -/
def budgetStatePath : Path → Text → Except PyError Path :=
  statePath "budget-"

/-! ## The token bucket -/

/-- A positive rational with two decimals, as `:.2f` shows it. -/
def fixedTwo (value : ℚ) : Text :=
  let cents := Float64.roundHalfEven (value.num.natAbs * 100) value.den
  decimalText (cents / 100) ++ text "." ++
    [digitPoint (cents / 10 % 10), digitPoint (cents % 10)]

/--
How asking for a token ends.  A refusal comes with the `retry_after_seconds`
of its error, where it has them; the last case is a call still asleep.
-/
inductive Acquired where
  | granted
  | refused (error : PyError) (retryAfterSeconds : Option ℚ)
  | asleep

/-- The refusal of an empty bucket. -/
def emptyBucket (policy : EndpointPolicy) (wait : ℚ) : PyError :=
  ⟨.rateLimitedError,
    text "endpoint " ++ quoted policy.endpointId ++ text " rate limit (" ++
      decimalText policy.rateLimitPerMinute ++
      text "/min) exceeded; retry after ~" ++ fixedTwo wait ++ text "s"⟩

/-- `state.tokens` after the refill of a round. -/
@[irreducible]
def refilledTokens (policy : EndpointPolicy) (now : ℚ)
    (state : BucketState) : ℚ :=
  let capacity : ℚ := policy.rateLimitPerMinute
  let elapsed := max 0 (now - state.lastRefill)
  min capacity (state.tokens + elapsed * (capacity / 60))

/-- `wait_seconds` of a round that found too few tokens. -/
def waitSeconds (policy : EndpointPolicy) (tokens : ℚ) : ℚ :=
  (1 - tokens) / (policy.rateLimitPerMinute / 60)

/--
One round of the loop of `_acquire_token` from a loaded state: the state that
it saves and how the call ends, or nothing when it goes to sleep.
-/
def acquireRound (policy : EndpointPolicy) (sleep : Bool) (now : ℚ)
    (state : BucketState) : BucketState × Option Acquired :=
  let tokens := refilledTokens policy now state
  if 1 ≤ tokens then (⟨tokens - 1, now⟩, some .granted)
  else if sleep then (⟨tokens, now⟩, none)
  else
    (⟨tokens, now⟩,
      some (.refused (emptyBucket policy (waitSeconds policy tokens))
        (some (waitSeconds policy tokens))))

/-- The loop of `_acquire_token`; the readings are those after each sleep. -/
def acquireLoop (policy : EndpointPolicy) (sleep : Bool) :
    List ℚ → ℚ → BucketState → BucketState × Acquired
  | [], now, state =>
      match acquireRound policy sleep now state with
      | (saved, some acquired) => (saved, acquired)
      | (saved, none) => (saved, .asleep)
  | next :: later, now, state =>
      match acquireRound policy sleep now state with
      | (saved, some acquired) => (saved, acquired)
      | (saved, none) => acquireLoop policy sleep later next saved

/-- `_save_bucket_state`; a bucket is no budget. -/
def saveBucketState (cache : Cache) (path : Path) (state : BucketState) :
    Cache :=
  { cache with
    buckets := Function.update cache.buckets path (some state)
    budgets := Function.update cache.budgets path none }

/-- What the clock shows during a call. -/
structure Clock where
  opened : ℚ
  now : ℚ
  readings : List ℚ
  retrievedUtc : Text

/-- `_acquire_token`. -/
def acquireToken
    (cache : Cache) (policy : EndpointPolicy) (clock : Clock)
    (sleep : Bool) : Cache × Acquired :=
  if policy.rateLimitPerMinute ≤ 0 then
    (cache, .refused ⟨.rateLimitedError,
      text "endpoint " ++ quoted policy.endpointId ++
        text " has rate_limit_per_minute=0; no requests permitted"⟩
      (some 60))
  else
    match rateStatePath cache.directory policy.endpointId with
    | .error error => (cache, .refused error none)
    | .ok path =>
        let loaded := (cache.buckets path).getD
          ⟨policy.rateLimitPerMinute, clock.opened⟩
        let (state, acquired) :=
          acquireLoop policy sleep clock.readings clock.now loaded
        (saveBucketState cache path state, acquired)

/-! ## Budgets -/

/-- `_BudgetState`. -/
structure BudgetState where
  bytesRemaining : Int
  costUnitsRemaining : Int
  deriving DecidableEq

/-- The state a budget document holds, if it is one. -/
def budgetOf (document : Json) : Option BudgetState :=
  match document with
  | .obj members => do
      let bytesRemaining ←
        asInteger (getOrNone (text "bytes_remaining") members)
      let costUnitsRemaining ←
        asInteger (getOrNone (text "cost_units_remaining") members)
      pure ⟨bytesRemaining, costUnitsRemaining⟩
  | _ => none

/-- The budget that a policy starts with. -/
def EndpointPolicy.fullBudget (policy : EndpointPolicy) : BudgetState :=
  ⟨policy.byteBudget, policy.costBudgetUnits⟩

/-- `_load_budget_state`. -/
def loadBudgetState (cache : Cache) (path : Path)
    (policy : EndpointPolicy) : Except PyError BudgetState :=
  match cache.budgets path with
  | none => .ok policy.fullBudget
  | some content =>
      match parseText true content with
      | .ok document =>
          .ok ((budgetOf document).getD policy.fullBudget)
      | .error .value =>
          .error (raised .valueError
            "Exceeds the limit for integer string conversion")
      | .error _ => .ok policy.fullBudget

def BudgetState.document (budget : BudgetState) : Json :=
  .obj
    [(text "bytes_remaining", .int budget.bytesRemaining),
      (text "cost_units_remaining", .int budget.costUnitsRemaining)]

/-- `_save_budget_state`; a budget is no bucket. -/
def saveBudgetState (cache : Cache) (path : Path)
    (budget : BudgetState) : Except PyError Cache :=
  match dumpText budget.document with
  | none =>
      .error (raised .valueError
        "Exceeds the limit for integer string conversion")
  | some content =>
      .ok
        { cache with
          buckets := Function.update cache.buckets path none
          budgets := Function.update cache.budgets path (some content) }

/-! ## Payloads -/

/-- `_read_payload`. -/
def readPayload (cache : Cache) (key : Text) :
    Except PyError (Option Bytes) :=
  match cache.payloads key, cache.metas key with
  | some payload, some content =>
      match parseText true content with
      | .ok (.obj members) =>
          match getOrNone (text "response_sha256") members with
          | .str expected =>
              if digestBytes payload = expected then .ok (some payload)
              else .ok none
          | _ => .ok none
      | .ok _ => .ok none
      | .error .value =>
          .error (raised .valueError
            "Exceeds the limit for integer string conversion")
      | .error _ => .ok none
  | _, _ => .ok none

/-- `_write_payload`: the payload is replaced before its metadata. -/
def writePayload (cache : Cache) (key : Text) (payload : Bytes)
    (metadata : Json) : Cache × Except PyError Unit :=
  let cache :=
    { cache with
      payloads := Function.update cache.payloads key (some payload) }
  match asciiText metadata with
  | none =>
      (cache, .error (raised .valueError
        "Exceeds the limit for integer string conversion"))
  | some content =>
      ({ cache with
          metas := Function.update cache.metas key (some content) },
        .ok ())

/-- The metadata that is stored with a payload. -/
def payloadMeta (policy : EndpointPolicy) (key : Text)
    (payload : Bytes) : Json :=
  .obj
    [(text "endpoint_id", .str policy.endpointId),
      (text "cache_key", .str key),
      (text "response_sha256", .str (digestBytes payload)),
      (text "bytes", .int payload.length),
      (text "license_terms_sha256", .str policy.licenseTermsSha256),
      (text "retention_days", .int policy.retentionDays)]

/-! ## The transport -/

/-- What `transport.fetch` does: answer, or raise one of the exceptions. -/
inductive Answer where
  | response (payload : Bytes) (finalScheme finalHost : Text)
  | timeout (message : Text)
  | httpError (status : Int)
  | osError (message : Text)
  | other (error : PyError)

/-- `MAX_RETRIES`. -/
def maxRetries : Nat := 2

/-- The statuses that the retry classifier takes for transient. -/
def isTransient (status : Int) : Bool :=
  status = 429 || (500 ≤ status && status < 600)

/-- What an HTTP error ends in when it is not retried. -/
def httpRefusal (policy : EndpointPolicy) (status : Int)
    (attempt : Nat) : PyError :=
  ⟨if status = 429 then .rateLimitedError else .networkPolicyError,
    text "endpoint " ++ quoted policy.endpointId ++
      text " returned HTTP " ++ intText status ++ text " (after " ++
      decimalText (attempt + 1) ++ text " attempt(s)); fetch refused"⟩

/--
The loop of `_fetch_with_retry` with the retries that are left, with the
number of requests it makes.
-/
def retryLoop (policy : EndpointPolicy) (answers : Nat → Answer) :
    Nat → Nat → Nat × Except PyError Bytes
  | left, attempt =>
      match answers attempt with
      | .timeout message =>
          (1, .error ⟨.retrievalTimeoutError, message⟩)
      | .other error => (1, .error error)
      | .httpError status =>
          match left with
          | 0 => (1, .error (httpRefusal policy status attempt))
          | left + 1 =>
              if isTransient status then
                let (requests, result) :=
                  retryLoop policy answers left (attempt + 1)
                (requests + 1, result)
              else (1, .error (httpRefusal policy status attempt))
      | .osError message =>
          match left with
          | 0 =>
              (1, .error ⟨.networkPolicyError,
                text "endpoint " ++ quoted policy.endpointId ++
                  text " transport error: " ++ message ++
                  text "; fetch refused after " ++
                  decimalText (attempt + 1) ++ text " attempt(s)"⟩)
          | left + 1 =>
              let (requests, result) :=
                retryLoop policy answers left (attempt + 1)
              (requests + 1, result)
      | .response payload finalScheme finalHost =>
          (1,
            if finalScheme ≠ text "https" then
              .error ⟨.networkPolicyError,
                text "endpoint " ++ quoted policy.endpointId ++
                  text " redirected to non-https scheme " ++
                  quoted finalScheme ++ text " (host " ++
                  quoted finalHost ++
                  text "); fetch refused (NETWORK_POLICY_VIOLATION)"⟩
            else .ok payload)

/-- `_fetch_with_retry`. -/
def fetchWithRetry (policy : EndpointPolicy) (answers : Nat → Answer) :
    Nat × Except PyError Bytes :=
  retryLoop policy answers maxRetries 0

/-! ## A fetch -/

/-- The arguments of `fetch`, and what the outside answers. -/
structure Call where
  endpointId : Text
  path : Text
  params : Params
  rateLimitSleep : Bool
  clock : Clock
  answers : Nat → Answer

/-- How a call ends: the last case is a call still asleep. -/
inductive Outcome where
  | returned (receipt : QueryReceipt) (payload : Bytes)
  | raised (error : PyError)
  | asleep

/-- A call's effects. -/
structure Fetched where
  cache : Cache
  tokens : Nat
  requests : Nat
  outcome : Outcome

/-- The outcome of building a receipt for a payload. -/
def receiptOutcome (payload : Bytes)
    (receipt : Except PyError QueryReceipt) : Outcome :=
  match receipt with
  | .ok receipt => .returned receipt payload
  | .error error => .raised error

/-- What a request is known by, once it is allowed. -/
structure Request where
  policy : EndpointPolicy
  url : Text
  key : Text

/-- The first steps of `fetch`: allowlist, URL, scheme and cache key. -/
def prepare (rules : NetlocRules) (registry : PolicyRegistry)
    (call : Call) : Except PyError Request := do
  let policy ← registry.get call.endpointId
  let url ← buildUrl policy.baseUrl call.path call.params
  assertHttps rules url
    (text "endpoint " ++ quoted call.endpointId ++ text " request")
  let key ← cacheKey call.endpointId url call.params
  pure ⟨policy, url, key⟩

/-- The checks of a response against the remaining budget. -/
def chargeBudget (policy : EndpointPolicy) (payload : Bytes)
    (budget : BudgetState) : Except PyError BudgetState := do
  refuseIf (budget.bytesRemaining < payload.length)
    ⟨.resourceLimitError,
      text "response for endpoint " ++ quoted policy.endpointId ++
        text " is " ++ decimalText payload.length ++
        text " bytes, exceeding the remaining byte budget of " ++
        intText budget.bytesRemaining ++
        text " bytes; fetch refused and nothing was cached " ++
        text "(RESOURCE_LIMIT)"⟩
  refuseIf (budget.costUnitsRemaining < 1)
    ⟨.resourceLimitError,
      text "endpoint " ++ quoted policy.endpointId ++
        text " cost budget exhausted (0 of " ++
        decimalText policy.costBudgetUnits ++
        text " units remaining); fetch refused (RESOURCE_LIMIT)"⟩
  pure ⟨budget.bytesRemaining - payload.length,
    budget.costUnitsRemaining - 1⟩

/-- The cache after the budget was charged and written. -/
def payBudget (cache : Cache) (policy : EndpointPolicy)
    (payload : Bytes) : Except PyError Cache := do
  let path ← budgetStatePath cache.directory policy.endpointId
  let budget ← loadBudgetState cache path policy
  let charged ← chargeBudget policy payload budget
  saveBudgetState cache path charged

/-- The steps of `fetch` after a response has arrived. -/
def settle (cache : Cache) (request : Request) (call : Call)
    (payload : Bytes) : Cache × Outcome :=
  match payBudget cache request.policy payload with
  | .error error => (cache, .raised error)
  | .ok paid =>
      match writePayload paid request.key payload
          (payloadMeta request.policy request.key payload) with
      | (stored, .error error) => (stored, .raised error)
      | (stored, .ok ()) =>
          (stored, receiptOutcome payload
            (buildReceipt request.policy request.url call.params payload
              false call.clock.retrievedUtc))

/-- The steps of `fetch` that use the network. -/
def fetchUncached (cache : Cache) (request : Request) (call : Call) :
    Fetched :=
  match acquireToken cache request.policy call.clock
      call.rateLimitSleep with
  | (drained, .refused error _) => ⟨drained, 0, 0, .raised error⟩
  | (drained, .asleep) => ⟨drained, 0, 0, .asleep⟩
  | (drained, .granted) =>
      match fetchWithRetry request.policy call.answers with
      | (requests, .error error) => ⟨drained, 1, requests, .raised error⟩
      | (requests, .ok payload) =>
          let (settled, outcome) := settle drained request call payload
          ⟨settled, 1, requests, outcome⟩

/-- `ApiRetriever.fetch`. -/
def fetch (rules : NetlocRules) (registry : PolicyRegistry)
    (cache : Cache) (call : Call) : Fetched :=
  match prepare rules registry call with
  | .error error => ⟨cache, 0, 0, .raised error⟩
  | .ok request =>
      match readPayload cache request.key with
      | .error error => ⟨cache, 0, 0, .raised error⟩
      | .ok (some payload) =>
          ⟨cache, 0, 0, receiptOutcome payload
            (buildReceipt request.policy request.url call.params payload
              true call.clock.retrievedUtc)⟩
      | .ok none => fetchUncached cache request call

end ScientificResourceLab.Knowledge
