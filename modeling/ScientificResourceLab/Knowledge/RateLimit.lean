import ScientificResourceLab.Knowledge.Retriever
import ScientificResourceLab.Steps.TokenBucket
import Mathlib.Data.Rat.Cast.Order

/-!
# The rate limit

`_acquire_token` without sleep is a request to a token bucket, whose capacity
is the rate limit and which is filled once a minute.  The bucket is kept in a
file that grants and refusals both write.  So a run of calls is the run of a
bucket (`grantTimes_acquisitions`), and its bounds hold for the calls.
-/

namespace ScientificResourceLab.Knowledge

open Python Contracts Steps

/-! ## One call -/

/-- The persisted state as a bucket. -/
def BucketState.toBucket (state : BucketState) : TokenBucket ℚ where
  tokens := state.tokens
  clock := state.lastRefill

/-- A bucket as the state that is persisted. -/
def stateOf (bucket : TokenBucket ℚ) : BucketState where
  tokens := bucket.tokens
  lastRefill := bucket.clock

@[simp]
theorem toBucket_stateOf (bucket : TokenBucket ℚ) :
    (stateOf bucket).toBucket = bucket :=
  rfl

section

variable (policy : EndpointPolicy)

/-- The capacity of the bucket. -/
def EndpointPolicy.capacity : ℚ :=
  policy.rateLimitPerMinute

/-- The tokens that flow into the bucket in a second. -/
def EndpointPolicy.rate : ℚ :=
  policy.capacity / 60

/-- A bucket grants a token at some time. -/
abbrev Grants (now : ℚ) (bucket : TokenBucket ℚ) : Prop :=
  bucket.grants policy.capacity policy.rate now

/-- The bucket after a call. -/
def bucketAfter (now : ℚ) (bucket : TokenBucket ℚ) : TokenBucket ℚ :=
  bucket.ask policy.capacity policy.rate now

/-- The wait until the rest of one token has flowed in. -/
def waitAfter (now : ℚ) (bucket : TokenBucket ℚ) : ℚ :=
  waitSeconds policy (bucketAfter policy now bucket).tokens

theorem refill_toBucket (now : ℚ) (state : BucketState) :
    state.toBucket.refill policy.capacity policy.rate now =
      ⟨refilledTokens policy now state, now⟩ := by
  rw [TokenBucket.refill, refilledTokens, EndpointPolicy.rate,
    EndpointPolicy.capacity, BucketState.toBucket]

/-- How a call that does not sleep ends. -/
def endOf (now : ℚ) (bucket : TokenBucket ℚ) : Acquired :=
  if Grants policy now bucket then .granted
  else .refused (emptyBucket policy (waitAfter policy now bucket))
    (some (waitAfter policy now bucket))

/-- The loop without sleep is one request to the bucket. -/
theorem acquireLoop_eq (readings : List ℚ) (now : ℚ) (state : BucketState) :
    acquireLoop policy false readings now state =
      (stateOf (bucketAfter policy now state.toBucket),
        endOf policy now state.toBucket) := by
  have round : acquireRound policy false now state =
      (stateOf (bucketAfter policy now state.toBucket),
        some (endOf policy now state.toBucket)) := by
    have isGrant : Grants policy now state.toBucket ↔
        1 ≤ refilledTokens policy now state := by
      rw [Grants, TokenBucket.grants, refill_toBucket]
    rw [acquireRound, endOf, waitAfter, bucketAfter, TokenBucket.ask,
      refill_toBucket]
    by_cases granted : 1 ≤ refilledTokens policy now state
    · rw [if_pos (isGrant.mpr granted), if_pos (isGrant.mpr granted),
        if_pos granted, stateOf]
    · rw [if_neg (mt isGrant.mp granted), if_neg (mt isGrant.mp granted),
        if_neg granted, if_neg Bool.false_ne_true, stateOf]
  cases readings with
  | nil => rw [acquireLoop, round]
  | cons next later => rw [acquireLoop, round]

/-- The file of an endpoint holds a bucket. -/
def Persisted (cache : Cache) (bucket : TokenBucket ℚ) : Prop :=
  ∃ path, rateStatePath cache.directory policy.endpointId = .ok path ∧
    cache.buckets path = some (stateOf bucket)

variable {policy}

/-- A call without sleep asks the persisted bucket and persists it. -/
theorem acquireToken_persisted
    (positive : 0 < policy.rateLimitPerMinute) {cache : Cache}
    {bucket : TokenBucket ℚ} (persisted : Persisted policy cache bucket)
    (clock : Clock) :
    Persisted policy (acquireToken cache policy clock false).1
        (bucketAfter policy clock.now bucket) ∧
      (acquireToken cache policy clock false).2 =
        endOf policy clock.now bucket := by
  obtain ⟨path, isPath, stored⟩ := persisted
  have called : acquireToken cache policy clock false =
      (saveBucketState cache path
          (stateOf (bucketAfter policy clock.now bucket)),
        endOf policy clock.now bucket) := by
    rw [acquireToken, if_neg (not_le.mpr positive), isPath]
    dsimp only
    rw [stored, Option.getD_some, acquireLoop_eq, toBucket_stateOf]
  rw [called]
  exact ⟨⟨path, isPath, Function.update_self _ _ _⟩, rfl⟩

end

/-! ## Runs -/

/-- A call for a token, with the directory that it leaves. -/
structure Acquisition where
  clock : Clock
  acquired : Acquired
  after : Cache

/-- The calls at the given readings of the clock, none of which sleeps. -/
def acquisitions (policy : EndpointPolicy) :
    Cache → List Clock → List Acquisition
  | _, [] => []
  | cache, clock :: later =>
      let (after, acquired) := acquireToken cache policy clock false
      ⟨clock, acquired, after⟩ :: acquisitions policy after later

theorem acquisitions_cons (policy : EndpointPolicy) (cache : Cache)
    (clock : Clock) (later : List Clock) :
    acquisitions policy cache (clock :: later) =
      ⟨clock, (acquireToken cache policy clock false).2,
          (acquireToken cache policy clock false).1⟩ ::
        acquisitions policy (acquireToken cache policy clock false).1
          later :=
  rfl

/-- A call was granted a token. -/
def Acquisition.isGranted (acquisition : Acquisition) : Bool :=
  match acquisition.acquired with
  | .granted => true
  | _ => false

/-- The calls that were granted a token in a window of time. -/
def grantedBetween (start stop : ℚ) (run : List Acquisition) : Nat :=
  (run.filter fun acquisition =>
    acquisition.isGranted ∧ start ≤ acquisition.clock.now ∧
      acquisition.clock.now ≤ stop).length

section

variable {policy : EndpointPolicy}

/-- The granted calls are the requests that the bucket grants. -/
theorem grantTimes_acquisitions
    (positive : 0 < policy.rateLimitPerMinute) {cache : Cache}
    {bucket : TokenBucket ℚ} (persisted : Persisted policy cache bucket)
    (clocks : List Clock) :
    (((acquisitions policy cache clocks).filter
        Acquisition.isGranted).map fun acquisition =>
          acquisition.clock.now) =
      bucket.grantTimes policy.capacity policy.rate
        (clocks.map Clock.now) := by
  induction clocks generalizing cache bucket with
  | nil => rfl
  | cons clock later induction =>
      obtain ⟨kept, acquired⟩ :=
        acquireToken_persisted positive persisted clock
      have rest := induction kept
      rw [endOf] at acquired
      rw [acquisitions_cons, List.map_cons, TokenBucket.grantTimes]
      by_cases granted : Grants policy clock.now bucket
      · rw [if_pos granted] at acquired ⊢
        rw [List.filter_cons_of_pos (by
          rw [Acquisition.isGranted, acquired]), List.map_cons, rest]
        rfl
      · rw [if_neg granted] at acquired ⊢
        rw [List.filter_cons_of_neg (by
          simp [Acquisition.isGranted, acquired]), rest]
        rfl

theorem capacity_pos (positive : 0 < policy.rateLimitPerMinute) :
    1 ≤ policy.capacity ∧ 0 < policy.rate := by
  have room : 1 ≤ policy.capacity := by
    rw [EndpointPolicy.capacity]
    exact_mod_cast positive
  refine ⟨room, ?_⟩
  rw [EndpointPolicy.rate]
  exact div_pos (zero_lt_one.trans_le room) (by norm_num)

theorem waitSeconds_eq (policy : EndpointPolicy) (tokens : ℚ) :
    waitSeconds policy tokens = (1 - tokens) / policy.rate := by
  rw [waitSeconds, EndpointPolicy.rate, EndpointPolicy.capacity]

/-- The calls granted in a window are the grants of the bucket in it. -/
theorem grantedBetween_acquisitions
    (positive : 0 < policy.rateLimitPerMinute) {cache : Cache}
    {bucket : TokenBucket ℚ} (persisted : Persisted policy cache bucket)
    (start stop : ℚ) (clocks : List Clock) :
    grantedBetween start stop (acquisitions policy cache clocks) =
      bucket.grantsBetween policy.capacity policy.rate start stop
        (clocks.map Clock.now) := by
  have grants := grantTimes_acquisitions positive persisted clocks
  rw [TokenBucket.grantsBetween, ← grants, List.filter_map,
    List.length_map, List.filter_filter, grantedBetween]
  congr 1
  apply List.filter_congr
  intro acquisition _
  simp [and_comm]

/-- What a call of a run leaves behind. -/
structure Leaves (policy : EndpointPolicy) (acquisition : Acquisition)
    (bucket : TokenBucket ℚ) : Prop where
  persisted : Persisted policy acquisition.after bucket
  within : bucket.Within policy.capacity
  clock : bucket.clock = acquisition.clock.now
  refused : ∀ error retryAfter,
    acquisition.acquired = .refused error retryAfter →
      bucket.tokens < 1 ∧
        retryAfter = some (waitSeconds policy bucket.tokens)

/-- Every call of a run leaves a bucket within its capacity. -/
theorem leaves_of_mem
    (positive : 0 < policy.rateLimitPerMinute) {cache : Cache}
    {bucket : TokenBucket ℚ} (persisted : Persisted policy cache bucket)
    (within : bucket.Within policy.capacity) {clocks : List Clock} :
    ∀ acquisition ∈ acquisitions policy cache clocks,
      ∃ left, Leaves policy acquisition left := by
  obtain ⟨room, flows⟩ := capacity_pos positive
  induction clocks generalizing cache bucket with
  | nil =>
      intro acquisition isCall
      exact absurd isCall List.not_mem_nil
  | cons clock later induction =>
      obtain ⟨kept, acquired⟩ :=
        acquireToken_persisted positive persisted clock
      have stays := TokenBucket.within_ask (zero_le_one.trans room) flows.le
        clock.now within
      rw [acquisitions_cons, List.forall_mem_cons]
      refine ⟨⟨bucketAfter policy clock.now bucket, kept, stays,
        TokenBucket.ask_clock _ _, ?_⟩, induction kept stays⟩
      intro error retryAfter refused
      rw [acquired, endOf] at refused
      split_ifs at refused with granted
      cases refused
      exact ⟨TokenBucket.ask_tokens_lt_one granted, rfl⟩

/-- What a rate limit promises about a run of calls. -/
structure RateLimited (policy : EndpointPolicy) (run : List Acquisition) :
    Prop where
  /-- The persisted tokens stay in the bucket. -/
  inRange : ∀ acquisition ∈ run, ∃ bucket,
    Persisted policy acquisition.after bucket ∧
      0 ≤ bucket.tokens ∧ bucket.tokens ≤ policy.capacity
  /-- A window grants no more than a full bucket and its inflow. -/
  bounded : ∀ start length : ℚ, 0 ≤ length →
    (grantedBetween start (start + length) run : ℚ) ≤
      policy.capacity + length * policy.capacity / 60
  /-- A refusal tells after which time the next call is granted. -/
  exact : ∀ acquisition ∈ run, ∀ error retryAfter,
    acquisition.acquired = .refused error retryAfter →
      ∃ wait, retryAfter = some wait ∧ 0 < wait ∧
        ∀ next : Clock, acquisition.clock.now ≤ next.now →
          ((acquireToken acquisition.after policy next false).2 =
              .granted ↔
            acquisition.clock.now + wait ≤ next.now)

theorem endOf_eq_granted_iff (now : ℚ) (bucket : TokenBucket ℚ) :
    endOf policy now bucket = .granted ↔ Grants policy now bucket := by
  rw [endOf]
  split_ifs with granted
  · exact ⟨fun _ => granted, fun _ => rfl⟩
  · exact ⟨nofun, fun grants => absurd grants granted⟩

/-- The rate limit holds of every run of calls without sleep. -/
theorem acquisitions_rateLimited
    (positive : 0 < policy.rateLimitPerMinute) {cache : Cache}
    {bucket : TokenBucket ℚ} (persisted : Persisted policy cache bucket)
    (nonneg : 0 ≤ bucket.tokens) (full : bucket.tokens ≤ policy.capacity)
    {clocks : List Clock}
    (ordered : (clocks.map Clock.now).Pairwise (· ≤ ·)) :
    RateLimited policy (acquisitions policy cache clocks) := by
  obtain ⟨room, flows⟩ := capacity_pos positive
  have within : bucket.Within policy.capacity := ⟨nonneg, full⟩
  have leaves := @leaves_of_mem policy positive cache bucket persisted
    within clocks
  constructor
  case inRange =>
    intro acquisition isCall
    obtain ⟨left, leftBy⟩ := leaves acquisition isCall
    exact ⟨left, leftBy.persisted, leftBy.within.nonneg,
      leftBy.within.le⟩
  case bounded =>
    intro start length isLength
    have window : start ≤ start + length := le_add_of_nonneg_right isLength
    have bound := TokenBucket.grantsBetween_le (zero_le_one.trans room)
      flows.le window within ordered
    have inflow : policy.capacity + (start + length - start) * policy.rate =
        policy.capacity + length * policy.capacity / 60 := by
      rw [add_sub_cancel_left, EndpointPolicy.rate, mul_div_assoc]
    rw [grantedBetween_acquisitions positive persisted]
    exact bound.trans_eq inflow
  case exact =>
    intro acquisition isCall error retryAfter refused
    obtain ⟨left, leftBy⟩ := leaves acquisition isCall
    obtain ⟨short, isWait⟩ := leftBy.refused error retryAfter refused
    rw [waitSeconds_eq] at isWait
    refine ⟨_, isWait, div_pos (sub_pos.mpr short) flows, ?_⟩
    intro next later
    have elapsed := TokenBucket.grants_iff_elapsed room flows
      (leftBy.clock.trans_le later)
    rw [leftBy.clock] at elapsed
    have called :=
      (acquireToken_persisted positive leftBy.persisted next).2
    exact (called ▸ endOf_eq_granted_iff next.now left).trans elapsed

end

/-- An endpoint that may be asked twice a minute. -/
def slowEndpoint : EndpointPolicy where
  endpointId := text "openalex"
  baseUrl := text "https://api.openalex.org"
  rateLimitPerMinute := 2
  byteBudget := 0
  costBudgetUnits := 0
  licenseTermsSha256 := []
  attributionRequired := false
  attributionText := []
  retentionDays := 0

/-- A directory with one token left in the bucket. -/
def lastTokenCache : Cache :=
  { Cache.empty [text "cache"] with buckets := fun _ => some ⟨1, 0⟩ }

/-- A call at a time. -/
def callAt (now : ℚ) : Clock where
  opened := now
  now := now
  readings := []
  retrievedUtc := []

theorem lastTokenCache_persisted :
    Persisted slowEndpoint lastTokenCache ⟨1, 0⟩ := by
  have named : (rateStatePath lastTokenCache.directory
      slowEndpoint.endpointId).toBool = true := by
    decide
  cases isPath : rateStatePath lastTokenCache.directory
      slowEndpoint.endpointId with
  | error error =>
      rw [isPath] at named
      cases named
  | ok path => exact ⟨path, isPath, rfl⟩

theorem acquisitions_rateLimited_slow :
    RateLimited slowEndpoint
      (acquisitions slowEndpoint lastTokenCache
        [callAt 0, callAt 1, callAt 31]) :=
  acquisitions_rateLimited (by decide) lastTokenCache_persisted
    (by norm_num) (by norm_num [EndpointPolicy.capacity, slowEndpoint])
    (by norm_num [callAt])

end ScientificResourceLab.Knowledge
