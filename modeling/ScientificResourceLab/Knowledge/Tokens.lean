import ScientificResourceLab.Knowledge.Budgets
import Mathlib.Algebra.Order.BigOperators.Group.List

/-!
# Tokens and requests

A call that reaches the network takes one token, and then makes a request for
each attempt: the retries of `_fetch_with_retry` take no token of their own.
The cost budget is read only after the response has arrived.

So a run pays for its requests exactly when every call that reaches the
network finds cost units left and gets a first answer that is no transient
failure (`requests_paid_iff`).
-/

namespace ScientificResourceLab.Knowledge

open Python Contracts Steps

/-! ## One call -/

/-- An answer after which the transport is asked again. -/
def Answer.isTransient : Answer → Bool
  | .httpError status => Knowledge.isTransient status
  | .osError _ => true
  | _ => false

/--
A call reaches the network: it is allowed, it is not in the cache, and the
bucket grants a token.
-/
def Reaches (rules : NetlocRules) (registry : PolicyRegistry)
    (cache : Cache) (call : Call) : Prop :=
  ∃ request drained, prepare rules registry call = .ok request ∧
    readPayload cache request.key = .ok none ∧
    acquireToken cache request.policy call.clock call.rateLimitSleep =
      (drained, .granted)

theorem retryLoop_pos
    (policy : EndpointPolicy) (answers : Nat → Answer)
    (left attempt : Nat) :
    1 ≤ (retryLoop policy answers left attempt).1 := by
  unfold retryLoop
  cases answers attempt with
  | httpError status =>
      cases left with
      | zero => exact le_rfl
      | succ left =>
          dsimp only
          split
          · exact Nat.le_add_left 1 _
          · exact le_rfl
  | osError message =>
      cases left with
      | zero => exact le_rfl
      | succ left => exact Nat.le_add_left 1 _
  | _ => exact le_rfl

/-- One request is made exactly when the first answer is not transient. -/
theorem fetchWithRetry_requests
    (policy : EndpointPolicy) (answers : Nat → Answer) :
    (fetchWithRetry policy answers).1 = 1 ↔
      (answers 0).isTransient = false := by
  have more := retryLoop_pos policy answers 1 1
  unfold fetchWithRetry maxRetries retryLoop
  cases answers 0 with
  | httpError status =>
      cases transient : isTransient status with
      | true =>
          simp only [transient, if_true, Answer.isTransient]
          constructor
          · intro single
            change (retryLoop policy answers 1 1).1 + 1 = 1 at single
            omega
          · rintro ⟨⟩
      | false => simp [transient, Answer.isTransient]
  | osError message =>
      simp only [Answer.isTransient]
      constructor
      · intro single
        change (retryLoop policy answers 1 1).1 + 1 = 1 at single
        omega
      · rintro ⟨⟩
  | _ => simp [Answer.isTransient]

/-- A call that reaches the network takes a token and asks the transport. -/
theorem fetch_reaches
    {rules : NetlocRules} {registry : PolicyRegistry} {cache : Cache}
    {call : Call} (reaches : Reaches rules registry cache call) :
    (fetch rules registry cache call).tokens = 1 ∧
      ∃ policy, (fetch rules registry cache call).requests =
        (fetchWithRetry policy call.answers).1 := by
  obtain ⟨request, drained, prepared, missing, granted⟩ := reaches
  simp only [fetch, prepared, missing, fetchUncached, granted]
  split
  · next requests _ answered =>
      exact ⟨rfl, request.policy, by rw [answered]⟩
  · next requests _ answered =>
      exact ⟨rfl, request.policy, by rw [answered]⟩

/-- A call that does not reach the network takes and asks nothing. -/
theorem fetch_not_reaches
    {rules : NetlocRules} {registry : PolicyRegistry} {cache : Cache}
    {call : Call} (stays : ¬ Reaches rules registry cache call) :
    (fetch rules registry cache call).tokens = 0 ∧
      (fetch rules registry cache call).requests = 0 := by
  unfold fetch
  cases prepared : prepare rules registry call with
  | error error => exact ⟨rfl, rfl⟩
  | ok request =>
      dsimp only
      split
      · exact ⟨rfl, rfl⟩
      · exact ⟨rfl, rfl⟩
      · next missing =>
          unfold fetchUncached
          rcases asked : acquireToken cache request.policy call.clock
            call.rateLimitSleep with ⟨drained, _ | error | _⟩
          · exact absurd ⟨request, drained, prepared, missing, asked⟩ stays
          · exact ⟨rfl, rfl⟩
          · exact ⟨rfl, rfl⟩

/-- A call makes at least as many requests as it takes tokens. -/
theorem tokens_le_requests
    (rules : NetlocRules) (registry : PolicyRegistry) (cache : Cache)
    (call : Call) :
    (fetch rules registry cache call).tokens ≤
      (fetch rules registry cache call).requests := by
  by_cases reaches : Reaches rules registry cache call
  · obtain ⟨tokens, policy, requests⟩ := fetch_reaches reaches
    rw [tokens, requests]
    exact retryLoop_pos policy call.answers maxRetries 0
  · rw [(fetch_not_reaches reaches).1]
    exact Nat.zero_le _

/-! ## Runs -/

/-- The tokens that a run takes for an endpoint. -/
def tokensFor (endpointId : Text) (run : List Event) : Nat :=
  ((run.filter fun event => event.call.endpointId = endpointId).map
    fun event => event.fetched.tokens).sum

/-- The requests that a run makes for an endpoint. -/
def requestsFor (endpointId : Text) (run : List Event) : Nat :=
  ((run.filter fun event => event.call.endpointId = endpointId).map
    fun event => event.fetched.requests).sum

/-- The endpoint of a call has no cost units left. -/
def Exhausted (registry : PolicyRegistry) (cache : Cache)
    (endpointId : Text) : Prop :=
  ∃ policy path budget, registry.get endpointId = .ok policy ∧
    budgetStatePath cache.directory policy.endpointId = .ok path ∧
    loadBudgetState cache path policy = .ok budget ∧
    budget.costUnitsRemaining = 0

/--
Every request of a run is paid for: at no time more requests than tokens,
and no request for an endpoint whose cost budget is exhausted.
-/
structure Paid (registry : PolicyRegistry) (run : List Event) : Prop where
  tokens : ∀ count endpointId,
    requestsFor endpointId (run.take count) ≤
      tokensFor endpointId (run.take count)
  exhausted : ∀ event ∈ run,
    Exhausted registry event.before event.call.endpointId →
    event.fetched.requests = 0

/--
The calls of a run that reach the network find cost units left and get a
first answer that is no transient failure.
-/
def Frugal (rules : NetlocRules) (registry : PolicyRegistry)
    (run : List Event) : Prop :=
  ∀ event ∈ run, Reaches rules registry event.before event.call →
    ¬ Exhausted registry event.before event.call.endpointId ∧
      (event.call.answers 0).isTransient = false

theorem fetched_of_mem_events
    {rules : NetlocRules} {registry : PolicyRegistry} {cache : Cache}
    {calls : List Call} {event : Event}
    (member : event ∈ events rules registry cache calls) :
    event.fetched = fetch rules registry event.before event.call := by
  induction calls generalizing cache with
  | nil => cases member
  | cons call rest induction =>
      rw [events] at member
      rcases List.mem_cons.mp member with rfl | later
      · rfl
      · exact induction later

/-- Requests are as many as tokens when they are at most as many. -/
theorem requests_eq_tokens_of_sum_le
    {run : List Event}
    (least : ∀ event ∈ run, event.fetched.tokens ≤ event.fetched.requests)
    (most : (run.map fun event => event.fetched.requests).sum ≤
      (run.map fun event => event.fetched.tokens).sum) :
    ∀ event ∈ run, event.fetched.requests = event.fetched.tokens := by
  induction run with
  | nil => simp
  | cons first rest induction =>
      simp only [List.map_cons, List.sum_cons] at most
      have leastRest := fun event member =>
        least event (List.mem_cons_of_mem first member)
      have restSums :
          (rest.map fun event => event.fetched.tokens).sum ≤
            (rest.map fun event => event.fetched.requests).sum :=
        List.sum_le_sum leastRest
      have firstLeast := least first List.mem_cons_self
      intro event member
      rcases List.mem_cons.mp member with rfl | later
      · omega
      · exact induction leastRest (by omega) event later

/--
A run pays for every request exactly when each call that reaches the network
finds cost units left and is not answered by a transient failure first.
-/
theorem requests_paid_iff
    (rules : NetlocRules) (registry : PolicyRegistry) (cache : Cache)
    (calls : List Call) :
    Paid registry (events rules registry cache calls) ↔
      Frugal rules registry (events rules registry cache calls) := by
  constructor
  · intro paid event member reaches
    have isFetch := fetched_of_mem_events member
    obtain ⟨tokens, policy, requests⟩ := fetch_reaches reaches
    have positive := retryLoop_pos policy event.call.answers maxRetries 0
    constructor
    · intro exhausted
      have none := paid.exhausted event member exhausted
      rw [isFetch, requests] at none
      unfold fetchWithRetry at none
      omega
    · have whole := paid.tokens
        (events rules registry cache calls).length event.call.endpointId
      rw [List.take_length] at whole
      have same := requests_eq_tokens_of_sum_le (fun other inRun => by
          rw [fetched_of_mem_events (List.mem_of_mem_filter inRun)]
          exact tokens_le_requests rules registry other.before other.call)
        whole event (List.mem_filter.mpr ⟨member, by simp⟩)
      rw [isFetch, tokens, requests] at same
      exact (fetchWithRetry_requests policy event.call.answers).mp same
  · intro frugal
    have equal : ∀ event ∈ events rules registry cache calls,
        event.fetched.requests = event.fetched.tokens := by
      intro event member
      rw [fetched_of_mem_events member]
      by_cases reaches : Reaches rules registry event.before event.call
      · obtain ⟨tokens, policy, requests⟩ := fetch_reaches reaches
        rw [tokens, requests]
        exact (fetchWithRetry_requests policy event.call.answers).mpr
          (frugal event member reaches).2
      · rw [(fetch_not_reaches reaches).1, (fetch_not_reaches reaches).2]
    constructor
    · intro count endpointId
      unfold requestsFor tokensFor
      apply List.sum_le_sum
      intro event member
      exact (equal event (List.mem_of_mem_take
        (List.mem_of_mem_filter member))).le
    · intro event member exhausted
      rw [fetched_of_mem_events member]
      by_cases reaches : Reaches rules registry event.before event.call
      · exact absurd exhausted (frugal event member reaches).1
      · exact (fetch_not_reaches reaches).2

/-! ## A retried request and an exhausted budget -/

/-- A call for a path, with the transport's answers. -/
def sampleCall (path : String) (answers : Nat → Answer) : Call :=
  { endpointId := text "openalex"
    path := text path
    params := []
    rateLimitSleep := false
    clock := ⟨0, 0, [], text "2026-07-28T00:00:00Z"⟩
    answers := answers }

def sampleResponse : Answer :=
  .response [7] (text "https") (text "api.openalex.org")

/-- `429`, then a response; and a second path once the unit is spent. -/
def sampleCalls : List Call :=
  [sampleCall "/works" fun attempt =>
      if attempt = 0 then .httpError 429 else sampleResponse,
    sampleCall "/authors" fun _ => sampleResponse]

/-- The retry of the first call takes no token. -/
theorem sampleCalls_unpaid :
    ¬ Paid (singleRegistry (text "openalex"))
      (events lenientRules (singleRegistry (text "openalex"))
        (Cache.empty [text "cache"]) sampleCalls) := by
  intro paid
  have counted := paid.tokens 1 (text "openalex")
  have more :
      tokensFor (text "openalex")
          ((events lenientRules (singleRegistry (text "openalex"))
            (Cache.empty [text "cache"]) sampleCalls).take 1) <
        requestsFor (text "openalex")
          ((events lenientRules (singleRegistry (text "openalex"))
            (Cache.empty [text "cache"]) sampleCalls).take 1) := by
    decide +kernel
  exact absurd counted (Nat.not_le_of_lt more)

end ScientificResourceLab.Knowledge
