import ScientificResourceLab.Knowledge.Retriever

/-!
# Budgets over whole runs

A run is a list of calls on one cache directory.  `fetch_moved` says what one
call can do to the persisted budgets and payloads: nothing, or charge one
endpoint for one payload.  From it follows `Balanced`: for every endpoint of
the registry, what remains and what was spent add up to at most the budget of
its policy.

All of it rests on where the state files are.  The identifier of an endpoint
is part of their names, and one that climbs out of its directory, `a/../b`,
puts the bucket and the budget in one file (`climbingEndpoint_overdraws`).
-/

namespace ScientificResourceLab.Knowledge

open Python Contracts Steps

/-! ## Runs -/

/-- One call of a run with the cache it found and its effects. -/
structure Event where
  call : Call
  before : Cache
  fetched : Fetched

/-- The events of a run of calls. -/
def events (rules : NetlocRules) (registry : PolicyRegistry) :
    Cache → List Call → List Event
  | _, [] => []
  | cache, call :: rest =>
      let fetched := fetch rules registry cache call
      ⟨call, cache, fetched⟩ :: events rules registry fetched.cache rest

/-- The cache after a run of calls. -/
def afterCalls (rules : NetlocRules) (registry : PolicyRegistry)
    (cache : Cache) (calls : List Call) : Cache :=
  calls.foldl
    (fun cache call => (fetch rules registry cache call).cache) cache

/-- The payload that a call fetched from the network and returned. -/
def Event.uncached (event : Event) : Option Bytes :=
  match event.fetched.outcome with
  | .returned receipt payload =>
      if receipt.cached then none else some payload
  | _ => none

/-- The payloads that an endpoint's uncached fetches returned. -/
def spentPayloads (endpointId : Text) (run : List Event) : List Bytes :=
  (run.filter fun event => event.call.endpointId = endpointId).filterMap
    Event.uncached

/-- The sum of the lengths of payloads. -/
def totalBytes (payloads : List Bytes) : Nat :=
  (payloads.map List.length).sum

/-! ## Budget files -/

/--
The state files of some endpoints are kept apart: the budget of one is in the
file of no bucket and of no other budget.
-/
def KeptApart (directory : Path) (endpoints : Text → Prop) : Prop :=
  ∀ first second path, endpoints first → endpoints second →
    budgetStatePath directory first = .ok path →
      rateStatePath directory second ≠ .ok path ∧
        (budgetStatePath directory second = .ok path → first = second)

/-- The file name of a state file. -/
def stateName (kind : String) (endpointId : Text) (encoded : Bytes) :
    Text :=
  text kind ++ (endpointId ++
    (text "-" ++ (sha256 encoded).take 32 ++ text ".json"))

theorem stateName_injective
    {kind : String} {first second : Text} {firstBytes secondBytes : Bytes}
    (same : stateName kind first firstBytes =
      stateName kind second secondBytes) : first = second := by
  have lengths : ∀ content : Bytes,
      (text "-" ++ (sha256 content).take 32 ++
        text ".json").length = 38 := by
    intro content
    simp [(sha256_hex content).1]
    decide
  have tails := List.append_cancel_left same
  exact (List.append_inj' tails (by rw [lengths, lengths])).1

theorem slash_not_mem_stateName
    {kind : String} (plain : codePoint '/' ∉ text kind)
    {endpointId : Text} (noSlash : codePoint '/' ∉ endpointId)
    (encoded : Bytes) :
    codePoint '/' ∉ stateName kind endpointId encoded := by
  have noHex : codePoint '/' ∉ (sha256 encoded).take 32 := by
    intro member
    have isHex := (sha256_hex encoded).2 _ (List.mem_of_mem_take member)
    exact absurd isHex (by decide)
  simp only [stateName, List.mem_append, not_or]
  exact ⟨plain, noSlash, ⟨by decide, noHex⟩, by decide⟩

/-- Without a slash the file is in the directory itself. -/
theorem statePath_of_noSlash
    {kind : String} {letter : CodePoint} {letters : Text}
    (starts : text kind = letter :: letters) (notDot : letter ≠ codePoint '.')
    (plain : codePoint '/' ∉ text kind)
    {directory path : Path} {endpointId : Text}
    (noSlash : codePoint '/' ∉ endpointId)
    (isPath : statePath kind directory endpointId = .ok path) :
    ∃ encoded, path =
      absPath directory ++ [stateName kind endpointId encoded] := by
  unfold statePath at isPath
  split at isPath
  · cases isPath
  · next encoded _ =>
      cases isPath
      refine ⟨encoded, ?_⟩
      have noDot (other : Text) (isDot : other.head? = some (codePoint '.')) :
          stateName kind endpointId encoded ≠ other := by
        rintro rfl
        rw [stateName, starts] at isDot
        exact notDot (Option.some.inj isDot)
      have nonempty : stateName kind endpointId encoded ≠ [] := by
        rw [stateName, starts]
        exact List.cons_ne_nil _ _
      have parts : pathParts (stateName kind endpointId encoded) =
          [stateName kind endpointId encoded] := by
        rw [pathParts, List.splitOn_eq_singleton
          (slash_not_mem_stateName plain noSlash encoded)]
        exact List.filter_cons_of_pos
          (decide_eq_true ⟨nonempty, noDot (text ".") rfl⟩)
      change absPath (directory ++
        pathParts (stateName kind endpointId encoded)) = _
      rw [parts, absPath, List.foldl_concat, absPath,
        if_neg (noDot currentName rfl), if_neg (noDot parentName rfl)]

theorem keptApart_of_noSlash
    {directory : Path} {endpoints : Text → Prop}
    (noSlash : ∀ endpointId, endpoints endpointId →
      codePoint '/' ∉ endpointId) :
    KeptApart directory endpoints := by
  have budgets {endpointId : Text} {path : Path}
      (isEndpoint : endpoints endpointId)
      (isPath : budgetStatePath directory endpointId = .ok path) :
      ∃ encoded, path =
        absPath directory ++ [stateName "budget-" endpointId encoded] :=
    statePath_of_noSlash rfl (by decide)
      (by decide) (noSlash endpointId isEndpoint) isPath
  intro first second path isFirst isSecond ofFirst
  obtain ⟨firstBytes, rfl⟩ := budgets isFirst ofFirst
  constructor
  · intro ofSecond
    obtain ⟨secondBytes, same⟩ := statePath_of_noSlash rfl
      (by decide) (by decide) (noSlash second isSecond) ofSecond
    have heads := congrArg List.head?
      (List.cons.inj (List.append_cancel_left same)).1
    exact absurd (Option.some.inj heads) (by decide)
  · intro ofSecond
    obtain ⟨secondBytes, same⟩ := budgets isSecond ofSecond
    exact stateName_injective (List.cons.inj
      (List.append_cancel_left same)).1

/-- A written budget is read back. -/
theorem loadBudgetState_saved
    {cache saved : Cache} {path : Path} {budget : BudgetState}
    (wrote : saveBudgetState cache path budget = .ok saved)
    (policy : EndpointPolicy) :
    loadBudgetState saved path policy = .ok budget := by
  unfold saveBudgetState at wrote
  split at wrote
  · cases wrote
  · next content written =>
      cases wrote
      have ordered :
          [text "bytes_remaining", text "cost_units_remaining"].Pairwise
            (· < ·) := by
        decide
      have plain : budget.document.Plain :=
        ⟨⟨trivial, trivial, trivial⟩, ordered⟩
      have readBack :=
        parseText_dumpText true plain written (.inl rfl)
      rw [List.append_nil] at readBack
      simp only [loadBudgetState, Function.update_self, readBack]
      rfl

/-- Writing one budget leaves the other files as they are. -/
theorem saveBudgetState_eq_ok
    {cache saved : Cache} {path : Path} {budget : BudgetState}
    (wrote : saveBudgetState cache path budget = .ok saved) :
    saved.directory = cache.directory ∧
      ∀ other, other ≠ path → saved.budgets other = cache.budgets other := by
  unfold saveBudgetState at wrote
  split at wrote
  · cases wrote
  · cases wrote
    refine ⟨rfl, fun other different => ?_⟩
    exact Function.update_of_ne different _ _

/-- The load of a budget depends only on its file. -/
theorem loadBudgetState_congr
    {first second : Cache} {path : Path}
    (same : first.budgets path = second.budgets path)
    (policy : EndpointPolicy) :
    loadBudgetState first path policy =
      loadBudgetState second path policy := by
  simp only [loadBudgetState, same]

/-! ## What one call can do -/

/-- The refusals that leave budgets and payloads alone. -/
def isRefusal (kind : ErrorKind) : Bool :=
  kind = .networkPolicyError || kind = .rateLimitedError ||
    kind = .resourceLimitError || kind = .retrievalTimeoutError

/-- Budgets, payloads and metadata are the same before and after. -/
structure SameRecords (first second : Cache) : Prop where
  directory : second.directory = first.directory
  budgets : second.budgets = first.budgets
  payloads : second.payloads = first.payloads
  metas : second.metas = first.metas

theorem SameRecords.refl (cache : Cache) : SameRecords cache cache :=
  ⟨rfl, rfl, rfl, rfl⟩

/-- No budget is in the file of an endpoint's bucket. -/
def Unmixed (cache : Cache) (endpointId : Text) : Prop :=
  ∀ path, rateStatePath cache.directory endpointId = .ok path →
    cache.budgets path = none

/-- Asking for a token writes the bucket only. -/
theorem acquireToken_same
    {cache : Cache} {policy : EndpointPolicy}
    (unmixed : Unmixed cache policy.endpointId) (clock : Clock)
    (sleep : Bool) :
    SameRecords cache (acquireToken cache policy clock sleep).1 := by
  unfold acquireToken
  split
  · exact .refl cache
  · split
    · exact .refl cache
    · next path isPath =>
        refine ⟨rfl, ?_, rfl, rfl⟩
        change Function.update cache.budgets path none = cache.budgets
        rw [← unmixed path isPath, Function.update_eq_self]

/-- One endpoint was charged for one payload. -/
structure Charged
    (registry : PolicyRegistry) (cache : Cache) (call : Call)
    (fetched : Fetched) : Prop where
  charge : ∃ policy path budget charged drained paid payload,
    registry.get call.endpointId = .ok policy ∧
      budgetStatePath cache.directory policy.endpointId = .ok path ∧
      loadBudgetState cache path policy = .ok budget ∧
      chargeBudget policy payload budget = .ok charged ∧
      saveBudgetState drained path charged = .ok paid ∧
      drained.budgets = cache.budgets ∧
      fetched.cache.directory = cache.directory ∧
      fetched.cache.budgets = paid.budgets ∧
      ∀ receipt returned,
        fetched.outcome = .returned receipt returned → returned = payload
  noRefusal : ∀ error, fetched.outcome = .raised error →
    isRefusal error.kind = false

/-- What one call can do to budgets and payloads. -/
def Moved
    (registry : PolicyRegistry) (cache : Cache) (call : Call)
    (fetched : Fetched) : Prop :=
  (SameRecords cache fetched.cache ∧
    ∀ receipt payload, fetched.outcome = .returned receipt payload →
      receipt.cached = true) ∨
  Charged registry cache call fetched

/-- A call that raised before it wrote anything. -/
theorem moved_of_raised
    {registry : PolicyRegistry} {cache : Cache} {call : Call}
    {fetched : Fetched} {error : PyError}
    (same : SameRecords cache fetched.cache)
    (stopped : fetched.outcome = .raised error) :
    Moved registry cache call fetched := by
  refine .inl ⟨same, ?_⟩
  intro receipt payload returned
  rw [stopped] at returned
  cases returned

abbrev NoRefusal (error : PyError) : Prop :=
  isRefusal error.kind = false

theorem dumps_raises (value : Json) : RaisesOnly NoRefusal (dumps value) := by
  unfold dumps
  split
  · exact raisesOnly_error rfl
  · split
    · exact raisesOnly_error rfl
    · exact raisesOnly_ok _

theorem digestText_raises (value : Text) :
    RaisesOnly NoRefusal (digestText value) := by
  unfold digestText
  split
  · exact raisesOnly_error rfl
  · exact raisesOnly_ok _

theorem paramText_raises (value : Json) :
    RaisesOnly NoRefusal (paramText value) := by
  unfold paramText
  split
  · split
    · exact raisesOnly_ok _
    · exact raisesOnly_error rfl
  · exact raisesOnly_ok _

theorem cleanParam_raises (member : Text × Json) :
    RaisesOnly NoRefusal (cleanParam member) := by
  unfold cleanParam
  split
  · exact raisesOnly_ok _
  · exact raisesOnly_ok _
  · exact raisesOnly_error rfl
  · exact raisesOnly_error rfl
  · apply raisesOnly_bind (paramText_raises _)
    intro shown _
    exact raisesOnly_ok _

/-- The errors of a receipt are no refusals. -/
theorem buildReceipt_raises
    (policy : EndpointPolicy) (url : Text) (params : Params)
    (payload : Bytes) (cached : Bool) (retrievedUtc : Text) :
    RaisesOnly NoRefusal
      (buildReceipt policy url params payload cached retrievedUtc) := by
  unfold buildReceipt
  apply raisesOnly_bind (digestText_raises url)
  intro urlDigest _
  have params_raises : RaisesOnly NoRefusal (canonicalParams params) := by
    apply raisesOnly_bind
    · exact raisesOnly_mapM fun member _ => cleanParam_raises member
    · intro clean _
      exact dumps_raises _
  apply raisesOnly_bind params_raises
  intro paramsBlob _
  apply raisesOnly_bind (dumps_raises _)
  intro idBlob _
  exact raisesOnly_ok _

/-- A charged budget was large enough, and lost the payload and a unit. -/
theorem chargeBudget_eq_ok
    {policy : EndpointPolicy} {payload : Bytes}
    {budget charged : BudgetState}
    (paid : chargeBudget policy payload budget = .ok charged) :
    payload.length ≤ budget.bytesRemaining ∧
      1 ≤ budget.costUnitsRemaining ∧
      charged = ⟨budget.bytesRemaining - payload.length,
        budget.costUnitsRemaining - 1⟩ := by
  simp only [chargeBudget, bind_eq_ok_iff, refuseIf_eq_ok_iff,
    pure_eq_ok_iff, not_lt] at paid
  obtain ⟨_, enoughBytes, _, enoughCost, rfl⟩ := paid
  exact ⟨enoughBytes, enoughCost, rfl⟩

theorem writePayload_states
    (cache : Cache) (key : Text) (payload : Bytes) (metadata : Json) :
    (writePayload cache key payload metadata).1.directory =
        cache.directory ∧
      (writePayload cache key payload metadata).1.budgets =
        cache.budgets := by
  unfold writePayload
  dsimp only
  split
  · exact ⟨rfl, rfl⟩
  · exact ⟨rfl, rfl⟩

theorem writePayload_raises
    (cache : Cache) (key : Text) (payload : Bytes) (metadata : Json) :
    RaisesOnly NoRefusal (writePayload cache key payload metadata).2 := by
  unfold writePayload
  dsimp only
  split
  · exact raisesOnly_error rfl
  · exact raisesOnly_ok _

/-- An allowed request has the policy of its endpoint. -/
theorem prepare_eq_ok
    {rules : NetlocRules} {registry : PolicyRegistry} {call : Call}
    {request : Request}
    (prepared : prepare rules registry call = .ok request) :
    registry.get call.endpointId = .ok request.policy := by
  simp only [prepare, bind_eq_ok_iff, pure_eq_ok_iff] at prepared
  obtain ⟨policy, found, _, _, _, _, _, _, rfl⟩ := prepared
  exact found

theorem PolicyRegistry.get_eq_ok
    {registry : PolicyRegistry} {endpointId : Text}
    {policy : EndpointPolicy}
    (found : registry.get endpointId = .ok policy) :
    policy ∈ registry.policies ∧ policy.endpointId = endpointId := by
  unfold PolicyRegistry.get at found
  split at found
  · next other isFound =>
      cases found
      refine ⟨List.mem_of_find?_eq_some isFound, ?_⟩
      simpa using List.find?_some isFound
  · cases found

theorem charged_of_paid
    {registry : PolicyRegistry} {cache drained paid : Cache}
    {call : Call} {policy : EndpointPolicy} {payload : Bytes}
    {fetched : Fetched}
    (found : registry.get call.endpointId = .ok policy)
    (same : SameRecords cache drained)
    (pays : payBudget drained policy payload = .ok paid)
    (states : fetched.cache.directory = paid.directory ∧
      fetched.cache.budgets = paid.budgets)
    (returns : ∀ receipt returned,
      fetched.outcome = .returned receipt returned → returned = payload)
    (noRefusal : ∀ error, fetched.outcome = .raised error →
      isRefusal error.kind = false) :
    Charged registry cache call fetched := by
  simp only [payBudget, bind_eq_ok_iff] at pays
  obtain ⟨path, isPath, budget, loaded, charged, charges, saved⟩ := pays
  rw [loadBudgetState_congr (congrFun same.budgets path)] at loaded
  rw [same.directory] at isPath
  have directory : fetched.cache.directory = cache.directory :=
    states.1.trans ((saveBudgetState_eq_ok saved).1.trans same.directory)
  exact ⟨⟨policy, path, budget, charged, drained, paid, payload, found,
    isPath, loaded, charges, saved, same.budgets, directory, states.2,
    returns⟩, noRefusal⟩

/-- Settling a response charges its endpoint, or raises at no cost. -/
theorem settle_moved
    {registry : PolicyRegistry} {cache drained : Cache} {call : Call}
    {request : Request} {payload : Bytes}
    (found : registry.get call.endpointId = .ok request.policy)
    (same : SameRecords cache drained) (tokens requests : Nat) :
    Moved registry cache call
      ⟨(settle drained request call payload).1, tokens, requests,
        (settle drained request call payload).2⟩ := by
  unfold settle
  cases pays : payBudget drained request.policy payload with
  | error error => exact moved_of_raised same rfl
  | ok paid =>
      have states := writePayload_states paid request.key payload
        (payloadMeta request.policy request.key payload)
      have raises := writePayload_raises paid request.key payload
        (payloadMeta request.policy request.key payload)
      rcases writes : writePayload paid request.key payload
        (payloadMeta request.policy request.key payload) with
        ⟨stored, error | ⟨⟨⟩⟩⟩
      · rw [writes] at states raises
        simp only [writes]
        refine .inr (charged_of_paid found same pays states ?_ ?_)
        · rintro receipt returned ⟨⟩
        · rintro _ ⟨⟩
          exact raises error rfl
      · rw [writes] at states
        simp only [writes]
        have built := buildReceipt_raises request.policy request.url
          call.params payload false call.clock.retrievedUtc
        refine .inr (charged_of_paid found same pays states ?_ ?_)
        · intro receipt returned outcome
          simp only [receiptOutcome] at outcome
          split at outcome
          · cases outcome
            rfl
          · cases outcome
        · intro error outcome
          simp only [receiptOutcome] at outcome
          split at outcome
          · cases outcome
          · next other isOther =>
              cases outcome
              exact built _ isOther

theorem buildReceipt_cached
    {policy : EndpointPolicy} {url : Text} {params : Params}
    {payload : Bytes} {cached : Bool} {retrievedUtc : Text}
    {receipt : QueryReceipt}
    (built : buildReceipt policy url params payload cached retrievedUtc =
      .ok receipt) :
    receipt.cached = cached := by
  simp only [buildReceipt, bind_eq_ok_iff, pure_eq_ok_iff] at built
  obtain ⟨_, _, _, _, _, _, rfl⟩ := built
  rfl

/-- A call leaves budgets and payloads alone, or charges one endpoint. -/
theorem fetch_moved
    (rules : NetlocRules) {registry : PolicyRegistry} {cache : Cache}
    {call : Call}
    (unmixed : ∀ policy, registry.get call.endpointId = .ok policy →
      Unmixed cache call.endpointId) :
    Moved registry cache call (fetch rules registry cache call) := by
  unfold fetch
  cases prepared : prepare rules registry call with
  | error error => exact moved_of_raised (.refl cache) rfl
  | ok request =>
      dsimp only
      split
      · exact moved_of_raised (.refl cache) rfl
      · next payload _ =>
          refine .inl ⟨.refl cache, ?_⟩
          intro receipt returned outcome
          simp only [receiptOutcome] at outcome
          split at outcome
          · next built =>
              cases outcome
              exact buildReceipt_cached built
          · cases outcome
      · unfold fetchUncached
        have found := prepare_eq_ok prepared
        have kept : Unmixed cache request.policy.endpointId := by
          rw [(PolicyRegistry.get_eq_ok found).2]
          exact unmixed request.policy found
        have same := acquireToken_same kept call.clock call.rateLimitSleep
        rcases asked : acquireToken cache request.policy call.clock
          call.rateLimitSleep with ⟨drained, _ | error | _⟩
        · rw [asked] at same
          dsimp only
          split
          · exact moved_of_raised same rfl
          · exact settle_moved found same _ _
        · rw [asked] at same
          exact moved_of_raised same rfl
        · rw [asked] at same
          refine .inl ⟨same, ?_⟩
          rintro receipt payload ⟨⟩

/-! ## Remaining and spent budgets -/

/-- Every budget that is loaded is not negative. -/
def Solvent (cache : Cache) : Prop :=
  ∀ path policy, ∃ budget,
    loadBudgetState cache path policy = .ok budget ∧
      0 ≤ budget.bytesRemaining ∧ 0 ≤ budget.costUnitsRemaining

/--
What remains of an endpoint's budgets and what was spent are together at most
the budget of the policy.
-/
def Balanced (cache : Cache) (policy : EndpointPolicy)
    (spent : List Bytes) : Prop :=
  match budgetStatePath cache.directory policy.endpointId with
  | .error _ => spent = []
  | .ok path =>
      ∃ budget, loadBudgetState cache path policy = .ok budget ∧
        budget.bytesRemaining + totalBytes spent ≤ policy.byteBudget ∧
        budget.costUnitsRemaining + spent.length ≤ policy.costBudgetUnits

theorem balanced_congr
    {first second : Cache} {policy : EndpointPolicy} {spent : List Bytes}
    (balanced : Balanced first policy spent)
    (directory : second.directory = first.directory)
    (same : ∀ path,
      budgetStatePath first.directory policy.endpointId = .ok path →
        second.budgets path = first.budgets path) :
    Balanced second policy spent := by
  unfold Balanced at balanced ⊢
  rw [directory]
  split
  · next isError => rwa [isError] at balanced
  · next path isPath =>
      rw [isPath] at balanced
      rwa [loadBudgetState_congr (same path isPath)]

theorem balanced_empty (directory : Path) (policy : EndpointPolicy) :
    Balanced (Cache.empty directory) policy [] := by
  unfold Balanced
  split
  · rfl
  · exact ⟨policy.fullBudget, rfl,
      by simp [totalBytes, EndpointPolicy.fullBudget],
      by simp [EndpointPolicy.fullBudget]⟩

/-- The registry returns the policies it has. -/
theorem PolicyRegistry.get_of_mem
    {registry : PolicyRegistry} {policy : EndpointPolicy}
    (member : policy ∈ registry.policies) :
    registry.get policy.endpointId = .ok policy := by
  unfold PolicyRegistry.get
  split
  · next other isFound =>
      have sameId : other.endpointId = policy.endpointId := by
        simpa using List.find?_some isFound
      rw [List.inj_on_of_nodup_map registry.distinct
        (List.mem_of_find?_eq_some isFound) member sameId]
  · next notFound =>
      rw [List.find?_eq_none] at notFound
      exact absurd (decide_eq_true rfl) (notFound policy member)

theorem Event.uncached_eq_some
    {event : Event} {payload : Bytes}
    (found : event.uncached = some payload) :
    ∃ receipt, event.fetched.outcome = .returned receipt payload ∧
      receipt.cached = false := by
  unfold Event.uncached at found
  split at found
  · next receipt other outcome =>
      split at found
      · cases found
      · next notCached =>
          cases found
          exact ⟨receipt, outcome, eq_false_of_ne_true notCached⟩
  · cases found

theorem spentPayloads_single (endpointId : Text) (event : Event) :
    spentPayloads endpointId [event] =
      if event.call.endpointId = endpointId then event.uncached.toList
      else [] := by
  unfold spentPayloads
  split
  · next same =>
      cases found : event.uncached <;> simp [same, found]
  · next different => simp [different]

theorem spentPayloads_cons
    (endpointId : Text) (event : Event) (run : List Event) :
    spentPayloads endpointId (event :: run) =
      spentPayloads endpointId [event] ++ spentPayloads endpointId run := by
  rw [← List.singleton_append, spentPayloads, List.filter_append,
    List.filterMap_append]
  rfl

theorem balanced_charged
    {cache drained paid after : Cache} {policy : EndpointPolicy}
    {path : Path} {spent : List Bytes} {payload : Bytes}
    {budget charged : BudgetState} {added : Option Bytes}
    (balanced : Balanced cache policy spent)
    (isPath : budgetStatePath cache.directory policy.endpointId = .ok path)
    (loaded : loadBudgetState cache path policy = .ok budget)
    (charges : chargeBudget policy payload budget = .ok charged)
    (saved : saveBudgetState drained path charged = .ok paid)
    (directory : after.directory = cache.directory)
    (budgets : after.budgets = paid.budgets)
    (adds : ∀ returned, added = some returned → returned = payload) :
    Balanced after policy (spent ++ added.toList) := by
  unfold Balanced at balanced ⊢
  rw [directory]
  simp only [isPath] at balanced ⊢
  obtain ⟨found, isFound, bytes, cost⟩ := balanced
  rw [loaded] at isFound
  cases isFound
  obtain ⟨-, -, rfl⟩ := chargeBudget_eq_ok charges
  have reloaded : loadBudgetState after path policy = _ :=
    (loadBudgetState_congr (congrFun budgets path) policy).trans
      (loadBudgetState_saved saved policy)
  have addedBytes : totalBytes added.toList ≤ payload.length := by
    cases isAdded : added with
    | none => simp [totalBytes]
    | some returned =>
        rw [adds returned isAdded]
        simp [totalBytes]
  have addedCost : added.toList.length ≤ 1 := by
    cases added <;> simp
  have total : totalBytes (spent ++ added.toList) =
      totalBytes spent + totalBytes added.toList := by
    simp [totalBytes]
  refine ⟨_, reloaded, ?_, ?_⟩
  · rw [total]
    simp only
    omega
  · rw [List.length_append]
    simp only
    omega

/-! ## Whole runs -/

section

variable {rules : NetlocRules} {registry : PolicyRegistry}
variable {directory : Path} {endpoints : Text → Prop}

/-- A cache directory of a run whose state files are kept apart. -/
structure Kept (directory : Path) (endpoints : Text → Prop)
    (cache : Cache) : Prop where
  place : cache.directory = directory
  unmixed : ∀ endpointId, endpoints endpointId → Unmixed cache endpointId
  solvent : Solvent cache

theorem kept_empty : Kept directory endpoints (Cache.empty directory) where
  place := rfl
  unmixed _ _ _ _ := rfl
  solvent _ policy := ⟨policy.fullBudget, rfl, Int.natCast_nonneg _,
    Int.natCast_nonneg _⟩

theorem Kept.same
    {first second : Cache} (kept : Kept directory endpoints first)
    (same : SameRecords first second) :
    Kept directory endpoints second where
  place := same.directory.trans kept.place
  unmixed endpointId isEndpoint path isPath := by
    rw [same.directory] at isPath
    rw [same.budgets]
    exact kept.unmixed endpointId isEndpoint path isPath
  solvent path policy := by
    rw [loadBudgetState_congr (congrFun same.budgets path)]
    exact kept.solvent path policy

/-- Charging an endpoint keeps the state files apart. -/
theorem Kept.charged
    (apart : KeptApart directory endpoints) {cache : Cache} {call : Call}
    {fetched : Fetched} (kept : Kept directory endpoints cache)
    (isEndpoint : endpoints call.endpointId)
    (charged : Charged registry cache call fetched) :
    Kept directory endpoints fetched.cache := by
  obtain ⟨⟨policy, path, budget, lowered, drained, paid, payload, found,
    isPath, loaded, charges, saved, sameDrained, place, budgets, -⟩, -⟩ :=
    charged
  rw [(PolicyRegistry.get_eq_ok found).2, kept.place] at isPath
  have others (other : Path) (different : other ≠ path) :
      fetched.cache.budgets other = cache.budgets other := by
    rw [budgets, (saveBudgetState_eq_ok saved).2 other different,
      sameDrained]
  refine ⟨place.trans kept.place, ?_, ?_⟩
  · intro endpointId isOther bucket isBucket
    rw [place, kept.place] at isBucket
    have different : bucket ≠ path := by
      rintro rfl
      exact (apart _ _ _ isEndpoint isOther isPath).1 isBucket
    rw [others bucket different]
    exact kept.unmixed endpointId isOther bucket
      (by rw [kept.place, isBucket])
  · intro other policy
    by_cases isSame : other = path
    · rw [isSame, (loadBudgetState_congr (congrFun budgets path) policy)]
      obtain ⟨enoughBytes, enoughCost, rfl⟩ := chargeBudget_eq_ok charges
      exact ⟨_, loadBudgetState_saved saved policy,
        Int.sub_nonneg_of_le enoughBytes,
        Int.sub_nonneg_of_le enoughCost⟩
    · rw [loadBudgetState_congr (others other isSame)]
      exact kept.solvent other policy

theorem fetch_kept
    (rules : NetlocRules) (apart : KeptApart directory endpoints)
    {cache : Cache} {call : Call} (kept : Kept directory endpoints cache)
    (asks : ∀ policy, registry.get call.endpointId = .ok policy →
      endpoints call.endpointId) :
    Moved registry cache call (fetch rules registry cache call) ∧
      Kept directory endpoints (fetch rules registry cache call).cache := by
  have moved := fetch_moved rules fun policy found =>
    kept.unmixed call.endpointId (asks policy found)
  refine ⟨moved, ?_⟩
  rcases moved with ⟨same, -⟩ | charged
  · exact kept.same same
  · obtain ⟨policy, -, -, -, -, -, -, found, -⟩ := charged.charge
    exact kept.charged apart (asks policy found) charged

theorem balanced_fetch
    (rules : NetlocRules) (apart : KeptApart directory endpoints)
    {cache : Cache} {call : Call} (kept : Kept directory endpoints cache)
    (asks : ∀ policy, registry.get call.endpointId = .ok policy →
      endpoints call.endpointId)
    {policy : EndpointPolicy} {spent : List Bytes}
    (member : policy ∈ registry.policies)
    (isEndpoint : endpoints policy.endpointId)
    (balanced : Balanced cache policy spent) :
    Balanced (fetch rules registry cache call).cache policy
      (spent ++ spentPayloads policy.endpointId
        [⟨call, cache, fetch rules registry cache call⟩]) := by
  rw [spentPayloads_single]
  rcases (fetch_kept rules apart kept asks).1 with
    ⟨same, onlyCached⟩ | ⟨⟨charged, path, budget, lowered, drained, paid,
      payload, found, isPath, loaded, charges, saved, sameDrained, place,
      budgets, returns⟩, _⟩
  · have nothing : Event.uncached
        ⟨call, cache, fetch rules registry cache call⟩ = none := by
      apply Option.eq_none_iff_forall_ne_some.mpr
      intro payload isSome
      obtain ⟨receipt, outcome, notCached⟩ :=
        Event.uncached_eq_some isSome
      rw [onlyCached receipt payload outcome] at notCached
      cases notCached
    rw [nothing, Option.toList_none, ite_self, List.append_nil]
    exact balanced_congr balanced same.directory
      fun path _ => congrFun same.budgets path
  · by_cases sameEndpoint : call.endpointId = policy.endpointId
    · rw [if_pos sameEndpoint]
      have isPolicy : charged = policy := by
        rw [sameEndpoint, PolicyRegistry.get_of_mem member] at found
        exact (Except.ok.inj found).symm
      subst isPolicy
      refine balanced_charged balanced isPath loaded charges saved place
        budgets ?_
      intro returned isReturned
      obtain ⟨receipt, outcome, _⟩ := Event.uncached_eq_some isReturned
      exact returns receipt returned outcome
    · rw [if_neg sameEndpoint, List.append_nil]
      apply balanced_congr balanced place
      intro other isOther
      have different : other ≠ path := by
        rintro rfl
        rw [(PolicyRegistry.get_eq_ok found).2, kept.place] at isPath
        rw [kept.place] at isOther
        exact sameEndpoint
          ((apart _ _ _ (asks charged found) isEndpoint isPath).2 isOther)
      rw [budgets, (saveBudgetState_eq_ok saved).2 other different,
        sameDrained]

theorem balanced_run
    (rules : NetlocRules) (apart : KeptApart directory endpoints) {cache : Cache}
    {calls : List Call} (kept : Kept directory endpoints cache)
    (asks : ∀ call ∈ calls, ∀ policy,
      registry.get call.endpointId = .ok policy →
        endpoints call.endpointId)
    {policy : EndpointPolicy} {spent : List Bytes}
    (member : policy ∈ registry.policies)
    (isEndpoint : endpoints policy.endpointId)
    (balanced : Balanced cache policy spent) :
    Balanced (afterCalls rules registry cache calls) policy
      (spent ++ spentPayloads policy.endpointId
        (events rules registry cache calls)) := by
  induction calls generalizing cache spent with
  | nil => simpa [events, spentPayloads, afterCalls] using balanced
  | cons call rest induction =>
      obtain ⟨here, later⟩ := List.forall_mem_cons.mp asks
      rw [events, spentPayloads_cons, ← List.append_assoc]
      exact induction (fetch_kept rules apart kept here).2 later
        (balanced_fetch rules apart kept here member isEndpoint balanced)

theorem kept_run
    (rules : NetlocRules) (apart : KeptApart directory endpoints) {cache : Cache}
    {calls : List Call} (kept : Kept directory endpoints cache)
    (asks : ∀ call ∈ calls, ∀ policy,
      registry.get call.endpointId = .ok policy →
        endpoints call.endpointId) :
    Kept directory endpoints (afterCalls rules registry cache calls) ∧
      ∀ event ∈ events rules registry cache calls,
        Moved registry event.before event.call event.fetched := by
  induction calls generalizing cache with
  | nil => exact ⟨kept, nofun⟩
  | cons call rest induction =>
      obtain ⟨here, later⟩ := List.forall_mem_cons.mp asks
      obtain ⟨moved, next⟩ := fetch_kept rules apart kept here
      obtain ⟨after, each⟩ := induction next later
      exact ⟨after, List.forall_mem_cons.mpr ⟨moved, each⟩⟩

theorem call_mem_of_mem_events
    {cache : Cache} {calls : List Call} {event : Event}
    (member : event ∈ events rules registry cache calls) :
    event.call ∈ calls := by
  induction calls generalizing cache with
  | nil => cases member
  | cons call rest induction =>
      rw [events] at member
      rcases List.mem_cons.mp member with rfl | later
      · exact List.mem_cons_self
      · exact List.mem_cons_of_mem _ (induction later)

theorem spentPayloads_of_not_asked
    {cache : Cache} {calls : List Call} {endpointId : Text}
    (notAsked : ∀ call ∈ calls, call.endpointId ≠ endpointId) :
    spentPayloads endpointId (events rules registry cache calls) = [] := by
  rw [spentPayloads, List.filter_eq_nil_iff.mpr, List.filterMap_nil]
  intro event member
  rw [decide_eq_true_eq]
  exact notAsked event.call (call_mem_of_mem_events member)

end

/-- The endpoints of a registry that some calls ask for. -/
def Asked (registry : PolicyRegistry) (calls : List Call)
    (endpointId : Text) : Prop :=
  (∃ policy, registry.get endpointId = .ok policy) ∧
    ∃ call ∈ calls, call.endpointId = endpointId

/--
Along a run from an empty directory the remaining budgets are not negative,
the uncached payloads stay within the policy, and a refused call changes
neither a budget nor a payload.
-/
structure NeverOverdrawn
    (rules : NetlocRules) (registry : PolicyRegistry) (directory : Path)
    (calls : List Call) : Prop where
  remaining : ∀ policy ∈ registry.policies, ∀ path,
    budgetStatePath directory policy.endpointId = .ok path →
      ∃ budget, loadBudgetState
          (afterCalls rules registry (Cache.empty directory) calls) path
          policy = .ok budget ∧
        0 ≤ budget.bytesRemaining ∧ 0 ≤ budget.costUnitsRemaining
  spent : ∀ policy ∈ registry.policies,
    totalBytes (spentPayloads policy.endpointId
        (events rules registry (Cache.empty directory) calls)) ≤
      policy.byteBudget ∧
    (spentPayloads policy.endpointId
        (events rules registry (Cache.empty directory) calls)).length ≤
      policy.costBudgetUnits
  refused : ∀ event ∈ events rules registry (Cache.empty directory) calls,
    ∀ error, event.fetched.outcome = .raised error →
      isRefusal error.kind = true →
        SameRecords event.before event.fetched.cache

/--
Budgets are never overdrawn in a run whose endpoints keep their state files
apart.
-/
theorem budgets_never_overdrawn
    (rules : NetlocRules) (registry : PolicyRegistry) (directory : Path)
    (calls : List Call)
    (apart : KeptApart directory (Asked registry calls)) :
    NeverOverdrawn rules registry directory calls := by
  have asks : ∀ call ∈ calls, ∀ policy,
      registry.get call.endpointId = .ok policy →
        Asked registry calls call.endpointId :=
    fun call isCall policy found => ⟨⟨policy, found⟩, call, isCall, rfl⟩
  obtain ⟨kept, moved⟩ := kept_run rules apart kept_empty asks
  refine ⟨fun policy _ path _ => kept.solvent path policy, ?_, ?_⟩
  · intro policy member
    by_cases asked : ∃ call ∈ calls, call.endpointId = policy.endpointId
    · have balanced := balanced_run rules apart kept_empty asks
        member ⟨⟨policy, PolicyRegistry.get_of_mem member⟩, asked⟩
        (balanced_empty directory policy)
      rw [List.nil_append] at balanced
      unfold Balanced at balanced
      split at balanced
      · rw [balanced]
        exact ⟨Nat.zero_le _, Nat.zero_le _⟩
      · next path isPath =>
          obtain ⟨budget, loaded, bytes, cost⟩ := balanced
          obtain ⟨found, isFound, bytesLeft, costLeft⟩ :=
            kept.solvent path policy
          cases loaded.symm.trans isFound
          exact ⟨by omega, by omega⟩
    · rw [spentPayloads_of_not_asked fun call isCall same =>
        asked ⟨call, isCall, same⟩]
      exact ⟨Nat.zero_le _, Nat.zero_le _⟩
  · intro event member error stopped refusal
    rcases moved event member with ⟨same, -⟩ | charged
    · exact same
    · rw [charged.noRefusal error stopped] at refusal
      cases refusal

/-! ## An endpoint that climbs out of its directory -/

/-- A registry of one endpoint with a cost budget of one unit. -/
def singleRegistry (endpointId : Text) : PolicyRegistry :=
  { policies :=
      [{ endpointId := endpointId
         baseUrl := text "https://api.openalex.org"
         rateLimitPerMinute := 60
         byteBudget := 1000
         costBudgetUnits := 1
         licenseTermsSha256 := text "sha256:cc0"
         attributionRequired := false
         attributionText := []
         retentionDays := 30 }]
    distinct := List.nodup_singleton _ }

/-- No network location is refused. -/
def lenientRules : NetlocRules :=
  ⟨fun _ => none⟩

def answeredCall (endpointId path : Text) : Call :=
  { endpointId := endpointId
    path := path
    params := []
    rateLimitSleep := false
    clock := ⟨0, 0, [], text "2026-07-28T00:00:00Z"⟩
    answers := fun _ =>
      .response [7] (text "https") (text "api.openalex.org") }

def twoCalls (endpointId : Text) : List Call :=
  [answeredCall endpointId (text "/works"),
    answeredCall endpointId (text "/authors")]

theorem budgets_never_overdrawn_openalex :
    NeverOverdrawn lenientRules (singleRegistry (text "openalex"))
      [text "cache"] (twoCalls (text "openalex")) := by
  refine budgets_never_overdrawn _ _ _ _ (keptApart_of_noSlash ?_)
  rintro endpointId ⟨-, call, isCall, rfl⟩
  have each : (twoCalls (text "openalex")).all (fun call =>
      codePoint '/' ∉ call.endpointId) = true := by
    decide
  simpa using List.all_eq_true.mp each call isCall

/-- The budget of `a/../b` is lost with every token that is taken. -/
theorem climbingEndpoint_overdraws :
    ¬ ∀ rules registry directory calls,
      NeverOverdrawn rules registry directory calls := by
  intro claimed
  have overdrawn := (claimed lenientRules
    (singleRegistry (text "a/../b")) [text "cache"]
    (twoCalls (text "a/../b"))).spent _ (List.mem_singleton_self _)
  have twice : (spentPayloads (text "a/../b")
      (events lenientRules (singleRegistry (text "a/../b"))
        (Cache.empty [text "cache"]) (twoCalls (text "a/../b")))).length =
      2 := by
    decide +kernel
  exact absurd (twice.symm.trans_le overdrawn.2) (by decide)

end ScientificResourceLab.Knowledge
