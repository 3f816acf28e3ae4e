import ScientificResourceLab.Contracts.Canonical
import ScientificResourceLab.Planning.Classifier

/-!
# The capability catalog and the claim router

`route` gives each of the fifteen capability profiles a selection state, and
every explicitly requested future profile the state `WAIT_CAPABILITY`.  A
`ProfileRouting` and a `RoutingDecision` are only what their constructors
accept: each carries the fact that the check of its constructor passed.

`route_profiles` says which profiles a decision has: the fifteen, in order,
and then the future profiles that the request names.
-/

namespace ScientificResourceLab.Planning

open Python Contracts Steps

/-! ## The catalog -/

/-- `AVAILABILITY_STATES`. -/
inductive Availability where
  | available
  | future
  | remoteRequired
  deriving DecidableEq, Repr

/-- `CapabilityEntry`. -/
structure CapabilityEntry where
  capabilityId : Text
  profile : Text
  adapterId : Option Text
  availability : Availability

/-- `CapabilityCatalog`: its entries by profile, and its digest. -/
structure CapabilityCatalog where
  entries : List (Text × CapabilityEntry)
  digest : Text

namespace CapabilityCatalog

/-- `entry_for`. -/
def entryFor (catalog : CapabilityCatalog) (profile : Text) :
    Option CapabilityEntry :=
  catalog.entries.lookup profile

/-- `capability_id_for`. -/
def capabilityIdFor (catalog : CapabilityCatalog) (profile : Text) :
    Text :=
  match catalog.entryFor profile with
  | some entry => entry.capabilityId
  | none => text "cap." ++ profile

/-- `is_available`. -/
def isAvailable (catalog : CapabilityCatalog) (profile : Text) : Bool :=
  match catalog.entryFor profile with
  | some entry => entry.availability = .available
  | none => false

/-- The availability of a profile, `none` when the catalog lacks it. -/
def availabilityOf (catalog : CapabilityCatalog) (profile : Text) :
    Option Availability :=
  (catalog.entryFor profile).map CapabilityEntry.availability

end CapabilityCatalog

/-! ## Decisions -/

/-- `SELECTION_STATES`. -/
inductive Selection where
  | selected
  | excludedTyped
  | notApplicable
  | waitCapability
  deriving DecidableEq, Repr

/-- The wire form of a selection. -/
def Selection.name : Selection → Text
  | .selected => text "SELECTED"
  | .excludedTyped => text "EXCLUDED_TYPED"
  | .notApplicable => text "NOT_APPLICABLE"
  | .waitCapability => text "WAIT_CAPABILITY"

/-- A `ContractError`. -/
def contractFailure (message : Text) : PyError :=
  ⟨.contractError, message⟩

/-- The checks of the constructor of `ProfileRouting`. -/
def checkRouting
    (profile : Text) (selection : Selection)
    (adapterId exclusionReason : Option Text) : Except PyError Unit := do
  refuseIf (profile ∉ knownProfiles)
    (contractFailure (text "unknown profile " ++ quoted profile))
  if selection = .excludedTyped then
    refuseIf (exclusionReason.getD [] = [])
      (contractFailure (text
        "exclusion_reason required (non-empty) when selection=EXCLUDED_TYPED"))
  else
    refuseIf (exclusionReason ≠ none)
      (contractFailure
        (text "exclusion_reason must be null when selection=" ++
          quoted selection.name))
  refuseIf (selection = .selected ∧ adapterId.getD [] = [])
    (contractFailure
      (text "adapter_id required (non-empty) when selection=SELECTED"))
  refuseIf (selection ≠ .selected ∧ adapterId ≠ none)
    (contractFailure
      (text "adapter_id must be null when selection=" ++
        quoted selection.name))

/-- `ProfileRouting`, as its constructor has checked it. -/
structure ProfileRouting where
  profile : Text
  selection : Selection
  capabilityId : Text
  adapterId : Option Text
  availability : Option Availability
  exclusionReason : Option Text
  checked :
    checkRouting profile selection adapterId exclusionReason = .ok ()

/-- The constructor of `ProfileRouting`. -/
def profileRouting
    (catalog : CapabilityCatalog) (profile : Text) (selection : Selection)
    (adapterId exclusionReason : Option Text) :
    Except PyError ProfileRouting :=
  match checked : checkRouting profile selection adapterId
      exclusionReason with
  | .ok () =>
      .ok ⟨profile, selection, catalog.capabilityIdFor profile, adapterId,
        catalog.availabilityOf profile, exclusionReason, checked⟩
  | .error error => .error error

/-- The checks of the constructor of `RoutingDecision`. -/
def checkDecision (profiles : List Text) : Except PyError Unit := do
  let missing :=
    sortedNames (scienceLabProfiles.filter (· ∉ profiles))
  refuseIf (missing ≠ [])
    (contractFailure
      (text "RoutingDecision missing profiles: " ++ quotedList missing))
  let extra := sortedNames (profiles.filter (· ∉ knownProfiles))
  refuseIf (extra ≠ [])
    (contractFailure
      (text "RoutingDecision has unexpected profiles: " ++
        quotedList extra))

/-- `RoutingDecision`, as its constructor has checked it. -/
structure RoutingDecision where
  profiles : List (Text × ProfileRouting)
  classifierTrace : List String
  checked : checkDecision (profiles.map Prod.fst) = .ok ()

/-- The constructor of `RoutingDecision`. -/
def routingDecision
    (profiles : List (Text × ProfileRouting)) (trace : List String) :
    Except PyError RoutingDecision :=
  match checked : checkDecision (profiles.map Prod.fst) with
  | .ok () => .ok ⟨profiles, trace, checked⟩
  | .error error => .error error

/-- `selection_for`. -/
def RoutingDecision.selectionFor
    (decision : RoutingDecision) (profile : Text) :
    Except PyError Selection :=
  match decision.profiles.lookup profile with
  | some routing => .ok routing.selection
  | none =>
      .error (contractFailure (text "unknown profile " ++ quoted profile))

/-! ## Routing -/

/-- `_route_one`. -/
def routeOne
    (catalog : CapabilityCatalog) (applicable : Bool) (profile : Text) :
    Except PyError ProfileRouting :=
  if applicable = false then
    profileRouting catalog profile .notApplicable none none
  else
    match catalog.isAvailable profile, catalog.entryFor profile with
    | true, some entry =>
        profileRouting catalog profile .selected entry.adapterId none
    | _, _ => profileRouting catalog profile .waitCapability none none

/-- The decision of `route` for one of the fifteen profiles. -/
def routeShipped
    (catalog : CapabilityCatalog) (requested applicable : List Text)
    (profile : Text) : Except PyError ProfileRouting :=
  if profile ∈ applicable then routeOne catalog true profile
  else if requested ≠ [] then
    profileRouting catalog profile .excludedTyped none
      (some (text "not_requested"))
  else profileRouting catalog profile .notApplicable none none

/-- The future profiles of a set, sorted. -/
def futureOf (applicable : List Text) : List Text :=
  sortedNames (applicable.filter (· ∈ futureProfileNames))

/-- Fill a dict, profile by profile. -/
def decideAll
    {β : Type} (profiles : List Text)
    (decideOne : Text → Except PyError β) :
    Except PyError (List (Text × β)) :=
  profiles.mapM fun profile => do
    let decided ← decideOne profile
    pure (profile, decided)

/-- `_route_future_profiles`. -/
def routeFutureProfiles
    (applicable : List Text) (catalog : CapabilityCatalog) :
    Except PyError (List (Text × ProfileRouting)) :=
  decideAll (futureOf applicable) (routeOne catalog true)

/-- The check of one entry of `requested_profiles`. -/
def checkRequested : Json → Except PyError Text
  | .str profile =>
      if profile ∈ knownProfiles then .ok profile
      else
        .error (contractFailure
          (text "requested_profiles entry " ++ quoted profile ++
            text " is not a known profile"))
  | other =>
      .error (contractFailure
        (text "requested_profiles entry " ++ reprJson other ++
          text " is not a known profile"))

/-- The `requested_profiles` of a request, checked. -/
def requestedProfiles (request : List (Text × Json)) :
    Except PyError (List Text) :=
  match (Json.lookup (text "requested_profiles") request).getD
      (.arr []) with
  | .arr entries => entries.mapM checkRequested
  | _ =>
      .error (contractFailure
        (text "request 'requested_profiles' must be an array"))

/-- An object field of a request, or the empty object. -/
def objectField (key : String) (request : List (Text × Json)) :
    List (Text × Json) :=
  match Json.lookup (text key) request with
  | some (.obj members) => members
  | _ => []

/-- An argument of `route` that has to be an object. -/
def requireObject (field : String) :
    Json → Except PyError (List (Text × Json))
  | .obj members => .ok members
  | other =>
      .error (contractFailure
        (text field ++ text " must be an object, got " ++ typeName other))

/-- The profiles that apply: the requested ones, or the classified ones. -/
def applicableSet
    (lower : Text → Text) (requested : List Text)
    (request claim : List (Text × Json)) : List Text :=
  if requested ≠ [] then requested
  else
    (classify lower claim (objectField "symbol_table" request)
      (objectField "condition_set" request)).selected

/-- `route`. -/
def route
    (lower : Text → Text) (request claim : Json)
    (catalog : CapabilityCatalog) : Except PyError RoutingDecision := do
  let request ← requireObject "request" request
  let claim ← requireObject "claim" claim
  let requested ← requestedProfiles request
  let applicable := applicableSet lower requested request claim
  let shipped ← decideAll scienceLabProfiles
    (routeShipped catalog requested applicable)
  let future ← routeFutureProfiles applicable catalog
  routingDecision (shipped ++ future)
    (classify lower claim (objectField "symbol_table" request)
      (objectField "condition_set" request)).trace

/-! ## The profiles of a decision -/

/-- The keys of a filled dict are the profiles, in order. -/
theorem decideAll_keys
    {β : Type} {profiles : List Text}
    {decideOne : Text → Except PyError β} {decisions : List (Text × β)}
    (filled : decideAll profiles decideOne = .ok decisions) :
    decisions.map Prod.fst = profiles := by
  refine mapM_keys ?_ filled
  intro profile entry ran
  simp only [bind_eq_ok_iff, pure_eq_ok_iff] at ran
  obtain ⟨decided, -, rfl⟩ := ran
  rfl

theorem routingDecision_profiles
    {profiles : List (Text × ProfileRouting)} {trace : List String}
    {decision : RoutingDecision}
    (made : routingDecision profiles trace = .ok decision) :
    decision.profiles = profiles := by
  unfold routingDecision at made
  split at made
  · cases made
    rfl
  · cases made

/-- What a successful `route` has computed. -/
theorem route_eq_ok
    {lower : Text → Text} {request claim : Json}
    {catalog : CapabilityCatalog} {decision : RoutingDecision}
    (routed : route lower request claim catalog = .ok decision) :
    ∃ members claimed requested,
      request = .obj members ∧ requestedProfiles members = .ok requested ∧
      decision.profiles.map Prod.fst =
        scienceLabProfiles ++
          futureOf (applicableSet lower requested members claimed) := by
  rw [route] at routed
  simp only [bind_eq_ok_iff] at routed
  obtain ⟨members, isMembers, claimed, -, requested, isRequested, shipped,
    isShipped, future, isFuture, made⟩ := routed
  refine ⟨members, claimed, requested, ?_, isRequested, ?_⟩
  · cases request with
    | obj inner =>
        cases isMembers
        rfl
    | null => cases isMembers
    | bool value => cases isMembers
    | int value => cases isMembers
    | float value => cases isMembers
    | str value => cases isMembers
    | arr items => cases isMembers
  · rw [routingDecision_profiles made, List.map_append,
      decideAll_keys isShipped, decideAll_keys isFuture]

/-- The strings among the `requested_profiles` of a request. -/
def requestedNames : Json → List Text
  | .obj request =>
      match Json.lookup (text "requested_profiles") request with
      | some (.arr entries) =>
          entries.filterMap fun entry =>
            match entry with
            | .str name => some name
            | _ => none
      | _ => []
  | _ => []

theorem checkRequested_eq_ok
    {entry : Json} {name : Text}
    (checked : checkRequested entry = .ok name) : entry = .str name := by
  cases entry with
  | str profile =>
      rw [checkRequested] at checked
      split at checked
      · cases checked
        rfl
      · cases checked
  | null => cases checked
  | bool value => cases checked
  | int value => cases checked
  | float value => cases checked
  | arr items => cases checked
  | obj members => cases checked

/-- The checked names are the strings of the field. -/
theorem requestedProfiles_eq_ok
    {request : List (Text × Json)} {requested : List Text}
    (checked : requestedProfiles request = .ok requested) :
    requestedNames (.obj request) = requested := by
  rw [requestedProfiles] at checked
  rw [requestedNames]
  cases found : Json.lookup (text "requested_profiles") request with
  | none =>
      rw [found] at checked
      cases checked
      rfl
  | some value =>
      rw [found, Option.getD_some] at checked
      cases value with
      | arr entries =>
          have isEntries : requested.map Json.str = entries :=
            mapM_keys (fun _ _ ran => (checkRequested_eq_ok ran).symm)
              checked
          subst isEntries
          dsimp only
          rw [List.filterMap_map]
          exact List.filterMap_some
      | null => cases checked
      | bool value => cases checked
      | int value => cases checked
      | float value => cases checked
      | str value => cases checked
      | obj members => cases checked

/-- The future profiles of a decision are those that the request names. -/
theorem mem_futureOf
    {lower : Text → Text} {requested : List Text}
    {request claim : List (Text × Json)} {name : Text} :
    name ∈ futureOf (applicableSet lower requested request claim) ↔
      name ∈ requested ∧ name ∈ futureProfileNames := by
  rw [futureOf, mem_sortedNames, List.mem_filter, decide_eq_true_iff,
    applicableSet]
  by_cases empty : requested = []
  · subst empty
    simp only [ne_eq, not_true_eq_false, if_false, List.not_mem_nil,
      false_and, iff_false, not_and]
    intro selected future
    exact futureProfileNames_disjoint name future
      (classify_selected lower selected)
  · rw [if_pos empty]

end ScientificResourceLab.Planning
