import ScientificResourceLab.Contracts.Canonical
import ScientificResourceLab.Python.StrictSha256
import ScientificResourceLab.Steps.Fallible

/-!
# Remote routing

`srl.runtime.remote.routing`: the assessment of the heavy capability profiles
against one compute node, and the decision about one job.  Both go down the
same ladder, the bundle with what a profile declares and the decision with
what the job asks for.  The job is not compared with its profile.

What is installed on the host is a parameter: whether a module has a spec,
which may raise, and whether an executable is on the path.
-/

namespace ScientificResourceLab.Runtime

open Python Contracts Steps

/-- The members of a dict. -/
abbrev Fields := List (Text × Json)

/-- An array of strings. -/
def stringArray (values : List Text) : Json :=
  .arr (values.map .str)

/-! ## Profiles, nodes and jobs -/

/-- `HeavyCapabilityStatus`. -/
inductive HeavyCapabilityStatus where
  | activeLocal
  | routableRemote
  | waitCapability
  | waitComputeNode
  | waitAuthority
  | rejected
  deriving DecidableEq, Repr

def HeavyCapabilityStatus.value : HeavyCapabilityStatus → Text
  | .activeLocal => text "ACTIVE_LOCAL"
  | .routableRemote => text "ROUTABLE_REMOTE"
  | .waitCapability => text "WAIT_CAPABILITY"
  | .waitComputeNode => text "WAIT_COMPUTE_NODE"
  | .waitAuthority => text "WAIT_AUTHORITY"
  | .rejected => text "REJECTED"

/-- The statuses of `wait_profile_ids`. -/
def HeavyCapabilityStatus.waits : HeavyCapabilityStatus → Bool
  | .waitCapability | .waitComputeNode | .waitAuthority => true
  | _ => false

/-- `HeavyProfile`, as `__post_init__` lets it be built. -/
structure HeavyProfile where
  profileId : Text
  family : Text
  importNames : List Text
  executableNames : List Text
  remoteCapabilities : List Text
  imageDigest : Text
  architecture : Text
  tinyLocalAllowed : Bool
  paidOracle : Bool
  checkpointPolicy : Text
  requiresComputeTarget : Bool
  status : HeavyCapabilityStatus
  reason : Text
  named : ∀ value ∈ [profileId, family, imageDigest, architecture,
    checkpointPolicy], value ≠ []
  entries : ∀ value ∈ importNames ++ executableNames ++ remoteCapabilities,
    value ≠ []
  declares : importNames ++ executableNames ++ remoteCapabilities ≠ []

/-- `HeavyProfile.with_status`. -/
def HeavyProfile.withStatus (profile : HeavyProfile)
    (status : HeavyCapabilityStatus) (reason : String) : HeavyProfile :=
  { profile with status := status, reason := text reason }

/-- `HeavyProfile.to_dict`. -/
def HeavyProfile.toDict (profile : HeavyProfile) : Json :=
  .obj [(text "profile_id", .str profile.profileId),
    (text "family", .str profile.family),
    (text "import_names", stringArray profile.importNames),
    (text "executable_names", stringArray profile.executableNames),
    (text "remote_capabilities", stringArray profile.remoteCapabilities),
    (text "image_digest", .str profile.imageDigest),
    (text "architecture", .str profile.architecture),
    (text "tiny_local_allowed", .bool profile.tinyLocalAllowed),
    (text "paid_oracle", .bool profile.paidOracle),
    (text "checkpoint_policy", .str profile.checkpointPolicy),
    (text "requires_compute_target", .bool profile.requiresComputeTarget),
    (text "status", .str profile.status.value),
    (text "reason", .str profile.reason),
    (text "canonical_writes", .int 0),
    (text "grants_authority", .bool false)]

/-- `ComputeNodeManifest`. -/
structure ComputeNodeManifest where
  nodeId : Text
  architecture : Text
  capabilities : List Text
  imageDigests : List Text
  revokedImageDigests : List Text
  online : Bool
  named : nodeId ≠ [] ∧ architecture ≠ []
  offers : capabilities ≠ [] ∧ imageDigests ≠ []
  entries : ∀ value ∈ capabilities ++ imageDigests ++ revokedImageDigests,
    value ≠ []

/-- `ComputeNodeManifest.to_dict`. -/
def ComputeNodeManifest.toDict (node : ComputeNodeManifest) : Json :=
  .obj [(text "node_id", .str node.nodeId),
    (text "architecture", .str node.architecture),
    (text "capabilities", stringArray node.capabilities),
    (text "image_digests", stringArray node.imageDigests),
    (text "revoked_image_digests", stringArray node.revokedImageDigests),
    (text "online", .bool node.online)]

/-- `BudgetReceipt`. -/
structure BudgetReceipt where
  receiptId : Text
  remainingUnits : Nat
  credentialScope : Text
  named : receiptId ≠ [] ∧ credentialScope ≠ []

/-- `HeavyRemoteJobSpec`. -/
structure HeavyRemoteJobSpec where
  jobId : Text
  profileId : Text
  requiredCapability : Text
  imageDigest : Text
  architecture : Text
  budgetUnits : Nat
  checkpointIntervalSteps : Nat
  inputDigest : Text
  named : ∀ value ∈ [jobId, profileId, requiredCapability, imageDigest,
    architecture, inputDigest], value ≠ []
  checkpoints : 0 < checkpointIntervalSteps

/-- `_profile`. -/
def heavyProfile (profileId family : String)
    (importNames executableNames remoteCapabilities : List String)
    (tinyLocalAllowed paidOracle : Bool)
    (named : text profileId ≠ [] ∧ text family ≠ [])
    (entries : ∀ value ∈ importNames.map text ++ executableNames.map text ++
      remoteCapabilities.map text, value ≠ [])
    (declares : importNames.map text ++ executableNames.map text ++
      remoteCapabilities.map text ≠ []) : HeavyProfile where
  profileId := text profileId
  family := text family
  importNames := importNames.map text
  executableNames := executableNames.map text
  remoteCapabilities := remoteCapabilities.map text
  imageDigest := text "sha256:" ++
    sha256 ((utf8Encode (text profileId)).getD [])
  architecture := text "linux-x86_64"
  tinyLocalAllowed := tinyLocalAllowed
  paidOracle := paidOracle
  checkpointPolicy := text "checkpoint_by_deterministic_step_count"
  requiresComputeTarget := true
  status := .waitComputeNode
  reason := text "runtime_or_node_capability_missing"
  named := by
    simp only [List.forall_mem_cons, List.not_mem_nil, false_imp_iff,
      implies_true, and_true]
    exact ⟨named.1, named.2,
      List.append_ne_nil_of_left_ne_nil (by decide) _,
      by decide, by decide⟩
  entries := entries
  declares := declares

/-- `default_heavy_profiles`. -/
def defaultHeavyProfiles : List HeavyProfile :=
  [heavyProfile "heavy.petsc" "pde_hpc" ["petsc4py"] [] ["petsc"]
      true false (by decide) (by decide) (by decide),
    heavyProfile "heavy.fenicsx" "pde_hpc" ["dolfinx"] [] ["fenicsx"]
      true false (by decide) (by decide) (by decide),
    heavyProfile "heavy.pymor" "model_reduction" ["pymor"] [] ["pymor"]
      true false (by decide) (by decide) (by decide),
    heavyProfile "heavy.scikit_fem" "finite_elements" ["skfem"] []
      ["scikit_fem"]
      true false (by decide) (by decide) (by decide),
    heavyProfile "heavy.dedalus" "spectral_pde" ["dedalus"] [] ["dedalus"]
      true false (by decide) (by decide) (by decide),
    heavyProfile "heavy.modulus" "neural_operator" ["modulus"] []
      ["accelerator"]
      false false (by decide) (by decide)
      (by decide),
    heavyProfile "heavy.neuralop" "neural_operator" ["neuralop"] []
      ["accelerator"]
      false false (by decide) (by decide)
      (by decide),
    heavyProfile "heavy.sage" "exact_math" ["sageall"] ["sage"] ["sage"]
      true false (by decide) (by decide) (by decide),
    heavyProfile "oracle.wolfram" "paid_oracle" ["wolframclient"]
      ["wolframscript"] ["wolfram"]
      false true (by decide) (by decide)
      (by decide)]

/-- `profiles or default_heavy_profiles()`. -/
def givenProfiles : Option (List HeavyProfile) → List HeavyProfile
  | none | some [] => defaultHeavyProfiles
  | some profiles => profiles

/-! ## The two ladders -/

/-- What is installed on the host. -/
structure Host where
  /-- `importlib.util.find_spec` finds a module, or raises. -/
  findSpec : Text → Except PyError Bool
  /-- `shutil.which` finds an executable. -/
  which : Text → Bool

/-- The steps of both ladders that look at the node. -/
def nodeStatus (node : Option ComputeNodeManifest)
    (architecture imageDigest : Text) (capabilities : List Text) :
    HeavyCapabilityStatus × String :=
  match node with
  | none => (.waitComputeNode, "node absent or offline")
  | some node =>
      if node.online = false then
        (.waitComputeNode, "node absent or offline")
      else if imageDigest ∈ node.revokedImageDigests then
        (.rejected, "revoked image")
      else if architecture ≠ node.architecture then
        (.waitComputeNode, "architecture mismatch")
      else if ∃ capability ∈ capabilities,
          capability ∉ node.capabilities then
        (.waitComputeNode, "capability missing")
      else if imageDigest ∉ node.imageDigests then
        (.waitComputeNode, "image unavailable")
      else (.routableRemote, "compatible remote route")

/-- A profile may run on the host itself, its modules being found or not. -/
def runsLocally (host : Host) (profile : HeavyProfile)
    (found : List Bool) : Bool :=
  !profile.requiresComputeTarget && found.all id &&
    profile.executableNames.all host.which && profile.tinyLocalAllowed

/-- `_assess_profile`. -/
def assessProfile (host : Host) (node : Option ComputeNodeManifest)
    (receipt : Option BudgetReceipt) (profile : HeavyProfile) :
    Except PyError HeavyProfile :=
  if profile.paidOracle = true ∧ receipt.isNone then
    .ok (profile.withStatus .waitAuthority
      "credential_or_budget_authority_missing")
  else do
    let found ← profile.importNames.mapM host.findSpec
    if runsLocally host profile found then
      pure (profile.withStatus .activeLocal
        "tiny local runtime importable under bounded profile")
    else
      let (status, reason) := nodeStatus node profile.architecture
        profile.imageDigest profile.remoteCapabilities
      pure (profile.withStatus status reason)

/-- A dict with the digest of its canonical form under a key. -/
def sealed (key : String) (body : Fields) : Except PyError Fields := do
  let data ← dumps (.obj body)
  pure (body ++ [(text key, .str (text "sha256:" ++ sha256 data))])

/-- The ids of the profiles that have one of some statuses. -/
def idsWhere (accepts : HeavyCapabilityStatus → Bool)
    (profiles : List HeavyProfile) : Json :=
  stringArray ((profiles.filter fun profile =>
    accepts profile.status).map HeavyProfile.profileId)

def bundleBody (assessed : List HeavyProfile)
    (node : Option ComputeNodeManifest) : Fields :=
  [(text "schema_version", .str (text "HeavyCapabilityRoutingBundle/v1")),
    (text "profiles", .arr (assessed.map HeavyProfile.toDict)),
    (text "active_local_profile_ids",
      idsWhere (fun status => status = .activeLocal) assessed),
    (text "routable_remote_profile_ids",
      idsWhere (fun status => status = .routableRemote) assessed),
    (text "wait_profile_ids",
      idsWhere HeavyCapabilityStatus.waits assessed),
    (text "node_manifest",
      (node.map ComputeNodeManifest.toDict).getD .null),
    (text "implicit_spend", .int 0),
    (text "unbounded_local_runs", .int 0),
    (text "canonical_writes", .int 0),
    (text "grants_authority", .bool false)]

/-- `build_heavy_capability_routing_bundle`. -/
def buildHeavyCapabilityRoutingBundle (host : Host)
    (profiles : Option (List HeavyProfile))
    (node : Option ComputeNodeManifest) (receipt : Option BudgetReceipt) :
    Except PyError Fields := do
  let assessed ←
    (givenProfiles profiles).mapM (assessProfile host node receipt)
  sealed "bundle_id" (bundleBody assessed node)

/-- `_decision`. -/
def decision (job : HeavyRemoteJobSpec) (status : HeavyCapabilityStatus)
    (reason : String) : Except PyError Fields :=
  sealed "decision_id"
    [(text "schema_version",
        .str (text "HeavyRemoteRoutingDecision/v1")),
      (text "job_id", .str job.jobId),
      (text "profile_id", .str job.profileId),
      (text "status", .str status.value),
      (text "reason", .str (text reason)),
      (text "checkpoint_interval_steps", .int job.checkpointIntervalSteps),
      (text "implicit_spend", .int 0),
      (text "unbounded_local_runs", .int 0),
      (text "canonical_writes", .int 0),
      (text "grants_authority", .bool false)]

/-- The profile of a job: the last one with its id. -/
def profileOf (profiles : List HeavyProfile) (profileId : Text) :
    Option HeavyProfile :=
  profiles.reverse.find? fun profile => profile.profileId = profileId

/-- The receipt has too few units left for a job. -/
def isExhausted (job : HeavyRemoteJobSpec)
    (receipt : Option BudgetReceipt) : Bool :=
  match receipt with
  | none => false
  | some receipt => receipt.remainingUnits < job.budgetUnits

/-- What `route_heavy_job` decides. -/
def routeStatus (job : HeavyRemoteJobSpec)
    (profiles : Option (List HeavyProfile))
    (node : Option ComputeNodeManifest) (receipt : Option BudgetReceipt) :
    HeavyCapabilityStatus × String :=
  match profileOf (givenProfiles profiles) job.profileId with
  | none => (.waitCapability, "unknown profile")
  | some profile =>
      if profile.paidOracle = true ∧ receipt.isNone then
        (.waitAuthority, "credential_or_budget_authority_missing")
      else if 0 < job.budgetUnits ∧ receipt.isNone then
        (.waitAuthority, "credential_or_budget_authority_missing")
      else if isExhausted job receipt then
        (.waitAuthority, "budget exhausted")
      else
        nodeStatus node job.architecture job.imageDigest
          [job.requiredCapability]

/-- `route_heavy_job`. -/
def routeHeavyJob (job : HeavyRemoteJobSpec)
    (profiles : Option (List HeavyProfile))
    (node : Option ComputeNodeManifest) (receipt : Option BudgetReceipt) :
    Except PyError Fields :=
  let (status, reason) := routeStatus job profiles node receipt
  decision job status reason

/-! ## Agreement -/

/-- The decision routes the job to the node. -/
def Routes (decision : Fields) : Prop :=
  Json.lookup (text "status") decision =
    some (.str HeavyCapabilityStatus.routableRemote.value)

/-- A profile card has an id and a status. -/
def CardShows (card : Json) (profileId : Text)
    (status : HeavyCapabilityStatus) : Prop :=
  ∃ members, card = .obj members ∧
    Json.lookup (text "profile_id") members = some (.str profileId) ∧
    Json.lookup (text "status") members = some (.str status.value)

/-- The bundle neither lets the profile wait nor rejects it. -/
structure Admits (bundle : Fields) (profileId : Text) : Prop where
  notWaiting : ∃ ids,
    Json.lookup (text "wait_profile_ids") bundle = some (.arr ids) ∧
      .str profileId ∉ ids
  notRejected : ∃ cards,
    Json.lookup (text "profiles") bundle = some (.arr cards) ∧
      ∀ card ∈ cards, ¬ CardShows card profileId .rejected

/-- The node offers what a profile declares. -/
structure Offers (node : ComputeNodeManifest) (profile : HeavyProfile) :
    Prop where
  notRevoked : profile.imageDigest ∉ node.revokedImageDigests
  architecture : profile.architecture = node.architecture
  capabilities : ∀ capability ∈ profile.remoteCapabilities,
    capability ∈ node.capabilities
  image : profile.imageDigest ∈ node.imageDigests

/-- The modules and executables of a profile are installed for local use. -/
def Installed (host : Host) (profile : HeavyProfile) : Prop :=
  profile.requiresComputeTarget = false ∧
    profile.tinyLocalAllowed = true ∧
    (∀ name ∈ profile.importNames, host.findSpec name = .ok true) ∧
    ∀ name ∈ profile.executableNames, host.which name = true

/-- A profile has the authority and a place to run. -/
structure Ready (host : Host) (node : Option ComputeNodeManifest)
    (receipt : Option BudgetReceipt) (profile : HeavyProfile) : Prop where
  authority : profile.paidOracle = true → receipt.isSome
  place : Installed host profile ∨
    ∃ manifest ∈ node, manifest.online = true ∧ Offers manifest profile

/-- The node has the status of a route when it offers what was asked for. -/
theorem nodeStatus_routable_iff
    {node : Option ComputeNodeManifest} {architecture imageDigest : Text}
    {capabilities : List Text} :
    (nodeStatus node architecture imageDigest capabilities).1 =
        .routableRemote ↔
      ∃ manifest ∈ node, manifest.online = true ∧
        imageDigest ∉ manifest.revokedImageDigests ∧
        architecture = manifest.architecture ∧
        (∀ capability ∈ capabilities,
          capability ∈ manifest.capabilities) ∧
        imageDigest ∈ manifest.imageDigests := by
  cases node with
  | none => simp [nodeStatus]
  | some manifest =>
      simp only [nodeStatus, Option.mem_some_iff, exists_eq_left']
      split_ifs with offline revoked differs missing absent
      · simp [offline]
      · simp [revoked]
      · simp [differs]
      · obtain ⟨capability, isAsked, isMissing⟩ := missing
        simp only [false_iff]
        rintro ⟨_, _, _, offered, _⟩
        exact isMissing (offered capability isAsked)
      · push Not at missing
        simp only [not_not] at differs
        exact ⟨fun _ => ⟨Bool.eq_true_of_not_eq_false offline, revoked,
          differs, missing, absent⟩, fun _ => rfl⟩
      · simp [absent]

/-- A node that is no route makes the profile wait or rejects it. -/
theorem nodeStatus_refuses
    {node : Option ComputeNodeManifest} {architecture imageDigest : Text}
    {capabilities : List Text}
    (noRoute : (nodeStatus node architecture imageDigest capabilities).1 ≠
      .routableRemote) :
    (nodeStatus node architecture imageDigest capabilities).1.waits = true ∨
      (nodeStatus node architecture imageDigest capabilities).1 =
        .rejected := by
  cases node with
  | none => exact .inl rfl
  | some manifest =>
      simp only [nodeStatus] at noRoute ⊢
      split_ifs at noRoute ⊢
      · exact .inl rfl
      · exact .inr rfl
      · exact .inl rfl
      · exact .inl rfl
      · exact absurd rfl noRoute
      · exact .inl rfl

/-- The node is a route for a profile when it is online and offers what the
profile declares. -/
theorem nodeStatus_offers_iff
    {node : Option ComputeNodeManifest} (profile : HeavyProfile) :
    (nodeStatus node profile.architecture profile.imageDigest
        profile.remoteCapabilities).1 = .routableRemote ↔
      ∃ manifest ∈ node, manifest.online = true ∧
        Offers manifest profile := by
  rw [nodeStatus_routable_iff]
  refine exists_congr fun manifest => and_congr_right fun _ =>
    and_congr_right fun _ => ?_
  constructor
  · rintro ⟨notRevoked, architecture, capabilities, image⟩
    exact ⟨notRevoked, architecture, capabilities, image⟩
  · rintro ⟨notRevoked, architecture, capabilities, image⟩
    exact ⟨notRevoked, architecture, capabilities, image⟩

/-- A status that neither waits nor rejects. -/
def HeavyCapabilityStatus.admits (status : HeavyCapabilityStatus) : Prop :=
  status.waits = false ∧ status ≠ .rejected

theorem runsLocally_iff
    {host : Host} {profile : HeavyProfile} {found : List Bool}
    (looked : profile.importNames.mapM host.findSpec = .ok found) :
    runsLocally host profile found = true ↔ Installed host profile := by
  obtain ⟨each, back⟩ := mapM_eq_ok looked
  have areFound : (∀ result ∈ found, result = true) ↔
      ∀ name ∈ profile.importNames, host.findSpec name = .ok true := by
    constructor
    · intro allFound name isNamed
      obtain ⟨result, isResult, returned⟩ := each name isNamed
      rwa [allFound result isResult] at returned
    · intro allFound result isResult
      obtain ⟨name, isNamed, returned⟩ := back result isResult
      rw [allFound name isNamed] at returned
      exact (Except.ok.inj returned).symm
  simp only [runsLocally, Installed, Bool.and_eq_true,
    Bool.not_eq_true', List.all_eq_true, id_eq, areFound]
  tauto

/-- What an assessed profile tells: its id is the profile's own, and its
status admits it when it is ready. -/
theorem assessProfile_spec
    {host : Host} {node : Option ComputeNodeManifest}
    {receipt : Option BudgetReceipt} {profile assessed : HeavyProfile}
    (assesses : assessProfile host node receipt profile = .ok assessed) :
    assessed.profileId = profile.profileId ∧
      (assessed.status.admits ↔ Ready host node receipt profile) := by
  unfold assessProfile at assesses
  split_ifs at assesses with unpaid
  · obtain rfl := Except.ok.inj assesses
    refine ⟨rfl, fun admits => ?_, fun ready => ?_⟩
    · exact absurd admits.1 (by simp [HeavyProfile.withStatus,
        HeavyCapabilityStatus.waits])
    · have isPaid := ready.authority unpaid.1
      rw [Option.isNone_iff_eq_none] at unpaid
      simp [unpaid.2] at isPaid
  · have authority : profile.paidOracle = true → receipt.isSome := by
      intro isPaid
      cases receipt with
      | none => exact absurd ⟨isPaid, rfl⟩ unpaid
      | some receipt => rfl
    obtain ⟨found, looked, assesses⟩ := bind_eq_ok_iff.mp assesses
    split_ifs at assesses with runs
    · obtain rfl := pure_eq_ok_iff.mp assesses
      refine ⟨rfl, fun _ => ?_, fun _ => ?_⟩
      · exact ⟨authority, .inl ((runsLocally_iff looked).mp runs)⟩
      · exact ⟨rfl, HeavyCapabilityStatus.noConfusion⟩
    · obtain rfl := pure_eq_ok_iff.mp assesses
      refine ⟨rfl, fun admits => ?_, fun ready => ?_⟩
      · refine ⟨authority, .inr ((nodeStatus_offers_iff profile).mp ?_)⟩
        by_contra noRoute
        rcases nodeStatus_refuses noRoute with waits | rejected
        · exact Bool.noConfusion (admits.1.symm.trans waits)
        · exact admits.2 rejected
      · rcases ready.place with installed | offered
        · exact absurd ((runsLocally_iff looked).mpr installed) runs
        · have isRoute := (nodeStatus_offers_iff profile).mpr offered
          change HeavyCapabilityStatus.admits (nodeStatus node
            profile.architecture profile.imageDigest
            profile.remoteCapabilities).1
          rw [isRoute]
          exact ⟨rfl, HeavyCapabilityStatus.noConfusion⟩

/-! ## The bundle -/

/-- A member is still found when others follow. -/
theorem lookup_append
    {name : Text} {value : Json} {members : Fields}
    (member : Json.lookup name members = some value) (others : Fields) :
    Json.lookup name (members ++ others) = some value := by
  induction members with
  | nil => cases member
  | cons first rest induction =>
      rw [Json.lookup] at member
      rw [List.cons_append, Json.lookup]
      split_ifs at member ⊢ with isFirst
      · exact member
      · exact induction member

/-- A sealed dict keeps the members it had. -/
theorem lookup_sealed
    {key : String} {body whole : Fields} (seals : sealed key body = .ok whole)
    {name : Text} {value : Json} (member : Json.lookup name body = some value) :
    Json.lookup name whole = some value := by
  obtain ⟨data, _, returned⟩ := bind_eq_ok_iff.mp seals
  obtain rfl := pure_eq_ok_iff.mp returned
  exact lookup_append member _

/-- The id of a profile is listed among those of some statuses. -/
theorem mem_idsWhere
    {accepts : HeavyCapabilityStatus → Bool} {profiles : List HeavyProfile}
    {profileId : Text} {ids : List Json}
    (listed : idsWhere accepts profiles = .arr ids) :
    .str profileId ∈ ids ↔ ∃ profile ∈ profiles,
      profile.profileId = profileId ∧ accepts profile.status = true := by
  obtain rfl := Json.arr.inj listed
  simp only [List.mem_map, List.mem_filter, Json.str.injEq]
  constructor
  · rintro ⟨_, ⟨profile, ⟨isProfile, accepted⟩, rfl⟩, isId⟩
    exact ⟨profile, isProfile, isId, accepted⟩
  · rintro ⟨profile, isProfile, rfl, accepted⟩
    exact ⟨_, ⟨profile, ⟨isProfile, accepted⟩, rfl⟩, rfl⟩

/-- Two statuses with one value are the same. -/
theorem HeavyCapabilityStatus.value_injective :
    Function.Injective HeavyCapabilityStatus.value := by
  intro first second same
  revert same
  cases first <;> cases second <;> decide

theorem cardShows_iff
    {profile : HeavyProfile} {profileId : Text}
    {status : HeavyCapabilityStatus} :
    CardShows profile.toDict profileId status ↔
      profile.profileId = profileId ∧ profile.status = status := by
  have itsId : ∀ members, profile.toDict = .obj members →
      Json.lookup (text "profile_id") members =
        some (.str profile.profileId) := by
    intro members isDict
    obtain rfl := Json.obj.inj isDict
    rfl
  have itsStatus : ∀ members, profile.toDict = .obj members →
      Json.lookup (text "status") members =
        some (.str profile.status.value) := by
    intro members isDict
    obtain rfl := Json.obj.inj isDict
    rfl
  constructor
  · rintro ⟨members, isDict, shownId, shownStatus⟩
    rw [itsId members isDict, Option.some.injEq, Json.str.injEq] at shownId
    rw [itsStatus members isDict, Option.some.injEq, Json.str.injEq]
      at shownStatus
    exact ⟨shownId, HeavyCapabilityStatus.value_injective shownStatus⟩
  · rintro ⟨rfl, rfl⟩
    exact ⟨_, rfl, itsId _ rfl, itsStatus _ rfl⟩

theorem bundle_admits_iff
    {host : Host} {profiles : Option (List HeavyProfile)}
    {node : Option ComputeNodeManifest} {receipt : Option BudgetReceipt}
    {bundle : Fields} {profileId : Text}
    (built : buildHeavyCapabilityRoutingBundle host profiles node receipt =
      .ok bundle) :
    Admits bundle profileId ↔ ∀ profile ∈ givenProfiles profiles,
      profile.profileId = profileId → Ready host node receipt profile := by
  obtain ⟨assessed, assesses, seals⟩ := bind_eq_ok_iff.mp built
  obtain ⟨each, back⟩ := mapM_eq_ok assesses
  have waiting : Json.lookup (text "wait_profile_ids") bundle =
      some (idsWhere HeavyCapabilityStatus.waits assessed) :=
    lookup_sealed seals rfl
  have shown : Json.lookup (text "profiles") bundle =
      some (.arr (assessed.map HeavyProfile.toDict)) :=
    lookup_sealed seals rfl
  constructor
  · intro admits profile isGiven isProfile
    obtain ⟨result, isResult, returned⟩ := each profile isGiven
    obtain ⟨sameId, admitsIff⟩ := assessProfile_spec returned
    rw [← admitsIff]
    refine ⟨?_, fun rejected => ?_⟩
    · obtain ⟨ids, isIds, notListed⟩ := admits.notWaiting
      rw [waiting, Option.some.injEq] at isIds
      by_contra waits
      refine notListed ((mem_idsWhere isIds).mpr ⟨result, isResult,
        sameId.trans isProfile, ?_⟩)
      exact Bool.eq_true_of_not_eq_false waits
    · obtain ⟨cards, isCards, notShown⟩ := admits.notRejected
      rw [shown, Option.some.injEq, Json.arr.injEq] at isCards
      subst isCards
      exact notShown _ (List.mem_map_of_mem isResult)
        (cardShows_iff.mpr ⟨sameId.trans isProfile, rejected⟩)
  · intro ready
    have allAdmitted : ∀ result ∈ assessed, result.profileId = profileId →
        result.status.admits := by
      intro result isResult isProfile
      obtain ⟨profile, isGiven, returned⟩ := back result isResult
      obtain ⟨sameId, admitsIff⟩ := assessProfile_spec returned
      exact admitsIff.mpr (ready profile isGiven (sameId.symm.trans isProfile))
    refine ⟨⟨_, waiting, fun listed => ?_⟩, ⟨_, shown, fun card isCard => ?_⟩⟩
    · obtain ⟨result, isResult, isProfile, waits⟩ := (mem_idsWhere rfl).mp listed
      exact Bool.noConfusion
        ((allAdmitted result isResult isProfile).1.symm.trans waits)
    · obtain ⟨result, isResult, rfl⟩ := List.mem_map.mp isCard
      intro isShown
      obtain ⟨isProfile, rejected⟩ := cardShows_iff.mp isShown
      exact (allAdmitted result isResult isProfile).2 rejected

/-- A decision routes a job when its ladder ends in a route. -/
theorem routes_iff
    {job : HeavyRemoteJobSpec} {profiles : Option (List HeavyProfile)}
    {node : Option ComputeNodeManifest} {receipt : Option BudgetReceipt}
    {routed : Fields}
    (decided : routeHeavyJob job profiles node receipt = .ok routed) :
    Routes routed ↔
      (routeStatus job profiles node receipt).1 = .routableRemote := by
  have itsStatus : Json.lookup (text "status") routed =
      some (.str (routeStatus job profiles node receipt).1.value) :=
    lookup_sealed decided rfl
  rw [Routes, itsStatus, Option.some.injEq, Json.str.injEq]
  exact HeavyCapabilityStatus.value_injective.eq_iff

theorem routes_online
    {job : HeavyRemoteJobSpec} {profiles : Option (List HeavyProfile)}
    {node : Option ComputeNodeManifest} {receipt : Option BudgetReceipt}
    (routes : (routeStatus job profiles node receipt).1 = .routableRemote) :
    ∀ manifest ∈ node, manifest.online = true := by
  unfold routeStatus at routes
  split at routes
  · exact HeavyCapabilityStatus.noConfusion routes
  · split_ifs at routes
    obtain ⟨manifest, isNode, online, _⟩ := nodeStatus_routable_iff.mp routes
    rintro other isOther
    rw [Option.mem_def] at isNode isOther
    rw [isNode, Option.some.injEq] at isOther
    rwa [← isOther]

/-- A routed job finds its profile admitted by the bundle exactly when every
profile with its id has its authority and a place for what it declares: the
route itself has asked the node for what the job names. -/
theorem routed_admits_iff
    {host : Host} {job : HeavyRemoteJobSpec}
    {profiles : Option (List HeavyProfile)}
    {node : Option ComputeNodeManifest} {receipt : Option BudgetReceipt}
    {routed bundle : Fields}
    (decided : routeHeavyJob job profiles node receipt = .ok routed)
    (routes : Routes routed)
    (built : buildHeavyCapabilityRoutingBundle host profiles node receipt =
      .ok bundle) :
    Admits bundle job.profileId ↔ ∀ profile ∈ givenProfiles profiles,
      profile.profileId = job.profileId →
        (profile.paidOracle = true → receipt.isSome) ∧
          (Installed host profile ∨
            ∃ manifest ∈ node, Offers manifest profile) := by
  have online := routes_online ((routes_iff decided).mp routes)
  rw [bundle_admits_iff built]
  refine forall₃_congr fun profile _ _ => ?_
  constructor
  · rintro ⟨authority, installed | ⟨manifest, isNode, _, offers⟩⟩
    · exact ⟨authority, .inl installed⟩
    · exact ⟨authority, .inr ⟨manifest, isNode, offers⟩⟩
  · rintro ⟨authority, installed | ⟨manifest, isNode, offers⟩⟩
    · exact ⟨authority, .inl installed⟩
    · exact ⟨authority, .inr ⟨manifest, isNode, online manifest isNode,
        offers⟩⟩

/-- A profile like those of the default set. -/
def petscProfile : HeavyProfile where
  profileId := text "heavy.petsc"
  family := text "pde_hpc"
  importNames := [text "petsc4py"]
  executableNames := []
  remoteCapabilities := [text "petsc"]
  imageDigest := text "sha256:petsc-1"
  architecture := text "linux-x86_64"
  tinyLocalAllowed := true
  paidOracle := false
  checkpointPolicy := text "checkpoint_by_deterministic_step_count"
  requiresComputeTarget := true
  status := .waitComputeNode
  reason := text "runtime_or_node_capability_missing"
  named := by decide
  entries := by decide
  declares := by decide

/-- A job for the profile, with an image. -/
def petscJob (imageDigest : Text) (named : imageDigest ≠ []) :
    HeavyRemoteJobSpec where
  jobId := text "job-1"
  profileId := text "heavy.petsc"
  requiredCapability := text "petsc"
  imageDigest := imageDigest
  architecture := text "linux-x86_64"
  budgetUnits := 0
  checkpointIntervalSteps := 10
  inputDigest := text "sha256:input"
  named := by
    simp only [List.forall_mem_cons, List.not_mem_nil, false_imp_iff,
      implies_true, and_true]
    exact ⟨by decide, by decide, by decide, named,
      by decide, by decide⟩
  checkpoints := by decide

/-- A node that offers the capability, with some images. -/
def petscNode (imageDigests revoked : List Text)
    (offers : imageDigests ≠ [])
    (entries : ∀ value ∈ imageDigests ++ revoked, value ≠ []) :
    ComputeNodeManifest where
  nodeId := text "node-1"
  architecture := text "linux-x86_64"
  capabilities := [text "petsc"]
  imageDigests := imageDigests
  revokedImageDigests := revoked
  online := true
  named := by decide
  offers := ⟨by decide, offers⟩
  entries := by
    simp only [List.cons_append, List.nil_append, List.forall_mem_cons]
    exact ⟨by decide, entries⟩


/-- A host with nothing installed. -/
def bareHost : Host where
  findSpec _ := .ok false
  which _ := false

/-- The image of the profile, on the node. -/
def firstImage : Text := text "sha256:petsc-1"

/-- Another image. -/
def secondImage : Text := text "sha256:petsc-2"

/-- A job with the image the profile declares. -/
def declaredJob : HeavyRemoteJobSpec :=
  petscJob firstImage (by decide)

/-- A job with another image. -/
def strayJob : HeavyRemoteJobSpec :=
  petscJob secondImage (by decide)

/-- A node that has the image the profile declares. -/
def currentNode : ComputeNodeManifest :=
  petscNode [firstImage] [] (by decide) (by decide)

/-- A node that has another image and has revoked the declared one. -/
def revokingNode : ComputeNodeManifest :=
  petscNode [secondImage] [firstImage] (by decide) (by decide)

/-- A call that returns has a result. -/
theorem returns_of_toBool
    {result : Except PyError Fields} (returned : result.toBool = true) :
    ∃ value, result = .ok value := by
  cases result with
  | error failure => exact Bool.noConfusion returned
  | ok value => exact ⟨value, rfl⟩

/-- The two jobs are routed, and the bundles on their nodes are built. -/
theorem petsc_returns :
    (routeHeavyJob declaredJob (some [petscProfile])
        (some currentNode) none).toBool = true ∧
      (buildHeavyCapabilityRoutingBundle bareHost (some [petscProfile])
        (some currentNode) none).toBool = true ∧
      (routeHeavyJob strayJob (some [petscProfile])
        (some revokingNode) none).toBool = true ∧
      (buildHeavyCapabilityRoutingBundle bareHost (some [petscProfile])
        (some revokingNode) none).toBool = true := by
  unfold routeHeavyJob buildHeavyCapabilityRoutingBundle decision bundleBody
    sealed HeavyProfile.toDict ComputeNodeManifest.toDict
    HeavyCapabilityStatus.value
  rw [sha256_eq_strict]
  simp -index only [text_ofList]
  decide +kernel

/-- A job with the image its profile declares is routed to a node that has
the image, and the profile is admitted. -/
theorem petsc_admitted :
    ∃ routed bundle,
      routeHeavyJob declaredJob (some [petscProfile])
        (some currentNode) none = .ok routed ∧
      Routes routed ∧
      buildHeavyCapabilityRoutingBundle bareHost (some [petscProfile])
        (some currentNode) none = .ok bundle ∧
      Admits bundle (text "heavy.petsc") := by
  obtain ⟨routed, decided⟩ : ∃ routed,
      routeHeavyJob declaredJob (some [petscProfile])
        (some currentNode) none = .ok routed :=
    returns_of_toBool petsc_returns.1
  obtain ⟨bundle, built⟩ : ∃ bundle,
      buildHeavyCapabilityRoutingBundle bareHost (some [petscProfile])
        (some currentNode) none = .ok bundle :=
    returns_of_toBool petsc_returns.2.1
  have routes : Routes routed :=
    (routes_iff decided).mpr (by decide)
  refine ⟨routed, bundle, decided, routes, built, ?_⟩
  refine (routed_admits_iff decided routes built).mpr ?_
  intro profile isGiven _
  have isGiven : profile ∈ [petscProfile] := isGiven
  rw [List.mem_singleton] at isGiven
  subst isGiven
  refine ⟨Bool.noConfusion, .inr ⟨currentNode, rfl, ?_⟩⟩
  exact ⟨List.not_mem_nil, rfl, fun capability isAsked => isAsked,
    List.mem_singleton_self _⟩

/-- A job with an image of its own is routed to a node that has revoked the
image of its profile: the bundle rejects the profile. -/
theorem revokedImage_routed :
    ∃ routed bundle,
      routeHeavyJob strayJob (some [petscProfile])
        (some revokingNode) none = .ok routed ∧
      Routes routed ∧
      buildHeavyCapabilityRoutingBundle bareHost (some [petscProfile])
        (some revokingNode) none = .ok bundle ∧
      ¬ Admits bundle (text "heavy.petsc") := by
  obtain ⟨routed, decided⟩ : ∃ routed,
      routeHeavyJob strayJob (some [petscProfile])
        (some revokingNode) none = .ok routed :=
    returns_of_toBool petsc_returns.2.2.1
  obtain ⟨bundle, built⟩ : ∃ bundle,
      buildHeavyCapabilityRoutingBundle bareHost (some [petscProfile])
        (some revokingNode) none = .ok bundle :=
    returns_of_toBool petsc_returns.2.2.2
  refine ⟨routed, bundle, decided, (routes_iff decided).mpr
    (by decide), built, fun admits => ?_⟩
  have ready := (bundle_admits_iff built).mp admits petscProfile
    (List.mem_singleton_self _) rfl
  rcases ready.place with installed | ⟨manifest, isNode, _, offers⟩
  · exact Bool.noConfusion installed.1
  · obtain rfl := Option.some.inj isNode
    exact offers.notRevoked (List.mem_singleton_self _)

end ScientificResourceLab.Runtime
