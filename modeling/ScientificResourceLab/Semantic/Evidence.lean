import ScientificResourceLab.Contracts.Timestamps
import ScientificResourceLab.Python.Printing
import ScientificResourceLab.Python.Strings
import ScientificResourceLab.Steps.Fallible

/-!
# Evidence assessments

`build_assessment` of `srl.semantic.evidence` with the checks it makes: the
eleven axes and their values, the static orthogonality rules, object ids and
the timestamp.  Its arguments are decoded values, since `update_assessment`
passes on what it finds in a prior document.

What it returns is a dict; `Assessment` is the record behind such a dict,
and `buildAssessment_eq_ok` says that every dict the builder returns is the
`toDict` of a well-formed record.
-/

namespace ScientificResourceLab.Semantic

open Python Contracts Steps

/-! ## Axes -/

/-- The evidence axes, in the order of `AXIS_NAMES`. -/
inductive Axis where
  | capabilityState
  | exerciseLevel
  | engineExecution
  | scientificCheck
  | formalCheck
  | formalScope
  | statisticalSupport
  | causalIdentification
  | algorithmicCrossEngineReproduction
  | independentEmpiricalReplication
  | integrationAuthority
  deriving DecidableEq, Repr

def Axis.name : Axis → Text
  | .capabilityState => text "capability_state"
  | .exerciseLevel => text "exercise_level"
  | .engineExecution => text "engine_execution"
  | .scientificCheck => text "scientific_check"
  | .formalCheck => text "formal_check"
  | .formalScope => text "formal_scope"
  | .statisticalSupport => text "statistical_support"
  | .causalIdentification => text "causal_identification"
  | .algorithmicCrossEngineReproduction =>
      text "algorithmic_cross_engine_reproduction"
  | .independentEmpiricalReplication =>
      text "independent_empirical_replication"
  | .integrationAuthority => text "integration_authority"

/-- `AXIS_NAMES`. -/
def axes : List Axis :=
  [.capabilityState, .exerciseLevel, .engineExecution, .scientificCheck,
    .formalCheck, .formalScope, .statisticalSupport,
    .causalIdentification, .algorithmicCrossEngineReproduction,
    .independentEmpiricalReplication, .integrationAuthority]

/-- `_AXIS_ENUMS`. -/
def Axis.values : Axis → List Text
  | .capabilityState =>
      [text "unknown", text "declared", text "profiled", text "ready"]
  | .exerciseLevel =>
      [text "none", text "import_probe", text "runtime_probe",
        text "actual_compute"]
  | .engineExecution =>
      [text "not_run", text "failed", text "completed"]
  | .scientificCheck =>
      [text "not_applicable", text "unchecked", text "checked",
        text "contradicted"]
  | .formalCheck =>
      [text "not_applicable", text "unchecked", text "checked",
        text "proven"]
  | .formalScope =>
      [text "none", text "exact_statement", text "restricted_model",
        text "full_model"]
  | .statisticalSupport =>
      [text "not_applicable", text "none", text "weak", text "moderate",
        text "strong"]
  | .causalIdentification =>
      [text "not_applicable", text "assumed", text "partially_identified",
        text "identified"]
  | .algorithmicCrossEngineReproduction =>
      [text "not_applicable", text "none", text "reproduced",
        text "divergent"]
  | .independentEmpiricalReplication =>
      [text "not_applicable", text "none", text "replicated",
        text "contradicted"]
  | .integrationAuthority =>
      [text "none", text "proposal_only", text "admitted_a1_sandbox",
        text "admitted_a2"]

def axisNamed (name : Text) : Option Axis :=
  axes.find? fun axis => axis.name = name

/-- A value for every axis. -/
abbrev Axes := Axis → Text

/-- A `ContractError`. -/
def contractError (message : Text) : PyError :=
  ⟨.contractError, message⟩

/-- The value of one axis in an axes object. -/
def axisValue (members : List (Text × Json)) (axis : Axis) :
    Except PyError Text :=
  let refusal (shown : Text) : PyError :=
    contractError
      (text "EvidenceAssessment axis " ++ quoted axis.name ++
        text " has value " ++ shown ++ text "; must be one of " ++
        quotedList (sortedTexts axis.values))
  match getOrNone axis.name members with
  | .str value =>
      if value ∈ axis.values then .ok value
      else .error (refusal (quoted value))
  | other => .error (refusal (reprJson other))

/-- The loop of `_validate_axes`, which stops at the first bad value. -/
def axisValues (members : List (Text × Json)) :
    List Axis → Except PyError (List Text)
  | [] => pure []
  | axis :: rest => do
      let value ← axisValue members axis
      let values ← axisValues members rest
      pure (value :: values)

/-- The values of a list read as a value for every axis. -/
def axesOf (values : List Text) : Axes :=
  fun axis => values.getD (axes.idxOf axis) []

/-- `_validate_axes`. -/
def validateAxes (value : Json) : Except PyError Axes :=
  match value with
  | .obj members => do
      let actual := members.map Prod.fst
      let expected := axes.map Axis.name
      let missing := sortedTexts (expected.filter (· ∉ actual))
      refuseIf (missing ≠ []) (contractError
        (text "EvidenceAssessment 'axes' missing axis/axes: " ++
          quotedList missing))
      let extra := sortedTexts (actual.filter (· ∉ expected))
      refuseIf (extra ≠ []) (contractError
        (text "EvidenceAssessment 'axes' has unexpected axis/axes: " ++
          quotedList extra))
      let values ← axisValues members axes
      pure (axesOf values)
  | _ =>
      .error (contractError
        (text "EvidenceAssessment 'axes' must be an object"))

/-! ## Orthogonality of the axes -/

/-- An `EvidenceAxisError` about the orthogonality of the axes. -/
def orthogonalityError (message : Text) : PyError :=
  ⟨.evidenceAxisError,
    text "EvidenceAssessment orthogonality violated: " ++ message⟩

/-- `_enforce_probe_not_compute`. -/
def enforceProbeNotCompute (values : Axes) : Except PyError Unit :=
  refuseIf
    (values .exerciseLevel = text "import_probe" ∧
      values .engineExecution = text "completed")
    (orthogonalityError
      (text "exercise_level 'import_probe' forbids engine_execution " ++
        text "'completed' (an import probe cannot have produced computed " ++
        text "output; probe is not compute)"))

/-- `_enforce_failed_not_checked`. -/
def enforceFailedNotChecked (values : Axes) : Except PyError Unit :=
  refuseIf
    (values .engineExecution = text "failed" ∧
      values .scientificCheck = text "checked")
    (orthogonalityError
      (text "engine_execution 'failed' forbids scientific_check " ++
        text "'checked' (a failed run produced no scientific output to " ++
        text "check)"))

/-- `_RESERVED_AUTHORITIES`. -/
def reservedAuthorities : List Text :=
  [text "admitted_a1_sandbox", text "admitted_a2"]

/-- `_enforce_authority_path`. -/
def enforceAuthorityPath (values : Axes) : Except PyError Unit :=
  refuseIf (values .integrationAuthority ∈ reservedAuthorities)
    (orthogonalityError
      (text "integration_authority " ++
        quoted (values .integrationAuthority) ++
        text " is reserved; SRL has no authority path to admit a claim " ++
        text "beyond 'proposal_only' (there is no admission route in " ++
        text "this codebase)"))

/-- `_enforce_orthogonality`. -/
def enforceOrthogonality (values : Axes) : Except PyError Unit := do
  enforceProbeNotCompute values
  enforceFailedNotChecked values
  enforceAuthorityPath values

/-- The static orthogonality rules. -/
structure Orthogonal (values : Axes) : Prop where
  probeNotCompute : ¬ (values .exerciseLevel = text "import_probe" ∧
    values .engineExecution = text "completed")
  failedNotChecked : ¬ (values .engineExecution = text "failed" ∧
    values .scientificCheck = text "checked")
  authorityPathNone :
    values .integrationAuthority ≠ text "admitted_a1_sandbox" ∧
      values .integrationAuthority ≠ text "admitted_a2"

theorem enforceOrthogonality_eq_ok {values : Axes} :
    enforceOrthogonality values = .ok () ↔ Orthogonal values := by
  simp only [enforceOrthogonality, enforceProbeNotCompute,
    enforceFailedNotChecked, enforceAuthorityPath, bind_eq_ok_iff,
    refuseIf_eq_ok_iff, reservedAuthorities, List.mem_cons,
    List.not_mem_nil, or_false, not_or, exists_const_iff]
  constructor
  · rintro ⟨-, probe, -, failed, authority⟩
    exact ⟨probe, failed, authority⟩
  · rintro ⟨probe, failed, authority⟩
    exact ⟨⟨⟨⟩⟩, probe, ⟨⟨⟩⟩, failed, authority⟩

/-! ## Documents -/

/-- `_EVIDENCE_ASSESSMENT_V1`. -/
def evidenceAssessmentV1 : Text :=
  text "EvidenceAssessment/v1"

/-- `dict.get(key, default)` on the members of a document. -/
def getOr (key : String) (default : Json)
    (members : List (Text × Json)) : Json :=
  (Json.lookup (text key) members).getD default

/-- The check that `validate` makes of the schema version. -/
def checkSchemaVersion (members : List (Text × Json)) :
    Except PyError Unit :=
  let refusal (shown : Text) : PyError :=
    contractError
      (text "EvidenceAssessment schema_version must be " ++
        quoted evidenceAssessmentV1 ++ text ", got " ++ shown)
  match getOrNone (text "schema_version") members with
  | .str version =>
      refuseIf (version ≠ evidenceAssessmentV1) (refusal (quoted version))
  | other => .error (refusal (reprJson other))

/-- `validate`, with the members of the document and its resolved axes. -/
def validate (assessment : Json) :
    Except PyError (List (Text × Json) × Axes) :=
  match assessment with
  | .obj members => do
      checkSchemaVersion members
      let values ← validateAxes (getOr "axes" (.obj []) members)
      enforceOrthogonality values
      pure (members, values)
  | other =>
      .error (contractError
        (text "EvidenceAssessment must be an object, got " ++
          typeName other))

/-- `_require_object_id`. -/
def requireObjectId (field : String) (value : Json) :
    Except PyError Text :=
  let refusal (reason : Text) : PyError :=
    contractError
      (text field ++ text " must be a 'sha256:<64 hex>' object id: " ++
        reason)
  match value with
  | .str id =>
      match validateObjectId id with
      | .ok id => .ok id
      | .error error => .error (refusal error.message)
  | other =>
      .error (refusal
        (text "object_id must be a string, got " ++ typeName other))

/-- `_require_evidence_refs` and `_require_parents`. -/
def requireObjectIds (field : String) (value : Json) :
    Except PyError (List Text) :=
  match value with
  | .arr items => do
      let ids ← items.mapM (requireObjectId (field ++ " entry"))
      refuseIf (¬ ids.Nodup) (contractError
        (text field ++ text " must be unique"))
      pure ids
  | _ =>
      .error (contractError (text field ++ text " must be an array"))

/-- `_require_evidence_refs`. -/
def requireEvidenceRefs : Json → Except PyError (List Text) :=
  requireObjectIds "evidence_refs"

/-- `_require_parents`. -/
def requireParents : Json → Except PyError (List Text) :=
  requireObjectIds "parents"

/-- `ASSESSORS`. -/
def assessors : List Text :=
  [text "adapter", text "validator", text "operator", text "bridge"]

/-- The membership test of an assessor; lists and dicts do not hash. -/
def requireAssessor (value : Json) : Except PyError Text :=
  let refusal (shown : Text) : PyError :=
    contractError
      (text "assessor " ++ shown ++ text " must be one of " ++
        quotedList (sortedTexts assessors))
  match value with
  | .str assessor =>
      if assessor ∈ assessors then .ok assessor
      else .error (refusal (quoted assessor))
  | .arr _ => .error (raised .typeError "unhashable type: 'list'")
  | .obj _ => .error (raised .typeError "unhashable type: 'dict'")
  | other => .error (refusal (reprJson other))

/-- The record behind an assessment document. -/
structure Assessment where
  subjectClaimId : Text
  axes : Axes
  evidenceRefs : List Text
  assessor : Text
  createdUtc : Text
  parents : List Text
  assessmentId : Text

/-- The axes object of an assessment. -/
def axesDict (values : Axes) : Json :=
  .obj (axes.map fun axis => (axis.name, .str (values axis)))

/-- The members of an assessment without its `assessment_id`. -/
def Assessment.body (assessment : Assessment) : List (Text × Json) :=
  [(text "schema_version", .str evidenceAssessmentV1),
    (text "subject_claim_id", .str assessment.subjectClaimId),
    (text "axes", axesDict assessment.axes),
    (text "evidence_refs", .arr (assessment.evidenceRefs.map .str)),
    (text "assessor", .str assessment.assessor),
    (text "created_utc", .str assessment.createdUtc),
    (text "parents", .arr (assessment.parents.map .str)),
    (text "canonical_writes", .int 0),
    (text "grants_authority", .bool false)]

/-- The document of an assessment. -/
def Assessment.toDict (assessment : Assessment) : Json :=
  .obj (assessment.body ++
    [(text "assessment_id", .str assessment.assessmentId)])

/-- The arguments of `build_assessment`. -/
structure Arguments where
  subjectClaimId : Json
  axes : Json
  evidenceRefs : Json
  assessor : Json
  parents : Json
  createdUtc : Text

/-- `value or []`. -/
def orEmpty (value : Json) : Json :=
  if isTruthy value then value else .arr []

/-- `build_assessment`. -/
def buildAssessment (arguments : Arguments) : Except PyError Json := do
  let values ← validateAxes arguments.axes
  enforceOrthogonality values
  let subject ←
    requireObjectId "subject_claim_id" arguments.subjectClaimId
  let assessor ← requireAssessor arguments.assessor
  let refs ← requireEvidenceRefs (orEmpty arguments.evidenceRefs)
  let parents ← requireParents (orEmpty arguments.parents)
  let createdUtc ← normalizeTimestamp arguments.createdUtc
  let draft : Assessment :=
    { subjectClaimId := subject
      axes := values
      evidenceRefs := refs
      assessor := assessor
      createdUtc := createdUtc
      parents := parents
      assessmentId := [] }
  let id ← objectId (.obj draft.body)
  let assessment := Assessment.toDict { draft with assessmentId := id }
  let _ ← validate assessment
  pure assessment

/-! ## What the checks establish -/

theorem axisValues_eq_ok
    {members : List (Text × Json)} {list : List Axis} {values : List Text}
    (returned : axisValues members list = .ok values) :
    list.map (axisValue members) = values.map .ok := by
  induction list generalizing values with
  | nil =>
      rw [axisValues, pure_eq_ok_iff] at returned
      rw [← returned]
      rfl
  | cons axis rest induction =>
      simp only [axisValues, bind_eq_ok_iff, pure_eq_ok_iff] at returned
      obtain ⟨value, isValue, values, areValues, rfl⟩ := returned
      simp only [List.map_cons, isValue, induction areValues]

/-- The resolved axes are those that the members give. -/
theorem validateAxes_eq_ok
    {members : List (Text × Json)} {values : Axes}
    (validated : validateAxes (.obj members) = .ok values) (axis : Axis) :
    axisValue members axis = .ok (values axis) := by
  simp only [validateAxes, bind_eq_ok_iff, pure_eq_ok_iff] at validated
  obtain ⟨_, _, _, _, list, areValues, rfl⟩ := validated
  have each := axisValues_eq_ok areValues
  have length : list.length = axes.length := by
    simpa using (congrArg List.length each).symm
  have known : axes.idxOf axis < axes.length := by
    cases axis <;> decide
  have found := congrArg (fun results => results[axes.idxOf axis]?) each
  simp only [List.getElem?_map, List.getElem?_eq_getElem known,
    List.getElem?_eq_getElem (length ▸ known), Option.map_some,
    List.getElem_idxOf known, Option.some.injEq] at found
  rw [found, axesOf, List.getD_eq_getElem?_getD,
    List.getElem?_eq_getElem (length ▸ known)]
  rfl

/-- A resolved axis is a string of the document and a value of its axis. -/
theorem axisValue_eq_ok
    {members : List (Text × Json)} {axis : Axis} {value : Text}
    (returned : axisValue members axis = .ok value) :
    getOrNone axis.name members = .str value ∧ value ∈ axis.values := by
  simp only [axisValue] at returned
  split at returned
  · next found isFound =>
      split at returned
      · next known =>
          cases returned
          exact ⟨isFound, known⟩
      · cases returned
  · cases returned

/-- What `validate` reads from a document that it accepts. -/
theorem validate_eq_ok
    {assessment : Json} {members : List (Text × Json)} {values : Axes}
    (validated : validate assessment = .ok (members, values)) :
    assessment = .obj members ∧
      validateAxes (getOr "axes" (.obj []) members) = .ok values := by
  unfold validate at validated
  split at validated
  · simp only [bind_eq_ok_iff, pure_eq_ok_iff, Prod.mk.injEq] at validated
    obtain ⟨_, _, _, resolved, _, _, rfl, rfl⟩ := validated
    exact ⟨rfl, resolved⟩
  · cases validated

theorem requireObjectId_eq_ok
    {field : String} {value : Json} {id : Text}
    (returned : requireObjectId field value = .ok id) :
    value = .str id := by
  simp only [requireObjectId] at returned
  split at returned
  · next candidate =>
      split at returned
      · next valid accepted =>
          cases returned
          rw [validateObjectId] at accepted
          split at accepted
          · cases accepted
            rfl
          · cases accepted
      · cases returned
  · cases returned

theorem mapM_requireObjectId
    {field : String} {items : List Json} {ids : List Text}
    (returned : items.mapM (requireObjectId field) = .ok ids) :
    items = ids.map .str := by
  induction items generalizing ids with
  | nil =>
      rw [List.mapM_nil, pure_eq_ok_iff] at returned
      rw [← returned]
      rfl
  | cons item items induction =>
      simp only [List.mapM_cons, bind_eq_ok_iff, pure_eq_ok_iff]
        at returned
      obtain ⟨first, isFirst, rest, isRest, rfl⟩ := returned
      rw [requireObjectId_eq_ok isFirst, induction isRest]
      rfl

/-- An accepted list of ids is the list of strings it was read from. -/
theorem requireObjectIds_eq_ok
    {field : String} {value : Json} {ids : List Text}
    (returned : requireObjectIds field value = .ok ids) :
    value = .arr (ids.map .str) ∧ ids.Nodup := by
  unfold requireObjectIds at returned
  split at returned
  · next items =>
      simp only [bind_eq_ok_iff, refuseIf_eq_ok_iff, pure_eq_ok_iff,
        not_not] at returned
      obtain ⟨_, read, _, unique, rfl⟩ := returned
      rw [mapM_requireObjectId read]
      exact ⟨rfl, unique⟩
  · cases returned

/-- What holds of every assessment that the builder returns. -/
structure Assessment.WellFormed (assessment : Assessment) : Prop where
  known : ∀ axis, assessment.axes axis ∈ axis.values
  orthogonal : Orthogonal assessment.axes
  distinctRefs : assessment.evidenceRefs.Nodup
  distinctParents : assessment.parents.Nodup
  identified :
    objectId (.obj assessment.body) = .ok assessment.assessmentId

theorem buildAssessment_eq_ok
    {arguments : Arguments} {document : Json}
    (built : buildAssessment arguments = .ok document) :
    ∃ assessment : Assessment, document = assessment.toDict ∧
      assessment.WellFormed ∧
      validateAxes arguments.axes = .ok assessment.axes ∧
      arguments.subjectClaimId = .str assessment.subjectClaimId ∧
      orEmpty arguments.evidenceRefs =
        .arr (assessment.evidenceRefs.map .str) ∧
      orEmpty arguments.parents = .arr (assessment.parents.map .str) := by
  simp only [buildAssessment, bind_eq_ok_iff, pure_eq_ok_iff] at built
  obtain ⟨values, resolved, _, orthogonal, subject, isSubject, assessor,
    isAssessor, refs, areRefs, parents, areParents, createdUtc, _, id,
    identified, _, _, rfl⟩ := built
  obtain ⟨readRefs, distinctRefs⟩ := requireObjectIds_eq_ok areRefs
  obtain ⟨readParents, distinctParents⟩ :=
    requireObjectIds_eq_ok areParents
  have known : ∀ axis, values axis ∈ axis.values := by
    intro axis
    cases isObject : arguments.axes with
    | obj members =>
        rw [isObject] at resolved
        exact (axisValue_eq_ok (validateAxes_eq_ok resolved axis)).2
    | _ =>
        rw [isObject] at resolved
        cases resolved
  refine ⟨_, rfl, ⟨known, enforceOrthogonality_eq_ok.mp orthogonal,
    distinctRefs, distinctParents, identified⟩, resolved,
    requireObjectId_eq_ok isSubject, readRefs, readParents⟩

/-- Resolving an axes object gives the axes it was made of. -/
theorem validateAxes_axesDict
    {values resolved : Axes}
    (validated : validateAxes (axesDict values) = .ok resolved) :
    resolved = values := by
  funext axis
  have read : getOrNone axis.name
      (axes.map fun axis => (axis.name, .str (values axis))) =
        .str (values axis) := by
    cases axis <;> rfl
  have found := (axisValue_eq_ok (validateAxes_eq_ok validated axis)).1
  exact (Json.str.inj (read.symm.trans found)).symm

end ScientificResourceLab.Semantic
