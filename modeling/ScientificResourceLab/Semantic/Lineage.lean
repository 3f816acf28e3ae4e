import ScientificResourceLab.Semantic.Evidence

/-!
# Evidence lineages

`update_assessment` moves some axes of a prior assessment on the strength of
one evidence object.  The new assessment names the prior one among its
parents, so a chain of updates is a lineage.

`updateAssessment_eq_ok` says what one successful update establishes; the
chain results are inductions over the updates.  `lineage_invariants` collects
what holds along every chain from a built assessment, and
`ladder_never_falls` what the guard against quiet loss gives: an axis does
not fall while it stays on its ladder, and only a detour through a value off
the ladder can lower it.
-/

namespace ScientificResourceLab.Semantic

open Python Contracts Steps

/-! ## Deltas -/

/-- `_FORMAL_AXES`. -/
def formalAxes : List Axis :=
  [.formalCheck, .formalScope]

/-- `_EMPIRICAL_AXES`. -/
def empiricalAxes : List Axis :=
  [.statisticalSupport, .causalIdentification]

/-- One member of a delta, when it names an axis and one of its values. -/
def deltaEntry (member : Text × Json) : Except PyError (Axis × Text) :=
  match axisNamed member.1 with
  | none =>
      .error (contractError
        (text "update_assessment delta names unknown axis " ++
          quoted member.1))
  | some axis =>
      let refusal (shown : Text) : PyError :=
        contractError
          (text "update_assessment delta axis " ++ quoted member.1 ++
            text " has value " ++ shown ++ text "; must be one of " ++
            quotedList (sortedTexts axis.values))
      match member.2 with
      | .str value =>
          if value ∈ axis.values then .ok (axis, value)
          else .error (refusal (quoted value))
      | other => .error (refusal (reprJson other))

/-- The checks of a delta before anything is applied. -/
def deltaEntries (delta : Json) : Except PyError (List (Axis × Text)) :=
  let refusal : PyError :=
    contractError
      (text "update_assessment delta must be a non-empty axes dict")
  match delta with
  | .obj [] => .error refusal
  | .obj members => members.mapM deltaEntry
  | _ => .error refusal

/-- `_enforce_delta_orthogonality`. -/
def enforceDeltaOrthogonality (delta : List (Axis × Text)) :
    Except PyError Unit := do
  let touched := delta.map Prod.fst
  refuseIf ((∃ axis ∈ formalAxes, axis ∈ touched) ∧
      ∃ axis ∈ empiricalAxes, axis ∈ touched)
    (orthogonalityError
      (text "an update delta moves a formal axis and an empirical axis " ++
        text "in the same step (formal proof is not empirical truth; a " ++
        text "formal-axis update must never modify statistical_support " ++
        text "or causal_identification)"))
  refuseIf (Axis.algorithmicCrossEngineReproduction ∈ touched ∧
      Axis.independentEmpiricalReplication ∈ touched)
    (orthogonalityError
      (text "an update delta moves " ++
        text "algorithmic_cross_engine_reproduction and " ++
        text "independent_empirical_replication in the same step " ++
        text "(algorithm agreement is not independent empirical " ++
        text "replication; setting one never sets the other)"))

/-! ## Ladders -/

/-- `_AXIS_ORDER`. -/
def axisOrder : Axis → Option (List Text)
  | .exerciseLevel =>
      some [text "none", text "import_probe", text "runtime_probe",
        text "actual_compute"]
  | .engineExecution =>
      some [text "not_run", text "failed", text "completed"]
  | .scientificCheck => some [text "unchecked", text "checked"]
  | .formalCheck =>
      some [text "unchecked", text "checked", text "proven"]
  | .statisticalSupport =>
      some [text "none", text "weak", text "moderate", text "strong"]
  | _ => none

/-- `_axis_index`. -/
def axisIndex (axis : Axis) (value : Text) : Option Nat :=
  match axisOrder axis with
  | none => none
  | some order =>
      if value ∈ order then some (order.idxOf value) else none

/-- `_enforce_monotonic_transition`. -/
def enforceMonotonicTransition
    (axis : Axis) (old new : Text) (regressionReason : Option Text) :
    Except PyError Unit :=
  match axisIndex axis old, axisIndex axis new with
  | some oldIndex, some newIndex =>
      refuseIf (newIndex < oldIndex ∧ regressionReason.getD [] = [])
        ⟨.evidenceAxisError,
          text "EvidenceAssessment monotonic transition violated: axis " ++
            quoted axis.name ++ text " regressed " ++ quoted old ++
            text " -> " ++ quoted new ++
            text " without a regression reason (a downward move " ++
            text "requires a non-empty regression_reason, e.g. a " ++
            text "contradicted/divergent evidence object)"⟩
  | _, _ => pure ()

/-- The loop that applies a delta. -/
def applyDelta (regressionReason : Option Text) :
    Axes → List (Axis × Text) → Except PyError Axes
  | values, [] => pure values
  | values, (axis, value) :: rest => do
      enforceMonotonicTransition axis (values axis) value
        regressionReason
      applyDelta regressionReason (Function.update values axis value) rest

/-! ## Updates -/

/-- The names that a delta moves. -/
def deltaNames (delta : Json) : List Text :=
  match delta with
  | .obj members => members.map Prod.fst
  | _ => []

/--
The arguments of `update_assessment` after the prior assessment.  A delta is
a dict, so it has every name once.
-/
structure Update where
  delta : Json
  distinct : (deltaNames delta).Nodup
  evidenceRef : Text
  regressionReason : Option Text
  assessor : Option Text
  createdUtc : Text

/-- `list(value)`. -/
def pyList (value : Json) : Except PyError (List Json) :=
  match value with
  | .arr items => .ok items
  | .str value => .ok (value.map fun point => .str [point])
  | .obj members => .ok (members.map fun member => .str member.1)
  | other =>
      .error ⟨.typeError,
        text "'" ++ typeName other ++ text "' object is not iterable"⟩

/-- Whether a string is in a list of values. -/
def holdsText (items : List Json) (wanted : Text) : Bool :=
  items.any fun item =>
    match item with
    | .str value => value = wanted
    | _ => false

/-- Append a string unless the list has it. -/
def appendNew (items : List Json) (wanted : Text) : List Json :=
  if holdsText items wanted then items else items ++ [.str wanted]

/-- The check of a regression reason that is given. -/
def checkReason (regressionReason : Option Text) : Except PyError Unit :=
  match regressionReason with
  | none => pure ()
  | some reason =>
      refuseIf (strip reason = []) (contractError
        (text "regression_reason must be a non-empty string when " ++
          text "provided"))

/-- The parents of an update: those of the prior one, and the prior one. -/
def newParents (parents : List Json) (priorId : Json) : List Json :=
  match priorId with
  | .str id => if id = [] then parents else appendNew parents id
  | _ => parents

/-- `update_assessment` on the members of a validated document. -/
def updateMembers
    (members : List (Text × Json)) (values : Axes) (update : Update) :
    Except PyError Json := do
  let delta ← deltaEntries update.delta
  enforceDeltaOrthogonality delta
  let _ ← requireObjectId "evidence_ref" (.str update.evidenceRef)
  checkReason update.regressionReason
  let newAxes ← applyDelta update.regressionReason values delta
  enforceOrthogonality newAxes
  let refs ← pyList (getOr "evidence_refs" (.arr []) members)
  let assessor ← requireAssessor
    ((update.assessor.map Json.str).getD
      (getOr "assessor" (.str (text "operator")) members))
  let parents ← pyList (getOr "parents" (.arr []) members)
  let subject ← getItem "subject_claim_id" members
  buildAssessment
    { subjectClaimId := subject
      axes := axesDict newAxes
      evidenceRefs := .arr (appendNew refs update.evidenceRef)
      assessor := .str assessor
      parents := .arr
        (newParents parents (getOrNone (text "assessment_id") members))
      createdUtc := update.createdUtc }

/-- `update_assessment`. -/
def updateAssessment (prior : Json) (update : Update) :
    Except PyError Json := do
  let (members, values) ← validate prior
  updateMembers members values update

/-- The assessments of a chain of updates, the first one included. -/
def lineage (first : Json) : List Update → Except PyError (List Json)
  | [] => pure [first]
  | update :: rest => do
      let next ← updateAssessment first update
      let later ← lineage next rest
      pure (first :: later)

/-! ## What one update does to the axes -/

theorem axisNamed_eq_some
    {name : Text} {axis : Axis} (found : axisNamed name = some axis) :
    axis.name = name := by
  simpa using List.find?_some found

theorem deltaEntry_eq_ok
    {member : Text × Json} {entry : Axis × Text}
    (returned : deltaEntry member = .ok entry) :
    entry.1.name = member.1 := by
  unfold deltaEntry at returned
  split at returned
  · cases returned
  · next axis found =>
      simp only at returned
      split at returned
      · split at returned
        · cases returned
          exact axisNamed_eq_some found
        · cases returned
      · cases returned

theorem mapM_deltaEntry
    {members : List (Text × Json)} {entries : List (Axis × Text)}
    (returned : members.mapM deltaEntry = .ok entries) :
    (entries.map fun entry => entry.1.name) = members.map Prod.fst := by
  induction members generalizing entries with
  | nil =>
      rw [List.mapM_nil, pure_eq_ok_iff] at returned
      rw [← returned]
      rfl
  | cons member members induction =>
      simp only [List.mapM_cons, bind_eq_ok_iff, pure_eq_ok_iff]
        at returned
      obtain ⟨first, isFirst, rest, isRest, rfl⟩ := returned
      simp only [List.map_cons, deltaEntry_eq_ok isFirst,
        induction isRest]

theorem deltaEntries_eq_ok
    {delta : Json} {entries : List (Axis × Text)}
    (returned : deltaEntries delta = .ok entries) :
    (entries.map fun entry => entry.1.name) = deltaNames delta := by
  unfold deltaEntries at returned
  split at returned
  · cases returned
  · exact mapM_deltaEntry returned
  · cases returned

/-- An axis that no entry names keeps its value. -/
theorem applyDelta_unnamed
    {reason : Option Text} {values new : Axes}
    {delta : List (Axis × Text)}
    (applied : applyDelta reason values delta = .ok new) {axis : Axis}
    (unnamed : axis ∉ delta.map Prod.fst) :
    new axis = values axis := by
  induction delta generalizing values with
  | nil =>
      rw [applyDelta, pure_eq_ok_iff] at applied
      rw [applied]
  | cons entry rest induction =>
      simp only [applyDelta, bind_eq_ok_iff] at applied
      obtain ⟨_, _, applied⟩ := applied
      simp only [List.map_cons, List.mem_cons, not_or] at unnamed
      rw [induction applied unnamed.2,
        Function.update_of_ne unnamed.1]

/-- An axis keeps its value or makes one allowed transition. -/
theorem applyDelta_transition
    {reason : Option Text} {values new : Axes}
    {delta : List (Axis × Text)}
    (applied : applyDelta reason values delta = .ok new)
    (distinct : (delta.map Prod.fst).Nodup) (axis : Axis) :
    new axis = values axis ∨
      enforceMonotonicTransition axis (values axis) (new axis) reason =
        .ok () := by
  induction delta generalizing values with
  | nil =>
      rw [applyDelta, pure_eq_ok_iff] at applied
      exact .inl (by rw [applied])
  | cons entry rest induction =>
      obtain ⟨moved, value⟩ := entry
      simp only [applyDelta, bind_eq_ok_iff] at applied
      obtain ⟨_, allowed, applied⟩ := applied
      rw [List.map_cons, List.nodup_cons] at distinct
      by_cases same : axis = moved
      · subst same
        rw [applyDelta_unnamed applied distinct.1, Function.update_self]
        exact .inr allowed
      · have kept := induction applied distinct.2
        rwa [Function.update_of_ne same] at kept

/-- Without a reason a transition between ladder values is not downward. -/
theorem enforceMonotonicTransition_none
    {axis : Axis} {old new : Text} {low high : Nat}
    (allowed : enforceMonotonicTransition axis old new none = .ok ())
    (isLow : axisIndex axis old = some low)
    (isHigh : axisIndex axis new = some high) :
    low ≤ high := by
  simp only [enforceMonotonicTransition, isLow, isHigh,
    refuseIf_eq_ok_iff, not_and, Option.getD_none, not_true_eq_false,
    imp_false, not_lt] at allowed
  exact allowed

/-! ## What one update establishes -/

/-- The axes of a record move as the update allows. -/
structure Moves (update : Update) (old new : Axes) : Prop where
  unnamed : ∀ axis, axis.name ∉ deltaNames update.delta →
    new axis = old axis
  formalOrEmpirical :
    (∀ axis ∈ formalAxes, new axis = old axis) ∨
      ∀ axis ∈ empiricalAxes, new axis = old axis
  algorithmicOrIndependent :
    new .algorithmicCrossEngineReproduction =
        old .algorithmicCrossEngineReproduction ∨
      new .independentEmpiricalReplication =
        old .independentEmpiricalReplication
  transition : ∀ axis, new axis = old axis ∨
    enforceMonotonicTransition axis (old axis) (new axis)
      update.regressionReason = .ok ()

theorem orEmpty_arr (items : List Json) :
    orEmpty (.arr items) = .arr items := by
  cases items with
  | nil => rfl
  | cons item items => rfl

theorem moves_of_applied
    {update : Update} {old new : Axes} {delta : List (Axis × Text)}
    (entries : deltaEntries update.delta = .ok delta)
    (orthogonal : enforceDeltaOrthogonality delta = .ok ())
    (applied : applyDelta update.regressionReason old delta = .ok new) :
    Moves update old new := by
  have names := deltaEntries_eq_ok entries
  have distinct : (delta.map Prod.fst).Nodup := by
    have distinctNames := update.distinct
    rw [← names] at distinctNames
    apply List.Nodup.of_map Axis.name
    rwa [List.map_map]
  simp only [enforceDeltaOrthogonality, bind_eq_ok_iff,
    refuseIf_eq_ok_iff] at orthogonal
  obtain ⟨_, notBoth, notEither⟩ := orthogonal
  constructor
  · intro axis unnamed
    apply applyDelta_unnamed applied
    intro named
    apply unnamed
    rw [← names]
    obtain ⟨entry, member, rfl⟩ := List.mem_map.mp named
    exact List.mem_map_of_mem member
  · rcases not_and_or.mp notBoth with noFormal | noEmpirical
    · exact .inl fun axis member =>
        applyDelta_unnamed applied fun named =>
          noFormal ⟨axis, member, named⟩
    · exact .inr fun axis member =>
        applyDelta_unnamed applied fun named =>
          noEmpirical ⟨axis, member, named⟩
  · rcases not_and_or.mp notEither with noAlgorithmic | noIndependent
    · exact .inl (applyDelta_unnamed applied noAlgorithmic)
    · exact .inr (applyDelta_unnamed applied noIndependent)
  · exact applyDelta_transition applied distinct

/-- What a successful update of any document establishes. -/
theorem updateAssessment_eq_ok
    {prior document : Json} {update : Update}
    (updated : updateAssessment prior update = .ok document) :
    ∃ (members : List (Text × Json)) (values : Axes) (next : Assessment)
        (refs parents : List Json),
      validate prior = .ok (members, values) ∧
      document = next.toDict ∧ next.WellFormed ∧
      Moves update values next.axes ∧
      pyList (getOr "evidence_refs" (.arr []) members) = .ok refs ∧
      pyList (getOr "parents" (.arr []) members) = .ok parents ∧
      getItem "subject_claim_id" members =
        .ok (.str next.subjectClaimId) ∧
      appendNew refs update.evidenceRef =
        next.evidenceRefs.map .str ∧
      newParents parents (getOrNone (text "assessment_id") members) =
        next.parents.map .str := by
  simp only [updateAssessment, updateMembers, bind_eq_ok_iff] at updated
  obtain ⟨⟨members, values⟩, validated, delta, entries, _, orthogonal, _, _,
    _, _, newAxes, applied, _, _, refs, areRefs, _, _, parents,
    areParents, _, found, built⟩ := updated
  obtain ⟨next, isNext, wellFormed, resolved, isSubject, isRefs,
    isParents⟩ := buildAssessment_eq_ok built
  rw [orEmpty_arr, Json.arr.injEq] at isRefs isParents
  refine ⟨members, values, next, refs, parents, validated, isNext,
    wellFormed, ?_, areRefs, areParents, ?_, isRefs, isParents⟩
  · rw [validateAxes_axesDict resolved]
    exact moves_of_applied entries orthogonal applied
  · exact found.trans (congrArg Except.ok isSubject)

/-! ## Records in a lineage -/

/-- A later record of a lineage keeps what an earlier one had. -/
structure Descends (earlier later : Assessment) : Prop where
  subject : later.subjectClaimId = earlier.subjectClaimId
  refs : earlier.evidenceRefs <+: later.evidenceRefs
  parents : earlier.parents <+: later.parents
  named : earlier.assessmentId ∈ later.parents

theorem Descends.trans
    {first second third : Assessment}
    (before : Descends first second) (after : Descends second third) :
    Descends first third where
  subject := after.subject.trans before.subject
  refs := before.refs.trans after.refs
  parents := before.parents.trans after.parents
  named := after.parents.subset before.named

theorem holdsText_map {ids : List Text} {wanted : Text} :
    holdsText (ids.map .str) wanted = true ↔ wanted ∈ ids := by
  simp [holdsText]

/-- Appending to a list of strings keeps them and adds the new one. -/
theorem appendNew_map
    {ids later : List Text} {wanted : Text}
    (appended : appendNew (ids.map .str) wanted = later.map .str) :
    ids <+: later ∧ wanted ∈ later := by
  have injective : Function.Injective Json.str :=
    fun _ _ same => Json.str.inj same
  by_cases held : wanted ∈ ids
  · rw [appendNew, if_pos (holdsText_map.mpr held)] at appended
    rw [← List.map_injective_iff.mpr injective appended]
    exact ⟨List.prefix_rfl, held⟩
  · rw [appendNew, if_neg (holdsText_map.not.mpr held),
      ← List.map_singleton (f := Json.str), ← List.map_append] at appended
    rw [← List.map_injective_iff.mpr injective appended]
    exact ⟨List.prefix_append ids [wanted], by simp⟩

theorem Assessment.WellFormed.id_ne_nil
    {assessment : Assessment} (wellFormed : assessment.WellFormed) :
    assessment.assessmentId ≠ [] := by
  intro empty
  have shaped := objectId_isObjectId wellFormed.identified
  rw [empty] at shaped
  cases shaped

/-- What a successful update of a record's document establishes. -/
theorem updateAssessment_toDict
    {prior : Assessment} (wellFormed : prior.WellFormed)
    {update : Update} {document : Json}
    (updated : updateAssessment prior.toDict update = .ok document) :
    ∃ next : Assessment, document = next.toDict ∧ next.WellFormed ∧
      Moves update prior.axes next.axes ∧ Descends prior next := by
  obtain ⟨members, values, next, refs, parents, validated, isNext,
    nextWellFormed, moves, areRefs, areParents, isSubject, isRefs,
    isParents⟩ := updateAssessment_eq_ok updated
  obtain ⟨same, resolved⟩ := validate_eq_ok validated
  cases same
  cases areRefs
  cases areParents
  have subject : prior.subjectClaimId = next.subjectClaimId :=
    Json.str.inj (Except.ok.inj isSubject)
  rw [validateAxes_axesDict resolved] at moves
  have appended :
      appendNew (prior.parents.map .str) prior.assessmentId =
        next.parents.map .str := by
    rw [← isParents]
    exact (if_neg wellFormed.id_ne_nil).symm
  obtain ⟨keepsRefs, _⟩ := appendNew_map isRefs
  obtain ⟨keepsParents, named⟩ := appendNew_map appended
  exact ⟨next, isNext, nextWellFormed, moves, subject.symm, keepsRefs,
    keepsParents, named⟩

/-- The records behind the documents of a lineage. -/
structure Records (updates : List Update) (records : List Assessment) :
    Prop where
  length : records.length = updates.length + 1
  wellFormed : ∀ record ∈ records, record.WellFormed
  descends : records.Pairwise Descends
  moves : ∀ index update, updates[index]? = some update →
    ∃ prior next : Assessment, records[index]? = some prior ∧
      records[index + 1]? = some next ∧ Moves update prior.axes next.axes

/-- A chain of updates of a record's document has records throughout. -/
theorem records_of_lineage
    {first : Assessment} (wellFormed : first.WellFormed)
    {updates : List Update} {chain : List Json}
    (ran : lineage first.toDict updates = .ok chain) :
    ∃ rest, chain = (first :: rest).map Assessment.toDict ∧
      Records updates (first :: rest) := by
  induction updates generalizing first chain with
  | nil =>
      rw [lineage, pure_eq_ok_iff] at ran
      refine ⟨[], ran.symm, rfl, ?_, List.pairwise_singleton _ _, ?_⟩
      · intro record member
        rw [List.mem_singleton.mp member]
        exact wellFormed
      · intro index update found
        cases found
  | cons update updates induction =>
      simp only [lineage, bind_eq_ok_iff, pure_eq_ok_iff] at ran
      obtain ⟨document, updated, later, ranLater, rfl⟩ := ran
      obtain ⟨next, rfl, nextWellFormed, moves, descends⟩ :=
        updateAssessment_toDict wellFormed updated
      obtain ⟨rest, rfl, records⟩ := induction nextWellFormed ranLater
      refine ⟨next :: rest, rfl, ?_, ?_, ?_, ?_⟩
      · rw [List.length_cons, records.length, List.length_cons]
      · intro record member
        rcases List.mem_cons.mp member with rfl | later
        · exact wellFormed
        · exact records.wellFormed record later
      · refine List.pairwise_cons.mpr ⟨?_, records.descends⟩
        intro record member
        rcases List.mem_cons.mp member with rfl | later
        · exact descends
        · exact descends.trans
            ((List.pairwise_cons.mp records.descends).1 record later)
      · intro index other found
        cases index with
        | zero =>
            cases found
            exact ⟨first, next, rfl, rfl, moves⟩
        | succ index => exact records.moves index other found

/--
Along every chain of updates from a built assessment: each document is that
of a well-formed record, whose id is the digest of the rest; later records
keep the subject, the refs and the parents of earlier ones and name them as
parents; and one step moves only what its delta names, never both of two
groups that must stay apart.
-/
theorem lineage_invariants
    {arguments : Arguments} {first : Json}
    (built : buildAssessment arguments = .ok first)
    {updates : List Update} {chain : List Json}
    (ran : lineage first updates = .ok chain) :
    ∃ records : List Assessment,
      chain = records.map Assessment.toDict ∧ Records updates records := by
  obtain ⟨assessment, rfl, wellFormed, _⟩ := buildAssessment_eq_ok built
  obtain ⟨rest, isChain, records⟩ := records_of_lineage wellFormed ran
  exact ⟨assessment :: rest, isChain, records⟩

/-! ## Ladders along a lineage -/

/-- The place on its ladder of the value that a document has on an axis. -/
def ladderIndex (assessment : Json) (axis : Axis) : Option Nat :=
  match assessment with
  | .obj members =>
      match getOr "axes" (.obj []) members with
      | .obj values =>
          match getOrNone axis.name values with
          | .str value => axisIndex axis value
          | _ => none
      | _ => none
  | _ => none

theorem ladderIndex_toDict (assessment : Assessment) (axis : Axis) :
    ladderIndex assessment.toDict axis =
      axisIndex axis (assessment.axes axis) := by
  cases axis <;> rfl

theorem ladderIndex_of_validate
    {assessment : Json} {members : List (Text × Json)} {values : Axes}
    (validated : validate assessment = .ok (members, values))
    (axis : Axis) :
    ladderIndex assessment axis = axisIndex axis (values axis) := by
  obtain ⟨rfl, resolved⟩ := validate_eq_ok validated
  cases isAxes : getOr "axes" (.obj []) members with
  | obj found =>
      rw [isAxes] at resolved
      have read := (axisValue_eq_ok (validateAxes_eq_ok resolved axis)).1
      simp only [ladderIndex, isAxes, read]
  | _ =>
      rw [isAxes] at resolved
      cases resolved

/-- An update without a reason does not lower an axis on its ladder. -/
theorem ladderIndex_le_of_update
    {prior next : Json} {update : Update}
    (updated : updateAssessment prior update = .ok next)
    (quiet : update.regressionReason = none) {axis : Axis}
    {low high : Nat} (isLow : ladderIndex prior axis = some low)
    (isHigh : ladderIndex next axis = some high) :
    low ≤ high := by
  obtain ⟨_, values, record, _, _, validated, rfl, _, moves, _⟩ :=
    updateAssessment_eq_ok updated
  rw [ladderIndex_of_validate validated] at isLow
  rw [ladderIndex_toDict] at isHigh
  rcases moves.transition axis with same | allowed
  · rw [same, isLow] at isHigh
    exact (Option.some.inj isHigh).le
  · rw [quiet] at allowed
    exact enforceMonotonicTransition_none allowed isLow isHigh

/-- Axes whose every value is on their ladder. -/
def alwaysOrdered : List Axis :=
  [.exerciseLevel, .engineExecution]

theorem axisIndex_isSome
    {axis : Axis} (ordered : axis ∈ alwaysOrdered) {value : Text}
    (known : value ∈ axis.values) :
    (axisIndex axis value).isSome = true := by
  simp only [alwaysOrdered, List.mem_cons, List.not_mem_nil, or_false]
    at ordered
  rcases ordered with rfl | rfl
  · exact (congrArg Option.isSome (if_pos known)).trans rfl
  · exact (congrArg Option.isSome (if_pos known)).trans rfl

theorem ladderIndex_isSome_of_update
    {prior next : Json} {update : Update}
    (updated : updateAssessment prior update = .ok next)
    {axis : Axis} (ordered : axis ∈ alwaysOrdered) :
    (ladderIndex next axis).isSome = true := by
  obtain ⟨_, _, record, _, _, _, rfl, wellFormed, _⟩ :=
    updateAssessment_eq_ok updated
  rw [ladderIndex_toDict]
  exact axisIndex_isSome ordered (wellFormed.known axis)

theorem stays_on_ladder
    {first : Json} {updates : List Update} {chain : List Json}
    (ran : lineage first updates = .ok chain)
    {axis : Axis} (ordered : axis ∈ alwaysOrdered)
    (starts : (ladderIndex first axis).isSome = true) :
    ∀ assessment ∈ chain, (ladderIndex assessment axis).isSome = true := by
  induction updates generalizing first chain with
  | nil =>
      rw [lineage, pure_eq_ok_iff] at ran
      rw [← ran]
      intro assessment member
      rw [List.mem_singleton.mp member]
      exact starts
  | cons update updates induction =>
      simp only [lineage, bind_eq_ok_iff, pure_eq_ok_iff] at ran
      obtain ⟨next, updated, later, ranLater, rfl⟩ := ran
      intro assessment member
      rcases List.mem_cons.mp member with rfl | inLater
      · exact starts
      · exact induction ranLater
          (ladderIndex_isSome_of_update updated ordered) assessment inLater

theorem head_of_lineage
    {first : Json} {updates : List Update} {chain : List Json}
    (ran : lineage first updates = .ok chain) :
    ∃ rest, chain = first :: rest := by
  cases updates with
  | nil =>
      rw [lineage, pure_eq_ok_iff] at ran
      exact ⟨[], ran.symm⟩
  | cons update updates =>
      simp only [lineage, bind_eq_ok_iff, pure_eq_ok_iff] at ran
      obtain ⟨_, _, later, _, rfl⟩ := ran
      exact ⟨later, rfl⟩

/-- A chain that stays on a ladder does not fall on it. -/
theorem ladderIndex_le_of_stays
    {first last : Json} {updates : List Update} {chain : List Json}
    (ran : lineage first updates = .ok chain)
    (quiet : ∀ update ∈ updates, update.regressionReason = none)
    (isLast : chain.getLast? = some last) {axis : Axis}
    (stays : ∀ assessment ∈ chain,
      (ladderIndex assessment axis).isSome = true)
    {low high : Nat} (isLow : ladderIndex first axis = some low)
    (isHigh : ladderIndex last axis = some high) :
    low ≤ high := by
  induction updates generalizing first chain low with
  | nil =>
      rw [lineage, pure_eq_ok_iff] at ran
      rw [← ran, List.getLast?_singleton, Option.some.injEq] at isLast
      rw [← isLast, isLow] at isHigh
      exact (Option.some.inj isHigh).le
  | cons update updates induction =>
      simp only [lineage, bind_eq_ok_iff, pure_eq_ok_iff] at ran
      obtain ⟨next, updated, later, ranLater, rfl⟩ := ran
      obtain ⟨rest, rfl⟩ := head_of_lineage ranLater
      rw [List.getLast?_cons_cons] at isLast
      have staysLater := fun assessment member =>
        stays assessment (List.mem_cons_of_mem first member)
      obtain ⟨middle, isMiddle⟩ := Option.isSome_iff_exists.mp
        (staysLater next List.mem_cons_self)
      have rises : low ≤ middle :=
        ladderIndex_le_of_update updated
          (quiet update List.mem_cons_self) isLow isMiddle
      have risesLater : middle ≤ high :=
        induction ranLater
          (fun other member => quiet other (List.mem_cons_of_mem _ member))
          isLast staysLater isMiddle
      exact rises.trans risesLater

/--
No quiet loss on a ladder: along updates without a regression reason an axis
that stays on its ladder does not fall, and the exercise level and the engine
execution always stay on theirs.
-/
theorem ladder_never_falls
    {first last : Json} {updates : List Update} {chain : List Json}
    (ran : lineage first updates = .ok chain)
    (quiet : ∀ update ∈ updates, update.regressionReason = none)
    (isLast : chain.getLast? = some last) {axis : Axis}
    (ordered : axis = .exerciseLevel ∨ axis = .engineExecution ∨
      ∀ assessment ∈ chain, (ladderIndex assessment axis).isSome = true)
    {low high : Nat} (isLow : ladderIndex first axis = some low)
    (isHigh : ladderIndex last axis = some high) :
    low ≤ high := by
  have starts : (ladderIndex first axis).isSome = true := by
    rw [isLow]
    rfl
  apply ladderIndex_le_of_stays ran quiet isLast ?_ isLow isHigh
  rcases ordered with rfl | rfl | stays
  · exact stays_on_ladder ran (by decide) starts
  · exact stays_on_ladder ran (by decide) starts
  · exact stays

/-! ## A detour off the ladder -/

/-- An object id made of one digit. -/
def sampleId (digit : Char) : Text :=
  text "sha256:" ++ List.replicate 64 (codePoint digit)

/-- `DEFAULT_AXES`. -/
def defaultAxes : Axes
  | .capabilityState => text "unknown"
  | .exerciseLevel => text "none"
  | .engineExecution => text "not_run"
  | .scientificCheck => text "unchecked"
  | .formalCheck => text "not_applicable"
  | .formalScope => text "none"
  | .statisticalSupport => text "none"
  | .causalIdentification => text "not_applicable"
  | .algorithmicCrossEngineReproduction => text "none"
  | .independentEmpiricalReplication => text "none"
  | .integrationAuthority => text "none"

/-- The arguments of an assessment whose scientific output was checked. -/
def checkedArguments : Arguments :=
  { subjectClaimId := .str (sampleId '1')
    axes := axesDict
      (Function.update defaultAxes .scientificCheck (text "checked"))
    evidenceRefs := .null
    assessor := .str (text "operator")
    parents := .null
    createdUtc := text "2026-07-28T00:00:00Z" }

/-- An update of two axes without a regression reason. -/
def recheck (value level : String) (digit : Char) : Update :=
  { delta := .obj [(text "scientific_check", .str (text value)),
      (text "exercise_level", .str (text level))]
    distinct := by
      show [text "scientific_check", text "exercise_level"].Nodup
      decide
    evidenceRef := sampleId digit
    regressionReason := none
    assessor := none
    createdUtc := text "2026-07-28T00:00:00Z" }

/-- The updates that contradict a check and then forget it. -/
def detour : List Update :=
  [recheck "contradicted" "none" '2',
    recheck "unchecked" "import_probe" '3']

/-- The ladder places of a document on two axes. -/
def ladderPlaces (assessment : Json) : Option Nat × Option Nat :=
  (ladderIndex assessment .scientificCheck,
    ladderIndex assessment .exerciseLevel)

/-- The ladder places along a chain from a built assessment. -/
def placesOfChain (arguments : Arguments) (updates : List Update) :
    Except PyError (List (Option Nat × Option Nat)) := do
  let first ← buildAssessment arguments
  let chain ← lineage first updates
  pure (chain.map ladderPlaces)

/-- Checked, contradicted, unchecked: both updates go through. -/
theorem placesOfChain_detour :
    placesOfChain checkedArguments detour =
      .ok [(some 1, some 0), (none, some 0), (some 0, some 1)] := by
  simp only [placesOfChain, detour, lineage, updateAssessment,
    updateMembers, buildAssessment, objectId_eq_strict]
  decide +kernel

theorem detour_chain :
    ∃ first middle last, buildAssessment checkedArguments = .ok first ∧
      lineage first detour = .ok [first, middle, last] ∧
      ladderPlaces first = (some 1, some 0) ∧
      ladderPlaces last = (some 0, some 1) := by
  have evaluated := placesOfChain_detour
  simp only [placesOfChain, bind_eq_ok_iff, pure_eq_ok_iff,
    List.map_eq_cons_iff, List.map_eq_nil_iff] at evaluated
  obtain ⟨first, built, _, ran, _, _, rfl, isFirst, middle, _, rfl, _,
    last, _, rfl, isLast, rfl⟩ := evaluated
  obtain ⟨_, same⟩ := head_of_lineage ran
  obtain ⟨rfl, _⟩ := List.cons.inj same
  exact ⟨_, middle, last, built, ran, isFirst, isLast⟩

/-- The guard looks at one step at a time: a detour loses a check. -/
theorem detour_falls :
    ¬ ∀ (first last : Json) (updates : List Update) (chain : List Json)
        (axis : Axis) (low high : Nat),
      lineage first updates = .ok chain →
      (∀ update ∈ updates, update.regressionReason = none) →
      chain.getLast? = some last →
      ladderIndex first axis = some low →
      ladderIndex last axis = some high →
      low ≤ high := by
  intro neverFalls
  obtain ⟨first, middle, last, _, ran, isFirst, isLast⟩ := detour_chain
  have falls : 1 ≤ 0 :=
    neverFalls first last detour _ .scientificCheck 1 0 ran
      (by simp [detour, recheck]) rfl (congrArg Prod.fst isFirst)
      (congrArg Prod.fst isLast)
  exact absurd falls (by decide)

/-- The exercise level rises along the detour. -/
theorem ladder_never_falls_in_detour :
    ∃ first chain last, lineage first detour = .ok chain ∧
      chain.getLast? = some last ∧
      ladderIndex first .exerciseLevel = some 0 ∧
      ladderIndex last .exerciseLevel = some 1 ∧ 0 ≤ 1 := by
  obtain ⟨first, middle, last, _, ran, isFirst, isLast⟩ := detour_chain
  have low := congrArg Prod.snd isFirst
  have high := congrArg Prod.snd isLast
  refine ⟨first, _, last, ran, rfl, low, high, ?_⟩
  exact ladder_never_falls ran (by simp [detour, recheck]) rfl (.inl rfl)
    low high

theorem lineage_invariants_in_detour :
    ∃ first chain, buildAssessment checkedArguments = .ok first ∧
      lineage first detour = .ok chain ∧
      ∃ records : List Assessment,
        chain = records.map Assessment.toDict ∧
        Records detour records := by
  obtain ⟨first, middle, last, built, ran, _⟩ := detour_chain
  exact ⟨first, _, built, ran, lineage_invariants built ran⟩

end ScientificResourceLab.Semantic
