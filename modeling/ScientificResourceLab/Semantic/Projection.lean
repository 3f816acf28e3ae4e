import ScientificResourceLab.Contracts.Timestamps
import ScientificResourceLab.Integrations.SharedContracts
import ScientificResourceLab.Semantic.MathIrSchema
import ScientificResourceLab.Semantic.Profiles

/-!
# Projection onto a backend

`project_to_backend` of `srl.semantic.transforms`: the operators of an
expression are collected in pre-order, each one that the profile does not
support is refused or recorded as dropped with an assumption, and the cost is
written into a transformation receipt.

The planning pass stops at an operator whose behaviour is absent or `reject`
(`planProjection_rejected`), and otherwise it records exactly the unsupported
occurrences (`planProjection_planned`).  On a valid expression and a valid profile every
later step succeeds, so the receipt reports what was planned.
-/

namespace ScientificResourceLab.Semantic

open Python Contracts Steps

/-! ## Receipts -/

/-- An introduced assumption. -/
structure Assumption where
  assumption : Text
  justification : Text
  deriving DecidableEq

def Assumption.toDict (assumption : Assumption) : Json :=
  .obj [(text "assumption", .str assumption.assumption),
    (text "justification", .str assumption.justification)]

/-- `LOSSLESS`. -/
def lossless : Text :=
  text "LOSSLESS"

/-- `LOSSY_EXPLICIT`. -/
def lossyExplicit : Text :=
  text "LOSSY_EXPLICIT"

/-- `_PRODUCER_CONVERSION_CLASSES`, in the order of `sorted`. -/
def producerClasses : List Text :=
  [lossless, lossyExplicit]

/-- `TRANSFORM_KINDS`, in the order of `sorted`. -/
def transformKinds : List Text :=
  [text "approximate", text "convert_units", text "deserialize",
    text "normalize", text "project", text "restrict_domain",
    text "serialize"]

/-- One entry of `_normalize_assumptions`. -/
def normalizeAssumption (entry : Json) : Except PyError Assumption :=
  match entry with
  | .obj members =>
      match getOrNone (text "assumption") members with
      | .str (point :: rest) =>
          match getOrNone (text "justification") members with
          | .str (first :: others) =>
              .ok ⟨point :: rest, first :: others⟩
          | _ =>
              .error (irContractError
                (text "an introduced_assumption is missing a non-empty " ++
                  text "'justification' string (an assumption without " ++
                  text "a justification is not an honest declaration)"))
      | _ =>
          .error (irContractError
            (text "an introduced_assumption is missing a non-empty " ++
              text "'assumption' string"))
  | other =>
      .error (irContractError
        (text "introduced_assumptions entries must be objects, got " ++
          typeName other))

/-- `_normalize_assumptions`. -/
def normalizeAssumptions (value : Json) :
    Except PyError (List Assumption) :=
  match value with
  | .arr items => items.mapM normalizeAssumption
  | _ =>
      .error (irContractError
        (text "introduced_assumptions must be an array"))

/-- One entry of `_normalize_dropped_features`. -/
def normalizeDroppedFeature (entry : Json) : Except PyError Text :=
  match entry with
  | .str (point :: rest) => do
      refuseIf (codePoint '.' ∉ point :: rest) (irContractError
        (text "dropped_features entry " ++ quoted (point :: rest) ++
          text " must be a '<cd>.<name>' operator pair"))
      pure (point :: rest)
  | _ =>
      .error (irContractError
        (text "a dropped_features entry must be a non-empty string"))

/-- `_normalize_dropped_features`. -/
def normalizeDroppedFeatures (value : Json) :
    Except PyError (List Text) :=
  match value with
  | .arr items => items.mapM normalizeDroppedFeature
  | _ =>
      .error (irContractError (text "dropped_features must be an array"))

/-- `_enforce_lossless_invariant`. -/
def enforceLosslessInvariant
    (conversionClass : Text) (assumptions : List Assumption)
    (dropped : List Text) : Except PyError Unit :=
  refuseIf (conversionClass = lossless ∧
      (assumptions ≠ [] ∨ dropped ≠ []))
    ⟨.transformationInvariantError,
      text "TransformationReceipt invariant violated: " ++
        text "conversion_class 'LOSSLESS' requires " ++
        text "introduced_assumptions=[] AND dropped_features=[] (got " ++
        decimalText assumptions.length ++ text " assumption(s) and " ++
        decimalText dropped.length ++
        text " dropped feature(s)); a lossy step must declare itself " ++
        text "'LOSSY_EXPLICIT'"⟩

/-- `_TRANSFORMATION_RECEIPT_V1`. -/
def transformationReceiptV1 : Text :=
  text "TransformationReceipt/v1"

/-- `validate` of a receipt. -/
def validateReceipt (members : Fields) : Except PyError Unit :=
  match getOrNone (text "schema_version") members,
      getOrNone (text "conversion_class") members with
  | .str version, .str conversionClass => do
      refuseIf (version ≠ transformationReceiptV1) (irContractError
        (text "TransformationReceipt schema_version must be " ++
          quoted transformationReceiptV1 ++ text ", got " ++
          quoted version))
      let assumptions ← normalizeAssumptions
        (getOr "introduced_assumptions" (.arr []) members)
      let dropped ← normalizeDroppedFeatures
        (getOr "dropped_features" (.arr []) members)
      enforceLosslessInvariant conversionClass assumptions dropped
  | .str version, conversionClass => do
      refuseIf (version ≠ transformationReceiptV1) (irContractError
        (text "TransformationReceipt schema_version must be " ++
          quoted transformationReceiptV1 ++ text ", got " ++
          quoted version))
      .error (irContractError
        (text "TransformationReceipt 'conversion_class' must be a " ++
          text "string, got " ++ typeName conversionClass))
  | version, _ =>
      .error (irContractError
        (text "TransformationReceipt schema_version must be " ++
          quoted transformationReceiptV1 ++ text ", got " ++
          reprJson version))

/-- The arguments of `record_transformation` for a projection. -/
structure Transformation where
  sourceObjectId : Text
  targetObjectId : Text
  transformKind : Text
  conversionClass : Text
  introducedAssumptions : List Assumption
  droppedFeatures : List Text
  adapterProfileRef : Text
  packHash : Text
  createdUtc : Text

def receiptBody (step : Transformation) (assumptions : List Assumption)
    (dropped : List Text) (createdUtc : Text) : Fields :=
  [(text "schema_version", .str transformationReceiptV1),
    (text "source_object_id", .str step.sourceObjectId),
    (text "target_object_id", .str step.targetObjectId),
    (text "transform_kind", .str step.transformKind),
    (text "conversion_class", .str step.conversionClass),
    (text "introduced_assumptions",
      .arr (assumptions.map Assumption.toDict)),
    (text "dropped_features", .arr (dropped.map .str)),
    (text "adapter_profile_ref", .str step.adapterProfileRef),
    (text "pack_hash", .str step.packHash),
    (text "created_utc", .str createdUtc),
    (text "canonical_writes", .int 0),
    (text "grants_authority", .bool false)]

/-- `record_transformation`. -/
def recordTransformation (step : Transformation) :
    Except PyError Fields := do
  refuseIf (step.conversionClass ∉ producerClasses) (irContractError
    (text "record_transformation conversion_class " ++
      quoted step.conversionClass ++
      text " is not a producer class; producers may set " ++
      quotedList producerClasses ++
      text " only ('LOSSY_IMPLICIT_DETECTED' is detector-only)"))
  refuseIf (step.transformKind ∉ transformKinds) (irContractError
    (text "transform_kind " ++ quoted step.transformKind ++
      text " is not one of " ++ quotedList transformKinds))
  let _ ← requireObjectId "source_object_id" (.str step.sourceObjectId)
  let _ ← requireObjectId "target_object_id" (.str step.targetObjectId)
  let assumptions ← normalizeAssumptions
    (.arr (step.introducedAssumptions.map Assumption.toDict))
  let dropped ← normalizeDroppedFeatures
    (.arr (step.droppedFeatures.map .str))
  enforceLosslessInvariant step.conversionClass assumptions dropped
  let _ ← requireObjectId "adapter_profile_ref"
    (.str step.adapterProfileRef)
  let _ ← requireObjectId "pack_hash" (.str step.packHash)
  let normalizedUtc ← normalizeTimestamp step.createdUtc
  let body := receiptBody step assumptions dropped normalizedUtc
  let receiptId ← objectId (.obj body)
  let receipt := body ++ [(text "receipt_id", Json.str receiptId)]
  validateReceipt receipt
  pure receipt

/-! ## Operators -/

mutual

/-- `_walk_ops`, as the list that it appends. -/
def walkOps : Json → List Text
  | .obj members =>
      match Json.lookup (text "op") members with
      | some (.str op) => op :: walkArgs members
      | some _ => walkArgs members
      | none => []
  | _ => []

/-- The walk through the array under the key `args`. -/
def walkArgs : Fields → List Text
  | [] => []
  | (key, .arr items) :: rest =>
      if key = text "args" then walkItems items else walkArgs rest
  | (key, _) :: rest => if key = text "args" then [] else walkArgs rest

def walkItems : List Json → List Text
  | [] => []
  | item :: rest => walkOps item ++ walkItems rest

end

/-- `_collect_ops`. -/
def collectOps (tree : Json) : List Text :=
  walkOps tree

/-- The assumption about an operator that is not supported. -/
def assumptionFor (behavior op : Text) : Assumption :=
  if behavior = text "approximate" then
    ⟨op ++ text " approximated by the backend adapter",
      text "adapter profile declares behavior=approximate for " ++ op⟩
  else
    ⟨op ++ text " dropped by the backend adapter",
      text "adapter profile declares behavior=drop for " ++ op⟩

/-- The refusal of an operator. -/
def rejectedOperator (op : Text) (mood : String) : PyError :=
  ⟨.unsupportedFeatureError,
    text "projection rejected operator " ++ quoted op ++
      text ": not in profile supported_cds and behavior is " ++ text mood⟩

/-- `_plan_projection`: the dropped operators and the assumptions. -/
def planProjection (supported : List Text) (profile : Fields) :
    List Text → Except PyError (List Text × List Assumption)
  | [] => .ok ([], [])
  | op :: rest =>
      if op ∈ supported then planProjection supported profile rest
      else
        match behaviorForOp op profile with
        | none =>
            .error (rejectedOperator op "undeclared (implicit reject)")
        | some behavior =>
            if behavior = text "reject" then
              .error (rejectedOperator op "reject")
            else if behavior = text "approximate" ∨
                behavior = text "drop" then do
              let (dropped, assumptions) ←
                planProjection supported profile rest
              pure (op :: dropped,
                assumptionFor behavior op :: assumptions)
            else planProjection supported profile rest

/-! ## The projection -/

/-- `_extract_wire` on a dict. -/
def extractWire (irTree : Fields) : Except PyError Json :=
  match getOrNone (text "schema_version") irTree with
  | .str version =>
      if version = text "MathIR/v1" then
        match getOr "expression" (.obj []) irTree with
        | .obj expression => .ok (.obj expression)
        | _ =>
            .error (irContractError
              (text "MathIR document 'expression' must be an object"))
      else .ok (.obj irTree)
  | _ => .ok (.obj irTree)

/-- `ir_id`. -/
def irId (tree : Json) : Except PyError Text := do
  validateExpression tree
  objectId tree

/-- The digest that a profile binds a projection to. -/
def packHashOf (profile : Fields) : Except PyError Text :=
  match getOrNone (text "pack_ref") profile with
  | .obj packRef =>
      requireObjectId "pack_ref.digest" (getOrNone (text "digest") packRef)
  | _ =>
      .error (irContractError
        (text "profile.pack_ref is missing; a projection must bind a " ++
          text "pack hash"))

/-- The tree that a projection returns. -/
def restrictedTree (sourceId : Text) (wire : Json) : Fields :=
  [(text "schema_version", .str (text "MathIR/v1")),
    (text "ir_id", .str sourceId), (text "expression", wire)]

/-- The default of `created_utc`. -/
def defaultCreatedUtc : Text :=
  text "2026-07-28T00:00:00Z"

/--
`project_to_backend`, on dicts.  `validate_profile` has checked the schema
version, so the second check of it passes.
-/
def projectToBackend (irTree : Fields) (profile : Json)
    (createdUtc : Text) : Except PyError (Fields × Fields) := do
  let members ← validateProfile profile
  let wire ← extractWire irTree
  validateExpression wire
  let sourceId ← irId wire
  let plan ← planProjection (supportedOps members) members
    (collectOps wire)
  let packHash ← packHashOf members
  let adapterRef ← profileId profile
  let receipt ← recordTransformation
    { sourceObjectId := sourceId
      targetObjectId := sourceId
      transformKind := text "project"
      conversionClass := if plan.2 = [] then lossless else lossyExplicit
      introducedAssumptions := plan.2
      droppedFeatures := plan.1
      adapterProfileRef := adapterRef
      packHash := packHash
      createdUtc := createdUtc }
  pure (restrictedTree sourceId wire, receipt)

/-! ## The operators of a tree -/

theorem walkArgs_eq (members : Fields) :
    walkArgs members =
      match Json.lookup (text "args") members with
      | some (.arr items) => walkItems items
      | _ => [] := by
  induction members with
  | nil => rfl
  | cons member rest induction =>
      obtain ⟨key, value⟩ := member
      cases value with
      | arr items =>
          rw [walkArgs, Json.lookup]
          split_ifs with isArgs
          · rfl
          · exact induction
      | null | bool _ | int _ | float _ | str _ | obj _ =>
          rw [walkArgs, Json.lookup]
          · split_ifs with isArgs
            · rfl
            · exact induction
          · simp

theorem walkItems_eq
    {items : List Json} {trees : List Tree}
    (each : ∀ item ∈ items, ∀ tree, treeOf item = some tree →
      walkOps item = tree.ops)
    (isTrees : treesOf items = some trees) :
    walkItems items = opsOf trees := by
  induction items generalizing trees with
  | nil =>
      cases isTrees
      rfl
  | cons item rest induction =>
      rw [treesOf] at isTrees
      split at isTrees
      · next tree others isTree isOthers =>
          cases isTrees
          rw [walkItems, opsOf, each item List.mem_cons_self tree isTree,
            induction (fun other isOther =>
              each other (List.mem_cons_of_mem _ isOther)) isOthers]
      · cases isTrees

/-- The walk collects the operators of the tree in pre-order. -/
theorem walkOps_eq (value : Json) :
    ∀ tree, treeOf value = some tree → walkOps value = tree.ops := by
  induction value using node_induction with
  | other value notObject =>
      intro tree isTree
      cases value with
      | obj members => exact absurd rfl (notObject members)
      | null | bool _ | int _ | float _ | str _ | arr _ => cases isTree
  | node members induction =>
      intro tree isTree
      rw [treeOf, nodeOf.eq_def] at isTree
      rw [walkOps]
      split at isTree
      · next op hasOp noConst noVar =>
          rw [Option.map_eq_some_iff] at isTree
          obtain ⟨trees, isTrees, rfl⟩ := isTree
          rw [argsOf_eq] at isTrees
          split at isTrees
          · next items hasArgs =>
              rw [hasOp, walkArgs_eq, hasArgs]
              simp only [Tree.ops]
              rw [walkItems_eq (induction items hasArgs) isTrees]
          · cases isTrees
      · next value noOp hasConst noVar =>
          cases isTree
          rw [noOp, Tree.ops]
      · next symbol noOp noConst hasVar =>
          cases isTree
          rw [noOp, Tree.ops]
      · cases isTree

/-! ## The plan -/

/-- An operator that a profile neither supports nor admits with a loss. -/
def Rejected (profile : Fields) (op : Text) : Prop :=
  op ∉ supportedOps profile ∧
    (behaviorForOp op profile = none ∨
      behaviorForOp op profile = some (text "reject"))

/-- The occurrences that a profile does not support. -/
def unsupported (profile : Fields) (ops : List Text) : List Text :=
  ops.filter (· ∉ supportedOps profile)

/-- The assumption that a profile's declaration introduces. -/
def introducedFor (profile : Fields) (op : Text) : Assumption :=
  assumptionFor ((behaviorForOp op profile).getD []) op

/-- A rejected occurrence stops the plan. -/
theorem planProjection_rejected
    {profile : Fields} (sound : ProfileSound profile) {ops : List Text}
    (rejected : ∃ op ∈ ops, Rejected profile op) :
    ∃ error, planProjection (supportedOps profile) profile ops =
        .error error ∧ error.kind = .unsupportedFeatureError := by
  induction ops with
  | nil => simp at rejected
  | cons op rest induction =>
      rw [planProjection]
      split_ifs with isSupported
      · refine induction ?_
        obtain ⟨other, isOther, isRejected⟩ := rejected
        rcases List.mem_cons.mp isOther with rfl | later
        · exact absurd isSupported isRejected.1
        · exact ⟨other, later, isRejected⟩
      · split
        · exact ⟨_, rfl, rfl⟩
        · next behavior found =>
            split_ifs with isReject isLoss
            · exact ⟨_, rfl, rfl⟩
            · have later : ∃ op ∈ rest, Rejected profile op := by
                obtain ⟨other, isOther, isRejected⟩ := rejected
                rcases List.mem_cons.mp isOther with rfl | later
                · rcases isRejected.2 with absent | rejects
                  · rw [found] at absent
                    cases absent
                  · rw [found] at rejects
                    exact absurd (Option.some.inj rejects) isReject
                · exact ⟨other, later, isRejected⟩
              obtain ⟨error, stopped, kind⟩ := induction later
              refine ⟨error, ?_, kind⟩
              rw [stopped]
              rfl
            · have known := behaviorForOp_mem sound found
              simp only [behaviors, List.mem_cons, List.not_mem_nil,
                or_false] at known
              rcases known with isApproximate | isDrop | rejects
              · exact absurd (.inl isApproximate) isLoss
              · exact absurd (.inr isDrop) isLoss
              · exact absurd rejects isReject

/-- Without a rejected occurrence the plan records the unsupported ones. -/
theorem planProjection_planned
    {profile : Fields} (sound : ProfileSound profile) {ops : List Text}
    (admitted : ∀ op ∈ ops, ¬ Rejected profile op) :
    planProjection (supportedOps profile) profile ops =
      .ok (unsupported profile ops,
        (unsupported profile ops).map (introducedFor profile)) := by
  induction ops with
  | nil => rfl
  | cons op rest induction =>
      have later := induction fun other isOther =>
        admitted other (List.mem_cons_of_mem _ isOther)
      rw [planProjection]
      split_ifs with isSupported
      · have skipped : unsupported profile (op :: rest) =
            unsupported profile rest :=
          List.filter_cons_of_neg (by simpa using isSupported)
        rw [later, skipped]
      · have kept : unsupported profile (op :: rest) =
            op :: unsupported profile rest :=
          List.filter_cons_of_pos (by simpa using isSupported)
        have isAdmitted := admitted op List.mem_cons_self
        split
        · next absent => exact absurd ⟨isSupported, .inl absent⟩ isAdmitted
        · next behavior found =>
            have notReject : behavior ≠ text "reject" := by
              rintro rfl
              exact isAdmitted ⟨isSupported, .inr found⟩
            have isLoss : behavior = text "approximate" ∨
                behavior = text "drop" := by
              have known := behaviorForOp_mem sound found
              simp only [behaviors, List.mem_cons, List.not_mem_nil,
                or_false] at known
              rcases known with isApproximate | isDrop | rejects
              · exact .inl isApproximate
              · exact .inr isDrop
              · exact absurd rejects notReject
            rw [if_neg notReject, if_pos isLoss, later, kept,
              List.map_cons, introducedFor, found]
            rfl

/-! ## Recording -/

theorem normalizeAssumptions_toDict
    {assumptions : List Assumption}
    (each : ∀ assumption ∈ assumptions, assumption.assumption ≠ [] ∧
      assumption.justification ≠ []) :
    normalizeAssumptions (.arr (assumptions.map Assumption.toDict)) =
      .ok assumptions := by
  rw [normalizeAssumptions]
  induction assumptions with
  | nil => rfl
  | cons assumption rest induction =>
      have later := induction fun other isOther =>
        each other (List.mem_cons_of_mem _ isOther)
      obtain ⟨full, justified⟩ := each assumption List.mem_cons_self
      obtain ⟨stated, reason⟩ := assumption
      obtain ⟨point, others, rfl⟩ := List.exists_cons_of_ne_nil full
      obtain ⟨first, more, rfl⟩ := List.exists_cons_of_ne_nil justified
      simp only [List.map_cons, List.mapM_cons, bind_eq_ok_iff,
        pure_eq_ok_iff]
      exact ⟨_, rfl, rest, later, rfl⟩

theorem normalizeDroppedFeatures_strings
    {dropped : List Text}
    (each : ∀ op ∈ dropped, codePoint '.' ∈ op) :
    normalizeDroppedFeatures (.arr (dropped.map .str)) = .ok dropped := by
  rw [normalizeDroppedFeatures]
  induction dropped with
  | nil => rfl
  | cons op rest induction =>
      have later := induction fun other isOther =>
        each other (List.mem_cons_of_mem _ isOther)
      have hasPoint := each op List.mem_cons_self
      cases op with
      | nil => cases hasPoint
      | cons point others =>
          simp only [List.map_cons, List.mapM_cons, bind_eq_ok_iff,
            pure_eq_ok_iff, normalizeDroppedFeature, refuseIf_eq_ok_iff,
            not_not]
          exact ⟨_, ⟨⟨⟩, hasPoint, rfl⟩, rest, later, rfl⟩

theorem requireObjectId_of_shape
    {field : String} {id : Text} (shaped : isObjectId id = true) :
    requireObjectId field (.str id) = .ok id := by
  simp only [requireObjectId, validateObjectId, shaped, if_true]

/-- What a step must be for its receipt to be recorded. -/
structure Recordable (step : Transformation) : Prop where
  conversionClass : step.conversionClass ∈ producerClasses
  transformKind : step.transformKind ∈ transformKinds
  source : isObjectId step.sourceObjectId = true
  target : isObjectId step.targetObjectId = true
  adapter : isObjectId step.adapterProfileRef = true
  pack : isObjectId step.packHash = true
  assumptions : ∀ assumption ∈ step.introducedAssumptions,
    (assumption.assumption ≠ [] ∧ assumption.justification ≠ []) ∧
      Scalars assumption.assumption ∧ Scalars assumption.justification
  dropped : ∀ op ∈ step.droppedFeatures, codePoint '.' ∈ op ∧ Scalars op
  honest : step.conversionClass = lossless →
    step.introducedAssumptions = [] ∧ step.droppedFeatures = []
  created : step.createdUtc = defaultCreatedUtc

theorem writable_receiptBody
    {step : Transformation} (recordable : Recordable step) :
    WritableMembers (receiptBody step step.introducedAssumptions
      step.droppedFeatures defaultCreatedUtc) := by
  have ofMem {names : List Text}
      (all : ∀ name ∈ names, Scalars name) {name : Text}
      (isName : name ∈ names) : Scalars name := all name isName
  have classScalars : Scalars step.conversionClass :=
    ofMem (by simp [producerClasses, lossless, lossyExplicit,
      scalars_text]) recordable.conversionClass
  have kindScalars : Scalars step.transformKind :=
    ofMem (by simp [transformKinds, scalars_text])
      recordable.transformKind
  have assumptions : Writable
      (.arr (step.introducedAssumptions.map Assumption.toDict)) := by
    refine Integrations.writableItems_iff.mpr fun item isItem => ?_
    obtain ⟨assumption, isAssumption, rfl⟩ := List.mem_map.mp isItem
    obtain ⟨-, stated, reason⟩ :=
      recordable.assumptions assumption isAssumption
    exact ⟨scalars_text _, stated, scalars_text _, reason, trivial⟩
  have dropped : Writable (.arr (step.droppedFeatures.map .str)) := by
    refine Integrations.writableItems_iff.mpr fun item isItem => ?_
    obtain ⟨op, isOp, rfl⟩ := List.mem_map.mp isItem
    exact (recordable.dropped op isOp).2
  have zero : Writable (.int 0) := by
    change (decimalText (Int.natAbs 0)).length ≤ intMaxStrDigits
    decide
  exact ⟨scalars_text _, scalars_text _, scalars_text _,
    scalars_of_isObjectId recordable.source, scalars_text _,
    scalars_of_isObjectId recordable.target, scalars_text _, kindScalars,
    scalars_text _, classScalars, scalars_text _, assumptions,
    scalars_text _, dropped, scalars_text _,
    scalars_of_isObjectId recordable.adapter, scalars_text _,
    scalars_of_isObjectId recordable.pack, scalars_text _, scalars_text _,
    scalars_text _, zero, scalars_text _, trivial, trivial⟩

/-- A recordable step gets its receipt. -/
theorem recordTransformation_returns
    {step : Transformation} (recordable : Recordable step) :
    ∃ receiptId, recordTransformation step =
      .ok (receiptBody step step.introducedAssumptions
          step.droppedFeatures defaultCreatedUtc ++
        [(text "receipt_id", Json.str receiptId)]) := by
  have assumptions := normalizeAssumptions_toDict fun assumption member =>
    (recordable.assumptions assumption member).1
  have dropped := normalizeDroppedFeatures_strings fun op member =>
    (recordable.dropped op member).1
  have honest {result : Unit} : enforceLosslessInvariant
      step.conversionClass step.introducedAssumptions
      step.droppedFeatures = .ok result := by
    rw [enforceLosslessInvariant, refuseIf_eq_ok_iff]
    rintro ⟨isLossless, some | some⟩
    · exact some (recordable.honest isLossless).1
    · exact some (recordable.honest isLossless).2
  have normalized : normalizeTimestamp step.createdUtc =
      .ok defaultCreatedUtc := by
    rw [recordable.created]
    decide
  obtain ⟨receiptId, computed, _⟩ :=
    objectId_of_writable (writable_receiptBody recordable)
      (by
        simp only [receiptBody, List.map_cons, List.map_nil]
        simp -index only [objectIdField, text_ofList]
        decide)
  refine ⟨receiptId, ?_⟩
  simp only [recordTransformation, bind_eq_ok_iff, refuseIf_eq_ok_iff,
    not_not, pure_eq_ok_iff]
  refine ⟨⟨⟩, recordable.conversionClass, ⟨⟩, recordable.transformKind, _,
    requireObjectId_of_shape recordable.source, _,
    requireObjectId_of_shape recordable.target, _, assumptions, _, dropped,
    ⟨⟩, honest, _, requireObjectId_of_shape recordable.adapter, _,
    requireObjectId_of_shape recordable.pack, _, normalized, receiptId,
    computed, ⟨⟩, ?_, rfl⟩
  change (do
    refuseIf (transformationReceiptV1 ≠ transformationReceiptV1) _
    let assumptions ← normalizeAssumptions
      (.arr (step.introducedAssumptions.map Assumption.toDict))
    let dropped ← normalizeDroppedFeatures
      (.arr (step.droppedFeatures.map .str))
    enforceLosslessInvariant step.conversionClass assumptions dropped) =
      .ok ()
  simp only [bind_eq_ok_iff, refuseIf_eq_ok_iff, ne_eq, not_true,
    not_false_eq_true]
  exact ⟨⟨⟩, trivial, _, assumptions, _, dropped, honest⟩

/-! ## Valid inputs -/

/-- An expression of the schema that has its content address. -/
structure ValidExpression (irTree : Fields) : Prop where
  matchesSchema : MatchesExpr (.obj irTree)
  identified : ∃ sourceId, irId (.obj irTree) = .ok sourceId

/-- A profile that has its content address, which validates it. -/
def ValidProfile (profile : Fields) : Prop :=
  ∃ adapterRef, profileId (.obj profile) = .ok adapterRef

theorem lookup_of_matchesExpr
    {members : Fields} (matched : MatchesExpr (.obj members)) {key : Text}
    (other : key ∉ [text "op", text "args", text "const", text "var"]) :
    Json.lookup key members = none := by
  cases matched with
  | application closed _ _ _ _ =>
      apply lookup_eq_none_of_onlyKeys closed
      intro isKey
      apply other
      simp only [List.mem_cons, List.not_mem_nil, or_false] at isKey ⊢
      tauto
  | const closed _ _ =>
      apply lookup_eq_none_of_onlyKeys closed
      intro isKey
      apply other
      simp only [List.mem_cons, List.not_mem_nil, or_false] at isKey ⊢
      tauto
  | var closed _ _ =>
      apply lookup_eq_none_of_onlyKeys closed
      intro isKey
      apply other
      simp only [List.mem_cons, List.not_mem_nil, or_false] at isKey ⊢
      tauto

/-- An expression of the schema is its own wire form. -/
theorem extractWire_of_matchesExpr
    {irTree : Fields} (matched : MatchesExpr (.obj irTree)) :
    extractWire irTree = .ok (.obj irTree) := by
  have absent := lookup_of_matchesExpr matched
    (by decide : text "schema_version" ∉ _)
  rw [extractWire, getOrNone, absent]
  rfl

/-- The operators of the allowlist can be recorded. -/
theorem recordable_of_allowed
    {op : Text} (isAllowed : op ∈ mathIrAllowlist) :
    codePoint '.' ∈ op ∧ Scalars op := by
  have dotted : ∀ op ∈ mathIrAllowlist, codePoint '.' ∈ op := by
    simp -index only [mathIrAllowlist, text_ofList]
    decide
  have scalars : ∀ op ∈ mathIrAllowlist, Scalars op := by
    simp [mathIrAllowlist, scalars_text]
  exact ⟨dotted op isAllowed, scalars op isAllowed⟩

/-- The assumption about an operator can be recorded. -/
theorem assumptionFor_recordable
    {behavior op : Text} (scalars : Scalars op) :
    ((assumptionFor behavior op).assumption ≠ [] ∧
        (assumptionFor behavior op).justification ≠ []) ∧
      Scalars (assumptionFor behavior op).assumption ∧
      Scalars (assumptionFor behavior op).justification := by
  have around (before after : String) :
      Scalars (op ++ text after) ∧ Scalars (text before ++ op) :=
    ⟨scalars_append.mpr ⟨scalars, scalars_text _⟩,
      scalars_append.mpr ⟨scalars_text _, scalars⟩⟩
  rw [assumptionFor]
  split_ifs
  · refine ⟨⟨?_, ?_⟩, (around "" _).1, (around _ "").2⟩
    · exact List.append_ne_nil_of_right_ne_nil _ (by decide)
    · exact List.append_ne_nil_of_left_ne_nil (by decide) _
  · refine ⟨⟨?_, ?_⟩, (around "" _).1, (around _ "").2⟩
    · exact List.append_ne_nil_of_right_ne_nil _ (by decide)
    · exact List.append_ne_nil_of_left_ne_nil (by decide) _

/-! ## The cost -/

theorem packHashOf_sound
    {profile : Fields} (sound : ProfileSound profile) :
    ∃ packHash, packHashOf profile = .ok packHash ∧
      isObjectId packHash = true := by
  obtain ⟨packRef, digest, hasRef, hasDigest, shaped⟩ := sound.packRef
  refine ⟨digest, ?_, shaped⟩
  rw [packHashOf, hasRef]
  change requireObjectId _ (getOrNone (text "digest") packRef) = _
  rw [hasDigest]
  exact requireObjectId_of_shape shaped

/-- The step that the projection of a tree records. -/
def projectionStep (profile : Fields) (ops : List Text)
    (sourceId adapterRef packHash : Text) : Transformation :=
  let dropped := unsupported profile ops
  { sourceObjectId := sourceId
    targetObjectId := sourceId
    transformKind := text "project"
    conversionClass := if dropped.map (introducedFor profile) = []
      then lossless else lossyExplicit
    introducedAssumptions := dropped.map (introducedFor profile)
    droppedFeatures := dropped
    adapterProfileRef := adapterRef
    packHash := packHash
    createdUtc := defaultCreatedUtc }

theorem projectionStep_recordable
    {profile : Fields} {ops : List Text}
    (allowed : ∀ op ∈ ops, op ∈ mathIrAllowlist)
    {sourceId adapterRef packHash : Text}
    (source : isObjectId sourceId = true)
    (adapter : isObjectId adapterRef = true)
    (pack : isObjectId packHash = true) :
    Recordable
      (projectionStep profile ops sourceId adapterRef packHash) := by
  have recordable : ∀ op ∈ unsupported profile ops,
      codePoint '.' ∈ op ∧ Scalars op := fun op isOp =>
    recordable_of_allowed (allowed op (List.mem_of_mem_filter isOp))
  constructor
  case conversionClass =>
    change (if _ then lossless else lossyExplicit) ∈ _
    split_ifs
    · exact List.mem_cons_self
    · exact List.mem_cons_of_mem _ List.mem_cons_self
  case transformKind =>
    change text "project" ∈ transformKinds
    decide
  case source => exact source
  case target => exact source
  case adapter => exact adapter
  case pack => exact pack
  case assumptions =>
    intro assumption isAssumption
    obtain ⟨op, isOp, rfl⟩ := List.mem_map.mp isAssumption
    exact assumptionFor_recordable (recordable op isOp).2
  case dropped => exact recordable
  case honest =>
    intro isLossless
    have none : (unsupported profile ops).map (introducedFor profile) =
        [] := by
      by_contra some
      change (if _ then lossless else lossyExplicit) = _ at isLossless
      rw [if_neg some] at isLossless
      exact absurd isLossless (by decide)
    exact ⟨none, List.map_eq_nil_iff.mp none⟩
  case created => rfl

theorem projectionStep_lossless_iff
    {profile : Fields} {ops : List Text}
    {sourceId adapterRef packHash : Text} :
    some (Json.str (projectionStep profile ops sourceId adapterRef
        packHash).conversionClass) = some (.str lossless) ↔
      ∀ op ∈ ops, op ∈ supportedOps profile := by
  have differ : lossyExplicit ≠ lossless := by decide
  have none : (unsupported profile ops).map (introducedFor profile) = [] ↔
      ∀ op ∈ ops, op ∈ supportedOps profile := by
    rw [List.map_eq_nil_iff, unsupported, List.filter_eq_nil_iff]
    simp
  rw [Option.some_inj, Json.str.injEq, projectionStep]
  constructor
  · intro isLossless
    by_contra some
    exact differ ((if_neg (mt none.mp some)).symm.trans isLossless)
  · intro all
    exact if_pos (none.mpr all)

/-- What a receipt says about the cost. -/
theorem lookup_receipt (step : Transformation)
    (assumptions : List Assumption) (dropped : List Text)
    (createdUtc receiptId : Text) :
    let receipt := receiptBody step assumptions dropped createdUtc ++
      [(text "receipt_id", Json.str receiptId)]
    Json.lookup (text "conversion_class") receipt =
        some (.str step.conversionClass) ∧
      Json.lookup (text "dropped_features") receipt =
        some (.arr (dropped.map .str)) ∧
      Json.lookup (text "introduced_assumptions") receipt =
        some (.arr (assumptions.map Assumption.toDict)) :=
  ⟨rfl, rfl, rfl⟩

theorem ValidExpression.denotes
    {irTree : Fields} (valid : ValidExpression irTree) :
    ∃ tree sourceId, treeOf (.obj irTree) = some tree ∧
      validateExpression (.obj irTree) = .ok () ∧
      irId (.obj irTree) = .ok sourceId ∧ isObjectId sourceId = true ∧
      ∀ op ∈ tree.ops, op ∈ mathIrAllowlist := by
  obtain ⟨sourceId, identified⟩ := valid.identified
  have parts := identified
  simp only [irId, bind_eq_ok_iff] at parts
  obtain ⟨_, validated, computed⟩ := parts
  obtain ⟨tree, isTree, treeValid⟩ := validateExpression_eq_ok.mp validated
  exact ⟨tree, sourceId, isTree, validated, identified,
    objectId_isObjectId computed, treeValid.wellFormed.ops⟩

theorem ValidProfile.sound
    {profile : Fields} (valid : ValidProfile profile) :
    ∃ adapterRef, profileId (.obj profile) = .ok adapterRef ∧
      isObjectId adapterRef = true ∧
      validateProfile (.obj profile) = .ok profile ∧
      ProfileSound profile := by
  obtain ⟨adapterRef, identified⟩ := valid
  have parts := identified
  simp only [profileId, bind_eq_ok_iff] at parts
  obtain ⟨members, validated, computed⟩ := parts
  obtain ⟨same, sound⟩ := validateProfile_sound validated
  cases same
  exact ⟨adapterRef, identified, objectId_isObjectId computed, validated,
    sound⟩

/-- A projection of valid inputs is decided by its plan. -/
theorem projectToBackend_eq
    {irTree profile : Fields} {tree : Tree} {sourceId : Text}
    (matched : MatchesExpr (.obj irTree))
    (isTree : treeOf (.obj irTree) = some tree)
    (validExpression : validateExpression (.obj irTree) = .ok ())
    (identified : irId (.obj irTree) = .ok sourceId)
    (validProfile : validateProfile (.obj profile) = .ok profile) :
    projectToBackend irTree (.obj profile) defaultCreatedUtc = (do
      let plan ← planProjection (supportedOps profile) profile tree.ops
      let packHash ← packHashOf profile
      let adapterRef ← profileId (.obj profile)
      let receipt ← recordTransformation
        { sourceObjectId := sourceId
          targetObjectId := sourceId
          transformKind := text "project"
          conversionClass :=
            if plan.2 = [] then lossless else lossyExplicit
          introducedAssumptions := plan.2
          droppedFeatures := plan.1
          adapterProfileRef := adapterRef
          packHash := packHash
          createdUtc := defaultCreatedUtc }
      pure (restrictedTree sourceId (.obj irTree), receipt)) := by
  rw [projectToBackend, validProfile, extractWire_of_matchesExpr matched,
    ← walkOps_eq _ tree isTree]
  change (validateExpression (.obj irTree) >>= _) = _
  rw [validExpression]
  change (irId (.obj irTree) >>= _) = _
  rw [identified]
  rfl

/-- A projection that no operator stops returns the expression it got. -/
theorem projectToBackend_accepted
    {irTree profile : Fields} {tree : Tree}
    (validExpression : ValidExpression irTree)
    (validProfile : ValidProfile profile)
    (isTree : treeOf (.obj irTree) = some tree)
    (admitted : ∀ op ∈ tree.ops, ¬ Rejected profile op) :
    ∃ sourceId adapterRef packHash receiptId,
      projectToBackend irTree (.obj profile) defaultCreatedUtc =
        .ok (restrictedTree sourceId (.obj irTree),
          receiptBody
            (projectionStep profile tree.ops sourceId adapterRef packHash)
            ((unsupported profile tree.ops).map (introducedFor profile))
            (unsupported profile tree.ops) defaultCreatedUtc ++
            [(text "receipt_id", Json.str receiptId)]) := by
  obtain ⟨same, sourceId, isSame, validated, identified, source,
    allowed⟩ := validExpression.denotes
  cases isTree.symm.trans isSame
  obtain ⟨adapterRef, profiled, adapter, validatedProfile, sound⟩ :=
    validProfile.sound
  obtain ⟨packHash, hasPack, pack⟩ := packHashOf_sound sound
  have decided := projectToBackend_eq validExpression.matchesSchema isTree
    validated identified validatedProfile
  obtain ⟨receiptId, recorded⟩ := recordTransformation_returns
    (@projectionStep_recordable profile _ allowed _ _ _ source adapter
      pack)
  refine ⟨sourceId, adapterRef, packHash, receiptId, ?_⟩
  rw [decided, planProjection_planned sound admitted, hasPack, profiled]
  exact congrArg (· >>= fun receipt =>
    pure (restrictedTree sourceId (.obj irTree), receipt)) recorded

/--
The cost of a projection.  It is refused exactly when some operator of the
expression is rejected; otherwise the receipt is lossless exactly when every
operator is supported, and it lists the unsupported occurrences in pre-order
with the assumption that each one introduces.
-/
theorem projectToBackend_reports_cost
    {irTree profile : Fields} (validExpression : ValidExpression irTree)
    (validProfile : ValidProfile profile) :
    ∃ tree, treeOf (.obj irTree) = some tree ∧
      ((∃ error, projectToBackend irTree (.obj profile)
            defaultCreatedUtc = .error error ∧
          error.kind = .unsupportedFeatureError) ↔
        ∃ op ∈ tree.ops, Rejected profile op) ∧
      ((¬ ∃ op ∈ tree.ops, Rejected profile op) →
        ∃ restricted receipt,
          projectToBackend irTree (.obj profile) defaultCreatedUtc =
            .ok (restricted, receipt) ∧
          (Json.lookup (text "conversion_class") receipt =
              some (.str lossless) ↔
            ∀ op ∈ tree.ops, op ∈ supportedOps profile) ∧
          Json.lookup (text "dropped_features") receipt =
            some (.arr ((unsupported profile tree.ops).map .str)) ∧
          Json.lookup (text "introduced_assumptions") receipt =
            some (.arr ((unsupported profile tree.ops).map fun op =>
              (introducedFor profile op).toDict))) := by
  obtain ⟨tree, sourceId, isTree, validated, identified, source, allowed⟩ :=
    validExpression.denotes
  obtain ⟨adapterRef, profiled, adapter, validatedProfile, sound⟩ :=
    validProfile.sound
  have decided := projectToBackend_eq validExpression.matchesSchema isTree
    validated identified validatedProfile
  refine ⟨tree, isTree, ⟨?_, ?_⟩, ?_⟩
  · rintro ⟨error, failed, -⟩
    by_contra none
    obtain ⟨_, _, _, receiptId, returned⟩ := projectToBackend_accepted
      validExpression validProfile isTree fun op isOp isRejected =>
        none ⟨op, isOp, isRejected⟩
    rw [returned] at failed
    cases failed
  · intro rejected
    obtain ⟨error, stopped, kind⟩ := planProjection_rejected sound rejected
    refine ⟨error, ?_, kind⟩
    rw [decided, stopped]
    rfl
  · intro none
    obtain ⟨sourceId, adapterRef, packHash, receiptId, returned⟩ :=
      projectToBackend_accepted validExpression validProfile isTree
        fun op isOp isRejected => none ⟨op, isOp, isRejected⟩
    obtain ⟨hasClass, hasDropped, hasAssumptions⟩ := lookup_receipt
      (projectionStep profile tree.ops sourceId adapterRef packHash)
      ((unsupported profile tree.ops).map (introducedFor profile))
      (unsupported profile tree.ops) defaultCreatedUtc receiptId
    rw [List.map_map] at hasAssumptions
    refine ⟨_, _, returned, ?_, hasDropped, hasAssumptions⟩
    rw [hasClass, projectionStep_lossless_iff]

/-- The derivative of a sum. -/
def derivative : Fields :=
  [(text "op", .str (text "calculus1.diff")),
    (text "args", .arr
      [.obj [(text "op", .str (text "arith1.plus")),
        (text "args", .arr [.obj [(text "var", .str (text "x"))],
          .obj [(text "const", .str (text "1"))]])]])]

/-- A backend that drops the operators of calculus. -/
def arithmeticProfile : Fields :=
  [(text "schema_version", .str adapterProfileV1),
    (text "supported_cds", .arr [.str (text "arith1.plus")]),
    (text "unsupported_features", .arr
      [.obj [(text "feature", .str (text "calculus1.*")),
        (text "behavior", .str (text "drop"))]]),
    (text "pack_ref", .obj
      [(text "schema_version", .str artifactRefSchemaVersion),
        (text "media_type", .str (text "application/json")),
        (text "digest", .str (text "sha256:" ++
          List.replicate 64 (codePoint '0'))),
        (text "size_bytes", .int 1)])]

theorem derivative_valid : ValidExpression derivative := by
  have accepted : validateExpression (.obj derivative) = .ok () := by
    decide
  have own {members : Fields}
      (only : (members.map Prod.fst).all
        (fun key => (ownKeys members).contains key) = true) :
      OnlyKeys (ownKeys members) members := fun key isKey =>
    List.contains_iff_mem.mp (List.all_eq_true.mp only key isKey)
  refine ⟨(matchesExpr_iff _).mpr ⟨?_, ?_⟩, ?_⟩
  · obtain ⟨tree, isTree, valid⟩ := validateExpression_eq_ok.mp accepted
    exact ⟨tree, isTree, valid.wellFormed⟩
  · refine .node (own (by decide)) fun items hasArgs => ?_
    cases hasArgs
    rw [List.forall_mem_singleton]
    refine .node (own (by decide)) fun items hasArgs => ?_
    cases hasArgs
    rw [List.forall_mem_cons, List.forall_mem_singleton]
    exact ⟨.node (own (by decide)) nofun,
      .node (own (by decide)) nofun⟩
  · obtain ⟨sourceId, computed, -⟩ := @objectId_of_writable derivative
      (by simp [derivative, WritableMembers, Writable, WritableItems,
        scalars_text]) (by decide)
    refine ⟨sourceId, ?_⟩
    simp only [irId, bind_eq_ok_iff]
    exact ⟨⟨⟩, accepted, computed⟩

theorem arithmeticProfile_valid : ValidProfile arithmeticProfile := by
  have accepted : (validateProfile (.obj arithmeticProfile)).isOk =
      true := by
    decide
  cases validated : validateProfile (.obj arithmeticProfile) with
  | error error =>
      rw [validated] at accepted
      cases accepted
  | ok members =>
      obtain ⟨same, -⟩ := validateProfile_sound validated
      cases same
      have one : Writable (.int 1) := by
        change (decimalText (Int.natAbs 1)).length ≤ intMaxStrDigits
        decide
      have digest : Scalars (text "sha256:" ++
          List.replicate 64 (codePoint '0')) :=
        scalars_of_isObjectId (by decide)
      obtain ⟨adapterRef, computed, -⟩ :=
        @objectId_of_writable arithmeticProfile
          (by
            simp only [arithmeticProfile, WritableMembers, Writable,
              WritableItems, scalars_text, adapterProfileV1,
              artifactRefSchemaVersion, and_true, true_and]
            exact ⟨digest, one⟩)
          (by decide)
      refine ⟨adapterRef, ?_⟩
      simp only [profileId, bind_eq_ok_iff]
      exact ⟨arithmeticProfile, validated, computed⟩

theorem projectToBackend_reports_cost_derivative :
    ValidExpression derivative ∧ ValidProfile arithmeticProfile ∧
      ∃ tree, treeOf (.obj derivative) = some tree ∧
        ((∃ error, projectToBackend derivative (.obj arithmeticProfile)
              defaultCreatedUtc = .error error ∧
            error.kind = .unsupportedFeatureError) ↔
          ∃ op ∈ tree.ops, Rejected arithmeticProfile op) := by
  obtain ⟨tree, isTree, refused, -⟩ :=
    projectToBackend_reports_cost derivative_valid arithmeticProfile_valid
  exact ⟨derivative_valid, arithmeticProfile_valid, tree, isTree, refused⟩

end ScientificResourceLab.Semantic
