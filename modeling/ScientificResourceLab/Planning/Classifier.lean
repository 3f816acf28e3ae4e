import Mathlib.Data.List.Infix
import ScientificResourceLab.Python.Printing
import ScientificResourceLab.Steps.Fallible

/-!
# Profiles and the claim classifier

The names of the fifteen capability profiles and of the six future profiles,
and `srl.planning.classifier`: a table of rules, each of which selects
profiles when it fires on the claim or on the content dictionaries of its
inputs.

`str.lower` on an arbitrary text is the parameter `lower`; nothing below
depends on what it does.
-/

namespace ScientificResourceLab.Planning

open Python Steps

/-! ## Profile names -/

/-- `SCIENCE_LAB_PROFILES`, also `PROFILE_NAMES`. -/
def scienceLabProfiles : List Text :=
  [text "algebra_exact", text "symbolic_law", text "dynamics",
    text "geometry_tda", text "causal_time_series", text "uncertainty",
    text "optimization", text "formal_protocol", text "literature",
    text "theorem_or_proof_obligation",
    text "nonlinear_continuous_or_hybrid_constraint",
    text "executable_ode_dae_sde_model", text "pde_variational_model",
    text "model_composition", text "literature_extraction"]

/-- `FUTURE_PROFILE_NAMES`, also `FUTURE_PROFILE_IDS`. -/
def futureProfileNames : List Text :=
  [text "content_mathml", text "dreal", text "latexml",
    text "lean_mathlib", text "orkg_opencitations", text "sciml_bounded"]

/-- `_KNOWN_PROFILES`. -/
def knownProfiles : List Text :=
  scienceLabProfiles ++ futureProfileNames

theorem scienceLabProfiles_nodup : scienceLabProfiles.Nodup := by
  simp -index only [scienceLabProfiles, text_ofList]
  decide

theorem futureProfileNames_disjoint :
    ∀ name ∈ futureProfileNames, name ∉ scienceLabProfiles := by
  simp -index only [futureProfileNames, scienceLabProfiles, text_ofList]
  decide

/-- `sorted` of a set of names. -/
def sortedNames (names : List Text) : List Text :=
  names.dedup.insertionSort (· ≤ ·)

theorem mem_sortedNames {names : List Text} {name : Text} :
    name ∈ sortedNames names ↔ name ∈ names := by
  simp [sortedNames]

/--
The test `value in names` for a set of strings, with the error for a value
that is not one of them; the value is hashed first.
-/
def nameIn (names : List Text) (refusal : Json → PyError) :
    Json → Except PyError Text
  | .str value =>
      if value ∈ names then .ok value else .error (refusal (.str value))
  | .arr _ => .error (raised .typeError "unhashable type: 'list'")
  | .obj _ => .error (raised .typeError "unhashable type: 'dict'")
  | other => .error (refusal other)

/-! ## What the rules read -/

section Classifier

variable (lower : Text → Text)

/-- A string field, or the empty string. -/
def stringField (key : String) (members : List (Text × Json)) : Text :=
  match Json.lookup (text key) members with
  | some (.str value) => value
  | _ => []

/-- `_claim_statement`. -/
def claimStatement (claim : List (Text × Json)) : Text :=
  lower (stringField "statement" claim)

/-- `_claim_class`. -/
def claimClass : List (Text × Json) → Text :=
  stringField "claim_class"

/-- `_epistemic_source`. -/
def epistemicSource : List (Text × Json) → Text :=
  stringField "epistemic_source"

/-- The objects of a list field. -/
def objectsIn (key : String) (members : List (Text × Json)) :
    List (List (Text × Json)) :=
  match Json.lookup (text key) members with
  | some (.arr items) =>
      items.filterMap fun item =>
        match item with
        | .obj inner => some inner
        | _ => none
  | _ => []

/-- A non-empty `cd` field. -/
def namedCd (members : List (Text × Json)) : List Text :=
  [stringField "cd" members].filter (· ≠ [])

/-- The dictionary before the first point of an `op` field. -/
def operatorCd (members : List (Text × Json)) : List Text :=
  let op := stringField "op" members
  if codePoint '.' ∈ op then [op.takeWhile (· ≠ codePoint '.')] else []

/-- `_cds_present`. -/
def cdsPresent (symbolTable conditionSet : List (Text × Json)) :
    List Text :=
  (objectsIn "symbols" symbolTable).flatMap namedCd ++
    (objectsIn "conditions" conditionSet).flatMap fun condition =>
      operatorCd condition ++ namedCd condition

/-- `_statement_mentions`. -/
def statementMentions (statement : Text) (needles : List String) : Bool :=
  needles.any fun needle => text needle <:+: statement

/-! ## The rule table -/

/-- What makes a rule fire. -/
inductive Trigger where
  | statement (keywords : List String)
  | cd (cds : List String)
  | source (source : String)
  | claimClass (claimClass : String)

/-- A rule of the classifier. -/
structure Rule where
  id : String
  trigger : Trigger
  profiles : List String

/-- `applies`. -/
def Rule.applies
    (rule : Rule) (claim symbolTable conditionSet : List (Text × Json)) :
    Bool :=
  match rule.trigger with
  | .statement keywords =>
      statementMentions (claimStatement lower claim) keywords
  | .cd cds =>
      cds.any fun cd => text cd ∈ cdsPresent symbolTable conditionSet
  | .source source => epistemicSource claim = text source
  | .claimClass wanted => claimClass claim = text wanted

/-- `_RULES`. -/
def rules : List Rule :=
  [⟨"R-LITERATURE", .source "literature",
      ["literature", "literature_extraction"]⟩,
    ⟨"R-ESTABLISHED-LAW", .claimClass "established_law_reference",
      ["symbolic_law", "theorem_or_proof_obligation"]⟩,
    ⟨"R-TDA", .statement ["persistent homology",
        "topological data analysis", "betti number", "filtration"],
      ["geometry_tda"]⟩,
    ⟨"R-ODE", .statement ["ode", "ordinary differential equation",
        "initial value problem", "differential-algebraic", "dae", "sde",
        "stochastic differential"],
      ["executable_ode_dae_sde_model", "dynamics"]⟩,
    ⟨"R-PDE", .statement ["pde", "partial differential equation",
        "variational", "finite element", "weak form"],
      ["pde_variational_model", "dynamics"]⟩,
    ⟨"R-NONLINEAR-CONSTRAINT", .statement ["nonlinear constraint",
        "hybrid system", "smt", "satisfiability", "constraint solving"],
      ["nonlinear_continuous_or_hybrid_constraint"]⟩,
    ⟨"R-CAUSAL", .statement ["causal", "granger", "intervention",
        "do-calculus", "time series", "time-series"],
      ["causal_time_series"]⟩,
    ⟨"R-UNCERTAINTY", .statement ["uncertainty", "confidence interval",
        "bayesian", "posterior", "propagation of uncertainty"],
      ["uncertainty"]⟩,
    ⟨"R-OPTIMIZATION", .statement ["optimization", "optimal control",
        "minimize", "maximize", "convex program", "lagrangian"],
      ["optimization"]⟩,
    ⟨"R-PROOF", .statement ["theorem", "proof", "lemma", "corollary",
        "conjecture"],
      ["theorem_or_proof_obligation"]⟩,
    ⟨"R-ALGEBRA", .statement ["linear system", "eigenvalue",
        "matrix inverse", "exact arithmetic", "grobner", "symbolic"],
      ["algebra_exact"]⟩,
    ⟨"R-MODEL-COMPOSITION", .statement ["composition", "coupled model",
        "subsystem", "hierarchical model", "composition of models"],
      ["model_composition"]⟩,
    ⟨"R-PROTOCOL", .statement ["protocol", "specification", "refinement",
        "invariant preservation"],
      ["formal_protocol"]⟩,
    ⟨"R-CD-CALCULUS", .cd ["calculus1"], ["dynamics"]⟩,
    ⟨"R-CD-LINALG", .cd ["linalg1"], ["algebra_exact"]⟩,
    ⟨"R-CD-LOGIC", .cd ["logic1"],
      ["theorem_or_proof_obligation", "formal_protocol"]⟩,
    ⟨"R-CD-SET", .cd ["set1"], ["geometry_tda"]⟩]

/-- The profiles a classification selects and the rules that fired. -/
structure Classification where
  selected : List Text
  trace : List String

/-- `classify` on three objects. -/
def classify (claim symbolTable conditionSet : List (Text × Json)) :
    Classification :=
  let fired := rules.filter fun rule =>
    rule.applies lower claim symbolTable conditionSet
  ⟨fired.flatMap fun rule => rule.profiles.map text,
    fired.map Rule.id⟩

/-- `_validate_rules`: every rule names known profiles. -/
theorem rules_profiles :
    ∀ rule ∈ rules, ∀ profile ∈ rule.profiles,
      text profile ∈ scienceLabProfiles := by
  simp -index only [scienceLabProfiles, text_ofList]
  decide

/-- The classifier selects shipped profiles only. -/
theorem classify_selected
    {claim symbolTable conditionSet : List (Text × Json)} {name : Text}
    (selected : name ∈
      (classify lower claim symbolTable conditionSet).selected) :
    name ∈ scienceLabProfiles := by
  rw [classify] at selected
  simp only [List.mem_flatMap, List.mem_map] at selected
  obtain ⟨rule, fired, profile, member, rfl⟩ := selected
  exact rules_profiles rule (List.mem_of_mem_filter fired) profile member

end Classifier

end ScientificResourceLab.Planning
