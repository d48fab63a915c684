import ElCapitan.Base.Errors
import ElCapitan.Base.Schema
import Mathlib.Data.List.Sort
import Mathlib.Data.List.Lex
import Mathlib.Data.String.Basic

/-!
# Output contracts

The strict output contracts of the model-backed roles. The wording of a
violation is the validation library's; whether there is one is decided here.
-/

namespace ElCapitan

/-- A string of at least one character. -/
def nonEmptyString : Schema := .string [] 1 none

/-- `_STRING_ARRAY`. -/
def stringArray : Schema := .array nonEmptyString 0 none

/-- `_review_string_array`. -/
def reviewStringArray : Schema := .array (.string [] 1 (some 500)) 0 (some 6)

/-- `TERRAFORM_REMEDIATION_PROPOSAL`. -/
def terraformRemediationProposal : Schema :=
  .object
    [("objective", nonEmptyString),
      ("files", .array (.object [("path", nonEmptyString), ("content", nonEmptyString)]
        ["path", "content"]) 1 none),
      ("prerequisites", stringArray), ("steps", stringArray), ("rollout_steps", stringArray),
      ("verification_steps", stringArray), ("rollback_steps", stringArray),
      ("rollback_triggers", stringArray), ("blast_radius", stringArray)]
    ["objective", "files", "prerequisites", "steps", "rollout_steps", "verification_steps",
      "rollback_steps", "rollback_triggers", "blast_radius"]

/-- The decision of a reviewer. -/
def reviewDecision : Schema := .string ["approve", "reject", "needs_human_context"] 0 none

/-- The summary of a reviewer. -/
def reviewSummary : Schema := .string [] 1 (some 1500)

/-- `SRE_REVIEW`. -/
def sreReview : Schema :=
  .object
    [("decision", reviewDecision),
      ("risk_level", .string ["low", "medium", "high", "critical"] 0 none),
      ("summary", reviewSummary), ("dependencies", reviewStringArray),
      ("failure_modes", reviewStringArray), ("required_controls", reviewStringArray),
      ("verification_requirements", reviewStringArray)]
    ["decision", "risk_level", "summary", "dependencies", "failure_modes", "required_controls",
      "verification_requirements"]

/-- `CHANGE_WINDOW_SELECTION`. -/
def changeWindowSelection : Schema :=
  .object
    [("selected_candidate_id", nonEmptyString), ("rationale", stringArray),
      ("confidence", .number 0 1), ("risks", stringArray)]
    ["selected_candidate_id", "rationale", "confidence", "risks"]

/-- `ROLLBACK_REVIEW`. -/
def rollbackReview : Schema :=
  .object
    [("decision", reviewDecision), ("summary", reviewSummary),
      ("verified_steps", reviewStringArray), ("trigger_coverage", reviewStringArray),
      ("failure_modes", reviewStringArray), ("required_changes", reviewStringArray)]
    ["decision", "summary", "verified_steps", "trigger_coverage", "failure_modes",
      "required_changes"]

/-- `POST_CHANGE_REVIEW`. -/
def postChangeReview : Schema :=
  .object
    [("decision", .string ["accept", "rollback", "needs_human_context"] 0 none),
      ("summary", nonEmptyString), ("validated_outcomes", stringArray),
      ("residual_risks", stringArray), ("handoff_notes", stringArray)]
    ["decision", "summary", "validated_outcomes", "residual_risks", "handoff_notes"]

/-- `OUTPUT_CONTRACTS`. -/
def outputContracts : List (String × Schema) :=
  [("TerraformRemediationProposal.v1", terraformRemediationProposal),
    ("IaCRemediationProposal.v1", terraformRemediationProposal),
    ("SREReview.v1", sreReview),
    ("ChangeWindowSelection.v1", changeWindowSelection),
    ("RollbackReview.v1", rollbackReview),
    ("PostChangeReview.v1", postChangeReview)]

/-- `output_schema`. -/
def outputSchema (contract : String) : Except PyError Schema :=
  match outputContracts.lookup contract with
  | some schema => .ok schema
  | none => .error (valueError ("unknown agent output contract: " ++ contract))

/-- `validate_output`; `describe` words a violation as the validation library does. -/
def validateOutput (describe : SchemaError → String) (contract : String) (document : Json) :
    Except PyError (List String) := do
  let schema ← outputSchema contract
  let errors := (schema.errors [] document).insertionSort fun a b => a.path ≤ b.path
  return errors.map fun error =>
    (if error.path = [] then "<root>" else "/".intercalate error.path) ++ ": " ++ describe error

/-- An output without violations conforms to its contract. -/
theorem validateOutput_eq_nil {describe : SchemaError → String} {contract : String}
    {document : Json} (h : validateOutput describe contract document = .ok []) :
    ∃ schema, outputContracts.lookup contract = some schema ∧ schema.Conforms document := by
  unfold validateOutput outputSchema at h
  cases hlookup : outputContracts.lookup contract with
  | none => simp [hlookup, bind, Except.bind] at h
  | some schema =>
    refine ⟨schema, rfl, ?_⟩
    simp only [hlookup, bind, Except.bind, pure, Except.pure, Except.ok.injEq,
      List.map_eq_nil_iff] at h
    have hperm := List.perm_insertionSort (fun a b : SchemaError => a.path ≤ b.path)
      (schema.errors [] document)
    rw [h] at hperm
    exact hperm.symm.eq_nil

/-- The contract of a release audit is known. -/
theorem postChangeReview_known {describe : SchemaError → String} {document : Json} :
    ∃ failures, validateOutput describe "PostChangeReview.v1" document = .ok failures :=
  ⟨_, rfl⟩

/-- A conforming release audit decides one way or another. -/
theorem postChangeReview_decision {describe : SchemaError → String} {output : Document}
    (h : validateOutput describe "PostChangeReview.v1" (.obj output) = .ok []) :
    ∃ decision, output.lookup "decision" = some (.str decision) ∧
      decision ∈ ["accept", "rollback", "needs_human_context"] := by
  obtain ⟨schema, hschema, hconforms⟩ := validateOutput_eq_nil h
  have hknown : outputContracts.lookup "PostChangeReview.v1" = some postChangeReview := rfl
  obtain rfl : postChangeReview = schema := Option.some.inj (hknown.symm.trans hschema)
  obtain ⟨value, hvalue, herrors⟩ := Schema.required_property hconforms
    (List.mem_cons_self : "decision" ∈ _) List.mem_cons_self
  obtain ⟨decision, rfl, hdecision, -⟩ := Schema.string_value herrors
  exact ⟨decision, hvalue, hdecision (by simp)⟩

end ElCapitan
