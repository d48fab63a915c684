import ElCapitan.Base.Json
import ElCapitan.Cases.Records
import Mathlib.Data.Finset.Sort
import Mathlib.Data.String.Basic

/-!
# Cases as documents

The documents under which cases and their parts are stored, packaged for review
and shown to agents.
-/

namespace ElCapitan

/-- The entries of a record mapping, by name. -/
def RecordIds.toDict (records : RecordIds) : Document :=
  (records.keys.sort (· ≤ ·)).map fun name => (name, .str ((records.lookup name).getD ""))

/-- `_risk_to_dict`. -/
def RiskAssessment.toDict (risk : RiskAssessment) : Json :=
  .obj [("assessment_id", .str risk.assessmentId), ("score", .float risk.score),
    ("urgency", .str risk.urgency), ("factors", .ofStrings risk.factors),
    ("confidence", .float risk.confidence), ("evidence_ids", .ofStrings risk.evidenceIds)]

/-- `_plan_to_dict`. -/
def ChangePlan.toDict (plan : ChangePlan) : Json :=
  .obj [("plan_id", .str plan.planId), ("objective", .str plan.objective),
    ("change_ref", .str plan.changeRef), ("prerequisites", .ofStrings plan.prerequisites),
    ("steps", .ofStrings plan.steps), ("rollout_steps", .ofStrings plan.rolloutSteps),
    ("verification_steps", .ofStrings plan.verificationSteps),
    ("rollback_steps", .ofStrings plan.rollbackSteps),
    ("rollback_triggers", .ofStrings plan.rollbackTriggers),
    ("blast_radius", .ofStrings plan.blastRadius), ("evidence_ids", .ofStrings plan.evidenceIds)]

/-- `_window_to_dict`. -/
def ChangeWindow.toDict (window : ChangeWindow) : Json :=
  .obj [("window_id", .str window.windowId), ("starts_at", .str window.startsAt),
    ("ends_at", .str window.endsAt), ("timezone", .str window.timezone),
    ("rationale", .ofStrings window.rationale), ("evidence_ids", .ofStrings window.evidenceIds),
    ("confidence", .float window.confidence)]

/-- The document of an optional part. -/
def partToDict {α : Type} (toDict : α → Json) : Option α → Json
  | some part => toDict part
  | none => .null

/-- `case_to_dict`. -/
def RemediationCase.toDict (case : RemediationCase) : Json :=
  .obj [("case_id", .str case.caseId), ("tenant_id", .str case.tenantId),
    ("finding_ids", .ofStrings case.findingIds), ("asset_ids", .ofStrings case.assetIds),
    ("service_ids", .ofStrings case.serviceIds), ("state", .str case.state.value),
    ("version", .int case.version), ("created_at", .str case.createdAt),
    ("updated_at", .str case.updatedAt),
    ("priority", partToDict RiskAssessment.toDict case.priority),
    ("change_plan", partToDict ChangePlan.toDict case.changePlan),
    ("change_window", partToDict ChangeWindow.toDict case.changeWindow),
    ("record_ids", .obj case.recordIds.toDict),
    ("blocked_from", partToDict (fun state => .str state.value) case.blockedFrom)]

end ElCapitan
