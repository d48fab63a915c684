import ElCapitan.Services.Reviews

/-!
# The human-approval gate

`HumanReviewGate.prepare`: mechanical policy checks over the records a case binds,
and the package that a human decides about. No agent takes part.
-/

namespace ElCapitan

open Effects

/-- The policy of a gate. -/
structure GatePolicy where
  minimumDistinctAgentModels : ℕ := 1
  requireStateGroundedPlan : Bool := false
  bounds : 1 ≤ minimumDistinctAgentModels ∧ minimumDistinctAgentModels ≤ 4 := by decide

/-- `HumanReviewOutcome`. -/
structure HumanReviewOutcome where
  case : RemediationCase
  policyRecord : ProductRecord
  reviewPackage : ProductRecord

/-- One policy check. -/
structure GateCheck where
  check : String
  passed : Bool
  detail : String

/-- The document of a policy check. -/
def GateCheck.toDict (check : GateCheck) : Json :=
  .obj [("check", .str check.check), ("passed", .bool check.passed),
    ("detail", .str check.detail)]

/-- The records a case must bind, with their types. -/
def requiredReviewRecords : List (String × String) :=
  [("validation_result_id", "ValidationResult.v1"), ("iac_link_id", "IaCLink.v1"),
    ("change_plan_id", "RemediationPlan.v1"), ("sre_review_id", "SREReview.v1"),
    ("change_window_id", "ChangeWindowRecommendation.v1"),
    ("rollback_review_id", "RollbackReview.v1")]

/-- The records found, by name. -/
abbrev FoundRecords := List (String × ProductRecord)

/-- Look the required records up; a missing id only fails its check. -/
def gateRecords (caseId : String) (case : RemediationCase) :
    List (String × String) → Service (FoundRecords × List GateCheck)
  | [] => return ([], [])
  | (key, expected) :: rest => do
    let recordId := case.recordIds.text key
    if recordId = "" then do
      let (records, checks) ← gateRecords caseId case rest
      return (records, ⟨key, false, "record missing"⟩ :: checks)
    else do
      let record ← perform (.getRecord recordId)
      let (records, checks) ← gateRecords caseId case rest
      return ((key, record) :: records,
        ⟨key, record.caseId = caseId ∧ record.recordType = expected,
          record.recordId ++ " (" ++ record.recordType ++ ")"⟩ :: checks)

/-- The body of a found record, or an empty one. -/
def FoundRecords.body (records : FoundRecords) (key : String) : Document :=
  (records.lookup key).elim [] ProductRecord.body

/-- `iac_verification`. -/
def planVerified (records : FoundRecords) : Bool :=
  let body := records.body "change_plan_id"
  (records.lookup "change_plan_id").isSome && body.text "status" = "verified" &&
    (body.get "checks").truthy && checksPassed body

/-- Does a plan have a passed check of this name? -/
def hasPassedCheck (body : Document) (name : String) : Bool :=
  ((body.get "checks").arr?.getD []).any fun check =>
    let entries := check.obj?.getD []
    entries.text "name" = name && (entries.get "passed").isTrue

/-- `state_grounded_plan_scope`. -/
def stateGrounded (records : FoundRecords) : Bool :=
  let body := records.body "change_plan_id"
  let verification := (body.get "verification").obj?.getD []
  let persisted := verification.get "plan_artifact_persisted"
  let bound := (verification.get "resource_address").truthy &&
    (verification.get "state_sha256").truthy
  let terraform := verification.text "mode" = "targeted_state_plan" &&
    (match persisted with
      | .bool b => !b
      | _ => false) && bound && hasPassedCheck body "plan_scope"
  let cloudformation := verification.text "mode" = "cloudformation_template_scope" &&
    persisted.isTrue && verification.text "iac_engine" = "aws_cdk_cloudformation" && bound &&
    hasPassedCheck body "cloudformation_scope"
  terraform || cloudformation

/-- The distinct runtime and model identities of the agents behind the records. -/
def modelIdentities (records : FoundRecords) : List String :=
  (([("change_plan_id"), "sre_review_id", "change_window_id", "rollback_review_id"].filterMap
    fun name => (records.lookup name).map fun record =>
      let task := (record.body.get "task").obj?.getD []
      Document.text task "runtime" ++ ":" ++ Document.text task "model").filter
        fun identity => identity ≠ ":").dedup

/-- The checks on the content of the records. -/
def contentChecks (P : Platform) (policy : GatePolicy) (records : FoundRecords) :
    List GateCheck :=
  let sre := records.body "sre_review_id"
  let rollback := records.body "rollback_review_id"
  let identities := (modelIdentities records).length
  [⟨"iac_verification", planVerified records,
      "every engine-specific verification check must pass"⟩] ++
    (if policy.requireStateGroundedPlan then
      [⟨"state_grounded_plan_scope", stateGrounded records,
        "the engine-specific plan must contain only the allowed update to the state-linked " ++
          "resource"⟩]
    else []) ++
    [⟨"sre_approval", sre.text "decision" = "approve" ∧ sreSemanticFailures P sre = [],
        "independent SRE decision must be approve"⟩,
      ⟨"rollback_approval",
        rollback.text "decision" = "approve" ∧ rollbackSemanticFailures P rollback = [],
        "independent rollback decision must be approve"⟩,
      ⟨"agent_model_diversity", policy.minimumDistinctAgentModels ≤ identities,
        toString identities ++ " distinct runtime/model identities; policy requires " ++
          toString policy.minimumDistinctAgentModels⟩]

/-- `future_change_window`. -/
def windowCheck (P : Platform) : Option ChangeWindow → Service GateCheck
  | none => return ⟨"future_change_window", false, "missing"⟩
  | some window => do
    let now ← perform .now
    let started ← .ofExcept (notAfter P window.startsAt now)
    return ⟨"future_change_window", !started, window.startsAt⟩

/-- `evidence_chain`. -/
def evidenceCheck (records : FoundRecords) (allEvidence : List String) : GateCheck :=
  ⟨"evidence_chain", !allEvidence.isEmpty && records.all fun entry => !entry.2.evidenceIds.isEmpty,
    toString allEvidence.length ++ " immutable evidence references"⟩

/-- The document of a found record. -/
def FoundRecords.toDict (records : FoundRecords) (key : String) : Json :=
  partToDict ProductRecord.toDict (records.lookup key)

/-- The body of a review package. -/
def packageBody (packageId : String) (case : RemediationCase) (records : FoundRecords)
    (policy : ProductRecord) : Document :=
  [("review_package_id", .str packageId), ("case", case.toDict),
    ("risk_assessment", partToDict RiskAssessment.toDict case.priority),
    ("validation", records.toDict "validation_result_id"),
    ("iac_link", records.toDict "iac_link_id"),
    ("remediation_plan", records.toDict "change_plan_id"),
    ("sre_review", records.toDict "sre_review_id"),
    ("change_window", records.toDict "change_window_id"),
    ("rollback_review", records.toDict "rollback_review_id"),
    ("policy_decision", policy.toDict),
    ("requested_human_decision", .str "approve_or_reject_change"),
    ("execution_status", .str "not_started")]

/-- `HumanReviewGate.prepare`. -/
def prepareReview (S : Settings) (policy : GatePolicy) (caseId : String) :
    Service HumanReviewOutcome := do
  let case ← perform (.getCase caseId)
  .raiseIf (case.state ≠ .rollbackReady)
    (preApprovalError ("case " ++ caseId ++ " must be rollback_ready for human review"))
  let (records, bindingChecks) ← gateRecords caseId case requiredReviewRecords
  let window ← windowCheck S.platform case.changeWindow
  let allEvidence := fromKeys (records.flatMap fun entry => entry.2.evidenceIds)
  let checks := bindingChecks ++ contentChecks S.platform policy records ++
    [window, evidenceCheck records allEvidence]
  let failed := (checks.filter fun check => check.passed = false).map GateCheck.check
  .raiseIf (failed ≠ [])
    (preApprovalError ("human review policy failed: " ++ ", ".intercalate failed))
  let now ← perform .now
  let policyId ← perform (.newId "POL")
  let packageId ← perform (.newId "REVIEW")
  let decision ← .ofExcept (ProductRecord.create policyId caseId "PolicyDecision.v1" 1 now
    [("policy_id", .str policyId), ("decision", .str "allow_human_review"),
      ("checks", .arr (checks.map GateCheck.toDict)),
      ("prohibitions", .ofStrings ["no infrastructure apply has been performed",
        "approval does not itself authorize or execute a change"])] allEvidence)
  perform (.putRecord decision)
  let package ← .ofExcept (ProductRecord.create packageId caseId "HumanReviewPackage.v1" 1 now
    (packageBody packageId case records decision) allEvidence)
  perform (.putRecord package)
  let eventId ← perform (.newId "EVT")
  let case ← advance caseId .requestApproval
    { eventId, occurredAt := now, actor := "approval-policy",
      recordIds := recordIdsOf [("policy_decision_id", policyId),
        ("human_review_package_id", packageId)],
      evidenceIds := allEvidence }
  return ⟨case, decision, package⟩

end ElCapitan
