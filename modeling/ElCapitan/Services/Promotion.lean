import ElCapitan.Services.Planning

/-!
# Promotion

`PromotionReadinessService`: which findings of a case a plan may cover, bound to the
current validation by a token, and the planning of exactly that scope.
-/

namespace ElCapitan

open Effects

/-- `PromotionReadiness`. -/
structure PromotionReadiness where
  caseId : String
  tenantId : String
  eligible : Bool
  status : String
  blockers : List String
  provider : String
  resourceUids : List String
  confirmedFindingIds : List String
  confirmedRuleIds : List String
  excludedFindingIds : List String
  incompleteFindingIds : List String
  confirmedWithoutPlanningFindingIds : List String
  validationRecordId : String
  validationEvidenceIds : List String
  requiredInputs : List String
  targetState : String
  promotionToken : String

/-- `PREAPPROVAL_STATES`. -/
def preapprovalStates : List CaseState :=
  [.validated, .planReady, .sreApproved, .windowSelected, .rollbackReady]

/-- `REQUIRED_INPUTS`. -/
def promotionInputs : List String :=
  ["read-only IaC repository snapshot",
    "Terraform state JSON when resource names are computed",
    "service owner, environment, dependencies, and health signals",
    "historical usage samples or a separately scoped observer identity",
    "explicit maker, SRE checker, window reviewer, and rollback reviewer routes"]

/-- `statuses`: the finding ids a validation lists, with the status of each. -/
def validationStatuses (P : Platform) (body : Document) : List (String × String) :=
  (fromKeys ((validationItems body).map fun item => P.str (item.getText "finding_id"))).map
    fun findingId => (findingId, validationStatus P body findingId)

/-- The confirmed findings of the case. -/
def confirmedFindings (P : Platform) (findings : List StoredFinding) (body : Document) :
    List StoredFinding :=
  findings.filter fun finding =>
    (validationStatuses P body).lookup finding.findingId = some "confirmed"

/-- Does a control with planning capability cover a finding? -/
def plannable (S : Settings) (finding : StoredFinding) : Except PyError Bool := do
  let ruleId ← finding.ruleId S.platform
  let resourceType ← finding.resourceType S.platform
  return (S.control finding.provider ruleId resourceType).elim false Control.remediationPlanning

/-- The items that meet a check that may raise. -/
def filterExcept {α : Type} (p : α → Except PyError Bool) : List α → Except PyError (List α)
  | [] => .ok []
  | item :: rest => do
    let kept ← p item
    let others ← filterExcept p rest
    return if kept then item :: others else others

/-- The ids of findings, sorted. -/
def sortedIds (findings : List StoredFinding) : List String :=
  sortedSet (findings.map StoredFinding.findingId)

/-- The validation record a case binds, and what stands in the way of using it. -/
def promotedValidation (caseId validationId : String) :
    Service (Option ProductRecord × List String) := do
  if validationId = "" then return (none, ["case has no bound validation result"])
  else
    Prog.handle
      (do let validation ← perform (.getRecord validationId)
          return (some validation,
            failureIf (validation.caseId ≠ caseId ∨ validation.recordType ≠ "ValidationResult.v1")
              "bound validation result has the wrong owner or type"))
      fun e =>
        if e.kind.isKeyError = true then
          return (none, ["bound validation result does not exist"])
        else .raise e

/-- What stands in the way of planning, given the bound validation. -/
def scopeBlockers (P : Platform) (findings confirmed planned : List StoredFinding)
    (validation : Option ProductRecord) (resources : List String) : List String :=
  let body := validation.elim [] ProductRecord.body
  let unvalidated := sortedDifference (findings.map StoredFinding.findingId)
    ((validationStatuses P body).map Prod.fst)
  failureIf (validation.isSome = true ∧ unvalidated ≠ [])
      ("validation does not cover finding(s): " ++ ", ".intercalate unvalidated) ++
    failureIf (validation.isSome = true ∧ confirmed.isEmpty = true)
      "live validation confirms no finding in this case" ++
    failureIf (validation.isSome = true ∧ confirmed.isEmpty = false ∧ planned.isEmpty = true)
      "live validation confirms no finding with deterministic planning capability" ++
    failureIf (1 < (planned.map StoredFinding.provider).dedup.length)
      "confirmed findings span multiple cloud providers" ++
    failureIf (1 < resources.length) "confirmed findings span multiple resources"

/-- The status of a promotion. -/
def promotionStatus (state : CaseState) (blockers : List String) : String :=
  if blockers ≠ [] then "blocked"
  else if state = .validated then "ready_for_preapproval"
  else if state = .awaitingApproval then "awaiting_human_approval"
  else "preapproval_in_progress"

/-- The promotion that follows from what was read. -/
def readinessOf (S : Settings) (tenantId caseId : String) (case : RemediationCase)
    (findings : List StoredFinding) (validation : Option ProductRecord) (bound : List String) :
    Except PyError PromotionReadiness := do
  let body := validation.elim [] ProductRecord.body
  let statuses := validationStatuses S.platform body
  let confirmed := confirmedFindings S.platform findings body
  let planned ← filterExcept (plannable S) confirmed
  let rules ← planned.mapM (StoredFinding.ruleId S.platform)
  let resources := sortedSet (planned.map StoredFinding.resourceUid)
  let confirmedIds := sortedIds planned
  let blockers := failureIf (case.state ∉ preapprovalStates ∧ case.state ≠ .awaitingApproval)
      ("case is outside the preapproval workflow; current state is " ++ case.state.value) ++
    bound ++ scopeBlockers S.platform findings confirmed planned validation resources
  let evidenceIds := fromKeys (((validationItems body).filter fun item =>
    S.platform.str (item.getText "finding_id") ∈ confirmedIds).flatMap itemEvidence)
  let validationId := case.recordIds.text "validation_result_id"
  let provider := (planned.map StoredFinding.provider).headD ""
  let incomplete := statuses.filter fun entry => entry.2 ∈ ["unsupported", "unavailable"]
  return {
    caseId, tenantId, blockers,
    eligible := blockers = [] ∧ case.state ∈ preapprovalStates
    status := promotionStatus case.state blockers
    provider, resourceUids := resources
    confirmedFindingIds := confirmedIds
    confirmedRuleIds := sortedSet rules
    excludedFindingIds := sortedDifference (findings.map StoredFinding.findingId) confirmedIds
    incompleteFindingIds := sortedSet (incomplete.map Prod.fst)
    confirmedWithoutPlanningFindingIds := sortedDifference (sortedIds confirmed) confirmedIds
    validationRecordId := validationId, validationEvidenceIds := evidenceIds
    requiredInputs := promotionInputs, targetState := "awaiting_approval"
    promotionToken := S.platform.canonicalHash (.obj [("case_id", .str caseId),
      ("tenant_id", .str tenantId), ("validation_record_id", .str validationId),
      ("validation_evidence_ids", .ofStrings evidenceIds),
      ("confirmed_finding_ids", .ofStrings confirmedIds), ("provider", .str provider),
      ("resource_uids", .ofStrings resources), ("rule_ids", .ofStrings (sortedSet rules))]) }

/-- `PromotionReadinessService.inspect`. -/
def inspectPromotion (S : Settings) (tenantId caseId : String) : Service PromotionReadiness := do
  let case ← perform (.getCase caseId)
  .raiseIf (case.tenantId ≠ tenantId)
    (valueError "case does not belong to the requested tenant")
  let findings ← perform (.listForCase caseId)
  let (validation, bound) ← promotedValidation caseId
    (case.recordIds.text "validation_result_id")
  .ofExcept (readinessOf S tenantId caseId case findings validation bound)

/-- `PromotionReadinessService.require`. -/
def requirePromotion (S : Settings) (tenantId caseId token : String) :
    Service PromotionReadiness := do
  let readiness ← inspectPromotion S tenantId caseId
  .raiseIf (readiness.eligible = false) (valueError
    ("case is not eligible for preapproval: " ++ "; ".intercalate readiness.blockers))
  .raiseIf (token ≠ readiness.promotionToken)
    (valueError "promotion token does not match the current validation boundary")
  return readiness

/-- The arguments of a promotion that is then planned. -/
structure PromotionRequest where
  tenantId : String
  caseId : String
  token : String
  repository : String
  stateDocument : Option Json := none

/-- Plan exactly the scope that promotion selects. -/
def planPromoted (S : Settings) (request : PromotionRequest) : Service RemediationPlanOutcome := do
  let readiness ← requirePromotion S request.tenantId request.caseId request.token
  prepare S { caseId := request.caseId, repository := request.repository,
              stateDocument := request.stateDocument,
              findingIds := some readiness.confirmedFindingIds }

end ElCapitan
