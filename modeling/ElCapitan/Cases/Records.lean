import ElCapitan.Base.Errors
import Mathlib.Data.Finmap
import Mathlib.Data.Rat.Defs
import Mathlib.Algebra.Order.Ring.Rat

/-!
# Case records

The durable records of a remediation case. A record that its constructor would
refuse cannot be built: each structure carries what its constructor checks.
-/

namespace ElCapitan

/-- The states of a case. -/
inductive CaseState where
  | opened
  | prioritized
  | validated
  | planReady
  | sreApproved
  | windowSelected
  | rollbackReady
  | awaitingApproval
  | approved
  | executing
  | verifying
  | remediated
  | rollingBack
  | rolledBack
  | closedNoAction
  | rejected
  | blocked
  deriving DecidableEq, Repr

/-- The stored text of a state. -/
def CaseState.value : CaseState → String
  | .opened => "open"
  | .prioritized => "prioritized"
  | .validated => "validated"
  | .planReady => "plan_ready"
  | .sreApproved => "sre_approved"
  | .windowSelected => "window_selected"
  | .rollbackReady => "rollback_ready"
  | .awaitingApproval => "awaiting_approval"
  | .approved => "approved"
  | .executing => "executing"
  | .verifying => "verifying"
  | .remediated => "remediated"
  | .rollingBack => "rolling_back"
  | .rolledBack => "rolled_back"
  | .closedNoAction => "closed_no_action"
  | .rejected => "rejected"
  | .blocked => "blocked"

/-- `TERMINAL_CASE_STATES`. -/
def terminalCaseStates : List CaseState :=
  [.remediated, .rolledBack, .closedNoAction, .rejected]

/-- The transitions of a case. -/
inductive CaseTransition where
  | addFinding
  | prioritize
  | reprioritize
  | validate
  | preparePlan
  | approveSre
  | retrySre
  | selectWindow
  | reviewRollback
  | reselectWindow
  | requestRework
  | requestApproval
  | approveChange
  | scheduleExecution
  | startExecution
  | startVerification
  | completeRemediation
  | startRollback
  | completeRollback
  | closeNoAction
  | reject
  | block
  | resume
  deriving DecidableEq, Repr

/-- The stored text of a transition. -/
def CaseTransition.value : CaseTransition → String
  | .addFinding => "add_finding"
  | .prioritize => "prioritize"
  | .reprioritize => "reprioritize"
  | .validate => "validate"
  | .preparePlan => "prepare_plan"
  | .approveSre => "approve_sre"
  | .retrySre => "retry_sre"
  | .selectWindow => "select_window"
  | .reviewRollback => "review_rollback"
  | .reselectWindow => "reselect_window"
  | .requestRework => "request_rework"
  | .requestApproval => "request_approval"
  | .approveChange => "approve_change"
  | .scheduleExecution => "schedule_execution"
  | .startExecution => "start_execution"
  | .startVerification => "start_verification"
  | .completeRemediation => "complete_remediation"
  | .startRollback => "start_rollback"
  | .completeRollback => "complete_rollback"
  | .closeNoAction => "close_no_action"
  | .reject => "reject"
  | .block => "block"
  | .resume => "resume"

/-- The record ids of a case or an event, by name. -/
abbrev RecordIds := Finmap fun _ : String => String

/-- The mapping a literal of key and value pairs denotes. -/
def recordIdsOf (entries : List (String × String)) : RecordIds :=
  entries.foldl (fun m entry => m.insert entry.1 entry.2) ∅

/-- A single record id is looked up by its name. -/
@[simp] theorem lookup_recordIdsOf_self (name value : String) :
    (recordIdsOf [(name, value)]).lookup name = some value := by
  simp [recordIdsOf]

/-- `RiskAssessment`. -/
structure RiskAssessment where
  assessmentId : String
  score : ℚ
  urgency : String
  factors : List String
  confidence : ℚ
  evidenceIds : List String
  score_bounds : 0 ≤ score ∧ score ≤ 100
  confidence_bounds : 0 ≤ confidence ∧ confidence ≤ 1
  required : assessmentId ≠ "" ∧ urgency ≠ "" ∧ factors ≠ []
  deriving DecidableEq

/-- The constructor of `RiskAssessment`. -/
def RiskAssessment.create (assessmentId : String) (score : ℚ) (urgency : String)
    (factors : List String) (confidence : ℚ) (evidenceIds : List String) :
    Except PyError RiskAssessment :=
  if hscore : 0 ≤ score ∧ score ≤ 100 then
    if hconfidence : 0 ≤ confidence ∧ confidence ≤ 1 then
      if hrequired : assessmentId ≠ "" ∧ urgency ≠ "" ∧ factors ≠ [] then
        .ok ⟨assessmentId, score, urgency, factors, confidence, evidenceIds, hscore,
          hconfidence, hrequired⟩
      else .error (valueError "risk assessment requires an id, urgency, and factors")
    else .error (valueError "risk confidence must be between 0 and 1")
  else .error (valueError "risk score must be between 0 and 100")

/-- `ChangeWindow`. -/
structure ChangeWindow where
  windowId : String
  startsAt : String
  endsAt : String
  timezone : String
  rationale : List String
  evidenceIds : List String
  confidence : ℚ
  required : windowId ≠ "" ∧ startsAt ≠ "" ∧ endsAt ≠ "" ∧ timezone ≠ ""
  confidence_bounds : 0 ≤ confidence ∧ confidence ≤ 1
  deriving DecidableEq

/-- The constructor of `ChangeWindow`. -/
def ChangeWindow.create (windowId startsAt endsAt timezone : String)
    (rationale evidenceIds : List String) (confidence : ℚ) : Except PyError ChangeWindow :=
  if hrequired : windowId ≠ "" ∧ startsAt ≠ "" ∧ endsAt ≠ "" ∧ timezone ≠ "" then
    if hconfidence : 0 ≤ confidence ∧ confidence ≤ 1 then
      .ok ⟨windowId, startsAt, endsAt, timezone, rationale, evidenceIds, confidence,
        hrequired, hconfidence⟩
    else .error (valueError "change-window confidence must be between 0 and 1")
  else .error (valueError "change window requires id, bounds, and timezone")

/-- `ChangePlan`. -/
structure ChangePlan where
  planId : String
  objective : String
  changeRef : String
  prerequisites : List String
  steps : List String
  rolloutSteps : List String
  verificationSteps : List String
  rollbackSteps : List String
  rollbackTriggers : List String
  blastRadius : List String
  evidenceIds : List String
  required : planId ≠ "" ∧ objective ≠ "" ∧ changeRef ≠ ""
  actionable : steps ≠ [] ∧ rolloutSteps ≠ [] ∧ verificationSteps ≠ [] ∧ rollbackSteps ≠ [] ∧
    rollbackTriggers ≠ []
  deriving DecidableEq

/-- The constructor of `ChangePlan`; it names the missing ids, or else the first
missing list. -/
def ChangePlan.create (planId objective changeRef : String) (prerequisites steps rolloutSteps
    verificationSteps rollbackSteps rollbackTriggers blastRadius evidenceIds : List String) :
    Except PyError ChangePlan :=
  if hrequired : planId ≠ "" ∧ objective ≠ "" ∧ changeRef ≠ "" then
    if hactionable : steps ≠ [] ∧ rolloutSteps ≠ [] ∧ verificationSteps ≠ [] ∧
        rollbackSteps ≠ [] ∧ rollbackTriggers ≠ [] then
      .ok ⟨planId, objective, changeRef, prerequisites, steps, rolloutSteps, verificationSteps,
        rollbackSteps, rollbackTriggers, blastRadius, evidenceIds, hrequired, hactionable⟩
    else
      let lists := [("steps", steps), ("rollout_steps", rolloutSteps),
        ("verification_steps", verificationSteps), ("rollback_steps", rollbackSteps),
        ("rollback_triggers", rollbackTriggers)]
      let missing := (lists.filter fun item => item.2.isEmpty).map Prod.fst
      .error (valueError ("change plan requires at least one " ++ missing.headD ""))
  else
    let ids := [("plan_id", planId), ("objective", objective), ("change_ref", changeRef)]
    let missing := (ids.filter fun item => item.2.isEmpty).map Prod.fst
    .error (valueError ("change plan requires " ++ ", ".intercalate missing))

/-- `CaseEvent`. -/
structure CaseEvent where
  eventId : String
  caseId : String
  sequence : ℕ
  transition : CaseTransition
  fromState : CaseState
  toState : CaseState
  occurredAt : String
  actor : String
  recordIds : RecordIds
  evidenceIds : List String
  detail : String
  required : eventId ≠ "" ∧ caseId ≠ "" ∧ actor ≠ "" ∧ occurredAt ≠ ""
  sequence_pos : 1 ≤ sequence
  deriving DecidableEq

/-- The constructor of `CaseEvent`. -/
def CaseEvent.create (eventId caseId : String) (sequence : ℕ) (transition : CaseTransition)
    (fromState toState : CaseState) (occurredAt actor : String) (recordIds : RecordIds)
    (evidenceIds : List String) (detail : String) : Except PyError CaseEvent :=
  if hrequired : eventId ≠ "" ∧ caseId ≠ "" ∧ actor ≠ "" ∧ occurredAt ≠ "" then
    if hsequence : 1 ≤ sequence then
      .ok ⟨eventId, caseId, sequence, transition, fromState, toState, occurredAt, actor,
        recordIds, evidenceIds, detail, hrequired, hsequence⟩
    else .error (valueError "case event sequence must be positive")
  else .error (valueError "case event requires ids, actor, and timestamp")

/-- `RemediationCase`, the projection of a case. -/
structure RemediationCase where
  caseId : String
  tenantId : String
  findingIds : List String
  assetIds : List String
  serviceIds : List String
  state : CaseState
  version : ℕ
  createdAt : String
  updatedAt : String
  priority : Option RiskAssessment
  changePlan : Option ChangePlan
  changeWindow : Option ChangeWindow
  recordIds : RecordIds
  blockedFrom : Option CaseState
  required : caseId ≠ "" ∧ tenantId ≠ "" ∧ findingIds ≠ []
  deriving DecidableEq

/-- `RemediationCase.terminal`. -/
def RemediationCase.terminal (case : RemediationCase) : Bool :=
  case.state ∈ terminalCaseStates

/-- `open_case`. -/
def openCase (caseId tenantId : String) (findingIds assetIds serviceIds : List String)
    (now : String) : Except PyError RemediationCase :=
  if hrequired : caseId ≠ "" ∧ tenantId ≠ "" ∧ findingIds ≠ [] then
    .ok { caseId, tenantId, findingIds, assetIds, serviceIds, state := .opened, version := 0,
          createdAt := now, updatedAt := now, priority := none, changePlan := none,
          changeWindow := none, recordIds := ∅, blockedFrom := none, required := hrequired }
  else .error (valueError "remediation case requires case, tenant, and finding ids")

end ElCapitan
