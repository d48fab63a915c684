import ElCapitan.Cases.Records

/-!
# The case state machine

`transitionCase` applies one transition to the projection of a case and gives
the next projection with its event, or the error for which the transition is
refused. `transitionCase_step` says once what an accepted transition does;
everything proved about cases starts from it.
-/

namespace ElCapitan

/-- `_LINEAR_TRANSITIONS`. -/
def linearTransition : CaseState → CaseTransition → Option CaseState
  | .opened, .prioritize => some .prioritized
  | .prioritized, .validate => some .validated
  | .validated, .preparePlan => some .planReady
  | .planReady, .approveSre => some .sreApproved
  | .sreApproved, .selectWindow => some .windowSelected
  | .windowSelected, .reviewRollback => some .rollbackReady
  | .rollbackReady, .requestApproval => some .awaitingApproval
  | .awaitingApproval, .approveChange => some .approved
  | .approved, .startExecution => some .executing
  | .executing, .startVerification => some .verifying
  | .verifying, .completeRemediation => some .remediated
  | .executing, .startRollback => some .rollingBack
  | .verifying, .startRollback => some .rollingBack
  | .rollingBack, .completeRollback => some .rolledBack
  | _, _ => none

/-- `_REQUIRED_RECORDS`. -/
def requiredRecord : CaseTransition → Option String
  | .addFinding => some "finding_id"
  | .prioritize => some "risk_assessment_id"
  | .reprioritize => some "risk_assessment_id"
  | .validate => some "validation_result_id"
  | .preparePlan => some "change_plan_id"
  | .approveSre => some "sre_review_id"
  | .retrySre => some "review_feedback_id"
  | .selectWindow => some "change_window_id"
  | .reviewRollback => some "rollback_review_id"
  | .requestRework => some "review_feedback_id"
  | .requestApproval => some "policy_decision_id"
  | .approveChange => some "approval_id"
  | .scheduleExecution => some "schedule_id"
  | .startExecution => some "execution_id"
  | .startVerification => some "execution_result_id"
  | .completeRemediation => some "verification_result_id"
  | .startRollback => some "rollback_execution_id"
  | .completeRollback => some "verification_result_id"
  | _ => none

/-- The keyword arguments of `transition_case`. -/
structure TransitionArgs where
  eventId : String
  occurredAt : String
  actor : String
  recordIds : RecordIds := ∅
  evidenceIds : List String := []
  detail : String := ""
  priority : Option RiskAssessment := none
  changePlan : Option ChangePlan := none
  changeWindow : Option ChangeWindow := none
  newFindingIds : List String := []
  deriving DecidableEq

/-- The states a new finding takes back to validation. -/
def reopenedStates : List CaseState :=
  [.validated, .planReady, .sreApproved, .windowSelected, .rollbackReady, .awaitingApproval,
    .approved]

/-- Where a transition leads. -/
structure Target where
  toState : CaseState
  blockedFrom : Option CaseState := none
  /-- The finding ids a transition appends to the case. -/
  additions : List String := []
  /-- `reopened_for_validation`. -/
  reopened : Bool := false
  deriving DecidableEq

/-- Does the required record of a transition have a non-empty id? -/
def suppliesRequired (transition : CaseTransition) (records : RecordIds) : Bool :=
  match requiredRecord transition with
  | some name => (records.lookup name).getD "" ≠ ""
  | none => true

/-- The branch of `transition_case` that decides where the transition leads. -/
def transitionTarget (case : RemediationCase) (transition : CaseTransition)
    (args : TransitionArgs) : Except PyError Target :=
  match transition with
  | .addFinding =>
    let additions := args.newFindingIds.filter fun fid => fid ∉ case.findingIds
    let reopened := decide (case.state ∈ reopenedStates)
    if additions = [] then
      .error (valueError "add_finding requires at least one new finding id")
    else
      .ok { toState := if reopened then .prioritized else case.state
            blockedFrom := if reopened then none else case.blockedFrom
            additions, reopened }
  | .reprioritize =>
    if args.priority = none then .error (valueError "reprioritize requires a RiskAssessment")
    else .ok { toState := case.state, blockedFrom := case.blockedFrom }
  | .scheduleExecution =>
    if case.state ≠ .approved then
      .error (valueError "only an approved case can be scheduled for execution")
    else .ok { toState := case.state, blockedFrom := case.blockedFrom }
  | .retrySre =>
    if case.state ∉ [CaseState.sreApproved, .windowSelected] then
      .error (valueError
        "SRE retry is allowed only after SRE approval and before rollback review")
    else if args.detail = "" then
      .error (valueError "SRE retry requires a concrete semantic failure")
    else .ok { toState := .planReady }
  | .requestRework =>
    if case.state ≠ .windowSelected then
      .error (valueError "review rework is allowed only after change-window selection")
    else if args.detail = "" then
      .error (valueError "review rework requires concrete reviewer feedback")
    else .ok { toState := .validated }
  | .reselectWindow =>
    if case.state ≠ .rollbackReady then
      .error (valueError "window reselection is allowed only after rollback review")
    else if args.detail = "" then
      .error (valueError "window reselection requires a concrete timing reason")
    else .ok { toState := .sreApproved }
  | .block =>
    if case.state = .blocked then
      .error (valueError "an already blocked case cannot be blocked again")
    else if args.detail = "" then .error (valueError "blocking a case requires a reason")
    else .ok { toState := .blocked, blockedFrom := some case.state }
  | .resume =>
    match case.state, case.blockedFrom with
    | .blocked, some previous => .ok { toState := previous }
    | _, _ => .error (valueError "only a blocked case can resume")
  | .closeNoAction =>
    if case.state ∉ [CaseState.prioritized, .validated] then
      .error (valueError "a case may close without action only after triage or validation")
    else if args.detail = "" then
      .error (valueError "closing without action requires a reason")
    else .ok { toState := .closedNoAction }
  | .reject =>
    if case.state ∉ [CaseState.planReady, .sreApproved, .windowSelected, .rollbackReady,
        .awaitingApproval] then
      .error (valueError s!"a case cannot be rejected from {case.state.value}")
    else if args.detail = "" then .error (valueError "rejecting a case requires a reason")
    else .ok { toState := .rejected }
  | linear =>
    match linearTransition case.state linear with
    | some toState => .ok { toState }
    | none => .error (valueError
        s!"transition {linear.value} is not allowed from {case.state.value}")

/-- The checks on the records attached to a transition. -/
def checkAttachments (transition : CaseTransition) (args : TransitionArgs) :
    Except PyError Unit := do
  raiseIf (transition = .prioritize ∧ args.priority = none)
    (valueError "prioritize requires a RiskAssessment")
  raiseIf (transition = .preparePlan ∧ args.changePlan = none)
    (valueError "prepare_plan requires a ChangePlan")
  raiseIf (transition = .selectWindow ∧ args.changeWindow = none)
    (valueError "select_window requires a ChangeWindow")
  raiseIf (args.priority ≠ none ∧ transition ∉ [CaseTransition.prioritize, .reprioritize])
    (valueError ("priority may be attached only during " ++
      "\x7b<CaseTransition.PRIORITIZE: 'prioritize'>, " ++
      "<CaseTransition.REPRIORITIZE: 'reprioritize'>\x7d"))
  raiseIf (args.changePlan ≠ none ∧ transition ≠ .preparePlan)
    (valueError "change_plan may be attached only during prepare_plan")
  raiseIf (args.changeWindow ≠ none ∧ transition ≠ .selectWindow)
    (valueError "change_window may be attached only during select_window")
  raiseIf (transition ≠ .addFinding ∧ args.newFindingIds ≠ [])
    (valueError "new_finding_ids may be attached only during add_finding")

/-- The record ids a transition removes from the case before it adds its own. -/
def clearedRecords (transition : CaseTransition) (reopened : Bool) : List String :=
  match transition with
  | .addFinding =>
    if reopened then
      ["validation_result_id", "iac_link_id", "change_plan_id", "sre_review_id",
        "change_window_id", "rollback_review_id", "review_feedback_id", "policy_decision_id",
        "human_review_package_id", "approval_id", "schedule_id"]
    else []
  | .retrySre => ["sre_review_id", "change_window_id"]
  | .requestRework =>
    ["iac_link_id", "change_plan_id", "sre_review_id", "change_window_id", "rollback_review_id",
      "policy_decision_id", "human_review_package_id"]
  | .reselectWindow =>
    ["change_window_id", "rollback_review_id", "policy_decision_id", "human_review_package_id"]
  | _ => []

/-- `merged_records`: pop the cleared names, then update with the supplied ids. -/
def mergeRecords (current : RecordIds) (cleared : List String) (supplied : RecordIds) :
    RecordIds :=
  supplied ∪ cleared.foldl (fun m name => m.erase name) current

/-- `transition_case`. -/
def transitionCase (case : RemediationCase) (transition : CaseTransition)
    (args : TransitionArgs) : Except PyError (RemediationCase × CaseEvent) := do
  raiseIf (case.terminal = true)
    (valueError s!"case {case.caseId} is terminal in state {case.state.value}")
  raiseIf (suppliesRequired transition args.recordIds = false)
    (valueError (transition.value ++ " requires record " ++ (requiredRecord transition).getD ""))
  let target ← transitionTarget case transition args
  checkAttachments transition args
  let event ← CaseEvent.create args.eventId case.caseId (case.version + 1) transition case.state
    target.toState args.occurredAt args.actor args.recordIds args.evidenceIds args.detail
  return ({ case with
    findingIds := case.findingIds ++ target.additions
    state := target.toState
    version := event.sequence
    updatedAt := args.occurredAt
    priority := args.priority.or case.priority
    changePlan :=
      if transition = .requestRework ∨ target.reopened = true then none
      else args.changePlan.or case.changePlan
    changeWindow :=
      if target.reopened = true ∨
          transition ∈ [CaseTransition.retrySre, .reselectWindow, .requestRework] then none
      else args.changeWindow.or case.changeWindow
    recordIds := mergeRecords case.recordIds (clearedRecords transition target.reopened)
      args.recordIds
    blockedFrom := target.blockedFrom
    required := ⟨case.required.1, case.required.2.1, by simp [case.required.2.2]⟩ }, event)

end ElCapitan
