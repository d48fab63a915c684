import ElCapitan.Services.HumanReview
import ElCapitan.Services.Promotion
import ElCapitan.Services.Scheduling
import ElCapitan.Services.Intake
import ElCapitan.Workers.Permissions

/-!
# The grounds of the services

For each service, the transitions it applies, the record ids it supplies with them and
what the worker had read and written before. The grounds are what later proofs know
of a service; `Workers.Conformance` derives them from the programs.
-/

namespace ElCapitan

open Effects

/-- A worker binds a record it wrote. -/
structure Binds (k : Trace) (caseId name : String) (args : TransitionArgs)
    (record : ProductRecord) : Prop where
  put : ⟨.putRecord record, .ok ()⟩ ∈ k
  owner : record.caseId = caseId
  bound : args.recordIds.lookup name = some record.recordId

/-- The record ids supplied with a transition are under these names. -/
def SuppliesOnly (args : TransitionArgs) (names : List String) : Prop :=
  ∀ name, args.recordIds.lookup name ≠ none → name ∈ names

/-- A transition supplies the record ids it was given. -/
theorem suppliesOnly_of_eq {args : TransitionArgs} (entries : List (String × String))
    (h : args.recordIds = recordIdsOf entries) : SuppliesOnly args (entries.map Prod.fst) := by
  have hfold : ∀ (entries : List (String × String)) (m : RecordIds) (name : String),
      (entries.foldl (fun m entry => m.insert entry.1 entry.2) m).lookup name ≠ none →
        m.lookup name ≠ none ∨ name ∈ entries.map Prod.fst := by
    intro entries
    induction entries with
    | nil => intro m name hname; exact .inl hname
    | cons entry entries ih =>
      intro m name hname
      rw [List.map_cons, List.mem_cons]
      rcases ih _ _ hname with hinsert | hrest
      · by_cases heq : name = entry.1
        · exact .inr (.inl heq)
        · rw [Finmap.lookup_insert_of_ne _ heq] at hinsert
          exact .inl hinsert
      · exact .inr (.inr hrest)
  intro name hname
  rw [h] at hname
  rcases hfold entries ∅ name hname with hempty | hmem
  · simp at hempty
  · exact hmem

/-- What is supplied under some names is supplied under more names. -/
theorem SuppliesOnly.mono {args : TransitionArgs} {names names' : List String}
    (h : SuppliesOnly args names) (hsub : names ⊆ names') : SuppliesOnly args names' :=
  fun name hname => hsub (h name hname)

/-- Intake attaches one finding or a risk assessment. -/
inductive IntakeGrounds (k : Trace) (caseId : String) : CaseTransition → TransitionArgs → Prop
  | addFinding {args : TransitionArgs} {findingId : String}
      (added : args.newFindingIds = [findingId])
      (supplies : SuppliesOnly args ["finding_id"]) : IntakeGrounds k caseId .addFinding args
  | rank {transition : CaseTransition} {args : TransitionArgs}
      (ranks : transition = .prioritize ∨ transition = .reprioritize)
      (supplies : SuppliesOnly args ["risk_assessment_id"]) :
      IntakeGrounds k caseId transition args

/-- Validation binds the record of its results on the findings it listed. -/
inductive ValidationGrounds (k : Trace) (caseId : String) :
    CaseTransition → TransitionArgs → Prop
  | mk {transition : CaseTransition} {args : TransitionArgs} {findings : List StoredFinding}
      {results : List FindingValidation} {record : ProductRecord}
      (listed : ⟨.listForCase caseId, .ok findings⟩ ∈ k)
      (judged : results.map FindingValidation.findingId = findings.map StoredFinding.findingId)
      (binds : Binds k caseId "validation_result_id" args record)
      (type : record.recordType = "ValidationResult.v1")
      (body : record.body.get "findings" = .arr (results.map FindingValidation.toDict))
      (decided : transition = (validationDecision results).1)
      (supplies : SuppliesOnly args ["validation_result_id"]) :
      ValidationGrounds k caseId transition args

/-- The scope of a plan's body. -/
def planScope (body : Document) : Document := (body.get "scope").obj?.getD []

/-- Planning binds a plan for the validation that the case it read binds. -/
inductive PlanningGrounds (scope : Option (List String)) (k : Trace) (caseId : String) :
    CaseTransition → TransitionArgs → Prop
  | prepare {args : TransitionArgs} {snap : RemediationCase} {findings : List StoredFinding}
      {record : ProductRecord} {validationId : String} {findingIds : List String}
      (read : ⟨.getCase caseId, .ok snap⟩ ∈ k)
      (listed : ⟨.listForCase caseId, .ok findings⟩ ∈ k)
      (validation : snap.recordIds.lookup "validation_result_id" = some validationId)
      (binds : Binds k caseId "change_plan_id" args record)
      (validated : (planScope record.body).get "validation_record_id" = .str validationId)
      (scope_ids : (planScope record.body).get "finding_ids" = .ofStrings findingIds)
      (selected : ∀ requested, scope = some requested → findingIds = fromKeys requested)
      (supplies : SuppliesOnly args ["change_plan_id", "iac_link_id"]) :
      PlanningGrounds scope k caseId .preparePlan args

/-- Promotion reads the case, lists its findings and reads the validation it binds, then
plans exactly the confirmed findings a control can plan for. -/
inductive PromotedGrounds (S : Settings) (k : Trace) (caseId : String) :
    CaseTransition → TransitionArgs → Prop
  | prepare {args : TransitionArgs} {snap : RemediationCase} {findings planned : List StoredFinding}
      {validation : ProductRecord} {validationId : String} {before after : Trace}
      (notes : k = before ++ ⟨.listForCase caseId, .ok findings⟩ :: after)
      (read : ⟨.getCase caseId, .ok snap⟩ ∈ before)
      (bound : snap.recordIds.lookup "validation_result_id" = some validationId)
      (validated : ⟨.getRecord validationId, .ok validation⟩ ∈ k)
      (selected : filterExcept (plannable S)
        (confirmedFindings S.platform findings validation.body) = .ok planned)
      (planning : PlanningGrounds (some (sortedIds planned)) k caseId .preparePlan args) :
      PromotedGrounds S k caseId .preparePlan args

/-- An SRE review names the plan that the case it read binds. -/
inductive SreGrounds (k : Trace) (caseId : String) : CaseTransition → TransitionArgs → Prop
  | approve {args : TransitionArgs} {snap : RemediationCase} {plan record : ProductRecord}
      (read : ⟨.getCase caseId, .ok snap⟩ ∈ k)
      (reviewed : ⟨.getRecord (snap.recordIds.text "change_plan_id"), .ok plan⟩ ∈ k)
      (binds : Binds k caseId "sre_review_id" args record)
      (judged : record.body.get "plan_id" = .str plan.recordId)
      (supplies : SuppliesOnly args ["sre_review_id"]) : SreGrounds k caseId .approveSre args
  | refuse {transition : CaseTransition} {args : TransitionArgs}
      (refuses : transition = .reject ∨ transition = .block)
      (supplies : SuppliesOnly args ["sre_review_id"]) : SreGrounds k caseId transition args

/-- A service that applies one transition and supplies ids under these names. -/
inductive PlainGrounds (applied : CaseTransition) (names : List String) (k : Trace)
    (caseId : String) : CaseTransition → TransitionArgs → Prop
  | mk {args : TransitionArgs} (supplies : SuppliesOnly args names) :
      PlainGrounds applied names k caseId applied args

/-- A rollback review names the plan and the window that the case it read binds. -/
inductive RollbackGrounds (k : Trace) (caseId : String) : CaseTransition → TransitionArgs → Prop
  | approve {args : TransitionArgs} {snap : RemediationCase} {plan window record : ProductRecord}
      (read : ⟨.getCase caseId, .ok snap⟩ ∈ k)
      (planRead : ⟨.getRecord (snap.recordIds.text "change_plan_id"), .ok plan⟩ ∈ k)
      (windowRead : ⟨.getRecord (snap.recordIds.text "change_window_id"), .ok window⟩ ∈ k)
      (binds : Binds k caseId "rollback_review_id" args record)
      (planJudged : record.body.get "plan_id" = .str plan.recordId)
      (windowJudged : record.body.get "window_id" = .str window.recordId)
      (supplies : SuppliesOnly args ["rollback_review_id"]) :
      RollbackGrounds k caseId .reviewRollback args
  | rework {args : TransitionArgs} (supplies : SuppliesOnly args ["review_feedback_id"]) :
      RollbackGrounds k caseId .requestRework args
  | refuse {transition : CaseTransition} {args : TransitionArgs}
      (refuses : transition = .reject ∨ transition = .block)
      (supplies : SuppliesOnly args ["rollback_review_id"]) :
      RollbackGrounds k caseId transition args

/-- An approval names the package, the plan and the window that the case it read binds. -/
inductive ApprovalGrounds (P : Platform) (k : Trace) (caseId : String) :
    CaseTransition → TransitionArgs → Prop
  | approve {args : TransitionArgs} {asked packageId planId windowId : String}
      {snap : RemediationCase} {package record : ProductRecord}
      (read : ⟨.getCase asked, .ok snap⟩ ∈ k)
      (reviewed : ⟨.getRecord packageId, .ok package⟩ ∈ k)
      (packageBound : snap.recordIds.lookup "human_review_package_id" = some packageId)
      (planBound : snap.recordIds.lookup "change_plan_id" = some planId)
      (windowBound : snap.recordIds.lookup "change_window_id" = some windowId)
      (binds : Binds k caseId "approval_id" args record)
      (packageNamed : record.body.get "review_package_id" = .str packageId)
      (digest : record.body.get "review_package_sha256" =
        .str (P.canonicalHash (.obj package.body)))
      (planNamed : record.body.get "plan_id" = .str planId)
      (windowNamed : record.body.get "window_id" = .str windowId)
      (supplies : SuppliesOnly args ["approval_id"]) :
      ApprovalGrounds P k caseId .approveChange args

/-- The worker started this execution, of the plan that the case it read binds. -/
structure StartedWith (k : Trace) (caseId : String) (context : ExecutionContext) : Prop where
  read : ⟨.getCase caseId, .ok context.case⟩ ∈ k
  plan : ⟨.getRecord (context.case.recordIds.text "change_plan_id"), .ok context.plan⟩ ∈ k
  started : Applied k caseId .startExecution

/-- Execution starts once and ends with a certificate on its plan's scope, or rolled back. -/
inductive ExecutionGrounds (k : Trace) (caseId : String) : CaseTransition → TransitionArgs → Prop
  | start {args : TransitionArgs} {snap : RemediationCase}
      (read : ⟨.getCase caseId, .ok snap⟩ ∈ k)
      (supplies : SuppliesOnly args ["execution_id"]) :
      ExecutionGrounds k caseId .startExecution args
  | verify {args : TransitionArgs} (supplies : SuppliesOnly args ["execution_result_id"]) :
      ExecutionGrounds k caseId .startVerification args
  | complete {args : TransitionArgs} {context : ExecutionContext} {certificate : ProductRecord}
      {findingIds : List String} (started : StartedWith k caseId context)
      (binds : Binds k caseId "remediation_certificate_id" args certificate)
      (scope : approvedFindingIds context = .ok findingIds)
      (certified : certificate.body.get "finding_ids" = .ofStrings findingIds)
      (supplies : SuppliesOnly args ["verification_result_id", "remediation_certificate_id",
        "originator_handoff_id"]) : ExecutionGrounds k caseId .completeRemediation args
  | rollBack {args : TransitionArgs} (supplies : SuppliesOnly args ["rollback_execution_id"]) :
      ExecutionGrounds k caseId .startRollback args
  | block {args : TransitionArgs}
      (supplies : SuppliesOnly args ["rollback_failure_id", "verification_result_id"]) :
      ExecutionGrounds k caseId .block args
  | restore {args : TransitionArgs} (supplies : SuppliesOnly args ["verification_result_id"]) :
      ExecutionGrounds k caseId .completeRollback args

/-- A call of one of the services. -/
inductive Call (S : Settings) where
  | ingest (request : IntakeRequest)
  | validate (caseId : String) (hostEnv : List (String × String))
  | prepare (request : PlanningRequest)
  | planPromoted (request : PromotionRequest)
  | reviewSre (caseId : String) (context : Document)
  | retryInvalidApproval (caseId : String)
  | selectWindow (caseId : String) (samples : List UsageSample) (policy : WindowPolicy)
  | reselectStarted (caseId : String)
  | reviewRollback (caseId : String)
  | prepareReview (policy : GatePolicy) (caseId : String)
  | approve (assertion : VerifiedApproval S.platform)
  | reject (assertion : VerifiedRejection)
  | schedule (caseId : String)
  | execute (components : Components) (caseId originator executionJobId : String)

/-- Drop the value a service returns. -/
def discard {α : Type} (p : Service α) : Service Unit := do
  let _ ← p
  return ()

/-- The program of a call. -/
def Call.program {S : Settings} : Call S → Service Unit
  | .ingest request => discard (ElCapitan.ingest S request)
  | .validate caseId hostEnv => discard (ElCapitan.validate S caseId hostEnv)
  | .prepare request => discard (ElCapitan.prepare S request)
  | .planPromoted request => discard (ElCapitan.planPromoted S request)
  | .reviewSre caseId context => discard (ElCapitan.reviewSre S caseId context)
  | .retryInvalidApproval caseId => discard (ElCapitan.retryInvalidApproval S caseId)
  | .selectWindow caseId samples policy =>
    discard (ElCapitan.selectWindow S caseId samples policy)
  | .reselectStarted caseId => discard (ElCapitan.reselectStarted S caseId)
  | .reviewRollback caseId => discard (ElCapitan.reviewRollback S caseId)
  | .prepareReview policy caseId => discard (ElCapitan.prepareReview S policy caseId)
  | .approve assertion => discard (ElCapitan.approve S assertion)
  | .reject assertion => discard (ElCapitan.reject S assertion)
  | .schedule caseId => discard (ElCapitan.schedule S caseId)
  | .execute components caseId originator executionJobId =>
    discard (ElCapitan.execute S components caseId originator executionJobId)

/-- The grounds on which a call applies transitions. -/
def Call.grounds {S : Settings} : Call S → Grounds
  | .ingest _ => IntakeGrounds
  | .validate _ _ => ValidationGrounds
  | .prepare request => PlanningGrounds request.findingIds
  | .planPromoted _ => PromotedGrounds S
  | .reviewSre _ _ => SreGrounds
  | .retryInvalidApproval _ => PlainGrounds .retrySre ["review_feedback_id"]
  | .selectWindow _ _ _ => PlainGrounds .selectWindow ["change_window_id"]
  | .reselectStarted _ => PlainGrounds .reselectWindow []
  | .reviewRollback _ => RollbackGrounds
  | .prepareReview _ _ =>
    PlainGrounds .requestApproval ["policy_decision_id", "human_review_package_id"]
  | .approve _ => ApprovalGrounds S.platform
  | .reject _ => PlainGrounds .reject ["rejection_id"]
  | .schedule _ => PlainGrounds .scheduleExecution ["schedule_id", "execution_job_id"]
  | .execute _ _ _ _ => ExecutionGrounds

end ElCapitan
