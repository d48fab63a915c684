import ElCapitan.Agents.Contracts
import ElCapitan.Services.Approval

/-!
# Execution

`ExecutionService`: an approved change is deployed, observed, probed and audited,
and is rolled back when any of these fails. The driver, the health monitor, the
probes and the audit runtime are components of the environment.
-/

namespace ElCapitan

open Effects

/-- The names of the components an execution service was built with. -/
structure Components where
  driver : String
  monitor : String
  probes : List String

/-- `ExecutionOutcome`. -/
structure ExecutionOutcome where
  case : RemediationCase
  executionRecord : ProductRecord
  verificationRecord : Option ProductRecord
  handoffRecord : Option ProductRecord
  rolledBack : Bool
  contained : Bool := false

/-- `_approved_finding_ids`. -/
def approvedFindingIds (context : ExecutionContext) : Except PyError (List String) :=
  let invalid := actionPlaneError "approved plan has an invalid finding scope"
  match context.plan.body.lookup "scope" with
  | none => .ok context.case.findingIds
  | some scope =>
    match scope.obj?.bind fun entries => (entries.get "finding_ids").strings? with
    | none => .error invalid
    | some ids =>
      if ids = [] ∨ "" ∈ ids ∨ ¬ids.Nodup then .error invalid
      else
        let unknown := ids.filter fun findingId => findingId ∉ context.case.findingIds
        if unknown ≠ [] then .error (actionPlaneError
          ("approved plan references findings outside the case: " ++ ", ".intercalate unknown))
        else .ok ids

/-- `record` in `_context`: a record bound to the case. -/
def contextRecord (case : RemediationCase) (name : String) : Service ProductRecord := do
  .raiseIf (case.recordIds.text name = "")
    (actionPlaneError ("approved case is missing " ++ name))
  let found ← perform (.getRecord (case.recordIds.text name))
  .raiseIf (found.caseId ≠ case.caseId)
    (actionPlaneError (name ++ " belongs to another case"))
  return found

/-- `_context`. -/
def executionContext (S : Settings) (case : RemediationCase) : Service ExecutionContext := do
  let plan ← contextRecord case "change_plan_id"
  let link ← contextRecord case "iac_link_id"
  let approval ← contextRecord case "approval_id"
  let window ← contextRecord case "change_window_id"
  let context : ExecutionContext :=
    { case, plan, link, approval, window, artifactRoot := S.artifactRoot }
  let _ ← .ofExcept (approvedFindingIds context)
  return context

/-- `_evidence`. -/
def executionEvidence (S : Settings) (runDir kind : String) (document : Json) (now : String) :
    Service String := do
  let evidenceId ← perform (.newId "EVD")
  let ref ← writeEvidence S.platform runDir evidenceId kind (S.platform.canonical document)
    ⟨"elcapitan-execution-control-plane", "0.1.0", "change-orchestrator"⟩ "internal" "" now
  return ref.evidenceId

/-- `starts_at <= now < ends_at` of a window. -/
def insideWindow (P : Platform) (window : ChangeWindow) (now : String) :
    Except PyError Bool := do
  let current ← parseTimestamp P now
  let starts ← parseTimestamp P window.startsAt
  if starts.instant ≤ current.instant then do
    let ends ← parseTimestamp P window.endsAt
    return decide (current.instant < ends.instant)
  else return false

/-- The admission checks of `execute` on the case alone. -/
def admitExecution (case : RemediationCase) (originator executionJobId : String) :
    Except PyError Unit := do
  raiseIf (case.state ≠ .approved) (actionPlaneError
    ("case " ++ case.caseId ++ " must be approved, not " ++ case.state.value))
  raiseIf (case.recordIds.text "schedule_id" = "" ∨ case.recordIds.text "execution_job_id" = "")
    (actionPlaneError "approved case must be released by the durable scheduler")
  raiseIf (executionJobId ≠ case.recordIds.text "execution_job_id")
    (actionPlaneError "execution job is not bound to this approved case")
  raiseIf (originator = "") (actionPlaneError "originator is required for completion handoff")

/-- An execution that has passed `START_EXECUTION`. -/
structure Started where
  context : ExecutionContext
  checkpoint : DeploymentCheckpoint
  execution : ProductRecord
  executionId : String
  runDir : String
  startEvidence : String

/-- `execute` up to the release of the change: admission, context, preflight,
baseline, checkpoint and the `START_EXECUTION` transition. -/
def startExecution (S : Settings) (C : Components) (caseId originator executionJobId : String) :
    Service Started := do
  let case ← perform (.getCase caseId)
  .ofExcept (admitExecution case originator executionJobId)
  let now ← perform .now
  let window ← .ofExcept (case.changeWindow.elim
    (.error (actionPlaneError "approved case has no selected change window")) .ok)
  let inside ← .ofExcept (insideWindow S.platform window now)
  .raiseIf (inside = false) (actionPlaneError ("execution is outside approved window " ++
    window.startsAt ++ " to " ++ window.endsAt))
  let context ← executionContext S case
  let expired ← .ofExcept (notAfter S.platform (context.approval.body.text "expires_at") now)
  .raiseIf (expired = true) (actionPlaneError "bound approval expired before execution")
  let executionId ← perform (.newId "EXEC")
  let runDir := S.artifactRoot ++ "/cases/" ++ caseId ++ "/execution/" ++ executionId
  let preflight ← perform (.preflight context)
  .raiseIf (preflight.passed = false)
    (actionPlaneError ("execution preflight failed: " ++ preflight.detail))
  let baseline ← perform (.observe "baseline" context)
  .raiseIf (baseline.healthy = false)
    (actionPlaneError "service baseline is unhealthy; change is not eligible")
  let checkpoint ← perform (.checkpoint context)
  let startEvidence ← executionEvidence S runDir "execution_preflight"
    (.obj [("preflight", preflight.toDict), ("baseline", baseline.toDict),
      ("checkpoint", checkpoint.toDict)]) now
  let execution ← .ofExcept (ProductRecord.create executionId caseId "ExecutionStart.v1" 1 now
    [("execution_id", .str executionId), ("driver", .str C.driver), ("monitor", .str C.monitor),
      ("preflight", preflight.toDict), ("baseline", baseline.toDict),
      ("checkpoint", checkpoint.toDict), ("window_id", .str context.window.recordId),
      ("approval_id", .str context.approval.recordId),
      ("artifact_namespace", .str ("cases/" ++ caseId ++ "/execution/" ++ executionId))]
    [startEvidence])
  perform (.putRecord execution)
  let eventId ← perform (.newId "EVT")
  let _ ← advance caseId .startExecution
    { eventId, occurredAt := now, actor := "driver:" ++ C.driver,
      recordIds := recordIdsOf [("execution_id", executionId)], evidenceIds := [startEvidence] }
  return { context, checkpoint, execution, executionId, runDir, startEvidence }

/-- The value a step reports in its payload, or a default. -/
def ActionStep.reports (step : ActionStep) (name : String) (default : Bool) : Bool :=
  ((step.payload.lookup name).getD (.bool default)).truthy

/-- `_rollback`. -/
def rollBack (S : Settings) (C : Components) (caseId : String) (started : Started)
    (evidenceIds : List String) (reason : String) : Service ExecutionOutcome := do
  let now ← perform .now
  let rollbackId ← perform (.newId "RBEXEC")
  let step ← Prog.handle (perform (.rollback started.context started.checkpoint)) fun e =>
    return { name := "rollback", passed := false,
             detail := "rollback driver raised: " ++ e.message }
  let health ← Prog.handle (perform (.observe "rollback" started.context)) fun e =>
    return { healthy := false, reasons := ["rollback health monitor raised: " ++ e.message],
             metrics := [] }
  let rollbackEvidence ← executionEvidence S started.runDir "rollback_execution"
    (.obj [("reason", .str reason), ("step", step.toDict), ("health", health.toDict)]) now
  let allEvidence := fromKeys (evidenceIds ++ [rollbackEvidence])
  let rollbackRecord ← .ofExcept (ProductRecord.create rollbackId caseId "RollbackExecution.v1" 1
    now
    [("rollback_execution_id", .str rollbackId), ("reason", .str reason),
      ("driver", .str C.driver), ("step", step.toDict), ("health", health.toDict),
      ("checkpoint_id", .str started.checkpoint.checkpointId)] allEvidence)
  perform (.putRecord rollbackRecord)
  let eventId ← perform (.newId "EVT")
  let _ ← advance caseId .startRollback
    { eventId, occurredAt := now, actor := "execution-policy",
      recordIds := recordIdsOf [("rollback_execution_id", rollbackId)],
      evidenceIds := allEvidence, detail := reason }
  if step.passed = false ∨ health.healthy = false then do
    let detail := "rollback did not restore both checkpoint and healthy service state"
    let eventId ← perform (.newId "EVT")
    let occurredAt ← perform .now
    let _ ← advance caseId .block
      { eventId, occurredAt, actor := "execution-policy",
        recordIds := recordIdsOf [("rollback_failure_id", rollbackId)],
        evidenceIds := allEvidence, detail }
    .raise (actionPlaneError detail)
  else do
    let restored := step.reports "checkpoint_restored" true
    let verificationId ← perform (.newId "VERIFY")
    let createdAt ← perform .now
    let verification ← .ofExcept (ProductRecord.create verificationId caseId
      "RollbackVerification.v1" 1 createdAt
      [("verification_id", .str verificationId), ("checkpoint_restored", .bool restored),
        ("containment_achieved", .bool (step.reports "containment_achieved" false)),
        ("service_recovered", .bool true), ("reason", .str reason)] allEvidence)
    perform (.putRecord verification)
    let eventId ← perform (.newId "EVT")
    let occurredAt ← perform .now
    if restored = false then do
      let case ← advance caseId .block
        { eventId, occurredAt, actor := "execution-policy",
          recordIds := recordIdsOf [("verification_result_id", verificationId)],
          evidenceIds := allEvidence,
          detail := "containment succeeded, but the irreversible change cannot restore " ++
            "the exact checkpoint; human follow-up is required" }
      return ⟨case, rollbackRecord, some verification, none, false, true⟩
    else do
      let case ← advance caseId .completeRollback
        { eventId, occurredAt, actor := "execution-policy",
          recordIds := recordIdsOf [("verification_result_id", verificationId)],
          evidenceIds := allEvidence }
      return ⟨case, rollbackRecord, some verification, none, true, false⟩

/-- The post-change probes, one after the other. -/
def runProbes (caseId : String) (context : ExecutionContext) :
    List String → Service (List ProbeResult)
  | [] => return []
  | name :: rest => do
    let result ← Prog.handle (perform (.runProbe name context)) fun e =>
      return { probe := name, target := caseId, passed := false,
               detail := "verification probe raised: " ++ e.message, payload := [] }
    let results ← runProbes caseId context rest
    return result :: results

/-- The failures of a release audit. -/
def auditFailures (task : AgentTask) (accumulated contractFailures : List String)
    (audit : AgentResult) : List String :=
  validateResult task audit ++ contractFailures ++
    failureIf (audit.status ≠ .succeeded)
      ("release auditor status is " ++ audit.status.value) ++
    failureIf (¬∀ evidenceId ∈ accumulated, evidenceId ∈ audit.evidenceCited)
      "release auditor did not cite the complete execution evidence set" ++
    failureIf (audit.output.text "decision" = "accept" ∧
        (audit.output.get "validated_outcomes").truthy = false)
      "release auditor accepted without naming validated outcomes"

/-- The records and the transition of a completed remediation. -/
def completeExecution (caseId originator : String) (started : Started)
    (probes : List ProbeResult) (audit : AgentResult) (accumulated : List String) :
    Service ExecutionOutcome := do
  let verificationId ← perform (.newId "VERIFY")
  let createdAt ← perform .now
  let verification ← .ofExcept (ProductRecord.create verificationId caseId
    "PostChangeVerification.v1" 1 createdAt
    [("verification_id", .str verificationId), ("status", .str "passed"),
      ("probes", .arr (probes.map ProbeResult.toDict)), ("release_audit", .obj audit.output)]
    accumulated)
  perform (.putRecord verification)
  let certificateId ← perform (.newId "CERT")
  let createdAt ← perform .now
  let findingIds ← .ofExcept (approvedFindingIds started.context)
  let certificate ← .ofExcept (ProductRecord.create certificateId caseId
    "RemediationCertificate.v1" 1 createdAt
    [("certificate_id", .str certificateId), ("case_id", .str caseId),
      ("finding_ids", .ofStrings findingIds), ("plan_id", .str started.context.plan.recordId),
      ("approval_id", .str started.context.approval.recordId),
      ("execution_id", .str started.executionId), ("verification_id", .str verificationId),
      ("completed_status", .str "remediated"), ("evidence_ids", .ofStrings accumulated)]
    accumulated)
  perform (.putRecord certificate)
  let handoffId ← perform (.newId "HANDOFF")
  let createdAt ← perform .now
  let handoff ← .ofExcept (ProductRecord.create handoffId caseId "OriginatorHandoff.v1" 1 createdAt
    [("handoff_id", .str handoffId), ("recipient", .str originator), ("status", .str "done"),
      ("summary", audit.output.get "summary"),
      ("validated_outcomes", audit.output.get "validated_outcomes"),
      ("residual_risks", audit.output.get "residual_risks"),
      ("notes", audit.output.get "handoff_notes"), ("certificate_id", .str certificateId)]
    accumulated)
  perform (.putRecord handoff)
  let eventId ← perform (.newId "EVT")
  let occurredAt ← perform .now
  let case ← advance caseId .completeRemediation
    { eventId, occurredAt, actor := "release-auditor",
      recordIds := recordIdsOf [("verification_result_id", verificationId),
        ("remediation_certificate_id", certificateId), ("originator_handoff_id", handoffId)],
      evidenceIds := accumulated }
  return ⟨case, started.execution, some verification, some handoff, false, false⟩

/-- `execute` from the probes on. -/
def verifyExecution (S : Settings) (C : Components) (caseId originator : String)
    (started : Started) (case : RemediationCase) (resultRecord : ProductRecord)
    (accumulated : List String) : Service ExecutionOutcome := do
  let probes ← runProbes caseId started.context C.probes
  let stamp ← perform .now
  let probeEvidence ← executionEvidence S started.runDir "post_change_probes"
    (.arr (probes.map ProbeResult.toDict)) stamp
  let accumulated := fromKeys (accumulated ++ [probeEvidence])
  let failed := probes.filter fun probe => probe.passed = false
  if probes = [] then
    rollBack S C caseId started accumulated "no post-change verification probes were configured"
  else if failed ≠ [] then
    rollBack S C caseId started accumulated
      ("post-change probes failed: " ++ ", ".intercalate (failed.map ProbeResult.probe))
  else do
    let taskId ← perform (.newId "TASK")
    let task ← .ofExcept (AgentTask.create taskId caseId .releaseAuditor
      "Independently audit the completed change and prepare originator handoff"
      "PostChangeReview.v1" [started.execution.recordId, resultRecord.recordId] accumulated
      ["accept only when every mandatory deterministic probe passed",
        "do not claim the original vulnerability cleared without evidence",
        "request rollback for a material unresolved risk"]
      [("case", case.toDict), ("plan", .obj started.context.plan.body),
        ("deployment", .obj resultRecord.body),
        ("probes", .arr (probes.map ProbeResult.toDict))])
    let reply ← Prog.handle
      (do let audit ← perform (.runAgent task)
          return Except.ok audit)
      fun e => return Except.error e
    match reply with
    | .error e =>
      rollBack S C caseId started accumulated ("release auditor runtime failed: " ++ e.message)
    | .ok audit =>
      let contractFailures ← .ofExcept
        (validateOutput S.platform.describe task.outputContract (.obj audit.output))
      let failures := auditFailures task accumulated contractFailures audit
      if failures ≠ [] then
        rollBack S C caseId started accumulated
          ("release audit contract failed: " ++ "; ".intercalate failures)
      else do
        let stamp ← perform .now
        let auditEvidence ← executionEvidence S started.runDir "release_auditor_result"
          (.obj [("runtime", .str audit.runtime), ("model", .str audit.model),
            ("output", .obj audit.output),
            ("evidence_cited", .ofStrings audit.evidenceCited)]) stamp
        let accumulated := fromKeys (accumulated ++ [auditEvidence])
        if audit.output.text "decision" = "rollback" then
          rollBack S C caseId started accumulated
            ("release auditor requested rollback: " ++ audit.output.text "summary")
        else if audit.output.text "decision" = "needs_human_context" then
          rollBack S C caseId started accumulated
            ("release auditor requires human context: " ++ audit.output.text "summary")
        else completeExecution caseId originator started probes audit accumulated

/-- `execute` from the deployment on. -/
def releaseExecution (S : Settings) (C : Components) (caseId originator : String)
    (started : Started) : Service ExecutionOutcome := do
  let deployment ← Prog.handle (perform (.deploy started.context started.checkpoint)) fun e =>
    return { name := "deploy", passed := false,
             detail := "deployment driver raised: " ++ e.message }
  let after ← Prog.handle (perform (.observe "after_deploy" started.context)) fun e =>
    return { healthy := false, reasons := ["health monitor raised: " ++ e.message],
             metrics := [] }
  let stamp ← perform .now
  let deployEvidence ← executionEvidence S started.runDir "deployment_result"
    (.obj [("deployment", deployment.toDict), ("health", after.toDict)]) stamp
  let accumulated := [started.startEvidence, deployEvidence]
  if deployment.passed = false then
    rollBack S C caseId started accumulated ("deployment failed: " ++ deployment.detail)
  else if after.healthy = false then
    rollBack S C caseId started accumulated
      ("post-deployment health policy failed: " ++ "; ".intercalate after.reasons)
  else do
    let resultId ← perform (.newId "EXRES")
    let createdAt ← perform .now
    let resultRecord ← .ofExcept (ProductRecord.create resultId caseId "ExecutionResult.v1" 1
      createdAt
      [("execution_result_id", .str resultId), ("deployment", deployment.toDict),
        ("health", after.toDict), ("checkpoint_id", .str started.checkpoint.checkpointId)]
      accumulated)
    perform (.putRecord resultRecord)
    let eventId ← perform (.newId "EVT")
    let occurredAt ← perform .now
    let case ← advance caseId .startVerification
      { eventId, occurredAt, actor := "execution-policy",
        recordIds := recordIdsOf [("execution_result_id", resultId)],
        evidenceIds := accumulated }
    verifyExecution S C caseId originator started case resultRecord accumulated

/-- `ExecutionService.execute`. -/
def execute (S : Settings) (C : Components) (caseId originator executionJobId : String) :
    Service ExecutionOutcome := do
  let started ← startExecution S C caseId originator executionJobId
  releaseExecution S C caseId originator started

section samples

/-- An installation for runs on given inputs. -/
def sampleSettings : Settings := ⟨samplePlatform, "/artifacts", fun _ _ _ => none⟩

/-- The components of an execution service. -/
def sampleComponents : Components := ⟨"terraform", "health", ["access"]⟩

/-- The sample's plan has the texts that a plan needs. -/
theorem samplePlan_required {planId : String} (hid : planId ≠ "") :
    planId ≠ "" ∧ "restrict access" ≠ "" ∧ "change-1" ≠ "" := ⟨hid, by decide, by decide⟩

/-- The sample's plan has steps of every kind. -/
theorem samplePlan_actionable : ["edit"] ≠ [] ∧ ["apply"] ≠ [] ∧ ["observe"] ≠ [] ∧
    ["restore"] ≠ [] ∧ ["errors"] ≠ [] := by
  simp

/-- A plan for a case. -/
def samplePlan (planId : String) (hid : planId ≠ "") : ChangePlan :=
  ⟨planId, "restrict access", "change-1", [], ["edit"], ["apply"], ["observe"], ["restore"],
    ["errors"], [], [], samplePlan_required hid, samplePlan_actionable⟩

/-- The sample's plan has an id. -/
theorem samplePlan_named : "plan-1" ≠ "" := by
  decide

/-- The sample's window has the texts that a window needs. -/
theorem sampleWindow_required : "window-1" ≠ "" ∧ "2026-07-18T02:00:00Z" ≠ "" ∧
    "2026-07-18T04:00:00Z" ≠ "" ∧ "UTC" ≠ "" := by
  decide

/-- Full confidence is within its bounds. -/
theorem full_confidence : 0 ≤ (1 : ℚ) ∧ (1 : ℚ) ≤ 1 := by
  norm_num

/-- A change window. -/
def sampleWindow : ChangeWindow :=
  ⟨"window-1", "2026-07-18T02:00:00Z", "2026-07-18T04:00:00Z", "UTC", ["lowest usage"], [], 1,
    sampleWindow_required, full_confidence⟩

/-- A case that is approved and scheduled. -/
def approvedCase : RemediationCase :=
  { sampleCase with
    state := .approved
    version := 9
    changePlan := some (samplePlan "plan-1" samplePlan_named)
    changeWindow := some sampleWindow
    recordIds := recordIdsOf [("validation_result_id", "validation-1"),
      ("change_plan_id", "plan-1"), ("iac_link_id", "link-1"), ("sre_review_id", "review-1"),
      ("change_window_id", "window-1"), ("rollback_review_id", "rollback-review-1"),
      ("human_review_package_id", "package-1"), ("approval_id", "approval-1"),
      ("schedule_id", "schedule-1"), ("execution_job_id", "job-1")] }

/-- A record of the sample case. -/
def sampleRecord (recordId recordType : String) (body : Document)
    (hrequired : recordId ≠ "" ∧ recordType ≠ "") : ProductRecord :=
  ⟨recordId, "case-1", recordType, 1, "2026-07-17T12:00:00Z", body, [],
    ⟨hrequired.1, by decide, hrequired.2⟩, by decide⟩

/-- The records an execution of the approved case reads. -/
def approvedRecords : RecordTable :=
  [sampleRecord "plan-1" "ChangePlan.v1"
      [("scope", .obj [("finding_ids", .ofStrings ["finding-1"])])] (by decide),
    sampleRecord "link-1" "IaCLink.v1" [] (by decide),
    sampleRecord "window-1" "ChangeWindow.v1" [] (by decide),
    sampleRecord "approval-1" "ChangeApproval.v1" [("expires_at", .str "2026-07-18T12:00:00Z")]
      (by decide)]

end samples

end ElCapitan
