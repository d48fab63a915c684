import ElCapitan.Agents.Contracts
import ElCapitan.Services.Validation

/-!
# Remediation planning

`RemediationPlanningService.prepare`: an agent proposes a change of the linked
infrastructure source, the proposal is materialized and checked in a workspace,
and a verified plan is bound to the case. The linker, the materializer, the
checks and the file system answer from outside.
-/

namespace ElCapitan

open Effects

/-- `RemediationPlanningError`. -/
def planningError (message : String) : PyError := ⟨.remediationPlanningError, message⟩

/-- `RemediationPlanOutcome`. -/
structure RemediationPlanOutcome where
  case : RemediationCase
  link : TerraformLink
  linkRecord : ProductRecord
  planRecord : ProductRecord
  checks : List TerraformCheck

/-- The arguments of one `prepare` call. -/
structure PlanningRequest where
  caseId : String
  repository : String
  stateDocument : Option Json := none
  findingIds : Option (List String) := none

/-- The collector of planning. -/
def planningCollector : Collector :=
  ⟨"elcapitan-remediation-planner", "0.1.0", "planning-control-plane"⟩

/-- `_CONTROL_RESOURCE_TYPES`. -/
def controlResourceTypes : List ((String × String) × List String) :=
  [(("aws", "s3_bucket_object_versioning"), ["aws_s3_bucket_versioning"])]

/-- `sorted(values)` of a set of texts. -/
def sortedSet (values : List String) : List String :=
  values.dedup.insertionSort fun a b => a ≤ b

/-- `_planning_resource_types`. -/
def planningResourceTypes (provider : String) (ruleIds : List String) : List String :=
  sortedSet (ruleIds.flatMap fun ruleId =>
    (controlResourceTypes.lookup (provider, ruleId)).getD [])

/-- The findings in the scope of a plan. -/
def planningScope (findings : List StoredFinding) :
    Option (List String) → Except PyError (List StoredFinding)
  | none => .ok findings
  | some findingIds => do
    let requested := fromKeys findingIds
    raiseIf (requested = [])
      (planningError "planning scope must contain at least one finding")
    let missing := sortedDifference requested (findings.map StoredFinding.findingId)
    raiseIf (missing ≠ []) (planningError
      ("planning scope contains finding(s) outside the case: " ++ ", ".intercalate missing))
    return requested.filterMap fun findingId =>
      findings.find? fun finding => finding.findingId = findingId

/-- The one provider and resource that all findings in scope target. -/
def planningTarget (findings : List StoredFinding) : Except PyError (String × String) :=
  match (findings.map fun finding => (finding.provider, finding.resourceUid)).dedup with
  | [identity] => .ok identity
  | _ => .error (planningError
      "the first planning slice requires all case findings to target one resource")

/-- The results listed in the body of a validation record. -/
def validationItems (body : Document) : List Document :=
  ((body.get "findings").arr?.getD []).filterMap Json.obj?

/-- `validation_findings[finding_id]`; a later result of a finding replaces an earlier one. -/
def validationItem (P : Platform) (body : Document) (findingId : String) : Option Document :=
  (validationItems body).reverse.find? fun item =>
    P.str (item.getText "finding_id") = findingId

/-- The status a validation record gives a finding. -/
def validationStatus (P : Platform) (body : Document) (findingId : String) : String :=
  P.str (((validationItem P body findingId).getD []).getText "status")

/-- The non-empty evidence ids a validation result names. -/
def itemEvidence (item : Document) : List String :=
  (((item.get "evidence_ids").arr?.getD []).filterMap Json.str?).filter fun id => id ≠ ""

/-- `path.is_relative_to(root)` of resolved paths. -/
def isRelativeTo (path root : String) : Bool :=
  path = root ∨ ((if root = "/" then root else root ++ "/").toList.isPrefixOf path.toList) = true

/-- `path.name`. -/
def baseName (path : String) : String :=
  String.ofList (path.toList.reverse.takeWhile fun c => c ≠ '/').reverse

/-- A list of texts none of which is blank. -/
def nonBlankStrings (P : Platform) (value : Json) : Option (List String) :=
  value.strings?.bind fun items =>
    if ∃ item ∈ items, P.strip item = "" then none else some items

/-- `_string_tuple`. -/
def stringTuple (P : Platform) (output : Document) (name : String) (required : Bool) :
    Except PyError (List String) :=
  match output.get name, required with
  | .null, false => .ok []
  | value, _ =>
    match nonBlankStrings P value with
    | none => .error (planningError
        ("agent output '" ++ name ++ "' must be a list of non-empty strings"))
    | some items =>
      if required = true ∧ items = [] then
        .error (planningError ("agent output '" ++ name ++ "' cannot be empty"))
      else .ok items

/-- `_agent_plan`. -/
def agentPlan (P : Platform) (output : Document) (planId changeRef : String)
    (evidenceIds : List String) : Except PyError ChangePlan := do
  let objective := output.text "objective"
  raiseIf (P.strip objective = "")
    (planningError "agent output 'objective' must be a non-empty string")
  let prerequisites ← stringTuple P output "prerequisites" false
  let steps ← stringTuple P output "steps" true
  let rolloutSteps ← stringTuple P output "rollout_steps" true
  let verificationSteps ← stringTuple P output "verification_steps" true
  let rollbackSteps ← stringTuple P output "rollback_steps" true
  let rollbackTriggers ← stringTuple P output "rollback_triggers" true
  let blastRadius ← stringTuple P output "blast_radius" false
  ChangePlan.create planId objective changeRef prerequisites steps rolloutSteps verificationSteps
    rollbackSteps rollbackTriggers blastRadius evidenceIds

/-- `SubprocessTerraformRunner._raw_state`. -/
def rawState : Option Json → Bool
  | some (.obj entries) =>
    (match Document.get entries "version" with
      | .int _ | .bool _ => true
      | _ => false) &&
    (Document.get entries "resources").arr?.isSome
  | _ => false

/-- The output that a proposal is validated as: a mapping of files counts as their list. -/
def contractOutput (output : Document) : Document :=
  match output.get "files" with
  | .obj files => output.set "files"
      (.arr (files.map fun file => .obj [("path", .str file.1), ("content", file.2)]))
  | _ => output

/-- The loop over the supplied list of files. -/
def filesOfList : List Json → Document → Except PyError Document
  | [], files => .ok files
  | .obj item :: rest, files =>
    match Document.get item "path" with
    | .str path =>
      if (files.lookup path).isSome then
        .error (planningError "agent output files contain an invalid or duplicate path")
      else filesOfList rest (files ++ [(path, Document.get item "content")])
    | _ => .error (planningError "agent output files contain an invalid or duplicate path")
  | _ :: _, _ => .error (planningError "agent output files must contain path/content objects")

/-- The files an agent supplied, by path. -/
def suppliedFiles (output : Document) : Except PyError Document :=
  match output.get "files" with
  | .obj files => .ok files
  | .arr items => filesOfList items []
  | _ => .ok []

/-- The replacement of the linked file that an agent proposes. -/
def proposedReplacement (output : Document) (sourcePath : String) : Except PyError String := do
  let files ← suppliedFiles output
  raiseIf ((files.map Prod.fst).dedup ≠ [sourcePath])
    (planningError ("agent must replace exactly the linked file '" ++ sourcePath ++ "'"))
  let proposed := files.text sourcePath
  raiseIf (proposed = "")
    (planningError "replacement infrastructure source must be non-empty text")
  raiseIf (2 * 1024 * 1024 < proposed.utf8ByteSize)
    (planningError "replacement infrastructure source exceeds 2 MiB")
  return proposed

/-- What planning starts from, once the case, its validation and its feedback were checked. -/
structure PlanningContext where
  case : RemediationCase
  findings : List StoredFinding
  provider : String
  resourceUid : String
  validationId : String
  validation : ProductRecord
  repositoryRoot : String
  ruleIds : List String
  link : TerraformLink
  feedback : Option ProductRecord

/-- The reviewer feedback a rework must address. -/
def planningFeedback (P : Platform) (caseId feedbackId : String) :
    Service (Option ProductRecord) := do
  if feedbackId = "" then return none
  else do
    let feedback ← perform (.getRecord feedbackId)
    .raiseIf (feedback.caseId ≠ caseId ∨ feedback.recordType ≠ "RollbackReview.v1")
      (planningError "review feedback record has the wrong owner or type")
    .raiseIf ((nonBlankStrings P (feedback.body.get "required_changes")).getD [] = [])
      (planningError "review feedback has no concrete required changes")
    return some feedback

/-- `prepare` up to the first id it takes. -/
def planningContext (S : Settings) (request : PlanningRequest) : Service PlanningContext := do
  let case ← perform (.getCase request.caseId)
  .raiseIf (case.state ≠ .validated) (planningError ("case " ++ request.caseId ++
    " must be validated before planning; current state is " ++ case.state.value))
  let all ← perform (.listForCase request.caseId)
  .raiseIf (all.isEmpty = true)
    (planningError ("case " ++ request.caseId ++ " has no persisted findings"))
  let findings ← .ofExcept (planningScope all request.findingIds)
  let (provider, resourceUid) ← .ofExcept (planningTarget findings)
  let validationId := case.recordIds.text "validation_result_id"
  .raiseIf (validationId = "")
    (planningError "validated case has no validation result record")
  let validation ← perform (.getRecord validationId)
  .raiseIf (validation.caseId ≠ request.caseId ∨ validation.recordType ≠ "ValidationResult.v1")
    (planningError "case validation record has the wrong owner or type")
  let notConfirmed := ((findings.filter fun finding =>
    validationStatus S.platform validation.body finding.findingId ≠ "confirmed").map
      StoredFinding.findingId).insertionSort fun a b => a ≤ b
  .raiseIf (notConfirmed ≠ []) (planningError
    ("planning scope contains finding(s) not confirmed by live validation: " ++
      ", ".intercalate notConfirmed))
  let repositoryRoot ← perform (.resolvePath request.repository)
  let artifactRoot ← perform (.resolvePath S.artifactRoot)
  .raiseIf (isRelativeTo artifactRoot repositoryRoot = true)
    (planningError "artifact_root cannot be inside the source repository")
  let ruleIds ← .ofExcept (findings.mapM (StoredFinding.ruleId S.platform))
  let link ← perform (.linkResource repositoryRoot provider resourceUid request.stateDocument
    (planningResourceTypes provider ruleIds))
  let feedback ← planningFeedback S.platform request.caseId
    (case.recordIds.text "review_feedback_id")
  return { case, findings, provider, resourceUid, validationId, validation, repositoryRoot,
           ruleIds := sortedSet ruleIds, link, feedback }

/-- A planning run: its ids, its time and its directory. -/
structure PlanningRun where
  planId : String
  linkId : String
  taskId : String
  now : String
  namespaceOf : String
  runDir : String

/-- Evidence of a planning run. -/
def planningEvidence (S : Settings) (run : PlanningRun) (kind payload : String) :
    Service String := do
  let evidenceId ← perform (.newId "EVD")
  let ref ← writeEvidence S.platform run.runDir evidenceId kind payload planningCollector
    "internal" "" run.now
  return ref.evidenceId

/-- Is the linked source that of a CDK application? -/
def TerraformLink.cdk (link : TerraformLink) : Bool := link.iacEngine = "aws_cdk_cloudformation"

/-- The ids, the time and the directory of a planning run. -/
def openPlanning (S : Settings) (request : PlanningRequest) : Service PlanningRun := do
  let planId ← perform (.newId "PLAN")
  let linkId ← perform (.newId "LINK")
  let taskId ← perform (.newId "TASK")
  let now ← perform .now
  let namespaceOf := "cases/" ++ request.caseId ++ "/planning/" ++ planId
  let runDir := S.artifactRoot ++ "/" ++ namespaceOf
  perform (.makeDirectory runDir false)
  return { planId, linkId, taskId, now, namespaceOf, runDir }

/-- The linked source as it was read, and the record that links it. -/
structure LinkedSource where
  original : String
  sourceEvidence : String
  linkEvidence : String
  linkRecord : ProductRecord

/-- Read the linked source and record the link. -/
def linkSource (S : Settings) (request : PlanningRequest) (context : PlanningContext)
    (run : PlanningRun) : Service LinkedSource := do
  let sourcePath ← perform (.resolvePath (context.repositoryRoot ++ "/" ++
    context.link.sourcePath))
  let original ← perform (.readText sourcePath)
  let evidenceId ← perform (.newId "EVD")
  let bytes ← perform (.readText sourcePath)
  let sourceRef ← writeEvidence S.platform run.runDir evidenceId "iac_source_before" bytes
    planningCollector "internal" "" run.now
  let linkEvidence ← planningEvidence S run "iac_resource_link"
    (S.platform.canonical (.obj context.link.document))
  let linkRecord ← .ofExcept (ProductRecord.create run.linkId request.caseId "IaCLink.v1" 1 run.now
    [("link_id", .str run.linkId), ("repository", .str (baseName context.repositoryRoot)),
      ("link", .obj context.link.document), ("artifact_namespace", .str run.namespaceOf)]
    [sourceRef.evidenceId, linkEvidence])
  perform (.putRecord linkRecord)
  return ⟨original, sourceRef.evidenceId, linkEvidence, linkRecord⟩

/-- The constraints that a rework adds to a planning task. -/
def feedbackConstraints : Option ProductRecord → List String
  | none => []
  | some _ =>
    ["This is a bounded checker rework. Address every item in review_feedback.required_changes " ++
        "explicitly in prerequisites, rollout, verification, rollback steps, or rollback " ++
        "triggers as appropriate.",
      "Classify pre-mutation guard failures as abort-without-change. Map only operational harm " ++
        "caused by the applied change to executable rollback. Map failed apply, failed security " ++
        "validation, recurrence of the original finding, policy drift, and rollback failure to " ++
        "retry, containment, or owned escalation without restoring the vulnerable pre-change " ++
        "state."]

/-- The evidence of the findings in scope. -/
def scopedEvidence (P : Platform) (request : PlanningRequest) (context : PlanningContext) :
    List String :=
  match request.findingIds with
  | none => context.validation.evidenceIds
  | some _ => fromKeys (context.findings.flatMap fun finding =>
      itemEvidence ((validationItem P context.validation.body finding.findingId).getD []))

/-- The evidence that a planning task is given. -/
def planningInputs (P : Platform) (request : PlanningRequest) (context : PlanningContext)
    (source : LinkedSource) : List String :=
  fromKeys (scopedEvidence P request context ++ [source.sourceEvidence, source.linkEvidence] ++
    (context.feedback.elim [] ProductRecord.evidenceIds))

/-- The task of the remediation engineer. -/
def planningTask (P : Platform) (request : PlanningRequest) (context : PlanningContext)
    (run : PlanningRun) (source : LinkedSource) : Except PyError AgentTask := do
  let records := context.findings.map fun finding => Json.obj finding.record
  let items := context.findings.map fun finding =>
    Json.obj ((validationItem P context.validation.body finding.findingId).getD [])
  AgentTask.create run.taskId request.caseId .remediationEngineer
    (if context.link.cdk then
      "Prepare a minimal CDK/CloudFormation remediation and bounded containment plan"
    else "Prepare a minimal Terraform remediation and reversible rollout plan")
    (if context.link.cdk then "IaCRemediationProposal.v1"
    else "TerraformRemediationProposal.v1")
    ([context.validationId, run.linkId,
      (context.feedback.elim "" ProductRecord.recordId)].filter fun recordId => recordId ≠ "")
    (planningInputs P request context source)
    (["modify only the linked infrastructure source file",
      "do not apply infrastructure changes",
      "include verification, rollback steps, and rollback triggers",
      "return the complete linked file and preserve all unrelated content",
      "do not request post-change state as planning input; express it as a verification step"] ++
      feedbackConstraints context.feedback)
    [("provider", .str context.provider), ("iac_engine", .str context.link.iacEngine),
      ("resource_uid", .str context.resourceUid), ("link", .obj context.link.document),
      ("source", .str source.original), ("source_evidence_id", .str source.sourceEvidence),
      ("link_evidence_id", .str source.linkEvidence), ("findings", .arr records),
      ("validation", .obj (context.validation.body.set "findings" (.arr items))),
      ("review_feedback", (context.feedback.elim .null fun feedback => .obj feedback.body))]

/-- Ask the remediation engineer and check what comes back. -/
def proposeRemediation (S : Settings) (task : AgentTask) (source : LinkedSource) :
    Service AgentResult := do
  let result ← perform (.runAgent task)
  let contractFailures ← .ofExcept (validateOutput S.platform.describe task.outputContract
    (.obj (contractOutput result.output)))
  let failures := validateResult task result ++ contractFailures
  .raiseIf (failures ≠ []) (planningError ("; ".intercalate failures))
  .raiseIf (result.status ≠ .succeeded) (planningError ("remediation agent did not succeed: " ++
    (if result.missingEvidence = [] then result.status.value
    else ", ".intercalate result.missingEvidence)))
  .raiseIf (source.sourceEvidence ∉ result.evidenceCited) (planningError
    "successful remediation agent did not cite the linked infrastructure source")
  return result

/-- A change of the linked file in the workspace. -/
structure MaterialChange where
  workspace : String
  before : String
  after : String
  materialization : String

/-- Put the proposed change into a copy of the repository. -/
def materializeProposal (context : PlanningContext) (run : PlanningRun) (source : LinkedSource)
    (result : AgentResult) : Service MaterialChange := do
  let proposed ← .ofExcept (proposedReplacement result.output context.link.sourcePath)
  let (replacement, materialization) ← perform (.materializePatch source.original proposed
    context.link context.ruleIds)
  let workspace := run.runDir ++ "/workspace"
  perform (.copyRepository context.repositoryRoot workspace context.link.cdk)
  let workspaceSource ← Prog.handle
    (perform (.resolvePath (workspace ++ "/" ++ context.link.sourcePath)))
    fun e => .raise (if e.kind = .pathEscape then planningError e.message else e)
  let before ← perform (.hashFile workspaceSource)
  .raiseIf (before ≠ context.link.sourceSha256)
    (planningError "linked source changed while the plan was prepared")
  perform (.writeText workspaceSource replacement)
  let after ← perform (.hashFile workspaceSource)
  .raiseIf (after = before)
    (planningError "agent replacement does not change the linked source")
  return ⟨workspace, before, after, materialization⟩

/-- Keep the checks of the infrastructure runner as evidence. -/
def checkEvidence (S : Settings) (run : PlanningRun) : List TerraformCheck → Service (List String)
  | [] => return []
  | check :: rest => do
    let evidenceId ← planningEvidence S run ("iac_" ++ check.name)
      (S.platform.canonical check.toDict)
    let others ← checkEvidence S run rest
    return evidenceId :: others

/-- `details or {}` of the passed CloudFormation scope check. -/
def deploymentOf (checks : List TerraformCheck) : Document :=
  match checks.find? fun check => check.name = "cloudformation_scope" ∧ check.passed = true with
  | some check => check.details
  | none => []

/-- The body of a plan record. -/
def planBody (request : PlanningRequest) (context : PlanningContext) (run : PlanningRun)
    (result : AgentResult) (change : MaterialChange) (checks : List TerraformCheck)
    (plan : ChangePlan) : Document :=
  [("status", .str (if checks.all TerraformCheck.passed then "verified" else "rejected")),
    ("verification", .obj [
      ("mode", .str (if context.link.cdk then "cloudformation_template_scope"
        else if rawState request.stateDocument then "targeted_state_plan"
        else "offline_plan_without_state")),
      ("resource_address", .str context.link.resourceAddress),
      ("state_sha256", .str context.link.stateSha256),
      ("plan_artifact_persisted", .bool context.link.cdk),
      ("iac_engine", .str context.link.iacEngine)]),
    ("plan", plan.toDict), ("link_record_id", .str run.linkId),
    ("task", .obj [("task_id", .str run.taskId), ("runtime", .str result.runtime),
      ("model", .str result.model), ("evidence_cited", .ofStrings result.evidenceCited),
      ("usage", .obj result.usage)]),
    ("change", .obj [("source_path", .str context.link.sourcePath),
      ("before_sha256", .str change.before), ("after_sha256", .str change.after),
      ("materialization", .str change.materialization)]),
    ("scope", .obj [
      ("finding_ids", .ofStrings (context.findings.map StoredFinding.findingId)),
      ("rule_ids", .ofStrings context.ruleIds), ("resource_uid", .str context.resourceUid),
      ("validation_record_id", .str context.validationId)]),
    ("checks", .arr (checks.map TerraformCheck.toDict)),
    ("deployment", .obj (deploymentOf checks)),
    ("artifact_namespace", .str run.namespaceOf),
    ("review_feedback_record_id",
      context.feedback.elim .null fun feedback => .str feedback.recordId)]

/-- `TerraformChecksFailed`. -/
def checksFailed (checks : List TerraformCheck) : PyError :=
  planningError ("Terraform verification failed: " ++ ", ".intercalate
    ((checks.filter fun check => check.passed = false).map TerraformCheck.name))

/-- Check the change, record the plan and bind it to the case. -/
def recordPlan (S : Settings) (request : PlanningRequest) (context : PlanningContext)
    (run : PlanningRun) (source : LinkedSource) (result : AgentResult)
    (change : MaterialChange) : Service RemediationPlanOutcome := do
  let proposalEvidence ← planningEvidence S run "remediation_agent_result"
    (S.platform.canonical (.obj [("runtime", .str result.runtime), ("model", .str result.model),
      ("output", .obj result.output), ("evidence_cited", .ofStrings result.evidenceCited),
      ("usage", .obj result.usage)]))
  let changeRef := run.namespaceOf ++ "/workspace/" ++ context.link.sourcePath ++ "#sha256:" ++
    change.after
  let checks ← perform (.runChecks change.workspace context.link request.stateDocument
    (if context.link.cdk then some source.original else none))
  .raiseIf (checks.isEmpty = true) (planningError "infrastructure runner returned no checks")
  let checkIds ← checkEvidence S run checks
  let planEvidence := fromKeys (planningInputs S.platform request context source ++
    [proposalEvidence] ++ checkIds)
  let plan ← .ofExcept (agentPlan S.platform result.output run.planId changeRef planEvidence)
  let record ← .ofExcept (ProductRecord.create run.planId request.caseId
    (if checks.all TerraformCheck.passed then "RemediationPlan.v1"
    else "RemediationPlanAttempt.v1") 1 run.now
    (planBody request context run result change checks plan) planEvidence)
  perform (.putRecord record)
  .raiseIf (checks.all TerraformCheck.passed = false) (checksFailed checks)
  let eventId ← perform (.newId "EVT")
  let case ← advance request.caseId .preparePlan
    { eventId, occurredAt := run.now, actor := "remediation-planner",
      recordIds := recordIdsOf [("change_plan_id", run.planId), ("iac_link_id", run.linkId)],
      evidenceIds := planEvidence, changePlan := some plan }
  return ⟨case, context.link, source.linkRecord, record, checks⟩

/-- `RemediationPlanningService.prepare`. -/
def prepare (S : Settings) (request : PlanningRequest) : Service RemediationPlanOutcome := do
  let context ← planningContext S request
  let run ← openPlanning S request
  let source ← linkSource S request context run
  let task ← .ofExcept (planningTask S.platform request context run source)
  let result ← proposeRemediation S task source
  let change ← materializeProposal context run source result
  recordPlan S request context run source result change

end ElCapitan
