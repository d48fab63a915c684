import ElCapitan.Agents.Contracts
import ElCapitan.Services.Approval

/-!
# Operational reviews

The agent stages between a plan and the human gate: `SREReviewService`,
`ChangeWindowService` and `RollbackReviewService`. A stage reads the case, asks
an agent at most three times, writes a record of the answer and advances the case.
-/

namespace ElCapitan

open Effects

/-- `PreApprovalError`. -/
def preApprovalError (message : String) : PyError := ⟨.preApprovalError, message⟩

/-- `ReviewOutcome`. -/
structure ReviewOutcome where
  case : RemediationCase
  record : ProductRecord
  agentResult : AgentResult

/-- `WindowOutcome`. -/
structure WindowOutcome extends ReviewOutcome where
  candidates : List WindowCandidate

/-- The collector of the agent stages. -/
def reviewCollector : Collector :=
  ⟨"elcapitan-operational-review", "0.1.0", "preapproval-control-plane"⟩

/-- `_strings`. -/
def stringsOf (P : Platform) (document : Document) (name : String) (required : Bool) :
    Except PyError (List String) :=
  match (document.get name).strings? with
  | none => .error (preApprovalError
      ("agent output '" ++ name ++ "' must be a list of non-empty strings"))
  | some items =>
    if ∃ item ∈ items, P.strip item = "" then .error (preApprovalError
      ("agent output '" ++ name ++ "' must be a list of non-empty strings"))
    else if required = true ∧ items = [] then
      .error (preApprovalError ("agent output '" ++ name ++ "' cannot be empty"))
    else .ok items

/-- The words of a text, as `str.split` finds them. -/
def words : List Char → List Char → List String
  | [], word => if word = [] then [] else [String.ofList word]
  | c :: rest, word =>
    if c.isWhitespace then
      (if word = [] then [] else [String.ofList word]) ++ words rest []
    else words rest (word ++ [c])

/-- Does a text contain another? -/
def containsText (needle : List Char) : List Char → Bool
  | [] => needle.isEmpty
  | c :: rest => needle.isPrefixOf (c :: rest) || containsText needle rest

/-- `_prechange_claim_failures`. -/
def prechangeClaimFailures (P : Platform) (summary : String) : List String :=
  let lowered := " ".intercalate (words (P.lower summary).toList [])
  ["post-change health signals confirm", "post-implementation health signals confirm",
    "verification confirms success", "finding is no longer",
    "finding has been remediated"].filter fun phrase =>
      containsText phrase.toList lowered.toList

/-- The texts that stand for no content. -/
def placeholders : List String := ["placeholder", "tbd", "todo", "n/a", "none", "unknown"]

/-- `_required_array_failures`. -/
def requiredArrayFailures (P : Platform) (output : Document) (names : List String) :
    List String :=
  names.flatMap fun name =>
    match (output.get name).arr?.getD [] with
    | [] => [name ++ " must be a non-empty array"]
    | items => failureIf (∃ item ∈ items.map fun item => (Json.str? item).map fun s =>
          P.lower (P.strip s), item = none ∨ item.getD "" ∈ placeholders)
        (name ++ " contains an empty or placeholder item")

/-- `_sre_semantic_failures`. -/
def sreSemanticFailures (P : Platform) (output : Document) : List String :=
  if output.text "decision" ≠ "approve" then []
  else requiredArrayFailures P output
    ["failure_modes", "required_controls", "verification_requirements"]

/-- `_rollback_semantic_failures`. -/
def rollbackSemanticFailures (P : Platform) (output : Document) : List String :=
  if output.text "decision" = "approve" then
    requiredArrayFailures P output ["verified_steps", "trigger_coverage"] ++
      failureIf ((output.get "required_changes").truthy = true)
        "approved rollback review must have no required_changes"
  else if output.text "decision" = "reject" then
    requiredArrayFailures P output ["required_changes"]
  else []

/-- What a stage requires of an answer. -/
structure StageContract where
  runDir : String
  /-- `required_citations`. -/
  citations : List String
  /-- `semantic_validator`. -/
  semantic : Document → List String

/-- An answer of a stage's agent, with its failures. -/
structure StageAnswer where
  result : AgentResult
  /-- `failures`, without the semantic ones. -/
  failures : List String
  /-- `semantic_failures`. -/
  semantic : List String

/-- One run of the runtime and the checks of its answer. -/
def askAgent (S : Settings) (contract : StageContract) (task : AgentTask) :
    Service StageAnswer := do
  let result ← perform (.runAgent task)
  let contractFailures ← .ofExcept (validateOutput S.platform.describe task.outputContract
    (.obj result.output))
  return ⟨result, validateResult task result ++ contractFailures,
    contract.semantic result.output⟩

/-- The constraints that ask for semantic corrections. -/
def semanticCorrections (failures : List String) : List String :=
  ["Correct these decision-specific semantic failures from the previous response: " ++
      "; ".intercalate failures,
    "Preserve every already-valid required field. Every required string, especially " ++
      "output.summary, must remain concrete and non-empty. Replace each identified bad field " ++
      "with evidence-grounded content; never use placeholder, TBD, TODO, N/A, none, or unknown.",
    "Return a complete strict result without weakening the decision."]

/-- The loop of `_run` over semantic failures, with the retries that are left; it also
returns the last task and the retries that remain. -/
def correctSemantics (S : Settings) (contract : StageContract) :
    ℕ → AgentTask → StageAnswer → Service (StageAnswer × AgentTask × ℕ)
  | 0, task, answer => return (answer, task, 0)
  | retries + 1, task, answer => do
    if answer.semantic ≠ [] ∧ answer.failures = [] then do
      let corrected := task.addConstraints (semanticCorrections answer.semantic)
      let next ← askAgent S contract corrected
      correctSemantics S contract retries corrected next
    else return (answer, task, retries + 1)

/-- The retry of `_run` for missing citations. -/
def correctCitations (S : Settings) (contract : StageContract) (retries : ℕ) (task : AgentTask)
    (result : AgentResult) (failures : List String) : Service (AgentResult × List String) := do
  let uncited := sortedDifference contract.citations result.evidenceCited
  if uncited ≠ [] ∧ failures = [] ∧ retries ≠ 0 then do
    let next ← askAgent S contract (task.addConstraints
      ["The previous response omitted mandatory citations. Return a corrected response " ++
        "citing all of these evidence IDs: " ++ ", ".intercalate uncited])
    return (next.result, next.failures ++ next.semantic)
  else return (result, failures)

/-- `_run`: the agent's result and the evidence of it. -/
def runStage (S : Settings) (contract : StageContract) (task : AgentTask) :
    Service (AgentResult × String) := do
  let dispatched := if contract.citations = [] then task else
    task.addConstraints ["Cite every mandatory evidence ID exactly: " ++
      ", ".intercalate contract.citations]
  let first ← askAgent S contract dispatched
  let (answer, current, retries) ← correctSemantics S contract 2 dispatched first
  let (result, failures) ← correctCitations S contract retries current answer.result
    (answer.failures ++ answer.semantic)
  let uncited := sortedDifference contract.citations result.evidenceCited
  let failures := failures ++ failureIf (uncited ≠ [])
    ("agent did not cite required evidence: " ++ ", ".intercalate uncited)
  .raiseIf (failures ≠ []) (preApprovalError ("; ".intercalate failures))
  .raiseIf (result.status ≠ .succeeded) (preApprovalError (task.role.value ++
    " did not succeed: " ++ (if result.missingEvidence = [] then result.status.value
    else ", ".intercalate result.missingEvidence)))
  let evidenceId ← perform (.newId "EVD")
  let now ← perform .now
  let ref ← writeEvidence S.platform contract.runDir evidenceId
    (task.role.value ++ "_agent_result")
    (S.platform.canonical (.obj [("runtime", .str result.runtime), ("model", .str result.model),
      ("output", .obj result.output), ("evidence_cited", .ofStrings result.evidenceCited),
      ("usage", .obj result.usage)])) reviewCollector "internal" "" now
  return (result, ref.evidenceId)

/-- Evidence of an agent stage. -/
def stageEvidence (S : Settings) (runDir kind : String) (document : Json) (now : String) :
    Service String := do
  let evidenceId ← perform (.newId "EVD")
  let ref ← writeEvidence S.platform runDir evidenceId kind (S.platform.canonical document)
    reviewCollector "internal" "" now
  return ref.evidenceId

/-- The part of a review record that names its task. -/
def taskEntry (taskId : String) (result : AgentResult) : String × Json :=
  ("task", .obj [("task_id", .str taskId), ("runtime", .str result.runtime),
    ("model", .str result.model), ("evidence_cited", .ofStrings result.evidenceCited)])

/-- Does every check listed in a plan's body have `passed is True`? -/
def checksPassed (body : Document) : Bool :=
  ((body.get "checks").arr?.getD []).all fun check =>
    ((check.obj?.getD []).get "passed").isTrue

/-- The ids, the time and the directory of a review. -/
structure ReviewRun where
  reviewId : String
  taskId : String
  now : String
  namespaceOf : String
  runDir : String

/-- Take the ids and the time of a review. -/
def openReview (S : Settings) (caseId kind directory : String) : Service ReviewRun := do
  let reviewId ← perform (.newId kind)
  let taskId ← perform (.newId "TASK")
  let now ← perform .now
  let namespaceOf := "cases/" ++ caseId ++ "/" ++ directory ++ "/" ++ reviewId
  return { reviewId, taskId, now, namespaceOf, runDir := S.artifactRoot ++ "/" ++ namespaceOf }

/-- `ids[0]`. -/
def firstEvidence (ids : List String) : Except PyError String :=
  match ids.head? with
  | some evidenceId => .ok evidenceId
  | none => .error ⟨.indexError, "tuple index out of range"⟩

/-- `ids[-1]`. -/
def lastEvidence (ids : List String) : Except PyError String :=
  match ids.getLast? with
  | some evidenceId => .ok evidenceId
  | none => .error ⟨.indexError, "tuple index out of range"⟩

section sre

/-- The checks of the operating context of a service. -/
def checkServiceContext (context : Document) : Except PyError Unit := do
  let missing := ["service", "environment", "health_signals", "dependencies", "owner"].filter
    fun name => (context.lookup name).isNone
  raiseIf (missing ≠ [])
    (preApprovalError ("service context is missing: " ++ ", ".intercalate missing))
  raiseIf ((context.get "health_signals").arr?.getD [] |>.isEmpty)
    (preApprovalError "service context requires at least one health signal")
  raiseIf ((context.get "dependencies").arr?.isNone)
    (preApprovalError "service context dependencies must be a list")

/-- The body of an SRE review record. -/
def sreBody (P : Platform) (run : ReviewRun) (plan : ProductRecord) (result : AgentResult) :
    Except PyError Document := do
  let output := result.output
  let dependencies ← stringsOf P output "dependencies" false
  let failureModes ← stringsOf P output "failure_modes" false
  let requiredControls ← stringsOf P output "required_controls" false
  let verificationRequirements ← stringsOf P output "verification_requirements" false
  return [("review_id", .str run.reviewId), ("decision", output.get "decision"),
    ("risk_level", output.get "risk_level"), ("summary", output.get "summary"),
    ("dependencies", .ofStrings dependencies), ("failure_modes", .ofStrings failureModes),
    ("required_controls", .ofStrings requiredControls),
    ("verification_requirements", .ofStrings verificationRequirements),
    ("plan_id", .str plan.recordId), taskEntry run.taskId result,
    ("artifact_namespace", .str run.namespaceOf)]

/-- The checks of an SRE review's output beyond its contract. -/
def checkSreOutput (P : Platform) (context output : Document) : Except PyError Unit := do
  let claims := prechangeClaimFailures P (output.text "summary")
  raiseIf (context.text "evidence_phase" = "pre_change" ∧ claims ≠ []) (preApprovalError
    ("SRE review claimed future-state evidence during pre-change: " ++ ", ".intercalate claims))
  if output.text "decision" = "approve" then do
    let _ ← stringsOf P output "failure_modes" true
    let _ ← stringsOf P output "required_controls" true
    let _ ← stringsOf P output "verification_requirements" true
    return ()
  else return ()

/-- The plan that a case in `PLAN_READY` binds, checked for SRE review. -/
def sreSubject (caseId : String) : Service (RemediationCase × ProductRecord) := do
  let case ← perform (.getCase caseId)
  .raiseIf (case.state ≠ .planReady)
    (preApprovalError ("case " ++ caseId ++ " must be plan_ready for SRE review"))
  let plan ← perform (.getRecord (case.recordIds.text "change_plan_id"))
  .raiseIf (plan.caseId ≠ caseId ∨ plan.recordType ≠ "RemediationPlan.v1")
    (preApprovalError "case remediation plan has the wrong owner or type")
  .raiseIf (plan.body.text "status" ≠ "verified" ∨ checksPassed plan.body = false)
    (preApprovalError "SRE review requires a verified infrastructure plan")
  return (case, plan)

/-- The task of the SRE reviewer. -/
def sreTask (run : ReviewRun) (case : RemediationCase) (plan : ProductRecord)
    (context : Document) (evidenceIds : List String) (caseId : String) :
    Except PyError AgentTask :=
  AgentTask.create run.taskId caseId .sreReviewer
    "Independently review the verified remediation for operational safety" "SREReview.v1"
    [plan.recordId] evidenceIds
    ["do not change the remediation", "do not approve missing health signals",
      "evaluate availability, dependencies, rollout, and verification",
      "this is pre-change: observed_topology contains current facts; health_signals are " ++
        "post-change success criteria unless explicitly labelled as observed",
      "do not state or imply that the change, rollback, or post-change verification has " ++
        "already run"]
    [("plan", .obj plan.body), ("service_context", .obj context), ("case", case.toDict)]

/-- Where an SRE decision leads, with the detail of the transition. -/
def sreDecision (output : Document) : CaseTransition × String :=
  if output.text "decision" = "approve" then (.approveSre, "")
  else if output.text "decision" = "reject" then (.reject, output.text "summary")
  else (.block, output.text "summary")

/-- `SREReviewService.review`. -/
def reviewSre (S : Settings) (caseId : String) (context : Document) : Service ReviewOutcome := do
  let (case, plan) ← sreSubject caseId
  .ofExcept (checkServiceContext context)
  let run ← openReview S caseId "SRE" "sre"
  let contextEvidence ← stageEvidence S run.runDir "service_operating_context" (.obj context)
    run.now
  let evidenceIds := fromKeys (plan.evidenceIds ++ [contextEvidence])
  let task ← .ofExcept (sreTask run case plan context evidenceIds caseId)
  let planEvidence ← .ofExcept (firstEvidence plan.evidenceIds)
  let (result, resultEvidence) ← runStage S
    ⟨run.runDir, [planEvidence, contextEvidence], sreSemanticFailures S.platform⟩ task
  .ofExcept (checkSreOutput S.platform context result.output)
  let body ← .ofExcept (sreBody S.platform run plan result)
  let recordEvidence := fromKeys (evidenceIds ++ [resultEvidence])
  let record ← .ofExcept (ProductRecord.create run.reviewId caseId "SREReview.v1" 1 run.now body
    recordEvidence)
  perform (.putRecord record)
  let eventId ← perform (.newId "EVT")
  let (transition, detail) := sreDecision result.output
  let case ← advance caseId transition
    { eventId, occurredAt := run.now, actor := "sre-reviewer",
      recordIds := recordIdsOf [("sre_review_id", run.reviewId)], evidenceIds := recordEvidence,
      detail }
  return ⟨case, record, result⟩

/-- `SREReviewService.retry_invalid_approval`. -/
def retryInvalidApproval (S : Settings) (caseId : String) : Service Bool := do
  let case ← perform (.getCase caseId)
  if case.state ∉ [CaseState.sreApproved, .windowSelected] then return false
  else do
    let review ← perform (.getRecord (case.recordIds.text "sre_review_id"))
    .raiseIf (review.caseId ≠ caseId ∨ review.recordType ≠ "SREReview.v1")
      (preApprovalError "case SRE review has the wrong owner or record type")
    let failures := sreSemanticFailures S.platform review.body
    if failures = [] then return false
    else do
      let eventId ← perform (.newId "EVT")
      let occurredAt ← perform .now
      let _ ← advance caseId .retrySre
        { eventId, occurredAt, actor := "operational-review-policy",
          recordIds := recordIdsOf [("review_feedback_id", review.recordId)],
          evidenceIds := review.evidenceIds, detail := "; ".intercalate failures }
      return true

end sre

section window

/-- `ChangeWindowService.reselect_started`. -/
def reselectStarted (S : Settings) (caseId : String) : Service Bool := do
  let case ← perform (.getCase caseId)
  if case.state ≠ .rollbackReady then return false
  else do
    let selected ← .ofExcept (case.changeWindow.elim (.error (preApprovalError
      ("case " ++ caseId ++ " has no change window to evaluate"))) .ok)
    let now ← perform .now
    let started ← .ofExcept (notAfter S.platform selected.startsAt now)
    if started = false then return false
    else do
      let windowId := case.recordIds.text "change_window_id"
      let rollbackId := case.recordIds.text "rollback_review_id"
      let window ← perform (.getRecord windowId)
      let rollback ← perform (.getRecord rollbackId)
      .raiseIf (window.caseId ≠ caseId ∨ window.recordType ≠ "ChangeWindowRecommendation.v1")
        (preApprovalError "case change window has the wrong owner or record type")
      .raiseIf (rollback.caseId ≠ caseId ∨ rollback.recordType ≠ "RollbackReview.v1")
        (preApprovalError "case rollback review has the wrong owner or record type")
      let eventId ← perform (.newId "EVT")
      let _ ← advance caseId .reselectWindow
        { eventId, occurredAt := now, actor := "change-window-policy",
          evidenceIds := fromKeys (window.evidenceIds ++ rollback.evidenceIds),
          detail := "window " ++ windowId ++ " started at " ++ selected.startsAt ++
            " before the human gate; rollback review " ++ rollbackId ++
            " must be repeated for a newly selected window" }
      return true

/-- The approved review and the plan that a case in `SRE_APPROVED` binds. -/
def windowSubject (caseId : String) : Service (ProductRecord × ProductRecord) := do
  let case ← perform (.getCase caseId)
  .raiseIf (case.state ≠ .sreApproved)
    (preApprovalError ("case " ++ caseId ++ " must be sre_approved for window selection"))
  let sre ← perform (.getRecord (case.recordIds.text "sre_review_id"))
  let plan ← perform (.getRecord (case.recordIds.text "change_plan_id"))
  .raiseIf (sre.caseId ≠ caseId ∨ sre.recordType ≠ "SREReview.v1" ∨
      sre.body.text "decision" ≠ "approve")
    (preApprovalError "window selection requires an approved SRE review")
  return (sre, plan)

/-- The document of the candidates offered to the window planner. -/
def candidatesJson (candidates : List WindowCandidate) : Json :=
  .arr (candidates.map WindowCandidate.toDict)

/-- The task of the window planner. -/
def windowTask (run : ReviewRun) (caseId : String) (policy : WindowPolicy)
    (candidates : List WindowCandidate) (sre plan : ProductRecord) (evidenceIds : List String) :
    Except PyError AgentTask :=
  AgentTask.create run.taskId caseId .windowPlanner
    "Select the safest supplied change-window candidate" "ChangeWindowSelection.v1"
    [plan.recordId, sre.recordId] evidenceIds
    ["select exactly one supplied candidate", "do not invent telemetry",
      "respect the deterministic window policy"]
    [("policy", policy.toDict), ("candidates", candidatesJson candidates),
      ("sre_review", .obj sre.body)]

/-- A selection of the window planner: the candidate, its rationale and its confidence. -/
structure WindowSelection where
  candidate : WindowCandidate
  rationale : List String
  confidence : ℚ

/-- The checks of a window selection. -/
def checkSelection (P : Platform) (output : Document) (candidates : List WindowCandidate)
    (now : String) : Except PyError WindowSelection := do
  let selectedId := output.text "selected_candidate_id"
  match candidates.reverse.find? fun candidate => candidate.candidateId = selectedId with
  | none => .error (preApprovalError "window agent selected a candidate it was not supplied")
  | some candidate => do
    let started ← notAfter P candidate.startsAt now
    raiseIf (started = true) (preApprovalError "selected change window is not in the future")
    let rationale ← stringsOf P output "rationale" true
    match (output.get "confidence").number? with
    | some confidence =>
      if 0 ≤ confidence ∧ confidence ≤ 1 then return ⟨candidate, rationale, confidence⟩
      else .error (preApprovalError
        "window confidence must be a finite number from 0 to 1")
    | none => .error (preApprovalError
        "window confidence must be a finite number from 0 to 1")

/-- The body of a change-window record. -/
def windowBody (P : Platform) (run : ReviewRun) (policy : WindowPolicy)
    (candidates : List WindowCandidate) (result : AgentResult) (selection : WindowSelection) :
    Except PyError Document := do
  let risks ← stringsOf P result.output "risks" false
  return [("window_id", .str run.reviewId),
    ("selected_candidate_id", result.output.get "selected_candidate_id"),
    ("selected", selection.candidate.toDict), ("rationale", .ofStrings selection.rationale),
    ("confidence", result.output.get "confidence"), ("risks", .ofStrings risks),
    ("policy", policy.toDict), ("candidates", candidatesJson candidates),
    taskEntry run.taskId result, ("artifact_namespace", .str run.namespaceOf)]

/-- The ids and the directory of a window selection, at a time read before. -/
def openWindow (S : Settings) (caseId now : String) : Service ReviewRun := do
  let reviewId ← perform (.newId "WIN")
  let taskId ← perform (.newId "TASK")
  let namespaceOf := "cases/" ++ caseId ++ "/window/" ++ reviewId
  return { reviewId, taskId, now, namespaceOf, runDir := S.artifactRoot ++ "/" ++ namespaceOf }

/-- `ChangeWindowService.select`. -/
def selectWindow (S : Settings) (caseId : String) (samples : List UsageSample)
    (policy : WindowPolicy) : Service WindowOutcome := do
  let (sre, plan) ← windowSubject caseId
  let now ← perform .now
  let candidates ← perform (.candidateWindows samples policy now)
  let run ← openWindow S caseId now
  let telemetry ← stageEvidence S run.runDir "service_usage_samples"
    (.obj [("samples", .arr (samples.map UsageSample.toDict))]) now
  let offered ← stageEvidence S run.runDir "deterministic_window_candidates"
    (.obj [("policy", policy.toDict), ("candidates", candidatesJson candidates)]) now
  let evidenceIds := fromKeys (plan.evidenceIds ++ sre.evidenceIds ++ [telemetry, offered])
  let task ← .ofExcept (windowTask run caseId policy candidates sre plan evidenceIds)
  let sreEvidence ← .ofExcept (lastEvidence sre.evidenceIds)
  let (result, resultEvidence) ← runStage S
    ⟨run.runDir, [sreEvidence, telemetry, offered], fun _ => []⟩ task
  let selection ← .ofExcept (checkSelection S.platform result.output candidates now)
  let recordEvidence := fromKeys (evidenceIds ++ [resultEvidence])
  let body ← .ofExcept (windowBody S.platform run policy candidates result selection)
  let record ← .ofExcept (ProductRecord.create run.reviewId caseId
    "ChangeWindowRecommendation.v1" 1 now body recordEvidence)
  perform (.putRecord record)
  let window ← .ofExcept (ChangeWindow.create run.reviewId selection.candidate.startsAt
    selection.candidate.endsAt selection.candidate.timezone selection.rationale recordEvidence
    selection.confidence)
  let eventId ← perform (.newId "EVT")
  let case ← advance caseId .selectWindow
    { eventId, occurredAt := now, actor := "window-planner",
      recordIds := recordIdsOf [("change_window_id", run.reviewId)],
      evidenceIds := recordEvidence, changeWindow := some window }
  return ⟨⟨case, record, result⟩, candidates⟩

end window

section rollback

/-- The records under rollback review, with the case that binds them. -/
structure RollbackSubject where
  case : RemediationCase
  plan : ProductRecord
  sre : ProductRecord
  window : ProductRecord

/-- The plan, the SRE review and the window that a case in `WINDOW_SELECTED` binds. -/
def rollbackSubject (caseId : String) : Service RollbackSubject := do
  let case ← perform (.getCase caseId)
  .raiseIf (case.state ≠ .windowSelected)
    (preApprovalError ("case " ++ caseId ++ " must be window_selected for rollback review"))
  let plan ← perform (.getRecord (case.recordIds.text "change_plan_id"))
  let sre ← perform (.getRecord (case.recordIds.text "sre_review_id"))
  let window ← perform (.getRecord (case.recordIds.text "change_window_id"))
  .raiseIf (case.changePlan = none)
    (preApprovalError "change plan has no executable rollback contract")
  return ⟨case, plan, sre, window⟩

/-- The task of the rollback verifier. -/
def rollbackTask (run : ReviewRun) (caseId : String) (subject : RollbackSubject)
    (evidenceIds : List String) : Except PyError AgentTask :=
  AgentTask.create run.taskId caseId .rollbackVerifier
    "Independently verify rollback completeness before human review" "RollbackReview.v1"
    [subject.plan.recordId, subject.sre.recordId, subject.window.recordId] evidenceIds
    ["do not approve vague rollback steps",
      "map material failure modes to observable triggers", "require a reversible path",
      "treat failed pre-mutation scope, tag, state, or permission guards as " ++
        "abort-without-change controls",
      "require rollback triggers only for failure modes possible after mutation; if " ++
        "rejecting, list concrete required_changes"]
    [("plan", .obj subject.plan.body), ("sre_review", .obj subject.sre.body),
      ("change_window", .obj subject.window.body)]

/-- The checks of a rollback review's output beyond its contract. -/
def checkRollbackOutput (P : Platform) (output : Document) : Except PyError Unit := do
  if output.text "decision" = "approve" then do
    let _ ← stringsOf P output "verified_steps" true
    let _ ← stringsOf P output "trigger_coverage" true
    let requiredChanges ← stringsOf P output "required_changes" false
    raiseIf (requiredChanges ≠ []) (preApprovalError
      "rollback reviewer cannot approve while required changes remain")
  else return ()

/-- The body of a rollback review record. -/
def rollbackBody (P : Platform) (run : ReviewRun) (subject : RollbackSubject)
    (result : AgentResult) : Except PyError Document := do
  let output := result.output
  let verifiedSteps ← stringsOf P output "verified_steps" false
  let triggerCoverage ← stringsOf P output "trigger_coverage" false
  let failureModes ← stringsOf P output "failure_modes" false
  let requiredChanges ← stringsOf P output "required_changes" false
  return [("review_id", .str run.reviewId), ("decision", output.get "decision"),
    ("summary", output.get "summary"), ("verified_steps", .ofStrings verifiedSteps),
    ("trigger_coverage", .ofStrings triggerCoverage), ("failure_modes", .ofStrings failureModes),
    ("required_changes", .ofStrings requiredChanges), ("plan_id", .str subject.plan.recordId),
    ("window_id", .str subject.window.recordId), taskEntry run.taskId result,
    ("artifact_namespace", .str run.namespaceOf)]

/-- Was a rework requested since findings last reopened the case? -/
def alreadyReworked (events : List CaseEvent) : Bool :=
  let reopenings := events.filter fun event =>
    event.transition = .addFinding ∧ event.toState = .prioritized
  let cycleStart := (reopenings.map CaseEvent.sequence).foldl max 0
  events.any fun event => event.transition = .requestRework ∧ cycleStart < event.sequence

/-- The step after a rollback review: what the decision calls for. -/
def settleRollback (S : Settings) (caseId : String) (run : ReviewRun) (output : Document)
    (recordEvidence : List String) (eventId : String) : Service RemediationCase := do
  let args : TransitionArgs :=
    { eventId, occurredAt := run.now, actor := "rollback-reviewer",
      recordIds := recordIdsOf [("rollback_review_id", run.reviewId)],
      evidenceIds := recordEvidence }
  let detail := output.text "summary"
  if output.text "decision" = "approve" then advance caseId .reviewRollback args
  else if output.text "decision" = "reject" then do
    let requiredChanges ← .ofExcept (stringsOf S.platform output "required_changes" false)
    let events ← caseEvents caseId
    if requiredChanges ≠ [] ∧ alreadyReworked events = false then
      advance caseId .requestRework
        { args with recordIds := recordIdsOf [("review_feedback_id", run.reviewId)], detail }
    else advance caseId .reject { args with detail }
  else advance caseId .block { args with detail }

/-- `RollbackReviewService.review`. -/
def reviewRollback (S : Settings) (caseId : String) : Service ReviewOutcome := do
  let subject ← rollbackSubject caseId
  let run ← openReview S caseId "RBK" "rollback"
  let evidenceIds := fromKeys (subject.plan.evidenceIds ++ subject.sre.evidenceIds ++
    subject.window.evidenceIds)
  let task ← .ofExcept (rollbackTask run caseId subject evidenceIds)
  let planEvidence ← .ofExcept (firstEvidence subject.plan.evidenceIds)
  let sreEvidence ← .ofExcept (lastEvidence subject.sre.evidenceIds)
  let windowEvidence ← .ofExcept (lastEvidence subject.window.evidenceIds)
  let (result, resultEvidence) ← runStage S
    ⟨run.runDir, [planEvidence, sreEvidence, windowEvidence],
      rollbackSemanticFailures S.platform⟩ task
  .ofExcept (checkRollbackOutput S.platform result.output)
  let body ← .ofExcept (rollbackBody S.platform run subject result)
  let recordEvidence := fromKeys (evidenceIds ++ [resultEvidence])
  let record ← .ofExcept (ProductRecord.create run.reviewId caseId "RollbackReview.v1" 1 run.now
    body recordEvidence)
  perform (.putRecord record)
  let eventId ← perform (.newId "EVT")
  let case ← settleRollback S caseId run result.output recordEvidence eventId
  return ⟨case, record, result⟩

end rollback

end ElCapitan
