import ElCapitan.Base.Characters
import ElCapitan.Services.Workflow

/-!
# Durable agent runs

`AgentRunRuntime.run`: a call of an agent runtime is bound to its inputs by hashes, bounded by a
policy, and recorded before it is made and after it ended. A recorded success is replayed, and
an interrupted call stops the case until a human overrides the stop.
-/

namespace ElCapitan

open Effects

/-- `INVOCATION_RECORD`. -/
def invocationRecord : String := "AgentInvocation.v1"

/-- `OUTCOME_RECORD`. -/
def outcomeRecord : String := "AgentInvocationOutcome.v1"

/-- `TERMINAL_RECORD`. -/
def terminalRecord : String := "AgentRunTerminal.v1"

/-- `AgentRunPolicy`. -/
structure AgentRunPolicy where
  maxModelCalls : ℕ := 42
  maxAttemptsPerRolePackage : ℕ := 3
  maxElapsedSeconds : ℕ := 3600
  equivalentFailureThreshold : ℕ := 2
  overrideTerminalRecordIds : List String := []
  positive : 0 < maxModelCalls ∧ 0 < maxAttemptsPerRolePackage ∧ 0 < maxElapsedSeconds ∧
    0 < equivalentFailureThreshold := by decide
  overrides_named : "" ∉ overrideTerminalRecordIds := by decide

/-- `AgentRunPolicy.to_dict`. -/
def AgentRunPolicy.toDict (policy : AgentRunPolicy) : Json :=
  .obj [("max_model_calls", .ofNat policy.maxModelCalls),
    ("max_attempts_per_role_package", .ofNat policy.maxAttemptsPerRolePackage),
    ("max_elapsed_seconds", .ofNat policy.maxElapsedSeconds),
    ("equivalent_failure_threshold", .ofNat policy.equivalentFailureThreshold),
    ("override_terminal_record_ids", .ofStrings policy.overrideTerminalRecordIds)]

/-- `AgentRunRuntime`, around a runtime of this name. -/
structure AgentRunRuntime where
  runtimeName : String
  artifactRoot : String
  policy : AgentRunPolicy

/-- `_Binding`. -/
structure Binding where
  packageHash : String
  taskContractHash : String
  packageKey : String
  replayKey : String

section hashes

variable (P : Platform)

/-- `_digest`. -/
def digest (document : Document) : String := P.canonicalHash (.obj document)

/-- `_record_id`. -/
def hashedId (kind : String) (parts : List String) : String :=
  kind ++ "-" ++ String.ofList ((P.sha256Hex ("\x00".intercalate parts)).toList.take 32)

/-- `int(text, 16)` of a hexadecimal text. -/
def hexValue (digits : List Char) : ℕ :=
  digits.foldl (fun n c => 16 * n + (hexDigit? c).getD 0) 0

/-- `_evidence_id`. -/
def invocationEvidenceId (invocationId : String) : String :=
  "EVD-" ++ decimalOf (hexValue ((P.sha256Hex invocationId).toList.take 24))

/-- The document a package hash is taken of. -/
def packageDocument (task : AgentTask) : Document :=
  [("input_record_ids", .ofStrings task.inputRecordIds),
    ("evidence_ids", .ofStrings task.evidenceIds)]

/-- `_binding`. -/
def bindingOf (task : AgentTask) : Binding :=
  let packageHash := digest P (packageDocument task)
  let taskContractHash := digest P [("objective", .str task.objective),
    ("output_contract", .str task.outputContract), ("constraints", .ofStrings task.constraints)]
  let packageKey := digest P [("case_id", .str task.caseId), ("role", .str task.role.value),
    ("output_contract", .str task.outputContract), ("package_hash", .str packageHash)]
  let replayKey := digest P
    [("package_key", .str packageKey), ("task_contract_hash", .str taskContractHash)]
  { packageHash, taskContractHash, packageKey, replayKey }

end hashes

section results

/-- The constructor of `AgentResult`. -/
def AgentResult.create (taskId caseId : String) (role : AgentRole) (status : AgentResultStatus)
    (output : Document) (evidenceCited missingEvidence : List String)
    (runtime model startedAt completedAt : String) (usage : Document) :
    Except PyError AgentResult :=
  if hrequired : taskId ≠ "" ∧ caseId ≠ "" ∧ runtime ≠ "" then
    .ok ⟨taskId, caseId, role, status, output, evidenceCited, missingEvidence, runtime, model,
      startedAt, completedAt, usage, hrequired⟩
  else .error (valueError "agent result requires task id, case id, and runtime")

/-- `_result_document`. -/
def resultDocument (result : AgentResult) : Document :=
  [("task_id", .str result.taskId), ("case_id", .str result.caseId),
    ("role", .str result.role.value), ("status", .str result.status.value),
    ("output", .obj result.output), ("evidence_cited", .ofStrings result.evidenceCited),
    ("missing_evidence", .ofStrings result.missingEvidence), ("runtime", .str result.runtime),
    ("model", .str result.model), ("started_at", .str result.startedAt),
    ("completed_at", .str result.completedAt), ("usage", .obj result.usage)]

/-- `document[name]`. -/
def Document.entry (document : Document) (name : String) : Except PyError Json :=
  match document.lookup name with
  | some value => .ok value
  | none => .error (keyError ("'" ++ name ++ "'"))

/-- `AgentResultStatus(value)`. -/
def AgentResultStatus.parse (value : Json) : Except PyError AgentResultStatus :=
  match value.str? with
  | some "succeeded" => .ok .succeeded
  | some "needs_more_evidence" => .ok .needsMoreEvidence
  | some "needs_human_context" => .ok .needsHumanContext
  | some "failed" => .ok .failed
  | _ => .error (valueError "not a valid AgentResultStatus")

/-- `tuple(value)` of a list of texts; a recorded result holds nothing else there. -/
def textsOf (value : Json) : Except PyError (List String) :=
  match value.strings? with
  | some texts => .ok texts
  | none => .error ⟨.typeError, "not a list of texts"⟩

/-- A mapping; a recorded result holds nothing else there. -/
def mappingOf (value : Json) : Except PyError Document :=
  match value.obj? with
  | some document => .ok document
  | none => .error ⟨.typeError, "not a mapping"⟩

/-- `_restore_result`. -/
def restoreResult (P : Platform) (task : AgentTask) (document : Document) :
    Except PyError AgentResult := do
  let status ← document.entry "status"
  let status ← AgentResultStatus.parse status
  let output ← document.entry "output"
  let output ← mappingOf output
  let evidenceCited ← document.entry "evidence_cited"
  let evidenceCited ← textsOf evidenceCited
  let missingEvidence ← document.entry "missing_evidence"
  let missingEvidence ← textsOf missingEvidence
  let runtime ← document.entry "runtime"
  let model := (document.lookup "model").getD (.str "")
  let startedAt ← document.entry "started_at"
  let completedAt ← document.entry "completed_at"
  let usage ← mappingOf ((document.lookup "usage").getD (.obj []))
  AgentResult.create task.taskId task.caseId task.role status output evidenceCited
    missingEvidence (P.str runtime) (P.str model) (P.str startedAt) (P.str completedAt) usage

end results

section records

/-- `record.body.get(name) == text`. -/
def ProductRecord.reads (record : ProductRecord) (name text : String) : Bool :=
  (record.body.get name).str? = some text

/-- The record of an invocation. -/
def isInvocation (record : ProductRecord) : Bool := record.recordType = invocationRecord

/-- The record of an invocation for this package. -/
def isInvocationFor (packageKey : String) (record : ProductRecord) : Bool :=
  isInvocation record && record.reads "package_key" packageKey

/-- `_outcomes(records).get(invocation_id)`: the last outcome record of an invocation. -/
def outcomeOf (P : Platform) (records : List ProductRecord) (invocationId : String) :
    Option ProductRecord :=
  (records.filter fun record => record.recordType = outcomeRecord ∧
    P.str (record.body.get "invocation_id") = invocationId).getLast?

/-- The recorded success of a replay key. -/
def isSuccessFor (replayKey : String) (record : ProductRecord) : Bool :=
  record.recordType = outcomeRecord && record.reads "replay_key" replayKey &&
    record.reads "status" "succeeded"

/-- The stop of a case for an interrupted invocation. -/
def isIncompleteStop (record : ProductRecord) : Bool :=
  record.recordType = terminalRecord && record.reads "reason" "incomplete_prior_invocation"

/-- The invocations without an outcome. -/
def incomplete (P : Platform) (records : List ProductRecord) : List ProductRecord :=
  records.filter fun record => isInvocation record && (outcomeOf P records record.recordId).isNone

/-- `overridden_incomplete`. -/
def overridesIncomplete (policy : AgentRunPolicy) (records : List ProductRecord) : Bool :=
  records.any fun record =>
    isIncompleteStop record && decide (record.recordId ∈ policy.overrideTerminalRecordIds)

/-- `_active_terminal`. -/
def activeTerminal (policy : AgentRunPolicy) (binding : Binding) (records : List ProductRecord) :
    Option ProductRecord :=
  records.reverse.find? fun record =>
    record.recordType = terminalRecord ∧ record.recordId ∉ policy.overrideTerminalRecordIds ∧
      (record.reads "scope" "case" ∨
        (record.reads "scope" "role_package" ∧ record.reads "package_key" binding.packageKey))

/-- `int((_timestamp(now) - _timestamp(created_at)).total_seconds())`, at least 0. -/
def elapsedSeconds (P : Platform) (now createdAt : String) : Except PyError ℕ := do
  let current ← agentTimestamp now
  let first ← agentTimestamp createdAt
  return ((current.instant - first.instant) / 1000000).toNat
where
  /-- `_timestamp`. -/
  agentTimestamp (value : String) : Except PyError DateTime :=
    match P.fromIsoFormat (zuluOffset value) with
    | none => .error (valueError ("Invalid isoformat string: '" ++ value ++ "'"))
    | some parsed =>
      if parsed.aware then .ok parsed
      else .error (valueError "agent-run timestamps must include a timezone")

end records

section stops

variable (P : Platform) (runtime : AgentRunRuntime) (task : AgentTask)

/-- The body of the record that stops a case or a package. -/
def terminalBody (reason scope failureSignature : String) (counts : Document) : Document :=
  let binding := bindingOf P task
  [("status", .str "needs_human"), ("reason", .str reason), ("scope", .str scope),
    ("role", .str task.role.value), ("output_contract", .str task.outputContract),
    ("package_hash", .str binding.packageHash), ("package_key", .str binding.packageKey),
    ("failure_signature", .str failureSignature), ("counts", .obj counts),
    ("policy", runtime.policy.toDict),
    ("operator_action", .str ("inspect invocation records and evidence, then resume only with " ++
      "an explicit terminal-record override or a changed evidence package"))]

/-- The id of the record that stops a case or a package. -/
def terminalId (reason scope failureSignature : String) : String :=
  hashedId P "ARUN" [task.caseId, scope,
    if scope = "role_package" then (bindingOf P task).packageKey else "case", reason,
    failureSignature]

/-- `_terminal`: the record is written once and read again after that. -/
def stopRecord (reason scope failureSignature : String) (counts : Document) :
    Service ProductRecord := do
  let createdAt ← perform .now
  let record ← .ofExcept (ProductRecord.create (terminalId P task reason scope failureSignature)
    task.caseId terminalRecord 1 createdAt
    (terminalBody P runtime task reason scope failureSignature counts) [])
  let answer ← ask (.putRecord record)
  match answer with
  | .ok _ => return record
  | .error e =>
    if e.kind = .duplicateProductRecord then
      perform (.getRecord (terminalId P task reason scope failureSignature))
    else .raise e

/-- `AgentRunStopped`. -/
def agentRunStopped (record : ProductRecord) : PyError :=
  ⟨.agentRunStopped, "agent run stopped: " ++
    P.str ((record.body.lookup "reason").getD (.str "needs_human")) ++ "; terminal record " ++
      record.recordId⟩

/-- `raise AgentRunStopped(self._terminal(…))`. -/
def stopRun {α : Type} (reason scope failureSignature : String) (counts : Document) :
    Service α := do
  let record ← stopRecord P runtime task reason scope failureSignature counts
  .raise (agentRunStopped P record)

end stops

section replay

variable (P : Platform) (runtime : AgentRunRuntime) (task : AgentTask)

/-- `OSError` of an artifact that is not the recorded one. -/
def changedArtifact : PyError :=
  ⟨.osError, "recorded agent result evidence is absent or has changed"⟩

/-- `_restore_outcome`. -/
def restoreOutcome (outcome : ProductRecord) : Service AgentResult := do
  let artifactNamespace ← .ofExcept (outcome.body.entry "artifact_namespace")
  let relativePath ← .ofExcept (outcome.body.entry "result_artifact_path")
  let path ← perform (.safeResolve (runtime.artifactRoot ++ "/" ++ P.str artifactNamespace)
    (P.str relativePath))
  let present ← perform (.isFile path)
  .raiseIf (present = false) changedArtifact
  let hash ← perform (.hashFile path)
  let recorded ← .ofExcept (outcome.body.entry "result_sha256")
  .raiseIf (recorded.str? ≠ some hash) changedArtifact
  let text ← perform (.readText path)
  match P.jsonLoads text with
  | none => .raise (valueError "JSONDecodeError")
  | some value =>
    match value.obj? with
    | none => .raise (valueError "recorded agent result evidence is not an object")
    | some document => .ofExcept (restoreResult P task document)

/-- The exceptions of `_restore_outcome` that `run` handles. -/
def PyError.restoring (e : PyError) : Bool :=
  e.kind.isKeyError || e.kind.isValueError || e.kind = .osError || e.kind = .typeError ||
    e.kind = .pathEscape

/-- The branch of `run` for a recorded success. -/
def replayOutcome (records : List ProductRecord) (outcome : ProductRecord) :
    Service AgentResult :=
  Prog.handle (restoreOutcome P runtime task outcome) fun e =>
    if e.restoring then
      stopRun P runtime task "replay_artifact_unavailable" "role_package" ""
        [("model_calls", .ofNat (records.filter isInvocation).length)]
    else .raise e

end replay

section calls

variable (P : Platform) (runtime : AgentRunRuntime) (task : AgentTask)

/-- The guards of `run` before an invocation; the counts go into later stops. -/
def admitRun (records : List ProductRecord) : Service Document :=
  let binding := bindingOf P task
  match activeTerminal runtime.policy binding records with
  | some record => .raise (agentRunStopped P record)
  | none =>
    let invocations := records.filter isInvocation
    let attempts := (records.filter (isInvocationFor binding.packageKey)).length
    let pending :=
      if overridesIncomplete runtime.policy records then [] else incomplete P records
    let counts : Document := [("model_calls", .ofNat invocations.length),
      ("role_package_attempts", .ofNat attempts)]
    if pending ≠ [] then
      stopRun P runtime task "incomplete_prior_invocation" "case" "" counts
    else if runtime.policy.maxModelCalls ≤ invocations.length then
      stopRun P runtime task "model_call_budget_exhausted" "case" "" counts
    else if runtime.policy.maxAttemptsPerRolePackage ≤ attempts then
      stopRun P runtime task "role_package_attempt_budget_exhausted" "role_package" "" counts
    else
      match invocations with
      | [] => return counts
      | first :: _ => do
        let now ← perform .now
        let elapsed ← .ofExcept (elapsedSeconds P now first.createdAt)
        let counts := counts ++ [("elapsed_seconds", .ofNat elapsed)]
        if runtime.policy.maxElapsedSeconds ≤ elapsed then
          stopRun P runtime task "elapsed_run_budget_exhausted" "case" "" counts
        else return counts

/-- The id of an attempt of a package. -/
def invocationId (attempt : ℕ) : String :=
  let binding := bindingOf P task
  hashedId P "AINV" [binding.packageKey, binding.replayKey, decimalOf attempt]

/-- The body of the record of an attempt. -/
def invocationBody (attempt : ℕ) : Document :=
  let binding := bindingOf P task
  [("invocation_id", .str (invocationId P task attempt)), ("replay_key", .str binding.replayKey),
    ("package_key", .str binding.packageKey), ("package_hash", .str binding.packageHash),
    ("task_contract_hash", .str binding.taskContractHash), ("role", .str task.role.value),
    ("output_contract", .str task.outputContract), ("attempt", .ofNat attempt),
    ("runtime", .str runtime.runtimeName), ("status", .str "started"),
    ("policy", runtime.policy.toDict)]

/-- The branch of `run` for an attempt that another worker recorded first. -/
def joinInvocation (attempt : ℕ) (counts : Document) : Service AgentResult := do
  let records ← perform (.listRecords task.caseId)
  let stop : Service AgentResult :=
    stopRun P runtime task "incomplete_prior_invocation" "case" "" counts
  match outcomeOf P records (invocationId P task attempt) with
  | none => stop
  | some outcome =>
    if outcome.reads "status" "succeeded" then
      Prog.handle (restoreOutcome P runtime task outcome) fun e =>
        if e.restoring then stop else .raise e
    else stop

/-- The class name of an exception. -/
def ErrorKind.name : ErrorKind → String
  | .valueError => "ValueError"
  | .usageAnalysisError => "UsageAnalysisError"
  | .keyError => "KeyError"
  | .indexError => "IndexError"
  | .attributeError => "AttributeError"
  | .typeError => "TypeError"
  | .caseNotFound => "CaseNotFound"
  | .findingNotFound => "FindingNotFound"
  | .productRecordNotFound => "ProductRecordNotFound"
  | .osError => "OSError"
  | .integrityError => "IntegrityError"
  | .runtimeError => "RuntimeError"
  | .pathEscape => "PathEscape"
  | .overflowError => "OverflowError"
  | .dataError => "DataError"
  | .concurrentCaseUpdate => "ConcurrentCaseUpdate"
  | .duplicateFinding => "DuplicateFinding"
  | .duplicateProductRecord => "DuplicateProductRecord"
  | .actionPlaneError => "ActionPlaneError"
  | .preApprovalError => "PreApprovalError"
  | .remediationPlanningError => "RemediationPlanningError"
  | .agentRunStopped => "AgentRunStopped"
  | .reviewControlError => "ReviewControlError"
  | .shadowControlError => "ShadowControlError"
  | .awsCdkPlanningError => "AwsCdkPlanningError"
  | .awsActionError => "AwsActionError"
  | .azureActionError => "AzureActionError"
  | .terraformLinkNotFound => "TerraformLinkNotFound"
  | .ambiguousTerraformLink => "AmbiguousTerraformLink"
  | .terraformLinkError => "TerraformLinkError"
  | .unicodeDecodeError => "UnicodeDecodeError"

/-- `" ".join(text.split())`. -/
def collapseSpaces (text : String) : String :=
  " ".intercalate (((text.toList.splitOnP isSpace).filter fun word => !word.isEmpty).map
    String.ofList)

/-- Another failure of a package than this many before it opens the circuit. -/
def openCircuit {α : Type} (attempt : ℕ) (counts : Document) (signature : String)
    (otherwise : Service α) : Service α := do
  let records ← perform (.listRecords task.caseId)
  let failures := records.filter fun record => record.recordType = outcomeRecord ∧
    record.reads "package_key" (bindingOf P task).packageKey ∧
      record.reads "failure_signature" signature
  if runtime.policy.equivalentFailureThreshold ≤ failures.length then
    stopRun P runtime task "equivalent_failure_circuit_open" "role_package" signature
      (counts.set "role_package_attempts" (.ofNat attempt))
  else otherwise

/-- The id of the outcome of an attempt. -/
def outcomeId (attempt : ℕ) : String := hashedId P "AOUT" [invocationId P task attempt]

/-- The record of the outcome of an attempt. -/
def outcomeFor (attempt : ℕ) (createdAt : String) (fields : Document) (evidenceIds : List String) :
    Except PyError ProductRecord :=
  let binding := bindingOf P task
  ProductRecord.create (outcomeId P task attempt) task.caseId outcomeRecord 1 createdAt
    ([("invocation_id", .str (invocationId P task attempt)),
      ("replay_key", .str binding.replayKey), ("package_key", .str binding.packageKey)] ++ fields)
    evidenceIds

/-- The branch of `run` for an exception of the runtime. -/
def recordFailure (attempt : ℕ) (counts : Document) (e : PyError) : Service AgentResult := do
  let signature := digest P [("failure_code", .str e.kind.name),
    ("detail", .str (collapseSpaces e.message))]
  let createdAt ← perform .now
  let outcome ← .ofExcept (outcomeFor P task attempt createdAt
    [("status", .str "failed"), ("failure_code", .str e.kind.name),
      ("failure_signature", .str signature)] [])
  perform (.putRecord outcome)
  openCircuit P runtime task attempt counts signature (.raise e)

/-- Did a call succeed within its contract? -/
def succeeds (result : AgentResult) : Bool :=
  result.status = .succeeded ∧ validateResult task result = []

/-- The signature of a result that did not succeed. -/
def resultSignature (result : AgentResult) : String :=
  if succeeds task result then ""
  else digest P [("status", .str result.status.value),
    ("missing_evidence", .ofStrings result.missingEvidence),
    ("contract_failures", .ofStrings (validateResult task result))]

/-- The folder of an attempt among the artifacts. -/
def artifactNamespace (attempt : ℕ) : String :=
  "cases/" ++ task.caseId ++ "/agent-runs/" ++ invocationId P task attempt

/-- The fields of the record of a result. -/
def resultFields (attempt : ℕ) (result : AgentResult) (artifactPath sha256 : String) : Document :=
  let signature := resultSignature P task result
  [("status", .str (if succeeds task result then "succeeded" else "not_succeeded")),
    ("failure_code", .str (if validateResult task result ≠ [] then "invalid_result_contract"
      else if signature ≠ "" then result.status.value else "")),
    ("failure_signature", .str signature),
    ("artifact_namespace", .str (artifactNamespace P task attempt)),
    ("result_artifact_path", .str artifactPath), ("result_sha256", .str sha256)]

/-- The branch of `run` for a result of the runtime. -/
def recordResult (attempt : ℕ) (counts : Document) (result : AgentResult) :
    Service AgentResult := do
  let now ← perform .now
  let reference ← writeEvidence P (runtime.artifactRoot ++ "/" ++ artifactNamespace P task attempt)
    (invocationEvidenceId P (invocationId P task attempt)) "agent_invocation_result"
    (P.canonical (.obj (resultDocument result)))
    ⟨"elcapitan-agent-run", "0.1.0", "agent-run-control-plane"⟩ "internal" "" now
  let createdAt ← perform .now
  let outcome ← .ofExcept (outcomeFor P task attempt createdAt
    (resultFields P task attempt result reference.artifactPath reference.sha256)
    [reference.evidenceId])
  perform (.putRecord outcome)
  if resultSignature P task result = "" then return result
  else openCircuit P runtime task attempt counts (resultSignature P task result) (.ret result)

/-- The call of the wrapped runtime, once its invocation is recorded. -/
def callRuntime (attempt : ℕ) (counts : Document) : Service AgentResult := do
  let answer ← ask (.runRuntime task)
  match answer with
  | .error e => recordFailure P runtime task attempt counts e
  | .ok result => recordResult P runtime task attempt counts result

/-- The part of `run` after the guards. -/
def dispatchRun (records : List ProductRecord) (counts : Document) : Service AgentResult := do
  let attempt := (records.filter (isInvocationFor (bindingOf P task).packageKey)).length + 1
  let createdAt ← perform .now
  let invocation ← .ofExcept (ProductRecord.create (invocationId P task attempt) task.caseId
    invocationRecord 1 createdAt (invocationBody P runtime task attempt) [])
  let answer ← ask (.putRecord invocation)
  match answer with
  | .ok _ => callRuntime P runtime task attempt counts
  | .error e =>
    if e.kind = .duplicateProductRecord then joinInvocation P runtime task attempt counts
    else .raise e

/-- `AgentRunRuntime.run`. -/
def agentRun : Service AgentResult := do
  let records ← perform (.listRecords task.caseId)
  match records.find? (isSuccessFor (bindingOf P task).replayKey) with
  | some outcome => replayOutcome P runtime task records outcome
  | none =>
    let counts ← admitRun P runtime task records
    dispatchRun P runtime task records counts

end calls

section samples

/-- A short hash, in hexadecimal digits. -/
def sampleHash (text : String) : String :=
  String.ofList (Nat.toDigits 16 (2 ^ 28 +
    text.toList.foldl (fun h c => (65599 * h + c.toNat) % 2 ^ 28) 0))

/-- The sample platform with a hash of hexadecimal digits. -/
def hashPlatform : Platform := { samplePlatform with sha256Hex := sampleHash }

/-- The policy of a runtime that names none. -/
def defaultRunPolicy : AgentRunPolicy := {}

/-- The sample's task has an id. -/
theorem sampleTask_named : "task-1" ≠ "" := by
  decide

/-- A review task on this evidence. -/
def sampleTask (taskId : String) (hid : taskId ≠ "") (evidenceIds : List String) : AgentTask where
  taskId := taskId
  caseId := "case-1"
  role := .sreReviewer
  objective := "review the plan"
  outputContract := "SREReview.v1"
  inputRecordIds := ["plan-1"]
  evidenceIds := evidenceIds
  constraints := []
  metadata := []
  required := ⟨hid, by decide, by decide⟩
  contract_required := by decide

end samples

end ElCapitan
