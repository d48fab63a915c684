import ElCapitan.Agents.Task
import ElCapitan.Base.Platform
import ElCapitan.Cases.Documents
import ElCapitan.Effects.Pool
import ElCapitan.Stores.CaseStore
import ElCapitan.Stores.FindingStore
import ElCapitan.Stores.JobStore

/-!
# Operations of the services

Everything a service does outside its own computation is one of the operations
below: a store transaction, a reading of the clock, a fresh id, a file, an agent
call or a call of an injected component. Each is one atomic step. Store
operations act on the tables; the environment decides every other answer, and
may let any operation raise without effect.
-/

namespace ElCapitan

open Effects

/-- `Collector`. -/
structure Collector where
  tool : String
  version : String
  identity : String

/-- `EvidenceRef`. -/
structure EvidenceRef where
  evidenceId : String
  kind : String
  artifactPath : String
  sha256 : String
  collectedAt : String
  sensitivity : String
  commandId : String
  collector : Collector

/-- `EvidenceRef.to_dict`. -/
def EvidenceRef.toDict (ref : EvidenceRef) : Document :=
  [("evidence_id", .str ref.evidenceId), ("type", .str ref.kind),
    ("artifact_path", .str ref.artifactPath), ("sha256", .str ref.sha256),
    ("collected_at", .str ref.collectedAt), ("sensitivity", .str ref.sensitivity),
    ("command_id", .str ref.commandId),
    ("collector", .obj [("tool", .str ref.collector.tool),
      ("version", .str ref.collector.version), ("identity", .str ref.collector.identity)])]

/-- `CloudState`. -/
structure CloudState where
  provider : String
  resourceUid : String
  region : String
  config : List (String × String)

/-- `to_dict` of a cloud state. -/
def CloudState.toDict (state : CloudState) : Json :=
  .obj [("provider", .str state.provider), ("resource_uid", .str state.resourceUid),
    ("region", .str state.region),
    ("config", .obj (state.config.map fun entry => (entry.1, .str entry.2)))]

/-- A link to infrastructure source, as the linkers return it. -/
structure TerraformLink where
  sourcePath : String
  resourceType : String
  sourceSha256 : String
  resourceAddress : String
  stateSha256 : String
  iacEngine : String
  /-- `to_dict` of the link. -/
  document : Document

/-- `TerraformCheck`. -/
structure TerraformCheck where
  name : String
  argv : List String
  exitCode : ℤ
  stdout : String
  stderr : String
  details : Document

/-- `TerraformCheck.passed`. -/
def TerraformCheck.passed (check : TerraformCheck) : Bool := check.exitCode = 0

/-- `TerraformCheck.to_dict`. -/
def TerraformCheck.toDict (check : TerraformCheck) : Json :=
  .obj [("name", .str check.name), ("argv", .ofStrings check.argv),
    ("exit_code", .int check.exitCode), ("stdout", .str check.stdout),
    ("stderr", .str check.stderr), ("passed", .bool check.passed),
    ("details", .obj check.details)]

/-- `UsageSample`. -/
structure UsageSample where
  timestamp : String
  requests : ℚ
  errors : ℚ
  p95LatencyMs : ℚ

/-- `UsageSample.to_dict`. -/
def UsageSample.toDict (sample : UsageSample) : Json :=
  .obj [("timestamp", .str sample.timestamp), ("requests", .float sample.requests),
    ("errors", .float sample.errors), ("p95_latency_ms", .float sample.p95LatencyMs)]

/-- `WindowPolicy`. -/
structure WindowPolicy where
  timezone : String
  durationMinutes : ℕ
  noticeHours : ℕ
  allowedWeekdays : List ℕ
  allowedStartHours : List ℕ
  candidateCount : ℕ
  minimumProfileSamples : ℕ
  fixedStartDelayMinutes : Option ℕ

/-- A JSON number of a natural number. -/
def Json.ofNat (n : ℕ) : Json := .int n

/-- `WindowPolicy.to_dict`. -/
def WindowPolicy.toDict (policy : WindowPolicy) : Json :=
  .obj [("timezone", .str policy.timezone), ("duration_minutes", .ofNat policy.durationMinutes),
    ("notice_hours", .ofNat policy.noticeHours),
    ("allowed_weekdays", .arr (policy.allowedWeekdays.map Json.ofNat)),
    ("allowed_start_hours", .arr (policy.allowedStartHours.map Json.ofNat)),
    ("candidate_count", .ofNat policy.candidateCount),
    ("minimum_profile_samples", .ofNat policy.minimumProfileSamples),
    ("fixed_start_delay_minutes", partToDict Json.ofNat policy.fixedStartDelayMinutes)]

/-- `WindowCandidate`. -/
structure WindowCandidate where
  candidateId : String
  startsAt : String
  endsAt : String
  timezone : String
  localStart : String
  historicalSamples : ℕ
  averageRequests : ℚ
  averageErrors : ℚ
  averageP95LatencyMs : ℚ
  rank : ℕ

/-- `WindowCandidate.to_dict`. -/
def WindowCandidate.toDict (candidate : WindowCandidate) : Json :=
  .obj [("candidate_id", .str candidate.candidateId), ("starts_at", .str candidate.startsAt),
    ("ends_at", .str candidate.endsAt), ("timezone", .str candidate.timezone),
    ("local_start", .str candidate.localStart),
    ("historical_samples", .ofNat candidate.historicalSamples),
    ("average_requests", .float candidate.averageRequests),
    ("average_errors", .float candidate.averageErrors),
    ("average_p95_latency_ms", .float candidate.averageP95LatencyMs),
    ("rank", .ofNat candidate.rank)]

/-- `ExecutionContext`. -/
structure ExecutionContext where
  case : RemediationCase
  plan : ProductRecord
  link : ProductRecord
  approval : ProductRecord
  window : ProductRecord
  artifactRoot : String

/-- `ActionStep`; an absent payload counts as an empty one. -/
structure ActionStep where
  name : String
  passed : Bool
  detail : String
  payload : Document := []

/-- `ActionStep.to_dict`. -/
def ActionStep.toDict (step : ActionStep) : Json :=
  .obj [("name", .str step.name), ("passed", .bool step.passed), ("detail", .str step.detail),
    ("payload", .obj step.payload)]

/-- `DeploymentCheckpoint`. -/
structure DeploymentCheckpoint where
  checkpointId : String
  detail : String
  payload : Document

/-- `DeploymentCheckpoint.to_dict`. -/
def DeploymentCheckpoint.toDict (checkpoint : DeploymentCheckpoint) : Json :=
  .obj [("checkpoint_id", .str checkpoint.checkpointId), ("detail", .str checkpoint.detail),
    ("payload", .obj checkpoint.payload)]

/-- `HealthObservation`. -/
structure HealthObservation where
  healthy : Bool
  reasons : List String
  metrics : Document

/-- `HealthObservation.to_dict`. -/
def HealthObservation.toDict (observation : HealthObservation) : Json :=
  .obj [("healthy", .bool observation.healthy), ("reasons", .ofStrings observation.reasons),
    ("metrics", .obj observation.metrics)]

/-- `ProbeResult`. -/
structure ProbeResult where
  probe : String
  target : String
  passed : Bool
  detail : String
  payload : Document

/-- `ProbeResult.to_dict`. -/
def ProbeResult.toDict (result : ProbeResult) : Json :=
  .obj [("probe", .str result.probe), ("target", .str result.target),
    ("passed", .bool result.passed), ("detail", .str result.detail),
    ("payload", .obj result.payload)]

/-- The operations. -/
inductive Operation where
  -- the case store
  | getCase (caseId : String)
  /-- The reading inside `WorkflowCoordinator.advance`, with what is to be applied. -/
  | advanceRead (caseId : String) (transition : CaseTransition) (args : TransitionArgs)
  | insertCase (case : RemediationCase)
  | appendCase (case : RemediationCase) (event : CaseEvent) (expectedVersion : ℕ)
  | selectEvents (caseId : String)
  | findActiveByAsset (tenantId assetId : String)
  -- the finding store
  | putFinding (finding : StoredFinding)
  | getFinding (findingId : String)
  | getBySource (source : SourceKey)
  | assignFinding (findingId caseId : String)
  | listForCase (caseId : String)
  -- product records and jobs
  | putRecord (record : ProductRecord)
  | getRecord (recordId : String)
  | listRecords (caseId : String)
  | putJob (job : ExecutionJob)
  | claimDue (now workerId leaseUntil : String)
  | completeJob (jobId workerId : String) (state : JobState) (detail : String)
  -- clock, ids and files
  | now
  | newId (kind : String)
  | makeDirectory (path : String) (existOk : Bool)
  | removeTree (path : String)
  | writeNew (path content : String)
  | writeText (path content : String)
  | readText (path : String)
  | hashFile (path : String)
  | isFile (path : String)
  | resolvePath (path : String)
  | safeResolve (root relativePath : String)
  | copyRepository (source destination : String) (allowInternalSymlinks : Bool)
  -- injected components
  | runAgent (task : AgentTask)
  /-- The runtime that an `AgentRunRuntime` wraps. -/
  | runRuntime (task : AgentTask)
  | readLive (finding : StoredFinding) (hostEnv : List (String × String))
  | candidateWindows (samples : List UsageSample) (policy : WindowPolicy) (now : String)
  | linkResource (repository provider resourceUid : String) (stateDocument : Option Json)
      (resourceTypes : List String)
  /-- `_materialize_control_patch`. -/
  | materializePatch (original proposed : String) (link : TerraformLink) (ruleIds : List String)
  | runChecks (workspace : String) (link : TerraformLink) (stateDocument : Option Json)
      (originalSource : Option String)
  | preflight (context : ExecutionContext)
  | checkpoint (context : ExecutionContext)
  | deploy (context : ExecutionContext) (checkpoint : DeploymentCheckpoint)
  | rollback (context : ExecutionContext) (checkpoint : DeploymentCheckpoint)
  | observe (phase : String) (context : ExecutionContext)
  | runProbe (name : String) (context : ExecutionContext)

/-- What each operation returns. -/
@[reducible] def Operation.Answer : Operation → Type
  | .getCase _ | .advanceRead _ _ _ => RemediationCase
  | .insertCase _ | .appendCase _ _ _ => Unit
  | .selectEvents _ => List CaseEvent
  | .findActiveByAsset _ _ => Option RemediationCase
  | .putFinding _ | .assignFinding _ _ => Unit
  | .getFinding _ => StoredFinding
  | .getBySource _ => Option StoredFinding
  | .listForCase _ => List StoredFinding
  | .putRecord _ | .putJob _ => Unit
  | .getRecord _ => ProductRecord
  | .listRecords _ => List ProductRecord
  | .claimDue _ _ _ => Option ExecutionJob
  | .completeJob _ _ _ _ => ExecutionJob
  | .isFile _ => Bool
  | .safeResolve _ _ => String
  | .now | .newId _ | .readText _ | .hashFile _ | .resolvePath _ => String
  | .makeDirectory _ _ | .removeTree _ | .writeNew _ _ | .writeText _ _ => Unit
  | .copyRepository _ _ _ => Unit
  | .runAgent _ | .runRuntime _ => AgentResult
  | .readLive _ _ => CloudState
  | .candidateWindows _ _ _ => List WindowCandidate
  | .linkResource _ _ _ _ _ => TerraformLink
  | .materializePatch _ _ _ _ => String × String
  | .runChecks _ _ _ _ => List TerraformCheck
  | .preflight _ | .deploy _ _ | .rollback _ _ => ActionStep
  | .checkpoint _ => DeploymentCheckpoint
  | .observe _ _ => HealthObservation
  | .runProbe _ _ => ProbeResult

/-- The signature of the services. -/
abbrev operations : Signature := ⟨Operation, Operation.Answer⟩

/-- A service method, as a program. -/
abbrev Service (α : Type) := Prog operations PyError α

/-- Issue an operation; what it raises propagates. -/
abbrev perform (o : Operation) : Service o.Answer := @Prog.perform operations PyError o

/-- Issue an operation and look at its answer. -/
abbrev ask (o : Operation) : Service (Except PyError o.Answer) := @Prog.ask operations PyError o

/-- What the parts of a run did, oldest event first. -/
abbrev Trace := History operations PyError

/-- `driver.deploy` was called. -/
def isDeploy : Event operations PyError → Bool
  | ⟨.deploy _ _, _⟩ => true
  | _ => false

/-- The shared stores. -/
structure Stores where
  cases : CaseTables := {}
  findings : FindingTable := []
  records : RecordTable := []
  jobs : JobTable := []

/-- The tables with one part replaced, or as they were after an error. -/
def commit {α τ : Type} (stores : Stores) (result : Except PyError τ) (answer : τ → α)
    (put : τ → Stores) : Except PyError α × Stores :=
  match result with
  | .ok table => (.ok (answer table), put table)
  | .error e => (.error e, stores)

/-- What a store operation does; `none` for the other operations. -/
def Stores.perform (stores : Stores) :
    (o : Operation) → Option (Except PyError o.Answer × Stores)
  | .getCase caseId => some (stores.cases.get caseId, stores)
  | .advanceRead caseId _ _ => some (stores.cases.get caseId, stores)
  | .insertCase case => some (commit stores (stores.cases.insert case) (fun _ => ())
      fun tables => { stores with cases := tables })
  | .appendCase case event v => some (commit stores (stores.cases.append case event v)
      (fun _ => ()) fun tables => { stores with cases := tables })
  | .selectEvents caseId => some (.ok (stores.cases.eventsOf caseId), stores)
  | .findActiveByAsset tenantId assetId =>
    some (.ok (stores.cases.findActiveByAsset tenantId assetId), stores)
  | .putFinding finding => some (commit stores (FindingTable.put stores.findings finding)
      (fun _ => ()) fun table => { stores with findings := table })
  | .getFinding findingId => some (FindingTable.get stores.findings findingId, stores)
  | .getBySource source => some (.ok (FindingTable.getBySource stores.findings source), stores)
  | .assignFinding findingId caseId =>
    some (commit stores (FindingTable.assign stores.findings findingId caseId) (fun _ => ())
      fun table => { stores with findings := table })
  | .listForCase caseId => some (.ok (FindingTable.listForCase stores.findings caseId), stores)
  | .putRecord record => some (commit stores (RecordTable.put stores.records record)
      (fun _ => ()) fun table => { stores with records := table })
  | .getRecord recordId => some (RecordTable.get stores.records recordId, stores)
  | .listRecords caseId => some (.ok (RecordTable.listForCase stores.records caseId), stores)
  | .putJob job => some (commit stores (JobTable.put stores.jobs job) (fun _ => ())
      fun table => { stores with jobs := table })
  | .claimDue now workerId leaseUntil =>
    some ((JobTable.claim stores.jobs now workerId leaseUntil).map id
      fun table => { stores with jobs := table })
  | .completeJob jobId workerId state detail =>
    some ((JobTable.complete stores.jobs jobId workerId state detail).map id
      fun table => { stores with jobs := table })
  | _ => none

/-- The environment's choices for one step. -/
structure Choice where
  /-- An exception that a store operation raises without effect. -/
  fault : Option PyError := none
  /-- The answers of the other operations. -/
  reply : (o : Operation) → Except PyError o.Answer

/-- The effect of an operation under the environment's choices. -/
def performWith (choice : Choice) (stores : Stores) (o : Operation) :
    Except PyError o.Answer × Stores :=
  match stores.perform o with
  | some result =>
    match choice.fault with
    | some e => (.error e, stores)
    | none => result
  | none => (choice.reply o, stores)

/-- The environment of the services. -/
abbrev world : Env operations PyError Stores := Env.ofPerform performWith

/-- Every step is a store operation that does what the store does or has no
effect, or another operation, which leaves the stores alone. -/
theorem world_cases {stores stores' : Stores} {o : Operation} {answer : Except PyError o.Answer}
    (h : world stores o answer stores') :
    stores.perform o = some (answer, stores') ∨
      (stores' = stores ∧ (stores.perform o = none ∨ ∃ e, answer = .error e)) := by
  obtain ⟨choice, h⟩ := h
  unfold performWith at h
  split at h
  · rename_i result hresult
    split at h
    · cases h
      exact .inr ⟨rfl, .inr ⟨_, rfl⟩⟩
    · exact .inl (hresult.trans (by rw [h]))
  · rename_i hnone
    cases h
    exact .inr ⟨rfl, .inl hnone⟩

/-- A store operation that returns did what the store does. -/
theorem world_ok {stores stores' : Stores} {o : Operation} {a : o.Answer}
    (h : world stores o (.ok a) stores') (hstore : stores.perform o ≠ none) :
    stores.perform o = some (.ok a, stores') := by
  rcases world_cases h with h | ⟨-, hnone | ⟨e, he⟩⟩
  · exact h
  · exact absurd hnone hstore
  · cases he

section samples

/-- What an agent of each role answers when it approves. -/
def approvingOutput : AgentRole → Document
  | .remediationEngineer =>
    [("objective", .str "restrict public access"),
      ("files", .arr [.obj [("path", .str "main.tf"), ("content", .str "acl = private")]]),
      ("prerequisites", .arr []), ("steps", .ofStrings ["apply the change"]),
      ("rollout_steps", .ofStrings ["apply"]), ("verification_steps", .ofStrings ["probe"]),
      ("rollback_steps", .ofStrings ["restore"]), ("rollback_triggers", .ofStrings ["errors"]),
      ("blast_radius", .ofStrings ["one bucket"])]
  | .sreReviewer =>
    [("decision", .str "approve"), ("risk_level", .str "low"), ("summary", .str "low risk"),
      ("dependencies", .arr []), ("failure_modes", .arr []), ("required_controls", .arr []),
      ("verification_requirements", .arr [])]
  | .windowPlanner =>
    [("selected_candidate_id", .str "candidate-1"), ("rationale", .ofStrings ["lowest usage"]),
      ("confidence", .float 1), ("risks", .arr [])]
  | .rollbackVerifier =>
    [("decision", .str "approve"), ("summary", .str "restores the checkpoint"),
      ("verified_steps", .ofStrings ["restore"]), ("trigger_coverage", .ofStrings ["errors"]),
      ("failure_modes", .arr []), ("required_changes", .arr [])]
  | .releaseAuditor =>
    [("decision", .str "accept"), ("summary", .str "the change is effective"),
      ("validated_outcomes", .ofStrings ["access is private"]), ("residual_risks", .arr []),
      ("handoff_notes", .arr [])]
  | _ => []

/-- The result of an agent that cites all it was given and approves. -/
def approvingResult (task : AgentTask) : AgentResult where
  taskId := task.taskId
  caseId := task.caseId
  role := task.role
  status := .succeeded
  output := approvingOutput task.role
  evidenceCited := task.evidenceIds
  missingEvidence := []
  runtime := "runtime"
  model := "model"
  startedAt := "2026-07-17T12:00:00Z"
  completedAt := "2026-07-17T12:00:00Z"
  usage := []
  required := ⟨task.required.1, task.required.2.1, by decide⟩

/-- The answers of a quiet environment at a time: ids are numbered, files are written and
every component is content. The stores are not asked here. -/
def quietReply (time : String) (n : ℕ) : (o : Operation) → Except PyError o.Answer
  | .now => .ok time
  | .newId kind => .ok (kind ++ "-" ++ decimalOf (1000 + n))
  | .makeDirectory _ _ | .removeTree _ | .writeNew _ _ | .writeText _ _ => .ok ()
  | .readText _ | .hashFile _ => .ok "content"
  | .isFile _ => .ok true
  | .resolvePath path => .ok path
  | .safeResolve root relativePath => .ok (root ++ "/" ++ relativePath)
  | .copyRepository _ _ _ => .ok ()
  | .runAgent task | .runRuntime task => .ok (approvingResult task)
  | .readLive finding _ => .ok ⟨finding.provider, finding.resourceUid, "eu-west-1", []⟩
  | .candidateWindows _ _ _ =>
    .ok [⟨"candidate-1", "2026-07-18T02:00:00Z", "2026-07-18T04:00:00Z", "UTC",
      "2026-07-18T02:00:00", 24, 10, 0, 20, 1⟩]
  | .linkResource _ _ _ _ _ =>
    .ok ⟨"main.tf", "aws_s3_bucket", "source", "aws_s3_bucket.logs", "state", "terraform", []⟩
  | .materializePatch original proposed _ _ => .ok (original, proposed)
  | .runChecks _ _ _ _ => .ok [⟨"validate", ["terraform", "validate"], 0, "", "", []⟩]
  | .preflight _ => .ok ⟨"preflight", true, "ready", []⟩
  | .checkpoint _ => .ok ⟨"checkpoint-1", "captured", []⟩
  | .deploy _ _ => .ok ⟨"deploy", true, "applied", []⟩
  | .rollback _ _ => .ok ⟨"rollback", true, "restored", []⟩
  | .observe _ _ => .ok ⟨true, [], []⟩
  | .runProbe name _ => .ok ⟨name, "case-1", true, "as expected", []⟩
  | _ => .error ⟨.runtimeError, "the stores answer themselves"⟩

end samples

end ElCapitan
