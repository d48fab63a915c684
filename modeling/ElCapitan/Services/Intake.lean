import ElCapitan.Findings.Ocsf
import ElCapitan.Services.Approval

/-!
# Intake

`RemediationIntake.ingest`: a scanner finding is stored once, attached to the
active case of its asset or to a new case, ranked, and assigned to that case.
-/

namespace ElCapitan

open Effects

/-- `IntakeContext`. -/
structure IntakeContext where
  assetCriticality : ℚ := 0
  exploitProbability : ℚ := 0
  internetExposed : Option Bool := none
  reachable : Bool := false
  knownExploited : Bool := false
  activeExploitation : Bool := false
  runtimeDependency : Bool := false
  compensatingControlStrength : ℚ := 0
  serviceIds : List String := []

/-- `IntakeOutcome`. -/
structure IntakeOutcome where
  finding : StoredFinding
  case : RemediationCase
  duplicate : Bool
  caseCreated : Bool
  findingAttached : Bool
  priorityChanged : Bool

/-- The arguments of one `ingest` call. -/
structure IntakeRequest where
  raw : Document
  tenantId : String
  context : IntakeContext := {}
  assetContext : Option Document := none
  /-- The collector of the intake service. -/
  collector : Collector

/-- `canonical_asset_id`. -/
def canonicalAssetId (provider account resourceUid : String) : Except PyError String :=
  if provider = "" ∨ account = "" ∨ resourceUid = "" then
    .error (valueError "canonical asset id requires provider, account, and resource uid")
  else .ok (provider ++ ":" ++ account ++ ":" ++ resourceUid)

/-- The items of `extensions.get("categories") or []`. -/
def categoryItems (extensions : Document) : Except PyError (List Json) :=
  match extensions.get "categories" with
  | .arr items => .ok items
  | .obj entries => .ok (entries.map fun entry => .str entry.1)
  | .str s => .ok (if s = "" then [] else [.str s])
  | other =>
    if other.truthy then
      .error ⟨.typeError, "'" ++ other.className ++ "' object is not iterable"⟩
    else .ok []

/-- `value.replace("_", "-")`. -/
def hyphenated (value : String) : String :=
  String.ofList (value.toList.map fun c => if c = '_' then '-' else c)

/-- `priority_signals`. -/
def prioritySignals (P : Platform) (record : Document) (context : IntakeContext) :
    Except PyError PrioritySignals := do
  let extensions ← sectionOr record "vendor_extensions"
  let categories ← categoryItems extensions
  let inferred := categories.any fun category =>
    hyphenated (P.lower (P.str category)) = "internet-exposed"
  let severity := record.text "severity"
  let rawEvent ← sectionDefault record "raw_event"
  PrioritySignals.create (if severity = "" then "unknown" else severity)
    context.assetCriticality context.exploitProbability (context.internetExposed.getD inferred)
    context.reachable context.knownExploited context.activeExploitation
    context.runtimeDependency context.compensatingControlStrength
    [rawEvent.text "evidence_id"]

/-- `_merge_priority`. -/
def mergePriority (assessmentId : String) (current incoming : RiskAssessment) :
    Except PyError RiskAssessment :=
  let winner := if incoming.score > current.score then incoming else current
  RiskAssessment.create assessmentId winner.score winner.urgency winner.factors
    winner.confidence winner.evidenceIds

/-- `normalise_ocsf`: the raw event becomes evidence, then the record is built. -/
def normaliseOcsf (P : Platform) (raw : Document) (runDir findingId : String)
    (collector : Collector) (now : String) : Service Document := do
  .raiseIf ((raw.lookup "class_uid").isSome = false)
    (valueError "input is not an OCSF finding: missing class_uid")
  let _ ← .ofExcept (sectionDefault raw "metadata")
  let _ ← .ofExcept (primaryResource raw)
  let _ ← .ofExcept (cloudTarget P raw)
  let rawRef ← writeEvidence P runDir "EVD-001" "scanner_raw_event" (P.canonical (.obj raw))
    collector "internal" "CMD-000" now
  .ofExcept (normalisedRecord P raw findingId rawRef.toDict)

/-- The stored finding of a raw event, as `_store_finding` builds it before it is put. -/
def buildFinding (S : Settings) (request : IntakeRequest) (source : SourceKey)
    (findingId namespaceOf now : String) : Service StoredFinding := do
  let normalised ← normaliseOcsf S.platform request.raw (S.artifactRoot ++ "/" ++ namespaceOf)
    findingId request.collector now
  let record := match request.assetContext with
    | some assetContext => normalised.set "vendor_extensions"
        (.obj (((normalised.get "vendor_extensions").obj?.getD []).set
          "elcapitan_asset_context" (.obj assetContext)))
    | none => normalised
  let failures := S.platform.schemaFileErrors "finding-record" (.obj record)
  .raiseIf (failures ≠ [])
    (valueError ("normalized finding is invalid: " ++ "; ".intercalate failures))
  let (_, resourceUid, _) ← .ofExcept (cloudTarget S.platform request.raw)
  let prioritySignals ← .ofExcept (prioritySignals S.platform record request.context)
  return { tenantId := source.tenantId, findingId, provider := source.provider,
           account := source.account, originalUid := source.originalUid,
           resourceUid := resourceUid.str?.getD "", record, prioritySignals,
           artifactNamespace := namespaceOf }

/-- `_store_finding`: the finding, and whether this call created it. -/
def storeFinding (S : Settings) (request : IntakeRequest) (source : SourceKey) :
    Service (StoredFinding × Bool) := do
  let findingId ← perform (.newId "FIND")
  let namespaceOf := "findings/" ++ findingId
  let runDir := S.artifactRoot ++ "/" ++ namespaceOf
  perform (.makeDirectory runDir false)
  let now ← perform .now
  let finding ← buildFinding S request source findingId namespaceOf now
  Prog.handle
    (do perform (.putFinding finding)
        return (finding, true))
    fun e =>
      if e.kind = .duplicateFinding then do
        perform (.removeTree runDir)
        let winner ← perform (.getBySource source)
        match winner with
        | some winner => return (winner, false)
        | none => .raise e
      else .raise e

/-- Does a finding stored under the raw producer UID describe the same rule and resource? -/
def sameLegacy (P : Platform) (raw : Document) (legacy : StoredFinding) :
    Except PyError Bool := do
  let (_, resourceUid, _) ← cloudTarget P raw
  let ocsf ← sectionDefault legacy.record "ocsf"
  let ruleId ← findingRuleId P raw
  return resourceUid.str? = some legacy.resourceUid ∧ P.str (ocsf.getText "rule_id") = ruleId

/-- The finding that was already ingested from the same source event. -/
def existingFinding (S : Settings) (request : IntakeRequest) (source : SourceKey) :
    Service (Option StoredFinding) := do
  let existing ← perform (.getBySource source)
  let findingInfo ← .ofExcept (sectionOr request.raw "finding_info")
  let rawUid := findingInfo.text "uid"
  if existing.isNone ∧ source.originalUid ≠ rawUid ∧ rawUid ≠ "" then do
    let legacy ← perform (.getBySource { source with originalUid := rawUid })
    match legacy with
    | some legacy => do
      let same ← .ofExcept (sameLegacy S.platform request.raw legacy)
      return if same then some legacy else none
    | none => return none
  else return existing

/-- The `ADD_FINDING` step of intake. -/
def addFinding (finding : StoredFinding) (now : String) (current : RemediationCase) :
    Service RemediationCase := do
  let eventId ← perform (.newId "EVT")
  advance current.caseId .addFinding
    { eventId, occurredAt := now, actor := "intake",
      recordIds := recordIdsOf [("finding_id", finding.findingId)],
      evidenceIds := finding.prioritySignals.evidenceIds,
      newFindingIds := [finding.findingId] }

/-- A step that attaches a risk assessment. -/
def rankWith (transition : CaseTransition) (risk : RiskAssessment) (now : String)
    (current : RemediationCase) : Service RemediationCase := do
  let eventId ← perform (.newId "EVT")
  advance current.caseId transition
    { eventId, occurredAt := now, actor := "priority-policy",
      recordIds := recordIdsOf [("risk_assessment_id", risk.assessmentId)],
      evidenceIds := risk.evidenceIds, priority := some risk }

/-- Prioritize an open case, or raise the priority of another; whether it changed. -/
def rankCase (incoming : RiskAssessment) (now : String) (current : RemediationCase) :
    Service (RemediationCase × Bool) := do
  if current.state = .opened then do
    let current ← rankWith .prioritize incoming now current
    return (current, true)
  else
    match current.priority with
    | none => do
      let current ← rankWith .reprioritize incoming now current
      return (current, true)
    | some priority =>
      if incoming.score > priority.score then do
        let riskId ← perform (.newId "RISK")
        let merged ← .ofExcept (mergePriority riskId priority incoming)
        let current ← rankWith .reprioritize merged now current
        return (current, true)
      else return (current, false)

/-- The value of a program, or the conflict it lost; other exceptions propagate. -/
def catchConflict {α : Type} (p : Service α) : Service (Except PyError α) :=
  Prog.handle (do let a ← p; return .ok a) fun e =>
    if e.kind = .concurrentCaseUpdate then return .error e else .raise e

/-- The case after a turn of the loop and whether its priority changed, or the
conflict the turn lost; and whether the finding was attached. -/
abbrev Turn := Except PyError (RemediationCase × Bool) × Bool

/-- One turn of the loop of `ingest`. -/
def settleTurn (finding : StoredFinding) (incoming : RiskAssessment) (now : String)
    (current : RemediationCase) (attached : Bool) : Service Turn := do
  let added ← catchConflict
    (if finding.findingId ∉ current.findingIds then do
      let current ← addFinding finding now current
      return (current, true)
    else return (current, attached))
  match added with
  | .error e => return (.error e, attached)
  | .ok (current, attached) => do
    let ranked ← catchConflict (rankCase incoming now current)
    return (ranked, attached)

/-- The loop of `ingest`, with the turns that are left after this one. -/
def settleCase (finding : StoredFinding) (incoming : RiskAssessment) (now : String) :
    ℕ → RemediationCase → Bool → Service (RemediationCase × Bool × Bool)
  | 0, current, attached => do
    let (outcome, attached) ← settleTurn finding incoming now current attached
    let (current, changed) ← .ofExcept outcome
    return (current, attached, changed)
  | retries + 1, current, attached => do
    let (outcome, attached) ← settleTurn finding incoming now current attached
    match outcome with
    | .ok (current, changed) => return (current, attached, changed)
    | .error _ => do
      let current ← perform (.getCase current.caseId)
      settleCase finding incoming now retries current attached

/-- The case of an asset: the active one, a new one, or the one of the worker who won
the race to create it. Also whether it was created and the finding attached here. -/
def caseForAsset (request : IntakeRequest) (finding : StoredFinding) (assetId now : String) :
    Option RemediationCase → Service (RemediationCase × Bool × Bool)
  | some current => return (current, false, false)
  | none =>
    Prog.handle
      (do let caseId ← perform (.newId "CASE")
          let current ← openAndCreate caseId request.tenantId [finding.findingId] [assetId]
            request.context.serviceIds now
          return (current, true, false))
      fun e =>
        if e.kind = .concurrentCaseUpdate then do
          let active ← perform (.findActiveByAsset request.tenantId assetId)
          match active with
          | none => .raise e
          | some current =>
            if finding.findingId ∉ current.findingIds then do
              let current ← addFinding finding now current
              return (current, false, true)
            else return (current, false, false)
        else .raise e

/-- `ingest` from the stored finding on. -/
def attachFinding (S : Settings) (request : IntakeRequest) (finding : StoredFinding)
    (created : Bool) : Service IntakeOutcome := do
  let assetId ← .ofExcept (canonicalAssetId finding.provider finding.account
    finding.resourceUid)
  let active ← perform (.findActiveByAsset request.tenantId assetId)
  let now ← perform .now
  let riskId ← perform (.newId "RISK")
  let incoming ← .ofExcept (assessPriority S.platform riskId finding.prioritySignals
    defaultPriorityPolicy)
  let (current, caseCreated, attached) ← caseForAsset request finding assetId now active
  let (current, attached, changed) ← settleCase finding incoming now 2 current attached
  let finding ← assignCase finding.findingId current.caseId
  return { finding, case := current, duplicate := !created, caseCreated,
           findingAttached := attached, priorityChanged := changed }

/-- The identity of a request's finding, or the error that rejects the request. -/
def intakeSource (S : Settings) (request : IntakeRequest) : Except PyError SourceKey := do
  raiseIf (request.tenantId = "") (valueError "tenant_id is required")
  let outcome ← prowlerOutcome S.platform request.raw
  raiseIf (outcome.getD "FAIL" ≠ "FAIL")
    (valueError ("Prowler " ++ outcome.getD "" ++ " records are not actionable findings"))
  let (provider, account, originalUid) ← sourceIdentity S.platform request.raw
  return ⟨request.tenantId, provider, account, originalUid⟩

/-- `RemediationIntake.ingest`. -/
def ingest (S : Settings) (request : IntakeRequest) : Service IntakeOutcome := do
  let source ← .ofExcept (intakeSource S request)
  let existing ← existingFinding S request source
  match existing with
  | some finding =>
    if finding.caseId.getD "" ≠ "" then do
      let case ← perform (.getCase (finding.caseId.getD ""))
      return { finding, case, duplicate := true, caseCreated := false,
               findingAttached := false, priorityChanged := false }
    else attachFinding S request finding false
  | none => do
    let (finding, created) ← storeFinding S request source
    attachFinding S request finding created

end ElCapitan
