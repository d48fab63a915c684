import ElCapitan.ControlPacks.Registry
import ElCapitan.Findings.Failures

/-!
# The offline report

`generate_offline_report`: a batch is ingested into an empty workdir, the fleet is read back,
and the records and the stored findings are counted. The fleet and the report are read from
the stores as the intake leaves them.
-/

namespace ElCapitan

open Effects

/-- What the report relies on besides the control plane: the registry and `str.title`. -/
structure ReportSettings extends Settings where
  root : String
  /-- `json.dumps` with sorted keys. -/
  dumps : Json → String
  /-- `str.title`. -/
  title : String → String
  registry : CapabilityRegistry

/-- The shadow control plane of the report, which uses the same registry. -/
def ReportSettings.shadow (R : ReportSettings) : ShadowSettings where
  toSettings := R.toSettings
  root := R.root
  dumps := R.dumps
  supportsLive provider ruleId resourceType :=
    (R.registry.get R.platform provider ruleId resourceType).any ControlDefinition.liveValidation

/-- `FleetCase`, without what no count is taken of. -/
structure FleetCase where
  caseId : String
  state : CaseState
  riskScore : ℚ
  provider : String
  account : String
  resourceUids : List String
  findingIds : List String
  ruleIds : List String
  supportedFindings : ℕ
  unsupportedFindings : ℕ
  serviceIds : List String
  updatedAt : String

/-- `FleetSnapshot`, without its counts by state and provider. -/
structure FleetSnapshot where
  tenantId : String
  cases : List FleetCase
  totalFindings : ℕ
  supportedFindings : ℕ
  unsupportedFindings : ℕ

/-- The intake accounting of the report. -/
structure IntakeAccounting where
  submitted : ℕ
  acceptedFailures : ℕ
  skippedPass : ℕ
  skippedManual : ℕ
  createdCases : ℕ
  duplicates : ℕ
  outcomeCounts : List (String × ℕ)
  failureSeverityCounts : List (String × ℕ)

/-- The coverage of the report. -/
structure CoverageSection where
  supportedFindings : ℕ
  unsupportedFindings : ℕ
  casesWithSupportedControls : ℕ
  unsupportedOnlyCases : ℕ
  supportedRules : List (String × ℕ)
  unsupportedRules : List (String × ℕ)
  resourceTypes : List (String × ℕ)

/-- The report: its intake, its coverage and the findings of each rule. -/
structure OfflineReport where
  tenantId : String
  records : ℕ
  intake : IntakeAccounting
  coverage : CoverageSection
  topRules : List (String × ℕ)

/-- `Counter(values).most_common()`. -/
def mostCommon (values : List String) : List (String × ℕ) :=
  ((fromKeys values).map fun value => (value, values.count value)).insertionSort
    fun a b => b.2 ≤ a.2

/-- The sum of the counts of a counter. -/
def countTotal (counts : List (String × ℕ)) : ℕ := (counts.map Prod.snd).sum

section reading

variable (P : Platform)

/-- `finding.record[name]`, to be used as a mapping. -/
def recordSection (finding : StoredFinding) (name : String) : Except PyError Document :=
  match finding.record.lookup name with
  | some value => asDict value
  | none => .error (keyError name)

/-- `FleetSnapshotService._rule`; the report has the same expression. -/
def fleetRule (finding : StoredFinding) : Except PyError String := do
  let ocsf ← recordSection finding "ocsf"
  return P.str (ocsf.getText "rule_id")

/-- `str(finding.record.get("resource", {}).get("type", ""))`. -/
def fleetType (finding : StoredFinding) : Except PyError String := do
  let resource ← sectionDefault finding.record "resource"
  return P.str (resource.getText "type")

/-- `str(finding.record["resource"].get("type", "") or "Unknown")`. -/
def reportType (finding : StoredFinding) : Except PyError String := do
  let resource ← recordSection finding "resource"
  let value := resource.getText "type"
  return if value.truthy then P.str value else "Unknown"

/-- A finding of a case with the key it is sorted by. -/
def scoredFinding (finding : StoredFinding) : Except PyError (ℚ × StoredFinding) := do
  let assessment ← assessPriority P "RISK-FLEET" finding.prioritySignals defaultPriorityPolicy
  return (assessment.score, finding)

/-- The order of the findings of a case: `(-score, finding_id)`. -/
def scoredBefore (a b : ℚ × StoredFinding) : Prop :=
  b.1 < a.1 ∨ a.1 = b.1 ∧ a.2.findingId ≤ b.2.findingId

instance : DecidableRel scoredBefore := fun a b => by
  unfold scoredBefore
  infer_instance

/-- The order of the cases of the fleet: `(-risk_score, updated_at, case_id)`. -/
def fleetBefore (a b : FleetCase) : Prop :=
  b.riskScore < a.riskScore ∨ a.riskScore = b.riskScore ∧
    (a.updatedAt < b.updatedAt ∨ a.updatedAt = b.updatedAt ∧ a.caseId ≤ b.caseId)

instance : DecidableRel fleetBefore := fun a b => by
  unfold fleetBefore
  infer_instance

variable (R : ReportSettings)

/-- The control that the fleet finds for a finding, by its rule and the type of its resource. -/
def fleetControl (finding : StoredFinding) :
    Except PyError (String × Option ControlDefinition) := do
  let rule ← fleetRule R.platform finding
  let resourceType ← fleetType R.platform finding
  return (rule, R.registry.get R.platform finding.provider rule resourceType)

/-- `FleetSnapshotService._case`. -/
def fleetCase (stores : Stores) (case : RemediationCase) : Except PyError FleetCase := do
  let scored ← (FindingTable.listForCase stores.findings case.caseId).mapM
    (scoredFinding R.platform)
  let findings := (scored.insertionSort scoredBefore).map Prod.snd
  let controls ← findings.mapM (fleetControl R)
  let supported := controls.countP fun control => control.2.isSome
  return {
    caseId := case.caseId
    state := case.state
    riskScore := (case.priority.map RiskAssessment.score).getD 0
    provider := (findings.head?.map StoredFinding.provider).getD ""
    account := (findings.head?.map StoredFinding.account).getD ""
    resourceUids := fromKeys (findings.map StoredFinding.resourceUid)
    findingIds := findings.map StoredFinding.findingId
    ruleIds := fromKeys (controls.map Prod.fst)
    supportedFindings := supported
    unsupportedFindings := findings.length - supported
    serviceIds := case.serviceIds
    updatedAt := case.updatedAt }

/-- `list_cases(tenant_id=…)`. -/
def listCases (stores : Stores) (tenantId : String) : List RemediationCase :=
  (stores.cases.cases.filter fun case => case.tenantId = tenantId).insertionSort
    fun a b => a.caseId ≤ b.caseId

/-- `FleetSnapshotService.snapshot`. -/
def fleetSnapshot (stores : Stores) (tenantId : String) : Except PyError FleetSnapshot := do
  raiseIf (tenantId = "") (valueError "tenant_id is required")
  let read ← (listCases stores tenantId).mapM (fleetCase R stores)
  let cases := read.insertionSort fleetBefore
  return {
    tenantId
    cases
    totalFindings := (cases.map fun case => case.findingIds.length).sum
    supportedFindings := (cases.map FleetCase.supportedFindings).sum
    unsupportedFindings := (cases.map FleetCase.unsupportedFindings).sum }

end reading

section report

variable (R : ReportSettings)

/-- `prowler_outcome(document) or "NON_PROWLER"`. -/
def reportedOutcome (record : Document) : Except PyError String := do
  let outcome ← prowlerOutcome R.platform record
  return outcome.getD "NON_PROWLER"

/-- `str(document.get("severity") or "Unknown").title()`. -/
def reportedSeverity (record : Document) : String :=
  R.title (R.platform.str (if (record.get "severity").truthy then record.get "severity"
    else .str "Unknown"))

/-- What the report notes of a finding: its rule, the type of its resource, and whether a
control is registered for the rule. -/
structure CountedFinding where
  rule : String
  resourceType : String
  supported : Bool

/-- The loop of the report over the findings of a case. -/
def countedFinding (finding : StoredFinding) : Except PyError CountedFinding := do
  let rule ← fleetRule R.platform finding
  let resourceType ← reportType R.platform finding
  return { rule, resourceType,
           supported := (R.registry.get R.platform finding.provider rule "").isSome }

/-- The findings of the cases of a snapshot, as the report counts them. -/
def countedFindings (stores : Stores) (snapshot : FleetSnapshot) :
    Except PyError (List CountedFinding) := do
  let counted ← snapshot.cases.mapM fun case => do
    let _ ← stores.cases.get case.caseId
    (FindingTable.listForCase stores.findings case.caseId).mapM (countedFinding R)
  return counted.flatten

/-- The batch of the report. -/
def reportBatch (tenantId : String) (records : List Document) : IntakeBatch :=
  { tenantId, documents := records.map Json.obj, identity := "offline-customer-shadow-report" }

/-- The documents of the input. -/
def reportRecords (document : Json) : Except PyError (List Document) := do
  let invalid : PyError :=
    valueError "offline input must contain one or more JSON finding objects"
  let items := match document with
    | .arr items => items
    | other => [other]
  raiseIf (items = []) invalid
  items.mapM fun item => match item with
    | .obj record => .ok record
    | _ => .error invalid

/-- The report, from what the intake returned and the stores it left. -/
def offlineReport (tenantId : String) (records : List Document) (prepared : PreparedIntake)
    (outcomes : List IntakeOutcome) (stores : Stores) : Except PyError OfflineReport := do
  let tenant ← tenantText R.shadow tenantId
  let snapshot ← fleetSnapshot R stores tenant
  let reported ← records.mapM (reportedOutcome R)
  let failures := (records.zip reported).filter fun entry => entry.2 = "FAIL"
  let counted ← countedFindings R stores snapshot
  let covered := snapshot.cases.countP fun case => 0 < case.supportedFindings
  return {
    tenantId
    records := records.length
    intake := {
      submitted := records.length
      acceptedFailures := outcomes.length
      skippedPass := prepared.preview.skippedPass
      skippedManual := prepared.preview.skippedManual
      createdCases := outcomes.countP IntakeOutcome.caseCreated
      duplicates := outcomes.countP IntakeOutcome.duplicate
      outcomeCounts := countsOf reported
      failureSeverityCounts := countsOf (failures.map fun entry => reportedSeverity R entry.1) }
    coverage := {
      supportedFindings := snapshot.supportedFindings
      unsupportedFindings := snapshot.unsupportedFindings
      casesWithSupportedControls := covered
      unsupportedOnlyCases := snapshot.cases.length - covered
      supportedRules := mostCommon ((counted.filter CountedFinding.supported).map
        CountedFinding.rule)
      unsupportedRules := mostCommon ((counted.filter fun finding => !finding.supported).map
        CountedFinding.rule)
      resourceTypes := mostCommon (counted.map CountedFinding.resourceType) }
    topRules := mostCommon (counted.map CountedFinding.rule) }

/-- A report that `generate_offline_report` returns for an input: the intake of its records
into empty stores, then the report on what the intake left. -/
structure Reported (tenantId : String) (document : Json) (records : List Document)
    (prepared : PreparedIntake) (outcomes : List IntakeOutcome) (stores : Stores)
    (report : OfflineReport) : Prop where
  read : reportRecords document = .ok records
  ingested : Runs world (shadowIntake R.shadow (reportBatch tenantId records)) {}
    (.ok (prepared, outcomes)) stores
  reported : offlineReport R tenantId records prepared outcomes stores = .ok report

end report

section counters

/-- The counts of a sorted counter sum to the number of values. -/
theorem countTotal_countsOf (values : List String) : countTotal (countsOf values) =
    values.length := by
  have hperm : ((sortedSet values).map fun value => values.count value).Perm
      (values.dedup.map fun value => values.count value) := by
    apply List.Perm.map
    exact List.perm_insertionSort _ _
  unfold countTotal countsOf
  rw [List.map_map]
  calc ((sortedSet values).map fun value => values.count value).sum
      = (values.dedup.map fun value => values.count value).sum := hperm.sum_eq
    _ = values.length := List.sum_map_count_dedup_eq_length values

end counters

section played

/-- An installation without controls. Its titles are those of texts that are titles already. -/
def bareSettings (registry : CapabilityRegistry) : ReportSettings where
  platform := samplePlatform
  artifactRoot := "/artifacts"
  control _ _ _ := none
  root := "/shadow"
  dumps := samplePlatform.canonical
  title text := text
  registry := registry

/-- What the report was made of, and the report. -/
structure PlayedReport where
  records : List Document
  prepared : PreparedIntake
  outcomes : List IntakeOutcome
  stores : Stores
  report : OfflineReport

/-- The intake of the records in a quiet environment, from empty stores. -/
def playedBatch (R : ReportSettings) (records : List Document) :
    Option (Except PyError (PreparedIntake × List IntakeOutcome) × Stores) :=
  (shadowIntake R.shadow (reportBatch "tenant-1" records)).follow
    (fun n s o => performWith ⟨none, quietReply "2026-07-17T12:00:00Z" n⟩ s o) (fun _ => true) 0 {}

/-- The report on an input in a quiet environment. -/
def playedReport (R : ReportSettings) (document : Json) : Option PlayedReport := do
  let records ← (reportRecords document).toOption
  let played ← playedBatch R records
  let (prepared, outcomes) ← played.1.toOption
  let report ← (offlineReport R "tenant-1" records prepared outcomes played.2).toOption
  return ⟨records, prepared, outcomes, played.2, report⟩

/-- A played report is one that is returned. -/
theorem playedReport_reported {R : ReportSettings} {document : Json} {played : PlayedReport}
    (h : playedReport R document = some played) :
    Reported R "tenant-1" document played.records played.prepared played.outcomes played.stores
      played.report := by
  unfold playedReport at h
  simp only [Option.bind_eq_bind, Option.bind_eq_some_iff] at h
  obtain ⟨records, hrecords, ⟨out, stores⟩, hbatch, ⟨prepared, outcomes⟩, hout, report, hreport,
    h⟩ := h
  obtain rfl := Option.some.inj h
  dsimp only at hout
  obtain rfl := except_of_toOption hout
  refine ⟨except_of_toOption hrecords, ?_, except_of_toOption hreport⟩
  exact Prog.follow_runs (fun n _ _ _ => ⟨⟨none, quietReply "2026-07-17T12:00:00Z" n⟩, rfl⟩) hbatch

end played

end ElCapitan
