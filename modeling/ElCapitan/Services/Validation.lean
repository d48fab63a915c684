import ElCapitan.Findings.Ocsf
import ElCapitan.Services.Approval

/-!
# Live validation

`CaseValidationService.validate`: the findings of a prioritized case are checked
against the live state of their resources, and the case moves on by what the
checks say.
-/

namespace ElCapitan

open Effects

/-- `FindingValidationStatus`. -/
inductive FindingValidationStatus where
  | confirmed
  | notConfirmed
  | unsupported
  | unavailable
  deriving DecidableEq, Repr

/-- The stored text of a validation status. -/
def FindingValidationStatus.value : FindingValidationStatus → String
  | .confirmed => "confirmed"
  | .notConfirmed => "not_confirmed"
  | .unsupported => "unsupported"
  | .unavailable => "unavailable"

/-- `FindingValidation`. -/
structure FindingValidation where
  findingId : String
  ruleId : String
  status : FindingValidationStatus
  reason : String
  evidenceIds : List String := []

/-- `FindingValidation.to_dict`. -/
def FindingValidation.toDict (result : FindingValidation) : Json :=
  .obj [("finding_id", .str result.findingId), ("rule_id", .str result.ruleId),
    ("status", .str result.status.value), ("reason", .str result.reason),
    ("evidence_ids", .ofStrings result.evidenceIds)]

/-- `CaseValidationOutcome`. -/
structure CaseValidationOutcome where
  case : RemediationCase
  record : ProductRecord
  findings : List FindingValidation

/-- `record["ocsf"]`. -/
def StoredFinding.ocsf (finding : StoredFinding) : Except PyError Document :=
  match finding.record.lookup "ocsf" with
  | some value => asDict value
  | none => .error (keyError "'ocsf'")

/-- `record["ocsf"].get("rule_id", "")`. -/
def StoredFinding.ruleId (P : Platform) (finding : StoredFinding) : Except PyError String := do
  let ocsf ← finding.ocsf
  return P.str (ocsf.getText "rule_id")

/-- `str(record.get("resource", {}).get("type", ""))`. -/
def StoredFinding.resourceType (P : Platform) (finding : StoredFinding) :
    Except PyError String := do
  let resource ← sectionDefault finding.record "resource"
  return P.str (resource.getText "type")

/-- `_value`: a captured aspect, parsed when it is JSON. -/
def aspectValue (P : Platform) (state : CloudState) (aspect : String) : Except PyError Json :=
  match state.config.reverse.lookup aspect with
  | none => .error (valueError ("live cloud state did not capture " ++ aspect))
  | some raw => .ok ((P.jsonLoads raw).getD (.str raw))

/-- `evaluate_finding`. -/
def evaluateFinding (S : Settings) (finding : StoredFinding) (state : CloudState)
    (evidenceIds : List String) : Except PyError FindingValidation := do
  let ruleId ← finding.ruleId S.platform
  let resourceType ← finding.resourceType S.platform
  match S.control finding.provider ruleId resourceType with
  | none => return {
      findingId := finding.findingId, ruleId, status := .unsupported,
      reason := "no deterministic live evaluator is registered for provider '" ++
        finding.provider ++ "', rule '" ++ ruleId ++ "', and resource type '" ++
        resourceType ++ "'" }
  | some definition => do
    let values ← state.config.mapM fun entry => do
      let value ← aspectValue S.platform state entry.1
      return (entry.1, value)
    let (confirmed, reason) ← definition.evaluate values
    return { findingId := finding.findingId, ruleId,
             status := if confirmed then .confirmed else .notConfirmed, reason, evidenceIds }

/-- What is known of a resource once its live state was read, or was not. -/
structure Capture where
  state : Option CloudState
  evidenceIds : List String
  error : String

/-- The result of a finding under the capture of its resource. -/
def judgeFinding (S : Settings) (finding : StoredFinding) (capture : Capture) :
    Except PyError FindingValidation :=
  let unavailable (reason : String) : Except PyError FindingValidation := do
    let ruleId ← finding.ruleId S.platform
    return { findingId := finding.findingId, ruleId, status := .unavailable, reason,
             evidenceIds := capture.evidenceIds }
  match capture.state with
  | none => unavailable capture.error
  | some state =>
    match evaluateFinding S finding state capture.evidenceIds with
    | .ok result => .ok result
    | .error e => if e.kind.isValueError then unavailable e.message else .error e

/-- The collector of live validation. -/
def validationCollector : Collector :=
  ⟨"elcapitan-live-validator", "0.1.0", "read-only-scanner"⟩

/-- Read the live state of a finding's resource and keep it as evidence. -/
def captureState (S : Settings) (runDir now : String) (hostEnv : List (String × String))
    (finding : StoredFinding) : Service (Capture × EvidenceRef) := do
  let evidenceId ← perform (.newId "EVD")
  let commandId ← perform (.newId "CMD")
  Prog.handle
    (do let state ← perform (.readLive finding hostEnv)
        .raiseIf (state.provider ≠ finding.provider ∨ state.resourceUid ≠ finding.resourceUid)
          (valueError ("live reader returned state for a different resource: expected " ++
            finding.provider ++ ":" ++ finding.resourceUid ++ ", got " ++ state.provider ++
            ":" ++ state.resourceUid))
        let ref ← writeEvidence S.platform runDir evidenceId "live_cloud_configuration"
          (S.platform.canonical state.toDict) validationCollector "internal" commandId now
        return (⟨some state, [ref.evidenceId], ""⟩, ref))
    fun e =>
      if e.kind = .osError ∨ e.kind.isValueError = true then do
        let ref ← writeEvidence S.platform runDir evidenceId "live_validation_error" e.message
          validationCollector "restricted" commandId now
        return (⟨none, [ref.evidenceId], e.message⟩, ref)
      else .raise e

/-- The captures of the resources read so far. -/
abbrev Captures := List ((String × String) × Capture)

/-- The capture of a finding's resource, read at most once in a validation. -/
def captureOnce (S : Settings) (runDir now : String) (hostEnv : List (String × String))
    (captured : Captures) (finding : StoredFinding) : Service (Capture × List EvidenceRef) := do
  match captured.lookup (finding.provider, finding.resourceUid) with
  | some capture => return (capture, [])
  | none => do
    let (capture, ref) ← captureState S runDir now hostEnv finding
    return (capture, [ref])

/-- The loop of `validate` over the findings of the case. -/
def validateFindings (S : Settings) (runDir now : String) (hostEnv : List (String × String))
    (captured : Captures) :
    List StoredFinding → Service (List FindingValidation × List EvidenceRef)
  | [] => return ([], [])
  | finding :: rest => do
    let (capture, refs) ← captureOnce S runDir now hostEnv captured finding
    let result ← .ofExcept (judgeFinding S finding capture)
    let (results, others) ← validateFindings S runDir now hostEnv
      (((finding.provider, finding.resourceUid), capture) :: captured) rest
    return (result :: results, refs ++ others)

/-- The transition that the results of a validation call for, with its detail. -/
def validationDecision (results : List FindingValidation) : CaseTransition × String :=
  let incomplete := results.filter fun result =>
    result.status ∈ [FindingValidationStatus.unavailable, .unsupported]
  let confirmed := results.filter fun result => result.status = .confirmed
  if confirmed ≠ [] then
    (.validate, toString confirmed.length ++ " finding(s) confirmed; " ++
      toString incomplete.length ++ " finding(s) unavailable or unsupported")
  else if incomplete ≠ [] then
    (.block, "; ".intercalate (incomplete.map FindingValidation.reason))
  else (.closeNoAction, "live state no longer confirms any finding")

/-- `CaseValidationService.validate`. -/
def validate (S : Settings) (caseId : String) (hostEnv : List (String × String)) :
    Service CaseValidationOutcome := do
  let case ← perform (.getCase caseId)
  .raiseIf (case.state ≠ .prioritized) (valueError ("case " ++ caseId ++
    " must be prioritized before validation; current state is " ++ case.state.value))
  let findings ← perform (.listForCase caseId)
  .raiseIf (findings.isEmpty = true) (valueError ("case " ++ caseId ++
    " has no persisted findings"))
  let validationId ← perform (.newId "VAL")
  let now ← perform .now
  let namespaceOf := "cases/" ++ caseId ++ "/validation/" ++ validationId
  let (results, refs) ← validateFindings S (S.artifactRoot ++ "/" ++ namespaceOf) now hostEnv []
    findings
  let allEvidence := fromKeys (results.flatMap FindingValidation.evidenceIds)
  let record ← .ofExcept (ProductRecord.create validationId caseId "ValidationResult.v1" 1 now
    [("validation_id", .str validationId), ("case_id", .str caseId),
      ("findings", .arr (results.map FindingValidation.toDict)),
      ("artifact_namespace", .str namespaceOf),
      ("evidence", .arr (refs.map fun ref => .obj ref.toDict))] allEvidence)
  perform (.putRecord record)
  let eventId ← perform (.newId "EVT")
  let (transition, detail) := validationDecision results
  let case ← advance caseId transition
    { eventId, occurredAt := now, actor := "live-validator",
      recordIds := recordIdsOf [("validation_result_id", validationId)],
      evidenceIds := allEvidence, detail }
  return { case, record, findings := results }

end ElCapitan
