import ElCapitan.Findings.AssetContext
import ElCapitan.Findings.Asff

/-!
# Batches of findings

`ShadowFleetControlPlane.intake`: a batch is prepared as a whole, which skips the records of
checks that did not fail and rejects the batch for any record it cannot use, and then the
accepted records are ingested one by one.
-/

namespace ElCapitan

open Effects

/-- `ShadowControlError`. -/
def shadowControlError (message : String) : PyError := ⟨.shadowControlError, message⟩

/-- `MAX_FINDINGS_PER_BATCH`. -/
def maxFindingsPerBatch : ℕ := 1000

/-- `SUPPORTED_SHADOW_PROVIDERS`. -/
def supportedShadowProviders : List String := ["aws", "azure"]

/-- An installation of the shadow control plane. -/
structure ShadowSettings extends Settings where
  root : String
  /-- `json.dumps` with sorted keys. -/
  dumps : Json → String
  /-- A registered control for this provider, rule and resource type validates live. -/
  supportsLive : String → String → String → Bool

/-- The arguments of `intake`. -/
structure IntakeBatch where
  tenantId : String
  documents : List Json
  context : IntakeContext := {}
  identity : String := "shadow-intake"
  assetContexts : Option (List Json) := none

/-- `_PreparedFinding`. -/
structure PreparedFinding where
  document : Document
  context : IntakeContext
  assetContext : Option AssetContext

/-- What the preparation notes of an accepted record. -/
structure AcceptedFinding where
  entry : PreparedFinding
  provider : String
  account : String
  resourceUid : String
  ruleId : String
  supported : Bool

/-- What becomes of a record: it is skipped for its outcome, or accepted. -/
inductive Classified where
  | skipped (outcome : String)
  | accepted (finding : AcceptedFinding)

/-- The accepted finding of a record. -/
def Classified.finding? : Classified → Option AcceptedFinding
  | .skipped _ => none
  | .accepted finding => some finding

/-- `IntakeBatchPreview`. -/
structure IntakeBatchPreview where
  submitted : ℕ
  acceptedFailures : ℕ
  skippedPass : ℕ
  skippedManual : ℕ
  providerCounts : List (String × ℕ)
  formatCounts : List (String × ℕ)
  resourceCount : ℕ
  accountCount : ℕ
  supportedFindings : ℕ
  unsupportedFindings : ℕ
  supportedControls : List String
  unsupportedControls : List String
  assetContextRows : ℕ
  matchedAssetRows : ℕ
  unmatchedAssetRows : ℕ
  matchedResources : ℕ
  unmatchedResources : ℕ
  contextualizedFindings : ℕ
  internetExposedResources : ℕ
  criticalResources : ℕ
  syntheticContextResources : ℕ

/-- `_PreparedIntake`. -/
structure PreparedIntake where
  entries : List PreparedFinding
  preview : IntakeBatchPreview

/-- A `ValueError` becomes an error of the batch. -/
def wrapValueError {α : Type} (label : String) (x : Except PyError α) : Except PyError α :=
  match x with
  | .ok a => .ok a
  | .error e =>
    if e.kind.isValueError then .error (shadowControlError (label ++ e.message)) else .error e

/-- The text that keys a resource; other values cannot be compared as resources. -/
def resourceText (resourceUid : Json) : Except PyError String :=
  match resourceUid with
  | .str text => .ok text
  | .arr _ | .obj _ => .error ⟨.typeError, "unhashable type: '" ++ resourceUid.className ++ "'"⟩
  | other => .error ⟨.attributeError,
      "'" ++ other.className ++ "' object has no attribute 'strip'"⟩

section preparation

variable (C : ShadowSettings)

/-- `_tenant`. -/
def tenantText (tenantId : String) : Except PyError String :=
  let value := C.platform.strip tenantId
  if value = "" ∨ 100 < value.length then
    .error (shadowControlError "tenant_id must be 1 to 100 characters")
  else .ok value

/-- `_validate_context`. -/
def validateContext (context : IntakeContext) : Except PyError Unit :=
  raiseIf (100 < context.serviceIds.length ∨ context.serviceIds.any fun item =>
      decide (C.platform.strip item = "") || decide (200 < item.length))
    (shadowControlError "context.service_ids must contain at most 100 non-empty strings")

/-- The record of a finding as an OCSF document. -/
def ocsfDocument (document : Document) : Except PyError Document :=
  if isAsff document then asffToOcsf C.platform C.dumps document else .ok document

/-- A record of a batch, as a mapping. -/
def recordOf (label : String) (raw : Json) : Except PyError Document :=
  match raw.obj? with
  | some record => .ok record
  | none => .error (shadowControlError (label ++ " is not a JSON object"))

/-- One turn of the loop of `_prepare_intake`. -/
def classifyFinding (context : IntakeContext) (assets : List (String × AssetContext))
    (index : ℕ) (raw : Json) : Except PyError Classified := do
  let label := "finding " ++ toString (index + 1)
  let record ← recordOf label raw
  let document ← ocsfDocument C record
  let (provider, resourceUid, _) ← cloudTarget C.platform document
  raiseIf (provider ∉ supportedShadowProviders) (shadowControlError (label ++
    " uses unsupported provider '" ++ provider ++
    "'; the entire batch was rejected before ingestion"))
  raiseIf (resourceUid.truthy = false)
    (shadowControlError (label ++ " does not identify a cloud resource"))
  let outcome ← wrapValueError (label ++ ": ") (prowlerOutcome C.platform document)
  let (_, account, _) ← wrapValueError (label ++ ": ") (sourceIdentity C.platform document)
  if outcome = some "PASS" ∨ outcome = some "MANUAL" then return .skipped (outcome.getD "")
  else
    let first ← primaryResource document
    let resourceType := (first.obj?.map fun primary =>
      C.platform.str (primary.getText "type")).getD ""
    let ruleId ← findingRuleId C.platform document
    let resourceUid ← resourceText resourceUid
    let asset := assets.lookup (assetKey C.platform resourceUid)
    return .accepted {
      entry := ⟨document, (asset.map fun asset => asset.intakeContext context).getD context, asset⟩
      provider
      account
      resourceUid
      ruleId
      supported := C.supportsLive provider ruleId resourceType }

/-- The loop of `_prepare_intake`, from this index on. -/
def classifyFrom (context : IntakeContext) (assets : List (String × AssetContext)) (index : ℕ) :
    List Json → Except PyError (List Classified)
  | [] => .ok []
  | raw :: rest => do
    let classified ← classifyFinding C context assets index raw
    let others ← classifyFrom context assets (index + 1) rest
    return classified :: others

/-- `dict(sorted(Counter(values).items()))`. -/
def countsOf (values : List String) : List (String × ℕ) :=
  (sortedSet values).map fun value => (value, values.count value)

/-- The name of a record's format. -/
def sourceFormat (raw : Json) : String :=
  if isAsff (raw.obj?.getD []) then "AWS Security Hub ASFF" else "OCSF"

/-- The preview of a classified batch. -/
def previewOf (assets : List (String × AssetContext)) (documents : List Json)
    (classified : List Classified) : IntakeBatchPreview :=
  let accepted := classified.filterMap Classified.finding?
  let skipped := fun outcome => classified.countP fun c => match c with
    | .skipped o => o = outcome
    | .accepted _ => false
  let resourceKeys := (accepted.map fun finding => assetKey C.platform finding.resourceUid).dedup
  let matched := assets.filter fun asset => asset.1 ∈ resourceKeys
  let unsupported := accepted.filter fun finding => !finding.supported
  { submitted := documents.length
    acceptedFailures := accepted.length
    skippedPass := skipped "PASS"
    skippedManual := skipped "MANUAL"
    providerCounts := countsOf (accepted.map AcceptedFinding.provider)
    formatCounts := countsOf (documents.map sourceFormat)
    resourceCount := (accepted.map fun f => (f.provider, f.account, f.resourceUid)).dedup.length
    accountCount := (accepted.map fun f => (f.provider, f.account)).dedup.length
    supportedFindings := accepted.countP AcceptedFinding.supported
    unsupportedFindings := unsupported.length
    supportedControls := sortedSet
      ((accepted.filter AcceptedFinding.supported).map AcceptedFinding.ruleId)
    unsupportedControls := sortedSet (unsupported.map fun finding =>
      if finding.ruleId = "" then "Unidentified control" else finding.ruleId)
    assetContextRows := assets.length
    matchedAssetRows := matched.length
    unmatchedAssetRows := assets.length - matched.length
    matchedResources := matched.length
    unmatchedResources := resourceKeys.length - matched.length
    contextualizedFindings := accepted.countP fun f => f.entry.assetContext.isSome
    internetExposedResources := matched.countP fun asset => asset.2.internetExposed = some true
    criticalResources := matched.countP fun asset => (4 : ℚ) / 5 ≤ asset.2.assetCriticality
    syntheticContextResources := matched.countP fun asset => asset.2.syntheticBusinessContext }

/-- `_prepare_intake` up to the preflight: what becomes of each record of the batch. -/
def classifyBatch (batch : IntakeBatch) :
    Except PyError (List (String × AssetContext) × List Classified) := do
  validateContext C batch.context
  let assets ← wrapValueError "" (parseAssetContexts C.platform batch.assetContexts)
  raiseIf (batch.documents = [] ∨ maxFindingsPerBatch < batch.documents.length)
    (shadowControlError
      ("a batch must contain 1 to " ++ toString maxFindingsPerBatch ++ " findings"))
  let classified ← classifyFrom C batch.context assets 0 batch.documents
  return (assets, classified)

/-- The collector of the shadow control plane. -/
def shadowCollector (identity : String) : Collector :=
  ⟨"elcapitan-shadow-intake", "0.1.0", identity⟩

/-- Normalize and check a record in a disposable directory. -/
def preflightFinding (batch : IntakeBatch) (temporary : String) (index : ℕ)
    (entry : PreparedFinding) : Service Unit :=
  Prog.handle
    (do let now ← perform .now
        let record ← normaliseOcsf C.platform entry.document (temporary ++ "/" ++ toString index)
          ("FIND-" ++ toString (index + 1000)) (shadowCollector batch.identity) now
        let failures := C.platform.schemaFileErrors "finding-record" (.obj record)
        .raiseIf (failures ≠ []) (valueError ("; ".intercalate failures))
        let _ ← .ofExcept (prioritySignals C.platform record entry.context)
        return ())
    fun e =>
      if e.kind = .osError ∨ e.kind = .typeError ∨ e.kind.isValueError = true then
        .raise (shadowControlError
          ("finding " ++ toString (index + 1) ++ " failed intake preflight: " ++ e.message))
      else .raise e

/-- The preflight of the accepted records, from this index on. -/
def preflightFrom (batch : IntakeBatch) (temporary : String) (index : ℕ) :
    List PreparedFinding → Service Unit
  | [] => return ()
  | entry :: rest => do
    preflightFinding C batch temporary index entry
    preflightFrom batch temporary (index + 1) rest

/-- `_prepare_intake`. -/
def prepareIntake (batch : IntakeBatch) : Service PreparedIntake := do
  let (assets, classified) ← .ofExcept (classifyBatch C batch)
  let entries := (classified.filterMap Classified.finding?).map AcceptedFinding.entry
  let name ← perform (.newId ".intake-preflight")
  let temporary := C.root ++ "/" ++ name
  perform (.makeDirectory temporary false)
  Prog.handle (preflightFrom C batch temporary 0 entries) fun e => do
    perform (.removeTree temporary)
    .raise e
  perform (.removeTree temporary)
  return ⟨entries, previewOf C assets batch.documents classified⟩

/-- Ingest the accepted records. -/
def ingestAll (batch : IntakeBatch) (tenantId : String) :
    List PreparedFinding → Service (List IntakeOutcome)
  | [] => return []
  | entry :: rest => do
    let outcome ← ingest C.toSettings {
      raw := entry.document
      tenantId
      context := entry.context
      assetContext := entry.assetContext.map AssetContext.toDict
      collector := shadowCollector batch.identity }
    let outcomes ← ingestAll batch tenantId rest
    return outcome :: outcomes

/-- `ShadowFleetControlPlane.intake`, up to the snapshot of the fleet that it returns. -/
def shadowIntake (batch : IntakeBatch) : Service (PreparedIntake × List IntakeOutcome) := do
  let tenantId ← .ofExcept (tenantText C batch.tenantId)
  .raiseIf (C.platform.strip batch.identity = "" ∨ 200 < batch.identity.length)
    (shadowControlError "intake identity must be 1 to 200 characters")
  let prepared ← prepareIntake C batch
  let outcomes ← ingestAll C batch tenantId prepared.entries
  return (prepared, outcomes)

end preparation

end ElCapitan
