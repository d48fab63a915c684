import ElCapitan.ControlPacks.Models
import ElCapitan.Services.Reviews

/-!
# AWS RDS instance controls

The evaluators of the pack, over the reduced description of one database instance.
-/

namespace ElCapitan.AwsRds

variable (L : PackLibrary)

/-- `_AURORA_ENGINES`. -/
def auroraEngines : List String := ["aurora", "aurora-mysql", "aurora-postgresql"]

/-- `_IAM_ENGINE_TOKENS`. -/
def iamEngineTokens : List String :=
  ["postgres", "aurora-postgresql", "mysql", "mariadb", "aurora-mysql", "aurora"]

/-- `_bool`. -/
def bool (values : Document) (aspect : String) : Except PyError Bool :=
  requireBool L "RDS" values aspect

/-- `_engine`. -/
def engine (values : Document) : Except PyError String := do
  let value ← require values "rds_engine"
  textOr (valueError ("live RDS state has invalid engine " ++ L.repr value)) value

/-- The retention period of the automated backups. -/
def retentionPeriod (values : Document) : Except PyError ℤ := do
  let value ← require values "rds_backup_retention_period"
  let invalid : PyError :=
    valueError ("live RDS state has invalid backup retention period " ++ L.repr value)
  let retention ← intOr invalid value
  raiseIf (retention < 0) invalid
  return retention

/-- `_backup`. -/
def backup (values : Document) : Except PyError ControlEvaluation := do
  let replica ← bool L values "rds_read_replica_source_present"
  let retention ← retentionPeriod L values
  if replica then
    return ⟨false, "read replica is excluded by Prowler's default RDS audit scope"⟩
  else
    return ⟨decide (retention ≤ 0),
      "RDS automated backup retention is " ++ toString retention ++ " day(s)"⟩

/-- `_copy_tags`. -/
def copyTags (values : Document) : Except PyError ControlEvaluation := do
  let engine ← engine L values
  let enabled ← bool L values "rds_copy_tags_to_snapshot"
  if engine ∈ auroraEngines then
    return ⟨false, "copy-tags control is not emitted for Aurora engine " ++
      L.repr (.str engine)⟩
  else
    return ⟨!enabled, "copy tags to DB snapshots is " ++
      if enabled then "enabled" else "disabled"⟩

/-- A control that fails when one boolean aspect is false. -/
def flag (aspect : String) (reason : Bool → String) (values : Document) :
    Except PyError ControlEvaluation := do
  let enabled ← bool L values aspect
  return ⟨!enabled, reason enabled⟩

/-- `_enhanced_monitoring`. -/
def enhancedMonitoring : Document → Except PyError ControlEvaluation :=
  flag L "rds_enhanced_monitoring_enabled" fun enabled =>
    "RDS enhanced monitoring is " ++ if enabled then "enabled" else "disabled"

/-- `_iam_authentication`. -/
def iamAuthentication (values : Document) : Except PyError ControlEvaluation := do
  let engine ← engine L values
  let enabled ← bool L values "rds_iam_database_authentication_enabled"
  if iamEngineTokens.any fun token => containsText token.toList engine.toList then
    return ⟨!enabled, if enabled then "RDS IAM database authentication is enabled"
      else "RDS IAM database authentication is disabled"⟩
  else
    return ⟨false, "IAM database authentication control is not emitted for " ++
      L.repr (.str engine)⟩

/-- `_inside_vpc`. -/
def insideVpc : Document → Except PyError ControlEvaluation :=
  flag L "rds_in_vpc" fun enabled =>
    "RDS instance is " ++ if enabled then "inside a VPC" else "not inside a VPC"

/-- The log exports of an instance. -/
def logExports (values : Document) : Except PyError (List String) := do
  let value ← require values "rds_enabled_cloudwatch_logs_exports"
  let invalid : PyError :=
    valueError ("live RDS state has invalid CloudWatch log exports " ++ L.repr value)
  let items ← listOr invalid value
  let exports ← items.mapM (textOr invalid)
  raiseIf (¬exports.Nodup) invalid
  return exports

/-- `_cloudwatch_logs`. -/
def cloudwatchLogs (values : Document) : Except PyError ControlEvaluation := do
  let exports ← logExports L values
  return ⟨exports.isEmpty, if exports.isEmpty then
    "RDS exports no database logs to CloudWatch Logs"
    else "RDS exports " ++ ", ".intercalate exports ++ " to CloudWatch Logs"⟩

/-- `_minor_version_upgrade`. -/
def minorVersionUpgrade : Document → Except PyError ControlEvaluation :=
  flag L "rds_auto_minor_version_upgrade" fun enabled =>
    "automatic minor version upgrades are " ++ if enabled then "enabled" else "disabled"

/-- `_storage_encrypted`. -/
def storageEncrypted : Document → Except PyError ControlEvaluation :=
  flag L "rds_storage_encrypted" fun enabled =>
    "RDS storage encryption is " ++ if enabled then "enabled" else "disabled"

/-- `_control`. -/
def control (ruleId : String) (aspects : List String)
    (evaluator : Document → Except PyError ControlEvaluation) : ControlDefinition where
  packId := "aws-rds"
  provider := "aws"
  ruleId := ruleId
  resourceFamily := "rds_db_instance"
  resourceTypes := ["awsrdsdbinstance"]
  liveValidation := true
  remediationPlanning := false
  liveExecution := false
  evidenceAspects := aspects
  evaluator := evaluator
  evidenceGrade := "contract_tested"

/-- `AWS_RDS_PACK`. -/
def pack : ControlPack where
  packId := "aws-rds"
  controls :=
    [control "rds_instance_backup_enabled"
        ["rds_backup_retention_period", "rds_read_replica_source_present"] (backup L),
      control "rds_instance_copy_tags_to_snapshots" ["rds_engine", "rds_copy_tags_to_snapshot"]
        (copyTags L),
      control "rds_instance_enhanced_monitoring_enabled" ["rds_enhanced_monitoring_enabled"]
        (enhancedMonitoring L),
      control "rds_instance_iam_authentication_enabled"
        ["rds_engine", "rds_iam_database_authentication_enabled"] (iamAuthentication L),
      control "rds_instance_inside_vpc" ["rds_in_vpc"] (insideVpc L),
      control "rds_instance_integration_cloudwatch_logs" ["rds_enabled_cloudwatch_logs_exports"]
        (cloudwatchLogs L),
      control "rds_instance_minor_version_upgrade_enabled" ["rds_auto_minor_version_upgrade"]
        (minorVersionUpgrade L),
      control "rds_instance_storage_encrypted" ["rds_storage_encrypted"] (storageEncrypted L)]
  evidenceGrade := "contract_tested"

section declared

variable {L} {aspects : List String}

/-- Reading a declared boolean reads declared aspects only. -/
theorem declared_bool {aspect : String} (h : aspect ∈ aspects) :
    Declared aspects fun values => bool L values aspect :=
  declared_requireBool h

/-- Reading the engine reads the engine alone. -/
theorem declared_engine (h : "rds_engine" ∈ aspects) : Declared aspects (engine L) := by
  apply declared_judge h
  intro value
  exact raises_textOr (isValueError_valueError _) value

/-- Reading the retention period reads the period alone. -/
theorem declared_retentionPeriod (h : "rds_backup_retention_period" ∈ aspects) :
    Declared aspects (retentionPeriod L) := by
  apply declared_judge h
  intro value
  apply raises_bind (raises_intOr (isValueError_valueError _) value)
  intro retention
  apply raises_bind (raises_raiseIf (isValueError_valueError _))
  intro _
  exact raises_pure _

/-- The backup evaluator reads the retention period and whether the instance is a replica. -/
theorem declared_backup (hretention : "rds_backup_retention_period" ∈ aspects)
    (hreplica : "rds_read_replica_source_present" ∈ aspects) :
    Declared aspects (backup L) := by
  apply confined_bind (declared_bool hreplica)
  intro replica
  apply confined_bind (declared_retentionPeriod hretention)
  intro retention
  apply confined_ite
  · exact confined_const (raises_pure _)
  · exact confined_const (raises_pure _)

/-- The tag evaluator reads the engine and its flag. -/
theorem declared_copyTags (hengine : "rds_engine" ∈ aspects)
    (htags : "rds_copy_tags_to_snapshot" ∈ aspects) : Declared aspects (copyTags L) := by
  apply confined_bind (declared_engine hengine)
  intro engine
  apply confined_bind (declared_bool htags)
  intro enabled
  apply confined_ite
  · exact confined_const (raises_pure _)
  · exact confined_const (raises_pure _)

/-- An evaluator of a flag reads the flag alone. -/
theorem declared_flag {aspect : String} (reason : Bool → String) (h : aspect ∈ aspects) :
    Declared aspects (flag L aspect reason) := by
  apply confined_bind (declared_bool h)
  intro enabled
  exact confined_const (raises_pure _)

/-- The IAM evaluator reads the engine and its flag. -/
theorem declared_iamAuthentication (hengine : "rds_engine" ∈ aspects)
    (hiam : "rds_iam_database_authentication_enabled" ∈ aspects) :
    Declared aspects (iamAuthentication L) := by
  apply confined_bind (declared_engine hengine)
  intro engine
  apply confined_bind (declared_bool hiam)
  intro enabled
  apply confined_ite
  · exact confined_const (raises_pure _)
  · exact confined_const (raises_pure _)

/-- Reading the exported logs reads these alone. -/
theorem declared_logExports (h : "rds_enabled_cloudwatch_logs_exports" ∈ aspects) :
    Declared aspects (logExports L) := by
  apply declared_judge h
  intro value
  apply raises_bind (raises_listOr (isValueError_valueError _) value)
  intro items
  apply raises_bind (raises_mapM (fun item => raises_textOr (isValueError_valueError _) item) _)
  intro exports
  apply raises_bind (raises_raiseIf (isValueError_valueError _))
  intro _
  exact raises_pure _

/-- The log evaluator reads the exported logs alone. -/
theorem declared_cloudwatchLogs (h : "rds_enabled_cloudwatch_logs_exports" ∈ aspects) :
    Declared aspects (cloudwatchLogs L) := by
  apply confined_bind (declared_logExports h)
  intro exports
  exact confined_const (raises_pure _)

/-- Every control of the pack decides from its declared aspects. -/
theorem pack_declared {definition : ControlDefinition} (h : definition ∈ (pack L).registered) :
    Declared definition.evidenceAspects definition.evaluator := by
  apply registered_declared _ h
  intro given hgiven
  simp only [pack, List.mem_cons, List.not_mem_nil, or_false] at hgiven
  obtain rfl | rfl | rfl | rfl | rfl | rfl | rfl | rfl := hgiven
  · apply declared_backup <;> simp [control]
  · apply declared_copyTags <;> simp [control]
  · exact declared_flag _ List.mem_cons_self
  · apply declared_iamAuthentication <;> simp [control]
  · exact declared_flag _ List.mem_cons_self
  · exact declared_cloudwatchLogs List.mem_cons_self
  · exact declared_flag _ List.mem_cons_self
  · exact declared_flag _ List.mem_cons_self

end declared

end ElCapitan.AwsRds
