import ElCapitan.ControlPacks.Models

/-!
# AWS S3 controls

The evaluators of the pack, over the direct responses of the S3 API.
-/

namespace ElCapitan.AwsS3

variable (L : PackLibrary)

/-- `_ABSENT`. -/
def absentText : String → String
  | "encryption" => "<absent: ServerSideEncryptionConfigurationNotFoundError>"
  | "lifecycle" => "<absent: NoSuchLifecycleConfiguration>"
  | _ => "<absent: ObjectLockConfigurationNotFoundError>"

/-- `_document(values, aspect)`. -/
def document (values : Document) (aspect : String) : Except PyError Document := do
  let value ← require values aspect
  dictOr (valueError ("live S3 state has invalid " ++ aspect ++ " response " ++ L.repr value))
    value

/-- `_document(values, aspect, absent=True)`; `none` stands for a configuration that S3 reports
as absent. -/
def documentOrAbsent (values : Document) (aspect : String) :
    Except PyError (Option Document) := do
  let value ← require values aspect
  if value.str? = some (absentText aspect) then return none
  else do
    let entries ← dictOr
      (valueError ("live S3 state has invalid " ++ aspect ++ " response " ++ L.repr value)) value
    return some entries

/-- `_enum(document, name, allowed)`. -/
def enum (document : Document) (name : String) (allowed : List String) :
    Except PyError String :=
  let invalid : PyError :=
    valueError ("live S3 response has invalid " ++ name ++ " " ++ L.repr (document.get name))
  match document.get name with
  | .str s => if allowed.contains s then .ok s else .error invalid
  | _ => .error invalid

/-- `_enum(document, name, allowed, optional=True)`. -/
def optionalEnum (document : Document) (name : String) (allowed : List String) :
    Except PyError (Option String) :=
  if (document.lookup name).isNone then return none
  else do
    let value ← enum L document name allowed
    return some value

/-- `repr` of an optional text. -/
def reprOption (value : Option String) : String := L.repr ((value.map Json.str).getD .null)

/-- `_object_versioning`. -/
def objectVersioning (values : Document) : Except PyError ControlEvaluation := do
  let value ← document L values "versioning"
  let status ← optionalEnum L value "Status" ["Enabled", "Suspended"]
  return ⟨status ≠ some "Enabled", "bucket versioning status is " ++ reprOption L status⟩

/-- The dictionaries of a non-empty list, else the exception. -/
def dictsOr (e : PyError) (value : Json) : Except PyError (List Document) := do
  let items ← listOr e value
  raiseIf (items = []) e
  items.mapM (dictOr e)

/-- What `_kms_encryption` decides from an encryption configuration. -/
def encryptionAlgorithm (value : Document) : Except PyError ControlEvaluation := do
  let configuration ← dictOr
    (valueError "live S3 encryption response has invalid configuration")
    (value.get "ServerSideEncryptionConfiguration")
  let rules ← dictsOr (valueError "live S3 encryption response has invalid Rules")
    (configuration.get "Rules")
  let default ← dictOr (valueError "live S3 encryption response has invalid default rule")
    (Document.get (rules.headD []) "ApplyServerSideEncryptionByDefault")
  let algorithm ← enum L default "SSEAlgorithm" ["AES256", "aws:kms", "aws:kms:dsse"]
  return ⟨algorithm ∉ ["aws:kms", "aws:kms:dsse"],
    "bucket default encryption algorithm is " ++ L.repr (.str algorithm)⟩

/-- `_kms_encryption`. -/
def kmsEncryption (values : Document) : Except PyError ControlEvaluation := do
  let value ← documentOrAbsent L values "encryption"
  match value with
  | none => return ⟨true, "bucket has no encryption configuration"⟩
  | some value => encryptionAlgorithm L value

/-- The checks of `_server_access_logging` on `LoggingEnabled`. -/
def loggingTarget (logging : Json) : Except PyError Bool :=
  match logging with
  | .null => .ok false
  | .obj entries => do
    let invalid : PyError :=
      valueError "live S3 logging response has invalid target bucket or prefix"
    let _ ← textOr invalid (Document.get entries "TargetBucket")
    raiseIf ((Document.get entries "TargetPrefix").str? = none) invalid
    return true
  | _ => .error (valueError "live S3 logging response has invalid LoggingEnabled")

/-- `_server_access_logging`. -/
def serverAccessLogging (values : Document) : Except PyError ControlEvaluation := do
  let value ← document L values "logging"
  let enabled ← loggingTarget (value.get "LoggingEnabled")
  return ⟨!enabled, if enabled then "bucket server access logging is enabled"
    else "bucket server access logging is disabled"⟩

/-- The check of `_event_notifications` on one key of the response. -/
def notificationList (value : Document) (key : String) : Except PyError Unit :=
  match value.lookup key with
  | none => .ok ()
  | some configurations => do
    let invalid : PyError :=
      valueError ("live S3 notification response has invalid " ++ key)
    let items ← listOr invalid configurations
    raiseIf (∃ item ∈ items, item.obj? = none) invalid

/-- `_event_notifications`. -/
def eventNotifications (values : Document) : Except PyError ControlEvaluation := do
  let value ← document L values "notification"
  notificationList value "TopicConfigurations"
  notificationList value "QueueConfigurations"
  notificationList value "LambdaFunctionConfigurations"
  raiseIf ((value.lookup "EventBridgeConfiguration").any fun bridge => bridge.obj?.isNone)
    (valueError "live S3 notification response has invalid EventBridgeConfiguration")
  let enabled := ["TopicConfigurations", "QueueConfigurations",
    "LambdaFunctionConfigurations", "EventBridgeConfiguration"].any fun key =>
      (value.lookup key).isSome
  return ⟨!enabled, if enabled then "bucket event notifications are enabled"
    else "bucket event notifications are disabled"⟩

/-- The status of one lifecycle rule. -/
def ruleStatus (rule : Document) : Except PyError String := do
  let _ ← textOr (valueError "live S3 lifecycle response has invalid rule ID") (rule.get "ID")
  enum L rule "Status" ["Enabled", "Disabled"]

/-- `_lifecycle_enabled`. -/
def lifecycleEnabled (values : Document) : Except PyError ControlEvaluation := do
  let value ← documentOrAbsent L values "lifecycle"
  match value with
  | none => return ⟨true, "bucket has no lifecycle configuration"⟩
  | some value => do
    let rules ← dictsOr (valueError "live S3 lifecycle response has invalid Rules")
      (value.get "Rules")
    let statuses ← rules.mapM (ruleStatus L)
    let enabled := statuses.contains "Enabled"
    return ⟨!enabled, if enabled then "bucket has an enabled lifecycle rule"
      else "bucket has no enabled lifecycle rule"⟩

/-- `_object_lock`. -/
def objectLock (values : Document) : Except PyError ControlEvaluation := do
  let value ← documentOrAbsent L values "object_lock"
  match value with
  | none => return ⟨true, "bucket Object Lock is disabled"⟩
  | some value => do
    let configuration ← dictOr
      (valueError "live S3 Object Lock response has invalid configuration")
      (value.get "ObjectLockConfiguration")
    let status ← enum L configuration "ObjectLockEnabled" ["Enabled"]
    let enabled := status == "Enabled"
    return ⟨!enabled, if enabled then "bucket Object Lock is enabled"
      else "bucket Object Lock is disabled"⟩

/-- `_mfa_delete`: the status of the versioning is checked with it. -/
def mfaDelete (values : Document) : Except PyError ControlEvaluation := do
  let value ← document L values "versioning"
  let _ ← optionalEnum L value "Status" ["Enabled", "Suspended"]
  let status ← optionalEnum L value "MFADelete" ["Enabled", "Disabled"]
  return ⟨status ≠ some "Enabled", "bucket MFA Delete status is " ++ reprOption L status⟩

/-- `_validation_control`. -/
def validationControl (ruleId aspect : String)
    (evaluator : Document → Except PyError ControlEvaluation) : ControlDefinition where
  packId := "aws-s3"
  provider := "aws"
  ruleId := ruleId
  resourceFamily := "s3_bucket"
  resourceTypes := ["awss3bucket"]
  liveValidation := true
  remediationPlanning := false
  liveExecution := false
  evidenceAspects := [aspect]
  evaluator := evaluator
  evidenceGrade := "contract_tested"

/-- `AWS_S3_PACK`. -/
def pack : ControlPack where
  packId := "aws-s3"
  controls :=
    [{ packId := "aws-s3", provider := "aws", ruleId := "s3_bucket_object_versioning",
       resourceFamily := "s3_bucket", resourceTypes := ["awss3bucket"], liveValidation := true,
       remediationPlanning := true, liveExecution := true, evidenceAspects := ["versioning"],
       evaluator := objectVersioning L, evidenceGrade := "" },
      validationControl "s3_bucket_kms_encryption" "encryption" (kmsEncryption L),
      validationControl "s3_bucket_server_access_logging_enabled" "logging"
        (serverAccessLogging L),
      validationControl "s3_bucket_event_notifications_enabled" "notification"
        (eventNotifications L),
      validationControl "s3_bucket_lifecycle_enabled" "lifecycle" (lifecycleEnabled L),
      validationControl "s3_bucket_object_lock" "object_lock" (objectLock L),
      validationControl "s3_bucket_no_mfa_delete" "versioning" (mfaDelete L)]
  evidenceGrade := "e2e_measured"

section declared

variable {L} {aspects : List String}

/-- Reading a declared document reads declared aspects only. -/
theorem declared_document {aspect : String} (h : aspect ∈ aspects) :
    Declared aspects fun values => document L values aspect := by
  apply declared_judge h
  intro value
  exact raises_dictOr (isValueError_valueError _) value

/-- Reading a declared document that may be absent reads declared aspects only. -/
theorem declared_documentOrAbsent {aspect : String} (h : aspect ∈ aspects) :
    Declared aspects fun values => documentOrAbsent L values aspect := by
  apply declared_judge h
  intro value
  apply raises_ite
  · exact raises_pure _
  · apply raises_bind (raises_dictOr (isValueError_valueError _) value)
    intro entries
    exact raises_pure _

/-- A value outside its enumeration is a value error. -/
theorem raises_enum (document : Document) (name : String) (allowed : List String) :
    Raises IsValueError (enum L document name allowed) := by
  unfold enum
  split
  · apply raises_ite
    · exact raises_ok _
    · exact raises_valueError _
  · exact raises_valueError _

/-- A value outside its optional enumeration is a value error. -/
theorem raises_optionalEnum (document : Document) (name : String) (allowed : List String) :
    Raises IsValueError (optionalEnum L document name allowed) := by
  apply raises_ite
  · exact raises_pure _
  · apply raises_bind (raises_enum document name allowed)
    intro value
    exact raises_pure _

/-- Reading a list of objects raises its own error only. -/
theorem raises_dictsOr {e : PyError} (he : IsValueError e) (value : Json) :
    Raises IsValueError (dictsOr e value) := by
  apply raises_bind (raises_listOr he value)
  intro items
  apply raises_bind (raises_raiseIf he)
  intro _
  apply raises_mapM
  intro item
  exact raises_dictOr he item

/-- The versioning evaluator reads the versioning alone. -/
theorem declared_objectVersioning (h : "versioning" ∈ aspects) :
    Declared aspects (objectVersioning L) := by
  apply confined_bind (declared_document h)
  intro value
  apply confined_const
  apply raises_bind (raises_optionalEnum value "Status" _)
  intro status
  exact raises_pure _

/-- Reading the encryption algorithm raises value errors only. -/
theorem raises_encryptionAlgorithm (value : Document) :
    Raises IsValueError (encryptionAlgorithm L value) := by
  apply raises_bind (raises_dictOr (isValueError_valueError _) _)
  intro configuration
  apply raises_bind (raises_dictsOr (isValueError_valueError _) _)
  intro rules
  apply raises_bind (raises_dictOr (isValueError_valueError _) _)
  intro default
  apply raises_bind (raises_enum default "SSEAlgorithm" _)
  intro algorithm
  exact raises_pure _

/-- The encryption evaluator reads the encryption alone. -/
theorem declared_kmsEncryption (h : "encryption" ∈ aspects) :
    Declared aspects (kmsEncryption L) := by
  apply confined_bind (declared_documentOrAbsent h)
  intro value
  apply confined_const
  cases value with
  | none => exact raises_pure _
  | some value => exact raises_encryptionAlgorithm value

/-- Reading the logging target raises value errors only. -/
theorem raises_loggingTarget (logging : Json) :
    Raises IsValueError (loggingTarget logging) := by
  unfold loggingTarget
  split
  · exact raises_ok _
  · apply raises_bind (raises_textOr (isValueError_valueError _) _)
    intro target
    apply raises_bind (raises_raiseIf (isValueError_valueError _))
    intro _
    exact raises_pure _
  · exact raises_valueError _

/-- The logging evaluator reads the logging alone. -/
theorem declared_serverAccessLogging (h : "logging" ∈ aspects) :
    Declared aspects (serverAccessLogging L) := by
  apply confined_bind (declared_document h)
  intro value
  apply confined_const
  apply raises_bind (raises_loggingTarget _)
  intro enabled
  exact raises_pure _

/-- Reading a list of notifications raises value errors only. -/
theorem raises_notificationList (value : Document) (key : String) :
    Raises IsValueError (notificationList value key) := by
  unfold notificationList
  split
  · exact raises_ok _
  · apply raises_bind (raises_listOr (isValueError_valueError _) _)
    intro items
    exact raises_raiseIf (isValueError_valueError _)

/-- The notification evaluator reads the notification configuration alone. -/
theorem declared_eventNotifications (h : "notification" ∈ aspects) :
    Declared aspects (eventNotifications L) := by
  apply confined_bind (declared_document h)
  intro value
  apply confined_const
  apply raises_bind (raises_notificationList value "TopicConfigurations")
  intro _
  apply raises_bind (raises_notificationList value "QueueConfigurations")
  intro _
  apply raises_bind (raises_notificationList value "LambdaFunctionConfigurations")
  intro _
  apply raises_bind (raises_raiseIf (isValueError_valueError _))
  intro _
  exact raises_pure _

/-- Reading the status of a lifecycle rule raises value errors only. -/
theorem raises_ruleStatus (rule : Document) : Raises IsValueError (ruleStatus L rule) := by
  apply raises_bind (raises_textOr (isValueError_valueError _) _)
  intro identifier
  exact raises_enum rule "Status" _

/-- The lifecycle evaluator reads the lifecycle alone. -/
theorem declared_lifecycleEnabled (h : "lifecycle" ∈ aspects) :
    Declared aspects (lifecycleEnabled L) := by
  apply confined_bind (declared_documentOrAbsent h)
  intro value
  apply confined_const
  cases value with
  | none => exact raises_pure _
  | some value =>
    apply raises_bind (raises_dictsOr (isValueError_valueError _) _)
    intro rules
    apply raises_bind (raises_mapM raises_ruleStatus rules)
    intro statuses
    exact raises_pure _

/-- The object lock evaluator reads the object lock alone. -/
theorem declared_objectLock (h : "object_lock" ∈ aspects) :
    Declared aspects (objectLock L) := by
  apply confined_bind (declared_documentOrAbsent h)
  intro value
  apply confined_const
  cases value with
  | none => exact raises_pure _
  | some value =>
    apply raises_bind (raises_dictOr (isValueError_valueError _) _)
    intro configuration
    apply raises_bind (raises_enum configuration "ObjectLockEnabled" _)
    intro status
    exact raises_pure _

/-- The MFA delete evaluator reads the versioning alone. -/
theorem declared_mfaDelete (h : "versioning" ∈ aspects) : Declared aspects (mfaDelete L) := by
  apply confined_bind (declared_document h)
  intro value
  apply confined_const
  apply raises_bind (raises_optionalEnum value "Status" _)
  intro _
  apply raises_bind (raises_optionalEnum value "MFADelete" _)
  intro status
  exact raises_pure _

/-- Every control of the pack decides from its declared aspects. -/
theorem pack_declared {definition : ControlDefinition} (h : definition ∈ (pack L).registered) :
    Declared definition.evidenceAspects definition.evaluator := by
  apply registered_declared _ h
  intro given hgiven
  simp only [pack, List.mem_cons, List.not_mem_nil, or_false] at hgiven
  obtain rfl | rfl | rfl | rfl | rfl | rfl | rfl := hgiven
  · exact declared_objectVersioning List.mem_cons_self
  · exact declared_kmsEncryption List.mem_cons_self
  · exact declared_serverAccessLogging List.mem_cons_self
  · exact declared_eventNotifications List.mem_cons_self
  · exact declared_lifecycleEnabled List.mem_cons_self
  · exact declared_objectLock List.mem_cons_self
  · exact declared_mfaDelete List.mem_cons_self

end declared

end ElCapitan.AwsS3
