import ElCapitan.ControlPacks.Models
import ElCapitan.Services.Reviews

/-!
# Azure Storage controls

The evaluators of the pack, over the captured properties of one storage account.
-/

namespace ElCapitan.AzureStorage

variable (L : PackLibrary)

/-- `_public_network_access`. -/
def publicNetworkAccess (values : Document) : Except PyError ControlEvaluation := do
  let value ← require values "public_network_access"
  return ⟨L.platform.lower (L.platform.str value) ≠ "disabled",
    "public network access is " ++ L.repr value⟩

/-- `_blob_public_access`. -/
def blobPublicAccess (values : Document) : Except PyError ControlEvaluation := do
  let value ← require values "allow_blob_public_access"
  return ⟨!value.isFalse, "allow blob public access is " ++ L.repr value⟩

/-- `_blob_versioning`. -/
def blobVersioning (values : Document) : Except PyError ControlEvaluation := do
  let value ← require values "blob_versioning"
  return ⟨!value.isTrue, "blob versioning is " ++ L.repr value⟩

/-- `_object`. -/
def object (values : Document) (aspect : String) : Except PyError Document := do
  let value ← require values aspect
  dictOr (invalidAspect L "storage" aspect value) value

/-- `_optional_boolean`. -/
def optionalBoolean (values : Document) (aspect : String) : Except PyError (Option Bool) :=
  requireOptionalBool L "storage" values aspect

/-- `_customer_managed_key`. -/
def customerManagedKey (values : Document) : Except PyError ControlEvaluation := do
  let encryption ← object L values "encryption"
  let keySource ← textOr (valueError "live storage encryption has no keySource")
    (encryption.get "keySource")
  let usesCmk := keySource == "Microsoft.Keyvault"
  return ⟨!usesCmk, if usesCmk then "storage encryption uses a customer-managed key"
    else "storage encryption key source is " ++ L.repr (.str keySource)⟩

/-- `_geo_redundant`. -/
def geoRedundant (values : Document) : Except PyError ControlEvaluation := do
  let sku ← object L values "sku"
  let name ← textOr (valueError "live storage SKU has no name") (sku.get "name")
  let enabled :=
    ["Standard_GRS", "Standard_GZRS", "Standard_RAGRS", "Standard_RAGZRS"].contains name
  return ⟨!enabled, "storage replication SKU " ++ L.repr (.str name) ++
    if enabled then " is geo-redundant" else " is not geo-redundant"⟩

/-- `_infrastructure_encryption`. -/
def infrastructureEncryption (values : Document) : Except PyError ControlEvaluation := do
  let encryption ← object L values "encryption"
  let enabled ← optionalBoolOr
    (valueError "live storage encryption has invalid requireInfrastructureEncryption")
    (encryption.get "requireInfrastructureEncryption")
  return ⟨enabled ≠ some true, if enabled = some true then
    "storage infrastructure encryption is enabled"
    else "storage infrastructure encryption is not enabled"⟩

/-- What `_default_network_deny` decides from the default action of a rule set. -/
def networkAction (action : Json) : Except PyError ControlEvaluation := do
  let known ← searchSet ["Allow", "Deny"] action
  raiseIf (known = false)
    (valueError ("live storage network default action is invalid: " ++ L.repr action))
  return ⟨action.str? = some "Allow", "storage network default action is " ++ L.repr action⟩

/-- `_default_network_deny`. -/
def defaultNetworkDeny (values : Document) : Except PyError ControlEvaluation := do
  let network ← object L values "network_rule_set"
  networkAction L (network.get "defaultAction")

/-- `_private_endpoints`. -/
def privateEndpoints (values : Document) : Except PyError ControlEvaluation := do
  let value ← require values "private_endpoint_connections"
  let invalid : PyError :=
    valueError "live storage private endpoint connections are not an object list"
  let connections ← listOr invalid value
  raiseIf (∃ item ∈ connections, item.obj? = none) invalid
  let count := connections.length
  return ⟨count = 0, if count = 0 then "storage account has no private endpoint connections"
    else "storage account has " ++ toString count ++ " private endpoint connection(s)"⟩

/-- `_shared_key_access`: a missing value permits shared keys. -/
def sharedKeyAccess (values : Document) : Except PyError ControlEvaluation := do
  let enabled ← optionalBoolean L values "allow_shared_key_access"
  return ⟨enabled ≠ some false, if enabled = some false then
    "storage Shared Key access is disabled"
    else "storage Shared Key access is not explicitly disabled"⟩

/-- `_default_entra_authorization`. -/
def defaultEntraAuthorization (values : Document) : Except PyError ControlEvaluation := do
  let enabled ← optionalBoolean L values "default_to_oauth_authentication"
  return ⟨enabled ≠ some true, if enabled = some true then
    "storage defaults to Microsoft Entra authorization"
    else "storage does not default to Microsoft Entra authorization"⟩

/-- The state of a container-delete policy; a missing policy is a disabled one. -/
def deletePolicyState (policy : Json) : Except PyError (Option Bool) :=
  match policy with
  | .null => .ok (some false)
  | .obj entries => optionalBoolOr
      (valueError "live storage container-delete policy has invalid enabled state")
      (Document.get entries "enabled")
  | _ => .error (valueError ("live storage state has invalid " ++
      "blob_container_delete_retention_policy " ++ L.repr policy))

/-- `_container_soft_delete`. -/
def containerSoftDelete (values : Document) : Except PyError ControlEvaluation := do
  let policy ← require values "blob_container_delete_retention_policy"
  let enabled ← deletePolicyState L policy
  return ⟨enabled ≠ some true, if enabled = some true then
    "storage container soft delete is enabled"
    else "storage container soft delete is not enabled"⟩

/-- `_trusted_azure_services`. -/
def trustedAzureServices (values : Document) : Except PyError ControlEvaluation := do
  let network ← object L values "network_rule_set"
  match network.get "bypass" with
  | .str bypass =>
    let trusted := containsText "AzureServices".toList bypass.toList
    return ⟨!trusted, if trusted then "trusted Azure services network bypass is enabled"
      else "trusted Azure services network bypass is not enabled"⟩
  | bypass =>
    .error (valueError ("live storage network bypass is invalid: " ++ L.repr bypass))

/-- The key expiration period of a key policy. -/
def expirationDays (policy : Json) : Except PyError (Option ℤ) :=
  match policy with
  | .null => .ok none
  | .obj entries =>
    match Document.get entries "keyExpirationPeriodInDays" with
    | .null => .ok none
    | .int days => .ok (some days)
    | _ => .error (valueError
        "live storage key policy has invalid keyExpirationPeriodInDays")
  | _ => .error (valueError ("live storage state has invalid key_policy " ++ L.repr policy))

/-- `_key_rotation_90_days`. -/
def keyRotation90Days (values : Document) : Except PyError ControlEvaluation := do
  let policy ← require values "key_policy"
  let days ← expirationDays L policy
  return match days with
  | none => ⟨true, "storage account has no key expiration period set"⟩
  | some days =>
    let valid := decide (1 ≤ days ∧ days ≤ 90)
    ⟨!valid, if days = 0 then "storage account has no key expiration period set"
      else if valid then "storage key expiration period is " ++ toString days ++ " days"
      else "storage key expiration period is outside 1-90 days: " ++ toString days⟩

/-- The check of the file service's status. -/
def fileServiceStatus (status : Json) : Except PyError Unit := do
  raiseIf (status.str? = some "unavailable")
    (valueError "live Azure File Service properties are unavailable")
  raiseIf (status.str? ≠ some "available")
    (valueError ("live Azure File Service status is invalid: " ++ L.repr status))

/-- `_secure_smb_channel_encryption`. -/
def secureSmbChannelEncryption (values : Document) : Except PyError ControlEvaluation := do
  let status ← require values "file_service_status"
  fileServiceStatus L status
  let value ← require values "file_smb_channel_encryption"
  let invalid : PyError := valueError
    "live SMB channel encryption algorithms are invalid: expected a string list"
  let items ← listOr invalid value
  let algorithms ← items.mapM (textOr invalid)
  let secure := !algorithms.isEmpty && algorithms.all (· == "AES-256-GCM")
  return ⟨!secure, if secure then "SMB channel encryption allows only AES-256-GCM"
    else "SMB channel encryption does not allow only AES-256-GCM: " ++
      if algorithms.isEmpty then "none" else ", ".intercalate algorithms⟩

/-- One of the pack's `ControlDefinition`s; the resource family and type are the same in all. -/
def control (ruleId : String) (planning execution : Bool) (aspects : List String)
    (evaluator : Document → Except PyError ControlEvaluation) : ControlDefinition where
  packId := "azure-storage"
  provider := "azure"
  ruleId := ruleId
  resourceFamily := "storage_account"
  resourceTypes := ["microsoft.storage/storageaccounts"]
  liveValidation := true
  remediationPlanning := planning
  liveExecution := execution
  evidenceAspects := aspects
  evaluator := evaluator
  evidenceGrade := ""

/-- `AZURE_STORAGE_PACK`. -/
def pack : ControlPack where
  packId := "azure-storage"
  controls :=
    [control "storage_account_public_network_access_disabled" true true
        ["public_network_access", "network_rule_set", "private_endpoint_connections"]
        (publicNetworkAccess L),
      control "storage_blob_public_access_level_is_disabled" true true
        ["allow_blob_public_access"] (blobPublicAccess L),
      control "storage_blob_versioning_is_enabled" true false ["blob_versioning"]
        (blobVersioning L),
      control "storage_ensure_encryption_with_customer_managed_keys" false false ["encryption"]
        (customerManagedKey L),
      control "storage_geo_redundant_enabled" false false ["sku"] (geoRedundant L),
      control "storage_infrastructure_encryption_is_enabled" false false ["encryption"]
        (infrastructureEncryption L),
      control "storage_default_network_access_rule_is_denied" false false ["network_rule_set"]
        (defaultNetworkDeny L),
      control "storage_ensure_private_endpoints_in_storage_accounts" false false
        ["private_endpoint_connections"] privateEndpoints,
      control "storage_account_key_access_disabled" false false ["allow_shared_key_access"]
        (sharedKeyAccess L),
      control "storage_default_to_entra_authorization_enabled" false false
        ["default_to_oauth_authentication"] (defaultEntraAuthorization L),
      control "storage_ensure_soft_delete_is_enabled" false false
        ["blob_container_delete_retention_policy"] (containerSoftDelete L),
      control "storage_ensure_azure_services_are_trusted_to_access_is_enabled" false false
        ["network_rule_set"] (trustedAzureServices L),
      control "storage_key_rotation_90_days" false false ["key_policy"] (keyRotation90Days L),
      control "storage_smb_channel_encryption_with_secure_algorithm" false false
        ["file_service_status", "file_smb_channel_encryption"] (secureSmbChannelEncryption L)]
  evidenceGrade := "e2e_measured"

section declared

variable {L} {aspects : List String}

/-- A control that raises no exception of its own. -/
theorem declared_pure {aspect : String} (h : aspect ∈ aspects)
    (decision : Json → ControlEvaluation) :
    Declared aspects fun values => require values aspect >>= fun value =>
      pure (decision value) := by
  apply declared_judge h
  intro value
  exact raises_pure _

/-- Reading a declared object reads declared aspects only. -/
theorem declared_object {aspect : String} (h : aspect ∈ aspects) :
    Declared aspects fun values => object L values aspect := by
  apply declared_judge h
  intro value
  exact raises_dictOr (isValueError_valueError _) value

/-- Reading a declared optional boolean reads declared aspects only. -/
theorem declared_optionalBoolean {aspect : String} (h : aspect ∈ aspects) :
    Declared aspects fun values => optionalBoolean L values aspect :=
  declared_requireOptionalBool h

/-- The key evaluator reads the encryption alone. -/
theorem declared_customerManagedKey (h : "encryption" ∈ aspects) :
    Declared aspects (customerManagedKey L) := by
  apply confined_bind (declared_object h)
  intro encryption
  apply confined_const
  apply raises_bind (raises_textOr (isValueError_valueError _) _)
  intro keySource
  exact raises_pure _

/-- The redundancy evaluator reads the SKU alone. -/
theorem declared_geoRedundant (h : "sku" ∈ aspects) : Declared aspects (geoRedundant L) := by
  apply confined_bind (declared_object h)
  intro sku
  apply confined_const
  apply raises_bind (raises_textOr (isValueError_valueError _) _)
  intro name
  exact raises_pure _

/-- The infrastructure encryption evaluator reads the encryption alone. -/
theorem declared_infrastructureEncryption (h : "encryption" ∈ aspects) :
    Declared aspects (infrastructureEncryption L) := by
  apply confined_bind (declared_object h)
  intro encryption
  apply confined_const
  apply raises_bind (raises_optionalBoolOr (isValueError_valueError _) _)
  intro enabled
  exact raises_pure _

/-- The private endpoint evaluator reads the connections alone. -/
theorem declared_privateEndpoints (h : "private_endpoint_connections" ∈ aspects) :
    Declared aspects privateEndpoints := by
  apply declared_judge h
  intro value
  apply raises_bind (raises_listOr (isValueError_valueError _) value)
  intro connections
  apply raises_bind (raises_raiseIf (isValueError_valueError _))
  intro _
  exact raises_pure _

/-- The shared key evaluator reads its flag alone. -/
theorem declared_sharedKeyAccess (h : "allow_shared_key_access" ∈ aspects) :
    Declared aspects (sharedKeyAccess L) := by
  apply confined_bind (declared_optionalBoolean h)
  intro enabled
  exact confined_const (raises_pure _)

/-- The Entra authorization evaluator reads its flag alone. -/
theorem declared_defaultEntraAuthorization (h : "default_to_oauth_authentication" ∈ aspects) :
    Declared aspects (defaultEntraAuthorization L) := by
  apply confined_bind (declared_optionalBoolean h)
  intro enabled
  exact confined_const (raises_pure _)

/-- Reading a delete retention policy raises value errors only. -/
theorem raises_deletePolicyState (policy : Json) :
    Raises IsValueError (deletePolicyState L policy) := by
  unfold deletePolicyState
  split
  · exact raises_ok _
  · exact raises_optionalBoolOr (isValueError_valueError _) _
  · exact raises_valueError _

/-- The container soft delete evaluator reads the container policy alone. -/
theorem declared_containerSoftDelete (h : "blob_container_delete_retention_policy" ∈ aspects) :
    Declared aspects (containerSoftDelete L) := by
  apply declared_judge h
  intro policy
  apply raises_bind (raises_deletePolicyState policy)
  intro enabled
  exact raises_pure _

/-- The trusted services evaluator reads the network rules alone. -/
theorem declared_trustedAzureServices (h : "network_rule_set" ∈ aspects) :
    Declared aspects (trustedAzureServices L) := by
  apply confined_bind (declared_object h)
  intro network
  apply confined_const
  split
  · exact raises_pure _
  · exact raises_valueError _

/-- Reading the days of a key policy raises value errors only. -/
theorem raises_expirationDays (policy : Json) :
    Raises IsValueError (expirationDays L policy) := by
  unfold expirationDays
  split
  · exact raises_ok _
  · split
    · exact raises_ok _
    · exact raises_ok _
    · exact raises_valueError _
  · exact raises_valueError _

/-- The key rotation evaluator reads the key policy alone. -/
theorem declared_keyRotation90Days (h : "key_policy" ∈ aspects) :
    Declared aspects (keyRotation90Days L) := by
  apply declared_judge h
  intro policy
  apply raises_bind (raises_expirationDays policy)
  intro days
  exact raises_pure _

/-- Reading the status of the file service raises value errors only. -/
theorem raises_fileServiceStatus (status : Json) :
    Raises IsValueError (fileServiceStatus L status) := by
  apply raises_bind (raises_raiseIf (isValueError_valueError _))
  intro _
  exact raises_raiseIf (isValueError_valueError _)

/-- The SMB evaluator reads the file service's status and its channel encryption. -/
theorem declared_secureSmbChannelEncryption (hstatus : "file_service_status" ∈ aspects)
    (hsmb : "file_smb_channel_encryption" ∈ aspects) :
    Declared aspects (secureSmbChannelEncryption L) := by
  apply confined_bind (declared_require hstatus)
  intro status
  apply confined_bind (confined_const (raises_fileServiceStatus status))
  intro _
  apply declared_judge hsmb
  intro value
  apply raises_bind (raises_listOr (isValueError_valueError _) value)
  intro items
  apply raises_bind (raises_mapM (fun item => raises_textOr (isValueError_valueError _) item) _)
  intro algorithms
  exact raises_pure _

/-- What the default network control reads is declared, whatever it raises. -/
theorem reads_defaultNetworkDeny (h : "network_rule_set" ∈ aspects) :
    Confined (fun values aspect => values.lookup aspect) aspects (fun _ => True)
      (defaultNetworkDeny L) := by
  apply confined_bind ((declared_object h).mono (fun _ hkey => hkey) fun _ _ => trivial)
  intro network
  exact confined_const fun _ _ => trivial

/-- Every control of the pack but the default network control decides from its declared
aspects. -/
theorem pack_declared {definition : ControlDefinition} (h : definition ∈ (pack L).registered)
    (hrule : definition.ruleId ≠ "storage_default_network_access_rule_is_denied") :
    Declared definition.evidenceAspects definition.evaluator := by
  obtain ⟨given, hgiven, rfl⟩ := List.mem_map.mp h
  rw [register_ruleId] at hrule
  rw [register_evidenceAspects, register_evaluator]
  simp only [pack, List.mem_cons, List.not_mem_nil, or_false] at hgiven
  obtain rfl | rfl | rfl | rfl | rfl | rfl | rfl | rfl | rfl | rfl | rfl | rfl | rfl | rfl :=
    hgiven
  · exact declared_pure List.mem_cons_self _
  · exact declared_pure List.mem_cons_self _
  · exact declared_pure List.mem_cons_self _
  · exact declared_customerManagedKey List.mem_cons_self
  · exact declared_geoRedundant List.mem_cons_self
  · exact declared_infrastructureEncryption List.mem_cons_self
  · exact absurd rfl hrule
  · exact declared_privateEndpoints List.mem_cons_self
  · exact declared_sharedKeyAccess List.mem_cons_self
  · exact declared_defaultEntraAuthorization List.mem_cons_self
  · exact declared_containerSoftDelete List.mem_cons_self
  · exact declared_trustedAzureServices List.mem_cons_self
  · exact declared_keyRotation90Days List.mem_cons_self
  · apply declared_secureSmbChannelEncryption <;> simp [control]

end declared

end ElCapitan.AzureStorage
