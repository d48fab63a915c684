import ElCapitan.ControlPacks.Models
import ElCapitan.Services.Planning

/-!
# Azure SQL, Cosmos DB and Key Vault controls

The evaluators of three packs, over the captured properties of one server, database account
or vault.
-/

namespace ElCapitan

namespace AzureSql

variable (L : PackLibrary)

/-- The database names of a server. -/
def databaseInventory (value : Json) : Except PyError (List String) := do
  let invalid : PyError := valueError "live SQL state has no valid database inventory"
  let items ← listOr invalid value
  let inventory ← items.mapM (textOr invalid)
  raiseIf (¬(inventory.map L.platform.lower).Nodup)
    (valueError "live SQL state has duplicate database inventory entries")
  return inventory

/-- Is an entry of the TDE map invalid? A name is checked before its value is looked up. -/
def invalidEntryTde (entry : String × Json) : Except PyError Bool :=
  if entry.1 = "" then .ok true
  else do
    let known ← searchSet ["Enabled", "Disabled"] entry.2
    return !known

/-- The invalid entries of the TDE map. -/
def invalidTde : Document → Except PyError Document
  | [] => .ok []
  | entry :: entries => do
    let invalid ← invalidEntryTde entry
    let rest ← invalidTde entries
    return if invalid then entry :: rest else rest

/-- The checks of the TDE map of the user databases against the inventory. -/
def checkDatabaseTde (inventory : List String) (databaseTde : Document) :
    Except PyError Unit := do
  let invalid ← invalidTde databaseTde
  raiseIf (invalid ≠ []) (valueError ("live SQL state has invalid user-database TDE values: " ++
    L.repr (.obj invalid)))
  let expected := inventory.filter fun name => L.platform.lower name ≠ "master"
  raiseIf (Document.hasExactly databaseTde expected = false)
    (valueError ("live SQL state user-database TDE map does not match its complete " ++
      "inventory: expected " ++ L.repr (.ofStrings (sortedSet expected)) ++ ", got " ++
      L.repr (.ofStrings (sortedSet (databaseTde.map Prod.fst)))))

/-- The decision of `_tde_encrypted_with_cmk` on checked properties. -/
def decideTde (protectorType : Json) (databaseTde : Document) : ControlEvaluation :=
  let disabled := sortedSet
    ((databaseTde.filter fun entry => entry.2.str? ≠ some "Enabled").map Prod.fst)
  let keyVault : Bool := protectorType.str? = some "AzureKeyVault"
  ⟨!keyVault || !disabled.isEmpty,
    if keyVault = false then
      "TDE protector type is " ++ L.repr protectorType ++ ", not 'AzureKeyVault'"
    else if disabled ≠ [] then
      "TDE is disabled for user database(s): " ++ ", ".intercalate disabled
    else if databaseTde.isEmpty = false then
      "TDE protector is 'AzureKeyVault' and TDE is enabled for every user database"
    else "SQL server has no user databases; only master is excluded"⟩

/-- The check of the protector type. -/
def checkProtector (protectorType : Json) : Except PyError Unit := do
  let known ← searchSet ["AzureKeyVault", "ServiceManaged"] protectorType
  raiseIf (known = false)
    (valueError ("live SQL state has unknown TDE protector type " ++ L.repr protectorType))

/-- What `_tde_encrypted_with_cmk` makes of the three captured properties. -/
def judgeTde (protectorType inventory databaseTde : Json) :
    Except PyError ControlEvaluation := do
  checkProtector L protectorType
  let inventory ← databaseInventory L inventory
  let databaseTde ← dictOr (valueError "live SQL state has no user-database TDE map") databaseTde
  checkDatabaseTde L inventory databaseTde
  return decideTde L protectorType databaseTde

/-- `_tde_encrypted_with_cmk`. -/
def tdeEncryptedWithCmk (values : Document) : Except PyError ControlEvaluation := do
  let protectorType ← require values "sql_tde_protector_type"
  let inventory ← require values "sql_database_inventory"
  let databaseTde ← require values "sql_user_database_tde"
  judgeTde L protectorType inventory databaseTde

/-- `AZURE_SQL_PACK`. -/
def pack : ControlPack where
  packId := "azure-sql"
  controls :=
    [{ packId := "azure-sql", provider := "azure", ruleId := "sqlserver_tde_encrypted_with_cmk",
       resourceFamily := "sql_server", resourceTypes := ["microsoft.sql/servers"],
       liveValidation := true, remediationPlanning := false, liveExecution := false,
       evidenceAspects := ["sql_tde_protector_type", "sql_database_inventory",
         "sql_user_database_tde"],
       evaluator := tdeEncryptedWithCmk L, evidenceGrade := "" }]
  evidenceGrade := "e2e_measured"

end AzureSql

namespace CosmosDb

variable (L : PackLibrary)

/-- `_optional_boolean`. -/
def optionalBoolean (values : Document) (aspect : String) : Except PyError (Option Bool) :=
  requireOptionalBool L "Cosmos DB" values aspect

/-- `_optional_enum`. -/
def optionalEnum (values : Document) (aspect : String) (allowed : List String) :
    Except PyError (Option String) := do
  let value ← require values aspect
  let invalid : PyError := invalidAspect L "Cosmos DB" aspect value
  let text ← optionalTextOr invalid value
  raiseIf (text.any fun text => !allowed.contains text) invalid
  return text

/-- `repr` of an optional text. -/
def reprOptional (value : Option String) : String := L.repr ((value.map Json.str).getD .null)

/-- `_automatic_failover`. -/
def automaticFailover (values : Document) : Except PyError ControlEvaluation := do
  let enabled ← optionalBoolean L values "cosmosdb_enable_automatic_failover"
  return ⟨enabled ≠ some true, if enabled = some true then
    "Cosmos DB automatic failover is enabled"
    else "Cosmos DB automatic failover is not enabled"⟩

/-- `_continuous_backup`. -/
def continuousBackup (values : Document) : Except PyError ControlEvaluation := do
  let policy ← optionalEnum L values "cosmosdb_backup_policy_type" ["Continuous", "Periodic"]
  return ⟨policy ≠ some "Continuous", "Cosmos DB backup policy type is " ++
    reprOptional L policy⟩

/-- A control that fails unless one enumerated aspect has an accepted value; `what` names the
aspect in the reason. -/
def acceptedEnum (aspect what : String) (allowed accepted : List String) (values : Document) :
    Except PyError ControlEvaluation := do
  let value ← optionalEnum L values aspect allowed
  return ⟨!value.any accepted.contains, if value.isSome then
    "Cosmos DB " ++ what ++ " is " ++ reprOptional L value
    else "Cosmos DB " ++ what ++ " is absent"⟩

/-- `_minimum_tls`. -/
def minimumTls : Document → Except PyError ControlEvaluation :=
  acceptedEnum L "cosmosdb_minimum_tls_version" "minimum TLS version"
    ["Tls", "Tls11", "Tls12", "Tls13"] ["Tls12", "Tls13"]

/-- `_public_network`. -/
def publicNetwork : Document → Except PyError ControlEvaluation :=
  acceptedEnum L "cosmosdb_public_network_access" "public network access"
    ["Disabled", "Enabled", "SecuredByPerimeter"] ["Disabled", "SecuredByPerimeter"]

/-- One of the pack's `ControlDefinition`s. -/
def control (ruleId : String) (aspects : List String)
    (evaluator : Document → Except PyError ControlEvaluation) : ControlDefinition where
  packId := "azure-cosmos-db"
  provider := "azure"
  ruleId := ruleId
  resourceFamily := "cosmos_db"
  resourceTypes := ["microsoft.documentdb/databaseaccounts"]
  liveValidation := true
  remediationPlanning := false
  liveExecution := false
  evidenceAspects := aspects
  evaluator := evaluator
  evidenceGrade := ""

/-- `AZURE_COSMOS_DB_PACK`. -/
def pack : ControlPack where
  packId := "azure-cosmos-db"
  controls :=
    [control "cosmosdb_account_automatic_failover_enabled"
        ["cosmosdb_enable_automatic_failover"] (automaticFailover L),
      control "cosmosdb_account_backup_policy_continuous" ["cosmosdb_backup_policy_type"]
        (continuousBackup L),
      control "cosmosdb_account_minimum_tls_version" ["cosmosdb_minimum_tls_version"]
        (minimumTls L),
      control "cosmosdb_account_public_network_access_disabled"
        ["cosmosdb_public_network_access"] (publicNetwork L)]
  evidenceGrade := "contract_tested_export_observed"

section declared

variable {L} {aspects : List String}

/-- Reading a declared optional boolean reads declared aspects only. -/
theorem declared_optionalBoolean {aspect : String} (h : aspect ∈ aspects) :
    Declared aspects fun values => optionalBoolean L values aspect :=
  declared_requireOptionalBool h

/-- Reading a declared enumeration reads declared aspects only. -/
theorem declared_optionalEnum {aspect : String} (allowed : List String) (h : aspect ∈ aspects) :
    Declared aspects fun values => optionalEnum L values aspect allowed := by
  apply declared_judge h
  intro value
  apply raises_bind (raises_optionalTextOr (isValueError_valueError _) value)
  intro text
  apply raises_bind (raises_raiseIf (isValueError_valueError _))
  intro _
  exact raises_pure _

/-- The failover evaluator reads its flag alone. -/
theorem declared_automaticFailover (h : "cosmosdb_enable_automatic_failover" ∈ aspects) :
    Declared aspects (automaticFailover L) := by
  apply confined_bind (declared_optionalBoolean h)
  intro enabled
  exact confined_const (raises_pure _)

/-- The backup evaluator reads the type of the policy alone. -/
theorem declared_continuousBackup (h : "cosmosdb_backup_policy_type" ∈ aspects) :
    Declared aspects (continuousBackup L) := by
  apply confined_bind (declared_optionalEnum _ h)
  intro policy
  exact confined_const (raises_pure _)

/-- An evaluator of accepted values reads its aspect alone. -/
theorem declared_acceptedEnum {aspect : String} (what : String) (allowed accepted : List String)
    (h : aspect ∈ aspects) : Declared aspects (acceptedEnum L aspect what allowed accepted) := by
  apply confined_bind (declared_optionalEnum allowed h)
  intro value
  exact confined_const (raises_pure _)

/-- Every control of the pack decides from its declared aspects. -/
theorem pack_declared {definition : ControlDefinition} (h : definition ∈ (pack L).registered) :
    Declared definition.evidenceAspects definition.evaluator := by
  apply registered_declared _ h
  intro given hgiven
  simp only [pack, List.mem_cons, List.not_mem_nil, or_false] at hgiven
  obtain rfl | rfl | rfl | rfl := hgiven
  · exact declared_automaticFailover List.mem_cons_self
  · exact declared_continuousBackup List.mem_cons_self
  · exact declared_acceptedEnum _ _ _ List.mem_cons_self
  · exact declared_acceptedEnum _ _ _ List.mem_cons_self

end declared

end CosmosDb

namespace KeyVault

variable (L : PackLibrary)

/-- `_optional_boolean`. -/
def optionalBoolean (values : Document) (aspect : String) : Except PyError (Option Bool) :=
  requireOptionalBool L "Key Vault" values aspect

/-- `_rbac_enabled`. -/
def rbacEnabled (values : Document) : Except PyError ControlEvaluation := do
  let enabled ← optionalBoolean L values "keyvault_enable_rbac_authorization"
  return ⟨enabled ≠ some true, if enabled = some true then
    "Key Vault data-plane RBAC is enabled" else "Key Vault data-plane RBAC is not enabled"⟩

/-- `_recoverable`. -/
def recoverable (values : Document) : Except PyError ControlEvaluation := do
  let softDelete ← optionalBoolean L values "keyvault_enable_soft_delete"
  let purgeProtection ← optionalBoolean L values "keyvault_enable_purge_protection"
  let missing := (if softDelete ≠ some true then ["soft delete"] else []) ++
    if purgeProtection ≠ some true then ["purge protection"] else []
  return ⟨!missing.isEmpty, if missing.isEmpty then
    "Key Vault has soft delete and purge protection enabled"
    else "Key Vault is missing: " ++ ", ".intercalate missing⟩

/-- `_private_endpoints`. -/
def privateEndpoints (values : Document) : Except PyError ControlEvaluation := do
  let value ← require values "keyvault_private_endpoint_connection_count"
  let invalid : PyError :=
    valueError ("live Key Vault state has invalid private-endpoint connection count " ++
      L.repr value)
  let count ← intOr invalid value
  raiseIf (count < 0) invalid
  return ⟨count = 0, if count = 0 then "Key Vault has no private-endpoint connections"
    else "Key Vault has " ++ toString count ++ " private-endpoint connection(s)"⟩

/-- The flags of one diagnostic setting. -/
structure AuditFlags where
  auditCategory : Bool := false
  auditGroup : Bool := false
  allLogsGroup : Bool := false

/-- The flags of a setting with those of one more of its entries. -/
def AuditFlags.note (flags : AuditFlags) (entry : DiagnosticEntry) : AuditFlags :=
  let enabled := entry.enabled == some true
  { auditCategory := flags.auditCategory || enabled && entry.category == some "AuditEvent"
    auditGroup := flags.auditGroup || enabled && entry.categoryGroup == some "audit"
    allLogsGroup := flags.allLogsGroup || enabled && entry.categoryGroup == some "allLogs" }

/-- `by_setting` with one more entry. -/
def noteEntry (entry : DiagnosticEntry) :
    List (String × AuditFlags) → List (String × AuditFlags)
  | [] => [(entry.setting, AuditFlags.note {} entry)]
  | (setting, flags) :: rest =>
    if setting = entry.setting then (setting, flags.note entry) :: rest
    else (setting, flags) :: noteEntry entry rest

/-- Do the flags of a setting show audit logging? -/
def AuditFlags.logsAudit (flags : AuditFlags) : Bool :=
  flags.auditCategory || flags.auditGroup && flags.allLogsGroup

/-- The checks of `_diagnostic_logging` on its two aspects. -/
def diagnosticSettings (status settings : Json) : Except PyError (List DiagnosticEntry) := do
  raiseIf (status.str? ≠ some "available" ∧ status.str? ≠ some "unavailable")
    (valueError ("live Key Vault diagnostic-settings status is invalid: " ++ L.repr status))
  raiseIf (status.str? = some "unavailable" ∧ settings.isNull = false)
    (valueError ("live Key Vault diagnostic settings have an invalid unavailable/" ++
      "logs pairing"))
  raiseIf (status.str? = some "unavailable")
    (valueError "live Key Vault diagnostic settings are unavailable")
  let settings ← listOr (valueError "live Key Vault diagnostic settings are not a list") settings
  diagnosticEntries "Key Vault" settings

/-- `_diagnostic_logging`. -/
def diagnosticLogging (values : Document) : Except PyError ControlEvaluation := do
  let status ← require values "keyvault_diagnostic_settings_status"
  let settings ← require values "keyvault_diagnostic_log_settings"
  let entries ← diagnosticSettings L status settings
  let bySetting := entries.foldl (fun bySetting entry => noteEntry entry bySetting) []
  let enabled := bySetting.any fun entry => entry.2.logsAudit
  return ⟨!enabled, if enabled then "Key Vault diagnostic audit logging is enabled"
    else "Key Vault diagnostic audit logging is not enabled"⟩

/-- One of the pack's `ControlDefinition`s. -/
def control (ruleId : String) (aspects : List String)
    (evaluator : Document → Except PyError ControlEvaluation) (grade : String) :
    ControlDefinition where
  packId := "azure-key-vault"
  provider := "azure"
  ruleId := ruleId
  resourceFamily := "key_vault"
  resourceTypes := ["microsoft.keyvault/vaults"]
  liveValidation := true
  remediationPlanning := false
  liveExecution := false
  evidenceAspects := aspects
  evaluator := evaluator
  evidenceGrade := grade

/-- `AZURE_KEY_VAULT_PACK`. -/
def pack : ControlPack where
  packId := "azure-key-vault"
  controls :=
    [control "keyvault_logging_enabled"
        ["keyvault_diagnostic_settings_status", "keyvault_diagnostic_log_settings"]
        (diagnosticLogging L) "contract_tested",
      control "keyvault_private_endpoints" ["keyvault_private_endpoint_connection_count"]
        (privateEndpoints L) "",
      control "keyvault_rbac_enabled" ["keyvault_enable_rbac_authorization"] (rbacEnabled L) "",
      control "keyvault_recoverable"
        ["keyvault_enable_soft_delete", "keyvault_enable_purge_protection"] (recoverable L) ""]
  evidenceGrade := "e2e_measured"

section declared

variable {L} {aspects : List String}

/-- Reading a declared optional boolean of a vault reads declared aspects only. -/
theorem declared_optionalBoolean {aspect : String} (h : aspect ∈ aspects) :
    Declared aspects fun values => optionalBoolean L values aspect :=
  declared_requireOptionalBool h

/-- The RBAC evaluator reads its flag alone. -/
theorem declared_rbacEnabled (h : "keyvault_enable_rbac_authorization" ∈ aspects) :
    Declared aspects (rbacEnabled L) := by
  apply confined_bind (declared_optionalBoolean h)
  intro enabled
  exact confined_const (raises_pure _)

/-- The recovery evaluator reads the two flags of deletion. -/
theorem declared_recoverable (hsoft : "keyvault_enable_soft_delete" ∈ aspects)
    (hpurge : "keyvault_enable_purge_protection" ∈ aspects) :
    Declared aspects (recoverable L) := by
  apply confined_bind (declared_optionalBoolean hsoft)
  intro softDelete
  apply confined_bind (declared_optionalBoolean hpurge)
  intro purgeProtection
  exact confined_const (raises_pure _)

/-- The private endpoint evaluator reads the number of connections alone. -/
theorem declared_privateEndpoints (h : "keyvault_private_endpoint_connection_count" ∈ aspects) :
    Declared aspects (privateEndpoints L) := by
  apply declared_judge h
  intro value
  apply raises_bind (raises_intOr (isValueError_valueError _) value)
  intro count
  apply raises_bind (raises_raiseIf (isValueError_valueError _))
  intro _
  exact raises_pure _

/-- Reading the diagnostic settings of a vault raises value errors only. -/
theorem raises_diagnosticSettings (status settings : Json) :
    Raises IsValueError (diagnosticSettings L status settings) := by
  apply raises_bind (raises_raiseIf (isValueError_valueError _))
  intro _
  apply raises_bind (raises_raiseIf (isValueError_valueError _))
  intro _
  apply raises_bind (raises_raiseIf (isValueError_valueError _))
  intro _
  apply raises_bind (raises_listOr (isValueError_valueError _) settings)
  intro settings
  exact raises_diagnosticEntries "Key Vault" settings

/-- The logging evaluator reads the status and the diagnostic settings. -/
theorem declared_diagnosticLogging (hstatus : "keyvault_diagnostic_settings_status" ∈ aspects)
    (hsettings : "keyvault_diagnostic_log_settings" ∈ aspects) :
    Declared aspects (diagnosticLogging L) := by
  apply confined_bind (declared_require hstatus)
  intro status
  apply confined_bind (declared_require hsettings)
  intro settings
  apply confined_const
  apply raises_bind (raises_diagnosticSettings status settings)
  intro entries
  exact raises_pure _

/-- Every control of the pack decides from its declared aspects. -/
theorem pack_declared {definition : ControlDefinition} (h : definition ∈ (pack L).registered) :
    Declared definition.evidenceAspects definition.evaluator := by
  apply registered_declared _ h
  intro given hgiven
  simp only [pack, List.mem_cons, List.not_mem_nil, or_false] at hgiven
  obtain rfl | rfl | rfl | rfl := hgiven
  · apply declared_diagnosticLogging <;> simp [control]
  · exact declared_privateEndpoints List.mem_cons_self
  · exact declared_rbacEnabled List.mem_cons_self
  · apply declared_recoverable <;> simp [control]

end declared

end KeyVault

end ElCapitan
