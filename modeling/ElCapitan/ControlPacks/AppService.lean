import ElCapitan.ControlPacks.Models

/-!
# Azure App Service controls

The evaluators of the pack, for web apps and Function Apps, with the guard on the kind of
the app that each makes first.
-/

namespace ElCapitan.AppService

variable (L : PackLibrary)

/-- `_optional_boolean`. -/
def optionalBoolean (values : Document) (aspect : String) : Except PyError (Option Bool) :=
  requireOptionalBool L "App Service" values aspect

/-- `_kind`. -/
def kind (values : Document) : Except PyError String := do
  let value ← require values "app_kind"
  textOr (valueError ("live App Service state has invalid app kind " ++ L.repr value)) value

/-- `kind.startswith(start)`. -/
def startsWith (start value : String) : Bool := start.toList.isPrefixOf value.toList

/-- `_web_app`. -/
def webApp (values : Document) : Except PyError Bool := do
  let kind ← kind L values
  return startsWith "app" kind

/-- `_function_app`. -/
def functionApp (values : Document) : Except PyError Bool := do
  let kind ← kind L values
  return startsWith "functionapp" kind

/-- `_optional_string`. -/
def optionalString (values : Document) (aspect : String) : Except PyError (Option String) := do
  let value ← require values aspect
  optionalTextOr (invalidAspect L "App Service" aspect value) value

/-- The client-certificate mode. -/
def clientCertMode (values : Document) : Except PyError (Option String) := do
  let value ← require values "app_client_cert_mode"
  optionalTextOr (valueError ("live App Service state has invalid client-certificate mode " ++
    L.repr value)) value

/-- The decision on a resource that is no web app. -/
def notWebApp : ControlEvaluation := ⟨false, "resource is not an App Service web app"⟩

/-- The decision on a resource that is no Function App. -/
def notFunctionApp : ControlEvaluation := ⟨false, "resource is not an Azure Function App"⟩

/-- `_client_certificates`. -/
def clientCertificates (values : Document) : Except PyError ControlEvaluation := do
  let applies ← webApp L values
  if applies then do
    let enabled ← optionalBoolean L values "app_client_cert_enabled"
    let mode ← clientCertMode L values
    let required := decide (enabled = some true ∧ mode = some "Required")
    return ⟨!required, if required then "client certificates are enabled and required"
      else "client certificates are not both enabled and required"⟩
  else return notWebApp

/-- A web-app control that fails unless one boolean aspect is true. -/
def webAppFlag (aspect enabledReason disabledReason : String) (values : Document) :
    Except PyError ControlEvaluation := do
  let applies ← webApp L values
  if applies then do
    let enabled ← optionalBoolean L values aspect
    return ⟨enabled ≠ some true, if enabled = some true then enabledReason else disabledReason⟩
  else return notWebApp

/-- `_authentication`. -/
def authentication : Document → Except PyError ControlEvaluation :=
  webAppFlag L "app_auth_platform_enabled" "App Service authentication is enabled"
    "App Service authentication is not enabled"

/-- `_http20`. -/
def http20 : Document → Except PyError ControlEvaluation :=
  webAppFlag L "app_http20_enabled" "HTTP/2 is enabled" "HTTP/2 is not enabled"

/-- Does an entry switch the HTTP logs on? -/
def logsHttp (entry : DiagnosticEntry) : Bool :=
  entry.enabled == some true &&
    (entry.category == some "AppServiceHTTPLogs" || entry.categoryGroup == some "allLogs")

/-- The entries of the captured diagnostic settings. -/
def diagnosticSettings (values : Document) : Except PyError (List DiagnosticEntry) := do
  let settings ← require values "app_diagnostic_log_settings"
  let settings ← listOr (valueError "live App Service diagnostic settings are not a list")
    settings
  diagnosticEntries "App Service" settings

/-- `_http_logs`: the settings are checked also for a workload the check excludes. -/
def httpLogs (values : Document) : Except PyError ControlEvaluation := do
  let kind ← kind L values
  let entries ← diagnosticSettings values
  if startsWith "app" kind then
    let enabled := entries.any logsHttp
    return ⟨!enabled, if enabled then "App Service HTTP diagnostic logs are enabled"
      else "App Service HTTP diagnostic logs are not enabled"⟩
  else
    return ⟨false, "Prowler excludes non-web workloads from the web-app HTTP log check"⟩

/-- `repr` of an optional text. -/
def reprOptional (value : Option String) : String := L.repr ((value.map Json.str).getD .null)

/-- A Function App control that fails unless one aspect is `Disabled`. -/
def functionAppDisabled (aspect disabledReason otherwise : String) (values : Document) :
    Except PyError ControlEvaluation := do
  let applies ← functionApp L values
  if applies then do
    let state ← optionalString L values aspect
    return ⟨state ≠ some "Disabled", if state = some "Disabled" then disabledReason
      else otherwise ++ reprOptional L state⟩
  else return notFunctionApp

/-- `_function_ftps`. -/
def functionFtps : Document → Except PyError ControlEvaluation :=
  functionAppDisabled L "app_ftps_state" "Function App FTPS deployment is disabled"
    "Function App FTPS deployment state is "

/-- `_function_public_access`. -/
def functionPublicAccess : Document → Except PyError ControlEvaluation :=
  functionAppDisabled L "app_public_network_access"
    "Function App public network access is disabled" "Function App public network access is "

/-- `_function_vnet`. -/
def functionVnet (values : Document) : Except PyError ControlEvaluation := do
  let applies ← functionApp L values
  if applies then do
    let subnetId ← optionalString L values "app_virtual_network_subnet_id"
    let integrated := subnetId.any (· ≠ "")
    return ⟨!integrated, if integrated then "Function App has VNet integration"
      else "Function App has no VNet integration"⟩
  else return notFunctionApp

/-- One of the pack's `ControlDefinition`s. -/
def control (ruleId family resourceType : String) (aspects : List String)
    (evaluator : Document → Except PyError ControlEvaluation) : ControlDefinition where
  packId := "azure-app-service"
  provider := "azure"
  ruleId := ruleId
  resourceFamily := family
  resourceTypes := [resourceType]
  liveValidation := true
  remediationPlanning := false
  liveExecution := false
  evidenceAspects := aspects
  evaluator := evaluator
  evidenceGrade := ""

/-- `AZURE_APP_SERVICE_PACK`. -/
def pack : ControlPack where
  packId := "azure-app-service"
  controls :=
    [control "app_client_certificates_on" "app_service_web_app" "microsoft.web/sites/config"
        ["app_kind", "app_client_cert_enabled", "app_client_cert_mode"] (clientCertificates L),
      control "app_ensure_auth_is_set_up" "app_service_web_app" "microsoft.web/sites"
        ["app_kind", "app_auth_platform_enabled"] (authentication L),
      control "app_ensure_using_http20" "app_service_web_app" "microsoft.web/sites"
        ["app_kind", "app_http20_enabled"] (http20 L),
      control "app_http_logs_enabled" "app_service_web_app" "microsoft.web/sites"
        ["app_kind", "app_diagnostic_log_settings"] (httpLogs L),
      control "app_function_ftps_deployment_disabled" "azure_function_app" "microsoft.web/sites"
        ["app_kind", "app_ftps_state"] (functionFtps L),
      control "app_function_not_publicly_accessible" "azure_function_app" "microsoft.web/sites"
        ["app_kind", "app_public_network_access"] (functionPublicAccess L),
      control "app_function_vnet_integration_enabled" "azure_function_app" "microsoft.web/sites"
        ["app_kind", "app_virtual_network_subnet_id"] (functionVnet L)]
  evidenceGrade := "e2e_measured"

section declared

variable {L} {aspects : List String}

/-- Reading a declared optional boolean reads declared aspects only. -/
theorem declared_optionalBoolean {aspect : String} (h : aspect ∈ aspects) :
    Declared aspects fun values => optionalBoolean L values aspect :=
  declared_requireOptionalBool h

/-- Reading the kind reads the kind alone. -/
theorem declared_kind (h : "app_kind" ∈ aspects) : Declared aspects (kind L) := by
  apply declared_judge h
  intro value
  exact raises_textOr (isValueError_valueError _) value

/-- Whether the app is a web app reads its kind alone. -/
theorem declared_webApp (h : "app_kind" ∈ aspects) : Declared aspects (webApp L) := by
  apply confined_bind (declared_kind h)
  intro kind
  exact confined_const (raises_pure _)

/-- Whether the app is a function app reads its kind alone. -/
theorem declared_functionApp (h : "app_kind" ∈ aspects) : Declared aspects (functionApp L) := by
  apply confined_bind (declared_kind h)
  intro kind
  exact confined_const (raises_pure _)

/-- Reading a declared optional text reads declared aspects only. -/
theorem declared_optionalString {aspect : String} (h : aspect ∈ aspects) :
    Declared aspects fun values => optionalString L values aspect := by
  apply declared_judge h
  intro value
  exact raises_optionalTextOr (isValueError_valueError _) value

/-- Reading the mode of client certificates reads the mode alone. -/
theorem declared_clientCertMode (h : "app_client_cert_mode" ∈ aspects) :
    Declared aspects (clientCertMode L) := by
  apply declared_judge h
  intro value
  exact raises_optionalTextOr (isValueError_valueError _) value

/-- The client certificate evaluator reads the kind, the flag and the mode. -/
theorem declared_clientCertificates (hkind : "app_kind" ∈ aspects)
    (henabled : "app_client_cert_enabled" ∈ aspects) (hmode : "app_client_cert_mode" ∈ aspects) :
    Declared aspects (clientCertificates L) := by
  apply confined_bind (declared_webApp hkind)
  intro applies
  apply confined_ite
  · apply confined_bind (declared_optionalBoolean henabled)
    intro enabled
    apply confined_bind (declared_clientCertMode hmode)
    intro mode
    exact confined_const (raises_pure _)
  · exact confined_const (raises_pure _)

/-- An evaluator of a flag of web apps reads the kind and the flag. -/
theorem declared_webAppFlag {aspect : String} (enabledReason disabledReason : String)
    (hkind : "app_kind" ∈ aspects) (h : aspect ∈ aspects) :
    Declared aspects (webAppFlag L aspect enabledReason disabledReason) := by
  apply confined_bind (declared_webApp hkind)
  intro applies
  apply confined_ite
  · apply confined_bind (declared_optionalBoolean h)
    intro enabled
    exact confined_const (raises_pure _)
  · exact confined_const (raises_pure _)

/-- Reading the diagnostic settings reads these alone. -/
theorem declared_diagnosticSettings (h : "app_diagnostic_log_settings" ∈ aspects) :
    Declared aspects diagnosticSettings := by
  apply declared_judge h
  intro value
  apply raises_bind (raises_listOr (isValueError_valueError _) value)
  intro settings
  exact raises_diagnosticEntries "App Service" settings

/-- The HTTP log evaluator reads the kind and the diagnostic settings. -/
theorem declared_httpLogs (hkind : "app_kind" ∈ aspects)
    (hsettings : "app_diagnostic_log_settings" ∈ aspects) : Declared aspects (httpLogs L) := by
  apply confined_bind (declared_kind hkind)
  intro kind
  apply confined_bind (declared_diagnosticSettings hsettings)
  intro entries
  apply confined_ite
  · exact confined_const (raises_pure _)
  · exact confined_const (raises_pure _)

/-- An evaluator of a disabled flag of function apps reads the kind and the flag. -/
theorem declared_functionAppDisabled {aspect : String} (disabledReason otherwise : String)
    (hkind : "app_kind" ∈ aspects) (h : aspect ∈ aspects) :
    Declared aspects (functionAppDisabled L aspect disabledReason otherwise) := by
  apply confined_bind (declared_functionApp hkind)
  intro applies
  apply confined_ite
  · apply confined_bind (declared_optionalString h)
    intro state
    exact confined_const (raises_pure _)
  · exact confined_const (raises_pure _)

/-- The virtual network evaluator reads the kind and the subnet. -/
theorem declared_functionVnet (hkind : "app_kind" ∈ aspects)
    (hsubnet : "app_virtual_network_subnet_id" ∈ aspects) :
    Declared aspects (functionVnet L) := by
  apply confined_bind (declared_functionApp hkind)
  intro applies
  apply confined_ite
  · apply confined_bind (declared_optionalString hsubnet)
    intro subnetId
    exact confined_const (raises_pure _)
  · exact confined_const (raises_pure _)

/-- Every control of the pack decides from its declared aspects. -/
theorem pack_declared {definition : ControlDefinition} (h : definition ∈ (pack L).registered) :
    Declared definition.evidenceAspects definition.evaluator := by
  apply registered_declared _ h
  intro given hgiven
  simp only [pack, List.mem_cons, List.not_mem_nil, or_false] at hgiven
  obtain rfl | rfl | rfl | rfl | rfl | rfl | rfl := hgiven
  · apply declared_clientCertificates <;> simp [control]
  · apply declared_webAppFlag <;> simp [control]
  · apply declared_webAppFlag <;> simp [control]
  · apply declared_httpLogs <;> simp [control]
  · apply declared_functionAppDisabled <;> simp [control]
  · apply declared_functionAppDisabled <;> simp [control]
  · apply declared_functionVnet <;> simp [control]

end declared

end ElCapitan.AppService
