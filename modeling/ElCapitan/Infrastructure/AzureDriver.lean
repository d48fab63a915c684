import ElCapitan.Infrastructure.Commands
import ElCapitan.Infrastructure.PlanScope
import ElCapitan.Infrastructure.Templates
import ElCapitan.Services.Execution

/-!
# The Azure storage drivers

`AzureStorageAccountClient` and the two drivers over it: each changes one property of one pinned
account. They are one driver with two controls.
-/

namespace ElCapitan

open Effects

/-- An `AzureActionError`. -/
def azureError (message : String) : PyError := ⟨.azureActionError, message⟩

/-- `_PUBLIC_ACCESS`. -/
def publicAccessValues : List String := ["Enabled", "Disabled", "SecuredByPerimeter"]

/-- `_CHECKPOINT_FIELDS`. -/
def checkpointFields : List String :=
  ["id", "publicNetworkAccess", "allowBlobPublicAccess", "networkRuleSet", "minimumTlsVersion",
    "enableHttpsTrafficOnly", "tags"]

/-- `_configuration_sha256`. -/
def configurationSha256 (P : Platform) (document : Document) : String :=
  P.canonicalHash (.obj (checkpointFields.map fun name => (name, document.get name)))

/-- `AzureStorageIdentity`. -/
structure AzureStorageIdentity where
  resourceId : String
  subscriptionId : String
  resourceGroup : String
  accountName : String

/-- `AzureStorageAccountClient`. -/
structure AzureStorageAccountClient where
  library : CommandLibrary
  identity : AzureStorageIdentity
  requiredTags : List (String × String)

namespace AzureStorageAccountClient

variable (client : AzureStorageAccountClient)

/-- `document` in `_document`: the account, where it is the pinned one and in scope. -/
def checkAccount (document : Document) : Except PyError Document :=
  let P := client.library.platform
  if (document.get "id").str?.map P.lower ≠ some (P.lower client.identity.resourceId) then
    .error (azureError "Azure CLI response identity does not match the pinned target")
  else
    match document.get "tags" with
    | .obj tags =>
      let missing := client.requiredTags.filter fun tag =>
        P.str (Document.getText tags tag.1) ≠ tag.2
      if missing ≠ [] then
        .error (azureError ("Azure target is outside the permitted mutation scope; missing tags: "
          ++ ", ".intercalate (missing.map fun tag => tag.1 ++ "=" ++ tag.2)))
      else .ok document
    | _ => .error (azureError "Azure target has no mutation-scope tags")

/-- `_document`. -/
def documentOf (operation : String) (result : CommandResult) : Except PyError Document :=
  let P := client.library.platform
  if result.exitCode ≠ 0 then
    .error (azureError ("Azure CLI could not " ++ operation ++ " (exit " ++
      toString result.exitCode ++ "): " ++
      textOrElse (result.diagnosis P) "no diagnostic output"))
  else
    match P.jsonLoads result.stdout with
    | some (.obj document) => client.checkAccount document
    | some _ => .error
      (azureError ("Azure CLI returned a non-object while trying to " ++ operation))
    | none => .error (azureError ("Azure CLI returned invalid JSON while trying to " ++ operation ++
        ": " ++ client.library.decodeError result.stdout))

/-- A command about the pinned account. -/
def accountCommand (verb : String) (options : List String) : List String :=
  ["storage", "account", verb, "--ids", client.identity.resourceId, "--subscription",
    client.identity.subscriptionId] ++ options ++ ["--output", "json", "--only-show-errors"]

/-- Run a command about the pinned account. -/
def account (verb : String) (options : List String) (operation : String) : Driver Document :=
  request none (client.accountCommand verb options) (client.documentOf operation)

/-- `read`. -/
def read : Driver Document := client.account "show" [] "read the storage account"

/-- `set_public_network_access`. -/
def setPublicNetworkAccess (value : String) : Driver Document := do
  .raiseIf (value ∉ publicAccessValues)
    (azureError ("unsupported Azure public network access value: " ++ value))
  client.account "update" ["--public-network-access", value] "update public network access"

/-- `set_blob_public_access`. -/
def setBlobPublicAccess (value : Bool) : Driver Document :=
  client.account "update" ["--allow-blob-public-access", if value then "true" else "false"]
    "update blob public access"

end AzureStorageAccountClient

/-- What the two drivers do not share. -/
structure StorageControl where
  /-- The property of the account. -/
  property : String
  /-- Its name in checkpoints and steps. -/
  payloadName : String
  checkpointDetail : String
  /-- Why a value makes no checkpoint. -/
  unsupported : String
  /-- Can the value be restored? -/
  restorable : Json → Except PyError Bool
  /-- Is the value in an answer the wanted one? -/
  isValue : Json → Json → Bool
  /-- Set the property. -/
  update : AzureStorageAccountClient → Json → Driver Document
  /-- The value a deployment sets. -/
  secure : Json
  deployedDetail : String

/-- The control of `AzureStoragePublicNetworkDriver`. -/
def publicNetworkControl : StorageControl where
  property := "publicNetworkAccess"
  payloadName := "public_network_access"
  checkpointDetail := "captured exact Azure Storage public network access state"
  unsupported := "Azure checkpoint has an unsupported public access value"
  restorable := searchSet publicAccessValues
  isValue actual wanted := actual.equal wanted
  update client value := client.setPublicNetworkAccess (client.library.platform.str value)
  secure := .str "Disabled"
  deployedDetail := "Azure Storage public network access disabled"

/-- The control of `AzureStorageBlobPublicAccessDriver`. -/
def blobPublicAccessControl : StorageControl where
  property := "allowBlobPublicAccess"
  payloadName := "allow_blob_public_access"
  checkpointDetail := "captured exact Azure Storage blob public access state"
  unsupported := "Azure checkpoint has no explicit blob public access value"
  restorable
    | .bool _ => .ok true
    | _ => .ok false
  isValue
    | .bool actual, .bool wanted => actual = wanted
    | _, _ => false
  update client value := client.setBlobPublicAccess value.isTrue
  secure := .bool false
  deployedDetail := "Azure Storage blob public access disabled"

/-- A driver of a storage account. -/
structure AzureStorageDriver where
  client : AzureStorageAccountClient
  control : StorageControl

/-- `AzureStoragePublicNetworkDriver`. -/
def azureStoragePublicNetworkDriver (client : AzureStorageAccountClient) : AzureStorageDriver :=
  { client, control := publicNetworkControl }

/-- `AzureStorageBlobPublicAccessDriver`. -/
def azureStorageBlobPublicAccessDriver (client : AzureStorageAccountClient) : AzureStorageDriver :=
  { client, control := blobPublicAccessControl }

namespace AzureStorageDriver

variable (driver : AzureStorageDriver)

/-- What a checkpoint or a step reports of an account. -/
def report (document : Document) : Document :=
  [("resource_id", .str driver.client.identity.resourceId),
    (driver.control.payloadName, document.get driver.control.property),
    ("configuration_sha256",
      .str (configurationSha256 driver.client.library.platform document))]

/-- `checkpoint`. -/
def checkpoint (_context : ExecutionContext) : Driver DeploymentCheckpoint := do
  let account ← driver.client.read
  let restorable ← .ofExcept (driver.control.restorable (account.get driver.control.property))
  .raiseIf (restorable = false) (azureError driver.control.unsupported)
  let checkpointId ← issue (.freshId "AZCHK")
  return { checkpointId, detail := driver.control.checkpointDetail,
           payload := driver.report account }

/-- `deploy`. -/
def deploy (_context : ExecutionContext) (checkpoint : DeploymentCheckpoint) :
    Driver ActionStep := do
  let current ← driver.client.read
  if (checkpoint.payload.get "configuration_sha256").str? ≠
        some (configurationSha256 driver.client.library.platform current) ∨
      ¬(current.get driver.control.property).equal
        (checkpoint.payload.get driver.control.payloadName) then
    return { name := "deploy", passed := false,
             detail := "Azure resource drifted after checkpoint; refusing mutation",
             payload := [("resource_id", .str driver.client.identity.resourceId)] }
  else
    let updated ← driver.control.update driver.client driver.control.secure
    let passed := driver.control.isValue (updated.get driver.control.property)
      driver.control.secure
    return { name := "deploy", passed,
             detail := if passed then driver.control.deployedDetail
              else "Azure update returned without the approved state",
             payload := driver.report updated }

/-- `rollback`. -/
def rollback (_context : ExecutionContext) (checkpoint : DeploymentCheckpoint) :
    Driver ActionStep := do
  let P := driver.client.library.platform
  let refused (detail : String) : Driver ActionStep :=
    return { name := "rollback", passed := false, detail, payload := [] }
  if P.lower (P.str (checkpoint.payload.getText "resource_id")) ≠
      P.lower driver.client.identity.resourceId then
    refused "checkpoint belongs to another resource"
  else
    let prior := checkpoint.payload.get driver.control.payloadName
    let restorable ← .ofExcept (driver.control.restorable prior)
    if restorable = false then refused "checkpoint has no restorable Azure value"
    else
      let restored ← driver.control.update driver.client prior
      let passed := driver.control.isValue (restored.get driver.control.property) prior
      return { name := "rollback", passed,
               detail := if passed then "Azure Storage checkpoint restored"
                else "Azure Storage rollback verification failed",
               payload := driver.report restored }

end AzureStorageDriver

end ElCapitan
