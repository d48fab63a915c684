import ElCapitan.Infrastructure.AwsClient

/-!
# The AWS driver

`AwsS3VersioningCloudFormationDriver`: the approved forward template is deployed over the
template that was reviewed, and the approved rollback template contains the change.
-/

namespace ElCapitan

open Effects

/-- `AwsS3VersioningCloudFormationDriver`. -/
structure AwsS3VersioningCloudFormationDriver where
  client : AwsS3CloudFormationClient
  propagationWaitSeconds : ℕ

/-- `_STABLE_STACK_STATES`. -/
def stableStackStates : List String :=
  ["CREATE_COMPLETE", "UPDATE_COMPLETE", "UPDATE_ROLLBACK_COMPLETE"]

/-- `except (AwsActionError, OSError, ValueError)`. -/
def ErrorKind.isAwsFailure (kind : ErrorKind) : Bool :=
  kind = .awsActionError || kind = .osError || kind.isValueError

/-- The files of an approved deployment. -/
structure AwsArtifacts where
  deployment : Document
  forward : String
  rollback : String

namespace AwsS3VersioningCloudFormationDriver

variable (driver : AwsS3VersioningCloudFormationDriver)

/-- `_template_sha256`. -/
def templateSha256 (template : Document) : String :=
  driver.client.library.platform.canonicalHash (.obj template)

/-- The approved plan's deployment, after the checks of `_artifacts` on the records. -/
def approvedDeployment (context : ExecutionContext) : Except PyError (Document × String) :=
  match context.link.body.get "link", context.plan.body.get "deployment" with
  | .obj link, .obj deployment => do
    let identity := driver.client.identity
    let serviceRole := Json.ofOption identity.cloudformationServiceRoleArn
    let expected : List (String × Json) := [("resource_uid", .str identity.resourceUid),
      ("iac_engine", .str "aws_cdk_cloudformation"), ("stack_name", .str identity.stackName),
      ("logical_resource_id", .str identity.logicalResourceId),
      ("account_id", .str identity.accountId), ("region", .str identity.region),
      ("executor_role_arn", .str identity.executorRoleArn),
      ("cloudformation_service_role_arn", serviceRole)]
    let mismatched := expected.filter fun entry => !(Document.get link entry.1).equal entry.2
    raiseIf (mismatched ≠ []) (awsError ("approved IaC link does not match the pinned AWS target: "
      ++ ", ".intercalate (mismatched.map Prod.fst)))
    raiseIf ((context.plan.body.get "status").str? ≠ some "verified")
      (awsError "AWS execution requires a verified remediation plan")
    raiseIf ((Document.get deployment "approved_change").str? ≠ some ("Resources." ++
        identity.logicalResourceId ++ ".Properties.VersioningConfiguration.Status"))
      (awsError "approved plan does not contain the exact versioning change")
    raiseIf ((Document.get deployment "executor_role_arn").str? ≠ some identity.executorRoleArn ∨
        ¬(Document.get deployment "cloudformation_service_role_arn").equal serviceRole)
      (awsError "approved deployment identities do not match the pinned AWS client")
    raiseIf (¬(Document.get deployment "write_freeze_seconds").equal
        (.ofNat driver.propagationWaitSeconds))
      (awsError "approved plan does not contain the exact S3 write-freeze interval")
    match (context.plan.body.get "artifact_namespace").str? with
    | some artifactNamespace => return (deployment, artifactNamespace)
    | none => .error (awsError "approved plan has no artifact namespace")
  | _, _ => .error (awsError "approved records have no structured AWS deployment")

/-- The path of a template of the plan, resolved. The source catches `FileNotFoundError` here too,
which `safe_resolve` never raises: it turns every `OSError` into `PathEscape`. -/
def templateFile (context : ExecutionContext) (deployment : Document)
    (artifactNamespace name : String) : Driver String :=
  let invalid (message : String) : PyError :=
    awsError ("approved template path is invalid: " ++ message)
  match deployment.lookup name with
  | none => .raise (invalid ("'" ++ name ++ "'"))
  | some path =>
    (issue (.resolveFile context.artifactRoot (artifactNamespace ++ "/workspace/" ++
      driver.client.library.platform.str path))).handle fun e =>
        .raise (if e.kind = .pathEscape then invalid e.message else e)

/-- A template file has the hash that was approved. -/
def checkTemplate (deployment : Document) (path digestName : String) : Driver Unit := do
  let mismatch := awsError "approved CloudFormation template hash does not match"
  let regular ← issue (.isRegular path)
  .raiseIf (regular = false) mismatch
  let digest ← issue (.digestFile path)
  .raiseIf ((deployment.get digestName).str? ≠ some digest) mismatch

/-- `_artifacts`. -/
def artifacts (context : ExecutionContext) : Driver AwsArtifacts := do
  let (deployment, artifactNamespace) ← .ofExcept (driver.approvedDeployment context)
  let forward ← driver.templateFile context deployment artifactNamespace "forward_template_path"
  let rollback ← driver.templateFile context deployment artifactNamespace "rollback_template_path"
  checkTemplate deployment forward "forward_template_sha256"
  checkTemplate deployment rollback "rollback_template_sha256"
  return { deployment, forward, rollback }

/-- `deployment.get("rollback_mode") == "exact"`. -/
def exactMode (deployment : Document) : Bool :=
  (deployment.get "rollback_mode").str? = some "exact"

/-- `preflight`. -/
def preflight (context : ExecutionContext) : Driver ActionStep :=
  refusing "preflight" ErrorKind.isAwsFailure do
    let approved ← driver.artifacts context
    let executorArn ← driver.client.assertIdentity
    let stack ← driver.client.stack
    let status := stack.get "StackStatus"
    let stable ← .ofExcept (searchSet stableStackStates status)
    .raiseIf (stable = false) (awsError ("CloudFormation stack is not stable: " ++
      driver.client.library.repr status))
    let template ← driver.client.template
    let templateSha := driver.templateSha256 template
    .raiseIf ((approved.deployment.get "deployed_template_sha256").str? ≠ some templateSha)
      (awsError "deployed CloudFormation template drifted after approval")
    let versioning ← driver.client.versioning
    let expected := if exactMode approved.deployment then "Suspended" else "Disabled"
    .raiseIf (versioning ≠ expected) (awsError ("expected vulnerable pre-change versioning " ++
      expected ++ "; observed " ++ versioning))
    return { name := "preflight", passed := true,
             detail := "approved CDK intent, stack template, executor account, and live state match",
             payload := [("resource_uid", .str driver.client.identity.resourceUid),
              ("stack_name", .str driver.client.identity.stackName), ("stack_status", status),
              ("versioning", .str versioning), ("deployed_template_sha256", .str templateSha),
              ("executor_arn", .str executorArn),
              ("rollback_mode", approved.deployment.get "rollback_mode")] }

/-- `checkpoint`. -/
def checkpoint (context : ExecutionContext) : Driver DeploymentCheckpoint := do
  let approved ← driver.artifacts context
  let template ← driver.client.template
  let versioning ← driver.client.versioning
  let checkpointId ← issue (.freshId "AWSCHK")
  return { checkpointId, detail := "captured exact stack template and S3 versioning state",
           payload := [("resource_uid", .str driver.client.identity.resourceUid),
            ("stack_name", .str driver.client.identity.stackName), ("versioning", .str versioning),
            ("template_sha256", .str (driver.templateSha256 template)),
            ("rollback_mode", approved.deployment.get "rollback_mode")] }

/-- Does the checkpoint belong to the pinned bucket? -/
def ownsCheckpoint (checkpoint : DeploymentCheckpoint) : Bool :=
  (checkpoint.payload.get "resource_uid").str? = some driver.client.identity.resourceUid

/-- Do the live template and the live versioning differ from the checkpoint's? -/
def drifted (checkpoint : DeploymentCheckpoint) : Driver Bool := do
  let template ← driver.client.template
  if (checkpoint.payload.get "template_sha256").str? ≠ some (driver.templateSha256 template) then
    return true
  else
    let versioning ← driver.client.versioning
    return (checkpoint.payload.get "versioning").str? ≠ some versioning

/-- The update of `deploy` and what it reads afterwards. -/
def applyForward (approved : AwsArtifacts) : Driver ActionStep := do
  let token ← issue (.freshId "AWSCFN")
  driver.client.update approved.forward token
  driver.client.waitForUpdate
  issue (.sleep driver.propagationWaitSeconds)
  let template ← driver.client.template
  let templateSha := driver.templateSha256 template
  let versioning ← driver.client.versioning
  let passed := (approved.deployment.get "forward_template_sha256").str? = some templateSha ∧
    versioning = "Enabled"
  return { name := "deploy", passed,
           detail := if passed then "CloudFormation enabled S3 bucket versioning"
            else "CloudFormation completed without the exact approved state",
           payload := [("resource_uid", .str driver.client.identity.resourceUid),
            ("stack_name", .str driver.client.identity.stackName), ("versioning", .str versioning),
            ("template_sha256", .str templateSha)] }

/-- `deploy`. -/
def deploy (context : ExecutionContext) (checkpoint : DeploymentCheckpoint) :
    Driver ActionStep := do
  let approved ← driver.artifacts context
  if driver.ownsCheckpoint checkpoint = false then
    return { name := "deploy", passed := false,
             detail := "checkpoint belongs to another AWS resource", payload := [] }
  else
    let drift ← driver.drifted checkpoint
    if drift then
      return { name := "deploy", passed := false,
               detail := "AWS resource drifted after checkpoint; refusing update", payload := [] }
    else refusing "deploy" ErrorKind.isAwsFailure (driver.applyForward approved)

/-- The step that `rollback` reports on the template and the versioning it read. -/
def rollbackStep (deployment : Document) (templateSha versioning : String) : ActionStep :=
  let contained := (deployment.get "rollback_template_sha256").str? = some templateSha ∧
    versioning = "Suspended"
  let exact := exactMode deployment
  { name := "rollback", passed := contained,
    detail := if exact then "CloudFormation restored the prior Suspended versioning state"
      else "CloudFormation suspended versioning; the first enablement remains irreversible",
    payload := [("resource_uid", .str driver.client.identity.resourceUid),
      ("versioning", .str versioning), ("template_sha256", .str templateSha),
      ("checkpoint_restored", .bool (exact ∧ contained)), ("containment_achieved", .bool contained),
      ("rollback_mode", deployment.get "rollback_mode")] }

/-- `rollback`. -/
def rollback (context : ExecutionContext) (checkpoint : DeploymentCheckpoint) :
    Driver ActionStep := do
  let approved ← driver.artifacts context
  if driver.ownsCheckpoint checkpoint = false then
    return { name := "rollback", passed := false,
             detail := "checkpoint belongs to another AWS resource", payload := [] }
  else
    refusing "rollback" ErrorKind.isAwsFailure do
      let token ← issue (.freshId "AWSCFNROLLBACK")
      driver.client.update approved.rollback token
      driver.client.waitForUpdate
      let template ← driver.client.template
      let versioning ← driver.client.versioning
      return driver.rollbackStep approved.deployment (driver.templateSha256 template) versioning

end AwsS3VersioningCloudFormationDriver

end ElCapitan
