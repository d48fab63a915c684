import ElCapitan.Infrastructure.Commands
import ElCapitan.Infrastructure.PlanScope
import ElCapitan.Infrastructure.Templates

/-!
# The AWS client

`AwsS3CloudFormationClient`: each call runs one command for the pinned stack and bucket and
accepts its answer only when it is about them.
-/

namespace ElCapitan

open Effects

/-- An `AwsActionError`. -/
def awsError (message : String) : PyError := ⟨.awsActionError, message⟩

/-- `AwsS3CloudFormationIdentity`. -/
structure AwsS3CloudFormationIdentity where
  resourceUid : String
  bucketName : String
  accountId : String
  region : String
  stackName : String
  logicalResourceId : String
  executorRoleArn : String
  cloudformationServiceRoleArn : Option String

/-- `AwsS3CloudFormationClient`. -/
structure AwsS3CloudFormationClient where
  library : CommandLibrary
  identity : AwsS3CloudFormationIdentity

/-- An optional text as JSON. -/
def Json.ofOption (value : Option String) : Json := (value.map Json.str).getD .null

/-- `document.get(name) if isinstance(document, Mapping) else None`. -/
def Json.mappingGet (document : Json) (name : String) : Json := (document.obj?.getD []).get name

/-- `needle in text`. -/
def hasSubtext (needle text : String) : Bool :=
  text.toList.tails.any fun tail => needle.toList.isPrefixOf tail

/-- `text.rsplit("/", 1)[-1]`. -/
def afterLastSlash (text : String) : String :=
  String.ofList (text.toList.reverse.takeWhile fun c => c ≠ '/').reverse

namespace AwsS3CloudFormationClient

variable (client : AwsS3CloudFormationClient)

/-- `_run_json`, after its command. -/
def jsonOf (operation : String) (empty : Bool) (result : CommandResult) : Except PyError Json :=
  let P := client.library.platform
  if result.exitCode ≠ 0 then
    .error (awsError ("AWS CLI could not " ++ operation ++ " (exit " ++ toString result.exitCode ++
      "): " ++ textOrElse (result.diagnosis P) "no diagnostic output"))
  else
    let text := P.strip result.stdout
    if text = "" ∧ empty = true then .ok (.obj [])
    else
      match P.jsonLoads text with
      | some document => .ok document
      | none => .error (awsError ("AWS CLI returned invalid JSON while trying to " ++ operation ++
          ": " ++ client.library.decodeError text))

/-- What `assert_identity` accepts. -/
def readIdentity (document : Json) : Except PyError String := do
  raiseIf ((document.mappingGet "Account").str? ≠ some client.identity.accountId)
    (awsError "AWS executor identity is outside the pinned account")
  let arn := (document.mappingGet "Arn").str?.getD ""
  raiseIf (arn = "") (awsError "AWS executor identity response has no ARN")
  let expected := "arn:aws:sts::" ++ client.identity.accountId ++ ":assumed-role/" ++
    afterLastSlash client.identity.executorRoleArn ++ "/"
  raiseIf (¬expected.toList.isPrefixOf arn.toList)
    (awsError "AWS executor is not the pinned short-lived role")
  return arn

/-- `assert_identity`. -/
def assertIdentity : Driver String :=
  request none ["sts", "get-caller-identity", "--output", "json"] fun result => do
    let document ← client.jsonOf "resolve the executor identity" false result
    client.readIdentity document

/-- What `stack` accepts. -/
def readStack (document : Json) : Except PyError Document :=
  match document.mappingGet "Stacks" with
  | .arr [.obj stack] => do
    let stackId := (Document.get stack "StackId").str?
    let expected := ":" ++ client.identity.accountId ++ ":stack/" ++ client.identity.stackName ++
      "/"
    raiseIf (¬stackId.any (hasSubtext expected))
      (awsError "CloudFormation stack identity does not match the pinned target")
    raiseIf (¬(Document.get stack "RoleARN").equal
        (.ofOption client.identity.cloudformationServiceRoleArn))
      (awsError "CloudFormation stack service role differs from the approved baseline")
    return stack
  | .arr [_] => .error (awsError "CloudFormation stack response is malformed")
  | _ => .error (awsError "CloudFormation did not return exactly one pinned stack")

/-- `stack`. -/
def stack : Driver Document :=
  request none ["cloudformation", "describe-stacks", "--stack-name", client.identity.stackName,
      "--region", client.identity.region, "--output", "json"] fun result => do
    let document ← client.jsonOf "read the CloudFormation stack" false result
    client.readStack document

/-- What `template` accepts. -/
def readTemplate (document : Json) : Except PyError Document :=
  match document.mappingGet "TemplateBody" with
  | .obj template => do
    let resources ← sectionOr template "Resources"
    let resource := resources.get client.identity.logicalResourceId
    raiseIf ((resource.mappingGet "Type").str? ≠ some "AWS::S3::Bucket")
      (awsError "pinned CloudFormation resource is not an S3 bucket")
    raiseIf (((resource.mappingGet "Properties").mappingGet "BucketName").str? ≠
        some client.identity.bucketName)
      (awsError "CloudFormation template does not own the pinned bucket")
    return template
  | _ => .error (awsError "CloudFormation response has no template object")

/-- The command that reads the deployed template. -/
def templateCommand : List String :=
  ["cloudformation", "get-template", "--stack-name", client.identity.stackName,
    "--template-stage", "Processed", "--region", client.identity.region, "--output", "json"]

/-- What `template` makes of the answer of its command. -/
def templateOf (result : CommandResult) : Except PyError Document := do
  let document ← client.jsonOf "read the deployed CloudFormation template" false result
  client.readTemplate document

/-- `template`. -/
def template : Driver Document := request none client.templateCommand client.templateOf

/-- What `versioning` accepts. -/
def readVersioning (document : Json) : Except PyError String :=
  match document with
  | .obj entries => do
    let status := Document.get entries "Status"
    if status.isNull then return "Disabled"
    else
      let supported ← searchSet ["Enabled", "Suspended"] status
      raiseIf (¬supported) (awsError ("S3 returned an unsupported versioning state " ++
        client.library.repr status))
      return client.library.platform.str status
  | _ => .error (awsError "S3 versioning response is malformed")

/-- `versioning`. -/
def versioning : Driver String :=
  request none ["s3api", "get-bucket-versioning", "--bucket", client.identity.bucketName,
      "--expected-bucket-owner", client.identity.accountId, "--region", client.identity.region,
      "--output", "json"] fun result => do
    let document ← client.jsonOf "read S3 bucket versioning" true result
    client.readVersioning document

/-- The command that starts an update of the stack. -/
def updateCommand (path token : String) : List String :=
  ["cloudformation", "update-stack", "--stack-name", client.identity.stackName,
    "--template-body", "file://" ++ path, "--capabilities", "CAPABILITY_NAMED_IAM",
    "CAPABILITY_AUTO_EXPAND", "--client-request-token", token, "--region",
    client.identity.region, "--output", "json"]

/-- What `update` accepts. -/
def readUpdate (document : Json) : Except PyError Unit :=
  raiseIf (¬(document.mappingGet "StackId").str?.any (hasSubtext client.identity.accountId))
    (awsError "CloudFormation update did not return the pinned stack")

/-- `update`. -/
def update (path token : String) : Driver Unit := do
  let regular ← issue (.isRegular path)
  let size ← (if regular then issue (.fileSize path) else .ret 0 : Driver ℕ)
  .raiseIf (regular = false ∨ 51200 < size)
    (awsError "approved CloudFormation template is missing or exceeds 51,200 bytes")
  request none (client.updateCommand path token) fun result => do
    let document ← client.jsonOf "start the approved CloudFormation update" false result
    client.readUpdate document

/-- `wait_for_update`. -/
def waitForUpdate : Driver Unit :=
  request (some 900) ["cloudformation", "wait", "stack-update-complete", "--stack-name",
      client.identity.stackName, "--region", client.identity.region] fun result =>
    raiseIf (result.exitCode ≠ 0)
      (awsError ("CloudFormation update did not complete successfully: " ++
        textOrElse (result.diagnosis client.library.platform)
          ("exit " ++ toString result.exitCode)))

end AwsS3CloudFormationClient

end ElCapitan
