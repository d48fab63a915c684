import ElCapitan.Infrastructure.Commands
import ElCapitan.Infrastructure.Templates

/-!
# Linking a bucket to a CDK construct

`_state` and `link_aws_cdk_s3_bucket`: a finding's bucket is linked to the construct of a state
document when the document is well formed, its template has the bucket, and the source in the
repository is the one the document names.
-/

namespace ElCapitan

section patterns

/-- `[0-9]`. -/
def asciiDigit (c : Char) : Bool := '0' ≤ c && c ≤ '9'

/-- `[a-z]`. -/
def asciiLower (c : Char) : Bool := 'a' ≤ c && c ≤ 'z'

/-- One or more characters of a class. -/
def someOf (class' : Char → Bool) (text : List Char) : Bool := !text.isEmpty && text.all class'

/-- What follows the first of these beginnings that a text has. -/
def afterOneOf (beginnings : List String) (text : List Char) : Option (List Char) :=
  beginnings.findSome? fun beginning =>
    if beginning.toList.isPrefixOf text then some (text.drop beginning.length) else none

/-- `_S3_ARN.fullmatch`, with its bucket. -/
def s3ArnBucket (arn : String) : Option String :=
  (afterOneOf ["arn:aws:s3:::", "arn:aws-us-gov:s3:::", "arn:aws-cn:s3:::"] arn.toList).bind
    fun bucket => if someOf (fun c => c ≠ '/') bucket then some (String.ofList bucket) else none

/-- `_ACCOUNT.fullmatch`. -/
def isAccount (text : String) : Bool := text.length = 12 && text.toList.all asciiDigit

/-- `_REGION.fullmatch`. -/
def isRegion (text : String) : Bool :=
  let area (part : List Char) : Bool := part.length = 2 && part.all asciiLower
  match text.toList.splitOnP fun c => c = '-' with
  | [first, second, third] => area first && someOf asciiLower second && someOf asciiDigit third
  | [first, ['g', 'o', 'v'], second, third] =>
    area first && someOf asciiLower second && someOf asciiDigit third
  | _ => false

/-- `_ROLE_ARN.fullmatch`, with its account. -/
def roleArnAccount (arn : String) : Option String :=
  (afterOneOf ["arn:aws:iam::", "arn:aws-us-gov:iam::", "arn:aws-cn:iam::"] arn.toList).bind
    fun rest =>
      let role := ":role/".toList
      if isAccount (String.ofList (rest.take 12)) ∧ role.isPrefixOf (rest.drop 12) ∧
          someOf (fun c => c ≠ '\n') (rest.drop (12 + role.length)) then
        some (String.ofList (rest.take 12))
      else none

end patterns

/-- `AwsCdkLink`. -/
structure AwsCdkLink where
  resourceUid : String
  sourcePath : String
  modulePath : String
  resourceType : String
  resourceName : String
  startLine : ℕ
  endLine : ℕ
  matchStrategy : String
  confidence : ℚ
  sourceSha256 : String
  resourceAddress : String
  stateSha256 : String
  iacEngine : String
  stackName : String
  logicalResourceId : String
  constructId : String
  accountId : String
  region : String
  executorRoleArn : String
  cloudformationServiceRoleArn : Option String
  rollbackMode : String

/-- A repository as the linker sees it: its paths, the files it may edit and their texts. -/
structure CdkRepository where
  /-- `(root / path).resolve(strict=True)`. -/
  resolve : String → Except PyError String
  isSymlink : String → Bool
  isDirectory : String → Bool
  /-- `path.relative_to(root).as_posix()`, where the path is inside. -/
  relativeToRoot : String → Option String
  /-- `path.is_relative_to(other)`. -/
  isRelativeTo : String → String → Bool
  /-- `_typescript_files`. -/
  typescriptFiles : List String
  readText : String → Except PyError String
  hashFile : String → Except PyError String
  /-- `_matching_construct`: where the construct with an id begins and ends in a text. -/
  matchingConstruct : String → String → Except PyError (Option (ℕ × ℕ))

section linking

variable (L : CommandLibrary)

/-- The texts that a state document has to have. -/
def requiredStrings : List String :=
  ["stack_name", "logical_resource_id", "construct_id", "source_path", "module_path",
    "source_sha256", "account_id", "region", "executor_role_arn"]

/-- The service role of a state document is recorded, and belongs to its account. -/
def checkServiceRole (document : Document) : Except PyError Unit :=
  match document.lookup "cloudformation_service_role_arn" with
  | none => .error (cdkError
      "AWS CDK state must record the CloudFormation service-role baseline")
  | some role => raiseIf (¬role.isNull ∧
      roleArnAccount (L.platform.str role) ≠ (document.get "account_id").str?)
      (cdkError "AWS CDK state has an invalid CloudFormation service role")

/-- `_state`: the document, its template and the properties of its bucket. -/
def cdkState (state : Option Json) : Except PyError (Document × Document × Document) :=
  match state with
  | some (.obj document) => do
    raiseIf ((Document.get document "format").str? ≠ some "ElCapitanAwsCdkState.v1")
      (cdkError "AWS CDK state format must be ElCapitanAwsCdkState.v1")
    let missing := requiredStrings.filter fun name => Document.text document name = ""
    raiseIf (missing ≠ []) (cdkError ("AWS CDK state is missing: " ++ ", ".intercalate missing))
    raiseIf (¬isAccount (Document.text document "account_id"))
      (cdkError "AWS CDK state has an invalid account_id")
    raiseIf (¬isRegion (Document.text document "region"))
      (cdkError "AWS CDK state has an invalid region")
    raiseIf (roleArnAccount (Document.text document "executor_role_arn") ≠
        some (Document.text document "account_id"))
      (cdkError "AWS CDK state has an invalid executor role")
    checkServiceRole L document
    match Document.get document "deployed_template" with
    | .obj template => do
      let properties ← bucketProperties "deployed template has no Resources object"
        "deployed template logical resource is not an AWS::S3::Bucket"
        "deployed S3 resource has no Properties object" template
        (Document.text document "logical_resource_id")
      return (document, template, properties)
    | _ => .error (cdkError "AWS CDK state has no deployed template object")
  | _ => .error (cdkError "AWS CDK planning requires a state document")

/-- The deployed versioning is absent or suspended, and is it a mapping? -/
def priorVersioning (versioning : Json) : Except PyError Bool :=
  match versioning with
  | .null => .ok false
  | .obj entries => do
    let known ← searchSet ["Enabled", "Suspended"] (Document.get entries "Status")
    raiseIf (¬known) (cdkError "deployed template has an invalid VersioningConfiguration")
    raiseIf (hasStatus "Enabled" versioning)
      (cdkError "deployed template already enables S3 versioning")
    return true
  | _ => .error (cdkError "deployed template has an invalid VersioningConfiguration")

/-- The source of a construct: its file, its module, its digest and its first and last line. -/
structure CdkSource where
  sourcePath : String
  modulePath : String
  sourceSha256 : String
  startLine : ℕ
  endLine : ℕ

/-- `text.count("\n", 0, end) + 1`. -/
def lineAt (text : String) (position : ℕ) : ℕ := (text.toList.take position).count '\n' + 1

/-- The part of `link_aws_cdk_s3_bucket` that finds the construct in the repository. -/
def CdkRepository.locate (repository : CdkRepository) (document : Document) :
    Except PyError CdkSource := do
  let constructId := document.text "construct_id"
  let requested ← repository.resolve (document.text "source_path")
  let sourcePath := repository.relativeToRoot requested
  raiseIf (sourcePath.isNone ∨ repository.isSymlink requested)
    (cdkError "AWS CDK source path escapes the repository")
  raiseIf (requested ∉ repository.typescriptFiles)
    (cdkError "AWS CDK source path is not an eligible TypeScript file")
  let moduleDirectory ← repository.resolve (document.text "module_path")
  let modulePath := repository.relativeToRoot moduleDirectory
  raiseIf (modulePath.isNone ∨ ¬repository.isDirectory moduleDirectory ∨
      repository.isSymlink moduleDirectory)
    (cdkError "AWS CDK module path escapes the repository")
  raiseIf (¬repository.isRelativeTo requested moduleDirectory)
    (cdkError "AWS CDK source path is outside the module path")
  let text ← repository.readText requested
  raiseIf (2 * 1024 * 1024 < text.utf8ByteSize) (cdkError "AWS CDK source exceeds 2 MiB")
  let sourceSha256 ← repository.hashFile requested
  raiseIf (sourceSha256 ≠ document.text "source_sha256")
    (cdkError "AWS CDK source digest does not match the state document")
  let bounds ← repository.matchingConstruct text constructId
  match bounds with
  | none => .error (cdkError ("no s3.Bucket construct uses id " ++ L.repr (.str constructId)))
  | some (start, stop) =>
    return { sourcePath := sourcePath.getD "", modulePath := modulePath.getD "", sourceSha256,
             startLine := lineAt text start, endLine := lineAt text stop }

/-- `link_aws_cdk_s3_bucket`. -/
def linkAwsCdkS3Bucket (repository : CdkRepository) (provider resourceUid : String)
    (state : Option Json) : Except PyError AwsCdkLink := do
  raiseIf (provider ≠ "aws") (cdkError "AWS CDK linker accepts only provider 'aws'")
  match s3ArnBucket resourceUid with
  | none => .error (cdkError "AWS CDK target is not a bucket-level S3 ARN")
  | some bucket => do
    let (document, _, properties) ← cdkState L state
    raiseIf ((properties.get "BucketName").str? ≠ some bucket)
      (cdkError "deployed template bucket name does not match the finding resource")
    let isMapping ← priorVersioning (properties.get "VersioningConfiguration")
    let source ← repository.locate L document
    let logicalId := document.text "logical_resource_id"
    return { resourceUid, sourcePath := source.sourcePath, modulePath := source.modulePath,
             resourceType := "AWS::S3::Bucket", resourceName := document.text "construct_id",
             startLine := source.startLine, endLine := source.endLine,
             matchStrategy := "cloudformation_stack_logical_id_and_cdk_construct",
             confidence := 1,
             sourceSha256 := source.sourceSha256,
             resourceAddress := document.text "stack_name" ++ "." ++ logicalId,
             stateSha256 := L.platform.canonicalHash (.obj document),
             iacEngine := "aws_cdk_cloudformation", stackName := document.text "stack_name",
             logicalResourceId := logicalId, constructId := document.text "construct_id",
             accountId := document.text "account_id", region := document.text "region",
             executorRoleArn := document.text "executor_role_arn",
             cloudformationServiceRoleArn :=
              let role := document.get "cloudformation_service_role_arn"
              if role.isNull then none else some (L.platform.str role),
             rollbackMode := if isMapping then "exact" else "containment" }

end linking

end ElCapitan
