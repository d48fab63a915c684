import ElCapitan.Infrastructure.AwsDriver
import ElCapitan.Services.Execution

/-!
# Drift of a stack

The stack may be changed by others between any two commands of a driver. A monitor records the
templates that the driver reads; the forward update is issued over the template read last, which
is the one the checkpoint read.
-/

namespace ElCapitan

open Effects

namespace AwsS3CloudFormationClient

variable (client : AwsS3CloudFormationClient)

/-- The template that an event showed: the answer of the command that reads it, where the client
accepts it. -/
def templateRead : Event driverOperations PyError → Option Document
  | ⟨.runCommand argv none, .ok result⟩ =>
    if argv = client.templateCommand then (client.templateOf result).toOption else none
  | _ => none

/-- The templates read in a trace, oldest first. -/
def templatesRead (trace : DriverTrace) : List Document := trace.filterMap client.templateRead

/-- The monitor that collects the templates read. -/
def watchTemplates (reads : List Document) (event : Event driverOperations PyError) :
    List Document :=
  reads ++ (client.templateRead event).toList

/-- Watching a run appends the templates it read. -/
theorem foldl_watchTemplates (trace : DriverTrace) (reads : List Document) :
    trace.foldl client.watchTemplates reads = reads ++ client.templatesRead trace := by
  induction trace generalizing reads with
  | nil => simp [templatesRead]
  | cons event trace ih =>
    rw [List.foldl_cons, ih, watchTemplates, templatesRead, templatesRead, List.filterMap_cons]
    cases client.templateRead event <;> simp

end AwsS3CloudFormationClient

/-- Is the operation an update of a stack? -/
def DriverOp.isUpdate : DriverOp → Bool
  | .runCommand ("cloudformation" :: "update-stack" :: _) _ => true
  | _ => false

/-- Is the operation a reading of a stack's template? -/
def DriverOp.readsTemplate : DriverOp → Bool
  | .runCommand ("cloudformation" :: "get-template" :: _) _ => true
  | _ => false

/-- An operation that neither reads a template nor updates a stack. -/
def DriverOp.Quiet (o : DriverOp) : Prop := o.isUpdate = false ∧ o.readsTemplate = false

/-- The hash of the deployed template that the approved plan records. -/
def ExecutionContext.reviewedHash (context : ExecutionContext) : Option String :=
  ((context.plan.body.get "deployment").mappingGet "deployed_template_sha256").str?

namespace AwsS3VersioningCloudFormationDriver

variable (driver : AwsS3VersioningCloudFormationDriver)

/-- What `ExecutionService.execute` asks of the driver up to the deployment. -/
def preparedDeploy (context : ExecutionContext) : Driver ActionStep := do
  let preflight ← driver.preflight context
  .raiseIf (preflight.passed = false)
    (actionPlaneError ("execution preflight failed: " ++ preflight.detail))
  let checkpoint ← driver.checkpoint context
  driver.deploy context checkpoint

end AwsS3VersioningCloudFormationDriver

section quiet

variable {client : AwsS3CloudFormationClient} {driver : AwsS3VersioningCloudFormationDriver}
  {context : ExecutionContext}

/-- A request to the command line uses the one command. -/
theorem uses_request {α : Type} {F : DriverOp → Prop} {timeoutSeconds : Option ℕ}
    {argv : List String} {read : CommandResult → Except PyError α}
    (h : F (.runCommand argv timeoutSeconds)) :
    Prog.Uses F (request timeoutSeconds argv read) :=
  (Prog.uses_perform h).bind fun _ => Prog.uses_ofExcept

/-- An operation that reads no template leaves what was watched alone. -/
theorem watchTemplates_quiet (reads : List Document) (o : DriverOp)
    (r : Except PyError o.Answer) (h : o.readsTemplate = false) :
    client.watchTemplates reads ⟨o, r⟩ = reads := by
  unfold AwsS3CloudFormationClient.watchTemplates AwsS3CloudFormationClient.templateRead
  split
  · rename_i argv result heq
    obtain ⟨rfl, -⟩ := Event.mk.inj heq
    have hargv : argv ≠ client.templateCommand := by
      rintro rfl
      exact absurd h (by simp [DriverOp.readsTemplate, AwsS3CloudFormationClient.templateCommand])
    simp [hargv]
  · simp

/-- Asserting the identity neither reads a template nor updates the stack. -/
theorem assertIdentity_quiet : client.assertIdentity.Uses DriverOp.Quiet :=
  uses_request ⟨rfl, rfl⟩

/-- Describing the stack neither reads a template nor updates the stack. -/
theorem stack_quiet : client.stack.Uses DriverOp.Quiet := uses_request ⟨rfl, rfl⟩

/-- Reading the versioning neither reads a template nor updates the stack. -/
theorem versioning_quiet : client.versioning.Uses DriverOp.Quiet := uses_request ⟨rfl, rfl⟩

/-- An update reads no template. -/
theorem update_reads (path token : String) :
    (client.update path token).Uses fun o : DriverOp => o.readsTemplate = false := by
  refine (Prog.uses_perform (by rfl)).bind fun regular => ?_
  refine Prog.Uses.bind ?_ fun size => ?_
  · split
    · exact Prog.uses_perform (by rfl)
    · exact trivial
  · exact Prog.uses_raiseIf.bind fun _ => uses_request (by rfl)

/-- Resolving the templates of the plan neither reads the stack's template nor updates the stack. -/
theorem artifacts_quiet : (driver.artifacts context).Uses DriverOp.Quiet := by
  unfold AwsS3VersioningCloudFormationDriver.artifacts
  have htemplate : ∀ deployment artifactNamespace name,
      (driver.templateFile context deployment artifactNamespace name).Uses DriverOp.Quiet := by
    intro deployment artifactNamespace name
    unfold AwsS3VersioningCloudFormationDriver.templateFile
    split
    · exact trivial
    · exact (Prog.uses_perform ⟨rfl, rfl⟩).handle fun e => trivial
  have hcheck : ∀ deployment path name,
      (AwsS3VersioningCloudFormationDriver.checkTemplate deployment path name).Uses
        DriverOp.Quiet := by
    intro deployment path name
    refine (Prog.uses_perform ⟨rfl, rfl⟩).bind fun regular => ?_
    refine Prog.uses_raiseIf.bind fun _ => ?_
    exact (Prog.uses_perform ⟨rfl, rfl⟩).bind fun digest => Prog.uses_raiseIf
  refine Prog.uses_bind_ofExcept fun approved _ => ?_
  refine (htemplate _ _ _).bind fun forward => ?_
  refine (htemplate _ _ _).bind fun rollback => ?_
  refine (hcheck _ _ _).bind fun _ => ?_
  exact (hcheck _ _ _).bind fun _ => trivial

/-- The approved deployment is the one of the plan. -/
theorem approvedDeployment_plan {approved : Document × String}
    (h : driver.approvedDeployment context = .ok approved) :
    context.plan.body.get "deployment" = .obj approved.1 := by
  unfold AwsS3VersioningCloudFormationDriver.approvedDeployment at h
  split at h
  · rename_i link deployment hlink hdeployment
    simp only [except_bind_eq_ok] at h
    obtain ⟨_, -, _, -, _, -, _, -, _, -, h⟩ := h
    split at h
    · cases h
      exact hdeployment
    · cases h
  · cases h

/-- The deployment that `_artifacts` returns is the approved plan's. -/
theorem artifacts_returns : (driver.artifacts context).Returns fun approved =>
    context.plan.body.get "deployment" = .obj approved.deployment := by
  unfold AwsS3VersioningCloudFormationDriver.artifacts
  refine Prog.returns_bind_ofExcept fun approved happroved => ?_
  refine Prog.returns_bind fun forward => ?_
  refine Prog.returns_bind fun rollback => ?_
  refine Prog.returns_bind fun _ => ?_
  refine Prog.returns_bind fun _ => ?_
  exact approvedDeployment_plan happroved

/-- The deployed template is read, or the reading raises. -/
theorem readTemplate_sat {α : Type} {G : List Document → DriverOp → Prop} {reads : List Document}
    {f : Document → Driver α} {Q : Except PyError α → List Document → Prop}
    (hpermitted : G reads (.runCommand client.templateCommand none))
    (hnext : ∀ template, Sat (Env.watching client.watchTemplates) G (f template) Q
      (reads ++ [template]))
    (hraise : ∀ e, Q (.error e) reads) :
    Sat (Env.watching client.watchTemplates) G (client.template.bind f) Q reads := by
  unfold AwsS3CloudFormationClient.template request
  rw [Prog.bind_eq, Prog.bind_assoc, sat_bind_perform]
  refine ⟨hpermitted, fun result => ?_, fun e => ?_⟩
  · rw [sat_bind_ofExcept]
    refine ⟨fun template htemplate => ?_, fun e he => ?_⟩
    · have hwatch : client.watchTemplates reads
          ⟨.runCommand client.templateCommand none, .ok result⟩ = reads ++ [template] := by
        simp [AwsS3CloudFormationClient.watchTemplates, AwsS3CloudFormationClient.templateRead,
          htemplate, Except.toOption]
      rw [hwatch]
      exact hnext template
    · have hwatch : client.watchTemplates reads
          ⟨.runCommand client.templateCommand none, .ok result⟩ = reads := by
        simp [AwsS3CloudFormationClient.watchTemplates, AwsS3CloudFormationClient.templateRead,
          he, Except.toOption]
      rw [hwatch]
      exact hraise e
  · have hwatch : client.watchTemplates reads
        ⟨.runCommand client.templateCommand none, .error e⟩ = reads := by
      simp [AwsS3CloudFormationClient.watchTemplates, AwsS3CloudFormationClient.templateRead]
    rw [hwatch]
    exact hraise e

end quiet

section drift

variable {driver : AwsS3VersioningCloudFormationDriver} {context : ExecutionContext}
  {reads : List Document}

/-- An update of the stack is issued only after three readings of its template: of the
preflight, of the checkpoint and of the deployment. -/
def ReadThrice (driver : AwsS3VersioningCloudFormationDriver) (context : ExecutionContext)
    (reads : List Document) : Prop :=
  ∃ atPreflight atCheckpoint atDeploy, reads = [atPreflight, atCheckpoint, atDeploy] ∧
    context.reviewedHash = some (driver.templateSha256 atPreflight) ∧
    driver.templateSha256 atDeploy = driver.templateSha256 atCheckpoint

/-- Updates are issued only in such a state. -/
def MayUpdate (driver : AwsS3VersioningCloudFormationDriver) (context : ExecutionContext)
    (reads : List Document) (o : DriverOp) : Prop :=
  o.isUpdate = true → ReadThrice driver context reads

/-- An operation that updates nothing is permitted. -/
theorem mayUpdate_of_quiet (o : DriverOp) (h : o.isUpdate = false) :
    MayUpdate driver context reads o :=
  fun hupdate => absurd hupdate (by simp [h])

/-- After the stack's template is read, the rest is run with it watched. -/
theorem template_sat {α : Type} {f : Document → Driver α}
    {Q : Except PyError α → List Document → Prop}
    (hnext : ∀ template, Sat (Env.watching driver.client.watchTemplates) (MayUpdate driver context)
      (f template) Q (reads ++ [template]))
    (hraise : ∀ e, Q (.error e) reads) :
    Sat (Env.watching driver.client.watchTemplates) (MayUpdate driver context)
      (driver.client.template.bind f) Q reads :=
  readTemplate_sat (mayUpdate_of_quiet _ rfl) hnext hraise

/-- A part of the driver that reads no template and updates nothing. -/
theorem quiet_sat {α β : Type} {R : α → Prop} {p : Driver α} {f : α → Driver β}
    {Q : Except PyError β → List Document → Prop} (hp : p.Uses DriverOp.Quiet)
    (hreturns : p.Returns R)
    (hnext : ∀ a, R a → Sat (Env.watching driver.client.watchTemplates) (MayUpdate driver context)
      (f a) Q reads) (hraise : ∀ e, Q (.error e) reads) :
    Sat (Env.watching driver.client.watchTemplates) (MayUpdate driver context) (p.bind f) Q
      reads :=
  hp.sat_bind_returns hreturns (fun reads o r ho => watchTemplates_quiet reads o r ho.2)
    (fun o ho => mayUpdate_of_quiet o ho.1) hnext hraise

/-- A preflight that passes has read the reviewed template. -/
theorem preflight_sat : Sat (Env.watching driver.client.watchTemplates) (MayUpdate driver context)
    (driver.preflight context) (fun r reads' => ∀ step, r = .ok step → step.passed = true →
      ∃ template, reads' = reads ++ [template] ∧
        context.reviewedHash = some (driver.templateSha256 template)) reads := by
  unfold AwsS3VersioningCloudFormationDriver.preflight refusing
  rw [sat_handle]
  have hrefused : ∀ (e : PyError) (reads' : List Document),
      Sat (Env.watching driver.client.watchTemplates) (MayUpdate driver context)
        (if e.kind.isAwsFailure then
            return { name := "preflight", passed := false, detail := e.message, payload := [] }
          else .raise e : Driver ActionStep)
        (fun r reads' => ∀ step, r = .ok step → step.passed = true →
          ∃ template, reads' = reads ++ [template] ∧
            context.reviewedHash = some (driver.templateSha256 template)) reads' := by
    intro e reads'
    split
    · rintro step hstep hpassed
      cases hstep
      cases hpassed
    · rintro step hstep
      cases hstep
  refine quiet_sat artifacts_quiet artifacts_returns (fun approved happroved => ?_)
    fun e => hrefused e _
  refine quiet_sat assertIdentity_quiet Prog.returns_true (fun executorArn _ => ?_)
    fun e => hrefused e _
  refine quiet_sat stack_quiet Prog.returns_true (fun stack _ => ?_) fun e => hrefused e _
  refine sat_bind_ofExcept.mpr ⟨fun stable _ => ?_, fun e _ => hrefused e _⟩
  refine sat_bind_raiseIf.mpr ⟨fun _ => ?_, fun _ => hrefused _ _⟩
  refine template_sat (fun template => ?_) fun e => hrefused e _
  refine sat_bind_raiseIf.mpr ⟨fun hreviewed => ?_, fun _ => hrefused _ _⟩
  refine quiet_sat versioning_quiet Prog.returns_true (fun versioning _ => ?_)
    fun e => hrefused e _
  refine sat_bind_raiseIf.mpr ⟨fun _ => ?_, fun _ => hrefused _ _⟩
  rintro step - -
  refine ⟨template, rfl, ?_⟩
  rw [ExecutionContext.reviewedHash, happroved]
  exact not_not.mp hreviewed

/-- A checkpoint records the hash of the template it reads. -/
theorem checkpoint_sat : Sat (Env.watching driver.client.watchTemplates) (MayUpdate driver context)
    (driver.checkpoint context) (fun r reads' => ∀ checkpoint, r = .ok checkpoint →
      ∃ template, reads' = reads ++ [template] ∧
        (checkpoint.payload.get "template_sha256").str? = some (driver.templateSha256 template))
    reads := by
  have hraised : ∀ (e : PyError) (reads' : List Document), ∀ checkpoint : DeploymentCheckpoint,
      (.error e : Except PyError DeploymentCheckpoint) = .ok checkpoint →
      ∃ template, reads' = reads ++ [template] ∧
        (checkpoint.payload.get "template_sha256").str? =
          some (driver.templateSha256 template) := by
    intro e reads' checkpoint h
    cases h
  unfold AwsS3VersioningCloudFormationDriver.checkpoint
  refine quiet_sat artifacts_quiet artifacts_returns (fun approved _ => ?_) fun e => hraised e _
  refine template_sat (fun template => ?_) fun e => hraised e _
  refine quiet_sat versioning_quiet Prog.returns_true (fun versioning _ => ?_)
    fun e => hraised e _
  refine quiet_sat (Prog.uses_perform ⟨rfl, rfl⟩) Prog.returns_true (fun checkpointId _ => ?_)
    fun e => hraised e _
  rintro checkpoint hcheckpoint
  cases hcheckpoint
  exact ⟨template, rfl, rfl⟩

/-- The template of a deployment that goes on has the hash of the checkpoint. -/
theorem drifted_sat {checkpoint : DeploymentCheckpoint} {α : Type} {f : Bool → Driver α}
    {Q : Except PyError α → List Document → Prop}
    (hnext : ∀ template drift, (drift = false →
        (checkpoint.payload.get "template_sha256").str? = some (driver.templateSha256 template)) →
      Sat (Env.watching driver.client.watchTemplates) (MayUpdate driver context) (f drift) Q
        (reads ++ [template]))
    (hraise : ∀ e reads', Q (.error e) reads') :
    Sat (Env.watching driver.client.watchTemplates) (MayUpdate driver context)
      ((driver.drifted checkpoint).bind f) Q reads := by
  unfold AwsS3VersioningCloudFormationDriver.drifted
  rw [Prog.bind_eq, Prog.bind_assoc]
  refine template_sat (fun template => ?_) fun e => hraise e _
  split
  · exact hnext template true fun h => Bool.noConfusion h
  · rename_i hsame
    rw [Prog.bind_eq, Prog.bind_assoc]
    refine quiet_sat versioning_quiet Prog.returns_true (fun versioning _ => ?_)
      fun e => hraise e _
    exact hnext template _ fun _ => not_not.mp hsame

/-- Where an update may be issued, a part that issues one is permitted. -/
theorem permitted_sat {α β : Type} {p : Driver α} {f : α → Driver β}
    {Q : Except PyError β → List Document → Prop} (hreads : ReadThrice driver context reads)
    (hp : p.Uses fun o : DriverOp => o.readsTemplate = false)
    (hnext : ∀ a, Sat (Env.watching driver.client.watchTemplates) (MayUpdate driver context) (f a)
      Q reads) (hraise : ∀ e, Q (.error e) reads) :
    Sat (Env.watching driver.client.watchTemplates) (MayUpdate driver context) (p.bind f) Q
      reads :=
  hp.sat_bind (fun reads o r ho => watchTemplates_quiet reads o r ho) (fun _ _ _ => hreads) hnext
    hraise

/-- A part without updates is permitted everywhere. -/
theorem noUpdate_sat {α : Type} {p : Driver α}
    (hp : p.Uses fun o : DriverOp => o.isUpdate = false) :
    Sat (Env.watching driver.client.watchTemplates) (MayUpdate driver context) p
      (fun _ _ => True) reads := by
  induction p generalizing reads with
  | ret a => trivial
  | raise e => trivial
  | call o next ih =>
    rw [sat_call_watching]
    exact ⟨mayUpdate_of_quiet o hp.1, fun r => ih r (hp.2 r)⟩

/-- The update and what follows it, after three readings. -/
theorem applyForward_sat {approved : AwsArtifacts} (hreads : ReadThrice driver context reads) :
    Sat (Env.watching driver.client.watchTemplates) (MayUpdate driver context)
      (driver.applyForward approved) (fun _ _ => True) reads := by
  unfold AwsS3VersioningCloudFormationDriver.applyForward
  refine permitted_sat hreads (Prog.uses_perform (by rfl)) (fun token => ?_) fun _ => trivial
  refine permitted_sat hreads (update_reads _ _) (fun _ => ?_) fun _ => trivial
  refine noUpdate_sat ((uses_request (by rfl)).bind fun _ => ?_)
  refine (Prog.uses_perform (by rfl)).bind fun _ => ?_
  refine (uses_request (by rfl)).bind fun template => ?_
  exact (uses_request (by rfl)).bind fun versioning => trivial

/-- A deployment updates the stack only where its template still is the checkpoint's. -/
theorem deploy_sat {checkpoint : DeploymentCheckpoint} {atPreflight atCheckpoint : Document}
    (hpreflight : context.reviewedHash = some (driver.templateSha256 atPreflight))
    (hcheckpoint : (checkpoint.payload.get "template_sha256").str? =
      some (driver.templateSha256 atCheckpoint)) :
    Sat (Env.watching driver.client.watchTemplates) (MayUpdate driver context)
      (driver.deploy context checkpoint) (fun _ _ => True) [atPreflight, atCheckpoint] := by
  unfold AwsS3VersioningCloudFormationDriver.deploy
  refine quiet_sat artifacts_quiet artifacts_returns (fun approved _ => ?_) fun _ => trivial
  split
  · trivial
  refine drifted_sat (fun template drift hsame => ?_) fun _ _ => trivial
  cases drift with
  | true => exact trivial
  | false =>
    have hhash := hsame rfl
    rw [hcheckpoint, Option.some.injEq] at hhash
    have hreads : ReadThrice driver context [atPreflight, atCheckpoint, template] :=
      ⟨atPreflight, atCheckpoint, template, rfl, hpreflight, hhash.symm⟩
    change Sat _ _ (Prog.handle _ _) _ _
    rw [sat_handle]
    refine (applyForward_sat hreads).mono ?_
    rintro (e | step) reads' -
    · dsimp only
      split
      · trivial
      · trivial
    · trivial

/-- Every update is issued after the three readings. -/
theorem preparedDeploy_sat : Sat (Env.watching driver.client.watchTemplates)
    (MayUpdate driver context) (driver.preparedDeploy context) (fun _ _ => True) [] := by
  unfold AwsS3VersioningCloudFormationDriver.preparedDeploy
  refine sat_bind.mpr (preflight_sat.mono ?_)
  rintro (e | preflight) reads hpreflight
  · trivial
  refine sat_bind_raiseIf.mpr ⟨fun hpassed => ?_, fun _ => trivial⟩
  obtain ⟨atPreflight, rfl, hreviewed⟩ := hpreflight preflight rfl (by simpa using hpassed)
  refine sat_bind.mpr (checkpoint_sat.mono ?_)
  rintro (e | checkpoint) reads hcheckpoint
  · trivial
  obtain ⟨atCheckpoint, rfl, hrecorded⟩ := hcheckpoint checkpoint rfl
  exact deploy_sat hreviewed hrecorded

/-- An update is issued over a template with the reviewed hash exactly where the template that
the checkpoint read has the reviewed hash. -/
theorem update_over_reviewed_iff {out : Except PyError ActionStep}
    {trace earlier later : DriverTrace} {event : Event driverOperations PyError}
    (hrun : Runs (Env.recording driverOperations PyError) (driver.preparedDeploy context) [] out
      trace)
    (htrace : trace = earlier ++ event :: later) (hupdate : event.op.isUpdate = true) :
    ∃ atPreflight atCheckpoint atDeploy,
      driver.client.templatesRead earlier = [atPreflight, atCheckpoint, atDeploy] ∧
      context.reviewedHash = some (driver.templateSha256 atPreflight) ∧
      (context.reviewedHash = some (driver.templateSha256 atDeploy) ↔
        context.reviewedHash = some (driver.templateSha256 atCheckpoint)) := by
  have hrecorded := (@preparedDeploy_sat driver context).recorded (h := [])
  obtain ⟨atPreflight, atCheckpoint, atDeploy, hreads, hreviewed, hsame⟩ :=
    hrecorded.permits hrun htrace (Nat.zero_le _) hupdate
  rw [AwsS3CloudFormationClient.foldl_watchTemplates, List.nil_append] at hreads
  exact ⟨atPreflight, atCheckpoint, atDeploy, hreads, hreviewed, by rw [hsame]⟩

end drift

section samples

/-- The reviewed template, and the same with another queue. -/
def reviewedTemplate (resources : Document) : Document :=
  [("Resources", .obj (("Assets", .obj [("Type", .str "AWS::S3::Bucket"),
    ("Properties", .obj [("BucketName", .str "training-assets")])]) :: resources))]

/-- A platform that reads the answers of the sample run. -/
def stackPlatform : Platform :=
  { samplePlatform with
    jsonLoads := fun text =>
      if text = "identity" then some (.obj [("Account", .str "111122223333"),
        ("Arn", .str "arn:aws:sts::111122223333:assumed-role/executor/session")])
      else if text = "stack" then some (.obj [("Stacks", .arr [.obj [
        ("StackId", .str "arn:aws:cloudformation:us-east-1:111122223333:stack/Training/id"),
        ("StackStatus", .str "UPDATE_COMPLETE"), ("RoleARN", .null)]])])
      else if text = "reviewed" then some (.obj [("TemplateBody", .obj (reviewedTemplate []))])
      else if text = "changed" then some (.obj [("TemplateBody", .obj (reviewedTemplate
        [("Queue", .obj [("Type", .str "AWS::SQS::Queue")])]))])
      else if text = "updated" then some (.obj [
        ("StackId", .str "arn:aws:cloudformation:us-east-1:111122223333:stack/Training/id")])
      else none }

/-- The driver of the sample stack. -/
def stackDriver : AwsS3VersioningCloudFormationDriver where
  client :=
    { library := { platform := stackPlatform, repr := fun _ => "", decodeError := fun _ => "" },
      identity :=
        { resourceUid := "arn:aws:s3:::training-assets", bucketName := "training-assets",
          accountId := "111122223333", region := "us-east-1", stackName := "Training",
          logicalResourceId := "Assets",
          executorRoleArn := "arn:aws:iam::111122223333:role/executor",
          cloudformationServiceRoleArn := none } }
  propagationWaitSeconds := 900

/-- A record of the approved package. -/
def stackRecord (body : Document) : ProductRecord where
  recordId := "RECORD-1"
  caseId := "CASE-1"
  recordType := "Record.v1"
  schemaVersion := 1
  createdAt := "2026-09-03T00:00:00Z"
  body
  evidenceIds := []
  required := by decide
  schemaVersion_pos := Nat.one_pos

/-- The approved package for the sample stack. -/
def stackContext : ExecutionContext where
  case := sampleCase
  plan := stackRecord [("status", .str "verified"), ("artifact_namespace", .str "plan"),
    ("deployment", .obj [
      ("approved_change", .str "Resources.Assets.Properties.VersioningConfiguration.Status"),
      ("executor_role_arn", .str "arn:aws:iam::111122223333:role/executor"),
      ("cloudformation_service_role_arn", .null), ("write_freeze_seconds", .int 900),
      ("forward_template_path", .str "forward.json"),
      ("forward_template_sha256", .str "forward.json"),
      ("rollback_template_path", .str "rollback.json"),
      ("rollback_template_sha256", .str "rollback.json"),
      ("deployed_template_sha256", .str (stackDriver.templateSha256 (reviewedTemplate []))),
      ("rollback_mode", .str "containment")])]
  link := stackRecord [("link", .obj [("resource_uid", .str "arn:aws:s3:::training-assets"),
    ("iac_engine", .str "aws_cdk_cloudformation"), ("stack_name", .str "Training"),
    ("logical_resource_id", .str "Assets"), ("account_id", .str "111122223333"),
    ("region", .str "us-east-1"),
    ("executor_role_arn", .str "arn:aws:iam::111122223333:role/executor"),
    ("cloudformation_service_role_arn", .null)])]
  approval := stackRecord []
  window := stackRecord []
  artifactRoot := "artifacts"

/-- What the CLI prints for a command; the template read after the first time is `later`. -/
def stackOutput (later : String) (trace : DriverTrace) : List String → String
  | "sts" :: _ => "identity"
  | "cloudformation" :: "describe-stacks" :: _ => "stack"
  | "cloudformation" :: "get-template" :: _ =>
    if trace.any fun event => event.op.readsTemplate then later else "reviewed"
  | "cloudformation" :: "update-stack" :: _ => "updated"
  | _ => ""

/-- The environment of the sample run. -/
def stackReply (later : String) (trace : DriverTrace) :
    (o : DriverOp) → Except PyError o.Answer
  | .runCommand argv _ => .ok
    { exitCode := 0, stdout := stackOutput later trace argv, stderr := "" }
  | .resolveFile _ relativePath =>
    .ok (String.ofList (relativePath.toList.drop "plan/workspace/".length))
  | .isRegular _ => .ok true
  | .fileSize _ => .ok 100
  | .digestFile path => .ok path
  | .freshId kind => .ok kind
  | .sleep _ => .ok ()

/-- The sample run with its trace. -/
def playedDeploy (later : String) : Option (Except PyError ActionStep × DriverTrace) :=
  (stackDriver.preparedDeploy stackContext).follow
    (fun _ trace o => (stackReply later trace o, trace ++ [⟨o, stackReply later trace o⟩]))
    (fun _ => true) 0 []

/-- A played deployment is a run of the driver. -/
theorem playedDeploy_runs {later : String} {out : Except PyError ActionStep} {trace : DriverTrace}
    (h : playedDeploy later = some (out, trace)) :
    Runs (Env.recording driverOperations PyError) (stackDriver.preparedDeploy stackContext) [] out
      trace :=
  Prog.follow_runs (fun _ _ _ _ => rfl) h

/-- The parts of a played trace around its first update. -/
theorem exists_update (later : String) (check : DriverTrace → Bool)
    (h : (playedDeploy later).any (fun played =>
      (played.2.find? fun event => event.op.isUpdate).isSome &&
        check (played.2.takeWhile fun event => !event.op.isUpdate)) = true) :
    ∃ out earlier event later', Runs (Env.recording driverOperations PyError)
        (stackDriver.preparedDeploy stackContext) [] out (earlier ++ event :: later') ∧
      event.op.isUpdate = true ∧ check earlier = true := by
  obtain ⟨⟨out, trace⟩, hplayed, hchecks⟩ := (Option.any_eq_true _ _).mp h
  rw [Bool.and_eq_true] at hchecks
  obtain ⟨event, hfind⟩ := Option.isSome_iff_exists.mp hchecks.1
  obtain ⟨hupdate, earlier, later', rfl, hearlier⟩ := List.find?_eq_some_iff_append.mp hfind
  have htake : (earlier ++ event :: later').takeWhile (fun event => !event.op.isUpdate) =
      earlier := by
    rw [List.takeWhile_append_of_pos fun e he => by simpa using hearlier e he,
      List.takeWhile_cons, hupdate]
    simp
  have hcheck := hchecks.2
  rw [htake] at hcheck
  exact ⟨out, earlier, event, later', playedDeploy_runs hplayed, hupdate, hcheck⟩

/-- Without drift the update is issued over the reviewed template. -/
theorem update_over_reviewed :
    ∃ out earlier event later, Runs (Env.recording driverOperations PyError)
        (stackDriver.preparedDeploy stackContext) [] out (earlier ++ event :: later) ∧
      event.op.isUpdate = true ∧
      ∃ atPreflight atCheckpoint atDeploy,
        stackDriver.client.templatesRead earlier = [atPreflight, atCheckpoint, atDeploy] ∧
        stackContext.reviewedHash = some (stackDriver.templateSha256 atDeploy) := by
  obtain ⟨out, earlier, event, later, hrun, hupdate, hcheck⟩ := exists_update "reviewed"
    (fun earlier => (stackDriver.client.templatesRead earlier)[1]?.any fun template =>
      stackContext.reviewedHash = some (stackDriver.templateSha256 template))
    (by decide +kernel)
  obtain ⟨atPreflight, atCheckpoint, atDeploy, hreads, -, hiff⟩ :=
    update_over_reviewed_iff hrun rfl hupdate
  rw [hreads] at hcheck
  exact ⟨out, earlier, event, later, hrun, hupdate, atPreflight, atCheckpoint, atDeploy, hreads,
    hiff.mpr (by simpa using hcheck)⟩

/-- Where the stack changes between the preflight and the checkpoint, the update is issued over
a template that nobody reviewed. -/
theorem update_over_drift :
    ∃ out earlier event later, Runs (Env.recording driverOperations PyError)
        (stackDriver.preparedDeploy stackContext) [] out (earlier ++ event :: later) ∧
      event.op.isUpdate = true ∧
      ∃ atDeploy, (stackDriver.client.templatesRead earlier).getLast? = some atDeploy ∧
        stackContext.reviewedHash ≠ some (stackDriver.templateSha256 atDeploy) := by
  obtain ⟨out, earlier, event, later, hrun, hupdate, hcheck⟩ := exists_update "changed"
    (fun earlier => (stackDriver.client.templatesRead earlier).getLast?.any fun template =>
      stackContext.reviewedHash ≠ some (stackDriver.templateSha256 template))
    (by decide +kernel)
  obtain ⟨atDeploy, hlast, hdrift⟩ := (Option.any_eq_true _ _).mp hcheck
  exact ⟨out, earlier, event, later, hrun, hupdate, atDeploy, hlast, of_decide_eq_true hdrift⟩

end samples

end ElCapitan
