import ElCapitan.Infrastructure.CdkLink
import ElCapitan.Infrastructure.StackDrift

/-!
# Exact rollback

The rollback template has versioning suspended and nothing else said about it. It is the deployed
template exactly where the deployed versioning has no other key.
-/

namespace ElCapitan

open Effects Json

/-- The template of a state document. -/
def deployedTemplate (state : Option Json) : Document :=
  ((state.getD .null).mappingGet "deployed_template").obj?.getD []

/-- The hash of the rollback template that the approved plan records. -/
def ExecutionContext.rollbackHash (context : ExecutionContext) : Option String :=
  ((context.plan.body.get "deployment").mappingGet "rollback_template_sha256").str?

section link

variable {L : CommandLibrary} {repository : CdkRepository} {provider resourceUid : String}
  {state : Option Json} {link : AwsCdkLink}

/-- The template of the state is the deployed one, with the properties of the bucket. -/
theorem cdkState_template {document template properties : Document}
    (h : cdkState L state = .ok (document, template, properties)) :
    template = deployedTemplate state ∧ (Json.obj template).at?
      ((propertiesPath (document.text "logical_resource_id")).map .key) =
        some (.obj properties) := by
  unfold cdkState at h
  split at h
  · simp only [except_bind_eq_ok] at h
    obtain ⟨_, -, _, -, _, -, _, -, _, -, _, -, h⟩ := h
    split at h
    · rename_i entries _ _ held hheld
      simp only [except_bind_eq_ok] at h
      obtain ⟨found, hfound, hreturn⟩ := h
      cases hreturn
      refine ⟨?_, bucketProperties_at hfound⟩
      simp [deployedTemplate, mappingGet, Json.obj?, hheld]
    · cases h
  · cases h

/-- A prior versioning that can be restored is an object. -/
theorem priorVersioning_mapping {versioning : Json}
    (h : priorVersioning versioning = .ok true) : ∃ entries, versioning = .obj entries := by
  unfold priorVersioning at h
  split at h
  · cases h
  · exact ⟨_, rfl⟩
  · cases h

/-- A link with exact rollback has found versioning in the deployed template. -/
theorem link_exact (h : linkAwsCdkS3Bucket L repository provider resourceUid state = .ok link)
    (hexact : link.rollbackMode = "exact") : ∃ entries,
    (Json.obj (deployedTemplate state)).at? (versioningPath link.logicalResourceId) =
      some (.obj entries) := by
  unfold linkAwsCdkS3Bucket at h
  simp only [except_bind_eq_ok] at h
  obtain ⟨_, -, h⟩ := h
  split at h
  · cases h
  simp only [except_bind_eq_ok] at h
  obtain ⟨⟨document, template, properties⟩, hstate, _, -, isMapping, hversioning, source, -,
    hreturn⟩ := h
  cases hreturn
  obtain ⟨rfl, hproperties⟩ := cdkState_template hstate
  cases isMapping with
  | false => exact absurd (show "containment" = "exact" from hexact) (by decide)
  | true =>
    obtain ⟨entries, hentries⟩ := priorVersioning_mapping hversioning
    refine ⟨entries, ?_⟩
    rw [versioningPath, at_append, hproperties, Option.bind_some, Json.at?, Json.child?,
      get_eq_some hentries (by simp)]
    rfl

end link

section rollback

variable {driver : AwsS3VersioningCloudFormationDriver} {context : ExecutionContext}
  {checkpoint : DeploymentCheckpoint} {reads : List Document}

/-- The step says that the checkpoint is restored. -/
def ActionStep.restored (step : ActionStep) : Prop :=
  step.payload.get "checkpoint_restored" = .bool true

/-- A rollback that reports a restored checkpoint read the approved rollback template last. -/
theorem rollback_sat : Sat (Env.watching driver.client.watchTemplates) (fun _ _ => True)
    (driver.rollback context checkpoint) (fun r reads' => ∀ step : ActionStep, r = .ok step →
      step.restored → ∃ live, reads'.getLast? = some live ∧
        context.rollbackHash = some (driver.templateSha256 live)) reads := by
  have hfailed : ∀ (r : Except PyError ActionStep) (reads' : List Document),
      (∀ step, r = .ok step → step.payload = []) → ∀ step, r = .ok step → step.restored →
        ∃ live, reads'.getLast? = some live ∧
          context.rollbackHash = some (driver.templateSha256 live) := by
    intro r reads' hempty step hstep hrestored
    rw [ActionStep.restored, hempty step hstep] at hrestored
    cases hrestored
  have hrefused : ∀ (e : PyError) (reads' : List Document),
      Sat (Env.watching driver.client.watchTemplates) (fun _ _ => True)
        (if e.kind.isAwsFailure then
            return { name := "rollback", passed := false, detail := e.message, payload := [] }
          else .raise e : Driver ActionStep)
        (fun r reads' => ∀ step : ActionStep, r = .ok step → step.restored →
          ∃ live, reads'.getLast? = some live ∧
            context.rollbackHash = some (driver.templateSha256 live)) reads' := by
    intro e reads'
    split
    · refine hfailed _ _ fun step hstep => ?_
      cases hstep
      rfl
    · refine hfailed _ _ fun step hstep => ?_
      cases hstep
  have hquiet := fun reads o r => @watchTemplates_quiet driver.client reads o r
  unfold AwsS3VersioningCloudFormationDriver.rollback
  refine artifacts_quiet.sat_bind_returns artifacts_returns (fun reads o r ho => hquiet _ _ _ ho.2)
    (fun _ _ => trivial) (fun approved happroved => ?_) fun e => hfailed _ _ (by simp)
  split
  · refine hfailed _ _ fun step hstep => ?_
    cases hstep
    rfl
  unfold refusing
  rw [sat_handle]
  refine Prog.Uses.sat_bind (Prog.uses_perform (by rfl)) hquiet (fun _ _ => trivial)
    (fun token => ?_) fun e => hrefused e _
  refine (update_reads _ _).sat_bind hquiet (fun _ _ => trivial) (fun _ => ?_)
    fun e => hrefused e _
  refine Prog.Uses.sat_bind (uses_request (by rfl)) hquiet (fun _ _ => trivial) (fun _ => ?_)
    fun e => hrefused e _
  refine readTemplate_sat trivial (fun live => ?_) fun e => hrefused e _
  refine Prog.Uses.sat_bind (uses_request (by rfl)) hquiet (fun _ _ => trivial)
    (fun versioning => ?_) fun e => hrefused e _
  intro step hstep hrestored
  cases hstep
  refine ⟨live, by simp, ?_⟩
  have hcontained := Json.bool.inj (show Json.bool _ = .bool true from hrestored)
  simp only [Bool.decide_and, Bool.and_eq_true, decide_eq_true_eq] at hcontained
  rw [ExecutionContext.rollbackHash, happroved]
  exact hcontained.2.1

/-- A rollback that reports a restored checkpoint leaves the stack with the template that was
deployed before the change. -/
def RestoresDeployed (L : CommandLibrary) (deployed rollback : Json) : Prop :=
  ∀ (driver : AwsS3VersioningCloudFormationDriver) (context : ExecutionContext)
    (checkpoint : DeploymentCheckpoint) (step : ActionStep) (trace : DriverTrace),
    driver.client.library = L → context.rollbackHash = some (L.platform.canonicalHash rollback) →
    Runs (Env.recording driverOperations PyError) (driver.rollback context checkpoint) [] (.ok step)
      trace →
    step.restored → ∃ live, (driver.client.templatesRead trace).getLast? = some live ∧
      (Json.obj live).Same deployed

/-- A rollback to the same template restores the deployed one. -/
theorem restoresDeployed_of_same {L : CommandLibrary} {deployed rollback : Json}
    (hfloat : FloatTexts L.platform.floatRepr) (hsha : Function.Injective L.platform.sha256Hex)
    (hsame : rollback.Same deployed) : RestoresDeployed L deployed rollback := by
  intro driver context checkpoint step trace hlibrary hhash hrun hrestored
  obtain ⟨live, hlast, hlive⟩ := (rollback_sat.recorded (h := [])).runs hrun step rfl hrestored
  rw [AwsS3CloudFormationClient.foldl_watchTemplates, List.nil_append] at hlast
  refine ⟨live, hlast, ?_⟩
  have htexts : L.platform.canonicalHash (.obj live) = L.platform.canonicalHash rollback := by
    rw [hhash] at hlive
    have heq := Option.some.inj hlive
    rw [AwsS3VersioningCloudFormationDriver.templateSha256, hlibrary] at heq
    exact heq.symm
  exact (same_of_canonicalJson hfloat (hsha htexts)).trans hsame

/-- An accepted change of a bucket that is linked with exact rollback has a rollback template
equal to the deployed one, and rollbacks that report a restored checkpoint restore it, exactly
where the deployed versioning has no key but its status. -/
theorem exact_rollback_iff {L : CommandLibrary} {repository : CdkRepository}
    {provider resourceUid : String} {state : Option Json} {link : AwsCdkLink} {proposed : Document}
    {baseline : Option Document} {forward rollback : Json}
    (hfloat : FloatTexts L.platform.floatRepr) (hsha : Function.Injective L.platform.sha256Hex)
    (hlink : linkAwsCdkS3Bucket L repository provider resourceUid state = .ok link)
    (hexact : link.rollbackMode = "exact")
    (hverify : verifyS3VersioningTemplateChange L.platform (deployedTemplate state) proposed
      link.logicalResourceId baseline = .ok (forward, rollback)) :
    (rollback.Same (.obj (deployedTemplate state)) ∧
      RestoresDeployed L (.obj (deployedTemplate state)) rollback) ↔
    ∀ name, name ≠ "Status" → (Json.obj (deployedTemplate state)).at?
      (versioningPath link.logicalResourceId ++ [.key name]) = none := by
  obtain ⟨entries, hentries⟩ := link_exact hlink hexact
  obtain ⟨-, -, hrollback⟩ := versioning_change_scope hfloat hverify
  have hstatus : entries.lookup "Status" = some (.str "Suspended") := by
    obtain ⟨properties, _, _, hproperties, -, -, hprior, -⟩ := verify_cases hverify
    rw [versioningPath, at_append, bucketProperties_at hproperties, Option.bind_some, Json.at?,
      Json.child?] at hentries
    have hget : properties.get "VersioningConfiguration" = .obj entries := by
      obtain ⟨value, hvalue, heq⟩ := Option.bind_eq_some_iff.mp hentries
      obtain rfl : value = .obj entries := Option.some.inj heq
      rw [Document.get, hvalue]
      rfl
    rw [hget] at hprior
    obtain hnull | hsuspended := hprior
    · cases hnull
    · exact get_eq_some (str?_eq_some.mp (of_decide_eq_true hsuspended)) (by simp)
  have hsame : rollback.Same (.obj (deployedTemplate state)) ↔
      ∀ name, name ≠ "Status" → entries.lookup name = none := by
    rw [hrollback.elsewhere.same_iff, hrollback.versioning, hentries]
    change (Json.obj _).Same _ ↔ _
    rw [same_obj_iff]
    constructor
    · intro h name hname
      have hlookup := h name
      rw [List.lookup_cons, show (name == "Status") = false by simpa using hname] at hlookup
      exact sameOption_none_left.mp hlookup
    · intro h name
      by_cases hname : name = "Status"
      · subst hname
        rw [hstatus]
        exact Same.refl _
      · rw [List.lookup_cons, show (name == "Status") = false by simpa using hname, h name hname]
        trivial
  have hcondition : ∀ name, (Json.obj (deployedTemplate state)).at?
      (versioningPath link.logicalResourceId ++ [.key name]) = entries.lookup name := by
    intro name
    rw [at_append, hentries, Option.bind_some, Json.at?, Json.child?]
    cases entries.lookup name <;> rfl
  simp only [hcondition]
  exact ⟨fun h => hsame.mp h.1, fun h =>
    ⟨hsame.mpr h, restoresDeployed_of_same hfloat hsha (hsame.mpr h)⟩⟩

end rollback

section samples

/-- The template of the sample stack, with more about the versioning of its bucket. -/
def suspendedTemplate (more : Document) : Document :=
  bucketTemplate [("VersioningConfiguration", .obj (("Status", .str "Suspended") :: more))]

/-- The state document of the sample stack. -/
def suspendedState (more : Document) : Json :=
  .obj [("format", .str "ElCapitanAwsCdkState.v1"), ("stack_name", .str "Training"),
    ("logical_resource_id", .str "Bucket"), ("construct_id", .str "AppBucket"),
    ("source_path", .str "lib/stack.ts"), ("module_path", .str "lib"),
    ("source_sha256", .str "digest"), ("account_id", .str "111122223333"),
    ("region", .str "us-east-1"),
    ("executor_role_arn", .str "arn:aws:iam::111122223333:role/executor"),
    ("cloudformation_service_role_arn", .null),
    ("deployed_template", .obj (suspendedTemplate more))]

/-- A repository with one construct. -/
def constructRepository : CdkRepository where
  resolve path := .ok path
  isSymlink _ := false
  isDirectory path := path = "lib"
  relativeToRoot path := some path
  isRelativeTo path other := other.toList.isPrefixOf path.toList
  typescriptFiles := ["lib/stack.ts"]
  readText _ := .ok "new s3.Bucket(this, 'AppBucket', \x7b\x7d);"
  hashFile _ := .ok "digest"
  matchingConstruct _ constructId := .ok (if constructId = "AppBucket" then some (0, 37) else none)

/-- The library of the sample. -/
def markedLibrary : CommandLibrary where
  platform := markedPlatform
  repr _ := ""
  decodeError _ := ""

/-- The sample bucket, linked. -/
def linkedBucket (more : Document) : Except PyError AwsCdkLink :=
  linkAwsCdkS3Bucket markedLibrary constructRepository "aws" "arn:aws:s3:::logs"
    (some (suspendedState more))

/-- The change that enables the versioning of the sample bucket. -/
def enabledChange (more : Document) (id : String) : Except PyError (Json × Json) :=
  verifyS3VersioningTemplateChange markedPlatform (deployedTemplate (some (suspendedState more)))
    (bucketTemplate [("VersioningConfiguration", versioningStatus "Enabled")]) id
    (some (bucketTemplate []))

/-- With a status alone the rollback is exact. -/
theorem status_rollback_exact : ∃ link forward rollback, linkedBucket [] = .ok link ∧
    link.rollbackMode = "exact" ∧
    enabledChange [] link.logicalResourceId = .ok (forward, rollback) ∧
    rollback.Same (.obj (suspendedTemplate [])) ∧
    RestoresDeployed markedLibrary (.obj (suspendedTemplate [])) rollback := by
  have hlinked : (linkedBucket []).toOption.any (fun link => decide (link.rollbackMode = "exact" ∧
      link.logicalResourceId = "Bucket")) = true := by
    decide +kernel
  have hchange : (enabledChange [] "Bucket").toOption.any (fun _ => true) = true := by
    decide +kernel
  obtain ⟨link, hlink, hmode⟩ := exists_of_any hlinked
  obtain ⟨hexact, hid⟩ := of_decide_eq_true hmode
  obtain ⟨⟨forward, rollback⟩, hverify, -⟩ := exists_of_any hchange
  rw [← hid] at hverify
  refine ⟨link, forward, rollback, hlink, hexact, hverify, ?_⟩
  refine (exact_rollback_iff markedText_floatTexts sampleHash_injective hlink hexact hverify).mpr ?_
  intro name hname
  rw [hid]
  have hother : (name == "Status") = false := by simpa using hname
  change ([("Status", Json.str "Suspended")].lookup name).bind _ = none
  rw [List.lookup_cons, hother]
  rfl

/-- With another key beside the status the rollback template lacks that key. -/
theorem rollback_loses_key : ∃ link forward rollback,
    linkedBucket [("MFADelete", .str "Disabled")] = .ok link ∧ link.rollbackMode = "exact" ∧
    enabledChange [("MFADelete", .str "Disabled")] link.logicalResourceId =
      .ok (forward, rollback) ∧
    ¬rollback.Same (.obj (suspendedTemplate [("MFADelete", .str "Disabled")])) := by
  have hlinked : (linkedBucket [("MFADelete", .str "Disabled")]).toOption.any (fun link =>
      decide (link.rollbackMode = "exact" ∧ link.logicalResourceId = "Bucket")) = true := by
    decide +kernel
  have hchange : (enabledChange [("MFADelete", .str "Disabled")] "Bucket").toOption.any
      (fun templates => (templates.2.kindAt
        (versioningPath "Bucket" ++ [.key "MFADelete"])).isNone) = true := by
    decide +kernel
  obtain ⟨link, hlink, hmode⟩ := exists_of_any hlinked
  obtain ⟨hexact, hid⟩ := of_decide_eq_true hmode
  obtain ⟨⟨forward, rollback⟩, hverify, hlost⟩ := exists_of_any hchange
  rw [← hid] at hverify
  refine ⟨link, forward, rollback, hlink, hexact, hverify, fun hsame => ?_⟩
  have hpath := hsame (versioningPath "Bucket" ++ [.key "MFADelete"])
  rw [Option.isNone_iff_eq_none.mp hlost] at hpath
  exact absurd hpath.symm (by decide +kernel)

end samples

end ElCapitan
