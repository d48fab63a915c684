import ElCapitan.AgentRuns.Run
import ElCapitan.Infrastructure.StackDrift

/-!
# The filesystem driver

`FilesystemChangeDriver`, on a POSIX system: a file is read as text with universal newlines and
written as text, and hashed as it is. The driver puts back what it deployed over exactly where
neither file has a carriage return.
-/

namespace ElCapitan

section newlines

/-- What text mode reads: every line ends in a line feed. -/
def universalNewlines : List Char → List Char
  | '\r' :: '\n' :: rest => '\n' :: universalNewlines rest
  | '\r' :: rest => '\n' :: universalNewlines rest
  | c :: rest => c :: universalNewlines rest
  | [] => []

/-- A text that was read has no carriage return. -/
theorem universalNewlines_no_return (text : List Char) : '\r' ∉ universalNewlines text := by
  fun_induction universalNewlines text with
  | case1 rest ih => simpa using ih
  | case2 rest hrest ih => simpa using ih
  | case3 c rest _ hc ih => simpa [eq_comm] using ⟨hc, ih⟩
  | case4 => simp

/-- A text is read as it is exactly where it has no carriage return. -/
theorem universalNewlines_eq_iff {text : List Char} :
    universalNewlines text = text ↔ '\r' ∉ text := by
  constructor
  · intro h
    rw [← h]
    exact universalNewlines_no_return text
  · intro h
    fun_induction universalNewlines text with
    | case1 rest ih => simp at h
    | case2 rest hrest ih => simp at h
    | case3 c rest _ hc ih => rw [ih (fun hmem => h (List.mem_cons_of_mem _ hmem))]
    | case4 => rfl

end newlines

/-- The regular files, with their texts. -/
abbrev FileSystem := String → Option String

/-- A file was written or removed. -/
def FileSystem.put (files : FileSystem) (path : String) (text : Option String) : FileSystem :=
  fun other => if other = path then text else files other

/-- `path.read_text(encoding="utf-8")`. -/
def FileSystem.readText (files : FileSystem) (path : String) : Except PyError String :=
  match files path with
  | some text => .ok (String.ofList (universalNewlines text.toList))
  | none => .error ⟨.osError, "[Errno 2] No such file or directory: '" ++ path ++ "'"⟩

/-- `sha256_file`. -/
def FileSystem.sha256 (files : FileSystem) (P : Platform) (path : String) :
    Except PyError String :=
  match files path with
  | some text => .ok (P.sha256Hex text)
  | none => .error ⟨.osError, "[Errno 2] No such file or directory: '" ++ path ++ "'"⟩

/-- `value[name]`. -/
def Json.subscript (value : Json) (name : String) : Except PyError Json :=
  match value with
  | .obj entries => Document.entry entries name
  | .arr _ => .error ⟨.typeError, "list indices must be integers or slices, not str"⟩
  | .str _ => .error ⟨.typeError, "string indices must be integers, not 'str'"⟩
  | other => .error ⟨.typeError, "'" ++ other.className ++ "' object is not subscriptable"⟩

/-- `FilesystemChangeDriver`; `resolve` is `safe_resolve`. -/
structure FilesystemChangeDriver where
  platform : Platform
  resolve : String → String → Except PyError String
  targetRoot : String
  failDeploy : Bool

/-- The files of a change. -/
structure ChangePaths where
  target : String
  replacement : String
  sourcePath : Json

/-- `path.with_name(f".{path.name}.elcapitan.tmp")`. -/
def temporaryPath (path : String) : String :=
  let name := afterLastSlash path
  String.ofList (path.toList.take (path.length - name.length)) ++ "." ++ name ++ ".elcapitan.tmp"

/-- `_replace`. -/
def FileSystem.replace (files : FileSystem) (path content : String) :
    Except PyError Unit × FileSystem :=
  match files (temporaryPath path) with
  | some _ =>
    (.error ⟨.osError, "[Errno 17] File exists: '" ++ temporaryPath path ++ "'"⟩, files)
  | none =>
    let written := files.put (temporaryPath path) (some content)
    (.ok (), (written.put path (written (temporaryPath path))).put (temporaryPath path) none)

namespace FilesystemChangeDriver

variable (driver : FilesystemChangeDriver) (context : ExecutionContext)

/-- An entry of the plan's `change`. -/
def planChange (name : String) : Except PyError Json := do
  let change ← context.plan.body.entry "change"
  change.subscript name

/-- `_paths`. -/
def paths : Except PyError ChangePaths := do
  let sourcePath ← planChange context "source_path"
  match sourcePath with
  | .str path => do
    let target ← driver.resolve driver.targetRoot path
    let artifactNamespace ← context.plan.body.entry "artifact_namespace"
    let replacement ← driver.resolve context.artifactRoot
      (driver.platform.str artifactNamespace ++ "/workspace/" ++ path)
    return { target, replacement, sourcePath }
  | other => .error ⟨.attributeError,
      "'" ++ other.className ++ "' object has no attribute 'startswith'"⟩

/-- `preflight`. The source catches `FileNotFoundError` beside `PathEscape`, which `safe_resolve`
never raises. -/
def preflight (files : FileSystem) : Except PyError ActionStep :=
  let refused (detail : String) : ActionStep :=
    { name := "preflight", passed := false, detail, payload := [] }
  match driver.paths context with
  | .error e => if e.kind = .pathEscape then .ok (refused e.message) else .error e
  | .ok paths =>
    if (files paths.target).isNone ∨ (files paths.replacement).isNone then
      .ok (refused "target or verified replacement is missing")
    else do
      let expectedBefore ← planChange context "before_sha256"
      let expectedAfter ← planChange context "after_sha256"
      let targetSha ← files.sha256 driver.platform paths.target
      let replacementSha ← files.sha256 driver.platform paths.replacement
      let passed := expectedBefore.str? = some targetSha ∧ expectedAfter.str? = some replacementSha
      return { name := "preflight", passed,
               detail := if passed then
                  "target and verified replacement hashes match the approved package"
                else "target drift or replacement tampering detected",
               payload := [("target_sha256", .str targetSha),
                ("replacement_sha256", .str replacementSha)] }

/-- `checkpoint`, with the id it takes. -/
def checkpoint (checkpointId : String) (files : FileSystem) :
    Except PyError DeploymentCheckpoint := do
  let paths ← driver.paths context
  let content ← files.readText paths.target
  let sha ← files.sha256 driver.platform paths.target
  return { checkpointId, detail := "captured exact pre-change file content",
           payload := [("source_path", paths.sourcePath), ("content", .str content),
            ("sha256", .str sha)] }

/-- The step that reports the file at the target after a write. -/
def reportTarget (name passedDetail failedDetail : String) (target : String) (expected : Json)
    (files : FileSystem) : Except PyError ActionStep := do
  let sha ← files.sha256 driver.platform target
  let passed := expected.str? = some sha
  return { name, passed, detail := if passed then passedDetail else failedDetail,
           payload := [("target_sha256", .str sha)] }

/-- `deploy`, with the files it leaves. -/
def deploy (_checkpoint : DeploymentCheckpoint) (files : FileSystem) :
    Except PyError ActionStep × FileSystem :=
  if driver.failDeploy then
    (.ok { name := "deploy", passed := false,
           detail := "injected reference-driver deployment failure", payload := [] }, files)
  else
    match driver.paths context with
    | .error e => (.error e, files)
    | .ok paths =>
      match files.readText paths.replacement with
      | .error e => (.error e, files)
      | .ok content =>
        match files.replace paths.target content with
        | (.error e, files) => (.error e, files)
        | (.ok (), files) => (do
            let expected ← planChange context "after_sha256"
            driver.reportTarget "deploy" "verified replacement installed"
              "post-write hash mismatch" paths.target expected files, files)

/-- `rollback`, with the files it leaves. -/
def rollback (checkpoint : DeploymentCheckpoint) (files : FileSystem) :
    Except PyError ActionStep × FileSystem :=
  match driver.paths context with
  | .error e => (.error e, files)
  | .ok paths =>
    match checkpoint.payload.get "content" with
    | .str content =>
      match files.replace paths.target content with
      | (.error e, files) => (.error e, files)
      | (.ok (), files) =>
        (driver.reportTarget "rollback" "checkpoint restored" "restored file hash mismatch"
          paths.target (checkpoint.payload.get "sha256") files, files)
    | _ => (.ok { name := "rollback", passed := false,
                  detail := "checkpoint has no restorable content", payload := [] }, files)

end FilesystemChangeDriver

section replacing

variable {files : FileSystem} {path content : String}

/-- The temporary file is another one than the target. -/
theorem temporaryPath_ne : temporaryPath path ≠ path := by
  intro h
  have hlength := congrArg String.length h
  have hname : (afterLastSlash path).length ≤ path.length := by
    have htake := (List.takeWhile_sublist (fun c => decide (c ≠ '/'))
      (l := path.toList.reverse)).length_le
    rw [List.length_reverse, String.length_toList] at htake
    simpa [afterLastSlash] using htake
  simp only [temporaryPath, String.length_append, String.length_ofList, List.length_take,
    String.length_toList] at hlength
  have hsuffix : ".elcapitan.tmp".length = 14 := rfl
  omega

/-- Where no temporary file is left over, the file gets the new text and none is left over. -/
theorem replace_spec (h : files (temporaryPath path) = none) : ∃ files',
    files.replace path content = (.ok (), files') ∧ files' path = some content ∧
      files' (temporaryPath path) = none := by
  refine ⟨_, by rw [FileSystem.replace, h], ?_, ?_⟩
  · simp [FileSystem.put, temporaryPath_ne.symm]
  · simp [FileSystem.put]

/-- A file that was replaced had no temporary file, and has the new text. -/
theorem replace_ok {files' : FileSystem} (h : files.replace path content = (.ok (), files')) :
    files (temporaryPath path) = none ∧ files' path = some content := by
  cases htemporary : files (temporaryPath path) with
  | some text =>
    rw [FileSystem.replace, htemporary] at h
    cases h
  | none =>
    obtain ⟨files'', hreplace, htext, -⟩ := @replace_spec _ _ content htemporary
    rw [h, Prod.mk.injEq] at hreplace
    exact ⟨rfl, by rw [hreplace.2, htext]⟩

/-- A file is read with universal newlines. -/
theorem readText_eq {text : String} (h : files path = some text) :
    files.readText path = .ok (String.ofList (universalNewlines text.toList)) := by
  rw [FileSystem.readText, h]

/-- A text is read as it is where it has no carriage return. -/
theorem read_eq_iff {text : String} :
    String.ofList (universalNewlines text.toList) = text ↔ '\r' ∉ text.toList := by
  rw [← universalNewlines_eq_iff, ← String.toList_inj, String.toList_ofList]

end replacing

section undoing

variable {driver : FilesystemChangeDriver} {context : ExecutionContext} {files : FileSystem}
  {paths : ChangePaths} {before after : String}

/-- Checkpoint, deployment and rollback, one after the other: the deployment passes and leaves the
replacement at the target, the rollback passes and leaves what was there before. -/
def FilesystemChangeDriver.UndoesChange (driver : FilesystemChangeDriver)
    (context : ExecutionContext) (checkpointId : String) (files : FileSystem)
    (target before after : String) : Prop :=
  ∃ checkpoint deployed rolledBack files' files'',
    driver.checkpoint context checkpointId files = .ok checkpoint ∧
    driver.deploy context checkpoint files = (.ok deployed, files') ∧
    deployed.passed = true ∧ files' target = some after ∧
    driver.rollback context checkpoint files' = (.ok rolledBack, files'') ∧
    rolledBack.passed = true ∧ files'' target = some before

/-- A preflight that passes has found the approved hash of the replacement. -/
theorem preflight_passed {step : ActionStep} (hpaths : driver.paths context = .ok paths)
    (h : driver.preflight context files = .ok step) (hpassed : step.passed = true)
    (hafter : files paths.replacement = some after) : ∃ expected,
      FilesystemChangeDriver.planChange context "after_sha256" = .ok expected ∧
        expected.str? = some (driver.platform.sha256Hex after) := by
  unfold FilesystemChangeDriver.preflight at h
  rw [hpaths] at h
  dsimp only at h
  split at h
  · cases h
    cases hpassed
  · simp only [except_bind_eq_ok] at h
    obtain ⟨expectedBefore, -, expectedAfter, hexpected, targetSha, -, replacementSha, hsha,
      hreturn⟩ := h
    cases hreturn
    refine ⟨expectedAfter, hexpected, ?_⟩
    rw [FileSystem.sha256, hafter] at hsha
    cases hsha
    exact (of_decide_eq_true hpassed).2

/-- A report about a file with the expected hash passes. -/
theorem reportTarget_passed (name passedDetail failedDetail : String) {target text : String}
    {expected : Json} (h : files target = some text) (hexpected : expected.str? =
      some (driver.platform.sha256Hex text)) : ∃ step,
    driver.reportTarget name passedDetail failedDetail target expected files = .ok step ∧
      step.passed = true := by
  refine ⟨_, by rw [FilesystemChangeDriver.reportTarget, FileSystem.sha256, h]; rfl, ?_⟩
  simp [hexpected]

/-- The checkpoint has the text that text mode reads, and the hash of the file. -/
theorem fileCheckpoint_eq {checkpointId : String} (hpaths : driver.paths context = .ok paths)
    (hbefore : files paths.target = some before) :
    driver.checkpoint context checkpointId files = .ok
      { checkpointId, detail := "captured exact pre-change file content",
        payload := [("source_path", paths.sourcePath),
          ("content", .str (String.ofList (universalNewlines before.toList))),
          ("sha256", .str (driver.platform.sha256Hex before))] } := by
  rw [FilesystemChangeDriver.checkpoint, hpaths]
  simp only [bind, Except.bind]
  rw [readText_eq hbefore, FileSystem.sha256, hbefore]
  rfl

/-- A deployment that passes was not made to fail, and put the text that text mode reads. -/
theorem deploy_passed {checkpoint : DeploymentCheckpoint} {deployed : ActionStep}
    {files' : FileSystem} (hpaths : driver.paths context = .ok paths)
    (hafter : files paths.replacement = some after)
    (h : driver.deploy context checkpoint files = (.ok deployed, files'))
    (hpassed : deployed.passed = true) :
    driver.failDeploy = false ∧ files (temporaryPath paths.target) = none ∧
      files' paths.target = some (String.ofList (universalNewlines after.toList)) := by
  unfold FilesystemChangeDriver.deploy at h
  split at h
  · cases h
    cases hpassed
  · rename_i hfail
    rw [hpaths] at h
    simp only [readText_eq hafter] at h
    split at h
    · cases h
    · rename_i written hreplace
      obtain ⟨-, rfl⟩ := Prod.mk.inj h
      obtain ⟨htemporary, hwritten⟩ := replace_ok hreplace
      exact ⟨by simpa using hfail, htemporary, hwritten⟩

/-- A rollback that passes put the content of the checkpoint. -/
theorem rollback_passed {checkpoint : DeploymentCheckpoint} {rolledBack : ActionStep}
    {files' : FileSystem} {content : String} (hpaths : driver.paths context = .ok paths)
    (hcontent : checkpoint.payload.get "content" = .str content)
    (h : driver.rollback context checkpoint files = (.ok rolledBack, files')) :
    files' paths.target = some content := by
  unfold FilesystemChangeDriver.rollback at h
  rw [hpaths, hcontent] at h
  dsimp only at h
  split at h
  · cases h
  · rename_i written hreplace
    obtain ⟨-, rfl⟩ := Prod.mk.inj h
    exact (replace_ok hreplace).2

/-- A change that preflight accepts is deployed and undone byte for byte exactly where the driver
is not made to fail, no temporary file is left over beside the target, and neither file has a
carriage return. -/
theorem undoesChange_iff {step : ActionStep} {checkpointId : String}
    (hpaths : driver.paths context = .ok paths)
    (hbefore : files paths.target = some before) (hafter : files paths.replacement = some after)
    (hpreflight : driver.preflight context files = .ok step) (hpassed : step.passed = true) :
    driver.UndoesChange context checkpointId files paths.target before after ↔
      driver.failDeploy = false ∧ files (temporaryPath paths.target) = none ∧
        '\r' ∉ before.toList ∧ '\r' ∉ after.toList := by
  constructor
  · rintro ⟨checkpoint, deployed, rolledBack, files', files'', hcheckpoint, hdeploy, hdeployed,
      htarget, hrollback, -, hrestored⟩
    rw [fileCheckpoint_eq hpaths hbefore] at hcheckpoint
    obtain rfl := Except.ok.inj hcheckpoint
    obtain ⟨hfail, htemporary, hwritten⟩ := deploy_passed hpaths hafter hdeploy hdeployed
    have hcontent := rollback_passed hpaths rfl hrollback
    rw [hwritten, Option.some.injEq] at htarget
    rw [hcontent, Option.some.injEq] at hrestored
    exact ⟨hfail, htemporary, read_eq_iff.mp hrestored, read_eq_iff.mp htarget⟩
  · rintro ⟨hfail, htemporary, hbeforeReturn, hafterReturn⟩
    obtain ⟨expected, hexpected, hsha⟩ := preflight_passed hpaths hpreflight hpassed hafter
    obtain ⟨files', hreplace, htarget, htemporary'⟩ := @replace_spec _ _ after htemporary
    obtain ⟨files'', hrestore, hrestored, -⟩ := @replace_spec _ _ before htemporary'
    obtain ⟨deployed, hdeployed, hdeployedPassed⟩ := reportTarget_passed "deploy"
      "verified replacement installed" "post-write hash mismatch" htarget hsha
    obtain ⟨rolledBack, hrolledBack, hrolledBackPassed⟩ := reportTarget_passed "rollback"
      "checkpoint restored" "restored file hash mismatch" hrestored
      (show (Json.str (driver.platform.sha256Hex before)).str? = _ from rfl)
    refine ⟨_, deployed, rolledBack, files', files'', fileCheckpoint_eq hpaths hbefore, ?_,
      hdeployedPassed, htarget, ?_, hrolledBackPassed, hrestored⟩
    · rw [FilesystemChangeDriver.deploy, hfail, hpaths]
      simp only [Bool.false_eq_true, if_false, readText_eq hafter, read_eq_iff.mpr hafterReturn,
        hreplace, hexpected]
      exact congrArg (fun step => (step, files')) hdeployed
    · rw [FilesystemChangeDriver.rollback, hpaths]
      simp only [read_eq_iff.mpr hbeforeReturn]
      change (match files'.replace paths.target before with
        | (.error e, files) => _
        | (.ok (), files) => _) = _
      rw [hrestore]
      exact congrArg (fun step => (step, files'')) hrolledBack

end undoing

section samples

/-- A driver over files named by their paths. -/
def sampleFileDriver : FilesystemChangeDriver where
  platform := samplePlatform
  resolve root path := .ok (root ++ "/" ++ path)
  targetRoot := "live"
  failDeploy := false

/-- The approved change of one file. -/
def fileContext (before after : String) : ExecutionContext :=
  { stackContext with
    plan := stackRecord [("artifact_namespace", .str "plan"),
      ("change", .obj [("source_path", .str "main.tf"),
        ("before_sha256", .str (samplePlatform.sha256Hex before)),
        ("after_sha256", .str (samplePlatform.sha256Hex after))])] }

/-- The live file and its replacement. -/
def changedFiles (before after : String) : FileSystem := fun path =>
  if path = "live/main.tf" then some before
  else if path = "artifacts/plan/workspace/main.tf" then some after
  else none

/-- The paths of the change. -/
def samplePaths : ChangePaths where
  target := "live/main.tf"
  replacement := "artifacts/plan/workspace/main.tf"
  sourcePath := .str "main.tf"

/-- The preflight of the sample change passes. -/
theorem filePreflight_passes (before after : String) : ∃ step,
    sampleFileDriver.preflight (fileContext before after) (changedFiles before after) = .ok step ∧
      step.passed = true := by
  exact ⟨_, rfl, decide_eq_true ⟨rfl, rfl⟩⟩

/-- Line feeds survive. -/
theorem lineFeeds_undone : sampleFileDriver.UndoesChange
    (fileContext "versioning = false\n" "versioning = true\n") "CHK"
    (changedFiles "versioning = false\n" "versioning = true\n") "live/main.tf"
    "versioning = false\n" "versioning = true\n" := by
  obtain ⟨step, hpreflight, hpassed⟩ := filePreflight_passes "versioning = false\n"
    "versioning = true\n"
  have hpaths : sampleFileDriver.paths (fileContext "versioning = false\n"
      "versioning = true\n") = .ok samplePaths := rfl
  exact (undoesChange_iff hpaths (show changedFiles _ _ "live/main.tf" = _ from rfl)
    (show changedFiles _ _ "artifacts/plan/workspace/main.tf" = _ from rfl) hpreflight
    hpassed).mpr ⟨rfl, by decide +kernel, by decide, by decide⟩

/-- Carriage returns do not: the replacement is installed without them. -/
theorem returns_lost :
    (∃ step, sampleFileDriver.preflight
        (fileContext "versioning = false\r\n" "versioning = true\r\n")
        (changedFiles "versioning = false\r\n" "versioning = true\r\n") = .ok step ∧
      step.passed = true) ∧
    ¬sampleFileDriver.UndoesChange
      (fileContext "versioning = false\r\n" "versioning = true\r\n") "CHK"
      (changedFiles "versioning = false\r\n" "versioning = true\r\n") "live/main.tf"
      "versioning = false\r\n" "versioning = true\r\n" := by
  refine ⟨filePreflight_passes _ _, ?_⟩
  rintro ⟨checkpoint, deployed, rolledBack, files', files'', -, hdeploy, hdeployed, htarget, -⟩
  have hpaths : sampleFileDriver.paths (fileContext "versioning = false\r\n"
      "versioning = true\r\n") = .ok samplePaths := rfl
  have hwritten := (deploy_passed hpaths
    (show changedFiles _ _ "artifacts/plan/workspace/main.tf" = _ from rfl) hdeploy hdeployed).2.2
  rw [show samplePaths.target = "live/main.tf" from rfl, htarget, Option.some.injEq] at hwritten
  exact absurd hwritten (by decide)

end samples

end ElCapitan
