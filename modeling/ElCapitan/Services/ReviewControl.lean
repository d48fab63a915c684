import ElCapitan.Services.Scheduling

/-!
# The review control plane

`ReviewControlPlane.approve`: a request names the exact package it decides on, and an
approval and the scheduling of its window follow each other at one reading of the clock.
Without a database service there are no artifacts to synchronize.
-/

namespace ElCapitan

open Effects

/-- `ReviewControlError`. -/
def reviewControlError (message : String) : PyError := ⟨.reviewControlError, message⟩

/-- `DECISION_STATES`. -/
def decisionStates : List CaseState := [.awaitingApproval, .approved, .rejected]

/-- The stored text of a job state. -/
def JobState.value : JobState → String
  | .scheduled => "scheduled"
  | .running => "running"
  | .succeeded => "succeeded"
  | .rolledBack => "rolled_back"
  | .contained => "contained"
  | .failed => "failed"
  | .missed => "missed"

/-- `ReviewControlPlane._text`. -/
def reviewText (P : Platform) (value : Json) (name : String) (minimum maximum : ℕ) :
    Except PyError String :=
  match value with
  | .str text =>
    if minimum ≤ (P.strip text).length ∧ (P.strip text).length ≤ maximum then .ok (P.strip text)
    else .error (reviewControlError (name ++ " must be between " ++ toString minimum ++ " and " ++
      toString maximum ++ " characters"))
  | _ => .error (reviewControlError (name ++ " must be a string"))

/-- `ReviewControlPlane._case`. -/
def reviewCase (P : Platform) (tenantId caseId : Json) : Service RemediationCase := do
  let tenantId ← .ofExcept (reviewText P tenantId "tenant_id" 1 100)
  let caseId ← .ofExcept (reviewText P caseId "case_id" 1 100)
  let case ← perform (.getCase caseId)
  .raiseIf (case.tenantId ≠ tenantId)
    (reviewControlError "case does not belong to the requested tenant")
  .raiseIf (case.state ∉ decisionStates) (reviewControlError
    ("case " ++ caseId ++ " is " ++ case.state.value ++ ", not in the human decision plane"))
  .raiseIf (case.recordIds.text "human_review_package_id" = "")
    (reviewControlError ("case " ++ caseId ++ " has no human-review package"))
  return case

/-- `ReviewControlPlane._record`. -/
def reviewRecord (case : RemediationCase) (key expectedType : String) : Service ProductRecord := do
  .raiseIf (case.recordIds.text key = "")
    (reviewControlError ("case is missing authoritative " ++ key))
  let record ← perform (.getRecord (case.recordIds.text key))
  .raiseIf (record.caseId ≠ case.caseId ∨ record.recordType ≠ expectedType)
    (reviewControlError ("case " ++ key ++ " has the wrong owner or type"))
  return record

/-- `ReviewControlPlane._package_binding`. -/
def packageBinding (P : Platform) (case : RemediationCase) : Service (ProductRecord × String) := do
  let package ← reviewRecord case "human_review_package_id" "HumanReviewPackage.v1"
  return (package, P.canonicalHash (.obj package.body))

/-- What `ReviewControlPlane._decision_inputs` returns. -/
structure DecisionInputs where
  tenantId : String
  case : RemediationCase
  package : ProductRecord
  approver : String

/-- `ReviewControlPlane._decision_inputs`. -/
def decisionInputs (P : Platform) (document : Document) (verb : String) :
    Service DecisionInputs := do
  let tenantId ← .ofExcept (reviewText P (document.get "tenant_id") "tenant_id" 1 100)
  let case ← reviewCase P (.str tenantId) (document.get "case_id")
  .raiseIf (case.state ≠ .awaitingApproval)
    (reviewControlError "the case is no longer awaiting approval")
  let (package, binding) ← packageBinding P case
  let suppliedPackage ← .ofExcept
    (reviewText P (document.get "review_package_id") "review_package_id" 1 100)
  let suppliedBinding ← .ofExcept
    (reviewText P (document.get "review_package_sha256") "review_package_sha256" 64 64)
  .raiseIf (suppliedPackage ≠ package.recordId ∨ suppliedBinding ≠ binding)
    (reviewControlError "the decision is stale or bound to another package")
  let confirmation ← .ofExcept
    (reviewText P (document.get "confirmation") "confirmation" 1 200)
  .raiseIf (confirmation ≠ verb ++ " " ++ package.recordId) (reviewControlError
    ("confirmation must exactly match " ++ verb ++ " " ++ package.recordId))
  let approver ← .ofExcept (reviewText P (document.get "approver") "approver" 1 200)
  return { tenantId, case, package, approver }

/-- The constructor of `VerifiedApproval`. -/
def VerifiedApproval.create (P : Platform) (approvalId caseId reviewPackageId approver
    authenticatedAt expiresAt authenticationMethod statement : String) :
    Except PyError (VerifiedApproval P) :=
  if hrequired : "" ∉ [approvalId, caseId, reviewPackageId, approver, authenticatedAt, expiresAt,
      authenticationMethod, statement] then
    match hexpires : notAfter P expiresAt authenticatedAt with
    | .ok false => .ok ⟨approvalId, caseId, reviewPackageId, approver, authenticatedAt, expiresAt,
        authenticationMethod, statement, hrequired, hexpires⟩
    | .ok true => .error (valueError "approval expiry must follow authentication")
    | .error e => .error e
  else
    let named := [("approval_id", approvalId), ("case_id", caseId),
      ("review_package_id", reviewPackageId), ("approver", approver),
      ("authenticated_at", authenticatedAt), ("expires_at", expiresAt),
      ("authentication_method", authenticationMethod), ("statement", statement)]
    let missing := (named.filter fun item => item.2.isEmpty).map Prod.fst
    .error (valueError ("verified approval is missing: " ++ ", ".intercalate missing))

/-- A program whose services were given the clock `lambda: now`. -/
def withClock {α : Type} (now : String) : Service α → Service α
  | .ret a => .ret a
  | .raise e => .raise e
  | .call .now next => withClock now (next (.ok now))
  | .call o next => .call o fun r => withClock now (next r)

/-- The assertion that `ReviewControlPlane.approve` makes. -/
def reviewAssertion (P : Platform) (inputs : DecisionInputs) (window : ChangeWindow)
    (now approvalId : String) : Except PyError (VerifiedApproval P) :=
  VerifiedApproval.create P approvalId inputs.case.caseId inputs.package.recordId inputs.approver
    now window.endsAt "demo-shared-token-explicit-attestation"
    "I approve this exact review package for its selected window."

/-- `ApprovalService.approve` and then `ExecutionScheduler.schedule`, at one time. -/
def approveAndSchedule (S : Settings) (assertion : VerifiedApproval S.platform)
    (caseId now : String) : Service (ProductRecord × SchedulingOutcome) := do
  let (_, approval) ← withClock now (approve S assertion)
  let scheduled ← withClock now (schedule S caseId)
  return (approval, scheduled)

/-- The answer of `ReviewControlPlane.approve`. -/
def approvalAnswer (approval : ProductRecord) (scheduled : SchedulingOutcome) : Document :=
  [("case", scheduled.case.toDict), ("approval", approval.toDict),
    ("schedule", scheduled.record.toDict),
    ("job", .obj [("job_id", .str scheduled.job.jobId),
      ("state", .str scheduled.job.state.value), ("execute_at", .str scheduled.job.executeAt),
      ("deadline", .str scheduled.job.deadline)]),
    ("execution_started", .bool false)]

/-- `ReviewControlPlane.approve`. -/
def reviewApprove (S : Settings) (document : Document) : Service Document := do
  let inputs ← decisionInputs S.platform document "APPROVE"
  let now ← perform .now
  match inputs.case.changeWindow with
  | none => .raise (reviewControlError "the package has no selected change window")
  | some window =>
    let expired ← .ofExcept (notAfter S.platform window.endsAt now)
    .raiseIf (expired = true) (reviewControlError "the selected change window has expired")
    let approvalId ← perform (.newId "APPROVAL")
    let assertion ← .ofExcept (reviewAssertion S.platform inputs window now approvalId)
    let (approval, scheduled) ← Prog.handle
      (approveAndSchedule S assertion inputs.case.caseId now) fun e =>
        if e.kind = .actionPlaneError ∨ e.kind.isValueError = true then
          .raise (reviewControlError e.message)
        else .raise e
    return approvalAnswer approval scheduled

end ElCapitan
