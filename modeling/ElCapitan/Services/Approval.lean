import ElCapitan.Services.Workflow

/-!
# Human decisions

`ApprovalService.approve` and `RejectionService.reject`: a verified assertion
about the exact review package of a case becomes a record and a transition.
-/

namespace ElCapitan

open Effects

/-- A control of a pack: its evaluation of the captured aspects of a resource. -/
structure Control where
  /-- `definition.evaluator`: whether the finding is confirmed, and why. -/
  evaluate : Document → Except PyError (Bool × String)
  /-- `remediation_planning`. -/
  remediationPlanning : Bool

/-- What the services of one installation share. -/
structure Settings where
  platform : Platform
  artifactRoot : String
  /-- `ControlPackRegistry.get` of the installed packs: provider, rule and resource type. -/
  control : String → String → String → Option Control

/-- `ActionPlaneError`. -/
def actionPlaneError (message : String) : PyError := ⟨.actionPlaneError, message⟩

/-- `mapping[name]`. -/
def RecordIds.require (records : RecordIds) (name : String) : Except PyError String :=
  match records.lookup name with
  | some recordId => .ok recordId
  | none => .error (keyError ("'" ++ name ++ "'"))

/-- `mapping.get(name) or ""`. -/
def RecordIds.text (records : RecordIds) (name : String) : String :=
  (records.lookup name).getD ""

/-- `VerifiedApproval`. -/
structure VerifiedApproval (P : Platform) where
  approvalId : String
  caseId : String
  reviewPackageId : String
  approver : String
  authenticatedAt : String
  expiresAt : String
  authenticationMethod : String
  statement : String
  required : "" ∉ [approvalId, caseId, reviewPackageId, approver, authenticatedAt, expiresAt,
    authenticationMethod, statement]
  expires_after : notAfter P expiresAt authenticatedAt = .ok false

/-- `asdict` of an approval. -/
def VerifiedApproval.toDict {P : Platform} (assertion : VerifiedApproval P) : Document :=
  [("approval_id", .str assertion.approvalId), ("case_id", .str assertion.caseId),
    ("review_package_id", .str assertion.reviewPackageId), ("approver", .str assertion.approver),
    ("authenticated_at", .str assertion.authenticatedAt),
    ("expires_at", .str assertion.expiresAt),
    ("authentication_method", .str assertion.authenticationMethod),
    ("statement", .str assertion.statement)]

/-- `VerifiedRejection`. -/
structure VerifiedRejection where
  rejectionId : String
  caseId : String
  reviewPackageId : String
  approver : String
  authenticatedAt : String
  authenticationMethod : String
  reason : String
  statement : String
  required : "" ∉ [rejectionId, caseId, reviewPackageId, approver, authenticatedAt,
    authenticationMethod, reason, statement]

/-- `asdict` of a rejection. -/
def VerifiedRejection.toDict (assertion : VerifiedRejection) : Document :=
  [("rejection_id", .str assertion.rejectionId), ("case_id", .str assertion.caseId),
    ("review_package_id", .str assertion.reviewPackageId), ("approver", .str assertion.approver),
    ("authenticated_at", .str assertion.authenticatedAt),
    ("authentication_method", .str assertion.authenticationMethod),
    ("reason", .str assertion.reason), ("statement", .str assertion.statement)]

/-- The checks of a decision (`"approval"` or `"rejection"`) against the case and its
review package. -/
def reviewedPackage (decision caseId reviewPackageId : String) :
    Service (RemediationCase × ProductRecord) := do
  let case ← perform (.getCase caseId)
  .raiseIf (case.state ≠ .awaitingApproval) (actionPlaneError
    ("case " ++ case.caseId ++ " must be awaiting_approval, not " ++ case.state.value))
  .raiseIf (case.recordIds.lookup "human_review_package_id" ≠ some reviewPackageId)
    (actionPlaneError (decision ++ " is not bound to this case's review package"))
  let package ← perform (.getRecord reviewPackageId)
  .raiseIf (package.caseId ≠ case.caseId ∨ package.recordType ≠ "HumanReviewPackage.v1")
    (actionPlaneError (decision ++ " package has the wrong owner or type"))
  return (case, package)

/-- The part of a decision's record that binds it to the package, plan and window. -/
def decisionBinding (case : RemediationCase) (binding : String) : Except PyError Document := do
  let planId ← case.recordIds.require "change_plan_id"
  let windowId ← case.recordIds.require "change_window_id"
  return [("review_package_sha256", .str binding), ("plan_id", .str planId),
    ("window_id", .str windowId)]

/-- A record id that is not empty is present. -/
theorem RecordIds.lookup_of_text_ne {records : RecordIds} {name : String}
    (h : records.text name ≠ "") : records.lookup name = some (records.text name) := by
  unfold RecordIds.text at h ⊢
  cases hlookup : records.lookup name with
  | none => simp [hlookup] at h
  | some recordId => rfl

/-- A required record id is the one that is present. -/
theorem RecordIds.require_eq_ok {records : RecordIds} {name recordId : String} :
    records.require name = .ok recordId ↔ records.lookup name = some recordId := by
  unfold RecordIds.require
  cases records.lookup name <;> simp

/-- A decision is bound to the plan and the window that the case binds. -/
theorem decisionBinding_eq_ok {case : RemediationCase} {binding : String} {bound : Document}
    (h : decisionBinding case binding = .ok bound) :
    ∃ planId windowId, case.recordIds.lookup "change_plan_id" = some planId ∧
      case.recordIds.lookup "change_window_id" = some windowId ∧
      bound = [("review_package_sha256", .str binding), ("plan_id", .str planId),
        ("window_id", .str windowId)] := by
  unfold decisionBinding at h
  obtain ⟨planId, hplan, h⟩ := except_bind_eq_ok.mp h
  obtain ⟨windowId, hwindow, h⟩ := except_bind_eq_ok.mp h
  cases h
  exact ⟨planId, windowId, RecordIds.require_eq_ok.mp hplan, RecordIds.require_eq_ok.mp hwindow,
    rfl⟩

/-- `ApprovalService.approve`. -/
def approve (S : Settings) (assertion : VerifiedApproval S.platform) :
    Service (RemediationCase × ProductRecord) := do
  let (case, package) ← reviewedPackage "approval" assertion.caseId assertion.reviewPackageId
  let now ← perform .now
  let authenticated ← .ofExcept (notAfter S.platform assertion.authenticatedAt now)
  .raiseIf (authenticated = false)
    (actionPlaneError "approval authentication timestamp is in the future")
  let expired ← .ofExcept (notAfter S.platform assertion.expiresAt now)
  .raiseIf (expired = true) (actionPlaneError "approval has expired")
  let binding := S.platform.canonicalHash (.obj package.body)
  let runDir := S.artifactRoot ++ "/cases/" ++ case.caseId ++ "/approval/" ++ assertion.approvalId
  let evidenceId ← perform (.newId "EVD")
  let approvalRef ← writeEvidence S.platform runDir evidenceId "verified_human_approval"
    (S.platform.canonical
      (.obj (assertion.toDict ++ [("review_package_sha256", .str binding)])))
    ⟨"elcapitan-approval-gate", "0.1.0", "trusted-approval-adapter"⟩ "restricted" "" now
  let bound ← .ofExcept (decisionBinding case binding)
  let record ← .ofExcept (ProductRecord.create assertion.approvalId case.caseId
    "ChangeApproval.v1" 1 now (assertion.toDict ++ bound) [approvalRef.evidenceId])
  perform (.putRecord record)
  let eventId ← perform (.newId "EVT")
  let case ← advance case.caseId .approveChange
    { eventId, occurredAt := now, actor := "approver:" ++ assertion.approver,
      recordIds := recordIdsOf [("approval_id", assertion.approvalId)],
      evidenceIds := record.evidenceIds }
  return (case, record)

/-- `RejectionService.reject`. -/
def reject (S : Settings) (assertion : VerifiedRejection) :
    Service (RemediationCase × ProductRecord) := do
  let (case, package) ← reviewedPackage "rejection" assertion.caseId assertion.reviewPackageId
  let now ← perform .now
  let authenticated ← .ofExcept (notAfter S.platform assertion.authenticatedAt now)
  .raiseIf (authenticated = false)
    (actionPlaneError "rejection authentication timestamp is in the future")
  let binding := S.platform.canonicalHash (.obj package.body)
  let runDir :=
    S.artifactRoot ++ "/cases/" ++ case.caseId ++ "/rejection/" ++ assertion.rejectionId
  let evidenceId ← perform (.newId "EVD")
  let rejectionRef ← writeEvidence S.platform runDir evidenceId "verified_human_rejection"
    (S.platform.canonical
      (.obj (assertion.toDict ++ [("review_package_sha256", .str binding)])))
    ⟨"elcapitan-rejection-gate", "0.1.0", "trusted-approval-adapter"⟩ "restricted" "" now
  let bound ← .ofExcept (decisionBinding case binding)
  let record ← .ofExcept (ProductRecord.create assertion.rejectionId case.caseId
    "ChangeRejection.v1" 1 now (assertion.toDict ++ bound) [rejectionRef.evidenceId])
  perform (.putRecord record)
  let eventId ← perform (.newId "EVT")
  let case ← advance case.caseId .reject
    { eventId, occurredAt := now, actor := "approver:" ++ assertion.approver,
      recordIds := recordIdsOf [("rejection_id", assertion.rejectionId)],
      evidenceIds := record.evidenceIds, detail := assertion.reason }
  return (case, record)

end ElCapitan
