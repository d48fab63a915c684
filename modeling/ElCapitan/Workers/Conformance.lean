import ElCapitan.Workers.Grounds

/-!
# The services act on their grounds

One theorem for each service: whatever its environment answers, it changes cases,
assigns findings and deploys only with permission, on the grounds stated for it.
-/

namespace ElCapitan

open Effects

section free

/-! ### Parts that do nothing of note -/

/-- Writing the evidence of a stage changes no case. -/
theorem uses_stageEvidence {S : Settings} {runDir kind now : String} {document : Json} :
    (stageEvidence S runDir kind document now).Uses Free := by
  refine (Prog.uses_perform trivial).bind fun _ => ?_
  exact uses_writeEvidence.bind fun _ => trivial

/-- Asking an agent changes no case. -/
theorem uses_askAgent {S : Settings} {contract : StageContract} {task : AgentTask} :
    (askAgent S contract task).Uses Free := by
  refine (Prog.uses_perform trivial).bind fun _ => ?_
  exact Prog.uses_ofExcept.bind fun _ => trivial

/-- The retries for an answer that breaks its semantics change no case. -/
theorem uses_correctSemantics {S : Settings} {contract : StageContract} {retries : ℕ}
    {task : AgentTask} {answer : StageAnswer} :
    (correctSemantics S contract retries task answer).Uses Free := by
  induction retries generalizing task answer with
  | zero => trivial
  | succ retries ih =>
    unfold correctSemantics
    split
    · exact uses_askAgent.bind fun _ => ih
    · trivial

/-- The retries for an answer that cites no known evidence change no case. -/
theorem uses_correctCitations {S : Settings} {contract : StageContract} {retries : ℕ}
    {task : AgentTask} {result : AgentResult} {failures : List String} :
    (correctCitations S contract retries task result failures).Uses Free := by
  unfold correctCitations
  dsimp only
  split
  · exact uses_askAgent.bind fun _ => trivial
  · trivial

/-- A stage changes no case, however often it asks its agent. -/
theorem uses_runStage {S : Settings} {contract : StageContract} {task : AgentTask} :
    (runStage S contract task).Uses Free := by
  refine uses_askAgent.bind fun _ => ?_
  refine uses_correctSemantics.bind fun _ => ?_
  refine uses_correctCitations.bind fun _ => ?_
  refine Prog.uses_raiseIf.bind fun _ => ?_
  refine Prog.uses_raiseIf.bind fun _ => ?_
  refine (Prog.uses_perform trivial).bind fun _ => ?_
  refine (Prog.uses_perform trivial).bind fun _ => ?_
  exact uses_writeEvidence.bind fun _ => trivial

/-- Reading what a review is about changes no case. -/
theorem uses_openReview {S : Settings} {caseId kind directory : String} :
    (openReview S caseId kind directory).Uses Free := by
  refine (Prog.uses_perform trivial).bind fun _ => ?_
  refine (Prog.uses_perform trivial).bind fun _ => ?_
  exact (Prog.uses_perform trivial).bind fun _ => trivial

/-- Choosing the evidence directory of a window changes no case. -/
theorem uses_openWindow {S : Settings} {caseId now : String} :
    (openWindow S caseId now).Uses Free := by
  refine (Prog.uses_perform trivial).bind fun _ => ?_
  exact (Prog.uses_perform trivial).bind fun _ => trivial

/-- Checking that a window was found changes no case. -/
theorem uses_windowCheck {P : Platform} {window : Option ChangeWindow} :
    (windowCheck P window).Uses Free := by
  cases window with
  | none => trivial
  | some window =>
    refine (Prog.uses_perform trivial).bind fun _ => ?_
    exact Prog.uses_ofExcept.bind fun _ => trivial

/-- Writing evidence of planning changes no case. -/
theorem uses_planningEvidence {S : Settings} {run : PlanningRun} {kind payload : String} :
    (planningEvidence S run kind payload).Uses Free := by
  refine (Prog.uses_perform trivial).bind fun _ => ?_
  exact uses_writeEvidence.bind fun _ => trivial

/-- Writing the outputs of the Terraform checks changes no case. -/
theorem uses_checkEvidence {S : Settings} {run : PlanningRun} {checks : List TerraformCheck} :
    (checkEvidence S run checks).Uses Free := by
  induction checks with
  | nil => trivial
  | cons check checks ih =>
    refine uses_planningEvidence.bind fun _ => ?_
    exact ih.bind fun _ => trivial

/-- Reading what a plan is about changes no case. -/
theorem uses_openPlanning {S : Settings} {request : PlanningRequest} :
    (openPlanning S request).Uses Free := by
  refine (Prog.uses_perform trivial).bind fun _ => ?_
  refine (Prog.uses_perform trivial).bind fun _ => ?_
  refine (Prog.uses_perform trivial).bind fun _ => ?_
  refine (Prog.uses_perform trivial).bind fun _ => ?_
  exact (Prog.uses_perform trivial).bind fun _ => trivial

/-- Asking for a proposal changes no case. -/
theorem uses_proposeRemediation {S : Settings} {task : AgentTask} {source : LinkedSource} :
    (proposeRemediation S task source).Uses Free := by
  refine (Prog.uses_perform trivial).bind fun _ => ?_
  refine Prog.uses_ofExcept.bind fun _ => ?_
  refine Prog.uses_raiseIf.bind fun _ => ?_
  refine Prog.uses_raiseIf.bind fun _ => ?_
  exact Prog.uses_raiseIf.bind fun _ => trivial

/-- Materializing a proposal changes no case: it works in the repository. -/
theorem uses_materializeProposal {context : PlanningContext} {run : PlanningRun}
    {source : LinkedSource} {result : AgentResult} :
    (materializeProposal context run source result).Uses Free := by
  refine Prog.uses_ofExcept.bind fun _ => ?_
  refine (Prog.uses_perform trivial).bind fun _ => ?_
  refine (Prog.uses_perform trivial).bind fun _ => ?_
  refine ((Prog.uses_perform trivial).handle fun _ => Prog.uses_raise).bind fun _ => ?_
  refine (Prog.uses_perform trivial).bind fun _ => ?_
  refine Prog.uses_raiseIf.bind fun _ => ?_
  refine (Prog.uses_perform trivial).bind fun _ => ?_
  refine (Prog.uses_perform trivial).bind fun _ => ?_
  exact Prog.uses_raiseIf.bind fun _ => trivial

/-- Capturing the state of a resource changes no case. -/
theorem uses_captureState {S : Settings} {runDir now : String} {hostEnv : List (String × String)}
    {finding : StoredFinding} : (captureState S runDir now hostEnv finding).Uses Free := by
  refine (Prog.uses_perform trivial).bind fun _ => ?_
  refine (Prog.uses_perform trivial).bind fun _ => ?_
  refine Prog.Uses.handle ?_ fun e => ?_
  · refine (Prog.uses_perform trivial).bind fun _ => ?_
    refine Prog.uses_raiseIf.bind fun _ => ?_
    exact uses_writeEvidence.bind fun _ => trivial
  · split
    · exact uses_writeEvidence.bind fun _ => trivial
    · trivial

/-- Capturing a resource at most once changes no case. -/
theorem uses_captureOnce {S : Settings} {runDir now : String} {hostEnv : List (String × String)}
    {captured : Captures} {finding : StoredFinding} :
    (captureOnce S runDir now hostEnv captured finding).Uses Free := by
  unfold captureOnce
  split
  · trivial
  · exact uses_captureState.bind fun _ => trivial

/-- Looking up a known finding changes no case. -/
theorem uses_existingFinding {S : Settings} {request : IntakeRequest} {source : SourceKey} :
    (existingFinding S request source).Uses Free := by
  refine (Prog.uses_perform trivial).bind fun _ => ?_
  refine Prog.uses_ofExcept.bind fun _ => ?_
  dsimp only
  split
  · refine (Prog.uses_perform trivial).bind fun legacy => ?_
    cases legacy with
    | none => trivial
    | some legacy => exact Prog.uses_ofExcept.bind fun _ => trivial
  · trivial

/-- Building a finding from a document changes no case. -/
theorem uses_buildFinding {S : Settings} {request : IntakeRequest} {source : SourceKey}
    {findingId namespaceOf now : String} :
    (buildFinding S request source findingId namespaceOf now).Uses Free := by
  refine Prog.Uses.bind ?_ fun _ => ?_
  · refine Prog.uses_raiseIf.bind fun _ => ?_
    refine Prog.uses_ofExcept.bind fun _ => ?_
    refine Prog.uses_ofExcept.bind fun _ => ?_
    refine Prog.uses_ofExcept.bind fun _ => ?_
    exact uses_writeEvidence.bind fun _ => Prog.uses_ofExcept
  · refine Prog.uses_raiseIf.bind fun _ => ?_
    refine Prog.uses_ofExcept.bind fun _ => ?_
    exact Prog.uses_ofExcept.bind fun _ => trivial

/-- A built finding is not assigned. -/
theorem buildFinding_unassigned {S : Settings} {request : IntakeRequest} {source : SourceKey}
    {findingId namespaceOf now : String} :
    (buildFinding S request source findingId namespaceOf now).Returns fun finding =>
      finding.caseId = none := by
  unfold buildFinding
  simp only [Prog.bind_eq, Prog.pure_eq]
  refine Prog.returns_bind fun _ => Prog.returns_bind fun _ => Prog.returns_bind fun _ => ?_
  exact Prog.returns_bind fun _ => rfl

/-- Storing a finding changes no case: it is assigned later. -/
theorem uses_storeFinding {S : Settings} {request : IntakeRequest} {source : SourceKey} :
    (storeFinding S request source).Uses Free := by
  refine (Prog.uses_perform trivial).bind fun _ => ?_
  refine (Prog.uses_perform trivial).bind fun _ => ?_
  refine (Prog.uses_perform trivial).bind fun _ => ?_
  refine uses_buildFinding.bind_returns buildFinding_unassigned fun _ hunassigned => ?_
  refine Prog.Uses.handle ?_ fun e => ?_
  · exact (Prog.uses_perform hunassigned).bind fun _ => trivial
  · split
    · refine (Prog.uses_perform trivial).bind fun _ => ?_
      refine (Prog.uses_perform trivial).bind fun winner => ?_
      cases winner <;> trivial
    · trivial

/-- A component whose exception is answered for it. -/
theorem uses_orElse {o : Operation} {f : PyError → o.Answer} (ho : Free o) :
    (Prog.handle (perform o) fun e => Prog.ret (f e)).Uses Free :=
  (Prog.uses_perform ho).handle fun _ => Prog.uses_ret

/-- Writing evidence of an execution changes no case. -/
theorem uses_executionEvidence {S : Settings} {runDir kind now : String} {document : Json} :
    (executionEvidence S runDir kind document now).Uses Free := by
  refine (Prog.uses_perform trivial).bind fun _ => ?_
  exact uses_writeEvidence.bind fun _ => trivial

/-- Running the probes of an execution changes no case. -/
theorem uses_runProbes {caseId : String} {context : ExecutionContext} {names : List String} :
    (runProbes caseId context names).Uses Free := by
  induction names with
  | nil => trivial
  | cons name names ih =>
    refine ((Prog.uses_perform trivial).handle fun _ => Prog.uses_ret).bind fun _ => ?_
    exact ih.bind fun _ => trivial

end free

section decisions

/-! ### Human decisions and scheduling -/

variable {S : Settings} {k : Trace}

/-- An approval commits `APPROVE_CHANGE` on the grounds of the assertion, and nothing else. -/
theorem approve_acts {assertion : VerifiedApproval S.platform} :
    Acts (ApprovalGrounds S.platform) (approve S assertion) (onOk fun _ _ => True) k := by
  unfold approve reviewedPackage
  simp only [Prog.bind_eq, Prog.pure_eq, Prog.bind_assoc, Prog.ret_bind]
  refine Acts.perform trivial fun snap => ?_
  refine Acts.raiseIf fun _ => Acts.raiseIf fun hpackage => ?_
  refine Acts.perform trivial fun package => Acts.raiseIf fun _ => ?_
  refine Acts.perform trivial fun now => ?_
  refine Acts.ofExcept fun _ _ => Acts.raiseIf fun _ => ?_
  refine Acts.ofExcept fun _ _ => Acts.raiseIf fun _ => ?_
  refine Acts.perform trivial fun _ => Acts.free uses_writeEvidence fun ref => ?_
  refine Acts.ofExcept fun bound hbound => Acts.ofExcept fun record hrecord => ?_
  refine Acts.perform trivial fun _ => Acts.perform trivial fun eventId => ?_
  refine Acts.advance ?_ fun _ _ _ _ => trivial
  obtain ⟨planId, windowId, hplan, hwindow, rfl⟩ := decisionBinding_eq_ok hbound
  obtain ⟨hid, howner, -, -, hbody, -⟩ := ProductRecord.create_eq_ok hrecord
  have hentry : ∀ name, record.body.get name = Document.get (assertion.toDict ++
      [("review_package_sha256", .str (S.platform.canonicalHash (.obj package.body))),
        ("plan_id", .str planId), ("window_id", .str windowId)]) name := by
    rw [hbody]
    exact fun _ => rfl
  refine @ApprovalGrounds.approve S.platform _ _ _ assertion.caseId assertion.reviewPackageId
    planId windowId snap package record ?_ ?_ (not_not.mp hpackage) hplan hwindow
    ⟨?_, howner, ?_⟩ ?_ ?_ ?_ ?_ (suppliesOnly_of_eq [(_, _)] rfl)
  · simp [note, noted]
  · simp [note, noted]
  · simp [note, noted]
  · rw [hid]
    exact lookup_recordIdsOf_self _ _
  all_goals
    rw [hentry]
    rfl

/-- A rejection commits `REJECT` alone. -/
theorem reject_acts {assertion : VerifiedRejection} :
    Acts (PlainGrounds .reject ["rejection_id"]) (reject S assertion) (onOk fun _ _ => True) k := by
  unfold reject reviewedPackage
  simp only [Prog.bind_eq, Prog.pure_eq, Prog.bind_assoc, Prog.ret_bind]
  refine Acts.perform trivial fun snap => ?_
  refine Acts.raiseIf fun _ => Acts.raiseIf fun _ => ?_
  refine Acts.perform trivial fun package => Acts.raiseIf fun _ => ?_
  refine Acts.perform trivial fun now => Acts.ofExcept fun _ _ => Acts.raiseIf fun _ => ?_
  refine Acts.perform trivial fun _ => Acts.free uses_writeEvidence fun ref => ?_
  refine Acts.ofExcept fun _ _ => Acts.ofExcept fun record _ => ?_
  refine Acts.perform trivial fun _ => Acts.perform trivial fun eventId => ?_
  exact Acts.advance (.mk (suppliesOnly_of_eq [(_, _)] rfl)) fun _ _ _ _ => trivial

/-- Scheduling commits `SCHEDULE_EXECUTION` alone, with the records it has put. -/
theorem schedule_acts {caseId : String} :
    Acts (PlainGrounds .scheduleExecution ["schedule_id", "execution_job_id"])
      (schedule S caseId) (onOk fun _ _ => True) k := by
  unfold schedule
  simp only [Prog.bind_eq, Prog.pure_eq]
  refine Acts.perform trivial fun snap => Acts.ofExcept fun window _ => ?_
  refine Acts.perform trivial fun _ => Acts.ofExcept fun _ _ => Acts.raiseIf fun _ => ?_
  refine Acts.perform trivial fun jobId => Acts.perform trivial fun scheduleId => ?_
  refine Acts.perform trivial fun now => Acts.perform trivial fun _ => ?_
  refine Acts.ofExcept fun record _ => Acts.perform trivial fun _ => ?_
  refine Acts.perform trivial fun eventId => ?_
  exact Acts.advance (.mk (suppliesOnly_of_eq [(_, _), (_, _)] rfl)) fun _ _ _ _ => trivial

end decisions

section reviews

/-! ### Operational reviews and the gate -/

variable {S : Settings} {k : Trace} {caseId : String}

/-- An approval that is no longer valid sends the case back to the SRE review. -/
theorem retryInvalidApproval_acts :
    Acts (PlainGrounds .retrySre ["review_feedback_id"]) (retryInvalidApproval S caseId)
      (onOk fun _ _ => True) k := by
  unfold retryInvalidApproval
  simp only [Prog.bind_eq, Prog.pure_eq]
  refine Acts.perform trivial fun snap => ?_
  split
  · trivial
  · refine Acts.perform trivial fun review => Acts.raiseIf fun _ => ?_
    split
    · trivial
    · refine Acts.perform trivial fun eventId => Acts.perform trivial fun occurredAt => ?_
      exact Acts.advance (.mk (suppliesOnly_of_eq [(_, _)] rfl)) fun _ _ _ _ => trivial

/-- A window that has begun sends the case back to the selection of a window. -/
theorem reselectStarted_acts :
    Acts (PlainGrounds .reselectWindow []) (reselectStarted S caseId) (onOk fun _ _ => True)
      k := by
  unfold reselectStarted
  simp only [Prog.bind_eq, Prog.pure_eq]
  refine Acts.perform trivial fun snap => ?_
  split
  · trivial
  · refine Acts.ofExcept fun selected _ => Acts.perform trivial fun now => ?_
    refine Acts.ofExcept fun started _ => ?_
    split
    · trivial
    · refine Acts.perform trivial fun window => Acts.perform trivial fun rollback => ?_
      refine Acts.raiseIf fun _ => Acts.raiseIf fun _ => ?_
      refine Acts.perform trivial fun eventId => ?_
      exact Acts.advance (.mk (suppliesOnly_of_eq [] rfl)) fun _ _ _ _ => trivial

/-- The selection of a window commits `SELECT_WINDOW` with the window it has put. -/
theorem selectWindow_acts {samples : List UsageSample} {policy : WindowPolicy} :
    Acts (PlainGrounds .selectWindow ["change_window_id"]) (selectWindow S caseId samples policy)
      (onOk fun _ _ => True) k := by
  unfold selectWindow windowSubject
  simp only [Prog.bind_eq, Prog.pure_eq, Prog.bind_assoc, Prog.ret_bind]
  refine Acts.perform trivial fun snap => Acts.raiseIf fun _ => ?_
  refine Acts.perform trivial fun sre => Acts.perform trivial fun plan => Acts.raiseIf fun _ => ?_
  refine Acts.perform trivial fun now => Acts.perform trivial fun candidates => ?_
  refine Acts.free uses_openWindow fun run => ?_
  refine Acts.free uses_stageEvidence fun telemetry => ?_
  refine Acts.free uses_stageEvidence fun offered => ?_
  refine Acts.ofExcept fun task _ => Acts.ofExcept fun _ _ => ?_
  refine Acts.free uses_runStage fun _ => Acts.ofExcept fun selection _ => ?_
  refine Acts.ofExcept fun body _ => Acts.ofExcept fun record _ => ?_
  refine Acts.perform trivial fun _ => Acts.ofExcept fun window _ => ?_
  refine Acts.perform trivial fun eventId => ?_
  exact Acts.advance (.mk (suppliesOnly_of_eq [(_, _)] rfl)) fun _ _ _ _ => trivial

/-- The body of an SRE review names the plan that was reviewed. -/
theorem sreBody_plan {P : Platform} {run : ReviewRun} {plan : ProductRecord} {result : AgentResult}
    {body : Document} (h : sreBody P run plan result = .ok body) :
    body.get "plan_id" = .str plan.recordId := by
  unfold sreBody at h
  obtain ⟨_, -, h⟩ := except_bind_eq_ok.mp h
  obtain ⟨_, -, h⟩ := except_bind_eq_ok.mp h
  obtain ⟨_, -, h⟩ := except_bind_eq_ok.mp h
  obtain ⟨_, -, h⟩ := except_bind_eq_ok.mp h
  cases h
  rfl

/-- The SRE review commits its approval only after a record of it about the plan was put. -/
theorem reviewSre_acts {context : Document} :
    Acts SreGrounds (reviewSre S caseId context) (onOk fun _ _ => True) k := by
  unfold reviewSre sreSubject
  simp only [Prog.bind_eq, Prog.pure_eq, Prog.bind_assoc, Prog.ret_bind]
  refine Acts.perform trivial fun snap => Acts.raiseIf fun _ => ?_
  refine Acts.perform trivial fun plan => Acts.raiseIf fun _ => Acts.raiseIf fun _ => ?_
  refine Acts.ofExcept fun _ _ => Acts.free uses_openReview fun run => ?_
  refine Acts.free uses_stageEvidence fun _ => Acts.ofExcept fun task _ => ?_
  refine Acts.ofExcept fun _ _ => Acts.free uses_runStage fun answer => ?_
  refine Acts.ofExcept fun _ _ => Acts.ofExcept fun body hbody => ?_
  refine Acts.ofExcept fun record hrecord => Acts.perform trivial fun _ => ?_
  refine Acts.perform trivial fun eventId => ?_
  refine Acts.advance ?_ fun _ _ _ _ => trivial
  obtain ⟨hid, howner, -, -, hrecordBody, -⟩ := ProductRecord.create_eq_ok hrecord
  unfold sreDecision
  split
  · refine @SreGrounds.approve _ _ _ snap plan record ?_ ?_ ⟨?_, howner, ?_⟩ ?_
      (suppliesOnly_of_eq [(_, _)] rfl)
    · simp [note, noted]
    · simp [note, noted]
    · simp [note, noted]
    · rw [hid]
      exact lookup_recordIdsOf_self _ _
    · rw [hrecordBody]
      exact sreBody_plan hbody
  · split
    · exact .refuse (.inl rfl) (suppliesOnly_of_eq [(_, _)] rfl)
    · exact .refuse (.inr rfl) (suppliesOnly_of_eq [(_, _)] rfl)

/-- The body of a rollback review names the plan and the window that were reviewed. -/
theorem rollbackBody_subject {P : Platform} {run : ReviewRun} {subject : RollbackSubject}
    {result : AgentResult} {body : Document} (h : rollbackBody P run subject result = .ok body) :
    body.get "plan_id" = .str subject.plan.recordId ∧
      body.get "window_id" = .str subject.window.recordId := by
  unfold rollbackBody at h
  obtain ⟨_, -, h⟩ := except_bind_eq_ok.mp h
  obtain ⟨_, -, h⟩ := except_bind_eq_ok.mp h
  obtain ⟨_, -, h⟩ := except_bind_eq_ok.mp h
  obtain ⟨_, -, h⟩ := except_bind_eq_ok.mp h
  cases h
  exact ⟨rfl, rfl⟩

/-- The rollback review commits its approval only after a record of it about the plan and the window
was put. -/
theorem reviewRollback_acts :
    Acts RollbackGrounds (reviewRollback S caseId) (onOk fun _ _ => True) k := by
  unfold reviewRollback rollbackSubject
  simp only [Prog.bind_eq, Prog.pure_eq, Prog.bind_assoc, Prog.ret_bind]
  refine Acts.perform trivial fun snap => Acts.raiseIf fun _ => ?_
  refine Acts.perform trivial fun plan => Acts.perform trivial fun sre => ?_
  refine Acts.perform trivial fun window => Acts.raiseIf fun _ => ?_
  refine Acts.free uses_openReview fun run => Acts.ofExcept fun task _ => ?_
  refine Acts.ofExcept fun _ _ => Acts.ofExcept fun _ _ => Acts.ofExcept fun _ _ => ?_
  refine Acts.free uses_runStage fun answer => Acts.ofExcept fun _ _ => ?_
  refine Acts.ofExcept fun body hbody => Acts.ofExcept fun record hrecord => ?_
  refine Acts.perform trivial fun _ => Acts.perform trivial fun eventId => ?_
  obtain ⟨hid, howner, -, -, hrecordBody, -⟩ := ProductRecord.create_eq_ok hrecord
  unfold settleRollback
  split
  · refine Acts.advance ?_ fun _ _ _ _ => trivial
    refine @RollbackGrounds.approve _ _ _ snap plan window record ?_ ?_ ?_ ⟨?_, howner, ?_⟩ ?_ ?_
      (suppliesOnly_of_eq [(_, _)] rfl)
    · simp [note, noted]
    · simp [note, noted]
    · simp [note, noted]
    · simp [note, noted]
    · rw [hid]
      exact lookup_recordIdsOf_self _ _
    · rw [hrecordBody]
      exact (rollbackBody_subject hbody).1
    · rw [hrecordBody]
      exact (rollbackBody_subject hbody).2
  · split
    · unfold caseEvents
      simp only [Prog.bind_eq, Prog.bind_assoc]
      refine Acts.ofExcept fun requiredChanges _ => Acts.perform trivial fun _ => ?_
      refine Acts.perform trivial fun events => ?_
      split
      · exact Acts.advance (.rework (suppliesOnly_of_eq [(_, _)] rfl)) fun _ _ _ _ => trivial
      · exact Acts.advance (.refuse (.inl rfl) (suppliesOnly_of_eq [(_, _)] rfl))
          fun _ _ _ _ => trivial
    · exact Acts.advance (.refuse (.inr rfl) (suppliesOnly_of_eq [(_, _)] rfl))
        fun _ _ _ _ => trivial

/-- Reading the records of the gates commits no transition. -/
theorem gateRecords_acts {G : Grounds} {case : RemediationCase}
    {required : List (String × String)} :
    Acts G (gateRecords caseId case required) (onOk fun _ _ => True) k := by
  induction required generalizing k with
  | nil => trivial
  | cons entry required ih =>
    unfold gateRecords
    dsimp only
    split
    · exact Acts.bind ih fun _ _ _ => trivial
    · refine Acts.perform trivial fun record => ?_
      exact Acts.bind ih fun _ _ _ => trivial

/-- Preparing the human review commits `REQUEST_APPROVAL` with the two records it has put. -/
theorem prepareReview_acts {policy : GatePolicy} :
    Acts (PlainGrounds .requestApproval ["policy_decision_id", "human_review_package_id"])
      (prepareReview S policy caseId) (onOk fun _ _ => True) k := by
  unfold prepareReview
  simp only [Prog.bind_eq, Prog.pure_eq]
  refine Acts.perform trivial fun snap => Acts.raiseIf fun _ => ?_
  refine Acts.bind gateRecords_acts fun found k' _ => ?_
  refine Acts.free uses_windowCheck fun window => Acts.raiseIf fun _ => ?_
  refine Acts.perform trivial fun now => Acts.perform trivial fun policyId => ?_
  refine Acts.perform trivial fun packageId => Acts.ofExcept fun decision _ => ?_
  refine Acts.perform trivial fun _ => Acts.ofExcept fun package _ => ?_
  refine Acts.perform trivial fun _ => Acts.perform trivial fun eventId => ?_
  exact Acts.advance (.mk (suppliesOnly_of_eq [(_, _), (_, _)] rfl)) fun _ _ _ _ => trivial

end reviews

section validation

/-! ### Validation and planning -/

variable {S : Settings} {k : Trace} {caseId : String}

/-- A judgement is about the finding that was judged. -/
theorem judgeFinding_findingId {finding : StoredFinding} {capture : Capture}
    {result : FindingValidation} (h : judgeFinding S finding capture = .ok result) :
    result.findingId = finding.findingId := by
  have hunavailable : ∀ reason, (do
      let ruleId ← finding.ruleId S.platform
      return { findingId := finding.findingId, ruleId, status := .unavailable, reason,
               evidenceIds := capture.evidenceIds : FindingValidation }) = .ok result →
        result.findingId = finding.findingId := by
    intro reason heq
    obtain ⟨_, -, heq⟩ := except_bind_eq_ok.mp heq
    cases heq
    rfl
  unfold judgeFinding at h
  dsimp only at h
  split at h
  · exact hunavailable _ h
  · split at h
    · rename_i hevaluated
      cases h
      unfold evaluateFinding at hevaluated
      obtain ⟨_, -, hevaluated⟩ := except_bind_eq_ok.mp hevaluated
      obtain ⟨_, -, hevaluated⟩ := except_bind_eq_ok.mp hevaluated
      split at hevaluated
      · cases hevaluated
        rfl
      · obtain ⟨_, -, hevaluated⟩ := except_bind_eq_ok.mp hevaluated
        obtain ⟨_, -, hevaluated⟩ := except_bind_eq_ok.mp hevaluated
        cases hevaluated
        rfl
    · split at h
      · exact hunavailable _ h
      · cases h

/-- The results of a validation are about the findings it was given. -/
theorem validateFindings_acts {G : Grounds} {runDir now : String}
    {hostEnv : List (String × String)} {captured : Captures} {findings : List StoredFinding} :
    Acts G (validateFindings S runDir now hostEnv captured findings) (onOk fun answer k' =>
      k' = k ∧ answer.1.map FindingValidation.findingId =
        findings.map StoredFinding.findingId) k := by
  induction findings generalizing captured with
  | nil => exact ⟨rfl, rfl⟩
  | cons finding findings ih =>
    unfold validateFindings
    simp only [Prog.bind_eq, Prog.pure_eq]
    refine Acts.free uses_captureOnce fun capture => Acts.ofExcept fun result hresult => ?_
    refine Acts.bind ih fun others k' hothers => ?_
    obtain ⟨rfl, hids⟩ := hothers
    refine ⟨rfl, ?_⟩
    rw [List.map_cons, List.map_cons, hids, judgeFinding_findingId hresult]

/-- The validation commits its outcome on the grounds of the record it has put. -/
theorem validate_acts {hostEnv : List (String × String)} :
    Acts ValidationGrounds (validate S caseId hostEnv) (onOk fun _ _ => True) k := by
  unfold validate
  simp only [Prog.bind_eq, Prog.pure_eq]
  refine Acts.perform trivial fun snap => Acts.raiseIf fun _ => ?_
  refine Acts.perform trivial fun findings => Acts.raiseIf fun _ => ?_
  refine Acts.perform trivial fun validationId => Acts.perform trivial fun now => ?_
  refine Acts.bind validateFindings_acts fun answer k' hanswer => ?_
  obtain ⟨results, refs⟩ := answer
  obtain ⟨rfl, hjudged⟩ := hanswer
  refine Acts.ofExcept fun record hrecord => Acts.perform trivial fun _ => ?_
  refine Acts.perform trivial fun eventId => ?_
  refine Acts.advance ?_ fun _ _ _ _ => trivial
  obtain ⟨hid, howner, htype, -, hbody, -⟩ := ProductRecord.create_eq_ok hrecord
  refine @ValidationGrounds.mk _ _ _ _ findings results record ?_ hjudged ⟨?_, howner, ?_⟩ htype
    ?_ rfl (suppliesOnly_of_eq [(_, _)] rfl)
  · simp [note, noted]
  · simp [note, noted]
  · rw [hid]
    exact lookup_recordIdsOf_self _ _
  · rw [hbody]
    rfl

/-- Reading the feedback of a rejected plan commits no transition. -/
theorem planningFeedback_acts {G : Grounds} {P : Platform} {feedbackId : String} :
    Acts G (planningFeedback P caseId feedbackId) (onOk fun _ k' => k <+: k') k := by
  unfold planningFeedback
  split
  · exact List.prefix_rfl
  · simp only [Prog.bind_eq, Prog.pure_eq]
    refine Acts.perform trivial fun feedback => Acts.raiseIf fun _ => Acts.raiseIf fun _ => ?_
    exact prefix_note _ _

/-- What planning has checked of the case when it takes its first id. -/
structure PlanningStart (scope : Option (List String)) (k : Trace) (caseId : String)
    (context : PlanningContext) : Prop where
  read : ⟨.getCase caseId, .ok context.case⟩ ∈ k
  listed : ∃ all, ⟨.listForCase caseId, .ok all⟩ ∈ k ∧
    planningScope all scope = .ok context.findings
  validation : context.case.recordIds.lookup "validation_result_id" = some context.validationId

/-- What planning has read, it has read after more steps too. -/
theorem PlanningStart.mono {scope : Option (List String)} {k' : Trace} {context : PlanningContext}
    (h : PlanningStart scope k caseId context) (hk : k <+: k') :
    PlanningStart scope k' caseId context := by
  obtain ⟨all, hall, hscope⟩ := h.listed
  exact ⟨hk.subset h.read, ⟨all, hk.subset hall, hscope⟩, h.validation⟩

/-- Reading what is to be planned commits no transition, and the start of planning is read. -/
theorem planningContext_acts {G : Grounds} {request : PlanningRequest} :
    Acts G (planningContext S request) (onOk fun context k' => k <+: k' ∧
      PlanningStart request.findingIds k' request.caseId context) k := by
  unfold planningContext
  simp only [Prog.bind_eq, Prog.pure_eq]
  refine Acts.perform trivial fun snap => Acts.raiseIf fun _ => ?_
  refine Acts.perform trivial fun all => Acts.raiseIf fun _ => ?_
  refine Acts.ofExcept fun findings hscope => Acts.ofExcept fun target _ => ?_
  refine Acts.raiseIf fun hvalidation => Acts.perform trivial fun validation => ?_
  refine Acts.raiseIf fun _ => Acts.raiseIf fun _ => ?_
  refine Acts.perform trivial fun repositoryRoot => Acts.perform trivial fun artifactRoot => ?_
  refine Acts.raiseIf fun _ => Acts.ofExcept fun ruleIds _ => Acts.perform trivial fun link => ?_
  refine Acts.bind planningFeedback_acts fun feedback k' hk' => ?_
  have hread : ⟨.getCase request.caseId, .ok snap⟩ ∈ k' := by
    refine hk'.subset ?_
    simp [note, noted]
  have hlisted : ⟨.listForCase request.caseId, .ok all⟩ ∈ k' := by
    refine hk'.subset ?_
    simp [note, noted]
  refine ⟨List.IsPrefix.trans ?_ hk', hread, ⟨all, hlisted, hscope⟩,
    RecordIds.lookup_of_text_ne hvalidation⟩
  simp [note, noted]

/-- The ids in the scope of a plan are the requested ones. -/
theorem planningScope_ids {all findings : List StoredFinding} {requested : List String}
    (h : planningScope all (some requested) = .ok findings) :
    findings.map StoredFinding.findingId = fromKeys requested := by
  unfold planningScope at h
  obtain ⟨_, -, h⟩ := except_bind_eq_ok.mp h
  obtain ⟨_, hmissing, h⟩ := except_bind_eq_ok.mp h
  cases h
  have hfound := sortedDifference_eq_nil.mp (not_not.mp (raiseIf_eq_ok.mp hmissing))
  generalize fromKeys requested = ids at hfound ⊢
  induction ids with
  | nil => rfl
  | cons id ids ih =>
    rw [List.forall_mem_cons] at hfound
    obtain ⟨finding, hmem, hid⟩ := List.mem_map.mp hfound.1
    have hsome : (all.find? fun finding => finding.findingId = id).isSome := by
      rw [List.find?_isSome]
      exact ⟨finding, hmem, by simpa using hid⟩
    obtain ⟨first, hfirst⟩ := Option.isSome_iff_exists.mp hsome
    have hkey : first.findingId = id := by simpa using List.find?_some hfirst
    simp only [List.filterMap_cons, hfirst, List.map_cons, hkey, ih hfound.2]

/-- Linking the source commits no transition. -/
theorem linkSource_acts {G : Grounds} {request : PlanningRequest} {context : PlanningContext}
    {run : PlanningRun} :
    Acts G (linkSource S request context run) (onOk fun _ k' => k <+: k') k := by
  unfold linkSource
  simp only [Prog.bind_eq, Prog.pure_eq]
  refine Acts.perform trivial fun sourcePath => Acts.perform trivial fun original => ?_
  refine Acts.perform trivial fun evidenceId => Acts.perform trivial fun bytes => ?_
  refine Acts.free uses_writeEvidence fun _ => Acts.free uses_planningEvidence fun _ => ?_
  refine Acts.ofExcept fun linkRecord _ => Acts.perform trivial fun _ => ?_
  simp [note, noted]

/-- A plan is committed after its record was put, about the validation and the findings that were
read at the start. -/
theorem recordPlan_acts {G : Grounds} {request : PlanningRequest} {context : PlanningContext}
    {run : PlanningRun} {source : LinkedSource} {result : AgentResult} {change : MaterialChange}
    (hstart : PlanningStart request.findingIds k request.caseId context)
    (hgrounds : ∀ k' args, k <+: k' →
      PlanningGrounds request.findingIds k' request.caseId .preparePlan args →
        G k' request.caseId .preparePlan args) :
    Acts G (recordPlan S request context run source result change) (onOk fun _ _ => True) k := by
  unfold recordPlan
  simp only [Prog.bind_eq, Prog.pure_eq]
  refine Acts.free uses_planningEvidence fun _ => Acts.perform trivial fun checks => ?_
  refine Acts.raiseIf fun _ => Acts.free uses_checkEvidence fun checkIds => ?_
  refine Acts.ofExcept fun plan _ => Acts.ofExcept fun record hrecord => ?_
  refine Acts.perform trivial fun _ => Acts.raiseIf fun _ => Acts.perform trivial fun eventId => ?_
  refine Acts.advance (hgrounds _ _ ?_ ?_) fun _ _ _ _ => trivial
  · simp [note, noted]
  · obtain ⟨hid, howner, -, -, hbody, -⟩ := ProductRecord.create_eq_ok hrecord
    obtain ⟨all, hlisted, hscope⟩ := hstart.listed
    refine @PlanningGrounds.prepare _ _ _ _ context.case all record context.validationId
      (context.findings.map StoredFinding.findingId) ?_ ?_ hstart.validation ⟨?_, howner, ?_⟩ ?_ ?_
      ?_ (suppliesOnly_of_eq [(_, _), (_, _)] rfl)
    · simp [note, noted, hstart.read]
    · simp [note, noted, hlisted]
    · simp [note, noted]
    · rw [hid]
      simp [recordIdsOf, Finmap.lookup_insert_of_ne]
    · rw [hbody]
      rfl
    · rw [hbody]
      rfl
    · intro requested hrequested
      rw [hrequested] at hscope
      exact planningScope_ids hscope

/-- Planning acts on whatever its own grounds, with the notes before it, are enough for. -/
theorem prepare_acts {G : Grounds} {request : PlanningRequest}
    (hgrounds : ∀ k' args, k <+: k' →
      PlanningGrounds request.findingIds k' request.caseId .preparePlan args →
        G k' request.caseId .preparePlan args) :
    Acts G (prepare S request) (onOk fun _ _ => True) k := by
  unfold prepare
  simp only [Prog.bind_eq]
  refine Acts.bind planningContext_acts fun context k₁ hcontext => ?_
  obtain ⟨hk₁, hstart⟩ := hcontext
  refine Acts.free uses_openPlanning fun run => ?_
  refine Acts.bind linkSource_acts fun source k₂ hk₂ => ?_
  refine Acts.ofExcept fun task _ => Acts.free uses_proposeRemediation fun result => ?_
  refine Acts.free uses_materializeProposal fun change => ?_
  refine recordPlan_acts (hstart.mono hk₂) fun k' args hk' => ?_
  exact hgrounds k' args ((hk₁.trans hk₂).trans hk')

/-- A promotion that nothing stands in the way of has read the bound validation. -/
theorem promotedValidation_acts {G : Grounds} {validationId : String} :
    Acts G (promotedValidation caseId validationId) (onOk fun answer k' => k <+: k' ∧
      (answer.2 = [] → validationId ≠ "" ∧ ∃ validation, answer.1 = some validation ∧
        ⟨.getRecord validationId, .ok validation⟩ ∈ k')) k := by
  unfold promotedValidation
  split
  · exact ⟨List.prefix_rfl, fun h => by cases h⟩
  · rename_i hne
    refine sat_handle.mpr ?_
    simp only [Prog.bind_eq, Prog.pure_eq]
    refine Effects.sat_bind_perform.mpr ⟨trivial, fun validation => ?_, fun e => ?_⟩
    · refine ⟨prefix_note _ _, fun _ => ⟨hne, validation, rfl, ?_⟩⟩
      simp [note, noted]
    · dsimp only
      split
      · exact ⟨prefix_note _ _, fun h => by cases h⟩
      · trivial

/-- An eligible promotion selects the confirmed findings that a control can plan for. -/
theorem readinessOf_eligible {tenantId : String} {case : RemediationCase}
    {findings : List StoredFinding} {validation : Option ProductRecord} {bound : List String}
    {readiness : PromotionReadiness}
    (h : readinessOf S tenantId caseId case findings validation bound = .ok readiness)
    (heligible : readiness.eligible = true) :
    bound = [] ∧ ∃ planned, filterExcept (plannable S) (confirmedFindings S.platform findings
        (validation.elim [] ProductRecord.body)) = .ok planned ∧
      readiness.confirmedFindingIds = sortedIds planned := by
  unfold readinessOf at h
  obtain ⟨planned, hplanned, h⟩ := except_bind_eq_ok.mp h
  obtain ⟨_, -, h⟩ := except_bind_eq_ok.mp h
  cases h
  have hclear := (of_decide_eq_true heligible).1
  simp only [List.append_eq_nil_iff] at hclear
  exact ⟨hclear.1.2, planned, hplanned, rfl⟩

/-- The planning of promoted cases commits plans on the grounds of the promotion. -/
theorem planPromoted_acts {request : PromotionRequest} :
    Acts (PromotedGrounds S) (planPromoted S request) (onOk fun _ _ => True) k := by
  unfold planPromoted requirePromotion inspectPromotion
  simp only [Prog.bind_eq, Prog.pure_eq, Prog.bind_assoc, Prog.ret_bind]
  refine Acts.perform trivial fun snap => Acts.raiseIf fun _ => ?_
  refine Acts.perform trivial fun findings => ?_
  refine Acts.bind promotedValidation_acts fun answer k₁ hanswer => ?_
  obtain ⟨validation, bound⟩ := answer
  obtain ⟨hk₁, hvalidation⟩ := hanswer
  refine Acts.ofExcept fun readiness hreadiness => ?_
  refine Acts.raiseIf fun heligible => Acts.raiseIf fun _ => ?_
  refine prepare_acts fun k' args hk' hplanning => ?_
  obtain ⟨hbound, planned, hplanned, hids⟩ :=
    readinessOf_eligible hreadiness (by simpa using heligible)
  obtain ⟨hne, validation', rfl, hread⟩ := hvalidation hbound
  obtain ⟨after, hafter⟩ := hk₁.trans hk'
  rw [hids] at hplanning
  refine @PromotedGrounds.prepare S _ _ _ snap findings planned validation' _
    (k ++ [⟨.getCase request.caseId, .ok snap⟩]) after ?_ ?_ (RecordIds.lookup_of_text_ne hne)
    (hk'.subset hread) hplanned hplanning
  · rw [← hafter]
    simp [note, noted]
  · simp

end validation

section intake

/-! ### Intake -/

variable {S : Settings} {k : Trace} {finding : StoredFinding} {now : String}

/-- A case that was seen has been seen after more steps too. -/
theorem Seen.mono {k' : Trace} {case : RemediationCase} (h : Seen k case) (hk : k <+: k') :
    Seen k' case := by
  cases h with
  | read h => exact .read (hk.subset h)
  | found h => exact .found (hk.subset h)
  | inserted h => exact .inserted (hk.subset h)
  | appended h => exact .appended (hk.subset h)

/-- A finding that a seen case holds is held by a seen case after more steps too. -/
theorem Holds.mono {k' : Trace} {findingId caseId : String} (h : Holds k findingId caseId)
    (hk : k <+: k') : Holds k' findingId caseId := by
  induction h with
  | seen h hmem => exact .seen (h.mono hk) hmem
  | reread _ hread ih => exact .reread ih (hk.subset hread)

/-- What a step of intake on a case leaves in the notes. -/
structure Stepped (k : Trace) (caseId : String) (transition : CaseTransition)
    (args : TransitionArgs) (case : RemediationCase) (k' : Trace) : Prop where
  grows : k <+: k'
  seen : Seen k' case
  step : ∃ base event, ⟨.advanceRead caseId transition args, .ok base⟩ ∈ k' ∧
    transitionCase base transition args = .ok (case, event)

/-- A finding that a case held is still held by the case a step returns. -/
theorem Stepped.holds {caseId findingId : String} {transition : CaseTransition}
    {args : TransitionArgs} {case : RemediationCase} {k' : Trace}
    (h : Stepped k caseId transition args case k') (hholds : Holds k findingId caseId) :
    Holds k' findingId case.caseId := by
  obtain ⟨base, event, hread, hnext⟩ := h.step
  obtain ⟨target, haccepted⟩ := transitionCase_accepted hnext
  rw [haccepted.caseId]
  exact (hholds.mono h.grows).reread hread

/-- A transition of intake is committed on its grounds, and the case it answers has stepped. -/
theorem intakeStep_acts {caseId : String} {transition : CaseTransition} {args : TransitionArgs}
    (hgrounds : IntakeGrounds k caseId transition args) :
    Acts IntakeGrounds (advance caseId transition args)
      (onOk fun case k' => Stepped k caseId transition args case k') k := by
  have hret : advance caseId transition args =
      (advance caseId transition args).bind Prog.ret := by
    generalize advance caseId transition args = p
    induction p with
    | ret a => rfl
    | raise e => rfl
    | call o next ih => exact congrArg (Prog.call o) (funext ih)
  rw [hret]
  refine Acts.advance hgrounds fun base case event hnext => ?_
  refine ⟨List.prefix_append _ _, ?_, base, event, by simp, hnext⟩
  exact @Seen.appended _ _ event base.version (by simp)

/-- Noting one more step first does not change what has stepped. -/
theorem Stepped.of_note {caseId : String} {transition : CaseTransition} {args : TransitionArgs}
    {case : RemediationCase} {k' : Trace} {e : Event operations PyError}
    (h : Stepped (note k e) caseId transition args case k') :
    Stepped k caseId transition args case k' :=
  ⟨(prefix_note _ _).trans h.grows, h.seen, h.step⟩

/-- `ADD_FINDING` is committed for a finding of the store, and the case it answers holds the
finding. -/
theorem addFinding_acts {current : RemediationCase} :
    Acts IntakeGrounds (addFinding finding now current) (onOk fun case k' => k <+: k' ∧
      Seen k' case ∧ finding.findingId ∈ case.findingIds) k := by
  unfold addFinding
  simp only [Prog.bind_eq]
  refine Acts.perform trivial fun eventId => ?_
  refine (intakeStep_acts (.addFinding rfl (suppliesOnly_of_eq [(_, _)] rfl))).mono ?_
  rintro (e | case) k' h
  · trivial
  · have hstep := Stepped.of_note h
    obtain ⟨base, event, -, hnext⟩ := hstep.step
    refine ⟨hstep.grows, hstep.seen, ?_⟩
    obtain ⟨target, haccepted⟩ := transitionCase_accepted hnext
    rw [haccepted.findingIds]
    cases haccepted.led with
    | reopen _ hfresh _ =>
      by_cases hold : finding.findingId ∈ base.findingIds <;> simp [hfresh, hold]
    | addFinding _ hfresh _ =>
      by_cases hold : finding.findingId ∈ base.findingIds <;> simp [hfresh, hold]
    | linear hlinear => cases hstate : base.state <;> simp [linearTransition, hstate] at hlinear

/-- A priority is committed for a case that holds the finding, and it still does. -/
theorem rankWith_acts {transition : CaseTransition} {risk : RiskAssessment}
    {current : RemediationCase} (ht : transition = .prioritize ∨ transition = .reprioritize)
    {findingId : String} (hholds : Holds k findingId current.caseId) :
    Acts IntakeGrounds (rankWith transition risk now current) (onOk fun case k' =>
      Holds k' findingId case.caseId) k := by
  unfold rankWith
  simp only [Prog.bind_eq]
  refine Acts.perform trivial fun eventId => ?_
  refine (intakeStep_acts (.rank ht (suppliesOnly_of_eq [(_, _)] rfl))).mono ?_
  rintro (e | case) k' h
  · trivial
  · exact (Stepped.of_note h).holds hholds

/-- Ranking a case that holds the finding answers a case that holds it. -/
theorem rankCase_acts {incoming : RiskAssessment} {current : RemediationCase} {findingId : String}
    (hholds : Holds k findingId current.caseId) :
    Acts IntakeGrounds (rankCase incoming now current) (onOk fun answer k' =>
      Holds k' findingId answer.1.caseId) k := by
  unfold rankCase
  simp only [Prog.bind_eq, Prog.pure_eq]
  split
  · exact Acts.bind (rankWith_acts (.inl rfl) hholds) fun _ _ h => h
  · split
    · exact Acts.bind (rankWith_acts (.inr rfl) hholds) fun _ _ h => h
    · split
      · refine Acts.perform trivial fun riskId => Acts.ofExcept fun merged _ => ?_
        exact Acts.bind (rankWith_acts (.inr rfl) (hholds.mono (prefix_note _ _))) fun _ _ h => h
      · exact hholds

/-- Catching a conflict of versions adds no transition to those of the program. -/
theorem catchConflict_acts {α : Type} {p : Service α} {G : Grounds} {Q : α → Trace → Prop}
    (h : Acts G p (onOk Q) k) :
    Acts G (catchConflict p) (onOk fun answer k' => k <+: k' ∧ ∀ a, answer = .ok a → Q a k') k := by
  unfold catchConflict
  refine sat_handle.mpr ?_
  simp only [Prog.bind_eq, Prog.pure_eq]
  refine sat_bind.mpr (h.grows.mono ?_)
  rintro (e | a) k' ⟨hq, hk⟩
  · dsimp only
    split
    · exact ⟨hk, fun a ha => by cases ha⟩
    · trivial
  · refine ⟨hk, ?_⟩
    rintro _ ⟨⟩
    exact hq

/-- A turn of the settling loop answers a case that holds the finding. -/
theorem settleTurn_acts {incoming : RiskAssessment} {current : RemediationCase} {attached : Bool}
    (hseen : Seen k current) :
    Acts IntakeGrounds (settleTurn finding incoming now current attached) (onOk fun answer k' =>
      ∀ case, answer.1 = .ok case → Holds k' finding.findingId case.1.caseId) k := by
  unfold settleTurn
  simp only [Prog.bind_eq, Prog.pure_eq]
  have hadd : Acts IntakeGrounds
      (if finding.findingId ∉ current.findingIds then do
        let current ← addFinding finding now current
        return (current, true)
      else return (current, attached))
      (onOk fun answer k' => Holds k' finding.findingId answer.1.caseId) k := by
    split
    · refine Acts.bind addFinding_acts fun case k' h => ?_
      exact .seen h.2.1 h.2.2
    · rename_i hmem
      exact .seen hseen (not_not.mp hmem)
  refine Acts.bind (catchConflict_acts hadd) fun added k' hadded => ?_
  cases added with
  | error e => exact fun case hcase => by cases hcase
  | ok answer =>
    obtain ⟨case, attached⟩ := answer
    refine Acts.bind (catchConflict_acts (rankCase_acts (hadded.2 _ rfl))) fun ranked k'' h => ?_
    exact fun answer heq => h.2 answer heq

/-- The settling loop, with any number of turns, answers a case that holds the finding. -/
theorem settleCase_acts {incoming : RiskAssessment} {retries : ℕ} {current : RemediationCase}
    {attached : Bool} (hseen : Seen k current) :
    Acts IntakeGrounds (settleCase finding incoming now retries current attached)
      (onOk fun answer k' => Holds k' finding.findingId answer.1.caseId) k := by
  induction retries generalizing k current attached with
  | zero =>
    unfold settleCase
    simp only [Prog.bind_eq, Prog.pure_eq]
    refine Acts.bind (settleTurn_acts hseen) fun answer k' h => ?_
    exact Acts.ofExcept fun answer heq => h answer heq
  | succ retries ih =>
    unfold settleCase
    simp only [Prog.bind_eq, Prog.pure_eq]
    refine Acts.bind (settleTurn_acts hseen) fun answer k' h => ?_
    obtain ⟨outcome, attached⟩ := answer
    cases outcome with
    | ok answer => exact h answer rfl
    | error e =>
      refine Acts.perform trivial fun case => ih (@Seen.read _ _ current.caseId ?_)
      simp [note, noted]

/-- Looking for the live case of an asset commits no transition. -/
theorem activeCaseOf_acts {G : Grounds} {tenantId : String} {assetIds : List String} :
    Acts G (activeCaseOf tenantId assetIds) (fun _ _ => True) k := by
  induction assetIds generalizing k with
  | nil => trivial
  | cons assetId assetIds ih =>
    unfold activeCaseOf
    simp only [Prog.bind_eq, Prog.pure_eq]
    refine Effects.sat_bind_perform.mpr ⟨trivial, fun active => ?_, fun _ => trivial⟩
    cases active with
    | none => exact ih
    | some case => trivial

/-- A case that intake creates has been seen and has the findings it was created with. -/
theorem openAndCreate_acts {G : Grounds} {caseId tenantId now : String}
    {findingIds assetIds serviceIds : List String} :
    Acts G (openAndCreate caseId tenantId findingIds assetIds serviceIds now)
      (onOk fun case k' => Seen k' case ∧ case.findingIds = findingIds) k := by
  unfold openAndCreate
  simp only [Prog.bind_eq, Prog.pure_eq]
  refine Acts.ofExcept fun case hopen => ?_
  have hfindings : case.findingIds = findingIds := by
    unfold openCase at hopen
    split at hopen
    · cases hopen
      rfl
    · cases hopen
  unfold createCase
  refine sat_bind.mpr (sat_handle.mpr (sat_perform_watching.mpr ⟨?_, fun _ => ?_, fun e => ?_⟩))
  · exact ⟨_, _, _, _, _, _, hopen⟩
  · refine ⟨.inserted ?_, hfindings⟩
    simp [note, noted]
  · dsimp only
    split
    · simp only [Prog.bind_eq]
      refine sat_bind.mpr (activeCaseOf_acts.mono ?_)
      rintro (e | active) k' -
      · trivial
      · cases active <;> trivial
    · trivial

/-- The case of the worker who won the race to create it. -/
def recoverCase (request : IntakeRequest) (finding : StoredFinding) (assetId now : String)
    (e : PyError) : Service (RemediationCase × Bool × Bool) :=
  if e.kind = .concurrentCaseUpdate then do
    let active ← perform (.findActiveByAsset request.tenantId assetId)
    match active with
    | none => .raise e
    | some current =>
      if finding.findingId ∉ current.findingIds then do
        let current ← addFinding finding now current
        return (current, false, true)
      else return (current, false, false)
  else .raise e

/-- After a creation that failed, the case that holds the asset is used, or the failure is
raised. -/
theorem recoverCase_acts {request : IntakeRequest} {assetId : String} {e : PyError} :
    Acts IntakeGrounds (recoverCase request finding assetId now e)
      (onOk fun answer k' => Seen k' answer.1) k := by
  unfold recoverCase
  split
  · simp only [Prog.bind_eq, Prog.pure_eq]
    refine Acts.perform trivial fun active => ?_
    cases active with
    | none => trivial
    | some case =>
      dsimp only
      split
      · exact Acts.bind addFinding_acts fun _ _ h => h.2.1
      · refine @Seen.found _ _ request.tenantId assetId ?_
        simp [note, noted]
  · trivial

/-- The case of an asset, known or new, has been seen. -/
theorem caseForAsset_acts {request : IntakeRequest} {assetId : String}
    {active : Option RemediationCase} (hactive : ∀ case, active = some case → Seen k case) :
    Acts IntakeGrounds (caseForAsset request finding assetId now active)
      (onOk fun answer k' => Seen k' answer.1) k := by
  cases active with
  | some case => exact hactive case rfl
  | none =>
    show Acts _ (Prog.handle _ (recoverCase request finding assetId now)) _ _
    refine sat_handle.mpr ?_
    simp only [Prog.bind_eq, Prog.pure_eq]
    refine Effects.sat_bind_perform.mpr ⟨trivial, fun caseId => ?_, fun e => recoverCase_acts⟩
    refine sat_bind.mpr (openAndCreate_acts.mono ?_)
    rintro (e | case) k' h
    · exact recoverCase_acts
    · exact h.1

/-- Attaching a finding commits transitions on the grounds of intake alone. -/
theorem attachFinding_acts {S : Settings} {request : IntakeRequest} {created : Bool} :
    Acts IntakeGrounds (attachFinding S request finding created) (onOk fun _ _ => True) k := by
  unfold attachFinding
  simp only [Prog.bind_eq, Prog.pure_eq]
  refine Acts.ofExcept fun assetId _ => Acts.perform trivial fun active => ?_
  refine Acts.perform trivial fun now => Acts.perform trivial fun riskId => ?_
  refine Acts.ofExcept fun incoming _ => ?_
  refine Acts.bind (caseForAsset_acts ?_) fun answer k' hseen => ?_
  · rintro case rfl
    refine @Seen.found _ _ request.tenantId assetId ?_
    simp [note, noted]
  · obtain ⟨current, caseCreated, attached⟩ := answer
    refine Acts.bind (settleCase_acts hseen) fun settled k'' hholds => ?_
    obtain ⟨current, attached, changed⟩ := settled
    unfold assignCase
    simp only [Prog.bind_eq, Prog.bind_assoc]
    exact Acts.perform hholds fun _ => Acts.perform trivial fun _ => trivial

/-- Intake commits transitions on its grounds alone. -/
theorem ingest_acts {S : Settings} {request : IntakeRequest} :
    Acts IntakeGrounds (ingest S request) (onOk fun _ _ => True) k := by
  unfold ingest
  simp only [Prog.bind_eq, Prog.pure_eq]
  refine Acts.ofExcept fun source _ => Acts.free uses_existingFinding fun existing => ?_
  cases existing with
  | none => exact Acts.free uses_storeFinding fun stored => attachFinding_acts
  | some finding =>
    dsimp only
    split
    · exact Acts.perform trivial fun case => trivial
    · exact attachFinding_acts

end intake

section execution

/-! ### Execution -/

variable {S : Settings} {k : Trace} {caseId : String} {C : Components}

/-- Reading a record of the case's context deploys nothing. -/
theorem contextRecord_acts {G : Grounds} {case : RemediationCase} {name : String} :
    Acts G (contextRecord case name) (onOk fun record k' => k <+: k' ∧
      ⟨.getRecord (case.recordIds.text name), .ok record⟩ ∈ k' ∧
        ∀ e ∈ k', isDeploy e = true → e ∈ k) k := by
  unfold contextRecord
  simp only [Prog.bind_eq, Prog.pure_eq]
  refine Acts.raiseIf fun _ => Acts.perform trivial fun record => Acts.raiseIf fun _ => ?_
  refine ⟨prefix_note _ _, by simp [note, noted], ?_⟩
  intro e he hdeploy
  rcases List.mem_append.mp (show e ∈ k ++ [_] from he) with he | he
  · exact he
  · rw [List.mem_singleton.mp he] at hdeploy
    cases hdeploy

/-- What `execute` has done when it starts its execution. -/
structure ReadyToStart (k : Trace) (context : ExecutionContext) (k' : Trace) : Prop where
  grows : k <+: k'
  plan : ⟨.getRecord (context.case.recordIds.text "change_plan_id"), .ok context.plan⟩ ∈ k'
  deploys : ∀ e ∈ k', isDeploy e = true → e ∈ k

/-- Reading the context of an execution commits no transition, and the case is then ready to
start. -/
theorem executionContext_acts {G : Grounds} {case : RemediationCase} :
    Acts G (executionContext S case) (onOk fun context k' => context.case = case ∧
      ReadyToStart k context k') k := by
  unfold executionContext
  simp only [Prog.bind_eq, Prog.pure_eq]
  refine Acts.bind contextRecord_acts fun plan k₁ h₁ => ?_
  refine Acts.bind contextRecord_acts fun link k₂ h₂ => ?_
  refine Acts.bind contextRecord_acts fun approval k₃ h₃ => ?_
  refine Acts.bind contextRecord_acts fun window k₄ h₄ => ?_
  refine Acts.ofExcept fun _ _ => ⟨rfl, ?_, ?_, ?_⟩
  · exact ((h₁.1.trans h₂.1).trans h₃.1).trans h₄.1
  · exact ((h₂.1.trans h₃.1).trans h₄.1).subset h₁.2.1
  · intro e he hdeploy
    exact h₁.2.2 e (h₂.2.2 e (h₃.2.2 e (h₄.2.2 e he hdeploy) hdeploy) hdeploy) hdeploy

/-- `START_EXECUTION` is committed on the plan that was read, before anything was deployed; the
started execution may then be released. -/
theorem startApplied_acts {context : ExecutionContext} {args : TransitionArgs}
    {checkpoint : DeploymentCheckpoint} {execution : ProductRecord}
    {executionId runDir startEvidence : String}
    (hread : ⟨.getCase caseId, .ok context.case⟩ ∈ k)
    (hplan : ⟨.getRecord (context.case.recordIds.text "change_plan_id"), .ok context.plan⟩ ∈ k)
    (hfirst : ∀ e ∈ k, isDeploy e = false) (hsupplies : SuppliesOnly args ["execution_id"]) :
    Acts ExecutionGrounds ((advance caseId .startExecution args).bind fun _ => Prog.ret
        ({ context, checkpoint, execution, executionId, runDir, startEvidence } : Started))
      (onOk fun started k' => StartedWith k' caseId started.context ∧
        Releasable k' started.context) k := by
  refine Acts.advance (.start hread hsupplies) fun base case event hnext => ?_
  have happlied : Applied (k ++ [⟨.advanceRead caseId .startExecution args, .ok base⟩,
      ⟨.appendCase case event base.version, .ok ()⟩]) caseId .startExecution :=
    ⟨args, base, case, event, by simp, hnext, by simp⟩
  refine ⟨⟨?_, ?_, happlied⟩, ⟨⟨caseId, ?_, happlied⟩, ?_⟩⟩
  · exact List.mem_append_left _ hread
  · exact List.mem_append_left _ hplan
  · exact List.mem_append_left _ hread
  · intro e he
    rcases List.mem_append.mp he with he | he
    · exact hfirst e he
    · simp only [List.mem_cons, List.not_mem_nil, or_false] at he
      rcases he with rfl | rfl <;> rfl

/-- A started execution: its worker applied `START_EXECUTION` and has not deployed yet. -/
theorem startExecution_acts {originator executionJobId : String}
    (hfirst : ∀ e ∈ k, isDeploy e = false) :
    Acts ExecutionGrounds (startExecution S C caseId originator executionJobId)
      (onOk fun started k' => StartedWith k' caseId started.context ∧
        Releasable k' started.context) k := by
  unfold startExecution
  simp only [Prog.bind_eq, Prog.pure_eq]
  refine Acts.perform trivial fun case => Acts.ofExcept fun _ _ => ?_
  refine Acts.perform trivial fun now => Acts.ofExcept fun window _ => ?_
  refine Acts.ofExcept fun inside _ => Acts.raiseIf fun _ => ?_
  refine Acts.bind executionContext_acts fun context k₁ h => ?_
  obtain ⟨hcase, hready⟩ := h
  refine Acts.ofExcept fun expired _ => Acts.raiseIf fun _ => ?_
  refine Acts.perform trivial fun executionId => Acts.perform trivial fun preflight => ?_
  refine Acts.raiseIf fun _ => Acts.perform trivial fun baseline => Acts.raiseIf fun _ => ?_
  refine Acts.perform trivial fun checkpoint => ?_
  have hevidence : (executionEvidence S (S.artifactRoot ++ "/cases/" ++ caseId ++ "/execution/" ++
      executionId) "execution_preflight" (.obj [("preflight", preflight.toDict),
        ("baseline", baseline.toDict), ("checkpoint", checkpoint.toDict)]) now).Uses Free :=
    uses_executionEvidence
  refine Acts.free hevidence fun startEvidence => Acts.ofExcept fun execution _ => ?_
  refine Acts.perform trivial fun _ => Acts.perform trivial fun eventId => ?_
  have hread : ⟨.getCase caseId, .ok context.case⟩ ∈ k₁ := by
    rw [hcase]
    exact hready.grows.subset (by simp [note, noted])
  have hfresh : ∀ e ∈ k₁, isDeploy e = false := by
    intro e he
    rw [← Bool.not_eq_true]
    intro hdeploy
    have hold := hready.deploys e he hdeploy
    simp only [note, noted, if_true, Bool.false_eq_true, if_false, List.mem_append,
      List.mem_singleton] at hold
    rcases hold with hold | rfl
    · rw [hfirst e hold] at hdeploy
      cases hdeploy
    · cases hdeploy
  refine startApplied_acts ?_ ?_ ?_ (suppliesOnly_of_eq [(_, _)] rfl)
  · simp [note, noted, hread]
  · simp [note, noted, hready.plan]
  · simpa [note, noted, isDeploy, or_imp, forall_and] using hfresh

/-- A rollback commits transitions on the grounds of the execution alone. -/
theorem rollBack_acts {started : Started} {evidenceIds : List String} {reason : String} :
    Acts ExecutionGrounds (rollBack S C caseId started evidenceIds reason) (onOk fun _ _ => True)
      k := by
  unfold rollBack
  simp only [Prog.bind_eq, Prog.pure_eq]
  refine Acts.perform trivial fun now => Acts.perform trivial fun rollbackId => ?_
  refine Acts.free (uses_orElse trivial) fun step => ?_
  refine Acts.free (uses_orElse trivial) fun health => ?_
  refine Acts.free uses_executionEvidence fun evidence => Acts.ofExcept fun record _ => ?_
  refine Acts.perform trivial fun _ => Acts.perform trivial fun eventId => ?_
  refine Acts.advance (.rollBack (suppliesOnly_of_eq [(_, _)] rfl)) fun _ _ _ _ => ?_
  split
  · refine Acts.perform trivial fun eventId => Acts.perform trivial fun occurredAt => ?_
    refine Acts.advance (.block ?_) fun _ _ _ _ => trivial
    exact (suppliesOnly_of_eq [(_, _)] rfl).mono (by simp)
  · refine Acts.perform trivial fun verificationId => Acts.perform trivial fun createdAt => ?_
    refine Acts.ofExcept fun verification _ => Acts.perform trivial fun _ => ?_
    refine Acts.perform trivial fun eventId => Acts.perform trivial fun occurredAt => ?_
    split
    · refine Acts.advance (.block ?_) fun _ _ _ _ => trivial
      exact (suppliesOnly_of_eq [(_, _)] rfl).mono (by simp)
    · exact Acts.advance (.restore (suppliesOnly_of_eq [(_, _)] rfl)) fun _ _ _ _ => trivial

/-- An execution that was started has been started after more steps too. -/
theorem StartedWith.mono {k' : Trace} {context : ExecutionContext}
    (h : StartedWith k caseId context) (hk : k <+: k') : StartedWith k' caseId context := by
  obtain ⟨args, base, case, event, hread, hnext, happend⟩ := h.started
  exact ⟨hk.subset h.read, hk.subset h.plan, args, base, case, event, hk.subset hread, hnext,
    hk.subset happend⟩

/-- Completing a started execution commits transitions on its grounds alone. -/
theorem completeExecution_acts {originator : String} {started : Started}
    {probes : List ProbeResult} {audit : AgentResult} {accumulated : List String}
    (hstarted : StartedWith k caseId started.context) :
    Acts ExecutionGrounds (completeExecution caseId originator started probes audit accumulated)
      (onOk fun _ _ => True) k := by
  unfold completeExecution
  simp only [Prog.bind_eq, Prog.pure_eq]
  refine Acts.perform trivial fun verificationId => Acts.perform trivial fun createdAt => ?_
  refine Acts.ofExcept fun verification _ => Acts.perform trivial fun _ => ?_
  refine Acts.perform trivial fun certificateId => Acts.perform trivial fun createdAt => ?_
  refine Acts.ofExcept fun findingIds hscope => Acts.ofExcept fun certificate hcertificate => ?_
  refine Acts.perform trivial fun _ => Acts.perform trivial fun handoffId => ?_
  refine Acts.perform trivial fun createdAt => Acts.ofExcept fun handoff _ => ?_
  refine Acts.perform trivial fun _ => Acts.perform trivial fun eventId => ?_
  refine Acts.perform trivial fun occurredAt => ?_
  refine Acts.advance ?_ fun _ _ _ _ => trivial
  obtain ⟨hid, howner, -, -, hbody, -⟩ := ProductRecord.create_eq_ok hcertificate
  refine @ExecutionGrounds.complete _ _ _ started.context certificate findingIds ?_
    ⟨?_, howner, ?_⟩ hscope ?_ (suppliesOnly_of_eq [(_, _), (_, _), (_, _)] rfl)
  · refine hstarted.mono ?_
    simp [note, noted]
  · simp [note, noted]
  · rw [hid]
    simp [recordIdsOf, Finmap.lookup_insert_of_ne]
  · rw [hbody]
    rfl

/-- The verification commits completion or a rollback on the grounds of the execution. -/
theorem verifyExecution_acts {originator : String} {started : Started} {case : RemediationCase}
    {resultRecord : ProductRecord} {accumulated : List String}
    (hstarted : StartedWith k caseId started.context) :
    Acts ExecutionGrounds
      (verifyExecution S C caseId originator started case resultRecord accumulated)
      (onOk fun _ _ => True) k := by
  unfold verifyExecution
  simp only [Prog.bind_eq, Prog.pure_eq]
  refine Acts.free uses_runProbes fun probes => Acts.perform trivial fun stamp => ?_
  refine Acts.free uses_executionEvidence fun probeEvidence => ?_
  split
  · exact rollBack_acts
  · split
    · exact rollBack_acts
    · refine Acts.perform trivial fun taskId => Acts.ofExcept fun task _ => ?_
      have haudit : (Prog.handle ((perform (.runAgent task)).bind fun audit =>
          Prog.ret (Except.ok audit)) fun e => Prog.ret (Except.error e)).Uses Free :=
        ((Prog.uses_perform trivial).bind fun _ => Prog.uses_ret).handle fun _ => Prog.uses_ret
      refine Acts.free haudit fun reply => ?_
      cases reply with
      | error e => exact rollBack_acts
      | ok audit =>
        refine Acts.ofExcept fun contractFailures _ => ?_
        dsimp only
        split
        · exact rollBack_acts
        · refine Acts.perform trivial fun stamp => Acts.free uses_executionEvidence fun _ => ?_
          split
          · exact rollBack_acts
          · split
            · exact rollBack_acts
            · exact completeExecution_acts hstarted

/-- The release of a started execution deploys once and commits transitions on its grounds. -/
theorem releaseExecution_acts {originator : String} {started : Started}
    (hstarted : StartedWith k caseId started.context) (hrelease : Releasable k started.context) :
    Acts ExecutionGrounds (releaseExecution S C caseId originator started) (onOk fun _ _ => True)
      k := by
  unfold releaseExecution
  simp only [Prog.bind_eq, Prog.pure_eq]
  refine Acts.orElse hrelease fun deployment k₁ hk₁ => ?_
  refine Acts.free (uses_orElse trivial) fun after => Acts.perform trivial fun stamp => ?_
  refine Acts.free uses_executionEvidence fun deployEvidence => ?_
  split
  · exact rollBack_acts
  · split
    · exact rollBack_acts
    · refine Acts.perform trivial fun resultId => Acts.perform trivial fun createdAt => ?_
      refine Acts.ofExcept fun resultRecord _ => Acts.perform trivial fun _ => ?_
      refine Acts.perform trivial fun eventId => Acts.perform trivial fun occurredAt => ?_
      refine Acts.advance (.verify (suppliesOnly_of_eq [(_, _)] rfl)) fun _ _ _ _ => ?_
      refine verifyExecution_acts ((hstarted.mono hk₁).mono ?_)
      simp [note, noted]

/-- An execution that begins before any deployment commits transitions on its grounds alone. -/
theorem execute_acts {originator executionJobId : String} (hfirst : ∀ e ∈ k, isDeploy e = false) :
    Acts ExecutionGrounds (execute S C caseId originator executionJobId) (onOk fun _ _ => True)
      k := by
  unfold execute
  simp only [Prog.bind_eq]
  refine Acts.bind (startExecution_acts hfirst) fun started k' h => ?_
  exact releaseExecution_acts h.1 h.2

end execution

/-- Dropping the value a service returns changes nothing. -/
theorem discard_acts {α : Type} {G : Grounds} {p : Service α} {k : Trace}
    (h : Acts G p (onOk fun _ _ => True) k) : Acts G (discard p) (onOk fun _ _ => True) k :=
  Acts.bind h fun _ _ _ => trivial

/-- Every call acts on its grounds. -/
theorem Call.acts {S : Settings} (call : Call S) :
    Acts call.grounds call.program (onOk fun _ _ => True) [] := by
  cases call with
  | ingest request => exact discard_acts ingest_acts
  | validate caseId hostEnv => exact discard_acts validate_acts
  | prepare request => exact discard_acts (prepare_acts fun _ _ _ h => h)
  | planPromoted request => exact discard_acts planPromoted_acts
  | reviewSre caseId context => exact discard_acts reviewSre_acts
  | retryInvalidApproval caseId => exact discard_acts retryInvalidApproval_acts
  | selectWindow caseId samples policy => exact discard_acts selectWindow_acts
  | reselectStarted caseId => exact discard_acts reselectStarted_acts
  | reviewRollback caseId => exact discard_acts reviewRollback_acts
  | prepareReview policy caseId => exact discard_acts prepareReview_acts
  | approve assertion => exact discard_acts approve_acts
  | reject assertion => exact discard_acts reject_acts
  | schedule caseId => exact discard_acts schedule_acts
  | execute components caseId originator executionJobId =>
    exact discard_acts (execute_acts fun e he => by cases he)

/-- What a call may do after its history. -/
theorem Call.permitted {S : Settings} (call : Call S) :
    Sat (Env.recording operations PyError) (fun h o => Permitted call.grounds (notes h) o)
      call.program (fun _ _ => True) [] :=
  (Sat.recorded (h := []) call.acts).mono fun _ _ _ => trivial

end ElCapitan
