import ElCapitan.Bindings.Supplied
import ElCapitan.Decisions.Setting
import ElCapitan.Releases.Deployments

/-!
# What an execution was approved for

An approval is bound when `APPROVE_CHANGE` is applied. Where the case then still binds the
package, the plan and the window that the approver read, every deployment finds the case bound
to an approval of its package, plan and window.
-/

namespace ElCapitan

open Effects

/-- The approval of a case is of the package, the plan and the window it binds. -/
def ApprovalBound (P : Platform) (s : Stores) (case : RemediationCase) : Prop :=
  ∃ approval package, Bound s case "approval_id" approval ∧
    Bound s case "human_review_package_id" package ∧
    Names approval "review_package_id" case "human_review_package_id" ∧
    Names approval "plan_id" case "change_plan_id" ∧
    Names approval "window_id" case "change_window_id" ∧
    approval.body.get "review_package_sha256" = .str (P.canonicalHash (.obj package.body))

/-- What an approval reads from the case. -/
def approvedNames : List String :=
  ["human_review_package_id", "change_plan_id", "change_window_id"]

/-- The names whose records an approver relies on. -/
def approvalReads : CaseTransition → List String
  | .approveChange => approvedNames
  | _ => []

/-- A case becomes decided by its approval, and decided cases keep what was approved. -/
theorem decidedStates_entered : ∀ (state : CaseState) (transition : CaseTransition)
    (reopened : Bool) (state' : CaseState),
    effectiveTransition state transition reopened = some state' → state' ∈ decidedStates →
      transition = .approveChange ∨ state ∈ decidedStates ∧
        ∀ name ∈ "approval_id" :: approvedNames,
          name ∉ clearedRecords transition reopened ∧ name ∉ suppliedNames transition := by
  decide +kernel

/-- Stored records keep an approval bound. -/
theorem ApprovalBound.keep {P : Platform} {s s' : Stores} {base case : RemediationCase}
    (h : ApprovalBound P s base) (hids : KeepsIds ("approval_id" :: approvedNames) base case)
    (hgrow : ∀ recordId record, s.record? recordId = some record →
      s'.record? recordId = some record) : ApprovalBound P s' case := by
  obtain ⟨approval, package, happroval, hpackage, hnamed, hplan, hwindow, hdigest⟩ := h
  exact ⟨approval, package, happroval.keep hids (by simp) hgrow,
    hpackage.keep hids (by simp [approvedNames]) hgrow,
    hnamed.keep hids (by simp [approvedNames]), hplan.keep hids (by simp [approvedNames]),
    hwindow.keep hids (by simp [approvedNames]), hdigest⟩

section boards

variable {ι : Type} [DecidableEq ι] {S : Settings} {calls : ι → Call S}
  {b b' : Board operations PyError Stores ι} {l : Label operations PyError ι}

/-- Every decided case is bound to an approval of what it binds. -/
theorem approvals_bound {ls : List (Label operations PyError ι)}
    (hrun : Steps (CallStep calls (BindsAsRead approvalReads)) (Board.start {}) ls b)
    {caseId : String}
    {case : RemediationCase} (hcase : b.store.cases.case? caseId = some case)
    (hdecided : case.effectiveState ∈ decidedStates) : ApprovalBound S.platform b.store case := by
  refine cases_invariant
    (I := fun s case => case.effectiveState ∈ decidedStates → ApprovalBound S.platform s case)
    ?_ ?_ ?_ hrun caseId case hcase hdecided
  · intro s case hopened hdecided
    rw [hopened.effectiveState] at hdecided
    exact absurd hdecided (by decide)
  · intro s s' case hgrow hbound hdecided
    exact (hbound hdecided).keep (.refl _ _) hgrow
  · intro b b' l hstep caseId transition args base case event target known rest hread hgrounds
      hreread haccepted hbound hdecided
    have hsupplies := (Call.supplies hgrounds).2
    rcases decidedStates_entered _ _ _ _ haccepted.effectiveState hdecided with
      rfl | ⟨hbefore, hnames⟩
    · obtain happroval := Call.checks hgrounds (by decide)
      cases happroval with
      | approved happroval =>
      cases happroval with
      | approve hsnap hreviewed hpackage hplan hwindow hbinds hnamed hdigest hplanNamed
          hwindowNamed _ =>
        have hids : KeepsIds approvedNames base case := by
          have hfree : ∀ name ∈ approvedNames, name ∉ suppliedNames .approveChange := by decide
          exact haccepted.keepsIds hsupplies fun name hname =>
            ⟨List.not_mem_nil, hfree name hname⟩
        have hsame : KeepsIds approvedNames _ base := hreread _ _ (mem_of_mem_notes hsnap)
        have hlookup : ∀ name ∈ approvedNames, ∀ recordId, _ = some recordId →
            case.recordIds.lookup name = some recordId := fun name hname recordId heq =>
          ((hids name hname).trans (hsame name hname)).trans heq
        have hpackageId := hlookup _ (by decide) _ hpackage
        have happroval := hstep.record_stored hread hbinds.put .put
        have hstored := hstep.record_stored hread hreviewed .read
        exact ⟨_, _, ⟨_, haccepted.supplied_lookup hbinds.bound, happroval⟩,
          ⟨_, hpackageId, hstored⟩, ⟨_, hpackageId, hnamed⟩,
          ⟨_, hlookup _ (by decide) _ hplan, hplanNamed⟩,
          ⟨_, hlookup _ (by decide) _ hwindow, hwindowNamed⟩, hdigest⟩
    · exact (hbound hbefore).keep (haccepted.keepsIds hsupplies hnames) fun _ _ h => h

end boards

/-- An execution deploys what was approved: in every run of calls of the services in which an
approval finds the package, the plan and the window it read, a deployment finds its case bound
to an approval of the package, the plan and the window that the case binds. -/
theorem deployed_as_approved {ι : Type} [DecidableEq ι] {S : Settings} {calls : ι → Call S}
    {ls : List (Label operations PyError ι)} {c c' : Pool operations PyError Unit Stores ι}
    {l : Label operations PyError ι}
    (hrun : Steps (Pool.StepIf world (RereadsSame approvalReads))
      (Pool.start {} fun i => (calls i).program) ls c)
    (hstep : Pool.StepIf world (RereadsSame approvalReads) c l c') {context : ExecutionContext}
    {checkpoint : DeploymentCheckpoint} (hdeploy : l.event.op = .deploy context checkpoint) :
    ∃ case, c.store.cases.case? context.case.caseId = some case ∧
      ApprovalBound S.platform c.store case := by
  obtain ⟨hboard, hobeys⟩ := Pool.board_steps (fun i => (calls i).permitted) hrun
  obtain ⟨⟨hmove, -⟩, -⟩ := hstep.obeys hobeys
  obtain ⟨hcalls, hshown, -⟩ := call_run hboard
  have hpermitted := hmove.permitted
  rw [hdeploy] at hpermitted
  obtain ⟨case, hcase, hstarted⟩ :=
    startedIn_of_deploy hshown (honest_run hboard l.thread) hpermitted
  have hdecided : case.effectiveState ∈ decidedStates :=
    (by decide : ∀ state ∈ startedStates, state ∈ decidedStates) _ hstarted
  exact ⟨case, hcase, approvals_bound hcalls hcase hdecided⟩

section samples

/-- What a deployment deploys for. -/
theorem exists_deploy {caseId : String} {e : Event operations PyError}
    (h : deploysFor caseId e = true) :
    ∃ context checkpoint, e.op = .deploy context checkpoint ∧ context.case.caseId = caseId := by
  obtain ⟨o, r⟩ := e
  cases o
  case deploy context checkpoint =>
    exact ⟨context, checkpoint, rfl, by simpa [deploysFor] using h⟩
  all_goals cases h

/-- The case is executed after one review: the deployment finds the approval of its package. -/
theorem deployed_after_review : ∃ ls c l c' context checkpoint,
    Steps (Pool.StepIf world (RereadsSame approvalReads))
      (Pool.start {} fun i => (stageCalls "JOB-1152" i).program) ls c ∧
    Pool.StepIf world (RereadsSame approvalReads) c l c' ∧
    l.event.op = .deploy context checkpoint ∧
    ∃ case, c.store.cases.case? context.case.caseId = some case ∧
      ApprovalBound stageSettings.platform c.store case := by
  have hexists : ∃ run ∈ stagedRun (rereadsSame approvalReads) "JOB-1152" 160
      (firstReview ++ [(7, 10), (8, 10), (9, 17)]),
      ∃ next ∈ run.2.move performWith (rereadsSame approvalReads) 9
        ⟨none, stageReply "2026-07-18T02:30:00Z" 177⟩,
        deploysFor "CASE-1010" next.1.event = true := by
    decide +kernel
  obtain ⟨⟨ls, c⟩, hrun, ⟨l, c'⟩, hmove, hdeploys⟩ := hexists
  obtain ⟨context, checkpoint, hdeploy, -⟩ := exists_deploy hdeploys
  have hsteps : Steps (Pool.StepIf world (RereadsSame approvalReads))
      (Pool.start {} fun i => (stageCalls "JOB-1152" i).program) ls c :=
    (Pool.exec_steps hrun).mono fun _ _ _ h => ⟨h.1, rereadsSame_sound h.2⟩
  have hstep := Pool.move_step hmove
  exact ⟨ls, c, l, c', context, checkpoint, hsteps, ⟨hstep.1, rereadsSame_sound hstep.2⟩,
    hdeploy, deployed_as_approved hsteps ⟨hstep.1, rereadsSame_sound hstep.2⟩ hdeploy⟩

/-- A finding reopens the case while its approval is given, and the case is back at its review
before `APPROVE_CHANGE` is applied: what is deployed was not approved. -/
theorem deployed_unapproved : ∃ ls c l c' context checkpoint,
    Steps (Pool.StepIf world fun _ _ => True)
      (Pool.start {} fun i => (stageCalls "JOB-1290" i).program) ls c ∧
    Pool.StepIf world (fun _ _ => True) c l c' ∧
    l.event.op = .deploy context checkpoint ∧
    ¬∃ case, c.store.cases.case? context.case.caseId = some case ∧
      ApprovalBound stageSettings.platform c.store case := by
  have hexists : ∃ run ∈ stagedRun (fun _ _ => true) "JOB-1290" 298
      (firstReview ++ (7, 6) :: secondReview ++ [(7, 4), (8, 10), (9, 17)]),
      namesOther run.2.store "CASE-1010" "approval_id" "review_package_id"
        "human_review_package_id" = true ∧
      ∃ next ∈ run.2.move performWith (fun _ _ => true) 9
        ⟨none, stageReply "2026-07-18T02:30:00Z" 315⟩,
        deploysFor "CASE-1010" next.1.event = true := by
    decide +kernel
  obtain ⟨⟨ls, c⟩, hrun, hother, ⟨l, c'⟩, hmove, hdeploys⟩ := hexists
  obtain ⟨context, checkpoint, hdeploy, hid⟩ := exists_deploy hdeploys
  have hsteps : Steps (Pool.StepIf world fun _ _ => True)
      (Pool.start {} fun i => (stageCalls "JOB-1290" i).program) ls c :=
    (Pool.exec_steps hrun).mono fun _ _ _ h => ⟨h.1, trivial⟩
  refine ⟨ls, c, l, c', context, checkpoint, hsteps, ⟨(Pool.move_step hmove).1, trivial⟩,
    hdeploy, ?_⟩
  rintro ⟨case, hcase, approval, package, happroval, -, hnamed, -⟩
  rw [hid] at hcase
  exact not_names_of_namesOther hother hcase happroval hnamed

end samples

end ElCapitan
