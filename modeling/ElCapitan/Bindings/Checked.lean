import ElCapitan.Bindings.Supplied

/-!
# What the checkers of a case judged

A plan is made for a validation, an SRE review judges a plan, and a rollback review judges a
plan and a window. Where a case still binds what the checker read when its verdict is attached,
the verdicts a case carries to its human review are about the plan, the window and the
validation that it binds.
-/

namespace ElCapitan

open Effects

/-- The plan of a case was made for the validation the case binds. -/
def PlanBound (s : Stores) (case : RemediationCase) : Prop :=
  ∃ plan validationId, Bound s case "change_plan_id" plan ∧
    case.recordIds.lookup "validation_result_id" = some validationId ∧
    (planScope plan.body).get "validation_record_id" = .str validationId

/-- The SRE review of a case judged the plan the case binds. -/
def SreBound (s : Stores) (case : RemediationCase) : Prop :=
  ∃ review, Bound s case "sre_review_id" review ∧ Names review "plan_id" case "change_plan_id"

/-- The rollback review of a case judged the plan and the window the case binds. -/
def RollbackBound (s : Stores) (case : RemediationCase) : Prop :=
  ∃ review, Bound s case "rollback_review_id" review ∧
    Names review "plan_id" case "change_plan_id" ∧
    Names review "window_id" case "change_window_id"

/-- The names whose records a checker relies on. -/
def checkReads : CaseTransition → List String
  | .preparePlan => ["validation_result_id"]
  | .approveSre => ["change_plan_id"]
  | .reviewRollback => ["change_plan_id", "change_window_id"]
  | _ => []

/-- A case comes into one of these states by this transition, and within them keeps what it
binds under these names. -/
def EnteredBy (transition : CaseTransition) (states : List CaseState) (names : List String) :
    Prop :=
  ∀ (state : CaseState) (applied : CaseTransition) (reopened : Bool) (state' : CaseState),
    applied ≠ .block → applied ≠ .resume →
    effectiveTransition state applied reopened = some state' → state' ∈ states →
      applied = transition ∨ state ∈ states ∧
        ∀ name ∈ names, name ∉ clearedRecords applied reopened ∧ name ∉ suppliedNames applied

instance (transition : CaseTransition) (states : List CaseState) (names : List String) :
    Decidable (EnteredBy transition states names) :=
  inferInstanceAs (Decidable (∀ (_ : CaseState) (_ : CaseTransition) (_ : Bool) (_ : CaseState),
    _ → _ → _ → _ → _ ∨ _))

/-- The states in which a case has a plan that is not approved. -/
def plannedStates : List CaseState :=
  [.planReady, .sreApproved, .windowSelected, .rollbackReady, .awaitingApproval]

/-- The states in which the plan has passed its SRE review. -/
def sreReviewedStates : List CaseState :=
  [.sreApproved, .windowSelected, .rollbackReady, .awaitingApproval]

/-- The states in which the plan has passed its rollback review. -/
def rollbackReviewedStates : List CaseState := [.rollbackReady, .awaitingApproval]

/-- The states behind each check are entered by the transition of the check. -/
theorem checkedStates_entered :
    EnteredBy .preparePlan plannedStates ["change_plan_id", "validation_result_id"] ∧
      EnteredBy .approveSre sreReviewedStates ["sre_review_id", "change_plan_id"] ∧
      EnteredBy .reviewRollback rollbackReviewedStates
        ["rollback_review_id", "change_plan_id", "change_window_id"] := by
  decide +kernel

/-- The planned states are entered by a transition that binds a plan and keeps the validation. -/
theorem plannedStates_entered :
    EnteredBy .preparePlan plannedStates ["change_plan_id", "validation_result_id"] :=
  checkedStates_entered.1

/-- The reviewed states are entered by a transition that binds a review and keeps the plan. -/
theorem sreReviewedStates_entered :
    EnteredBy .approveSre sreReviewedStates ["sre_review_id", "change_plan_id"] :=
  checkedStates_entered.2.1

/-- The states behind the rollback review are entered by a transition that binds it and keeps the
plan and the window. -/
theorem rollbackReviewedStates_entered :
    EnteredBy .reviewRollback rollbackReviewedStates
      ["rollback_review_id", "change_plan_id", "change_window_id"] :=
  checkedStates_entered.2.2

section keeping

variable {s s' : Stores} {base case : RemediationCase}

/-- A bound plan stays bound where the case keeps its ids and the store its records. -/
theorem PlanBound.keep (h : PlanBound s base)
    (hids : KeepsIds ["change_plan_id", "validation_result_id"] base case)
    (hgrow : ∀ recordId record, s.record? recordId = some record →
      s'.record? recordId = some record) : PlanBound s' case := by
  obtain ⟨plan, validationId, hplan, hvalidation, hscope⟩ := h
  exact ⟨plan, validationId, hplan.keep hids (by simp) hgrow,
    (hids _ (by simp)).trans hvalidation, hscope⟩

/-- A bound SRE review stays bound where the case keeps its ids and the store its records. -/
theorem SreBound.keep (h : SreBound s base)
    (hids : KeepsIds ["sre_review_id", "change_plan_id"] base case)
    (hgrow : ∀ recordId record, s.record? recordId = some record →
      s'.record? recordId = some record) : SreBound s' case := by
  obtain ⟨review, hreview, hnamed⟩ := h
  exact ⟨review, hreview.keep hids (by simp) hgrow, hnamed.keep hids (by simp)⟩

/-- A bound rollback review stays bound where the case keeps its ids and the store its records. -/
theorem RollbackBound.keep (h : RollbackBound s base)
    (hids : KeepsIds ["rollback_review_id", "change_plan_id", "change_window_id"] base case)
    (hgrow : ∀ recordId record, s.record? recordId = some record →
      s'.record? recordId = some record) : RollbackBound s' case := by
  obtain ⟨review, hreview, hplan, hwindow⟩ := h
  exact ⟨review, hreview.keep hids (by simp) hgrow, hplan.keep hids (by simp),
    hwindow.keep hids (by simp)⟩

/-- A field with the id of the record that was read under a name, names it. -/
theorem read_named {snap : RemediationCase} {read record : ProductRecord} {name field : String}
    (hread : read.recordId = snap.recordIds.text name)
    (hfield : record.body.get field = .str read.recordId) : Names record field snap name := by
  have hne : snap.recordIds.text name ≠ "" := hread ▸ read.required.1
  exact ⟨_, RecordIds.lookup_of_text_ne hne, hfield.trans (congrArg Json.str hread)⟩

end keeping

section boards

variable {ι : Type} [DecidableEq ι] {S : Settings} {calls : ι → Call S}
  {b b' : Board operations PyError Stores ι} {l : Label operations PyError ι}

/-- What a transition establishes and the states after it keep, holds of every case in these
states. -/
theorem bound_in_states {entering : CaseTransition} {states : List CaseState}
    {names : List String} {K : Reread}
    {Q : Stores → RemediationCase → Prop} (hentered : EnteredBy entering states names)
    (hopened : .opened ∉ states) (hblocked : .blocked ∉ states)
    (hkeep : ∀ {s s' base case}, Q s base → KeepsIds names base case →
      (∀ recordId record, s.record? recordId = some record →
        s'.record? recordId = some record) → Q s' case)
    (hnew : ∀ (b b' : Board operations PyError Stores ι) l, CallStep calls K b l b' →
      ∀ {caseId args base case event target known rest},
        b.histories l.thread = known ++ ⟨.advanceRead caseId entering args, .ok base⟩ :: rest →
        (calls l.thread).grounds (notes known) caseId entering args →
        K known entering base →
        Accepted base entering args target case event → Q b.store case)
    {ls : List (Label operations PyError ι)}
    (hrun : Steps (CallStep calls K) (Board.start {}) ls b) {caseId : String}
    {case : RemediationCase} (hcase : b.store.cases.case? caseId = some case)
    (hstate : case.state ∈ states) : Q b.store case := by
  refine cases_invariant (I := fun s case => case.state ∈ states → Q s case) ?_ ?_ ?_ hrun
    caseId case hcase hstate
  · intro s case hcase hstate
    rw [hcase.fields.1] at hstate
    exact absurd hstate hopened
  · intro s s' case hgrow hbound hstate
    exact hkeep (hbound hstate) (.refl _ _) hgrow
  · intro b b' l hstep caseId transition args base case event target known rest hread hgrounds
      hreread haccepted hbound hstate
    obtain ⟨hresume, hsupplies⟩ := Call.supplies hgrounds
    have hne : case.state ≠ .blocked := by
      intro heq
      exact hblocked (heq ▸ hstate)
    obtain ⟨hblock, heffective⟩ := haccepted.unblocked hresume hne
    rcases hentered _ _ _ _ hblock hresume heffective hstate with rfl | ⟨hbefore, hnames⟩
    · exact hnew b b' l hstep hread hgrounds hreread haccepted
    · exact hkeep (hbound hbefore) (haccepted.keepsIds hsupplies hnames) fun _ _ h => h

/-- A case with a plan carries the validation the plan was made for. -/
theorem plans_bound {ls : List (Label operations PyError ι)}
    (hrun : Steps (CallStep calls (BindsAsRead checkReads)) (Board.start {}) ls b) {caseId : String}
    {case : RemediationCase} (hcase : b.store.cases.case? caseId = some case)
    (hstate : case.state ∈ plannedStates) : PlanBound b.store case := by
  refine bound_in_states plannedStates_entered (by decide) (by decide) PlanBound.keep ?_ hrun
    hcase hstate
  intro b b' l hstep caseId args base case event target known rest hread hgrounds hreread
    haccepted
  cases Call.checks hgrounds (by decide) with
  | planned hplanned =>
    cases hplanned with
    | prepare hsnap _ hvalidation hbinds hscope _ _ hsupplies =>
      have hsame : KeepsIds ["validation_result_id"] _ base :=
        hreread _ _ (mem_of_mem_notes hsnap)
      have hfree : ∀ name ∈ ["validation_result_id"], name ∉ suppliedNames .preparePlan := by
        decide
      have hids : KeepsIds ["validation_result_id"] base case :=
        haccepted.keepsIds hsupplies fun name hname => ⟨List.not_mem_nil, hfree name hname⟩
      have hplan := hstep.record_stored hread hbinds.put .put
      exact ⟨_, _, ⟨_, haccepted.supplied_lookup hbinds.bound, hplan⟩,
        ((hids _ (by simp)).trans (hsame _ (by simp))).trans hvalidation, hscope⟩

/-- A case past its SRE review carries the plan that was judged. -/
theorem sreReviews_bound {ls : List (Label operations PyError ι)}
    (hrun : Steps (CallStep calls (BindsAsRead checkReads)) (Board.start {}) ls b) {caseId : String}
    {case : RemediationCase} (hcase : b.store.cases.case? caseId = some case)
    (hstate : case.state ∈ sreReviewedStates) : SreBound b.store case := by
  refine bound_in_states sreReviewedStates_entered (by decide) (by decide) SreBound.keep ?_ hrun
    hcase hstate
  intro b b' l hstep caseId args base case event target known rest hread hgrounds hreread
    haccepted
  cases Call.checks hgrounds (by decide) with
  | sreApproved happroved =>
    cases happroved with
    | approve hsnap hreviewed hbinds hjudged hsupplies =>
      have hsame : KeepsIds ["change_plan_id"] _ base := hreread _ _ (mem_of_mem_notes hsnap)
      have hfree : ∀ name ∈ ["change_plan_id"], name ∉ suppliedNames .approveSre := by decide
      have hids : KeepsIds ["change_plan_id"] base case :=
        haccepted.keepsIds hsupplies fun name hname => ⟨List.not_mem_nil, hfree name hname⟩
      have hreview := hstep.record_stored hread hbinds.put .put
      have hplan := Stores.record?_recordId (hstep.record_stored hread hreviewed .read)
      have hjudged := read_named hplan hjudged
      exact ⟨_, ⟨_, haccepted.supplied_lookup hbinds.bound, hreview⟩,
        (hjudged.keep hsame (by simp)).keep hids (by simp)⟩
    | refuse hrefuses => rcases hrefuses with heq | heq <;> cases heq

/-- A case past its rollback review carries the plan and the window that were judged. -/
theorem rollbackReviews_bound {ls : List (Label operations PyError ι)}
    (hrun : Steps (CallStep calls (BindsAsRead checkReads)) (Board.start {}) ls b) {caseId : String}
    {case : RemediationCase} (hcase : b.store.cases.case? caseId = some case)
    (hstate : case.state ∈ rollbackReviewedStates) : RollbackBound b.store case := by
  refine bound_in_states rollbackReviewedStates_entered (by decide) (by decide)
    RollbackBound.keep ?_ hrun hcase hstate
  intro b b' l hstep caseId args base case event target known rest hread hgrounds hreread
    haccepted
  cases Call.checks hgrounds (by decide) with
  | rollbackReviewed hreviewed =>
    cases hreviewed with
    | approve hsnap hplanRead hwindowRead hbinds hplanJudged hwindowJudged hsupplies =>
      have hsame : KeepsIds ["change_plan_id", "change_window_id"] _ base :=
        hreread _ _ (mem_of_mem_notes hsnap)
      have hfree : ∀ name ∈ ["change_plan_id", "change_window_id"],
          name ∉ suppliedNames .reviewRollback := by
        decide
      have hids : KeepsIds ["change_plan_id", "change_window_id"] base case :=
        haccepted.keepsIds hsupplies fun name hname => ⟨List.not_mem_nil, hfree name hname⟩
      have hreview := hstep.record_stored hread hbinds.put .put
      have hplan := Stores.record?_recordId (hstep.record_stored hread hplanRead .read)
      have hwindow := Stores.record?_recordId (hstep.record_stored hread hwindowRead .read)
      have hplanJudged := read_named hplan hplanJudged
      have hwindowJudged := read_named hwindow hwindowJudged
      exact ⟨_, ⟨_, haccepted.supplied_lookup hbinds.bound, hreview⟩,
        (hplanJudged.keep hsame (by simp)).keep hids (by simp),
        (hwindowJudged.keep hsame (by simp)).keep hids (by simp)⟩
    | refuse hrefuses => rcases hrefuses with heq | heq <;> cases heq

end boards

/-- The checkers judged what they are bound beside: in every run of calls of the services in which
a plan, an SRE review and a rollback review are attached to a case that binds what their worker
read, a case before its human approval binds reviews of its plan and its window, and a plan for
its validation. -/
theorem checked_beside {ι : Type} [DecidableEq ι] {S : Settings} {calls : ι → Call S}
    {ls : List (Label operations PyError ι)} {c : Pool operations PyError Unit Stores ι}
    (hrun : Steps (Pool.StepIf world (RereadsSame checkReads))
      (Pool.start {} fun i => (calls i).program) ls c) {caseId : String} {case : RemediationCase}
    (hcase : c.store.cases.case? caseId = some case)
    (hstate : case.state = .rollbackReady ∨ case.state = .awaitingApproval) :
    SreBound c.store case ∧ RollbackBound c.store case ∧ PlanBound c.store case := by
  obtain ⟨hboard, -⟩ := Pool.board_steps (fun i => (calls i).permitted) hrun
  obtain ⟨hcalls, -⟩ := call_run hboard
  have hreviewed : case.state ∈ rollbackReviewedStates := by
    rcases hstate with heq | heq <;> rw [heq] <;> decide
  have hsub : ∀ state ∈ rollbackReviewedStates,
      state ∈ sreReviewedStates ∧ state ∈ plannedStates := by
    decide
  exact ⟨sreReviews_bound hcalls hcase (hsub _ hreviewed).1,
    rollbackReviews_bound hcalls hcase hreviewed, plans_bound hcalls hcase (hsub _ hreviewed).2⟩

section samples

/-- One stage after the other brings the case to its review. -/
theorem checked_beside_in_turn : ∃ ls c case,
    Steps (Pool.StepIf world (RereadsSame checkReads))
      (Pool.start {} fun i => (stageCalls "JOB-1152" i).program) ls c ∧
    c.store.cases.case? "CASE-1010" = some case ∧ case.state = .awaitingApproval ∧
    SreBound c.store case ∧ RollbackBound c.store case ∧ PlanBound c.store case := by
  have hexists : ∃ run ∈ stagedRun (rereadsSame checkReads) "JOB-1152" 160 firstReview,
      ∃ case ∈ run.2.store.cases.case? "CASE-1010", case.state = .awaitingApproval := by
    decide +kernel
  obtain ⟨⟨ls, c⟩, hrun, case, hcase, hstate⟩ := hexists
  have hsteps : Steps (Pool.StepIf world (RereadsSame checkReads))
      (Pool.start {} fun i => (stageCalls "JOB-1152" i).program) ls c :=
    (Pool.exec_steps hrun).mono fun _ _ _ h => ⟨h.1, rereadsSame_sound h.2⟩
  exact ⟨ls, c, case, hsteps, hcase, hstate, checked_beside hsteps hcase (.inr hstate)⟩

/-- A finding reopens the case while its plan is under SRE review, and the case has a second plan
when `APPROVE_SRE` is applied: the case becomes ready with a review of the first plan. -/
theorem checked_earlier_plan : ∃ ls c case,
    Steps (Pool.StepIf world fun _ _ => True)
      (Pool.start {} fun i => (stageCalls "JOB-1152" i).program) ls c ∧
    c.store.cases.case? "CASE-1010" = some case ∧ case.state = .rollbackReady ∧
    ¬SreBound c.store case := by
  have hexists : ∃ run ∈ stagedRun (fun _ _ => true) "JOB-1152" 400
      [(0, 17), (1, 13), (2, 39), (3, 9), (10, 15), (11, 13), (12, 39), (3, 8), (14, 22),
        (15, 16)],
      namesOther run.2.store "CASE-1010" "sre_review_id" "plan_id" "change_plan_id" = true ∧
      ∃ case ∈ run.2.store.cases.case? "CASE-1010", case.state = .rollbackReady := by
    decide +kernel
  obtain ⟨⟨ls, c⟩, hrun, hother, case, hcase, hstate⟩ := hexists
  have hsteps : Steps (Pool.StepIf world fun _ _ => True)
      (Pool.start {} fun i => (stageCalls "JOB-1152" i).program) ls c :=
    (Pool.exec_steps hrun).mono fun _ _ _ h => ⟨h.1, trivial⟩
  refine ⟨ls, c, case, hsteps, hcase, hstate, ?_⟩
  rintro ⟨review, hreview, hnamed⟩
  exact not_names_of_namesOther hother hcase hreview hnamed

end samples

end ElCapitan
