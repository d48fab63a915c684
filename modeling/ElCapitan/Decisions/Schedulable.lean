import ElCapitan.Decisions.Alone
import ElCapitan.Services.Execution

/-!
# Which approved cases can be scheduled

`ExecutionScheduler.schedule` puts the job before the transition, and a case keeps its job
row for ever. An approved case with an open window is therefore scheduled exactly when no
earlier step stored a job for it.
-/

namespace ElCapitan

open Effects

/-- A call scheduled a case: it returned, the case is stored with the schedule it names, and
its only job is scheduled in the window. -/
def ScheduledIn (caseId : String) (window : ChangeWindow)
    (out : Except PyError SchedulingOutcome) (s : Stores) : Prop :=
  ∃ outcome, out = .ok outcome ∧ s.cases.case? caseId = some outcome.case ∧
    outcome.case.state = .approved ∧
    outcome.case.recordIds.lookup "schedule_id" = some outcome.record.recordId ∧
    outcome.case.recordIds.lookup "execution_job_id" = some outcome.job.jobId ∧
    (s.jobs.filter fun job => job.caseId = caseId) = [outcome.job] ∧
    outcome.job.state = .scheduled ∧ outcome.job.executeAt = window.startsAt ∧
    outcome.job.deadline = window.endsAt

/-- No job row of the case is left over, and no write of a scheduling fails. -/
def Unobstructed (s : Stores) (caseId : String) (failed : Option DurableWrite) : Prop :=
  (∀ job ∈ s.jobs, job.caseId ≠ caseId) ∧ failed ≠ some .job ∧ failed ≠ some .scheduleRecord ∧
    failed ≠ some .scheduleExecution

/-- A time that was compared is a timestamp. -/
theorem ne_empty_of_notAfter {P : Platform} {earlier time : String} {answer : Bool}
    (h : notAfter P earlier time = .ok answer) : time ≠ "" := by
  rintro rfl
  unfold notAfter at h
  obtain ⟨_, -, h⟩ := except_bind_eq_ok.mp h
  obtain ⟨_, hright, -⟩ := except_bind_eq_ok.mp h
  cases hright

/-- An approved case may be scheduled. -/
theorem scheduleExecution_allowed {case : RemediationCase} {args : TransitionArgs}
    {scheduleId : String} (hstate : case.state = .approved)
    (hrecord : args.recordIds.lookup "schedule_id" = some scheduleId)
    (hschedule : scheduleId ≠ "") (hevent : args.eventId ≠ "" ∧ args.actor ≠ "" ∧
      args.occurredAt ≠ "") (hbare : checkAttachments .scheduleExecution args = .ok ()) :
    ∃ case' event, transitionCase case .scheduleExecution args = .ok (case', event) := by
  have hlive : case.terminal = false := by
    simp [RemediationCase.terminal, hstate, terminalCaseStates]
  have hsupplied : suppliesRequired .scheduleExecution args.recordIds = true := by
    simp [suppliesRequired, requiredRecord, hrecord, hschedule]
  have htarget : transitionTarget case .scheduleExecution args =
      .ok { toState := case.state, blockedFrom := case.blockedFrom } := by
    simp [transitionTarget, hstate]
  obtain ⟨case', event, hnext, -⟩ :=
    transitionCase_of_target hlive hsupplied htarget hbare hevent
  exact ⟨case', event, hnext⟩

/-- Scheduling leaves an approved case approved, under the ids it supplies. -/
theorem scheduleExecution_accepted {case case' : RemediationCase} {args : TransitionArgs}
    {event : CaseEvent} (hnext : transitionCase case .scheduleExecution args = .ok (case', event)) :
    case'.state = case.state ∧ case'.caseId = case.caseId ∧
      ∀ name value, args.recordIds.lookup name = some value →
        case'.recordIds.lookup name = some value := by
  obtain ⟨target, haccepted⟩ := transitionCase_accepted hnext
  have hstate : target.toState = case.state := by
    cases haccepted.led with
    | scheduleExecution _ => rfl
    | linear hlinear => cases hs : case.state <;> rw [hs] at hlinear <;> cases hlinear
  refine ⟨haccepted.state.trans hstate, haccepted.caseId, fun name value hvalue => ?_⟩
  rw [haccepted.recordIds, lookup_mergeRecords, hvalue]
  rfl

/-- How scheduling an approved case in an open window ends: unobstructed it succeeds, and
otherwise it raises and leaves the cases as they were. -/
theorem schedule_ends {S : Settings} {clock : String → Prop} {failed : Option DurableWrite}
    {s : Stores} {case : RemediationCase} {window : ChangeWindow} (hs : s.Sequenced)
    (hcase : s.cases.case? case.caseId = some case) (hstate : case.state = .approved)
    (hwindow : case.changeWindow = some window)
    (hclock : ∀ time, clock time → notAfter S.platform window.endsAt time = .ok false) :
    Ends clock failed (schedule S case.caseId) (fun out s' =>
      (Unobstructed s case.caseId failed → ScheduledIn case.caseId window out s') ∧
      (¬Unobstructed s case.caseId failed → (∃ e, out = .error e) ∧ s'.cases = s.cases)) s := by
  have htold : ∀ time, clock time → time ≠ "" := fun time htime =>
    ne_empty_of_notAfter (hclock time htime)
  have hactor : "execution-scheduler" ≠ "" := by decide
  unfold schedule
  refine Ends.getCase hcase ?_
  refine sat_bind_ofExcept.mpr ⟨?_, ?_⟩
  swap
  · intro e he
    simp [scheduledWindow, hstate, hwindow] at he
  intro found hfound
  obtain rfl : window = found := by
    simpa [scheduledWindow, hstate, hwindow] using hfound
  refine Ends.now fun asked hasked => ?_
  rw [hclock asked hasked]
  refine sat_bind_ofExcept.mpr ⟨?_, fun e he => by cases he⟩
  rintro elapsed heq
  cases heq
  refine sat_bind_raiseIf.mpr ⟨fun _ => ?_, fun h => by cases h⟩
  refine Ends.newId fun jobId hjobId _ => Ends.newId fun scheduleId hscheduleId _ => ?_
  refine Ends.now fun now hnow => ?_
  refine Ends.putJob hjobId.jobs (fun hfree hjob => ?_) (fun hobstructed e => ?_)
  swap
  · refine ⟨fun hun => ?_, fun _ => ⟨⟨e, rfl⟩, rfl⟩⟩
    rcases hobstructed with hrow | hfailed
    · exact absurd hun.1 hrow
    · exact absurd hfailed hun.2.1
  have hrecord : ∃ record, ProductRecord.create scheduleId case.caseId "ExecutionSchedule.v1" 1
      now [("schedule_id", .str scheduleId), ("job_id", .str jobId),
        ("execute_at", .str window.startsAt), ("deadline", .str window.endsAt),
        ("window_id", .str window.windowId)] window.evidenceIds = .ok record := by
    unfold ProductRecord.create
    rw [dif_pos ⟨hscheduleId.nonempty, case.required.1, by decide⟩, dif_pos (by decide)]
    exact ⟨_, rfl⟩
  obtain ⟨record, hrecord⟩ := hrecord
  obtain ⟨hid, -, htype, -, -, -⟩ := ProductRecord.create_eq_ok hrecord
  refine sat_bind_ofExcept.mpr ⟨?_, fun e he => by rw [hrecord] at he; cases he⟩
  intro made hmade
  obtain rfl : record = made := by rw [hrecord] at hmade; cases hmade; rfl
  refine Ends.putRecord (w := .scheduleRecord) ?_ ?_ (fun hrec => ?_) (fun hfailed e => ?_)
  · rw [hid]
    exact hscheduleId.records
  · simp [writeOf, htype]
  swap
  · exact ⟨fun hun => absurd hfailed hun.2.2.1, fun _ => ⟨⟨e, rfl⟩, rfl⟩⟩
  refine Ends.newId fun eventId heventId _ => ?_
  refine Ends.advance (w := .scheduleExecution) hs hcase ?_ heventId.events ?_
    (fun hexec case' event tables hnext happend _ => ?_) (fun hfailed e => ?_)
  · refine scheduleExecution_allowed hstate ?_ hscheduleId.nonempty
      ⟨heventId.nonempty, hactor, htold _ hnow⟩ rfl
    simp [recordIdsOf, Finmap.lookup_insert_of_ne]
  · intro case' event v htransition
    simp [writeOf, htransition]
  · obtain ⟨hstate', hcaseId, hrecords⟩ := scheduleExecution_accepted hnext
    have hun : Unobstructed s case.caseId failed := ⟨hfree, hjob, hrec, hexec⟩
    refine ⟨fun _ => ⟨⟨case', record, _⟩, rfl, ?_, hstate'.trans hstate, ?_, ?_, ?_, rfl, rfl,
      rfl⟩, fun hnot => absurd hun hnot⟩
    · rw [← hcaseId]
      exact CaseTables.case?_append_self happend
    · rw [hid]
      exact hrecords _ _ (by simp [recordIdsOf, Finmap.lookup_insert_of_ne])
    · exact hrecords _ _ (by simp [recordIdsOf])
    · have hnone : (s.jobs.filter fun job => decide (job.caseId = case.caseId)) = [] := by
        rw [List.filter_eq_nil_iff]
        intro job hjob'
        simpa using hfree job hjob'
      show ((s.jobs ++ [_]).filter _) = _
      rw [List.filter_append, hnone]
      simp
  · exact ⟨fun hun => absurd hfailed hun.2.2.2, fun _ => ⟨⟨e, rfl⟩, rfl⟩⟩

/-- In every history of the stores, scheduling an approved case in an open window succeeds
exactly when no step of the history stored a job of the case. -/
theorem approved_case_scheduled {S : Settings} {h : Trace} {s : Stores} {case : RemediationCase}
    {window : ChangeWindow} {now : String} (hrun : Steps StoreStep {} h s)
    (hcase : s.cases.case? case.caseId = some case) (hstate : case.state = .approved)
    (hwindow : case.changeWindow = some window)
    (hopen : notAfter S.platform window.endsAt now = .ok false) :
    (∀ out s', Runs (aloneWorld (fun time => notAfter S.platform window.endsAt time = .ok false)
        none) (schedule S case.caseId) s out s' → ScheduledIn case.caseId window out s') ↔
      ∀ e ∈ h, ¬PutsJob case.caseId e := by
  have hends := @schedule_ends S _ none s case window
    (sequenced_of_history hrun) hcase hstate hwindow
    fun _ htime => htime
  rw [← jobs_of_history hrun]
  constructor
  · intro hall
    by_contra hrow
    let clock := fun time => notAfter S.platform window.endsAt time = .ok false
    have hopen' : clock now := hopen
    obtain ⟨out, s', hends'⟩ := Runs.exists_of_total (aloneWorld_total hopen' none)
      (schedule S case.caseId) s
    obtain ⟨e, rfl⟩ := ((hends.runs hends').2 fun hun => hrow hun.1).1
    obtain ⟨outcome, heq, -⟩ := hall _ _ hends'
    cases heq
  · intro hfree out s' hrun'
    exact (hends.runs hrun').1 ⟨hfree, by simp, by simp, by simp⟩

section samples

/-- Apply transitions to a case, one after the other. -/
def applyTransitions (caseId : String) : List (CaseTransition × TransitionArgs) → Service Unit
  | [] => return ()
  | (transition, args) :: rest => do
    let _ ← advance caseId transition args
    applyTransitions caseId rest

/-- A case is taken from triage to where a human decides on it. -/
def awaitingRequests : List (CaseTransition × TransitionArgs) :=
  validatedRequests ++
    [(.preparePlan, { sampleArgs "event-3" [("change_plan_id", "plan-1")] with
        changePlan := some (samplePlan "plan-1" samplePlan_named) }),
      (.approveSre, sampleArgs "event-4" [("sre_review_id", "review-1")]),
      (.selectWindow, { sampleArgs "event-5" [("change_window_id", "window-1")] with
        changeWindow := some sampleWindow }),
      (.reviewRollback, sampleArgs "event-6" [("rollback_review_id", "rollback-review-1")]),
      (.requestApproval, sampleArgs "event-7" [("policy_decision_id", "policy-1"),
        ("human_review_package_id", "package-1")])]

/-- A case is taken from triage to its approval. -/
def approvedRequests : List (CaseTransition × TransitionArgs) :=
  awaitingRequests ++ [(.approveChange, sampleArgs "event-8" [("approval_id", "approval-1")])]

/-- A case is opened, approved and scheduled. -/
def scheduledAfterApproval : Service Unit := do
  let _ ← openAndCreate "case-1" "tenant-1" ["finding-1"] ["asset-1"] [] "2026-07-17T12:00:00Z"
  applyTransitions "case-1" approvedRequests
  discard (schedule sampleSettings "case-1")

/-- What is stored when this stops after so many steps. -/
def stoppedAfter (steps : ℕ) : Trace × Service Unit × Stores :=
  Prog.runFor performWith (fun n => ⟨none, quietReply "2026-07-17T12:00:00Z" n⟩) steps
    scheduledAfterApproval 0 {}

/-- A schedule that is stopped after some steps is a history of the stores. -/
theorem stoppedAfter_history (steps : ℕ) :
    Steps StoreStep {} (stoppedAfter steps).1 (stoppedAfter steps).2.2 :=
  ran_history (@Prog.ran_runFor _ _ _ _ _ performWith _ steps 0 _
    (stoppedAfter steps).2.1 _ _ _ rfl)

/-- The case is approved in its open window and has no schedule. -/
def approvedUnscheduled (s : Stores) (case : RemediationCase) : Prop :=
  s.cases.case? case.caseId = some case ∧ case.caseId = "case-1" ∧ case.state = .approved ∧
    case.changeWindow = some sampleWindow ∧ case.recordIds.lookup "schedule_id" = none

instance (s : Stores) (case : RemediationCase) : Decidable (approvedUnscheduled s case) :=
  inferInstanceAs (Decidable (_ ∧ _ ∧ _ ∧ _ ∧ _))

/-- The sample's window has not ended. -/
theorem window_open : notAfter samplePlatform sampleWindow.endsAt "2026-07-17T12:00:00Z" =
    .ok false := by
  decide +kernel

/-- A case approved without a job is scheduled. -/
theorem approved_case_scheduled_sample : ∃ s case, approvedUnscheduled s case ∧
    ∀ out s', Runs (aloneWorld (fun time => notAfter samplePlatform sampleWindow.endsAt time =
        .ok false) none) (schedule sampleSettings case.caseId) s out s' →
      ScheduledIn case.caseId sampleWindow out s' := by
  have hstate : ∃ case ∈ (stoppedAfter 17).2.2.cases.case? "case-1",
      approvedUnscheduled (stoppedAfter 17).2.2 case ∧ (stoppedAfter 17).2.2.jobs = [] := by
    decide +kernel
  obtain ⟨case, -, hcase, hjobs⟩ := hstate
  have hhistory := stoppedAfter_history 17
  have hfacts := hcase
  obtain ⟨hstored, -, happroved, hwindow, -⟩ := hfacts
  have hscheduled := @approved_case_scheduled sampleSettings _ _ _ _ _ hhistory hstored happroved
    hwindow window_open
  refine ⟨_, case, hcase, hscheduled.mpr ((jobs_of_history hhistory _).mp ?_)⟩
  rw [hjobs]
  simp

/-- A scheduling stopped after it stored its job: the case is approved, carries no schedule
and has an open window, and no later scheduling is accepted. -/
theorem stopped_scheduling_obstructs : ∃ h s case, Steps StoreStep {} h s ∧
    approvedUnscheduled s case ∧
    (∃ out s', Runs (aloneWorld (fun time => notAfter samplePlatform sampleWindow.endsAt time =
        .ok false) none) (schedule sampleSettings case.caseId) s out s') ∧
    ∀ out s', Runs (aloneWorld (fun time => notAfter samplePlatform sampleWindow.endsAt time =
        .ok false) none) (schedule sampleSettings case.caseId) s out s' →
      (∃ e, out = .error e) ∧ ¬ScheduledIn case.caseId sampleWindow out s' := by
  have hstate : ∃ case ∈ (stoppedAfter 23).2.2.cases.case? "case-1",
      approvedUnscheduled (stoppedAfter 23).2.2 case ∧
        ∃ job ∈ (stoppedAfter 23).2.2.jobs, job.caseId = case.caseId := by
    decide +kernel
  obtain ⟨case, -, hcase, hjob⟩ := hstate
  have hhistory := stoppedAfter_history 23
  have hfacts := hcase
  obtain ⟨hstored, -, happroved, hwindow, -⟩ := hfacts
  have hends := @schedule_ends sampleSettings
    (fun time => notAfter samplePlatform sampleWindow.endsAt time = .ok false) none _ _ _
    (sequenced_of_history hhistory) hstored happroved hwindow fun _ htime => htime
  refine ⟨_, _, case, hhistory, hcase, ?_, fun out s' hrun => ?_⟩
  · exact Runs.exists_of_total (@aloneWorld_total (fun time =>
      notAfter samplePlatform sampleWindow.endsAt time = .ok false) _ window_open none) _ _
  · obtain ⟨⟨e, rfl⟩, -⟩ := (hends.runs hrun).2 fun hun => by
      obtain ⟨job, hmem, heq⟩ := hjob
      exact hun.1 job hmem heq
    refine ⟨⟨e, rfl⟩, ?_⟩
    rintro ⟨outcome, heq, -⟩
    cases heq

end samples

end ElCapitan
