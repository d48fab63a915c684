import ElCapitan.Dispatch.Agreement
import ElCapitan.Releases.Outcome

/-!
# How a dispatched execution ends

A call of `run_once` that claimed a job and executed its change completes the job. Undisturbed,
it returns the outcome, and the row of the job has the state of the outcome from then on.
-/

namespace ElCapitan

open Effects

/-- In this history a worker claimed a job and its execution returned a result; these are
the events after it. -/
def ExecutedIn (S : Settings) (worker : JobWorker) (job : ExecutionJob) (result : ExecutionOutcome)
    (history after : Trace) : Prop :=
  ∃ now workerId leaseUntil h,
    history = ⟨.claimDue now workerId leaseUntil, .ok (some job)⟩ :: (h ++ after) ∧
      (worker.execution S job).Played h (.ret result)

section program

variable {S : Settings} {worker : JobWorker} {job : ExecutionJob} {result : ExecutionOutcome}
  {history after : Trace} {prog : Service (Option DispatchOutcome)}

/-- An executed job was claimed. -/
theorem ExecutedIn.claimedBy (h : ExecutedIn S worker job result history after) :
    ClaimedBy history job.jobId := by
  obtain ⟨now, workerId, leaseUntil, events, rfl, -⟩ := h
  exact ⟨now, workerId, leaseUntil, job, events ++ after, rfl, rfl⟩

/-- What an execution returned is one of its three ways to finish. -/
theorem ExecutedIn.finished (h : ExecutedIn S worker job result history after) :
    Finished result (completionState result) := by
  obtain ⟨_, _, _, events, -, hplayed⟩ := h
  have hreturns : (worker.execution S job).Returns fun result => ∃ state, Finished result state :=
    returns_execute
  obtain ⟨state, hfinished⟩ := hreturns.ran hplayed
  rw [hfinished.completionState]
  exact hfinished

/-- After an execution that returned the call completes the job, and if that succeeds it
returns. -/
theorem played_after_execution (h : ExecutedIn S worker job result history after)
    (hafter : after ≠ []) (hplayed : (worker.program S).Played history prog) :
    ∃ answer, ⟨.completeJob job.jobId worker.workerId (completionState result)
        result.case.state.value, answer⟩ ∈ history ∧
      ∀ completed, answer = .ok completed → prog = .ret (some ⟨completed, result⟩) := by
  obtain ⟨now, workerId, leaseUntil, events, rfl, hexecuted⟩ := h
  unfold JobWorker.program runOnce claimDueJob at hplayed
  simp only [Prog.bind_eq, Prog.bind_assoc] at hplayed
  cases hlease : JobTable.leaseTime worker.now S.platform worker.workerId 300 with
  | error e =>
    rw [hlease] at hplayed
    cases hplayed
  | ok until_ =>
    rw [hlease] at hplayed
    cases hplayed with
    | step _ hrest =>
      obtain ⟨left, _, hfirst, hsecond⟩ := Prog.Ran.split hrest
      -- the execution determines what is left of the call
      have hleft := ((hexecuted.bind fun result => (perform (.completeJob job.jobId worker.workerId
        (completionState result) result.case.state.value)).bind fun completed =>
          Prog.ret (some (DispatchOutcome.mk completed result))).handle
            (failJob worker.workerId job)).unique hfirst
      subst hleft
      cases hsecond with
      | here => exact absurd rfl hafter
      | step _ hlast =>
        rename_i rest _ answer
        refine ⟨answer, by simp, ?_⟩
        rintro completed rfl
        exact (Prog.Played.ended hlast (o := .ok _) rfl).2

/-- What follows a completion that a call issues for a returned execution is its end. -/
theorem played_completion {o : Operation} {f : o.Answer → Option DispatchOutcome} {h : Trace}
    {left : Service (Option DispatchOutcome)}
    (hplayed : ((perform o).bind fun answer => Prog.ret (f answer)).Played h left) :
    ∀ e ∈ h, e.op = o := by
  cases hplayed with
  | here => simp
  | step _ hrest =>
    rename_i rest _ answer
    have hend : rest = [] := by
      cases answer with
      | ok a => exact (Prog.Played.ended hrest (o := .ok _) rfl).1
      | error e => exact (Prog.Played.ended hrest (o := .error _) rfl).1
    subst hend
    simp

/-- A failure is completed as one. -/
theorem played_failJob {workerId : String} {e : PyError} {h : Trace}
    {left : Service (Option DispatchOutcome)} (hplayed : (failJob workerId job e).Played h left) :
    ∀ event ∈ h, ∃ detail, event.op = .completeJob job.jobId workerId .failed detail := by
  cases hplayed with
  | here => simp
  | step _ hrest =>
    rename_i rest _ answer
    have hend : rest = [] := by
      cases answer with
      | ok a => exact (Prog.Played.ended hrest (o := .error _) rfl).1
      | error e => exact (Prog.Played.ended hrest (o := .error _) rfl).1
    subst hend
    rintro event hevent
    obtain rfl := List.mem_singleton.mp hevent
    exact ⟨_, rfl⟩

section returned

variable {jobId workerId detail : String} {state : JobState} {answer : Except PyError ExecutionJob}

/-- In the `try` of a call, a completion follows an execution that returned. -/
theorem played_completeWith {left : Service (Option DispatchOutcome)} {h : Trace}
    (hplayed : (completeWith worker.workerId (worker.execution S) job).Played h left)
    (hmem : ⟨.completeJob jobId workerId state detail, answer⟩ ∈ h) :
    ∃ result events after, h = events ++ after ∧
      (worker.execution S job).Played events (.ret result) ∧ after ≠ [] ∧ job.jobId = jobId ∧
      completionState result = state ∧ result.case.state.value = detail := by
  have huses : (worker.execution S job).Uses JobFree := uses_execute_jobFree
  rcases Prog.Ran.bind_cases hplayed with ⟨_, hexecuting, -⟩ |
    ⟨events, after, result, _, rfl, hexecuted, hcompleting⟩
  · cases (huses.ran hexecuting).2 _ hmem
  · rcases List.mem_append.mp hmem with hmem | hmem
    · cases (huses.ran hexecuted).2 _ hmem
    · have hop := played_completion hcompleting _ hmem
      cases hop
      exact ⟨result, events, after, rfl, hexecuted, List.ne_nil_of_mem hmem, rfl, rfl, rfl⟩

/-- A completion that is not a failure follows an execution that returned. -/
theorem executedIn_of_completion (hplayed : (worker.program S).Played history prog)
    (hmem : ⟨.completeJob jobId workerId state detail, answer⟩ ∈ history)
    (hstate : state ≠ .failed) :
    ∃ job result after, ExecutedIn S worker job result history after ∧ after ≠ [] ∧
      job.jobId = jobId ∧ completionState result = state ∧ result.case.state.value = detail := by
  unfold JobWorker.program runOnce claimDueJob at hplayed
  simp only [Prog.bind_eq, Prog.bind_assoc] at hplayed
  cases hlease : JobTable.leaseTime worker.now S.platform worker.workerId 300 with
  | error e =>
    rw [hlease] at hplayed
    cases hplayed
    simp at hmem
  | ok until_ =>
    rw [hlease] at hplayed
    cases hplayed with
    | here => simp at hmem
    | step _ hrest =>
      rename_i rest _ claimed
      replace hmem : ⟨.completeJob jobId workerId state detail, answer⟩ ∈ rest := by
        rcases List.mem_cons.mp hmem with heq | hmem
        · cases heq
        · exact hmem
      match claimed, hrest with
      | .error e, .here _ _ => simp at hmem
      | .ok none, .here _ _ => simp at hmem
      | .ok (some job), hrest =>
        rcases Prog.Ran.handle_cases hrest with ⟨_, hinside, -⟩ |
          ⟨first, second, e, _, rfl, hinside, hfailed⟩
        · obtain ⟨result, events, after, rfl, hexecuted, hends⟩ := played_completeWith hinside hmem
          exact ⟨job, result, after, ⟨_, _, _, events, rfl, hexecuted⟩, hends⟩
        · rcases List.mem_append.mp hmem with hmem | hmem
          · obtain ⟨result, events, after, rfl, hexecuted, hafter, hends⟩ :=
              played_completeWith hinside hmem
            refine ⟨job, result, after ++ second, ⟨worker.now, worker.workerId, until_, events, ?_,
              hexecuted⟩, ?_, hends⟩
            · rw [List.append_assoc]
            · exact List.append_ne_nil_of_left_ne_nil hafter _
          · obtain ⟨_, heq⟩ := played_failJob hfailed _ hmem
            cases heq
            exact absurd rfl hstate

end returned

end program

variable {ι : Type} [DecidableEq ι] {S : Settings} {workers : ι → JobWorker} {i : ι}

/-- Job and case agree on the outcome: where the execution of a worker returned and the call
took another step, undisturbed, it returned its outcome, and the row of the job has the state
of the outcome. -/
theorem completed_job_agrees {s : Stores} (hkeys : s.jobs.Keyed)
    {ls : List (Label operations PyError ι)}
    {c : Pool operations PyError (Option DispatchOutcome) Stores ι}
    (hrun : Steps (Pool.StepIf dependable (Undisturbed workers i))
      (Pool.start s fun j => (workers j).program S) ls c)
    {job : ExecutionJob} {result : ExecutionOutcome} {after : Trace} (hafter : after ≠ [])
    (hexecuted : ExecutedIn S (workers i) job result (c.threads i).history after) :
    ∃ completed, (c.threads i).prog = .ret (some ⟨completed, result⟩) ∧
      ∃ row, JobTable.find c.store.jobs job.jobId = some row ∧ Finished result row.state := by
  obtain ⟨hboard, -⟩ := Pool.board_steps (fun j => runOnce_obeys) hrun
  have hserved := served_run hkeys hboard
  obtain ⟨answer, hmem, hreturned⟩ := played_after_execution hexecuted hafter (Pool.played hrun i)
  cases hserved.kept job.jobId hexecuted.claimedBy with
  | running huncompleted _ _ _ => cases huncompleted _ hmem
  | completed _ honce _ hfound hrecorded =>
    have hevent := honce _ hmem rfl
    cases hevent
    refine ⟨_, hreturned _ rfl, _, hfound, ?_⟩
    rw [hrecorded]
    exact hexecuted.finished

section samples

/-- The sample installation with a calendar. -/
def clockSettings : Settings := ⟨clockPlatform, "/artifacts", fun _ _ _ => none⟩

/-- Two workers; the second calls `run_once` ten minutes after the first. -/
def sampleWorker (second : Bool) : JobWorker where
  workerId := if second then "worker-b" else "worker-a"
  now := if second then "2026-07-18T02:40:00Z" else "2026-07-18T02:30:00Z"
  components := sampleComponents
  originator := "originator"

/-- The stores with the approved case and its scheduled job. -/
def scheduledStores : Stores :=
  { approvedStores with
    jobs := [scheduledJob "job-1" "case-1" sampleWindow.startsAt sampleWindow.endsAt] }

/-- Both workers on the sample case. -/
abbrev sampleDispatch : Pool operations PyError (Option DispatchOutcome) Stores Bool :=
  Pool.start scheduledStores fun i => (sampleWorker i).program clockSettings

/-- The workers move in this order, without faults; ten minutes pass after step 30. -/
def playedDispatch
    (check : Board operations PyError Stores Bool → Label operations PyError Bool → Bool)
    (schedule : List Bool) : Option (List (Label operations PyError Bool) ×
      Pool operations PyError (Option DispatchOutcome) Stores Bool) :=
  Pool.exec (fun reply => performWith ⟨none, reply⟩) check
    (fun n => quietReply (if n < 30 then "2026-07-18T02:30:00Z" else "2026-07-18T02:40:00Z") n)
    schedule 0 sampleDispatch

/-- A step without a fault. -/
theorem dependable_of_faultless {reply : (o : Operation) → Except PyError o.Answer}
    {s s' : Stores} {o : Operation} {r : Except PyError o.Answer}
    (h : performWith ⟨none, reply⟩ s o = (r, s')) : dependable s o r s' := by
  cases o
  case completeJob => exact congrArg some h
  all_goals exact ⟨⟨none, reply⟩, h⟩

/-- A played dispatch is a run of the workers whose steps pass the check. -/
theorem playedDispatch_steps
    {check : Board operations PyError Stores Bool → Label operations PyError Bool → Bool}
    {schedule : List Bool} {ls : List (Label operations PyError Bool)}
    {c : Pool operations PyError (Option DispatchOutcome) Stores Bool}
    (h : playedDispatch check schedule = some (ls, c)) :
    Steps (Pool.StepIf dependable fun b l => check b l = true) sampleDispatch ls c := by
  refine (Pool.exec_steps h).mono ?_
  rintro _ _ _ ⟨⟨hprog, _, hanswer⟩, hcheck⟩
  exact ⟨⟨hprog, dependable_of_faultless hanswer⟩, hcheck⟩

/-- The thread completed a job as succeeded. -/
def completesSucceeded : Event operations PyError → Bool
  | ⟨.completeJob "job-1" _ .succeeded _, _⟩ => true
  | _ => false

/-- A completion as succeeded is among the steps. -/
theorem exists_completion {h : Trace} (hsucceeded : h.any completesSucceeded = true) :
    ∃ workerId detail answer, ⟨.completeJob "job-1" workerId .succeeded detail, answer⟩ ∈ h := by
  obtain ⟨⟨o, r⟩, hmem, hcompletes⟩ := List.any_eq_true.mp hsucceeded
  unfold completesSucceeded at hcompletes
  split at hcompletes
  · rename_i heq
    cases heq
    exact ⟨_, _, _, hmem⟩
  · cases hcompletes

/-- A worker claims a job only while the other has not moved. -/
def claimsAlone (b : Board operations PyError Stores Bool) (l : Label operations PyError Bool) :
    Bool :=
  match l.event.op with
  | .claimDue now workerId leaseUntil =>
    match (JobTable.claim b.store.jobs now workerId leaseUntil).1 with
    | .ok (some _) => (b.histories !l.thread).isEmpty
    | _ => true
  | _ => true

/-- A claim made while the other worker has not moved disturbs no one. -/
theorem undisturbed_of_claimsAlone {workers : Bool → JobWorker} {i : Bool}
    {b : Board operations PyError Stores Bool} {l : Label operations PyError Bool}
    (h : claimsAlone b l = true) : Undisturbed workers i b l := by
  have hnone : ∀ jobId, ¬ClaimedBy [] jobId := by
    rintro jobId ⟨_, _, _, _, _, heq, -⟩
    cases heq
  rintro now workerId leaseUntil job hop hclaim
  simp only [claimsAlone, hop, hclaim] at h
  have hempty : b.histories (!l.thread) = [] := List.isEmpty_iff.mp h
  constructor
  · intro hother
    obtain rfl : (!l.thread) = i := by cases i <;> cases hl : l.thread <;> simp_all
    rw [hempty]
    exact hnone _
  · rintro rfl j hj -
    obtain rfl : j = !l.thread := by cases j <;> cases hl : l.thread <;> simp_all
    rw [hempty]
    exact hnone _

/-- A worker alone completes the job of the case it remediated. -/
theorem completed_job_agrees_alone : ∃ ls c job result after,
    Steps (Pool.StepIf dependable (Undisturbed sampleWorker false)) sampleDispatch ls c ∧
      after ≠ [] ∧
      ExecutedIn clockSettings (sampleWorker false) job result (c.threads false).history after ∧
      ∃ completed, (c.threads false).prog = .ret (some ⟨completed, result⟩) ∧
        ∃ row, JobTable.find c.store.jobs job.jobId = some row ∧ Finished result row.state := by
  have hexists : ∃ run ∈ playedDispatch claimsAlone (List.replicate 56 false ++ [true]),
      (run.2.threads false).history.any completesSucceeded = true := by
    decide +kernel
  obtain ⟨⟨ls, c⟩, hrun, hsucceeded⟩ := hexists
  have hsteps : Steps (Pool.StepIf dependable (Undisturbed sampleWorker false)) sampleDispatch
      ls c :=
    (playedDispatch_steps hrun).mono fun _ _ _ h => ⟨h.1, undisturbed_of_claimsAlone h.2⟩
  obtain ⟨_, _, _, hmem⟩ := exists_completion hsucceeded
  obtain ⟨job, result, after, hexecuted, hafter, -⟩ :=
    executedIn_of_completion (Pool.played hsteps false) hmem (by decide)
  have hkeys : scheduledStores.jobs.Keyed := List.nodup_singleton _
  exact ⟨ls, c, job, result, after, hsteps, hafter, hexecuted,
    completed_job_agrees hkeys hsteps hafter hexecuted⟩

/-- The lease of the first worker runs out while its change is deployed. The second claims the
job, is refused the execution and completes the job as failed. The first remediates the case
and then raises. -/
theorem completed_job_disagrees : ∃ ls c job result after,
    Steps (Pool.StepIf dependable fun _ _ => True) sampleDispatch ls c ∧
      (∃ e ∈ (c.threads false).history, isDeploy e = true) ∧ after ≠ [] ∧
      ExecutedIn clockSettings (sampleWorker false) job result (c.threads false).history after ∧
      result.case.state = .remediated ∧ (∃ e, (c.threads false).prog = .raise e) ∧
      ∃ row, JobTable.find c.store.jobs job.jobId = some row ∧ row.state = .failed := by
  have hexists : ∃ run ∈ playedDispatch (fun _ _ => true)
        (List.replicate 30 false ++ [true, true, true] ++ List.replicate 27 false),
      (run.2.threads false).history.any isDeploy = true ∧
        (run.2.threads false).history.any completesSucceeded = true ∧
        (∃ out ∈ (run.2.threads false).prog.outcome?, out.isOk = false) ∧
        ∃ row ∈ JobTable.find run.2.store.jobs "job-1", row.state = .failed := by
    decide +kernel
  obtain ⟨⟨ls, c⟩, hrun, hdeploy, hsucceeded, ⟨out, hout, herror⟩, row, hrow, hfailed⟩ := hexists
  have hsteps := playedDispatch_steps hrun
  obtain ⟨_, _, _, hmem⟩ := exists_completion hsucceeded
  obtain ⟨job, result, after, hexecuted, hafter, hid, hstate, -⟩ :=
    executedIn_of_completion (Pool.played hsteps false) hmem (by decide)
  have hfinished := hexecuted.finished
  rw [hstate] at hfinished
  have hremediated : result.case.state = .remediated := by
    cases hfinished with
    | remediated hremediated => exact hremediated
  have hend := Prog.outcome?_eq_some hout
  obtain ⟨e, rfl⟩ : ∃ e, out = .error e := by
    cases out with
    | ok a => cases herror
    | error e => exact ⟨e, rfl⟩
  refine ⟨ls, c, job, result, after, hsteps.mono fun _ _ _ h => ⟨h.1, trivial⟩,
    List.any_eq_true.mp hdeploy, hafter, hexecuted, hremediated, ⟨e, hend⟩, row, ?_, hfailed⟩
  rw [hid]
  exact hrow

end samples

end ElCapitan
