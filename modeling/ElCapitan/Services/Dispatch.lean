import ElCapitan.Services.Execution

/-!
# Dispatching due jobs

`ScheduledExecutionWorker.run_once`: a worker claims one due job, executes the change of its
case and completes the job with the state of the outcome.
-/

namespace ElCapitan

open Effects

/-- `DispatchOutcome`. -/
structure DispatchOutcome where
  job : ExecutionJob
  result : ExecutionOutcome

/-- The completion state of an outcome. -/
def completionState (result : ExecutionOutcome) : JobState :=
  if result.contained then .contained else if result.rolledBack then .rolledBack else .succeeded

/-- `claim_due`, with its default lease of 300 seconds. -/
def claimDueJob (P : Platform) (now workerId : String) : Service (Option ExecutionJob) := do
  let leaseUntil ← .ofExcept (JobTable.leaseTime now P workerId 300)
  perform (.claimDue now workerId leaseUntil)

/-- The part of `run_once` in its `try`. -/
def completeWith (workerId : String) (run : ExecutionJob → Service ExecutionOutcome)
    (job : ExecutionJob) : Service (Option DispatchOutcome) := do
  let result ← run job
  let completed ← perform
    (.completeJob job.jobId workerId (completionState result) result.case.state.value)
  return some ⟨completed, result⟩

/-- The handler of `run_once`. -/
def failJob (workerId : String) (job : ExecutionJob) (e : PyError) :
    Service (Option DispatchOutcome) := do
  let _ ← perform
    (.completeJob job.jobId workerId .failed ("execution worker failed: " ++ e.message))
  .raise e

/-- `ScheduledExecutionWorker.run_once`. -/
def runOnce (P : Platform) (workerId now : String) (run : ExecutionJob → Service ExecutionOutcome) :
    Service (Option DispatchOutcome) := do
  let claimed ← claimDueJob P now workerId
  match claimed with
  | none => return none
  | some job => Prog.handle (completeWith workerId run job) (failJob workerId job)

/-- A worker that executes the changes of due jobs. -/
structure JobWorker where
  workerId : String
  now : String
  components : Components
  originator : String

/-- What a worker does with a claimed job. -/
def JobWorker.execution (S : Settings) (worker : JobWorker) (job : ExecutionJob) :
    Service ExecutionOutcome :=
  execute S worker.components job.caseId worker.originator job.jobId

/-- One call of `run_once`. -/
def JobWorker.program (S : Settings) (worker : JobWorker) : Service (Option DispatchOutcome) :=
  runOnce S.platform worker.workerId worker.now (worker.execution S)

section outcomes

/-- The ways an execution may finish. -/
inductive Finished (result : ExecutionOutcome) : JobState → Prop
  | remediated (state : result.case.state = .remediated) (kept : result.rolledBack = false)
      (open_ : result.contained = false) : Finished result .succeeded
  | rolledBack (state : result.case.state = .rolledBack) (undone : result.rolledBack = true)
      (open_ : result.contained = false) : Finished result .rolledBack
  | contained (state : result.case.state = .blocked) (contained : result.contained = true) :
      Finished result .contained

/-- A finished execution completes its job with its state. -/
theorem Finished.completionState {result : ExecutionOutcome} {state : JobState}
    (h : Finished result state) : completionState result = state := by
  cases h with
  | remediated _ hkept hopen => simp [ElCapitan.completionState, hkept, hopen]
  | rolledBack _ hundone hopen => simp [ElCapitan.completionState, hundone, hopen]
  | contained _ hcontained => simp [ElCapitan.completionState, hcontained]

/-- Applying a transition returns the case in the state the transition leads to. -/
theorem returns_advance {caseId : String} {transition : CaseTransition} {args : TransitionArgs}
    {t : CaseState} (hled : ∀ base target, Leads base args transition target →
      target.toState = t) :
    (advance caseId transition args).Returns fun case => case.state = t := by
  refine Prog.returns_bind fun base => ?_
  cases hnext : transitionCase base transition args with
  | error e => trivial
  | ok next =>
    obtain ⟨case, event⟩ := next
    obtain ⟨target, haccepted⟩ := transitionCase_accepted hnext
    show ((perform (.appendCase case event base.version)).bind fun _ => Prog.ret case).Returns _
    refine Prog.returns_bind fun _ => ?_
    exact haccepted.state.trans (hled base target haccepted.led)

/-- The end of a linear transition. -/
theorem Leads.linear_state {base : RemediationCase} {args : TransitionArgs}
    {transition : CaseTransition} {target : Target} (h : Leads base args transition target)
    (hlinear : transition = .completeRemediation ∨ transition = .completeRollback) :
    linearTransition base.state transition = some target.toState := by
  cases h with
  | linear h => exact h
  | _ => simp at hlinear

/-- A rollback finishes the execution. -/
theorem returns_rollBack {S : Settings} {C : Components} {caseId reason : String}
    {started : Started} {evidenceIds : List String} :
    (rollBack S C caseId started evidenceIds reason).Returns fun result =>
      ∃ state, Finished result state := by
  unfold rollBack
  refine Prog.returns_bind fun now => Prog.returns_bind fun rollbackId => ?_
  refine Prog.returns_bind fun step => Prog.returns_bind fun health => ?_
  refine Prog.returns_bind fun rollbackEvidence => Prog.returns_bind fun rollbackRecord => ?_
  refine Prog.returns_bind fun _ => Prog.returns_bind fun eventId => Prog.returns_bind fun _ => ?_
  split
  · refine Prog.returns_bind fun _ => Prog.returns_bind fun _ => Prog.returns_bind fun _ => ?_
    trivial
  · refine Prog.returns_bind fun verificationId => Prog.returns_bind fun createdAt => ?_
    refine Prog.returns_bind fun verification => Prog.returns_bind fun _ => ?_
    refine Prog.returns_bind fun eventId => Prog.returns_bind fun occurredAt => ?_
    split
    · refine (returns_advance (t := .blocked) ?_).bind fun case hcase => ?_
      · intro base target hled
        cases hled with
        | block _ _ => rfl
        | linear h => cases hs : base.state <;> rw [hs] at h <;> cases h
      · exact ⟨_, .contained hcase rfl⟩
    · refine (returns_advance (t := .rolledBack) ?_).bind fun case hcase => ?_
      · intro base target hled
        have h := hled.linear_state (.inr rfl)
        cases hs : base.state <;> simp [hs, linearTransition] at h
        exact h.symm
      · exact ⟨_, .rolledBack hcase rfl rfl⟩

/-- A completion finishes the execution. -/
theorem returns_completeExecution {caseId originator : String} {started : Started}
    {probes : List ProbeResult} {audit : AgentResult} {accumulated : List String} :
    (completeExecution caseId originator started probes audit accumulated).Returns fun result =>
      ∃ state, Finished result state := by
  unfold completeExecution
  refine Prog.returns_bind fun _ => Prog.returns_bind fun _ => Prog.returns_bind fun _ => ?_
  refine Prog.returns_bind fun _ => Prog.returns_bind fun _ => Prog.returns_bind fun _ => ?_
  refine Prog.returns_bind fun _ => Prog.returns_bind fun _ => Prog.returns_bind fun _ => ?_
  refine Prog.returns_bind fun _ => Prog.returns_bind fun _ => Prog.returns_bind fun _ => ?_
  refine Prog.returns_bind fun _ => Prog.returns_bind fun _ => Prog.returns_bind fun _ => ?_
  refine (returns_advance (t := .remediated) ?_).bind fun case hcase => ?_
  · intro base target hled
    have h := hled.linear_state (.inl rfl)
    cases hs : base.state <;> simp [hs, linearTransition] at h
    exact h.symm
  · exact ⟨_, .remediated hcase rfl rfl⟩

/-- A verification finishes the execution. -/
theorem returns_verifyExecution {S : Settings} {C : Components} {caseId originator : String}
    {started : Started} {case : RemediationCase} {resultRecord : ProductRecord}
    {accumulated : List String} :
    (verifyExecution S C caseId originator started case resultRecord accumulated).Returns
      fun result => ∃ state, Finished result state := by
  unfold verifyExecution
  refine Prog.returns_bind fun probes => Prog.returns_bind fun _ => Prog.returns_bind fun _ => ?_
  dsimp only
  split
  · exact returns_rollBack
  · split
    · exact returns_rollBack
    · refine Prog.returns_bind fun _ => Prog.returns_bind fun task => ?_
      refine Prog.returns_bind fun reply => ?_
      cases reply with
      | error e => exact returns_rollBack
      | ok audit =>
        refine Prog.returns_bind fun contractFailures => ?_
        split
        · exact returns_rollBack
        · refine Prog.returns_bind fun _ => Prog.returns_bind fun _ => ?_
          split
          · exact returns_rollBack
          · split
            · exact returns_rollBack
            · exact returns_completeExecution

/-- An execution that returns finished in one of three ways. -/
theorem returns_execute {S : Settings} {C : Components} {caseId originator jobId : String} :
    (execute S C caseId originator jobId).Returns fun result =>
      ∃ state, Finished result state := by
  refine Prog.returns_bind fun started => ?_
  unfold releaseExecution
  refine Prog.returns_bind fun deployment => Prog.returns_bind fun after => ?_
  refine Prog.returns_bind fun _ => Prog.returns_bind fun _ => ?_
  dsimp only
  split
  · exact returns_rollBack
  · split
    · exact returns_rollBack
    · refine Prog.returns_bind fun _ => Prog.returns_bind fun _ => Prog.returns_bind fun _ => ?_
      refine Prog.returns_bind fun _ => Prog.returns_bind fun _ => Prog.returns_bind fun _ => ?_
      exact Prog.returns_bind fun _ => returns_verifyExecution

end outcomes

end ElCapitan
