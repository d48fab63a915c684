import ElCapitan.Dispatch.Footprint
import ElCapitan.Effects.Restarts
import ElCapitan.Stores.JobRows

/-!
# The job of an executed change

Workers call `run_once` beside each other. A claimed job stays with its worker until it is
completed, unless its lease runs out and another worker claims it. Where that does not
happen, the job ends in the state of the outcome and the call returns it.
-/

namespace ElCapitan

open Effects

/-- The job store completes jobs without faults of its own. -/
def dependable : Env operations PyError Stores := fun s o r s' =>
  match o, r with
  | .completeJob jobId workerId state detail, r =>
    s.perform (.completeJob jobId workerId state detail) = some (r, s')
  | o, r => world s o r s'

/-- A completion of a job. -/
def isCompletion : Event operations PyError → Bool
  | ⟨.completeJob _ _ _ _, _⟩ => true
  | _ => false

/-- The states in which a job can be completed. -/
def completedStates : List JobState := [.succeeded, .rolledBack, .contained, .failed]

/-- A worker began by claiming a job. -/
def ClaimedBy (h : Trace) (jobId : String) : Prop :=
  ∃ now workerId leaseUntil job rest,
    h = ⟨.claimDue now workerId leaseUntil, .ok (some job)⟩ :: rest ∧ job.jobId = jobId

/-- What a worker does with jobs: it claims one at its start and completes it once. -/
def DispatchRule (worker : JobWorker) (h : Trace) : Operation → Prop
  | .claimDue _ workerId _ => h = [] ∧ workerId = worker.workerId
  | .completeJob jobId workerId state _ => workerId = worker.workerId ∧ state ∈ completedStates ∧
      ClaimedBy h jobId ∧ ∀ e ∈ h, ∀ jobId workerId state detail completed,
        e ≠ ⟨.completeJob jobId workerId state detail, .ok completed⟩
  | .putJob _ => False
  | _ => True

section program

variable {S : Settings} {worker : JobWorker}

/-- A call of `run_once` claims a job at its start and completes it once. -/
theorem runOnce_obeys : Sat (Env.recording operations PyError) (DispatchRule worker)
    (worker.program S) (fun _ _ => True) [] := by
  unfold JobWorker.program runOnce claimDueJob
  simp only [Prog.bind_eq, Prog.bind_assoc]
  refine sat_bind_ofExcept.mpr ⟨fun leaseUntil _ => ?_, fun _ _ => trivial⟩
  refine Effects.sat_bind_perform.mpr ⟨⟨rfl, rfl⟩, fun claimed => ?_, fun _ => trivial⟩
  cases claimed with
  | none => trivial
  | some job =>
    have hclaimed : ∀ t, ClaimedBy ([⟨.claimDue worker.now worker.workerId leaseUntil,
        .ok (some job)⟩] ++ t) job.jobId := fun t => ⟨_, _, _, job, t, rfl, rfl⟩
    have hnone : ∀ t : Trace, (∀ e ∈ t, JobFree e.op) → ∀ e ∈ ([⟨.claimDue worker.now
        worker.workerId leaseUntil, .ok (some job)⟩] : Trace) ++ t, isCompletion e = false := by
      intro t ht e he
      rcases List.mem_append.mp he with he | he
      · obtain rfl := List.mem_singleton.mp he
        rfl
      · have hfree := ht e he
        obtain ⟨o, r⟩ := e
        cases o <;> first | rfl | cases hfree
    have hfresh : ∀ h : Trace, (∀ e ∈ h, isCompletion e = false) → ∀ e ∈ h,
        ∀ jobId workerId state detail completed,
          e ≠ ⟨.completeJob jobId workerId state detail, .ok completed⟩ := by
      rintro h hh e he jobId workerId state detail completed rfl
      cases hh _ he
    -- a failure is recorded after the events of the execution
    have hfail : ∀ t : Trace, (∀ e ∈ t, JobFree e.op) → ∀ last : Trace,
        (∀ e ∈ last, ∀ jobId workerId state detail completed,
          e ≠ ⟨.completeJob jobId workerId state detail, .ok completed⟩) → ∀ e : PyError,
        Sat (Env.recording operations PyError) (DispatchRule worker)
          (failJob worker.workerId job e) (fun _ _ => True)
          ([⟨.claimDue worker.now worker.workerId leaseUntil, .ok (some job)⟩] ++ t ++ last) := by
      intro t ht last hlast e
      refine Effects.sat_bind_perform.mpr ⟨⟨rfl, by decide, ?_, ?_⟩, fun _ => trivial,
        fun _ => trivial⟩
      · rw [List.append_assoc]
        exact hclaimed _
      · intro e' he'
        rcases List.mem_append.mp he' with he' | he'
        · exact hfresh _ (hnone t ht) e' he'
        · exact hlast e' he'
    refine sat_handle.mpr (sat_bind.mpr ?_)
    have hexecute : (worker.execution S job).Uses JobFree := uses_execute_jobFree
    have hquiet : ∀ (h : Trace) (o : Operation), JobFree o → DispatchRule worker h o := by
      intro h o ho
      cases o <;> trivial
    refine (hexecute.sat_recording hquiet).mono ?_
    rintro (e | result) _ ⟨t, rfl, ht⟩
    · have hfailed := hfail t ht [] (by simp) e
      rw [List.append_nil] at hfailed
      exact hfailed
    · refine Effects.sat_bind_perform.mpr ⟨⟨rfl, ?_, hclaimed t, hfresh _ (hnone t ht)⟩,
        fun _ => trivial, fun e => hfail t ht _ ?_ e⟩
      · unfold completionState completedStates
        split
        · simp
        · split <;> simp
      · rintro e' he' jobId workerId state detail completed rfl
        cases List.mem_singleton.mp he'

end program

section jobs

/-- The job store after a step of the jobs. -/
theorem dependable_claimDue {s s' : Stores} {now workerId leaseUntil : String}
    {r : Except PyError (Option ExecutionJob)}
    (h : dependable s (.claimDue now workerId leaseUntil) r s') :
    (s' = s ∧ ∃ e, r = .error e) ∨
      JobTable.claim s.jobs now workerId leaseUntil = (r, s'.jobs) := by
  rcases world_cases h with h | ⟨rfl, hnone | ⟨e, rfl⟩⟩
  · right
    simp only [Stores.perform, Option.some.injEq] at h
    generalize JobTable.claim s.jobs now workerId leaseUntil = answer at h ⊢
    obtain ⟨answer, jobs⟩ := answer
    cases h
    rfl
  · cases hnone
  · exact .inl ⟨rfl, e, rfl⟩

/-- A dependable store completes a job as its table does. -/
theorem dependable_completeJob {s s' : Stores} {jobId workerId detail : String} {state : JobState}
    {r : Except PyError ExecutionJob}
    (h : dependable s (.completeJob jobId workerId state detail) r s') :
    JobTable.complete s.jobs jobId workerId state detail = (r, s'.jobs) := by
  have hperform : s.perform (.completeJob jobId workerId state detail) = some (r, s') := h
  simp only [Stores.perform, Option.some.injEq] at hperform
  generalize JobTable.complete s.jobs jobId workerId state detail = answer at hperform ⊢
  obtain ⟨answer, jobs⟩ := answer
  cases hperform
  rfl

/-- An operation without jobs leaves the jobs of a dependable store alone. -/
theorem dependable_jobs {s s' : Stores} {o : Operation} {r : Except PyError o.Answer}
    (h : dependable s o r s') (ho : JobFree o) : s'.jobs = s.jobs := by
  cases o
  case putJob | claimDue | completeJob => cases ho
  all_goals exact world_jobs h ho

/-- Job ids stay unique. -/
theorem keyed_dependable {s s' : Stores} {o : Operation} {r : Except PyError o.Answer}
    (h : dependable s o r s') (ho : ∀ job, o ≠ .putJob job) (hkeys : s.jobs.Keyed) :
    s'.jobs.Keyed := by
  by_cases hfree : JobFree o
  · rw [dependable_jobs h hfree]
    exact hkeys
  cases o
  case putJob job => exact absurd rfl (ho job)
  case claimDue now workerId leaseUntil =>
    rcases dependable_claimDue h with ⟨rfl, -⟩ | hclaim
    · exact hkeys
    · have hkeyed := @JobTable.keyed_claim _ workerId now leaseUntil hkeys
      rw [hclaim] at hkeyed
      exact hkeyed
  case completeJob jobId workerId state detail =>
    have hkeyed := @JobTable.keyed_complete _ jobId workerId state detail hkeys
    rw [dependable_completeJob h] at hkeyed
    exact hkeyed
  all_goals exact absurd trivial hfree

end jobs

section board

variable {ι : Type} [DecidableEq ι] (workers : ι → JobWorker) (i : ι)

/-- The job that a `claim_due` takes from the rows is not one that a worker claimed before, and
the worker takes none that another worker with its id claimed before. -/
def Undisturbed : Condition operations PyError Stores ι := fun b l =>
  ∀ now workerId leaseUntil job, l.event.op = .claimDue now workerId leaseUntil →
    (JobTable.claim b.store.jobs now workerId leaseUntil).1 = .ok (some job) →
    (l.thread ≠ i → ¬ClaimedBy (b.histories i) job.jobId) ∧
      (l.thread = i → ∀ j ≠ i, (workers j).workerId = (workers i).workerId →
        ¬ClaimedBy (b.histories j) job.jobId)

/-- The other workers that claimed a job have other ids. -/
def Rivals (b : Board operations PyError Stores ι) (jobId : String) : Prop :=
  ∀ j ≠ i, ClaimedBy (b.histories j) jobId → (workers j).workerId ≠ (workers i).workerId

/-- The row of the job a worker claimed: it is the worker's until the worker completes it. -/
inductive RowKept (workerId : String) (h : Trace) (jobs : JobTable) (jobId : String) : Prop
  | running {row : ExecutionJob} (uncompleted : ∀ e ∈ h, isCompletion e = false)
      (found : JobTable.find jobs jobId = some row) (state : row.state = .running)
      (owner : row.leaseOwner = workerId) : RowKept workerId h jobs jobId
  | completed {state : JobState} {detail : String} {completed row : ExecutionJob}
      (made : ⟨.completeJob jobId workerId state detail, .ok completed⟩ ∈ h)
      (once : ∀ e ∈ h, isCompletion e = true →
        e = ⟨.completeJob jobId workerId state detail, .ok completed⟩)
      (ended : state ∈ completedStates) (found : JobTable.find jobs jobId = some row)
      (recorded : row.state = state) : RowKept workerId h jobs jobId

variable {workers i}

/-- A worker that has claimed a job claimed it with its first step or had claimed it before. -/
theorem claimedBy_snoc {h : Trace} {e : Event operations PyError} {jobId : String}
    (hclaimed : ClaimedBy (h ++ [e]) jobId) : ClaimedBy h jobId ∨
      ∃ now workerId leaseUntil job, h = [] ∧
        e = ⟨.claimDue now workerId leaseUntil, .ok (some job)⟩ ∧ job.jobId = jobId := by
  obtain ⟨now, workerId, leaseUntil, job, rest, heq, hid⟩ := hclaimed
  cases h with
  | nil =>
    obtain ⟨rfl, -⟩ := List.cons.inj heq
    exact .inr ⟨now, workerId, leaseUntil, job, rfl, rfl, hid⟩
  | cons first h =>
    obtain ⟨rfl, rfl⟩ := List.cons.inj heq
    exact .inl ⟨now, workerId, leaseUntil, job, h, rfl, hid⟩

/-- A worker's history claims one job. -/
theorem ClaimedBy.unique {h : Trace} {jobId jobId' : String} (hclaimed : ClaimedBy h jobId)
    (hclaimed' : ClaimedBy h jobId') : jobId = jobId' := by
  obtain ⟨now, workerId, leaseUntil, job, rest, rfl, rfl⟩ := hclaimed
  obtain ⟨now', workerId', leaseUntil', job', rest', heq, rfl⟩ := hclaimed'
  cases heq
  rfl

/-- A row that is kept is not scheduled, and while it runs the worker owns it. -/
theorem RowKept.found_row {workerId jobId : String} {h : Trace} {jobs : JobTable}
    (hkept : RowKept workerId h jobs jobId) :
    ∃ row, JobTable.find jobs jobId = some row ∧ row.state ≠ .scheduled ∧
      (row.state = .running → row.leaseOwner = workerId) := by
  cases hkept with
  | running _ hfound hstate howner => exact ⟨_, hfound, by simp [hstate], fun _ => howner⟩
  | completed _ _ hended hfound hrecorded =>
    refine ⟨_, hfound, ?_⟩
    rw [hrecorded]
    constructor
    · rintro rfl
      exact absurd hended (by decide)
    · rintro rfl
      exact absurd hended (by decide)

/-- Where the row is the same and the worker completed nothing, the row is kept. -/
theorem RowKept.same {workerId jobId : String} {h : Trace} {jobs jobs' : JobTable}
    (hkept : RowKept workerId h jobs jobId)
    (hsame : ∀ row, JobTable.find jobs jobId = some row → JobTable.find jobs' jobId = some row)
    {t : Trace} (ht : ∀ e ∈ t, isCompletion e = false) : RowKept workerId (h ++ t) jobs' jobId := by
  cases hkept with
  | running huncompleted hfound hstate howner =>
    refine .running (fun e he => ?_) (hsame _ hfound) hstate howner
    rcases List.mem_append.mp he with he | he
    · exact huncompleted e he
    · exact ht e he
  | completed hmade honce hended hfound hrecorded =>
    refine .completed (List.mem_append_left _ hmade) (fun e he hcompletion => ?_) hended
      (hsame _ hfound) hrecorded
    rcases List.mem_append.mp he with he | he
    · exact honce e he hcompletion
    · rw [ht e he] at hcompletion
      cases hcompletion

variable (workers i)

/-- What holds of the job of a worker on every board of an undisturbed run. -/
structure Served (b : Board operations PyError Stores ι) : Prop where
  keyed : b.store.jobs.Keyed
  rivals : ∀ jobId, ClaimedBy (b.histories i) jobId → Rivals workers i b jobId
  kept : ∀ jobId, ClaimedBy (b.histories i) jobId →
    RowKept (workers i).workerId (b.histories i) b.store.jobs jobId

/-- One step of workers beside each other that disturbs none of a worker's job. -/
abbrev DispatchStep : Board operations PyError Stores ι → Label operations PyError ι →
    Board operations PyError Stores ι → Prop :=
  Board.StepIf dependable (fun j => DispatchRule (workers j)) (Undisturbed workers i)

variable {workers i} {b b' : Board operations PyError Stores ι} {l : Label operations PyError ι}

/-- What the condition says of a claim that took a job. -/
theorem undisturbed_claim (hstep : DispatchStep workers i b l b')
    {now workerId leaseUntil : String} {job : ExecutionJob}
    (he : l.event = ⟨.claimDue now workerId leaseUntil, .ok (some job)⟩) :
    (l.thread ≠ i → ¬ClaimedBy (b.histories i) job.jobId) ∧
      (l.thread = i → ∀ j ≠ i, (workers j).workerId = (workers i).workerId →
        ¬ClaimedBy (b.histories j) job.jobId) := by
  obtain ⟨hmove, hundisturbed⟩ := hstep
  have hanswered := hmove.answered
  rw [he] at hanswered
  refine hundisturbed now workerId leaseUntil job (by rw [he]) ?_
  rcases dependable_claimDue hanswered with ⟨-, e, herror⟩ | hclaim
  · cases herror
  · rw [hclaim]

/-- The other claimants of the job keep having other ids. -/
theorem Served.rivals_step (hb : Served workers i b) (hstep : DispatchStep workers i b l b')
    {jobId : String} (hclaimed : ClaimedBy (b'.histories i) jobId) : Rivals workers i b' jobId := by
  have hclaim := @undisturbed_claim _ _ _ _ _ _ _ hstep
  obtain ⟨hmove, -⟩ := hstep
  intro j hj hrival
  by_cases hi : l.thread = i
  · have hsame := hmove.history_other fun h => hj (h.trans hi)
    rw [hsame] at hrival
    have hnext := hmove.history_self
    rw [hi] at hnext
    rw [hnext] at hclaimed
    rcases claimedBy_snoc hclaimed with hbefore | ⟨now, workerId, leaseUntil, job, -, he, rfl⟩
    · exact hb.rivals jobId hbefore j hj hrival
    · exact fun hid => (hclaim he).2 hi j hj hid hrival
  · rw [hmove.history_other (Ne.symm hi)] at hclaimed
    by_cases hjl : j = l.thread
    · subst hjl
      rw [hmove.history_self] at hrival
      rcases claimedBy_snoc hrival with hbefore | ⟨now, workerId, leaseUntil, job, -, he, rfl⟩
      · exact hb.rivals jobId hclaimed _ hj hbefore
      · exact absurd hclaimed ((hclaim he).1 hi)
    · rw [hmove.history_other hjl] at hrival
      exact hb.rivals jobId hclaimed j hj hrival

/-- A step of the worker itself. -/
theorem Served.kept_self (hb : Served workers i b) (hstep : DispatchStep workers i b l b')
    (hi : l.thread = i) {jobId : String} (hclaimed : ClaimedBy (b'.histories i) jobId) :
    RowKept (workers i).workerId (b'.histories i) b'.store.jobs jobId := by
  obtain ⟨hmove, -⟩ := hstep
  obtain ⟨k, o, r⟩ := l
  obtain rfl : k = i := hi
  have hpermitted : DispatchRule (workers k) (b.histories k) o := hmove.permitted
  have hanswered : dependable b.store o r b'.store := hmove.answered
  have hnext : b'.histories k = b.histories k ++ [⟨o, r⟩] := hmove.history_self
  rw [hnext] at hclaimed ⊢
  by_cases hfree : JobFree o
  · have hjobs := dependable_jobs hanswered hfree
    rcases claimedBy_snoc hclaimed with hbefore | ⟨now, workerId, leaseUntil, job, -, he, rfl⟩
    · rw [hjobs]
      refine (hb.kept jobId hbefore).same (fun _ hrow => hrow) fun e he => ?_
      obtain rfl := List.mem_singleton.mp he
      cases o <;> first | rfl | cases hfree
    · cases he
      cases hfree
  cases o
  case putJob job => cases hpermitted
  case claimDue now workerId leaseUntil =>
    obtain ⟨hfirst, rfl⟩ := hpermitted
    rw [hfirst] at hclaimed ⊢
    obtain ⟨_, _, _, job, rest, he, rfl⟩ := hclaimed
    cases he
    rcases dependable_claimDue hanswered with ⟨-, e, he⟩ | hclaim
    · cases he
    · obtain ⟨hfound, hstate, howner, -⟩ := JobTable.claim_some hb.keyed hclaim
      refine .running (fun e he => ?_) hfound hstate howner
      obtain rfl := List.mem_singleton.mp he
      rfl
  case completeJob completedId workerId state detail =>
    obtain ⟨rfl, hended, hown, hfresh⟩ := hpermitted
    rcases claimedBy_snoc hclaimed with hbefore | ⟨now, workerId, leaseUntil, job, -, he, rfl⟩
    · obtain rfl := hown.unique hbefore
      have hcomplete := dependable_completeJob hanswered
      cases hb.kept completedId hbefore with
      | running huncompleted hfound hstate howner =>
        obtain ⟨completed, hdone, hrecorded, hrow⟩ :=
          @JobTable.complete_held _ _ _ _ _ detail hb.keyed hfound hstate howner hended
        rw [hdone] at hcomplete
        obtain ⟨rfl, hjobs⟩ := Prod.mk.inj hcomplete
        rw [hjobs] at hrow
        refine .completed (List.mem_append_right _ (List.mem_singleton_self _)) ?_ hended hrow
          hrecorded
        intro e he hcompletion
        rcases List.mem_append.mp he with he | he
        · rw [huncompleted e he] at hcompletion
          cases hcompletion
        · exact List.mem_singleton.mp he
      | completed hmade _ _ _ _ => exact absurd rfl (hfresh _ hmade _ _ _ _ _)
    · cases he
  all_goals exact absurd trivial hfree

/-- A step of another worker. -/
theorem Served.kept_other (hb : Served workers i b) (hstep : DispatchStep workers i b l b')
    (hi : l.thread ≠ i) {jobId : String} (hclaimed : ClaimedBy (b.histories i) jobId) :
    RowKept (workers i).workerId (b.histories i) b'.store.jobs jobId := by
  have hundisturbed := @undisturbed_claim _ _ _ _ _ _ _ hstep
  obtain ⟨hmove, -⟩ := hstep
  obtain ⟨k, o, r⟩ := l
  have hpermitted : DispatchRule (workers k) (b.histories k) o := hmove.permitted
  have hanswered : dependable b.store o r b'.store := hmove.answered
  have hkept := hb.kept jobId hclaimed
  obtain ⟨row, hrow, hunscheduled, howned⟩ := hkept.found_row
  suffices hsame : JobTable.find b'.store.jobs jobId = some row by
    have hrowKept := @RowKept.same _ _ _ _ b'.store.jobs hkept
      (fun other hother => by rw [hrow] at hother; cases hother; exact hsame) [] (by simp)
    rwa [List.append_nil] at hrowKept
  by_cases hfree : JobFree o
  · rw [dependable_jobs hanswered hfree]
    exact hrow
  cases o
  case putJob job => cases hpermitted
  case claimDue now workerId leaseUntil =>
    rcases dependable_claimDue hanswered with ⟨hsame, -⟩ | hclaim
    · rw [hsame]
      exact hrow
    · refine JobTable.find_claim_other hb.keyed hrow hunscheduled hclaim ?_
      rintro job rfl rfl
      exact (hundisturbed rfl).1 hi hclaimed
  case completeJob completedId workerId state detail =>
    obtain ⟨rfl, -, hown, -⟩ := hpermitted
    have hother : completedId ≠ jobId ∨ row.state ≠ .running ∨
        row.leaseOwner ≠ (workers k).workerId := by
      by_cases hid : completedId = jobId
      · subst hid
        by_cases hrunning : row.state = .running
        · refine .inr (.inr fun howner => ?_)
          exact hb.rivals completedId hclaimed k hi hown (howner.symm.trans (howned hrunning))
        · exact .inr (.inl hrunning)
      · exact .inl hid
    have hfound := @JobTable.find_complete_other _ _ _ _ state detail completedId hrow hother
    rw [dependable_completeJob hanswered] at hfound
    exact hfound
  all_goals exact absurd trivial hfree

/-- A step of a worker keeps what the jobs were served with. -/
theorem Served.step (hb : Served workers i b) (hstep : DispatchStep workers i b l b') :
    Served workers i b' where
  keyed := by
    refine keyed_dependable hstep.1.answered ?_ hb.keyed
    intro job ho
    have hpermitted := hstep.1.permitted
    rw [ho] at hpermitted
    exact hpermitted
  rivals _ hclaimed := hb.rivals_step hstep hclaimed
  kept jobId hclaimed := by
    by_cases hi : l.thread = i
    · exact hb.kept_self hstep hi hclaimed
    · have hsame := hstep.1.history_other (Ne.symm hi)
      rw [hsame] at hclaimed ⊢
      exact hb.kept_other hstep hi hclaimed

/-- In every undisturbed run the job of a worker stays its own. -/
theorem served_run {s : Stores} {ls : List (Label operations PyError ι)} (hkeys : s.jobs.Keyed)
    (hrun : Steps (DispatchStep workers i) (Board.start s) ls b) : Served workers i b := by
  refine hrun.stateInvariant (Served workers i) ⟨hkeys, ?_, ?_⟩ fun _ _ _ hb hstep => hb.step hstep
  · rintro jobId ⟨_, _, _, _, _, heq, -⟩
    cases heq
  · rintro jobId ⟨_, _, _, _, _, heq, -⟩
    cases heq

end board

end ElCapitan
