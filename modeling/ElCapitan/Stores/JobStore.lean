import ElCapitan.Base.Platform
import ElCapitan.Stores.RecordStore
import Mathlib.Data.List.Sort

/-!
# The execution job store

`ExecutionJobStore` and its SQLite implementation: a job is put once, claimed under a
lease when its window is open, and completed by the worker that holds the lease. The
statements of `claim_due` compare texts in the collation of the database.
-/

namespace ElCapitan

/-- The order in which a database compares texts. -/
abbrev Collation := String → String → Bool

/-- SQLite's default collation `BINARY`. -/
def binary : Collation := fun a b => decide (a ≤ b)

/-- `utc_text(value + timedelta(seconds=seconds))`. -/
def utcTextAfter (P : Platform) (value : DateTime) (seconds : ℤ) : Except PyError String :=
  match P.utcFromTimestamp ((value.instant / 1000000 + seconds : ℤ) : ℚ) with
  | some text => .ok text
  | none => .error ⟨.overflowError, "date value out of range"⟩

/-- The job `ExecutionScheduler.schedule` puts. -/
def scheduledJob (jobId caseId executeAt deadline : String) : ExecutionJob :=
  { jobId, caseId, executeAt, deadline, state := .scheduled, attempts := 0 }

/-- What a store answers, and the rows after it. A raised exception rolls back. -/
abbrev JobAnswer (α : Type) := Except PyError α × JobTable

namespace JobTable

variable (le : Collation) (jobs : JobTable) (now : String)

/-- `SELECT * FROM execution_jobs WHERE job_id = ?`. -/
def find (jobId : String) : Option ExecutionJob := jobs.find? fun job => job.jobId = jobId

/-- `UPDATE execution_jobs SET … WHERE …`. -/
def update (p : ExecutionJob → Bool) (f : ExecutionJob → ExecutionJob) : JobTable :=
  jobs.map fun job => if p job then f job else job

/-- Scheduled jobs whose window has elapsed become missed. -/
def markMissed : JobTable :=
  update jobs (fun job => job.state = .scheduled && le job.deadline now) fun job =>
    { job with state := .missed, detail := "approved window elapsed before execution" }

/-- The window of a job is open and no lease on it runs. -/
def claimable (job : ExecutionJob) : Bool :=
  le job.executeAt now && !le job.deadline now &&
    (job.state = .scheduled || (job.state = .running && le job.leaseUntil now))

/-- `ORDER BY execute_at, job_id`. -/
def dueBefore (a b : ExecutionJob) : Bool :=
  if a.executeAt = b.executeAt then le a.jobId b.jobId else le a.executeAt b.executeAt

/-- The first claimable job. -/
def firstDue : Option ExecutionJob :=
  ((jobs.filter (claimable le now)).insertionSort fun a b => dueBefore le a b = true).head?

/-- Give a worker the lease on a job. -/
def lease (jobId workerId leaseUntil : String) : JobTable :=
  update jobs (fun job => job.jobId = jobId) fun job =>
    { job with state := .running, attempts := job.attempts + 1, leaseOwner := workerId, leaseUntil }

/-- A worker holds the lease on a job. -/
def holds (jobId workerId : String) (job : ExecutionJob) : Bool :=
  job.jobId = jobId && job.state = .running && job.leaseOwner = workerId

/-- Record the state of a job and release its lease. -/
def finish (jobId workerId : String) (state : JobState) (detail : String) : JobTable :=
  update jobs (holds jobId workerId) fun job =>
    { job with state, detail, leaseOwner := "", leaseUntil := "" }

/-- `SqliteExecutionJobStore.get`. -/
def get (jobId : String) : Except PyError ExecutionJob :=
  match find jobs jobId with
  | some job => .ok job
  | none => .error (keyError jobId)

/-- The checks and the lease time at the head of `claim_due`. -/
def leaseTime (P : Platform) (workerId : String) (leaseSeconds : ℤ) : Except PyError String := do
  raiseIf (workerId = "" ∨ leaseSeconds ≤ 0)
    (valueError "worker id and positive lease are required")
  let current ← parseTimestamp P now
  utcTextAfter P current leaseSeconds

/-- The transaction of `claim_due`: the worker gets the first due job under a lease. -/
def claim (workerId leaseUntil : String) : JobAnswer (Option ExecutionJob) :=
  let marked := markMissed binary jobs now
  match firstDue binary marked now with
  | none => (.ok none, marked)
  | some job =>
    -- the claimed job is read back after the commit
    let claimed := lease marked job.jobId workerId leaseUntil
    ((get claimed job.jobId).map some, claimed)

/-- `SqliteExecutionJobStore.claim_due`. -/
def claimDue (P : Platform) (workerId : String) (leaseSeconds : ℤ) :
    JobAnswer (Option ExecutionJob) :=
  match leaseTime now P workerId leaseSeconds with
  | .error e => (.error e, jobs)
  | .ok leaseUntil => claim jobs now workerId leaseUntil

/-- `SqliteExecutionJobStore.complete`. -/
def complete (jobId workerId : String) (state : JobState) (detail : String) :
    JobAnswer ExecutionJob :=
  if state ∉ [.succeeded, .rolledBack, .contained, .failed] then
    (.error (valueError "job completion state must be terminal"), jobs)
  else if (jobs.filter (holds jobId workerId)).length ≠ 1 then
    (.error (valueError "job is not leased by this worker"), jobs)
  else
    let finished := finish jobs jobId workerId state detail
    (get finished jobId, finished)

/-- What neither the lease nor the state of a job decides. -/
abbrev Lasting {β : Type} (g : ExecutionJob → β) : Prop :=
  ∀ (job : ExecutionJob) (state : JobState) (attempts : ℕ) (leaseOwner leaseUntil detail : String),
    g { job with state, attempts, leaseOwner, leaseUntil, detail } = g job

variable {jobs} {now} {β : Type} {g : ExecutionJob → β}

/-- An update keeps a field that it does not set. -/
theorem map_update {p : ExecutionJob → Bool} {f : ExecutionJob → ExecutionJob}
    (hf : ∀ job, g (f job) = g job) : (update jobs p f).map g = jobs.map g := by
  unfold update
  rw [List.map_map]
  refine List.map_congr_left fun job _ => ?_
  by_cases hp : p job = true <;> simp [hp, hf]

/-- Claiming changes nothing lasting of any job. -/
theorem map_claim (hg : Lasting g) (workerId leaseUntil : String) :
    (claim jobs now workerId leaseUntil).2.map g = jobs.map g := by
  have hmarked : (markMissed binary jobs now).map g = jobs.map g :=
    map_update fun job => hg job _ _ _ _ _
  unfold claim lease
  dsimp only
  split
  · exact hmarked
  · rw [← hmarked]
    exact map_update fun job => hg job _ _ _ _ _

/-- Completing changes nothing lasting of any job. -/
theorem map_complete (hg : Lasting g) (jobId workerId : String) (state : JobState)
    (detail : String) : (complete jobs jobId workerId state detail).2.map g = jobs.map g := by
  unfold complete
  split
  · rfl
  · split
    · rfl
    · exact map_update fun job => hg job _ _ _ _ _

/-- The row of a job after an update. -/
theorem find_update {p : ExecutionJob → Bool} {f : ExecutionJob → ExecutionJob}
    (hf : ∀ job, (f job).jobId = job.jobId) (jobId : String) :
    find (update jobs p f) jobId = (find jobs jobId).map fun job =>
      if p job then f job else job := by
  unfold find update
  rw [List.find?_map]
  congr 1
  refine congrArg (fun q => List.find? q jobs) ?_
  funext job
  by_cases hp : p job = true <;> simp [hp, hf]

end JobTable

/-- The interface `ExecutionJobStore`, over the rows of `execution_jobs`. -/
structure ExecutionJobStore where
  put : JobTable → ExecutionJob → JobAnswer Unit
  get : JobTable → String → Except PyError ExecutionJob
  claimDue : JobTable → (now workerId : String) → (leaseSeconds : ℤ) →
    JobAnswer (Option ExecutionJob)
  complete : JobTable → (jobId workerId : String) → (state : JobState) → (detail : String) →
    JobAnswer ExecutionJob

/-- `SqliteExecutionJobStore`. -/
def sqliteJobStore (P : Platform) : ExecutionJobStore where
  put jobs job :=
    match JobTable.put jobs job with
    | .ok jobs' => (.ok (), jobs')
    | .error e => (.error e, jobs)
  get := JobTable.get
  claimDue jobs now := JobTable.claimDue jobs now P
  complete := JobTable.complete

/-- A call of a job store, with what the scheduler and the workers pass. -/
inductive JobCall where
  | put (jobId caseId executeAt deadline : String)
  | get (jobId : String)
  | claimDue (now workerId : String) (leaseSeconds : ℤ)
  | complete (jobId workerId : String) (state : JobState) (detail : String)

namespace ExecutionJobStore

variable (store : ExecutionJobStore)

/-- One call; `none` stands for an answer without a job. -/
def answer (jobs : JobTable) : JobCall → JobAnswer (Option ExecutionJob)
  | .put jobId caseId executeAt deadline =>
    (store.put jobs (scheduledJob jobId caseId executeAt deadline)).map
      (fun result => result.map fun _ => none) id
  | .get jobId => ((store.get jobs jobId).map some, jobs)
  | .claimDue now workerId leaseSeconds => store.claimDue jobs now workerId leaseSeconds
  | .complete jobId workerId state detail =>
    (store.complete jobs jobId workerId state detail).map (fun result => result.map some) id

/-- The answers to calls issued one after another, each with the rows after it. -/
def answers : JobTable → List JobCall → List (JobAnswer (Option ExecutionJob))
  | _, [] => []
  | jobs, call :: calls =>
    store.answer jobs call :: answers (store.answer jobs call).2 calls

end ExecutionJobStore

section samples

/-- A number below 100 in two digits. -/
def twoDigits (n : ℕ) : String := decimalOf (n / 10 % 10) ++ decimalOf (n % 10)

/-- `utc_text` of an instant in July 2026. -/
def sampleUtc (seconds : ℚ) : Option String :=
  let since := seconds.floor - 1782777600
  if 86400 ≤ since ∧ since < 32 * 86400 then
    let s := since.toNat
    some ("2026-07-" ++ twoDigits (s / 86400) ++ "T" ++ twoDigits (s / 3600 % 24) ++ ":" ++
      twoDigits (s / 60 % 60) ++ ":" ++ twoDigits (s % 60) ++ "Z")
  else none

/-- The sample platform with a calendar. -/
def clockPlatform : Platform := { samplePlatform with utcFromTimestamp := sampleUtc }

end samples

end ElCapitan
