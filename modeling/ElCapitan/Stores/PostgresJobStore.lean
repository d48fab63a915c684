import ElCapitan.Stores.JobRows

/-!
# The PostgreSQL job store and the SQLite one

`PostgresExecutionJobStore`, and when it answers a sequence of calls as
`SqliteExecutionJobStore` does. Its `complete` does not record contained executions, and
its column `attempts` is a four-byte integer; nothing else tells the stores apart.
-/

namespace ElCapitan

/-- The largest value of a PostgreSQL `INTEGER`. -/
def maxInteger : ℕ := 2147483647

/-- An integer does not fit its column. -/
def integerOutOfRange : PyError := ⟨.dataError, "integer out of range"⟩

/-- `PostgresExecutionJobStore`, over a database with this collation. -/
def postgresJobStore (P : Platform) (le : Collation) : ExecutionJobStore where
  put jobs job :=
    if maxInteger < job.attempts then (.error integerOutOfRange, jobs)
    else
      match JobTable.put jobs job with
      | .ok jobs' => (.ok (), jobs')
      | .error e => (.error e, jobs)
  get jobs jobId :=
    match JobTable.find jobs jobId with
    | some job => .ok job
    | none => .error (keyError jobId)
  claimDue jobs now workerId leaseSeconds :=
    match JobTable.leaseTime now P workerId leaseSeconds with
    | .error e => (.error e, jobs)
    | .ok leaseUntil =>
      let marked := JobTable.markMissed le jobs now
      match JobTable.firstDue le marked now with
      | none => (.ok none, marked)
      | some job =>
        if maxInteger ≤ job.attempts then (.error integerOutOfRange, jobs)
        else
          let claimed := JobTable.lease marked job.jobId workerId leaseUntil
          -- `RETURNING` answers with the row as it was updated
          match JobTable.find claimed job.jobId with
          | some updated => (.ok (some updated), claimed)
          | none => (.error (keyError job.jobId), jobs)
  complete jobs jobId workerId state detail :=
    if state ∉ [.succeeded, .rolledBack, .failed] then
      (.error (valueError "job completion state must be terminal"), jobs)
    else
      match jobs.find? (JobTable.holds jobId workerId) with
      | some job => (.ok { job with state, detail, leaseOwner := "", leaseUntil := "" },
          JobTable.finish jobs jobId workerId state detail)
      | none => (.error (valueError "job is not leased by this worker"), jobs)

/-- Equal answers: the same value or an exception of the same class, and the same rows. -/
def SameAnswer {α : Type} : JobAnswer α → JobAnswer α → Prop
  | (.ok a, jobs), (.ok b, jobs') => a = b ∧ jobs = jobs'
  | (.error e, jobs), (.error e', jobs') => e.kind = e'.kind ∧ jobs = jobs'
  | _, _ => False

/-- The same answers leave the same rows. -/
theorem SameAnswer.rows {α : Type} {x y : JobAnswer α} (h : SameAnswer x y) : x.2 = y.2 := by
  obtain ⟨rx, jobs⟩ := x
  obtain ⟨ry, jobs'⟩ := y
  cases rx <;> cases ry
  · exact h.2
  · exact h.elim
  · exact h.elim
  · exact h.2

/-- An answer is the same as itself. -/
theorem SameAnswer.refl {α : Type} (x : JobAnswer α) : SameAnswer x x := by
  obtain ⟨rx, jobs⟩ := x
  cases rx <;> exact ⟨rfl, rfl⟩

/-- A call that only SQLite carries out: a contained execution is recorded by the worker that
holds the job, or a job is claimed whose attempts fill their column. -/
def OnlySqlite (P : Platform) (jobs : JobTable) : JobCall → Prop
  | .complete jobId workerId .contained _ => ∃ job ∈ jobs, JobTable.holds jobId workerId job = true
  | .claimDue now workerId leaseSeconds =>
    (∃ leaseUntil, JobTable.leaseTime now P workerId leaseSeconds = .ok leaseUntil) ∧
      ∃ job, JobTable.firstDue binary (JobTable.markMissed binary jobs now) now = some job ∧
        maxInteger ≤ job.attempts
  | _ => False

/-- The rows after calls of the SQLite store. -/
def rowsAfter (P : Platform) (calls : List JobCall) : JobTable :=
  calls.foldl (fun jobs call => ((sqliteJobStore P).answer jobs call).2) []

open JobTable

/-- Every call keeps job ids unique. -/
theorem keyed_answer {P : Platform} {jobs : JobTable} (call : JobCall) (h : Keyed jobs) :
    Keyed ((sqliteJobStore P).answer jobs call).2 := by
  cases call with
  | put jobId caseId executeAt deadline =>
    simp only [ExecutionJobStore.answer, sqliteJobStore]
    cases hput : JobTable.put jobs (scheduledJob jobId caseId executeAt deadline) with
    | ok jobs' => exact keyed_put h hput
    | error e => exact h
  | get jobId => exact h
  | claimDue now workerId leaseSeconds => exact keyed_claimDue h
  | complete jobId workerId state detail => exact keyed_complete h

/-- The two implementations of `claim_due`. -/
theorem same_claimDue {P : Platform} {jobs : JobTable} {now workerId : String} {leaseSeconds : ℤ} :
    SameAnswer ((sqliteJobStore P).claimDue jobs now workerId leaseSeconds)
        ((postgresJobStore P binary).claimDue jobs now workerId leaseSeconds) ↔
      ¬OnlySqlite P jobs (.claimDue now workerId leaseSeconds) := by
  simp only [sqliteJobStore, postgresJobStore, JobTable.claimDue, JobTable.claim, OnlySqlite]
  cases htime : leaseTime now P workerId leaseSeconds with
  | error e => simp [SameAnswer]
  | ok leaseUntil =>
    cases hdue : firstDue binary (markMissed binary jobs now) now with
    | none => simp [SameAnswer]
    | some job =>
      obtain ⟨leased, hleased⟩ :=
        @exists_find_lease _ workerId leaseUntil _ (mem_of_firstDue hdue)
      by_cases hfull : maxInteger ≤ job.attempts
      · simp [SameAnswer, JobTable.get, hleased, hfull, Except.map]
      · simp [SameAnswer, JobTable.get, hleased, hfull, Except.map]

/-- The two implementations of `complete`. -/
theorem same_complete {P : Platform} {jobs : JobTable} {jobId workerId detail : String}
    {state : JobState} (h : Keyed jobs) :
    SameAnswer ((sqliteJobStore P).complete jobs jobId workerId state detail)
        ((postgresJobStore P binary).complete jobs jobId workerId state detail) ↔
      ¬OnlySqlite P jobs (.complete jobId workerId state detail) := by
  simp only [sqliteJobStore, postgresJobStore, JobTable.complete]
  cases hfind : jobs.find? (holds jobId workerId) with
  | none =>
    have hnone : jobs.filter (holds jobId workerId) = [] := by
      rw [List.filter_eq_nil_iff]
      exact List.find?_eq_none.mp hfind
    have hfree : ¬OnlySqlite P jobs (.complete jobId workerId state detail) := by
      cases state
      case contained =>
        rintro ⟨job, hjob, hholds⟩
        exact List.find?_eq_none.mp hfind job hjob hholds
      all_goals exact fun h => h
    cases state <;> simp [SameAnswer, hnone, hfree, valueError]
  | some job =>
    have hmem : job ∈ jobs.filter (holds jobId workerId) :=
      List.mem_filter.mpr ⟨List.mem_of_find?_eq_some hfind, List.find?_some hfind⟩
    have hone : (jobs.filter (holds jobId workerId)).length = 1 := by
      have hle := @filter_holds_length jobs jobId workerId h
      have hpos := List.length_pos_of_mem hmem
      omega
    have hget := @get_finish jobs jobId workerId state detail job h hfind
    have honly : OnlySqlite P jobs (.complete jobId workerId .contained detail) :=
      ⟨job, List.mem_of_find?_eq_some hfind, List.find?_some hfind⟩
    cases state
    case contained => simp [SameAnswer, hone, hget, honly]
    all_goals simp [SameAnswer, hone, hget, OnlySqlite, valueError]

/-- One call is answered alike unless only SQLite carries it out. -/
theorem same_answer {P : Platform} {jobs : JobTable} (call : JobCall) (h : Keyed jobs) :
    SameAnswer ((sqliteJobStore P).answer jobs call)
      ((postgresJobStore P binary).answer jobs call) ↔
      ¬OnlySqlite P jobs call := by
  cases call with
  | put jobId caseId executeAt deadline =>
    have hput : (postgresJobStore P binary).put jobs
      (scheduledJob jobId caseId executeAt deadline) =
        (sqliteJobStore P).put jobs (scheduledJob jobId caseId executeAt deadline) := by
      cases hrow : JobTable.put jobs (scheduledJob jobId caseId executeAt deadline) <;>
        simp [postgresJobStore, sqliteJobStore, hrow, scheduledJob] at hrow ⊢
    simp only [ExecutionJobStore.answer, hput]
    exact iff_of_true (SameAnswer.refl _) id
  | get jobId => exact iff_of_true (SameAnswer.refl _) id
  | claimDue now workerId leaseSeconds => exact same_claimDue
  | complete jobId workerId state detail =>
    rw [← same_complete h]
    simp only [ExecutionJobStore.answer]
    generalize (sqliteJobStore P).complete jobs jobId workerId state detail = x
    generalize (postgresJobStore P binary).complete jobs jobId workerId state detail = y
    obtain ⟨rx, jobs₁⟩ := x
    obtain ⟨ry, jobs₂⟩ := y
    cases rx <;> cases ry <;> simp [SameAnswer, Except.map, Prod.map]

/-- The stores answer a sequence of calls alike from rows with unique ids exactly when it
contains no call that only SQLite carries out. -/
theorem same_answers {P : Platform} {jobs : JobTable} (h : Keyed jobs) (calls : List JobCall) :
    List.Forall₂ SameAnswer ((sqliteJobStore P).answers jobs calls)
        ((postgresJobStore P binary).answers jobs calls) ↔
      ∀ before call after, calls = before ++ call :: after →
        ¬OnlySqlite P (before.foldl (fun jobs call => ((sqliteJobStore P).answer jobs call).2) jobs)
          call := by
  induction calls generalizing jobs with
  | nil =>
    refine iff_of_true .nil fun before call after h => ?_
    simp at h
  | cons call calls ih =>
    simp only [ExecutionJobStore.answers, List.forall₂_cons]
    constructor
    · rintro ⟨hsame, hrest⟩ before other after heq
      rw [← hsame.rows] at hrest
      cases before with
      | nil =>
        cases heq
        exact (same_answer _ h).mp hsame
      | cons first before =>
        cases heq
        exact (ih (keyed_answer _ h)).mp hrest before other after rfl
    · intro hall
      have hsame := (same_answer call h).mpr (hall [] call calls rfl)
      refine ⟨hsame, ?_⟩
      rw [← hsame.rows]
      refine (ih (keyed_answer _ h)).mpr fun before other after heq => ?_
      exact hall (call :: before) other after (by rw [heq]; rfl)

section samples

/-- A job is put and claimed in its window. -/
def sampleClaim : List JobCall :=
  [.put "JOB-1" "CASE-1" "2026-07-18T02:00:00Z" "2026-07-18T04:00:00Z",
    .claimDue "2026-07-18T02:00:00Z" "worker" 300]

/-- The job after it was claimed. -/
def sampleClaimed : ExecutionJob :=
  { scheduledJob "JOB-1" "CASE-1" "2026-07-18T02:00:00Z" "2026-07-18T04:00:00Z" with
    state := .running, attempts := 1, leaseOwner := "worker",
    leaseUntil := "2026-07-18T02:05:00Z" }

/-- The sample's claim leases its job. -/
theorem rowsAfter_sampleClaim : rowsAfter clockPlatform sampleClaim = [sampleClaimed] := by
  decide +kernel

end samples

/-- The two job stores, from empty tables and over a database that compares texts by code
point, answer a sequence of calls alike exactly when none of its calls is one that only
SQLite carries out. -/
theorem jobStores_agree (P : Platform) (le : Collation) (hle : ∀ a b, le a b = binary a b)
    (calls : List JobCall) :
    List.Forall₂ SameAnswer ((sqliteJobStore P).answers [] calls)
        ((postgresJobStore P le).answers [] calls) ↔
      ∀ before call after, calls = before ++ call :: after →
        ¬OnlySqlite P (rowsAfter P before) call := by
  obtain rfl : le = binary := funext fun a => funext (hle a)
  have hempty : Keyed [] := List.nodup_nil
  exact same_answers hempty calls

/-- A rolled back execution is recorded by both stores. -/
theorem jobStores_agree_rolledBack :
    List.Forall₂ SameAnswer
      ((sqliteJobStore clockPlatform).answers []
        (sampleClaim ++ [.complete "JOB-1" "worker" .rolledBack "case rolled_back"]))
      ((postgresJobStore clockPlatform binary).answers []
        (sampleClaim ++ [.complete "JOB-1" "worker" .rolledBack "case rolled_back"])) := by
  refine (jobStores_agree clockPlatform binary (fun _ _ => rfl) _).mpr ?_
  intro before call after heq
  match before, heq with
  | [], heq =>
    cases heq
    exact id
  | [_], heq =>
    cases heq
    rintro ⟨-, job, hdue, hfull⟩
    have hjob : firstDue binary (markMissed binary
        [scheduledJob "JOB-1" "CASE-1" "2026-07-18T02:00:00Z" "2026-07-18T04:00:00Z"]
        "2026-07-18T02:00:00Z") "2026-07-18T02:00:00Z" =
      some (scheduledJob "JOB-1" "CASE-1" "2026-07-18T02:00:00Z" "2026-07-18T04:00:00Z") := by
      decide +kernel
    obtain rfl := Option.some.inj (hjob.symm.trans hdue)
    exact absurd hfull (by decide)
  | [_, _], heq =>
    cases heq
    exact id
  | _ :: _ :: _ :: rest, heq => cases rest <;> cases heq

/-- A contained execution is recorded by SQLite alone. -/
theorem jobStores_disagree_contained :
    ¬∀ calls, List.Forall₂ SameAnswer ((sqliteJobStore clockPlatform).answers [] calls)
      ((postgresJobStore clockPlatform binary).answers [] calls) := by
  intro hall
  have hempty : Keyed [] := List.nodup_nil
  have hsame := hall (sampleClaim ++ [.complete "JOB-1" "worker" .contained "case blocked"])
  refine (same_answers hempty _).mp hsame sampleClaim _ [] rfl ?_
  have hrows := rowsAfter_sampleClaim
  rw [rowsAfter] at hrows
  rw [hrows]
  exact ⟨sampleClaimed, List.mem_singleton_self _, by decide⟩

end ElCapitan
