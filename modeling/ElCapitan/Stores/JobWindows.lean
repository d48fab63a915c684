import ElCapitan.Stores.PostgresJobStore

/-!
# Claims and the instants of a window

`claim_due` compares times as texts. Its answer keeps to the window of the claimed job, and
it marks exactly the elapsed jobs as missed, when the order of those texts is the order of
the instants they denote.
-/

namespace ElCapitan

open JobTable

/-- The stores of `execution_jobs` that are kept in a database, with the order in which the
database compares texts. -/
inductive DurableJobStore (P : Platform) : Collation → ExecutionJobStore → Prop
  | sqlite : DurableJobStore P binary (sqliteJobStore P)
  | postgres (le : Collation) : DurableJobStore P le (postgresJobStore P le)

/-- A collation orders the texts: as documented, equal places mean equal texts. -/
structure Ordered (le : Collation) : Prop where
  total : ∀ a b, le a b = true ∨ le b a = true
  trans : ∀ a b c, le a b = true → le b c = true → le a c = true
  antisymm : ∀ a b, le a b = true → le b a = true → a = b

/-- The binary collation is an order. -/
theorem ordered_binary : Ordered binary where
  total a b := by simpa [binary] using String.le_total a b
  trans a b c hab hbc := by
    simp only [binary, decide_eq_true_eq] at hab hbc ⊢
    exact String.le_trans hab hbc
  antisymm a b hab hba := by
    simp only [binary, decide_eq_true_eq] at hab hba
    exact String.le_antisymm hab hba

section due

variable {le : Collation} {jobs : JobTable} {now : String} {job : ExecutionJob}

/-- Of two jobs one is due before the other. -/
theorem Ordered.dueBefore_total (h : Ordered le) (a b : ExecutionJob) :
    dueBefore le a b = true ∨ dueBefore le b a = true := by
  unfold dueBefore
  by_cases htime : a.executeAt = b.executeAt
  · simpa [htime] using h.total a.jobId b.jobId
  · simpa [htime, Ne.symm htime] using h.total a.executeAt b.executeAt

/-- Being due before is transitive. -/
theorem Ordered.dueBefore_trans (h : Ordered le) {a b c : ExecutionJob}
    (hab : dueBefore le a b = true) (hbc : dueBefore le b c = true) :
    dueBefore le a c = true := by
  unfold dueBefore at hab hbc ⊢
  by_cases htime : a.executeAt = b.executeAt
  · rw [if_pos htime] at hab
    by_cases htime' : b.executeAt = c.executeAt
    · rw [if_pos htime'] at hbc
      rw [if_pos (htime.trans htime')]
      exact h.trans _ _ _ hab hbc
    · rw [if_neg htime'] at hbc
      rw [if_neg (htime ▸ htime'), htime]
      exact hbc
  · rw [if_neg htime] at hab
    by_cases htime' : b.executeAt = c.executeAt
    · rw [if_neg (htime' ▸ htime), ← htime']
      exact hab
    · rw [if_neg htime'] at hbc
      have hne : a.executeAt ≠ c.executeAt := by
        intro heq
        rw [← heq] at hbc
        exact htime (h.antisymm _ _ hab hbc)
      rw [if_neg hne]
      exact h.trans _ _ _ hab hbc

/-- Two jobs at one place have one id. -/
theorem Ordered.jobId_of_dueBefore (h : Ordered le) {a b : ExecutionJob}
    (hab : dueBefore le a b = true) (hba : dueBefore le b a = true) : a.jobId = b.jobId := by
  unfold dueBefore at hab hba
  by_cases htime : a.executeAt = b.executeAt
  · rw [if_pos htime] at hab
    rw [if_pos htime.symm] at hba
    exact h.antisymm _ _ hab hba
  · rw [if_neg htime] at hab
    rw [if_neg (Ne.symm htime)] at hba
    exact absurd (h.antisymm _ _ hab hba) htime

/-- A job the statement finds claimable, before all others it does. -/
structure First (le : Collation) (jobs : JobTable) (now : String) (job : ExecutionJob) : Prop where
  stored : job ∈ jobs
  claimable : JobTable.claimable le now job = true
  before : ∀ other ∈ jobs, JobTable.claimable le now other = true → dueBefore le job other = true

/-- The selected job is the first one. -/
theorem firstDue_first (hle : Ordered le) (h : firstDue le jobs now = some job) :
    First le jobs now job := by
  obtain ⟨hmem, hclaimable⟩ := firstDue_mem h
  refine ⟨hmem, hclaimable, ?_⟩
  intro other hother hclaim
  have htotal : Std.Total fun a b => dueBefore le a b = true := ⟨hle.dueBefore_total⟩
  have htrans : IsTrans ExecutionJob fun a b => dueBefore le a b = true :=
    ⟨fun _ _ _ => hle.dueBefore_trans⟩
  have hsorted := List.pairwise_insertionSort (fun a b => dueBefore le a b = true)
    (jobs.filter (JobTable.claimable le now))
  have hin : other ∈ (jobs.filter (JobTable.claimable le now)).insertionSort
      fun a b => dueBefore le a b = true := by
    rw [List.mem_insertionSort]
    exact List.mem_filter.mpr ⟨hother, hclaim⟩
  unfold firstDue at h
  cases hlist : (jobs.filter (JobTable.claimable le now)).insertionSort
      fun a b => dueBefore le a b = true with
  | nil =>
    rw [hlist] at h
    cases h
  | cons head rest =>
    rw [hlist] at h hsorted hin
    obtain rfl : head = job := Option.some.inj h
    rcases List.mem_cons.mp hin with rfl | hrest
    · rcases hle.dueBefore_total other other with hself | hself <;> exact hself
    · exact (List.pairwise_cons.mp hsorted).1 other hrest

/-- No two jobs are first. -/
theorem First.unique (hle : Ordered le) (hkeys : Keyed jobs) {other : ExecutionJob}
    (h : First le jobs now job) (h' : First le jobs now other) : job = other := by
  have hid := hle.jobId_of_dueBefore (h.before other h'.stored h'.claimable)
    (h'.before job h.stored h.claimable)
  have hfound := find_of_mem hkeys h.stored
  rw [hid, find_of_mem hkeys h'.stored] at hfound
  exact (Option.some.inj hfound).symm

/-- Marking elapsed jobs as missed hides none that the statement finds claimable. -/
theorem mem_markMissed_claimable :
    (job ∈ markMissed le jobs now ∧ claimable le now job = true) ↔
      (job ∈ jobs ∧ claimable le now job = true) := by
  unfold markMissed update
  constructor
  · rintro ⟨hmem, hclaimable⟩
    obtain ⟨row, hrow, rfl⟩ := List.mem_map.mp hmem
    split at hclaimable
    · simp [claimable] at hclaimable
    · rename_i hlive
      rw [if_neg hlive]
      exact ⟨hrow, hclaimable⟩
  · rintro ⟨hmem, hclaimable⟩
    refine ⟨List.mem_map.mpr ⟨job, hmem, ?_⟩, hclaimable⟩
    have hopen : le job.deadline now = false := by
      simp only [claimable, Bool.and_eq_true, Bool.not_eq_true'] at hclaimable
      exact hclaimable.1.2
    simp [hopen]

/-- Marking missed jobs keeps the first due job. -/
theorem first_markMissed :
    First le (markMissed le jobs now) now job ↔ First le jobs now job := by
  constructor
  · intro h
    obtain ⟨hstored, hclaimable⟩ := mem_markMissed_claimable.mp ⟨h.stored, h.claimable⟩
    refine ⟨hstored, hclaimable, ?_⟩
    intro other hother hclaim
    exact h.before other (mem_markMissed_claimable.mpr ⟨hother, hclaim⟩).1 hclaim
  · intro h
    obtain ⟨hstored, hclaimable⟩ := mem_markMissed_claimable.mpr ⟨h.stored, h.claimable⟩
    refine ⟨hstored, hclaimable, ?_⟩
    intro other hother hclaim
    exact h.before other (mem_markMissed_claimable.mp ⟨hother, hclaim⟩).1 hclaim

end due

section claims

variable {P : Platform} {le : Collation} {store : ExecutionJobStore} {jobs jobs' : JobTable}
  {now workerId : String} {leaseSeconds : ℤ} {result : Option ExecutionJob}

/-- A call that returns leaves the elapsed jobs marked, and leases the first job if there is
one. -/
theorem DurableJobStore.claimDue_cases (hstore : DurableJobStore P le store) (hkeys : Keyed jobs)
    (hcall : store.claimDue jobs now workerId leaseSeconds = (.ok result, jobs')) :
    (firstDue le (markMissed le jobs now) now = none ∧ result = none ∧
        jobs' = markMissed le jobs now) ∨
      ∃ due leaseUntil, firstDue le (markMissed le jobs now) now = some due ∧
        result = some (due.leasedTo workerId leaseUntil) ∧
        jobs' = lease (markMissed le jobs now) due.jobId workerId leaseUntil := by
  have hmarked : Keyed (markMissed le jobs now) := keyed_markMissed hkeys
  have hleased : ∀ due leaseUntil, firstDue le (markMissed le jobs now) now = some due →
      find (lease (markMissed le jobs now) due.jobId workerId leaseUntil) due.jobId =
        some (due.leasedTo workerId leaseUntil) := by
    intro due leaseUntil hdue
    rw [find_lease, find_of_mem hmarked (firstDue_mem hdue).1]
    simp
  cases hstore with
  | sqlite =>
    simp only [sqliteJobStore, claimDue] at hcall
    cases htime : leaseTime now P workerId leaseSeconds with
    | error e =>
      rw [htime] at hcall
      cases hcall
    | ok leaseUntil =>
      rw [htime] at hcall
      simp only [claim] at hcall
      cases hdue : firstDue binary (markMissed binary jobs now) now with
      | none =>
        rw [hdue] at hcall
        cases hcall
        exact .inl ⟨rfl, rfl, rfl⟩
      | some due =>
        rw [hdue] at hcall
        simp only [get_eq_ok.mpr (hleased due leaseUntil hdue)] at hcall
        cases hcall
        exact .inr ⟨due, leaseUntil, rfl, rfl, rfl⟩
  | postgres =>
    simp only [postgresJobStore] at hcall
    cases htime : leaseTime now P workerId leaseSeconds with
    | error e =>
      rw [htime] at hcall
      cases hcall
    | ok leaseUntil =>
      rw [htime] at hcall
      cases hdue : firstDue le (markMissed le jobs now) now with
      | none =>
        rw [hdue] at hcall
        cases hcall
        exact .inl ⟨rfl, rfl, rfl⟩
      | some due =>
        rw [hdue] at hcall
        dsimp only at hcall
        by_cases hfull : maxInteger ≤ due.attempts
        · rw [if_pos hfull] at hcall
          cases hcall
        · rw [if_neg hfull, hleased due leaseUntil hdue] at hcall
          cases hcall
          exact .inr ⟨due, leaseUntil, rfl, rfl, rfl⟩

/-- The jobs that are missed after a call. -/
theorem DurableJobStore.missed_after (hstore : DurableJobStore P le store) (hkeys : Keyed jobs)
    (hcall : store.claimDue jobs now workerId leaseSeconds = (.ok result, jobs'))
    {row : ExecutionJob} (hrow : row ∈ jobs) :
    (∃ row', find jobs' row.jobId = some row' ∧ row'.state = .missed) ↔
      row.state = .missed ∨ (row.state = .scheduled ∧ le row.deadline now = true) := by
  have hfound := find_of_mem hkeys hrow
  have hmarked : find (markMissed le jobs now) row.jobId =
      some (if row.state = .scheduled && le row.deadline now then
        { row with state := .missed, detail := "approved window elapsed before execution" }
        else row) := by
    rw [find_markMissed, hfound]
    rfl
  have hmissed : (∃ row', find (markMissed le jobs now) row.jobId = some row' ∧
      row'.state = .missed) ↔
        row.state = .missed ∨ (row.state = .scheduled ∧ le row.deadline now = true) := by
    rw [hmarked]
    by_cases helapsed : row.state = .scheduled ∧ le row.deadline now = true
    · simp [helapsed.1, helapsed.2]
    · have hcond : (decide (row.state = .scheduled) && le row.deadline now) = false := by
        rw [← Bool.not_eq_true, Bool.and_eq_true, decide_eq_true_eq]
        exact helapsed
      simp [hcond, helapsed]
  rcases hstore.claimDue_cases hkeys hcall with ⟨-, -, rfl⟩ | ⟨due, leaseUntil, hdue, -, rfl⟩
  · exact hmissed
  · rw [← hmissed, find_lease]
    have hdueMem := firstDue_mem hdue
    have hdueState : due.state ≠ .missed := by
      intro hstate
      have hclaimable := hdueMem.2
      simp [claimable, hstate] at hclaimable
    by_cases hid : row.jobId = due.jobId
    · have hdueRow : find (markMissed le jobs now) row.jobId = some due := by
        rw [hid]
        exact find_of_mem (keyed_markMissed hkeys) hdueMem.1
      rw [hdueRow]
      simp [hdueState, ExecutionJob.leasedTo]
    · rw [hmarked]
      have hkept : ∀ job : ExecutionJob, job.jobId = row.jobId →
          (if job.jobId = due.jobId then job.leasedTo workerId leaseUntil else job) = job := by
        intro job hjob
        rw [if_neg (by rw [hjob]; exact hid)]
      rw [Option.map_some, hkept]
      split <;> rfl

/-- What a claim owes to the windows: the claimed job is in its window at the instant of the
call, the scheduled jobs whose window has elapsed are the ones marked, and a running job is
claimed again only after its lease. -/
structure KeepsWindows (P : Platform) (jobs : JobTable) (now : String)
    (result : Option ExecutionJob) (jobs' : JobTable) : Prop where
  opened : ∀ job, result = some job →
    notAfter P job.executeAt now = .ok true ∧ notAfter P job.deadline now = .ok false
  missed : ∀ row ∈ jobs, (row.state ≠ .missed ∧
      ∃ row', find jobs' row.jobId = some row' ∧ row'.state = .missed) ↔
    row.state = .scheduled ∧ notAfter P row.deadline now = .ok true
  expired : ∀ job, result = some job → ∀ row ∈ jobs, row.jobId = job.jobId →
    row.state = .running → notAfter P row.leaseUntil now = .ok true

/-- The database finds the order of the instants by comparing their texts. -/
def TellsOrder (P : Platform) (le : Collation) (text now : String) : Prop :=
  notAfter P text now = .ok (le text now)

/-- The texts tell the order of the instants wherever the statements of `claim_due` depend on
it: at the deadlines of scheduled jobs, and at the times of the first claimable job. -/
structure TellsTime (P : Platform) (le : Collation) (jobs : JobTable) (now : String) : Prop where
  deadlines : ∀ row ∈ jobs, row.state = .scheduled → TellsOrder P le row.deadline now
  first : ∀ job, First le jobs now job → TellsOrder P le job.executeAt now ∧
    TellsOrder P le job.deadline now ∧
    (job.state = .running → TellsOrder P le job.leaseUntil now)

/-- The three comparisons that make a job claimable. -/
theorem claimable_texts {job : ExecutionJob} (h : claimable le now job = true) :
    le job.executeAt now = true ∧ le job.deadline now = false ∧
      (job.state = .running → le job.leaseUntil now = true) := by
  simp only [claimable, Bool.and_eq_true, Bool.or_eq_true, Bool.not_eq_true',
    decide_eq_true_eq] at h
  refine ⟨h.1.1, h.1.2, ?_⟩
  intro hrunning
  rcases h.2 with hscheduled | hexpired
  · rw [hrunning] at hscheduled
    cases hscheduled
  · exact hexpired.2

/-- A call that returns knows the instant it was made for. -/
theorem DurableJobStore.claimDue_now (hstore : DurableJobStore P le store)
    (hcall : store.claimDue jobs now workerId leaseSeconds = (.ok result, jobs')) :
    ∃ time, parseTimestamp P now = .ok time := by
  have hlease : ∃ leaseUntil, leaseTime now P workerId leaseSeconds = .ok leaseUntil := by
    cases htime : leaseTime now P workerId leaseSeconds with
    | ok leaseUntil => exact ⟨leaseUntil, rfl⟩
    | error e =>
      cases hstore with
      | sqlite =>
        simp only [sqliteJobStore, claimDue, htime] at hcall
        cases hcall
      | postgres =>
        simp only [postgresJobStore, htime] at hcall
        cases hcall
  obtain ⟨leaseUntil, htime⟩ := hlease
  unfold leaseTime at htime
  obtain ⟨_, _, htime⟩ := except_bind_eq_ok.mp htime
  obtain ⟨time, hnow, _⟩ := except_bind_eq_ok.mp htime
  exact ⟨time, hnow⟩

/-- On texts that denote instants a comparison has an answer. -/
theorem notAfter_total {left right : String} {l r : DateTime}
    (hl : parseTimestamp P left = .ok l) (hr : parseTimestamp P right = .ok r) :
    notAfter P left right = .ok true ∨ notAfter P left right = .ok false := by
  unfold notAfter
  rw [hl, hr]
  by_cases hle : l.instant ≤ r.instant
  · left
    simp [bind, Except.bind, pure, Except.pure, hle]
  · right
    simp only [bind, Except.bind, pure, Except.pure, Except.ok.injEq, decide_eq_false_iff_not]
    exact hle

/-- A claim keeps to the windows exactly when the texts tell the time. -/
theorem claimDue_keeps_windows_iff (hle : Ordered le) (hstore : DurableJobStore P le store)
    (hkeys : Keyed jobs)
    (hparse : ∀ row ∈ jobs, row.state = .scheduled →
      ∃ time, parseTimestamp P row.deadline = .ok time)
    (hcall : store.claimDue jobs now workerId leaseSeconds = (.ok result, jobs')) :
    KeepsWindows P jobs now result jobs' ↔ TellsTime P le jobs now := by
  have hmissed := fun row (hrow : row ∈ jobs) => hstore.missed_after hkeys hcall hrow
  have hdeadline : ∀ row ∈ jobs, row.state = .scheduled →
      ((le row.deadline now = true ↔ notAfter P row.deadline now = .ok true) ↔
        TellsOrder P le row.deadline now) := by
    intro row hrow hstate
    obtain ⟨last, hlast⟩ := hparse row hrow hstate
    obtain ⟨time, htime⟩ := hstore.claimDue_now hcall
    unfold TellsOrder
    rcases notAfter_total hlast htime with heq | heq <;> rw [heq] <;>
      cases le row.deadline now <;> simp
  -- the job a call returns is the first claimable one, under a lease
  have hresult : ∀ job, First le jobs now job →
      ∃ leaseUntil, result = some (job.leasedTo workerId leaseUntil) := by
    intro job hfirst
    rcases hstore.claimDue_cases hkeys hcall with ⟨hnone, -, -⟩ | ⟨due, leaseUntil, hdue, hres, -⟩
    · have hin := mem_markMissed_claimable.mpr ⟨hfirst.stored, hfirst.claimable⟩
      unfold firstDue at hnone
      rw [List.head?_eq_none_iff] at hnone
      have hmem : job ∈ ((markMissed le jobs now).filter (claimable le now)).insertionSort
          fun a b => dueBefore le a b = true := by
        rw [List.mem_insertionSort]
        exact List.mem_filter.mpr hin
      rw [hnone] at hmem
      cases hmem
    · have hsame := First.unique hle hkeys (first_markMissed.mp (firstDue_first hle hdue)) hfirst
      rw [← hsame]
      exact ⟨leaseUntil, hres⟩
  constructor
  · intro hkeeps
    constructor
    · intro row hrow hstate
      rw [← hdeadline row hrow hstate]
      have hrowMissed := hkeeps.missed row hrow
      rw [hmissed row hrow] at hrowMissed
      simpa [hstate] using hrowMissed
    · intro job hfirst
      obtain ⟨leaseUntil, hres⟩ := hresult job hfirst
      obtain ⟨hstarted, hopen, hexpired⟩ := claimable_texts hfirst.claimable
      have hopened := hkeeps.opened _ hres
      unfold TellsOrder
      rw [hstarted, hopen]
      refine ⟨hopened.1, hopened.2, ?_⟩
      intro hrunning
      rw [hexpired hrunning]
      exact hkeeps.expired _ hres job hfirst.stored rfl hrunning
  · intro htells
    have hdue : ∀ job, result = some job → ∃ due leaseUntil,
        First le jobs now due ∧ job = due.leasedTo workerId leaseUntil := by
      intro job hjob
      rcases hstore.claimDue_cases hkeys hcall with ⟨-, hnone, -⟩ | ⟨due, leaseUntil, hdue, hres, -⟩
      · rw [hnone] at hjob
        cases hjob
      · rw [hres] at hjob
        exact ⟨due, leaseUntil, first_markMissed.mp (firstDue_first hle hdue),
          (Option.some.inj hjob).symm⟩
    constructor
    · intro job hjob
      obtain ⟨due, leaseUntil, hfirst, rfl⟩ := hdue job hjob
      obtain ⟨hstart, hstop, _⟩ := htells.first due hfirst
      obtain ⟨hstarted, hopen, _⟩ := claimable_texts hfirst.claimable
      unfold TellsOrder at hstart hstop
      rw [hstarted] at hstart
      rw [hopen] at hstop
      exact ⟨hstart, hstop⟩
    · intro row hrow
      rw [hmissed row hrow]
      by_cases hstate : row.state = .scheduled
      · have hagree := (hdeadline row hrow hstate).mpr (htells.deadlines row hrow hstate)
        simpa [hstate] using hagree
      · simp [hstate]
    · intro job hjob row hrow hid hrunning
      obtain ⟨due, leaseUntil, hfirst, rfl⟩ := hdue job hjob
      have hsame : row = due := by
        have hfound := find_of_mem hkeys hrow
        rw [hid] at hfound
        have hfound' := find_of_mem hkeys hfirst.stored
        exact Option.some.inj (hfound.symm.trans hfound')
      subst hsame
      have hlease := (htells.first row hfirst).2.2 hrunning
      have hexpired := (claimable_texts hfirst.claimable).2.2 hrunning
      unfold TellsOrder at hlease
      rw [hexpired] at hlease
      exact hlease

end claims

section samples

/-- A job for a window of two hours. -/
def windowJob : ExecutionJob :=
  scheduledJob "JOB-1" "CASE-1" "2026-07-18T02:00:00Z" "2026-07-18T04:00:00Z"

/-- A claim of the job with both stores, under the sample calendar. -/
def windowClaims (now : String) : List (JobAnswer (Option ExecutionJob)) :=
  [(sqliteJobStore clockPlatform).claimDue [windowJob] now "worker" 300,
    (postgresJobStore clockPlatform binary).claimDue [windowJob] now "worker" 300]

/-- The answer to a claim of the job. -/
def windowLeased (leaseUntil : String) : JobAnswer (Option ExecutionJob) :=
  (.ok (some (windowJob.leasedTo "worker" leaseUntil)), [windowJob.leasedTo "worker" leaseUntil])

/-- A job claimed while its window is open. -/
theorem claimDue_keeps_windows_sample :
    KeepsWindows clockPlatform [windowJob] "2026-07-18T03:00:00Z"
      (some (windowJob.leasedTo "worker" "2026-07-18T03:05:00Z"))
      [windowJob.leasedTo "worker" "2026-07-18T03:05:00Z"] := by
  have hkeys : Keyed [windowJob] := List.nodup_singleton _
  have hcall : (sqliteJobStore clockPlatform).claimDue [windowJob] "2026-07-18T03:00:00Z"
      "worker" 300 = windowLeased "2026-07-18T03:05:00Z" := by
    decide +kernel
  have hdeadline : parseTimestamp clockPlatform windowJob.deadline =
      .ok ⟨1784347200000000, true⟩ := by
    decide +kernel
  have hstart : TellsOrder clockPlatform binary windowJob.executeAt "2026-07-18T03:00:00Z" := by
    unfold TellsOrder
    decide +kernel
  have hstop : TellsOrder clockPlatform binary windowJob.deadline "2026-07-18T03:00:00Z" := by
    unfold TellsOrder
    decide +kernel
  refine (claimDue_keeps_windows_iff ordered_binary .sqlite hkeys ?_ hcall).mpr ⟨?_, ?_⟩
  · intro row hrow _
    obtain rfl := List.mem_singleton.mp hrow
    exact ⟨_, hdeadline⟩
  · intro row hrow _
    obtain rfl := List.mem_singleton.mp hrow
    exact hstop
  · intro job hfirst
    obtain rfl := List.mem_singleton.mp hfirst.stored
    refine ⟨hstart, hstop, ?_⟩
    intro hrunning
    cases hrunning

/-- At the deadline of a job, written with another offset, both stores claim the job. -/
theorem claimDue_at_deadline :
    windowClaims "2026-07-18T04:00:00+00:00" =
        [windowLeased "2026-07-18T04:05:00Z", windowLeased "2026-07-18T04:05:00Z"] ∧
      ¬KeepsWindows clockPlatform [windowJob] "2026-07-18T04:00:00+00:00"
        (windowLeased "2026-07-18T04:05:00Z").1.toOption.join
        (windowLeased "2026-07-18T04:05:00Z").2 := by
  refine ⟨by decide +kernel, fun hkeeps => ?_⟩
  have hopened := (hkeeps.opened _ rfl).2
  have helapsed : notAfter clockPlatform windowJob.deadline "2026-07-18T04:00:00+00:00" =
      .ok true := by
    decide +kernel
  rw [show (windowJob.leasedTo "worker" "2026-07-18T04:05:00Z").deadline = windowJob.deadline
    from rfl, helapsed] at hopened
  cases hopened

end samples

end ElCapitan
