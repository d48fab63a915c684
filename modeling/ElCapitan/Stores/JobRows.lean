import ElCapitan.Stores.JobStore

/-!
# Rows of jobs

Job ids are unique, and every call keeps them so. There, what a claim and a completion do to
the row of one job.
-/

namespace ElCapitan

/-- A job under a new lease. -/
def ExecutionJob.leasedTo (job : ExecutionJob) (workerId leaseUntil : String) : ExecutionJob :=
  { job with state := .running, attempts := job.attempts + 1, leaseOwner := workerId, leaseUntil }

namespace JobTable

section keys

variable {jobs : JobTable} {jobId workerId : String}

/-- `job_id TEXT PRIMARY KEY`. -/
def Keyed (jobs : JobTable) : Prop := (jobs.map ExecutionJob.jobId).Nodup

/-- An update that leaves job ids alone. -/
theorem keyed_update {p : ExecutionJob → Bool} {f : ExecutionJob → ExecutionJob}
    (hf : ∀ job, (f job).jobId = job.jobId) (h : Keyed jobs) : Keyed (update jobs p f) := by
  unfold Keyed
  rw [map_update hf]
  exact h

/-- Marking missed jobs keeps their ids distinct. -/
theorem keyed_markMissed {le : Collation} {now : String} (h : Keyed jobs) :
    Keyed (markMissed le jobs now) := keyed_update (fun _ => rfl) h

/-- Leasing a job keeps the ids distinct. -/
theorem keyed_lease {leaseUntil : String} (h : Keyed jobs) :
    Keyed (lease jobs jobId workerId leaseUntil) := keyed_update (fun _ => rfl) h

/-- Finishing a job keeps the ids distinct. -/
theorem keyed_finish {state : JobState} {detail : String} (h : Keyed jobs) :
    Keyed (finish jobs jobId workerId state detail) := keyed_update (fun _ => rfl) h

/-- The first due job is one of the rows. -/
theorem mem_of_firstDue {le : Collation} {now : String} {job : ExecutionJob}
    (h : firstDue le jobs now = some job) : job ∈ jobs := by
  have hhead := List.mem_of_mem_head? h
  rw [List.mem_insertionSort] at hhead
  exact List.mem_of_mem_filter hhead

/-- A row that was leased is found. -/
theorem exists_find_lease {leaseUntil : String} {job : ExecutionJob} (h : job ∈ jobs) :
    ∃ leased, find (lease jobs job.jobId workerId leaseUntil) job.jobId = some leased := by
  refine Option.isSome_iff_exists.mp (List.find?_isSome.mpr ?_)
  refine ⟨_, List.mem_map.mpr ⟨job, h, rfl⟩, ?_⟩
  simp

/-- Putting a job keeps the ids distinct. -/
theorem keyed_put {job : ExecutionJob} {jobs' : JobTable} (h : Keyed jobs)
    (hput : put jobs job = .ok jobs') : Keyed jobs' := by
  unfold put at hput
  split at hput
  · cases hput
  · rename_i hfree
    cases hput
    unfold Keyed at h ⊢
    rw [List.map_append, List.nodup_append]
    refine ⟨h, by simp, ?_⟩
    intro a ha b hb
    obtain ⟨other, hother, rfl⟩ := List.mem_map.mp ha
    obtain rfl : b = job.jobId := by simpa using hb
    exact fun heq => hfree ⟨other, hother, .inl heq⟩

/-- Claiming a job keeps the ids distinct. -/
theorem keyed_claim {now leaseUntil : String} (h : Keyed jobs) :
    Keyed (claim jobs now workerId leaseUntil).2 := by
  unfold claim
  dsimp only
  split
  · exact keyed_markMissed h
  · exact keyed_lease (keyed_markMissed h)

/-- Claiming a due job keeps the ids distinct. -/
theorem keyed_claimDue {P : Platform} {now : String} {leaseSeconds : ℤ} (h : Keyed jobs) :
    Keyed (claimDue jobs now P workerId leaseSeconds).2 := by
  unfold claimDue
  split
  · exact h
  · exact keyed_claim h

/-- Completing a job keeps the ids distinct. -/
theorem keyed_complete {state : JobState} {detail : String} (h : Keyed jobs) :
    Keyed (complete jobs jobId workerId state detail).2 := by
  unfold complete
  split
  · exact h
  · split
    · exact h
    · exact keyed_finish h

/-- At most one job is held under an id. -/
theorem filter_holds_length (h : Keyed jobs) :
    (jobs.filter (holds jobId workerId)).length ≤ 1 := by
  induction jobs with
  | nil => simp
  | cons job jobs ih =>
    obtain ⟨hfresh, hrest⟩ := List.nodup_cons.mp h
    by_cases hholds : holds jobId workerId job = true
    · have hid : job.jobId = jobId := by
        simp only [holds, Bool.and_eq_true, decide_eq_true_eq] at hholds
        exact hholds.1.1
      have hnone : jobs.filter (holds jobId workerId) = [] := by
        rw [List.filter_eq_nil_iff]
        intro other hother hother'
        simp only [holds, Bool.and_eq_true, decide_eq_true_eq] at hother'
        refine hfresh (List.mem_map.mpr ⟨other, hother, ?_⟩)
        rw [hother'.1.1, hid]
      simp [hholds, hnone]
    · rw [List.filter_cons_of_neg hholds]
      exact ih hrest

/-- The row a worker completed. -/
theorem get_finish {state : JobState} {detail : String} {job : ExecutionJob} (h : Keyed jobs)
    (hfind : jobs.find? (holds jobId workerId) = some job) :
    get (finish jobs jobId workerId state detail) jobId =
      .ok { job with state, detail, leaseOwner := "", leaseUntil := "" } := by
  suffices hrow : find (finish jobs jobId workerId state detail) jobId =
      some { job with state, detail, leaseOwner := "", leaseUntil := "" } by
    rw [get, hrow]
  induction jobs with
  | nil => cases hfind
  | cons head jobs ih =>
    obtain ⟨hfresh, hrest⟩ := List.nodup_cons.mp h
    by_cases hholds : holds jobId workerId head = true
    · rw [List.find?_cons_of_pos hholds] at hfind
      obtain rfl : head = job := by simpa using hfind
      have hid : head.jobId = jobId := by
        simp only [holds, Bool.and_eq_true, decide_eq_true_eq] at hholds
        exact hholds.1.1
      simp [find, finish, update, hholds, hid]
    · rw [List.find?_cons_of_neg hholds] at hfind
      have hheld := List.find?_some hfind
      simp only [holds, Bool.and_eq_true, decide_eq_true_eq] at hheld
      have hne : head.jobId ≠ jobId := by
        rintro heq
        refine hfresh (List.mem_map.mpr ⟨job, List.mem_of_find?_eq_some hfind, ?_⟩)
        rw [hheld.1.1, heq]
      have hnext := ih hrest hfind
      simp only [find, finish, update] at hnext
      simp [find, finish, update, hholds, hne, hnext]

end keys

variable {jobs jobs' : JobTable} {now workerId leaseUntil jobId : String} {row job : ExecutionJob}

/-- A job that is found has the id. -/
theorem jobId_of_find (h : find jobs jobId = some row) : row.jobId = jobId := by
  simpa using List.find?_some h

/-- A job of the table is found by its id. -/
theorem find_of_mem (hkeys : Keyed jobs) (hmem : row ∈ jobs) : find jobs row.jobId = some row := by
  induction jobs with
  | nil => cases hmem
  | cons head jobs ih =>
    rw [Keyed, List.map_cons, List.nodup_cons] at hkeys
    rcases List.mem_cons.mp hmem with rfl | hmem
    · simp [find]
    · have hne : head.jobId ≠ row.jobId := fun heq => hkeys.1 (heq ▸ List.mem_map_of_mem hmem)
      have hfound := ih hkeys.2 hmem
      unfold find at hfound ⊢
      rwa [List.find?_cons_of_neg (by simpa using hne)]

/-- A job is read where it is found. -/
theorem get_eq_ok : get jobs jobId = .ok row ↔ find jobs jobId = some row := by
  unfold get
  cases find jobs jobId <;> simp

/-- The row of a job after the windows that have elapsed were marked. -/
theorem find_markMissed {le : Collation} : find (markMissed le jobs now) jobId =
    (find jobs jobId).map fun job => if job.state = .scheduled && le job.deadline now then
      { job with state := .missed, detail := "approved window elapsed before execution" }
      else job := by
  unfold markMissed
  rw [find_update]
  intro job
  rfl

/-- Leasing changes the leased job alone. -/
theorem find_lease {leasedId : String} : find (lease jobs leasedId workerId leaseUntil) jobId =
    (find jobs jobId).map fun job =>
      if job.jobId = leasedId then job.leasedTo workerId leaseUntil else job := by
  unfold lease
  rw [find_update]
  · simp only [decide_eq_true_eq]
    rfl
  · intro job
    rfl

/-- Finishing changes the job alone that the worker holds. -/
theorem find_finish {finishedId detail : String} {state : JobState} :
    find (finish jobs finishedId workerId state detail) jobId =
      (find jobs jobId).map fun job => if holds finishedId workerId job then
        { job with state, detail, leaseOwner := "", leaseUntil := "" } else job := by
  unfold finish
  rw [find_update]
  intro job
  rfl

/-- The first due job is claimable and stored. -/
theorem firstDue_mem {le : Collation} (h : firstDue le jobs now = some job) :
    job ∈ jobs ∧ claimable le now job = true := by
  have hmem := List.mem_of_mem_head? (Option.mem_def.mpr h)
  rw [List.mem_insertionSort, List.mem_filter] at hmem
  exact hmem

/-- What a claim does: it leaves all but elapsed jobs alone, or it leases one claimable job. -/
theorem claim_cases (hkeys : Keyed jobs) :
    (JobTable.claim jobs now workerId leaseUntil = (.ok none, markMissed binary jobs now)) ∨
      ∃ due, find (markMissed binary jobs now) due.jobId = some due ∧
        claimable binary now due = true ∧
        JobTable.claim jobs now workerId leaseUntil =
          (.ok (some (due.leasedTo workerId leaseUntil)),
            lease (markMissed binary jobs now) due.jobId workerId leaseUntil) := by
  have hmarked : Keyed (markMissed binary jobs now) := keyed_markMissed hkeys
  cases hdue : firstDue binary (markMissed binary jobs now) now with
  | none =>
    left
    unfold JobTable.claim
    dsimp only
    rw [hdue]
  | some due =>
    right
    obtain ⟨hmem, hclaimable⟩ := firstDue_mem hdue
    have hfound := find_of_mem hmarked hmem
    refine ⟨due, hfound, hclaimable, ?_⟩
    have hleased : find (lease (markMissed binary jobs now) due.jobId workerId leaseUntil)
        due.jobId = some (due.leasedTo workerId leaseUntil) := by
      rw [find_lease, hfound]
      simp
    unfold JobTable.claim
    dsimp only
    rw [hdue]
    dsimp only
    rw [get_eq_ok.mpr hleased]
    rfl

/-- The claimed job is the claimer's, and it was scheduled or running. -/
theorem claim_some (hkeys : Keyed jobs)
    (h : JobTable.claim jobs now workerId leaseUntil = (.ok (some job), jobs')) :
    find jobs' job.jobId = some job ∧ job.state = .running ∧ job.leaseOwner = workerId ∧
      ∃ row, find jobs job.jobId = some row ∧ (row.state = .scheduled ∨ row.state = .running) := by
  rcases @claim_cases _ now workerId leaseUntil hkeys with
    hnone | ⟨due, hfound, hclaimable, hclaim⟩
  · rw [hnone] at h
    cases h
  · rw [hclaim] at h
    cases h
    refine ⟨?_, rfl, rfl, ?_⟩
    · show find (lease _ due.jobId workerId leaseUntil) due.jobId = _
      rw [find_lease, hfound]
      simp
    · rw [show (due.leasedTo workerId leaseUntil).jobId = due.jobId from rfl]
      rw [find_markMissed] at hfound
      obtain ⟨row, hrow, hmarked⟩ := Option.map_eq_some_iff.mp hfound
      refine ⟨row, hrow, ?_⟩
      have hopen : due.state = .scheduled ∨ due.state = .running := by
        unfold claimable at hclaimable
        simp only [Bool.and_eq_true, Bool.or_eq_true, decide_eq_true_eq] at hclaimable
        tauto
      split at hmarked
      · rw [← hmarked] at hopen
        simp at hopen
      · rw [hmarked]
        exact hopen

/-- A claim of another job leaves a job that is not scheduled alone. -/
theorem find_claim_other (hkeys : Keyed jobs) (hrow : find jobs jobId = some row)
    (hstate : row.state ≠ .scheduled) {r : Except PyError (Option ExecutionJob)}
    (h : JobTable.claim jobs now workerId leaseUntil = (r, jobs'))
    (hother : ∀ job, r = .ok (some job) → job.jobId ≠ jobId) : find jobs' jobId = some row := by
  have hmarked : find (markMissed binary jobs now) jobId = some row := by
    rw [find_markMissed, hrow]
    simp [hstate]
  rcases @claim_cases _ now workerId leaseUntil hkeys with
    hnone | ⟨due, hfound, hclaimable, hclaim⟩
  · rw [hnone] at h
    cases h
    exact hmarked
  · rw [hclaim] at h
    cases h
    have hne : due.jobId ≠ jobId := hother (due.leasedTo workerId leaseUntil) rfl
    have hid := jobId_of_find hrow
    rw [find_lease, hmarked]
    simp [hid, hne.symm]

section completing

variable {state : JobState} {detail completedId : String}

/-- A completion of another job, or without its lease, leaves a job alone. -/
theorem find_complete_other (hrow : find jobs jobId = some row)
    (hother : completedId ≠ jobId ∨ row.state ≠ .running ∨ row.leaseOwner ≠ workerId) :
    find (JobTable.complete jobs completedId workerId state detail).2 jobId = some row := by
  have hid := jobId_of_find hrow
  have hholds : holds completedId workerId row = false := by
    unfold holds
    rcases hother with hne | hstate | howner
    · simp [hid, hne.symm]
    · simp [hstate]
    · simp [howner]
  unfold JobTable.complete
  split
  · exact hrow
  · split
    · exact hrow
    · rw [find_finish, hrow]
      simp [hholds]

/-- The holder of a lease completes its job. -/
theorem complete_held (hkeys : Keyed jobs) (hrow : find jobs jobId = some row)
    (hrunning : row.state = .running) (howner : row.leaseOwner = workerId)
    (hterminal : state ∈ [JobState.succeeded, .rolledBack, .contained, .failed]) :
    ∃ completed, JobTable.complete jobs jobId workerId state detail =
        (.ok completed, finish jobs jobId workerId state detail) ∧ completed.state = state ∧
      find (finish jobs jobId workerId state detail) jobId = some completed := by
  have hid := jobId_of_find hrow
  have hholds : holds jobId workerId row = true := by
    unfold holds
    simp [hid, hrunning, howner]
  have hmem : row ∈ jobs := List.mem_of_find?_eq_some hrow
  have hone : (jobs.filter (holds jobId workerId)).length = 1 := by
    have hnodup : (jobs.filter (holds jobId workerId)).Nodup := (List.Nodup.of_map _ hkeys).filter _
    have hall : ∀ other ∈ jobs.filter (holds jobId workerId), other = row := by
      intro other hother
      obtain ⟨hother, hheld⟩ := List.mem_filter.mp hother
      unfold holds at hheld
      simp only [Bool.and_eq_true, decide_eq_true_eq] at hheld
      have hfound := find_of_mem hkeys hother
      rw [hheld.1.1, hrow] at hfound
      exact (Option.some.inj hfound).symm
    have hrowMem : row ∈ jobs.filter (holds jobId workerId) := List.mem_filter.mpr ⟨hmem, hholds⟩
    have hperm : (jobs.filter (holds jobId workerId)).Perm [row] := by
      rw [List.perm_ext_iff_of_nodup hnodup (List.nodup_singleton row)]
      intro other
      rw [List.mem_singleton]
      constructor
      · exact hall other
      · rintro rfl
        exact hrowMem
    exact hperm.length_eq
  have hfinished : find (finish jobs jobId workerId state detail) jobId =
      some { row with state, detail, leaseOwner := "", leaseUntil := "" } := by
    rw [find_finish, hrow]
    simp [hholds]
  refine ⟨{ row with state, detail, leaseOwner := "", leaseUntil := "" }, ?_, rfl, hfinished⟩
  unfold JobTable.complete
  rw [if_neg (not_not.mpr hterminal), if_neg (not_not.mpr hone)]
  dsimp only
  rw [get_eq_ok.mpr hfinished]

end completing

end JobTable

end ElCapitan
