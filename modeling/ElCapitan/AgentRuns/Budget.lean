import ElCapitan.AgentRuns.Guards
import ElCapitan.Services.Frames

/-!
# The model-call budget

Workers run `AgentRunRuntime.run` for one case beside each other. The guard counts the
invocations a worker listed, so the budget holds where no other invocation of the case is
recorded between that listing and the worker's own invocation record.
-/

namespace ElCapitan

open Effects

variable {ι : Type} [DecidableEq ι]

/-- A call of `AgentRunRuntime.run` by one worker. -/
structure AgentRunCall where
  runtime : AgentRunRuntime
  task : AgentTask

/-- The wrapped runtime was called for this package. -/
def isModelCallFor (P : Platform) (packageKey : String) : Event operations PyError → Bool
  | ⟨.runRuntime task, _⟩ => (bindingOf P task).packageKey = packageKey
  | _ => false

/-- No invocation of the case was recorded since the worker that now records one listed them. -/
def ListingCurrent (caseId : String) : Condition operations PyError Stores ι := fun b l =>
  isRecorded isInvocation l.event = true → ∀ records,
    ⟨.listRecords caseId, .ok records⟩ ∈ b.histories l.thread →
      (records.filter isInvocation).Perm
        ((RecordTable.listForCase b.store.records caseId).filter isInvocation)

section counting

variable {P : Platform} {caseId : String} {calls : ι → AgentRunCall} {s : Stores}
  {ls : List (Label operations PyError ι)} {b : Board operations PyError Stores ι}

/-- The rules of the workers. -/
abbrev runRules (P : Platform) (calls : ι → AgentRunCall) : Rule operations PyError ι :=
  fun i => RunRule P (calls i).runtime (calls i).task

/-- The stored records of a case that a guard counts. -/
def counted (p : ProductRecord → Bool) (caseId : String) (records : RecordTable) : ℕ :=
  ((RecordTable.listForCase records caseId).filter p).length

/-- The counted records of a case are those of the table. -/
theorem counted_eq (p : ProductRecord → Bool) (records : RecordTable) :
    counted p caseId records =
      records.countP fun record => decide (record.caseId = caseId) && p record := by
  have hperm := (@RecordTable.listForCase_perm records caseId).filter p
  rw [counted, hperm.length_eq, List.filter_filter, List.countP_eq_length_filter]
  congr 2
  funext record
  exact Bool.and_comm _ _

/-- Where a guard on a count passes at the listing, no more records are put than it allows. -/
theorem admissions_le {p : ProductRecord → Bool} {n : ℕ}
    (hinvocation : ∀ record, p record = true → isInvocation record = true)
    (hcase : ∀ i, (calls i).task.caseId = caseId)
    (hguard : ∀ i records record, Admits P (calls i).runtime (calls i).task records →
      record.reads "package_key" (bindingOf P (calls i).task).packageKey = true →
      p record = true → (records.filter p).length < n)
    (hrun : Steps (Board.StepIf world (runRules P calls) (ListingCurrent caseId)) (Board.start s)
      ls b) :
    ls.countP (fun l => isRecorded p l.event) ≤ n := by
  -- every admission is stored, and one more is made only while fewer than `n` are
  have hinv : ls.countP (fun l => isRecorded p l.event) ≤
      min n (counted p caseId b.store.records) := by
    refine hrun.invariant (fun ls b => ls.countP (fun l => isRecorded p l.event) ≤
      min n (counted p caseId b.store.records)) (by simp) ?_
    rintro ls b l b' - hle ⟨hmove, hcurrent⟩
    have hgrows : counted p caseId b.store.records ≤ counted p caseId b'.store.records := by
      rw [counted_eq, counted_eq]
      rcases world_records hmove.answered with heq | ⟨record, -, heq⟩
      · rw [heq]
      · rw [heq, List.countP_append]
        omega
    rw [List.countP_append, List.countP_singleton]
    by_cases hput : isRecorded p l.event = true
    · rw [if_pos hput]
      obtain ⟨record, hevent, hp⟩ := isRecorded_iff.mp hput
      have hcounts := hcurrent (isRecorded_iff.mpr ⟨record, hevent, hinvocation record hp⟩)
      have hpermitted := hmove.permitted
      have hanswered := hmove.answered
      rw [hevent] at hpermitted hanswered
      rcases hpermitted with hterminal | ⟨records, hlisted, hadmits, -, howner, hpackage, -⟩
      · have hkind := hinvocation record hp
        simp [isInvocation, hterminal, terminalRecord, invocationRecord] at hkind
      · rw [Listed, hcase] at hlisted
        have hperm := hcounts records (List.mem_of_mem_head? hlisted)
        have hlt := hguard _ _ _ hadmits hpackage hp
        have hsame : (records.filter p).length = counted p caseId b.store.records := by
          have hfilter : ∀ items : List ProductRecord,
              (items.filter isInvocation).filter p = items.filter p := by
            intro items
            rw [List.filter_filter]
            refine List.filter_congr fun item _ => ?_
            cases hitem : p item with
            | false => rfl
            | true => simp [hinvocation item hitem]
          have hlength := (hperm.filter p).length_eq
          rwa [hfilter, hfilter] at hlength
        have hstored : counted p caseId b'.store.records =
            counted p caseId b.store.records + 1 := by
          rw [counted_eq, counted_eq, world_putRecord hanswered, List.countP_append]
          simp [howner, hcase, hp]
        omega
    · rw [if_neg hput]
      omega
  omega

end counting

/-- A call follows the record of its invocation, and is the only one of its run. -/
theorem modelCall_recorded {P : Platform} {runtime : AgentRunRuntime} {task : AgentTask}
    {h : Trace} {o : Operation} {r : Except PyError o.Answer} (hrule : RunRule P runtime task h o)
    (hcall : isModelCall ⟨o, r⟩ = true) :
    (∃ e ∈ h, isRecorded isInvocation e = true) ∧ ∀ e ∈ h, isModelCall e = false := by
  cases o
  case runRuntime called =>
    obtain ⟨-, -, ⟨record, hmem, hinvocation, -⟩, hfirst⟩ := hrule
    exact ⟨⟨_, hmem, hinvocation⟩, hfirst⟩
  all_goals cases hcall

/-- A call for a package follows the record of its invocation for that package. -/
theorem modelCallFor_recorded {P : Platform} {runtime : AgentRunRuntime} {task : AgentTask}
    {packageKey : String} {h : Trace} {o : Operation} {r : Except PyError o.Answer}
    (hrule : RunRule P runtime task h o) (hcall : isModelCallFor P packageKey ⟨o, r⟩ = true) :
    (∃ e ∈ h, isRecorded (isInvocationFor packageKey) e = true) ∧
      ∀ e ∈ h, isModelCallFor P packageKey e = false := by
  cases o
  case runRuntime called =>
    obtain ⟨rfl, -, ⟨record, hmem, hinvocation, hkey⟩, hfirst⟩ := hrule
    obtain rfl : (bindingOf P called).packageKey = packageKey := of_decide_eq_true hcall
    refine ⟨⟨_, hmem, Bool.and_eq_true_iff.mpr ⟨hinvocation, hkey⟩⟩, fun e he => ?_⟩
    have hother := hfirst e he
    obtain ⟨o, r⟩ := e
    cases o <;> first | rfl | cases hother
  all_goals cases hcall

/-- Where no invocation of the case is recorded between the listing of a run and its own
invocation record, the wrapped runtime is called at most as often as the policy allows, for the
case and for each package. -/
theorem modelCalls_bounded {P : Platform} {caseId : String} {policy : AgentRunPolicy}
    {calls : ι → AgentRunCall} (hcase : ∀ i, (calls i).task.caseId = caseId)
    (hpolicy : ∀ i, (calls i).runtime.policy = policy) {s : Stores}
    {ls : List (Label operations PyError ι)} {c : Pool operations PyError AgentResult Stores ι}
    (hrun : Steps (Pool.StepIf world (ListingCurrent caseId))
      (Pool.start s fun i => agentRun P (calls i).runtime (calls i).task) ls c) :
    ls.countP (fun l => isModelCall l.event) ≤ policy.maxModelCalls ∧
      ∀ packageKey, ls.countP (fun l => isModelCallFor P packageKey l.event) ≤
        policy.maxAttemptsPerRolePackage := by
  obtain ⟨hboard, -⟩ := Pool.board_steps (fun _ => agentRun_obeys) hrun
  constructor
  · have hcalls := Board.countP_le (A := isRecorded isInvocation) (D := isModelCall)
      (fun _ _ _ _ => modelCall_recorded) hboard
    have hadmissions := admissions_le (n := policy.maxModelCalls) (fun _ h => h) hcase
      (fun i _ _ hadmits _ _ => hpolicy i ▸ hadmits.calls) hboard
    omega
  · intro packageKey
    have hcalls := Board.countP_le (A := isRecorded (isInvocationFor packageKey))
      (D := isModelCallFor P packageKey) (fun _ _ _ _ => modelCallFor_recorded) hboard
    have hadmissions := admissions_le (p := isInvocationFor packageKey)
      (n := policy.maxAttemptsPerRolePackage)
      (fun _ h => (Bool.and_eq_true_iff.mp h).1) hcase
      (fun i records record hadmits hkey hp => by
        obtain rfl := reads_unique hkey (Bool.and_eq_true_iff.mp hp).2
        exact hpolicy i ▸ hadmits.attempts) hboard
    omega

section samples

/-- Two workers of one case run different tasks under a budget of one call. -/
def racingCalls (second : Bool) : AgentRunCall where
  runtime := ⟨"model", "/artifacts", { maxModelCalls := 1, overrides_named := List.not_mem_nil }⟩
  task := if second then sampleTask "task-2" (by decide) ["evidence-2"]
    else sampleTask "task-1" sampleTask_named ["evidence-1"]

/-- The workers move in this order, in a quiet environment. -/
def racingRun (check : Board operations PyError Stores Bool → Label operations PyError Bool → Bool)
    (schedule : List Bool) :
    Option (List (Label operations PyError Bool) ×
      Pool operations PyError AgentResult Stores Bool) :=
  Pool.exec performWith check (fun n => ⟨none, quietReply "2026-07-17T12:00:00Z" n⟩) schedule 0
    (Pool.start {} fun i => agentRun hashPlatform (racingCalls i).runtime (racingCalls i).task)

/-- A listing found no records. -/
def listsNothing : Event operations PyError → Bool
  | ⟨.listRecords _, .ok records⟩ => records.isEmpty
  | _ => true

/-- The first invocation of a case is recorded. -/
def recordsFirst (b : Board operations PyError Stores Bool)
    (l : Label operations PyError Bool) : Bool :=
  !isRecorded isInvocation l.event ||
    (b.store.records.isEmpty && (b.histories l.thread).all listsNothing)

/-- A first invocation is recorded on a current list. -/
theorem listingCurrent_of_first {caseId : String} {b : Board operations PyError Stores Bool}
    {l : Label operations PyError Bool} (h : recordsFirst b l = true) :
    ListingCurrent caseId b l := by
  intro hrecorded records hlisted
  unfold recordsFirst at h
  rw [hrecorded, Bool.not_true, Bool.false_or, Bool.and_eq_true] at h
  have hnone : records = [] := List.isEmpty_iff.mp (List.all_eq_true.mp h.2 _ hlisted)
  have hstore : b.store.records = [] := List.isEmpty_iff.mp h.1
  rw [hnone, hstore]
  exact List.Perm.refl _

/-- One worker runs to its outcome before the other lists the records. -/
theorem modelCalls_bounded_in_turn :
    ∃ ls c, Steps (Pool.StepIf world (ListingCurrent "case-1")) (Pool.start {} fun i =>
        agentRun hashPlatform (racingCalls i).runtime (racingCalls i).task) ls c ∧
      ls.countP (fun l => isModelCall l.event) = 1 ∧
      ls.countP (fun l => isModelCall l.event) ≤ 1 := by
  have hexists : ∃ run ∈ racingRun recordsFirst
      [false, false, false, false, false, false, false, false, false, true],
      run.1.countP (fun l => isModelCall l.event) = 1 := by
    decide +kernel
  obtain ⟨⟨ls, c⟩, hrun, hcount⟩ := hexists
  have hsteps : Steps (Pool.StepIf world (ListingCurrent "case-1")) (Pool.start {} fun i =>
      agentRun hashPlatform (racingCalls i).runtime (racingCalls i).task) ls c :=
    (Pool.exec_steps hrun).mono fun _ _ _ h => ⟨h.1, listingCurrent_of_first h.2⟩
  have hcase : ∀ i, (racingCalls i).task.caseId = "case-1" := by decide
  have hpolicy : ∀ i, (racingCalls i).runtime.policy = { maxModelCalls := 1 } := fun _ => rfl
  exact ⟨ls, c, hsteps, hcount, (modelCalls_bounded hcase hpolicy hsteps).1⟩

/-- Both workers list the invocations before either records its own: the budget of one call is
exceeded. -/
theorem modelCalls_exceed_budget :
    ∃ ls c, Steps (Pool.StepIf world fun _ _ => True) (Pool.start {} fun i =>
        agentRun hashPlatform (racingCalls i).runtime (racingCalls i).task) ls c ∧
      (∀ i, (racingCalls i).runtime.policy.maxModelCalls = 1) ∧
      ls.countP (fun l => isModelCall l.event) = 2 := by
  have hexists : ∃ run ∈ racingRun (fun _ _ => true)
      [false, true, false, false, false, true, true, true],
      run.1.countP (fun l => isModelCall l.event) = 2 := by
    decide +kernel
  obtain ⟨⟨ls, c⟩, hrun, hcount⟩ := hexists
  have hsteps := Pool.exec_steps hrun
  exact ⟨ls, c, hsteps.mono fun _ _ _ h => ⟨h.1, trivial⟩, fun i => rfl, hcount⟩

end samples

end ElCapitan
