import ElCapitan.AgentRuns.Guards
import ElCapitan.Effects.Restarts

/-!
# Interrupted calls

The runs of one case follow each other, and any of them may crash. A run that calls the wrapped
runtime while an earlier invocation has no outcome does so on the strength of an override.
-/

namespace ElCapitan

open Effects

/-- A run of a history: what was called, what it did, and how it ended unless it crashed. -/
structure RunLabel where
  runtime : AgentRunRuntime
  task : AgentTask
  events : Trace
  outcome : Option (Except PyError AgentResult)

/-- One run of `AgentRunRuntime.run`, to its end or to a crash. -/
def RunStep (P : Platform) (s : Stores) (l : RunLabel) (s' : Stores) : Prop :=
  ∃ rest, Prog.Ran world (agentRun P l.runtime l.task) s l.events rest s' ∧
    l.outcome = rest.outcome?

/-- The records of a case that a run lists. -/
abbrev caseRecords (s : Stores) (task : AgentTask) : List ProductRecord :=
  RecordTable.listForCase s.records task.caseId

/-- One record was put before another. -/
def PutBefore (s : Stores) (a b : ProductRecord) : Prop :=
  [a.recordId, b.recordId].Sublist (s.records.map ProductRecord.recordId)

instance (s : Stores) (a b : ProductRecord) : Decidable (PutBefore s a b) :=
  inferInstanceAs (Decidable (List.Sublist _ _))

/-- The policy overrides this stop of the case for an interrupted invocation. -/
def Overridden (s : Stores) (l : RunLabel) (stop : ProductRecord) : Prop :=
  stop ∈ caseRecords s l.task ∧ isIncompleteStop stop = true ∧
    stop.recordId ∈ l.runtime.policy.overrideTerminalRecordIds

/-- A run calls the wrapped runtime only if each invocation without an outcome was recorded
before a stop that the policy overrides. -/
def OverrideRespected (P : Platform) (s : Stores) (l : RunLabel) : Prop :=
  (∃ e ∈ l.events, isModelCall e = true) → ∀ invocation ∈ incomplete P (caseRecords s l.task),
    ∃ stop, Overridden s l stop ∧ PutBefore s invocation stop

/-- No run that the guards admit starts under an override of a stop while an invocation that was
recorded after that stop has no outcome. -/
def OverrideTimely (P : Platform) (s : Stores) (l : RunLabel) : Prop :=
  Admits P l.runtime l.task (caseRecords s l.task) → ∀ stop, Overridden s l stop →
    ∀ invocation ∈ incomplete P (caseRecords s l.task), PutBefore s invocation stop

/-- A run that goes on lists what is stored. -/
theorem Prog.Ran.listed {P : Platform} {runtime : AgentRunRuntime} {task : AgentTask}
    {s s' : Stores} {h : Trace} {rest : Service AgentResult} {records : List ProductRecord}
    (hran : Prog.Ran world (agentRun P runtime task) s h rest s')
    (hlisted : Listed task h records) :
    records = caseRecords s task := by
  unfold agentRun at hran
  cases hran with
  | here => cases hlisted
  | step answer _ =>
    cases hlisted
    have hlist := world_ok answer (by simp [Stores.perform])
    cases hlist
    rfl

/-- A run that called the wrapped runtime was admitted on the stored records. -/
theorem RunStep.admits {P : Platform} {s s' : Stores} {l : RunLabel} (hstep : RunStep P s l s')
    (hcall : ∃ e ∈ l.events, isModelCall e = true) :
    Admits P l.runtime l.task (caseRecords s l.task) := by
  obtain ⟨rest, hran, -⟩ := hstep
  obtain ⟨e, hmem, hcall⟩ := hcall
  obtain ⟨before, after, hevents⟩ := List.append_of_mem hmem
  have hrule := (agentRun_obeys.ran hran).2 before e after hevents
  obtain ⟨o, r⟩ := e
  cases o
  case runRuntime called =>
    obtain ⟨-, ⟨records, hlisted, hadmits⟩, -⟩ := hrule
    have hlisted' := hlisted.append (⟨.runRuntime called, r⟩ :: after)
    rw [List.nil_append, ← hevents] at hlisted'
    rwa [Prog.Ran.listed hran hlisted'] at hadmits
  all_goals cases hcall

/-- In a history without such a start, every override is respected by every run. -/
theorem overrides_respected {P : Platform} {s s' : Stores} {ls : List RunLabel}
    (hrun : Steps (fun s l s' => RunStep P s l s' ∧ OverrideTimely P s l) s ls s') :
    Steps (fun s l s' => RunStep P s l s' ∧ OverrideRespected P s l) s ls s' := by
  refine hrun.mono ?_
  rintro a l b ⟨hstep, htimely⟩
  refine ⟨hstep, fun hcall invocation hincomplete => ?_⟩
  have hadmits := hstep.admits hcall
  rcases hadmits.complete with hoverride | hnone
  · obtain ⟨stop, hmem, hstop⟩ := List.any_eq_true.mp hoverride
    rw [Bool.and_eq_true, decide_eq_true_eq] at hstop
    exact ⟨stop, ⟨hmem, hstop⟩, htimely hadmits stop ⟨hmem, hstop⟩ invocation hincomplete⟩
  · rw [hnone] at hincomplete
    cases hincomplete

section samples

/-- A run of at most this many operations, in a quiet environment. -/
def playRun (runtime : AgentRunRuntime) (steps : ℕ) (s : Stores) : RunLabel × Stores :=
  let task := sampleTask "task-1" sampleTask_named ["evidence-1"]
  match Prog.runFor performWith (fun n => ⟨none, quietReply "2026-07-17T12:00:00Z" n⟩) steps
    (agentRun hashPlatform runtime task) 0 s with
  | (h, rest, s') => (⟨runtime, task, h, rest.outcome?⟩, s')

/-- A played run is a step of the history of runs. -/
theorem playRun_step {runtime : AgentRunRuntime} {steps : ℕ} {s s' : Stores} {l : RunLabel}
    (h : playRun runtime steps s = (l, s')) : RunStep hashPlatform s l s' := by
  cases h
  exact ⟨_, Prog.ran_runFor rfl, rfl⟩

/-- Runs one after another, each with its number of operations. -/
def playRuns (check : Stores → RunLabel → Bool) :
    List (AgentRunRuntime × ℕ) → Stores → Option (List RunLabel × Stores)
  | [], s => some ([], s)
  | (runtime, steps) :: rest, s =>
    match playRun runtime steps s with
    | (l, s') =>
      if check s l then (playRuns check rest s').map fun (ls, last) => (l :: ls, last) else none

/-- Played runs are a history of runs whose steps pass the check. -/
theorem playRuns_steps {check : Stores → RunLabel → Bool} {plan : List (AgentRunRuntime × ℕ)}
    {s s' : Stores} {ls : List RunLabel} (h : playRuns check plan s = some (ls, s')) :
    Steps (fun s l s' => RunStep hashPlatform s l s' ∧ check s l = true) s ls s' := by
  induction plan generalizing s ls with
  | nil =>
    cases h
    exact .nil _
  | cons head rest ih =>
    obtain ⟨runtime, steps⟩ := head
    unfold playRuns at h
    split at h
    rename_i l s₁ hplay
    split at h
    · rename_i hcheck
      rw [Option.map_eq_some_iff] at h
      obtain ⟨⟨tail, last⟩, htail, heq⟩ := h
      cases heq
      exact .cons ⟨playRun_step hplay, hcheck⟩ (ih htail)
    · cases h

/-- A runtime without overrides. -/
def plainRuntime : AgentRunRuntime := ⟨"model", "/artifacts", defaultRunPolicy⟩

/-- A runtime whose policy overrides the stop of case-1 for an interrupted invocation. -/
def overridingRuntime : AgentRunRuntime :=
  ⟨"model", "/artifacts",
    { overrideTerminalRecordIds := ["ARUN-13dd4b46"], positive := defaultRunPolicy.positive }⟩

/-- A check for starts under a timely override. -/
def startsTimely (s : Stores) (l : RunLabel) : Bool :=
  (caseRecords s l.task).all fun stop =>
    !(isIncompleteStop stop && decide (stop.recordId ∈ l.runtime.policy.overrideTerminalRecordIds))
      || (incomplete hashPlatform (caseRecords s l.task)).all fun invocation =>
        decide (PutBefore s invocation stop)

/-- A run that passes the check has its override in time. -/
theorem overrideTimely_of_startsTimely {s : Stores} {l : RunLabel} (h : startsTimely s l = true) :
    OverrideTimely hashPlatform s l := by
  rintro - stop ⟨hmem, hstop, hoverridden⟩ invocation hincomplete
  have hall := List.all_eq_true.mp h stop hmem
  rw [hstop, decide_eq_true hoverridden, Bool.and_self, Bool.not_true, Bool.false_or] at hall
  exact of_decide_eq_true (List.all_eq_true.mp hall invocation hincomplete)

/-- After a crash the next run stops the case; a run under an override of that stop calls the
runtime again. -/
theorem overrides_respected_after_crash :
    ∃ ls s, Steps (fun s l s' => RunStep hashPlatform s l s' ∧ OverrideTimely hashPlatform s l) {}
        ls s ∧
      ls.map (fun l => l.events.any isModelCall) = [false, false, true] ∧
      Steps (fun s l s' => RunStep hashPlatform s l s' ∧ OverrideRespected hashPlatform s l) {}
        ls s := by
  have hexists : ∃ run ∈ playRuns startsTimely
      [(plainRuntime, 3), (plainRuntime, 3), (overridingRuntime, 10)] {},
      run.1.map (fun l => l.events.any isModelCall) = [false, false, true] := by
    decide +kernel
  obtain ⟨⟨ls, s⟩, hrun, hcalls⟩ := hexists
  have hsteps : Steps (fun s l s' => RunStep hashPlatform s l s' ∧
      OverrideTimely hashPlatform s l) {} ls s :=
    (playRuns_steps hrun).mono fun _ _ _ h => ⟨h.1, overrideTimely_of_startsTimely h.2⟩
  exact ⟨ls, s, hsteps, hcalls, overrides_respected hsteps⟩

/-- The last run of a history calls the runtime although no overridden stop is later than an
invocation without an outcome. -/
def recallsLate (s : Stores) (l : RunLabel) : Bool :=
  l.events.any isModelCall && (incomplete hashPlatform (caseRecords s l.task)).any fun invocation =>
    (caseRecords s l.task).all fun stop =>
      !decide (PutBefore s invocation stop)

/-- A run that calls the runtime too late respects no override. -/
theorem not_respected_of_recallsLate {s : Stores} {l : RunLabel} (h : recallsLate s l = true) :
    ¬OverrideRespected hashPlatform s l := by
  intro hrespected
  obtain ⟨hcalls, hlate⟩ := Bool.and_eq_true_iff.mp h
  obtain ⟨invocation, hincomplete, hnone⟩ := List.any_eq_true.mp hlate
  obtain ⟨stop, ⟨hmem, -⟩, hbefore⟩ := hrespected
    (List.any_eq_true.mp hcalls) invocation hincomplete
  have hstop := List.all_eq_true.mp hnone stop hmem
  rw [Bool.not_eq_true', decide_eq_false_iff_not] at hstop
  exact hstop hbefore

/-- The override of the first stop lets a run call the runtime after a second crash, although no
further stop was written or overridden. -/
theorem override_outlives_second_crash :
    ∃ ls s l s', Steps (RunStep hashPlatform) {} ls s ∧ RunStep hashPlatform s l s' ∧
      (∃ e ∈ l.events, isModelCall e = true) ∧ ¬OverrideRespected hashPlatform s l := by
  have hexists : ∃ run ∈ playRuns (fun _ _ => true)
      [(plainRuntime, 3), (plainRuntime, 3), (overridingRuntime, 4)] {},
      recallsLate run.2 (playRun overridingRuntime 5 run.2).1 = true := by
    decide +kernel
  obtain ⟨⟨ls, s⟩, hrun, hlate⟩ := hexists
  have hsteps := (playRuns_steps hrun).mono fun _ _ _ h => h.1
  exact ⟨ls, s, (playRun overridingRuntime 5 s).1, (playRun overridingRuntime 5 s).2, hsteps,
    @playRun_step overridingRuntime 5 s _ _ rfl,
    List.any_eq_true.mp (Bool.and_eq_true_iff.mp hlate).1,
    not_respected_of_recallsLate hlate⟩

end samples

end ElCapitan
