import ElCapitan.Cases.Effective
import ElCapitan.Effects.Restarts
import ElCapitan.Services.Frames
import ElCapitan.Services.Scheduling

/-!
# The setting of a human decision

The durable writes of a decision, what any history of the stores keeps, and the environment
of a call that is alone and in which one of these writes fails.
-/

namespace ElCapitan

open Effects

/-- The durable writes of an approval and of the scheduling after it. -/
inductive DurableWrite where
  | approvalRecord
  | approveChange
  | job
  | scheduleRecord
  | scheduleExecution
  deriving DecidableEq

/-- The durable write that an operation makes. -/
def writeOf : Operation → Option DurableWrite
  | .putRecord record =>
    if record.recordType = "ChangeApproval.v1" then some .approvalRecord
    else if record.recordType = "ExecutionSchedule.v1" then some .scheduleRecord
    else none
  | .appendCase _ event _ =>
    if event.transition = .approveChange then some .approveChange
    else if event.transition = .scheduleExecution then some .scheduleExecution
    else none
  | .putJob _ => some .job
  | _ => none

/-- One operation of anybody on the shared stores. -/
def StoreStep (s : Stores) (e : Event operations PyError) (s' : Stores) : Prop :=
  world s e.op e.answer s'

/-- What a program did before it stopped is a history of the stores. -/
theorem ran_history {α : Type} {p p' : Service α} {s s' : Stores} {h : Trace}
    (hran : Prog.Ran world p s h p' s') : Steps StoreStep s h s' := by
  induction hran with
  | here p s => exact .nil s
  | step answer rest ih => exact .cons answer ih

section histories

variable {s s' : Stores} {e : Event operations PyError} {h : Trace}

/-- Every event is one of a stored case, and not later than its version. -/
def Stores.Sequenced (s : Stores) : Prop :=
  ∀ event ∈ s.cases.events, ∃ case, s.cases.case? event.caseId = some case ∧
    event.sequence ≤ case.version

/-- A step of the stores keeps events numbered from one. -/
theorem StoreStep.sequenced (hstep : StoreStep s e s') (hs : s.Sequenced) : s'.Sequenced := by
  rcases world_caseTables hstep with heq | ⟨case, -, hinsert⟩ | ⟨case, event, v, -, happend⟩
  · unfold Stores.Sequenced
    rw [heq]
    exact hs
  · intro other hother
    obtain ⟨hnew, -, hevents, -⟩ := CaseTables.insert_eq_ok hinsert
    rw [hevents] at hother
    obtain ⟨owner, howner, hle⟩ := hs other hother
    have hne : case.caseId ≠ other.caseId := by
      intro heq
      rw [heq, howner] at hnew
      cases hnew
    exact ⟨owner, (CaseTables.case?_insert_other hinsert hne).trans howner, hle⟩
  · intro other hother
    obtain ⟨hid, hsequence, hversion, ⟨current, hcurrent, hv⟩, -, hevents, -⟩ :=
      CaseTables.append_eq_ok happend
    rw [hevents, List.mem_append, List.mem_singleton] at hother
    rcases hother with hother | rfl
    · obtain ⟨owner, howner, hle⟩ := hs other hother
      by_cases heq : case.caseId = other.caseId
      · rw [← heq] at howner ⊢
        obtain rfl : owner = current := Option.some.inj (howner.symm.trans hcurrent)
        exact ⟨case, CaseTables.case?_append_self happend, by omega⟩
      · exact ⟨owner, (CaseTables.case?_append_other happend heq).trans howner, hle⟩
    · rw [hid]
      exact ⟨case, CaseTables.case?_append_self happend, by omega⟩

/-- In every state of every history the events are in sequence. -/
theorem sequenced_of_history (hrun : Steps StoreStep {} h s) : s.Sequenced :=
  hrun.stateInvariant Stores.Sequenced (fun event hevent => by cases hevent)
    fun _ _ _ ha hstep => hstep.sequenced ha

/-- An event of a history that stored a job of a case. -/
def PutsJob (caseId : String) (e : Event operations PyError) : Prop :=
  ∃ job, e = ⟨.putJob job, .ok ()⟩ ∧ job.caseId = caseId

/-- Job rows come from nothing but stored jobs and never leave. -/
theorem StoreStep.jobs (hstep : StoreStep s e s') :
    (s'.jobs.map ExecutionJob.caseId = s.jobs.map ExecutionJob.caseId ∧
        ∀ caseId, ¬PutsJob caseId e) ∨
      ∃ job, e = ⟨.putJob job, .ok ()⟩ ∧ s'.jobs = s.jobs ++ [job] := by
  obtain ⟨o, r⟩ := e
  by_cases hfree : JobFree o
  · refine .inl ⟨by rw [world_jobs hstep hfree], ?_⟩
    rintro caseId ⟨job, heq, -⟩
    cases heq
    exact hfree
  rcases world_cases hstep with hperform | ⟨rfl, hquiet⟩
  · cases o
    case putJob job =>
      simp only [Stores.perform, commit, Option.some.injEq] at hperform
      split at hperform
      · rename_i jobs hput
        cases hperform
        unfold JobTable.put at hput
        split at hput
        · cases hput
        · cases hput
          exact .inr ⟨job, rfl, rfl⟩
      · cases hperform
        exact .inl ⟨rfl, by rintro caseId ⟨job, heq, -⟩; cases heq⟩
    case claimDue now workerId leaseUntil =>
      have hclaim := @JobTable.map_claim s.jobs now _ ExecutionJob.caseId
        (fun _ _ _ _ _ _ => rfl) workerId leaseUntil
      cases hperform
      exact .inl ⟨hclaim, by rintro caseId ⟨job, heq, -⟩; cases heq⟩
    case completeJob jobId workerId state detail =>
      have hcomplete := @JobTable.map_complete s.jobs _ ExecutionJob.caseId
        (fun _ _ _ _ _ _ => rfl) jobId workerId state detail
      cases hperform
      exact .inl ⟨hcomplete, by rintro caseId ⟨job, heq, -⟩; cases heq⟩
    all_goals exact absurd trivial hfree
  · refine .inl ⟨rfl, ?_⟩
    rintro caseId ⟨job, heq, -⟩
    cases heq
    rcases hquiet with hnone | ⟨e, he⟩
    · cases hnone
    · cases he

/-- A case has a job row exactly when some step of the history stored one. -/
theorem jobs_of_history (hrun : Steps StoreStep {} h s) (caseId : String) :
    (∀ job ∈ s.jobs, job.caseId ≠ caseId) ↔ ∀ e ∈ h, ¬PutsJob caseId e := by
  have hkeys : ∀ jobs : JobTable, (∀ job ∈ jobs, job.caseId ≠ caseId) ↔
      caseId ∉ jobs.map ExecutionJob.caseId := by
    intro jobs
    simp [List.mem_map]
  refine hrun.invariant (fun h s => (∀ job ∈ s.jobs, job.caseId ≠ caseId) ↔
    ∀ e ∈ h, ¬PutsJob caseId e) (by simp) ?_
  intro h a e b _ ih hstep
  rcases hstep.jobs with ⟨hsame, hputs⟩ | ⟨job, rfl, hjobs⟩
  · rw [hkeys, hsame, ← hkeys, ih]
    constructor
    · intro hnone e' he'
      rcases List.mem_append.mp he' with he' | he'
      · exact hnone e' he'
      · rw [List.mem_singleton.mp he']
        exact hputs caseId
    · intro hnone e' he'
      exact hnone e' (List.mem_append_left _ he')
  · rw [hjobs]
    simp only [List.mem_append, List.mem_singleton, or_imp, forall_and, forall_eq, ih]
    refine and_congr_right fun _ => not_congr ?_
    constructor
    · intro heq
      exact ⟨job, rfl, heq⟩
    · rintro ⟨other, heq, hcase⟩
      cases heq
      exact hcase

/-- An operation in a history in which cases are opened and changed by the state machine, and
only `SCHEDULE_EXECUTION` supplies a schedule. -/
structure LawfulStep (s : Stores) (e : Event operations PyError) (s' : Stores) : Prop where
  step : StoreStep s e s'
  opened : ∀ case, e = ⟨.insertCase case, .ok ()⟩ → Opened case
  applied : ∀ case event v, e = ⟨.appendCase case event v, .ok ()⟩ →
    ∃ base transition args, s.cases.case? base.caseId = some base ∧
      transitionCase base transition args = .ok (case, event) ∧
      (args.recordIds.lookup "schedule_id" ≠ none → transition = .scheduleExecution)

/-- The effective states from approval on. -/
def decidedStates : List CaseState :=
  [.approved, .executing, .verifying, .remediated, .rollingBack, .rolledBack]

/-- A case carries a schedule from its approval on only. -/
def ScheduleHeld (case : RemediationCase) : Prop :=
  case.recordIds.lookup "schedule_id" ≠ none → case.effectiveState ∈ decidedStates

/-- From a decided state only a reopening leads back. -/
theorem decidedStates_closed : ∀ state transition, state ∈ decidedStates →
    ∀ state', effectiveTransition state transition false = some state' →
      state' ∈ decidedStates := by
  decide

/-- Scheduling happens in an approved case. -/
theorem Leads.scheduled {case : RemediationCase} {args : TransitionArgs} {target : Target}
    (h : Leads case args .scheduleExecution target) :
    case.state = .approved ∧ target.toState = .approved ∧ target.reopened = false := by
  cases h with
  | scheduleExecution hstate => exact ⟨hstate, hstate, rfl⟩
  | linear hlinear => cases hs : case.state <;> rw [hs] at hlinear <;> cases hlinear

/-- Only a new finding reopens. -/
theorem Leads.reopened {case : RemediationCase} {transition : CaseTransition}
    {args : TransitionArgs} {target : Target} (h : Leads case args transition target)
    (hreopened : target.reopened = true) : transition = .addFinding := by
  cases h <;> first | rfl | cases hreopened

/-- A transition keeps that a case carries a schedule from its approval on only. -/
theorem ScheduleHeld.step {base case : RemediationCase} {transition : CaseTransition}
    {args : TransitionArgs} {event : CaseEvent} (hbase : ScheduleHeld base)
    (hnext : transitionCase base transition args = .ok (case, event))
    (hsupplied : args.recordIds.lookup "schedule_id" ≠ none → transition = .scheduleExecution) :
    ScheduleHeld case := by
  obtain ⟨target, haccepted⟩ := transitionCase_accepted hnext
  intro hheld
  by_cases hschedule : transition = .scheduleExecution
  · subst hschedule
    obtain ⟨-, hstate, -⟩ := haccepted.led.scheduled
    rw [RemediationCase.effectiveState, haccepted.state, hstate,
      effectiveOf_of_ne (by decide)]
    decide
  · have hnone : args.recordIds.lookup "schedule_id" = none := by
      by_contra hsome
      exact hschedule (hsupplied hsome)
    rw [haccepted.recordIds, lookup_mergeRecords, hnone, Option.none_or] at hheld
    cases hreopened : target.reopened with
    | true =>
      obtain rfl := haccepted.led.reopened hreopened
      rw [hreopened] at hheld
      exact absurd rfl hheld
    | false =>
      split at hheld
      · exact absurd rfl hheld
      · have heffective := haccepted.effectiveState
        rw [hreopened] at heffective
        exact decidedStates_closed _ _ (hbase hheld) _ heffective

/-- A lawful operation keeps the cases' schedules to the decided states. -/
theorem LawfulStep.held (hstep : LawfulStep s e s')
    (hs : ∀ caseId case, s.cases.case? caseId = some case → ScheduleHeld case) :
    ∀ caseId case, s'.cases.case? caseId = some case → ScheduleHeld case := by
  intro caseId case hcase
  rcases world_caseTables hstep.step with heq | ⟨inserted, he, hinsert⟩ |
    ⟨appended, event, v, he, happend⟩
  · rw [heq] at hcase
    exact hs caseId case hcase
  · by_cases hid : inserted.caseId = caseId
    · subst hid
      rw [CaseTables.case?_insert_self hinsert] at hcase
      cases hcase
      intro hheld
      rw [(hstep.opened _ he).fields.2.2.1] at hheld
      exact absurd rfl hheld
    · rw [CaseTables.case?_insert_other hinsert hid] at hcase
      exact hs caseId case hcase
  · by_cases hid : appended.caseId = caseId
    · subst hid
      rw [CaseTables.case?_append_self happend] at hcase
      cases hcase
      obtain ⟨base, transition, args, hbase, hnext, hsupplied⟩ := hstep.applied _ _ _ he
      exact (hs _ _ hbase).step hnext hsupplied
    · rw [CaseTables.case?_append_other happend hid] at hcase
      exact hs caseId case hcase

/-- In every state of a lawful history a case carries a schedule from its approval on only. -/
theorem schedules_held (hrun : Steps LawfulStep {} h s) {case : RemediationCase}
    (hcase : s.cases.case? case.caseId = some case) : ScheduleHeld case := by
  refine hrun.stateInvariant (fun s => ∀ caseId case, s.cases.case? caseId = some case →
    ScheduleHeld case) ?_ (fun _ _ _ ha hstep => hstep.held ha) _ _ hcase
  intro caseId case hnone
  cases hnone

/-- An accepted transition of a stored case, appended. -/
theorem lawful_append {base case : RemediationCase} {transition : CaseTransition}
    {args : TransitionArgs} {event : CaseEvent} {tables : CaseTables}
    (hbase : s.cases.case? base.caseId = some base)
    (hnext : transitionCase base transition args = .ok (case, event))
    (happend : s.cases.append case event base.version = .ok tables)
    (hsupplied : args.recordIds.lookup "schedule_id" ≠ none → transition = .scheduleExecution) :
    LawfulStep s ⟨.appendCase case event base.version, .ok ()⟩ { s with cases := tables } where
  step := by
    refine ⟨⟨none, fun _ => .error (valueError "")⟩, ?_⟩
    show commit s (s.cases.append case event base.version) _ _ = _
    rw [happend]
    rfl
  opened := by
    intro opened heq
    cases heq
  applied := by
    intro case' event' v heq
    cases heq
    exact ⟨base, transition, args, hbase, hnext, hsupplied⟩

/-- Apply transitions to a stored case while they are accepted. -/
def Stores.applyAll (caseId : String) : List (CaseTransition × TransitionArgs) → Stores →
    Option Stores
  | [], s => some s
  | (transition, args) :: rest, s =>
    match s.cases.case? caseId with
    | none => none
    | some base =>
      match transitionCase base transition args with
      | .error _ => none
      | .ok (case, event) =>
        match s.cases.append case event base.version with
        | .error _ => none
        | .ok tables =>
          if args.recordIds.lookup "schedule_id" = none then
            Stores.applyAll caseId rest { s with cases := tables }
          else none

/-- What `applyAll` computes is a lawful history. -/
theorem applyAll_lawful {caseId : String} {requests : List (CaseTransition × TransitionArgs)}
    (happly : s.applyAll caseId requests = some s') : ∃ h, Steps LawfulStep s h s' := by
  induction requests generalizing s with
  | nil =>
    cases happly
    exact ⟨[], .nil _⟩
  | cons request requests ih =>
    obtain ⟨transition, args⟩ := request
    simp only [Stores.applyAll] at happly
    split at happly
    · cases happly
    · rename_i base hbase
      split at happly
      · cases happly
      · rename_i case event hnext
        split at happly
        · cases happly
        · rename_i tables happend
          split at happly
          · rename_i hnone
            obtain ⟨h, hrest⟩ := ih happly
            have hid := CaseTables.case?_caseId hbase
            rw [← hid] at hbase
            exact ⟨_, .cons (lawful_append hbase hnext happend fun hsome => absurd hnone hsome)
              hrest⟩
          · cases happly

end histories

end ElCapitan
