import ElCapitan.Releases.Recovery

/-!
# The outcome of an execution

How `execute` ends when its own steps succeed and nothing else moves its case:
the driver, the health monitor, the probes and the audit runtime answer anything.
Once the change is deployed it ends remediated without a rollback, or with exactly
one rollback whose answers decide the rest.
-/

namespace ElCapitan

open Effects

section setting

/-- Do the services' own steps succeed: writes, the clock and new ids? -/
def served : (o : Operation) → Except PyError o.Answer → Bool
  | .putRecord _, .error _ | .appendCase _ _ _, .error _ => false
  | .makeDirectory _ _, .error _ | .writeNew _ _, .error _ => false
  | .now, .error _ | .newId _, .error _ => false
  | .now, .ok time => time ≠ ""
  | .newId kind, .ok id => id ≠ "" ∧ (kind = "EVD" → isEvidenceId id = true)
  | _, _ => true

/-- An execution that has the stores to itself and whose own steps succeed. -/
def undisturbed : Env operations PyError Stores := fun stores o r stores' =>
  served o r = true ∧ ∃ reply, performWith ⟨none, reply⟩ stores o = (r, stores')

/-- The state of a case in the store. -/
def stateOf (stores : Stores) (caseId : String) : Option CaseState :=
  (stores.cases.case? caseId).map RemediationCase.state

/-- How often the rollback was called. -/
def rollbackCalls (h : Trace) : ℕ := (h.filter isRollback).length

/-- An audit that allows the completion. -/
structure Accepts (P : Platform) (task : AgentTask) (audit : AgentResult) : Prop where
  succeeded : audit.status = .succeeded
  matched : validateResult task audit = []
  conforms : validateOutput P.describe "PostChangeReview.v1" (.obj audit.output) = .ok []
  accepted : audit.output.get "decision" = .str "accept"
  outcomes : (audit.output.get "validated_outcomes").truthy = true

/-- A run that left the change in place. -/
structure RemediatedRun (P : Platform) (caseId : String) (out : Except PyError ExecutionOutcome)
    (stores : Stores) (h : Trace) : Prop where
  kept : rollbackCalls h = 0
  state : stateOf stores caseId = some .remediated
  returned : ∃ outcome, out = .ok outcome ∧ outcome.rolledBack = false ∧ outcome.contained = false
  deployed : ∀ context checkpoint r, ⟨.deploy context checkpoint, r⟩ ∈ h →
    ∃ step, r = .ok step ∧ step.passed = true
  healthy : ∃ context after, ⟨.observe "after_deploy" context, .ok after⟩ ∈ h ∧
    after.healthy = true
  probed : ∃ name context r, ⟨.runProbe name context, r⟩ ∈ h
  passed : ∀ name context r, ⟨.runProbe name context, r⟩ ∈ h →
    ∃ result, r = .ok result ∧ result.passed = true
  /-- The audit accepted and cited all evidence collected before it. -/
  audited : ∃ before task audit after, h = before ++ ⟨.runAgent task, .ok audit⟩ :: after ∧
    Accepts P task audit ∧
      ∀ evidenceId, ⟨.newId "EVD", .ok evidenceId⟩ ∈ before → evidenceId ∈ audit.evidenceCited

/-- How a rollback ends, by the answers of the driver and of the health monitor. -/
inductive Restoration : Except PyError ActionStep → Except PyError HealthObservation →
    Except PyError ExecutionOutcome → CaseState → Prop
  | restored {step : ActionStep} {health : HealthObservation} {outcome : ExecutionOutcome}
      (hpassed : step.passed = true) (hhealthy : health.healthy = true)
      (hrestored : step.reports "checkpoint_restored" true = true)
      (houtcome : outcome.rolledBack = true ∧ outcome.contained = false) :
      Restoration (.ok step) (.ok health) (.ok outcome) .rolledBack
  | contained {step : ActionStep} {health : HealthObservation} {outcome : ExecutionOutcome}
      (hpassed : step.passed = true) (hhealthy : health.healthy = true)
      (hkept : step.reports "checkpoint_restored" true = false)
      (houtcome : outcome.rolledBack = false ∧ outcome.contained = true) :
      Restoration (.ok step) (.ok health) (.ok outcome) .blocked
  | failed {rollback : Except PyError ActionStep} {observed : Except PyError HealthObservation}
      {e : PyError} (hfailed : ∀ step health, rollback = .ok step → observed = .ok health →
        step.passed = false ∨ health.healthy = false) (hkind : e.kind = .actionPlaneError) :
      Restoration rollback observed (.error e) .blocked

/-- A run that attempted one rollback. -/
structure RolledBackRun (caseId : String) (out : Except PyError ExecutionOutcome)
    (stores : Stores) (h : Trace) : Prop where
  once : rollbackCalls h = 1
  ended : ∃ context checkpoint rollback observed state,
    ⟨.rollback context checkpoint, rollback⟩ ∈ h ∧ ⟨.observe "rollback" context, observed⟩ ∈ h ∧
      Restoration rollback observed out state ∧ stateOf stores caseId = some state

end setting

section log

/-- A call of a component. -/
def isCall : Event operations PyError → Bool
  | ⟨.deploy _ _, _⟩ | ⟨.rollback _ _, _⟩ | ⟨.observe _ _, _⟩ | ⟨.runProbe _ _, _⟩
  | ⟨.runAgent _, _⟩ => true
  | _ => false

/-- The id of an evidence file, if the event hands one out. -/
def evidenceOf : Event operations PyError → List String
  | ⟨.newId kind, .ok id⟩ => if kind = "EVD" then [id] else []
  | _ => []

/-- The calls of components so far, each with the evidence ids handed out before it. -/
structure CallLog where
  calls : List (Event operations PyError × List String)
  evidence : List String

/-- Log a call. -/
def CallLog.call (log : CallLog) (e : Event operations PyError) : CallLog :=
  { log with calls := log.calls ++ [(e, log.evidence)] }

/-- Log the ids of new evidence. -/
def CallLog.collect (log : CallLog) (ids : List String) : CallLog :=
  { log with evidence := log.evidence ++ ids }

/-- A call is logged with the evidence before it. -/
@[simp] theorem CallLog.calls_call (log : CallLog) (e : Event operations PyError) :
    (log.call e).calls = log.calls ++ [(e, log.evidence)] := rfl

/-- A call collects no evidence. -/
@[simp] theorem CallLog.evidence_call (log : CallLog) (e : Event operations PyError) :
    (log.call e).evidence = log.evidence := rfl

/-- Collecting evidence logs no call. -/
@[simp] theorem CallLog.calls_collect (log : CallLog) (ids : List String) :
    (log.collect ids).calls = log.calls := rfl

/-- Collected evidence comes last. -/
@[simp] theorem CallLog.evidence_collect (log : CallLog) (ids : List String) :
    (log.collect ids).evidence = log.evidence ++ ids := rfl

/-- Collecting nothing changes nothing. -/
@[simp] theorem CallLog.collect_nil (log : CallLog) : log.collect [] = log := by
  simp [CallLog.collect]

/-- Keep the log. -/
def CallLog.note (log : CallLog) (e : Event operations PyError) : CallLog :=
  if isCall e then log.call e else log.collect (evidenceOf e)

/-- The log of a trace. -/
def callLog (h : Trace) : CallLog := h.foldl CallLog.note ⟨[], []⟩

/-- The log of a longer trace notes its last step. -/
theorem callLog_snoc (h : Trace) (e : Event operations PyError) :
    callLog (h ++ [e]) = (callLog h).note e := by
  simp [callLog]

/-- The log holds the calls in their order. -/
theorem calls_callLog (h : Trace) : (callLog h).calls.map Prod.fst = h.filter isCall := by
  induction h using List.reverseRecOn with
  | nil => rfl
  | append_singleton h e ih =>
    rw [callLog_snoc]
    by_cases hcall : isCall e = true <;> simp [CallLog.note, hcall, ih]

/-- The logged evidence is that of the steps. -/
theorem evidence_callLog (h : Trace) : (callLog h).evidence = h.flatMap evidenceOf := by
  induction h using List.reverseRecOn with
  | nil => rfl
  | append_singleton h e ih =>
    rw [callLog_snoc]
    by_cases hcall : isCall e = true
    · have hnone : evidenceOf e = [] := by
        obtain ⟨o, r⟩ := e
        cases o <;> first | rfl | cases hcall
      simp [CallLog.note, hcall, ih, hnone]
    · simp [CallLog.note, hcall, ih]

/-- A call in the log was made after the evidence noted with it was handed out. -/
theorem exists_of_mem_calls {h : Trace} {e : Event operations PyError} {ids : List String}
    (hmem : (e, ids) ∈ (callLog h).calls) :
    ∃ before after, h = before ++ e :: after ∧ ids = before.flatMap evidenceOf := by
  induction h using List.reverseRecOn with
  | nil => cases hmem
  | append_singleton h e' ih =>
    rw [callLog_snoc] at hmem
    have hold : (e, ids) ∈ (callLog h).calls → ∃ before after,
        h ++ [e'] = before ++ e :: after ∧ ids = before.flatMap evidenceOf := by
      intro hmem
      obtain ⟨before, after, hsplit, hids⟩ := ih hmem
      exact ⟨before, after ++ [e'], by simp [hsplit], hids⟩
    by_cases hcall : isCall e' = true
    · simp only [CallLog.note, hcall, if_true, CallLog.calls_call, List.mem_append,
        List.mem_singleton] at hmem
      rcases hmem with hmem | hlast
      · exact hold hmem
      · cases hlast
        exact ⟨h, [], rfl, evidence_callLog h⟩
    · simp only [CallLog.note, hcall] at hmem
      exact hold hmem

/-- A logged call is a step of the trace. -/
theorem mem_of_mem_calls {h : Trace} {e : Event operations PyError} {ids : List String}
    (hmem : (e, ids) ∈ (callLog h).calls) : e ∈ h := by
  obtain ⟨before, after, rfl, -⟩ := exists_of_mem_calls hmem
  simp

/-- Every call is in the log. -/
theorem mem_calls_of_mem {h : Trace} {e : Event operations PyError} (hmem : e ∈ h)
    (hcall : isCall e = true) : e ∈ (callLog h).calls.map Prod.fst := by
  rw [calls_callLog]
  exact List.mem_filter.mpr ⟨hmem, hcall⟩

/-- The rollbacks can be counted in the log. -/
theorem rollbackCalls_eq (h : Trace) :
    rollbackCalls h = (((callLog h).calls.map Prod.fst).filter isRollback).length := by
  rw [calls_callLog, rollbackCalls, List.filter_filter]
  congr 1
  refine List.filter_congr fun e _ => ?_
  obtain ⟨o, r⟩ := e
  cases o <;> rfl

end log

section steps

variable {S : Settings} {C : Components} {caseId originator executionJobId : String}
  {started : Started} {stores : Stores} {log : CallLog} {β : Type}
  {Q : Except PyError β → Stores × CallLog → Prop}

/-- A part of `execute` in this setting: every way it can end satisfies `Q`. -/
abbrev Logged {α : Type} (p : Service α) (Q : Except PyError α → Stores × CallLog → Prop)
    (s : Stores × CallLog) : Prop :=
  Sat (Env.observed undisturbed CallLog.note) (fun _ _ => True) p Q s

/-- The services' other operations leave the stores alone. -/
theorem undisturbed_other {stores' : Stores} {o : Operation} {r : Except PyError o.Answer}
    (h : undisturbed stores o r stores') (hother : stores.perform o = none) :
    stores' = stores ∧ served o r = true := by
  obtain ⟨hserved, reply, hreply⟩ := h
  simp only [performWith, hother, Prod.mk.injEq] at hreply
  exact ⟨hreply.2.symm, hserved⟩

/-- The stores do what they do, without faults. -/
theorem undisturbed_store {stores' : Stores} {o : Operation} {r : Except PyError o.Answer}
    {result : Except PyError o.Answer × Stores} (h : undisturbed stores o r stores')
    (hstore : stores.perform o = some result) : (r, stores') = result ∧ served o r = true := by
  obtain ⟨hserved, reply, hreply⟩ := h
  simp only [performWith, hstore] at hreply
  exact ⟨hreply.symm, hserved⟩

/-- The clock. -/
theorem logged_now {f : String → Service β}
    (h : ∀ time, time ≠ "" → Logged (f time) Q (stores, log)) :
    Logged ((perform .now).bind f) Q (stores, log) := by
  refine sat_bind_perform_observed.mpr ⟨trivial, ?_, ?_⟩
  · rintro time stores' hanswer
    obtain ⟨rfl, hserved⟩ := undisturbed_other hanswer rfl
    have hne : time ≠ "" := by simpa [served] using hserved
    simpa [CallLog.note, isCall, evidenceOf] using h time hne
  · rintro e stores' ⟨hserved, -⟩
    cases hserved

/-- A new id that is not of an evidence file. -/
theorem logged_newId {kind : String} (hkind : kind ≠ "EVD") {f : String → Service β}
    (h : ∀ id, id ≠ "" → Logged (f id) Q (stores, log)) :
    Logged ((perform (.newId kind)).bind f) Q (stores, log) := by
  refine sat_bind_perform_observed.mpr ⟨trivial, ?_, ?_⟩
  · rintro id stores' hanswer
    obtain ⟨rfl, hserved⟩ := undisturbed_other hanswer rfl
    have hne : id ≠ "" := by simpa [served, hkind] using hserved
    simpa [CallLog.note, isCall, evidenceOf, hkind] using h id hne
  · rintro e stores' ⟨hserved, -⟩
    cases hserved

/-- A directory is made or a file written. -/
theorem logged_file {o : Operation} {f : o.Answer → Service β}
    (hfile : (∃ path existOk, o = .makeDirectory path existOk) ∨
      ∃ path content, o = .writeNew path content)
    (h : ∀ a, Logged (f a) Q (stores, log)) : Logged ((perform o).bind f) Q (stores, log) := by
  have hother : stores.perform o = none ∧ (∀ e, served o (.error e) = false) ∧
      ∀ r, log.note ⟨o, r⟩ = log := by
    rcases hfile with ⟨path, existOk, rfl⟩ | ⟨path, content, rfl⟩ <;>
      exact ⟨rfl, fun _ => rfl, fun r => by simp [CallLog.note, isCall, evidenceOf]⟩
  refine sat_bind_perform_observed.mpr ⟨trivial, ?_, ?_⟩
  · rintro a stores' hanswer
    obtain ⟨rfl, -⟩ := undisturbed_other hanswer hother.1
    rw [hother.2.2]
    exact h a
  · rintro e stores' ⟨hserved, -⟩
    rw [hother.2.1] at hserved
    cases hserved

/-- A record is put; no case changes. -/
theorem logged_putRecord {record : ProductRecord} {f : Unit → Service β}
    (h : ∀ records, Logged (f ()) Q ({ stores with records }, log)) :
    Logged ((perform (.putRecord record)).bind f) Q (stores, log) := by
  refine sat_bind_perform_observed.mpr ⟨trivial, ?_, ?_⟩
  · rintro ⟨⟩ stores' hanswer
    obtain ⟨hresult, -⟩ := undisturbed_store hanswer rfl
    have hput : ∃ records, stores' = { stores with records } := by
      unfold commit at hresult
      split at hresult
      · rename_i records _
        cases hresult
        exact ⟨records, rfl⟩
      · cases hresult
    obtain ⟨records, rfl⟩ := hput
    simpa [CallLog.note, isCall, evidenceOf] using h records
  · rintro e stores' ⟨hserved, -⟩
    cases hserved

/-- Evidence is written. -/
theorem executionEvidence_logged {runDir kind now : String} {document : Json} :
    Logged (executionEvidence S runDir kind document now)
      (fun out s => ∃ evidenceId, out = .ok evidenceId ∧
        s = (stores, log.collect [evidenceId])) (stores, log) := by
  unfold executionEvidence writeEvidence
  refine sat_bind_perform_observed.mpr ⟨trivial, ?_, ?_⟩
  · rintro evidenceId stores' hanswer
    obtain ⟨rfl, hserved⟩ := undisturbed_other hanswer rfl
    have hformat : evidenceId ≠ "" ∧ isEvidenceId evidenceId = true := by
      simpa [served] using hserved
    simp only [Prog.bind_eq, Prog.pure_eq, Prog.bind_assoc, Prog.ret_bind]
    refine sat_bind_raiseIf.mpr ⟨fun _ => ?_, fun hrefused => ?_⟩
    · refine logged_file (.inl ⟨_, _, rfl⟩) fun _ => ?_
      refine logged_file (.inr ⟨_, _, rfl⟩) fun _ => ?_
      exact ⟨evidenceId, rfl, by simp [CallLog.note, isCall, evidenceOf]⟩
    · rw [hformat.2] at hrefused
      cases hrefused
  · rintro e stores' ⟨hserved, -⟩
    cases hserved

/-- What a handler makes of an answer. -/
def handled {α : Type} (f : PyError → α) : Except PyError α → α
  | .ok a => a
  | .error e => f e

/-- A component answers anything, and what it raises is handled. -/
theorem component_logged {o : Operation} {f : PyError → o.Answer}
    (hcall : ∀ r, isCall ⟨o, r⟩ = true) (hother : stores.perform o = none) :
    Logged (Prog.handle (perform o) fun e => return f e)
      (fun out s => ∃ answer, out = .ok (handled f answer) ∧
        s = (stores, log.call ⟨o, answer⟩))
      (stores, log) := by
  refine sat_handle.mpr (sat_perform.mpr ⟨trivial, ?_⟩)
  rintro r ⟨stores', log'⟩ ⟨hanswer, rfl⟩
  obtain ⟨hsame, -⟩ := undisturbed_other hanswer hother
  have hnoted : (stores', log.note ⟨o, r⟩) = (stores, log.call ⟨o, r⟩) := by
    rw [CallLog.note, if_pos (hcall r)]
    exact Prod.ext hsame rfl
  cases r with
  | ok a => exact ⟨.ok a, rfl, hnoted⟩
  | error e => exact ⟨.error e, rfl, hnoted⟩

/-- The audit runtime answers anything. -/
theorem runAgent_logged {task : AgentTask} :
    Logged (Prog.handle
        (do let audit ← perform (.runAgent task)
            return Except.ok audit)
        fun e => return Except.error e)
      (fun out s => ∃ answer, out = .ok answer ∧ s = (stores, log.call ⟨.runAgent task, answer⟩))
      (stores, log) := by
  refine sat_handle.mpr (sat_bind_perform_observed.mpr ⟨trivial, ?_, ?_⟩)
  · intro audit stores' hanswer
    obtain ⟨rfl, -⟩ := undisturbed_other hanswer rfl
    exact ⟨.ok audit, rfl, by simp [CallLog.note, isCall]⟩
  · intro e stores' hanswer
    obtain ⟨rfl, -⟩ := undisturbed_other hanswer rfl
    exact ⟨.error e, rfl, by simp [CallLog.note, isCall]⟩

/-- `advance` on a case that nothing else moves. -/
theorem advance_logged {transition : CaseTransition} {args : TransitionArgs} :
    Logged (advance caseId transition args)
      (fun out s => s.2 = log ∧
        match stores.cases.get caseId >>= fun case => transitionCase case transition args with
        | .ok (case', _) => out = .ok case' ∧ s.1.cases.case? caseId = some case'
        | .error e => out = .error e) (stores, log) := by
  have hnote : ∀ r, log.note ⟨.advanceRead caseId transition args, r⟩ = log := by
    simp [CallLog.note, isCall, evidenceOf]
  unfold advance
  refine sat_bind_perform_observed.mpr ⟨trivial, ?_, ?_⟩
  · rintro current stores' hanswer
    obtain ⟨hresult, -⟩ := undisturbed_store hanswer rfl
    simp only [Prod.mk.injEq] at hresult
    obtain ⟨hget, rfl⟩ := hresult
    rw [hnote, ← hget]
    refine sat_bind_ofExcept.mpr ⟨?_, fun e herror => ?_⟩
    · rintro ⟨case', event⟩ haccepted
      have hid : case'.caseId = caseId := by
        obtain ⟨target, h⟩ := transitionCase_accepted haccepted
        rw [h.caseId, CaseTables.case?_caseId (CaseTables.get_eq_ok.mp hget.symm)]
      refine sat_bind_perform_observed.mpr ⟨trivial, ?_, ?_⟩
      · rintro ⟨⟩ stores' hanswer
        obtain ⟨hresult, -⟩ := undisturbed_store hanswer rfl
        have happend : stores'.cases.case? caseId = some case' := by
          unfold commit at hresult
          split at hresult
          · rename_i tables happend
            cases hresult
            have hself := CaseTables.case?_append_self happend
            rwa [hid] at hself
          · cases hresult
        exact ⟨by simp [CallLog.note, isCall, evidenceOf], by
          simpa [bind, Except.bind, haccepted] using happend⟩
      · rintro e stores' ⟨hserved, -⟩
        cases hserved
    · exact ⟨rfl, by simp [bind, Except.bind, herror]⟩
  · rintro e stores' hanswer
    obtain ⟨hresult, -⟩ := undisturbed_store hanswer rfl
    simp only [Prod.mk.injEq] at hresult
    obtain ⟨hget, rfl⟩ := hresult
    exact ⟨hnote _, by simp [bind, Except.bind, ← hget]⟩

/-- `advance` where the state machine accepts the transition. -/
theorem advance_accepted {transition : CaseTransition} {args : TransitionArgs}
    {state : CaseState} (state' : CaseState) (hstate : stateOf stores caseId = some state)
    (haccepted : ∀ case : RemediationCase, case.state = state → ∃ case' event,
      transitionCase case transition args = .ok (case', event) ∧ case'.state = state') :
    Logged (advance caseId transition args)
      (fun out s => (∃ case', out = .ok case') ∧ stateOf s.1 caseId = some state' ∧ s.2 = log)
      (stores, log) := by
  obtain ⟨case, hcase, hcurrent⟩ := Option.map_eq_some_iff.mp hstate
  obtain ⟨case', event, hnext, hstate'⟩ := haccepted case hcurrent
  refine advance_logged.mono ?_
  rintro out ⟨stores', log'⟩ ⟨hlog, hout⟩
  rw [CaseTables.get_eq_ok.mpr hcase] at hout
  simp only [bind, Except.bind, hnext] at hout
  exact ⟨⟨case', hout.1⟩, by simp [stateOf, hout.2, hstate'], hlog⟩

/-- A linear transition with its required record is accepted. -/
theorem linear_accepted {transition : CaseTransition} {name recordId : String}
    {args : TransitionArgs} {state state' : CaseState} (hlive : state ∉ terminalCaseStates)
    (hlinear : linearTransition state transition = some state')
    (hplain : transition ∉ [CaseTransition.prioritize, .preparePlan, .selectWindow])
    (hrequired : requiredRecord transition = some name)
    (hrecord : args.recordIds.lookup name = some recordId) (hid : recordId ≠ "")
    (hattached : args.priority = none ∧ args.changePlan = none ∧ args.changeWindow = none ∧
      args.newFindingIds = [])
    (hevent : args.eventId ≠ "" ∧ args.actor ≠ "" ∧ args.occurredAt ≠ "") :
    ∀ case : RemediationCase, case.state = state → ∃ case' event,
      transitionCase case transition args = .ok (case', event) ∧ case'.state = state' := by
  rintro case rfl
  have htarget : transitionTarget case transition args = .ok { toState := state' } := by
    cases transition
    case addFinding | reprioritize | scheduleExecution | retrySre | requestRework
        | reselectWindow | block | resume | closeNoAction | reject =>
      cases hs : case.state <;> rw [hs] at hlinear <;> cases hlinear
    all_goals simp only [transitionTarget, hlinear]
  refine transitionCase_of_target (RemediationCase.terminal_eq_false.mpr hlive) ?_ htarget ?_ hevent
  · simp [suppliesRequired, hrequired, hrecord, hid]
  · obtain ⟨hpriority, hplan, hwindow, hfindings⟩ := hattached
    simp only [List.mem_cons, List.not_mem_nil, or_false, not_or] at hplain
    simp [checkAttachments, raiseIf, hpriority, hplan, hwindow, hfindings, hplain.1,
      hplain.2.1, hplain.2.2, bind, Except.bind]

/-- `BLOCK` with a reason is accepted while a rollback is under way. -/
theorem block_accepted {args : TransitionArgs} (hdetail : args.detail ≠ "")
    (hattached : args.priority = none ∧ args.changePlan = none ∧ args.changeWindow = none ∧
      args.newFindingIds = [])
    (hevent : args.eventId ≠ "" ∧ args.actor ≠ "" ∧ args.occurredAt ≠ "") :
    ∀ case : RemediationCase, case.state = .rollingBack → ∃ case' event,
      transitionCase case .block args = .ok (case', event) ∧ case'.state = .blocked := by
  intro case hstate
  have htarget : transitionTarget case .block args =
      .ok { toState := .blocked, blockedFrom := some case.state } := by
    simp [transitionTarget, hstate, hdetail]
  obtain ⟨hpriority, hplan, hwindow, hfindings⟩ := hattached
  refine transitionCase_of_target ?_ rfl htarget ?_ hevent
  · rw [RemediationCase.terminal_eq_false, hstate]
    decide
  · simp [checkAttachments, raiseIf, hpriority, hplan, hwindow, hfindings, bind, Except.bind]

/-- `_rollback`: one call of the driver and one of the monitor, and what follows from their
answers. -/
theorem rollBack_logged {evidenceIds : List String} {reason : String} {state : CaseState}
    (hcase : caseId ≠ "") (hstate : stateOf stores caseId = some state)
    (hopen : state = .executing ∨ state = .verifying) :
    Logged (rollBack S C caseId started evidenceIds reason)
      (fun out s => ∃ rollback observed state',
        s.2.calls = log.calls ++
          [(⟨.rollback started.context started.checkpoint, rollback⟩, log.evidence),
            (⟨.observe "rollback" started.context, observed⟩, log.evidence)] ∧
        Restoration rollback observed out state' ∧ stateOf s.1 caseId = some state')
      (stores, log) := by
  unfold rollBack
  refine logged_now fun now hnow => ?_
  refine logged_newId (by decide) fun rollbackId hrollbackId => ?_
  refine sat_bind.mpr ((component_logged (fun _ => rfl) rfl).mono ?_)
  rintro _ _ ⟨rollback, rfl, rfl⟩
  refine sat_bind.mpr ((component_logged (fun _ => rfl) rfl).mono ?_)
  rintro _ _ ⟨observed, rfl, rfl⟩
  refine sat_bind.mpr (executionEvidence_logged.mono ?_)
  rintro _ _ ⟨rollbackEvidence, rfl, rfl⟩
  refine sat_bind_ofExcept.mpr ⟨fun record hrecord => ?_, fun e herror => ?_⟩
  · refine logged_putRecord fun records => ?_
    refine logged_newId (by decide) fun eventId heventId => ?_
    have hput : stateOf { stores with records } caseId = some state := hstate
    refine sat_bind.mpr ((advance_accepted .rollingBack hput ?_).mono ?_)
    · have hlinear : linearTransition state .startRollback = some .rollingBack := by
        rcases hopen with rfl | rfl <;> rfl
      have hlive : state ∉ terminalCaseStates := by
        rcases hopen with rfl | rfl <;> decide
      exact linear_accepted hlive hlinear (by decide) rfl (lookup_recordIdsOf_self _ _)
        hrollbackId ⟨rfl, rfl, rfl, rfl⟩ ⟨heventId, by simp, hnow⟩
    rintro _ ⟨stores₁, log₁⟩ ⟨⟨case₁, rfl⟩, hstate₁, rfl⟩
    refine sat_ite.mpr ⟨fun hfailed => ?_, fun hrecovered => ?_⟩
    · refine logged_newId (by decide) fun eventId heventId => ?_
      refine logged_now fun occurredAt hoccurredAt => ?_
      refine sat_bind.mpr ((advance_accepted .blocked hstate₁ ?_).mono ?_)
      · exact block_accepted (by simp) ⟨rfl, rfl, rfl, rfl⟩ ⟨heventId, by simp, hoccurredAt⟩
      rintro _ ⟨stores₂, log₂⟩ ⟨⟨case₂, rfl⟩, hstate₂, rfl⟩
      refine ⟨rollback, observed, .blocked, by simp, .failed ?_ rfl, hstate₂⟩
      rintro step health rfl rfl
      exact hfailed
    · simp only [not_or, Bool.not_eq_false] at hrecovered
      obtain ⟨step, rfl⟩ : ∃ step, rollback = .ok step := by
        cases rollback with
        | ok step => exact ⟨step, rfl⟩
        | error e => cases hrecovered.1
      obtain ⟨health, rfl⟩ : ∃ health, observed = .ok health := by
        cases observed with
        | ok health => exact ⟨health, rfl⟩
        | error e => cases hrecovered.2
      refine logged_newId (by decide) fun verificationId hverificationId => ?_
      refine logged_now fun createdAt _ => ?_
      refine sat_bind_ofExcept.mpr ⟨fun verification _ => ?_, fun e herror => ?_⟩
      · refine logged_putRecord fun records => ?_
        refine logged_newId (by decide) fun eventId heventId => ?_
        refine logged_now fun occurredAt hoccurredAt => ?_
        have hput : stateOf { stores₁ with records } caseId = some .rollingBack := hstate₁
        refine sat_ite.mpr ⟨fun hkept => ?_, fun hrestored => ?_⟩
        · refine sat_bind.mpr ((advance_accepted .blocked hput ?_).mono ?_)
          · exact block_accepted (by simp) ⟨rfl, rfl, rfl, rfl⟩
              ⟨heventId, by simp, hoccurredAt⟩
          rintro _ ⟨stores₂, log₂⟩ ⟨⟨case₂, rfl⟩, hstate₂, rfl⟩
          exact ⟨.ok step, .ok health, .blocked, by simp,
            .contained hrecovered.1 hrecovered.2 hkept ⟨rfl, rfl⟩, hstate₂⟩
        · refine sat_bind.mpr ((advance_accepted .rolledBack hput ?_).mono ?_)
          · exact linear_accepted (by decide) rfl (by decide) rfl (lookup_recordIdsOf_self _ _)
              hverificationId ⟨rfl, rfl, rfl, rfl⟩ ⟨heventId, by simp, hoccurredAt⟩
          rintro _ ⟨stores₂, log₂⟩ ⟨⟨case₂, rfl⟩, hstate₂, rfl⟩
          exact ⟨.ok step, .ok health, .rolledBack, by simp, .restored hrecovered.1 hrecovered.2
            (by simpa [handled] using hrestored) ⟨rfl, rfl⟩, hstate₂⟩
      · simp [ProductRecord.create, hverificationId, hcase] at herror
  · simp [ProductRecord.create, hrollbackId, hcase] at herror

/-- A fresh record is put. -/
theorem newRecord_logged {kind recordType : String} {body : String → String → Document}
    {evidenceIds : List String} {next : String → ProductRecord → Service β}
    (hkind : kind ≠ "EVD") (hcase : caseId ≠ "") (htype : recordType ≠ "")
    (hnext : ∀ recordId record records, recordId ≠ "" →
      Logged (next recordId record) Q ({ stores with records }, log)) :
    Logged ((perform (.newId kind)).bind fun recordId =>
      (perform .now).bind fun createdAt =>
      (Prog.ofExcept (ProductRecord.create recordId caseId recordType 1 createdAt
        (body recordId createdAt) evidenceIds)).bind fun record =>
      (perform (.putRecord record)).bind fun _ => next recordId record) Q (stores, log) := by
  refine logged_newId hkind fun recordId hrecordId => ?_
  refine logged_now fun createdAt _ => ?_
  refine sat_bind_ofExcept.mpr ⟨fun record _ => ?_, fun e herror => ?_⟩
  · exact logged_putRecord fun records => hnext recordId record records hrecordId
  · simp [ProductRecord.create, hrecordId, hcase, htype] at herror

/-- The last records and the completion. -/
theorem completeExecution_logged {probes : List ProbeResult} {audit : AgentResult}
    {accumulated : List String} (hcase : caseId ≠ "")
    (hids : ∃ ids, approvedFindingIds started.context = .ok ids)
    (hstate : stateOf stores caseId = some .verifying) :
    Logged (completeExecution caseId originator started probes audit accumulated)
      (fun out s => (∃ outcome, out = .ok outcome ∧ outcome.rolledBack = false ∧
        outcome.contained = false) ∧ stateOf s.1 caseId = some .remediated ∧ s.2 = log)
      (stores, log) := by
  obtain ⟨ids, hids⟩ := hids
  unfold completeExecution
  refine newRecord_logged (by decide) hcase (by decide)
    fun verificationId _ records hverification => ?_
  simp only [hids, Prog.ofExcept, Prog.bind_eq, Prog.ret_bind]
  refine newRecord_logged (by decide) hcase (by decide) fun certificateId _ records _ => ?_
  refine newRecord_logged (by decide) hcase (by decide) fun handoffId _ records _ => ?_
  refine logged_newId (by decide) fun eventId heventId => ?_
  refine logged_now fun occurredAt hoccurredAt => ?_
  have hput : stateOf { stores with records } caseId = some .verifying := hstate
  refine sat_bind.mpr ((advance_accepted .remediated hput ?_).mono ?_)
  · exact linear_accepted (by decide) rfl (by decide) rfl (by simp [recordIdsOf]) hverification
      ⟨rfl, rfl, rfl, rfl⟩ ⟨heventId, by simp, hoccurredAt⟩
  rintro _ ⟨stores₁, log₁⟩ ⟨⟨case₁, rfl⟩, hstate₁, rfl⟩
  exact ⟨⟨_, rfl, rfl, rfl⟩, hstate₁, rfl⟩

/-- The probes are run one after the other. -/
theorem runProbes_logged {context : ExecutionContext} {names : List String} :
    Logged (runProbes caseId context names)
      (fun out s => ∃ results calls, out = .ok results ∧
        s = (stores, { log with calls := log.calls ++ calls }) ∧
        calls.length = results.length ∧
        (∀ call ∈ calls, ∃ name r, call.1 = ⟨.runProbe name context, r⟩) ∧
        ((∀ result ∈ results, result.passed = true) → ∀ call ∈ calls, ∃ name result,
          call.1 = ⟨.runProbe name context, .ok result⟩ ∧ result.passed = true))
      (stores, log) := by
  induction names generalizing log with
  | nil => exact ⟨[], [], rfl, by simp, rfl, by simp, by simp⟩
  | cons name rest ih =>
    unfold runProbes
    refine sat_bind.mpr ((component_logged (fun _ => rfl) rfl).mono ?_)
    rintro _ _ ⟨answer, rfl, rfl⟩
    refine sat_bind.mpr (ih.mono ?_)
    rintro _ _ ⟨results, calls, rfl, rfl, hlength, hprobes, hpassed⟩
    refine ⟨_, (⟨.runProbe name context, answer⟩, log.evidence) :: calls, rfl, by simp,
      by simp [hlength], ?_, ?_⟩
    · rintro call (_ | ⟨_, hcall⟩)
      · exact ⟨name, answer, rfl⟩
      · exact hprobes call hcall
    · intro hall call hcall
      obtain ⟨hfirst, hrest⟩ := List.forall_mem_cons.mp hall
      rcases List.mem_cons.mp hcall with rfl | hcall
      · cases answer with
        | ok result => exact ⟨name, result, rfl, hfirst⟩
        | error e => cases hfirst
      · exact hpassed hrest call hcall

/-- The run left the change in place, as the log shows. -/
structure KeptRun (P : Platform) (caseId : String)
    (before : List (Event operations PyError × List String))
    (out : Except PyError ExecutionOutcome) (s : Stores × CallLog) : Prop where
  returned : ∃ outcome, out = .ok outcome ∧ outcome.rolledBack = false ∧ outcome.contained = false
  state : stateOf s.1 caseId = some .remediated
  /-- The probes follow what was called before, and the audit follows the probes. -/
  calls : ∃ context probes task audit evidence,
    s.2.calls = before ++ probes ++ [(⟨.runAgent task, .ok audit⟩, evidence)] ∧ probes ≠ [] ∧
      (∀ call ∈ probes, ∃ name result,
        call.1 = ⟨.runProbe name context, .ok result⟩ ∧ result.passed = true) ∧
      Accepts P task audit ∧ ∀ evidenceId ∈ evidence, evidenceId ∈ audit.evidenceCited

/-- The run rolled the change back, as the log shows. -/
structure RestoredRun (caseId : String) (started : Started) (out : Except PyError ExecutionOutcome)
    (s : Stores × CallLog) : Prop where
  calls : ∃ before rollback observed evidence state,
    s.2.calls = before ++
      [(⟨.rollback started.context started.checkpoint, rollback⟩, evidence),
        (⟨.observe "rollback" started.context, observed⟩, evidence)] ∧
      (∀ call ∈ before, isRollback call.1 = false) ∧
      Restoration rollback observed out state ∧ stateOf s.1 caseId = some state

/-- A rollback after calls that are none. -/
theorem rollBack_restored {evidenceIds : List String} {reason : String} {state : CaseState}
    (hcase : caseId ≠ "") (hstate : stateOf stores caseId = some state)
    (hopen : state = .executing ∨ state = .verifying)
    (hbefore : ∀ call ∈ log.calls, isRollback call.1 = false) :
    Logged (rollBack S C caseId started evidenceIds reason) (RestoredRun caseId started)
      (stores, log) := by
  refine (rollBack_logged hcase hstate hopen).mono ?_
  rintro out s ⟨rollback, observed, state', hcalls, hrestoration, hstate'⟩
  exact ⟨log.calls, rollback, observed, log.evidence, state', hcalls, hbefore, hrestoration,
    hstate'⟩

/-- An audit without failures that neither asks for a rollback nor for a human accepts. -/
theorem accepts_of_auditFailures {P : Platform} {task : AgentTask} {audit : AgentResult}
    {accumulated contractFailures : List String}
    (hcontract : validateOutput P.describe "PostChangeReview.v1" (.obj audit.output) =
      .ok contractFailures)
    (hnone : auditFailures task accumulated contractFailures audit = [])
    (hrollback : audit.output.text "decision" ≠ "rollback")
    (hhuman : audit.output.text "decision" ≠ "needs_human_context") :
    Accepts P task audit ∧ ∀ evidenceId ∈ accumulated, evidenceId ∈ audit.evidenceCited := by
  simp only [auditFailures, List.append_eq_nil_iff, failureIf_eq_nil, not_not, not_and] at hnone
  obtain ⟨⟨⟨⟨hmatched, rfl⟩, hstatus⟩, hcited⟩, houtcomes⟩ := hnone
  obtain ⟨decision, hlookup, hmem⟩ := postChangeReview_decision hcontract
  have htext : audit.output.text "decision" = decision := by
    simp [Document.text, hlookup, Json.str?]
  rw [htext] at hrollback hhuman houtcomes
  have haccept : decision = "accept" := by
    simpa [hrollback, hhuman] using hmem
  subst haccept
  refine ⟨⟨hstatus, hmatched, hcontract, ?_, ?_⟩, hcited⟩
  · simp [Document.get, hlookup]
  · simpa using houtcomes rfl

/-- `execute` from the probes on. -/
theorem verifyExecution_logged {case : RemediationCase} {resultRecord : ProductRecord}
    {accumulated : List String} (hcase : caseId ≠ "")
    (hids : ∃ ids, approvedFindingIds started.context = .ok ids)
    (hstate : stateOf stores caseId = some .verifying)
    (hbefore : ∀ call ∈ log.calls, isRollback call.1 = false)
    (hevidence : ∀ evidenceId ∈ log.evidence, evidenceId ∈ accumulated) :
    Logged (verifyExecution S C caseId originator started case resultRecord accumulated)
      (fun out s => KeptRun S.platform caseId log.calls out s ∨ RestoredRun caseId started out s)
      (stores, log) := by
  unfold verifyExecution
  refine sat_bind.mpr (runProbes_logged.mono ?_)
  rintro _ _ ⟨probes, calls, rfl, rfl, hlength, hprobes, hpassed⟩
  have hquiet : ∀ call ∈ log.calls ++ calls, isRollback call.1 = false := by
    intro call hcall
    rcases List.mem_append.mp hcall with hcall | hcall
    · exact hbefore call hcall
    · obtain ⟨name, r, hr⟩ := hprobes call hcall
      rw [hr]
      rfl
  refine logged_now fun stamp _ => ?_
  refine sat_bind.mpr (executionEvidence_logged.mono ?_)
  rintro _ _ ⟨probeEvidence, rfl, rfl⟩
  refine sat_ite.mpr ⟨fun _ => ?_, fun hsome => ?_⟩
  · exact (rollBack_restored hcase hstate (.inr rfl) hquiet).mono fun _ _ h => .inr h
  refine sat_ite.mpr ⟨fun _ => ?_, fun hall => ?_⟩
  · exact (rollBack_restored hcase hstate (.inr rfl) hquiet).mono fun _ _ h => .inr h
  refine logged_newId (by decide) fun taskId htaskId => ?_
  refine sat_bind_ofExcept.mpr ⟨fun task htask => ?_, fun e herror => ?_⟩
  · obtain ⟨-, -, -, hcontract, -⟩ := AgentTask.create_eq_ok htask
    refine sat_bind.mpr (runAgent_logged.mono ?_)
    rintro _ _ ⟨answer, rfl, rfl⟩
    have haudited : ∀ call ∈ (log.calls ++ calls) ++
        [(⟨.runAgent task, answer⟩, log.evidence ++ [probeEvidence])],
        isRollback call.1 = false := by
      intro call hcall
      rcases List.mem_append.mp hcall with hcall | hcall
      · exact hquiet call hcall
      · rw [List.mem_singleton.mp hcall]
        rfl
    cases answer with
    | error e =>
      exact (rollBack_restored hcase hstate (.inr rfl) haudited).mono fun _ _ h => .inr h
    | ok audit =>
      refine sat_bind_ofExcept.mpr ⟨fun contractFailures hfailures => ?_, fun e herror => ?_⟩
      · rw [hcontract] at hfailures
        refine sat_ite.mpr ⟨fun _ => ?_, fun hnone => ?_⟩
        · exact (rollBack_restored hcase hstate (.inr rfl) haudited).mono fun _ _ h => .inr h
        refine logged_now fun stamp _ => ?_
        refine sat_bind.mpr (executionEvidence_logged.mono ?_)
        rintro _ _ ⟨auditEvidence, rfl, rfl⟩
        refine sat_ite.mpr ⟨fun _ => ?_, fun hrollback => ?_⟩
        · exact (rollBack_restored hcase hstate (.inr rfl) haudited).mono fun _ _ h => .inr h
        refine sat_ite.mpr ⟨fun _ => ?_, fun hhuman => ?_⟩
        · exact (rollBack_restored hcase hstate (.inr rfl) haudited).mono fun _ _ h => .inr h
        obtain ⟨haccepts, hcited⟩ :=
          accepts_of_auditFailures hfailures (not_not.mp hnone) hrollback hhuman
        refine (completeExecution_logged hcase hids hstate).mono ?_
        rintro out ⟨stores₁, log₁⟩ ⟨hreturned, hstate₁, rfl⟩
        refine .inl ⟨hreturned, hstate₁, started.context, calls, task, audit, _, rfl, ?_, ?_,
          haccepts, ?_⟩
        · rintro rfl
          exact hsome (List.length_eq_zero_iff.mp hlength.symm)
        · refine hpassed fun result hresult => ?_
          by_contra hfailed
          exact hall (List.ne_nil_of_mem (List.mem_filter.mpr ⟨hresult, by simpa using hfailed⟩))
        · intro evidenceId hmem
          apply hcited
          rw [mem_fromKeys]
          rcases List.mem_append.mp hmem with hmem | hmem
          · exact List.mem_append_left _ (hevidence evidenceId hmem)
          · exact List.mem_append_right _ hmem
      · rw [hcontract] at herror
        obtain ⟨failures, hfailures⟩ :=
          @postChangeReview_known S.platform.describe (.obj audit.output)
        rw [hfailures] at herror
        cases herror
  · simp [AgentTask.create, htaskId, hcase] at herror

/-- The calls of a release that kept the change: the deployment and the observation after
it, and then the probes and the audit. -/
structure Released (S : Settings) (caseId : String) (log : CallLog) (started : Started)
    (out : Except PyError ExecutionOutcome) (s : Stores × CallLog) : Prop where
  kept : ∃ deployment after, deployment.passed = true ∧ after.healthy = true ∧
    KeptRun S.platform caseId (log.calls ++
      [(⟨.deploy started.context started.checkpoint, .ok deployment⟩, log.evidence),
        (⟨.observe "after_deploy" started.context, .ok after⟩, log.evidence)]) out s

/-- `execute` from the deployment on. -/
theorem releaseExecution_logged (hcase : caseId ≠ "")
    (hids : ∃ ids, approvedFindingIds started.context = .ok ids)
    (hstate : stateOf stores caseId = some .executing)
    (hbefore : ∀ call ∈ log.calls, isRollback call.1 = false)
    (hevidence : log.evidence = [started.startEvidence]) :
    Logged (releaseExecution S C caseId originator started)
      (fun out s => Released S caseId log started out s ∨ RestoredRun caseId started out s)
      (stores, log) := by
  unfold releaseExecution
  refine sat_bind.mpr ((component_logged (fun _ => rfl) rfl).mono ?_)
  rintro _ _ ⟨deployment, rfl, rfl⟩
  refine sat_bind.mpr ((component_logged (fun _ => rfl) rfl).mono ?_)
  rintro _ _ ⟨after, rfl, rfl⟩
  have hquiet : ∀ call ∈ (log.calls ++
      [(⟨.deploy started.context started.checkpoint, deployment⟩, log.evidence)]) ++
      [(⟨.observe "after_deploy" started.context, after⟩, log.evidence)],
      isRollback call.1 = false := by
    intro call hcall
    rcases List.mem_append.mp hcall with hcall | hcall
    · rcases List.mem_append.mp hcall with hcall | hcall
      · exact hbefore call hcall
      · rw [List.mem_singleton.mp hcall]
        rfl
    · rw [List.mem_singleton.mp hcall]
      rfl
  refine logged_now fun stamp _ => ?_
  refine sat_bind.mpr (executionEvidence_logged.mono ?_)
  rintro _ _ ⟨deployEvidence, rfl, rfl⟩
  refine sat_ite.mpr ⟨fun _ => ?_, fun hpassed => ?_⟩
  · exact (rollBack_restored hcase hstate (.inl rfl) hquiet).mono fun _ _ h => .inr h
  refine sat_ite.mpr ⟨fun _ => ?_, fun hhealthy => ?_⟩
  · exact (rollBack_restored hcase hstate (.inl rfl) hquiet).mono fun _ _ h => .inr h
  refine newRecord_logged (by decide) hcase (by decide) fun resultId resultRecord records hid => ?_
  refine logged_newId (by decide) fun eventId heventId => ?_
  refine logged_now fun occurredAt hoccurredAt => ?_
  have hput : stateOf { stores with records } caseId = some .executing := hstate
  refine sat_bind.mpr ((advance_accepted .verifying hput ?_).mono ?_)
  · exact linear_accepted (by decide) rfl (by decide) rfl (lookup_recordIdsOf_self _ _) hid
      ⟨rfl, rfl, rfl, rfl⟩ ⟨heventId, by simp, hoccurredAt⟩
  rintro _ ⟨stores₁, log₁⟩ ⟨⟨case₁, rfl⟩, hstate₁, rfl⟩
  refine (verifyExecution_logged hcase hids hstate₁ hquiet ?_).mono ?_
  · simp [hevidence]
  · rintro out s (hkept | hrestored)
    · cases deployment with
      | error e => simp [handled] at hpassed
      | ok deployment =>
        cases after with
        | error e => simp [handled] at hhealthy
        | ok after =>
          refine .inl ⟨deployment, after, by simpa [handled] using hpassed,
            by simpa [handled] using hhealthy, ?_⟩
          simpa using hkept
    · exact .inr hrestored

/-- An operation that reads the stores or asks outside, and is not logged. -/
theorem logged_reading {o : Operation} {f : o.Answer → Service β}
    (hquiet : ∀ r, log.note ⟨o, r⟩ = log)
    (hreads : ∀ result, stores.perform o = some result → result.2 = stores)
    (hok : ∀ a, Logged (f a) Q (stores, log)) (herror : ∀ e, Q (.error e) (stores, log)) :
    Logged ((perform o).bind f) Q (stores, log) := by
  have hkept : ∀ r stores', undisturbed stores o r stores' → stores' = stores := by
    intro r stores' hanswer
    cases hperform : stores.perform o with
    | none => exact (undisturbed_other hanswer hperform).1
    | some result =>
      obtain ⟨hresult, -⟩ := undisturbed_store hanswer hperform
      rw [← hreads result hperform, ← hresult]
  refine sat_bind_perform_observed.mpr ⟨trivial, fun a stores' hanswer => ?_,
    fun e stores' hanswer => ?_⟩
  · rw [hkept _ _ hanswer, hquiet]
    exact hok a
  · rw [hkept _ _ hanswer, hquiet]
    exact herror e

/-- What a started execution has done: the baseline was observed and evidence was written. -/
structure Prepared (caseId : String) (started : Started) (s : Stores × CallLog) : Prop where
  caseId_ne : caseId ≠ ""
  findings : ∃ ids, approvedFindingIds started.context = .ok ids
  state : stateOf s.1 caseId = some .executing
  evidence : s.2.evidence = [started.startEvidence]
  baseline : ∀ call ∈ s.2.calls, ∃ r, call.1 = ⟨.observe "baseline" started.context, r⟩

/-- A record that the execution reads. -/
theorem contextRecord_logged {case : RemediationCase} {name : String} :
    Logged (contextRecord case name) (fun _ s => s = (stores, log)) (stores, log) := by
  unfold contextRecord
  refine sat_bind_raiseIf.mpr ⟨fun _ => ?_, fun _ => rfl⟩
  refine logged_reading (fun r => by simp [CallLog.note, isCall, evidenceOf]) ?_ (fun found => ?_)
    fun e => rfl
  · rintro _ ⟨⟩
    rfl
  · exact sat_bind_raiseIf.mpr ⟨fun _ => rfl, fun _ => rfl⟩

/-- The records of an execution bound its findings. -/
theorem executionContext_logged {case : RemediationCase} :
    Logged (executionContext S case) (fun out s => s = (stores, log) ∧
      ∀ context, out = .ok context → ∃ ids, approvedFindingIds context = .ok ids)
      (stores, log) := by
  unfold executionContext
  refine sat_bind.mpr (contextRecord_logged.mono ?_)
  rintro (e | plan) _ rfl
  · exact ⟨rfl, by simp⟩
  refine sat_bind.mpr (contextRecord_logged.mono ?_)
  rintro (e | link) _ rfl
  · exact ⟨rfl, by simp⟩
  refine sat_bind.mpr (contextRecord_logged.mono ?_)
  rintro (e | approval) _ rfl
  · exact ⟨rfl, by simp⟩
  refine sat_bind.mpr (contextRecord_logged.mono ?_)
  rintro (e | window) _ rfl
  · exact ⟨rfl, by simp⟩
  refine sat_bind_ofExcept.mpr ⟨fun ids hids => ⟨rfl, ?_⟩, fun e _ => ⟨rfl, by simp⟩⟩
  rintro context ⟨⟩
  exact ⟨ids, hids⟩

/-- `START_EXECUTION` leads to `EXECUTING`. -/
theorem startExecution_state {case case' : RemediationCase} {args : TransitionArgs}
    {event : CaseEvent} (h : transitionCase case .startExecution args = .ok (case', event)) :
    case'.state = .executing := by
  obtain ⟨target, haccepted⟩ := transitionCase_accepted h
  have hled := haccepted.led
  rw [haccepted.state]
  cases hled with
  | linear hlinear =>
    cases hs : case.state <;> rw [hs] at hlinear <;> cases hlinear
    rfl

/-- `execute` up to its `START_EXECUTION` transition. -/
theorem startExecution_logged :
    Logged (startExecution S C caseId originator executionJobId)
      (fun out s => match out with
        | .ok started => Prepared caseId started s
        | .error _ => ∀ call ∈ s.2.calls, isDeploy call.1 = false) (stores, ⟨[], []⟩) := by
  have hnone : ∀ call ∈ ([] : List (Event operations PyError × List String)),
      isDeploy call.1 = false := by simp
  unfold startExecution
  refine logged_reading (fun r => by simp [CallLog.note, isCall, evidenceOf]) (by rintro _ ⟨⟩; rfl)
    (fun case => ?_) fun e => hnone
  refine sat_bind_ofExcept.mpr ⟨fun _ _ => ?_, fun e _ => hnone⟩
  refine logged_now fun now hnow => ?_
  refine sat_bind_ofExcept.mpr ⟨fun window _ => ?_, fun e _ => hnone⟩
  refine sat_bind_ofExcept.mpr ⟨fun inside _ => ?_, fun e _ => hnone⟩
  refine sat_bind_raiseIf.mpr ⟨fun _ => ?_, fun _ => hnone⟩
  refine sat_bind.mpr (executionContext_logged.mono ?_)
  rintro (e | context) _ ⟨rfl, hscoped⟩
  · exact hnone
  refine sat_bind_ofExcept.mpr ⟨fun expired _ => ?_, fun e _ => hnone⟩
  refine sat_bind_raiseIf.mpr ⟨fun _ => ?_, fun _ => hnone⟩
  refine logged_newId (by decide) fun executionId hexecutionId => ?_
  refine logged_reading (fun r => by simp [CallLog.note, isCall, evidenceOf]) (by rintro _ ⟨⟩)
    (fun preflight => ?_) fun e => hnone
  refine sat_bind_raiseIf.mpr ⟨fun _ => ?_, fun _ => hnone⟩
  refine sat_bind_perform_observed.mpr ⟨trivial, fun baseline stores' hanswer => ?_,
    fun e stores' hanswer => by simp [CallLog.note, isCall, isDeploy]⟩
  obtain ⟨rfl, -⟩ := undisturbed_other hanswer rfl
  have hbaseline : ∀ call ∈ (CallLog.note ⟨[], []⟩
      ⟨.observe "baseline" context, .ok baseline⟩).calls, isDeploy call.1 = false := by
    simp [CallLog.note, isCall, isDeploy]
  refine sat_bind_raiseIf.mpr ⟨fun _ => ?_, fun _ => hbaseline⟩
  refine logged_reading (fun r => by simp [CallLog.note, isCall, evidenceOf]) (by rintro _ ⟨⟩)
    (fun checkpoint => ?_) fun e => hbaseline
  refine sat_bind.mpr (executionEvidence_logged.mono ?_)
  rintro _ _ ⟨startEvidence, rfl, rfl⟩
  refine sat_bind_ofExcept.mpr ⟨fun execution hexecution => ?_, fun e _ => hbaseline⟩
  refine logged_putRecord fun records => ?_
  refine logged_newId (by decide) fun eventId heventId => ?_
  refine sat_bind.mpr (advance_logged.mono ?_)
  rintro out ⟨stores₁, log₁⟩ ⟨rfl, hout⟩
  split at hout
  · rename_i case' event haccepted
    obtain ⟨rfl, hcase'⟩ := hout
    obtain ⟨current, -, hnext⟩ := except_bind_eq_ok.mp haccepted
    have hcreated := ProductRecord.create_eq_ok hexecution
    exact {
      caseId_ne := hcreated.2.1 ▸ execution.required.2.1
      findings := hscoped context rfl
      state := by simp [stateOf, hcase', startExecution_state hnext]
      evidence := by simp [CallLog.note, isCall]
      baseline := by simp [CallLog.note, isCall] }
  · rw [hout]
    exact hbaseline

/-- Every run of `execute` in this setting ends as the law says, as the log shows. -/
theorem execute_logged :
    Logged (execute S C caseId originator executionJobId)
      (fun out s => (∃ call ∈ s.2.calls, isDeploy call.1 = true) → ∃ started log,
        (∀ call ∈ log.calls, ∃ r, call.1 = ⟨.observe "baseline" started.context, r⟩) ∧
        (Released S caseId log started out s ∨ RestoredRun caseId started out s))
      (stores, ⟨[], []⟩) := by
  refine sat_bind.mpr (startExecution_logged.mono ?_)
  rintro (e | started) ⟨stores₁, log₁⟩ hstarted
  · rintro ⟨call, hcall, hdeploy⟩
    rw [hstarted call hcall] at hdeploy
    cases hdeploy
  · refine (releaseExecution_logged hstarted.caseId_ne hstarted.findings hstarted.state ?_
      hstarted.evidence).mono ?_
    · intro call hcall
      obtain ⟨r, hr⟩ := hstarted.baseline call hcall
      rw [hr]
      rfl
    · intro out s h _
      exact ⟨started, log₁, hstarted.baseline, h⟩

/-- The log of a run that kept the change tells its trace. -/
theorem Released.remediatedRun {h : Trace} {out : Except PyError ExecutionOutcome}
    (hbaseline : ∀ call ∈ log.calls, ∃ r, call.1 = ⟨.observe "baseline" started.context, r⟩)
    (hreleased : Released S caseId log started out (stores, callLog h)) :
    RemediatedRun S.platform caseId out stores h := by
  obtain ⟨deployment, after, hpassed, hhealthy, hreturned, hstate, context, probes, task, audit,
    evidence, hcalls, hprobed, hprobes, haccepts, hcited⟩ := hreleased.kept
  simp only at hcalls
  have hcall : ∀ e ∈ h, isCall e = true →
      (∃ r, e = ⟨.observe "baseline" started.context, r⟩) ∨
      e = ⟨.deploy started.context started.checkpoint, .ok deployment⟩ ∨
      e = ⟨.observe "after_deploy" started.context, .ok after⟩ ∨
      (∃ name result, e = ⟨.runProbe name context, .ok result⟩ ∧ result.passed = true) ∨
      e = ⟨.runAgent task, .ok audit⟩ := by
    intro e hmem hcall
    obtain ⟨call, hlogged, rfl⟩ := List.mem_map.mp (mem_calls_of_mem hmem hcall)
    rw [hcalls] at hlogged
    simp only [List.mem_append, List.mem_cons, List.not_mem_nil, or_false] at hlogged
    rcases hlogged with ((hlogged | rfl | rfl) | hlogged) | rfl
    · exact .inl (hbaseline call hlogged)
    · exact .inr (.inl rfl)
    · exact .inr (.inr (.inl rfl))
    · exact .inr (.inr (.inr (.inl (hprobes call hlogged))))
    · exact .inr (.inr (.inr (.inr rfl)))
  obtain ⟨before, rest, hsplit, hbefore⟩ : ∃ before rest,
      h = before ++ ⟨.runAgent task, .ok audit⟩ :: rest ∧ evidence = before.flatMap evidenceOf :=
    exists_of_mem_calls (by simp [hcalls])
  refine ⟨?_, hstate, hreturned, ?_, ?_, ?_, ?_, before, task, audit, rest, hsplit, haccepts, ?_⟩
  · rw [rollbackCalls, List.length_eq_zero_iff, List.filter_eq_nil_iff]
    intro e hmem hrollback
    have hiscall : isCall e = true := by
      obtain ⟨o, r⟩ := e
      cases o <;> first | rfl | cases hrollback
    rcases hcall e hmem hiscall with ⟨r, rfl⟩ | rfl | rfl | ⟨name, result, rfl, -⟩ | rfl <;>
      cases hrollback
  · intro context checkpoint r hmem
    rcases hcall _ hmem rfl with ⟨r, hr⟩ | hr | hr | ⟨name, result, hr, -⟩ | hr
    · cases hr
    · cases hr
      exact ⟨deployment, rfl, hpassed⟩
    · cases hr
    · cases hr
    · cases hr
  · have hobserved : (⟨.observe "after_deploy" started.context, .ok after⟩, log.evidence) ∈
        (callLog h).calls := by
      simp [hcalls]
    exact ⟨started.context, after, mem_of_mem_calls hobserved, hhealthy⟩
  · obtain ⟨⟨e, ids⟩, hfirst⟩ := List.exists_mem_of_ne_nil probes hprobed
    obtain ⟨name, result, hresult, -⟩ := hprobes _ hfirst
    subst hresult
    have hprobe : (⟨.runProbe name context, .ok result⟩, ids) ∈ (callLog h).calls := by
      simp [hcalls, hfirst]
    exact ⟨name, context, .ok result, mem_of_mem_calls hprobe⟩
  · intro name context r hmem
    rcases hcall _ hmem rfl with ⟨r, hr⟩ | hr | hr | ⟨name, result, hr, hresult⟩ | hr
    · cases hr
    · cases hr
    · cases hr
    · cases hr
      exact ⟨result, rfl, hresult⟩
    · cases hr
  · intro evidenceId hmem
    apply hcited
    rw [hbefore, List.mem_flatMap]
    exact ⟨_, hmem, by simp [evidenceOf]⟩

/-- The log of a run that rolled the change back tells its trace. -/
theorem RestoredRun.rolledBackRun {h : Trace} {out : Except PyError ExecutionOutcome}
    (hrestored : RestoredRun caseId started out (stores, callLog h)) :
    RolledBackRun caseId out stores h := by
  obtain ⟨before, rollback, observed, evidence, state, hcalls, hbefore, hrestoration, hstate⟩ :=
    hrestored.calls
  simp only at hcalls
  have hnone : (before.map Prod.fst).filter isRollback = [] := by
    rw [List.filter_eq_nil_iff]
    intro e hmem
    obtain ⟨call, hcall, rfl⟩ := List.mem_map.mp hmem
    simp [hbefore call hcall]
  refine ⟨?_, started.context, started.checkpoint, rollback, observed, state, ?_, ?_,
    hrestoration, hstate⟩
  · rw [rollbackCalls_eq, hcalls, List.map_append, List.filter_append, hnone]
    rfl
  · have hmem : (⟨.rollback started.context started.checkpoint, rollback⟩, evidence) ∈
        (callLog h).calls := by
      simp [hcalls]
    exact mem_of_mem_calls hmem
  · have hmem : (⟨.observe "rollback" started.context, observed⟩, evidence) ∈
        (callLog h).calls := by
      simp [hcalls]
    exact mem_of_mem_calls hmem

/-- Once it has deployed, an undisturbed execution ends in exactly one of two ways: it keeps
the change without a rollback after every check passed, or it rolls back once and the
answers of the rollback decide the state of the case. -/
theorem execution_outcome {stores' : Stores} {out : Except PyError ExecutionOutcome} {h : Trace}
    (hrun : Runs (Env.recorded undisturbed)
      (execute S C caseId originator executionJobId) (stores, []) out (stores', h))
    (hdeployed : ∃ e ∈ h, isDeploy e = true) :
    (RemediatedRun S.platform caseId out stores' h ∨ RolledBackRun caseId out stores' h) ∧
      ¬(RemediatedRun S.platform caseId out stores' h ∧ RolledBackRun caseId out stores' h) := by
  constructor
  · obtain ⟨e, hmem, hdeploy⟩ := hdeployed
    have hcall : isCall e = true := by
      obtain ⟨o, r⟩ := e
      cases o <;> first | rfl | cases hdeploy
    obtain ⟨call, hlogged, rfl⟩ := List.mem_map.mp (mem_calls_of_mem hmem hcall)
    obtain ⟨started, log, hbaseline, hreleased | hrestored⟩ :=
      Sat.observed execute_logged hrun ⟨call, hlogged, hdeploy⟩
    · exact .inl (hreleased.remediatedRun hbaseline)
    · exact .inr hrestored.rolledBackRun
  · rintro ⟨hremediated, hrolledBack⟩
    have hzero := hremediated.kept
    have hone := hrolledBack.once
    omega

end steps

section samples

/-- The stores with the approved case. -/
def approvedStores : Stores :=
  { cases := { cases := [approvedCase], active := [⟨"tenant-1", "asset-1", "case-1"⟩] }
    records := approvedRecords }

/-- The sample execution over these stores, with these answers of everything else. -/
def playedRelease (reply : ℕ → (o : Operation) → Except PyError o.Answer) :
    Option (Except PyError ExecutionOutcome × Stores × Trace) :=
  sampleExecution.follow (fun n s o =>
      match performWith ⟨none, reply n⟩ s.1 o with
      | (r, stores) => (r, stores, s.2 ++ [⟨o, r⟩]))
    (fun e => served e.op e.answer) 0 (approvedStores, [])

/-- A played release is a run of the sample. -/
theorem playedRelease_runs {reply : ℕ → (o : Operation) → Except PyError o.Answer}
    {out : Except PyError ExecutionOutcome} {s : Stores × Trace}
    (hplayed : playedRelease reply = some (out, s)) :
    Runs (Env.recorded undisturbed) sampleExecution (approvedStores, []) out s :=
  Prog.follow_runs (fun n _ _ hserved => ⟨⟨hserved, reply n, rfl⟩, rfl⟩) hplayed

/-- The sample ends remediated, in a run of the one kind and not of the other. -/
theorem execution_outcome_remediated : ∃ out stores h,
    Runs (Env.recorded undisturbed) sampleExecution (approvedStores, []) out (stores, h) ∧
      stateOf stores "case-1" = some .remediated ∧
      (RemediatedRun samplePlatform "case-1" out stores h ∨ RolledBackRun "case-1" out stores h) ∧
        ¬(RemediatedRun samplePlatform "case-1" out stores h ∧
          RolledBackRun "case-1" out stores h) := by
  have hexists : ∃ run ∈ playedRelease (quietReply "2026-07-18T02:30:00Z"),
      stateOf run.2.1 "case-1" = some .remediated ∧ ∃ e ∈ run.2.2, isDeploy e = true := by
    decide +kernel
  obtain ⟨⟨out, stores, h⟩, hplayed, hstate, hdeployed⟩ := hexists
  have hrun := playedRelease_runs hplayed
  exact ⟨out, stores, h, hrun, hstate, execution_outcome hrun hdeployed⟩

/-- A change that leaves the service unhealthy, and a driver whose rollback passes and reports
`null` for `checkpoint_restored`. -/
def unreportedReply (n : ℕ) : (o : Operation) → Except PyError o.Answer
  | .observe phase _ => .ok ⟨phase ≠ "after_deploy", [], []⟩
  | .rollback _ _ => .ok ⟨"rollback", true, "restored", [("checkpoint_restored", .null)]⟩
  | o => quietReply "2026-07-18T02:30:00Z" n o

/-- A rollback that passed and did not report `false` for `checkpoint_restored`. -/
def passesRollback : Event operations PyError → Bool
  | ⟨.rollback _ _, .ok step⟩ =>
    match step.payload.lookup "checkpoint_restored" with
    | some (.bool false) => false
    | _ => step.passed
  | _ => false

/-- The service was healthy after the rollback. -/
def recovers : Event operations PyError → Bool
  | ⟨.observe phase _, .ok health⟩ => phase = "rollback" ∧ health.healthy = true
  | _ => false

/-- A report that is not `false` but counts as false in Python does not end `ROLLED_BACK`. -/
theorem execution_blocked_without_false_report : ∃ out stores h,
    Runs (Env.recorded undisturbed) sampleExecution (approvedStores, []) out (stores, h) ∧
      (∃ e ∈ h, passesRollback e = true) ∧ (∃ e ∈ h, recovers e = true) ∧
      stateOf stores "case-1" = some .blocked := by
  have hexists : ∃ run ∈ playedRelease unreportedReply,
      (∃ e ∈ run.2.2, passesRollback e = true) ∧ (∃ e ∈ run.2.2, recovers e = true) ∧
        stateOf run.2.1 "case-1" = some .blocked := by
    decide +kernel
  obtain ⟨⟨out, stores, h⟩, hplayed, hends⟩ := hexists
  exact ⟨out, stores, h, playedRelease_runs hplayed, hends⟩

end samples

end ElCapitan
