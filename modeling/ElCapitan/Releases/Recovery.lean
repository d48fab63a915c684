import ElCapitan.Services.Execution
import Mathlib.Data.List.TakeWhile

/-!
# Recovery of a deployed change

What becomes of a change once `execute` has deployed it. The answers of the
environment are unrestricted, so every store operation may fail and other
workers may have moved the case. A rollback is attempted exactly when none of
the services' own steps fails before it.
-/

namespace ElCapitan

open Effects

/-- `driver.rollback` was called. -/
def isRollback : Event operations PyError → Bool
  | ⟨.rollback _ _, _⟩ => true
  | _ => false

/-- `COMPLETE_REMEDIATION` was recorded. -/
def completes : Event operations PyError → Bool
  | ⟨.appendCase _ event _, .ok _⟩ => event.transition = .completeRemediation
  | _ => false

/-- The state machine refuses the transition on the case that `advance` read. -/
def refuses (case : RemediationCase) (transition : CaseTransition) (args : TransitionArgs) : Bool :=
  match transitionCase case transition args with
  | .error _ => true
  | .ok _ => false

/-- A step raised: the operation itself, or the transition after the reading in `advance`. -/
def raised : Event operations PyError → Bool
  | ⟨_, .error _⟩ => true
  | ⟨.advanceRead _ transition args, .ok case⟩ => refuses case transition args
  | _ => false

/-- An id that the code refuses: of an evidence file, or of a record or task that is
built from it. -/
def refusesId (kind id : String) : Bool :=
  if kind = "EVD" then isEvidenceId id = false
  else kind ∈ ["EXRES", "TASK", "VERIFY", "CERT", "HANDOFF"] ∧ id = ""

/-- A step of the services' own that fails: an operation other than a call of a
component raised, the transition was refused, or the new id is refused. -/
def hinders : Event operations PyError → Bool
  | ⟨.deploy _ _, _⟩ | ⟨.rollback _ _, _⟩ | ⟨.observe _ _, _⟩ | ⟨.runProbe _ _, _⟩
  | ⟨.runAgent _, _⟩ => false
  | ⟨.newId kind, .ok id⟩ => refusesId kind id
  | e => raised e

/-- What happened after the deployment. -/
def sinceDeploy (h : Trace) : Trace := (h.dropWhile fun e => !isDeploy e).tail

/-- After a deployment, a rollback was attempted if any later step raised or the
remediation was not completed. -/
def RecoveryAttempted (h : Trace) : Prop :=
  (∃ e ∈ h, isDeploy e = true) →
    (∃ e ∈ sinceDeploy h, raised e = true) ∨ (∀ e ∈ sinceDeploy h, completes e = false) →
      ∃ e ∈ sinceDeploy h, isRollback e = true

/-- No step of the services' own failed between the deployment and the rollback, or
the end if there was none. -/
def Unhindered (h : Trace) : Prop :=
  ∀ e ∈ (sinceDeploy h).takeWhile fun e => !isRollback e, hinders e = false

section monitor

/-- How far a run is, as a monitor of its events sees it. -/
inductive Progress where
  /-- Nothing is deployed. -/
  | idle
  /-- The change is deployed and nothing raised. -/
  | deployed
  /-- A component raised. -/
  | failing
  /-- A step of the services' own failed. -/
  | hindered
  | rolledBack
  | completed
  /-- The events do not follow the order of the program. -/
  | disordered
  deriving DecidableEq, Repr

/-- The monitor. -/
def watch : Progress → Event operations PyError → Progress
  | .idle, e => if isDeploy e then .deployed else .idle
  | .deployed, e =>
    if isDeploy e then .disordered
    else if isRollback e then .rolledBack
    else if completes e then .completed
    else if hinders e then .hindered
    else if raised e then .failing
    else .deployed
  | .failing, e =>
    if isDeploy e || completes e then .disordered
    else if isRollback e then .rolledBack
    else if hinders e then .hindered
    else .failing
  | .hindered, e =>
    if isDeploy e || isRollback e || completes e then .disordered else .hindered
  | .rolledBack, _ => .rolledBack
  | .completed, _ => .disordered
  | .disordered, _ => .disordered

/-- The verdicts with which a run may end. -/
def Progress.final (p : Progress) : Prop :=
  p = .idle ∨ p = .hindered ∨ p = .rolledBack ∨ p = .completed

/-- A completion neither raised nor failed. -/
theorem completes_fine {e : Event operations PyError} (h : completes e = true) :
    raised e = false ∧ hinders e = false := by
  obtain ⟨o, r⟩ := e
  cases o <;> cases r <;> first | exact ⟨rfl, rfl⟩ | cases h

/-- A run that got out of order stays so. -/
theorem foldl_watch_disordered (l : Trace) : l.foldl watch .disordered = .disordered := by
  induction l with
  | nil => rfl
  | cons e l ih => exact ih

/-- After a failure of the services' own nothing is rolled back or completed. -/
theorem foldl_watch_hindered {l : Trace} (hfinal : (l.foldl watch .hindered).final) :
    ∀ e ∈ l, isRollback e = false ∧ completes e = false := by
  induction l with
  | nil => simp
  | cons e l ih =>
    rw [List.foldl_cons] at hfinal
    simp only [watch] at hfinal
    split at hfinal
    · simp [foldl_watch_disordered, Progress.final] at hfinal
    · rename_i hquiet
      simp only [Bool.or_eq_true, not_or, Bool.not_eq_true] at hquiet
      rintro e' (_ | ⟨_, hmem⟩)
      · exact ⟨hquiet.1.2, hquiet.2⟩
      · exact ih hfinal e' hmem

/-- Nothing follows the completion. -/
theorem foldl_watch_completed {l : Trace} (hfinal : (l.foldl watch .completed).final) : l = [] := by
  cases l with
  | nil => rfl
  | cons e l => simp [watch, foldl_watch_disordered, Progress.final] at hfinal

/-- The verdict of the monitor on what follows a deployment: by induction on the events,
with the calls of components that raised remembered in `failing`. -/
theorem recovery_iff_of_final {l : Trace} {p : Progress} (hp : p = .deployed ∨ p = .failing)
    (hfinal : (l.foldl watch p).final) :
    (p = .failing ∨ (∃ e ∈ l, raised e = true) ∨ (∀ e ∈ l, completes e = false) →
        ∃ e ∈ l, isRollback e = true) ↔
      ∀ e ∈ l.takeWhile fun e => !isRollback e, hinders e = false := by
  induction l generalizing p with
  | nil => rcases hp with rfl | rfl <;> simp [Progress.final] at hfinal
  | cons e l ih =>
    rw [List.foldl_cons] at hfinal
    have hdeploy : isDeploy e = false := by
      by_contra h
      rw [Bool.not_eq_false] at h
      rcases hp with rfl | rfl <;>
        simp [watch, h, foldl_watch_disordered, Progress.final] at hfinal
    by_cases hrollback : isRollback e = true
    · simp [hrollback]
    rw [Bool.not_eq_true] at hrollback
    by_cases hcompletes : completes e = true
    · obtain ⟨hraised, hhinders⟩ := completes_fine hcompletes
      rcases hp with rfl | rfl
      · have hnil : l = [] := foldl_watch_completed (by
          simpa [watch, hdeploy, hrollback, hcompletes] using hfinal)
        subst hnil
        simp [hrollback, hraised, hcompletes, hhinders]
      · simp [watch, hdeploy, hcompletes, foldl_watch_disordered, Progress.final] at hfinal
    rw [Bool.not_eq_true] at hcompletes
    by_cases hhinders : hinders e = true
    · have hquiet : ∀ e ∈ l, isRollback e = false ∧ completes e = false := by
        apply foldl_watch_hindered
        rcases hp with rfl | rfl <;>
          simpa [watch, hdeploy, hrollback, hcompletes, hhinders] using hfinal
      have hnone : ¬∃ e' ∈ e :: l, isRollback e' = true := by
        rintro ⟨e', _ | ⟨_, hmem⟩, h⟩
        · simp [hrollback] at h
        · simp [(hquiet e' hmem).1] at h
      have hincomplete : ∀ e' ∈ e :: l, completes e' = false := by
        rintro e' (_ | ⟨_, hmem⟩)
        · exact hcompletes
        · exact (hquiet e' hmem).2
      constructor
      · intro h
        exact absurd (h (.inr (.inr hincomplete))) hnone
      · intro h
        simp [hrollback, hhinders] at h
    rw [Bool.not_eq_true] at hhinders
    by_cases hraised : raised e = true
    · have hnext := ih (.inr rfl) (by
        rcases hp with rfl | rfl <;>
          simpa [watch, hdeploy, hrollback, hcompletes, hhinders, hraised] using hfinal)
      simpa [hrollback, hhinders, hraised] using hnext
    · rw [Bool.not_eq_true] at hraised
      have hnext := ih hp (by
        rcases hp with rfl | rfl <;>
          simpa [watch, hdeploy, hrollback, hcompletes, hhinders, hraised] using hfinal)
      simpa [hrollback, hhinders, hraised, hcompletes] using hnext

/-- Before a deployment the monitor is idle. -/
theorem foldl_watch_idle (h : Trace) :
    h.foldl watch .idle =
      if ∃ e ∈ h, isDeploy e = true then (sinceDeploy h).foldl watch .deployed else .idle := by
  induction h with
  | nil => simp
  | cons e h ih =>
    by_cases hdeploy : isDeploy e = true
    · simp [watch, hdeploy, sinceDeploy]
    · simpa [watch, hdeploy, sinceDeploy] using ih

/-- In a run with a final verdict, recovery was attempted exactly if no step of the
services' own failed. -/
theorem recoveryAttempted_iff {h : Trace} (hfinal : (h.foldl watch .idle).final) :
    RecoveryAttempted h ↔ Unhindered h := by
  rw [foldl_watch_idle] at hfinal
  by_cases hdeploy : ∃ e ∈ h, isDeploy e = true
  · rw [if_pos hdeploy] at hfinal
    have hiff := recovery_iff_of_final (.inl rfl) hfinal
    simpa [RecoveryAttempted, Unhindered, hdeploy] using hiff
  · have hnone : sinceDeploy h = [] := by
      have hall : ∀ e ∈ h, (!isDeploy e) = true := by
        intro e he
        simpa using fun h => hdeploy ⟨e, he, h⟩
      rw [sinceDeploy, List.dropWhile_eq_nil_iff.mpr hall]
      rfl
    simp [RecoveryAttempted, Unhindered, hdeploy, hnone]

end monitor

section program

variable {S : Settings} {C : Components} {caseId originator executionJobId : String}
  {started : Started}

/-- A part of `execute`, watched from a point on: every way it can end satisfies `Q`. -/
abbrev Watched {α : Type} (p : Service α) (Q : Except PyError α → Progress → Prop)
    (progress : Progress) : Prop :=
  Sat (Env.watching watch) (fun _ _ => True) p Q progress

/-- The part ends with a final verdict. -/
abbrev Settles {α : Type} (p : Service α) (progress : Progress) : Prop :=
  Watched p (fun _ progress' => progress'.final) progress

/-- An execution may end hindered. -/
theorem final_hindered : Progress.hindered.final := .inr (.inl rfl)

/-- Nothing is deployed before `START_EXECUTION`, and what was started can be completed. -/
theorem startExecution_idle :
    Watched (startExecution S C caseId originator executionJobId)
      (fun out progress => progress = .idle ∧ ∀ started, out = .ok started →
        caseId ≠ "" ∧ ∃ ids, approvedFindingIds started.context = .ok ids) .idle := by
  simp only [startExecution, executionContext, contextRecord, executionEvidence, writeEvidence,
    advance, perform, Prog.bind_eq, Prog.pure_eq, Prog.bind_assoc, Prog.ret_bind, sat_bind_perform,
    sat_bind_ofExcept, sat_bind_raiseIf, sat_ret, watch, isDeploy, true_and, if_false, and_true,
    reduceCtorEq, false_implies, implies_true]
  intros
  rename_i hstarted
  cases hstarted
  have hfields := ProductRecord.create_eq_ok ‹ProductRecord.create _ caseId _ _ _ _ _ = .ok _›
  exact ⟨hfields.2.1 ▸ (ProductRecord.required _).2.1, _, ‹approvedFindingIds _ = .ok _›⟩

/-- After the rollback was attempted, whatever follows ends so. -/
theorem settles_rolledBack {α : Type} {p : Service α} : Settles p .rolledBack := by
  have hstays : ∀ progress e, progress = .rolledBack → watch progress e = .rolledBack := by
    rintro _ e rfl
    rfl
  exact (sat_of_closed (fun progress => progress = .rolledBack) hstays rfl).mono
    fun _ progress h => .inr (.inr (.inl h))

/-- `_rollback` attempts the rollback, unless the clock or the id source fails first. -/
theorem rollBack_settles {evidenceIds : List String} {reason : String} {progress : Progress}
    (hprogress : progress = .deployed ∨ progress = .failing) :
    Settles (rollBack S C caseId started evidenceIds reason) progress := by
  unfold rollBack
  rcases hprogress with rfl | rfl
  all_goals
    refine sat_bind_perform.mpr ⟨trivial, fun now => ?_, fun e => final_hindered⟩
    refine sat_bind_perform.mpr ⟨trivial, fun rollbackId => ?_, fun e => final_hindered⟩
    refine sat_bind_handle_perform.mpr ⟨trivial, fun step => ?_, fun e => ?_⟩
    · exact settles_rolledBack
    · exact settles_rolledBack

/-- Writing evidence leaves the verdict open, unless it fails. -/
theorem executionEvidence_watched {runDir kind now : String} {document : Json}
    {progress : Progress} (hprogress : progress = .deployed ∨ progress = .failing) :
    Watched (executionEvidence S runDir kind document now)
      (fun out progress' => match out with
        | .ok _ => progress' = progress
        | .error _ => progress' = .hindered) progress := by
  unfold executionEvidence writeEvidence
  rcases hprogress with rfl | rfl
  all_goals
    refine sat_bind_perform.mpr ⟨trivial, fun evidenceId => ?_, fun e => rfl⟩
    by_cases hid : isEvidenceId evidenceId = false
    · simp [sat_bind_raiseIf, hid, watch, isDeploy, isRollback, completes, hinders, refusesId,
        valueError]
    · simp [sat_bind_raiseIf, sat_bind_perform, hid, watch, isDeploy, isRollback, completes,
        hinders, raised, refusesId]

/-- `advance` leaves the verdict open or completes the run, unless it fails. -/
theorem advance_watched {transition : CaseTransition} {args : TransitionArgs} :
    Watched (advance caseId transition args)
      (fun out progress => match out with
        | .ok _ => progress =
            if transition = .completeRemediation then .completed else .deployed
        | .error _ => progress = .hindered) .deployed := by
  unfold advance
  refine sat_bind_perform.mpr ⟨trivial, fun case => ?_, fun e => rfl⟩
  refine sat_bind_ofExcept.mpr ⟨fun result hresult => ?_, fun e herror => ?_⟩
  · obtain ⟨case', event⟩ := result
    have hname := event_transition hresult
    have hread : refuses case transition args = false := by simp [refuses, hresult]
    refine sat_bind_perform.mpr ⟨trivial, fun _ => ?_, fun e => ?_⟩
    · by_cases hcomplete : transition = .completeRemediation
      · subst hcomplete
        simp [watch, isDeploy, isRollback, completes, hinders, raised, hread, hname]
      · simp [watch, isDeploy, isRollback, completes, hinders, raised, hread, hname, hcomplete]
    · simp [watch, isDeploy, isRollback, completes, hinders, raised, hread]
  · have hread : refuses case transition args = true := by simp [refuses, herror]
    simp [watch, isDeploy, isRollback, completes, hinders, raised, hread]

/-- A new id, the time and a record made of them leave the verdict open, unless one fails. -/
theorem newRecord_settles {kind recordType : String} {body : String → String → Document}
    {evidenceIds : List String} {next : String → ProductRecord → Service ExecutionOutcome}
    (hkind : kind ∈ ["EXRES", "TASK", "VERIFY", "CERT", "HANDOFF"]) (hcase : caseId ≠ "")
    (htype : recordType ≠ "")
    (hnext : ∀ recordId record, Settles (next recordId record) .deployed) :
    Settles ((perform (.newId kind)).bind fun recordId =>
      (perform .now).bind fun createdAt =>
      (Prog.ofExcept (ProductRecord.create recordId caseId recordType 1 createdAt
        (body recordId createdAt) evidenceIds)).bind fun record =>
      (perform (.putRecord record)).bind fun _ => next recordId record) .deployed := by
  have hevidence : kind ≠ "EVD" := by
    rintro rfl
    simp at hkind
  refine sat_bind_perform.mpr ⟨trivial, fun recordId => ?_, fun e => final_hindered⟩
  by_cases hid : recordId = ""
  · simp [sat_bind_perform, sat_bind_ofExcept, ProductRecord.create, watch, isDeploy, isRollback,
      completes, hinders, refusesId, hkind, hevidence, hid, final_hindered]
  · have hquiet : refusesId kind recordId = false := by simp [refusesId, hevidence, hid]
    have hnew : watch .deployed ⟨.newId kind, .ok recordId⟩ = .deployed := by
      simp [watch, isDeploy, isRollback, completes, hinders, raised, hquiet]
    rw [hnew]
    refine sat_bind_perform.mpr ⟨trivial, fun createdAt => ?_, fun e => final_hindered⟩
    refine sat_bind_ofExcept.mpr ⟨fun record hrecord => ?_, fun e herror => ?_⟩
    · refine sat_bind_perform.mpr ⟨trivial, fun _ => ?_, fun e => final_hindered⟩
      exact hnext recordId record
    · simp [ProductRecord.create, hid, hcase, htype] at herror

/-- The last records and the completion. -/
theorem completeExecution_settles {probes : List ProbeResult} {audit : AgentResult}
    {accumulated : List String} (hcase : caseId ≠ "")
    (hids : ∃ ids, approvedFindingIds started.context = .ok ids) :
    Settles (completeExecution caseId originator started probes audit accumulated) .deployed := by
  obtain ⟨ids, hids⟩ := hids
  unfold completeExecution
  refine newRecord_settles (by decide) hcase (by decide) fun verificationId verification => ?_
  simp only [hids, Prog.ofExcept, Prog.bind_eq, Prog.ret_bind]
  refine newRecord_settles (by decide) hcase (by decide) fun certificateId certificate => ?_
  refine newRecord_settles (by decide) hcase (by decide) fun handoffId handoff => ?_
  refine sat_bind_perform.mpr ⟨trivial, fun eventId => ?_, fun e => final_hindered⟩
  refine sat_bind_perform.mpr ⟨trivial, fun occurredAt => ?_, fun e => final_hindered⟩
  refine sat_bind.mpr (advance_watched.mono ?_)
  rintro (e | case) progress rfl
  · exact final_hindered
  · exact .inr (.inr (.inr rfl))

/-- A probe that raised counts as failed. -/
theorem runProbes_watched {context : ExecutionContext} {names : List String}
    {progress : Progress} (hprogress : progress = .deployed ∨ progress = .failing) :
    Watched (runProbes caseId context names)
      (fun out progress' => ∃ results, out = .ok results ∧
        (progress' = progress ∨ progress' = .failing ∧ ∃ result ∈ results, result.passed = false))
      progress := by
  induction names generalizing progress with
  | nil => exact ⟨[], rfl, .inl rfl⟩
  | cons name rest ih =>
    unfold runProbes
    refine sat_bind_handle_perform.mpr ⟨trivial, fun result => ?_, fun e => ?_⟩
    · have hran : watch progress ⟨.runProbe name context, .ok result⟩ = progress := by
        rcases hprogress with rfl | rfl <;> rfl
      rw [hran]
      refine sat_bind.mpr ((ih hprogress).mono ?_)
      rintro _ progress' ⟨results, rfl, hsame | ⟨hfailing, failed, hmem, hfailed⟩⟩
      · exact ⟨_, rfl, .inl hsame⟩
      · exact ⟨_, rfl, .inr ⟨hfailing, failed, List.mem_cons_of_mem _ hmem, hfailed⟩⟩
    · have hran : watch progress ⟨.runProbe name context, .error e⟩ = .failing := by
        rcases hprogress with rfl | rfl <;> rfl
      rw [hran, Prog.pure_eq, Prog.ret_bind]
      refine sat_bind.mpr ((ih (.inr rfl)).mono ?_)
      rintro _ progress' ⟨results, rfl, hsame⟩
      refine ⟨_, rfl, .inr ⟨?_, _, List.mem_cons_self, rfl⟩⟩
      rcases hsame with hsame | hfailing
      · exact hsame
      · exact hfailing.1

/-- `execute` from the probes on. -/
theorem verifyExecution_settles {case : RemediationCase} {resultRecord : ProductRecord}
    {accumulated : List String} (hcase : caseId ≠ "")
    (hids : ∃ ids, approvedFindingIds started.context = .ok ids) :
    Settles (verifyExecution S C caseId originator started case resultRecord accumulated)
      .deployed := by
  unfold verifyExecution
  refine sat_bind.mpr ((runProbes_watched (.inl rfl)).mono ?_)
  rintro _ progress ⟨probes, rfl, hprobes⟩
  have hprogress : progress = .deployed ∨ progress = .failing := by
    rcases hprobes with h | h
    · exact .inl h
    · exact .inr h.1
  refine sat_bind_perform.mpr ⟨trivial, fun stamp => ?_, fun e => ?_⟩
  · have hstamp : watch progress ⟨.now, .ok stamp⟩ = progress := by
      rcases hprogress with rfl | rfl <;> rfl
    rw [hstamp]
    refine sat_bind.mpr ((executionEvidence_watched hprogress).mono ?_)
    rintro (e | probeEvidence) progress' rfl
    · exact final_hindered
    refine sat_ite.mpr ⟨fun _ => rollBack_settles hprogress, fun hsome => ?_⟩
    refine sat_ite.mpr ⟨fun _ => rollBack_settles hprogress, fun hpassed => ?_⟩
    have hdeployed : progress' = .deployed := by
      rcases hprobes with h | ⟨-, result, hmem, hfailed⟩
      · exact h
      · refine absurd ?_ hpassed
        exact List.ne_nil_of_mem (List.mem_filter.mpr ⟨hmem, by simp [hfailed]⟩)
    subst hdeployed
    refine sat_bind_perform.mpr ⟨trivial, fun taskId => ?_, fun e => final_hindered⟩
    refine sat_bind_ofExcept.mpr ⟨fun task htask => ?_, fun e herror => ?_⟩
    · obtain ⟨htaskId, -, -, hcontract, -⟩ := AgentTask.create_eq_ok htask
      replace htaskId := htaskId ▸ task.required.1
      have hnew : watch .deployed ⟨.newId "TASK", .ok taskId⟩ = .deployed := by
        simp [watch, isDeploy, isRollback, completes, hinders, raised, refusesId,
          htaskId]
      rw [hnew]
      refine sat_bind.mpr (sat_handle.mpr (sat_bind_perform.mpr
        ⟨trivial, fun audit => ?_, fun e => rollBack_settles (.inr rfl)⟩))
      obtain ⟨failures, hfailures⟩ : ∃ failures,
          validateOutput S.platform.describe task.outputContract (.obj audit.output) =
            .ok failures := by
        rw [hcontract]
        exact postChangeReview_known
      refine sat_bind_ofExcept.mpr ⟨fun contractFailures _ => ?_, fun e herror => ?_⟩
      · refine sat_ite.mpr ⟨fun _ => rollBack_settles (.inl rfl), fun _ => ?_⟩
        refine sat_bind_perform.mpr ⟨trivial, fun stamp => ?_, fun e => final_hindered⟩
        refine sat_bind.mpr ((executionEvidence_watched (.inl rfl)).mono ?_)
        rintro (e | auditEvidence) progress rfl
        · exact final_hindered
        refine sat_ite.mpr ⟨fun _ => rollBack_settles (.inl rfl), fun _ => ?_⟩
        refine sat_ite.mpr ⟨fun _ => rollBack_settles (.inl rfl), fun _ => ?_⟩
        exact completeExecution_settles hcase hids
      · rw [hfailures] at herror
        cases herror
    · have hid : taskId = "" := by
        by_contra hid
        simp [AgentTask.create, hid, hcase] at herror
      subst hid
      exact final_hindered
  · rcases hprogress with rfl | rfl <;> exact final_hindered

/-- A deployment that raised counts as failed. -/
theorem deploy_watched {context : ExecutionContext} {checkpoint : DeploymentCheckpoint}
    {failed : PyError → ActionStep} :
    Watched (Prog.handle (perform (.deploy context checkpoint)) fun e => return failed e)
      (fun out progress => ∃ deployment, out = .ok deployment ∧ progress = .deployed) .idle :=
  sat_handle.mpr (sat_perform_watching.mpr
    ⟨trivial, fun deployment => ⟨deployment, rfl, rfl⟩, fun e => ⟨failed e, rfl, rfl⟩⟩)

/-- An observation that raised counts as unhealthy. -/
theorem observe_watched {context : ExecutionContext} {phase : String}
    {reasons : PyError → List String} :
    Watched (Prog.handle (perform (.observe phase context)) fun e =>
        return { healthy := false, reasons := reasons e, metrics := [] })
      (fun out progress => ∃ after, out = .ok after ∧
        (progress = .deployed ∨ progress = .failing ∧ after.healthy = false)) .deployed :=
  sat_handle.mpr (sat_perform_watching.mpr
    ⟨trivial, fun after => ⟨after, rfl, .inl rfl⟩, fun _ => ⟨_, rfl, .inr ⟨rfl, rfl⟩⟩⟩)

/-- `execute` from the deployment on. -/
theorem releaseExecution_settles (hcase : caseId ≠ "")
    (hids : ∃ ids, approvedFindingIds started.context = .ok ids) :
    Settles (releaseExecution S C caseId originator started) .idle := by
  unfold releaseExecution
  refine sat_bind.mpr (deploy_watched.mono ?_)
  rintro _ progress ⟨deployment, rfl, rfl⟩
  refine sat_bind.mpr (observe_watched.mono ?_)
  rintro _ progress ⟨after, rfl, hafter⟩
  have hprogress : progress = .deployed ∨ progress = .failing := by
    rcases hafter with h | h
    · exact .inl h
    · exact .inr h.1
  refine sat_bind_perform.mpr ⟨trivial, fun stamp => ?_, fun e => ?_⟩
  · have hstamp : watch progress ⟨.now, .ok stamp⟩ = progress := by
      rcases hprogress with rfl | rfl <;> rfl
    rw [hstamp]
    refine sat_bind.mpr ((executionEvidence_watched hprogress).mono ?_)
    rintro (e | deployEvidence) progress' rfl
    · exact final_hindered
    refine sat_ite.mpr ⟨fun _ => rollBack_settles hprogress, fun _ => ?_⟩
    refine sat_ite.mpr ⟨fun _ => rollBack_settles hprogress, fun hhealthy => ?_⟩
    have hdeployed : progress' = .deployed := by
      rcases hafter with h | h
      · exact h
      · exact absurd h.2 hhealthy
    subst hdeployed
    refine newRecord_settles (by decide) hcase (by decide) fun resultId resultRecord => ?_
    refine sat_bind_perform.mpr ⟨trivial, fun eventId => ?_, fun e => final_hindered⟩
    refine sat_bind_perform.mpr ⟨trivial, fun occurredAt => ?_, fun e => final_hindered⟩
    refine sat_bind.mpr (advance_watched.mono ?_)
    rintro (e | case) progress rfl
    · exact final_hindered
    · exact verifyExecution_settles hcase hids
  · rcases hprogress with rfl | rfl <;> exact final_hindered

/-- Every run of `execute` ends with a final verdict. -/
theorem execute_settles : Settles (execute S C caseId originator executionJobId) .idle := by
  refine sat_bind.mpr (startExecution_idle.mono ?_)
  rintro (e | started) progress ⟨rfl, hstarted⟩
  · exact .inl rfl
  · obtain ⟨hcase, hids⟩ := hstarted started rfl
    exact releaseExecution_settles hcase hids

/-- A rollback is attempted after every failure that follows a deployment exactly in the
runs in which none of the services' own steps fails between the two. -/
theorem recovery_attempted {out : Except PyError ExecutionOutcome} {h : Trace}
    (hrun : Runs (Env.recording operations PyError)
      (execute S C caseId originator executionJobId) [] out h) :
    RecoveryAttempted h ↔ Unhindered h :=
  recoveryAttempted_iff (execute_settles.watched hrun)

end program

section samples

/-- The answers an execution of the approved case gets in its window: the probes pass or
not, and transitions in `lost` lose their race against another worker. -/
def executionAnswers (passes : Bool) (lost : List CaseTransition) (n : ℕ) :
    (o : Operation) → Except PyError o.Answer
  | .getCase _ => .ok approvedCase
  | .getRecord recordId => RecordTable.get approvedRecords recordId
  | .putRecord _ => .ok ()
  | .advanceRead _ transition _ => .ok
      { approvedCase with
        state := match transition with
          | .startVerification => .executing
          | .completeRemediation | .startRollback => .verifying
          | .completeRollback => .rollingBack
          | _ => .approved }
  | .appendCase _ event _ =>
    if event.transition ∈ lost then .error ⟨.concurrentCaseUpdate, "case case-1 has moved on"⟩
    else .ok ()
  | .runProbe name _ => .ok ⟨name, "case-1", passes, "observed", []⟩
  | o => quietReply "2026-07-18T02:30:00Z" n o

/-- `execute` on the approved case. -/
def sampleExecution : Service ExecutionOutcome :=
  execute sampleSettings sampleComponents "case-1" "originator" "job-1"

instance : DecidablePred RecoveryAttempted := fun _ => inferInstanceAs (Decidable (_ → _))

instance : DecidablePred Unhindered := fun _ => inferInstanceAs (Decidable (∀ e ∈ _, _))

/-- The sample execution with these answers. -/
def playedExecution (passes : Bool) (lost : List CaseTransition) :
    Option (Except PyError ExecutionOutcome × Trace) :=
  sampleExecution.follow (fun n h o =>
      (executionAnswers passes lost n o, h ++ [⟨o, executionAnswers passes lost n o⟩]))
    (fun _ => true) 0 []

/-- A played execution is a run of the sample. -/
theorem playedExecution_runs {passes : Bool} {lost : List CaseTransition}
    {out : Except PyError ExecutionOutcome} {h : Trace}
    (hplayed : playedExecution passes lost = some (out, h)) :
    Runs (Env.recording operations PyError) sampleExecution [] out h :=
  Prog.follow_runs (fun _ _ _ _ => rfl) hplayed

/-- After a failed probe the sample attempts its rollback. -/
theorem recovery_attempted_after_failed_probe : ∃ out h,
    Runs (Env.recording operations PyError) sampleExecution [] out h ∧
      (∃ e ∈ sinceDeploy h, isRollback e = true) ∧ RecoveryAttempted h := by
  have hexists : ∃ run ∈ playedExecution false [],
      (∃ e ∈ sinceDeploy run.2, isRollback e = true) ∧ Unhindered run.2 := by
    decide +kernel
  obtain ⟨⟨out, h⟩, hplayed, hrollback, hunhindered⟩ := hexists
  have hrun := playedExecution_runs hplayed
  exact ⟨out, h, hrun, hrollback, (recovery_attempted hrun).mpr hunhindered⟩

/-- Another worker adds a finding while the change is deployed: `START_VERIFICATION` loses
its race, `execute` raises and no rollback is attempted. -/
theorem recovery_not_attempted_after_race : ∃ out h,
    Runs (Env.recording operations PyError) sampleExecution [] out h ∧
      (∃ e ∈ h, isDeploy e = true) ∧ (∃ e ∈ sinceDeploy h, raised e = true) ∧
      (∀ e ∈ h, isRollback e = false) ∧ ¬RecoveryAttempted h := by
  have hexists : ∃ run ∈ playedExecution true [.startVerification],
      (∃ e ∈ run.2, isDeploy e = true) ∧ (∃ e ∈ sinceDeploy run.2, raised e = true) ∧
        (∀ e ∈ run.2, isRollback e = false) ∧ ¬RecoveryAttempted run.2 := by
    decide +kernel
  obtain ⟨⟨out, h⟩, hplayed, hmissed⟩ := hexists
  exact ⟨out, h, playedExecution_runs hplayed, hmissed⟩

end samples

end ElCapitan
