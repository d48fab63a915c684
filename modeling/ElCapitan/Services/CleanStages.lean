import ElCapitan.Services.Execution
import ElCapitan.Services.Reviews

/-!
# Clean stages

What an agent stage passes on. A stage asks its runtime at most three times, whatever the
runtime answers, and the checks of the last answer are those of the first: a retry adds
constraints to the task and takes none of its requirements away.
-/

namespace ElCapitan

open Effects

section clean

variable {S : Settings} {contract : StageContract} {task asked : AgentTask}

/-- A result that meets everything a stage requires of its task. -/
structure CleanResult (contract : StageContract) (task : AgentTask) (result : AgentResult) :
    Prop where
  succeeded : result.status = .succeeded
  taskId_eq : result.taskId = task.taskId
  caseId_eq : result.caseId = task.caseId
  role_eq : result.role = task.role
  /-- The output has no violation of the task's output contract. -/
  conforms : ∃ schema, outputContracts.lookup task.outputContract = some schema ∧
    schema.Conforms (.obj result.output)
  semantic : contract.semantic result.output = []
  supplied : ∀ cited ∈ result.evidenceCited, cited ∈ task.evidenceIds
  required : ∀ citation ∈ contract.citations, citation ∈ result.evidenceCited

/-- A task that asks for the same as another, up to its constraints. -/
structure SameDuties (task asked : AgentTask) : Prop where
  taskId_eq : asked.taskId = task.taskId
  caseId_eq : asked.caseId = task.caseId
  role_eq : asked.role = task.role
  outputContract_eq : asked.outputContract = task.outputContract
  evidenceIds_eq : asked.evidenceIds = task.evidenceIds

/-- A task has its own duties. -/
theorem SameDuties.refl (task : AgentTask) : SameDuties task task := ⟨rfl, rfl, rfl, rfl, rfl⟩

/-- Further constraints leave the duties as they are. -/
theorem SameDuties.addConstraints (h : SameDuties task asked) (added : List String) :
    SameDuties task (asked.addConstraints added) :=
  ⟨h.taskId_eq, h.caseId_eq, h.role_eq, h.outputContract_eq, h.evidenceIds_eq⟩

/-- The failures kept with an answer are those of all checks on its result. -/
def Checked (S : Settings) (contract : StageContract) (asked : AgentTask)
    (answer : StageAnswer) : Prop :=
  ∃ violations, validateOutput S.platform.describe asked.outputContract
    (.obj answer.result.output) =
      .ok violations ∧
    answer.failures = validateResult asked answer.result ++ violations ∧
    answer.semantic = contract.semantic answer.result.output

/-- A checked answer without failures that cites what it must is clean. -/
theorem cleanResult_of_checked {answer : StageAnswer} (hchecked : Checked S contract asked answer)
    (hduties : SameDuties task asked) (hfailures : answer.failures ++ answer.semantic = [])
    (hcited : sortedDifference contract.citations answer.result.evidenceCited = [])
    (hstatus : answer.result.status = .succeeded) : CleanResult contract task answer.result := by
  obtain ⟨violations, houtput, hkept, hsemantic⟩ := hchecked
  rw [hkept, hsemantic] at hfailures
  obtain ⟨hresult, hmeaning⟩ := List.append_eq_nil_iff.mp hfailures
  obtain ⟨hpoliced, hviolations⟩ := List.append_eq_nil_iff.mp hresult
  rw [hviolations] at houtput
  obtain ⟨schema, hschema, hconforms⟩ := validateOutput_eq_nil houtput
  simp only [validateResult, List.append_eq_nil_iff, failureIf_eq_nil, not_not] at hpoliced
  obtain ⟨⟨⟨⟨⟨htask, hcase⟩, hrole⟩, hunknown⟩, -⟩, -⟩ := hpoliced
  constructor
  · exact hstatus
  · rw [htask, hduties.taskId_eq]
  · rw [hcase, hduties.caseId_eq]
  · rw [hrole, hduties.role_eq]
  · exact ⟨schema, hduties.outputContract_eq ▸ hschema, hconforms⟩
  · exact hmeaning
  · rw [← hduties.evidenceIds_eq]
    exact sortedDifference_eq_nil.mp hunknown
  · exact sortedDifference_eq_nil.mp hcited

end clean

section calls

variable {S : Settings} {contract : StageContract}

/-- Is an event a call of the agent runtime? -/
def isAgentCall : Event operations PyError → Bool
  | ⟨.runAgent _, _⟩ => true
  | _ => false

/-- The number of runtime calls, one more with each of them. -/
def countCall (calls : ℕ) (e : Event operations PyError) : ℕ :=
  if isAgentCall e then calls + 1 else calls

/-- The environment that answers anything while the runtime calls are counted. -/
abbrev counting : Env operations PyError ℕ := Env.watching countCall

/-- Counting along a run adds its calls. -/
theorem foldl_countCall (h : History operations PyError) (calls : ℕ) :
    h.foldl countCall calls = calls + h.countP isAgentCall := by
  induction h generalizing calls with
  | nil => rfl
  | cons e h ih =>
    rw [List.foldl_cons, ih, List.countP_cons, countCall]
    split
    · omega
    · omega

/-- One question is one call, and its answer is checked. -/
theorem askAgent_counted (asked : AgentTask) (calls : ℕ) :
    Sat counting (fun _ _ => True) (askAgent S contract asked)
      (fun out calls' => calls' = calls + 1 ∧
        ∀ answer, out = .ok answer → Checked S contract asked answer) calls := by
  unfold askAgent
  simp only [Prog.bind_eq, Prog.pure_eq]
  rw [sat_bind_perform]
  refine ⟨trivial, ?_, ?_⟩
  · intro result
    rw [sat_bind_ofExcept]
    constructor
    · intro violations hviolations
      rw [sat_ret]
      refine ⟨rfl, ?_⟩
      rintro answer ⟨⟩
      exact ⟨violations, hviolations, rfl, rfl⟩
    · intro e _
      exact ⟨rfl, by rintro answer ⟨⟩⟩
  · intro e
    exact ⟨rfl, by rintro answer ⟨⟩⟩

/-- The semantic retries use up what they are given, and the last answer is checked against
the duties of the first task. -/
theorem correctSemantics_counted {task asked : AgentTask} {answer : StageAnswer} {calls : ℕ}
    (retries : ℕ) (hduties : SameDuties task asked) (hchecked : Checked S contract asked answer) :
    Sat counting (fun _ _ => True) (correctSemantics S contract retries asked answer)
      (fun out calls' => calls' ≤ calls + retries ∧
        ∀ last current left, out = .ok (last, current, left) →
          calls' + left = calls + retries ∧ SameDuties task current ∧
            Checked S contract current last) calls := by
  induction retries generalizing asked answer calls with
  | zero =>
    unfold correctSemantics
    refine ⟨le_rfl, ?_⟩
    rintro last current left ⟨⟩
    exact ⟨rfl, hduties, hchecked⟩
  | succ retries ih =>
    unfold correctSemantics
    rw [sat_ite]
    constructor
    · intro _
      simp only [Prog.bind_eq]
      rw [sat_bind]
      apply (askAgent_counted (asked.addConstraints _) calls).mono
      rintro (e | next) calls' ⟨rfl, hnext⟩
      · exact ⟨by omega, by rintro last current left ⟨⟩⟩
      · apply (ih (hduties.addConstraints _) (hnext next rfl)).mono
        rintro out calls' ⟨hbound, hlast⟩
        refine ⟨by omega, ?_⟩
        intro last current left hout
        obtain ⟨hused, hcurrent⟩ := hlast last current left hout
        exact ⟨by omega, hcurrent⟩
    · intro _
      refine ⟨by omega, ?_⟩
      rintro last current left ⟨⟩
      exact ⟨rfl, hduties, hchecked⟩

/-- The retry for citations needs a retry that is left; what it returns was checked. -/
theorem correctCitations_counted {task asked : AgentTask} {answer : StageAnswer} {calls : ℕ}
    (retries : ℕ) (hduties : SameDuties task asked) (hchecked : Checked S contract asked answer) :
    Sat counting (fun _ _ => True)
      (correctCitations S contract retries asked answer.result
        (answer.failures ++ answer.semantic))
      (fun out calls' => calls' ≤ calls + retries ∧
        ∀ result failures, out = .ok (result, failures) → ∃ last current,
          SameDuties task current ∧ Checked S contract current last ∧ last.result = result ∧
            failures = last.failures ++ last.semantic) calls := by
  unfold correctCitations
  simp only [Prog.bind_eq, Prog.pure_eq]
  rw [sat_ite]
  constructor
  · rintro ⟨-, -, hleft⟩
    rw [sat_bind]
    apply (askAgent_counted (asked.addConstraints _) calls).mono
    rintro (e | next) calls' ⟨rfl, hnext⟩
    · exact ⟨by omega, by rintro result failures ⟨⟩⟩
    · refine ⟨by omega, ?_⟩
      rintro result failures ⟨⟩
      exact ⟨next, _, hduties.addConstraints _, hnext next rfl, rfl, rfl⟩
  · intro _
    refine ⟨by omega, ?_⟩
    rintro result failures ⟨⟩
    exact ⟨answer, asked, hduties, hchecked, rfl, rfl⟩

/-- The evidence of an agent result is written without another call. -/
theorem writeEvidence_counted {P : Platform} {runDir evidenceId kind payload : String}
    {collector : Collector} {sensitivity commandId now : String} {calls : ℕ} :
    Sat counting (fun _ _ => True)
      (writeEvidence P runDir evidenceId kind payload collector sensitivity commandId now)
      (fun _ calls' => calls' = calls) calls := by
  unfold writeEvidence
  simp only [Prog.bind_eq, Prog.pure_eq, sat_bind_raiseIf, sat_bind_perform, sat_ret]
  simp [countCall, isAgentCall]

/-- At most three calls, and only a clean result is returned. -/
theorem runStage_counted (S : Settings) (contract : StageContract) (task : AgentTask) :
    Sat counting (fun _ _ => True) (runStage S contract task)
      (fun out calls => calls ≤ 3 ∧
        ∀ result evidenceId, out = .ok (result, evidenceId) →
          CleanResult contract task result) 0 := by
  have hdispatched : SameDuties task (if contract.citations = [] then task else
      task.addConstraints ["Cite every mandatory evidence ID exactly: " ++
        ", ".intercalate contract.citations]) := by
    split
    · exact .refl task
    · exact (SameDuties.refl task).addConstraints _
  unfold runStage
  simp only [Prog.bind_eq, Prog.pure_eq]
  generalize (if contract.citations = [] then task else _) = dispatched at hdispatched
  apply sat_bind.mpr
  apply (askAgent_counted dispatched 0).mono
  rintro (e | first) calls ⟨rfl, hfirst⟩
  · exact ⟨by omega, by rintro result evidenceId ⟨⟩⟩
  apply sat_bind.mpr
  apply (correctSemantics_counted 2 hdispatched (hfirst first rfl)).mono
  rintro (e | ⟨answer, current, left⟩) calls ⟨hbound, hlast⟩
  · exact ⟨by omega, by rintro result evidenceId ⟨⟩⟩
  obtain ⟨hused, hcurrent, hchecked⟩ := hlast answer current left rfl
  apply sat_bind.mpr
  apply (correctCitations_counted left hcurrent hchecked).mono
  rintro (e | ⟨result, failures⟩) calls' ⟨hbound', hresult⟩
  · exact ⟨by omega, by rintro result evidenceId ⟨⟩⟩
  have hcalls : calls' ≤ 3 := by omega
  obtain ⟨last, asked, hduties, hkept, rfl, rfl⟩ := hresult result failures rfl
  apply sat_bind_raiseIf.mpr
  refine ⟨?_, fun _ => ⟨hcalls, by rintro result evidenceId ⟨⟩⟩⟩
  intro hnone
  apply sat_bind_raiseIf.mpr
  refine ⟨?_, fun _ => ⟨hcalls, by rintro result evidenceId ⟨⟩⟩⟩
  intro hstatus
  rw [not_not, List.append_eq_nil_iff, failureIf_eq_nil, not_not] at hnone
  have hclean := cleanResult_of_checked hkept hduties hnone.1 hnone.2 (not_not.mp hstatus)
  apply sat_bind_perform.mpr
  refine ⟨trivial, ?_, fun e => ⟨hcalls, by rintro result evidenceId ⟨⟩⟩⟩
  intro evidenceId
  apply sat_bind_perform.mpr
  refine ⟨trivial, ?_, fun e => ⟨hcalls, by rintro result evidenceId ⟨⟩⟩⟩
  intro now
  apply sat_bind.mpr
  apply writeEvidence_counted.mono
  rintro (e | ref) calls'' rfl
  · exact ⟨hcalls, by rintro result evidenceId ⟨⟩⟩
  · refine ⟨hcalls, ?_⟩
    rintro result evidenceId ⟨⟩
    exact hclean

/-- Whatever the runtime answers, an agent stage calls it at most three times and returns
nothing but a clean result. -/
theorem runStage_clean (S : Settings) (contract : StageContract) (task : AgentTask)
    (out : Except PyError (AgentResult × String)) (h : History operations PyError)
    (hrun : Runs (Env.recording operations PyError) (runStage S contract task) [] out h) :
    h.countP isAgentCall ≤ 3 ∧ ∀ result evidenceId, out = .ok (result, evidenceId) →
      CleanResult contract task result := by
  have hsat : Sat counting (fun _ _ => True) (runStage S contract task)
      (fun out calls => calls ≤ 3 ∧ ∀ result evidenceId, out = .ok (result, evidenceId) →
        CleanResult contract task result) (List.foldl countCall 0 []) :=
    runStage_counted S contract task
  obtain ⟨hcalls, hclean⟩ := hsat.watched hrun
  rw [foldl_countCall, Nat.zero_add] at hcalls
  exact ⟨hcalls, hclean⟩

end calls

section samples

/-- A window selection that must cite its evidence. -/
def selectionTask : AgentTask :=
  ⟨"task-1", "case-1", .windowPlanner, "select a window", "ChangeWindowSelection.v1", [],
    ["EVD-001"], [], [], by decide, by decide⟩

/-- The contract of that stage. -/
def selectionContract : StageContract := ⟨"/artifacts/case-1", ["EVD-001"], fun _ => []⟩

/-- A runtime whose first answer cites nothing. -/
def forgetfulReply (n : ℕ) : (o : Operation) → Except PyError o.Answer
  | .runAgent task =>
    .ok { approvingResult task with evidenceCited := if n = 0 then [] else task.evidenceIds }
  | o => quietReply "2026-07-17T12:00:00Z" n o

/-- The stage with that runtime, and what happened. -/
def playedStage : Option (Except PyError (AgentResult × String) × History operations PyError) :=
  (runStage sampleSettings selectionContract selectionTask).follow
    (fun n h o => (forgetfulReply n o, h ++ [⟨o, forgetfulReply n o⟩])) (fun _ => true) 0 []

/-- The second answer is passed on, and it is clean. -/
theorem runStage_clean_forgetful : ∃ result evidenceId h,
    Runs (Env.recording operations PyError)
      (runStage sampleSettings selectionContract selectionTask) []
        (.ok (result, evidenceId)) h ∧
      h.countP isAgentCall = 2 ∧ CleanResult selectionContract selectionTask result := by
  have hplayed : (playedStage.any fun played =>
      played.1.toOption.isSome && decide (played.2.countP isAgentCall = 2)) = true := by
    decide +kernel
  obtain ⟨⟨out, h⟩, hfollowed, hcheck⟩ := Option.any_eq_true _ _ |>.mp hplayed
  have hrun : Runs (Env.recording operations PyError)
      (runStage sampleSettings selectionContract selectionTask) [] out h :=
    Prog.follow_runs (fun _ _ _ _ => rfl) hfollowed
  cases out with
  | error e => simp [Except.toOption] at hcheck
  | ok result =>
    rw [Bool.and_eq_true, decide_eq_true_eq] at hcheck
    obtain ⟨-, hclean⟩ := runStage_clean _ _ _ _ _ hrun
    exact ⟨result.1, result.2, h, hrun, hcheck.2, hclean result.1 result.2 rfl⟩

end samples

end ElCapitan
