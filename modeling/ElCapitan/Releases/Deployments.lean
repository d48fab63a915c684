import ElCapitan.Cases.Effective
import ElCapitan.Releases.Outcome
import ElCapitan.Services.Dispatch
import ElCapitan.Workers.History

/-!
# One deployment for a case

A case is started once: the started states are never left, and only `START_EXECUTION` of an
approved case enters them. A worker deploys once, after its own `START_EXECUTION`. So the
workers together deploy the change of a case at most once, whoever else acts on the case.
-/

namespace ElCapitan

open Effects

/-- Somebody who acts on the stores: a call of a service, a worker that dispatches jobs, or an
operator who applies any transitions. -/
inductive Actor (S : Settings) where
  | service (call : Call S)
  | dispatcher (worker : JobWorker)
  | operator (requests : List (String × CaseTransition × TransitionArgs))

/-- An operator applies these transitions. -/
def operate : List (String × CaseTransition × TransitionArgs) → Service Unit
  | [] => return ()
  | (caseId, transition, args) :: requests => do
    let _ ← advance caseId transition args
    operate requests

/-- What an actor runs. -/
def Actor.program {S : Settings} : Actor S → Service Unit
  | .service call => call.program
  | .dispatcher worker => discard (worker.program S)
  | .operator requests => operate requests

/-- The grounds on which an actor applies transitions. -/
def Actor.grounds {S : Settings} : Actor S → Grounds
  | .service call => call.grounds
  | .dispatcher _ => ExecutionGrounds
  | .operator _ => fun _ _ _ _ => True

section conformance

variable {S : Settings} {k : Trace}

/-- An operator may ask for any transition. -/
theorem operate_acts (requests : List (String × CaseTransition × TransitionArgs)) :
    Acts (fun _ _ _ _ => True) (operate requests) (onOk fun _ _ => True) k := by
  induction requests generalizing k with
  | nil => trivial
  | cons request requests ih =>
    obtain ⟨caseId, transition, args⟩ := request
    exact Acts.advance trivial fun _ _ _ _ => ih

/-- A worker acts as the execution it dispatches. -/
theorem runOnce_acts (worker : JobWorker) :
    Acts ExecutionGrounds (worker.program S) (onOk fun _ _ => True) [] := by
  unfold JobWorker.program runOnce claimDueJob
  simp only [Prog.bind_eq, Prog.bind_assoc]
  refine Acts.ofExcept fun leaseUntil _ => Acts.perform trivial fun claimed => ?_
  cases claimed with
  | none => trivial
  | some job =>
    have hfail : ∀ (e : PyError) (k' : Trace), Acts ExecutionGrounds
        (failJob worker.workerId job e) (onOk fun _ _ => True) k' := fun e k' =>
      Acts.perform trivial fun _ => trivial
    refine sat_handle.mpr (sat_bind.mpr ?_)
    have hexecute : Acts ExecutionGrounds (worker.execution S job) (onOk fun _ _ => True) [] :=
      execute_acts fun e he => by cases he
    refine hexecute.mono ?_
    rintro (e | result) k' -
    · exact hfail e k'
    · exact Effects.sat_bind_perform.mpr ⟨trivial, fun _ => trivial, fun e => hfail e _⟩

/-- What an actor may do after its history. -/
theorem Actor.permitted (actor : Actor S) :
    Sat (Env.recording operations PyError) (fun h o => Permitted actor.grounds (notes h) o)
      actor.program (fun _ _ => True) [] := by
  cases actor with
  | service call => exact call.permitted
  | dispatcher worker =>
    exact (Sat.recorded (h := []) (discard_acts (runOnce_acts worker))).mono fun _ _ _ => trivial
  | operator requests =>
    exact (Sat.recorded (h := []) (operate_acts requests)).mono fun _ _ _ => trivial

end conformance

/-- The states from the start of an execution on. -/
def startedStates : List CaseState :=
  [.executing, .verifying, .remediated, .rollingBack, .rolledBack]

/-- The started states are not left. -/
theorem startedStates_closed : ∀ (state : CaseState) (transition : CaseTransition)
    (reopened : Bool) (state' : CaseState), state ∈ startedStates →
      effectiveTransition state transition reopened = some state' → state' ∈ startedStates := by
  decide

/-- An execution starts outside of them and leads into them. -/
theorem startExecution_enters : ∀ (state : CaseState) (reopened : Bool) (state' : CaseState),
    effectiveTransition state .startExecution reopened = some state' →
      state ∉ startedStates ∧ state' ∈ startedStates := by
  decide

/-- The start of an execution of a case was stored. -/
def startsExecution (caseId : String) : Event operations PyError → Bool
  | ⟨.appendCase case event _, .ok _⟩ =>
    case.caseId = caseId && event.transition = .startExecution
  | _ => false

/-- The change of a case was deployed. -/
def deploysFor (caseId : String) : Event operations PyError → Bool
  | ⟨.deploy context _, _⟩ => context.case.caseId = caseId
  | _ => false

section boards

variable {ι : Type} [DecidableEq ι] {G : Rule operations PyError ι}
  {C : Condition operations PyError Stores ι} {b b' : Board operations PyError Stores ι}
  {ls : List (Label operations PyError ι)} {s : Stores} {caseId : String}

/-- The stored case was started. -/
def StartedIn (s : Stores) (caseId : String) : Prop :=
  ∃ case, s.cases.case? caseId = some case ∧ case.effectiveState ∈ startedStates

/-- A started case stays started. -/
theorem StartedIn.keep {h : Trace} {s s' : Stores} {e : Event operations PyError}
    (hstarted : StartedIn s caseId) (hmove : CaseMove h s e s') : StartedIn s' caseId := by
  obtain ⟨case, hcase, heffective⟩ := hstarted
  obtain ⟨case', hcase', hfollows⟩ := hmove.follows hcase
  refine ⟨case', hcase', hfollows.keeps (P := fun case => case.effectiveState ∈ startedStates)
    heffective ?_⟩
  intro base label next hbase hstep
  obtain ⟨target, haccepted⟩ := transitionCase_accepted hstep
  exact startedStates_closed _ _ _ _ hbase haccepted.effectiveState

/-- A stored start finds the case not started and leaves it started. -/
theorem startsExecution_step {h : Trace} {s s' : Stores} {e : Event operations PyError}
    (hmove : CaseMove h s e s') (hstarts : startsExecution caseId e = true) :
    ¬StartedIn s caseId ∧ StartedIn s' caseId := by
  cases hmove with
  | kept _ hquiet =>
    unfold startsExecution at hstarts
    split at hstarts
    · exact absurd rfl (hquiet _ _ _)
    · cases hstarts
  | opened hinserted _ _ _ _ =>
    rw [hinserted] at hstarts
    cases hstarts
  | @advanced _ transition args base case event _ happlied happended hbefore hafter _ =>
    rw [happended] at hstarts
    simp only [startsExecution, Bool.and_eq_true, decide_eq_true_eq] at hstarts
    obtain ⟨hid, htransition⟩ := hstarts
    obtain ⟨target, haccepted⟩ := transitionCase_accepted happlied
    rw [haccepted.caseId] at hid
    subst hid
    rw [haccepted.eventTransition] at htransition
    subst htransition
    obtain ⟨hfresh, hstarted⟩ := startExecution_enters _ _ _ haccepted.effectiveState
    refine ⟨?_, case, hafter, hstarted⟩
    rintro ⟨stored, hstored, heffective⟩
    rw [hbefore] at hstored
    cases hstored
    exact hfresh heffective

/-- A case is started at most once. -/
theorem started_once (hrun : Steps (HistoryStep G C) (Board.start s) ls b) :
    ls.countP (fun l => startsExecution caseId l.event) ≤ 1 := by
  have hcount : ls.countP (fun l => startsExecution caseId l.event) = 0 ∨
      ls.countP (fun l => startsExecution caseId l.event) = 1 ∧ StartedIn b.store caseId := by
    refine hrun.invariant (fun ls b => ls.countP (fun l => startsExecution caseId l.event) = 0 ∨
      ls.countP (fun l => startsExecution caseId l.event) = 1 ∧ StartedIn b.store caseId)
      (.inl rfl) ?_
    rintro ls a l a' - hcount hstep
    rw [List.countP_append, List.countP_singleton]
    cases hstarts : startsExecution caseId l.event with
    | true =>
      obtain ⟨hfresh, hstarted⟩ := startsExecution_step hstep.cases hstarts
      rcases hcount with hzero | ⟨-, hbefore⟩
      · refine .inr ⟨?_, hstarted⟩
        rw [hzero]
        rfl
      · exact absurd hbefore hfresh
    | false =>
      simp only [Bool.false_eq_true, if_false, Nat.add_zero]
      rcases hcount with hzero | ⟨hone, hbefore⟩
      · exact .inl hzero
      · exact .inr ⟨hone, hbefore.keep hstep.cases⟩
  omega

/-- A history in which cases were read under their own ids. -/
def Honest (h : Trace) : Prop :=
  ∀ e ∈ h, ∀ caseId case, Shows e case.caseId case →
    (e = ⟨.getCase caseId, .ok case⟩ → case.caseId = caseId) ∧
      ∀ transition args, e = ⟨.advanceRead caseId transition args, .ok case⟩ → case.caseId = caseId

/-- What is read under an id has it. -/
theorem read_caseId {s s' : Stores} {caseId : String} {case : RemediationCase}
    (h : world s (.getCase caseId) (.ok case) s') : case.caseId = caseId := by
  have hread := world_ok h (by simp [Stores.perform])
  simp only [Stores.perform, Option.some.injEq, Prod.mk.injEq] at hread
  exact CaseTables.case?_caseId (CaseTables.get_eq_ok.mp hread.1)

/-- A case that is read for a transition is the one that was asked for. -/
theorem reread_caseId {s s' : Stores} {caseId : String} {transition : CaseTransition}
    {args : TransitionArgs} {case : RemediationCase}
    (h : world s (.advanceRead caseId transition args) (.ok case) s') : case.caseId = caseId := by
  have hread := world_ok h (by simp [Stores.perform])
  simp only [Stores.perform, Option.some.injEq, Prod.mk.injEq] at hread
  exact CaseTables.case?_caseId (CaseTables.get_eq_ok.mp hread.1)

/-- A step of the world keeps the histories honest. -/
theorem honest_step {l : Label operations PyError ι} (hb : ∀ i, Honest (b.histories i))
    (hstep : Board.Step world G b l b') : ∀ i, Honest (b'.histories i) := by
  intro i e he caseId case hshows
  rcases hstep.mem_history he with he | ⟨-, rfl⟩
  · exact hb i e he caseId case hshows
  · have hanswered := hstep.answered
    constructor
    · intro heq
      rw [heq] at hanswered
      exact read_caseId hanswered
    · intro transition args heq
      rw [heq] at hanswered
      exact reread_caseId hanswered

/-- In every run the histories are honest. -/
theorem honest_run (hrun : Steps (Board.StepIf world G C) (Board.start s) ls b) :
    ∀ i, Honest (b.histories i) :=
  hrun.stateInvariant (fun b => ∀ i, Honest (b.histories i)) (fun _ _ he => by cases he)
    fun _ _ _ ha hstep => honest_step ha hstep.1

omit [DecidableEq ι] in
/-- When a change is deployed its case is started. -/
theorem startedIn_of_deploy {grounds : Grounds} {i : ι} {context : ExecutionContext}
    {checkpoint : DeploymentCheckpoint} (hshown : CasesShown b) (hhonest : Honest (b.histories i))
    (ho : Permitted grounds (notes (b.histories i)) (.deploy context checkpoint)) :
    StartedIn b.store context.case.caseId := by
  obtain ⟨⟨started, hread, args, base, case, event, hreread, hnext, hstored⟩, -⟩ := ho
  have hcontext := (hhonest _ (mem_of_mem_notes hread) started _ .read).1 rfl
  have hbase := (hhonest _ (mem_of_mem_notes hreread) started _ .reread).2 _ _ rfl
  obtain ⟨target, haccepted⟩ := transitionCase_accepted hnext
  obtain ⟨case', hcase', hfollows⟩ := hshown i _ (mem_of_mem_notes hstored) _ _ .appended
  refine ⟨case', ?_, hfollows.keeps (P := fun case => case.effectiveState ∈ startedStates)
    (startExecution_enters _ _ _ haccepted.effectiveState).2 ?_⟩
  · rw [hcontext, ← hbase, ← haccepted.caseId]
    exact hcase'
  · intro base label next hbase hstep
    obtain ⟨target, haccepted⟩ := transitionCase_accepted hstep
    exact startedStates_closed _ _ _ _ hbase haccepted.effectiveState

/-- Who deploys a change had started its case, and deploys for the first time. -/
theorem deploy_after_start {grounds : Grounds} {h : Trace} {o : Operation}
    {r : Except PyError o.Answer} (hhonest : Honest h) (ho : Permitted grounds (notes h) o)
    (hdeploys : deploysFor caseId ⟨o, r⟩ = true) :
    (∃ e ∈ h, startsExecution caseId e = true) ∧ ∀ e ∈ h, deploysFor caseId e = false := by
  cases o
  case deploy context checkpoint =>
    have hid : context.case.caseId = caseId := by simpa [deploysFor] using hdeploys
    obtain ⟨⟨started, hread, args, base, case, event, hreread, hnext, hstored⟩, hfirst⟩ := ho
    have hread := mem_of_mem_notes hread
    have hreread := mem_of_mem_notes hreread
    have hcontext := (hhonest _ hread started _ .read).1 rfl
    have hbase := (hhonest _ hreread started _ .reread).2 _ _ rfl
    obtain ⟨target, haccepted⟩ := transitionCase_accepted hnext
    have hcase : case.caseId = caseId := by
      rw [haccepted.caseId, hbase, ← hcontext, hid]
    refine ⟨⟨_, mem_of_mem_notes hstored, ?_⟩, fun e he => ?_⟩
    · simp [startsExecution, hcase, haccepted.eventTransition]
    · by_contra hdeployed
      rw [Bool.not_eq_false] at hdeployed
      unfold deploysFor at hdeployed
      split at hdeployed
      · rename_i context' checkpoint' r'
        have hnoted : ⟨.deploy context' checkpoint', r'⟩ ∈ notes h := by
          rw [notes_eq_filter]
          exact List.mem_filter.mpr ⟨he, rfl⟩
        cases hfirst _ hnoted
      · cases hdeployed
  all_goals cases hdeploys

end boards

/-- The change of a case is deployed at most once: in every run of any number of actors beside
each other, from any stores. -/
theorem deployed_at_most_once {ι : Type} [DecidableEq ι] {S : Settings} {actors : ι → Actor S}
    {s : Stores} {ls : List (Label operations PyError ι)}
    {c : Pool operations PyError Unit Stores ι}
    (hrun : Steps (Pool.StepIf world fun _ _ => True)
      (Pool.start s fun i => (actors i).program) ls c) (caseId : String) :
    ls.countP (fun l => deploysFor caseId l.event) ≤ 1 := by
  obtain ⟨hboard, -⟩ := Pool.board_steps (fun i => (actors i).permitted) hrun
  obtain ⟨hhistory, -⟩ := history_run (fun _ _ _ ho => ho.lawful) hboard
  have hhonest := hboard.strengthen (P := fun _ _ _ => True)
    (fun b => ∀ i, Honest (b.histories i)) (fun i e he => by cases he)
    fun a l a' ha hstep => ⟨trivial, honest_step ha hstep.1⟩
  have hpaired : Steps (Board.StepIf world
      (fun i h o => Permitted (actors i).grounds (notes h) o ∧ Honest h) fun _ _ => True)
      (Board.start s) ls c.board := by
    refine hhonest.1.mono ?_
    rintro a l a' ⟨⟨⟨hmove, -⟩, ha⟩, -⟩
    exact ⟨⟨⟨hmove.permitted, ha _⟩, hmove.answered, hmove.recorded⟩, trivial⟩
  have hdeployed := Board.countP_le (A := startsExecution caseId) (D := deploysFor caseId)
    (fun i h o r ho hdeploys => deploy_after_start ho.2 ho.1 hdeploys) hpaired
  have hstarted := @started_once _ _ _ _ _ _ _ caseId hhistory
  omega

section samples

/-- Two workers execute the change of the approved case. -/
def racingExecutions (_ : Bool) : Actor sampleSettings :=
  .service (.execute sampleComponents "case-1" "originator" "job-1")

/-- The workers move in this order inside the window of the case. -/
def racedRelease (schedule : List Bool) : Option (List (Label operations PyError Bool) ×
    Pool operations PyError Unit Stores Bool) :=
  Pool.exec performWith (fun _ _ => true) (fun n => ⟨none, quietReply "2026-07-18T02:30:00Z" n⟩)
    schedule 0 (Pool.start approvedStores fun i => (racingExecutions i).program)

/-- Both workers read the case before either starts the execution; one deploys. -/
theorem deployed_once_in_race : ∃ ls c, Steps (Pool.StepIf world fun _ _ => True)
      (Pool.start approvedStores fun i => (racingExecutions i).program) ls c ∧
    ls.countP (fun l => deploysFor "case-1" l.event) = 1 ∧
    ls.countP (fun l => deploysFor "case-1" l.event) ≤ 1 := by
  have hexists : ∃ run ∈ racedRelease (List.replicate 16 false ++ List.replicate 16 true ++
      [false, false, true]),
      run.1.countP (fun l => deploysFor "case-1" l.event) = 1 := by
    decide +kernel
  obtain ⟨⟨ls, c⟩, hrun, hcount⟩ := hexists
  have hsteps : Steps (Pool.StepIf world fun _ _ => True)
      (Pool.start approvedStores fun i => (racingExecutions i).program) ls c :=
    (Pool.exec_steps hrun).mono fun _ _ _ h => ⟨h.1, trivial⟩
  exact ⟨ls, c, hsteps, hcount, deployed_at_most_once hsteps "case-1"⟩

end samples

end ElCapitan
