import ElCapitan.Cases.Transition
import ElCapitan.Effects.Steps

/-!
# What an accepted transition does

`transitionCase_accepted` says everything an accepted transition does to a case
and to its log, and `Leads` where each transition leads. The runs of a case are the
runs of this step.
-/

namespace ElCapitan

open Effects

/-- Where a transition leads when the state machine allows it. -/
inductive Leads (case : RemediationCase) (args : TransitionArgs) : CaseTransition → Target → Prop
  | reopen {additions : List String} (hstate : case.state ∈ reopenedStates)
      (hfresh : additions = args.newFindingIds.filter fun fid => fid ∉ case.findingIds)
      (hadditions : additions ≠ []) :
      Leads case args .addFinding { toState := .prioritized, additions, reopened := true }
  | addFinding {additions : List String} (hstate : case.state ∉ reopenedStates)
      (hfresh : additions = args.newFindingIds.filter fun fid => fid ∉ case.findingIds)
      (hadditions : additions ≠ []) :
      Leads case args .addFinding
        { toState := case.state, blockedFrom := case.blockedFrom, additions }
  | reprioritize (hpriority : args.priority ≠ none) :
      Leads case args .reprioritize { toState := case.state, blockedFrom := case.blockedFrom }
  | scheduleExecution (hstate : case.state = .approved) :
      Leads case args .scheduleExecution
        { toState := case.state, blockedFrom := case.blockedFrom }
  | retrySre (hstate : case.state ∈ [CaseState.sreApproved, .windowSelected])
      (hdetail : args.detail ≠ "") : Leads case args .retrySre { toState := .planReady }
  | requestRework (hstate : case.state = .windowSelected) (hdetail : args.detail ≠ "") :
      Leads case args .requestRework { toState := .validated }
  | reselectWindow (hstate : case.state = .rollbackReady) (hdetail : args.detail ≠ "") :
      Leads case args .reselectWindow { toState := .sreApproved }
  | block (hstate : case.state ≠ .blocked) (hdetail : args.detail ≠ "") :
      Leads case args .block { toState := .blocked, blockedFrom := some case.state }
  | resume {previous : CaseState} (hstate : case.state = .blocked)
      (hprevious : case.blockedFrom = some previous) :
      Leads case args .resume { toState := previous }
  | closeNoAction (hstate : case.state ∈ [CaseState.prioritized, .validated])
      (hdetail : args.detail ≠ "") : Leads case args .closeNoAction { toState := .closedNoAction }
  | reject (hstate : case.state ∈ [CaseState.planReady, .sreApproved, .windowSelected,
        .rollbackReady, .awaitingApproval]) (hdetail : args.detail ≠ "") :
      Leads case args .reject { toState := .rejected }
  | linear {transition : CaseTransition} {toState : CaseState}
      (hlinear : linearTransition case.state transition = some toState) :
      Leads case args transition { toState }

/-- The target of a transition is where the transition leads. -/
theorem transitionTarget_leads {case : RemediationCase} {transition : CaseTransition}
    {args : TransitionArgs} {target : Target}
    (h : transitionTarget case transition args = .ok target) :
    Leads case args transition target := by
  cases transition
  case addFinding =>
    simp only [transitionTarget] at h
    split at h
    · cases h
    · rename_i hadditions
      cases h
      by_cases hstate : case.state ∈ reopenedStates
      · simpa [hstate] using Leads.reopen hstate rfl hadditions
      · simpa [hstate] using Leads.addFinding hstate rfl hadditions
  case reprioritize =>
    simp only [transitionTarget] at h
    split at h
    · cases h
    · cases h
      exact .reprioritize ‹_›
  case scheduleExecution =>
    simp only [transitionTarget] at h
    split at h
    · cases h
    · rename_i hstate
      cases h
      exact .scheduleExecution (not_not.mp hstate)
  case resume =>
    simp only [transitionTarget] at h
    split at h
    · cases h
      exact .resume ‹_› ‹_›
    · cases h
  case retrySre | requestRework | reselectWindow | block | closeNoAction | reject =>
    simp only [transitionTarget] at h
    split at h
    · cases h
    · rename_i hstate
      split at h
      · cases h
      · cases h
        first
          | exact .retrySre (not_not.mp hstate) ‹_›
          | exact .requestRework (not_not.mp hstate) ‹_›
          | exact .reselectWindow (not_not.mp hstate) ‹_›
          | exact .block hstate ‹_›
          | exact .closeNoAction (not_not.mp hstate) ‹_›
          | exact .reject (not_not.mp hstate) ‹_›
  all_goals
    simp only [transitionTarget] at h
    split at h
    · cases h
      exact .linear ‹_›
    · cases h

/-- The effect of an accepted transition on a case, with the event it logs. -/
structure Accepted (case : RemediationCase) (transition : CaseTransition) (args : TransitionArgs)
    (target : Target) (case' : RemediationCase) (event : CaseEvent) : Prop where
  live : case.terminal = false
  supplied : suppliesRequired transition args.recordIds = true
  led : Leads case args transition target
  attached : checkAttachments transition args = .ok ()
  caseId : case'.caseId = case.caseId
  tenantId : case'.tenantId = case.tenantId
  assetIds : case'.assetIds = case.assetIds
  findingIds : case'.findingIds = case.findingIds ++ target.additions
  state : case'.state = target.toState
  version : case'.version = case.version + 1
  priority : case'.priority = args.priority.or case.priority
  changePlan : case'.changePlan =
    if transition = .requestRework ∨ target.reopened = true then none
    else args.changePlan.or case.changePlan
  changeWindow : case'.changeWindow =
    if target.reopened = true ∨
        transition ∈ [CaseTransition.retrySre, .reselectWindow, .requestRework] then none
    else args.changeWindow.or case.changeWindow
  recordIds : case'.recordIds =
    mergeRecords case.recordIds (clearedRecords transition target.reopened) args.recordIds
  blockedFrom : case'.blockedFrom = target.blockedFrom
  eventCase : event.caseId = case.caseId
  eventSequence : event.sequence = case.version + 1
  eventTransition : event.transition = transition
  eventFrom : event.fromState = case.state
  eventTo : event.toState = target.toState
  eventRecords : event.recordIds = args.recordIds

/-- A created event has the fields it was created with. -/
theorem CaseEvent.create_eq_ok {eventId caseId : String} {sequence : ℕ}
    {transition : CaseTransition} {fromState toState : CaseState} {occurredAt actor : String}
    {recordIds : RecordIds} {evidenceIds : List String} {detail : String} {event : CaseEvent}
    (h : CaseEvent.create eventId caseId sequence transition fromState toState occurredAt actor
      recordIds evidenceIds detail = .ok event) :
    event.caseId = caseId ∧ event.sequence = sequence ∧ event.transition = transition ∧
      event.fromState = fromState ∧ event.toState = toState ∧ event.recordIds = recordIds := by
  unfold CaseEvent.create at h
  split at h
  · split at h
    · cases h
      exact ⟨rfl, rfl, rfl, rfl, rfl, rfl⟩
    · cases h
  · cases h

/-- Everything an accepted transition does. -/
theorem transitionCase_accepted {case case' : RemediationCase} {transition : CaseTransition}
    {args : TransitionArgs} {event : CaseEvent}
    (h : transitionCase case transition args = .ok (case', event)) :
    ∃ target, Accepted case transition args target case' event := by
  unfold transitionCase at h
  obtain ⟨_, hlive, h⟩ := except_bind_eq_ok.mp h
  obtain ⟨_, hsupplied, h⟩ := except_bind_eq_ok.mp h
  obtain ⟨target, hled, h⟩ := except_bind_eq_ok.mp h
  obtain ⟨_, hattached, h⟩ := except_bind_eq_ok.mp h
  obtain ⟨event', hevent, h⟩ := except_bind_eq_ok.mp h
  cases h
  have hfields := CaseEvent.create_eq_ok hevent
  have hlive' := raiseIf_eq_ok.mp hlive
  have hsupplied' := raiseIf_eq_ok.mp hsupplied
  exact ⟨target, {
    live := by simpa using hlive'
    supplied := by simpa using hsupplied'
    led := transitionTarget_leads hled
    attached := hattached
    caseId := rfl
    tenantId := rfl
    assetIds := rfl
    findingIds := rfl
    state := rfl
    version := hfields.2.1
    priority := rfl
    changePlan := rfl
    changeWindow := rfl
    recordIds := rfl
    blockedFrom := rfl
    eventCase := hfields.1
    eventSequence := hfields.2.1
    eventTransition := hfields.2.2.1
    eventFrom := hfields.2.2.2.1
    eventTo := hfields.2.2.2.2.1
    eventRecords := hfields.2.2.2.2.2 }⟩

/-- The event of an accepted transition carries its name. -/
theorem event_transition {case case' : RemediationCase} {transition : CaseTransition}
    {args : TransitionArgs} {event : CaseEvent}
    (h : transitionCase case transition args = .ok (case', event)) :
    event.transition = transition := by
  obtain ⟨target, haccepted⟩ := transitionCase_accepted h
  exact haccepted.eventTransition

/-- An accepted transition names its event as it was told to. -/
theorem transitionCase_eventId {base case : RemediationCase} {transition : CaseTransition}
    {args : TransitionArgs} {event : CaseEvent}
    (h : transitionCase base transition args = .ok (case, event)) :
    event.eventId = args.eventId := by
  unfold transitionCase at h
  obtain ⟨_, -, h⟩ := except_bind_eq_ok.mp h
  obtain ⟨_, -, h⟩ := except_bind_eq_ok.mp h
  obtain ⟨target, -, h⟩ := except_bind_eq_ok.mp h
  obtain ⟨_, -, h⟩ := except_bind_eq_ok.mp h
  obtain ⟨event', hevent, h⟩ := except_bind_eq_ok.mp h
  cases h
  unfold CaseEvent.create at hevent
  split at hevent
  · split at hevent
    · cases hevent
      rfl
    · cases hevent
  · cases hevent

/-- A transition with an event, its required record and a target is accepted. -/
theorem transitionCase_of_target {case : RemediationCase} {transition : CaseTransition}
    {args : TransitionArgs} {target : Target} (hlive : case.terminal = false)
    (hsupplied : suppliesRequired transition args.recordIds = true)
    (htarget : transitionTarget case transition args = .ok target)
    (hattached : checkAttachments transition args = .ok ())
    (hevent : args.eventId ≠ "" ∧ args.actor ≠ "" ∧ args.occurredAt ≠ "") :
    ∃ case' event, transitionCase case transition args = .ok (case', event) ∧
      case'.state = target.toState := by
  have hfields : args.eventId ≠ "" ∧ case.caseId ≠ "" ∧ args.actor ≠ "" ∧ args.occurredAt ≠ "" :=
    ⟨hevent.1, case.required.1, hevent.2⟩
  unfold transitionCase
  rw [hlive, hsupplied, htarget, hattached]
  simp only [raiseIf, CaseEvent.create, dif_pos hfields, Nat.le_add_left, bind, Except.bind,
    dite_true, if_false, Bool.false_eq_true, Bool.true_eq_false]
  exact ⟨_, _, rfl, rfl⟩

/-- A transition with its arguments and the event it logged. -/
structure CaseLabel where
  transition : CaseTransition
  args : TransitionArgs
  event : CaseEvent
  deriving DecidableEq

/-- One accepted transition of a case. -/
def CaseStep (case : RemediationCase) (label : CaseLabel) (case' : RemediationCase) : Prop :=
  transitionCase case label.transition label.args = .ok (case', label.event)

/-- `open_case` made this case. -/
def Opened (case : RemediationCase) : Prop :=
  ∃ caseId tenantId findingIds assetIds serviceIds now,
    openCase caseId tenantId findingIds assetIds serviceIds now = .ok case

/-- The log of a run of a case. -/
def logOf (labels : List CaseLabel) : List CaseEvent := labels.map CaseLabel.event

/-- The log of a longer run ends with the event of its last step. -/
@[simp] theorem logOf_snoc (labels : List CaseLabel) (label : CaseLabel) :
    logOf (labels ++ [label]) = logOf labels ++ [label.event] := by
  simp [logOf]

/-- Apply transitions one after the other, while they are accepted and meet a check. -/
def runCase (check : RemediationCase → CaseLabel → Bool) :
    RemediationCase → List (CaseTransition × TransitionArgs) →
      Option (List CaseLabel × RemediationCase)
  | case, [] => some ([], case)
  | case, (transition, args) :: rest =>
    match transitionCase case transition args with
    | .error _ => none
    | .ok (case', event) =>
      if check case ⟨transition, args, event⟩ then
        (runCase check case' rest).map fun (labels, last) =>
          (⟨transition, args, event⟩ :: labels, last)
      else none

/-- What `runCase` computes is a run. -/
theorem runCase_steps {check : RemediationCase → CaseLabel → Bool} {case case' : RemediationCase}
    {requests : List (CaseTransition × TransitionArgs)} {labels : List CaseLabel}
    (h : runCase check case requests = some (labels, case')) :
    Steps (fun c l c' => CaseStep c l c' ∧ check c l = true) case labels case' := by
  induction requests generalizing case labels with
  | nil =>
    cases h
    exact .nil _
  | cons request requests ih =>
    obtain ⟨transition, args⟩ := request
    simp only [runCase] at h
    split at h
    · cases h
    · rename_i next event haccepted
      split at h
      · rename_i hcheck
        rw [Option.map_eq_some_iff] at h
        obtain ⟨⟨rest, last⟩, hrest, heq⟩ := h
        cases heq
        exact .cons ⟨haccepted, hcheck⟩ (ih hrest)
      · cases h

/-- A newly opened case has no records and no progress. -/
theorem Opened.fields {case : RemediationCase} (h : Opened case) :
    case.state = .opened ∧ case.version = 0 ∧ case.recordIds = ∅ ∧ case.changePlan = none ∧
      case.changeWindow = none ∧ case.blockedFrom = none ∧ case.priority = none := by
  obtain ⟨caseId, tenantId, findingIds, assetIds, serviceIds, now, h⟩ := h
  unfold openCase at h
  split at h
  · cases h
    exact ⟨rfl, rfl, rfl, rfl, rfl, rfl, rfl⟩
  · cases h

section records

/-- What a merged record mapping holds under a name. -/
theorem lookup_mergeRecords (current supplied : RecordIds) (cleared : List String)
    (name : String) :
    (mergeRecords current cleared supplied).lookup name =
      (supplied.lookup name).or (if name ∈ cleared then none else current.lookup name) := by
  have herase : ∀ (names : List String) (m : RecordIds),
      (names.foldl (fun m name => m.erase name) m).lookup name =
        if name ∈ names then none else m.lookup name := by
    intro names
    induction names with
    | nil => simp
    | cons n names ih =>
      intro m
      by_cases hn : name = n
      · subst hn
        by_cases hmem : name ∈ names <;> simp [ih, hmem]
      · by_cases hmem : name ∈ names <;> simp [ih, hmem, hn]
  unfold mergeRecords
  by_cases hmem : name ∈ supplied
  · obtain ⟨value, hvalue⟩ := Finmap.mem_iff.mp hmem
    rw [Finmap.lookup_union_left hmem, hvalue]
    rfl
  · rw [Finmap.lookup_union_right hmem, herase, Finmap.lookup_eq_none.mpr hmem]
    rfl

end records

/-- A case is live where its state is not terminal. -/
theorem RemediationCase.terminal_eq_false {case : RemediationCase} :
    case.terminal = false ↔ case.state ∉ terminalCaseStates := by
  simp [RemediationCase.terminal]

/-- A transition that adds no finding keeps the finding ids. -/
theorem Leads.additions_eq_nil {case : RemediationCase} {transition : CaseTransition}
    {args : TransitionArgs} {target : Target} (h : Leads case args transition target)
    (hne : transition ≠ .addFinding) : target.additions = [] := by
  cases h <;> first | rfl | exact absurd rfl hne

section samples

/-- A newly opened case. -/
def sampleCase : RemediationCase where
  caseId := "case-1"
  tenantId := "tenant-1"
  findingIds := ["finding-1"]
  assetIds := ["asset-1"]
  serviceIds := []
  state := .opened
  version := 0
  createdAt := "2026-07-17T12:00:00Z"
  updatedAt := "2026-07-17T12:00:00Z"
  priority := none
  changePlan := none
  changeWindow := none
  recordIds := ∅
  blockedFrom := none
  required := by decide

/-- The sample's case was just opened. -/
theorem sampleCase_opened : Opened sampleCase :=
  ⟨"case-1", "tenant-1", ["finding-1"], ["asset-1"], [], "2026-07-17T12:00:00Z", rfl⟩

/-- The arguments of an event with its record ids. -/
def sampleArgs (eventId : String) (entries : List (String × String)) : TransitionArgs :=
  { eventId, occurredAt := "2026-07-17T12:00:00Z", actor := "worker",
    recordIds := recordIdsOf entries }

/-- A case is prioritized and validated. -/
def validatedRequests : List (CaseTransition × TransitionArgs) :=
  [(.prioritize, { sampleArgs "event-1" [("risk_assessment_id", "risk-1")] with
      priority := some ⟨"risk-1", 50, "routine", ["exposure"], 1, [], by decide, by decide,
        by decide⟩ }),
    (.validate, sampleArgs "event-2" [("validation_result_id", "validation-1")])]

end samples

end ElCapitan
