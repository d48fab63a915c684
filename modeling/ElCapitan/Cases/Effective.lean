import ElCapitan.Cases.Step

/-!
# Effective states

The effective state of a blocked case is the state it was blocked from, and of
any other case its own. On effective states blocking and resuming change
nothing, so the state machine becomes a machine on states alone.
`Accepted.effectiveState` says that the cases follow it.
-/

namespace ElCapitan

/-- A statement about all states, as the conjunction of its instances. -/
theorem CaseState.forall_iff {P : CaseState → Prop} :
    (P .opened ∧ P .prioritized ∧ P .validated ∧ P .planReady ∧ P .sreApproved ∧
      P .windowSelected ∧ P .rollbackReady ∧ P .awaitingApproval ∧ P .approved ∧ P .executing ∧
      P .verifying ∧ P .remediated ∧ P .rollingBack ∧ P .rolledBack ∧ P .closedNoAction ∧
      P .rejected ∧ P .blocked) ↔ ∀ state, P state := by
  refine ⟨fun h state => ?_, fun h => by simp [h]⟩
  cases state <;> simp [h]

instance (P : CaseState → Prop) [DecidablePred P] : Decidable (∀ state, P state) :=
  decidable_of_iff _ CaseState.forall_iff

/-- A statement about all transitions, as the conjunction of its instances. -/
theorem CaseTransition.forall_iff {P : CaseTransition → Prop} :
    (P .addFinding ∧ P .prioritize ∧ P .reprioritize ∧ P .validate ∧ P .preparePlan ∧
      P .approveSre ∧ P .retrySre ∧ P .selectWindow ∧ P .reviewRollback ∧ P .reselectWindow ∧
      P .requestRework ∧ P .requestApproval ∧ P .approveChange ∧ P .scheduleExecution ∧
      P .startExecution ∧ P .startVerification ∧ P .completeRemediation ∧ P .startRollback ∧
      P .completeRollback ∧ P .closeNoAction ∧ P .reject ∧ P .block ∧ P .resume) ↔
      ∀ transition, P transition := by
  refine ⟨fun h transition => ?_, fun h => by simp [h]⟩
  cases transition <;> simp [h]

instance (P : CaseTransition → Prop) [DecidablePred P] :
    Decidable (∀ transition, P transition) :=
  decidable_of_iff _ CaseTransition.forall_iff

/-- The effective state that a state and a remembered state denote. -/
def effectiveOf (state : CaseState) (blockedFrom : Option CaseState) : CaseState :=
  if state = .blocked then blockedFrom.getD .blocked else state

/-- The state of a case, or the state it was blocked from. -/
def RemediationCase.effectiveState (case : RemediationCase) : CaseState :=
  effectiveOf case.state case.blockedFrom

/-- A blocked case is where it was blocked from. -/
@[simp] theorem effectiveOf_blocked (previous : CaseState) :
    effectiveOf .blocked (some previous) = previous := rfl

/-- A case that was never blocked is where it is. -/
@[simp] theorem effectiveOf_none (state : CaseState) : effectiveOf state none = state := by
  cases state <;> rfl

/-- A case that is not blocked is where it is. -/
theorem effectiveOf_of_ne {state : CaseState} {blockedFrom : Option CaseState}
    (h : state ≠ .blocked) : effectiveOf state blockedFrom = state := if_neg h

/-- A case that was just opened is open. -/
theorem Opened.effectiveState {case : RemediationCase} (h : Opened case) :
    case.effectiveState = .opened := by
  rw [RemediationCase.effectiveState, h.fields.1]
  exact effectiveOf_of_ne (by decide)

/-- The machine on effective states; `reopened` tells the two kinds of `ADD_FINDING` apart. -/
def effectiveTransition (state : CaseState) (transition : CaseTransition) (reopened : Bool) :
    Option CaseState :=
  match transition with
  | .addFinding =>
    if reopened then if state ∈ reopenedStates then some .prioritized else none else some state
  | .reprioritize | .scheduleExecution | .block | .resume => some state
  | .retrySre =>
    if state ∈ [CaseState.sreApproved, .windowSelected] then some .planReady else none
  | .requestRework => if state = .windowSelected then some .validated else none
  | .reselectWindow => if state = .rollbackReady then some .sreApproved else none
  | .closeNoAction =>
    if state ∈ [CaseState.prioritized, .validated] then some .closedNoAction else none
  | .reject =>
    if state ∈ [CaseState.planReady, .sreApproved, .windowSelected, .rollbackReady,
      .awaitingApproval] then some .rejected else none
  | linear => linearTransition state linear

/-- The linear transitions are allowed in no blocked state. -/
theorem linearTransition_ne_blocked {state state' : CaseState} {transition : CaseTransition}
    (h : linearTransition state transition = some state') : state ≠ .blocked := by
  rintro rfl
  cases transition <;> cases h

/-- A transition that is not linear has no entry in the table. -/
theorem effectiveTransition_linear {state state' : CaseState} {transition : CaseTransition}
    (h : linearTransition state transition = some state') :
    effectiveTransition state transition false = some state' := by
  cases transition <;> first | exact h | (cases state <;> cases h)

/-- A transition moves the effective state as the machine on states says. -/
theorem Leads.effectiveState {case : RemediationCase} {transition : CaseTransition}
    {args : TransitionArgs} {target : Target} (h : Leads case args transition target) :
    effectiveTransition case.effectiveState transition target.reopened =
      some (effectiveOf target.toState target.blockedFrom) := by
  have hown : case.state ≠ .blocked → case.effectiveState = case.state := effectiveOf_of_ne
  cases h with
  | reopen hstate =>
    rw [hown (by rintro heq; simp [heq, reopenedStates] at hstate)]
    simp [effectiveTransition, hstate]
  | addFinding => rfl
  | reprioritize => rfl
  | scheduleExecution => rfl
  | retrySre hstate =>
    rw [hown (by rintro heq; simp [heq] at hstate)]
    simp only [effectiveTransition, if_pos hstate, effectiveOf_none]
  | requestRework hstate =>
    rw [hown (by simp [hstate]), hstate]
    rfl
  | reselectWindow hstate =>
    rw [hown (by simp [hstate]), hstate]
    rfl
  | block hstate => simp [effectiveTransition, hown hstate]
  | resume hstate hprevious =>
    simp [effectiveTransition, RemediationCase.effectiveState, hstate, hprevious]
  | closeNoAction hstate =>
    rw [hown (by rintro heq; simp [heq] at hstate)]
    simp only [effectiveTransition, if_pos hstate, effectiveOf_none]
  | reject hstate =>
    rw [hown (by rintro heq; simp [heq] at hstate)]
    simp only [effectiveTransition, if_pos hstate, effectiveOf_none]
  | linear hlinear =>
    rw [hown (linearTransition_ne_blocked hlinear), effectiveTransition_linear hlinear]
    simp

/-- An accepted transition moves the effective state as the machine on states says. -/
theorem Accepted.effectiveState {case case' : RemediationCase} {transition : CaseTransition}
    {args : TransitionArgs} {target : Target} {event : CaseEvent}
    (h : Accepted case transition args target case' event) :
    effectiveTransition case.effectiveState transition target.reopened =
      some case'.effectiveState := by
  rw [h.led.effectiveState, RemediationCase.effectiveState, h.state, h.blockedFrom]

end ElCapitan
