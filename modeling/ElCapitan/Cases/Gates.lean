import ElCapitan.Cases.Effective
import ElCapitan.Effects.Ladder

/-!
# Gates passed in order

A case passes nine gates on its way to verification, and each leaves a record id
in the case. The effective state of a case says how many gates count as passed.
The gates are a ladder: a gate's transition climbs one rung, and the transitions
that take a case back let it fall and clear the records of the rungs above.
-/

namespace ElCapitan

open Effects

/-- The transitions that are gates, in order. -/
def gates : List CaseTransition :=
  [.validate, .preparePlan, .approveSre, .selectWindow, .reviewRollback, .requestApproval,
    .approveChange, .startExecution, .startVerification]

/-- The name under which a gate leaves its record id. -/
def gateRecord (gate : CaseTransition) : String := (requiredRecord gate).getD ""

/-- How many gates count as passed in an effective state; a rollback that follows
verification has passed one gate more than one that follows deployment. -/
def gateDepth (verified : Bool) : CaseState → ℕ
  | .validated => 1
  | .planReady => 2
  | .sreApproved => 3
  | .windowSelected => 4
  | .rollbackReady => 5
  | .awaitingApproval => 6
  | .approved => 7
  | .executing => 8
  | .verifying => 9
  | .rollingBack => if verified then 9 else 8
  | _ => 0

/-- Does the log contain a `START_VERIFICATION`? -/
def verificationStarted (log : List CaseEvent) : Bool :=
  log.any fun event => event.transition = .startVerification

/-- How many gates the case counts as passed. -/
def RemediationCase.depth (case : RemediationCase) (log : List CaseEvent) : ℕ :=
  gateDepth (verificationStarted log) case.effectiveState

/-- A step that supplies no gate's record id but that of its own gate. -/
def OwnRecords (label : CaseLabel) : Prop :=
  ∀ gate ∈ gates, gate ≠ label.transition → label.args.recordIds.lookup (gateRecord gate) = none

instance (label : CaseLabel) : Decidable (OwnRecords label) :=
  inferInstanceAs (Decidable (∀ gate ∈ gates, _))

/-- A step of a case that supplies no other gate's record id. -/
def GateStep (case : RemediationCase) (label : CaseLabel) (case' : RemediationCase) : Prop :=
  CaseStep case label case' ∧ OwnRecords label

/-- The gates up to the effective state were passed, last in exactly their order,
the case carries the records they supplied, and nothing of a later gate. -/
structure GatesPassed (log : List CaseEvent) (case : RemediationCase) : Prop where
  /-- Each gate up to the effective state has a last occurrence, and the case
  carries the record id supplied there. -/
  passed : ∀ i gate, i < case.depth log → gates[i]? = some gate →
    ∃ n event, LastAt (fun e : CaseEvent => e.transition = gate) log n event ∧
      ∃ recordId, recordId ≠ "" ∧ event.recordIds.lookup (gateRecord gate) = some recordId ∧
        case.recordIds.lookup (gateRecord gate) = some recordId
  /-- The last occurrences of the gates stand in the order of the gates. -/
  ordered : ∀ i j gate gate', i < j → j < case.depth log → gates[i]? = some gate →
    gates[j]? = some gate' → ∀ n m event event',
      LastAt (fun e : CaseEvent => e.transition = gate) log n event →
      LastAt (fun e : CaseEvent => e.transition = gate') log m event' → n < m
  /-- A plan is present exactly from the planned state on. -/
  plan : case.changePlan ≠ none ↔ gateDepth false .planReady ≤ case.depth log
  /-- A window is present exactly from the state with a selected window on. -/
  window : case.changeWindow ≠ none ↔ gateDepth false .windowSelected ≤ case.depth log
  /-- No record of a gate after the effective state is present. -/
  later : ∀ i gate, case.depth log ≤ i → gates[i]? = some gate →
    case.recordIds.lookup (gateRecord gate) = none

/-- Which rung of the ladder an event climbs. -/
def gateRung (event : CaseEvent) : Option ℕ :=
  if event.transition ∈ gates then some (gates.idxOf event.transition) else none

/-- The record id an event supplies under its transition's name. -/
def gateSupplied (event : CaseEvent) : Option String :=
  event.recordIds.lookup (gateRecord event.transition)

/-- The record ids a case carries for its first gates. -/
def RemediationCase.held (case : RemediationCase) (depth : ℕ) : List (Option String) :=
  (gates.take depth).map fun gate => case.recordIds.lookup (gateRecord gate)

/-- A transition from depth `d` to depth `d'` passes the next gate. -/
def Climbs (d d' : ℕ) (transition : CaseTransition) (reopened : Bool) : Prop :=
  gates[d]? = some transition ∧ d' = d + 1 ∧ clearedRecords transition reopened = []

/-- A transition from depth `d` to depth `d'` passes no gate, and clears exactly
the records of the gates it gives up. -/
def Falls (d d' : ℕ) (transition : CaseTransition) (reopened : Bool) : Prop :=
  transition ∉ gates ∧ d' ≤ d ∧ ∀ gate ∈ gates, gates.idxOf gate < d →
    (gateRecord gate ∈ clearedRecords transition reopened ↔ d' ≤ gates.idxOf gate)

instance (d d' : ℕ) (transition : CaseTransition) (reopened : Bool) :
    Decidable (Climbs d d' transition reopened) := inferInstanceAs (Decidable (_ ∧ _ ∧ _))

instance (d d' : ℕ) (transition : CaseTransition) (reopened : Bool) :
    Decidable (Falls d d' transition reopened) := inferInstanceAs (Decidable (_ ∧ _ ∧ _))

/-- Verification has started in a verifying case, and otherwise only before a rollback
or the end. -/
def VerifiedFits (verified : Bool) (state : CaseState) : Prop :=
  (state = .verifying → verified = true) ∧
    (verified = true → state ∈ [CaseState.verifying, .rollingBack] ++ terminalCaseStates)

instance (verified : Bool) (state : CaseState) : Decidable (VerifiedFits verified state) :=
  inferInstanceAs (Decidable (_ ∧ _))

/-- A transition passes the next gate or takes the case back. -/
theorem effectiveTransition_depth : ∀ (verified : Bool) (state : CaseState)
    (transition : CaseTransition) (reopened : Bool),
    ∀ state' ∈ effectiveTransition state transition reopened, state' ∉ terminalCaseStates →
    (reopened = true → transition = .addFinding) → VerifiedFits verified state →
    Climbs (gateDepth verified state)
        (gateDepth (verified || decide (transition = .startVerification)) state') transition
        reopened ∨
      Falls (gateDepth verified state)
        (gateDepth (verified || decide (transition = .startVerification)) state') transition
        reopened := by
  decide +kernel

/-- Every transition keeps where a case may be once its verification has started. -/
theorem effectiveTransition_verifiedFits : ∀ (verified : Bool) (state : CaseState)
    (transition : CaseTransition) (reopened : Bool),
    ∀ state' ∈ effectiveTransition state transition reopened, VerifiedFits verified state →
    VerifiedFits (verified || decide (transition = .startVerification)) state' := by
  decide +kernel

/-- No transition leaves the terminal states. -/
theorem effectiveTransition_terminal : ∀ (state : CaseState) (transition : CaseTransition)
    (reopened : Bool), ∀ state' ∈ effectiveTransition state transition reopened,
    state ∈ terminalCaseStates → state' ∈ terminalCaseStates := by
  decide +kernel

/-- A case is deep enough for a plan by `PREPARE_PLAN` and until the plan is dropped. -/
theorem effectiveTransition_plan : ∀ (verified : Bool) (state : CaseState)
    (transition : CaseTransition) (reopened : Bool),
    ∀ state' ∈ effectiveTransition state transition reopened, state' ∉ terminalCaseStates →
    (reopened = true → transition = .addFinding) → VerifiedFits verified state →
    (2 ≤ gateDepth (verified || decide (transition = .startVerification)) state' ↔
      ¬(transition = .requestRework ∨ reopened = true) ∧
        (transition = .preparePlan ∨ 2 ≤ gateDepth verified state)) := by
  decide +kernel

/-- A case is deep enough for a window by `SELECT_WINDOW` and until the window is dropped. -/
theorem effectiveTransition_window : ∀ (verified : Bool) (state : CaseState)
    (transition : CaseTransition) (reopened : Bool),
    ∀ state' ∈ effectiveTransition state transition reopened, state' ∉ terminalCaseStates →
    (reopened = true → transition = .addFinding) → VerifiedFits verified state →
    (4 ≤ gateDepth (verified || decide (transition = .startVerification)) state' ↔
      ¬(reopened = true ∨ transition ∈ [CaseTransition.retrySre, .reselectWindow,
          .requestRework]) ∧
        (transition = .selectWindow ∨ 4 ≤ gateDepth verified state)) := by
  decide +kernel

/-- An attachment is present unless it is dropped, if it is given or was there. -/
theorem attached_ne_none {α : Type} {dropped : Prop} [Decidable dropped] {given old : Option α} :
    (if dropped then none else given.or old) ≠ none ↔ ¬dropped ∧ (given ≠ none ∨ old ≠ none) := by
  by_cases h : dropped
  · simp [h]
  · cases given <;> simp [h]

/-- What a run keeps: the log and the records of a case form a climbed ladder. -/
structure GateInvariant (log : List CaseEvent) (case : RemediationCase) : Prop where
  fits : VerifiedFits (verificationStarted log) case.effectiveState
  supplied : ∀ event ∈ log, suppliesRequired event.transition event.recordIds = true
  climbed : case.effectiveState ∉ terminalCaseStates →
    Climbed gateRung gateSupplied log (case.held (case.depth log))
  plan : case.effectiveState ∉ terminalCaseStates →
    (case.changePlan ≠ none ↔ 2 ≤ case.depth log)
  window : case.effectiveState ∉ terminalCaseStates →
    (case.changeWindow ≠ none ↔ 4 ≤ case.depth log)
  later : case.effectiveState ∉ terminalCaseStates → ∀ gate ∈ gates,
    case.depth log ≤ gates.idxOf gate → case.recordIds.lookup (gateRecord gate) = none

/-- A case that was just opened has passed no gate. -/
theorem Opened.gateInvariant {case : RemediationCase} (h : Opened case) :
    GateInvariant [] case := by
  obtain ⟨-, -, hrecords, hplan, hwindow, -, -⟩ := h.fields
  have hdepth : case.depth [] = 0 := by
    rw [RemediationCase.depth, h.effectiveState]
    rfl
  constructor
  · rw [h.effectiveState]
    decide
  · simp
  · intro _
    rw [hdepth]
    exact .empty []
  · simp [hplan, hdepth]
  · simp [hwindow, hdepth]
  · simp [hrecords]

/-- Only `ADD_FINDING` reopens a case. -/
theorem Leads.reopened_addFinding {case : RemediationCase} {transition : CaseTransition}
    {args : TransitionArgs} {target : Target} (h : Leads case args transition target)
    (hreopened : target.reopened = true) : transition = .addFinding := by
  cases h <;> first | rfl | cases hreopened

/-- Attached plans and windows belong to their own transitions. -/
theorem checkAttachments_ok {transition : CaseTransition} {args : TransitionArgs}
    (h : checkAttachments transition args = .ok ()) :
    (args.changePlan ≠ none ↔ transition = .preparePlan) ∧
      (args.changeWindow ≠ none ↔ transition = .selectWindow) := by
  unfold checkAttachments at h
  obtain ⟨_, -, h⟩ := except_bind_eq_ok.mp h
  obtain ⟨_, hneedsPlan, h⟩ := except_bind_eq_ok.mp h
  obtain ⟨_, hneedsWindow, h⟩ := except_bind_eq_ok.mp h
  obtain ⟨_, -, h⟩ := except_bind_eq_ok.mp h
  obtain ⟨_, hownPlan, h⟩ := except_bind_eq_ok.mp h
  obtain ⟨_, hownWindow, -⟩ := except_bind_eq_ok.mp h
  rw [raiseIf_eq_ok] at hneedsPlan hneedsWindow hownPlan hownWindow
  constructor <;> constructor
  · exact fun hplan => by_contra fun hne => hownPlan ⟨hplan, hne⟩
  · exact fun heq hnone => hneedsPlan ⟨heq, hnone⟩
  · exact fun hwindow => by_contra fun hne => hownWindow ⟨hwindow, hne⟩
  · exact fun heq hnone => hneedsWindow ⟨heq, hnone⟩

/-- The gates are distinct. -/
theorem gates_nodup : gates.Nodup := by decide

/-- The rung of an event is the position of its transition among the gates. -/
theorem gateRung_eq_some {event : CaseEvent} {i : ℕ} :
    gateRung event = some i ↔ gates[i]? = some event.transition := by
  unfold gateRung
  constructor
  · intro h
    split at h
    · rename_i hmem
      obtain rfl := Option.some.inj h
      exact List.getElem?_idxOf hmem
    · cases h
  · intro h
    obtain ⟨hlt, heq⟩ := List.getElem?_eq_some_iff.mp h
    rw [← heq, if_pos (List.getElem_mem hlt), gates_nodup.idxOf_getElem]

/-- An event passes no gate where its transition is none. -/
theorem gateRung_eq_none {event : CaseEvent} :
    gateRung event = none ↔ event.transition ∉ gates := by
  simp [gateRung]

/-- One of the first gates is a gate with a lower place. -/
theorem mem_take_gates {gate : CaseTransition} {depth : ℕ} (h : gate ∈ gates.take depth) :
    gate ∈ gates ∧ gates.idxOf gate < depth := by
  have hmem := List.mem_of_mem_take h
  exact ⟨hmem, (List.mem_take_iff_idxOf_lt hmem).mp h⟩

/-- Passing the next gate adds its record to those held. -/
theorem Climbs.held {case case' : RemediationCase} {d d' : ℕ} {transition : CaseTransition}
    {reopened : Bool} {supplied : Option String} (h : Climbs d d' transition reopened)
    (hlookup : ∀ gate ∈ gates, case'.recordIds.lookup (gateRecord gate) =
      if gate = transition then supplied
      else if gateRecord gate ∈ clearedRecords transition reopened then none
      else case.recordIds.lookup (gateRecord gate)) :
    case'.held d' = case.held d ++ [supplied] ∧ (case.held d).length = d := by
  obtain ⟨hgate, rfl, hcleared⟩ := h
  obtain ⟨hlt, hat⟩ := List.getElem?_eq_some_iff.mp hgate
  have hmem : transition ∈ gates := hat ▸ List.getElem_mem hlt
  have hindex : gates.idxOf transition = d := hat ▸ gates_nodup.idxOf_getElem d hlt
  constructor
  · unfold RemediationCase.held
    rw [List.take_add_one, hgate, Option.toList_some, List.map_append, List.map_singleton,
      hlookup transition hmem, if_pos rfl]
    congr 1
    refine List.map_congr_left fun gate hgate => ?_
    obtain ⟨hgate, hbelow⟩ := mem_take_gates hgate
    have hne : gate ≠ transition := by
      rintro rfl
      omega
    rw [hlookup gate hgate, if_neg hne, hcleared, if_neg List.not_mem_nil]
  · simp only [RemediationCase.held, List.length_map, List.length_take]
    omega

/-- Taking a case back keeps the records of the gates below. -/
theorem Falls.held {case case' : RemediationCase} {d d' : ℕ} {transition : CaseTransition}
    {reopened : Bool} {supplied : Option String} (h : Falls d d' transition reopened)
    (hlookup : ∀ gate ∈ gates, case'.recordIds.lookup (gateRecord gate) =
      if gate = transition then supplied
      else if gateRecord gate ∈ clearedRecords transition reopened then none
      else case.recordIds.lookup (gateRecord gate)) :
    case'.held d' = (case.held d).take d' := by
  obtain ⟨hnot, hle, hcleared⟩ := h
  unfold RemediationCase.held
  rw [← List.map_take, List.take_take, Nat.min_eq_left hle]
  refine List.map_congr_left fun gate hgate => ?_
  obtain ⟨hgate, hbelow⟩ := mem_take_gates hgate
  have hne : gate ≠ transition := fun heq => hnot (heq ▸ hgate)
  have hkept : gateRecord gate ∉ clearedRecords transition reopened := by
    rw [hcleared gate hgate (by omega)]
    omega
  rw [hlookup gate hgate, if_neg hne, if_neg hkept]

/-- Every gate requires its record. -/
theorem requiredRecord_gates : ∀ gate ∈ gates, requiredRecord gate = some (gateRecord gate) := by
  decide

/-- The event of a gate supplies a record id that is not empty. -/
theorem exists_of_suppliesRequired {gate : CaseTransition} {records : RecordIds}
    (hgate : gate ∈ gates) (h : suppliesRequired gate records = true) :
    ∃ recordId, recordId ≠ "" ∧ records.lookup (gateRecord gate) = some recordId := by
  simp only [suppliesRequired, requiredRecord_gates gate hgate, decide_eq_true_eq] at h
  cases hlookup : records.lookup (gateRecord gate) with
  | none => simp [hlookup] at h
  | some recordId => exact ⟨recordId, by simpa [hlookup] using h, rfl⟩

/-- What a case carries for each gate after a step that supplies no other gate's record. -/
theorem Accepted.lookup_gateRecord {case case' : RemediationCase} {label : CaseLabel}
    {target : Target} (h : Accepted case label.transition label.args target case' label.event)
    (hown : OwnRecords label) : ∀ gate ∈ gates, case'.recordIds.lookup (gateRecord gate) =
      if gate = label.transition then gateSupplied label.event
      else if gateRecord gate ∈ clearedRecords label.transition target.reopened then none
      else case.recordIds.lookup (gateRecord gate) := by
  intro gate hgate
  rw [h.recordIds, lookup_mergeRecords]
  by_cases heq : gate = label.transition
  · obtain ⟨recordId, -, hrecord⟩ := exists_of_suppliesRequired (heq ▸ hgate) h.supplied
    rw [if_pos heq, gateSupplied, h.eventTransition, h.eventRecords, heq, hrecord]
    rfl
  · rw [if_neg heq, hown gate hgate heq, Option.none_or]

/-- An accepted step keeps the invariant. -/
theorem GateStep.gateInvariant {case case' : RemediationCase} {label : CaseLabel}
    {log : List CaseEvent} (h : GateStep case label case') (hinv : GateInvariant log case) :
    GateInvariant (log ++ [label.event]) case' := by
  obtain ⟨hstep, hown⟩ := h
  obtain ⟨target, haccepted⟩ := transitionCase_accepted hstep
  have hmoves := haccepted.effectiveState
  have hflag : verificationStarted (log ++ [label.event]) =
      (verificationStarted log || decide (label.transition = .startVerification)) := by
    simp [verificationStarted, haccepted.eventTransition]
  have hfits := effectiveTransition_verifiedFits _ _ _ _ _ hmoves hinv.fits
  -- The case came from a live state, unless it ends here.
  have hlive : case'.effectiveState ∉ terminalCaseStates →
      case.effectiveState ∉ terminalCaseStates := fun hlive' hterminal =>
    hlive' (effectiveTransition_terminal _ _ _ _ hmoves hterminal)
  have hreopened := fun h => haccepted.led.reopened_addFinding h
  have hlookup := haccepted.lookup_gateRecord hown
  have hmoved : case'.effectiveState ∉ terminalCaseStates →
      Climbs (case.depth log) (case'.depth (log ++ [label.event])) label.transition
          target.reopened ∨
        Falls (case.depth log) (case'.depth (log ++ [label.event])) label.transition
          target.reopened := fun hlive' => by
    rw [RemediationCase.depth, RemediationCase.depth, hflag]
    exact effectiveTransition_depth _ _ _ _ _ hmoves hlive' hreopened hinv.fits
  obtain ⟨hplan, hwindow⟩ := checkAttachments_ok haccepted.attached
  constructor
  · rwa [hflag]
  · intro event hevent
    rcases List.mem_append.mp hevent with hevent | hevent
    · exact hinv.supplied event hevent
    · rw [List.mem_singleton.mp hevent, haccepted.eventTransition, haccepted.eventRecords]
      exact haccepted.supplied
  · intro hlive'
    have hclimbed := hinv.climbed (hlive hlive')
    rcases hmoved hlive' with hclimbs | hfalls
    · obtain ⟨hheld, hlength⟩ := hclimbs.held hlookup
      rw [hheld]
      refine hclimbed.climb ?_
      rw [gateRung_eq_some, haccepted.eventTransition, hlength]
      exact hclimbs.1
    · rw [hfalls.held hlookup]
      refine hclimbed.fall ?_ _
      rw [gateRung_eq_none, haccepted.eventTransition]
      exact hfalls.1
  · intro hlive'
    have hnew := effectiveTransition_plan _ _ _ _ _ hmoves hlive' hreopened hinv.fits
    rw [RemediationCase.depth, hflag, hnew, haccepted.changePlan, attached_ne_none, hplan,
      hinv.plan (hlive hlive'), RemediationCase.depth]
  · intro hlive'
    have hnew := effectiveTransition_window _ _ _ _ _ hmoves hlive' hreopened hinv.fits
    rw [RemediationCase.depth, hflag, hnew, haccepted.changeWindow, attached_ne_none, hwindow,
      hinv.window (hlive hlive'), RemediationCase.depth]
  · intro hlive' gate hgate habove
    rw [hlookup gate hgate]
    have hold := hinv.later (hlive hlive') gate hgate
    rcases hmoved hlive' with ⟨hat, hdepth, hcleared⟩ | ⟨hnot, hle, hcleared⟩
    · have hne : gate ≠ label.transition := by
        rintro rfl
        obtain ⟨hlt, hat⟩ := List.getElem?_eq_some_iff.mp hat
        have hindex := gates_nodup.idxOf_getElem _ hlt
        rw [hat] at hindex
        omega
      rw [if_neg hne, hcleared, if_neg List.not_mem_nil]
      exact hold (by omega)
    · have hne : gate ≠ label.transition := fun heq => hnot (heq ▸ hgate)
      rw [if_neg hne]
      by_cases hbelow : gates.idxOf gate < case.depth log
      · rw [if_pos ((hcleared gate hgate hbelow).mpr habove)]
      · rw [hold (by omega), ite_self]

/-- Every run from an opened case keeps the gate invariant. -/
theorem GateStep.run_gateInvariant {case₀ case : RemediationCase} {labels : List CaseLabel}
    (hopened : Opened case₀) (hrun : Steps GateStep case₀ labels case) :
    GateInvariant (logOf labels) case := by
  refine hrun.invariant (fun ls c => GateInvariant (logOf ls) c) hopened.gateInvariant ?_
  intro ls a l b _ hinv hstep
  rw [logOf_snoc]
  exact hstep.gateInvariant hinv

/-- The last climb of a rung is the last occurrence of its gate. -/
theorem lastAt_gateRung {log : List CaseEvent} {i n : ℕ} {gate : CaseTransition}
    {event : CaseEvent} (hgate : gates[i]? = some gate) :
    LastAt (fun e : CaseEvent => e.transition = gate) log n event ↔
      LastAt (fun e : CaseEvent => gateRung e = some i) log n event := by
  have hsame : (fun e : CaseEvent => e.transition = gate) = fun e => gateRung e = some i := by
    funext e
    rw [gateRung_eq_some, hgate, Option.some.injEq]
    exact propext eq_comm
  rw [hsame]

/-- In a run in which each gate's record id is supplied by its own transition
only, no gate is skipped or replayed out of order. -/
theorem gates_passed {case₀ case : RemediationCase} {labels : List CaseLabel}
    (hopened : Opened case₀) (hrun : Steps GateStep case₀ labels case)
    (hlive : case.effectiveState ∉ terminalCaseStates) : GatesPassed (logOf labels) case := by
  have hinv := GateStep.run_gateInvariant hopened hrun
  have hclimbed := hinv.climbed hlive
  have hheld : ∀ i gate, i < case.depth (logOf labels) → gates[i]? = some gate →
      (case.held (case.depth (logOf labels)))[i]? =
        some (case.recordIds.lookup (gateRecord gate)) := by
    intro i gate hi hgate
    simp [RemediationCase.held, hi, hgate]
  constructor
  · intro i gate hi hgate
    obtain ⟨n, event, hlast, hrecord⟩ := hclimbed.last i _ (hheld i gate hi hgate)
    have hat := gateRung_eq_some.mp hlast.2.1
    rw [hgate, Option.some.injEq] at hat
    obtain ⟨recordId, hne, hsupplied⟩ := exists_of_suppliesRequired
      (hat ▸ List.mem_of_getElem? hgate)
      (hinv.supplied event (List.mem_of_getElem? hlast.1))
    refine ⟨n, event, (lastAt_gateRung hgate).mpr hlast, recordId, hne, ?_, ?_⟩
    · rw [hat, hsupplied]
    · rw [← hrecord, gateSupplied, hsupplied]
  · intro i j gate gate' hij hj hgate hgate' n m event event' hlast hlast'
    refine hclimbed.ordered i j hij ?_ n m event event' ((lastAt_gateRung hgate).mp hlast)
      ((lastAt_gateRung hgate').mp hlast')
    exact (List.getElem?_eq_some_iff.mp (hheld j gate' hj hgate')).1
  · exact hinv.plan hlive
  · exact hinv.window hlive
  · intro i gate hi hgate
    obtain ⟨hlt, hat⟩ := List.getElem?_eq_some_iff.mp hgate
    refine hinv.later hlive gate (List.mem_of_getElem? hgate) ?_
    rwa [← hat, gates_nodup.idxOf_getElem]

/-- A case whose reviewed plan was retried, reviewed again and then blocked. -/
def retriedRequests : List (CaseTransition × TransitionArgs) :=
  validatedRequests ++
    [(.preparePlan, { sampleArgs "event-3" [("change_plan_id", "plan-1")] with
        changePlan := some ⟨"plan-1", "restrict access", "change-1", [], ["edit"], ["apply"],
          ["observe"], ["restore"], ["errors"], [], [], by decide, by decide⟩ }),
      (.approveSre, sampleArgs "event-4" [("sre_review_id", "review-1")]),
      (.retrySre, { sampleArgs "event-5" [("review_feedback_id", "feedback-1")] with
        detail := "missing citation" }),
      (.approveSre, sampleArgs "event-6" [("sre_review_id", "review-2")]),
      (.block, { sampleArgs "event-7" [] with detail := "evidence outage" })]

/-- A case that is blocked after a second SRE review has passed its gates with the second one. -/
theorem gates_passed_after_retry : ∃ labels case, case.state = .blocked ∧
    case.effectiveState = .sreApproved ∧
    case.recordIds.lookup "sre_review_id" = some "review-2" ∧
    GatesPassed (logOf labels) case := by
  have hexists : ∃ run ∈ runCase (fun _ label => OwnRecords label) sampleCase retriedRequests,
      run.2.state = .blocked ∧ run.2.effectiveState = .sreApproved ∧
        run.2.recordIds.lookup "sre_review_id" = some "review-2" := by
    decide +kernel
  obtain ⟨⟨labels, case⟩, hrun, hblocked, hstate, hreview⟩ := hexists
  refine ⟨labels, case, hblocked, hstate, hreview, gates_passed sampleCase_opened ?_ ?_⟩
  · exact (runCase_steps hrun).mono fun _ _ _ h => ⟨h.1, by simpa using h.2⟩
  · rw [hstate]
    decide

end ElCapitan
