import ElCapitan.Cases.Effective
import ElCapitan.Workers.History

/-!
# Which record ids a step of a service changes

Each service supplies record ids under a few names with each transition. So a record bound to
a case stays bound until a transition supplies or clears its name. A worker reads a case,
writes a record from what it read and binds the record to the case it then re-reads.
-/

namespace ElCapitan

open Effects

/-- The names under which the services supply record ids with a transition. -/
def suppliedNames : CaseTransition → List String
  | .addFinding => ["finding_id"]
  | .prioritize | .reprioritize => ["risk_assessment_id"]
  | .validate | .closeNoAction => ["validation_result_id"]
  | .preparePlan => ["change_plan_id", "iac_link_id"]
  | .approveSre => ["sre_review_id"]
  | .retrySre | .requestRework => ["review_feedback_id"]
  | .selectWindow => ["change_window_id"]
  | .reviewRollback => ["rollback_review_id"]
  | .requestApproval => ["policy_decision_id", "human_review_package_id"]
  | .approveChange => ["approval_id"]
  | .scheduleExecution => ["schedule_id", "execution_job_id"]
  | .startExecution => ["execution_id"]
  | .startVerification => ["execution_result_id"]
  | .completeRemediation =>
    ["verification_result_id", "remediation_certificate_id", "originator_handoff_id"]
  | .startRollback => ["rollback_execution_id"]
  | .completeRollback => ["verification_result_id"]
  | .reject => ["sre_review_id", "rollback_review_id", "rejection_id"]
  | .block => ["validation_result_id", "sre_review_id", "rollback_review_id",
      "rollback_failure_id", "verification_result_id"]
  | .reselectWindow | .resume => []

/-- A decision of a validation. -/
theorem validationDecision_transition (results : List FindingValidation) :
    (validationDecision results).1 = .validate ∨ (validationDecision results).1 = .block ∨
      (validationDecision results).1 = .closeNoAction := by
  unfold validationDecision
  dsimp only
  split
  · exact .inl rfl
  · split
    · exact .inr (.inl rfl)
    · exact .inr (.inr rfl)

/-- The services resume no case and supply ids under these names. -/
theorem Call.supplies {S : Settings} {call : Call S} {k : Trace} {caseId : String}
    {transition : CaseTransition} {args : TransitionArgs}
    (h : call.grounds k caseId transition args) :
    transition ≠ .resume ∧ SuppliesOnly args (suppliedNames transition) := by
  have hplan : ∀ {scope : Option (List String)}, PlanningGrounds scope k caseId transition args →
      transition ≠ .resume ∧ SuppliesOnly args (suppliedNames transition) := by
    intro scope h
    cases h with
    | prepare _ _ _ _ _ _ _ hsupplies => exact ⟨by decide, hsupplies⟩
  cases call
  case ingest =>
    cases h with
    | addFinding _ hsupplies => exact ⟨by decide, hsupplies⟩
    | rank hranks hsupplies => rcases hranks with rfl | rfl <;> exact ⟨by decide, hsupplies⟩
  case validate =>
    cases h with
    | @mk _ results _ _ _ _ _ _ hdecided hsupplies =>
      rcases validationDecision_transition results with heq | heq | heq <;>
        rw [heq] at hdecided <;> subst hdecided
      · exact ⟨by decide, hsupplies⟩
      · exact ⟨by decide, hsupplies.mono (by decide)⟩
      · exact ⟨by decide, hsupplies⟩
  case prepare => exact hplan h
  case planPromoted =>
    cases h with
    | prepare _ _ _ _ _ hplanning => exact hplan hplanning
  case reviewSre =>
    cases h with
    | approve _ _ _ _ hsupplies => exact ⟨by decide, hsupplies⟩
    | refuse hrefuses hsupplies =>
      rcases hrefuses with rfl | rfl <;> exact ⟨by decide, hsupplies.mono (by decide)⟩
  case reviewRollback =>
    cases h with
    | approve _ _ _ _ _ _ hsupplies => exact ⟨by decide, hsupplies⟩
    | rework hsupplies => exact ⟨by decide, hsupplies⟩
    | refuse hrefuses hsupplies =>
      rcases hrefuses with rfl | rfl <;> exact ⟨by decide, hsupplies.mono (by decide)⟩
  case approve =>
    cases h with
    | approve _ _ _ _ _ _ _ _ _ _ hsupplies => exact ⟨by decide, hsupplies⟩
  case reject =>
    cases h with
    | mk hsupplies => exact ⟨by decide, hsupplies.mono (by decide)⟩
  case execute =>
    cases h with
    | block hsupplies => exact ⟨by decide, hsupplies.mono (by decide)⟩
    | start _ hsupplies => exact ⟨by decide, hsupplies⟩
    | verify hsupplies => exact ⟨by decide, hsupplies⟩
    | complete _ _ _ _ hsupplies => exact ⟨by decide, hsupplies⟩
    | rollBack hsupplies => exact ⟨by decide, hsupplies⟩
    | restore hsupplies => exact ⟨by decide, hsupplies⟩
  all_goals
    cases h with
    | mk hsupplies => exact ⟨by decide, hsupplies⟩

/-- The transitions that bind what a checker judged. -/
def checkingTransitions : List CaseTransition :=
  [.preparePlan, .approveSre, .reviewRollback, .approveChange]

/-- The grounds on which a checking transition is applied, whoever applies it. -/
inductive CheckingGrounds (P : Platform) (k : Trace) (caseId : String) (args : TransitionArgs) :
    CaseTransition → Prop
  | planned {scope : Option (List String)}
      (h : PlanningGrounds scope k caseId .preparePlan args) :
      CheckingGrounds P k caseId args .preparePlan
  | sreApproved (h : SreGrounds k caseId .approveSre args) :
      CheckingGrounds P k caseId args .approveSre
  | rollbackReviewed (h : RollbackGrounds k caseId .reviewRollback args) :
      CheckingGrounds P k caseId args .reviewRollback
  | approved (h : ApprovalGrounds P k caseId .approveChange args) :
      CheckingGrounds P k caseId args .approveChange

/-- A checking transition is applied by its own service only. -/
theorem Call.checks {S : Settings} {call : Call S} {k : Trace} {caseId : String}
    {transition : CaseTransition} {args : TransitionArgs}
    (h : call.grounds k caseId transition args) (htransition : transition ∈ checkingTransitions) :
    CheckingGrounds S.platform k caseId args transition := by
  have hgrounds := h
  cases call
  case approve =>
    cases h
    exact .approved hgrounds
  case prepare =>
    cases h
    exact .planned hgrounds
  case planPromoted =>
    cases h with
    | prepare _ _ _ _ _ hplanning => exact .planned hplanning
  case ingest =>
    cases h with
    | addFinding => exact absurd htransition (by decide)
    | rank hranks => rcases hranks with rfl | rfl <;> exact absurd htransition (by decide)
  case validate =>
    cases h with
    | @mk _ results _ _ _ _ _ _ hdecided _ =>
      rcases validationDecision_transition results with heq | heq | heq <;>
        rw [heq] at hdecided <;> subst hdecided <;> exact absurd htransition (by decide)
  case reviewSre =>
    cases h with
    | approve => exact .sreApproved hgrounds
    | refuse hrefuses => rcases hrefuses with rfl | rfl <;> exact absurd htransition (by decide)
  case reviewRollback =>
    cases h with
    | approve => exact .rollbackReviewed hgrounds
    | rework => exact absurd htransition (by decide)
    | refuse hrefuses => rcases hrefuses with rfl | rfl <;> exact absurd htransition (by decide)
  all_goals cases h <;> exact absurd htransition (by decide)

section records

/-- An event that showed or stored a record. -/
inductive ShowsRecord : Event operations PyError → String → ProductRecord → Prop
  | read {recordId : String} {record : ProductRecord} :
      ShowsRecord ⟨.getRecord recordId, .ok record⟩ recordId record
  | put {record : ProductRecord} : ShowsRecord ⟨.putRecord record, .ok ()⟩ record.recordId record

/-- The record with an id. -/
def Stores.record? (s : Stores) (recordId : String) : Option ProductRecord :=
  Rows.find ProductRecord.recordId s.records recordId

variable {s s' : Stores} {e : Event operations PyError} {recordId : String}
  {record : ProductRecord}

/-- A record that is found has the id. -/
theorem Stores.record?_recordId (h : s.record? recordId = some record) :
    record.recordId = recordId := Rows.key_of_find h

/-- Records are immutable. -/
theorem record?_world (hstep : world s e.op e.answer s')
    (hrecord : s.record? recordId = some record) :
    s'.record? recordId = some record := by
  unfold Stores.record? at hrecord ⊢
  rcases world_records hstep with hsame | ⟨put, -, hput⟩
  · rw [hsame]
    exact hrecord
  · rw [hput]
    exact Rows.find_insert_of_some hrecord

/-- A record that was shown is stored after the step. -/
theorem showsRecord_stored (hstep : world s e.op e.answer s')
    (hshows : ShowsRecord e recordId record) : s'.record? recordId = some record := by
  cases hshows with
  | read =>
    have hread := world_ok hstep (by simp [Stores.perform])
    simp only [Stores.perform, Option.some.injEq, Prod.mk.injEq] at hread
    rw [← hread.2]
    exact RecordTable.get_eq_ok.mp hread.1
  | put =>
    have hput := world_ok hstep (by simp [Stores.perform])
    simp only [Stores.perform, commit, Option.some.injEq] at hput
    split at hput
    · rename_i table htable
      cases hput
      exact RecordTable.get_eq_ok.mp (RecordTable.get_put_self htable)
    · cases hput

/-- The records that threads saw are stored. -/
abbrev RecordsShown {ι : Type} (b : Board operations PyError Stores ι) : Prop :=
  b.Behind Stores.record? Eq ShowsRecord

/-- A step keeps the records that were shown. -/
theorem RecordsShown.step {ι : Type} [DecidableEq ι] {G : Rule operations PyError ι}
    {b b' : Board operations PyError Stores ι} {l : Label operations PyError ι}
    (hb : RecordsShown b) (hstep : Board.Step world G b l b') : RecordsShown b' :=
  Board.Behind.step hb hstep (fun h h' => h.trans h') (fun _ => rfl)
    (fun _ record hrecord => ⟨record, record?_world hstep.answered hrecord, rfl⟩)
    fun _ _ hshows => showsRecord_stored hstep.answered hshows

/-- A record is bound to a case under a name. -/
def Bound (s : Stores) (case : RemediationCase) (name : String) (record : ProductRecord) : Prop :=
  ∃ recordId, case.recordIds.lookup name = some recordId ∧ s.record? recordId = some record

/-- A field of a record names the record that a case binds under a name. -/
def Names (record : ProductRecord) (field : String) (case : RemediationCase) (name : String) :
    Prop :=
  ∃ recordId, case.recordIds.lookup name = some recordId ∧ record.body.get field = .str recordId

/-- A later version of a case binds the same record ids under these names. -/
def KeepsIds (names : List String) (base case : RemediationCase) : Prop :=
  ∀ name ∈ names, case.recordIds.lookup name = base.recordIds.lookup name

/-- A case keeps its own record ids. -/
theorem KeepsIds.refl (names : List String) (case : RemediationCase) : KeepsIds names case case :=
  fun _ _ => rfl

variable {base case : RemediationCase} {names : List String} {name field : String}

/-- A bound record stays bound where the case keeps its id and the store its records. -/
theorem Bound.keep (h : Bound s base name record) (hids : KeepsIds names base case)
    (hname : name ∈ names) (hgrow : ∀ recordId record, s.record? recordId = some record →
      s'.record? recordId = some record) : Bound s' case name record := by
  obtain ⟨recordId, hlookup, hrecord⟩ := h
  exact ⟨recordId, (hids name hname).trans hlookup, hgrow _ _ hrecord⟩

/-- A record keeps naming what the case binds where the case keeps its id. -/
theorem Names.keep (h : Names record field base name) (hids : KeepsIds names base case)
    (hname : name ∈ names) : Names record field case name := by
  obtain ⟨recordId, hlookup, hfield⟩ := h
  exact ⟨recordId, (hids name hname).trans hlookup, hfield⟩

/-- A transition keeps the ids it neither clears nor supplies. -/
theorem Accepted.keepsIds {transition : CaseTransition} {args : TransitionArgs} {target : Target}
    {event : CaseEvent} (h : Accepted base transition args target case event)
    (hsupplies : SuppliesOnly args (suppliedNames transition))
    (hnames : ∀ name ∈ names, name ∉ clearedRecords transition target.reopened ∧
      name ∉ suppliedNames transition) : KeepsIds names base case := by
  intro name hname
  obtain ⟨hcleared, hsupplied⟩ := hnames name hname
  have hnone : args.recordIds.lookup name = none := by
    by_contra hsome
    exact hsupplied (hsupplies name hsome)
  rw [h.recordIds, lookup_mergeRecords, hnone, Option.none_or, if_neg hcleared]

/-- What a transition supplies is bound. -/
theorem Accepted.supplied_lookup {transition : CaseTransition} {args : TransitionArgs}
    {target : Target} {event : CaseEvent} (h : Accepted base transition args target case event)
    (hlookup : args.recordIds.lookup name = some recordId) :
    case.recordIds.lookup name = some recordId := by
  rw [h.recordIds, lookup_mergeRecords, hlookup]
  rfl

end records

/-- Only `RESUME` leads out of the blocked state. -/
theorem Accepted.unblocked {base case : RemediationCase} {transition : CaseTransition}
    {args : TransitionArgs} {target : Target} {event : CaseEvent}
    (h : Accepted base transition args target case event) (hresume : transition ≠ .resume)
    (hstate : case.state ≠ .blocked) : transition ≠ .block ∧
      effectiveTransition base.state transition target.reopened = some case.state := by
  have hbase : base.state ≠ .blocked := by
    rw [h.state] at hstate
    intro hblocked
    cases h.led with
    | reopen hreopened =>
      rw [hblocked] at hreopened
      exact absurd hreopened (by decide)
    | addFinding | reprioritize => exact hstate hblocked
    | scheduleExecution happroved | requestRework happroved | reselectWindow happroved =>
      rw [hblocked] at happroved
      cases happroved
    | retrySre hlisted | closeNoAction hlisted | reject hlisted =>
      rw [hblocked] at hlisted
      exact absurd hlisted (by decide)
    | block => exact hstate rfl
    | resume => exact hresume rfl
    | linear hlinear => exact linearTransition_ne_blocked hlinear hblocked
  have heffective := h.effectiveState
  rw [RemediationCase.effectiveState, RemediationCase.effectiveState, effectiveOf_of_ne hbase,
    effectiveOf_of_ne hstate] at heffective
  refine ⟨?_, heffective⟩
  rintro rfl
  rw [h.state] at hstate
  cases h.led with
  | block => exact hstate rfl
  | linear hlinear => cases hs : base.state <;> rw [hs] at hlinear <;> cases hlinear

section rereading

variable {ι : Type} [DecidableEq ι] {S : Settings}

/-- What holds of a re-read case, given what its worker did before and the transition. -/
abbrev Reread := Trace → CaseTransition → RemediationCase → Prop

/-- When a worker re-reads a case to apply a transition that the case accepts, this holds of the
case. -/
def Rereads (K : Reread) : Condition operations PyError Stores ι :=
  fun b l => ∀ caseId transition args base applied,
    l.event.op = .advanceRead caseId transition args →
    b.store.cases.case? caseId = some base → transitionCase base transition args = .ok applied →
      K (b.histories l.thread) transition base

/-- The case binds what it bound when the worker read it. -/
abbrev BindsAsRead (names : CaseTransition → List String) : Reread := fun h transition base =>
  ∀ asked snap, ⟨.getCase asked, .ok snap⟩ ∈ h → KeepsIds (names transition) snap base

/-- When a worker re-reads a case to apply a transition that the case accepts, the case still
binds what it bound when the worker read it, under names that depend on the transition. -/
abbrev RereadsSame (names : CaseTransition → List String) : Condition operations PyError Stores ι :=
  Rereads (BindsAsRead names)

/-- What a worker knew when it re-read a case: the grounds of its transition, and what held of
the case, if the case accepts the transition. -/
def ReadOn (G : Grounds) (K : Reread) (before : Trace) (e : Event operations PyError) : Prop :=
  ∀ caseId transition args base, e = ⟨.advanceRead caseId transition args, .ok base⟩ →
    G (notes before) caseId transition args ∧
      ∀ applied, transitionCase base transition args = .ok applied → K before transition base

/-- The rule of a pool of calls. -/
abbrev callRule (calls : ι → Call S) : Rule operations PyError ι :=
  fun i h o => Permitted (calls i).grounds (notes h) o

/-- A step of calls beside each other, with what is known before it. -/
structure CallStep (calls : ι → Call S) (K : Reread)
    (b : Board operations PyError Stores ι) (l : Label operations PyError ι)
    (b' : Board operations PyError Stores ι) : Prop where
  history : HistoryStep (callRule calls) (Rereads K) b l b'
  records : RecordsShown b
  traced : ∀ i, Traced (ReadOn (calls i).grounds K) (b.histories i)

variable {calls : ι → Call S} {K : Reread}
  {b b' : Board operations PyError Stores ι} {l : Label operations PyError ι}

/-- A step of a call is on the grounds that the call has read. -/
theorem readOn_step (hstep : HistoryStep (callRule calls) (Rereads K) b l b') :
    ReadOn (calls l.thread).grounds K (b.histories l.thread) l.event := by
  intro caseId transition args base he
  have hpermitted := hstep.move.permitted
  have hanswered := hstep.move.answered
  rw [he] at hpermitted hanswered
  refine ⟨hpermitted, fun applied => hstep.condition caseId transition args base applied
    (by rw [he]) ?_⟩
  have hread := world_ok hanswered (by simp [Stores.perform])
  simp only [Stores.perform, Option.some.injEq, Prod.mk.injEq] at hread
  exact CaseTables.get_eq_ok.mp hread.1

/-- Every run of calls is a run of such steps. -/
theorem call_run {s : Stores} {ls : List (Label operations PyError ι)}
    (hrun : Steps (Board.StepIf world (callRule calls) (Rereads K)) (Board.start s) ls b) :
    Steps (CallStep calls K) (Board.start s) ls b ∧ CasesShown b ∧ RecordsShown b := by
  obtain ⟨hhistory, hshown⟩ := history_run (fun _ _ _ ho => ho.lawful) hrun
  have hkeep : ∀ (a : Board operations PyError Stores ι) l a',
      (RecordsShown a ∧ ∀ i, Traced (ReadOn (calls i).grounds K) (a.histories i)) →
      HistoryStep (callRule calls) (Rereads K) a l a' →
        True ∧ RecordsShown a' ∧ ∀ i, Traced (ReadOn (calls i).grounds K) (a'.histories i) := by
    rintro a l a' ⟨hrecords, htraced⟩ hstep
    refine ⟨trivial, RecordsShown.step hrecords hstep.move, fun j => ?_⟩
    by_cases hj : j = l.thread
    · subst hj
      rw [hstep.move.history_self]
      exact (htraced _).snoc (readOn_step hstep)
    · rw [hstep.move.history_other hj]
      exact htraced j
  obtain ⟨hsteps, hrecords, -⟩ := hhistory.strengthen
    (fun a => RecordsShown a ∧ ∀ i, Traced (ReadOn (calls i).grounds K) (a.histories i))
    ⟨Board.behind_start s, fun _ => Traced.nil⟩ hkeep
  refine ⟨hsteps.mono ?_, hshown, hrecords⟩
  rintro a l a' ⟨⟨hhistory, hrecords, htraced⟩, -⟩
  exact ⟨hhistory, hrecords, htraced⟩

/-- What a step of calls does to the cases: it opens one, or applies a transition on its
grounds to the case that the worker re-read. -/
inductive CallMove (G : Grounds) (K : Reread) (h : Trace) (s : Stores)
    (s' : Stores) : Prop
  | kept (same : s'.cases = s.cases)
  | opened {case : RemediationCase} (made : Opened case)
      (after : s'.cases.case? case.caseId = some case)
      (others : ∀ caseId, case.caseId ≠ caseId → s'.cases.case? caseId = s.cases.case? caseId)
  | advanced {caseId : String} {transition : CaseTransition} {args : TransitionArgs}
      {base case : RemediationCase} {event : CaseEvent} {target : Target} {known rest : Trace}
      (read : h = known ++ ⟨.advanceRead caseId transition args, .ok base⟩ :: rest)
      (grounds : G (notes known) caseId transition args)
      (reread : K known transition base)
      (accepted : Accepted base transition args target case event)
      (before : s.cases.case? base.caseId = some base)
      (after : s'.cases.case? base.caseId = some case)
      (others : ∀ caseId, base.caseId ≠ caseId → s'.cases.case? caseId = s.cases.case? caseId) :
      CallMove G K h s s'

/-- A step of a call moves the store as its grounds allow. -/
theorem CallStep.moved (hstep : CallStep calls K b l b') :
    CallMove (calls l.thread).grounds K (b.histories l.thread) b.store b'.store := by
  cases hstep.history.cases with
  | kept hsame _ => exact .kept hsame
  | opened _ hmade _ hafter hothers => exact .opened hmade hafter hothers
  | advanced hread happlied _ hbefore hafter hothers =>
    obtain ⟨known, rest, hh⟩ := List.append_of_mem hread
    obtain ⟨hgrounds, hreread⟩ := hstep.traced l.thread _ _ _ hh _ _ _ _ rfl
    obtain ⟨target, haccepted⟩ := transitionCase_accepted happlied
    exact .advanced hh hgrounds (hreread _ happlied) haccepted hbefore hafter hothers

/-- A step of calls keeps an invariant of the stored cases, where opened cases have it, the step
keeps it and every transition of a call keeps it. -/
theorem CallStep.keeps_cases {I : Stores → RemediationCase → Prop} (hstep : CallStep calls K b l b')
    (hopened : ∀ case, Opened case → I b.store case)
    (hgrow : ∀ case, I b.store case → I b'.store case)
    (hadvance : ∀ {caseId transition args base case event target known rest},
      b.histories l.thread = known ++ ⟨.advanceRead caseId transition args, .ok base⟩ :: rest →
      (calls l.thread).grounds (notes known) caseId transition args → K known transition base →
      Accepted base transition args target case event → I b.store base → I b.store case)
    (hall : ∀ caseId case, b.store.cases.case? caseId = some case → I b.store case) :
    ∀ caseId case, b'.store.cases.case? caseId = some case → I b'.store case := by
  intro caseId case hcase
  refine hgrow _ ?_
  cases hstep.moved with
  | kept hsame =>
    rw [hsame] at hcase
    exact hall caseId case hcase
  | @opened opened hmade hafter hothers =>
    by_cases hid : opened.caseId = caseId
    · subst hid
      rw [hafter] at hcase
      cases hcase
      exact hopened _ hmade
    · exact hall caseId case ((hothers _ hid).symm.trans hcase)
  | @advanced _ _ _ base _ _ _ _ _ hread hgrounds hreread haccepted hbefore hafter hothers =>
    by_cases hid : base.caseId = caseId
    · subst hid
      rw [hafter] at hcase
      cases hcase
      exact hadvance hread hgrounds hreread haccepted (hall _ _ hbefore)
    · exact hall caseId case ((hothers _ hid).symm.trans hcase)

/-- An invariant of the stored cases holds in every run of calls that starts without cases,
where opened cases have it, stored records keep it and every transition of a call keeps it. -/
theorem cases_invariant {I : Stores → RemediationCase → Prop}
    (hopened : ∀ s case, Opened case → I s case)
    (hgrow : ∀ s s' case, (∀ recordId record, s.record? recordId = some record →
      s'.record? recordId = some record) → I s case → I s' case)
    (hadvance : ∀ (b b' : Board operations PyError Stores ι) l, CallStep calls K b l b' →
      ∀ {caseId transition args base case event target known rest},
        b.histories l.thread = known ++ ⟨.advanceRead caseId transition args, .ok base⟩ :: rest →
        (calls l.thread).grounds (notes known) caseId transition args →
        K known transition base →
        Accepted base transition args target case event → I b.store base → I b.store case)
    {ls : List (Label operations PyError ι)}
    (hrun : Steps (CallStep calls K) (Board.start {}) ls b) :
    ∀ caseId case, b.store.cases.case? caseId = some case → I b.store case := by
  refine hrun.stateInvariant
    (fun b => ∀ caseId case, b.store.cases.case? caseId = some case → I b.store case) ?_ ?_
  · intro caseId case hcase
    cases hcase
  · intro a l a' ha hstep
    refine hstep.keeps_cases (hopened _) (fun case => ?_) (hadvance a a' l hstep) ha
    exact hgrow _ _ case fun _ _ => record?_world hstep.history.move.answered

/-- A record that a worker put or read is stored. -/
theorem CallStep.record_stored (hstep : CallStep calls K b l b') {known rest : Trace}
    {reading : Event operations PyError}
    (hread : b.histories l.thread = known ++ reading :: rest) {e : Event operations PyError}
    {recordId : String} {record : ProductRecord} (he : e ∈ notes known)
    (hshows : ShowsRecord e recordId record) : b.store.record? recordId = some record := by
  have hmem : e ∈ b.histories l.thread := by
    rw [hread]
    exact List.mem_append_left _ (mem_of_mem_notes he)
  obtain ⟨_, hstored, rfl⟩ := hstep.records l.thread e hmem recordId record hshows
  exact hstored

end rereading

section samples

/-- The condition `RereadsSame`, computed for every re-read. -/
def rereadsSame (names : CaseTransition → List String) {ι : Type}
    (b : Board operations PyError Stores ι) (l : Label operations PyError ι) : Bool :=
  match l.event.op with
  | .advanceRead caseId transition _ =>
    match b.store.cases.case? caseId with
    | some base => (b.histories l.thread).all fun e =>
      match e with
      | ⟨.getCase _, .ok snap⟩ => (names transition).all fun name =>
        decide (base.recordIds.lookup name = snap.recordIds.lookup name)
      | _ => true
    | none => true
  | _ => true

/-- The check of the sample's steps decides the condition on them. -/
theorem rereadsSame_sound {names : CaseTransition → List String} {ι : Type}
    {b : Board operations PyError Stores ι} {l : Label operations PyError ι}
    (h : rereadsSame names b l = true) : RereadsSame names b l := by
  intro caseId transition args base _ hop hbase _ asked snap hsnap name hname
  unfold rereadsSame at h
  rw [hop] at h
  simp only [hbase] at h
  have hall := List.all_eq_true.mp h _ hsnap
  exact of_decide_eq_true (List.all_eq_true.mp hall name hname)

/-- A record that a case binds names another record than the case binds. -/
def namesOther (s : Stores) (caseId bound field name : String) : Bool :=
  match s.cases.case? caseId with
  | some case =>
    match case.recordIds.lookup bound, case.recordIds.lookup name with
    | some recordId, some otherId =>
      match s.record? recordId with
      | some record => decide (record.body.text field ≠ otherId)
      | none => true
    | _, _ => true
  | none => true

/-- A record that names another id does not name the one that the case binds. -/
theorem not_names_of_namesOther {s : Stores} {case : RemediationCase} {record : ProductRecord}
    {caseId bound field name : String} (hother : namesOther s caseId bound field name = true)
    (hcase : s.cases.case? caseId = some case) (hbound : Bound s case bound record) :
    ¬Names record field case name := by
  rintro ⟨otherId, hname, hnamed⟩
  obtain ⟨recordId, hrecordId, hrecord⟩ := hbound
  have htext : record.body.text field = otherId := by
    unfold Document.get at hnamed
    cases hlookup : record.body.lookup field <;> rw [hlookup] at hnamed <;> cases hnamed
    rw [Document.text, hlookup]
    rfl
  unfold namesOther at hother
  simp only [hcase, hrecordId, hname, hrecord, decide_eq_true_eq] at hother
  exact hother htext

/-- What reviewers answer who name what can fail. -/
def reviewedOutput : AgentRole → Document
  | .sreReviewer =>
    [("decision", .str "approve"), ("risk_level", .str "low"), ("summary", .str "low risk"),
      ("dependencies", .arr []), ("failure_modes", .ofStrings ["access is lost"]),
      ("required_controls", .ofStrings ["probe"]),
      ("verification_requirements", .ofStrings ["probe"])]
  | .rollbackVerifier =>
    [("decision", .str "approve"), ("summary", .str "restores the checkpoint"),
      ("verified_steps", .ofStrings ["restore"]), ("trigger_coverage", .ofStrings ["errors"]),
      ("failure_modes", .ofStrings ["restore is late"]), ("required_changes", .arr [])]
  | role => approvingOutput role

/-- An environment in which every stage succeeds: agents approve and a written file changes. -/
def stageReply (time : String) (n : ℕ) : (o : Operation) → Except PyError o.Answer
  | .runAgent task => .ok { approvingResult task with output := reviewedOutput task.role }
  | .hashFile _ => .ok (if n % 4 < 2 then "changed" else "source")
  | o => quietReply time n o

/-- A finding about the public bucket. -/
def bucketFinding (uid : String) : IntakeRequest where
  raw := [("class_uid", .int 2004),
    ("metadata", .obj [("product", .obj [("name", .str "scanner")])]),
    ("cloud", .obj [("provider", .str "aws"), ("account", .obj [("uid", .str "123456789012")])]),
    ("finding_info", .obj [("uid", .str uid), ("analytic", .obj [("uid", .str "rule-1")])]),
    ("severity", .str "High"),
    ("resources", .arr [.obj [("uid", .str "arn:aws:s3:::logs"), ("type", .str "AwsS3Bucket")]])]
  tenantId := "tenant-1"
  collector := ⟨"scanner", "1", "scheduled"⟩

/-- Every control finds its exposure and can plan. -/
def stageSettings : Settings :=
  ⟨samplePlatform, "/artifacts", fun _ _ _ => some ⟨fun _ => .ok (true, "exposed"), true⟩⟩

/-- The sample's approval has the texts that an approval needs. -/
theorem sampleApproval_required : "" ∉ ["APR-1", "CASE-1010", "REVIEW-1134", "reviewer",
    "2026-07-17T11:00:00Z", "2026-07-18T12:00:00Z", "sso", "approved"] := by
  decide

/-- The sample's approval expires after it was given. -/
theorem sampleApproval_expires :
    notAfter samplePlatform "2026-07-18T12:00:00Z" "2026-07-17T11:00:00Z" = .ok false := by
  rfl

/-- The approval of the first review package of the case. -/
def sampleApproval : VerifiedApproval stageSettings.platform where
  approvalId := "APR-1"
  caseId := "CASE-1010"
  reviewPackageId := "REVIEW-1134"
  approver := "reviewer"
  authenticatedAt := "2026-07-17T11:00:00Z"
  expiresAt := "2026-07-18T12:00:00Z"
  authenticationMethod := "sso"
  statement := "approved"
  required := sampleApproval_required
  expires_after := sampleApproval_expires

/-- The calls that take a case from intake to its execution, and a second time to its review. -/
def stageCalls (jobId : String) : ℕ → Call stageSettings
  | 0 => .ingest (bucketFinding "finding-1")
  | 1 | 11 => .validate "CASE-1010" []
  | 2 | 12 => .prepare { caseId := "CASE-1010", repository := "/repo" }
  | 3 | 13 => .reviewSre "CASE-1010"
    [("service", .str "logs"), ("environment", .str "production"),
      ("health_signals", .ofStrings ["errors"]), ("dependencies", .arr []),
      ("owner", .str "team")]
  | 4 | 14 => .selectWindow "CASE-1010" [] ⟨"UTC", 120, 24, [0, 1, 2, 3, 4, 5, 6], [2], 3, 1, none⟩
  | 5 | 15 => .reviewRollback "CASE-1010"
  | 6 | 16 => .prepareReview {} "CASE-1010"
  | 7 => .approve sampleApproval
  | 8 => .schedule "CASE-1010"
  | 9 => .execute sampleComponents "CASE-1010" "originator" jobId
  | _ => .ingest (bucketFinding "finding-2")

/-- The calls take turns of these many steps; the `executes`-th step is inside the window. -/
def stagedRun
    (check : Board operations PyError Stores ℕ → Label operations PyError ℕ → Bool)
    (jobId : String) (executes : ℕ) (turns : List (ℕ × ℕ)) :
    Option (List (Label operations PyError ℕ) × Pool operations PyError Unit Stores ℕ) :=
  Pool.exec performWith check
    (fun n => ⟨none, stageReply (if n < executes then "2026-07-17T12:00:00Z"
      else "2026-07-18T02:30:00Z") n⟩)
    (turns.flatMap fun turn => List.replicate turn.2 turn.1) 0
    (Pool.start {} fun i => (stageCalls jobId i).program)

/-- The turns that bring the case to its review. -/
def firstReview : List (ℕ × ℕ) :=
  [(0, 17), (1, 13), (2, 39), (3, 17), (4, 22), (5, 16), (6, 16)]

/-- The turns that add a finding and bring the case to its review again. -/
def secondReview : List (ℕ × ℕ) :=
  [(10, 15), (11, 13), (12, 39), (13, 17), (14, 22), (15, 16), (16, 16)]

end samples

end ElCapitan
