import ElCapitan.Bindings.Checked
import ElCapitan.Bindings.Listed

/-!
# What a remediation addressed

A promotion plans the confirmed findings that a control can plan for, and an execution certifies
the scope of the plan. Where a validation covers the findings of the case it is applied to, plan
and certificate are bound to the case that was read, and no finding arrives during the
execution, a remediated case has every finding certified, not confirmed, or out of reach of the
planning controls.
-/

namespace ElCapitan

open Effects

/-- The states in which a case carries a validation that confirmed findings. -/
def validatedStates : List CaseState :=
  [.validated, .planReady, .sreApproved, .windowSelected, .rollbackReady, .awaitingApproval,
    .approved, .executing, .verifying, .remediated]

/-- The states in which a case carries a plan. -/
def scopedStates : List CaseState :=
  [.planReady, .sreApproved, .windowSelected, .rollbackReady, .awaitingApproval, .approved,
    .executing, .verifying, .remediated]

/-- The states of a certified case are entered by the transitions that its records back. -/
theorem certifiedStates_entered :
    EnteredBy .validate validatedStates ["validation_result_id"] ∧
      EnteredBy .preparePlan scopedStates ["change_plan_id", "validation_result_id"] ∧
      EnteredBy .completeRemediation [.remediated]
        ["remediation_certificate_id", "change_plan_id", "validation_result_id"] := by
  decide +kernel

/-- The validated states are entered by a transition that binds a validation. -/
theorem validatedStates_entered :
    EnteredBy .validate validatedStates ["validation_result_id"] :=
  certifiedStates_entered.1

/-- The planned states are entered by a transition that binds a plan and keeps the validation. -/
theorem scopedStates_entered :
    EnteredBy .preparePlan scopedStates ["change_plan_id", "validation_result_id"] :=
  certifiedStates_entered.2.1

/-- The remediated state is entered by a transition that binds a certificate and keeps the plan and
the validation. -/
theorem remediated_entered : EnteredBy .completeRemediation [.remediated]
    ["remediation_certificate_id", "change_plan_id", "validation_result_id"] :=
  certifiedStates_entered.2.2

/-- The validation of a case has a status for each of its findings. -/
def CoveredBy (P : Platform) (s : Stores) (case : RemediationCase) : Prop :=
  ∃ validation, Bound s case "validation_result_id" validation ∧
    case.findingIds ⊆ validatedIds P validation.body

/-- A finding of a case is in a scope, or its validation does not confirm it, or no control can
plan for it. -/
def Addressed (S : Settings) (s : Stores) (caseId : String) (validation : ProductRecord)
    (scope : List String) (findingId : String) : Prop :=
  findingId ∈ scope ∨ findingId ∈ validatedIds S.platform validation.body ∧
    (validationStatus S.platform validation.body findingId ≠ "confirmed" ∨
      ∃ finding ∈ s.findings, finding.findingId = findingId ∧ finding.caseId = some caseId ∧
        plannable S finding = .ok false)

/-- The plan of a case has a scope, and the findings of the case are addressed. -/
def ScopeBound (S : Settings) (s : Stores) (case : RemediationCase) : Prop :=
  ∃ plan validation scope, Bound s case "change_plan_id" plan ∧
    Bound s case "validation_result_id" validation ∧
    (planScope plan.body).get "finding_ids" = .ofStrings scope ∧
    ∀ findingId ∈ case.findingIds, Addressed S s case.caseId validation scope findingId

/-- The findings of a case are addressed by what is certified. -/
def CertificateBound (S : Settings) (s : Stores) (case : RemediationCase) : Prop :=
  ∃ certificate validation scope, Bound s case "remediation_certificate_id" certificate ∧
    Bound s case "validation_result_id" validation ∧
    certificate.body.get "finding_ids" = .ofStrings scope ∧
    ∀ findingId ∈ case.findingIds, Addressed S s case.caseId validation scope findingId

/-- A validation is attached to a case whose findings were listed, a plan to a case with the
validation that was read, a certificate to a case with the plan that was read, and a finding to
no case that is executed. -/
def addressesRead : Reread := fun h transition base =>
  (transition = .validate → ∀ caseId findings, ⟨.listForCase caseId, .ok findings⟩ ∈ h →
    base.findingIds ⊆ findings.map StoredFinding.findingId) ∧
  (transition = .preparePlan → ∀ asked snap, ⟨.getCase asked, .ok snap⟩ ∈ h →
    KeepsIds ["validation_result_id"] snap base) ∧
  (transition = .completeRemediation → ∀ asked snap, ⟨.getCase asked, .ok snap⟩ ∈ h →
    KeepsIds ["change_plan_id"] snap base) ∧
  (transition = .addFinding → base.state ∉ [CaseState.executing, .verifying])

/-- Findings join a validated case by reopening it only. -/
theorem Accepted.sameFindings {base case : RemediationCase} {transition : CaseTransition}
    {args : TransitionArgs} {target : Target} {event : CaseEvent}
    (h : Accepted base transition args target case event)
    (hadds : transition = .addFinding → base.state ∉ [CaseState.executing, .verifying])
    (hstate : case.state ∈ validatedStates) : case.findingIds = base.findingIds := by
  have hadditions : target.additions = [] := by
    rw [h.state] at hstate
    have hlive : base.state ≠ .remediated := by
      intro heq
      have hlive := h.live
      rw [RemediationCase.terminal, heq] at hlive
      exact absurd hlive (by decide)
    cases h.led with
    | reopen =>
      have hreopened : CaseState.prioritized ∉ validatedStates := by decide
      exact absurd hstate hreopened
    | addFinding hreopened =>
      have hdisjoint : ∀ state : CaseState, state ∈ validatedStates → state ∉ reopenedStates →
          state ∉ [CaseState.executing, .verifying] → state = .remediated := by
        decide
      exact absurd (hdisjoint _ hstate hreopened (hadds rfl)) hlive
    | _ => rfl
  rw [h.findingIds, hadditions, List.append_nil]

section keeping

variable {S : Settings} {P : Platform} {s s' : Stores} {e : Event operations PyError}
  {base case : RemediationCase}

/-- A finding that is addressed stays addressed. -/
theorem Addressed.world {caseId findingId : String} {validation : ProductRecord}
    {scope : List String} (h : Addressed S s caseId validation scope findingId)
    (hstep : world s e.op e.answer s') (hs : UniqueFindings s) :
    Addressed S s' caseId validation scope findingId := by
  rcases h with h | ⟨hvalidated, h | ⟨finding, hfinding, hid, hassigned, hplannable⟩⟩
  · exact .inl h
  · exact .inr ⟨hvalidated, .inl h⟩
  · exact .inr ⟨hvalidated, .inr ⟨finding, assigned_row_world hstep hs hfinding hassigned, hid,
      hassigned, hplannable⟩⟩

/-- A bound record stays bound to the case. -/
theorem Bound.world {name : String} {record : ProductRecord} (h : Bound s case name record)
    (hstep : world s e.op e.answer s') : Bound s' case name record := by
  obtain ⟨recordId, hlookup, hrecord⟩ := h
  exact ⟨recordId, hlookup, record?_world hstep hrecord⟩

/-- A case binds one record under a name. -/
theorem Bound.unique {name : String} {record record' : ProductRecord}
    (h : Bound s case name record) (h' : Bound s case name record') : record = record' := by
  obtain ⟨recordId, hlookup, hrecord⟩ := h
  obtain ⟨recordId', hlookup', hrecord'⟩ := h'
  obtain rfl := Option.some.inj (hlookup.symm.trans hlookup')
  exact Option.some.inj (hrecord.symm.trans hrecord')

/-- A case that binds the same ids binds the same records. -/
theorem Bound.rebind {names : List String} {name : String} {record : ProductRecord}
    (h : Bound s base name record) (hids : KeepsIds names base case) (hname : name ∈ names) :
    Bound s case name record :=
  h.keep hids hname fun _ _ h => h

end keeping

section scopes

variable {S : Settings}

/-- What a check that may raise keeps, and what it drops. -/
theorem mem_filterExcept {α : Type} {p : α → Except PyError Bool} {items kept : List α}
    (h : filterExcept p items = .ok kept) :
    ∀ item ∈ items, item ∈ kept ∨ p item = .ok false := by
  induction items generalizing kept with
  | nil => simp
  | cons first items ih =>
    unfold filterExcept at h
    obtain ⟨keeps, hkeeps, h⟩ := except_bind_eq_ok.mp h
    obtain ⟨others, hothers, h⟩ := except_bind_eq_ok.mp h
    cases h
    intro item hitem
    rcases List.mem_cons.mp hitem with rfl | hitem
    · cases keeps
      · exact .inr hkeeps
      · exact .inl (by simp)
    · rcases ih hothers item hitem with hkept | hdropped
      · refine .inl ?_
        cases keeps
        · exact hkept
        · exact List.mem_cons_of_mem _ hkept
      · exact .inr hdropped

/-- Sorting keeps the ids of findings. -/
theorem mem_sortedIds {findings : List StoredFinding} {findingId : String} :
    findingId ∈ sortedIds findings ↔ findingId ∈ findings.map StoredFinding.findingId := by
  rw [sortedIds, sortedSet, List.mem_insertionSort, List.mem_dedup]

/-- The scope that a promotion selects addresses the findings it listed. -/
theorem addressed_of_promoted {s : Stores} {caseId : String} {validation : ProductRecord}
    {findings planned : List StoredFinding} {findingId : String}
    (hplanned : filterExcept (plannable S)
      (confirmedFindings S.platform findings validation.body) = .ok planned)
    (hlisted : ∀ finding ∈ findings, finding ∈ s.findings ∧ finding.caseId = some caseId)
    (hvalidated : findingId ∈ validatedIds S.platform validation.body)
    (hcovers : findingId ∈ findings.map StoredFinding.findingId) :
    Addressed S s caseId validation (fromKeys (sortedIds planned)) findingId := by
  by_cases hstatus : validationStatus S.platform validation.body findingId = "confirmed"
  · obtain ⟨finding, hfinding, rfl⟩ := List.mem_map.mp hcovers
    have hconfirmed : finding ∈ confirmedFindings S.platform findings validation.body := by
      refine List.mem_filter.mpr ⟨hfinding, ?_⟩
      rw [validationStatuses_lookup hvalidated, hstatus]
      decide
    rcases mem_filterExcept hplanned finding hconfirmed with hkept | hdropped
    · refine .inl ?_
      rw [mem_fromKeys, mem_sortedIds]
      exact List.mem_map_of_mem hkept
    · obtain ⟨hstored, hassigned⟩ := hlisted finding hfinding
      exact .inr ⟨hvalidated, .inr ⟨finding, hstored, rfl, hassigned, hdropped⟩⟩
  · exact .inr ⟨hvalidated, .inl hstatus⟩

/-- A list of texts is read as the texts. -/
theorem mapM_str (values : List String) : (values.map Json.str).mapM Json.str? = some values := by
  induction values with
  | nil => rfl
  | cons value values ih =>
    rw [List.map_cons, List.mapM_cons, ih]
    rfl

/-- What is certified is the scope of the plan. -/
theorem approvedFindingIds_eq {context : ExecutionContext} {scope findingIds : List String}
    (hscope : (planScope context.plan.body).get "finding_ids" = .ofStrings scope)
    (h : approvedFindingIds context = .ok findingIds) : findingIds = scope := by
  unfold approvedFindingIds at h
  unfold planScope Document.get at hscope
  cases hlookup : context.plan.body.lookup "scope" with
  | none =>
    rw [hlookup] at hscope
    cases hscope
  | some value =>
    rw [hlookup] at hscope h
    cases value with
    | obj entries =>
      have hids : (Document.get entries "finding_ids").strings? = some scope := by
        have hget : Document.get entries "finding_ids" = .ofStrings scope := hscope
        rw [hget]
        exact mapM_str scope
      have hbind : (Json.obj entries).obj?.bind
          (fun entries => (Document.get entries "finding_ids").strings?) = some scope := hids
      simp only [hbind] at h
      split at h
      · cases h
      · split at h
        · cases h
        · cases h
          rfl
    | _ => cases hscope

end scopes

/-- What is known of a case that carries a validation, a plan or a certificate. -/
structure Attends (S : Settings) (s : Stores) (case : RemediationCase) : Prop where
  covered : case.state ∈ validatedStates → CoveredBy S.platform s case
  planned : case.state ∈ scopedStates → ScopeBound S s case
  certified : case.state = .remediated → CertificateBound S s case

/-- A case that attends to its findings goes on doing so. -/
theorem Attends.world {S : Settings} {s s' : Stores} {e : Event operations PyError}
    {case : RemediationCase} (h : Attends S s case) (hstep : world s e.op e.answer s')
    (hs : UniqueFindings s) : Attends S s' case where
  covered := by
    intro hstate
    obtain ⟨validation, hbound, hcovers⟩ := h.covered hstate
    exact ⟨validation, hbound.world hstep, hcovers⟩
  planned := by
    intro hstate
    obtain ⟨plan, validation, scope, hplan, hvalidation, hscope, haddressed⟩ := h.planned hstate
    exact ⟨plan, validation, scope, hplan.world hstep, hvalidation.world hstep, hscope,
      fun id hid => (haddressed id hid).world hstep hs⟩
  certified := by
    intro hstate
    obtain ⟨certificate, validation, scope, hcertificate, hvalidation, hids, haddressed⟩ :=
      h.certified hstate
    exact ⟨certificate, validation, scope, hcertificate.world hstep, hvalidation.world hstep,
      hids, fun id hid => (haddressed id hid).world hstep hs⟩

/-- Promotion applies `PREPARE_PLAN` on its own grounds. -/
theorem Call.promotes {S : Settings} {call : Call S} {k : Trace} {caseId : String}
    {args : TransitionArgs} (h : call.grounds k caseId .preparePlan args)
    (hscoped : ∀ request, call ≠ .prepare request) :
    PromotedGrounds S k caseId .preparePlan args := by
  have hplanned := Call.checks h (by decide)
  cases call
  case planPromoted => exact h
  case prepare request => exact absurd rfl (hscoped request)
  case validate =>
    cases h with
    | @mk _ results _ _ _ _ _ _ hdecided _ =>
      rcases validationDecision_transition results with heq | heq | heq <;>
        rw [heq] at hdecided <;> cases hdecided
  case ingest =>
    cases h with
    | rank hranks => rcases hranks with heq | heq <;> cases heq
  case reviewSre =>
    cases h with
    | refuse hrefuses => rcases hrefuses with heq | heq <;> cases heq
  case reviewRollback =>
    cases h with
    | refuse hrefuses => rcases hrefuses with heq | heq <;> cases heq
  all_goals cases h

/-- An execution applies `COMPLETE_REMEDIATION` on its own grounds. -/
theorem Call.completes {S : Settings} {call : Call S} {k : Trace} {caseId : String}
    {args : TransitionArgs} (h : call.grounds k caseId .completeRemediation args) :
    ExecutionGrounds k caseId .completeRemediation args := by
  cases call
  case execute => exact h
  case validate =>
    cases h with
    | @mk _ results _ _ _ _ _ _ hdecided _ =>
      rcases validationDecision_transition results with heq | heq | heq <;>
        rw [heq] at hdecided <;> cases hdecided
  case ingest =>
    cases h with
    | rank hranks => rcases hranks with heq | heq <;> cases heq
  case reviewSre =>
    cases h with
    | refuse hrefuses => rcases hrefuses with heq | heq <;> cases heq
  case reviewRollback =>
    cases h with
    | refuse hrefuses => rcases hrefuses with heq | heq <;> cases heq
  case prepare => cases h
  case planPromoted => cases h
  all_goals cases h

section boards

variable {ι : Type} [DecidableEq ι] {S : Settings} {calls : ι → Call S}
  {b b' : Board operations PyError Stores ι} {l : Label operations PyError ι}
  {caseId : String} {transition : CaseTransition} {args : TransitionArgs}
  {base case : RemediationCase} {event : CaseEvent} {target : Target} {known rest : Trace}

/-- A case is validated by a record that covers its findings. -/
theorem covered_step (hstep : CallStep calls addressesRead b l b')
    (hread : b.histories l.thread =
      known ++ ⟨.advanceRead caseId transition args, .ok base⟩ :: rest)
    (hgrounds : (calls l.thread).grounds (notes known) caseId transition args)
    (hreread : addressesRead known transition base)
    (haccepted : Accepted base transition args target case event)
    (hbase : Attends S b.store base) (hstate : case.state ∈ validatedStates) :
    CoveredBy S.platform b.store case := by
  obtain ⟨hresume, hsupplies⟩ := Call.supplies hgrounds
  have hsame := haccepted.sameFindings hreread.2.2.2 hstate
  have hne : case.state ≠ .blocked := by
    intro heq
    rw [heq] at hstate
    exact absurd hstate (by decide)
  obtain ⟨hblock, heffective⟩ := haccepted.unblocked hresume hne
  rcases validatedStates_entered _ _ _ _ hblock hresume heffective hstate with
    rfl | ⟨hbefore, hnames⟩
  · have hsupplied : args.recordIds.lookup "validation_result_id" ≠ none := by
      intro hnone
      have hrequired := haccepted.supplied
      simp [suppliesRequired, requiredRecord, hnone] at hrequired
    cases Call.judges hgrounds hsupplied with
    | @mk findings results record hlisted hjudged hbinds _ hbody hdecided _ =>
      have hrecord := hstep.record_stored hread hbinds.put .put
      refine ⟨record, ⟨_, haccepted.supplied_lookup hbinds.bound, hrecord⟩, fun id hid => ?_⟩
      rw [hsame] at hid
      rw [validatedIds_eq hbody, mem_fromKeys, hjudged]
      exact hreread.1 rfl _ _ (mem_of_mem_notes hlisted) hid
  · obtain ⟨validation, hbound, hcovers⟩ := hbase.covered hbefore
    have hids : KeepsIds ["validation_result_id"] base case := haccepted.keepsIds hsupplies hnames
    exact ⟨validation, hbound.rebind hids (by simp), hsame ▸ hcovers⟩

/-- The notes on a history have what was done before in the same order. -/
theorem notes_split {h before after : Trace} {e : Event operations PyError}
    (hnotes : notes h = before ++ e :: after) :
    ∃ first last, h = first ++ e :: last ∧ ∀ e' ∈ before, e' ∈ first := by
  rw [notes_eq_filter] at hnotes
  obtain ⟨first, others, rfl, hfirst, hothers⟩ := List.filter_eq_append_iff.mp hnotes
  obtain ⟨skipped, last, rfl, -, -, -⟩ := List.filter_eq_cons_iff.mp hothers
  refine ⟨first ++ skipped, last, by simp, fun e' he' => ?_⟩
  rw [← hfirst] at he'
  exact List.mem_append_left _ (List.mem_of_mem_filter he')

/-- A case is planned by a promotion that addresses its findings. -/
theorem scoped_step (hstep : CallStep calls addressesRead b l b')
    (hlisting : Listing S.platform b) (hscoped : ∀ i request, calls i ≠ .prepare request)
    (hread : b.histories l.thread =
      known ++ ⟨.advanceRead caseId transition args, .ok base⟩ :: rest)
    (hgrounds : (calls l.thread).grounds (notes known) caseId transition args)
    (hreread : addressesRead known transition base)
    (haccepted : Accepted base transition args target case event)
    (hbase : Attends S b.store base) (hstate : case.state ∈ scopedStates) :
    ScopeBound S b.store case := by
  obtain ⟨hresume, hsupplies⟩ := Call.supplies hgrounds
  have hvalidated : ∀ state : CaseState, state ∈ scopedStates → state ∈ validatedStates := by
    decide
  have hsame := haccepted.sameFindings hreread.2.2.2 (hvalidated _ hstate)
  have hne : case.state ≠ .blocked := by
    intro heq
    rw [heq] at hstate
    exact absurd hstate (by decide)
  obtain ⟨hblock, heffective⟩ := haccepted.unblocked hresume hne
  rcases scopedStates_entered _ _ _ _ hblock hresume heffective hstate with
    rfl | ⟨hbefore, hnames⟩
  · have hbefore : ∀ (state : CaseState) (reopened : Bool) (state' : CaseState),
        effectiveTransition state .preparePlan reopened = some state' →
          state ∈ validatedStates := by
      decide
    have hids : KeepsIds ["validation_result_id"] base case :=
      haccepted.keepsIds hsupplies fun name hname =>
        ⟨List.not_mem_nil, by rw [List.mem_singleton.mp hname]; decide⟩
    cases Call.promotes hgrounds (hscoped _) with
    | @prepare _ snap findings planned validation validationId before after hnotes hsnap hbound
        hvalidation hplanned hplanning =>
      have hmem : ∀ e ∈ notes known, e ∈ known := fun e he => mem_of_mem_notes he
      obtain ⟨first, last, rfl, hfirst⟩ := notes_split hnotes
      have hkeeps : KeepsIds ["validation_result_id"] snap base := by
        refine hreread.2.1 rfl caseId snap (hmem _ ?_)
        rw [hnotes]
        exact List.mem_append_left _ hsnap
      have hbaseLookup := (hkeeps _ (by simp)).trans hbound
      have hstored := hstep.record_stored hread hvalidation .read
      obtain ⟨covering, hcovering, hcovers⟩ := hbase.covered (hbefore _ _ _ heffective)
      obtain rfl := hcovering.unique ⟨validationId, hbaseLookup, hstored⟩
      have hhistory : b.histories l.thread = first ++ ⟨.listForCase caseId, .ok findings⟩ ::
          (last ++ ⟨.advanceRead caseId .preparePlan args, .ok base⟩ :: rest) := by
        rw [hread]
        simp
      obtain ⟨record, hrecord, hlists⟩ := hlisting.results l.thread _ _ _ hhistory caseId findings
        rfl snap (hfirst _ hsnap) validationId hbound
      obtain rfl := Option.some.inj (hrecord.symm.trans hstored)
      have hreading : ⟨.advanceRead caseId .preparePlan args, .ok base⟩ ∈ b.histories l.thread := by
        rw [hread]
        simp
      have hown := (hlisting.honest l.thread _ hreading caseId base .reread).2 _ _ rfl
      have hlisted := hlisting.listed l.thread ⟨.listForCase caseId, .ok findings⟩
        (by rw [hhistory]; simp) caseId findings rfl
      cases hplanning with
      | @prepare _ _ _ plan _ findingIds _ _ _ hbinds _ hscope hselected _ =>
        have hplan := hstep.record_stored hread hbinds.put .put
        refine ⟨plan, record, findingIds, ⟨_, haccepted.supplied_lookup hbinds.bound, hplan⟩,
          hcovering.rebind hids (by simp), hscope, fun id hid => ?_⟩
        rw [hsame] at hid
        rw [hselected _ rfl, haccepted.caseId, hown]
        exact addressed_of_promoted hplanned hlisted (hcovers hid) (hlists (hcovers hid))
  · obtain ⟨plan, validation, scope, hplan, hvalidation, hscope, haddressed⟩ :=
      hbase.planned hbefore
    have hids : KeepsIds ["change_plan_id", "validation_result_id"] base case :=
      haccepted.keepsIds hsupplies hnames
    refine ⟨plan, validation, scope, hplan.rebind hids (by simp),
      hvalidation.rebind hids (by simp), hscope, fun id hid => ?_⟩
    rw [haccepted.caseId]
    exact haddressed id (hsame ▸ hid)

/-- A case is certified for the scope of its plan. -/
theorem certified_step (hstep : CallStep calls addressesRead b l b')
    (hread : b.histories l.thread =
      known ++ ⟨.advanceRead caseId transition args, .ok base⟩ :: rest)
    (hgrounds : (calls l.thread).grounds (notes known) caseId transition args)
    (hreread : addressesRead known transition base)
    (haccepted : Accepted base transition args target case event)
    (hbase : Attends S b.store base) (hstate : case.state = .remediated) :
    CertificateBound S b.store case := by
  obtain ⟨hresume, hsupplies⟩ := Call.supplies hgrounds
  have hsame := haccepted.sameFindings hreread.2.2.2 (by rw [hstate]; decide)
  obtain ⟨hblock, heffective⟩ := haccepted.unblocked hresume (by rw [hstate]; decide)
  rcases remediated_entered _ _ _ _ hblock hresume heffective (by rw [hstate]; decide) with
    rfl | ⟨hbefore, -⟩
  · have hbefore : ∀ (state : CaseState) (reopened : Bool) (state' : CaseState),
        effectiveTransition state .completeRemediation reopened = some state' →
          state ∈ scopedStates := by
      decide
    have hids : KeepsIds ["validation_result_id"] base case :=
      haccepted.keepsIds hsupplies fun name hname =>
        ⟨List.not_mem_nil, by rw [List.mem_singleton.mp hname]; decide⟩
    obtain ⟨plan, validation, scope, hplan, hvalidation, hscope, haddressed⟩ :=
      hbase.planned (hbefore _ _ _ heffective)
    cases Call.completes hgrounds with
    | @complete _ context certificate findingIds hstarted hbinds happroved hcertified _ =>
      have hkeeps : KeepsIds ["change_plan_id"] context.case base :=
        hreread.2.2.1 rfl caseId context.case (mem_of_mem_notes hstarted.read)
      have hcontext := hstep.record_stored hread hstarted.plan .read
      have hne : context.case.recordIds.text "change_plan_id" ≠ "" := by
        rw [← Stores.record?_recordId hcontext]
        exact context.plan.required.1
      have hlookup := (hkeeps _ (by simp)).trans (RecordIds.lookup_of_text_ne hne)
      obtain rfl := hplan.unique ⟨_, hlookup, hcontext⟩
      obtain rfl := approvedFindingIds_eq hscope happroved
      have hcertificate := hstep.record_stored hread hbinds.put .put
      refine ⟨certificate, validation, findingIds,
        ⟨_, haccepted.supplied_lookup hbinds.bound, hcertificate⟩,
        hvalidation.rebind hids (by simp), hcertified, fun id hid => ?_⟩
      rw [haccepted.caseId]
      exact haddressed id (hsame ▸ hid)
  · have hlive := haccepted.live
    rw [RemediationCase.terminal, List.mem_singleton.mp hbefore] at hlive
    exact absurd hlive (by decide)

/-- In every run of promotions, validations and executions beside any other calls, what is
known of the cases holds. -/
theorem cases_attended {ls : List (Label operations PyError ι)}
    (hscoped : ∀ i request, calls i ≠ .prepare request)
    (hrun : Steps (CallStep calls addressesRead) (Board.start {}) ls b) :
    ∀ caseId case, b.store.cases.case? caseId = some case → Attends S b.store case := by
  refine (hrun.stateInvariant (fun b => Listing S.platform b ∧
    ∀ caseId case, b.store.cases.case? caseId = some case → Attends S b.store case) ?_ ?_).2
  · refine ⟨listing_start, fun caseId case hcase => ?_⟩
    cases hcase
  · rintro a l a' ⟨hlisting, hattends⟩ hstep
    refine ⟨hlisting.step hstep, hstep.keeps_cases (fun case hopened => ?_) (fun case hcase => ?_)
      (fun hread hgrounds hreread haccepted hbase => ?_) hattends⟩
    · have hstate := hopened.fields.1
      refine ⟨fun h => ?_, fun h => ?_, fun h => ?_⟩
      · rw [hstate] at h
        exact absurd h (by decide)
      · rw [hstate] at h
        exact absurd h (by decide)
      · rw [hstate] at h
        cases h
    · exact hcase.world hstep.history.move.answered hlisting.unique
    · exact ⟨covered_step hstep hread hgrounds hreread haccepted hbase,
        scoped_step hstep hlisting hscoped hread hgrounds hreread haccepted hbase,
        certified_step hstep hread hgrounds hreread haccepted hbase⟩

end boards

/-- Remediation buries no finding that it was to address: in every run of calls of the services
in which plans are made by promotion, a validation, a plan and a certificate are attached to a
case that is as their worker read it, and no finding is attached to a case that is executed,
every finding of a remediated case is listed in its certificate, or has a status in its
validation that is not confirmed, or has no control that can plan for it. -/
theorem remediated_findings_addressed {ι : Type} [DecidableEq ι] {S : Settings}
    {calls : ι → Call S} {ls : List (Label operations PyError ι)}
    {c : Pool operations PyError Unit Stores ι}
    (hscoped : ∀ i request, calls i ≠ .prepare request)
    (hrun : Steps (Pool.StepIf world (Rereads addressesRead))
      (Pool.start {} fun i => (calls i).program) ls c) {caseId : String} {case : RemediationCase}
    (hcase : c.store.cases.case? caseId = some case) (hstate : case.state = .remediated) :
    ∃ certificate validation certified,
      Bound c.store case "remediation_certificate_id" certificate ∧
      Bound c.store case "validation_result_id" validation ∧
      certificate.body.get "finding_ids" = .ofStrings certified ∧
      ∀ findingId ∈ case.findingIds, findingId ∈ certified ∨
        findingId ∈ validatedIds S.platform validation.body ∧
          (validationStatus S.platform validation.body findingId ≠ "confirmed" ∨
            ∃ finding ∈ c.store.findings, finding.findingId = findingId ∧
              finding.caseId = some case.caseId ∧ plannable S finding = .ok false) := by
  obtain ⟨hboard, -⟩ := Pool.board_steps (fun i => (calls i).permitted) hrun
  obtain ⟨hcalls, -⟩ := call_run hboard
  exact (cases_attended hscoped hcalls caseId case hcase).certified hstate

section samples

/-- The condition `Rereads addressesRead`, computed for every re-read. -/
def addressesAllRead {ι : Type} (b : Board operations PyError Stores ι)
    (l : Label operations PyError ι) : Bool :=
  match l.event.op with
  | .advanceRead caseId transition _ =>
    match b.store.cases.case? caseId with
    | some base => (b.histories l.thread).all (fun e =>
        match e with
        | ⟨.listForCase _, .ok findings⟩ => decide (transition = .validate →
          ∀ findingId ∈ base.findingIds, findingId ∈ findings.map StoredFinding.findingId)
        | ⟨.getCase _, .ok snap⟩ =>
          decide (transition = .preparePlan →
            base.recordIds.lookup "validation_result_id" =
              snap.recordIds.lookup "validation_result_id") &&
          decide (transition = .completeRemediation →
            base.recordIds.lookup "change_plan_id" = snap.recordIds.lookup "change_plan_id")
        | _ => true) &&
      decide (transition = .addFinding → base.state ∉ [CaseState.executing, .verifying])
    | none => true
  | _ => true

/-- The check of the sample's steps decides the condition on them. -/
theorem addressesAllRead_sound {ι : Type} {b : Board operations PyError Stores ι}
    {l : Label operations PyError ι} (h : addressesAllRead b l = true) :
    Rereads addressesRead b l := by
  intro caseId transition args base _ hop hbase _
  unfold addressesAllRead at h
  rw [hop] at h
  simp only [hbase, Bool.and_eq_true] at h
  obtain ⟨hall, hadds⟩ := h
  have hsnap : ∀ asked snap, ⟨.getCase asked, .ok snap⟩ ∈ b.histories l.thread →
      (transition = .preparePlan → base.recordIds.lookup "validation_result_id" =
        snap.recordIds.lookup "validation_result_id") ∧
      (transition = .completeRemediation → base.recordIds.lookup "change_plan_id" =
        snap.recordIds.lookup "change_plan_id") := by
    intro asked snap hmem
    have hkept := List.all_eq_true.mp hall _ hmem
    obtain ⟨hvalidation, hplan⟩ := (Bool.and_eq_true _ _).mp hkept
    exact ⟨of_decide_eq_true hvalidation, of_decide_eq_true hplan⟩
  refine ⟨fun htransition asked findings hmem findingId hid => ?_,
    fun htransition asked snap hmem name hname => ?_,
    fun htransition asked snap hmem name hname => ?_, of_decide_eq_true hadds⟩
  · exact of_decide_eq_true (List.all_eq_true.mp hall _ hmem) htransition findingId hid
  · rw [List.mem_singleton.mp hname]
    exact (hsnap asked snap hmem).1 htransition
  · rw [List.mem_singleton.mp hname]
    exact (hsnap asked snap hmem).2 htransition

/-- One rule has a control that plans; the other has none. -/
def scopedSettings : Settings :=
  ⟨samplePlatform, "/artifacts", fun _ ruleId _ =>
    if ruleId = "rule-1" then some ⟨fun _ => .ok (true, "exposed"), true⟩ else none⟩

/-- A finding of the bucket that no control covers. -/
def uncoveredFinding : IntakeRequest :=
  { bucketFinding "finding-2" with
    raw := (bucketFinding "finding-2").raw.set "finding_info"
      (.obj [("uid", .str "finding-2"), ("analytic", .obj [("uid", .str "rule-2")])]) }

/-- The sample's approval has the texts that an approval needs. -/
theorem scopedApproval_required : "" ∉ ["APR-1", "CASE-1012", "REVIEW-1154", "reviewer",
    "2026-07-17T11:00:00Z", "2026-07-18T12:00:00Z", "sso", "approved"] := by
  decide

/-- The approval of the scoped plan. -/
def scopedApproval : VerifiedApproval scopedSettings.platform where
  approvalId := "APR-1"
  caseId := "CASE-1012"
  reviewPackageId := "REVIEW-1154"
  approver := "reviewer"
  authenticatedAt := "2026-07-17T11:00:00Z"
  expiresAt := "2026-07-18T12:00:00Z"
  authenticationMethod := "sso"
  statement := "approved"
  required := scopedApproval_required
  expires_after := sampleApproval_expires

/-- The token of the promotion of the first finding. -/
def scopedToken : String :=
  samplePlatform.canonicalHash (.obj [("case_id", .str "CASE-1012"),
    ("tenant_id", .str "tenant-1"), ("validation_record_id", .str "VAL-1036"),
    ("validation_evidence_ids", .ofStrings ["EVD-1038"]),
    ("confirmed_finding_ids", .ofStrings ["FIND-1003"]), ("provider", .str "aws"),
    ("resource_uids", .ofStrings ["arn:aws:s3:::logs"]), ("rule_ids", .ofStrings ["rule-1"])])

/-- The sample's retries are within their bounds. -/
theorem scopedReview_bounds : 1 ≤ 1 ∧ 1 ≤ 4 := by decide

/-- The calls that remediate the first of two findings. -/
def scopedCalls : ℕ → Call scopedSettings
  | 0 => .ingest (bucketFinding "finding-1")
  | 1 => .ingest uncoveredFinding
  | 2 => .validate "CASE-1012" []
  | 3 => .planPromoted
    { tenantId := "tenant-1", caseId := "CASE-1012", token := scopedToken, repository := "/repo" }
  | 4 => .reviewSre "CASE-1012"
    [("service", .str "logs"), ("environment", .str "production"),
      ("health_signals", .ofStrings ["errors"]), ("dependencies", .arr []),
      ("owner", .str "team")]
  | 5 => .selectWindow "CASE-1012" [] ⟨"UTC", 120, 24, [0, 1, 2, 3, 4, 5, 6], [2], 3, 1, none⟩
  | 6 => .reviewRollback "CASE-1012"
  | 7 => .prepareReview { bounds := scopedReview_bounds } "CASE-1012"
  | 8 => .approve scopedApproval
  | 9 => .schedule "CASE-1012"
  | _ => .execute sampleComponents "CASE-1012" "originator" "JOB-1172"

/-- The sample plans promoted cases only. -/
theorem scopedCalls_scoped : ∀ i request, scopedCalls i ≠ .prepare request := by
  intro i request
  unfold scopedCalls
  split <;> simp

/-- One call after the other, until the case is remediated. -/
def scopedRun
    (check : Board operations PyError Stores ℕ → Label operations PyError ℕ → Bool) :
    Option (List (Label operations PyError ℕ) × Pool operations PyError Unit Stores ℕ) :=
  Pool.exec performWith check
    (fun n => ⟨none, stageReply (if n < 178 then "2026-07-17T12:00:00Z"
      else "2026-07-18T02:30:00Z") (n + 2)⟩)
    ([(0, 17), (1, 15), (2, 13), (3, 42), (4, 17), (5, 22), (6, 16), (7, 16), (8, 10), (9, 10),
      (10, 54)].flatMap fun turn : ℕ × ℕ => List.replicate turn.2 turn.1) 0
    (Pool.start {} fun i => (scopedCalls i).program)

/-- The remediated case has its finding certified; the other has no control. -/
theorem scoped_remediation_addressed : ∃ ls c case,
    Steps (Pool.StepIf world (Rereads addressesRead))
      (Pool.start {} fun i => (scopedCalls i).program) ls c ∧
    c.store.cases.case? "CASE-1012" = some case ∧ case.state = .remediated ∧
    ∃ certificate validation certified,
      Bound c.store case "remediation_certificate_id" certificate ∧
      Bound c.store case "validation_result_id" validation ∧
      certificate.body.get "finding_ids" = .ofStrings certified ∧
      ∀ findingId ∈ case.findingIds, findingId ∈ certified ∨
        findingId ∈ validatedIds scopedSettings.platform validation.body ∧
          (validationStatus scopedSettings.platform validation.body findingId ≠ "confirmed" ∨
            ∃ finding ∈ c.store.findings, finding.findingId = findingId ∧
              finding.caseId = some case.caseId ∧
                plannable scopedSettings finding = .ok false) := by
  have hexists : ∃ run ∈ scopedRun addressesAllRead,
      ∃ case ∈ run.2.store.cases.case? "CASE-1012", case.state = .remediated := by
    decide +kernel
  obtain ⟨⟨ls, c⟩, hrun, case, hcase, hstate⟩ := hexists
  have hsteps : Steps (Pool.StepIf world (Rereads addressesRead))
      (Pool.start {} fun i => (scopedCalls i).program) ls c :=
    (Pool.exec_steps hrun).mono fun _ _ _ h => ⟨h.1, addressesAllRead_sound h.2⟩
  exact ⟨ls, c, case, hsteps, hcase, hstate,
    remediated_findings_addressed scopedCalls_scoped hsteps hcase hstate⟩

/-- The body of the record that a case binds under a name. -/
def boundBody (s : Stores) (case : RemediationCase) (name : String) : Document :=
  (((case.recordIds.lookup name).bind s.record?).map ProductRecord.body).getD []

/-- The body of a bound record is what the case's id names. -/
theorem Bound.body {s : Stores} {case : RemediationCase} {name : String} {record : ProductRecord}
    (h : Bound s case name record) : boundBody s case name = record.body := by
  obtain ⟨recordId, hlookup, hrecord⟩ := h
  simp [boundBody, hlookup, hrecord]

/-- A finding of the case is neither certified nor found unconfirmed. -/
def leavesOpen (P : Platform) (s : Stores) (case : RemediationCase) : Bool :=
  case.findingIds.any fun findingId =>
    decide (findingId ∉ ((boundBody s case "remediation_certificate_id").get
      "finding_ids").strings?.getD []) &&
    decide (validationStatus P (boundBody s case "validation_result_id") findingId ≠
      "not_confirmed")

/-- A remediated case carries a finding that no control covers: by design it is in no plan. -/
theorem scoped_remediation_leaves_finding : ∃ ls c case,
    Steps (Pool.StepIf world fun _ _ => True)
      (Pool.start {} fun i => (scopedCalls i).program) ls c ∧
    c.store.cases.case? "CASE-1012" = some case ∧ case.state = .remediated ∧
    ¬∃ certificate validation certified,
      Bound c.store case "remediation_certificate_id" certificate ∧
      Bound c.store case "validation_result_id" validation ∧
      certificate.body.get "finding_ids" = .ofStrings certified ∧
      ∀ findingId ∈ case.findingIds, findingId ∈ certified ∨
        validationStatus scopedSettings.platform validation.body findingId = "not_confirmed" := by
  have hexists : ∃ run ∈ scopedRun (fun _ _ => true),
      ∃ case ∈ run.2.store.cases.case? "CASE-1012", case.state = .remediated ∧
        leavesOpen samplePlatform run.2.store case = true := by
    decide +kernel
  obtain ⟨⟨ls, c⟩, hrun, case, hcase, hstate, hopen⟩ := hexists
  have hsteps : Steps (Pool.StepIf world fun _ _ => True)
      (Pool.start {} fun i => (scopedCalls i).program) ls c :=
    (Pool.exec_steps hrun).mono fun _ _ _ h => ⟨h.1, trivial⟩
  refine ⟨ls, c, case, hsteps, hcase, hstate, ?_⟩
  rintro ⟨certificate, validation, certified, hcertificate, hvalidation, hids, haddressed⟩
  have hstrings : (certificate.body.get "finding_ids").strings? = some certified := by
    rw [hids]
    exact mapM_str certified
  unfold leavesOpen at hopen
  rw [hcertificate.body, hvalidation.body, hstrings, List.any_eq_true] at hopen
  obtain ⟨findingId, hmem, hleft⟩ := hopen
  rw [Bool.and_eq_true, decide_eq_true_eq, decide_eq_true_eq] at hleft
  rcases haddressed findingId hmem with h | h
  · exact hleft.1 h
  · exact hleft.2 h

end samples

end ElCapitan
