import ElCapitan.Base.Canonical
import ElCapitan.Bindings.Certified

/-!
# What a promotion token binds

A token is the hash of a canonical document. Where the hash has no collisions, a token that is
accepted was made from the scope that is inspected now.
-/

namespace ElCapitan

open Effects

section documents

/-- The document that a promotion token hashes. -/
def PromotionReadiness.document (readiness : PromotionReadiness) : Json :=
  .obj [("case_id", .str readiness.caseId), ("tenant_id", .str readiness.tenantId),
    ("validation_record_id", .str readiness.validationRecordId),
    ("validation_evidence_ids", .ofStrings readiness.validationEvidenceIds),
    ("confirmed_finding_ids", .ofStrings readiness.confirmedFindingIds),
    ("provider", .str readiness.provider), ("resource_uids", .ofStrings readiness.resourceUids),
    ("rule_ids", .ofStrings readiness.confirmedRuleIds)]

/-- Two promotions have one scope. -/
structure SameScope (inspected readiness : PromotionReadiness) : Prop where
  caseId : readiness.caseId = inspected.caseId
  tenantId : readiness.tenantId = inspected.tenantId
  validationRecordId : readiness.validationRecordId = inspected.validationRecordId
  validationEvidenceIds : readiness.validationEvidenceIds = inspected.validationEvidenceIds
  confirmedFindingIds : readiness.confirmedFindingIds = inspected.confirmedFindingIds
  provider : readiness.provider = inspected.provider
  resourceUids : readiness.resourceUids = inspected.resourceUids
  confirmedRuleIds : readiness.confirmedRuleIds = inspected.confirmedRuleIds

/-- The entries of the document, sorted by their keys. -/
theorem sorted_document (caseId confirmedIds provider resources rules tenantId evidenceIds
    validationId : String) :
    [("case_id", caseId), ("tenant_id", tenantId), ("validation_record_id", validationId),
      ("validation_evidence_ids", evidenceIds), ("confirmed_finding_ids", confirmedIds),
      ("provider", provider), ("resource_uids", resources), ("rule_ids", rules)].foldr
        insertEntry [] =
    [("case_id", caseId), ("confirmed_finding_ids", confirmedIds), ("provider", provider),
      ("resource_uids", resources), ("rule_ids", rules), ("tenant_id", tenantId),
      ("validation_evidence_ids", evidenceIds), ("validation_record_id", validationId)] := by
  simp [insertEntry]

variable {floatRepr : ℚ → String}

/-- The canonical text of the document determines the scope. -/
theorem sameScope_of_canonical {inspected readiness : PromotionReadiness}
    (h : canonicalJson floatRepr readiness.document = canonicalJson floatRepr inspected.document) :
    SameScope inspected readiness := by
  have hchars := congrArg String.toList h
  simp only [PromotionReadiness.document, canonicalJson, canonicalEntries, sorted_document,
    List.map_cons, List.map_nil, String.intercalate_cons_cons, String.intercalate_singleton,
    String.toList_append, List.append_assoc, List.append_cancel_left_eq] at hchars
  -- the texts agree up to the end of each value, in the order of the keys
  obtain ⟨hcase, hchars⟩ := quoted_selfDelimiting hchars
  simp only [List.append_cancel_left_eq] at hchars
  obtain ⟨hconfirmed, hchars⟩ := strings_selfDelimiting hchars
  simp only [List.append_cancel_left_eq] at hchars
  obtain ⟨hprovider, hchars⟩ := quoted_selfDelimiting hchars
  simp only [List.append_cancel_left_eq] at hchars
  obtain ⟨hresources, hchars⟩ := strings_selfDelimiting hchars
  simp only [List.append_cancel_left_eq] at hchars
  obtain ⟨hrules, hchars⟩ := strings_selfDelimiting hchars
  simp only [List.append_cancel_left_eq] at hchars
  obtain ⟨htenant, hchars⟩ := quoted_selfDelimiting hchars
  simp only [List.append_cancel_left_eq] at hchars
  obtain ⟨hevidence, hchars⟩ := strings_selfDelimiting hchars
  simp only [List.append_cancel_left_eq] at hchars
  obtain ⟨hvalidation, -⟩ := quoted_selfDelimiting hchars
  exact ⟨hcase, htenant, hvalidation, hevidence, hconfirmed, hprovider, hresources, hrules⟩

end documents

section eligibility

variable {S : Settings}

/-- A control with planning capability is registered for a finding. -/
def HasPlanningControl (S : Settings) (finding : StoredFinding) : Prop :=
  ∃ ruleId resourceType control, finding.ruleId S.platform = .ok ruleId ∧
    finding.resourceType S.platform = .ok resourceType ∧
    S.control finding.provider ruleId resourceType = some control ∧
    control.remediationPlanning = true

/-- What the stores say of a scope that may be planned. -/
structure ScopeIn (S : Settings) (s : Stores) (readiness : PromotionReadiness)
    (case : RemediationCase) (validation : ProductRecord) : Prop where
  stored : s.cases.get readiness.caseId = .ok case
  tenant : case.tenantId = readiness.tenantId
  state : case.state ∈ preapprovalStates
  bound : case.recordIds.text "validation_result_id" = readiness.validationRecordId
  record : RecordTable.get s.records readiness.validationRecordId = .ok validation
  owner : validation.caseId = readiness.caseId
  kind : validation.recordType = "ValidationResult.v1"
  selected : ∀ findingId ∈ readiness.confirmedFindingIds, ∃ finding ∈ s.findings,
    finding.findingId = findingId ∧ finding.caseId = some readiness.caseId ∧
      (validationStatuses S.platform validation.body).lookup findingId = some "confirmed" ∧
      HasPlanningControl S finding
  excluded : ∀ finding ∈ s.findings, finding.caseId = some readiness.caseId →
    finding.findingId ∉ readiness.confirmedFindingIds →
      finding.findingId ∈ readiness.excludedFindingIds
  covered : ∀ finding ∈ s.findings, finding.caseId = some readiness.caseId →
    finding.findingId ∈ validatedIds S.platform validation.body

/-- A plannable finding has a control that can be planned for. -/
theorem plannable_eq_true {finding : StoredFinding} (h : plannable S finding = .ok true) :
    HasPlanningControl S finding := by
  unfold plannable at h
  obtain ⟨ruleId, hrule, h⟩ := except_bind_eq_ok.mp h
  obtain ⟨resourceType, htype, h⟩ := except_bind_eq_ok.mp h
  have hcontrol : (S.control finding.provider ruleId resourceType).elim false
      Control.remediationPlanning = true := Except.ok.inj h
  cases hfound : S.control finding.provider ruleId resourceType with
  | none =>
    rw [hfound] at hcontrol
    cases hcontrol
  | some control =>
    rw [hfound] at hcontrol
    exact ⟨ruleId, resourceType, control, hrule, htype, hfound, hcontrol⟩

/-- What a check that may raise keeps passed it. -/
theorem kept_of_filterExcept {α : Type} {p : α → Except PyError Bool} {items kept : List α}
    (h : filterExcept p items = .ok kept) : ∀ item ∈ kept, item ∈ items ∧ p item = .ok true := by
  induction items generalizing kept with
  | nil =>
    cases h
    simp
  | cons first items ih =>
    unfold filterExcept at h
    obtain ⟨keeps, hkeeps, h⟩ := except_bind_eq_ok.mp h
    obtain ⟨others, hothers, h⟩ := except_bind_eq_ok.mp h
    have hall := ih hothers
    cases h
    intro item hitem
    cases keeps with
    | false => exact ⟨List.mem_cons_of_mem _ (hall item hitem).1, (hall item hitem).2⟩
    | true =>
      rcases List.mem_cons.mp hitem with rfl | hitem
      · exact ⟨by simp, hkeeps⟩
      · exact ⟨List.mem_cons_of_mem _ (hall item hitem).1, (hall item hitem).2⟩

/-- What a promotion shows is what was read, and its token is the hash of its document. -/
structure Readied (S : Settings) (tenantId caseId : String) (case : RemediationCase)
    (findings : List StoredFinding) (validation : Option ProductRecord) (bound : List String)
    (readiness : PromotionReadiness) : Prop where
  caseId : readiness.caseId = caseId
  tenantId : readiness.tenantId = tenantId
  validationRecordId : readiness.validationRecordId = case.recordIds.text "validation_result_id"
  token : readiness.promotionToken = S.platform.canonicalHash readiness.document
  excluded : readiness.excludedFindingIds =
    sortedDifference (findings.map StoredFinding.findingId) readiness.confirmedFindingIds
  eligible : readiness.eligible = true →
    case.state ∈ preapprovalStates ∧ bound = [] ∧
      ∃ planned, filterExcept (plannable S) (confirmedFindings S.platform findings
          (validation.elim [] ProductRecord.body)) = .ok planned ∧
        readiness.confirmedFindingIds = sortedIds planned ∧
        (validation.isSome = true → ∀ finding ∈ findings, finding.findingId ∈
          validatedIds S.platform (validation.elim [] ProductRecord.body))

/-- What is left over is in the one list and not in the other. -/
theorem mem_sortedDifference {items other : List String} {item : String} :
    item ∈ sortedDifference items other ↔ item ∈ items ∧ item ∉ other := by
  unfold sortedDifference
  rw [List.mem_insertionSort, List.mem_dedup, List.mem_filter, decide_eq_true_eq]

/-- What readiness tells is read off the case, its findings and its validation. -/
theorem readied_of_readinessOf {tenantId caseId : String} {case : RemediationCase}
    {findings : List StoredFinding} {validation : Option ProductRecord} {bound : List String}
    {readiness : PromotionReadiness}
    (h : readinessOf S tenantId caseId case findings validation bound = .ok readiness) :
    Readied S tenantId caseId case findings validation bound readiness := by
  have hscoped := readinessOf_eligible h
  unfold readinessOf at h
  obtain ⟨planned, hplanned, h⟩ := except_bind_eq_ok.mp h
  obtain ⟨rules, -, h⟩ := except_bind_eq_ok.mp h
  cases h
  refine ⟨rfl, rfl, rfl, rfl, rfl, fun heligible => ?_⟩
  obtain ⟨hbound, planned', hplanned', hids⟩ := hscoped heligible
  obtain ⟨hclear, hstate⟩ := of_decide_eq_true heligible
  refine ⟨hstate, hbound, planned', hplanned', hids, fun hsome finding hfinding => ?_⟩
  simp only [List.append_eq_nil_iff, scopeBlockers, failureIf_eq_nil] at hclear
  by_contra hmissing
  refine absurd ⟨hsome, ?_⟩ hclear.2.1.1.1.1
  exact List.ne_nil_of_mem (mem_sortedDifference.mpr ⟨List.mem_map_of_mem hfinding, hmissing⟩)

/-- An eligible promotion of what the stores hold is a scope in them. -/
theorem Readied.scopeIn {s : Stores} {tenantId caseId : String} {case : RemediationCase}
    {validation : ProductRecord} {bound : List String} {readiness : PromotionReadiness}
    (h : Readied S tenantId caseId case (FindingTable.listForCase s.findings caseId)
      (some validation) bound readiness)
    (heligible : readiness.eligible = true) (hcase : s.cases.get caseId = .ok case)
    (htenant : case.tenantId = tenantId)
    (hrecord : RecordTable.get s.records (case.recordIds.text "validation_result_id") =
      .ok validation)
    (howner : validation.caseId = caseId) (hkind : validation.recordType = "ValidationResult.v1") :
    ScopeIn S s readiness case validation := by
  obtain ⟨hstate, -, planned, hplanned, hids, hcovered⟩ := h.eligible heligible
  have hmem : ∀ finding ∈ s.findings, finding.caseId = some readiness.caseId →
      finding ∈ FindingTable.listForCase s.findings caseId := by
    intro finding hfinding hassigned
    rw [h.caseId] at hassigned
    exact FindingTable.mem_listForCase.mpr ⟨hfinding, hassigned⟩
  refine ⟨?_, ?_, hstate, h.validationRecordId.symm, ?_, ?_, hkind, ?_, ?_, ?_⟩
  · rw [h.caseId, hcase]
  · rw [h.tenantId, htenant]
  · rw [h.validationRecordId, hrecord]
  · rw [h.caseId, howner]
  · intro findingId hid
    rw [hids, mem_sortedIds] at hid
    obtain ⟨finding, hkept, rfl⟩ := List.mem_map.mp hid
    obtain ⟨hconfirmed, hplannable⟩ := kept_of_filterExcept hplanned finding hkept
    obtain ⟨hlisted, hstatus⟩ := List.mem_filter.mp hconfirmed
    obtain ⟨hfinding, hassigned⟩ := FindingTable.mem_listForCase.mp hlisted
    refine ⟨finding, hfinding, rfl, ?_, of_decide_eq_true hstatus, plannable_eq_true hplannable⟩
    rw [h.caseId, hassigned]
  · intro finding hfinding hassigned hout
    rw [h.excluded]
    have hlisted := hmem finding hfinding hassigned
    exact mem_sortedDifference.mpr ⟨List.mem_map_of_mem hlisted, hout⟩
  · intro finding hfinding hassigned
    exact hcovered rfl finding (hmem finding hfinding hassigned)

end eligibility

section services

variable {S : Settings} {tenantId caseId : String} {s : Stores}

/-- A promise about what a service returns, which leaves the stores alone. -/
def Reading (s : Stores) {α : Type} (Q : α → Prop) : Except PyError α → Stores → Prop
  | .ok a, s' => s' = s ∧ Q a
  | .error _, _ => True

/-- A promotion that nothing stands in the way of has the validation that the case binds. -/
theorem promotedValidation_reads {validationId : String} :
    Sat world (fun _ _ => True) (promotedValidation caseId validationId)
      (Reading s fun answer => answer.2 = [] → ∃ validation, answer.1 = some validation ∧
        RecordTable.get s.records validationId = .ok validation ∧
        validation.caseId = caseId ∧ validation.recordType = "ValidationResult.v1") s := by
  unfold promotedValidation
  split
  · exact ⟨rfl, by simp⟩
  · refine sat_handle.mpr ?_
    simp only [Prog.bind_eq, Prog.pure_eq]
    refine sat_bind_read (o := .getRecord validationId) rfl (fun validation hread => ?_)
      fun e => ?_
    · refine ⟨rfl, fun hbound => ⟨validation, rfl, hread, ?_⟩⟩
      rw [failureIf_eq_nil] at hbound
      push Not at hbound
      exact hbound
    · dsimp only
      split
      · exact ⟨rfl, by simp⟩
      · trivial

/-- An inspection shows the scope that the stores hold. -/
theorem inspectPromotion_reads :
    Sat world (fun _ _ => True) (inspectPromotion S tenantId caseId)
      (Reading s fun readiness => readiness.caseId = caseId ∧ readiness.tenantId = tenantId ∧
        readiness.promotionToken = S.platform.canonicalHash readiness.document ∧
        (readiness.eligible = true → ∃ case validation,
          ScopeIn S s readiness case validation)) s := by
  unfold inspectPromotion
  simp only [Prog.bind_eq]
  refine sat_bind_read (o := .getCase caseId) rfl (fun case hcase => ?_) fun _ => trivial
  refine sat_bind_raiseIf.mpr ⟨fun htenant => ?_, fun _ => trivial⟩
  refine sat_bind_read (o := .listForCase caseId) rfl (fun findings hfindings => ?_)
    fun _ => trivial
  cases hfindings
  refine sat_bind.mpr (promotedValidation_reads.mono fun answer s' hanswer => ?_)
  cases answer with
  | error e => trivial
  | ok answer =>
    obtain ⟨rfl, hvalidation⟩ := hanswer
    obtain ⟨validation, bound⟩ := answer
    refine sat_ofExcept.mpr ?_
    dsimp only
    cases hreadiness : readinessOf S tenantId caseId case
        (FindingTable.listForCase s'.findings caseId) validation bound with
    | error e => trivial
    | ok readiness =>
      have hreadied := readied_of_readinessOf hreadiness
      refine ⟨rfl, hreadied.caseId, hreadied.tenantId, hreadied.token, fun heligible => ?_⟩
      obtain ⟨validation, rfl, hrecord, howner, hkind⟩ :=
        hvalidation (hreadied.eligible heligible).2.1
      exact ⟨case, validation, hreadied.scopeIn heligible hcase (not_not.mp htenant) hrecord
        howner hkind⟩

/-- A token is accepted where it is the token of the scope that is inspected now. -/
theorem requirePromotion_reads {token : String} :
    Sat world (fun _ _ => True) (requirePromotion S tenantId caseId token)
      (Reading s fun readiness => readiness.caseId = caseId ∧ readiness.tenantId = tenantId ∧
        readiness.eligible = true ∧ token = S.platform.canonicalHash readiness.document ∧
        ∃ case validation, ScopeIn S s readiness case validation) s := by
  unfold requirePromotion
  simp only [Prog.bind_eq, Prog.pure_eq]
  refine sat_bind.mpr (inspectPromotion_reads.mono fun answer s' hanswer => ?_)
  cases answer with
  | error e => trivial
  | ok readiness =>
    obtain ⟨rfl, hcase, htenant, htoken, hscope⟩ := hanswer
    refine sat_bind_raiseIf.mpr ⟨fun heligible => ?_, fun _ => trivial⟩
    refine sat_bind_raiseIf.mpr ⟨fun hsame => ?_, fun _ => trivial⟩
    have htrue : readiness.eligible = true := by simpa using heligible
    exact ⟨rfl, hcase, htenant, htrue, (not_not.mp hsame).trans htoken, hscope htrue⟩

/-- Where the hash has no collisions, an inspection in any state shows a scope of that state if
it is eligible, and where its token is accepted later, of whatever stores and with whatever
controls, the case is eligible there with the scope that was inspected. -/
theorem token_binds_scope {s₁ s₁' : Stores} {inspected : PromotionReadiness}
    (hsha : Function.Injective S.platform.sha256Hex)
    (hinspected : Runs world (inspectPromotion S tenantId caseId) s₁ (.ok inspected) s₁') :
    inspected.caseId = caseId ∧ inspected.tenantId = tenantId ∧
    (inspected.eligible = true → ∃ case validation, ScopeIn S s₁ inspected case validation) ∧
    ∀ (control : String → String → String → Option Control) (tenantId' caseId' : String)
      (s₂ s₂' : Stores) (readiness : PromotionReadiness),
      Runs world (requirePromotion { S with control } tenantId' caseId' inspected.promotionToken)
          s₂ (.ok readiness) s₂' →
        readiness.caseId = caseId' ∧ readiness.tenantId = tenantId' ∧
        readiness.eligible = true ∧ SameScope inspected readiness ∧
        ∃ case validation, ScopeIn { S with control } s₂ readiness case validation := by
  obtain ⟨-, hid, hof, htoken, hscope⟩ := inspectPromotion_reads.runs hinspected
  refine ⟨hid, hof, hscope, fun control tenantId' caseId' s₂ s₂' readiness hrequired => ?_⟩
  obtain ⟨-, hcase, htenant, heligible, haccepted, hnow⟩ :=
    requirePromotion_reads.runs hrequired
  have hdocument : S.platform.canonical inspected.document =
      S.platform.canonical readiness.document := hsha (htoken.symm.trans haccepted)
  exact ⟨hcase, htenant, heligible, sameScope_of_canonical hdocument.symm, hnow⟩

end services

section samples

/-- The stores after the first calls of the scoped run have taken their turns. -/
def scopedStores (turns : List (ℕ × ℕ)) : Stores :=
  ((Pool.exec performWith (fun _ _ => true)
    (fun n => ⟨none, stageReply "2026-07-17T12:00:00Z" (n + 2)⟩)
    (turns.flatMap fun turn : ℕ × ℕ => List.replicate turn.2 turn.1) 0
    (Pool.start {} fun i => (scopedCalls i).program)).map fun run => run.2.store).getD {}

/-- Run a service alone on stores. -/
def playAlone {α : Type} (service : Service α) (s : Stores) : Option (Except PyError α × Stores) :=
  service.follow
    (fun n s o => performWith ⟨none, stageReply "2026-07-17T12:00:00Z" n⟩ s o) (fun _ => true) 0 s

/-- A played service is a run of it. -/
theorem playAlone_runs {α : Type} {service : Service α} {s s' : Stores} {out : Except PyError α}
    (h : playAlone service s = some (out, s')) : Runs world service s out s' :=
  Prog.follow_runs (fun n _ _ _ => ⟨⟨none, stageReply "2026-07-17T12:00:00Z" n⟩, rfl⟩) h

/-- The stores when the case is validated. -/
def validatedStores : Stores := scopedStores [(0, 17), (1, 15), (2, 13)]

/-- The stores when the case is planned. -/
def plannedStores : Stores := scopedStores [(0, 17), (1, 15), (2, 13), (3, 42)]

/-- The promotion inspected after the validation is accepted after the planning. -/
theorem inspected_token_binds_scope : ∃ inspected readiness case validation s₁ s₂,
    Runs world (inspectPromotion scopedSettings "tenant-1" "CASE-1012") validatedStores
      (.ok inspected) s₁ ∧
    Runs world (requirePromotion scopedSettings "tenant-1" "CASE-1012" inspected.promotionToken)
      plannedStores (.ok readiness) s₂ ∧
    readiness.confirmedFindingIds = ["FIND-1003"] ∧ SameScope inspected readiness ∧
    ScopeIn scopedSettings plannedStores readiness case validation := by
  have hexists : ∃ first ∈ playAlone (inspectPromotion scopedSettings "tenant-1" "CASE-1012")
      validatedStores, ∃ inspected ∈ first.1.toOption,
      ∃ second ∈ playAlone (requirePromotion scopedSettings "tenant-1" "CASE-1012"
        inspected.promotionToken) plannedStores, ∃ readiness ∈ second.1.toOption,
        readiness.confirmedFindingIds = ["FIND-1003"] := by
    decide +kernel
  obtain ⟨⟨out₁, s₁⟩, hfirst, inspected, hout₁, ⟨out₂, s₂⟩, hsecond, readiness, hout₂, hids⟩ :=
    hexists
  obtain rfl := except_of_toOption hout₁
  obtain rfl := except_of_toOption hout₂
  have hinspected := playAlone_runs hfirst
  have hrequired := playAlone_runs hsecond
  obtain ⟨-, -, -, hbinds⟩ := token_binds_scope sampleHash_injective hinspected
  obtain ⟨-, -, -, hsame, case, validation, hscope⟩ := hbinds _ _ _ _ _ _ hrequired
  exact ⟨inspected, readiness, case, validation, s₁, s₂, hinspected, hrequired, hids, hsame,
    hscope⟩

end samples

end ElCapitan
