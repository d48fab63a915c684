import ElCapitan.Reports.Offline

/-!
# Accounting of the submitted records

The report counts the outcomes of all submitted records and the severities of those whose
document, as it was submitted, is a Prowler document of a failed check. The intake accepts the
records of other producers as well, whose severities are left out of the account.
-/

namespace ElCapitan

open Effects

/-- A submitted record that is itself a Prowler document of a failed check. -/
def FailRecord (P : Platform) (record : Document) : Prop :=
  prowlerOutcome P record = .ok (some "FAIL")

/-- An OCSF record of a Prowler check that passed or needs a person. -/
def SkippedRecord (P : Platform) (record : Document) : Prop :=
  isAsff record = false ∧
    (prowlerOutcome P record = .ok (some "PASS") ∨ prowlerOutcome P record = .ok (some "MANUAL"))

/-- Every submitted record is accounted for. -/
def Accounts (report : OfflineReport) : Prop :=
  report.intake.submitted = report.intake.acceptedFailures + report.intake.skippedPass +
      report.intake.skippedManual ∧
    countTotal report.intake.outcomeCounts = report.intake.submitted ∧
    countTotal report.intake.failureSeverityCounts = report.intake.acceptedFailures

/-- Was a record skipped with this outcome? -/
def Classified.isSkipped (outcome : String) : Classified → Bool
  | .skipped o => o = outcome
  | .accepted _ => false

section preview

variable {C : ShadowSettings} {assets : List (String × AssetContext)} {documents : List Json}
  {classified : List Classified}

/-- The passed documents are those skipped as such. -/
theorem previewOf_skippedPass : (previewOf C assets documents classified).skippedPass =
    classified.countP (Classified.isSkipped "PASS") := rfl

/-- The manual documents are those skipped as such. -/
theorem previewOf_skippedManual : (previewOf C assets documents classified).skippedManual =
    classified.countP (Classified.isSkipped "MANUAL") := rfl

/-- What a batch that is prepared was classified as, record by record. -/
structure PreparedAs (C : ShadowSettings) (batch : IntakeBatch) (prepared : PreparedIntake)
    (classified : List Classified) : Prop where
  records : List.Forall₂ (ClassifiedBy C) batch.documents classified
  entries : prepared.entries =
    (classified.filterMap Classified.finding?).map AcceptedFinding.entry
  preview : ∃ assets, prepared.preview = previewOf C assets batch.documents classified

/-- Each record of a classified batch was classified. -/
theorem classifyFrom_forall₂ {context : IntakeContext} {index : ℕ}
    (h : classifyFrom C context assets index documents = .ok classified) :
    List.Forall₂ (ClassifiedBy C) documents classified := by
  induction documents generalizing index classified with
  | nil =>
    cases h
    exact .nil
  | cons raw rest ih =>
    obtain ⟨first, hfirst, h⟩ := except_bind_eq_ok.mp h
    obtain ⟨others, hothers, h⟩ := except_bind_eq_ok.mp h
    cases h
    exact .cons (classifyFinding_eq_ok hfirst) (ih hothers)

/-- A prepared batch comes from classified documents. -/
theorem prepareIntake_classified (batch : IntakeBatch) :
    (prepareIntake C batch).Returns fun prepared =>
      ∃ classified, PreparedAs C batch prepared classified := by
  unfold prepareIntake
  refine Prog.returns_bind_ofExcept fun result hbatch => ?_
  obtain ⟨assets, classified⟩ := result
  refine Prog.returns_bind fun name => Prog.returns_bind fun _ => Prog.returns_bind fun _ => ?_
  refine Prog.returns_bind fun _ => ?_
  unfold classifyBatch at hbatch
  obtain ⟨_, _, hbatch⟩ := except_bind_eq_ok.mp hbatch
  obtain ⟨_, _, hbatch⟩ := except_bind_eq_ok.mp hbatch
  obtain ⟨_, _, hbatch⟩ := except_bind_eq_ok.mp hbatch
  obtain ⟨found, hclassified, hbatch⟩ := except_bind_eq_ok.mp hbatch
  cases hbatch
  exact ⟨_, classifyFrom_forall₂ hclassified, rfl, _, rfl⟩

/-- A batch that is taken in comes from classified documents, one outcome for each entry. -/
theorem shadowIntake_classified (batch : IntakeBatch) :
    (shadowIntake C batch).Returns fun result => result.2.length = result.1.entries.length ∧
      ∃ classified, PreparedAs C batch result.1 classified := by
  unfold shadowIntake
  refine Prog.returns_bind fun tenantId => Prog.returns_bind fun _ => ?_
  refine (prepareIntake_classified batch).bind fun prepared hprepared => ?_
  refine (ingestAll_returns prepared.entries).bind fun outcomes hlength => ?_
  exact ⟨hlength, hprepared⟩

end preview

section records

variable {R : ReportSettings} {record : Document} {classified : Classified} {reported : String}

/-- What the report notes is the outcome of the submitted document. -/
theorem reportedOutcome_eq_ok (h : reportedOutcome R record = .ok reported) :
    ∃ outcome, prowlerOutcome R.platform record = .ok outcome ∧
      reported = outcome.getD "NON_PROWLER" := by
  unfold reportedOutcome at h
  obtain ⟨outcome, houtcome, h⟩ := except_bind_eq_ok.mp h
  exact ⟨outcome, houtcome, (Except.ok.inj h).symm⟩

/-- A record is noted as a failure if it is itself a Prowler document of a failed check. -/
theorem reported_fail_iff (h : reportedOutcome R record = .ok reported) :
    reported = "FAIL" ↔ FailRecord R.platform record := by
  obtain ⟨outcome, houtcome, rfl⟩ := reportedOutcome_eq_ok h
  unfold FailRecord
  rw [houtcome]
  cases outcome with
  | none => simp
  | some outcome => simp

/-- A record is skipped exactly if it is an OCSF record of a check that did not fail. -/
theorem skipped_iff {C : ShadowSettings} (h : ClassifiedBy C (.obj record) classified) :
    classified.finding? = none ↔ SkippedRecord C.platform record := by
  cases h with
  | @skipped found document outcome hrecord hdocument houtcome hskipped =>
    obtain rfl : record = found := Option.some.inj hrecord
    refine iff_of_true rfl ?_
    by_cases hasff : isAsff record = true
    · -- A converted record has no status code, so that its outcome is never a skipped one.
      unfold ocsfDocument at hdocument
      rw [if_pos hasff] at hdocument
      have hstatus := prowlerOutcome_eq_some houtcome
      have hcode : document.get "status_code" = .null := by
        unfold Document.get
        rw [asffToOcsf_status hdocument]
        rfl
      rw [hcode] at hstatus
      obtain rfl | rfl := hskipped
      · simp [Json.str?] at hstatus
      · simp [Json.str?] at hstatus
    · unfold ocsfDocument at hdocument
      rw [if_neg hasff] at hdocument
      obtain rfl := Except.ok.inj hdocument
      refine ⟨Bool.eq_false_iff.mpr hasff, ?_⟩
      obtain rfl | rfl := hskipped
      · exact .inl houtcome
      · exact .inr houtcome
  | @accepted found outcome finding hrecord hdocument houtcome hfails =>
    obtain rfl : record = found := Option.some.inj hrecord
    refine iff_of_false (Option.some_ne_none _) ?_
    rintro ⟨hasff, hskipped⟩
    unfold ocsfDocument at hdocument
    rw [hasff] at hdocument
    obtain hsame := Except.ok.inj hdocument
    rw [← hsame] at houtcome
    obtain hpass | hmanual := hskipped
    · rw [hpass] at houtcome
      exact hfails (.inl (Except.ok.inj houtcome).symm)
    · rw [hmanual] at houtcome
      exact hfails (.inr (Except.ok.inj houtcome).symm)

/-- A skipped record is counted under one of the two outcomes. -/
theorem skipped_counted {C : ShadowSettings} {raw : Json} (h : ClassifiedBy C raw classified) :
    (if classified.finding?.isSome then 1 else 0) +
        (if classified.isSkipped "PASS" then 1 else 0) +
        (if classified.isSkipped "MANUAL" then 1 else 0) = 1 := by
  cases h with
  | skipped hrecord hdocument houtcome hskipped =>
    obtain rfl | rfl := hskipped
    · simp [Classified.finding?, Classified.isSkipped]
    · simp [Classified.finding?, Classified.isSkipped]
  | accepted hrecord hdocument houtcome hfails =>
    simp [Classified.finding?, Classified.isSkipped]

end records

section batch

variable {R : ReportSettings}

/-- The accepted records of a classified batch. -/
def acceptedOf (classified : List Classified) : List AcceptedFinding :=
  classified.filterMap Classified.finding?

/-- A document counts as accepted where it has a finding. -/
theorem length_acceptedOf_cons {c : Classified} {classified : List Classified} :
    (acceptedOf (c :: classified)).length =
      (if c.finding?.isSome then 1 else 0) + (acceptedOf classified).length := by
  unfold acceptedOf
  rw [List.filterMap_cons]
  cases c.finding? with
  | none => simp
  | some finding =>
    simp
    omega

/-- The records that the report notes as failures. -/
def notedFailures (records : List Document) (reported : List String) :
    List (Document × String) :=
  (records.zip reported).filter fun entry => entry.2 = "FAIL"

/-- Every record is accepted or skipped with one of the two outcomes. -/
theorem classified_total {C : ShadowSettings} {documents : List Json}
    {classified : List Classified} (h : List.Forall₂ (ClassifiedBy C) documents classified) :
    (acceptedOf classified).length + classified.countP (Classified.isSkipped "PASS") +
      classified.countP (Classified.isSkipped "MANUAL") = documents.length := by
  induction h with
  | nil => rfl
  | @cons raw c documents classified hraw hrest ih =>
    have hone := skipped_counted hraw
    rw [length_acceptedOf_cons, List.countP_cons, List.countP_cons, List.length_cons]
    omega

/-- No more records are noted as failures than are accepted, and as many exactly if every
record that is not skipped is itself a Prowler document of a failed check. -/
theorem noted_accepted {records : List Document} {reported : List String}
    {classified : List Classified}
    (hclassified : List.Forall₂ (ClassifiedBy R.shadow) (records.map Json.obj) classified)
    (hreported : List.Forall₂ (fun record outcome => reportedOutcome R record = .ok outcome)
      records reported) :
    (notedFailures records reported).length ≤ (acceptedOf classified).length ∧
      ((notedFailures records reported).length = (acceptedOf classified).length ↔
        ∀ record ∈ records, FailRecord R.platform record ∨ SkippedRecord R.platform record) := by
  induction hreported generalizing classified with
  | nil =>
    cases hclassified
    simp [notedFailures, acceptedOf]
  | @cons record outcome records reported hrecord hrest ih =>
    cases hclassified with
    | @cons _ c _ classified hc hothers =>
      obtain ⟨hle, hiff⟩ := ih hothers
      have hnoted : (notedFailures (record :: records) (outcome :: reported)).length =
          (if outcome = "FAIL" then 1 else 0) + (notedFailures records reported).length := by
        by_cases hfail : outcome = "FAIL"
        · simp [notedFailures, hfail]
          omega
        · simp [notedFailures, hfail]
      have hfail := reported_fail_iff hrecord
      have hskipped : c.finding? = none ↔ SkippedRecord R.platform record := skipped_iff hc
      -- A record that is noted as a failure is never skipped.
      have hexcluded : ¬(FailRecord R.platform record ∧ SkippedRecord R.platform record) := by
        rintro ⟨hfails, -, hpass | hmanual⟩
        · rw [FailRecord, hpass] at hfails
          simp at hfails
        · rw [FailRecord, hmanual] at hfails
          simp at hfails
      rw [hnoted, length_acceptedOf_cons, List.forall_mem_cons, ← hiff, ← hfail, ← hskipped]
      rw [← hfail, ← hskipped] at hexcluded
      cases hfound : c.finding? with
      | none =>
        have hnot : outcome ≠ "FAIL" := fun heq => hexcluded ⟨heq, hfound⟩
        simp [hnot, hle]
      | some finding =>
        by_cases heq : outcome = "FAIL"
        · simp [heq, hle]
        · simp [heq]
          omega

/-- Every submitted record is accounted for exactly if each of them is an OCSF record of a
Prowler check that did not fail, or is itself a Prowler document of a failed check. -/
theorem report_accounts_iff {tenantId : String} {document : Json} {records : List Document}
    {prepared : PreparedIntake} {outcomes : List IntakeOutcome} {stores : Stores}
    {report : OfflineReport}
    (h : Reported R tenantId document records prepared outcomes stores report) :
    Accounts report ↔
      ∀ record ∈ records, FailRecord R.platform record ∨ SkippedRecord R.platform record := by
  obtain ⟨hingested, classified, hclassified⟩ :=
    (shadowIntake_classified (reportBatch tenantId records)).runs h.ingested
  obtain ⟨assets, hpreview⟩ := hclassified.preview
  have hreport := h.reported
  unfold offlineReport at hreport
  obtain ⟨tenant, -, hreport⟩ := except_bind_eq_ok.mp hreport
  obtain ⟨snapshot, -, hreport⟩ := except_bind_eq_ok.mp hreport
  obtain ⟨reported, hreported, hreport⟩ := except_bind_eq_ok.mp hreport
  obtain ⟨counted, -, hreport⟩ := except_bind_eq_ok.mp hreport
  obtain rfl := Except.ok.inj hreport
  rw [except_mapM_eq_ok] at hreported
  have haccepted : outcomes.length = (acceptedOf classified).length := by
    rw [hingested, hclassified.entries, List.length_map, acceptedOf]
  have htotal := classified_total hclassified.records
  have hdocuments : (reportBatch tenantId records).documents.length = records.length :=
    List.length_map _
  obtain ⟨-, hnoted⟩ := noted_accepted hclassified.records hreported
  unfold Accounts
  simp only [countTotal_countsOf, List.length_map]
  rw [hpreview, previewOf_skippedPass, previewOf_skippedManual, haccepted, ← hnoted,
    hreported.length_eq]
  constructor
  · rintro ⟨-, -, hfailures⟩
    exact hfailures
  · intro hfailures
    refine ⟨?_, rfl, hfailures⟩
    rw [← hreported.length_eq]
    omega

end batch

section samples

/-- An installation without controls. -/
def emptyRegistry : CapabilityRegistry := ⟨[], List.nodup_nil⟩

/-- A failed and a passed Prowler check are accounted for. -/
theorem report_accounts_prowler : ∃ records prepared outcomes stores report,
    Reported (bareSettings emptyRegistry) "tenant-1"
        (.arr [.obj (prowlerRecord "FAIL" "uid-1"), .obj (prowlerRecord "PASS" "uid-2")])
        records prepared outcomes stores report ∧
      report.intake.acceptedFailures = 1 ∧ Accounts report := by
  have hplayed : ((playedReport (bareSettings emptyRegistry) (.arr
      [.obj (prowlerRecord "FAIL" "uid-1"), .obj (prowlerRecord "PASS" "uid-2")])).any
      fun played => played.report.intake.acceptedFailures = 1) = true := by
    decide +kernel
  obtain ⟨played, hreport, haccepted⟩ := Option.any_eq_true _ _ |>.mp hplayed
  have hreported := playedReport_reported hreport
  refine ⟨_, _, _, _, _, hreported, of_decide_eq_true haccepted, ?_⟩
  rw [report_accounts_iff hreported]
  have hrecords : [prowlerRecord "FAIL" "uid-1", prowlerRecord "PASS" "uid-2"] =
      played.records := Except.ok.inj hreported.read
  rw [← hrecords]
  intro record hrecord
  obtain rfl | rfl := List.mem_pair.mp hrecord
  · exact .inl rfl
  · exact .inr ⟨rfl, .inl rfl⟩

/-- A Security Hub record of a failed check is accepted, and its severity is left out. -/
theorem hub_severity_left_out : ∃ records prepared outcomes stores report,
    Reported (bareSettings emptyRegistry) "tenant-1" (.obj (hubRecord "FAILED")) records prepared
        outcomes stores report ∧
      report.intake.acceptedFailures = 1 ∧
      countTotal report.intake.failureSeverityCounts = 0 ∧ ¬Accounts report := by
  have hplayed : ((playedReport (bareSettings emptyRegistry) (.obj (hubRecord "FAILED"))).any
      fun played => decide (played.report.intake.acceptedFailures = 1 ∧
        countTotal played.report.intake.failureSeverityCounts = 0)) = true := by
    decide +kernel
  obtain ⟨played, hreport, hcounts⟩ := Option.any_eq_true _ _ |>.mp hplayed
  obtain ⟨haccepted, hseverities⟩ := of_decide_eq_true hcounts
  refine ⟨_, _, _, _, _, playedReport_reported hreport, haccepted, hseverities, ?_⟩
  rintro ⟨-, -, hfailures⟩
  rw [haccepted, hseverities] at hfailures
  cases hfailures

end samples

end ElCapitan
