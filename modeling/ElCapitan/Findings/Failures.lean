import ElCapitan.Services.ShadowIntake

/-!
# Which records become findings

A batch skips the Prowler records of checks that passed or need a person. The result of a
Security Hub record is carried along and never looked at, so that the records of a batch
that become findings report failed checks only if no Security Hub record in it does otherwise.
-/

namespace ElCapitan

open Effects

/-- An ASFF record of a check that passed or could not be evaluated, or an archived one. -/
def PassingAsff (record : Document) : Prop :=
  isAsff record = true ∧
    (((record.get "Compliance").obj?.getD []).text "Status" ∈ ["PASSED", "NOT_AVAILABLE"] ∨
      record.text "RecordState" = "ARCHIVED")

/-- A Prowler record of a check that passed or needs a person. -/
def PassingProwler (P : Platform) (record : Document) : Prop :=
  isAsff record = false ∧ isProwler P record = .ok true ∧
    ((record.get "status_code").str?.map fun value => P.upper (P.strip value)).getD "" ∈
      ["PASS", "MANUAL"]

/-- The record was made a finding: its document is one of those that are ingested. -/
def Ingested (C : ShadowSettings) (prepared : PreparedIntake) (record : Document) : Prop :=
  ∃ entry ∈ prepared.entries, ocsfDocument C record = .ok entry.document

/-- Only records of failed checks are made findings. -/
def OnlyFailures (C : ShadowSettings) (documents : List Json) (prepared : PreparedIntake) : Prop :=
  ∀ raw ∈ documents, ∀ record, raw.obj? = some record → Ingested C prepared record →
    ¬PassingAsff record ∧ ¬PassingProwler C.platform record

variable {C : ShadowSettings} {context : IntakeContext} {assets : List (String × AssetContext)}
  {index : ℕ} {raw : Json} {record document : Document}

/-- Wrapping a value error does not change values. -/
theorem wrapValueError_eq_ok {α : Type} {label : String} {x : Except PyError α} {a : α}
    (h : wrapValueError label x = .ok a) : x = .ok a := by
  unfold wrapValueError at h
  split at h
  · exact h
  · split at h <;> cases h

/-- A converted record has no status code. -/
theorem asffToOcsf_status {P : Platform} {dumps : Json → String}
    (h : asffToOcsf P dumps record = .ok document) : document.lookup "status_code" = none := by
  unfold asffToOcsf at h
  obtain ⟨_, _, h⟩ := except_bind_eq_ok.mp h
  obtain ⟨_, _, h⟩ := except_bind_eq_ok.mp h
  obtain ⟨_, _, h⟩ := except_bind_eq_ok.mp h
  obtain ⟨_, _, h⟩ := except_bind_eq_ok.mp h
  obtain ⟨_, _, h⟩ := except_bind_eq_ok.mp h
  cases h
  simp [List.lookup_cons]

/-- The outcome of a Prowler record is its status. -/
theorem prowlerOutcome_eq_some {P : Platform} {outcome : String}
    (h : prowlerOutcome P document = .ok (some outcome)) :
    ((document.get "status_code").str?.map fun value => P.upper (P.strip value)).getD "" =
      outcome := by
  unfold prowlerOutcome at h
  obtain ⟨prowler, _, h⟩ := except_bind_eq_ok.mp h
  cases prowler with
  | false => cases h
  | true =>
    generalize hvalue : (document.get "status_code").str? = value at h ⊢
    cases value with
    | none =>
      rw [if_pos rfl] at h
      dsimp only at h
      split at h <;> cases h
      rfl
    | some text =>
      rw [if_pos rfl] at h
      dsimp only at h
      split at h <;> cases h
      rfl

/-- The outcome of a Prowler record of a check that did not fail. -/
theorem prowlerOutcome_of_passing {P : Platform} (h : PassingProwler P record) :
    prowlerOutcome P record = .ok (some "PASS") ∨
      prowlerOutcome P record = .ok (some "MANUAL") := by
  obtain ⟨-, hprowler, hstatus⟩ := h
  have houtcome : prowlerOutcome P record =
      .ok (some (((record.get "status_code").str?.map
        fun value => P.upper (P.strip value)).getD "")) := by
    have hknown : (((record.get "status_code").str?.map
        fun value => P.upper (P.strip value)).getD "") ∈ prowlerOutcomes := by
      rcases List.mem_pair.mp hstatus with heq | heq <;> rw [heq] <;> decide
    unfold prowlerOutcome
    rw [hprowler]
    cases hcode : (record.get "status_code").str? with
    | none =>
      rw [hcode] at hknown
      simp [prowlerOutcomes] at hknown
    | some value =>
      rw [hcode] at hknown
      simp only [Option.map_some, Option.getD_some] at hknown ⊢
      show (if P.upper (P.strip value) ∈ prowlerOutcomes then _ else _) = _
      rw [if_pos hknown]
      rfl
  rcases List.mem_pair.mp hstatus with heq | heq
  · left
    rw [houtcome, heq]
  · right
    rw [houtcome, heq]

/-- What was found out about a record that was classified. -/
inductive ClassifiedBy (C : ShadowSettings) (raw : Json) : Classified → Prop
  | skipped {record document : Document} {outcome : String} (hrecord : raw.obj? = some record)
    (hdocument : ocsfDocument C record = .ok document)
    (houtcome : prowlerOutcome C.platform document = .ok (some outcome))
    (hskipped : outcome = "PASS" ∨ outcome = "MANUAL") : ClassifiedBy C raw (.skipped outcome)
  | accepted {record : Document} {outcome : Option String} {finding : AcceptedFinding}
    (hrecord : raw.obj? = some record)
    (hdocument : ocsfDocument C record = .ok finding.entry.document)
    (houtcome : prowlerOutcome C.platform finding.entry.document = .ok outcome)
    (hfails : ¬(outcome = some "PASS" ∨ outcome = some "MANUAL")) :
    ClassifiedBy C raw (.accepted finding)

/-- A classified document is classified by its outcome. -/
theorem classifyFinding_eq_ok {classified : Classified}
    (h : classifyFinding C context assets index raw = .ok classified) :
    ClassifiedBy C raw classified := by
  unfold classifyFinding at h
  obtain ⟨record, hrecord, h⟩ := except_bind_eq_ok.mp h
  obtain ⟨document, hdocument, h⟩ := except_bind_eq_ok.mp h
  obtain ⟨⟨provider, resourceUid, region⟩, _, h⟩ := except_bind_eq_ok.mp h
  obtain ⟨_, _, h⟩ := except_bind_eq_ok.mp h
  obtain ⟨_, _, h⟩ := except_bind_eq_ok.mp h
  obtain ⟨outcome, houtcome, h⟩ := except_bind_eq_ok.mp h
  obtain ⟨⟨_, account, _⟩, _, h⟩ := except_bind_eq_ok.mp h
  have hobj : raw.obj? = some record := by
    unfold recordOf at hrecord
    split at hrecord
    · rename_i hraw
      rw [hraw, Except.ok.inj hrecord]
    · cases hrecord
  have hprowler := wrapValueError_eq_ok houtcome
  dsimp only at h
  split at h
  · rename_i hskipped
    cases h
    rcases hskipped with rfl | rfl
    · exact .skipped hobj hdocument hprowler (.inl rfl)
    · exact .skipped hobj hdocument hprowler (.inr rfl)
  · rename_i hfails
    obtain ⟨first, _, h⟩ := except_bind_eq_ok.mp h
    obtain ⟨ruleId, _, h⟩ := except_bind_eq_ok.mp h
    obtain ⟨uid, _, h⟩ := except_bind_eq_ok.mp h
    cases h
    exact .accepted hobj hdocument hprowler hfails

/-- Every record of a classified batch was classified, and so was whatever came of one. -/
theorem classifyFrom_eq_ok {documents : List Json} {classified : List Classified}
    (h : classifyFrom C context assets index documents = .ok classified) :
    (∀ raw ∈ documents, ∃ c ∈ classified, ClassifiedBy C raw c) ∧
      ∀ c ∈ classified, ∃ raw ∈ documents, ClassifiedBy C raw c := by
  induction documents generalizing index classified with
  | nil =>
    cases h
    simp
  | cons raw rest ih =>
    obtain ⟨first, hfirst, h⟩ := except_bind_eq_ok.mp h
    obtain ⟨others, hothers, h⟩ := except_bind_eq_ok.mp h
    cases h
    obtain ⟨hrecords, hclassified⟩ := ih hothers
    have hhead := classifyFinding_eq_ok hfirst
    constructor
    · intro other hother
      rcases List.mem_cons.mp hother with rfl | hother
      · exact ⟨first, List.mem_cons_self, hhead⟩
      · obtain ⟨c, hc, hby⟩ := hrecords other hother
        exact ⟨c, List.mem_cons_of_mem _ hc, hby⟩
    · intro c hc
      rcases List.mem_cons.mp hc with rfl | hc
      · exact ⟨raw, List.mem_cons_self, hhead⟩
      · obtain ⟨other, hother, hby⟩ := hclassified c hc
        exact ⟨other, List.mem_cons_of_mem _ hother, hby⟩

/-- The prepared batch is what its records were classified as, and all accepted records are
counted and ingested. -/
structure PreparedBy (C : ShadowSettings) (batch : IntakeBatch) (prepared : PreparedIntake)
    (outcomes : List IntakeOutcome) : Prop where
  records : ∀ raw ∈ batch.documents, ∃ c, ClassifiedBy C raw c ∧
    ∀ finding, c = .accepted finding → finding.entry ∈ prepared.entries
  entries : ∀ entry ∈ prepared.entries, ∃ finding raw, finding.entry = entry ∧
    ClassifiedBy C raw (.accepted finding)
  counted : prepared.preview.acceptedFailures = prepared.entries.length
  ingested : outcomes.length = prepared.entries.length

/-- Intake returns one outcome for each finding. -/
theorem ingestAll_returns {batch : IntakeBatch} {tenantId : String}
    (entries : List PreparedFinding) :
    (ingestAll C batch tenantId entries).Returns fun outcomes =>
      outcomes.length = entries.length := by
  induction entries with
  | nil => rfl
  | cons entry rest ih =>
    unfold ingestAll
    refine Prog.returns_bind fun outcome => ih.bind fun outcomes hlength => ?_
    show (outcome :: outcomes).length = (entry :: rest).length
    rw [List.length_cons, List.length_cons, hlength]

/-- A prepared batch accounts for its documents. -/
theorem prepareIntake_returns (batch : IntakeBatch) :
    (prepareIntake C batch).Returns fun prepared => ∀ outcomes : List IntakeOutcome,
      outcomes.length = prepared.entries.length → PreparedBy C batch prepared outcomes := by
  unfold prepareIntake
  refine Prog.returns_bind_ofExcept fun result hbatch => ?_
  obtain ⟨assets, classified⟩ := result
  refine Prog.returns_bind fun name => Prog.returns_bind fun _ => Prog.returns_bind fun _ => ?_
  refine Prog.returns_bind fun _ => ?_
  intro outcomes hlength
  unfold classifyBatch at hbatch
  obtain ⟨_, _, hbatch⟩ := except_bind_eq_ok.mp hbatch
  obtain ⟨_, _, hbatch⟩ := except_bind_eq_ok.mp hbatch
  obtain ⟨_, _, hbatch⟩ := except_bind_eq_ok.mp hbatch
  obtain ⟨found, hclassified, hbatch⟩ := except_bind_eq_ok.mp hbatch
  cases hbatch
  obtain ⟨hrecords, hfound⟩ := classifyFrom_eq_ok hclassified
  constructor
  · intro raw hraw
    obtain ⟨c, hc, hby⟩ := hrecords raw hraw
    refine ⟨c, hby, ?_⟩
    rintro finding rfl
    exact List.mem_map_of_mem (List.mem_filterMap.mpr ⟨_, hc, rfl⟩)
  · intro entry hentry
    obtain ⟨finding, hfinding, rfl⟩ := List.mem_map.mp hentry
    obtain ⟨c, hc, hsome⟩ := List.mem_filterMap.mp hfinding
    obtain ⟨raw, _, hby⟩ := hfound c hc
    cases c with
    | skipped outcome => cases hsome
    | accepted found =>
      cases hsome
      exact ⟨finding, raw, rfl, hby⟩
  · simp [previewOf]
  · exact hlength

/-- A batch that is taken in accounts for its documents. -/
theorem shadowIntake_returns (batch : IntakeBatch) :
    (shadowIntake C batch).Returns fun result => PreparedBy C batch result.1 result.2 := by
  unfold shadowIntake
  refine Prog.returns_bind fun tenantId => Prog.returns_bind fun _ => ?_
  refine (prepareIntake_returns batch).bind fun prepared hprepared => ?_
  refine (ingestAll_returns prepared.entries).bind fun outcomes hlength => ?_
  exact hprepared outcomes hlength

/-- Every Security Hub record of an accepted batch is made a finding. -/
theorem PreparedBy.asff_ingested {batch : IntakeBatch} {prepared : PreparedIntake}
    {outcomes : List IntakeOutcome} (hprepared : PreparedBy C batch prepared outcomes)
    (hraw : raw ∈ batch.documents) (hrecord : raw.obj? = some record)
    (hasff : isAsff record = true) : Ingested C prepared record := by
  obtain ⟨c, hby, haccepted⟩ := hprepared.records raw hraw
  cases hby with
  | skipped hrecord' hdocument houtcome hskipped =>
    obtain rfl : record = _ := Option.some.inj (hrecord.symm.trans hrecord')
    unfold ocsfDocument at hdocument
    rw [if_pos hasff] at hdocument
    have hstatus := prowlerOutcome_eq_some houtcome
    have hnone : ∀ document : Document, document.lookup "status_code" = none →
        (document.get "status_code").str? = none := by
      intro document hlookup
      unfold Document.get
      rw [hlookup]
      rfl
    rw [hnone _ (asffToOcsf_status hdocument)] at hstatus
    rcases hskipped with rfl | rfl <;> simp at hstatus
  | accepted hrecord' hdocument houtcome hfails =>
    obtain rfl : record = _ := Option.some.inj (hrecord.symm.trans hrecord')
    exact ⟨_, haccepted _ rfl, hdocument⟩

/-- A Prowler record of a check that did not fail is never made a finding. -/
theorem PreparedBy.prowler_skipped {batch : IntakeBatch} {prepared : PreparedIntake}
    {outcomes : List IntakeOutcome} (hprepared : PreparedBy C batch prepared outcomes)
    (hpassing : PassingProwler C.platform record) : ¬Ingested C prepared record := by
  rintro ⟨entry, hentry, hdocument⟩
  obtain ⟨finding, other, rfl, hby⟩ := hprepared.entries entry hentry
  have hsame : finding.entry.document = record := by
    unfold ocsfDocument at hdocument
    rw [if_neg (by rw [hpassing.1]; decide)] at hdocument
    exact (Except.ok.inj hdocument).symm
  cases hby with
  | accepted _ _ houtcome hfails =>
    rw [hsame] at houtcome
    rcases prowlerOutcome_of_passing hpassing with hpass | hmanual
    · rw [hpass] at houtcome
      exact hfails (.inl (Except.ok.inj houtcome).symm)
    · rw [hmanual] at houtcome
      exact hfails (.inr (Except.ok.inj houtcome).symm)

/-- The findings made of a batch report failed checks exactly when the batch has no Security
Hub record of another result. -/
theorem intake_only_failures_iff {batch : IntakeBatch} {prepared : PreparedIntake}
    {outcomes : List IntakeOutcome} {s s' : Stores}
    (hrun : Runs world (shadowIntake C batch) s (.ok (prepared, outcomes)) s') :
    OnlyFailures C batch.documents prepared ↔
      ∀ raw ∈ batch.documents, ∀ record, raw.obj? = some record → ¬PassingAsff record := by
  have hprepared := (shadowIntake_returns batch).runs hrun
  constructor
  · intro honly raw hraw record hrecord hpassing
    have hingested := hprepared.asff_ingested hraw hrecord hpassing.1
    exact (honly raw hraw record hrecord hingested).1 hpassing
  · intro hnone raw hraw record hrecord hingested
    exact ⟨hnone raw hraw record hrecord,
      fun hpassing => hprepared.prowler_skipped hpassing hingested⟩

section samples

/-- An installation of the shadow control plane. -/
def hubSettings : ShadowSettings where
  platform := samplePlatform
  artifactRoot := "/artifacts"
  control _ _ _ := none
  root := "/shadow"
  dumps := samplePlatform.canonical
  supportsLive _ _ _ := false

/-- A Security Hub record with this compliance status. -/
def hubRecord (status : String) : Document :=
  [("SchemaVersion", .str "2018-10-08"), ("Id", .str "finding/S3.8/1"),
    ("GeneratorId", .str "security-control/S3.8"), ("AwsAccountId", .str "123456789012"),
    ("Region", .str "eu-west-1"), ("UpdatedAt", .str "2026-07-17T11:00:00Z"),
    ("Severity", .obj [("Label", .str "HIGH")]),
    ("Title", .str "S3 buckets should block public access"),
    ("Resources", .arr [.obj [("Id", .str "arn:aws:s3:::logs"), ("Type", .str "AwsS3Bucket")]]),
    ("Compliance", .obj [("Status", .str status), ("SecurityControlId", .str "S3.8")]),
    ("RecordState", .str "ACTIVE")]

/-- A Prowler document of a check with this result on a bucket. -/
def prowlerRecord (status uid : String) : Document :=
  [("class_uid", .int 2004), ("status_code", .str status), ("severity", .str "High"),
    ("time_dt", .str "2026-07-17T11:00:00Z"),
    ("metadata", .obj [("product", .obj [("name", .str "Prowler"), ("version", .str "5.0")]),
      ("event_code", .str "s3_bucket_public_access"), ("version", .str "1.4.0")]),
    ("finding_info", .obj [("uid", .str uid), ("title", .str "Block public access")]),
    ("cloud", .obj [("provider", .str "aws"), ("region", .str "eu-west-1"),
      ("account", .obj [("uid", .str "123456789012")])]),
    ("resources", .arr [.obj [("uid", .str "arn:aws:s3:::logs"), ("type", .str "AwsS3Bucket")]])]

/-- A batch of the record. -/
def hubBatch (status : String) : IntakeBatch :=
  { tenantId := "tenant-1", documents := [.obj (hubRecord status)] }

/-- The batch in a quiet environment, from empty stores. -/
def playedIntake (status : String) :
    Option (Except PyError (PreparedIntake × List IntakeOutcome) × Stores) :=
  (shadowIntake hubSettings (hubBatch status)).follow
    (fun n s o => performWith ⟨none, quietReply "2026-07-17T12:00:00Z" n⟩ s o) (fun _ => true) 0 {}

/-- A played batch that passes a check was run. -/
theorem playedIntake_runs {status : String} {check : List IntakeOutcome → Stores → Bool}
    (h : ((playedIntake status).any fun played =>
      played.1.toOption.any fun result => check result.2 played.2) = true) :
    ∃ prepared outcomes s', check outcomes s' = true ∧
      Runs world (shadowIntake hubSettings (hubBatch status)) {} (.ok (prepared, outcomes)) s' := by
  cases hplayed : playedIntake status with
  | none =>
    rw [hplayed] at h
    cases h
  | some played =>
    obtain ⟨out, s'⟩ := played
    rw [hplayed, Option.any_some] at h
    obtain ⟨⟨prepared, outcomes⟩, hresult, hcheck⟩ := exists_of_any h
    dsimp only at hresult
    subst hresult
    refine ⟨prepared, outcomes, s', hcheck, Prog.follow_runs (fun n _ _ _ => ?_) hplayed⟩
    exact ⟨⟨none, quietReply "2026-07-17T12:00:00Z" n⟩, rfl⟩

/-- A failed check is made a finding of a case. -/
theorem intake_only_failures_sample : ∃ prepared outcomes s',
    Runs world (shadowIntake hubSettings (hubBatch "FAILED")) {} (.ok (prepared, outcomes)) s' ∧
      s'.findings ≠ [] ∧ OnlyFailures hubSettings (hubBatch "FAILED").documents prepared := by
  obtain ⟨prepared, outcomes, s', hcheck, hrun⟩ := @playedIntake_runs "FAILED"
    (fun _ s => !s.findings.isEmpty) (by decide +kernel)
  refine ⟨prepared, outcomes, s', hrun, by simpa using hcheck, ?_⟩
  refine (intake_only_failures_iff hrun).mpr ?_
  intro raw hraw record hrecord hpassing
  obtain rfl := List.mem_singleton.mp hraw
  obtain rfl := Option.some.inj hrecord
  rcases hpassing.2 with hstatus | hstate
  · exact absurd hstatus (by decide +kernel)
  · exact absurd hstate (by decide +kernel)

/-- A passed check is made a finding of a case. -/
theorem passed_check_ingested : ∃ prepared outcomes s',
    Runs world (shadowIntake hubSettings (hubBatch "PASSED")) {} (.ok (prepared, outcomes)) s' ∧
      (s'.findings.map StoredFinding.caseId = s'.cases.cases.map fun case => some case.caseId) ∧
      s'.findings.length = 1 ∧
      ¬OnlyFailures hubSettings (hubBatch "PASSED").documents prepared := by
  obtain ⟨prepared, outcomes, s', hcheck, hrun⟩ := @playedIntake_runs "PASSED"
    (fun _ s => decide (s.findings.map StoredFinding.caseId =
      s.cases.cases.map fun case => some case.caseId) && decide (s.findings.length = 1))
    (by decide +kernel)
  rw [Bool.and_eq_true, decide_eq_true_eq, decide_eq_true_eq] at hcheck
  refine ⟨prepared, outcomes, s', hrun, hcheck.1, hcheck.2, ?_⟩
  intro honly
  have hasff : isAsff (hubRecord "PASSED") = true := by
    decide +kernel
  have hstatus : (((hubRecord "PASSED").get "Compliance").obj?.getD []).text "Status" ∈
      ["PASSED", "NOT_AVAILABLE"] := by
    decide +kernel
  have hprepared := (shadowIntake_returns (hubBatch "PASSED")).runs hrun
  have hingested := hprepared.asff_ingested (List.mem_singleton_self _) rfl hasff
  exact (honly _ (List.mem_singleton_self _) _ rfl hingested).1 ⟨hasff, .inl hstatus⟩

end samples

end ElCapitan
