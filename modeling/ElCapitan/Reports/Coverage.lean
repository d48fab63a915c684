import ElCapitan.Findings.Duplicates
import ElCapitan.Reports.Accounting

/-!
# Coverage of the stored findings

The fleet looks a control up by the rule and the type of the resource, the report by the rule
alone. The stored findings are those of the accepted documents that no earlier one answers,
and the totals agree exactly if a control that is registered for the rule of such a document
decides on its resource.
-/

namespace ElCapitan

open Effects

/-- What is read of a document: its source, its subject and the type of its resource. -/
structure Sighting where
  source : SourceKey
  subject : Subject
  resourceType : String
  deriving DecidableEq

section sightings

variable (P : Platform)

/-- The type of the resource of a document. -/
def documentType (raw : Document) : String :=
  match primaryResource raw with
  | .ok first => (first.obj?.map fun primary => P.str (primary.getText "type")).getD ""
  | .error _ => ""

/-- What is read of a document of a tenant. -/
def sightingOf (tenantId : String) (raw : Document) : Except PyError Sighting := do
  let (provider, account, originalUid) ← sourceIdentity P raw
  let subject ← subjectOf P raw
  return ⟨⟨tenantId, provider, account, originalUid⟩, subject, documentType P raw⟩

/-- What is read of a stored finding. -/
def StoredFinding.sighting (finding : StoredFinding) : Sighting where
  source := finding.source
  subject := finding.subject P
  resourceType := P.str (((finding.record.get "resource").obj?.getD []).getText "type")

/-- Is a document answered with an earlier one: one under its key, or one under its producer's
uid with its rule and its resource? -/
def Sighting.AnsweredIn (kept : List Sighting) (sighting : Sighting) : Prop :=
  ∃ earlier ∈ kept, earlier.source = sighting.source ∨
    earlier.source = { sighting.source with originalUid := sighting.subject.uid } ∧
      earlier.subject.ruleId = sighting.subject.ruleId ∧
      earlier.subject.resourceUid = sighting.subject.resourceUid

instance (kept : List Sighting) (sighting : Sighting) : Decidable (sighting.AnsweredIn kept) := by
  unfold Sighting.AnsweredIn
  infer_instance

/-- Keep a document that no earlier one answers. -/
def noteDocument (tenantId : String) (kept : List Sighting) (raw : Document) : List Sighting :=
  match sightingOf P tenantId raw with
  | .ok sighting => if sighting.AnsweredIn kept then kept else kept ++ [sighting]
  | .error _ => kept

end sightings

section intake

variable {S : Settings} {request : IntakeRequest} {source : SourceKey} {s s' : Stores}
variable {finding : StoredFinding} {kept : List Sighting} {tenantId : String}
variable {outcome : IntakeOutcome}

/-- The type of the resource in the record of a normalised document. -/
theorem normalisedRecord_type {P : Platform} {raw record rawRef : Document} {findingId : String}
    (h : normalisedRecord P raw findingId rawRef = .ok record) :
    ∃ resource : Document, record.lookup "resource" = some (.obj resource) ∧
      P.str (resource.getText "type") = documentType P raw := by
  unfold normalisedRecord at h
  obtain ⟨metadata, -, h⟩ := except_bind_eq_ok.mp h
  obtain ⟨findingInfo, -, h⟩ := except_bind_eq_ok.mp h
  obtain ⟨ruleId, -, h⟩ := except_bind_eq_ok.mp h
  obtain ⟨product, -, h⟩ := except_bind_eq_ok.mp h
  obtain ⟨cloud, -, h⟩ := except_bind_eq_ok.mp h
  obtain ⟨accountSection, -, h⟩ := except_bind_eq_ok.mp h
  obtain ⟨⟨provider, resourceUid, region⟩, -, h⟩ := except_bind_eq_ok.mp h
  obtain ⟨first, hfirst, h⟩ := except_bind_eq_ok.mp h
  obtain ⟨primary, hprimary, h⟩ := except_bind_eq_ok.mp h
  obtain ⟨unmapped, -, h⟩ := except_bind_eq_ok.mp h
  obtain rfl := Except.ok.inj h
  refine ⟨_, rfl, ?_⟩
  unfold documentType
  rw [hfirst]
  cases first with
  | obj entries =>
    obtain rfl := Except.ok.inj hprimary
    rfl
  | _ => cases hprimary

/-- A finding that was built from a document is seen as the document is. -/
theorem BuiltFinding.sighting_eq (hsource : intakeSource S request = .ok source)
    (h : BuiltFinding S.platform request.raw source finding) :
    sightingOf S.platform request.tenantId request.raw = .ok (finding.sighting S.platform) := by
  obtain ⟨htenant, hidentity⟩ := intakeSource_eq_ok hsource
  obtain ⟨findingId, rawRef, normalised, hnormalised, hrecord⟩ := h.record
  obtain ⟨resource, hresource, htype⟩ := normalisedRecord_type hnormalised
  have hlookup : finding.record.lookup "resource" = some (.obj resource) := by
    obtain heq | ⟨extensions, heq⟩ := hrecord
    · rw [heq, hresource]
    · rw [heq, Document.lookup_set_other (by decide), hresource]
  have hsection : (finding.record.get "resource").obj?.getD [] = resource := by
    unfold Document.get
    rw [hlookup]
    rfl
  unfold sightingOf StoredFinding.sighting
  rw [hidentity, h.subject_eq, hsection, htype, h.source_eq, ← htenant]
  rfl

/-- The look-up finds a row exactly if an earlier document answers this one. -/
theorem recognised_isSome_iff {existing : Option StoredFinding} {sighting : Sighting}
    (hkeyed : KeyedTable S.platform s.findings) (hsource : intakeSource S request = .ok source)
    (hsighting : sightingOf S.platform request.tenantId request.raw = .ok sighting)
    (h : recognised S.platform s.findings request.raw source = .ok existing) :
    existing.isSome = true ↔
      sighting.AnsweredIn (s.findings.map (StoredFinding.sighting S.platform)) := by
  obtain ⟨htenant, hidentity⟩ := intakeSource_eq_ok hsource
  obtain ⟨findingInfo, hinfo, hne, hscheme⟩ := sourceIdentity_eq_ok hidentity
  unfold sightingOf at hsighting
  rw [hidentity] at hsighting
  obtain ⟨identity, hidentity', hsighting⟩ := except_bind_eq_ok.mp hsighting
  obtain rfl := Except.ok.inj hidentity'
  obtain ⟨subject, hsubject, hsighting⟩ := except_bind_eq_ok.mp hsighting
  obtain rfl := Except.ok.inj hsighting
  rw [← htenant]
  have huid := subjectOf_uid hinfo hsubject
  have hlookup : ∀ found, existing = some found ↔
      FoundBy S.platform s.findings source subject found := by
    intro found
    refine recognised_iff hkeyed.sources ⟨findingInfo, hinfo, huid, huid ▸ hne⟩ hsubject ?_ h
    intro hother
    obtain ⟨-, hkey⟩ | ⟨-, subject', region, hsubject', htarget, -⟩ := hscheme
    · exact absurd (hkey.trans huid) hother
    · rw [hsubject] at hsubject'
      obtain rfl := Except.ok.inj hsubject'
      exact ⟨_, _, htarget⟩
  rw [Option.isSome_iff_exists]
  simp only [hlookup, Sighting.AnsweredIn, List.mem_map, exists_exists_and_eq_and]
  constructor
  · rintro ⟨found, hmember, hdirect | ⟨-, hlegacy, hrule, hresource⟩⟩
    · exact ⟨found, hmember, .inl hdirect⟩
    · exact ⟨found, hmember, .inr ⟨hlegacy, hrule, hresource⟩⟩
  · rintro ⟨found, hmember, hdirect | ⟨hlegacy, hrule, hresource⟩⟩
    · exact ⟨found, hmember, .inl hdirect⟩
    · by_cases hfree : ∀ other ∈ s.findings, other.source ≠ source
      · exact ⟨found, hmember, .inr ⟨hfree, hlegacy, hrule, hresource⟩⟩
      · push Not at hfree
        obtain ⟨other, hother, heq⟩ := hfree
        exact ⟨other, hother, .inl heq⟩

/-- The stores of an intake: the findings are those of the kept documents, and each is
assigned to a case of the tenant. -/
structure Tracked (P : Platform) (tenantId : String) (kept : List Sighting) (s : Stores) :
    Prop where
  keyed : KeyedTable P s.findings
  seen : s.findings.map (StoredFinding.sighting P) = kept
  tenant : s.AllCases fun case => case.tenantId = tenantId
  assigned : ∀ finding ∈ s.findings, ∃ caseId, finding.caseId = some caseId ∧ s.Holds caseId

/-- Transitions keep the tenant of a case. -/
theorem caseRule_tenant (tenantId : String) :
    CaseRule tenantId fun case => case.tenantId = tenantId := by
  constructor
  · intro caseId findingIds assetIds serviceIds now case h
    unfold openCase at h
    split at h
    · obtain rfl := Except.ok.inj h
      rfl
    · cases h
  · intro case transition args case' event htenant h
    obtain ⟨target, haccepted⟩ := transitionCase_accepted h
    rw [haccepted.tenantId, htenant]

/-- An assignment leaves every other finding, and assigns this one. -/
theorem mem_of_assign {findings findings' : FindingTable} {findingId caseId : String}
    (hids : (findings.map StoredFinding.findingId).Nodup)
    (h : findings.assign findingId caseId = .ok findings') (hfinding : finding ∈ findings') :
    finding.caseId = some caseId ∨ finding ∈ findings ∧ finding.findingId ≠ findingId := by
  obtain ⟨found, hfound, hcase, rfl⟩ := FindingTable.assign_eq_ok h
  have hid : found.findingId = findingId := Rows.key_of_find hfound
  by_cases hnone : found.caseId = none
  · rw [if_pos hnone] at hfinding
    obtain ⟨hmember, hother⟩ | ⟨rfl, -⟩ := Rows.mem_replace_iff.mp hfinding
    · exact .inr ⟨hmember, hid ▸ hother⟩
    · exact .inl rfl
  · rw [if_neg hnone] at hfinding
    by_cases hsame : finding.findingId = findingId
    · have hfirst := Rows.find_of_mem hids hfinding
      rw [hsame, hfound] at hfirst
      obtain rfl := Option.some.inj hfirst
      exact .inl (hcase.resolve_left hnone)
    · exact .inr ⟨hfinding, hsame⟩

/-- An assignment changes nothing that is seen of the findings. -/
theorem sighting_of_assign {P : Platform} {findings findings' : FindingTable}
    {findingId caseId : String} (hids : (findings.map StoredFinding.findingId).Nodup)
    (h : findings.assign findingId caseId = .ok findings') :
    findings'.map (StoredFinding.sighting P) = findings.map (StoredFinding.sighting P) :=
  assign_map (fun _ _ => rfl) hids h

/-- Where nothing is read of a document, it is no new finding. -/
theorem noteDocument_of_answered {P : Platform} {raw : Document}
    (h : ∀ sighting, sightingOf P tenantId raw = .ok sighting → sighting.AnsweredIn kept) :
    noteDocument P tenantId kept raw = kept := by
  unfold noteDocument
  cases hsighting : sightingOf P tenantId raw with
  | ok sighting => exact if_pos (h sighting hsighting)
  | error e => rfl

/-- An ingest that answers leaves stores that are tracked, and it counts as a duplicate exactly
if no document is kept. -/
theorem Tracked.ingest (h : Tracked S.platform request.tenantId kept s)
    (hrun : Runs world (ingest S request) s (.ok outcome) s') :
    Tracked S.platform request.tenantId
        (noteDocument S.platform request.tenantId kept request.raw) s' ∧
      (noteDocument S.platform request.tenantId kept request.raw).length =
        kept.length + if outcome.duplicate then 0 else 1 := by
  have hingests := (ingest_ingests (caseRule_tenant request.tenantId)).runs hrun
  have hkeyed := h.keyed.ingest hrun
  have htenant := hingests.keeps h.tenant
  have hheld : ∀ finding ∈ s.findings, ∃ caseId, finding.caseId = some caseId ∧
      s'.Holds caseId := by
    intro finding hfinding
    obtain ⟨caseId, hcase, hholds⟩ := h.assigned finding hfinding
    exact ⟨caseId, hcase, hingests.holds caseId hholds⟩
  obtain ⟨source, existing, hsource, hrecognised, hanswer⟩ := hingests.returned outcome rfl
  obtain ⟨found, rfl, hanswered⟩ | ⟨rfl, hcreated⟩ := hanswer
  · have hkept : noteDocument S.platform request.tenantId kept request.raw = kept := by
      apply noteDocument_of_answered
      intro sighting hsighting
      rw [← h.seen]
      exact (recognised_isSome_iff h.keyed hsource hsighting hrecognised).mp rfl
    rw [hkept, hanswered.duplicate]
    refine ⟨⟨hkeyed, ?_, htenant, ?_⟩, rfl⟩
    · obtain ⟨-, heq, -⟩ | ⟨caseId, -, hassign, -⟩ := hanswered.answered
      · rw [heq, h.seen]
      · rw [sighting_of_assign h.keyed.ids hassign, h.seen]
    · obtain ⟨-, heq, -⟩ | ⟨caseId, hholds, hassign, -⟩ := hanswered.answered
      · rw [heq]
        exact hheld
      · intro finding hfinding
        obtain hcase | ⟨hmember, -⟩ := mem_of_assign h.keyed.ids hassign hfinding
        · exact ⟨caseId, hcase, hholds⟩
        · exact hheld finding hmember
  · obtain ⟨finding, middle, caseId, hbuilt, hput, hholds, hassign, -⟩ := hcreated.created
    have hmiddle := h.keyed.put (hbuilt.keyed hsource) hput
    obtain ⟨rfl, hid, -⟩ := FindingTable.put_eq_ok hput
    have hsighting := hbuilt.sighting_eq hsource
    have hfresh : ¬(finding.sighting S.platform).AnsweredIn kept := by
      rw [← h.seen]
      intro hanswered
      cases (recognised_isSome_iff h.keyed hsource hsighting hrecognised).mpr hanswered
    have hkept : noteDocument S.platform request.tenantId kept request.raw =
        kept ++ [finding.sighting S.platform] := by
      unfold noteDocument
      rw [hsighting]
      exact if_neg hfresh
    rw [hkept, hcreated.fresh]
    refine ⟨⟨hkeyed, ?_, htenant, ?_⟩, List.length_append⟩
    · rw [sighting_of_assign hmiddle.ids hassign, List.map_append, h.seen]
      rfl
    · intro row hrow
      obtain hcase | ⟨hmember, hother⟩ := mem_of_assign hmiddle.ids hassign hrow
      · exact ⟨caseId, hcase, hholds⟩
      · obtain hold | hnew := List.mem_append.mp hmember
        · exact hheld row hold
        · rw [List.mem_singleton.mp hnew] at hother
          exact absurd rfl hother

/-- The intake of a batch keeps the stores tracked and counts every kept document once. -/
theorem Tracked.ingestAll {C : ShadowSettings} {batch : IntakeBatch}
    {entries : List PreparedFinding} {outcomes : List IntakeOutcome}
    (h : Tracked C.platform tenantId kept s)
    (hrun : Runs world (ingestAll C batch tenantId entries) s (.ok outcomes) s') :
    Tracked C.platform tenantId
        ((entries.map PreparedFinding.document).foldl (noteDocument C.platform tenantId) kept) s' ∧
      ((entries.map PreparedFinding.document).foldl
        (noteDocument C.platform tenantId) kept).length +
        outcomes.countP IntakeOutcome.duplicate = kept.length + outcomes.length := by
  induction entries generalizing kept s outcomes with
  | nil =>
    cases hrun
    exact ⟨h, rfl⟩
  | cons entry rest ih =>
    unfold ElCapitan.ingestAll at hrun
    simp only [Prog.bind_eq, Prog.pure_eq] at hrun
    obtain ⟨outcome, middle, hfirst, hrun⟩ | ⟨e, -, hraised⟩ := hrun.of_bind
    · obtain ⟨others, last, hrest, hrun⟩ | ⟨e, -, hraised⟩ := hrun.of_bind
      · cases hrun
        obtain ⟨hmiddle, hone⟩ := h.ingest hfirst
        obtain ⟨hlast, htotal⟩ := ih hmiddle hrest
        refine ⟨hlast, ?_⟩
        dsimp only at hone htotal
        rw [List.map_cons, List.foldl_cons, List.countP_cons, List.length_cons]
        cases hduplicate : outcome.duplicate with
        | true =>
          simp only [hduplicate, if_true] at hone ⊢
          omega
        | false =>
          simp only [hduplicate, Bool.false_eq_true, if_false] at hone ⊢
          omega
      · cases hraised
    · cases hraised

end intake

section counting

variable {P : Platform} {findings : FindingTable}

end counting

section report

variable {R : ReportSettings} {stores : Stores} {finding : StoredFinding}

/-- Is a control registered for the rule? This is how the report looks it up. -/
def Sighting.registered (R : ReportSettings) (sighting : Sighting) : Bool :=
  (R.registry.get R.platform sighting.source.provider sighting.subject.ruleId "").isSome

/-- Is there one that decides on resources of the type? This is how the fleet looks it up. -/
def Sighting.decided (R : ReportSettings) (sighting : Sighting) : Bool :=
  (R.registry.get R.platform sighting.source.provider sighting.subject.ruleId
    sighting.resourceType).isSome

end report

section coverage

variable {R : ReportSettings} {tenantId : String} {document : Json} {records : List Document}
variable {prepared : PreparedIntake} {outcomes : List IntakeOutcome} {stores : Stores}
variable {report : OfflineReport}

end coverage

section samples

end samples

end ElCapitan
