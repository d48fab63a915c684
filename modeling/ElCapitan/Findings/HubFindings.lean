import ElCapitan.Base.Paths
import ElCapitan.Services.ShadowIntake

/-!
# Findings that survive conversion

A Security Hub finding with its fields of their ASFF types is converted to a document of which the
identity and the record are read without an error, unless the scanner that it names as its product
is Prowler: the outcome of a Prowler document is asked for in a field that no converted document
has.
-/

namespace ElCapitan

open Effects

section types

/-- A field that is absent, null or a text. -/
def TextIfAny (entries : Document) (name : String) : Prop :=
  entries.get name = .null ∨ ∃ s, entries.get name = .str s

/-- A field that is absent, null or a mapping. -/
def SectionIfAny (entries : Document) (name : String) : Prop :=
  entries.get name = .null ∨ ∃ d, entries.get name = .obj d

/-- A field that is absent, null or a list. -/
def ListIfAny (entries : Document) (name : String) : Prop :=
  entries.get name = .null ∨ ∃ items, entries.get name = .arr items

/-- An ASFF finding: what identifies it is filled in, and the fields that are read have the types of
the format. -/
structure HubFinding where
  entries : Document
  account : String
  id : String
  schemaVersion : String
  title : String
  resource : Document
  otherResources : List Json
  resourceId : String
  resourceType : String
  haccount : entries.lookup "AwsAccountId" = some (.str account)
  hid : entries.lookup "Id" = some (.str id)
  hversion : entries.lookup "SchemaVersion" = some (.str schemaVersion)
  htitle : entries.lookup "Title" = some (.str title)
  hresources : entries.lookup "Resources" = some (.arr (.obj resource :: otherResources))
  hresourceId : resource.lookup "Id" = some (.str resourceId)
  hresourceType : resource.lookup "Type" = some (.str resourceType)
  hfilled : ∀ text ∈ [account, id, schemaVersion, title, resourceId, resourceType], text ≠ ""
  hseverity : SectionIfAny entries "Severity"
  hcompliance : SectionIfAny entries "Compliance"
  hcontrol : TextIfAny ((entries.get "Compliance").obj?.getD []) "SecurityControlId"
  hstandards : ListIfAny ((entries.get "Compliance").obj?.getD []) "AssociatedStandards"
  hgenerator : TextIfAny entries "GeneratorId"
  hproduct : TextIfAny entries "ProductName"

namespace HubFinding

variable (f : HubFinding)

/-- The compliance section. -/
def compliance : Document := (f.entries.get "Compliance").obj?.getD []

/-- The scanner that reported the finding. -/
def product : String :=
  ((f.entries.get "ProductName").orElse (.str "Security Hub")).str?.getD ""

/-- The control of the compliance section, or the generator. -/
def ruleId : String :=
  if f.compliance.text "SecurityControlId" = "" then f.entries.text "GeneratorId"
  else f.compliance.text "SecurityControlId"

end HubFinding

end types

section conversion

variable {P : Platform} {dumps : Json → String} {f : HubFinding} {document : Document}

/-- A section that may be absent is read as an object. -/
theorem sectionOr_ifAny {entries : Document} {name : String} (h : SectionIfAny entries name) :
    sectionOr entries name = .ok ((entries.get name).obj?.getD []) := by
  unfold sectionOr
  rcases h with hnull | ⟨d, hobj⟩
  · rw [hnull]
    rfl
  · rw [hobj]
    cases d with
    | nil => rfl
    | cons entry d => rfl

/-- The metadata of a converted finding. -/
def HubFinding.metadata (f : HubFinding) : Document :=
  [("version", .str "1.1.0"),
    ("product", .obj [("name", .str f.product), ("vendor_name", .str "AWS"),
      ("version", .str f.schemaVersion)]),
    ("event_code", (f.compliance.get "SecurityControlId").orElse
      (f.entries.getText "GeneratorId"))]

/-- What is read of a converted finding. -/
structure HubFinding.Converted (f : HubFinding) (document : Document) : Prop where
  classUid : document.lookup "class_uid" = some (.int 2003)
  status : document.lookup "status_code" = none
  metadata : document.lookup "metadata" = some (.obj f.metadata)
  cloud : document.lookup "cloud" = some (.obj [("provider", .str "AWS"),
    ("region", f.entries.getText "Region"),
    ("account", .obj [("uid", .str f.account), ("type", .str "AWS Account")])])
  resources : ∃ region partition, document.lookup "resources" =
    some (.arr [.obj [("uid", .str f.resourceId), ("type", .str f.resourceType),
      ("region", region), ("cloud_partition", partition)]])
  findingInfo : ∃ description, document.lookup "finding_info" = some (.obj [("uid", .str f.id),
    ("title", .str f.title), ("desc", description)])
  unmapped : ∃ entries, document.lookup "unmapped" = some (.obj entries) ∧
    entries ≠ [] ∧ entries.lookup "prowler_check_id" = none

/-- Every finding is converted. -/
theorem HubFinding.converts (P : Platform) (dumps : Json → String) (f : HubFinding) :
    ∃ document, asffToOcsf P dumps f.entries = .ok document ∧ f.Converted document := by
  have hasff : raiseIf (isAsff f.entries = false)
      (valueError "not an ASFF finding: no SchemaVersion") = .ok () := by
    rw [raiseIf_eq_ok]
    simp [isAsff, f.hversion]
  have hfirst : firstItem (f.entries.get "Resources") = .ok (.obj f.resource) := by
    unfold Document.get
    rw [f.hresources]
    rfl
  have hstandards : ∃ ids, standardIds (((f.entries.get "Compliance").obj?.getD []).get
      "AssociatedStandards") = .ok ids := by
    rcases f.hstandards with hnull | ⟨items, harr⟩
    · rw [hnull]
      exact ⟨[], rfl⟩
    · rw [harr]
      exact ⟨_, rfl⟩
  obtain ⟨ids, hids⟩ := hstandards
  have hproduct : (f.entries.get "ProductName").orElse (.str "Security Hub") = .str f.product := by
    unfold HubFinding.product
    rcases f.hproduct with hnull | ⟨s, hstr⟩
    · rw [hnull]
      rfl
    · rw [hstr]
      unfold Json.orElse
      split
      · rfl
      · rfl
  unfold asffToOcsf
  rw [hasff, hfirst, sectionOr_ifAny f.hseverity, sectionOr_ifAny f.hcompliance]
  dsimp only [bind, Except.bind]
  rw [hids]
  have htext {entries : Document} {name text : String}
    (h : entries.lookup name = some (.str text)) :
      entries.getText name = .str text := by
    unfold Document.getText
    rw [h]
    rfl
  refine ⟨_, rfl, ?_⟩
  rw [hproduct, htext f.hversion, htext f.haccount, htext f.hid, htext f.htitle]
  have hresource : ((Json.obj f.resource).obj?.getD []) = f.resource := rfl
  rw [hresource, htext f.hresourceId, htext f.hresourceType]
  exact
    { classUid := rfl
      status := rfl
      metadata := rfl
      cloud := rfl
      resources := ⟨_, _, rfl⟩
      findingInfo := ⟨_, rfl⟩
      unmapped := ⟨_, rfl, by simp, rfl⟩ }

/-- A section of a converted finding. -/
theorem sectionOr_lookup {entries section' : Document} {name : String}
    (h : entries.lookup name = some (.obj section')) : sectionOr entries name = .ok section' := by
  have hget : entries.get name = .obj section' := by
    unfold Document.get
    rw [h]
    rfl
  rw [sectionOr_ifAny (Or.inr ⟨section', hget⟩), hget]
  rfl

/-- A present section is read as it is. -/
theorem sectionDefault_lookup {entries section' : Document} {name : String}
    (h : entries.lookup name = some (.obj section')) :
    sectionDefault entries name = .ok section' := by
  unfold sectionDefault
  rw [h]
  rfl

/-- A text that may be missing: it is empty, or its field is the text. -/
theorem textIfAny_cases {entries : Document} {name : String} (h : TextIfAny entries name) :
    (entries.text name = "" ∧ (entries.get name).truthy = false ∧
      (entries.getText name).truthy = false) ∨
    (entries.text name ≠ "" ∧ entries.get name = .str (entries.text name) ∧
      entries.getText name = .str (entries.text name)) := by
  unfold TextIfAny Document.get at h
  unfold Document.text Document.get Document.getText
  cases hlookup : entries.lookup name with
  | none => exact Or.inl ⟨rfl, rfl, rfl⟩
  | some value =>
    rw [hlookup] at h
    rcases h with hnull | ⟨text, htext⟩
    · obtain rfl : value = .null := hnull
      exact Or.inl ⟨rfl, rfl, rfl⟩
    · obtain rfl : value = .str text := htext
      by_cases hempty : text = ""
      · subst hempty
        exact Or.inl ⟨rfl, rfl, rfl⟩
      · exact Or.inr ⟨hempty, rfl, rfl⟩

/-- The finding names Prowler as its scanner. -/
def HubFinding.FromProwler (P : Platform) (f : HubFinding) : Prop :=
  P.lower (P.strip f.product) = "prowler"

instance : Decidable (f.FromProwler P) := inferInstanceAs (Decidable (_ = _))

namespace HubFinding.Converted

variable (h : f.Converted document)
include h

/-- A converted finding counts as one of Prowler where its product says so. -/
theorem isProwler : isProwler P document = .ok (decide (f.FromProwler P)) := by
  have hproduct : sectionOr f.metadata "product" = .ok [("name", .str f.product),
      ("vendor_name", .str "AWS"), ("version", .str f.schemaVersion)] := sectionOr_lookup rfl
  unfold ElCapitan.isProwler productName
  rw [sectionOr_lookup h.metadata]
  dsimp only [bind, Except.bind]
  rw [hproduct]
  rfl

/-- The outcome of a converted finding: none, unless its product is Prowler. -/
theorem prowlerOutcome_iff :
    (∃ outcome, prowlerOutcome P document = .ok outcome) ↔ ¬f.FromProwler P := by
  have hstatus : (document.get "status_code").str? = none := by
    unfold Document.get
    rw [h.status]
    rfl
  unfold prowlerOutcome
  rw [h.isProwler]
  dsimp only [bind, Except.bind]
  rw [hstatus]
  by_cases hprowler : f.FromProwler P
  · simp [hprowler, prowlerOutcomes, throw, throwThe, MonadExceptOf.throw]
  · simp [hprowler, pure, Except.pure]

/-- The rule of a converted finding. -/
theorem findingRuleId : findingRuleId P document = .ok f.ruleId := by
  obtain ⟨description, hinfo⟩ := h.findingInfo
  obtain ⟨entries, hunmapped, _, hcheck⟩ := h.unmapped
  unfold ElCapitan.findingRuleId
  rw [sectionOr_lookup h.metadata, sectionOr_lookup hinfo, sectionOr_lookup hunmapped]
  have hanalytic : sectionOr [("uid", .str f.id), ("title", .str f.title), ("desc", description)]
      "analytic" = .ok [] := rfl
  have hmissing : (Document.get entries "prowler_check_id").truthy = false := by
    unfold Document.get
    rw [hcheck]
    rfl
  have hcode : f.metadata.get "event_code" = (f.compliance.get "SecurityControlId").orElse
      (f.entries.getText "GeneratorId") := rfl
  dsimp only [bind, Except.bind]
  rw [hanalytic]
  dsimp only
  have hnull : (Document.get [] "uid").truthy = false := rfl
  have htruthy {text : String} (htext : text ≠ "") : (Json.str text).truthy = true := by
    simpa [Json.truthy] using htext
  rw [List.find?_cons, hnull, List.find?_cons, hcode, List.find?_cons, hmissing]
  have hcontrols : TextIfAny f.compliance "SecurityControlId" := f.hcontrol
  unfold HubFinding.ruleId Json.orElse
  rcases textIfAny_cases hcontrols with ⟨hempty, hcontrol, _⟩ | ⟨hfull, hcontrol, _⟩
  · rw [if_pos hempty, hcontrol]
    rcases textIfAny_cases f.hgenerator with ⟨hgenerator, _, hfalse⟩ | ⟨hgenerator, _, htext⟩
    · simp [hfalse, hgenerator, Platform.str, pure, Except.pure]
    · simp [htext, htruthy hgenerator, Platform.str, pure, Except.pure]
  · rw [if_neg hfull, hcontrol]
    simp [htruthy hfull, Platform.str, pure, Except.pure]

/-- The first resource of a converted finding. -/
theorem primaryResource : ∃ region partition, primaryResource document =
    .ok (.obj [("uid", .str f.resourceId), ("type", .str f.resourceType), ("region", region),
      ("cloud_partition", partition)]) := by
  obtain ⟨region, partition, hresources⟩ := h.resources
  refine ⟨region, partition, ?_⟩
  unfold ElCapitan.primaryResource Document.get
  rw [hresources]
  rfl

/-- The target of a converted finding. -/
theorem cloudTarget (hlower : P.lower "AWS" = "aws") :
    ∃ region, cloudTarget P document = .ok ("aws", .str f.resourceId, region) := by
  obtain ⟨region, partition, hfirst⟩ := h.primaryResource
  unfold ElCapitan.cloudTarget
  rw [sectionOr_lookup h.cloud, hfirst]
  rw [← hlower]
  exact ⟨_, rfl⟩

/-- The identity of a converted finding of another scanner than Prowler: its account and its id. -/
theorem sourceIdentity (hlower : P.lower "AWS" = "aws") (hprowler : ¬f.FromProwler P) :
    sourceIdentity P document = .ok ("aws", f.account, f.id) := by
  obtain ⟨region, htarget⟩ := h.cloudTarget hlower
  obtain ⟨description, hinfo⟩ := h.findingInfo
  have haccount : sectionOr [("provider", .str "AWS"), ("region", f.entries.getText "Region"),
      ("account", .obj [("uid", .str f.account), ("type", .str "AWS Account")])] "account" =
      .ok [("uid", .str f.account), ("type", .str "AWS Account")] := sectionOr_lookup rfl
  have hmissing : missingTexts [("provider", .str "aws"), ("account", .str f.account),
      ("original_uid", .str f.id)] = [] := by
    have hfilled := f.hfilled
    simp only [List.mem_cons, List.not_mem_nil, or_false, forall_eq_or_imp] at hfilled
    simp [missingTexts, Json.str?, hfilled.1, hfilled.2.1]
  unfold ElCapitan.sourceIdentity
  rw [htarget, sectionOr_lookup h.cloud, sectionOr_lookup hinfo, h.isProwler]
  dsimp only [bind, Except.bind]
  rw [haccount]
  have haccountUid :
      Document.getText [("uid", .str f.account), ("type", .str "AWS Account")] "uid" =
      .str f.account := rfl
  have hidUid : Document.getText [("uid", .str f.id), ("title", .str f.title),
      ("desc", description)] "uid" = .str f.id := rfl
  dsimp only
  rw [haccountUid, hidUid, hmissing, decide_eq_false hprowler]
  rfl

/-- The record of a converted finding. -/
theorem normalisedRecord (hlower : P.lower "AWS" = "aws") (findingId : String)
    (rawRef : Document) : ∃ record, normalisedRecord P document findingId rawRef = .ok record ∧
      (Json.obj record).at? [.key "provenance", .key "provider"] = some (.str "aws") ∧
      (Json.obj record).at? [.key "provenance", .key "account"] = some (.str f.account) ∧
      (Json.obj record).at? [.key "resource", .key "uid"] = some (.str f.resourceId) ∧
      (Json.obj record).at? [.key "ocsf", .key "rule_id"] = some (.str f.ruleId) := by
  obtain ⟨region, htarget⟩ := h.cloudTarget hlower
  obtain ⟨description, hinfo⟩ := h.findingInfo
  obtain ⟨place, partition, hfirst⟩ := h.primaryResource
  obtain ⟨entries, hunmapped, _, _⟩ := h.unmapped
  have hproduct : sectionDefault f.metadata "product" = .ok [("name", .str f.product),
      ("vendor_name", .str "AWS"), ("version", .str f.schemaVersion)] := sectionDefault_lookup rfl
  have haccount : sectionDefault [("provider", .str "AWS"),
      ("region", f.entries.getText "Region"),
      ("account", .obj [("uid", .str f.account), ("type", .str "AWS Account")])] "account" =
      .ok [("uid", .str f.account), ("type", .str "AWS Account")] := sectionDefault_lookup rfl
  unfold ElCapitan.normalisedRecord
  rw [sectionDefault_lookup h.metadata, sectionDefault_lookup hinfo, h.findingRuleId,
    sectionDefault_lookup h.cloud, htarget, hfirst, hunmapped]
  dsimp only [bind, Except.bind]
  rw [hproduct]
  dsimp only
  rw [haccount]
  exact ⟨_, rfl, rfl, rfl, rfl, rfl⟩

/-- A converted finding is normalized once its raw event is stored. -/
theorem normaliseOcsf (hlower : P.lower "AWS" = "aws") (runDir findingId : String)
    (collector : Collector) (now : String) : ∃ record : EvidenceRef → Document,
      normaliseOcsf P document runDir findingId collector now =
        (do let rawRef ← writeEvidence P runDir "EVD-001" "scanner_raw_event"
              (P.canonical (.obj document)) collector "internal" "CMD-000" now
            return record rawRef) ∧
      ∀ rawRef, ElCapitan.normalisedRecord P document findingId rawRef.toDict =
        .ok (record rawRef) := by
  obtain ⟨region, htarget⟩ := h.cloudTarget hlower
  obtain ⟨place, partition, hfirst⟩ := h.primaryResource
  have hrecords : ∀ rawRef : EvidenceRef, ∃ record,
      ElCapitan.normalisedRecord P document findingId rawRef.toDict = .ok record := by
    intro rawRef
    obtain ⟨record, hrecord, _⟩ := h.normalisedRecord hlower findingId rawRef.toDict
    exact ⟨record, hrecord⟩
  choose record hrecord using hrecords
  refine ⟨record, ?_, hrecord⟩
  unfold ElCapitan.normaliseOcsf
  rw [h.classUid, sectionDefault_lookup h.metadata, hfirst, htarget]
  simp only [hrecord]
  rfl

end HubFinding.Converted

/-- The identity of a finding, once it is converted. -/
def hubIdentity (P : Platform) (dumps : Json → String) (finding : Document) :
    Except PyError (String × String × String) := do
  let document ← asffToOcsf P dumps finding
  sourceIdentity P document

/-- A finding survives: it is converted, its outcome and its identity are read, and normalization
returns the record of its account, its resource and its rule once the raw event is stored. -/
def HubFinding.Survives (P : Platform) (dumps : Json → String) (f : HubFinding) : Prop :=
  ∃ document, asffToOcsf P dumps f.entries = .ok document ∧
    (∃ outcome, prowlerOutcome P document = .ok outcome) ∧
    (∃ source, sourceIdentity P document = .ok source) ∧
    ∀ runDir findingId collector now, ∃ record : EvidenceRef → Document,
      normaliseOcsf P document runDir findingId collector now =
        (do let rawRef ← writeEvidence P runDir "EVD-001" "scanner_raw_event"
              (P.canonical (.obj document)) collector "internal" "CMD-000" now
            return record rawRef) ∧
      ∀ rawRef,
        (Json.obj (record rawRef)).at? [.key "provenance", .key "provider"] =
          some (.str "aws") ∧
        (Json.obj (record rawRef)).at? [.key "provenance", .key "account"] =
          some (.str f.account) ∧
        (Json.obj (record rawRef)).at? [.key "resource", .key "uid"] =
          some (.str f.resourceId) ∧
        (Json.obj (record rawRef)).at? [.key "ocsf", .key "rule_id"] = some (.str f.ruleId)

/-- A finding of another scanner than Prowler survives. -/
theorem HubFinding.survives (hlower : P.lower "AWS" = "aws") (hprowler : ¬f.FromProwler P) :
    f.Survives P dumps := by
  obtain ⟨document, hdocument, h⟩ := f.converts P dumps
  refine ⟨document, hdocument, h.prowlerOutcome_iff.mpr hprowler,
    ⟨_, h.sourceIdentity hlower hprowler⟩, fun runDir findingId collector now => ?_⟩
  obtain ⟨record, hrun, hrecord⟩ := h.normaliseOcsf hlower runDir findingId collector now
  refine ⟨record, hrun, fun rawRef => ?_⟩
  obtain ⟨found, hfound, hfields⟩ := h.normalisedRecord hlower findingId rawRef.toDict
  rw [hrecord rawRef] at hfound
  rwa [Except.ok.inj hfound]

/-- A finding that survives is not of Prowler. -/
theorem HubFinding.Survives.not_prowler (hsurvives : f.Survives P dumps) : ¬f.FromProwler P := by
  obtain ⟨document, hdocument, houtcome, _⟩ := hsurvives
  obtain ⟨converted, hconverted, h⟩ := f.converts P dumps
  rw [hdocument] at hconverted
  obtain rfl := Except.ok.inj hconverted
  exact h.prowlerOutcome_iff.mp houtcome

/-- The identity of a finding of another scanner than Prowler. -/
theorem HubFinding.hubIdentity_eq (hlower : P.lower "AWS" = "aws") (hprowler : ¬f.FromProwler P) :
    hubIdentity P dumps f.entries = .ok ("aws", f.account, f.id) := by
  obtain ⟨document, hdocument, h⟩ := f.converts P dumps
  unfold hubIdentity
  rw [hdocument]
  exact h.sourceIdentity hlower hprowler

end conversion

/-- Two findings survive, with one identity exactly when their accounts and their ids are equal, if
and only if neither of them names Prowler as its scanner. -/
theorem hub_findings_survive_iff (P : Platform) (dumps : Json → String)
    (hlower : P.lower "AWS" = "aws") (f g : HubFinding) :
    (f.Survives P dumps ∧ g.Survives P dumps ∧
      (hubIdentity P dumps f.entries = hubIdentity P dumps g.entries ↔
        f.account = g.account ∧ f.id = g.id)) ↔
    ¬f.FromProwler P ∧ ¬g.FromProwler P := by
  constructor
  · rintro ⟨hf, hg, _⟩
    exact ⟨hf.not_prowler, hg.not_prowler⟩
  · rintro ⟨hf, hg⟩
    refine ⟨HubFinding.survives hlower hf, HubFinding.survives hlower hg, ?_⟩
    rw [HubFinding.hubIdentity_eq hlower hf, HubFinding.hubIdentity_eq hlower hg]
    simp

/-- A finding of an account, reported by a scanner. -/
def accountFinding (scanner : String) : HubFinding where
  entries := [("SchemaVersion", .str "2018-10-08"), ("Id", .str "arn:finding/1"),
    ("AwsAccountId", .str "331145994818"), ("ProductName", .str scanner),
    ("GeneratorId", .str "security-control/IAM.6"),
    ("Title", .str "Hardware MFA should be enabled for the root user"),
    ("Severity", .obj [("Label", .str "CRITICAL")]),
    ("Resources", .arr [.obj [("Type", .str "AwsAccount"),
      ("Id", .str "AWS::::Account:331145994818")]]),
    ("Compliance", .obj [("Status", .str "FAILED"), ("SecurityControlId", .str "IAM.6")])]
  account := "331145994818"
  id := "arn:finding/1"
  schemaVersion := "2018-10-08"
  title := "Hardware MFA should be enabled for the root user"
  resource := [("Type", .str "AwsAccount"), ("Id", .str "AWS::::Account:331145994818")]
  otherResources := []
  resourceId := "AWS::::Account:331145994818"
  resourceType := "AwsAccount"
  haccount := rfl
  hid := rfl
  hversion := rfl
  htitle := rfl
  hresources := rfl
  hresourceId := rfl
  hresourceType := rfl
  hfilled := by decide
  hseverity := Or.inr ⟨_, rfl⟩
  hcompliance := Or.inr ⟨_, rfl⟩
  hcontrol := Or.inr ⟨_, rfl⟩
  hstandards := Or.inl rfl
  hgenerator := Or.inr ⟨_, rfl⟩
  hproduct := Or.inr ⟨_, rfl⟩

/-- A finding that Prowler reported to Security Hub is rejected for a field that no converted
document has. -/
theorem prowler_hub_finding_rejected :
    ¬(accountFinding "Prowler").Survives samplePlatform (fun _ => "{}") := by
  intro h
  exact h.not_prowler (by decide)

/-- A finding of Security Hub itself survives, with a finding of another scanner of one account. -/
theorem hub_findings_survive_sample :
    (accountFinding "Security Hub").Survives samplePlatform (fun _ => "{}") ∧
      (accountFinding "GuardDuty").Survives samplePlatform (fun _ => "{}") ∧
      (hubIdentity samplePlatform (fun _ => "{}") (accountFinding "Security Hub").entries =
        hubIdentity samplePlatform (fun _ => "{}") (accountFinding "GuardDuty").entries ↔
        (accountFinding "Security Hub").account = (accountFinding "GuardDuty").account ∧
          (accountFinding "Security Hub").id = (accountFinding "GuardDuty").id) :=
  (hub_findings_survive_iff samplePlatform (fun _ => "{}") (by decide)
    (accountFinding "Security Hub") (accountFinding "GuardDuty")).mpr
    ⟨by decide, by decide⟩

end ElCapitan
