import ElCapitan.Base.Canonical
import ElCapitan.Base.Paths
import ElCapitan.Findings.Failures
import ElCapitan.Services.IntakeRuns

/-!
# Duplicates of Prowler findings

Two schemes of keys share the uniqueness index of the findings: rows of older deployments and
of other producers are stored under their producer's uid, Prowler rows under a digest of the
uid, the rule and the resource. A Prowler document is answered with the row of its subject if
there is one, unless a producer's uid spells out a key of the other scheme.
-/

namespace ElCapitan

open Effects

/-- What a finding is about, as its producer says: the uid, the rule and the resource. -/
structure Subject where
  uid : String
  ruleId : String
  resourceUid : String
  deriving DecidableEq

/-- The subject of a stored finding, read from its record. -/
def StoredFinding.subject (P : Platform) (finding : StoredFinding) : Subject :=
  let ocsf := (finding.record.get "ocsf").obj?.getD []
  ⟨ocsf.text "original_uid", P.str (ocsf.getText "rule_id"), finding.resourceUid⟩

/-- The subject of a document. -/
def subjectOf (P : Platform) (raw : Document) : Except PyError Subject := do
  let findingInfo ← sectionOr raw "finding_info"
  let ruleId ← findingRuleId P raw
  let (_, resourceUid, _) ← cloudTarget P raw
  return ⟨findingInfo.text "uid", ruleId, resourceUid.str?.getD ""⟩

/-- The document that a Prowler key is the digest of. -/
def Subject.scoped (subject : Subject) : Json :=
  .obj [("uid", .str subject.uid), ("rule_id", .str subject.ruleId),
    ("resource_uid", .str subject.resourceUid)]

/-- The key of a Prowler finding. -/
def prowlerKey (P : Platform) (subject : Subject) : String :=
  "prowler:" ++ P.canonicalHash subject.scoped

/-- A row under the key of one of the two schemes. -/
def StoredFinding.Keyed (P : Platform) (finding : StoredFinding) : Prop :=
  finding.originalUid = (finding.subject P).uid ∨
    finding.originalUid = prowlerKey P (finding.subject P)

/-- A finding table as the schema and the key schemes have it. -/
structure KeyedTable (P : Platform) (findings : FindingTable) : Prop where
  ids : (findings.map StoredFinding.findingId).Nodup
  sources : (findings.map StoredFinding.source).Nodup
  keyed : ∀ finding ∈ findings, finding.Keyed P

section keys

variable {P : Platform} {subject subject' : Subject}

/-- The canonical text of a scoped subject, from which the spelled-out key is hashed. -/
theorem scoped_canonical : (P.canonical subject.scoped).toList =
    '\x7b' :: ((quoted "resource_uid").toList ++ ':' :: ((quoted subject.resourceUid).toList ++
      ',' :: ((quoted "rule_id").toList ++ ':' :: ((quoted subject.ruleId).toList ++
        ',' :: ((quoted "uid").toList ++ ':' :: ((quoted subject.uid).toList ++ ['\x7d'])))))) := by
  have hpair : ¬"rule_id" ≤ "resource_uid" := by decide
  have hrule : ¬"uid" ≤ "rule_id" := by decide
  have hresource : ¬"uid" ≤ "resource_uid" := by decide
  have hfields : (canonicalEntries P.floatRepr [("uid", .str subject.uid),
      ("rule_id", .str subject.ruleId), ("resource_uid", .str subject.resourceUid)]).foldr
        insertEntry [] =
      [("resource_uid", quoted subject.resourceUid), ("rule_id", quoted subject.ruleId),
        ("uid", quoted subject.uid)] := by
    simp only [canonicalEntries, canonicalJson, List.foldr_cons, List.foldr_nil]
    rw [insertEntry, insertEntry, if_neg hpair, insertEntry, insertEntry, if_neg hresource,
      insertEntry, if_neg hrule, insertEntry]
  have hjoin : ∀ a b c : String, ",".intercalate [a, b, c] = a ++ "," ++ b ++ "," ++ c :=
    fun _ _ _ => rfl
  unfold Platform.canonical Subject.scoped
  rw [canonicalJson, hfields]
  simp only [List.map_cons, List.map_nil, hjoin, String.toList_append, List.append_assoc]
  rfl

/-- Under a hash without collisions, a Prowler key has one subject. -/
theorem prowlerKey_injective (hsha : Function.Injective P.sha256Hex)
    (h : prowlerKey P subject = prowlerKey P subject') : subject = subject' := by
  have hdigest := congrArg String.toList h
  unfold prowlerKey at hdigest
  rw [String.toList_append, String.toList_append, List.append_cancel_left_eq,
    String.toList_inj] at hdigest
  have htext := congrArg String.toList (hsha hdigest)
  rw [scoped_canonical, scoped_canonical] at htext
  have htext := List.append_cancel_left (List.cons.inj htext).2
  obtain ⟨hresource, htext⟩ := quoted_selfDelimiting (List.cons.inj htext).2
  have htext := List.append_cancel_left (List.cons.inj htext).2
  obtain ⟨hrule, htext⟩ := quoted_selfDelimiting (List.cons.inj htext).2
  have htext := List.append_cancel_left (List.cons.inj htext).2
  obtain ⟨huid, -⟩ := quoted_selfDelimiting (List.cons.inj htext).2
  cases subject
  cases subject'
  simp only [Subject.mk.injEq]
  exact ⟨huid, hrule, hresource⟩

/-- Where no name is missing, every value is a non-empty text. -/
theorem missingTexts_eq_nil {values : Document} (h : missingTexts values = []) :
    ∀ entry ∈ values, ∃ text, entry.2 = .str text ∧ text ≠ "" := by
  intro entry hmem
  unfold missingTexts at h
  rw [List.map_eq_nil_iff, List.filter_eq_nil_iff] at h
  have hvalue := h entry hmem
  cases hentry : entry.2 with
  | str text =>
    refine ⟨text, rfl, ?_⟩
    rintro rfl
    simp [hentry, Json.str?] at hvalue
  | _ => simp [hentry, Json.str?] at hvalue

end keys

section identity

variable {P : Platform} {raw : Document} {provider account key : String}

/-- A section that is used as a mapping with a default is the one used with `or`. -/
theorem sectionOr_of_default {name : String} {entries : Document}
    (h : sectionDefault raw name = .ok entries) : sectionOr raw name = .ok entries := by
  unfold sectionDefault at h
  unfold sectionOr Document.get
  cases hlookup : raw.lookup name with
  | none =>
    rw [hlookup] at h
    obtain rfl := Except.ok.inj h
    rfl
  | some value =>
    rw [hlookup] at h
    cases value with
    | obj found =>
      obtain rfl := Except.ok.inj h
      cases found with
      | nil => rfl
      | cons entry rest => rfl
    | _ => cases h

/-- A text that is present is the text of its entry. -/
theorem text_of_getText {document : Document} {name : String} :
    (document.getText name).str?.getD "" = document.text name := by
  unfold Document.getText Document.text
  cases document.lookup name with
  | none => rfl
  | some value => rfl

/-- The uid of a subject is that of the document. -/
theorem subjectOf_uid {subject : Subject} {findingInfo : Document}
    (hinfo : sectionOr raw "finding_info" = .ok findingInfo)
    (h : subjectOf P raw = .ok subject) : findingInfo.text "uid" = subject.uid := by
  unfold subjectOf at h
  rw [hinfo] at h
  obtain ⟨found, hfound, h⟩ := except_bind_eq_ok.mp h
  obtain ⟨ruleId, -, h⟩ := except_bind_eq_ok.mp h
  obtain ⟨target, -, h⟩ := except_bind_eq_ok.mp h
  obtain rfl := Except.ok.inj hfound
  exact congrArg Subject.uid (Except.ok.inj h)

/-- The identity of a document: a Prowler document has the key of its subject, another one its
producer's uid. -/
theorem sourceIdentity_eq_ok (h : sourceIdentity P raw = .ok (provider, account, key)) :
    ∃ findingInfo, sectionOr raw "finding_info" = .ok findingInfo ∧
      findingInfo.text "uid" ≠ "" ∧
      (isProwler P raw = .ok false ∧ key = findingInfo.text "uid" ∨
        isProwler P raw = .ok true ∧ ∃ subject region, subjectOf P raw = .ok subject ∧
          cloudTarget P raw = .ok (provider, .str subject.resourceUid, region) ∧
          key = prowlerKey P subject) := by
  unfold sourceIdentity at h
  obtain ⟨⟨provider', resourceUid, region⟩, htarget, h⟩ := except_bind_eq_ok.mp h
  obtain ⟨cloud, hcloud, h⟩ := except_bind_eq_ok.mp h
  obtain ⟨accountSection, haccount, h⟩ := except_bind_eq_ok.mp h
  obtain ⟨findingInfo, hinfo, h⟩ := except_bind_eq_ok.mp h
  obtain ⟨_, hmissing, h⟩ := except_bind_eq_ok.mp h
  obtain ⟨prowler, hprowler, h⟩ := except_bind_eq_ok.mp h
  have hmissing := not_not.mp (raiseIf_eq_ok.mp hmissing)
  have hnamed := missingTexts_eq_nil hmissing
  simp only [List.forall_mem_cons] at hnamed
  obtain ⟨-, -, ⟨uid, huid, hne⟩, -⟩ := hnamed
  have htext : findingInfo.text "uid" = uid := by
    rw [← text_of_getText, huid]
    rfl
  refine ⟨findingInfo, hinfo, by rwa [htext], ?_⟩
  cases prowler with
  | false =>
    cases h
    refine .inl ⟨hprowler, ?_⟩
    rw [text_of_getText]
  | true =>
    rw [if_pos rfl] at h
    obtain ⟨ruleId, hrule, h⟩ := except_bind_eq_ok.mp h
    obtain ⟨_, hscoped, h⟩ := except_bind_eq_ok.mp h
    have hscoped := not_not.mp (raiseIf_eq_ok.mp hscoped)
    have hscoped := missingTexts_eq_nil hscoped
    simp only [List.forall_mem_cons] at hscoped
    obtain ⟨-, -, ⟨resource, hresource, -⟩, -⟩ := hscoped
    cases h
    refine .inr ⟨hprowler, ⟨uid, ruleId, resource⟩, region, ?_, ?_, ?_⟩
    · unfold subjectOf
      rw [hinfo, hrule, htarget, hresource, ← htext]
      rfl
    · rw [htarget, hresource]
    · rw [huid, hresource]
      rfl

/-- What the record of a normalised document says of its subject and its resource. -/
theorem normalisedRecord_subject {findingId : String} {rawRef record : Document}
    (h : normalisedRecord P raw findingId rawRef = .ok record) :
    ∃ findingInfo ruleId, sectionOr raw "finding_info" = .ok findingInfo ∧
      findingRuleId P raw = .ok ruleId ∧
      ∃ ocsf : Document, record.lookup "ocsf" = some (.obj ocsf) ∧
        ocsf.text "original_uid" = findingInfo.text "uid" ∧
        ocsf.getText "rule_id" = .str ruleId := by
  unfold normalisedRecord at h
  obtain ⟨metadata, -, h⟩ := except_bind_eq_ok.mp h
  obtain ⟨findingInfo, hinfo, h⟩ := except_bind_eq_ok.mp h
  obtain ⟨ruleId, hrule, h⟩ := except_bind_eq_ok.mp h
  obtain ⟨product, -, h⟩ := except_bind_eq_ok.mp h
  obtain ⟨cloud, -, h⟩ := except_bind_eq_ok.mp h
  obtain ⟨accountSection, -, h⟩ := except_bind_eq_ok.mp h
  obtain ⟨⟨provider, resourceUid, region⟩, -, h⟩ := except_bind_eq_ok.mp h
  obtain ⟨first, -, h⟩ := except_bind_eq_ok.mp h
  obtain ⟨primary, -, h⟩ := except_bind_eq_ok.mp h
  obtain ⟨unmapped, -, h⟩ := except_bind_eq_ok.mp h
  obtain rfl := Except.ok.inj h
  refine ⟨findingInfo, ruleId, sectionOr_of_default hinfo, hrule, _, rfl, ?_, rfl⟩
  rw [← text_of_getText, ← text_of_getText]
  rfl

/-- A finding that was built from a document has its subject. -/
theorem BuiltFinding.subject_eq {source : SourceKey} {finding : StoredFinding}
    (h : BuiltFinding P raw source finding) : subjectOf P raw = .ok (finding.subject P) := by
  obtain ⟨findingId, rawRef, normalised, hnormalised, hrecord⟩ := h.record
  obtain ⟨provider, resourceUid, region, htarget, hresource⟩ := h.target
  obtain ⟨findingInfo, ruleId, hinfo, hrule, ocsf, hocsf, huid, hruleText⟩ :=
    normalisedRecord_subject hnormalised
  have hlookup : finding.record.lookup "ocsf" = some (.obj ocsf) := by
    obtain heq | ⟨extensions, heq⟩ := hrecord
    · rw [heq, hocsf]
    · rw [heq, Document.lookup_set_other (by decide), hocsf]
  have hsection : (finding.record.get "ocsf").obj?.getD [] = ocsf := by
    unfold Document.get
    rw [hlookup]
    rfl
  unfold subjectOf StoredFinding.subject
  dsimp only
  rw [hinfo, hrule, htarget, hsection, huid, hruleText, hresource]
  rfl

end identity

section tables

variable {P : Platform} {findings findings' : FindingTable} {finding found : StoredFinding}
variable {findingId caseId : String}

/-- An assignment changes the case of one finding, and nothing else of any. -/
theorem assign_map {γ : Type} {f : StoredFinding → γ}
    (hf : ∀ finding caseId, f { finding with caseId := caseId } = f finding)
    (hids : (findings.map StoredFinding.findingId).Nodup)
    (h : findings.assign findingId caseId = .ok findings') : findings'.map f = findings.map f := by
  obtain ⟨found, hfound, -, rfl⟩ := FindingTable.assign_eq_ok h
  split
  · unfold Rows.replace
    rw [List.map_map]
    apply List.map_congr_left
    intro row hrow
    by_cases hid : row.findingId = found.findingId
    · have hsame := Rows.find_of_mem hids hrow
      rw [hid, Rows.key_of_find hfound, hfound] at hsame
      obtain rfl := Option.some.inj hsame
      simp [hf]
    · simp [hid]
  · rfl

/-- A finding that is assigned is found as it was, under its case. -/
theorem get_of_assign (hids : (findings.map StoredFinding.findingId).Nodup)
    (hfound : found ∈ findings) (h : findings.assign found.findingId caseId = .ok findings')
    (hget : findings'.get found.findingId = .ok finding) :
    finding = { found with caseId := some caseId } := by
  obtain ⟨row, hrow, hcase, rfl⟩ := FindingTable.assign_eq_ok h
  have hsame := Rows.find_of_mem hids hfound
  rw [hsame] at hrow
  obtain rfl := Option.some.inj hrow
  have hnew : Rows.find StoredFinding.findingId
      (if found.caseId = none then Rows.replace StoredFinding.findingId findings
        { found with caseId := some caseId } else findings) found.findingId =
      some { found with caseId := some caseId } := by
    by_cases hnone : found.caseId = none
    · rw [if_pos hnone]
      apply Rows.find_replace_self
      rw [hsame]
      exact Option.some_ne_none _
    · rw [if_neg hnone, hsame, ← hcase.resolve_left hnone]
  unfold FindingTable.get at hget
  rw [hnew] at hget
  exact (Except.ok.inj hget).symm

/-- Assigning a finding to a case keeps the keys of the table. -/
theorem KeyedTable.assign (h : KeyedTable P findings)
    (hassign : findings.assign findingId caseId = .ok findings') : KeyedTable P findings' := by
  have hmap : ∀ {γ : Type} {f : StoredFinding → γ},
      (∀ finding caseId, f { finding with caseId := caseId } = f finding) →
        findings'.map f = findings.map f := fun hf => assign_map hf h.ids hassign
  refine ⟨?_, ?_, ?_⟩
  · rw [hmap fun _ _ => rfl]
    exact h.ids
  · rw [hmap fun _ _ => rfl]
    exact h.sources
  · intro finding hfinding
    have hmem := List.mem_map_of_mem (f := fun row : StoredFinding => (row.originalUid,
      row.subject P)) hfinding
    rw [hmap fun _ _ => rfl] at hmem
    obtain ⟨row, hrow, heq⟩ := List.mem_map.mp hmem
    obtain ⟨huid, hsubject⟩ := Prod.mk.inj heq
    have hkeyed := h.keyed row hrow
    unfold StoredFinding.Keyed at hkeyed ⊢
    rwa [huid, hsubject] at hkeyed

/-- Putting a keyed finding keeps the keys of the table. -/
theorem KeyedTable.put (h : KeyedTable P findings) (hfinding : finding.Keyed P)
    (hput : findings.put finding = .ok findings') : KeyedTable P findings' := by
  obtain ⟨rfl, hid, hsource⟩ := FindingTable.put_eq_ok hput
  refine ⟨?_, ?_, ?_⟩
  · rw [List.map_append, List.nodup_append]
    refine ⟨h.ids, List.nodup_singleton _, ?_⟩
    rintro a ha b hb rfl
    obtain ⟨row, hrow, rfl⟩ := List.mem_map.mp ha
    exact hid row hrow (List.mem_singleton.mp hb)
  · rw [List.map_append, List.nodup_append]
    refine ⟨h.sources, List.nodup_singleton _, ?_⟩
    rintro a ha b hb rfl
    obtain ⟨row, hrow, rfl⟩ := List.mem_map.mp ha
    exact hsource row hrow (List.mem_singleton.mp hb)
  · intro row hrow
    obtain hold | hnew := List.mem_append.mp hrow
    · exact h.keyed row hold
    · rw [List.mem_singleton.mp hnew]
      exact hfinding

/-- The source of a request is the identity of its document for its tenant. -/
theorem intakeSource_eq_ok {S : Settings} {request : IntakeRequest} {source : SourceKey}
    (h : intakeSource S request = .ok source) : source.tenantId = request.tenantId ∧
      sourceIdentity S.platform request.raw =
        .ok (source.provider, source.account, source.originalUid) := by
  unfold intakeSource at h
  obtain ⟨_, -, h⟩ := except_bind_eq_ok.mp h
  obtain ⟨outcome, -, h⟩ := except_bind_eq_ok.mp h
  obtain ⟨_, -, h⟩ := except_bind_eq_ok.mp h
  obtain ⟨⟨provider, account, originalUid⟩, hidentity, h⟩ := except_bind_eq_ok.mp h
  obtain rfl := Except.ok.inj h
  exact ⟨rfl, hidentity⟩

/-- What an ingest puts is under a key of one of the schemes. -/
theorem BuiltFinding.keyed {S : Settings} {request : IntakeRequest} {source : SourceKey}
    (hsource : intakeSource S request = .ok source)
    (h : BuiltFinding S.platform request.raw source finding) : finding.Keyed S.platform := by
  obtain ⟨-, hidentity⟩ := intakeSource_eq_ok hsource
  obtain ⟨findingInfo, hinfo, -, hkey⟩ := sourceIdentity_eq_ok hidentity
  have hsubject := h.subject_eq
  have huid : finding.originalUid = source.originalUid := by
    rw [← h.source_eq]
    rfl
  unfold StoredFinding.Keyed
  rw [huid]
  obtain ⟨-, heq⟩ | ⟨-, subject, region, hsubject', -, heq⟩ := hkey
  · refine .inl ?_
    rw [heq]
    unfold subjectOf at hsubject
    obtain ⟨findingInfo', hinfo', hsubject⟩ := except_bind_eq_ok.mp hsubject
    obtain ⟨ruleId, -, hsubject⟩ := except_bind_eq_ok.mp hsubject
    obtain ⟨target, -, hsubject⟩ := except_bind_eq_ok.mp hsubject
    rw [hinfo] at hinfo'
    obtain rfl := Except.ok.inj hinfo'
    have hsubject := Except.ok.inj hsubject
    rw [← hsubject]
  · refine .inr ?_
    rw [heq]
    rw [hsubject] at hsubject'
    rw [Except.ok.inj hsubject']

/-- Stores reached by one worker's ingests. -/
inductive IngestHistory (S : Settings) : Stores → Stores → Prop
  | start (s : Stores) : IngestHistory S s s
  | next {s s' s'' : Stores} {request : IntakeRequest} {out : Except PyError IntakeOutcome}
    (before : IngestHistory S s s') (hrun : Runs world (ingest S request) s' out s'') :
    IngestHistory S s s''

/-- Transitions keep what holds of every case. -/
theorem caseRule_true (tenantId : String) : CaseRule tenantId fun _ => True :=
  ⟨fun _ => trivial, fun _ _ => trivial⟩

/-- An ingest keeps the table keyed. -/
theorem KeyedTable.ingest {S : Settings} {request : IntakeRequest} {s s' : Stores}
    {out : Except PyError IntakeOutcome} (h : KeyedTable S.platform s.findings)
    (hrun : Runs world (ingest S request) s out s') : KeyedTable S.platform s'.findings := by
  have hingests := (ingest_ingests (caseRule_true request.tenantId)).runs hrun
  obtain ⟨middle, hput, hassign⟩ := hingests.table
  have hmiddle : KeyedTable S.platform middle := by
    obtain rfl | ⟨source, finding, hsource, hbuilt, hput⟩ := hput
    · exact h
    · exact h.put (hbuilt.keyed hsource) hput
  obtain heq | ⟨findingId, caseId, -, hassign⟩ := hassign
  · rw [heq]
    exact hmiddle
  · exact hmiddle.assign hassign

/-- Every history of ingests keeps the table keyed. -/
theorem KeyedTable.history {S : Settings} {s s' : Stores} (h : KeyedTable S.platform s.findings)
    (hhistory : IngestHistory S s s') : KeyedTable S.platform s'.findings := by
  induction hhistory with
  | start => exact h
  | next before hrun ih => exact ih.ingest hrun

end tables

section lookup

variable {P : Platform} {findings : FindingTable} {raw : Document} {source : SourceKey}
variable {subject : Subject} {provider region : String} {row found : StoredFinding}
variable {existing : Option StoredFinding}

/-- A row of the tenant, the provider and the account of a source. -/
structure StoredFinding.Beside (finding : StoredFinding) (source : SourceKey) : Prop where
  tenantId : finding.tenantId = source.tenantId
  provider : finding.provider = source.provider
  account : finding.account = source.account

/-- The row that answers a Prowler document: the one under the key of the document, or without
such a row the one under the producer's uid, if it has the rule and the resource. -/
structure FoundBy (P : Platform) (findings : FindingTable) (source : SourceKey)
    (subject : Subject) (row : StoredFinding) : Prop where
  member : row ∈ findings
  key : row.source = source ∨
    (∀ other ∈ findings, other.source ≠ source) ∧
      row.source = { source with originalUid := subject.uid } ∧
      (row.subject P).ruleId = subject.ruleId ∧ row.resourceUid = subject.resourceUid

/-- A finding beside a source has its identity but for the original uid. -/
theorem StoredFinding.Beside.source_eq {key : String} (h : row.Beside source)
    (hkey : row.originalUid = key) : row.source = { source with originalUid := key } := by
  obtain ⟨htenant, hprovider, haccount⟩ := h
  unfold StoredFinding.source
  rw [htenant, hprovider, haccount, hkey]

/-- A row found is a row beside the document. -/
theorem FoundBy.beside (h : FoundBy P findings source subject row) : row.Beside source := by
  obtain hdirect | ⟨-, hlegacy, -⟩ := h.key
  · exact ⟨congrArg SourceKey.tenantId hdirect, congrArg SourceKey.provider hdirect,
      congrArg SourceKey.account hdirect⟩
  · exact ⟨congrArg SourceKey.tenantId hlegacy, congrArg SourceKey.provider hlegacy,
      congrArg SourceKey.account hlegacy⟩

/-- Under unique sources at most one row is found. -/
theorem FoundBy.unique (hsources : (findings.map StoredFinding.source).Nodup)
    (hrow : FoundBy P findings source subject row)
    (hfound : FoundBy P findings source subject found) : row = found := by
  have hsame : row.source = found.source := by
    obtain hdirect | ⟨hfree, hlegacy, -⟩ := hrow.key
    · obtain hdirect' | ⟨hfree, -⟩ := hfound.key
      · rw [hdirect, hdirect']
      · exact absurd hdirect (hfree row hrow.member)
    · obtain hdirect' | ⟨-, hlegacy', -⟩ := hfound.key
      · exact absurd hdirect' (hfree found hfound.member)
      · rw [hlegacy, hlegacy']
  have hfirst := Rows.find_of_mem hsources hrow.member
  rw [hsame, Rows.find_of_mem hsources hfound.member] at hfirst
  exact (Option.some.inj hfirst).symm

/-- A row under the producer's uid is compared by its rule and its resource. -/
theorem sameLegacy_eq_ok {same : Bool} (hsubject : subjectOf P raw = .ok subject)
    (htarget : cloudTarget P raw = .ok (provider, .str subject.resourceUid, region))
    (h : sameLegacy P raw row = .ok same) :
    same = true ↔ (row.subject P).ruleId = subject.ruleId ∧
      row.resourceUid = subject.resourceUid := by
  unfold sameLegacy at h
  rw [htarget] at h
  obtain ⟨target, htarget', h⟩ := except_bind_eq_ok.mp h
  obtain rfl := Except.ok.inj htarget'
  obtain ⟨ocsf, hocsf, h⟩ := except_bind_eq_ok.mp h
  obtain ⟨ruleId, hrule, h⟩ := except_bind_eq_ok.mp h
  obtain rfl := Except.ok.inj h
  unfold subjectOf at hsubject
  rw [hrule] at hsubject
  obtain ⟨findingInfo, -, hsubject⟩ := except_bind_eq_ok.mp hsubject
  obtain ⟨ruleId', hrule', hsubject⟩ := except_bind_eq_ok.mp hsubject
  obtain ⟨target, -, hsubject⟩ := except_bind_eq_ok.mp hsubject
  obtain rfl := Except.ok.inj hrule'
  have hruleId : ruleId = subject.ruleId := congrArg Subject.ruleId (Except.ok.inj hsubject)
  have hsection : (row.record.get "ocsf").obj?.getD [] = ocsf := by
    unfold sectionDefault at hocsf
    unfold Document.get
    cases hlookup : row.record.lookup "ocsf" with
    | none =>
      rw [hlookup] at hocsf
      exact Except.ok.inj hocsf
    | some value =>
      rw [hlookup] at hocsf
      cases value with
      | obj entries => exact Except.ok.inj hocsf
      | _ => cases hocsf
  have hrowRule : (row.subject P).ruleId = P.str (ocsf.getText "rule_id") := by
    unfold StoredFinding.subject
    rw [hsection]
  rw [decide_eq_true_eq, hrowRule, hruleId]
  constructor
  · rintro ⟨hresource, hsame⟩
    exact ⟨hsame, (Option.some.inj hresource).symm⟩
  · rintro ⟨hsame, hresource⟩
    exact ⟨by rw [hresource]; rfl, hsame⟩

/-- The look-up finds the row that answers the document. -/
theorem recognised_iff (hsources : (findings.map StoredFinding.source).Nodup)
    (hinfo : ∃ findingInfo, sectionOr raw "finding_info" = .ok findingInfo ∧
      findingInfo.text "uid" = subject.uid ∧ subject.uid ≠ "")
    (hsubject : subjectOf P raw = .ok subject)
    (htarget : source.originalUid ≠ subject.uid → ∃ provider region,
      cloudTarget P raw = .ok (provider, .str subject.resourceUid, region))
    (h : recognised P findings raw source = .ok existing) :
    existing = some found ↔ FoundBy P findings source subject found := by
  obtain ⟨findingInfo, hinfo, huid, hne⟩ := hinfo
  unfold recognised at h
  rw [hinfo] at h
  obtain ⟨findingInfo', hinfo', h⟩ := except_bind_eq_ok.mp h
  obtain rfl := Except.ok.inj hinfo'
  rw [huid] at h
  cases hdirect : findings.getBySource source with
  | some row =>
    rw [hdirect, if_neg (by simp)] at h
    obtain rfl := Except.ok.inj h
    have hrow : FoundBy P findings source subject row :=
      ⟨Rows.mem_of_find hdirect, .inl (Rows.key_of_find hdirect)⟩
    constructor
    · intro heq
      obtain rfl := Option.some.inj heq
      exact hrow
    · intro hfound
      rw [hrow.unique hsources hfound]
  | none =>
    have hfree := Rows.find_eq_none.mp hdirect
    rw [hdirect] at h
    by_cases hlegacy : source.originalUid = subject.uid
    · rw [if_neg (by simp [hlegacy])] at h
      obtain rfl := Except.ok.inj h
      refine iff_of_false (by simp) ?_
      rintro ⟨hmember, heq | ⟨-, heq, -⟩⟩
      · exact hfree found hmember heq
      · apply hfree found hmember
        rw [heq, ← hlegacy]
    · rw [if_pos ⟨rfl, hlegacy, hne⟩] at h
      cases hold : findings.getBySource { source with originalUid := subject.uid } with
      | none =>
        rw [hold] at h
        obtain rfl := Except.ok.inj h
        refine iff_of_false (by simp) ?_
        rintro ⟨hmember, heq | ⟨-, heq, -⟩⟩
        · exact hfree found hmember heq
        · exact Rows.find_eq_none.mp hold found hmember heq
      | some row =>
        rw [hold] at h
        obtain ⟨same, hsame, h⟩ := except_bind_eq_ok.mp h
        obtain rfl := Except.ok.inj h
        obtain ⟨provider, region, htarget⟩ := htarget hlegacy
        have hcompared := sameLegacy_eq_ok hsubject htarget hsame
        have hsource := Rows.key_of_find hold
        constructor
        · intro heq
          by_cases hmatch : same = true
          · rw [if_pos hmatch] at heq
            obtain rfl := Option.some.inj heq
            exact ⟨Rows.mem_of_find hold, .inr ⟨hfree, hsource, hcompared.mp hmatch⟩⟩
          · rw [if_neg hmatch] at heq
            cases heq
        · rintro ⟨hmember, heq | ⟨-, heq, hfields⟩⟩
          · exact absurd heq (hfree found hmember)
          · have hfirst := Rows.find_of_mem hsources hmember
            have hrow : some row = some found := by
              rw [← hfirst, heq]
              exact hold.symm
            obtain rfl := Option.some.inj hrow
            rw [if_pos (hcompared.mpr hfields)]

end lookup

section answers

variable {S : Settings} {request : IntakeRequest} {s₀ s s' : Stores} {outcome : IntakeOutcome}
variable {source : SourceKey} {subject : Subject}

/-- A document is answered with a stored finding exactly if one beside it has its subject, and
the finding that it is answered with has its subject. -/
structure RecognisedExactly (P : Platform) (s : Stores) (source : SourceKey) (subject : Subject)
    (outcome : IntakeOutcome) : Prop where
  answered : outcome.finding.findingId ∈ s.findings.map StoredFinding.findingId ↔
    ∃ row ∈ s.findings, row.Beside source ∧ row.subject P = subject
  own : outcome.finding.subject P = subject

/-- No producer's uid spells out a key of the other scheme: beside the document no row of
another subject is stored under a producer's uid that is the key of the document, and none with
its rule and its resource under the key that is the uid of the document, unless a row has the
key of the document. -/
def UidsApart (P : Platform) (findings : FindingTable) (source : SourceKey) (subject : Subject) :
    Prop :=
  ∀ row ∈ findings, row.Beside source → row.subject P ≠ subject →
    ¬(row.originalUid = (row.subject P).uid ∧ (row.subject P).uid = prowlerKey P subject) ∧
    ¬(row.originalUid = prowlerKey P (row.subject P) ∧ prowlerKey P (row.subject P) = subject.uid ∧
      (row.subject P).ruleId = subject.ruleId ∧ row.resourceUid = subject.resourceUid ∧
      ∀ other ∈ findings, other.source ≠ source)

/-- Under keys of the two schemes the uids are apart exactly if no row of another subject
answers the document. -/
theorem uidsApart_iff {P : Platform} {findings : FindingTable}
    (hsha : Function.Injective P.sha256Hex) (hkeyed : KeyedTable P findings)
    (hkey : source.originalUid = prowlerKey P subject) :
    UidsApart P findings source subject ↔
      ∀ row, FoundBy P findings source subject row → row.subject P = subject := by
  constructor
  · intro hapart row hfound
    by_contra hother
    obtain ⟨hraw, hscoped⟩ := hapart row hfound.member hfound.beside hother
    obtain hdirect | ⟨hfree, hlegacy, hrule, hresource⟩ := hfound.key
    · have huid : row.originalUid = prowlerKey P subject := by
        rw [← hkey, ← hdirect]
        rfl
      obtain hsame | hsame := hkeyed.keyed row hfound.member
      · exact hraw ⟨hsame, hsame.symm.trans huid⟩
      · exact hother (prowlerKey_injective hsha (hsame.symm.trans huid))
    · have huid : row.originalUid = subject.uid := congrArg SourceKey.originalUid hlegacy
      obtain hsame | hsame := hkeyed.keyed row hfound.member
      · apply hother
        have hsubjectUid : (row.subject P).uid = subject.uid := hsame.symm.trans huid
        have hsubjectResource : (row.subject P).resourceUid = subject.resourceUid := hresource
        cases subject
        cases hrow : row.subject P
        rw [hrow] at hsubjectUid hrule hsubjectResource
        rw [Subject.mk.injEq]
        exact ⟨hsubjectUid, hrule, hsubjectResource⟩
      · exact hscoped ⟨hsame, hsame.symm.trans huid, hrule, hresource, hfree⟩
  · intro hown row hmember hbeside hother
    constructor
    · rintro ⟨hsame, huid⟩
      apply hother
      apply hown row ⟨hmember, .inl ?_⟩
      rw [hbeside.source_eq (hsame.trans huid), ← hkey]
    · rintro ⟨hsame, huid, hrule, hresource, hfree⟩
      apply hother
      exact hown row ⟨hmember, .inr ⟨hfree, hbeside.source_eq (hsame.trans huid), hrule, hresource⟩⟩

/-- A row of the document's subject answers it, or another row does. -/
theorem exists_foundBy {P : Platform} {findings : FindingTable} {row : StoredFinding}
    (hkeyed : KeyedTable P findings) (hkey : source.originalUid = prowlerKey P subject)
    (hmember : row ∈ findings) (hbeside : row.Beside source) (hsubject : row.subject P = subject) :
    ∃ found, FoundBy P findings source subject found := by
  by_cases hfree : ∀ other ∈ findings, other.source ≠ source
  · refine ⟨row, hmember, .inr ⟨hfree, ?_, by rw [hsubject], ?_⟩⟩
    · obtain hsame | hsame := hkeyed.keyed row hmember
      · rw [hsubject] at hsame
        exact hbeside.source_eq hsame
      · rw [hsubject, ← hkey] at hsame
        exact absurd (hbeside.source_eq hsame) (hfree row hmember)
    · exact congrArg Subject.resourceUid hsubject
  · push Not at hfree
    obtain ⟨other, hother, hsource⟩ := hfree
    exact ⟨other, hother, .inl hsource⟩

/-- After every history of ingests, a Prowler document of a failed check is recognised exactly
if no producer's uid beside it spells out a key of the other scheme. -/
theorem prowler_duplicates_iff (hsha : Function.Injective S.platform.sha256Hex)
    (hstart : KeyedTable S.platform s₀.findings) (hhistory : IngestHistory S s₀ s)
    (hfail : prowlerOutcome S.platform request.raw = .ok (some "FAIL"))
    (hsource : intakeSource S request = .ok source)
    (hsubject : subjectOf S.platform request.raw = .ok subject)
    (hrun : Runs world (ingest S request) s (.ok outcome) s') :
    RecognisedExactly S.platform s source subject outcome ↔
      UidsApart S.platform s.findings source subject := by
  have hkeyed := hstart.history hhistory
  have hprowler : isProwler S.platform request.raw = .ok true := by
    unfold prowlerOutcome at hfail
    obtain ⟨prowler, hprowler, hfail⟩ := except_bind_eq_ok.mp hfail
    cases prowler with
    | true => exact hprowler
    | false => cases hfail
  obtain ⟨-, hidentity⟩ := intakeSource_eq_ok hsource
  obtain ⟨findingInfo, hinfo, hne, hscheme⟩ := sourceIdentity_eq_ok hidentity
  obtain ⟨hnot, -⟩ | ⟨-, subject', region, hsubject', htarget, hkey⟩ := hscheme
  · rw [hprowler] at hnot
    cases hnot
  rw [hsubject] at hsubject'
  obtain rfl := Except.ok.inj hsubject'
  have huid := subjectOf_uid hinfo hsubject
  rw [huid] at hne
  obtain ⟨source', existing, hsource', hrecognised, hcases⟩ :=
    ((ingest_ingests (caseRule_true request.tenantId)).runs hrun).returned outcome rfl
  rw [hsource] at hsource'
  obtain rfl := Except.ok.inj hsource'
  have hlookup : ∀ found, existing = some found ↔
      FoundBy S.platform s.findings source subject found := fun found =>
    recognised_iff hkeyed.sources ⟨findingInfo, hinfo, huid, hne⟩ hsubject
      (fun _ => ⟨_, _, htarget⟩) hrecognised
  rw [uidsApart_iff hsha hkeyed hkey]
  obtain ⟨found, rfl, hanswered⟩ | ⟨rfl, hcreated⟩ := hcases
  · have hfound := (hlookup found).mp rfl
    have hsame : outcome.finding.findingId = found.findingId ∧
        outcome.finding.subject S.platform = found.subject S.platform := by
      obtain ⟨heq, -⟩ | ⟨caseId, -, hassign, hget⟩ := hanswered.answered
      · rw [heq]
        exact ⟨rfl, rfl⟩
      · rw [get_of_assign hkeyed.ids hfound.member hassign hget]
        exact ⟨rfl, rfl⟩
    obtain ⟨hid, hown⟩ := hsame
    constructor
    · rintro ⟨-, hsubject'⟩ row hrow
      rw [hrow.unique hkeyed.sources hfound, ← hown, hsubject']
    · intro hapart
      have hsubject' := hapart found hfound
      refine ⟨iff_of_true ?_ ⟨found, hfound.member, hfound.beside, hsubject'⟩,
        hown.trans hsubject'⟩
      rw [hid]
      exact List.mem_map_of_mem hfound.member
  · have hnone : ∀ found, ¬FoundBy S.platform s.findings source subject found := by
      intro found hfound
      cases (hlookup found).mpr hfound
    obtain ⟨finding, middle, caseId, hbuilt, hput, -, hassign, hget⟩ := hcreated.created
    obtain ⟨rfl, hid, -⟩ := FindingTable.put_eq_ok hput
    have hmiddle := hkeyed.put (hbuilt.keyed hsource) hput
    have hlast : finding ∈ s.findings ++ [finding] := by simp
    have hfinding := get_of_assign hmiddle.ids hlast hassign hget
    have hown : outcome.finding.subject S.platform = subject := by
      have hbuiltSubject := hbuilt.subject_eq
      rw [hsubject] at hbuiltSubject
      rw [hfinding]
      exact (Except.ok.inj hbuiltSubject).symm
    refine iff_of_true ⟨iff_of_false ?_ ?_, hown⟩ fun row hrow => absurd hrow (hnone row)
    · rw [hfinding, List.mem_map]
      rintro ⟨row, hrow, heq⟩
      exact hid row hrow heq
    · rintro ⟨row, hrow, hbeside, hrowSubject⟩
      obtain ⟨found, hfound⟩ := exists_foundBy hkeyed hkey hrow hbeside hrowSubject
      exact hnone found hfound

end answers

section samples

/-- A document of another scanner about a port of a host. -/
def portRecord (uid : String) : Document :=
  [("class_uid", .int 2004), ("severity", .str "Low"), ("time_dt", .str "2026-07-17T11:00:00Z"),
    ("metadata", .obj [("product", .obj [("name", .str "Scanner"), ("version", .str "1.0")]),
      ("event_code", .str "port_open"), ("version", .str "1.4.0")]),
    ("finding_info", .obj [("uid", .str uid), ("title", .str "Close the port")]),
    ("cloud", .obj [("provider", .str "aws"), ("region", .str "eu-west-1"),
      ("account", .obj [("uid", .str "123456789012")])]),
    ("resources", .arr [.obj [("uid", .str "i-1"), ("type", .str "AwsEc2Instance")]])]

/-- The request to ingest a document. -/
def intakeOf (raw : Document) : IntakeRequest :=
  { raw, tenantId := "tenant-1", collector := ⟨"scanner", "1.0", "intake"⟩ }

/-- An ingest in a quiet environment, with the identifiers from a number on. -/
def playedIngest (n : ℕ) (raw : Document) (s : Stores) :
    Option (Except PyError IntakeOutcome × Stores) :=
  (ingest hubSettings.toSettings (intakeOf raw)).follow
    (fun n s o => performWith ⟨none, quietReply "2026-07-17T12:00:00Z" n⟩ s o) (fun _ => true) n s

/-- Two ingests, one after the other, from empty stores. -/
def playedTwice (first second : Document) : Option (Stores × IntakeOutcome × Stores) := do
  let (_, s) ← playedIngest 0 first {}
  let (out, s') ← playedIngest 100 second s
  let outcome ← out.toOption
  return (s, outcome, s')

/-- Two played intakes are a history and a run of the second one. -/
theorem playedTwice_runs {first second : Document} {s s' : Stores} {outcome : IntakeOutcome}
    (h : playedTwice first second = some (s, outcome, s')) :
    IngestHistory hubSettings.toSettings {} s ∧
      Runs world (ingest hubSettings.toSettings (intakeOf second)) s (.ok outcome) s' := by
  have hruns : ∀ {n raw s s' out}, playedIngest n raw s = some (out, s') →
      Runs world (ingest hubSettings.toSettings (intakeOf raw)) s out s' := fun hplayed =>
    Prog.follow_runs (fun n _ _ _ => ⟨⟨none, quietReply "2026-07-17T12:00:00Z" n⟩, rfl⟩) hplayed
  unfold playedTwice at h
  simp only [Option.bind_eq_bind, Option.bind_eq_some_iff] at h
  obtain ⟨⟨out, middle⟩, hfirst, ⟨out', last⟩, hsecond, found, hout, h⟩ := h
  obtain ⟨rfl, rfl, rfl⟩ : middle = s ∧ found = outcome ∧ last = s' := by simpa using h
  dsimp only at hsecond hout
  rw [except_of_toOption hout] at hsecond
  exact ⟨.next (.start _) (hruns hfirst), hruns hsecond⟩

/-- The subject of the sample documents. -/
def bucketSubject : Subject := ⟨"uid-1", "s3_bucket_public_access", "arn:aws:s3:::logs"⟩

/-- The source of the sample documents. -/
def bucketSource : SourceKey :=
  ⟨"tenant-1", "aws", "123456789012", prowlerKey samplePlatform bucketSubject⟩

/-- An empty table is keyed. -/
theorem keyedTable_nil {P : Platform} : KeyedTable P [] :=
  ⟨List.nodup_nil, List.nodup_nil, by rintro row ⟨⟩⟩

/-- A document that arrives again after one of another resource with its uid and its rule is
answered with its own finding. -/
theorem prowler_duplicates_sample : ∃ s outcome s',
    IngestHistory hubSettings.toSettings {} s ∧
      Runs world (ingest hubSettings.toSettings (intakeOf (prowlerRecord "FAIL" "uid-1"))) s
        (.ok outcome) s' ∧
      s.findings.length = 1 ∧ outcome.duplicate = true ∧
      RecognisedExactly samplePlatform s bucketSource bucketSubject outcome := by
  have hplayed : ((playedTwice (prowlerRecord "FAIL" "uid-1") (prowlerRecord "FAIL" "uid-1")).any
      fun played => decide (played.1.findings.length = 1 ∧ played.2.1.duplicate = true ∧
        ∀ row ∈ played.1.findings, row.subject samplePlatform = bucketSubject)) = true := by
    decide +kernel
  obtain ⟨⟨s, outcome, s'⟩, htwice, hcheck⟩ := Option.any_eq_true _ _ |>.mp hplayed
  obtain ⟨hlength, hduplicate, hsubject⟩ := of_decide_eq_true hcheck
  obtain ⟨hhistory, hrun⟩ := playedTwice_runs htwice
  refine ⟨s, outcome, s', hhistory, hrun, hlength, hduplicate, ?_⟩
  refine (prowler_duplicates_iff sampleHash_injective keyedTable_nil hhistory ?_ ?_ ?_ hrun).mpr ?_
  · decide +kernel
  · decide +kernel
  · decide +kernel
  · intro row hrow _ hother
    exact absurd (hsubject row hrow) hother

/-- A document of another scanner whose uid spells out the key of a Prowler document is stored,
and the Prowler document is answered with it. -/
theorem spelled_key_hides : ∃ s outcome s',
    IngestHistory hubSettings.toSettings {} s ∧
      prowlerOutcome samplePlatform (prowlerRecord "FAIL" "uid-1") = .ok (some "FAIL") ∧
      intakeSource hubSettings.toSettings (intakeOf (prowlerRecord "FAIL" "uid-1")) =
        .ok bucketSource ∧
      subjectOf samplePlatform (prowlerRecord "FAIL" "uid-1") = .ok bucketSubject ∧
      Runs world (ingest hubSettings.toSettings (intakeOf (prowlerRecord "FAIL" "uid-1"))) s
        (.ok outcome) s' ∧
      outcome.finding.findingId ∈ s.findings.map StoredFinding.findingId ∧
      (∀ row ∈ s.findings, row.subject samplePlatform ≠ bucketSubject) ∧
      ¬RecognisedExactly samplePlatform s bucketSource bucketSubject outcome := by
  have hplayed : ((playedTwice (portRecord (prowlerKey samplePlatform bucketSubject))
      (prowlerRecord "FAIL" "uid-1")).any fun played =>
        decide (played.2.1.finding.findingId ∈ played.1.findings.map StoredFinding.findingId ∧
          ∀ row ∈ played.1.findings, row.subject samplePlatform ≠ bucketSubject)) = true := by
    decide +kernel
  obtain ⟨⟨s, outcome, s'⟩, htwice, hcheck⟩ := Option.any_eq_true _ _ |>.mp hplayed
  obtain ⟨hanswered, hothers⟩ := of_decide_eq_true hcheck
  obtain ⟨hhistory, hrun⟩ := playedTwice_runs htwice
  refine ⟨s, outcome, s', hhistory, by decide +kernel, by decide +kernel, by decide +kernel, hrun,
    hanswered, hothers, ?_⟩
  rintro ⟨hiff, -⟩
  obtain ⟨row, hrow, -, hsubject⟩ := hiff.mp hanswered
  exact hothers row hrow hsubject

end samples

end ElCapitan
