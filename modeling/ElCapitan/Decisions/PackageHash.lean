import ElCapitan.Decisions.AllOrNothing
import ElCapitan.Stores.RecordRows

/-!
# The hash of a review package

The built body of a review package, the body that the control plane shows and the body that a
decision reads are three forms of one JSON value, and all have its hash. A decision that quotes
the hash it was shown is accepted when the stored package is the one shown, and not else.
-/

namespace ElCapitan

open Effects

section hashes

variable (P : Platform)

/-- `sha256_bytes(canonical_json(body))`. -/
def bodyHash (body : PyValue) : Except PyError String := do
  let text ← dumps P.floatRepr body
  return P.sha256Hex text

/-- The hash of `ReviewControlPlane._package_binding`: of the body in
`product_record_to_dict(package)`. -/
def FrozenRecord.shownHash (package : FrozenRecord) : Except PyError String :=
  bodyHash P package.body.thaw

/-- The hash that `ApprovalService.approve` and `RejectionService.reject` record: of
`_jsonable(package.body)`. -/
def FrozenRecord.decidedHash (package : FrozenRecord) : Except PyError String :=
  bodyHash P package.body.jsonable

end hashes

section services

/-- A record as the services read it: its body with the entries it can be written with. -/
def FrozenRecord.plain (record : FrozenRecord) : Except PyError ProductRecord := do
  match record.body.thaw.toJson with
  | .ok (.obj body) => return ⟨record.recordId, record.caseId, record.recordType,
      record.schemaVersion, record.createdAt, body, record.evidenceIds, record.required,
      record.schemaVersion_pos⟩
  | .ok value => throw (wrongType value)
  | .error e => throw e

/-- The records that the services read from these rows. -/
def Held (floatOf : String → ℚ) : RowTable → RecordTable → Prop :=
  List.Forall₂ fun row record => (row.toRecord floatOf >>= FrozenRecord.plain) = .ok record

variable {P : Platform} {floatOf : String → ℚ} {rows : RowTable} {records : RecordTable}
  {stored : FrozenRecord} {package : ProductRecord}

/-- What a plain record has of its frozen one. -/
theorem FrozenRecord.plain_eq_ok (h : stored.plain = .ok package) :
    stored.body.thaw.toJson = .ok (.obj package.body) ∧ package.recordId = stored.recordId ∧
      package.caseId = stored.caseId ∧ package.recordType = stored.recordType := by
  unfold FrozenRecord.plain at h
  split at h
  · rename_i body hbody
    cases h
    exact ⟨hbody, rfl, rfl, rfl⟩
  · cases h
  · cases h

/-- A record has the id of its row. -/
theorem RecordRow.recordId_of_toRecord {row : RecordRow} (h : row.toRecord floatOf = .ok stored) :
    stored.recordId = row.recordId := by
  unfold RecordRow.toRecord at h
  obtain ⟨body, -, h⟩ := except_bind_eq_ok.mp h
  obtain ⟨ids, -, h⟩ := except_bind_eq_ok.mp h
  exact (NewRecord.create_eq_ok h).1

/-- What is read from the rows is what the services read. -/
theorem Held.get (h : Held floatOf rows records) {recordId : String}
    (hget : RowTable.get floatOf rows recordId = .ok stored) :
    ∃ package, stored.plain = .ok package ∧ RecordTable.get records recordId = .ok package := by
  unfold RowTable.get Rows.find at hget
  unfold RecordTable.get Rows.find
  induction h with
  | nil => cases hget
  | @cons row record rows records hhead hrest ih =>
    obtain ⟨frozen, hfrozen, hplain⟩ := except_bind_eq_ok.mp hhead
    have hkey : record.recordId = row.recordId := by
      rw [(FrozenRecord.plain_eq_ok hplain).2.1]
      exact RecordRow.recordId_of_toRecord hfrozen
    by_cases hid : row.recordId = recordId
    · simp only [List.find?_cons, hid, hkey, decide_true] at hget ⊢
      cases hfrozen.symm.trans hget
      exact ⟨record, hplain, rfl⟩
    · simp only [List.find?_cons, hid, hkey, decide_false] at hget ⊢
      exact ih hget

/-- The services hash the body that the control plane shows. -/
theorem shownHash_plain (h : stored.plain = .ok package) :
    stored.shownHash P = .ok (P.canonicalHash (.obj package.body)) := by
  unfold FrozenRecord.shownHash bodyHash dumps
  rw [(FrozenRecord.plain_eq_ok h).1]
  rfl

variable {new : NewRecord} {json : Json}

/-- The shown body is the built one, with its entries in the order of their keys. -/
theorem ReadBack.thaw (hback : ReadBack new json stored) :
    stored.body.thaw = .ofJson json.sorted := by
  rw [hback.body]
  exact PyValue.thaw_freeze _ (PyValue.toJson_ofJson _)

/-- The text of the shown body is the canonical text of the body as it was built. -/
theorem ReadBack.dumps_eq (hback : ReadBack new json stored) (floatRepr : ℚ → String) :
    dumps floatRepr stored.body.thaw = .ok (canonicalJson floatRepr json) := by
  unfold dumps
  rw [hback.thaw, PyValue.toJson_ofJson]
  exact congrArg Except.ok (canonicalJson_sorted json)

/-- The hashes of a record that was read back are those of the body as it was built. -/
theorem ReadBack.hashes (hback : ReadBack new json stored) (hjson : new.body.toJson = .ok json) :
    bodyHash P new.body = .ok (P.canonicalHash json) ∧
      stored.shownHash P = .ok (P.canonicalHash json) ∧
      stored.decidedHash P = .ok (P.canonicalHash json) := by
  have hjsonable : stored.body.jsonable = stored.body.thaw := by
    rw [hback.body]
    exact PyValue.jsonable_freeze _
  have hshown : stored.shownHash P = .ok (P.canonicalHash json) :=
    bind_of_eq (hback.dumps_eq P.floatRepr) rfl
  refine ⟨?_, hshown, ?_⟩
  · unfold bodyHash dumps
    rw [hjson]
    rfl
  · unfold FrozenRecord.decidedHash
    rw [hjsonable]
    exact hshown

/-- A record with a dictionary as its body is read by the services. -/
theorem ReadBack.plain (hback : ReadBack new json stored) (hjson : new.body.toJson = .ok json)
    {entries : List (String × PyValue)} (hbody : new.body = .dict entries) :
    ∃ package, stored.plain = .ok package := by
  rw [hbody, PyValue.toJson] at hjson
  obtain ⟨values, -, hjson⟩ := except_bind_eq_ok.mp hjson
  cases hjson
  unfold FrozenRecord.plain
  rw [hback.thaw, PyValue.toJson_ofJson, Json.sorted]
  exact ⟨_, rfl⟩

end services

section decisions

variable {S : Settings} {σ : Type} {T : Env operations PyError σ} {s s' : σ}

/-- Whenever the record of this id is read, it is this one. -/
def Answers (T : Env operations PyError σ) (recordId : String) (package : ProductRecord) : Prop :=
  ∀ s s' found, T s (.getRecord recordId) (.ok found) s' → found = package

/-- A reviewed package is the one that is answered for its id. -/
theorem reviewedPackage_runs {decision caseId packageId : String} {package found : ProductRecord}
    {case : RemediationCase} (hanswers : Answers T packageId package)
    (hrun : Runs T (reviewedPackage decision caseId packageId) s (.ok (case, found)) s') :
    found = package := by
  have hgets : Sat T (fun _ _ => True) (reviewedPackage decision caseId packageId)
      (fun out _ => ∀ case found, out = .ok (case, found) → found = package) s := by
    unfold reviewedPackage
    simp only [Prog.bind_eq, Prog.pure_eq]
    rw [sat_bind_perform_iff]
    refine ⟨trivial, fun snap s₁ _ => ?_, fun e _ _ _ _ h => by cases h⟩
    rw [sat_bind_raiseIf]
    refine ⟨fun _ => ?_, fun _ _ _ h => by cases h⟩
    rw [sat_bind_raiseIf]
    refine ⟨fun _ => ?_, fun _ _ _ h => by cases h⟩
    rw [sat_bind_perform_iff]
    refine ⟨trivial, fun record s₂ hread => ?_, fun e _ _ _ _ h => by cases h⟩
    rw [sat_bind_raiseIf]
    refine ⟨fun _ => ?_, fun _ _ _ h => by cases h⟩
    rintro case found heq
    cases heq
    exact hanswers _ _ _ hread
  exact hgets.runs hrun case found rfl

/-- The record of an approval holds the hash of the package that was read. -/
theorem approve_records_hash {assertion : VerifiedApproval S.platform} {package : ProductRecord}
    (hanswers : Answers T assertion.reviewPackageId package) {case : RemediationCase}
    {record : ProductRecord} (hrun : Runs T (approve S assertion) s (.ok (case, record)) s') :
    record.body.get "review_package_sha256" =
      .str (S.platform.canonicalHash (.obj package.body)) := by
  unfold approve at hrun
  obtain ⟨⟨case₀, found⟩, middle, hread, hrest⟩ | ⟨e, -, hout⟩ := Runs.of_bind hrun
  · obtain rfl := reviewedPackage_runs hanswers hread
    refine Prog.Returns.runs (Q := fun out => out.2.body.get "review_package_sha256" =
      .str (S.platform.canonicalHash (.obj found.body))) ?_ hrest
    simp only [Prog.bind_eq, Prog.pure_eq]
    refine Prog.returns_bind fun now => Prog.returns_bind fun _ => Prog.returns_bind fun _ => ?_
    refine Prog.returns_bind fun _ => Prog.returns_bind fun _ => Prog.returns_bind fun _ => ?_
    refine Prog.returns_bind fun ref => Prog.returns_bind_ofExcept fun bound hbound => ?_
    refine Prog.returns_bind_ofExcept fun record hrecord => ?_
    refine Prog.returns_bind fun _ => Prog.returns_bind fun _ => Prog.returns_bind fun _ => ?_
    obtain ⟨planId, windowId, -, -, rfl⟩ := decisionBinding_eq_ok hbound
    obtain ⟨-, -, -, -, hbody, -⟩ := ProductRecord.create_eq_ok hrecord
    change record.body.get "review_package_sha256" = _
    rw [hbody]
    rfl
  · cases hout

/-- The record of a rejection holds the hash of the package that was read. -/
theorem reject_records_hash {assertion : VerifiedRejection} {package : ProductRecord}
    (hanswers : Answers T assertion.reviewPackageId package) {case : RemediationCase}
    {record : ProductRecord} (hrun : Runs T (reject S assertion) s (.ok (case, record)) s') :
    record.body.get "review_package_sha256" =
      .str (S.platform.canonicalHash (.obj package.body)) := by
  unfold reject at hrun
  obtain ⟨⟨case₀, found⟩, middle, hread, hrest⟩ | ⟨e, -, hout⟩ := Runs.of_bind hrun
  · obtain rfl := reviewedPackage_runs hanswers hread
    refine Prog.Returns.runs (Q := fun out => out.2.body.get "review_package_sha256" =
      .str (S.platform.canonicalHash (.obj found.body))) ?_ hrest
    simp only [Prog.bind_eq, Prog.pure_eq]
    refine Prog.returns_bind fun now => Prog.returns_bind fun _ => Prog.returns_bind fun _ => ?_
    refine Prog.returns_bind fun _ => Prog.returns_bind fun ref => ?_
    refine Prog.returns_bind_ofExcept fun bound hbound => ?_
    refine Prog.returns_bind_ofExcept fun record hrecord => ?_
    refine Prog.returns_bind fun _ => Prog.returns_bind fun _ => Prog.returns_bind fun _ => ?_
    obtain ⟨planId, windowId, -, -, rfl⟩ := decisionBinding_eq_ok hbound
    obtain ⟨-, -, -, -, hbody, -⟩ := ProductRecord.create_eq_ok hrecord
    change record.body.get "review_package_sha256" = _
    rw [hbody]
    rfl
  · cases hout

end decisions

section acceptance

/-- A computation that returns, and what follows it. -/
theorem bind_ok {α β : Type} {first : Except PyError α} {next : α → Except PyError β} {a : α}
    (h : first = .ok a) : (first >>= next) = next a := by
  rw [h]
  rfl

variable {P : Platform} {floatOf : String → ℚ}

/-- A decision document that quotes a package and its hash, with all else in order. -/
structure Quotes (P : Platform) (document : Document) (verb packageId hash : String) : Prop where
  tenant : ∃ tenantId, reviewText P (document.get "tenant_id") "tenant_id" 1 100 = .ok tenantId
  package : reviewText P (document.get "review_package_id") "review_package_id" 1 100 =
    .ok packageId
  hash : reviewText P (document.get "review_package_sha256") "review_package_sha256" 64 64 =
    .ok hash
  confirmation : reviewText P (document.get "confirmation") "confirmation" 1 200 =
    .ok (verb ++ " " ++ packageId)
  approver : ∃ approver, reviewText P (document.get "approver") "approver" 1 200 = .ok approver

/-- The case that a decision names awaits it, with this package in the store. -/
structure AwaitsDecision (P : Platform) (floatOf : String → ℚ) (s : Stores) (rows : RowTable)
    (document : Document) (held : FrozenRecord) : Prop where
  stored : Held floatOf rows s.records
  found : RowTable.get floatOf rows held.recordId = .ok held
  type : held.recordType = "HumanReviewPackage.v1"
  case : ∀ tenantId, reviewText P (document.get "tenant_id") "tenant_id" 1 100 = .ok tenantId →
    ∃ case, readOut s (reviewCase P (.str tenantId) (document.get "case_id")) = .ok case ∧
      case.state = .awaitingApproval ∧ held.caseId = case.caseId ∧
      case.recordIds.text "human_review_package_id" = held.recordId

/-- The error for a decision that quotes another package or another hash. -/
def staleDecision : PyError :=
  reviewControlError "the decision is stale or bound to another package"

/-- A decision is accepted when it quotes the stored package and its hash, and stale if not. -/
theorem readOut_decisionInputs {s : Stores} {rows : RowTable} {document : Document}
    {held : FrozenRecord} {verb packageId hash heldHash : String}
    (hawaits : AwaitsDecision P floatOf s rows document held)
    (hquotes : Quotes P document verb packageId hash)
    (hshown : held.shownHash P = .ok heldHash) :
    (held.recordId = packageId ∧ heldHash = hash →
      ∃ inputs, readOut s (decisionInputs P document verb) = .ok inputs) ∧
    (¬(held.recordId = packageId ∧ heldHash = hash) →
      readOut s (decisionInputs P document verb) = .error staleDecision) := by
  obtain ⟨tenantId, htenant⟩ := hquotes.tenant
  obtain ⟨approver, happrover⟩ := hquotes.approver
  obtain ⟨case, hcase, hstate, howner, hbound⟩ := hawaits.case tenantId htenant
  obtain ⟨package, hplain, hget⟩ := hawaits.stored.get hawaits.found
  obtain ⟨-, hid, hcaseId, htype⟩ := FrozenRecord.plain_eq_ok hplain
  have hhash : heldHash = P.canonicalHash (.obj package.body) := by
    rw [shownHash_plain hplain] at hshown
    exact (Except.ok.inj hshown).symm
  have hbinding : readOut s (packageBinding P case) = .ok (package, heldHash) := by
    have hpresent : case.recordIds.text "human_review_package_id" ≠ "" := by
      rw [hbound]
      exact held.required.1
    have howned : ¬(package.caseId ≠ case.caseId ∨
        package.recordType ≠ "HumanReviewPackage.v1") := by
      rw [hcaseId, htype, hawaits.type, howner]
      simp
    unfold packageBinding reviewRecord
    simp only [Prog.bind_eq, Prog.pure_eq, Prog.bind_assoc, Prog.ret_bind, readOut_bind,
      readOut_raiseIf]
    rw [raiseIf, if_neg hpresent]
    refine bind_of_eq rfl ?_
    refine bind_of_eq (readOut_getRecord.trans (by rw [hbound]; exact hget)) ?_
    rw [raiseIf, if_neg howned, hhash]
    rfl
  have hawaiting : raiseIf (case.state ≠ .awaitingApproval)
      (reviewControlError "the case is no longer awaiting approval") = .ok () :=
    raiseIf_eq_ok.mpr (not_not.mpr hstate)
  have hstep : readOut s (decisionInputs P document verb) =
      (raiseIf (packageId ≠ held.recordId ∨ hash ≠ heldHash) staleDecision >>= fun _ =>
        raiseIf (verb ++ " " ++ packageId ≠ verb ++ " " ++ held.recordId) (reviewControlError
          ("confirmation must exactly match " ++ verb ++ " " ++ held.recordId)) >>= fun _ =>
        .ok { tenantId, case, package, approver }) := by
    unfold decisionInputs
    simp only [Prog.bind_eq, Prog.pure_eq, readOut_bind, readOut_ofExcept, readOut_raiseIf]
    refine (bind_ok htenant).trans ((bind_ok hcase).trans ?_)
    refine (bind_ok hawaiting).trans ((bind_ok hbinding).trans ?_)
    refine (bind_ok hquotes.package).trans ((bind_ok hquotes.hash).trans ?_)
    rw [← hid, hquotes.confirmation, happrover]
    rfl
  rw [hstep]
  constructor
  · rintro ⟨rfl, rfl⟩
    refine ⟨{ tenantId, case, package, approver }, ?_⟩
    rw [raiseIf, raiseIf, if_neg (by simp), if_neg (by simp)]
    rfl
  · intro hdifferent
    have hstale : packageId ≠ held.recordId ∨ hash ≠ heldHash := by
      by_contra hsame
      push Not at hsame
      exact hdifferent ⟨hsame.1.symm, hsame.2.symm⟩
    rw [raiseIf, if_pos hstale]
    rfl

/-- Two records that were read back and have one hash have one body, where the hash tells their
texts apart. -/
theorem ReadBack.same_body {new new' : NewRecord} {json json' : Json}
    {stored stored' : FrozenRecord}
    (hback : ReadBack new json stored) (hback' : ReadBack new' json' stored')
    (hread : json.Readable (FloatReads P.floatRepr floatOf))
    (hread' : json'.Readable (FloatReads P.floatRepr floatOf))
    (htexts : P.canonical json = P.canonical json') : stored.body = stored'.body := by
  have hloads := loads_canonical hread
  have hloads' := loads_canonical hread'
  unfold Platform.canonical at htexts
  rw [htexts] at hloads
  have hsorted : json.sorted = json'.sorted := Except.ok.inj (hloads.symm.trans hloads')
  rw [hback.body, hback'.body, hsorted]

/-- All places agree on the hash of a package. A record with a dictionary as its body that was put
into a store is read back with the hash of the body as it was built: it is the hash that is shown,
and the hash that an approval and a rejection record of it. A decision that quotes it, in any
store, is accepted when the package there is the one shown, and stale if not. -/
theorem package_hash_agrees {S : Settings} {news : List NewRecord} {rows : RowTable}
    {new : NewRecord} {entries : List (String × PyValue)}
    (hrun : Steps (PutStep S.platform.floatRepr floatOf) [] news rows) (hnew : new ∈ news)
    (hbody : new.body = .dict entries) :
    ∃ shown hash package, RowTable.get floatOf rows new.recordId = .ok shown ∧
      (∀ {more rows'}, Steps (PutStep S.platform.floatRepr floatOf) rows more rows' →
        RowTable.get floatOf rows' new.recordId = .ok shown) ∧
      shown.plain = .ok package ∧ bodyHash S.platform new.body = .ok hash ∧
      shown.shownHash S.platform = .ok hash ∧ shown.decidedHash S.platform = .ok hash ∧
      (∀ {σ : Type} {T : Env operations PyError σ} {s s' case record},
        Answers T new.recordId package →
        (∀ assertion : VerifiedApproval S.platform, assertion.reviewPackageId = new.recordId →
          Runs T (approve S assertion) s (.ok (case, record)) s' →
            record.body.get "review_package_sha256" = .str hash) ∧
        ∀ assertion : VerifiedRejection, assertion.reviewPackageId = new.recordId →
          Runs T (reject S assertion) s (.ok (case, record)) s' →
            record.body.get "review_package_sha256" = .str hash) ∧
      ∀ {news' rows' s document verb held},
        Steps (PutStep S.platform.floatRepr floatOf) [] news' rows' →
        AwaitsDecision S.platform floatOf s rows' document held →
        Quotes S.platform document verb new.recordId hash →
        (∀ text text', dumps S.platform.floatRepr shown.body.thaw = .ok text →
          dumps S.platform.floatRepr held.body.thaw = .ok text' →
          S.platform.sha256Hex text = S.platform.sha256Hex text' → text = text') →
        (held.recordId = shown.recordId ∧ held.body = shown.body →
          ∃ inputs, readOut s (decisionInputs S.platform document verb) = .ok inputs) ∧
        (¬(held.recordId = shown.recordId ∧ held.body = shown.body) →
          readOut s (decisionInputs S.platform document verb) = .error staleDecision) := by
  obtain ⟨json, shown, hjson, hread, hget, hback⟩ := get_of_puts hrun hnew
  obtain ⟨package, hplain⟩ := hback.plain hjson hbody
  obtain ⟨hbuilt, hshown, hdecided⟩ := @ReadBack.hashes S.platform shown new json hback hjson
  have hhash : S.platform.canonicalHash (.obj package.body) = S.platform.canonicalHash json := by
    rw [shownHash_plain hplain] at hshown
    exact Except.ok.inj hshown
  refine ⟨shown, S.platform.canonicalHash json, package, hget, ?_, hplain, hbuilt, hshown,
    hdecided, ?_, ?_⟩
  · intro more rows' hmore
    exact get_kept hmore hget
  · intro σ T s s' case record hanswers
    constructor
    · intro assertion hid hdecision
      rw [← hhash]
      exact approve_records_hash (by rw [hid]; exact hanswers) hdecision
    · intro assertion hid hdecision
      rw [← hhash]
      exact reject_records_hash (by rw [hid]; exact hanswers) hdecision
  · intro news' rows' s document verb held hrun' hawaits hquotes hdistinct
    obtain ⟨new', -, json', -, hjson', hread', hback'⟩ := put_of_get hrun' hawaits.found
    obtain ⟨-, hheld, -⟩ := @ReadBack.hashes S.platform held new' json' hback' hjson'
    obtain ⟨haccepted, hstale⟩ := readOut_decisionInputs hawaits hquotes hheld
    have hsame : S.platform.canonicalHash json' = S.platform.canonicalHash json ↔
        held.body = shown.body := by
      constructor
      · intro hequal
        have hdumps := hback.dumps_eq S.platform.floatRepr
        have hdumps' := hback'.dumps_eq S.platform.floatRepr
        have htexts := hdistinct _ _ hdumps hdumps' hequal.symm
        exact (hback.same_body hback' hread hread' htexts).symm
      · intro hequal
        unfold FrozenRecord.shownHash at hshown hheld
        rw [hequal] at hheld
        exact Except.ok.inj (hheld.symm.trans hshown)
    rw [hback.recordId]
    rw [hsame] at haccepted hstale
    exact ⟨haccepted, hstale⟩

/-- A review package with a tuple, a fraction and a text that is not ASCII. -/
def samplePackage : NewRecord where
  recordId := "package-1"
  caseId := "case-1"
  recordType := "HumanReviewPackage.v1"
  schemaVersion := 1
  createdAt := "2026-07-17T12:00:00Z"
  body := .dict [("statement", .str "geprüft"), ("checks", .tuple [.float 50, .int 3]),
    ("case", .dict [("case_id", .str "case-1"), ("blocked_from", .null)])]
  evidenceIds := ["evidence-1"]

/-- The value of its body. -/
def samplePackageJson : Json :=
  .obj [("statement", .str "geprüft"), ("checks", .arr [.float 50, .int 3]),
    ("case", .obj [("case_id", .str "case-1"), ("blocked_from", .null)])]

/-- The sample's body can be read. -/
theorem samplePackageJson_readable :
    samplePackageJson.Readable (FloatReads sampleRepr sampleFloatOf) := by
  have hfloat : FloatReads sampleRepr sampleFloatOf 50 := ⟨by decide +kernel, by decide +kernel⟩
  apply readable_obj (by simp)
  refine ⟨.str _, .arr _ ?_, readable_obj (by simp) ⟨.str _, .null⟩⟩
  intro item hitem
  obtain rfl | rfl : item = .float 50 ∨ item = .int 3 := by simpa using hitem
  · exact .float _ hfloat
  · exact .int _

/-- A put row adds what the services read of it. -/
theorem Held.put {floatRepr : ℚ → String} {floatOf : String → ℚ} {rows rows' : RowTable}
    {records : RecordTable} {new : NewRecord} {stored : FrozenRecord} {package : ProductRecord}
    (hheld : Held floatOf rows records) (hput : PutStep floatRepr floatOf rows new rows')
    (hget : RowTable.get floatOf rows' new.recordId = .ok stored)
    (hplain : stored.plain = .ok package) : Held floatOf rows' (records ++ [package]) := by
  obtain ⟨record, json, hcreate, hrow, hjson, hread⟩ := hput
  obtain ⟨row, hto, hfree, rfl⟩ := RowTable.put_eq_ok hrow
  obtain ⟨row', stored', hto', hid, hfrom, -⟩ := toRecord_toRow hcreate hjson hread
  cases hto.symm.trans hto'
  rw [(NewRecord.create_eq_ok hcreate).1, ← hid] at hfree
  have hfound : Rows.find RecordRow.recordId (rows ++ [row]) new.recordId = some row := by
    rw [← hid]
    exact Rows.find_insert_self hfree
  unfold RowTable.get at hget
  rw [hfound] at hget
  refine List.rel_append hheld (.cons ?_ .nil)
  exact (bind_ok hget).trans hplain

/-- A hash of 64 digits, which is that of the length of a text. -/
def lengthHash (text : String) : String :=
  String.ofList ((Nat.toDigits 10 text.length ++ List.replicate 64 '0').take 64)

/-- The sample's hash has 64 characters. -/
theorem length_lengthHash (text : String) : (lengthHash text).length = 64 := by
  simp [lengthHash, ← String.length_toList]

/-- The sample platform with hashes of 64 digits. -/
def lengthPlatform : Platform := { samplePlatform with sha256Hex := lengthHash }

/-- The settings of the sample decisions. -/
def lengthSettings : Settings := { sampleSettings with platform := lengthPlatform }

/-- The package of the same case after rework. -/
def reworkedPackage : NewRecord :=
  { samplePackage with recordId := "package-2", body := .dict [("statement", .str "neu")] }

/-- The body of the reworked package can be read. -/
theorem reworkedPackage_readable :
    (Json.obj [("statement", .str "neu")]).Readable (FloatReads sampleRepr sampleFloatOf) :=
  readable_obj (by simp) (.str _)

/-- A case that awaits a decision on a package. -/
def awaitingCase (packageId : String) : RemediationCase :=
  { sampleCase with
    state := .awaitingApproval
    recordIds := recordIdsOf [("human_review_package_id", packageId)] }

/-- The document of an approval of the sample package, with the hash that was shown. -/
def sampleDecision (hash : String) : Document :=
  [("tenant_id", .str "tenant-1"), ("case_id", .str "case-1"),
    ("review_package_id", .str "package-1"), ("review_package_sha256", .str hash),
    ("confirmation", .str "APPROVE package-1"), ("approver", .str "ada")]

/-- The sample's decision quotes the hash of the package. -/
theorem sampleDecision_quotes {hash : String} (hlength : hash.length = 64) :
    Quotes lengthPlatform (sampleDecision hash) "APPROVE" "package-1" hash where
  tenant := ⟨"tenant-1", by rfl⟩
  package := by rfl
  hash := by
    have hbounds : 64 ≤ hash.length ∧ hash.length ≤ 64 := ⟨hlength.ge, hlength.le⟩
    exact if_pos hbounds
  confirmation := by rfl
  approver := ⟨"ada", by rfl⟩

/-- The sample case awaits a decision on a package that is in the store. -/
theorem awaitingCase_awaits {rows : RowTable} {records : RecordTable} {held : FrozenRecord}
    {new : NewRecord} {json : Json} {hash : String} (hheld : Held sampleFloatOf rows records)
    (hget : RowTable.get sampleFloatOf rows new.recordId = .ok held)
    (hback : ReadBack new json held) (hcase : new.caseId = "case-1")
    (htype : new.recordType = "HumanReviewPackage.v1") (hid : new.recordId ≠ "") :
    AwaitsDecision lengthPlatform sampleFloatOf
      { cases := { cases := [awaitingCase new.recordId] }, records } rows (sampleDecision hash)
      held where
  stored := hheld
  found := by rw [hback.recordId]; exact hget
  type := hback.recordType.trans htype
  case tenantId htenant := by
    obtain rfl : "tenant-1" = tenantId := Except.ok.inj htenant
    have hbound : (awaitingCase new.recordId).recordIds.text "human_review_package_id" =
        new.recordId := by
      simp [RecordIds.text, awaitingCase]
    refine ⟨awaitingCase new.recordId, ?_, rfl, hback.caseId.trans hcase,
      hbound.trans hback.recordId.symm⟩
    unfold reviewCase
    simp only [Prog.bind_eq, Prog.pure_eq, readOut_bind, readOut_ofExcept, readOut_raiseIf]
    have hpresent : raiseIf (new.recordId = "") (reviewControlError
        ("case " ++ "case-1" ++ " has no human-review package")) = .ok () :=
      raiseIf_eq_ok.mpr hid
    exact (bind_ok rfl).trans ((bind_ok rfl).trans ((bind_ok rfl).trans ((bind_ok rfl).trans
      ((bind_ok rfl).trans ((bind_ok hpresent).trans rfl)))))

/-- All places agree on the hash of the sample package, and a decision that quotes it is accepted
while the case binds the package, and stale once the case binds another. -/
theorem package_hash_agrees_sample : ∃ rows rows' shown hash package later,
    RowTable.get sampleFloatOf rows "package-1" = .ok shown ∧
      RowTable.get sampleFloatOf rows' "package-1" = .ok shown ∧
      bodyHash lengthPlatform samplePackage.body = .ok hash ∧
      shown.shownHash lengthPlatform = .ok hash ∧ shown.decidedHash lengthPlatform = .ok hash ∧
      (∃ inputs, readOut
        { cases := { cases := [awaitingCase "package-1"] }, records := [package] }
        (decisionInputs lengthPlatform (sampleDecision hash) "APPROVE") = .ok inputs) ∧
      readOut { cases := { cases := [awaitingCase "package-2"] }, records := [package, later] }
        (decisionInputs lengthPlatform (sampleDecision hash) "APPROVE") = .error staleDecision := by
  have hputs : ∃ rows rows', PutStep sampleRepr sampleFloatOf [] samplePackage rows ∧
      PutStep sampleRepr sampleFloatOf rows reworkedPackage rows' :=
    ⟨_, _, ⟨_, samplePackageJson, rfl, rfl, rfl, samplePackageJson_readable⟩,
      ⟨_, _, rfl, rfl, rfl, reworkedPackage_readable⟩⟩
  obtain ⟨rows, rows', hfirst, hsecond⟩ := hputs
  have hboth : Steps (PutStep sampleRepr sampleFloatOf) [] [samplePackage, reworkedPackage] rows' :=
    .cons hfirst (.single hsecond)
  obtain ⟨shown, hash, package, hget, hkept, hplain, hbuilt, hshown, hdecided, -, hdecision⟩ :=
    @package_hash_agrees sampleFloatOf lengthSettings [samplePackage] rows samplePackage _
      (.single hfirst) (by simp) rfl
  obtain ⟨json, stored, hjson, -, hget', hback⟩ := get_of_puts (.single hfirst)
    (List.mem_singleton_self samplePackage)
  obtain rfl : shown = stored := Except.ok.inj (hget.symm.trans hget')
  obtain ⟨json', held, hjson', -, hget₂, hback'⟩ := get_of_puts hboth
    (show reworkedPackage ∈ _ by simp)
  obtain ⟨later, hlater⟩ := hback'.plain hjson' rfl
  have hheld : Held sampleFloatOf rows [package] := Held.put .nil hfirst hget hplain
  have hheld' : Held sampleFloatOf rows' [package, later] := hheld.put hsecond hget₂ hlater
  have hlength : hash.length = 64 := by
    obtain ⟨text, -, hhash⟩ := except_bind_eq_ok.mp hbuilt
    cases hhash
    exact length_lengthHash text
  have hquotes := sampleDecision_quotes hlength
  refine ⟨rows, rows', shown, hash, package, later, hget, hkept (.single hsecond), hbuilt, hshown,
    hdecided, ?_, ?_⟩
  · refine (hdecision (.single hfirst) (awaitingCase_awaits hheld hget hback rfl rfl ?_) hquotes
      ?_).1 ⟨rfl, rfl⟩
    · decide
    · intro text text' htext htext' _
      exact Except.ok.inj (htext.symm.trans htext')
  · refine (hdecision hboth (awaitingCase_awaits hheld' hget₂ hback' rfl rfl ?_) hquotes ?_).2 ?_
    · decide
    · intro text text' htext htext' hhash
      obtain rfl : samplePackageJson = json := Except.ok.inj hjson
      obtain rfl : Json.obj [("statement", .str "neu")] = json' := Except.ok.inj hjson'
      obtain rfl : text = canonicalJson sampleRepr _ :=
        Except.ok.inj (htext.symm.trans (hback.dumps_eq sampleRepr))
      obtain rfl : text' = canonicalJson sampleRepr _ :=
        Except.ok.inj (htext'.symm.trans (hback'.dumps_eq sampleRepr))
      exact absurd hhash (by decide +kernel)
    · rintro ⟨hsame, -⟩
      rw [hback.recordId, hback'.recordId] at hsame
      exact absurd hsame (by decide)

end acceptance

end ElCapitan
