import ElCapitan.Services.Frames
import ElCapitan.Services.Intake

/-!
# What an ingest does to the stores

The work of one `ingest` on shared stores that nobody else changes: the cases it reads keep
what every transition keeps, the cases that are held stay held, and of the findings at most
one is put and at most one assigned, to a case that is held then.
-/

namespace ElCapitan

open Effects

section work

variable {α β : Type} {tenantId : String} {K : RemediationCase → Prop} {s s' s'' : Stores}

/-- The stores hold a case under an id. -/
def Stores.Holds (s : Stores) (caseId : String) : Prop :=
  ∃ case ∈ s.cases.cases, case.caseId = caseId

/-- Every case of the stores has a property. -/
def Stores.AllCases (s : Stores) (K : RemediationCase → Prop) : Prop :=
  ∀ case ∈ s.cases.cases, K case

/-- A property of every case that is opened for a tenant, which transitions keep. -/
structure CaseRule (tenantId : String) (K : RemediationCase → Prop) : Prop where
  opened : ∀ {caseId findingIds assetIds serviceIds now case},
    openCase caseId tenantId findingIds assetIds serviceIds now = .ok case → K case
  moved : ∀ {case transition args case' event}, K case →
    transitionCase case transition args = .ok (case', event) → K case'

/-- What work on the cases leaves as it was. -/
structure CaseWork (K : RemediationCase → Prop) (s s' : Stores) : Prop where
  keeps : s.AllCases K → s'.AllCases K
  holds : ∀ caseId, s.Holds caseId → s'.Holds caseId
  findings : s'.findings = s.findings

/-- No step is no work. -/
theorem CaseWork.refl (s : Stores) : CaseWork K s s := ⟨id, fun _ h => h, rfl⟩

/-- Work after work is work. -/
theorem CaseWork.trans (h : CaseWork K s s') (h' : CaseWork K s' s'') : CaseWork K s s'' :=
  ⟨fun hall => h'.keeps (h.keeps hall), fun caseId hheld => h'.holds caseId (h.holds caseId hheld),
    h'.findings.trans h.findings⟩

/-- Equal cases and findings are no work. -/
theorem CaseWork.of_eq (hcases : s'.cases = s.cases) (hfindings : s'.findings = s.findings) :
    CaseWork K s s' := by
  refine ⟨?_, ?_, hfindings⟩
  · intro hall case hcase
    rw [hcases] at hcase
    exact hall case hcase
  · rintro caseId ⟨case, hcase, hid⟩
    rw [← hcases] at hcase
    exact ⟨case, hcase, hid⟩

/-- The operations that change neither cases nor findings. -/
def Aside : Operation → Prop
  | .insertCase _ | .appendCase _ _ _ | .putFinding _ | .assignFinding _ _ => False
  | _ => True

/-- A step with such an operation, or one that raises, is no work. -/
theorem CaseWork.of_step {o : Operation} {r : Except PyError o.Answer}
    (h : world s o r s') (ho : Aside o ∨ ∃ e, r = .error e) : s'.cases = s.cases ∧
      s'.findings = s.findings := by
  constructor
  · obtain heq | ⟨case, heq, -⟩ | ⟨case, event, v, heq, -⟩ := world_caseTables h
    · exact heq
    · cases heq
      obtain ho | ⟨e, he⟩ := ho
      · cases ho
      · cases he
    · cases heq
      obtain ho | ⟨e, he⟩ := ho
      · cases ho
      · cases he
  · obtain heq | ⟨finding, heq, -⟩ | ⟨findingId, caseId, heq, -⟩ := world_findings h
    · exact heq
    · cases heq
      obtain ho | ⟨e, he⟩ := ho
      · cases ho
      · cases he
    · cases heq
      obtain ho | ⟨e, he⟩ := ho
      · cases ho
      · cases he

/-- A service that works on cases, starting from these stores, and what holds of what it
returns. -/
def Works (K : RemediationCase → Prop) (p : Service α) (R : α → Stores → Prop) (s : Stores) :
    Prop :=
  Sat world (fun _ _ => True) p
    (fun out s' => CaseWork K s s' ∧ ∀ a, out = .ok a → R a s') s

/-- Returning is no work. -/
theorem Works.ret {a : α} {R : α → Stores → Prop} (h : R a s) : Works K (.ret a) R s :=
  ⟨.refl s, by rintro b ⟨⟩; exact h⟩

/-- Raising is no work. -/
theorem Works.raise {e : PyError} {R : α → Stores → Prop} : Works K (.raise e) R s :=
  ⟨.refl s, by rintro b ⟨⟩⟩

/-- A sequence works on cases where its parts do, the second from the stores of the first. -/
theorem Works.bind {p : Service α} {f : α → Service β} {R : α → Stores → Prop}
    {R' : β → Stores → Prop} (hp : Works K p R s)
    (hf : ∀ a s', CaseWork K s s' → R a s' → Works K (f a) R' s') : Works K (p.bind f) R' s := by
  apply sat_bind.mpr
  apply Sat.mono hp
  rintro (e | a) s' ⟨hwork, hresult⟩
  · exact ⟨hwork, by rintro b ⟨⟩⟩
  · apply Sat.mono (hf a s' hwork (hresult a rfl))
    rintro out s'' ⟨hnext, hlast⟩
    exact ⟨hwork.trans hnext, hlast⟩

/-- A handler works on cases where the program and the handling do. -/
theorem Works.handle {p : Service α} {f : PyError → Service α} {R : α → Stores → Prop}
    (hp : Works K p R s) (hf : ∀ e s', CaseWork K s s' → Works K (f e) R s') :
    Works K (Prog.handle p f) R s := by
  apply sat_handle.mpr
  apply Sat.mono hp
  rintro (e | a) s' ⟨hwork, hresult⟩
  · apply Sat.mono (hf e s' hwork)
    rintro out s'' ⟨hnext, hlast⟩
    exact ⟨hwork.trans hnext, hlast⟩
  · exact ⟨hwork, hresult⟩

/-- A result without effects is no work. -/
theorem Works.ofExcept {x : Except PyError α} {R : α → Stores → Prop}
    (h : ∀ a, x = .ok a → R a s) : Works K (.ofExcept x) R s := by
  apply sat_ofExcept.mpr
  exact ⟨.refl s, h⟩

/-- After a result without effects the rest works on cases where it does at the value. -/
theorem Works.bind_ofExcept {x : Except PyError α} {f : α → Service β} {R : β → Stores → Prop}
    (h : ∀ a, x = .ok a → Works K (f a) R s) : Works K ((Prog.ofExcept x).bind f) R s := by
  cases x with
  | error e => exact .raise
  | ok a => exact h a rfl

/-- An operation that changes neither cases nor findings. -/
theorem Works.aside {o : Operation} {f : o.Answer → Service β} {R : β → Stores → Prop}
    (ho : Aside o) (hf : ∀ a s', CaseWork K s s' → Works K (f a) R s') :
    Works K ((perform o).bind f) R s := by
  apply sat_bind_perform_iff.mpr
  refine ⟨trivial, ?_, ?_⟩
  · intro a s' hstep
    obtain ⟨hcases, hfindings⟩ := CaseWork.of_step hstep (.inl ho)
    have hwork : CaseWork K s s' := .of_eq hcases hfindings
    apply Sat.mono (hf a s' hwork)
    rintro out s'' ⟨hnext, hlast⟩
    exact ⟨hwork.trans hnext, hlast⟩
  · intro e s' hstep
    obtain ⟨hcases, hfindings⟩ := CaseWork.of_step hstep (.inr ⟨e, rfl⟩)
    exact ⟨.of_eq hcases hfindings, by rintro b ⟨⟩⟩

/-- Such an operation alone. -/
theorem Works.alone {o : Operation} {R : Stores → Prop} (ho : Aside o)
    (hR : ∀ s', CaseWork K s s' → R s') : Works K (perform o) (fun _ s' => R s') s := by
  apply sat_perform.mpr
  refine ⟨trivial, ?_⟩
  intro r s' hstep
  obtain ⟨hcases, hfindings⟩ := CaseWork.of_step hstep (.inl ho)
  have hwork : CaseWork K s s' := .of_eq hcases hfindings
  exact ⟨hwork, fun _ _ => hR s' hwork⟩

/-- A reading, which answers what the stores hold. -/
theorem Works.read {o : Operation} {f : o.Answer → Service β} {R : β → Stores → Prop}
    {answer : Except PyError o.Answer} (hread : s.perform o = some (answer, s))
    (hf : ∀ a, answer = .ok a → Works K (f a) R s) : Works K ((perform o).bind f) R s :=
  sat_bind_read hread hf fun _ => ⟨.refl s, by rintro b ⟨⟩⟩

end work

section cases

variable {tenantId : String} {K : RemediationCase → Prop} {s s' : Stores}

/-- A case that is read is in the table. -/
theorem holds_of_get {caseId : String} {case : RemediationCase}
    (h : s.cases.get caseId = .ok case) : case ∈ s.cases.cases ∧ case.caseId = caseId := by
  have hfind := CaseTables.get_eq_ok.mp h
  exact ⟨Rows.mem_of_find hfind, CaseTables.case?_caseId hfind⟩

/-- The live case of an asset is in the table. -/
theorem holds_of_active {assetId : String} {case : RemediationCase}
    (h : s.cases.findActiveByAsset tenantId assetId = some case) : s.Holds case.caseId :=
  ⟨case, Rows.mem_of_find (CaseTables.case?_of_findActiveByAsset h), rfl⟩

/-- An event keeps what transitions keep, and its case stays held. -/
theorem advance_works (hrule : CaseRule tenantId K) {caseId : String}
    {transition : CaseTransition} {args : TransitionArgs} :
    Works K (advance caseId transition args) (fun case s' => s'.Holds case.caseId) s := by
  unfold advance
  simp only [Prog.bind_eq, Prog.pure_eq]
  apply Works.read (o := .advanceRead caseId transition args) rfl
  intro current hcurrent
  obtain ⟨hmember, -⟩ := holds_of_get hcurrent
  apply Works.bind_ofExcept
  rintro ⟨projection, event⟩ hmove
  apply Works.bind (R := fun _ s' => s'.Holds projection.caseId)
  · apply sat_perform.mpr
    refine ⟨trivial, ?_⟩
    intro r s' hstep
    have hfindings : s'.findings = s.findings := by
      obtain heq | ⟨finding, heq, -⟩ | ⟨findingId, caseId, heq, -⟩ := world_findings hstep
      · exact heq
      · cases heq
      · cases heq
    obtain heq | ⟨case, heq, -⟩ | ⟨case, event', v, heq, happend⟩ := world_caseTables hstep
    · refine ⟨.of_eq heq hfindings, ?_⟩
      rintro ⟨⟩ rfl
      have happend := world_ok hstep (by simp [Stores.perform])
      simp only [Stores.perform, commit, Option.some.injEq] at happend
      split at happend
      · rename_i tables htables
        cases happend
        exact ⟨projection, Rows.mem_of_find (CaseTables.case?_append_self htables), rfl⟩
      · cases happend
    · cases heq
    · cases heq
      obtain ⟨-, -, -, -, hcases, -, -⟩ := CaseTables.append_eq_ok happend
      refine ⟨⟨?_, ?_, hfindings⟩, ?_⟩
      · intro hall case hcase
        rw [hcases] at hcase
        obtain hold | rfl := Rows.mem_replace hcase
        · exact hall case hold
        · exact hrule.moved (hall current hmember) hmove
      · rintro heldId ⟨case, hcase, rfl⟩
        have hids : s'.cases.cases.map RemediationCase.caseId =
            s.cases.cases.map RemediationCase.caseId := by
          rw [hcases]
          exact Rows.map_key_replace
        have hid : case.caseId ∈ s'.cases.cases.map RemediationCase.caseId := by
          rw [hids]
          exact List.mem_map_of_mem hcase
        exact List.mem_map.mp hid
      · intro _ _
        exact ⟨projection, Rows.mem_of_find (CaseTables.case?_append_self happend), rfl⟩
  · intro _ s' _ hheld
    exact .ret hheld

/-- Looking for the live case of an asset is no work. -/
theorem activeCaseOf_works {assetIds : List String} :
    Works K (activeCaseOf tenantId assetIds) (fun _ _ => True) s := by
  induction assetIds generalizing s with
  | nil => exact .ret trivial
  | cons assetId rest ih =>
    unfold activeCaseOf
    simp only [Prog.bind_eq, Prog.pure_eq]
    apply Works.aside (o := .findActiveByAsset tenantId assetId) trivial
    intro active s' _
    cases active with
    | none => exact ih
    | some case => exact .ret trivial

/-- A case that is created is held. -/
theorem createCase_works {case : RemediationCase} (hcase : K case) :
    Works K (createCase case) (fun _ s' => s'.Holds case.caseId) s := by
  unfold createCase
  apply Works.handle
  · apply sat_perform.mpr
    refine ⟨trivial, ?_⟩
    intro r s' hstep
    have hfindings : s'.findings = s.findings := by
      obtain heq | ⟨finding, heq, -⟩ | ⟨findingId, caseId, heq, -⟩ := world_findings hstep
      · exact heq
      · cases heq
      · cases heq
    obtain heq | ⟨inserted, heq, hinsert⟩ | ⟨case, event', v, heq, -⟩ := world_caseTables hstep
    · refine ⟨.of_eq heq hfindings, ?_⟩
      rintro ⟨⟩ rfl
      have hinsert := world_ok hstep (by simp [Stores.perform])
      simp only [Stores.perform, commit, Option.some.injEq] at hinsert
      split at hinsert
      · rename_i tables htables
        cases hinsert
        exact ⟨case, Rows.mem_of_find (CaseTables.case?_insert_self htables), rfl⟩
      · cases hinsert
    · cases heq
      obtain ⟨-, hcases, -, -⟩ := CaseTables.insert_eq_ok hinsert
      refine ⟨⟨?_, ?_, hfindings⟩, ?_⟩
      · intro hall other hother
        rw [hcases, List.mem_append, List.mem_singleton] at hother
        obtain hold | rfl := hother
        · exact hall other hold
        · exact hcase
      · rintro heldId ⟨other, hother, rfl⟩
        refine ⟨other, ?_, rfl⟩
        rw [hcases]
        exact List.mem_append_left _ hother
      · intro _ _
        exact ⟨case, Rows.mem_of_find (CaseTables.case?_insert_self hinsert), rfl⟩
    · cases heq
  · intro e s' _
    split
    · simp only [Prog.bind_eq]
      apply Works.bind (R := fun _ _ => True)
      · exact activeCaseOf_works
      · intro active s'' _ _
        cases active with
        | none => exact .raise
        | some other => exact .raise
    · exact .raise

/-- A case that is opened for the tenant is held. -/
theorem openAndCreate_works (hrule : CaseRule tenantId K) {caseId now : String}
    {findingIds assetIds serviceIds : List String} :
    Works K (openAndCreate caseId tenantId findingIds assetIds serviceIds now)
      (fun case s' => s'.Holds case.caseId) s := by
  unfold openAndCreate
  simp only [Prog.bind_eq, Prog.pure_eq]
  apply Works.bind_ofExcept
  intro case hcase
  apply Works.bind (createCase_works (hrule.opened hcase))
  intro _ s' _ hheld
  exact .ret hheld

/-- The conflict a program lost, or its value. -/
theorem catchConflict_works {α : Type} {p : Service α} {R : α → Stores → Prop}
    (h : Works K p R s) :
    Works K (catchConflict p) (fun result s' => ∀ a, result = .ok a → R a s') s := by
  unfold catchConflict
  apply Works.handle
  · simp only [Prog.bind_eq, Prog.pure_eq]
    apply Works.bind h
    intro a s' _ hresult
    exact .ret (by rintro b ⟨⟩; exact hresult)
  · intro e s' _
    split
    · exact .ret (by rintro b ⟨⟩)
    · exact .raise

end cases

section attaching

variable {tenantId : String} {K : RemediationCase → Prop} {s s' : Stores}
variable {finding : StoredFinding} {incoming : RiskAssessment} {now : String}
variable {current : RemediationCase}

/-- Adding a finding to a case answers a case of the table. -/
theorem addFinding_works (hrule : CaseRule tenantId K) :
    Works K (addFinding finding now current) (fun case s' => s'.Holds case.caseId) s := by
  unfold addFinding
  simp only [Prog.bind_eq]
  apply Works.aside (o := .newId "EVT") trivial
  intro eventId s' _
  exact advance_works hrule

/-- Ranking a case answers a case of the table. -/
theorem rankWith_works (hrule : CaseRule tenantId K) {transition : CaseTransition} :
    Works K (rankWith transition incoming now current) (fun case s' => s'.Holds case.caseId) s := by
  unfold rankWith
  simp only [Prog.bind_eq]
  apply Works.aside (o := .newId "EVT") trivial
  intro eventId s' _
  exact advance_works hrule

/-- A case that is ranked stays held. -/
theorem rankCase_works (hrule : CaseRule tenantId K) (hheld : s.Holds current.caseId) :
    Works K (rankCase incoming now current) (fun result s' => s'.Holds result.1.caseId) s := by
  have hranked : ∀ {risk transition} {s : Stores}, Works K
      ((rankWith transition risk now current).bind fun case => Prog.ret (case, true))
      (fun result s' => s'.Holds result.1.caseId) s := by
    intro risk transition s
    apply Works.bind (rankWith_works hrule)
    intro case s' _ hcase
    exact .ret hcase
  unfold rankCase
  simp only [Prog.bind_eq, Prog.pure_eq]
  split
  · exact hranked
  · split
    · exact hranked
    · split
      · apply Works.aside (o := .newId "RISK") trivial
        intro riskId s' _
        apply Works.bind_ofExcept
        intro merged _
        exact hranked
      · exact .ret hheld

/-- A turn of the loop keeps the case held. -/
theorem settleTurn_works (hrule : CaseRule tenantId K) (hheld : s.Holds current.caseId)
    {attached : Bool} :
    Works K (settleTurn finding incoming now current attached)
      (fun turn s' => ∀ result, turn.1 = .ok result → s'.Holds result.1.caseId) s := by
  unfold settleTurn
  simp only [Prog.bind_eq, Prog.pure_eq]
  apply Works.bind (R := fun added s' => ∀ result, added = .ok result → s'.Holds result.1.caseId)
  · apply catchConflict_works
      (R := fun (result : RemediationCase × Bool) s' => s'.Holds result.1.caseId)
    split
    · apply Works.bind (addFinding_works hrule)
      intro case s' _ hcase
      exact .ret hcase
    · exact .ret hheld
  · rintro (e | ⟨case, attached'⟩) s' _ hadded
    · exact .ret (by rintro result ⟨⟩)
    · apply Works.bind (catchConflict_works (rankCase_works hrule (hadded _ rfl)))
      intro ranked s'' _ hranked
      exact .ret hranked

/-- The loop keeps the case held, however often it loses a conflict. -/
theorem settleCase_works (hrule : CaseRule tenantId K) {retries : ℕ} {attached : Bool}
    (hheld : s.Holds current.caseId) :
    Works K (settleCase finding incoming now retries current attached)
      (fun result s' => s'.Holds result.1.caseId) s := by
  induction retries generalizing s current attached with
  | zero =>
    unfold settleCase
    simp only [Prog.bind_eq, Prog.pure_eq]
    apply Works.bind (settleTurn_works hrule hheld)
    intro turn s' _ hturn
    apply Works.bind_ofExcept
    intro result hresult
    exact .ret (hturn result hresult)
  | succ retries ih =>
    unfold settleCase
    simp only [Prog.bind_eq, Prog.pure_eq]
    apply Works.bind (settleTurn_works hrule hheld)
    rintro ⟨e | result, attached'⟩ s' _ hturn
    · apply Works.read (o := .getCase current.caseId) rfl
      intro case hcase
      obtain ⟨hmember, hid⟩ := holds_of_get hcase
      exact ih ⟨case, hmember, rfl⟩
    · exact .ret (hturn result rfl)

/-- The case of an asset is held. -/
theorem caseForAsset_works {request : IntakeRequest} (hrule : CaseRule request.tenantId K)
    {assetId : String} {active : Option RemediationCase}
    (hactive : ∀ case, active = some case → s.Holds case.caseId) :
    Works K (caseForAsset request finding assetId now active)
      (fun result s' => s'.Holds result.1.caseId) s := by
  cases active with
  | some case => exact .ret (hactive case rfl)
  | none =>
    unfold caseForAsset
    apply Works.handle
    · simp only [Prog.bind_eq, Prog.pure_eq]
      apply Works.aside (o := .newId "CASE") trivial
      intro caseId s' _
      apply Works.bind (openAndCreate_works hrule)
      intro case s'' _ hcase
      exact .ret hcase
    · intro e s' _
      split
      · simp only [Prog.bind_eq, Prog.pure_eq]
        apply Works.read (o := .findActiveByAsset request.tenantId assetId) rfl
        intro found hfound
        have hfound := Except.ok.inj hfound
        cases found with
        | none => exact .raise
        | some case =>
          dsimp only
          split
          · apply Works.bind (addFinding_works hrule)
            intro case' s'' _ hcase
            exact .ret hcase
          · exact .ret (holds_of_active hfound)
      · exact .raise

/-- What attaching a stored finding does: it is assigned to a held case, or nothing is. -/
structure Attaches (K : RemediationCase → Prop) (finding : StoredFinding) (created : Bool)
    (s : Stores) (out : Except PyError IntakeOutcome) (s' : Stores) : Prop where
  keeps : s.AllCases K → s'.AllCases K
  holds : ∀ caseId, s.Holds caseId → s'.Holds caseId
  findings : s'.findings = s.findings ∨ ∃ caseId, s'.Holds caseId ∧
    s.findings.assign finding.findingId caseId = .ok s'.findings
  returned : ∀ outcome, out = .ok outcome → outcome.duplicate = !created ∧
    s'.findings.get finding.findingId = .ok outcome.finding ∧
    ∃ caseId, s'.Holds caseId ∧ s.findings.assign finding.findingId caseId = .ok s'.findings

/-- What is attached, from the stores as they are after some work. -/
theorem Attaches.after {created : Bool} {out : Except PyError IntakeOutcome} {s'' : Stores}
    (hwork : CaseWork K s s') (h : Attaches K finding created s' out s'') :
    Attaches K finding created s out s'' := by
  obtain ⟨hkeeps, hholds, hfindings, hreturned⟩ := h
  rw [hwork.findings] at hfindings hreturned
  exact ⟨fun hall => hkeeps (hwork.keeps hall), fun caseId hheld =>
    hholds caseId (hwork.holds caseId hheld), hfindings, hreturned⟩

/-- Work that raises attaches nothing. -/
theorem Attaches.raised {created : Bool} {e : PyError} (hwork : CaseWork K s s') :
    Attaches K finding created s (.error e) s' :=
  ⟨hwork.keeps, hwork.holds, .inl hwork.findings, by rintro outcome ⟨⟩⟩

/-- The step from the settled case to the outcome. -/
theorem assign_attaches {created caseCreated attached changed : Bool}
    (hheld : s.Holds current.caseId) :
    Sat world (fun _ _ => True)
      ((assignCase finding.findingId current.caseId).bind fun found => Prog.ret
        { finding := found, case := current, duplicate := !created, caseCreated,
          findingAttached := attached, priorityChanged := changed })
      (Attaches K finding created s) s := by
  unfold assignCase
  simp only [Prog.bind_eq, Prog.bind_assoc]
  apply sat_bind_perform_iff.mpr
  refine ⟨trivial, ?_, ?_⟩
  · rintro ⟨⟩ s' hstep
    have hassign := world_ok hstep (by simp [Stores.perform])
    simp only [Stores.perform, commit, Option.some.injEq] at hassign
    split at hassign
    · rename_i table htable
      cases hassign
      have hassigned : Attaches K finding created s (.error (valueError ""))
          { s with findings := table } :=
        ⟨id, fun _ h => h, .inr ⟨current.caseId, hheld, htable⟩, by rintro outcome ⟨⟩⟩
      apply sat_bind_read rfl
      · intro found hfound
        refine ⟨id, fun _ h => h, hassigned.findings, ?_⟩
        rintro outcome ⟨⟩
        exact ⟨rfl, hfound, current.caseId, hheld, htable⟩
      · intro e
        exact ⟨id, fun _ h => h, hassigned.findings, by rintro outcome ⟨⟩⟩
    · cases hassign
  · intro e s' hstep
    obtain ⟨hcases, hfindings⟩ := CaseWork.of_step hstep (.inr ⟨e, rfl⟩)
    exact .raised (.of_eq hcases hfindings)

/-- From the stored finding on, an ingest attaches it to a held case. -/
theorem attachFinding_attaches {S : Settings} {request : IntakeRequest}
    (hrule : CaseRule request.tenantId K) {created : Bool} :
    Sat world (fun _ _ => True) (attachFinding S request finding created)
      (Attaches K finding created s) s := by
  -- The stores before the assignment differ from the first ones by work on the cases only.
  have hbind : ∀ {α : Type} {p : Service α} {f : α → Service IntakeOutcome}
      {R : α → Stores → Prop} {s : Stores}, Works K p R s →
      (∀ a s', R a s' → Sat world (fun _ _ => True) (f a) (Attaches K finding created s') s') →
      Sat world (fun _ _ => True) (p.bind f) (Attaches K finding created s) s := by
    intro α p f R s hp hf
    apply sat_bind.mpr
    apply Sat.mono hp
    rintro (e | a) s' ⟨hwork, hresult⟩
    · exact .raised hwork
    · apply Sat.mono (hf a s' (hresult a rfl))
      intro out s'' hattached
      exact hattached.after hwork
  unfold attachFinding
  simp only [Prog.bind_eq, Prog.pure_eq]
  apply hbind (Works.ofExcept (R := fun _ _ => True) fun _ _ => trivial)
  intro assetId s _
  apply hbind (R := fun active s' => ∀ case, active = some case → s'.Holds case.caseId)
  · apply sat_perform.mpr
    refine ⟨trivial, ?_⟩
    intro r s' hstep
    obtain ⟨hcases, hfindings⟩ := CaseWork.of_step hstep (.inl trivial)
    refine ⟨.of_eq hcases hfindings, ?_⟩
    rintro active rfl case rfl
    have hread := world_ok hstep (by simp [Stores.perform])
    simp only [Stores.perform, Option.some.injEq, Prod.mk.injEq, Except.ok.injEq] at hread
    obtain ⟨hactive, rfl⟩ := hread
    exact holds_of_active hactive
  intro active s hactive
  apply hbind (Works.alone (o := .now)
    (R := fun s' => ∀ case, active = some case → s'.Holds case.caseId)
    trivial fun s' hwork case hcase => hwork.holds _ (hactive case hcase))
  intro now s hactive
  apply hbind (Works.alone (o := .newId "RISK")
    (R := fun s' => ∀ case, active = some case → s'.Holds case.caseId)
    trivial fun s' hwork case hcase => hwork.holds _ (hactive case hcase))
  intro riskId s hactive
  apply hbind (Works.ofExcept (R := fun _ s' => ∀ case, active = some case →
    s'.Holds case.caseId) fun _ _ => hactive)
  intro incoming s hactive
  apply hbind (caseForAsset_works hrule hactive)
  rintro ⟨current, caseCreated, attached⟩ s hheld
  apply hbind (settleCase_works hrule hheld)
  rintro ⟨current, attached, changed⟩ s hheld
  exact assign_attaches hheld

end attaching

section storing

variable {S : Settings} {request : IntakeRequest} {source : SourceKey} {s : Stores}

/-- The finding that `existingFinding` looks up in a table. -/
def recognised (P : Platform) (findings : FindingTable) (raw : Document) (source : SourceKey) :
    Except PyError (Option StoredFinding) := do
  let existing := findings.getBySource source
  let findingInfo ← sectionOr raw "finding_info"
  let rawUid := findingInfo.text "uid"
  if existing.isNone ∧ source.originalUid ≠ rawUid ∧ rawUid ≠ "" then
    match findings.getBySource { source with originalUid := rawUid } with
    | some legacy => do
      let same ← sameLegacy P raw legacy
      return if same then some legacy else none
    | none => return none
  else return existing

/-- The look-up reads the table and changes nothing. -/
theorem existingFinding_reads :
    Sat world (fun _ _ => True) (existingFinding S request source)
      (fun out s' => s' = s ∧ ∀ existing, out = .ok existing →
        recognised S.platform s.findings request.raw source = .ok existing) s := by
  have hraised : ∀ e : PyError, s = s ∧ ∀ existing,
      (.error e : Except PyError (Option StoredFinding)) = .ok existing →
        recognised S.platform s.findings request.raw source = .ok existing := by
    intro e
    exact ⟨rfl, by rintro existing ⟨⟩⟩
  unfold existingFinding
  simp only [Prog.bind_eq, Prog.pure_eq]
  apply sat_bind_read (o := .getBySource source) rfl _ hraised
  intro existing hexisting
  obtain rfl := Except.ok.inj hexisting
  apply sat_bind_ofExcept.mpr
  refine ⟨?_, fun e _ => hraised e⟩
  intro findingInfo hinfo
  apply sat_ite.mpr
  constructor
  · intro hlegacy
    apply sat_bind_read (o := .getBySource { source with originalUid := findingInfo.text "uid" })
      rfl _ hraised
    intro legacy hlegacy'
    have hlegacy' := Except.ok.inj hlegacy'
    cases legacy with
    | none =>
      refine ⟨rfl, ?_⟩
      rintro existing ⟨⟩
      simp only [recognised, hinfo, bind, Except.bind, if_pos hlegacy, hlegacy']
      rfl
    | some legacy =>
      apply sat_bind_ofExcept.mpr
      refine ⟨?_, fun e _ => hraised e⟩
      intro same hsame
      refine ⟨rfl, ?_⟩
      rintro existing ⟨⟩
      simp only [recognised, hinfo, bind, Except.bind, if_pos hlegacy, hlegacy', hsame]
      rfl
  · intro hdirect
    refine ⟨rfl, ?_⟩
    rintro existing ⟨⟩
    simp only [recognised, hinfo, bind, Except.bind, if_neg hdirect]
    rfl

/-- A finding that was built from a raw event. -/
structure BuiltFinding (P : Platform) (raw : Document) (source : SourceKey)
    (finding : StoredFinding) : Prop where
  source_eq : finding.source = source
  unassigned : finding.caseId = none
  record : ∃ findingId rawRef normalised, normalisedRecord P raw findingId rawRef = .ok normalised ∧
    (finding.record = normalised ∨
      ∃ extensions, finding.record = normalised.set "vendor_extensions" extensions)
  target : ∃ provider resourceUid region, cloudTarget P raw = .ok (provider, resourceUid, region) ∧
    finding.resourceUid = resourceUid.str?.getD ""

/-- Writing evidence changes neither cases nor findings. -/
theorem aside_writeEvidence {P : Platform} {runDir evidenceId kind payload : String}
    {collector : Collector} {sensitivity commandId now : String} :
    (writeEvidence P runDir evidenceId kind payload collector sensitivity commandId now).Uses
      Aside := by
  refine Prog.uses_raiseIf.bind fun _ => ?_
  refine (Prog.uses_perform trivial).bind fun _ => ?_
  exact (Prog.uses_perform trivial).bind fun _ => trivial

/-- Reading a document changes neither cases nor findings. -/
theorem aside_normaliseOcsf {P : Platform} {raw : Document} {runDir findingId now : String}
    {collector : Collector} : (normaliseOcsf P raw runDir findingId collector now).Uses Aside := by
  refine Prog.uses_raiseIf.bind fun _ => ?_
  refine Prog.uses_ofExcept.bind fun _ => ?_
  refine Prog.uses_ofExcept.bind fun _ => ?_
  refine Prog.uses_ofExcept.bind fun _ => ?_
  exact aside_writeEvidence.bind fun _ => Prog.uses_ofExcept

/-- Building a finding changes neither cases nor findings. -/
theorem aside_buildFinding {findingId namespaceOf now : String} :
    (buildFinding S request source findingId namespaceOf now).Uses Aside := by
  refine aside_normaliseOcsf.bind fun _ => ?_
  refine Prog.uses_raiseIf.bind fun _ => ?_
  refine Prog.uses_ofExcept.bind fun _ => ?_
  exact Prog.uses_ofExcept.bind fun _ => trivial

/-- The record of a raw event is the normalised one. -/
theorem normaliseOcsf_returns {P : Platform} {raw : Document} {runDir findingId now : String}
    {collector : Collector} :
    (normaliseOcsf P raw runDir findingId collector now).Returns fun record =>
      ∃ rawRef, normalisedRecord P raw findingId rawRef = .ok record := by
  unfold normaliseOcsf
  simp only [Prog.bind_eq]
  refine Prog.returns_bind fun _ => Prog.returns_bind fun _ => Prog.returns_bind fun _ => ?_
  refine Prog.returns_bind fun _ => Prog.returns_bind fun rawRef => ?_
  cases hrecord : normalisedRecord P raw findingId rawRef.toDict with
  | error e => trivial
  | ok record => exact ⟨_, hrecord⟩

/-- A finding that is built is built from the document and its source. -/
theorem buildFinding_returns {findingId namespaceOf now : String} :
    (buildFinding S request source findingId namespaceOf now).Returns fun finding =>
      BuiltFinding S.platform request.raw source finding := by
  unfold buildFinding
  simp only [Prog.bind_eq, Prog.pure_eq]
  refine normaliseOcsf_returns.bind fun normalised hnormalised => ?_
  obtain ⟨rawRef, hnormalised⟩ := hnormalised
  refine Prog.returns_bind fun _ => ?_
  refine Prog.returns_bind_ofExcept fun target htarget => ?_
  obtain ⟨provider, resourceUid, region⟩ := target
  refine Prog.returns_bind fun signals => ?_
  refine ⟨rfl, rfl, ⟨findingId, rawRef, normalised, hnormalised, ?_⟩, provider, resourceUid,
    region, htarget, rfl⟩
  cases request.assetContext with
  | none => exact .inl rfl
  | some context => exact .inr ⟨_, rfl⟩

/-- What storing a finding does: one built from the raw event is put, or nothing is. -/
structure Stored (P : Platform) (raw : Document) (source : SourceKey) (s : Stores)
    (out : Except PyError (StoredFinding × Bool)) (s' : Stores) : Prop where
  cases : s'.cases = s.cases
  findings : s'.findings = s.findings ∨ ∃ finding, BuiltFinding P raw source finding ∧
    s.findings.put finding = .ok s'.findings
  returned : ∀ finding created, out = .ok (finding, created) →
    created = true ∧ BuiltFinding P raw source finding ∧
        s.findings.put finding = .ok s'.findings ∨
      created = false ∧ s'.findings = s.findings ∧
        s.findings.getBySource source = some finding

/-- What is stored, from the stores as they were before operations of another kind. -/
theorem Stored.after {P : Platform} {raw : Document} {s s' s'' : Stores}
    {out : Except PyError (StoredFinding × Bool)} (hcases : s'.cases = s.cases)
    (hfindings : s'.findings = s.findings) (h : Stored P raw source s' out s'') :
    Stored P raw source s out s'' := by
  obtain ⟨hkept, hput, hreturned⟩ := h
  rw [hfindings] at hput hreturned
  exact ⟨hkept.trans hcases, hput, hreturned⟩

/-- Where the cases and the findings are as before, an error may be raised. -/
theorem Stored.raised {P : Platform} {raw : Document} {s s' : Stores} {e : PyError}
    (hcases : s'.cases = s.cases) (hfindings : s'.findings = s.findings) :
    Stored P raw source s (.error e) s' :=
  ⟨hcases, .inl hfindings, by rintro finding created ⟨⟩⟩

/-- A program of other operations before the finding is stored. -/
theorem Stored.bind {α : Type} {P : Platform} {raw : Document} {p : Service α}
    {f : α → Service (StoredFinding × Bool)} {R : α → Prop} {s : Stores} (huses : p.Uses Aside)
    (hreturns : p.Returns R)
    (hf : ∀ a s', R a → Sat world (fun _ _ => True) (f a) (Stored P raw source s') s') :
    Sat world (fun _ _ => True) (p.bind f) (Stored P raw source s) s := by
  induction p generalizing s with
  | ret a => exact hf a s hreturns
  | raise e => exact .raised rfl rfl
  | call o next ih =>
    refine ⟨trivial, ?_⟩
    intro r s' hstep
    obtain ⟨hcases, hfindings⟩ := CaseWork.of_step hstep (.inl huses.1)
    apply Sat.mono (ih r (huses.2 r) (hreturns r))
    intro out s'' hstored
    exact hstored.after hcases hfindings

/-- Storing a finding puts at most the finding of the source that was read. -/
theorem storeFinding_stored :
    Sat world (fun _ _ => True) (storeFinding S request source)
      (Stored S.platform request.raw source s) s := by
  have hperform : ∀ {o : Operation}, Aside o → (perform o : Service o.Answer).Uses Aside :=
    fun ho => Prog.uses_perform ho
  unfold storeFinding
  simp only [Prog.bind_eq, Prog.pure_eq]
  apply Stored.bind (hperform (o := .newId "FIND") trivial) Prog.returns_true
  intro findingId s _
  apply Stored.bind (hperform (o := .makeDirectory _ _) trivial) Prog.returns_true
  intro _ s _
  apply Stored.bind (hperform (o := .now) trivial) Prog.returns_true
  intro now s _
  apply Stored.bind aside_buildFinding buildFinding_returns
  intro finding s hbuilt
  apply sat_handle.mpr
  apply sat_bind_perform_iff.mpr
  refine ⟨trivial, ?_, ?_⟩
  · rintro ⟨⟩ s' hstep
    have hput := world_ok hstep (by simp [Stores.perform])
    simp only [Stores.perform, commit, Option.some.injEq] at hput
    split at hput
    · rename_i table htable
      cases hput
      refine ⟨rfl, .inr ⟨finding, hbuilt, htable⟩, ?_⟩
      rintro found created ⟨⟩
      exact .inl ⟨rfl, hbuilt, htable⟩
    · cases hput
  · intro e s' hstep
    obtain ⟨hcases, hfindings⟩ := CaseWork.of_step hstep (.inr ⟨e, rfl⟩)
    dsimp only
    split
    · apply Sat.mono (Q := Stored S.platform request.raw source s')
      · apply Stored.bind (hperform (o := .removeTree _) trivial) Prog.returns_true
        intro _ s _
        apply sat_bind_read (o := .getBySource source) rfl
        · intro winner hwinner
          have hwinner := Except.ok.inj hwinner
          cases winner with
          | none => exact .raised rfl rfl
          | some winner =>
            refine ⟨rfl, .inl rfl, ?_⟩
            rintro found created ⟨⟩
            exact .inr ⟨rfl, rfl, hwinner⟩
        · intro e
          exact .raised rfl rfl
      · intro out s'' hstored
        exact hstored.after hcases hfindings
    · exact .raised hcases hfindings

end storing

section ingesting

variable {S : Settings} {request : IntakeRequest} {K : RemediationCase → Prop} {s : Stores}

/-- The finding of an outcome was found, and it was assigned before or is assigned now. -/
structure AnsweredBy (s : Stores) (found : StoredFinding) (outcome : IntakeOutcome)
    (s' : Stores) : Prop where
  duplicate : outcome.duplicate = true
  answered : outcome.finding = found ∧ s'.findings = s.findings ∧ found.caseId.getD "" ≠ "" ∨
    ∃ caseId, s'.Holds caseId ∧ s.findings.assign found.findingId caseId = .ok s'.findings ∧
      s'.findings.get found.findingId = .ok outcome.finding

/-- The finding of an outcome was built from the raw event, put and assigned. -/
structure CreatedBy (P : Platform) (raw : Document) (source : SourceKey) (s : Stores)
    (outcome : IntakeOutcome) (s' : Stores) : Prop where
  fresh : outcome.duplicate = false
  created : ∃ finding middle caseId, BuiltFinding P raw source finding ∧
    s.findings.put finding = .ok middle ∧ s'.Holds caseId ∧
    FindingTable.assign middle finding.findingId caseId = .ok s'.findings ∧
    s'.findings.get finding.findingId = .ok outcome.finding

/-- Everything an ingest does to the stores, and what an outcome of it says. -/
structure Ingests (K : RemediationCase → Prop) (S : Settings) (request : IntakeRequest)
    (s : Stores) (out : Except PyError IntakeOutcome) (s' : Stores) : Prop where
  keeps : s.AllCases K → s'.AllCases K
  holds : ∀ caseId, s.Holds caseId → s'.Holds caseId
  table : ∃ middle, (middle = s.findings ∨ ∃ source finding,
      intakeSource S request = .ok source ∧
      BuiltFinding S.platform request.raw source finding ∧
      s.findings.put finding = .ok middle) ∧
    (s'.findings = middle ∨ ∃ findingId caseId, s'.Holds caseId ∧
      FindingTable.assign middle findingId caseId = .ok s'.findings)
  returned : ∀ outcome, out = .ok outcome → ∃ source existing,
    intakeSource S request = .ok source ∧
    recognised S.platform s.findings request.raw source = .ok existing ∧
    ((∃ found, existing = some found ∧ AnsweredBy s found outcome s') ∨
      existing = none ∧ CreatedBy S.platform request.raw source s outcome s')

/-- Intake may raise where nothing has changed. -/
theorem Ingests.raised {e : PyError} : Ingests K S request s (.error e) s :=
  ⟨id, fun _ h => h, ⟨_, .inl rfl, .inl rfl⟩, by rintro outcome ⟨⟩⟩

/-- An ingest answers with the finding it recognises, or it creates one. -/
theorem ingest_ingests (hrule : CaseRule request.tenantId K) :
    Sat world (fun _ _ => True) (ingest S request) (Ingests K S request s) s := by
  unfold ingest
  simp only [Prog.bind_eq, Prog.pure_eq]
  apply sat_bind_ofExcept.mpr
  refine ⟨?_, fun e _ => .raised⟩
  intro source hsource
  apply sat_bind.mpr
  apply Sat.mono existingFinding_reads
  rintro (e | existing) s₁ ⟨rfl, hread⟩
  · exact .raised
  have hrecognised := hread existing rfl
  cases existing with
  | some found =>
    dsimp only
    apply sat_ite.mpr
    constructor
    · intro hassigned
      apply sat_bind_read (o := .getCase (found.caseId.getD "")) rfl
      · intro case _
        refine ⟨id, fun _ h => h, ⟨_, .inl rfl, .inl rfl⟩, ?_⟩
        rintro outcome ⟨⟩
        exact ⟨source, some found, hsource, hrecognised, .inl ⟨found, rfl, rfl,
          .inl ⟨rfl, rfl, hassigned⟩⟩⟩
      · intro e
        exact .raised
    · intro _
      apply Sat.mono (attachFinding_attaches hrule)
      intro out s' hattached
      refine ⟨hattached.keeps, hattached.holds, ⟨_, .inl rfl, ?_⟩, ?_⟩
      · obtain heq | ⟨caseId, hheld, hassign⟩ := hattached.findings
        · exact .inl heq
        · exact .inr ⟨found.findingId, caseId, hheld, hassign⟩
      · intro outcome hout
        obtain ⟨hduplicate, hget, caseId, hheld, hassign⟩ := hattached.returned outcome hout
        exact ⟨source, some found, hsource, hrecognised, .inl ⟨found, rfl, hduplicate,
          .inr ⟨caseId, hheld, hassign, hget⟩⟩⟩
  | none =>
    dsimp only
    apply sat_bind.mpr
    apply Sat.mono storeFinding_stored
    rintro (e | ⟨finding, created⟩) s' hstored
    · refine ⟨?_, ?_, ⟨s'.findings, ?_, .inl rfl⟩, by rintro outcome ⟨⟩⟩
      · intro hall
        rw [Stores.AllCases, hstored.cases]
        exact hall
      · intro caseId hheld
        rw [Stores.Holds, hstored.cases]
        exact hheld
      · obtain heq | ⟨finding, hbuilt, hput⟩ := hstored.findings
        · exact .inl heq
        · exact .inr ⟨source, finding, hsource, hbuilt, hput⟩
    · -- A table without a finding of this source has no other winner.
      have hnone : s₁.findings.getBySource source = none := by
        by_contra hsome
        unfold recognised at hrecognised
        obtain ⟨findingInfo, _, hrecognised⟩ := except_bind_eq_ok.mp hrecognised
        rw [if_neg (by simp [hsome])] at hrecognised
        exact hsome (Except.ok.inj hrecognised)
      obtain ⟨rfl, hbuilt, hput⟩ | ⟨-, -, hwinner⟩ := hstored.returned finding created rfl
      · apply Sat.mono (attachFinding_attaches hrule)
        intro out s'' hattached
        refine ⟨?_, ?_, ⟨s'.findings, .inr ⟨source, finding, hsource, hbuilt, hput⟩, ?_⟩, ?_⟩
        · intro hall
          apply hattached.keeps
          rw [Stores.AllCases, hstored.cases]
          exact hall
        · intro caseId hheld
          apply hattached.holds
          rw [Stores.Holds, hstored.cases]
          exact hheld
        · obtain heq | ⟨caseId, hheld, hassign⟩ := hattached.findings
          · exact .inl heq
          · exact .inr ⟨finding.findingId, caseId, hheld, hassign⟩
        · intro outcome hout
          obtain ⟨hduplicate, hget, caseId, hheld, hassign⟩ := hattached.returned outcome hout
          exact ⟨source, none, hsource, hrecognised, .inr ⟨rfl, hduplicate, finding, s'.findings,
            caseId, hbuilt, hput, hheld, hassign, hget⟩⟩
      · rw [hnone] at hwinner
        cases hwinner

end ingesting

end ElCapitan
