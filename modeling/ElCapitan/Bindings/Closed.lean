import ElCapitan.Bindings.Supplied
import ElCapitan.Releases.Deployments

/-!
# What a case was closed on

A validation lists the findings of a case and closes it without action when none is confirmed.
Where the case that the validation re-reads holds no other finding than those it listed, a
closed case binds a record in which every finding of the case is not confirmed.
-/

namespace ElCapitan

open Effects

/-- A finding of a case that the store assigns to it is one the case lists. -/
def FindingsHeld (s : Stores) : Prop :=
  ∀ finding ∈ s.findings, ∀ caseId, finding.caseId = some caseId →
    ∃ case, s.cases.case? caseId = some case ∧ finding.findingId ∈ case.findingIds

section held

variable {ι : Type} [DecidableEq ι] {G : ι → Grounds} {C : Condition operations PyError Stores ι}
  {b b' : Board operations PyError Stores ι} {l : Label operations PyError ι}

omit [DecidableEq ι] in
/-- A case that a worker saw is stored, with its findings. -/
theorem Seen.stored {i : ι} {case : RemediationCase} (hshown : CasesShown b)
    (h : Seen (notes (b.histories i)) case) :
    ∃ later, b.store.cases.case? case.caseId = some later ∧ Follows case later := by
  cases h with
  | read h => exact hshown i _ (mem_of_mem_notes h) _ _ .read
  | found h => exact hshown i _ (mem_of_mem_notes h) _ _ .found
  | inserted h => exact hshown i _ (mem_of_mem_notes h) _ _ .inserted
  | appended h => exact hshown i _ (mem_of_mem_notes h) _ _ .appended

omit [DecidableEq ι] in
/-- A case that a worker knows to hold a finding is stored and holds it. -/
theorem Holds.stored {i : ι} {findingId caseId : String} (hshown : CasesShown b)
    (hhonest : Honest (b.histories i)) (h : Holds (notes (b.histories i)) findingId caseId) :
    ∃ case, b.store.cases.case? caseId = some case ∧ findingId ∈ case.findingIds := by
  induction h with
  | seen hseen hmem =>
    obtain ⟨later, hlater, hfollows⟩ := hseen.stored hshown
    exact ⟨later, hlater, hfollows.findingIds hmem⟩
  | reread _ hread ih =>
    have hid := (hhonest _ (mem_of_mem_notes hread) _ _ .reread).2 _ _ rfl
    rw [hid]
    exact ih

/-- A step of workers keeps the assigned findings in their cases. -/
theorem FindingsHeld.step
    (hstep : HistoryStep (fun i h o => Permitted (G i) (notes h) o) C b l b')
    (hhonest : ∀ i, Honest (b.histories i)) (hheld : FindingsHeld b.store) :
    FindingsHeld b'.store := by
  have hgrow : ∀ findingId caseId,
      (∃ case, b.store.cases.case? caseId = some case ∧ findingId ∈ case.findingIds) →
      ∃ case, b'.store.cases.case? caseId = some case ∧ findingId ∈ case.findingIds := by
    rintro findingId caseId ⟨case, hcase, hmem⟩
    obtain ⟨later, hlater, hfollows⟩ := hstep.cases.follows hcase
    exact ⟨later, hlater, hfollows.findingIds hmem⟩
  intro finding hfinding caseId hassigned
  rcases world_findings hstep.move.answered with hsame | ⟨put, he, hput⟩ |
      ⟨findingId, held, he, hassign⟩
  · rw [hsame] at hfinding
    exact hgrow _ _ (hheld finding hfinding caseId hassigned)
  · obtain ⟨hfindings, -⟩ := FindingTable.put_eq_ok hput
    rw [hfindings, List.mem_append, List.mem_singleton] at hfinding
    rcases hfinding with hfinding | rfl
    · exact hgrow _ _ (hheld finding hfinding caseId hassigned)
    · have hpermitted := hstep.move.permitted
      rw [show l.event.op = .putFinding finding from congrArg Event.op he] at hpermitted
      have hunassigned : finding.caseId = none := hpermitted
      rw [hunassigned] at hassigned
      cases hassigned
  · obtain ⟨stored, hstored, -, hfindings⟩ := FindingTable.assign_eq_ok hassign
    have hpermitted := hstep.move.permitted
    rw [show l.event.op = .assignFinding findingId held from congrArg Event.op he] at hpermitted
    rw [hfindings] at hfinding
    split at hfinding
    · rcases Rows.mem_replace hfinding with hfinding | rfl
      · exact hgrow _ _ (hheld finding hfinding caseId hassigned)
      · cases hassigned
        refine hgrow _ _ ?_
        rw [Rows.key_of_find hstored]
        exact hpermitted.stored hstep.shown (hhonest l.thread)
    · exact hgrow _ _ (hheld finding hfinding caseId hassigned)

/-- In every run of workers the assigned findings are in their cases. -/
theorem findings_held {ls : List (Label operations PyError ι)}
    (hrun : Steps (Board.StepIf world (fun i h o => Permitted (G i) (notes h) o) C)
      (Board.start {}) ls b) : FindingsHeld b.store := by
  obtain ⟨hhistory, -⟩ := history_run (fun _ _ _ ho => ho.lawful) hrun
  refine (hhistory.stateInvariant
    (fun b => (∀ i, Honest (b.histories i)) ∧ FindingsHeld b.store) ?_ ?_).2
  · refine ⟨fun i e he => ?_, fun finding hfinding => ?_⟩
    · cases he
    · cases hfinding
  · intro a l a' ⟨hhonest, hheld⟩ hstep
    exact ⟨honest_step hhonest hstep.move, hheld.step hstep hhonest⟩

end held

/-- The validation that a closed case binds did not confirm any finding of the case. -/
def ClosedOn (s : Stores) (case : RemediationCase) : Prop :=
  ∃ (record : ProductRecord) (results : List FindingValidation),
    Bound s case "validation_result_id" record ∧
    record.body.get "findings" = .arr (results.map FindingValidation.toDict) ∧
    ∀ findingId ∈ case.findingIds, ∃ result ∈ results,
      result.findingId = findingId ∧ result.status = .notConfirmed

/-- The findings of a case that is closed without action are those that its worker listed. -/
def closesListed : Reread := fun h transition base =>
  transition = .closeNoAction → ∀ caseId findings, ⟨.listForCase caseId, .ok findings⟩ ∈ h →
    base.findingIds ⊆ findings.map StoredFinding.findingId

/-- A case is closed when each of its results is not confirmed. -/
theorem validationDecision_closes {results : List FindingValidation}
    (h : (validationDecision results).1 = .closeNoAction) :
    ∀ result ∈ results, result.status = .notConfirmed := by
  unfold validationDecision at h
  dsimp only at h
  split at h
  · cases h
  · rename_i hconfirmed
    split at h
    · cases h
    · rename_i hincomplete
      intro result hresult
      have hnot := List.filter_eq_nil_iff.mp (not_not.mp hconfirmed) result hresult
      have hcomplete := List.filter_eq_nil_iff.mp (not_not.mp hincomplete) result hresult
      cases hstatus : result.status <;> simp_all

/-- Only a validation closes a case without action. -/
theorem Call.closes {S : Settings} {call : Call S} {k : Trace} {caseId : String}
    {args : TransitionArgs} (h : call.grounds k caseId .closeNoAction args) :
    ValidationGrounds k caseId .closeNoAction args := by
  cases call
  case validate => exact h
  case ingest =>
    cases h with
    | rank hranks => rcases hranks with heq | heq <;> cases heq
  case reviewSre =>
    cases h with
    | refuse hrefuses => rcases hrefuses with heq | heq <;> cases heq
  case reviewRollback =>
    cases h with
    | refuse hrefuses => rcases hrefuses with heq | heq <;> cases heq
  all_goals cases h

/-- A case becomes closed by `CLOSE_NO_ACTION` only. -/
theorem Accepted.closed {base case : RemediationCase} {transition : CaseTransition}
    {args : TransitionArgs} {target : Target} {event : CaseEvent}
    (h : Accepted base transition args target case event) (hresume : transition ≠ .resume)
    (hstate : case.state = .closedNoAction) : transition = .closeNoAction := by
  have hentered : ∀ (state : CaseState) (transition : CaseTransition) (reopened : Bool),
      effectiveTransition state transition reopened = some .closedNoAction →
        transition = .closeNoAction ∨ transition = .block ∨ state = .closedNoAction := by
    decide
  obtain ⟨hblock, heffective⟩ := h.unblocked hresume (by rw [hstate]; decide)
  rw [hstate] at heffective
  rcases hentered _ _ _ heffective with heq | heq | heq
  · exact heq
  · exact absurd heq hblock
  · have hlive := h.live
    rw [RemediationCase.terminal, heq] at hlive
    exact absurd hlive (by decide)

section boards

variable {ι : Type} [DecidableEq ι] {S : Settings} {calls : ι → Call S}
  {b b' : Board operations PyError Stores ι} {l : Label operations PyError ι}

/-- Every closed case binds a validation of its findings. -/
theorem closed_cases_checked {ls : List (Label operations PyError ι)}
    (hrun : Steps (CallStep calls closesListed) (Board.start {}) ls b) {caseId : String}
    {case : RemediationCase} (hcase : b.store.cases.case? caseId = some case)
    (hstate : case.state = .closedNoAction) : ClosedOn b.store case := by
  refine cases_invariant (I := fun s case => case.state = .closedNoAction → ClosedOn s case)
    ?_ ?_ ?_ hrun caseId case hcase hstate
  · intro s case hopened hstate
    rw [hopened.fields.1] at hstate
    cases hstate
  · intro s s' case hgrow hclosed hstate
    obtain ⟨record, results, hbound, hbody, hchecked⟩ := hclosed hstate
    exact ⟨record, results, hbound.keep (.refl ["validation_result_id"] _) (by simp) hgrow,
      hbody, hchecked⟩
  · intro b b' l hstep caseId transition args base case event target known rest hread hgrounds
      hreread haccepted _ hstate
    obtain rfl := haccepted.closed (Call.supplies hgrounds).1 hstate
    cases Call.closes hgrounds with
    | @mk findings results record hlisted hjudged hbinds _ hbody hdecided _ =>
      have hrecord := hstep.record_stored hread hbinds.put .put
      refine ⟨record, results, ⟨_, haccepted.supplied_lookup hbinds.bound, hrecord⟩, hbody, ?_⟩
      intro findingId hmem
      have hadditions : target.additions = [] := by
        cases haccepted.led with
        | closeNoAction | linear => rfl
      rw [haccepted.findingIds, hadditions, List.append_nil] at hmem
      have hlisted := hreread rfl _ _ (mem_of_mem_notes hlisted) hmem
      rw [← hjudged, List.mem_map] at hlisted
      obtain ⟨result, hresult, hid⟩ := hlisted
      exact ⟨result, hresult, hid, validationDecision_closes hdecided.symm result hresult⟩

end boards

/-- A case is closed without action when everything in it was checked: in every run of calls of
the services in which a case is closed with the findings its validation listed, a closed case
binds a validation with a result that is not confirmed for every finding it lists and for every
finding that the store assigns to it. -/
theorem closed_when_checked {ι : Type} [DecidableEq ι] {S : Settings} {calls : ι → Call S}
    {ls : List (Label operations PyError ι)} {c : Pool operations PyError Unit Stores ι}
    (hrun : Steps (Pool.StepIf world (Rereads closesListed))
      (Pool.start {} fun i => (calls i).program) ls c) {caseId : String} {case : RemediationCase}
    (hcase : c.store.cases.case? caseId = some case) (hstate : case.state = .closedNoAction) :
    ∃ (record : ProductRecord) (results : List FindingValidation),
      Bound c.store case "validation_result_id" record ∧
      record.body.get "findings" = .arr (results.map FindingValidation.toDict) ∧
      (∀ findingId ∈ case.findingIds, ∃ result ∈ results,
        result.findingId = findingId ∧ result.status = .notConfirmed) ∧
      ∀ finding ∈ c.store.findings, finding.caseId = some caseId → ∃ result ∈ results,
        result.findingId = finding.findingId ∧ result.status = .notConfirmed := by
  obtain ⟨hboard, -⟩ := Pool.board_steps (fun i => (calls i).permitted) hrun
  obtain ⟨hcalls, -⟩ := call_run hboard
  obtain ⟨record, results, hbound, hbody, hchecked⟩ := closed_cases_checked hcalls hcase hstate
  refine ⟨record, results, hbound, hbody, hchecked, fun finding hfinding hassigned => ?_⟩
  obtain ⟨held, hheld, hmem⟩ := findings_held hboard finding hfinding caseId hassigned
  obtain rfl := Option.some.inj (hcase.symm.trans hheld)
  exact hchecked _ hmem

section samples

/-- The ids that a validation record has results for. -/
def resultIds (body : Document) : List String :=
  ((body.get "findings").arr?.getD []).filterMap fun result =>
    result.obj?.map fun entries => Document.text entries "finding_id"

/-- The ids in a validation's body are those of its results. -/
theorem resultIds_eq {body : Document} {results : List FindingValidation}
    (hbody : body.get "findings" = .arr (results.map FindingValidation.toDict)) :
    resultIds body = results.map FindingValidation.findingId := by
  rw [resultIds, hbody]
  show (results.map FindingValidation.toDict).filterMap _ = _
  rw [List.filterMap_map, ← List.filterMap_eq_map]
  rfl

/-- A case lists a finding that the validation it binds has no result for. -/
def leavesOut (s : Stores) (caseId : String) : Bool :=
  match s.cases.case? caseId with
  | some case =>
    match case.recordIds.lookup "validation_result_id" with
    | some recordId =>
      match s.record? recordId with
      | some record => case.findingIds.any fun findingId => findingId ∉ resultIds record.body
      | none => true
    | none => true
  | none => true

/-- A case that leaves an assigned finding out is not closed on all of them. -/
theorem not_closedOn_of_leavesOut {s : Stores} {case : RemediationCase} {caseId : String}
    (hleaves : leavesOut s caseId = true) (hcase : s.cases.case? caseId = some case) :
    ¬ClosedOn s case := by
  rintro ⟨record, results, ⟨recordId, hrecordId, hrecord⟩, hbody, hchecked⟩
  unfold leavesOut at hleaves
  simp only [hcase, hrecordId, hrecord, List.any_eq_true, decide_eq_true_eq] at hleaves
  obtain ⟨findingId, hmem, hout⟩ := hleaves
  obtain ⟨result, hresult, hid, -⟩ := hchecked findingId hmem
  rw [resultIds_eq hbody] at hout
  exact hout (hid ▸ List.mem_map_of_mem hresult)

/-- The condition `Rereads closesListed`, computed for every re-read. -/
def closesAllListed {ι : Type} (b : Board operations PyError Stores ι)
    (l : Label operations PyError ι) : Bool :=
  match l.event.op with
  | .advanceRead caseId .closeNoAction _ =>
    match b.store.cases.case? caseId with
    | some base => (b.histories l.thread).all fun e =>
      match e with
      | ⟨.listForCase _, .ok findings⟩ =>
        base.findingIds.all fun findingId => findingId ∈ findings.map StoredFinding.findingId
      | _ => true
    | none => true
  | _ => true

/-- The check of the sample's steps decides the condition on them. -/
theorem closesAllListed_sound {ι : Type} {b : Board operations PyError Stores ι}
    {l : Label operations PyError ι} (h : closesAllListed b l = true) :
    Rereads closesListed b l := by
  intro caseId transition args base _ hop hbase _ htransition asked findings hlisted findingId hmem
  subst htransition
  unfold closesAllListed at h
  rw [hop] at h
  simp only [hbase] at h
  have hall := List.all_eq_true.mp h _ hlisted
  exact of_decide_eq_true (List.all_eq_true.mp hall findingId hmem)

/-- The exposure is gone. -/
def clearedSettings : Settings :=
  ⟨samplePlatform, "/artifacts", fun _ _ _ => some ⟨fun _ => .ok (false, "private"), true⟩⟩

/-- A validation of a case, and two findings of it. -/
def clearedCalls : ℕ → Call clearedSettings
  | 0 => .ingest (bucketFinding "finding-1")
  | 1 => .validate "CASE-1010" []
  | _ => .ingest (bucketFinding "finding-2")

/-- The calls take turns of these many steps. -/
def clearedRun
    (check : Board operations PyError Stores ℕ → Label operations PyError ℕ → Bool)
    (turns : List (ℕ × ℕ)) :
    Option (List (Label operations PyError ℕ) × Pool operations PyError Unit Stores ℕ) :=
  Pool.exec performWith check (fun n => ⟨none, stageReply "2026-07-17T12:00:00Z" n⟩)
    (turns.flatMap fun turn => List.replicate turn.2 turn.1) 0
    (Pool.start {} fun i => (clearedCalls i).program)

/-- The case of one finding is closed on its validation. -/
theorem closed_when_checked_alone : ∃ ls c case,
    Steps (Pool.StepIf world (Rereads closesListed))
      (Pool.start {} fun i => (clearedCalls i).program) ls c ∧
    c.store.cases.case? "CASE-1010" = some case ∧ case.state = .closedNoAction ∧
    ∃ (record : ProductRecord) (results : List FindingValidation),
      Bound c.store case "validation_result_id" record ∧
      record.body.get "findings" = .arr (results.map FindingValidation.toDict) ∧
      (∀ findingId ∈ case.findingIds, ∃ result ∈ results,
        result.findingId = findingId ∧ result.status = .notConfirmed) ∧
      ∀ finding ∈ c.store.findings, finding.caseId = some "CASE-1010" → ∃ result ∈ results,
        result.findingId = finding.findingId ∧ result.status = .notConfirmed := by
  have hexists : ∃ run ∈ clearedRun closesAllListed [(0, 17), (1, 13)],
      ∃ case ∈ run.2.store.cases.case? "CASE-1010", case.state = .closedNoAction := by
    decide +kernel
  obtain ⟨⟨ls, c⟩, hrun, case, hcase, hstate⟩ := hexists
  have hsteps : Steps (Pool.StepIf world (Rereads closesListed))
      (Pool.start {} fun i => (clearedCalls i).program) ls c :=
    (Pool.exec_steps hrun).mono fun _ _ _ h => ⟨h.1, closesAllListed_sound h.2⟩
  exact ⟨ls, c, case, hsteps, hcase, hstate, closed_when_checked hsteps hcase hstate⟩

/-- A finding is attached after the validation listed the findings of the case: it is buried in
the closed case. -/
theorem closed_over_finding : ∃ ls c case,
    Steps (Pool.StepIf world fun _ _ => True)
      (Pool.start {} fun i => (clearedCalls i).program) ls c ∧
    c.store.cases.case? "CASE-1010" = some case ∧ case.state = .closedNoAction ∧
    ¬∃ (record : ProductRecord) (results : List FindingValidation),
      Bound c.store case "validation_result_id" record ∧
      record.body.get "findings" = .arr (results.map FindingValidation.toDict) ∧
      (∀ findingId ∈ case.findingIds, ∃ result ∈ results,
        result.findingId = findingId ∧ result.status = .notConfirmed) ∧
      ∀ finding ∈ c.store.findings, finding.caseId = some "CASE-1010" → ∃ result ∈ results,
        result.findingId = finding.findingId ∧ result.status = .notConfirmed := by
  have hexists : ∃ run ∈ clearedRun (fun _ _ => true) [(0, 17), (1, 2), (2, 15), (1, 11)],
      leavesOut run.2.store "CASE-1010" = true ∧
      ∃ case ∈ run.2.store.cases.case? "CASE-1010", case.state = .closedNoAction := by
    decide +kernel
  obtain ⟨⟨ls, c⟩, hrun, hleaves, case, hcase, hstate⟩ := hexists
  have hsteps : Steps (Pool.StepIf world fun _ _ => True)
      (Pool.start {} fun i => (clearedCalls i).program) ls c :=
    (Pool.exec_steps hrun).mono fun _ _ _ h => ⟨h.1, trivial⟩
  refine ⟨ls, c, case, hsteps, hcase, hstate, ?_⟩
  rintro ⟨record, results, hbound, hbody, hchecked, -⟩
  exact not_closedOn_of_leavesOut hleaves hcase ⟨record, results, hbound, hbody, hchecked⟩

end samples

end ElCapitan
