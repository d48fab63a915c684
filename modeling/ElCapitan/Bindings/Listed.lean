import ElCapitan.Bindings.Closed

/-!
# What a worker listed of a case

The findings that a worker listed stay assigned to their case. The findings that the validation
of a case has results for are assigned to the case, so that whoever lists the findings after
reading the case lists all of them.
-/

namespace ElCapitan

open Effects

/-- The finding ids that a validation record has a status for. -/
def validatedIds (P : Platform) (body : Document) : List String :=
  (validationStatuses P body).map Prod.fst

/-- The validated ids are those of the results, each once. -/
theorem validatedIds_eq {P : Platform} {body : Document} {results : List FindingValidation}
    (hbody : body.get "findings" = .arr (results.map FindingValidation.toDict)) :
    validatedIds P body = fromKeys (results.map FindingValidation.findingId) := by
  have hitems : (validationItems body).map (fun item => P.str (item.getText "finding_id")) =
      results.map FindingValidation.findingId := by
    rw [validationItems, hbody]
    show ((results.map FindingValidation.toDict).filterMap Json.obj?).map _ = _
    rw [List.filterMap_map, List.map_filterMap, ← List.filterMap_eq_map]
    rfl
  rw [validatedIds, validationStatuses, hitems, List.map_map]
  exact List.map_id _

/-- A validated finding has the status that its last result gives. -/
theorem validationStatuses_lookup {P : Platform} {body : Document} {findingId : String}
    (h : findingId ∈ validatedIds P body) :
    (validationStatuses P body).lookup findingId = some (validationStatus P body findingId) := by
  have hlookup : ∀ ids : List String, findingId ∈ ids →
      (ids.map fun id => (id, validationStatus P body id)).lookup findingId =
        some (validationStatus P body findingId) := by
    intro ids
    induction ids with
    | nil => simp
    | cons id ids ih =>
      intro hmem
      by_cases heq : findingId = id
      · simp [heq]
      · rw [List.map_cons, List.lookup_cons, show (findingId == id) = false by simp [heq]]
        exact ih ((List.mem_cons.mp hmem).resolve_left heq)
  refine hlookup _ ?_
  rw [validatedIds, validationStatuses, List.map_map] at h
  simpa using h

/-- A finding is stored and assigned to a case. -/
def Assigned (s : Stores) (caseId findingId : String) : Prop :=
  ∃ finding ∈ s.findings, finding.findingId = findingId ∧ finding.caseId = some caseId

/-- The findings have distinct ids. -/
def UniqueFindings (s : Stores) : Prop := (s.findings.map StoredFinding.findingId).Nodup

section stores

variable {s s' : Stores} {e : Event operations PyError} {finding : StoredFinding}
  {caseId findingId : String}

/-- A step keeps the ids of findings distinct. -/
theorem uniqueFindings_world (hstep : world s e.op e.answer s') (hs : UniqueFindings s) :
    UniqueFindings s' := by
  unfold UniqueFindings at hs ⊢
  rcases world_findings hstep with hsame | ⟨put, -, hput⟩ | ⟨id, held, -, hassign⟩
  · rw [hsame]
    exact hs
  · obtain ⟨hfindings, hfresh, -⟩ := FindingTable.put_eq_ok hput
    rw [hfindings, List.map_append, List.nodup_append]
    refine ⟨hs, by simp, fun id hid other hother => ?_⟩
    obtain ⟨row, hrow, rfl⟩ := List.mem_map.mp hid
    rw [List.map_singleton, List.mem_singleton] at hother
    rw [hother]
    exact hfresh row hrow
  · obtain ⟨stored, -, -, hfindings⟩ := FindingTable.assign_eq_ok hassign
    rw [hfindings]
    split
    · rw [Rows.map_key_replace]
      exact hs
    · exact hs

/-- The row of an assigned finding never changes. -/
theorem assigned_row_world (hstep : world s e.op e.answer s') (hs : UniqueFindings s)
    (hfinding : finding ∈ s.findings) (hassigned : finding.caseId = some caseId) :
    finding ∈ s'.findings := by
  rcases world_findings hstep with hsame | ⟨put, -, hput⟩ | ⟨id, held, -, hassign⟩
  · rw [hsame]
    exact hfinding
  · rw [(FindingTable.put_eq_ok hput).1]
    exact List.mem_append_left _ hfinding
  · obtain ⟨stored, hstored, -, hfindings⟩ := FindingTable.assign_eq_ok hassign
    rw [hfindings]
    split
    · rename_i hnone
      refine Rows.mem_replace_iff.mpr (.inl ⟨hfinding, fun hkey => ?_⟩)
      have hrow := Rows.find_of_mem hs hfinding
      have hown : stored.findingId = id := Rows.key_of_find hstored
      have hid : finding.findingId = id := hkey.trans hown
      rw [hid, hstored] at hrow
      obtain rfl := Option.some.inj hrow
      rw [hnone] at hassigned
      cases hassigned
    · exact hfinding

/-- A finding stays assigned to its case. -/
theorem Assigned.world (h : Assigned s caseId findingId) (hstep : world s e.op e.answer s')
    (hs : UniqueFindings s) : Assigned s' caseId findingId := by
  obtain ⟨finding, hfinding, hid, hassigned⟩ := h
  exact ⟨finding, assigned_row_world hstep hs hfinding hassigned, hid, hassigned⟩

/-- What a listing shows. -/
theorem world_listForCase {findings : List StoredFinding}
    (hstep : world s (.listForCase caseId) (.ok findings) s') :
    s' = s ∧ findings = FindingTable.listForCase s.findings caseId := by
  have hlist := world_ok hstep (by simp [Stores.perform])
  simp only [Stores.perform, Option.some.injEq, Prod.mk.injEq, Except.ok.injEq] at hlist
  exact ⟨hlist.2.symm, hlist.1.symm⟩

end stores

/-- The validation that a case binds is stored, and the findings it has results for are
assigned to the case. -/
def ResultsAssigned (P : Platform) (s : Stores) (case : RemediationCase) : Prop :=
  ∀ recordId, case.recordIds.lookup "validation_result_id" = some recordId →
    ∃ record, s.record? recordId = some record ∧
      ∀ findingId ∈ validatedIds P record.body, Assigned s case.caseId findingId

/-- A listing after a reading of the case has the findings that the validation of the case that
was read has results for. -/
def ListsResults (P : Platform) (s : Stores) (before : Trace) (e : Event operations PyError) :
    Prop :=
  ∀ caseId findings, e = ⟨.listForCase caseId, .ok findings⟩ →
    ∀ snap, ⟨.getCase caseId, .ok snap⟩ ∈ before →
      ∀ recordId, snap.recordIds.lookup "validation_result_id" = some recordId →
        ∃ record, s.record? recordId = some record ∧
          validatedIds P record.body ⊆ findings.map StoredFinding.findingId

/-- A validation record is supplied by a validation only. -/
theorem Call.judges {S : Settings} {call : Call S} {k : Trace} {caseId : String}
    {transition : CaseTransition} {args : TransitionArgs}
    (h : call.grounds k caseId transition args)
    (hsupplied : args.recordIds.lookup "validation_result_id" ≠ none) :
    ValidationGrounds k caseId transition args := by
  have hother : ∀ {names : List String}, SuppliesOnly args names →
      "validation_result_id" ∉ names → ValidationGrounds k caseId transition args :=
    fun hsupplies hnot => absurd (hsupplies _ hsupplied) hnot
  have hplan : ∀ {scope : Option (List String)}, PlanningGrounds scope k caseId transition args →
      ValidationGrounds k caseId transition args := by
    intro scope h
    cases h with
    | prepare _ _ _ _ _ _ _ hsupplies => exact hother hsupplies (by decide)
  cases call
  case validate => exact h
  case ingest =>
    cases h with
    | addFinding _ hsupplies => exact hother hsupplies (by decide)
    | rank _ hsupplies => exact hother hsupplies (by decide)
  case prepare => exact hplan h
  case planPromoted =>
    cases h with
    | prepare _ _ _ _ _ hplanning => exact hplan hplanning
  case reviewSre =>
    cases h with
    | approve _ _ _ _ hsupplies => exact hother hsupplies (by decide)
    | refuse _ hsupplies => exact hother hsupplies (by decide)
  case reviewRollback =>
    cases h with
    | approve _ _ _ _ _ _ hsupplies => exact hother hsupplies (by decide)
    | rework hsupplies => exact hother hsupplies (by decide)
    | refuse _ hsupplies => exact hother hsupplies (by decide)
  case approve =>
    cases h with
    | approve _ _ _ _ _ _ _ _ _ _ hsupplies => exact hother hsupplies (by decide)
  case execute =>
    cases h with
    | start _ hsupplies => exact hother hsupplies (by decide)
    | verify hsupplies => exact hother hsupplies (by decide)
    | complete _ _ _ _ hsupplies => exact hother hsupplies (by decide)
    | rollBack hsupplies => exact hother hsupplies (by decide)
    | block hsupplies => exact hother hsupplies (by decide)
    | restore hsupplies => exact hother hsupplies (by decide)
  all_goals
    cases h with
    | mk hsupplies => exact hother hsupplies (by decide)

section boards

variable {ι : Type} [DecidableEq ι] {S : Settings} {calls : ι → Call S} {K : Reread}
  {b b' : Board operations PyError Stores ι} {l : Label operations PyError ι}

/-- What is known of the findings and the validations that the threads read. -/
structure Listing (P : Platform) (b : Board operations PyError Stores ι) : Prop where
  unique : UniqueFindings b.store
  honest : ∀ i, Honest (b.histories i)
  listed : ∀ i, ∀ e ∈ b.histories i, ∀ caseId findings, e = ⟨.listForCase caseId, .ok findings⟩ →
    ∀ finding ∈ findings, finding ∈ b.store.findings ∧ finding.caseId = some caseId
  stored : ∀ caseId case, b.store.cases.case? caseId = some case →
    ResultsAssigned P b.store case
  shown : ∀ i, ∀ e ∈ b.histories i, ∀ caseId snap, Shows e caseId snap →
    ResultsAssigned P b.store snap
  results : ∀ i, Traced (ListsResults P b.store) (b.histories i)

omit [DecidableEq ι] in
/-- Nothing is listed before the first step. -/
theorem listing_start {P : Platform} :
    Listing P (Board.start {} : Board operations PyError Stores ι) where
  unique := List.nodup_nil
  honest := by
    intro i e he
    cases he
  listed := by
    intro i e he
    cases he
  stored := by
    intro caseId case hcase
    cases hcase
  shown := by
    intro i e he
    cases he
  results := fun _ => Traced.nil

/-- The findings of a bound validation stay assigned to the case. -/
theorem ResultsAssigned.world {P : Platform} {s s' : Stores} {e : Event operations PyError}
    {case : RemediationCase} (h : ResultsAssigned P s case) (hstep : world s e.op e.answer s')
    (hs : UniqueFindings s) : ResultsAssigned P s' case := by
  intro recordId hlookup
  obtain ⟨record, hrecord, hassigned⟩ := h recordId hlookup
  exact ⟨record, record?_world hstep hrecord, fun id hid => (hassigned id hid).world hstep hs⟩

/-- A transition of a call leaves the case with a validation of findings assigned to it. -/
theorem Listing.advanced {P : Platform} (h : Listing P b) (hstep : CallStep calls K b l b')
    {caseId : String} {transition : CaseTransition} {args : TransitionArgs}
    {base case : RemediationCase} {event : CaseEvent} {target : Target} {known rest : Trace}
    (hread : b.histories l.thread =
      known ++ ⟨.advanceRead caseId transition args, .ok base⟩ :: rest)
    (hgrounds : (calls l.thread).grounds (notes known) caseId transition args)
    (haccepted : Accepted base transition args target case event)
    (hbase : ResultsAssigned P b.store base) : ResultsAssigned P b.store case := by
  intro recordId hlookup
  rw [haccepted.recordIds, lookup_mergeRecords] at hlookup
  rw [haccepted.caseId]
  cases hsupplied : args.recordIds.lookup "validation_result_id" with
  | none =>
    rw [hsupplied, Option.none_or] at hlookup
    split at hlookup
    · cases hlookup
    · exact hbase recordId hlookup
  | some suppliedId =>
    rw [hsupplied] at hlookup
    obtain rfl : suppliedId = recordId := Option.some.inj hlookup
    have hmem : ∀ e ∈ known, e ∈ b.histories l.thread := by
      intro e he
      rw [hread]
      exact List.mem_append_left _ he
    have hreading : ⟨.advanceRead caseId transition args, .ok base⟩ ∈ b.histories l.thread := by
      rw [hread]
      simp
    have hown := (h.honest l.thread _ hreading caseId base .reread).2 _ _ rfl
    cases Call.judges hgrounds (by rw [hsupplied]; simp) with
    | @mk findings results record hlisted hjudged hbinds _ hbody hdecided _ =>
      obtain rfl := Option.some.inj (hsupplied.symm.trans hbinds.bound)
      refine ⟨record, hstep.record_stored hread hbinds.put .put, fun findingId hid => ?_⟩
      rw [validatedIds_eq hbody, mem_fromKeys, hjudged, List.mem_map] at hid
      obtain ⟨finding, hfinding, rfl⟩ := hid
      obtain ⟨hstored, hassigned⟩ := h.listed l.thread _ (hmem _ (mem_of_mem_notes hlisted))
        caseId findings rfl finding hfinding
      exact ⟨finding, hstored, rfl, hown ▸ hassigned⟩

/-- A step of calls keeps what is known of the findings and validations. -/
theorem Listing.step {P : Platform} (h : Listing P b) (hstep : CallStep calls K b l b') :
    Listing P b' := by
  have hanswered := hstep.history.move.answered
  have hstored : ∀ caseId case, b'.store.cases.case? caseId = some case →
      ResultsAssigned P b'.store case := by
    refine hstep.keeps_cases (fun case hopened => ?_)
      (fun case hcase => hcase.world hanswered h.unique)
      (fun hread hgrounds _ haccepted hbase => h.advanced hstep hread hgrounds haccepted hbase)
      h.stored
    intro recordId hlookup
    rw [hopened.fields.2.2.1] at hlookup
    simp at hlookup
  refine ⟨uniqueFindings_world hanswered h.unique, honest_step h.honest hstep.history.move,
    ?_, hstored, ?_, fun j => ?_⟩
  · intro i e he caseId findings heq finding hfinding
    rcases hstep.history.move.mem_history he with he | ⟨-, rfl⟩
    · obtain ⟨hmem, hassigned⟩ := h.listed i e he caseId findings heq finding hfinding
      exact ⟨assigned_row_world hanswered h.unique hmem hassigned, hassigned⟩
    · rw [heq] at hanswered
      obtain ⟨hsame, rfl⟩ := world_listForCase hanswered
      rw [hsame]
      exact FindingTable.mem_listForCase.mp hfinding
  · intro i e he caseId snap hshows
    rcases hstep.history.move.mem_history he with he | ⟨-, rfl⟩
    · exact (h.shown i e he caseId snap hshows).world hanswered h.unique
    · exact hstored caseId snap (shows_stored hanswered hshows)
  · have hold : Traced (ListsResults P b'.store) (b.histories j) := by
      intro before e after heq caseId findings he snap hsnap recordId hlookup
      obtain ⟨record, hrecord, hsub⟩ :=
        h.results j before e after heq caseId findings he snap hsnap recordId hlookup
      exact ⟨record, record?_world hanswered hrecord, hsub⟩
    by_cases hj : j = l.thread
    · subst hj
      rw [hstep.history.move.history_self]
      refine hold.snoc ?_
      intro caseId findings he snap hsnap recordId hlookup
      rw [he] at hanswered
      obtain ⟨hsame, rfl⟩ := world_listForCase hanswered
      obtain ⟨record, hrecord, hassigned⟩ :=
        h.shown l.thread _ hsnap snap.caseId snap .read recordId hlookup
      have hown := (h.honest l.thread _ hsnap caseId snap .read).1 rfl
      refine ⟨record, by rw [hsame]; exact hrecord, fun findingId hid => ?_⟩
      obtain ⟨finding, hfinding, hid, hcase⟩ := hassigned findingId hid
      rw [hown] at hcase
      exact List.mem_map.mpr ⟨finding, FindingTable.mem_listForCase.mpr ⟨hfinding, hcase⟩, hid⟩
    · rw [hstep.history.move.history_other hj]
      exact hold

end boards

end ElCapitan
