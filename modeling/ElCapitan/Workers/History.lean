import ElCapitan.Effects.Versions
import ElCapitan.Services.Frames
import ElCapitan.Workers.Conformance

/-!
# Histories of cases

Whoever acts on the stores inserts opened cases and appends accepted transitions of cases
that were read. The compare-and-swap of `append` then makes every stored case move by accepted
transitions, and what anybody saw of a case is an earlier version of it.
-/

namespace ElCapitan

open Effects

/-- A case was made from an earlier version by accepted transitions. -/
def Follows (earlier later : RemediationCase) : Prop :=
  ∃ labels, Steps CaseStep earlier labels later

section follows

variable {case case' case'' : RemediationCase} {l : CaseLabel}

/-- A version follows itself. -/
theorem Follows.refl (case : RemediationCase) : Follows case case := ⟨[], .nil _⟩

/-- A version that follows a later one follows the earlier one. -/
theorem Follows.trans (h : Follows case case') (h' : Follows case' case'') :
    Follows case case'' := by
  obtain ⟨labels, hrun⟩ := h
  obtain ⟨labels', hrun'⟩ := h'
  exact ⟨labels ++ labels', hrun.append hrun'⟩

/-- A version follows the one before its transition. -/
theorem Follows.step (h : CaseStep case l case') : Follows case case' := ⟨[l], .single h⟩

/-- What every accepted transition keeps, later versions have. -/
theorem Follows.keeps {P : RemediationCase → Prop} (h : Follows case case') (hcase : P case)
    (hkeep : ∀ base label next, P base → CaseStep base label next → P next) : P case' := by
  obtain ⟨labels, hrun⟩ := h
  exact hrun.stateInvariant P hcase fun base label next => hkeep base label next

/-- Findings never leave a case. -/
theorem Follows.findingIds (h : Follows case case') : case.findingIds ⊆ case'.findingIds := by
  refine h.keeps (P := fun later => case.findingIds ⊆ later.findingIds) (List.Subset.refl _) ?_
  intro base label next hbase hstep
  obtain ⟨target, haccepted⟩ := transitionCase_accepted hstep
  rw [haccepted.findingIds]
  exact List.subset_append_of_subset_left _ hbase

/-- Versions count the transitions. -/
theorem version_of_steps {labels : List CaseLabel} (h : Steps CaseStep case labels case') :
    case'.version = case.version + labels.length := by
  induction h with
  | nil => simp
  | snoc _ last ih =>
    obtain ⟨target, haccepted⟩ := transitionCase_accepted last
    rw [haccepted.version, ih, List.length_append, List.length_singleton]
    omega

/-- A version is one case. -/
theorem Follows.eq_of_version (h : Follows case case') (hversion : case'.version = case.version) :
    case' = case := by
  obtain ⟨labels, hrun⟩ := h
  have hlength := version_of_steps hrun
  have hnil : labels = [] := List.eq_nil_of_length_eq_zero (by omega)
  subst hnil
  generalize hlabels : ([] : List CaseLabel) = labels at hrun
  cases hrun with
  | nil => rfl
  | snoc => simp at hlabels

end follows

/-- An event that showed or stored a case. -/
inductive Shows : Event operations PyError → String → RemediationCase → Prop
  | read {caseId : String} {case : RemediationCase} :
      Shows ⟨.getCase caseId, .ok case⟩ case.caseId case
  | reread {caseId : String} {transition : CaseTransition} {args : TransitionArgs}
      {case : RemediationCase} :
      Shows ⟨.advanceRead caseId transition args, .ok case⟩ case.caseId case
  | found {tenantId assetId : String} {case : RemediationCase} :
      Shows ⟨.findActiveByAsset tenantId assetId, .ok (some case)⟩ case.caseId case
  | inserted {case : RemediationCase} : Shows ⟨.insertCase case, .ok ()⟩ case.caseId case
  | appended {case : RemediationCase} {event : CaseEvent} {v : ℕ} :
      Shows ⟨.appendCase case event v, .ok ()⟩ case.caseId case

/-- Whoever acts after this history inserts opened cases and appends accepted transitions of
cases it read. -/
def Lawful (h : Trace) : Operation → Prop
  | .appendCase case event v => ∃ caseId transition args base,
      ⟨.advanceRead caseId transition args, .ok base⟩ ∈ h ∧
        transitionCase base transition args = .ok (case, event) ∧ v = base.version
  | .insertCase case => Opened case
  | _ => True

/-- A permitted operation is lawful after the trace. -/
theorem Permitted.lawful {G : Grounds} {h : Trace} {o : Operation} (ho : Permitted G (notes h) o) :
    Lawful h o := by
  cases o
  case appendCase case event v =>
    obtain ⟨caseId, transition, args, base, hread, hnext, hv⟩ := ho
    exact ⟨caseId, transition, args, base, mem_of_mem_notes hread, hnext, hv⟩
  case insertCase case => exact ho
  all_goals trivial

/-- What a step after a history does to the cases. -/
inductive CaseMove (h : Trace) (s : Stores) (e : Event operations PyError) (s' : Stores) : Prop
  | kept (same : s'.cases = s.cases)
      (quiet : ∀ case event v, e ≠ ⟨.appendCase case event v, .ok ()⟩)
  | opened {case : RemediationCase} (inserted : e = ⟨.insertCase case, .ok ()⟩)
      (made : Opened case) (fresh : s.cases.case? case.caseId = none)
      (after : s'.cases.case? case.caseId = some case)
      (others : ∀ caseId, case.caseId ≠ caseId → s'.cases.case? caseId = s.cases.case? caseId)
  | advanced {caseId : String} {transition : CaseTransition} {args : TransitionArgs}
      {base case : RemediationCase} {event : CaseEvent}
      (read : ⟨.advanceRead caseId transition args, .ok base⟩ ∈ h)
      (applied : transitionCase base transition args = .ok (case, event))
      (appended : e = ⟨.appendCase case event base.version, .ok ()⟩)
      (before : s.cases.case? base.caseId = some base)
      (after : s'.cases.case? base.caseId = some case)
      (others : ∀ caseId, base.caseId ≠ caseId → s'.cases.case? caseId = s.cases.case? caseId) :
      CaseMove h s e s'

section steps

variable {h : Trace} {s s' : Stores} {e : Event operations PyError}

/-- A stored case moves forward. -/
theorem CaseMove.follows (hmove : CaseMove h s e s') {caseId : String} {case : RemediationCase}
    (hcase : s.cases.case? caseId = some case) :
    ∃ case', s'.cases.case? caseId = some case' ∧ Follows case case' := by
  cases hmove with
  | kept hsame _ => exact ⟨case, by rw [hsame]; exact hcase, .refl _⟩
  | @opened opened _ _ hfresh _ hothers =>
    have hne : opened.caseId ≠ caseId := by
      rintro rfl
      rw [hfresh] at hcase
      cases hcase
    exact ⟨case, (hothers _ hne).trans hcase, .refl _⟩
  | @advanced _ transition args base next event _ happlied _ hbefore hafter hothers =>
    by_cases hid : base.caseId = caseId
    · subst hid
      rw [hbefore] at hcase
      cases hcase
      exact ⟨next, hafter, .step (l := ⟨transition, args, event⟩) happlied⟩
    · exact ⟨case, (hothers _ hid).trans hcase, .refl _⟩

/-- An append that returned happened. -/
theorem world_appendCase {case : RemediationCase} {event : CaseEvent} {v : ℕ}
    (h : world s (.appendCase case event v) (.ok ()) s') :
    s.cases.append case event v = .ok s'.cases := by
  have happend := world_ok h (by simp [Stores.perform])
  simp only [Stores.perform, commit, Option.some.injEq] at happend
  split at happend
  · rename_i tables htables
    cases happend
    exact htables
  · cases happend

/-- An inserted case is in the table. -/
theorem world_insertCase {case : RemediationCase}
    (h : world s (.insertCase case) (.ok ()) s') : s.cases.insert case = .ok s'.cases := by
  have hinsert := world_ok h (by simp [Stores.perform])
  simp only [Stores.perform, commit, Option.some.injEq] at hinsert
  split at hinsert
  · rename_i tables htables
    cases hinsert
    exact htables
  · cases hinsert

/-- A case that was shown is stored after the step. -/
theorem shows_stored (hstep : world s e.op e.answer s') {caseId : String} {case : RemediationCase}
    (hshows : Shows e caseId case) : s'.cases.case? caseId = some case := by
  cases hshows with
  | read =>
    have hread := world_ok hstep (by simp [Stores.perform])
    simp only [Stores.perform, Option.some.injEq, Prod.mk.injEq] at hread
    have hcase := CaseTables.get_eq_ok.mp hread.1
    rw [← hread.2, CaseTables.case?_caseId hcase]
    exact hcase
  | reread =>
    have hread := world_ok hstep (by simp [Stores.perform])
    simp only [Stores.perform, Option.some.injEq, Prod.mk.injEq] at hread
    have hcase := CaseTables.get_eq_ok.mp hread.1
    rw [← hread.2, CaseTables.case?_caseId hcase]
    exact hcase
  | found =>
    have hread := world_ok hstep (by simp [Stores.perform])
    simp only [Stores.perform, Option.some.injEq, Prod.mk.injEq, Except.ok.injEq] at hread
    rw [← hread.2]
    exact CaseTables.case?_of_findActiveByAsset hread.1
  | inserted => exact CaseTables.case?_insert_self (world_insertCase hstep)
  | appended => exact CaseTables.case?_append_self (world_appendCase hstep)

end steps

section boards

variable {ι : Type} [DecidableEq ι] {G : Rule operations PyError ι}
  {C : Condition operations PyError Stores ι} {b b' : Board operations PyError Stores ι}
  {l : Label operations PyError ι}

/-- What anybody saw of a case is an earlier version of it. -/
abbrev CasesShown (b : Board operations PyError Stores ι) : Prop :=
  b.Behind (fun s => s.cases.case?) Follows Shows

/-- A thread acts lawfully on the cases it saw. -/
theorem caseMove_of_lawful (hb : CasesShown b) (hstep : Board.Step world G b l b')
    (hlawful : Lawful (b.histories l.thread) l.event.op) :
    CaseMove (b.histories l.thread) b.store l.event b'.store := by
  obtain ⟨i, o, r⟩ := l
  have hanswered : world b.store o r b'.store := hstep.answered
  have happended : ∀ case event v, (⟨o, r⟩ : Event operations PyError) =
      ⟨.appendCase case event v, .ok ()⟩ → CaseMove (b.histories i) b.store ⟨o, r⟩ b'.store := by
    intro case event v he
    cases he
    obtain ⟨caseId, transition, args, base, hread, hnext, rfl⟩ := hlawful
    have happend := world_appendCase hanswered
    obtain ⟨-, -, -, ⟨current, hcurrent, hversion⟩, -, -, -⟩ := CaseTables.append_eq_ok happend
    obtain ⟨target, haccepted⟩ := transitionCase_accepted hnext
    -- the compare-and-swap finds the version that was read
    obtain ⟨stored, hstored, hfollows⟩ := hb i _ hread _ _ .reread
    have hstored : b.store.cases.case? base.caseId = some stored := hstored
    rw [haccepted.caseId, hstored] at hcurrent
    cases hcurrent
    obtain rfl := hfollows.eq_of_version hversion
    refine .advanced hread hnext rfl hstored ?_ fun caseId' hne => ?_
    · rw [← haccepted.caseId]
      exact CaseTables.case?_append_self happend
    · exact CaseTables.case?_append_other happend (by rwa [haccepted.caseId])
  rcases world_caseTables hanswered with hsame | ⟨case, he, hinsert⟩ | ⟨case, event, v, he, -⟩
  · by_cases hquiet : ∀ case event v, (⟨o, r⟩ : Event operations PyError) ≠
        ⟨.appendCase case event v, .ok ()⟩
    · exact .kept hsame hquiet
    · push Not at hquiet
      obtain ⟨case, event, v, he⟩ := hquiet
      exact happended case event v he
  · cases he
    have hmade : Opened case := hlawful
    refine .opened rfl hmade (CaseTables.insert_eq_ok hinsert).1
      (CaseTables.case?_insert_self hinsert) fun caseId hne => ?_
    exact CaseTables.case?_insert_other hinsert hne
  · exact happended case event v he

/-- A step of threads that act lawfully. -/
structure HistoryStep (G : Rule operations PyError ι) (C : Condition operations PyError Stores ι)
    (b : Board operations PyError Stores ι) (l : Label operations PyError ι)
    (b' : Board operations PyError Stores ι) : Prop where
  move : Board.Step world G b l b'
  condition : C b l
  shown : CasesShown b
  cases : CaseMove (b.histories l.thread) b.store l.event b'.store

/-- A step keeps the cases that were shown. -/
theorem CasesShown.step (hb : CasesShown b) (hstep : Board.Step world G b l b')
    (hmove : CaseMove (b.histories l.thread) b.store l.event b'.store) : CasesShown b' :=
  Board.Behind.step hb hstep Follows.trans Follows.refl (fun _ _ hcase => hmove.follows hcase)
    fun _ _ hshows => shows_stored hstep.answered hshows

/-- Every run of threads that act lawfully is a run of such steps. -/
theorem history_run {s : Stores} {ls : List (Label operations PyError ι)}
    (hlawful : ∀ i h o, G i h o → Lawful h o)
    (hrun : Steps (Board.StepIf world G C) (Board.start s) ls b) :
    Steps (HistoryStep G C) (Board.start s) ls b ∧ CasesShown b := by
  have hkeep : ∀ (a : Board operations PyError Stores ι) l a', CasesShown a →
      Board.StepIf world G C a l a' →
        CaseMove (a.histories l.thread) a.store l.event a'.store ∧ CasesShown a' := by
    intro a l a' ha hstep
    have hmove := caseMove_of_lawful ha hstep.1 (hlawful _ _ _ hstep.1.permitted)
    exact ⟨hmove, ha.step hstep.1 hmove⟩
  obtain ⟨hsteps, hshown⟩ := hrun.strengthen CasesShown (Board.behind_start s) hkeep
  refine ⟨hsteps.mono ?_, hshown⟩
  rintro a l a' ⟨⟨hstep, ha⟩, hmove⟩
  exact ⟨hstep.1, hstep.2, ha, hmove⟩

end boards

end ElCapitan
