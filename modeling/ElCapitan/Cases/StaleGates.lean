import ElCapitan.Cases.Effective

/-!
# Gates and new findings

A finding that joins a case after validation takes the case back to validation,
so that the gates passed so far no longer count. The state machine does this for
a case that is in a gated state. A case blocked from a gated state keeps its
gates when a finding joins it, and has them back when it resumes.
-/

namespace ElCapitan

open Effects

/-- All findings of the case were in it when it was last validated: the last
`VALIDATE` of the run is followed by no `ADD_FINDING`, and the case carries the
validation record it supplied unless a later event supplied another. -/
def FreshlyValidated (case₀ : RemediationCase) (labels : List CaseLabel)
    (case : RemediationCase) : Prop :=
  ∃ before validation after case₁ case₂,
    labels = before ++ validation :: after ∧
    Steps CaseStep case₀ before case₁ ∧
    CaseStep case₁ validation case₂ ∧
    validation.transition = .validate ∧
    (∀ label ∈ after, label.transition ≠ .validate) ∧
    (∀ label ∈ after, label.transition ≠ .addFinding) ∧
    (∀ findingId ∈ case.findingIds, findingId ∈ case₁.findingIds) ∧
    ((∀ label ∈ after, label.args.recordIds.lookup "validation_result_id" = none) →
      case.recordIds.lookup "validation_result_id" =
        validation.event.recordIds.lookup "validation_result_id")

/-- A finding joins a case that is blocked from a gated state. -/
def JoinsWhileBlocked (case : RemediationCase) (label : CaseLabel) : Prop :=
  label.transition = .addFinding ∧ case.state = .blocked ∧
    ∃ state ∈ reopenedStates, case.blockedFrom = some state

instance (case : RemediationCase) (label : CaseLabel) : Decidable (JoinsWhileBlocked case label) :=
  inferInstanceAs (Decidable (_ ∧ _ ∧ _))

/-- A step of a case in which no finding joins while the case is blocked from a gated state. -/
def TimelyStep (case : RemediationCase) (label : CaseLabel) (case' : RemediationCase) : Prop :=
  CaseStep case label case' ∧ ¬JoinsWhileBlocked case label

/-- Into a gated state leads validation, or from a gated state a transition that
keeps the validation record. -/
theorem effectiveTransition_gated : ∀ (state : CaseState) (transition : CaseTransition)
    (reopened : Bool), ∀ state' ∈ effectiveTransition state transition reopened,
      state' ∈ reopenedStates → transition = .validate ∨
        state ∈ reopenedStates ∧ (transition = .addFinding → reopened = false) ∧
          "validation_result_id" ∉ clearedRecords transition reopened := by
  decide +kernel

/-- A finding that does not reopen a case whose effective state is gated joins it
while it is blocked. -/
theorem Accepted.joinsWhileBlocked {case case' : RemediationCase} {label : CaseLabel}
    {target : Target} (h : Accepted case label.transition label.args target case' label.event)
    (hadd : label.transition = .addFinding) (hreopened : target.reopened = false)
    (hgated : case.effectiveState ∈ reopenedStates) : JoinsWhileBlocked case label := by
  have hled := h.led
  rw [hadd] at hled
  refine ⟨hadd, ?_⟩
  cases hled with
  | reopen => cases hreopened
  | linear hlinear => cases hstate : case.state <;> simp [linearTransition, hstate] at hlinear
  | addFinding hstate =>
    by_cases hblocked : case.state = .blocked
    · refine ⟨hblocked, ?_⟩
      rw [RemediationCase.effectiveState, hblocked] at hgated
      cases hfrom : case.blockedFrom with
      | none => simp [hfrom, reopenedStates] at hgated
      | some previous => exact ⟨previous, by simpa [hfrom] using hgated, rfl⟩
    · rw [RemediationCase.effectiveState, effectiveOf_of_ne hblocked] at hgated
      exact absurd hgated hstate

/-- While no finding joins a case that is blocked from a gated state, a case
whose effective state is gated is freshly validated. -/
theorem TimelyStep.run_freshlyValidated {case₀ case : RemediationCase} {labels : List CaseLabel}
    (hopened : Opened case₀) (hrun : Steps TimelyStep case₀ labels case)
    (hgated : case.effectiveState ∈ reopenedStates) : FreshlyValidated case₀ labels case := by
  induction hrun with
  | nil =>
    rw [hopened.effectiveState] at hgated
    exact absurd hgated (by decide)
  | @snoc case case' labels label run last ih =>
    obtain ⟨hstep, htimely⟩ := last
    obtain ⟨target, haccepted⟩ := transitionCase_accepted hstep
    have hsteps : Steps CaseStep case₀ labels case := run.mono fun _ _ _ h => h.1
    by_cases hvalidate : label.transition = .validate
    · have hadditions := haccepted.led.additions_eq_nil (by simp [hvalidate])
      refine ⟨labels, label, [], case, case', rfl, hsteps, hstep, hvalidate, by simp, by simp,
        ?_, ?_⟩
      · intro findingId hmem
        simpa [haccepted.findingIds, hadditions] using hmem
      · intro _
        have hsupplied := haccepted.supplied
        simp only [suppliesRequired, hvalidate, requiredRecord] at hsupplied
        rw [haccepted.recordIds, lookup_mergeRecords, haccepted.eventRecords]
        cases hlookup : label.args.recordIds.lookup "validation_result_id" with
        | none => simp [hlookup] at hsupplied
        | some value => rfl
    · have hback := effectiveTransition_gated _ _ _ _ haccepted.effectiveState hgated
      obtain ⟨hgated', hreopened, hkept⟩ := hback.resolve_left hvalidate
      obtain ⟨before, validation, after, case₁, case₂, rfl, hbefore, hat, hval, hlast, hnone,
        hfindings, hcarried⟩ := ih hgated'
      have hjoins : label.transition ≠ .addFinding := fun hadd =>
        htimely (haccepted.joinsWhileBlocked hadd (hreopened hadd) hgated')
      refine ⟨before, validation, after ++ [label], case₁, case₂, by simp, hbefore, hat, hval,
        ?_, ?_, ?_, ?_⟩
      · intro l hl
        rcases List.mem_append.mp hl with hl | hl
        · exact hlast l hl
        · rwa [List.mem_singleton.mp hl]
      · intro l hl
        rcases List.mem_append.mp hl with hl | hl
        · exact hnone l hl
        · rwa [List.mem_singleton.mp hl]
      · intro findingId hmem
        rw [haccepted.findingIds, haccepted.led.additions_eq_nil hjoins, List.append_nil] at hmem
        exact hfindings findingId hmem
      · intro hrecords
        have hown := hrecords label (by simp)
        rw [haccepted.recordIds, lookup_mergeRecords, hown, if_neg hkept]
        exact hcarried fun l hl => hrecords l (by simp [hl])

/-- In a freshly validated run no `ADD_FINDING` stands after the last `VALIDATE`. -/
theorem FreshlyValidated.addFinding_notMem {case₀ case : RemediationCase}
    {labels : List CaseLabel} (h : FreshlyValidated case₀ labels case) :
    .addFinding ∉ (labels.map CaseLabel.transition).reverse.takeWhile (· ≠ .validate) := by
  obtain ⟨before, validation, after, -, -, rfl, -, -, hval, hlast, hnone, -⟩ := h
  have hafter : ∀ t ∈ (after.map CaseLabel.transition).reverse, decide (t ≠ .validate) = true := by
    intro t ht
    obtain ⟨label, hlabel, rfl⟩ := List.mem_map.mp (List.mem_reverse.mp ht)
    exact decide_eq_true (hlast label hlabel)
  have hreverse : ((before ++ validation :: after).map CaseLabel.transition).reverse =
      (after.map CaseLabel.transition).reverse ++
        .validate :: (before.map CaseLabel.transition).reverse := by
    simp [hval]
  rw [hreverse, List.takeWhile_append_of_pos hafter]
  intro hmem
  rw [List.takeWhile_cons_of_neg (by decide), List.append_nil, List.mem_reverse] at hmem
  obtain ⟨label, hlabel, heq⟩ := List.mem_map.mp hmem
  exact hnone label hlabel heq

/-- A finding joins a case. -/
def joinRequest (eventId : String) : CaseTransition × TransitionArgs :=
  (.addFinding, { sampleArgs eventId [("finding_id", "finding-2")] with
    newFindingIds := ["finding-2"] })

/-- The gates of a case are stale after it was validated, blocked, joined by a
finding and resumed. -/
theorem gates_stale_after_resume : ¬∀ (case₀ case : RemediationCase) (labels : List CaseLabel),
    Opened case₀ → Steps CaseStep case₀ labels case → case.state ∈ reopenedStates →
      FreshlyValidated case₀ labels case := by
  intro hclaim
  have hexists : ∃ run ∈ runCase (fun _ _ => true) sampleCase (validatedRequests ++
      [(.block, { sampleArgs "event-3" [] with detail := "evidence outage" }),
        joinRequest "event-4", (.resume, sampleArgs "event-5" [])]),
      run.2.state ∈ reopenedStates ∧
        .addFinding ∈ (run.1.map CaseLabel.transition).reverse.takeWhile (· ≠ .validate) := by
    decide +kernel
  obtain ⟨⟨labels, case⟩, hrun, hstate, hmem⟩ := hexists
  have hsteps : Steps CaseStep sampleCase labels case :=
    (runCase_steps hrun).mono fun _ _ _ h => h.1
  exact (hclaim _ _ _ sampleCase_opened hsteps hstate).addFinding_notMem hmem

/-- In a run in which no finding joins a case that is blocked from a gated state,
the gates of a case are never stale. -/
theorem gates_fresh {case₀ case : RemediationCase} {labels : List CaseLabel}
    (hopened : Opened case₀) (hrun : Steps TimelyStep case₀ labels case)
    (hgated : case.state ∈ reopenedStates) : FreshlyValidated case₀ labels case := by
  refine TimelyStep.run_freshlyValidated hopened hrun ?_
  rwa [RemediationCase.effectiveState, effectiveOf_of_ne]
  rintro heq
  simp [heq, reopenedStates] at hgated

/-- A finding reopens a validated case, which is then validated again. -/
theorem gates_fresh_after_reopening : ∃ case₀ labels case,
    case.state = .validated ∧ case.findingIds = ["finding-1", "finding-2"] ∧
      FreshlyValidated case₀ labels case := by
  have hexists : ∃ run ∈ runCase (fun case label => ¬JoinsWhileBlocked case label) sampleCase
      (validatedRequests ++ [joinRequest "event-3",
        (.validate, sampleArgs "event-4" [("validation_result_id", "validation-2")])]),
      run.2.state = .validated ∧ run.2.findingIds = ["finding-1", "finding-2"] := by
    decide +kernel
  obtain ⟨⟨labels, case⟩, hrun, hstate, hfindings⟩ := hexists
  refine ⟨sampleCase, labels, case, hstate, hfindings, gates_fresh sampleCase_opened ?_ ?_⟩
  · exact (runCase_steps hrun).mono fun _ _ _ h => ⟨h.1, by simpa using h.2⟩
  · rw [hstate]
    decide

end ElCapitan
