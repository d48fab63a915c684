import ElCapitan.Validation.Readings

/-!
# Validation fails closed

Every finding gets the verdict of its own check under the reading of its own resource, which is read
once. The case follows the verdicts, except that it cannot be blocked for a reason without a text:
the service then raises and leaves the case where it was.
-/

namespace ElCapitan

open Effects

section loop

variable {S : Settings} {reader : Reader} {clock : String → Prop} {s : Stores}
  {calls done findings : List StoredFinding} {captured : Captures}

/-- A result is what the check of its finding says under a reading. -/
structure Judged (S : Settings) (reader : Reader) (first finding : StoredFinding)
    (result : FindingValidation) : Prop where
  about : result.findingId = finding.findingId
  verdict : (result.status, result.reason) = checkUnder S finding (reader.reading first)

/-- Every finding with a readable record is judged. -/
theorem judgeFinding_judged (hS : S.EvaluatorsTolerated) {first finding : StoredFinding}
    (hfinding : finding.Readable S.platform) {capture : Capture}
    (hcapture : CaptureOf reader first capture) :
    ∃ result, judgeFinding S finding capture = .ok result ∧
      Judged S reader first finding result := by
  obtain ⟨ruleId, hrule⟩ := hfinding.rule
  unfold judgeFinding
  rw [hrule]
  unfold CaptureOf at hcapture
  cases hreading : reader.reading first with
  | error message =>
    rw [hreading] at hcapture
    obtain ⟨hnone, herror⟩ := hcapture
    rw [hnone, herror]
    exact ⟨_, rfl, rfl, by rw [hreading]; rfl⟩
  | ok state =>
    rw [hreading] at hcapture
    rw [show capture.state = some state from hcapture]
    dsimp only
    have hraises := evaluateFinding_raises hS hfinding state capture.evidenceIds
    have hsame := @evaluateFinding_evidence S finding state capture.evidenceIds
    have hsays (pair : FindingValidationStatus × String)
        (h : pair = checkUnder S finding (.ok state)) :
        pair = checkUnder S finding (reader.reading first) := by
      rw [hreading]
      exact h
    cases hevaluated : evaluateFinding S finding state capture.evidenceIds with
    | ok result =>
      rw [hevaluated] at hsame
      refine ⟨result, rfl, evaluateFinding_findingId hevaluated, hsays _ ?_⟩
      unfold checkUnder
      cases hplain : evaluateFinding S finding state [] with
      | error e =>
        rw [hplain] at hsame
        cases hsame
      | ok plain =>
        rw [hplain] at hsame
        obtain ⟨_, hstatus, hreason⟩ := (by simpa [Except.map] using hsame :
          result.findingId = plain.findingId ∧ result.status = plain.status ∧
            result.reason = plain.reason)
        dsimp only
        rw [hplain, hstatus, hreason]
    | error e =>
      rw [hevaluated] at hsame
      dsimp only
      rw [if_pos (hraises e hevaluated)]
      refine ⟨_, rfl, rfl, hsays _ ?_⟩
      unfold checkUnder
      cases hplain : evaluateFinding S finding state [] with
      | error other =>
        rw [hplain] at hsame
        obtain rfl := Except.error.inj hsame
        dsimp only
        rw [hplain]
      | ok plain =>
        rw [hplain] at hsame
        cases hsame

/-- The first finding of a resource is in the first list that has one. -/
theorem firstOf_append (findings others : List StoredFinding) (key : String × String) :
    firstOf (findings ++ others) key = (firstOf findings key).or (firstOf others key) :=
  List.find?_append

/-- What a validation knows after some findings: for each of their resources the reading of the
first finding, for which the reader was called once. -/
structure Captured (reader : Reader) (done : List StoredFinding) (captured : Captures)
    (calls : List StoredFinding) : Prop where
  known : ∀ key capture, captured.lookup key = some capture →
    ∃ first, firstOf done key = some first ∧ first ∈ calls ∧ CaptureOf reader first capture
  unknown : ∀ key, captured.lookup key = none → firstOf done key = none
  once : (calls.map StoredFinding.resourceKey).Nodup
  called : ∀ first ∈ calls, firstOf done first.resourceKey ≠ none

/-- Nothing is captured before the first finding. -/
theorem captured_nil : Captured reader [] [] [] where
  known key capture h := by cases h
  unknown key h := rfl
  once := List.nodup_nil
  called first h := by cases h

/-- A single finding is the first one of its own resource. -/
theorem firstOf_single (finding : StoredFinding) (key : String × String) :
    firstOf [finding] key = if finding.resourceKey = key then some finding else none := by
  unfold firstOf
  by_cases hkey : finding.resourceKey = key
  · simp [hkey]
  · simp [hkey]

/-- A capture of a resource that is known already, or of one that was just read. -/
theorem Captured.next (h : Captured reader done captured calls) {finding first : StoredFinding}
    {capture : Capture} {calls' : List StoredFinding}
    (hfirst : firstOf (done ++ [finding]) finding.resourceKey = some first)
    (hcapture : CaptureOf reader first capture) (hcalled : first ∈ calls')
    (hcalls : ∀ other ∈ calls, other ∈ calls')
    (hnew : ∀ other ∈ calls', other ∈ calls ∨ other = finding)
    (honce : (calls'.map StoredFinding.resourceKey).Nodup) :
    Captured reader (done ++ [finding]) ((finding.resourceKey, capture) :: captured) calls' where
  known key found hlookup := by
    rw [List.lookup_cons] at hlookup
    split at hlookup
    · rename_i hkey
      obtain rfl := Option.some.inj hlookup
      obtain rfl := eq_of_beq hkey
      exact ⟨first, hfirst, hcalled, hcapture⟩
    · obtain ⟨other, hother, hmem, hof⟩ := h.known key found hlookup
      refine ⟨other, ?_, hcalls other hmem, hof⟩
      rw [firstOf_append, hother, Option.some_or]
  unknown key hlookup := by
    rw [List.lookup_cons] at hlookup
    split at hlookup
    · cases hlookup
    · rename_i hkey
      have hne : ¬finding.resourceKey = key := fun hequal => by
        rw [hequal] at hkey
        simp at hkey
      rw [firstOf_append, h.unknown key hlookup, firstOf_single, if_neg hne]
      rfl
  once := honce
  called other hother := by
    rw [firstOf_append]
    rcases hnew other hother with hold | rfl
    · have hfound := h.called other hold
      rw [Ne, Option.or_eq_none_iff]
      exact fun hnone => hfound hnone.1
    · rw [firstOf_single, if_pos rfl, Ne, Option.or_eq_none_iff]
      rintro ⟨_, hnone⟩
      cases hnone

/-- A resource that was captured is not captured again. -/
theorem captureOnce_known {runDir now : String} {hostEnv : List (String × String)}
    {finding : StoredFinding} {capture : Capture}
    (h : captured.lookup finding.resourceKey = some capture) :
    captureOnce S runDir now hostEnv captured finding = .ret (capture, []) := by
  rw [StoredFinding.resourceKey] at h
  rw [captureOnce, h]
  rfl

/-- Another resource is captured. -/
theorem captureOnce_unknown {runDir now : String} {hostEnv : List (String × String)}
    {finding : StoredFinding} (h : captured.lookup finding.resourceKey = none) :
    captureOnce S runDir now hostEnv captured finding =
      (captureState S runDir now hostEnv finding).bind fun taken =>
        .ret (taken.1, [taken.2]) := by
  rw [StoredFinding.resourceKey] at h
  rw [captureOnce, h]
  rfl

/-- The resource of a finding is known after its turn. -/
theorem captureOnce_reads (hreader : reader.Tolerated) {runDir now : String}
    {hostEnv : List (String × String)} {finding : StoredFinding}
    (h : Captured reader done captured calls) :
    EndsReading reader clock (captureOnce S runDir now hostEnv captured finding) (fun r state' =>
      state'.1 = s ∧ (∀ other ∈ calls, other ∈ state'.2) ∧ ∃ first capture refs,
        r = .ok (capture, refs) ∧ firstOf (done ++ [finding]) finding.resourceKey = some first ∧
        first ∈ state'.2 ∧ CaptureOf reader first capture ∧
        Captured reader (done ++ [finding]) ((finding.resourceKey, capture) :: captured) state'.2)
      (s, calls) := by
  cases hlookup : captured.lookup finding.resourceKey with
  | some capture =>
    rw [captureOnce_known hlookup]
    obtain ⟨first, hfirst, hcalled, hcapture⟩ := h.known _ _ hlookup
    have hfound : firstOf (done ++ [finding]) finding.resourceKey = some first := by
      rw [firstOf_append, hfirst, Option.some_or]
    exact ⟨rfl, fun _ hother => hother, first, capture, [], rfl, hfound, hcalled, hcapture,
      h.next hfound hcapture hcalled (fun _ hother => hother) (fun _ => Or.inl) h.once⟩
  | none =>
    have hnone := h.unknown _ hlookup
    have hfound : firstOf (done ++ [finding]) finding.resourceKey = some finding := by
      rw [firstOf_append, hnone, firstOf_single, if_pos rfl]
      rfl
    have hfresh : finding.resourceKey ∉ calls.map StoredFinding.resourceKey := by
      intro hmem
      obtain ⟨other, hother, hkey⟩ := List.mem_map.mp hmem
      have hcalled := h.called other hother
      rw [hkey] at hcalled
      exact hcalled hnone
    rw [captureOnce_unknown hlookup]
    refine Effects.sat_bind.mpr ((captureState_reads hreader).mono ?_)
    rintro r state' ⟨rfl, capture, ref, rfl, hcapture⟩
    have hmem : finding ∈ calls ++ [finding] := by simp
    refine ⟨rfl, fun other hother => List.mem_append_left _ hother, finding, capture, [ref], rfl,
      hfound, hmem, hcapture, h.next hfound hcapture hmem
        (fun other hother => List.mem_append_left _ hother) (fun other hother => ?_) ?_⟩
    · rcases List.mem_append.mp hother with hold | hnew
      · exact Or.inl hold
      · exact Or.inr (List.mem_singleton.mp hnew)
    · rw [List.map_append, List.nodup_append']
      refine ⟨h.once, by simp, ?_⟩
      simpa [List.disjoint_singleton] using hfresh

/-- Every finding is judged under the reading of the first finding of its resource, and the reader
is called once for each resource. -/
theorem validateFindings_reads (hS : S.EvaluatorsTolerated) (hreader : reader.Tolerated)
    {runDir now : String} {hostEnv : List (String × String)}
    (hfindings : ∀ finding ∈ findings, finding.Readable S.platform)
    (h : Captured reader done captured calls) :
    EndsReading reader clock (validateFindings S runDir now hostEnv captured findings)
      (fun r state' =>
      state'.1 = s ∧ (∀ other ∈ calls, other ∈ state'.2) ∧
        (state'.2.map StoredFinding.resourceKey).Nodup ∧ ∃ results refs, r = .ok (results, refs) ∧
          List.Forall₂ (fun finding result => ∃ first,
            firstOf (done ++ findings) finding.resourceKey = some first ∧ first ∈ state'.2 ∧
            Judged S reader first finding result) findings results) (s, calls) := by
  induction findings generalizing done captured calls with
  | nil => exact ⟨rfl, fun _ hother => hother, h.once, [], [], rfl, .nil⟩
  | cons finding findings ih =>
    unfold validateFindings
    simp only [Prog.bind_eq, Prog.pure_eq]
    refine Effects.sat_bind.mpr ((captureOnce_reads hreader h).mono ?_)
    rintro r ⟨s', calls'⟩ ⟨hs, hcalls, first, capture, refs, rfl, hfirst, hcalled, hcapture, hnext⟩
    dsimp only at hs hcalls hcalled hnext ⊢
    subst hs
    obtain ⟨result, hresult, hjudged⟩ :=
      judgeFinding_judged hS (hfindings finding List.mem_cons_self) hcapture
    refine sat_bind_ofExcept.mpr ⟨fun judged heq => ?_, fun e he => by rw [hresult] at he; cases he⟩
    rw [hresult] at heq
    obtain rfl := Except.ok.inj heq
    refine Effects.sat_bind.mpr ((ih (fun other hother =>
      hfindings other (List.mem_cons_of_mem _ hother)) hnext).mono ?_)
    rintro r ⟨s'', calls''⟩ ⟨hs, hmore, honce, results, others, rfl, hresults⟩
    dsimp only at hs hmore honce hresults ⊢
    subst hs
    rw [List.append_assoc, List.singleton_append] at hresults
    refine ⟨rfl, fun other hother => hmore other (hcalls other hother), honce, _, _, rfl,
      .cons ⟨first, ?_, hmore first hcalled, hjudged⟩ hresults⟩
    rw [← List.singleton_append, ← List.append_assoc, firstOf_append, hfirst, Option.some_or]

end loop

section decision

/-- One verdict is missing for a reason without a text, and every other finding is refuted. -/
def OneBlank (verdicts : List (FindingValidationStatus × String)) : Prop :=
  ∃ before after, verdicts = before ++ (.unavailable, "") :: after ∧
    ∀ verdict ∈ before ++ after, verdict.1 = .notConfirmed

/-- The state of a case follows the results of its validation. -/
structure CaseFollows (state : CaseState) (results : List FindingValidation) : Prop where
  validated : state = .validated ↔ ∃ result ∈ results, result.status = .confirmed
  closed : state = .closedNoAction ↔ ∀ result ∈ results, result.status = .notConfirmed
  blocked : state = .blocked ↔ (∀ result ∈ results, result.status ≠ .confirmed) ∧
    ∃ result ∈ results, result.status ≠ .notConfirmed

variable {results : List FindingValidation}

/-- What the status and the reason of a result are. -/
def FindingValidation.verdict (result : FindingValidation) : FindingValidationStatus × String :=
  (result.status, result.reason)

/-- A text that is made of texts with semicolons between them is empty only for one empty text. -/
theorem intercalate_eq_empty {texts : List String} (hne : texts ≠ []) :
    "; ".intercalate texts = "" ↔ texts = [""] := by
  cases texts with
  | nil => exact absurd rfl hne
  | cons first others =>
    cases others with
    | nil => simp
    | cons second others =>
      rw [String.intercalate_cons_cons]
      simp

/-- The results that no check decided. -/
def incompleteOf (results : List FindingValidation) : List FindingValidation :=
  results.filter fun result => result.status ∈ [FindingValidationStatus.unavailable, .unsupported]

/-- An incomplete result could not be evaluated or is not supported. -/
theorem mem_incompleteOf {result : FindingValidation} : result ∈ incompleteOf results ↔
    result ∈ results ∧ (result.status = .unavailable ∨ result.status = .unsupported) := by
  unfold incompleteOf
  rw [List.mem_filter]
  simp

/-- Where no finding is confirmed, the reasons of a block are empty exactly when one verdict is
missing for a reason without a text. -/
theorem reasons_blank_iff (hconfirmed : ∀ result ∈ results, result.status ≠ .confirmed)
    (hunsupported : ∀ result ∈ results, result.status = .unsupported → result.reason ≠ "") :
    (incompleteOf results).map FindingValidation.reason = [""] ↔
      OneBlank (results.map FindingValidation.verdict) := by
  have hrefuted (result : FindingValidation) (hmem : result ∈ results)
      (hcomplete : ¬(result.status = .unavailable ∨ result.status = .unsupported)) :
      result.status = .notConfirmed := by
    have hother := hconfirmed result hmem
    cases hstatus : result.status with
    | confirmed => exact absurd hstatus hother
    | notConfirmed => rfl
    | unsupported => exact absurd (Or.inr hstatus) hcomplete
    | unavailable => exact absurd (Or.inl hstatus) hcomplete
  constructor
  · intro h
    obtain ⟨blank, rest, hincomplete, hblank, hrest⟩ := List.map_eq_cons_iff.mp h
    obtain rfl := List.map_eq_nil_iff.mp hrest
    have hmem : blank ∈ incompleteOf results := by
      rw [hincomplete]
      exact List.mem_cons_self
    obtain ⟨hin, hstatus⟩ := mem_incompleteOf.mp hmem
    have hunavailable : blank.status = .unavailable := by
      rcases hstatus with hstatus | hstatus
      · exact hstatus
      · exact absurd hblank (hunsupported blank hin hstatus)
    unfold incompleteOf at hincomplete
    obtain ⟨before, after, rfl, hbefore, _, hafter⟩ := List.filter_eq_cons_iff.mp hincomplete
    refine ⟨before.map FindingValidation.verdict, after.map FindingValidation.verdict, ?_, ?_⟩
    · rw [List.map_append, List.map_cons]
      unfold FindingValidation.verdict
      rw [hunavailable, hblank]
    · intro verdict hverdict
      rw [← List.map_append] at hverdict
      obtain ⟨result, hresult, rfl⟩ := List.mem_map.mp hverdict
      rcases List.mem_append.mp hresult with hresult | hresult
      · refine hrefuted result (List.mem_append_left _ hresult) fun hopen => ?_
        exact hbefore result hresult (by simpa using hopen)
      · refine hrefuted result (List.mem_append_right _ (List.mem_cons_of_mem _ hresult))
          fun hopen => ?_
        have hclosed := List.filter_eq_nil_iff.mp hafter result hresult
        exact hclosed (by simpa using hopen)
  · rintro ⟨before, after, hverdicts, hothers⟩
    obtain ⟨front, tail, rfl, rfl, hback⟩ := List.map_eq_append_iff.mp hverdicts
    obtain ⟨blank, back, rfl, hblank, rfl⟩ := List.map_eq_cons_iff.mp hback
    obtain ⟨hstatus, hreason⟩ := Prod.mk.inj hblank
    have hnone {l : List FindingValidation} (hl : ∀ result ∈ l, result.status = .notConfirmed) :
        incompleteOf l = [] := by
      refine List.filter_eq_nil_iff.mpr fun result hresult => ?_
      rw [hl result hresult]
      decide
    have hfront := hnone fun result hresult => hothers result.verdict
      (List.mem_append_left _ (List.mem_map_of_mem hresult))
    have htail := hnone fun result hresult => hothers result.verdict
      (List.mem_append_right _ (List.mem_map_of_mem hresult))
    have hblankOpen : incompleteOf (blank :: back) = blank :: incompleteOf back := by
      unfold incompleteOf
      rw [List.filter_cons_of_pos]
      rw [hstatus]
      decide
    have happend : incompleteOf (front ++ blank :: back) =
        incompleteOf front ++ incompleteOf (blank :: back) := List.filter_append ..
    rw [happend, hfront, hblankOpen, htail, List.nil_append, List.map_cons, List.map_nil, hreason]

/-- What the results of a validation decide. -/
inductive Decision (results : List FindingValidation) : CaseTransition → String → Prop
  | validate (detail : String) (hfollows : CaseFollows .validated results)
      (hblank : ¬OneBlank (results.map FindingValidation.verdict)) :
      Decision results .validate detail
  | block (detail : String) (hfollows : CaseFollows .blocked results)
      (hblank : detail = "" ↔ OneBlank (results.map FindingValidation.verdict)) :
      Decision results .block detail
  | close (detail : String) (hdetail : detail ≠ "") (hfollows : CaseFollows .closedNoAction results)
      (hblank : ¬OneBlank (results.map FindingValidation.verdict)) :
      Decision results .closeNoAction detail

/-- Where a verdict is missing, no finding is confirmed and not all are refuted. -/
theorem OneBlank.open (h : OneBlank (results.map FindingValidation.verdict)) :
    (∀ result ∈ results, result.status ≠ .confirmed) ∧
      ∃ result ∈ results, result.status ≠ .notConfirmed := by
  obtain ⟨before, after, hverdicts, hothers⟩ := h
  have hmem : (FindingValidationStatus.unavailable, "") ∈
      results.map FindingValidation.verdict := by
    rw [hverdicts]
    simp
  obtain ⟨blank, hblank, hverdict⟩ := List.mem_map.mp hmem
  refine ⟨fun result hresult hconfirmed => ?_, blank, hblank, ?_⟩
  · have hin : result.verdict ∈ before ++ (.unavailable, "") :: after := by
      rw [← hverdicts]
      exact List.mem_map_of_mem hresult
    rcases List.mem_append.mp hin with hin | hin
    · have hstatus : result.status = .notConfirmed := hothers _ (List.mem_append_left _ hin)
      rw [hconfirmed] at hstatus
      cases hstatus
    · rcases List.mem_cons.mp hin with hin | hin
      · have hstatus : result.status = .unavailable := congrArg Prod.fst hin
        rw [hconfirmed] at hstatus
        cases hstatus
      · have hstatus : result.status = .notConfirmed := hothers _ (List.mem_append_right _ hin)
        rw [hconfirmed] at hstatus
        cases hstatus
  · have hstatus : blank.status = .unavailable := congrArg Prod.fst hverdict
    rw [hstatus]
    decide

/-- The decision of a validation follows its results. -/
theorem validationDecision_decides
    (hunsupported : ∀ result ∈ results, result.status = .unsupported → result.reason ≠ "") :
    Decision results (validationDecision results).1 (validationDecision results).2 := by
  have hincomplete : (results.filter fun result =>
      result.status ∈ [FindingValidationStatus.unavailable, .unsupported]) =
        incompleteOf results := rfl
  unfold validationDecision
  rw [hincomplete]
  dsimp only
  by_cases hconfirmed : (results.filter fun result => decide (result.status = .confirmed)) ≠ []
  · rw [if_pos hconfirmed]
    obtain ⟨result, hresult⟩ := List.exists_mem_of_ne_nil _ hconfirmed
    obtain ⟨hmem, hstatus⟩ := List.mem_filter.mp hresult
    have hstatus : result.status = .confirmed := by simpa using hstatus
    refine .validate _ ⟨by simp only [true_iff]; exact ⟨result, hmem, hstatus⟩, ?_, ?_⟩
      fun hblank => hblank.open.1 result hmem hstatus
    · simp only [reduceCtorEq, false_iff]
      intro hall
      rw [hall result hmem] at hstatus
      cases hstatus
    · simp only [reduceCtorEq, false_iff]
      rintro ⟨hnone, _⟩
      exact hnone result hmem hstatus
  · rw [if_neg hconfirmed]
    have hnone : ∀ result ∈ results, result.status ≠ .confirmed := by
      have hempty := not_not.mp hconfirmed
      intro result hmem hstatus
      have hfiltered := List.filter_eq_nil_iff.mp hempty result hmem
      exact hfiltered (by simpa using hstatus)
    by_cases hopen : incompleteOf results ≠ []
    · rw [if_pos hopen]
      obtain ⟨result, hresult⟩ := List.exists_mem_of_ne_nil _ hopen
      obtain ⟨hmem, hstatus⟩ := mem_incompleteOf.mp hresult
      have hother : result.status ≠ .notConfirmed := by
        rcases hstatus with hstatus | hstatus
        · rw [hstatus]
          decide
        · rw [hstatus]
          decide
      refine .block _ ⟨?_, ?_, ?_⟩ ?_
      · simp only [reduceCtorEq, false_iff]
        rintro ⟨other, hother, hconfirm⟩
        exact hnone other hother hconfirm
      · simp only [reduceCtorEq, false_iff]
        exact fun hall => hother (hall result hmem)
      · simp only [true_iff]
        exact ⟨hnone, result, hmem, hother⟩
      · rw [intercalate_eq_empty (by simpa using hopen)]
        exact reasons_blank_iff hnone hunsupported
    · rw [if_neg hopen]
      have hall : ∀ result ∈ results, result.status = .notConfirmed := by
        have hempty := not_not.mp hopen
        intro result hmem
        have hcomplete : ¬(result.status = .unavailable ∨ result.status = .unsupported) := by
          intro hstatus
          have hin := mem_incompleteOf.mpr ⟨hmem, hstatus⟩
          rw [hempty] at hin
          cases hin
        have hother := hnone result hmem
        cases hstatus : result.status with
        | confirmed => exact absurd hstatus hother
        | notConfirmed => rfl
        | unsupported => exact absurd (Or.inr hstatus) hcomplete
        | unavailable => exact absurd (Or.inl hstatus) hcomplete
      refine .close _ (by decide) ⟨?_, ?_, ?_⟩ fun hblank => ?_
      · simp only [reduceCtorEq, false_iff]
        rintro ⟨other, hother, hconfirm⟩
        exact hnone other hother hconfirm
      · simp only [true_iff]
        exact hall
      · simp only [reduceCtorEq, false_iff]
        rintro ⟨_, other, hother, hstatus⟩
        exact hstatus (hall other hother)
      · obtain ⟨_, other, hother, hstatus⟩ := hblank.open
        exact hstatus (hall other hother)

end decision

section moves

variable {case : RemediationCase} {args : TransitionArgs}

/-- The state to which a decision moves a prioritized case, unless it is a block without a
reason. -/
theorem Decision.moves {results : List FindingValidation} {transition : CaseTransition}
    {validationId : String} (h : Decision results transition args.detail)
    (hstate : case.state = .prioritized)
    (hrecord : args.recordIds.lookup "validation_result_id" = some validationId)
    (hid : validationId ≠ "") (hevent : args.eventId ≠ "" ∧ args.actor ≠ "" ∧ args.occurredAt ≠ "")
    (hattached : args.priority = none ∧ args.changePlan = none ∧ args.changeWindow = none ∧
      args.newFindingIds = []) :
    (¬OneBlank (results.map FindingValidation.verdict) → ∃ case' event,
      transitionCase case transition args = .ok (case', event) ∧
        CaseFollows case'.state results) ∧
    (OneBlank (results.map FindingValidation.verdict) →
      ∃ e, transitionCase case transition args = .error e) := by
  have hlive : case.terminal = false := by
    simp [RemediationCase.terminal, hstate, terminalCaseStates]
  obtain ⟨hpriority, hplan, hwindow, hfindings⟩ := hattached
  have hbare (hplain : transition = .validate ∨ transition = .block ∨ transition = .closeNoAction) :
      checkAttachments transition args = .ok () := by
    rcases hplain with rfl | rfl | rfl
    · simp [checkAttachments, raiseIf, hpriority, hplan, hwindow, hfindings, bind, Except.bind]
    · simp [checkAttachments, raiseIf, hpriority, hplan, hwindow, hfindings, bind, Except.bind]
    · simp [checkAttachments, raiseIf, hpriority, hplan, hwindow, hfindings, bind, Except.bind]
  cases h with
  | validate _ hfollows hblank =>
    refine ⟨fun _ => ?_, fun h => absurd h hblank⟩
    have htarget : transitionTarget case .validate args = .ok { toState := .validated } := by
      simp [transitionTarget, hstate, linearTransition]
    have hsupplied : suppliesRequired .validate args.recordIds = true := by
      simp [suppliesRequired, requiredRecord, hrecord, hid]
    obtain ⟨case', event, hnext, hto⟩ :=
      transitionCase_of_target hlive hsupplied htarget (hbare (Or.inl rfl)) hevent
    refine ⟨case', event, hnext, ?_⟩
    rwa [hto]
  | block _ hfollows hblank =>
    constructor
    · intro hnot
      have hdetail : args.detail ≠ "" := fun hempty => hnot (hblank.mp hempty)
      have htarget : transitionTarget case .block args =
          .ok { toState := .blocked, blockedFrom := some case.state } := by
        simp [transitionTarget, hstate, hdetail]
      obtain ⟨case', event, hnext, hto⟩ :=
        transitionCase_of_target hlive rfl htarget (hbare (Or.inr (Or.inl rfl))) hevent
      refine ⟨case', event, hnext, ?_⟩
      rwa [hto]
    · intro hyes
      have htarget : transitionTarget case .block args =
          .error (valueError "blocking a case requires a reason") := by
        simp [transitionTarget, hstate, hblank.mpr hyes]
      refine ⟨valueError "blocking a case requires a reason", ?_⟩
      unfold transitionCase
      rw [hlive, htarget]
      rfl
  | close _ hdetail hfollows hblank =>
    refine ⟨fun _ => ?_, fun h => absurd h hblank⟩
    have htarget : transitionTarget case .closeNoAction args =
        .ok { toState := .closedNoAction } := by
      simp [transitionTarget, hstate, hdetail]
    obtain ⟨case', event, hnext, hto⟩ :=
      transitionCase_of_target hlive rfl htarget (hbare (Or.inr (Or.inr rfl))) hevent
    refine ⟨case', event, hnext, ?_⟩
    rwa [hto]

end moves

section verdicts

variable {S : Settings} {reader : Reader} {findings calls : List StoredFinding}
  {finding first : StoredFinding} {results : List FindingValidation}

/-- The aspects of a state that an evaluator is given. -/
def capturedValues (P : Platform) (state : CloudState) : Except PyError Document :=
  state.config.mapM fun entry => do
    let value ← aspectValue P state entry.1
    return (entry.1, value)

/-- The control that is registered for a finding refutes it under a state. -/
def Refutes (S : Settings) (finding : StoredFinding) (state : CloudState) : Prop :=
  ∃ ruleId resourceType control values reason, finding.ruleId S.platform = .ok ruleId ∧
    finding.resourceType S.platform = .ok resourceType ∧
    S.control finding.provider ruleId resourceType = some control ∧
    capturedValues S.platform state = .ok values ∧ control.evaluate values = .ok (false, reason)

/-- The resource of a finding was read, and the control of the finding refutes it under that
state. -/
def RefutedLive (S : Settings) (reader : Reader) (calls : List StoredFinding)
    (finding : StoredFinding) : Prop :=
  ∃ first ∈ calls, first.resourceKey = finding.resourceKey ∧ ∃ state, reader first = .ok state ∧
    (state.provider, state.resourceUid) = finding.resourceKey ∧ Refutes S finding state

/-- What a result of a check is: no control is registered, or the verdict of one. -/
theorem evaluateFinding_eq_ok {state : CloudState} {evidenceIds : List String}
    {result : FindingValidation} (h : evaluateFinding S finding state evidenceIds = .ok result) :
    (result.status = .unsupported → result.reason ≠ "") ∧
      (result.status = .notConfirmed → Refutes S finding state) := by
  unfold evaluateFinding at h
  obtain ⟨ruleId, hrule, h⟩ := except_bind_eq_ok.mp h
  obtain ⟨resourceType, htype, h⟩ := except_bind_eq_ok.mp h
  split at h
  · cases h
    refine ⟨fun _ hempty => ?_, fun hstatus => by cases hstatus⟩
    have hlength := congrArg (fun text : String => text.toList.length) hempty
    simp at hlength
  · rename_i control hcontrol
    obtain ⟨values, hvalues, h⟩ := except_bind_eq_ok.mp h
    obtain ⟨⟨confirmed, reason⟩, hverdict, h⟩ := except_bind_eq_ok.mp h
    cases h
    cases confirmed with
    | true => exact ⟨fun hstatus => (by cases hstatus), fun hstatus => (by cases hstatus)⟩
    | false =>
      exact ⟨fun hstatus => (by cases hstatus), fun _ =>
        ⟨ruleId, resourceType, control, values, reason, hrule, htype, hcontrol, hvalues, hverdict⟩⟩

/-- A reading that gives a state is one of the finding's resource. -/
theorem Reader.reading_eq_ok {state : CloudState} (h : reader.reading first = .ok state) :
    reader first = .ok state ∧ (state.provider, state.resourceUid) = first.resourceKey := by
  unfold Reader.reading at h
  split at h
  · split at h
    · cases h
    · rename_i hsame
      obtain rfl := Except.ok.inj h
      simp only [not_or, not_not] at hsame
      exact ⟨by assumption, Prod.ext hsame.1 hsame.2⟩
  · cases h

/-- A result without a control has a reason, and a refuted finding is refuted under the state of its
resource. -/
theorem Judged.sound {result : FindingValidation} (h : Judged S reader first finding result) :
    (result.status = .unsupported → result.reason ≠ "") ∧
      (result.status = .notConfirmed → ∃ state, reader first = .ok state ∧
        (state.provider, state.resourceUid) = first.resourceKey ∧ Refutes S finding state) := by
  have hverdict := h.verdict
  unfold checkUnder at hverdict
  split at hverdict
  · obtain ⟨hstatus, _⟩ := Prod.mk.inj hverdict
    exact ⟨fun hother => absurd (hother.symm.trans hstatus) (by decide),
      fun hother => absurd (hother.symm.trans hstatus) (by decide)⟩
  · rename_i state hreading
    obtain ⟨hread, hresource⟩ := Reader.reading_eq_ok hreading
    split at hverdict
    · rename_i plain hplain
      obtain ⟨hstatus, hreason⟩ := Prod.mk.inj hverdict
      obtain ⟨hunsupported, hrefuted⟩ := evaluateFinding_eq_ok hplain
      rw [hstatus, hreason]
      exact ⟨hunsupported, fun hother => ⟨state, hread, hresource, hrefuted hother⟩⟩
    · obtain ⟨hstatus, _⟩ := Prod.mk.inj hverdict
      exact ⟨fun hother => absurd (hother.symm.trans hstatus) (by decide),
        fun hother => absurd (hother.symm.trans hstatus) (by decide)⟩

/-- The first finding of a resource is about the resource. -/
theorem firstOf_resourceKey {key : String × String} (h : firstOf findings key = some first) :
    first.resourceKey = key := by
  have hfound := List.find?_some h
  simpa using hfound

/-- What is known of results that are judged: their verdicts are those of the checks, they are about
the findings, a result without a control has a reason, and refuted findings are refuted live. -/
structure Sound (S : Settings) (reader : Reader) (calls whole findings : List StoredFinding)
    (results : List FindingValidation) : Prop where
  verdicts : results.map FindingValidation.verdict = findings.map (checkOf S reader whole)
  about : results.map FindingValidation.findingId = findings.map StoredFinding.findingId
  unsupported : ∀ result ∈ results, result.status = .unsupported → result.reason ≠ ""
  refuted : ∀ pair ∈ findings.zip results, pair.2.status = .notConfirmed →
    RefutedLive S reader calls pair.1

/-- Results are sound where each is judged on the capture of its resource's first finding. -/
theorem sound_of_forall₂ {whole : List StoredFinding}
    (h : List.Forall₂ (fun finding result => ∃ first,
      firstOf whole finding.resourceKey = some first ∧ first ∈ calls ∧
      Judged S reader first finding result) findings results) :
    Sound S reader calls whole findings results := by
  induction h with
  | nil => exact ⟨rfl, rfl, by simp, by simp⟩
  | @cons finding result findings results hjudged _ ih =>
    obtain ⟨first, hfirst, hcalled, hjudge⟩ := hjudged
    obtain ⟨hunsupported, hrefuted⟩ := hjudge.sound
    have hkey := firstOf_resourceKey hfirst
    have hcheck : result.verdict = checkOf S reader whole finding := by
      unfold checkOf
      rw [hfirst]
      exact hjudge.verdict
    refine ⟨?_, ?_, ?_, ?_⟩
    · rw [List.map_cons, List.map_cons, ih.verdicts, hcheck]
    · rw [List.map_cons, List.map_cons, ih.about, hjudge.about]
    · intro other hother
      rcases List.mem_cons.mp hother with rfl | hother
      · exact hunsupported
      · exact ih.unsupported other hother
    · intro pair hpair hstatus
      rw [List.zip_cons_cons] at hpair
      rcases List.mem_cons.mp hpair with rfl | hpair
      · obtain ⟨state, hread, hresource, hrefutes⟩ := hrefuted hstatus
        exact ⟨first, hcalled, hkey, state, hread, hresource.trans hkey, hrefutes⟩
      · exact ih.refuted pair hpair hstatus

end verdicts

section service

variable {α : Type} {S : Settings} {reader : Reader} {clock : String → Prop} {s : Stores}
  {calls : List StoredFinding} {caseId : String} {case : RemediationCase}

/-- A transition that a stored case refuses is not applied. -/
theorem Ends.advance_refused {transition : CaseTransition} {args : TransitionArgs}
    {Q : Except PyError α → Stores → Prop} {f : RemediationCase → Service α} {e : PyError}
    (hcase : s.cases.case? caseId = some case)
    (hrefused : transitionCase case transition args = .error e) (hraise : Q (.error e) s) :
    Ends clock none ((ElCapitan.advance caseId transition args).bind f) Q s := by
  unfold ElCapitan.advance
  simp only [Prog.bind_eq, Prog.pure_eq, Prog.bind_assoc]
  refine Ends.store (r := (.ok case, s)) ?_ (.inl rfl) ?_ ?_
  · change some (s.cases.get caseId, s) = _
    rw [CaseTables.get_eq_ok.mpr hcase]
  · rintro current heq
    obtain rfl := Except.ok.inj heq
    rw [hrefused]
    exact hraise
  · rintro error heq
    cases heq

/-- A transition that a stored case accepts is applied. -/
theorem Ends.advance_applied {case' : RemediationCase} {event : CaseEvent}
    {transition : CaseTransition} {args : TransitionArgs}
    {Q : Except PyError α → Stores → Prop} {f : RemediationCase → Service α} (hs : s.Sequenced)
    (hcase : s.cases.case? caseId = some case)
    (hnext : transitionCase case transition args = .ok (case', event))
    (hunused : ∀ other ∈ s.cases.events, other.eventId ≠ args.eventId)
    (hf : ∀ tables, s.cases.append case' event case.version = .ok tables →
      Ends clock none (f case') Q { s with cases := tables }) :
    Ends clock none ((ElCapitan.advance caseId transition args).bind f) Q s := by
  have hid : case.caseId = caseId := CaseTables.case?_caseId hcase
  obtain ⟨tables, happend⟩ := hs.append_ok (by rw [hid]; exact hcase) hnext hunused
  unfold ElCapitan.advance
  simp only [Prog.bind_eq, Prog.pure_eq, Prog.bind_assoc]
  refine Ends.store (r := (.ok case, s)) ?_ (.inl rfl) ?_ ?_
  · change some (s.cases.get caseId, s) = _
    rw [CaseTables.get_eq_ok.mpr hcase]
  · rintro current heq
    rw [← Except.ok.inj heq, hnext]
    refine Ends.store (r := (.ok (), { s with cases := tables })) ?_ (eq_or_ne _ _) ?_ ?_
    · change some (commit s (s.cases.append case' event case.version) _ _) = _
      rw [happend]
      rfl
    · rintro _ _
      exact hf tables happend
    · rintro error heq
      cases heq
  · rintro error heq
    cases heq

/-- What a validation leaves: its record, and the case where its results say. -/
structure Recorded (caseId : String) (results : List FindingValidation)
    (outcome : CaseValidationOutcome) (s' : Stores) : Prop where
  findings : outcome.findings = results
  stored : RecordTable.get s'.records outcome.record.recordId = .ok outcome.record
  ofCase : outcome.record.caseId = caseId
  body : outcome.record.body.lookup "findings" = some (.arr (results.map FindingValidation.toDict))
  moved : ∃ case', s'.cases.case? caseId = some case' ∧ CaseFollows case'.state results

/-- The part of `validate` after its loop. -/
def concludeValidation (caseId validationId namespaceOf now : String)
    (results : List FindingValidation) (refs : List EvidenceRef) :
    Service CaseValidationOutcome := do
  let allEvidence := fromKeys (results.flatMap FindingValidation.evidenceIds)
  let record ← .ofExcept (ProductRecord.create validationId caseId "ValidationResult.v1" 1 now
    [("validation_id", .str validationId), ("case_id", .str caseId),
      ("findings", .arr (results.map FindingValidation.toDict)),
      ("artifact_namespace", .str namespaceOf),
      ("evidence", .arr (refs.map fun ref => .obj ref.toDict))] allEvidence)
  perform (.putRecord record)
  let eventId ← perform (.newId "EVT")
  let (transition, detail) := validationDecision results
  let case ← advance caseId transition
    { eventId, occurredAt := now, actor := "live-validator",
      recordIds := recordIdsOf [("validation_result_id", validationId)],
      evidenceIds := allEvidence, detail }
  return { case, record, findings := results }

/-- Concluding a validation reads nothing live. -/
theorem silent_conclude {validationId namespaceOf now : String}
    {results : List FindingValidation} {refs : List EvidenceRef} :
    Silent (concludeValidation caseId validationId namespaceOf now results refs) := by
  unfold concludeValidation
  refine (silent_ofExcept _).bind fun record => ?_
  refine (silent_perform fun _ _ h => by cases h).bind fun _ => ?_
  refine (silent_perform fun _ _ h => by cases h).bind fun eventId => ?_
  exact silent_advance.bind fun _ => trivial

/-- The results of a validation are recorded, and the case follows them unless it would be blocked
for a reason without a text. -/
theorem concludeValidation_ends (hs : s.Sequenced) (hcase : s.cases.case? caseId = some case)
    (hstate : case.state = .prioritized) {validationId namespaceOf now : String}
    (hid : s.Unused validationId) (hnow : now ≠ "") {results : List FindingValidation}
    {refs : List EvidenceRef}
    (hunsupported : ∀ result ∈ results, result.status = .unsupported → result.reason ≠ "") :
    Ends clock none (concludeValidation caseId validationId namespaceOf now results refs)
      (fun r s' => (¬OneBlank (results.map FindingValidation.verdict) →
          ∃ outcome, r = .ok outcome ∧ Recorded caseId results outcome s') ∧
        (OneBlank (results.map FindingValidation.verdict) →
          ∃ e, r = .error e ∧ s'.cases = s.cases)) s := by
  have hcaseId : case.caseId = caseId := CaseTables.case?_caseId hcase
  have hnonempty : caseId ≠ "" := by
    rw [← hcaseId]
    exact case.required.1
  unfold concludeValidation
  simp only [Prog.bind_eq, Prog.pure_eq]
  refine sat_bind_ofExcept.mpr ⟨fun record hrecord => ?_, fun e he => ?_⟩
  · obtain ⟨hrecordId, hrecordCase, htype, _, hbody, _⟩ := ProductRecord.create_eq_ok hrecord
    have hunused : ∀ other ∈ s.records, other.recordId ≠ record.recordId := by
      rw [hrecordId]
      exact hid.records
    have hput : RecordTable.put s.records record = .ok (s.records ++ [record]) := by
      unfold RecordTable.put
      rw [if_neg (not_not.mpr (Rows.find_eq_none.mpr hunused))]
    refine Ends.store (r := (.ok (), { s with records := s.records ++ [record] })) ?_
      (eq_or_ne _ _) ?_ ?_
    · change some (commit s (RecordTable.put s.records record) _ _) = _
      rw [hput]
      rfl
    · rintro _ _
      refine Ends.newId fun eventId heventId _ => ?_
      have hdecision := validationDecision_decides hunsupported
      obtain ⟨hmoves, hstays⟩ := @Decision.moves case
        { eventId, occurredAt := now, actor := "live-validator",
          recordIds := recordIdsOf [("validation_result_id", validationId)],
          evidenceIds := fromKeys (results.flatMap FindingValidation.evidenceIds),
          detail := (validationDecision results).2 } results _ validationId hdecision hstate
        (lookup_recordIdsOf_self _ _) hid.nonempty ⟨heventId.nonempty, by simp, hnow⟩
        ⟨rfl, rfl, rfl, rfl⟩
      by_cases hblank : OneBlank (results.map FindingValidation.verdict)
      · obtain ⟨e, hrefused⟩ := hstays hblank
        exact Ends.advance_refused hcase hrefused
          ⟨fun hnot => absurd hblank hnot, fun _ => ⟨e, rfl, rfl⟩⟩
      · obtain ⟨case', event, hnext, hfollows⟩ := hmoves hblank
        have hcaseId' : case'.caseId = caseId := by
          obtain ⟨target, haccepted⟩ := transitionCase_accepted hnext
          rw [haccepted.caseId, hcaseId]
        refine Ends.advance_applied hs hcase hnext heventId.events fun tables happend => ?_
        refine ⟨fun _ => ⟨_, rfl, ?_⟩, fun hyes => absurd hyes hblank⟩
        exact
          { findings := rfl
            stored := RecordTable.get_put_self hput
            ofCase := hrecordCase
            body := by
              dsimp only
              rw [hbody]
              rfl
            moved := ⟨case', by rw [← hcaseId']; exact CaseTables.case?_append_self happend,
              hfollows⟩ }
    · rintro e heq
      cases heq
  · simp [ProductRecord.create, hid.nonempty, hnonempty] at he

/-- Validation failed closed: one result for each finding, recorded with the case where the results
say, one reading for each resource at most, and only findings refuted live are not confirmed. -/
structure FailClosed (S : Settings) (reader : Reader) (caseId : String)
    (findings calls : List StoredFinding) (outcome : CaseValidationOutcome) (s' : Stores) :
    Prop where
  about : outcome.findings.map FindingValidation.findingId =
    findings.map StoredFinding.findingId
  recorded : Recorded caseId outcome.findings outcome s'
  once : (calls.map StoredFinding.resourceKey).Nodup
  refuted : ∀ pair ∈ findings.zip outcome.findings, pair.2.status = .notConfirmed →
    RefutedLive S reader calls pair.1

/-- What a validation of a prioritized case with findings comes to. -/
theorem validate_reads (hS : S.EvaluatorsTolerated) (hreader : reader.Tolerated)
    (hclock : ∀ time, clock time → time ≠ "") (hs : s.Sequenced)
    (hcase : s.cases.case? caseId = some case) (hstate : case.state = .prioritized)
    (hne : FindingTable.listForCase s.findings caseId ≠ [])
    (hreadable : ∀ finding ∈ FindingTable.listForCase s.findings caseId,
      finding.Readable S.platform) (hostEnv : List (String × String)) :
    EndsReading reader clock (validate S caseId hostEnv) (fun r state' =>
      (¬OneBlank ((FindingTable.listForCase s.findings caseId).map
          (checkOf S reader (FindingTable.listForCase s.findings caseId))) →
        ∃ outcome, r = .ok outcome ∧ FailClosed S reader caseId
          (FindingTable.listForCase s.findings caseId) state'.2 outcome state'.1) ∧
      (OneBlank ((FindingTable.listForCase s.findings caseId).map
          (checkOf S reader (FindingTable.listForCase s.findings caseId))) →
        ∃ e, r = .error e ∧ state'.1.cases = s.cases)) (s, []) := by
  unfold validate
  simp only [Prog.bind_eq, Prog.pure_eq]
  refine EndsReading.getCase hcase ?_
  refine sat_bind_raiseIf.mpr ⟨fun _ => ?_, fun hother => absurd hstate hother⟩
  refine EndsReading.listForCase ?_
  refine sat_bind_raiseIf.mpr ⟨fun _ => ?_, fun hempty => ?_⟩
  · refine EndsReading.newId fun validationId hid _ => ?_
    refine EndsReading.now fun now hnow => ?_
    refine Effects.sat_bind.mpr ((validateFindings_reads hS hreader hreadable captured_nil).mono ?_)
    rintro r ⟨s', calls'⟩ ⟨hs', _, honce, results, refs, rfl, hresults⟩
    dsimp only at hs' honce hresults ⊢
    subst hs'
    have hsound := sound_of_forall₂ hresults
    rw [List.nil_append] at hsound
    have hends (namespaceOf : String) := @concludeValidation_ends clock _ caseId case hs
      hcase hstate
      validationId namespaceOf now hid (hclock now hnow) results refs hsound.unsupported
    refine (silent_conclude.sat (hends _)).mono ?_
    rintro r ⟨s'', calls''⟩ ⟨⟨hmoves, hstays⟩, rfl⟩
    rw [hsound.verdicts] at hmoves hstays
    refine ⟨fun hblank => ?_, hstays⟩
    obtain ⟨outcome, rfl, hrecorded⟩ := hmoves hblank
    have hfindings := hrecorded.findings
    subst hfindings
    exact ⟨outcome, rfl, hsound.about, hrecorded, honce, hsound.refuted⟩
  · exact absurd (List.isEmpty_iff.mp hempty) hne

end service

/-- A validation of a prioritized case with findings, beside which nothing else runs, fails closed
if and only if it does not come to a block whose only reason is an error without a text. -/
theorem validation_fails_closed_iff (S : Settings) (reader : Reader) (clock : String → Prop)
    (hS : S.EvaluatorsTolerated) (hreader : reader.Tolerated)
    (hclock : ∀ time, clock time → time ≠ "") (s : Stores) (hs : s.Sequenced) (caseId : String)
    (case : RemediationCase) (hcase : s.cases.case? caseId = some case)
    (hstate : case.state = .prioritized) (findings : List StoredFinding)
    (hfindings : FindingTable.listForCase s.findings caseId = findings) (hne : findings ≠ [])
    (hreadable : ∀ finding ∈ findings, finding.Readable S.platform)
    (hostEnv : List (String × String)) (out : Except PyError CaseValidationOutcome) (s' : Stores)
    (calls : List StoredFinding)
    (hrun : Runs (readingWorld reader clock) (validate S caseId hostEnv) (s, []) out (s', calls)) :
    (∃ outcome, out = .ok outcome ∧ FailClosed S reader caseId findings calls outcome s') ↔
      ¬OneBlank (findings.map (checkOf S reader findings)) := by
  subst hfindings
  have hreads := validate_reads hS hreader hclock hs hcase hstate hne hreadable hostEnv
  obtain ⟨hcloses, hraises⟩ := hreads.runs hrun
  constructor
  · rintro ⟨outcome, rfl, _⟩ hblank
    obtain ⟨e, he, _⟩ := hraises hblank
    cases he
  · exact hcloses

section samples

/-- The prioritized sample case. -/
def prioritizedCase : RemediationCase :=
  { sampleCase with state := .prioritized, version := 1 }

/-- The finding of the sample case. -/
def validatedFinding : StoredFinding where
  tenantId := "tenant-1"
  findingId := "finding-1"
  provider := "aws"
  account := "111122223333"
  originalUid := "uid-1"
  resourceUid := "arn:aws:s3:::bucket"
  record := [("ocsf", .obj [("rule_id", .str "s3_bucket_versioning")]),
    ("resource", .obj [("type", .str "AwsS3Bucket")])]
  prioritySignals := ⟨"high", 0, 0, false, false, false, false, false, 0, [], by simp, by simp,
    by simp⟩
  artifactNamespace := "findings/finding-1"
  caseId := some "case-1"

/-- The stores with the sample case and its finding. -/
def prioritizedStores : Stores :=
  { cases := { cases := [prioritizedCase] }, findings := [validatedFinding] }

/-- An installation with one control that refutes every finding. -/
def refutingSettings : Settings :=
  ⟨samplePlatform, "/artifacts", fun _ _ _ => some ⟨fun _ => .ok (false, "versioning is on"), true⟩⟩

/-- A reader that raises an error without a text. -/
def silentReader : Reader := fun _ => .error ⟨.osError, ""⟩

/-- A reader that reads every resource. -/
def liveReader : Reader := fun finding =>
  .ok ⟨finding.provider, finding.resourceUid, "us-east-1", [("versioning", "Enabled")]⟩

/-- The clock of the validations of the sample case. -/
abbrev validationClock (time : String) : Prop := time = "2026-07-17T12:00:00Z"

/-- The sample's clock shows a time. -/
theorem validationClock_nonempty : ∀ time, validationClock time → time ≠ "" := by
  rintro time rfl
  decide

/-- The sample's stores number their events from one. -/
theorem prioritizedStores_sequenced : prioritizedStores.Sequenced :=
  fun _ hevent => by cases hevent

/-- The sample's evaluator raises nothing. -/
theorem refutingSettings_tolerated : refutingSettings.EvaluatorsTolerated := by
  intro provider ruleId resourceType control hcontrol values e he
  obtain rfl := Option.some.inj hcontrol
  cases he

/-- The sample's finding can be read. -/
theorem validatedFinding_readable : ∀ finding ∈ [validatedFinding],
    finding.Readable refutingSettings.platform := by
  intro finding hfinding
  obtain rfl := List.mem_singleton.mp hfinding
  exact ⟨⟨_, rfl⟩, ⟨_, rfl⟩⟩

/-- Every operation of a validation gets an answer. -/
theorem readingWorld_total (reader : Reader) (state : Stores × List StoredFinding) (o : Operation) :
    ∃ r state', readingWorld reader validationClock state o r state' := by
  by_cases ho : ∃ finding hostEnv, o = .readLive finding hostEnv
  · obtain ⟨finding, hostEnv, rfl⟩ := ho
    exact ⟨reader finding, (state.1, state.2 ++ [finding]), rfl, rfl, rfl⟩
  · push Not at ho
    obtain ⟨r, s', hstep⟩ := @aloneWorld_total validationClock _ rfl none state.1 o
    exact ⟨r, (s', state.2), (readingWorld_other ho).mpr ⟨hstep, rfl⟩⟩

/-- A validation whose reader raises an error without a text raises, and its case is not blocked. -/
theorem silent_reader_raises : silentReader.Tolerated ∧
    ∃ e s' calls, Runs (readingWorld silentReader validationClock)
      (validate refutingSettings "case-1" []) (prioritizedStores, []) (.error e) (s', calls) ∧
    s'.cases.case? "case-1" = some prioritizedCase := by
  have htolerated : silentReader.Tolerated := by
    intro finding e he
    obtain rfl := Except.error.inj he
    exact Or.inl rfl
  obtain ⟨out, ⟨s', calls⟩, hrun⟩ := Runs.exists_of_total (readingWorld_total silentReader)
    (validate refutingSettings "case-1" []) (prioritizedStores, [])
  have hreads := @validate_reads refutingSettings silentReader validationClock prioritizedStores
    "case-1" prioritizedCase refutingSettings_tolerated htolerated validationClock_nonempty
    prioritizedStores_sequenced rfl rfl (by decide +kernel) validatedFinding_readable []
  obtain ⟨e, rfl, hcases⟩ := (hreads.runs hrun).2 ⟨[], [], rfl, by simp⟩
  refine ⟨htolerated, e, s', calls, hrun, ?_⟩
  rw [hcases]
  rfl

/-- A validation whose reader reads the resource of the sample case fails closed. -/
theorem live_reader_fails_closed : ∃ outcome s' calls,
    Runs (readingWorld liveReader validationClock) (validate refutingSettings "case-1" [])
      (prioritizedStores, []) (.ok outcome) (s', calls) ∧
    FailClosed refutingSettings liveReader "case-1" [validatedFinding] calls outcome s' := by
  obtain ⟨out, ⟨s', calls⟩, hrun⟩ := Runs.exists_of_total (readingWorld_total liveReader)
    (validate refutingSettings "case-1" []) (prioritizedStores, [])
  have htolerated : liveReader.Tolerated := fun _ _ he => by cases he
  have hblank : ¬OneBlank
      ([validatedFinding].map (checkOf refutingSettings liveReader [validatedFinding])) := by
    rintro ⟨before, after, hverdicts, _⟩
    have hmem : (FindingValidationStatus.unavailable, "") ∈
        [validatedFinding].map (checkOf refutingSettings liveReader [validatedFinding]) := by
      rw [hverdicts]
      simp
    revert hmem
    decide +kernel
  obtain ⟨outcome, rfl, hclosed⟩ := (validation_fails_closed_iff refutingSettings liveReader
    validationClock refutingSettings_tolerated htolerated validationClock_nonempty
    prioritizedStores prioritizedStores_sequenced "case-1" prioritizedCase rfl rfl
    [validatedFinding] rfl (by simp) validatedFinding_readable [] out s' calls hrun).mpr hblank
  exact ⟨outcome, s', calls, hrun, hclosed⟩

end samples

end ElCapitan
