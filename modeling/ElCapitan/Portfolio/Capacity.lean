import ElCapitan.Portfolio.Queue
import Mathlib.Data.Int.ConditionallyCompleteOrder

/-!
# How many changes the portfolio schedules at once

The scheduled items of a queue are the unopposed approved cases of its ranking. Cases
that share a service never overlap among them, but the bound on parallel changes holds
only when the uncontested windows happen to respect it.
-/

namespace ElCapitan

open Occupancy

variable {P : Platform} {A : FloatArithmetic} {policy : PortfolioPolicy}

/-- The comparison of two windows, when their bounds parse. -/
theorem overlaps_eq {case other : RemediationCase} {v w : Span ℤ}
    (hcase : caseSpan P case = some v) (hother : caseSpan P other = some w) :
    overlaps P case other = decide (v.Meets w) := by
  unfold caseSpan at hcase hother
  obtain ⟨window, hwindow, hv⟩ := Option.bind_eq_some_iff.mp hcase
  obtain ⟨window', hwindow', hw⟩ := Option.bind_eq_some_iff.mp hother
  unfold spanOf at hv hw
  split at hv
  swap
  · cases hv
  rename_i first last hfirst hlast
  split at hw
  swap
  · cases hw
  rename_i first' last' hfirst' hlast'
  cases hv
  cases hw
  have hmeets : (Span.Meets ⟨first.instant, last.instant⟩ ⟨first'.instant, last'.instant⟩) ↔
      first.instant < last'.instant ∧ first'.instant < last.instant := Iff.rfl
  by_cases hbefore : first.instant < last'.instant
  · simp [overlaps, overlap, hwindow, hwindow', hfirst, hlast, hfirst', hlast', hbefore, hmeets,
      bind, Except.bind, pure, Except.pure, Except.toOption]
  · simp [overlaps, overlap, hwindow, hwindow', hfirst, hlast', hbefore, hmeets,
      bind, Except.bind, pure, Except.pure, Except.toOption]

/-- The window of a case is taken to conflict with a higher-ranked one. -/
def clashes (P : Platform) (policy : PortfolioPolicy) (lower higher : RankedCase) : Bool :=
  overlaps P lower.case higher.case && (sharesService lower.case higher.case ||
    decide (policy.maximumParallelChanges = 1))

/-- A case has no conflicts where no higher one clashes with it. -/
theorem conflictsOf_eq_nil {case : RankedCase} {above : List RankedCase} {conflicts : List String}
    (h : conflictsOf P policy case.case above = .ok conflicts) :
    conflicts = [] ↔ ∀ higher ∈ above, clashes P policy case higher = false := by
  induction above generalizing conflicts with
  | nil =>
    cases h
    simp
  | cons higher rest ih =>
    obtain ⟨meets, hmeets, h⟩ := except_bind_eq_ok.mp h
    obtain ⟨conflicts', hrest, h⟩ := except_bind_eq_ok.mp h
    have hoverlaps : overlaps P case.case higher.case = meets := by
      simp [overlaps, hmeets, Except.toOption]
    have hih := ih hrest
    cases hclash : clashes P policy case higher with
    | true =>
      have hcond : (meets && (sharesService case.case higher.case ||
          decide (policy.maximumParallelChanges = 1))) = true := by
        rw [← hoverlaps]
        exact hclash
      rw [hcond] at h
      cases h
      simp [hclash]
    | false =>
      have hcond : (meets && (sharesService case.case higher.case ||
          decide (policy.maximumParallelChanges = 1))) = false := by
        rw [← hoverlaps]
        exact hclash
      rw [hcond] at h
      cases h
      simp [hclash, hih]

/-- Only an approved case with a window and without conflicts is scheduled. -/
theorem schedulingOf_scheduled {case : RemediationCase} {conflicts : List String} :
    (schedulingOf case conflicts).1 = .scheduled ↔
      conflicts = [] ∧ case.state = .approved ∧ case.changeWindow.isSome := by
  unfold schedulingOf
  by_cases hconflicts : conflicts = []
  · by_cases hgo : case.state = .approved ∧ case.changeWindow.isSome = true
    · simp [hconflicts, hgo]
    · rw [if_neg (by simp [hconflicts]), if_neg (by simp [hconflicts]), if_neg hgo]
      constructor
      · intro h
        split at h <;> cases h
      · intro h
        exact absurd h.2 hgo
  · constructor
    · intro h
      split at h
      · cases h
      · rename_i hstate
        split at h
        · cases h
        · rename_i hwindow
          rw [if_neg (by tauto)] at h
          split at h <;> cases h
    · intro h
      exact absurd h.1 hconflicts

/-- What an item says of its case. -/
theorem itemOf_eq_ok {formatOne : ℚ → String} {above : List RankedCase} {ranked : RankedCase}
    {item : PortfolioItem} (h : itemOf P A policy formatOne above ranked = .ok item) :
    item.span P = caseSpan P ranked.case ∧ item.serviceIds = ranked.case.serviceIds ∧
      (item.schedulingStatus = .scheduled ↔
        (ranked.approved && above.all fun higher => !clashes P policy ranked higher) = true) := by
  unfold itemOf at h
  obtain ⟨conflicts, hconflicts, h⟩ := except_bind_eq_ok.mp h
  cases h
  refine ⟨?_, rfl, ?_⟩
  · unfold PortfolioItem.span caseSpan
    cases ranked.case.changeWindow with
    | none => rfl
    | some window => rfl
  · have hnil := conflictsOf_eq_nil hconflicts
    refine Iff.trans schedulingOf_scheduled ?_
    simp only [RankedCase.approved, Bool.and_eq_true, decide_eq_true_eq, List.all_eq_true,
      Bool.not_eq_true', hnil]
    tauto

/-- The scheduled items are the unopposed approved cases. -/
theorem itemsFrom_scheduled {formatOne : ℚ → String} {above ranked : List RankedCase}
    {items : List PortfolioItem} (h : itemsFrom P A policy formatOne above ranked = .ok items) :
    (scheduledItems items).map (fun item => (item.span P, item.serviceIds)) =
      (unopposed RankedCase.approved (clashes P policy) above ranked).map
        fun r => (caseSpan P r.case, r.case.serviceIds) := by
  induction ranked generalizing above items with
  | nil =>
    cases h
    rfl
  | cons first rest ih =>
    obtain ⟨item, hitem, h⟩ := except_bind_eq_ok.mp h
    obtain ⟨items', hitems, h⟩ := except_bind_eq_ok.mp h
    cases h
    obtain ⟨hspan, hservices, hstatus⟩ := itemOf_eq_ok hitem
    have hih := ih hitems
    unfold scheduledItems at hih ⊢
    unfold unopposed
    by_cases hgo : item.schedulingStatus = .scheduled
    · rw [if_pos (hstatus.mp hgo), List.filter_cons_of_pos (by simpa using hgo)]
      simp [hih, hspan, hservices]
    · rw [if_neg fun hkept => hgo (hstatus.mpr hkept), List.filter_cons_of_neg (by simpa using hgo)]
      exact hih

/-- The spans of the scheduled items. -/
theorem scheduled_spans {formatOne : ℚ → String} {ranked : List RankedCase}
    {items : List PortfolioItem} (h : itemsFrom P A policy formatOne [] ranked = .ok items) :
    (scheduledItems items).filterMap (fun item => item.span P) =
      (unopposed RankedCase.approved (clashes P policy) [] ranked).filterMap
        fun r => caseSpan P r.case := by
  have hmap := congrArg (List.filterMap Prod.fst) (itemsFrom_scheduled h)
  simpa [List.filterMap_map] using hmap

/-- Scheduled cases with overlapping windows share no service. -/
theorem scheduled_services {formatOne : ℚ → String} {ranked : List RankedCase}
    {items : List PortfolioItem} (h : itemsFrom P A policy formatOne [] ranked = .ok items) :
    (scheduledItems items).Pairwise fun a b => ∀ v w, a.span P = some v →
      b.span P = some w → v.Meets w → ∀ service ∈ a.serviceIds, service ∉ b.serviceIds := by
  let apart : Option (Span ℤ) × List String → Option (Span ℤ) × List String → Prop :=
    fun a b => ∀ v w, a.1 = some v → b.1 = some w → v.Meets w →
      ∀ service ∈ a.2, service ∉ b.2
  have hcases : ((unopposed RankedCase.approved (clashes P policy) [] ranked).map
      fun r => (caseSpan P r.case, r.case.serviceIds)).Pairwise apart := by
    rw [List.pairwise_map]
    refine (unopposed_pairwise [] ranked).imp ?_
    intro a b hclear v w hv hw hmeets service ha hb
    have hover : overlaps P b.case a.case = true := by
      rw [overlaps_eq hw hv]
      exact decide_eq_true hmeets.symm
    have hshares : sharesService b.case a.case = true :=
      List.any_eq_true.mpr ⟨service, hb, List.contains_iff_mem.mpr ha⟩
    simp [clashes, hover, hshares] at hclear
  rw [← itemsFrom_scheduled h, List.pairwise_map] at hcases
  exact hcases

/-- With one parallel change the unopposed windows never meet. -/
theorem unopposed_spans_apart (hone : policy.maximumParallelChanges = 1)
    (ranked : List RankedCase) :
    ((unopposed RankedCase.approved (clashes P policy) [] ranked).filterMap
      fun r => caseSpan P r.case).Pairwise fun v w => ¬v.Meets w := by
  rw [List.pairwise_filterMap]
  refine (unopposed_pairwise [] ranked).imp ?_
  intro a b hclear v hv w hw hmeets
  have hover : overlaps P b.case a.case = true := by
    rw [overlaps_eq hw hv]
    exact decide_eq_true hmeets.symm
  simp [clashes, hover, hone] at hclear

/-- With more, only services count. -/
theorem unopposed_eq_uncontested (hmany : policy.maximumParallelChanges ≠ 1)
    (ranked : List RankedCase) :
    unopposed RankedCase.approved (clashes P policy) [] ranked = uncontested P ranked := by
  unfold uncontested
  congr 1
  funext lower higher
  simp [clashes, hmany]

/-- However scores are rounded, the queue stays within the capacity of the policy exactly when
one change is allowed at a time, or at the start of no uncontested approved window are more
such windows open than are allowed. -/
theorem queue_within_capacity_iff {σ : Type} {formatOne : ℚ → String} {store : CaseStoreOf σ}
    {cases : σ} {tenantId : String} {criticality : List (String × ℚ)} {items : List PortfolioItem}
    (hqueue : queue P A policy formatOne store cases tenantId criticality = .ok items) :
    WithinCapacity P policy items ↔ ∀ ranked,
      rankCases P A policy criticality (store.listCases cases (some tenantId)) = .ok ranked →
        Fits P policy ranked := by
  obtain ⟨ranked, hranked, hitems⟩ := except_bind_eq_ok.mp hqueue
  have hspans := scheduled_spans hitems
  constructor
  · intro hwithin ranked' hranked'
    obtain rfl : ranked = ranked' := by
      rw [hranked] at hranked'
      exact Except.ok.inj hranked'
    by_cases hone : policy.maximumParallelChanges = 1
    · exact .inl hone
    · right
      intro v _
      rw [unopposed_eq_uncontested hone] at hspans
      rw [← hspans]
      exact hwithin.capacity v.start
  · intro hfits
    refine ⟨?_, scheduled_services hitems⟩
    rw [hspans]
    have hpositive := policy.positive
    by_cases hone : policy.maximumParallelChanges = 1
    · intro t
      have hle := occupancy_le_one (unopposed_spans_apart (P := P) hone ranked) t
      omega
    · rw [unopposed_eq_uncontested hone]
      have hstarts := (hfits ranked hranked).resolve_left hone
      have hmax : ∀ n : ℕ, (n : ℤ) ≤ policy.maximumParallelChanges ↔
          n ≤ policy.maximumParallelChanges.toNat := by
        intro n
        omega
      intro t
      rw [hmax]
      refine occupancy_le_iff.mpr ?_ t
      intro w hw
      rw [← hmax]
      exact hstarts w hw

section samples

/-- The sample's score is within its bounds. -/
theorem sampleScore_bounds : 0 ≤ (80 : ℚ) ∧ (80 : ℚ) ≤ 100 := by
  norm_num

/-- The sample's assessment has the texts that an assessment needs. -/
theorem sampleRisk_required : "risk-1" ≠ "" ∧ "urgent" ≠ "" ∧ ["internet exposed"] ≠ [] := by
  decide

/-- Two changes may be made at once. -/
theorem twoChanges_positive : 1 ≤ (2 : ℤ) := by
  decide

/-- An approved case of a service, with the sample window. -/
def approvedFor (caseId serviceId : String) (hid : caseId ≠ "") : RemediationCase :=
  { approvedCase with
    caseId
    serviceIds := [serviceId]
    priority := some ⟨"risk-1", 80, "urgent", ["internet exposed"], 1, ["evidence-1"],
      sampleScore_bounds, full_confidence, sampleRisk_required⟩
    required := ⟨hid, approvedCase.required.2⟩ }

/-- The sample's cases have ids. -/
theorem sampleCases_named : "case-1" ≠ "" ∧ "case-2" ≠ "" ∧ "case-3" ≠ "" := by
  decide

/-- A tenant with three cases of different services that are approved for one window. -/
def crowdedTables : SqliteCaseTables :=
  { cases := [approvedFor "case-1" "payments" sampleCases_named.1,
      approvedFor "case-2" "search" sampleCases_named.2.1,
      approvedFor "case-3" "mail" sampleCases_named.2.2] }

/-- A policy for so many parallel changes. -/
def parallelPolicy (n : ℤ) (hn : 1 ≤ n) : PortfolioPolicy := ⟨n, 10, 10, hn⟩

/-- The queue of the tenant. -/
def crowdedQueue (n : ℤ) (hn : 1 ≤ n) : Except PyError (List PortfolioItem) :=
  queue samplePlatform exactArithmetic (parallelPolicy n hn) (fun _ => "80.0")
    sqliteCaseStore crowdedTables
    "tenant-1" []

/-- A case of the tenant is scheduled when one change at a time is allowed. -/
theorem queue_within_capacity_one : ∃ items, crowdedQueue 1 (le_refl 1) = .ok items ∧
    scheduledItems items ≠ [] ∧
      WithinCapacity samplePlatform (parallelPolicy 1 (le_refl 1)) items := by
  have hany : (crowdedQueue 1 (le_refl 1)).toOption.any
      (fun items => !(scheduledItems items).isEmpty) = true := by
    decide +kernel
  obtain ⟨items, hqueue, hsome⟩ := exists_of_any hany
  refine ⟨items, hqueue, by simpa using hsome, ?_⟩
  exact (queue_within_capacity_iff hqueue).mpr fun _ _ => .inl rfl

/-- Three changes are scheduled for one window where two are allowed. -/
theorem queue_oversubscribes : ∃ items, crowdedQueue 2 twoChanges_positive = .ok items ∧
    ¬WithinCapacity samplePlatform (parallelPolicy 2 twoChanges_positive) items := by
  have hany : (crowdedQueue 2 twoChanges_positive).toOption.any (fun items =>
      occupancy ((scheduledItems items).filterMap fun item => item.span samplePlatform)
        1784340000000000 = 3) = true := by
    decide +kernel
  obtain ⟨items, hqueue, hthree⟩ := exists_of_any hany
  refine ⟨items, hqueue, fun hwithin => ?_⟩
  have hcapacity := hwithin.capacity 1784340000000000
  rw [of_decide_eq_true hthree] at hcapacity
  exact absurd hcapacity (by decide)

end samples

end ElCapitan
