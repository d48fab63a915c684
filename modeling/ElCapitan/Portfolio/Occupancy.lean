import Mathlib.Data.List.Basic
import Mathlib.Order.MinMax
import Mathlib.Tactic.Order

/-!
# Occupancy of an order by spans

Half-open spans of a linear order. How many spans hold an instant is decided at the
instants where spans start, and spans that never meet hold an instant one at a time.
A ranked pass keeps the candidates that clash with nothing ranked above them.
-/

namespace Occupancy

variable {α : Type*} [LinearOrder α]

/-- A half-open interval. -/
structure Span (α : Type*) where
  start : α
  stop : α

/-- The instant lies in the span. -/
def Span.Holds (v : Span α) (t : α) : Prop := v.start ≤ t ∧ t < v.stop

instance (v : Span α) (t : α) : Decidable (v.Holds t) := inferInstanceAs (Decidable (_ ∧ _))

/-- Each span starts before the other one stops. -/
def Span.Meets (v w : Span α) : Prop := v.start < w.stop ∧ w.start < v.stop

instance (v w : Span α) : Decidable (v.Meets w) := inferInstanceAs (Decidable (_ ∧ _))

/-- Meeting does not depend on the order. -/
theorem Span.Meets.symm {v w : Span α} (h : v.Meets w) : w.Meets v := ⟨h.2, h.1⟩

/-- Spans that hold one instant meet. -/
theorem Span.meets_of_holds {v w : Span α} {t : α} (hv : v.Holds t) (hw : w.Holds t) :
    v.Meets w := by
  constructor
  · exact lt_of_le_of_lt hv.1 hw.2
  · exact lt_of_le_of_lt hw.1 hv.2

/-- How many of the spans hold the instant. -/
def occupancy (spans : List (Span α)) (t : α) : ℕ := spans.countP fun v => v.Holds t

/-- A time is occupied where a span holds it. -/
theorem occupancy_pos {spans : List (Span α)} {t : α} :
    0 < occupancy spans t ↔ ∃ v ∈ spans, v.Holds t := by
  simp [occupancy, List.countP_pos_iff]

/-- Among spans that hold an instant, one starts last. -/
theorem exists_last_start {spans : List (Span α)} {t : α} (h : ∃ v ∈ spans, v.Holds t) :
    ∃ w ∈ spans, w.Holds t ∧ ∀ v ∈ spans, v.Holds t → v.start ≤ w.start := by
  induction spans with
  | nil => simp at h
  | cons u rest ih =>
    by_cases hrest : ∃ v ∈ rest, v.Holds t
    · obtain ⟨w, hmem, hw, hlast⟩ := ih hrest
      by_cases hu : u.Holds t ∧ w.start < u.start
      · refine ⟨u, List.mem_cons_self, hu.1, ?_⟩
        intro v hv hholds
        rcases List.mem_cons.mp hv with rfl | hv
        · exact le_refl _
        · exact (hlast v hv hholds).trans hu.2.le
      · refine ⟨w, List.mem_cons_of_mem _ hmem, hw, ?_⟩
        intro v hv hholds
        rcases List.mem_cons.mp hv with rfl | hv
        · exact not_lt.mp fun hlt => hu ⟨hholds, hlt⟩
        · exact hlast v hv hholds
    · have hu : u.Holds t := by
        obtain ⟨v, hv, hholds⟩ := h
        rcases List.mem_cons.mp hv with rfl | hv
        · exact hholds
        · exact absurd ⟨v, hv, hholds⟩ hrest
      refine ⟨u, List.mem_cons_self, hu, ?_⟩
      intro v hv hholds
      rcases List.mem_cons.mp hv with rfl | hv
      · exact le_refl _
      · exact absurd ⟨v, hv, hholds⟩ hrest

/-- An occupied instant is no fuller than the start of some span. -/
theorem occupancy_le_at_start {spans : List (Span α)} {t : α} (h : 0 < occupancy spans t) :
    ∃ w ∈ spans, occupancy spans t ≤ occupancy spans w.start := by
  obtain ⟨w, hmem, hw, hlast⟩ := exists_last_start (occupancy_pos.mp h)
  refine ⟨w, hmem, ?_⟩
  apply List.countP_mono_left
  intro v hv hholds
  have hv' : v.Holds t := of_decide_eq_true hholds
  have hstart : v.start ≤ w.start := hlast v hv hv'
  have hstop : w.start < v.stop := lt_of_le_of_lt hw.1 hv'.2
  exact decide_eq_true ⟨hstart, hstop⟩

/-- A bound on the occupancy need only be checked where spans start. -/
theorem occupancy_le_iff {spans : List (Span α)} {n : ℕ} :
    (∀ t, occupancy spans t ≤ n) ↔ ∀ w ∈ spans, occupancy spans w.start ≤ n := by
  constructor
  · intro h w _
    exact h w.start
  · intro h t
    by_cases hzero : occupancy spans t = 0
    · omega
    · obtain ⟨w, hmem, hle⟩ := occupancy_le_at_start (Nat.pos_of_ne_zero hzero)
      have hw := h w hmem
      omega

/-- Spans no two of which meet hold an instant one at a time. -/
theorem occupancy_le_one {spans : List (Span α)} (h : spans.Pairwise fun v w => ¬v.Meets w)
    (t : α) : occupancy spans t ≤ 1 := by
  induction h with
  | nil => simp [occupancy]
  | @cons u rest hfirst _ ih =>
    by_cases hu : u.Holds t
    · have hrest : occupancy rest t = 0 := by
        by_contra hne
        obtain ⟨v, hv, hholds⟩ := occupancy_pos.mp (Nat.pos_of_ne_zero hne)
        exact hfirst v hv (Span.meets_of_holds hu hholds)
      unfold occupancy at hrest ⊢
      rw [List.countP_cons_of_pos (by simpa using hu)]
      omega
    · unfold occupancy at ih ⊢
      rw [List.countP_cons_of_neg (by simpa using hu)]
      exact ih

section ranking

variable {β : Type*} {candidate : β → Bool} {clash clash' : β → β → Bool}

/-- The candidates of a ranking that clash with nothing above them, candidate or not. -/
def unopposed (candidate : β → Bool) (clash : β → β → Bool) (above : List β) : List β → List β
  | [] => []
  | b :: rest =>
    if candidate b && above.all fun a => !clash b a then
      b :: unopposed candidate clash (above ++ [b]) rest
    else unopposed candidate clash (above ++ [b]) rest

/-- What is unopposed clashes with nothing that was above the whole ranking. -/
theorem unopposed_clear {above ranked : List β} {b : β}
    (h : b ∈ unopposed candidate clash above ranked) : ∀ a ∈ above, clash b a = false := by
  induction ranked generalizing above with
  | nil => simp [unopposed] at h
  | cons c rest ih =>
    have hrest : b ∈ unopposed candidate clash (above ++ [c]) rest →
        ∀ a ∈ above, clash b a = false := by
      intro hmem a ha
      exact ih hmem a (List.mem_append_left _ ha)
    unfold unopposed at h
    split at h
    · rename_i hkept
      rcases List.mem_cons.mp h with rfl | hmem
      · intro a ha
        have hall := (Bool.and_eq_true_iff.mp hkept).2
        simpa using List.all_eq_true.mp hall a ha
      · exact hrest hmem
    · exact hrest h

/-- No unopposed element clashes with an unopposed one above it. -/
theorem unopposed_pairwise (above ranked : List β) :
    (unopposed candidate clash above ranked).Pairwise fun a b => clash b a = false := by
  induction ranked generalizing above with
  | nil => exact List.Pairwise.nil
  | cons c rest ih =>
    unfold unopposed
    split
    · apply List.Pairwise.cons
      · intro b hb
        exact unopposed_clear hb c (by simp)
      · exact ih _
    · exact ih _

end ranking

end Occupancy
