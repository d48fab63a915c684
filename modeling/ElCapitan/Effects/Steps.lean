import Mathlib.Data.List.Basic

/-!
# Runs of a labelled transition relation

A run is the list of labels of its steps. Invariants may speak of the labels
seen so far, and a run may be restricted to steps that meet a condition.
-/

namespace Effects

variable {σ Λ : Type*}

/-- A finite run of a labelled transition relation, extended at its end. -/
inductive Steps (step : σ → Λ → σ → Prop) : σ → List Λ → σ → Prop
  | nil (s : σ) : Steps step s [] s
  | snoc {s s' s'' : σ} {ls : List Λ} {l : Λ} (run : Steps step s ls s') (last : step s' l s'') :
      Steps step s (ls ++ [l]) s''

namespace Steps

variable {step step' : σ → Λ → σ → Prop} {s s' s'' : σ} {ls ls' : List Λ} {l : Λ}

/-- A step is a run. -/
theorem single (h : step s l s') : Steps step s [l] s' := .snoc (.nil s) h

/-- Runs may follow each other. -/
theorem append (h : Steps step s ls s') (h' : Steps step s' ls' s'') :
    Steps step s (ls ++ ls') s'' := by
  induction h' with
  | nil => simpa using h
  | snoc _ last ih => simpa using ih.snoc last

/-- A run may follow a step. -/
theorem cons (first : step s l s') (rest : Steps step s' ls s'') :
    Steps step s (l :: ls) s'' := by
  simpa using (single first).append rest

/-- A run of a smaller relation is a run of a larger one. -/
theorem mono (h : Steps step s ls s') (hsub : ∀ a b c, step a b c → step' a b c) :
    Steps step' s ls s' := by
  induction h with
  | nil => exact .nil _
  | snoc _ last ih => exact ih.snoc (hsub _ _ _ last)

/-- A property of the labels and the state that holds at the start and is kept
by every step holds at the end of every run. -/
theorem invariant (I : List Λ → σ → Prop) (h : Steps step s ls s') (init : I [] s)
    (keep : ∀ ls a l b, Steps step s ls a → I ls a → step a l b → I (ls ++ [l]) b) : I ls s' := by
  induction h with
  | nil => exact init
  | snoc run last ih => exact keep _ _ _ _ run ih last

/-- A step-preserved property of states alone. -/
theorem stateInvariant (I : σ → Prop) (h : Steps step s ls s') (init : I s)
    (keep : ∀ a l b, I a → step a l b → I b) : I s' :=
  h.invariant (fun _ => I) init fun _ a l b _ ha hb => keep a l b ha hb

/-- A property of states that the steps keep may be used at each step. -/
theorem strengthen (I : σ → Prop) {P : σ → Λ → σ → Prop} (h : Steps step s ls s') (init : I s)
    (keep : ∀ a l b, I a → step a l b → P a l b ∧ I b) :
    Steps (fun a l b => (step a l b ∧ I a) ∧ P a l b) s ls s' ∧ I s' := by
  induction h with
  | nil => exact ⟨.nil _, init⟩
  | snoc _ last ih =>
    obtain ⟨hrun, ha⟩ := ih
    obtain ⟨hP, hb⟩ := keep _ _ _ ha last
    exact ⟨hrun.snoc ⟨⟨last, ha⟩, hP⟩, hb⟩

end Steps

end Effects
