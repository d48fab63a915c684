import ElCapitan.Effects.Pool

/-!
# Runs that may stop anywhere

A process that crashes leaves its program unfinished and its effects in the store. A history of
such runs, one after another, is a run of a labelled transition relation whose labels keep
what each of them did.
-/

namespace Effects

variable {S : Signature} {ε α σ Ω : Type}

/-- A program ran from a state up to some point: its events, what is left of it and the state. -/
inductive Prog.Ran (T : Env S ε σ) : Prog S ε α → σ → History S ε → Prog S ε α → σ → Prop
  | here (p : Prog S ε α) (s : σ) : Ran T p s [] p s
  | step {o : S.Op} {next : Except ε (S.Answer o) → Prog S ε α} {r : Except ε (S.Answer o)}
      {s s' s'' : σ} {h : History S ε} {p : Prog S ε α} (answer : T s o r s')
      (rest : Ran T (next r) s' h p s'') : Ran T (.call o next) s (⟨o, r⟩ :: h) p s''

/-- How a program ended, if nothing is left of it to run. -/
def Prog.outcome? : Prog S ε α → Option (Except ε α)
  | .ret a => some (.ok a)
  | .raise e => some (.error e)
  | .call _ _ => none

/-- A program with an outcome is that outcome. -/
theorem Prog.outcome?_eq_some {p : Prog S ε α} {out : Except ε α} (h : p.outcome? = some out) :
    p = Prog.ofExcept out := by
  cases p <;> cases h <;> rfl

/-- A program keeps to its rule up to the point where it stops. -/
theorem Sat.ran {T : Env S ε σ} {G : History S ε → S.Op → Prop}
    {Q : Except ε α → History S ε → Prop} {p p' : Prog S ε α} {s s' : σ} {h₀ h : History S ε}
    (hsat : Sat (Env.recording S ε) G p Q h₀) (hran : Prog.Ran T p s h p' s') :
    Sat (Env.recording S ε) G p' Q (h₀ ++ h) ∧
      ∀ before e after, h = before ++ e :: after → G (h₀ ++ before) e.op := by
  induction hran generalizing h₀ with
  | here p s =>
    refine ⟨by simpa using hsat, fun before e after heq => ?_⟩
    simp at heq
  | step answer rest ih =>
    rw [sat_call_watching] at hsat
    obtain ⟨hrest, hevents⟩ := ih (hsat.2 _)
    refine ⟨by simpa using hrest, fun before e after heq => ?_⟩
    cases before with
    | nil =>
      obtain ⟨rfl, -⟩ := List.cons.inj heq
      simpa using hsat.1
    | cons first before =>
      obtain ⟨rfl, htail⟩ := List.cons.inj heq
      simpa using hevents before e after htail

section playing

variable {β : Type} {T : Env S ε σ} {p p' q : Prog S ε α} {f : α → Prog S ε β} {s s' s'' : σ}
  {h h' : History S ε}

/-- The answers to the operations of a program, whatever they were, led to this program. -/
abbrev Prog.Played (p : Prog S ε α) (h : History S ε) (q : Prog S ε α) : Prop :=
  Prog.Ran (fun (_ : Unit) _ _ _ => True) p () h q ()

/-- A part of a run of a program is one of every sequence that begins with it. -/
theorem Prog.Ran.bind (hran : Prog.Ran T p s h p' s') (f : α → Prog S ε β) :
    Prog.Ran T (p.bind f) s h (p'.bind f) s' := by
  induction hran with
  | here p s => exact .here _ _
  | step answer rest ih => exact .step answer ih

/-- A part of a run of a program is one of every handler around it. -/
theorem Prog.Ran.handle (hran : Prog.Ran T p s h p' s') (f : ε → Prog S ε α) :
    Prog.Ran T (p.handle f) s h (p'.handle f) s' := by
  induction hran with
  | here p s => exact .here _ _
  | step answer rest ih => exact .step answer ih

/-- A part of a run may go on by the answer to the next operation. -/
theorem Prog.Ran.snoc {o : S.Op} {next : Except ε (S.Answer o) → Prog S ε α}
    {r : Except ε (S.Answer o)} (hran : Prog.Ran T p s h (.call o next) s')
    (answer : T s' o r s'') :
    Prog.Ran T p s (h ++ [⟨o, r⟩]) (next r) s'' := by
  generalize hq : Prog.call o next = q at hran
  induction hran with
  | here p s =>
    subst hq
    exact .step answer (.here _ _)
  | step first rest ih => exact .step first (ih answer hq)

/-- A run can be cut where a first part of its events ends. -/
theorem Prog.Ran.split (hran : Prog.Ran T p s (h ++ h') q s'') :
    ∃ p' s', Prog.Ran T p s h p' s' ∧ Prog.Ran T p' s' h' q s'' := by
  generalize hg : h ++ h' = g at hran
  induction hran generalizing h with
  | here p s =>
    obtain ⟨rfl, rfl⟩ := List.append_eq_nil_iff.mp hg
    exact ⟨_, _, .here _ _, .here _ _⟩
  | step answer rest ih =>
    cases h with
    | nil =>
      rw [List.nil_append] at hg
      exact ⟨_, _, .here _ _, hg ▸ .step answer rest⟩
    | cons e h =>
      obtain ⟨rfl, htail⟩ := List.cons.inj hg
      obtain ⟨p', s', hfirst, hsecond⟩ := ih htail
      exact ⟨p', s', .step answer hfirst, hsecond⟩

/-- A run of a bind is inside its first part, or the first part returned. -/
theorem Prog.Ran.bind_cases {q : Prog S ε β} (hran : Prog.Ran T (p.bind f) s h q s'') :
    (∃ p', Prog.Ran T p s h p' s'' ∧ q = p'.bind f) ∨
      ∃ first second a s', h = first ++ second ∧ Prog.Ran T p s first (.ret a) s' ∧
        Prog.Ran T (f a) s' second q s'' := by
  induction p generalizing s h with
  | ret a => exact .inr ⟨[], h, a, s, rfl, .here _ _, hran⟩
  | raise e =>
    cases hran
    exact .inl ⟨.raise e, .here _ _, rfl⟩
  | call o next ih =>
    cases hran with
    | here => exact .inl ⟨.call o next, .here _ _, rfl⟩
    | step answer rest =>
      rcases ih _ rest with ⟨p', hp', rfl⟩ | ⟨first, second, a, s', rfl, hfirst, hsecond⟩
      · exact .inl ⟨p', .step answer hp', rfl⟩
      · exact .inr ⟨_ :: first, second, a, s', rfl, .step answer hfirst, hsecond⟩

/-- A run of a handled program is inside it, or the program raised. -/
theorem Prog.Ran.handle_cases {g : ε → Prog S ε α} (hran : Prog.Ran T (p.handle g) s h q s'') :
    (∃ p', Prog.Ran T p s h p' s'' ∧ q = p'.handle g) ∨
      ∃ first second e s', h = first ++ second ∧ Prog.Ran T p s first (.raise e) s' ∧
        Prog.Ran T (g e) s' second q s'' := by
  induction p generalizing s h with
  | ret a =>
    cases hran
    exact .inl ⟨.ret a, .here _ _, rfl⟩
  | raise e => exact .inr ⟨[], h, e, s, rfl, .here _ _, hran⟩
  | call o next ih =>
    cases hran with
    | here => exact .inl ⟨.call o next, .here _ _, rfl⟩
    | step answer rest =>
      rcases ih _ rest with ⟨p', hp', rfl⟩ | ⟨first, second, e, s', rfl, hfirst, hsecond⟩
      · exact .inl ⟨p', .step answer hp', rfl⟩
      · exact .inr ⟨_ :: first, second, e, s', rfl, .step answer hfirst, hsecond⟩

/-- A program issues only the operations it uses. -/
theorem Prog.Uses.ran {F : S.Op → Prop} (huses : p.Uses F) (hran : Prog.Ran T p s h q s') :
    q.Uses F ∧ ∀ e ∈ h, F e.op := by
  induction hran with
  | here p s => exact ⟨huses, by simp⟩
  | step answer rest ih =>
    obtain ⟨hq, hevents⟩ := ih (huses.2 _)
    refine ⟨hq, fun e he => ?_⟩
    rcases List.mem_cons.mp he with rfl | he
    · exact huses.1
    · exact hevents e he

/-- The answers determine what is left of a program. -/
theorem Prog.Ran.unique {τ : Type} {T' : Env S ε τ} {t t' : τ} {q' : Prog S ε α}
    (hq : Prog.Ran T p s h q s') (hq' : Prog.Ran T' p t h q' t') : q = q' := by
  induction hq generalizing t with
  | here p s =>
    cases hq'
    rfl
  | step answer rest ih =>
    cases hq' with
    | step answer' rest' => exact ih rest'

/-- Nothing follows an ended program. -/
theorem Prog.Played.ended (hq : p.Played h q) {o : Except ε α} (hend : p = Prog.ofExcept o) :
    h = [] ∧ q = p := by
  subst hend
  cases o <;> cases hq <;> exact ⟨rfl, rfl⟩

/-- What a program promises to return, what is left of it promises too. -/
theorem Prog.Returns.ran {Q : α → Prop} (hreturns : p.Returns Q) (hran : Prog.Ran T p s h q s') :
    q.Returns Q := by
  induction hran with
  | here p s => exact hreturns
  | step answer rest ih => exact ih (hreturns _)

/-- What is left of a thread's program is what its history left. -/
theorem Pool.played {ι : Type} [DecidableEq ι] {W : Env S ε σ} {C : Condition S ε σ ι} {s : σ}
    {call : ι → Prog S ε α} {ls : List (Label S ε ι)} {c : Pool S ε α σ ι}
    (hrun : Steps (Pool.StepIf W C) (Pool.start s call) ls c) (i : ι) :
    (call i).Played (c.threads i).history (c.threads i).prog := by
  refine hrun.stateInvariant
    (fun c => (call i).Played (c.threads i).history (c.threads i).prog) (.here _ _) ?_
  rintro a l b hplayed ⟨⟨hprog, answer⟩, -⟩
  rename_i j o next r s'
  by_cases hij : i = j
  · subst hij
    rw [hprog] at hplayed
    simpa using hplayed.snoc (r := r) trivial
  · simpa [Function.update_of_ne hij] using hplayed

end playing

section execution

/-- Run a program for at most this many steps; `choices n` are the choices in step `n`. -/
def Prog.runFor (perform : Ω → σ → (o : S.Op) → Except ε (S.Answer o) × σ) (choices : ℕ → Ω) :
    ℕ → Prog S ε α → ℕ → σ → History S ε × Prog S ε α × σ
  | steps + 1, .call o next, n, s =>
    match perform (choices n) s o with
    | (r, s') =>
      match Prog.runFor perform choices steps (next r) (n + 1) s' with
      | (h, p, s'') => (⟨o, r⟩ :: h, p, s'')
  | _, p, _, s => ([], p, s)

/-- Running for a number of steps is a part of a run. -/
theorem Prog.ran_runFor {perform : Ω → σ → (o : S.Op) → Except ε (S.Answer o) × σ}
    {choices : ℕ → Ω} {steps n : ℕ} {p p' : Prog S ε α} {s s' : σ} {h : History S ε}
    (hrun : Prog.runFor perform choices steps p n s = (h, p', s')) :
    Prog.Ran (Env.ofPerform perform) p s h p' s' := by
  induction steps generalizing p n s h with
  | zero =>
    cases p <;> cases hrun <;> exact .here _ _
  | succ steps ih =>
    cases p with
    | ret a => cases hrun; exact .here _ _
    | raise e => cases hrun; exact .here _ _
    | call o next =>
      unfold Prog.runFor at hrun
      cases hrun
      exact .step ⟨_, rfl⟩ (ih rfl)

end execution

end Effects
