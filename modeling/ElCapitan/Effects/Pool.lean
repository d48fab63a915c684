import ElCapitan.Effects.Logic
import ElCapitan.Effects.Steps
import Mathlib.Logic.Function.Basic

/-!
# Programs running beside each other

A pool runs any number of programs against one shared store. A step lets one of
them issue its next operation, which takes effect atomically. The abstract view
of a pool is a board: the store and what each thread has done, without the
programs. A thread on a board may issue any operation its rule permits after
its history. Every pool of programs that meet their rules is simulated by the
board, so facts about all interleavings can be proved there.
-/

namespace Effects

variable {S : Signature} {ε α σ ι Ω : Type}

/-- A program part way through its run, with the operations it already issued. -/
structure Thread (S : Signature) (ε α : Type) where
  /-- What is left to run. -/
  prog : Prog S ε α
  /-- What has been done. -/
  history : History S ε

/-- Threads over a shared store. -/
structure Pool (S : Signature) (ε α σ ι : Type) where
  /-- The shared store. -/
  store : σ
  /-- The threads. -/
  threads : ι → Thread S ε α

/-- One step of a run: which thread moved, and what it did. -/
structure Label (S : Signature) (ε ι : Type) where
  /-- The thread that moved. -/
  thread : ι
  /-- The operation it issued and the answer. -/
  event : Event S ε

/-- The store and the histories of a pool. -/
structure Board (S : Signature) (ε σ ι : Type) where
  /-- The shared store. -/
  store : σ
  /-- What each thread has done. -/
  histories : ι → History S ε

/-- What a thread may do after its history. -/
abbrev Rule (S : Signature) (ε ι : Type) := ι → History S ε → S.Op → Prop

/-- A condition on a step, given the board before it. -/
abbrev Condition (S : Signature) (ε σ ι : Type) := Board S ε σ ι → Label S ε ι → Prop

/-- No threads have moved yet. -/
def Pool.start (s : σ) (call : ι → Prog S ε α) : Pool S ε α σ ι := ⟨s, fun i => ⟨call i, []⟩⟩

/-- No threads have moved yet. -/
def Board.start (s : σ) : Board S ε σ ι := ⟨s, fun _ => []⟩

/-- Forget the programs. -/
def Pool.board (c : Pool S ε α σ ι) : Board S ε σ ι := ⟨c.store, fun i => (c.threads i).history⟩

/-- The rest of each thread's program still meets the thread's rule and promise. -/
def Pool.Obeys (G : Rule S ε ι) (Q : ι → Except ε α → History S ε → Prop)
    (c : Pool S ε α σ ι) : Prop :=
  ∀ i, Sat (Env.recording S ε) (G i) (c.threads i).prog (Q i) (c.threads i).history

/-- What a thread returned or raised meets its promise. -/
theorem Pool.Obeys.outcome {G : Rule S ε ι} {Q : ι → Except ε α → History S ε → Prop}
    {c : Pool S ε α σ ι} (h : c.Obeys G Q) {i : ι} {out : Except ε α}
    (hend : (c.threads i).prog = Prog.ofExcept out) : Q i out (c.threads i).history := by
  have hi := h i
  rw [hend] at hi
  cases out <;> exact hi

variable [DecidableEq ι]

/-- One thread issues its next operation. -/
inductive Pool.Step (W : Env S ε σ) :
    Pool S ε α σ ι → Label S ε ι → Pool S ε α σ ι → Prop
  | mk {c : Pool S ε α σ ι} {i : ι} {o : S.Op} {next : Except ε (S.Answer o) → Prog S ε α}
      {r : Except ε (S.Answer o)} {s' : σ} (hprog : (c.threads i).prog = .call o next)
      (answer : W c.store o r s') :
      Pool.Step W c ⟨i, o, r⟩
        ⟨s', Function.update c.threads i ⟨next r, (c.threads i).history ++ [⟨o, r⟩]⟩⟩

/-- One thread issues an operation its rule permits. -/
structure Board.Step (W : Env S ε σ) (G : Rule S ε ι) (b : Board S ε σ ι) (l : Label S ε ι)
    (b' : Board S ε σ ι) : Prop where
  /-- The operation is permitted after the history of its thread. -/
  permitted : G l.thread (b.histories l.thread) l.event.op
  /-- The environment may answer so. -/
  answered : W b.store l.event.op l.event.answer b'.store
  /-- Only the moving thread's history grows. -/
  recorded : b'.histories =
    Function.update b.histories l.thread (b.histories l.thread ++ [l.event])

/-- A pool step that meets a condition. -/
def Pool.StepIf (W : Env S ε σ) (C : Condition S ε σ ι) (c : Pool S ε α σ ι) (l : Label S ε ι)
    (c' : Pool S ε α σ ι) : Prop :=
  Pool.Step W c l c' ∧ C c.board l

/-- A board step that meets a condition. -/
def Board.StepIf (W : Env S ε σ) (G : Rule S ε ι) (C : Condition S ε σ ι) (b : Board S ε σ ι)
    (l : Label S ε ι) (b' : Board S ε σ ι) : Prop :=
  Board.Step W G b l b' ∧ C b l

/-- A step is appended to the history of its thread. -/
theorem Board.Step.history_self {W : Env S ε σ} {G : Rule S ε ι} {b b' : Board S ε σ ι}
    {l : Label S ε ι} (h : Board.Step W G b l b') :
    b'.histories l.thread = b.histories l.thread ++ [l.event] := by
  rw [h.recorded, Function.update_self]

/-- A step leaves the other histories alone. -/
theorem Board.Step.history_other {W : Env S ε σ} {G : Rule S ε ι} {b b' : Board S ε σ ι}
    {l : Label S ε ι} (h : Board.Step W G b l b') {j : ι} (hj : j ≠ l.thread) :
    b'.histories j = b.histories j := by
  rw [h.recorded, Function.update_of_ne hj]

/-- An event in a history after a step was there before, or is the step's own. -/
theorem Board.Step.mem_history {W : Env S ε σ} {G : Rule S ε ι} {b b' : Board S ε σ ι}
    {l : Label S ε ι} (h : Board.Step W G b l b') {j : ι} {e : Event S ε}
    (he : e ∈ b'.histories j) : e ∈ b.histories j ∨ (j = l.thread ∧ e = l.event) := by
  by_cases hj : j = l.thread
  · subst hj
    rw [h.history_self] at he
    rcases List.mem_append.mp he with he | he
    · exact .inl he
    · exact .inr ⟨rfl, List.mem_singleton.mp he⟩
  · rw [h.history_other hj] at he
    exact .inl he

/-- A pool whose threads obey the rule steps as the rule allows, and they go on obeying it. -/
theorem Pool.StepIf.obeys {W : Env S ε σ} {C : Condition S ε σ ι} {G : Rule S ε ι}
    {Q : ι → Except ε α → History S ε → Prop} {c c' : Pool S ε α σ ι} {l : Label S ε ι}
    (hstep : Pool.StepIf W C c l c') (hobeys : c.Obeys G Q) :
    Board.StepIf W G C c.board l c'.board ∧ c'.Obeys G Q := by
  obtain ⟨⟨hprog, answer⟩, hcond⟩ := hstep
  rename_i i o next r s'
  have hi := hobeys i
  rw [hprog] at hi
  refine ⟨⟨⟨hi.1, answer, ?_⟩, hcond⟩, fun j => ?_⟩
  · funext j
    by_cases hj : j = i
    · subst hj; simp [Pool.board]
    · simp [Pool.board, Function.update_of_ne hj]
  · by_cases hj : j = i
    · subst hj
      simpa using hi.2 r _ rfl
    · simpa [Function.update_of_ne hj] using hobeys j

/-- Simulation: a run of programs that meet their rules is a run of the board,
and what is left of each program still meets its promise. -/
theorem Pool.board_steps {W : Env S ε σ} {C : Condition S ε σ ι} {G : Rule S ε ι}
    {Q : ι → Except ε α → History S ε → Prop} {s : σ} {call : ι → Prog S ε α}
    (hcall : ∀ i, Sat (Env.recording S ε) (G i) (call i) (Q i) [])
    {ls : List (Label S ε ι)} {c : Pool S ε α σ ι}
    (hrun : Steps (Pool.StepIf W C) (Pool.start s call) ls c) :
    Steps (Board.StepIf W G C) (Board.start s) ls c.board ∧ c.Obeys G Q := by
  refine hrun.invariant (fun ls c => Steps (Board.StepIf W G C) (Board.start s) ls c.board ∧
    c.Obeys G Q) ⟨.nil _, hcall⟩ ?_
  rintro ls a l b - ⟨hboard, hobeys⟩ hstep
  obtain ⟨hnext, hobeys'⟩ := hstep.obeys hobeys
  exact ⟨hboard.snoc hnext, hobeys'⟩

/-- What each event of a history had before it. -/
def Traced (P : History S ε → Event S ε → Prop) (h : History S ε) : Prop :=
  ∀ before e after, h = before ++ e :: after → P before e

/-- The empty history is traced. -/
theorem Traced.nil {P : History S ε → Event S ε → Prop} : Traced P [] := by
  intro before e after heq
  simp at heq

/-- A traced history is traced with one more step that may follow it. -/
theorem Traced.snoc {P : History S ε → Event S ε → Prop} {h : History S ε} {e : Event S ε}
    (hh : Traced P h) (he : P h e) : Traced P (h ++ [e]) := by
  intro before e' after heq
  rcases List.eq_nil_or_concat after with rfl | ⟨after', last, rfl⟩
  · obtain ⟨rfl, heq'⟩ := List.append_inj' heq rfl
    cases heq'
    exact he
  · rw [List.concat_eq_append, ← List.cons_append, ← List.append_assoc] at heq
    obtain ⟨rfl, -⟩ := List.append_inj' heq rfl
    exact hh before e' after' rfl

/-- What every step has before it in its thread's history, every event of a history had. -/
theorem Board.traced {W : Env S ε σ} {G : Rule S ε ι} {C : Condition S ε σ ι}
    {P : ι → History S ε → Event S ε → Prop}
    (hstep : ∀ b l, G l.thread (b.histories l.thread) l.event.op → C b l →
      P l.thread (b.histories l.thread) l.event)
    {s : σ} {ls : List (Label S ε ι)} {b : Board S ε σ ι}
    (hrun : Steps (Board.StepIf W G C) (Board.start s) ls b) (i : ι) :
    Traced (P i) (b.histories i) := by
  refine hrun.stateInvariant (fun b => ∀ i, Traced (P i) (b.histories i))
    (fun _ => Traced.nil) ?_ i
  rintro a l b hinv ⟨hmove, hcond⟩ j
  by_cases hj : j = l.thread
  · subst hj
    rw [hmove.history_self]
    exact (hinv _).snoc (hstep a l hmove.permitted hcond)
  · rw [hmove.history_other hj]
    exact hinv j

/-- Where a thread does `D` at most once, and only after it did `A`, the threads together do `D`
at most as often as `A`. -/
theorem Board.countP_le {W : Env S ε σ} {G : Rule S ε ι} {C : Condition S ε σ ι}
    {A D : Event S ε → Bool}
    (hpaired : ∀ i h o r, G i h o → D ⟨o, r⟩ = true →
      (∃ e ∈ h, A e = true) ∧ ∀ e ∈ h, D e = false)
    {s : σ} {ls : List (Label S ε ι)} {b : Board S ε σ ι}
    (hrun : Steps (Board.StepIf W G C) (Board.start s) ls b) :
    ls.countP (fun l => D l.event) ≤ ls.countP (fun l => A l.event) := by
  -- `waiting` has the threads that did `A` and not yet `D`
  have hwaiting : ∃ waiting : List ι,
      (∀ i, (∃ e ∈ b.histories i, A e = true) → (∀ e ∈ b.histories i, D e = false) →
        i ∈ waiting) ∧
      ls.countP (fun l => D l.event) + waiting.length ≤ ls.countP fun l => A l.event := by
    refine hrun.invariant (fun ls b => ∃ waiting : List ι,
      (∀ i, (∃ e ∈ b.histories i, A e = true) → (∀ e ∈ b.histories i, D e = false) →
        i ∈ waiting) ∧
      ls.countP (fun l => D l.event) + waiting.length ≤ ls.countP fun l => A l.event)
      ⟨[], by simp [Board.start], by simp⟩ ?_
    rintro ls b l b' - ⟨waiting, hmem, hle⟩ ⟨hmove, -⟩
    have hother : ∀ i, i ≠ l.thread → (∃ e ∈ b'.histories i, A e = true) →
        (∀ e ∈ b'.histories i, D e = false) → i ∈ waiting := by
      intro i hi hA hD
      rw [hmove.history_other hi] at hA hD
      exact hmem i hA hD
    rw [List.countP_append, List.countP_append, List.countP_singleton, List.countP_singleton]
    cases hD : D l.event with
    | true =>
      obtain ⟨hA, hnone⟩ := hpaired _ _ _ _ hmove.permitted hD
      have hin := hmem _ hA hnone
      have hlength := List.length_erase_of_mem hin
      have hpos := List.length_pos_of_mem hin
      refine ⟨waiting.erase l.thread, fun i hA' hD' => ?_, ?_⟩
      · have hi : i ≠ l.thread := by
          rintro rfl
          have hlast := hD' l.event (by rw [hmove.history_self]; simp)
          simp [hD] at hlast
        exact (List.mem_erase_of_ne hi).mpr (hother i hi hA' hD')
      · simp only [if_true]
        omega
    | false =>
      cases hA : A l.event with
      | true =>
        refine ⟨l.thread :: waiting, fun i hA' hD' => ?_, ?_⟩
        · by_cases hi : i = l.thread
          · exact hi ▸ List.mem_cons_self
          · exact List.mem_cons_of_mem _ (hother i hi hA' hD')
        · simp only [if_true, Bool.false_eq_true, if_false, List.length_cons]
          omega
      | false =>
        refine ⟨waiting, fun i hA' hD' => ?_, by simpa using hle⟩
        by_cases hi : i = l.thread
        · subst hi
          rw [hmove.history_self] at hA' hD'
          obtain ⟨e, he, hAe⟩ := hA'
          rcases List.mem_append.mp he with he | he
          · exact hmem _ ⟨e, he, hAe⟩ fun e' he' => hD' e' (List.mem_append_left _ he')
          · obtain rfl := List.mem_singleton.mp he
            rw [hA] at hAe
            cases hAe
        · exact hother i hi hA' hD'
  obtain ⟨waiting, -, hle⟩ := hwaiting
  omega

section execution

/-- Let one thread move, with the environment's choices `ω`. -/
def Pool.move (perform : Ω → σ → (o : S.Op) → Except ε (S.Answer o) × σ)
    (check : Board S ε σ ι → Label S ε ι → Bool) (c : Pool S ε α σ ι) (i : ι) (ω : Ω) :
    Option (Label S ε ι × Pool S ε α σ ι) :=
  match (c.threads i).prog with
  | .call o next =>
    match perform ω c.store o with
    | (r, s') =>
      if check c.board ⟨i, o, r⟩ then
        some (⟨i, o, r⟩,
          ⟨s', Function.update c.threads i ⟨next r, (c.threads i).history ++ [⟨o, r⟩]⟩⟩)
      else none
  | _ => none

/-- Follow a schedule; `choices n` are the environment's choices in step `n`. -/
def Pool.exec (perform : Ω → σ → (o : S.Op) → Except ε (S.Answer o) × σ)
    (check : Board S ε σ ι → Label S ε ι → Bool) (choices : ℕ → Ω) :
    List ι → ℕ → Pool S ε α σ ι → Option (List (Label S ε ι) × Pool S ε α σ ι)
  | [], _, c => some ([], c)
  | i :: schedule, n, c =>
    match c.move perform check i (choices n) with
    | some (l, c') =>
      (Pool.exec perform check choices schedule (n + 1) c').map fun (ls, last) => (l :: ls, last)
    | none => none

/-- The environment of an executable store. -/
def Env.ofPerform (perform : Ω → σ → (o : S.Op) → Except ε (S.Answer o) × σ) : Env S ε σ :=
  fun s o r s' => ∃ ω, perform ω s o = (r, s')

/-- A computed move is a step of the pool. -/
theorem Pool.move_step {perform : Ω → σ → (o : S.Op) → Except ε (S.Answer o) × σ}
    {check : Board S ε σ ι → Label S ε ι → Bool} {c c' : Pool S ε α σ ι} {i : ι} {ω : Ω}
    {l : Label S ε ι} (h : c.move perform check i ω = some (l, c')) :
    Pool.StepIf (Env.ofPerform perform) (fun b l => check b l = true) c l c' := by
  unfold Pool.move at h
  split at h
  · rename_i o next hprog
    split at h
    · rename_i r s' hperform
      split at h
      · rename_i hcheck
        cases h
        exact ⟨.mk hprog ⟨ω, hperform⟩, hcheck⟩
      · cases h
  · cases h

/-- A schedule that can be followed is a run. -/
theorem Pool.exec_steps {perform : Ω → σ → (o : S.Op) → Except ε (S.Answer o) × σ}
    {check : Board S ε σ ι → Label S ε ι → Bool} {choices : ℕ → Ω} {schedule : List ι} {n : ℕ}
    {c c' : Pool S ε α σ ι} {ls : List (Label S ε ι)}
    (h : Pool.exec perform check choices schedule n c = some (ls, c')) :
    Steps (Pool.StepIf (Env.ofPerform perform) (fun b l => check b l = true)) c ls c' := by
  induction schedule generalizing n c ls with
  | nil =>
    cases h
    exact .nil _
  | cons i schedule ih =>
    unfold Pool.exec at h
    split at h
    · rename_i l c₁ hmove
      rw [Option.map_eq_some_iff] at h
      obtain ⟨⟨rest, last⟩, hrest, heq⟩ := h
      cases heq
      exact .cons (Pool.move_step hmove) (ih hrest)
    · cases h

end execution

end Effects
