import ElCapitan.Effects.Program
import Mathlib.Data.Nat.Notation

/-!
# A program logic for programs that issue operations

An environment is a relation that says which answers an operation may get in a
state and which states may follow. `Sat` is the weakest precondition of a
program in such an environment; it also asks that every operation issued is
permitted where it is issued. The rules below follow the structure of a program.
-/

namespace Effects

variable {S : Signature} {ε α β σ : Type}

/-- An environment: from a state, an operation may get this answer and leave
that state. -/
abbrev Env (S : Signature) (ε σ : Type) :=
  σ → (o : S.Op) → Except ε (S.Answer o) → σ → Prop

/-- The environment that answers anything while a monitor watches the events. -/
def Env.watching (watch : σ → Event S ε → σ) : Env S ε σ := fun s o r s' => s' = watch s ⟨o, r⟩

/-- An environment beside which a monitor watches the events. -/
def Env.observed {ω : Type} (W : Env S ε σ) (watch : ω → Event S ε → ω) : Env S ε (σ × ω) :=
  fun s o r s' => W s.1 o r s'.1 ∧ s'.2 = watch s.2 ⟨o, r⟩

/-- An environment with the record of what happened in it. -/
abbrev Env.recorded (W : Env S ε σ) : Env S ε (σ × History S ε) :=
  Env.observed W fun h e => h ++ [e]

/-- The environment that answers anything and only records what happened. -/
abbrev Env.recording (S : Signature) (ε : Type) : Env S ε (History S ε) :=
  Env.watching fun h e => h ++ [e]

/-- Every operation `p` issues in the environment `T` is permitted by `G`, and
every way it can end satisfies `Q`. -/
def Sat (T : Env S ε σ) (G : σ → S.Op → Prop) :
    Prog S ε α → (Except ε α → σ → Prop) → σ → Prop
  | .ret a, Q, s => Q (.ok a) s
  | .raise e, Q, s => Q (.error e) s
  | .call o next, Q, s => G s o ∧ ∀ r s', T s o r s' → Sat T G (next r) Q s'

/-- The ways a program can run to its end in an environment. -/
inductive Runs (T : Env S ε σ) : Prog S ε α → σ → Except ε α → σ → Prop
  | ret (a : α) (s : σ) : Runs T (.ret a) s (.ok a) s
  | raise (e : ε) (s : σ) : Runs T (.raise e) s (.error e) s
  | call {o : S.Op} {next : Except ε (S.Answer o) → Prog S ε α} {s s' s'' : σ}
      {r : Except ε (S.Answer o)} {out : Except ε α} (answer : T s o r s')
      (rest : Runs T (next r) s' out s'') : Runs T (.call o next) s out s''

section rules

variable {T : Env S ε σ} {G : σ → S.Op → Prop} {s : σ}

/-- A program that returns satisfies what holds of its value. -/
@[simp] theorem sat_ret {a : α} {Q : Except ε α → σ → Prop} :
    Sat T G (.ret a) Q s ↔ Q (.ok a) s := Iff.rfl

/-- A program that raises satisfies what holds of its error. -/
@[simp] theorem sat_raise {e : ε} {Q : Except ε α → σ → Prop} :
    Sat T G (.raise e) Q s ↔ Q (.error e) s := Iff.rfl

/-- Consequence: a postcondition may be weakened. -/
theorem Sat.mono {p : Prog S ε α} {Q Q' : Except ε α → σ → Prop} (h : Sat T G p Q s)
    (himp : ∀ r s', Q r s' → Q' r s') : Sat T G p Q' s := by
  induction p generalizing s with
  | ret a => exact himp _ _ h
  | raise e => exact himp _ _ h
  | call o next ih => exact ⟨h.1, fun r s' hr => ih r (h.2 r s' hr)⟩

/-- Sequencing: the second program starts where the first one returned. -/
theorem sat_bind {p : Prog S ε α} {f : α → Prog S ε β} {Q : Except ε β → σ → Prop} :
    Sat T G (p.bind f) Q s ↔
      Sat T G p (fun r s' => match r with
        | .ok a => Sat T G (f a) Q s'
        | .error e => Q (.error e) s') s := by
  induction p generalizing s with
  | ret a => exact Iff.rfl
  | raise e => exact Iff.rfl
  | call o next ih => simp only [Prog.bind, Sat, ih]

/-- A handler runs where the handled program raised. -/
theorem sat_handle {p : Prog S ε α} {f : ε → Prog S ε α} {Q : Except ε α → σ → Prop} :
    Sat T G (p.handle f) Q s ↔
      Sat T G p (fun r s' => match r with
        | .ok a => Q (.ok a) s'
        | .error e => Sat T G (f e) Q s') s := by
  induction p generalizing s with
  | ret a => exact Iff.rfl
  | raise e => exact Iff.rfl
  | call o next ih => simp only [Prog.handle, Sat, ih]

/-- One operation is permitted and each of its answers meets the postcondition. -/
theorem sat_perform {o : S.Op} {Q : Except ε (S.Answer o) → σ → Prop} :
    Sat T G (Prog.perform o) Q s ↔ G s o ∧ ∀ r s', T s o r s' → Q r s' := by
  simp only [Prog.perform, Sat]
  refine and_congr_right fun _ => forall_congr' fun r => ?_
  cases r <;> exact Iff.rfl

/-- One operation, and what follows its value. -/
theorem sat_bind_perform_iff {o : S.Op} {f : S.Answer o → Prog S ε β}
    {Q : Except ε β → σ → Prop} :
    Sat T G (@Prog.bind S ε (no_index (S.Answer o)) β (Prog.perform o) f) Q s ↔
      G s o ∧ (∀ a s', T s o (.ok a) s' → Sat T G (f a) Q s') ∧
        ∀ e s', T s o (.error e) s' → Q (.error e) s' := by
  rw [Prog.perform, Prog.bind, Sat]
  refine and_congr_right fun _ => ⟨fun hall => ⟨fun a => hall (.ok a), fun e => hall (.error e)⟩,
    fun hall r => ?_⟩
  cases r with
  | ok a => exact hall.1 a
  | error e => exact hall.2 e

/-- One operation whose exception is handled. -/
theorem sat_bind_handle_perform_iff {o : S.Op} {f : ε → Prog S ε (S.Answer o)}
    {g : S.Answer o → Prog S ε β} {Q : Except ε β → σ → Prop} :
    Sat T G (@Prog.bind S ε (no_index (S.Answer o)) β (Prog.handle (Prog.perform o) f) g) Q s ↔
      G s o ∧ (∀ a s', T s o (.ok a) s' → Sat T G (g a) Q s') ∧
        ∀ e s', T s o (.error e) s' → Sat T G ((f e).bind g) Q s' := by
  rw [Prog.perform, Prog.handle, Prog.bind, Sat]
  refine and_congr_right fun _ => ⟨fun hall => ⟨fun a => hall (.ok a), fun e => hall (.error e)⟩,
    fun hall r => ?_⟩
  cases r with
  | ok a => exact hall.1 a
  | error e => exact hall.2 e

/-- One operation whose answer is looked at. -/
theorem sat_bind_ask {o : S.Op} {f : Except ε (S.Answer o) → Prog S ε β}
    {Q : Except ε β → σ → Prop} :
    Sat T G ((Prog.ask o).bind f) Q s ↔ G s o ∧ ∀ r s', T s o r s' → Sat T G (f r) Q s' := Iff.rfl

/-- A result without effects satisfies what holds of it. -/
theorem sat_ofExcept {x : Except ε α} {Q : Except ε α → σ → Prop} :
    Sat T G (Prog.ofExcept x) Q s ↔ Q x s := by
  cases x <;> exact Iff.rfl

/-- A check raises where its condition holds. -/
theorem sat_raiseIf {c : Prop} [Decidable c] {e : ε} {Q : Except ε Unit → σ → Prop} :
    Sat T G (Prog.raiseIf c e) Q s ↔ (c → Q (.error e) s) ∧ (¬c → Q (.ok ()) s) := by
  by_cases hc : c <;> simp [Prog.raiseIf, hc]

/-- A conditional satisfies what the branch that is taken does. -/
theorem sat_ite {c : Prop} [Decidable c] {p q : Prog S ε α} {Q : Except ε α → σ → Prop} :
    Sat T G (if c then p else q) Q s ↔ (c → Sat T G p Q s) ∧ (¬c → Sat T G q Q s) := by
  by_cases hc : c <;> simp [hc]

/-- A rule may be weakened, too. -/
theorem Sat.weaken {G' : σ → S.Op → Prop} {p : Prog S ε α} {Q : Except ε α → σ → Prop}
    (h : Sat T G p Q s) (himp : ∀ s o, G s o → G' s o) : Sat T G' p Q s := by
  induction p generalizing s with
  | ret a => exact h
  | raise e => exact h
  | call o next ih => exact ⟨himp _ _ h.1, fun r s' hr => ih r (h.2 r s' hr)⟩

/-- After a result without effects the program goes on with its value, or its error is raised. -/
theorem sat_bind_ofExcept {x : Except ε α} {f : α → Prog S ε β} {Q : Except ε β → σ → Prop} :
    Sat T G ((Prog.ofExcept x).bind f) Q s ↔
      (∀ a, x = .ok a → Sat T G (f a) Q s) ∧ ∀ e, x = .error e → Q (.error e) s := by
  cases x <;> simp [Prog.ofExcept]

/-- After a check the program goes on where its condition fails, and raises where it holds. -/
theorem sat_bind_raiseIf {c : Prop} [Decidable c] {e : ε} {f : Unit → Prog S ε β}
    {Q : Except ε β → σ → Prop} :
    Sat T G ((Prog.raiseIf c e).bind f) Q s ↔
      (¬c → Sat T G (f ()) Q s) ∧ (c → Q (.error e) s) := by
  by_cases hc : c <;> simp [Prog.raiseIf, hc]

/-- Adequacy: what `Sat` promises holds at the end of every run. -/
theorem Sat.runs {p : Prog S ε α} {Q : Except ε α → σ → Prop} (h : Sat T G p Q s)
    {out : Except ε α} {s' : σ} (hrun : Runs T p s out s') : Q out s' := by
  induction hrun with
  | ret a s => exact h
  | raise e s => exact h
  | call answer _ ih => exact ih (h.2 _ _ answer)

/-- A run of two programs in a row is a run of the first, and of the second if it returns. -/
theorem Runs.of_bind {p : Prog S ε α} {f : α → Prog S ε β} {s s' : σ} {out : Except ε β}
    (h : Runs T (p.bind f) s out s') :
    (∃ a middle, Runs T p s (.ok a) middle ∧ Runs T (f a) middle out s') ∨
      ∃ e, Runs T p s (.error e) s' ∧ out = .error e := by
  induction p generalizing s with
  | ret a => exact .inl ⟨a, s, .ret a s, h⟩
  | raise e =>
    cases h
    exact .inr ⟨e, .raise e _, rfl⟩
  | call o next ih =>
    cases h with
    | call answer rest =>
      obtain ⟨a, middle, hfirst, hsecond⟩ | ⟨e, hfirst, hout⟩ := ih _ rest
      · exact .inl ⟨a, middle, .call answer hfirst, hsecond⟩
      · exact .inr ⟨e, .call answer hfirst, hout⟩

/-- What every step of the environment keeps, every run keeps. -/
theorem Runs.invariant {I : σ → Prop} (hstep : ∀ {s o r s'}, T s o r s' → I s → I s')
    {p : Prog S ε α} {s s' : σ} {out : Except ε α} (hrun : Runs T p s out s') (hs : I s) :
    I s' := by
  induction hrun with
  | ret a s => exact hs
  | raise e s => exact hs
  | call answer rest ih => exact ih (hstep answer hs)

/-- Where every operation gets some answer, every program has a run. -/
theorem Runs.exists_of_total (htotal : ∀ s o, ∃ r s', T s o r s') (p : Prog S ε α) (s : σ) :
    ∃ out s', Runs T p s out s' := by
  induction p generalizing s with
  | ret a => exact ⟨_, _, .ret a s⟩
  | raise e => exact ⟨_, _, .raise e s⟩
  | call o next ih =>
    obtain ⟨r, s', hr⟩ := htotal s o
    obtain ⟨out, s'', hrest⟩ := ih r s'
    exact ⟨out, s'', .call hr hrest⟩

end rules

section watching

variable {watch : σ → Event S ε → σ} {G : σ → S.Op → Prop} {s : σ}

/-- A call that is watched must be permitted, and each answer to it is watched. -/
theorem sat_call_watching {o : S.Op} {next : Except ε (S.Answer o) → Prog S ε α}
    {Q : Except ε α → σ → Prop} :
    Sat (Env.watching watch) G (.call o next) Q s ↔
      G s o ∧ ∀ r, Sat (Env.watching watch) G (next r) Q (watch s ⟨o, r⟩) := by
  simp [Sat, Env.watching]

/-- An operation that answers anything: it is permitted, and whether it returns or
raises, what follows is met after it. The answer type is not indexed, so that the
rule applies where it is given in another form. -/
theorem sat_bind_perform {o : S.Op} {f : S.Answer o → Prog S ε β} {Q : Except ε β → σ → Prop} :
    Sat (Env.watching watch) G (@Prog.bind S ε (no_index (S.Answer o)) β (Prog.perform o) f) Q s ↔
      G s o ∧ (∀ a, Sat (Env.watching watch) G (f a) Q (watch s ⟨o, .ok a⟩)) ∧
        ∀ e, Q (.error e) (watch s ⟨o, .error e⟩) := by
  rw [sat_bind_perform_iff]
  simp [Env.watching]

/-- A single operation that is watched must be permitted, and each answer to it is watched. -/
theorem sat_perform_watching {o : S.Op} {Q : Except ε (S.Answer o) → σ → Prop} :
    @Sat S ε (no_index (S.Answer o)) σ (Env.watching watch) G (Prog.perform o) Q s ↔
      G s o ∧ (∀ a, Q (.ok a) (watch s ⟨o, .ok a⟩)) ∧
        ∀ e, Q (.error e) (watch s ⟨o, .error e⟩) := by
  rw [Prog.perform, sat_call_watching]
  refine and_congr_right fun _ => ⟨fun hall => ⟨fun a => hall (.ok a), fun e => hall (.error e)⟩,
    fun hall r => ?_⟩
  cases r with
  | ok a => exact hall.1 a
  | error e => exact hall.2 e

/-- An operation whose exception is handled. -/
theorem sat_bind_handle_perform {o : S.Op} {f : ε → Prog S ε (S.Answer o)}
    {g : S.Answer o → Prog S ε β} {Q : Except ε β → σ → Prop} :
    Sat (Env.watching watch) G
        (@Prog.bind S ε (no_index (S.Answer o)) β (Prog.handle (Prog.perform o) f) g) Q s ↔
      G s o ∧ (∀ a, Sat (Env.watching watch) G (g a) Q (watch s ⟨o, .ok a⟩)) ∧
        ∀ e, Sat (Env.watching watch) G ((f e).bind g) Q (watch s ⟨o, .error e⟩) := by
  rw [sat_bind_handle_perform_iff]
  simp [Env.watching]

/-- A verdict that survives every event survives every program. -/
theorem sat_of_closed (P : σ → Prop) (hclosed : ∀ s e, P s → P (watch s e)) {p : Prog S ε α}
    (hstart : P s) : Sat (Env.watching watch) (fun _ _ => True) p (fun _ s' => P s') s := by
  induction p generalizing s with
  | ret a => exact hstart
  | raise e => exact hstart
  | call o next ih =>
    rw [sat_call_watching]
    exact ⟨trivial, fun r => ih r (hclosed _ _ hstart)⟩

/-- A rule on what a monitor saw is a rule on the record of a run. -/
theorem Sat.recorded {p : Prog S ε α} {Q : Except ε α → σ → Prop} {h : History S ε}
    (hsat : Sat (Env.watching watch) G p Q (h.foldl watch s)) :
    Sat (Env.recording S ε) (fun h o => G (h.foldl watch s) o) p
      (fun r h' => Q r (h'.foldl watch s)) h := by
  induction p generalizing h with
  | ret a => exact hsat
  | raise e => exact hsat
  | call o next ih =>
    rw [sat_call_watching] at hsat ⊢
    refine ⟨hsat.1, fun r => ih r ?_⟩
    rw [List.foldl_append]
    exact hsat.2 r

/-- A run only adds to the record. -/
theorem Runs.extends {p : Prog S ε α} {h h' : History S ε} {out : Except ε α}
    (hrun : Runs (Env.recording S ε) p h out h') : h <+: h' := by
  induction hrun with
  | ret a h => exact List.prefix_rfl
  | raise e h => exact List.prefix_rfl
  | @call o next h s' _ r _ answer _ ih =>
    obtain rfl : s' = h ++ [(⟨o, r⟩ : Event S ε)] := answer
    exact (List.prefix_append _ _).trans ih

/-- Every operation on the record of a run was permitted where it was issued. -/
theorem Sat.permits {G : History S ε → S.Op → Prop} {p : Prog S ε α}
    {Q : Except ε α → History S ε → Prop} {h h' earlier later : History S ε} {e : Event S ε}
    {out : Except ε α} (hsat : Sat (Env.recording S ε) G p Q h)
    (hrun : Runs (Env.recording S ε) p h out h') (hrecord : h' = earlier ++ e :: later)
    (hstart : h.length ≤ earlier.length) : G earlier e.op := by
  induction hrun with
  | ret a h =>
    have hlength := congrArg List.length hrecord
    simp only [List.length_append, List.length_cons] at hlength
    omega
  | raise e h =>
    have hlength := congrArg List.length hrecord
    simp only [List.length_append, List.length_cons] at hlength
    omega
  | @call o next h s' _ r _ answer hrest ih =>
    obtain rfl : s' = h ++ [(⟨o, r⟩ : Event S ε)] := answer
    by_cases hlater : h.length + 1 ≤ earlier.length
    · exact ih (hsat.2 _ _ rfl) hrecord (by simpa using hlater)
    · obtain ⟨rest, hrest⟩ := hrest.extends
      rw [List.append_assoc, hrecord] at hrest
      obtain ⟨rfl, hevent⟩ := List.append_inj hrest (by omega)
      rw [← (List.cons.inj hevent).1]
      exact hsat.1

/-- A monitor reaches its verdict from the record of a run. -/
theorem Sat.watched {p : Prog S ε α} {Q : Except ε α → σ → Prop} {h h' : History S ε}
    {out : Except ε α} (hsat : Sat (Env.watching watch) G p Q (h.foldl watch s))
    (hrun : Runs (Env.recording S ε) p h out h') : Q out (h'.foldl watch s) := by
  induction hrun with
  | ret a h => exact hsat
  | raise e h => exact hsat
  | call answer _ ih =>
    cases answer
    refine ih ?_
    rw [List.foldl_append]
    exact (sat_call_watching.mp hsat).2 _

section observed

variable {ω : Type} {W : Env S ε σ} {watch : ω → Event S ε → ω} {G : σ × ω → S.Op → Prop} {w : ω}

/-- One operation in a watched environment. -/
theorem sat_bind_perform_observed {o : S.Op} {f : S.Answer o → Prog S ε β}
    {Q : Except ε β → σ × ω → Prop} :
    Sat (Env.observed W watch) G
        (@Prog.bind S ε (no_index (S.Answer o)) β (Prog.perform o) f) Q (s, w) ↔
      G (s, w) o ∧
        (∀ a s', W s o (.ok a) s' →
          Sat (Env.observed W watch) G (f a) Q (s', watch w ⟨o, .ok a⟩)) ∧
        ∀ e s', W s o (.error e) s' → Q (.error e) (s', watch w ⟨o, .error e⟩) := by
  rw [sat_bind_perform_iff]
  simp [Env.observed]

/-- One operation in a watched environment, whose exception is handled. -/
theorem sat_bind_handle_perform_observed {o : S.Op} {f : ε → Prog S ε (S.Answer o)}
    {g : S.Answer o → Prog S ε β} {Q : Except ε β → σ × ω → Prop} :
    Sat (Env.observed W watch) G
        (@Prog.bind S ε (no_index (S.Answer o)) β (Prog.handle (Prog.perform o) f) g) Q (s, w) ↔
      G (s, w) o ∧
        (∀ a s', W s o (.ok a) s' →
          Sat (Env.observed W watch) G (g a) Q (s', watch w ⟨o, .ok a⟩)) ∧
        ∀ e s', W s o (.error e) s' →
          Sat (Env.observed W watch) G ((f e).bind g) Q (s', watch w ⟨o, .error e⟩) := by
  rw [sat_bind_handle_perform_iff]
  simp [Env.observed]

end observed

/-- The same beside an environment that restricts the answers. -/
theorem Sat.observed {ω : Type} {W : Env S ε σ} {watch : ω → Event S ε → ω}
    {G : σ × ω → S.Op → Prop} {p : Prog S ε α} {Q : Except ε α → σ × ω → Prop} {w : ω}
    {s s' : σ × History S ε} {out : Except ε α}
    (hsat : Sat (Env.observed W watch) G p Q (s.1, s.2.foldl watch w))
    (hrun : Runs (Env.recorded W) p s out s') : Q out (s'.1, s'.2.foldl watch w) := by
  induction hrun with
  | ret a s => exact hsat
  | raise e s => exact hsat
  | call answer _ ih =>
    obtain ⟨hanswer, hrecord⟩ := answer
    refine ih ?_
    rw [hrecord, List.foldl_append]
    exact hsat.2 _ (_, _) ⟨hanswer, rfl⟩

end watching

section footprint

/-- Every operation a program may issue is one of `F`. -/
def Prog.Uses (F : S.Op → Prop) : Prog S ε α → Prop
  | .ret _ => True
  | .raise _ => True
  | .call o next => F o ∧ ∀ r, (next r).Uses F

variable {F : S.Op → Prop} {watch : σ → Event S ε → σ} {G : σ → S.Op → Prop} {s : σ}

/-- Returning uses no operation. -/
@[simp] theorem Prog.uses_ret {a : α} : (Prog.ret a : Prog S ε α).Uses F := trivial

/-- Raising uses no operation. -/
@[simp] theorem Prog.uses_raise {e : ε} : (Prog.raise e : Prog S ε α).Uses F := trivial

/-- A result without effects uses no operation. -/
theorem Prog.uses_ofExcept {x : Except ε α} : (Prog.ofExcept x : Prog S ε α).Uses F := by
  cases x <;> trivial

/-- A check uses no operation. -/
theorem Prog.uses_raiseIf {c : Prop} [Decidable c] {e : ε} :
    (Prog.raiseIf c e : Prog S ε Unit).Uses F := by
  by_cases hc : c <;> simp [Prog.raiseIf, hc]

/-- A single operation uses itself. -/
theorem Prog.uses_perform {o : S.Op} (ho : F o) :
    (Prog.perform o : Prog S ε (S.Answer o)).Uses F :=
  ⟨ho, fun _ => Prog.uses_ofExcept⟩

/-- A single operation, whose error is a value, uses itself. -/
theorem Prog.uses_ask {o : S.Op} (ho : F o) :
    (Prog.ask o : Prog S ε (Except ε (S.Answer o))).Uses F :=
  ⟨ho, fun _ => trivial⟩

/-- A sequence uses what its parts use. -/
theorem Prog.Uses.bind {p : Prog S ε α} {f : α → Prog S ε β} (hp : p.Uses F)
    (hf : ∀ a, (f a).Uses F) : (p.bind f).Uses F := by
  induction p with
  | ret a => exact hf a
  | raise e => trivial
  | call o next ih => exact ⟨hp.1, fun r => ih r (hp.2 r)⟩

/-- After a result without effects the rest uses what it uses at the value. -/
theorem Prog.uses_bind_ofExcept {x : Except ε α} {f : α → Prog S ε β}
    (hf : ∀ a, x = .ok a → (f a).Uses F) : ((Prog.ofExcept x).bind f).Uses F := by
  cases x with
  | error e => trivial
  | ok a => exact hf a rfl

/-- A handler uses what the program and the handling use. -/
theorem Prog.Uses.handle {p : Prog S ε α} {f : ε → Prog S ε α} (hp : p.Uses F)
    (hf : ∀ e, (f e).Uses F) : (p.handle f).Uses F := by
  induction p with
  | ret a => trivial
  | raise e => exact hf e
  | call o next ih => exact ⟨hp.1, fun r => ih r (hp.2 r)⟩

/-- A program whose operations a monitor ignores leaves the monitor as it was. -/
theorem Prog.Uses.sat {p : Prog S ε α} (hp : p.Uses F)
    (hquiet : ∀ s o r, F o → watch s ⟨o, r⟩ = s) (hG : ∀ o, F o → G s o) :
    Sat (Env.watching watch) G p (fun _ s' => s' = s) s := by
  induction p with
  | ret a => rfl
  | raise e => rfl
  | call o next ih =>
    rw [sat_call_watching]
    refine ⟨hG o hp.1, fun r => ?_⟩
    rw [hquiet s o r hp.1]
    exact ih r (hp.2 r)

/-- A program of permitted operations only adds such operations to the record. -/
theorem Prog.Uses.sat_recording {p : Prog S ε α} {G : History S ε → S.Op → Prop}
    {h : History S ε} (hp : p.Uses F) (hG : ∀ h o, F o → G h o) :
    Sat (Env.recording S ε) G p (fun _ h' => ∃ t, h' = h ++ t ∧ ∀ e ∈ t, F e.op) h := by
  induction p generalizing h with
  | ret a => exact ⟨[], by simp⟩
  | raise e => exact ⟨[], by simp⟩
  | call o next ih =>
    rw [sat_call_watching]
    refine ⟨hG h o hp.1, fun r => (ih r (hp.2 r)).mono ?_⟩
    rintro - h' ⟨t, rfl, ht⟩
    refine ⟨⟨o, r⟩ :: t, by simp, ?_⟩
    intro e he
    rcases List.mem_cons.mp he with rfl | he
    · exact hp.1
    · exact ht e he

/-- What follows a program whose operations a monitor ignores. -/
theorem Prog.Uses.sat_bind {p : Prog S ε α} {f : α → Prog S ε β} {Q : Except ε β → σ → Prop}
    (hp : p.Uses F) (hquiet : ∀ s o r, F o → watch s ⟨o, r⟩ = s) (hG : ∀ o, F o → G s o)
    (hnext : ∀ a, Sat (Env.watching watch) G (f a) Q s) (hraise : ∀ e, Q (.error e) s) :
    Sat (Env.watching watch) G (p.bind f) Q s := by
  refine Effects.sat_bind.mpr ((hp.sat hquiet hG).mono ?_)
  rintro (e | a) s' rfl
  · exact hraise e
  · exact hnext a

end footprint

/-- What a program returns, if it returns. -/
def Prog.Returns (Q : α → Prop) : Prog S ε α → Prop
  | .ret a => Q a
  | .raise _ => True
  | .call _ next => ∀ r, (next r).Returns Q

/-- A sequence returns what its second part returns at the values of the first. -/
theorem Prog.Returns.bind {R : α → Prop} {Q : β → Prop} {p : Prog S ε α} {f : α → Prog S ε β}
    (hp : p.Returns R) (hf : ∀ a, R a → (f a).Returns Q) : (p.bind f).Returns Q := by
  induction p with
  | ret a => exact hf a hp
  | raise e => trivial
  | call o next ih => exact fun r => ih r (hp r)

/-- What is returned has every weaker property. -/
theorem Prog.Returns.mono {Q R : α → Prop} {p : Prog S ε α} (hp : p.Returns Q)
    (h : ∀ a, Q a → R a) : p.Returns R := by
  induction p with
  | ret a => exact h a hp
  | raise e => trivial
  | call o next ih => exact fun r => ih r (hp r)

/-- A handler returns what the program or the handling returns. -/
theorem Prog.Returns.handle {Q : α → Prop} {p : Prog S ε α} {f : ε → Prog S ε α}
    (hp : p.Returns Q) (hf : ∀ e, (f e).Returns Q) : (p.handle f).Returns Q := by
  induction p with
  | ret a => exact hp
  | raise e => exact hf e
  | call o next ih => exact fun r => ih r (hp r)

/-- A result without effects returns its value. -/
theorem Prog.returns_ofExcept {Q : α → Prop} {x : Except ε α} (h : ∀ a, x = .ok a → Q a) :
    (Prog.ofExcept x : Prog S ε α).Returns Q := by
  cases x with
  | ok a => exact h a rfl
  | error e => trivial

/-- Whatever is returned, something is. -/
theorem Prog.returns_true {p : Prog S ε α} : p.Returns fun _ => True := by
  induction p with
  | ret a => trivial
  | raise e => trivial
  | call o next ih => exact fun r => ih r

/-- What follows any program. -/
theorem Prog.returns_bind {Q : β → Prop} {p : Prog S ε α} {f : α → Prog S ε β}
    (hf : ∀ a, (f a).Returns Q) : (p.bind f).Returns Q :=
  Prog.returns_true.bind fun a _ => hf a

/-- What follows a computation in `Except`. -/
theorem Prog.returns_bind_ofExcept {Q : β → Prop} {x : Except ε α} {f : α → Prog S ε β}
    (hf : ∀ a, x = .ok a → (f a).Returns Q) : ((Prog.ofExcept x).bind f).Returns Q := by
  cases x with
  | ok a => exact hf a rfl
  | error e => trivial

/-- What follows a program that keeps its promise. -/
theorem Prog.Uses.bind_returns {F : S.Op → Prop} {R : α → Prop} {p : Prog S ε α}
    {f : α → Prog S ε β} (hp : p.Uses F) (hreturns : p.Returns R)
    (hf : ∀ a, R a → (f a).Uses F) : (p.bind f).Uses F := by
  induction p with
  | ret a => exact hf a hreturns
  | raise e => trivial
  | call o next ih => exact ⟨hp.1, fun r => ih r (hp.2 r) (hreturns r)⟩

/-- What follows a program whose operations a monitor ignores, where it keeps its promise. -/
theorem Prog.Uses.sat_bind_returns {watch : σ → Event S ε → σ} {G : σ → S.Op → Prop} {s : σ}
    {F : S.Op → Prop} {R : α → Prop} {p : Prog S ε α} {f : α → Prog S ε β}
    {Q : Except ε β → σ → Prop} (hp : p.Uses F) (hreturns : p.Returns R)
    (hquiet : ∀ s o r, F o → watch s ⟨o, r⟩ = s) (hG : ∀ o, F o → G s o)
    (hnext : ∀ a, R a → Sat (Env.watching watch) G (f a) Q s) (hraise : ∀ e, Q (.error e) s) :
    Sat (Env.watching watch) G (p.bind f) Q s := by
  induction p with
  | ret a => exact hnext a hreturns
  | raise e => exact hraise e
  | call o next ih =>
    rw [Prog.bind, sat_call_watching]
    refine ⟨hG o hp.1, fun r => ?_⟩
    rw [hquiet s o r hp.1]
    exact ih r (hp.2 r) (hreturns r)

/-- What a program promises to return, a run of it that returns has returned. -/
theorem Prog.Returns.runs {T : Env S ε σ} {Q : α → Prop} {p : Prog S ε α} {s s' : σ} {a : α}
    (hreturns : p.Returns Q) (hrun : Runs T p s (.ok a) s') : Q a := by
  generalize hout : Except.ok a = out at hrun
  induction hrun with
  | ret b s =>
    cases hout
    exact hreturns
  | raise e s => cases hout
  | call answer rest ih => exact ih (hreturns _) hout

section following

/-- Run a program in an executable environment for as long as its steps pass a check. -/
def Prog.follow (perform : ℕ → σ → (o : S.Op) → Except ε (S.Answer o) × σ)
    (check : Event S ε → Bool) : Prog S ε α → ℕ → σ → Option (Except ε α × σ)
  | .ret a, _, s => some (.ok a, s)
  | .raise e, _, s => some (.error e, s)
  | .call o next, n, s =>
    match perform n s o with
    | (r, s') =>
      if check ⟨o, r⟩ then (next r).follow perform check (n + 1) s' else none

/-- A program that can be followed is run. -/
theorem Prog.follow_runs {T : Env S ε σ}
    {perform : ℕ → σ → (o : S.Op) → Except ε (S.Answer o) × σ} {check : Event S ε → Bool}
    (hanswers : ∀ n s o, check ⟨o, (perform n s o).1⟩ = true →
      T s o (perform n s o).1 (perform n s o).2)
    {p : Prog S ε α} {n : ℕ} {s s' : σ} {out : Except ε α}
    (h : p.follow perform check n s = some (out, s')) : Runs T p s out s' := by
  induction p generalizing n s with
  | ret a => cases h; exact .ret a _
  | raise e => cases h; exact .raise e _
  | call o next ih =>
    simp only [Prog.follow] at h
    split at h
    · rename_i hcheck
      exact .call (hanswers n s o hcheck) (ih _ h)
    · cases h

end following

end Effects
