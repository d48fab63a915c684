import Mathlib.Data.List.Basic

/-!
# Programs that issue operations

A service method is a program: it issues operations to its environment, one at
a time, looks at each answer and either returns or raises. Operations are left
uninterpreted here. The same program can then be run alone, against a store, or
beside other programs, and facts about its text hold in each of these settings.
-/

namespace Effects

/-- The operations a program may issue, each with the type of its answer. -/
structure Signature where
  /-- The operations. -/
  Op : Type
  /-- The value an operation returns when it does not raise. -/
  Answer : Op → Type

/-- A program over the operations of `S` that returns an `α` or raises an `ε`.
The answer to an operation is its value or the exception it raised. -/
inductive Prog (S : Signature) (ε α : Type) : Type where
  | ret (a : α) : Prog S ε α
  | raise (e : ε) : Prog S ε α
  | call (o : S.Op) (next : Except ε (S.Answer o) → Prog S ε α) : Prog S ε α

/-- One operation together with the answer it received. -/
structure Event (S : Signature) (ε : Type) where
  /-- The operation issued. -/
  op : S.Op
  /-- Its value, or the exception it raised. -/
  answer : Except ε (S.Answer op)

/-- What a program has done so far, oldest event first. -/
abbrev History (S : Signature) (ε : Type) := List (Event S ε)

namespace Prog

variable {S : Signature} {ε α β : Type}

/-- Sequencing: an exception of the first program skips the second. -/
def bind : Prog S ε α → (α → Prog S ε β) → Prog S ε β
  | ret a, f => f a
  | raise e, _ => raise e
  | call o next, f => call o fun r => (next r).bind f

/-- Run a handler on the exception of a program, as `try … except` does. -/
def handle : Prog S ε α → (ε → Prog S ε α) → Prog S ε α
  | ret a, _ => ret a
  | raise e, h => h e
  | call o next, h => call o fun r => (next r).handle h

instance : Monad (Prog S ε) where
  pure := ret
  bind := bind

/-- Continue with a computed value or raise its error. -/
def ofExcept : Except ε α → Prog S ε α
  | .ok a => ret a
  | .error e => raise e

/-- Issue one operation and return its value; its exception propagates. -/
def perform (o : S.Op) : Prog S ε (S.Answer o) := call o ofExcept

/-- Issue one operation and look at its answer, a value or an exception. -/
def ask (o : S.Op) : Prog S ε (Except ε (S.Answer o)) := call o ret

/-- `if c: raise e`. -/
def raiseIf (c : Prop) [Decidable c] (e : ε) : Prog S ε Unit :=
  if c then raise e else ret ()

/-- Returning in a `do` block is returning. -/
@[simp] theorem pure_eq (a : α) : (pure a : Prog S ε α) = ret a := rfl

/-- A sequence in a `do` block is a sequence. -/
@[simp] theorem bind_eq (p : Prog S ε α) (f : α → Prog S ε β) : p >>= f = p.bind f := rfl

/-- After a value the rest goes on with it. -/
@[simp] theorem ret_bind (a : α) (f : α → Prog S ε β) : (ret a).bind f = f a := rfl

/-- After an error nothing goes on. -/
@[simp] theorem raise_bind (e : ε) (f : α → Prog S ε β) : (raise e).bind f = raise e := rfl

/-- Sequences may be bracketed either way. -/
@[simp] theorem bind_assoc {γ : Type} (p : Prog S ε α) (f : α → Prog S ε β) (g : β → Prog S ε γ) :
    (p.bind f).bind g = p.bind fun a => (f a).bind g := by
  induction p with
  | ret a => rfl
  | raise e => rfl
  | call o next ih => simp only [bind, ih]

end Prog

end Effects
