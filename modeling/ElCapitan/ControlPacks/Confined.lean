import Mathlib.Data.List.Basic

/-!
# Computations confined to declared keys

A fallible computation over a keyed collection is confined when it depends only on the
values of the declared keys and every exception it raises is of an accepted class. Both
are closed under sequencing, so a long evaluation is confined when its steps are.
-/

namespace ElCapitan

variable {σ κ ν ε α β : Type}

/-- Two collections give the same value, or none, for every declared key. -/
def AgreeOn (read : σ → κ → Option ν) (keys : List κ) (s t : σ) : Prop :=
  ∀ key ∈ keys, read s key = read t key

/-- Every exception of a computation is of an accepted class. -/
def Raises (accepted : ε → Prop) (x : Except ε α) : Prop :=
  ∀ e, x = .error e → accepted e

/-- A computation that depends on the declared keys only and raises accepted exceptions. -/
structure Confined (read : σ → κ → Option ν) (keys : List κ) (accepted : ε → Prop)
    (f : σ → Except ε α) : Prop where
  /-- Collections that agree on the declared keys give the same result. -/
  depends : ∀ s t, AgreeOn read keys s t → f s = f t
  /-- Every exception is accepted. -/
  raises : ∀ s, Raises accepted (f s)

section raises

variable {accepted : ε → Prop}

/-- A value raises nothing. -/
theorem raises_pure (a : α) : Raises accepted (pure a) := by
  intro e h
  cases h

/-- A value raises nothing, also as a result. -/
theorem raises_ok (a : α) : Raises accepted (Except.ok a) := by
  intro e h
  cases h

/-- An accepted error is raised. -/
theorem raises_error {e : ε} (he : accepted e) :
    Raises accepted (Except.error e : Except ε α) := by
  intro e' h
  cases h
  exact he

/-- A sequence raises what its parts raise. -/
theorem raises_bind {x : Except ε α} {f : α → Except ε β} (hx : Raises accepted x)
    (hf : ∀ a, Raises accepted (f a)) : Raises accepted (x >>= f) := by
  intro e h
  cases x with
  | error e' =>
    cases h
    exact hx e rfl
  | ok a => exact hf a e h

/-- A conditional raises what its branches raise. -/
theorem raises_ite {c : Prop} [Decidable c] {x y : Except ε α} (hx : Raises accepted x)
    (hy : Raises accepted y) : Raises accepted (if c then x else y) := by
  by_cases h : c
  · rw [if_pos h]
    exact hx
  · rw [if_neg h]
    exact hy

/-- A pass over a list raises what its turns raise. -/
theorem raises_mapM {f : α → Except ε β} (hf : ∀ a, Raises accepted (f a)) (items : List α) :
    Raises accepted (items.mapM f) := by
  induction items with
  | nil => exact raises_pure []
  | cons item items ih =>
    rw [List.mapM_cons]
    apply raises_bind (hf item)
    intro b
    apply raises_bind ih
    intro bs
    exact raises_pure _

/-- A search of a list raises what its tests raise. -/
theorem raises_anyM {f : α → Except ε Bool} (hf : ∀ a, Raises accepted (f a)) (items : List α) :
    Raises accepted (items.anyM f) := by
  induction items with
  | nil => exact raises_pure false
  | cons item items ih =>
    rw [List.anyM_cons]
    apply raises_bind (hf item)
    intro b
    cases b with
    | true => exact raises_pure true
    | false => exact ih

end raises

section confined

variable {read : σ → κ → Option ν} {keys : List κ} {accepted : ε → Prop}

/-- What reads nothing is confined. -/
theorem confined_const {x : Except ε α} (hx : Raises accepted x) :
    Confined read keys accepted fun _ => x := by
  constructor
  · intro s t hagree
    rfl
  · intro s
    exact hx

/-- A sequence of confined computations is confined. -/
theorem confined_bind {f : σ → Except ε α} {g : α → σ → Except ε β}
    (hf : Confined read keys accepted f) (hg : ∀ a, Confined read keys accepted (g a)) :
    Confined read keys accepted fun s => f s >>= fun a => g a s := by
  constructor
  · intro s t hagree
    rw [hf.depends s t hagree]
    congr 1
    funext a
    exact (hg a).depends s t hagree
  · intro s
    exact raises_bind (hf.raises s) fun a => (hg a).raises s

/-- A choice between confined computations is confined. -/
theorem confined_ite {c : Prop} [Decidable c] {f g : σ → Except ε α}
    (hf : Confined read keys accepted f) (hg : Confined read keys accepted g) :
    Confined read keys accepted fun s => if c then f s else g s := by
  by_cases h : c
  · simpa only [if_pos h] using hf
  · simpa only [if_neg h] using hg

/-- More keys and more accepted exceptions confine no more. -/
theorem Confined.mono {keys' : List κ} {accepted' : ε → Prop} {f : σ → Except ε α}
    (h : Confined read keys accepted f) (hkeys : ∀ key ∈ keys, key ∈ keys')
    (haccepted : ∀ e, accepted e → accepted' e) : Confined read keys' accepted' f := by
  constructor
  · intro s t hagree
    apply h.depends s t
    intro key hkey
    exact hagree key (hkeys key hkey)
  · intro s e herror
    exact haccepted e (h.raises s e herror)

end confined

end ElCapitan
