import ElCapitan.Effects.Pool

/-!
# What threads have seen of a versioned store

A store holds a value under each key, and its values only move forward in some order. What a
thread saw of a key stays behind what the store holds: a thread that finds the version it
saw finds what it saw.
-/

namespace Effects

variable {S : Signature} {ε σ ι κ ν : Type}

section seen

variable (stored : σ → κ → Option ν) (le : ν → ν → Prop) (shows : Event S ε → κ → ν → Prop)

/-- What the threads have seen is not ahead of the store. -/
def Board.Behind (b : Board S ε σ ι) : Prop :=
  ∀ i, ∀ e ∈ b.histories i, ∀ k v, shows e k v → ∃ v', stored b.store k = some v' ∧ le v v'

variable {stored le shows}

/-- Nothing is shown before the first step. -/
theorem Board.behind_start (s : σ) :
    Board.Behind stored le shows (Board.start s : Board S ε σ ι) := by
  intro i e he
  cases he

variable [DecidableEq ι]

/-- A step that moves values forward and shows what is stored after it. -/
theorem Board.Behind.step {W : Env S ε σ} {G : Rule S ε ι} {b b' : Board S ε σ ι} {l : Label S ε ι}
    (hb : b.Behind stored le shows) (hstep : Board.Step W G b l b')
    (htrans : ∀ {x y z}, le x y → le y z → le x z) (hrefl : ∀ x, le x x)
    (hgrow : ∀ k v, stored b.store k = some v → ∃ v', stored b'.store k = some v' ∧ le v v')
    (hshown : ∀ k v, shows l.event k v → stored b'.store k = some v) :
    b'.Behind stored le shows := by
  intro i e he k v hshows
  rcases hstep.mem_history he with he | ⟨-, rfl⟩
  · obtain ⟨v', hv', hle⟩ := hb i e he k v hshows
    obtain ⟨v'', hv'', hle'⟩ := hgrow k v' hv'
    exact ⟨v'', hv'', htrans hle hle'⟩
  · exact ⟨v, hshown k v hshows, hrefl v⟩

end seen

end Effects
