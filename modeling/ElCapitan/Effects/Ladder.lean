import Mathlib.Data.List.Basic

/-!
# Ladders climbed by the entries of a log

A ladder has rungs numbered from zero. An entry of a log may climb the next
rung, and then the ladder holds the entry's record there; any entry may also
let the ladder fall to a lower height. `Climbed` says what a log and the records
still held have to do with each other, whatever the order of climbs and falls.
-/

namespace Effects

variable {E R : Type*}

/-- `a` stands at position `n` and is the last entry of the log that meets `p`. -/
def LastAt (p : E → Prop) (log : List E) (n : ℕ) (a : E) : Prop :=
  log[n]? = some a ∧ p a ∧ ∀ m b, n < m → log[m]? = some b → ¬p b

/-- The place of a last event is one of the log. -/
theorem LastAt.lt_length {p : E → Prop} {log : List E} {n : ℕ} {a : E} (h : LastAt p log n a) :
    n < log.length := (List.getElem?_eq_some_iff.mp h.1).1

/-- A new entry that does not meet the predicate changes nothing. -/
theorem LastAt.snoc_of_not {p : E → Prop} {log : List E} {n : ℕ} {a b : E} (h : LastAt p log n a)
    (hb : ¬p b) : LastAt p (log ++ [b]) n a := by
  refine ⟨by rw [List.getElem?_append_left h.lt_length, h.1], h.2.1, ?_⟩
  intro m x hm hx
  by_cases hlt : m < log.length
  · rw [List.getElem?_append_left hlt] at hx
    exact h.2.2 m x hm hx
  · rw [List.getElem?_append_right (by omega)] at hx
    obtain ⟨-, rfl⟩ := List.getElem?_eq_some_iff.mp hx
    simpa using hb

/-- A new entry that meets the predicate is the last one. -/
theorem lastAt_snoc_self {p : E → Prop} {log : List E} {b : E} (hb : p b) :
    LastAt p (log ++ [b]) log.length b := by
  refine ⟨by simp, hb, ?_⟩
  intro m x hm hx
  have hlen := (List.getElem?_eq_some_iff.mp hx).1
  simp only [List.length_append, List.length_singleton] at hlen
  omega

/-- An event is the last of its kind at one place. -/
theorem LastAt.unique {p : E → Prop} {log : List E} {n m : ℕ} {a b : E} (h : LastAt p log n a)
    (h' : LastAt p log m b) : n = m := by
  rcases Nat.lt_trichotomy n m with hlt | heq | hlt
  · exact absurd h'.2.1 (h.2.2 m b hlt h'.1)
  · exact heq
  · exact absurd h.2.1 (h'.2.2 n a hlt h.1)

/-- The records held on the lowest rungs are those of the last climbs of these
rungs, and these climbs stand in the order of the rungs. -/
structure Climbed (rung : E → Option ℕ) (record : E → R) (log : List E) (held : List R) :
    Prop where
  /-- Each held record is that of the rung's last climb. -/
  last : ∀ i r, held[i]? = some r → ∃ n e, LastAt (rung · = some i) log n e ∧ record e = r
  /-- The last climb of a lower rung comes before that of a higher one. -/
  ordered : ∀ i j, i < j → j < held.length → ∀ n m a b,
    LastAt (rung · = some i) log n a → LastAt (rung · = some j) log m b → n < m

namespace Climbed

variable {rung : E → Option ℕ} {record : E → R} {log : List E} {held : List R} {e : E}

/-- Where nothing is held, nothing need have been climbed. -/
theorem empty (log : List E) : Climbed rung record log [] :=
  ⟨by simp, by simp⟩

/-- Climbing the next rung. -/
theorem climb (h : Climbed rung record log held) (he : rung e = some held.length) :
    Climbed rung record (log ++ [e]) (held ++ [record e]) := by
  have hlow : ∀ i, i < held.length → ∃ n a, LastAt (rung · = some i) log n a ∧
      LastAt (rung · = some i) (log ++ [e]) n a := by
    intro i hi
    obtain ⟨n, a, hlast, -⟩ := h.last i _ (List.getElem?_eq_getElem hi)
    refine ⟨n, a, hlast, hlast.snoc_of_not ?_⟩
    simp only [he, Option.some.injEq]
    omega
  constructor
  · intro i r hr
    by_cases hi : i < held.length
    · rw [List.getElem?_append_left hi] at hr
      obtain ⟨n, a, hlast, hrec⟩ := h.last i r hr
      refine ⟨n, a, hlast.snoc_of_not ?_, hrec⟩
      simp only [he, Option.some.injEq]
      omega
    · have hlen := (List.getElem?_eq_some_iff.mp hr).1
      simp only [List.length_append, List.length_singleton] at hlen
      have heq : i = held.length := by omega
      subst heq
      exact ⟨log.length, e, lastAt_snoc_self he, by simpa using hr⟩
  · intro i j hij hj n m a b ha hb
    simp only [List.length_append, List.length_singleton] at hj
    obtain ⟨n', a', hn, hn'⟩ := hlow i (by omega)
    have hnn' := ha.unique hn'
    by_cases hjlt : j < held.length
    · obtain ⟨m', b', hm, hm'⟩ := hlow j hjlt
      have hmm' := hb.unique hm'
      subst hnn' hmm'
      exact h.ordered i j hij hjlt n m _ _ hn hm
    · have heq : j = held.length := by omega
      subst heq
      have hm := hb.unique (@lastAt_snoc_self _ _ log _ he)
      have hlt := hn.lt_length
      omega

/-- An entry that climbs nothing may leave the ladder at any lower height. -/
theorem fall (h : Climbed rung record log held) (he : rung e = none) (k : ℕ) :
    Climbed rung record (log ++ [e]) (held.take k) := by
  have hne : ∀ i, ¬rung e = some i := by simp [he]
  have hback : ∀ i, i < held.length → ∀ n a, LastAt (rung · = some i) (log ++ [e]) n a →
      ∃ a', LastAt (rung · = some i) log n a' := by
    intro i hi n a ha
    obtain ⟨n', a', hlast, -⟩ := h.last i _ (List.getElem?_eq_getElem hi)
    obtain rfl := ha.unique (hlast.snoc_of_not (hne i))
    exact ⟨a', hlast⟩
  constructor
  · intro i r hr
    have hi : held[i]? = some r := by
      rw [List.getElem?_take] at hr
      split at hr
      · exact hr
      · cases hr
    obtain ⟨n, a, hlast, hrec⟩ := h.last i r hi
    exact ⟨n, a, hlast.snoc_of_not (hne i), hrec⟩
  · intro i j hij hj n m a b ha hb
    simp only [List.length_take] at hj
    obtain ⟨a', ha'⟩ := hback i (by omega) n a ha
    obtain ⟨b', hb'⟩ := hback j (by omega) m b hb
    exact h.ordered i j hij (by omega) n m a' b' ha' hb'

/-- An entry that climbs nothing may leave the ladder as it is. -/
theorem stay (h : Climbed rung record log held) (he : rung e = none) :
    Climbed rung record (log ++ [e]) held := by
  simpa using h.fall he held.length

end Climbed

end Effects
