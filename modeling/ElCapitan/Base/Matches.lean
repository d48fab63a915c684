import ElCapitan.Base.Patterns

/-!
# All matches of a pattern

`pattern.finditer`: the matches of a text from the left, each begun behind the last one. The first
of them is the leftmost match of the text, and every match of a text with one of them overlaps that
one.
-/

namespace ElCapitan

/-- The match of a pattern at a position of a text. -/
def Pattern.matchAt (pattern : Pattern) (text : List Char) (position : ℕ) : Option ℕ :=
  pattern (text.take position).getLast? (text.drop position)

/-- The matches from a position on, after a character; so many characters belong to the last one. -/
def Pattern.findFrom (pattern : Pattern) : Option Char → ℕ → ℕ → List Char → List (ℕ × ℕ)
  | _, _, _, [] => []
  | _, skip + 1, position, c :: rest => pattern.findFrom (some c) skip (position + 1) rest
  | before, 0, position, c :: rest =>
    match pattern before (c :: rest) with
    | some (more + 1) => (position, more + 1) :: pattern.findFrom (some c) more (position + 1) rest
    | _ => pattern.findFrom (some c) 0 (position + 1) rest

/-- `list(pattern.finditer(text))`: where each match begins, and its length. -/
def Pattern.findAll (pattern : Pattern) (text : List Char) : List (ℕ × ℕ) :=
  pattern.findFrom none 0 0 text

section positions

variable (pattern : Pattern) (text : List Char)

/-- The matches that begin at a position or behind it. -/
def Pattern.findPast (position : ℕ) : List (ℕ × ℕ) :=
  pattern.findFrom (text.take position).getLast? 0 position (text.drop position)

/-- All matches are those from the beginning. -/
theorem Pattern.findAll_eq : pattern.findAll text = pattern.findPast text 0 := rfl

/-- Skipping characters is finding from behind them. -/
theorem Pattern.findFrom_skip (skip position : ℕ) :
    pattern.findFrom (text.take position).getLast? skip position (text.drop position) =
      pattern.findPast text (position + skip) := by
  induction skip generalizing position with
  | zero => rfl
  | succ skip ih =>
    by_cases hposition : position < text.length
    · have hdrop := List.drop_eq_getElem_cons hposition
      have htake : (text.take (position + 1)).getLast? = some text[position] := by
        rw [List.take_succ_eq_append_getElem hposition, List.getLast?_concat]
      have hnext := ih (position + 1)
      rw [htake] at hnext
      rw [hdrop, Pattern.findFrom, hnext]
      congr 1
      omega
    · have hdrop : text.drop position = [] := List.drop_eq_nil_of_le (by omega)
      have hpast : text.drop (position + (skip + 1)) = [] := List.drop_eq_nil_of_le (by omega)
      unfold Pattern.findPast
      rw [hdrop, hpast, Pattern.findFrom, Pattern.findFrom]

variable {pattern text} {position : ℕ}

/-- There is no match behind the text. -/
theorem Pattern.findPast_end (h : text.length ≤ position) :
    pattern.findPast text position = [] := by
  unfold Pattern.findPast
  rw [List.drop_eq_nil_of_le h, Pattern.findFrom]

/-- A match is found and the search goes on behind it. -/
theorem Pattern.findPast_hit {n : ℕ} (hfits : pattern.Fits)
    (h : pattern.matchAt text position = some n) :
    pattern.findPast text position = (position, n) :: pattern.findPast text (position + n) := by
  obtain ⟨hpos, hlength⟩ := hfits _ _ _ h
  rw [List.length_drop] at hlength
  have hposition : position < text.length := by omega
  have hdrop := List.drop_eq_getElem_cons hposition
  have htake : (text.take (position + 1)).getLast? = some text[position] := by
    rw [List.take_succ_eq_append_getElem hposition, List.getLast?_concat]
  obtain ⟨more, rfl⟩ : ∃ more, n = more + 1 := ⟨n - 1, by omega⟩
  have hskip := pattern.findFrom_skip text more (position + 1)
  have hsum : position + 1 + more = position + (more + 1) := by omega
  rw [hsum] at hskip
  unfold Pattern.matchAt at h
  rw [hdrop] at h
  rw [htake] at hskip
  unfold Pattern.findPast
  rw [hdrop, Pattern.findFrom, h]
  dsimp only
  rw [hskip]
  rfl

/-- Without a match the search goes on at the next character. -/
theorem Pattern.findPast_miss (hposition : position < text.length)
    (h : pattern.matchAt text position = none) :
    pattern.findPast text position = pattern.findPast text (position + 1) := by
  have hdrop := List.drop_eq_getElem_cons hposition
  have htake : (text.take (position + 1)).getLast? = some text[position] := by
    rw [List.take_succ_eq_append_getElem hposition, List.getLast?_concat]
  unfold Pattern.matchAt at h
  rw [hdrop] at h
  unfold Pattern.findPast
  rw [hdrop, Pattern.findFrom, h, htake]

/-- A match is a part of the text that is not empty. -/
theorem Pattern.matchAt_length {n : ℕ} (hfits : pattern.Fits)
    (h : pattern.matchAt text position = some n) : 0 < n ∧ position + n ≤ text.length := by
  obtain ⟨hpos, hlength⟩ := hfits _ _ _ h
  rw [List.length_drop] at hlength
  omega

/-- From a position on there is no match, or a leftmost one, and the search goes on behind it. -/
theorem Pattern.findPast_cases (hfits : pattern.Fits) (position : ℕ) :
    (pattern.findPast text position = [] ∧ ∀ p, position ≤ p → pattern.matchAt text p = none) ∨
    ∃ start n, position ≤ start ∧ pattern.matchAt text start = some n ∧
      (∀ p, position ≤ p → p < start → pattern.matchAt text p = none) ∧
      pattern.findPast text position = (start, n) :: pattern.findPast text (start + n) := by
  by_cases hposition : position < text.length
  · cases hmatch : pattern.matchAt text position with
    | some n =>
      refine Or.inr ⟨position, n, le_rfl, hmatch, fun p hp hlt => ?_, findPast_hit hfits hmatch⟩
      omega
    | none =>
      have hnext := Pattern.findPast_cases hfits (position + 1)
      rw [← findPast_miss hposition hmatch] at hnext
      have hhere {p : ℕ} (hp : position ≤ p) : p = position ∨ position + 1 ≤ p := by
        omega
      rcases hnext with ⟨hnil, hnone⟩ | ⟨start, n, hstart, hhit, hleft, hlist⟩
      · refine Or.inl ⟨hnil, fun p hp => ?_⟩
        rcases hhere hp with rfl | hp
        · exact hmatch
        · exact hnone p hp
      · refine Or.inr ⟨start, n, by omega, hhit, fun p hp hlt => ?_, hlist⟩
        rcases hhere hp with rfl | hp
        · exact hmatch
        · exact hleft p hp hlt
  · refine Or.inl ⟨findPast_end (by omega), fun p hp => ?_⟩
    cases hmatch : pattern.matchAt text p with
    | none => rfl
    | some n =>
      have hlength := matchAt_length hfits hmatch
      omega
termination_by text.length - position

end positions

section results

variable {pattern : Pattern} {text : List Char} {start n : ℕ}

/-- Nothing is found exactly where nothing matches. -/
theorem Pattern.findAll_eq_nil_iff (hfits : pattern.Fits) :
    pattern.findAll text = [] ↔ ∀ p, pattern.matchAt text p = none := by
  rw [Pattern.findAll_eq]
  rcases findPast_cases hfits 0 with ⟨hnil, hnone⟩ | ⟨start, n, _, hhit, _, hlist⟩
  · exact ⟨fun _ p => hnone p (Nat.zero_le p), fun _ => hnil⟩
  · constructor
    · intro hnil
      rw [hlist] at hnil
      cases hnil
    · intro hnone
      rw [hnone start] at hhit
      cases hhit

/-- The first that is found is the leftmost match. -/
theorem Pattern.findAll_head (hfits : pattern.Fits) {others : List (ℕ × ℕ)}
    (h : pattern.findAll text = (start, n) :: others) :
    pattern.matchAt text start = some n ∧ (∀ p < start, pattern.matchAt text p = none) ∧
      others = pattern.findPast text (start + n) := by
  rw [Pattern.findAll_eq] at h
  rcases findPast_cases hfits 0 with ⟨hnil, _⟩ | ⟨first, m, _, hhit, hleft, hlist⟩
  · rw [hnil] at h
    cases h
  · rw [hlist] at h
    obtain ⟨hpair, rfl⟩ := List.cons.inj h
    obtain ⟨rfl, rfl⟩ := Prod.mk.inj hpair
    exact ⟨hhit, fun p hp => hleft p (Nat.zero_le p) hp, rfl⟩

/-- A leftmost match is found first. -/
theorem Pattern.findAll_of_leftmost (hfits : pattern.Fits)
    (hmatch : pattern.matchAt text start = some n)
    (hleft : ∀ p < start, pattern.matchAt text p = none) :
    pattern.findAll text = (start, n) :: pattern.findPast text (start + n) := by
  rw [Pattern.findAll_eq]
  rcases findPast_cases hfits 0 with ⟨_, hnone⟩ | ⟨first, m, _, hhit, hfirst, hlist⟩
  · rw [hnone start (Nat.zero_le start)] at hmatch
    cases hmatch
  · have hsame : first = start := by
      rcases Nat.lt_trichotomy first start with hlt | heq | hlt
      · rw [hleft first hlt] at hhit
        cases hhit
      · exact heq
      · rw [hfirst start (Nat.zero_le start) hlt] at hmatch
        cases hmatch
    subst hsame
    obtain rfl : m = n := Option.some.inj (hhit.symm.trans hmatch)
    exact hlist

/-- Every match of a text in which one is found overlaps that one. -/
theorem Pattern.findAll_single (hfits : pattern.Fits) (h : pattern.findAll text = [(start, n)]) :
    pattern.matchAt text start = some n ∧
      ∀ p m, pattern.matchAt text p = some m → start ≤ p ∧ p < start + n := by
  obtain ⟨hmatch, hleft, hrest⟩ := findAll_head hfits h
  refine ⟨hmatch, fun p m hp => ⟨?_, ?_⟩⟩
  · by_contra hlt
    rw [hleft p (by omega)] at hp
    cases hp
  · by_contra hge
    rcases findPast_cases hfits (start + n) with ⟨_, hnone⟩ | ⟨first, k, _, _, _, hlist⟩
    · rw [hnone p (by omega)] at hp
      cases hp
    · rw [hlist] at hrest
      cases hrest

/-- The second that is found is a match behind the first. -/
theorem Pattern.findAll_second (hfits : pattern.Fits) {second m : ℕ} {others : List (ℕ × ℕ)}
    (h : pattern.findAll text = (start, n) :: (second, m) :: others) :
    pattern.matchAt text second = some m ∧ start + n ≤ second := by
  obtain ⟨_, _, hrest⟩ := findAll_head hfits h
  rcases findPast_cases hfits (start + n) with ⟨hnil, _⟩ | ⟨first, k, hfirst, hhit, _, hlist⟩
  · rw [hnil] at hrest
    cases hrest
  · rw [hlist] at hrest
    obtain ⟨rfl, rfl⟩ := Prod.mk.inj (List.cons.inj hrest).1
    exact ⟨hhit, hfirst⟩

/-- A match is a part of the text. -/
theorem Pattern.matchAt_append {before after : List Char} :
    pattern.matchAt (before ++ after) before.length = pattern before.getLast? after := by
  unfold Pattern.matchAt
  rw [List.take_left', List.drop_left']
  · rfl
  · rfl

end results

end ElCapitan
