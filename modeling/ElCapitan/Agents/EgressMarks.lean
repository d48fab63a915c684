import ElCapitan.Agents.EgressShapes

/-!
# Marks of redaction

E-mail addresses and IPv4 addresses stop at brackets and slashes. A mark of redaction is in
brackets and holds no slash, no at sign and no dot, so that these patterns do not look past it.
-/

namespace ElCapitan

section stops

variable {T : TextLibrary}

/-- A character at which e-mail addresses and IPv4 addresses stop. -/
structure TextLibrary.Stops (T : TextLibrary) (c : Char) : Prop where
  localChar : isLocalChar c = false
  word : isWordChar T c = false
  decimal : T.decimal c = false
  sign : c ≠ '@'

/-- A character that stops words is no letter. -/
theorem TextLibrary.Stops.letter {c : Char} (h : T.Stops c) : isPatternLetter c = false := by
  have hlocal := h.localChar
  unfold isLocalChar at hlocal
  simp only [Bool.or_eq_false_iff] at hlocal
  exact hlocal.1.1

end stops

section marks

variable {P : Platform} {T : TextLibrary}

/-- A mark of redaction. -/
def IsRedaction (marked : List Char) : Prop :=
  ∃ body, marked = '[' :: body ++ [']'] ∧ ∀ c ∈ body, c ∉ ['/', '@', '.']

/-- A marker is not empty. -/
theorem IsRedaction.ne_nil {marked : List Char} (h : IsRedaction marked) : marked ≠ [] := by
  obtain ⟨body, rfl, _⟩ := h
  simp

/-- A marker holds no slash, no at sign and no dot. -/
theorem IsRedaction.plain {marked : List Char} (h : IsRedaction marked) :
    ∀ c ∈ marked, c ∉ ['/', '@', '.'] := by
  obtain ⟨body, rfl, hbody⟩ := h
  intro c hc
  rcases List.mem_append.mp hc with hc | hc
  · rcases List.mem_cons.mp hc with rfl | hc
    · decide
    · exact hbody c hc
  · rw [List.mem_singleton.mp hc]
    decide

/-- A marker ends with a bracket. -/
theorem IsRedaction.getLast? {marked : List Char} (h : IsRedaction marked) :
    marked.getLast? = some ']' := by
  obtain ⟨body, rfl, _⟩ := h
  rw [List.getLast?_append]
  rfl

end marks

end ElCapitan
