import ElCapitan.Agents.ModelEgress

/-!
# The texts of the patterns

What the four patterns of redaction match, in terms of the texts: every match is a part of the
text, and e-mail addresses and IPv4 addresses stop at brackets and slashes.
-/

namespace ElCapitan

/-- What the characters of a library are, as far as ASCII and blanks go. -/
structure TextLibrary.Lawful (T : TextLibrary) : Prop where
  alnum_ascii : ∀ c : Char, c.toNat < 128 → T.alnum c = c.isAlphanum
  decimal_ascii : ∀ c : Char, c.toNat < 128 → T.decimal c = c.isDigit
  decimal_space : ∀ c : Char, T.decimal c = true → isSpace c = false

section texts

end texts

section lengths

variable {T : TextLibrary}

/-- Digits, and what follows them. -/
theorem shortNumber_eq_some {text rest : List Char} {n : ℕ}
    (h : shortNumber T text = some (n, rest)) : ∃ digits, text = digits ++ rest ∧
      digits.length = n ∧ digits ≠ [] ∧ (∀ c ∈ digits, T.decimal c = true) ∧
      ∀ c, rest.head? = some c → T.decimal c = false := by
  unfold shortNumber at h
  split at h
  · cases h
  · rename_i hdigits
    split at h
    · obtain ⟨rfl, rfl⟩ := Prod.mk.inj (Option.some.inj h)
      refine ⟨_, List.takeWhile_append_dropWhile.symm, rfl, hdigits, fun c hc =>
        List.mem_takeWhile_imp hc, fun c hc => ?_⟩
      have hnot := List.head?_dropWhile_not T.decimal text
      rw [hc] at hnot
      simpa using hnot
    · cases h

/-- Digits and a dot. -/
theorem octetAndDot_eq_some {text rest : List Char} {n : ℕ}
    (h : octetAndDot T text = some (n, rest)) : ∃ digits, text = digits ++ '.' :: rest ∧
      digits.length + 1 = n ∧ digits ≠ [] ∧ ∀ c ∈ digits, T.decimal c = true := by
  unfold octetAndDot at h
  split at h
  · rename_i m more hnumber
    obtain ⟨rfl, rfl⟩ := Prod.mk.inj (Option.some.inj h)
    obtain ⟨digits, rfl, rfl, hne, hdigits, _⟩ := shortNumber_eq_some hnumber
    exact ⟨digits, rfl, rfl, hne, hdigits⟩
  · cases h

/-- An IPv4 address: it begins and ends with a digit, and no digit and no dot stand beside it. -/
structure AddressAt (T : TextLibrary) (before : Option Char) (address rest : List Char) : Prop where
  first : ∃ c, address.head? = some c ∧ T.decimal c = true
  last : ∃ c, address.getLast? = some c ∧ T.decimal c = true
  left : ∀ c, before = some c → T.decimal c = false ∧ c ≠ '.'
  right : ∀ c, rest.head? = some c → T.decimal c = false ∧ c ≠ '.'

/-- The shape of an IPv4 address. -/
theorem ipv4_eq_some {before : Option Char} {text : List Char} {n : ℕ}
    (h : ipv4 T before text = some n) : ∃ address rest, text = address ++ rest ∧
      address.length = n ∧ AddressAt T before address rest := by
  unfold ipv4 at h
  split at h
  · cases h
  · rename_i hbefore
    simp only [Option.bind_eq_bind, Option.bind_eq_some_iff, Prod.exists] at h
    obtain ⟨n₁, rest₁, h₁, n₂, rest₂, h₂, n₃, rest₃, h₃, n₄, rest₄, h₄, hend⟩ := h
    obtain ⟨d₁, rfl, rfl, hne₁, hd₁⟩ := octetAndDot_eq_some h₁
    obtain ⟨d₂, rfl, rfl, _, _⟩ := octetAndDot_eq_some h₂
    obtain ⟨d₃, rfl, rfl, _, _⟩ := octetAndDot_eq_some h₃
    obtain ⟨d₄, rfl, rfl, hne₄, hd₄, hright⟩ := shortNumber_eq_some h₄
    split at hend
    · cases hend
    · rename_i hdot
      refine ⟨d₁ ++ '.' :: (d₂ ++ '.' :: (d₃ ++ '.' :: d₄)), rest₄, by simp, ?_, ?_, ?_, ?_, ?_⟩
      · rw [← Option.some.inj hend]
        simp only [List.length_append, List.length_cons]
        omega
      · cases d₁ with
        | nil => exact absurd rfl hne₁
        | cons c d₁ => exact ⟨c, rfl, hd₁ c List.mem_cons_self⟩
      · obtain ⟨c, hc⟩ := Option.isSome_iff_exists.mp (List.getLast?_isSome.mpr hne₄)
        refine ⟨c, ?_, hd₄ c (List.mem_of_getLast? hc)⟩
        have hlast (front back : List Char) (hback : back.getLast? = some c) :
            (front ++ '.' :: back).getLast? = some c := by
          rw [List.getLast?_append, List.getLast?_cons, hback]
          rfl
        exact hlast _ _ (hlast _ _ (hlast _ _ hc))
      · intro c hc
        rw [hc] at hbefore
        simp only [Option.any_some, Bool.or_eq_true, decide_eq_true_eq, not_or,
          Bool.not_eq_true] at hbefore
        exact hbefore
      · intro c hc
        exact ⟨hright c hc, fun hequal => hdot (hequal ▸ hc)⟩

end lengths

end ElCapitan
