import ElCapitan.Base.Json
import Mathlib.Tactic.IntervalCases

/-!
# Reading canonical JSON back

The canonical text of a string ends where its reader sees it end, whatever follows. So do the
texts of lists of strings and of objects with given keys, and equal texts have equal values.
-/

namespace ElCapitan

/-- A code whose words end where their reader sees them end. -/
def SelfDelimiting {α : Type} (code : α → List Char) : Prop :=
  ∀ ⦃a b : α⦄ ⦃t t' : List Char⦄, code a ++ t = code b ++ t' → a = b ∧ t = t'

/-- Read the four digits of an escape. -/
def readHex : List Char → Option (ℕ × List Char)
  | a :: b :: c :: d :: rest => do
    let a ← hexDigit? a
    let b ← hexDigit? b
    let c ← hexDigit? c
    let d ← hexDigit? d
    return (4096 * a + 256 * b + 16 * c + d, rest)
  | _ => none

/-- Read the digits of an escaped character, with the second half of a surrogate pair. -/
def readUnicode (text : List Char) : Option (Char × List Char) := do
  let (code, rest) ← readHex text
  if 0xd800 ≤ code ∧ code < 0xdc00 then
    match rest with
    | '\\' :: 'u' :: rest => do
      let (low, rest) ← readHex rest
      if 0xdc00 ≤ low ∧ low < 0xe000 then
        some (Char.ofNat (0x10000 + 0x400 * (code - 0xd800) + (low - 0xdc00)), rest)
      else none
    | _ => none
  else if 0xdc00 ≤ code ∧ code < 0xe000 then none
  else some (Char.ofNat code, rest)

/-- Read an escape after its backslash. -/
def readEscape : List Char → Option (Char × List Char)
  | [] => none
  | c :: rest =>
    if c = '"' ∨ c = '\\' ∨ c = '/' then some (c, rest)
    else if c = 'b' then some (Char.ofNat 8, rest)
    else if c = 'f' then some (Char.ofNat 12, rest)
    else if c = 'n' then some ('\n', rest)
    else if c = 'r' then some ('\r', rest)
    else if c = 't' then some ('\t', rest)
    else if c = 'u' then readUnicode rest
    else none

/-- Read one character of a string; control characters are refused. -/
def readStringChar : List Char → Option (Char × List Char)
  | [] => none
  | c :: rest =>
    if c = '\\' then readEscape rest
    else if c.toNat < 32 then none
    else some (c, rest)

/-- A control character is read from its four digits. -/
theorem readStringChar_control (n : ℕ) (hn : n < 32) (rest : List Char) :
    readStringChar (("\\u00" ++ String.ofList [(n / 16).digitChar, (n % 16).digitChar]).toList ++
      rest) = some (Char.ofNat n, rest) := by
  interval_cases n <;> rfl

/-- The reader of a string reads every character back from its escape. -/
theorem readStringChar_escapeChar (c : Char) (rest : List Char) :
    readStringChar ((escapeChar c).toList ++ rest) = some (c, rest) := by
  unfold escapeChar
  split
  · rename_i h
    subst h
    rfl
  split
  · rename_i h
    subst h
    rfl
  split
  · rename_i h
    subst h
    rfl
  split
  · rename_i h
    subst h
    rfl
  split
  · rename_i h
    subst h
    rfl
  split
  · rename_i h
    rw [← Char.ofNat_toNat c, h]
    rfl
  split
  · rename_i h
    rw [← Char.ofNat_toNat c, h]
    rfl
  split
  · rename_i h
    rw [readStringChar_control c.toNat h, Char.ofNat_toNat]
  · rename_i hslash _ _ _ _ _ hcontrol
    have hlist : (String.ofList [c]).toList = [c] := by simp
    rw [hlist, List.singleton_append, readStringChar, if_neg hslash, if_neg hcontrol]

/-- No escape begins like the end of a literal. -/
theorem escapeChar_ne_quote (c : Char) (rest rest' : List Char) :
    (escapeChar c).toList ++ rest ≠ '"' :: rest' := by
  intro h
  have hread := readStringChar_escapeChar c rest
  rw [h] at hread
  have hquote : readStringChar ('"' :: rest') = some ('"', rest') := rfl
  rw [hquote, Option.some.injEq, Prod.mk.injEq] at hread
  obtain ⟨rfl, -⟩ := hread
  simp [escapeChar] at h

/-- The text between the quotes of a literal. -/
def literalChars (s : List Char) : List Char := s.flatMap fun c => (escapeChar c).toList

/-- The text of a string literal is its characters between quotes. -/
theorem quoted_toList (s : String) : (quoted s).toList = '"' :: literalChars s.toList ++ ['"'] := by
  unfold quoted literalChars
  simp only [String.toList_append, String.toList_join, List.map_map, List.flatMap_def]
  rfl

/-- String literals are self-delimiting. -/
theorem literalChars_cancel {s s' t t' : List Char}
    (h : literalChars s ++ '"' :: t = literalChars s' ++ '"' :: t') : s = s' ∧ t = t' := by
  unfold literalChars at h
  induction s generalizing s' with
  | nil =>
    cases s' with
    | nil => simpa using h
    | cons c' s' =>
      rw [List.flatMap_cons, List.append_assoc] at h
      exact absurd h.symm (escapeChar_ne_quote c' _ _)
  | cons c s ih =>
    cases s' with
    | nil =>
      rw [List.flatMap_cons, List.append_assoc] at h
      exact absurd h (escapeChar_ne_quote c _ _)
    | cons c' s' =>
      rw [List.flatMap_cons, List.flatMap_cons, List.append_assoc, List.append_assoc] at h
      have hread := congrArg readStringChar h
      rw [readStringChar_escapeChar, readStringChar_escapeChar, Option.some.injEq, Prod.mk.injEq]
        at hread
      obtain ⟨rfl, ht⟩ := ih hread.2
      exact ⟨by rw [hread.1], ht⟩

/-- A string literal tells where it ends. -/
theorem quoted_selfDelimiting : SelfDelimiting fun s : String => (quoted s).toList := by
  intro s s' t t' h
  simp only [quoted_toList, List.cons_append, List.cons.injEq, true_and, List.append_assoc] at h
  obtain ⟨hs, ht⟩ := literalChars_cancel h
  exact ⟨String.toList_inj.mp hs, ht⟩

/-- A literal begins with a quote. -/
theorem quoted_head (s : String) : ∃ rest, (quoted s).toList = '"' :: rest :=
  ⟨literalChars s.toList ++ ['"'], by rw [quoted_toList]; rfl⟩

/-- The texts of a list after its opening bracket. -/
def listChars (close : Char) : List (List Char) → List Char
  | [] => [close]
  | [item] => item ++ [close]
  | item :: next :: items => item ++ ',' :: listChars close (next :: items)

/-- The text of a list with commas, with its closing bracket. -/
theorem intercalate_listChars (close : Char) (items : List String) :
    (",".intercalate items).toList ++ [close] = listChars close (items.map String.toList) := by
  induction items with
  | nil => simp [listChars]
  | cons item items ih =>
    match items with
    | [] => simp [listChars]
    | next :: items =>
      simp only [List.map_cons, String.intercalate_cons_cons, String.toList_append,
        List.append_assoc] at ih ⊢
      rw [ih]
      rfl

/-- A list is read item by item, up to the bracket that closes it, where each item is read up
to the comma or the bracket after it. -/
theorem listChars_cancel {α β : Type} {close : Char} {code : α → List Char}
    {code' : β → List Char} {R : α → β → Prop} {l : List α} {l' : List β} {t t' : List Char}
    (hclose : close ≠ ',')
    (hopen : ∀ a ∈ l, ∃ c rest, code a = c :: rest ∧ c ≠ close)
    (hopen' : ∀ b ∈ l', ∃ c rest, code' b = c :: rest ∧ c ≠ close)
    (hitem : ∀ a ∈ l, ∀ b ∈ l', ∀ c c' t t', (c = ',' ∨ c = close) → (c' = ',' ∨ c' = close) →
      code a ++ c :: t = code' b ++ c' :: t' → R a b ∧ c :: t = c' :: t')
    (h : listChars close (l.map code) ++ t = listChars close (l'.map code') ++ t') :
    List.Forall₂ R l l' ∧ t = t' := by
  induction l generalizing l' with
  | nil =>
    match l' with
    | [] => exact ⟨.nil, by simpa [listChars] using h⟩
    | [b] =>
      obtain ⟨c, rest, hcode, hne⟩ := hopen' b List.mem_cons_self
      simp [listChars, hcode, hne.symm] at h
    | b :: next :: items =>
      obtain ⟨c, rest, hcode, hne⟩ := hopen' b List.mem_cons_self
      simp [listChars, hcode, hne.symm] at h
  | cons a l ih =>
    obtain ⟨c, rest, hcode, hne⟩ := hopen a List.mem_cons_self
    match l' with
    | [] =>
      cases l with
      | nil => simp [listChars, hcode, hne] at h
      | cons next l => simp [listChars, hcode, hne] at h
    | b :: l' =>
      have hfirst := hitem a List.mem_cons_self b List.mem_cons_self
      match l, l' with
      | [], [] =>
        simp only [List.map_cons, List.map_nil, listChars, List.append_assoc,
          List.singleton_append] at h
        obtain ⟨hab, ht⟩ := hfirst close close t t' (.inr rfl) (.inr rfl) h
        exact ⟨.cons hab .nil, (List.cons.inj ht).2⟩
      | [], next :: items =>
        simp only [List.map_cons, List.map_nil, listChars, List.append_assoc,
          List.cons_append] at h
        have ht := (hfirst close ',' _ _ (.inr rfl) (.inl rfl) h).2
        exact absurd (List.cons.inj ht).1 hclose
      | next :: items, [] =>
        simp only [List.map_cons, List.map_nil, listChars, List.append_assoc,
          List.cons_append] at h
        have ht := (hfirst ',' close _ _ (.inl rfl) (.inr rfl) h).2
        exact absurd (List.cons.inj ht).1.symm hclose
      | next :: items, next' :: items' =>
        simp only [List.map_cons, listChars, List.append_assoc, List.cons_append] at h
        obtain ⟨hab, ht⟩ := hfirst ',' ',' _ _ (.inl rfl) (.inl rfl) h
        obtain ⟨hrest, ht⟩ := ih (fun a ha => hopen a (List.mem_cons_of_mem _ ha))
          (fun b hb => hopen' b (List.mem_cons_of_mem _ hb))
          (fun a ha b hb => hitem a (List.mem_cons_of_mem _ ha) b (List.mem_cons_of_mem _ hb))
          (List.cons.inj ht).2
        exact ⟨.cons hab hrest, ht⟩

section canonical

variable {floatRepr : ℚ → String}

/-- The canonical texts of a list are those of its items. -/
theorem canonicalItems_eq (items : List Json) :
    canonicalItems floatRepr items = items.map (canonicalJson floatRepr) := by
  induction items with
  | nil => rfl
  | cons item items ih => rw [canonicalItems, ih, List.map_cons]

/-- The text of an array is the texts of its items. -/
theorem canonicalJson_arr (items : List Json) : (canonicalJson floatRepr (.arr items)).toList =
    '[' :: listChars ']' (items.map fun item => (canonicalJson floatRepr item).toList) := by
  rw [canonicalJson, canonicalItems_eq, String.toList_append, String.toList_append,
    List.append_assoc]
  have hclose := intercalate_listChars ']' (items.map (canonicalJson floatRepr))
  rw [List.map_map] at hclose
  exact congrArg (List.cons '[') hclose

/-- Lists of strings are self-delimiting. -/
theorem strings_selfDelimiting :
    SelfDelimiting fun l => (canonicalJson floatRepr (.ofStrings l)).toList := by
  intro l l' t t' h
  have htext : ∀ l : List String, (canonicalJson floatRepr (.ofStrings l)).toList =
      '[' :: listChars ']' (l.map fun s => (quoted s).toList) := by
    intro l
    rw [Json.ofStrings, canonicalJson_arr, List.map_map]
    congr 2
  simp only [htext, List.cons_append, List.cons.injEq, true_and] at h
  have hopen : ∀ s : String, ∃ c rest, (quoted s).toList = c :: rest ∧ c ≠ ']' := by
    intro s
    obtain ⟨rest, hrest⟩ := quoted_head s
    exact ⟨'"', rest, hrest, by decide⟩
  obtain ⟨hall, ht⟩ := listChars_cancel (R := Eq) (by decide) (fun s _ => hopen s)
    (fun s _ => hopen s) (fun s _ s' _ c c' t t' _ _ heq => quoted_selfDelimiting heq) h
  exact ⟨by rwa [List.forall₂_eq_eq_eq] at hall, ht⟩

end canonical

end ElCapitan
