import ElCapitan.Base.Canonical
import ElCapitan.Base.Paths

/-!
# Equal canonical texts, equal values

The canonical text of a value ends where a comma or a closing bracket follows it, and two
values with one canonical text have the same value at every path.
-/

namespace ElCapitan

/-- The characters of a number. -/
def numberChar (c : Char) : Bool :=
  c.isDigit || c == '-' || c == '+' || c == '.' || c == 'e'

/-- What the texts of floats are: digits with a point or an exponent, no two floats with one
text. -/
structure FloatTexts (floatRepr : ℚ → String) : Prop where
  chars : ∀ q, ∀ c ∈ (floatRepr q).toList, numberChar c = true
  marked : ∀ q, '.' ∈ (floatRepr q).toList ∨ 'e' ∈ (floatRepr q).toList
  injective : Function.Injective floatRepr

/-- The characters after a value inside an array or an object. -/
def Stops (c : Char) : Prop := c = ',' ∨ c = ']' ∨ c = '\x7d'

/-- A character that stops a value is none of a number. -/
theorem Stops.not_numberChar {c : Char} (h : Stops c) : numberChar c = false := by
  obtain rfl | rfl | rfl := h <;> decide

section integers

/-- The text of a natural number is made of digits. -/
theorem natText_chars (m : ℕ) (c : Char) (h : c ∈ (toString m).toList) : c.isDigit = true := by
  rw [Nat.toString_eq_ofList_toDigits, String.toList_ofList] at h
  exact Nat.isDigit_of_mem_toDigits (by decide) (by decide) h

/-- The text of an integer has digits and a sign only. -/
theorem intText_chars (n : ℤ) (c : Char) (h : c ∈ (toString n).toList) :
    c.isDigit = true ∨ c = '-' := by
  cases n with
  | ofNat m => exact .inl (natText_chars m c h)
  | negSucc m =>
    have htext : (toString (Int.negSucc m)).toList = '-' :: (toString (m + 1)).toList := by
      change ("-" ++ toString (m + 1)).toList = _
      rw [String.toList_append]
      rfl
    rw [htext, List.mem_cons] at h
    exact h.symm.imp (natText_chars (m + 1) c) id

/-- The text of an integer is made of characters of numbers. -/
theorem intText_numberChar (n : ℤ) (c : Char) (h : c ∈ (toString n).toList) :
    numberChar c = true := by
  unfold numberChar
  obtain hdigit | rfl := intText_chars n c h
  · simp [hdigit]
  · decide

/-- The text of an integer has no mark of a float. -/
theorem intText_unmarked (n : ℤ) : '.' ∉ (toString n).toList ∧ 'e' ∉ (toString n).toList := by
  constructor <;> intro h <;> obtain hdigit | heq := intText_chars n _ h
  · exact absurd hdigit (by decide)
  · exact absurd heq (by decide)
  · exact absurd hdigit (by decide)
  · exact absurd heq (by decide)

/-- Natural numbers with one text are one number. -/
theorem natText_injective {m m' : ℕ} (h : toString m = toString m') : m = m' := by
  rw [Nat.toString_eq_ofList_toDigits, Nat.toString_eq_ofList_toDigits, String.ofList_inj] at h
  have hdigits := congrArg (fun digits => Nat.ofDigitChars 10 digits 0) h
  simpa only [Nat.ofDigitChars_ten_toDigits] using hdigits

/-- Two integers have two texts. -/
theorem intText_injective {n n' : ℤ} (h : toString n = toString n') : n = n' := by
  have hsign : ∀ m m' : ℕ, toString m ≠ "-" ++ toString m' := by
    intro m m' heq
    have hmem : '-' ∈ (toString m).toList := by simp [heq]
    exact absurd (natText_chars m '-' hmem) (by decide)
  cases n with
  | ofNat m =>
    cases n' with
    | ofNat m' => exact congrArg Int.ofNat (natText_injective h)
    | negSucc m' => exact absurd h (hsign m (m' + 1))
  | negSucc m =>
    cases n' with
    | ofNat m' => exact absurd h.symm (hsign m' (m + 1))
    | negSucc m' =>
      have htext : "-" ++ toString (m + 1) = "-" ++ toString (m' + 1) := h
      rw [← String.toList_inj, String.toList_append, String.toList_append,
        List.append_cancel_left_eq, String.toList_inj] at htext
      have hsucc := natText_injective htext
      have heq : m = m' := by omega
      rw [heq]

/-- The text of an integer is not empty. -/
theorem intText_ne_empty (n : ℤ) : toString n ≠ "" := by
  cases n with
  | ofNat m =>
    change toString m ≠ ""
    rw [Nat.toString_eq_ofList_toDigits, ne_eq, String.ofList_eq_empty_iff]
    exact Nat.toDigits_ne_nil
  | negSucc m =>
    intro h
    have hlist := congrArg String.toList h
    change ("-" ++ toString (m + 1)).toList = _ at hlist
    simp at hlist

end integers

section values

variable {floatRepr : ℚ → String}

/-- What the canonical text of a value begins with. -/
def Opens : Json → Char → Prop
  | .null, c => c = 'n'
  | .bool true, c => c = 't'
  | .bool false, c => c = 'f'
  | .int _, c => numberChar c = true
  | .float _, c => numberChar c = true
  | .str _, c => c = '"'
  | .arr _, c => c = '['
  | .obj _, c => c = '\x7b'

/-- A canonical text begins as its value does, where the texts of its floats are numbers. -/
theorem canonicalJson_opens_of {value : Json} (hfloat : ∀ q, value = .float q →
    ∃ c rest, (floatRepr q).toList = c :: rest ∧ numberChar c = true) :
    ∃ c rest, (canonicalJson floatRepr value).toList = c :: rest ∧ Opens value c := by
  cases value with
  | null => exact ⟨'n', _, by rw [canonicalJson]; rfl, rfl⟩
  | bool b =>
    cases b with
    | true => exact ⟨'t', _, by rw [canonicalJson]; rfl, rfl⟩
    | false => exact ⟨'f', _, by rw [canonicalJson]; rfl, rfl⟩
  | int n =>
    have hchars := intText_numberChar n
    rw [canonicalJson]
    cases htext : (toString n).toList with
    | nil => exact absurd (String.toList_eq_nil_iff.mp htext) (intText_ne_empty n)
    | cons c rest =>
      rw [htext] at hchars
      exact ⟨c, rest, rfl, hchars c List.mem_cons_self⟩
  | float q =>
    rw [canonicalJson]
    exact hfloat q rfl
  | str s =>
    rw [canonicalJson]
    obtain ⟨rest, hrest⟩ := quoted_head s
    exact ⟨'"', rest, hrest, rfl⟩
  | arr items => exact ⟨'[', _, canonicalJson_arr items, rfl⟩
  | obj entries =>
    rw [canonicalJson, String.toList_append, String.toList_append, List.append_assoc]
    exact ⟨'\x7b', _, rfl, rfl⟩

/-- The canonical text of a value begins with a character that tells what it is. -/
theorem canonicalJson_opens (value : Json) (hfloat : FloatTexts floatRepr) :
    ∃ c rest, (canonicalJson floatRepr value).toList = c :: rest ∧ Opens value c := by
  apply canonicalJson_opens_of
  intro q _
  have hchars := hfloat.chars q
  have hmarked := hfloat.marked q
  cases htext : (floatRepr q).toList with
  | nil => simp [htext] at hmarked
  | cons c rest =>
    rw [htext] at hchars
    exact ⟨c, rest, rfl, hchars c List.mem_cons_self⟩

/-- No value begins like a closing bracket. -/
theorem Opens.not_stops {value : Json} {c : Char} (h : Opens value c) : ¬Stops c := by
  intro hstops
  have hnumber := hstops.not_numberChar
  cases value with
  | bool b =>
    cases b with
    | true => obtain rfl | rfl | rfl := hstops <;> simp [Opens] at h
    | false => obtain rfl | rfl | rfl := hstops <;> simp [Opens] at h
  | int n =>
    rw [Opens, hnumber] at h
    cases h
  | float q =>
    rw [Opens, hnumber] at h
    cases h
  | _ => obtain rfl | rfl | rfl := hstops <;> simp [Opens] at h

/-- A number is read up to the first character that no number has. -/
theorem number_cancel {l l' t t' : List Char} {c c' : Char}
    (hl : ∀ c ∈ l, numberChar c = true) (hl' : ∀ c ∈ l', numberChar c = true)
    (hc : Stops c) (hc' : Stops c') (h : l ++ c :: t = l' ++ c' :: t') :
    l = l' ∧ c :: t = c' :: t' := by
  have hread : ∀ {l t : List Char} {c : Char}, (∀ c ∈ l, numberChar c = true) → Stops c →
      (l ++ c :: t).takeWhile numberChar = l := by
    intro l t c hl hc
    rw [List.takeWhile_append_of_pos hl, List.takeWhile_cons, hc.not_numberChar]
    simp
  have hsame : l = l' := by
    rw [← hread hl hc, h, hread hl' hc']
  subst hsame
  exact ⟨rfl, List.append_cancel_left h⟩

/-- The entries of an object in the order of their keys. -/
def insertByKey (entry : String × Json) : Document → Document
  | [] => [entry]
  | head :: rest =>
    if entry.1 ≤ head.1 then entry :: head :: rest else head :: insertByKey entry rest

/-- The entries of an object as its canonical text lists them. -/
def sortedEntries (entries : Document) : Document := entries.foldr insertByKey []

/-- Inserting an entry adds it. -/
theorem mem_insertByKey {entry other : String × Json} {l : Document} :
    other ∈ insertByKey entry l ↔ other = entry ∨ other ∈ l := by
  induction l with
  | nil => simp [insertByKey]
  | cons head rest ih =>
    rw [insertByKey]
    split
    · simp
    · simp only [List.mem_cons, ih]
      grind

/-- Sorting keeps the entries. -/
theorem mem_sortedEntries {entry : String × Json} {entries : Document} :
    entry ∈ sortedEntries entries ↔ entry ∈ entries := by
  induction entries with
  | nil => simp [sortedEntries]
  | cons head entries ih =>
    rw [List.mem_cons, ← ih]
    exact mem_insertByKey

/-- An inserted entry comes before equal keys. -/
theorem lookup_insertByKey {entry : String × Json} {l : Document} {name : String} :
    (insertByKey entry l).lookup name = (entry :: l).lookup name := by
  induction l with
  | nil => rfl
  | cons head rest ih =>
    rw [insertByKey]
    split
    · rfl
    · rename_i hlater
      obtain ⟨key, held⟩ := head
      obtain ⟨key', value⟩ := entry
      simp only [List.lookup_cons] at ih ⊢
      rw [ih]
      cases hkey : name == key with
      | false => rfl
      | true =>
        have hne : (name == key') = false := by
          rw [beq_eq_false_iff_ne]
          rintro rfl
          rw [eq_of_beq hkey] at hlater
          exact hlater (String.le_refl _)
        rw [hne]

/-- Sorting the entries of an object keeps what is found under a key. -/
theorem lookup_sortedEntries {entries : Document} {name : String} :
    (sortedEntries entries).lookup name = entries.lookup name := by
  induction entries with
  | nil => rfl
  | cons head entries ih =>
    change (insertByKey head (sortedEntries entries)).lookup name = _
    rw [lookup_insertByKey, List.lookup_cons, List.lookup_cons, ih]

/-- The text of an entry of an object. -/
def entryChars (floatRepr : ℚ → String) (entry : String × Json) : List Char :=
  (quoted entry.1).toList ++ ':' :: (canonicalJson floatRepr entry.2).toList

/-- The canonical texts of an object are those of its values. -/
theorem canonicalEntries_eq (entries : Document) : canonicalEntries floatRepr entries =
    entries.map fun entry => (entry.1, canonicalJson floatRepr entry.2) := by
  induction entries with
  | nil => rfl
  | cons entry entries ih =>
    obtain ⟨name, value⟩ := entry
    rw [canonicalEntries, ih, List.map_cons]

/-- Sorting the texts of the entries is sorting the entries. -/
theorem sortedTexts_eq (entries : Document) :
    (canonicalEntries floatRepr entries).foldr insertEntry [] =
      (sortedEntries entries).map fun entry => (entry.1, canonicalJson floatRepr entry.2) := by
  have hinsert : ∀ (entry : String × Json) (l : Document),
      insertEntry (entry.1, canonicalJson floatRepr entry.2)
          (l.map fun entry => (entry.1, canonicalJson floatRepr entry.2)) =
        (insertByKey entry l).map fun entry => (entry.1, canonicalJson floatRepr entry.2) := by
    intro entry l
    induction l with
    | nil => rfl
    | cons head rest ih =>
      rw [List.map_cons, insertEntry, insertByKey]
      split
      · rfl
      · rw [ih, List.map_cons]
  rw [canonicalEntries_eq]
  induction entries with
  | nil => rfl
  | cons entry entries ih =>
    rw [List.map_cons, List.foldr_cons, ih]
    exact hinsert entry (sortedEntries entries)

/-- The text of an object is the texts of its entries in the order of their keys. -/
theorem canonicalJson_obj (entries : Document) :
    (canonicalJson floatRepr (.obj entries)).toList =
      '\x7b' :: listChars '\x7d' ((sortedEntries entries).map (entryChars floatRepr)) := by
  rw [canonicalJson, sortedTexts_eq, String.toList_append, String.toList_append,
    List.append_assoc, List.map_map]
  have hclose := intercalate_listChars '\x7d' ((sortedEntries entries).map
    fun entry => quoted entry.1 ++ ":" ++ canonicalJson floatRepr entry.2)
  have htexts : ((sortedEntries entries).map
      fun entry => quoted entry.1 ++ ":" ++ canonicalJson floatRepr entry.2).map String.toList =
        (sortedEntries entries).map (entryChars floatRepr) := by
    rw [List.map_map]
    refine List.map_congr_left fun entry _ => ?_
    rw [Function.comp_apply, String.toList_append, String.toList_append, List.append_assoc]
    rfl
  rw [htexts] at hclose
  exact congrArg (List.cons '\x7b') hclose

/-- An entry of an object begins with a quote. -/
theorem entryChars_opens (entry : String × Json) :
    ∃ c rest, entryChars floatRepr entry = c :: rest ∧ c ≠ '\x7d' := by
  obtain ⟨rest, hrest⟩ := quoted_head entry.1
  exact ⟨'"', _, by rw [entryChars, hrest, List.cons_append], by decide⟩

/-- Lists with the same entries in one order have the same values under every key. -/
theorem sameOption_lookup {l l' : Document} {name : String}
    (h : List.Forall₂ (fun e e' => e.1 = e'.1 ∧ e.2.Same e'.2) l l') :
    Json.SameOption (l.lookup name) (l'.lookup name) := by
  induction h with
  | nil => trivial
  | @cons e e' l l' hentry _ ih =>
    obtain ⟨key, value⟩ := e
    obtain ⟨key', value'⟩ := e'
    obtain ⟨rfl, hsame⟩ := hentry
    simp only [List.lookup_cons]
    cases name == key with
    | true => exact hsame
    | false => exact ih

/-- Values with one text begin alike. -/
theorem opens_of_text {a b : Json} {c c' : Char} {t t' : List Char} (hfloat : FloatTexts floatRepr)
    (h : (canonicalJson floatRepr a).toList ++ c :: t =
      (canonicalJson floatRepr b).toList ++ c' :: t') : ∃ c, Opens a c ∧ Opens b c := by
  obtain ⟨d, rest, ha, hopens⟩ := canonicalJson_opens a hfloat
  obtain ⟨d', rest', hb, hopens'⟩ := canonicalJson_opens b hfloat
  rw [ha, hb, List.cons_append, List.cons_append, List.cons.injEq] at h
  obtain ⟨rfl, -⟩ := h
  exact ⟨d, hopens, hopens'⟩

/-- Numbers with one text are the same number. -/
theorem number_same {a b : Json} {d : Char} (hfloat : FloatTexts floatRepr)
    (ha : Opens a d) (hb : Opens b d) (hnumber : numberChar d = true)
    (h : canonicalJson floatRepr a = canonicalJson floatRepr b) : a.Same b := by
  have hint : ∀ (n : ℤ) (q : ℚ), toString n ≠ floatRepr q := by
    intro n q heq
    have hmarked := hfloat.marked q
    rw [← heq] at hmarked
    obtain hmark | hmark := hmarked
    · exact (intText_unmarked n).1 hmark
    · exact (intText_unmarked n).2 hmark
  have hother : ∀ value, Opens value d → (∃ n, value = .int n) ∨ ∃ q, value = .float q := by
    intro value hopens
    cases value with
    | int n => exact .inl ⟨n, rfl⟩
    | float q => exact .inr ⟨q, rfl⟩
    | bool b => cases b <;> (subst hopens; cases hnumber)
    | _ => subst hopens; cases hnumber
  obtain ⟨n, rfl⟩ | ⟨q, rfl⟩ := hother a ha <;> obtain ⟨n', rfl⟩ | ⟨q', rfl⟩ := hother b hb <;>
    simp only [canonicalJson] at h
  · rw [intText_injective h]
    exact Json.Same.refl _
  · exact absurd h (hint n q')
  · exact absurd h.symm (hint n' q)
  · rw [hfloat.injective h]
    exact Json.Same.refl _

/-- The text of a number is read up to the character after it. -/
theorem numberText_cancel {a b : Json} {c c' d : Char} {t t' : List Char}
    (hfloat : FloatTexts floatRepr) (ha : Opens a d) (hb : Opens b d)
    (hnumber : numberChar d = true) (hc : Stops c) (hc' : Stops c')
    (h : (canonicalJson floatRepr a).toList ++ c :: t =
      (canonicalJson floatRepr b).toList ++ c' :: t') : a.Same b ∧ c :: t = c' :: t' := by
  have hchars : ∀ value, Opens value d →
      ∀ c ∈ (canonicalJson floatRepr value).toList, numberChar c = true := by
    intro value hopens
    cases value with
    | int n =>
      rw [canonicalJson]
      exact intText_numberChar n
    | float q =>
      rw [canonicalJson]
      exact hfloat.chars q
    | bool b => cases b <;> (subst hopens; cases hnumber)
    | _ => subst hopens; cases hnumber
  obtain ⟨htext, ht⟩ := number_cancel (hchars a ha) (hchars b hb) hc hc' h
  exact ⟨number_same hfloat ha hb hnumber (String.toList_inj.mp htext), ht⟩

/-- Canonical texts are read up to the comma or the bracket after them, and values with one
canonical text are the same. -/
theorem canonicalJson_cancel (hfloat : FloatTexts floatRepr) (a : Json) : ∀ (b : Json) (c c' : Char)
    (t t' : List Char), Stops c → Stops c' →
    (canonicalJson floatRepr a).toList ++ c :: t =
      (canonicalJson floatRepr b).toList ++ c' :: t' → a.Same b ∧ c :: t = c' :: t' := by
  induction a using Json.induction with
  | null =>
    intro b c c' t t' _ _ h
    obtain ⟨d, ha, hb⟩ := opens_of_text hfloat h
    subst ha
    cases b with
    | null => exact ⟨Json.Same.refl _, List.append_cancel_left h⟩
    | bool b => cases b <;> cases hb
    | _ => cases hb
  | bool x =>
    intro b c c' t t' _ _ h
    obtain ⟨d, ha, hb⟩ := opens_of_text hfloat h
    cases x with
    | true =>
      subst ha
      cases b with
      | bool y =>
        cases y with
        | true => exact ⟨Json.Same.refl _, List.append_cancel_left h⟩
        | false => cases hb
      | _ => cases hb
    | false =>
      subst ha
      cases b with
      | bool y =>
        cases y with
        | true => cases hb
        | false => exact ⟨Json.Same.refl _, List.append_cancel_left h⟩
      | _ => cases hb
  | int n =>
    intro b c c' t t' hc hc' h
    obtain ⟨d, ha, hb⟩ := opens_of_text hfloat h
    exact numberText_cancel hfloat ha hb ha hc hc' h
  | float q =>
    intro b c c' t t' hc hc' h
    obtain ⟨d, ha, hb⟩ := opens_of_text hfloat h
    exact numberText_cancel hfloat ha hb ha hc hc' h
  | str s =>
    intro b c c' t t' _ _ h
    obtain ⟨d, ha, hb⟩ := opens_of_text hfloat h
    subst ha
    cases b with
    | str s' =>
      rw [canonicalJson, canonicalJson] at h
      obtain ⟨rfl, ht⟩ := quoted_selfDelimiting h
      exact ⟨Json.Same.refl _, ht⟩
    | bool b => cases b <;> cases hb
    | _ => cases hb
  | arr items ih =>
    intro b c c' t t' _ _ h
    obtain ⟨d, ha, hb⟩ := opens_of_text hfloat h
    subst ha
    cases b with
    | arr items' =>
      rw [canonicalJson_arr, canonicalJson_arr, List.cons_append, List.cons_append,
        List.cons.injEq] at h
      have hopen : ∀ (value : Json), ∃ c rest,
          (canonicalJson floatRepr value).toList = c :: rest ∧ c ≠ ']' := by
        intro value
        obtain ⟨c, rest, hchars, hopens⟩ := canonicalJson_opens value hfloat
        refine ⟨c, rest, hchars, ?_⟩
        rintro rfl
        exact hopens.not_stops (.inr (.inl rfl))
      obtain ⟨hitems, ht⟩ := listChars_cancel (R := Json.Same) (by decide) (fun a _ => hopen a)
        (fun b _ => hopen b) (fun a ha b _ c c' t t' hc hc' =>
          ih a ha b c c' t t' (hc.imp id .inl) (hc'.imp id .inl)) h.2
      refine ⟨Json.same_arr_iff.mpr ⟨hitems.length_eq, fun i => ?_⟩, ht⟩
      rw [List.forall₂_iff_get] at hitems
      by_cases hi : i < items.length
      · rw [List.getElem?_eq_getElem hi, List.getElem?_eq_getElem (hitems.1 ▸ hi)]
        exact hitems.2 i hi (hitems.1 ▸ hi)
      · rw [List.getElem?_eq_none (by omega), List.getElem?_eq_none (by omega)]
        trivial
    | bool b => cases b <;> cases hb
    | _ => cases hb
  | obj entries ih =>
    intro b c c' t t' _ _ h
    obtain ⟨d, ha, hb⟩ := opens_of_text hfloat h
    subst ha
    cases b with
    | obj entries' =>
      rw [canonicalJson_obj, canonicalJson_obj, List.cons_append, List.cons_append,
        List.cons.injEq] at h
      obtain ⟨hentries, ht⟩ := listChars_cancel
        (R := fun e e' : String × Json => e.1 = e'.1 ∧ e.2.Same e'.2) (by decide)
        (fun e _ => entryChars_opens e) (fun e _ => entryChars_opens e)
        (fun e he e' _ c c' t t' hc hc' heq => by
          rw [entryChars, entryChars, List.append_assoc, List.append_assoc] at heq
          obtain ⟨hkey, hvalue⟩ := quoted_selfDelimiting heq
          obtain ⟨hsame, hrest⟩ := ih e (mem_sortedEntries.mp he) e'.2 c c' t t' (hc.imp id .inr)
            (hc'.imp id .inr) (List.cons.inj hvalue).2
          exact ⟨⟨hkey, hsame⟩, hrest⟩) h.2
      refine ⟨Json.same_obj_iff.mpr fun name => ?_, ht⟩
      rw [← lookup_sortedEntries, ← @lookup_sortedEntries entries' name]
      exact sameOption_lookup hentries
    | bool b => cases b <;> cases hb
    | _ => cases hb

/-- Values with one canonical text are the same. -/
theorem same_of_canonicalJson {a b : Json} (hfloat : FloatTexts floatRepr)
    (h : canonicalJson floatRepr a = canonicalJson floatRepr b) : a.Same b :=
  (canonicalJson_cancel hfloat a b ',' ',' [] [] (.inl rfl) (.inl rfl) (by rw [h])).1

/-- Lists with the same texts in one order have the same texts under every key. -/
theorem lookup_texts {l l' : Document} {name : String}
    (h : List.Forall₂ (fun e e' : String × Json => e.1 = e'.1 ∧
      canonicalJson floatRepr e.2 = canonicalJson floatRepr e'.2) l l') :
    (l.lookup name).map (canonicalJson floatRepr) =
      (l'.lookup name).map (canonicalJson floatRepr) := by
  induction h with
  | nil => rfl
  | @cons e e' l l' hentry _ ih =>
    obtain ⟨key, value⟩ := e
    obtain ⟨key', value'⟩ := e'
    obtain ⟨rfl, htext⟩ := hentry
    simp only [List.lookup_cons]
    cases name == key with
    | true => exact congrArg some htext
    | false => exact ih

/-- Objects with one canonical text have values with one canonical text under every key. -/
theorem canonicalJson_obj_inj {entries entries' : Document} (hfloat : FloatTexts floatRepr)
    (h : canonicalJson floatRepr (.obj entries) = canonicalJson floatRepr (.obj entries'))
    (name : String) : (entries.lookup name).map (canonicalJson floatRepr) =
      (entries'.lookup name).map (canonicalJson floatRepr) := by
  have htexts := congrArg String.toList h
  rw [canonicalJson_obj, canonicalJson_obj, List.cons.injEq] at htexts
  have hclosed :
      listChars '\x7d' ((sortedEntries entries).map (entryChars floatRepr)) ++ [] =
        listChars '\x7d' ((sortedEntries entries').map (entryChars floatRepr)) ++ [] := by
    rw [htexts.2]
  obtain ⟨hentries, -⟩ := listChars_cancel
    (R := fun e e' : String × Json => e.1 = e'.1 ∧
      canonicalJson floatRepr e.2 = canonicalJson floatRepr e'.2)
    (by decide) (fun e _ => entryChars_opens e) (fun e _ => entryChars_opens e)
    (fun e _ e' _ c c' t t' hc hc' heq => by
      rw [entryChars, entryChars, List.append_assoc, List.append_assoc] at heq
      obtain ⟨hkey, hvalue⟩ := quoted_selfDelimiting heq
      have hvalue := (List.cons.inj hvalue).2
      obtain ⟨-, hrest⟩ := canonicalJson_cancel hfloat e.2 e'.2 c c' t t' (hc.imp id .inr)
        (hc'.imp id .inr) hvalue
      rw [hrest] at hvalue
      exact ⟨⟨hkey, String.toList_inj.mp (List.append_cancel_right hvalue)⟩, hrest⟩)
    hclosed
  rw [← lookup_sortedEntries, ← @lookup_sortedEntries entries' name]
  exact lookup_texts hentries

/-- Objects whose values have the same canonical texts under the same keys have one canonical
text. -/
theorem canonicalJson_obj_congr {names : List String} {f g : String → Json}
    (h : ∀ name ∈ names, canonicalJson floatRepr (f name) = canonicalJson floatRepr (g name)) :
    canonicalJson floatRepr (.obj (names.map fun name => (name, f name))) =
      canonicalJson floatRepr (.obj (names.map fun name => (name, g name))) := by
  have hentries : canonicalEntries floatRepr (names.map fun name => (name, f name)) =
      canonicalEntries floatRepr (names.map fun name => (name, g name)) := by
    rw [canonicalEntries_eq, canonicalEntries_eq, List.map_map, List.map_map]
    exact List.map_congr_left fun name hname => Prod.ext rfl (h name hname)
  rw [canonicalJson, canonicalJson, hentries]

end values

end ElCapitan
