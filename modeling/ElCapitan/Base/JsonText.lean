import ElCapitan.Base.CanonicalValues
import Mathlib.Data.List.TakeWhile

/-!
# JSON texts

`json.loads`: the reader of JSON texts, and what it makes of a canonical text. It gives the
value back, with the entries of every object in the order of their keys. A lone surrogate is
no text here, and `NaN` and the infinities are no numbers.
-/

namespace ElCapitan

section lexical

/-- The blanks between the tokens. -/
def isBlank (c : Char) : Bool := c = ' ' ∨ c = '\t' ∨ c = '\n' ∨ c = '\r'

/-- The text behind the blanks at its beginning. -/
def skipBlanks (text : List Char) : List Char := text.dropWhile isBlank

/-- Read a string after its quote. -/
def readString : ℕ → List Char → Option (List Char × List Char)
  | 0, _ => none
  | _ + 1, [] => none
  | fuel + 1, c :: rest =>
    if c = '"' then some ([], rest)
    else do
      let (first, rest) ← readStringChar (c :: rest)
      let (others, rest) ← readString fuel rest
      return (first :: others, rest)

/-- Digits without a leading zero. -/
def isNaturalText : List Char → Bool
  | [] => false
  | [c] => c.isDigit
  | c :: rest => c ≠ '0' ∧ c.isDigit ∧ rest.all Char.isDigit

/-- The text of an integer. -/
def isIntegerText : List Char → Bool
  | '-' :: rest => isNaturalText rest
  | text => isNaturalText text

/-- An exponent, from its `e` on. -/
def isExponentText : List Char → Bool
  | c :: rest =>
    let digits := match rest with
      | sign :: digits => if sign = '+' ∨ sign = '-' then digits else rest
      | [] => rest
    (c = 'e' ∨ c = 'E') ∧ digits ≠ [] ∧ digits.all Char.isDigit
  | [] => false

/-- A fraction, an exponent or both. -/
def isMarkText : List Char → Bool
  | '.' :: rest =>
    rest.takeWhile Char.isDigit ≠ [] ∧
      (rest.dropWhile Char.isDigit = [] ∨ isExponentText (rest.dropWhile Char.isDigit))
  | text => isExponentText text

/-- The text of a float: an integer with a mark of a float. -/
def isFloatText (text : List Char) : Bool :=
  isIntegerText (text.takeWhile fun c => c.isDigit || c == '-') ∧
    isMarkText (text.dropWhile fun c => c.isDigit || c == '-')

/-- The integer of a text. -/
def integerOf : List Char → ℤ
  | '-' :: digits => -(Nat.ofDigitChars 10 digits 0 : ℤ)
  | digits => Nat.ofDigitChars 10 digits 0

/-- The characters of a number, with both spellings of an exponent. -/
def isNumberChar (c : Char) : Bool := numberChar c || c == 'E'

end lexical

section reader

variable (floatOf : String → ℚ)

/-- Read a number, where `float` reads the text of a float. -/
def readNumber (text : List Char) : Option (Json × List Char) :=
  let number := text.takeWhile isNumberChar
  let rest := text.dropWhile isNumberChar
  if isIntegerText number then some (.int (integerOf number), rest)
  else if isFloatText number then some (.float (floatOf (String.ofList number)), rest)
  else none

/-- `dict(pairs)`: a later value replaces an earlier one. -/
def dictOfPairs (pairs : Document) : Document :=
  pairs.foldl (fun entries pair => Document.set entries pair.1 pair.2) []

mutual

/-- Read a value. -/
def readValue : ℕ → List Char → Option (Json × List Char)
  | 0, _ => none
  | _ + 1, '"' :: rest => do
    let (text, rest) ← readString (rest.length + 1) rest
    return (.str (String.ofList text), rest)
  | fuel + 1, '[' :: rest =>
    match skipBlanks rest with
    | ']' :: rest => some (.arr [], rest)
    | text => do
      let (items, rest) ← readItems fuel text
      return (.arr items, rest)
  | fuel + 1, '\x7b' :: rest =>
    match skipBlanks rest with
    | '\x7d' :: rest => some (.obj [], rest)
    | text => do
      let (pairs, rest) ← readPairs fuel text
      return (.obj (dictOfPairs pairs), rest)
  | _ + 1, 'n' :: 'u' :: 'l' :: 'l' :: rest => some (.null, rest)
  | _ + 1, 't' :: 'r' :: 'u' :: 'e' :: rest => some (.bool true, rest)
  | _ + 1, 'f' :: 'a' :: 'l' :: 's' :: 'e' :: rest => some (.bool false, rest)
  | _ + 1, text => readNumber floatOf text

/-- Read the items of an array up to its bracket. -/
def readItems : ℕ → List Char → Option (List Json × List Char)
  | 0, _ => none
  | fuel + 1, text => do
    let (item, rest) ← readValue fuel text
    match skipBlanks rest with
    | ',' :: rest => do
      let (items, rest) ← readItems fuel (skipBlanks rest)
      return (item :: items, rest)
    | ']' :: rest => some ([item], rest)
    | _ => none

/-- Read the pairs of an object up to its bracket. -/
def readPairs : ℕ → List Char → Option (Document × List Char)
  | 0, _ => none
  | fuel + 1, text =>
    match text with
    | '"' :: text => do
      let (name, rest) ← readString (text.length + 1) text
      match skipBlanks rest with
      | ':' :: rest => do
        let (value, rest) ← readValue fuel (skipBlanks rest)
        match skipBlanks rest with
        | ',' :: rest => do
          let (pairs, rest) ← readPairs fuel (skipBlanks rest)
          return ((String.ofList name, value) :: pairs, rest)
        | '\x7d' :: rest => some ([(String.ofList name, value)], rest)
        | _ => none
      | _ => none
    | _ => none

end

/-- `json.loads`; `none` stands for `JSONDecodeError`. -/
def readJson (text : String) : Option Json := do
  let (value, rest) ← readValue floatOf (text.toList.length + 1) (skipBlanks text.toList)
  if skipBlanks rest = [] then some value else none

end reader

section strings

/-- Every character is written as some text. -/
theorem escapeChar_ne_nil (c : Char) : (escapeChar c).toList ≠ [] := by
  intro h
  have hread := readStringChar_escapeChar c []
  rw [h] at hread
  cases hread

/-- A string literal is at least as long as its text. -/
theorem length_literalChars (s : List Char) : s.length ≤ (literalChars s).length := by
  unfold literalChars
  induction s with
  | nil => simp
  | cons c s ih =>
    have hne := List.length_pos_iff.mpr (escapeChar_ne_nil c)
    rw [List.flatMap_cons, List.length_append, List.length_cons]
    omega

/-- A string is read back from its literal. -/
theorem readString_literal {s rest : List Char} {fuel : ℕ} (hfuel : s.length < fuel) :
    readString fuel (literalChars s ++ '"' :: rest) = some (s, rest) := by
  induction s generalizing fuel with
  | nil =>
    obtain ⟨fuel, rfl⟩ : ∃ n, fuel = n + 1 := ⟨fuel - 1, by omega⟩
    rfl
  | cons c s ih =>
    obtain ⟨fuel, rfl⟩ : ∃ n, fuel = n + 1 := ⟨fuel - 1, by omega⟩
    have hread := readStringChar_escapeChar c (literalChars s ++ '"' :: rest)
    have hquote := escapeChar_ne_quote c (literalChars s ++ '"' :: rest)
    have htext : literalChars (c :: s) ++ '"' :: rest =
        (escapeChar c).toList ++ (literalChars s ++ '"' :: rest) := by
      unfold literalChars
      rw [List.flatMap_cons, List.append_assoc]
    rw [htext]
    cases hchars : (escapeChar c).toList ++ (literalChars s ++ '"' :: rest) with
    | nil => simp at hchars
    | cons d more =>
      rw [hchars] at hread hquote
      have hd : d ≠ '"' := fun heq => hquote more (by rw [heq])
      rw [List.length_cons] at hfuel
      rw [readString, if_neg hd, hread]
      simp only [Option.bind_eq_bind, Option.bind_some]
      rw [ih (by omega)]
      rfl

end strings

section numbers

/-- What may follow a value: nothing, or a comma or a closing bracket. -/
def Ended (rest : List Char) : Prop := ∀ c t, rest = c :: t → Stops c

/-- Nothing follows at the end of a text. -/
theorem ended_nil : Ended [] := by
  rintro c t ⟨⟩

/-- A text is ended by a character that stops a number. -/
theorem ended_cons {c : Char} {t : List Char} (h : Stops c) : Ended (c :: t) := by
  rintro c' t' heq
  obtain ⟨rfl, -⟩ := List.cons.inj heq
  exact h

/-- A character that stops a number is none of a number. -/
theorem Stops.not_isNumberChar {c : Char} (h : Stops c) : isNumberChar c = false := by
  obtain rfl | rfl | rfl := h <;> decide

/-- A number ends where the value ends. -/
theorem span_number {number rest : List Char} (hnumber : ∀ c ∈ number, isNumberChar c = true)
    (hrest : Ended rest) : (number ++ rest).takeWhile isNumberChar = number ∧
      (number ++ rest).dropWhile isNumberChar = rest := by
  rw [List.takeWhile_append_of_pos hnumber, List.dropWhile_append_of_pos hnumber]
  cases rest with
  | nil => simp
  | cons c t =>
    have hc := (hrest c t rfl).not_isNumberChar
    simp [hc]

/-- The digits of a positive number do not begin with a zero. -/
theorem toDigits_head {m : ℕ} (hm : 0 < m) :
    ∃ c rest, Nat.toDigits 10 m = c :: rest ∧ c ≠ '0' := by
  induction m using Nat.strong_induction_on with
  | _ m ih =>
    by_cases hsmall : m < 10
    · refine ⟨m.digitChar, [], Nat.toDigits_of_lt_base hsmall, ?_⟩
      interval_cases m <;> decide
    · obtain ⟨c, rest, hdigits, hc⟩ := ih (m / 10) (by omega) (by omega)
      rw [Nat.toDigits_of_base_le (by decide) (by omega), hdigits]
      exact ⟨c, _, rfl, hc⟩

/-- The text of a natural number is one that JSON has for it. -/
theorem natText_natural (m : ℕ) : isNaturalText (toString m).toList = true := by
  have hdigits := natText_chars m
  rw [Nat.toString_eq_ofList_toDigits, String.toList_ofList] at hdigits ⊢
  by_cases hm : m = 0
  · subst hm
    rfl
  · obtain ⟨c, rest, htext, hc⟩ := toDigits_head (Nat.pos_of_ne_zero hm)
    rw [htext] at hdigits ⊢
    obtain ⟨hfirst, hrest⟩ := List.forall_mem_cons.mp hdigits
    cases rest with
    | nil => exact hfirst
    | cons d rest =>
      unfold isNaturalText
      simp only [decide_eq_true_eq]
      exact ⟨hc, hfirst, List.all_eq_true.mpr hrest⟩

/-- The text of a negative number is a minus sign and the digits of its absolute value. -/
theorem negText (m : ℕ) : (toString (Int.negSucc m)).toList = '-' :: (toString (m + 1)).toList := by
  change ("-" ++ toString (m + 1)).toList = _
  rw [String.toList_append]
  rfl

/-- The text of a natural number has no sign. -/
theorem natText_unsigned (m : ℕ) (rest : List Char) : (toString m).toList ≠ '-' :: rest := by
  intro h
  have hdigit := natText_chars m '-' (by rw [h]; exact List.mem_cons_self)
  exact absurd hdigit (by decide)

/-- The text of an integer is one that JSON has for it. -/
theorem intText_integer (n : ℤ) : isIntegerText (toString n).toList = true := by
  cases n with
  | ofNat m =>
    change isIntegerText (toString m).toList = true
    unfold isIntegerText
    split
    · rename_i rest htext
      exact absurd htext (natText_unsigned m rest)
    · exact natText_natural m
  | negSucc m =>
    rw [negText]
    exact natText_natural (m + 1)

/-- An integer is read back from its text. -/
theorem integerOf_text (n : ℤ) : integerOf (toString n).toList = n := by
  have hvalue : ∀ m : ℕ, (Nat.ofDigitChars 10 (toString m).toList 0 : ℤ) = m := by
    intro m
    rw [Nat.toString_eq_ofList_toDigits, String.toList_ofList, Nat.ofDigitChars_ten_toDigits]
  cases n with
  | ofNat m =>
    change integerOf (toString m).toList = (m : ℤ)
    unfold integerOf
    split
    · rename_i rest htext
      exact absurd htext (natText_unsigned m rest)
    · exact hvalue m
  | negSucc m =>
    rw [negText, integerOf, hvalue]
    rfl

/-- What the text of a float is: it is read as one, and as the float it is the text of. -/
structure FloatReads (floatRepr : ℚ → String) (floatOf : String → ℚ) (q : ℚ) : Prop where
  text : isFloatText (floatRepr q).toList = true
  value : floatOf (floatRepr q) = q

/-- An exponent is made of characters of numbers. -/
theorem isExponentText_chars {text : List Char} (h : isExponentText text = true) :
    ∀ c ∈ text, isNumberChar c = true := by
  have hdigit : ∀ c : Char, c.isDigit = true → isNumberChar c = true := by
    intro c hc
    simp [isNumberChar, numberChar, hc]
  unfold isExponentText at h
  split at h
  · rename_i c rest
    simp only [decide_eq_true_eq] at h
    obtain ⟨hmark, -, hdigits⟩ := h
    rw [List.forall_mem_cons]
    refine ⟨by obtain rfl | rfl := hmark <;> decide, ?_⟩
    split at hdigits
    · rename_i sign digits
      split at hdigits
      · rename_i hsign
        rw [List.forall_mem_cons]
        refine ⟨by obtain rfl | rfl := hsign <;> decide, ?_⟩
        exact fun c hc => hdigit c (List.all_eq_true.mp hdigits c hc)
      · exact fun c hc => hdigit c (List.all_eq_true.mp hdigits c hc)
    · rintro c ⟨⟩
  · cases h

/-- A float is made of characters of numbers. -/
theorem isFloatText_chars {text : List Char} (h : isFloatText text = true) :
    ∀ c ∈ text, isNumberChar c = true := by
  unfold isFloatText at h
  rw [decide_eq_true_eq] at h
  obtain ⟨-, hmark⟩ := h
  intro c hc
  rw [← List.takeWhile_append_dropWhile (p := fun c => c.isDigit || c == '-') (l := text),
    List.mem_append] at hc
  obtain hwhole | hrest := hc
  · have hchar := List.mem_takeWhile_imp hwhole
    simp only [Bool.or_eq_true, beq_iff_eq] at hchar
    obtain hdigit | rfl := hchar
    · simp [isNumberChar, numberChar, hdigit]
    · decide
  · revert hrest
    generalize text.dropWhile (fun c => c.isDigit || c == '-') = mark at hmark
    intro hrest
    unfold isMarkText at hmark
    split at hmark
    · rename_i rest
      simp only [decide_eq_true_eq] at hmark
      obtain ⟨-, hexponent⟩ := hmark
      obtain rfl | hrest := List.mem_cons.mp hrest
      · decide
      · rw [← List.takeWhile_append_dropWhile (p := Char.isDigit) (l := rest),
          List.mem_append] at hrest
        obtain hdigits | hrest := hrest
        · have hdigit := List.mem_takeWhile_imp hdigits
          simp [isNumberChar, numberChar, hdigit]
        · obtain hnil | hexponent := hexponent
          · rw [hnil] at hrest
            cases hrest
          · exact isExponentText_chars hexponent c hrest
    · exact isExponentText_chars hmark c hrest

/-- No float has the text of an integer. -/
theorem isFloatText_not_integer {text : List Char} (h : isFloatText text = true) :
    isIntegerText text = false := by
  by_contra hinteger
  rw [Bool.not_eq_false] at hinteger
  have hnatural : ∀ digits, isNaturalText digits = true → ∀ c ∈ digits, c.isDigit = true := by
    intro digits hdigits
    unfold isNaturalText at hdigits
    split at hdigits
    · cases hdigits
    · rw [List.forall_mem_singleton]
      exact hdigits
    · rw [decide_eq_true_eq] at hdigits
      exact List.forall_mem_cons.mpr ⟨hdigits.2.1, List.all_eq_true.mp hdigits.2.2⟩
  have hchars : ∀ c ∈ text, (c.isDigit || c == '-') = true := by
    unfold isIntegerText at hinteger
    split at hinteger
    · rw [List.forall_mem_cons]
      exact ⟨by decide, fun c hc => by simp [hnatural _ hinteger c hc]⟩
    · exact fun c hc => by simp [hnatural _ hinteger c hc]
  unfold isFloatText at h
  rw [decide_eq_true_eq, List.dropWhile_eq_nil_iff.mpr hchars] at h
  cases h.2

variable {floatRepr : ℚ → String} {floatOf : String → ℚ} {rest : List Char}

/-- The text of an integer is read up to where it ends. -/
theorem readNumber_int (n : ℤ) (hrest : Ended rest) :
    readNumber floatOf ((toString n).toList ++ rest) = some (.int n, rest) := by
  have hchars : ∀ c ∈ (toString n).toList, isNumberChar c = true := by
    intro c hc
    simp [isNumberChar, intText_numberChar n c hc]
  obtain ⟨hnumber, hdrop⟩ := span_number hchars hrest
  unfold readNumber
  rw [hnumber, hdrop, if_pos (intText_integer n), integerOf_text]

/-- The text of a float is read up to where it ends. -/
theorem readNumber_float {q : ℚ} (hq : FloatReads floatRepr floatOf q) (hrest : Ended rest) :
    readNumber floatOf ((floatRepr q).toList ++ rest) = some (.float q, rest) := by
  obtain ⟨hnumber, hdrop⟩ := span_number (isFloatText_chars hq.text) hrest
  unfold readNumber
  dsimp only
  rw [hnumber, hdrop, isFloatText_not_integer hq.text, if_neg (by decide), if_pos hq.text,
    String.ofList_toList, hq.value]

end numbers

section values

/-- A value whose floats can be read back and whose objects have one entry for a key, as the
dictionaries of the source have. -/
inductive Json.Readable (reads : ℚ → Prop) : Json → Prop
  | null : Readable reads .null
  | bool (b : Bool) : Readable reads (.bool b)
  | int (n : ℤ) : Readable reads (.int n)
  | float (q : ℚ) (hq : reads q) : Readable reads (.float q)
  | str (s : String) : Readable reads (.str s)
  | arr (items : List Json) (hitems : ∀ item ∈ items, Readable reads item) :
    Readable reads (.arr items)
  | obj (entries : Document) (hkeys : (entries.map Prod.fst).Nodup)
    (hentries : ∀ entry ∈ entries, Readable reads entry.2) : Readable reads (.obj entries)

mutual

/-- A value with the entries of every object in the order of their keys. -/
def Json.sorted : Json → Json
  | .null => .null
  | .bool b => .bool b
  | .int n => .int n
  | .float q => .float q
  | .str s => .str s
  | .arr items => .arr (sortedItems items)
  | .obj entries => .obj (sortedEntries (sortedValues entries))

/-- The items of an array with sorted objects. -/
def sortedItems : List Json → List Json
  | [] => []
  | item :: items => item.sorted :: sortedItems items

/-- The entries of an object with sorted objects. -/
def sortedValues : Document → Document
  | [] => []
  | (name, value) :: entries => (name, value.sorted) :: sortedValues entries

end

/-- The keys are sorted in each item of a list. -/
theorem sortedItems_eq (items : List Json) : sortedItems items = items.map Json.sorted := by
  induction items with
  | nil => rfl
  | cons item items ih => rw [sortedItems, ih, List.map_cons]

/-- The keys are sorted in each value of an object. -/
theorem sortedValues_eq (entries : Document) :
    sortedValues entries = entries.map fun entry => (entry.1, entry.2.sorted) := by
  induction entries with
  | nil => rfl
  | cons entry entries ih =>
    obtain ⟨name, value⟩ := entry
    rw [sortedValues, ih, List.map_cons]

/-- Sorting the values before or after the keys makes no difference. -/
theorem sortedEntries_map {f : Json → Json} (entries : Document) :
    sortedEntries (entries.map fun entry => (entry.1, f entry.2)) =
      (sortedEntries entries).map fun entry => (entry.1, f entry.2) := by
  have hinsert : ∀ (entry : String × Json) (l : Document),
      insertByKey (entry.1, f entry.2) (l.map fun entry => (entry.1, f entry.2)) =
        (insertByKey entry l).map fun entry => (entry.1, f entry.2) := by
    intro entry l
    induction l with
    | nil => rfl
    | cons head rest ih =>
      rw [List.map_cons, insertByKey, insertByKey]
      split
      · rfl
      · rw [ih, List.map_cons]
  induction entries with
  | nil => rfl
  | cons entry entries ih =>
    rw [List.map_cons]
    unfold sortedEntries at ih ⊢
    rw [List.foldr_cons, List.foldr_cons, ih]
    exact hinsert entry _

/-- The order of the entries of an object. -/
def keyBefore (a b : String × Json) : Prop := a.1 ≤ b.1

instance : DecidableRel keyBefore := fun a b => inferInstanceAs (Decidable (a.1 ≤ b.1))

instance : Std.Total keyBefore := ⟨fun a b => String.le_total a.1 b.1⟩

instance : IsTrans (String × Json) keyBefore := ⟨fun _ _ _ hab hbc => String.le_trans hab hbc⟩

/-- The entries of an object are sorted by insertion. -/
theorem sortedEntries_eq (entries : Document) :
    sortedEntries entries = entries.insertionSort keyBefore := by
  have hinsert : ∀ (entry : String × Json) (l : Document),
      insertByKey entry l = l.orderedInsert keyBefore entry := by
    intro entry l
    induction l with
    | nil => rfl
    | cons head rest ih =>
      rw [insertByKey, List.orderedInsert_cons, ih]
      rfl
  induction entries with
  | nil => rfl
  | cons entry entries ih =>
    rw [List.insertionSort_cons, ← ih]
    exact hinsert entry _

/-- Sorting moves the entries of an object. -/
theorem perm_sortedEntries (entries : Document) : (sortedEntries entries).Perm entries := by
  rw [sortedEntries_eq]
  exact List.perm_insertionSort _ _

/-- Sorted entries are in order already. -/
theorem sortedEntries_idem (entries : Document) :
    sortedEntries (sortedEntries entries) = sortedEntries entries := by
  rw [sortedEntries_eq, sortedEntries_eq]
  exact (List.pairwise_insertionSort keyBefore entries).insertionSort_eq

/-- Pairs with distinct keys are the entries of their dictionary. -/
theorem dictOfPairs_eq {pairs : Document} (hkeys : (pairs.map Prod.fst).Nodup) :
    dictOfPairs pairs = pairs := by
  have hfold : ∀ pairs held : Document, ((held ++ pairs).map Prod.fst).Nodup →
      pairs.foldl (fun entries pair => Document.set entries pair.1 pair.2) held =
        held ++ pairs := by
    intro pairs
    induction pairs with
    | nil => simp
    | cons pair pairs ih =>
      intro held hkeys
      have hfree : held.lookup pair.1 = none := by
        rw [List.lookup_eq_none_iff]
        intro entry hentry
        rw [List.map_append, List.nodup_append] at hkeys
        obtain ⟨-, -, hdisjoint⟩ := hkeys
        have hne := hdisjoint entry.1 (List.mem_map_of_mem hentry) pair.1
          (by rw [List.map_cons]; exact List.mem_cons_self)
        simpa using Ne.symm hne
      have hset : Document.set held pair.1 pair.2 = held ++ [pair] := by
        unfold Document.set
        rw [hfree]
        rfl
      rw [List.foldl_cons, hset]
      have happend : held ++ pair :: pairs = (held ++ [pair]) ++ pairs := by simp
      rw [happend] at hkeys ⊢
      exact ih _ hkeys
  exact hfold pairs [] hkeys

variable {floatRepr : ℚ → String} {floatOf : String → ℚ}

/-- Canonical texts do not depend on the order of the entries. -/
theorem canonicalJson_sorted (value : Json) :
    canonicalJson floatRepr value.sorted = canonicalJson floatRepr value := by
  induction value using Json.induction with
  | arr items ih =>
    have htexts : ∀ item ∈ items, (canonicalJson floatRepr ∘ Json.sorted) item =
        canonicalJson floatRepr item := ih
    rw [Json.sorted, sortedItems_eq, canonicalJson, canonicalJson, canonicalItems_eq,
      canonicalItems_eq, List.map_map, List.map_congr_left htexts]
  | obj entries ih =>
    apply String.toList_inj.mp
    rw [Json.sorted, sortedValues_eq, canonicalJson_obj, canonicalJson_obj, sortedEntries_map,
      sortedEntries_map, sortedEntries_idem, List.map_map]
    congr 2
    apply List.map_congr_left
    intro entry hentry
    unfold entryChars
    dsimp only [Function.comp_apply]
    rw [ih entry (mem_sortedEntries.mp hentry)]
  | _ => rfl

/-- No value begins with a blank. -/
theorem Opens.not_blank {value : Json} {c : Char} (h : Opens value c) : isBlank c = false := by
  have hnumber : ∀ c : Char, numberChar c = true → isBlank c = false := by
    intro c hc
    by_contra hblank
    rw [Bool.not_eq_false] at hblank
    unfold isBlank at hblank
    rw [decide_eq_true_eq] at hblank
    obtain rfl | rfl | rfl | rfl := hblank <;> exact absurd hc (by decide)
  cases value with
  | bool b => cases b <;> (subst h; decide)
  | int n => exact hnumber c h
  | float q => exact hnumber c h
  | _ => subst h; decide

/-- A value is read back from its canonical text, whatever follows it. -/
structure TextReads (floatRepr : ℚ → String) (floatOf : String → ℚ) (value : Json) : Prop where
  opens : ∃ c more, (canonicalJson floatRepr value).toList = c :: more ∧ Opens value c
  reads : ∀ fuel rest, (canonicalJson floatRepr value).toList.length ≤ fuel → Ended rest →
    readValue floatOf (fuel + 1) ((canonicalJson floatRepr value).toList ++ rest) =
      some (value.sorted, rest)

/-- What begins like a value begins with no blank. -/
theorem TextReads.skipBlanks {value : Json} (h : TextReads floatRepr floatOf value)
    (rest : List Char) : skipBlanks ((canonicalJson floatRepr value).toList ++ rest) =
      (canonicalJson floatRepr value).toList ++ rest := by
  obtain ⟨c, more, htext, hopens⟩ := h.opens
  unfold ElCapitan.skipBlanks
  rw [htext, List.cons_append, List.dropWhile_cons_of_neg]
  rw [hopens.not_blank]
  decide

/-- After an item and a comma the next item is read. -/
theorem readItems_comma {fuel : ℕ} {text rest : List Char} {item : Json}
    (h : readValue floatOf fuel text = some (item, ',' :: rest)) :
    readItems floatOf (fuel + 1) text =
      (readItems floatOf fuel (skipBlanks rest)).map fun read => (item :: read.1, read.2) := by
  rw [readItems, h]
  change (readItems floatOf fuel (skipBlanks rest)).bind _ = _
  cases readItems floatOf fuel (skipBlanks rest) <;> rfl

/-- The last item of a list is read up to the closing bracket. -/
theorem readItems_close {fuel : ℕ} {text rest : List Char} {item : Json}
    (h : readValue floatOf fuel text = some (item, ']' :: rest)) :
    readItems floatOf (fuel + 1) text = some ([item], rest) := by
  rw [readItems, h]
  rfl

/-- The items of an array are read up to its bracket. -/
theorem readItems_canonical {items : List Json} (hne : items ≠ [])
    (hitems : ∀ item ∈ items, TextReads floatRepr floatOf item) :
    ∀ fuel rest,
      (listChars ']' (items.map fun item => (canonicalJson floatRepr item).toList)).length ≤ fuel →
      readItems floatOf (fuel + 1)
          (listChars ']' (items.map fun item => (canonicalJson floatRepr item).toList) ++ rest) =
        some (items.map Json.sorted, rest) ∧
      skipBlanks
          (listChars ']' (items.map fun item => (canonicalJson floatRepr item).toList) ++ rest) =
        listChars ']' (items.map fun item => (canonicalJson floatRepr item).toList) ++ rest := by
  induction items with
  | nil => exact absurd rfl hne
  | cons item items ih =>
    intro fuel rest hfuel
    obtain ⟨hitem, hitems⟩ := List.forall_mem_cons.mp hitems
    cases items with
    | nil =>
      simp only [List.map_cons, List.map_nil, listChars, List.length_append,
        List.length_singleton, List.append_assoc, List.singleton_append] at hfuel ⊢
      obtain ⟨fuel, rfl⟩ : ∃ n, fuel = n + 1 := ⟨fuel - 1, by omega⟩
      refine ⟨readItems_close ?_, hitem.skipBlanks _⟩
      exact hitem.reads fuel (']' :: rest) (by omega) (ended_cons (.inr (.inl rfl)))
    | cons next items =>
      simp only [List.map_cons, listChars, List.length_append, List.length_cons,
        List.append_assoc, List.cons_append] at hfuel ⊢
      obtain ⟨fuel, rfl⟩ : ∃ n, fuel = n + 1 := ⟨fuel - 1, by omega⟩
      have hfirst := hitem.reads fuel (',' :: (listChars ']'
        ((canonicalJson floatRepr next).toList ::
        items.map fun item => (canonicalJson floatRepr item).toList) ++ rest)) (by omega)
        (ended_cons (.inl rfl))
      obtain ⟨hrest, hskip⟩ := ih (by simp) hitems fuel rest (by
        simp only [List.map_cons]
        omega)
      rw [List.map_cons] at hrest hskip
      refine ⟨?_, hitem.skipBlanks _⟩
      rw [readItems_comma hfirst, hskip, hrest]
      rfl

/-- After a pair and a comma the next pair is read. -/
theorem readPairs_comma {fuel : ℕ} {name text rest : List Char} {value : Json}
    (h : readValue floatOf fuel (skipBlanks text) = some (value, ',' :: rest)) :
    readPairs floatOf (fuel + 1) ('"' :: literalChars name ++ '"' :: ':' :: text) =
      (readPairs floatOf fuel (skipBlanks rest)).map fun read =>
        ((String.ofList name, value) :: read.1, read.2) := by
  have hname : readString ((literalChars name ++ '"' :: ':' :: text).length + 1)
      (literalChars name ++ '"' :: ':' :: text) = some (name, ':' :: text) := by
    apply readString_literal
    have hlength := length_literalChars name
    rw [List.length_append]
    omega
  rw [List.cons_append, readPairs, hname]
  change (readValue floatOf fuel (skipBlanks text)).bind _ = _
  rw [h]
  change (readPairs floatOf fuel (skipBlanks rest)).bind _ = _
  cases readPairs floatOf fuel (skipBlanks rest) <;> rfl

/-- The last entry of an object is read up to the closing brace. -/
theorem readPairs_close {fuel : ℕ} {name text rest : List Char} {value : Json}
    (h : readValue floatOf fuel (skipBlanks text) = some (value, '\x7d' :: rest)) :
    readPairs floatOf (fuel + 1) ('"' :: literalChars name ++ '"' :: ':' :: text) =
      some ([(String.ofList name, value)], rest) := by
  have hname : readString ((literalChars name ++ '"' :: ':' :: text).length + 1)
      (literalChars name ++ '"' :: ':' :: text) = some (name, ':' :: text) := by
    apply readString_literal
    have hlength := length_literalChars name
    rw [List.length_append]
    omega
  rw [List.cons_append, readPairs, hname]
  change (readValue floatOf fuel (skipBlanks text)).bind _ = _
  rw [h]
  rfl

/-- The text of an entry, with what follows it. -/
theorem entryChars_append (entry : String × Json) (rest : List Char) :
    entryChars floatRepr entry ++ rest = '"' :: literalChars entry.1.toList ++
      '"' :: ':' :: ((canonicalJson floatRepr entry.2).toList ++ rest) := by
  unfold entryChars
  rw [quoted_toList]
  simp only [List.append_assoc, List.cons_append, List.nil_append]

/-- An entry of an object does not begin with a blank. -/
theorem skipBlanks_entry (entry : String × Json) (rest : List Char) :
    skipBlanks (entryChars floatRepr entry ++ rest) = entryChars floatRepr entry ++ rest := by
  rw [entryChars_append]
  rfl

/-- The entries of an object are read up to its bracket. -/
theorem readPairs_canonical {entries : Document} (hne : entries ≠ [])
    (hentries : ∀ entry ∈ entries, TextReads floatRepr floatOf entry.2) :
    ∀ fuel rest, (listChars '\x7d' (entries.map (entryChars floatRepr))).length ≤ fuel →
      readPairs floatOf (fuel + 1) (listChars '\x7d' (entries.map (entryChars floatRepr)) ++ rest) =
        some (entries.map fun entry => (entry.1, entry.2.sorted), rest) ∧
      skipBlanks (listChars '\x7d' (entries.map (entryChars floatRepr)) ++ rest) =
        listChars '\x7d' (entries.map (entryChars floatRepr)) ++ rest := by
  have hlength : ∀ entry : String × Json,
      (canonicalJson floatRepr entry.2).toList.length + 1 ≤
        (entryChars floatRepr entry).length := by
    intro entry
    unfold entryChars
    rw [List.length_append, List.length_cons]
    omega
  induction entries with
  | nil => exact absurd rfl hne
  | cons entry entries ih =>
    intro fuel rest hfuel
    obtain ⟨hentry, hentries⟩ := List.forall_mem_cons.mp hentries
    have hshort := hlength entry
    cases entries with
    | nil =>
      simp only [List.map_cons, List.map_nil, listChars, List.length_append,
        List.length_singleton, List.append_assoc, List.singleton_append] at hfuel ⊢
      obtain ⟨fuel, rfl⟩ : ∃ n, fuel = n + 1 := ⟨fuel - 1, by omega⟩
      have hvalue := hentry.reads fuel ('\x7d' :: rest) (by omega) (ended_cons (.inr (.inr rfl)))
      rw [← hentry.skipBlanks] at hvalue
      refine ⟨?_, skipBlanks_entry entry _⟩
      rw [entryChars_append, readPairs_close hvalue, String.ofList_toList]
    | cons next entries =>
      simp only [List.map_cons, listChars, List.length_append, List.length_cons,
        List.append_assoc, List.cons_append] at hfuel ⊢
      obtain ⟨fuel, rfl⟩ : ∃ n, fuel = n + 1 := ⟨fuel - 1, by omega⟩
      have hvalue := hentry.reads fuel (',' :: (listChars '\x7d' (entryChars floatRepr next ::
        entries.map (entryChars floatRepr)) ++ rest)) (by omega) (ended_cons (.inl rfl))
      rw [← hentry.skipBlanks] at hvalue
      obtain ⟨hrest, hskip⟩ := ih (by simp) hentries fuel rest (by
        simp only [List.map_cons]
        omega)
      rw [List.map_cons] at hrest hskip
      refine ⟨?_, skipBlanks_entry entry _⟩
      rw [entryChars_append, readPairs_comma hvalue, hskip, hrest, String.ofList_toList]
      rfl

/-- A value that begins with a character of a number is a number. -/
theorem readValue_number {fuel : ℕ} {c : Char} {more : List Char} (hc : numberChar c = true) :
    readValue floatOf (fuel + 1) (c :: more) = readNumber floatOf (c :: more) := by
  have hother : ∀ (d : Char) (rest : List Char), numberChar d = false → c :: more ≠ d :: rest := by
    rintro d rest hd heq
    rw [(List.cons.inj heq).1, hd] at hc
    cases hc
  unfold readValue
  split
  · rename_i heq
    cases heq
  · rename_i heq
    exact absurd heq (hother _ _ rfl)
  · rename_i heq
    exact absurd heq (hother _ _ rfl)
  · rename_i heq
    exact absurd heq (hother _ _ rfl)
  · rename_i heq
    exact absurd heq (hother _ _ rfl)
  · rename_i heq
    exact absurd heq (hother _ _ rfl)
  · rename_i heq
    exact absurd heq (hother _ _ rfl)
  · rfl

/-- A value that begins with a bracket is a list, unless the bracket closes at once. -/
theorem readValue_items {fuel : ℕ} {c : Char} {more : List Char} (hc : c ≠ ']')
    (hskip : skipBlanks (c :: more) = c :: more) :
    readValue floatOf (fuel + 1) ('[' :: c :: more) =
      (readItems floatOf fuel (c :: more)).map fun read => (.arr read.1, read.2) := by
  rw [readValue, hskip]
  split
  · rename_i heq
    exact absurd (List.cons.inj heq).1 hc
  · cases readItems floatOf fuel (c :: more) <;> rfl

/-- A value that begins with a brace is an object, unless the brace closes at once. -/
theorem readValue_pairs {fuel : ℕ} {c : Char} {more : List Char} (hc : c ≠ '\x7d')
    (hskip : skipBlanks (c :: more) = c :: more) :
    readValue floatOf (fuel + 1) ('\x7b' :: c :: more) =
      (readPairs floatOf fuel (c :: more)).map fun read => (.obj (dictOfPairs read.1), read.2) := by
  rw [readValue, hskip]
  split
  · rename_i heq
    exact absurd (List.cons.inj heq).1 hc
  · cases readPairs floatOf fuel (c :: more) <;> rfl

/-- A list of texts that begin with another character does not begin with its bracket. -/
theorem listChars_opens {close : Char} {items : List (List Char)} (hne : items ≠ [])
    (hopens : ∀ item ∈ items, ∃ c rest, item = c :: rest ∧ c ≠ close) :
    ∃ c rest, listChars close items = c :: rest ∧ c ≠ close := by
  match items with
  | [] => exact absurd rfl hne
  | [item] =>
    obtain ⟨c, rest, rfl, hc⟩ := hopens item List.mem_cons_self
    exact ⟨c, _, rfl, hc⟩
  | item :: next :: items =>
    obtain ⟨c, rest, rfl, hc⟩ := hopens item List.mem_cons_self
    exact ⟨c, _, rfl, hc⟩

/-- The text of a float begins like a number. -/
theorem FloatReads.opens {q : ℚ} (h : FloatReads floatRepr floatOf q) :
    ∃ c rest, (floatRepr q).toList = c :: rest ∧ numberChar c = true := by
  have htext := h.text
  unfold isFloatText at htext
  rw [decide_eq_true_eq] at htext
  cases hchars : (floatRepr q).toList with
  | nil =>
    rw [hchars] at htext
    cases htext.1
  | cons c rest =>
    refine ⟨c, rest, rfl, ?_⟩
    by_contra hc
    have hnot : ¬(c.isDigit || c == '-') = true := by
      intro hwhole
      simp only [Bool.or_eq_true, beq_iff_eq] at hwhole
      obtain hdigit | rfl := hwhole
      · exact hc (by simp [numberChar, hdigit])
      · exact hc (by decide)
    have hempty : (c :: rest).takeWhile (fun c => c.isDigit || c == '-') = [] :=
      List.takeWhile_cons_of_neg hnot
    rw [hchars, hempty] at htext
    cases htext.1

/-- The text of a value begins with a character that tells what it is. -/
theorem Json.Readable.opens {value : Json} (h : value.Readable (FloatReads floatRepr floatOf)) :
    ∃ c rest, (canonicalJson floatRepr value).toList = c :: rest ∧ Opens value c := by
  apply canonicalJson_opens_of
  rintro q rfl
  cases h with
  | float _ hq => exact hq.opens

/-- A string is read back, whatever follows it. -/
theorem readValue_string (s : String) (fuel : ℕ) (rest : List Char) :
    readValue floatOf (fuel + 1) ((quoted s).toList ++ rest) = some (.str s, rest) := by
  have hliteral : readString ((literalChars s.toList ++ '"' :: rest).length + 1)
      (literalChars s.toList ++ '"' :: rest) = some (s.toList, rest) := by
    apply readString_literal
    have hlength := length_literalChars s.toList
    rw [List.length_append]
    omega
  rw [quoted_toList, List.cons_append, List.cons_append, List.append_assoc,
    List.singleton_append, readValue, hliteral]
  change some (Json.str (String.ofList s.toList), rest) = _
  rw [String.ofList_toList]

/-- An array is read back if its items are. -/
theorem readValue_arr {items : List Json}
    (hitems : ∀ item ∈ items, TextReads floatRepr floatOf item) {fuel : ℕ} {rest : List Char}
    (hfuel : (canonicalJson floatRepr (.arr items)).toList.length ≤ fuel) :
    readValue floatOf (fuel + 1) ((canonicalJson floatRepr (.arr items)).toList ++ rest) =
      some (Json.sorted (.arr items), rest) := by
  rw [canonicalJson_arr] at hfuel ⊢
  rw [List.cons_append]
  cases items with
  | nil => rfl
  | cons item items =>
    rw [List.length_cons] at hfuel
    obtain ⟨fuel, rfl⟩ : ∃ n, fuel = n + 1 := ⟨fuel - 1, by omega⟩
    obtain ⟨hread, hskip⟩ := readItems_canonical (List.cons_ne_nil item items) hitems fuel rest
      (by omega)
    have hopens : ∀ text ∈ (item :: items).map fun item => (canonicalJson floatRepr item).toList,
        ∃ c more, text = c :: more ∧ c ≠ ']' := by
      intro text htext
      obtain ⟨value, hvalue, rfl⟩ := List.mem_map.mp htext
      obtain ⟨c, more, htext, hopens⟩ := (hitems value hvalue).opens
      refine ⟨c, more, htext, ?_⟩
      rintro rfl
      exact hopens.not_stops (.inr (.inl rfl))
    obtain ⟨c, more, htext, hc⟩ := listChars_opens (by simp) hopens
    rw [htext, List.cons_append] at hread hskip ⊢
    rw [readValue_items hc hskip, hread, Json.sorted, sortedItems_eq]
    rfl

/-- An object is read back if its values are. -/
theorem readValue_obj {entries : Document} (hkeys : (entries.map Prod.fst).Nodup)
    (hentries : ∀ entry ∈ entries, TextReads floatRepr floatOf entry.2) {fuel : ℕ}
    {rest : List Char} (hfuel : (canonicalJson floatRepr (.obj entries)).toList.length ≤ fuel) :
    readValue floatOf (fuel + 1) ((canonicalJson floatRepr (.obj entries)).toList ++ rest) =
      some (Json.sorted (.obj entries), rest) := by
  rw [canonicalJson_obj] at hfuel ⊢
  rw [List.cons_append, Json.sorted, sortedValues_eq, sortedEntries_map]
  by_cases hne : sortedEntries entries = []
  · rw [hne]
    rfl
  · rw [List.length_cons] at hfuel
    obtain ⟨fuel, rfl⟩ : ∃ n, fuel = n + 1 := ⟨fuel - 1, by omega⟩
    obtain ⟨hread, hskip⟩ := readPairs_canonical hne
      (fun entry hentry => hentries entry (mem_sortedEntries.mp hentry)) fuel rest (by omega)
    have hopens : ∀ text ∈ (sortedEntries entries).map (entryChars floatRepr),
        ∃ c more, text = c :: more ∧ c ≠ '\x7d' := by
      intro text htext
      obtain ⟨entry, -, rfl⟩ := List.mem_map.mp htext
      exact entryChars_opens entry
    obtain ⟨c, more, htext, hc⟩ := listChars_opens (by simpa using hne) hopens
    rw [htext, List.cons_append] at hread hskip ⊢
    rw [readValue_pairs hc hskip, hread]
    have hsorted : (((sortedEntries entries).map fun entry =>
        (entry.1, entry.2.sorted)).map Prod.fst).Nodup := by
      rw [List.map_map]
      exact ((perm_sortedEntries entries).map Prod.fst).nodup_iff.mpr hkeys
    rw [Option.map_some, dictOfPairs_eq hsorted]

/-- Every readable value is read back from its canonical text. -/
theorem Json.Readable.textReads {value : Json}
    (h : value.Readable (FloatReads floatRepr floatOf)) : TextReads floatRepr floatOf value := by
  induction h with
  | null =>
    refine ⟨(@Json.Readable.null (FloatReads floatRepr floatOf)).opens, ?_⟩
    intro fuel rest _ _
    rw [canonicalJson]
    rfl
  | bool b =>
    refine ⟨(@Json.Readable.bool (FloatReads floatRepr floatOf) b).opens, ?_⟩
    intro fuel rest _ _
    cases b with
    | true =>
      rw [canonicalJson]
      rfl
    | false =>
      rw [canonicalJson]
      rfl
  | int n =>
    have hopens := (@Json.Readable.int (FloatReads floatRepr floatOf) n).opens
    refine ⟨hopens, ?_⟩
    intro fuel rest _ hrest
    obtain ⟨c, more, htext, hc⟩ := hopens
    have hread := @readNumber_int floatOf _ n hrest
    rw [canonicalJson] at htext ⊢
    rw [htext, List.cons_append] at hread ⊢
    rw [readValue_number hc, hread]
    rfl
  | float q hq =>
    have hopens := (Json.Readable.float q hq).opens
    refine ⟨hopens, ?_⟩
    intro fuel rest _ hrest
    obtain ⟨c, more, htext, hc⟩ := hopens
    have hread := readNumber_float hq hrest
    rw [canonicalJson] at htext ⊢
    rw [htext, List.cons_append] at hread ⊢
    rw [readValue_number hc, hread]
    rfl
  | str s =>
    refine ⟨(@Json.Readable.str (FloatReads floatRepr floatOf) s).opens, ?_⟩
    intro fuel rest _ _
    rw [canonicalJson]
    exact readValue_string s fuel rest
  | arr items hitems ih =>
    refine ⟨(Json.Readable.arr items hitems).opens, ?_⟩
    intro fuel rest hfuel _
    exact readValue_arr ih hfuel
  | obj entries hkeys hentries ih =>
    refine ⟨(Json.Readable.obj entries hkeys hentries).opens, ?_⟩
    intro fuel rest hfuel _
    exact readValue_obj hkeys ih hfuel

/-- `json.loads` gives every readable value back from its canonical text, with sorted objects. -/
theorem readJson_canonical {value : Json} (h : value.Readable (FloatReads floatRepr floatOf)) :
    readJson floatOf (canonicalJson floatRepr value) = some value.sorted := by
  have htext := h.textReads
  have hread := htext.reads (canonicalJson floatRepr value).toList.length [] le_rfl ended_nil
  have hskip := htext.skipBlanks []
  rw [List.append_nil] at hread hskip
  unfold readJson
  rw [hskip, hread]
  rfl

end values

end ElCapitan
