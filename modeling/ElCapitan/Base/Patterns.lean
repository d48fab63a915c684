import Mathlib.Data.List.TakeWhile

/-!
# Search and substitution of patterns

A pattern tells at each position of a text, seen with the character before it, how long its match
is. Substitution scans a text from the left and goes on after each match. What it keeps of the text
are the places where no match begins.
-/

namespace ElCapitan

/-- The lower case of a character that is not a letter is itself, and of no other character. -/
theorem toLower_eq_iff {c d : Char} (hc : c.isAlpha = false) : d.toLower = c ↔ d = c := by
  by_cases hupper : d.val ≥ 'A'.val ∧ d.val ≤ 'Z'.val
  · have hletters : ∀ n < 26, (Char.ofNat (65 + n)).toLower.isAlpha = true ∧
        (Char.ofNat (65 + n)).isAlpha = true := by
      decide
    have hfirst : 65 ≤ d.toNat := hupper.1
    have hlast : d.toNat ≤ 90 := hupper.2
    have hd : Char.ofNat (65 + (d.toNat - 65)) = d := by
      rw [Nat.add_sub_cancel' hfirst]
      exact Char.ofNat_toNat d
    have halpha := hletters (d.toNat - 65) (by omega)
    rw [hd] at halpha
    constructor
    · rintro rfl
      rw [halpha.1] at hc
      cases hc
    · rintro rfl
      rw [halpha.2] at hc
      cases hc
  · have hsame : d.toLower = d := dif_neg hupper
    rw [hsame]

/-- The length of the match at a position, after a character and before a text. -/
abbrev Pattern := Option Char → List Char → Option ℕ

/-- Does a match begin at some position of a text, after a character? -/
def Pattern.searchFrom (pattern : Pattern) (before : Option Char) : List Char → Bool
  | [] => (pattern before []).isSome
  | c :: rest => (pattern before (c :: rest)).isSome || pattern.searchFrom (some c) rest

/-- The text in which matches are replaced, after a character; so many of its characters belong to
the last match. The second part is the number of matches. -/
def Pattern.subFrom (pattern : Pattern) (mark : List Char → List Char) :
    Option Char → ℕ → List Char → List Char × ℕ
  | _, _, [] => ([], 0)
  | _, skip + 1, c :: rest => pattern.subFrom mark (some c) skip rest
  | before, 0, c :: rest =>
    match pattern before (c :: rest) with
    | some (more + 1) =>
      let replaced := pattern.subFrom mark (some c) more rest
      (mark ((c :: rest).take (more + 1)) ++ replaced.1, replaced.2 + 1)
    | _ =>
      let replaced := pattern.subFrom mark (some c) 0 rest
      (c :: replaced.1, replaced.2)

/-- `pattern.sub(mark, text)`, with the number of matches. -/
def Pattern.sub (pattern : Pattern) (mark : List Char → List Char) (text : List Char) :
    List Char × ℕ :=
  pattern.subFrom mark none 0 text

/-- A search finds a match where there is one. -/
theorem Pattern.searchFrom_iff (pattern : Pattern) (before : Option Char) (text : List Char) :
    pattern.searchFrom before text = true ↔ ∃ skipped after, text = skipped ++ after ∧
      (pattern (skipped.getLast?.or before) after).isSome := by
  induction text generalizing before with
  | nil =>
    constructor
    · intro h
      exact ⟨[], [], rfl, h⟩
    · rintro ⟨skipped, after, htext, hmatch⟩
      obtain ⟨rfl, rfl⟩ := List.append_eq_nil_iff.mp htext.symm
      exact hmatch
  | cons c rest ih =>
    rw [Pattern.searchFrom, Bool.or_eq_true, ih]
    constructor
    · rintro (hmatch | ⟨skipped, after, rfl, hmatch⟩)
      · exact ⟨[], c :: rest, rfl, hmatch⟩
      · refine ⟨c :: skipped, after, rfl, ?_⟩
        rw [List.getLast?_cons, Option.some_or]
        cases hlast : skipped.getLast? with
        | none => simpa [hlast] using hmatch
        | some last => simpa [hlast] using hmatch
    · rintro ⟨skipped, after, htext, hmatch⟩
      cases skipped with
      | nil =>
        rw [List.nil_append] at htext
        subst htext
        exact Or.inl hmatch
      | cons other skipped =>
        obtain ⟨rfl, rfl⟩ := List.cons.inj htext
        refine Or.inr ⟨skipped, after, rfl, ?_⟩
        rw [List.getLast?_cons, Option.some_or] at hmatch
        cases hlast : skipped.getLast? with
        | none => simpa [hlast] using hmatch
        | some last => simpa [hlast] using hmatch

/-- A part of a text that is scanned: a character that is kept, or a match. -/
inductive Piece where
  | kept (c : Char)
  | hit (matched : List Char)

/-- The text of a part. -/
def Piece.text : Piece → List Char
  | .kept c => [c]
  | .hit matched => matched

/-- The text of a part, with marks for matches. -/
def Piece.marked (mark : List Char → List Char) : Piece → List Char
  | .kept c => [c]
  | .hit matched => mark matched

/-- The parts of a text, as substitution finds them. -/
def Pattern.piecesFrom (pattern : Pattern) : Option Char → ℕ → List Char → List Piece
  | _, _, [] => []
  | _, skip + 1, c :: rest => pattern.piecesFrom (some c) skip rest
  | before, 0, c :: rest =>
    match pattern before (c :: rest) with
    | some (more + 1) =>
      .hit ((c :: rest).take (more + 1)) :: pattern.piecesFrom (some c) more rest
    | _ => .kept c :: pattern.piecesFrom (some c) 0 rest

/-- The stretches between the matches. -/
def keptStretches : List Piece → List (List Char)
  | [] => [[]]
  | .kept c :: pieces =>
    match keptStretches pieces with
    | [] => [[c]]
    | stretch :: stretches => (c :: stretch) :: stretches
  | .hit _ :: pieces => [] :: keptStretches pieces

/-- The stretches of a text between the matches of a pattern. -/
def Pattern.stretches (pattern : Pattern) (text : List Char) : List (List Char) :=
  keptStretches (pattern.piecesFrom none 0 text)

/-- A match is not empty and is a part of the text. -/
def Pattern.Fits (pattern : Pattern) : Prop :=
  ∀ before text n, pattern before text = some n → 0 < n ∧ n ≤ text.length

section scanning

variable {pattern : Pattern}

/-- The parts that are scanned after a character: nothing begins at a kept character, and a match
begins at a hit. -/
inductive Scanned (pattern : Pattern) : Option Char → List Char → List Piece → Prop
  | nil {before : Option Char} : Scanned pattern before [] []
  | kept {before : Option Char} {c : Char} {rest : List Char} {pieces : List Piece}
      (hnone : pattern before (c :: rest) = none) (hrest : Scanned pattern (some c) rest pieces) :
      Scanned pattern before (c :: rest) (.kept c :: pieces)
  | hit {before : Option Char} {matched rest : List Char} {pieces : List Piece}
      (hne : matched ≠ []) (hmatch : pattern before (matched ++ rest) = some matched.length)
      (hrest : Scanned pattern (matched.getLast?.or before) rest pieces) :
      Scanned pattern before (matched ++ rest) (.hit matched :: pieces)

/-- Skipping a match is scanning on behind it. -/
theorem Pattern.piecesFrom_skip (pattern : Pattern) (before : Option Char) (skip : ℕ)
    (text : List Char) : pattern.piecesFrom before skip text =
      pattern.piecesFrom ((text.take skip).getLast?.or before) 0 (text.drop skip) := by
  induction skip generalizing before text with
  | zero => simp
  | succ skip ih =>
    cases text with
    | nil => simp [Pattern.piecesFrom]
    | cons c rest =>
      rw [Pattern.piecesFrom, ih, List.take_succ_cons, List.drop_succ_cons, List.getLast?_cons,
        Option.some_or]
      congr 1
      cases (rest.take skip).getLast? <;> rfl

/-- Every text is scanned. -/
theorem Pattern.scanned (hfits : pattern.Fits) (before : Option Char) (text : List Char) :
    Scanned pattern before text (pattern.piecesFrom before 0 text) := by
  induction hlength : text.length using Nat.strong_induction_on generalizing before text with
  | _ length ih =>
    cases text with
    | nil => exact .nil
    | cons c rest =>
      rw [Pattern.piecesFrom]
      split
      · rename_i more hmatch
        obtain ⟨_, hmore⟩ := hfits _ _ _ hmatch
        have hsplit : c :: rest = (c :: rest).take (more + 1) ++ rest.drop more := by
          rw [← List.drop_succ_cons]
          exact (List.take_append_drop _ _).symm
        have htaken : ((c :: rest).take (more + 1)).length = more + 1 := by
          rw [List.length_take]
          omega
        have hdropped : (rest.drop more).length < length := by
          rw [← hlength, List.length_drop, List.length_cons]
          omega
        have hrest := ih _ hdropped (((c :: rest).take (more + 1)).getLast?.or before)
          (rest.drop more) rfl
        have hpieces : pattern.piecesFrom (some c) more rest =
            pattern.piecesFrom (((c :: rest).take (more + 1)).getLast?.or before) 0
              (rest.drop more) := by
          rw [Pattern.piecesFrom_skip, List.take_succ_cons, List.getLast?_cons, Option.some_or]
          congr 1
          cases (rest.take more).getLast? <;> rfl
        have hhit := Scanned.hit (by simp) (by rw [← hsplit, htaken, hmatch]) hrest
        rwa [← hsplit, ← hpieces] at hhit
      · rename_i hother
        have hnone : pattern before (c :: rest) = none := by
          cases hmatch : pattern before (c :: rest) with
          | none => rfl
          | some n =>
            obtain ⟨hpositive, _⟩ := hfits _ _ _ hmatch
            obtain ⟨more, rfl⟩ := Nat.exists_eq_succ_of_ne_zero hpositive.ne'
            exact absurd hmatch (hother more)
        have hrest := ih rest.length (by rw [← hlength, List.length_cons]; omega) (some c) rest rfl
        exact .kept hnone hrest

/-- The text of the parts is the text. -/
theorem Scanned.text {before : Option Char} {text : List Char} {pieces : List Piece}
    (h : Scanned pattern before text pieces) : pieces.flatMap Piece.text = text := by
  induction h with
  | nil => rfl
  | kept _ _ ih => exact congrArg (_ :: ·) ih
  | hit _ _ _ ih => exact congrArg (_ ++ ·) ih

/-- The parts after some parts are scanned after the text of these. -/
theorem Scanned.append {before : Option Char} {text : List Char} {pieces more : List Piece}
    (h : Scanned pattern before text (pieces ++ more)) :
    Scanned pattern ((pieces.flatMap Piece.text).getLast?.or before) (more.flatMap Piece.text)
      more := by
  induction pieces generalizing before text with
  | nil =>
    rw [List.nil_append] at h
    rw [h.text]
    exact h
  | cons piece pieces ih =>
    rw [List.cons_append] at h
    have hlast (first last : List Char) :
        (first ++ last).getLast?.or before = last.getLast?.or (first.getLast?.or before) := by
      rw [List.getLast?_append, Option.or_assoc]
    cases h with
    | kept _ hrest =>
      rw [List.flatMap_cons, hlast]
      exact ih hrest
    | hit _ _ hrest =>
      rw [List.flatMap_cons, hlast]
      exact ih hrest

/-- A match begins at a hit. -/
theorem Scanned.hit_some {before : Option Char} {matched text : List Char}
    {pieces : List Piece} (h : Scanned pattern before text (.hit matched :: pieces)) :
    matched ≠ [] ∧
      pattern before (matched ++ pieces.flatMap Piece.text) = some matched.length := by
  cases h with
  | hit hne hmatch hrest =>
    rw [hrest.text]
    exact ⟨hne, hmatch⟩

end scanning

section marks

/-- Texts with marks between them. -/
inductive Interleaved (IsMark : List Char → Prop) : List (List Char) → List Char → Prop
  | single (stretch : List Char) : Interleaved IsMark [stretch] stretch
  | more {stretch marked text : List Char} {stretches : List (List Char)} (hmark : IsMark marked)
      (hrest : Interleaved IsMark stretches text) :
      Interleaved IsMark (stretch :: stretches) (stretch ++ (marked ++ text))

variable {pattern : Pattern} {IsMark : List Char → Prop} {mark : List Char → List Char}

/-- Texts with marks between them, followed by a mark and others. -/
theorem Interleaved.append {stretches others : List (List Char)} {text marked more : List Char}
    (h : Interleaved IsMark stretches text) (hmark : IsMark marked)
    (h' : Interleaved IsMark others more) :
    Interleaved IsMark (stretches ++ others) (text ++ (marked ++ more)) := by
  induction h with
  | single stretch => exact .more hmark h'
  | more hfirst _ ih =>
    rw [List.append_assoc, List.append_assoc]
    exact .more hfirst ih

end marks

end ElCapitan
