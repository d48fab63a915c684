import ElCapitan.Infrastructure.CdkConstruct

/-!
# TypeScript sources

A source is a sequence of characters of code, strings and templates, and comments, each of which
ends where its own kind ends. The scan for a closing brace reads such a source part by part and
counts the braces of its code alone.
-/

namespace ElCapitan

/-- A part of a TypeScript source. -/
inductive Lexeme where
  | code (c : Char)
  | text (quote : Char) (body : List Char)
  | lineComment (body : List Char)
  | blockComment (body : List Char)
  deriving DecidableEq

/-- The characters of a part. -/
def Lexeme.chars : Lexeme → List Char
  | .code c => [c]
  | .text quote body => quote :: (body ++ [quote])
  | .lineComment body => '/' :: '/' :: body
  | .blockComment body => '/' :: '*' :: (body ++ ['*', '/'])

/-- The text of a source. -/
def renderSource (source : List Lexeme) : List Char := source.flatMap Lexeme.chars

/-- A body that does not end before the quote behind it, after a backslash or not. -/
def staysQuoted (quote : Char) : Bool → List Char → Bool
  | escaped, [] => !escaped
  | true, _ :: rest => staysQuoted quote false rest
  | false, c :: rest =>
    if c = '\\' then staysQuoted quote true rest else c ≠ quote && staysQuoted quote false rest

/-- A part that is read as itself before a text. -/
def Lexeme.Fits (next : List Char) : Lexeme → Prop
  | .code c => c ∉ quoteMarks ∧ (c = '/' → next.head? ≠ some '/' ∧ next.head? ≠ some '*')
  | .text quote body => quote ∈ quoteMarks ∧ staysQuoted quote false body = true
  | .lineComment body => '\n' ∉ body ∧ (next = [] ∨ next.head? = some '\n')
  | .blockComment body => ¬['*', '/'] <:+: body ++ ['*']

/-- Every part is read as itself. -/
def Lexed : List Lexeme → Prop
  | [] => True
  | lexeme :: rest => lexeme.Fits (renderSource rest) ∧ Lexed rest

instance (next : List Char) : (lexeme : Lexeme) → Decidable (lexeme.Fits next)
  | .code _ => inferInstanceAs (Decidable (_ ∧ _))
  | .text _ _ => inferInstanceAs (Decidable (_ ∧ _))
  | .lineComment _ => inferInstanceAs (Decidable (_ ∧ _))
  | .blockComment _ => inferInstanceAs (Decidable (¬_))

instance decidableLexed : (source : List Lexeme) → Decidable (Lexed source)
  | [] => .isTrue trivial
  | lexeme :: rest =>
    have := decidableLexed rest
    inferInstanceAs (Decidable (lexeme.Fits (renderSource rest) ∧ Lexed rest))

/-- A TypeScript source. -/
structure TypeScript where
  lexemes : List Lexeme
  lexed : Lexed lexemes

/-- The text of a TypeScript source. -/
def TypeScript.text (source : TypeScript) : List Char := renderSource source.lexemes

/-- Characters of code. -/
def codes (chars : List Char) : List Lexeme := chars.map .code

/-- How deep a source is behind some parts, unless they close what was not opened. -/
def levelAfter (opens closes : List Char) : ℕ → List Lexeme → Option ℕ
  | level, [] => some level
  | level, .code c :: rest =>
    if c ∈ opens then levelAfter opens closes (level + 1) rest
    else if c ∈ closes then
      match level with
      | 0 => none
      | level + 1 => levelAfter opens closes level rest
    else levelAfter opens closes level rest
  | level, _ :: rest => levelAfter opens closes level rest

/-- The braces of some parts match. -/
abbrev BracesMatch (body : List Lexeme) : Prop := levelAfter ['\x7b'] ['\x7d'] 0 body = some 0

/-- A character that is no brace keeps the level. -/
theorem levelAfter_other {opens closes : List Char} {level : ℕ} {c : Char} {rest : List Lexeme}
    (hopen : c ∉ opens) (hclose : c ∉ closes) :
    levelAfter opens closes level (.code c :: rest) = levelAfter opens closes level rest := by
  cases level with
  | zero => simp only [levelAfter, if_neg hopen, if_neg hclose]
  | succ level => simp only [levelAfter, if_neg hopen, if_neg hclose]

section rendering

variable {source before after : List Lexeme}

/-- No lexemes have no text. -/
@[simp] theorem renderSource_nil : renderSource [] = [] := rfl

/-- The text of lexemes begins with that of the first one. -/
@[simp] theorem renderSource_cons (lexeme : Lexeme) (rest : List Lexeme) :
    renderSource (lexeme :: rest) = lexeme.chars ++ renderSource rest := List.flatMap_cons

/-- The text of lexemes is that of their parts. -/
@[simp] theorem renderSource_append (before after : List Lexeme) :
    renderSource (before ++ after) = renderSource before ++ renderSource after :=
  List.flatMap_append

/-- The text of characters of code is these characters. -/
@[simp] theorem renderSource_codes (chars : List Char) : renderSource (codes chars) = chars := by
  induction chars with
  | nil => rfl
  | cons c chars ih =>
    unfold codes at ih ⊢
    rw [List.map_cons, renderSource_cons, ih]
    rfl

/-- Every lexeme has some text. -/
theorem Lexeme.chars_ne_nil (lexeme : Lexeme) : lexeme.chars ≠ [] := by
  cases lexeme with
  | code c => exact List.cons_ne_nil _ _
  | text quote body => exact List.cons_ne_nil _ _
  | lineComment body => exact List.cons_ne_nil _ _
  | blockComment body => exact List.cons_ne_nil _ _

/-- The last lexemes of a source may stand next to each other. -/
theorem Lexed.of_append (h : Lexed (before ++ after)) : Lexed after := by
  induction before with
  | nil => exact h
  | cons lexeme before ih => exact ih h.2

/-- Two beginnings of a source with the same text are the same. -/
theorem prefix_of_length {before' after' : List Lexeme} (h : before ++ after = before' ++ after')
    (hlength : (renderSource before).length = (renderSource before').length) :
    before = before' := by
  induction before generalizing before' with
  | nil =>
    cases before' with
    | nil => rfl
    | cons lexeme before' =>
      have hpos := List.length_pos_iff.mpr lexeme.chars_ne_nil
      rw [renderSource_cons, List.length_append, renderSource_nil] at hlength
      simp only [List.length_nil] at hlength
      omega
  | cons lexeme before ih =>
    cases before' with
    | nil =>
      have hpos := List.length_pos_iff.mpr lexeme.chars_ne_nil
      rw [renderSource_cons, List.length_append, renderSource_nil] at hlength
      simp only [List.length_nil] at hlength
      omega
    | cons other before' =>
      obtain ⟨rfl, hrest⟩ := List.cons.inj h
      rw [renderSource_cons, renderSource_cons, List.length_append, List.length_append] at hlength
      rw [ih hrest (by omega)]

end rendering

section scanning

variable {depth : ℕ} {c quote : Char} {rest body : List Char}

/-- Quotes are neither escapes nor the beginning of a comment. -/
theorem quoteMarks_plain (h : quote ∈ quoteMarks) : quote ≠ '\\' ∧ quote ≠ '/' := by
  unfold quoteMarks at h
  simp only [List.mem_cons, List.not_mem_nil, or_false] at h
  rcases h with rfl | rfl | rfl
  · decide
  · decide
  · decide

/-- A character of code that begins no comment. -/
theorem closeBrace_code (h : c = '/' → rest.head? ≠ some '/' ∧ rest.head? ≠ some '*') :
    closeBrace .code depth (c :: rest) =
      if c ∈ quoteMarks then closeBrace (.quoted c false) depth rest
      else if c = '\x7b' then closeBrace .code (depth + 1) rest
      else if c = '\x7d' then
        if depth - 1 = 0 then some rest else closeBrace .code (depth - 1) rest
      else closeBrace .code depth rest := by
  rw [closeBrace]
  · rintro tail rfl rfl
    exact (h rfl).1 rfl
  · rintro tail rfl rfl
    exact (h rfl).2 rfl

/-- A character of a block comment that does not end it. -/
theorem closeBrace_block (h : c = '*' → rest.head? ≠ some '/') :
    closeBrace .blockComment depth (c :: rest) = closeBrace .blockComment depth rest := by
  rw [closeBrace]
  rintro tail rfl rfl
  exact h rfl rfl

/-- A string is skipped. -/
theorem closeBrace_quoted (hquote : quote ∈ quoteMarks) {escaped : Bool}
    (h : staysQuoted quote escaped body = true) :
    closeBrace (.quoted quote escaped) depth (body ++ quote :: rest) =
      closeBrace .code depth rest := by
  have hplain := (quoteMarks_plain hquote).1
  induction body generalizing escaped with
  | nil =>
    cases escaped with
    | true => cases h
    | false => rw [List.nil_append, closeBrace_quoted_cons, if_neg hplain, if_pos rfl]
  | cons c body ih =>
    cases escaped with
    | true => exact ih h
    | false =>
      rw [staysQuoted] at h
      rw [List.cons_append, closeBrace_quoted_cons]
      by_cases hescape : c = '\\'
      · rw [if_pos hescape] at h ⊢
        exact ih h
      · rw [if_neg hescape, Bool.and_eq_true, decide_eq_true_eq] at h
        rw [if_neg hescape, if_neg h.1]
        exact ih h.2

/-- A line comment is skipped up to the end of its line. -/
theorem closeBrace_line (h : '\n' ∉ body) :
    closeBrace .lineComment depth (body ++ rest) = closeBrace .lineComment depth rest := by
  induction body with
  | nil => rfl
  | cons c body ih =>
    obtain ⟨hc, hbody⟩ := not_or.mp (List.mem_cons.not.mp h)
    rw [List.cons_append, closeBrace_line_cons, if_neg (Ne.symm hc)]
    exact ih hbody

/-- A block comment is skipped. -/
theorem closeBrace_comment (h : ¬['*', '/'] <:+: body ++ ['*']) :
    closeBrace .blockComment depth (body ++ '*' :: '/' :: rest) = closeBrace .code depth rest := by
  induction body with
  | nil => rw [List.nil_append, closeBrace_block_end]
  | cons c body ih =>
    have hbody : ¬['*', '/'] <:+: body ++ ['*'] := fun hpart =>
      h (hpart.trans (List.suffix_cons c _).isInfix)
    rw [List.cons_append, closeBrace_block, ih hbody]
    rintro rfl hhead
    cases body with
    | nil => cases hhead
    | cons d body =>
      obtain rfl := Option.some.inj hhead
      exact h ⟨[], body ++ ['*'], rfl⟩

end scanning

section closing

/-- What follows the code that closes the first of so many open braces. -/
def closing : ℕ → List Lexeme → Option (List Lexeme)
  | _, [] => none
  | depth, .code c :: rest =>
    if c = '\x7b' then closing (depth + 1) rest
    else if c = '\x7d' then if depth - 1 = 0 then some rest else closing (depth - 1) rest
    else closing depth rest
  | depth, _ :: rest => closing depth rest

variable {source : List Lexeme}

/-- The scan of a source counts the braces of its code. -/
theorem closeBrace_source (h : Lexed source) (depth : ℕ) :
    closeBrace .code depth (renderSource source) = (closing depth source).map renderSource := by
  induction source generalizing depth with
  | nil => rfl
  | cons lexeme rest ih =>
    obtain ⟨hfits, hrest⟩ := h
    rw [renderSource_cons]
    cases lexeme with
    | code c =>
      obtain ⟨hquote, hcomment⟩ := hfits
      rw [Lexeme.chars, List.singleton_append, closeBrace_code hcomment, if_neg hquote, closing,
        ih hrest, ih hrest, ih hrest]
      split
      · rfl
      · split
        · split
          · rfl
          · rfl
        · rfl
    | text quote body =>
      obtain ⟨hquote, hbody⟩ := hfits
      have hslash := (quoteMarks_plain hquote).2
      rw [Lexeme.chars, List.cons_append, closeBrace_code fun heq => absurd heq hslash,
        if_pos hquote, List.append_assoc, List.singleton_append, closeBrace_quoted hquote hbody]
      exact ih hrest depth
    | lineComment body =>
      obtain ⟨hbody, hnext⟩ := hfits
      rw [Lexeme.chars, List.cons_append, List.cons_append, closeBrace_line_begin,
        closeBrace_line hbody]
      refine Eq.trans ?_ (ih hrest depth)
      rcases hnext with hnil | hhead
      · rw [hnil]
        rfl
      · -- the newline is read in the comment and changes nothing in code
        obtain ⟨tail, htail⟩ : ∃ tail, renderSource rest = '\n' :: tail := by
          cases hrender : renderSource rest with
          | nil =>
            rw [hrender] at hhead
            cases hhead
          | cons c tail =>
            rw [hrender] at hhead
            exact ⟨tail, by rw [Option.some.inj hhead]⟩
        rw [htail, closeBrace_line_cons, if_pos rfl,
          closeBrace_code fun heq => absurd heq (by decide)]
        rfl
    | blockComment body =>
      rw [Lexeme.chars, List.cons_append, List.cons_append, closeBrace_block_begin,
        List.append_assoc, List.cons_append, List.singleton_append, closeBrace_comment hfits]
      exact ih hrest depth

/-- What is found behind a part that is not the brace looked for. -/
theorem closing_behind {lexeme : Lexeme} {depth depth' : ℕ} {rest : List Lexeme}
    (hrest : closing (depth' + 1) source = some rest ↔ ∃ body,
      source = body ++ .code '\x7d' :: rest ∧
        levelAfter ['\x7b'] ['\x7d'] depth' body = some 0)
    (hclosing : closing (depth + 1) (lexeme :: source) = closing (depth' + 1) source)
    (hlevel : ∀ body, levelAfter ['\x7b'] ['\x7d'] depth (lexeme :: body) =
      levelAfter ['\x7b'] ['\x7d'] depth' body)
    (hother : depth = 0 → lexeme ≠ .code '\x7d') :
    closing (depth + 1) (lexeme :: source) = some rest ↔ ∃ body,
      lexeme :: source = body ++ .code '\x7d' :: rest ∧
        levelAfter ['\x7b'] ['\x7d'] depth body = some 0 := by
  rw [hclosing, hrest]
  constructor
  · rintro ⟨body, rfl, hbody⟩
    exact ⟨lexeme :: body, rfl, by rw [hlevel, hbody]⟩
  · rintro ⟨body, hsource, hbody⟩
    cases body with
    | nil =>
      obtain ⟨rfl, _⟩ := List.cons.inj hsource
      exact absurd rfl (hother (Option.some.inj hbody))
    | cons first body =>
      obtain ⟨rfl, rfl⟩ := List.cons.inj hsource
      exact ⟨body, rfl, by rw [← hlevel, hbody]⟩

/-- What is found is behind the brace that matches. -/
theorem closing_eq_some {depth : ℕ} {rest : List Lexeme} :
    closing (depth + 1) source = some rest ↔ ∃ body, source = body ++ .code '\x7d' :: rest ∧
      levelAfter ['\x7b'] ['\x7d'] depth body = some 0 := by
  induction source generalizing depth with
  | nil =>
    constructor
    · intro h
      cases h
    · rintro ⟨body, hsource, _⟩
      have hlength := congrArg List.length hsource
      simp at hlength
  | cons lexeme source ih =>
    cases lexeme with
    | code c =>
      by_cases hopen : c = '\x7b'
      · subst hopen
        exact closing_behind (@ih (depth + 1)) rfl (fun _ => rfl) fun _ => by decide
      · by_cases hclose : c = '\x7d'
        · subst hclose
          cases depth with
          | zero =>
            constructor
            · intro h
              obtain rfl := Option.some.inj h
              exact ⟨[], rfl, rfl⟩
            · rintro ⟨body, hsource, hbody⟩
              cases body with
              | nil =>
                obtain ⟨_, rfl⟩ := List.cons.inj hsource
                rfl
              | cons first body =>
                obtain ⟨rfl, _⟩ := List.cons.inj hsource
                cases hbody
          | succ depth =>
            exact closing_behind (@ih depth) rfl (fun _ => rfl) fun h => by cases h
        · refine closing_behind (@ih depth) ?_ (fun body => ?_) fun _ => ?_
          · rw [closing, if_neg hopen, if_neg hclose]
          · exact levelAfter_other (by simpa using hopen) (by simpa using hclose)
          · simpa using hclose
    | text quote body => exact closing_behind (@ih depth) rfl (fun _ => rfl) fun _ => by simp
    | lineComment body => exact closing_behind (@ih depth) rfl (fun _ => rfl) fun _ => by simp
    | blockComment body => exact closing_behind (@ih depth) rfl (fun _ => rfl) fun _ => by simp

end closing

section reading

variable {source : List Lexeme} {chars rest : List Char} {quote : Char}

/-- A character that is only read as code, whatever stands behind it. -/
def bareChar (c : Char) : Bool := c ∉ quoteMarks && c ≠ '/'

/-- A blank is a bare character. -/
theorem bareChar_of_isSpace {c : Char} (hc : isSpace c = true) : bareChar c = true := by
  unfold bareChar
  rw [Bool.and_eq_true, decide_eq_true_eq, decide_eq_true_eq]
  refine ⟨fun hquote => ?_, fun hslash => ?_⟩
  · unfold quoteMarks at hquote
    simp only [List.mem_cons, List.not_mem_nil, or_false] at hquote
    rcases hquote with rfl | rfl | rfl
    · exact absurd hc (by decide)
    · exact absurd hc (by decide)
    · exact absurd hc (by decide)
  · rw [hslash] at hc
    exact absurd hc (by decide)

/-- Bare characters are read as code before any source. -/
theorem lexed_codes (hchars : ∀ c ∈ chars, bareChar c = true) (hsource : Lexed source) :
    Lexed (codes chars ++ source) := by
  induction chars with
  | nil => exact hsource
  | cons c chars ih =>
    have hbare := hchars c List.mem_cons_self
    unfold bareChar at hbare
    rw [Bool.and_eq_true, decide_eq_true_eq, decide_eq_true_eq] at hbare
    exact ⟨⟨hbare.1, fun hslash => absurd hslash hbare.2⟩,
      ih fun other hother => hchars other (List.mem_cons_of_mem _ hother)⟩

/-- Bare characters at the beginning of a source are code. -/
theorem codes_of_render (hchars : ∀ c ∈ chars, bareChar c = true) (hsource : Lexed source)
    (h : renderSource source = chars ++ rest) :
    ∃ source', source = codes chars ++ source' ∧ renderSource source' = rest := by
  induction chars generalizing source with
  | nil => exact ⟨source, rfl, h⟩
  | cons c chars ih =>
    have hbare := hchars c List.mem_cons_self
    unfold bareChar at hbare
    rw [Bool.and_eq_true, decide_eq_true_eq, decide_eq_true_eq] at hbare
    cases source with
    | nil => cases h
    | cons lexeme source =>
      rw [renderSource_cons] at h
      cases lexeme with
      | code d =>
        obtain ⟨rfl, hrest⟩ := List.cons.inj h
        obtain ⟨source', rfl, hrender⟩ :=
          ih (fun other hother => hchars other (List.mem_cons_of_mem _ hother)) hsource.2 hrest
        exact ⟨source', rfl, hrender⟩
      | text quote body =>
        obtain ⟨rfl, _⟩ := List.cons.inj h
        exact absurd hsource.1.1 hbare.1
      | lineComment body =>
        obtain ⟨rfl, _⟩ := List.cons.inj h
        exact absurd rfl hbare.2
      | blockComment body =>
        obtain ⟨rfl, _⟩ := List.cons.inj h
        exact absurd rfl hbare.2

/-- A body that ends at the first quote, where no backslash stands in the other. -/
theorem body_unique {body more : List Char} (hmark : quote ∈ quoteMarks)
    (hquote : quote ∉ chars) (hslash : '\\' ∉ chars)
    (hbody : staysQuoted quote false body = true)
    (h : body ++ quote :: more = chars ++ quote :: rest) : body = chars ∧ more = rest := by
  induction body generalizing chars with
  | nil =>
    cases chars with
    | nil => exact ⟨rfl, (List.cons.inj h).2⟩
    | cons c chars =>
      obtain ⟨rfl, _⟩ := List.cons.inj h
      exact absurd List.mem_cons_self hquote
  | cons c body ih =>
    cases chars with
    | nil =>
      obtain ⟨rfl, _⟩ := List.cons.inj h
      rw [staysQuoted] at hbody
      rw [if_neg (quoteMarks_plain hmark).1] at hbody
      simp at hbody
    | cons d chars =>
      obtain ⟨rfl, hrest⟩ := List.cons.inj h
      obtain ⟨hc, hchars⟩ := not_or.mp (List.mem_cons.not.mp hquote)
      obtain ⟨hd, hslash⟩ := not_or.mp (List.mem_cons.not.mp hslash)
      rw [staysQuoted, if_neg (Ne.symm hd), Bool.and_eq_true] at hbody
      obtain ⟨rfl, rfl⟩ := ih hchars hslash hbody.2 hrest
      exact ⟨rfl, rfl⟩

/-- A string at the beginning of a source whose text has no quote and no backslash. -/
theorem text_of_render (hmark : quote ∈ quoteMarks) (hquote : quote ∉ chars)
    (hslash : '\\' ∉ chars) (hsource : Lexed source)
    (h : renderSource source = quote :: (chars ++ quote :: rest)) :
    ∃ source', source = .text quote chars :: source' ∧ renderSource source' = rest := by
  cases source with
  | nil => cases h
  | cons lexeme source =>
    rw [renderSource_cons] at h
    cases lexeme with
    | code c =>
      obtain ⟨rfl, _⟩ := List.cons.inj h
      exact absurd hmark hsource.1.1
    | text other body =>
      rw [Lexeme.chars, List.cons_append, List.append_assoc, List.singleton_append] at h
      obtain ⟨rfl, hbody⟩ := List.cons.inj h
      obtain ⟨rfl, rfl⟩ := body_unique hmark hquote hslash hsource.1.2 hbody
      exact ⟨source, rfl, rfl⟩
    | lineComment body =>
      obtain ⟨rfl, _⟩ := List.cons.inj h
      exact absurd rfl (quoteMarks_plain hmark).2
    | blockComment body =>
      obtain ⟨rfl, _⟩ := List.cons.inj h
      exact absurd rfl (quoteMarks_plain hmark).2

end reading

end ElCapitan
