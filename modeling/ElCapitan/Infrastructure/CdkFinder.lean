import ElCapitan.Infrastructure.TypeScript

/-!
# The construct that is found

A header that is not in a string or a comment is one of code around a literal id, and no two of them
overlap. Where all headers of an id are such, in one style of quotes, the construct that is found is
the only one with the id, from its `new` to the brace that matches the one of its properties and
over the end of its call.
-/

namespace ElCapitan

/-- An id between quotes. -/
def literalOf (quote : Char) (constructId : List Char) : List Char :=
  quote :: (constructId ++ [quote])

/-- The header of an `s3.Bucket` construct with an id in such quotes, up to its opening brace. The
id stands in the quotes as it is: a literal that spells it with escapes is not one of it. -/
def IsHeader (quote : Char) (constructId : List Char) (header : List Lexeme) : Prop :=
  ∃ opening closing, Spelled isSpace headerOpening opening ∧
    Spelled isSpace headerClosing closing ∧
    header = codes opening ++ .text quote constructId :: codes closing

/-- The quotes of strings. -/
def stringQuotes : List Char := ['\'', '"']

namespace TypeScript

variable (source : TypeScript)

/-- A construct uses an id behind a part of a source, as a literal in such quotes. -/
def UsesIn (constructId : List Char) (quote : Char) (before : List Lexeme) : Prop :=
  quote ∈ stringQuotes ∧ ∃ header after, IsHeader quote constructId header ∧
    source.lexemes = before ++ header ++ after

/-- A construct uses an id behind a part of a source. -/
def Uses (constructId : List Char) (before : List Lexeme) : Prop :=
  ∃ quote, source.UsesIn constructId quote before

/-- A position that is not inside a string or a comment. -/
def Outside (position : ℕ) : Prop :=
  ∃ before after, source.lexemes = before ++ after ∧ (renderSource before).length = position

/-- A construct, its braces, and the span of its call. -/
structure Construct (constructId : List Char) (start stop : ℕ) (before header body : List Lexeme)
    (after : List Lexeme) : Prop where
  split : source.lexemes = before ++ header ++ (body ++ .code '\x7d' :: after)
  named : ∃ quote ∈ stringQuotes, IsHeader quote constructId header
  braces : BracesMatch body
  begins : start = (renderSource before).length
  ends : stop = (renderSource (before ++ header ++ (body ++ [.code '\x7d']))).length +
    closingCall (renderSource after)

/-- The only construct that uses an id, and its span. -/
def OnlyConstruct (constructId : List Char) (start stop : ℕ) : Prop :=
  ∃ before header body after, source.Construct constructId start stop before header body after ∧
    ∀ other, source.Uses constructId other → other = before

end TypeScript

section headers

variable {quote : Char} {constructId : List Char} {header : List Lexeme}

/-- The quotes of strings open strings and are no blanks. -/
theorem quoteMark_of_string (h : quote ∈ stringQuotes) :
    quote ∈ quoteMarks ∧ isSpace quote = false := by
  unfold stringQuotes at h
  simp only [List.mem_cons, List.not_mem_nil, or_false] at h
  rcases h with rfl | rfl
  · decide
  · decide

/-- The pattern of a header needs no choice. -/
theorem header_solid (h : quote ∈ stringQuotes) :
    solid isSpace (headerOpening ++ .word (literalOf quote constructId) :: headerClosing) =
      true := by
  have hspace := (quoteMark_of_string h).2
  unfold literalOf headerOpening headerClosing
  simp only [List.cons_append, List.nil_append, solid, opensSolid, hspace]
  decide

/-- A header has a word that is not empty. -/
theorem header_word {literal : List Char} :
    ∃ c word, Gapped.word (c :: word) ∈ headerOpening ++ .word literal :: headerClosing :=
  ⟨'n', ['e', 'w'], List.mem_cons_self⟩

/-- A match of a header is a part of the text that is not empty. -/
theorem constructHeader_fits (h : quote ∈ stringQuotes) :
    (constructHeader (literalOf quote constructId)).Fits :=
  gapped_fits (header_solid h) header_word

/-- The parts of a header's text. -/
theorem spelled_header {literal chars : List Char} :
    Spelled isSpace (headerOpening ++ .word literal :: headerClosing) chars ↔
      ∃ opening closing, Spelled isSpace headerOpening opening ∧
        Spelled isSpace headerClosing closing ∧ chars = opening ++ (literal ++ closing) := by
  rw [spelled_append]
  constructor
  · rintro ⟨opening, rest, rfl, hopening, hrest⟩
    cases hrest with
    | word _ hclosing => exact ⟨opening, _, hopening, hclosing, rfl⟩
  · rintro ⟨opening, closing, hopening, hclosing, rfl⟩
    exact ⟨opening, literal ++ closing, rfl, hopening, .word literal hclosing⟩

/-- The text of a header is its beginning, the literal and its end. -/
theorem renderSource_header {opening closing : List Char} :
    renderSource (codes opening ++ .text quote constructId :: codes closing) =
      opening ++ (literalOf quote constructId ++ closing) := by
  rw [renderSource_append, renderSource_codes, renderSource_cons, renderSource_codes]
  rfl

/-- The text of a header is one of its pattern. -/
theorem IsHeader.spelled (h : IsHeader quote constructId header) :
    Spelled isSpace (headerOpening ++ .word (literalOf quote constructId) :: headerClosing)
      (renderSource header) := by
  obtain ⟨opening, closing, hopening, hclosing, rfl⟩ := h
  rw [renderSource_header]
  exact spelled_header.mpr ⟨opening, closing, hopening, hclosing, rfl⟩

/-- Every character of the words around an id is bare. -/
theorem opening_bare {opening : List Char} (h : Spelled isSpace headerOpening opening) :
    ∀ c ∈ opening, bareChar c = true := by
  refine h.all (fun c hc => bareChar_of_isSpace hc) fun word hword => ?_
  unfold headerOpening at hword
  simp only [List.mem_cons, Gapped.word.injEq, reduceCtorEq, List.not_mem_nil, or_false,
    false_or] at hword
  rcases hword with rfl | rfl | rfl | rfl | rfl
  · decide
  · decide
  · decide
  · decide
  · decide

/-- What follows the literal of a header holds no quotes and no comments. -/
theorem closing_bare {closing : List Char} (h : Spelled isSpace headerClosing closing) :
    ∀ c ∈ closing, bareChar c = true := by
  refine h.all (fun c hc => bareChar_of_isSpace hc) fun word hword => ?_
  unfold headerClosing at hword
  simp only [List.mem_cons, Gapped.word.injEq, reduceCtorEq, List.not_mem_nil, or_false,
    false_or] at hword
  rcases hword with rfl | rfl
  · decide
  · decide

/-- The text of a header at the beginning of a source is one of code around the literal id. -/
theorem header_of_render {source : List Lexeme} {chars rest : List Char} (hsource : Lexed source)
    (hquote : quote ∈ stringQuotes) (hid : quote ∉ constructId) (hslash : '\\' ∉ constructId)
    (hchars : Spelled isSpace
      (headerOpening ++ .word (literalOf quote constructId) :: headerClosing) chars)
    (h : renderSource source = chars ++ rest) :
    ∃ header after, source = header ++ after ∧ IsHeader quote constructId header ∧
      renderSource header = chars := by
  obtain ⟨opening, closing, hopening, hclosing, rfl⟩ := spelled_header.mp hchars
  rw [List.append_assoc] at h
  obtain ⟨middle, rfl, hmiddle⟩ := codes_of_render (opening_bare hopening) hsource h
  unfold literalOf at hmiddle
  rw [List.append_assoc, List.cons_append, List.append_assoc, List.singleton_append] at hmiddle
  have hlexed := Lexed.of_append hsource
  obtain ⟨tail, rfl, htail⟩ :=
    text_of_render (quoteMark_of_string hquote).1 hid hslash hlexed hmiddle
  obtain ⟨after, rfl, _⟩ := codes_of_render (closing_bare hclosing) hlexed.2 htail
  refine ⟨codes opening ++ .text quote constructId :: codes closing, after, by simp,
    ⟨opening, closing, hopening, hclosing, rfl⟩, renderSource_header⟩

/-- A character that is no space and in no word is in no text of the parts. -/
theorem notMem_spelled {parts : List Gapped} {chars : List Char} {c : Char}
    (h : Spelled isSpace parts chars) (hspace : isSpace c = false)
    (hwords : ∀ word, Gapped.word word ∈ parts → c ∉ word) : c ∉ chars := by
  have hother := h.all (P := (· ≠ c)) (fun d hd heq => by rw [← heq, hd] at hspace; cases hspace)
    fun word hword d hd heq => hwords word hword (heq ▸ hd)
  exact fun hmem => hother c hmem rfl

/-- Only the first character of a header's opening is that of `new`. -/
theorem opening_head {opening : List Char} (h : Spelled isSpace headerOpening opening) :
    ∃ tail, opening = 'n' :: tail ∧ 'n' ∉ tail := by
  cases h with
  | word _ hrest =>
    refine ⟨['e', 'w'] ++ _, rfl, ?_⟩
    rw [List.mem_append, not_or]
    refine ⟨by decide, notMem_spelled hrest (by decide) fun word hword => ?_⟩
    simp only [List.mem_cons, Gapped.word.injEq, reduceCtorEq, List.not_mem_nil, or_false,
      false_or] at hword
    rcases hword with rfl | rfl | rfl | rfl
    · decide
    · decide
    · decide
    · decide

/-- Only the last character of a header's closing is a brace. -/
theorem closing_last {closing : List Char} (h : Spelled isSpace headerClosing closing) :
    ∃ front, closing = front ++ ['\x7b'] ∧ '\x7b' ∉ front := by
  obtain ⟨front, last, rfl, hfront, hlast⟩ :=
    (@spelled_append _ [.gap, .word [','], .gap] closing [.word ['\x7b']]).mp h
  cases hlast with
  | word _ hnil =>
    cases hnil
    refine ⟨front, rfl, notMem_spelled hfront (by decide) fun word hword => ?_⟩
    simp only [List.mem_cons, Gapped.word.injEq, reduceCtorEq, List.not_mem_nil, or_false,
      false_or] at hword
    subst hword
    decide

/-- Only the first character of a header begins a `new` of its code. -/
theorem header_tail (h : IsHeader quote constructId header) :
    ∃ tail, header = .code 'n' :: tail ∧ .code 'n' ∉ tail := by
  obtain ⟨opening, closing, hopening, hclosing, rfl⟩ := h
  obtain ⟨tail, rfl, htail⟩ := opening_head hopening
  have hend : 'n' ∉ closing := by
    refine notMem_spelled hclosing (by decide) fun word hword => ?_
    unfold headerClosing at hword
    simp only [List.mem_cons, Gapped.word.injEq, reduceCtorEq, List.not_mem_nil, or_false,
      false_or] at hword
    rcases hword with rfl | rfl
    · decide
    · decide
  have hcodes {chars : List Char} (hchars : 'n' ∉ chars) : Lexeme.code 'n' ∉ codes chars := by
    intro hmem
    obtain ⟨c, hc, heq⟩ := List.mem_map.mp hmem
    rw [Lexeme.code.inj heq] at hc
    exact hchars hc
  refine ⟨codes tail ++ .text quote constructId :: codes closing, rfl, ?_⟩
  rw [List.mem_append, List.mem_cons]
  rintro (hmem | hmem | hmem)
  · exact hcodes htail hmem
  · cases hmem
  · exact hcodes hend hmem

end headers

section ids

variable {printable : Char → Bool} {constructId : List Char}

/-- A character that `repr` shows as it is. -/
def isShown (printable : Char → Bool) (c : Char) : Bool :=
  32 ≤ c.toNat && c.toNat ≠ 127 && (c.toNat < 127 || printable c)

/-- An id of characters that both spellings show as they are, without a brace. -/
def PlainId (printable : Char → Bool) (constructId : List Char) : Prop :=
  ∀ c ∈ constructId, isShown printable c = true ∧ c ≠ '\\' ∧ c ≠ '"' ∧ c ≠ '\x7b'

/-- A character that is shown stands for itself in a `repr`. -/
theorem reprChar_shown {quote c : Char} (hshown : isShown printable c = true) (hquote : c ≠ quote)
    (hslash : c ≠ '\\') : reprChar printable quote c = [c] := by
  unfold isShown at hshown
  simp only [Bool.and_eq_true, decide_eq_true_eq, Bool.or_eq_true] at hshown
  obtain ⟨⟨hlow, hdelete⟩, hhigh⟩ := hshown
  have hother (d : Char) (hd : d.toNat < 32) : c ≠ d := by
    rintro rfl
    omega
  unfold reprChar
  rw [if_neg (not_or.mpr ⟨hquote, hslash⟩), if_neg (hother '\t' (by decide)),
    if_neg (hother '\n' (by decide)), if_neg (hother '\r' (by decide)), if_neg (by omega),
    if_pos hhigh]

/-- A `repr` is in the quotes of a string. -/
theorem reprQuote_string (text : List Char) : reprQuote text ∈ stringQuotes := by
  unfold reprQuote
  split
  · decide
  · decide

/-- A plain id is spelled as it is, between quotes that it does not have. -/
theorem PlainId.reprText (h : PlainId printable constructId) :
    reprText printable constructId = literalOf (reprQuote constructId) constructId ∧
      reprQuote constructId ∉ constructId := by
  have hdouble : '"' ∉ constructId := fun hmem => (h _ hmem).2.2.1 rfl
  have hquote : reprQuote constructId ∉ constructId := by
    unfold reprQuote
    split
    · exact hdouble
    · rename_i hnot
      exact fun hsingle => hnot ⟨hsingle, hdouble⟩
  refine ⟨?_, hquote⟩
  have hsame : constructId.flatMap (reprChar printable (reprQuote constructId)) = constructId := by
    have hchar : ∀ c ∈ constructId, reprChar printable (reprQuote constructId) c = [c] :=
      fun c hc => reprChar_shown (h c hc).1 (fun heq => hquote (heq ▸ hc)) (h c hc).2.1
    rw [List.flatMap_congr hchar, List.flatMap_singleton']
  unfold ElCapitan.reprText literalOf
  rw [hsame]
  rfl

/-- A body without backslashes does not have its quote. -/
theorem quote_notMem {quote : Char} {body : List Char} (hbody : staysQuoted quote false body = true)
    (hslash : '\\' ∉ body) : quote ∉ body := by
  induction body with
  | nil => exact List.not_mem_nil
  | cons c body ih =>
    obtain ⟨hc, hrest⟩ := not_or.mp (List.mem_cons.not.mp hslash)
    rw [staysQuoted, if_neg (Ne.symm hc), Bool.and_eq_true, decide_eq_true_eq] at hbody
    exact List.mem_cons.not.mpr (not_or.mpr ⟨Ne.symm hbody.1, ih hbody.2 hrest⟩)

end ids

section uses

variable {source : TypeScript} {constructId : List Char} {quote quote' : Char}
  {before before' : List Lexeme} {p n : ℕ}

/-- A header is matched where it stands. -/
theorem matchAt_of_header {header after : List Lexeme} (hquote : quote ∈ stringQuotes)
    (hheader : IsHeader quote constructId header)
    (hsplit : source.lexemes = before ++ header ++ after) :
    (constructHeader (literalOf quote constructId)).matchAt source.text
      (renderSource before).length = some (renderSource header).length := by
  refine (gapped_matchAt (header_solid hquote) header_word).mpr
    ⟨renderSource before, renderSource header, renderSource after, ?_, rfl, hheader.spelled, rfl⟩
  unfold TypeScript.text
  rw [hsplit, renderSource_append, renderSource_append, List.append_assoc]

/-- What is matched outside strings and comments is a header. -/
theorem header_of_matchAt (hquote : quote ∈ stringQuotes) (hid : quote ∉ constructId)
    (hslash : '\\' ∉ constructId) (houtside : source.Outside p)
    (h : (constructHeader (literalOf quote constructId)).matchAt source.text p = some n) :
    ∃ before header after, source.lexemes = before ++ header ++ after ∧
      IsHeader quote constructId header ∧ (renderSource before).length = p ∧
      (renderSource header).length = n := by
  obtain ⟨first, chars, rest, htext, hlength, hchars, rfl⟩ :=
    (gapped_matchAt (header_solid hquote) header_word).mp h
  obtain ⟨before, behind, hsplit, hp⟩ := houtside
  have hrender : renderSource before ++ renderSource behind = first ++ (chars ++ rest) := by
    rw [← renderSource_append, ← hsplit]
    exact htext
  obtain ⟨_, hbehind⟩ := List.append_inj hrender (hp.trans hlength.symm)
  have hlexed : Lexed behind := by
    have hsource := source.lexed
    rw [hsplit] at hsource
    exact Lexed.of_append hsource
  obtain ⟨header, after, rfl, hheader, hchars'⟩ :=
    header_of_render hlexed hquote hid hslash hchars hbehind
  exact ⟨before, header, after, by rw [hsplit, List.append_assoc], hheader, hp, by rw [hchars']⟩

/-- Headers do not overlap. -/
theorem headers_disjoint {header header' after after' : List Lexeme}
    (hheader : IsHeader quote constructId header) (hheader' : IsHeader quote' constructId header')
    (hsplit : source.lexemes = before ++ header ++ after)
    (hsplit' : source.lexemes = before' ++ header' ++ after')
    (hle : (renderSource before).length ≤ (renderSource before').length)
    (hlt : (renderSource before').length <
      (renderSource before).length + (renderSource header).length) : before = before' := by
  have hsame : before ++ (header ++ after) = before' ++ (header' ++ after') := by
    rw [← List.append_assoc, ← List.append_assoc, ← hsplit, hsplit']
  rcases List.append_eq_append_iff.mp hsame with ⟨between, rfl, hbetween⟩ | ⟨between, rfl, _⟩
  · cases between with
    | nil => rw [List.append_nil]
    | cons lexeme between =>
      exfalso
      obtain ⟨tail, rfl, htail⟩ := header_tail hheader
      obtain ⟨tail', rfl, _⟩ := header_tail hheader'
      obtain ⟨rfl, hrest⟩ := List.cons.inj hbetween
      rcases List.append_eq_append_iff.mp hrest with ⟨more, rfl, _⟩ | ⟨more, rfl, hmore⟩
      · simp only [renderSource_append, renderSource_cons, List.length_append] at hlt
        omega
      · cases more with
        | nil =>
          simp only [renderSource_append, renderSource_cons, List.length_append,
            renderSource_nil, List.length_nil] at hlt
          omega
        | cons first more =>
          obtain ⟨rfl, _⟩ := List.cons.inj hmore
          exact htail (List.mem_append_right _ List.mem_cons_self)
  · refine prefix_of_length hsame ?_
    rw [renderSource_append, List.length_append] at hle ⊢
    omega

/-- The quote of a literal whose id has no backslash is not in the id. -/
theorem TypeScript.UsesIn.notMem (h : source.UsesIn constructId quote before)
    (hslash : '\\' ∉ constructId) : quote ∉ constructId := by
  obtain ⟨_, header, after, ⟨opening, closing, _, _, rfl⟩, hsplit⟩ := h
  have hlexed := source.lexed
  rw [hsplit, List.append_assoc, List.append_assoc] at hlexed
  have htext := Lexed.of_append (Lexed.of_append hlexed)
  exact quote_notMem htext.1.2 hslash

end uses

section finding

/-- Every text that reads as a header of an id, in either spelling, stands outside strings and
comments, and the constructs that use the id have one style of quotes. -/
structure Unmistakable (printable : Char → Bool) (source : TypeScript) (constructId : List Char) :
    Prop where
  bare : ∀ literal ∈ [reprText printable constructId, literalOf '"' constructId], ∀ p n,
    (constructHeader literal).matchAt source.text p = some n → source.Outside p
  oneStyle : ∀ quote quote' before before', source.UsesIn constructId quote before →
    source.UsesIn constructId quote' before' → quote = quote'

variable {printable : Char → Bool} {source : TypeScript} {constructId : List Char}

/-- The headers that are found are those of the constructs that use the id. -/
structure Finds (printable : Char → Bool) (source : TypeScript) (constructId : List Char)
    (quote : Char) : Prop where
  quoteMark : quote ∈ stringQuotes
  found : headersOf printable source.text constructId =
    (constructHeader (literalOf quote constructId)).findAll source.text
  header : ∀ p n, (constructHeader (literalOf quote constructId)).matchAt source.text p = some n →
    ∃ before header after, source.lexemes = before ++ header ++ after ∧
      IsHeader quote constructId header ∧ (renderSource before).length = p ∧
      (renderSource header).length = n
  style : ∀ quote' before, source.UsesIn constructId quote' before → quote' = quote

/-- The search with one spelling and then the other finds every construct that uses the id. -/
theorem Unmistakable.finds (h : Unmistakable printable source constructId)
    (hplain : PlainId printable constructId) :
    ∃ quote, Finds printable source constructId quote := by
  obtain ⟨hrepr, hnot⟩ := hplain.reprText
  have hmark := reprQuote_string constructId
  have hslash : '\\' ∉ constructId := fun hmem => (hplain _ hmem).2.1 rfl
  have hdouble : '"' ∉ constructId := fun hmem => (hplain _ hmem).2.2.1 rfl
  have hheader {quote : Char} (hquote : quote ∈ stringQuotes) (hid : quote ∉ constructId)
      (hliteral : literalOf quote constructId ∈
        [reprText printable constructId, literalOf '"' constructId]) (p n : ℕ)
      (hmatch : (constructHeader (literalOf quote constructId)).matchAt source.text p = some n) :=
    header_of_matchAt hquote hid hslash (h.bare _ hliteral p n hmatch) hmatch
  by_cases hnone : (constructHeader (reprText printable constructId)).findAll source.text = []
  · have hheadersOf : headersOf printable source.text constructId =
        (constructHeader (literalOf '"' constructId)).findAll source.text := by
      unfold headersOf
      rw [hnone]
      rfl
    refine ⟨'"', by decide, hheadersOf, hheader (by decide) hdouble (by simp),
      fun quote' before huses => ?_⟩
    -- a construct in single quotes would have been found with the first spelling
    by_contra hother
    have hsingle : quote' = '\'' := by
      have hmem := huses.1
      unfold stringQuotes at hmem
      simp only [List.mem_cons, List.not_mem_nil, or_false] at hmem
      exact hmem.resolve_right hother
    subst hsingle
    have hid := huses.notMem hslash
    have hquote : reprQuote constructId = '\'' := by
      unfold reprQuote
      rw [if_neg fun hboth => hid hboth.1]
    rw [hrepr, hquote] at hnone
    obtain ⟨_, header, after, hisHeader, hsplit⟩ := huses
    have hmatch := matchAt_of_header (by decide) hisHeader hsplit
    rw [(Pattern.findAll_eq_nil_iff (constructHeader_fits (by decide))).mp hnone] at hmatch
    cases hmatch
  · have hheadersOf : headersOf printable source.text constructId =
        (constructHeader (literalOf (reprQuote constructId) constructId)).findAll source.text := by
      unfold headersOf
      split
      · rename_i hnil
        exact absurd hnil hnone
      · rw [hrepr]
    have hliteral : literalOf (reprQuote constructId) constructId ∈
        [reprText printable constructId, literalOf '"' constructId] := by
      rw [hrepr]
      exact List.mem_cons_self
    have hheaders := hheader hmark hnot hliteral
    refine ⟨reprQuote constructId, hmark, hheadersOf, hheaders, fun quote' before huses => ?_⟩
    obtain ⟨⟨p, n⟩, others, hlist⟩ := List.exists_cons_of_ne_nil hnone
    rw [hrepr] at hlist
    obtain ⟨hmatch, _⟩ := Pattern.findAll_head (constructHeader_fits hmark) hlist
    obtain ⟨first, header, after, hsplit, hisHeader, _⟩ := hheaders p n hmatch
    exact h.oneStyle quote' (reprQuote constructId) before first huses
      ⟨hmark, header, after, hisHeader, hsplit⟩

/-- A header ends with its only brace. -/
theorem IsHeader.brace {quote : Char} {header : List Lexeme}
    (h : IsHeader quote constructId header) (hquote : quote ∈ stringQuotes)
    (hbrace : '\x7b' ∉ constructId) :
    ∃ front, renderSource header = front ++ ['\x7b'] ∧ '\x7b' ∉ front := by
  obtain ⟨opening, closing, hopening, hclosing, rfl⟩ := h
  obtain ⟨front, rfl, hfront⟩ := closing_last hclosing
  have hopen : '\x7b' ∉ opening := by
    refine notMem_spelled hopening (by decide) fun word hword => ?_
    unfold headerOpening at hword
    simp only [List.mem_cons, Gapped.word.injEq, reduceCtorEq, List.not_mem_nil, or_false,
      false_or] at hword
    rcases hword with rfl | rfl | rfl | rfl | rfl
    · decide
    · decide
    · decide
    · decide
    · decide
  have hliteral : '\x7b' ∉ literalOf quote constructId := by
    have hother : '\x7b' ≠ quote := by
      rintro rfl
      exact absurd hquote (by decide)
    unfold literalOf
    simp only [List.mem_cons, List.mem_append, List.not_mem_nil, or_false, not_or]
    exact ⟨hother, hbrace, hother⟩
  refine ⟨opening ++ (literalOf quote constructId ++ front), ?_, ?_⟩
  · rw [renderSource_header]
    simp
  · simp only [List.mem_append, not_or]
    exact ⟨hopen, hliteral, hfront⟩

/-- An opening brace of code goes one level down. -/
theorem closeBrace_opening (depth : ℕ) (rest : List Char) :
    closeBrace .code depth ('\x7b' :: rest) = closeBrace .code (depth + 1) rest := by
  rw [closeBrace_code fun heq => absurd heq (by decide), if_neg (by decide), if_pos rfl]

/-- The scan from a header's brace finds what is behind the matching one. -/
theorem closeBrace_header {quote : Char} {before header after : List Lexeme}
    (hheader : IsHeader quote constructId header) (hquote : quote ∈ stringQuotes)
    (hbrace : '\x7b' ∉ constructId) (hsplit : source.lexemes = before ++ header ++ after) :
    closeBrace .code 0 (source.text.drop ((renderSource before).length +
        ((source.text.drop (renderSource before).length).take (renderSource header).length).idxOf
          '\x7b')) = (closing 1 after).map renderSource := by
  obtain ⟨front, hfront, hnot⟩ := hheader.brace hquote hbrace
  have htext : source.text = renderSource before ++ (front ++ '\x7b' :: renderSource after) := by
    unfold TypeScript.text
    rw [hsplit, renderSource_append, renderSource_append, hfront]
    simp
  have hslice : (source.text.drop (renderSource before).length).take
      (renderSource header).length = front ++ ['\x7b'] := by
    have hassoc : front ++ '\x7b' :: renderSource after =
        (front ++ ['\x7b']) ++ renderSource after := by
      simp
    rw [htext, List.drop_left, hfront, hassoc, List.take_left]
  have hindex : (front ++ ['\x7b']).idxOf '\x7b' = front.length := by
    rw [List.idxOf_append_of_notMem hnot, List.idxOf_cons_self, Nat.add_zero]
  have hdrop : source.text.drop ((renderSource before).length + front.length) =
      '\x7b' :: renderSource after := by
    rw [htext, List.drop_length_add_append, List.drop_left]
  have hlexed : Lexed after := by
    have hsource := source.lexed
    rw [hsplit] at hsource
    exact Lexed.of_append hsource
  rw [hslice, hindex, hdrop, closeBrace_opening, closeBrace_source hlexed]

/-- Where one header is found, its construct is the only one with the id, and the span is its. -/
theorem matching_single {quote : Char} (hfinds : Finds printable source constructId quote)
    (hbrace : '\x7b' ∉ constructId) {p n : ℕ}
    (hlist : headersOf printable source.text constructId = [(p, n)]) :
    ∃ before header after, source.lexemes = before ++ header ++ after ∧
      IsHeader quote constructId header ∧ p = (renderSource before).length ∧
      (∀ other, source.Uses constructId other → other = before) ∧
      matchingConstruct printable source.text constructId =
        match closing 1 after with
        | some rest => .ok (some (p, source.text.length - (renderSource rest).length +
            closingCall (renderSource rest)))
        | none => .error (cdkError ("unterminated s3.Bucket construct " ++
            String.ofList (reprText printable constructId))) := by
  have hall := hfinds.found.symm.trans hlist
  obtain ⟨hmatch, hothers⟩ :=
    Pattern.findAll_single (constructHeader_fits hfinds.quoteMark) hall
  obtain ⟨before, header, after, hsplit, hheader, rfl, rfl⟩ := hfinds.header p n hmatch
  refine ⟨before, header, after, hsplit, hheader, rfl, fun other huses => ?_, ?_⟩
  · obtain ⟨quote', huses⟩ := huses
    obtain rfl := hfinds.style quote' other huses
    obtain ⟨hmark, header', after', hheader', hsplit'⟩ := huses
    obtain ⟨hle, hlt⟩ := hothers _ _ (matchAt_of_header hmark hheader' hsplit')
    exact (headers_disjoint hheader hheader' hsplit hsplit' hle hlt).symm
  · unfold matchingConstruct
    rw [hlist]
    dsimp only
    rw [closeBrace_header hheader hfinds.quoteMark hbrace hsplit]
    cases closing 1 after with
    | some rest => rfl
    | none => rfl

/-- The header of a construct is the one that stands there. -/
theorem header_unique {quote : Char} {before header header' after after' : List Lexeme}
    (hquote : quote ∈ stringQuotes) (hheader : IsHeader quote constructId header)
    (hheader' : IsHeader quote constructId header')
    (hsplit : source.lexemes = before ++ header ++ after)
    (hsplit' : source.lexemes = before ++ header' ++ after') : after = after' := by
  have hsame : header ++ after = header' ++ after' := by
    rw [hsplit, List.append_assoc, List.append_assoc] at hsplit'
    exact List.append_cancel_left hsplit'
  have hrender := congrArg renderSource hsame
  rw [renderSource_append, renderSource_append] at hrender
  obtain ⟨htext, _⟩ :=
    hheader.spelled.unique (header_solid hquote) hheader'.spelled hrender
  obtain rfl := prefix_of_length hsame (by rw [htext])
  exact List.append_cancel_left hsame

/-- What the scan finds behind the header of a construct is behind its braces. -/
theorem TypeScript.Construct.closing {quote : Char} {start stop : ℕ}
    {before header header' body after after' : List Lexeme}
    (hfinds : Finds printable source constructId quote)
    (h : source.Construct constructId start stop before header' body after')
    (hheader : IsHeader quote constructId header)
    (hsplit : source.lexemes = before ++ header ++ after) :
    ElCapitan.closing 1 after = some after' := by
  obtain ⟨quote', hquote', hheader'⟩ := h.named
  obtain rfl := hfinds.style quote' before ⟨hquote', header', _, hheader', h.split⟩
  rw [header_unique hquote' hheader hheader' hsplit h.split]
  exact closing_eq_some.mpr ⟨body, rfl, h.braces⟩

/-- The construct behind whose braces a scan goes on. -/
theorem construct_of_closing {quote : Char} {before header after rest : List Lexeme}
    (hquote : quote ∈ stringQuotes) (hheader : IsHeader quote constructId header)
    (hsplit : source.lexemes = before ++ header ++ after) (h : closing 1 after = some rest) :
    ∃ body, source.Construct constructId (renderSource before).length
      (source.text.length - (renderSource rest).length + closingCall (renderSource rest)) before
      header body rest := by
  obtain ⟨body, rfl, hbody⟩ := closing_eq_some.mp h
  refine ⟨body, hsplit, ⟨quote, hquote, hheader⟩, hbody, rfl, ?_⟩
  unfold TypeScript.text
  rw [hsplit]
  simp only [renderSource_append, renderSource_cons, List.length_append, renderSource_nil,
    List.length_nil]
  omega

/-- The span of a construct ends with its call, behind everything up to its braces. -/
theorem TypeScript.Construct.stop_eq {start stop : ℕ} {before header body after : List Lexeme}
    (h : source.Construct constructId start stop before header body after) :
    stop = source.text.length - (renderSource after).length + closingCall (renderSource after) := by
  rw [h.ends]
  unfold TypeScript.text
  rw [h.split]
  simp only [renderSource_append, renderSource_cons, List.length_append, renderSource_nil,
    List.length_nil]
  omega

/-- The lexemes before a construct are those before a use of its id. -/
theorem TypeScript.Construct.uses {start stop : ℕ} {before header body after : List Lexeme}
    (h : source.Construct constructId start stop before header body after) :
    source.Uses constructId before := by
  obtain ⟨quote, hquote, hheader⟩ := h.named
  exact ⟨quote, hquote, header, _, hheader, h.split⟩

end finding

/-- Where every text that reads as a header of a plain id is one, in one style of quotes, a span is
found exactly if it is that of the only construct that uses the id, from its `new` to the brace that
matches the one of its properties and over the end of its call; nothing is found exactly if no
construct uses the id; and two of them are an error. -/
theorem matching_construct_unambiguous (printable : Char → Bool) (source : TypeScript)
    (constructId : List Char) (hplain : PlainId printable constructId)
    (h : Unmistakable printable source constructId) :
    (∀ start stop, matchingConstruct printable source.text constructId = .ok (some (start, stop)) ↔
      source.OnlyConstruct constructId start stop) ∧
    (matchingConstruct printable source.text constructId = .ok none ↔
      ∀ before, ¬source.Uses constructId before) ∧
    ((∃ before before', before ≠ before' ∧ source.Uses constructId before ∧
        source.Uses constructId before') →
      ∃ e, matchingConstruct printable source.text constructId = .error e) := by
  obtain ⟨quote, hfinds⟩ := h.finds hplain
  have hbrace : '\x7b' ∉ constructId := fun hmem => (hplain _ hmem).2.2.2 rfl
  have hfits := @constructHeader_fits quote constructId hfinds.quoteMark
  rcases hlist : headersOf printable source.text constructId with _ | ⟨⟨p, n⟩, _ | ⟨⟨q, m⟩, others⟩⟩
  · have hunused (before : List Lexeme) : ¬source.Uses constructId before := by
      rintro ⟨quote', huses⟩
      obtain rfl := hfinds.style quote' before huses
      obtain ⟨hmark, header, after, hheader, hsplit⟩ := huses
      have hmatch := matchAt_of_header hmark hheader hsplit
      rw [(Pattern.findAll_eq_nil_iff hfits).mp (hfinds.found.symm.trans hlist)] at hmatch
      cases hmatch
    have hresult : matchingConstruct printable source.text constructId = .ok none := by
      unfold matchingConstruct
      rw [hlist]
    rw [hresult]
    refine ⟨fun start stop => ⟨fun hsome => (by cases hsome), ?_⟩, by simp [hunused], ?_⟩
    · rintro ⟨before, header, body, after, hconstruct, _⟩
      exact absurd hconstruct.uses (hunused before)
    · rintro ⟨before, _, _, huses, _⟩
      exact absurd huses (hunused before)
  · obtain ⟨before, header, after, hsplit, hheader, rfl, honly, hresult⟩ :=
      matching_single hfinds hbrace hlist
    have huses : source.Uses constructId before :=
      ⟨quote, hfinds.quoteMark, header, after, hheader, hsplit⟩
    have htwo : ¬∃ first second, first ≠ second ∧ source.Uses constructId first ∧
        source.Uses constructId second := by
      rintro ⟨first, second, hne, hfirst, hsecond⟩
      exact hne ((honly first hfirst).trans (honly second hsecond).symm)
    have hnone : ¬∀ before, ¬source.Uses constructId before := fun hall => hall before huses
    have hconstruct {start stop : ℕ} (hfound : source.OnlyConstruct constructId start stop) :
        ∃ header body rest, source.Construct constructId start stop before header body rest := by
      obtain ⟨other, header', body, rest, hother, _⟩ := hfound
      obtain rfl := honly other hother.uses
      exact ⟨header', body, rest, hother⟩
    rw [hresult]
    cases hclosing : closing 1 after with
    | none =>
      refine ⟨fun start stop => ⟨fun hsome => (by cases hsome), fun hfound => ?_⟩,
        ⟨fun hnil => (by cases hnil), fun hall => absurd hall hnone⟩, fun h => absurd h htwo⟩
      obtain ⟨header', body, rest, hother⟩ := hconstruct hfound
      rw [hother.closing hfinds hheader hsplit] at hclosing
      cases hclosing
    | some rest =>
      obtain ⟨body, hbody⟩ := construct_of_closing hfinds.quoteMark hheader hsplit hclosing
      refine ⟨fun start stop => ⟨fun hsome => ?_, fun hfound => ?_⟩,
        ⟨fun hnil => (by cases hnil), fun hall => absurd hall hnone⟩, fun h => absurd h htwo⟩
      · obtain ⟨rfl, rfl⟩ := Prod.mk.inj (Option.some.inj (Except.ok.inj hsome))
        exact ⟨before, header, body, rest, hbody, honly⟩
      · obtain ⟨header', body', rest', hother⟩ := hconstruct hfound
        have hsame := hother.closing hfinds hheader hsplit
        obtain rfl := Option.some.inj (hclosing.symm.trans hsame)
        rw [hother.begins, hother.stop_eq]
  · have hall := hfinds.found.symm.trans hlist
    obtain ⟨hfirst, _⟩ := Pattern.findAll_head hfits hall
    obtain ⟨hsecond, hbehind⟩ := Pattern.findAll_second hfits hall
    obtain ⟨before, header, after, hsplit, hheader, rfl, rfl⟩ := hfinds.header p n hfirst
    obtain ⟨before', header', after', hsplit', hheader', rfl, rfl⟩ := hfinds.header q m hsecond
    have hfirstUses : source.Uses constructId before :=
      ⟨quote, hfinds.quoteMark, header, after, hheader, hsplit⟩
    have hsecondUses : source.Uses constructId before' :=
      ⟨quote, hfinds.quoteMark, header', after', hheader', hsplit'⟩
    have hne : before ≠ before' := by
      rintro rfl
      obtain ⟨hpos, _⟩ := Pattern.matchAt_length hfits hfirst
      omega
    have hresult : matchingConstruct printable source.text constructId =
        .error (cdkError ("multiple s3.Bucket constructs use id " ++
          String.ofList (reprText printable constructId))) := by
      unfold matchingConstruct
      rw [hlist]
    rw [hresult]
    refine ⟨fun start stop => ⟨fun hsome => (by cases hsome), ?_⟩,
      ⟨fun hnil => (by cases hnil), fun hall => absurd hfirstUses (hall before)⟩, fun _ => ⟨_, rfl⟩⟩
    rintro ⟨only, _, _, _, _, honly⟩
    exact absurd ((honly before hfirstUses).trans (honly before' hsecondUses).symm) hne

section samples

/-- `new s3.Bucket(this, `, up to the id. -/
def sampleOpening : List Char := "new s3.Bucket(this, ".toList

/-- The header of a construct with the id `A`. -/
def sampleHeader : List Lexeme :=
  codes sampleOpening ++ .text '\'' ['A'] :: codes [',', ' ', '\x7b']

/-- The sample's header is one of its id. -/
theorem sampleHeader_isHeader : IsHeader '\'' ['A'] sampleHeader := by
  refine ⟨sampleOpening, [',', ' ', '\x7b'], ?_, ?_, rfl⟩
  · have hspace := @Spelled.gap isSpace [' '] (by decide) [] [] .nil
    have hthis := @Spelled.gap isSpace [] (by decide) _ _ (.word [','] hspace)
    have hparen := @Spelled.gap isSpace [] (by decide) _ _ (.word ['t', 'h', 'i', 's'] hthis)
    have hbucket := @Spelled.gap isSpace [] (by decide) _ _ (.word ['('] hparen)
    exact .word ['n', 'e', 'w'] (@Spelled.someGap isSpace [' '] (by decide) (by decide) _ _
      (.word ['s', '3', '.', 'B', 'u', 'c', 'k', 'e', 't'] hbucket))
  · have hbrace := @Spelled.gap isSpace [' '] (by decide) _ _ (.word ['\x7b'] .nil)
    exact @Spelled.gap isSpace [] (by decide) _ _ (.word [','] hbrace)

/-- The sample's lexemes may stand next to each other. -/
theorem sampleLexemes_lexed : Lexed (sampleHeader ++ codes ['\x7d', ')', ';']) := by
  have hcall : Lexed (codes ['\x7d', ')', ';'] ++ []) := lexed_codes (by decide) trivial
  have hend : Lexed (codes [',', ' ', '\x7b'] ++ codes ['\x7d', ')', ';']) :=
    lexed_codes (by decide) hcall
  have htext : Lexed (.text '\'' ['A'] :: (codes [',', ' ', '\x7b'] ++ codes ['\x7d', ')', ';'])) :=
    ⟨⟨by decide, by decide⟩, hend⟩
  unfold sampleHeader
  rw [List.append_assoc]
  exact lexed_codes (by decide) htext

/-- `new s3.Bucket(this, 'A', {});` -/
def sampleConstruct : TypeScript := ⟨sampleHeader ++ codes ['\x7d', ')', ';'], sampleLexemes_lexed⟩

/-- The span of a construct does not end with the brace of its properties. -/
theorem span_over_call :
    sampleConstruct.Construct ['A'] 0 29 [] sampleHeader [] (codes [')', ';']) ∧
    matchingConstruct (fun _ => true) sampleConstruct.text ['A'] = .ok (some (0, 29)) ∧
    (renderSource (sampleHeader ++ [.code '\x7d'])).length = 27 := by
  refine ⟨⟨rfl, ⟨'\'', by decide, sampleHeader_isHeader⟩, rfl, rfl, by decide +kernel⟩, ?_, ?_⟩
  · decide +kernel
  · decide +kernel

/-- The properties of a construct with a comment, a string, a template and a nested object, each
of which has a brace. -/
def nestedBody : List Lexeme :=
  codes ['\n', ' '] ++ .blockComment " \x7d ".toList ::
    codes " cors: \x7b max: 3, allow: ".toList ++
    .text '"' "\x7d\\\"\x7d".toList :: codes " \x7d, name: ".toList ++
    .text '`' "$\x7bscope\x7d".toList :: codes [',', '\n']

/-- A source with the construct behind a comment and a string that name it, and before a construct
with another id. -/
def nestedLexemes : List Lexeme :=
  .lineComment " new s3.Bucket(this, 'A') \x7b".toList :: codes "\nconst label = ".toList ++
    .text '"' "s3 \x7b".toList :: codes [';', '\n'] ++ sampleHeader ++ nestedBody ++
    codes "\x7d);\nnew s3.Bucket(this, ".toList ++ .text '\'' ['B'] ::
    codes ", \x7b\x7d);\n".toList

/-- The lexemes of the nested sample may stand next to each other. -/
theorem nestedLexemes_lexed : Lexed nestedLexemes := by
  decide +kernel

/-- The source of those parts. -/
def nestedConstruct : TypeScript := ⟨nestedLexemes, nestedLexemes_lexed⟩

/-- The construct stands behind so many characters. -/
theorem nestedConstruct_outside : nestedConstruct.Outside 52 :=
  ⟨nestedLexemes.take 19, nestedLexemes.drop 19,
    (List.take_append_drop _ _).symm, by decide +kernel⟩

/-- The construct of the source is unmistakable. -/
theorem nestedConstruct_unmistakable :
    Unmistakable (fun _ => true) nestedConstruct ['A'] := by
  constructor
  · intro literal hliteral p n hmatch
    have hsmall : ∀ literal ∈ [reprText (fun _ => true) ['A'], literalOf '"' ['A']], ∀ p < 173,
        ((constructHeader literal).matchAt nestedConstruct.text p).isSome → p = 52 := by
      decide +kernel
    have hend : p < 173 := by
      by_contra hge
      have hdrop : nestedConstruct.text.drop p = [] :=
        List.drop_eq_nil_of_le (Nat.le_trans (by decide +kernel) (not_lt.mp hge))
      unfold Pattern.matchAt at hmatch
      rw [hdrop] at hmatch
      cases hmatch
    rw [hsmall literal hliteral p hend (by rw [hmatch]; rfl)]
    exact nestedConstruct_outside
  · have hquote (quote : Char) (before : List Lexeme)
        (huses : nestedConstruct.UsesIn ['A'] quote before) : quote = '\'' := by
      obtain ⟨hstring, header, after, ⟨opening, closing, _, _, rfl⟩, hsplit⟩ := huses
      have hmem : Lexeme.text quote ['A'] ∈ nestedConstruct.lexemes := by
        rw [hsplit]
        simp
      have hsingle : ∀ quote ∈ stringQuotes, Lexeme.text quote ['A'] ∈ nestedLexemes →
          quote = '\'' := by
        decide +kernel
      exact hsingle quote hstring hmem
    intro quote quote' before before' huses huses'
    rw [hquote quote before huses, hquote quote' before' huses']

/-- The construct is found with its whole call, past the braces in its comment, its string, its
template and its nested object. -/
theorem sampleConstruct_found : matchingConstruct (fun _ => true) nestedConstruct.text ['A'] =
      .ok (some (52, 142)) ∧ nestedConstruct.OnlyConstruct ['A'] 52 142 := by
  have hresult : matchingConstruct (fun _ => true) nestedConstruct.text ['A'] =
      .ok (some (52, 142)) := by
    decide +kernel
  obtain ⟨hspan, _, _⟩ := matching_construct_unambiguous (fun _ => true) nestedConstruct ['A']
    (by unfold PlainId; decide) nestedConstruct_unmistakable
  exact ⟨hresult, (hspan 52 142).mp hresult⟩

end samples

end ElCapitan
