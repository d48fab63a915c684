import ElCapitan.Infrastructure.HclReading

/-!
# Plain resource blocks

A resource block is plain when nothing in it hides a brace from a reader of single lines: it has
no block comment, no heredoc, no quoted string inside a template and no line end inside a string
or a comment. The braces counted in a plain block are its own, so that it is read as it is meant.
-/

namespace ElCapitan

section plain

mutual

/-- An element hides nothing; in a template of a quoted string it neither ends the string nor the
line. -/
def Element.plain (inQuotes : Bool) : Element → Bool
  | .code _ => true
  | .newline => !inQuotes
  | .lineComment _ text => !inQuotes && !text.any isLineBreak
  | .blockComment _ => false
  | .quoted parts => !inQuotes && plainParts parts
  | .heredoc _ _ _ _ => false
  | .group _ inner => plainAll inQuotes inner

/-- Elements hide nothing. -/
def plainAll (inQuotes : Bool) : List Element → Bool
  | [] => true
  | element :: elements => element.plain inQuotes && plainAll inQuotes elements

/-- A part hides nothing. -/
def Part.plain : Part → Bool
  | .char c => !isLineBreak c
  | .escape _ => true
  | .templateEscape _ => true
  | .interpolation _ inner => plainAll true inner

/-- Parts hide nothing. -/
def plainParts : List Part → Bool
  | [] => true
  | part :: parts => part.plain && plainParts parts

end

/-- A gap of blanks. -/
def plainGap (gap : List Element) : Bool :=
  gap.all fun element => match element with
    | .code c => c = ' ' || c = '\t'
    | _ => false

/-- A quoted label is a text without escapes. -/
def plainLabel (parts : List Part) : Bool :=
  !parts.isEmpty && parts.all fun part => part.literal?.isSome

/-- A block with two quoted labels hides nothing. -/
def HclBlock.plain (block : HclBlock) : Bool :=
  match block.labels with
  | [(gap, .quoted resourceType), (gap', .quoted resourceName)] =>
    plainGap gap && !gap.isEmpty && plainLabel resourceType && plainGap gap' && !gap'.isEmpty &&
      plainLabel resourceName && plainGap block.opening && plainAll false block.body
  | _ => false

/-- A comment at the end of a line does not go on in another line. -/
def Ending.plain : Ending → Bool
  | .newline | .fileEnd => true
  | .comment _ text | .lastComment _ text => !text.any isLineBreak

/-- An item that is a resource block hides nothing. -/
def Item.plain : Item → Bool
  | .block indent declared trailing ending =>
    declared.resource?.isNone ||
      (plainGap indent && declared.plain && plainGap trailing && ending.plain)
  | _ => true

/-- The resource blocks of a text hide nothing. -/
def HclText.plain (text : HclText) : Bool := text.items.all Item.plain

end plain

section lines

/-- A character that does not end a line belongs to the line that follows. -/
theorem splitLines_char {c : Char} (hc : isLineBreak c = false) (rest : List Char) :
    splitLines (c :: rest) =
      match splitLines rest with
      | [] => [[c]]
      | line :: lines => (c :: line) :: lines := by
  have hreturn : c ≠ '\r' := by
    rintro rfl
    exact absurd hc (by decide)
  rw [splitLines, hc]
  · rfl
  · intro rest' hequal
    exact absurd hequal hreturn

/-- A line end is a line of its own before the rest. -/
theorem splitLines_newline (rest : List Char) :
    splitLines ('\n' :: rest) = ['\n'] :: splitLines rest := by
  rw [splitLines]
  · rfl
  · intro rest' hequal
    exact absurd hequal (by decide)

/-- The first line begins as the text does. -/
theorem splitLines_head {text : List Char} (htext : text ≠ []) :
    ∃ line lines, splitLines text = line :: lines ∧ line.head? = text.head? := by
  fun_cases splitLines text with
  | case1 => exact absurd rfl htext
  | case2 rest => exact ⟨['\r', '\n'], splitLines rest, rfl, rfl⟩
  | case3 c rest hpair hbreak => exact ⟨[c], splitLines rest, rfl, rfl⟩
  | case4 c rest hpair hbreak hempty => exact ⟨[c], [], rfl, rfl⟩
  | case5 c rest hpair hbreak line lines hlines => exact ⟨c :: line, lines, rfl, rfl⟩

/-- A text without line ends belongs to the first line that follows. -/
theorem splitLines_within {text rest : List Char} (htext : ∀ c ∈ text, isLineBreak c = false)
    (hrest : rest ≠ []) : ∃ line lines, splitLines rest = line :: lines ∧
      line.head? = rest.head? ∧ splitLines (text ++ rest) = (text ++ line) :: lines := by
  induction text with
  | nil =>
    obtain ⟨line, lines, hlines, hhead⟩ := splitLines_head hrest
    exact ⟨line, lines, hlines, hhead, hlines⟩
  | cons c text ih =>
    obtain ⟨line, lines, hlines, hhead, hsplit⟩ :=
      ih fun other hother => htext other (List.mem_cons_of_mem _ hother)
    refine ⟨line, lines, hlines, hhead, ?_⟩
    rw [List.cons_append, splitLines_char (htext c List.mem_cons_self), hsplit]
    rfl

/-- A text without line ends is one line. -/
theorem splitLines_single {text : List Char} (htext : ∀ c ∈ text, isLineBreak c = false)
    (hne : text ≠ []) : splitLines text = [text] := by
  induction text with
  | nil => exact absurd rfl hne
  | cons c text ih =>
    rw [splitLines_char (htext c List.mem_cons_self)]
    cases text with
    | nil => rfl
    | cons other text =>
      rw [ih (fun c hc => htext c (List.mem_cons_of_mem _ hc)) (by simp)]

/-- A line end that is not a carriage return ends its line. -/
theorem splitLines_break {c : Char} (hbreak : isLineBreak c = true) (hreturn : c ≠ '\r')
    (rest : List Char) : splitLines (c :: rest) = [c] :: splitLines rest := by
  rw [splitLines, if_pos hbreak]
  intro rest' hequal
  exact absurd hequal hreturn

/-- A text of whole lines: it is empty or ends with a line feed. -/
def WholeLines (text : List Char) : Prop := text = [] ∨ text.getLast? = some '\n'

/-- Whole lines without their first character are whole lines, or nothing behind a line feed. -/
theorem WholeLines.tail {c : Char} {text : List Char} (h : WholeLines (c :: text)) :
    (c = '\n' ∧ text = []) ∨ (text ≠ [] ∧ WholeLines text) := by
  rcases h with h | h
  · cases h
  · cases text with
    | nil => exact Or.inl ⟨Option.some.inj h, rfl⟩
    | cons other text =>
      rw [List.getLast?_cons_cons] at h
      exact Or.inr ⟨by simp, Or.inr h⟩

/-- Whole lines followed by whole lines. -/
theorem WholeLines.append {text rest : List Char} (h : WholeLines text) (h' : WholeLines rest) :
    WholeLines (text ++ rest) := by
  rcases h' with rfl | h'
  · rwa [List.append_nil]
  · refine Or.inr ?_
    rw [List.getLast?_append, h']
    rfl

/-- Whole lines are split for themselves. -/
theorem splitLines_append {text : List Char} (rest : List Char) (hreturn : '\r' ∉ text)
    (htext : WholeLines text) : splitLines (text ++ rest) = splitLines text ++ splitLines rest := by
  induction text with
  | nil => rfl
  | cons c text ih =>
    have hreturn' : '\r' ∉ text := fun hmem => hreturn (List.mem_cons_of_mem _ hmem)
    have hc : c ≠ '\r' := fun hequal => hreturn (hequal ▸ List.mem_cons_self)
    rcases htext.tail with ⟨rfl, rfl⟩ | ⟨hne, htail⟩
    · exact splitLines_newline rest
    · obtain ⟨line, lines, hlines, _⟩ := splitLines_head hne
      cases hbreak : isLineBreak c with
      | true =>
        rw [List.cons_append, splitLines_break hbreak hc, splitLines_break hbreak hc,
          ih hreturn' htail, List.cons_append]
      | false =>
        rw [List.cons_append, splitLines_char hbreak, splitLines_char hbreak,
          ih hreturn' htail, hlines]
        rfl

/-- Whole lines are as many as their line ends. -/
theorem splitLines_length {text : List Char} (hreturn : '\r' ∉ text) (htext : WholeLines text) :
    (splitLines text).length = breaks text := by
  induction text with
  | nil => rfl
  | cons c text ih =>
    have hreturn' : '\r' ∉ text := fun hmem => hreturn (List.mem_cons_of_mem _ hmem)
    have hc : c ≠ '\r' := fun hequal => hreturn (hequal ▸ List.mem_cons_self)
    rcases htext.tail with ⟨rfl, rfl⟩ | ⟨hne, htail⟩
    · rfl
    · obtain ⟨line, lines, hlines, _⟩ := splitLines_head hne
      have hlength := ih hreturn' htail
      unfold breaks at hlength ⊢
      rw [List.countP_cons]
      cases hbreak : isLineBreak c with
      | true => simp [splitLines_break hbreak hc, hlength]
      | false =>
        rw [splitLines_char hbreak]
        rw [hlines] at hlength ⊢
        simpa using hlength

end lines

section depths

/-- The braces counted at the ends of the lines of a text. -/
def depthsOf (depth : ℤ) (text : List Char) : List ℤ := runningDepths depth (splitLines text)

/-- Text in one line counts for a number of braces, before a character. -/
def Counts (text : List Char) (count : ℤ) (next : Option Char) : Prop :=
  (∀ c ∈ text, isLineBreak c = false) ∧
    ∀ line : List Char, line.head? = next → lineDelta (text ++ line) = count + lineDelta line

/-- Text in one line moves the depth of what follows. -/
theorem depthsOf_counts {text rest : List Char} {count : ℤ} (h : Counts text count rest.head?)
    (hrest : rest ≠ []) (depth : ℤ) :
    depthsOf depth (text ++ rest) = depthsOf (depth + count) rest := by
  obtain ⟨line, lines, hlines, hhead, hsplit⟩ := splitLines_within h.1 hrest
  unfold depthsOf
  rw [hsplit, hlines, runningDepths, runningDepths, h.2 line hhead, add_assoc]

/-- The depth stays at the end of a line. -/
theorem depthsOf_newline (depth : ℤ) (rest : List Char) :
    depthsOf depth ('\n' :: rest) = depth :: depthsOf depth rest := by
  have hdelta : lineDelta ['\n'] = 0 := by decide
  unfold depthsOf
  rw [splitLines_newline, runningDepths, hdelta, add_zero]

/-- A text after which a line is not read further. -/
theorem lineDelta_comment (hash : Bool) (text : List Char) :
    lineDelta (commentSign hash ++ text) = 0 := by
  cases hash with
  | true => simp [commentSign, lineDelta, braceDelta]
  | false => simp [commentSign, lineDelta, braceDelta]

/-- The sign of a comment ends no line. -/
theorem commentSign_within (hash : Bool) : ∀ c ∈ commentSign hash, isLineBreak c = false := by
  cases hash <;> decide

/-- A comment ends its line without a brace. -/
theorem depthsOf_comment {hash : Bool} {text : List Char}
    (htext : ∀ c ∈ text, isLineBreak c = false) (depth : ℤ) (rest : List Char) :
    depthsOf depth (commentSign hash ++ text ++ ['\n'] ++ rest) =
      depth :: depthsOf depth rest := by
  have hwithin : ∀ c ∈ commentSign hash ++ text, isLineBreak c = false := by
    intro c hc
    rcases List.mem_append.mp hc with hc | hc
    · exact commentSign_within hash c hc
    · exact htext c hc
  obtain ⟨line, lines, hlines, _, hsplit⟩ :=
    @splitLines_within _ ('\n' :: rest) hwithin (by simp)
  rw [splitLines_newline] at hlines
  obtain ⟨rfl, rfl⟩ := List.cons.inj hlines
  unfold depthsOf
  rw [List.append_assoc, List.singleton_append, hsplit, runningDepths, List.append_assoc,
    lineDelta_comment, add_zero]

end depths

section strings

/-- A character that neither ends a string nor escapes in it nor ends the line. -/
def QuietChar (c : Char) : Prop := c ≠ '"' ∧ c ≠ '\\' ∧ isLineBreak c = false

/-- A character of code is quiet. -/
theorem quiet_of_isCodeChar {c : Char} (hc : isCodeChar c = true) : QuietChar c := by
  unfold isCodeChar at hc
  simp only [List.mem_cons, List.not_mem_nil, or_false, not_or, Bool.and_eq_true,
    decide_eq_true_eq, Bool.not_eq_true'] at hc
  exact ⟨hc.1.1, hc.1.2.1, hc.2⟩

/-- An opening bracket is quiet. -/
theorem quiet_opening (bracket : Bracket) : QuietChar bracket.opening := by
  cases bracket <;> exact ⟨by decide, by decide, by decide⟩

/-- A closing bracket is quiet. -/
theorem quiet_closing (bracket : Bracket) : QuietChar bracket.closing := by
  cases bracket <;> exact ⟨by decide, by decide, by decide⟩

mutual

/-- An element of a plain template is quiet. -/
theorem quiet_render : ∀ element : Element, element.plain true = true →
    element.lexical = true → ∀ c ∈ element.render, QuietChar c
  | .code c, _, hlexical => by
    intro other hother
    rw [List.mem_singleton.mp hother]
    exact quiet_of_isCodeChar hlexical
  | .newline, hplain, _ => by cases hplain
  | .lineComment _ _, hplain, _ => by cases hplain
  | .blockComment _, hplain, _ => by cases hplain
  | .quoted _, hplain, _ => by cases hplain
  | .heredoc _ _ _ _, hplain, _ => by cases hplain
  | .group bracket inner, hplain, hlexical => by
    intro c hc
    rcases List.mem_append.mp hc with hc | hc
    · rcases List.mem_append.mp hc with hc | hc
      · rw [List.mem_singleton.mp hc]
        exact quiet_opening bracket
      · exact quiet_renderAll inner _ hplain hlexical c hc
    · rw [List.mem_singleton.mp hc]
      exact quiet_closing bracket

/-- The elements of a plain template are quiet. -/
theorem quiet_renderAll : ∀ (elements : List Element) (after : List Char),
    plainAll true elements = true → lexicalAll after elements = true →
    ∀ c ∈ renderAll elements, QuietChar c
  | [], _, _, _ => by
    intro c hc
    cases hc
  | element :: elements, after, hplain, hlexical => by
    simp only [plainAll, lexicalAll, Bool.and_eq_true] at hplain hlexical
    intro c hc
    rcases List.mem_append.mp hc with hc | hc
    · exact quiet_render element hplain.1 hlexical.1.1 c hc
    · exact quiet_renderAll elements after hplain.2 hlexical.2 c hc

end

/-- QuietChar text is not counted in a string. -/
theorem braceDelta_quiet {text : List Char} (htext : ∀ c ∈ text, QuietChar c) (rest : List Char) :
    braceDelta true false (text ++ rest) = braceDelta true false rest := by
  induction text with
  | nil => rfl
  | cons c text ih =>
    obtain ⟨hquote, hescape, _⟩ := htext c List.mem_cons_self
    rw [List.cons_append, braceDelta]
    simp [hquote, hescape, ih fun other hother => htext other (List.mem_cons_of_mem _ hother)]

/-- A part of a plain string is in its line. -/
theorem part_within {part : Part} (hplain : part.plain = true)
    (hlexical : part.lexical false = true) : ∀ c ∈ part.render, isLineBreak c = false := by
  intro c hc
  cases part with
  | char other =>
    rw [List.mem_singleton.mp hc]
    simpa [Part.plain] using hplain
  | escape other =>
    have hknown : ∀ c ∈ ['n', 'r', 't', '"', '\\', 'u', 'U'], isLineBreak c = false := by decide
    rcases List.mem_cons.mp hc with rfl | hc
    · decide
    · rw [List.mem_singleton.mp hc]
      exact hknown other (by simpa [Part.lexical] using hlexical)
  | templateEscape directive =>
    have hall : ∀ c ∈ (Part.templateEscape directive).render, isLineBreak c = false := by
      cases directive <;> decide
    exact hall c hc
  | interpolation directive inner =>
    have hsign : ∀ c ∈ [templateSign directive, '\x7b'], isLineBreak c = false := by
      cases directive <;> decide
    rcases List.mem_append.mp hc with hc | hc
    · rcases List.mem_append.mp hc with hc | hc
      · exact hsign c hc
      · exact (quiet_renderAll inner _ hplain hlexical c hc).2.2
    · rw [List.mem_singleton.mp hc]
      decide

/-- A part of a string is not counted. -/
theorem braceDelta_part {part : Part} (hplain : part.plain = true)
    (hlexical : part.lexical false = true) (rest : List Char) :
    braceDelta true false (part.render ++ rest) = braceDelta true false rest := by
  cases part with
  | char c =>
    have hc : c ≠ '"' ∧ c ≠ '\\' := by
      simp [Part.lexical] at hlexical
      exact ⟨hlexical.1, hlexical.2.1⟩
    simp [Part.render, braceDelta, hc.1, hc.2]
  | escape c => simp [Part.render, braceDelta]
  | templateEscape directive => cases directive <;> simp [Part.render, templateSign, braceDelta]
  | interpolation directive inner =>
    have hsign : ∀ c ∈ [templateSign directive, '\x7b'], QuietChar c := by
      cases directive <;> simp [templateSign, QuietChar, isLineBreak]
    have hclosing : ∀ c ∈ ['\x7d'], QuietChar c := by simp [QuietChar, isLineBreak]
    unfold Part.render
    rw [List.append_assoc, List.append_assoc, braceDelta_quiet hsign,
      braceDelta_quiet (quiet_renderAll inner _ hplain hlexical), braceDelta_quiet hclosing]

/-- The parts of a plain string are in its line and are not counted. -/
theorem plainParts_within : ∀ parts : List Part, plainParts parts = true →
    lexicalParts false parts = true → (∀ c ∈ renderParts parts, isLineBreak c = false) ∧
      ∀ rest, braceDelta true false (renderParts parts ++ rest) = braceDelta true false rest := by
  intro parts hplain hlexical
  induction parts with
  | nil => exact ⟨by simp [renderParts], fun _ => rfl⟩
  | cons part parts ih =>
    simp only [plainParts, lexicalParts, Bool.and_eq_true] at hplain hlexical
    obtain ⟨hwithin, hcounts⟩ := ih hplain.2 hlexical.2
    constructor
    · intro c hc
      rcases List.mem_append.mp hc with hc | hc
      · exact part_within hplain.1 hlexical.1.1 c hc
      · exact hwithin c hc
    · intro rest
      rw [renderParts, List.append_assoc, braceDelta_part hplain.1 hlexical.1.1, hcounts]

/-- A plain string counts for no brace. -/
theorem counts_quoted {parts : List Part} (hplain : plainParts parts = true)
    (hlexical : lexicalParts false parts = true) (next : Option Char) :
    Counts (Element.quoted parts).render 0 next := by
  obtain ⟨hwithin, hcounts⟩ := plainParts_within parts hplain hlexical
  constructor
  · intro c hc
    rcases List.mem_append.mp hc with hc | hc
    · rcases List.mem_append.mp hc with hc | hc
      · rw [List.mem_singleton.mp hc]
        decide
      · exact hwithin c hc
    · rw [List.mem_singleton.mp hc]
      decide
  · intro line _
    unfold lineDelta Element.render
    rw [List.append_assoc, List.append_assoc, List.singleton_append, braceDelta]
    simp [hcounts, braceDelta]

end strings

section bodies

/-- The braces that an opening bracket counts for. -/
def Bracket.count : Bracket → ℤ
  | .brace => 1
  | .paren | .square => 0

/-- No bracket counts for less than nothing when it opens. -/
theorem Bracket.count_nonneg (bracket : Bracket) : 0 ≤ bracket.count := by
  cases bracket <;> decide

/-- An opening bracket counts as its kind does. -/
theorem counts_opening (bracket : Bracket) (next : Option Char) :
    Counts [bracket.opening] bracket.count next := by
  constructor
  · cases bracket <;> decide
  · intro line _
    cases bracket <;> simp [Bracket.opening, Bracket.count, lineDelta, braceDelta, add_comm]

/-- A closing bracket takes back what the opening one counted. -/
theorem counts_closing (bracket : Bracket) (next : Option Char) :
    Counts [bracket.closing] (-bracket.count) next := by
  constructor
  · cases bracket <;> decide
  · intro line _
    cases bracket <;>
      simp [Bracket.closing, Bracket.count, lineDelta, braceDelta, sub_eq_neg_add]

/-- A character of code counts for no brace where it begins no comment. -/
theorem counts_code {c : Char} {rest : List Char} (hlexical : isCodeChar c = true)
    (hmay : (Element.code c).mayPrecede rest = true) : Counts [c] 0 rest.head? := by
  constructor
  · intro other hother
    rw [List.mem_singleton.mp hother]
    exact (quiet_of_isCodeChar hlexical).2.2
  · intro line hline
    have hslash : ¬(c = '/' ∧ line.head? = some '/') := by
      rintro ⟨rfl, hhead⟩
      rw [hline] at hhead
      simp [Element.mayPrecede, hhead] at hmay
    unfold isCodeChar at hlexical
    simp only [List.mem_cons, List.not_mem_nil, or_false, not_or, Bool.and_eq_true,
      decide_eq_true_eq, Bool.not_eq_true'] at hlexical
    obtain ⟨⟨hquote, _, hhash, hopen, hclose, _⟩, _⟩ := hlexical
    simp [lineDelta, braceDelta, hquote, hhash, hopen, hclose, hslash]

/-- What may follow an element depends on its first character. -/
theorem mayPrecede_head {element : Element} {after rest : List Char}
    (hhead : after.head? = rest.head?) : element.mayPrecede after = element.mayPrecede rest := by
  cases element <;> simp [Element.mayPrecede, hhead]

/-- At the line ends of a text the depth is never below the one before it, and after it the depth
is the same. -/
def Grows (text : List Char) (depth : ℤ) (rest : List Char) : Prop :=
  ∃ depths, depthsOf depth (text ++ rest) = depths ++ depthsOf depth rest ∧
    (∀ d ∈ depths, depth ≤ d) ∧ depths.length = breaks text

/-- A text within a line has no line end. -/
theorem breaks_within {text : List Char} (h : ∀ c ∈ text, isLineBreak c = false) :
    breaks text = 0 := by
  unfold breaks
  rw [List.countP_eq_zero]
  intro c hc
  simp [h c hc]

/-- Line ends of two texts add up. -/
theorem breaks_append (text rest : List Char) : breaks (text ++ rest) = breaks text + breaks rest :=
  List.countP_append

/-- A text that counts for nothing leaves the depth as it is. -/
theorem Counts.grows {text rest : List Char} (h : Counts text 0 rest.head?) (hrest : rest ≠ [])
    (depth : ℤ) : Grows text depth rest := by
  refine ⟨[], ?_, by simp, (breaks_within h.1).symm⟩
  rw [depthsOf_counts h hrest, add_zero]
  rfl

/-- The depth grows along two texts one after another. -/
theorem Grows.append {text more rest : List Char} {depth : ℤ}
    (h : Grows text depth (more ++ rest)) (h' : Grows more depth rest) :
    Grows (text ++ more) depth rest := by
  obtain ⟨depths, hdepths, hbound, hlength⟩ := h
  obtain ⟨depths', hdepths', hbound', hlength'⟩ := h'
  refine ⟨depths ++ depths', ?_, ?_, ?_⟩
  · rw [List.append_assoc, hdepths, hdepths', List.append_assoc]
  · intro d hd
    rcases List.mem_append.mp hd with hd | hd
    · exact hbound d hd
    · exact hbound' d hd
  · rw [List.length_append, breaks_append, hlength, hlength']

/-- A text in brackets grows where it grows between them. -/
theorem Grows.group {bracket : Bracket} {inner rest : List Char} {depth : ℤ}
    (h : Grows inner (depth + bracket.count) ([bracket.closing] ++ rest)) (hrest : rest ≠ []) :
    Grows ([bracket.opening] ++ inner ++ [bracket.closing]) depth rest := by
  obtain ⟨depths, hdepths, hbound, hlength⟩ := h
  have hopening := counts_opening bracket
    ((inner ++ ([bracket.closing] ++ rest)).head?)
  have hclosing := counts_closing bracket rest.head?
  refine ⟨depths, ?_, ?_, ?_⟩
  · rw [List.append_assoc, List.append_assoc, depthsOf_counts hopening (by simp), hdepths,
      depthsOf_counts hclosing hrest, add_neg_cancel_right]
  · intro d hd
    have := hbound d hd
    have := bracket.count_nonneg
    omega
  · rw [breaks_append, breaks_append, breaks_within hopening.1, breaks_within hclosing.1, hlength]
    omega

mutual

/-- A plain element grows. -/
theorem grows_element : ∀ (element : Element) (depth : ℤ) (rest : List Char),
    element.plain false = true → element.lexical = true → rest ≠ [] →
    element.mayPrecede rest = true → Grows element.render depth rest
  | .code _, depth, _, _, hlexical, hrest, hmay => (counts_code hlexical hmay).grows hrest depth
  | .newline, depth, rest, _, _, _, _ => ⟨[depth], depthsOf_newline depth rest, by simp, rfl⟩
  | .lineComment hash text, depth, rest, hplain, _, _, _ => by
    have htext : ∀ c ∈ text, isLineBreak c = false := by
      simpa [Element.plain] using hplain
    refine ⟨[depth], depthsOf_comment htext depth rest, by simp, ?_⟩
    unfold Element.render
    rw [breaks_append, breaks_append, breaks_within (commentSign_within hash),
      breaks_within htext]
    rfl
  | .blockComment _, _, _, hplain, _, _, _ => by cases hplain
  | .quoted parts, depth, rest, hplain, hlexical, hrest, _ =>
    (counts_quoted hplain hlexical rest.head?).grows hrest depth
  | .heredoc _ _ _ _, _, _, hplain, _, _, _ => by cases hplain
  | .group bracket inner, depth, rest, hplain, hlexical, hrest, _ =>
    (grows_elements inner (depth + bracket.count) ([bracket.closing] ++ rest)
      [bracket.closing] hplain hlexical (by simp) rfl).group hrest

/-- Plain elements grow. -/
theorem grows_elements : ∀ (elements : List Element) (depth : ℤ) (rest after : List Char),
    plainAll false elements = true → lexicalAll after elements = true → rest ≠ [] →
    rest.head? = after.head? → Grows (renderAll elements) depth rest
  | [], _, _, _, _, _, _, _ => ⟨[], rfl, by simp, rfl⟩
  | element :: elements, depth, rest, after, hplain, hlexical, hrest, hhead => by
    simp only [plainAll, lexicalAll, Bool.and_eq_true] at hplain hlexical
    have hheads : (renderAll elements ++ after).head? = (renderAll elements ++ rest).head? := by
      rw [List.head?_append, List.head?_append, hhead]
    have hmay : element.mayPrecede (renderAll elements ++ rest) = true := by
      rw [← mayPrecede_head hheads]
      exact hlexical.1.2
    exact (grows_element element depth _ hplain.1 hlexical.1.1 (by simp [hrest]) hmay).append
      (grows_elements elements depth rest after hplain.2 hlexical.2 hrest hhead)

end

end bodies

section headers

/-- The blanks of a plain gap. -/
theorem plainGap_blank {gap : List Element} (h : plainGap gap = true) :
    ∀ c ∈ renderAll gap, c = ' ' ∨ c = '\t' := by
  induction gap with
  | nil =>
    intro c hc
    cases hc
  | cons element gap ih =>
    simp only [plainGap, List.all_cons, Bool.and_eq_true] at h
    intro c hc
    rcases List.mem_append.mp hc with hc | hc
    · cases element with
      | code other =>
        rw [List.mem_singleton.mp hc]
        simpa using h.1
      | _ => cases h.1
    · exact ih h.2 c hc

/-- A blank or a tab is a space. -/
theorem isSpace_of_blank {c : Char} (hc : c = ' ' ∨ c = '\t') : isSpace c = true := by
  rcases hc with rfl | rfl <;> decide

/-- Words of a header count for no brace. -/
theorem counts_words {text : List Char} (h : ∀ c ∈ text, QuietChar c ∧
    c ≠ '#' ∧ c ≠ '/' ∧ c ≠ '\x7b' ∧ c ≠ '\x7d') (next : Option Char) : Counts text 0 next := by
  refine ⟨fun c hc => (h c hc).1.2.2, fun line _ => ?_⟩
  rw [zero_add]
  unfold lineDelta
  induction text with
  | nil => rfl
  | cons c text ih =>
    obtain ⟨⟨hquote, _, _⟩, hhash, hslash, hopen, hclose⟩ := h c List.mem_cons_self
    rw [List.cons_append, braceDelta]
    simp [hquote, hhash, hslash, hopen, hclose,
      ih fun other hother => h other (List.mem_cons_of_mem _ hother)]

/-- Blanks count for no brace. -/
theorem counts_blanks {gap : List Element} (h : plainGap gap = true) (next : Option Char) :
    Counts (renderAll gap) 0 next := by
  refine counts_words (fun c hc => ?_) next
  rcases plainGap_blank h c hc with rfl | rfl
  · simp [QuietChar, isLineBreak]
  · simp [QuietChar, isLineBreak]

/-- A quoted label of characters that stand for themselves. -/
@[simp]
theorem renderParts_chars (text : List Char) : renderParts (text.map Part.char) = text := by
  induction text with
  | nil => rfl
  | cons c text ih => exact congrArg (c :: ·) ih

/-- A plain label is a text, and its characters are those of a string. -/
theorem plainLabel_chars {parts : List Part} (hplain : plainLabel parts = true)
    (hlexical : lexicalParts false parts = true) : ∃ text : List Char,
      parts = text.map Part.char ∧ text ≠ [] ∧ ∀ c ∈ text, c ≠ '"' ∧ c ≠ '\\' := by
  obtain ⟨hne, hliteral⟩ := Bool.and_eq_true_iff.mp hplain
  have hchars : ∃ text : List Char, parts = text.map Part.char ∧
      ∀ c ∈ text, c ≠ '"' ∧ c ≠ '\\' := by
    clear hne hplain
    induction parts with
    | nil => exact ⟨[], rfl, by simp⟩
    | cons part parts ih =>
      simp only [List.all_cons, Bool.and_eq_true] at hliteral
      simp only [lexicalParts, Bool.and_eq_true] at hlexical
      obtain ⟨text, rfl, htext⟩ := ih hlexical.2 hliteral.2
      cases part with
      | char c =>
        have hc : c ≠ '"' ∧ c ≠ '\\' ∧ c ≠ '\n' := by simpa [Part.lexical] using hlexical.1.1
        exact ⟨c :: text, rfl, by simpa [hc.1, hc.2.1] using htext⟩
      | escape | templateEscape | interpolation => exact absurd hliteral.1 (by simp [Part.literal?])
  obtain ⟨text, rfl, htext⟩ := hchars
  refine ⟨text, rfl, ?_, htext⟩
  rintro rfl
  cases hne

/-- A label in quotes counts for no brace. -/
theorem counts_label {text : List Char} (h : ∀ c ∈ text, QuietChar c) (next : Option Char) :
    Counts (BlockLabel.quoted (text.map Part.char)).render 0 next := by
  rw [BlockLabel.render, renderParts_chars]
  constructor
  · intro c hc
    rcases List.mem_append.mp hc with hc | hc
    · rcases List.mem_append.mp hc with hc | hc
      · rw [List.mem_singleton.mp hc]
        decide
      · exact (h c hc).2.2
    · rw [List.mem_singleton.mp hc]
      decide
  · intro line _
    unfold lineDelta
    rw [List.append_assoc, List.append_assoc, List.singleton_append, braceDelta]
    simp [braceDelta_quiet h, braceDelta]

/-- The counts of two texts add up. -/
theorem Counts.append {text more : List Char} {count count' : ℤ} {next : Option Char}
    (h : Counts text count (more.head?.or next)) (h' : Counts more count' next) :
    Counts (text ++ more) (count + count') next := by
  constructor
  · intro c hc
    rcases List.mem_append.mp hc with hc | hc
    · exact h.1 c hc
    · exact h'.1 c hc
  · intro line hline
    rw [List.append_assoc, h.2 (more ++ line) (by rw [List.head?_append, hline]), h'.2 line hline,
      add_assoc]

/-- A quoted label is read. -/
theorem quotedLabel_render {text : List Char} (hne : text ≠ []) (h : ∀ c ∈ text, c ≠ '"')
    (rest : List Char) :
    quotedLabel ((BlockLabel.quoted (text.map Part.char)).render ++ rest) = some (text, rest) := by
  have hall : ∀ c ∈ text, decide (c ≠ '"') = true := by simpa using h
  have htake : (text ++ '"' :: rest).takeWhile (fun c => decide (c ≠ '"')) = text := by
    rw [List.takeWhile_append_of_pos hall]
    simp
  have hdrop : (text ++ '"' :: rest).dropWhile (fun c => decide (c ≠ '"')) = '"' :: rest := by
    rw [List.dropWhile_append_of_pos hall]
    simp
  have hrender : (BlockLabel.quoted (text.map Part.char)).render ++ rest =
      '"' :: (text ++ '"' :: rest) := by
    simp [BlockLabel.render]
  rw [hrender]
  simp only [quotedLabel, htake, hdrop]
  cases text with
  | nil => exact absurd rfl hne
  | cons c text => rfl

/-- Blanks before a label are skipped. -/
theorem afterSpaces_blanks {blanks rest : List Char} (hne : blanks ≠ [])
    (h : ∀ c ∈ blanks, isSpace c = true) : afterSpaces (blanks ++ '"' :: rest) =
      some ('"' :: rest) := by
  have hquote : isSpace '"' = false := by decide
  cases blanks with
  | nil => exact absurd rfl hne
  | cons c blanks =>
    rw [List.cons_append, afterSpaces, if_pos (h c List.mem_cons_self),
      List.dropWhile_append_of_pos fun other hother => h other (List.mem_cons_of_mem _ hother),
      List.dropWhile_cons, hquote]
    rfl

/-- A beginning is found and skipped. -/
theorem afterOneOf_beginning (beginning : String) (rest : List Char) :
    afterOneOf [beginning] (beginning.toList ++ rest) = some rest := by
  have hbegins : beginning.toList.isPrefixOf (beginning.toList ++ rest) = true :=
    List.isPrefixOf_iff_prefix.mpr (List.prefix_append _ _)
  rw [afterOneOf, List.findSome?_cons, if_pos hbegins, ← String.length_toList, List.drop_left]

/-- The header of a plain resource block is read. -/
theorem resourceHeader_plain {indent gap gap' opening resourceType resourceName : List Char}
    (hindent : ∀ c ∈ indent, isSpace c = true) (hgap : ∀ c ∈ gap, isSpace c = true)
    (hgap' : ∀ c ∈ gap', isSpace c = true) (hopening : ∀ c ∈ opening, isSpace c = true)
    (hne : gap ≠ []) (hne' : gap' ≠ []) (htype : resourceType ≠ []) (hname : resourceName ≠ [])
    (htypeQuote : ∀ c ∈ resourceType, c ≠ '"') (hnameQuote : ∀ c ∈ resourceName, c ≠ '"')
    (more : List Char) :
    resourceHeader (indent ++ ("resource".toList ++ (gap ++
      ((BlockLabel.quoted (resourceType.map .char)).render ++ (gap' ++
        ((BlockLabel.quoted (resourceName.map .char)).render ++ (opening ++ '\x7b' :: more))))))) =
      some (String.ofList resourceType, String.ofList resourceName) := by
  have hletter (rest : List Char) : ("resource".toList ++ rest).dropWhile isSpace =
      "resource".toList ++ rest := rfl
  have hbrace : isSpace '\x7b' = false := by decide
  have hquoted (text rest : List Char) : (BlockLabel.quoted (text.map Part.char)).render ++ rest =
      '"' :: (text ++ '"' :: rest) := by
    simp [BlockLabel.render]
  unfold resourceHeader
  rw [List.dropWhile_append_of_pos hindent, hletter, afterOneOf_beginning]
  simp only [Option.bind_eq_bind, Option.bind_some]
  rw [hquoted resourceType, afterSpaces_blanks hne hgap]
  simp only [Option.bind_some]
  rw [← hquoted, quotedLabel_render htype htypeQuote]
  simp only [Option.bind_some]
  rw [hquoted resourceName, afterSpaces_blanks hne' hgap']
  simp only [Option.bind_some]
  rw [← hquoted, quotedLabel_render hname hnameQuote]
  simp only [Option.bind_some]
  rw [List.dropWhile_append_of_pos hopening, List.dropWhile_cons, hbrace]
  rfl

end headers

end ElCapitan
