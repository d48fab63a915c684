import ElCapitan.Infrastructure.CdkFinder

/-!
# Reading a source again with a line put in

A line of spaces and `versioned: true,` behind the end of a line changes neither which header is
found nor which brace the scan from it ends at.
-/

namespace ElCapitan

section scanning

/-- A mode in which a scan can be: a quote is one of a string or a template. -/
def LexMode.Real : LexMode → Prop
  | .quoted quote _ => quote ∈ quoteMarks
  | _ => True

/-- A mode behind the end of a line. -/
def LexMode.Calm : LexMode → Prop
  | .code => True
  | .lineComment => False
  | .blockComment => True
  | .quoted quote escaped => quote ∈ quoteMarks ∧ escaped = false

/-- A character that changes no mode but a line comment's or an escape's, and no depth. -/
def isNeutral (c : Char) : Bool := bareChar c && c ∉ ['\x7b', '\x7d', '\\', '*']

/-- A neutral character is none that opens, closes or escapes anything. -/
theorem isNeutral_iff {c : Char} : isNeutral c = true ↔
    (c ∉ quoteMarks ∧ c ≠ '/') ∧ c ≠ '\x7b' ∧ c ≠ '\x7d' ∧ c ≠ '\\' ∧ c ≠ '*' := by
  unfold isNeutral bareChar
  simp [and_assoc]

/-- A neutral character is skipped in a calm mode. -/
theorem closeBrace_neutral_char {mode : LexMode} (hmode : mode.Calm) {depth : ℕ} {c : Char}
    (hc : isNeutral c = true) (rest : List Char) :
    closeBrace mode depth (c :: rest) = closeBrace mode depth rest := by
  obtain ⟨⟨hquote, hslash⟩, hopen, hclose, hescape, hstar⟩ := isNeutral_iff.mp hc
  cases mode with
  | code =>
    rw [closeBrace_code fun heq => absurd heq hslash, if_neg hquote, if_neg hopen, if_neg hclose]
  | lineComment => cases hmode
  | blockComment => exact closeBrace_block fun heq => absurd heq hstar
  | quoted quote escaped =>
    obtain ⟨hmark, rfl⟩ := hmode
    have hother : c ≠ quote := by
      rintro rfl
      exact hquote hmark
    rw [closeBrace_quoted_cons, if_neg hescape, if_neg hother]

/-- A scan behind the end of a line passes over neutral text. -/
theorem closeBrace_neutral {mode : LexMode} (hmode : mode.Calm) {depth : ℕ} {text : List Char}
    (htext : ∀ c ∈ text, isNeutral c = true) (rest : List Char) :
    closeBrace mode depth (text ++ rest) = closeBrace mode depth rest := by
  induction text with
  | nil => rfl
  | cons c text ih =>
    rw [List.cons_append, closeBrace_neutral_char hmode (htext c List.mem_cons_self)]
    exact ih fun other hother => htext other (List.mem_cons_of_mem _ hother)

/-- A scan ends before the end of a line, or is calm behind it. -/
def EndsOrCalm (mode : LexMode) (depth : ℕ) (line : List Char) : Prop :=
  (∃ tail, ∀ rest, closeBrace mode depth (line ++ '\n' :: rest) = some (tail ++ '\n' :: rest)) ∨
  ∃ mode' depth', mode'.Calm ∧
    ∀ rest, closeBrace mode depth (line ++ '\n' :: rest) = closeBrace mode' depth' rest

/-- A line ends the search or leaves it calm where its rest does after a step. -/
theorem EndsOrCalm.of_step {mode mode' : LexMode} {depth depth' : ℕ} {line line' : List Char}
    (h : EndsOrCalm mode' depth' line')
    (hstep : ∀ rest, closeBrace mode depth (line ++ '\n' :: rest) =
      closeBrace mode' depth' (line' ++ '\n' :: rest)) : EndsOrCalm mode depth line := by
  rcases h with ⟨tail, htail⟩ | ⟨mode'', depth'', hcalm, hrest⟩
  · exact Or.inl ⟨tail, fun rest => (hstep rest).trans (htail rest)⟩
  · exact Or.inr ⟨mode'', depth'', hcalm, fun rest => (hstep rest).trans (hrest rest)⟩

/-- A line end is neutral. -/
theorem newline_neutral : isNeutral '\n' = true := by
  decide

/-- The end of a line is read as itself in every mode. -/
theorem endsOrCalm_nil {mode : LexMode} (hmode : mode.Real) (depth : ℕ) :
    EndsOrCalm mode depth [] := by
  refine Or.inr ?_
  cases mode with
  | code =>
    exact ⟨.code, depth, trivial, fun rest =>
      @closeBrace_neutral_char .code trivial depth _ newline_neutral rest⟩
  | lineComment =>
    refine ⟨.code, depth, trivial, fun rest => ?_⟩
    rw [List.nil_append, closeBrace_line_cons, if_pos rfl]
  | blockComment =>
    exact ⟨.blockComment, depth, trivial, fun rest =>
      @closeBrace_neutral_char .blockComment trivial depth _ newline_neutral rest⟩
  | quoted quote escaped =>
    refine ⟨.quoted quote false, depth, ⟨hmode, rfl⟩, fun rest => ?_⟩
    cases escaped with
    | true => rw [List.nil_append, closeBrace_escaped]
    | false =>
      exact @closeBrace_neutral_char (.quoted quote false) ⟨hmode, rfl⟩ depth _ newline_neutral rest

/-- What is added after a line does not change how it begins. -/
theorem head?_append_newline {rest : List Char} {c : Char} (hc : c ≠ '\n') (more : List Char)
    (h : rest.head? ≠ some c) : (rest ++ '\n' :: more).head? ≠ some c := by
  cases rest with
  | nil =>
    intro heq
    exact hc (Option.some.inj heq).symm
  | cons d rest => exact h

/-- Every scan of a line ends in it or is calm behind it. -/
theorem endsOrCalm (line : List Char) {mode : LexMode} (hmode : mode.Real) (depth : ℕ) :
    EndsOrCalm mode depth line := by
  match line, mode with
  | [], mode => exact endsOrCalm_nil hmode depth
  | c :: rest, .lineComment =>
    refine (endsOrCalm rest ?_ depth).of_step fun more => by
      rw [List.cons_append, closeBrace_line_cons]
    split
    · trivial
    · trivial
  | c :: rest, .quoted quote true =>
    exact (@endsOrCalm rest (.quoted quote false) hmode depth).of_step fun more => by
      rw [List.cons_append, closeBrace_escaped]
  | c :: rest, .quoted quote false =>
    refine (endsOrCalm rest ?_ depth).of_step fun more => by
      rw [List.cons_append, closeBrace_quoted_cons]
    split
    · exact hmode
    · split
      · trivial
      · exact hmode
  | c :: rest, .blockComment =>
    by_cases hends : c = '*' ∧ rest.head? = some '/'
    · obtain ⟨rfl, hhead⟩ := hends
      obtain ⟨rest, rfl⟩ := List.head?_eq_some_iff.mp hhead
      exact (@endsOrCalm rest .code trivial depth).of_step fun more => by
        rw [List.cons_append, List.cons_append, closeBrace_block_end]
    · refine (@endsOrCalm rest .blockComment trivial depth).of_step fun more => ?_
      rw [List.cons_append, closeBrace_block]
      exact fun hstar => head?_append_newline (by decide) more fun hhead => hends ⟨hstar, hhead⟩
  | c :: rest, .code =>
    by_cases hcomment : c = '/' → rest.head? ≠ some '/' ∧ rest.head? ≠ some '*'
    · have hstep (more : List Char) := @closeBrace_code depth c (rest ++ '\n' :: more) fun hslash =>
        ⟨head?_append_newline (by decide) more (hcomment hslash).1,
          head?_append_newline (by decide) more (hcomment hslash).2⟩
      by_cases hquote : c ∈ quoteMarks
      · refine (@endsOrCalm rest (.quoted c false) hquote depth).of_step fun more => ?_
        rw [List.cons_append, hstep, if_pos hquote]
      · by_cases hopen : c = '\x7b'
        · refine (@endsOrCalm rest .code trivial (depth + 1)).of_step fun more => ?_
          rw [List.cons_append, hstep, if_neg hquote, if_pos hopen]
        · by_cases hclose : c = '\x7d'
          · by_cases hlast : depth - 1 = 0
            · refine Or.inl ⟨rest, fun more => ?_⟩
              rw [List.cons_append, hstep, if_neg hquote, if_neg hopen, if_pos hclose, if_pos hlast]
            · refine (@endsOrCalm rest .code trivial (depth - 1)).of_step fun more => ?_
              rw [List.cons_append, hstep, if_neg hquote, if_neg hopen, if_pos hclose, if_neg hlast]
          · refine (@endsOrCalm rest .code trivial depth).of_step fun more => ?_
            rw [List.cons_append, hstep, if_neg hquote, if_neg hopen, if_neg hclose]
    · obtain ⟨rfl, hboth⟩ := Classical.not_imp.mp hcomment
      rcases not_and_or.mp hboth with hline | hblock
      · obtain ⟨rest, rfl⟩ := List.head?_eq_some_iff.mp (not_not.mp hline)
        exact (@endsOrCalm rest .lineComment trivial depth).of_step fun more => by
          rw [List.cons_append, List.cons_append, closeBrace_line_begin]
      · obtain ⟨rest, rfl⟩ := List.head?_eq_some_iff.mp (not_not.mp hblock)
        exact (@endsOrCalm rest .blockComment trivial depth).of_step fun more => by
          rw [List.cons_append, List.cons_append, closeBrace_block_begin]

end scanning

section headers

variable {quote : Char} {body text : List Char} {p q n m : ℕ}

/-- A header does not end before one with the same literal that begins before it. -/
theorem no_header_inside (hquote : quote ∈ stringQuotes)
    (h : (constructHeader (literalOf quote body)).matchAt text p = some n)
    (h' : (constructHeader (literalOf quote body)).matchAt text q = some m) (hlt : p < q) :
    p + n ≤ q + m := by
  by_contra hends
  obtain ⟨first, chars, rest, htext, rfl, hchars, rfl⟩ :=
    (gapped_matchAt (header_solid hquote) header_word).mp h
  obtain ⟨first', chars', rest', htext', rfl, hchars', rfl⟩ :=
    (gapped_matchAt (header_solid hquote) header_word).mp h'
  obtain ⟨opening, closing, hopening, hclosing, rfl⟩ := spelled_header.mp hchars
  obtain ⟨opening', closing', hopening', hclosing', rfl⟩ := spelled_header.mp hchars'
  obtain ⟨tail, rfl, htail⟩ := opening_head hopening
  obtain ⟨tail', rfl, _⟩ := opening_head hopening'
  obtain ⟨front, rfl, hfront⟩ := closing_last hclosing
  obtain ⟨front', rfl, _⟩ := closing_last hclosing'
  simp only [List.length_append, List.length_cons, List.length_nil] at hends
  -- the brace of the inner header is not before that of the outer one in its closing
  have hbrace : text[first'.length + (tail'.length + 1) + (literalOf quote body).length +
      front'.length]? = some '\x7b' := by
    have hsplit : text = (first' ++ 'n' :: tail' ++ literalOf quote body ++ front') ++
        '\x7b' :: rest' := by
      rw [htext']
      simp
    rw [hsplit, List.getElem?_append_right (by simp; omega)]
    simp only [List.length_append, List.length_cons]
    rw [show first'.length + (tail'.length + 1) + (literalOf quote body).length +
      front'.length - (first'.length + (tail'.length + 1) + (literalOf quote body).length +
      front'.length) = 0 by omega]
    rfl
  have hinner : first'.length < first.length + (tail.length + 1) := by
    by_contra hge
    have hsplit : text = (first ++ 'n' :: tail ++ literalOf quote body) ++
        (front ++ ('\x7b' :: rest)) := by
      rw [htext]
      simp
    rw [hsplit, List.getElem?_append_right (by simp; omega), List.getElem?_append_left
      (by simp; omega)] at hbrace
    exact hfront (List.mem_of_getElem? hbrace)
  -- so the inner header begins in the opening of the outer one
  have hnew : text[first'.length]? = some 'n' := by
    rw [htext', List.getElem?_append_right le_rfl, Nat.sub_self]
    rfl
  have hsplit : text = (first ++ ['n']) ++ (tail ++ (literalOf quote body ++
      (front ++ ['\x7b']) ++ rest)) := by
    rw [htext]
    simp
  rw [hsplit, List.getElem?_append_right (by simp; omega), List.getElem?_append_left
    (by simp; omega)] at hnew
  exact htail (List.mem_of_getElem? hnew)

end headers

section putting

variable {quote : Char} {body line indent after : List Char} {p n : ℕ}

/-- The line that turns versioning on, with an indent. -/
def versionedLine (indent : List Char) : List Char := indent ++ versionedText

/-- The inserted line without its indent is the property. -/
theorem versionedLine_dropWhile (hindent : ∀ c ∈ indent, isSpace c = true) :
    (versionedLine indent ++ after).dropWhile isSpace = versionedText ++ after := by
  unfold versionedLine
  rw [List.append_assoc, List.dropWhile_append_of_pos hindent]
  exact List.dropWhile_cons_of_neg (by decide)

/-- No header begins in the line that is put in. -/
theorem versionedLine_unmatched (hindent : ∀ c ∈ indent, isSpace c = true) {k : ℕ}
    (hk : k < (versionedLine indent).length)
    (hnew : (versionedLine indent ++ after)[k]? = some 'n')
    (hw : (versionedLine indent ++ after)[k + 2]? = some 'w') : False := by
  unfold versionedLine at hk hnew hw
  rw [List.length_append] at hk
  rw [List.append_assoc] at hnew hw
  by_cases hspaces : k < indent.length
  · rw [List.getElem?_append_left hspaces] at hnew
    exact absurd (hindent 'n' (List.mem_of_getElem? hnew)) (by decide)
  · rw [List.getElem?_append_right (by omega)] at hnew hw
    have hletters : ∀ j < versionedText.length, versionedText[j]? = some 'n' →
        j + 2 < versionedText.length ∧ versionedText[j + 2]? ≠ some 'w' := by
      decide
    rw [List.getElem?_append_left (by omega)] at hnew
    obtain ⟨hinside, hother⟩ := hletters _ (by omega) hnew
    rw [show k + 2 - indent.length = k - indent.length + 2 by omega,
      List.getElem?_append_left hinside] at hw
    exact hother hw

/-- The words of a header around its literal. -/
def headerWords : List (List Char) :=
  [['n', 'e', 'w'], ['s', '3', '.', 'B', 'u', 'c', 'k', 'e', 't'],
    ['('], ['t', 'h', 'i', 's'], [','],
    ['\x7b']]

/-- The words of a header are the literal and the fixed words. -/
theorem header_words {literal word : List Char}
    (h : Gapped.word word ∈ headerOpening ++ .word literal :: headerClosing) :
    word = literal ∨ word ∈ headerWords := by
  unfold headerOpening headerClosing at h
  simp only [List.cons_append, List.nil_append, List.mem_cons, Gapped.word.injEq, reduceCtorEq,
    List.not_mem_nil, or_false, false_or] at h
  unfold headerWords
  simp only [List.mem_cons, List.not_mem_nil, or_false]
  tauto

/-- No fixed word of a header has a line end. -/
theorem headerWords_plain : ∀ word ∈ headerWords, '\n' ∉ word := by
  decide

/-- No fixed word of a header begins like the property. -/
theorem headerWords_first (d : Char) (word : List Char) (h : d :: word ∈ headerWords) :
    d ≠ 'v' := by
  have hall : ∀ word ∈ headerWords, word.head? ≠ some 'v' := by
    decide
  rintro rfl
  exact hall _ h rfl

/-- No header with a literal of one line goes over the end of a line before the one put in. -/
theorem no_header_over_line (hquote : quote ∈ stringQuotes) (hbody : '\n' ∉ body)
    (hindent : ∀ c ∈ indent, isSpace c = true) {first chars rest : List Char}
    (hchars : Spelled isSpace
      (headerOpening ++ .word (literalOf quote body) :: headerClosing) chars)
    (htext : (line ++ ['\n']) ++ (versionedLine indent ++ after) = first ++ (chars ++ rest))
    (hline : first.length ≤ line.length) (hover : line.length + 1 < first.length + chars.length) :
    False := by
  obtain ⟨before, rfl⟩ : first <+: line := by
    have hwhole : first <+: line ++ (['\n'] ++ (versionedLine indent ++ after)) := by
      rw [← List.append_assoc, htext]
      exact List.prefix_append _ _
    exact List.prefix_of_prefix_length_le hwhole (List.prefix_append _ _) hline
  rw [List.append_assoc, List.append_assoc] at htext
  have hrest := List.append_cancel_left htext
  obtain ⟨behind, rfl⟩ : before ++ ['\n'] <+: chars := by
    have hwhole : before ++ ['\n'] <+: chars ++ rest := by
      rw [← hrest, ← List.append_assoc]
      exact List.prefix_append _ _
    refine List.prefix_of_prefix_length_le hwhole (List.prefix_append _ _) ?_
    rw [List.length_append] at hover ⊢
    rw [List.length_singleton]
    omega
  rw [← List.append_assoc, List.append_assoc _ behind] at hrest
  have hbehind := List.append_cancel_left hrest
  have hnewline (word : List Char) (hword : Gapped.word word ∈
      headerOpening ++ .word (literalOf quote body) :: headerClosing) : '\n' ∉ word := by
    rcases header_words hword with rfl | hword
    · have hother : '\n' ≠ quote := by
        rintro rfl
        exact absurd hquote (by decide)
      unfold literalOf
      simp only [List.mem_cons, List.mem_append, List.not_mem_nil, or_false, not_or]
      exact ⟨hother, hbody, hother⟩
    · exact headerWords_plain word hword
  obtain ⟨d, word, tail, hmem, hdrop⟩ :=
    hchars.gap_ends (header_solid hquote) hnewline (List.append_assoc before ['\n'] behind)
  have hv := @versionedLine_dropWhile indent after hindent
  rw [hbehind, List.dropWhile_append, show behind.dropWhile isSpace = d :: tail from hdrop] at hv
  obtain ⟨rfl, _⟩ := List.cons.inj hv
  rcases header_words hmem with hliteral | hword
  · obtain ⟨rfl, _⟩ := List.cons.inj hliteral
    exact absurd hquote (by decide)
  · exact headerWords_first 'v' word hword rfl

/-- Where no header with a literal of one line is matched, none is with the line put in. -/
theorem unmatched_put_in (hquote : quote ∈ stringQuotes) (hbody : '\n' ∉ body)
    (hindent : ∀ c ∈ indent, isSpace c = true)
    (hnone : ∀ p, (constructHeader (literalOf quote body)).matchAt ((line ++ ['\n']) ++ after) p =
      none) :
    (constructHeader (literalOf quote body)).matchAt
      ((line ++ ['\n']) ++ (versionedLine indent ++ after)) p = none := by
  have hsolid := @header_solid quote body hquote
  cases hmatch : (constructHeader (literalOf quote body)).matchAt
      ((line ++ ['\n']) ++ (versionedLine indent ++ after)) p with
  | none => rfl
  | some n =>
    exfalso
    obtain ⟨first, chars, rest, htext, rfl, hchars, rfl⟩ :=
      (gapped_matchAt hsolid header_word).mp hmatch
    by_cases hbefore : first.length + chars.length ≤ (line ++ ['\n']).length
    · have hsame : (constructHeader (literalOf quote body)).matchAt ((line ++ ['\n']) ++ after)
          first.length = some chars.length :=
        gapped_matchAt_before hsolid header_word hmatch hbefore
      rw [hnone] at hsame
      cases hsame
    · rw [List.length_append, List.length_singleton] at hbefore
      by_cases hline : first.length ≤ line.length
      · exact no_header_over_line hquote hbody hindent hchars htext hline (by omega)
      · by_cases hinside : first.length < line.length + 1 + (versionedLine indent).length
        · obtain ⟨opening, closing, hopening, _, rfl⟩ := spelled_header.mp hchars
          have hat (k : ℕ) :
              (versionedLine indent ++ after)[first.length - (line.length + 1) + k]? =
              ((opening ++ (literalOf quote body ++ closing)) ++ rest)[k]? := by
            have hleft : ((line ++ ['\n']) ++ (versionedLine indent ++ after))[first.length + k]? =
                (versionedLine indent ++ after)[first.length + k - (line ++ ['\n']).length]? :=
              List.getElem?_append_right (by simp; omega)
            have hright : (first ++ ((opening ++ (literalOf quote body ++ closing)) ++ rest))[
                first.length + k]? =
                  ((opening ++ (literalOf quote body ++ closing)) ++ rest)[k]? := by
              rw [List.getElem?_append_right (by omega), Nat.add_sub_cancel_left]
            have hindex : first.length - (line.length + 1) + k =
                first.length + k - (line ++ ['\n']).length := by
              rw [List.length_append, List.length_singleton]
              omega
            rw [hindex, ← hleft, htext, hright]
          cases hopening with
          | word _ hrest =>
            exact versionedLine_unmatched hindent (by omega) (hat 0) (hat 2)
        · have hposition : first.length = (line ++ ['\n'] ++ versionedLine indent).length +
              (first.length - (line.length + 1 + (versionedLine indent).length)) := by
            simp only [List.length_append, List.length_singleton]
            omega
          rw [hposition, ← List.append_assoc] at hmatch
          have hsame : (constructHeader (literalOf quote body)).matchAt ((line ++ ['\n']) ++ after)
              ((line ++ ['\n']).length +
                (first.length - (line.length + 1 + (versionedLine indent).length))) =
              some chars.length :=
            gapped_matchAt_after hsolid header_word hmatch
          rw [hnone] at hsame
          cases hsame

/-- A text that `repr` spells is on one line. -/
theorem newline_notMem_repr (printable : Char → Bool) (hquote : quote ∈ stringQuotes)
    (text : List Char) : '\n' ∉ text.flatMap (reprChar printable quote) := by
  have hhex (width n : ℕ) : '\n' ∉ hexDigits width n := by
    intro hmem
    obtain ⟨i, _, hdigit⟩ := List.mem_map.mp hmem
    have hdigits : ∀ d < 16, Nat.digitChar d ≠ '\n' := by
      decide
    exact hdigits _ (Nat.mod_lt _ (by decide)) hdigit
  intro hmem
  obtain ⟨c, _, hc⟩ := List.mem_flatMap.mp hmem
  unfold reprChar at hc
  split at hc
  · rename_i hspecial
    simp only [List.mem_cons, List.not_mem_nil, or_false] at hc
    rcases hc with hc | rfl
    · exact absurd hc (by decide)
    · rcases hspecial with rfl | hslash
      · exact absurd hquote (by decide)
      · exact absurd hslash (by decide)
  · split at hc
    · exact absurd hc (by decide)
    · split at hc
      · exact absurd hc (by decide)
      · rename_i hnewline
        split at hc
        · exact absurd hc (by decide)
        · split at hc
          · simp [hhex] at hc
          · split at hc
            · exact hnewline (List.mem_singleton.mp hc).symm
            · split at hc
              · simp [hhex] at hc
              · split at hc
                · simp [hhex] at hc
                · simp [hhex] at hc

/-- The header that is found is found first with a line put in behind it. -/
theorem findAll_put_in (hquote : quote ∈ stringQuotes) {start : ℕ}
    (hfound : (constructHeader (literalOf quote body)).findAll ((line ++ ['\n']) ++ after) =
      [(start, n)]) (hends : start + n ≤ (line ++ ['\n']).length) (more : List Char) :
    ∃ others, (constructHeader (literalOf quote body)).findAll ((line ++ ['\n']) ++ more) =
      (start, n) :: others := by
  have hfits := @constructHeader_fits quote body hquote
  obtain ⟨hmatch, hleft, _⟩ := Pattern.findAll_head hfits hfound
  have hmatch' : (constructHeader (literalOf quote body)).matchAt ((line ++ ['\n']) ++ more) start =
      some n :=
    gapped_matchAt_before (header_solid hquote) header_word hmatch hends
  refine ⟨_, Pattern.findAll_of_leftmost hfits hmatch' fun p hp => ?_⟩
  cases hearlier : (constructHeader (literalOf quote body)).matchAt
    ((line ++ ['\n']) ++ more) p with
  | none => rfl
  | some m =>
    have hinside := no_header_inside hquote hearlier hmatch' hp
    have hsame : (constructHeader (literalOf quote body)).matchAt ((line ++ ['\n']) ++ after) p =
        some m :=
      gapped_matchAt_before (header_solid hquote) header_word hearlier (by omega)
    rw [hleft p hp] at hsame
    cases hsame

/-- The `repr` of an id is a literal in its quotes. -/
theorem reprText_eq (printable : Char → Bool) (text : List Char) : reprText printable text =
    literalOf (reprQuote text) (text.flatMap (reprChar printable (reprQuote text))) := rfl

/-- The header of an id that is found is found first with the line put in. -/
theorem headersOf_put_in {printable : Char → Bool} {constructId : List Char} {start : ℕ}
    (hindent : ∀ c ∈ indent, isSpace c = true)
    (hfound : headersOf printable ((line ++ ['\n']) ++ after) constructId = [(start, n)])
    (hends : start + n ≤ (line ++ ['\n']).length) :
    ∃ others, headersOf printable ((line ++ ['\n']) ++ (versionedLine indent ++ after))
      constructId =
      (start, n) :: others := by
  have hmark := reprQuote_string constructId
  have hfits := @constructHeader_fits (reprQuote constructId)
    (constructId.flatMap (reprChar printable (reprQuote constructId))) hmark
  unfold headersOf at hfound ⊢
  rw [reprText_eq] at hfound ⊢
  split at hfound
  · rename_i hnil
    have hnone := (Pattern.findAll_eq_nil_iff hfits).mp hnil
    have hnil' := (Pattern.findAll_eq_nil_iff hfits).mpr fun p => @unmatched_put_in _ _ line indent
      after p hmark (newline_notMem_repr printable hmark constructId) hindent hnone
    rw [hnil']
    exact findAll_put_in (by decide) hfound hends _
  · rename_i found hnot
    obtain ⟨others, hothers⟩ := findAll_put_in hmark hfound hends (versionedLine indent ++ after)
    exact ⟨others, by rw [hothers]⟩

end putting

end ElCapitan
