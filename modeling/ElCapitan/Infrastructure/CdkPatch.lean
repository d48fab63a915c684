import ElCapitan.Infrastructure.CdkRescan

/-!
# The line of a CDK patch

The patch of a linked construct puts one line behind the line of its encryption property. It is one
removable property of the construct exactly where that line ends at the top of the construct's
properties behind a comma, and no blank line stands before it.
-/

namespace ElCapitan

section statement

/-- The construct that is found for an id: its header is the one that is found, and the scan from it
ends at the brace that matches. -/
structure TypeScript.Linked (source : TypeScript) (printable : Char → Bool)
    (constructId : List Char) (start stop : ℕ) (before header body after : List Lexeme) : Prop where
  construct : source.Construct constructId start stop before header body after
  found : headersOf printable source.text constructId = [(start, (renderSource header).length)]
  brace : closeBrace .code 0 (source.text.drop (start + (renderSource header).idxOf '\x7b')) =
    some (renderSource after)

/-- A line that is one `versioned: true` property, with its comma. -/
def IsVersionedLine (line : List Char) : Prop :=
  ∃ chars, line = chars ++ ['\n'] ∧ '\n' ∉ chars ∧ Spelled isSpace
    (versionedParts ++ [.gap, .word ['t', 'r', 'u', 'e'], .gap, .word [',']]) chars

/-- Some parts close every bracket they open, so what follows them is not nested in one. -/
abbrev BracketsMatch (body : List Lexeme) : Prop :=
  levelAfter ['\x7b', '(', '['] ['\x7d', ')', ']'] 0 body = some 0

/-- A part that says nothing: a space or a comment. -/
def Lexeme.blank : Lexeme → Bool
  | .code c => isSpace c
  | .text _ _ => false
  | .lineComment _ => true
  | .blockComment _ => true

/-- What follows some parts is separated from them: they say nothing, or a comma last. -/
def Separated (body : List Lexeme) : Prop :=
  ∀ lexeme ∈ (body.reverse.dropWhile Lexeme.blank).head?, lexeme = .code ','

/-- A result is a source with one line put in: a property at the top of the linked construct's
properties, separated from those before and behind it. The patch of the result is refused. -/
def OneLinePut (printable : Char → Bool) (source : TypeScript) (proposed : List Char)
    (link : AwsCdkLink) (result : List Char) : Prop :=
  ∃ start stop before header first second after line,
    source.Linked printable link.constructId.toList start stop before header (first ++ second)
      after ∧
    IsVersionedLine line ∧
    Lexed (before ++ header ++ first ++ (codes line ++ (second ++ .code '\x7d' :: after))) ∧
    result = renderSource (before ++ header ++ first) ++
      (line ++ renderSource (second ++ .code '\x7d' :: after)) ∧
    (renderSource (before ++ header ++ first)).getLast? = some '\n' ∧
    BracketsMatch first ∧ Separated first ∧
    ∃ e, materializeCdkS3Versioning printable result proposed link = .error e

/-- The line of the encryption property of the linked construct ends at the top of the construct's
properties, behind a comma, and no blank line stands before it. -/
def EncryptionOnTop (printable : Char → Bool) (source : TypeScript) (constructId : List Char) :
    Prop :=
  ∃ start stop before header first second after position n,
    source.Linked printable constructId start stop before header (first ++ second) after ∧
    encryptionLine.findAll (sliceOf source.text start stop) = [(position, n)] ∧
    (renderSource (before ++ header ++ first)).length = start + position + n ∧
    (renderSource (before ++ header ++ first)).getLast? = some '\n' ∧
    '\n' ∉ (((sliceOf source.text start stop).drop position).take n).takeWhile isSpace ∧
    BracketsMatch first ∧ Separated first

end statement

section materializing

variable {printable : Char → Bool} {original proposed result : List Char} {link : AwsCdkLink}

/-- What the patch does where it does not raise. -/
theorem materialize_eq_ok
    (h : materializeCdkS3Versioning printable original proposed link = .ok result) :
    ∃ start stop position n,
      matchingConstruct printable original link.constructId.toList = .ok (some (start, stop)) ∧
      versionedKey.searchFrom none (sliceOf original start stop) = false ∧
      encryptionLine.findAll (sliceOf original start stop) = [(position, n)] ∧
      result = original.take start ++ ((sliceOf original start stop).take (position + n) ++
        versionedLine ((((sliceOf original start stop).drop position).take n).takeWhile isSpace) ++
        (sliceOf original start stop).drop (position + n)) ++ original.drop stop := by
  unfold materializeCdkS3Versioning at h
  obtain ⟨_, _, h⟩ := except_bind_eq_ok.mp h
  obtain ⟨_, _, h⟩ := except_bind_eq_ok.mp h
  obtain ⟨bounds, hbounds, h⟩ := except_bind_eq_ok.mp h
  split at h
  · cases h
  · rename_i start stop
    obtain ⟨_, hversioned, h⟩ := except_bind_eq_ok.mp h
    split at h
    · rename_i position n hencryption
      refine ⟨start, stop, position, n, hbounds, ?_, hencryption, (Except.ok.inj h).symm⟩
      simpa using raiseIf_eq_ok.mp hversioned
    · cases h

end materializing

section matching

variable {before : Option Char} {text line indent after : List Char} {n : ℕ}

/-- In the pattern of an encryption line every gap stands before a solid word. -/
theorem encryptionParts_solid : solid isSpace encryptionParts = true := by
  decide

/-- In the pattern of a versioned property every gap stands before a solid word. -/
theorem versionedParts_solid : solid isSpace versionedParts = true := by
  decide

/-- A text is a line and what follows it. -/
theorem afterLine_split (text : List Char) : ∃ line, text = line ++ afterLine text ∧
    (line.getLast? = some '\n' ∨ afterLine text = []) := by
  unfold afterLine
  split
  · exact ⟨text, (List.append_nil _).symm, Or.inr rfl⟩
  · rename_i c rest hdrop
    obtain rfl : c = '\n' := by
      have hhead := List.head?_dropWhile_not (fun c => decide (c ≠ '\n')) text
      rw [hdrop] at hhead
      simpa using hhead
    refine ⟨text.takeWhile (fun c => c ≠ '\n') ++ ['\n'], ?_, Or.inl (by simp)⟩
    rw [List.append_assoc, List.singleton_append, ← hdrop, List.takeWhile_append_dropWhile]

/-- A line that is matched has an encryption property behind its indent, and its end. -/
theorem encryptionLine_eq_some (h : encryptionLine before text = some n) :
    0 < n ∧ n ≤ text.length ∧ 'c' ∈ text.take n ∧
      ((text.take n).getLast? = some '\n' ∨ n = text.length) := by
  unfold encryptionLine at h
  split at h
  · obtain ⟨rest, hafter, rfl⟩ := Option.map_eq_some_iff.mp h
    obtain ⟨chars, hchars, rfl⟩ := (afterGapped_eq_some encryptionParts_solid).mp hafter
    obtain ⟨line, hline, hends⟩ := afterLine_split rest
    have hc : 'c' ∈ chars := by
      cases hchars with
      | gap _ hword =>
        cases hword with
        | word _ _ => simp
    have htext : chars ++ rest = (chars ++ line) ++ afterLine rest := by
      rw [List.append_assoc, ← hline]
    have hlength : (chars ++ rest).length - (afterLine rest).length = (chars ++ line).length := by
      rw [htext, List.length_append, Nat.add_sub_cancel]
    have htake : (chars ++ rest).take (chars ++ line).length = chars ++ line := by
      rw [htext, List.take_left]
    rw [hlength, htake]
    refine ⟨?_, ?_, List.mem_append_left _ hc, ?_⟩
    · exact List.length_pos_iff.mpr (List.ne_nil_of_mem (List.mem_append_left _ hc))
    · rw [htext, @List.length_append _ (chars ++ line)]
      exact Nat.le_add_right _ _
    · rcases hends with hlast | hnil
      · rw [List.getLast?_append, hlast]
        exact Or.inl rfl
      · rw [htext, hnil, List.append_nil]
        exact Or.inr rfl
  · cases h

/-- A match of an encryption line is a part of the text that is not empty. -/
theorem encryptionLine_fits : encryptionLine.Fits := by
  intro before text n h
  obtain ⟨hpos, hlength, _⟩ := encryptionLine_eq_some h
  exact ⟨hpos, hlength⟩

/-- The line that is put in is found where it stands. -/
theorem versionedKey_found (hindent : ∀ c ∈ indent, isSpace c = true) {start stop : ℕ}
    (hstart : start ≤ (line ++ ['\n']).length)
    (hstop : (line ++ ['\n']).length + (versionedLine indent).length ≤ stop) :
    versionedKey.searchFrom none
      (sliceOf ((line ++ ['\n']) ++ (versionedLine indent ++ after)) start stop) = true := by
  have hslice : sliceOf ((line ++ ['\n']) ++ (versionedLine indent ++ after)) start stop =
      (line ++ ['\n']).drop start ++ (versionedLine indent ++
        after.take (stop - (line ++ ['\n']).length - (versionedLine indent).length)) := by
    unfold sliceOf
    rw [List.take_append, List.take_of_length_le (by omega), List.take_append,
      @List.take_of_length_le _ _ (versionedLine indent) (by omega),
      List.drop_append_of_le_length hstart]
  rw [hslice, Pattern.searchFrom_iff]
  refine ⟨_, _, rfl, ?_⟩
  have hline : atLineStart (((line ++ ['\n']).drop start).getLast?.or none) = true := by
    rw [Option.or_none, List.getLast?_drop]
    split
    · rfl
    · rw [List.getLast?_concat]
      rfl
  have hkey : Spelled isSpace versionedParts
      (indent ++ (['v', 'e', 'r', 's', 'i', 'o', 'n', 'e', 'd'] ++ ([] ++ ([':'] ++ [])))) :=
    .gap hindent (.word _ (.gap (by simp) (.word [':'] .nil)))
  have htext (rest : List Char) : versionedLine indent ++ rest =
      (indent ++ (['v', 'e', 'r', 's', 'i', 'o', 'n', 'e', 'd'] ++ ([] ++ ([':'] ++ [])))) ++
        (versionedText.drop 10 ++ rest) := by
    unfold versionedLine versionedText
    simp
  unfold versionedKey
  rw [if_pos hline, htext]
  exact Option.isSome_iff_exists.mpr
    ⟨_, (gapped_eq_some versionedParts_solid).mpr ⟨_, _, hkey, rfl, rfl⟩⟩

end matching

section slices

variable {text : List Char} {start stop k : ℕ}

/-- What lies before a slice and a part of its beginning are a beginning of the text. -/
theorem take_slice (h : start + k ≤ stop) :
    text.take start ++ (sliceOf text start stop).take k = text.take (start + k) := by
  have hfirst : text.take start = (text.take (start + k)).take start := by
    rw [List.take_take, Nat.min_eq_left (Nat.le_add_right _ _)]
  unfold sliceOf
  rw [List.take_drop, List.take_take, Nat.min_eq_left h, hfirst, List.take_append_drop]

/-- The rest of a slice and what lies behind it are an end of the text. -/
theorem slice_drop (h : start + k ≤ stop) :
    (sliceOf text start stop).drop k ++ text.drop stop = text.drop (start + k) := by
  have hrest : (text.drop stop).drop (start + k - (text.take stop).length) = text.drop stop := by
    rw [List.length_take]
    by_cases hlength : stop ≤ text.length
    · rw [Nat.min_eq_left hlength, Nat.sub_eq_zero_of_le h, List.drop_zero]
    · rw [List.drop_eq_nil_of_le (by omega : text.length ≤ stop), List.drop_nil]
  unfold sliceOf
  conv_rhs => rw [← List.take_append_drop stop text]
  rw [List.drop_append, List.drop_drop, hrest]

/-- A slice is as long as its bounds say. -/
theorem length_slice (h : stop ≤ text.length) :
    (sliceOf text start stop).length = stop - start := by
  unfold sliceOf
  rw [List.length_drop, List.length_take, Nat.min_eq_left h]

/-- A closing call is a part of the text. -/
theorem closingCall_le (text : List Char) : closingCall text ≤ text.length := by
  unfold closingCall
  split
  · split
    · exact Nat.sub_le _ _
    · exact Nat.sub_le _ _
  · exact Nat.zero_le _

end slices

section linked

variable {source : TypeScript} {printable : Char → Bool} {constructId : List Char}
  {start stop : ℕ} {before header body after : List Lexeme}

/-- The text of a linked construct's header. -/
theorem TypeScript.Linked.headerText
    (h : source.Linked printable constructId start stop before header body after) :
    (source.text.drop start).take (renderSource header).length = renderSource header := by
  unfold TypeScript.text
  rw [h.construct.split, h.construct.begins, renderSource_append, renderSource_append,
    List.append_assoc, List.drop_left, List.take_left]

/-- The span of a linked construct is the one that is found. -/
theorem TypeScript.Linked.bounds
    (h : source.Linked printable constructId start stop before header body after) :
    matchingConstruct printable source.text constructId = .ok (some (start, stop)) := by
  unfold matchingConstruct
  rw [h.found]
  dsimp only
  rw [h.headerText, h.brace]
  dsimp only
  rw [h.construct.stop_eq]

/-- A linked construct is a part of the source. -/
theorem TypeScript.Linked.within
    (h : source.Linked printable constructId start stop before header body after) :
    start ≤ stop ∧ stop ≤ source.text.length := by
  have hstart := h.construct.begins
  have hstop := h.construct.ends
  have hcall := closingCall_le (renderSource after)
  unfold TypeScript.text
  rw [h.construct.split]
  simp only [renderSource_append, renderSource_cons, List.length_append, renderSource_nil,
    List.length_nil] at hstop ⊢
  omega

/-- The line of the one encryption property, in the text of a source. -/
structure EncryptionAt (source : TypeScript) (start stop position n : ℕ) (indent : List Char) :
    Prop where
  found : encryptionLine.findAll (sliceOf source.text start stop) = [(position, n)]
  spaces : indent = (((sliceOf source.text start stop).drop position).take n).takeWhile isSpace
  inside : start + position + n ≤ stop
  named : 'c' ∈ (source.text.take (start + position + n)).drop (start + position)
  ends : (source.text.take (start + position + n)).getLast? = some '\n' ∨
    start + position + n = stop

/-- What the patch of a linked construct is: one line behind that of its encryption property, where
no versioning is set yet. -/
theorem TypeScript.Linked.patched {proposed result : List Char} {link : AwsCdkLink}
    (h : source.Linked printable link.constructId.toList start stop before header body after)
    (hpatch : materializeCdkS3Versioning printable source.text proposed link = .ok result) :
    ∃ position n indent, EncryptionAt source start stop position n indent ∧
      versionedKey.searchFrom none (sliceOf source.text start stop) = false ∧
      result = source.text.take (start + position + n) ++
        (versionedLine indent ++ source.text.drop (start + position + n)) := by
  obtain ⟨start', stop', position, n, hbounds, hversioned, hfound, hresult⟩ :=
    materialize_eq_ok hpatch
  rw [h.bounds] at hbounds
  obtain ⟨rfl, rfl⟩ := Prod.mk.inj (Option.some.inj (Except.ok.inj hbounds))
  obtain ⟨hle, hlength⟩ := h.within
  obtain ⟨hmatch, _⟩ := Pattern.findAll_head encryptionLine_fits hfound
  obtain ⟨_, hinside⟩ := Pattern.matchAt_length encryptionLine_fits hmatch
  rw [length_slice hlength] at hinside
  have hsum : start + (position + n) = start + position + n := by omega
  obtain ⟨hpos, _, hc, hends⟩ := encryptionLine_eq_some hmatch
  have hblock : ((sliceOf source.text start stop).drop position).take n =
      (source.text.take (start + position + n)).drop (start + position) := by
    unfold sliceOf
    rw [List.drop_drop, List.take_drop, List.take_take, Nat.min_eq_left (by omega)]
  refine ⟨position, n, _, ⟨hfound, rfl, by omega, ?_, ?_⟩, hversioned, ?_⟩
  · rw [← hblock]
    exact hc
  · rcases hends with hlast | hall
    · rw [hblock, List.getLast?_drop] at hlast
      split at hlast
      · cases hlast
      · exact Or.inl hlast
    · rw [List.length_drop, length_slice hlength] at hall
      exact Or.inr (by omega)
  · rw [hresult, ← hsum, ← take_slice (by omega : start + (position + n) ≤ stop),
      ← slice_drop (by omega : start + (position + n) ≤ stop)]
    simp only [List.append_assoc]

end linked

section rescanning

variable {source : TypeScript} {printable : Char → Bool} {constructId : List Char}
  {start stop : ℕ} {before header body after : List Lexeme} {line indent rest : List Char}

/-- The inserted line opens and closes nothing. -/
theorem versionedLine_neutral (hindent : ∀ c ∈ indent, isSpace c = true) :
    ∀ c ∈ versionedLine indent, isNeutral c = true := by
  intro c hc
  rcases List.mem_append.mp hc with hc | hc
  · have hspace := hindent c hc
    have hother (d : Char) (hd : isSpace d = false) : c ≠ d := by
      rintro rfl
      rw [hspace] at hd
      cases hd
    have hbare := bareChar_of_isSpace hspace
    unfold isNeutral
    rw [Bool.and_eq_true, decide_eq_true_eq]
    refine ⟨hbare, ?_⟩
    simp only [List.mem_cons, List.not_mem_nil, or_false, not_or]
    exact ⟨hother _ (by decide), hother _ (by decide), hother _ (by decide), hother _ (by decide)⟩
  · have hall : ∀ c ∈ versionedText, isNeutral c = true := by
      decide
    exact hall c hc

/-- The brace of a header is in its text. -/
theorem TypeScript.Construct.brace_lt
    (h : source.Construct constructId start stop before header body after) :
    (renderSource header).idxOf '\x7b' < (renderSource header).length := by
  obtain ⟨quote, _, opening, closing, _, hclosing, rfl⟩ := h.named
  obtain ⟨front, rfl, _⟩ := closing_last hclosing
  rw [List.idxOf_lt_length_iff, renderSource_header]
  simp

/-- With the line put in, the scan from a linked construct's header ends at the same brace. -/
theorem TypeScript.Linked.scanned
    (h : source.Linked printable constructId start stop before header body after)
    (hindent : ∀ c ∈ indent, isSpace c = true)
    (htext : source.text = (line ++ ['\n']) ++ rest)
    (hheader : start + (renderSource header).length ≤ (line ++ ['\n']).length)
    (hafter : (renderSource after).length ≤ rest.length) :
    closeBrace .code 0 (((line ++ ['\n']) ++ (versionedLine indent ++ rest)).drop
      (start + (renderSource header).idxOf '\x7b')) = some (renderSource after) := by
  have hbrace := h.construct.brace_lt
  have hscan := h.brace
  rw [List.length_append, List.length_singleton] at hheader
  have hdrop (more : List Char) : ((line ++ ['\n']) ++ more).drop
      (start + (renderSource header).idxOf '\x7b') =
      line.drop (start + (renderSource header).idxOf '\x7b') ++ '\n' :: more := by
    rw [List.append_assoc, List.drop_append_of_le_length (by omega)]
    rfl
  rw [htext, hdrop] at hscan
  rw [hdrop]
  rcases @endsOrCalm (line.drop (start + (renderSource header).idxOf '\x7b')) .code trivial 0 with
    ⟨tail, htail⟩ | ⟨mode, depth, hcalm, hrest⟩
  · rw [htail] at hscan
    have hlength := congrArg List.length (Option.some.inj hscan)
    rw [List.length_append, List.length_cons] at hlength
    omega
  · rw [hrest, closeBrace_neutral hcalm (versionedLine_neutral hindent), ← hrest, hscan]

/-- With the line put in, the linked construct is found again, or another one too. -/
theorem TypeScript.Linked.rescanned
    (h : source.Linked printable constructId start stop before header body after)
    (hindent : ∀ c ∈ indent, isSpace c = true)
    (htext : source.text = (line ++ ['\n']) ++ rest)
    (hheader : start + (renderSource header).length ≤ (line ++ ['\n']).length)
    (hafter : (renderSource after).length ≤ rest.length) :
    matchingConstruct printable ((line ++ ['\n']) ++ (versionedLine indent ++ rest)) constructId =
        .ok (some (start, stop + (versionedLine indent).length)) ∨
      ∃ e, matchingConstruct printable ((line ++ ['\n']) ++ (versionedLine indent ++ rest))
        constructId = .error e := by
  have hfound := h.found
  rw [htext] at hfound
  obtain ⟨others, hothers⟩ := headersOf_put_in hindent hfound hheader
  have hslice : (((line ++ ['\n']) ++ (versionedLine indent ++ rest)).drop start).take
      (renderSource header).length = renderSource header := by
    have hsame := h.headerText
    rw [htext, List.drop_append_of_le_length (by omega),
      List.take_append_of_le_length (by rw [List.length_drop]; omega)] at hsame
    rw [List.drop_append_of_le_length (by omega),
      List.take_append_of_le_length (by rw [List.length_drop]; omega), hsame]
  unfold matchingConstruct
  rw [hothers]
  cases others with
  | nil =>
    left
    dsimp only
    rw [hslice, h.scanned hindent htext hheader hafter]
    dsimp only
    have hstop := h.construct.stop_eq
    rw [htext] at hstop
    have hsum : ((line ++ ['\n']) ++ (versionedLine indent ++ rest)).length -
        (renderSource after).length + closingCall (renderSource after) =
        stop + (versionedLine indent).length := by
      rw [hstop]
      simp only [List.length_append] at hafter ⊢
      omega
    rw [hsum]
  | cons other others => exact Or.inr ⟨_, rfl⟩

/-- The patch of a patched text is refused. -/
theorem TypeScript.Linked.refused {proposed : List Char} {link : AwsCdkLink}
    (h : source.Linked printable link.constructId.toList start stop before header body after)
    (hindent : ∀ c ∈ indent, isSpace c = true)
    (htext : source.text = (line ++ ['\n']) ++ rest)
    (hheader : start + (renderSource header).length ≤ (line ++ ['\n']).length)
    (hafter : (renderSource after).length ≤ rest.length)
    (hstop : (line ++ ['\n']).length ≤ stop) :
    ∃ e, materializeCdkS3Versioning printable ((line ++ ['\n']) ++ (versionedLine indent ++ rest))
      proposed link = .error e := by
  cases hagain : materializeCdkS3Versioning printable
      ((line ++ ['\n']) ++ (versionedLine indent ++ rest)) proposed link with
  | error e => exact ⟨e, rfl⟩
  | ok result =>
    exfalso
    obtain ⟨start', stop', _, _, hbounds, hversioned, _⟩ := materialize_eq_ok hagain
    rcases h.rescanned hindent htext hheader hafter with hsame | ⟨e, he⟩
    · rw [hsame] at hbounds
      obtain ⟨rfl, rfl⟩ := Prod.mk.inj (Option.some.inj (Except.ok.inj hbounds))
      rw [versionedKey_found hindent (by omega) (by omega)] at hversioned
      cases hversioned
    · rw [he] at hbounds
      cases hbounds

end rescanning

section placing

variable {first second first' second' line line' chars : List Char}

/-- The last character of a text is that of its last part. -/
theorem getLast?_behind {front back : List Char} (hback : back ≠ []) :
    (front ++ back).getLast? = back.getLast? := by
  rw [List.getLast?_append, Option.or_of_isSome]
  simpa using hback

/-- The newline of a line is not in what stands before a part of it. -/
theorem newline_notMem_front {front back : List Char} (hchars : '\n' ∉ chars)
    (h : chars ++ ['\n'] = front ++ back) (hback : back ≠ []) : '\n' ∉ front := by
  have hlast : back.getLast? = some '\n' := by
    rw [← getLast?_behind hback, ← h, List.getLast?_concat]
  obtain ⟨rest, rfl⟩ := List.getLast?_eq_some_iff.mp hlast
  rw [← List.append_assoc] at h
  rw [List.append_cancel_right h] at hchars
  exact fun hmem => hchars (List.mem_append_left _ hmem)

/-- Where a text with a line put in is also the text with a line put in elsewhere, the first line
stands before its place already, or behind it. -/
theorem place_of_line (hsame : first ++ second = first' ++ second')
    (hput : first ++ (line ++ second) = first' ++ (line' ++ second'))
    (hline : line.getLast? = some '\n') (hline' : line' = chars ++ ['\n']) (hchars : '\n' ∉ chars)
    (hfirst' : first'.getLast? = some '\n') :
    first = first' ∨ (∃ early, first = early ++ line ∧ early.getLast? = some '\n') ∨
      ∃ late, first' = first ++ (line ++ late) := by
  rcases List.append_eq_append_iff.mp hsame with ⟨gap, rfl, hgap⟩ | ⟨gap, rfl, hgap⟩
  · by_cases hempty : gap = []
    · exact Or.inl (by rw [hempty, List.append_nil])
    · right
      right
      rw [hgap, List.append_assoc, ← List.append_assoc line, ← List.append_assoc gap] at hput
      have hturn := List.append_cancel_right (List.append_cancel_left hput)
      rw [getLast?_behind hempty] at hfirst'
      rcases List.append_eq_append_iff.mp hturn with ⟨late, hlate, _⟩ | ⟨front, hfront, hback⟩
      · exact ⟨late, by rw [← hlate]⟩
      · -- the gap ends a line, so nothing of the other line stands before it
        have hnothing : front = [] := by
          by_contra hne
          rw [hfront, getLast?_behind hne] at hline
          rw [hline'] at hback
          exact newline_notMem_front hchars hback hempty (List.mem_of_getLast? hline)
        refine ⟨[], ?_⟩
        rw [hfront, hnothing, List.append_nil, List.append_nil]
  · by_cases hempty : gap = []
    · exact Or.inl (by rw [hempty, List.append_nil])
    · right
      left
      rw [hgap, List.append_assoc, ← List.append_assoc gap, ← List.append_assoc line'] at hput
      have hturn := List.append_cancel_right (List.append_cancel_left hput)
      rcases List.append_eq_append_iff.mp hturn with ⟨back, hback, hfront⟩ | ⟨early, hearly, hgap'⟩
      · -- the gap ends a line, so nothing of the other line stands behind it
        have hnothing : back = [] := by
          by_contra hne
          rw [hfront, getLast?_behind hempty] at hline
          rw [hline'] at hback
          exact newline_notMem_front hchars hback hne (List.mem_of_getLast? hline)
        refine ⟨first', ?_, hfirst'⟩
        rw [hfront, hnothing, List.nil_append]
      · refine ⟨first' ++ early, by rw [hgap', List.append_assoc], ?_⟩
        by_cases hnone : early = []
        · rw [hnone, List.append_nil, hfirst']
        · have hlast : gap.getLast? = some '\n' := by
            have hne : line ≠ [] := by
              rintro rfl
              cases hline
            rw [hgap', getLast?_behind hne, hline]
          rw [hearly, getLast?_behind hnone] at hlast
          rw [getLast?_behind hnone, hlast]

end placing

section lines

variable {before after : List Lexeme} {lexeme : Lexeme} {chars indent next next' : List Char}

/-- Whether a part is read as itself depends on the next character alone. -/
theorem Lexeme.fits_congr (hnext : next.head? = next'.head?) (h : lexeme.Fits next) :
    lexeme.Fits next' := by
  cases lexeme with
  | code c =>
    obtain ⟨hquote, hslash⟩ := h
    refine ⟨hquote, fun heq => ?_⟩
    rw [← hnext]
    exact hslash heq
  | text quote body => exact h
  | lineComment body =>
    obtain ⟨hbody, hend⟩ := h
    refine ⟨hbody, ?_⟩
    rcases hend with hnil | hhead
    · left
      rw [hnil] at hnext
      exact List.head?_eq_none_iff.mp hnext.symm
    · exact Or.inr (hnext ▸ hhead)
  | blockComment body => exact h

/-- A part that ends with the end of a line is that end, read as code. -/
theorem Lexeme.newline_of_last (h : lexeme.Fits next) (hlast : lexeme.chars.getLast? = some '\n') :
    lexeme = .code '\n' := by
  cases lexeme with
  | code c =>
    obtain rfl := Option.some.inj hlast
    rfl
  | text quote body =>
    rw [Lexeme.chars, ← List.cons_append, List.getLast?_concat] at hlast
    obtain rfl := Option.some.inj hlast
    exact absurd h.1 (by decide)
  | lineComment body =>
    have hmem := List.mem_of_getLast? hlast
    rw [Lexeme.chars, List.mem_cons, List.mem_cons] at hmem
    rcases hmem with hslash | hslash | hmem
    · exact absurd hslash (by decide)
    · exact absurd hslash (by decide)
    · exact absurd hmem h.1
  | blockComment body =>
    have hend : Lexeme.chars (.blockComment body) = ('/' :: '*' :: (body ++ ['*'])) ++ ['/'] := by
      rw [Lexeme.chars]
      simp
    rw [hend, List.getLast?_concat] at hlast
    cases hlast

/-- Code can be put in behind the end of a line. -/
theorem lexed_put_in (hchars : ∀ c ∈ chars, bareChar c = true) (h : Lexed (before ++ after))
    (hlast : (renderSource before).getLast? = some '\n') :
    Lexed (before ++ (codes chars ++ after)) := by
  induction before with
  | nil => cases hlast
  | cons lexeme before ih =>
    obtain ⟨hfits, hrest⟩ := h
    cases before with
    | nil =>
      rw [renderSource_cons, renderSource_nil, List.append_nil] at hlast
      obtain rfl := Lexeme.newline_of_last hfits hlast
      exact ⟨⟨by decide, fun hslash => absurd hslash (by decide)⟩, lexed_codes hchars hrest⟩
    | cons other before =>
      have hne : renderSource (other :: before) ≠ [] := by
        rw [renderSource_cons]
        exact List.append_ne_nil_of_left_ne_nil other.chars_ne_nil _
      rw [renderSource_cons, getLast?_behind hne] at hlast
      refine ⟨Lexeme.fits_congr ?_ hfits, ih hrest hlast⟩
      obtain ⟨c, tail, hc⟩ := List.exists_cons_of_ne_nil hne
      change (renderSource ((other :: before) ++ after)).head? =
        (renderSource ((other :: before) ++ (codes chars ++ after))).head?
      rw [renderSource_append, renderSource_append, hc]
      rfl

/-- The inserted line has no quotes and no comments. -/
theorem versionedLine_bare (hindent : ∀ c ∈ indent, isSpace c = true) :
    ∀ c ∈ versionedLine indent, bareChar c = true := by
  intro c hc
  obtain ⟨⟨hquote, hslash⟩, _⟩ := isNeutral_iff.mp (versionedLine_neutral hindent c hc)
  unfold bareChar
  rw [Bool.and_eq_true, decide_eq_true_eq, decide_eq_true_eq]
  exact ⟨hquote, hslash⟩

/-- The text of the property, without the end of its line. -/
def versionedProperty (indent : List Char) : List Char := indent ++ versionedText.dropLast

/-- The inserted line is the property and a line end. -/
theorem versionedLine_eq (indent : List Char) :
    versionedLine indent = versionedProperty indent ++ ['\n'] := by
  unfold versionedLine versionedProperty
  rw [List.append_assoc]
  rfl

/-- The property is in one line where its indent is. -/
theorem versionedProperty_oneLine (h : '\n' ∉ indent) : '\n' ∉ versionedProperty indent := by
  unfold versionedProperty
  rw [List.mem_append, not_or]
  exact ⟨h, by decide⟩

/-- The line that is put in is one property, where its indent is on one line. -/
theorem isVersionedLine (hindent : ∀ c ∈ indent, isSpace c = true) (h : '\n' ∉ indent) :
    IsVersionedLine (versionedLine indent) := by
  refine ⟨versionedProperty indent, versionedLine_eq indent, versionedProperty_oneLine h, ?_⟩
  have hcomma := @Spelled.gap isSpace [] (by simp) _ _ (.word [','] .nil)
  have htrue := @Spelled.gap isSpace [' ', ' ', ' ', ' ', ' ', ' ', ' ', ' ', ' '] (by decide) _ _
    (.word ['t', 'r', 'u', 'e'] hcomma)
  have hcolon := @Spelled.gap isSpace [] (by simp) _ _ (.word [':'] htrue)
  exact .gap hindent (.word _ hcolon)

end lines

section result

variable {source : TypeScript} {printable : Char → Bool} {start stop position n : ℕ}
  {before header body after : List Lexeme} {indent proposed result : List Char} {link : AwsCdkLink}

/-- The indent of an encryption line is made of spaces. -/
theorem EncryptionAt.indent_spaces (h : EncryptionAt source start stop position n indent) :
    ∀ c ∈ indent, isSpace c = true := by
  rw [h.spaces]
  exact fun c hc => List.mem_takeWhile_imp hc

/-- The line of an encryption property is not within the line that is put in. -/
theorem versionedLine_other (hindent : ∀ c ∈ indent, isSpace c = true) :
    'c' ∉ versionedLine indent := by
  intro hmem
  rcases List.mem_append.mp hmem with hmem | hmem
  · exact absurd (hindent _ hmem) (by decide)
  · exact absurd hmem (by decide)

/-- The place of a line that is put in is behind the line of the encryption property. -/
theorem TypeScript.Linked.place {first second line : List Char}
    (h : source.Linked printable link.constructId.toList start stop before header body after)
    (hencryption : EncryptionAt source start stop position n indent)
    (hversioned : versionedKey.searchFrom none (sliceOf source.text start stop) = false)
    (htext : source.text = first ++ second) (hstop : first.length ≤ stop)
    (hfirst : first.getLast? = some '\n') (hline : IsVersionedLine line)
    (hresult : source.text.take (start + position + n) ++
      (versionedLine indent ++ source.text.drop (start + position + n)) =
        first ++ (line ++ second)) :
    source.text.take (start + position + n) = first := by
  have hindent := hencryption.indent_spaces
  have hinside := hencryption.inside
  obtain ⟨_, hlength⟩ := h.within
  have htake : (source.text.take (start + position + n)).length = start + position + n := by
    rw [List.length_take]
    omega
  obtain ⟨chars, hchars, hnewline, _⟩ := hline
  have hlast : (versionedLine indent).getLast? = some '\n' := by
    rw [versionedLine_eq, List.getLast?_concat]
  have hsame : source.text.take (start + position + n) ++
      source.text.drop (start + position + n) = first ++ second := by
    rw [List.take_append_drop, htext]
  rcases place_of_line hsame hresult hlast hchars hnewline hfirst with
    hplace | ⟨early, hearly, hend⟩ | ⟨late, hlate⟩
  · exact hplace
  · -- the line stands there already, in the construct or around the encryption property
    exfalso
    have hlengths := congrArg List.length hearly
    rw [htake, List.length_append] at hlengths
    obtain ⟨front, rfl⟩ := List.getLast?_eq_some_iff.mp hend
    by_cases hstart : start ≤ (front ++ ['\n']).length
    · have hwhole : source.text = (front ++ ['\n']) ++ (versionedLine indent ++
          source.text.drop (start + position + n)) := by
        rw [← List.append_assoc, ← hearly, List.take_append_drop]
      rw [hwhole, versionedKey_found hindent hstart (by omega)] at hversioned
      cases hversioned
    · have hnamed := hencryption.named
      rw [hearly, List.drop_append, List.drop_eq_nil_of_le (by omega), List.nil_append] at hnamed
      exact versionedLine_other hindent (List.mem_of_mem_drop hnamed)
  · -- the line stands behind it already, in the construct
    exfalso
    have hlengths := congrArg List.length hlate
    rw [List.length_append, List.length_append, htake] at hlengths
    have hpositive : 0 < (versionedLine indent).length := by
      rw [versionedLine_eq, List.length_append]
      exact Nat.lt_add_left _ Nat.one_pos
    have hend : (source.text.take (start + position + n)).getLast? = some '\n' := by
      rcases hencryption.ends with hend | hend
      · exact hend
      · omega
    obtain ⟨front, hfront⟩ := List.getLast?_eq_some_iff.mp hend
    have hwhole : source.text = (front ++ ['\n']) ++
      (versionedLine indent ++ (late ++ second)) := by
      rw [htext, hlate, ← hfront]
      simp
    rw [hfront] at htake
    rw [hwhole, versionedKey_found hindent (by omega) (by omega)] at hversioned
    cases hversioned

end result

/-- The patch of a linked construct is one removable property line exactly if the line of the
encryption property ends at the top of the construct's properties, behind a comma, and no blank line
stands before it. -/
theorem cdk_patch_one_line_iff (printable : Char → Bool) (source : TypeScript)
    (proposed result : List Char) (link : AwsCdkLink)
    (h : materializeCdkS3Versioning printable source.text proposed link = .ok result) :
    OneLinePut printable source proposed link result ↔
      EncryptionOnTop printable source link.constructId.toList := by
  have hparts {before header first second : List Lexeme} {after : List Lexeme} {start stop : ℕ}
      (hlinked : source.Linked printable link.constructId.toList start stop before header
        (first ++ second) after) :
      source.text = renderSource (before ++ header ++ first) ++
        renderSource (second ++ .code '\x7d' :: after) := by
    unfold TypeScript.text
    rw [hlinked.construct.split]
    simp only [renderSource_append, List.append_assoc]
  constructor
  · rintro ⟨start, stop, before, header, first, second, after, line, hlinked, hline, _, hresult,
      hlast, hbrackets, hseparated, _⟩
    obtain ⟨position, n, indent, hencryption, hversioned, hput⟩ := hlinked.patched h
    have htext := hparts hlinked
    have hstop : (renderSource (before ++ header ++ first)).length ≤ stop := by
      rw [hlinked.construct.ends]
      simp only [renderSource_append, List.length_append]
      omega
    have hplace := hlinked.place hencryption hversioned htext hstop hlast hline
      (hput.symm.trans hresult)
    have hlength : (renderSource (before ++ header ++ first)).length = start + position + n := by
      have hinside := hencryption.inside
      obtain ⟨_, hwithin⟩ := hlinked.within
      rw [← hplace, List.length_take]
      omega
    refine ⟨start, stop, before, header, first, second, after, position, n, hlinked,
      hencryption.found, hlength, hlast, ?_, hbrackets, hseparated⟩
    rw [← hencryption.spaces]
    have hsame : versionedLine indent = line := by
      rw [hput, hplace] at hresult
      have hdrop : source.text.drop (start + position + n) =
          renderSource (second ++ .code '\x7d' :: after) := by
        rw [htext, ← hlength, List.drop_left]
      rw [hdrop] at hresult
      exact List.append_cancel_right (List.append_cancel_left hresult)
    obtain ⟨chars, hchars, hnewline, _⟩ := hline
    rw [← hsame, versionedLine_eq] at hchars
    rw [← List.append_cancel_right hchars] at hnewline
    exact fun hmem => hnewline (List.mem_append_left _ hmem)
  · rintro ⟨start, stop, before, header, first, second, after, position, n, hlinked, hfound,
      hlength, hlast, hnewline, hbrackets, hseparated⟩
    obtain ⟨position', n', indent, hencryption, hversioned, hput⟩ := hlinked.patched h
    obtain ⟨rfl, rfl⟩ := Prod.mk.inj (List.cons.inj (hencryption.found.symm.trans hfound)).1
    rw [← hencryption.spaces] at hnewline
    have hindent := hencryption.indent_spaces
    have htext := hparts hlinked
    have htake : source.text.take (start + position' + n') =
        renderSource (before ++ header ++ first) := by
      rw [htext, ← hlength, List.take_left]
    have hdrop : source.text.drop (start + position' + n') =
        renderSource (second ++ .code '\x7d' :: after) := by
      rw [htext, ← hlength, List.drop_left]
    rw [htake, hdrop] at hput
    have hlexed : Lexed (before ++ header ++ first ++ (second ++ .code '\x7d' :: after)) := by
      have hsource := source.lexed
      rw [hlinked.construct.split] at hsource
      simpa using hsource
    refine ⟨start, stop, before, header, first, second, after, versionedLine indent, hlinked,
      isVersionedLine hindent hnewline, lexed_put_in (versionedLine_bare hindent) hlexed hlast,
      hput, hlast, hbrackets, hseparated, ?_⟩
    obtain ⟨line, hline⟩ := List.getLast?_eq_some_iff.mp hlast
    rw [hline] at hput htext hlength
    rw [hput]
    have hbegins := hlinked.construct.begins
    have hheader : start + (renderSource header).length ≤ (line ++ ['\n']).length := by
      rw [hbegins, ← hline]
      simp only [renderSource_append, List.length_append]
      omega
    refine hlinked.refused hindent htext hheader ?_ ?_
    · simp only [renderSource_append, renderSource_cons, List.length_append]
      omega
    · rw [hlength]
      exact hencryption.inside

/-- One line that is put in is one more line of the text. -/
theorem OneLinePut.count {printable : Char → Bool} {source : TypeScript}
    {proposed result : List Char} {link : AwsCdkLink}
    (h : OneLinePut printable source proposed link result) :
    result.count '\n' = source.text.count '\n' + 1 := by
  obtain ⟨start, stop, before, header, first, second, after, line, hlinked,
    ⟨chars, rfl, hchars, _⟩, _, rfl, _⟩ := h
  have hline : (chars ++ ['\n']).count '\n' = 1 := by
    rw [List.count_append, List.count_eq_zero_of_not_mem hchars]
    rfl
  unfold TypeScript.text
  rw [hlinked.construct.split]
  simp only [renderSource_append, List.count_append] at hline ⊢
  omega

section samples

/-- The properties of a construct with an encryption property, behind some space. -/
def sampleProperties (space : List Char) : List Char :=
  space ++ "  encryption: x,\n".toList

/-- The lexemes of the sample may stand next to each other. -/
theorem sampleSource_lexed {space : List Char} (hspace : ∀ c ∈ space, bareChar c = true) :
    Lexed (sampleHeader ++ (codes (sampleProperties space) ++ codes ['\x7d', ')', ';'])) := by
  have hcall : Lexed (codes ['\x7d', ')', ';'] ++ []) := lexed_codes (by decide) trivial
  have hproperties : Lexed (codes (sampleProperties space) ++ codes ['\x7d', ')', ';']) := by
    refine lexed_codes (fun c hc => ?_) hcall
    rcases List.mem_append.mp hc with hc | hc
    · exact hspace c hc
    · have hall : ∀ c ∈ "  encryption: x,\n".toList, bareChar c = true := by
        decide
      exact hall c hc
  have hclosing : Lexed (codes [',', ' ', '\x7b'] ++
      (codes (sampleProperties space) ++ codes ['\x7d', ')', ';'])) :=
    lexed_codes (by decide) hproperties
  have htext : Lexed (.text '\'' ['A'] :: (codes [',', ' ', '\x7b'] ++
      (codes (sampleProperties space) ++ codes ['\x7d', ')', ';']))) :=
    ⟨⟨by decide, by decide⟩, hclosing⟩
  unfold sampleHeader
  rw [List.append_assoc]
  exact lexed_codes (by decide) htext

/-- `new s3.Bucket(this, 'A', { encryption: x, });` with its property on a line of its own. -/
def encryptedConstruct : TypeScript := ⟨_, @sampleSource_lexed ['\n'] (by decide)⟩

/-- The same with a blank line before its property. -/
def spacedConstruct : TypeScript := ⟨_, @sampleSource_lexed ['\n', '\n'] (by decide)⟩

/-- A proposal that turns versioning on. -/
def sampleProposal : List Char := "new s3.Bucket(this, 'A', \x7b\n  versioned: true\n\x7d);".toList

/-- The link of the sample construct. -/
def sampleCdkLink : AwsCdkLink where
  resourceUid := "arn:aws:s3:::bucket"
  sourcePath := "lib/stack.ts"
  modulePath := "lib"
  resourceType := "AWS::S3::Bucket"
  resourceName := "A"
  startLine := 1
  endLine := 3
  matchStrategy := "cloudformation_stack_logical_id_and_cdk_construct"
  confidence := 1
  sourceSha256 := "0"
  resourceAddress := "Stack.A"
  stateSha256 := "0"
  iacEngine := "aws_cdk_cloudformation"
  stackName := "Stack"
  logicalResourceId := "A"
  constructId := "A"
  accountId := "111122223333"
  region := "us-east-1"
  executorRoleArn := "arn:aws:iam::111122223333:role/executor"
  cloudformationServiceRoleArn := none
  rollbackMode := "containment"

/-- A patch of which something is seen is a patch that is made. -/
theorem made_of_toOption {patched : Except PyError (List Char)} {holds : List Char → Prop}
    (h : ∃ result ∈ patched.toOption, holds result) :
    ∃ result, patched = .ok result ∧ holds result := by
  obtain ⟨result, hresult, hholds⟩ := h
  cases patched with
  | error e => cases hresult
  | ok made => exact ⟨made, rfl, by cases hresult; exact hholds⟩

/-- Behind a blank line the patch puts in two lines. -/
theorem blank_line_put_twice : ∃ result,
    materializeCdkS3Versioning (fun _ => true) spacedConstruct.text sampleProposal sampleCdkLink =
      .ok result ∧
    ¬OneLinePut (fun _ => true) spacedConstruct sampleProposal sampleCdkLink result := by
  have hexists : ∃ result ∈ (materializeCdkS3Versioning (fun _ => true) spacedConstruct.text
      sampleProposal sampleCdkLink).toOption,
      result.count '\n' = spacedConstruct.text.count '\n' + 2 := by
    decide +kernel
  obtain ⟨result, hresult, hcount⟩ := made_of_toOption hexists
  refine ⟨result, hresult, fun hput => ?_⟩
  have hone := hput.count
  omega

/-- The patch of the sample construct is one line. -/
theorem encryptedConstruct_patched : ∃ result,
    materializeCdkS3Versioning (fun _ => true) encryptedConstruct.text sampleProposal
      sampleCdkLink = .ok result ∧
    OneLinePut (fun _ => true) encryptedConstruct sampleProposal sampleCdkLink result := by
  have hexists : ∃ result ∈ (materializeCdkS3Versioning (fun _ => true) encryptedConstruct.text
      sampleProposal sampleCdkLink).toOption, result.length = 74 := by
    decide +kernel
  obtain ⟨result, hresult, _⟩ := made_of_toOption hexists
  have hlinked : encryptedConstruct.Linked (fun _ => true) ['A'] 0 47 [] sampleHeader
      (codes (sampleProperties ['\n']) ++ []) (codes [')', ';']) := by
    constructor
    · exact ⟨rfl, ⟨'\'', by decide, sampleHeader_isHeader⟩, by decide +kernel, rfl,
        by decide +kernel⟩
    · decide +kernel
    · decide +kernel
  have hontop : EncryptionOnTop (fun _ => true) encryptedConstruct ['A'] :=
    ⟨0, 47, [], sampleHeader, codes (sampleProperties ['\n']), [], codes [')', ';'], 27, 17,
      hlinked, by decide +kernel, by decide +kernel, by decide +kernel, by decide +kernel,
      by decide +kernel, by unfold Separated; decide +kernel⟩
  exact ⟨result, hresult, (cdk_patch_one_line_iff (fun _ => true) encryptedConstruct sampleProposal
    result sampleCdkLink hresult).mpr hontop⟩

end samples

end ElCapitan
