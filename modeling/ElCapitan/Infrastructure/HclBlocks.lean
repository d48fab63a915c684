import ElCapitan.Infrastructure.HclPlain

/-!
# The resource blocks of a text

In a text whose resource blocks are plain, each of them is read as it is meant. The scanner finds
exactly the resource blocks of such a text where no line outside of them looks like a header.
-/

namespace ElCapitan

section headers

/-- The header of a plain resource block, with its labels. -/
theorem plain_header {declared : HclBlock} {resource : String × String}
    (hplain : declared.plain = true) (hlexical : declared.lexical = true)
    (hresource : declared.resource? = some resource) :
    ∃ gap resourceType gap' resourceName,
      declared.header = "resource".toList ++ (renderAll gap ++
        ((BlockLabel.quoted (resourceType.map .char)).render ++ (renderAll gap' ++
          ((BlockLabel.quoted (resourceName.map .char)).render ++
            (renderAll declared.opening ++ ['\x7b']))))) ∧
      resource = (String.ofList resourceType, String.ofList resourceName) ∧
      (plainGap gap = true ∧ gap ≠ []) ∧ (plainGap gap' = true ∧ gap' ≠ []) ∧
      (resourceType ≠ [] ∧ ∀ c ∈ resourceType, QuietChar c) ∧
      (resourceName ≠ [] ∧ ∀ c ∈ resourceName, QuietChar c) ∧
      plainGap declared.opening = true := by
  unfold HclBlock.plain at hplain
  split at hplain
  · rename_i gap typeParts gap' nameParts hlabels
    simp only [Bool.and_eq_true, Bool.not_eq_true', List.isEmpty_eq_false_iff] at hplain
    obtain ⟨⟨⟨⟨⟨⟨⟨hgap, hne⟩, htype⟩, hgap'⟩, hne'⟩, hname⟩, hopening⟩, _⟩ := hplain
    unfold HclBlock.lexical at hlexical
    rw [hlabels] at hlexical
    simp only [List.all_cons, List.all_nil, Bool.and_true, Bool.and_eq_true, BlockLabel.lexical]
      at hlexical
    obtain ⟨resourceType, rfl, htypeNe, htypeChars⟩ :=
      plainLabel_chars htype hlexical.1.1.1.2.1.2.1
    obtain ⟨resourceName, rfl, hnameNe, hnameChars⟩ :=
      plainLabel_chars hname hlexical.1.1.1.2.2.2.1
    unfold HclBlock.resource? at hresource
    rw [hlabels] at hresource
    obtain ⟨hkeyword, hnames⟩ : declared.keyword = "resource".toList ∧
        (String.ofList resourceType, String.ofList resourceName) = resource := by
      dsimp only [BlockLabel.text] at hresource
      rw [renderParts_chars, renderParts_chars] at hresource
      split at hresource
      · rename_i hkeyword
        exact ⟨hkeyword, Option.some.inj hresource⟩
      · cases hresource
    have hheader : declared.header = "resource".toList ++ (renderAll gap ++
        ((BlockLabel.quoted (resourceType.map .char)).render ++ (renderAll gap' ++
          ((BlockLabel.quoted (resourceName.map .char)).render ++
            (renderAll declared.opening ++ ['\x7b']))))) := by
      unfold HclBlock.header
      rw [hlabels, hkeyword]
      simp only [List.flatMap_cons, List.flatMap_nil, List.append_nil, List.append_assoc]
    have hwithin : ∀ c ∈ declared.header, isLineBreak c = false := by
      simpa using hlexical.1.2
    have hquiet : ∀ text : List Char, (∀ c ∈ text, c ≠ '"' ∧ c ≠ '\\') →
        (∀ c ∈ text, c ∈ declared.header) → ∀ c ∈ text, QuietChar c :=
      fun text hchars hmem c hc => ⟨(hchars c hc).1, (hchars c hc).2, hwithin c (hmem c hc)⟩
    refine ⟨gap, resourceType, gap', resourceName, hheader, hnames.symm, ⟨hgap, hne⟩,
      ⟨hgap', hne'⟩, ⟨htypeNe, hquiet _ htypeChars fun c hc => ?_⟩,
      ⟨hnameNe, hquiet _ hnameChars fun c hc => ?_⟩, hopening⟩
    · rw [hheader]
      simp only [BlockLabel.render, renderParts_chars, List.mem_append, hc, true_or, or_true]
    · rw [hheader]
      simp only [BlockLabel.render, renderParts_chars, List.mem_append, hc, true_or, or_true]
  · cases hplain

/-- A gap that is not empty has some text. -/
theorem renderAll_plainGap_ne_nil {gap : List Element} (h : plainGap gap = true) (hne : gap ≠ []) :
    renderAll gap ≠ [] := by
  cases gap with
  | nil => exact absurd rfl hne
  | cons element gap =>
    cases element with
    | code c => simp [renderAll, Element.render]
    | _ => cases h

/-- A plain gap is made of spaces. -/
theorem plainGap_spaces {gap : List Element} (h : plainGap gap = true) :
    ∀ c ∈ renderAll gap, isSpace c = true :=
  fun c hc => isSpace_of_blank (plainGap_blank h c hc)

/-- The header of a plain resource block counts for its brace. -/
theorem counts_header {indent : List Element} {declared : HclBlock} {resource : String × String}
    (hindent : plainGap indent = true) (hplain : declared.plain = true)
    (hlexical : declared.lexical = true) (hresource : declared.resource? = some resource)
    (next : Option Char) : Counts (renderAll indent ++ declared.header) 1 next := by
  obtain ⟨gap, resourceType, gap', resourceName, hheader, _, hgap, hgap', htype, hname,
    hopening⟩ := plain_header hplain hlexical hresource
  have hword : ∀ c ∈ "resource".toList, QuietChar c ∧ c ≠ '#' ∧ c ≠ '/' ∧ c ≠ '\x7b' ∧
      c ≠ '\x7d' := by
    simp [QuietChar, isLineBreak]
  have hbrace : Counts (renderAll declared.opening ++ ['\x7b']) (0 + 1) next :=
    (counts_blanks hopening _).append (counts_opening .brace next)
  have hall := (counts_blanks hindent _).append ((counts_words hword _).append
    ((counts_blanks hgap.1 _).append ((counts_label htype.2 _).append
      ((counts_blanks hgap'.1 _).append ((counts_label hname.2 _).append hbrace)))))
  rw [hheader]
  simpa using hall

/-- The lines of a plain resource block begin with its header. -/
theorem beginsBlock_plain {indent : List Element} {declared : HclBlock}
    {resource : String × String} (hindent : plainGap indent = true)
    (hplain : declared.plain = true) (hlexical : declared.lexical = true)
    (hresource : declared.resource? = some resource) {rest : List Char} (hrest : rest ≠ [])
    (more : List (List Char)) (startLine endLine : ℕ) :
    BeginsBlock ⟨resource.1, resource.2, startLine, endLine⟩
      (splitLines (renderAll indent ++ declared.header ++ rest) ++ more) := by
  have hcounts := counts_header hindent hplain hlexical hresource rest.head?
  obtain ⟨line, lines, _, _, hsplit⟩ := splitLines_within hcounts.1 hrest
  obtain ⟨gap, resourceType, gap', resourceName, hheader, rfl, hgap, hgap', htype, hname,
    hopening⟩ := plain_header hplain hlexical hresource
  have hread := resourceHeader_plain (plainGap_spaces hindent) (plainGap_spaces hgap.1)
    (plainGap_spaces hgap'.1) (plainGap_spaces hopening)
    (renderAll_plainGap_ne_nil hgap.1 hgap.2) (renderAll_plainGap_ne_nil hgap'.1 hgap'.2)
    htype.1 hname.1 (fun c hc => (htype.2 c hc).1) (fun c hc => (hname.2 c hc).1) line
  unfold BeginsBlock
  rw [hsplit, hheader]
  simpa only [List.cons_append, List.head?_cons, Option.bind_some, List.append_assoc,
    List.nil_append] using hread

end headers

section balance

/-- There is one depth for each line. -/
theorem runningDepths_length (depth : ℤ) (lines : List (List Char)) :
    (runningDepths depth lines).length = lines.length := by
  induction lines generalizing depth with
  | nil => rfl
  | cons line lines ih => exact congrArg (· + 1) (ih (depth + lineDelta line))

/-- Text that counts for a number of braces, before the end of the line. -/
theorem depthsOf_ending {text : List Char} {count : ℤ} (hne : text ≠ [])
    (h : ∀ next, Counts text count next) {ending : Ending} (hplain : ending.plain = true)
    (depth : ℤ) : depthsOf depth (text ++ ending.render) = [depth + count] := by
  have hblank : lineDelta [] = 0 := rfl
  cases ending with
  | newline =>
    rw [Ending.render, depthsOf_counts (h _) (by simp), depthsOf_newline]
    rfl
  | comment hash comment =>
    have htext : ∀ c ∈ comment, isLineBreak c = false := by
      simpa [Ending.plain] using hplain
    have hlast := @depthsOf_comment hash comment htext (depth + count) []
    rw [List.append_nil] at hlast
    rw [Ending.render, depthsOf_counts (h _) (by simp), hlast]
    rfl
  | fileEnd =>
    have hline : lineDelta text = count := by
      simpa [hblank] using (h none).2 [] rfl
    unfold depthsOf
    rw [Ending.render, List.append_nil, splitLines_single (h none).1 hne, runningDepths, hline]
    rfl
  | lastComment hash comment =>
    have htext : ∀ c ∈ comment, isLineBreak c = false := by
      simpa [Ending.plain] using hplain
    have hwithin : ∀ c ∈ text ++ (commentSign hash ++ comment), isLineBreak c = false := by
      intro c hc
      rcases List.mem_append.mp hc with hc | hc
      · exact (h none).1 c hc
      · rcases List.mem_append.mp hc with hc | hc
        · exact commentSign_within hash c hc
        · exact htext c hc
    unfold depthsOf
    rw [Ending.render, splitLines_single hwithin (by simp [hne]), runningDepths,
      (h _).2 _ rfl, lineDelta_comment, add_zero]
    rfl

/-- The braces of a plain resource block balance at its closing line and not before. -/
theorem depthsOf_plain {indent trailing : List Element} {declared : HclBlock} {ending : Ending}
    {resource : String × String} (hindent : plainGap indent = true)
    (hplain : declared.plain = true) (hlexical : declared.lexical = true)
    (hresource : declared.resource? = some resource) (htrailing : plainGap trailing = true)
    (hending : ending.plain = true) : ∃ depths,
      depthsOf 0 (Item.block indent declared trailing ending).render = depths ++ [0] ∧
      0 ∉ depths ∧ depths.length = breaks declared.render := by
  have hheader := counts_header hindent hplain hlexical hresource
  have hbody : plainAll false declared.body = true := by
    unfold HclBlock.plain at hplain
    split at hplain
    · simp only [Bool.and_eq_true] at hplain
      exact hplain.2
    · cases hplain
  have hbodyLexical : lexicalAll ['\x7d'] declared.body = true := by
    unfold HclBlock.lexical at hlexical
    simp only [Bool.and_eq_true] at hlexical
    exact hlexical.2
  have hclosing (next : Option Char) : Counts ('\x7d' :: renderAll trailing) (-1) next := by
    have hcounts := (counts_closing .brace _).append (counts_blanks htrailing next)
    rwa [add_zero] at hcounts
  obtain ⟨depths, hdepths, hbound, hlength⟩ := grows_elements declared.body 1
    ('\x7d' :: renderAll trailing ++ ending.render) ['\x7d'] hbody hbodyLexical (by simp) rfl
  have hrender : (Item.block indent declared trailing ending).render =
      renderAll indent ++ declared.header ++
        (renderAll declared.body ++ ('\x7d' :: renderAll trailing ++ ending.render)) := by
    simp [Item.render, HclBlock.render]
  refine ⟨depths, ?_, fun hzero => ?_, ?_⟩
  · rw [hrender, depthsOf_counts (hheader _) (by simp), zero_add, hdepths,
      depthsOf_ending (by simp) hclosing hending]
    rfl
  · have := hbound 0 hzero
    omega
  · have hquiet : breaks declared.header = 0 := by
      refine breaks_within fun c hc => (hheader none).1 c ?_
      exact List.mem_append_right _ hc
    have hbrace : breaks ['\x7d'] = 0 := by decide
    rw [hlength, HclBlock.render, breaks_append, breaks_append, hquiet, hbrace, add_zero,
      zero_add]

end balance

section items

/-- No line outside of the blocks looks like a header. -/
def NoOtherHeader (first : ℕ) (lines : List (List Char)) : List BlockSpan → Prop
  | [] => ∀ line ∈ lines, resourceHeader line = none
  | span :: spans =>
    (∀ line ∈ lines.take (span.startLine - first), resourceHeader line = none) ∧
    NoOtherHeader (span.endLine + 1) (lines.drop (span.endLine + 1 - first)) spans

instance decidableNoOtherHeader : ∀ (first : ℕ) (lines : List (List Char))
    (spans : List BlockSpan), Decidable (NoOtherHeader first lines spans)
  | _, lines, [] => inferInstanceAs (Decidable (∀ line ∈ lines, resourceHeader line = none))
  | first, lines, span :: spans =>
    have := decidableNoOtherHeader (span.endLine + 1) (lines.drop (span.endLine + 1 - first)) spans
    inferInstanceAs (Decidable ((∀ line ∈ lines.take (span.startLine - first),
      resourceHeader line = none) ∧ NoOtherHeader _ _ spans))

/-- An item that is not the last one ends its line. -/
theorem Item.wholeLines {item : Item} (h : item.ending.isLast = false) :
    WholeLines item.render := by
  have hending (ending : Ending) (text : List Char) (hlast : ending.isLast = false) :
      WholeLines (text ++ ending.render) := by
    right
    cases ending with
    | newline => simp [Ending.render]
    | comment hash comment => simp [Ending.render]
    | fileEnd => cases hlast
    | lastComment hash comment => cases hlast
  cases item with
  | blank indent ending => exact hending ending _ h
  | «attribute» indent name gap value ending => exact hending ending _ h
  | block indent declared trailing ending => exact hending ending _ h

/-- Only the last item ends with the file. -/
theorem lexicalItems_cons {item : Item} {items : List Item}
    (h : lexicalItems (item :: items) = true) : item.lexical = true ∧
      lexicalItems items = true ∧ (items = [] ∨ item.ending.isLast = false) := by
  cases items with
  | nil => exact ⟨h, rfl, Or.inl rfl⟩
  | cons next items =>
    simp only [lexicalItems, Bool.and_eq_true, Bool.not_eq_true'] at h
    exact ⟨h.1.1, h.2, Or.inr h.1.2⟩

/-- The lines of a plain resource block. -/
theorem Item.span_lines {item : Item} {line : ℕ} {span : BlockSpan}
    (hspan : item.span? line = some span) (hplain : item.plain = true)
    (hlexical : item.lexical = true) : span.startLine = line ∧
      line + (splitLines item.render).length = span.endLine + 1 ∧
      (∀ more, BeginsBlock span (splitLines item.render ++ more)) ∧
      BalancedFrom 0 (splitLines item.render) := by
  cases item with
  | blank indent ending => cases hspan
  | «attribute» indent name gap value ending => cases hspan
  | block indent declared trailing ending =>
    obtain ⟨resource, hresource, rfl⟩ := Option.map_eq_some_iff.mp hspan
    simp only [Item.plain, hresource, Option.isNone_some, Bool.false_or, Bool.and_eq_true]
      at hplain
    obtain ⟨⟨⟨hindent, hdeclared⟩, htrailing⟩, hending⟩ := hplain
    have hblock : declared.lexical = true := by
      simp only [Item.lexical, Bool.and_eq_true] at hlexical
      exact hlexical.1.1.2
    have hblank : breaks (renderAll indent) = 0 := by
      exact breaks_within fun c hc => (counts_blanks hindent none).1 c hc
    obtain ⟨depths, hdepths, hzero, hlength⟩ :=
      depthsOf_plain hindent hdeclared hblock hresource htrailing hending
    have hrender : (Item.block indent declared trailing ending).render =
        renderAll indent ++ declared.header ++
          (renderAll declared.body ++ ('\x7d' :: renderAll trailing ++ ending.render)) := by
      simp [Item.render, HclBlock.render]
    refine ⟨?_, ?_, fun more => ?_, depths, hdepths, hzero⟩
    · rw [hblank, add_zero]
    · rw [hblank, add_zero, ← hlength, ← runningDepths_length 0,
        show runningDepths 0 _ = _ from hdepths, List.length_append]
      rfl
    · rw [hrender]
      exact beginsBlock_plain hindent hdeclared hblock hresource (by simp) more _ _

/-- Items with plain resource blocks are read as these blocks where no other line looks like a
header. The induction passes over the items before the next resource block. -/
theorem readAs_items {items : List Item} (hlexical : lexicalItems items = true)
    (hplain : items.all Item.plain = true) {before : List Char} (hbefore : WholeLines before)
    (hreturn : '\r' ∉ before ++ renderItems items) (first : ℕ) :
    ReadAs first (splitLines (before ++ renderItems items))
        (spansFrom (first + breaks before) items) ↔
      NoOtherHeader first (splitLines (before ++ renderItems items))
        (spansFrom (first + breaks before) items) := by
  induction items generalizing before first with
  | nil => rfl
  | cons item items ih =>
    obtain ⟨hitem, hitems, hlast⟩ := lexicalItems_cons hlexical
    obtain ⟨hitemPlain, hitemsPlain⟩ := Bool.and_eq_true_iff.mp hplain
    have hrender : renderItems (item :: items) = item.render ++ renderItems items := rfl
    rw [hrender] at hreturn ⊢
    simp only [List.mem_append, not_or] at hreturn
    obtain ⟨hbeforeReturn, hitemReturn, hitemsReturn⟩ := hreturn
    cases hspan : item.span? (first + breaks before) with
    | none =>
      have hspans : spansFrom (first + breaks before) (item :: items) =
          spansFrom (first + breaks (before ++ item.render)) items := by
        rw [spansFrom, hspan, breaks_append, add_assoc]
        rfl
      rw [hspans, ← List.append_assoc]
      rcases hlast with rfl | hlast
      · rfl
      · exact ih hitems hitemsPlain (hbefore.append (Item.wholeLines hlast))
          (by simp [hbeforeReturn, hitemReturn, hitemsReturn]) first
    | some span =>
      obtain ⟨hstart, hend, hbegins, hbalanced⟩ := Item.span_lines hspan hitemPlain hitem
      have hlength := splitLines_length hbeforeReturn hbefore
      have hsplit : splitLines (before ++ (item.render ++ renderItems items)) =
          splitLines before ++ (splitLines item.render ++ splitLines (renderItems items)) := by
        rw [splitLines_append _ hbeforeReturn hbefore]
        rcases hlast with rfl | hlast
        · simp [renderItems, splitLines]
        · rw [splitLines_append _ hitemReturn (Item.wholeLines hlast)]
      have hspans : spansFrom (first + breaks before) (item :: items) =
          span :: spansFrom (span.endLine + 1) items := by
        rw [spansFrom, hspan]
        rcases hlast with rfl | hlast
        · rfl
        · rw [← hend, splitLines_length hitemReturn (Item.wholeLines hlast)]
          rfl
      have hskip : span.startLine - first = (splitLines before).length := by omega
      have hnext : span.endLine + 1 - first =
          (splitLines before ++ splitLines item.render).length := by
        rw [List.length_append]
        omega
      have hrest := ih hitems hitemsPlain (Or.inl rfl : WholeLines []) hitemsReturn
        (span.endLine + 1)
      have hpositive : 0 < (splitLines item.render).length := by
        obtain ⟨depths, hdepths, _⟩ := hbalanced
        have hdepthsLength := congrArg List.length hdepths
        rw [runningDepths_length, List.length_append] at hdepthsLength
        rw [hdepthsLength]
        exact Nat.lt_add_left _ Nat.zero_lt_one
      rw [hspans, hsplit, ReadAs, NoOtherHeader, hskip, hnext, List.take_left, List.drop_left,
        ← List.append_assoc, List.take_left, List.drop_left, List.drop_left]
      constructor
      · rintro ⟨_, hskipped, _, _, hread⟩
        exact ⟨hskipped, hrest.mp hread⟩
      · rintro ⟨hskipped, hread⟩
        refine ⟨⟨by omega, by omega, ?_⟩, hskipped, hbegins _, hbalanced, hrest.mpr hread⟩
        simp only [List.length_append]
        omega

end items

section found

/-- A file that holds a text: the scanner finds exactly its resource blocks. -/
def SourceFile.FindsBlocks (file : SourceFile) (root : String) (text : HclText) : Prop :=
  ∃ blocks, file.blocks root = .ok blocks ∧ blocks.map TerraformBlock.span = text.spans

/-- A file of at most two mebibytes that can be read is scanned. -/
theorem SourceFile.blocks_eq_ok {file : SourceFile} {root : String}
    {blocks : List TerraformBlock} : file.blocks root = .ok blocks ↔
      file.content.size ≤ 2 * 1024 * 1024 ∧ ∃ text, file.content.readText = .ok text ∧
        blocksOfText file.path (root ++ "/" ++ file.path) text = .ok blocks := by
  unfold SourceFile.blocks
  simp only [except_bind_eq_ok, raiseIf_eq_ok, Nat.not_lt, exists_const]

/-- The lines of a file are those of a text. -/
theorem SourceFile.findsBlocks_iff {file : SourceFile} {root : String} {text : HclText}
    (hread : file.content.readText = .ok text.render) : file.FindsBlocks root text ↔
      file.content.size ≤ 2 * 1024 * 1024 ∧ ReadAs 1 (splitLines text.render) text.spans := by
  have hscan := @scanLines_iff file.path (root ++ "/" ++ file.path) 1
    (splitLines text.render) text.spans
  rw [← hscan]
  constructor
  · rintro ⟨blocks, hblocks, hspans⟩
    obtain ⟨hsize, found, hfound, hscanned⟩ := SourceFile.blocks_eq_ok.mp hblocks
    obtain rfl : text.render = found := Except.ok.inj (hread.symm.trans hfound)
    exact ⟨hsize, blocks, hscanned, hspans⟩
  · rintro ⟨hsize, blocks, hscanned, hspans⟩
    exact ⟨blocks, SourceFile.blocks_eq_ok.mpr ⟨hsize, _, hread, hscanned⟩, hspans⟩

/-- A text that was read has no carriage return. -/
theorem FileContent.readText_no_return {content : FileContent} {text : List Char}
    (hread : content.readText = .ok text) : '\r' ∉ text := by
  cases content with
  | text content =>
    rw [← Except.ok.inj hread]
    exact universalNewlines_no_return _
  | undecodable size reason => cases hread

/-- The scanner finds exactly the resource blocks of a text of at most two mebibytes that is read
as these blocks: no line outside of them looks like a header, the first line of each is read as
its header, and the braces counted from there balance at its last line and not before. Where the
resource blocks are plain, it is enough that no line outside of them looks like a header. -/
theorem blocks_exact_iff (file : SourceFile) (root : String) (text : HclText)
    (hread : file.content.readText = .ok text.render) :
    (file.FindsBlocks root text ↔
      file.content.size ≤ 2 * 1024 * 1024 ∧ ReadAs 1 (splitLines text.render) text.spans) ∧
    (text.plain = true → (file.FindsBlocks root text ↔
      file.content.size ≤ 2 * 1024 * 1024 ∧
        NoOtherHeader 1 (splitLines text.render) text.spans)) := by
  have hreads := @SourceFile.findsBlocks_iff file root text hread
  refine ⟨hreads, fun hplain => hreads.trans (and_congr_right fun _ => ?_)⟩
  have hreturn := FileContent.readText_no_return hread
  exact readAs_items text.lexical hplain (Or.inl rfl : WholeLines []) hreturn 1

/-- A resource block with an attribute in a line of its own. -/
def attributeBlock : HclText where
  items :=
    [.block [] ⟨"resource".toList,
      [([.code ' '], .quoted [.char 'a']), ([.code ' '], .quoted [.char 'b'])], [.code ' '],
      [.newline, .code 'x', .code '=', .code '1', .newline]⟩ [] .newline]
  lexical := by decide +kernel

/-- The block is found. -/
theorem attributeBlock_found :
    (SourceFile.mk "main.tf" (.text (String.ofList attributeBlock.render))).FindsBlocks "/repo"
      attributeBlock := by
  have hread : (FileContent.text (String.ofList attributeBlock.render)).readText =
      .ok attributeBlock.render := by
    decide +kernel
  have hplain : attributeBlock.plain = true := by decide +kernel
  exact ((blocks_exact_iff ⟨"main.tf", _⟩ "/repo" attributeBlock hread).2 hplain).mpr
    ⟨by decide +kernel, by decide +kernel⟩

/-- A resource block with an opening brace in a comment. -/
def commentBlock : HclText where
  items :=
    [.block [] ⟨"resource".toList,
      [([.code ' '], .quoted [.char 'a']), ([.code ' '], .quoted [.char 'b'])], [.code ' '],
      [.newline, .blockComment [' ', '\x7b', ' '], .newline]⟩ [] .newline]
  lexical := by decide +kernel

/-- The brace in the comment is counted and the block is not found. -/
theorem commentBlock_unterminated :
    (FileContent.text (String.ofList commentBlock.render)).readText =
      .ok commentBlock.render ∧
    ¬(SourceFile.mk "main.tf" (.text (String.ofList commentBlock.render))).FindsBlocks "/repo"
      commentBlock := by
  refine ⟨by decide +kernel, ?_⟩
  rintro ⟨blocks, hblocks, _⟩
  have herror : ((SourceFile.mk "main.tf"
      (.text (String.ofList commentBlock.render))).blocks "/repo").toOption = none := by
    decide +kernel
  rw [hblocks] at herror
  cases herror

end found

end ElCapitan
