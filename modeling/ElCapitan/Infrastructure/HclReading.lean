import ElCapitan.Infrastructure.HclGrammar

/-!
# How the scanner reads lines

The scanner finds given blocks exactly where no line outside them looks like a header, the first
line of each is read as its header, and the braces counted since the header balance at its last
line and not before.
-/

namespace ElCapitan

/-- The lines of a block. -/
def TerraformBlock.span (block : TerraformBlock) : BlockSpan where
  resourceType := block.resourceType
  resourceName := block.resourceName
  startLine := block.startLine
  endLine := block.endLine

/-- The braces counted after each line. -/
def runningDepths (depth : ℤ) : List (List Char) → List ℤ
  | [] => []
  | line :: lines => (depth + lineDelta line) :: runningDepths (depth + lineDelta line) lines

/-- The braces counted from a depth balance at the last line and not before. -/
def BalancedFrom (depth : ℤ) (lines : List (List Char)) : Prop :=
  ∃ depths, runningDepths depth lines = depths ++ [0] ∧ 0 ∉ depths

/-- The lines begin with the header of a block. -/
def BeginsBlock (span : BlockSpan) (lines : List (List Char)) : Prop :=
  lines.head?.bind resourceHeader = some (span.resourceType, span.resourceName)

/-- The lines, numbered from the first, are read as these blocks: no line outside of them looks
like a header, and each of them begins with its header and balances at its last line. -/
def ReadAs (first : ℕ) (lines : List (List Char)) : List BlockSpan → Prop
  | [] => ∀ line ∈ lines, resourceHeader line = none
  | span :: spans =>
    (first ≤ span.startLine ∧ span.startLine ≤ span.endLine ∧
      span.endLine < first + lines.length) ∧
    (∀ line ∈ lines.take (span.startLine - first), resourceHeader line = none) ∧
    BeginsBlock span (lines.drop (span.startLine - first)) ∧
    BalancedFrom 0 ((lines.take (span.endLine + 1 - first)).drop (span.startLine - first)) ∧
    ReadAs (span.endLine + 1) (lines.drop (span.endLine + 1 - first)) spans

section scanning

variable {path location : String}

/-- A block is closed where the braces balance. -/
theorem scanLines_balanced {number : ℕ} {block : OpenBlock} {lines rest : List (List Char)}
    (h : BalancedFrom block.depth lines) : ∃ closed : TerraformBlock,
      closed.span = ⟨block.resourceType, block.resourceName, block.startLine,
        number + lines.length - 1⟩ ∧
      scanLines path location number (some block) (lines ++ rest) =
        (scanLines path location (number + lines.length) none rest).map (closed :: ·) := by
  induction lines generalizing number block with
  | nil =>
    obtain ⟨depths, hdepths, _⟩ := h
    simp [runningDepths] at hdepths
  | cons line lines ih =>
    obtain ⟨depths, hdepths, hzero⟩ := h
    rw [runningDepths] at hdepths
    rw [List.cons_append, scanLines_cons]
    dsimp only [Option.some_or]
    by_cases hdepth : (block.add line).depth = 0
    · have hlines : lines = [] := by
        cases depths with
        | nil =>
          have htail := (List.cons.inj hdepths).2
          cases lines with
          | nil => rfl
          | cons other lines => simp [runningDepths] at htail
        | cons depth depths =>
          have hhead : block.depth + lineDelta line = depth := (List.cons.inj hdepths).1
          exact absurd (List.mem_cons.mpr (Or.inl (hdepth.symm.trans hhead))) hzero
      subst hlines
      rw [if_pos hdepth]
      exact ⟨(block.add line).close path number, rfl, rfl⟩
    · have hbalanced : BalancedFrom (block.add line).depth lines := by
        cases depths with
        | nil =>
          exact absurd (List.cons.inj hdepths).1 hdepth
        | cons depth depths =>
          exact ⟨depths, (List.cons.inj hdepths).2, fun hmem =>
            hzero (List.mem_cons_of_mem _ hmem)⟩
      obtain ⟨closed, hspan, hscan⟩ := @ih (number + 1) (block.add line) hbalanced
      rw [if_neg hdepth, hscan]
      refine ⟨closed, ?_, ?_⟩
      · rw [hspan]
        simp only [OpenBlock.add, List.length_cons]
        congr 1
        omega
      · rw [List.length_cons, Nat.add_comm lines.length 1, Nat.add_assoc]

/-- An open block that is closed was closed where the braces balance. -/
theorem scanLines_open {number : ℕ} {block : OpenBlock} {lines : List (List Char)}
    {blocks : List TerraformBlock}
    (h : scanLines path location number (some block) lines = .ok blocks) :
    ∃ taken rest closed others, lines = taken ++ rest ∧ taken ≠ [] ∧
      BalancedFrom block.depth taken ∧ blocks = closed :: others ∧
      closed.span = ⟨block.resourceType, block.resourceName, block.startLine,
        number + taken.length - 1⟩ ∧
      scanLines path location (number + taken.length) none rest = .ok others := by
  induction lines generalizing number block blocks with
  | nil => cases h
  | cons line lines ih =>
    rw [scanLines_cons] at h
    dsimp only [Option.some_or] at h
    by_cases hdepth : (block.add line).depth = 0
    · rw [if_pos hdepth] at h
      cases hrest : scanLines path location (number + 1) none lines with
      | error e =>
        rw [hrest] at h
        cases h
      | ok others =>
        rw [hrest] at h
        refine ⟨[line], lines, (block.add line).close path number, others, rfl, by simp,
          ⟨[], ?_, by simp⟩, (Except.ok.inj h).symm, rfl, hrest⟩
        exact congrArg (· :: []) hdepth
    · rw [if_neg hdepth] at h
      obtain ⟨taken, rest, closed, others, rfl, _, ⟨depths, hdepths, hzero⟩, hblocks, hspan,
        hscan⟩ := ih h
      refine ⟨line :: taken, rest, closed, others, rfl, by simp,
        ⟨(block.add line).depth :: depths, ?_, ?_⟩, hblocks, ?_, ?_⟩
      · exact congrArg (_ :: ·) hdepths
      · rw [List.mem_cons, not_or]
        exact ⟨fun hequal => hdepth hequal.symm, hzero⟩
      · rw [hspan]
        simp only [OpenBlock.add, List.length_cons]
        congr 1
        omega
      · rw [← hscan, List.length_cons, Nat.add_comm taken.length 1, Nat.add_assoc]

/-- Lines that do not look like headers are skipped. -/
theorem scanLines_skip {number : ℕ} {skipped rest : List (List Char)}
    (h : ∀ line ∈ skipped, resourceHeader line = none) :
    scanLines path location number none (skipped ++ rest) =
      scanLines path location (number + skipped.length) none rest := by
  induction skipped generalizing number with
  | nil => rfl
  | cons line skipped ih =>
    have hnone : headerBlock number line = none := by
      simp [headerBlock, h line List.mem_cons_self]
    rw [List.cons_append, scanLines_cons, hnone]
    dsimp only [Option.none_or]
    rw [ih fun other hother => h other (List.mem_cons_of_mem _ hother), List.length_cons,
      Nat.add_comm skipped.length 1, Nat.add_assoc]

/-- A header opens its block. -/
theorem scanLines_header {number : ℕ} {span : BlockSpan} {lines : List (List Char)}
    (h : BeginsBlock span lines) : scanLines path location number none lines =
      scanLines path location number
        (some ⟨span.resourceType, span.resourceName, number, 0, []⟩) lines := by
  cases lines with
  | nil => cases h
  | cons line lines =>
    have hheader : headerBlock number line =
        some ⟨span.resourceType, span.resourceName, number, 0, []⟩ := by
      have hline : resourceHeader line = some (span.resourceType, span.resourceName) := h
      simp [headerBlock, hline]
    rw [scanLines_cons, scanLines_cons, hheader]
    rfl

/-- Where no block is found no line looks like a header. -/
theorem scanLines_nil {number : ℕ} {lines : List (List Char)}
    (h : scanLines path location number none lines = .ok []) :
    ∀ line ∈ lines, resourceHeader line = none := by
  induction lines generalizing number with
  | nil => simp
  | cons line lines ih =>
    cases hheader : resourceHeader line with
    | none =>
      have hskip : scanLines path location number none ([line] ++ lines) =
          scanLines path location (number + 1) none lines :=
        scanLines_skip (by simpa using hheader)
      rw [← List.singleton_append, hskip] at h
      exact List.forall_mem_cons.mpr ⟨hheader, ih h⟩
    | some header =>
      have hbegins : BeginsBlock ⟨header.1, header.2, 0, 0⟩ (line :: lines) := hheader
      rw [scanLines_header hbegins] at h
      obtain ⟨_, _, _, _, _, _, _, hblocks, _⟩ := scanLines_open h
      cases hblocks

/-- The first block that is found begins at the first line that looks like a header. -/
theorem scanLines_first {number : ℕ} {lines : List (List Char)} {closed : TerraformBlock}
    {others : List TerraformBlock}
    (h : scanLines path location number none lines = .ok (closed :: others)) :
    ∃ skipped taken rest, lines = skipped ++ taken ++ rest ∧ taken ≠ [] ∧
      (∀ line ∈ skipped, resourceHeader line = none) ∧ BeginsBlock closed.span taken ∧
      BalancedFrom 0 taken ∧ closed.startLine = number + skipped.length ∧
      closed.endLine = number + skipped.length + taken.length - 1 ∧
      scanLines path location (number + skipped.length + taken.length) none rest =
        .ok others := by
  induction lines generalizing number with
  | nil => cases h
  | cons line lines ih =>
    cases hheader : resourceHeader line with
    | none =>
      have hskip : scanLines path location number none ([line] ++ lines) =
          scanLines path location (number + 1) none lines :=
        scanLines_skip (by simpa using hheader)
      rw [← List.singleton_append, hskip] at h
      obtain ⟨skipped, taken, rest, rfl, htaken, hskipped, hbegins, hbalanced, hstart, hend,
        hscan⟩ := ih h
      refine ⟨line :: skipped, taken, rest, rfl, htaken,
        List.forall_mem_cons.mpr ⟨hheader, hskipped⟩, hbegins, hbalanced, ?_, ?_, ?_⟩
      · rw [hstart, List.length_cons]
        omega
      · rw [hend, List.length_cons]
        omega
      · rw [← hscan, List.length_cons]
        congr 1
        omega
    | some header =>
      have hbegins : BeginsBlock ⟨header.1, header.2, 0, 0⟩ (line :: lines) := hheader
      rw [scanLines_header hbegins] at h
      obtain ⟨taken, rest, found, after, hlines, htaken, hbalanced, hblocks, hspan, hscan⟩ :=
        scanLines_open h
      obtain ⟨rfl, rfl⟩ := List.cons.inj hblocks
      obtain ⟨htype, hname, hstart, hend⟩ := BlockSpan.mk.inj hspan
      refine ⟨[], taken, rest, hlines, htaken, by simp, ?_, hbalanced, hstart, hend, hscan⟩
      unfold BeginsBlock
      rw [show closed.span.resourceType = header.1 from htype,
        show closed.span.resourceName = header.2 from hname]
      cases taken with
      | nil => exact absurd rfl htaken
      | cons other taken =>
        obtain ⟨rfl, _⟩ := List.cons.inj hlines
        exact hheader

/-- The scanner finds given blocks exactly where the lines are read as them. -/
theorem scanLines_iff {first : ℕ} {lines : List (List Char)} {spans : List BlockSpan} :
    (∃ blocks, scanLines path location first none lines = .ok blocks ∧
      blocks.map TerraformBlock.span = spans) ↔ ReadAs first lines spans := by
  induction spans generalizing first lines with
  | nil =>
    constructor
    · rintro ⟨blocks, hscan, hspans⟩
      rw [List.map_eq_nil_iff.mp hspans] at hscan
      exact scanLines_nil hscan
    · intro h
      refine ⟨[], ?_, rfl⟩
      have hskip : scanLines path location first none (lines ++ []) = _ := scanLines_skip h
      rw [List.append_nil] at hskip
      rw [hskip]
      rfl
  | cons span spans ih =>
    constructor
    · rintro ⟨blocks, hscan, hspans⟩
      obtain ⟨closed, others, rfl, rfl, rfl⟩ := List.map_eq_cons_iff.mp hspans
      obtain ⟨skipped, taken, rest, rfl, htaken, hskipped, hbegins, hbalanced, hstart, hend,
        hrest⟩ := scanLines_first hscan
      have hpositive : 0 < taken.length := List.length_pos_iff.mpr htaken
      have hstartLine : closed.span.startLine - first = skipped.length := by
        change closed.startLine - first = _
        omega
      have hendLine : closed.span.endLine + 1 - first = (skipped ++ taken).length := by
        change closed.endLine + 1 - first = _
        rw [List.length_append]
        omega
      have hnext : closed.span.endLine + 1 = first + skipped.length + taken.length := by
        change closed.endLine + 1 = _
        omega
      refine ⟨⟨?_, ?_, ?_⟩, ?_, ?_, ?_, ?_⟩
      · change first ≤ closed.startLine
        omega
      · change closed.startLine ≤ closed.endLine
        omega
      · change closed.endLine < _
        simp only [List.length_append]
        omega
      · rw [hstartLine, List.append_assoc, List.take_left]
        exact hskipped
      · rw [hstartLine, List.append_assoc, List.drop_left]
        cases taken with
        | nil => exact absurd rfl htaken
        | cons line taken => exact hbegins
      · rw [hstartLine, hendLine, List.take_left, List.drop_left]
        exact hbalanced
      · rw [hendLine, List.drop_left, hnext]
        exact ih.mp ⟨others, hrest, rfl⟩
    · rintro ⟨⟨hfirst, hstart, hend⟩, hskipped, hbegins, hbalanced, hrest⟩
      obtain ⟨others, hscan, hothers⟩ := ih.mpr hrest
      have htake : (lines.take (span.endLine + 1 - first)).take (span.startLine - first) =
          lines.take (span.startLine - first) := by
        rw [List.take_take, Nat.min_eq_left (by omega)]
      have hlines : lines = lines.take (span.startLine - first) ++
          ((lines.take (span.endLine + 1 - first)).drop (span.startLine - first) ++
            lines.drop (span.endLine + 1 - first)) := by
        rw [← htake, ← List.append_assoc, List.take_append_drop, List.take_append_drop]
      have hdrop : lines.drop (span.startLine - first) =
          (lines.take (span.endLine + 1 - first)).drop (span.startLine - first) ++
            lines.drop (span.endLine + 1 - first) := by
        conv_lhs => rw [hlines]
        rw [List.drop_left']
        rw [List.length_take, Nat.min_eq_left (by omega)]
      have htaken : ((lines.take (span.endLine + 1 - first)).drop
          (span.startLine - first)).length = span.endLine + 1 - span.startLine := by
        rw [List.length_drop, List.length_take]
        omega
      have hskippedLength : (lines.take (span.startLine - first)).length =
          span.startLine - first := by
        rw [List.length_take]
        omega
      obtain ⟨closed, hspan, hclosed⟩ := @scanLines_balanced path location span.startLine
        ⟨span.resourceType, span.resourceName, span.startLine, 0, []⟩ _
        (lines.drop (span.endLine + 1 - first)) hbalanced
      rw [htaken] at hspan hclosed
      refine ⟨closed :: others, ?_, ?_⟩
      · have hscanned : scanLines path location first none lines =
            scanLines path location span.startLine none
              (lines.drop (span.startLine - first)) := by
          conv_lhs => rw [← List.take_append_drop (span.startLine - first) lines]
          rw [scanLines_skip hskipped, hskippedLength, Nat.add_sub_cancel' hfirst]
        have hnext : span.startLine + (span.endLine + 1 - span.startLine) =
            span.endLine + 1 := by
          omega
        rw [hscanned, scanLines_header hbegins, hdrop, hclosed, hnext, hscan]
        rfl
      · rw [List.map_cons, hothers, hspan]
        have hend : span.startLine + (span.endLine + 1 - span.startLine) - 1 = span.endLine := by
          omega
        rw [hend]

end scanning

end ElCapitan
