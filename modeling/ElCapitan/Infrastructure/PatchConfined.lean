import ElCapitan.Infrastructure.ControlPatch
import ElCapitan.Infrastructure.OwnerCoherence

/-!
# Where a deterministic patch edits

A patch should replace the one vulnerable literal of the controlled attribute in the linked lines,
and be refused when there is not exactly one. It does so exactly where the one assignment that
its search finds is the controlled one.
-/

namespace ElCapitan

section replacing

variable {α : Type}

/-- Replacing a part at an earlier place changes an earlier item. -/
theorem replaced_not_earlier {u v u' v' part part' new : List α} {k : ℕ}
    (hold : u ++ part ++ v = u' ++ part' ++ v') (hnew : u ++ new ++ v = u' ++ new ++ v')
    (hpart : k < part.length) (hlength : k < new.length) (hpart' : k ≤ part'.length)
    (hdiffer : part[k]? ≠ new[k]?) (hsame : part'.take k = new.take k) :
    u'.length ≤ u.length := by
  by_contra hless
  push Not at hless
  have hleft (middle : List α) (hmiddle : k < middle.length) :
      (u ++ middle ++ v)[u.length + k]? = middle[k]? := by
    rw [List.append_assoc, List.getElem?_append_right (by omega),
      List.getElem?_append_left (by omega), Nat.add_sub_cancel_left]
  have hright (middle : List α) (hmiddle : k ≤ middle.length) :
      (u' ++ middle ++ v').take (u'.length + k) = u' ++ middle.take k := by
    rw [List.append_assoc, List.take_length_add_append, List.take_append_of_le_length hmiddle]
  have htake : (u' ++ part' ++ v').take (u'.length + k) =
      (u' ++ new ++ v').take (u'.length + k) := by
    rw [hright part' hpart', hright new hlength.le, hsame]
  have hindex : (u' ++ part' ++ v')[u.length + k]? = (u' ++ new ++ v')[u.length + k]? := by
    have hbound : u.length + k < u'.length + k := by omega
    rw [← List.getElem?_take_of_lt hbound, htake, List.getElem?_take_of_lt hbound]
  rw [← hold, ← hnew, hleft part hpart, hleft new hlength] at hindex
  exact hdiffer hindex

end replacing

section assignments

/-- A line ends after blanks, perhaps with a comment. -/
def EndsLine (text : List Char) : Prop :=
  ∃ spaces rest, text = spaces ++ rest ∧ (∀ c ∈ spaces, isSpace c = true) ∧
    (rest = [] ∨ rest.head? = some '\n' ∨ rest.head? = some '#')

/-- A text assigns one of the literals to the name, as the whole of a line, with the literal at a
position. -/
def AssignmentPattern.AssignsAt (pattern : AssignmentPattern) (text : List Char)
    (position : ℕ) : Prop :=
  ∃ (above lead gap space : List Char) (literal : String) (rest : List Char),
    text = above ++ lead ++ pattern.name.toList ++ gap ++ ['='] ++ space ++ literal.toList ++
      rest ∧
    (above = [] ∨ above.getLast? = some '\n') ∧
    (∀ c ∈ lead ++ gap ++ space, isSpace c = true) ∧ literal ∈ pattern.literals ∧
    EndsLine rest ∧
    position = (above ++ lead ++ pattern.name.toList ++ gap ++ ['='] ++ space).length

/-- An assignment assigns one of the literals. -/
theorem AssignmentPattern.AssignsAt.literal {pattern : AssignmentPattern} {text : List Char}
    {position : ℕ} (h : pattern.AssignsAt text position) : ∃ before literal after,
      text = before ++ literal.toList ++ after ∧ literal ∈ pattern.literals ∧
      before.length = position := by
  obtain ⟨above, lead, gap, space, literal, rest, rfl, _, _, hliteral, _, rfl⟩ := h
  exact ⟨_, literal, rest, rfl, hliteral, rfl⟩

/-- What follows a beginning is an end of the text. -/
theorem afterOneOf_suffix {beginnings : List String} {text rest : List Char}
    (h : afterOneOf beginnings text = some rest) : rest <:+ text := by
  obtain ⟨beginning, _, hfound⟩ := List.exists_of_findSome?_eq_some h
  split_ifs at hfound
  obtain rfl := Option.some.inj hfound
  exact List.drop_suffix _ _

/-- What follows the prefix of a match is the end of the text. -/
theorem AssignmentPattern.afterPrefix_suffix {pattern : AssignmentPattern}
    {text rest : List Char} (h : pattern.afterPrefix text = some rest) : rest <:+ text := by
  unfold afterPrefix at h
  obtain ⟨named, hnamed, h⟩ := Option.bind_eq_some_iff.mp h
  have hsuffix : named.dropWhile isSpace <:+ text :=
    (List.dropWhile_suffix _).trans ((afterOneOf_suffix hnamed).trans (List.dropWhile_suffix _))
  split at h
  next rest' hequal =>
    obtain rfl := Option.some.inj h
    rw [hequal] at hsuffix
    exact (List.dropWhile_suffix _).trans ((List.suffix_cons _ _).trans hsuffix)
  next => cases h

/-- A literal stands at a position of a text. -/
def LiteralAt (text : List Char) (position : ℕ) (literal : String) : Prop :=
  ∃ before after, text = before ++ literal.toList ++ after ∧ before.length = position

/-- A literal moves with the text before it. -/
theorem LiteralAt.cons {text : List Char} {position : ℕ} {literal : String} (c : Char)
    (h : LiteralAt text position literal) : LiteralAt (c :: text) (position + 1) literal := by
  obtain ⟨before, after, rfl, rfl⟩ := h
  exact ⟨c :: before, after, rfl, rfl⟩

/-- A match has its literal at its position. -/
theorem AssignmentPattern.matchAt_literal {pattern : AssignmentPattern} {text : List Char}
    {found : AssignmentMatch} (h : pattern.matchAt text = some found) :
    found.literal ∈ pattern.literals ∧ LiteralAt text found.position found.literal := by
  unfold matchAt at h
  obtain ⟨rest, hrest, h⟩ := Option.bind_eq_some_iff.mp h
  obtain ⟨literal, hliteral, h⟩ := Option.bind_eq_some_iff.mp h
  obtain ⟨suffix, _, h⟩ := Option.bind_eq_some_iff.mp h
  obtain rfl := Option.some.inj h
  obtain ⟨before, rfl⟩ := afterPrefix_suffix hrest
  have hbegun : literal.toList.isPrefixOf rest = true := by
    simpa using List.find?_some hliteral
  obtain ⟨after, rfl⟩ := List.isPrefixOf_iff_prefix.mp hbegun
  refine ⟨List.mem_of_find?_eq_some hliteral, before, after, by rw [List.append_assoc], ?_⟩
  dsimp only
  rw [List.length_append]
  omega

/-- Every match that is found has its literal at its place. -/
theorem AssignmentPattern.matchesFrom_literal {pattern : AssignmentPattern} {lineStart : Bool}
    {offset skip : ℕ} {text : List Char} {place : ℕ × String}
    (h : place ∈ pattern.matchesFrom lineStart offset skip text) :
    place.2 ∈ pattern.literals ∧
      ∃ position, place.1 = offset + position ∧ LiteralAt text position place.2 := by
  fun_induction pattern.matchesFrom lineStart offset skip text with
  | case1 => cases h
  | case2 lineStart offset skip c rest ih =>
    obtain ⟨hmem, position, hplace, hliteral⟩ := ih h
    exact ⟨hmem, position + 1, by omega, hliteral.cons c⟩
  | case3 lineStart offset c rest found hfound ih =>
    rcases List.mem_cons.mp h with rfl | h
    · split_ifs at hfound
      obtain ⟨hmem, hliteral⟩ := matchAt_literal hfound
      exact ⟨hmem, found.position, rfl, hliteral⟩
    · obtain ⟨hmem, position, hplace, hliteral⟩ := ih h
      exact ⟨hmem, position + 1, by omega, hliteral.cons c⟩
  | case4 lineStart offset c rest hnone ih =>
    obtain ⟨hmem, position, hplace, hliteral⟩ := ih h
    exact ⟨hmem, position + 1, by omega, hliteral.cons c⟩

/-- A match of a pattern is one of its literals, at its place. -/
theorem AssignmentPattern.matches_literal {pattern : AssignmentPattern} {text : List Char}
    {position : ℕ} {literal : String} (h : (position, literal) ∈ pattern.matches text) :
    literal ∈ pattern.literals ∧ LiteralAt text position literal := by
  obtain ⟨hmem, place, hplace, hliteral⟩ := matchesFrom_literal h
  have hposition : position = place := by simpa using hplace
  exact ⟨hmem, hposition ▸ hliteral⟩

end assignments

section patches

/-- What tells the place of a replaced literal: no literal begins another, and all differ from
the safe one first at the same character. -/
structure ControlPatch.Distinct (control : ControlPatch) (k : ℕ) : Prop where
  prefixFree : ∀ literal ∈ control.vulnerable.literals, ∀ other ∈ control.vulnerable.literals,
    literal.toList <+: other.toList → literal = other
  safeLonger : k < control.safe.toList.length
  longer : ∀ literal ∈ control.vulnerable.literals, k < literal.toList.length
  same : ∀ literal ∈ control.vulnerable.literals,
    literal.toList.take k = control.safe.toList.take k
  differ : ∀ literal ∈ control.vulnerable.literals,
    literal.toList[k]? ≠ control.safe.toList[k]?

/-- The literals of the storage control differ from the reviewed one at the first character. -/
theorem storageControl_distinct : storageControl.Distinct 0 := by
  constructor <;> decide

/-- The literals of the versioning control differ from the reviewed one at the second character. -/
theorem versioningControl_distinct : versioningControl.Distinct 1 := by
  constructor <;> decide

/-- A single match is replaced where its literal stands. -/
theorem replaceLiterals_single {replacement literal : String} {before after : List Char} :
    replaceLiterals replacement 0 [(before.length, literal)]
      (before ++ literal.toList ++ after) = before ++ replacement.toList ++ after := by
  have hdrop : (literal.toList ++ after).drop literal.length = after := by
    rw [← String.length_toList, List.drop_left]
  simp [replaceLiterals, List.append_assoc, hdrop]

/-- What a patch replaces. -/
theorem ControlPatch.patch_eq_ok {control : ControlPatch} {searched proposed result : List Char}
    (h : control.patch searched proposed = .ok result) :
    control.requested.matches proposed ≠ [] ∧
    ∃ position literal before after,
      control.vulnerable.matches searched = [(position, literal)] ∧
      literal ∈ control.vulnerable.literals ∧ before.length = position ∧
      searched = before ++ literal.toList ++ after ∧
      result = before ++ control.safe.toList ++ after := by
  unfold patch at h
  obtain ⟨_, hrequested, h⟩ := except_bind_eq_ok.mp h
  obtain ⟨_, hone, h⟩ := except_bind_eq_ok.mp h
  rw [raiseIf_eq_ok] at hrequested hone
  have hresult := Except.ok.inj h
  refine ⟨hrequested, ?_⟩
  obtain ⟨⟨position, literal⟩, hmatches⟩ := List.length_eq_one_iff.mp (not_not.mp hone)
  obtain ⟨hmem, before, after, hsearched, hposition⟩ :=
    AssignmentPattern.matches_literal (hmatches ▸ List.mem_cons_self)
  refine ⟨position, literal, before, after, hmatches, hmem, hposition, hsearched, ?_⟩
  rw [← hresult, hmatches, ← hposition, hsearched, replaceLiterals_single]

/-- A requested patch of a single match is made. -/
theorem ControlPatch.patch_of_single {control : ControlPatch} {searched proposed : List Char}
    {place : ℕ × String} (hrequested : control.requested.matches proposed ≠ [])
    (hmatches : control.vulnerable.matches searched = [place]) :
    ∃ result, control.patch searched proposed = .ok result := by
  refine ⟨_, except_bind_eq_ok.mpr ⟨(), raiseIf_eq_ok.mpr hrequested,
    except_bind_eq_ok.mpr ⟨(), raiseIf_eq_ok.mpr ?_, rfl⟩⟩⟩
  simp [hmatches]

end patches

section links

/-- A block ends at or after the line at which it starts. -/
theorem scanLines_ordered {path location : String} {number : ℕ} {state : Option OpenBlock}
    {lines : List (List Char)} {blocks : List TerraformBlock}
    (h : scanLines path location number state lines = .ok blocks)
    (hstate : ∀ block, state = some block → block.startLine ≤ number) :
    ∀ block ∈ blocks, block.startLine ≤ block.endLine := by
  induction lines generalizing number state blocks with
  | nil =>
    cases state with
    | none =>
      cases Except.ok.inj h
      simp
    | some block => cases h
  | cons line lines ih =>
    rw [scanLines_cons] at h
    cases hopen : state.or (headerBlock number line) with
    | none =>
      rw [hopen] at h
      exact ih h (by simp)
    | some opened =>
      have hstart : opened.startLine ≤ number := by
        cases state with
        | none =>
          obtain ⟨header, _, hheader⟩ := Option.map_eq_some_iff.mp hopen
          rw [← hheader]
        | some block => exact hstate opened hopen
      rw [hopen] at h
      dsimp only at h
      split_ifs at h with hdepth
      · cases hrest : scanLines path location (number + 1) none lines with
        | error e =>
          rw [hrest] at h
          cases h
        | ok rest =>
          rw [hrest] at h
          cases Except.ok.inj h
          intro block hblock
          rcases List.mem_cons.mp hblock with rfl | hblock
          · exact hstart
          · exact ih hrest (by simp) block hblock
      · refine ih h fun block hblock => ?_
        obtain rfl := Option.some.inj hblock
        exact Nat.le_succ_of_le hstart

/-- The blocks of a repository end at or after the lines at which they start. -/
theorem blocks_ordered {repository : TerraformRepository} {blocks : List TerraformBlock}
    (h : repository.blocks = .ok blocks) :
    ∀ block ∈ blocks, block.startLine ≤ block.endLine := by
  intro block hblock
  obtain ⟨lists, hlists, h⟩ := except_bind_eq_ok.mp h
  cases Except.ok.inj h
  obtain ⟨own, hown, hmem⟩ := List.mem_flatten.mp hblock
  obtain ⟨file, _, hfile⟩ := exists_of_mem_mapM hlists hown
  obtain ⟨_, _, hfile⟩ := except_bind_eq_ok.mp hfile
  obtain ⟨text, _, hfile⟩ := except_bind_eq_ok.mp hfile
  exact scanLines_ordered hfile (by simp) block hmem

/-- A link ends at or after the line at which it starts. -/
theorem link_ordered {P : Platform} {provider resourceUid : String}
    {repository : TerraformRepository} {stateDocument : Json} {resourceTypes : List String}
    {link : TerraformSourceLink} (hlink : linkTerraformResource P provider resourceUid repository
      stateDocument resourceTypes = .ok link) : link.startLine ≤ link.endLine := by
  obtain ⟨state, owner, blocks, winner, _, _, hblocks, hwinner, _, _, _, hstart, hend, _⟩ :=
    linkTerraformResource_ok hlink
  obtain ⟨block, hblock, hmatched⟩ := List.mem_filterMap.mp hwinner.mem
  obtain ⟨matched, _, rfl⟩ := Option.map_eq_some_iff.mp hmatched
  rw [hstart, hend]
  exact blocks_ordered hblocks block hblock

/-- A text is its parts. -/
theorem linkedParts_append {original : List Char} {startLine endLine : ℕ}
    (hlines : startLine ≤ endLine) :
    (linkedParts original startLine endLine).1 ++ (linkedParts original startLine endLine).2.1 ++
      (linkedParts original startLine endLine).2.2 = original := by
  have htake : (splitLines original).take (startLine - 1) =
      ((splitLines original).take endLine).take (startLine - 1) := by
    rw [List.take_take, Nat.min_eq_left (by omega)]
  unfold linkedParts
  dsimp only
  rw [htake, ← List.flatten_append, List.take_append_drop, ← List.flatten_append,
    List.take_append_drop, splitLines_flatten]

end links

section confinement

variable {original proposed : List Char} {link : TerraformSourceLink} {ruleIds : List String}
  {control : ControlPatch}

/-- The control that is patched for a type and a set of rules. -/
def controlFor (resourceType : String) (ruleIds : List String) : Option ControlPatch :=
  if resourceType = "azurerm_storage_account" ∧
      onlyRule ruleIds "storage_account_public_network_access_disabled" then some storageControl
  else if resourceType = "aws_s3_bucket_versioning" ∧
      onlyRule ruleIds "s3_bucket_object_versioning" then some versioningControl
  else none

/-- The text before the linked lines. -/
def aboveLink (original : List Char) (link : TerraformSourceLink) : List Char :=
  (linkedParts original link.startLine link.endLine).1

/-- The linked lines. -/
def linkedText (original : List Char) (link : TerraformSourceLink) : List Char :=
  (linkedParts original link.startLine link.endLine).2.1

/-- The text after the linked lines. -/
def belowLink (original : List Char) (link : TerraformSourceLink) : List Char :=
  (linkedParts original link.startLine link.endLine).2.2

/-- A reading of the linked lines: which of their assignments of a vulnerable literal are those of
the controlled attribute. All of them may count, or only those outside comments, heredocs and
blocks of other kinds. -/
structure PatchReading (control : ControlPatch) (linked : List Char) where
  positions : Set ℕ
  assigned : ∀ position ∈ positions, control.vulnerable.AssignsAt linked position

/-- The reading in which every assignment counts. -/
def PatchReading.all (control : ControlPatch) (linked : List Char) :
    PatchReading control linked where
  positions := {position | control.vulnerable.AssignsAt linked position}
  assigned _ h := h

variable (original proposed link ruleIds control) in
/-- A deterministic patch stays inside the linked block. -/
structure PatchConfined (reading : PatchReading control (linkedText original link)) : Prop where
  /-- Only the one controlled literal is another, and it stands in the linked lines. -/
  inside : ∀ replacement, materializeControlPatch original proposed link ruleIds =
      .ok (replacement, "deterministic_control_patch") →
    ∃ before literal after, literal ∈ control.vulnerable.literals ∧
      before.length ∈ reading.positions ∧
      linkedText original link = before ++ literal.toList ++ after ∧
      original = aboveLink original link ++ (before ++ literal.toList ++ after) ++
        belowLink original link ∧
      replacement = aboveLink original link ++ (before ++ control.safe.toList ++ after) ++
        belowLink original link
  /-- Unless there is exactly one controlled literal the patch is refused. -/
  refused : (¬∃! position, position ∈ reading.positions) →
    ∃ e, materializeControlPatch original proposed link ruleIds = .error e

variable (original link) in
/-- What the patch searches, and where the linked lines begin in it. -/
def searchedText : List Char × ℕ :=
  if link.resourceType = "azurerm_storage_account" then
    (original, (aboveLink original link).length)
  else (linkedText original link, 0)

variable (original proposed link control) in
/-- A requested patch that finds exactly one assignment finds the one controlled literal. -/
def FindsControlled (reading : PatchReading control (linkedText original link)) : Prop :=
  control.requested.matches proposed ≠ [] → ∀ position literal,
    control.vulnerable.matches (searchedText original link).1 = [(position, literal)] →
    ∃ controlled, reading.positions = {controlled} ∧
      position = (searchedText original link).2 + controlled

/-- A control is the one of storage accounts or the one of bucket versioning. -/
theorem controlFor_cases (hcontrol : controlFor link.resourceType ruleIds = some control) :
    (link.resourceType = "azurerm_storage_account" ∧
      onlyRule ruleIds "storage_account_public_network_access_disabled" = true ∧
      control = storageControl) ∨
    (link.resourceType = "aws_s3_bucket_versioning" ∧
      onlyRule ruleIds "s3_bucket_object_versioning" = true ∧ control = versioningControl) := by
  unfold controlFor at hcontrol
  split_ifs at hcontrol with hstorage hversioning
  · exact Or.inl ⟨hstorage.1, hstorage.2, (Option.some.inj hcontrol).symm⟩
  · exact Or.inr ⟨hversioning.1, hversioning.2, (Option.some.inj hcontrol).symm⟩

/-- The literals of a control tell where they were replaced. -/
theorem controlFor_distinct (hcontrol : controlFor link.resourceType ruleIds = some control) :
    ∃ k, control.Distinct k := by
  rcases controlFor_cases hcontrol with ⟨_, _, rfl⟩ | ⟨_, _, rfl⟩
  · exact ⟨0, storageControl_distinct⟩
  · exact ⟨1, versioningControl_distinct⟩

/-- A text with the linked lines replaced. -/
def besideLink (original : List Char) (link : TerraformSourceLink) (searched : List Char) :
    List Char :=
  if link.resourceType = "azurerm_storage_account" then searched
  else aboveLink original link ++ searched ++ belowLink original link

/-- A patch of a control is the patch of the text it searches. -/
theorem materializeControlPatch_eq
    (hcontrol : controlFor link.resourceType ruleIds = some control) :
    materializeControlPatch original proposed link ruleIds =
      (control.patch (searchedText original link).1 proposed).map fun replacement =>
        (besideLink original link replacement, "deterministic_control_patch") := by
  unfold materializeControlPatch besideLink searchedText
  rcases controlFor_cases hcontrol with ⟨htype, hrule, rfl⟩ | ⟨htype, hrule, rfl⟩
  · rw [if_pos ⟨htype, hrule⟩]
    simp only [htype, if_true]
    cases storageControl.patch original proposed <;> rfl
  · have hother : link.resourceType ≠ "azurerm_storage_account" := by
      rw [htype]
      decide
    rw [if_neg (fun h => hother h.1), if_pos ⟨htype, hrule⟩]
    simp only [if_neg hother]
    unfold linkedText aboveLink belowLink
    cases versioningControl.patch _ proposed <;> rfl

/-- What a materialized patch replaces, in the file. -/
theorem materialized_patch (hlines : link.startLine ≤ link.endLine)
    (hcontrol : controlFor link.resourceType ruleIds = some control) {replacement : List Char}
    (h : materializeControlPatch original proposed link ruleIds =
      .ok (replacement, "deterministic_control_patch")) :
    control.requested.matches proposed ≠ [] ∧ ∃ position literal before after,
      control.vulnerable.matches (searchedText original link).1 = [(position, literal)] ∧
      literal ∈ control.vulnerable.literals ∧
      before.length + (searchedText original link).2 =
        (aboveLink original link).length + position ∧
      original = before ++ literal.toList ++ after ∧
      replacement = before ++ control.safe.toList ++ after := by
  rw [materializeControlPatch_eq hcontrol] at h
  cases hpatch : control.patch (searchedText original link).1 proposed with
  | error e =>
    rw [hpatch] at h
    cases h
  | ok result =>
    rw [hpatch] at h
    have hreplacement : besideLink original link result = replacement :=
      (Prod.mk.inj (Except.ok.inj h)).1
    obtain ⟨hrequested, position, literal, before, after, hmatches, hliteral, hposition,
      hsearched, hresult⟩ := ControlPatch.patch_eq_ok hpatch
    refine ⟨hrequested, position, literal, ?_⟩
    have hparts := @linkedParts_append original _ _ hlines
    unfold searchedText at hsearched hmatches ⊢
    unfold besideLink at hreplacement
    by_cases htype : link.resourceType = "azurerm_storage_account"
    · simp only [if_pos htype] at hsearched hmatches hreplacement ⊢
      refine ⟨before, after, hmatches, hliteral, by omega, hsearched, ?_⟩
      rw [← hreplacement, hresult]
    · simp only [if_neg htype] at hsearched hmatches hreplacement ⊢
      refine ⟨aboveLink original link ++ before, after ++ belowLink original link, hmatches,
        hliteral, by rw [List.length_append]; omega, ?_, ?_⟩
      · conv_lhs => rw [← hparts]
        change aboveLink original link ++ linkedText original link ++ belowLink original link = _
        rw [hsearched]
        simp only [List.append_assoc]
      · rw [← hreplacement, hresult]
        simp only [List.append_assoc]

/-- A requested patch that finds exactly one assignment is made. -/
theorem materialized_of_single (hcontrol : controlFor link.resourceType ruleIds = some control)
    (hrequested : control.requested.matches proposed ≠ []) {place : ℕ × String}
    (hmatches : control.vulnerable.matches (searchedText original link).1 = [place]) :
    ∃ replacement, materializeControlPatch original proposed link ruleIds =
      .ok (replacement, "deterministic_control_patch") := by
  obtain ⟨result, hresult⟩ := ControlPatch.patch_of_single hrequested hmatches
  rw [materializeControlPatch_eq hcontrol, hresult]
  exact ⟨_, rfl⟩

/-- The place of a replaced literal can be told from the two texts. -/
theorem replaced_place {k : ℕ} (hdistinct : control.Distinct k) {literal other : String}
    (hliteral : literal ∈ control.vulnerable.literals)
    (hother : other ∈ control.vulnerable.literals) {u v u' v' : List Char}
    (hold : u ++ literal.toList ++ v = u' ++ other.toList ++ v')
    (hnew : u ++ control.safe.toList ++ v = u' ++ control.safe.toList ++ v') :
    u.length = u'.length := by
  apply le_antisymm
  · exact replaced_not_earlier hold.symm hnew.symm (hdistinct.longer other hother)
      hdistinct.safeLonger (hdistinct.longer literal hliteral).le (hdistinct.differ other hother)
      (hdistinct.same literal hliteral)
  · exact replaced_not_earlier hold hnew (hdistinct.longer literal hliteral)
      hdistinct.safeLonger (hdistinct.longer other hother).le (hdistinct.differ literal hliteral)
      (hdistinct.same other hother)

/-- The literal at a place is the same in both accounts of a text. -/
theorem literal_at_place {k : ℕ} (hdistinct : control.Distinct k) {literal other : String}
    (hliteral : literal ∈ control.vulnerable.literals)
    (hother : other ∈ control.vulnerable.literals) {u v u' v' : List Char}
    (hold : u ++ literal.toList ++ v = u' ++ other.toList ++ v')
    (hlength : u.length = u'.length) : u = u' ∧ literal = other ∧ v = v' := by
  rw [List.append_assoc, List.append_assoc] at hold
  obtain ⟨rfl, hrest⟩ := List.append_inj hold hlength
  have hsame : literal = other := by
    rcases List.prefix_or_prefix_of_prefix (List.prefix_append literal.toList v)
      (hrest ▸ List.prefix_append other.toList v') with hbegun | hbegun
    · exact hdistinct.prefixFree literal hliteral other hother hbegun
    · exact (hdistinct.prefixFree other hother literal hliteral hbegun).symm
  subst hsame
  exact ⟨rfl, rfl, List.append_cancel_left hrest⟩

/-- A patch stays inside the linked block exactly where it finds the controlled literal. -/
theorem patchConfined_iff_of_ordered (hlines : link.startLine ≤ link.endLine)
    (hcontrol : controlFor link.resourceType ruleIds = some control)
    (reading : PatchReading control (linkedText original link)) :
    PatchConfined original proposed link ruleIds control reading ↔
      FindsControlled original proposed link control reading := by
  obtain ⟨k, hdistinct⟩ := controlFor_distinct hcontrol
  have hparts : aboveLink original link ++ linkedText original link ++
      belowLink original link = original := linkedParts_append hlines
  constructor
  · intro h hrequested position literal hmatches
    obtain ⟨replacement, hreplacement⟩ := materialized_of_single hcontrol hrequested hmatches
    obtain ⟨_, position', literal', u, v, hmatches', hliteral', hposition, hold, hnew⟩ :=
      materialized_patch hlines hcontrol hreplacement
    obtain ⟨rfl, rfl⟩ := Prod.mk.inj (List.singleton_inj.mp (hmatches.symm.trans hmatches'))
    obtain ⟨before, other, after, hother, hmem, _, hinside, hresult⟩ :=
      h.inside replacement hreplacement
    have hunique : ∃! position, position ∈ reading.positions := by
      by_contra hcontra
      obtain ⟨e, he⟩ := h.refused hcontra
      rw [hreplacement] at he
      cases he
    have hplace : u.length = (aboveLink original link ++ before).length := by
      have holdTexts : u ++ literal.toList ++ v = (aboveLink original link ++ before) ++
          other.toList ++ (after ++ belowLink original link) := by
        refine hold.symm.trans (hinside.trans ?_)
        simp only [List.append_assoc]
      have hnewTexts : u ++ control.safe.toList ++ v = (aboveLink original link ++ before) ++
          control.safe.toList ++ (after ++ belowLink original link) := by
        rw [← hnew, hresult]
        simp only [List.append_assoc]
      exact replaced_place hdistinct hliteral' hother holdTexts hnewTexts
    refine ⟨before.length, ?_, ?_⟩
    · obtain ⟨only, _, honly⟩ := hunique
      ext other
      rw [Set.mem_singleton_iff]
      constructor
      · intro hposition
        rw [honly other hposition, honly before.length hmem]
      · rintro rfl
        exact hmem
    · rw [List.length_append] at hplace
      omega
  · intro h
    constructor
    · intro replacement hreplacement
      obtain ⟨hrequested, position, literal, u, v, hmatches, hliteral, hposition, hold, hnew⟩ :=
        materialized_patch hlines hcontrol hreplacement
      obtain ⟨controlled, hpositions, hfound⟩ := h hrequested position literal hmatches
      have hmem : controlled ∈ reading.positions := hpositions ▸ Set.mem_singleton controlled
      obtain ⟨before, other, after, hlinked, hother, hlength⟩ :=
        (reading.assigned controlled hmem).literal
      have hsame : original = (aboveLink original link ++ before) ++ other.toList ++
          (after ++ belowLink original link) := by
        conv_lhs => rw [← hparts, hlinked]
        simp only [List.append_assoc]
      obtain ⟨hu, rfl, hv⟩ := literal_at_place hdistinct hliteral hother (hold.symm.trans hsame)
        (by rw [List.length_append]; omega)
      refine ⟨before, literal, after, hliteral, hlength ▸ hmem, hlinked, ?_, ?_⟩
      · conv_lhs => rw [← hparts, hlinked]
      · rw [hnew, hu, hv]
        simp only [List.append_assoc]
    · intro hnone
      cases hresult : materializeControlPatch original proposed link ruleIds with
      | error e => exact ⟨e, rfl⟩
      | ok result =>
        rw [materializeControlPatch_eq hcontrol] at hresult
        cases hpatch : control.patch (searchedText original link).1 proposed with
        | error e =>
          rw [hpatch] at hresult
          cases hresult
        | ok patched =>
          obtain ⟨hrequested, position, literal, _, _, hmatches, _⟩ :=
            ControlPatch.patch_eq_ok hpatch
          obtain ⟨controlled, hpositions, _⟩ := h hrequested position literal hmatches
          exact absurd ⟨controlled, hpositions ▸ Set.mem_singleton controlled, fun other hother =>
            Set.mem_singleton_iff.mp (hpositions ▸ hother)⟩ hnone

/-- For every link that the linker returns and every text, a deterministic patch stays inside the
linked block exactly where it finds the controlled literal. -/
theorem patchConfined_iff {P : Platform} {provider resourceUid : String}
    {repository : TerraformRepository} {stateDocument : Json} {resourceTypes : List String}
    (hlink : linkTerraformResource P provider resourceUid repository stateDocument resourceTypes =
      .ok link)
    (hcontrol : controlFor link.resourceType ruleIds = some control)
    (reading : PatchReading control (linkedText original link)) :
    PatchConfined original proposed link ruleIds control reading ↔
      FindsControlled original proposed link control reading :=
  patchConfined_iff_of_ordered (link_ordered hlink) hcontrol reading

end confinement

section samples

/-- Two storage accounts; the one that is linked does not set the attribute. -/
def accountsSource : String :=
  "resource \"azurerm_storage_account\" \"linked\" \x7b\n  name = \"labassets\"\n\x7d\n" ++
    "resource \"azurerm_storage_account\" \"other\" \x7b\n" ++
    "  public_network_access_enabled = true\n\x7d\n"

/-- The repository with that source. -/
def accountsRepository : TerraformRepository where
  root := "/repository"
  isDirectory := true
  files := [⟨"main.tf", .text accountsSource⟩]
  distinct := by simp

/-- The resource uid of the account that is linked. -/
def accountUid : String :=
  "/subscriptions/s/resourceGroups/g/providers/Microsoft.Storage/storageAccounts/labassets"

/-- The link to the account. -/
def accountLink : TerraformSourceLink where
  resourceUid := accountUid
  sourcePath := "main.tf"
  modulePath := "."
  resourceType := "azurerm_storage_account"
  resourceName := "linked"
  startLine := 1
  endLine := 3
  matchStrategy := "provider_type_and_literal_name"
  confidence := 9 / 10
  sourceSha256 := samplePlatform.sha256Hex accountsSource
  resourceAddress := ""
  stateSha256 := ""

/-- The linker gives the sample's link. -/
theorem accountLink_linked : linkTerraformResource samplePlatform "azure" accountUid
    accountsRepository .null [] = .ok accountLink := by
  have h : (linkTerraformResource samplePlatform "azure" accountUid accountsRepository .null
      []).toOption.any fun link => link = accountLink := by
    decide +kernel
  obtain ⟨link, hlink, hequal⟩ := exists_of_any h
  rw [hlink, of_decide_eq_true hequal]

/-- The text of the file. -/
def accountsText : List Char := universalNewlines accountsSource.toList

/-- The agent's proposal. -/
def accountsProposal : List Char := "public_network_access_enabled = false\n".toList

/-- The literal of the account that is not linked is replaced. -/
theorem accounts_not_confined : ¬PatchConfined accountsText accountsProposal accountLink
    ["storage_account_public_network_access_disabled"] storageControl (.all _ _) := by
  intro h
  have hunnamed : ¬"public_network_access_enabled".toList <:+:
      linkedText accountsText accountLink := by
    decide +kernel
  have hnone : ¬∃! position, position ∈
      (PatchReading.all storageControl (linkedText accountsText accountLink)).positions := by
    rintro ⟨position, ⟨above, lead, gap, space, literal, rest, hlinked, _⟩, _⟩
    refine hunnamed ⟨above ++ lead, gap ++ ['='] ++ space ++ literal.toList ++ rest, ?_⟩
    rw [hlinked]
    simp only [List.append_assoc]
    rfl
  obtain ⟨e, he⟩ := h.refused hnone
  have hmade : (materializeControlPatch accountsText accountsProposal accountLink
      ["storage_account_public_network_access_disabled"]).toOption.isSome = true := by
    decide +kernel
  rw [he] at hmade
  cases hmade

/-- A patch leaves the linked block. -/
theorem other_account_patched : ¬∀ (P : Platform) (provider resourceUid : String)
    (repository : TerraformRepository) (stateDocument : Json) (resourceTypes : List String)
    (link : TerraformSourceLink) (file : SourceFile) (original proposed : List Char)
    (ruleIds : List String) (control : ControlPatch),
    linkTerraformResource P provider resourceUid repository stateDocument resourceTypes =
      .ok link →
    file ∈ repository.files → file.path = link.sourcePath →
    file.content.readText = .ok original →
    controlFor link.resourceType ruleIds = some control →
    PatchConfined original proposed link ruleIds control (.all _ _) := by
  intro h
  exact accounts_not_confined (h samplePlatform "azure" accountUid accountsRepository .null []
    accountLink ⟨"main.tf", .text accountsSource⟩ accountsText accountsProposal
    ["storage_account_public_network_access_disabled"] storageControl accountLink_linked
    List.mem_cons_self rfl rfl rfl)

/-- Two storage accounts; only the one that is linked allows public access. -/
def confinedSource : String :=
  "resource \"azurerm_storage_account\" \"linked\" \x7b\n  name = \"labassets\"\n" ++
    "  public_network_access_enabled = true # lab\n\x7d\n" ++
    "resource \"azurerm_storage_account\" \"other\" \x7b\n" ++
    "  public_network_access_enabled = false\n\x7d\n"

/-- The repository with that source. -/
def confinedRepository : TerraformRepository where
  root := "/repository"
  isDirectory := true
  files := [⟨"main.tf", .text confinedSource⟩]
  distinct := by simp

/-- The link to the account that allows it. -/
def confinedLink : TerraformSourceLink :=
  { accountLink with endLine := 4, sourceSha256 := samplePlatform.sha256Hex confinedSource }

/-- The linker gives the link of the confined sample. -/
theorem confinedLink_linked : linkTerraformResource samplePlatform "azure" accountUid
    confinedRepository .null [] = .ok confinedLink := by
  have h : (linkTerraformResource samplePlatform "azure" accountUid confinedRepository .null
      []).toOption.any fun link => link = confinedLink := by
    decide +kernel
  obtain ⟨link, hlink, hequal⟩ := exists_of_any h
  rw [hlink, of_decide_eq_true hequal]

/-- The text of that file. -/
def confinedText : List Char := universalNewlines confinedSource.toList

/-- The text of the linked block before the literal. -/
def beforeLiteral : String :=
  "resource \"azurerm_storage_account\" \"linked\" \x7b\n  name = \"labassets\"\n" ++
    "  public_network_access_enabled = "

/-- The linked block assigns the literal. -/
theorem confined_assigned : ∀ position ∈ ({beforeLiteral.length} : Set ℕ),
    storageControl.vulnerable.AssignsAt (linkedText confinedText confinedLink) position := by
  rintro position rfl
  refine ⟨("resource \"azurerm_storage_account\" \"linked\" \x7b\n" ++
    "  name = \"labassets\"\n").toList, [' ', ' '], [' '], [' '], "true", " # lab\n\x7d\n".toList,
    ?_, .inr ?_, ?_, ?_, ⟨[' '], "# lab\n\x7d\n".toList, ?_, ?_, .inr (.inr ?_)⟩, ?_⟩
  all_goals decide +kernel

/-- The assignment in the linked block is the controlled one. -/
def confinedReading : PatchReading storageControl (linkedText confinedText confinedLink) :=
  ⟨{beforeLiteral.length}, confined_assigned⟩

/-- In the first source the one assignment that is found is not in the linked block. In the second
it is, and the patch of it stays inside the block. -/
theorem accounts_find_another :
    ¬FindsControlled accountsText accountsProposal accountLink storageControl (.all _ _) ∧
      PatchConfined confinedText accountsProposal confinedLink
        ["storage_account_public_network_access_disabled"] storageControl confinedReading ∧
      ∃ replacement, materializeControlPatch confinedText accountsProposal confinedLink
        ["storage_account_public_network_access_disabled"] =
          .ok (replacement, "deterministic_control_patch") := by
  have hmatches : storageControl.vulnerable.matches
      (searchedText confinedText confinedLink).1 = [(beforeLiteral.length, "true")] := by
    decide +kernel
  refine ⟨fun h => accounts_not_confined ((patchConfined_iff accountLink_linked rfl
    (.all _ _)).mpr h), (patchConfined_iff confinedLink_linked rfl confinedReading).mpr ?_,
    materialized_of_single rfl (by decide +kernel) hmatches⟩
  intro _ position literal hfound
  obtain ⟨rfl, rfl⟩ := Prod.mk.inj (List.singleton_inj.mp (hmatches.symm.trans hfound))
  exact ⟨beforeLiteral.length, rfl, by decide +kernel⟩

end samples

end ElCapitan
