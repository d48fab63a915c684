import ElCapitan.Base.Matches

/-!
# Patterns of words and gaps

A pattern that is a sequence of words with gaps of spaces between them. Where every gap stands
before a word that does not begin with a space, the longest gap is the only one, so a match needs no
choice.
-/

namespace ElCapitan

/-- A part of a pattern: a word, or a gap of spaces. -/
inductive Gapped where
  | word (chars : List Char)
  | gap
  | someGap
  deriving DecidableEq

/-- What follows a word at the beginning of a text. -/
def afterWord (word text : List Char) : Option (List Char) :=
  if word.isPrefixOf text then some (text.drop word.length) else none

/-- What follows a word is the rest of a text that begins with it. -/
theorem afterWord_eq_some {word text rest : List Char} :
    afterWord word text = some rest ↔ text = word ++ rest := by
  unfold afterWord
  constructor
  · intro h
    split at h
    · rename_i hbegins
      obtain ⟨tail, rfl⟩ := List.isPrefixOf_iff_prefix.mp hbegins
      rw [List.drop_left] at h
      rw [Option.some.inj h]
    · cases h
  · rintro rfl
    rw [if_pos (List.isPrefixOf_iff_prefix.mpr (List.prefix_append _ _)), List.drop_left]

section gaps

variable (space : Char → Bool)

/-- What follows the parts of a pattern at the beginning of a text. -/
def afterGapped : List Gapped → List Char → Option (List Char)
  | [], text => some text
  | .word chars :: parts, text => (afterWord chars text).bind (afterGapped parts)
  | .gap :: parts, text => afterGapped parts (text.dropWhile space)
  | .someGap :: parts, text =>
    if text.head?.any space then afterGapped parts (text.dropWhile space) else none

/-- A text that is made of the parts of a pattern. -/
inductive Spelled : List Gapped → List Char → Prop
  | nil : Spelled [] []
  | word (chars : List Char) {parts : List Gapped} {rest : List Char}
      (hrest : Spelled parts rest) : Spelled (.word chars :: parts) (chars ++ rest)
  | gap {spaces : List Char} (hspaces : ∀ c ∈ spaces, space c = true) {parts : List Gapped}
      {rest : List Char} (hrest : Spelled parts rest) : Spelled (.gap :: parts) (spaces ++ rest)
  | someGap {spaces : List Char} (hne : spaces ≠ []) (hspaces : ∀ c ∈ spaces, space c = true)
      {parts : List Gapped} {rest : List Char} (hrest : Spelled parts rest) :
      Spelled (.someGap :: parts) (spaces ++ rest)

/-- Parts that begin with a word whose first character is not a space. -/
def opensSolid : List Gapped → Bool
  | .word (c :: _) :: _ => !space c
  | _ => false

/-- Every gap stands before a word that does not begin with a space. -/
def solid : List Gapped → Bool
  | [] => true
  | .word _ :: parts => solid parts
  | .gap :: parts => opensSolid space parts && solid parts
  | .someGap :: parts => opensSolid space parts && solid parts

/-- A pattern of words and gaps. -/
def gapped (parts : List Gapped) : Pattern := fun _ text =>
  (afterGapped space parts text).map fun rest => text.length - rest.length

end gaps

section reading

variable {space : Char → Bool} {parts : List Gapped} {text rest chars : List Char}

/-- A text of parts that begin solid does not begin with a space. -/
theorem Spelled.solid_head (h : Spelled space parts chars)
    (hopens : opensSolid space parts = true) :
    ∃ c tail, chars = c :: tail ∧ space c = false := by
  cases h with
  | nil => cases hopens
  | word word hrest =>
    cases word with
    | nil => cases hopens
    | cons c word => exact ⟨c, _, rfl, by simpa [opensSolid] using hopens⟩
  | gap _ _ => cases hopens
  | someGap _ _ _ => cases hopens

/-- A gap ends where the next word begins. -/
theorem dropWhile_gap {spaces : List Char} (hspaces : ∀ c ∈ spaces, space c = true)
    (h : Spelled space parts chars) (hopens : opensSolid space parts = true) :
    (spaces ++ (chars ++ rest)).dropWhile space = chars ++ rest := by
  obtain ⟨c, tail, rfl, hc⟩ := h.solid_head hopens
  rw [List.dropWhile_append_of_pos hspaces, List.cons_append, List.dropWhile_cons_of_neg]
  simp [hc]

/-- What follows the parts of a pattern is what follows a text that is made of them. -/
theorem afterGapped_eq_some (hsolid : solid space parts = true) :
    afterGapped space parts text = some rest ↔
      ∃ chars, Spelled space parts chars ∧ text = chars ++ rest := by
  induction parts generalizing text with
  | nil =>
    constructor
    · intro h
      exact ⟨[], .nil, Option.some.inj h⟩
    · rintro ⟨chars, hchars, rfl⟩
      cases hchars
      rfl
  | cons part parts ih =>
    cases part with
    | word word =>
      rw [afterGapped, Option.bind_eq_some_iff]
      constructor
      · rintro ⟨middle, hword, hafter⟩
        obtain ⟨chars, hchars, rfl⟩ := (ih hsolid).mp hafter
        refine ⟨word ++ chars, .word word hchars, ?_⟩
        rw [afterWord_eq_some.mp hword, List.append_assoc]
      · rintro ⟨chars, hchars, rfl⟩
        cases hchars with
        | word _ hrest =>
          rw [List.append_assoc]
          exact ⟨_, afterWord_eq_some.mpr rfl, (ih hsolid).mpr ⟨_, hrest, rfl⟩⟩
    | gap =>
      obtain ⟨hopens, hsolid⟩ := Bool.and_eq_true_iff.mp hsolid
      rw [afterGapped, ih hsolid]
      constructor
      · rintro ⟨chars, hchars, hdrop⟩
        refine ⟨text.takeWhile space ++ chars, .gap ?_ hchars, ?_⟩
        · exact fun c hc => List.mem_takeWhile_imp hc
        · rw [List.append_assoc, ← hdrop, List.takeWhile_append_dropWhile]
      · rintro ⟨chars, hchars, rfl⟩
        cases hchars with
        | gap hspaces hrest =>
          rw [List.append_assoc]
          exact ⟨_, hrest, dropWhile_gap hspaces hrest hopens⟩
    | someGap =>
      obtain ⟨hopens, hsolid⟩ := Bool.and_eq_true_iff.mp hsolid
      rw [afterGapped]
      constructor
      · intro h
        split at h
        · rename_i hhead
          obtain ⟨chars, hchars, hdrop⟩ := (ih hsolid).mp h
          refine ⟨text.takeWhile space ++ chars, .someGap ?_ ?_ hchars, ?_⟩
          · cases text with
            | nil => cases hhead
            | cons c text =>
              rw [List.takeWhile_cons_of_pos (by simpa using hhead)]
              exact List.cons_ne_nil _ _
          · exact fun c hc => List.mem_takeWhile_imp hc
          · rw [List.append_assoc, ← hdrop, List.takeWhile_append_dropWhile]
        · cases h
      · rintro ⟨chars, hchars, rfl⟩
        cases hchars with
        | someGap hne hspaces hrest =>
          rename_i spaces _
          obtain ⟨c, spaces, rfl⟩ := List.exists_cons_of_ne_nil hne
          have hc := hspaces c List.mem_cons_self
          rw [if_pos (by simpa using hc), ih hsolid, List.append_assoc]
          exact ⟨_, hrest, dropWhile_gap hspaces hrest hopens⟩

/-- The parts of a pattern are spelled in one way at the beginning of a text. -/
theorem Spelled.unique (hsolid : solid space parts = true) {chars' rest' : List Char}
    (h : Spelled space parts chars) (h' : Spelled space parts chars')
    (htext : chars ++ rest = chars' ++ rest') : chars = chars' ∧ rest = rest' := by
  have hafter : afterGapped space parts (chars ++ rest) = some rest :=
    (afterGapped_eq_some hsolid).mpr ⟨chars, h, rfl⟩
  have hafter' : afterGapped space parts (chars ++ rest) = some rest' :=
    (afterGapped_eq_some hsolid).mpr ⟨chars', h', htext⟩
  obtain rfl := Option.some.inj (hafter.symm.trans hafter')
  exact ⟨List.append_cancel_right htext, rfl⟩

/-- A pattern of words and gaps matches a text that is made of its parts. -/
theorem gapped_eq_some (hsolid : solid space parts = true) {before : Option Char} {n : ℕ} :
    gapped space parts before text = some n ↔
      ∃ chars rest, Spelled space parts chars ∧ text = chars ++ rest ∧ n = chars.length := by
  unfold gapped
  rw [Option.map_eq_some_iff]
  constructor
  · rintro ⟨rest, hafter, rfl⟩
    obtain ⟨chars, hchars, rfl⟩ := (afterGapped_eq_some hsolid).mp hafter
    exact ⟨chars, rest, hchars, rfl, by simp⟩
  · rintro ⟨chars, rest, hchars, rfl, rfl⟩
    exact ⟨rest, (afterGapped_eq_some hsolid).mpr ⟨chars, hchars, rfl⟩, by simp⟩

/-- Every character of a text that is made of parts is a space or one of a word. -/
theorem Spelled.all (h : Spelled space parts chars) {P : Char → Prop}
    (hspace : ∀ c, space c = true → P c)
    (hwords : ∀ word, Gapped.word word ∈ parts → ∀ c ∈ word, P c) : ∀ c ∈ chars, P c := by
  induction h with
  | nil => exact fun c hc => by cases hc
  | word word hrest ih =>
    intro c hc
    rcases List.mem_append.mp hc with hc | hc
    · exact hwords word List.mem_cons_self c hc
    · exact ih (fun other hother => hwords other (List.mem_cons_of_mem _ hother)) c hc
  | gap hspaces hrest ih =>
    intro c hc
    rcases List.mem_append.mp hc with hc | hc
    · exact hspace c (hspaces c hc)
    · exact ih (fun other hother => hwords other (List.mem_cons_of_mem _ hother)) c hc
  | someGap hne hspaces hrest ih =>
    intro c hc
    rcases List.mem_append.mp hc with hc | hc
    · exact hspace c (hspaces c hc)
    · exact ih (fun other hother => hwords other (List.mem_cons_of_mem _ hother)) c hc

/-- A text of parts and more parts is a text of the ones and a text of the others. -/
theorem spelled_append {more : List Gapped} : Spelled space (parts ++ more) chars ↔
    ∃ first second, chars = first ++ second ∧ Spelled space parts first ∧
      Spelled space more second := by
  induction parts generalizing chars with
  | nil =>
    constructor
    · exact fun h => ⟨[], chars, rfl, .nil, h⟩
    · rintro ⟨first, second, rfl, hfirst, hsecond⟩
      cases hfirst
      exact hsecond
  | cons part parts ih =>
    constructor
    · intro h
      cases h with
      | word word hrest =>
        obtain ⟨first, second, rfl, hfirst, hsecond⟩ := ih.mp hrest
        exact ⟨word ++ first, second, by simp, .word word hfirst, hsecond⟩
      | gap hspaces hrest =>
        obtain ⟨first, second, rfl, hfirst, hsecond⟩ := ih.mp hrest
        exact ⟨_ ++ first, second, by simp, .gap hspaces hfirst, hsecond⟩
      | someGap hne hspaces hrest =>
        obtain ⟨first, second, rfl, hfirst, hsecond⟩ := ih.mp hrest
        exact ⟨_ ++ first, second, by simp, .someGap hne hspaces hfirst, hsecond⟩
    · rintro ⟨first, second, rfl, hfirst, hsecond⟩
      cases hfirst with
      | word word hrest =>
        rw [List.append_assoc]
        exact .word word (ih.mpr ⟨_, second, rfl, hrest, hsecond⟩)
      | gap hspaces hrest =>
        rw [List.append_assoc]
        exact .gap hspaces (ih.mpr ⟨_, second, rfl, hrest, hsecond⟩)
      | someGap hne hspaces hrest =>
        rw [List.append_assoc]
        exact .someGap hne hspaces (ih.mpr ⟨_, second, rfl, hrest, hsecond⟩)

/-- A text that is made of parts with a word is not empty. -/
theorem Spelled.ne_nil (h : Spelled space parts chars)
    (hword : ∃ c word, Gapped.word (c :: word) ∈ parts) : chars ≠ [] := by
  obtain ⟨c, word, hmem⟩ := hword
  induction h with
  | nil => cases hmem
  | word other hrest ih =>
    rcases List.mem_cons.mp hmem with heq | hmem
    · rw [← Gapped.word.inj heq]
      exact List.cons_ne_nil _ _
    · exact List.append_ne_nil_of_right_ne_nil _ (ih hmem)
  | gap hspaces hrest ih =>
    rcases List.mem_cons.mp hmem with heq | hmem
    · cases heq
    · exact List.append_ne_nil_of_right_ne_nil _ (ih hmem)
  | someGap hne hspaces hrest ih => exact List.append_ne_nil_of_left_ne_nil hne _

/-- A match of words and gaps is a part of the text that is not empty. -/
theorem gapped_fits (hsolid : solid space parts = true)
    (hword : ∃ c word, Gapped.word (c :: word) ∈ parts) : (gapped space parts).Fits := by
  intro before text n h
  obtain ⟨chars, rest, hchars, rfl, rfl⟩ := (gapped_eq_some hsolid).mp h
  exact ⟨List.length_pos_iff.mpr (hchars.ne_nil hword), by simp⟩

/-- A pattern with a word matches where a text is made of its parts. -/
theorem gapped_matchAt (hsolid : solid space parts = true)
    (hword : ∃ c word, Gapped.word (c :: word) ∈ parts) {position n : ℕ} :
    (gapped space parts).matchAt text position = some n ↔ ∃ before chars rest,
      text = before ++ (chars ++ rest) ∧ before.length = position ∧ Spelled space parts chars ∧
        n = chars.length := by
  constructor
  · intro h
    obtain ⟨_, hlength⟩ := Pattern.matchAt_length (gapped_fits hsolid hword) h
    obtain ⟨chars, rest, hchars, hdrop, rfl⟩ := (gapped_eq_some hsolid).mp h
    refine ⟨text.take position, chars, rest, ?_, ?_, hchars, rfl⟩
    · rw [← hdrop, List.take_append_drop]
    · rw [List.length_take]
      omega
  · rintro ⟨before, chars, rest, rfl, rfl, hchars, rfl⟩
    rw [Pattern.matchAt_append]
    exact (gapped_eq_some hsolid).mpr ⟨chars, rest, hchars, rfl, rfl⟩

/-- Behind a character that is in no word a gap goes on up to a word. -/
theorem Spelled.gap_ends (h : Spelled space parts chars) (hsolid : solid space parts = true)
    {before after : List Char} {c : Char}
    (hwords : ∀ word, Gapped.word word ∈ parts → c ∉ word) (hchars : chars = before ++ c :: after) :
    ∃ d word tail, Gapped.word (d :: word) ∈ parts ∧ after.dropWhile space = d :: tail := by
  -- behind a gap stands a word that begins solid
  have hgap {spaces rest : List Char} {parts : List Gapped} (hrest : Spelled space parts rest)
      (hspaces : ∀ c ∈ spaces, space c = true) (hopens : opensSolid space parts = true)
      {before after : List Char} (hchars : spaces ++ rest = before ++ c :: after)
      (hlater : ∀ before, rest = before ++ c :: after → ∃ d word tail,
        Gapped.word (d :: word) ∈ parts ∧ after.dropWhile space = d :: tail) :
      ∃ d word tail, Gapped.word (d :: word) ∈ parts ∧ after.dropWhile space = d :: tail := by
    rcases List.append_eq_append_iff.mp hchars with ⟨more, rfl, hmore⟩ | ⟨more, rfl, hmore⟩
    · exact hlater more hmore
    · cases more with
      | nil => exact hlater [] hmore.symm
      | cons d more =>
        obtain ⟨rfl, rfl⟩ := List.cons.inj hmore
        have hmore : ∀ c ∈ more, space c = true := fun d hd =>
          hspaces d (List.mem_append_right _ (List.mem_cons_of_mem _ hd))
        have hdrop := @dropWhile_gap space parts [] rest more hmore hrest hopens
        rw [List.append_nil] at hdrop
        rw [show more.append rest = more ++ rest from rfl, hdrop]
        cases hrest with
        | nil => cases hopens
        | word word _ =>
          cases word with
          | nil => cases hopens
          | cons d word => exact ⟨d, word, _, List.mem_cons_self, rfl⟩
        | gap _ _ => cases hopens
        | someGap _ _ _ => cases hopens
  induction h generalizing before with
  | nil => simp at hchars
  | word word hrest ih =>
    rcases List.append_eq_append_iff.mp hchars with ⟨more, rfl, hmore⟩ | ⟨more, rfl, hmore⟩
    · obtain ⟨d, next, tail, hmem, hdrop⟩ := ih hsolid
        (fun other hother => hwords other (List.mem_cons_of_mem _ hother)) hmore
      exact ⟨d, next, tail, List.mem_cons_of_mem _ hmem, hdrop⟩
    · cases more with
      | nil =>
        obtain ⟨d, next, tail, hmem, hdrop⟩ := ih hsolid
          (fun other hother => hwords other (List.mem_cons_of_mem _ hother))
          (hmore.symm.trans (List.nil_append _).symm)
        exact ⟨d, next, tail, List.mem_cons_of_mem _ hmem, hdrop⟩
      | cons d more =>
        obtain ⟨rfl, _⟩ := List.cons.inj hmore
        exact absurd (List.mem_append_right _ List.mem_cons_self)
          (hwords _ List.mem_cons_self)
  | gap hspaces hrest ih =>
    obtain ⟨hopens, hsolid⟩ := Bool.and_eq_true_iff.mp hsolid
    obtain ⟨d, next, tail, hmem, hdrop⟩ := hgap hrest hspaces hopens hchars fun before hlater =>
      ih hsolid (fun other hother => hwords other (List.mem_cons_of_mem _ hother)) hlater
    exact ⟨d, next, tail, List.mem_cons_of_mem _ hmem, hdrop⟩
  | someGap hne hspaces hrest ih =>
    obtain ⟨hopens, hsolid⟩ := Bool.and_eq_true_iff.mp hsolid
    obtain ⟨d, next, tail, hmem, hdrop⟩ := hgap hrest hspaces hopens hchars fun before hlater =>
      ih hsolid (fun other hother => hwords other (List.mem_cons_of_mem _ hother)) hlater
    exact ⟨d, next, tail, List.mem_cons_of_mem _ hmem, hdrop⟩

variable {before after other : List Char} {position n : ℕ}

/-- A match depends on what it matches alone, and not on what stands behind it. -/
theorem gapped_matchAt_before (hsolid : solid space parts = true)
    (hword : ∃ c word, Gapped.word (c :: word) ∈ parts)
    (h : (gapped space parts).matchAt (before ++ after) position = some n)
    (hlength : position + n ≤ before.length) :
    (gapped space parts).matchAt (before ++ other) position = some n := by
  obtain ⟨first, chars, rest, htext, rfl, hchars, rfl⟩ := (gapped_matchAt hsolid hword).mp h
  have hbegun : first ++ chars <+: before := by
    have hwhole : first ++ chars <+: before ++ after := by
      rw [htext, ← List.append_assoc]
      exact List.prefix_append _ _
    refine List.prefix_of_prefix_length_le hwhole (List.prefix_append _ _) ?_
    rw [List.length_append]
    exact hlength
  obtain ⟨more, rfl⟩ := hbegun
  exact (gapped_matchAt hsolid hword).mpr
    ⟨first, chars, more ++ other, by simp, rfl, hchars, rfl⟩

/-- A match depends on what it matches alone, and not on what stands before it. -/
theorem gapped_matchAt_after (hsolid : solid space parts = true)
    (hword : ∃ c word, Gapped.word (c :: word) ∈ parts)
    (h : (gapped space parts).matchAt (before ++ after) (before.length + position) = some n) :
    (gapped space parts).matchAt (other ++ after) (other.length + position) = some n := by
  obtain ⟨first, chars, rest, htext, hlength, hchars, rfl⟩ := (gapped_matchAt hsolid hword).mp h
  have hbegun : before <+: first := by
    have hwhole : first <+: before ++ after := by
      rw [htext]
      exact List.prefix_append _ _
    exact List.prefix_of_prefix_length_le (List.prefix_append _ _) hwhole (by omega)
  obtain ⟨more, rfl⟩ := hbegun
  rw [List.append_assoc] at htext
  have hafter := List.append_cancel_left htext
  refine (gapped_matchAt hsolid hword).mpr ⟨other ++ more, chars, rest, ?_, ?_, hchars, rfl⟩
  · rw [hafter, List.append_assoc]
  · rw [List.length_append] at hlength ⊢
    omega

end reading

end ElCapitan
