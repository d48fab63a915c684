import ElCapitan.Base.Json

/-!
# JSON values at paths

A path leads through keys and indexes to at most one value. Two values are the same where
every path leads to values of one kind: a number is a number however it is written, and never
a boolean.
-/

namespace ElCapitan

/-- Induction over a value: an array after its items, an object after its values. -/
theorem Json.induction {P : Json → Prop} (null : P .null) (bool : ∀ b, P (.bool b))
    (int : ∀ n, P (.int n)) (float : ∀ q, P (.float q)) (str : ∀ s, P (.str s))
    (arr : ∀ items, (∀ item ∈ items, P item) → P (.arr items))
    (obj : ∀ entries : Document, (∀ entry ∈ entries, P entry.2) → P (.obj entries)) :
    ∀ value, P value :=
  @Json.rec P (fun items => ∀ item ∈ items, P item) (fun entries => ∀ entry ∈ entries, P entry.2)
    (fun entry => P entry.2) null bool int float str arr obj (by simp)
    (fun _ _ hitem hitems => List.forall_mem_cons.mpr ⟨hitem, hitems⟩) (by simp)
    (fun _ _ hentry hentries => List.forall_mem_cons.mpr ⟨hentry, hentries⟩) (fun _ _ h => h)

/-- One step into a value. -/
inductive PathStep where
  | key (name : String)
  | index (i : ℕ)
  deriving DecidableEq

/-- A path into a value. -/
abbrev JsonPath := List PathStep

/-- What can be seen of a value without going into it. -/
inductive JsonKind where
  | null
  | bool (b : Bool)
  | number (q : ℚ)
  | str (s : String)
  | arr (length : ℕ)
  | obj
  deriving DecidableEq

namespace Json

/-- The kind of a value. -/
def kind : Json → JsonKind
  | .null => .null
  | .bool b => .bool b
  | .int n => .number n
  | .float q => .number q
  | .str s => .str s
  | .arr items => .arr items.length
  | .obj _ => .obj

/-- The value under a step. -/
def child? : Json → PathStep → Option Json
  | .obj entries, .key name => entries.lookup name
  | .arr items, .index i => items[i]?
  | _, _ => none

/-- The value at a path. -/
def at? (value : Json) : JsonPath → Option Json
  | [] => some value
  | step :: path => (value.child? step).bind fun child => child.at? path

/-- The kind of the value at a path. -/
def kindAt (value : Json) (path : JsonPath) : Option JsonKind := (value.at? path).map kind

/-- Equality of JSON values. -/
def Same (a b : Json) : Prop := ∀ path, a.kindAt path = b.kindAt path

/-- Equality of JSON values at every path outside one. -/
def SameOutside (allowed : JsonPath) (a b : Json) : Prop :=
  ∀ path, ¬allowed <+: path → a.kindAt path = b.kindAt path

variable {a b c : Json} {path : JsonPath} {step : PathStep}

/-- The kind at the root. -/
@[simp] theorem kindAt_nil : a.kindAt [] = some a.kind := rfl

/-- The kind behind a step is that of the child. -/
theorem kindAt_cons : a.kindAt (step :: path) =
    (a.child? step).bind fun child => child.kindAt path := by
  unfold kindAt
  rw [at?]
  cases a.child? step <;> rfl

/-- The kind behind a path is that of the value at the path. -/
theorem kindAt_append (path rest : JsonPath) : a.kindAt (path ++ rest) =
    (a.at? path).bind fun child => child.kindAt rest := by
  induction path generalizing a with
  | nil => rfl
  | cons step path ih =>
    rw [List.cons_append, kindAt_cons, at?, Option.bind_assoc]
    congr 1
    funext child
    exact ih

/-- The value behind a path is that of the value at the path. -/
theorem at_append (path rest : JsonPath) : a.at? (path ++ rest) =
    (a.at? path).bind fun child => child.at? rest := by
  induction path generalizing a with
  | nil => rfl
  | cons step path ih =>
    rw [List.cons_append, at?, at?, Option.bind_assoc]
    congr 1
    funext child
    exact ih

/-- A value is the same as itself. -/
theorem Same.refl (a : Json) : a.Same a := fun _ => rfl

/-- Being the same does not depend on the order. -/
theorem Same.symm (h : a.Same b) : b.Same a := fun path => (h path).symm

/-- Values that are the same as a third one are the same. -/
theorem Same.trans (h : a.Same b) (h' : b.Same c) : a.Same c :=
  fun path => (h path).trans (h' path)

/-- Values that are the same are so outside every path. -/
theorem Same.outside (h : a.Same b) (allowed : JsonPath) : SameOutside allowed a b :=
  fun path _ => h path

/-- Being the same outside a path does not depend on the order. -/
theorem SameOutside.symm {allowed : JsonPath} (h : SameOutside allowed a b) :
    SameOutside allowed b a :=
  fun path hpath => (h path hpath).symm

/-- Values that are the same as a third one outside a path are so to each other. -/
theorem SameOutside.trans {allowed : JsonPath} (h : SameOutside allowed a b)
    (h' : SameOutside allowed b c) : SameOutside allowed a c :=
  fun path hpath => (h path hpath).trans (h' path hpath)

/-- Optional values are both absent or are the same. -/
def SameOption : Option Json → Option Json → Prop
  | none, none => True
  | some a, some b => a.Same b
  | _, _ => False

/-- Optional values are the same where they have the same kinds at all paths. -/
theorem sameOption_iff {a b : Option Json} : SameOption a b ↔
    ∀ path, (a.bind fun value => value.kindAt path) = b.bind fun value => value.kindAt path := by
  cases a with
  | none =>
    cases b with
    | none => simp [SameOption]
    | some b =>
      refine ⟨fun h => h.elim, fun h => ?_⟩
      have hroot := h []
      simp at hroot
  | some a =>
    cases b with
    | none =>
      refine ⟨fun h => h.elim, fun h => ?_⟩
      have hroot := h []
      simp at hroot
    | some b => exact Iff.rfl

/-- What stands under a path that leads elsewhere is the same. -/
theorem SameOutside.at {allowed : JsonPath} (h : SameOutside allowed a b)
    (hpath : ∀ rest, ¬allowed <+: path ++ rest) : SameOption (a.at? path) (b.at? path) := by
  rw [sameOption_iff]
  intro rest
  rw [← kindAt_append, ← kindAt_append]
  exact h (path ++ rest) (hpath rest)

/-- Values that are the same outside a path are the same where they are under it. -/
theorem SameOutside.same_iff {allowed : JsonPath} (h : SameOutside allowed a b) :
    a.Same b ↔ SameOption (a.at? allowed) (b.at? allowed) := by
  rw [sameOption_iff]
  constructor
  · intro hsame path
    rw [← kindAt_append, ← kindAt_append]
    exact hsame (allowed ++ path)
  · intro hunder path
    by_cases hpath : allowed <+: path
    · obtain ⟨rest, rfl⟩ := hpath
      rw [kindAt_append, kindAt_append]
      exact hunder rest
    · exact h path hpath

/-- An absent value is the same as an absent value only. -/
theorem sameOption_none_left {b : Option Json} : SameOption none b ↔ b = none := by
  cases b <;> simp [SameOption]

/-- An optional value is the same as itself. -/
theorem SameOption.refl (a : Option Json) : SameOption a a := by
  cases a with
  | none => trivial
  | some a => exact Same.refl a

/-- Values are the same where their kinds and everything under them are. -/
theorem same_iff : a.Same b ↔
    a.kind = b.kind ∧ ∀ step, SameOption (a.child? step) (b.child? step) := by
  constructor
  · intro h
    refine ⟨Option.some.inj (h []), fun step => sameOption_iff.mpr fun path => ?_⟩
    have hpath := h (step :: path)
    rwa [kindAt_cons, kindAt_cons] at hpath
  · rintro ⟨hkind, hchildren⟩ path
    cases path with
    | nil => rw [kindAt_nil, kindAt_nil, hkind]
    | cons step path =>
      rw [kindAt_cons, kindAt_cons]
      exact sameOption_iff.mp (hchildren step) path

/-- Objects are the same where they have the same value under every key. -/
theorem same_obj_iff {entries entries' : Document} : (Json.obj entries).Same (.obj entries') ↔
    ∀ name, SameOption (entries.lookup name) (entries'.lookup name) := by
  rw [same_iff]
  constructor
  · exact fun h name => h.2 (.key name)
  · intro h
    refine ⟨rfl, fun step => ?_⟩
    cases step with
    | key name => exact h name
    | index i => exact trivial

/-- Arrays are the same where they have the same items. -/
theorem same_arr_iff {items items' : List Json} : (Json.arr items).Same (.arr items') ↔
    items.length = items'.length ∧ ∀ i : ℕ, SameOption items[i]? items'[i]? := by
  rw [same_iff]
  constructor
  · intro h
    refine ⟨?_, fun i => h.2 (.index i)⟩
    have hkind := h.1
    simpa [kind] using hkind
  · rintro ⟨hlength, hitems⟩
    refine ⟨?_, fun step => ?_⟩
    · simp [kind, hlength]
    · cases step with
      | key name => exact trivial
      | index i => exact hitems i

/-- Values are the same outside a path under a step where they are of one kind, the same
under every other step and, under this step, the same outside the rest of the path. -/
theorem sameOutside_cons {allowed : JsonPath} : SameOutside (step :: allowed) a b ↔
    a.kind = b.kind ∧ (∀ other, other ≠ step → SameOption (a.child? other) (b.child? other)) ∧
      ∀ path, ¬allowed <+: path →
        ((a.child? step).bind fun value => value.kindAt path) =
          (b.child? step).bind fun value => value.kindAt path := by
  constructor
  · intro h
    refine ⟨?_, fun other hother => sameOption_iff.mpr fun path => ?_, fun path hpath => ?_⟩
    · exact Option.some.inj (h [] (by simp))
    · have hkinds := h (other :: path) (by simp [List.cons_prefix_cons, hother.symm])
      rwa [kindAt_cons, kindAt_cons] at hkinds
    · have hkinds := h (step :: path) (by simpa [List.cons_prefix_cons] using hpath)
      rwa [kindAt_cons, kindAt_cons] at hkinds
  · rintro ⟨hkind, hothers, hstep⟩ path hpath
    cases path with
    | nil => rw [kindAt_nil, kindAt_nil, hkind]
    | cons first path =>
      rw [kindAt_cons, kindAt_cons]
      by_cases hfirst : first = step
      · subst hfirst
        exact hstep path (by simpa [List.cons_prefix_cons] using hpath)
      · exact sameOption_iff.mp (hothers first hfirst) path

/-- Values are the same outside a step where they are of one kind and the same under every
other step. -/
theorem sameOutside_step : SameOutside [step] a b ↔
    a.kind = b.kind ∧ ∀ other, other ≠ step → SameOption (a.child? other) (b.child? other) := by
  rw [sameOutside_cons]
  simp

/-- Values with the same children but one are the same outside a path through it where its
values are the same outside the rest. -/
theorem SameOutside.under {allowed : JsonPath} {x y : Json} (h : SameOutside allowed x y)
    (ha : a.child? step = some x) (hb : b.child? step = some y) (hkind : a.kind = b.kind)
    (hothers : ∀ other, other ≠ step → SameOption (a.child? other) (b.child? other)) :
    SameOutside (step :: allowed) a b := by
  refine sameOutside_cons.mpr ⟨hkind, hothers, fun path hpath => ?_⟩
  rw [ha, hb]
  exact h path hpath

end Json

section documents

variable {document : Document} {name other : String} {value : Json}

/-- An entry that was set is looked up. -/
theorem Document.lookup_set_self : (document.set name value).lookup name = some value := by
  unfold Document.set
  split
  · rename_i hpresent
    induction document with
    | nil => cases hpresent
    | cons entry document ih =>
      obtain ⟨key, held⟩ := entry
      by_cases hkey : key = name
      · simp [hkey]
      · have hne : (name == key) = false := by simpa using Ne.symm hkey
        rw [List.lookup_cons, hne] at hpresent
        simp only [List.map_cons, hkey, if_false, List.lookup_cons, hne]
        exact ih hpresent
  · rename_i habsent
    have hnone : document.lookup name = none := Option.not_isSome_iff_eq_none.mp habsent
    rw [List.lookup_append, hnone]
    simp

/-- Setting an entry leaves the others alone. -/
theorem Document.lookup_set_other (h : other ≠ name) :
    (document.set name value).lookup other = document.lookup other := by
  unfold Document.set
  split
  · rename_i hpresent
    clear hpresent
    induction document with
    | nil => rfl
    | cons entry document ih =>
      obtain ⟨key, held⟩ := entry
      by_cases hkey : key = name
      · have hne : (other == key) = false := by simpa [hkey] using h
        have hne' : (other == name) = false := by simpa using h
        simp only [List.map_cons, hkey, if_true, List.lookup_cons, hne']
        simpa [hkey] using ih
      · simp only [List.map_cons, hkey, if_false, List.lookup_cons]
        rw [ih]
  · rw [List.lookup_append]
    cases document.lookup other <;> simp [h]

/-- A value is read as a text where it is that text. -/
theorem str?_eq_some {value : Json} {s : String} : value.str? = some s ↔ value = .str s := by
  cases value <;> simp [Json.str?]

/-- An entry with a value that is not null is present. -/
theorem get_eq_some {document : Document} {name : String} {value : Json}
    (h : document.get name = value) (hne : value ≠ .null) : document.lookup name = some value := by
  unfold Document.get at h
  cases hlookup : document.lookup name with
  | none =>
    rw [hlookup] at h
    exact absurd h.symm hne
  | some found =>
    rw [hlookup] at h
    rw [show found = value from h]

/-- `document.pop(name, None)`. -/
def Document.without (document : Document) (name : String) : Document :=
  document.filter fun entry => entry.1 ≠ name

/-- Removing an entry leaves the others alone. -/
theorem Document.lookup_without_other (h : other ≠ name) :
    (document.without name).lookup other = document.lookup other := by
  unfold Document.without
  induction document with
  | nil => rfl
  | cons entry document ih =>
    obtain ⟨key, held⟩ := entry
    rw [List.filter_cons]
    split
    · rw [List.lookup_cons, List.lookup_cons, ih]
    · rename_i hdropped
      obtain rfl : key = name := by simpa using hdropped
      have hne : (other == key) = false := by simpa using h
      rw [ih, List.lookup_cons, hne]

/-- A value found in an object is one of its entries. -/
theorem mem_of_lookup {entries : Document} (h : entries.lookup name = some value) :
    (name, value) ∈ entries := by
  induction entries with
  | nil => cases h
  | cons entry entries ih =>
    obtain ⟨key, held⟩ := entry
    rw [List.lookup_cons] at h
    cases heq : name == key with
    | true =>
      rw [heq] at h
      rw [eq_of_beq heq, Option.some.inj h]
      exact List.mem_cons_self
    | false =>
      rw [heq] at h
      exact List.mem_cons_of_mem _ (ih h)

end documents

section edits

/-- Edit the object under a path of keys in place. -/
def Json.editAt (edit : Document → Document) : List String → Json → Json
  | [], .obj entries => .obj (edit entries)
  | name :: names, .obj entries =>
    .obj (Document.set entries name (editAt edit names (Document.get entries name)))
  | _, other => other

variable {edit : Document → Document} {names : List String} {json : Json} {entries : Document}

/-- Under the path stands the edited object. -/
theorem Json.at_editAt (h : json.at? (names.map .key) = some (.obj entries)) :
    (json.editAt edit names).at? (names.map .key) = some (.obj (edit entries)) := by
  induction names generalizing json with
  | nil =>
    obtain rfl : json = .obj entries := Option.some.inj h
    rfl
  | cons name names ih =>
    rw [List.map_cons, Json.at?] at h
    obtain ⟨child, hchild, hrest⟩ := Option.bind_eq_some_iff.mp h
    cases json with
    | obj outer =>
      have hget : Document.get outer name = child := by
        rw [Document.get, show outer.lookup name = some child from hchild]
        rfl
      rw [Json.editAt, hget, List.map_cons, Json.at?, Json.child?, Document.lookup_set_self]
      exact ih hrest
    | _ => cases hchild

/-- An edit of one entry of the object changes nothing outside this entry. -/
theorem Json.editAt_sameOutside {name : String}
    (h : json.at? (names.map .key) = some (.obj entries))
    (hedit : ∀ other, other ≠ name → (edit entries).lookup other = entries.lookup other) :
    Json.SameOutside (names.map .key ++ [.key name]) (json.editAt edit names) json := by
  induction names generalizing json with
  | nil =>
    obtain rfl : json = .obj entries := Option.some.inj h
    refine Json.sameOutside_step.mpr ⟨rfl, fun other hother => ?_⟩
    cases other with
    | index i => exact trivial
    | key other =>
      have hlookup := hedit other fun heq => hother (by rw [heq])
      change Json.SameOption ((edit entries).lookup other) (entries.lookup other)
      rw [hlookup]
      exact Json.SameOption.refl _
  | cons first names ih =>
    rw [List.map_cons, Json.at?] at h
    obtain ⟨child, hchild, hrest⟩ := Option.bind_eq_some_iff.mp h
    cases json with
    | obj outer =>
      have hlookup : outer.lookup first = some child := hchild
      have hget : Document.get outer first = child := by
        rw [Document.get, hlookup]
        rfl
      rw [Json.editAt, hget]
      refine (ih hrest).under Document.lookup_set_self hlookup rfl fun other hother => ?_
      cases other with
      | index i => exact trivial
      | key other =>
        have hother : other ≠ first := fun heq => hother (by rw [heq])
        rw [Json.child?, Json.child?, Document.lookup_set_other hother]
        exact Json.SameOption.refl _
    | _ => cases hchild

end edits

end ElCapitan
