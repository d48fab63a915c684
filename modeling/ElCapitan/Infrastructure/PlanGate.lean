import ElCapitan.Infrastructure.PlanScope

/-!
# What a plan that passes changes

Where no path has changed, two documents are equal except that a boolean may stand against
the number it counts as. A plan that passes updates the reviewed attribute of the linked
resource and, apart from such pairs, nothing else.
-/

namespace ElCapitan

open Json

section loosely

/-- The kind that a value has when booleans are integers. -/
def JsonKind.loosen : JsonKind → JsonKind
  | .bool b => .number (if b then 1 else 0)
  | kind => kind

/-- At some path a boolean stands against the number it counts as. -/
def Clash (a b : Json) : Prop :=
  ∃ path x y, a.kindAt path = some x ∧ b.kindAt path = some y ∧ x ≠ y ∧ x.loosen = y.loosen

mutual

/-- A value with its booleans as integers. -/
def Json.loosen : Json → Json
  | .bool b => .int (if b then 1 else 0)
  | .arr items => .arr (loosenItems items)
  | .obj entries => .obj (loosenEntries entries)
  | other => other

/-- Items with their booleans as integers. -/
def loosenItems : List Json → List Json
  | [] => []
  | item :: items => item.loosen :: loosenItems items

/-- Entries with their booleans as integers. -/
def loosenEntries : Document → Document
  | [] => []
  | (name, value) :: entries => (name, value.loosen) :: loosenEntries entries

end

/-- Each item of a list is loosened. -/
theorem loosenItems_eq (items : List Json) : loosenItems items = items.map Json.loosen := by
  induction items with
  | nil => rfl
  | cons item items ih => rw [loosenItems, ih, List.map_cons]

/-- Each value of an object is loosened. -/
theorem lookup_loosenEntries (entries : Document) (name : String) :
    (loosenEntries entries).lookup name = (entries.lookup name).map Json.loosen := by
  induction entries with
  | nil => rfl
  | cons entry entries ih =>
    obtain ⟨key, value⟩ := entry
    rw [loosenEntries, List.lookup_cons, List.lookup_cons, ih]
    cases name == key <;> rfl

/-- The kind of a loosened value is the loosened kind. -/
theorem kind_loosen (a : Json) : a.loosen.kind = a.kind.loosen := by
  cases a with
  | bool b => cases b <;> simp [Json.loosen, Json.kind, JsonKind.loosen]
  | arr items => simp [Json.loosen, Json.kind, JsonKind.loosen, loosenItems_eq]
  | _ => simp [Json.loosen, Json.kind, JsonKind.loosen]

/-- The child of a loosened value is the loosened child. -/
theorem child?_loosen (a : Json) (step : PathStep) :
    a.loosen.child? step = (a.child? step).map Json.loosen := by
  cases a with
  | arr items =>
    cases step with
    | key name => simp [Json.loosen, Json.child?]
    | index i => simp [Json.loosen, Json.child?, loosenItems_eq]
  | obj entries =>
    cases step with
    | key name => simp [Json.loosen, Json.child?, lookup_loosenEntries]
    | index i => simp [Json.loosen, Json.child?]
  | _ => cases step <;> simp [Json.loosen, Json.child?]

/-- The kinds in a loosened value are the loosened kinds. -/
theorem kindAt_loosen (a : Json) (path : JsonPath) :
    a.loosen.kindAt path = (a.kindAt path).map JsonKind.loosen := by
  induction path generalizing a with
  | nil => simp [kind_loosen]
  | cons step path ih =>
    rw [kindAt_cons, kindAt_cons, child?_loosen]
    cases a.child? step with
    | none => rfl
    | some child => simpa using ih child

/-- Values that are loosely the same are the same where there is no clash. -/
theorem same_iff_loosen {a b : Json} : a.Same b ↔ a.loosen.Same b.loosen ∧ ¬Clash a b := by
  constructor
  · intro h
    refine ⟨fun path => by rw [kindAt_loosen, kindAt_loosen, h path], ?_⟩
    rintro ⟨path, x, y, hx, hy, hne, -⟩
    rw [h path, hy] at hx
    exact hne (Option.some.inj hx).symm
  · rintro ⟨hloose, hclash⟩ path
    have hkinds := hloose path
    rw [kindAt_loosen, kindAt_loosen] at hkinds
    cases hx : a.kindAt path with
    | none =>
      rw [hx, Option.map_none] at hkinds
      exact (Option.map_eq_none_iff.mp hkinds.symm).symm
    | some x =>
      rw [hx, Option.map_some] at hkinds
      obtain ⟨y, hy, hxy⟩ := Option.map_eq_some_iff.mp hkinds.symm
      rw [hy]
      by_contra hne
      exact hclash ⟨path, x, y, hx, hy, fun heq => hne (by rw [heq]), hxy.symm⟩

end loosely

section paths

variable {parent : String} {before after : Document}

/-- The changed paths under a key that the object before has. -/
def changedUnder (parent name : String) (value : Json) (after : Document) : List String :=
  match after.lookup name with
  | some other => changedPaths (childPath parent name) value other
  | none => [childPath parent name]

/-- The changed paths are those under the keys of the object before. -/
theorem mem_changedEntries {seen : List String} {entry : String × List String} :
    entry ∈ changedEntries parent seen before after ↔
      entry.1 ∉ seen ∧ ∃ value, before.lookup entry.1 = some value ∧
        entry.2 = changedUnder parent entry.1 value after := by
  induction before generalizing seen with
  | nil => simp [changedEntries]
  | cons head before ih =>
    obtain ⟨name, value⟩ := head
    unfold changedEntries
    by_cases hseen : name ∈ seen
    · rw [if_pos hseen, ih]
      refine and_congr_right fun hentry => ?_
      have hne : (entry.1 == name) = false := by
        simpa using fun heq : entry.1 = name => hentry (heq ▸ hseen)
      rw [List.lookup_cons, hne]
    · rw [if_neg hseen, List.mem_cons, ih]
      by_cases hname : entry.1 = name
      · subst hname
        rw [List.lookup_cons_self]
        constructor
        · rintro (heq | ⟨hmem, -⟩)
          · exact ⟨hseen, value, rfl, congrArg Prod.snd heq⟩
          · exact absurd List.mem_cons_self hmem
        · rintro ⟨-, found, hfound, hpaths⟩
          rw [Option.some.inj hfound]
          exact .inl (Prod.ext rfl hpaths)
      · have hne : (entry.1 == name) = false := by simpa using hname
        rw [List.lookup_cons, hne]
        constructor
        · rintro (heq | ⟨hmem, hrest⟩)
          · exact absurd (congrArg Prod.fst heq) hname
          · exact ⟨fun hold => hmem (List.mem_cons_of_mem _ hold), hrest⟩
        · rintro ⟨hmem, hrest⟩
          refine .inr ⟨fun hold => ?_, hrest⟩
          rcases List.mem_cons.mp hold with heq | hold
          · exact hname heq
          · exact hmem hold

/-- The keys that only the object after has, each with its path. -/
def addedPaths (parent : String) (before after : Document) : List (String × List String) :=
  (after.filter fun entry => (before.lookup entry.1).isNone).map fun entry =>
    (entry.1, [childPath parent entry.1])

/-- The changed paths of two objects, with the added keys as a function. -/
theorem changedPaths_obj : changedPaths parent (.obj before) (.obj after) =
    ((changedEntries parent [] before after ++ addedPaths parent before after).insertionSort
      fun a b => a.1 ≤ b.1).flatMap Prod.snd := by
  rw [changedPaths]
  rfl

/-- The changed paths under a key of either object. -/
def pathsAt (parent name : String) (before after : Document) : List String :=
  match before.lookup name, after.lookup name with
  | some value, some other => changedPaths (childPath parent name) value other
  | none, none => []
  | _, _ => [childPath parent name]

/-- Each key that either object has contributes its changed paths. -/
theorem exists_contribution {name : String}
    (h : before.lookup name ≠ none ∨ after.lookup name ≠ none) :
    (name, pathsAt parent name before after) ∈
      (changedEntries parent [] before after ++ addedPaths parent before after).insertionSort
        fun a b => a.1 ≤ b.1 := by
  rw [List.mem_insertionSort, List.mem_append]
  unfold pathsAt
  cases hbefore : before.lookup name with
  | some value =>
    refine .inl (mem_changedEntries.mpr ⟨List.not_mem_nil, value, hbefore, ?_⟩)
    unfold changedUnder
    cases after.lookup name <;> rfl
  | none =>
    cases hafter : after.lookup name with
    | none => simp [hbefore, hafter] at h
    | some other =>
      refine .inr (List.mem_map.mpr ⟨(name, other), ?_, rfl⟩)
      exact List.mem_filter.mpr ⟨mem_of_lookup hafter, by simp [hbefore]⟩

/-- Every contribution is that of a key. -/
theorem contribution_eq {entry : String × List String}
    (h : entry ∈ (changedEntries parent [] before after ++
      addedPaths parent before after).insertionSort fun a b => a.1 ≤ b.1) :
    entry.2 = pathsAt parent entry.1 before after := by
  rw [List.mem_insertionSort, List.mem_append] at h
  unfold pathsAt
  rcases h with h | h
  · obtain ⟨-, value, hvalue, hpaths⟩ := mem_changedEntries.mp h
    rw [hvalue, hpaths]
    unfold changedUnder
    cases after.lookup entry.1 <;> rfl
  · obtain ⟨⟨name, other⟩, hmem, rfl⟩ := List.mem_map.mp h
    obtain ⟨hafter, hnone⟩ := List.mem_filter.mp hmem
    rw [Option.isNone_iff_eq_none.mp hnone]
    have hfound : after.lookup name ≠ none := by
      intro habsent
      rw [List.lookup_eq_none_iff] at habsent
      simpa using habsent (name, other) hafter
    obtain ⟨found, hfound⟩ := Option.ne_none_iff_exists'.mp hfound
    rw [hfound]

/-- No path of two objects has changed where none has under any key. -/
theorem changedPaths_obj_eq_nil : changedPaths parent (.obj before) (.obj after) = [] ↔
    ∀ name, pathsAt parent name before after = [] := by
  rw [changedPaths_obj, List.flatMap_eq_nil_iff]
  constructor
  · intro h name
    by_cases hpresent : before.lookup name ≠ none ∨ after.lookup name ≠ none
    · exact h _ (exists_contribution hpresent)
    · push Not at hpresent
      unfold pathsAt
      rw [hpresent.1, hpresent.2]
  · intro h entry hentry
    rw [contribution_eq hentry, h]

/-- Where one path has changed, it is under one key. -/
theorem one_changed_key {name path : String}
    (h : changedPaths parent (.obj before) (.obj after) = [path])
    (hname : pathsAt parent name before after ≠ []) :
    pathsAt parent name before after = [path] ∧
      ∀ other, other ≠ name → pathsAt parent other before after = [] := by
  have hone : ∀ entries : List (String × List String), entries.flatMap Prod.snd = [path] →
      ∀ entry ∈ entries, entry.2 ≠ [] → entry.2 = [path] ∧
        ∀ other ∈ entries, other.1 ≠ entry.1 → other.2 = [] := by
    intro entries
    induction entries with
    | nil => simp
    | cons first entries ih =>
      intro hpaths entry hentry hne
      rw [List.flatMap_cons, List.append_eq_singleton_iff] at hpaths
      rcases hpaths with ⟨hfirst, hrest⟩ | ⟨hfirst, hrest⟩
      · rcases List.mem_cons.mp hentry with rfl | hentry
        · exact absurd hfirst hne
        · obtain ⟨hentry, hothers⟩ := ih hrest entry hentry hne
          refine ⟨hentry, fun other hother hkey => ?_⟩
          rcases List.mem_cons.mp hother with rfl | hother
          · exact hfirst
          · exact hothers other hother hkey
      · have hempty := List.flatMap_eq_nil_iff.mp hrest
        rcases List.mem_cons.mp hentry with rfl | hentry
        · refine ⟨hfirst, fun other hother hkey => ?_⟩
          rcases List.mem_cons.mp hother with rfl | hother
          · exact absurd rfl hkey
          · exact hempty other hother
        · exact absurd (hempty entry hentry) hne
  rw [changedPaths_obj] at h
  have hpresent : ∀ key, pathsAt parent key before after ≠ [] →
      before.lookup key ≠ none ∨ after.lookup key ≠ none := by
    intro key hkey
    by_contra habsent
    push Not at habsent
    unfold pathsAt at hkey
    rw [habsent.1, habsent.2] at hkey
    exact hkey rfl
  obtain ⟨hpath, hothers⟩ := hone _ h _ (exists_contribution (hpresent name hname)) hname
  refine ⟨hpath, fun other hother => ?_⟩
  by_contra hne
  exact hne (hothers _ (exists_contribution (hpresent other hne)) hother)

/-- Is a value neither an object nor a list? -/
def Json.isLeaf : Json → Bool
  | .arr _ | .obj _ => false
  | _ => true

/-- A leaf is equal to the values of its kind, booleans counting as numbers. -/
theorem looselyEqual_iff {a b : Json} (ha : a.isLeaf = true) :
    looselyEqual a b = true ↔ a.loosen.Same b.loosen := by
  have hsame : a.loosen.Same b.loosen ↔ a.kind.loosen = b.kind.loosen := by
    rw [same_iff, kind_loosen, kind_loosen]
    refine ⟨fun h => h.1, fun hkind => ⟨hkind, fun step => ?_⟩⟩
    rw [child?_loosen, child?_loosen]
    cases a <;> cases b <;> simp_all [Json.isLeaf, Json.kind, JsonKind.loosen, Json.child?,
      SameOption]
  rw [hsame]
  cases a with
  | arr items => cases ha
  | obj entries => cases ha
  | _ =>
    cases b <;> simp [looselyEqual, comparedNumber?, Json.kind, JsonKind.loosen]

/-- Values that are no two objects and no two lists have changed at their path or not at all. -/
theorem changedPaths_leaf {a b : Json} (h : a.isLeaf = true ∨ b.isLeaf = true ∨
    a.kind.loosen ≠ b.kind.loosen) (hlist : ∀ items items', a = .arr items → b ≠ .arr items') :
    changedPaths parent a b = if looselyEqual a b then [] else [parent] := by
  cases a <;> cases b <;> first
    | rfl
    | (simp [Json.isLeaf, Json.kind, JsonKind.loosen] at h; done)
    | exact absurd rfl (hlist _ _ rfl)

/-- Lists of one length have no changed path where their items are loosely the same. -/
theorem changedItems_eq_nil {items items' : List Json} {i : ℕ}
    (hlength : items.length = items'.length)
    (ih : ∀ item ∈ items, ∀ parent other,
      changedPaths parent item other = [] ↔ item.loosen.Same other.loosen) :
    changedItems parent i items items' = [] ↔
      ∀ j : ℕ, SameOption (items[j]?.map Json.loosen) (items'[j]?.map Json.loosen) := by
  induction items generalizing items' i with
  | nil =>
    obtain rfl := List.length_eq_zero_iff.mp hlength.symm
    simp [changedItems, SameOption]
  | cons item items hitems =>
    cases items' with
    | nil => simp at hlength
    | cons other items' =>
      have hrest := hitems (i := i + 1) (Nat.succ.inj hlength)
        fun item hitem => ih item (List.mem_cons_of_mem _ hitem)
      rw [changedItems, List.append_eq_nil_iff, ih item List.mem_cons_self, hrest]
      constructor
      · rintro ⟨hfirst, hothers⟩ j
        cases j with
        | zero => exact hfirst
        | succ j => exact hothers j
      · exact fun h => ⟨h 0, fun j => h (j + 1)⟩

/-- No path has changed exactly where the values are loosely the same. -/
theorem changedPaths_eq_nil (a : Json) : ∀ parent b,
    changedPaths parent a b = [] ↔ a.loosen.Same b.loosen := by
  induction a using Json.induction with
  | arr items ih =>
    intro parent b
    cases b with
    | arr items' =>
      rw [changedPaths]
      by_cases hlength : items.length = items'.length
      · rw [if_neg (not_not.mpr hlength), changedItems_eq_nil hlength ih, Json.loosen, Json.loosen,
          same_arr_iff, loosenItems_eq, loosenItems_eq]
        simp [hlength]
      · rw [if_pos hlength, Json.loosen, Json.loosen, same_arr_iff, loosenItems_eq,
          loosenItems_eq]
        simp [hlength]
    | _ =>
      rw [changedPaths_leaf (by simp [Json.isLeaf, Json.kind, JsonKind.loosen]) (by simp)]
      rw [same_iff, kind_loosen, kind_loosen]
      simp [looselyEqual, comparedNumber?, Json.kind, JsonKind.loosen]
  | obj before ih =>
    intro parent b
    cases b with
    | obj after =>
      rw [changedPaths_obj_eq_nil, Json.loosen, Json.loosen, same_obj_iff]
      refine forall_congr' fun name => ?_
      rw [lookup_loosenEntries, lookup_loosenEntries]
      unfold pathsAt
      cases hbefore : before.lookup name with
      | none => cases after.lookup name <;> simp [SameOption]
      | some value =>
        cases after.lookup name with
        | none => simp [SameOption]
        | some other => exact ih _ (mem_of_lookup hbefore) (childPath parent name) other
    | _ =>
      rw [changedPaths_leaf (by simp [Json.isLeaf, Json.kind, JsonKind.loosen]) (by simp)]
      rw [same_iff, kind_loosen, kind_loosen]
      simp [looselyEqual, comparedNumber?, Json.kind, JsonKind.loosen]
  | _ =>
    intro parent b
    rw [changedPaths_leaf (.inl rfl) (by simp), ← looselyEqual_iff rfl]
    simp

/-- No path has changed where values are equal, and values are equal where no path has changed
and no boolean stands against the number it counts as. -/
theorem same_iff_changedPaths {a b : Json} {parent : String} :
    a.Same b ↔ changedPaths parent a b = [] ∧ ¬Clash a b := by
  rw [same_iff_loosen, changedPaths_eq_nil]

end paths

section gate

/-- The resource changes of a plan. -/
def resourceChanges (document : Json) : List Document :=
  match (document.child? (.key "resource_changes")) with
  | some (.arr items) => items.filterMap Json.obj?
  | _ => []

/-- The change of a resource change. -/
def changeOf (item : Document) : Document := ((item.get "change").obj?).getD []

/-- The actions of a resource change. -/
def actionsOf (item : Document) : Json := (changeOf item).get "actions"

/-- The path of the status in a bucket's versioning. -/
def statusPath : JsonPath := [.key "versioning_configuration", .index 0, .key "status"]

/-- Only the reviewed attribute changes, from a reviewed value to the required one. -/
inductive ReviewedUpdate (target : String) (before after : Json) : Prop
  | storageAccount (hresource : targetType target = "azurerm_storage_account")
      (hbefore : before.kindAt [.key "public_network_access_enabled"] = some (.bool true))
      (hafter : after.kindAt [.key "public_network_access_enabled"] = some (.bool false))
      (hrest : SameOutside [.key "public_network_access_enabled"] before after)
  | bucketVersioning (hresource : targetType target = "aws_s3_bucket_versioning")
      (hbefore : before.kindAt statusPath = some (.str "Disabled") ∨
        before.kindAt statusPath = some (.str "Suspended"))
      (hafter : after.kindAt statusPath = some (.str "Enabled"))
      (hrest : SameOutside statusPath before after)

/-- One resource change is no no-op; it updates the target in the reviewed attribute only. -/
def OnlyReviewedChange (target : String) (document : Json) : Prop :=
  ∃ earlier item later, resourceChanges document = earlier ++ item :: later ∧
    (∀ other ∈ earlier ++ later, actionsOf other = .arr [.str "no-op"]) ∧
    actionsOf item = .arr [.str "update"] ∧ item.get "address" = .str target ∧
    ReviewedUpdate target ((changeOf item).get "before") ((changeOf item).get "after")

/-- No resource change has an object for its actions, and no update sets a boolean against the
number it counts as. -/
def PlainPlan (document : Json) : Prop :=
  ∀ item ∈ resourceChanges document, (∀ entries, actionsOf item ≠ .obj entries) ∧
    (actionsOf item = .arr [.str "update"] →
      ¬Clash ((changeOf item).get "before") ((changeOf item).get "after"))

/-- The actions of a resource change, iterated over, are exactly one action. -/
def ReadsOnly (action : String) (item : Document) : Prop :=
  ∃ actions, itemsOr (actionsOf item) = .ok actions ∧ onlyAction action actions = true

/-- The actions are one action where they are the list of it. -/
theorem onlyAction_iff {action : String} {actions : List Json} :
    onlyAction action actions = true ↔ actions = [.str action] := by
  unfold onlyAction
  split
  · simp
  · rename_i hother
    constructor
    · intro h
      cases h
    · rintro rfl
      exact absurd rfl (hother action)

/-- What iterates to one action is the list of it, an object, or a text of one character. -/
theorem iterated_eq_ok {value : Json} {action : String} (h : iterated value = .ok [.str action]) :
    value = .arr [.str action] ∨ (∃ entries, value = .obj entries) ∨ action.length = 1 := by
  unfold iterated at h
  split at h
  · cases h
    exact .inl rfl
  · exact .inr (.inl ⟨_, rfl⟩)
  · rename_i s
    have hitems := Except.ok.inj h
    cases hlist : s.toList with
    | nil => simp [hlist] at hitems
    | cons c rest =>
      rw [hlist] at hitems
      simp only [List.map_cons, List.cons.injEq, Json.str.injEq] at hitems
      refine .inr (.inr ?_)
      rw [← hitems.1]
      simp
  · cases h

/-- Actions that are read as one action are a list of it, or an object. -/
theorem ReadsOnly.actions {action : String} {item : Document} (h : ReadsOnly action item)
    (hlength : action.length ≠ 1) (hplain : ∀ entries, actionsOf item ≠ .obj entries) :
    actionsOf item = .arr [.str action] := by
  obtain ⟨actions, hitems, hone⟩ := h
  rw [onlyAction_iff.mp hone] at hitems
  unfold itemsOr at hitems
  split at hitems
  · rcases iterated_eq_ok hitems with hlist | ⟨entries, hobj⟩ | hchar
    · exact hlist
    · exact absurd hobj (hplain entries)
    · exact absurd hchar hlength
  · cases hitems

/-- What the loop records of a resource change. -/
def observedChange (P : Platform) (item : Document) (actions : List Json) : ObservedChange :=
  ⟨P.str (item.getText "address"), actions,
    changedPaths "" ((changeOf item).get "before") ((changeOf item).get "after")⟩

/-- The `change` of an item, where it is read, is the one a reviewer sees. -/
theorem sectionOr_change {item change : Document} (h : sectionOr item "change" = .ok change) :
    change = changeOf item := by
  unfold sectionOr at h
  unfold changeOf
  split at h
  · unfold asDict at h
    split at h
    · rename_i entries hchange
      cases h
      rw [hchange]
      rfl
    · cases h
  · rename_i hfalsy
    cases h
    cases hchange : item.get "change" with
    | obj entries =>
      rw [hchange] at hfalsy
      cases entries with
      | nil => rfl
      | cons entry entries => simp [Json.truthy] at hfalsy
    | _ => rfl

/-- The objects of a list begin with its first one. -/
theorem objects_cons (item : Document) (items : List Json) :
    (Json.obj item :: items).filterMap Json.obj? = item :: items.filterMap Json.obj? := by
  simp [Json.obj?]

/-- What the loop does with a resource change. -/
theorem observeChanges_obj {P : Platform} {target : String} {item : Document}
    {items : List Json} {changes changes' : List ObservedChange}
    {found found' : Option (Document × List String)}
    (h : observeChanges P target (.obj item :: items) changes found = .ok (changes', found')) :
    (ReadsOnly "no-op" item ∧ observeChanges P target items changes found =
      .ok (changes', found')) ∨
      ∃ actions, itemsOr (actionsOf item) = .ok actions ∧
        observeChanges P target items (changes ++ [observedChange P item actions])
          (if (item.get "address").str? = some target then
            some (changeOf item, (observedChange P item actions).changedAttributePaths)
          else found) = .ok (changes', found') := by
  unfold observeChanges at h
  obtain ⟨change, hchange, h⟩ := except_bind_eq_ok.mp h
  obtain rfl := sectionOr_change hchange
  obtain ⟨actions, hactions, h⟩ := except_bind_eq_ok.mp h
  split at h
  · rename_i hnoop
    exact .inl ⟨⟨actions, hactions, hnoop⟩, h⟩
  · exact .inr ⟨actions, hactions, h⟩

/-- The loop only appends to the changes. -/
theorem observeChanges_begun {P : Platform} {target : String} {items : List Json}
    {changes changes' : List ObservedChange} {found found' : Option (Document × List String)}
    (h : observeChanges P target items changes found = .ok (changes', found')) :
    changes <+: changes' := by
  induction items generalizing changes found with
  | nil =>
    cases h
    exact List.prefix_rfl
  | cons first items ih =>
    cases first with
    | obj item =>
      rcases observeChanges_obj h with ⟨-, h⟩ | ⟨actions, -, h⟩
      · exact ih h
      · exact (List.prefix_append _ _).trans (ih h)
    | _ => exact ih h

/-- Where the loop adds nothing, every resource change is a no-op. -/
theorem observeChanges_none {P : Platform} {target : String} {items : List Json}
    {changes : List ObservedChange} {found found' : Option (Document × List String)}
    (h : observeChanges P target items changes found = .ok (changes, found')) :
    found' = found ∧ ∀ item ∈ items.filterMap Json.obj?, ReadsOnly "no-op" item := by
  induction items generalizing found with
  | nil =>
    cases h
    exact ⟨rfl, by simp⟩
  | cons first items ih =>
    cases first with
    | obj item =>
      rcases observeChanges_obj h with ⟨hnoop, h⟩ | ⟨actions, -, h⟩
      · obtain ⟨hfound, hrest⟩ := ih h
        refine ⟨hfound, ?_⟩
        rw [objects_cons]
        exact List.forall_mem_cons.mpr ⟨hnoop, hrest⟩
      · have hlength := (observeChanges_begun h).length_le
        simp at hlength
    | _ => exact ih h

/-- Where the loop adds one change, the others are no-ops. -/
theorem observeChanges_one {P : Platform} {target : String} {items : List Json}
    {change : ObservedChange} {found' : Option (Document × List String)}
    (h : observeChanges P target items [] none = .ok ([change], found')) :
    ∃ earlier item later actions, items.filterMap Json.obj? = earlier ++ item :: later ∧
      (∀ other ∈ earlier ++ later, ReadsOnly "no-op" other) ∧
      itemsOr (actionsOf item) = .ok actions ∧ change = observedChange P item actions ∧
      found' = if (item.get "address").str? = some target then
        some (changeOf item, change.changedAttributePaths) else none := by
  induction items with
  | nil => cases h
  | cons first items ih =>
    cases first with
    | obj item =>
      rw [objects_cons]
      rcases observeChanges_obj h with ⟨hnoop, h⟩ | ⟨actions, hactions, h⟩
      · obtain ⟨earlier, item', later, actions, hitems, hothers, hrest⟩ := ih h
        refine ⟨item :: earlier, item', later, actions, by rw [hitems]; rfl, ?_, hrest⟩
        exact List.forall_mem_cons.mpr ⟨hnoop, hothers⟩
      · obtain ⟨rest, hrest⟩ := observeChanges_begun h
        simp only [List.nil_append, List.cons_append, List.cons.injEq] at hrest
        obtain ⟨rfl, rfl⟩ := hrest
        obtain ⟨hfound, hlater⟩ := observeChanges_none h
        exact ⟨[], item, items.filterMap Json.obj?, actions, rfl, hlater, hactions, rfl, hfound⟩
    | _ => exact ih h

/-- A value is `True` where it is the boolean. -/
theorem isTrue_iff {value : Json} : value.isTrue = true ↔ value = .bool true := by
  cases value <;> simp [Json.isTrue]

/-- A value is `False` where it is the boolean. -/
theorem isFalse_iff {value : Json} : value.isFalse = true ↔ value = .bool false := by
  cases value <;> simp [Json.isFalse]

/-- Values that differ only loosely from being the same outside a path, and have no clash, are
the same outside it. -/
theorem sameOutside_of_loosen {a b : Json} {allowed : JsonPath}
    (h : SameOutside allowed a.loosen b.loosen) (hclash : ¬Clash a b) :
    SameOutside allowed a b := by
  intro path hpath
  have hkinds := h path hpath
  rw [kindAt_loosen, kindAt_loosen] at hkinds
  cases hx : a.kindAt path with
  | none =>
    rw [hx, Option.map_none] at hkinds
    exact (Option.map_eq_none_iff.mp hkinds.symm).symm
  | some x =>
    rw [hx, Option.map_some] at hkinds
    obtain ⟨y, hy, hxy⟩ := Option.map_eq_some_iff.mp hkinds.symm
    rw [hy]
    by_contra hne
    exact hclash ⟨path, x, y, hx, hy, fun heq => hne (by rw [heq]), hxy.symm⟩

/-- Where one path under a key has changed, the objects are loosely the same under the others. -/
theorem loosely_others {before after : Document} {name path parent : String}
    (h : changedPaths parent (.obj before) (.obj after) = [path])
    (hname : pathsAt parent name before after ≠ []) (step : PathStep) (hstep : step ≠ .key name) :
    SameOption ((Json.obj before).loosen.child? step) ((Json.obj after).loosen.child? step) := by
  cases step with
  | index i => simp [Json.loosen, Json.child?, SameOption]
  | key other =>
    have hother := (one_changed_key h hname).2 other fun heq => hstep (by rw [heq])
    rw [child?_loosen, child?_loosen]
    show SameOption ((before.lookup other).map Json.loosen) ((after.lookup other).map Json.loosen)
    unfold pathsAt at hother
    cases hbefore : before.lookup other with
    | none =>
      cases hafter : after.lookup other with
      | none => exact trivial
      | some found => simp [hbefore, hafter] at hother
    | some value =>
      cases hafter : after.lookup other with
      | none => simp [hbefore, hafter] at hother
      | some found =>
        rw [hbefore, hafter] at hother
        exact (changedPaths_eq_nil value _ found).mp hother

/-- Where one path has changed and a key has different values, the objects are loosely the same
outside that key. -/
theorem loosely_outside_key {before after : Document} {name path parent : String}
    (h : changedPaths parent (.obj before) (.obj after) = [path])
    (hname : pathsAt parent name before after ≠ []) :
    SameOutside [.key name] (Json.obj before).loosen (Json.obj after).loosen :=
  sameOutside_step.mpr ⟨rfl, loosely_others h hname⟩

/-- A vulnerable status is one of two texts. -/
theorem loosely_vulnerable {status : Json}
    (h : searchSet ["Disabled", "Suspended"] status = .ok true) :
    status = .str "Disabled" ∨ status = .str "Suspended" := by
  unfold searchSet at h
  split at h
  · cases h
  · cases h
  · have hmem := Except.ok.inj h
    simpa using hmem
  · cases h

/-- Where the one path that has changed is the status of a bucket's versioning, the rest is
loosely the same. -/
theorem loosely_outside_status {before after held wanted : Document} {path status : String}
    (h : changedPaths "" (.obj before) (.obj after) = [path])
    (hbefore : before.lookup "versioning_configuration" = some (.arr [.obj held]))
    (hafter : after.lookup "versioning_configuration" = some (.arr [.obj wanted]))
    (hheld : held.lookup "status" = some (.str status))
    (hwanted : wanted.lookup "status" = some (.str "Enabled")) (hne : status ≠ "Enabled") :
    SameOutside statusPath (Json.obj before).loosen (Json.obj after).loosen := by
  have hstatus : pathsAt "versioning_configuration[0]" "status" held wanted ≠ [] := by
    simp [pathsAt, hheld, hwanted, changedPaths, looselyEqual, hne]
  have hitem : pathsAt "" "versioning_configuration" before after =
      changedPaths "versioning_configuration[0]" (.obj held) (.obj wanted) := by
    have hindex : "versioning_configuration" ++ "[" ++ toString 0 ++ "]" =
        "versioning_configuration[0]" := by decide
    unfold pathsAt
    rw [hbefore, hafter]
    show changedPaths "versioning_configuration" (.arr [.obj held]) (.arr [.obj wanted]) = _
    have hlength : ¬[Json.obj held].length ≠ [Json.obj wanted].length := by simp
    conv_lhs => rw [changedPaths, if_neg hlength, changedItems, hindex]
    exact List.append_nil _
  have hchanged : pathsAt "" "versioning_configuration" before after ≠ [] := by
    rw [hitem]
    exact fun hnil => hstatus (changedPaths_obj_eq_nil.mp hnil "status")
  have hone := (one_changed_key h hchanged).1
  rw [hitem] at hone
  have hinner := loosely_outside_key hone hstatus
  have hlist : SameOutside [.index 0, .key "status"] (Json.arr [.obj held]).loosen
      (Json.arr [.obj wanted]).loosen := by
    refine hinner.under (by simp [Json.loosen, loosenItems, Json.child?])
      (by simp [Json.loosen, loosenItems, Json.child?])
      (by simp [Json.loosen, loosenItems, Json.kind]) fun other hother => ?_
    cases other with
    | key name => simp [Json.loosen, Json.child?, SameOption]
    | index i =>
      cases i with
      | zero => exact absurd rfl hother
      | succ i => simp [Json.loosen, loosenItems, Json.child?, SameOption]
  have hold : (Json.obj before).loosen.child? (.key "versioning_configuration") =
      some (Json.arr [.obj held]).loosen := by
    rw [child?_loosen]
    exact congrArg (Option.map Json.loosen) hbefore
  have hnew : (Json.obj after).loosen.child? (.key "versioning_configuration") =
      some (Json.arr [.obj wanted]).loosen := by
    rw [child?_loosen]
    exact congrArg (Option.map Json.loosen) hafter
  exact hlist.under hold hnew rfl (loosely_others h hchanged)

/-- An accepted change is a reviewed update, unless there is a clash. -/
theorem allowedTargetChange_reviewed {target : String} {change : Document}
    (h : allowedTargetChange target change
      (changedPaths "" (change.get "before") (change.get "after")) = .ok true)
    (hclash : ¬Clash (change.get "before") (change.get "after")) :
    ReviewedUpdate target (change.get "before") (change.get "after") := by
  unfold allowedTargetChange at h
  split at h
  · rename_i before after hbefore hafter
    rw [hbefore, hafter] at h hclash ⊢
    split at h
    · rename_i htype
      have hall := Except.ok.inj h
      simp only [Bool.and_eq_true, decide_eq_true_eq] at hall
      obtain ⟨⟨hpaths, hold⟩, hnew⟩ := hall
      have hold' := get_eq_some (isTrue_iff.mp hold) (by simp)
      have hnew' := get_eq_some (isFalse_iff.mp hnew) (by simp)
      refine .storageAccount htype ?_ ?_ (sameOutside_of_loosen (loosely_outside_key hpaths ?_)
        hclash)
      · simp [kindAt_cons, Json.child?, hold', Json.kind]
      · simp [kindAt_cons, Json.child?, hnew', Json.kind]
      · simp [pathsAt, hold', hnew', changedPaths, looselyEqual, comparedNumber?]
    · split at h
      · rename_i htype
        split at h
        · cases h
        · rename_i hpaths
          split at h
          · rename_i held hheld
            obtain ⟨vulnerable, hvulnerable, h⟩ := except_bind_eq_ok.mp h
            have hall := Except.ok.inj h
            simp only [Bool.and_eq_true] at hall
            obtain ⟨rfl, hwanted⟩ := hall
            split at hwanted
            · rename_i wanted hafter'
              have hbefore' := get_eq_some hheld (by simp)
              have hafter'' := get_eq_some hafter' (by simp)
              have hwanted' := get_eq_some (str?_eq_some.mp (of_decide_eq_true hwanted)) (by simp)
              have hstatus : ∃ status, held.lookup "status" = some (.str status) ∧
                  (status = "Disabled" ∨ status = "Suspended") := by
                rcases loosely_vulnerable hvulnerable with hstatus | hstatus
                · exact ⟨"Disabled", get_eq_some hstatus (by simp), .inl rfl⟩
                · exact ⟨"Suspended", get_eq_some hstatus (by simp), .inr rfl⟩
              obtain ⟨status, hheld', hstatus⟩ := hstatus
              refine .bucketVersioning htype ?_ ?_ (sameOutside_of_loosen
                (loosely_outside_status (not_not.mp hpaths) hbefore' hafter'' hheld' hwanted' ?_)
                hclash)
              · rcases hstatus with rfl | rfl
                · exact .inl (by simp [statusPath, kindAt_cons, Json.child?, hbefore', hheld',
                    Json.kind])
                · exact .inr (by simp [statusPath, kindAt_cons, Json.child?, hbefore', hheld',
                    Json.kind])
              · simp [statusPath, kindAt_cons, Json.child?, hafter'', hwanted', Json.kind]
              · rcases hstatus with rfl | rfl
                · decide
                · decide
            · cases hwanted
          · cases h
      · cases h
  · cases h

/-- A reviewed update has no clash. -/
theorem ReviewedUpdate.no_clash {target : String} {before after : Json}
    (h : ReviewedUpdate target before after) : ¬Clash before after := by
  rintro ⟨path, x, y, hx, hy, hne, hloose⟩
  -- a leaf has no kinds below it, so that a clash inside the attribute is at the attribute
  have hleaf : ∀ {value : Json} {at' : JsonPath} {rest : JsonPath} {kind found : JsonKind},
      value.kindAt at' = some kind → (∀ n, kind ≠ .arr n) → kind ≠ .obj →
      value.kindAt (at' ++ rest) = some found → rest = [] := by
    intro value at' rest kind found hkind harr hobj hfound
    rw [kindAt_append] at hfound
    obtain ⟨child, hchild, hfound⟩ := Option.bind_eq_some_iff.mp hfound
    unfold Json.kindAt at hkind
    rw [hchild, Option.map_some, Option.some.injEq] at hkind
    cases rest with
    | nil => rfl
    | cons step rest =>
      rw [kindAt_cons] at hfound
      cases child with
      | arr items => exact absurd hkind.symm (harr items.length)
      | obj entries => exact absurd hkind.symm hobj
      | _ => cases step <;> cases hfound
  cases h with
  | storageAccount htype hbefore hafter hrest =>
    by_cases hpath : [PathStep.key "public_network_access_enabled"] <+: path
    · obtain ⟨rest, rfl⟩ := hpath
      obtain rfl := hleaf hbefore (by simp) (by simp) hx
      rw [List.append_nil, hbefore] at hx
      rw [List.append_nil, hafter] at hy
      obtain rfl := Option.some.inj hx
      obtain rfl := Option.some.inj hy
      simp [JsonKind.loosen] at hloose
    · rw [hrest path hpath, hy] at hx
      exact hne (Option.some.inj hx).symm
  | bucketVersioning htype hbefore hafter hrest =>
    by_cases hpath : statusPath <+: path
    · obtain ⟨rest, rfl⟩ := hpath
      obtain rfl := hleaf hafter (by simp) (by simp) hy
      rw [List.append_nil, hafter] at hy
      obtain rfl := Option.some.inj hy
      rw [List.append_nil] at hx
      rcases hbefore with hbefore | hbefore
      · rw [hbefore] at hx
        obtain rfl := Option.some.inj hx
        simp [JsonKind.loosen] at hloose
      · rw [hbefore] at hx
        obtain rfl := Option.some.inj hx
        simp [JsonKind.loosen] at hloose
    · rw [hrest path hpath, hy] at hx
      exact hne (Option.some.inj hx).symm

/-- A list of texts holds no objects. -/
theorem filterMap_str {α : Type} (f : α → String) (values : List α) :
    (values.map fun value => Json.str (f value)).filterMap Json.obj? = [] := by
  induction values with
  | nil => rfl
  | cons value values ih => simp [Json.obj?]

/-- The loop goes through the resource changes. -/
theorem resourceChanges_eq {document : Json} {entries : Document} {items : List Json}
    (hentries : asDict document = .ok entries) (hitems : planItems entries = .ok items) :
    items.filterMap Json.obj? = resourceChanges document := by
  unfold asDict at hentries
  split at hentries
  · cases hentries
    unfold planItems at hitems
    unfold resourceChanges Json.child?
    dsimp only
    cases hfound : entries.lookup "resource_changes" with
    | none =>
      rw [hfound] at hitems
      cases hitems
      rfl
    | some value =>
      rw [hfound] at hitems
      unfold iterated at hitems
      dsimp only at hitems
      split at hitems
      · cases hitems
        rfl
      · cases hitems
        exact filterMap_str Prod.fst _
      · cases hitems
        exact filterMap_str (fun c => String.ofList [c]) _
      · cases hitems
  · cases hentries

/-- What a plan that passes shows. -/
theorem documentScope_passed {R : TerraformRunner} {target : String} {document : Json}
    {check : TerraformCheck} (h : R.documentScope target document = .ok check)
    (hpassed : check.passed = true) :
    ∃ earlier item later, resourceChanges document = earlier ++ item :: later ∧
      (∀ other ∈ earlier ++ later, ReadsOnly "no-op" other) ∧ ReadsOnly "update" item ∧
      item.get "address" = .str target ∧
      allowedTargetChange target (changeOf item) (changedPaths ""
        ((changeOf item).get "before") ((changeOf item).get "after")) = .ok true := by
  unfold TerraformRunner.documentScope at h
  obtain ⟨entries, hentries, h⟩ := except_bind_eq_ok.mp h
  obtain ⟨items, hitems, h⟩ := except_bind_eq_ok.mp h
  obtain ⟨⟨changes, found⟩, hobserved, h⟩ := except_bind_eq_ok.mp h
  obtain ⟨allowed, hallowed, h⟩ := except_bind_eq_ok.mp h
  cases h
  have hboth : (structuralScope target changes && allowed) = true := by
    by_contra hneither
    simp [TerraformCheck.passed, hneither] at hpassed
  obtain ⟨hstructural, rfl⟩ := (Bool.and_eq_true _ _).mp hboth
  rw [hstructural] at hallowed
  unfold structuralScope at hstructural
  split at hstructural
  · rename_i change
    obtain ⟨haddress, hupdate⟩ := (Bool.and_eq_true _ _).mp hstructural
    obtain ⟨earlier, item, later, actions, hobjects, hothers, hactions, rfl, hfound⟩ :=
      observeChanges_one hobserved
    have htarget : item.get "address" = .str target := by
      by_contra hother
      rw [if_neg fun heq => hother (str?_eq_some.mp heq)] at hfound
      rw [hfound] at hallowed
      cases hallowed
    rw [if_pos (str?_eq_some.mpr htarget)] at hfound
    rw [hfound] at hallowed
    have hchanges := resourceChanges_eq hentries hitems
    exact ⟨earlier, item, later, hchanges ▸ hobjects, hothers, ⟨actions, hactions, hupdate⟩,
      htarget, hallowed⟩
  · cases hstructural

/-- The one change of a plan that passes is the reviewed one exactly where the plan is plain. -/
theorem onlyReviewedChange_iff {R : TerraformRunner} {target : String} {document : Json}
    {check : TerraformCheck} (h : R.documentScope target document = .ok check)
    (hpassed : check.passed = true) : OnlyReviewedChange target document ↔ PlainPlan document := by
  constructor
  · rintro ⟨earlier, item, later, hchanges, hothers, hupdate, -, hreviewed⟩ other hother
    rw [hchanges, List.mem_append, List.mem_cons] at hother
    have hnoop : other ∈ earlier ++ later → (∀ entries, actionsOf other ≠ .obj entries) ∧
        (actionsOf other = .arr [.str "update"] →
          ¬Clash ((changeOf other).get "before") ((changeOf other).get "after")) := by
      intro hmem
      rw [hothers other hmem]
      simp
    rcases hother with hearlier | rfl | hlater
    · exact hnoop (List.mem_append_left _ hearlier)
    · refine ⟨?_, fun _ => hreviewed.no_clash⟩
      rw [hupdate]
      simp
    · exact hnoop (List.mem_append_right _ hlater)
  · intro hplain
    obtain ⟨earlier, item, later, hchanges, hothers, hupdate, htarget, hallowed⟩ :=
      documentScope_passed h hpassed
    have hitem : item ∈ resourceChanges document := by simp [hchanges]
    have hactions := hupdate.actions (by decide) (hplain item hitem).1
    refine ⟨earlier, item, later, hchanges, fun other hother => ?_, hactions, htarget,
      allowedTargetChange_reviewed hallowed ((hplain item hitem).2 hactions)⟩
    have hmem : other ∈ resourceChanges document := by
      rw [hchanges]
      rcases List.mem_append.mp hother with hearlier | hlater
      · exact List.mem_append_left _ hearlier
      · exact List.mem_append_right _ (List.mem_cons_of_mem _ hlater)
    exact (hothers other hother).actions (by decide) (hplain other hmem).1

/-- A plan that passes was read, and its one change is the reviewed one exactly where the plan
is plain. Values are equal exactly where no path has changed and there is no clash. -/
theorem plan_gate_exact (R : TerraformRunner) (target : String) :
    (∀ inspection check, R.planScope target inspection = .ok check → check.passed = true →
      ∃ stdout stderr document, inspection = .completed 0 stdout stderr ∧
        R.platform.jsonLoads stdout = some document ∧
        (OnlyReviewedChange target document ↔ PlainPlan document)) ∧
    ∀ a b : Json, a.Same b ↔ changedPaths "" a b = [] ∧ ¬Clash a b := by
  refine ⟨fun inspection check h hpassed => ?_, fun a b => same_iff_changedPaths⟩
  unfold TerraformRunner.planScope at h
  split at h
  · cases h
    simp [TerraformCheck.passed] at hpassed
  · cases h
    simp [TerraformCheck.passed] at hpassed
  · rename_i returncode stdout stderr
    split at h
    · rename_i hcode
      cases h
      exact absurd (by simpa [TerraformCheck.passed] using hpassed) hcode
    · rename_i hcode
      obtain rfl := not_not.mp hcode
      split at h
      · cases h
        simp [TerraformCheck.passed] at hpassed
      · rename_i document hdocument
        exact ⟨stdout, stderr, document, rfl, hdocument, onlyReviewedChange_iff h hpassed⟩

end gate

section samples

/-- A plan that disables public access to an account and sets another attribute. -/
def retentionPlan (retentionBefore retentionAfter : Json) : Json :=
  .obj [("resource_changes", .arr [.obj [("address", .str "azurerm_storage_account.logs"),
    ("change", .obj [("actions", .ofStrings ["update"]),
      ("before", .obj [("public_network_access_enabled", .bool true),
        ("retention", retentionBefore)]),
      ("after", .obj [("public_network_access_enabled", .bool false),
        ("retention", retentionAfter)])])]])]

/-- A runner that reads one of two plans. -/
def retentionRunner : TerraformRunner where
  platform := { samplePlatform with
    jsonLoads := fun text => some (retentionPlan (.int 1) (if text = "plain" then .int 1
      else .bool true)) }
  text := asciiTextLibrary
  executable := "terraform"
  jsonError _ := "Expecting value: line 1 column 1 (char 0)"

/-- The plan that leaves the other attribute alone is the reviewed change. -/
theorem plain_plan_reviewed :
    ∃ check, retentionRunner.planScope "azurerm_storage_account.logs" (.completed 0 "plain" "") =
      .ok check ∧ check.passed = true ∧
      OnlyReviewedChange "azurerm_storage_account.logs" (retentionPlan (.int 1) (.int 1)) := by
  have hpass : (retentionRunner.planScope "azurerm_storage_account.logs"
      (.completed 0 "plain" "")).toOption.any TerraformCheck.passed = true := by
    decide +kernel
  obtain ⟨check, hcheck, hpassed⟩ := exists_of_any hpass
  obtain ⟨stdout, stderr, document, hread, hdocument, hiff⟩ :=
    (plan_gate_exact retentionRunner "azurerm_storage_account.logs").1 _ _ hcheck hpassed
  cases hread
  obtain rfl : retentionPlan (.int 1) (.int 1) = document := Option.some.inj hdocument
  refine ⟨check, hcheck, hpassed, hiff.mpr fun item hitem => ?_⟩
  obtain rfl := List.mem_singleton.mp hitem
  have hrest : SameOutside [.key "public_network_access_enabled"]
      (.obj [("public_network_access_enabled", .bool true), ("retention", .int 1)])
      (.obj [("public_network_access_enabled", .bool false), ("retention", .int 1)]) := by
    refine sameOutside_step.mpr ⟨rfl, fun other hother => ?_⟩
    cases other with
    | index i => exact trivial
    | key name =>
      have hname : (name == "public_network_access_enabled") = false := by
        simpa using fun heq : name = _ => hother (by rw [heq])
      simp only [Json.child?, List.lookup_cons, hname]
      exact SameOption.refl _
  have hreviewed : ReviewedUpdate "azurerm_storage_account.logs" _ _ :=
    .storageAccount (by decide) rfl rfl hrest
  exact ⟨fun entries => Json.noConfusion, fun _ => hreviewed.no_clash⟩

/-- A plan passes that also sets a number to a boolean, and no path counts as changed where a
number is set to the boolean it is equal to. -/
theorem clashing_plan_passes :
    (∃ check, retentionRunner.planScope "azurerm_storage_account.logs" (.completed 0 "clash" "") =
        .ok check ∧ check.passed = true ∧
      retentionRunner.platform.jsonLoads "clash" = some (retentionPlan (.int 1) (.bool true)) ∧
      ¬OnlyReviewedChange "azurerm_storage_account.logs" (retentionPlan (.int 1) (.bool true))) ∧
    changedPaths "" (.int 1) (.bool true) = [] ∧ ¬(Json.int 1).Same (.bool true) := by
  have hpass : (retentionRunner.planScope "azurerm_storage_account.logs"
      (.completed 0 "clash" "")).toOption.any TerraformCheck.passed = true := by
    decide +kernel
  obtain ⟨check, hcheck, hpassed⟩ := exists_of_any hpass
  refine ⟨⟨check, hcheck, hpassed, rfl, ?_⟩, by decide +kernel, fun hsame => ?_⟩
  · rintro ⟨earlier, item, later, hchanges, -, -, -, hreviewed⟩
    have hitem : item ∈ resourceChanges (retentionPlan (.int 1) (.bool true)) := by
      rw [hchanges]
      simp
    obtain rfl := List.mem_singleton.mp hitem
    refine hreviewed.no_clash ⟨[.key "retention"], .number 1, .bool true, ?_, rfl, ?_, ?_⟩
    · show some (JsonKind.number ((1 : ℤ) : ℚ)) = some (.number 1)
      simp
    · simp
    · simp [JsonKind.loosen]
  · have hroot := hsame []
    simp [Json.kind] at hroot

end samples

end ElCapitan
