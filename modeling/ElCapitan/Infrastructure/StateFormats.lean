import ElCapitan.Infrastructure.TerraformState

/-!
# The two formats of a Terraform state

A state is a tree of modules with the objects of their resources. A raw state lists its resources
flat, and `terraform show -json` writes it as a tree of modules with ready-made addresses. Both
name the same owner where no data resource has the identity and the addresses are written alike.
-/

namespace ElCapitan

/-- The key of an instance: none, of `count` or of `for_each`. -/
inductive InstanceKey where
  | none
  | count (n : ℕ)
  | each (key : String)

/-- An object that a state tracks: the key of its instance and its attributes. -/
structure TrackedObject where
  key : InstanceKey
  attributes : Document

/-- A resource of a state. A resource without keys has several objects while a replaced one is
still to be destroyed. -/
structure TrackedResource where
  managed : Bool
  resourceType : String
  resourceName : String
  objects : List TrackedObject

/-- A module instance of a state; the address of the root is empty. -/
inductive TrackedModule where
  | mk (address : String) (resources : List TrackedResource) (children : List TrackedModule)

/-- An object with its place: its module, its resource and its number there. -/
structure LocatedObject where
  moduleAddress : String
  resource : TrackedResource
  index : ℕ
  object : TrackedObject

mutual

/-- The resources of a module and the modules below it, with the addresses of their modules. -/
def TrackedModule.located : TrackedModule → List (String × TrackedResource)
  | .mk address resources children =>
    resources.map (fun resource => (address, resource)) ++ locatedAll children

/-- The resources of modules. -/
def locatedAll : List TrackedModule → List (String × TrackedResource)
  | [] => []
  | child :: children => child.located ++ locatedAll children

end

/-- The resources of a module come before those of its children. -/
theorem located_mk (address : String) (resources : List TrackedResource)
    (children : List TrackedModule) : (TrackedModule.mk address resources children).located =
      resources.map (fun resource => (address, resource)) ++ locatedAll children :=
  rfl

/-- The resources of the first module come before those of the others. -/
theorem locatedAll_cons (child : TrackedModule) (children : List TrackedModule) :
    locatedAll (child :: children) = child.located ++ locatedAll children :=
  rfl

/-- The objects of a resource. -/
def objectsOf (address : String) (resource : TrackedResource) : List LocatedObject :=
  resource.objects.zipIdx.map fun object => ⟨address, resource, object.2, object.1⟩

/-- The objects of a state. -/
def TrackedModule.objects (tree : TrackedModule) : List LocatedObject :=
  tree.located.flatMap fun place => objectsOf place.1 place.2

section addresses

/-- The key in JSON. -/
def InstanceKey.json : InstanceKey → Option Json
  | .none => Option.none
  | .count n => some (.int n)
  | .each key => some (.str key)

/-- `managed` or `data`. -/
def TrackedResource.mode (resource : TrackedResource) : String :=
  if resource.managed then "managed" else "data"

/-- The address of a module, before that of a resource in it. -/
def moduleDot (address : String) : String := if address = "" then "" else address ++ "."

variable (quoteKey : String → String)

/-- The key in an address, with Terraform's way to quote a text. -/
def InstanceKey.suffix : InstanceKey → String
  | .none => ""
  | .count n => "[" ++ toString (n : ℤ) ++ "]"
  | .each key => "[" ++ quoteKey key ++ "]"

/-- The address that Terraform gives to an object. -/
def LocatedObject.terraformAddress (located : LocatedObject) : String :=
  moduleDot located.moduleAddress ++ (if located.resource.managed then "" else "data.") ++
    located.resource.resourceType ++ "." ++ located.resource.resourceName ++
    located.object.key.suffix quoteKey

/-- The address that the linker makes up for an object of a raw state. -/
def LocatedObject.rawAddress (located : LocatedObject) : String :=
  moduleDot located.moduleAddress ++ located.resource.resourceType ++ "." ++
    located.resource.resourceName ++
    match located.object.key with
    | .none =>
      if 1 < located.resource.objects.length then "[" ++ toString (located.index : ℤ) ++ "]"
      else ""
    | .count n => "[" ++ toString (n : ℤ) ++ "]"
    | .each key => "[" ++ dumpsText key ++ "]"

end addresses

section formats

/-- An object in the `instances` of a raw state. -/
def RawObject (object : TrackedObject) (item : Json) : Prop :=
  ∃ entries : Document, item = .obj entries ∧
    entries.lookup "index_key" = object.key.json ∧
    entries.lookup "attributes" = some (.obj object.attributes)

/-- A resource in the `resources` of a raw state. -/
def RawResource (place : String × TrackedResource) (item : Json) : Prop :=
  ∃ (entries : Document) (items : List Json), item = .obj entries ∧
    entries.lookup "mode" = some (.str place.2.mode) ∧
    entries.lookup "module" = (if place.1 = "" then none else some (.str place.1)) ∧
    entries.lookup "type" = some (.str place.2.resourceType) ∧
    entries.lookup "name" = some (.str place.2.resourceName) ∧
    entries.lookup "instances" = some (.arr items) ∧
    List.Forall₂ RawObject place.2.objects items

/-- A raw state, version 4: its resources in any order. -/
def RawState (tree : TrackedModule) (document : Document) : Prop :=
  document.lookup "values" = none ∧
  ∃ items places, document.lookup "resources" = some (.arr items) ∧
    places.Perm tree.located ∧ List.Forall₂ RawResource places items

variable (quoteKey : String → String)

/-- An object in the `resources` of a module that is shown. -/
def ShownObject (located : LocatedObject) (item : Json) : Prop :=
  ∃ entries : Document, item = .obj entries ∧
    entries.lookup "address" = some (.str (located.terraformAddress quoteKey)) ∧
    entries.lookup "mode" = some (.str located.resource.mode) ∧
    entries.lookup "type" = some (.str located.resource.resourceType) ∧
    entries.lookup "name" = some (.str located.resource.resourceName) ∧
    entries.lookup "values" = some (.obj located.object.attributes)

/-- An array under a key, which may be absent when there is nothing in it. -/
def ListedUnder (entries : Document) (name : String) (items : List Json) : Prop :=
  entries.lookup name = some (.arr items) ∨ (items = [] ∧ entries.lookup name = none)

mutual

/-- A module that is shown, with the modules below it. -/
def ShownModule : TrackedModule → Json → Prop
  | .mk address resources children, json => ∃ (entries : Document)
      (items below : List Json) (objects : List LocatedObject), json = .obj entries ∧
      ListedUnder entries "resources" items ∧
      objects.Perm (resources.flatMap (objectsOf address)) ∧
      List.Forall₂ (ShownObject quoteKey) objects items ∧
      ListedUnder entries "child_modules" below ∧ ShownModules children below

/-- Modules that are shown. -/
def ShownModules : List TrackedModule → List Json → Prop
  | [], [] => True
  | child :: children, json :: jsons => ShownModule child json ∧ ShownModules children jsons
  | _, _ => False

end

/-- The answer of `terraform show -json`; of an empty state it has no values. -/
def ShownState (tree : TrackedModule) (document : Document) : Prop :=
  document.lookup "resources" = none ∧
  ((document.lookup "values" = none ∧ tree.objects = []) ∨
    ∃ values root : Document, document.lookup "values" = some (.obj values) ∧
      values.lookup "root_module" = some (.obj root) ∧ ShownModule quoteKey tree (.obj root))

end formats

section flattening

variable {P : Platform} {quoteKey : String → String}

/-- Mapping a fallible function over items that represent values. -/
theorem mapM_of_forall₂ {α β γ : Type} {R : α → β → Prop} {f : β → Except PyError γ} {g : α → γ}
    (hf : ∀ a b, R a b → f b = .ok (g a)) {values : List α} {items : List β}
    (h : List.Forall₂ R values items) : items.mapM f = .ok (values.map g) := by
  induction h with
  | nil => rfl
  | cons hvalue _ ih =>
    rw [List.mapM_cons, hf _ _ hvalue, ih]
    rfl

/-- The entry of `_state_resources` for an object of a raw state. -/
def LocatedObject.rawEntry (located : LocatedObject) : FoundResource :=
  { address := located.rawAddress, resourceType := located.resource.resourceType,
    resourceName := located.resource.resourceName, values := .obj located.object.attributes }

variable (quoteKey) in
/-- The entry of `_state_resources` for an object that is shown. -/
def LocatedObject.shownEntry (located : LocatedObject) : FoundResource :=
  { address := located.terraformAddress quoteKey,
    resourceType := located.resource.resourceType,
    resourceName := located.resource.resourceName, values := .obj located.object.attributes }

/-- A stated text is read as it is. -/
theorem statedText_of_lookup {entries : Document} {name text : String}
    (h : entries.lookup name = some (.str text)) : statedText P entries name = text := by
  unfold statedText Document.get
  rw [h]
  by_cases htext : text = ""
  · simp [Json.truthy, htext]
  · simp [Json.truthy, htext, Platform.str]

/-- A stated object is read as it is. -/
theorem objectOr_of_lookup {entries values : Document} {name : String}
    (h : entries.lookup name = some (.obj values)) : objectOr entries name = .obj values := by
  unfold objectOr Document.get
  rw [h]
  cases values with
  | nil => rfl
  | cons => rfl

/-- A stated list is read as it is. -/
theorem itemsIn_of_lookup {entries : Document} {name : String} {items : List Json}
    (h : entries.lookup name = some (.arr items)) : itemsIn entries name = .ok items := by
  simp [itemsIn, h, iterated]

/-- A list under a name, or an absent one, is read. -/
theorem itemsIn_of_listed {entries : Document} {name : String} {items : List Json}
    (h : ListedUnder entries name items) : itemsIn entries name = .ok items := by
  rcases h with h | ⟨rfl, h⟩
  · exact itemsIn_of_lookup h
  · simp [itemsIn, h]

/-- An object that is shown is found under its ready-made address. -/
theorem moduleResource_shown {located : LocatedObject} {item : Json}
    (h : ShownObject quoteKey located item) :
    moduleResource P item = .ok (located.shownEntry quoteKey) := by
  obtain ⟨entries, rfl, haddress, _, htype, hname, hvalues⟩ := h
  simp [moduleResource, asDict, LocatedObject.shownEntry, statedText_of_lookup haddress,
    statedText_of_lookup htype, statedText_of_lookup hname, objectOr_of_lookup hvalues, bind,
    Except.bind, pure, Except.pure]

/-- The children of a module are visited where they are stated. -/
theorem visitChildren_eq (entries : Document) : visitChildren P entries =
    match entries.lookup "child_modules" with
    | some value => visitItems P value
    | none => .ok [] := by
  induction entries with
  | nil => rfl
  | cons entry entries ih =>
    obtain ⟨name, value⟩ := entry
    rw [visitChildren_cons, List.lookup_cons]
    by_cases hname : name = "child_modules"
    · rw [hname, if_pos rfl, beq_self_eq_true]
    · have hbeq : ("child_modules" == name) = false :=
        beq_eq_false_iff_ne.mpr (Ne.symm hname)
      rw [if_neg hname, hbeq, ih]

/-- Listed children are visited one after another. -/
theorem visitChildren_of_listed {entries : Document} {items : List Json}
    (h : ListedUnder entries "child_modules" items) :
    visitChildren P entries = visitModules P items := by
  rw [visitChildren_eq]
  rcases h with h | ⟨rfl, h⟩
  · rw [h]
    rfl
  · rw [h]
    rfl

/-- The objects of modules. -/
def objectsBelow (children : List TrackedModule) : List LocatedObject :=
  (locatedAll children).flatMap fun place => objectsOf place.1 place.2

/-- The objects of a module come before those of its children. -/
theorem objects_mk (address : String) (resources : List TrackedResource)
    (children : List TrackedModule) : (TrackedModule.mk address resources children).objects =
      resources.flatMap (objectsOf address) ++ objectsBelow children := by
  simp [TrackedModule.objects, located_mk, objectsBelow, List.flatMap_map]

/-- The objects of the first child come before those of the others. -/
theorem objectsBelow_cons (child : TrackedModule) (children : List TrackedModule) :
    objectsBelow (child :: children) = child.objects ++ objectsBelow children := by
  simp [objectsBelow, locatedAll_cons, TrackedModule.objects]

mutual

/-- Visiting a module that is shown finds its objects. -/
theorem visitModule_shown : ∀ (tree : TrackedModule) (json : Json),
    ShownModule quoteKey tree json → ∃ found, visitModule P json = .ok found ∧
      found.Perm (tree.objects.map (LocatedObject.shownEntry quoteKey))
  | .mk address resources children, json, h => by
    obtain ⟨entries, items, below, objects, rfl, hitems, hperm, hshown, hbelow, hchildren⟩ := h
    obtain ⟨found, hfound, hfoundPerm⟩ := visitModules_shown children below hchildren
    refine ⟨objects.map (LocatedObject.shownEntry quoteKey) ++ found, ?_, ?_⟩
    · have hmapM : items.mapM (moduleResource P) =
          .ok (objects.map (LocatedObject.shownEntry quoteKey)) :=
        mapM_of_forall₂ (R := ShownObject quoteKey)
          (fun _ _ hobject => moduleResource_shown hobject) hshown
      rw [visitModule_obj, itemsIn_of_listed hitems]
      simp only [bind, Except.bind, hmapM, visitChildren_of_listed hbelow, hfound]
      rfl
    · rw [objects_mk, List.map_append]
      exact (hperm.map _).append hfoundPerm

/-- Visiting modules that are shown finds their objects. -/
theorem visitModules_shown : ∀ (children : List TrackedModule) (jsons : List Json),
    ShownModules quoteKey children jsons → ∃ found, visitModules P jsons = .ok found ∧
      found.Perm ((objectsBelow children).map (LocatedObject.shownEntry quoteKey))
  | [], [], _ => ⟨[], rfl, List.Perm.refl _⟩
  | child :: children, json :: jsons, h => by
    obtain ⟨found, hfound, hperm⟩ := visitModule_shown child json h.1
    obtain ⟨others, hothers, hothersPerm⟩ := visitModules_shown children jsons h.2
    refine ⟨found ++ others, ?_, ?_⟩
    · rw [visitModules_cons, hfound]
      simp only [bind, Except.bind, hothers]
      rfl
    · rw [objectsBelow_cons, List.map_append]
      exact hperm.append hothersPerm
  | [], _ :: _, h => h.elim
  | _ :: _, [], h => h.elim

end

/-- The entries found in a state that is shown are those of all its objects. -/
theorem stateResources_shown {tree : TrackedModule} {document : Document}
    (h : ShownState quoteKey tree document) : ∃ found,
      stateResources P document = .ok found ∧
      found.Perm (tree.objects.map (LocatedObject.shownEntry quoteKey)) := by
  obtain ⟨hresources, hshown⟩ := h
  have hraw : itemsIn document "resources" = .ok [] := by simp [itemsIn, hresources]
  have hflat (found : List FoundResource) (hfound : shownResources P document = .ok found) :
      stateResources P document = .ok found := by
    rw [stateResources, hfound]
    simp [bind, Except.bind, hraw, pure, Except.pure]
  rcases hshown with ⟨hvalues, hobjects⟩ | ⟨values, root, hvalues, hroot, hmodule⟩
  · refine ⟨[], hflat [] ?_, by simp [hobjects]⟩
    simp [shownResources, Document.get, hvalues]
  · obtain ⟨found, hfound, hperm⟩ := visitModule_shown (P := P) tree (.obj root) hmodule
    refine ⟨found, hflat found ?_, hperm⟩
    simp [shownResources, Document.get, hvalues, hroot, hfound]

/-- The base of a raw resource's address. -/
theorem baseAddress_raw {place : String × TrackedResource} {entries : Document}
    (hmodule : entries.lookup "module" = if place.1 = "" then none else some (.str place.1))
    (htype : entries.lookup "type" = some (.str place.2.resourceType))
    (hname : entries.lookup "name" = some (.str place.2.resourceName)) :
    baseAddress P entries =
      moduleDot place.1 ++ place.2.resourceType ++ "." ++ place.2.resourceName := by
  unfold baseAddress moduleDot Document.get
  simp only [hmodule, htype, hname]
  by_cases haddress : place.1 = ""
  · simp [haddress, Json.truthy, formatted, Platform.str]
  · simp [haddress, Json.truthy, formatted, Platform.str]

/-- An instance of a raw resource is found under the address made up for it. -/
theorem rawInstance_raw {place : String × TrackedResource} {entries : Document} {index : ℕ}
    {object : TrackedObject} {item : Json}
    (hbase : baseAddress P entries =
      moduleDot place.1 ++ place.2.resourceType ++ "." ++ place.2.resourceName)
    (htype : entries.lookup "type" = some (.str place.2.resourceType))
    (hname : entries.lookup "name" = some (.str place.2.resourceName))
    (hobject : RawObject object item) :
    rawInstance P entries place.2.objects.length index item =
      .ok (LocatedObject.rawEntry ⟨place.1, place.2, index, object⟩) := by
  obtain ⟨fields, rfl, hkey, hattributes⟩ := hobject
  have haddress : (if (fields.lookup "index_key").isSome ∨ 1 < place.2.objects.length then
      baseAddress P entries ++ indexSuffix P ((fields.lookup "index_key").getD (.int index))
      else baseAddress P entries) =
      (⟨place.1, place.2, index, object⟩ : LocatedObject).rawAddress := by
    rw [hbase, hkey]
    unfold LocatedObject.rawAddress
    cases object.key with
    | none =>
      by_cases hcount : 1 < place.2.objects.length
      · simp [InstanceKey.json, hcount, indexSuffix, formatted, String.append_assoc]
      · simp [InstanceKey.json, hcount]
    | count n => simp [InstanceKey.json, indexSuffix, formatted, String.append_assoc]
    | each key => simp [InstanceKey.json, indexSuffix, String.append_assoc]
  unfold rawInstance LocatedObject.rawEntry
  simp only [asDict, bind, Except.bind, pure, Except.pure, haddress,
    statedText_of_lookup htype, statedText_of_lookup hname, objectOr_of_lookup hattributes]

/-- The instances of a raw resource are found one after another. -/
theorem rawInstances_raw {place : String × TrackedResource} {entries : Document}
    (hbase : baseAddress P entries =
      moduleDot place.1 ++ place.2.resourceType ++ "." ++ place.2.resourceName)
    (htype : entries.lookup "type" = some (.str place.2.resourceType))
    (hname : entries.lookup "name" = some (.str place.2.resourceName))
    {objects : List TrackedObject} {items : List Json}
    (hobjects : List.Forall₂ RawObject objects items) (index : ℕ) :
    rawInstances P entries place.2.objects.length index items =
      .ok ((objects.zipIdx index).map fun object =>
        LocatedObject.rawEntry ⟨place.1, place.2, object.2, object.1⟩) := by
  induction hobjects generalizing index with
  | nil => rfl
  | cons hobject _ ih =>
    rw [rawInstances, rawInstance_raw hbase htype hname hobject, ih]
    rfl

/-- The entries found for a resource of a raw state. -/
def rawEntries (place : String × TrackedResource) : List FoundResource :=
  if place.2.managed then (objectsOf place.1 place.2).map LocatedObject.rawEntry else []

/-- A resource of a raw state is read as its entries. -/
theorem rawResource_raw {place : String × TrackedResource} {item : Json}
    (h : RawResource place item) : rawResource P item = .ok (rawEntries place) := by
  obtain ⟨entries, items, rfl, hmode, hmodule, htype, hname, hinstances, hobjects⟩ := h
  unfold rawResource rawEntries
  have hmanaged : isManaged entries = place.2.managed := by
    unfold isManaged TrackedResource.mode at *
    rw [hmode]
    cases place.2.managed <;> decide
  have hlength : items.length = place.2.objects.length := hobjects.length_eq.symm
  simp only [asDict, bind, Except.bind, hmanaged, itemsIn_of_lookup hinstances, hlength]
  cases place.2.managed with
  | false => rfl
  | true =>
    rw [rawInstances_raw (baseAddress_raw hmodule htype hname) htype hname hobjects 0]
    simp [objectsOf]

/-- The entries found for a resource are those of its objects if it is managed. -/
theorem rawEntries_eq (place : String × TrackedResource) : rawEntries place =
    ((objectsOf place.1 place.2).filter fun located => located.resource.managed).map
      LocatedObject.rawEntry := by
  have hresource : ∀ located ∈ objectsOf place.1 place.2, located.resource = place.2 := by
    intro located hmem
    obtain ⟨object, _, rfl⟩ := List.mem_map.mp hmem
    rfl
  unfold rawEntries
  cases hmanaged : place.2.managed with
  | true =>
    rw [List.filter_eq_self.mpr fun located hmem => by rw [hresource located hmem, hmanaged]]
    rfl
  | false =>
    rw [List.filter_eq_nil_iff.mpr fun located hmem => by simp [hresource located hmem, hmanaged]]
    rfl

/-- The entries found in a raw state are those of its managed objects. -/
theorem stateResources_raw {tree : TrackedModule} {document : Document}
    (h : RawState tree document) : ∃ found, stateResources P document = .ok found ∧
      found.Perm ((tree.objects.filter fun located => located.resource.managed).map
        LocatedObject.rawEntry) := by
  obtain ⟨hvalues, items, places, hresources, hperm, hplaces⟩ := h
  have hmapM : items.mapM (rawResource P) = .ok (places.map rawEntries) :=
    mapM_of_forall₂ (R := RawResource) (fun _ _ hplace => rawResource_raw hplace) hplaces
  refine ⟨(places.map rawEntries).flatten, ?_, ?_⟩
  · unfold stateResources
    simp [shownResources, Document.get, hvalues, itemsIn_of_lookup hresources, bind, Except.bind,
      hmapM, pure, Except.pure]
  · rw [TrackedModule.objects, List.filter_flatMap, List.map_flatMap, ← List.flatMap_def]
    simp only [← rawEntries_eq]
    exact hperm.flatMap_right rawEntries

end flattening

section owner

variable {P : Platform} {quoteKey : String → String} {provider resourceUid : String}
  {resourceTypes : List String}

variable (P provider resourceUid resourceTypes) in
/-- An object of an eligible type with the identity of the cloud resource. -/
def LocatedObject.isMatch (located : LocatedObject) : Bool :=
  (resourceTypes = [] || located.resource.resourceType ∈ resourceTypes) &&
    hasIdentity P provider resourceUid located.resource.resourceType located.object.attributes

variable (P provider resourceUid resourceTypes) in
/-- A found resource of an eligible type with the identity of the cloud resource. -/
def FoundResource.isMatch (found : FoundResource) : Bool :=
  (resourceTypes = [] || found.resourceType ∈ resourceTypes) &&
    (found.values.obj?.any (hasIdentity P provider resourceUid found.resourceType))

/-- Resources whose values are objects are matched one by one. -/
theorem ownerMatches_eq_filter {resources : List FoundResource}
    (hvalues : ∀ resource ∈ resources, resource.values.obj?.isSome = true) :
    ownerMatches P provider resourceUid resourceTypes resources =
      .ok (resources.filter (FoundResource.isMatch P provider resourceUid resourceTypes)) := by
  induction resources with
  | nil => rfl
  | cons resource resources ih =>
    have hmatch : matchesOwner P provider resourceUid resourceTypes resource =
        .ok (resource.isMatch P provider resourceUid resourceTypes) := by
      have hobject := hvalues resource List.mem_cons_self
      unfold matchesOwner FoundResource.isMatch stateIdentityMatches
      cases hresource : resource.values with
      | obj values =>
        by_cases htypes : resourceTypes = []
        · simp [htypes, asDict, Except.map, Json.obj?]
        · by_cases hmem : resource.resourceType ∈ resourceTypes
          · simp [hmem, asDict, Except.map, Json.obj?]
          · simp [htypes, hmem]
      | _ => simp [hresource, Json.obj?] at hobject
    rw [ownerMatches, hmatch, ih fun other hother => hvalues other (List.mem_cons_of_mem _ hother),
      List.filter_cons]
    cases resource.isMatch P provider resourceUid resourceTypes <;> rfl

/-- The sole owner does not depend on the order of the matches. -/
theorem soleOwner_perm {found others : List FoundResource} (hperm : found.Perm others) :
    soleOwner resourceUid found = soleOwner resourceUid others := by
  match found, others with
  | [], others =>
    rw [hperm.nil_eq]
  | [resource], others =>
    rw [hperm.singleton_eq]
  | first :: second :: found, [] => exact absurd hperm.length_eq (by simp)
  | first :: second :: found, [resource] => exact absurd hperm.length_eq (by simp)
  | first :: second :: found, resource :: other :: others =>
    have hsorted : ((first :: second :: found).map FoundResource.address).insertionSort
        (fun a b => a ≤ b) = ((resource :: other :: others).map
          FoundResource.address).insertionSort fun a b => a ≤ b :=
      ((List.perm_insertionSort _ _).trans ((hperm.map _).trans
        (List.perm_insertionSort _ _).symm)).eq_of_sortedLE
        List.sortedLE_insertionSort List.sortedLE_insertionSort
    simp only [soleOwner, hsorted]

/-- The owner among found entries of objects, in any order. -/
theorem owner_of_entries (entry : LocatedObject → FoundResource)
    (htype : ∀ located, (entry located).resourceType = located.resource.resourceType)
    (hvalues : ∀ located, (entry located).values = .obj located.object.attributes)
    {document : Document} {objects : List LocatedObject} {found : List FoundResource}
    (hfound : stateResources P document = .ok found) (hperm : found.Perm (objects.map entry)) :
    stateOwner P provider resourceUid document resourceTypes = soleOwner resourceUid
      ((objects.filter (LocatedObject.isMatch P provider resourceUid resourceTypes)).map
        entry) := by
  have hobjects : ∀ resource ∈ found, resource.values.obj?.isSome = true := by
    intro resource hmem
    obtain ⟨located, _, rfl⟩ := List.mem_map.mp (hperm.mem_iff.mp hmem)
    rw [hvalues]
    rfl
  have hmatch : (FoundResource.isMatch P provider resourceUid resourceTypes) ∘ entry =
      LocatedObject.isMatch P provider resourceUid resourceTypes := by
    funext located
    simp [FoundResource.isMatch, LocatedObject.isMatch, htype, hvalues, Json.obj?]
  have hfilter := hperm.filter (FoundResource.isMatch P provider resourceUid resourceTypes)
  rw [List.filter_map, hmatch] at hfilter
  unfold stateOwner
  rw [hfound]
  simp only [bind, Except.bind, ownerMatches_eq_filter hobjects]
  exact soleOwner_perm hfilter

/-- The linker writes the key of an object as Terraform does. -/
def LocatedObject.AddressedAlike (quoteKey : String → String) (located : LocatedObject) : Prop :=
  match located.object.key with
  | .none => located.resource.objects.length ≤ 1
  | .count _ => True
  | .each key => dumpsText key = quoteKey key

/-- The two addresses of a managed object agree where its key is written alike. -/
theorem rawAddress_eq_iff {located : LocatedObject} (hmanaged : located.resource.managed = true) :
    located.rawAddress = located.terraformAddress quoteKey ↔ located.AddressedAlike quoteKey := by
  unfold LocatedObject.rawAddress LocatedObject.terraformAddress LocatedObject.AddressedAlike
  rw [hmanaged]
  simp only [if_true, String.append_empty, String.append_right_inj]
  cases located.object.key with
  | none =>
    by_cases hcount : 1 < located.resource.objects.length
    · simp [InstanceKey.suffix, hcount, String.append_eq_empty_iff]
    · simp [InstanceKey.suffix, hcount, Nat.not_lt.mp hcount]
  | count n => simp [InstanceKey.suffix]
  | each key => simp [InstanceKey.suffix]

/-- Sorted addresses, as an error lists them. -/
def joinedAddresses (addresses : List String) : String :=
  ", ".intercalate (addresses.insertionSort fun a b => a ≤ b)

variable (quoteKey) in
/-- When both formats of a state name the same owner, by the objects that match: the managed ones,
which both formats have, and the data resources, which only the shown format has. -/
def FormatsAgree (managed data : List LocatedObject) : Prop :=
  (managed = [] ∧ data = []) ∨
  (∃ located, managed = [located] ∧ data = [] ∧ located.AddressedAlike quoteKey) ∨
  (2 ≤ managed.length ∧ joinedAddresses (managed.map LocatedObject.rawAddress) =
    joinedAddresses ((managed ++ data).map (LocatedObject.terraformAddress quoteKey)))

/-- Two owners are an error that names the addresses of all. -/
theorem soleOwner_two {first second : FoundResource} {found : List FoundResource} :
    soleOwner resourceUid (first :: second :: found) = .error ⟨.ambiguousTerraformLink,
      "multiple Terraform state resources have id " ++ resourceUid ++ ": " ++
        joinedAddresses ((first :: second :: found).map FoundResource.address)⟩ :=
  rfl

/-- The owner of the managed matches is the owner of all matches where the formats agree. -/
theorem soleOwner_eq_iff {managed data : List LocatedObject}
    (hmanaged : ∀ located ∈ managed, located.resource.managed = true) :
    soleOwner resourceUid (managed.map LocatedObject.rawEntry) =
      soleOwner resourceUid ((managed ++ data).map (LocatedObject.shownEntry quoteKey)) ↔
    FormatsAgree quoteKey managed data := by
  unfold FormatsAgree
  match managed, data with
  | [], [] => simp
  | [], [located] => simp [soleOwner]
  | [], _ :: _ :: _ => simp [soleOwner]
  | [located], [] =>
    have halike : located.rawAddress = located.terraformAddress quoteKey ↔
        located.AddressedAlike quoteKey :=
      rawAddress_eq_iff (hmanaged located List.mem_cons_self)
    simp [soleOwner, LocatedObject.rawEntry, LocatedObject.shownEntry, halike]
  | [located], _ :: _ => simp [soleOwner]
  | first :: second :: managed, data =>
    simp only [List.map_cons, List.cons_append, soleOwner_two]
    simp [LocatedObject.rawEntry, LocatedObject.shownEntry, Function.comp_def,
      String.append_right_inj]

variable (P provider resourceUid resourceTypes) in
/-- The objects of a state that match. -/
def TrackedModule.matching (tree : TrackedModule) : List LocatedObject :=
  tree.objects.filter (LocatedObject.isMatch P provider resourceUid resourceTypes)

/-- Both formats of a state name the same owner exactly where they agree on the matches. -/
theorem stateOwner_formats {tree : TrackedModule} {raw shown : Document}
    (hraw : RawState tree raw) (hshown : ShownState quoteKey tree shown) :
    stateOwner P provider resourceUid raw resourceTypes =
      stateOwner P provider resourceUid shown resourceTypes ↔
    FormatsAgree quoteKey
      ((tree.matching P provider resourceUid resourceTypes).filter fun located =>
        located.resource.managed)
      ((tree.matching P provider resourceUid resourceTypes).filter fun located =>
        !located.resource.managed) := by
  obtain ⟨rawFound, hrawFound, hrawPerm⟩ := stateResources_raw (P := P) hraw
  obtain ⟨shownFound, hshownFound, hshownPerm⟩ := stateResources_shown (P := P) hshown
  rw [owner_of_entries LocatedObject.rawEntry (fun _ => rfl) (fun _ => rfl) hrawFound hrawPerm,
    owner_of_entries (LocatedObject.shownEntry quoteKey) (fun _ => rfl) (fun _ => rfl)
      hshownFound hshownPerm, List.filter_comm]
  have hsplit : ((tree.matching P provider resourceUid resourceTypes).filter
      (fun located => located.resource.managed) ++
      (tree.matching P provider resourceUid resourceTypes).filter fun located =>
        !located.resource.managed).Perm (tree.matching P provider resourceUid resourceTypes) :=
    List.filter_append_perm _ _
  change _ = soleOwner resourceUid ((tree.matching P provider resourceUid resourceTypes).map
    (LocatedObject.shownEntry quoteKey)) ↔ _
  rw [← soleOwner_perm (hsplit.map (LocatedObject.shownEntry quoteKey))]
  exact soleOwner_eq_iff fun located hmem => (List.mem_filter.mp hmem).2

/-- Where no data resource matches and every key is written alike the formats agree. -/
theorem formatsAgree_of_alike {managed : List LocatedObject}
    (hmanaged : ∀ located ∈ managed, located.resource.managed = true)
    (halike : ∀ located ∈ managed, located.AddressedAlike quoteKey) :
    FormatsAgree quoteKey managed [] := by
  have haddresses : managed.map LocatedObject.rawAddress =
      managed.map (LocatedObject.terraformAddress quoteKey) :=
    List.map_congr_left fun located hmem =>
      (rawAddress_eq_iff (hmanaged located hmem)).mpr (halike located hmem)
  match managed, halike with
  | [], _ => exact Or.inl ⟨rfl, rfl⟩
  | [located], halike =>
    exact Or.inr (Or.inl ⟨located, rfl, rfl, halike located List.mem_cons_self⟩)
  | first :: second :: managed, _ =>
    refine Or.inr (Or.inr ⟨by simp, ?_⟩)
    rw [haddresses, List.append_nil]

end owner

section samples

/-- The attributes of a bucket. -/
def logsAttributes : Document := [("id", .str "logs")]

/-- A state in which a data resource reads the bucket `logs`. -/
def readState : TrackedModule :=
  .mk "" [⟨false, "aws_s3_bucket", "logs", [⟨.none, logsAttributes⟩]⟩] []

/-- The raw document of that state. -/
def readRaw : Document :=
  [("version", .int 4), ("resources", .arr [.obj [("mode", .str "data"),
    ("type", .str "aws_s3_bucket"), ("name", .str "logs"),
    ("instances", .arr [.obj [("attributes", .obj logsAttributes)]])]])]

/-- The shown document of that state. -/
def readShown : Document :=
  [("values", .obj [("root_module", .obj [("resources", .arr [.obj
    [("address", .str "data.aws_s3_bucket.logs"), ("mode", .str "data"),
      ("type", .str "aws_s3_bucket"), ("name", .str "logs"),
      ("values", .obj logsAttributes)]])])])]

/-- The raw document stands for the sample's state. -/
theorem readRaw_state : RawState readState readRaw := by
  refine ⟨rfl, [_], [("", ⟨false, "aws_s3_bucket", "logs", [⟨.none, logsAttributes⟩]⟩)], rfl,
    List.Perm.refl _, ?_⟩
  refine List.Forall₂.cons ⟨_, [_], rfl, rfl, rfl, rfl, rfl, rfl, ?_⟩ List.Forall₂.nil
  exact List.Forall₂.cons ⟨_, rfl, rfl, rfl⟩ List.Forall₂.nil

/-- The shown document stands for the sample's state, whatever the quoting of keys. -/
theorem readShown_state (quoteKey : String → String) : ShownState quoteKey readState readShown := by
  refine ⟨rfl, Or.inr ⟨_, _, rfl, rfl, ?_⟩⟩
  refine ⟨_, [_], [], [⟨"", ⟨false, "aws_s3_bucket", "logs", [⟨.none, logsAttributes⟩]⟩, 0,
    ⟨.none, logsAttributes⟩⟩], rfl, Or.inl rfl, List.Perm.refl _, ?_, Or.inr ⟨rfl, rfl⟩, trivial⟩
  exact List.Forall₂.cons ⟨_, rfl, rfl, rfl, rfl, rfl, rfl⟩ List.Forall₂.nil

/-- Only the shown document names an owner. -/
theorem read_owner_differs : stateOwner samplePlatform "aws" "arn:aws:s3:::logs" readRaw [] ≠
    stateOwner samplePlatform "aws" "arn:aws:s3:::logs" readShown [] := by
  intro h
  have hraw : (stateOwner samplePlatform "aws" "arn:aws:s3:::logs" readRaw []).toOption =
      some none :=
    rfl
  have hshown : (stateOwner samplePlatform "aws" "arn:aws:s3:::logs" readShown []).toOption =
      some (some ⟨"data.aws_s3_bucket.logs", "aws_s3_bucket", "logs"⟩) :=
    rfl
  rw [h, hshown] at hraw
  cases Option.some.inj hraw

/-- A data resource is the owner in one format and not in the other. -/
theorem data_resource_differs : ¬∀ (P : Platform) (quoteKey : String → String)
    (provider resourceUid : String) (resourceTypes : List String) (tree : TrackedModule)
    (raw shown : Document), RawState tree raw → ShownState quoteKey tree shown →
    stateOwner P provider resourceUid raw resourceTypes =
      stateOwner P provider resourceUid shown resourceTypes :=
  fun h => read_owner_differs (h samplePlatform dumpsText "aws" "arn:aws:s3:::logs" [] readState
    readRaw readShown readRaw_state (readShown_state dumpsText))

/-- How Terraform quotes a key of plain letters. -/
def plainQuote (key : String) : String := "\"" ++ key ++ "\""

/-- The bucket of each region of a module. -/
def regionBuckets : TrackedResource :=
  ⟨true, "aws_s3_bucket", "regional", [⟨.each "eu", [("id", .str "logs-eu")]⟩,
    ⟨.each "us", logsAttributes⟩]⟩

/-- A data resource that reads another bucket. -/
def readMetrics : TrackedResource :=
  ⟨false, "aws_s3_bucket", "metrics", [⟨.none, [("id", .str "metrics")]⟩]⟩

/-- A state with a data resource and, in a module below the root, a bucket for each region. -/
def regionState : TrackedModule := .mk "" [readMetrics] [.mk "module.store" [regionBuckets] []]

/-- The raw document of that state. -/
def regionRaw : Document :=
  [("version", .int 4), ("resources", .arr [
    .obj [("module", .str "module.store"), ("mode", .str "managed"),
      ("type", .str "aws_s3_bucket"), ("name", .str "regional"),
      ("instances", .arr [
        .obj [("index_key", .str "eu"), ("attributes", .obj [("id", .str "logs-eu")])],
        .obj [("index_key", .str "us"), ("attributes", .obj logsAttributes)]])],
    .obj [("mode", .str "data"), ("type", .str "aws_s3_bucket"), ("name", .str "metrics"),
      ("instances", .arr [.obj [("attributes", .obj [("id", .str "metrics")])]])]])]

/-- The entry of a bucket of the module in the shown document. -/
def shownBucket (address : String) (values : Document) : Json :=
  .obj [("address", .str address), ("mode", .str "managed"), ("type", .str "aws_s3_bucket"),
    ("name", .str "regional"), ("values", .obj values)]

/-- The shown document of that state. -/
def regionShown : Document :=
  [("values", .obj [("root_module", .obj [
    ("resources", .arr [.obj [("address", .str "data.aws_s3_bucket.metrics"),
      ("mode", .str "data"), ("type", .str "aws_s3_bucket"), ("name", .str "metrics"),
      ("values", .obj [("id", .str "metrics")])]]),
    ("child_modules", .arr [.obj [("address", .str "module.store"), ("resources", .arr [
      shownBucket "module.store.aws_s3_bucket.regional[\"eu\"]" [("id", .str "logs-eu")],
      shownBucket "module.store.aws_s3_bucket.regional[\"us\"]" logsAttributes])]])])])]

/-- The raw document stands for the state with a module. -/
theorem regionRaw_state : RawState regionState regionRaw := by
  refine ⟨rfl, [_, _], [("module.store", regionBuckets), ("", readMetrics)], rfl,
    List.Perm.swap _ _ _, ?_⟩
  refine .cons ⟨_, [_, _], rfl, rfl, rfl, rfl, rfl, rfl, ?_⟩
    (.cons ⟨_, [_], rfl, rfl, rfl, rfl, rfl, rfl, ?_⟩ .nil)
  · exact .cons ⟨_, rfl, rfl, rfl⟩ (.cons ⟨_, rfl, rfl, rfl⟩ .nil)
  · exact .cons ⟨_, rfl, rfl, rfl⟩ .nil

/-- The shown document stands for the state with a module. -/
theorem regionShown_state : ShownState plainQuote regionState regionShown := by
  refine ⟨rfl, .inr ⟨_, _, rfl, rfl, ?_⟩⟩
  refine ⟨_, [_], [_], [⟨"", readMetrics, 0, ⟨.none, [("id", .str "metrics")]⟩⟩], rfl, .inl rfl,
    List.Perm.refl _, ?_, .inl rfl, ?_, trivial⟩
  · exact .cons ⟨_, rfl, rfl, rfl, rfl, rfl, rfl⟩ .nil
  · refine ⟨_, [_, _], [], [⟨"module.store", regionBuckets, 0, ⟨.each "eu", _⟩⟩,
      ⟨"module.store", regionBuckets, 1, ⟨.each "us", _⟩⟩], rfl, .inl rfl, List.Perm.refl _, ?_,
      .inr ⟨rfl, rfl⟩, trivial⟩
    exact .cons ⟨_, rfl, rfl, rfl, rfl, rfl, rfl⟩ (.cons ⟨_, rfl, rfl, rfl, rfl, rfl, rfl⟩ .nil)

/-- The one managed match of the state, in its module. -/
def regionMatch : LocatedObject :=
  ⟨"module.store", regionBuckets, 1, ⟨.each "us", logsAttributes⟩⟩

/-- In the state with the data resource the matches do not let the formats agree. In the state with
the module they do, and both formats name the bucket of one region as the owner. -/
theorem read_formats_disagree : ¬FormatsAgree dumpsText
    ((readState.matching samplePlatform "aws" "arn:aws:s3:::logs" []).filter fun located =>
      located.resource.managed)
    ((readState.matching samplePlatform "aws" "arn:aws:s3:::logs" []).filter fun located =>
      !located.resource.managed) ∧
    stateOwner samplePlatform "aws" "arn:aws:s3:::logs" regionRaw [] =
      stateOwner samplePlatform "aws" "arn:aws:s3:::logs" regionShown [] ∧
    (stateOwner samplePlatform "aws" "arn:aws:s3:::logs" regionRaw []).toOption =
      some (some ⟨"module.store.aws_s3_bucket.regional[\"us\"]", "aws_s3_bucket", "regional"⟩) := by
  refine ⟨fun h => read_owner_differs
    ((stateOwner_formats readRaw_state (readShown_state dumpsText)).mpr h),
    (stateOwner_formats regionRaw_state regionShown_state).mpr ?_, rfl⟩
  change FormatsAgree plainQuote [regionMatch] []
  refine formatsAgree_of_alike (by simp [regionMatch, regionBuckets]) fun located hlocated => ?_
  rw [List.mem_singleton.mp hlocated]
  rfl

end samples

end ElCapitan
