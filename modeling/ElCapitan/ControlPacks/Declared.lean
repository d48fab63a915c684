import ElCapitan.ControlPacks.Ec2
import ElCapitan.ControlPacks.S3
import ElCapitan.ControlPacks.Rds
import ElCapitan.ControlPacks.Storage
import ElCapitan.ControlPacks.AppService
import ElCapitan.ControlPacks.AzureData

/-!
# Verdicts on declared evidence

Every evaluator of the packs depends on its declared aspects alone. Two of them look a value
up in a set before they check that it is a text; on a list or a dictionary the look-up raises
a `TypeError` that no caller expects, where the other evaluators raise `ValueError`.
-/

namespace ElCapitan

/-- The packs of the controls. -/
def controlPacks (L : PackLibrary) : List ControlPack :=
  [AwsEc2.pack L, AwsS3.pack L, AwsRds.pack L, AzureStorage.pack L, AppService.pack L,
    AzureSql.pack L, CosmosDb.pack L, KeyVault.pack L]

/-- The controls that the packs register. -/
def registeredControls (L : PackLibrary) : List ControlDefinition :=
  (controlPacks L).flatMap ControlPack.registered

section postInit

/-- The checks of `ControlDefinition.__post_init__` that do not concern letter case. -/
def ControlDefinition.explicit (definition : ControlDefinition) : Bool :=
  decide (definition.packId ≠ "" ∧ definition.ruleId ≠ "" ∧
    (definition.provider = "aws" ∨ definition.provider = "azure") ∧
    definition.resourceTypes ≠ [] ∧ "" ∉ definition.resourceTypes ∧
    definition.evidenceAspects ≠ [] ∧ "" ∉ definition.evidenceAspects ∧
    definition.evidenceAspects.Nodup ∧ definition.liveValidation = true ∧
    definition.evidenceGrade ∈ evidenceGrades)

/-- Every registered control passes its own checks. -/
theorem registered_postInit {L : PackLibrary} {P : Platform} (haws : P.lower "aws" = "aws")
    (hazure : P.lower "azure" = "azure") {definition : ControlDefinition}
    (h : definition ∈ registeredControls L) : definition.postInit P = .ok () := by
  have hall : (registeredControls L).all ControlDefinition.explicit = true := rfl
  obtain ⟨hpack, hrule, hprovider, htypes, htype, haspects, haspect, hunique, hlive, hgrade⟩ :=
    of_decide_eq_true (List.all_eq_true.mp hall definition h)
  have hlower : P.lower definition.provider = definition.provider := by
    obtain hprovider | hprovider := hprovider
    · rw [hprovider, haws]
    · rw [hprovider, hazure]
  have hnamed : definition.provider ≠ "" := by
    obtain hprovider | hprovider := hprovider
    · simp [hprovider]
    · simp [hprovider]
  simp [ControlDefinition.postInit, raiseIf, bind, Except.bind, *]

end postInit

section escapes

variable {α β : Type}

/-- A computation that raises something else than `ValueError`. -/
def Escapes (x : Except PyError α) : Prop := ∃ e, x = .error e ∧ ¬IsValueError e

/-- A result that raises value errors only does not escape the evaluator's caller. -/
theorem not_escapes {x : Except PyError α} (h : Raises IsValueError x) : ¬Escapes x := by
  rintro ⟨e, he, hkind⟩
  exact hkind (h e he)

/-- What escapes from a sequence escapes from one of its parts. -/
theorem escapes_bind {x : Except PyError α} {f : α → Except PyError β} :
    Escapes (x >>= f) ↔ Escapes x ∨ ∃ a, x = .ok a ∧ Escapes (f a) := by
  cases x with
  | error e => simp [Escapes, bind, Except.bind]
  | ok a => simp [Escapes, bind, Except.bind]

/-- A set look-up escapes on what Python cannot hash. -/
theorem escapes_searchSet {allowed : List String} {value : Json} :
    Escapes (searchSet allowed value) ↔ value.unhashable = true := by
  cases value <;> simp [Escapes, searchSet, Json.unhashable, IsValueError, ErrorKind.isValueError]

/-- What a set look-up finds, when it does not escape. -/
theorem searchSet_eq_ok {allowed : List String} {value : Json} {found : Bool} :
    searchSet allowed value = .ok found ↔
      value.unhashable = false ∧ found = (value.str?.any allowed.contains) := by
  cases value <;> simp [searchSet, Json.unhashable, Json.str?, eq_comm]

end escapes

section unhashable

variable {L : PackLibrary}

/-- The names of an inventory that passes the checks. -/
def InventoryOf (L : PackLibrary) (value : Json) : Prop :=
  ∃ names, value = Json.ofStrings names ∧ "" ∉ names ∧ (names.map L.platform.lower).Nodup

/-- The TDE properties on which the SQL control looks up an unhashable value: the protector
type, or, once the protector type and the inventory pass, the state of a named database. -/
def UnhashableTde (L : PackLibrary) (protectorType inventory databaseTde : Json) : Prop :=
  protectorType.unhashable = true ∨
    (protectorType.str? = some "AzureKeyVault" ∨ protectorType.str? = some "ServiceManaged") ∧
      InventoryOf L inventory ∧
      ∃ entries : Document, databaseTde = .obj entries ∧
        ∃ entry ∈ entries, entry.1 ≠ "" ∧ entry.2.unhashable = true

/-- A control looks up a captured value that Python cannot hash. -/
def LooksUpUnhashable (L : PackLibrary) (ruleId : String) (values : Document) : Prop :=
  ruleId = "storage_default_network_access_rule_is_denied" ∧
      (∃ network : Document, values.lookup "network_rule_set" = some (.obj network) ∧
        (Document.get network "defaultAction").unhashable = true) ∨
    ruleId = "sqlserver_tde_encrypted_with_cmk" ∧
      ∃ protectorType inventory databaseTde,
        values.lookup "sql_tde_protector_type" = some protectorType ∧
        values.lookup "sql_database_inventory" = some inventory ∧
        values.lookup "sql_user_database_tde" = some databaseTde ∧
        UnhashableTde L protectorType inventory databaseTde

/-- The default network control escapes exactly on an unhashable default action. -/
theorem escapes_defaultNetworkDeny {values : Document} :
    Escapes (AzureStorage.defaultNetworkDeny L values) ↔
      ∃ network : Document, values.lookup "network_rule_set" = some (.obj network) ∧
        (Document.get network "defaultAction").unhashable = true := by
  have haction : ∀ action, Escapes (AzureStorage.networkAction L action) ↔
      action.unhashable = true := by
    intro action
    unfold AzureStorage.networkAction
    rw [escapes_bind, escapes_searchSet, or_iff_left]
    rintro ⟨known, -, hescapes⟩
    refine not_escapes ?_ hescapes
    apply raises_bind (raises_raiseIf (isValueError_valueError _))
    intro _
    exact raises_pure _
  have hobject : ∀ network, AzureStorage.object L values "network_rule_set" = .ok network ↔
      values.lookup "network_rule_set" = some (.obj network) := by
    intro network
    unfold AzureStorage.object
    rw [except_bind_eq_ok]
    simp only [require_eq_ok, dictOr_eq_ok]
    constructor
    · rintro ⟨value, hvalue, rfl⟩
      exact hvalue
    · intro hvalue
      exact ⟨.obj network, hvalue, rfl⟩
  unfold AzureStorage.defaultNetworkDeny
  rw [escapes_bind, or_iff_right]
  · simp only [hobject, haction]
  · apply not_escapes
    exact (AzureStorage.declared_object (List.mem_singleton.mpr rfl)).raises values

/-- The checks of the inventory pass exactly on distinct non-empty names. -/
theorem databaseInventory_eq_ok {value : Json} :
    (∃ names, AzureSql.databaseInventory L value = .ok names) ↔ InventoryOf L value := by
  have hnames : ∀ (e : PyError) (items : List Json) (names : List String),
      items.mapM (textOr e) = .ok names ↔ items = names.map Json.str ∧ "" ∉ names := by
    intro e items
    induction items with
    | nil =>
      intro names
      cases names <;> simp [pure, Except.pure]
    | cons item items ih =>
      intro names
      rw [List.mapM_cons, except_bind_eq_ok]
      simp only [textOr_eq_ok, except_bind_eq_ok, ih]
      constructor
      · rintro ⟨text, ⟨rfl, htext⟩, texts, ⟨rfl, htexts⟩, hpure⟩
        cases hpure
        simp [htexts, Ne.symm htext]
      · cases names with
        | nil => simp
        | cons text texts =>
          rintro ⟨hitems, hempty⟩
          obtain ⟨rfl, rfl⟩ := List.cons.inj hitems
          simp only [List.mem_cons, not_or] at hempty
          exact ⟨text, ⟨rfl, Ne.symm hempty.1⟩, texts, ⟨rfl, hempty.2⟩, rfl⟩
  unfold AzureSql.databaseInventory InventoryOf
  simp only [except_bind_eq_ok, hnames, raiseIf_eq_ok, not_not]
  constructor
  · rintro ⟨names, items, hitems, texts, ⟨rfl, hempty⟩, _, hunique, -⟩
    refine ⟨texts, ?_, hempty, hunique⟩
    cases value <;> simp [listOr] at hitems
    rw [hitems, Json.ofStrings]
  · rintro ⟨names, rfl, hempty, hunique⟩
    exact ⟨names, names.map Json.str, rfl, names, ⟨rfl, hempty⟩, (), hunique, rfl⟩

/-- The search for invalid entries escapes exactly on an unhashable value of a named one. -/
theorem escapes_invalidTde (entries : Document) :
    Escapes (AzureSql.invalidTde entries) ↔
      ∃ entry ∈ entries, entry.1 ≠ "" ∧ entry.2.unhashable = true := by
  induction entries with
  | nil => simp [AzureSql.invalidTde, Escapes]
  | cons entry entries ih =>
    have hentry : Escapes (AzureSql.invalidEntryTde entry) ↔
        entry.1 ≠ "" ∧ entry.2.unhashable = true := by
      unfold AzureSql.invalidEntryTde
      by_cases hname : entry.1 = ""
      · simp [hname, Escapes]
      · rw [if_neg hname, escapes_bind, escapes_searchSet]
        simp [hname, Escapes, pure, Except.pure]
    have hok : Escapes (AzureSql.invalidEntryTde entry) ∨
        ∃ invalid, AzureSql.invalidEntryTde entry = .ok invalid := by
      unfold AzureSql.invalidEntryTde
      by_cases hname : entry.1 = ""
      · right
        exact ⟨true, if_pos hname⟩
      · rw [if_neg hname]
        cases hvalue : entry.2.unhashable with
        | true =>
          left
          rw [escapes_bind, escapes_searchSet]
          exact Or.inl hvalue
        | false =>
          right
          rw [(searchSet_eq_ok.mpr ⟨hvalue, rfl⟩ :
            searchSet ["Enabled", "Disabled"] entry.2 = .ok _)]
          exact ⟨_, rfl⟩
    rw [AzureSql.invalidTde, escapes_bind]
    simp only [escapes_bind, ih, hentry, List.mem_cons, exists_eq_or_imp]
    constructor
    · rintro (hhead | ⟨invalid, -, htail | ⟨rest, -, hpure⟩⟩)
      · exact Or.inl hhead
      · exact Or.inr htail
      · exact absurd hpure (not_escapes (raises_pure _))
    · rintro (hhead | htail)
      · exact Or.inl hhead
      · obtain hescapes | ⟨invalid, hinvalid⟩ := hok
        · exact Or.inl (hentry.mp hescapes)
        · exact Or.inr ⟨invalid, hinvalid, Or.inl htail⟩

/-- The check of the protector type escapes exactly on an unhashable one. -/
theorem escapes_checkProtector {protectorType : Json} :
    Escapes (AzureSql.checkProtector L protectorType) ↔ protectorType.unhashable = true := by
  unfold AzureSql.checkProtector
  rw [escapes_bind, escapes_searchSet, or_iff_left]
  rintro ⟨known, -, hescapes⟩
  exact not_escapes (raises_raiseIf (isValueError_valueError _)) hescapes

/-- The check of the protector type passes exactly on the two known ones. -/
theorem checkProtector_eq_ok {protectorType : Json} :
    AzureSql.checkProtector L protectorType = .ok () ↔
      (protectorType.str? = some "AzureKeyVault" ∨
        protectorType.str? = some "ServiceManaged") := by
  unfold AzureSql.checkProtector
  simp only [except_bind_eq_ok, searchSet_eq_ok, raiseIf_eq_ok]
  cases protectorType <;> simp [Json.unhashable, Json.str?, or_iff_not_imp_left]

/-- Reading an inventory of databases raises value errors only. -/
theorem raises_databaseInventory (inventory : Json) :
    Raises IsValueError (AzureSql.databaseInventory L inventory) := by
  apply raises_bind (raises_listOr (isValueError_valueError _) _)
  intro items
  apply raises_bind
  · exact raises_mapM (fun item => raises_textOr (isValueError_valueError _) item) _
  intro names
  apply raises_bind (raises_raiseIf (isValueError_valueError _))
  intro _
  exact raises_pure _

/-- The checks of the TDE map escape exactly where its search for invalid entries does. -/
theorem escapes_checkDatabaseTde {names : List String} {entries : Document} :
    Escapes (AzureSql.checkDatabaseTde L names entries) ↔
      ∃ entry ∈ entries, entry.1 ≠ "" ∧ entry.2.unhashable = true := by
  unfold AzureSql.checkDatabaseTde
  rw [escapes_bind, escapes_invalidTde, or_iff_left]
  rintro ⟨invalid, -, hescapes⟩
  refine not_escapes ?_ hescapes
  apply raises_bind (raises_raiseIf (isValueError_valueError _))
  intro _
  exact raises_raiseIf (isValueError_valueError _)

/-- The SQL control escapes exactly on unhashable TDE properties. -/
theorem escapes_judgeTde {protectorType inventory databaseTde : Json} :
    Escapes (AzureSql.judgeTde L protectorType inventory databaseTde) ↔
      UnhashableTde L protectorType inventory databaseTde := by
  have hdict : ¬Escapes (dictOr (valueError "live SQL state has no user-database TDE map")
      databaseTde) := not_escapes (raises_dictOr (isValueError_valueError _) _)
  have hdecided : ∀ entries, ¬Escapes
      (pure (AzureSql.decideTde L protectorType entries) : Except PyError ControlEvaluation) :=
    fun entries => not_escapes (raises_pure _)
  unfold AzureSql.judgeTde UnhashableTde
  simp only [escapes_bind, escapes_checkProtector, dictOr_eq_ok,
    escapes_checkDatabaseTde, hdict, hdecided, not_escapes (raises_databaseInventory inventory),
    false_or, and_false, exists_false, or_false]
  apply or_congr_right
  constructor
  · rintro ⟨_, hprotector, names, hnames, entries, hentries, hentry⟩
    exact ⟨checkProtector_eq_ok.mp hprotector, databaseInventory_eq_ok.mp ⟨names, hnames⟩, entries,
      hentries, hentry⟩
  · rintro ⟨hprotector, hinventory, entries, hentries, hentry⟩
    obtain ⟨names, hnames⟩ := databaseInventory_eq_ok.mpr hinventory
    exact ⟨(), checkProtector_eq_ok.mpr hprotector, names, hnames, entries, hentries, hentry⟩

/-- The SQL control escapes exactly on captured unhashable TDE properties. -/
theorem escapes_tdeEncryptedWithCmk {values : Document} :
    Escapes (AzureSql.tdeEncryptedWithCmk L values) ↔
      ∃ protectorType inventory databaseTde,
        values.lookup "sql_tde_protector_type" = some protectorType ∧
        values.lookup "sql_database_inventory" = some inventory ∧
        values.lookup "sql_user_database_tde" = some databaseTde ∧
        UnhashableTde L protectorType inventory databaseTde := by
  have hrequire : ∀ aspect, ¬Escapes (require values aspect) :=
    fun aspect => not_escapes (raises_require values aspect)
  unfold AzureSql.tdeEncryptedWithCmk
  simp only [escapes_bind, hrequire, require_eq_ok, escapes_judgeTde, false_or]
  constructor
  · rintro ⟨protectorType, hprotector, inventory, hinventory, databaseTde, htde, h⟩
    exact ⟨protectorType, inventory, databaseTde, hprotector, hinventory, htde, h⟩
  · rintro ⟨protectorType, inventory, databaseTde, hprotector, hinventory, htde, h⟩
    exact ⟨protectorType, hprotector, inventory, hinventory, databaseTde, htde, h⟩

/-- What the SQL control reads is declared, whatever it raises. -/
theorem reads_tdeEncryptedWithCmk {aspects : List String}
    (hprotector : "sql_tde_protector_type" ∈ aspects)
    (hinventory : "sql_database_inventory" ∈ aspects)
    (htde : "sql_user_database_tde" ∈ aspects) :
    Confined (fun values aspect => values.lookup aspect) aspects (fun _ => True)
      (AzureSql.tdeEncryptedWithCmk L) := by
  have hrequire : ∀ {aspect}, aspect ∈ aspects → Confined
      (fun values aspect => values.lookup aspect) aspects (fun _ => True)
      (fun values => require values aspect) := fun h =>
    (declared_require h).mono (fun _ hkey => hkey) fun _ _ => trivial
  apply confined_bind (hrequire hprotector)
  intro protectorType
  apply confined_bind (hrequire hinventory)
  intro inventory
  apply confined_bind (hrequire htde)
  intro databaseTde
  exact confined_const fun _ _ => trivial

end unhashable

/-- A library as Python's on the values that occur in the runs below. -/
def sampleLibrary : PackLibrary where
  platform := samplePlatform
  repr
    | .null => "None"
    | .bool b => if b then "True" else "False"
    | .str s => "'" ++ s ++ "'"
    | value => samplePlatform.canonical value
  ipNetwork _ := none

section verdicts

variable {L : PackLibrary}

/-- A registered control comes from a control of one of the packs. -/
theorem mem_registeredControls {definition : ControlDefinition}
    (h : definition ∈ registeredControls L) :
    ∃ pack ∈ controlPacks L, ∃ given ∈ pack.controls, pack.register given = definition := by
  obtain ⟨pack, hpack, hmem⟩ := List.mem_flatMap.mp h
  obtain ⟨given, hgiven, heq⟩ := List.mem_map.mp hmem
  exact ⟨pack, hpack, given, hgiven, heq⟩

/-- A registered control other than the two that look up unhashable values. -/
theorem registered_declared_of_ne {definition : ControlDefinition}
    (h : definition ∈ registeredControls L)
    (hstorage : definition.ruleId ≠ "storage_default_network_access_rule_is_denied")
    (hsql : definition.ruleId ≠ "sqlserver_tde_encrypted_with_cmk") :
    Declared definition.evidenceAspects definition.evaluator := by
  obtain ⟨pack, hpack, hmem⟩ := List.mem_flatMap.mp h
  simp only [controlPacks, List.mem_cons, List.not_mem_nil, or_false] at hpack
  obtain rfl | rfl | rfl | rfl | rfl | rfl | rfl | rfl := hpack
  · exact AwsEc2.pack_declared hmem
  · exact AwsS3.pack_declared hmem
  · exact AwsRds.pack_declared hmem
  · exact AzureStorage.pack_declared hmem hstorage
  · exact AppService.pack_declared hmem
  · obtain ⟨given, hgiven, rfl⟩ := List.mem_map.mp hmem
    obtain rfl := List.mem_singleton.mp hgiven
    exact absurd (register_ruleId _ _) hsql
  · exact CosmosDb.pack_declared hmem
  · exact KeyVault.pack_declared hmem

/-- The two rules belong to the storage and the SQL pack. -/
theorem pack_of_rule {pack : ControlPack} (hpack : pack ∈ controlPacks L)
    {given : ControlDefinition} (hgiven : given ∈ pack.controls)
    (hrule : given.ruleId = "storage_default_network_access_rule_is_denied" ∨
      given.ruleId = "sqlserver_tde_encrypted_with_cmk") :
    pack = AzureStorage.pack L ∨ pack = AzureSql.pack L := by
  have hothers : ([AwsEc2.pack L, AwsS3.pack L, AwsRds.pack L, AppService.pack L,
      CosmosDb.pack L, KeyVault.pack L].all fun pack => pack.controls.all fun given =>
        decide ¬(given.ruleId = "storage_default_network_access_rule_is_denied" ∨
          given.ruleId = "sqlserver_tde_encrypted_with_cmk")) = true := rfl
  have hnone : pack ∉ [AwsEc2.pack L, AwsS3.pack L, AwsRds.pack L, AppService.pack L,
      CosmosDb.pack L, KeyVault.pack L] := by
    intro hmem
    exact of_decide_eq_true
      (List.all_eq_true.mp (List.all_eq_true.mp hothers pack hmem) given hgiven) hrule
  simp only [controlPacks, List.mem_cons, List.not_mem_nil, or_false] at hpack hnone
  tauto

/-- The control of the default network rule is the storage one. -/
theorem registered_storage {definition : ControlDefinition}
    (h : definition ∈ registeredControls L)
    (hrule : definition.ruleId = "storage_default_network_access_rule_is_denied") :
    definition.evidenceAspects = ["network_rule_set"] ∧
      definition.evaluator = AzureStorage.defaultNetworkDeny L := by
  obtain ⟨pack, hpack, given, hgiven, rfl⟩ := mem_registeredControls h
  rw [register_ruleId] at hrule
  rw [register_evidenceAspects, register_evaluator]
  obtain rfl | rfl := pack_of_rule hpack hgiven (Or.inl hrule)
  · simp only [AzureStorage.pack, List.mem_cons, List.not_mem_nil, or_false] at hgiven
    obtain rfl | rfl | rfl | rfl | rfl | rfl | rfl | rfl | rfl | rfl | rfl | rfl | rfl | rfl :=
      hgiven <;> first
        | exact ⟨rfl, rfl⟩
        | simp [AzureStorage.control] at hrule
  · obtain rfl := List.mem_singleton.mp hgiven
    simp at hrule

/-- The control of the TDE rule is the SQL one. -/
theorem registered_sql {definition : ControlDefinition}
    (h : definition ∈ registeredControls L)
    (hrule : definition.ruleId = "sqlserver_tde_encrypted_with_cmk") :
    definition.evidenceAspects = ["sql_tde_protector_type", "sql_database_inventory",
        "sql_user_database_tde"] ∧
      definition.evaluator = AzureSql.tdeEncryptedWithCmk L := by
  obtain ⟨pack, hpack, given, hgiven, rfl⟩ := mem_registeredControls h
  rw [register_ruleId] at hrule
  rw [register_evidenceAspects, register_evaluator]
  obtain rfl | rfl := pack_of_rule hpack hgiven (Or.inr hrule)
  · simp only [AzureStorage.pack, List.mem_cons, List.not_mem_nil, or_false] at hgiven
    obtain rfl | rfl | rfl | rfl | rfl | rfl | rfl | rfl | rfl | rfl | rfl | rfl | rfl | rfl :=
      hgiven <;> simp [AzureStorage.control] at hrule
  · obtain rfl := List.mem_singleton.mp hgiven
    exact ⟨rfl, rfl⟩

/-- Every registered control reads its declared aspects only. -/
theorem registered_reads {definition : ControlDefinition} (h : definition ∈ registeredControls L) :
    Confined (fun values aspect => values.lookup aspect) definition.evidenceAspects
      (fun _ => True) definition.evaluator := by
  by_cases hstorage : definition.ruleId = "storage_default_network_access_rule_is_denied"
  · obtain ⟨haspects, hevaluator⟩ := registered_storage h hstorage
    rw [haspects, hevaluator]
    exact AzureStorage.reads_defaultNetworkDeny (List.mem_singleton.mpr rfl)
  by_cases hsql : definition.ruleId = "sqlserver_tde_encrypted_with_cmk"
  · obtain ⟨haspects, hevaluator⟩ := registered_sql h hsql
    rw [haspects, hevaluator]
    apply reads_tdeEncryptedWithCmk <;> simp
  · exact (registered_declared_of_ne h hstorage hsql).mono (fun _ hkey => hkey) fun _ _ => trivial

/-- A registered control escapes exactly when it looks up an unhashable value. -/
theorem registered_escapes_iff {definition : ControlDefinition}
    (h : definition ∈ registeredControls L) (values : Document) :
    Escapes (definition.evaluator values) ↔ LooksUpUnhashable L definition.ruleId values := by
  unfold LooksUpUnhashable
  by_cases hstorage : definition.ruleId = "storage_default_network_access_rule_is_denied"
  · rw [(registered_storage h hstorage).2, escapes_defaultNetworkDeny, hstorage]
    simp
  by_cases hsql : definition.ruleId = "sqlserver_tde_encrypted_with_cmk"
  · rw [(registered_sql h hsql).2, escapes_tdeEncryptedWithCmk, hsql]
    simp
  · have hdeclared := registered_declared_of_ne h hstorage hsql
    simp only [hstorage, hsql, false_and, or_false, iff_false]
    exact not_escapes (hdeclared.raises values)

/-- The same verdict on two captures, or `ValueError` on both. -/
def SameVerdict (definition : ControlDefinition) (values others : Document) : Prop :=
  (∃ verdict, definition.evaluator values = .ok verdict ∧
      definition.evaluator others = .ok verdict) ∨
    ∃ e e', definition.evaluator values = .error e ∧ definition.evaluator others = .error e' ∧
      IsValueError e ∧ IsValueError e'

/-- On two captures that agree on what a control declares, its verdicts are the same or both
evaluations raise `ValueError`, exactly when it looks up nothing that cannot be hashed. -/
theorem verdict_on_declared_evidence_iff {definition : ControlDefinition}
    (h : definition ∈ registeredControls L) {values others : Document}
    (hagree : ∀ aspect ∈ definition.evidenceAspects,
      values.lookup aspect = others.lookup aspect) :
    SameVerdict definition values others ↔
      ¬LooksUpUnhashable L definition.ruleId values := by
  have hsame := (registered_reads h).depends values others hagree
  rw [← registered_escapes_iff h values]
  constructor
  · rintro (⟨verdict, hverdict, -⟩ | ⟨e, e', herror, -, hkind, -⟩) ⟨escaped, hescaped, hother⟩
    · rw [hverdict] at hescaped
      cases hescaped
    · rw [herror] at hescaped
      cases hescaped
      exact hother hkind
  · intro hcontained
    unfold SameVerdict
    rw [← hsame]
    cases hresult : definition.evaluator values with
    | ok verdict => exact Or.inl ⟨verdict, rfl, rfl⟩
    | error e =>
      have hkind : IsValueError e := by
        by_contra hother
        exact hcontained ⟨e, hresult, hother⟩
      exact Or.inr ⟨e, e, rfl, rfl, hkind, hkind⟩

end verdicts

/-- A network rule set with a default action. -/
def sampleNetwork (action : Json) : Document :=
  [("network_rule_set", .obj [("defaultAction", action)])]

/-- The default network control, as registered. -/
def sampleNetworkControl : ControlDefinition :=
  (AzureStorage.pack sampleLibrary).register (AzureStorage.control
    "storage_default_network_access_rule_is_denied" false false ["network_rule_set"]
    (AzureStorage.defaultNetworkDeny sampleLibrary))

/-- The sample's control is registered. -/
theorem sampleNetworkControl_mem : sampleNetworkControl ∈ registeredControls sampleLibrary := by
  refine List.mem_flatMap.mpr ⟨AzureStorage.pack sampleLibrary, ?_, ?_⟩
  · simp [controlPacks]
  · exact List.mem_map_of_mem (by simp [AzureStorage.pack])

/-- The sample's states agree on the aspects that its control declares. -/
theorem sampleNetwork_agrees (action : Json) (other : Document) :
    ∀ aspect ∈ sampleNetworkControl.evidenceAspects,
      (sampleNetwork action).lookup aspect = (sampleNetwork action ++ other).lookup aspect := by
  intro aspect haspect
  rw [sampleNetworkControl, register_evidenceAspects] at haspect
  obtain rfl := List.mem_singleton.mp haspect
  rfl

/-- A rule set that denies by default gives its verdict whatever else was captured. -/
theorem verdict_on_denied_network :
    SameVerdict sampleNetworkControl (sampleNetwork (.str "Deny"))
      (sampleNetwork (.str "Deny") ++ [("sku", .null)]) := by
  refine (verdict_on_declared_evidence_iff sampleNetworkControl_mem
    (sampleNetwork_agrees (.str "Deny") [("sku", .null)])).mpr ?_
  rintro (⟨-, network, hnetwork, haction⟩ | ⟨hrule, -⟩)
  · cases hnetwork
    cases haction
  · rw [sampleNetworkControl, register_ruleId] at hrule
    simp [AzureStorage.control] at hrule

/-- A default action that is a list makes the control raise `TypeError` on both captures. -/
theorem verdict_on_listed_action :
    ∃ definition ∈ registeredControls sampleLibrary, ∃ values others : Document,
      (∀ aspect ∈ definition.evidenceAspects, values.lookup aspect = others.lookup aspect) ∧
        ¬SameVerdict definition values others := by
  refine ⟨sampleNetworkControl, sampleNetworkControl_mem, sampleNetwork (.arr []),
    sampleNetwork (.arr []) ++ [], sampleNetwork_agrees (.arr []) [], ?_⟩
  have hraised : sampleNetworkControl.evaluator (sampleNetwork (.arr [])) =
      .error ⟨.typeError, "unhashable type: 'list'"⟩ := by
    rw [sampleNetworkControl, register_evaluator]
    rfl
  rintro (⟨verdict, hverdict, -⟩ | ⟨e, e', herror, -, hkind, -⟩)
  · rw [hraised] at hverdict
    cases hverdict
  · rw [hraised] at herror
    cases herror
    cases hkind

end ElCapitan
