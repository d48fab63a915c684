import ElCapitan.Base.Platform
import ElCapitan.ControlPacks.Confined

/-!
# Control packs

`ControlDefinition`, `ControlPack` and `require`: a control names the evidence aspects it
may consume, and its evaluator decides from the captured aspects alone.
-/

namespace ElCapitan

/-- A network as `ipaddress.ip_network` parses it. -/
structure IpNetwork where
  version : ℕ
  isGlobal : Bool
  prefixLength : ℕ
  deriving DecidableEq

/-- Library functions the evaluators rely on. -/
structure PackLibrary where
  platform : Platform
  /-- `repr(value)`. -/
  repr : Json → String
  /-- `ipaddress.ip_network`; `none` stands for its `ValueError`. -/
  ipNetwork : String → Option IpNetwork

/-- One deterministic decision from already-collected typed evidence. -/
structure ControlEvaluation where
  confirmed : Bool
  reason : String
  deriving DecidableEq, Repr

/-- `EVIDENCE_GRADES`. -/
def evidenceGrades : List String :=
  ["contract_tested", "contract_tested_export_observed", "e2e_measured", "export_observed",
    "unverified"]

/-- The complete registration contract for one scanner control. -/
structure ControlDefinition where
  packId : String
  provider : String
  ruleId : String
  resourceFamily : String
  resourceTypes : List String
  liveValidation : Bool
  remediationPlanning : Bool
  liveExecution : Bool
  evidenceAspects : List String
  evaluator : Document → Except PyError ControlEvaluation
  evidenceGrade : String

/-- `ControlDefinition.__post_init__`. -/
def ControlDefinition.postInit (P : Platform) (definition : ControlDefinition) :
    Except PyError Unit := do
  raiseIf (definition.packId = "" ∨ definition.provider = "" ∨ definition.ruleId = "")
    (valueError "control definitions require pack, provider, and rule ids")
  raiseIf (definition.provider ≠ P.lower definition.provider)
    (valueError "control definition provider must be lower-case")
  raiseIf (definition.resourceTypes = [] ∨ "" ∈ definition.resourceTypes)
    (valueError "control definitions require explicit resource types")
  raiseIf (definition.evidenceAspects = [] ∨ "" ∈ definition.evidenceAspects)
    (valueError "control definitions require explicit evidence aspects")
  raiseIf (¬definition.evidenceAspects.Nodup)
    (valueError "control evidence aspects must be unique")
  raiseIf (definition.liveValidation = false)
    (valueError "registered deterministic controls must support validation")
  raiseIf (definition.evidenceGrade ≠ "" ∧ definition.evidenceGrade ∉ evidenceGrades)
    (valueError ("unknown evidence grade: " ++ definition.evidenceGrade))

/-- A named set of controls with the grade of those that give none. -/
structure ControlPack where
  packId : String
  controls : List ControlDefinition
  evidenceGrade : String

/-- A control of a pack as `ControlPack.__post_init__` leaves it. -/
def ControlPack.register (pack : ControlPack) (definition : ControlDefinition) :
    ControlDefinition :=
  if definition.evidenceGrade ≠ "" then definition
  else { definition with evidenceGrade := pack.evidenceGrade }

/-- The controls of a pack, each with a grade. -/
def ControlPack.registered (pack : ControlPack) : List ControlDefinition :=
  pack.controls.map pack.register

section register

variable (pack : ControlPack) (definition : ControlDefinition)

/-- Registration keeps the rule id. -/
@[simp] theorem register_ruleId : (pack.register definition).ruleId = definition.ruleId := by
  unfold ControlPack.register
  split
  · rfl
  · rfl

/-- Registration keeps the declared aspects. -/
@[simp] theorem register_evidenceAspects :
    (pack.register definition).evidenceAspects = definition.evidenceAspects := by
  unfold ControlPack.register
  split
  · rfl
  · rfl

/-- Registration keeps the evaluator. -/
@[simp] theorem register_evaluator :
    (pack.register definition).evaluator = definition.evaluator := by
  unfold ControlPack.register
  split
  · rfl
  · rfl

end register

/-- `require`. -/
def require (values : Document) (aspect : String) : Except PyError Json :=
  match values.lookup aspect with
  | some value => .ok value
  | none => .error (valueError ("live cloud state did not capture " ++ aspect))

/-- `value is None`. -/
def Json.isNull : Json → Bool
  | .null => true
  | _ => false

/-- `value is False`. -/
def Json.isFalse : Json → Bool
  | .bool b => !b
  | _ => false

/-- A list or a dictionary, which Python cannot hash. -/
def Json.unhashable : Json → Bool
  | .arr _ | .obj _ => true
  | _ => false

/-- `value in allowed` for a set of texts: the set hashes what it looks for. -/
def searchSet (allowed : List String) (value : Json) : Except PyError Bool :=
  match value with
  | .arr _ => .error ⟨.typeError, "unhashable type: 'list'"⟩
  | .obj _ => .error ⟨.typeError, "unhashable type: 'dict'"⟩
  | .str s => .ok (allowed.contains s)
  | _ => .ok false

/-- `set(document) == set(names)`. -/
def Document.hasExactly (document : Document) (names : List String) : Bool :=
  (document.all fun entry => names.contains entry.1) &&
    names.all fun name => (document.lookup name).isSome

/-- `value if isinstance(value, bool)`, else the exception. -/
def boolOr (e : PyError) : Json → Except PyError Bool
  | .bool b => .ok b
  | _ => .error e

/-- A boolean or `None`, else the exception. -/
def optionalBoolOr (e : PyError) : Json → Except PyError (Option Bool)
  | .null => .ok none
  | .bool b => .ok (some b)
  | _ => .error e

/-- A non-empty text, else the exception. -/
def textOr (e : PyError) : Json → Except PyError String
  | .str s => if s = "" then .error e else .ok s
  | _ => .error e

/-- A text or `None`, else the exception. -/
def optionalTextOr (e : PyError) : Json → Except PyError (Option String)
  | .null => .ok none
  | .str s => .ok (some s)
  | _ => .error e

/-- An integer that is no boolean, else the exception. -/
def intOr (e : PyError) : Json → Except PyError ℤ
  | .int n => .ok n
  | _ => .error e

/-- A dictionary, else the exception. -/
def dictOr (e : PyError) : Json → Except PyError Document
  | .obj entries => .ok entries
  | _ => .error e

/-- A list, else the exception. -/
def listOr (e : PyError) : Json → Except PyError (List Json)
  | .arr items => .ok items
  | _ => .error e

/-- A required aspect is the value of its entry. -/
theorem require_eq_ok {values : Document} {aspect : String} {value : Json} :
    require values aspect = .ok value ↔ values.lookup aspect = some value := by
  unfold require
  cases values.lookup aspect with
  | none => simp
  | some value' => simp

/-- A required object is an object. -/
theorem dictOr_eq_ok {e : PyError} {value : Json} {entries : Document} :
    dictOr e value = .ok entries ↔ value = .obj entries := by
  cases value <;> simp [dictOr]

/-- A required text is a text that is not empty. -/
theorem textOr_eq_ok {e : PyError} {value : Json} {text : String} :
    textOr e value = .ok text ↔ value = .str text ∧ text ≠ "" := by
  cases value with
  | str s =>
    by_cases h : s = ""
    · simp [textOr, h]
    · simp [textOr, h]
      rintro rfl
      exact h
  | _ => simp [textOr]

/-- The pack's complaint about an aspect of the live state; `subject` is its word for it. -/
def invalidAspect (L : PackLibrary) (subject aspect : String) (value : Json) : PyError :=
  valueError ("live " ++ subject ++ " state has invalid " ++ aspect ++ " " ++ L.repr value)

/-- `_bool` of the packs that have it. -/
def requireBool (L : PackLibrary) (subject : String) (values : Document) (aspect : String) :
    Except PyError Bool := do
  let value ← require values aspect
  boolOr (invalidAspect L subject aspect value) value

/-- `_optional_boolean` of the packs that have it. -/
def requireOptionalBool (L : PackLibrary) (subject : String) (values : Document)
    (aspect : String) : Except PyError (Option Bool) := do
  let value ← require values aspect
  optionalBoolOr (invalidAspect L subject aspect value) value

/-- One entry of the diagnostic settings of a resource. -/
structure DiagnosticEntry where
  setting : String
  category : Option String
  categoryGroup : Option String
  enabled : Option Bool

/-- A complaint about a diagnostic log entry; `subject` is the pack's word for the resource. -/
def invalidEntry (subject : String) (position : ℕ) (what : String) : PyError :=
  valueError ("live " ++ subject ++ " diagnostic log entry " ++ toString position ++ what)

/-- The checks on a diagnostic log entry that two packs make. -/
def diagnosticEntry (subject : String) (position : ℕ) (entry : Json) :
    Except PyError DiagnosticEntry := do
  let entry ← dictOr (invalidEntry subject position " is not an object") entry
  raiseIf (entry.hasExactly ["setting", "category", "category_group", "enabled"] = false)
    (invalidEntry subject position " has an invalid shape")
  let setting ← textOr (invalidEntry subject position " has no setting name")
    (entry.get "setting")
  let category ← optionalTextOr (invalidEntry subject position " has invalid category")
    (entry.get "category")
  let categoryGroup ←
    optionalTextOr (invalidEntry subject position " has invalid category group")
      (entry.get "category_group")
  let enabled ← optionalBoolOr (invalidEntry subject position " has invalid enabled state")
    (entry.get "enabled")
  return { setting, category, categoryGroup, enabled }

/-- The entries of a list of diagnostic settings, with their positions. -/
def diagnosticEntries (subject : String) (settings : List Json) :
    Except PyError (List DiagnosticEntry) :=
  settings.zipIdx.mapM fun entry => diagnosticEntry subject entry.2 entry.1

/-- The exceptions the packs promise: `ValueError`. -/
def IsValueError (e : PyError) : Prop := e.kind.isValueError = true

instance (e : PyError) : Decidable (IsValueError e) := by
  unfold IsValueError
  infer_instance

section confined

variable {L : PackLibrary} {aspects : List String}

/-- An evaluation that reads the given aspects only and raises `ValueError` only. -/
abbrev Declared {α : Type} (aspects : List String) (f : Document → Except PyError α) : Prop :=
  Confined (fun values aspect => values.lookup aspect) aspects IsValueError f

/-- A value error is a value error. -/
theorem raises_valueError {α : Type} (message : String) :
    Raises IsValueError (Except.error (valueError message) : Except PyError α) :=
  raises_error rfl

/-- A check raises its own error only. -/
theorem raises_raiseIf {c : Prop} [Decidable c] {e : PyError} (he : IsValueError e) :
    Raises IsValueError (raiseIf c e) :=
  raises_ite (raises_error he) (raises_ok ())

/-- The errors of evaluators are value errors. -/
theorem isValueError_valueError (message : String) : IsValueError (valueError message) := rfl

/-- Reading a boolean raises its own error only. -/
theorem raises_boolOr {e : PyError} (he : IsValueError e) (value : Json) :
    Raises IsValueError (boolOr e value) := by
  unfold boolOr
  split
  · exact raises_ok _
  · exact raises_error he

/-- Reading an optional boolean raises its own error only. -/
theorem raises_optionalBoolOr {e : PyError} (he : IsValueError e) (value : Json) :
    Raises IsValueError (optionalBoolOr e value) := by
  unfold optionalBoolOr
  split
  · exact raises_ok _
  · exact raises_ok _
  · exact raises_error he

/-- Reading a text raises its own error only. -/
theorem raises_textOr {e : PyError} (he : IsValueError e) (value : Json) :
    Raises IsValueError (textOr e value) := by
  unfold textOr
  split
  · apply raises_ite
    · exact raises_error he
    · exact raises_ok _
  · exact raises_error he

/-- Reading an optional text raises its own error only. -/
theorem raises_optionalTextOr {e : PyError} (he : IsValueError e) (value : Json) :
    Raises IsValueError (optionalTextOr e value) := by
  unfold optionalTextOr
  split
  · exact raises_ok _
  · exact raises_ok _
  · exact raises_error he

/-- Reading an integer raises its own error only. -/
theorem raises_intOr {e : PyError} (he : IsValueError e) (value : Json) :
    Raises IsValueError (intOr e value) := by
  unfold intOr
  split
  · exact raises_ok _
  · exact raises_error he

/-- Reading an object raises its own error only. -/
theorem raises_dictOr {e : PyError} (he : IsValueError e) (value : Json) :
    Raises IsValueError (dictOr e value) := by
  unfold dictOr
  split
  · exact raises_ok _
  · exact raises_error he

/-- Reading a list raises its own error only. -/
theorem raises_listOr {e : PyError} (he : IsValueError e) (value : Json) :
    Raises IsValueError (listOr e value) := by
  unfold listOr
  split
  · exact raises_ok _
  · exact raises_error he

/-- A missing aspect is a value error. -/
theorem raises_require (values : Document) (aspect : String) :
    Raises IsValueError (require values aspect) := by
  unfold require
  split
  · exact raises_ok _
  · exact raises_valueError _

/-- A required aspect is all that `require` reads. -/
theorem declared_require {aspect : String} (h : aspect ∈ aspects) :
    Declared aspects fun values => require values aspect := by
  constructor
  · intro values others hagree
    unfold require
    rw [show values.lookup aspect = others.lookup aspect from hagree aspect h]
  · intro values
    exact raises_require values aspect

/-- What is computed from a required aspect alone. -/
theorem declared_judge {α : Type} {aspect : String} (h : aspect ∈ aspects)
    {judge : Json → Except PyError α} (hjudge : ∀ value, Raises IsValueError (judge value)) :
    Declared aspects fun values => require values aspect >>= judge :=
  confined_bind (declared_require h) fun value => confined_const (hjudge value)

/-- Requiring a declared aspect as a boolean reads declared aspects only. -/
theorem declared_requireBool {subject aspect : String} (h : aspect ∈ aspects) :
    Declared aspects fun values => requireBool L subject values aspect :=
  declared_judge h fun value => raises_boolOr (isValueError_valueError _) value

/-- Requiring a declared aspect as an optional boolean reads declared aspects only. -/
theorem declared_requireOptionalBool {subject aspect : String} (h : aspect ∈ aspects) :
    Declared aspects fun values => requireOptionalBool L subject values aspect :=
  declared_judge h fun value => raises_optionalBoolOr (isValueError_valueError _) value

/-- Registered controls keep the declarations of the pack they come from. -/
theorem registered_declared {pack : ControlPack}
    (hpack : ∀ given ∈ pack.controls, Declared given.evidenceAspects given.evaluator)
    {definition : ControlDefinition} (h : definition ∈ pack.registered) :
    Declared definition.evidenceAspects definition.evaluator := by
  obtain ⟨given, hgiven, rfl⟩ := List.mem_map.mp h
  rw [register_evidenceAspects, register_evaluator]
  exact hpack given hgiven

/-- The error about an entry is a value error. -/
theorem isValueError_invalidEntry (subject : String) (position : ℕ) (what : String) :
    IsValueError (invalidEntry subject position what) := rfl

/-- Reading a diagnostic setting raises value errors only. -/
theorem raises_diagnosticEntry (subject : String) (position : ℕ) (entry : Json) :
    Raises IsValueError (diagnosticEntry subject position entry) := by
  have hinvalid := isValueError_invalidEntry subject position
  unfold diagnosticEntry
  apply raises_bind (raises_dictOr (hinvalid _) _)
  intro document
  apply raises_bind (raises_raiseIf (hinvalid _))
  intro _
  apply raises_bind (raises_textOr (hinvalid _) _)
  intro setting
  apply raises_bind (raises_optionalTextOr (hinvalid _) _)
  intro category
  apply raises_bind (raises_optionalTextOr (hinvalid _) _)
  intro categoryGroup
  apply raises_bind (raises_optionalBoolOr (hinvalid _) _)
  intro enabled
  exact raises_pure _

/-- Reading the diagnostic settings raises value errors only. -/
theorem raises_diagnosticEntries (subject : String) (settings : List Json) :
    Raises IsValueError (diagnosticEntries subject settings) := by
  unfold diagnosticEntries
  apply raises_mapM
  intro entry
  exact raises_diagnosticEntry subject entry.2 entry.1

end confined

end ElCapitan
