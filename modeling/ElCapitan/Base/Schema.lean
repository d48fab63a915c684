import ElCapitan.Base.Json

/-!
# A fragment of JSON Schema

The keywords the output contracts use: typed strings, numbers, arrays and closed
objects. Violations are reported with their path and keyword, in the order in
which the keywords stand in a schema.
-/

namespace ElCapitan

/-- A schema; objects allow no properties but those they name. -/
inductive Schema where
  | string (enum : List String) (minLength : ℕ) (maxLength : Option ℕ)
  | number (minimum maximum : ℚ)
  | array (items : Schema) (minItems : ℕ) (maxItems : Option ℕ)
  | object (properties : List (String × Schema)) (required : List String)

/-- A violation of a schema. -/
structure SchemaError where
  path : List String
  keyword : String
  subject : Json

/-- A violation, if a keyword is not met. -/
def violation (met : Bool) (path : List String) (keyword : String) (subject : Json) :
    List SchemaError :=
  if met then [] else [⟨path, keyword, subject⟩]

/-- There is no violation where the keyword is met. -/
@[simp] theorem violation_eq_nil {met : Bool} {path : List String} {keyword : String}
    {subject : Json} : violation met path keyword subject = [] ↔ met = true := by
  cases met <;> simp [violation]

/-- Is there a length bound, and is it kept? -/
def withinBound (length : ℕ) : Option ℕ → Bool
  | some bound => length ≤ bound
  | none => true

mutual

/-- `iter_errors` of a schema on a value at a path. -/
def Schema.errors (path : List String) : Schema → Json → List SchemaError
  | .string enum minLength maxLength, value =>
    match value with
    | .str s =>
      violation (enum.isEmpty || enum.contains s) path "enum" value ++
        violation (minLength ≤ s.length) path "minLength" value ++
        violation (withinBound s.length maxLength) path "maxLength" value
    | _ => violation false path "type" value ++ violation enum.isEmpty path "enum" value
  | .number minimum maximum, value =>
    match value with
    | .int n => violation (minimum ≤ n) path "minimum" value ++
        violation (n ≤ maximum) path "maximum" value
    | .float q => violation (minimum ≤ q) path "minimum" value ++
        violation (q ≤ maximum) path "maximum" value
    | _ => violation false path "type" value
  | .array item minItems maxItems, value =>
    match value with
    | .arr items =>
      violation (withinBound items.length maxItems) path "maxItems" value ++
        violation (minItems ≤ items.length) path "minItems" value ++
        items.zipIdx.flatMap fun entry => item.errors (path ++ [toString entry.2]) entry.1
    | _ => violation false path "type" value
  | .object properties required, value =>
    match value with
    | .obj entries =>
      violation (entries.all fun entry => (properties.map Prod.fst).contains entry.1) path
          "additionalProperties" value ++
        propertyErrors path entries properties ++
        required.flatMap fun name => violation (entries.lookup name).isSome path "required"
          value
    | _ => violation false path "type" value

/-- The violations of the properties an object has. -/
def propertyErrors (path : List String) (entries : Document) :
    List (String × Schema) → List SchemaError
  | [] => []
  | (name, schema) :: properties =>
    (match entries.lookup name with
      | some value => schema.errors (path ++ [name]) value
      | none => []) ++ propertyErrors path entries properties

end

/-- Does a value conform to a schema? -/
def Schema.Conforms (schema : Schema) (value : Json) : Prop := schema.errors [] value = []

/-- The properties of an object have no errors where each present one has none. -/
theorem propertyErrors_eq_nil {path : List String} {entries : Document}
    {properties : List (String × Schema)} :
    propertyErrors path entries properties = [] ↔ ∀ property ∈ properties, ∀ value,
      entries.lookup property.1 = some value →
        property.2.errors (path ++ [property.1]) value = [] := by
  induction properties with
  | nil => simp [propertyErrors]
  | cons property properties ih =>
    obtain ⟨name, schema⟩ := property
    simp only [propertyErrors, List.append_eq_nil_iff, ih, List.forall_mem_cons]
    refine and_congr_left fun _ => ?_
    cases entries.lookup name <;> simp

/-- A required property of a conforming object has a value that meets its schema. -/
theorem Schema.required_property {path : List String} {properties : List (String × Schema)}
    {required : List String} {entries : Document} {name : String} {schema : Schema}
    (h : (Schema.object properties required).errors path (.obj entries) = [])
    (hrequired : name ∈ required) (hproperty : (name, schema) ∈ properties) :
    ∃ value, entries.lookup name = some value ∧ schema.errors (path ++ [name]) value = [] := by
  simp only [Schema.errors, List.append_eq_nil_iff, List.flatMap_eq_nil_iff,
    violation_eq_nil] at h
  obtain ⟨value, hvalue⟩ := Option.isSome_iff_exists.mp (h.2 name hrequired)
  exact ⟨value, hvalue, propertyErrors_eq_nil.mp h.1.2 _ hproperty value hvalue⟩

/-- A value that meets a string schema is a string of the enumeration. -/
theorem Schema.string_value {path : List String} {enum : List String} {minLength : ℕ}
    {maxLength : Option ℕ} {value : Json}
    (h : (Schema.string enum minLength maxLength).errors path value = []) :
    ∃ s, value = .str s ∧ (enum ≠ [] → s ∈ enum) ∧ minLength ≤ s.length := by
  cases value with
  | str s =>
    simp only [Schema.errors, List.append_eq_nil_iff, violation_eq_nil, Bool.or_eq_true,
      List.isEmpty_iff, decide_eq_true_eq] at h
    refine ⟨s, rfl, fun hne => ?_, h.1.2⟩
    simpa using h.1.1.resolve_left hne
  | _ => simp [Schema.errors, violation] at h

/-- A value that meets an array schema is an array of values that meet the item schema. -/
theorem Schema.array_value {path : List String} {item : Schema} {minItems : ℕ}
    {maxItems : Option ℕ} {value : Json}
    (h : (Schema.array item minItems maxItems).errors path value = []) :
    ∃ items, value = .arr items ∧ minItems ≤ items.length ∧
      ∀ v ∈ items, ∃ path', item.errors path' v = [] := by
  cases value with
  | arr items =>
    simp only [Schema.errors, List.append_eq_nil_iff, violation_eq_nil, decide_eq_true_eq,
      List.flatMap_eq_nil_iff] at h
    refine ⟨items, rfl, h.1.2, fun v hv => ?_⟩
    obtain ⟨i, hi, rfl⟩ := List.getElem_of_mem hv
    have hmem : (items[i], i) ∈ items.zipIdx := by
      rw [List.mem_zipIdx_iff_getElem?]
      exact List.getElem?_eq_getElem hi
    exact ⟨_, h.2 _ hmem⟩
  | _ => simp [Schema.errors, violation] at h

end ElCapitan
