import ElCapitan.Agents.Contracts

/-!
# Schemas for a provider

The envelope of every model-backed role, its document, and the compilation of such a document to
the keywords that one provider supports. The compiled schema drops exactly the violations of the
keywords that are dropped.
-/

namespace ElCapitan

section documents

/-- A keyword with a bound, if there is one. -/
def boundEntry (name : String) : Option ℕ → Document
  | some bound => [(name, .int bound)]
  | none => []

/-- A number without a fraction is an integer. -/
def numeral (q : ℚ) : Json := if q.den = 1 then .int q.num else .float q

mutual

/-- The document of a schema, without its descriptions. -/
def Schema.document : Schema → Json
  | .string enum minLength maxLength =>
    .obj (("type", .str "string") :: ((if enum = [] then [] else [("enum", .ofStrings enum)]) ++
      (if minLength = 0 then [] else [("minLength", .int minLength)]) ++
      boundEntry "maxLength" maxLength))
  | .number minimum maximum =>
    .obj [("type", .str "number"), ("minimum", numeral minimum), ("maximum", numeral maximum)]
  | .array items minItems maxItems =>
    .obj (("type", .str "array") :: (boundEntry "maxItems" maxItems ++
      (if minItems = 0 then [] else [("minItems", .int minItems)]) ++
      [("items", items.document)]))
  | .object properties required =>
    .obj [("type", .str "object"), ("additionalProperties", .bool false),
      ("properties", .obj (propertyDocuments properties)), ("required", .ofStrings required)]

/-- The documents of the properties of an object. -/
def propertyDocuments : List (String × Schema) → Document
  | [] => []
  | (name, schema) :: properties => (name, schema.document) :: propertyDocuments properties

end

/-- The envelope around the output of a role. -/
def resultEnvelope (output : Schema) : Schema :=
  .object
    [("status", .string ["succeeded", "needs_more_evidence", "needs_human_context", "failed"] 0
        none),
      ("output", output), ("evidence_cited", stringArray), ("missing_evidence", stringArray)]
    ["status", "output", "evidence_cited", "missing_evidence"]

/-- `agent_result_schema`. -/
def agentResultSchema (contract : String) : Except PyError Schema :=
  (outputSchema contract).map resultEnvelope

end documents

section compilation

/-- The keywords that `_anthropic_schema` drops. -/
def unsupportedKeywords : List String := ["maxItems", "maxLength"]

mutual

/-- `compile_value`. -/
def compileValue : Json → Json
  | .obj entries => .obj (compileEntries entries)
  | .arr items => .arr (compileItems items)
  | value => value

/-- The entries that are kept, with compiled values. -/
def compileEntries : Document → Document
  | [] => []
  | (name, value) :: entries =>
    if name ∈ unsupportedKeywords then compileEntries entries
    else (name, compileValue value) :: compileEntries entries

/-- The compiled items of an array. -/
def compileItems : List Json → List Json
  | [] => []
  | item :: items => compileValue item :: compileItems items

end

/-- `_anthropic_schema`. -/
def anthropicSchema (contract : String) : Except PyError Json :=
  (agentResultSchema contract).map fun schema => compileValue schema.document

mutual

/-- A schema without upper bounds of lengths. -/
def Schema.relaxed : Schema → Schema
  | .string enum minLength _ => .string enum minLength none
  | .number minimum maximum => .number minimum maximum
  | .array items minItems _ => .array items.relaxed minItems none
  | .object properties required => .object (relaxedProperties properties) required

/-- Properties without upper bounds of lengths. -/
def relaxedProperties : List (String × Schema) → List (String × Schema)
  | [] => []
  | (name, schema) :: properties => (name, schema.relaxed) :: relaxedProperties properties

end

mutual

/-- Is no property named like a keyword that is dropped? -/
def Schema.plainNames : Schema → Bool
  | .string _ _ _ => true
  | .number _ _ => true
  | .array items _ _ => items.plainNames
  | .object properties _ => plainProperties properties

/-- Are no properties named like a keyword that is dropped? -/
def plainProperties : List (String × Schema) → Bool
  | [] => true
  | (name, schema) :: properties =>
    name ∉ unsupportedKeywords && schema.plainNames && plainProperties properties

end

/-- Induction along a schema. -/
theorem Schema.induction {P : Schema → Prop}
    (string : ∀ enum minLength maxLength, P (.string enum minLength maxLength))
    (number : ∀ minimum maximum, P (.number minimum maximum))
    (array : ∀ items minItems maxItems, P items → P (.array items minItems maxItems))
    (object : ∀ (properties : List (String × Schema)) required,
      (∀ property ∈ properties, P property.2) → P (.object properties required)) :
    ∀ schema, P schema :=
  @Schema.rec P (fun properties => ∀ property ∈ properties, P property.2)
    (fun property => P property.2) string number array object (by simp)
    (fun _ _ hproperty hproperties => List.forall_mem_cons.mpr ⟨hproperty, hproperties⟩)
    (fun _ _ h => h)

/-- Texts of a list are kept as they are. -/
theorem compileItems_strings (values : List String) :
    compileItems (values.map Json.str) = values.map Json.str := by
  induction values with
  | nil => rfl
  | cons value values ih =>
    rw [List.map_cons, compileItems, ih]
    rfl

/-- The entries of a schema are compiled one after another. -/
theorem compileEntries_append (entries more : Document) :
    compileEntries (entries ++ more) = compileEntries entries ++ compileEntries more := by
  induction entries with
  | nil => rfl
  | cons entry entries ih =>
    obtain ⟨name, value⟩ := entry
    rw [List.cons_append, compileEntries, compileEntries, ih]
    split <;> rfl

/-- The bound of an unsupported keyword is dropped. -/
theorem compileEntries_boundEntry {name : String} (h : name ∈ unsupportedKeywords)
    (bound : Option ℕ) : compileEntries (boundEntry name bound) = [] := by
  cases bound with
  | none => rfl
  | some bound =>
    rw [boundEntry, compileEntries, if_pos h]
    rfl

/-- Compiling the document of a schema gives the document of its relaxation. -/
theorem compileValue_document {schema : Schema} (h : schema.plainNames = true) :
    compileValue schema.document = schema.relaxed.document := by
  induction schema using Schema.induction with
  | string enum minLength maxLength =>
    have henum : compileEntries (if enum = [] then [] else [("enum", Json.ofStrings enum)]) =
        if enum = [] then [] else [("enum", Json.ofStrings enum)] := by
      split
      · rfl
      · rw [compileEntries, if_neg (by decide), Json.ofStrings, compileValue,
          compileItems_strings]
        rfl
    have hmin : compileEntries (if minLength = 0 then [] else [("minLength", .int minLength)]) =
        if minLength = 0 then [] else [("minLength", .int minLength)] := by
      split <;> rfl
    rw [Schema.document, compileValue, compileEntries, if_neg (by decide), compileEntries_append,
      compileEntries_append, henum, hmin, compileEntries_boundEntry (by decide)]
    rfl
  | number minimum maximum =>
    have hnumeral (q : ℚ) : compileValue (numeral q) = numeral q := by
      unfold numeral
      split <;> rfl
    rw [Schema.document, compileValue, compileEntries, if_neg (by decide), compileEntries,
      if_neg (by decide), compileEntries, if_neg (by decide), hnumeral, hnumeral]
    rfl
  | array items minItems maxItems ih =>
    have hmin : compileEntries (if minItems = 0 then [] else [("minItems", .int minItems)]) =
        if minItems = 0 then [] else [("minItems", .int minItems)] := by
      split <;> rfl
    have hitems : compileEntries [("items", items.document)] =
        [("items", items.relaxed.document)] := by
      rw [compileEntries, if_neg (by decide), ih h]
      rfl
    rw [Schema.document, compileValue, compileEntries, if_neg (by decide), compileEntries_append,
      compileEntries_append, compileEntries_boundEntry (by decide), hmin, hitems]
    rfl
  | object properties required ih =>
    have hproperties : compileEntries (propertyDocuments properties) =
        propertyDocuments (relaxedProperties properties) := by
      change plainProperties properties = true at h
      induction properties with
      | nil => rfl
      | cons property properties ihrest =>
        obtain ⟨name, schema⟩ := property
        rw [List.forall_mem_cons] at ih
        rw [plainProperties, Bool.and_eq_true, Bool.and_eq_true, decide_eq_true_iff] at h
        rw [propertyDocuments, compileEntries, if_neg h.1.1, ih.1 h.1.2, ihrest ih.2 h.2,
          relaxedProperties, propertyDocuments]
    rw [Schema.document, compileValue, compileEntries, if_neg (by decide), compileEntries,
      if_neg (by decide), compileEntries, if_neg (by decide), compileEntries, if_neg (by decide),
      compileValue, hproperties, Json.ofStrings, compileValue, compileItems_strings]
    rfl

/-- Is a violation one of a keyword that is kept? -/
def keptError (error : SchemaError) : Bool := error.keyword ∉ unsupportedKeywords

/-- A violation of a supported keyword is kept. -/
theorem filter_violation {met : Bool} {path : List String} {keyword : String} {subject : Json}
    (h : keyword ∉ unsupportedKeywords) :
    (violation met path keyword subject).filter keptError = violation met path keyword subject := by
  cases met with
  | true => rfl
  | false => exact List.filter_cons_of_pos (decide_eq_true h)

/-- A violation of an unsupported keyword is dropped. -/
theorem filter_dropped {met : Bool} {path : List String} {keyword : String} {subject : Json}
    (h : keyword ∈ unsupportedKeywords) :
    (violation met path keyword subject).filter keptError = [] := by
  cases met with
  | true => rfl
  | false => exact List.filter_cons_of_neg (by simpa [keptError] using h)

/-- A relaxed schema reports what the schema reports, except for the upper bounds of lengths. -/
theorem errors_relaxed (schema : Schema) (path : List String) (value : Json) :
    schema.relaxed.errors path value = (schema.errors path value).filter keptError := by
  induction schema using Schema.induction generalizing path value with
  | string enum minLength maxLength =>
    cases value with
    | str s =>
      rw [Schema.relaxed, Schema.errors, Schema.errors, List.filter_append, List.filter_append,
        filter_violation (by decide), filter_violation (by decide), filter_dropped (by decide)]
      rfl
    | _ =>
      rw [Schema.relaxed, Schema.errors, Schema.errors, List.filter_append,
        filter_violation (by decide), filter_violation (by decide)]
      all_goals simp
  | number minimum maximum =>
    cases value with
    | int n =>
      rw [Schema.relaxed, Schema.errors, List.filter_append, filter_violation (by decide),
        filter_violation (by decide)]
    | float q =>
      rw [Schema.relaxed, Schema.errors, List.filter_append, filter_violation (by decide),
        filter_violation (by decide)]
    | _ =>
      rw [Schema.relaxed, Schema.errors, filter_violation (by decide)]
      all_goals simp
  | array items minItems maxItems ih =>
    cases value with
    | arr values =>
      rw [Schema.relaxed, Schema.errors, Schema.errors, List.filter_append, List.filter_append,
        filter_dropped (by decide), filter_violation (by decide), List.filter_flatMap]
      congr 1
      exact List.flatMap_congr fun entry _ => ih _ _
    | _ =>
      rw [Schema.relaxed, Schema.errors, Schema.errors, filter_violation (by decide)]
      all_goals simp
  | object properties required ih =>
    cases value with
    | obj entries =>
      have hnames : (relaxedProperties properties).map Prod.fst = properties.map Prod.fst := by
        clear ih
        induction properties with
        | nil => rfl
        | cons property properties ih =>
          obtain ⟨name, schema⟩ := property
          rw [relaxedProperties, List.map_cons, List.map_cons, ih]
      have hproperties : propertyErrors path entries (relaxedProperties properties) =
          (propertyErrors path entries properties).filter keptError := by
        clear hnames
        induction properties with
        | nil => rfl
        | cons property properties ihrest =>
          obtain ⟨name, schema⟩ := property
          rw [List.forall_mem_cons] at ih
          rw [relaxedProperties, propertyErrors, propertyErrors, List.filter_append,
            ihrest ih.2]
          cases entries.lookup name with
          | none => rfl
          | some value =>
            dsimp only
            rw [← ih.1]
      rw [Schema.relaxed, Schema.errors, Schema.errors, List.filter_append, List.filter_append,
        filter_violation (by decide), hnames, hproperties, List.filter_flatMap]
      congr 1
      exact List.flatMap_congr fun name _ => (filter_violation (by decide)).symm
    | _ =>
      rw [Schema.relaxed, Schema.errors, Schema.errors, filter_violation (by decide)]
      all_goals simp

/-- The schema that the one provider is given is the contract's with some keywords removed, and a
document violates it exactly where it violates the contract in another keyword. -/
theorem anthropicSchema_relaxes :
    (∀ contract, anthropicSchema contract =
      (agentResultSchema contract).map fun schema => schema.relaxed.document) ∧
    ∀ (schema : Schema) (path : List String) (value : Json),
      schema.relaxed.errors path value =
        (schema.errors path value).filter fun error => error.keyword ∉ unsupportedKeywords := by
  refine ⟨fun contract => ?_, errors_relaxed⟩
  unfold anthropicSchema agentResultSchema outputSchema
  cases hschema : outputContracts.lookup contract with
  | none => rfl
  | some schema =>
    have hall : ∀ entry ∈ outputContracts, (resultEnvelope entry.2).plainNames = true := by decide
    obtain ⟨before, after, hcontracts, -⟩ := List.lookup_eq_some_iff.mp hschema
    have hplain := hall (contract, schema) (hcontracts ▸ List.mem_append_right _ List.mem_cons_self)
    exact congrArg Except.ok (compileValue_document hplain)

end compilation

end ElCapitan
