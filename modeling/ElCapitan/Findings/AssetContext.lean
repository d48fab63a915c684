import ElCapitan.Services.Intake
import ElCapitan.Services.Planning

/-!
# Asset context

The business context of a resource, as a batch supplies it in rows: `parse_asset_contexts`
refuses rows that are not exact, and keys the others by their resource.
-/

namespace ElCapitan

variable (P : Platform)

/-- `asset_key`: Azure ARM ids are compared without regard to case. -/
def assetKey (resourceUid : String) : String :=
  let value := P.strip resourceUid
  if "/subscriptions/".toList.isPrefixOf (P.lower value).toList then P.lower value else value

/-- `MAX_ASSET_CONTEXT_ROWS`. -/
def maxAssetContextRows : ℕ := 5000

/-- `ENVIRONMENTS`. -/
def assetEnvironments : List String :=
  ["production", "staging", "test", "development", "shared", "unknown"]

/-- `ASSET_CONTEXT_FIELDS`. -/
def assetContextFields : List String :=
  ["resource_uid", "environment", "owner", "asset_criticality", "internet_exposed", "reachable",
    "runtime_dependency", "compensating_control_strength", "service_ids", "context_source",
    "observed_at", "evidence_references", "synthetic_business_context"]

/-- `AssetContext`. -/
structure AssetContext where
  resourceUid : String
  environment : String
  owner : String
  assetCriticality : ℚ
  internetExposed : Option Bool
  reachable : Bool
  runtimeDependency : Bool
  compensatingControlStrength : ℚ
  serviceIds : List String
  contextSource : String
  observedAt : String
  evidenceReferences : List String
  syntheticBusinessContext : Bool
  contextDigest : String

/-- `AssetContext.intake_context`. -/
def AssetContext.intakeContext (asset : AssetContext) (fallback : IntakeContext) :
    IntakeContext where
  assetCriticality := asset.assetCriticality
  exploitProbability := fallback.exploitProbability
  internetExposed := asset.internetExposed
  reachable := asset.reachable
  knownExploited := fallback.knownExploited
  activeExploitation := fallback.activeExploitation
  runtimeDependency := asset.runtimeDependency
  compensatingControlStrength := asset.compensatingControlStrength
  serviceIds := asset.serviceIds

/-- `AssetContext.to_dict`. -/
def AssetContext.toDict (asset : AssetContext) : Document :=
  [("resource_uid", .str asset.resourceUid), ("environment", .str asset.environment),
    ("owner", .str asset.owner), ("asset_criticality", .float asset.assetCriticality),
    ("internet_exposed", (asset.internetExposed.map Json.bool).getD .null),
    ("reachable", .bool asset.reachable), ("runtime_dependency", .bool asset.runtimeDependency),
    ("compensating_control_strength", .float asset.compensatingControlStrength),
    ("service_ids", .ofStrings asset.serviceIds), ("context_source", .str asset.contextSource),
    ("observed_at", .str asset.observedAt),
    ("evidence_references", .ofStrings asset.evidenceReferences),
    ("synthetic_business_context", .bool asset.syntheticBusinessContext),
    ("context_digest", .str asset.contextDigest)]

/-- An error about a field of a row. -/
def assetFieldError (name problem : String) : PyError :=
  valueError ("asset context " ++ name ++ " " ++ problem)

/-- `_string`. -/
def assetString (document : Document) (name : String) (required : Bool) (maximum : ℕ) :
    Except PyError String := do
  let value ← match (document.getText name).str? with
    | some value => .ok (P.strip value)
    | none => .error (assetFieldError name "must be a string")
  raiseIf (required = true ∧ value = "") (assetFieldError name "is required")
  raiseIf (maximum < value.length)
    (assetFieldError name ("must be at most " ++ toString maximum ++ " characters"))
  return value

/-- `_number`. -/
def assetNumber (document : Document) (name : String) : Except PyError ℚ := do
  let value ← match ((document.lookup name).getD (.int 0)).number? with
    | some value => .ok value
    | none => .error (assetFieldError name "must be a number")
  raiseIf (¬(0 ≤ value ∧ value ≤ 1)) (assetFieldError name "must be between 0 and 1")
  return value

/-- `_boolean`. -/
def assetBoolean (document : Document) (name : String) : Except PyError Bool :=
  match (document.lookup name).getD (.bool false) with
  | .bool value => .ok value
  | _ => .error (assetFieldError name "must be a boolean")

/-- `_optional_boolean`. -/
def assetOptionalBoolean (document : Document) (name : String) : Except PyError (Option Bool) :=
  match document.get name with
  | .null => .ok none
  | .bool value => .ok (some value)
  | _ => .error (assetFieldError name "must be a boolean or null")

/-- `_strings`. -/
def assetStrings (document : Document) (name : String) (maximumItems maximumLength : ℕ) :
    Except PyError (List String) := do
  let refuse := assetFieldError name
    ("must be an array of at most " ++ toString maximumItems ++ " strings")
  let items ← match (document.lookup name).getD (.arr []) with
    | .arr items => if maximumItems < items.length then .error refuse else .ok items
    | _ => .error refuse
  let texts ← match items.mapM Json.str? with
    | some texts => .ok (texts.map P.strip)
    | none => .error (assetFieldError name "entries must be strings")
  raiseIf (texts.any fun text => decide (text = "") || decide (maximumLength < text.length))
    (assetFieldError name ("entries must be 1 to " ++ toString maximumLength ++ " characters"))
  return fromKeys texts

/-- One row of asset context. -/
def assetContextOf (raw : Document) : Except PyError AssetContext := do
  let unknown := sortedDifference (raw.map Prod.fst) assetContextFields
  raiseIf (unknown ≠ [])
    (valueError ("asset context contains unknown field(s): " ++ ", ".intercalate unknown))
  raiseIf ((raw.lookup "asset_criticality").isNone)
    (valueError "asset context asset_criticality is required")
  let resourceUid ← assetString P raw "resource_uid" true 2000
  let environment ← assetString P raw "environment" true 50
  raiseIf (P.lower environment ∉ assetEnvironments)
    (valueError ("asset context environment must be one of " ++
      ", ".intercalate (sortedSet assetEnvironments)))
  let owner ← assetString P raw "owner" true 200
  let assetCriticality ← assetNumber raw "asset_criticality"
  let internetExposed ← assetOptionalBoolean raw "internet_exposed"
  let reachable ← assetBoolean raw "reachable"
  let runtimeDependency ← assetBoolean raw "runtime_dependency"
  let compensatingControlStrength ← assetNumber raw "compensating_control_strength"
  let serviceIds ← assetStrings P raw "service_ids" 100 200
  let contextSource ← assetString P raw "context_source" true 200
  let observedAt ← assetString P raw "observed_at" false 100
  let evidenceReferences ← assetStrings P raw "evidence_references" 50 1000
  let syntheticBusinessContext ← assetBoolean raw "synthetic_business_context"
  raiseIf (evidenceReferences = [])
    (valueError "asset context evidence_references must not be empty")
  raiseIf (internetExposed.isSome = true ∧ observedAt = "")
    (valueError "asset context observed_at is required when internet_exposed is known")
  return { resourceUid, environment := P.lower environment, owner, assetCriticality,
           internetExposed, reachable, runtimeDependency, compensatingControlStrength,
           serviceIds, contextSource, observedAt, evidenceReferences, syntheticBusinessContext,
           contextDigest := P.canonicalHash (.obj raw) }

/-- The rows from this index on, keyed by their resource. -/
def assetContextsFrom (index : ℕ) (parsed : List (String × AssetContext)) :
    List Json → Except PyError (List (String × AssetContext))
  | [] => .ok parsed
  | row :: rest => do
    let wrap := fun message => valueError
      ("asset context row " ++ toString (index + 1) ++ ": " ++ message)
    let raw ← match row.obj? with
      | some raw => .ok raw
      | none => .error (valueError
          ("asset context row " ++ toString (index + 1) ++ " is not an object"))
    let asset ← match assetContextOf P raw with
      | .ok asset => .ok asset
      | .error e => if e.kind.isValueError then .error (wrap e.message) else .error e
    let key := assetKey P asset.resourceUid
    raiseIf ((parsed.lookup key).isSome)
      (wrap "duplicate resource_uid after normalization")
    assetContextsFrom (index + 1) (parsed ++ [(key, asset)]) rest

/-- `parse_asset_contexts`. -/
def parseAssetContexts (documents : Option (List Json)) :
    Except PyError (List (String × AssetContext)) := do
  let rows := documents.getD []
  raiseIf (maxAssetContextRows < rows.length)
    (valueError ("asset context must contain at most " ++ toString maxAssetContextRows ++ " rows"))
  assetContextsFrom P 0 [] rows

end ElCapitan
