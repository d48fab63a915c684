import ElCapitan.Base.Platform

/-!
# OCSF findings

The identity, the target and the outcome of a scanner's finding, read from its
OCSF document. A document is any JSON object; a section of the wrong type raises
the error that the source's attribute access raises.
-/

namespace ElCapitan

variable (P : Platform)

/-- The class name of a value, as an `AttributeError` names it. -/
def Json.className : Json → String
  | .null => "NoneType"
  | .bool _ => "bool"
  | .int _ => "int"
  | .float _ => "float"
  | .str _ => "str"
  | .arr _ => "list"
  | .obj _ => "dict"

/-- A value whose `get` method is used. -/
def asDict (value : Json) : Except PyError Document :=
  match value with
  | .obj entries => .ok entries
  | other => .error ⟨.attributeError,
      "'" ++ other.className ++ "' object has no attribute 'get'"⟩

/-- `raw.get(name) or {}`, to be used as a mapping. -/
def sectionOr (raw : Document) (name : String) : Except PyError Document :=
  if (raw.get name).truthy then asDict (raw.get name) else .ok []

/-- `raw.get(name, {})`, to be used as a mapping. -/
def sectionDefault (raw : Document) (name : String) : Except PyError Document :=
  match raw.lookup name with
  | some value => asDict value
  | none => .ok []

/-- `dict(value)`. -/
def dictOf (value : Json) : Except PyError Document :=
  match value with
  | .obj entries => .ok entries
  | .arr [] | .str "" => .ok []
  | other => .error ⟨.typeError, "'" ++ other.className ++ "' object is not iterable"⟩

/-- `document.get(name, "")`. -/
def Document.getText (document : Document) (name : String) : Json :=
  (document.lookup name).getD (.str "")

/-- `OCSF_SEVERITY`. -/
def ocsfSeverity : ℤ → Option String
  | 0 => some "Unknown"
  | 1 => some "Informational"
  | 2 => some "Low"
  | 3 => some "Medium"
  | 4 => some "High"
  | 5 => some "Critical"
  | 6 => some "Fatal"
  | _ => none

/-- `PROWLER_OUTCOMES`. -/
def prowlerOutcomes : List String := ["FAIL", "PASS", "MANUAL"]

/-- `_product_name`. -/
def productName (raw : Document) : Except PyError String := do
  let metadata ← sectionOr raw "metadata"
  let product ← sectionOr metadata "product"
  return (product.getText "name").str?.getD ""

/-- `finding_rule_id`. -/
def findingRuleId (raw : Document) : Except PyError String := do
  let metadata ← sectionOr raw "metadata"
  let findingInfo ← sectionOr raw "finding_info"
  let analytic ← sectionOr findingInfo "analytic"
  let unmapped ← sectionOr raw "unmapped"
  let values := [analytic.get "uid", metadata.get "event_code",
    unmapped.get "prowler_check_id"]
  return P.str ((values.find? Json.truthy).getD (.str ""))

/-- Is the producer Prowler? -/
def isProwler (raw : Document) : Except PyError Bool := do
  let name ← productName raw
  return P.lower (P.strip name) = "prowler"

/-- `prowler_outcome`. -/
def prowlerOutcome (raw : Document) : Except PyError (Option String) := do
  let prowler ← isProwler P raw
  if prowler then
    let outcome := match (raw.get "status_code").str? with
      | some value => P.upper (P.strip value)
      | none => ""
    if outcome ∈ prowlerOutcomes then return some outcome
    else throw (valueError "Prowler OCSF finding must have status_code FAIL, PASS, or MANUAL")
  else return none

/-- `_severity`. -/
def severityOf (raw : Document) : String :=
  match raw.get "severity", raw.get "severity_id" with
  | .str severity, severityId =>
    if severity ≠ "" then severity
    else match severityId with
      | .int n => (ocsfSeverity n).getD ("severity_id=" ++ toString n)
      | _ => ""
  | _, .int n => (ocsfSeverity n).getD ("severity_id=" ++ toString n)
  | _, _ => ""

/-- `_observed_at`. -/
def observedAt (raw : Document) : String :=
  match (raw.get "time_dt").str? with
  | some timeDt => if timeDt ≠ "" then timeDt else fromEpoch
  | none => fromEpoch
where
  /-- The text of the producer's epoch time. -/
  fromEpoch : String :=
    match (raw.get "time").number? with
    | some epoch =>
      (P.utcFromTimestamp (if epoch > 100000000000 then epoch / 1000 else epoch)).getD ""
    | none => ""

/-- `resources = raw.get("resources") or [{}]` and its first item. -/
def primaryResource (raw : Document) : Except PyError Json :=
  match raw.get "resources" with
  | .arr (first :: _) => .ok first
  | .str s => .ok (if s = "" then .obj [] else .str (String.ofList (s.toList.take 1)))
  | .obj (_ :: _) => .error (keyError "0")
  | other =>
    if other.truthy then
      .error ⟨.typeError, "'" ++ other.className ++ "' object is not subscriptable"⟩
    else .ok (.obj [])

/-- `cloud_target`: the provider, the resource and the region. -/
def cloudTarget (raw : Document) : Except PyError (String × Json × String) := do
  let cloud ← sectionOr raw "cloud"
  let first ← primaryResource raw
  let primary := first.obj?.getD []
  let region := match cloud.getText "region" with
    | .null => ""
    | value => P.str value
  let provider := match (cloud.getText "provider").str? with
    | some text => P.lower text
    | none => ""
  return (provider, primary.getText "uid", region)

/-- The names of the values that are not non-empty texts. -/
def missingTexts (values : Document) : List String :=
  (values.filter fun entry => (entry.2.str?.getD "") = "").map Prod.fst

/-- `source_identity`: the provider, the account and the source key. -/
def sourceIdentity (raw : Document) : Except PyError (String × String × String) := do
  let (provider, resourceUid, _) ← cloudTarget P raw
  let cloud ← sectionOr raw "cloud"
  let account ← sectionOr cloud "account"
  let findingInfo ← sectionOr raw "finding_info"
  let originalUid := findingInfo.getText "uid"
  let accountUid := account.getText "uid"
  let missing := missingTexts [("provider", .str provider), ("account", accountUid),
    ("original_uid", originalUid)]
  raiseIf (missing ≠ []) (valueError
    ("OCSF finding has no stable source identity: missing " ++ ", ".intercalate missing))
  let prowler ← isProwler P raw
  if prowler then
    let ruleId ← findingRuleId P raw
    let scopedValues := [("uid", originalUid), ("rule_id", .str ruleId),
      ("resource_uid", resourceUid)]
    let scopedMissing := missingTexts scopedValues
    raiseIf (scopedMissing ≠ []) (valueError
      ("Prowler OCSF finding has no collision-safe source identity: missing " ++
        ", ".intercalate scopedMissing))
    return (provider, accountUid.str?.getD "", "prowler:" ++ P.canonicalHash (.obj scopedValues))
  else return (provider, accountUid.str?.getD "", originalUid.str?.getD "")

/-- The record `normalise_ocsf` returns, once the raw event is stored. -/
def normalisedRecord (raw : Document) (findingId : String) (rawRef : Document) :
    Except PyError Document := do
  let metadata ← sectionDefault raw "metadata"
  let findingInfo ← sectionDefault raw "finding_info"
  let ruleId ← findingRuleId P raw
  let product ← sectionDefault metadata "product"
  let cloud ← sectionDefault raw "cloud"
  let account ← sectionDefault cloud "account"
  let (provider, resourceUid, region) ← cloudTarget P raw
  let first ← primaryResource raw
  let primary ← asDict first
  let unmapped ← dictOf ((raw.lookup "unmapped").getD (.obj []))
  return [("finding_id", .str findingId),
    ("ocsf", .obj [("version", metadata.getText "version"), ("class_uid", raw.get "class_uid"),
      ("original_uid", findingInfo.getText "uid"), ("title", findingInfo.getText "title"),
      ("rule_id", .str ruleId)]),
    ("provenance", .obj [("product", product.getText "name"),
      ("product_version", product.getText "version"), ("provider", .str provider),
      ("account", account.getText "uid"), ("region", .str region),
      ("observed_at", .str (observedAt P raw))]),
    ("resource", .obj [("uid", resourceUid), ("type", primary.getText "type")]),
    ("severity", .str (severityOf raw)),
    ("raw_event", .obj rawRef),
    ("vendor_extensions", .obj unmapped)]

end ElCapitan
