import ElCapitan.Findings.Ocsf

/-!
# Security Hub findings

`asff_to_ocsf`: an ASFF finding as an OCSF document. Its compliance status and its record
state are carried to places that the outcome of a finding is not read from.
-/

namespace ElCapitan

/-- `_SEVERITY`. -/
def asffSeverity : String → String
  | "INFORMATIONAL" => "Informational"
  | "LOW" => "Low"
  | "MEDIUM" => "Medium"
  | "HIGH" => "High"
  | "CRITICAL" => "Critical"
  | _ => ""

/-- `"SchemaVersion" in document`. -/
def isAsff (raw : Document) : Bool := (raw.lookup "SchemaVersion").isSome

/-- `a or b` of two documents. -/
def Json.orElse (a b : Json) : Json := if a.truthy then a else b

/-- `value or [{}]` and its first item. -/
def firstItem (value : Json) : Except PyError Json :=
  match value with
  | .arr (first :: _) => .ok first
  | .str s => .ok (if s = "" then .obj [] else .str (String.ofList (s.toList.take 1)))
  | .obj (_ :: _) => .error (keyError "0")
  | other =>
    if other.truthy then
      .error ⟨.typeError, "'" ++ other.className ++ "' object is not subscriptable"⟩
    else .ok (.obj [])

/-- The ids of the standards a control is associated with. -/
def standardIds (standards : Json) : Except PyError (List Json) :=
  match standards with
  | .arr items => .ok (items.filterMap fun item => item.obj?.map fun standard =>
      standard.getText "StandardsId")
  | .int _ | .float _ | .bool true =>
    if standards.truthy then
      .error ⟨.typeError, "'" ++ standards.className ++ "' object is not iterable"⟩
    else .ok []
  | _ => .ok []

/-- `asff_to_ocsf`; `dumps` is `json.dumps` with sorted keys. -/
def asffToOcsf (P : Platform) (dumps : Json → String) (finding : Document) :
    Except PyError Document := do
  raiseIf (isAsff finding = false) (valueError "not an ASFF finding: no SchemaVersion")
  let first ← firstItem (finding.get "Resources")
  let primary := first.obj?.getD []
  let severity ← sectionOr finding "Severity"
  let compliance ← sectionOr finding "Compliance"
  let standards ← standardIds (compliance.get "AssociatedStandards")
  return [("class_uid", .int 2003), ("class_name", .str "Compliance Finding"),
    ("category_uid", .int 2), ("activity_id", .int 1),
    ("severity", .str (asffSeverity (P.upper (P.str (severity.getText "Label"))))),
    ("time_dt", (finding.get "UpdatedAt").orElse ((finding.get "CreatedAt").orElse (.str ""))),
    ("metadata", .obj [("version", .str "1.1.0"),
      ("product", .obj [("name", (finding.get "ProductName").orElse (.str "Security Hub")),
        ("vendor_name", .str "AWS"), ("version", finding.getText "SchemaVersion")]),
      ("event_code", (compliance.get "SecurityControlId").orElse
        (finding.getText "GeneratorId"))]),
    ("cloud", .obj [("provider", .str "AWS"), ("region", finding.getText "Region"),
      ("account", .obj [("uid", finding.getText "AwsAccountId"),
        ("type", .str "AWS Account")])]),
    ("resources", .arr [.obj [("uid", primary.getText "Id"), ("type", primary.getText "Type"),
      ("region", (primary.lookup "Region").getD (finding.getText "Region")),
      ("cloud_partition", (primary.lookup "Partition").getD (.str "aws"))]]),
    ("finding_info", .obj [("uid", finding.getText "Id"), ("title", finding.getText "Title"),
      ("desc", finding.getText "Description")]),
    ("compliance", .obj [("status", compliance.getText "Status"),
      ("control", compliance.getText "SecurityControlId"), ("standards", .arr standards)]),
    ("unmapped", .obj [("converted_by", .str "elcapitan.asff"), ("source_format", .str "ASFF"),
      ("source_schema_version", finding.getText "SchemaVersion"),
      ("generator_id", finding.getText "GeneratorId"),
      ("record_state", finding.getText "RecordState"),
      ("product_arn", finding.getText "ProductArn"),
      ("remediation", .str (dumps ((finding.get "Remediation").orElse (.obj []))))])]

end ElCapitan
