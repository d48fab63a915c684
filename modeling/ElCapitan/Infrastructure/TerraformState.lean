import ElCapitan.Infrastructure.CdkLink
import ElCapitan.Infrastructure.PlanScope

/-!
# The owner of a resource in a Terraform state

`_state_owner`: a state document is flattened to its resources, whether it is a raw state or the
answer of `terraform show -json`, and the one resource that has the identity of a cloud resource
owns it.
-/

namespace ElCapitan

section identity

variable (P : Platform)

/-- A letter of a pattern matches a character under `re.IGNORECASE`. -/
def matchesIgnoringCase (letter c : Char) : Bool :=
  c.toLower = letter.toLower || (letter.toLower = 's' && c = 'ſ') ||
    (letter.toLower = 'i' && (c = 'İ' || c = 'ı'))

/-- A literal of a pattern matches a whole segment under `re.IGNORECASE`. -/
def segmentIgnoringCase (literal : String) (segment : List Char) : Bool :=
  literal.length = segment.length &&
    (literal.toList.zip segment).all fun pair => matchesIgnoringCase pair.1 pair.2

/-- `_CloudIdentity`. -/
structure CloudIdentity where
  terraformType : Option String
  name : String
  resourceGroup : String := ""

/-- `_AZURE_TYPES`. -/
def azureTypes : List ((String × String) × String) :=
  [(("microsoft.storage", "storageaccounts"), "azurerm_storage_account"),
    (("microsoft.web", "sites"), "azurerm_linux_web_app"),
    (("microsoft.app", "containerapps"), "azurerm_container_app"),
    (("microsoft.keyvault", "vaults"), "azurerm_key_vault")]

/-- The Azure pattern of `_cloud_identity`, at the segment after a slash. -/
def azureIdentityAt : List (List Char) → Option CloudIdentity
  | groups :: group :: providers :: space :: kind :: name :: _ =>
    if segmentIgnoringCase "resourceGroups" groups ∧ group ≠ [] ∧
        segmentIgnoringCase "providers" providers ∧ space ≠ [] ∧ kind ≠ [] ∧ name ≠ [] then
      some { terraformType := azureTypes.lookup
                (P.lower (String.ofList space), P.lower (String.ofList kind)),
             name := String.ofList name, resourceGroup := String.ofList group }
    else none
  | _ => none

/-- `_cloud_identity`. -/
def cloudIdentity (provider resourceUid : String) : CloudIdentity :=
  let unknown : CloudIdentity := { terraformType := none, name := "" }
  if P.lower provider = "azure" then
    ((resourceUid.toList.splitOnP fun c => c = '/').tail.tails.findSome?
      (azureIdentityAt P)).getD unknown
  else if P.lower provider = "aws" then
    match s3ArnBucket resourceUid with
    | some name => { terraformType := some "aws_s3_bucket", name }
    | none => unknown
  else unknown

end identity

/-- `json.dumps` of a text. -/
def dumpsText (text : String) : String := asciiJson (quoted text)

/-- A resource of a state: an entry of `_state_resources`. -/
structure FoundResource where
  address : String
  resourceType : String
  resourceName : String
  values : Json

section flattening

variable (P : Platform)

/-- `str(entries.get(name) or "")`. -/
def statedText (entries : Document) (name : String) : String :=
  if (entries.get name).truthy then P.str (entries.get name) else ""

/-- `entries.get(name) or {}`. -/
def objectOr (entries : Document) (name : String) : Json :=
  if (entries.get name).truthy then entries.get name else .obj []

/-- `entries.get(name, ())`, to be iterated over. -/
def itemsIn (entries : Document) (name : String) : Except PyError (List Json) :=
  match entries.lookup name with
  | some items => iterated items
  | none => .ok []

/-- The body of the loop over a module's resources. -/
def moduleResource (item : Json) : Except PyError FoundResource := do
  let resource ← asDict item
  return { address := statedText P resource "address", resourceType := statedText P resource "type",
           resourceName := statedText P resource "name", values := objectOr resource "values" }

mutual

/-- `visit_module`. -/
def visitModule : Json → Except PyError (List FoundResource)
  | .obj entries => do
    let resources ← itemsIn entries "resources"
    let found ← resources.mapM (moduleResource P)
    let below ← visitChildren entries
    return found ++ below
  | other => (asDict other).map fun _ => []

/-- The loop over `module.get("child_modules", ())`. -/
def visitChildren : Document → Except PyError (List FoundResource)
  | [] => .ok []
  | (name, value) :: entries =>
    if name = "child_modules" then visitItems value else visitChildren entries

/-- Iterating over a value that should list modules. -/
def visitItems : Json → Except PyError (List FoundResource)
  | .arr items => visitModules items
  | other => do
    let items ← iterated other
    (items.mapM asDict).map fun _ => []

/-- Visiting modules one after another. -/
def visitModules : List Json → Except PyError (List FoundResource)
  | [] => .ok []
  | child :: children => do
    let found ← visitModule child
    let others ← visitModules children
    return found ++ others

end

/-- A module gives its own resources and those below it. -/
theorem visitModule_obj (entries : Document) : visitModule P (.obj entries) = do
    let resources ← itemsIn entries "resources"
    let found ← resources.mapM (moduleResource P)
    let below ← visitChildren P entries
    return found ++ below :=
  rfl

/-- The first entry with the name of children is visited. -/
theorem visitChildren_cons (name : String) (value : Json) (entries : Document) :
    visitChildren P ((name, value) :: entries) =
      if name = "child_modules" then visitItems P value else visitChildren P entries :=
  rfl

/-- Modules are visited one after another. -/
theorem visitModules_cons (child : Json) (children : List Json) :
    visitModules P (child :: children) = do
      let found ← visitModule P child
      let others ← visitModules P children
      return found ++ others :=
  rfl

/-- The part of a document that `terraform show -json` writes. -/
def shownResources (document : Document) : Except PyError (List FoundResource) :=
  match document.get "values" with
  | .obj values =>
    match Document.get values "root_module" with
    | .obj root => visitModule P (.obj root)
    | _ => .ok []
  | _ => .ok []

/-- `f"{value}"`. -/
def formatted : Json → String
  | .int n => toString n
  | other => P.str other

/-- `f"[{index_key}]"`, with a text as JSON. -/
def indexSuffix : Json → String
  | .str key => "[" ++ dumpsText key ++ "]"
  | other => "[" ++ formatted P other ++ "]"

/-- The address of a raw resource without its index. -/
def baseAddress (resource : Document) : String :=
  let field (name : String) : String := ((resource.lookup name).map (formatted P)).getD ""
  (if (resource.get "module").truthy then formatted P (resource.get "module") ++ "." else "") ++
    field "type" ++ "." ++ field "name"

/-- The body of the loop over a raw resource's instances; `count` is their number. -/
def rawInstance (resource : Document) (count index : ℕ) (item : Json) :
    Except PyError FoundResource := do
  let entries ← asDict item
  let suffix := indexSuffix P ((entries.lookup "index_key").getD (.int index))
  return { address := if (entries.lookup "index_key").isSome ∨ 1 < count then
              baseAddress P resource ++ suffix else baseAddress P resource,
           resourceType := statedText P resource "type",
           resourceName := statedText P resource "name",
           values := objectOr entries "attributes" }

/-- The loop over a raw resource's instances. -/
def rawInstances (resource : Document) (count : ℕ) :
    ℕ → List Json → Except PyError (List FoundResource)
  | _, [] => .ok []
  | index, item :: items => do
    let found ← rawInstance P resource count index item
    let others ← rawInstances resource count (index + 1) items
    return found :: others

/-- `resource.get("mode", "managed") == "managed"`. -/
def isManaged (resource : Document) : Bool :=
  match resource.lookup "mode" with
  | some mode => mode.str? = some "managed"
  | none => true

/-- The body of the loop over a raw state's resources. -/
def rawResource (item : Json) : Except PyError (List FoundResource) := do
  let resource ← asDict item
  if isManaged resource then
    let instances ← itemsIn resource "instances"
    rawInstances P resource instances.length 0 instances
  else return []

/-- `_state_resources`. -/
def stateResources (document : Document) : Except PyError (List FoundResource) := do
  let shown ← shownResources P document
  let resources ← itemsIn document "resources"
  let raw ← resources.mapM (rawResource P)
  return shown ++ raw.flatten

end flattening

/-- The address, the type and the name of the resource that owns a cloud resource. -/
structure StateOwner where
  address : String
  resourceType : String
  resourceName : String
  deriving DecidableEq

section owner

variable (P : Platform) (provider resourceUid : String)

/-- `text.lower() == other.lower()`. -/
def sameLower (text other : String) : Bool := P.lower text = P.lower other

/-- What `_state_identity_matches` asks of the values of a resource. -/
def hasIdentity (resourceType : String) (values : Document) : Bool :=
  let candidate := (values.get "id").str?
  let identity := cloudIdentity P provider resourceUid
  let beforeComma (text : String) : String :=
    String.ofList (text.toList.takeWhile fun c => c ≠ ',')
  candidate.any (sameLower P · resourceUid) ||
    (P.lower provider = "aws" &&
      resourceType ∈ ["aws_s3_bucket", "aws_s3_bucket_versioning"] && identity.name ≠ "" &&
      [(values.get "bucket").str?, candidate].any fun value =>
        value.any fun text => sameLower P (beforeComma text) identity.name)

/-- `_state_identity_matches`. -/
def stateIdentityMatches (resourceType : String) (values : Json) : Except PyError Bool :=
  (asDict values).map (hasIdentity P provider resourceUid resourceType)

/-- A resource is of an eligible type and has the identity. -/
def matchesOwner (resourceTypes : List String) (resource : FoundResource) :
    Except PyError Bool :=
  if resourceTypes ≠ [] ∧ resource.resourceType ∉ resourceTypes then .ok false
  else stateIdentityMatches P provider resourceUid resource.resourceType resource.values

/-- The loop of `_state_owner`. -/
def ownerMatches (resourceTypes : List String) :
    List FoundResource → Except PyError (List FoundResource)
  | [] => .ok []
  | resource :: resources => do
    let matched ← matchesOwner P provider resourceUid resourceTypes resource
    let others ← ownerMatches resourceTypes resources
    return if matched then resource :: others else others

/-- What `_state_owner` does with the matches. -/
def soleOwner (found : List FoundResource) : Except PyError (Option StateOwner) :=
  match found with
  | [] => .ok none
  | [resource] => .ok (some ⟨resource.address, resource.resourceType, resource.resourceName⟩)
  | _ => .error ⟨.ambiguousTerraformLink, "multiple Terraform state resources have id " ++
      resourceUid ++ ": " ++
      ", ".intercalate ((found.map FoundResource.address).insertionSort fun a b => a ≤ b)⟩

/-- `_state_owner`. -/
def stateOwner (document : Document) (resourceTypes : List String) :
    Except PyError (Option StateOwner) := do
  let resources ← stateResources P document
  let found ← ownerMatches P provider resourceUid resourceTypes resources
  soleOwner resourceUid found

end owner

end ElCapitan
