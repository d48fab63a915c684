import ElCapitan.Base.Characters
import ElCapitan.Base.Paths
import ElCapitan.Base.Patterns
import ElCapitan.ControlPacks.Models
import ElCapitan.Findings.Ocsf
import ElCapitan.Services.Operations

/-!
# The scope of a Terraform plan

`SubprocessTerraformRunner._plan_scope`: a plan passes when its one change is an update of the
linked resource in which only the reviewed attribute changes.
-/

namespace ElCapitan

/-- What running `terraform show -json` on a plan gave. -/
inductive Inspection where
  | timedOut
  | failed (message : String)
  | completed (returncode : ℤ) (stdout stderr : String)

/-- The parts of a runner that inspecting a plan uses. -/
structure TerraformRunner where
  platform : Platform
  text : TextLibrary
  executable : String
  /-- The text of the error of `json.loads` on a text that it refuses. -/
  jsonError : String → String

section paths

/-- The path of a key under a parent. -/
def childPath (parent name : String) : String :=
  if parent ≠ "" then parent ++ "." ++ name else name

/-- The number that a value counts as when it is compared: booleans are integers. -/
def comparedNumber? : Json → Option ℚ
  | .bool b => some (if b then 1 else 0)
  | .int n => some n
  | .float q => some q
  | _ => none

/-- `==` of two values that are not both objects and not both lists. -/
def looselyEqual : Json → Json → Bool
  | .null, .null => true
  | .str s, .str t => s = t
  | a, b =>
    match comparedNumber? a, comparedNumber? b with
    | some x, some y => x = y
    | _, _ => false

mutual

/-- `_changed_paths`. -/
def changedPaths (parent : String) : Json → Json → List String
  | .obj before, .obj after =>
    let added := (after.filter fun entry => (before.lookup entry.1).isNone).map fun entry =>
      (entry.1, [childPath parent entry.1])
    ((changedEntries parent [] before after ++ added).insertionSort
      fun a b => a.1 ≤ b.1).flatMap Prod.snd
  | .arr before, .arr after =>
    if before.length ≠ after.length then [parent] else changedItems parent 0 before after
  | before, after => if looselyEqual before after then [] else [parent]

/-- The changed paths under each key of an object; of equal keys the first counts. -/
def changedEntries (parent : String) (seen : List String) :
    Document → Document → List (String × List String)
  | [], _ => []
  | (name, value) :: before, after =>
    if name ∈ seen then changedEntries parent seen before after
    else
      (name, match after.lookup name with
        | some other => changedPaths (childPath parent name) value other
        | none => [childPath parent name]) :: changedEntries parent (name :: seen) before after

/-- The changed paths under each index of a list. -/
def changedItems (parent : String) : ℕ → List Json → List Json → List String
  | i, value :: before, other :: after =>
    changedPaths (parent ++ "[" ++ toString i ++ "]") value other ++
      changedItems parent (i + 1) before after
  | _, _, _ => []

end

end paths

section scope

/-- `target.split(".", 1)[0]`. -/
def targetType (target : String) : String :=
  String.ofList (target.toList.takeWhile fun c => c ≠ '.')

/-- `_allowed_target_change`. -/
def allowedTargetChange (target : String) (change : Document) (paths : List String) :
    Except PyError Bool :=
  match change.get "before", change.get "after" with
  | .obj before, .obj after =>
    if targetType target = "azurerm_storage_account" then
      .ok (paths = ["public_network_access_enabled"] &&
        (Document.get before "public_network_access_enabled").isTrue &&
        (Document.get after "public_network_access_enabled").isFalse)
    else if targetType target = "aws_s3_bucket_versioning" then
      if paths ≠ ["versioning_configuration[0].status"] then .ok false
      else
        match Document.get before "versioning_configuration" with
        | .arr [.obj held] => do
          let vulnerable ← searchSet ["Disabled", "Suspended"] (Document.get held "status")
          return vulnerable && match Document.get after "versioning_configuration" with
            | .arr [.obj wanted] => (Document.get wanted "status").str? = some "Enabled"
            | _ => false
        | _ => .ok false
    else .ok false
  | _, _ => .ok false

/-- `_scope_requirement`. -/
def scopeRequirement (target : String) : String :=
  if targetType target = "aws_s3_bucket_versioning" then
    "plan must contain exactly one in-place S3 bucket-versioning " ++
      "status update from Disabled or Suspended to Enabled"
  else
    "plan must contain exactly the allowed public-network-access " ++
      "update to the linked storage account"

/-- An entry of `changes`. -/
structure ObservedChange where
  address : String
  actions : List Json
  changedAttributePaths : List String

/-- The items that iterating over a value gives. -/
def iterated : Json → Except PyError (List Json)
  | .arr items => .ok items
  | .obj entries => .ok (entries.map fun entry => .str entry.1)
  | .str s => .ok (s.toList.map fun c => .str (String.ofList [c]))
  | other => .error ⟨.typeError, "'" ++ other.className ++ "' object is not iterable"⟩

/-- `list(value or ())`. -/
def itemsOr (value : Json) : Except PyError (List Json) :=
  if value.truthy then iterated value else .ok []

/-- Are the actions exactly one action? -/
def onlyAction (action : String) : List Json → Bool
  | [.str s] => s = action
  | _ => false

/-- `action in actions`. -/
def hasAction (action : String) (actions : List Json) : Bool :=
  actions.any fun item => item.str? = some action

/-- The loop of `_plan_scope`: what changes, and the change last seen at the target. -/
def observeChanges (P : Platform) (target : String) :
    List Json → List ObservedChange → Option (Document × List String) →
      Except PyError (List ObservedChange × Option (Document × List String))
  | [], changes, found => .ok (changes, found)
  | .obj item :: items, changes, found => do
    let change ← sectionOr item "change"
    let actions ← itemsOr (change.get "actions")
    if onlyAction "no-op" actions then observeChanges P target items changes found
    else
      let paths := changedPaths "" (change.get "before") (change.get "after")
      observeChanges P target items
        (changes ++ [⟨P.str (Document.getText item "address"), actions, paths⟩])
        (if (Document.get item "address").str? = some target then some (change, paths) else found)
  | _ :: items, changes, found => observeChanges P target items changes found

/-- An entry of `changes` in the summary. -/
def ObservedChange.toDict (change : ObservedChange) : Json :=
  .obj [("address", .str change.address), ("actions", .arr change.actions),
    ("changed_attribute_paths", .ofStrings change.changedAttributePaths)]

/-- The changes that have an action. -/
def countAction (action : String) (changes : List ObservedChange) : Json :=
  .ofNat (changes.countP fun change => hasAction action change.actions)

/-- Is the one change an update at the target? -/
def structuralScope (target : String) : List ObservedChange → Bool
  | [change] => change.address = target && onlyAction "update" change.actions
  | _ => false

/-- `document.get("resource_changes", ())`, to be iterated over. -/
def planItems (document : Document) : Except PyError (List Json) :=
  match document.lookup "resource_changes" with
  | some items => iterated items
  | none => .ok []

/-- `attribute_scope`. -/
def attributeScope (target : String) (structural : Bool) (found : Option (Document × List String)) :
    Except PyError Bool :=
  match structural, found with
  | true, some (change, paths) => allowedTargetChange target change paths
  | _, _ => .ok false

/-- The check of a plan whose document was read. -/
def TerraformRunner.documentScope (R : TerraformRunner) (target : String) (document : Json) :
    Except PyError TerraformCheck := do
  let document ← asDict document
  let items ← planItems document
  let (changes, found) ← observeChanges R.platform target items [] none
  let structural := structuralScope target changes
  let attributeScope ← attributeScope target structural found
  let passed := structural && attributeScope
  let summary := Json.obj [("required_target", .str target),
    ("observed_changes", .arr (changes.map ObservedChange.toDict)),
    ("creates", countAction "create" changes), ("updates", countAction "update" changes),
    ("deletes", countAction "delete" changes), ("attribute_scope_passed", .bool attributeScope),
    ("passed", .bool passed)]
  return { name := "plan_scope", argv := [R.executable, "show", "-json", "[EPHEMERAL_PLAN]"],
           exitCode := if passed then 0 else 1, stdout := asciiJson (R.platform.canonical summary),
           stderr := if passed then "" else scopeRequirement target, details := [] }

end scope

section output

/-- `first[_. -]?second` under `re.IGNORECASE`: a separator is no letter, so it is skipped. -/
def afterPair (first second : String) (text : List Char) : Option (List Char) :=
  (afterLetters first.toList text).bind fun rest =>
    afterLetters second.toList
      (if rest.head?.any fun c => c ∈ ['_', '.', ' ', '-'] then rest.tail else rest)

/-- What follows one of the names of `assigned_secret`. -/
def afterSecretName (text : List Char) : Option (List Char) :=
  afterPair "access" "key" text <|> afterPair "connection" "string" text <|>
    afterPair "client" "secret" text <|> afterLetters "password".toList text <|>
    afterPair "access" "token" text <|> afterLetters "token".toList text

/-- What follows `["']?`. -/
def afterOptionalQuote (text : List Char) : List Char :=
  if text.head?.any fun c => c ∈ ['"', '\''] then text.tail else text

/-- What follows the group of `assigned_secret`: a name, a colon or an equals sign, and blanks. -/
def afterAssignment (text : List Char) : Option (List Char) := do
  let rest ← afterSecretName (afterOptionalQuote text)
  match (afterOptionalQuote rest).dropWhile isSpace with
  | ':' :: rest => some (rest.dropWhile isSpace)
  | '=' :: rest => some (rest.dropWhile isSpace)
  | _ => none

/-- The length of `(?:["'][^"'\n]*["']|[^\s,;}]+)`. No value begins with a blank, so the blanks
before it are never given back. -/
def secretValue (text : List Char) : Option ℕ :=
  let inside := text.tail.takeWhile fun c => c ∉ ['"', '\'', '\n']
  let closing := (text.tail.drop inside.length).head?
  if (text.head?.any fun c => c ∈ ['"', '\'']) && closing.any fun c => c ∈ ['"', '\''] then
    some (inside.length + 2)
  else
    match text.takeWhile fun c => !isSpace c && c ∉ [',', ';', '\x7d'] with
    | [] => none
    | _ :: value => some (value.length + 1)

/-- `assigned_secret`. -/
def assignedSecret : Pattern := fun _ text => do
  let rest ← afterAssignment text
  let length ← secretValue rest
  return text.length - rest.length + length

/-- `\1"[redacted]"`. -/
def redactAssigned (matched : List Char) : List Char :=
  matched.take (matched.length - ((afterAssignment matched).getD []).length) ++
    "\"[redacted]\"".toList

section tokens

variable (T : TextLibrary)

/-- A character of `[A-Za-z0-9_-]`. -/
def isTokenChar (c : Char) : Bool := c.isAlphanum || c = '_' || c = '-'

/-- The longest match of `[A-Za-z0-9_-]+\b`. -/
def boundedToken : List Char → Option ℕ
  | [] => none
  | c :: rest =>
    if isTokenChar c then
      match boundedToken rest with
      | some n => some (n + 1)
      | none => if wordBoundary T (some c) rest.head? then some 1 else none
    else none

/-- `(?:\.[A-Za-z0-9_-]+){1,2}\b` after a dot: with a second part where one ends at a boundary. -/
def tokenParts (text : List Char) : Option ℕ :=
  let first := text.takeWhile isTokenChar
  match first, text.dropWhile isTokenChar with
  | _ :: _, '.' :: rest =>
    match boundedToken T rest with
    | some n => some (first.length + 1 + n)
    | none => boundedToken T text
  | _, _ => boundedToken T text

/-- `jwt`. -/
def jwt : Pattern := fun before text =>
  match text with
  | 'e' :: 'y' :: 'J' :: rest =>
    let head := rest.takeWhile isTokenChar
    match rest.dropWhile isTokenChar with
    | '.' :: parts =>
      if wordBoundary T before (some 'e') ∧ 16 ≤ head.length then
        (tokenParts T parts).map fun n => 3 + head.length + 1 + n
      else none
    | _ => none
  | _ => none

/-- `_redact_output`. -/
def redactOutput (value : String) : String :=
  let redacted := (assignedSecret.sub redactAssigned value.toList).1
  String.ofList ((jwt T).sub (fun _ => "[redacted JWT]".toList) redacted).1

end tokens

/-- `_output`. -/
def boundedOutput (value : String) : String :=
  if value.length ≤ 1000000 then value
  else String.ofList (value.toList.take 1000000) ++ "\n[output truncated by El Capitan]"

/-- `_plan_scope`. -/
def TerraformRunner.planScope (R : TerraformRunner) (target : String) (inspection : Inspection) :
    Except PyError TerraformCheck :=
  let failed (exitCode : ℤ) (stderr : String) : Except PyError TerraformCheck :=
    .ok { name := "plan_scope", argv := [R.executable, "show", "-json", "[EPHEMERAL_PLAN]"],
          exitCode, stdout := "", stderr, details := [] }
  match inspection with
  | .timedOut => failed 124 "Terraform plan inspection timed out"
  | .failed message => failed 127 message
  | .completed returncode stdout stderr =>
    if returncode ≠ 0 then failed returncode (redactOutput R.text (boundedOutput stderr))
    else
      match R.platform.jsonLoads stdout with
      | none => failed 1 ("Terraform plan JSON was invalid: " ++ R.jsonError stdout)
      | some document => R.documentScope target document

end output

end ElCapitan
