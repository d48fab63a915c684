import ElCapitan.Infrastructure.HclScanner
import ElCapitan.Infrastructure.TerraformState

/-!
# Linking a cloud resource to a Terraform block

`link_terraform_resource`: the blocks of a repository are matched against the owner that the
state names, or else by what they literally assign, and the match of the highest confidence is
the link when there is only one.
-/

namespace ElCapitan

section assignments

/-- `[A-Za-z_]`. -/
def isNameStart (c : Char) : Bool := asciiLower c || ('A' ≤ c && c ≤ 'Z') || c = '_'

/-- `[A-Za-z0-9_]`. -/
def isNameChar (c : Char) : Bool := isNameStart c || asciiDigit c

/-- `((?:[^"\\]|\\.)*)"`, with what follows it. -/
def quotedValue : List Char → Option (List Char × List Char)
  | '"' :: rest => some ([], rest)
  | '\\' :: c :: rest =>
    if c = '\n' then none
    else (quotedValue rest).map fun found => ('\\' :: c :: found.1, found.2)
  | ['\\'] => none
  | c :: rest => (quotedValue rest).map fun found => (c :: found.1, found.2)
  | [] => none

/-- `=\s*"((?:[^"\\]|\\.)*)"`, with what follows it. -/
def assignedValue : List Char → Option (List Char × List Char)
  | '=' :: rest =>
    match rest.dropWhile isSpace with
    | '"' :: rest => quotedValue rest
    | _ => none
  | _ => none

/-- `_LITERAL_ASSIGNMENT` at the beginning of a line: the name, the value and what follows. -/
def literalAssignmentAt (text : List Char) : Option (List Char × List Char × List Char) :=
  let text := text.dropWhile isSpace
  if (text.head?.map isNameStart).getD false then
    (assignedValue ((text.dropWhile isNameChar).dropWhile isSpace)).map fun found =>
      (text.takeWhile isNameChar, found)
  else none

/-- `_LITERAL_ASSIGNMENT.finditer`, from a position; `skip` characters belong to a match. -/
def literalAssignments (lineStart : Bool) : ℕ → List Char → List (List Char × List Char)
  | _, [] => []
  | skip + 1, c :: rest => literalAssignments (c = '\n') skip rest
  | 0, c :: rest =>
    match if lineStart then literalAssignmentAt (c :: rest) else none with
    | some (name, value, after) =>
      (name, value) :: literalAssignments (c = '\n') (rest.length - after.length) rest
    | none => literalAssignments (c = '\n') 0 rest

/-- `text.replace(pair, single)`. -/
def replacePair (first second single : Char) : List Char → List Char
  | a :: b :: rest =>
    if a = first ∧ b = second then single :: replacePair first second single rest
    else a :: replacePair first second single (b :: rest)
  | rest => rest

/-- `values[name] = value`. -/
def assignValue (values : List (String × String)) (name value : String) :
    List (String × String) :=
  if (values.lookup name).isSome then
    values.map fun entry => if entry.1 = name then (name, value) else entry
  else values ++ [(name, value)]

/-- `_literal_values`. -/
def literalValues (block : TerraformBlock) : List (String × String) :=
  (literalAssignments true 0 block.text.toList).foldl (fun values assignment =>
    assignValue values (String.ofList assignment.1)
      (String.ofList (replacePair '\\' '\\' '\\' (replacePair '\\' '"' '"' assignment.2)))) []

end assignments

/-- `TerraformLink`, as the linker returns it. -/
structure TerraformSourceLink where
  resourceUid : String
  sourcePath : String
  modulePath : String
  resourceType : String
  resourceName : String
  startLine : ℕ
  endLine : ℕ
  matchStrategy : String
  confidence : ℚ
  sourceSha256 : String
  resourceAddress : String
  stateSha256 : String
  deriving DecidableEq

/-- `TerraformLink.to_dict`. -/
def TerraformSourceLink.toDict (link : TerraformSourceLink) : Document :=
  [("resource_uid", .str link.resourceUid), ("source_path", .str link.sourcePath),
    ("module_path", .str link.modulePath), ("resource_type", .str link.resourceType),
    ("resource_name", .str link.resourceName), ("start_line", .int link.startLine),
    ("end_line", .int link.endLine), ("match_strategy", .str link.matchStrategy),
    ("confidence", .float link.confidence), ("source_sha256", .str link.sourceSha256),
    ("resource_address", .str link.resourceAddress), ("state_sha256", .str link.stateSha256)]

/-- A link as the planning service uses it. -/
def TerraformSourceLink.planned (link : TerraformSourceLink) : TerraformLink where
  sourcePath := link.sourcePath
  resourceType := link.resourceType
  sourceSha256 := link.sourceSha256
  resourceAddress := link.resourceAddress
  stateSha256 := link.stateSha256
  iacEngine := ""
  document := link.toDict

/-- A repository: its root and what `_terraform_files` finds below it, in its order. -/
structure TerraformRepository where
  root : String
  isDirectory : Bool
  files : List SourceFile
  distinct : (files.map SourceFile.path).Nodup

/-- The blocks of all files, in the order of the files. -/
def TerraformRepository.blocks (repository : TerraformRepository) :
    Except PyError (List TerraformBlock) := do
  let blocks ← repository.files.mapM fun file => file.blocks repository.root
  return blocks.flatten

/-- `sha256_file`. -/
def TerraformRepository.sha256File (repository : TerraformRepository) (P : Platform)
    (path : String) : String :=
  match repository.files.find? fun file => file.path = path with
  | some ⟨_, .text content⟩ => P.sha256Hex content
  | _ => ""

/-- `path.parent.relative_to(root).as_posix()`. -/
def modulePathOf (path : String) : String :=
  let name := afterLastSlash path
  if name.length = path.length then "."
  else String.ofList (path.toList.take (path.length - name.length - 1))

section candidates

variable (P : Platform) (provider resourceUid : String) (identity : CloudIdentity)

/-- `resource_types or tuple(filter(None, (identity.terraform_type,)))`. -/
def eligibleTypes (resourceTypes : List String) : List String :=
  if resourceTypes ≠ [] then resourceTypes else identity.terraformType.toList

/-- `_candidate`: the strategy and the confidence. -/
def literalCandidate (resourceTypes : List String) (block : TerraformBlock) :
    Option (String × ℚ) :=
  let values := literalValues block
  let literal (name : String) : String := (values.lookup name).getD ""
  if resourceTypes ≠ [] ∧ block.resourceType ∉ resourceTypes then none
  else if values.any fun entry => sameLower P entry.2 resourceUid then
    some ("exact_resource_uid", 1)
  else if block.resourceType ∉ eligibleTypes identity resourceTypes then none
  else if ¬sameLower P (literal (if P.lower provider = "aws" then "bucket" else "name"))
      identity.name then none
  else if P.lower provider = "azure" ∧ literal "resource_group_name" ≠ "" then
    if ¬sameLower P (literal "resource_group_name") identity.resourceGroup then none
    else some ("provider_type_name_and_resource_group", 98 / 100)
  else some ("provider_type_and_literal_name", 9 / 10)

/-- The block declares the type and the name. -/
def TerraformBlock.declares (block : TerraformBlock) (resourceType resourceName : String) :
    Bool :=
  block.resourceType = resourceType && block.resourceName = resourceName

/-- How a block matches, when the state may name an owner. -/
def blockMatch (resourceTypes : List String) (owner : Option StateOwner)
    (block : TerraformBlock) : Option (String × ℚ) :=
  if owner.any fun owner => block.declares owner.resourceType owner.resourceName then
    some ("terraform_state_resource_id", 1)
  else literalCandidate P provider resourceUid identity resourceTypes block

end candidates

/-- A block that matches, with its strategy and its confidence. -/
abbrev Candidate := TerraformBlock × String × ℚ

section linking

variable (P : Platform) (provider resourceUid : String)

/-- The candidate of the highest confidence, if there is only one. -/
def soleCandidate (missing : String) (candidates : List Candidate) : Except PyError Candidate :=
  match (candidates.map fun candidate => candidate.2.2).max? with
  | none => .error ⟨.terraformLinkNotFound, missing⟩
  | some highest =>
    match candidates.filter fun candidate => candidate.2.2 = highest with
    | [winner] => .ok winner
    | winners => .error ⟨.ambiguousTerraformLink, "multiple Terraform blocks match " ++
        resourceUid ++ ": " ++ ", ".intercalate (winners.map fun winner =>
          winner.1.sourcePath ++ ":" ++ toString winner.1.startLine)⟩

/-- The state document that was supplied, which has to be an object. -/
def suppliedState : Json → Except PyError (Option Document)
  | .null => .ok none
  | .obj document => .ok (some document)
  | _ => .error (terraformLinkError "Terraform state document must be an object")

/-- The owner that the state names, if one was supplied. -/
def ownerIn (state : Option Document) (resourceTypes : List String) :
    Except PyError (Option StateOwner) :=
  match state with
  | some document => stateOwner P provider resourceUid document resourceTypes
  | none => .ok none

/-- What no candidate was found for. -/
def expectedOwner (identity : CloudIdentity) (resourceTypes : List String) : String :=
  if resourceTypes ≠ [] then ", ".intercalate resourceTypes
  else identity.terraformType.getD "a literal resource UID"

/-- The checks of `link_terraform_resource` on its arguments, with the state's document. -/
def checkLinkArguments (repository : TerraformRepository) (stateDocument : Json)
    (resourceTypes : List String) : Except PyError (Option Document) := do
  raiseIf (repository.isDirectory = false)
    (terraformLinkError ("repository is not a directory: " ++ repository.root))
  raiseIf (provider = "" ∨ resourceUid = "")
    (terraformLinkError "provider and resource_uid are required")
  let state ← suppliedState stateDocument
  raiseIf ("" ∈ resourceTypes ∨ ¬resourceTypes.Nodup)
    (terraformLinkError "resource_types must be a tuple of unique non-empty strings")
  return state

/-- `link_terraform_resource`. -/
def linkTerraformResource (repository : TerraformRepository) (stateDocument : Json)
    (resourceTypes : List String) : Except PyError TerraformSourceLink := do
  let state ← checkLinkArguments provider resourceUid repository stateDocument resourceTypes
  let identity := cloudIdentity P provider resourceUid
  let owner ← ownerIn P provider resourceUid state (eligibleTypes identity resourceTypes)
  let blocks ← repository.blocks
  let candidates := blocks.filterMap fun block =>
    (blockMatch P provider resourceUid identity resourceTypes owner block).map fun matched =>
      (block, matched)
  let (block, strategy, confidence) ← soleCandidate resourceUid
    ("no Terraform block links " ++ provider ++ ":" ++ resourceUid ++ "; expected " ++
      expectedOwner identity resourceTypes) candidates
  return { resourceUid, sourcePath := block.sourcePath,
           modulePath := modulePathOf block.sourcePath,
           resourceType := block.resourceType, resourceName := block.resourceName,
           startLine := block.startLine, endLine := block.endLine, matchStrategy := strategy,
           confidence, sourceSha256 := repository.sha256File P block.sourcePath,
           resourceAddress := (owner.map StateOwner.address).getD "",
           stateSha256 := if state.isSome then P.canonicalHash stateDocument else "" }

end linking

end ElCapitan
