import ElCapitan.Infrastructure.TerraformLinker
import ElCapitan.Services.Planning

/-!
# Deterministic patches of Terraform source

`_materialize_control_patch`: for two controls the service does not take the agent's text but
replaces the one vulnerable literal of the controlled attribute itself. The literal of a bucket's
versioning is searched in the linked lines, that of a storage account in the whole file.
-/

namespace ElCapitan

section patterns

/-- `(?m)^(?P<prefix>\s*NAME\s*=\s*)(?:LITERALS)(?P<suffix>\s*(?:#.*)?)$`. -/
structure AssignmentPattern where
  name : String
  literals : List String

/-- A match: where its literal begins in it, the literal, and the length of the match. -/
structure AssignmentMatch where
  position : ℕ
  literal : String
  length : ℕ

/-- What follows `\s*NAME\s*=\s*`. -/
def AssignmentPattern.afterPrefix (pattern : AssignmentPattern) (text : List Char) :
    Option (List Char) := do
  let rest ← afterOneOf [pattern.name] (text.dropWhile isSpace)
  match rest.dropWhile isSpace with
  | '=' :: rest => some (rest.dropWhile isSpace)
  | _ => none

/-- The length of `\s*(?:#.*)?` before `$`. -/
def lineSuffix (text : List Char) : Option ℕ :=
  let spaces := text.takeWhile isSpace
  match text.dropWhile isSpace with
  | [] => some spaces.length
  | '#' :: rest => some (spaces.length + 1 + (rest.takeWhile fun c => c ≠ '\n').length)
  | _ =>
    -- without a comment the match goes back to the last line end among the blanks
    if '\n' ∈ spaces then
      some (spaces.length - 1 - (spaces.reverse.takeWhile fun c => c ≠ '\n').length)
    else none

/-- The pattern at the beginning of a line. -/
def AssignmentPattern.matchAt (pattern : AssignmentPattern) (text : List Char) :
    Option AssignmentMatch := do
  let rest ← pattern.afterPrefix text
  let literal ← pattern.literals.find? fun literal => literal.toList.isPrefixOf rest
  let suffix ← lineSuffix (rest.drop literal.length)
  return { position := text.length - rest.length, literal,
           length := text.length - rest.length + literal.length + suffix }

/-- `pattern.finditer`, from a position of a text: where the literals are, and which. `skip`
characters belong to a match. -/
def AssignmentPattern.matchesFrom (pattern : AssignmentPattern) (lineStart : Bool)
    (offset : ℕ) : ℕ → List Char → List (ℕ × String)
  | _, [] => []
  | skip + 1, c :: rest => pattern.matchesFrom (c = '\n') (offset + 1) skip rest
  | 0, c :: rest =>
    match if lineStart then pattern.matchAt (c :: rest) else none with
    | some found =>
      (offset + found.position, found.literal) ::
        pattern.matchesFrom (c = '\n') (offset + 1) (found.length - 1) rest
    | none => pattern.matchesFrom (c = '\n') (offset + 1) 0 rest

/-- `pattern.finditer(text)`. -/
def AssignmentPattern.matches (pattern : AssignmentPattern) (text : List Char) :
    List (ℕ × String) :=
  pattern.matchesFrom true 0 0 text

/-- The text in which every match has another literal: `\g<prefix>REPLACEMENT\g<suffix>`. -/
def replaceLiterals (replacement : String) (offset : ℕ) :
    List (ℕ × String) → List Char → List Char
  | [], text => text
  | (position, literal) :: found, text =>
    text.take (position - offset) ++ replacement.toList ++
      replaceLiterals replacement (position + literal.length) found
        (text.drop (position - offset + literal.length))

end patterns

/-- A control that is patched deterministically: the assignment that the agent has to propose,
the vulnerable assignment and the literal in its place. -/
structure ControlPatch where
  requested : AssignmentPattern
  vulnerable : AssignmentPattern
  safe : String
  notRequested : String
  notOne : String

/-- No public network access to a storage account. -/
def storageControl : ControlPatch where
  requested := ⟨"public_network_access_enabled", ["false"]⟩
  vulnerable := ⟨"public_network_access_enabled", ["true"]⟩
  safe := "false"
  notRequested := "agent proposal did not request public_network_access_enabled = false"
  notOne := "linked source must contain exactly one literal " ++
    "public_network_access_enabled = true assignment"

/-- Versioning of the objects of a bucket. -/
def versioningControl : ControlPatch where
  requested := ⟨"status", ["\"Enabled\""]⟩
  vulnerable := ⟨"status", ["\"Disabled\"", "\"Suspended\""]⟩
  safe := "\"Enabled\""
  notRequested := "agent proposal did not request versioning status = \"Enabled\""
  notOne := "linked S3 versioning resource must contain exactly one literal " ++
    "status = \"Disabled\" or status = \"Suspended\" assignment"

section patching

/-- What both branches do with the text they search. -/
def ControlPatch.patch (control : ControlPatch) (searched proposed : List Char) :
    Except PyError (List Char) := do
  raiseIf (control.requested.matches proposed = []) (planningError control.notRequested)
  raiseIf ((control.vulnerable.matches searched).length ≠ 1) (planningError control.notOne)
  return replaceLiterals control.safe 0 (control.vulnerable.matches searched) searched

/-- A text before, in and after its lines from one number to another. -/
def linkedParts (original : List Char) (startLine endLine : ℕ) :
    List Char × List Char × List Char :=
  let lines := splitLines original
  ((lines.take (startLine - 1)).flatten, ((lines.take endLine).drop (startLine - 1)).flatten,
    (lines.drop endLine).flatten)

/-- `rule_ids == {rule_id}`. -/
def onlyRule (ruleIds : List String) (ruleId : String) : Bool := ruleIds.dedup = [ruleId]

/-- `_materialize_control_patch`, for a Terraform link. -/
def materializeControlPatch (original proposed : List Char) (link : TerraformSourceLink)
    (ruleIds : List String) : Except PyError (List Char × String) := do
  if link.resourceType = "azurerm_storage_account" ∧
      onlyRule ruleIds "storage_account_public_network_access_disabled" then
    let replacement ← storageControl.patch original proposed
    return (replacement, "deterministic_control_patch")
  else if link.resourceType = "aws_s3_bucket_versioning" ∧
      onlyRule ruleIds "s3_bucket_object_versioning" then
    let (before, linked, after) := linkedParts original link.startLine link.endLine
    let replacement ← versioningControl.patch linked proposed
    return (before ++ replacement ++ after, "deterministic_control_patch")
  else return (proposed, "agent_source_replacement")

end patching

end ElCapitan
