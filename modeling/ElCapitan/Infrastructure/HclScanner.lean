import ElCapitan.Infrastructure.CdkLink
import ElCapitan.Infrastructure.FilesystemDriver

/-!
# The scanner of resource blocks

`_blocks`: a Terraform file is read line by line. A line that looks like the header of a resource
opens a block, and the block is closed by the line at which the braces counted since the header
balance.
-/

namespace ElCapitan

/-- A `TerraformLinkError`. -/
def terraformLinkError (message : String) : PyError := ⟨.terraformLinkError, message⟩

section lines

/-- A character that ends a line for `str.splitlines`. -/
def isLineBreak (c : Char) : Bool := c.toNat ∈ [10, 11, 12, 13, 28, 29, 30, 133, 8232, 8233]

/-- `text.splitlines(keepends=True)`. -/
def splitLines : List Char → List (List Char)
  | [] => []
  | '\r' :: '\n' :: rest => ['\r', '\n'] :: splitLines rest
  | c :: rest =>
    if isLineBreak c then [c] :: splitLines rest
    else
      match splitLines rest with
      | [] => [[c]]
      | line :: lines => (c :: line) :: lines

/-- Joining the lines gives the text back. -/
theorem splitLines_flatten (text : List Char) : (splitLines text).flatten = text := by
  fun_induction splitLines text with
  | case1 => rfl
  | case2 rest ih => simp [ih]
  | case3 c rest _ hbreak ih => simp [ih]
  | case4 c rest _ hbreak hrest ih =>
    rw [hrest] at ih
    simp [← ih]
  | case5 c rest _ hbreak line lines hrest ih =>
    rw [hrest] at ih
    simp [← ih]

end lines

section matching

/-- What follows `\s+`. -/
def afterSpaces : List Char → Option (List Char)
  | c :: rest => if isSpace c then some (rest.dropWhile isSpace) else none
  | [] => none

/-- `"([^"]+)"`, with what follows it. -/
def quotedLabel : List Char → Option (List Char × List Char)
  | '"' :: rest =>
    match rest.takeWhile (fun c => c ≠ '"'), rest.dropWhile fun c => c ≠ '"' with
    | c :: label, '"' :: rest => some (c :: label, rest)
    | _, _ => none
  | _ => none

/-- `_RESOURCE_HEADER.match`, with the type and the name. -/
def resourceHeader (line : List Char) : Option (String × String) := do
  let rest ← afterOneOf ["resource"] (line.dropWhile isSpace)
  let rest ← afterSpaces rest
  let (resourceType, rest) ← quotedLabel rest
  let rest ← afterSpaces rest
  let (resourceName, rest) ← quotedLabel rest
  match rest.dropWhile isSpace with
  | '\x7b' :: _ => some (String.ofList resourceType, String.ofList resourceName)
  | _ => none

/-- `_brace_delta`, from a position of a line. -/
def braceDelta (quoted escaped : Bool) : List Char → ℤ
  | [] => 0
  | c :: rest =>
    if escaped then braceDelta quoted false rest
    else if quoted ∧ c = '\\' then braceDelta quoted true rest
    else if c = '"' then braceDelta (!quoted) false rest
    else if ¬quoted ∧ c = '#' then 0
    else if ¬quoted ∧ c = '/' ∧ rest.head? = some '/' then 0
    else if ¬quoted ∧ c = '\x7b' then braceDelta quoted false rest + 1
    else if ¬quoted ∧ c = '\x7d' then braceDelta quoted false rest - 1
    else braceDelta quoted false rest

/-- `_brace_delta`. -/
def lineDelta (line : List Char) : ℤ := braceDelta false false line

end matching

/-- `_Block`. -/
structure TerraformBlock where
  sourcePath : String
  resourceType : String
  resourceName : String
  startLine : ℕ
  endLine : ℕ
  text : String
  deriving DecidableEq

/-- A block whose closing line was not read yet: its header, its depth and its lines so far. -/
structure OpenBlock where
  resourceType : String
  resourceName : String
  startLine : ℕ
  depth : ℤ
  text : List Char

section scanning

/-- The block that a line opens. -/
def headerBlock (number : ℕ) (line : List Char) : Option OpenBlock :=
  (resourceHeader line).map fun header =>
    { resourceType := header.1, resourceName := header.2, startLine := number, depth := 0,
      text := [] }

/-- A line of an open block was read. -/
def OpenBlock.add (block : OpenBlock) (line : List Char) : OpenBlock :=
  { block with depth := block.depth + lineDelta line, text := block.text ++ line }

/-- The block closed at a line. -/
def OpenBlock.close (block : OpenBlock) (path : String) (endLine : ℕ) : TerraformBlock :=
  { sourcePath := path, resourceType := block.resourceType, resourceName := block.resourceName,
    startLine := block.startLine, endLine, text := String.ofList block.text }

/-- The loops of `_blocks`, from the line with a number; `location` is the path in errors. -/
def scanLines (path location : String) :
    ℕ → Option OpenBlock → List (List Char) → Except PyError (List TerraformBlock)
  | _, none, [] => .ok []
  | _, some block, [] => .error (terraformLinkError
      ("unterminated Terraform resource block at " ++ location ++ ":" ++
        toString block.startLine))
  | number, state, line :: lines =>
    match state.or (headerBlock number line) with
    | none => scanLines path location (number + 1) none lines
    | some block =>
      if (block.add line).depth = 0 then
        (scanLines path location (number + 1) none lines).map fun blocks =>
          (block.add line).close path number :: blocks
      else scanLines path location (number + 1) (some (block.add line)) lines

/-- A line is skipped, closes the open block or is added to it. -/
theorem scanLines_cons {path location : String} {number : ℕ} {state : Option OpenBlock}
    {line : List Char} {lines : List (List Char)} :
    scanLines path location number state (line :: lines) =
      match state.or (headerBlock number line) with
      | none => scanLines path location (number + 1) none lines
      | some block =>
        if (block.add line).depth = 0 then
          (scanLines path location (number + 1) none lines).map fun blocks =>
            (block.add line).close path number :: blocks
        else scanLines path location (number + 1) (some (block.add line)) lines := by
  cases state <;> rfl

/-- The blocks of a text that was read. -/
def blocksOfText (path location : String) (text : List Char) :
    Except PyError (List TerraformBlock) :=
  scanLines path location 1 none (splitLines text)

end scanning

/-- The bytes of a file: UTF-8 text, or not. -/
inductive FileContent where
  | text (content : String)
  | undecodable (size : ℕ) (reason : String)

/-- `st_size`. -/
def FileContent.size : FileContent → ℕ
  | .text content => content.utf8ByteSize
  | .undecodable size _ => size

/-- `path.read_text(encoding="utf-8")`. -/
def FileContent.readText : FileContent → Except PyError (List Char)
  | .text content => .ok (universalNewlines content.toList)
  | .undecodable _ reason => .error ⟨.unicodeDecodeError, reason⟩

/-- A Terraform source file, by its path below the root of the repository. -/
structure SourceFile where
  path : String
  content : FileContent

/-- `_blocks`, of a file below a root. -/
def SourceFile.blocks (file : SourceFile) (root : String) :
    Except PyError (List TerraformBlock) := do
  let location := root ++ "/" ++ file.path
  raiseIf (2 * 1024 * 1024 < file.content.size)
    (terraformLinkError ("Terraform source is too large to inspect safely: " ++ location))
  let text ← file.content.readText
  blocksOfText file.path location text

/-- `terraform_resource_block`. -/
def SourceFile.resourceBlock (file : SourceFile) (root resourceType resourceName : String) :
    Except PyError String := do
  let blocks ← file.blocks root
  match blocks.filter fun block =>
      block.resourceType = resourceType && block.resourceName = resourceName with
  | [block] => .ok block.text
  | found => .error (terraformLinkError ("expected exactly one " ++ resourceType ++ "." ++
      resourceName ++ " block in " ++ root ++ "/" ++ file.path ++ "; found " ++
      toString found.length))

end ElCapitan
