import ElCapitan.Base.GapPatterns
import ElCapitan.Infrastructure.HclScanner

/-!
# The construct of a CDK source

`_matching_construct` and `materialize_cdk_s3_versioning`: the construct with an id is found by a
pattern for its header, its end by a scan over strings, comments and braces, and the line that turns
versioning on is put behind the line of its encryption property.
-/

namespace ElCapitan

section spelling

/-- The quote that `repr` takes for a text. -/
def reprQuote (text : List Char) : Char := if '\'' ∈ text ∧ '"' ∉ text then '"' else '\''

/-- So many of the lower-case hexadecimal digits of a number. -/
def hexDigits (width n : ℕ) : List Char :=
  (List.range width).reverse.map fun i => Nat.digitChar (n / 16 ^ i % 16)

/-- A character of a text, as `repr` spells it; `printable` is `str.isprintable` of it. -/
def reprChar (printable : Char → Bool) (quote c : Char) : List Char :=
  if c = quote ∨ c = '\\' then ['\\', c]
  else if c = '\t' then ['\\', 't']
  else if c = '\n' then ['\\', 'n']
  else if c = '\r' then ['\\', 'r']
  else if c.toNat < 32 ∨ c.toNat = 127 then '\\' :: 'x' :: hexDigits 2 c.toNat
  else if c.toNat < 127 ∨ printable c = true then [c]
  else if c.toNat < 256 then '\\' :: 'x' :: hexDigits 2 c.toNat
  else if c.toNat < 65536 then '\\' :: 'u' :: hexDigits 4 c.toNat
  else '\\' :: 'U' :: hexDigits 8 c.toNat

/-- `repr(text)`. -/
def reprText (printable : Char → Bool) (text : List Char) : List Char :=
  reprQuote text :: text.flatMap (reprChar printable (reprQuote text)) ++ [reprQuote text]

end spelling

section finding

/-- `new\s+s3\.Bucket\s*\(\s*this\s*,\s*`. -/
def headerOpening : List Gapped :=
  [.word ['n', 'e', 'w'], .someGap, .word ['s', '3', '.', 'B', 'u', 'c', 'k', 'e', 't'], .gap,
    .word ['('], .gap, .word ['t', 'h', 'i', 's'], .gap, .word [','], .gap]

/-- `\s*,\s*\{`. -/
def headerClosing : List Gapped := [.gap, .word [','], .gap, .word ['\x7b']]

/-- The pattern for the header of a construct whose id is spelled so. -/
def constructHeader (literal : List Char) : Pattern :=
  gapped isSpace (headerOpening ++ .word literal :: headerClosing)

/-- Where the scan of a construct is. -/
inductive LexMode where
  | code
  | lineComment
  | blockComment
  | quoted (quote : Char) (escaped : Bool)
  deriving DecidableEq

/-- The quotes of strings and templates. -/
def quoteMarks : List Char := ['\'', '"', '\x60']

/-- What follows the brace that closes the first of so many open ones. -/
def closeBrace : LexMode → ℕ → List Char → Option (List Char)
  | _, _, [] => none
  | .lineComment, depth, c :: rest =>
    closeBrace (if c = '\n' then .code else .lineComment) depth rest
  | .blockComment, depth, '*' :: '/' :: rest => closeBrace .code depth rest
  | .blockComment, depth, _ :: rest => closeBrace .blockComment depth rest
  | .quoted quote true, depth, _ :: rest => closeBrace (.quoted quote false) depth rest
  | .quoted quote false, depth, c :: rest =>
    closeBrace (if c = '\\' then .quoted quote true else if c = quote then .code
      else .quoted quote false) depth rest
  | .code, depth, '/' :: '/' :: rest => closeBrace .lineComment depth rest
  | .code, depth, '/' :: '*' :: rest => closeBrace .blockComment depth rest
  | .code, depth, c :: rest =>
    if c ∈ quoteMarks then closeBrace (.quoted c false) depth rest
    else if c = '\x7b' then closeBrace .code (depth + 1) rest
    else if c = '\x7d' then
      if depth - 1 = 0 then some rest else closeBrace .code (depth - 1) rest
    else closeBrace .code depth rest

section modes

variable {depth : ℕ} {quote c : Char} {rest : List Char}

/-- An escaped character of a string is skipped. -/
theorem closeBrace_escaped :
    closeBrace (.quoted quote true) depth (c :: rest) =
      closeBrace (.quoted quote false) depth rest :=
  rfl

/-- In a string a quote ends it and a backslash escapes the next character. -/
theorem closeBrace_quoted_cons :
    closeBrace (.quoted quote false) depth (c :: rest) =
      closeBrace (if c = '\\' then .quoted quote true else if c = quote then .code
        else .quoted quote false) depth rest :=
  rfl

/-- A line comment goes on to the end of its line. -/
theorem closeBrace_line_cons :
    closeBrace .lineComment depth (c :: rest) =
      closeBrace (if c = '\n' then .code else .lineComment) depth rest :=
  rfl

/-- A block comment ends with its mark. -/
theorem closeBrace_block_end :
    closeBrace .blockComment depth ('*' :: '/' :: rest) = closeBrace .code depth rest :=
  rfl

/-- Two slashes begin a line comment. -/
theorem closeBrace_line_begin :
    closeBrace .code depth ('/' :: '/' :: rest) = closeBrace .lineComment depth rest :=
  rfl

/-- A slash and a star begin a block comment. -/
theorem closeBrace_block_begin :
    closeBrace .code depth ('/' :: '*' :: rest) = closeBrace .blockComment depth rest :=
  rfl

end modes

/-- The length of `\s*\)\s*;?` at the beginning of a text, or nothing. -/
def closingCall (text : List Char) : ℕ :=
  match text.dropWhile isSpace with
  | ')' :: rest =>
    match rest.dropWhile isSpace with
    | ';' :: rest => text.length - rest.length
    | rest => text.length - rest.length
  | _ => 0

variable (printable : Char → Bool)

/-- The headers with an id in a text: those with its `repr`, or else those with it in double
quotes. -/
def headersOf (text constructId : List Char) : List (ℕ × ℕ) :=
  match (constructHeader (reprText printable constructId)).findAll text with
  | [] => (constructHeader ('"' :: constructId ++ ['"'])).findAll text
  | found => found

/-- `_matching_construct`. -/
def matchingConstruct (text constructId : List Char) : Except PyError (Option (ℕ × ℕ)) :=
  let shown := String.ofList (reprText printable constructId)
  match headersOf printable text constructId with
  | [] => .ok none
  | [(start, n)] =>
    let openBrace := start + ((text.drop start).take n).idxOf '\x7b'
    match closeBrace .code 0 (text.drop openBrace) with
    | some rest => .ok (some (start, text.length - rest.length + closingCall rest))
    | none => .error (cdkError ("unterminated s3.Bucket construct " ++ shown))
  | _ => .error (cdkError ("multiple s3.Bucket constructs use id " ++ shown))

end finding

section patching

/-- `(?m)^`: the beginning of the text or of a line. -/
def atLineStart : Option Char → Bool
  | none => true
  | some c => c = '\n'

/-- `\s*versioned\s*:`. -/
def versionedParts : List Gapped :=
  [.gap, .word ['v', 'e', 'r', 's', 'i', 'o', 'n', 'e', 'd'], .gap, .word [':']]

/-- `(?m)^\s*versioned\s*:`. -/
def versionedKey : Pattern := fun before text =>
  if atLineStart before then gapped isSpace versionedParts before text else none

/-- `\s*encryption\s*:`. -/
def encryptionParts : List Gapped :=
  [.gap, .word ['e', 'n', 'c', 'r', 'y', 'p', 't', 'i', 'o', 'n'], .gap, .word [':']]

/-- What follows `.*(?:\n|$)`. -/
def afterLine (text : List Char) : List Char :=
  match text.dropWhile fun c => c ≠ '\n' with
  | [] => []
  | _ :: rest => rest

/-- `(?m)^(?P<indent>\s*)encryption\s*:.*(?:\n|$)`. -/
def encryptionLine : Pattern := fun before text =>
  if atLineStart before then
    (afterGapped isSpace encryptionParts text).map fun rest => text.length - (afterLine rest).length
  else none

/-- `\s*(?://.*)?$` in a text: the spaces end the line or the text, or a comment follows them. -/
def endsLine (text : List Char) : Bool :=
  '\n' ∈ text.takeWhile isSpace || (match text.dropWhile isSpace with
    | [] => true
    | '/' :: '/' :: _ => true
    | _ => false)

/-- `(?m)^\s*versioned\s*:\s*true\s*,?\s*(?://.*)?$`, up to the value. -/
def versionedTrue : Pattern := fun before text =>
  if atLineStart before then
    match afterGapped isSpace (versionedParts ++ [.gap, .word ['t', 'r', 'u', 'e']]) text with
    | some rest =>
      let comma := match rest.dropWhile isSpace with
        | ',' :: rest => endsLine rest
        | _ => false
      if endsLine rest || comma then some (text.length - rest.length) else none
    | none => none
  else none

/-- `versioned:         true,`, as a line. -/
def versionedText : List Char :=
  ['v', 'e', 'r', 's', 'i', 'o', 'n', 'e', 'd', ':', ' ', ' ', ' ', ' ', ' ', ' ', ' ', ' ', ' ',
    't', 'r', 'u', 'e', ',', '\n']

/-- `text[start:stop]`. -/
def sliceOf (text : List Char) (start stop : ℕ) : List Char := (text.take stop).drop start

variable (printable : Char → Bool)

/-- `materialize_cdk_s3_versioning`. -/
def materializeCdkS3Versioning (original proposed : List Char) (link : AwsCdkLink) :
    Except PyError (List Char) := do
  let constructId := link.constructId.toList
  let proposedBounds ← matchingConstruct printable proposed constructId
  raiseIf (¬proposedBounds.any fun bounds =>
      versionedTrue.searchFrom none (sliceOf proposed bounds.1 bounds.2))
    (cdkError "agent proposal did not request versioned: true in the linked construct")
  let bounds ← matchingConstruct printable original constructId
  match bounds with
  | none => .error (cdkError "linked CDK construct disappeared")
  | some (start, stop) => do
    let block := sliceOf original start stop
    raiseIf (versionedKey.searchFrom none block)
      (cdkError "linked CDK construct already has an explicit versioned property")
    match encryptionLine.findAll block with
    | [(position, n)] =>
      let insertion := position + n
      let indent := ((block.drop position).take n).takeWhile isSpace
      let changedBlock := block.take insertion ++ (indent ++ versionedText) ++ block.drop insertion
      return original.take start ++ changedBlock ++ original.drop stop
    | _ => .error (cdkError "linked CDK construct must contain exactly one encryption property")

end patching

end ElCapitan
