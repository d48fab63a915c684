import ElCapitan.Infrastructure.HclScanner

/-!
# The lexical grammar of HCL

The texts of configuration files, generated from their elements: code, line ends, the three kinds
of comments, quoted strings with escapes and templates, heredocs, and bracketed groups of elements.
A file is a list of attributes and blocks; its resource blocks and their lines are read off the
elements, not off the text.
-/

namespace ElCapitan

/-- The brackets that group elements; blocks and objects are in braces. -/
inductive Bracket where
  | brace
  | paren
  | square

mutual

/-- An element of a text. -/
inductive Element where
  /-- A character of an identifier, a number or an operator, or a blank. -/
  | code (c : Char)
  | newline
  /-- A comment from `#` or `//` to the end of its line. -/
  | lineComment (hash : Bool) (text : List Char)
  | blockComment (text : List Char)
  | quoted (parts : List Part)
  /-- A heredoc, with the blanks before its closing marker. -/
  | heredoc (flush : Bool) (marker : List Char) (body : List Part) (indent : List Char)
  | group (bracket : Bracket) (inner : List Element)

/-- A part of a quoted string or of a heredoc. -/
inductive Part where
  | char (c : Char)
  | escape (c : Char)
  /-- `$${` or `%%{`. -/
  | templateEscape (directive : Bool)
  /-- `${…}` or `%{…}`. -/
  | interpolation (directive : Bool) (inner : List Element)

end

section rendering

/-- The opening bracket. -/
def Bracket.opening : Bracket → Char
  | .brace => '\x7b'
  | .paren => '('
  | .square => '['

/-- The closing bracket. -/
def Bracket.closing : Bracket → Char
  | .brace => '\x7d'
  | .paren => ')'
  | .square => ']'

/-- `$` or `%`. -/
def templateSign (directive : Bool) : Char := if directive then '%' else '$'

/-- How a comment begins. -/
def commentSign (hash : Bool) : List Char := if hash then ['#'] else ['/', '/']

mutual

/-- The text of an element. -/
def Element.render : Element → List Char
  | .code c => [c]
  | .newline => ['\n']
  | .lineComment hash text => commentSign hash ++ text ++ ['\n']
  | .blockComment text => ['/', '*'] ++ text ++ ['*', '/']
  | .quoted parts => ['"'] ++ renderParts parts ++ ['"']
  | .heredoc flush marker body indent =>
    ['<', '<'] ++ (if flush then ['-'] else []) ++ marker ++ ['\n'] ++ renderParts body ++
      indent ++ marker
  | .group bracket inner => [bracket.opening] ++ renderAll inner ++ [bracket.closing]

/-- The text of elements. -/
def renderAll : List Element → List Char
  | [] => []
  | element :: elements => element.render ++ renderAll elements

/-- The text of a part. -/
def Part.render : Part → List Char
  | .char c => [c]
  | .escape c => ['\\', c]
  | .templateEscape directive => [templateSign directive, templateSign directive, '\x7b']
  | .interpolation directive inner =>
    [templateSign directive, '\x7b'] ++ renderAll inner ++ ['\x7d']

/-- The text of parts. -/
def renderParts : List Part → List Char
  | [] => []
  | part :: parts => part.render ++ renderParts parts

end

end rendering

section lexical

/-- A character that stands for itself in code. -/
def isCodeChar (c : Char) : Bool :=
  c ∉ ['"', '\\', '#', '\x7b', '\x7d', '(', ')', '[', ']'] && !isLineBreak c

/-- A character of an identifier. -/
def isIdentifierChar (c : Char) : Bool :=
  c.isAlphanum || c = '_' || c = '-' || (128 ≤ c.toNat && !isSpace c)

/-- An identifier. -/
def isIdentifier (text : List Char) : Bool :=
  someOf isIdentifierChar text && !(text.head?.any fun c => c.isDigit || c = '-')

/-- What may follow an element without becoming a part of it or of something else. -/
def Element.mayPrecede (element : Element) (after : List Char) : Bool :=
  match element with
  | .code c =>
    !(c = '/' && (after.head? = some '/' || after.head? = some '*')) &&
      !(c = '<' && after.head? = some '<')
  | .heredoc _ _ _ _ => after.head? = some '\n'
  | _ => true

/-- A dollar or percent sign that stands for itself is not the beginning of a template. -/
def Part.mayPrecede (part : Part) (after : List Char) : Bool :=
  match part with
  | .char c =>
    !((c = '$' || c = '%') && (after.head? = some '\x7b' || [c, '\x7b'].isPrefixOf after))
  | _ => true

/-- The character that a part is. -/
def Part.literal? : Part → Option Char
  | .char c => some c
  | _ => none

/-- Is a line of a heredoc its closing marker? -/
def closesHeredoc (marker : List Char) (line : List Part) : Bool :=
  (line.dropWhile fun part => part.literal?.any isSpace).map Part.literal? = marker.map some

mutual

/-- An element is lexically well formed. -/
def Element.lexical : Element → Bool
  | .code c => isCodeChar c
  | .newline => true
  | .lineComment _ text => '\n' ∉ text
  | .blockComment text => !(text.tails.any fun tail => ['*', '/'].isPrefixOf tail)
  | .quoted parts => lexicalParts false parts
  | .heredoc _ marker body indent =>
    isIdentifier marker && (indent.all fun c => c = ' ' || c = '\t') && lexicalParts true body &&
      (body.isEmpty || body.getLast?.any fun part => part.literal? = some '\n') &&
      (body.splitOnP fun part => part.literal? = some '\n').all fun line =>
        !closesHeredoc marker line
  | .group bracket inner => lexicalAll [bracket.closing] inner

/-- Elements are well formed before a text that follows them. -/
def lexicalAll (after : List Char) : List Element → Bool
  | [] => true
  | element :: elements =>
    element.lexical && element.mayPrecede (renderAll elements ++ after) && lexicalAll after elements

/-- A part is well formed. -/
def Part.lexical (heredoc : Bool) : Part → Bool
  | .char c => heredoc || c ∉ ['"', '\\', '\n']
  | .escape c => !heredoc && c ∈ ['n', 'r', 't', '"', '\\', 'u', 'U']
  | .templateEscape _ => true
  | .interpolation _ inner => lexicalAll ['\x7d'] inner

/-- Parts are well formed one after another. -/
def lexicalParts (heredoc : Bool) : List Part → Bool
  | [] => true
  | part :: parts =>
    part.lexical heredoc && part.mayPrecede (renderParts parts) && lexicalParts heredoc parts

end

/-- An element of a gap: a blank or a comment. -/
def Element.isGap : Element → Bool
  | .code c => c = ' ' || c = '\t'
  | .blockComment _ => true
  | _ => false

/-- A gap. -/
def isGap (elements : List Element) : Bool :=
  elements.all Element.isGap && lexicalAll [] elements

/-- An element that ends a line of a body. -/
def Element.endsLine : Element → Bool
  | .newline | .lineComment _ _ => true
  | _ => false

end lexical

/-- A label of a block. -/
inductive BlockLabel where
  | quoted (parts : List Part)
  | bare (text : List Char)

/-- A label as it is written, without quotes. -/
def BlockLabel.text : BlockLabel → List Char
  | .quoted parts => renderParts parts
  | .bare text => text

/-- A label in the text. -/
def BlockLabel.render : BlockLabel → List Char
  | .quoted parts => ['"'] ++ renderParts parts ++ ['"']
  | .bare text => text

/-- A block: its keyword, its labels, each after a gap, the gap before the opening brace and its
body. -/
structure HclBlock where
  keyword : List Char
  labels : List (List Element × BlockLabel)
  opening : List Element
  body : List Element

/-- The end of an item's line, perhaps with a comment; the last line may end with the file. -/
inductive Ending where
  | newline
  | comment (hash : Bool) (text : List Char)
  | fileEnd
  | lastComment (hash : Bool) (text : List Char)

/-- An item of a file, after a gap. -/
inductive Item where
  | blank (indent : List Element) (ending : Ending)
  | attribute (indent : List Element) (name : List Char) (gap value : List Element)
      (ending : Ending)
  | block (indent : List Element) (declared : HclBlock) (trailing : List Element)
      (ending : Ending)

section items

/-- The header of a block, with the opening brace. -/
def HclBlock.header (block : HclBlock) : List Char :=
  block.keyword ++ (block.labels.flatMap fun label => renderAll label.1 ++ label.2.render) ++
    renderAll block.opening ++ ['\x7b']

/-- The text of a block, from its keyword to its closing brace. -/
def HclBlock.render (block : HclBlock) : List Char :=
  block.header ++ renderAll block.body ++ ['\x7d']

/-- The text of an ending. -/
def Ending.render : Ending → List Char
  | .newline => ['\n']
  | .comment hash text => commentSign hash ++ text ++ ['\n']
  | .fileEnd => []
  | .lastComment hash text => commentSign hash ++ text

/-- The text of an item. -/
def Item.render : Item → List Char
  | .blank indent ending => renderAll indent ++ ending.render
  | .attribute indent name gap value ending =>
    renderAll indent ++ name ++ renderAll gap ++ ['='] ++ renderAll value ++ ending.render
  | .block indent declared trailing ending =>
    renderAll indent ++ declared.render ++ renderAll trailing ++ ending.render

/-- How the line of an item ends. -/
def Item.ending : Item → Ending
  | .blank _ ending | .attribute _ _ _ _ ending | .block _ _ _ ending => ending

/-- An ending is well formed. -/
def Ending.lexical : Ending → Bool
  | .newline | .fileEnd => true
  | .comment _ text | .lastComment _ text => '\n' ∉ text

/-- Does the file end with this line? -/
def Ending.isLast : Ending → Bool
  | .newline | .comment _ _ => false
  | .fileEnd | .lastComment _ _ => true

/-- Is a part a template? -/
def Part.isTemplate : Part → Bool
  | .interpolation _ _ => true
  | _ => false

/-- A label is well formed after its gap: in quotes it is a string without templates. -/
def BlockLabel.lexical (gap : List Element) : BlockLabel → Bool
  | .quoted parts => lexicalParts false parts && !parts.any Part.isTemplate
  | .bare text => isIdentifier text && !gap.isEmpty

/-- A block is well formed, with its header in one line. -/
def HclBlock.lexical (block : HclBlock) : Bool :=
  isIdentifier block.keyword &&
    (block.labels.all fun label => isGap label.1 && label.2.lexical label.1) &&
    isGap block.opening && !block.header.any isLineBreak && lexicalAll ['\x7d'] block.body

/-- An item is well formed. -/
def Item.lexical : Item → Bool
  | .blank indent ending => isGap indent && ending.lexical
  | .attribute indent name gap value ending =>
    isGap indent && isIdentifier name && isGap gap && ending.lexical &&
      !(value.any Element.endsLine) && lexicalAll ending.render value
  | .block indent declared trailing ending =>
    isGap indent && declared.lexical && isGap trailing && ending.lexical

/-- Items are well formed: only the last one ends with the file. -/
def lexicalItems : List Item → Bool
  | [] => true
  | [item] => item.lexical
  | item :: items => item.lexical && !item.ending.isLast && lexicalItems items

end items

/-- A text of the lexical grammar. -/
structure HclText where
  items : List Item
  lexical : lexicalItems items = true

/-- A resource block: its type, its name and its lines. -/
structure BlockSpan where
  resourceType : String
  resourceName : String
  startLine : ℕ
  endLine : ℕ
  deriving DecidableEq

section spans

/-- The text of items. -/
def renderItems (items : List Item) : List Char := items.flatMap Item.render

/-- The text that the items generate. -/
def HclText.render (text : HclText) : List Char := renderItems text.items

/-- The number of line ends in a text. Lines are those of `str.splitlines`, which the numbers of a
link index. -/
def breaks (text : List Char) : ℕ := text.countP isLineBreak

/-- The type and the name of a resource block. -/
def HclBlock.resource? (block : HclBlock) : Option (String × String) :=
  match block.labels with
  | [(_, resourceType), (_, resourceName)] =>
    if block.keyword = "resource".toList then
      some (String.ofList resourceType.text, String.ofList resourceName.text)
    else none
  | _ => none

/-- The resource block that an item is, when the item begins in a line. -/
def Item.span? (line : ℕ) : Item → Option BlockSpan
  | .block indent declared _ _ => declared.resource?.map fun resource =>
    { resourceType := resource.1, resourceName := resource.2,
      startLine := line + breaks (renderAll indent),
      endLine := line + breaks (renderAll indent) + breaks declared.render }
  | _ => none

/-- The resource blocks of items, the first of which begins in a line. -/
def spansFrom (line : ℕ) : List Item → List BlockSpan
  | [] => []
  | item :: items => (item.span? line).toList ++ spansFrom (line + breaks item.render) items

/-- The top-level resource blocks of a text. -/
def HclText.spans (text : HclText) : List BlockSpan := spansFrom 1 text.items

end spans

end ElCapitan
