import ElCapitan.Base.Json

/-!
# Characters of patterns

Classes of characters and literals as `re` has them: blanks, letters under `re.IGNORECASE`, word
characters and the boundaries of words. What Python's Unicode tables decide is a library.
-/

namespace ElCapitan

/-- What the patterns ask of characters, and the `repr` of a value. -/
structure TextLibrary where
  /-- `c.isalnum()`. -/
  alnum : Char → Bool
  /-- `c.isdecimal()`. -/
  decimal : Char → Bool
  /-- `repr(value)`. -/
  repr : Json → String

/-- `str.isspace` of a character. -/
def isSpace (c : Char) : Bool :=
  c.toNat ∈ [32, 133, 160, 5760, 8232, 8233, 8239, 8287, 12288] ||
    (9 ≤ c.toNat && c.toNat ≤ 13) || (28 ≤ c.toNat && c.toNat ≤ 31) ||
    (8192 ≤ c.toNat && c.toNat ≤ 8202)

/-- A letter of a pattern matches a character under `re.IGNORECASE`. -/
def matchesLetter (letter c : Char) : Bool :=
  c.toLower = letter.toLower || (letter.toLower = 's' && c = 'ſ') ||
    (letter.toLower = 'i' && (c = 'İ' || c = 'ı')) || (letter.toLower = 'k' && c = '\u212a')

/-- What follows a literal of a pattern under `re.IGNORECASE`. -/
def afterLetters : List Char → List Char → Option (List Char)
  | [], text => some text
  | letter :: letters, c :: text =>
    if matchesLetter letter c then afterLetters letters text else none
  | _ :: _, [] => none

section words

variable (T : TextLibrary)

/-- A character of `\w`. -/
def isWordChar (c : Char) : Bool := T.alnum c || c = '_'

/-- `\b` between two characters. -/
def wordBoundary (before after : Option Char) : Bool :=
  before.any (isWordChar T) != after.any (isWordChar T)

end words

/-- A library for ASCII characters. -/
def asciiTextLibrary : TextLibrary where
  alnum := Char.isAlphanum
  decimal := Char.isDigit
  repr _ := ""

end ElCapitan
