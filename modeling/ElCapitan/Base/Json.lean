import Mathlib.Data.List.Sort
import Mathlib.Data.Rat.Defs
import Mathlib.Algebra.Order.Ring.Rat

/-!
# JSON values

Documents that services read, write and hash. Objects keep their entries in the
order of the source's dictionaries; a lookup takes the first entry of a key.
-/

namespace ElCapitan

/-- What holds of the characters of a text is decided along the text, not over all
characters. -/
instance decidableForallChar (p : Char → Prop) [DecidablePred p] (chars : List Char) :
    Decidable (∀ c ∈ chars, p c) :=
  List.decidableBAll p chars

/-- A JSON value; integers and floats are different types, as in the source. -/
inductive Json where
  | null
  | bool (b : Bool)
  | int (n : ℤ)
  | float (q : ℚ)
  | str (s : String)
  | arr (items : List Json)
  | obj (entries : List (String × Json))
  deriving Inhabited

/-- The entries of an object. -/
abbrev Document := List (String × Json)

namespace Json

/-- The truth value of a document. -/
def truthy : Json → Bool
  | null => false
  | bool b => b
  | int n => n ≠ 0
  | float q => q ≠ 0
  | str s => s ≠ ""
  | arr items => !items.isEmpty
  | obj entries => !entries.isEmpty

/-- `isinstance(value, str)`. -/
def str? : Json → Option String
  | str s => some s
  | _ => none

/-- `isinstance(value, Mapping)`. -/
def obj? : Json → Option Document
  | obj entries => some entries
  | _ => none

/-- `isinstance(value, (list, tuple))`. -/
def arr? : Json → Option (List Json)
  | arr items => some items
  | _ => none

/-- The number a JSON number denotes. -/
def number? : Json → Option ℚ
  | int n => some n
  | float q => some q
  | _ => none

/-- `value is True`. -/
def isTrue : Json → Bool
  | bool b => b
  | _ => false

/-- The list of strings a value is, if it is one. -/
def strings? (value : Json) : Option (List String) :=
  match value with
  | arr items => items.mapM str?
  | _ => none

/-- A JSON array of strings. -/
def ofStrings (values : List String) : Json := arr (values.map str)

end Json

/-- `document.get(name)`, with `null` for an absent entry. -/
def Document.get (document : Document) (name : String) : Json :=
  (document.lookup name).getD .null

/-- `document.get(name, default)` for a text. -/
def Document.text (document : Document) (name : String) : String :=
  ((document.lookup name).bind Json.str?).getD ""

/-- `document[name] = value`. -/
def Document.set (document : Document) (name : String) (value : Json) : Document :=
  if (document.lookup name).isSome then
    document.map fun entry => if entry.1 = name then (name, value) else entry
  else document ++ [(name, value)]

section escapes

/-- The value of a hexadecimal digit. -/
def hexDigit? (c : Char) : Option ℕ :=
  if '0' ≤ c ∧ c ≤ '9' then some (c.toNat - 48)
  else if 'a' ≤ c ∧ c ≤ 'f' then some (c.toNat - 87)
  else if 'A' ≤ c ∧ c ≤ 'F' then some (c.toNat - 55)
  else none

/-- `\uXXXX`. -/
def unicodeEscape (code : ℕ) : List Char :=
  ['\\', 'u', (code / 4096 % 16).digitChar, (code / 256 % 16).digitChar,
    (code / 16 % 16).digitChar, (code % 16).digitChar]

/-- How `json.dumps` writes a character outside printable ASCII: characters above U+FFFF are a
pair of surrogates. -/
def asciiChar (c : Char) : List Char :=
  if ' ' ≤ c ∧ c ≤ '~' then [c]
  else if c.toNat < 65536 then unicodeEscape c.toNat
  else
    unicodeEscape (55296 + (c.toNat - 65536) / 1024) ++
      unicodeEscape (56320 + (c.toNat - 65536) % 1024)

/-- The ASCII text that `json.dumps` writes for a text of JSON that keeps other characters. -/
def asciiJson (text : String) : String := String.ofList (text.toList.flatMap asciiChar)

/-- How `json.dumps` escapes a character when it keeps non-ASCII text. -/
def escapeChar (c : Char) : String :=
  if c = '"' then "\\\""
  else if c = '\\' then "\\\\"
  else if c = '\n' then "\\n"
  else if c = '\r' then "\\r"
  else if c = '\t' then "\\t"
  else if c.toNat = 8 then "\\b"
  else if c.toNat = 12 then "\\f"
  else if c.toNat < 32 then
    "\\u00" ++ String.ofList [(c.toNat / 16).digitChar, (c.toNat % 16).digitChar]
  else String.ofList [c]

/-- A string literal of JSON. -/
def quoted (s : String) : String :=
  "\"" ++ String.join (s.toList.map escapeChar) ++ "\""

/-- Insert an entry into entries sorted by their keys. -/
def insertEntry (entry : String × String) : List (String × String) → List (String × String)
  | [] => [entry]
  | head :: rest =>
    if entry.1 ≤ head.1 then entry :: head :: rest else head :: insertEntry entry rest

end escapes

section canonical

variable (floatRepr : ℚ → String)

mutual

/-- `canonical_json` as text. -/
def canonicalJson : Json → String
  | .null => "null"
  | .bool true => "true"
  | .bool false => "false"
  | .int n => toString n
  | .float q => floatRepr q
  | .str s => quoted s
  | .arr items => "[" ++ ",".intercalate (canonicalItems items) ++ "]"
  | .obj entries =>
    let fields := (canonicalEntries entries).foldr insertEntry []
    "\x7b" ++ ",".intercalate (fields.map fun field => quoted field.1 ++ ":" ++ field.2) ++ "\x7d"

/-- The canonical texts of the items of an array. -/
def canonicalItems : List Json → List String
  | [] => []
  | item :: items => canonicalJson item :: canonicalItems items

/-- The keys of an object with the canonical texts of their values. -/
def canonicalEntries : Document → List (String × String)
  | [] => []
  | (name, value) :: entries => (name, canonicalJson value) :: canonicalEntries entries

end

end canonical

end ElCapitan
