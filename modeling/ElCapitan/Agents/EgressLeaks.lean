import ElCapitan.Agents.EgressPatterns
import ElCapitan.Agents.EgressSecrets

/-!
# What a sanitized document still tells

The texts of a sanitized document are keys, which nobody redacts, redacted texts and markers. No
marker matches a pattern of redaction, and a redacted text matches none unless redaction itself
brought two parts of it together.
-/

namespace ElCapitan

section cleanness

variable (T : TextLibrary)

end cleanness

section texts

variable {P : Platform} {T : TextLibrary}

section stages

variable {first second third fourth : List Char → List Char} {text : List Char}

end stages

end texts

section values

mutual

/-- The texts of a value: its strings and the keys of its mappings. -/
def Json.texts : Json → List String
  | .str text => [text]
  | .arr items => textsOfItems items
  | .obj entries => textsOfEntries entries
  | _ => []

/-- The texts of items. -/
def textsOfItems : List Json → List String
  | [] => []
  | item :: items => item.texts ++ textsOfItems items

/-- The texts of entries. -/
def textsOfEntries : List (String × Json) → List String
  | [] => []
  | (name, child) :: entries => name :: (child.texts ++ textsOfEntries entries)

end

/-- Where a text of a sanitized document comes from. -/
inductive EgressPart where
  /-- The key of a mapping. -/
  | key (name : String)
  /-- A string, which is redacted. -/
  | text (value : String)
  /-- A string or a number under an identifying key. -/
  | identifier (value : String)
  /-- What is stored under the key of a secret. -/
  | secret

variable (P : Platform) (T : TextLibrary)

mutual

/-- The parts of which texts are sent, of a value under a key. -/
def egressParts (key : String) (item : Json) : List EgressPart :=
  if isSecretKey key then [.secret]
  else
    match item with
    | .obj entries => egressEntries entries
    | .arr items => egressItems key items
    | .str text => if isIdentifierKey key then [.identifier text] else [.text text]
    | .int n => if isIdentifierKey key then [.identifier (P.str (.int n))] else []
    | .bool b => if isIdentifierKey key then [.identifier (P.str (.bool b))] else []
    | _ => []

/-- The parts of the items of a list, under the key of the list. -/
def egressItems (key : String) : List Json → List EgressPart
  | [] => []
  | item :: items => egressParts key item ++ egressItems key items

/-- The parts of the entries of a mapping: every key, and each value under its own key. -/
def egressEntries : List (String × Json) → List EgressPart
  | [] => []
  | (name, child) :: entries => .key name :: (egressParts name child ++ egressEntries entries)

end

variable {P T}

end values

end ElCapitan
