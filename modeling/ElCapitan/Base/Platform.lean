import ElCapitan.Base.Errors
import ElCapitan.Base.Schema

/-!
# The platform

What the modelled code calls of the Python standard library and of its one
validation dependency without being about it: date parsing and formatting,
SHA-256, the text of floats and the wording of schema violations. All theorems
hold for every platform.
-/

namespace ElCapitan

/-- A parsed date and time. -/
structure DateTime where
  /-- The instant, in microseconds. -/
  instant : ℤ
  /-- `tzinfo is not None`. -/
  aware : Bool
  deriving DecidableEq

/-- Library functions the code relies on. -/
structure Platform where
  /-- `str.lower`. -/
  lower : String → String
  /-- `str.upper`. -/
  upper : String → String
  /-- `str.strip`. -/
  strip : String → String
  /-- `str(value)` of a value that is not a string. -/
  strOf : Json → String
  /-- `format(value, ".2f")`. -/
  formatTwo : ℚ → String
  /-- `datetime.fromisoformat`; `none` stands for its `ValueError`. -/
  fromIsoFormat : String → Option DateTime
  /-- `datetime.fromtimestamp(seconds, UTC)` as RFC 3339 text; `none` stands for its errors. -/
  utcFromTimestamp : ℚ → Option String
  /-- `hashlib.sha256(text).hexdigest()` of UTF-8 text. -/
  sha256Hex : String → String
  /-- `repr` of a float. -/
  floatRepr : ℚ → String
  /-- `json.loads`; `none` stands for `JSONDecodeError`. -/
  jsonLoads : String → Option Json
  /-- `Draft202012Validator(schema).iter_errors` for the named schema file, as texts. -/
  schemaFileErrors : String → Json → List String
  /-- The message of a violation of an output contract. -/
  describe : SchemaError → String

variable (P : Platform)

/-- `canonical_json` on this platform. -/
def Platform.canonical (value : Json) : String := canonicalJson P.floatRepr value

/-- `sha256_bytes(canonical_json(value))`. -/
def Platform.canonicalHash (value : Json) : String := P.sha256Hex (P.canonical value)

/-- `str(value)`. -/
def Platform.str (value : Json) : String :=
  match value with
  | .str s => s
  | other => P.strOf other

/-- `value.replace("Z", "+00:00")`. -/
def zuluOffset (value : String) : String :=
  String.join (value.toList.map fun c => if c = 'Z' then "+00:00" else String.ofList [c])

/-- `parse_timestamp`. -/
def parseTimestamp (value : String) : Except PyError DateTime :=
  if value = "" then
    .error ⟨.usageAnalysisError, "timestamp must be non-empty RFC3339 text"⟩
  else
    match P.fromIsoFormat (zuluOffset value) with
    | none => .error ⟨.usageAnalysisError, "invalid RFC3339 timestamp: '" ++ value ++ "'"⟩
    | some parsed =>
      if parsed.aware then .ok parsed
      else .error ⟨.usageAnalysisError,
        "timestamp must include a timezone: '" ++ value ++ "'"⟩

/-- `parse_timestamp(left) <= parse_timestamp(right)`. -/
def notAfter (left right : String) : Except PyError Bool := do
  let l ← parseTimestamp P left
  let r ← parseTimestamp P right
  return decide (l.instant ≤ r.instant)

section samples

/-- The digit at a place of a text, or 0. -/
def digitAt (chars : List Char) (i : ℕ) : ℤ := (chars.getD i '0').toNat - 48

/-- The two-digit number at a place of a text. -/
def twoDigitsAt (chars : List Char) (i : ℕ) : ℤ := 10 * digitAt chars i + digitAt chars (i + 1)

/-- `datetime.fromisoformat` on the texts `2026-07-DDTHH:MM:SS+00:00`. -/
def sampleFromIso (value : String) : Option DateTime :=
  let chars := value.toList
  if chars.length = 25 ∧ chars.take 8 = "2026-07-".toList ∧ chars.drop 19 = "+00:00".toList then
    let seconds := 1782777600 + 86400 * twoDigitsAt chars 8 + 3600 * twoDigitsAt chars 11 +
      60 * twoDigitsAt chars 14 + twoDigitsAt chars 17
    some ⟨1000000 * seconds, true⟩
  else none

/-- The decimal text of a natural number. -/
def decimalOf (n : ℕ) : String := String.ofList (Nat.toDigits 10 n)

/-- `format(value, ".2f")` of a non-negative multiple of 0.01. -/
def sampleTwo (q : ℚ) : String :=
  let hundredths := (q * 100).floor.toNat
  decimalOf (hundredths / 100) ++ "." ++ decimalOf (hundredths / 10 % 10) ++
    decimalOf (hundredths % 10)

/-- `repr` of a non-negative multiple of 0.01. -/
def sampleRepr (q : ℚ) : String :=
  let hundredths := (q * 100).floor.toNat
  decimalOf (hundredths / 100) ++ "." ++ decimalOf (hundredths / 10 % 10) ++
    if hundredths % 10 = 0 then "" else decimalOf (hundredths % 10)

/-- A platform for runs on given inputs: as the library on the texts and numbers that
occur there. -/
def samplePlatform : Platform where
  lower value := String.ofList (value.toList.map Char.toLower)
  upper value := String.ofList (value.toList.map Char.toUpper)
  strip value := value
  strOf _ := "None"
  formatTwo := sampleTwo
  fromIsoFormat := sampleFromIso
  utcFromTimestamp _ := none
  sha256Hex value := "sha256:" ++ value
  floatRepr := sampleRepr
  jsonLoads _ := none
  schemaFileErrors _ _ := []
  describe _ := "is not valid"

/-- The sample hash has no collisions. -/
theorem sampleHash_injective : Function.Injective samplePlatform.sha256Hex := by
  intro a b h
  have hlist := congrArg String.toList (show "sha256:" ++ a = "sha256:" ++ b from h)
  rw [String.toList_append, String.toList_append] at hlist
  exact String.toList_inj.mp (List.append_cancel_left hlist)

end samples

end ElCapitan
