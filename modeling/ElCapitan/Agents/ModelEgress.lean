import ElCapitan.AgentRuns.Run
import ElCapitan.Base.Patterns

/-!
# What leaves for the model

`sanitize_for_model` and `ModelEgressRuntime`: secrets, identifiers and the texts of four patterns
are replaced by markers before a task is sent to the runtime of a model.
-/

namespace ElCapitan

section keys

/-- The alternatives of `_SECRET_KEYS`. -/
def secretWords : List String :=
  ["api_key", "apikey", "secret", "password", "passwd", "token", "credential",
    "connection_string", "connectionstring"]

/-- The alternatives of `_IDENTIFIER_KEYS`. -/
def identifierWords : List String :=
  ["subscription", "subscription_id", "subscriptionid", "tenant", "tenant_id", "tenantid",
    "account_id", "accountid", "resource_id", "resource_uid", "resourceid", "resourceuid",
    "client_id", "clientid", "principal_id", "principalid", "email"]

/-- `($|_)`. -/
def endsWord (rest : List Char) : Bool :=
  rest = [] || rest = ['\n'] || rest.head? = some '_'

/-- One of the words, at a position. -/
def wordAt (words : List String) (text : List Char) : Bool :=
  words.any fun word => (afterLetters word.toList text).any endsWord

/-- `(^|_)(…)($|_)` is found in a key. -/
def hasWord (words : List String) (key : String) : Bool :=
  wordAt words key.toList ||
    key.toList.tails.any fun tail => tail.head? = some '_' && wordAt words tail.tail

/-- `_SECRET_KEYS.search(key)`. -/
def isSecretKey (key : String) : Bool := hasWord secretWords key

/-- `_IDENTIFIER_KEYS.search(key)`. -/
def isIdentifierKey (key : String) : Bool := hasWord identifierWords key

end keys

section patterns

variable (T : TextLibrary)

/-- A character of `[^\s"'<>]`. -/
def staysInToken (c : Char) : Bool := !isSpace c && c ∉ ['"', '\'', '<', '>']

/-- A character of `[0-9a-f-]` under `re.IGNORECASE`. -/
def isArmHexChar (c : Char) : Bool := c.isDigit || c ∈ "abcdefABCDEF-".toList

/-- `_ARM_ID`. -/
def armId : Pattern := fun _ text => do
  let rest ← afterLetters "/subscriptions/".toList text
  match rest.takeWhile isArmHexChar, rest.dropWhile isArmHexChar with
  | _ :: hex, '/' :: more =>
    match more.takeWhile staysInToken with
    | [] => none
    | _ :: name => some (15 + (hex.length + 1) + 1 + (name.length + 1))
  | _, _ => none

/-- A character of `[A-Z]` under `re.IGNORECASE`. -/
def isPatternLetter (c : Char) : Bool := c.isAlpha || c ∈ ['İ', 'ı', 'ſ', '\u212a']

/-- A character of `[A-Z0-9._%+-]` under `re.IGNORECASE`. -/
def isLocalChar (c : Char) : Bool :=
  isPatternLetter c || c.isDigit || c ∈ ['.', '_', '%', '+', '-']

/-- A character of `[A-Z0-9.-]` under `re.IGNORECASE`. -/
def isDomainChar (c : Char) : Bool := isPatternLetter c || c.isDigit || c ∈ ['.', '-']

/-- `[A-Z]{2,}\b` after the dot of a domain: letters are words, so that all of them match. -/
def topLevelDomain (text : List Char) : Option ℕ :=
  let letters := text.takeWhile isPatternLetter
  if 2 ≤ letters.length ∧ wordBoundary T letters.getLast? (text.dropWhile isPatternLetter).head?
  then some letters.length else none

/-- `[A-Z0-9.-]+\.[A-Z]{2,}\b`, with the last dot that is possible; `began` says whether a
character of the domain was read. -/
def emailDomain (began : Bool) : List Char → Option ℕ
  | [] => none
  | c :: rest =>
    if isDomainChar c then
      match emailDomain true rest with
      | some n => some (n + 1)
      | none => if began ∧ c = '.' then (topLevelDomain T rest).map (· + 1) else none
    else none

/-- `_EMAIL`. -/
def email : Pattern := fun before text =>
  match text.takeWhile isLocalChar, text.dropWhile isLocalChar with
  | c :: name, '@' :: rest =>
    if wordBoundary T before (some c) then
      (emailDomain T false rest).map fun n => name.length + 1 + 1 + n
    else none
  | _, _ => none

/-- `\d{1,3}` before a character that is not a digit. -/
def shortNumber (text : List Char) : Option (ℕ × List Char) :=
  match text.takeWhile T.decimal with
  | [] => none
  | digits => if digits.length ≤ 3 then some (digits.length, text.dropWhile T.decimal) else none

/-- `\d{1,3}\.`. -/
def octetAndDot (text : List Char) : Option (ℕ × List Char) :=
  match shortNumber T text with
  | some (n, '.' :: rest) => some (n + 1, rest)
  | _ => none

/-- `_IPV4`. -/
def ipv4 : Pattern := fun before text =>
  if before.any fun c => T.decimal c || c = '.' then none
  else do
    let (first, rest) ← octetAndDot T text
    let (second, rest) ← octetAndDot T rest
    let (third, rest) ← octetAndDot T rest
    let (fourth, rest) ← shortNumber T rest
    if rest.head? = some '.' then none else some (first + second + third + fourth)

/-- What follows `/(?:Users|home)/`, with its length. -/
def afterHome (text : List Char) : Option (ℕ × List Char) :=
  if "/Users/".toList.isPrefixOf text then some (7, text.drop 7)
  else if "/home/".toList.isPrefixOf text then some (6, text.drop 6)
  else none

/-- `_HOME_PATH`. -/
def homePath : Pattern := fun _ text => do
  let (length, rest) ← afterHome text
  match rest.takeWhile fun c => c ≠ '/' && !isSpace c with
  | [] => none
  | _ :: user =>
    let more := match rest.dropWhile fun c => c ≠ '/' && !isSpace c with
      | '/' :: path =>
        match path.takeWhile staysInToken with
        | [] => 0
        | _ :: inner => 1 + (inner.length + 1)
      | _ => 0
    some (length + (user.length + 1) + more)

end patterns

section scrubbing

variable (P : Platform) (T : TextLibrary)

/-- `_marker`. -/
def redactionMarker (kind value : String) : String :=
  "[" ++ kind ++ "_REDACTED:" ++ String.ofList ((P.sha256Hex value).toList.take 10) ++ "]"

/-- The patterns of `scrub_string`, in their order. -/
def redactions : List (Pattern × String) :=
  [(armId, "AZURE_RESOURCE"), (email T, "EMAIL"), (ipv4 T, "IP_ADDRESS"), (homePath, "LOCAL_PATH")]

/-- The matches of a pattern are replaced by their markers. -/
def redact (pattern : Pattern) (kind : String) (text : List Char) : List Char × ℕ :=
  pattern.sub (fun value => (redactionMarker P kind (String.ofList value)).toList) text

/-- `scrub_string`, with the number of redactions. -/
def scrubString (text : String) : String × ℕ :=
  let scrubbed := (redactions T).foldl (fun result redaction =>
    let replaced := redact P redaction.1 redaction.2 result.1
    (replaced.1, result.2 + replaced.2)) (text.toList, 0)
  (String.ofList scrubbed.1, scrubbed.2)

mutual

/-- `scrub`, with the number of redactions. -/
def scrub (key : String) (item : Json) : Json × ℕ :=
  if isSecretKey key then (.str "[SECRET_REDACTED]", 1)
  else
    match item with
    | .obj entries => let scrubbed := scrubEntries entries; (.obj scrubbed.1, scrubbed.2)
    | .arr items => let scrubbed := scrubItems key items; (.arr scrubbed.1, scrubbed.2)
    | .str text =>
      if isIdentifierKey key then (.str (redactionMarker P "IDENTIFIER" text), 1)
      else let scrubbed := scrubString P T text; (.str scrubbed.1, scrubbed.2)
    | .int n =>
      if isIdentifierKey key then (.str (redactionMarker P "IDENTIFIER" (P.str (.int n))), 1)
      else (.int n, 0)
    | .bool b =>
      if isIdentifierKey key then (.str (redactionMarker P "IDENTIFIER" (P.str (.bool b))), 1)
      else (.bool b, 0)
    | other => (other, 0)

/-- The items of a list, under the key of the list. -/
def scrubItems (key : String) : List Json → List Json × ℕ
  | [] => ([], 0)
  | item :: items =>
    let scrubbed := scrub key item
    let rest := scrubItems key items
    (scrubbed.1 :: rest.1, scrubbed.2 + rest.2)

/-- The entries of a mapping, each value under its own key. -/
def scrubEntries : List (String × Json) → List (String × Json) × ℕ
  | [] => ([], 0)
  | (name, child) :: entries =>
    let scrubbed := scrub name child
    let rest := scrubEntries entries
    ((name, scrubbed.1) :: rest.1, scrubbed.2 + rest.2)

end

/-- `EgressReceipt`. -/
structure EgressReceipt where
  redactions : ℕ
  inputBytes : ℕ
  outputBytes : ℕ

/-- `sanitize_for_model`. -/
def sanitizeForModel (value : Json) : Json × EgressReceipt :=
  let sanitized := scrub P T "" value
  (sanitized.1, ⟨sanitized.2, (T.repr value).utf8ByteSize, (T.repr sanitized.1).utf8ByteSize⟩)

/-- The task that `ModelEgressRuntime.run` sends on, and the receipt. -/
def AgentTask.sanitized (task : AgentTask) : AgentTask × EgressReceipt :=
  let sanitized := sanitizeForModel P T (.obj task.metadata)
  ({ task with metadata := sanitized.1.obj?.getD [] }, sanitized.2)

/-- `ModelEgressRuntime.run`, with the last receipt. -/
def modelEgressRun (run : AgentTask → Except PyError AgentResult) (task : AgentTask) :
    Except PyError AgentResult × EgressReceipt :=
  (run (task.sanitized P T).1, (task.sanitized P T).2)

end scrubbing

end ElCapitan
