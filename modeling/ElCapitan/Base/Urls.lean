import ElCapitan.Base.Platform
import Mathlib.Data.List.TakeWhile

/-!
# URLs

`urlsplit` and `quote` of the Python standard library, and what RFC 3986 says of the same texts:
the parts of a reference, percent-decoding of unreserved characters and the removal of dot
segments.
-/

namespace ElCapitan

/-- What `urlsplit` calls, and the `repr` of a text. -/
structure UrlLibrary where
  /-- `unicodedata.normalize("NFKC", text)`. -/
  nfkc : List Char → List Char
  /-- Is `ipaddress.ip_address(text)` an IPv6 address? -/
  ipAddress : List Char → Except PyError Bool
  /-- An IPv6 address has a colon. -/
  ipv6_colon : ∀ {text : List Char}, ipAddress text = .ok true → ':' ∈ text
  /-- `repr(text)`. -/
  repr : String → String

section splitting

/-- The text before the first occurrence of a character, and the text after it. -/
def partitionAt (c : Char) (text : List Char) : List Char × List Char :=
  (text.takeWhile (· ≠ c), (text.dropWhile (· ≠ c)).drop 1)

/-- A text is split at the first separator it holds. -/
theorem partitionAt_mem {c : Char} {text : List Char} (h : c ∈ text) :
    text = (partitionAt c text).1 ++ c :: (partitionAt c text).2 := by
  have hsplit : text = text.takeWhile (· ≠ c) ++ text.dropWhile (· ≠ c) :=
    List.takeWhile_append_dropWhile.symm
  cases hdrop : text.dropWhile (· ≠ c) with
  | nil =>
    have hall := List.dropWhile_eq_nil_iff.mp hdrop c h
    simp at hall
  | cons other rest =>
    have hother : other = c := by
      have hhead := List.head?_dropWhile_not (fun x => decide (x ≠ c)) text
      rw [hdrop] at hhead
      simpa using hhead
    unfold partitionAt
    rw [hdrop, List.drop_one, List.tail_cons]
    rw [hdrop, hother] at hsplit
    exact hsplit

/-- A text without the separator is not split. -/
theorem partitionAt_of_not_mem {c : Char} {text : List Char} (h : c ∉ text) :
    partitionAt c text = (text, []) := by
  have hall : ∀ other ∈ text, decide (other ≠ c) = true := by
    intro other hother
    have hne : other ≠ c := fun hequal => h (hequal ▸ hother)
    simpa using hne
  unfold partitionAt
  rw [List.takeWhile_eq_self_iff.mpr hall, List.dropWhile_eq_nil_iff.mpr hall]
  rfl

/-- A text is split behind a part without the separator. -/
theorem partitionAt_append {c : Char} {before : List Char} (after : List Char) (h : c ∉ before) :
    partitionAt c (before ++ c :: after) = (before, after) := by
  have hall : ∀ other ∈ before, decide (other ≠ c) = true := by
    intro other hother
    have hne : other ≠ c := fun hequal => h (hequal ▸ hother)
    simpa using hne
  unfold partitionAt
  rw [List.takeWhile_append_of_pos hall, List.dropWhile_append_of_pos hall]
  simp

/-- The text after the last occurrence of a character. -/
def afterLast (c : Char) (text : List Char) : List Char :=
  (text.reverse.takeWhile (· ≠ c)).reverse

/-- A text without the separator is its own last part. -/
theorem afterLast_of_not_mem {c : Char} {text : List Char} (h : c ∉ text) :
    afterLast c text = text := by
  have hall : ∀ other ∈ text.reverse, decide (other ≠ c) = true := by
    intro other hother
    have hne : other ≠ c := fun hequal => h (hequal ▸ List.mem_reverse.mp hother)
    simpa using hne
  unfold afterLast
  rw [List.takeWhile_eq_self_iff.mpr hall, List.reverse_reverse]

/-- The text before the last occurrence of a character, or nothing. -/
def beforeLast (c : Char) (text : List Char) : List Char :=
  ((text.reverse.dropWhile (· ≠ c)).drop 1).reverse

/-- The text without what `urlsplit` removes from it. -/
def cleanUrl (url : List Char) : List Char :=
  (url.dropWhile fun c => c.toNat ≤ 32).filter fun c => c ∉ ['\t', '\r', '\n']

/-- A character of a scheme. -/
def isSchemeChar (c : Char) : Bool := c.isAlphanum || c ∈ ['+', '-', '.']

/-- The scheme of a URL, or nothing, and the text after it. -/
def splitScheme (url : List Char) : List Char × List Char :=
  if ':' ∈ url ∧ url.head?.any Char.isAlpha ∧ (partitionAt ':' url).1.all isSchemeChar then
    ((partitionAt ':' url).1.map Char.toLower, (partitionAt ':' url).2)
  else ([], url)

/-- A character of a network location. -/
def isNetlocChar (c : Char) : Bool := c ∉ ['/', '?', '#']

/-- The network location, or nothing, and the text after it. -/
def splitNetloc : List Char → List Char × List Char
  | '/' :: '/' :: rest => (rest.takeWhile isNetlocChar, rest.dropWhile isNetlocChar)
  | url => ([], url)

/-- The name and the port of a location's host. -/
def hostInfo (netloc : List Char) : List Char × List Char :=
  let host := afterLast '@' netloc
  if '[' ∈ host then
    let bracketed := partitionAt ']' (partitionAt '[' host).2
    (bracketed.1, (partitionAt ':' bracketed.2).2)
  else partitionAt ':' host

/-- A hexadecimal digit. -/
def isHexDigit (c : Char) : Bool := (hexDigit? c).isSome

/-- `re.match(r"\Av[a-fA-F0-9]+\..+\Z", text)`, of a text that begins with its letter. -/
def isFutureAddress (text : List Char) : Bool :=
  (text.drop 1).head?.any isHexDigit &&
    match (text.drop 1).dropWhile isHexDigit with
    | '.' :: rest => !rest.isEmpty && '\n' ∉ rest
    | _ => false

variable (U : UrlLibrary)

/-- `_check_bracketed_host`. -/
def checkBracketedHost (host : List Char) : Except PyError Unit :=
  if host.head? = some 'v' then
    raiseIf (¬isFutureAddress host) (valueError "IPvFuture address is invalid")
  else do
    let ipv6 ← U.ipAddress host
    raiseIf (¬ipv6) (valueError "An IPv4 address cannot be in brackets")

/-- `_check_bracketed_netloc`. -/
def checkBracketedNetloc (netloc : List Char) : Except PyError Unit := do
  let host := afterLast '@' netloc
  if '[' ∈ host then
    let port := (partitionAt ']' (partitionAt '[' host).2).2
    raiseIf ((partitionAt '[' host).1 ≠ [] ∨ (port ≠ [] ∧ port.head? ≠ some ':'))
      (valueError "Invalid IPv6 URL")
  checkBracketedHost U (hostInfo netloc).1

/-- `_checknetloc`. -/
def checkNetloc (netloc : List Char) : Except PyError Unit :=
  let kept := netloc.filter fun c => c ∉ ['@', ':', '#', '?']
  raiseIf (¬netloc.all (fun c => c.toNat < 128) ∧ kept ≠ U.nfkc kept ∧
      (U.nfkc kept).any (fun c => c ∈ ['/', '?', '#', '@', ':']))
    (valueError ("netloc '" ++ String.ofList netloc ++
      "' contains invalid characters under NFKC normalization"))

/-- `SplitResult`. -/
structure SplitUrl where
  scheme : List Char
  netloc : List Char
  path : List Char
  query : List Char
  fragment : List Char

/-- `urlsplit`. -/
def urlsplit (url : List Char) : Except PyError SplitUrl := do
  let (scheme, rest) := splitScheme (cleanUrl url)
  let (netloc, rest) := splitNetloc rest
  raiseIf (('[' ∈ netloc ∧ ']' ∉ netloc) ∨ (']' ∈ netloc ∧ '[' ∉ netloc))
    (valueError "Invalid IPv6 URL")
  if '[' ∈ netloc ∧ ']' ∈ netloc then checkBracketedNetloc U netloc
  let (rest, fragment) := partitionAt '#' rest
  let (path, query) := partitionAt '?' rest
  checkNetloc U netloc
  return { scheme, netloc, path, query, fragment }

/-- What `urlsplit` returns, and the checks that it makes. -/
theorem urlsplit_eq_ok {url : List Char} {parsed : SplitUrl} : urlsplit U url = .ok parsed ↔
    let scheme := splitScheme (cleanUrl url)
    let netloc := splitNetloc scheme.2
    let fragment := partitionAt '#' netloc.2
    ('[' ∈ netloc.1 ↔ ']' ∈ netloc.1) ∧
      ('[' ∈ netloc.1 → checkBracketedNetloc U netloc.1 = .ok ()) ∧
      checkNetloc U netloc.1 = .ok () ∧
      SplitUrl.mk scheme.1 netloc.1 (partitionAt '?' fragment.1).1 (partitionAt '?' fragment.1).2
        fragment.2 = parsed := by
  unfold urlsplit
  simp only [except_bind_eq_ok, raiseIf_eq_ok, exists_const]
  have hunit (checked : Except PyError Unit) : (∃ u, checked = .ok u) ↔ checked = .ok () :=
    ⟨fun ⟨_, hchecked⟩ => hchecked, fun hchecked => ⟨(), hchecked⟩⟩
  generalize splitScheme (cleanUrl url) = scheme
  generalize splitNetloc scheme.2 = netloc
  by_cases hopen : '[' ∈ netloc.1
  · by_cases hclose : ']' ∈ netloc.1
    · simp [hopen, hclose, except_bind_eq_ok, hunit, pure, Except.pure]
    · simp [hopen, hclose]
  · by_cases hclose : ']' ∈ netloc.1
    · simp [hopen, hclose]
    · simp [hopen, hclose, except_bind_eq_ok, hunit, pure, Except.pure]

/-- Is `username` or `password` a text that is not empty? -/
def SplitUrl.hasUserInfo (url : SplitUrl) : Bool :=
  let userInfo := partitionAt ':' (beforeLast '@' url.netloc)
  '@' ∈ url.netloc && (userInfo.1 ≠ [] || userInfo.2 ≠ [])

/-- `hostname`. -/
def SplitUrl.hostname (P : Platform) (url : SplitUrl) : Option String :=
  let name := (hostInfo url.netloc).1
  if name = [] then none
  else
    some (P.lower (String.ofList (partitionAt '%' name).1) ++
      if '%' ∈ name then "%" ++ String.ofList (partitionAt '%' name).2 else "")

end splitting

section quoting

/-- A character that RFC 3986 leaves unreserved. -/
def isUnreserved (c : Char) : Bool := c.isAlphanum || c ∈ ['-', '.', '_', '~']

/-- The digit of a number below 16. -/
def upperHexDigit (n : ℕ) : Char := "0123456789ABCDEF".toList.getD n '0'

/-- The escape of a byte. -/
def percentByte (byte : UInt8) : List Char :=
  ['%', upperHexDigit (byte.toNat / 16), upperHexDigit (byte.toNat % 16)]

/-- A character as `quote` writes it. -/
def quoteChar (safe : List Char) (c : Char) : List Char :=
  if isUnreserved c || c ∈ safe then [c] else (String.utf8EncodeChar c).flatMap percentByte

/-- `quote(text, safe=safe)`. -/
def quote (safe text : List Char) : List Char := text.flatMap (quoteChar safe)

/-- `quote_plus(text)`. -/
def quotePlus (text : List Char) : List Char :=
  text.flatMap fun c => if c = ' ' then ['+'] else quoteChar [] c

end quoting

section references

/-- The parts of a reference before its query, by the expression in the appendix of RFC 3986. -/
structure UriParts where
  scheme : Option (List Char)
  authority : Option (List Char)
  path : List Char

/-- The parts of a reference. -/
def uriParts (text : List Char) : UriParts :=
  let beginning := text.takeWhile fun c => c ∉ [':', '/', '?', '#']
  let after := text.drop beginning.length
  let hasScheme := beginning ≠ [] ∧ after.head? = some ':'
  let rest := if hasScheme then after.drop 1 else text
  { scheme := if hasScheme then some beginning else none
    authority := if ['/', '/'].isPrefixOf rest then some (rest.drop 2 |>.takeWhile isNetlocChar)
      else none
    path := (if ['/', '/'].isPrefixOf rest then (rest.drop 2).dropWhile isNetlocChar
      else rest).takeWhile fun c => c ∉ ['?', '#'] }

/-- A text with the escapes of unreserved characters decoded. -/
def decodeUnreserved : List Char → List Char
  | '%' :: high :: low :: rest =>
    let c := Char.ofNat (16 * (hexDigit? high).getD 0 + (hexDigit? low).getD 0)
    if isHexDigit high && isHexDigit low && isUnreserved c then c :: decodeUnreserved rest
    else '%' :: decodeUnreserved (high :: low :: rest)
  | c :: rest => c :: decodeUnreserved rest
  | [] => []

/-- The segments of a path. -/
def pathSegments (path : List Char) : List (List Char) := path.splitOn '/'

/-- The names that segments lead to from a place, innermost first: a single dot stays and a double
dot leads out of the innermost name. -/
def resolveDots (place : List (List Char)) : List (List Char) → List (List Char)
  | [] => place
  | segment :: rest =>
    if segment = ['.'] then resolveDots place rest
    else if segment = ['.', '.'] then resolveDots place.tail rest
    else resolveDots (segment :: place) rest

/-- The names of a path after normalisation, outermost first and without a final slash. -/
def normalNames (path : List Char) : List (List Char) :=
  (resolveDots [] ((pathSegments path).tail.map decodeUnreserved)).reverse

end references

end ElCapitan
