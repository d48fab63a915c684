import ElCapitan.Base.Urls

/-!
# Collections of the Azure Resource Manager

`_arm_url`, `_validated_arm_url` and `_read_arm_collection`: a collection is read page by page
from the URL that the last page names. A page is read by any function of the URLs that were read
before, so that every behaviour of the remote side is one.
-/

namespace ElCapitan

/-- `AZURE_RESOURCE_MANAGER`. -/
def azureResourceManager : String := "https://management.azure.com"

/-- `_AZURE_MAX_LIST_PAGES`. -/
def azureMaxListPages : ℕ := 100

/-- `_arm_url`. -/
def armUrl (resourcePath apiVersion : String) : String :=
  azureResourceManager ++ String.ofList (quote ['/'] resourcePath.toList) ++ "?api-version=" ++
    String.ofList (quotePlus apiVersion.toList)

/-- `read_url`, after the URLs that were read before, of a URL for a purpose. -/
abbrev ReadUrl := List String → String → String → Except PyError Document

/-- A run of `_read_arm_collection`: the URLs that were read and what it returned or raised. -/
structure CollectionRun where
  reads : List String
  result : Except PyError (List Document)

/-- `isinstance(value, list) and all(isinstance(item, dict) for item in value)`, with the items. -/
def objectList? (value : Json) : Option (List Document) :=
  value.arr?.bind fun items => items.mapM Json.obj?

/-- How a page goes on: `nextLink` names another page, no page, or is invalid. -/
inductive NextLink where
  | done
  | more (url : String)
  | invalid

/-- `nextLink`. -/
def nextLink (document : Document) : NextLink :=
  match document.get "nextLink" with
  | .null => .done
  | .str url => if url = "" then .invalid else .more url
  | _ => .invalid

section reading

variable (P : Platform) (U : UrlLibrary)

/-- The condition that `_validated_arm_url` refuses. -/
def SplitUrl.unsafe? (parsed : SplitUrl) (scopePath : String) : Bool :=
  let path := P.lower (String.ofList parsed.path)
  let scope := P.lower scopePath
  parsed.scheme ≠ "https".toList || parsed.hostname P ≠ some "management.azure.com" ||
    parsed.hasUserInfo || parsed.fragment ≠ [] ||
    (path ≠ scope && !(scope ++ "/").toList.isPrefixOf path.toList)

/-- `_validated_arm_url`. -/
def validatedArmUrl (url scopePath : String) : Except PyError String := do
  let parsed ← urlsplit U url.toList
  raiseIf (parsed.unsafe? P scopePath)
    (valueError ("Azure returned an unsafe or out-of-scope pagination URL while reading " ++
      scopePath ++ ": " ++ U.repr url))
  return url

/-- The objects of a page and how it goes on. -/
def readPage (read : ReadUrl) (what : String) (seen : List String) (url : String) :
    Except PyError (List Document × NextLink) := do
  let pages := seen.length + 1
  let document ← read seen url (what ++ " page " ++ toString pages)
  match objectList? (document.get "value") with
  | none => .error (valueError ("could not read " ++ what ++ ": page " ++ toString pages ++
      " has no object-list 'value'"))
  | some value =>
    match nextLink document with
    | .invalid => .error (valueError ("could not read " ++ what ++ ": page " ++ toString pages ++
        " has invalid nextLink"))
    | next => return (value, next)

/-- The loop of `_read_arm_collection`, with the number of pages that may still be read. -/
def readPages (read : ReadUrl) (scopePath what : String) (remaining : ℕ) (seen : List String)
    (url : String) (items : List Document) : CollectionRun :=
  match validatedArmUrl P U url scopePath with
  | .error e => ⟨seen, .error e⟩
  | .ok url =>
    if url ∈ seen then
      ⟨seen, .error (valueError ("could not read " ++ what ++
        ": Azure repeated a pagination URL"))⟩
    else
      match remaining with
      | 0 => ⟨seen, .error (valueError ("could not read " ++ what ++ ": exceeded " ++
          toString azureMaxListPages ++ " ARM pages"))⟩
      | remaining + 1 =>
        match readPage read what seen url with
        | .error e => ⟨seen ++ [url], .error e⟩
        | .ok (value, .more next) =>
          readPages read scopePath what remaining (seen ++ [url]) next (items ++ value)
        | .ok (value, _) => ⟨seen ++ [url], .ok (items ++ value)⟩

/-- `_read_arm_collection`. -/
def readArmCollection (read : ReadUrl) (firstUrl scopePath what : String) : CollectionRun :=
  readPages P U read scopePath what azureMaxListPages [] firstUrl []

end reading

end ElCapitan
