import ElCapitan.Cloud.ArmScope
import ElCapitan.Services.Intake

/-!
# Requests to the web servers

The handlers of `review_web` and `shadow_web`, with the login that both take from `demo_web`. A
handler is a program: a control plane behind it may do anything, and what a handler does not catch
ends the request without a response.
-/

namespace ElCapitan

open Effects

section requests

/-- The parts of a request that the handlers read. -/
structure HttpRequest where
  /-- `self.path`. -/
  target : String
  cookie : Option String := none
  origin : Option String := none
  host : Option String := none
  contentType : Option String := none
  contentLength : Option String := none
  body : List UInt8 := []

/-- A response, by its status and what it carries. -/
inductive HttpResponse where
  /-- `_json`. -/
  | json (status : ℕ) (document : Json)
  /-- `_asset`. -/
  | asset (name : String)
  /-- `_login_page`, with the target of the form. -/
  | loginPage (status : ℕ) (next : String)
  /-- The redirection of `_login`, with the cookie that it sets. -/
  | seeOther (location cookie : String)
  /-- `send_error`. -/
  | errorPage (status : ℕ)

/-- What the handlers call. -/
structure WebHost where
  platform : Platform
  urls : UrlLibrary
  /-- `int(text)`; `none` stands for its `ValueError`. -/
  intOf : String → Option ℤ
  /-- `json.loads(payload)`; `none` stands for `UnicodeDecodeError` and `JSONDecodeError`. -/
  loads : List UInt8 → Option Json
  /-- `payload.decode("utf-8", errors="replace")`. -/
  decode : List UInt8 → String
  /-- `parse_qs(text)`, with the first value of each field. -/
  fields : String → List (String × String)

/-- `_DemoServer`, without its address and its control plane. -/
structure WebServer where
  accessToken : String

/-- `authenticated_cookie`. -/
def WebServer.authenticatedCookie (P : Platform) (server : WebServer) : String :=
  if server.accessToken = "" then ""
  else P.sha256Hex ("elcapitan-demo-session:" ++ server.accessToken)

variable (W : WebHost)

/-- The entry of a cookie, if it has a separator. -/
def cookieEntry (item : String) : Option (String × String) :=
  let text := (W.platform.strip item).toList
  if '=' ∈ text then
    some (String.ofList (partitionAt '=' text).1, String.ofList (partitionAt '=' text).2)
  else none

/-- The value of a cookie; of several the last one counts. -/
def cookieValue (header name : String) : String :=
  (((header.toList.splitOn ';').filterMap fun item =>
    cookieEntry W (String.ofList item)).reverse.lookup name).getD ""

/-- `hmac.compare_digest` of two texts. -/
def compareDigest (supplied expected : String) : Except PyError Bool :=
  if (supplied ++ expected).toList.all (fun c => c.toNat < 128) then .ok (supplied = expected)
  else .error ⟨.typeError, "comparing strings with non-ASCII characters is not supported"⟩

/-- `_authenticated`. -/
def authenticated (server : WebServer) (request : HttpRequest) : Except PyError Bool :=
  let expected := server.authenticatedCookie W.platform
  if expected = "" then .ok true
  else compareDigest (cookieValue W (request.cookie.getD "") "elcapitan_demo") expected

/-- `_same_origin`. -/
def sameOrigin (request : HttpRequest) : Bool :=
  let origin := request.origin.getD ""
  let host := request.host.getD ""
  origin = "" || origin ∈ ["https://" ++ host, "http://" ++ host]

/-- `uses_params`. -/
def usesParams : List String :=
  ["", "ftp", "hdl", "prospero", "http", "https", "shttp", "rtsp", "rtsps", "rtspu", "sip", "sips",
    "mms", "sftp", "tel"]

/-- The path before the parameters of its last segment, as `_splitparams` cuts it. -/
def splitParams (path : List Char) : List Char :=
  let last := afterLast '/' path
  path.take (path.length - last.length) ++ (partitionAt ';' last).1

/-- `urlparse`, without its parameters. -/
def urlparse (target : String) : Except PyError SplitUrl := do
  let parsed ← urlsplit W.urls target.toList
  return if String.ofList parsed.scheme ∈ usesParams ∧ ';' ∈ parsed.path then
    { parsed with path := splitParams parsed.path }
  else parsed

/-- `_safe_login_target`. -/
def safeLoginTarget (value : String) : Except PyError String :=
  if value = "" ∨ 512 < value.length ∨ '\r' ∈ value.toList ∨ '\n' ∈ value.toList then .ok "/"
  else do
    let parsed ← urlparse W value
    let path := String.ofList parsed.path
    return if parsed.scheme ≠ [] ∨ parsed.netloc ≠ [] ∨ parsed.fragment ≠ [] then "/"
    else if path ∉ ["/", "/index.html"] then "/"
    else path ++ if parsed.query = [] then "" else "?" ++ String.ofList parsed.query

/-- `_login_page`. -/
def loginPage (request : HttpRequest) (failed : Bool) (next : String) :
    Except PyError HttpResponse := do
  let target ← safeLoginTarget W (if next = "" then request.target else next)
  return .loginPage (if failed then 401 else 200) target

/-- The bytes of a body that `rfile.read(length)` gives. -/
def readBody (request : HttpRequest) (length : ℤ) : List UInt8 :=
  if length < 0 then request.body else request.body.take length.toNat

/-- The cookie that a login sets. -/
def sessionCookie (server : WebServer) : String :=
  "elcapitan_demo=" ++ server.authenticatedCookie W.platform ++
    "; Path=/; Max-Age=28800; HttpOnly; Secure; SameSite=Strict"

/-- The fields of a login form. -/
def loginFields (request : HttpRequest) : Except PyError (List (String × String)) :=
  match W.intOf (request.contentLength.getD "0") with
  | some length => .ok (W.fields (W.decode (readBody request (min length 4096))))
  | none => .error (valueError "invalid literal for int() with base 10")

/-- `_login`. -/
def login (server : WebServer) (request : HttpRequest) : Except PyError HttpResponse := do
  let fields ← loginFields W request
  let target ← safeLoginTarget W ((fields.lookup "next").getD "")
  let known ← compareDigest ((fields.lookup "token").getD "") server.accessToken
  if known = false then loginPage W request true target
  else return .seeOther target (sessionCookie W server)

end requests

section boundaries

/-- What a boundary says in its own words. -/
structure Boundary where
  controlError : String → PyError
  /-- `MAX_REQUEST_BYTES`. -/
  maximum : ℕ
  getFailure : String
  postFailure : String

variable (W : WebHost) (B : Boundary)

/-- A document with an error. -/
def errorDocument (message : String) : Json := .obj [("error", .str message)]

/-- `_read_review_json` and `_read_shadow_json`. -/
def readDocument (request : HttpRequest) : Except PyError Document := do
  let contentType := (partitionAt ';' (request.contentType.getD "").toList).1
  raiseIf (W.platform.strip (String.ofList contentType) ≠ "application/json")
    (B.controlError "Content-Type must be application/json.")
  match W.intOf (request.contentLength.getD "0") with
  | none => .error (B.controlError "Invalid request length.")
  | some length =>
    raiseIf (length ≤ 0 ∨ (B.maximum : ℤ) < length) (B.controlError
      ("Request body must be between 1 byte and " ++ toString B.maximum ++ " bytes."))
    match W.loads (readBody request length) with
    | none => .error (B.controlError "Request body must be valid JSON.")
    | some (.obj document) => .ok document
    | some _ => .error (B.controlError "Request body must be a JSON object.")

/-- The exceptions that `do_GET` words itself. -/
def Boundary.getCatches (e : PyError) : Bool :=
  e.kind = (B.controlError "").kind || e.kind.isKeyError

/-- The exceptions that `do_POST` words itself. -/
def Boundary.postCatches (e : PyError) : Bool :=
  e.kind = (B.controlError "").kind || e.kind.isValueError || e.kind.isKeyError ||
    e.kind = .typeError

/-- The response of a `try` block: what is caught is shown, and anything else is not. -/
def answering (catches : PyError → Bool) (failure : String) (act : Service HttpResponse) :
    Service HttpResponse :=
  Prog.handle act fun e =>
    .ret (if catches e then .json 409 (errorDocument e.message)
    else .json 500 (errorDocument failure))

/-- `/healthz`. -/
def healthAnswer (health : Service Json) : Service HttpResponse :=
  Prog.handle (do return .json 200 (← health)) fun _ =>
    .ret (.json 503 (.obj [("status", .str "unhealthy")]))

/-- What a stranger gets of a page. -/
def refuseGet (request : HttpRequest) (path : List Char) : Service HttpResponse :=
  if "/api".toList <+: path then .ret (.json 401 (errorDocument "Authentication required."))
  else .ofExcept (loginPage W request false "")

/-- `do_GET`. -/
def handleGet (server : WebServer) (health : Service Json)
    (route : String → List (String × String) → Service HttpResponse) (request : HttpRequest) :
    Service HttpResponse := do
  let parsed ← .ofExcept (urlparse W request.target)
  let path := String.ofList parsed.path
  if path = "/healthz" then healthAnswer health
  else if path = "/login" then .ofExcept (loginPage W request false "")
  else do
    let known ← .ofExcept (authenticated W server request)
    if known = false then refuseGet W request parsed.path
    else
      answering B.getCatches B.getFailure (route path (W.fields (String.ofList parsed.query)))

/-- `do_POST`. -/
def handlePost (server : WebServer) (route : String → Document → Service HttpResponse)
    (request : HttpRequest) : Service HttpResponse := do
  let parsed ← .ofExcept (urlparse W request.target)
  let path := String.ofList parsed.path
  if path = "/login" then .ofExcept (login W server request)
  else do
    let known ← .ofExcept (authenticated W server request)
    if known = false then return .json 401 (errorDocument "Authentication required.")
    else if sameOrigin request = false then
      return .json 403 (errorDocument "Cross-origin requests are not allowed.")
    else answering B.postCatches B.postFailure do
      let document ← .ofExcept (readDocument W B request)
      route path document

/-- `_tenant`. -/
def tenantOf (query : List (String × String)) : Except PyError String :=
  let tenant := W.platform.strip ((query.lookup "tenant").getD "")
  if tenant = "" then .error (B.controlError "tenant query parameter is required") else .ok tenant

/-- The one case id behind a path prefix. -/
def caseIdOf (above path : String) : Except PyError String :=
  let caseId := String.ofList (path.toList.drop above.toList.length)
  if caseId = "" ∨ '/' ∈ caseId.toList then
    .error (B.controlError "one case id is required")
  else .ok caseId

/-- The response with what a control plane answered. -/
def answerJson (answer : Service Json) : Service HttpResponse := do
  return .json 200 (← answer)

end boundaries

section review

/-- `ReviewControlPlane`, as its handler calls it. -/
structure ReviewPlane where
  health : Service Json
  queue : String → Service Json
  detail : String → String → Service Json
  approve : Document → Service Json
  reject : Document → Service Json

/-- The texts of the review boundary. -/
def reviewBoundary : Boundary where
  controlError message := ⟨.reviewControlError, message⟩
  maximum := 32 * 1024
  getFailure := "The review request failed. Check the operator console."
  postFailure := "The review decision failed. Check the operator console."

/-- What `GET /api` says of the review boundary. -/
def reviewIndex : Json :=
  .obj [("service", .str "elcapitan-human-decision-plane"),
    ("endpoints", .ofStrings ["GET /api/reviews?tenant=...",
      "GET /api/reviews/\x7bcase_id\x7d?tenant=...", "POST /api/decisions/approve",
      "POST /api/decisions/reject"]),
    ("prohibited", .ofStrings ["execution", "cloud mutation", "model dispatch"])]

variable (W : WebHost) (control : ReviewPlane)

/-- The routes of `ReviewRequestHandler.do_GET`. -/
def reviewGetRoute (path : String) (query : List (String × String)) : Service HttpResponse :=
  if path ∈ ["/", "/index.html"] then return .asset "index.html"
  else if path = "/review.css" then return .asset "review.css"
  else if path = "/review.js" then return .asset "review.js"
  else if path = "/api" then return .json 200 reviewIndex
  else if path = "/api/reviews" then do
    let tenant ← .ofExcept (tenantOf W reviewBoundary query)
    answerJson (control.queue tenant)
  else if "/api/reviews/".toList <+: path.toList then do
    let caseId ← .ofExcept (caseIdOf reviewBoundary "/api/reviews/" path)
    let tenant ← .ofExcept (tenantOf W reviewBoundary query)
    answerJson (control.detail tenant caseId)
  else return .errorPage 404

/-- The routes of `ReviewRequestHandler.do_POST`. -/
def reviewPostRoute (path : String) (document : Document) : Service HttpResponse :=
  if path = "/api/decisions/approve" then answerJson (control.approve document)
  else if path = "/api/decisions/reject" then answerJson (control.reject document)
  else return .errorPage 404

/-- `ReviewRequestHandler.do_GET`. -/
def reviewGet (server : WebServer) : HttpRequest → Service HttpResponse :=
  handleGet W reviewBoundary server control.health (reviewGetRoute W control)

/-- `ReviewRequestHandler.do_POST`. -/
def reviewPost (server : WebServer) : HttpRequest → Service HttpResponse :=
  handlePost W reviewBoundary server (reviewPostRoute control)

end review

section shadow

/-- `ShadowFleetControlPlane`, as its handler calls it. -/
structure ShadowPlane where
  health : Service Json
  snapshot : String → Service Json
  connectorStatus : Service Json
  caseDetail : String → String → Service Json
  promotionManifest : String → String → Service Json
  previewIntake : List Json → IntakeContext → Option (List Json) → Service Json
  intake : String → List Json → IntakeContext → String → Option (List Json) → Service Json
  validate : String → String → Service Json
  validateBatch : String → List Json → Service Json

/-- The texts of the shadow boundary. -/
def shadowBoundary : Boundary where
  controlError message := ⟨.shadowControlError, message⟩
  maximum := 10 * 1024 * 1024
  getFailure := "The shadow request failed. Check the operator console."
  postFailure := "The shadow request failed. Check the operator console."

/-- What `GET /api` says of the shadow boundary. -/
def shadowIndex : Json :=
  .obj [("service", .str "elcapitan-shadow-control-plane"), ("mode", .str "read-only"),
    ("endpoints", .ofStrings ["GET /api/fleet?tenant=...", "GET /api/connectors",
      "GET /api/cases/\x7bcase_id\x7d?tenant=...",
      "GET /api/promotions/\x7bcase_id\x7d?tenant=...", "POST /api/intake-preview",
      "POST /api/intake", "POST /api/validate", "POST /api/validate-batch"]),
    ("prohibited", .ofStrings ["approval", "scheduling", "execution"])]

/-- A `ShadowControlError`. -/
def shadowError (message : String) : PyError := ⟨.shadowControlError, message⟩

/-- `_number`. -/
def contextNumber (context : Document) (name : String) : Except PyError ℚ :=
  match ((context.lookup name).getD (.int 0)).number? with
  | none => .error (shadowError ("context." ++ name ++ " must be a number"))
  | some value =>
    if 0 ≤ value ∧ value ≤ 1 then .ok value
    else .error (shadowError ("context." ++ name ++ " must be between 0 and 1"))

/-- `_boolean`. -/
def contextBoolean (context : Document) (name : String) : Except PyError Bool :=
  match (context.lookup name).getD (.bool false) with
  | .bool value => .ok value
  | _ => .error (shadowError ("context." ++ name ++ " must be a boolean"))

/-- `_optional_boolean`. -/
def contextOptionalBoolean (context : Document) (name : String) : Except PyError (Option Bool) :=
  match (context.lookup name).getD .null with
  | .null => .ok none
  | .bool value => .ok (some value)
  | _ => .error (shadowError ("context." ++ name ++ " must be a boolean or null"))

variable (W : WebHost)

/-- `_service_ids`. -/
def contextServiceIds (context : Document) : Except PyError (List String) :=
  match (context.lookup "service_ids").getD (.arr []) with
  | .arr items =>
    let named := items.map fun item => W.platform.strip (W.platform.str item)
    if 100 < items.length then
      .error (shadowError "context.service_ids must be an array of at most 100 strings")
    else if ∃ item ∈ named, item = "" ∨ 200 < item.length then
      .error (shadowError "context.service_ids entries must be 1 to 200 characters")
    else .ok (fromKeys named)
  | _ => .error (shadowError "context.service_ids must be an array of at most 100 strings")

/-- `body.get("context") or {}`, which must be an object. -/
def contextDocument (body : Document) : Except PyError Document :=
  let supplied := body.get "context"
  match if supplied.truthy then supplied else .obj [] with
  | .obj context => .ok context
  | _ => .error (shadowError "context must be an object")

/-- `_context`. -/
def shadowContext (body : Document) : Except PyError IntakeContext := do
  let context ← contextDocument body
  let assetCriticality ← contextNumber context "asset_criticality"
  let exploitProbability ← contextNumber context "exploit_probability"
  let internetExposed ← contextOptionalBoolean context "internet_exposed"
  let reachable ← contextBoolean context "reachable"
  let knownExploited ← contextBoolean context "known_exploited"
  let activeExploitation ← contextBoolean context "active_exploitation"
  let runtimeDependency ← contextBoolean context "runtime_dependency"
  let compensatingControlStrength ← contextNumber context "compensating_control_strength"
  let serviceIds ← contextServiceIds W context
  return { assetCriticality, exploitProbability, internetExposed, reachable, knownExploited,
           activeExploitation, runtimeDependency, compensatingControlStrength, serviceIds }

/-- `_documents`. -/
def shadowDocuments (body : Document) : List Json :=
  match body.get "findings" with
  | .arr findings => findings
  | supplied => [supplied]

/-- `_asset_contexts`. -/
def shadowAssets (body : Document) : Except PyError (Option (List Json)) :=
  match body.get "assets" with
  | .null => .ok none
  | .arr assets => .ok (some assets)
  | _ => .error (shadowError "assets must be an array")

/-- `str(body.get(name, default))`. -/
def bodyText (body : Document) (name default : String) : String :=
  W.platform.str ((body.lookup name).getD (.str default))

variable (control : ShadowPlane)

/-- The routes of `ShadowRequestHandler.do_GET`. -/
def shadowGetRoute (path : String) (query : List (String × String)) : Service HttpResponse :=
  if path ∈ ["/", "/index.html"] then return .asset "index.html"
  else if path = "/fleet.css" then return .asset "fleet.css"
  else if path = "/fleet.js" then return .asset "fleet.js"
  else if path = "/api" then return .json 200 shadowIndex
  else if path = "/api/fleet" then do
    let tenant ← .ofExcept (tenantOf W shadowBoundary query)
    answerJson (control.snapshot tenant)
  else if path = "/api/connectors" then answerJson control.connectorStatus
  else if "/api/cases/".toList <+: path.toList then do
    let caseId ← .ofExcept (caseIdOf shadowBoundary "/api/cases/" path)
    let tenant ← .ofExcept (tenantOf W shadowBoundary query)
    answerJson (control.caseDetail tenant caseId)
  else if "/api/promotions/".toList <+: path.toList then do
    let caseId ← .ofExcept (caseIdOf shadowBoundary "/api/promotions/" path)
    let tenant ← .ofExcept (tenantOf W shadowBoundary query)
    answerJson (control.promotionManifest tenant caseId)
  else return .errorPage 404

/-- The routes of `ShadowRequestHandler.do_POST`. -/
def shadowPostRoute (path : String) (body : Document) : Service HttpResponse :=
  if path = "/api/intake-preview" then do
    let context ← .ofExcept (shadowContext W body)
    let assets ← .ofExcept (shadowAssets body)
    answerJson (control.previewIntake (shadowDocuments body) context assets)
  else if path = "/api/intake" then do
    let context ← .ofExcept (shadowContext W body)
    let assets ← .ofExcept (shadowAssets body)
    answerJson (control.intake (bodyText W body "tenant_id" "") (shadowDocuments body) context
      (bodyText W body "identity" "shadow-api-upload") assets)
  else if path = "/api/validate" then
    answerJson (control.validate (bodyText W body "tenant_id" "") (bodyText W body "case_id" ""))
  else if path = "/api/validate-batch" then
    match body.get "case_ids" with
    | .arr caseIds => answerJson (control.validateBatch (bodyText W body "tenant_id" "") caseIds)
    | _ => .raise (shadowError "case_ids must be an array")
  else return .errorPage 404

/-- `ShadowRequestHandler.do_GET`. -/
def shadowGet (server : WebServer) : HttpRequest → Service HttpResponse :=
  handleGet W shadowBoundary server control.health (shadowGetRoute W control)

/-- `ShadowRequestHandler.do_POST`. -/
def shadowPost (server : WebServer) : HttpRequest → Service HttpResponse :=
  handlePost W shadowBoundary server (shadowPostRoute W control)

end shadow

section serving

/-- The methods that are handled. -/
inductive Method where
  | get
  | post
  deriving DecidableEq

/-- A request with its method. -/
abbrev HttpCall := Method × HttpRequest

/-- A server answers requests one after the other; an exception ends its own request only. -/
def serve (handler : HttpCall → Service HttpResponse) :
    List HttpCall → Service (List (Except PyError HttpResponse))
  | [] => .ret []
  | call :: calls => do
    let answer ← Prog.handle (do return .ok (← handler call)) fun e => .ret (.error e)
    let answers ← serve handler calls
    return answer :: answers

/-- `ReviewRequestHandler`. -/
def reviewHandler (W : WebHost) (control : ReviewPlane) (server : WebServer) :
    HttpCall → Service HttpResponse
  | (.get, request) => reviewGet W control server request
  | (.post, request) => reviewPost W control server request

/-- `ShadowRequestHandler`. -/
def shadowHandler (W : WebHost) (control : ShadowPlane) (server : WebServer) :
    HttpCall → Service HttpResponse
  | (.get, request) => shadowGet W control server request
  | (.post, request) => shadowPost W control server request

end serving

section samples

/-- `text.strip()` of a text without blanks other than spaces. -/
def stripSpaces (text : List Char) : List Char :=
  ((text.dropWhile (· = ' ')).reverse.dropWhile (· = ' ')).reverse

/-- `int(text)` of a text of digits. -/
def intOfDigits (text : String) : Option ℤ :=
  if text ≠ "" ∧ text.toList.all Char.isDigit then
    some (text.toList.foldl (fun value c => 10 * value + (c.toNat - 48)) 0)
  else none

/-- `parse_qs(text)` of a text without escapes that names a field once. -/
def plainFields (text : String) : List (String × String) :=
  (text.toList.splitOn '&').filterMap fun field =>
    let parts := partitionAt '=' field
    if parts.2 = [] then none else some (String.ofList parts.1, String.ofList parts.2)

/-- A host for requests of plain ASCII characters to a server with one access token. -/
def sampleWebHost : WebHost where
  platform := { samplePlatform with
    strip text := String.ofList (stripSpaces text.toList)
    sha256Hex _ := "827a609a853a033d1b2920bbc249b3e07f85767413c37fa1b7dba97de3d68f8b" }
  urls := sampleUrlLibrary
  intOf := intOfDigits
  loads _ := none
  decode bytes := String.ofList (bytes.map fun byte => Char.ofNat byte.toNat)
  fields := plainFields

/-- A server with an access token. -/
def sampleServer : WebServer := ⟨"correct-horse-battery-staple"⟩

end samples

end ElCapitan
