import ElCapitan.Web.Access

/-!
# Sessions of a control plane

The targets of a login stay on the server, a session is only given for the access token, and the
cookie that a login sets is the one by which later requests are known.
-/

namespace ElCapitan

open Effects

section targets

/-- The target of a page and its query. -/
def pageTarget (page : String) (query : List Char) : String :=
  page ++ if query = [] then "" else "?" ++ String.ofList query

/-- A target on the server itself: one of its pages, with a query that ends neither itself nor the
header that it is written to. -/
inductive LocalTarget : String → Prop
  | intro {page : String} {query : List Char} (hpage : page ∈ ["/", "/index.html"])
      (hquery : ∀ c ∈ query, c ∉ ['\t', '\r', '\n', '#'])
      (hlength : (pageTarget page query).length ≤ 512) : LocalTarget (pageTarget page query)

/-- The root is a local target. -/
theorem localTarget_root : LocalTarget "/" :=
  @LocalTarget.intro "/" [] List.mem_cons_self (fun _ hc => (List.not_mem_nil hc).elim) (by decide)

/-- The parts of a text are together no longer than the text. -/
theorem partitionAt_length (c : Char) (text : List Char) :
    (partitionAt c text).1.length + (partitionAt c text).2.length ≤ text.length := by
  by_cases h : c ∈ text
  · have hsplit := congrArg List.length (partitionAt_mem h)
    rw [List.length_append, List.length_cons] at hsplit
    omega
  · rw [partitionAt_of_not_mem h]
    simp

/-- The separator is lost where a second part is found. -/
theorem partitionAt_length_of_query {c : Char} {text : List Char}
    (h : (partitionAt c text).2 ≠ []) :
    (partitionAt c text).1.length + 1 + (partitionAt c text).2.length = text.length := by
  by_cases hmem : c ∈ text
  · have hsplit := congrArg List.length (partitionAt_mem hmem)
    rw [List.length_append, List.length_cons] at hsplit
    omega
  · rw [partitionAt_of_not_mem hmem] at h
    exact absurd rfl h

/-- The parts of a text hold characters of the text. -/
theorem mem_partitionAt {c other : Char} {text : List Char}
    (h : other ∈ (partitionAt c text).1 ∨ other ∈ (partitionAt c text).2) : other ∈ text :=
  h.elim (fun h => (List.takeWhile_prefix _).subset h)
    fun h => (List.dropWhile_suffix _).subset ((List.drop_suffix _ _).subset h)

/-- The first part of a text does not hold the separator. -/
theorem not_mem_partitionAt {c : Char} {text : List Char} : c ∉ (partitionAt c text).1 := by
  intro h
  simpa using List.mem_takeWhile_imp h

/-- Cleaning does not make a URL longer. -/
theorem cleanUrl_length (url : List Char) : (cleanUrl url).length ≤ url.length :=
  (List.length_filter_le _ _).trans (List.dropWhile_suffix _).length_le

/-- A cleaned URL holds no tab and no line end. -/
theorem mem_cleanUrl {url : List Char} {c : Char} (h : c ∈ cleanUrl url) :
    c ∉ ['\t', '\r', '\n'] := by
  simpa using (List.mem_filter.mp h).2

/-- What follows the scheme is an end of the URL. -/
theorem splitScheme_suffix (url : List Char) : (splitScheme url).2 <:+ url := by
  unfold splitScheme
  split
  · exact (List.drop_suffix _ _).trans (List.dropWhile_suffix _)
  · exact List.suffix_refl url

/-- What follows the host is an end of the URL. -/
theorem splitNetloc_suffix (url : List Char) : (splitNetloc url).2 <:+ url := by
  unfold splitNetloc
  split
  · exact (List.dropWhile_suffix _).trans ((List.suffix_cons _ _).trans (List.suffix_cons _ _))
  · exact List.suffix_refl url

/-- A path is no longer without its parameters. -/
theorem splitParams_length (path : List Char) : (splitParams path).length ≤ path.length := by
  have hlast : (afterLast '/' path).length ≤ path.length := by
    unfold afterLast
    rw [List.length_reverse]
    exact (List.takeWhile_prefix _).length_le.trans (List.length_reverse).le
  have hcut := partitionAt_length ';' (afterLast '/' path)
  unfold splitParams
  rw [List.length_append, List.length_take]
  omega

variable {W : WebHost}

/-- What a target is parsed to has no more characters than the target. -/
theorem urlparse_parts {value : String} {parsed : SplitUrl} (h : urlparse W value = .ok parsed) :
    (∀ c ∈ parsed.query, c ∉ ['\t', '\r', '\n', '#']) ∧
      (parsed.path.length + if parsed.query = [] then 0 else parsed.query.length + 1) ≤
        value.length := by
  obtain ⟨split, hsplit, hparsed⟩ := except_bind_eq_ok.mp h
  obtain ⟨-, -, -, rfl⟩ := (urlsplit_eq_ok _).mp hsplit
  set rest := (splitNetloc (splitScheme (cleanUrl value.toList)).2).2
  have hsuffix : rest <:+ cleanUrl value.toList :=
    (splitNetloc_suffix _).trans (splitScheme_suffix _)
  have hrest : rest.length ≤ value.length := by
    rw [← String.length_toList]
    exact hsuffix.length_le.trans (cleanUrl_length _)
  have hbefore := partitionAt_length '#' rest
  have hquery (c : Char) (hc : c ∈ (partitionAt '?' (partitionAt '#' rest).1).2) :
      c ∉ ['\t', '\r', '\n', '#'] := by
    have hmem : c ∈ (partitionAt '#' rest).1 := mem_partitionAt (.inr hc)
    have hclean := mem_cleanUrl (hsuffix.subset (mem_partitionAt (.inl hmem)))
    have hhash : c ≠ '#' := by
      rintro rfl
      exact not_mem_partitionAt hmem
    simp only [List.mem_cons, List.not_mem_nil, or_false, not_or] at hclean ⊢
    exact ⟨hclean.1, hclean.2.1, hclean.2.2, hhash⟩
  have hlength : ((partitionAt '?' (partitionAt '#' rest).1).1.length +
      if (partitionAt '?' (partitionAt '#' rest).1).2 = [] then 0
      else (partitionAt '?' (partitionAt '#' rest).1).2.length + 1) ≤ value.length := by
    split
    · have hpath := partitionAt_length '?' (partitionAt '#' rest).1
      omega
    · rename_i hne
      have hpath := partitionAt_length_of_query hne
      omega
  dsimp only at hparsed
  split at hparsed
  · cases hparsed
    refine ⟨hquery, (Nat.add_le_add_right (splitParams_length _) _).trans hlength⟩
  · cases hparsed
    exact ⟨hquery, hlength⟩

/-- What a login takes for a safe target is one. -/
theorem safeLoginTarget_local {value target : String}
    (h : safeLoginTarget W value = .ok target) : LocalTarget target := by
  unfold safeLoginTarget at h
  split at h
  · cases h
    exact localTarget_root
  · rename_i hshort
    push Not at hshort
    obtain ⟨parsed, hparsed, h⟩ := except_bind_eq_ok.mp h
    obtain ⟨hquery, hlength⟩ := urlparse_parts hparsed
    dsimp only at h
    split at h
    · cases h
      exact localTarget_root
    · split at h
      · cases h
        exact localTarget_root
      · rename_i hpage
        cases h
        refine .intro (not_not.mp hpage) hquery ?_
        unfold pageTarget
        rw [String.length_append, String.length_ofList]
        split
        · rename_i hnone
          rw [if_pos hnone] at hlength
          exact hlength.trans hshort.2.1
        · rename_i hsome
          rw [if_neg hsome] at hlength
          rw [String.length_append, String.length_ofList, String.length_ofList,
            List.length_singleton]
          omega

/-- The characters of a page's target. -/
theorem pageTarget_toList (page : String) (query : List Char) :
    (pageTarget page query).toList = page.toList ++ if query = [] then [] else '?' :: query := by
  unfold pageTarget
  rw [String.toList_append]
  split
  · rfl
  · rw [String.toList_append, String.toList_ofList, String.toList_ofList]
    rfl

/-- A path whose second segment is not empty has no network location in front. -/
theorem splitNetloc_of_head {rest : List Char} (h : rest.head? ≠ some '/') :
    splitNetloc ('/' :: rest) = ([], '/' :: rest) := by
  unfold splitNetloc
  split
  · rename_i more hmore
    rw [(List.cons.inj hmore).2] at h
    exact absurd rfl h
  · rfl

/-- The target of a page is split into the page and its query. -/
theorem urlsplit_page {page : String} {query : List Char} (hpage : page ∈ ["/", "/index.html"])
    (hquery : ∀ c ∈ query, c ∉ ['\t', '\r', '\n', '#']) :
    urlsplit W.urls (pageTarget page query).toList =
      .ok ⟨[], [], page.toList, query, []⟩ := by
  set text := (pageTarget page query).toList with htext
  rw [pageTarget_toList] at htext
  have hplain : ∀ c ∈ page.toList, c ∉ ['\t', '\r', '\n', '#', '?'] := by
    simp only [List.mem_cons, List.not_mem_nil, or_false] at hpage
    obtain rfl | rfl := hpage <;> decide
  obtain ⟨path, hslash, hsecond⟩ : ∃ path, page.toList = '/' :: path ∧ path.head? ≠ some '/' := by
    simp only [List.mem_cons, List.not_mem_nil, or_false] at hpage
    obtain rfl | rfl := hpage
    · exact ⟨[], rfl, by decide⟩
    · exact ⟨"index.html".toList, rfl, by decide⟩
  have hmem : ∀ c ∈ text, c ∉ ['\t', '\r', '\n', '#'] := by
    intro c hc
    rw [htext, List.mem_append] at hc
    obtain hc | hc := hc
    · have hc := hplain c hc
      simp only [List.mem_cons, List.not_mem_nil, or_false, not_or] at hc ⊢
      exact ⟨hc.1, hc.2.1, hc.2.2.1, hc.2.2.2.1⟩
    · split at hc
      · exact (List.not_mem_nil hc).elim
      · obtain rfl | hc := List.mem_cons.mp hc
        · decide
        · exact hquery c hc
  have hclean : cleanUrl text = text := by
    unfold cleanUrl
    rw [htext, hslash, List.cons_append, List.dropWhile_cons_of_neg (by decide),
      ← List.cons_append, ← hslash, ← htext, List.filter_eq_self]
    intro c hc
    have hc := hmem c hc
    simp only [List.mem_cons, List.not_mem_nil, or_false, not_or] at hc
    simpa using ⟨hc.1, hc.2.1, hc.2.2.1⟩
  have hscheme : splitScheme text = ([], text) := by
    unfold splitScheme
    rw [htext, hslash, if_neg]
    rintro ⟨-, hhead, -⟩
    exact absurd (show Char.isAlpha '/' = true from hhead) (by decide)
  have hnetloc : splitNetloc text = ([], text) := by
    rw [htext, hslash, List.cons_append]
    refine splitNetloc_of_head ?_
    cases path with
    | nil => split <;> simp
    | cons c path => exact hsecond
  have hfragment : partitionAt '#' text = (text, []) :=
    partitionAt_of_not_mem fun h => hmem '#' h (by decide)
  have hpath : partitionAt '?' text = (page.toList, query) := by
    have hnone : '?' ∉ page.toList := fun h => hplain '?' h (by decide)
    rw [htext]
    split
    · rename_i hempty
      rw [List.append_nil, partitionAt_of_not_mem hnone, hempty]
    · exact partitionAt_append query hnone
  rw [urlsplit_eq_ok, hclean]
  dsimp only
  rw [hscheme]
  dsimp only
  rw [hnetloc]
  dsimp only
  rw [hfragment]
  dsimp only
  rw [hpath]
  refine ⟨by simp, fun h => (List.not_mem_nil h).elim, ?_, rfl⟩
  exact raiseIf_eq_ok.mpr fun h => h.1 rfl

/-- A target on the server is safe, and is taken as it is. -/
theorem safeLoginTarget_of_local {target : String} (h : LocalTarget target) :
    safeLoginTarget W target = .ok target := by
  obtain ⟨hpage, hquery, hlength⟩ := h
  rename_i page query
  have hparsed : urlparse W (pageTarget page query) = .ok ⟨[], [], page.toList, query, []⟩ := by
    unfold urlparse
    rw [urlsplit_page hpage hquery]
    have hplain : ';' ∉ page.toList := by
      simp only [List.mem_cons, List.not_mem_nil, or_false] at hpage
      obtain rfl | rfl := hpage <;> decide
    simp [bind, Except.bind, pure, Except.pure, hplain]
  have hmem (c : Char) (hc : c ∈ ['\t', '\r', '\n', '#']) : c ∉ (pageTarget page query).toList := by
    rw [pageTarget_toList, List.mem_append]
    rintro (hpath | hparameters)
    · simp only [List.mem_cons, List.not_mem_nil, or_false] at hpage hc
      obtain rfl | rfl := hpage <;> obtain rfl | rfl | rfl | rfl := hc <;>
        exact absurd hpath (by decide)
    · split at hparameters
      · exact List.not_mem_nil hparameters
      · obtain rfl | hparameters := List.mem_cons.mp hparameters
        · exact absurd hc (by decide)
        · exact hquery c hparameters hc
  have hnonempty : pageTarget page query ≠ "" := by
    intro hnone
    have hlist := congrArg String.toList hnone
    rw [pageTarget_toList] at hlist
    simp only [List.mem_cons, List.not_mem_nil, or_false] at hpage
    obtain rfl | rfl := hpage <;> exact absurd hlist (by simp)
  unfold safeLoginTarget
  rw [if_neg, hparsed]
  · simp only [bind, Except.bind, pure, Except.pure, String.ofList_toList, ne_eq, not_true_eq_false,
      or_self, if_false, not_not.mpr hpage]
    rfl
  · rintro (hnone | hlong | hreturn | hline)
    · exact hnonempty hnone
    · omega
    · exact hmem '\r' (by decide) hreturn
    · exact hmem '\n' (by decide) hline

end targets

section sessions

variable (W : WebHost) (server : WebServer)

/-- What an answer to a request may lead to: a form and a redirection stay on the server, and the
cookie of a session goes to whoever posts the access token to the login. -/
structure Guarded (call : HttpCall) (response : HttpResponse) : Prop where
  form : ∀ status next, response = .loginPage status next → LocalTarget next
  session : ∀ location cookie, response = .seeOther location cookie →
    LocalTarget location ∧ cookie = sessionCookie W server ∧ call.1 = .post ∧
      (urlparse W call.2.target).map SplitUrl.path = .ok "/login".toList ∧
      ∃ fields, loginFields W call.2 = .ok fields ∧
        (fields.lookup "token").getD "" = server.accessToken

/-- An answer that is neither a form nor a redirection. -/
def HttpResponse.IsPlain : HttpResponse → Prop
  | .json .. | .asset _ | .errorPage _ => True
  | .loginPage .. | .seeOther .. => False

variable {W : WebHost} {server : WebServer} {B : Boundary} {call : HttpCall}
  {request : HttpRequest}

/-- A plain response is guarded: it is no form and no redirection. -/
theorem HttpResponse.IsPlain.guarded {response : HttpResponse} (h : response.IsPlain) :
    Guarded W server call response where
  form status next hform := by
    rw [hform] at h
    exact h.elim
  session location cookie hsession := by
    rw [hsession] at h
    exact h.elim

/-- A form of a login leads back to the server. -/
theorem guarded_loginPage {failed : Bool} {next : String} {response : HttpResponse}
    (h : loginPage W request failed next = .ok response) : Guarded W server call response := by
  obtain ⟨target, htarget, h⟩ := except_bind_eq_ok.mp h
  cases h
  exact {
    form := by
      rintro status next ⟨⟩
      exact safeLoginTarget_local htarget
    session := by
      rintro location cookie ⟨⟩ }

/-- Texts that compare as equal digests are equal. -/
theorem compareDigest_eq_true {supplied expected : String}
    (h : compareDigest supplied expected = .ok true) : supplied = expected := by
  unfold compareDigest at h
  split at h
  · simpa using h
  · cases h

/-- A login gives a session for the access token only. -/
theorem guarded_login {response : HttpResponse} {parsed : SplitUrl}
    (hparsed : urlparse W request.target = .ok parsed)
    (hpath : String.ofList parsed.path = "/login")
    (h : login W server request = .ok response) : Guarded W server (.post, request) response := by
  obtain ⟨fields, hfields, h⟩ := except_bind_eq_ok.mp h
  obtain ⟨target, htarget, h⟩ := except_bind_eq_ok.mp h
  obtain ⟨known, hknown, h⟩ := except_bind_eq_ok.mp h
  split at h
  · exact guarded_loginPage h
  · rename_i htrue
    rw [Bool.not_eq_false] at htrue
    rw [htrue] at hknown
    cases h
    exact {
      form := by
        rintro status next ⟨⟩
      session := by
        rintro location cookie ⟨⟩
        refine ⟨safeLoginTarget_local htarget, rfl, rfl, ?_, fields, hfields,
          compareDigest_eq_true hknown⟩
        rw [hparsed, ← hpath, String.toList_ofList]
        rfl }

/-- An answer in JSON is plain. -/
theorem returns_answerJson {answer : Service Json} :
    (answerJson answer).Returns HttpResponse.IsPlain :=
  Prog.returns_bind fun _ => trivial

/-- A route that answers its errors in JSON is guarded where its answers are plain. -/
theorem returns_answering {catches : PyError → Bool} {failure : String}
    {act : Service HttpResponse} (hact : act.Returns HttpResponse.IsPlain) :
    (answering catches failure act).Returns (Guarded W server call) :=
  Prog.Returns.mono (hact.handle fun e => by
    unfold Prog.Returns
    split <;> trivial) fun _ h => h.guarded

/-- What a `GET` request is answered. -/
theorem returns_handleGet {health : Service Json}
    {route : String → List (String × String) → Service HttpResponse}
    (hroute : ∀ path query, (route path query).Returns HttpResponse.IsPlain) :
    (handleGet W B server health route request).Returns (Guarded W server (.get, request)) := by
  refine Prog.returns_bind_ofExcept fun parsed _ => ?_
  dsimp only
  split
  · exact Prog.Returns.mono (Prog.Returns.handle returns_answerJson fun _ => trivial)
      fun _ h => h.guarded
  · split
    · exact Prog.returns_ofExcept fun _ h => guarded_loginPage h
    · refine Prog.returns_bind_ofExcept fun known _ => ?_
      split
      · unfold refuseGet
        split
        · exact HttpResponse.IsPlain.guarded trivial
        · exact Prog.returns_ofExcept fun _ h => guarded_loginPage h
      · exact returns_answering (hroute _ _)

/-- What a `POST` request is answered. -/
theorem returns_handlePost {route : String → Document → Service HttpResponse}
    (hroute : ∀ path document, (route path document).Returns HttpResponse.IsPlain) :
    (handlePost W B server route request).Returns (Guarded W server (.post, request)) := by
  refine Prog.returns_bind_ofExcept fun parsed hparsed => ?_
  dsimp only
  split
  · rename_i hpath
    exact Prog.returns_ofExcept fun _ h => guarded_login hparsed hpath h
  · refine Prog.returns_bind_ofExcept fun known _ => ?_
    split
    · exact HttpResponse.IsPlain.guarded trivial
    · split
      · exact HttpResponse.IsPlain.guarded trivial
      · exact returns_answering (Prog.returns_bind_ofExcept fun _ _ => hroute _ _)

/-- A server answers every request, and each in its turn. -/
theorem returns_serve {Q : HttpCall → HttpResponse → Prop}
    {handler : HttpCall → Service HttpResponse} (h : ∀ call, (handler call).Returns (Q call))
    (calls : List HttpCall) : (serve handler calls).Returns fun answers =>
      List.Forall₂ (fun call answer => ∀ response, answer = .ok response → Q call response)
        calls answers := by
  induction calls with
  | nil => exact .nil
  | cons call calls ih =>
    have hanswer : (Prog.handle (do return .ok (← handler call)) fun e =>
        .ret (.error e) : Service (Except PyError HttpResponse)).Returns fun answer =>
          ∀ response, answer = .ok response → Q call response := by
      refine Prog.Returns.handle (Prog.Returns.bind (h call) fun response hresponse => ?_) ?_
      · rintro other ⟨⟩
        exact hresponse
      · rintro e other ⟨⟩
    exact Prog.Returns.bind hanswer fun answer hanswer =>
      Prog.Returns.bind ih fun answers hanswers => .cons hanswer hanswers

/-- Every answer to a read of the review plane is plain. -/
theorem returns_reviewGetRoute {control : ReviewPlane} {path : String}
    {query : List (String × String)} :
    (reviewGetRoute W control path query).Returns HttpResponse.IsPlain := by
  unfold reviewGetRoute
  split_ifs
  · trivial
  · trivial
  · trivial
  · trivial
  · exact Prog.returns_bind_ofExcept fun _ _ => returns_answerJson
  · refine Prog.returns_bind_ofExcept fun _ _ => ?_
    exact Prog.returns_bind_ofExcept fun _ _ => returns_answerJson
  · trivial

/-- Every answer to a decision in the review plane is plain. -/
theorem returns_reviewPostRoute {control : ReviewPlane} {path : String} {document : Document} :
    (reviewPostRoute control path document).Returns HttpResponse.IsPlain := by
  unfold reviewPostRoute
  split_ifs
  · exact returns_answerJson
  · exact returns_answerJson
  · trivial

/-- Every answer to a read of the shadow plane is plain. -/
theorem returns_shadowGetRoute {control : ShadowPlane} {path : String}
    {query : List (String × String)} :
    (shadowGetRoute W control path query).Returns HttpResponse.IsPlain := by
  unfold shadowGetRoute
  split_ifs
  · trivial
  · trivial
  · trivial
  · trivial
  · exact Prog.returns_bind_ofExcept fun _ _ => returns_answerJson
  · exact returns_answerJson
  · refine Prog.returns_bind_ofExcept fun _ _ => ?_
    exact Prog.returns_bind_ofExcept fun _ _ => returns_answerJson
  · refine Prog.returns_bind_ofExcept fun _ _ => ?_
    exact Prog.returns_bind_ofExcept fun _ _ => returns_answerJson
  · trivial

/-- Every answer to a write in the shadow plane is plain. -/
theorem returns_shadowPostRoute {control : ShadowPlane} {path : String} {document : Document} :
    (shadowPostRoute W control path document).Returns HttpResponse.IsPlain := by
  unfold shadowPostRoute
  split_ifs
  · refine Prog.returns_bind_ofExcept fun _ _ => ?_
    exact Prog.returns_bind_ofExcept fun _ _ => returns_answerJson
  · refine Prog.returns_bind_ofExcept fun _ _ => ?_
    exact Prog.returns_bind_ofExcept fun _ _ => returns_answerJson
  · exact returns_answerJson
  · split
    · exact returns_answerJson
    · trivial
  · trivial

/-- In every run over any requests, a session is only given to a request that posts the access
token to the login, and no form or redirection leads away from the server. A target that was safe
once stays as it is. -/
theorem serve_guarded (W : WebHost) (server : WebServer) (review : ReviewPlane)
    (shadow : ShadowPlane) (calls : List HttpCall) :
    ((serve (reviewHandler W review server) calls).Returns fun answers =>
      List.Forall₂ (fun call answer => ∀ response, answer = .ok response →
        Guarded W server call response) calls answers) ∧
    ((serve (shadowHandler W shadow server) calls).Returns fun answers =>
      List.Forall₂ (fun call answer => ∀ response, answer = .ok response →
        Guarded W server call response) calls answers) ∧
    ∀ target, LocalTarget target ↔ safeLoginTarget W target = .ok target := by
  refine ⟨returns_serve ?_ calls, returns_serve ?_ calls, fun target =>
    ⟨safeLoginTarget_of_local, safeLoginTarget_local⟩⟩
  · rintro ⟨method, request⟩
    cases method with
    | get => exact returns_handleGet fun _ _ => returns_reviewGetRoute
    | post => exact returns_handlePost fun _ _ => returns_reviewPostRoute
  · rintro ⟨method, request⟩
    cases method with
    | get => exact returns_handleGet fun _ _ => returns_shadowGetRoute
    | post => exact returns_handlePost fun _ _ => returns_shadowPostRoute

end sessions

section cookies

/-- A cookie as a client keeps it. -/
abbrev KeptCookie := List Char × List Char

/-- A character of a cookie. -/
def isCookieChar (c : Char) : Bool := 33 ≤ c.toNat && c.toNat < 127 && c ≠ ';'

/-- A cookie whose name and value can be sent. -/
structure KeptCookie.Sendable (cookie : KeptCookie) : Prop where
  name : ∀ c ∈ cookie.1, isCookieChar c ∧ c ≠ '='
  value : ∀ c ∈ cookie.2, isCookieChar c

/-- The text of a cookie in a header. -/
def KeptCookie.text (cookie : KeptCookie) : List Char := cookie.1 ++ '=' :: cookie.2

/-- The header in which a client sends its cookies. -/
def cookieHeader (jar : List KeptCookie) : String :=
  String.ofList ([';', ' '].intercalate (jar.map KeptCookie.text))

/-- What a client keeps of a cookie that it is told to set. -/
def keptCookie (setCookie : String) : KeptCookie :=
  partitionAt '=' (partitionAt ';' setCookie.toList).1

/-- The separators of a header are taken for one, with a blank in front of each later cookie. -/
theorem intercalate_blank (first : List Char) (rest : List (List Char)) :
    [';', ' '].intercalate (first :: rest) =
      [';'].intercalate (first :: rest.map (' ' :: ·)) := by
  induction rest generalizing first with
  | nil => rfl
  | cons second rest ih =>
    rw [List.map_cons, List.intercalate_cons_cons, List.intercalate_cons_cons, ih second]
    cases rest <;> simp [List.intercalate]

variable {W : WebHost} {server : WebServer} {cookie : KeptCookie} {jar : List KeptCookie}

/-- A cookie that can be sent is made of cookie characters. -/
theorem KeptCookie.Sendable.text_chars (h : cookie.Sendable) :
    ∀ c ∈ cookie.text, isCookieChar c = true := by
  intro c hc
  obtain hc | hc := List.mem_append.mp hc
  · exact (h.name c hc).1
  · obtain rfl | hc := List.mem_cons.mp hc
    · decide
    · exact h.value c hc

/-- An entry of a header is the cookie that a client sent. -/
theorem cookieEntry_text {item : String} (h : cookie.Sendable)
    (hitem : W.platform.strip item = String.ofList cookie.text) :
    cookieEntry W item = some (String.ofList cookie.1, String.ofList cookie.2) := by
  have hname : '=' ∉ cookie.1 := fun hmem => (h.name '=' hmem).2 rfl
  have hsplit : partitionAt '=' cookie.text = cookie := partitionAt_append cookie.2 hname
  unfold cookieEntry
  rw [hitem, String.toList_ofList]
  dsimp only
  rw [hsplit]
  exact if_pos (List.mem_append_right _ List.mem_cons_self)

/-- The entries of a header are the cookies that a client sent. -/
theorem entries_cookieHeader
    (hstrip : ∀ text : List Char, (∀ c ∈ text, isCookieChar c = true) →
      W.platform.strip (String.ofList text) = String.ofList text ∧
        W.platform.strip (String.ofList (' ' :: text)) = String.ofList text)
    (h : ∀ cookie ∈ jar, cookie.Sendable) (hjar : jar ≠ []) :
    (((cookieHeader jar).toList.splitOn ';').filterMap fun item =>
        cookieEntry W (String.ofList item)) =
      jar.map fun cookie => (String.ofList cookie.1, String.ofList cookie.2) := by
  cases jar with
  | nil => exact absurd rfl hjar
  | cons first rest =>
    have hplain (text : List Char) (htext : ∀ c ∈ text, isCookieChar c = true) : ';' ∉ text :=
      fun hmem => absurd (htext ';' hmem) (by decide)
    rw [List.forall_mem_cons] at h
    have hfirst : cookieEntry W (String.ofList first.text) =
        some (String.ofList first.1, String.ofList first.2) :=
      cookieEntry_text h.1 (hstrip _ h.1.text_chars).1
    have hrest (cookie : KeptCookie) (hcookie : cookie ∈ rest) :
        cookieEntry W (String.ofList (' ' :: cookie.text)) =
          some (String.ofList cookie.1, String.ofList cookie.2) :=
      cookieEntry_text (h.2 cookie hcookie) (hstrip _ (h.2 cookie hcookie).text_chars).2
    unfold cookieHeader
    rw [String.toList_ofList, List.map_cons, intercalate_blank, List.splitOn_intercalate,
      List.filterMap_cons, hfirst, List.map_map, List.filterMap_map]
    · change _ :: _ = _ :: _
      congr 1
      rw [← List.filterMap_eq_map]
      exact List.filterMap_congr hrest
    · rw [List.forall_mem_cons]
      refine ⟨hplain _ h.1.text_chars, ?_⟩
      rw [List.forall_mem_map]
      intro text htext
      obtain ⟨cookie, hcookie, rfl⟩ := List.mem_map.mp htext
      rw [List.mem_cons, not_or]
      exact ⟨by decide, hplain _ (h.2 cookie hcookie).text_chars⟩
    · exact List.cons_ne_nil _ _

/-- A login's cookie is the name and the value by which a request is known. -/
theorem keptCookie_session (hhex : ∀ c ∈ (server.authenticatedCookie W.platform).toList,
    isHexDigit c = true) : keptCookie (sessionCookie W server) =
      ("elcapitan_demo".toList, (server.authenticatedCookie W.platform).toList) := by
  have hplain : ';' ∉ "elcapitan_demo=".toList ++
      (server.authenticatedCookie W.platform).toList := by
    rw [List.mem_append]
    rintro (hname | hvalue)
    · exact absurd hname (by decide)
    · exact absurd (hhex ';' hvalue) (by decide)
  have htext : (sessionCookie W server).toList =
      ("elcapitan_demo=".toList ++ (server.authenticatedCookie W.platform).toList) ++
        ';' :: " Path=/; Max-Age=28800; HttpOnly; Secure; SameSite=Strict".toList := by
    unfold sessionCookie
    rw [String.toList_append, String.toList_append]
    rfl
  unfold keptCookie
  rw [htext, partitionAt_append _ hplain]
  exact @partitionAt_append '=' "elcapitan_demo".toList _ (by decide)

/-- A hexadecimal digit may stand in a cookie. -/
theorem isCookieChar_of_hex {c : Char} (h : isHexDigit c = true) : isCookieChar c = true := by
  have hbetween {low high : Char} (hc : low ≤ c ∧ c ≤ high) :
      low.toNat ≤ c.toNat ∧ c.toNat ≤ high.toNat := hc
  have hrange : 33 ≤ c.toNat ∧ c.toNat < 127 ∧ c.toNat ≠ 59 := by
    unfold isHexDigit hexDigit? at h
    split_ifs at h with hdigit hlower hupper
    · have hdigit : 48 ≤ c.toNat ∧ c.toNat ≤ 57 := hbetween hdigit
      omega
    · have hlower : 97 ≤ c.toNat ∧ c.toNat ≤ 102 := hbetween hlower
      omega
    · have hupper : 65 ≤ c.toNat ∧ c.toNat ≤ 70 := hbetween hupper
      omega
    · cases h
  have hne : c ≠ ';' := by
    rintro rfl
    exact hrange.2.2 rfl
  simp [isCookieChar, hrange.1, hrange.2.1, hne]

/-- The session's cookie can be sent, since its value is a hexadecimal digest. -/
theorem sendable_session (hhex : ∀ c ∈ (server.authenticatedCookie W.platform).toList,
    isHexDigit c = true) : (keptCookie (sessionCookie W server)).Sendable := by
  rw [keptCookie_session hhex]
  have hname : ∀ c ∈ "elcapitan_demo".toList, isCookieChar c = true ∧ c ≠ '=' := by decide
  exact ⟨hname, fun c hc => isCookieChar_of_hex (hhex c hc)⟩

/-- Of a name's cookies the last one of a header counts. -/
theorem lookup_last {before after : List KeptCookie} {name value : List Char}
    (hlast : ∀ other ∈ after, other.1 ≠ name) :
    (((before ++ (name, value) :: after).map fun cookie =>
        (String.ofList cookie.1, String.ofList cookie.2)).reverse.lookup (String.ofList name)) =
      some (String.ofList value) := by
  have hnone : ((after.map fun cookie =>
      (String.ofList cookie.1, String.ofList cookie.2)).reverse.lookup (String.ofList name)) =
        none := by
    rw [List.lookup_eq_none_iff]
    intro entry hentry
    obtain ⟨other, hother, rfl⟩ := List.mem_map.mp (List.mem_reverse.mp hentry)
    have hne : String.ofList name ≠ String.ofList other.1 := fun hequal =>
      hlast other hother (String.ofList_inj.mp hequal).symm
    simpa using hne
  rw [List.map_append, List.map_cons, List.reverse_append, List.reverse_cons, List.append_assoc,
    List.lookup_append, hnone, List.singleton_append, List.lookup_cons_self]
  rfl

/-- The cookie of a login, sent back among any others, makes later requests known: `strip` removes
the blank in front of a cookie and a hash is written in hexadecimal digits. -/
theorem session_known (W : WebHost) (server : WebServer) (form request : HttpRequest)
    (location setCookie : String) (before after : List KeptCookie)
    (hstrip : ∀ text : List Char, (∀ c ∈ text, isCookieChar c = true) →
      W.platform.strip (String.ofList text) = String.ofList text ∧
        W.platform.strip (String.ofList (' ' :: text)) = String.ofList text)
    (hhex : ∀ text, ∀ c ∈ (W.platform.sha256Hex text).toList, isHexDigit c = true)
    (hlogin : login W server form = .ok (.seeOther location setCookie))
    (hothers : ∀ other ∈ before ++ after, KeptCookie.Sendable other)
    (hlast : ∀ other ∈ after, other.1 ≠ "elcapitan_demo".toList)
    (hcookie : request.cookie = some (cookieHeader (before ++ keptCookie setCookie :: after))) :
    authenticated W server request = .ok true := by
  have hset : setCookie = sessionCookie W server := by
    obtain ⟨fields, -, hlogin⟩ := except_bind_eq_ok.mp hlogin
    obtain ⟨target, -, hlogin⟩ := except_bind_eq_ok.mp hlogin
    obtain ⟨known, -, hlogin⟩ := except_bind_eq_ok.mp hlogin
    split at hlogin
    · obtain ⟨next, -, hform⟩ := except_bind_eq_ok.mp hlogin
      cases hform
    · cases hlogin
      rfl
  have hvalue : ∀ c ∈ (server.authenticatedCookie W.platform).toList, isHexDigit c = true := by
    unfold WebServer.authenticatedCookie
    split
    · exact fun c hc => (List.not_mem_nil hc).elim
    · exact hhex _
  have hsend : ∀ cookie ∈ before ++ keptCookie (sessionCookie W server) :: after,
      cookie.Sendable := by
    intro cookie hmem
    rw [List.mem_append, List.mem_cons] at hmem
    obtain hmem | rfl | hmem := hmem
    · exact hothers cookie (List.mem_append_left _ hmem)
    · exact sendable_session hvalue
    · exact hothers cookie (List.mem_append_right _ hmem)
  unfold authenticated
  dsimp only
  split
  · rfl
  · have hfound : cookieValue W (request.cookie.getD "") "elcapitan_demo" =
        server.authenticatedCookie W.platform := by
      have hlookup := @lookup_last before after _
        (server.authenticatedCookie W.platform).toList hlast
      rw [String.ofList_toList, String.ofList_toList] at hlookup
      unfold cookieValue
      rw [hcookie, hset, Option.getD_some, entries_cookieHeader hstrip hsend (by simp),
        keptCookie_session hvalue, hlookup]
      rfl
    rw [hfound]
    unfold compareDigest
    rw [if_pos, decide_eq_true rfl]
    rw [List.all_eq_true]
    intro c hc
    rw [String.toList_append, List.mem_append, or_self] at hc
    have hascii := isCookieChar_of_hex (hvalue c hc)
    simp only [isCookieChar, Bool.and_eq_true, decide_eq_true_eq] at hascii
    exact decide_eq_true (hascii.1.2.trans (by decide))

/-- A login by the access token. -/
def tokenForm : HttpRequest where
  target := "/login"
  contentLength := some "55"
  body := "token=correct-horse-battery-staple&next=/index.html?v=1".toList.map fun c =>
    UInt8.ofNat c.toNat

/-- A later request, with one other cookie. -/
def returningRequest : HttpRequest where
  target := "/api"
  cookie := some (cookieHeader [("theme".toList, "dark".toList),
    keptCookie (sessionCookie sampleWebHost sampleServer)])

/-- Spaces around a text without spaces are stripped. -/
theorem stripSpaces_of_plain {text : List Char} (h : ' ' ∉ text) :
    stripSpaces text = text ∧ stripSpaces (' ' :: text) = text := by
  have hplain : ∀ c ∈ text, ¬decide (c = ' ') = true := by
    intro c hc hspace
    exact h (of_decide_eq_true hspace ▸ hc)
  have hdrop (plain : List Char) (hnone : ∀ c ∈ plain, ¬decide (c = ' ') = true) :
      plain.dropWhile (· = ' ') = plain := by
    cases plain with
    | nil => rfl
    | cons c rest => exact List.dropWhile_cons_of_neg (hnone c List.mem_cons_self)
  have hback : (text.reverse.dropWhile (· = ' ')).reverse = text := by
    rw [hdrop _ fun c hc => hplain c (List.mem_reverse.mp hc), List.reverse_reverse]
  unfold stripSpaces
  rw [List.dropWhile_cons_of_pos (by decide), hdrop _ hplain]
  exact ⟨hback, hback⟩

/-- Who has logged in is known. -/
theorem returningRequest_known :
    authenticated sampleWebHost sampleServer returningRequest = .ok true := by
  refine session_known sampleWebHost sampleServer tokenForm returningRequest "/index.html?v=1"
    (sessionCookie sampleWebHost sampleServer) [("theme".toList, "dark".toList)] []
    (fun text htext => ?_) (fun text => ?_) ?_ ?_ ?_ ?_
  · have hnone : ' ' ∉ text := fun hspace => absurd (htext ' ' hspace) (by decide)
    have hstrip := stripSpaces_of_plain hnone
    refine ⟨congrArg String.ofList ?_, congrArg String.ofList ?_⟩
    · rw [String.toList_ofList]
      exact hstrip.1
    · rw [String.toList_ofList]
      exact hstrip.2
  · have hdigits : ∀ c ∈
        "827a609a853a033d1b2920bbc249b3e07f85767413c37fa1b7dba97de3d68f8b".toList,
        isHexDigit c = true := by decide
    exact hdigits
  · rfl
  · rintro other hother
    rw [List.append_nil, List.mem_singleton] at hother
    rw [hother]
    have hname : ∀ c ∈ "theme".toList, isCookieChar c = true ∧ c ≠ '=' := by decide
    have hvalue : ∀ c ∈ "dark".toList, isCookieChar c = true := by decide
    exact ⟨hname, hvalue⟩
  · exact fun other hother => (List.not_mem_nil hother).elim
  · rfl

end cookies

end ElCapitan
