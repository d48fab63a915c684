import ElCapitan.Base.Patterns
import ElCapitan.Cloud.ArmPages

/-!
# The scope of a collection

A URL is in the scope of a collection when, normalised by RFC 3986, it is an HTTPS URL of the
Azure Resource Manager below the path of the collection. The check of pagination links compares
texts that are not normalised.
-/

namespace ElCapitan

section library

variable (P : Platform)

/-- What `str.lower` does to ASCII: only letters change, and the Kelvin sign is the only other
character whose lower case is an ASCII character. -/
structure Platform.LowersAscii : Prop where
  ascii : ∀ text : String, (∀ c ∈ text.toList, c.toNat < 128) →
    (P.lower text).toList = text.toList.map Char.toLower
  letters : ∀ text : String, (∀ c ∈ (P.lower text).toList, c.toNat < 128) →
    'k' ∉ (P.lower text).toList → (P.lower text).toList = text.toList.map Char.toLower
  others : ∀ (text : String) (c : Char), c.toNat < 128 → c.isAlpha = false →
    (P.lower text).toList.count c = text.toList.count c

end library

section scope

/-- The segments never lead out of the place where they begin. -/
def staysBelow (depth : ℕ) : List (List Char) → Bool
  | [] => true
  | segment :: rest =>
    if segment = ['.'] then staysBelow depth rest
    else if segment = ['.', '.'] then depth ≠ 0 && staysBelow (depth - 1) rest
    else staysBelow (depth + 1) rest

/-- Segments that never lead out of a place lead to a place below it. -/
theorem resolveDots_below {place inner : List (List Char)} {segments : List (List Char)}
    (h : staysBelow inner.length segments = true) :
    ∃ names, resolveDots (inner ++ place) segments = names ++ place := by
  induction segments generalizing inner with
  | nil => exact ⟨inner, rfl⟩
  | cons segment rest ih =>
    unfold staysBelow at h
    unfold resolveDots
    by_cases hdot : segment = ['.']
    · rw [if_pos hdot] at h ⊢
      exact ih h
    · rw [if_neg hdot] at h ⊢
      by_cases hdots : segment = ['.', '.']
      · rw [if_pos hdots] at h ⊢
        simp only [ne_eq, decide_not, Bool.and_eq_true, Bool.not_eq_true',
          decide_eq_false_iff_not] at h
        cases inner with
        | nil => exact absurd rfl h.1
        | cons name inner => exact ih h.2
      · rw [if_neg hdots] at h ⊢
        exact @ih (segment :: inner) h

/-- Dot segments are resolved from the left. -/
theorem resolveDots_append (place : List (List Char)) (segments more : List (List Char)) :
    resolveDots place (segments ++ more) = resolveDots (resolveDots place segments) more := by
  induction segments generalizing place with
  | nil => rfl
  | cons segment rest ih =>
    rw [List.cons_append, resolveDots, resolveDots]
    split
    · exact ih place
    · split
      · exact ih place.tail
      · exact ih (segment :: place)

/-- A slash separates the segments of a path. -/
theorem pathSegments_append (path more : List Char) :
    pathSegments (path ++ '/' :: more) = pathSegments path ++ pathSegments more :=
  List.splitOn_append_cons_of_beq path more rfl

/-- Every path has a segment. -/
theorem pathSegments_ne_nil (path : List Char) : pathSegments path ≠ [] :=
  List.splitOnP_ne_nil _ path

/-- A path whose last segments never lead out of what comes before is below it. -/
theorem normalNames_below {scope more : List Char}
    (h : staysBelow 0 ((pathSegments more).map decodeUnreserved) = true) :
    normalNames scope <+: normalNames (scope ++ '/' :: more) := by
  unfold normalNames
  rw [pathSegments_append, List.tail_append_of_ne_nil (pathSegments_ne_nil scope), List.map_append,
    resolveDots_append]
  obtain ⟨names, hnames⟩ := @resolveDots_below
    (resolveDots [] ((pathSegments scope).tail.map decodeUnreserved)) [] _ h
  rw [List.nil_append] at hnames
  rw [hnames, List.reverse_append]
  exact List.prefix_append _ _

variable (P : Platform)

/-- The authority of the Azure Resource Manager, without user information and on the default
port. -/
def isArmAuthority (authority : List Char) : Bool :=
  '@' ∉ authority &&
    (decodeUnreserved (partitionAt ':' authority).1).map Char.toLower =
      "management.azure.com".toList &&
    authority.dropWhile (· ≠ ':') ∈ [[], [':'], ":443".toList]

/-- A URL, normalised by RFC 3986, is an HTTPS URL of the Azure Resource Manager whose path is the
scope's or lies below it. These paths ignore the case of letters. -/
def InArmScope (scopePath url : String) : Prop :=
  (uriParts url.toList).scheme.map (List.map Char.toLower) = some "https".toList ∧
    (uriParts url.toList).authority.any isArmAuthority = true ∧
    normalNames (P.lower scopePath).toList <+:
      normalNames (P.lower (String.ofList (uriParts url.toList).path)).toList

/-- A link that the check takes for what it is: `urlsplit` removes nothing from it, its authority
has no user information and the default port, and the dot segments after the scope's path, decoded,
never lead out of the scope. -/
def PlainLink (scopePath url : String) : Prop :=
  cleanUrl url.toList = url.toList ∧
    ((uriParts url.toList).authority.all fun authority =>
      '@' ∉ authority && authority.dropWhile (· ≠ ':') ∈ [[], [':'], ":443".toList]) = true ∧
    staysBelow 0 ((pathSegments ((P.lower (String.ofList (uriParts url.toList).path)).toList.drop
      (P.lower scopePath).length)).tail.map decodeUnreserved) = true

end scope

section checking

variable {P : Platform} {U : UrlLibrary}

/-- A scheme that `urlsplit` finds is the one of RFC 3986. -/
theorem splitScheme_parts {url : List Char} (h : (splitScheme url).1 ≠ []) :
    ∃ scheme, url = scheme ++ ':' :: (splitScheme url).2 ∧
      (splitScheme url).1 = scheme.map Char.toLower ∧ scheme ≠ [] ∧
      ∀ c ∈ scheme, isSchemeChar c = true := by
  unfold splitScheme at h ⊢
  split at h
  · rename_i hscheme
    rw [if_pos hscheme]
    obtain ⟨hcolon, _, hall⟩ := hscheme
    refine ⟨(partitionAt ':' url).1, partitionAt_mem hcolon, rfl, ?_, List.all_eq_true.mp hall⟩
    intro hempty
    exact h (by rw [hempty]; rfl)
  · exact absurd rfl h

/-- A character of a scheme separates no part of a URL. -/
theorem isSchemeChar_ne {c : Char} (h : isSchemeChar c = true) :
    c ∉ [':', '/', '?', '#'] := by
  intro hc
  have hnone : ∀ c ∈ [':', '/', '?', '#'], isSchemeChar c = false := by decide
  rw [hnone c hc] at h
  cases h

/-- The parts of a text that begins with a scheme. -/
theorem uriParts_scheme {scheme rest : List Char} (hne : scheme ≠ [])
    (h : ∀ c ∈ scheme, isSchemeChar c = true) :
    uriParts (scheme ++ ':' :: rest) =
      { scheme := some scheme
        authority := if ['/', '/'].isPrefixOf rest then some (rest.drop 2 |>.takeWhile isNetlocChar)
          else none
        path := (if ['/', '/'].isPrefixOf rest then (rest.drop 2).dropWhile isNetlocChar
          else rest).takeWhile fun c => c ∉ ['?', '#'] } := by
  have hall : ∀ c ∈ scheme, decide (c ∉ [':', '/', '?', '#']) = true :=
    fun c hc => decide_eq_true (isSchemeChar_ne (h c hc))
  have hbeginning : (scheme ++ ':' :: rest).takeWhile (fun c => c ∉ [':', '/', '?', '#']) =
      scheme := by
    rw [List.takeWhile_append_of_pos hall]
    simp
  unfold uriParts
  simp only [hbeginning, List.drop_left, List.head?_cons, List.drop_succ_cons, List.drop_zero,
    ne_eq, hne, not_false_eq_true, and_self, if_true]

/-- The parts that `urlsplit` finds in a text from which it removes nothing are those of RFC
3986. -/
theorem urlsplit_parts {url : List Char} {parsed : SplitUrl} (hclean : cleanUrl url = url)
    (h : urlsplit U url = .ok parsed) (hscheme : parsed.scheme ≠ [])
    (hnetloc : parsed.netloc ≠ []) :
    ∃ scheme, uriParts url = ⟨some scheme, some parsed.netloc, parsed.path⟩ ∧
      parsed.scheme = scheme.map Char.toLower := by
  obtain ⟨_, _, _, rfl⟩ := (urlsplit_eq_ok U).mp h
  rw [hclean] at hscheme hnetloc ⊢
  obtain ⟨scheme, hurl, hlower, hne, hchars⟩ := splitScheme_parts hscheme
  refine ⟨scheme, ?_, hlower⟩
  generalize (splitScheme url).2 = rest at hurl hnetloc ⊢
  have hpath (text : List Char) : (partitionAt '?' (partitionAt '#' text).1).1 =
      text.takeWhile fun c => c ∉ ['?', '#'] := by
    change (text.takeWhile (· ≠ '#')).takeWhile (· ≠ '?') = _
    rw [List.takeWhile_takeWhile]
    congr 1
    funext c
    simp [not_or]
  rw [hurl, uriParts_scheme hne hchars, hpath]
  unfold splitNetloc at hnetloc ⊢
  split at hnetloc
  · rfl
  · exact absurd rfl hnetloc

/-- A name whose lower case is the host's is the host's up to the case of ASCII letters. -/
theorem hostName_lower (hlower : P.LowersAscii) {name : List Char}
    (h : P.lower (String.ofList name) = "management.azure.com") :
    name.map Char.toLower = "management.azure.com".toList := by
  have hletters := hlower.letters (String.ofList name) (by rw [h]; decide) (by rw [h]; decide)
  rw [h] at hletters
  rw [← String.toList_ofList (l := name)]
  exact hletters.symm

/-- The name of a host in brackets is an address. -/
theorem checkBracketedHost_ok {host : List Char} (h : checkBracketedHost U host = .ok ()) :
    host.head? = some 'v' ∨ ':' ∈ host := by
  unfold checkBracketedHost at h
  split at h
  · exact Or.inl ‹_›
  · simp only [except_bind_eq_ok, raiseIf_eq_ok, not_not] at h
    obtain ⟨ipv6, hipv6, htrue⟩ := h
    subst htrue
    exact Or.inr (U.ipv6_colon hipv6)

/-- A host without a zone is lower-cased. -/
theorem hostname_of_name {parsed : SplitUrl} (hne : (hostInfo parsed.netloc).1 ≠ [])
    (hpercent : '%' ∉ (hostInfo parsed.netloc).1) :
    parsed.hostname P = some (P.lower (String.ofList (hostInfo parsed.netloc).1)) := by
  unfold SplitUrl.hostname
  dsimp only
  rw [if_neg hne, if_neg hpercent, partitionAt_of_not_mem hpercent, String.append_empty]

/-- The host that the check accepts is the one of the authority, when it has no user
information. -/
theorem hostname_parts (hlower : P.LowersAscii) {parsed : SplitUrl} {url : List Char}
    (h : urlsplit U url = .ok parsed)
    (hhost : parsed.hostname P = some "management.azure.com") (huser : '@' ∉ parsed.netloc) :
    parsed.netloc ≠ [] ∧ (partitionAt ':' parsed.netloc).1.map Char.toLower =
      "management.azure.com".toList ∧ '%' ∉ (partitionAt ':' parsed.netloc).1 := by
  obtain ⟨_, hbracketed, _, rfl⟩ := (urlsplit_eq_ok U).mp h
  dsimp only at hhost huser ⊢
  generalize (splitNetloc (splitScheme (cleanUrl url)).2).1 = netloc at hbracketed hhost huser ⊢
  unfold SplitUrl.hostname at hhost
  dsimp only at hhost
  have hne : (hostInfo netloc).1 ≠ [] := by
    intro hempty
    rw [if_pos hempty] at hhost
    cases hhost
  rw [if_neg hne] at hhost
  have hname := Option.some.inj hhost
  have hpercent : '%' ∉ (hostInfo netloc).1 := by
    intro hpercent
    rw [if_pos hpercent] at hname
    have hmem : '%' ∈ "management.azure.com".toList := by
      rw [← hname]
      simp
    exact absurd hmem (by decide)
  rw [if_neg hpercent, partitionAt_of_not_mem hpercent, String.append_empty] at hname
  have hlowered := hostName_lower hlower hname
  have hplain : '[' ∉ netloc := by
    intro hopen
    have hchecked := hbracketed hopen
    unfold checkBracketedNetloc at hchecked
    have haddress : checkBracketedHost U (hostInfo netloc).1 = .ok () := by
      dsimp only at hchecked
      split at hchecked
      · obtain ⟨_, _, haddress⟩ := except_bind_eq_ok.mp hchecked
        exact haddress
      · exact hchecked
    rcases checkBracketedHost_ok haddress with hfuture | hcolon
    · cases hinfo : (hostInfo netloc).1 with
      | nil => exact hne hinfo
      | cons c rest =>
        rw [hinfo] at hfuture hlowered
        obtain rfl := Option.some.inj hfuture
        exact absurd (List.cons.inj hlowered).1 (by decide)
    · have hmem := List.mem_map_of_mem (f := Char.toLower) hcolon
      rw [hlowered] at hmem
      exact absurd hmem (by decide)
  have hinfo : hostInfo netloc = partitionAt ':' netloc := by
    unfold hostInfo
    rw [afterLast_of_not_mem huser]
    exact if_neg hplain
  rw [hinfo] at hlowered hpercent
  refine ⟨?_, hlowered, hpercent⟩
  rintro rfl
  exact hne rfl

/-- A text without percent signs is decoded already. -/
theorem decodeUnreserved_of_not_mem {text : List Char} (h : '%' ∉ text) :
    decodeUnreserved text = text := by
  induction text with
  | nil => rfl
  | cons c rest ih =>
    have hc : c ≠ '%' := fun hequal => h (hequal ▸ List.mem_cons_self)
    have hrest := ih fun hmem => h (List.mem_cons_of_mem _ hmem)
    rw [decodeUnreserved]
    · rw [hrest]
    · intro high low more hequal _
      exact hc hequal

/-- A location without a host is not accepted. -/
theorem netloc_ne_nil {parsed : SplitUrl} {host : String} (h : parsed.hostname P = some host) :
    parsed.netloc ≠ [] := by
  intro hempty
  have hname : (hostInfo parsed.netloc).1 = [] := by
    rw [hempty]
    rfl
  unfold SplitUrl.hostname at h
  dsimp only at h
  rw [if_pos hname] at h
  cases h

/-- What the check accepts. -/
theorem validatedArmUrl_eq_ok {url scopePath : String} :
    validatedArmUrl P U url scopePath = .ok url ↔ ∃ parsed,
      urlsplit U url.toList = .ok parsed ∧ parsed.scheme = "https".toList ∧
        parsed.hostname P = some "management.azure.com" ∧ parsed.hasUserInfo = false ∧
        parsed.fragment = [] ∧
        (P.lower (String.ofList parsed.path) = P.lower scopePath ∨
          (P.lower scopePath ++ "/").toList <+: (P.lower (String.ofList parsed.path)).toList) := by
  unfold validatedArmUrl SplitUrl.unsafe?
  simp only [except_bind_eq_ok, raiseIf_eq_ok, exists_const, pure, Except.pure, and_true]
  refine exists_congr fun parsed => and_congr_right fun _ => ?_
  simp only [ne_eq, decide_not, Bool.or_eq_true, Bool.not_eq_true', decide_eq_false_iff_not,
    Bool.and_eq_true, not_or, not_not, not_and, Bool.not_eq_false, Bool.not_eq_true,
    List.isPrefixOf_iff_prefix, and_assoc]
  by_cases hequal : P.lower (String.ofList parsed.path) = P.lower scopePath
  · simp [hequal]
  · simp [hequal]

/-- A plain link that the check accepts is in the scope. -/
theorem inArmScope_of_validated (hlower : P.LowersAscii) {url scopePath : String}
    (h : validatedArmUrl P U url scopePath = .ok url) (hplain : PlainLink P scopePath url) :
    InArmScope P scopePath url := by
  obtain ⟨parsed, hparsed, hscheme, hhost, _, _, hpath⟩ := validatedArmUrl_eq_ok.mp h
  obtain ⟨hclean, hauthority, hdots⟩ := hplain
  have hsome : parsed.scheme ≠ [] := by
    rw [hscheme]
    decide
  obtain ⟨scheme, hparts, hschemeLower⟩ :=
    urlsplit_parts hclean hparsed hsome (netloc_ne_nil hhost)
  rw [hparts] at hauthority hdots
  simp only [Option.all_some, Bool.and_eq_true, decide_eq_true_eq] at hauthority
  obtain ⟨huser, hport⟩ := hauthority
  obtain ⟨_, hname, hpercent⟩ := hostname_parts hlower hparsed hhost huser
  unfold InArmScope
  rw [hparts]
  refine ⟨?_, ?_, ?_⟩
  · rw [Option.map_some, ← hschemeLower, hscheme]
  · simp only [Option.any_some, isArmAuthority, Bool.and_eq_true, decide_eq_true_eq]
    refine ⟨⟨huser, ?_⟩, hport⟩
    rw [decodeUnreserved_of_not_mem hpercent, hname]
  · rcases hpath with hequal | ⟨more, hmore⟩
    · exact hequal ▸ List.prefix_rfl
    · rw [String.toList_append] at hmore
      dsimp only at hdots ⊢
      rw [← hmore] at hdots ⊢
      have hslash : (P.lower scopePath).toList ++ "/".toList ++ more =
          (P.lower scopePath).toList ++ '/' :: more := by
        simp
      rw [hslash] at hdots ⊢
      refine normalNames_below ?_
      rw [← String.length_toList, List.drop_left] at hdots
      have hsegments : (pathSegments ('/' :: more)).tail = pathSegments more := by
        have := pathSegments_append [] more
        rw [List.nil_append] at this
        rw [this]
        rfl
      rwa [hsegments] at hdots

end checking

/-- Where every link of the run that the check accepts, the first URL and those that the pages
read name, is a plain link, every URL that is read for a collection is in its scope. -/
theorem readArmCollection_scoped (P : Platform) (U : UrlLibrary) (hlower : P.LowersAscii)
    (read : ReadUrl) (firstUrl scopePath what : String)
    (hlinks : ∀ url, url = firstUrl ∨
      PageNames read what (readArmCollection P U read firstUrl scopePath what).reads url →
      validatedArmUrl P U url scopePath = .ok url → PlainLink P scopePath url) :
    ∀ url ∈ (readArmCollection P U read firstUrl scopePath what).reads,
      InArmScope P scopePath url := by
  obtain ⟨urls, hreads, _, _, hchecked, hnamed, _⟩ :=
    @readPages_goes P U read scopePath what azureMaxListPages [] firstUrl []
  unfold readArmCollection at hlinks ⊢
  rw [hreads, List.nil_append] at hlinks ⊢
  intro url hurl
  have haccepted := hchecked url hurl
  exact inArmScope_of_validated hlower haccepted (hlinks url (hnamed url hurl) haccepted)

section samples

/-- The sample's platform lowers ASCII letters. -/
theorem samplePlatform_lowersAscii : samplePlatform.LowersAscii := by
  constructor
  · intro text _
    exact String.toList_ofList
  · intro text _ _
    exact String.toList_ofList
  · intro text c _ hc
    have hlower : (samplePlatform.lower text).toList = text.toList.map Char.toLower :=
      String.toList_ofList
    rw [hlower, List.count_eq_countP, List.countP_map, List.count_eq_countP]
    congr 1
    funext d
    simp [toLower_eq_iff hc]

/-- A library for URLs of ASCII characters without brackets. -/
def sampleUrlLibrary : UrlLibrary where
  nfkc text := text
  ipAddress _ := .error (valueError "does not appear to be an IPv4 or IPv6 address")
  ipv6_colon h := by cases h
  repr text := text

/-- A collection of a page that names a URL and of pages that name none. -/
def twoPages (next : String) : ReadUrl
  | [], _, _ => .ok [("value", .arr []), ("nextLink", .str next)]
  | _ :: _, _, _ => .ok [("value", .arr [])]

/-- The one link of the two pages is the next page. -/
theorem twoPages_names {next what url : String} {reads : List String}
    (h : PageNames (twoPages next) what reads url) : url = next := by
  obtain ⟨seen, page, after, document, -, hread, hnext⟩ := h
  cases seen with
  | nil =>
    obtain rfl := Except.ok.inj hread
    exact (Json.str.inj hnext).symm
  | cons first seen =>
    obtain rfl := Except.ok.inj hread
    cases hnext

/-- A second page below the scope is read. -/
theorem secondPage_scoped :
    List.Forall (InArmScope samplePlatform "/subscriptions/s")
      (readArmCollection samplePlatform sampleUrlLibrary
        (twoPages "https://management.azure.com/subscriptions/s/pages/2?token=x")
        "https://management.azure.com/subscriptions/s?page=1" "/subscriptions/s" "all").reads := by
  refine List.forall_iff_forall_mem.mpr (readArmCollection_scoped samplePlatform sampleUrlLibrary
    samplePlatform_lowersAscii _ _ _ _ fun url hurl _ => ?_)
  rcases hurl with rfl | hurl
  · unfold PlainLink
    decide +kernel
  · rw [twoPages_names hurl]
    unfold PlainLink
    decide +kernel

/-- A page may lead out of the scope by dot segments, and is read. -/
theorem dotSegments_escape :
    ∃ url ∈ (readArmCollection samplePlatform sampleUrlLibrary
        (twoPages "https://management.azure.com/subscriptions/s/../t/secrets")
        "https://management.azure.com/subscriptions/s?page=1" "/subscriptions/s" "all").reads,
      ¬InArmScope samplePlatform "/subscriptions/s" url := by
  refine ⟨"https://management.azure.com/subscriptions/s/../t/secrets", by decide +kernel, ?_⟩
  unfold InArmScope
  decide +kernel

end samples

end ElCapitan
