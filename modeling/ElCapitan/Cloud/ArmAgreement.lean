import ElCapitan.Cloud.ArmScope

/-!
# The builder and the check of URLs

`_arm_url` quotes a path that `_validated_arm_url` compares as it is. The two agree on paths of
characters that are not quoted.
-/

namespace ElCapitan

/-- A character of the name of an Azure resource or resource group. -/
def isAzureNameChar (c : Char) : Bool :=
  c.isAlphanum || c ∈ ['.', '-', '_', ' ', '(', ')'] || 128 ≤ c.toNat

/-- The path of a resource, from its names. -/
def resourcePathOf (names : List String) : String :=
  String.ofList (names.flatMap fun name => '/' :: name.toList)

section quoting

/-- A hexadecimal digit is unreserved. -/
theorem isUnreserved_upperHexDigit {n : ℕ} (h : n < 16) :
    isUnreserved (upperHexDigit n) = true := by
  have hall : ∀ n < 16, isUnreserved (upperHexDigit n) = true := by decide
  exact hall n h

/-- The characters of an escape. -/
theorem mem_percentByte {byte : UInt8} {c : Char} (h : c ∈ percentByte byte) :
    c = '%' ∨ isUnreserved c = true := by
  have hbyte : byte.toNat < 256 := byte.toNat_lt
  unfold percentByte at h
  rcases List.mem_cons.mp h with rfl | h
  · exact Or.inl rfl
  · rcases List.mem_cons.mp h with rfl | h
    · exact Or.inr (isUnreserved_upperHexDigit (by omega))
    · rw [List.mem_singleton.mp h]
      exact Or.inr (isUnreserved_upperHexDigit (by omega))

/-- The characters of a character as it is quoted. -/
theorem mem_quoteChar {safe : List Char} {c d : Char} (h : d ∈ quoteChar safe c) :
    d = '%' ∨ isUnreserved d = true ∨ (d = c ∧ c ∈ safe) := by
  unfold quoteChar at h
  split at h
  · rename_i hkept
    obtain rfl := List.mem_singleton.mp h
    simp only [Bool.or_eq_true, decide_eq_true_eq] at hkept
    rcases hkept with hkept | hkept
    · exact Or.inr (Or.inl hkept)
    · exact Or.inr (Or.inr ⟨rfl, hkept⟩)
  · obtain ⟨byte, _, hd⟩ := List.mem_flatMap.mp h
    rcases mem_percentByte hd with hd | hd
    · exact Or.inl hd
    · exact Or.inr (Or.inl hd)

/-- A character that is not kept is escaped. -/
theorem percent_mem_quoteChar {safe : List Char} {c : Char} (h : isUnreserved c = false)
    (hsafe : c ∉ safe) : '%' ∈ quoteChar safe c := by
  unfold quoteChar
  rw [if_neg (by simp [h, hsafe])]
  have hlength : 0 < (String.utf8EncodeChar c).length := by
    rw [String.length_utf8EncodeChar]
    exact c.utf8Size_pos
  obtain ⟨byte, hbyte⟩ := List.exists_mem_of_length_pos hlength
  exact List.mem_flatMap.mpr ⟨byte, hbyte, List.mem_cons_self⟩

/-- A text of kept characters is not changed. -/
theorem quote_eq_self {safe text : List Char}
    (h : ∀ c ∈ text, isUnreserved c = true ∨ c ∈ safe) : quote safe text = text := by
  induction text with
  | nil => rfl
  | cons c text ih =>
    have hc : quoteChar safe c = [c] := by
      unfold quoteChar
      exact if_pos (by simpa using h c List.mem_cons_self)
    have hrest := ih fun other hother => h other (List.mem_cons_of_mem _ hother)
    unfold quote at hrest ⊢
    rw [List.flatMap_cons, hc, hrest]
    rfl

/-- Slashes are kept, and no others come from quoting. -/
theorem count_slash_quote (text : List Char) :
    (quote ['/'] text).count '/' = text.count '/' := by
  induction text with
  | nil => rfl
  | cons c text ih =>
    unfold quote at ih ⊢
    rw [List.flatMap_cons, List.count_append, ih, List.count_cons, Nat.add_comm]
    congr 1
    by_cases hc : c = '/'
    · subst hc
      rfl
    · have hnone : '/' ∉ quoteChar ['/'] c := by
        intro hmem
        rcases mem_quoteChar hmem with h | h | ⟨h, _⟩
        · cases h
        · exact absurd h (by decide)
        · exact hc h.symm
      rw [List.count_eq_zero.mpr hnone]
      simp [hc]

/-- The characters of a quoted path. -/
theorem mem_quote_path {text : List Char} {d : Char} (h : d ∈ quote ['/'] text) :
    d = '%' ∨ isUnreserved d = true ∨ d = '/' := by
  obtain ⟨c, _, hd⟩ := List.mem_flatMap.mp h
  rcases mem_quoteChar hd with hd | hd | ⟨rfl, hsafe⟩
  · exact Or.inl hd
  · exact Or.inr (Or.inl hd)
  · exact Or.inr (Or.inr (List.mem_singleton.mp hsafe))

/-- The characters of a quoted query. -/
theorem mem_quotePlus {text : List Char} {d : Char} (h : d ∈ quotePlus text) :
    d = '%' ∨ isUnreserved d = true ∨ d = '+' := by
  obtain ⟨c, _, hd⟩ := List.mem_flatMap.mp h
  split at hd
  · exact Or.inr (Or.inr (List.mem_singleton.mp hd))
  · rcases mem_quoteChar hd with hd | hd | ⟨_, hsafe⟩
    · exact Or.inl hd
    · exact Or.inr (Or.inl hd)
    · cases hsafe

end quoting

section building

variable {P : Platform} {U : UrlLibrary}

/-- A character that splits no part of a URL off and is not removed. -/
def StaysInPart (c : Char) : Prop := c ∉ ['?', '#', '\t', '\r', '\n']

instance decidableStaysInPart (c : Char) : Decidable (StaysInPart c) :=
  inferInstanceAs (Decidable (c ∉ ['?', '#', '\t', '\r', '\n']))

/-- An unreserved character separates no part of a URL. -/
theorem staysInPart_of_isUnreserved {c : Char} (h : isUnreserved c = true) : StaysInPart c := by
  have hnone : ∀ c ∈ ['?', '#', '\t', '\r', '\n'], isUnreserved c = false := by decide
  intro hc
  rw [hnone c hc] at h
  cases h

/-- The parts of a URL that is built. -/
theorem urlsplit_armUrl {path query : List Char} (hpath : ∀ c ∈ path, StaysInPart c)
    (hquery : ∀ c ∈ query, StaysInPart c) (hslash : path = [] ∨ path.head? = some '/') :
    urlsplit U (azureResourceManager.toList ++ path ++ '?' :: query) =
      .ok ⟨"https".toList, "management.azure.com".toList, path, query, []⟩ := by
  have hsplit : azureResourceManager.toList ++ path ++ '?' :: query =
      "https".toList ++ ':' :: ('/' :: '/' ::
        ("management.azure.com".toList ++ (path ++ '?' :: query))) := by
    simp [azureResourceManager]
  have hall : ∀ c ∈ azureResourceManager.toList ++ path ++ '?' :: query,
      decide (c ∉ ['\t', '\r', '\n']) = true := by
    have hkept {c : Char} (hc : StaysInPart c) : decide (c ∉ ['\t', '\r', '\n']) = true := by
      unfold StaysInPart at hc
      simp only [List.mem_cons, not_or] at hc ⊢
      simpa using hc.2.2
    have hfixed : ∀ c ∈ azureResourceManager.toList, StaysInPart c := by decide
    intro c hc
    rcases List.mem_append.mp hc with hc | hc
    · rcases List.mem_append.mp hc with hc | hc
      · exact hkept (hfixed c hc)
      · exact hkept (hpath c hc)
    · rcases List.mem_cons.mp hc with rfl | hc
      · decide
      · exact hkept (hquery c hc)
  have hclean : cleanUrl (azureResourceManager.toList ++ path ++ '?' :: query) =
      azureResourceManager.toList ++ path ++ '?' :: query := by
    have hhead : (azureResourceManager.toList ++ path ++ '?' :: query).dropWhile
        (fun c => decide (c.toNat ≤ 32)) = azureResourceManager.toList ++ path ++ '?' :: query :=
      rfl
    unfold cleanUrl
    rw [hhead]
    exact List.filter_eq_self.mpr hall
  have hscheme : splitScheme (azureResourceManager.toList ++ path ++ '?' :: query) =
      ("https".toList, '/' :: '/' ::
        ("management.azure.com".toList ++ (path ++ '?' :: query))) := by
    rw [hsplit]
    unfold splitScheme
    rw [partitionAt_append _ (by decide)]
    have hchars : "https".toList.all isSchemeChar = true := by decide
    rw [if_pos ⟨by simp, rfl, hchars⟩]
    rfl
  have hnetloc : splitNetloc ('/' :: '/' ::
      ("management.azure.com".toList ++ (path ++ '?' :: query))) =
        ("management.azure.com".toList, path ++ '?' :: query) := by
    have hhost : ∀ c ∈ "management.azure.com".toList, isNetlocChar c = true := by decide
    have hstop : (path ++ '?' :: query).takeWhile isNetlocChar = [] ∧
        (path ++ '?' :: query).dropWhile isNetlocChar = path ++ '?' :: query := by
      cases path with
      | nil => exact ⟨rfl, rfl⟩
      | cons c path =>
        have hc : c = '/' := by
          rcases hslash with hslash | hslash
          · cases hslash
          · exact Option.some.inj hslash
        subst hc
        exact ⟨rfl, rfl⟩
    have hlocation (rest : List Char) : splitNetloc ('/' :: '/' :: rest) =
        (rest.takeWhile isNetlocChar, rest.dropWhile isNetlocChar) := rfl
    rw [hlocation, List.takeWhile_append_of_pos hhost, List.dropWhile_append_of_pos hhost, hstop.1,
      hstop.2, List.append_nil]
  have hfragment : '#' ∉ path ++ '?' :: query := by
    have hpart (text : List Char) (h : ∀ c ∈ text, StaysInPart c) : '#' ∉ text :=
      fun hmem => absurd (h '#' hmem) (by decide)
    rw [List.mem_append, List.mem_cons, not_or, not_or]
    exact ⟨hpart path hpath, by decide, hpart query hquery⟩
  have hquestion : '?' ∉ path := fun hmem => absurd (hpath '?' hmem) (by decide)
  rw [urlsplit_eq_ok]
  dsimp only
  rw [hclean, hscheme]
  dsimp only
  rw [hnetloc]
  dsimp only
  rw [partitionAt_of_not_mem hfragment]
  dsimp only
  rw [partitionAt_append _ hquestion]
  refine ⟨by decide, fun hopen => absurd hopen (by decide), ?_, rfl⟩
  rfl

/-- The names of a resource are all legal. -/
def LegalNames (names : List String) : Prop :=
  ∀ name ∈ names, ∀ c ∈ name.toList, isAzureNameChar c = true

/-- The characters of a resource path are slashes and those of its names. -/
theorem mem_resourcePathOf {names : List String} {c : Char}
    (h : c ∈ (resourcePathOf names).toList) : c = '/' ∨ ∃ name ∈ names, c ∈ name.toList := by
  unfold resourcePathOf at h
  rw [String.toList_ofList] at h
  obtain ⟨name, hname, hc⟩ := List.mem_flatMap.mp h
  rcases List.mem_cons.mp hc with hc | hc
  · exact Or.inl hc
  · exact Or.inr ⟨name, hname, hc⟩

/-- A quoted path begins with a slash. -/
theorem quote_resourcePathOf_head (names : List String) :
    quote ['/'] (resourcePathOf names).toList = [] ∨
      (quote ['/'] (resourcePathOf names).toList).head? = some '/' := by
  cases names with
  | nil => exact Or.inl rfl
  | cons name names =>
    right
    unfold resourcePathOf
    rw [String.toList_ofList]
    rfl

/-- The check of a URL that was built accepts it where the quoted path continues the scope. -/
theorem validatedArmUrl_armUrl (hlower : P.LowersAscii) (names : List String)
    (apiVersion scopePath : String) :
    validatedArmUrl P U (armUrl (resourcePathOf names) apiVersion) scopePath =
        .ok (armUrl (resourcePathOf names) apiVersion) ↔
      P.lower (String.ofList (quote ['/'] (resourcePathOf names).toList)) = P.lower scopePath ∨
        (P.lower scopePath ++ "/").toList <+:
          (P.lower (String.ofList (quote ['/'] (resourcePathOf names).toList))).toList := by
  have hpath : ∀ c ∈ quote ['/'] (resourcePathOf names).toList, StaysInPart c := by
    intro c hc
    rcases mem_quote_path hc with rfl | hc | rfl
    · decide
    · exact staysInPart_of_isUnreserved hc
    · decide
  have hquery : ∀ c ∈ "api-version=".toList ++ quotePlus apiVersion.toList, StaysInPart c := by
    have hname : ∀ c ∈ "api-version=".toList, StaysInPart c := by decide
    intro c hc
    rcases List.mem_append.mp hc with hc | hc
    · exact hname c hc
    · rcases mem_quotePlus hc with rfl | hc | rfl
      · decide
      · exact staysInPart_of_isUnreserved hc
      · decide
  have hurl : (armUrl (resourcePathOf names) apiVersion).toList =
      azureResourceManager.toList ++ quote ['/'] (resourcePathOf names).toList ++
        '?' :: ("api-version=".toList ++ quotePlus apiVersion.toList) := by
    simp [armUrl]
  have hparsed := @urlsplit_armUrl U _ _ hpath hquery (quote_resourcePathOf_head names)
  rw [← hurl] at hparsed
  have hhost : P.lower "management.azure.com" = "management.azure.com" := by
    refine String.toList_inj.mp ?_
    rw [hlower.ascii _ (by decide)]
    decide
  rw [validatedArmUrl_eq_ok]
  constructor
  · rintro ⟨parsed, hother, _, _, _, _, hscope⟩
    obtain rfl := Except.ok.inj (hparsed.symm.trans hother)
    exact hscope
  · intro hscope
    refine ⟨_, hparsed, rfl, ?_, rfl, rfl, hscope⟩
    have hinfo : hostInfo "management.azure.com".toList = ("management.azure.com".toList, []) := by
      decide
    have hpercent : '%' ∉ "management.azure.com".toList := by decide
    rw [hostname_of_name (by rw [hinfo]; decide) (by rw [hinfo]; exact hpercent), hinfo,
      String.ofList_toList, hhost]

/-- The first page is read from a URL that the check accepts. -/
theorem readArmCollection_first {firstUrl scopePath : String}
    (h : validatedArmUrl P U firstUrl scopePath = .ok firstUrl) (read : ReadUrl) (what : String) :
    (readArmCollection P U read firstUrl scopePath what).reads.head? = some firstUrl := by
  unfold readArmCollection azureMaxListPages readPages
  rw [h]
  dsimp only
  rw [if_neg List.not_mem_nil]
  split
  · rfl
  · rename_i value next hpage
    obtain ⟨urls, hreads, _⟩ :=
      @readPages_goes P U read scopePath what 99 ([] ++ [firstUrl]) next ([] ++ value)
    rw [hreads]
    rfl
  · rfl

/-- Names of characters that are kept are quoted as they are. -/
theorem quote_resourcePathOf {names : List String}
    (h : ∀ name ∈ names, ∀ c ∈ name.toList, isUnreserved c = true) :
    quote ['/'] (resourcePathOf names).toList = (resourcePathOf names).toList := by
  refine quote_eq_self fun c hc => ?_
  rcases mem_resourcePathOf hc with rfl | ⟨name, hname, hmem⟩
  · exact Or.inr List.mem_cons_self
  · exact Or.inl (h name hname c hmem)

/-- A name with a character that is escaped makes the quoted path differ from the scope. -/
theorem quoted_differs (hlower : P.LowersAscii) {names : List String} (hlegal : LegalNames names)
    {name : String} (hname : name ∈ names) {c : Char} (hc : c ∈ name.toList)
    (hescaped : isUnreserved c = false) :
    P.lower (String.ofList (quote ['/'] (resourcePathOf names).toList)) ≠
      P.lower (resourcePathOf names) := by
  intro hequal
  have hpercentAlpha : '%'.isAlpha = false := by decide
  have hcount := hlower.others (resourcePathOf names) '%' (by decide) hpercentAlpha
  rw [← hequal, hlower.others _ '%' (by decide) hpercentAlpha, String.toList_ofList] at hcount
  have hnone : (resourcePathOf names).toList.count '%' = 0 := by
    refine List.count_eq_zero.mpr fun hmem => ?_
    rcases mem_resourcePathOf hmem with h | ⟨other, hother, hmem⟩
    · cases h
    · exact absurd (hlegal other hother '%' hmem) (by decide)
  have hpath : c ∈ (resourcePathOf names).toList := by
    unfold resourcePathOf
    rw [String.toList_ofList]
    exact List.mem_flatMap.mpr ⟨name, hname, List.mem_cons_of_mem _ hc⟩
  have hslash : c ∉ ['/'] := by
    intro hmem
    rw [List.mem_singleton] at hmem
    subst hmem
    exact absurd (hlegal name hname '/' hc) (by decide)
  have hsome : '%' ∈ quote ['/'] (resourcePathOf names).toList :=
    List.mem_flatMap.mpr ⟨c, hpath, percent_mem_quoteChar hescaped hslash⟩
  have hpositive := List.count_pos_iff.mpr hsome
  omega

/-- A quoted path has as many slashes as the path and is not below it. -/
theorem quoted_not_below (hlower : P.LowersAscii) (names : List String) :
    ¬(P.lower (resourcePathOf names) ++ "/").toList <+:
      (P.lower (String.ofList (quote ['/'] (resourcePathOf names).toList))).toList := by
  intro hbelow
  have hslashAlpha : '/'.isAlpha = false := by decide
  have hcount := hbelow.sublist.count_le '/'
  have hquoted : (String.ofList (quote ['/'] (resourcePathOf names).toList)).toList.count '/' =
      (resourcePathOf names).toList.count '/' := by
    rw [String.toList_ofList, count_slash_quote]
  have hone : "/".toList.count '/' = 1 := by decide
  rw [String.toList_append, List.count_append, hlower.others _ '/' (by decide) hslashAlpha,
    hlower.others _ '/' (by decide) hslashAlpha, hquoted, hone] at hcount
  omega

end building

/-- The URL that is built for a path of legal names is accepted below that path, so that its first
page is read, exactly where no character of the names is escaped: where they are ASCII letters,
digits, dots, hyphens and underscores. -/
theorem armUrl_accepted_iff (P : Platform) (U : UrlLibrary) (hlower : P.LowersAscii)
    (names : List String) (hlegal : LegalNames names) (apiVersion : String) :
    (validatedArmUrl P U (armUrl (resourcePathOf names) apiVersion) (resourcePathOf names) =
        .ok (armUrl (resourcePathOf names) apiVersion) ∧
      ∀ read what, (readArmCollection P U read (armUrl (resourcePathOf names) apiVersion)
        (resourcePathOf names) what).reads.head? =
          some (armUrl (resourcePathOf names) apiVersion)) ↔
      ∀ name ∈ names, ∀ c ∈ name.toList, isUnreserved c = true := by
  have haccepted := @validatedArmUrl_armUrl P U hlower names apiVersion (resourcePathOf names)
  constructor
  · rintro ⟨hvalid, _⟩ name hname c hc
    by_contra hescaped
    have hdiffers := quoted_differs hlower hlegal hname hc (by simpa using hescaped)
    rcases haccepted.mp hvalid with hequal | hbelow
    · exact hdiffers hequal
    · exact quoted_not_below hlower names hbelow
  · intro hkept
    have hsame := quote_resourcePathOf hkept
    have hvalid := haccepted.mpr (Or.inl (by rw [hsame, String.ofList_toList]))
    exact ⟨hvalid, readArmCollection_first hvalid⟩

/-- The URL of a resource in a group with a plain name is accepted. -/
theorem plainGroup_accepted :
    validatedArmUrl samplePlatform sampleUrlLibrary
      (armUrl (resourcePathOf ["subscriptions", "s-1", "resourceGroups", "rg_1"]) "2021-11-01")
      (resourcePathOf ["subscriptions", "s-1", "resourceGroups", "rg_1"]) =
        .ok (armUrl (resourcePathOf ["subscriptions", "s-1", "resourceGroups", "rg_1"])
          "2021-11-01") := by
  refine ((armUrl_accepted_iff samplePlatform sampleUrlLibrary samplePlatform_lowersAscii _ ?_
    "2021-11-01").mpr ?_).1
  · unfold LegalNames
    decide
  · decide

/-- The URL of a resource in a group whose name has parentheses is refused. -/
theorem parentheses_refused :
    LegalNames ["subscriptions", "s-1", "resourceGroups", "rg (1)"] ∧
    (validatedArmUrl samplePlatform sampleUrlLibrary
      (armUrl (resourcePathOf ["subscriptions", "s-1", "resourceGroups", "rg (1)"]) "2021-11-01")
      (resourcePathOf ["subscriptions", "s-1", "resourceGroups", "rg (1)"])).toOption = none := by
  constructor
  · unfold LegalNames
    decide
  · decide +kernel

end ElCapitan
