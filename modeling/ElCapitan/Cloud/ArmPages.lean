import ElCapitan.Cloud.ArmCollection

/-!
# Whole collections

A run of `_read_arm_collection` reads a bounded number of distinct URLs. What it returns are the
items of a chain of pages that was read to its end: the last page names no other.
-/

namespace ElCapitan

/-- Pages that follow each other: after the URLs read before, each page is read from the URL that
the page before it names, and the last page names none. -/
inductive PageChain (read : ReadUrl) (what : String) :
    List String → String → List String → List (List Document) → Prop
  | last {seen : List String} {url : String} {document : Document} {value : List Document}
      (hread : read seen url (what ++ " page " ++ toString (seen.length + 1)) = .ok document)
      (hvalue : objectList? (document.get "value") = some value)
      (hnext : document.get "nextLink" = .null) : PageChain read what seen url [url] [value]
  | more {seen : List String} {url next : String} {document : Document} {value : List Document}
      {urls : List String} {values : List (List Document)}
      (hread : read seen url (what ++ " page " ++ toString (seen.length + 1)) = .ok document)
      (hvalue : objectList? (document.get "value") = some value)
      (hnext : document.get "nextLink" = .str next)
      (hrest : PageChain read what (seen ++ [url]) next urls values) :
      PageChain read what seen url (url :: urls) (value :: values)

variable {P : Platform} {U : UrlLibrary} {read : ReadUrl} {scopePath what : String}

/-- A reader determines the pages that follow each other. -/
theorem PageChain.unique {seen urls urls' : List String} {url : String}
    {values values' : List (List Document)} (h : PageChain read what seen url urls values)
    (h' : PageChain read what seen url urls' values') : urls = urls' ∧ values = values' := by
  induction h generalizing urls' values' with
  | last hread hvalue hnext =>
    cases h' with
    | last hread' hvalue' hnext' =>
      obtain rfl := Except.ok.inj (hread.symm.trans hread')
      obtain rfl := Option.some.inj (hvalue.symm.trans hvalue')
      exact ⟨rfl, rfl⟩
    | more hread' hvalue' hnext' hrest' =>
      obtain rfl := Except.ok.inj (hread.symm.trans hread')
      rw [hnext] at hnext'
      cases hnext'
  | more hread hvalue hnext hrest ih =>
    cases h' with
    | last hread' hvalue' hnext' =>
      obtain rfl := Except.ok.inj (hread.symm.trans hread')
      rw [hnext] at hnext'
      cases hnext'
    | more hread' hvalue' hnext' hrest' =>
      obtain rfl := Except.ok.inj (hread.symm.trans hread')
      obtain rfl := Option.some.inj (hvalue.symm.trans hvalue')
      obtain rfl := Json.str.inj (hnext.symm.trans hnext')
      obtain ⟨rfl, rfl⟩ := ih hrest'
      exact ⟨rfl, rfl⟩

/-- A URL that passes is the one that was checked. -/
theorem validatedArmUrl_eq {url url' : String}
    (h : validatedArmUrl P U url scopePath = .ok url') : url' = url := by
  unfold validatedArmUrl at h
  simp only [except_bind_eq_ok] at h
  obtain ⟨parsed, _, _, _, hurl⟩ := h
  exact (Except.ok.inj hurl).symm

/-- A page without a next link has none in its document. -/
theorem nextLink_done {document : Document} (h : nextLink document = .done) :
    document.get "nextLink" = .null := by
  unfold nextLink at h
  split at h
  · assumption
  · split at h
    · cases h
    · cases h
  · cases h

/-- A next link is the text of its entry. -/
theorem nextLink_more {document : Document} {url : String} (h : nextLink document = .more url) :
    document.get "nextLink" = .str url := by
  unfold nextLink at h
  split at h
  · cases h
  · rename_i next hnext
    split at h
    · cases h
    · rw [← NextLink.more.inj h, hnext]
  · cases h

/-- A page that was read. -/
theorem readPage_eq_ok {seen : List String} {url : String} {value : List Document}
    {next : NextLink} (h : readPage read what seen url = .ok (value, next)) :
    ∃ document, read seen url (what ++ " page " ++ toString (seen.length + 1)) = .ok document ∧
      objectList? (document.get "value") = some value ∧ nextLink document = next ∧
      next ≠ .invalid := by
  unfold readPage at h
  obtain ⟨document, hread, hpage⟩ := except_bind_eq_ok.mp h
  split at hpage
  · cases hpage
  · rename_i value' hvalue
    split at hpage
    · cases hpage
    · rename_i next' hvalid
      obtain ⟨rfl, hnext⟩ := Prod.mk.inj (Except.ok.inj hpage)
      exact ⟨document, hread, hvalue, hnext, fun hinvalid => hvalid (hnext.trans hinvalid)⟩

/-- A page of a run, one of the URLs it reads, names a URL as the next one. -/
def PageNames (read : ReadUrl) (what : String) (reads : List String) (url : String) : Prop :=
  ∃ before page after document, reads = before ++ page :: after ∧
    read before page (what ++ " page " ++ toString (before.length + 1)) = .ok document ∧
    document.get "nextLink" = .str url

/-- What a run that goes on from a URL does: it reads so many more distinct URLs, each of which
was named and passed the check, and fails or returns the items of a chain of pages. -/
structure CollectionRun.Goes (run : CollectionRun) (P : Platform) (U : UrlLibrary)
    (read : ReadUrl) (scopePath what : String) (remaining : ℕ) (seen : List String) (url : String)
    (items : List Document) (urls : List String) : Prop where
  reads : run.reads = seen ++ urls
  bounded : urls.length ≤ remaining
  distinct : seen.Nodup → (seen ++ urls).Nodup
  checked : ∀ u ∈ urls, validatedArmUrl P U u scopePath = .ok u
  named : ∀ u ∈ urls, u = url ∨ PageNames read what (seen ++ urls) u
  whole : (∃ e, run.result = .error e) ∨
    ∃ values, PageChain read what seen url urls values ∧ run.result = .ok (items ++ values.flatten)

/-- A run that stops before the next page. -/
theorem CollectionRun.goes_stopped {remaining : ℕ} {seen : List String} {url : String}
    {items : List Document} {e : PyError} :
    (CollectionRun.mk seen (.error e)).Goes P U read scopePath what remaining seen url items [] :=
  ⟨(List.append_nil seen).symm, Nat.zero_le _, by simp, by simp, by simp, Or.inl ⟨e, rfl⟩⟩

/-- A run goes on from a URL. -/
theorem readPages_goes (remaining : ℕ) (seen : List String) (url : String)
    (items : List Document) : ∃ urls,
      (readPages P U read scopePath what remaining seen url items).Goes P U read scopePath what
        remaining seen url items urls := by
  induction remaining generalizing seen url items with
  | zero =>
    unfold readPages
    split
    · exact ⟨[], CollectionRun.goes_stopped⟩
    · split
      · exact ⟨[], CollectionRun.goes_stopped⟩
      · exact ⟨[], CollectionRun.goes_stopped⟩
  | succ remaining ih =>
    unfold readPages
    split
    · exact ⟨[], CollectionRun.goes_stopped⟩
    · rename_i url' hchecked
      obtain rfl := validatedArmUrl_eq hchecked
      split
      · exact ⟨[], CollectionRun.goes_stopped⟩
      · rename_i hfresh
        have hone : ∀ u ∈ [url'], validatedArmUrl P U u scopePath = .ok u := by
          simpa using hchecked
        have hself : ∀ u ∈ [url'], u = url' ∨ PageNames read what (seen ++ [url']) u := by
          simp
        have hnodup (h : seen.Nodup) : (seen ++ [url']).Nodup :=
          List.nodup_append.mpr ⟨h, by simp, by
            intro u hu u' hu' hequal
            rw [List.mem_singleton.mp hu'] at hequal
            exact hfresh (hequal ▸ hu)⟩
        dsimp only
        split
        · rename_i e _
          exact ⟨[url'], rfl, by simp, hnodup, hone, hself, Or.inl ⟨e, rfl⟩⟩
        · rename_i value next hpage
          obtain ⟨document, hread, hvalue, hnext, _⟩ := readPage_eq_ok hpage
          obtain ⟨urls, hreads, hbounded, hdistinct, hrest, hnamed, hwhole⟩ :=
            ih (seen ++ [url']) next (items ++ value)
          refine ⟨url' :: urls, ?_, ?_, ?_, ?_, ?_, ?_⟩
          · rw [hreads, List.append_assoc, List.singleton_append]
          · exact Nat.succ_le_succ hbounded
          · intro hseen
            have := hdistinct (hnodup hseen)
            rwa [List.append_assoc, List.singleton_append] at this
          · exact List.forall_mem_cons.mpr ⟨hchecked, hrest⟩
          · refine List.forall_mem_cons.mpr ⟨Or.inl rfl, fun u hu => Or.inr ?_⟩
            rcases hnamed u hu with rfl | hu
            · exact ⟨seen, url', urls, document, rfl, hread, nextLink_more hnext⟩
            · rwa [List.append_assoc, List.singleton_append] at hu
          · rcases hwhole with ⟨e, he⟩ | ⟨values, hchain, hresult⟩
            · exact Or.inl ⟨e, he⟩
            · refine Or.inr ⟨value :: values, .more hread hvalue (nextLink_more hnext) hchain, ?_⟩
              rw [hresult, List.append_assoc, List.flatten_cons]
        · rename_i value next hlast hpage
          obtain ⟨document, hread, hvalue, hnext, hvalid⟩ := readPage_eq_ok hpage
          have hdone : next = .done := by
            cases next with
            | done => rfl
            | more next => exact absurd rfl (hlast next)
            | invalid => exact absurd rfl hvalid
          subst hdone
          refine ⟨[url'], rfl, by simp, hnodup, hone, hself, Or.inr ⟨[value], ?_, ?_⟩⟩
          · exact .last hread hvalue (nextLink_done hnext)
          · simp

/-- A collection is read in at most a hundred reads of distinct URLs and is read whole or not at
all: what is returned are the items, in their order, of the one chain of pages that begins at the
first URL, each page of which names the next and the last of which names none. -/
theorem readArmCollection_whole (P : Platform) (U : UrlLibrary) (read : ReadUrl)
    (firstUrl scopePath what : String) :
    let run := readArmCollection P U read firstUrl scopePath what
    run.reads.length ≤ azureMaxListPages ∧ run.reads.Nodup ∧
      ((∃ e, run.result = .error e) ∨
        ∃ values, PageChain read what [] firstUrl run.reads values ∧
          run.result = .ok values.flatten ∧
          ∀ urls values', PageChain read what [] firstUrl urls values' →
            urls = run.reads ∧ values' = values) := by
  obtain ⟨urls, hreads, hbounded, hdistinct, _, _, hwhole⟩ :=
    @readPages_goes P U read scopePath what azureMaxListPages [] firstUrl []
  rw [List.nil_append] at hreads hdistinct
  unfold readArmCollection
  dsimp only
  rw [hreads]
  refine ⟨hbounded, hdistinct List.nodup_nil, ?_⟩
  rcases hwhole with hfailed | ⟨values, hchain, hresult⟩
  · exact Or.inl hfailed
  · exact Or.inr ⟨values, hchain, hresult, fun others values' hother => hother.unique hchain⟩

end ElCapitan
