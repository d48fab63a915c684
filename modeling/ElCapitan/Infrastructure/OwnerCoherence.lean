import ElCapitan.Infrastructure.TerraformLinker

/-!
# Coherence of the linker

A link with an address should be the one block that declares the owner of that address. Where the
repository declares the owner the linker finds exactly that block; where it does not, a block
that matches literally is linked under the address of another resource.
-/

namespace ElCapitan

section maxima

variable {α : Type} (score : α → ℚ)

/-- One item of a list scores more than every other. -/
def SoleMaximum (items : List α) (winner : α) : Prop :=
  ∃ before after, items = before ++ winner :: after ∧
    ∀ other ∈ before ++ after, score other < score winner

variable {score} {items : List α} {winner : α}

/-- The winner is one of the items. -/
theorem SoleMaximum.mem (h : SoleMaximum score items winner) : winner ∈ items := by
  obtain ⟨before, after, rfl, _⟩ := h
  simp

/-- Every other item, also an equal one, scores less. -/
theorem SoleMaximum.le (h : SoleMaximum score items winner) {item : α} (hitem : item ∈ items) :
    item = winner ∨ score item < score winner := by
  obtain ⟨before, after, rfl, hless⟩ := h
  rcases List.mem_append.mp hitem with hitem | hitem
  · exact Or.inr (hless item (List.mem_append_left _ hitem))
  · rcases List.mem_cons.mp hitem with rfl | hitem
    · exact Or.inl rfl
    · exact Or.inr (hless item (List.mem_append_right _ hitem))

/-- The highest score is the score of the sole maximum. -/
theorem SoleMaximum.max_eq (h : SoleMaximum score items winner) :
    (items.map score).max? = some (score winner) := by
  rw [List.max?_eq_some_iff]
  constructor
  · exact List.mem_map.mpr ⟨winner, h.mem, rfl⟩
  · intro b hb
    obtain ⟨item, hitem, rfl⟩ := List.mem_map.mp hb
    rcases h.le hitem with rfl | hless
    · exact le_refl _
    · exact hless.le

/-- There is a sole maximum where exactly one item has the highest score. -/
theorem filter_eq_singleton_iff {highest : ℚ} (hmax : (items.map score).max? = some highest) :
    (items.filter fun item => decide (score item = highest)) = [winner] ↔
      SoleMaximum score items winner := by
  constructor
  · intro h
    obtain ⟨before, after, rfl, hbefore, hwinner, hafter⟩ := List.filter_eq_cons_iff.mp h
    have hhighest : score winner = highest := of_decide_eq_true hwinner
    have hbound := (List.max?_eq_some_iff.mp hmax).2
    refine ⟨before, after, rfl, fun other hother => ?_⟩
    have hle : score other ≤ highest := by
      apply hbound
      have hitem : other ∈ before ++ winner :: after := by
        rcases List.mem_append.mp hother with hother | hother <;> simp [hother]
      exact List.mem_map.mpr ⟨other, hitem, rfl⟩
    have hne : score other ≠ highest := by
      intro heq
      rcases List.mem_append.mp hother with hother | hother
      · exact hbefore other hother (decide_eq_true heq)
      · exact (List.filter_eq_nil_iff.mp hafter) other hother (decide_eq_true heq)
    rw [hhighest]
    exact lt_of_le_of_ne hle hne
  · intro h
    have heq : score winner = highest := Option.some.inj (h.max_eq.symm.trans hmax)
    obtain ⟨before, after, rfl, hless⟩ := h
    have hnone (part : List α) (hpart : ∀ other ∈ part, score other < score winner) :
        (part.filter fun item => decide (score item = highest)) = [] := by
      rw [List.filter_eq_nil_iff]
      intro other hother hequal
      have := hpart other hother
      rw [heq, of_decide_eq_true hequal] at this
      exact lt_irrefl _ this
    rw [List.filter_append, List.filter_cons_of_pos (by simpa using heq),
      hnone before fun other hother => hless other (List.mem_append_left _ hother),
      hnone after fun other hother => hless other (List.mem_append_right _ hother)]
    rfl

/-- Of items that would all have the highest score there is only the sole maximum. -/
theorem SoleMaximum.filter_eq {γ : Type} {f : γ → Option α} {sources : List γ}
    (h : SoleMaximum score (sources.filterMap f) winner) {p : γ → Bool}
    (htop : ∀ source ∈ sources, p source = true →
      ∃ item, f source = some item ∧ score winner ≤ score item)
    (hsome : ∃ source ∈ sources, p source = true) :
    ∃ source, sources.filter p = [source] ∧ f source = some winner := by
  obtain ⟨before, after, hitems, hless⟩ := h
  obtain ⟨left, right, rfl, hleft, hright⟩ := List.filterMap_eq_append_iff.mp hitems
  obtain ⟨skipped, source, rest, rfl, hskipped, hsource, hrest⟩ :=
    List.filterMap_eq_cons_iff.mp hright
  have hlow (part : List γ) (hpart : ∀ other ∈ part, other ∈ left ++ (skipped ++ source :: rest))
      (hitem : ∀ other ∈ part, ∀ item, f other = some item → item ∈ before ++ after) :
      part.filter p = [] := by
    rw [List.filter_eq_nil_iff]
    intro other hother hp
    obtain ⟨item, hfound, hle⟩ := htop other (hpart other hother) hp
    exact absurd (hless item (hitem other hother item hfound)) (not_lt.mpr hle)
  have hleftNone := hlow left (by simp +contextual) fun other hother item hfound =>
    List.mem_append_left _ (hleft ▸ List.mem_filterMap.mpr ⟨other, hother, hfound⟩)
  have hskippedNone := hlow skipped (by simp +contextual) fun other hother item hfound => by
    simp [hskipped other hother] at hfound
  have hrestNone := hlow rest (by simp +contextual) fun other hother item hfound =>
    List.mem_append_right _ (hrest ▸ List.mem_filterMap.mpr ⟨other, hother, hfound⟩)
  have hfilter : (left ++ (skipped ++ source :: rest)).filter p = [source].filter p := by
    rw [List.filter_append, List.filter_append, List.filter_cons, hleftNone, hskippedNone,
      hrestNone, List.filter_cons, List.filter_nil]
    rfl
  refine ⟨source, ?_, hsource⟩
  obtain ⟨other, hother, hp⟩ := hsome
  have hmem : other ∈ [source].filter p := hfilter ▸ List.mem_filter.mpr ⟨hother, hp⟩
  obtain ⟨hequal, hp⟩ := List.mem_filter.mp hmem
  rw [List.mem_singleton.mp hequal] at hp
  rw [hfilter, List.filter_cons_of_pos hp, List.filter_nil]

end maxima

section owners

variable {P : Platform} {provider resourceUid : String}

/-- The matches are resources of the state. -/
theorem mem_of_ownerMatches {resourceTypes : List String} {resources found : List FoundResource}
    (hfound : ownerMatches P provider resourceUid resourceTypes resources = .ok found)
    {resource : FoundResource} (hmem : resource ∈ found) : resource ∈ resources := by
  induction resources generalizing found with
  | nil =>
    cases Except.ok.inj hfound
    exact hmem
  | cons first resources ih =>
    unfold ownerMatches at hfound
    obtain ⟨matched, _, hfound⟩ := except_bind_eq_ok.mp hfound
    obtain ⟨others, hothers, hfound⟩ := except_bind_eq_ok.mp hfound
    have hresult : (if matched then first :: others else others) = found :=
      Except.ok.inj hfound
    cases matched with
    | false =>
      rw [← hresult] at hmem
      exact List.mem_cons_of_mem _ (ih hothers hmem)
    | true =>
      rw [← hresult] at hmem
      rcases List.mem_cons.mp hmem with rfl | hmem
      · exact List.mem_cons_self
      · exact List.mem_cons_of_mem _ (ih hothers hmem)

/-- An owner is the only match. -/
theorem soleOwner_eq_some {found : List FoundResource} {owner : StateOwner}
    (howner : soleOwner resourceUid found = .ok (some owner)) : ∃ resource, found = [resource] ∧
      owner = ⟨resource.address, resource.resourceType, resource.resourceName⟩ := by
  match found with
  | [] => cases howner
  | [resource] => exact ⟨resource, rfl, (Option.some.inj (Except.ok.inj howner)).symm⟩
  | _ :: _ :: _ => cases howner

/-- The owner is a resource of the state. -/
theorem stateOwner_mem {document : Document} {resourceTypes : List String} {owner : StateOwner}
    (howner : stateOwner P provider resourceUid document resourceTypes = .ok (some owner)) :
    ∃ found, stateResources P document = .ok found ∧ ∃ resource ∈ found,
      resource.address = owner.address ∧ resource.resourceType = owner.resourceType ∧
        resource.resourceName = owner.resourceName := by
  obtain ⟨resources, hresources, howner⟩ := except_bind_eq_ok.mp howner
  obtain ⟨found, hfound, howner⟩ := except_bind_eq_ok.mp howner
  obtain ⟨resource, rfl, rfl⟩ := soleOwner_eq_some howner
  exact ⟨resources, hresources, resource, mem_of_ownerMatches hfound List.mem_cons_self,
    rfl, rfl, rfl⟩

end owners

section linking

variable {P : Platform} {provider resourceUid : String} {repository : TerraformRepository}
  {stateDocument : Json} {resourceTypes : List String}

/-- The linker chooses a candidate exactly where it is the sole best. -/
theorem soleCandidate_eq_ok {missing : String} {candidates : List Candidate}
    {winner : Candidate} : soleCandidate resourceUid missing candidates = .ok winner ↔
      SoleMaximum (fun candidate => candidate.2.2) candidates winner := by
  unfold soleCandidate
  cases hmax : (candidates.map fun candidate => candidate.2.2).max? with
  | none =>
    rw [List.max?_eq_none_iff, List.map_eq_nil_iff] at hmax
    constructor
    · intro h
      cases h
    · intro h
      simpa [hmax] using h.mem
  | some highest =>
    dsimp only
    rw [← filter_eq_singleton_iff hmax]
    split
    next only hfilter => simp [hfilter]
    next hother => exact ⟨fun h => (by cases h), fun h => (hother winner h).elim⟩

/-- The blocks that match when the state may name an owner. -/
def candidatesOf (P : Platform) (provider resourceUid : String) (resourceTypes : List String)
    (owner : Option StateOwner) (blocks : List TerraformBlock) : List Candidate :=
  let identity := cloudIdentity P provider resourceUid
  blocks.filterMap fun block =>
    (blockMatch P provider resourceUid identity resourceTypes owner block).map fun matched =>
      (block, matched)

/-- The blocks that match by what they literally assign. -/
def literalCandidates (P : Platform) (provider resourceUid : String)
    (resourceTypes : List String) (blocks : List TerraformBlock) : List Candidate :=
  candidatesOf P provider resourceUid resourceTypes none blocks

/-- The owner in the state that was supplied, of the types that are eligible. -/
def suppliedOwner (P : Platform) (provider resourceUid : String) (resourceTypes : List String)
    (state : Option Document) : Except PyError (Option StateOwner) :=
  ownerIn P provider resourceUid state
    (eligibleTypes (cloudIdentity P provider resourceUid) resourceTypes)

/-- What a link is made of. -/
theorem linkTerraformResource_ok {link : TerraformSourceLink} (hlink : linkTerraformResource P
    provider resourceUid repository stateDocument resourceTypes = .ok link) :
    ∃ state owner blocks winner,
      checkLinkArguments provider resourceUid repository stateDocument resourceTypes = .ok state ∧
      suppliedOwner P provider resourceUid resourceTypes state = .ok owner ∧
      repository.blocks = .ok blocks ∧
      SoleMaximum (fun candidate => candidate.2.2)
        (candidatesOf P provider resourceUid resourceTypes owner blocks) winner ∧
      link.sourcePath = winner.1.sourcePath ∧ link.resourceType = winner.1.resourceType ∧
      link.resourceName = winner.1.resourceName ∧ link.startLine = winner.1.startLine ∧
      link.endLine = winner.1.endLine ∧
      link.resourceAddress = (owner.map StateOwner.address).getD "" := by
  unfold linkTerraformResource at hlink
  obtain ⟨state, hstate, hlink⟩ := except_bind_eq_ok.mp hlink
  obtain ⟨owner, howner, hlink⟩ := except_bind_eq_ok.mp hlink
  obtain ⟨blocks, hblocks, hlink⟩ := except_bind_eq_ok.mp hlink
  obtain ⟨winner, hwinner, hlink⟩ := except_bind_eq_ok.mp hlink
  cases Except.ok.inj hlink
  exact ⟨state, owner, blocks, winner, hstate, howner, hblocks, soleCandidate_eq_ok.mp hwinner,
    rfl, rfl, rfl, rfl, rfl, rfl⟩

/-- A sole best candidate is linked. -/
theorem linkTerraformResource_of_soleMaximum {state : Option Document} {owner : Option StateOwner}
    {blocks : List TerraformBlock} {winner : Candidate}
    (hstate : checkLinkArguments provider resourceUid repository stateDocument resourceTypes =
      .ok state)
    (howner : suppliedOwner P provider resourceUid resourceTypes state = .ok owner)
    (hblocks : repository.blocks = .ok blocks)
    (hwinner : SoleMaximum (fun candidate => candidate.2.2)
      (candidatesOf P provider resourceUid resourceTypes owner blocks) winner) :
    ∃ link, linkTerraformResource P provider resourceUid repository stateDocument resourceTypes =
      .ok link := by
  refine ⟨_, except_bind_eq_ok.mpr ⟨state, hstate, except_bind_eq_ok.mpr ⟨owner, howner,
    except_bind_eq_ok.mpr ⟨blocks, hblocks, except_bind_eq_ok.mpr
      ⟨winner, soleCandidate_eq_ok.mpr hwinner, rfl⟩⟩⟩⟩⟩

/-- No match is more confident than one by the owner of the state. -/
theorem literalCandidate_le {identity : CloudIdentity} {block : TerraformBlock}
    {matched : String × ℚ}
    (h : literalCandidate P provider resourceUid identity resourceTypes block = some matched) :
    matched.2 ≤ 1 := by
  simp only [literalCandidate] at h
  split_ifs at h <;> obtain rfl := Option.some.inj h <;> norm_num

/-- The candidates when the owner is declared nowhere are the literal ones. -/
theorem candidatesOf_undeclared {owner : StateOwner} {blocks : List TerraformBlock}
    (hnone : ∀ block ∈ blocks,
      block.declares owner.resourceType owner.resourceName = false) :
    candidatesOf P provider resourceUid resourceTypes (some owner) blocks =
      literalCandidates P provider resourceUid resourceTypes blocks := by
  apply List.filterMap_congr
  intro block hblock
  simp [blockMatch, hnone block hblock]

/-- Every match has at most the confidence of a match by the owner. -/
theorem candidatesOf_le {owner : Option StateOwner} {blocks : List TerraformBlock}
    {candidate : Candidate}
    (hmem : candidate ∈ candidatesOf P provider resourceUid resourceTypes owner blocks) :
    candidate.2.2 ≤ 1 := by
  obtain ⟨block, _, hmatched⟩ := List.mem_filterMap.mp hmem
  obtain ⟨matched, hmatch, rfl⟩ := Option.map_eq_some_iff.mp hmatched
  unfold blockMatch at hmatch
  split_ifs at hmatch
  · obtain rfl := Option.some.inj hmatch
    exact le_refl _
  · exact literalCandidate_le hmatch

/-- Where a block declares the owner, a sole best candidate is the only such block. -/
theorem declared_soleMaximum {owner : StateOwner} {blocks : List TerraformBlock}
    {winner : Candidate} (hwinner : SoleMaximum (fun candidate => candidate.2.2)
      (candidatesOf P provider resourceUid resourceTypes (some owner) blocks) winner)
    (hdeclared : ∃ block ∈ blocks, block.declares owner.resourceType owner.resourceName = true) :
    (blocks.filter fun block => block.declares owner.resourceType owner.resourceName) =
      [winner.1] := by
  obtain ⟨block, hblock, hmatched⟩ := hwinner.filter_eq
    (p := fun block => block.declares owner.resourceType owner.resourceName)
    (fun block hmem hdeclares => ⟨(block, "terraform_state_resource_id", 1), by
      simp [blockMatch, hdeclares], candidatesOf_le hwinner.mem⟩) hdeclared
  obtain ⟨matched, _, rfl⟩ := Option.map_eq_some_iff.mp hmatched
  exact hblock

/-- An address names a resource of a state, of the link's type and name. -/
def AddressNames (P : Platform) (stateDocument : Json) (link : TerraformSourceLink) : Prop :=
  ∃ document found, stateDocument = .obj document ∧ stateResources P document = .ok found ∧
    ∃ resource ∈ found, resource.address = link.resourceAddress ∧
      resource.resourceType = link.resourceType ∧ resource.resourceName = link.resourceName

/-- The linked lines are the only block of the repository that declares the link's type and
name. -/
def OnlyBlock (repository : TerraformRepository) (link : TerraformSourceLink) : Prop :=
  ∃ blocks block, repository.blocks = .ok blocks ∧
    (blocks.filter fun block => block.declares link.resourceType link.resourceName) = [block] ∧
    block.sourcePath = link.sourcePath ∧ block.startLine = link.startLine ∧
    block.endLine = link.endLine

variable (P provider resourceUid repository stateDocument resourceTypes) in
/-- What the linker returns is coherent. -/
structure CoherentLink : Prop where
  /-- A link with an address is the only block of the resource that the address names. -/
  addressed : ∀ link, linkTerraformResource P provider resourceUid repository stateDocument
    resourceTypes = .ok link → link.resourceAddress ≠ "" →
      AddressNames P stateDocument link ∧ OnlyBlock repository link
  /-- Where the repository does not declare the owner there is no link. -/
  owned : ∀ state owner blocks,
    checkLinkArguments provider resourceUid repository stateDocument resourceTypes = .ok state →
    suppliedOwner P provider resourceUid resourceTypes state = .ok (some owner) →
    repository.blocks = .ok blocks →
    (∀ block ∈ blocks, block.declares owner.resourceType owner.resourceName = false) →
    ∀ link, linkTerraformResource P provider resourceUid repository stateDocument
      resourceTypes ≠ .ok link

variable (P provider resourceUid repository stateDocument resourceTypes) in
/-- A block declares the owner, or no block matches literally with more confidence than every
other. -/
def OwnerDeclared : Prop :=
  ∀ state owner blocks,
    checkLinkArguments provider resourceUid repository stateDocument resourceTypes = .ok state →
    suppliedOwner P provider resourceUid resourceTypes state = .ok (some owner) →
    repository.blocks = .ok blocks →
    (∃ block ∈ blocks, block.declares owner.resourceType owner.resourceName = true) ∨
    ¬∃ winner, SoleMaximum (fun candidate => candidate.2.2)
      (literalCandidates P provider resourceUid resourceTypes blocks) winner

/-- The state that was supplied is the document. -/
theorem checkLinkArguments_document {document : Document}
    (hstate : checkLinkArguments provider resourceUid repository stateDocument resourceTypes =
      .ok (some document)) : stateDocument = .obj document := by
  obtain ⟨_, _, hstate⟩ := except_bind_eq_ok.mp hstate
  obtain ⟨_, _, hstate⟩ := except_bind_eq_ok.mp hstate
  obtain ⟨state, hsupplied, hstate⟩ := except_bind_eq_ok.mp hstate
  obtain ⟨_, _, hstate⟩ := except_bind_eq_ok.mp hstate
  cases Except.ok.inj hstate
  unfold suppliedState at hsupplied
  split at hsupplied
  · cases hsupplied
  · cases hsupplied
    rfl
  · cases hsupplied

/-- A link under the address of a declared owner is the only block of that owner. -/
theorem declared_coherent {state : Option Document} {owner : StateOwner}
    {blocks : List TerraformBlock} {winner : Candidate} {link : TerraformSourceLink}
    (hstate : checkLinkArguments provider resourceUid repository stateDocument resourceTypes =
      .ok state)
    (howner : suppliedOwner P provider resourceUid resourceTypes state = .ok (some owner))
    (hblocks : repository.blocks = .ok blocks)
    (hwinner : SoleMaximum (fun candidate => candidate.2.2)
      (candidatesOf P provider resourceUid resourceTypes (some owner) blocks) winner)
    (hdeclared : ∃ block ∈ blocks, block.declares owner.resourceType owner.resourceName = true)
    (hpath : link.sourcePath = winner.1.sourcePath)
    (htype : link.resourceType = winner.1.resourceType)
    (hname : link.resourceName = winner.1.resourceName)
    (hstart : link.startLine = winner.1.startLine) (hend : link.endLine = winner.1.endLine)
    (haddress : link.resourceAddress = owner.address) :
    AddressNames P stateDocument link ∧ OnlyBlock repository link := by
  have honly := declared_soleMaximum hwinner hdeclared
  have hmem : winner.1 ∈ blocks.filter fun block =>
      block.declares owner.resourceType owner.resourceName := by
    rw [honly]
    exact List.mem_cons_self
  have hdeclares := (List.mem_filter.mp hmem).2
  simp only [TerraformBlock.declares, Bool.and_eq_true, decide_eq_true_eq] at hdeclares
  rw [← htype, ← hname] at hdeclares
  constructor
  · cases state with
    | none => cases howner
    | some document =>
      obtain ⟨found, hfound, resource, hmem, haddr, htypes, hnames⟩ := stateOwner_mem howner
      exact ⟨document, found, checkLinkArguments_document hstate, hfound, resource, hmem,
        haddr.trans haddress.symm, htypes.trans hdeclares.1.symm,
        hnames.trans hdeclares.2.symm⟩
  · refine ⟨blocks, winner.1, hblocks, ?_, hpath.symm, hstart.symm, hend.symm⟩
    rw [hdeclares.1, hdeclares.2]
    exact honly

/-- The linker is coherent exactly where the owner is declared or nothing matches literally. -/
theorem coherentLink_iff (P : Platform) (provider resourceUid : String)
    (repository : TerraformRepository) (stateDocument : Json) (resourceTypes : List String) :
    CoherentLink P provider resourceUid repository stateDocument resourceTypes ↔
      OwnerDeclared P provider resourceUid repository stateDocument resourceTypes := by
  constructor
  · intro h state owner blocks hstate howner hblocks
    by_contra hcontra
    push Not at hcontra
    obtain ⟨hnone, winner, hwinner⟩ := hcontra
    have hundeclared : ∀ block ∈ blocks,
        block.declares owner.resourceType owner.resourceName = false := by
      simpa using hnone
    rw [← candidatesOf_undeclared hundeclared] at hwinner
    obtain ⟨link, hlink⟩ := linkTerraformResource_of_soleMaximum hstate howner hblocks hwinner
    exact h.owned state owner blocks hstate howner hblocks hundeclared link hlink
  · intro h
    constructor
    · intro link hlink haddress
      obtain ⟨state, owner, blocks, winner, hstate, howner, hblocks, hwinner, hpath, htype, hname,
        hstart, hend, haddr⟩ := linkTerraformResource_ok hlink
      cases owner with
      | none => exact absurd haddr haddress
      | some owner =>
        rcases h state owner blocks hstate howner hblocks with hdeclared | hmatch
        · exact declared_coherent hstate howner hblocks hwinner hdeclared hpath htype hname
            hstart hend haddr
        · by_cases hdeclared :
              ∃ block ∈ blocks, block.declares owner.resourceType owner.resourceName = true
          · exact declared_coherent hstate howner hblocks hwinner hdeclared hpath htype hname
              hstart hend haddr
          · rw [candidatesOf_undeclared (by simpa using hdeclared)] at hwinner
            exact absurd ⟨winner, hwinner⟩ hmatch
    · intro state owner blocks hstate howner hblocks hundeclared link hlink
      rcases h state owner blocks hstate howner hblocks with ⟨block, hmem, hdeclared⟩ | hmatch
      · rw [hundeclared block hmem] at hdeclared
        cases hdeclared
      · obtain ⟨state', owner', blocks', winner, hstate', howner', hblocks', hwinner, _⟩ :=
          linkTerraformResource_ok hlink
        cases hstate.symm.trans hstate'
        cases howner.symm.trans howner'
        cases hblocks.symm.trans hblocks'
        rw [candidatesOf_undeclared hundeclared] at hwinner
        exact hmatch ⟨winner, hwinner⟩

end linking

section samples

/-- A repository that declares a bucket under the name `copy`. -/
def copyRepository : TerraformRepository where
  root := "/repository"
  isDirectory := true
  files := [⟨"main.tf", .text
    "resource \"aws_s3_bucket\" \"copy\" \x7b\n  bucket = \"logs\"\n\x7d\n"⟩]
  distinct := by simp

/-- A raw state in which the bucket belongs to the resource `logs`. -/
def logsState : Document :=
  [("resources", .arr [.obj [("mode", .str "managed"), ("type", .str "aws_s3_bucket"),
    ("name", .str "logs"),
    ("instances", .arr [.obj [("attributes", .obj [("id", .str "logs")])]])]])]

/-- A block of another name is linked under the owner's address. -/
theorem other_block_linked : ¬∀ (P : Platform) (provider resourceUid : String)
    (repository : TerraformRepository) (stateDocument : Json) (resourceTypes : List String),
    CoherentLink P provider resourceUid repository stateDocument resourceTypes := by
  intro h
  have hcoherent := h samplePlatform "aws" "arn:aws:s3:::logs" copyRepository (.obj logsState) []
  have hlinked : (linkTerraformResource samplePlatform "aws" "arn:aws:s3:::logs" copyRepository
      (.obj logsState) []).toOption.any fun link => link.resourceAddress = "aws_s3_bucket.logs" &&
        link.resourceName = "copy" := by
    decide +kernel
  obtain ⟨link, hlink, hnamed⟩ := exists_of_any hlinked
  simp only [Bool.and_eq_true, decide_eq_true_eq] at hnamed
  obtain ⟨⟨document, found, hdocument, hfound, resource, hmem, _, _, hname⟩, _⟩ :=
    hcoherent.addressed link hlink (by simp [hnamed.1])
  obtain rfl := Json.obj.inj hdocument
  have hnames : (stateResources samplePlatform logsState).toOption.all fun found =>
      found.all fun resource => resource.resourceName ≠ "copy" := by
    decide +kernel
  rw [hfound] at hnames
  simp only [Except.toOption, Option.all_some, List.all_eq_true, decide_eq_true_eq] at hnames
  exact hnames resource hmem (hname.trans hnamed.2)

end samples

end ElCapitan
