import ElCapitan.Services.Operations

/-!
# Coordination and evidence

`WorkflowCoordinator`, the composite methods of the stores and the writing of
evidence, as programs over the operations.
-/

namespace ElCapitan

open Effects

/-- `WorkflowCoordinator.advance`. -/
def advance (caseId : String) (transition : CaseTransition) (args : TransitionArgs) :
    Service RemediationCase := do
  let current ← perform (.advanceRead caseId transition args)
  let (projection, event) ← .ofExcept (transitionCase current transition args)
  perform (.appendCase projection event current.version)
  return projection

/-- The lookups with which `SqliteCaseStore.create` words a conflict. -/
def activeCaseOf (tenantId : String) : List String → Service (Option RemediationCase)
  | [] => return none
  | assetId :: rest => do
    let active ← perform (.findActiveByAsset tenantId assetId)
    match active with
    | some case => return some case
    | none => activeCaseOf tenantId rest

/-- `SqliteCaseStore.create`. -/
def createCase (case : RemediationCase) : Service Unit :=
  Prog.handle (perform (.insertCase case)) fun e =>
    if e.kind = .integrityError then do
      let active ← activeCaseOf case.tenantId case.assetIds
      match active with
      | some other => .raise ⟨.concurrentCaseUpdate,
          "tenant " ++ case.tenantId ++ " already has active case " ++ other.caseId ++
            " for this asset"⟩
      | none => .raise ⟨.concurrentCaseUpdate, "case " ++ case.caseId ++ " already exists"⟩
    else .raise e

/-- `WorkflowCoordinator.open`. -/
def openAndCreate (caseId tenantId : String) (findingIds assetIds serviceIds : List String)
    (now : String) : Service RemediationCase := do
  let case ← .ofExcept (openCase caseId tenantId findingIds assetIds serviceIds now)
  createCase case
  return case

/-- `SqliteCaseStore.events`. -/
def caseEvents (caseId : String) : Service (List CaseEvent) := do
  let _ ← perform (.getCase caseId)
  perform (.selectEvents caseId)

/-- `SqliteFindingStore.assign_case`. -/
def assignCase (findingId caseId : String) : Service StoredFinding := do
  perform (.assignFinding findingId caseId)
  perform (.getFinding findingId)

/-- `EVIDENCE_ID.match`. -/
def isEvidenceId (evidenceId : String) : Bool :=
  let digits := evidenceId.toList.drop 4
  let body := if digits.getLast? = some '\n' then digits.dropLast else digits
  evidenceId.toList.take 4 = ['E', 'V', 'D', '-'] ∧ 3 ≤ body.length ∧
    body.all fun c => '0'.toNat ≤ c.toNat ∧ c.toNat ≤ '9'.toNat

/-- `write_evidence`. -/
def writeEvidence (P : Platform) (runDir evidenceId kind payload : String)
    (collector : Collector) (sensitivity commandId now : String) : Service EvidenceRef := do
  .raiseIf (isEvidenceId evidenceId = false)
    (valueError ("evidence_id must match ^EVD-[0-9]\x7b3,\x7d$: '" ++ evidenceId ++ "'"))
  perform (.makeDirectory (runDir ++ "/evidence") true)
  perform (.writeNew (runDir ++ "/evidence/" ++ evidenceId ++ ".bin") payload)
  return { evidenceId, kind, artifactPath := "evidence/" ++ evidenceId ++ ".bin",
           sha256 := P.sha256Hex payload, collectedAt := now, sensitivity, commandId, collector }

/-- `tuple(dict.fromkeys(items))`: the items without later repetitions. -/
def fromKeys (items : List String) : List String :=
  items.foldl (fun kept item => if item ∈ kept then kept else kept ++ [item]) []

/-- The keys of a dictionary are its items. -/
theorem mem_fromKeys {items : List String} {item : String} :
    item ∈ fromKeys items ↔ item ∈ items := by
  have hfold : ∀ (items kept : List String),
      item ∈ items.foldl (fun kept item => if item ∈ kept then kept else kept ++ [item]) kept ↔
        item ∈ kept ∨ item ∈ items := by
    intro items
    induction items with
    | nil => simp
    | cons first items ih =>
      intro kept
      rw [List.foldl_cons, ih]
      by_cases hfirst : first ∈ kept
      · rw [if_pos hfirst, List.mem_cons]
        constructor
        · rintro (h | h)
          · exact .inl h
          · exact .inr (.inr h)
        · rintro (h | rfl | h)
          · exact .inl h
          · exact .inl hfirst
          · exact .inr h
      · simp [hfirst, or_assoc]
  simpa [fromKeys] using hfold items []

end ElCapitan
