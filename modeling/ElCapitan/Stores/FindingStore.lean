import ElCapitan.Findings.Priority
import ElCapitan.Effects.Rows
import Mathlib.Data.List.Sort

/-!
# The finding store

The table of `SqliteFindingStore` and its transactions. A finding is stored once
for its source identity and is assigned to at most one case.
-/

namespace ElCapitan

open Effects

/-- `StoredFinding`. -/
structure StoredFinding where
  tenantId : String
  findingId : String
  provider : String
  account : String
  originalUid : String
  resourceUid : String
  record : Document
  prioritySignals : PrioritySignals
  artifactNamespace : String
  caseId : Option String := none

/-- The identity of a finding at its producer. -/
structure SourceKey where
  tenantId : String
  provider : String
  account : String
  originalUid : String
  deriving DecidableEq

/-- The source identity of a stored finding. -/
def StoredFinding.source (finding : StoredFinding) : SourceKey :=
  ⟨finding.tenantId, finding.provider, finding.account, finding.originalUid⟩

/-- The rows of `finding_records`. -/
abbrev FindingTable := List StoredFinding

namespace FindingTable

variable (findings : FindingTable)

/-- `SqliteFindingStore.put`. -/
def put (finding : StoredFinding) : Except PyError FindingTable :=
  if Rows.find StoredFinding.findingId findings finding.findingId ≠ none ∨
      Rows.find StoredFinding.source findings finding.source ≠ none then
    .error ⟨.duplicateFinding, "finding " ++ finding.originalUid ++ " was already ingested"⟩
  else .ok (findings ++ [finding])

/-- `SqliteFindingStore.get`. -/
def get (findingId : String) : Except PyError StoredFinding :=
  match Rows.find StoredFinding.findingId findings findingId with
  | some finding => .ok finding
  | none => .error ⟨.findingNotFound, findingId⟩

/-- `SqliteFindingStore.get_by_source`. -/
def getBySource (source : SourceKey) : Option StoredFinding :=
  Rows.find StoredFinding.source findings source

/-- The transaction of `SqliteFindingStore.assign_case`. -/
def assign (findingId caseId : String) : Except PyError FindingTable :=
  match Rows.find StoredFinding.findingId findings findingId with
  | none => .error ⟨.findingNotFound, findingId⟩
  | some finding =>
    match finding.caseId with
    | none => .ok (Rows.replace StoredFinding.findingId findings
        { finding with caseId := some caseId })
    | some held =>
      if held = caseId then .ok findings
      else .error ⟨.duplicateFinding,
        "finding " ++ findingId ++ " is already assigned to case " ++ held⟩

/-- `SqliteFindingStore.list_for_case`. -/
def listForCase (caseId : String) : List StoredFinding :=
  (findings.filter fun finding => finding.caseId = some caseId).insertionSort
    fun a b => a.findingId ≤ b.findingId

variable {findings} {findings' : FindingTable} {finding : StoredFinding}
  {findingId caseId : String}

/-- The findings of a case are those assigned to it. -/
theorem mem_listForCase : finding ∈ listForCase findings caseId ↔
    finding ∈ findings ∧ finding.caseId = some caseId := by
  unfold listForCase
  rw [List.mem_insertionSort, List.mem_filter, decide_eq_true_eq]

/-- Everything an accepted put does. -/
theorem put_eq_ok (h : put findings finding = .ok findings') :
    findings' = findings ++ [finding] ∧
      (∀ other ∈ findings, other.findingId ≠ finding.findingId) ∧
      (∀ other ∈ findings, other.source ≠ finding.source) := by
  unfold put at h
  split at h
  · cases h
  · rename_i hfree
    cases h
    simp only [not_or, not_not] at hfree
    exact ⟨rfl, Rows.find_eq_none.mp hfree.1, Rows.find_eq_none.mp hfree.2⟩

/-- Everything an accepted assignment does. -/
theorem assign_eq_ok (h : assign findings findingId caseId = .ok findings') :
    ∃ finding, Rows.find StoredFinding.findingId findings findingId = some finding ∧
      (finding.caseId = none ∨ finding.caseId = some caseId) ∧
      findings' = if finding.caseId = none then
          Rows.replace StoredFinding.findingId findings { finding with caseId := some caseId }
        else findings := by
  unfold assign at h
  split at h
  · cases h
  · rename_i finding hfound
    refine ⟨finding, hfound, ?_⟩
    split at h
    · rename_i hnone
      cases h
      exact ⟨.inl hnone, by rw [if_pos hnone]⟩
    · rename_i held hheld
      split at h
      · rename_i heq
        cases h
        exact ⟨.inr (heq ▸ hheld), by rw [if_neg (by simp [hheld])]⟩
      · cases h

end FindingTable

end ElCapitan
