import ElCapitan.Cases.Step
import ElCapitan.Effects.Rows
import Mathlib.Data.List.Sort

/-!
# The case store

The tables of `SqliteCaseStore` and its transactions. A transaction either
raises and leaves the tables as they were, or returns the new tables.
-/

namespace ElCapitan

open Effects

/-- A row of `active_case_assets`. -/
structure ActiveAsset where
  tenantId : String
  assetId : String
  caseId : String
  deriving DecidableEq

/-- The tables of the case store. -/
structure CaseTables where
  /-- The projections in `remediation_cases`. -/
  cases : List RemediationCase := []
  /-- `active_case_assets`. -/
  active : List ActiveAsset := []
  /-- `case_events`. -/
  events : List CaseEvent := []

namespace CaseTables

variable (tables : CaseTables)

/-- The projection of a case. -/
def case? (caseId : String) : Option RemediationCase :=
  Rows.find RemediationCase.caseId tables.cases caseId

/-- `SqliteCaseStore.get`. -/
def get (caseId : String) : Except PyError RemediationCase :=
  match tables.case? caseId with
  | some case => .ok case
  | none => .error ⟨.caseNotFound, caseId⟩

/-- The case that holds an asset. -/
def holder (tenantId assetId : String) : Option String :=
  (tables.active.find? fun row => row.tenantId = tenantId ∧ row.assetId = assetId).map
    ActiveAsset.caseId

/-- `SqliteCaseStore.find_active_by_asset`. -/
def findActiveByAsset (tenantId assetId : String) : Option RemediationCase :=
  (tables.holder tenantId assetId).bind tables.case?

/-- The rows a live case has in `active_case_assets`. -/
def activeRows (case : RemediationCase) : List ActiveAsset :=
  case.assetIds.map fun assetId => ⟨case.tenantId, assetId, case.caseId⟩

/-- The transaction of `SqliteCaseStore.create`; its uniqueness constraints are on
the case id, on the assets of the case and on the active assets of the tenant. -/
def insert (case : RemediationCase) : Except PyError CaseTables :=
  if tables.case? case.caseId ≠ none ∨ ¬case.assetIds.Nodup ∨
      (case.terminal = false ∧
        ∃ assetId ∈ case.assetIds, tables.holder case.tenantId assetId ≠ none) then
    .error ⟨.integrityError, "UNIQUE constraint failed"⟩
  else
    .ok { tables with
      cases := tables.cases ++ [case]
      active := if case.terminal then tables.active else tables.active ++ activeRows case }

/-- `SqliteCaseStore.append`. -/
def append (case : RemediationCase) (event : CaseEvent) (expectedVersion : ℕ) :
    Except PyError CaseTables :=
  if event.caseId ≠ case.caseId then
    .error (valueError "event and projection belong to different cases")
  else if event.sequence ≠ expectedVersion + 1 ∨ case.version ≠ event.sequence then
    .error (valueError "event and projection versions are not contiguous")
  else
    match tables.case? case.caseId with
    | none => .error ⟨.caseNotFound, case.caseId⟩
    | some current =>
      if current.version ≠ expectedVersion then
        .error ⟨.concurrentCaseUpdate, "case " ++ case.caseId ++ " is version " ++
          toString current.version ++ ", expected " ++ toString expectedVersion⟩
      else if ∃ other ∈ tables.events, other.eventId = event.eventId ∨
          (other.caseId = event.caseId ∧ other.sequence = event.sequence) then
        .error ⟨.integrityError, "UNIQUE constraint failed"⟩
      else
        .ok {
          cases := Rows.replace RemediationCase.caseId tables.cases case
          active :=
            if case.terminal then tables.active.filter fun row => row.caseId ≠ case.caseId
            else tables.active
          events := tables.events ++ [event] }

/-- The events of a case, as `SqliteCaseStore.events` selects them. -/
def eventsOf (caseId : String) : List CaseEvent :=
  (tables.events.filter fun event => event.caseId = caseId).insertionSort
    fun a b => a.sequence ≤ b.sequence

variable {tables} {tables' : CaseTables} {case : RemediationCase} {event : CaseEvent} {v : ℕ}

/-- A case is read where it is found. -/
theorem get_eq_ok {caseId : String} :
    tables.get caseId = .ok case ↔ tables.case? caseId = some case := by
  unfold get
  cases tables.case? caseId <;> simp

/-- A case that is found has the id. -/
theorem case?_caseId {caseId : String} (h : tables.case? caseId = some case) :
    case.caseId = caseId := Rows.key_of_find h

/-- The live case of an asset is found by its id. -/
theorem case?_of_findActiveByAsset {tenantId assetId : String}
    (h : tables.findActiveByAsset tenantId assetId = some case) :
    tables.case? case.caseId = some case := by
  obtain ⟨caseId, -, hcase⟩ := Option.bind_eq_some_iff.mp h
  rwa [case?_caseId hcase]

/-- Everything an accepted insertion does. -/
theorem insert_eq_ok (h : tables.insert case = .ok tables') :
    tables.case? case.caseId = none ∧ tables'.cases = tables.cases ++ [case] ∧
      tables'.events = tables.events ∧
      (case.terminal = false → tables'.active = tables.active ++ activeRows case ∧
        ∀ assetId ∈ case.assetIds, tables.holder case.tenantId assetId = none) := by
  unfold insert at h
  split at h
  · cases h
  · rename_i hfree
    cases h
    simp only [not_or, not_and, not_exists, not_not] at hfree
    refine ⟨hfree.1, rfl, rfl, fun hlive => ⟨by simp [hlive], fun assetId hmem => ?_⟩⟩
    exact hfree.2.2 hlive assetId hmem

/-- Everything an accepted append does. -/
theorem append_eq_ok (h : tables.append case event v = .ok tables') :
    event.caseId = case.caseId ∧ event.sequence = v + 1 ∧ case.version = v + 1 ∧
      (∃ current, tables.case? case.caseId = some current ∧ current.version = v) ∧
      tables'.cases = Rows.replace RemediationCase.caseId tables.cases case ∧
      tables'.events = tables.events ++ [event] ∧
      tables'.active = if case.terminal then tables.active.filter fun row =>
        row.caseId ≠ case.caseId else tables.active := by
  unfold append at h
  split at h
  · cases h
  · rename_i hid
    split at h
    · cases h
    · rename_i hversion
      split at h
      · cases h
      · rename_i current hcurrent
        split at h
        · cases h
        · rename_i hcas
          split at h
          · cases h
          · cases h
            have hid' := not_not.mp hid
            have hcas' := not_not.mp hcas
            obtain ⟨hsequence, hcase⟩ := not_or.mp hversion
            refine ⟨hid', by omega, by omega, ⟨current, hcurrent, hcas'⟩, rfl, rfl, rfl⟩

/-- After an append the case is the new projection. -/
theorem case?_append_self (h : tables.append case event v = .ok tables') :
    tables'.case? case.caseId = some case := by
  obtain ⟨-, -, -, ⟨current, hcurrent, -⟩, hcases, -, -⟩ := append_eq_ok h
  unfold case? at hcurrent ⊢
  rw [hcases]
  exact Rows.find_replace_self (by rw [hcurrent]; exact Option.some_ne_none _)

/-- An append changes no other case. -/
theorem case?_append_other (h : tables.append case event v = .ok tables') {caseId : String}
    (hne : case.caseId ≠ caseId) : tables'.case? caseId = tables.case? caseId := by
  obtain ⟨-, -, -, -, hcases, -, -⟩ := append_eq_ok h
  unfold case?
  rw [hcases]
  exact Rows.find_replace_other hne

/-- An inserted case is found. -/
theorem case?_insert_self (h : tables.insert case = .ok tables') :
    tables'.case? case.caseId = some case := by
  obtain ⟨hnone, hcases, -, -⟩ := insert_eq_ok h
  unfold case? at hnone ⊢
  rw [hcases]
  exact Rows.find_insert_self hnone

/-- Inserting a case leaves the others alone. -/
theorem case?_insert_other (h : tables.insert case = .ok tables') {caseId : String}
    (hne : case.caseId ≠ caseId) : tables'.case? caseId = tables.case? caseId := by
  obtain ⟨-, hcases, -, -⟩ := insert_eq_ok h
  unfold case?
  rw [hcases]
  exact Rows.find_insert_other hne

end CaseTables

end ElCapitan
