import ElCapitan.Stores.CaseStore

/-!
# The transactions of the case store

`SqliteCaseStore.create` and `append` statement by statement. A transaction that raises is
rolled back: the rows its earlier statements wrote are gone. `CaseTables.insert` and
`CaseTables.append` are what the transactions do as a whole.
-/

namespace ElCapitan

open Effects

/-- A row of `case_assets`. -/
structure CaseAsset where
  caseId : String
  tenantId : String
  assetId : String
  deriving DecidableEq

/-- All tables of the case store. -/
structure SqliteCaseTables extends CaseTables where
  /-- `case_assets`. -/
  caseAssets : List CaseAsset := []

/-- SQL statements: they act on the tables and may raise part way. -/
abbrev Sql (α : Type) := EStateM PyError SqliteCaseTables α

/-- A statement violates a `UNIQUE` or `PRIMARY KEY` constraint. -/
def uniqueFailed : PyError := ⟨.integrityError, "UNIQUE constraint failed"⟩

/-- Commit what the statements did, or roll it back when they raise. -/
def transaction {α : Type} (body : Sql α) : Sql α := fun tables =>
  match body tables with
  | .ok a tables' => .ok a tables'
  | .error e _ => .error e tables

/-- `executemany`. -/
def executeMany {α : Type} (statement : α → Sql Unit) : List α → Sql Unit
  | [] => pure ()
  | a :: rest => do
    statement a
    executeMany statement rest

namespace SqliteCaseStore

variable (case : RemediationCase)

/-- `INSERT INTO remediation_cases`. -/
def insertCase : Sql Unit := fun tables =>
  if tables.case? case.caseId ≠ none then .error uniqueFailed tables
  else .ok () { tables with cases := tables.cases ++ [case] }

/-- The row a case has in `case_assets` for an asset. -/
def caseAsset (assetId : String) : CaseAsset := ⟨case.caseId, case.tenantId, assetId⟩

/-- `INSERT INTO case_assets`. -/
def insertCaseAsset (assetId : String) : Sql Unit := fun tables =>
  if ∃ row ∈ tables.caseAssets, row.caseId = case.caseId ∧ row.assetId = assetId then
    .error uniqueFailed tables
  else .ok () { tables with caseAssets := tables.caseAssets ++ [caseAsset case assetId] }

/-- The row a live case has in `active_case_assets` for an asset. -/
def activeAsset (assetId : String) : ActiveAsset := ⟨case.tenantId, assetId, case.caseId⟩

/-- `INSERT INTO active_case_assets`. -/
def insertActive (assetId : String) : Sql Unit := fun tables =>
  if tables.holder case.tenantId assetId ≠ none then .error uniqueFailed tables
  else .ok () { tables with active := tables.active ++ [activeAsset case assetId] }

/-- `UPDATE remediation_cases … WHERE case_id = ? AND version = ?`, with its row count. -/
def updateCase (expectedVersion : ℕ) : Sql ℕ := fun tables =>
  match tables.case? case.caseId with
  | some current =>
    if current.version = expectedVersion then
      .ok 1 { tables with cases := Rows.replace RemediationCase.caseId tables.cases case }
    else .ok 0 tables
  | none => .ok 0 tables

/-- `INSERT INTO case_events`. -/
def insertEvent (event : CaseEvent) : Sql Unit := fun tables =>
  if ∃ other ∈ tables.events, other.eventId = event.eventId ∨
      (other.caseId = event.caseId ∧ other.sequence = event.sequence) then
    .error uniqueFailed tables
  else .ok () { tables with events := tables.events ++ [event] }

/-- `DELETE FROM active_case_assets WHERE case_id = ?`. -/
def deleteActive : Sql Unit := fun tables =>
  .ok () { tables with active := tables.active.filter fun row => row.caseId ≠ case.caseId }

/-- The statements of `create`. -/
def createStatements : Sql Unit := do
  insertCase case
  executeMany (insertCaseAsset case) case.assetIds
  if case.terminal = false then executeMany (insertActive case) case.assetIds

/-- The first active case of a tenant that holds one of the assets. -/
def activeCaseOf (tables : CaseTables) (tenantId : String) (assetIds : List String) :
    Option RemediationCase :=
  assetIds.findSome? (tables.findActiveByAsset tenantId)

/-- `SqliteCaseStore.create`. -/
def create : Sql Unit := fun tables =>
  match transaction (createStatements case) tables with
  | .ok _ tables' => .ok () tables'
  | .error e tables' =>
    if e.kind = .integrityError then
      match activeCaseOf tables'.toCaseTables case.tenantId case.assetIds with
      | some active => .error ⟨.concurrentCaseUpdate,
          "tenant " ++ case.tenantId ++ " already has active case " ++ active.caseId ++
            " for this asset"⟩ tables'
      | none => .error ⟨.concurrentCaseUpdate, "case " ++ case.caseId ++ " already exists"⟩ tables'
    else .error e tables'

/-- A case was not at the version expected. -/
def staleVersion (caseId : String) (version expectedVersion : ℕ) : PyError :=
  ⟨.concurrentCaseUpdate, "case " ++ caseId ++ " is version " ++ toString version ++
    ", expected " ++ toString expectedVersion⟩

/-- The error of an update that found no row. -/
def refuseUpdate (expectedVersion : ℕ) : Sql Unit := fun tables =>
  match tables.case? case.caseId with
  | none => .error ⟨.caseNotFound, case.caseId⟩ tables
  | some current => .error (staleVersion case.caseId current.version expectedVersion) tables

/-- The statements of `append`. -/
def appendStatements (event : CaseEvent) (expectedVersion : ℕ) : Sql Unit := do
  let rowcount ← updateCase case expectedVersion
  if rowcount ≠ 1 then refuseUpdate case expectedVersion
  insertEvent event
  if case.terminal = true then deleteActive case

/-- `SqliteCaseStore.append`. -/
def append (event : CaseEvent) (expectedVersion : ℕ) : Sql Unit := fun tables =>
  if event.caseId ≠ case.caseId then
    .error (valueError "event and projection belong to different cases") tables
  else if event.sequence ≠ expectedVersion + 1 ∨ case.version ≠ event.sequence then
    .error (valueError "event and projection versions are not contiguous") tables
  else transaction (appendStatements case event expectedVersion) tables

end SqliteCaseStore

open SqliteCaseStore

section transactions

variable {α : Type} {tables tables' : SqliteCaseTables} {case : RemediationCase}

/-- A transaction that raises leaves the tables as they were. -/
theorem transaction_rollback {body : Sql α} {e : PyError}
    (h : transaction body tables = .error e tables') : tables' = tables := by
  unfold transaction at h
  split at h
  · cases h
  · cases h
    rfl

/-- Statements of which the first raises. -/
theorem executeMany_error {statement : α → Sql Unit} {a : α} {rest : List α} {e : PyError}
    (h : statement a tables = .error e tables') :
    executeMany statement (a :: rest) tables = .error e tables' := by
  simp only [executeMany, bind, EStateM.bind, h]

/-- Statements of which the first succeeds. -/
theorem executeMany_ok {statement : α → Sql Unit} {a : α} {rest : List α}
    (h : statement a tables = .ok () tables') :
    executeMany statement (a :: rest) tables = executeMany statement rest tables' := by
  simp only [executeMany, bind, EStateM.bind, h]

/-- No asset of a list has a row yet, and none occurs twice: all rows are inserted. -/
theorem executeMany_insertActive {assetIds : List String} (hnodup : assetIds.Nodup)
    (hfree : ∀ assetId ∈ assetIds, tables.holder case.tenantId assetId = none) :
    executeMany (insertActive case) assetIds tables =
      .ok () { tables with
        active := tables.active ++ assetIds.map (activeAsset case) } := by
  induction assetIds generalizing tables with
  | nil => simp [executeMany, pure, EStateM.pure]
  | cons assetId assetIds ih =>
    obtain ⟨hfresh, hrest⟩ := List.nodup_cons.mp hnodup
    have hfirst : tables.holder case.tenantId assetId = none := hfree _ List.mem_cons_self
    have hinsert : insertActive case assetId tables = .ok () { tables with
        active := tables.active ++ [activeAsset case assetId] } := by
      simp [insertActive, hfirst]
    rw [executeMany_ok hinsert, ih hrest]
    · simp
    · intro other hother
      have hne : assetId ≠ other := fun heq => hfresh (heq ▸ hother)
      have hold := hfree other (List.mem_cons_of_mem _ hother)
      simp only [CaseTables.holder, Option.map_eq_none_iff] at hold ⊢
      rw [List.find?_append, hold]
      simp [activeAsset, hne]

/-- An asset of a list has a row already: a statement raises. -/
theorem executeMany_insertActive_error {assetIds : List String}
    (hheld : ∃ assetId ∈ assetIds, tables.holder case.tenantId assetId ≠ none) :
    ∃ tables', executeMany (insertActive case) assetIds tables = .error uniqueFailed tables' := by
  induction assetIds generalizing tables with
  | nil =>
    obtain ⟨_, h, -⟩ := hheld
    cases h
  | cons assetId assetIds ih =>
    by_cases hfirst : tables.holder case.tenantId assetId = none
    · have hinsert : insertActive case assetId tables = .ok () { tables with
          active := tables.active ++ [activeAsset case assetId] } := by
        simp [insertActive, hfirst]
      rw [executeMany_ok hinsert]
      refine ih ?_
      obtain ⟨other, hother, hne⟩ := hheld
      rcases List.mem_cons.mp hother with rfl | hother
      · exact absurd hfirst hne
      · refine ⟨other, hother, fun hnone => hne ?_⟩
        simp only [CaseTables.holder, Option.map_eq_none_iff] at hnone ⊢
        rw [List.find?_append, Option.or_eq_none_iff] at hnone
        exact hnone.1
    · exact ⟨_, executeMany_error (if_pos hfirst)⟩

/-- The assets of a case without rows in `case_assets` are inserted when none occurs twice. -/
theorem executeMany_insertCaseAsset {assetIds : List String} (hnodup : assetIds.Nodup)
    (hfree : ∀ row ∈ tables.caseAssets, row.caseId = case.caseId → row.assetId ∉ assetIds) :
    executeMany (insertCaseAsset case) assetIds tables =
      .ok () { tables with caseAssets := tables.caseAssets ++ assetIds.map (caseAsset case) } := by
  induction assetIds generalizing tables with
  | nil => simp [executeMany, pure, EStateM.pure]
  | cons assetId assetIds ih =>
    obtain ⟨hfresh, hrest⟩ := List.nodup_cons.mp hnodup
    have hfirst : ¬∃ row ∈ tables.caseAssets, row.caseId = case.caseId ∧ row.assetId = assetId := by
      rintro ⟨row, hrow, hcase, rfl⟩
      exact hfree row hrow hcase List.mem_cons_self
    have hinsert : insertCaseAsset case assetId tables = .ok () { tables with
        caseAssets := tables.caseAssets ++ [caseAsset case assetId] } := by
      unfold insertCaseAsset
      rw [if_neg hfirst]
    rw [executeMany_ok hinsert, ih hrest]
    · simp
    · intro row hrow hcase
      rcases List.mem_append.mp hrow with hrow | hrow
      · exact fun hmem => hfree row hrow hcase (List.mem_cons_of_mem _ hmem)
      · obtain rfl := List.mem_singleton.mp hrow
        exact hfresh

/-- An asset id that occurs twice makes a statement raise. -/
theorem executeMany_insertCaseAsset_error {assetIds : List String} (hdup : ¬assetIds.Nodup) :
    ∃ tables', executeMany (insertCaseAsset case) assetIds tables =
      .error uniqueFailed tables' := by
  have hheld : ∀ (assetIds : List String) (tables : SqliteCaseTables),
      (∃ row ∈ tables.caseAssets, row.caseId = case.caseId ∧ row.assetId ∈ assetIds) →
      ∃ tables', executeMany (insertCaseAsset case) assetIds tables =
        .error uniqueFailed tables' := by
    intro assetIds
    induction assetIds with
    | nil => simp
    | cons assetId assetIds ih =>
      intro tables hrow
      by_cases hfirst : ∃ row ∈ tables.caseAssets, row.caseId = case.caseId ∧ row.assetId = assetId
      · exact ⟨_, executeMany_error (if_pos hfirst)⟩
      · have hinsert : insertCaseAsset case assetId tables = .ok () { tables with
            caseAssets := tables.caseAssets ++ [caseAsset case assetId] } := by
          unfold insertCaseAsset
          rw [if_neg hfirst]
        rw [executeMany_ok hinsert]
        obtain ⟨row, hmem, hcase, hasset⟩ := hrow
        refine ih _ ⟨row, List.mem_append_left _ hmem, hcase, ?_⟩
        rcases List.mem_cons.mp hasset with heq | hasset
        · exact absurd ⟨row, hmem, hcase, heq⟩ hfirst
        · exact hasset
  induction assetIds generalizing tables with
  | nil => exact absurd List.nodup_nil hdup
  | cons assetId assetIds ih =>
    by_cases hfirst : ∃ row ∈ tables.caseAssets, row.caseId = case.caseId ∧ row.assetId = assetId
    · exact ⟨_, executeMany_error (if_pos hfirst)⟩
    · have hinsert : insertCaseAsset case assetId tables = .ok () { tables with
          caseAssets := tables.caseAssets ++ [caseAsset case assetId] } := by
        unfold insertCaseAsset
        rw [if_neg hfirst]
      rw [executeMany_ok hinsert]
      by_cases hmem : assetId ∈ assetIds
      · refine hheld _ _ ⟨caseAsset case assetId, ?_, rfl, hmem⟩
        simp
      · exact ih fun hnodup => hdup (List.nodup_cons.mpr ⟨hmem, hnodup⟩)

/-- Every row of `case_assets` is about a case, as its foreign key asks. -/
def AssetsOwned (tables : SqliteCaseTables) : Prop :=
  ∀ row ∈ tables.caseAssets, tables.case? row.caseId ≠ none

/-- A transaction whose statements raise. -/
theorem transaction_error {body : Sql α} {e : PyError}
    (h : ∃ tables', body tables = .error e tables') :
    transaction body tables = .error e tables := by
  obtain ⟨tables', h⟩ := h
  simp only [transaction, h]

/-- A transaction commits what its body did. -/
theorem transaction_ok {body : Sql α} {a : α} (h : body tables = .ok a tables') :
    transaction body tables = .ok a tables' := by
  simp only [transaction, h]

/-- As a whole, the statements of `create` are `CaseTables.insert`. -/
theorem transaction_create (howned : AssetsOwned tables) :
    transaction (createStatements case) tables =
      match tables.toCaseTables.insert case with
      | .ok inserted => .ok () { toCaseTables := inserted, caseAssets :=
          tables.caseAssets ++ case.assetIds.map (caseAsset case) }
      | .error e => .error e tables := by
  unfold CaseTables.insert
  by_cases hnew : tables.case? case.caseId = none
  · have hrow : insertCase case tables =
        .ok () { tables with cases := tables.cases ++ [case] } := by
      simp [insertCase, hnew]
    by_cases hnodup : case.assetIds.Nodup
    · have hassets := @executeMany_insertCaseAsset
        { tables with cases := tables.cases ++ [case] } case case.assetIds hnodup (by
          intro row hrow heq
          exact absurd (heq ▸ hnew) (howned row hrow))
      by_cases hlive : case.terminal = false
      · by_cases hfree : ∀ assetId ∈ case.assetIds, tables.holder case.tenantId assetId = none
        · have hactive := @executeMany_insertActive { tables with
              cases := tables.cases ++ [case]
              caseAssets := tables.caseAssets ++ case.assetIds.map (caseAsset case) } case
            case.assetIds hnodup hfree
          rw [if_neg (by simpa [hnew, hnodup, hlive] using hfree)]
          refine transaction_ok ?_
          simp only [createStatements, bind, EStateM.bind, hrow, hassets, hlive, if_true]
          rw [hactive]
          rfl
        · obtain ⟨tables', hactive⟩ := @executeMany_insertActive_error { tables with
              cases := tables.cases ++ [case]
              caseAssets := tables.caseAssets ++ case.assetIds.map (caseAsset case) } case
            case.assetIds (by simpa [CaseTables.holder] using hfree)
          rw [if_pos (by simpa [hnew, hnodup, hlive] using hfree)]
          refine transaction_error ⟨tables', ?_⟩
          simp only [createStatements, bind, EStateM.bind, hrow, hassets, hlive, if_true]
          rw [hactive]
          rfl
      · rw [if_neg (by simp [hnew, hnodup, hlive])]
        refine transaction_ok ?_
        simp only [createStatements, bind, EStateM.bind, hrow, hassets, hlive]
        simp [pure, EStateM.pure]
    · obtain ⟨tables', hassets⟩ := @executeMany_insertCaseAsset_error
        { tables with cases := tables.cases ++ [case] } case case.assetIds hnodup
      rw [if_pos (by simp [hnodup])]
      refine transaction_error ⟨tables', ?_⟩
      simp only [createStatements, bind, EStateM.bind, hrow, hassets]
      rfl
  · have hrow : insertCase case tables = .error uniqueFailed tables := if_pos hnew
    rw [if_pos (.inl hnew)]
    refine transaction_error ⟨tables, ?_⟩
    simp only [createStatements, bind, EStateM.bind, hrow]
    rfl

/-- As a whole, `append` is `CaseTables.append`. -/
theorem append_eq {event : CaseEvent} {v : ℕ} :
    SqliteCaseStore.append case event v tables =
      match tables.toCaseTables.append case event v with
      | .ok appended => .ok () { toCaseTables := appended, caseAssets := tables.caseAssets }
      | .error e => .error e tables := by
  unfold SqliteCaseStore.append CaseTables.append
  split
  · rfl
  · split
    · rfl
    · cases hcurrent : tables.case? case.caseId with
      | none =>
        refine transaction_error ⟨tables, ?_⟩
        simp [appendStatements, bind, EStateM.bind, updateCase, hcurrent, refuseUpdate]
      | some current =>
        dsimp only
        by_cases hversion : current.version = v
        · rw [if_neg (not_not.mpr hversion)]
          by_cases hused : ∃ other ∈ tables.events, other.eventId = event.eventId ∨
              (other.caseId = event.caseId ∧ other.sequence = event.sequence)
          · rw [if_pos hused]
            refine transaction_error ⟨{ tables with
              cases := Rows.replace RemediationCase.caseId tables.cases case }, ?_⟩
            simp [appendStatements, bind, EStateM.bind, pure, updateCase, hcurrent, hversion,
              insertEvent, hused, uniqueFailed]
          · rw [if_neg hused]
            refine transaction_ok ?_
            cases hterminal : case.terminal <;>
              simp [appendStatements, bind, EStateM.bind, pure, EStateM.pure, updateCase, hcurrent,
                hversion, insertEvent, hused, hterminal, deleteActive]
        · rw [if_pos hversion]
          refine transaction_error ⟨tables, ?_⟩
          simp [appendStatements, bind, EStateM.bind, updateCase, hcurrent, hversion, refuseUpdate,
            staleVersion]

end transactions

end ElCapitan
