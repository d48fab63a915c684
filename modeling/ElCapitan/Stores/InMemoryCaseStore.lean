import ElCapitan.Stores.CaseTransactions

/-!
# The contract of case stores and its in-memory implementation

`CaseStore` is the interface that `WorkflowCoordinator` works on. `InMemoryCaseStore` keeps
the cases and their events in two dictionaries and has no index of active assets.
-/

namespace ElCapitan

open Effects

/-- A method of a store: its answer and the store after it. -/
abbrev StoreAnswer (σ α : Type) := Except PyError α × σ

/-- The interface `CaseStore` over the contents `σ` of a store. -/
structure CaseStoreOf (σ : Type) where
  /-- The store before any call. -/
  empty : σ
  create : σ → RemediationCase → StoreAnswer σ Unit
  get : σ → String → Except PyError RemediationCase
  append : σ → RemediationCase → CaseEvent → (expectedVersion : ℕ) → StoreAnswer σ Unit
  events : σ → String → Except PyError (List CaseEvent)
  findActiveByAsset : σ → (tenantId assetId : String) → Option RemediationCase
  listCases : σ → (tenantId : Option String) → List RemediationCase

/-- The answer of a statement. -/
def answerOf {α : Type} : EStateM.Result PyError SqliteCaseTables α →
    StoreAnswer SqliteCaseTables α
  | .ok a tables => (.ok a, tables)
  | .error e tables => (.error e, tables)

/-- The order of a pair of texts. -/
def pairLe (a b : String × String) : Bool := if a.1 = b.1 then a.2 ≤ b.2 else a.1 ≤ b.1

/-- The cases of a tenant, or all cases, in an order. -/
def selectCases (cases : List RemediationCase) (tenantId : Option String)
    (order : RemediationCase → String × String) : List RemediationCase :=
  (cases.filter fun case => tenantId.all fun tenantId => case.tenantId = tenantId).insertionSort
    fun a b => pairLe (order a) (order b) = true

/-- `SqliteCaseStore`. -/
def sqliteCaseStore : CaseStoreOf SqliteCaseTables where
  empty := {}
  create tables case := answerOf (SqliteCaseStore.create case tables)
  get tables := tables.get
  append tables case event expectedVersion :=
    answerOf (SqliteCaseStore.append case event expectedVersion tables)
  events tables caseId := do
    let _ ← tables.get caseId
    return tables.eventsOf caseId
  findActiveByAsset tables := tables.findActiveByAsset
  listCases tables tenantId := selectCases tables.cases tenantId fun case =>
    (case.tenantId, case.caseId)

/-- The dictionaries of `InMemoryCaseStore`. -/
structure InMemoryCases where
  /-- `_cases`. -/
  cases : List RemediationCase := []
  /-- `_events`. -/
  events : List (String × List CaseEvent) := []

namespace InMemoryCaseStore

variable (memory : InMemoryCases)

/-- `InMemoryCaseStore.get`. -/
def get (caseId : String) : Except PyError RemediationCase :=
  match Rows.find RemediationCase.caseId memory.cases caseId with
  | some case => .ok case
  | none => .error ⟨.caseNotFound, caseId⟩

/-- The live cases of the tenant of a case that share an asset with it. -/
def conflicts (case : RemediationCase) : List String :=
  (memory.cases.filter fun existing => existing.tenantId = case.tenantId ∧
    existing.terminal = false ∧ ∃ assetId ∈ existing.assetIds, assetId ∈ case.assetIds).map
    RemediationCase.caseId

/-- `InMemoryCaseStore.create`. -/
def create (case : RemediationCase) : StoreAnswer InMemoryCases Unit :=
  if Rows.find RemediationCase.caseId memory.cases case.caseId ≠ none then
    (.error ⟨.concurrentCaseUpdate, "case " ++ case.caseId ++ " already exists"⟩, memory)
  else if conflicts memory case ≠ [] then
    (.error ⟨.concurrentCaseUpdate,
      "tenant " ++ case.tenantId ++ " already has an active case for this asset: " ++
        ", ".intercalate ((conflicts memory case).insertionSort (· ≤ ·))⟩, memory)
  else
    (.ok (), { memory with
      cases := memory.cases ++ [case]
      events := memory.events ++ [(case.caseId, [])] })

/-- `_events[case_id]`. -/
def log (caseId : String) : Except PyError (List CaseEvent) :=
  match Rows.find Prod.fst memory.events caseId with
  | some entry => .ok entry.2
  | none => .error (keyError caseId)

/-- `InMemoryCaseStore.append`. -/
def append (case : RemediationCase) (event : CaseEvent) (expectedVersion : ℕ) :
    StoreAnswer InMemoryCases Unit :=
  match get memory case.caseId with
  | .error e => (.error e, memory)
  | .ok current =>
    if current.version ≠ expectedVersion then
      (.error (SqliteCaseStore.staleVersion case.caseId current.version expectedVersion), memory)
    else if event.sequence ≠ expectedVersion + 1 ∨ case.version ≠ event.sequence then
      (.error (valueError "event and projection versions are not contiguous"), memory)
    else
      match log memory case.caseId with
      | .error e => (.error e, memory)
      | .ok events => (.ok (), {
          cases := Rows.replace RemediationCase.caseId memory.cases case
          events := Rows.replace Prod.fst memory.events (case.caseId, events ++ [event]) })

/-- `InMemoryCaseStore.events`. -/
def events (caseId : String) : Except PyError (List CaseEvent) := do
  let _ ← get memory caseId
  log memory caseId

/-- `max(matches, key=lambda case: (case.updated_at, case.case_id))`; the first of equal ones. -/
def latest : List RemediationCase → Option RemediationCase
  | [] => none
  | case :: rest => some (rest.foldl (fun best case =>
      if pairLe (case.updatedAt, case.caseId) (best.updatedAt, best.caseId) then best else case)
      case)

/-- `InMemoryCaseStore.find_active_by_asset`. -/
def findActiveByAsset (tenantId assetId : String) : Option RemediationCase :=
  latest (memory.cases.filter fun case =>
    case.tenantId = tenantId ∧ assetId ∈ case.assetIds ∧ case.terminal = false)

end InMemoryCaseStore

/-- `InMemoryCaseStore`. -/
def inMemoryCaseStore : CaseStoreOf InMemoryCases where
  empty := {}
  create := InMemoryCaseStore.create
  get := InMemoryCaseStore.get
  append := InMemoryCaseStore.append
  events := InMemoryCaseStore.events
  findActiveByAsset := InMemoryCaseStore.findActiveByAsset
  listCases memory tenantId := selectCases memory.cases tenantId fun case =>
    (case.createdAt, case.caseId)

/-- A call of a case store by workers that open cases and advance them. `advance` reads the
case in one call and appends in a later one. -/
inductive CaseCall where
  /-- `WorkflowCoordinator.open`. -/
  | open (caseId tenantId : String) (findingIds assetIds serviceIds : List String) (now : String)
  /-- The reading of `WorkflowCoordinator.advance`. -/
  | read (worker : ℕ) (caseId : String)
  /-- The rest of `WorkflowCoordinator.advance`. -/
  | append (worker : ℕ) (transition : CaseTransition) (args : TransitionArgs)
  | get (caseId : String)
  | events (caseId : String)
  | findActiveByAsset (tenantId assetId : String)
  | listCases (tenantId : Option String)

/-- What a call returns. -/
inductive CaseReply where
  | done
  | case (case : RemediationCase)
  | found (case : Option RemediationCase)
  | events (events : List CaseEvent)
  | cases (cases : List RemediationCase)

/-- A store and the case each worker is about to advance. -/
structure CaseClients (σ : Type) where
  store : σ
  reading : ℕ → Option RemediationCase := fun _ => none

namespace CaseStoreOf

variable {σ : Type} (store : CaseStoreOf σ) (w : CaseClients σ)

/-- Keep the store that a method left. -/
def keep {α : Type} (answer : StoreAnswer σ α) (reply : α → CaseReply) :
    Except PyError CaseReply × CaseClients σ :=
  (answer.1.map reply, { w with store := answer.2 })

/-- The rest of `WorkflowCoordinator.advance` on the case a worker read. -/
def advanceOn (current : RemediationCase) (transition : CaseTransition) (args : TransitionArgs) :
    Except PyError CaseReply × CaseClients σ :=
  match transitionCase current transition args with
  | .error e => (.error e, w)
  | .ok (projection, event) =>
    keep w (store.append w.store projection event current.version) fun _ => .case projection

/-- One call; a worker that has read nothing appends nothing. -/
def answer : CaseCall → Except PyError CaseReply × CaseClients σ
  | .open caseId tenantId findingIds assetIds serviceIds now =>
    match openCase caseId tenantId findingIds assetIds serviceIds now with
    | .error e => (.error e, w)
    | .ok case => keep w (store.create w.store case) fun _ => .case case
  | .read worker caseId =>
    match store.get w.store caseId with
    | .error e => (.error e, { w with reading := Function.update w.reading worker none })
    | .ok case => (.ok .done, { w with reading := Function.update w.reading worker (some case) })
  | .append worker transition args =>
    match w.reading worker with
    | none => (.ok .done, w)
    | some current => advanceOn store w current transition args
  | .get caseId => ((store.get w.store caseId).map .case, w)
  | .events caseId => ((store.events w.store caseId).map .events, w)
  | .findActiveByAsset tenantId assetId =>
    (.ok (.found (store.findActiveByAsset w.store tenantId assetId)), w)
  | .listCases tenantId => (.ok (.cases (store.listCases w.store tenantId)), w)

/-- The store and the workers after calls. -/
def after (calls : List CaseCall) : CaseClients σ :=
  calls.foldl (fun w call => (store.answer w call).2) { store := store.empty }

/-- The store after a further call is the one that the call leaves. -/
theorem after_snoc (calls : List CaseCall) (call : CaseCall) :
    store.after (calls ++ [call]) = (store.answer (store.after calls) call).2 := by
  simp [after]

end CaseStoreOf

end ElCapitan
