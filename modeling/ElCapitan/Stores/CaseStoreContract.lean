import ElCapitan.Stores.Projection

/-!
# The two case stores answer alike

`InMemoryCaseStore` simulates `SqliteCaseStore`: after the same calls both hold the same
cases and events. Along the run the cases that workers have read stay earlier versions of
the stored ones, so a projection is appended only to the case it was computed from.
-/

namespace ElCapitan

open Effects

/-- The event id a call supplies. -/
def CaseCall.eventId? : CaseCall → Option String
  | .append _ _ args => some args.eventId
  | _ => none

/-- A call opens a case with distinct assets, or no case. -/
def CaseCall.AssetsDistinct : CaseCall → Prop
  | .open _ _ _ assetIds _ _ => assetIds.Nodup
  | _ => True

/-- Equal replies. A refused `open` is worded differently by the two stores, and they list
the cases in different orders. -/
def SameReply : CaseCall → Except PyError CaseReply → Except PyError CaseReply → Prop
  | .open _ _ _ _ _ _, .error e, .error e' => e.kind = e'.kind
  | .listCases _, .ok (.cases cases), .ok (.cases cases') => cases.Perm cases'
  | _, reply, reply' => reply = reply'

/-- The in-memory store holds the same cases and events. -/
structure Mirrors (tables : SqliteCaseTables) (memory : InMemoryCases) : Prop where
  cases : memory.cases = tables.cases
  keyed : (memory.events.map Prod.fst) = tables.cases.map RemediationCase.caseId
  logs : ∀ case ∈ tables.cases,
    InMemoryCaseStore.log memory case.caseId = .ok (tables.log case.caseId)

/-- A case that was read is the stored one or an earlier version of it. -/
def Fresh (tables : SqliteCaseTables) (base : RemediationCase) : Prop :=
  ∃ current, tables.case? base.caseId = some current ∧ base.version ≤ current.version ∧
    (base.version = current.version → base = current)

/-- What holds of the two stores after calls with these event ids. -/
structure Alike (used : List String) (w : CaseClients SqliteCaseTables)
    (m : CaseClients InMemoryCases) : Prop where
  projected : Projected w.store
  mirrors : Mirrors w.store m.store
  reading : m.reading = w.reading
  fresh : ∀ worker base, w.reading worker = some base → Fresh w.store base
  used : ∀ event ∈ w.store.events, event.eventId ∈ used

section steps

variable {tables : SqliteCaseTables} {memory : InMemoryCases} {case base : RemediationCase}
  {event : CaseEvent}

/-- Both stores read the same case. -/
theorem Mirrors.get_eq (h : Mirrors tables memory) (caseId : String) :
    InMemoryCaseStore.get memory caseId = tables.get caseId := by
  unfold InMemoryCaseStore.get CaseTables.get CaseTables.case?
  cases hfind : Rows.find RemediationCase.caseId tables.cases caseId <;> simp [h.cases, hfind]

/-- The stores refuse the same cases: the asset index knows the live cases of a tenant. -/
theorem conflicts_eq_nil (hproj : Projected tables) (hmirror : Mirrors tables memory) :
    InMemoryCaseStore.conflicts memory case = [] ↔
      ∀ assetId ∈ case.assetIds, tables.holder case.tenantId assetId = none := by
  unfold InMemoryCaseStore.conflicts
  rw [hmirror.cases, List.map_eq_nil_iff, List.filter_eq_nil_iff]
  constructor
  · intro hnone assetId hasset
    rw [Option.eq_none_iff_forall_ne_some]
    intro caseId hholder
    obtain ⟨other, hother, hlive, asset, hheld, heq⟩ :=
      (hproj.active _).mp (hproj.holder_eq_some.mp hholder)
    have htenant : case.tenantId = other.tenantId := congrArg ActiveAsset.tenantId heq
    obtain rfl : assetId = asset := congrArg ActiveAsset.assetId heq
    exact hnone other hother (by simpa using ⟨htenant.symm, hlive, _, hheld, hasset⟩)
  · intro hfree other hother hconflict
    simp only [decide_eq_true_eq] at hconflict
    obtain ⟨htenant, hlive, assetId, hheld, hasset⟩ := hconflict
    have hholder := hproj.holder_eq_some.mpr ((hproj.active _).mpr
      ⟨other, hother, hlive, assetId, hheld, rfl⟩)
    rw [htenant, hfree assetId hasset] at hholder
    cases hholder

/-- A new case in both stores. -/
theorem Mirrors.insert (h : Mirrors tables memory) (hproj : Projected tables)
    {inserted : CaseTables} (hinsert : tables.toCaseTables.insert case = .ok inserted)
    (rows : List CaseAsset) :
    Mirrors { toCaseTables := inserted, caseAssets := rows }
      { cases := memory.cases ++ [case], events := memory.events ++ [(case.caseId, [])] } := by
  obtain ⟨hnew, hcases, hevents, -⟩ := CaseTables.insert_eq_ok hinsert
  have hlog : ∀ caseId, inserted.log caseId = tables.log caseId := fun caseId => by
    rw [CaseTables.log, hevents]
    rfl
  constructor
  · show memory.cases ++ [case] = inserted.cases
    rw [h.cases, hcases]
  · show (memory.events ++ [(case.caseId, [])]).map Prod.fst = inserted.cases.map _
    rw [hcases, List.map_append, List.map_append, h.keyed]
    rfl
  · intro other hother
    show InMemoryCaseStore.log _ other.caseId = .ok (inserted.log other.caseId)
    rw [hlog]
    rw [show inserted.cases = tables.cases ++ [case] from hcases, List.mem_append,
      List.mem_singleton] at hother
    rcases hother with hother | rfl
    · have hold := h.logs other hother
      unfold InMemoryCaseStore.log at hold ⊢
      cases hfind : Rows.find Prod.fst memory.events other.caseId with
      | none => simp [hfind] at hold
      | some entry =>
        rw [hfind] at hold
        rw [Rows.find_insert_of_some hfind]
        exact hold
    · have hfind : Rows.find Prod.fst memory.events other.caseId = none := by
        rw [Rows.find_eq_none]
        intro entry hentry heq
        have hkey : entry.1 ∈ tables.cases.map RemediationCase.caseId :=
          h.keyed ▸ List.mem_map_of_mem hentry
        obtain ⟨old, hold, hid⟩ := List.mem_map.mp hkey
        exact Rows.find_eq_none.mp hnew old hold (hid.trans heq)
      unfold InMemoryCaseStore.log
      have hself := @Rows.find_insert_self _ _ _ Prod.fst memory.events (other.caseId, [])
        hfind
      rw [hself, hproj.log_eq_nil hnew]

/-- An event and its projection in both stores. -/
theorem Mirrors.append (h : Mirrors tables memory) {current : RemediationCase}
    {appended : CaseTables} {v : ℕ} (hcurrent : tables.case? case.caseId = some current)
    (happend : tables.toCaseTables.append case event v = .ok appended) :
    Mirrors { toCaseTables := appended, caseAssets := tables.caseAssets }
      { cases := Rows.replace RemediationCase.caseId memory.cases case
        events := Rows.replace Prod.fst memory.events
          (case.caseId, tables.log case.caseId ++ [event]) } := by
  obtain ⟨hid, -, -, -, hcases, hevents, -⟩ := CaseTables.append_eq_ok happend
  constructor
  · show Rows.replace _ memory.cases case = appended.cases
    rw [h.cases, hcases]
  · show (Rows.replace Prod.fst memory.events _).map Prod.fst = appended.cases.map _
    rw [Rows.map_key_replace, hcases, Rows.map_key_replace, h.keyed]
  · intro other hother
    show InMemoryCaseStore.log _ other.caseId = .ok (appended.log other.caseId)
    rw [show appended.cases = _ from hcases, Rows.mem_replace_iff] at hother
    unfold InMemoryCaseStore.log
    by_cases heq : case.caseId = other.caseId
    · have hsome : Rows.find Prod.fst memory.events case.caseId ≠ none := by
        have hold := h.logs current (Rows.mem_of_find hcurrent)
        rw [show current.caseId = case.caseId from Rows.key_of_find hcurrent] at hold
        intro hnone
        unfold InMemoryCaseStore.log at hold
        rw [hnone] at hold
        cases hold
      have hself : Rows.find Prod.fst (Rows.replace Prod.fst memory.events
          (case.caseId, tables.log case.caseId ++ [event])) case.caseId =
          some (case.caseId, tables.log case.caseId ++ [event]) := Rows.find_replace_self hsome
      rw [← heq, hself]
      simp [CaseTables.log, hevents, hid]
    · have hold := h.logs other (by
        rcases hother with ⟨hmem, -⟩ | ⟨rfl, -⟩
        · exact hmem
        · exact absurd rfl heq)
      have hother' := @Rows.find_replace_other _ _ _ Prod.fst memory.events
        (case.caseId, tables.log case.caseId ++ [event]) other.caseId heq
      rw [hother']
      have hskip : ¬event.caseId = other.caseId := fun h' => heq (hid.symm.trans h')
      simp only [CaseTables.log, hevents, List.filter_append]
      simpa [hskip, InMemoryCaseStore.log, CaseTables.log] using hold

/-- A new case leaves the cases that were read as they were. -/
theorem Fresh.insert (h : Fresh tables base) {inserted : CaseTables}
    (hinsert : tables.toCaseTables.insert case = .ok inserted) (rows : List CaseAsset) :
    Fresh { toCaseTables := inserted, caseAssets := rows } base := by
  obtain ⟨current, hcurrent, hle, heq⟩ := h
  refine ⟨current, ?_, hle, heq⟩
  have hne : case.caseId ≠ base.caseId := by
    intro hid
    have hnew := (CaseTables.insert_eq_ok hinsert).1
    rw [hid, hcurrent] at hnew
    cases hnew
  exact (CaseTables.case?_insert_other hinsert hne).trans hcurrent

/-- An appended projection is a later version of all cases that were read. -/
theorem Fresh.append (h : Fresh tables base) {appended : CaseTables} {v : ℕ}
    (happend : tables.toCaseTables.append case event v = .ok appended) (rows : List CaseAsset) :
    Fresh { toCaseTables := appended, caseAssets := rows } base := by
  obtain ⟨current, hcurrent, hle, heq⟩ := h
  by_cases hid : case.caseId = base.caseId
  · obtain ⟨-, -, hversion, ⟨found, hfound, hv⟩, -, -, -⟩ := CaseTables.append_eq_ok happend
    rw [hid] at hfound
    obtain rfl : current = found := Option.some.inj (hcurrent.symm.trans hfound)
    refine ⟨case, ?_, by omega, fun h' => by omega⟩
    rw [← hid]
    exact CaseTables.case?_append_self happend
  · exact ⟨current, (CaseTables.case?_append_other happend hid).trans hcurrent, hle, heq⟩

/-- `SqliteCaseStore.create` stores a case that `CaseTables.insert` accepts. -/
theorem sqlite_create_ok (howned : AssetsOwned tables) {inserted : CaseTables}
    (hinsert : tables.toCaseTables.insert case = .ok inserted) :
    sqliteCaseStore.create tables case = (.ok (), {
      toCaseTables := inserted
      caseAssets := tables.caseAssets ++ case.assetIds.map (SqliteCaseStore.caseAsset case) }) := by
  have hrun := @transaction_create tables case howned
  rw [hinsert] at hrun
  show answerOf (SqliteCaseStore.create case tables) = _
  unfold SqliteCaseStore.create
  rw [hrun]
  rfl

/-- It refuses every other case as a concurrent update. -/
theorem sqlite_create_error (howned : AssetsOwned tables) {e : PyError}
    (hinsert : tables.toCaseTables.insert case = .error e) :
    ∃ message, sqliteCaseStore.create tables case =
      (.error ⟨.concurrentCaseUpdate, message⟩, tables) := by
  have hrun := @transaction_create tables case howned
  rw [hinsert] at hrun
  have hkind : e.kind = .integrityError := by
    unfold CaseTables.insert at hinsert
    split at hinsert
    · cases hinsert
      rfl
    · cases hinsert
  show ∃ message, answerOf (SqliteCaseStore.create case tables) = _
  unfold SqliteCaseStore.create
  rw [hrun]
  dsimp only
  rw [if_pos hkind]
  split
  · exact ⟨_, rfl⟩
  · exact ⟨_, rfl⟩

/-- `InMemoryCaseStore.create` accepts the same cases. -/
theorem inMemory_create_ok (hproj : Projected tables) (hmirror : Mirrors tables memory)
    (hlive : case.terminal = false) {inserted : CaseTables}
    (hinsert : tables.toCaseTables.insert case = .ok inserted) :
    inMemoryCaseStore.create memory case = (.ok (), {
      cases := memory.cases ++ [case], events := memory.events ++ [(case.caseId, [])] }) := by
  obtain ⟨hnew, -, -, hactive⟩ := CaseTables.insert_eq_ok hinsert
  have hunknown : Rows.find RemediationCase.caseId memory.cases case.caseId = none :=
    hmirror.cases ▸ hnew
  have hclear := (conflicts_eq_nil hproj hmirror).mpr (hactive hlive).2
  show InMemoryCaseStore.create memory case = _
  unfold InMemoryCaseStore.create
  rw [if_neg (not_not.mpr hunknown), if_neg (not_not.mpr hclear)]

/-- It refuses the same cases, as concurrent updates too. -/
theorem inMemory_create_error (hproj : Projected tables) (hmirror : Mirrors tables memory)
    (hlive : case.terminal = false) (hnodup : case.assetIds.Nodup) {e : PyError}
    (hinsert : tables.toCaseTables.insert case = .error e) :
    ∃ message, inMemoryCaseStore.create memory case =
      (.error ⟨.concurrentCaseUpdate, message⟩, memory) := by
  show ∃ message, InMemoryCaseStore.create memory case = _
  unfold InMemoryCaseStore.create
  split
  · exact ⟨_, rfl⟩
  · rename_i hnew
    have hnew' : tables.case? case.caseId = none := by
      rw [← not_ne_iff]
      rwa [hmirror.cases] at hnew
    have hconflict : InMemoryCaseStore.conflicts memory case ≠ [] := by
      intro hnil
      have hfree := (conflicts_eq_nil hproj hmirror).mp hnil
      unfold CaseTables.insert at hinsert
      rw [if_neg] at hinsert
      · cases hinsert
      · simpa [hnew', hnodup, hlive] using hfree
    rw [if_pos hconflict]
    exact ⟨_, rfl⟩

/-- What `append` does in both stores with a projection of a case that was read. -/
theorem append_alike (hproj : Projected tables) (hmirror : Mirrors tables memory)
    (hfresh : Fresh tables base) {transition : CaseTransition} {args : TransitionArgs}
    (hnext : transitionCase base transition args = .ok (case, event))
    (hunused : ∀ other ∈ tables.events, other.eventId ≠ event.eventId) :
    (∃ appended, tables.case? case.caseId = some base ∧
        tables.toCaseTables.append case event base.version = .ok appended ∧
        sqliteCaseStore.append tables case event base.version =
          (.ok (), { toCaseTables := appended, caseAssets := tables.caseAssets }) ∧
        inMemoryCaseStore.append memory case event base.version = (.ok (), {
          cases := Rows.replace RemediationCase.caseId memory.cases case
          events := Rows.replace Prod.fst memory.events
            (case.caseId, tables.log case.caseId ++ [event]) })) ∨
      ∃ e, sqliteCaseStore.append tables case event base.version = (.error e, tables) ∧
        inMemoryCaseStore.append memory case event base.version = (.error e, memory) := by
  obtain ⟨target, haccepted⟩ := transitionCase_accepted hnext
  obtain ⟨current, hcurrent, hle, heq⟩ := hfresh
  have hsequence : event.sequence = base.version + 1 := haccepted.eventSequence
  have hversion : case.version = base.version + 1 := haccepted.version
  have hid : event.caseId = case.caseId := haccepted.eventCase.trans haccepted.caseId.symm
  rw [← haccepted.caseId] at hcurrent
  have hget : InMemoryCaseStore.get memory case.caseId = .ok current := by
    rw [hmirror.get_eq]
    exact CaseTables.get_eq_ok.mpr hcurrent
  have hsqlite := @append_eq tables case event base.version
  have hcontiguous : ¬(event.sequence ≠ base.version + 1 ∨ case.version ≠ event.sequence) := by
    omega
  by_cases hv : current.version = base.version
  · left
    obtain rfl : base = current := heq hv.symm
    have hmem : base ∈ tables.cases := Rows.mem_of_find hcurrent
    have hseqs := hproj.sequences base hmem
    have hbaseId : base.caseId = case.caseId := haccepted.caseId.symm
    have hfree : ¬∃ other ∈ tables.events, other.eventId = event.eventId ∨
        (other.caseId = event.caseId ∧ other.sequence = event.sequence) := by
      rintro ⟨other, hother, hsame | ⟨hcase, hseq⟩⟩
      · exact hunused other hother hsame
      · have hlogged : other ∈ tables.log base.caseId := by
          refine List.mem_filter.mpr ⟨hother, ?_⟩
          simp [hcase, hid, hbaseId]
        have hrange : other.sequence ∈ List.range' 1 base.version :=
          hseqs ▸ List.mem_map_of_mem hlogged
        rw [List.mem_range'_1] at hrange
        omega
    have happend : ∃ appended, tables.toCaseTables.append case event base.version =
        .ok appended := by
      unfold CaseTables.append
      rw [if_neg (not_not.mpr hid), if_neg hcontiguous, hcurrent]
      dsimp only
      rw [if_neg (not_not.mpr rfl), if_neg hfree]
      exact ⟨_, rfl⟩
    obtain ⟨appended, happend⟩ := happend
    refine ⟨appended, hcurrent, happend, ?_, ?_⟩
    · show answerOf (SqliteCaseStore.append case event base.version tables) = _
      rw [hsqlite, happend]
      rfl
    · have hlog := hmirror.logs base hmem
      rw [hbaseId] at hlog
      show InMemoryCaseStore.append memory case event base.version = _
      unfold InMemoryCaseStore.append
      rw [hget]
      dsimp only
      rw [if_neg (not_not.mpr rfl), if_neg hcontiguous, hlog]
  · right
    refine ⟨SqliteCaseStore.staleVersion case.caseId current.version base.version, ?_, ?_⟩
    · have hstale : tables.toCaseTables.append case event base.version =
          .error (SqliteCaseStore.staleVersion case.caseId current.version base.version) := by
        unfold CaseTables.append
        rw [if_neg (not_not.mpr hid), if_neg hcontiguous, hcurrent]
        dsimp only
        rw [if_pos hv]
        rfl
      show answerOf (SqliteCaseStore.append case event base.version tables) = _
      rw [hsqlite, hstale]
      rfl
    · show InMemoryCaseStore.append memory case event base.version = _
      unfold InMemoryCaseStore.append
      rw [hget]
      dsimp only
      rw [if_pos hv]

/-- Both stores return the events of a case in the same order. -/
theorem events_alike (hproj : Projected tables) (hmirror : Mirrors tables memory)
    (caseId : String) : sqliteCaseStore.events tables caseId =
      inMemoryCaseStore.events memory caseId := by
  have hget := hmirror.get_eq caseId
  show (do let _ ← tables.get caseId; return tables.eventsOf caseId) =
    InMemoryCaseStore.events memory caseId
  unfold InMemoryCaseStore.events
  rw [hget]
  cases hcase : tables.get caseId with
  | error e => rfl
  | ok case =>
    obtain ⟨hmem, rfl⟩ := hproj.mem_iff.mp (CaseTables.get_eq_ok.mp hcase)
    have hlog := hmirror.logs case hmem
    have hevents := hproj.eventsOf_eq_log hmem
    simp only [bind, Except.bind, pure, Except.pure, hlog, hevents]

/-- Both stores find the same live case of an asset. -/
theorem findActiveByAsset_alike (hproj : Projected tables) (hmirror : Mirrors tables memory)
    (tenantId assetId : String) : sqliteCaseStore.findActiveByAsset tables tenantId assetId =
      inMemoryCaseStore.findActiveByAsset memory tenantId assetId := by
  show tables.findActiveByAsset tenantId assetId =
    InMemoryCaseStore.findActiveByAsset memory tenantId assetId
  unfold InMemoryCaseStore.findActiveByAsset
  have hnodup : tables.cases.Nodup := List.Nodup.of_map _ hproj.keyed
  have hmatches : ∀ other, other ∈ (memory.cases.filter fun case => case.tenantId = tenantId ∧
      assetId ∈ case.assetIds ∧ case.terminal = false) ↔
        tables.findActiveByAsset tenantId assetId = some other := by
    intro other
    rw [hproj.findActiveByAsset_eq_some, List.mem_filter, hmirror.cases]
    simp only [decide_eq_true_eq]
    constructor
    · rintro ⟨hmem, htenant, hasset, hlive⟩
      exact ⟨hmem, hlive, htenant, hasset⟩
    · rintro ⟨hmem, hlive, htenant, hasset⟩
      exact ⟨hmem, htenant, hasset, hlive⟩
  have hone : (memory.cases.filter fun case => case.tenantId = tenantId ∧
      assetId ∈ case.assetIds ∧ case.terminal = false).Nodup := by
    rw [hmirror.cases]
    exact hnodup.filter _
  revert hmatches hone
  generalize (memory.cases.filter fun case => case.tenantId = tenantId ∧
    assetId ∈ case.assetIds ∧ case.terminal = false) = found
  intro hmatches hone
  match found, hmatches, hone with
  | [], hmatches, _ =>
    refine Option.eq_none_iff_forall_ne_some.mpr fun other h => ?_
    have hmem := (hmatches other).mpr h
    cases hmem
  | [only], hmatches, _ =>
    rw [(hmatches only).mp (List.mem_singleton_self _)]
    rfl
  | first :: second :: rest, hmatches, hone =>
    have hfirst := (hmatches first).mp List.mem_cons_self
    have hsecond := (hmatches second).mp (List.mem_cons_of_mem _ List.mem_cons_self)
    obtain rfl : first = second := Option.some.inj (hfirst.symm.trans hsecond)
    exact absurd List.mem_cons_self (List.nodup_cons.mp hone).1

/-- Both stores list the same cases. -/
theorem listCases_alike (hmirror : Mirrors tables memory) (tenantId : Option String) :
    (sqliteCaseStore.listCases tables tenantId).Perm
      (inMemoryCaseStore.listCases memory tenantId) := by
  show (selectCases tables.cases tenantId _).Perm (selectCases memory.cases tenantId _)
  rw [hmirror.cases]
  unfold selectCases
  exact (List.perm_insertionSort _ _).trans (List.perm_insertionSort _ _).symm

end steps

section runs

variable {used : List String} {w : CaseClients SqliteCaseTables} {m : CaseClients InMemoryCases}

/-- What a worker reads is the same in both stores. -/
theorem Alike.read (h : Alike used w m) (worker : ℕ) {value : Option RemediationCase}
    (hvalue : ∀ base, value = some base → Fresh w.store base) :
    Alike used { w with reading := Function.update w.reading worker value }
      { m with reading := Function.update m.reading worker value } := by
  refine { h with reading := by rw [h.reading], fresh := ?_ }
  intro other base hbase
  dsimp only at hbase
  by_cases hother : other = worker
  · rw [hother, Function.update_self] at hbase
    exact hvalue base hbase
  · rw [Function.update_of_ne hother] at hbase
    exact h.fresh other base hbase

/-- A call that raises leaves the SQLite tables as they were. -/
theorem sqlite_answer_error {call : CaseCall} {e : PyError}
    (h : (sqliteCaseStore.answer w call).1 = .error e) :
    (sqliteCaseStore.answer w call).2.store = w.store := by
  cases call with
  | «open» caseId tenantId findingIds assetIds serviceIds now =>
    simp only [CaseStoreOf.answer] at h ⊢
    cases hopen : openCase caseId tenantId findingIds assetIds serviceIds now with
    | error e => rfl
    | ok case =>
      rw [hopen] at h
      simp only [CaseStoreOf.keep] at h ⊢
      show (answerOf (SqliteCaseStore.create case w.store)).2 = w.store
      change (answerOf (SqliteCaseStore.create case w.store)).1.map _ = _ at h
      unfold SqliteCaseStore.create at h ⊢
      cases hrun : transaction (SqliteCaseStore.createStatements case) w.store with
      | ok a tables' =>
        rw [hrun] at h
        cases h
      | error e' tables' =>
        obtain rfl := transaction_rollback hrun
        dsimp only
        split
        · split <;> rfl
        · rfl
  | read worker caseId =>
    simp only [CaseStoreOf.answer]
    split <;> rfl
  | append worker transition args =>
    simp only [CaseStoreOf.answer] at h ⊢
    cases hread : w.reading worker with
    | none => rfl
    | some current =>
      rw [hread] at h
      simp only [CaseStoreOf.advanceOn] at h ⊢
      cases hnext : transitionCase current transition args with
      | error e => rfl
      | ok next =>
        obtain ⟨case, event⟩ := next
        rw [hnext] at h
        simp only [CaseStoreOf.keep] at h ⊢
        change (answerOf (SqliteCaseStore.append case event current.version w.store)).1.map _ =
          _ at h
        show (answerOf (SqliteCaseStore.append case event current.version w.store)).2 = w.store
        rw [append_eq] at h ⊢
        cases happend : w.store.toCaseTables.append case event current.version with
        | ok appended =>
          rw [happend] at h
          cases h
        | error e => rfl
  | get caseId => rfl
  | events caseId => rfl
  | findActiveByAsset tenantId assetId => rfl
  | listCases tenantId => rfl

/-- A call that raises leaves the in-memory store as it was. -/
theorem inMemory_answer_error {call : CaseCall} {e : PyError}
    (h : (inMemoryCaseStore.answer m call).1 = .error e) :
    (inMemoryCaseStore.answer m call).2.store = m.store := by
  cases call with
  | «open» caseId tenantId findingIds assetIds serviceIds now =>
    simp only [CaseStoreOf.answer] at h ⊢
    cases hopen : openCase caseId tenantId findingIds assetIds serviceIds now with
    | error e => rfl
    | ok case =>
      rw [hopen] at h
      simp only [CaseStoreOf.keep] at h ⊢
      change (InMemoryCaseStore.create m.store case).1.map _ = _ at h
      show (InMemoryCaseStore.create m.store case).2 = m.store
      unfold InMemoryCaseStore.create at h ⊢
      split
      · rfl
      · split
        · rfl
        · rename_i hnew hclear
          rw [if_neg hnew, if_neg hclear] at h
          cases h
  | read worker caseId =>
    simp only [CaseStoreOf.answer]
    split <;> rfl
  | append worker transition args =>
    simp only [CaseStoreOf.answer] at h ⊢
    cases hread : m.reading worker with
    | none => rfl
    | some current =>
      rw [hread] at h
      simp only [CaseStoreOf.advanceOn] at h ⊢
      cases hnext : transitionCase current transition args with
      | error e => rfl
      | ok next =>
        obtain ⟨case, event⟩ := next
        rw [hnext] at h
        simp only [CaseStoreOf.keep] at h ⊢
        change (InMemoryCaseStore.append m.store case event current.version).1.map _ = _ at h
        show (InMemoryCaseStore.append m.store case event current.version).2 = m.store
        unfold InMemoryCaseStore.append at h ⊢
        cases hget : InMemoryCaseStore.get m.store case.caseId with
        | error e => rfl
        | ok found =>
          rw [hget] at h
          dsimp only at h ⊢
          split
          · rfl
          · split
            · rfl
            · rename_i hversion hcontiguous
              rw [if_neg hversion, if_neg hcontiguous] at h
              cases hlog : InMemoryCaseStore.log m.store case.caseId with
              | error e => rfl
              | ok events =>
                rw [hlog] at h
                cases h
  | get caseId => rfl
  | events caseId => rfl
  | findActiveByAsset tenantId assetId => rfl
  | listCases tenantId => rfl

/-- One call keeps the stores alike and is answered alike. -/
theorem Alike.answer (h : Alike used w m) (call : CaseCall) (hassets : call.AssetsDistinct)
    (hunused : ∀ id ∈ call.eventId?, id ∉ used) :
    Alike (used ++ call.eventId?.toList) (sqliteCaseStore.answer w call).2
        (inMemoryCaseStore.answer m call).2 ∧
      SameReply call (sqliteCaseStore.answer w call).1 (inMemoryCaseStore.answer m call).1 := by
  have hget : ∀ caseId, inMemoryCaseStore.get m.store caseId = sqliteCaseStore.get w.store caseId :=
    h.mirrors.get_eq
  cases call with
  | «open» caseId tenantId findingIds assetIds serviceIds now =>
    simp only [CaseStoreOf.answer, CaseCall.eventId?, Option.toList_none, List.append_nil]
    cases hopen : openCase caseId tenantId findingIds assetIds serviceIds now with
    | error e => exact ⟨h, rfl⟩
    | ok case =>
      have hopened : Opened case := ⟨_, _, _, _, _, _, hopen⟩
      have hnodup : case.assetIds.Nodup := by
        unfold openCase at hopen
        split at hopen
        · cases hopen
          exact hassets
        · cases hopen
      obtain ⟨hstate, hversion, -⟩ := hopened.fields
      have hlive : case.terminal = false := by
        rw [RemediationCase.terminal_eq_false, hstate]
        decide
      cases hinsert : w.store.toCaseTables.insert case with
      | ok inserted =>
        have hevents := (CaseTables.insert_eq_ok hinsert).2.2.1
        simp only [CaseStoreOf.keep, sqlite_create_ok h.projected.assetsOwned hinsert,
          inMemory_create_ok h.projected h.mirrors hlive hinsert]
        refine ⟨?_, rfl⟩
        exact {
          projected := h.projected.insert hinsert hstate hversion hnodup
          mirrors := h.mirrors.insert h.projected hinsert _
          reading := h.reading
          fresh := fun worker base hbase => (h.fresh worker base hbase).insert hinsert _
          used := fun event hevent => h.used event (hevents ▸ hevent) }
      | error e =>
        obtain ⟨text, hsqlite⟩ := sqlite_create_error h.projected.assetsOwned hinsert
        obtain ⟨text', hmemory⟩ :=
          inMemory_create_error h.projected h.mirrors hlive hnodup hinsert
        simp only [CaseStoreOf.keep, hsqlite, hmemory]
        exact ⟨h, rfl⟩
  | read worker caseId =>
    simp only [CaseStoreOf.answer, CaseCall.eventId?, Option.toList_none, List.append_nil, hget]
    cases hcase : sqliteCaseStore.get w.store caseId with
    | error e => exact ⟨h.read worker (fun base hbase => by cases hbase), rfl⟩
    | ok case =>
      refine ⟨h.read worker fun base hbase => ?_, rfl⟩
      cases hbase
      have hfound := CaseTables.get_eq_ok.mp hcase
      refine ⟨case, ?_, le_rfl, fun _ => rfl⟩
      rwa [CaseTables.case?_caseId hfound]
  | append worker transition args =>
    have hgrown : ∀ event ∈ w.store.events, event.eventId ∈ used ++ [args.eventId] :=
      fun event hevent => List.mem_append_left _ (h.used event hevent)
    simp only [CaseStoreOf.answer, CaseCall.eventId?, Option.toList_some, h.reading]
    cases hread : w.reading worker with
    | none => exact ⟨{ h with used := hgrown }, rfl⟩
    | some base =>
      simp only [CaseStoreOf.advanceOn]
      cases hnext : transitionCase base transition args with
      | error e => exact ⟨{ h with used := hgrown }, rfl⟩
      | ok next =>
        obtain ⟨case, event⟩ := next
        have heventId := transitionCase_eventId hnext
        have hfresh : ∀ other ∈ w.store.events, other.eventId ≠ event.eventId := by
          intro other hother heq
          refine hunused args.eventId rfl ?_
          rw [← heventId, ← heq]
          exact h.used other hother
        obtain ⟨target, haccepted⟩ := transitionCase_accepted hnext
        rcases append_alike h.projected h.mirrors (h.fresh worker base hread) hnext hfresh with
          ⟨appended, hcurrent, happend, hsqlite, hmemory⟩ | ⟨e, hsqlite, hmemory⟩
        · simp only [CaseStoreOf.keep, hsqlite, hmemory]
          refine ⟨?_, rfl⟩
          exact {
            projected := h.projected.append hcurrent happend haccepted.live haccepted.tenantId
              haccepted.assetIds haccepted.eventFrom (haccepted.eventTo.trans haccepted.state.symm)
            mirrors := h.mirrors.append hcurrent happend
            reading := h.reading
            fresh := fun other base' hbase => (h.fresh other base' hbase).append happend _
            used := by
              intro other hother
              rw [show appended.events = w.store.events ++ [event] from
                (CaseTables.append_eq_ok happend).2.2.2.2.2.1, List.mem_append,
                List.mem_singleton] at hother
              rcases hother with hother | rfl
              · exact hgrown other hother
              · rw [heventId]
                simp }
        · simp only [CaseStoreOf.keep, hsqlite, hmemory]
          exact ⟨{ h with used := hgrown }, rfl⟩
  | get caseId =>
    simp only [CaseStoreOf.answer, CaseCall.eventId?, Option.toList_none, List.append_nil, hget]
    exact ⟨h, rfl⟩
  | events caseId =>
    simp only [CaseStoreOf.answer, CaseCall.eventId?, Option.toList_none, List.append_nil]
    exact ⟨h, congrArg (Except.map CaseReply.events) (events_alike h.projected h.mirrors caseId)⟩
  | findActiveByAsset tenantId assetId =>
    simp only [CaseStoreOf.answer, CaseCall.eventId?, Option.toList_none, List.append_nil]
    refine ⟨h, congrArg (fun found => Except.ok (CaseReply.found found)) ?_⟩
    exact findActiveByAsset_alike h.projected h.mirrors tenantId assetId
  | listCases tenantId =>
    simp only [CaseStoreOf.answer, CaseCall.eventId?, Option.toList_none, List.append_nil]
    exact ⟨h, listCases_alike h.mirrors tenantId⟩

/-- Calls with distinct event ids on cases with distinct assets keep the stores alike. -/
theorem alike_after (calls : List CaseCall) (hids : (calls.filterMap CaseCall.eventId?).Nodup)
    (hassets : ∀ call ∈ calls, call.AssetsDistinct) :
    Alike (calls.filterMap CaseCall.eventId?) (sqliteCaseStore.after calls)
      (inMemoryCaseStore.after calls) := by
  induction calls using List.reverseRecOn with
  | nil =>
    exact {
      projected := Projected.empty
      mirrors := ⟨rfl, rfl, fun case hcase => by cases hcase⟩
      reading := rfl
      fresh := fun worker base hbase => by cases hbase
      used := fun event hevent => by cases hevent }
  | append_singleton calls call ih =>
    rw [List.filterMap_append, List.nodup_append] at hids
    have hbefore := ih hids.1 fun other hother => hassets other (List.mem_append_left _ hother)
    have hsingle : [call].filterMap CaseCall.eventId? = call.eventId?.toList := by
      cases hid : call.eventId? <;> simp [hid]
    rw [List.filterMap_append, CaseStoreOf.after_snoc, CaseStoreOf.after_snoc, hsingle]
    refine (hbefore.answer call (hassets call (by simp)) fun id hid hused => ?_).1
    refine hids.2.2 id hused id ?_ rfl
    rw [hsingle, Option.mem_def.mp hid]
    exact List.mem_singleton_self _

end runs

section samples

/-- Why a case is put on hold. -/
def sampleBlock (eventId : String) : TransitionArgs :=
  { eventId, occurredAt := "2026-07-17T12:01:00Z", actor := "operator", detail := "on hold" }

/-- Two workers race to put a case on hold, and a second case is refused for its asset. -/
def sampleStoreCalls : List CaseCall :=
  [.open "case-1" "tenant-1" ["finding-1"] ["asset-1"] [] "2026-07-17T12:00:00Z",
    .read 0 "case-1", .read 1 "case-1",
    .append 0 .block (sampleBlock "event-1"), .append 1 .block (sampleBlock "event-2"),
    .open "case-2" "tenant-1" ["finding-2"] ["asset-1"] [] "2026-07-17T12:02:00Z"]

/-- The exception a call raised. -/
def errorOf (reply : Except PyError CaseReply) : Option PyError :=
  match reply with
  | .error e => some e
  | .ok _ => none

end samples

/-- After every sequence of calls, with distinct event ids and distinct assets in each case,
the tables agree, the asset index finds exactly the live cases, each call is answered as the
in-memory store answers it, and a call that raises changes neither store. -/
theorem caseStore_projected (calls : List CaseCall)
    (hids : (calls.filterMap CaseCall.eventId?).Nodup)
    (hassets : ∀ call ∈ calls, call.AssetsDistinct) :
    Projected (sqliteCaseStore.after calls).store ∧
      (∀ case ∈ (sqliteCaseStore.after calls).store.cases,
        (sqliteCaseStore.after calls).store.eventsOf case.caseId =
            (sqliteCaseStore.after calls).store.log case.caseId ∧
          case.version = ((sqliteCaseStore.after calls).store.log case.caseId).length) ∧
      (∀ tenantId assetId case,
        (sqliteCaseStore.after calls).store.findActiveByAsset tenantId assetId = some case ↔
          case ∈ (sqliteCaseStore.after calls).store.cases ∧ case.terminal = false ∧
            case.tenantId = tenantId ∧ assetId ∈ case.assetIds) ∧
      ∀ before call after, calls = before ++ call :: after →
        SameReply call (sqliteCaseStore.answer (sqliteCaseStore.after before) call).1
            (inMemoryCaseStore.answer (inMemoryCaseStore.after before) call).1 ∧
          (∀ e, (sqliteCaseStore.answer (sqliteCaseStore.after before) call).1 = .error e →
            (sqliteCaseStore.answer (sqliteCaseStore.after before) call).2.store =
              (sqliteCaseStore.after before).store) ∧
          ∀ e, (inMemoryCaseStore.answer (inMemoryCaseStore.after before) call).1 = .error e →
            (inMemoryCaseStore.answer (inMemoryCaseStore.after before) call).2.store =
              (inMemoryCaseStore.after before).store := by
  have hproj := (alike_after calls hids hassets).projected
  refine ⟨hproj, ?_, fun _ _ _ => hproj.findActiveByAsset_eq_some, ?_⟩
  · intro case hcase
    exact ⟨hproj.eventsOf_eq_log hcase, hproj.version_eq hcase⟩
  · rintro before call after rfl
    rw [List.filterMap_append, List.nodup_append] at hids
    have hbefore := alike_after before hids.1 fun other hother =>
      hassets other (List.mem_append_left _ hother)
    refine ⟨(hbefore.answer call (hassets call (by simp)) ?_).2, fun e => sqlite_answer_error,
      fun e => inMemory_answer_error⟩
    intro id hid hused
    refine hids.2.2 id hused id ?_ rfl
    rw [List.filterMap_cons, Option.mem_def.mp hid]
    exact List.mem_cons_self

/-- The sample calls keep the tables in agreement. -/
theorem caseStore_projected_sample :
    Projected (sqliteCaseStore.after sampleStoreCalls).store := by
  refine (caseStore_projected sampleStoreCalls (by decide) ?_).1
  intro call hcall
  simp only [sampleStoreCalls, List.mem_cons, List.not_mem_nil, or_false] at hcall
  rcases hcall with rfl | rfl | rfl | rfl | rfl | rfl <;>
    simp [CaseCall.AssetsDistinct]

/-- The stores word the refusal of a case whose asset is taken differently. -/
theorem caseStores_word_differently :
    ¬∀ before call after, sampleStoreCalls = before ++ call :: after →
      (sqliteCaseStore.answer (sqliteCaseStore.after before) call).1 =
        (inMemoryCaseStore.answer (inMemoryCaseStore.after before) call).1 := by
  intro hall
  have hsame := congrArg errorOf (hall (sampleStoreCalls.take 5)
    (.open "case-2" "tenant-1" ["finding-2"] ["asset-1"] [] "2026-07-17T12:02:00Z") [] rfl)
  revert hsame
  decide +kernel

end ElCapitan
