import ElCapitan.Stores.InMemoryCaseStore

/-!
# Events, projections and the index of active assets

The case store keeps each case three times: as its events, as their projection and, while
it is live, as rows of the asset index. `Projected` says that the three agree; it holds
after every sequence of calls, and the in-memory store, which has no index, answers alike.
-/

namespace ElCapitan

open Effects

/-- Consecutive events, the first from one state and the last to another. -/
def Chained : CaseState → List CaseEvent → CaseState → Prop
  | start, [], last => start = last
  | start, event :: events, last => event.fromState = start ∧ Chained event.toState events last

/-- A chain of events goes on by an event from its end. -/
theorem Chained.snoc {start middle : CaseState} {events : List CaseEvent} {event : CaseEvent}
    (h : Chained start events middle) (hfrom : event.fromState = middle) :
    Chained start (events ++ [event]) event.toState := by
  induction events generalizing start with
  | nil => exact ⟨hfrom.trans (show start = middle from h).symm, rfl⟩
  | cons first events ih => exact ⟨h.1, ih h.2⟩

/-- The events of a case in the order they were appended. -/
def CaseTables.log (tables : CaseTables) (caseId : String) : List CaseEvent :=
  tables.events.filter fun event => event.caseId = caseId

/-- Events, projections and indexes say the same. -/
structure Projected (tables : SqliteCaseTables) : Prop where
  /-- A case id has one projection. -/
  keyed : (tables.cases.map RemediationCase.caseId).Nodup
  /-- Sequences are `1..version`. -/
  sequences : ∀ case ∈ tables.cases,
    (tables.log case.caseId).map CaseEvent.sequence = List.range' 1 case.version
  /-- Events chain from the open state to the projected state. -/
  chained : ∀ case ∈ tables.cases, Chained .opened (tables.log case.caseId) case.state
  /-- Every event is about a case. -/
  owned : ∀ event ∈ tables.events, tables.case? event.caseId ≠ none
  /-- `case_assets` holds the assets of every case. -/
  assets : ∀ row, row ∈ tables.caseAssets ↔
    ∃ case ∈ tables.cases, ∃ assetId ∈ case.assetIds, row = SqliteCaseStore.caseAsset case assetId
  /-- `active_case_assets` holds the assets of every live case and no others. -/
  active : ∀ row, row ∈ tables.active ↔ ∃ case ∈ tables.cases, case.terminal = false ∧
    ∃ assetId ∈ case.assetIds, row = SqliteCaseStore.activeAsset case assetId
  /-- An asset of a tenant has at most one row there. -/
  held : (tables.active.map fun row => (row.tenantId, row.assetId)).Nodup

namespace Projected

variable {tables : SqliteCaseTables} {case : RemediationCase}

/-- A projection is found under its id. -/
theorem case?_of_mem (h : Projected tables) (hmem : case ∈ tables.cases) :
    tables.case? case.caseId = some case :=
  Rows.find_of_mem h.keyed hmem

/-- A case is found by its id where it is in the table. -/
theorem mem_iff (h : Projected tables) {caseId : String} :
    tables.case? caseId = some case ↔ case ∈ tables.cases ∧ case.caseId = caseId := by
  constructor
  · intro hcase
    exact ⟨Rows.mem_of_find hcase, Rows.key_of_find hcase⟩
  · rintro ⟨hmem, rfl⟩
    exact h.case?_of_mem hmem

/-- The version of a case is the number of its events. -/
theorem version_eq (h : Projected tables) (hmem : case ∈ tables.cases) :
    case.version = (tables.log case.caseId).length := by
  have hlength := congrArg List.length (h.sequences case hmem)
  rw [List.length_map, List.length_range'] at hlength
  exact hlength.symm

/-- In projected tables an asset is owned by its case. -/
theorem assetsOwned (h : Projected tables) : AssetsOwned tables := by
  intro row hrow
  obtain ⟨case, hmem, assetId, -, rfl⟩ := (h.assets row).mp hrow
  have hfound := h.case?_of_mem hmem
  simp only [SqliteCaseStore.caseAsset, hfound]
  exact Option.some_ne_none _

/-- The holder of an asset has a row. -/
theorem holder_eq_some (h : Projected tables) {tenantId assetId caseId : String} :
    tables.holder tenantId assetId = some caseId ↔ ⟨tenantId, assetId, caseId⟩ ∈ tables.active := by
  constructor
  · intro hholder
    obtain ⟨row, hrow, rfl⟩ := Option.map_eq_some_iff.mp hholder
    have hkey := List.find?_some hrow
    simp only [decide_eq_true_eq] at hkey
    obtain ⟨rfl, rfl⟩ := hkey
    exact List.mem_of_find?_eq_some hrow
  · intro hmem
    have hfind := Rows.find_of_mem h.held hmem
    simp only [CaseTables.holder]
    rw [show (fun row : ActiveAsset => decide (row.tenantId = tenantId ∧ row.assetId = assetId)) =
      fun row => decide ((row.tenantId, row.assetId) = (tenantId, assetId)) by simp]
    rw [Rows.find] at hfind
    rw [hfind]
    rfl

/-- `find_active_by_asset` returns exactly the live case of an asset. -/
theorem findActiveByAsset_eq_some (h : Projected tables) {tenantId assetId : String} :
    tables.findActiveByAsset tenantId assetId = some case ↔
      case ∈ tables.cases ∧ case.terminal = false ∧ case.tenantId = tenantId ∧
        assetId ∈ case.assetIds := by
  unfold CaseTables.findActiveByAsset
  rw [Option.bind_eq_some_iff]
  constructor
  · rintro ⟨caseId, hholder, hcase⟩
    obtain ⟨other, hother, hlive, asset, hasset, heq⟩ :=
      (h.active _).mp (h.holder_eq_some.mp hholder)
    cases heq
    obtain rfl : case = other :=
      Option.some.inj (hcase.symm.trans (h.case?_of_mem hother))
    exact ⟨hother, hlive, rfl, hasset⟩
  · rintro ⟨hmem, hlive, rfl, hasset⟩
    refine ⟨case.caseId, h.holder_eq_some.mpr ((h.active _).mpr ?_), h.case?_of_mem hmem⟩
    exact ⟨case, hmem, hlive, assetId, hasset, rfl⟩

/-- An asset of a tenant has at most one live case. -/
theorem active_unique (h : Projected tables) {other : RemediationCase} {assetId : String}
    (hcase : case ∈ tables.cases) (hother : other ∈ tables.cases)
    (hlive : case.terminal = false) (hlive' : other.terminal = false)
    (htenant : case.tenantId = other.tenantId) (hasset : assetId ∈ case.assetIds)
    (hasset' : assetId ∈ other.assetIds) : case = other := by
  have hfound := h.findActiveByAsset_eq_some.mpr ⟨hcase, hlive, htenant, hasset⟩
  have hfound' := h.findActiveByAsset_eq_some.mpr ⟨hother, hlive', rfl, hasset'⟩
  exact Option.some.inj (hfound.symm.trans hfound')

/-- The events of a case come in the order they were appended. -/
theorem eventsOf_eq_log (h : Projected tables) (hmem : case ∈ tables.cases) :
    tables.eventsOf case.caseId = tables.log case.caseId := by
  unfold CaseTables.eventsOf
  refine List.Pairwise.insertionSort_eq ?_
  have hsorted : ((tables.log case.caseId).map CaseEvent.sequence).Pairwise (· ≤ ·) := by
    rw [h.sequences case hmem]
    exact (List.pairwise_lt_range' (s := 1) (n := case.version)).imp fun hlt => Nat.le_of_lt hlt
  exact List.pairwise_map.mp hsorted

/-- Nothing is stored yet. -/
theorem empty : Projected {} where
  keyed := List.nodup_nil
  sequences case hcase := by cases hcase
  chained case hcase := by cases hcase
  owned event hevent := by cases hevent
  assets row := by simp
  active row := by simp
  held := List.nodup_nil

/-- A case that is not in the table has no events. -/
theorem log_eq_nil (h : Projected tables) {caseId : String} (hnew : tables.case? caseId = none) :
    tables.log caseId = [] := by
  unfold CaseTables.log
  rw [List.filter_eq_nil_iff]
  intro event hevent heq
  have hid : event.caseId = caseId := by simpa using heq
  exact h.owned event hevent (hid ▸ hnew)

/-- Creating an open case keeps the projection. -/
theorem insert (h : Projected tables) {inserted : CaseTables}
    (hinsert : tables.toCaseTables.insert case = .ok inserted) (hstate : case.state = .opened)
    (hversion : case.version = 0) (hnodup : case.assetIds.Nodup) :
    Projected { toCaseTables := inserted, caseAssets :=
      tables.caseAssets ++ case.assetIds.map (SqliteCaseStore.caseAsset case) } := by
  obtain ⟨hnew, hcases, hevents, hactive⟩ := CaseTables.insert_eq_ok hinsert
  have hlive : case.terminal = false := by
    rw [RemediationCase.terminal_eq_false, hstate]
    decide
  obtain ⟨hactive, hfree⟩ := hactive hlive
  have hmem : ∀ other, other ∈ inserted.cases ↔ other ∈ tables.cases ∨ other = case := by
    intro other
    rw [hcases, List.mem_append, List.mem_singleton]
  have hlog : ∀ caseId, inserted.log caseId = tables.log caseId := fun caseId => by
    rw [CaseTables.log, hevents]
    rfl
  have hempty : tables.log case.caseId = [] := h.log_eq_nil hnew
  constructor
  · show (inserted.cases.map RemediationCase.caseId).Nodup
    rw [hcases, List.map_append, List.nodup_append]
    refine ⟨h.keyed, by simp, ?_⟩
    rintro a ha b hb rfl
    obtain ⟨other, hother, rfl⟩ := List.mem_map.mp ha
    have hid : other.caseId = case.caseId := by simpa using hb
    exact Rows.find_eq_none.mp hnew other hother hid
  · intro other hother
    show (inserted.log other.caseId).map CaseEvent.sequence = _
    rw [hlog]
    rcases (hmem other).mp hother with hother | rfl
    · exact h.sequences other hother
    · rw [hempty, hversion]
      rfl
  · intro other hother
    show Chained .opened (inserted.log other.caseId) other.state
    rw [hlog]
    rcases (hmem other).mp hother with hother | rfl
    · exact h.chained other hother
    · rw [hempty, hstate]
      rfl
  · intro event hevent
    show inserted.case? event.caseId ≠ none
    have hold := h.owned event (hevents ▸ hevent)
    by_cases heq : case.caseId = event.caseId
    · rw [← heq, CaseTables.case?_insert_self hinsert]
      exact Option.some_ne_none _
    · rw [CaseTables.case?_insert_other hinsert heq]
      exact hold
  · intro row
    show row ∈ tables.caseAssets ++ _ ↔ _
    rw [List.mem_append, h.assets row, List.mem_map]
    constructor
    · rintro (⟨other, hother, assetId, hasset, rfl⟩ | ⟨assetId, hasset, rfl⟩)
      · exact ⟨other, (hmem other).mpr (.inl hother), assetId, hasset, rfl⟩
      · exact ⟨case, (hmem case).mpr (.inr rfl), assetId, hasset, rfl⟩
    · rintro ⟨other, hother, assetId, hasset, rfl⟩
      rcases (hmem other).mp hother with hother | rfl
      · exact .inl ⟨other, hother, assetId, hasset, rfl⟩
      · exact .inr ⟨assetId, hasset, rfl⟩
  · intro row
    show row ∈ inserted.active ↔ _
    rw [hactive, List.mem_append, h.active row, CaseTables.activeRows, List.mem_map]
    constructor
    · rintro (⟨other, hother, hlive', assetId, hasset, rfl⟩ | ⟨assetId, hasset, rfl⟩)
      · exact ⟨other, (hmem other).mpr (.inl hother), hlive', assetId, hasset, rfl⟩
      · exact ⟨case, (hmem case).mpr (.inr rfl), hlive, assetId, hasset, rfl⟩
    · rintro ⟨other, hother, hlive', assetId, hasset, rfl⟩
      rcases (hmem other).mp hother with hother | rfl
      · exact .inl ⟨other, hother, hlive', assetId, hasset, rfl⟩
      · exact .inr ⟨assetId, hasset, rfl⟩
  · show (inserted.active.map _).Nodup
    rw [hactive, List.map_append, List.nodup_append]
    refine ⟨h.held, ?_, ?_⟩
    · rw [CaseTables.activeRows, List.map_map]
      refine hnodup.map ?_
      intro a b hab
      exact (Prod.ext_iff.mp hab).2
    · rintro a ha b hb rfl
      obtain ⟨row, hrow, heq⟩ := List.mem_map.mp ha
      obtain ⟨row', hrow', rfl⟩ := List.mem_map.mp hb
      obtain ⟨assetId, hasset, rfl⟩ := List.mem_map.mp hrow'
      obtain ⟨htenant, hid⟩ := Prod.ext_iff.mp heq
      have hholder := h.holder_eq_some.mpr (show ⟨case.tenantId, assetId, row.caseId⟩ ∈
        tables.active by
          rw [← show row.tenantId = case.tenantId from htenant,
            ← show row.assetId = assetId from hid]
          exact hrow)
      rw [hfree assetId hasset] at hholder
      cases hholder

/-- Appending an event to the current case keeps the projection. -/
theorem append (h : Projected tables) {current : RemediationCase} {event : CaseEvent}
    {appended : CaseTables} {v : ℕ} (hcurrent : tables.case? case.caseId = some current)
    (happend : tables.toCaseTables.append case event v = .ok appended)
    (hlive : current.terminal = false) (htenant : case.tenantId = current.tenantId)
    (hassets : case.assetIds = current.assetIds) (hfrom : event.fromState = current.state)
    (hto : event.toState = case.state) :
    Projected { toCaseTables := appended, caseAssets := tables.caseAssets } := by
  obtain ⟨hid, hsequence, hversion, ⟨found, hfound, hv⟩, hcases, hevents, hactive⟩ :=
    CaseTables.append_eq_ok happend
  obtain rfl : current = found := Option.some.inj (hcurrent.symm.trans hfound)
  obtain ⟨hcurrentMem, hcurrentId⟩ := h.mem_iff.mp hcurrent
  have hmem : ∀ other, other ∈ appended.cases ↔
      (other ∈ tables.cases ∧ other.caseId ≠ case.caseId) ∨ other = case := by
    intro other
    rw [hcases, Rows.mem_replace_iff]
    constructor
    · rintro (hold | ⟨rfl, -⟩)
      · exact .inl hold
      · exact .inr rfl
    · rintro (hold | rfl)
      · exact .inl hold
      · exact .inr ⟨rfl, current, hcurrentMem, hcurrentId⟩
  have hlogSelf : appended.log case.caseId = tables.log case.caseId ++ [event] := by
    rw [CaseTables.log, hevents, List.filter_append]
    simp [CaseTables.log, hid]
  have hlogOther : ∀ caseId, caseId ≠ case.caseId → appended.log caseId = tables.log caseId := by
    intro caseId hne
    rw [CaseTables.log, hevents, List.filter_append]
    have hskip : ¬event.caseId = caseId := fun heq => hne (heq.symm.trans hid)
    simp [CaseTables.log, hskip]
  have hsequences := h.sequences current hcurrentMem
  have hchained := h.chained current hcurrentMem
  rw [hcurrentId] at hsequences hchained
  constructor
  · show (appended.cases.map RemediationCase.caseId).Nodup
    rw [hcases, Rows.map_key_replace]
    exact h.keyed
  · intro other hother
    show (appended.log other.caseId).map CaseEvent.sequence = _
    rcases (hmem other).mp hother with ⟨hold, hne⟩ | rfl
    · rw [hlogOther _ hne]
      exact h.sequences other hold
    · rw [hlogSelf, List.map_append, hsequences, hversion, hv, List.range'_concat]
      simp [hsequence, Nat.add_comm]
  · intro other hother
    show Chained .opened (appended.log other.caseId) other.state
    rcases (hmem other).mp hother with ⟨hold, hne⟩ | rfl
    · rw [hlogOther _ hne]
      exact h.chained other hold
    · rw [hlogSelf, ← hto]
      exact hchained.snoc hfrom
  · intro other hother
    show appended.case? other.caseId ≠ none
    by_cases heq : case.caseId = other.caseId
    · rw [← heq, CaseTables.case?_append_self happend]
      exact Option.some_ne_none _
    · rw [CaseTables.case?_append_other happend heq]
      rw [hevents, List.mem_append, List.mem_singleton] at hother
      rcases hother with hold | rfl
      · exact h.owned other hold
      · exact absurd hid.symm heq
  · intro row
    show row ∈ tables.caseAssets ↔ _
    rw [h.assets row]
    constructor
    · rintro ⟨other, hother, assetId, hasset, rfl⟩
      by_cases heq : other.caseId = case.caseId
      · have hsame : other = current :=
          Option.some.inj ((h.case?_of_mem hother).symm.trans (heq ▸ hcurrent))
        refine ⟨case, (hmem case).mpr (.inr rfl), assetId, ?_, ?_⟩
        · rwa [hassets, ← hsame]
        · simp [SqliteCaseStore.caseAsset, hsame, hcurrentId, htenant]
      · exact ⟨other, (hmem other).mpr (.inl ⟨hother, heq⟩), assetId, hasset, rfl⟩
    · rintro ⟨other, hother, assetId, hasset, rfl⟩
      rcases (hmem other).mp hother with ⟨hold, -⟩ | rfl
      · exact ⟨other, hold, assetId, hasset, rfl⟩
      · refine ⟨current, hcurrentMem, assetId, hassets ▸ hasset, ?_⟩
        simp [SqliteCaseStore.caseAsset, hcurrentId, htenant]
  · intro row
    show row ∈ appended.active ↔ _
    have hkept : row ∈ appended.active ↔
        row ∈ tables.active ∧ (case.terminal = true → row.caseId ≠ case.caseId) := by
      rw [hactive]
      by_cases hterminal : case.terminal = true
      · simp [hterminal]
      · simp [hterminal]
    rw [hkept, h.active row]
    constructor
    · rintro ⟨⟨other, hother, hlive', assetId, hasset, rfl⟩, hkeep⟩
      by_cases heq : other.caseId = case.caseId
      · have hsame : other = current :=
          Option.some.inj ((h.case?_of_mem hother).symm.trans (heq ▸ hcurrent))
        refine ⟨case, (hmem case).mpr (.inr rfl), ?_, assetId, ?_, ?_⟩
        · rw [← Bool.not_eq_true]
          exact fun hterminal => hkeep hterminal heq
        · rwa [hassets, ← hsame]
        · simp [SqliteCaseStore.activeAsset, hsame, hcurrentId, htenant]
      · exact ⟨other, (hmem other).mpr (.inl ⟨hother, heq⟩), hlive', assetId, hasset, rfl⟩
    · rintro ⟨other, hother, hlive', assetId, hasset, rfl⟩
      rcases (hmem other).mp hother with ⟨hold, hne⟩ | rfl
      · exact ⟨⟨other, hold, hlive', assetId, hasset, rfl⟩, fun _ => hne⟩
      · refine ⟨⟨current, hcurrentMem, hlive, assetId, hassets ▸ hasset, ?_⟩, ?_⟩
        · simp [SqliteCaseStore.activeAsset, hcurrentId, htenant]
        · intro hterminal
          rw [hlive'] at hterminal
          cases hterminal
  · show (appended.active.map _).Nodup
    rw [hactive]
    split
    · exact h.held.sublist (List.filter_sublist.map _)
    · exact h.held

end Projected

end ElCapitan
