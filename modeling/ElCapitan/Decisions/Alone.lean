import ElCapitan.Decisions.Setting
import Mathlib.Data.Set.Finite.Basic

/-!
# A call that is alone

The environment of one call beside which nothing else runs: the stores do what they do,
except that one durable write may raise without effect; ids are unused, the clock tells a
time it may tell, and files are written. The rules say how a program proceeds there.
-/

namespace ElCapitan

open Effects

/-- An id that no row of the stores has. -/
structure Stores.Unused (s : Stores) (id : String) : Prop where
  nonempty : id ≠ ""
  records : ∀ record ∈ s.records, record.recordId ≠ id
  jobs : ∀ job ∈ s.jobs, job.jobId ≠ id
  events : ∀ event ∈ s.cases.events, event.eventId ≠ id

/-- What the clock, the ids and the files answer. -/
def quietAnswer (clock : String → Prop) (s : Stores) :
    (o : Operation) → Except PyError o.Answer → Prop
  | .now, r => ∃ time, r = .ok time ∧ clock time
  | .newId kind, r => ∃ id, r = .ok id ∧ s.Unused id ∧ (kind = "EVD" → isEvidenceId id = true)
  | .makeDirectory _ _, r => r = .ok ()
  | .writeNew _ _, r => r = .ok ()
  | _, _ => True

/-- The environment of a call that is alone, with the write that fails. -/
def aloneWorld (clock : String → Prop) (failed : Option DurableWrite) :
    Env operations PyError Stores := fun s o r s' =>
  match s.perform o with
  | some result =>
    if writeOf o ≠ none ∧ writeOf o = failed then (∃ e, r = .error e) ∧ s' = s
    else (r, s') = result
  | none => quietAnswer clock s o r ∧ s' = s

section total

/-- The `n`-th of infinitely many evidence ids. -/
def evidenceIdOf (n : ℕ) : String := String.ofList ("EVD-".toList ++ List.replicate (n + 3) '0')

/-- A numbered evidence id is an evidence id. -/
theorem isEvidenceId_evidenceIdOf (n : ℕ) : isEvidenceId (evidenceIdOf n) = true := by
  have htake : (evidenceIdOf n).toList.take 4 = ['E', 'V', 'D', '-'] := by
    simp [evidenceIdOf]
  have hdrop : (evidenceIdOf n).toList.drop 4 = List.replicate (n + 3) '0' := by
    simp [evidenceIdOf]
  have hlast : (List.replicate (n + 3) '0').getLast? ≠ some '\n' := by
    simp [List.getLast?_replicate]
  unfold isEvidenceId
  dsimp only
  rw [htake, hdrop, if_neg hlast]
  simp

/-- Different numbers give different evidence ids. -/
theorem evidenceIdOf_injective : Function.Injective evidenceIdOf := by
  intro m n h
  have hlength := congrArg (fun id : String => id.toList.length) h
  simp [evidenceIdOf] at hlength
  omega

/-- There is an evidence id that no row has. -/
theorem Stores.exists_unused (s : Stores) : ∃ id, s.Unused id ∧ isEvidenceId id = true := by
  let taken : List String := s.records.map ProductRecord.recordId ++
    s.jobs.map ExecutionJob.jobId ++ s.cases.events.map CaseEvent.eventId
  have hfinite : {id | id ∈ taken}.Finite := List.finite_toSet taken
  obtain ⟨id, ⟨n, rfl⟩, hfree⟩ :=
    (Set.infinite_range_of_injective evidenceIdOf_injective).exists_notMem_finite hfinite
  simp only [taken, Set.mem_ofPred_eq, List.mem_append, List.mem_map, not_or, not_exists,
    not_and] at hfree
  refine ⟨evidenceIdOf n, ⟨?_, hfree.1.1, hfree.1.2, hfree.2⟩, isEvidenceId_evidenceIdOf n⟩
  intro hempty
  have hid := isEvidenceId_evidenceIdOf n
  rw [hempty] at hid
  exact absurd hid (by decide)

/-- Every operation gets an answer, once the clock may tell some time. -/
theorem aloneWorld_total {clock : String → Prop} {time : String} (htime : clock time)
    (failed : Option DurableWrite) (s : Stores) (o : Operation) :
    ∃ r s', aloneWorld clock failed s o r s' := by
  unfold aloneWorld
  cases hperform : s.perform o with
  | some result =>
    by_cases hfails : writeOf o ≠ none ∧ writeOf o = failed
    · exact ⟨.error (valueError ""), s, by simp only [if_pos hfails]; exact ⟨⟨_, rfl⟩, trivial⟩⟩
    · exact ⟨result.1, result.2, by simp only [if_neg hfails]⟩
  | none =>
    obtain ⟨id, hunused, hevidence⟩ := s.exists_unused
    cases o
    case now => exact ⟨_, s, ⟨time, rfl, htime⟩, rfl⟩
    case newId kind => exact ⟨_, s, ⟨id, rfl, hunused, fun _ => hevidence⟩, rfl⟩
    case makeDirectory => exact ⟨_, s, rfl, rfl⟩
    case writeNew => exact ⟨_, s, rfl, rfl⟩
    all_goals exact ⟨.error (valueError ""), s, trivial, rfl⟩

end total

/-- How a program that is alone ends. -/
abbrev Ends {α : Type} (clock : String → Prop) (failed : Option DurableWrite) (p : Service α)
    (Q : Except PyError α → Stores → Prop) (s : Stores) : Prop :=
  Sat (aloneWorld clock failed) (fun _ _ => True) p Q s

section rules

variable {α β : Type} {clock : String → Prop} {failed : Option DurableWrite} {s : Stores}
  {Q : Except PyError β → Stores → Prop}

/-- An operation that leaves the stores alone. -/
theorem Ends.quiet {o : Operation} {f : o.Answer → Service β} (hnone : s.perform o = none)
    (hraise : ∀ e, ¬quietAnswer clock s o (.error e))
    (hf : ∀ a, quietAnswer clock s o (.ok a) → Ends clock failed (f a) Q s) :
    Ends clock failed ((perform o).bind f) Q s := by
  refine sat_bind_perform_iff.mpr ⟨trivial, fun a s' hstep => ?_, fun e s' hstep => ?_⟩
  · simp only [aloneWorld, hnone] at hstep
    obtain ⟨hanswer, rfl⟩ := hstep
    exact hf a hanswer
  · simp only [aloneWorld, hnone] at hstep
    exact absurd hstep.1 (hraise e)

/-- The time is one of the clock. -/
theorem Ends.now {f : String → Service β}
    (hf : ∀ time, clock time → Ends clock failed (f time) Q s) :
    Ends clock failed ((perform .now).bind f) Q s := by
  refine Ends.quiet rfl ?_ ?_
  · rintro e ⟨time, heq, -⟩
    cases heq
  · rintro time ⟨told, heq, htold⟩
    cases heq
    exact hf _ htold

/-- A fresh id is unused, and one for evidence is an evidence id. -/
theorem Ends.newId {kind : String} {f : String → Service β}
    (hf : ∀ id, s.Unused id → (kind = "EVD" → isEvidenceId id = true) →
      Ends clock failed (f id) Q s) :
    Ends clock failed ((perform (.newId kind)).bind f) Q s := by
  refine Ends.quiet rfl ?_ ?_
  · rintro e ⟨id, heq, -⟩
    cases heq
  · rintro id ⟨drawn, heq, hunused, hevidence⟩
    cases heq
    exact hf _ hunused hevidence

/-- A store operation that does what the store does. -/
theorem Ends.store {o : Operation} {f : o.Answer → Service β}
    {r : Except PyError o.Answer × Stores} (hperform : s.perform o = some r)
    (hwrite : writeOf o = none ∨ writeOf o ≠ failed)
    (hok : ∀ a, r.1 = .ok a → Ends clock failed (f a) Q r.2)
    (herror : ∀ e, r.1 = .error e → Q (.error e) r.2) :
    Ends clock failed ((perform o).bind f) Q s := by
  have hlive : ¬(writeOf o ≠ none ∧ writeOf o = failed) := by tauto
  refine sat_bind_perform_iff.mpr ⟨trivial, fun a s' hstep => ?_, fun e s' hstep => ?_⟩
  · simp only [aloneWorld, hperform, if_neg hlive] at hstep
    subst hstep
    exact hok a rfl
  · simp only [aloneWorld, hperform, if_neg hlive] at hstep
    subst hstep
    exact herror e rfl

/-- The durable write that fails. -/
theorem Ends.fails {o : Operation} {f : o.Answer → Service β} {w : DurableWrite}
    {r : Except PyError o.Answer × Stores} (hperform : s.perform o = some r)
    (hwrite : writeOf o = some w) (hfailed : failed = some w) (hraise : ∀ e, Q (.error e) s) :
    Ends clock failed ((perform o).bind f) Q s := by
  have hfails : writeOf o ≠ none ∧ writeOf o = failed := by simp [hwrite, hfailed]
  refine sat_bind_perform_iff.mpr ⟨trivial, fun a s' hstep => ?_, fun e s' hstep => ?_⟩
  · simp only [aloneWorld, hperform, if_pos hfails] at hstep
    obtain ⟨⟨e, he⟩, -⟩ := hstep
    cases he
  · simp only [aloneWorld, hperform, if_pos hfails] at hstep
    obtain ⟨-, rfl⟩ := hstep
    exact hraise e

/-- A case of the table is read. -/
theorem Ends.getCase {caseId : String} {case : RemediationCase} {f : RemediationCase → Service β}
    (hcase : s.cases.case? caseId = some case) (hf : Ends clock failed (f case) Q s) :
    Ends clock failed ((perform (.getCase caseId)).bind f) Q s := by
  refine Ends.store (r := (.ok case, s)) ?_ (.inl rfl) ?_ ?_
  · show some (s.cases.get caseId, s) = _
    rw [CaseTables.get_eq_ok.mpr hcase]
  · rintro a heq
    cases heq
    exact hf
  · rintro e heq
    cases heq

/-- A record of the table is read. -/
theorem Ends.getRecord {recordId : String} {record : ProductRecord} {f : ProductRecord → Service β}
    (hrecord : RecordTable.get s.records recordId = .ok record)
    (hf : Ends clock failed (f record) Q s) :
    Ends clock failed ((perform (.getRecord recordId)).bind f) Q s := by
  refine Ends.store (r := (.ok record, s)) ?_ (.inl rfl) ?_ ?_
  · show some (RecordTable.get s.records recordId, s) = _
    rw [hrecord]
  · rintro a heq
    cases heq
    exact hf
  · rintro e heq
    cases heq

/-- A record with an unused id is put, unless this write fails. -/
theorem Ends.putRecord {record : ProductRecord} {w : DurableWrite} {f : Unit → Service β}
    (hunused : ∀ other ∈ s.records, other.recordId ≠ record.recordId)
    (hwrite : writeOf (.putRecord record) = some w)
    (hf : failed ≠ some w → Ends clock failed (f ()) Q { s with records := s.records ++ [record] })
    (hraise : failed = some w → ∀ e, Q (.error e) s) :
    Ends clock failed ((perform (.putRecord record)).bind f) Q s := by
  have hput : RecordTable.put s.records record = .ok (s.records ++ [record]) := by
    unfold RecordTable.put
    rw [if_neg (not_not.mpr (Rows.find_eq_none.mpr hunused))]
  have hperform : s.perform (.putRecord record) =
      some (.ok (), { s with records := s.records ++ [record] }) := by
    show some (commit s (RecordTable.put s.records record) _ _) = _
    rw [hput]
    rfl
  by_cases hfailed : failed = some w
  · exact Ends.fails hperform hwrite hfailed (hraise hfailed)
  · refine Ends.store hperform (.inr (by rw [hwrite]; exact Ne.symm hfailed)) ?_ ?_
    · rintro a -
      exact hf hfailed
    · rintro e heq
      cases heq

/-- A job is put if its case has no job row and this write does not fail. -/
theorem Ends.putJob {job : ExecutionJob} {f : Unit → Service β}
    (hunused : ∀ other ∈ s.jobs, other.jobId ≠ job.jobId)
    (hf : (∀ other ∈ s.jobs, other.caseId ≠ job.caseId) → failed ≠ some .job →
      Ends clock failed (f ()) Q { s with jobs := s.jobs ++ [job] })
    (hraise : ¬(∀ other ∈ s.jobs, other.caseId ≠ job.caseId) ∨ failed = some .job →
      ∀ e, Q (.error e) s) :
    Ends clock failed ((perform (.putJob job)).bind f) Q s := by
  by_cases hfree : ∀ other ∈ s.jobs, other.caseId ≠ job.caseId
  · have hput : JobTable.put s.jobs job = .ok (s.jobs ++ [job]) := by
      unfold JobTable.put
      rw [if_neg]
      rintro ⟨other, hother, heq | heq⟩
      · exact hunused other hother heq
      · exact hfree other hother heq
    have hperform : s.perform (.putJob job) =
        some (.ok (), { s with jobs := s.jobs ++ [job] }) := by
      show some (commit s (JobTable.put s.jobs job) _ _) = _
      rw [hput]
      rfl
    by_cases hfailed : failed = some .job
    · exact Ends.fails hperform rfl hfailed (hraise (.inr hfailed))
    · refine Ends.store hperform (.inr (Ne.symm hfailed)) ?_ ?_
      · rintro a -
        exact hf hfree hfailed
      · rintro e heq
        cases heq
  · have hput : ∃ e, JobTable.put s.jobs job = .error e := by
      unfold JobTable.put
      rw [if_pos]
      · exact ⟨_, rfl⟩
      · simp only [not_forall, not_not] at hfree
        obtain ⟨other, hother, heq⟩ := hfree
        exact ⟨other, hother, .inr heq⟩
    obtain ⟨e, hput⟩ := hput
    have hperform : s.perform (.putJob job) = some (.error e, s) := by
      show some (commit s (JobTable.put s.jobs job) _ _) = _
      rw [hput]
      rfl
    by_cases hfailed : failed = some .job
    · exact Ends.fails hperform rfl hfailed (hraise (.inr hfailed))
    · refine Ends.store hperform (.inr (Ne.symm hfailed)) ?_ ?_
      · rintro a heq
        cases heq
      · rintro e' -
        exact hraise (.inl hfree) e'

/-- Evidence under an evidence id is written. -/
theorem Ends.writeEvidence {P : Platform} {runDir evidenceId kind payload : String}
    {collector : Collector} {sensitivity commandId now : String} {f : EvidenceRef → Service β}
    (hid : isEvidenceId evidenceId = true) (hf : ∀ ref, Ends clock failed (f ref) Q s) :
    Ends clock failed ((ElCapitan.writeEvidence P runDir evidenceId kind payload collector
      sensitivity commandId now).bind f) Q s := by
  unfold ElCapitan.writeEvidence
  simp only [Prog.bind_eq, Prog.pure_eq, Prog.bind_assoc, Prog.ret_bind]
  have hwritten : ∀ (e : PyError) (x : Except PyError Unit), x = .ok () → x ≠ .error e := by
    rintro e x rfl h
    cases h
  refine sat_bind_raiseIf.mpr ⟨fun _ => ?_, fun h => by simp [hid] at h⟩
  refine Ends.quiet rfl (fun e h => hwritten e _ h rfl) fun _ _ => ?_
  exact Ends.quiet rfl (fun e h => hwritten e _ h rfl) fun _ _ => hf _

/-- In sequenced stores an accepted transition of a stored case is appended. -/
theorem Stores.Sequenced.append_ok (hs : s.Sequenced) {base case : RemediationCase}
    {event : CaseEvent} {transition : CaseTransition} {args : TransitionArgs}
    (hbase : s.cases.case? base.caseId = some base)
    (hnext : transitionCase base transition args = .ok (case, event))
    (hunused : ∀ other ∈ s.cases.events, other.eventId ≠ args.eventId) :
    ∃ tables, s.cases.append case event base.version = .ok tables := by
  obtain ⟨target, haccepted⟩ := transitionCase_accepted hnext
  have hid : event.caseId = case.caseId := haccepted.eventCase.trans haccepted.caseId.symm
  have hsequence := haccepted.eventSequence
  have hversion := haccepted.version
  unfold CaseTables.append
  rw [if_neg (not_not.mpr hid), if_neg (by omega), haccepted.caseId, hbase]
  dsimp only
  rw [if_neg (by simp), if_neg]
  · exact ⟨_, rfl⟩
  · rintro ⟨other, hother, heq | ⟨hcase, hseq⟩⟩
    · exact hunused other hother (heq.trans (transitionCase_eventId hnext))
    · obtain ⟨owner, howner, hle⟩ := hs other hother
      rw [hcase, haccepted.eventCase, hbase] at howner
      cases howner
      omega

/-- An accepted transition of a stored case is applied, unless the append fails. -/
theorem Ends.advance {caseId : String} {transition : CaseTransition} {args : TransitionArgs}
    {base : RemediationCase} {w : DurableWrite} {f : RemediationCase → Service β}
    (hs : s.Sequenced) (hbase : s.cases.case? caseId = some base)
    (hallowed : ∃ case event, transitionCase base transition args = .ok (case, event))
    (hunused : ∀ other ∈ s.cases.events, other.eventId ≠ args.eventId)
    (hwrite : ∀ case event v, event.transition = transition →
      writeOf (.appendCase case event v) = some w)
    (hf : failed ≠ some w → ∀ case event tables,
      transitionCase base transition args = .ok (case, event) →
      s.cases.append case event base.version = .ok tables →
      ({ s with cases := tables } : Stores).Sequenced →
      Ends clock failed (f case) Q { s with cases := tables })
    (hraise : failed = some w → ∀ e, Q (.error e) s) :
    Ends clock failed ((ElCapitan.advance caseId transition args).bind f) Q s := by
  obtain ⟨case, event, hnext⟩ := hallowed
  have hid : base.caseId = caseId := CaseTables.case?_caseId hbase
  obtain ⟨tables, happend⟩ := hs.append_ok (by rw [hid]; exact hbase) hnext hunused
  have hperform : s.perform (.appendCase case event base.version) =
      some (.ok (), { s with cases := tables }) := by
    show some (commit s (s.cases.append case event base.version) _ _) = _
    rw [happend]
    rfl
  unfold ElCapitan.advance
  simp only [Prog.bind_eq, Prog.pure_eq, Prog.bind_assoc, Prog.ret_bind]
  refine Ends.store (r := (.ok base, s)) ?_ (.inl rfl) ?_ ?_
  · show some (s.cases.get caseId, s) = _
    rw [CaseTables.get_eq_ok.mpr hbase]
  · rintro a heq
    cases heq
    rw [hnext]
    refine sat_bind_ofExcept.mpr ⟨?_, fun e he => by cases he⟩
    rintro next heq
    cases heq
    have htransition := hwrite case event base.version (event_transition hnext)
    by_cases hfailed : failed = some w
    · exact Ends.fails hperform htransition hfailed (hraise hfailed)
    · refine Ends.store hperform (.inr (by rw [htransition]; exact Ne.symm hfailed)) ?_ ?_
      · rintro _ -
        have hstep : StoreStep s ⟨.appendCase case event base.version, .ok ()⟩
            { s with cases := tables } :=
          ⟨⟨none, fun _ => .error (valueError "")⟩, by simp only [performWith, hperform]⟩
        exact hf hfailed case event tables hnext happend (hstep.sequenced hs)
      · rintro e he
        cases he
  · rintro e he
    cases he

end rules

end ElCapitan
