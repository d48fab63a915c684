import ElCapitan.Services.Operations

/-!
# What an operation leaves alone

For each of the shared tables, the operations that change it and how.
-/

namespace ElCapitan

open Effects

variable {stores stores' : Stores} {o : Operation} {r : Except PyError o.Answer}

/-- What is committed is put in place, and an error leaves the tables alone. -/
theorem commit_cases {α τ : Type} {result : Except PyError τ} {answer : τ → α} {put : τ → Stores}
    {out : Except PyError α} (h : commit stores result answer put = (out, stores')) :
    (∃ table, result = .ok table ∧ out = .ok (answer table) ∧ stores' = put table) ∨
      ∃ e, result = .error e ∧ out = .error e ∧ stores' = stores := by
  cases result with
  | ok table =>
    cases h
    exact .inl ⟨table, rfl, rfl, rfl⟩
  | error e =>
    cases h
    exact .inr ⟨e, rfl, rfl, rfl⟩

/-- What a store operation does to the records. -/
theorem perform_records (h : stores.perform o = some (r, stores')) :
    stores'.records = stores.records ∨ ∃ record, (⟨o, r⟩ : Event operations PyError) =
      ⟨.putRecord record, .ok ()⟩ ∧ stores'.records = stores.records ++ [record] := by
  cases o
  case putRecord record =>
    obtain ⟨table, hput, rfl, rfl⟩ | ⟨e, -, rfl, rfl⟩ := commit_cases (Option.some.inj h)
    · exact .inr ⟨record, rfl, (RecordTable.put_eq_ok hput).2⟩
    · exact .inl rfl
  case insertCase | appendCase | putFinding | assignFinding | putJob =>
    obtain ⟨table, -, rfl, rfl⟩ | ⟨e, -, rfl, rfl⟩ := commit_cases (Option.some.inj h)
    · exact .inl rfl
    · exact .inl rfl
  all_goals cases h <;> exact .inl rfl

/-- The records after a step are those before it, and one more if it put one. -/
theorem world_records (h : world stores o r stores') :
    stores'.records = stores.records ∨ ∃ record, (⟨o, r⟩ : Event operations PyError) =
      ⟨.putRecord record, .ok ()⟩ ∧ stores'.records = stores.records ++ [record] := by
  rcases world_cases h with h | ⟨rfl, -⟩
  · exact perform_records h
  · exact .inl rfl

/-- A record that was put is the last one. -/
theorem world_putRecord {record : ProductRecord}
    (h : world stores (.putRecord record) (.ok ()) stores') :
    stores'.records = stores.records ++ [record] := by
  have hput := world_ok h (by rintro ⟨⟩)
  obtain ⟨table, htable, -, rfl⟩ | ⟨e, -, he, -⟩ := commit_cases (Option.some.inj hput)
  · exact (RecordTable.put_eq_ok htable).2
  · cases he

/-- What a store operation does to the cases. -/
theorem perform_caseTables (h : stores.perform o = some (r, stores')) :
    stores'.cases = stores.cases ∨
      (∃ case, (⟨o, r⟩ : Event operations PyError) = ⟨.insertCase case, .ok ()⟩ ∧
        stores.cases.insert case = .ok stores'.cases) ∨
      ∃ case event v, (⟨o, r⟩ : Event operations PyError) = ⟨.appendCase case event v, .ok ()⟩ ∧
        stores.cases.append case event v = .ok stores'.cases := by
  cases o
  case insertCase case =>
    obtain ⟨table, hinsert, rfl, rfl⟩ | ⟨e, -, rfl, rfl⟩ := commit_cases (Option.some.inj h)
    · exact .inr (.inl ⟨case, rfl, hinsert⟩)
    · exact .inl rfl
  case appendCase case event v =>
    obtain ⟨table, happend, rfl, rfl⟩ | ⟨e, -, rfl, rfl⟩ := commit_cases (Option.some.inj h)
    · exact .inr (.inr ⟨case, event, v, rfl, happend⟩)
    · exact .inl rfl
  case putRecord | putFinding | assignFinding | putJob =>
    obtain ⟨table, -, rfl, rfl⟩ | ⟨e, -, rfl, rfl⟩ := commit_cases (Option.some.inj h)
    · exact .inl rfl
    · exact .inl rfl
  all_goals cases h <;> exact .inl rfl

/-- An operation leaves the cases alone, or it inserts a case or appends an event. -/
theorem world_caseTables (h : world stores o r stores') :
    stores'.cases = stores.cases ∨
      (∃ case, (⟨o, r⟩ : Event operations PyError) = ⟨.insertCase case, .ok ()⟩ ∧
        stores.cases.insert case = .ok stores'.cases) ∨
      ∃ case event v, (⟨o, r⟩ : Event operations PyError) = ⟨.appendCase case event v, .ok ()⟩ ∧
        stores.cases.append case event v = .ok stores'.cases := by
  rcases world_cases h with h | ⟨rfl, -⟩
  · exact perform_caseTables h
  · exact .inl rfl

/-- What a store operation does to the findings. -/
theorem perform_findings (h : stores.perform o = some (r, stores')) :
    stores'.findings = stores.findings ∨
      (∃ finding, (⟨o, r⟩ : Event operations PyError) = ⟨.putFinding finding, .ok ()⟩ ∧
        stores.findings.put finding = .ok stores'.findings) ∨
      ∃ findingId caseId, (⟨o, r⟩ : Event operations PyError) =
          ⟨.assignFinding findingId caseId, .ok ()⟩ ∧
        stores.findings.assign findingId caseId = .ok stores'.findings := by
  cases o
  case putFinding finding =>
    obtain ⟨table, hput, rfl, rfl⟩ | ⟨e, -, rfl, rfl⟩ := commit_cases (Option.some.inj h)
    · exact .inr (.inl ⟨finding, rfl, hput⟩)
    · exact .inl rfl
  case assignFinding findingId caseId =>
    obtain ⟨table, hassign, rfl, rfl⟩ | ⟨e, -, rfl, rfl⟩ := commit_cases (Option.some.inj h)
    · exact .inr (.inr ⟨findingId, caseId, rfl, hassign⟩)
    · exact .inl rfl
  case insertCase | appendCase | putRecord | putJob =>
    obtain ⟨table, -, rfl, rfl⟩ | ⟨e, -, rfl, rfl⟩ := commit_cases (Option.some.inj h)
    · exact .inl rfl
    · exact .inl rfl
  all_goals cases h <;> exact .inl rfl

/-- An operation leaves the findings alone, or it puts one or assigns one. -/
theorem world_findings (h : world stores o r stores') :
    stores'.findings = stores.findings ∨
      (∃ finding, (⟨o, r⟩ : Event operations PyError) = ⟨.putFinding finding, .ok ()⟩ ∧
        stores.findings.put finding = .ok stores'.findings) ∨
      ∃ findingId caseId, (⟨o, r⟩ : Event operations PyError) =
          ⟨.assignFinding findingId caseId, .ok ()⟩ ∧
        stores.findings.assign findingId caseId = .ok stores'.findings := by
  rcases world_cases h with h | ⟨rfl, -⟩
  · exact perform_findings h
  · exact .inl rfl

/-- The operations that leave the jobs alone. -/
def JobFree : Operation → Prop
  | .putJob _ | .claimDue _ _ _ | .completeJob _ _ _ _ => False
  | _ => True

/-- An operation without jobs leaves the jobs alone. -/
theorem perform_jobs (h : stores.perform o = some (r, stores')) (ho : JobFree o) :
    stores'.jobs = stores.jobs := by
  cases o
  case putJob | claimDue | completeJob => cases ho
  case insertCase | appendCase | putFinding | assignFinding | putRecord =>
    obtain ⟨table, -, rfl, rfl⟩ | ⟨e, -, rfl, rfl⟩ := commit_cases (Option.some.inj h)
    · rfl
    · rfl
  all_goals cases h <;> rfl

/-- A step with another operation leaves the jobs alone. -/
theorem world_jobs (h : world stores o r stores') (ho : JobFree o) :
    stores'.jobs = stores.jobs := by
  rcases world_cases h with h | ⟨rfl, -⟩
  · exact perform_jobs h ho
  · rfl

/-- A reading leaves the stores alone and answers what they hold. -/
theorem sat_bind_read {α : Type} {s : Stores} {o : Operation} {f : o.Answer → Service α}
    {Q : Except PyError α → Stores → Prop} {answer : Except PyError o.Answer}
    (hread : s.perform o = some (answer, s))
    (hok : ∀ a, answer = .ok a → Sat world (fun _ _ => True) (f a) Q s)
    (herror : ∀ e, Q (.error e) s) :
    Sat world (fun _ _ => True) ((perform o).bind f) Q s := by
  have hsame : ∀ r s', world s o r s' → s' = s ∧ ((∃ a, r = .ok a) → r = answer) := by
    intro r s' hstep
    rcases world_cases hstep with hdone | ⟨rfl, hnone | ⟨e, rfl⟩⟩
    · rw [hread] at hdone
      cases hdone
      exact ⟨rfl, fun _ => rfl⟩
    · rw [hread] at hnone
      cases hnone
    · exact ⟨rfl, by simp⟩
  refine Effects.sat_bind_perform_iff.mpr ⟨trivial, fun a s' hstep => ?_, fun e s' hstep => ?_⟩
  · obtain ⟨rfl, hanswer⟩ := hsame _ _ hstep
    exact hok a (hanswer ⟨a, rfl⟩).symm
  · obtain ⟨rfl, -⟩ := hsame _ _ hstep
    exact herror e

end ElCapitan
