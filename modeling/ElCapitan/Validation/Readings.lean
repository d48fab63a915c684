import ElCapitan.ControlPacks.Confined
import ElCapitan.Decisions.Alone
import ElCapitan.Services.Validation

/-!
# Live readings

A validation beside which nothing else runs, with the behaviour of the live reader for each finding:
a state, or an error. What is known of a resource is what the first finding of it was read as, and
what the check of a finding says depends on that alone.
-/

namespace ElCapitan

open Effects

section behaviour

/-- The behaviour of a live reader. -/
abbrev Reader := StoredFinding → Except PyError CloudState

/-- A reader returns a state or raises `OSError` or `ValueError`. -/
def Reader.Tolerated (reader : Reader) : Prop :=
  ∀ finding e, reader finding = .error e → e.kind = .osError ∨ e.kind.isValueError = true

/-- The evaluators return a verdict or raise `ValueError`. -/
def Settings.EvaluatorsTolerated (S : Settings) : Prop :=
  ∀ provider ruleId resourceType control, S.control provider ruleId resourceType = some control →
    ∀ values e, control.evaluate values = .error e → e.kind.isValueError = true

/-- The parts of a stored record that validation reads are there, as the schema of a record asks. -/
structure StoredFinding.Readable (P : Platform) (finding : StoredFinding) : Prop where
  rule : ∃ ruleId, finding.ruleId P = .ok ruleId
  type : ∃ resourceType, finding.resourceType P = .ok resourceType

/-- The resource of a finding. -/
def StoredFinding.resourceKey (finding : StoredFinding) : String × String :=
  (finding.provider, finding.resourceUid)

/-- What the reading of a finding's resource gives: its state, or the text of an error. -/
def Reader.reading (reader : Reader) (finding : StoredFinding) : Except String CloudState :=
  match reader finding with
  | .ok state =>
    if state.provider ≠ finding.provider ∨ state.resourceUid ≠ finding.resourceUid then
      .error ("live reader returned state for a different resource: expected " ++
        finding.provider ++ ":" ++ finding.resourceUid ++ ", got " ++ state.provider ++
        ":" ++ state.resourceUid)
    else .ok state
  | .error e => .error e.message

/-- The first finding of a resource. -/
def firstOf (findings : List StoredFinding) (key : String × String) : Option StoredFinding :=
  findings.find? fun finding => finding.resourceKey = key

/-- What the check of a finding says, after a reading of its resource. -/
def checkUnder (S : Settings) (finding : StoredFinding) (reading : Except String CloudState) :
    FindingValidationStatus × String :=
  match reading with
  | .error message => (.unavailable, message)
  | .ok state =>
    match evaluateFinding S finding state [] with
    | .ok result => (result.status, result.reason)
    | .error e => (.unavailable, e.message)

/-- What the check of a finding says among the findings of a case. -/
def checkOf (S : Settings) (reader : Reader) (findings : List StoredFinding)
    (finding : StoredFinding) : FindingValidationStatus × String :=
  checkUnder S finding (reader.reading ((firstOf findings finding.resourceKey).getD finding))

end behaviour

section environment

/-- The environment of a validation that is alone, with the findings that the reader was called
for. -/
def readingWorld (reader : Reader) (clock : String → Prop) :
    Env operations PyError (Stores × List StoredFinding) := fun s o r s' =>
  match o, r with
  | .readLive finding _, r => r = reader finding ∧ s'.1 = s.1 ∧ s'.2 = s.2 ++ [finding]
  | o, r => aloneWorld clock none s.1 o r s'.1 ∧ s'.2 = s.2

/-- A program that does not call the reader. -/
def Silent {α : Type} : Service α → Prop
  | .ret _ => True
  | .raise _ => True
  | .call o next => (∀ finding hostEnv, o ≠ .readLive finding hostEnv) ∧ ∀ r, Silent (next r)

variable {α β : Type} {reader : Reader} {clock : String → Prop} {s : Stores}
  {calls : List StoredFinding}

/-- An operation that reads nothing live changes the stores alone. -/
theorem readingWorld_other {o : Operation} {r : Except PyError o.Answer}
    {state state' : Stores × List StoredFinding}
    (ho : ∀ finding hostEnv, o ≠ .readLive finding hostEnv) :
    readingWorld reader clock state o r state' ↔
      aloneWorld clock none state.1 o r state'.1 ∧ state'.2 = state.2 := by
  unfold readingWorld
  split
  · exact absurd rfl (ho _ _)
  · rfl

/-- A program that does not call the reader ends as it does alone. -/
theorem Silent.sat {p : Service α} {Q : Except PyError α → Stores → Prop} (hp : Silent p)
    (h : Ends clock none p Q s) :
    Sat (readingWorld reader clock) (fun _ _ => True) p
      (fun r s' => Q r s'.1 ∧ s'.2 = calls) (s, calls) := by
  induction p generalizing s with
  | ret a => exact ⟨h, rfl⟩
  | raise e => exact ⟨h, rfl⟩
  | call o next ih =>
    obtain ⟨ho, hnext⟩ := hp
    refine ⟨trivial, fun r state' hstep => ?_⟩
    obtain ⟨halone, hcalls⟩ := (readingWorld_other ho).mp hstep
    obtain ⟨s', calls'⟩ := state'
    dsimp only at halone hcalls
    subst hcalls
    exact ih r (hnext r) (h.2 r s' halone)

/-- A sequence is silent where its parts are. -/
theorem Silent.bind {p : Service α} {f : α → Service β} (hp : Silent p) (hf : ∀ a, Silent (f a)) :
    Silent (p.bind f) := by
  induction p with
  | ret a => exact hf a
  | raise e => trivial
  | call o next ih => exact ⟨hp.1, fun r => ih r (hp.2 r)⟩

/-- A result without effects is silent. -/
theorem silent_ofExcept (x : Except PyError α) : Silent (.ofExcept x : Service α) := by
  cases x with
  | ok a => trivial
  | error e => trivial

/-- A check is silent. -/
theorem silent_raiseIf {c : Prop} [Decidable c] {e : PyError} :
    Silent (.raiseIf c e : Service Unit) := by
  unfold Prog.raiseIf
  split
  · trivial
  · trivial

/-- An operation that reads nothing live is silent. -/
theorem silent_perform {o : Operation} (ho : ∀ finding hostEnv, o ≠ .readLive finding hostEnv) :
    Silent (perform o) := ⟨ho, fun r => silent_ofExcept r⟩

/-- Evidence is written without a reading. -/
theorem silent_writeEvidence {P : Platform} {runDir evidenceId kind payload : String}
    {collector : Collector} {sensitivity commandId now : String} :
    Silent (writeEvidence P runDir evidenceId kind payload collector sensitivity commandId
      now) := by
  unfold writeEvidence
  refine silent_raiseIf.bind fun _ => ?_
  refine (silent_perform fun _ _ h => by cases h).bind fun _ => ?_
  exact (silent_perform fun _ _ h => by cases h).bind fun _ => trivial

/-- A case is advanced without a reading. -/
theorem silent_advance {caseId : String} {transition : CaseTransition} {args : TransitionArgs} :
    Silent (advance caseId transition args) := by
  unfold advance
  refine (silent_perform fun _ _ h => by cases h).bind fun current => ?_
  refine (silent_ofExcept _).bind fun next => ?_
  exact (silent_perform fun _ _ h => by cases h).bind fun _ => trivial

/-- How a program ends beside a reader, after a part that ends alone. -/
theorem Silent.sat_bind {p : Service α} {f : α → Service β}
    {Q : Except PyError β → Stores × List StoredFinding → Prop} (hp : Silent p)
    (h : Ends clock none (p.bind .ret) (fun r s' => match r with
      | .ok a => Sat (readingWorld reader clock) (fun _ _ => True) (f a) Q (s', calls)
      | .error e => Q (.error e) (s', calls)) s) :
    Sat (readingWorld reader clock) (fun _ _ => True) (p.bind f) Q (s, calls) := by
  have halone := Effects.sat_bind.mp h
  refine Effects.sat_bind.mpr ((hp.sat halone).mono fun r state hend => ?_)
  obtain ⟨s', calls'⟩ := state
  obtain ⟨hend, hcalls⟩ := hend
  dsimp only at hend hcalls
  subst hcalls
  cases r with
  | ok a => exact hend
  | error e => exact hend

/-- A program beside a reader: how it can end. -/
abbrev EndsReading (reader : Reader) (clock : String → Prop) (p : Service α)
    (Q : Except PyError α → Stores × List StoredFinding → Prop)
    (state : Stores × List StoredFinding) : Prop :=
  Sat (readingWorld reader clock) (fun _ _ => True) p Q state

variable {Q : Except PyError β → Stores × List StoredFinding → Prop}

/-- A fresh id is unused, and one for evidence is an evidence id. -/
theorem EndsReading.newId {kind : String} {f : String → Service β}
    (hf : ∀ id, s.Unused id → (kind = "EVD" → isEvidenceId id = true) →
      EndsReading reader clock (f id) Q (s, calls)) :
    EndsReading reader clock ((perform (.newId kind)).bind f) Q (s, calls) :=
  Silent.sat_bind (silent_perform fun _ _ h => by cases h) (Ends.newId hf)

/-- The time is one of the clock. -/
theorem EndsReading.now {f : String → Service β}
    (hf : ∀ time, clock time → EndsReading reader clock (f time) Q (s, calls)) :
    EndsReading reader clock ((perform .now).bind f) Q (s, calls) :=
  Silent.sat_bind (silent_perform fun _ _ h => by cases h) (Ends.now hf)

/-- A case of the table is read. -/
theorem EndsReading.getCase {caseId : String} {case : RemediationCase}
    {f : RemediationCase → Service β}
    (hcase : s.cases.case? caseId = some case)
    (hf : EndsReading reader clock (f case) Q (s, calls)) :
    EndsReading reader clock ((perform (.getCase caseId)).bind f) Q (s, calls) :=
  Silent.sat_bind (silent_perform fun _ _ h => by cases h) (Ends.getCase hcase hf)

/-- The findings of a case are listed. -/
theorem EndsReading.listForCase {caseId : String} {f : List StoredFinding → Service β}
    (hf : EndsReading reader clock (f (FindingTable.listForCase s.findings caseId)) Q (s, calls)) :
    EndsReading reader clock ((perform (.listForCase caseId)).bind f) Q (s, calls) := by
  refine Silent.sat_bind (silent_perform fun _ _ h => by cases h) ?_
  refine Ends.store (r := (.ok (FindingTable.listForCase s.findings caseId), s)) rfl
    (.inl rfl) ?_ ?_
  · rintro a heq
    cases heq
    exact hf
  · rintro e heq
    cases heq

/-- Evidence under an evidence id is written. -/
theorem EndsReading.writeEvidence {P : Platform} {runDir evidenceId kind payload : String}
    {collector : Collector} {sensitivity commandId now : String} {f : EvidenceRef → Service β}
    (hid : isEvidenceId evidenceId = true)
    (hf : ∀ ref, EndsReading reader clock (f ref) Q (s, calls)) :
    EndsReading reader clock ((ElCapitan.writeEvidence P runDir evidenceId kind payload collector
      sensitivity commandId now).bind f) Q (s, calls) :=
  Silent.sat_bind silent_writeEvidence (Ends.writeEvidence hid hf)

end environment

section captures

variable {S : Settings} {reader : Reader} {clock : String → Prop} {s : Stores}
  {calls : List StoredFinding}

/-- What is known of a resource is what the reading of a finding gave. -/
def CaptureOf (reader : Reader) (first : StoredFinding) (capture : Capture) : Prop :=
  match reader.reading first with
  | .ok state => capture.state = some state
  | .error message => capture.state = none ∧ capture.error = message

/-- A reading is kept as evidence, whether it gave a state or an error. -/
theorem captureState_reads (hreader : reader.Tolerated) {runDir now : String}
    {hostEnv : List (String × String)} {finding : StoredFinding} :
    EndsReading reader clock (captureState S runDir now hostEnv finding) (fun r state' =>
      state' = (s, calls ++ [finding]) ∧ ∃ capture ref, r = .ok (capture, ref) ∧
        CaptureOf reader finding capture) (s, calls) := by
  unfold captureState
  simp only [Prog.bind_eq, Prog.pure_eq]
  refine EndsReading.newId fun evidenceId _ hevidence => ?_
  refine EndsReading.newId fun commandId _ _ => ?_
  have hid := hevidence rfl
  have hwritten : ∀ {e : PyError}, (e.kind = .osError ∨ e.kind.isValueError = true) →
      reader.reading finding = .error e.message →
      EndsReading reader clock (if e.kind = .osError ∨ e.kind.isValueError = true then
          (writeEvidence S.platform runDir evidenceId "live_validation_error" e.message
            validationCollector "restricted" commandId now).bind fun ref =>
            .ret (⟨none, [ref.evidenceId], e.message⟩, ref)
        else .raise e) (fun r state' => state' = (s, calls ++ [finding]) ∧
          ∃ capture ref, r = .ok (capture, ref) ∧ CaptureOf reader finding capture)
        (s, calls ++ [finding]) := by
    intro e he hreading
    rw [if_pos he]
    refine EndsReading.writeEvidence hid fun ref => ⟨rfl, _, ref, rfl, ?_⟩
    unfold CaptureOf
    rw [hreading]
    exact ⟨rfl, rfl⟩
  refine sat_handle.mpr (sat_bind_perform_iff.mpr ⟨trivial, ?_, ?_⟩)
  · rintro state ⟨s', calls'⟩ ⟨hstate, hs, hcalls⟩
    dsimp only at hs hcalls
    subst hs hcalls
    refine sat_bind_raiseIf.mpr ⟨fun hsame => ?_, fun hother => ?_⟩
    · refine EndsReading.writeEvidence hid fun ref => ⟨rfl, _, ref, rfl, ?_⟩
      unfold CaptureOf Reader.reading
      rw [← hstate]
      dsimp only
      rw [if_neg hsame]
    · refine hwritten (Or.inr rfl) ?_
      unfold Reader.reading
      rw [← hstate]
      dsimp only
      rw [if_pos hother]
      rfl
  · rintro e ⟨s', calls'⟩ ⟨herror, hs, hcalls⟩
    dsimp only at hs hcalls
    subst hs hcalls
    refine hwritten (hreader finding e herror.symm) ?_
    unfold Reader.reading
    rw [← herror]

/-- A check of a finding whose record is readable and whose evaluator is tolerated raises
`ValueError` at most. -/
theorem evaluateFinding_raises (hS : S.EvaluatorsTolerated) {finding : StoredFinding}
    (hfinding : finding.Readable S.platform) (state : CloudState) (evidenceIds : List String) :
    Raises (fun e : PyError => e.kind.isValueError = true)
      (evaluateFinding S finding state evidenceIds) := by
  obtain ⟨ruleId, hrule⟩ := hfinding.rule
  obtain ⟨resourceType, htype⟩ := hfinding.type
  unfold evaluateFinding
  rw [hrule, htype]
  dsimp only [bind, Except.bind]
  split
  · exact raises_pure _
  · rename_i definition hdefinition
    refine raises_bind (raises_mapM (fun entry => ?_) _) fun values => ?_
    · refine raises_bind ?_ fun value => raises_pure _
      unfold aspectValue
      split
      · exact raises_error rfl
      · exact raises_ok _
    · refine raises_bind (fun e he => ?_) fun verdict => raises_pure _
      exact hS _ _ _ definition hdefinition values e he

/-- The result of a check is about its finding. -/
theorem evaluateFinding_findingId {finding : StoredFinding} {state : CloudState}
    {evidenceIds : List String} {result : FindingValidation}
    (h : evaluateFinding S finding state evidenceIds = .ok result) :
    result.findingId = finding.findingId := by
  unfold evaluateFinding at h
  obtain ⟨_, _, h⟩ := except_bind_eq_ok.mp h
  obtain ⟨_, _, h⟩ := except_bind_eq_ok.mp h
  split at h
  · cases h
    rfl
  · obtain ⟨_, _, h⟩ := except_bind_eq_ok.mp h
    obtain ⟨_, _, h⟩ := except_bind_eq_ok.mp h
    cases h
    rfl

/-- What a check says does not depend on the evidence it cites. -/
theorem evaluateFinding_evidence (finding : StoredFinding) (state : CloudState)
    (evidenceIds : List String) :
    (evaluateFinding S finding state evidenceIds).map (fun result =>
      (result.findingId, result.status, result.reason)) =
    (evaluateFinding S finding state []).map fun result =>
      (result.findingId, result.status, result.reason) := by
  unfold evaluateFinding
  cases finding.ruleId S.platform with
  | error e => rfl
  | ok ruleId =>
    cases finding.resourceType S.platform with
    | error e => rfl
    | ok resourceType =>
      dsimp only [bind, Except.bind]
      split
      · rfl
      · rename_i definition _
        cases state.config.mapM (m := Except PyError) _ with
        | error e => rfl
        | ok values =>
          dsimp only
          cases definition.evaluate values with
          | error e => rfl
          | ok verdict => rfl

end captures

end ElCapitan
