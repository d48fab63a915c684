import ElCapitan.AgentRuns.Run

/-!
# What a run may do

A run calls the wrapped runtime once, after it has recorded an invocation that its guards admit
on the records it listed first. An outcome record follows such a call.
-/

namespace ElCapitan

open Effects

/-- The guards of a run pass on the listed records. -/
structure Admits (P : Platform) (runtime : AgentRunRuntime) (task : AgentTask)
    (records : List ProductRecord) : Prop where
  unrecorded : records.find? (isSuccessFor (bindingOf P task).replayKey) = none
  running : activeTerminal runtime.policy (bindingOf P task) records = none
  complete : overridesIncomplete runtime.policy records = true ∨ incomplete P records = []
  calls : (records.filter isInvocation).length < runtime.policy.maxModelCalls
  attempts : (records.filter (isInvocationFor (bindingOf P task).packageKey)).length <
    runtime.policy.maxAttemptsPerRolePackage

/-- A run starts by listing the records of its case. -/
def Listed (task : AgentTask) (h : Trace) (records : List ProductRecord) : Prop :=
  h.head? = some ⟨.listRecords task.caseId, .ok records⟩

/-- A record of a kind was put. -/
def isRecorded (p : ProductRecord → Bool) : Event operations PyError → Bool
  | ⟨.putRecord record, .ok _⟩ => p record
  | _ => false

/-- A step records a record of a kind where it puts one and is answered. -/
theorem isRecorded_iff {p : ProductRecord → Bool} {e : Event operations PyError} :
    isRecorded p e = true ↔ ∃ record, e = ⟨.putRecord record, .ok ()⟩ ∧ p record = true := by
  constructor
  · intro h
    unfold isRecorded at h
    split at h
    · exact ⟨_, rfl, h⟩
    · cases h
  · rintro ⟨record, rfl, hp⟩
    exact hp

/-- The wrapped runtime was called. -/
def isModelCall : Event operations PyError → Bool
  | ⟨.runRuntime _, _⟩ => true
  | _ => false

/-- The record of a success says where its artifact is. -/
def SuccessOf (P : Platform) (task : AgentTask) (result : AgentResult) (record : ProductRecord) :
    Prop :=
  succeeds task result = true ∧ ∃ attempt createdAt,
    outcomeFor P task attempt createdAt (resultFields P task attempt result
      ("evidence/" ++ invocationEvidenceId P (invocationId P task attempt) ++ ".bin")
      (P.canonicalHash (.obj (resultDocument result))))
      [invocationEvidenceId P (invocationId P task attempt)] = .ok record

/-- What a run may do after its history. -/
def RunRule (P : Platform) (runtime : AgentRunRuntime) (task : AgentTask) (h : Trace) :
    Operation → Prop
  | .putRecord record =>
    record.recordType = terminalRecord ∨
    (∃ records, Listed task h records ∧ Admits P runtime task records ∧
      (record.recordType = invocationRecord ∨ record.recordType = outcomeRecord) ∧
      record.caseId = task.caseId ∧
      record.reads "package_key" (bindingOf P task).packageKey = true ∧
      record.reads "replay_key" (bindingOf P task).replayKey = true ∧
      (record.recordType = outcomeRecord → record.reads "status" "succeeded" = true →
        ∃ result, ⟨.runRuntime task, .ok result⟩ ∈ h ∧ SuccessOf P task result record))
  | .runRuntime called => called = task ∧
    (∃ records, Listed task h records ∧ Admits P runtime task records) ∧
    (∃ record, ⟨.putRecord record, .ok ()⟩ ∈ h ∧ isInvocation record = true ∧
      record.reads "package_key" (bindingOf P task).packageKey = true) ∧
    ∀ e ∈ h, isModelCall e = false
  | .insertCase _ | .appendCase _ _ _ | .putFinding _ | .assignFinding _ _ => False
  | _ => True

/-- Operations of a run that neither call the runtime nor count in the guards. -/
def Quiet : Operation → Prop
  | .putRecord record => record.recordType = terminalRecord
  | .runRuntime _ | .insertCase _ | .appendCase _ _ _ | .putFinding _ | .assignFinding _ _ => False
  | _ => True

/-- A quiet operation is permitted. -/
theorem runRule_of_quiet {P : Platform} {runtime : AgentRunRuntime} {task : AgentTask} (h : Trace)
    (o : Operation) (ho : Quiet o) : RunRule P runtime task h o := by
  cases o <;> first | trivial | exact .inl ho

/-- A quiet step is no call of the model. -/
theorem isModelCall_of_quiet {e : Event operations PyError} (he : Quiet e.op) :
    isModelCall e = false := by
  obtain ⟨o, r⟩ := e
  cases o <;> first | rfl | cases he

section quiet

variable {P : Platform} {runtime : AgentRunRuntime} {task : AgentTask} {α : Type}

/-- Recording a stop is quiet. -/
theorem uses_stopRecord {reason scope failureSignature : String} {counts : Document} :
    (stopRecord P runtime task reason scope failureSignature counts).Uses Quiet := by
  refine (Prog.uses_perform trivial).bind fun createdAt => ?_
  refine Prog.uses_bind_ofExcept fun record hrecord => ?_
  have hfields := ProductRecord.create_eq_ok hrecord
  refine (Prog.uses_ask hfields.2.2.1).bind fun answer => ?_
  cases answer with
  | ok _ => trivial
  | error e =>
    dsimp only
    split
    · exact Prog.uses_perform trivial
    · trivial

/-- Stopping a run is quiet. -/
theorem uses_stopRun {reason scope failureSignature : String} {counts : Document} :
    (stopRun P runtime task reason scope failureSignature counts : Service α).Uses Quiet :=
  uses_stopRecord.bind fun _ => trivial

/-- Restoring an outcome is quiet. -/
theorem uses_restoreOutcome {outcome : ProductRecord} :
    (restoreOutcome P runtime task outcome).Uses Quiet := by
  refine Prog.uses_ofExcept.bind fun _ => Prog.uses_ofExcept.bind fun _ => ?_
  refine (Prog.uses_perform trivial).bind fun path => ?_
  refine (Prog.uses_perform trivial).bind fun present => ?_
  refine Prog.uses_raiseIf.bind fun _ => (Prog.uses_perform trivial).bind fun hash => ?_
  refine Prog.uses_ofExcept.bind fun recorded => Prog.uses_raiseIf.bind fun _ => ?_
  refine (Prog.uses_perform trivial).bind fun text => ?_
  cases P.jsonLoads text with
  | none => trivial
  | some value =>
    dsimp only
    cases value.obj? with
    | none => trivial
    | some document => exact Prog.uses_ofExcept

/-- Replaying an outcome is quiet. -/
theorem uses_replayOutcome {records : List ProductRecord} {outcome : ProductRecord} :
    (replayOutcome P runtime task records outcome).Uses Quiet := by
  refine uses_restoreOutcome.handle fun e => ?_
  split
  · exact uses_stopRun
  · trivial

/-- Recording an invocation is quiet. -/
theorem uses_joinInvocation {attempt : ℕ} {counts : Document} :
    (joinInvocation P runtime task attempt counts).Uses Quiet := by
  refine (Prog.uses_perform trivial).bind fun records => ?_
  cases outcomeOf P records (invocationId P task attempt) with
  | none => exact uses_stopRun
  | some outcome =>
    dsimp only
    split
    · refine uses_restoreOutcome.handle fun e => ?_
      split
      · exact uses_stopRun
      · trivial
    · exact uses_stopRun

/-- Opening the circuit is quiet where the run goes on quietly otherwise. -/
theorem uses_openCircuit {attempt : ℕ} {counts : Document} {signature : String}
    {otherwise : Service α} (hotherwise : otherwise.Uses Quiet) :
    (openCircuit P runtime task attempt counts signature otherwise).Uses Quiet := by
  refine (Prog.uses_perform trivial).bind fun records => ?_
  dsimp only
  split
  · exact uses_stopRun
  · exact hotherwise

end quiet

section rule

variable {P : Platform} {runtime : AgentRunRuntime} {task : AgentTask} {α β : Type} {h : Trace}

/-- A part of a run keeps to the rule from a history on. -/
abbrev Obeys (P : Platform) (runtime : AgentRunRuntime) (task : AgentTask) (p : Service α)
    (h : Trace) : Prop :=
  Sat (Env.recording operations PyError) (RunRule P runtime task) p (fun _ _ => True) h

/-- A quiet program obeys the rule. -/
theorem Obeys.of_quiet {p : Service α} (hp : p.Uses Quiet) : Obeys P runtime task p h :=
  (hp.sat_recording runRule_of_quiet).mono fun _ _ _ => trivial

/-- A sequence obeys the rule where its first part is quiet and its second part obeys. -/
theorem Obeys.bind_quiet {p : Service α} {f : α → Service β} (hp : p.Uses Quiet)
    (hnext : ∀ a t, (∀ e ∈ t, Quiet e.op) → Obeys P runtime task (f a) (h ++ t)) :
    Obeys P runtime task (p.bind f) h := by
  rw [Obeys, sat_bind]
  refine (hp.sat_recording runRule_of_quiet).mono ?_
  rintro (e | a) h' ⟨t, rfl, ht⟩
  · trivial
  · exact hnext a t ht

/-- A stop does not return. -/
theorem stopRun_bind {reason scope failureSignature : String} {counts : Document}
    {f : α → Service β} :
    (stopRun P runtime task reason scope failureSignature counts : Service α).bind f =
      stopRun P runtime task reason scope failureSignature counts :=
  Prog.bind_assoc _ _ _

/-- A run that is stopped obeys the rule, since nothing follows. -/
theorem Obeys.bind_stopRun {reason scope failureSignature : String} {counts : Document}
    {f : α → Service β} :
    Obeys P runtime task
      ((stopRun P runtime task reason scope failureSignature counts).bind f) h := by
  rw [stopRun_bind]
  exact .of_quiet uses_stopRun

/-- Past its guards, a run is admitted on the records it listed. -/
theorem admitRun_obeys {records : List ProductRecord} {f : Document → Service β}
    (hunrecorded : records.find? (isSuccessFor (bindingOf P task).replayKey) = none)
    (hnext : Admits P runtime task records → ∀ counts t, (∀ e ∈ t, Quiet e.op) →
      Obeys P runtime task (f counts) (h ++ t)) :
    Obeys P runtime task ((admitRun P runtime task records).bind f) h := by
  unfold admitRun
  dsimp only
  cases hrunning : activeTerminal runtime.policy (bindingOf P task) records with
  | some record => trivial
  | none =>
    dsimp only
    generalize hincomplete :
      (if overridesIncomplete runtime.policy records = true then []
        else incomplete P records) = pending
    split
    · exact Obeys.bind_stopRun
    · rename_i hpending
      split
      · exact Obeys.bind_stopRun
      · rename_i hcalls
        split
        · exact Obeys.bind_stopRun
        · rename_i hattempts
          have hadmits : Admits P runtime task records := by
            refine ⟨hunrecorded, hrunning, ?_, not_le.mp hcalls, not_le.mp hattempts⟩
            cases hoverride : overridesIncomplete runtime.policy records with
            | true => exact .inl rfl
            | false =>
              rw [hoverride, if_neg Bool.false_ne_true] at hincomplete
              exact .inr (hincomplete.trans (not_not.mp hpending))
          split
          · have hret := fun counts => hnext hadmits counts [] (by simp)
            simp only [List.append_nil] at hret
            exact hret _
          · rename_i first _ _
            rw [Prog.bind_eq, Prog.bind_assoc]
            refine Obeys.bind_quiet (Prog.uses_perform trivial) fun now t ht => ?_
            rw [Prog.bind_eq, Prog.bind_assoc]
            refine Obeys.bind_quiet Prog.uses_ofExcept fun elapsed t' ht' => ?_
            split
            · exact Obeys.bind_stopRun
            · rw [List.append_assoc]
              refine hnext hadmits _ _ fun e he => ?_
              rcases List.mem_append.mp he with he | he
              · exact ht e he
              · exact ht' e he

/-- The names of a new record. -/
theorem reads_of_lookup {record : ProductRecord} {name text : String}
    (hbody : record.body.lookup name = some (.str text)) : record.reads name text = true := by
  simp [ProductRecord.reads, Document.get, hbody, Json.str?]

/-- A record has one text under a name. -/
theorem reads_unique {record : ProductRecord} {name text text' : String}
    (h : record.reads name text = true) (h' : record.reads name text' = true) : text = text' := by
  have hsome := (of_decide_eq_true h).symm.trans (of_decide_eq_true h')
  exact Option.some.inj hsome

/-- A list that is extended keeps its first entry. -/
theorem Listed.append {records : List ProductRecord} (hlisted : Listed task h records)
    (t : Trace) : Listed task (h ++ t) records := by
  unfold Listed at hlisted ⊢
  rw [List.head?_append, hlisted]
  rfl

/-- An outcome that is no success needs no artifact. -/
theorem recordFailure_obeys {records : List ProductRecord} {attempt : ℕ} {counts : Document}
    {e : PyError} (hlisted : Listed task h records) (hadmits : Admits P runtime task records) :
    Obeys P runtime task (recordFailure P runtime task attempt counts e) h := by
  refine Obeys.bind_quiet (Prog.uses_perform trivial) fun createdAt t _ => ?_
  refine sat_bind_ofExcept.mpr ⟨fun outcome hcreate => ?_, fun _ _ => trivial⟩
  have hfields := ProductRecord.create_eq_ok hcreate
  refine sat_bind_perform.mpr ⟨.inr ⟨records, hlisted.append t, hadmits, .inr hfields.2.2.1,
    hfields.2.1, ?_, ?_, ?_⟩, fun _ => Obeys.of_quiet (uses_openCircuit trivial), fun _ => trivial⟩
  · exact reads_of_lookup (by rw [hfields.2.2.2.2.1]; rfl)
  · exact reads_of_lookup (by rw [hfields.2.2.2.2.1]; rfl)
  · intro _ hsuccess
    have hfailed : outcome.reads "status" "failed" = true :=
      reads_of_lookup (by rw [hfields.2.2.2.2.1]; rfl)
    exact absurd (reads_unique hsuccess hfailed) (by decide)

/-- A success is recorded together with its artifact. -/
theorem recordResult_obeys {records : List ProductRecord} {attempt : ℕ} {counts : Document}
    {result : AgentResult} (hlisted : Listed task h records)
    (hadmits : Admits P runtime task records) (hcall : ⟨.runRuntime task, .ok result⟩ ∈ h) :
    Obeys P runtime task (recordResult P runtime task attempt counts result) h := by
  refine Obeys.bind_quiet (Prog.uses_perform trivial) fun now t _ => ?_
  unfold writeEvidence
  simp only [Prog.bind_eq, Prog.bind_assoc, Prog.pure_eq, Prog.ret_bind]
  refine Obeys.bind_quiet Prog.uses_raiseIf fun _ t₁ _ => ?_
  refine Obeys.bind_quiet (Prog.uses_perform trivial) fun _ t₂ _ => ?_
  refine Obeys.bind_quiet (Prog.uses_perform trivial) fun _ t₃ _ => ?_
  refine Obeys.bind_quiet (Prog.uses_perform trivial) fun createdAt t₄ _ => ?_
  refine sat_bind_ofExcept.mpr ⟨fun outcome hcreate => ?_, fun _ _ => trivial⟩
  have hfields := ProductRecord.create_eq_ok hcreate
  refine sat_bind_perform.mpr ⟨.inr ⟨records, ((((hlisted.append t).append t₁).append t₂).append
    t₃).append t₄, hadmits, .inr hfields.2.2.1, hfields.2.1, ?_, ?_, ?_⟩, fun _ => ?_,
    fun _ => trivial⟩
  · exact reads_of_lookup (by rw [hfields.2.2.2.2.1]; rfl)
  · exact reads_of_lookup (by rw [hfields.2.2.2.2.1]; rfl)
  · intro _ hsuccess
    have hstatus : outcome.reads "status"
        (if succeeds task result then "succeeded" else "not_succeeded") = true :=
      reads_of_lookup (by rw [hfields.2.2.2.2.1]; rfl)
    refine ⟨result, by simp [hcall], ?_, attempt, createdAt, hcreate⟩
    by_contra hfails
    rw [if_neg hfails] at hstatus
    exact absurd (reads_unique hsuccess hstatus) (by decide)
  · split
    · trivial
    · exact Obeys.of_quiet (uses_openCircuit trivial)

/-- The wrapped runtime is called after the invocation was recorded. -/
theorem dispatchRun_obeys {records : List ProductRecord} {counts : Document}
    (hlisted : Listed task h records) (hadmits : Admits P runtime task records)
    (hfirst : ∀ e ∈ h, isModelCall e = false) :
    Obeys P runtime task (dispatchRun P runtime task records counts) h := by
  refine Obeys.bind_quiet (Prog.uses_perform trivial) fun createdAt t ht => ?_
  refine sat_bind_ofExcept.mpr ⟨fun invocation hcreate => ?_, fun _ _ => trivial⟩
  have hfields := ProductRecord.create_eq_ok hcreate
  have hpackage : invocation.reads "package_key" (bindingOf P task).packageKey = true :=
    reads_of_lookup (by rw [hfields.2.2.2.2.1]; rfl)
  refine sat_bind_ask.mpr ⟨.inr ⟨records, hlisted.append t, hadmits, .inl hfields.2.2.1,
    hfields.2.1, hpackage, reads_of_lookup (by rw [hfields.2.2.2.2.1]; rfl), ?_⟩, ?_⟩
  · intro houtcome
    rw [hfields.2.2.1] at houtcome
    exact absurd houtcome (by decide)
  · rintro (e | _) h' rfl
    · dsimp only
      split
      · exact Obeys.of_quiet uses_joinInvocation
      · trivial
    · have hlisted' := (hlisted.append t).append [⟨.putRecord invocation, .ok ()⟩]
      refine sat_bind_ask.mpr ⟨⟨rfl, ⟨records, hlisted', hadmits⟩,
        ⟨invocation, by simp, by simp [isInvocation, hfields.2.2.1], hpackage⟩, ?_⟩, ?_⟩
      · intro e he
        rcases List.mem_append.mp he with he | he
        · rcases List.mem_append.mp he with he | he
          · exact hfirst e he
          · exact isModelCall_of_quiet (ht e he)
        · obtain rfl := List.mem_singleton.mp he
          rfl
      · rintro (e | result) h' rfl
        · exact recordFailure_obeys (hlisted'.append _) hadmits
        · exact recordResult_obeys (hlisted'.append _) hadmits (by simp)

/-- A run keeps to its rule. -/
theorem agentRun_obeys : Obeys P runtime task (agentRun P runtime task) [] := by
  refine sat_bind_perform.mpr ⟨trivial, fun records => ?_, fun _ => trivial⟩
  cases hrecorded : records.find? (isSuccessFor (bindingOf P task).replayKey) with
  | some outcome => exact Obeys.of_quiet uses_replayOutcome
  | none =>
    refine admitRun_obeys hrecorded fun hadmits counts t ht => ?_
    refine dispatchRun_obeys (Listed.append (by rfl) t) hadmits fun e he => ?_
    rcases List.mem_append.mp he with he | he
    · obtain rfl := List.mem_singleton.mp he
      rfl
    · exact isModelCall_of_quiet (ht e he)

end rule

end ElCapitan
