import ElCapitan.Agents.Providers

/-!
# What the adapters return

Whatever a model answers, a result of an adapter conforms to the contract of its task and is bound
to the task, and the same texts mean the same result for every provider.
-/

namespace ElCapitan

open Effects

section conformance

variable {H : ModelHost} {runtime : ModelRuntime} {task : AgentTask}

/-- A result that is bound to its task and conforms to the contract of the task. -/
structure ConformingResult (H : ModelHost) (task : AgentTask) (runtime : String)
    (result : AgentResult) : Prop where
  bound : result.taskId = task.taskId ∧ result.caseId = task.caseId ∧ result.role = task.role
  runtime : result.runtime = runtime
  output : validateOutput H.platform.describe task.outputContract (.obj result.output) = .ok []
  evidence : (∀ item ∈ result.evidenceCited, item ≠ "") ∧
    ∀ item ∈ result.missingEvidence, item ≠ ""
  usage : ∀ entry ∈ result.usage, ∃ n, entry.2 = .int n

/-- A document that is accepted is an object that conforms to the schema. -/
theorem conforming_eq_ok {contract : String} {schema : Schema} {document : Json}
    {ordered : List SchemaError → List SchemaError} {entries : Document}
    (h : conforming H contract schema document ordered = .ok entries) :
    document = .obj entries ∧ schema.Conforms document := by
  unfold conforming at h
  dsimp only at h
  split at h
  · cases h
  · rename_i hnone
    split at h
    · cases h
      exact ⟨rfl, not_not.mp hnone⟩
    · cases h

/-- The strings of a value that meets the schema of string arrays. -/
theorem stringArray_strings {path : List String} {value : Json} {items : List String}
    (h : stringArray.errors path value = []) (hitems : value.strings? = some items) :
    ∀ item ∈ items, item ≠ "" := by
  obtain ⟨values, rfl, -, hvalues⟩ := Schema.array_value h
  have hmapped : values.mapM Json.str? = some items := hitems
  clear hitems h
  induction values generalizing items with
  | nil =>
    cases hmapped
    exact fun item hitem => (List.not_mem_nil hitem).elim
  | cons value values ih =>
    rw [List.mapM_cons] at hmapped
    obtain ⟨text, htext, hmapped⟩ := Option.bind_eq_some_iff.mp hmapped
    obtain ⟨texts, htexts, hmapped⟩ := Option.bind_eq_some_iff.mp hmapped
    cases hmapped
    rw [List.forall_mem_cons] at hvalues ⊢
    refine ⟨?_, ih hvalues.2 htexts⟩
    obtain ⟨path', hvalue⟩ := hvalues.1
    obtain ⟨s, rfl, -, hlength⟩ := Schema.string_value hvalue
    cases htext
    rintro rfl
    exact absurd hlength (by decide)

/-- Whether there is a violation does not depend on the place of the value. -/
theorem Schema.errors_nil_path {schema : Schema} {path path' : List String} {value : Json} :
    schema.errors path value = [] ↔ schema.errors path' value = [] := by
  induction schema using Schema.induction generalizing path path' value with
  | string enum minLength maxLength => cases value <;> simp [Schema.errors]
  | number minimum maximum => cases value <;> simp [Schema.errors]
  | array items minItems maxItems ih =>
    cases value with
    | arr values =>
      simp only [Schema.errors, List.append_eq_nil_iff, violation_eq_nil, List.flatMap_eq_nil_iff]
      exact and_congr_right fun _ => forall₂_congr fun entry _ => ih
    | _ => simp [Schema.errors]
  | object properties required ih =>
    cases value with
    | obj entries =>
      simp only [Schema.errors, List.append_eq_nil_iff, violation_eq_nil, List.flatMap_eq_nil_iff,
        propertyErrors_eq_nil]
      exact and_congr_left fun _ => and_congr_right fun _ => forall₂_congr fun property hmem =>
        forall₂_congr fun value _ => ih property hmem
    | _ => simp [Schema.errors]

/-- What a conforming document is bound to. -/
theorem conformingResult_bound {schema : Schema} {entries : Document} {name model startedAt
    completedAt : String} {hname : name ≠ ""} {usage : Document} {result : AgentResult}
    (hschema : agentResultSchema task.outputContract = .ok schema)
    (hconforms : schema.Conforms (.obj entries))
    (h : boundResult task entries name hname model startedAt completedAt usage = .ok result) :
    ConformingResult H task name result := by
  unfold agentResultSchema at hschema
  cases houtput : outputSchema task.outputContract with
  | error e =>
    rw [houtput] at hschema
    cases hschema
  | ok output =>
    rw [houtput] at hschema
    cases hschema
    obtain ⟨value, hvalue, hout⟩ := Schema.required_property hconforms
      (show "output" ∈ _ by simp) (show ("output", output) ∈ _ by simp)
    obtain ⟨cited, hcited, hcitedArray⟩ := Schema.required_property hconforms
      (show "evidence_cited" ∈ _ by simp) (show ("evidence_cited", stringArray) ∈ _ by simp)
    obtain ⟨missing, hmissing, hmissingArray⟩ := Schema.required_property hconforms
      (show "missing_evidence" ∈ _ by simp) (show ("missing_evidence", stringArray) ∈ _ by simp)
    obtain ⟨status, -, h⟩ := except_bind_eq_ok.mp h
    split at h
    · rename_i document items gaps hget hitems hgaps
      cases h
      unfold Document.get at hget hitems hgaps
      rw [hvalue, Option.getD_some] at hget
      rw [hcited, Option.getD_some] at hitems
      rw [hmissing, Option.getD_some] at hgaps
      rw [hget, Schema.errors_nil_path] at hout
      exact {
        bound := ⟨rfl, rfl, rfl⟩
        runtime := rfl
        output := by
          unfold validateOutput
          rw [houtput]
          change Except.ok _ = _
          rw [hout]
          rfl
        evidence :=
          ⟨stringArray_strings hcitedArray hitems, stringArray_strings hmissingArray hgaps⟩
        usage := by
          intro entry hentry
          have hcount := (List.mem_filter.mp hentry).2
          split at hcount
          · rename_i n hn
            exact ⟨n, hn⟩
          · cases hcount }
    · cases h

/-- What `_parse_result` returns. -/
theorem parseResult_conforms {text name model startedAt completedAt : String} {hname : name ≠ ""}
    {usage : Json} {result : AgentResult}
    (h : parseResult H task text name hname model startedAt completedAt usage = .ok result) :
    ConformingResult H task name result := by
  obtain ⟨document, -, hread⟩ := except_bind_eq_ok.mp h
  obtain ⟨schema, hschema, hchecked⟩ := except_bind_eq_ok.mp hread
  obtain ⟨entries, hentries, hcounted⟩ := except_bind_eq_ok.mp hchecked
  obtain ⟨counts, -, hbound⟩ := except_bind_eq_ok.mp hcounted
  have hconforms := conforming_eq_ok hentries
  rw [hconforms.1] at hconforms
  exact conformingResult_bound hschema hconforms.2 hbound

/-- What `validate_result` can find in the evidence of a result. -/
def evidenceFailures (task : AgentTask) (result : AgentResult) : List String :=
  failureIf (sortedDifference result.evidenceCited task.evidenceIds ≠ [])
      ("agent result cites evidence it was not supplied: " ++
        ", ".intercalate (sortedDifference result.evidenceCited task.evidenceIds)) ++
    failureIf (result.status = .succeeded ∧ result.missingEvidence ≠ [])
      "a succeeded agent result cannot also report missing evidence" ++
    failureIf (result.status = .needsMoreEvidence ∧ result.missingEvidence = [])
      "needs_more_evidence must name the missing evidence"

/-- A result that is bound to its task can only be at fault in its evidence. -/
theorem ConformingResult.failures {name : String} {result : AgentResult}
    (h : ConformingResult H task name result) :
    ConformingResult H task name result ∧
      validateResult task result = evidenceFailures task result := by
  refine ⟨h, ?_⟩
  unfold validateResult
  rw [h.bound.1, h.bound.2.1, h.bound.2.2]
  simp [failureIf, evidenceFailures]

/-- Whatever a provider answers and whenever: what an adapter returns is bound to its task, its
output has no violation of the task's contract, its usage is a table of counts, and a check of the
result can only object to its evidence. -/
theorem adapters_conform (H : ModelHost) (runtime : ModelRuntime) (task : AgentTask) :
    (openAiRun H runtime task).Returns (fun result =>
      ConformingResult H task "openai-responses" result ∧
        validateResult task result = evidenceFailures task result) ∧
    (anthropicRun H runtime task).Returns (fun result =>
      ConformingResult H task "anthropic-messages" result ∧
        validateResult task result = evidenceFailures task result) ∧
    (geminiRun H runtime task).Returns fun result =>
      ConformingResult H task "gemini-generate-content" result ∧
        validateResult task result = evidenceFailures task result := by
  refine ⟨?_, ?_, ?_⟩
  · refine Prog.returns_bind_ofExcept fun schema hschema => ?_
    refine Prog.returns_bind_ofExcept fun guidance _ => ?_
    refine Prog.returns_bind fun startedAt => Prog.returns_bind fun response => ?_
    refine Prog.returns_bind fun _ => Prog.returns_bind fun text => ?_
    refine Prog.returns_bind fun document => Prog.returns_bind_ofExcept fun entries hentries => ?_
    refine Prog.returns_bind fun usage => Prog.returns_bind fun completedAt => ?_
    obtain ⟨rfl, hconforms⟩ := conforming_eq_ok hentries
    exact Prog.returns_ofExcept fun result h =>
      (conformingResult_bound hschema hconforms h).failures
  · refine Prog.returns_bind fun guidance => Prog.returns_bind fun schema => ?_
    refine Prog.returns_bind fun startedAt => Prog.returns_bind fun response => ?_
    refine Prog.returns_bind fun _ => Prog.returns_bind fun blocks => ?_
    refine Prog.returns_bind fun _ => Prog.returns_bind fun completedAt => ?_
    exact Prog.returns_ofExcept fun result h => (parseResult_conforms h).failures
  · refine Prog.returns_bind fun guidance => Prog.returns_bind fun schema => ?_
    refine Prog.returns_bind fun startedAt => Prog.returns_bind fun response => ?_
    refine Prog.returns_bind fun candidate => Prog.returns_bind fun _ => ?_
    refine Prog.returns_bind fun content => Prog.returns_bind fun parts => ?_
    refine Prog.returns_bind fun _ => Prog.returns_bind fun usage => ?_
    refine Prog.returns_bind fun completedAt => ?_
    exact Prog.returns_ofExcept fun result h => (parseResult_conforms h).failures

end conformance

section formats

/-- A block of an answer without a text, which is no refusal. -/
structure SilentBlock where
  entries : Document
  silent : entries.lookup "text" = none ∧ Document.text? entries "type" ≠ some "refusal"

/-- The blocks of an answer. -/
abbrev Blocks := List (String ⊕ SilentBlock)

/-- The texts of an answer. -/
def Blocks.texts (blocks : Blocks) : List String := blocks.filterMap Sum.getLeft?

/-- What of a result does not name a provider. -/
structure NeutralResult where
  taskId : String
  caseId : String
  role : AgentRole
  status : AgentResultStatus
  output : Document
  evidenceCited : List String
  missingEvidence : List String
  startedAt : String
  completedAt : String

variable {H : ModelHost} {runtime : ModelRuntime} {task : AgentTask} {blocks : Blocks}
  {response usage : Document} {clock : List String}

end formats

section reading

variable {H : ModelHost} {task : AgentTask}

/-- The parts of a result are those of a document. -/
structure NeutralResult.Reads (result : NeutralResult) (task : AgentTask) (document : Document)
    (startedAt completedAt : String) : Prop where
  bound : result.taskId = task.taskId ∧ result.caseId = task.caseId ∧ result.role = task.role
  status : Document.get document "status" = .str result.status.value
  output : (Document.get document "output").sorted = .obj result.output
  evidenceCited : Document.get document "evidence_cited" = .ofStrings result.evidenceCited
  missingEvidence : Document.get document "missing_evidence" = .ofStrings result.missingEvidence
  times : result.startedAt = startedAt ∧ result.completedAt = completedAt

end reading

end ElCapitan
