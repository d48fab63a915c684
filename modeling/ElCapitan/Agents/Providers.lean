import ElCapitan.Agents.Schemas
import ElCapitan.Agents.Task
import ElCapitan.Base.JsonText
import ElCapitan.Effects.Logic
import ElCapitan.Infrastructure.PlanScope
import Mathlib.Data.Prod.Lex

/-!
# Runtimes of model providers

The three adapters behind which a model is called. Each of them asks once, puts the texts of an
answer together and binds what they say to the task, if it conforms to the contract of the task.
`OpenAIRuntimeError` and `ProviderRuntimeError` are `RuntimeError`s.
-/

namespace ElCapitan

open Effects

section prompts

/-- `ROLE_INSTRUCTIONS`. -/
def roleInstructions : List (AgentRole × String) :=
  [(.remediationEngineer,
      "Act as a security remediation engineer. Produce the smallest reversible " ++
      "Terraform change supported by the supplied finding, live validation, and " ++
      "source. This is pre-change planning: do not require evidence that the proposed " ++
      "change has already been applied. Put post-change proof in verification steps. " ++
      "Reserve rollback for operational harm caused by a successfully applied change. " ++
      "A failed apply, failure to clear the original finding, later recurrence of the " ++
      "finding, policy drift, or rollback failure requires retry, containment, or " ++
      "escalation; it is not a reason to restore the vulnerable pre-change state. " ++
      "Never claim a command ran or a dependency is safe without evidence."),
    (.sreReviewer,
      "Act as an independent SRE reviewer. Evaluate availability, dependencies, " ++
      "blast radius, health signals, rollout controls, and verification. Reject or " ++
      "request context when the supplied evidence cannot establish safety. This is " ++
      "strictly a pre-change review: distinguish observed pre-change facts from " ++
      "post-change success criteria, and never claim that a proposed verification " ++
      "or remediation has already passed."),
    (.windowPlanner,
      "Act as a change-window reviewer. Select only one supplied candidate using " ++
      "the usage summary and policy. Do not invent a window or telemetry."),
    (.rollbackVerifier,
      "Act as an independent rollback reviewer. Verify that every material failure " ++
      "mode has an observable trigger and executable reversal. Do not approve vague " ++
      "or circular rollback instructions. Classify a pre-mutation guard failure as " ++
      "an abort with no change, not as a missing rollback; require executable reversal " ++
      "for operational failures caused by the mutation. Treat failure to remediate, " ++
      "recurrence of the original finding, policy drift, and rollback failure as " ++
      "retry/containment/escalation paths, not triggers to recreate the vulnerable " ++
      "pre-change state. The verified_steps and trigger_coverage arrays must contain " ++
      "concrete evidence-grounded statements and never placeholders. If rejecting, " ++
      "enumerate every required correction in required_changes."),
    (.releaseAuditor,
      "Act as an independent post-change release auditor. Use only the supplied " ++
      "deployment, health, and verification evidence. Accept only when every " ++
      "mandatory probe passed and the original vulnerability is no longer present; " ++
      "otherwise request rollback or explicitly name missing human context.")]

/-- `instructions`. -/
def instructions (task : AgentTask) : Except PyError String :=
  match roleInstructions.lookup task.role with
  | none => .error (valueError ("no prompt is registered for role " ++ task.role.value))
  | some role => .ok (role ++
      " Return only the strict structured result. Cite only evidence IDs listed in " ++
      "available_evidence_ids. Status semantics are mandatory: succeeded requires an " ++
      "empty missing_evidence list; when evidence needed to complete the task is absent, " ++
      "use needs_more_evidence or needs_human_context and name it. Implementation " ++
      "prerequisites that can be verified before rollout belong in the output's " ++
      "prerequisites or controls and are not, by themselves, missing planning evidence.")

/-- `task_document`. -/
def taskDocument (task : AgentTask) : Json :=
  .obj [("task_id", .str task.taskId), ("case_id", .str task.caseId),
    ("role", .str task.role.value), ("objective", .str task.objective),
    ("input_record_ids", .ofStrings task.inputRecordIds),
    ("available_evidence_ids", .ofStrings task.evidenceIds),
    ("constraints", .ofStrings task.constraints), ("context", .obj task.metadata)]

end prompts

section adapters

/-- What an adapter asks for. -/
inductive ProviderOp where
  | now
  | create (payload : Document)

/-- What an adapter is answered. -/
@[reducible] def ProviderOp.Answer : ProviderOp → Type
  | .now => String
  | .create _ => Document

/-- The signature of an adapter. -/
abbrev providerOps : Signature := ⟨ProviderOp, ProviderOp.Answer⟩

/-- A method of an adapter. -/
abbrev Adapter (α : Type) := Prog providerOps PyError α

/-- Ask for the time or for an answer of the model. -/
abbrev asksFor (o : ProviderOp) : Adapter o.Answer := @Prog.perform providerOps PyError o

/-- What the adapters call. -/
structure ModelHost where
  platform : Platform
  /-- `float(text)`. -/
  floatOf : String → ℚ
  /-- The text of a `JSONDecodeError`. -/
  decodeError : String → String

/-- An `OpenAIRuntimeError` or a `ProviderRuntimeError`. -/
def providerError (message : String) : PyError := ⟨.runtimeError, message⟩

/-- A runtime, without its transport and its clock. -/
structure ModelRuntime where
  model : String
  maxOutputTokens : ℤ
  valid : model ≠ "" ∧ 0 < maxOutputTokens

variable (H : ModelHost)

/-- The prompt of a task. -/
def prompt (task : AgentTask) : Json := .str (H.platform.canonical (taskDocument task))

/-- The dictionary whose method is called. -/
def calledOn (value : Json) (method : String) : Except PyError Document :=
  match value with
  | .obj entries => .ok entries
  | value => .error
      ⟨.attributeError, "'" ++ value.className ++ "' object has no attribute '" ++ method ++ "'"⟩

/-- `value in (None, word)`. -/
def isNoneOr (word : String) : Json → Bool
  | .null => true
  | .str text => text = word
  | _ => false

/-- `document.get(name, ())`. -/
def Document.getItems (document : Document) (name : String) : Json :=
  (document.lookup name).getD (.arr [])

/-- `document.get(name) or default`. -/
def Document.getOr (document : Document) (name : String) (default : Json) : Json :=
  if (document.get name).truthy then document.get name else default

/-- The text of an entry, if it is one. -/
def Document.text? (document : Document) (name : String) : Option String :=
  (document.get name).str?

/-- `AgentResultStatus(value)`. -/
def AgentResultStatus.ofText (text : String) : Except PyError AgentResultStatus :=
  match [AgentResultStatus.succeeded, .needsMoreEvidence, .needsHumanContext, .failed].find?
    fun status => status.value = text with
  | some status => .ok status
  | none => .error (valueError ("'" ++ text ++ "' is not a valid AgentResultStatus"))

/-- The counts of a usage. -/
def normalizedUsage (usage : Document) : Document :=
  usage.filter fun entry => match entry.2 with
    | .int _ => true
    | _ => false

/-- The result that a conforming document stands for. -/
def boundResult (task : AgentTask) (document : Document) (runtime : String)
    (hruntime : runtime ≠ "") (model startedAt completedAt : String) (usage : Document) :
    Except PyError AgentResult := do
  let status ← AgentResultStatus.ofText (Document.text document "status")
  match Document.get document "output", (Document.get document "evidence_cited").strings?,
    (Document.get document "missing_evidence").strings? with
  | .obj output, some evidenceCited, some missingEvidence =>
    return { taskId := task.taskId, caseId := task.caseId, role := task.role, status, output,
             evidenceCited, missingEvidence, runtime, model, startedAt, completedAt,
             usage := normalizedUsage usage,
             required := ⟨task.required.1, task.required.2.1, hruntime⟩ }
  | _, _, _ => .error ⟨.typeError, "a result does not conform to its contract"⟩

/-- The violations of a document, worded and in the order of their places. -/
def violationText (H : ModelHost) (errors : List SchemaError) : String :=
  "; ".intercalate (errors.map fun error =>
    (if error.path = [] then "<root>" else "/".intercalate error.path) ++ ": " ++
      H.platform.describe error)

/-- What must hold of a document that is returned. -/
def conforming (contract : String) (schema : Schema) (document : Json)
    (ordered : List SchemaError → List SchemaError) : Except PyError Document :=
  let errors := schema.errors [] document
  if errors ≠ [] then
    .error (providerError
      ("model output violated " ++ contract ++ ": " ++ violationText H (ordered errors)))
  else match document with
    | .obj entries => .ok entries
    | _ => .error (providerError "a result is an object")

/-- The place of a violation, with the indices of arrays as numbers. -/
def placeKey (path : List String) : List (ℕ ×ₗ String) :=
  path.map fun part => toLex (part.toNat?.getD 0, part)

/-- `json.loads(text)` with a `JSONDecodeError` as the adapters word it. -/
def loadDocument (text : String) : Except PyError Json :=
  match readJson H.floatOf text with
  | some document => .ok document
  | none => .error
      (providerError ("model returned malformed structured JSON: " ++ H.decodeError text))

end adapters

section openAi

variable (H : ModelHost)

/-- The texts of a message, up to a refusal. -/
def messageTexts : List Json → Except PyError (List String)
  | [] => .ok []
  | .obj content :: rest =>
    if Document.text? content "type" = some "refusal" then
      .error (providerError ("model refused the agent task: " ++
        H.platform.str ((content.lookup "refusal").getD (.str ""))))
    else do
      let texts ← messageTexts rest
      return (if Document.text? content "type" = some "output_text" then
        (Document.text? content "text").toList else []) ++ texts
  | _ :: rest => messageTexts rest

/-- The texts of an output, up to a refusal. -/
def outputTexts : List Json → Except PyError (List String)
  | [] => .ok []
  | .obj item :: rest => do
    let contents ← iterated (Document.getItems item "content")
    let texts ← messageTexts H contents
    let more ← outputTexts rest
    return texts ++ more
  | _ :: rest => outputTexts rest

/-- `_output_text`. -/
def outputText (response : Document) : Except PyError String := do
  match response.text? "output_text" with
  | some direct => if direct ≠ "" then .ok direct else collected
  | none => collected
where
  collected : Except PyError String := do
    let items ← iterated (response.getItems "output")
    let texts ← outputTexts H items
    raiseIf (texts = []) (providerError "OpenAI response contained no output text")
    return String.join texts

/-- `re.sub(r"[^A-Za-z0-9_-]", "_", contract)[:64]`. -/
def formatName (contract : String) : String :=
  String.ofList ((contract.toList.map fun c =>
    if c.isAlphanum ∨ c = '_' ∨ c = '-' then c else '_').take 64)

/-- The request of `OpenAIResponsesRuntime.run`. -/
def openAiPayload (runtime : ModelRuntime) (task : AgentTask) (schema : Schema)
    (guidance : String) : Document :=
  [("model", .str runtime.model), ("instructions", .str guidance),
    ("input", .arr [.obj [("role", .str "user"),
      ("content", .arr [.obj [("type", .str "input_text"), ("text", prompt H task)]])]]),
    ("text", .obj [("format", .obj [("type", .str "json_schema"),
      ("name", .str (formatName task.outputContract)), ("schema", schema.document),
      ("strict", .bool true)])]),
    ("store", .bool false), ("max_output_tokens", .int runtime.maxOutputTokens),
    ("metadata", .obj [("case_id", .str task.caseId), ("task_id", .str task.taskId)]),
    ("safety_identifier",
      .str (String.ofList ((H.platform.sha256Hex task.caseId).toList.take 32)))]

/-- The OpenAI adapter has a name. -/
theorem openAiName_ne : "openai-responses" ≠ "" := by decide

/-- `OpenAIResponsesRuntime.run`. -/
def openAiRun (runtime : ModelRuntime) (task : AgentTask) : Adapter AgentResult := do
  let schema ← .ofExcept (agentResultSchema task.outputContract)
  let guidance ← .ofExcept (instructions task)
  let startedAt ← asksFor .now
  let response ← asksFor (.create (openAiPayload H runtime task schema guidance))
  .raiseIf (¬isNoneOr "completed" (response.get "status")) (providerError
    ("OpenAI response did not complete: " ++ H.platform.str (response.get "status")))
  let text ← .ofExcept (outputText H response)
  let document ← .ofExcept (loadDocument H text)
  let entries ← .ofExcept (conforming H task.outputContract schema document fun errors =>
    errors.insertionSort fun a b => placeKey a.path ≤ placeKey b.path)
  let usage ← .ofExcept (calledOn (response.getOr "usage" (.obj [])) "items")
  let completedAt ← asksFor .now
  .ofExcept (boundResult task entries "openai-responses" openAiName_ne
    (H.platform.str (response.getOr "model" (.str runtime.model))) startedAt completedAt usage)

end openAi

section others

variable (H : ModelHost)

/-- `_parse_result`. -/
def parseResult (task : AgentTask) (text runtime : String) (hruntime : runtime ≠ "")
    (model startedAt completedAt : String) (usage : Json) : Except PyError AgentResult := do
  let document ← loadDocument H text
  let schema ← agentResultSchema task.outputContract
  let entries ← conforming H task.outputContract schema document fun errors =>
    errors.insertionSort fun a b => a.path ≤ b.path
  let usage ← calledOn usage "items"
  boundResult task entries runtime hruntime model startedAt completedAt usage

/-- The request of `AnthropicMessagesRuntime.run`. -/
def anthropicPayload (runtime : ModelRuntime) (task : AgentTask) (schema : Json)
    (guidance : String) : Document :=
  [("model", .str runtime.model), ("max_tokens", .int runtime.maxOutputTokens),
    ("system", .str guidance),
    ("messages", .arr [.obj [("role", .str "user"), ("content", prompt H task)]]),
    ("output_config", .obj [("format", .obj [("type", .str "json_schema"),
      ("schema", schema)])])]

/-- The text of a block of an answer. -/
def anthropicText : Json → Option String
  | .obj block =>
    if Document.text? block "type" = some "text" then Document.text? block "text" else none
  | _ => none

/-- The Anthropic adapter has a name. -/
theorem anthropicName_ne : "anthropic-messages" ≠ "" := by decide

/-- `AnthropicMessagesRuntime.run`. -/
def anthropicRun (runtime : ModelRuntime) (task : AgentTask) : Adapter AgentResult := do
  let guidance ← .ofExcept (instructions task)
  let schema ← .ofExcept (anthropicSchema task.outputContract)
  let startedAt ← asksFor .now
  let response ← asksFor (.create (anthropicPayload H runtime task schema guidance))
  .raiseIf (¬isNoneOr "end_turn" (response.get "stop_reason")) (providerError
    ("Anthropic response stopped with " ++ H.platform.str (response.get "stop_reason")))
  let blocks ← .ofExcept (iterated (response.getItems "content"))
  let texts := blocks.filterMap anthropicText
  .raiseIf (texts = []) (providerError "Anthropic response contained no text output")
  let completedAt ← asksFor .now
  .ofExcept (parseResult H task (String.join texts) "anthropic-messages" anthropicName_ne
    (H.platform.str (response.getOr "model" (.str runtime.model))) startedAt completedAt
    (response.getOr "usage" (.obj [])))

/-- The request of `GeminiGenerateContentRuntime.run`. -/
def geminiPayload (runtime : ModelRuntime) (task : AgentTask) (schema : Schema)
    (guidance : String) : Document :=
  [("systemInstruction", .obj [("parts", .arr [.obj [("text", .str guidance)]])]),
    ("contents", .arr [.obj [("role", .str "user"),
      ("parts", .arr [.obj [("text", prompt H task)]])]]),
    ("generationConfig", .obj [("maxOutputTokens", .int runtime.maxOutputTokens),
      ("responseFormat", .obj [("text", .obj [("mimeType", .str "application/json"),
        ("schema", schema.document)])])]),
    ("store", .bool false)]

/-- `candidates[0]` of candidates that are not empty. -/
def firstCandidate : Json → Except PyError Json
  | .arr (candidate :: _) => .ok candidate
  | .str text => .ok (.str (String.ofList (text.toList.take 1)))
  | .arr [] => .error ⟨.indexError, "list index out of range"⟩
  | .obj _ => .error (keyError "0")
  | value => .error ⟨.typeError, "'" ++ value.className ++ "' object is not subscriptable"⟩

/-- The text of a part of an answer. -/
def geminiText : Json → Option String
  | .obj part => Document.text? part "text"
  | _ => none

/-- The usage of an answer under the names of the other providers. -/
def geminiUsage (usage : Document) : Document :=
  [("input_tokens", usage.get "promptTokenCount"),
    ("output_tokens", usage.get "candidatesTokenCount"),
    ("total_tokens", usage.get "totalTokenCount")]

/-- The candidate of an answer. -/
def geminiCandidate (response : Document) : Except PyError Document := do
  let failure := providerError ("Gemini response contained no candidate: " ++
    H.platform.str ((response.lookup "promptFeedback").getD (.str "")))
  let candidates := response.getOr "candidates" (.arr [])
  if candidates.truthy then
    match ← firstCandidate candidates with
    | .obj candidate => .ok candidate
    | _ => .error failure
  else .error failure

/-- The Gemini adapter has a name. -/
theorem geminiName_ne : "gemini-generate-content" ≠ "" := by decide

/-- `GeminiGenerateContentRuntime.run`. -/
def geminiRun (runtime : ModelRuntime) (task : AgentTask) : Adapter AgentResult := do
  let guidance ← .ofExcept (instructions task)
  let schema ← .ofExcept (agentResultSchema task.outputContract)
  let startedAt ← asksFor .now
  let response ← asksFor (.create (geminiPayload H runtime task schema guidance))
  let candidate ← .ofExcept (geminiCandidate H response)
  .raiseIf (¬isNoneOr "STOP" (candidate.get "finishReason")) (providerError
    ("Gemini response stopped with " ++ H.platform.str (candidate.get "finishReason")))
  let content ← .ofExcept (calledOn (candidate.getOr "content" (.obj [])) "get")
  let parts ← .ofExcept (iterated (content.getItems "parts"))
  let texts := parts.filterMap geminiText
  .raiseIf (texts = []) (providerError "Gemini response contained no text output")
  let rawUsage ← .ofExcept (calledOn (response.getOr "usageMetadata" (.obj [])) "get")
  let completedAt ← asksFor .now
  .ofExcept (parseResult H task (String.join texts) "gemini-generate-content" geminiName_ne
    (H.platform.str (response.getOr "modelVersion" (.str runtime.model))) startedAt completedAt
    (.obj (geminiUsage rawUsage)))

end others

end ElCapitan
