import ElCapitan.Base.Errors
import ElCapitan.Base.Json
import Mathlib.Data.List.Dedup

/-!
# Agent tasks and results

What a stage dispatches to an agent runtime, what it gets back, and the facts
about a result that the runtime is not trusted to police about itself.
-/

namespace ElCapitan

/-- `AgentRole`. -/
inductive AgentRole where
  | prioritizer
  | validator
  | remediationEngineer
  | sreReviewer
  | windowPlanner
  | rollbackVerifier
  | releaseAuditor
  deriving DecidableEq, Repr

/-- The stored text of a role. -/
def AgentRole.value : AgentRole → String
  | .prioritizer => "prioritizer"
  | .validator => "validator"
  | .remediationEngineer => "remediation_engineer"
  | .sreReviewer => "sre_reviewer"
  | .windowPlanner => "window_planner"
  | .rollbackVerifier => "rollback_verifier"
  | .releaseAuditor => "release_auditor"

/-- `AgentResultStatus`. -/
inductive AgentResultStatus where
  | succeeded
  | needsMoreEvidence
  | needsHumanContext
  | failed
  deriving DecidableEq, Repr

/-- The stored text of a status. -/
def AgentResultStatus.value : AgentResultStatus → String
  | .succeeded => "succeeded"
  | .needsMoreEvidence => "needs_more_evidence"
  | .needsHumanContext => "needs_human_context"
  | .failed => "failed"

/-- `AgentTask`. -/
structure AgentTask where
  taskId : String
  caseId : String
  role : AgentRole
  objective : String
  outputContract : String
  inputRecordIds : List String
  evidenceIds : List String
  constraints : List String
  metadata : Document
  required : taskId ≠ "" ∧ caseId ≠ "" ∧ objective ≠ ""
  contract_required : outputContract ≠ ""

/-- The constructor of `AgentTask`. -/
def AgentTask.create (taskId caseId : String) (role : AgentRole)
    (objective outputContract : String) (inputRecordIds evidenceIds constraints : List String)
    (metadata : Document) : Except PyError AgentTask :=
  if hrequired : taskId ≠ "" ∧ caseId ≠ "" ∧ objective ≠ "" then
    if hcontract : outputContract ≠ "" then
      .ok ⟨taskId, caseId, role, objective, outputContract, inputRecordIds, evidenceIds,
        constraints, metadata, hrequired, hcontract⟩
    else .error (valueError "agent task requires a named output contract")
  else .error (valueError "agent task requires task id, case id, and objective")

/-- Everything a constructed task holds. -/
theorem AgentTask.create_eq_ok {taskId caseId objective outputContract : String} {role : AgentRole}
    {inputRecordIds evidenceIds constraints : List String} {metadata : Document} {task : AgentTask}
    (h : AgentTask.create taskId caseId role objective outputContract inputRecordIds evidenceIds
      constraints metadata = .ok task) :
    task.taskId = taskId ∧ task.caseId = caseId ∧ task.role = role ∧
      task.outputContract = outputContract ∧ task.evidenceIds = evidenceIds := by
  unfold AgentTask.create at h
  split at h
  · split at h
    · cases h
      exact ⟨rfl, rfl, rfl, rfl, rfl⟩
    · cases h
  · cases h

/-- `replace(task, constraints=(*task.constraints, …))`. -/
def AgentTask.addConstraints (task : AgentTask) (added : List String) : AgentTask :=
  { task with constraints := task.constraints ++ added }

/-- `AgentResult`. -/
structure AgentResult where
  taskId : String
  caseId : String
  role : AgentRole
  status : AgentResultStatus
  output : Document
  evidenceCited : List String
  missingEvidence : List String
  runtime : String
  model : String
  startedAt : String
  completedAt : String
  usage : Document
  required : taskId ≠ "" ∧ caseId ≠ "" ∧ runtime ≠ ""

/-- `sorted(set(left) - set(right))`. -/
def sortedDifference (left right : List String) : List String :=
  (left.filter fun item => item ∉ right).dedup.insertionSort fun a b => a ≤ b

/-- A failure, if a check does not hold. -/
def failureIf (failed : Prop) [Decidable failed] (message : String) : List String :=
  if failed then [message] else []

/-- A check has no failure where its condition fails. -/
@[simp] theorem failureIf_eq_nil {failed : Prop} [Decidable failed] {message : String} :
    failureIf failed message = [] ↔ ¬failed := by
  by_cases h : failed <;> simp [failureIf, h]

/-- Nothing is left over where every item is among the others. -/
theorem sortedDifference_eq_nil {left right : List String} :
    sortedDifference left right = [] ↔ ∀ item ∈ left, item ∈ right := by
  have hperm := List.perm_insertionSort (fun a b : String => a ≤ b)
    (left.filter fun item => item ∉ right).dedup
  constructor
  · intro h item hleft
    by_contra hright
    have hmem : item ∈ (left.filter fun item => item ∉ right).dedup := by
      simp [hleft, hright]
    rw [sortedDifference] at h
    have hsorted := hperm.mem_iff.mpr hmem
    rw [h] at hsorted
    cases hsorted
  · intro h
    have hnil : (left.filter fun item => item ∉ right).dedup = [] := by
      rw [List.dedup_eq_nil, List.filter_eq_nil_iff]
      intro item hleft
      simp [h item hleft]
    rw [sortedDifference, hnil]
    rfl

/-- `validate_result`. -/
def validateResult (task : AgentTask) (result : AgentResult) : List String :=
  let unknown := sortedDifference result.evidenceCited task.evidenceIds
  failureIf (result.taskId ≠ task.taskId)
      "agent result task_id does not match the dispatched task" ++
    failureIf (result.caseId ≠ task.caseId)
      "agent result case_id does not match the dispatched task" ++
    failureIf (result.role ≠ task.role)
      "agent result role does not match the dispatched task" ++
    failureIf (unknown ≠ [])
      ("agent result cites evidence it was not supplied: " ++ ", ".intercalate unknown) ++
    failureIf (result.status = .succeeded ∧ result.missingEvidence ≠ [])
      "a succeeded agent result cannot also report missing evidence" ++
    failureIf (result.status = .needsMoreEvidence ∧ result.missingEvidence = [])
      "needs_more_evidence must name the missing evidence"

end ElCapitan
