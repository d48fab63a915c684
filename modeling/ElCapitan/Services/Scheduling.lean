import ElCapitan.Services.Approval

/-!
# Scheduling

`ExecutionScheduler.schedule`: an approved case gets its one execution job.
-/

namespace ElCapitan

open Effects

/-- `SchedulingOutcome`. -/
structure SchedulingOutcome where
  case : RemediationCase
  record : ProductRecord
  job : ExecutionJob

/-- The window of an approved case. -/
def scheduledWindow (case : RemediationCase) : Except PyError ChangeWindow :=
  match case.state, case.changeWindow with
  | .approved, some window => .ok window
  | _, _ => .error (valueError "only an approved case with a change window can be scheduled")

/-- `ExecutionScheduler.schedule`. -/
def schedule (S : Settings) (caseId : String) : Service SchedulingOutcome := do
  let case ← perform (.getCase caseId)
  let window ← .ofExcept (scheduledWindow case)
  let asked ← perform .now
  let elapsed ← .ofExcept (notAfter S.platform window.endsAt asked)
  .raiseIf (elapsed = true) (valueError "approved change window has already elapsed")
  let jobId ← perform (.newId "JOB")
  let scheduleId ← perform (.newId "SCHEDULE")
  let now ← perform .now
  let job : ExecutionJob :=
    { jobId, caseId, executeAt := window.startsAt, deadline := window.endsAt,
      state := .scheduled, attempts := 0 }
  perform (.putJob job)
  let record ← .ofExcept (ProductRecord.create scheduleId caseId "ExecutionSchedule.v1" 1 now
    [("schedule_id", .str scheduleId), ("job_id", .str jobId),
      ("execute_at", .str job.executeAt), ("deadline", .str job.deadline),
      ("window_id", .str window.windowId)] window.evidenceIds)
  perform (.putRecord record)
  let eventId ← perform (.newId "EVT")
  let case ← advance caseId .scheduleExecution
    { eventId, occurredAt := now, actor := "execution-scheduler",
      recordIds := recordIdsOf [("schedule_id", scheduleId), ("execution_job_id", jobId)],
      evidenceIds := record.evidenceIds }
  return ⟨case, record, job⟩

end ElCapitan
