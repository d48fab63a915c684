import ElCapitan.Services.Dispatch
import ElCapitan.Services.Frames

/-!
# The footprint of an execution

An execution reads and writes cases and records; it leaves the jobs alone.
-/

namespace ElCapitan

open Effects

/-- Writing evidence uses no job. -/
theorem uses_writeEvidence_jobFree {P : Platform} {runDir evidenceId kind payload : String}
    {collector : Collector} {sensitivity commandId now : String} :
    (writeEvidence P runDir evidenceId kind payload collector sensitivity commandId now).Uses
      JobFree := by
  refine Prog.uses_raiseIf.bind fun _ => (Prog.uses_perform trivial).bind fun _ => ?_
  exact (Prog.uses_perform trivial).bind fun _ => trivial

/-- Writing evidence of an execution uses no job. -/
theorem uses_executionEvidence_jobFree {S : Settings} {runDir kind now : String} {document : Json} :
    (executionEvidence S runDir kind document now).Uses JobFree := by
  refine (Prog.uses_perform trivial).bind fun _ => ?_
  exact uses_writeEvidence_jobFree.bind fun _ => trivial

/-- A transition uses no job. -/
theorem uses_advance_jobFree {caseId : String} {transition : CaseTransition}
    {args : TransitionArgs} : (advance caseId transition args).Uses JobFree := by
  refine (Prog.uses_perform trivial).bind fun _ => Prog.uses_ofExcept.bind fun next => ?_
  exact (Prog.uses_perform trivial).bind fun _ => trivial

/-- Reading a record of the context uses no job. -/
theorem uses_contextRecord_jobFree {case : RemediationCase} {name : String} :
    (contextRecord case name).Uses JobFree := by
  refine Prog.uses_raiseIf.bind fun _ => (Prog.uses_perform trivial).bind fun _ => ?_
  exact Prog.uses_raiseIf.bind fun _ => trivial

/-- Reading the context of an execution uses no job. -/
theorem uses_executionContext_jobFree {S : Settings} {case : RemediationCase} :
    (executionContext S case).Uses JobFree := by
  refine uses_contextRecord_jobFree.bind fun _ => uses_contextRecord_jobFree.bind fun _ => ?_
  refine uses_contextRecord_jobFree.bind fun _ => uses_contextRecord_jobFree.bind fun _ => ?_
  exact Prog.uses_ofExcept.bind fun _ => trivial

/-- Starting an execution uses no job. -/
theorem uses_startExecution_jobFree {S : Settings} {C : Components}
    {caseId originator jobId : String} :
    (startExecution S C caseId originator jobId).Uses JobFree := by
  refine (Prog.uses_perform trivial).bind fun _ => Prog.uses_ofExcept.bind fun _ => ?_
  refine (Prog.uses_perform trivial).bind fun _ => Prog.uses_ofExcept.bind fun _ => ?_
  refine Prog.uses_ofExcept.bind fun _ => Prog.uses_raiseIf.bind fun _ => ?_
  refine uses_executionContext_jobFree.bind fun _ => Prog.uses_ofExcept.bind fun _ => ?_
  refine Prog.uses_raiseIf.bind fun _ => (Prog.uses_perform trivial).bind fun _ => ?_
  refine (Prog.uses_perform trivial).bind fun _ => Prog.uses_raiseIf.bind fun _ => ?_
  refine (Prog.uses_perform trivial).bind fun _ => Prog.uses_raiseIf.bind fun _ => ?_
  refine (Prog.uses_perform trivial).bind fun _ => uses_executionEvidence_jobFree.bind fun _ => ?_
  refine Prog.uses_ofExcept.bind fun _ => (Prog.uses_perform trivial).bind fun _ => ?_
  refine (Prog.uses_perform trivial).bind fun _ => uses_advance_jobFree.bind fun _ => ?_
  trivial

/-- Rolling back uses no job. -/
theorem uses_rollBack_jobFree {S : Settings} {C : Components} {caseId reason : String}
    {started : Started} {evidenceIds : List String} :
    (rollBack S C caseId started evidenceIds reason).Uses JobFree := by
  unfold rollBack
  refine (Prog.uses_perform trivial).bind fun _ => (Prog.uses_perform trivial).bind fun _ => ?_
  refine ((Prog.uses_perform trivial).handle fun _ => Prog.uses_ret).bind fun _ => ?_
  refine ((Prog.uses_perform trivial).handle fun _ => Prog.uses_ret).bind fun _ => ?_
  refine uses_executionEvidence_jobFree.bind fun _ => Prog.uses_ofExcept.bind fun _ => ?_
  refine (Prog.uses_perform trivial).bind fun _ => (Prog.uses_perform trivial).bind fun _ => ?_
  refine uses_advance_jobFree.bind fun _ => ?_
  split
  · refine (Prog.uses_perform trivial).bind fun _ => (Prog.uses_perform trivial).bind fun _ => ?_
    exact uses_advance_jobFree.bind fun _ => trivial
  · refine (Prog.uses_perform trivial).bind fun _ => (Prog.uses_perform trivial).bind fun _ => ?_
    refine Prog.uses_ofExcept.bind fun _ => (Prog.uses_perform trivial).bind fun _ => ?_
    refine (Prog.uses_perform trivial).bind fun _ => (Prog.uses_perform trivial).bind fun _ => ?_
    split
    · exact uses_advance_jobFree.bind fun _ => trivial
    · exact uses_advance_jobFree.bind fun _ => trivial

/-- Running the probes uses no job. -/
theorem uses_runProbes_jobFree {caseId : String} {context : ExecutionContext}
    {names : List String} : (runProbes caseId context names).Uses JobFree := by
  induction names with
  | nil => trivial
  | cons name names ih =>
    refine ((Prog.uses_perform trivial).handle fun _ => Prog.uses_ret).bind fun _ => ?_
    exact ih.bind fun _ => trivial

/-- Completing an execution uses no job. -/
theorem uses_completeExecution_jobFree {caseId originator : String} {started : Started}
    {probes : List ProbeResult} {audit : AgentResult} {accumulated : List String} :
    (completeExecution caseId originator started probes audit accumulated).Uses JobFree := by
  refine (Prog.uses_perform trivial).bind fun _ => (Prog.uses_perform trivial).bind fun _ => ?_
  refine Prog.uses_ofExcept.bind fun _ => (Prog.uses_perform trivial).bind fun _ => ?_
  refine (Prog.uses_perform trivial).bind fun _ => (Prog.uses_perform trivial).bind fun _ => ?_
  refine Prog.uses_ofExcept.bind fun _ => Prog.uses_ofExcept.bind fun _ => ?_
  refine (Prog.uses_perform trivial).bind fun _ => (Prog.uses_perform trivial).bind fun _ => ?_
  refine (Prog.uses_perform trivial).bind fun _ => Prog.uses_ofExcept.bind fun _ => ?_
  refine (Prog.uses_perform trivial).bind fun _ => (Prog.uses_perform trivial).bind fun _ => ?_
  refine (Prog.uses_perform trivial).bind fun _ => uses_advance_jobFree.bind fun _ => ?_
  trivial

/-- Verifying an execution uses no job. -/
theorem uses_verifyExecution_jobFree {S : Settings} {C : Components} {caseId originator : String}
    {started : Started} {case : RemediationCase} {resultRecord : ProductRecord}
    {accumulated : List String} :
    (verifyExecution S C caseId originator started case resultRecord accumulated).Uses JobFree := by
  unfold verifyExecution
  refine uses_runProbes_jobFree.bind fun probes => (Prog.uses_perform trivial).bind fun _ => ?_
  refine uses_executionEvidence_jobFree.bind fun _ => ?_
  dsimp only
  split
  · exact uses_rollBack_jobFree
  · split
    · exact uses_rollBack_jobFree
    · refine (Prog.uses_perform trivial).bind fun _ => Prog.uses_ofExcept.bind fun task => ?_
      refine Prog.Uses.bind ?_ fun reply => ?_
      · exact ((Prog.uses_perform trivial).bind fun _ => Prog.uses_ret).handle
          fun _ => Prog.uses_ret
      · cases reply with
        | error e => exact uses_rollBack_jobFree
        | ok audit =>
          refine Prog.uses_ofExcept.bind fun _ => ?_
          split
          · exact uses_rollBack_jobFree
          · refine (Prog.uses_perform trivial).bind fun _ => ?_
            refine uses_executionEvidence_jobFree.bind fun _ => ?_
            split
            · exact uses_rollBack_jobFree
            · split
              · exact uses_rollBack_jobFree
              · exact uses_completeExecution_jobFree

/-- An execution leaves the jobs alone. -/
theorem uses_execute_jobFree {S : Settings} {C : Components} {caseId originator jobId : String} :
    (execute S C caseId originator jobId).Uses JobFree := by
  refine uses_startExecution_jobFree.bind fun started => ?_
  unfold releaseExecution
  refine ((Prog.uses_perform trivial).handle fun _ => Prog.uses_ret).bind fun _ => ?_
  refine ((Prog.uses_perform trivial).handle fun _ => Prog.uses_ret).bind fun _ => ?_
  refine (Prog.uses_perform trivial).bind fun _ => uses_executionEvidence_jobFree.bind fun _ => ?_
  dsimp only
  split
  · exact uses_rollBack_jobFree
  · split
    · exact uses_rollBack_jobFree
    · refine (Prog.uses_perform trivial).bind fun _ => (Prog.uses_perform trivial).bind fun _ => ?_
      refine Prog.uses_ofExcept.bind fun _ => (Prog.uses_perform trivial).bind fun _ => ?_
      refine (Prog.uses_perform trivial).bind fun _ => (Prog.uses_perform trivial).bind fun _ => ?_
      exact uses_advance_jobFree.bind fun _ => uses_verifyExecution_jobFree

end ElCapitan
