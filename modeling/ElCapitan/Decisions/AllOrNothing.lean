import ElCapitan.Decisions.Schedulable
import ElCapitan.Services.ReviewControl

/-!
# Approval through the review control plane

An approval and the scheduling after it are five durable writes without a common
transaction. A failure of the first two leaves the case to be approved again; a failure of
a later one, or a job that an earlier cycle left, leaves it approved without a schedule.
-/

namespace ElCapitan

open Effects

section reading

/-- The operations with which a decision reads the stores. -/
def isRead : Operation → Bool
  | .getCase _ | .getRecord _ => true
  | _ => false

/-- A program that reads cases and records and handles no exception. -/
def Reads {α : Type} : Service α → Prop
  | .ret _ => True
  | .raise _ => True
  | .call o next => isRead o = true ∧ (∀ e, next (.error e) = .raise e) ∧ ∀ a, Reads (next (.ok a))

/-- What a program returns that only reads the stores. -/
def readOut {α : Type} (s : Stores) : Service α → Except PyError α
  | .ret a => .ok a
  | .raise e => .error e
  | .call o next =>
    match s.perform o with
    | some (r, _) => readOut s (next r)
    | none => .error (valueError "")

variable {α β : Type} {s s' : Stores} {p : Service α} {f : α → Service β}

/-- A sequence of reads reads. -/
theorem Reads.bind (hp : Reads p) (hf : ∀ a, Reads (f a)) : Reads (p.bind f) := by
  induction p with
  | ret a => exact hf a
  | raise e => trivial
  | call o next ih =>
    obtain ⟨ho, hraise, hnext⟩ := hp
    refine ⟨ho, fun e => ?_, fun a => ih _ (hnext a)⟩
    show (next (.error e)).bind f = .raise e
    rw [hraise e]
    rfl

/-- A single read reads. -/
theorem reads_perform {o : Operation} (ho : isRead o = true) : Reads (perform o) :=
  ⟨ho, fun _ => rfl, fun _ => trivial⟩

/-- A result without effects reads nothing. -/
theorem reads_ofExcept {x : Except PyError α} : Reads (Prog.ofExcept x) := by
  cases x <;> trivial

/-- A check reads nothing. -/
theorem reads_raiseIf {c : Prop} [Decidable c] {e : PyError} : Reads (Prog.raiseIf c e) := by
  unfold Prog.raiseIf
  split <;> trivial

/-- What a sequence reads is read by its second part after its first. -/
theorem readOut_bind : readOut s (p.bind f) = (readOut s p >>= fun a => readOut s (f a)) := by
  induction p with
  | ret a => rfl
  | raise e => rfl
  | call o next ih =>
    simp only [Prog.bind, readOut]
    split
    · exact ih _
    · rfl

/-- A result without effects is read as it is. -/
@[simp] theorem readOut_ofExcept {x : Except PyError α} : readOut s (Prog.ofExcept x) = x := by
  cases x <;> rfl

/-- A check is read as it is. -/
@[simp] theorem readOut_raiseIf {c : Prop} [Decidable c] {e : PyError} :
    readOut s (Prog.raiseIf c e) = raiseIf c e := by
  unfold Prog.raiseIf raiseIf
  split <;> rfl

/-- Reading a case reads the table of cases. -/
theorem readOut_getCase {caseId : String} :
    readOut s (perform (.getCase caseId)) = s.cases.get caseId := by
  show readOut s (Prog.ofExcept (s.cases.get caseId)) = _
  exact readOut_ofExcept

/-- Reading a record reads the table of records. -/
theorem readOut_getRecord {recordId : String} :
    readOut s (perform (.getRecord recordId)) = RecordTable.get s.records recordId := by
  show readOut s (Prog.ofExcept (RecordTable.get s.records recordId)) = _
  exact readOut_ofExcept

/-- A reading program ends as read, with the stores as they were. -/
theorem Ends.reads {clock : String → Prop} {failed : Option DurableWrite}
    {Q : Except PyError β → Stores → Prop} (hp : Reads p) {a : α} (hout : readOut s p = .ok a)
    (hf : Ends clock failed (f a) Q s) : Ends clock failed (p.bind f) Q s := by
  induction p with
  | ret a' =>
    cases hout
    exact hf
  | raise e => cases hout
  | call o next ih =>
    obtain ⟨ho, hraise, hnext⟩ := hp
    have hread : ∃ r, s.perform o = some (r, s) ∧ writeOf o = none := by
      cases o <;> first | exact ⟨_, rfl, rfl⟩ | cases ho
    obtain ⟨r, hperform, hwrite⟩ := hread
    have hfaultless : ¬(writeOf o ≠ none ∧ writeOf o = failed) := by simp [hwrite]
    refine ⟨trivial, fun r' s' hstep => ?_⟩
    simp only [aloneWorld, hperform, if_neg hfaultless] at hstep
    cases hstep
    simp only [readOut, hperform] at hout
    cases r with
    | ok b => exact ih _ (hnext b) hout
    | error e =>
      rw [hraise] at hout
      cases hout

/-- More records change nothing for a reading program that returns. -/
theorem Reads.readOut_more (hp : Reads p) {a : α} (hout : readOut s p = .ok a)
    (hcases : s'.cases = s.cases)
    (hrecords : ∀ recordId record, RecordTable.get s.records recordId = .ok record →
      RecordTable.get s'.records recordId = .ok record) : readOut s' p = .ok a := by
  induction p with
  | ret a' => exact hout
  | raise e => cases hout
  | call o next ih =>
    obtain ⟨ho, hraise, hnext⟩ := hp
    cases o with
    | getCase caseId =>
      change readOut s (next (s.cases.get caseId)) = .ok a at hout
      show readOut s' (next (s'.cases.get caseId)) = .ok a
      rw [hcases]
      cases hget : s.cases.get caseId with
      | ok case =>
        rw [hget] at hout
        exact ih _ (hnext case) hout
      | error e =>
        rw [hget, hraise] at hout
        cases hout
    | getRecord recordId =>
      change readOut s (next (RecordTable.get s.records recordId)) = .ok a at hout
      show readOut s' (next (RecordTable.get s'.records recordId)) = .ok a
      cases hget : RecordTable.get s.records recordId with
      | ok record =>
        rw [hrecords _ _ hget]
        rw [hget] at hout
        exact ih _ (hnext record) hout
      | error e =>
        rw [hget, hraise] at hout
        cases hout
    | _ => cases ho

end reading

section inputs

variable {P : Platform} {document : Document} {verb : String} {s : Stores}
  {inputs : DecisionInputs}

/-- Looking up a reviewed record only reads. -/
theorem reads_reviewRecord {case : RemediationCase} {key expectedType : String} :
    Reads (reviewRecord case key expectedType) := by
  refine reads_raiseIf.bind fun _ => (reads_perform rfl).bind fun record => ?_
  exact reads_raiseIf.bind fun _ => trivial

/-- Looking up the case of a decision only reads. -/
theorem reads_reviewCase {tenantId caseId : Json} : Reads (reviewCase P tenantId caseId) := by
  refine reads_ofExcept.bind fun _ => reads_ofExcept.bind fun _ => ?_
  refine (reads_perform rfl).bind fun case => reads_raiseIf.bind fun _ => ?_
  exact reads_raiseIf.bind fun _ => reads_raiseIf.bind fun _ => trivial

/-- Binding the review package only reads. -/
theorem reads_packageBinding {case : RemediationCase} : Reads (packageBinding P case) :=
  reads_reviewRecord.bind fun _ => trivial

/-- The checks before a decision only read. -/
theorem reads_decisionInputs : Reads (decisionInputs P document verb) := by
  refine reads_ofExcept.bind fun _ => reads_reviewCase.bind fun case => ?_
  refine reads_raiseIf.bind fun _ => reads_packageBinding.bind fun _ => ?_
  refine reads_ofExcept.bind fun _ => reads_ofExcept.bind fun _ => reads_raiseIf.bind fun _ => ?_
  exact reads_ofExcept.bind fun _ =>
    reads_raiseIf.bind fun _ => reads_ofExcept.bind fun _ => trivial

/-- What the checks of a decision establish. -/
structure Decides (s : Stores) (inputs : DecisionInputs) : Prop where
  stored : s.cases.case? inputs.case.caseId = some inputs.case
  awaiting : inputs.case.state = .awaitingApproval
  bound : inputs.case.recordIds.lookup "human_review_package_id" = some inputs.package.recordId
  package : RecordTable.get s.records inputs.package.recordId = .ok inputs.package
  owner : inputs.package.caseId = inputs.case.caseId
  type : inputs.package.recordType = "HumanReviewPackage.v1"
  approver : inputs.approver ≠ ""

/-- A text of a request that must have a character is not empty. -/
theorem reviewText_ne_empty {value : Json} {name text : String} {maximum : ℕ}
    (h : reviewText P value name 1 maximum = .ok text) : text ≠ "" := by
  rintro rfl
  unfold reviewText at h
  split at h
  · split at h
    · rename_i hlength
      rw [Except.ok.inj h] at hlength
      exact absurd hlength.1 (by decide)
    · cases h
  · cases h

/-- The checks of a decision establish what it decides on. -/
theorem decides_of_inputs (hinputs : readOut s (decisionInputs P document verb) = .ok inputs) :
    Decides s inputs := by
  unfold decisionInputs reviewCase packageBinding reviewRecord at hinputs
  simp only [Prog.bind_eq, Prog.pure_eq, Prog.bind_assoc, Prog.ret_bind, readOut_bind,
    readOut_ofExcept, readOut_raiseIf] at hinputs
  obtain ⟨tenantId, -, h⟩ := except_bind_eq_ok.mp hinputs
  obtain ⟨_, -, h⟩ := except_bind_eq_ok.mp h
  obtain ⟨caseId, -, h⟩ := except_bind_eq_ok.mp h
  obtain ⟨case, hcase, h⟩ := except_bind_eq_ok.mp h
  obtain ⟨_, -, h⟩ := except_bind_eq_ok.mp h
  obtain ⟨_, -, h⟩ := except_bind_eq_ok.mp h
  obtain ⟨_, -, h⟩ := except_bind_eq_ok.mp h
  obtain ⟨_, hawaiting, h⟩ := except_bind_eq_ok.mp h
  obtain ⟨_, hpresent, h⟩ := except_bind_eq_ok.mp h
  obtain ⟨package, hpackage, h⟩ := except_bind_eq_ok.mp h
  obtain ⟨_, howned, h⟩ := except_bind_eq_ok.mp h
  obtain ⟨_, -, h⟩ := except_bind_eq_ok.mp h
  obtain ⟨_, -, h⟩ := except_bind_eq_ok.mp h
  obtain ⟨_, -, h⟩ := except_bind_eq_ok.mp h
  obtain ⟨_, -, h⟩ := except_bind_eq_ok.mp h
  obtain ⟨_, -, h⟩ := except_bind_eq_ok.mp h
  obtain ⟨approver, happrover, h⟩ := except_bind_eq_ok.mp h
  cases h
  have howned' := raiseIf_eq_ok.mp howned
  rw [not_or, not_not, not_not] at howned'
  have hpackage' := readOut_getRecord.symm.trans hpackage
  have hid := RecordTable.recordId_of_get hpackage'
  have hstored := CaseTables.get_eq_ok.mp (readOut_getCase.symm.trans hcase)
  have hkey := CaseTables.case?_caseId hstored
  exact {
    stored := by rw [hkey]; exact hstored
    awaiting := not_not.mp (raiseIf_eq_ok.mp hawaiting)
    bound := by
      rw [hid]
      exact RecordIds.lookup_of_text_ne (raiseIf_eq_ok.mp hpresent)
    package := by rw [hid]; exact hpackage'
    owner := howned'.1
    type := howned'.2
    approver := reviewText_ne_empty happrover }

end inputs

section approving

variable {S : Settings} {clock : String → Prop} {failed : Option DurableWrite} {s : Stores}

/-- A service with a fixed clock does what it does where the clock tells this time. -/
theorem Ends.withClock {α : Type} {now : String} {p : Service α}
    {Q : Except PyError α → Stores → Prop}
    (hp : Ends (fun time => time = now) failed p Q s) :
    Ends clock failed (ElCapitan.withClock now p) Q s := by
  induction p generalizing s with
  | ret a => exact hp
  | raise e => exact hp
  | call o next ih =>
    cases o
    case now => exact ih _ (hp.2 (.ok now) s ⟨⟨now, rfl, rfl⟩, rfl⟩)
    all_goals exact ⟨trivial, fun r s' hstep => ih r (hp.2 r s' hstep)⟩

/-- The change of an awaiting case may be approved. -/
theorem approveChange_allowed {case : RemediationCase} {args : TransitionArgs}
    {approvalId : String} (hstate : case.state = .awaitingApproval)
    (hrecord : args.recordIds.lookup "approval_id" = some approvalId) (happroval : approvalId ≠ "")
    (hevent : args.eventId ≠ "" ∧ args.actor ≠ "" ∧ args.occurredAt ≠ "")
    (hbare : checkAttachments .approveChange args = .ok ()) :
    ∃ case' event, transitionCase case .approveChange args = .ok (case', event) := by
  have hlive : case.terminal = false := by
    simp [RemediationCase.terminal, hstate, terminalCaseStates]
  have hsupplied : suppliesRequired .approveChange args.recordIds = true := by
    simp [suppliesRequired, requiredRecord, hrecord, happroval]
  have htarget : transitionTarget case .approveChange args = .ok { toState := .approved } := by
    simp [transitionTarget, hstate, linearTransition]
  obtain ⟨case', event, hnext, -⟩ :=
    transitionCase_of_target hlive hsupplied htarget hbare hevent
  exact ⟨case', event, hnext⟩

/-- An approved change leaves the case approved in its window, under the ids it had. -/
theorem approveChange_accepted {case case' : RemediationCase} {args : TransitionArgs}
    {event : CaseEvent} (hbare : args.changeWindow = none)
    (hnext : transitionCase case .approveChange args = .ok (case', event)) :
    case'.state = .approved ∧ case'.caseId = case.caseId ∧
      case'.changeWindow = case.changeWindow ∧
      ∀ name, args.recordIds.lookup name = none →
        case'.recordIds.lookup name = case.recordIds.lookup name := by
  obtain ⟨target, haccepted⟩ := transitionCase_accepted hnext
  have hled : target.toState = .approved ∧ target.reopened = false := by
    cases haccepted.led with
    | linear hlinear =>
      cases hs : case.state <;> rw [hs] at hlinear <;> cases hlinear
      exact ⟨rfl, rfl⟩
  refine ⟨haccepted.state.trans hled.1, haccepted.caseId, ?_, fun name hname => ?_⟩
  · rw [haccepted.changeWindow, hled.2, hbare]
    rfl
  · rw [haccepted.recordIds, lookup_mergeRecords, hname, hled.2]
    rfl

/-- What the approval of a case leaves behind. -/
structure ApprovedIn (case : RemediationCase) (s s' : Stores) (case' : RemediationCase) :
    Prop where
  stored : s'.cases.case? case.caseId = some case'
  caseId : case'.caseId = case.caseId
  state : case'.state = .approved
  window : case'.changeWindow = case.changeWindow
  schedule : case'.recordIds.lookup "schedule_id" = case.recordIds.lookup "schedule_id"
  jobs : s'.jobs = s.jobs
  sequenced : s'.Sequenced

/-- What a failed approval leaves behind. -/
structure Unapproved (s s' : Stores) : Prop where
  cases : s'.cases = s.cases
  jobs : s'.jobs = s.jobs
  records : ∀ recordId record, RecordTable.get s.records recordId = .ok record →
    RecordTable.get s'.records recordId = .ok record

/-- How approving an awaiting case ends. -/
theorem approve_ends {assertion : VerifiedApproval S.platform} {case : RemediationCase}
    {package : ProductRecord} {planId windowId : String} (hs : s.Sequenced)
    (hcaseId : assertion.caseId = case.caseId)
    (hcase : s.cases.case? case.caseId = some case) (hstate : case.state = .awaitingApproval)
    (hbound : case.recordIds.lookup "human_review_package_id" = some assertion.reviewPackageId)
    (hpackage : RecordTable.get s.records assertion.reviewPackageId = .ok package)
    (howner : package.caseId = case.caseId) (htype : package.recordType = "HumanReviewPackage.v1")
    (hplan : case.recordIds.lookup "change_plan_id" = some planId)
    (hwindow : case.recordIds.lookup "change_window_id" = some windowId)
    (hunused : ∀ record ∈ s.records, record.recordId ≠ assertion.approvalId)
    (hclock : ∀ time, clock time → time ≠ "" ∧
      notAfter S.platform assertion.authenticatedAt time = .ok true ∧
      notAfter S.platform assertion.expiresAt time = .ok false) :
    Ends clock failed (approve S assertion) (fun out s' =>
      (failed ≠ some .approvalRecord → failed ≠ some .approveChange →
        ∃ case' record, out = .ok (case', record) ∧ ApprovedIn case s s' case') ∧
      (failed = some .approvalRecord ∨ failed = some .approveChange →
        (∃ e, out = .error e) ∧ Unapproved s s')) s := by
  have happroval : assertion.approvalId ≠ "" := by
    have hrequired := assertion.required
    simp only [List.mem_cons, not_or] at hrequired
    exact Ne.symm hrequired.1
  have hactor : "approver:" ++ assertion.approver ≠ "" := by simp
  unfold approve reviewedPackage
  simp only [Prog.bind_eq, Prog.pure_eq, Prog.bind_assoc, Prog.ret_bind]
  rw [hcaseId]
  refine Ends.getCase hcase ?_
  refine sat_bind_raiseIf.mpr ⟨fun _ => ?_, fun h => absurd hstate h⟩
  refine sat_bind_raiseIf.mpr ⟨fun _ => ?_, fun h => absurd hbound h⟩
  refine Ends.getRecord hpackage ?_
  refine sat_bind_raiseIf.mpr ⟨fun _ => ?_, fun h => ?_⟩
  swap
  · rcases h with h | h
    · exact absurd howner h
    · exact absurd htype h
  refine Ends.now fun now hnow => ?_
  obtain ⟨htold, hauthenticated, hexpires⟩ := hclock now hnow
  rw [hauthenticated, hexpires]
  simp only [Prog.ofExcept, Prog.ret_bind]
  refine sat_bind_raiseIf.mpr ⟨fun _ => ?_, fun h => by cases h⟩
  refine sat_bind_raiseIf.mpr ⟨fun _ => ?_, fun h => by cases h⟩
  refine Ends.newId fun evidenceId _ hevidence => Ends.writeEvidence (hevidence rfl) fun ref => ?_
  refine sat_bind_ofExcept.mpr ⟨fun bound _ => ?_, fun e he => ?_⟩
  swap
  · unfold decisionBinding at he
    rw [RecordIds.require_eq_ok.mpr hplan, RecordIds.require_eq_ok.mpr hwindow] at he
    cases he
  have hrecord : ∃ record, ProductRecord.create assertion.approvalId case.caseId
      "ChangeApproval.v1" 1 now (assertion.toDict ++ bound) [ref.evidenceId] = .ok record := by
    unfold ProductRecord.create
    rw [dif_pos ⟨happroval, case.required.1, by decide⟩, dif_pos (by decide)]
    exact ⟨_, rfl⟩
  obtain ⟨record, hrecord⟩ := hrecord
  obtain ⟨hid, -, hrecordType, -, -, -⟩ := ProductRecord.create_eq_ok hrecord
  refine sat_bind_ofExcept.mpr ⟨?_, fun e he => by rw [hrecord] at he; cases he⟩
  intro made hmade
  obtain rfl : record = made := by rw [hrecord] at hmade; cases hmade; rfl
  refine Ends.putRecord (w := .approvalRecord) (by rw [hid]; exact hunused)
    (by simp [writeOf, hrecordType]) (fun hrec => ?_) (fun hfailed e => ?_)
  swap
  · exact ⟨fun hrec => absurd hfailed hrec, fun _ => ⟨⟨e, rfl⟩, rfl, rfl, fun _ _ h => h⟩⟩
  refine Ends.newId fun eventId heventId _ => ?_
  refine Ends.advance (w := .approveChange) hs hcase ?_ heventId.events ?_
    (fun hchange case' event tables hnext happend hs' => ?_) (fun hfailed e => ?_)
  · exact approveChange_allowed hstate (lookup_recordIdsOf_self _ _) happroval
      ⟨heventId.nonempty, hactor, htold⟩ rfl
  · intro case' event v htransition
    simp [writeOf, htransition]
  · obtain ⟨hstate', hid', hwindow', hkept⟩ := approveChange_accepted rfl hnext
    refine ⟨fun _ _ => ⟨case', record, rfl, ?_⟩, fun hfailed => ?_⟩
    · exact {
        stored := by rw [← hid']; exact CaseTables.case?_append_self happend
        caseId := hid'
        state := hstate'
        window := hwindow'
        schedule := hkept _ (by simp [recordIdsOf, Finmap.lookup_insert_of_ne])
        jobs := rfl
        sequenced := hs' }
    · rcases hfailed with hfailed | hfailed
      · exact absurd hfailed hrec
      · exact absurd hfailed hchange
  · refine ⟨fun _ hchange => absurd hfailed hchange, fun _ => ⟨⟨e, rfl⟩, rfl, rfl, ?_⟩⟩
    intro recordId found hfound
    exact RecordTable.get_eq_ok.mpr (Rows.find_insert_of_some (RecordTable.get_eq_ok.mp hfound))

/-- A case is approved and names a stored job that is scheduled. -/
def Scheduled (caseId : String) (s : Stores) : Prop :=
  ∃ case job scheduleId, s.cases.case? caseId = some case ∧ case.state = .approved ∧
    case.recordIds.lookup "schedule_id" = some scheduleId ∧
    case.recordIds.lookup "execution_job_id" = some job.jobId ∧ job ∈ s.jobs ∧
    job.caseId = caseId ∧ job.state = .scheduled

/-- A case scheduled in a window is scheduled. -/
theorem ScheduledIn.scheduled {caseId : String} {window : ChangeWindow}
    {out : Except PyError SchedulingOutcome} (h : ScheduledIn caseId window out s) :
    Scheduled caseId s := by
  obtain ⟨outcome, -, hstored, hstate, hschedule, hjob, hjobs, hscheduled, -, -⟩ := h
  have hmem : outcome.job ∈ s.jobs.filter fun job => job.caseId = caseId := by
    rw [hjobs]
    exact List.mem_singleton_self _
  obtain ⟨hmem, hcase⟩ := List.mem_filter.mp hmem
  exact ⟨_, _, _, hstored, hstate, hschedule, hjob, hmem, of_decide_eq_true hcase, hscheduled⟩

/-- How an approval through the review control plane ends: it is scheduled, it is undone, or
the case is approved without a new schedule. -/
structure DecisionEnds (case : RemediationCase) (failed : Option DurableWrite) (s : Stores)
    (returned : Bool) (s' : Stores) : Prop where
  scheduled : failed ≠ some .approvalRecord → failed ≠ some .approveChange →
    Unobstructed s case.caseId failed → returned = true ∧ Scheduled case.caseId s'
  undone : failed = some .approvalRecord ∨ failed = some .approveChange →
    returned = false ∧ Unapproved s s'
  stranded : failed ≠ some .approvalRecord → failed ≠ some .approveChange →
    ¬Unobstructed s case.caseId failed → returned = false ∧
      ∃ case', s'.cases.case? case.caseId = some case' ∧ case'.state = .approved ∧
        case'.recordIds.lookup "schedule_id" = case.recordIds.lookup "schedule_id"

/-- A request to approve whose checks pass. -/
structure ApprovalRequested (S : Settings) (document : Document) (s : Stores)
    (inputs : DecisionInputs) (window : ChangeWindow) (planId windowId : String) : Prop where
  checked : readOut s (decisionInputs S.platform document "APPROVE") = .ok inputs
  window : inputs.case.changeWindow = some window
  plan : inputs.case.recordIds.lookup "change_plan_id" = some planId
  windowId : inputs.case.recordIds.lookup "change_window_id" = some windowId

variable {document : Document} {inputs : DecisionInputs} {window : ChangeWindow}
  {planId windowId : String}

/-- An approval whose request is in order ends with the decision taken as a whole, or with a failing
operation and the case left as it may be. -/
theorem approveAndSchedule_ends (hs : s.Sequenced)
    (hrequest : ApprovalRequested S document s inputs window planId windowId)
    {now approvalId : String}
    (hnow : now ≠ "" ∧ notAfter S.platform now now = .ok true ∧
      notAfter S.platform window.endsAt now = .ok false)
    (hunused : s.Unused approvalId) {assertion : VerifiedApproval S.platform}
    (hassertion : reviewAssertion S.platform inputs window now approvalId = .ok assertion) :
    Ends clock failed (approveAndSchedule S assertion inputs.case.caseId now)
      (fun out s' => DecisionEnds inputs.case failed s out.isOk s') s := by
  have hdecides := decides_of_inputs hrequest.checked
  have hfields : assertion.approvalId = approvalId ∧ assertion.caseId = inputs.case.caseId ∧
      assertion.reviewPackageId = inputs.package.recordId ∧ assertion.authenticatedAt = now ∧
      assertion.expiresAt = window.endsAt := by
    unfold reviewAssertion VerifiedApproval.create at hassertion
    split at hassertion
    · split at hassertion
      · cases hassertion
        exact ⟨rfl, rfl, rfl, rfl, rfl⟩
      · cases hassertion
      · cases hassertion
    · cases hassertion
  obtain ⟨hid, hcaseId, hpackageId, hauthenticated, hexpires⟩ := hfields
  have happrove : Ends (fun time => time = now) failed (approve S assertion) _ s :=
    approve_ends hs hcaseId hdecides.stored hdecides.awaiting
      (by rw [hpackageId]; exact hdecides.bound)
      (by rw [hpackageId]; exact hdecides.package) hdecides.owner hdecides.type hrequest.plan
      hrequest.windowId (by rw [hid]; exact hunused.records)
      (by rintro time rfl; rw [hauthenticated, hexpires]; exact hnow)
  unfold approveAndSchedule
  refine sat_bind.mpr ((Ends.withClock happrove).mono ?_)
  rintro (e | ⟨case', record⟩) s' ⟨happroved, hundone⟩
  · refine ⟨fun h₁ h₂ => ?_, fun hfailed => ⟨rfl, (hundone hfailed).2⟩, fun h₁ h₂ => ?_⟩
    · obtain ⟨_, _, heq, -⟩ := happroved h₁ h₂
      cases heq
    · obtain ⟨_, _, heq, -⟩ := happroved h₁ h₂
      cases heq
  · have hlive : failed ≠ some .approvalRecord ∧ failed ≠ some .approveChange := by
      rw [← not_or]
      intro hfailed
      obtain ⟨⟨e, heq⟩, -⟩ := hundone hfailed
      cases heq
    obtain ⟨approvedCase, _, heq, hin⟩ := happroved hlive.1 hlive.2
    cases heq
    have hstored := hin.stored
    rw [← hin.caseId] at hstored
    have hschedule : Ends (fun time => time = now) failed (schedule S case'.caseId) _ s' :=
      schedule_ends hin.sequenced hstored hin.state (hin.window.trans hrequest.window)
        (by rintro time rfl; exact hnow.2.2)
    have hsame : Unobstructed s' case'.caseId failed ↔
        Unobstructed s inputs.case.caseId failed := by
      unfold Unobstructed
      rw [hin.jobs, hin.caseId]
    rw [hin.caseId] at hschedule hsame
    refine sat_bind.mpr ((Ends.withClock hschedule).mono ?_)
    rintro (e | outcome) s'' ⟨hscheduled, hobstructed⟩
    all_goals refine ⟨fun _ _ hun => ?_, fun hfailed => ?_, fun _ _ hun => ?_⟩
    · obtain ⟨outcome, heq, -⟩ := hscheduled (hsame.mpr hun)
      cases heq
    · exact absurd hfailed (not_or.mpr hlive)
    · obtain ⟨-, hcases⟩ := hobstructed fun h => hun (hsame.mp h)
      refine ⟨rfl, case', ?_, hin.state, hin.schedule⟩
      rw [hcases]
      exact hin.stored
    · exact ⟨rfl, (hscheduled (hsame.mpr hun)).scheduled⟩
    · exact absurd hfailed (not_or.mpr hlive)
    · obtain ⟨⟨e, heq⟩, -⟩ := hobstructed fun h => hun (hsame.mp h)
      cases heq

/-- A timestamp is not after itself. -/
theorem notAfter_self {P : Platform} {earlier time : String} {answer : Bool}
    (h : notAfter P earlier time = .ok answer) : notAfter P time time = .ok true := by
  unfold notAfter at h
  obtain ⟨_, -, h⟩ := except_bind_eq_ok.mp h
  obtain ⟨parsed, hparsed, -⟩ := except_bind_eq_ok.mp h
  unfold notAfter
  rw [hparsed]
  show Except.ok (decide (parsed.instant ≤ parsed.instant)) = _
  simp

/-- The assertion of a checked request in an open window can be made. -/
theorem reviewAssertion_ok (hrequest : ApprovalRequested S document s inputs window planId windowId)
    {now approvalId : String} (hnow : notAfter S.platform window.endsAt now = .ok false)
    (hunused : s.Unused approvalId) :
    ∃ assertion, reviewAssertion S.platform inputs window now approvalId = .ok assertion := by
  have hdecides := decides_of_inputs hrequest.checked
  have htold := ne_empty_of_notAfter hnow
  have hmissing : "" ∉ [approvalId, inputs.case.caseId, inputs.package.recordId, inputs.approver,
      now, window.endsAt, "demo-shared-token-explicit-attestation",
      "I approve this exact review package for its selected window."] := by
    simp [hunused.nonempty.symm, inputs.case.required.1.symm, inputs.package.required.1.symm,
      hdecides.approver.symm, htold.symm, window.required.2.2.1.symm]
  unfold reviewAssertion VerifiedApproval.create
  rw [dif_pos hmissing]
  split
  · exact ⟨_, rfl⟩
  · rename_i heq
    rw [hnow] at heq
    cases heq
  · rename_i e heq
    rw [hnow] at heq
    cases heq

/-- How `ReviewControlPlane.approve` ends on a checked request in an open window. -/
theorem reviewApprove_ends (hs : s.Sequenced)
    (hrequest : ApprovalRequested S document s inputs window planId windowId)
    (hclock : ∀ time, clock time → notAfter S.platform window.endsAt time = .ok false) :
    Ends clock failed (reviewApprove S document)
      (fun out s' => DecisionEnds inputs.case failed s out.isOk s') s := by
  unfold reviewApprove
  refine Ends.reads reads_decisionInputs hrequest.checked ?_
  refine Ends.now fun now hnow => ?_
  rw [hrequest.window]
  dsimp only
  have hopen := hclock now hnow
  rw [hopen]
  refine sat_bind_ofExcept.mpr ⟨?_, fun e he => by cases he⟩
  rintro expired heq
  cases heq
  refine sat_bind_raiseIf.mpr ⟨fun _ => ?_, fun h => by cases h⟩
  refine Ends.newId fun approvalId hunused _ => ?_
  refine sat_bind_ofExcept.mpr ⟨fun assertion hassertion => ?_, fun e he => ?_⟩
  · have hends := @approveAndSchedule_ends S clock failed _ _ _ _ _ _ hs hrequest _ _
      ⟨ne_empty_of_notAfter hopen, notAfter_self hopen, hopen⟩ hunused _ hassertion
    refine sat_bind.mpr (sat_handle.mpr (hends.mono ?_))
    rintro (e | ⟨approval, scheduled⟩) s' hended
    · dsimp only
      split <;> exact hended
    · exact hended
  · obtain ⟨assertion, hassertion⟩ := reviewAssertion_ok hrequest hopen hunused
    rw [hassertion] at he
    cases he

/-- What the approval of a case promises: the case is scheduled, or it is as it was and
approving it again succeeds. -/
def AllOrNothing (S : Settings) (document : Document) (case : RemediationCase)
    (window : ChangeWindow) (s' : Stores) : Prop :=
  Scheduled case.caseId s' ∨
    (s'.cases.case? case.caseId = some case ∧ case.state = .awaitingApproval ∧
      ∀ out s'', Runs (aloneWorld (fun time => notAfter S.platform window.endsAt time = .ok false)
        none) (reviewApprove S document) s' out s'' → out.isOk = true)

/-- A case that an approval leaves approved without a schedule is neither. -/
theorem DecisionEnds.not_allOrNothing {s' : Stores} {returned : Bool}
    (h : DecisionEnds inputs.case failed s returned s')
    (hlive : failed ≠ some .approvalRecord ∧ failed ≠ some .approveChange)
    (hobstructed : ¬Unobstructed s inputs.case.caseId failed)
    (hawaiting : inputs.case.state = .awaitingApproval)
    (hunscheduled : inputs.case.recordIds.lookup "schedule_id" = none) :
    ¬AllOrNothing S document inputs.case window s' := by
  obtain ⟨-, case', hstored', hstate', hschedule'⟩ := h.stranded hlive.1 hlive.2 hobstructed
  rintro (⟨case, _, scheduleId, hstored, -, hschedule, -⟩ | ⟨hstored, -, -⟩)
  · rw [hstored'] at hstored
    cases hstored
    rw [hschedule', hunscheduled] at hschedule
    cases hschedule
  · rw [hstored'] at hstored
    cases hstored
    rw [hawaiting] at hstate'
    cases hstate'

/-- A checked request can be repeated after a failed approval. -/
theorem ApprovalRequested.again {s' : Stores}
    (hrequest : ApprovalRequested S document s inputs window planId windowId)
    (h : Unapproved s s') : ApprovalRequested S document s' inputs window planId windowId where
  checked := reads_decisionInputs.readOut_more hrequest.checked h.cases h.records
  window := hrequest.window
  plan := hrequest.plan
  windowId := hrequest.windowId

/-- In every lawful history, an approval through the review control plane is all or nothing
exactly when no job row of the case is left and the write that fails is not one of the
scheduling. -/
theorem approval_all_or_nothing {h : Trace} {now : String} (hrun : Steps LawfulStep {} h s)
    (hrequest : ApprovalRequested S document s inputs window planId windowId)
    (hopen : notAfter S.platform window.endsAt now = .ok false) :
    (∀ out s', Runs (aloneWorld (fun time => notAfter S.platform window.endsAt time = .ok false)
        failed) (reviewApprove S document) s out s' →
      AllOrNothing S document inputs.case window s') ↔
      (∀ job ∈ s.jobs, job.caseId ≠ inputs.case.caseId) ∧ failed ≠ some .job ∧
        failed ≠ some .scheduleRecord ∧ failed ≠ some .scheduleExecution := by
  let clock := fun time => notAfter S.platform window.endsAt time = .ok false
  have hs : s.Sequenced :=
    sequenced_of_history (hrun.mono fun _ _ _ hstep => hstep.step)
  have hdecides := decides_of_inputs hrequest.checked
  have hends : ∀ failed, Ends clock failed (reviewApprove S document) _ s := fun failed =>
    reviewApprove_ends hs hrequest fun _ htime => htime
  have hretry : ∀ s', Unapproved s s' → Ends clock none (reviewApprove S document)
      (fun out s'' => DecisionEnds inputs.case none s' out.isOk s'') s' := by
    intro s' hundone
    have hs' : s'.Sequenced := by
      unfold Stores.Sequenced
      rw [hundone.cases]
      exact hs
    exact reviewApprove_ends hs' (hrequest.again hundone) fun _ htime => htime
  constructor
  · intro hall
    by_contra hobstructed
    have htold : clock now := hopen
    obtain ⟨out, s', hrun'⟩ := Runs.exists_of_total (aloneWorld_total htold failed)
      (reviewApprove S document) s
    have hended := (hends failed).runs hrun'
    by_cases hfailed : failed = some .approvalRecord ∨ failed = some .approveChange
    · -- the job row that is left stops the second approval
      have hrow : ¬∀ job ∈ s.jobs, job.caseId ≠ inputs.case.caseId := by
        intro hfree
        rcases hfailed with rfl | rfl <;> exact hobstructed ⟨hfree, by simp, by simp, by simp⟩
      obtain ⟨-, hundone⟩ := hended.undone hfailed
      rcases hall _ _ hrun' with ⟨case, -, -, hstored, hstate, -⟩ | ⟨-, -, hagain⟩
      · rw [hundone.cases, hdecides.stored] at hstored
        cases hstored
        rw [hdecides.awaiting] at hstate
        cases hstate
      · obtain ⟨out', s'', hrun''⟩ := Runs.exists_of_total (aloneWorld_total htold none)
          (reviewApprove S document) s'
        have hended' := (hretry _ hundone).runs hrun''
        have hfalse := (hended'.stranded (by simp) (by simp) fun hun => hrow (by
          rw [← hundone.jobs]
          exact hun.1)).1
        rw [hagain _ _ hrun''] at hfalse
        cases hfalse
    · rw [not_or] at hfailed
      have hunscheduled : inputs.case.recordIds.lookup "schedule_id" = none := by
        by_contra hsome
        have hheld := schedules_held hrun hdecides.stored hsome
        rw [RemediationCase.effectiveState, hdecides.awaiting,
          effectiveOf_of_ne (by decide)] at hheld
        exact absurd hheld (by decide)
      exact hended.not_allOrNothing hfailed hobstructed hdecides.awaiting hunscheduled
        (hall _ _ hrun')
  · rintro hun out s' hrun'
    have hended := (hends failed).runs hrun'
    by_cases hfailed : failed = some .approvalRecord ∨ failed = some .approveChange
    · obtain ⟨-, hundone⟩ := hended.undone hfailed
      refine .inr ⟨?_, hdecides.awaiting, fun out s'' hagain => ?_⟩
      · rw [hundone.cases]
        exact hdecides.stored
      · refine (((hretry _ hundone).runs hagain).scheduled (by simp) (by simp) ⟨?_, by simp,
          by simp, by simp⟩).1
        rw [hundone.jobs]
        exact hun.1
    · rw [not_or] at hfailed
      exact .inl (hended.scheduled hfailed.1 hfailed.2 hun).2

end approving

section samples

/-- The SHA-256 of an empty document. -/
def emptyDigest : String := "44136fa355b3678a1146ad16f7e8649e94fb4fc21fe77e8310c060f61caaff8a"

/-- The sample platform with this digest. -/
def digestPlatform : Platform :=
  { samplePlatform with
    sha256Hex := fun text => if text = "{}" then emptyDigest else "sha256:" ++ text }

/-- An installation on it. -/
def digestSettings : Settings := ⟨digestPlatform, "/artifacts", fun _ _ _ => none⟩

/-- The review package of the sample case. -/
def emptyPackage : ProductRecord :=
  sampleRecord "package-1" "HumanReviewPackage.v1" [] (by decide)

/-- A request to approve the sample case. -/
def approvalRequest : Document :=
  [("tenant_id", .str "tenant-1"), ("case_id", .str "case-1"),
    ("review_package_id", .str "package-1"), ("review_package_sha256", .str emptyDigest),
    ("confirmation", .str "APPROVE package-1"), ("approver", .str "operator")]

/-- The stores with the newly opened sample case and its package. -/
def openedStores : Stores :=
  { cases := { cases := [sampleCase], active := CaseTables.activeRows sampleCase }
    records := [emptyPackage] }

/-- The opened stores are those of a history. -/
theorem openedStores_history : ∃ h, Steps LawfulStep {} h openedStores := by
  have hinsert : LawfulStep {} ⟨.insertCase sampleCase, .ok ()⟩
      { cases := { cases := [sampleCase], active := CaseTables.activeRows sampleCase } } :=
    { step := ⟨⟨none, fun _ => .error (valueError "")⟩, rfl⟩
      opened := fun case heq => by cases heq; exact sampleCase_opened
      applied := fun _ _ _ heq => by cases heq }
  have hput : LawfulStep
      { cases := { cases := [sampleCase], active := CaseTables.activeRows sampleCase } }
      ⟨.putRecord emptyPackage, .ok ()⟩ openedStores :=
    { step := ⟨⟨none, fun _ => .error (valueError "")⟩, rfl⟩
      opened := fun _ heq => by cases heq
      applied := fun _ _ _ heq => by cases heq }
  exact ⟨_, .cons hinsert (.single hput)⟩

/-- The sample case awaits a decision, and the request passes its checks. -/
def requestChecked (s : Stores) : Bool :=
  match readOut s (decisionInputs digestPlatform approvalRequest "APPROVE") with
  | .ok inputs => decide (inputs.case.changeWindow = some sampleWindow ∧
      inputs.case.recordIds.lookup "change_plan_id" = some "plan-1" ∧
      inputs.case.recordIds.lookup "change_window_id" = some "window-1" ∧
      inputs.case.recordIds.lookup "schedule_id" = none ∧ s.jobs = [])
  | .error _ => false

/-- A request of the sample is in order. -/
theorem requestChecked_sample :
    ∃ s ∈ openedStores.applyAll "case-1" awaitingRequests, requestChecked s = true := by
  decide +kernel

/-- A lawful history after which the sample case can be approved. -/
theorem approvable_sample : ∃ h s inputs, Steps LawfulStep {} h s ∧ s.jobs = [] ∧
    inputs.case.recordIds.lookup "schedule_id" = none ∧
    ApprovalRequested digestSettings approvalRequest s inputs sampleWindow "plan-1" "window-1" := by
  obtain ⟨s, happly, hchecked⟩ := requestChecked_sample
  obtain ⟨h₁, hopened⟩ := openedStores_history
  obtain ⟨h₂, happlied⟩ := applyAll_lawful happly
  unfold requestChecked at hchecked
  split at hchecked
  · rename_i inputs hinputs
    obtain ⟨hwindow, hplan, hwindowId, hschedule, hjobs⟩ := of_decide_eq_true hchecked
    exact ⟨_, s, inputs, hopened.append happlied, hjobs, hschedule, hinputs, hwindow, hplan,
      hwindowId⟩
  · cases hchecked

/-- The clock of the runs on the sample case: its window is open. -/
abbrev sampleClock (time : String) : Prop :=
  notAfter digestPlatform sampleWindow.endsAt time = .ok false

/-- The sample's clock shows the sample's time. -/
theorem sampleClock_tells : sampleClock "2026-07-17T12:00:00Z" := by
  decide +kernel

/-- Without a failing write the sample case is approved all or nothing. -/
theorem approval_all_or_nothing_sample : ∃ s inputs,
    ApprovalRequested digestSettings approvalRequest s inputs sampleWindow "plan-1" "window-1" ∧
    ∀ out s', Runs (aloneWorld sampleClock none) (reviewApprove digestSettings approvalRequest) s
        out s' →
      AllOrNothing digestSettings approvalRequest inputs.case sampleWindow s' := by
  obtain ⟨h, s, inputs, hrun, hjobs, -, hrequest⟩ := approvable_sample
  refine ⟨s, inputs, hrequest,
    (@approval_all_or_nothing digestSettings none _ _ _ _ _ _ _ _ hrun hrequest
      sampleClock_tells).mpr ⟨?_, by simp, by simp, by simp⟩⟩
  rw [hjobs]
  simp

/-- When the record of the schedule cannot be put, the case is left approved without a
schedule. -/
theorem approval_left_unscheduled : ∃ h s inputs, Steps LawfulStep {} h s ∧
    ApprovalRequested digestSettings approvalRequest s inputs sampleWindow "plan-1" "window-1" ∧
    (∃ out s', Runs (aloneWorld sampleClock (some .scheduleRecord))
      (reviewApprove digestSettings approvalRequest) s out s') ∧
    ∀ out s', Runs (aloneWorld sampleClock (some .scheduleRecord))
        (reviewApprove digestSettings approvalRequest) s out s' →
      (∃ case, s'.cases.case? inputs.case.caseId = some case ∧ case.state = .approved ∧
        case.recordIds.lookup "schedule_id" = none) ∧
      ¬AllOrNothing digestSettings approvalRequest inputs.case sampleWindow s' := by
  obtain ⟨h, s, inputs, hrun, -, hschedule, hrequest⟩ := approvable_sample
  have hs := sequenced_of_history (hrun.mono fun _ _ _ hstep => hstep.step)
  have hends := @reviewApprove_ends digestSettings sampleClock (some .scheduleRecord) _ _ _ _ _ _
    hs hrequest fun _ htime => htime
  have hobstructed : ¬Unobstructed s inputs.case.caseId (some .scheduleRecord) :=
    fun hun => hun.2.2.1 rfl
  refine ⟨h, s, inputs, hrun, hrequest,
    Runs.exists_of_total (aloneWorld_total sampleClock_tells _) _ _, fun out s' hrun' => ?_⟩
  have hended := hends.runs hrun'
  obtain ⟨-, case, hstored, hstate, hsame⟩ :=
    hended.stranded (by simp) (by simp) hobstructed
  refine ⟨⟨case, hstored, hstate, hsame.trans hschedule⟩, ?_⟩
  exact hended.not_allOrNothing ⟨by simp, by simp⟩ hobstructed
    (decides_of_inputs hrequest.checked).awaiting hschedule

end samples

end ElCapitan
