import ElCapitan.Findings.Priority
import ElCapitan.Portfolio.Occupancy
import ElCapitan.Services.Execution
import ElCapitan.Stores.InMemoryCaseStore

/-!
# The portfolio queue

`PortfolioService.queue` ranks the eligible cases of a tenant and compares the window of
each with the windows ranked above it. With one parallel change every overlap is a
conflict; with more, only an overlap of cases that share a service is one, and the bound
on parallel changes is never counted against. The arithmetic of the scores is a parameter,
so that rounding may rank the cases in any way.
-/

namespace ElCapitan

open Occupancy

/-- `ELIGIBLE_STATES`. -/
def eligibleStates : List CaseState :=
  [.validated, .planReady, .sreApproved, .windowSelected, .rollbackReady, .awaitingApproval,
    .approved]

/-- `PortfolioPolicy`. -/
structure PortfolioPolicy where
  maximumParallelChanges : ℤ := 1
  criticalServicePenalty : ℚ := 10
  internetExposureBonus : ℚ := 10
  positive : 1 ≤ maximumParallelChanges

/-- The values of `scheduling_status`. -/
inductive SchedulingStatus where
  | windowConflict
  | candidateWindowConflict
  | scheduled
  | awaitingPlan
  | awaitingSreReview
  | awaitingWindow
  | awaitingRollbackReview
  | assemblingHumanReview
  | awaitingHumanApproval
  deriving DecidableEq, Repr

/-- `PortfolioItem`. -/
structure PortfolioItem where
  rank : ℕ
  caseId : String
  state : String
  baseRiskScore : ℚ
  effectivePriority : ℚ
  serviceIds : List String
  windowStart : String
  windowEnd : String
  schedulingStatus : SchedulingStatus
  reasons : List String

/-- A queued case with what it is ranked by. -/
structure RankedCase where
  case : RemediationCase
  priority : RiskAssessment
  effective : ℚ
  created : DateTime

/-- The operations on scores, each of which may round the exact result. -/
structure FloatArithmetic where
  add : ℚ → ℚ → ℚ
  sub : ℚ → ℚ → ℚ
  mul : ℚ → ℚ → ℚ
  /-- `round(value, 3)`. -/
  roundThree : ℚ → ℚ

/-- The exact operations. -/
def exactArithmetic : FloatArithmetic := ⟨(· + ·), (· - ·), (· * ·), roundThree⟩

/-- `set(left.service_ids) & set(right.service_ids)` is not empty. -/
def sharesService (left right : RemediationCase) : Bool :=
  left.serviceIds.any fun service => right.serviceIds.contains service

variable (P : Platform) (A : FloatArithmetic) (policy : PortfolioPolicy)

/-- `_overlap`. -/
def overlap (left right : RemediationCase) : Except PyError Bool :=
  match left.changeWindow, right.changeWindow with
  | some l, some r => do
    let leftStart ← parseTimestamp P l.startsAt
    let rightEnd ← parseTimestamp P r.endsAt
    if leftStart.instant < rightEnd.instant then
      let rightStart ← parseTimestamp P r.startsAt
      let leftEnd ← parseTimestamp P l.endsAt
      return decide (rightStart.instant < leftEnd.instant)
    else return false
  | _, _ => .ok false

section ranking

variable (criticality : List (String × ℚ))

/-- The priority a case is queued by. -/
def effectivePriority (case : RemediationCase) (priority : RiskAssessment) : ℚ :=
  let serviceWeight :=
    (case.serviceIds.map fun service => (criticality.lookup service).getD 0).max?.getD 0
  let exposure := priority.factors.any fun factor =>
    decide ("internet".toList <:+: (P.lower factor).toList)
  A.sub (A.add priority.score (if exposure then policy.internetExposureBonus else 0))
    (A.mul policy.criticalServicePenalty serviceWeight)

/-- The sort key of a case, when the case is queued. -/
def sortKey (case : RemediationCase) : Except PyError (Option RankedCase) :=
  match case.priority with
  | none => .ok none
  | some priority =>
    if case.state ∈ eligibleStates then do
      let created ← parseTimestamp P case.createdAt
      return some ⟨case, priority, effectivePriority P A policy criticality case priority, created⟩
    else .ok none

/-- The order of the sort keys. -/
def rankedBefore (a b : RankedCase) : Prop :=
  b.effective < a.effective ∨ (a.effective = b.effective ∧
    (b.priority.score < a.priority.score ∨ (a.priority.score = b.priority.score ∧
      (a.created.instant < b.created.instant ∨ (a.created.instant = b.created.instant ∧
        a.case.caseId ≤ b.case.caseId)))))

instance : DecidableRel rankedBefore := fun _ _ => inferInstanceAs (Decidable (_ ∨ _))

/-- The queued cases in the order of their rank. -/
def rankCases (cases : List RemediationCase) : Except PyError (List RankedCase) := do
  let scored ← cases.filterMapM (sortKey P A policy criticality)
  return scored.insertionSort rankedBefore

end ranking

/-- The higher-ranked cases whose windows are taken to conflict with the one of a case. -/
def conflictsOf (case : RemediationCase) : List RankedCase → Except PyError (List String)
  | [] => .ok []
  | higher :: rest => do
    let meets ← overlap P case higher.case
    let conflicts ← conflictsOf case rest
    return if meets && (sharesService case higher.case ||
        decide (policy.maximumParallelChanges = 1)) then higher.case.caseId :: conflicts
      else conflicts

/-- The status of a case with its last reason. -/
def schedulingOf (case : RemediationCase) (conflicts : List String) : SchedulingStatus × String :=
  if conflicts ≠ [] ∧ case.state = .approved then
    (.windowConflict, "conflicts with higher-priority case(s): " ++ ", ".intercalate conflicts)
  else if conflicts ≠ [] ∧ case.changeWindow.isSome then
    (.candidateWindowConflict,
      "candidate conflicts with higher-priority case(s): " ++ ", ".intercalate conflicts)
  else if case.state = .approved ∧ case.changeWindow.isSome then
    (.scheduled, "approved window has no fleet collision")
  else
    match case.state with
    | .validated => (.awaitingPlan, "validated case must complete operational planning")
    | .planReady => (.awaitingSreReview, "verified plan is awaiting independent SRE review")
    | .sreApproved => (.awaitingWindow, "SRE-approved plan is awaiting window selection")
    | .windowSelected =>
      (.awaitingRollbackReview, "candidate window is not approved or scheduled")
    | .rollbackReady =>
      (.assemblingHumanReview, "rollback-ready package is entering the policy gate")
    | _ => (.awaitingHumanApproval, "candidate window remains unapproved and unscheduled")

variable (formatOne : ℚ → String)

/-- The item of a case below the given ones; `formatOne` is `format(value, ".1f")`. -/
def itemOf (above : List RankedCase) (ranked : RankedCase) : Except PyError PortfolioItem := do
  let case := ranked.case
  let conflicts ← conflictsOf P policy case above
  let (status, reason) := schedulingOf case conflicts
  return {
    rank := above.length + 1
    caseId := case.caseId
    state := case.state.value
    baseRiskScore := ranked.priority.score
    effectivePriority := A.roundThree ranked.effective
    serviceIds := case.serviceIds
    windowStart := (case.changeWindow.map ChangeWindow.startsAt).getD ""
    windowEnd := (case.changeWindow.map ChangeWindow.endsAt).getD ""
    schedulingStatus := status
    reasons := ["risk score " ++ formatOne ranked.priority.score, reason] }

/-- The items of the ranked cases below the given ones. -/
def itemsFrom (above : List RankedCase) : List RankedCase → Except PyError (List PortfolioItem)
  | [] => .ok []
  | ranked :: rest => do
    let item ← itemOf P A policy formatOne above ranked
    let items ← itemsFrom (above ++ [ranked]) rest
    return item :: items

/-- `PortfolioService.queue` over a case store. -/
def queue {σ : Type} (store : CaseStoreOf σ) (cases : σ) (tenantId : String)
    (criticality : List (String × ℚ)) : Except PyError (List PortfolioItem) := do
  let ranked ← rankCases P A policy criticality (store.listCases cases (some tenantId))
  itemsFrom P A policy formatOne [] ranked

/-- The span of a window; a window with a bound that cannot be parsed has none. -/
def spanOf (startsAt endsAt : String) : Option (Span ℤ) :=
  match parseTimestamp P startsAt, parseTimestamp P endsAt with
  | .ok first, .ok last => some ⟨first.instant, last.instant⟩
  | _, _ => none

/-- The span of the window of a case. -/
def caseSpan (case : RemediationCase) : Option (Span ℤ) :=
  case.changeWindow.bind fun window => spanOf P window.startsAt window.endsAt

/-- The span of the window of an item. -/
def PortfolioItem.span (item : PortfolioItem) : Option (Span ℤ) :=
  spanOf P item.windowStart item.windowEnd

/-- The items with an approved window that goes ahead. -/
def scheduledItems (items : List PortfolioItem) : List PortfolioItem :=
  items.filter fun item => item.schedulingStatus = .scheduled

/-- At no instant are more scheduled windows open than the policy allows, and scheduled
cases with overlapping windows share no service. -/
structure WithinCapacity (items : List PortfolioItem) : Prop where
  capacity : ∀ t : ℤ, (occupancy ((scheduledItems items).filterMap fun item => item.span P) t : ℤ) ≤
    policy.maximumParallelChanges
  services : (scheduledItems items).Pairwise fun a b => ∀ v w, a.span P = some v →
    b.span P = some w → v.Meets w → ∀ service ∈ a.serviceIds, service ∉ b.serviceIds

/-- The window of the case overlaps the one of the other. -/
def overlaps (case other : RemediationCase) : Bool := (overlap P case other).toOption.getD false

/-- An approved case with a window. -/
def RankedCase.approved (ranked : RankedCase) : Bool :=
  ranked.case.state = .approved && ranked.case.changeWindow.isSome

/-- The approved cases that share no service with a higher-ranked case whose window
overlaps theirs. -/
def uncontested (ranked : List RankedCase) : List RankedCase :=
  unopposed RankedCase.approved
    (fun lower higher => overlaps P lower.case higher.case && sharesService lower.case higher.case)
    [] ranked

/-- One change at a time, or at the start of no uncontested window are more uncontested
windows open than the policy allows. -/
def Fits (ranked : List RankedCase) : Prop :=
  policy.maximumParallelChanges = 1 ∨
    ∀ v ∈ (uncontested P ranked).filterMap (fun r => caseSpan P r.case),
      (occupancy ((uncontested P ranked).filterMap fun r => caseSpan P r.case) v.start : ℤ) ≤
        policy.maximumParallelChanges

end ElCapitan
