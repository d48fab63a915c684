import ElCapitan.Base.Platform
import ElCapitan.Base.Rounding
import ElCapitan.Cases.Records

/-!
# Priority

The transparent policy calculation of a case's priority. Numbers are rationals,
and rounding to two places takes halves to even.
-/

namespace ElCapitan

variable (P : Platform)

/-- `PrioritySignals`. -/
structure PrioritySignals where
  severity : String
  assetCriticality : ℚ
  exploitProbability : ℚ
  internetExposed : Bool
  reachable : Bool
  knownExploited : Bool
  activeExploitation : Bool
  runtimeDependency : Bool
  compensatingControlStrength : ℚ
  evidenceIds : List String
  assetCriticality_bounds : 0 ≤ assetCriticality ∧ assetCriticality ≤ 1
  exploitProbability_bounds : 0 ≤ exploitProbability ∧ exploitProbability ≤ 1
  compensatingControlStrength_bounds :
    0 ≤ compensatingControlStrength ∧ compensatingControlStrength ≤ 1

/-- The constructor of `PrioritySignals`. -/
def PrioritySignals.create (severity : String) (assetCriticality exploitProbability : ℚ)
    (internetExposed reachable knownExploited activeExploitation runtimeDependency : Bool)
    (compensatingControlStrength : ℚ) (evidenceIds : List String) :
    Except PyError PrioritySignals :=
  if hasset : 0 ≤ assetCriticality ∧ assetCriticality ≤ 1 then
    if hexploit : 0 ≤ exploitProbability ∧ exploitProbability ≤ 1 then
      if hcontrol : 0 ≤ compensatingControlStrength ∧ compensatingControlStrength ≤ 1 then
        .ok ⟨severity, assetCriticality, exploitProbability, internetExposed, reachable,
          knownExploited, activeExploitation, runtimeDependency, compensatingControlStrength,
          evidenceIds, hasset, hexploit, hcontrol⟩
      else .error (valueError "compensating_control_strength must be between 0 and 1")
    else .error (valueError "exploit_probability must be between 0 and 1")
  else .error (valueError "asset_criticality must be between 0 and 1")

/-- `PriorityPolicy`. -/
structure PriorityPolicy where
  severityWeights : List (String × ℚ) :=
    [("critical", 40), ("high", 30), ("medium", 15), ("low", 5), ("informational", 0),
      ("unknown", 10)]
  assetCriticalityWeight : ℚ := 20
  exploitProbabilityWeight : ℚ := 20
  internetExposedWeight : ℚ := 10
  reachableWeight : ℚ := 10
  knownExploitedWeight : ℚ := 20
  activeExploitationWeight : ℚ := 25
  runtimeDependencyWeight : ℚ := 10
  compensatingControlWeight : ℚ := 20
  urgentThreshold : ℚ := 80
  highThreshold : ℚ := 60
  normalThreshold : ℚ := 30
  thresholds_ordered : 0 ≤ normalThreshold ∧ normalThreshold ≤ highThreshold ∧
    highThreshold ≤ urgentThreshold ∧ urgentThreshold ≤ 100 := by decide

/-- `DEFAULT_PRIORITY_POLICY`. -/
def defaultPriorityPolicy : PriorityPolicy := {}

/-- `round(value, 2)`. -/
def roundTwo (value : ℚ) : ℚ := roundTo 100 value

/-- `round(value, 3)`. -/
def roundThree (value : ℚ) : ℚ := roundTo 1000 value

/-- The contributions of the signals to the score, with their reasons. -/
def contributions (policy : PriorityPolicy) (signals : PrioritySignals) : List (ℚ × String) :=
  let severity := P.lower signals.severity
  let severityScore := (policy.severityWeights.lookup severity).getD
    ((policy.severityWeights.lookup "unknown").getD 0)
  [(severityScore, "severity is " ++ severity),
    (signals.assetCriticality * policy.assetCriticalityWeight,
      "asset criticality is " ++ P.formatTwo signals.assetCriticality),
    (signals.exploitProbability * policy.exploitProbabilityWeight,
      "exploit probability is " ++ P.formatTwo signals.exploitProbability),
    (if signals.internetExposed then policy.internetExposedWeight else 0,
      "asset is internet exposed"),
    (if signals.reachable then policy.reachableWeight else 0, "vulnerable path is reachable"),
    (if signals.knownExploited then policy.knownExploitedWeight else 0,
      "vulnerability is known to be exploited"),
    (if signals.activeExploitation then policy.activeExploitationWeight else 0,
      "active exploitation is observed"),
    (if signals.runtimeDependency then policy.runtimeDependencyWeight else 0,
      "asset has a supplied runtime dependency"),
    (-signals.compensatingControlStrength * policy.compensatingControlWeight,
      "compensating-control strength is " ++ P.formatTwo signals.compensatingControlStrength)]

/-- The score of the signals. -/
def priorityScore (policy : PriorityPolicy) (signals : PrioritySignals) : ℚ :=
  max 0 (min 100 (roundTwo ((contributions P policy signals).map Prod.fst).sum))

/-- How many of the facts the score rests on were observed. -/
def observableCount (signals : PrioritySignals) : ℕ :=
  ([decide (P.lower signals.severity ≠ "unknown"), decide (signals.evidenceIds ≠ []),
    decide (signals.exploitProbability > 0) || signals.knownExploited,
    decide (signals.assetCriticality > 0)].filter id).length

/-- The urgency a policy gives to a score. -/
def PriorityPolicy.urgencyOf (policy : PriorityPolicy) (score : ℚ) : String :=
  if score ≥ policy.urgentThreshold then "urgent"
  else if score ≥ policy.highThreshold then "high"
  else if score ≥ policy.normalThreshold then "normal"
  else "low"

/-- The reasons an assessment keeps: those of the contributions that count, and the
compensating control's in any case. -/
def materialFactors (policy : PriorityPolicy) (signals : PrioritySignals) : List String :=
  ((contributions P policy signals).filter fun item =>
    item.1 ≠ 0 || "compensating-control".toList.isPrefixOf item.2.toList).map Prod.snd

/-- `assess_priority`. -/
def assessPriority (assessmentId : String) (signals : PrioritySignals)
    (policy : PriorityPolicy) : Except PyError RiskAssessment :=
  let score := priorityScore P policy signals
  RiskAssessment.create assessmentId score (policy.urgencyOf score)
    (materialFactors P policy signals) (roundTwo ((observableCount P signals : ℚ) / 4))
    signals.evidenceIds

end ElCapitan
