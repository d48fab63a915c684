import ElCapitan.Findings.Priority

/-!
# The order of priorities

A policy with non-negative weights ranks signals by their risk: what raises one
signal does not lower the score or the urgency. The score is a rounded sum cut to
0 to 100, and each of these three operations keeps the order.
-/

namespace ElCapitan

variable (P : Platform)

/-- Rounding to two places keeps the order. -/
theorem roundTwo_mono : Monotone roundTwo := roundTo_mono (by norm_num)

/-- Rounding to two places leaves an integer alone. -/
theorem roundTwo_intCast (n : ℤ) : roundTwo n = n := by
  have hround := @roundTo_multiple 100 (by norm_num) (n * 100)
  simpa [roundTwo] using hround

/-- The weight a policy gives to a severity, the unknown one's where it gives none. -/
def PriorityPolicy.severityWeight (policy : PriorityPolicy) (severity : String) : ℚ :=
  (policy.severityWeights.lookup (P.lower severity)).getD
    ((policy.severityWeights.lookup "unknown").getD 0)

/-- A policy none of whose weights is negative. -/
structure PriorityPolicy.NonNegative (policy : PriorityPolicy) : Prop where
  severityWeights : ∀ weight ∈ policy.severityWeights, 0 ≤ weight.2
  assetCriticalityWeight : 0 ≤ policy.assetCriticalityWeight
  exploitProbabilityWeight : 0 ≤ policy.exploitProbabilityWeight
  internetExposedWeight : 0 ≤ policy.internetExposedWeight
  reachableWeight : 0 ≤ policy.reachableWeight
  knownExploitedWeight : 0 ≤ policy.knownExploitedWeight
  activeExploitationWeight : 0 ≤ policy.activeExploitationWeight
  runtimeDependencyWeight : 0 ≤ policy.runtimeDependencyWeight
  compensatingControlWeight : 0 ≤ policy.compensatingControlWeight

/-- The default policy has no negative weight. -/
theorem defaultPriorityPolicy_nonNegative : defaultPriorityPolicy.NonNegative := by
  constructor <;> decide +kernel

/-- The second signals are the first with one of them raised: a higher criticality or
probability, a risk that became true, a severity of at least equal weight, or a weaker
compensating control. -/
inductive Raised (policy : PriorityPolicy) : PrioritySignals → PrioritySignals → Prop
  | severity (signals : PrioritySignals) (severity : String)
      (hweight : policy.severityWeight P signals.severity ≤ policy.severityWeight P severity) :
      Raised policy signals { signals with severity := severity }
  | assetCriticality (signals : PrioritySignals) (value : ℚ) (hbounds : 0 ≤ value ∧ value ≤ 1)
      (hrises : signals.assetCriticality ≤ value) :
      Raised policy signals
        { signals with assetCriticality := value, assetCriticality_bounds := hbounds }
  | exploitProbability (signals : PrioritySignals) (value : ℚ) (hbounds : 0 ≤ value ∧ value ≤ 1)
      (hrises : signals.exploitProbability ≤ value) :
      Raised policy signals
        { signals with exploitProbability := value, exploitProbability_bounds := hbounds }
  | internetExposed (signals : PrioritySignals) :
      Raised policy signals { signals with internetExposed := true }
  | reachable (signals : PrioritySignals) :
      Raised policy signals { signals with reachable := true }
  | knownExploited (signals : PrioritySignals) :
      Raised policy signals { signals with knownExploited := true }
  | activeExploitation (signals : PrioritySignals) :
      Raised policy signals { signals with activeExploitation := true }
  | runtimeDependency (signals : PrioritySignals) :
      Raised policy signals { signals with runtimeDependency := true }
  | compensatingControl (signals : PrioritySignals) (value : ℚ)
      (hbounds : 0 ≤ value ∧ value ≤ 1) (hfalls : value ≤ signals.compensatingControlStrength) :
      Raised policy signals
        { signals with compensatingControlStrength := value,
                       compensatingControlStrength_bounds := hbounds }

/-- The second signals are nowhere less risky than the first. -/
structure NoSafer (policy : PriorityPolicy) (first second : PrioritySignals) : Prop where
  severity : policy.severityWeight P first.severity ≤ policy.severityWeight P second.severity
  assetCriticality : first.assetCriticality ≤ second.assetCriticality
  exploitProbability : first.exploitProbability ≤ second.exploitProbability
  internetExposed : first.internetExposed = true → second.internetExposed = true
  reachable : first.reachable = true → second.reachable = true
  knownExploited : first.knownExploited = true → second.knownExploited = true
  activeExploitation : first.activeExploitation = true → second.activeExploitation = true
  runtimeDependency : first.runtimeDependency = true → second.runtimeDependency = true
  compensatingControl : second.compensatingControlStrength ≤ first.compensatingControlStrength

/-- Signals are nowhere less risky than themselves. -/
theorem NoSafer.refl (policy : PriorityPolicy) (signals : PrioritySignals) :
    NoSafer P policy signals signals :=
  ⟨le_rfl, le_rfl, le_rfl, id, id, id, id, id, le_rfl⟩

variable {P}
variable {policy : PriorityPolicy} {first second signals : PrioritySignals}

/-- One raised signal leaves the signals nowhere less risky. -/
theorem Raised.noSafer (hraised : Raised P policy first second) :
    NoSafer P policy first second := by
  cases hraised with
  | severity severity hweight => exact { NoSafer.refl P policy first with severity := hweight }
  | assetCriticality value hbounds hrises =>
    exact { NoSafer.refl P policy first with assetCriticality := hrises }
  | exploitProbability value hbounds hrises =>
    exact { NoSafer.refl P policy first with exploitProbability := hrises }
  | internetExposed => exact { NoSafer.refl P policy first with internetExposed := fun _ => rfl }
  | reachable => exact { NoSafer.refl P policy first with reachable := fun _ => rfl }
  | knownExploited => exact { NoSafer.refl P policy first with knownExploited := fun _ => rfl }
  | activeExploitation =>
    exact { NoSafer.refl P policy first with activeExploitation := fun _ => rfl }
  | runtimeDependency =>
    exact { NoSafer.refl P policy first with runtimeDependency := fun _ => rfl }
  | compensatingControl value hbounds hfalls =>
    exact { NoSafer.refl P policy first with compensatingControl := hfalls }

/-- A non-negative weight counts no less once its signal is true. -/
theorem weight_le_of_imp {weight : ℚ} (hweight : 0 ≤ weight) {before after : Bool}
    (himp : before = true → after = true) :
    (if before then weight else 0) ≤ if after then weight else 0 := by
  cases before with
  | false => cases after <;> simp [hweight]
  | true => simp [himp rfl]

/-- Riskier signals contribute no less. -/
theorem contributions_sum_mono (hpolicy : policy.NonNegative)
    (hsafer : NoSafer P policy first second) :
    ((contributions P policy first).map Prod.fst).sum ≤
      ((contributions P policy second).map Prod.fst).sum := by
  have hseverity := hsafer.severity
  have hasset := mul_le_mul_of_nonneg_right hsafer.assetCriticality
    hpolicy.assetCriticalityWeight
  have hexploit := mul_le_mul_of_nonneg_right hsafer.exploitProbability
    hpolicy.exploitProbabilityWeight
  have hexposed := weight_le_of_imp hpolicy.internetExposedWeight hsafer.internetExposed
  have hreachable := weight_le_of_imp hpolicy.reachableWeight hsafer.reachable
  have hknown := weight_le_of_imp hpolicy.knownExploitedWeight hsafer.knownExploited
  have hactive := weight_le_of_imp hpolicy.activeExploitationWeight hsafer.activeExploitation
  have hruntime := weight_le_of_imp hpolicy.runtimeDependencyWeight hsafer.runtimeDependency
  have hcontrol := mul_le_mul_of_nonneg_right (neg_le_neg hsafer.compensatingControl)
    hpolicy.compensatingControlWeight
  simp only [contributions, List.map_cons, List.map_nil, List.sum_cons, List.sum_nil]
  unfold PriorityPolicy.severityWeight at hseverity
  gcongr

/-- Riskier signals do not score less. -/
theorem priorityScore_mono (hpolicy : policy.NonNegative)
    (hsafer : NoSafer P policy first second) :
    priorityScore P policy first ≤ priorityScore P policy second := by
  have hrounded := roundTwo_mono (contributions_sum_mono hpolicy hsafer)
  unfold priorityScore
  gcongr

/-- The score stays within 0 to 100. -/
theorem priorityScore_bounds (policy : PriorityPolicy) (signals : PrioritySignals) :
    0 ≤ priorityScore P policy signals ∧ priorityScore P policy signals ≤ 100 := by
  unfold priorityScore
  exact ⟨le_max_left _ _, max_le (by norm_num) (min_le_left _ _)⟩

/-- The place of an urgency among the four. -/
def urgencyRank (urgency : String) : ℕ :=
  if urgency = "urgent" then 3
  else if urgency = "high" then 2
  else if urgency = "normal" then 1
  else 0

/-- A higher score is no less urgent, since the thresholds are ordered. -/
theorem urgencyRank_mono (policy : PriorityPolicy) {first second : ℚ} (hle : first ≤ second) :
    urgencyRank (policy.urgencyOf first) ≤ urgencyRank (policy.urgencyOf second) := by
  obtain ⟨hnormal, hhigh, hurgent, hbound⟩ := policy.thresholds_ordered
  unfold PriorityPolicy.urgencyOf
  split_ifs <;> first | decide | exfalso; linarith

/-- An urgency is never empty. -/
theorem urgencyOf_ne_empty (policy : PriorityPolicy) (score : ℚ) :
    policy.urgencyOf score ≠ "" := by
  unfold PriorityPolicy.urgencyOf
  split_ifs <;> decide

/-- The compensating control is always among the reasons. -/
theorem materialFactors_ne_nil (policy : PriorityPolicy) (signals : PrioritySignals) :
    materialFactors P policy signals ≠ [] := by
  let control := (-signals.compensatingControlStrength * policy.compensatingControlWeight,
    "compensating-control strength is " ++ P.formatTwo signals.compensatingControlStrength)
  have hmem : control ∈ contributions P policy signals := by simp [control, contributions]
  have hkept : "compensating-control".toList.isPrefixOf control.2.toList = true := by
    rw [List.isPrefixOf_iff_prefix, String.toList_append]
    exact (show "compensating-control".toList <+:
      "compensating-control strength is ".toList by decide).trans (List.prefix_append _ _)
  have hfactor : control.2 ∈ materialFactors P policy signals :=
    List.mem_map.mpr ⟨control, List.mem_filter.mpr ⟨hmem, (Bool.or_eq_true _ _).mpr (.inr hkept)⟩,
      rfl⟩
  exact List.ne_nil_of_mem hfactor

/-- At most the four observable facts were observed. -/
theorem observableCount_le (signals : PrioritySignals) : observableCount P signals ≤ 4 :=
  List.length_filter_le _ _

/-- The confidence is a share of the observable facts. -/
theorem confidence_bounds (signals : PrioritySignals) :
    0 ≤ roundTwo ((observableCount P signals : ℚ) / 4) ∧
      roundTwo ((observableCount P signals : ℚ) / 4) ≤ 1 := by
  have hcount : (observableCount P signals : ℚ) ≤ 4 := by exact_mod_cast observableCount_le signals
  have hlower : roundTwo ((0 : ℤ) : ℚ) ≤ roundTwo ((observableCount P signals : ℚ) / 4) :=
    roundTwo_mono (by push_cast; positivity)
  have hupper : roundTwo ((observableCount P signals : ℚ) / 4) ≤ roundTwo ((1 : ℤ) : ℚ) :=
    roundTwo_mono (by push_cast; linarith)
  rw [roundTwo_intCast] at hlower hupper
  exact ⟨by simpa using hlower, by simpa using hupper⟩

/-- An assessment under a non-empty id succeeds, with the score of the signals and its
urgency. -/
theorem assessPriority_eq_ok {assessmentId : String} (hid : assessmentId ≠ "")
    (policy : PriorityPolicy) (signals : PrioritySignals) :
    ∃ assessment, assessPriority P assessmentId signals policy = .ok assessment ∧
      assessment.score = priorityScore P policy signals ∧
      assessment.urgency = policy.urgencyOf (priorityScore P policy signals) := by
  have hrequired : assessmentId ≠ "" ∧
      policy.urgencyOf (priorityScore P policy signals) ≠ "" ∧
      materialFactors P policy signals ≠ [] :=
    ⟨hid, urgencyOf_ne_empty _ _, materialFactors_ne_nil _ _⟩
  have hconfidence := confidence_bounds (P := P) signals
  refine ⟨⟨assessmentId, priorityScore P policy signals, _, _, _, signals.evidenceIds,
    priorityScore_bounds policy signals, hconfidence, hrequired⟩, ?_, rfl, rfl⟩
  exact (dif_pos (priorityScore_bounds policy signals)).trans
    ((dif_pos hconfidence).trans (dif_pos hrequired))

/-- Under a policy without negative weights, raising one signal gives two assessments
within 0 to 100, the second with no lower score and no lower urgency. -/
theorem assessPriority_mono (hpolicy : policy.NonNegative)
    (hraised : Raised P policy first second) {firstId secondId : String}
    (hfirst : firstId ≠ "") (hsecond : secondId ≠ "") :
    ∃ before after, assessPriority P firstId first policy = .ok before ∧
      assessPriority P secondId second policy = .ok after ∧
      before.score ≤ after.score ∧
      urgencyRank before.urgency ≤ urgencyRank after.urgency ∧
      (0 ≤ before.score ∧ before.score ≤ 100) ∧ (0 ≤ after.score ∧ after.score ≤ 100) := by
  obtain ⟨before, hbefore, hscore, hurgency⟩ := assessPriority_eq_ok (P := P) hfirst policy first
  obtain ⟨after, hafter, hscore', hurgency'⟩ := assessPriority_eq_ok (P := P) hsecond policy second
  have hmono := priorityScore_mono hpolicy hraised.noSafer
  refine ⟨before, after, hbefore, hafter, ?_, ?_, before.score_bounds, after.score_bounds⟩
  · rw [hscore, hscore']
    exact hmono
  · rw [hurgency, hurgency']
    exact urgencyRank_mono policy hmono

/-- Signals of a medium finding with a control that halves its risk. -/
def mediumSignals : PrioritySignals where
  severity := "Medium"
  assetCriticality := 1 / 4
  exploitProbability := 1 / 2
  internetExposed := false
  reachable := true
  knownExploited := false
  activeExploitation := false
  runtimeDependency := false
  compensatingControlStrength := 1 / 2
  evidenceIds := ["EV-1"]
  assetCriticality_bounds := by norm_num
  exploitProbability_bounds := by norm_num
  compensatingControlStrength_bounds := by norm_num

/-- Exposing the asset of the medium finding to the internet does not lower its priority. -/
theorem assessPriority_mono_mediumSignals :
    ∃ before after,
      assessPriority samplePlatform "RISK-1" mediumSignals defaultPriorityPolicy = .ok before ∧
      assessPriority samplePlatform "RISK-2" { mediumSignals with internetExposed := true }
        defaultPriorityPolicy = .ok after ∧
      before.score ≤ after.score ∧
      urgencyRank before.urgency ≤ urgencyRank after.urgency ∧
      (0 ≤ before.score ∧ before.score ≤ 100) ∧ (0 ≤ after.score ∧ after.score ≤ 100) :=
  assessPriority_mono defaultPriorityPolicy_nonNegative (.internetExposed mediumSignals)
    (by decide) (by decide)

/-- Without an id the assessment is refused. -/
theorem assessPriority_empty_id : defaultPriorityPolicy.NonNegative ∧
    assessPriority samplePlatform "" mediumSignals defaultPriorityPolicy =
      .error (valueError "risk assessment requires an id, urgency, and factors") := by
  refine ⟨defaultPriorityPolicy_nonNegative, ?_⟩
  exact (dif_pos (priorityScore_bounds _ mediumSignals)).trans
    ((dif_pos (confidence_bounds mediumSignals)).trans (dif_neg fun hrequired => hrequired.1 rfl))

end ElCapitan
