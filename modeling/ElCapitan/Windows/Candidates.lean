import ElCapitan.Findings.Priority
import ElCapitan.Services.Operations
import ElCapitan.Windows.WallClock

/-!
# Change-window candidates

`candidate_windows` of the observability module: from usage samples, a window policy and the
time of the call it makes either one window after a fixed delay, or a window at the next
local hour of each allowed profile with the least usage. It adds and compares local times
by the wall clock, and it drops their fold.
-/

namespace ElCapitan

open WallClock

/-- The constructor of `WindowPolicy`, over a time zone database. -/
def WindowPolicy.create (zones : String → Option Zone) (timezone : String)
    (durationMinutes noticeHours : ℤ) (allowedWeekdays allowedStartHours : List ℤ)
    (candidateCount minimumProfileSamples : ℤ) (fixedStartDelayMinutes : Option ℤ) :
    Except PyError WindowPolicy := do
  let refuse := fun message => (⟨.usageAnalysisError, message⟩ : PyError)
  raiseIf ((zones timezone).isNone) (refuse ("unknown timezone: " ++ timezone))
  raiseIf (durationMinutes ≤ 0 ∨ noticeHours < 0)
    (refuse "window duration must be positive and notice non-negative")
  raiseIf (¬(1 ≤ candidateCount ∧ candidateCount ≤ 10))
    (refuse "candidate_count must be between 1 and 10")
  raiseIf (minimumProfileSamples < 1) (refuse "minimum_profile_samples must be positive")
  raiseIf (fixedStartDelayMinutes.any fun delay => ¬(1 ≤ delay ∧ delay ≤ 1440))
    (refuse "fixed_start_delay_minutes must be an integer from 1 through 1440")
  raiseIf (allowedWeekdays = [] ∨ allowedWeekdays.any fun day => ¬(0 ≤ day ∧ day < 7))
    (refuse "allowed_weekdays must contain values from 0 through 6")
  raiseIf (allowedStartHours = [] ∨ allowedStartHours.any fun hour => ¬(0 ≤ hour ∧ hour < 24))
    (refuse "allowed_start_hours must contain values from 0 through 23")
  return {
    timezone
    durationMinutes := durationMinutes.toNat
    noticeHours := noticeHours.toNat
    allowedWeekdays := allowedWeekdays.eraseDups.map Int.toNat
    allowedStartHours := allowedStartHours.eraseDups.map Int.toNat
    candidateCount := candidateCount.toNat
    minimumProfileSamples := minimumProfileSamples.toNat
    fixedStartDelayMinutes := fixedStartDelayMinutes.map Int.toNat }

/-- What the checks of `WindowPolicy` promise. -/
structure WindowPolicy.Checked (policy : WindowPolicy) : Prop where
  duration : 0 < policy.durationMinutes
  candidates : 1 ≤ policy.candidateCount ∧ policy.candidateCount ≤ 10
  samples : 1 ≤ policy.minimumProfileSamples
  delay : ∀ delay, policy.fixedStartDelayMinutes = some delay → 1 ≤ delay ∧ delay ≤ 1440
  weekdays : ∀ day ∈ policy.allowedWeekdays, day < 7
  hours : ∀ hour ∈ policy.allowedStartHours, hour < 24

/-- A constructed policy is checked. -/
theorem WindowPolicy.create_checked {zones : String → Option Zone} {timezone : String}
    {durationMinutes noticeHours candidateCount minimumProfileSamples : ℤ}
    {allowedWeekdays allowedStartHours : List ℤ} {fixedStartDelayMinutes : Option ℤ}
    {policy : WindowPolicy} (h : WindowPolicy.create zones timezone durationMinutes noticeHours
      allowedWeekdays allowedStartHours candidateCount minimumProfileSamples
      fixedStartDelayMinutes = .ok policy) : policy.Checked := by
  unfold WindowPolicy.create at h
  obtain ⟨_, _, h⟩ := except_bind_eq_ok.mp h
  obtain ⟨_, hduration, h⟩ := except_bind_eq_ok.mp h
  obtain ⟨_, hcandidates, h⟩ := except_bind_eq_ok.mp h
  obtain ⟨_, hsamples, h⟩ := except_bind_eq_ok.mp h
  obtain ⟨_, hdelay, h⟩ := except_bind_eq_ok.mp h
  obtain ⟨_, hweekdays, h⟩ := except_bind_eq_ok.mp h
  obtain ⟨_, hhours, h⟩ := except_bind_eq_ok.mp h
  rw [raiseIf_eq_ok] at hduration hcandidates hsamples hdelay hweekdays hhours
  cases h
  constructor
  · dsimp only
    omega
  · dsimp only
    omega
  · dsimp only
    omega
  · intro delay heq
    obtain ⟨minutes, hminutes, rfl⟩ := Option.map_eq_some_iff.mp heq
    simp only [hminutes, Option.any_some, decide_eq_true_eq, not_not] at hdelay
    omega
  · intro day hday
    obtain ⟨n, hn, rfl⟩ := List.mem_map.mp hday
    simp only [not_or, List.any_eq_true, decide_eq_true_eq, not_exists, not_and] at hweekdays
    have hrange := hweekdays.2 n (List.mem_eraseDups.mp hn)
    omega
  · intro hour hhour
    obtain ⟨n, hn, rfl⟩ := List.mem_map.mp hhour
    simp only [not_or, List.any_eq_true, decide_eq_true_eq, not_exists, not_and] at hhours
    have hrange := hhours.2 n (List.mem_eraseDups.mp hn)
    omega

/-- A profile: the weekday and the hour of its samples, by the wall clock. -/
abbrev Profile := (ℕ × ℕ) × List UsageSample

/-- `mean`. -/
def meanOf (values : List ℚ) : ℚ := values.sum / values.length

/-- The order in which profiles are offered. -/
def profileBefore (a b : Profile) : Prop :=
  let key := fun p : Profile => [meanOf (p.2.map UsageSample.requests),
    meanOf (p.2.map UsageSample.errors), meanOf (p.2.map UsageSample.p95LatencyMs),
    (p.1.1 : ℚ), (p.1.2 : ℚ)]
  key a ≤ key b

instance : DecidableRel profileBefore := fun _ _ => inferInstanceAs (Decidable (_ ≤ _))

section calls

variable (P : Platform) (zone : Zone)

/-- `utc_text` of an instant. -/
def utcText (instant : ℤ) : Except PyError String :=
  match P.utcFromTimestamp ((instant / 1000000 : ℤ) : ℚ) with
  | some text => .ok text
  | none => .error ⟨.overflowError, "date value out of range"⟩

/-- The local weekday and hour of a sample. -/
def profileKey (sample : UsageSample) : Except PyError ((ℕ × ℕ) × UsageSample) := do
  let time ← parseTimestamp P sample.timestamp
  let wall := zone.toLocal time.instant
  return ((weekdayOf wall, hourOf wall), sample)

/-- The allowed profiles with enough samples, in the order of their usage. -/
def rankedProfiles (policy : WindowPolicy) (samples : List UsageSample) :
    Except PyError (List Profile) := do
  let keyed ← samples.mapM (profileKey P zone)
  let allowed := keyed.filter fun entry =>
    entry.1.1 ∈ policy.allowedWeekdays && entry.1.2 ∈ policy.allowedStartHours
  let profiles := (allowed.map Prod.fst).eraseDups.map fun key =>
    (key, (allowed.filter fun entry => entry.1 = key).map Prod.snd)
  let eligible := profiles.filter fun profile => policy.minimumProfileSamples ≤ profile.2.length
  raiseIf (eligible = [])
    ⟨.usageAnalysisError, "telemetry has no samples in an allowed change-window profile"⟩
  return eligible.insertionSort profileBefore

/-- The wall-clock time after a fixed delay, to the minute. -/
def delayedStart (now : ℤ) (delay : ℕ) : ℤ := toMinute (zone.toLocal now + delay * 60000000)

/-- The wall-clock time from which windows may start. -/
def earliestStart (now : ℤ) (policy : WindowPolicy) : ℤ :=
  zone.toLocal now + policy.noticeHours * 3600000000

/-- The wall-clock time at which a window ends. -/
def endOf (policy : WindowPolicy) (start : ℤ) : ℤ := start + policy.durationMinutes * 60000000

variable (isoformat : (wall offset : ℤ) → String)

/-- The candidate that starts at a wall-clock time, without a fold; `isoformat` is the text of
a local time. -/
def candidateAt (policy : WindowPolicy) (candidateId : String) (rank : ℕ) (start : ℤ)
    (samples : List UsageSample) : Except PyError WindowCandidate := do
  let startsAt ← utcText P (zone.toUtc start)
  let endsAt ← utcText P (zone.toUtc (endOf policy start))
  return {
    candidateId
    startsAt
    endsAt
    timezone := policy.timezone
    localStart := isoformat start (zone.wallOffset start false)
    historicalSamples := samples.length
    averageRequests := roundThree (meanOf (samples.map UsageSample.requests))
    averageErrors := roundThree (meanOf (samples.map UsageSample.errors))
    averageP95LatencyMs := roundThree (meanOf (samples.map UsageSample.p95LatencyMs))
    rank }

/-- `f"{n:03d}"`. -/
def threeDigits (n : ℕ) : String :=
  let digits := Nat.toDigits 10 n
  String.ofList (List.replicate (3 - digits.length) '0' ++ digits)

/-- The candidates of the ranked profiles, from this rank on. -/
def candidatesFrom (policy : WindowPolicy) (earliest : ℤ) (rank : ℕ) :
    List Profile → Except PyError (List WindowCandidate)
  | [] => .ok []
  | ((weekday, hour), samples) :: rest => do
    let candidate ← candidateAt P zone isoformat policy ("CAND-" ++ threeDigits rank) rank
      (nextHour earliest weekday hour) samples
    let candidates ← candidatesFrom policy earliest (rank + 1) rest
    return candidate :: candidates

end calls

/-- `candidate_windows`. -/
def candidateWindows (P : Platform) (zones : String → Option Zone)
    (isoformat : (wall offset : ℤ) → String) (samples : List UsageSample) (policy : WindowPolicy)
    (now : String) : Except PyError (List WindowCandidate) := do
  raiseIf (samples = []) ⟨.usageAnalysisError, "at least one usage sample is required"⟩
  match zones policy.timezone with
  | none => .error ⟨.keyError, "No time zone found with key " ++ policy.timezone⟩
  | some zone =>
    match policy.fixedStartDelayMinutes with
    | some delay => do
      let time ← parseTimestamp P now
      let candidate ← candidateAt P zone isoformat policy "CAND-FIXED-001" 1
        (delayedStart zone time.instant delay) samples
      return [candidate]
    | none => do
      let ranked ← rankedProfiles P zone policy samples
      let time ← parseTimestamp P now
      candidatesFrom P zone isoformat policy (earliestStart zone time.instant policy) 1
        (ranked.take policy.candidateCount)

end ElCapitan
