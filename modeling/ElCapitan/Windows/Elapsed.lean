import ElCapitan.Windows.Candidates

/-!
# Windows in elapsed time

A policy speaks of elapsed time and of local hours; `candidate_windows` reckons by the wall
clock. The two agree exactly when the offset of the zone does not change between the times
that are compared, up to what the truncation or the wait for the next hour leaves over.
-/

namespace ElCapitan

open WallClock

/-- `utc_text` writes what `parse_timestamp` reads as the same instant. -/
def ReadsBack (P : Platform) : Prop :=
  ∀ (seconds : ℤ) (text : String), P.utcFromTimestamp (seconds : ℚ) = some text →
    parseTimestamp P text = .ok ⟨1000000 * seconds, true⟩

variable {P : Platform} {zones : String → Option Zone} {zone : Zone}
  {isoformat : ℤ → ℤ → String} {samples : List UsageSample} {policy : WindowPolicy}

/-- The texts of a candidate denote these instants. -/
structure Denotes (P : Platform) (window : WindowCandidate) (start stop : ℤ) : Prop where
  starts : parseTimestamp P window.startsAt = .ok ⟨start, true⟩
  ends : parseTimestamp P window.endsAt = .ok ⟨stop, true⟩

/-- A candidate denotes one pair of instants. -/
theorem Denotes.unique {window : WindowCandidate} {start stop start' stop' : ℤ}
    (h : Denotes P window start stop) (h' : Denotes P window start' stop') :
    start = start' ∧ stop = stop' := by
  have hstart := h.starts.symm.trans h'.starts
  have hstop := h.ends.symm.trans h'.ends
  simp only [Except.ok.injEq, DateTime.mk.injEq, and_true] at hstart hstop
  exact ⟨hstart, hstop⟩

/-- The text of a whole second reads back. -/
theorem parse_utcText (hclock : ReadsBack P) {instant : ℤ} {text : String}
    (hwhole : (1000000 : ℤ) ∣ instant) (h : utcText P instant = .ok text) :
    parseTimestamp P text = .ok ⟨instant, true⟩ := by
  unfold utcText at h
  split at h
  · rename_i made hmade
    cases h
    rw [hclock _ _ hmade]
    have hexact : 1000000 * (instant / 1000000) = instant := by omega
    rw [hexact]
  · cases h

/-- A candidate denotes its wall-clock start and end, read without a fold. -/
theorem candidateAt_denotes (hclock : ReadsBack P) {candidateId : String} {rank : ℕ} {start : ℤ}
    {window : WindowCandidate} (hwhole : (1000000 : ℤ) ∣ start)
    (h : candidateAt P zone isoformat policy candidateId rank start samples = .ok window) :
    Denotes P window (zone.toUtc start) (zone.toUtc (endOf policy start)) := by
  obtain ⟨startsAt, hstart, h⟩ := except_bind_eq_ok.mp h
  obtain ⟨endsAt, hend, h⟩ := except_bind_eq_ok.mp h
  cases h
  have hwholeEnd : (1000000 : ℤ) ∣ endOf policy start := by
    unfold endOf
    omega
  constructor
  · exact parse_utcText hclock (Zone.toUtc_whole hwhole) hstart
  · exact parse_utcText hclock (Zone.toUtc_whole hwholeEnd) hend

/-- A window lasts its duration exactly when the offset is the same at both ends. -/
theorem lasts_iff {start : ℤ} :
    zone.toUtc (endOf policy start) = zone.toUtc start + policy.durationMinutes * 60000000 ↔
      zone.wallOffset (endOf policy start) false = zone.wallOffset start false := by
  have helapsed := zone.toUtc_sub start (endOf policy start)
  unfold endOf at helapsed ⊢
  omega

section fixed

/-- A window starts in the future, not after the delay, and lasts its duration. -/
def FixedWindowKept (P : Platform) (policy : WindowPolicy) (delay : ℕ) (now : ℤ)
    (windows : List WindowCandidate) : Prop :=
  ∃ window start stop, windows = [window] ∧ Denotes P window start stop ∧ now < start ∧
    start ≤ now + delay * 60000000 ∧ stop = start + policy.durationMinutes * 60000000

/-- Over the delay the offset grows by less than the delay to the minute and shrinks by no
more than the seconds cut off, and over the window it does not change. -/
structure SteadyDelay (zone : Zone) (policy : WindowPolicy) (delay : ℕ) (now : ℤ) : Prop where
  growth : zone.wallOffset (delayedStart zone now delay) false - zone.offset now <
    delayedStart zone now delay - zone.toLocal now
  shrinkage : zone.offset now - zone.wallOffset (delayedStart zone now delay) false ≤
    zone.toLocal now + delay * 60000000 - delayedStart zone now delay
  lasting : zone.wallOffset (endOf policy (delayedStart zone now delay)) false =
    zone.wallOffset (delayedStart zone now delay) false

/-- The window after a fixed delay is in the future, within the delay and as long as the
policy says exactly when the offset of the zone is steady. -/
theorem fixed_window_kept_iff (hclock : ReadsBack P) (hzone : zones policy.timezone = some zone)
    {delay : ℕ} (hdelay : policy.fixedStartDelayMinutes = some delay) {now : String}
    {time : DateTime} (hnow : parseTimestamp P now = .ok time) {windows : List WindowCandidate}
    (hcall : candidateWindows P zones isoformat samples policy now = .ok windows) :
    FixedWindowKept P policy delay time.instant windows ↔
      SteadyDelay zone policy delay time.instant := by
  unfold candidateWindows at hcall
  obtain ⟨_, _, hcall⟩ := except_bind_eq_ok.mp hcall
  rw [hzone] at hcall
  simp only [hdelay] at hcall
  obtain ⟨time', htime, hcall⟩ := except_bind_eq_ok.mp hcall
  obtain rfl : time = time' := Except.ok.inj (hnow.symm.trans htime)
  obtain ⟨window, hwindow, hcall⟩ := except_bind_eq_ok.mp hcall
  cases hcall
  have hwhole : (1000000 : ℤ) ∣ delayedStart zone time.instant delay := by
    unfold delayedStart toMinute
    omega
  have hdenotes := candidateAt_denotes hclock hwhole hwindow
  have hstart : zone.toUtc (delayedStart zone time.instant delay) = time.instant +
      (delayedStart zone time.instant delay - zone.toLocal time.instant) -
      (zone.wallOffset (delayedStart zone time.instant delay) false -
        zone.offset time.instant) := by
    unfold Zone.toUtc Zone.toLocal
    omega
  constructor
  · rintro ⟨window', start, stop, heq, hdenotes', hfuture, hsoon, hlasts⟩
    obtain rfl : window = window' := by simpa using heq
    obtain ⟨rfl, rfl⟩ := hdenotes.unique hdenotes'
    constructor
    · omega
    · omega
    · exact lasts_iff.mp hlasts
  · intro hsteady
    have hgrowth := hsteady.growth
    have hshrinkage := hsteady.shrinkage
    refine ⟨window, _, _, rfl, hdenotes, ?_, ?_, lasts_iff.mpr hsteady.lasting⟩
    · omega
    · omega

end fixed

section profiles

/-- The window gives the notice of the policy, lasts its duration and starts at an allowed
local weekday and hour. -/
def WindowKeepsPolicy (P : Platform) (zone : Zone) (policy : WindowPolicy) (now : ℤ)
    (window : WindowCandidate) : Prop :=
  ∃ start stop, Denotes P window start stop ∧ now + policy.noticeHours * 3600000000 ≤ start ∧
    stop = start + policy.durationMinutes * 60000000 ∧
    weekdayOf (zone.toLocal start) ∈ policy.allowedWeekdays ∧
    hourOf (zone.toLocal start) ∈ policy.allowedStartHours

/-- Until the next local hour of a profile the offset grows by no more than the wait from the
earliest start; over the window it does not change; and that hour is not skipped, or the
local time it is moved to is allowed too. -/
structure SteadyProfile (zone : Zone) (policy : WindowPolicy) (now start : ℤ) : Prop where
  growth : zone.wallOffset start false - zone.offset now ≤ start - earliestStart zone now policy
  lasting : zone.wallOffset (endOf policy start) false = zone.wallOffset start false
  allowed : zone.Shows start ∨
    (weekdayOf (zone.toLocal (zone.toUtc start)) ∈ policy.allowedWeekdays ∧
      hourOf (zone.toLocal (zone.toUtc start)) ∈ policy.allowedStartHours)

/-- The profiles on offer are allowed. -/
theorem rankedProfiles_allowed {ranked : List Profile}
    (h : rankedProfiles P zone policy samples = .ok ranked) :
    ∀ profile ∈ ranked, profile.1.1 ∈ policy.allowedWeekdays ∧
      profile.1.2 ∈ policy.allowedStartHours := by
  unfold rankedProfiles at h
  obtain ⟨keyed, _, h⟩ := except_bind_eq_ok.mp h
  obtain ⟨_, _, h⟩ := except_bind_eq_ok.mp h
  cases h
  intro profile hprofile
  rw [List.mem_insertionSort] at hprofile
  have hprofile := List.mem_of_mem_filter hprofile
  obtain ⟨key, hkey, rfl⟩ := List.mem_map.mp hprofile
  obtain ⟨entry, hentry, rfl⟩ := List.mem_map.mp (List.mem_eraseDups.mp hkey)
  have hallowed := (List.mem_filter.mp hentry).2
  simpa using hallowed

/-- The keys of profiles are a weekday and an hour. -/
theorem rankedProfiles_bounds {ranked : List Profile}
    (h : rankedProfiles P zone policy samples = .ok ranked) :
    ∀ profile ∈ ranked, profile.1.1 < 7 ∧ profile.1.2 < 24 := by
  unfold rankedProfiles at h
  obtain ⟨keyed, hkeyed, h⟩ := except_bind_eq_ok.mp h
  obtain ⟨_, _, h⟩ := except_bind_eq_ok.mp h
  cases h
  intro profile hprofile
  rw [List.mem_insertionSort] at hprofile
  have hprofile := List.mem_of_mem_filter hprofile
  obtain ⟨key, hkey, rfl⟩ := List.mem_map.mp hprofile
  obtain ⟨entry, hentry, rfl⟩ := List.mem_map.mp (List.mem_eraseDups.mp hkey)
  have hmem := List.mem_of_mem_filter hentry
  obtain ⟨sample, _, hsample⟩ := exists_of_mem_mapM hkeyed hmem
  obtain ⟨time, _, hsample⟩ := except_bind_eq_ok.mp hsample
  cases hsample
  exact ⟨weekdayOf_lt _, hourOf_lt _⟩

/-- One candidate keeps the policy exactly when the offset is steady for its profile. -/
theorem candidateAt_keeps_policy_iff (hclock : ReadsBack P) {candidateId : String} {rank : ℕ}
    {now : ℤ} {weekday hour : ℕ} {window : WindowCandidate}
    (hweekday : weekday ∈ policy.allowedWeekdays) (hhour : hour ∈ policy.allowedStartHours)
    (hweekdayLt : weekday < 7) (hhourLt : hour < 24)
    (h : candidateAt P zone isoformat policy candidateId rank
      (nextHour (earliestStart zone now policy) weekday hour) samples = .ok window) :
    WindowKeepsPolicy P zone policy now window ↔
      SteadyProfile zone policy now (nextHour (earliestStart zone now policy) weekday hour) := by
  have hdenotes := candidateAt_denotes hclock nextHour_whole h
  have hlater : earliestStart zone now policy ≤
      nextHour (earliestStart zone now policy) weekday hour := le_nextHour
  have hweekdayOf : weekdayOf (nextHour (earliestStart zone now policy) weekday hour) = weekday :=
    weekdayOf_nextHour hweekdayLt hhourLt
  have hhourOf : hourOf (nextHour (earliestStart zone now policy) weekday hour) = hour :=
    hourOf_nextHour hhourLt
  generalize nextHour (earliestStart zone now policy) weekday hour = start at *
  have hnotice : now + policy.noticeHours * 3600000000 ≤ zone.toUtc start ↔
      zone.wallOffset start false - zone.offset now ≤ start - earliestStart zone now policy := by
    unfold earliestStart Zone.toUtc Zone.toLocal
    omega
  constructor
  · rintro ⟨begun, stop, hdenotes', hgiven, hlasts, hallowed⟩
    obtain ⟨rfl, rfl⟩ := hdenotes.unique hdenotes'
    exact ⟨hnotice.mp hgiven, lasts_iff.mp hlasts, .inr hallowed⟩
  · intro hsteady
    refine ⟨_, _, hdenotes, hnotice.mpr hsteady.growth, lasts_iff.mpr hsteady.lasting, ?_⟩
    rcases hsteady.allowed with hshown | hallowed
    · rw [hshown.toLocal_toUtc, hweekdayOf, hhourOf]
      exact ⟨hweekday, hhour⟩
    · exact hallowed

/-- The candidates of profiles, one by one. -/
theorem candidatesFrom_keep_policy_iff (hclock : ReadsBack P) {now : ℤ} {rank : ℕ}
    {profiles : List Profile} {windows : List WindowCandidate}
    (hallowed : ∀ profile ∈ profiles, profile.1.1 ∈ policy.allowedWeekdays ∧
      profile.1.2 ∈ policy.allowedStartHours)
    (hbounds : ∀ profile ∈ profiles, profile.1.1 < 7 ∧ profile.1.2 < 24)
    (h : candidatesFrom P zone isoformat policy (earliestStart zone now policy) rank profiles =
      .ok windows) :
    (∀ window ∈ windows, WindowKeepsPolicy P zone policy now window) ↔
      ∀ profile ∈ profiles, SteadyProfile zone policy now
        (nextHour (earliestStart zone now policy) profile.1.1 profile.1.2) := by
  induction profiles generalizing rank windows with
  | nil =>
    cases h
    simp
  | cons profile rest ih =>
    obtain ⟨⟨weekday, hour⟩, values⟩ := profile
    obtain ⟨window, hwindow, h⟩ := except_bind_eq_ok.mp h
    obtain ⟨windows', hrest, h⟩ := except_bind_eq_ok.mp h
    cases h
    obtain ⟨hweekday, hhour⟩ := hallowed _ List.mem_cons_self
    obtain ⟨hweekdayLt, hhourLt⟩ := hbounds _ List.mem_cons_self
    have hfirst := candidateAt_keeps_policy_iff hclock hweekday hhour hweekdayLt hhourLt hwindow
    have hothers := ih (fun profile hmem => hallowed profile (List.mem_cons_of_mem _ hmem))
      (fun profile hmem => hbounds profile (List.mem_cons_of_mem _ hmem)) hrest
    rw [List.forall_mem_cons, List.forall_mem_cons, hfirst, hothers]

/-- The candidates keep the policy exactly when the offset of the zone is steady for each of
the offered profiles. -/
theorem candidate_windows_keep_policy_iff (hclock : ReadsBack P)
    (hzone : zones policy.timezone = some zone) (hmode : policy.fixedStartDelayMinutes = none)
    {now : String} {time : DateTime} (hnow : parseTimestamp P now = .ok time)
    {windows : List WindowCandidate}
    (hcall : candidateWindows P zones isoformat samples policy now = .ok windows) :
    (∀ window ∈ windows, WindowKeepsPolicy P zone policy time.instant window) ↔
      ∀ ranked, rankedProfiles P zone policy samples = .ok ranked →
        ∀ profile ∈ ranked.take policy.candidateCount, SteadyProfile zone policy time.instant
          (nextHour (earliestStart zone time.instant policy) profile.1.1 profile.1.2) := by
  unfold candidateWindows at hcall
  obtain ⟨_, _, hcall⟩ := except_bind_eq_ok.mp hcall
  rw [hzone] at hcall
  simp only [hmode] at hcall
  obtain ⟨ranked, hranked, hcall⟩ := except_bind_eq_ok.mp hcall
  obtain ⟨time', htime, hcall⟩ := except_bind_eq_ok.mp hcall
  obtain rfl : time = time' := Except.ok.inj (hnow.symm.trans htime)
  have hallowed := rankedProfiles_allowed hranked
  have hbounds := rankedProfiles_bounds hranked
  have hiff := candidatesFrom_keep_policy_iff hclock
    (fun profile hmem => hallowed profile (List.mem_of_mem_take hmem))
    (fun profile hmem => hbounds profile (List.mem_of_mem_take hmem)) hcall
  rw [hiff]
  constructor
  · intro hsteady ranked' hranked'
    obtain rfl : ranked = ranked' := Except.ok.inj (hranked.symm.trans hranked')
    exact hsteady
  · intro hsteady
    exact hsteady ranked hranked

end profiles

section samples

/-- A zone whose clock goes back from 03:00 to 02:00 at 2026-10-25T01:00:00Z, from two hours
ahead to one. -/
def autumnZone : Zone where
  offset t := if t < 1792890000000000 then 7200000000 else 3600000000
  wallOffset wall fold :=
    if wall < (if fold then 1792893600000000 else 1792897200000000) then 7200000000
    else 3600000000
  whole wall fold := by split <;> omega
  shown t fold := by
    cases fold <;> by_cases ht : t < 1792890000000000 <;> simp only [ht, if_true, if_false] <;>
      split <;> split <;> simp_all <;> omega
  first t := by
    by_cases ht : t < 1792890000000000
    · simp only [ht, if_true, Bool.false_eq_true, if_false]
      split <;> omega
    · simp only [ht, if_false, Bool.false_eq_true]
      split <;> omega
  last t := by
    by_cases ht : t < 1792890000000000
    · simp only [ht, if_true]
      split <;> omega
    · simp only [ht, if_false, if_true]
      split <;> omega
  skipped wall h := by
    exfalso
    by_cases hwall : wall < 1792897200000000
    · refine h (wall - 7200000000) ?_
      rw [if_pos (by omega)]
      omega
    · refine h (wall - 3600000000) ?_
      rw [if_neg (by omega)]
      omega

/-- Instants in October 2026 with their texts, without the offset. -/
def autumnInstants : List (String × ℤ) :=
  [("2026-10-17T00:10:00", 1792195800), ("2026-10-18T00:10:00", 1792282200),
    ("2026-10-23T12:00:00", 1792756800), ("2026-10-24T12:00:30", 1792843230),
    ("2026-10-24T12:15:00", 1792844100), ("2026-10-24T13:15:00", 1792847700),
    ("2026-10-25T00:00:00", 1792886400), ("2026-10-25T00:45:00", 1792889100),
    ("2026-10-25T01:30:00", 1792891800), ("2026-10-25T02:00:00", 1792893600),
    ("2026-10-25T02:45:00", 1792896300), ("2026-10-31T01:00:00", 1793408400),
    ("2026-10-31T02:00:00", 1793412000)]

/-- The sample platform, with the calendar of these instants. -/
def autumnPlatform : Platform :=
  { samplePlatform with
    fromIsoFormat := fun value =>
      (autumnInstants.find? fun entry => entry.1 ++ "+00:00" = value).map
      fun entry => ⟨1000000 * entry.2, true⟩
    utcFromTimestamp := fun seconds =>
      (autumnInstants.find? fun entry => (entry.2 : ℚ) = seconds).map fun entry => entry.1 ++ "Z" }

/-- The sample's platform reads back the times it writes. -/
theorem autumnPlatform_readsBack : ReadsBack autumnPlatform := by
  have hentries : ∀ entry ∈ autumnInstants, parseTimestamp autumnPlatform (entry.1 ++ "Z") =
      .ok ⟨1000000 * entry.2, true⟩ := by
    decide +kernel
  intro seconds text h
  obtain ⟨entry, hentry, rfl⟩ := Option.map_eq_some_iff.mp h
  have hseconds : entry.2 = seconds := by
    have hcast := List.find?_some hentry
    exact_mod_cast of_decide_eq_true hcast
  rw [hentries entry (List.mem_of_find?_eq_some hentry), hseconds]

/-- The time zone database. -/
def autumnZones (name : String) : Option Zone :=
  if name = "Europe/Berlin" then some autumnZone else none

/-- A policy in the zone, with or without a fixed delay; one sample makes a profile. -/
def berlinPolicy (fixedStartDelayMinutes : Option ℕ) : WindowPolicy where
  timezone := "Europe/Berlin"
  durationMinutes := 60
  noticeHours := 24
  allowedWeekdays := List.range 7
  allowedStartHours := List.range 24
  candidateCount := 3
  minimumProfileSamples := 1
  fixedStartDelayMinutes := fixedStartDelayMinutes

/-- The candidates for a sample at this time. -/
def berlinWindows (timestamp : String) (delay : Option ℕ) (now : String) :
    Except PyError (List WindowCandidate) :=
  candidateWindows autumnPlatform autumnZones (fun _ _ => "") [⟨timestamp, 5, 0, 40⟩]
    (berlinPolicy delay) now

/-- The bounds of the candidates. -/
def boundsOf (windows : List WindowCandidate) : List (String × String) :=
  windows.map fun window => (window.startsAt, window.endsAt)

/-- Away from a change of the clock the window is as the policy says. -/
theorem fixed_window_kept_sample : ∃ windows,
    berlinWindows "2026-10-17T00:10:00Z" (some 15) "2026-10-24T12:00:30Z" = .ok windows ∧
      FixedWindowKept autumnPlatform (berlinPolicy (some 15)) 15 1792843230000000 windows := by
  have hany : (berlinWindows "2026-10-17T00:10:00Z" (some 15) "2026-10-24T12:00:30Z").toOption.any
      (fun _ => true) = true := by
    decide +kernel
  have hnow : parseTimestamp autumnPlatform "2026-10-24T12:00:30Z" =
      .ok ⟨1792843230000000, true⟩ := by
    decide +kernel
  obtain ⟨windows, hcall, -⟩ := exists_of_any hany
  refine ⟨windows, hcall, ?_⟩
  have hzone : autumnZones (berlinPolicy (some 15)).timezone = some autumnZone := rfl
  refine (fixed_window_kept_iff autumnPlatform_readsBack hzone rfl hnow hcall).mpr ⟨?_, ?_, ?_⟩
  · decide +kernel
  · decide +kernel
  · decide +kernel

/-- In the repeated hour the window begins before the call. -/
theorem fixed_window_in_past : ∃ windows,
    berlinWindows "2026-10-17T00:10:00Z" (some 15) "2026-10-25T01:30:00Z" = .ok windows ∧
      ¬FixedWindowKept autumnPlatform (berlinPolicy (some 15)) 15 1792891800000000 windows := by
  have hany : (berlinWindows "2026-10-17T00:10:00Z" (some 15) "2026-10-25T01:30:00Z").toOption.any
      (fun windows => boundsOf windows = [("2026-10-25T00:45:00Z", "2026-10-25T02:45:00Z")]) =
        true := by
    decide +kernel
  obtain ⟨windows, hcall, hbounds⟩ := exists_of_any hany
  refine ⟨windows, hcall, ?_⟩
  rintro ⟨window, start, stop, rfl, hdenotes, hfuture, -, -⟩
  have hstarts : window.startsAt = "2026-10-25T00:45:00Z" := by
    simp [boundsOf] at hbounds
    exact hbounds.1
  have hparse : parseTimestamp autumnPlatform "2026-10-25T00:45:00Z" =
      .ok ⟨1792889100000000, true⟩ := by
    decide +kernel
  have hsame := hdenotes.starts
  rw [hstarts, hparse] at hsame
  simp only [Except.ok.injEq, DateTime.mk.injEq, and_true] at hsame
  omega

/-- A window in the week after the change of the clock keeps the policy. -/
theorem candidate_windows_keep_policy_sample : ∃ windows,
    berlinWindows "2026-10-17T00:10:00Z" none "2026-10-23T12:00:00Z" = .ok windows ∧
      windows ≠ [] ∧ ∀ window ∈ windows, WindowKeepsPolicy autumnPlatform autumnZone
        (berlinPolicy none) 1792756800000000 window := by
  have hany : (berlinWindows "2026-10-17T00:10:00Z" none "2026-10-23T12:00:00Z").toOption.any
      (fun windows => boundsOf windows = [("2026-10-31T01:00:00Z", "2026-10-31T02:00:00Z")]) =
        true := by
    decide +kernel
  have hnow : parseTimestamp autumnPlatform "2026-10-23T12:00:00Z" =
      .ok ⟨1792756800000000, true⟩ := by
    decide +kernel
  have hranked : (rankedProfiles autumnPlatform autumnZone (berlinPolicy none)
      [⟨"2026-10-17T00:10:00Z", 5, 0, 40⟩]).toOption.any
        (fun ranked => ranked.map Prod.fst = [(5, 2)]) = true := by
    decide +kernel
  obtain ⟨windows, hcall, hbounds⟩ := exists_of_any hany
  obtain ⟨ranked, hranked, hkeys⟩ := exists_of_any hranked
  refine ⟨windows, hcall, ?_, ?_⟩
  · rintro rfl
    simp [boundsOf] at hbounds
  have hzone : autumnZones (berlinPolicy none).timezone = some autumnZone := rfl
  refine (candidate_windows_keep_policy_iff autumnPlatform_readsBack hzone rfl hnow hcall).mpr ?_
  intro ranked' hranked' profile hprofile
  obtain rfl : ranked = ranked' := Except.ok.inj (hranked.symm.trans hranked')
  have hkey : profile.1 = (5, 2) := by
    have hmem := List.mem_map_of_mem (f := Prod.fst) (List.mem_of_mem_take hprofile)
    rw [of_decide_eq_true hkeys] at hmem
    exact List.mem_singleton.mp hmem
  rw [hkey]
  have hshown : autumnZone.toLocal (autumnZone.toUtc (nextHour (earliestStart autumnZone
      1792756800000000 (berlinPolicy none)) 5 2)) = nextHour (earliestStart autumnZone
        1792756800000000 (berlinPolicy none)) 5 2 := by
    decide +kernel
  refine ⟨?_, ?_, .inl ⟨_, hshown⟩⟩
  · decide +kernel
  · decide +kernel

/-- A window over the change of the clock lasts an hour longer than the policy says. -/
theorem candidate_window_too_long : ∃ windows,
    berlinWindows "2026-10-18T00:10:00Z" none "2026-10-23T12:00:00Z" = .ok windows ∧
      ¬∀ window ∈ windows, WindowKeepsPolicy autumnPlatform autumnZone (berlinPolicy none)
        1792756800000000 window := by
  have hany : (berlinWindows "2026-10-18T00:10:00Z" none "2026-10-23T12:00:00Z").toOption.any
      (fun windows => boundsOf windows = [("2026-10-25T00:00:00Z", "2026-10-25T02:00:00Z")]) =
        true := by
    decide +kernel
  obtain ⟨windows, hcall, hbounds⟩ := exists_of_any hany
  refine ⟨windows, hcall, ?_⟩
  intro hkept
  match windows, of_decide_eq_true hbounds with
  | [window], hwindow =>
    simp only [boundsOf, List.map_cons, List.map_nil, List.cons.injEq, Prod.mk.injEq,
      and_true] at hwindow
    obtain ⟨start, stop, hdenotes, -, hlasts, -⟩ := hkept window List.mem_cons_self
    have hfirst : parseTimestamp autumnPlatform "2026-10-25T00:00:00Z" =
        .ok ⟨1792886400000000, true⟩ := by
      decide +kernel
    have hlast : parseTimestamp autumnPlatform "2026-10-25T02:00:00Z" =
        .ok ⟨1792893600000000, true⟩ := by
      decide +kernel
    have hstarts := hdenotes.starts
    have hends := hdenotes.ends
    rw [hwindow.1, hfirst] at hstarts
    rw [hwindow.2, hlast] at hends
    simp only [Except.ok.injEq, DateTime.mk.injEq, and_true] at hstarts hends
    have hduration : (berlinPolicy none).durationMinutes = 60 := rfl
    rw [hduration] at hlasts
    omega

end samples

end ElCapitan
