import Mathlib.Data.Int.Basic
import Mathlib.Tactic.Ring

/-!
# Wall clocks

Instants and wall-clock times are counted in microseconds, from one epoch. A time zone
gives each instant an offset; the wall-clock time it shows there may show at another
instant too, or none may show it, and the fold chooses which offset such a time is read with.
-/

namespace WallClock

/-- A time zone, as an offset function whose wall-clock times are read back with a fold. -/
structure Zone where
  /-- The offset at an instant. -/
  offset : ℤ → ℤ
  /-- The offset a wall-clock time is read with. -/
  wallOffset : (wall : ℤ) → (fold : Bool) → ℤ
  /-- Offsets are whole seconds. -/
  whole : ∀ wall fold, (1000000 : ℤ) ∣ wallOffset wall fold
  /-- A time that is shown is read as an instant that shows it. -/
  shown : ∀ t fold, offset (t + offset t - wallOffset (t + offset t) fold) =
    wallOffset (t + offset t) fold
  /-- Without a fold it is the first such instant, and with one it is the last. -/
  first : ∀ t, offset t ≤ wallOffset (t + offset t) false
  last : ∀ t, wallOffset (t + offset t) true ≤ offset t
  /-- A skipped time is read with the offset before the gap, and with a fold with the one after. -/
  skipped : ∀ wall, (∀ t, t + offset t ≠ wall) → wallOffset wall false < wallOffset wall true

namespace Zone

variable (z : Zone)

/-- The wall-clock time an instant shows. -/
def toLocal (t : ℤ) : ℤ := t + z.offset t

/-- The instant a wall-clock time is read as, without a fold. -/
def toUtc (wall : ℤ) : ℤ := wall - z.wallOffset wall false

/-- Some instant shows the wall-clock time. -/
def Shows (wall : ℤ) : Prop := ∃ t, z.toLocal t = wall

variable {z} {wall : ℤ}

/-- A time that is shown is shown by the instant it is read as. -/
theorem Shows.toLocal_toUtc (h : z.Shows wall) : z.toLocal (z.toUtc wall) = wall := by
  obtain ⟨t, rfl⟩ := h
  have hshown := z.shown t false
  unfold Zone.toLocal Zone.toUtc
  rw [hshown]
  omega

/-- A skipped time is read as an instant that shows another one. -/
theorem toLocal_toUtc_iff : z.toLocal (z.toUtc wall) = wall ↔ z.Shows wall := by
  constructor
  · intro h
    exact ⟨z.toUtc wall, h⟩
  · exact Shows.toLocal_toUtc

/-- Elapsed time is wall-clock time less the change of the offset. -/
theorem toUtc_sub (wall later : ℤ) :
    z.toUtc later - z.toUtc wall =
      later - wall - (z.wallOffset later false - z.wallOffset wall false) := by
  unfold Zone.toUtc
  ring

/-- A whole second of the wall clock is one of the instants. -/
theorem toUtc_whole (h : (1000000 : ℤ) ∣ wall) : (1000000 : ℤ) ∣ z.toUtc wall :=
  Int.dvd_sub h (z.whole wall false)

end Zone

/-- `datetime.hour`. -/
def hourOf (wall : ℤ) : ℕ := (wall % 86400000000 / 3600000000).toNat

/-- `datetime.weekday()`: the epoch was a Thursday. -/
def weekdayOf (wall : ℤ) : ℕ := ((wall / 86400000000 + 3) % 7).toNat

/-- `wall.replace(second=0, microsecond=0)`. -/
def toMinute (wall : ℤ) : ℤ := wall - wall % 60000000

/-- `wall.replace(hour=hour, minute=0, second=0, microsecond=0)`. -/
def atHour (wall : ℤ) (hour : ℕ) : ℤ := wall - wall % 86400000000 + hour * 3600000000

/-- The first full hour of this weekday and number from a wall-clock time on, by the wall
clock. -/
def nextHour (wall : ℤ) (weekday hour : ℕ) : ℤ :=
  let days := ((weekday : ℤ) - weekdayOf wall) % 7
  let start := atHour wall hour + days * 86400000000
  if start < wall then start + 7 * 86400000000 else start

/-- Cutting off the seconds goes back by less than a minute. -/
theorem toMinute_le (wall : ℤ) : toMinute wall ≤ wall ∧ wall < toMinute wall + 60000000 := by
  unfold toMinute
  omega

/-- The next hour is not in the past. -/
theorem le_nextHour {wall : ℤ} {weekday hour : ℕ} : wall ≤ nextHour wall weekday hour := by
  unfold nextHour atHour
  dsimp only
  split <;> omega

/-- The next hour has no fraction of a second. -/
theorem nextHour_whole {wall : ℤ} {weekday hour : ℕ} :
    (1000000 : ℤ) ∣ nextHour wall weekday hour := by
  unfold nextHour atHour
  dsimp only
  split <;> omega

/-- The next hour is the hour that was asked for. -/
theorem hourOf_nextHour {wall : ℤ} {weekday hour : ℕ} (hhour : hour < 24) :
    hourOf (nextHour wall weekday hour) = hour := by
  unfold hourOf nextHour atHour
  dsimp only
  split <;> omega

/-- The next hour is on the weekday that was asked for. -/
theorem weekdayOf_nextHour {wall : ℤ} {weekday hour : ℕ} (hweekday : weekday < 7)
    (hhour : hour < 24) : weekdayOf (nextHour wall weekday hour) = weekday := by
  unfold nextHour atHour weekdayOf
  dsimp only
  split <;> omega

/-- A day has 24 hours. -/
theorem hourOf_lt (wall : ℤ) : hourOf wall < 24 := by
  unfold hourOf
  omega

/-- A week has seven days. -/
theorem weekdayOf_lt (wall : ℤ) : weekdayOf wall < 7 := by
  unfold weekdayOf
  omega

end WallClock
