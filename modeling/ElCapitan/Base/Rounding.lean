import Mathlib.Data.Int.ConditionallyCompleteOrder
import Mathlib.Data.Rat.Floor
import Mathlib.Tactic.Linarith
import Mathlib.Tactic.Positivity

/-!
# Rounding halves to even

The nearest integer of a rational, with halves to the even neighbour. Rounding to
any unit keeps the order and leaves the unit's multiples alone.
-/

namespace ElCapitan

/-- The nearest integer of a rational, halves to even. -/
def nearestEven (value : ℚ) : ℤ :=
  if value - value.floor < 1 / 2 then value.floor
  else if value - value.floor > 1 / 2 then value.floor + 1
  else if value.floor % 2 = 0 then value.floor else value.floor + 1

/-- The nearest integer is not below the floor. -/
theorem floor_le_nearestEven (value : ℚ) : value.floor ≤ nearestEven value := by
  unfold nearestEven
  split_ifs <;> omega

/-- The nearest integer is at most one above the floor. -/
theorem nearestEven_le_floor_add_one (value : ℚ) : nearestEven value ≤ value.floor + 1 := by
  unfold nearestEven
  split_ifs <;> omega

/-- Between two integers the choice only moves up. -/
theorem nearestEven_le_of_floor_eq {first second : ℚ} (hle : first ≤ second)
    (hfloor : first.floor = second.floor) : nearestEven first ≤ nearestEven second := by
  unfold nearestEven
  rw [hfloor]
  -- Only the case where `first` goes up and `second` does not needs the order.
  split_ifs with hfirst hsecond hsecond' heven <;> try omega
  all_goals exfalso; linarith

/-- The nearest integer keeps the order. -/
theorem nearestEven_mono : Monotone nearestEven := by
  intro first second hle
  have hfloors : first.floor ≤ second.floor := Rat.floor_monotone hle
  rcases hfloors.lt_or_eq with hlt | hfloor
  · calc nearestEven first ≤ first.floor + 1 := nearestEven_le_floor_add_one first
      _ ≤ second.floor := hlt
      _ ≤ nearestEven second := floor_le_nearestEven second
  · exact nearestEven_le_of_floor_eq hle hfloor

/-- An integer is its own nearest integer. -/
@[simp] theorem nearestEven_intCast (n : ℤ) : nearestEven n = n := by
  have hfloor : (n : ℚ).floor = n := Rat.floor_intCast n
  simp [nearestEven, hfloor]

/-- A rational rounded to a multiple of `1 / scale`. -/
def roundTo (scale value : ℚ) : ℚ := (nearestEven (value * scale) : ℚ) / scale

/-- Rounding to a unit keeps the order. -/
theorem roundTo_mono {scale : ℚ} (hscale : 0 < scale) : Monotone (roundTo scale) := by
  intro first second hle
  have hscaled : first * scale ≤ second * scale := mul_le_mul_of_nonneg_right hle hscale.le
  have hnearest : (nearestEven (first * scale) : ℚ) ≤ nearestEven (second * scale) :=
    Int.cast_le.mpr (nearestEven_mono hscaled)
  exact div_le_div_of_nonneg_right hnearest hscale.le

/-- Rounding leaves the multiples of the unit alone. -/
theorem roundTo_multiple {scale : ℚ} (hscale : 0 < scale) (n : ℤ) :
    roundTo scale (n / scale) = n / scale := by
  rw [roundTo, div_mul_cancel₀ _ hscale.ne', nearestEven_intCast]

end ElCapitan
