import Mathlib.Algebra.Order.Ring.Int
import Mathlib.Tactic.Linarith

/-!
# Scaling of integers

Distances are scaled from one range to another, and rounded to the nearest integer or to the
nearest multiple of a step.
-/

namespace HeadsetAdk.Scaling

/-- A distance within the range `input`, scaled to the range `output` -/
def scale (input output distance : Int) : Int := (distance * output + input / 2) / input

section Scale

variable {input output distance other : Int}

section

variable (positive : 0 < input)

include positive

theorem scale_zero : scale input output 0 = 0 := by
  rw [scale, zero_mul, zero_add]
  exact Int.ediv_eq_zero_of_lt (by omega) (by omega)

theorem scale_self : scale input output input = output := by
  have half : input / 2 / input = 0 := Int.ediv_eq_zero_of_lt (by omega) (by omega)
  rw [scale, add_comm, Int.add_mul_ediv_left _ _ (by omega), half, zero_add]

theorem scale_mono (grows : 0 ≤ output) (less : distance ≤ other) :
    scale input output distance ≤ scale input output other :=
  Int.ediv_le_ediv positive (Int.add_le_add_right (mul_le_mul_of_nonneg_right less grows) _)

theorem scale_nonneg (grows : 0 ≤ output) (nonneg : 0 ≤ distance) :
    0 ≤ scale input output distance :=
  scale_zero positive ▸ scale_mono positive grows nonneg

theorem scale_le (grows : 0 ≤ output) (inside : distance ≤ input) :
    scale input output distance ≤ output :=
  le_of_le_of_eq (scale_mono positive grows inside) (scale_self positive)

/-- Scaling to a range that is no smaller, and back, restores the distance; the larger range is
odd, so that the two roundings never add up to a whole step. -/
theorem scale_scale {half : Int} (larger : input ≤ output) (odd : output = 2 * half + 1) :
    scale output input (scale input output distance) = distance := by
  have lower := Int.ediv_mul_le (distance * output + input / 2) (show input ≠ 0 by omega)
  have upper := Int.lt_ediv_add_one_mul_self (distance * output + input / 2) positive
  rw [← scale] at lower upper
  rw [add_mul, one_mul] at upper
  have whole : distance * output ≤ scale input output distance * input + output / 2 := by omega
  have below : scale input output distance * input + output / 2 < (distance + 1) * output := by
    rw [add_mul, one_mul]
    omega
  rw [scale]
  refine le_antisymm (Int.lt_add_one_iff.mp ?_) ?_
  · exact Int.ediv_lt_of_lt_mul (by omega) below
  · exact Int.le_ediv_of_mul_le (by omega) whole

end

end Scale

/-- The multiple of a step that is nearest, or the lower one of two -/
def toStep (step value : Int) : Int :=
  (value / step + if step < 2 * (value % step) then 1 else 0) * step

section Step

variable {step value other : Int}

theorem toStep_up (up : step < 2 * (value % step)) :
    toStep step value = (value / step + 1) * step := by
  rw [toStep, if_pos up]

theorem toStep_down (down : ¬ step < 2 * (value % step)) :
    toStep step value = value / step * step := by
  rw [toStep, if_neg down, add_zero]

theorem toStep_of_dvd (positive : 0 < step) (whole : value % step = 0) :
    toStep step value = value := by
  have split := Int.ediv_mul_add_emod value step
  rw [toStep_down (by omega)]
  omega

theorem le_toStep (positive : 0 < step) : value / step * step ≤ toStep step value := by
  by_cases up : step < 2 * (value % step)
  · rw [toStep_up up, add_mul, one_mul]
    omega
  · rw [toStep_down up]

theorem toStep_le (positive : 0 < step) : toStep step value ≤ (value / step + 1) * step := by
  by_cases up : step < 2 * (value % step)
  · rw [toStep_up up]
  · rw [toStep_down up, add_mul, one_mul]
    omega

theorem toStep_mono (positive : 0 < step) (less : value ≤ other) :
    toStep step value ≤ toStep step other := by
  have quotients := Int.ediv_le_ediv positive less
  rcases Int.lt_or_eq_of_le quotients with smaller | same
  · calc
      toStep step value ≤ (value / step + 1) * step := toStep_le positive
      _ ≤ other / step * step := mul_le_mul_of_nonneg_right smaller positive.le
      _ ≤ toStep step other := le_toStep positive
  · by_cases up : step < 2 * (value % step)
    · have split := Int.ediv_mul_add_emod value step
      have split' := Int.ediv_mul_add_emod other step
      rw [← same] at split'
      rw [toStep_up up, toStep_up (show step < 2 * (other % step) by omega), same]
    · rw [toStep_down up, same]
      exact le_toStep positive

end Step

end HeadsetAdk.Scaling
