import Mathlib.Data.Int.ModEq
import Mathlib.Tactic.Ring

/-! # Serial numbers in a window -/

namespace HeadsetAdk.SerialNumber

def ofIndex (modulus start index : Nat) : Nat :=
  (start + index) % modulus

/-- How far `second` is ahead of `first`. -/
def distance (modulus first second : Nat) : Nat :=
  (second + modulus - first) % modulus

variable {modulus start first second : Nat}

theorem ofIndex_lt (positive : 0 < modulus) (start index : Nat) :
    ofIndex modulus start index < modulus :=
  Nat.mod_lt _ positive

theorem ofIndex_succ (modulus start index : Nat) :
    ofIndex modulus start (index + 1) = (ofIndex modulus start index + 1) % modulus := by
  rw [ofIndex, ofIndex, Nat.mod_add_mod, Nat.add_assoc]

/-- The distance is that of the indices, modulo the modulus. -/
theorem distance_ofIndex (positive : 0 < modulus) (start first second : Nat) :
    (distance modulus (ofIndex modulus start first) (ofIndex modulus start second) : Int) =
      ((second : Int) - first) % modulus := by
  have bound := (ofIndex_lt positive start first).le
  rw [distance, Int.natCast_mod, Nat.cast_sub (bound.trans (Nat.le_add_left _ _)), Nat.cast_add,
    ofIndex, ofIndex, Int.natCast_mod, Int.natCast_mod]
  apply Int.ModEq.eq
  calc
    ((start + second : Nat) : Int) % modulus + modulus - ((start + first : Nat) : Int) % modulus
      ≡ (start + second : Nat) + 0 - (start + first : Nat) [ZMOD modulus] :=
        ((Int.mod_modEq _ _).add (Int.modEq_zero_iff_dvd.mpr dvd_rfl)).sub (Int.mod_modEq _ _)
    _ = second - first := by push_cast; ring

theorem distance_of_ahead (window : Nat) (ahead : first ≤ second) (near : second ≤ first + window)
    (positive : 0 < window) :
    distance (2 * window) (ofIndex (2 * window) start first)
      (ofIndex (2 * window) start second) = second - first := by
  have twice : 0 < 2 * window := by omega
  have spec := distance_ofIndex twice start first second
  rw [Int.emod_eq_of_lt (by omega) (by omega)] at spec
  omega

theorem distance_of_behind (window : Nat) {start first second : Nat} (behind : second < first)
    (near : first < second + window) :
    distance (2 * window) (ofIndex (2 * window) start first)
      (ofIndex (2 * window) start second) = 2 * window - (first - second) := by
  have twice : 0 < 2 * window := by omega
  have spec := distance_ofIndex twice start first second
  have shifted : ((second : Int) - first) % (2 * window : Nat) =
      second - first + (2 * window : Nat) := by
    rw [← Int.add_emod_right, Int.emod_eq_of_lt (by omega) (by omega)]
  omega

end HeadsetAdk.SerialNumber
