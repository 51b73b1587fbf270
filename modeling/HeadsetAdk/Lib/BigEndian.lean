import Mathlib.Tactic.Ring

/-!
# Big-endian numbers

The number that words make with the first word as the most significant one, and how its
first words and their order determine it.
-/

namespace HeadsetAdk.BigEndian

def number (base : Nat) (words : Nat → Nat) : Nat → Nat
  | 0 => 0
  | count + 1 => number base words count * base + words count

variable {base : Nat} {first second : Nat → Nat} {count : Nat}

theorem number_congr (agree : ∀ index < count, first index = second index) :
    number base first count = number base second count := by
  induction count with
  | zero => rfl
  | succ count induction =>
    rw [number, number, induction fun index inside => agree index (by omega),
      agree count (by omega)]

theorem number_lt {words : Nat → Nat} (small : ∀ index < count, words index < base) :
    number base words count < base ^ count := by
  induction count with
  | zero => exact Nat.one_pos
  | succ count induction =>
    have before := induction fun index inside => small index (by omega)
    have last := small count (by omega)
    calc number base words count * base + words count
        < number base words count * base + base := by omega
      _ = (number base words count + 1) * base := by ring
      _ ≤ base ^ count * base := Nat.mul_le_mul_right base before
      _ = base ^ (count + 1) := (pow_succ base count).symm

/-- The first word counts most. -/
theorem number_succ' (words : Nat → Nat) (count : Nat) :
    number base words (count + 1) =
      words 0 * base ^ count + number base (fun index => words (index + 1)) count := by
  induction count with
  | zero => simp [number]
  | succ count induction =>
    rw [number, induction, number, pow_succ]
    ring

theorem number_mod (words : Nat → Nat) (count : Nat) :
    number base words (count + 1) % base = words count % base := by
  rw [number, Nat.add_mod, Nat.mul_mod_left, Nat.zero_add, Nat.mod_mod]

/-- The first words in which two numbers differ decide which one is smaller. -/
theorem number_lt_of_first {first second : Nat → Nat} {count : Nat}
    (small : ∀ index ≤ count, first index < base) (less : first 0 < second 0) :
    number base first (count + 1) < number base second (count + 1) := by
  have rest : number base (fun index => first (index + 1)) count < base ^ count :=
    number_lt fun index inside => small (index + 1) inside
  rw [number_succ' first, number_succ' second]
  calc first 0 * base ^ count + number base (fun index => first (index + 1)) count
      < first 0 * base ^ count + base ^ count := by omega
    _ = (first 0 + 1) * base ^ count := by ring
    _ ≤ second 0 * base ^ count := Nat.mul_le_mul_right _ less
    _ ≤ second 0 * base ^ count + number base (fun index => second (index + 1)) count :=
        Nat.le_add_right _ _

theorem number_le_iff_of_first (count : Nat) (same : first 0 = second 0) :
    number base first (count + 1) ≤ number base second (count + 1) ↔
      number base (fun index => first (index + 1)) count ≤
        number base (fun index => second (index + 1)) count := by
  rw [number_succ' first, number_succ' second, same]
  omega

end HeadsetAdk.BigEndian
