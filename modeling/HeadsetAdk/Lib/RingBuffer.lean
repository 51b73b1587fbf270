import Mathlib.Data.List.Basic
import Mathlib.Logic.Function.Basic

/-!
# Ring buffers

Slots that are written round and round.  Counted back from the newest, they hold a list.
-/

namespace HeadsetAdk.RingBuffer

variable {α : Type*}

/-- The slot that was written so many writes before the newest. -/
def slot (capacity rear back : Nat) : Nat := (rear + capacity - back) % capacity

structure Holds (capacity : Nat) (slots : Nat → α) (rear : Nat) (newestFirst : List α) : Prop where
  rear_lt : rear < capacity
  length_le : newestFirst.length ≤ capacity
  held : ∀ back (inside : back < newestFirst.length),
    slots (slot capacity rear back) = newestFirst[back]

variable {capacity rear back other : Nat}

theorem slot_zero (inside : rear < capacity) : slot capacity rear 0 = rear := by
  rw [slot, Nat.sub_zero, Nat.add_mod_right, Nat.mod_eq_of_lt inside]

theorem slot_of_le (inside : rear < capacity) (before : back ≤ rear) :
    slot capacity rear back = rear - back := by
  rw [slot, Nat.sub_add_comm before, Nat.add_mod_right, Nat.mod_eq_of_lt (by omega)]

theorem slot_of_lt (within : back ≤ capacity) (wraps : rear < back) :
    slot capacity rear back = rear + capacity - back := by
  rw [slot, Nat.mod_eq_of_lt (by omega)]

section

variable (inside : rear < capacity)

include inside

theorem slot_lt : slot capacity rear back < capacity :=
  Nat.mod_lt _ (Nat.zero_lt_of_lt inside)

theorem slot_injective (first : back < capacity) (second : other < capacity)
    (same : slot capacity rear back = slot capacity rear other) : back = other := by
  rcases Nat.lt_or_ge rear back with wraps | before <;>
    rcases Nat.lt_or_ge rear other with wraps' | before'
  · rw [slot_of_lt (Nat.le_of_lt first) wraps, slot_of_lt (Nat.le_of_lt second) wraps'] at same
    omega
  · rw [slot_of_lt (Nat.le_of_lt first) wraps, slot_of_le inside before'] at same
    omega
  · rw [slot_of_le inside before, slot_of_lt (Nat.le_of_lt second) wraps'] at same
    omega
  · rw [slot_of_le inside before, slot_of_le inside before'] at same
    omega

/-- A write moves every slot one further back. -/
theorem slot_succ (within : back < capacity) :
    slot capacity ((rear + 1) % capacity) (back + 1) = slot capacity rear back := by
  rcases Nat.lt_or_ge (rear + 1) capacity with room | last
  · rw [Nat.mod_eq_of_lt room]
    rcases Nat.lt_or_ge rear back with wraps | before
    · rw [slot_of_lt within (Nat.succ_lt_succ wraps), slot_of_lt (Nat.le_of_lt within) wraps]
      omega
    · rw [slot_of_le room (Nat.succ_le_succ before), slot_of_le inside before]
      omega
  · have whole : rear + 1 = capacity := by omega
    rw [whole, Nat.mod_self, slot_of_lt within (Nat.succ_pos back), slot_of_le inside (by omega)]
    omega

/-- The next slot back is one lower, and the last one below the first. -/
theorem slot_back (within : back < capacity) :
    slot capacity rear (back + 1) =
      ((if slot capacity rear back = 0 then capacity else slot capacity rear back) - 1) %
        capacity := by
  rcases Nat.lt_trichotomy rear back with wraps | same | before
  · rw [slot_of_lt within (by omega), slot_of_lt (Nat.le_of_lt within) wraps, if_neg (by omega),
      Nat.mod_eq_of_lt (by omega)]
    omega
  · rw [slot_of_lt within (by omega), slot_of_le inside (Nat.le_of_eq same.symm), if_pos (by omega),
      Nat.mod_eq_of_lt (by omega)]
    omega
  · rw [slot_of_le inside before, slot_of_le inside (Nat.le_of_lt before), if_neg (by omega),
      Nat.mod_eq_of_lt (by omega)]
    omega

end

namespace Holds

variable {slots : Nat → α} {newestFirst : List α}

theorem single (room : 0 < capacity) {element : α} (written : slots 0 = element) :
    Holds capacity slots 0 [element] := by
  refine ⟨room, room, fun back inside => ?_⟩
  have only : back = 0 := Nat.lt_one_iff.mp inside
  subst only
  rw [slot_zero room]
  exact written

/-- A write into the next slot keeps what is held, but for the oldest element when the buffer
is full. -/
theorem write (holds : Holds capacity slots rear newestFirst) (element : α) :
    Holds capacity (Function.update slots ((rear + 1) % capacity) element) ((rear + 1) % capacity)
      ((element :: newestFirst).take capacity) := by
  have room : 0 < capacity := Nat.zero_lt_of_lt holds.rear_lt
  have next : (rear + 1) % capacity < capacity := Nat.mod_lt _ room
  refine ⟨next, List.length_take_le _ _, fun back inside => ?_⟩
  rw [List.length_take] at inside
  rw [List.getElem_take]
  cases back with
  | zero => rw [slot_zero next, Function.update_self, List.getElem_cons_zero]
  | succ back =>
    have within : back + 1 < capacity := (Nat.lt_min.mp inside).1
    have old : back < newestFirst.length := Nat.lt_of_succ_lt_succ ((Nat.lt_min.mp inside).2)
    have apart : slot capacity rear back ≠ (rear + 1) % capacity := by
      intro same
      rw [← slot_succ holds.rear_lt (by omega)] at same
      exact Nat.succ_ne_zero back
        (slot_injective next within room (same.trans (slot_zero next).symm))
    rw [slot_succ holds.rear_lt (by omega), Function.update_of_ne apart,
      List.getElem_cons_succ, holds.held back old]

end Holds

end HeadsetAdk.RingBuffer
