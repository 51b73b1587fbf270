import Mathlib.Data.List.Basic

/-! # Sequences kept in segments -/

namespace HeadsetAdk.Segments

variable {α : Type}

def segmentAt (size : Nat) (items : List α) (index : Nat) : List α :=
  (items.drop (size * index)).take size

variable {size : Nat} {items others : List α}

theorem length_segment (size : Nat) (items : List α) (index : Nat) :
    (segmentAt size items index).length = min size (items.length - size * index) := by
  rw [segmentAt, List.length_take, List.length_drop]

theorem segment_eq_nil {index : Nat} (behind : items.length ≤ size * index) :
    segmentAt size items index = [] := by
  rw [segmentAt, List.drop_eq_nil_of_le behind, List.take_nil]

/-- A segment is read off any part of the sequence that reaches over it. -/
theorem segment_congr {index count : Nat} (same : items.take count = others.take count)
    (before : size * (index + 1) ≤ count) :
    segmentAt size items index = segmentAt size others index := by
  have cut (items : List α) :
      segmentAt size items index = ((items.take count).drop (size * index)).take size := by
    rw [segmentAt, List.drop_take, List.take_take, Nat.min_eq_left]
    rw [Nat.mul_succ] at before
    omega
  rw [cut, cut, same]

/-- The last segmentAt, which holds what is behind its start. -/
theorem segment_last {index : Nat} (here : items.length ≤ size * (index + 1)) :
    segmentAt size items index = items.drop (size * index) := by
  rw [segmentAt, List.take_of_length_le]
  rw [List.length_drop]
  rw [Nat.mul_succ] at here
  omega

/-- The segments put together. -/
theorem flatMap_segment (size : Nat) (items : List α) (count : Nat) :
    (List.range count).flatMap (segmentAt size items) = items.take (size * count) := by
  induction count with
  | zero => rw [Nat.mul_zero, List.take_zero]; rfl
  | succ count ih =>
    rw [List.range_succ, List.flatMap_append, ih, List.flatMap_singleton, segmentAt, Nat.mul_succ,
      List.take_add]

end HeadsetAdk.Segments
