import Mathlib.Data.List.Basic

/-!
# Blocks of memory

Copying into and out of a block of memory, where an access outside of the block has no result.
-/

namespace HeadsetAdk.Blocks

variable {α : Type}

def slice (block : List α) (place count : Nat) : Option (List α) :=
  if place + count ≤ block.length then some ((block.drop place).take count) else none

def store (block : List α) (place : Nat) (items : List α) : Option (List α) :=
  if place + items.length ≤ block.length then
    some (block.take place ++ items ++ block.drop (place + items.length))
  else none

theorem slice_append (before items after : List α) :
    slice (before ++ items ++ after) before.length items.length = some items := by
  rw [slice, if_pos (by simp), List.append_assoc, List.drop_left, List.take_left]

theorem slice_eq_none {block : List α} {place count : Nat}
    (outside : block.length < place + count) :
    slice block place count = none :=
  if_neg (Nat.not_le.mpr outside)

theorem store_append {old items : List α} (same : old.length = items.length)
    (before after : List α) :
    store (before ++ old ++ after) before.length items = some (before ++ items ++ after) := by
  have inside : before.length + items.length ≤ (before ++ old ++ after).length := by
    simp [same]
  rw [store, if_pos inside, ← same, ← List.drop_drop, List.append_assoc before old after,
    List.take_left, List.drop_left, List.drop_left]

/-- What a block holds behind its first items. -/
theorem getElem?_behind (before items : List α) (index : Nat) :
    (before ++ items)[before.length + index]? = items[index]? := by
  rw [List.getElem?_append_right (Nat.le_add_right ..), Nat.add_sub_cancel_left]

end HeadsetAdk.Blocks
