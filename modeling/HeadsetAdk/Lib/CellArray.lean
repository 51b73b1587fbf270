import Mathlib.Data.List.Basic

/-!
# Heap arrays of cells

Arrays that are reallocated and shifted the way C code does it.  A cell that was never written, or
lies past the end, holds a value that is passed in as `unknown`.
-/

namespace HeadsetAdk.CellArray

variable {α : Type} (unknown : α)

/-- `realloc` to `count` cells. -/
def realloc (cells : List α) (count : Nat) : List α :=
  cells.take count ++ List.replicate (count - cells.length) unknown

/-- `memmove` of `count` cells within an array.  Cells read past the end are unknown. -/
def memmove (cells : List α) (dest src count : Nat) : List α :=
  cells.mapIdx fun index cell =>
    if dest ≤ index ∧ index < dest + count then cells.getD (src + (index - dest)) unknown
    else cell

variable {unknown} {cells : List α}

@[simp]
theorem length_realloc (count : Nat) : (realloc unknown cells count).length = count := by
  rw [realloc, List.length_append, List.length_take, List.length_replicate]
  omega

@[simp]
theorem length_memmove (dest src count : Nat) :
    (memmove unknown cells dest src count).length = cells.length :=
  List.length_mapIdx

variable {count index : Nat}

theorem getElem_memmove {dest src : Nat}
    (inMoved : index < (memmove unknown cells dest src count).length)
    (inside : index < cells.length) :
    (memmove unknown cells dest src count)[index] =
      if dest ≤ index ∧ index < dest + count then cells.getD (src + (index - dest)) unknown
      else cells[index] :=
  List.getElem_mapIdx

theorem realloc_grown : realloc unknown cells (cells.length + 1) = cells ++ [unknown] := by
  rw [realloc, List.take_of_length_le (Nat.le_succ _), Nat.add_sub_cancel_left]
  rfl

theorem realloc_shrunk (small : count ≤ cells.length) :
    realloc unknown cells count = cells.take count := by
  rw [realloc, Nat.sub_eq_zero_of_le small]
  exact List.append_nil _

theorem getD_of_lt (inside : index < cells.length) : cells.getD index unknown = cells[index] := by
  rw [List.getD_eq_getElem?_getD, List.getElem?_eq_getElem inside, Option.getD_some]

/-- One more cell, written. -/
theorem set_realloc (cell : α) :
    (realloc unknown cells (cells.length + 1)).set cells.length cell = cells ++ [cell] := by
  rw [realloc_grown, List.set_append_right _ _ (Nat.le_refl _), Nat.sub_self]
  rfl

/-- Cells moved up by one make room for an insertion. -/
theorem set_memmove_realloc (inside : index ≤ cells.length) (cell : α) :
    (memmove unknown (realloc unknown cells (cells.length + 1)) (index + 1) index
      (cells.length - index)).set index cell = cells.insertIdx index cell := by
  rw [realloc_grown]
  apply List.ext_getElem
  · rw [List.length_set, length_memmove, List.length_append, List.length_insertIdx, if_pos inside]
    rfl
  intro position _ inInserted
  have bound : position < cells.length + 1 := by
    rwa [List.length_insertIdx, if_pos inside] at inInserted
  have inGrown : position < (cells ++ [unknown]).length := by
    rwa [List.length_append]
  rw [List.getElem_insertIdx, List.getElem_set, getElem_memmove _ inGrown]
  rcases Nat.lt_trichotomy position index with before | rfl | behind
  · rw [if_neg (by omega), dif_pos before, if_neg (by omega), List.getElem_append_left (by omega)]
  · rw [if_pos rfl, dif_neg (by omega), dif_pos rfl]
  · have source : index + (position - (index + 1)) < cells.length := by omega
    rw [if_neg (by omega), dif_neg (by omega), dif_neg (by omega), if_pos (by omega),
      getD_of_lt (by rw [List.length_append]; exact Nat.lt_add_right _ source),
      List.getElem_append_left source]
    congr 1
    omega

/-- Cells moved down by one close the gap of a removal.  One cell more may be moved, from
behind the end of the array. -/
theorem realloc_memmove {index count : Nat} (inside : index < cells.length)
    (enough : cells.length ≤ index + 1 + count) :
    realloc unknown (memmove unknown cells index (index + 1) count) (cells.length - 1) =
      cells.eraseIdx index := by
  rw [realloc_shrunk (by rw [length_memmove]; exact Nat.sub_le _ _)]
  apply List.ext_getElem
  · rw [List.length_take, length_memmove, List.length_eraseIdx_of_lt inside,
      Nat.min_eq_left (Nat.sub_le _ _)]
  intro position _ inErased
  rw [List.length_eraseIdx_of_lt inside] at inErased
  rw [List.getElem_take, getElem_memmove _ (by omega), List.getElem_eraseIdx]
  by_cases before : position < index
  · rw [if_neg (by omega), dif_pos before]
  · rw [if_pos (by omega), dif_neg before, getD_of_lt (by omega)]
    congr 1
    omega

end HeadsetAdk.CellArray
