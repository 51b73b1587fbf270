import Mathlib.Algebra.Order.Field.Rat
import Mathlib.Tactic.Linarith
import Mathlib.Tactic.Ring

/-!
# Weighted averages

The exact average of weighted integers, and the integers it may be rounded to.
-/

namespace HeadsetAdk.WeightedAverage

section Totals

variable {α : Type*} (weight : α → Nat) (value : α → Int)

def total : List α → Int
  | [] => 0
  | item :: items => weight item * value item + total items

def totalWeight : List α → Nat
  | [] => 0
  | item :: items => weight item + totalWeight items

def average (items : List α) : ℚ := total weight value items / totalWeight weight items

variable {weight value} {items : List α}

theorem totalWeight_pos (positive : ∀ item ∈ items, 0 < weight item) (some : items ≠ []) :
    0 < totalWeight weight items := by
  obtain ⟨item, rest, rfl⟩ := List.exists_cons_of_ne_nil some
  exact Nat.add_pos_left (positive item List.mem_cons_self) _

theorem total_mono {value' : α → Int} (le : ∀ item ∈ items, value item ≤ value' item) :
    total weight value items ≤ total weight value' items := by
  induction items with
  | nil => exact le_refl _
  | cons item items ih =>
    have first := mul_le_mul_of_nonneg_left (le item List.mem_cons_self)
      (Int.natCast_nonneg (weight item))
    exact add_le_add first (ih fun other member => le other (List.mem_cons_of_mem item member))

theorem total_const (number : Int) :
    total weight (fun _ => number) items = totalWeight weight items * number := by
  induction items with
  | nil => exact (zero_mul number).symm
  | cons item items ih =>
    rw [total, totalWeight, ih]
    push_cast
    ring

theorem total_le {high : Int} (bound : ∀ item ∈ items, value item ≤ high) :
    total weight value items ≤ totalWeight weight items * high :=
  (total_mono bound).trans_eq (total_const high)

theorem le_total {low : Int} (bound : ∀ item ∈ items, low ≤ value item) :
    totalWeight weight items * low ≤ total weight value items :=
  (total_const low).symm.trans_le (total_mono bound)

theorem totalWeight_le {heaviest : Nat} (bound : ∀ item ∈ items, weight item ≤ heaviest) :
    totalWeight weight items ≤ items.length * heaviest := by
  induction items with
  | nil => exact Nat.zero_le _
  | cons item items ih =>
    rw [totalWeight, List.length_cons, Nat.succ_mul, Nat.add_comm]
    exact Nat.add_le_add (ih fun other member => bound other (List.mem_cons_of_mem item member))
      (bound item List.mem_cons_self)

theorem totalWeight_filter (chosen : α → Bool) :
    totalWeight weight (items.filter chosen) + totalWeight weight (items.filter (!chosen ·)) =
      totalWeight weight items := by
  induction items with
  | nil => rfl
  | cons item items ih =>
    cases choice : chosen item <;>
      simp only [List.filter_cons, choice, totalWeight, Bool.not_true, Bool.not_false, if_true,
        Bool.false_eq_true, if_false] <;> omega

/-- Some of the items are misread by an offset. -/
theorem total_chosen {other : α → Int} {offset : Int} {chosen : α → Bool}
    (moved : ∀ item ∈ items, other item = value item + if chosen item then offset else 0) :
    total weight other items =
      total weight value items + totalWeight weight (items.filter chosen) * offset := by
  induction items with
  | nil => exact (zero_add _).symm.trans (congrArg (0 + ·) (zero_mul offset).symm)
  | cons item items ih =>
    rw [total, total, moved item List.mem_cons_self,
      ih fun other member => moved other (List.mem_cons_of_mem item member), List.filter_cons]
    cases chosen item with
    | true =>
      rw [if_pos rfl, if_pos rfl, totalWeight]
      push_cast
      ring
    | false =>
      rw [if_neg Bool.false_ne_true, if_neg Bool.false_ne_true]
      ring

theorem total_add {other : α → Int} {offset : Int}
    (moved : ∀ item ∈ items, other item = value item + offset) :
    total weight other items = total weight value items + totalWeight weight items * offset := by
  have chosen := @total_chosen _ weight value items other offset (fun _ => true) moved
  rwa [List.filter_eq_self.mpr fun _ _ => rfl] at chosen

end Totals

section Rounding

def Nearest (rounded : Int) (exactly : ℚ) : Prop :=
  (rounded : ℚ) - 1 / 2 ≤ exactly ∧ exactly < rounded + 1 / 2

def NextBelow (rounded : Int) (exactly : ℚ) : Prop :=
  (rounded : ℚ) < exactly ∧ exactly ≤ rounded + 1

/-- The number is at most half above an integer that it is not. -/
def CloseAbove (exactly : ℚ) : Prop :=
  ∃ below : Int, (below : ℚ) < exactly ∧ exactly ≤ below + 1 / 2

variable {first second margin : Int} {exactFirst exactSecond : ℚ} {bound : Int}

theorem Nearest.lt_of_lt (nearest : Nearest first exactFirst) (below : first < bound) :
    exactFirst < bound := by
  have cast : (first : ℚ) + 1 ≤ bound := by exact_mod_cast below
  linarith [nearest.2]

theorem NextBelow.le_of_lt (next : NextBelow first exactFirst) (below : first < bound) :
    exactFirst ≤ bound := by
  have cast : (first : ℚ) + 1 ≤ bound := by exact_mod_cast below
  linarith [next.2]

theorem NextBelow.add (next : NextBelow first exactFirst) (offset : Int) :
    NextBelow (first + offset) (exactFirst + offset) := by
  constructor
  · push_cast
    linarith [next.1]
  · push_cast
    linarith [next.2]

/-- Numbers are as far apart as they are when both are rounded to the nearest integer. -/
theorem Nearest.apart (nearest : Nearest first exactFirst) (nearest' : Nearest second exactSecond)
    (apart : margin < second - first) : (margin : ℚ) < exactSecond - exactFirst := by
  have cast : (margin : ℚ) + 1 ≤ second - first := by exact_mod_cast apart
  linarith [nearest.2, nearest'.1]

/-- Numbers are as far apart as they are when both are rounded down. -/
theorem NextBelow.apart (next : NextBelow first exactFirst) (next' : NextBelow second exactSecond)
    (apart : margin < second - first) : (margin : ℚ) < exactSecond - exactFirst := by
  have cast : (margin : ℚ) + 1 ≤ second - first := by exact_mod_cast apart
  linarith [next.2, next'.1]

/-- Numbers are as far apart as they are when the higher one is rounded down. -/
theorem Nearest.apart_nextBelow (nearest : Nearest first exactFirst)
    (next : NextBelow second exactSecond) (apart : margin < second - first) :
    (margin : ℚ) < exactSecond - exactFirst := by
  have cast : (margin : ℚ) + 1 ≤ second - first := by exact_mod_cast apart
  linarith [nearest.2, next.1]

theorem NextBelow.close_iff (next : NextBelow first exactFirst) :
    exactFirst ≤ first + 1 / 2 ↔ CloseAbove exactFirst := by
  obtain ⟨above, most⟩ := next
  refine ⟨fun half => ⟨first, above, half⟩, fun close => ?_⟩
  obtain ⟨below, above', half⟩ := close
  have least : below < first + 1 := by
    have cast : (below : ℚ) < (first + 1 : Int) := by
      push_cast
      linarith
    exact_mod_cast cast
  have scaled : (below : ℚ) ≤ first := by exact_mod_cast Int.lt_add_one_iff.mp least
  linarith

end Rounding

section Means

variable {α : Type*} {weight : α → Nat} {value : α → Int} {items : List α} {val : Int}

/-- The rounded average, which lies between two of the values -/
structure RoundedMean (weight : α → Nat) (value : α → Int) (items : List α) (val : Int) :
    Prop where
  low : (val : ℚ) - 1 / 2 ≤ average weight value items
  high : average weight value items ≤ val + 1 / 2
  atLeast : ∃ item ∈ items, value item ≤ val
  atMost : ∃ item ∈ items, val ≤ value item

section

variable (positive : 0 < totalWeight weight items)

include positive

theorem roundedMean_iff :
    RoundedMean weight value items val ↔ (val : ℚ) - 1 / 2 ≤ average weight value items ∧
        average weight value items ≤ val + 1 / 2 := by
  refine ⟨fun mean => ⟨mean.low, mean.high⟩, fun bounds => ⟨bounds.1, bounds.2, ?_, ?_⟩⟩
  all_goals
    have positive' : (0 : ℚ) < (totalWeight weight items : Nat) := Nat.cast_pos.mpr positive
    rw [average] at bounds
    by_contra none
    push Not at none
  · have whole := @le_total _ weight value items (val + 1) none
    have scaled : ((totalWeight weight items : Nat) : ℚ) * (val + 1) ≤
        (total weight value items : Int) := by exact_mod_cast whole
    linarith [(le_div_iff₀' positive').mpr scaled]
  · have whole := @total_le _ weight value items (val - 1) fun item member =>
      Int.le_sub_one_iff.mpr (none item member)
    have scaled : ((total weight value items : Int) : ℚ) ≤
        (totalWeight weight items : Nat) * (val - 1) := by exact_mod_cast whole
    linarith [(div_le_iff₀' positive').mpr scaled]

theorem Nearest.roundedMean (nearest : Nearest val (average weight value items)) :
    RoundedMean weight value items val :=
  (roundedMean_iff positive).mpr ⟨nearest.1, nearest.2.le⟩

theorem NextBelow.roundedMean_iff (next : NextBelow val (average weight value items)) :
    RoundedMean weight value items val ↔ CloseAbove (average weight value items) := by
  rw [WeightedAverage.roundedMean_iff positive, ← next.close_iff]
  exact and_iff_right (by linarith [next.1])

end

/-- When a part of the weight, but not all of it, is misread by an offset, the mean is lost in
the range of that offset: no part is so small that rounding hides it. -/
theorem not_roundedMean_of_part {part : Nat} {offset num rounded turns : Int}
    (heavy : 0 < part) (light : part < totalWeight weight items)
    (misread : num = total weight value items - part * offset)
    (few : 3 * (totalWeight weight items : Int) < 2 * offset)
    (low : (rounded : ℚ) - 1 ≤ num / totalWeight weight items)
    (high : num / totalWeight weight items ≤ (rounded : ℚ) + 1) :
    ¬ RoundedMean weight value items (rounded + offset * turns) := by
  intro mean
  have positive : (0 : ℚ) < (totalWeight weight items : Nat) := Nat.cast_pos.mpr (heavy.trans light)
  have low' := mean.low
  have high' := mean.high
  rw [average] at low' high'
  rw [le_div_iff₀ positive] at low' low
  rw [div_le_iff₀ positive] at high' high
  rw [misread] at low high
  generalize totalWeight weight items = weights at *
  generalize total weight value items = exactly at *
  push_cast at low high low' high'
  have less : (2 * offset * (part - turns * weights) : ℚ) < 2 * offset := by
    have few : (3 * weights : ℚ) < 2 * offset := by exact_mod_cast few
    linarith
  have more : (-(2 * offset) : ℚ) < 2 * offset * (part - turns * weights) := by
    have few : (3 * weights : ℚ) < 2 * offset := by exact_mod_cast few
    linarith
  have less' : 2 * offset * (part - turns * weights) < 2 * offset * 1 := by
    rw [mul_one]
    exact_mod_cast less
  have more' : 2 * offset * -1 < 2 * offset * (part - turns * weights) := by
    rw [mul_neg_one]
    exact_mod_cast more
  have below := lt_of_mul_lt_mul_left less' (by omega)
  have above := lt_of_mul_lt_mul_left more' (by omega)
  have same : (part : Int) = turns * weights := by omega
  rcases lt_or_ge turns 1 with none | some
  · have product := Int.mul_le_mul_of_nonneg_right (show turns ≤ 0 by omega)
      (Int.natCast_nonneg weights)
    omega
  · have product := Int.mul_le_mul_of_nonneg_right some (Int.natCast_nonneg weights)
    omega

end Means

end HeadsetAdk.WeightedAverage
