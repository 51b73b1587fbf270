import HeadsetAdk.Hdma.Core
import HeadsetAdk.Lib.WeightedAverage

/-! # Filtered samples are weighted averages -/

namespace HeadsetAdk.Hdma

open RingBuffer (slot)
open WeightedAverage (total totalWeight average Nearest NextBelow)

/-- Whether a sample of that type says anything. -/
def QueueType.known : QueueType → Nat → Bool
  | .rssi, _ => true
  | .mic, data => data != unknownQuality
  | .linkQuality, data => data != unknownLinkQuality

def QueueType.value : QueueType → Nat → Int
  | .rssi, data => toInt8 data
  | .mic, data => data
  | .linkQuality, data => data

def Sample.age (timestamp : Nat) (sample : Sample) : Int := (timestamp : Int) - sample.time

def Sample.counts (type : QueueType) (timestamp : Nat) (maxAge : Int) (sample : Sample) : Bool :=
  type.known sample.data && decide (sample.age timestamp ≤ maxAge)

def usable (type : QueueType) (timestamp : Nat) (maxAge : Int) (taken : List Sample) :
    List Sample :=
  taken.filter (Sample.counts type timestamp maxAge)

def Queue.outlived (queue : Queue) (timestamp : Nat) : Bool :=
  queue.taken.any fun sample => decide ((2 : Int) ^ 31 ≤ sample.age timestamp)

def leavesFrom (type : QueueType) (timestamp : Nat) (maxAge : Int) (rear : Nat) :
    Nat → List Sample → Bool
  | _, [] => false
  | back, sample :: older =>
      if type.known sample.data then
        decide (sample.age timestamp ≤ maxAge) &&
          leavesFrom type timestamp maxAge rear (back + 1) older
      else
        (decide (slot bufferLen rear back = 0) && !older.isEmpty) ||
          leavesFrom type timestamp maxAge rear (back + 1) older

def Queue.leavesBuffer (queue : Queue) (type : QueueType) (timestamp : Nat) (maxAge : Int) : Bool :=
  leavesFrom type timestamp maxAge queue.rear 0 queue.taken

theorem toInt16_of_mem {number : Int} (low : -(2 ^ 15) ≤ number) (high : number < 2 ^ 15) :
    toInt16 number = number := by
  rw [toInt16]
  omega

theorem toInt32_of_mem {number : Int} (low : 0 ≤ number) (high : number < 2 ^ 31) :
    toInt32 number = number := by
  rw [toInt32]
  omega

theorem toInt8_mem (number : Int) : -(2 ^ 7) ≤ toInt8 number ∧ toInt8 number < 2 ^ 7 := by
  rw [toInt8]
  omega

theorem sampleValue_unknown {type : QueueType} {qual : Nat} (wide : qual < 2 ^ 16) :
    ((type = .mic ∧ sampleValue type qual = unknownQuality) ∨
      (type = .linkQuality ∧ sampleValue type qual = unknownLinkQuality)) ↔
      type.known qual = false := by
  cases type with
  | rssi =>
    refine iff_of_false (fun unknown => ?_) Bool.noConfusion
    exact unknown.elim (fun mic => QueueType.noConfusion mic.1)
      fun link => QueueType.noConfusion link.1
  | mic =>
    simp only [QueueType.known, sampleValue, toInt16, unknownQuality, true_and, reduceCtorEq,
      false_and, or_false, bne_eq_false_iff_eq]
    omega
  | linkQuality =>
    simp only [QueueType.known, sampleValue, toInt16, unknownLinkQuality, true_and,
      reduceCtorEq, false_and, false_or, bne_eq_false_iff_eq]
    omega

theorem sampleWeight_pos {halfLife dt : Int} (alive : 0 < halfLife) (past : 0 ≤ dt)
    (young : dt ≤ 6 * halfLife) : 0 < sampleWeight halfLife dt := by
  have quotient : 0 ≤ dt.tdiv halfLife ∧ dt.tdiv halfLife ≤ 6 := by
    rw [Int.tdiv_eq_ediv_of_nonneg past]
    exact ⟨Int.ediv_nonneg past alive.le, Int.ediv_le_of_le_mul alive young⟩
  rw [sampleWeight]
  generalize dt.tdiv halfLife = quotient' at quotient
  obtain ⟨low, high⟩ := quotient
  have cases : quotient' = 0 ∨ quotient' = 1 ∨ quotient' = 2 ∨ quotient' = 3 ∨ quotient' = 4 ∨
      quotient' = 5 ∨ quotient' = 6 := by omega
  rcases cases with rfl | rfl | rfl | rfl | rfl | rfl | rfl <;>
    (split
     · decide
     · split <;> decide)

section Rounding

variable {num denom : Int}

/-- What `ROUND` makes of a quotient that is not negative. -/
theorem round_of_nonneg (positive : 0 < denom) (nonneg : 0 ≤ num) :
    (2 * round num denom - 1) * denom ≤ 2 * num ∧ 2 * num < (2 * round num denom + 1) * denom := by
  rw [round, if_neg (Int.not_lt.mpr nonneg), Int.tdiv_eq_ediv_of_nonneg (by omega),
    Int.shiftRight_eq_div_pow]
  have low := Int.ediv_mul_le (num * 2) positive.ne'
  have high := Int.lt_ediv_add_one_mul_self (num * 2) positive
  generalize num * 2 / denom = quotient at low high
  have half : 2 * ((quotient + 1) / ((2 ^ 1 : Nat) : Int)) - 1 ≤ quotient ∧
      quotient + 1 ≤ 2 * ((quotient + 1) / ((2 ^ 1 : Nat) : Int)) + 1 := by omega
  have first := mul_le_mul_of_nonneg_right half.1 positive.le
  have second := mul_le_mul_of_nonneg_right half.2 positive.le
  constructor <;> linarith

theorem round_of_neg (positive : 0 < denom) (negative : num < 0) :
    round num denom * denom < num ∧ num ≤ (round num denom + 1) * denom := by
  have flipped : (num * 2).tdiv denom = -((-num * 2) / denom) := by
    rw [← Int.tdiv_eq_ediv_of_nonneg (by omega), neg_mul, Int.neg_tdiv, neg_neg]
  rw [round, if_pos negative, flipped, Int.shiftRight_eq_div_pow]
  have low := Int.ediv_mul_le (-num * 2) positive.ne'
  have high := Int.lt_ediv_add_one_mul_self (-num * 2) positive
  generalize -num * 2 / denom = quotient at low high
  have half : quotient + 1 ≤ -2 * ((-quotient - 1) / ((2 ^ 1 : Nat) : Int)) ∧
      -2 * ((-quotient - 1) / ((2 ^ 1 : Nat) : Int)) ≤ quotient + 2 := by omega
  have first := mul_le_mul_of_nonneg_right half.1 positive.le
  have second := mul_le_mul_of_nonneg_right half.2 positive.le
  constructor <;> linarith

end Rounding

section FilterLoop

variable {queue : Queue} {type : QueueType} {timestamp : Nat} {halfLife maxAge : Int}

def Sample.weight (timestamp : Nat) (halfLife : Int) (sample : Sample) : Nat :=
  sampleWeight halfLife (sample.age timestamp)

def Sample.read (type : QueueType) (sample : Sample) : Int := sampleValue type sample.data

theorem index_back {index : Nat} (inside : index < bufferLen) :
    ((if (index : Int) = 0 then (bufferLen : Int) else index) - 1).tmod bufferLen =
      ((((if index = 0 then bufferLen else index) - 1) % bufferLen : Nat) : Int) := by
  rw [bufferLen] at inside ⊢
  by_cases first : index = 0
  · rw [first]
    rfl
  · rw [if_neg (by omega), if_neg first, Int.tmod_eq_emod_of_nonneg (by omega)]
    omega

section

variable (aligned : queue.Aligned timestamp)

include aligned

/-- What the loop does at a sample.  Behind an unknown sample in the first slot it goes on in
front of the buffer. -/
theorem filterLoop_cons (clock : timestamp < 2 ^ 32) (young : queue.outlived timestamp = false)
    {sample : Sample} {older : List Sample} {back : Nat}
    (left : queue.taken.drop back = sample :: older) (totVal : Int) (weights : Nat) :
    filterLoop timestamp queue halfLife maxAge type (older.length + 1)
        (slot bufferLen queue.rear back) totVal weights =
      if type.known sample.data then
        if sample.age timestamp ≤ maxAge then
          filterLoop timestamp queue halfLife maxAge type older.length
            (slot bufferLen queue.rear (back + 1))
            (totVal + sample.weight timestamp halfLife * sample.read type)
            (weights + sample.weight timestamp halfLife)
        else some (totVal, weights)
      else filterLoop timestamp queue halfLife maxAge type older.length
        (if slot bufferLen queue.rear back = 0 then -1
          else (slot bufferLen queue.rear (back + 1) : Int)) totVal weights := by
  have member : sample ∈ queue.taken := List.mem_of_mem_drop (left ▸ List.mem_cons_self)
  have holds := aligned.holds (List.ne_nil_of_mem member)
  have within : back < queue.taken.length := by
    have lengths := congrArg List.length left
    rw [List.length_drop, List.length_cons] at lengths
    omega
  have here : queue.taken[back] = sample := by
    have heads := congrArg (·[0]?) left
    simpa [within] using heads
  have based := aligned.based sample member
  have past := aligned.past sample member
  have wide := aligned.wide sample member
  have held := holds.held back (by rwa [List.length_map])
  rw [List.getElem_map, here] at held
  have lengthLe := aligned.length_le
  have slotLt := @RingBuffer.slot_lt bufferLen queue.rear back holds.rear_lt
  have time : (sample.time - queue.baseTime + queue.baseTime) % 2 ^ 32 = sample.time := by
    rw [Nat.sub_add_cancel based.1, Nat.mod_eq_of_lt (by omega)]
  have fits : sample.age timestamp < 2 ^ 31 := by
    by_contra old
    have outlived : queue.outlived timestamp = true :=
      List.any_eq_true.mpr ⟨sample, member, decide_eq_true (Int.not_lt.mp old)⟩
    exact absurd (young.symm.trans outlived) Bool.false_ne_true
  have nonneg : 0 ≤ sample.age timestamp := by
    rw [Sample.age]
    omega
  have dt : toInt32 ((timestamp : Int) - sample.time) = sample.age timestamp :=
    toInt32_of_mem nonneg fits
  have unknown := @sampleValue_unknown type sample.data wide
  have step := RingBuffer.slot_back holds.rear_lt (Nat.lt_of_lt_of_le within lengthLe)
  rw [filterLoop, if_neg (by omega)]
  simp only [Int.toNat_natCast, held, Sample.stored, time, dt, unknown]
  cases known : type.known sample.data with
  | false =>
    rw [if_pos rfl, if_neg Bool.false_ne_true]
    by_cases first : slot bufferLen queue.rear back = 0
    · rw [if_pos first, first]
      rfl
    · rw [if_neg first, step, ← index_back slotLt, if_neg (by omega)]
  | true =>
    rw [if_neg (Bool.noConfusion : ¬ true = false), if_pos rfl]
    by_cases fresh : sample.age timestamp ≤ maxAge
    · rw [if_neg (Int.not_lt.mpr fresh), if_pos fresh, step, ← index_back slotLt]
      rfl
    · rw [if_pos (Int.not_le.mp fresh), if_neg fresh]

theorem filterLoop_total (clock : timestamp < 2 ^ 32) (young : queue.outlived timestamp = false)
    (rest : List Sample) (back : Nat) (left : queue.taken.drop back = rest)
    (stays : leavesFrom type timestamp maxAge queue.rear back rest = false) (index : Int)
    (placed : rest ≠ [] → index = slot bufferLen queue.rear back) (totVal : Int) (weights : Nat) :
    filterLoop timestamp queue halfLife maxAge type rest.length index totVal weights =
      some (totVal + total (Sample.weight timestamp halfLife) (Sample.read type)
          (usable type timestamp maxAge rest),
        weights + totalWeight (Sample.weight timestamp halfLife)
          (usable type timestamp maxAge rest)) := by
  induction rest generalizing back index totVal weights with
  | nil =>
    rw [List.length_nil, filterLoop, usable, List.filter_nil, total, totalWeight, add_zero,
      Nat.add_zero]
  | cons sample older ih =>
    have behind : queue.taken.drop (back + 1) = older := by
      rw [← List.tail_drop, left, List.tail_cons]
    rw [placed (List.cons_ne_nil _ _), List.length_cons, filterLoop_cons aligned clock young left]
    rw [leavesFrom] at stays
    cases known : type.known sample.data with
    | false =>
      rw [if_neg Bool.false_ne_true]
      rw [known, if_neg Bool.false_ne_true, Bool.or_eq_false_iff] at stays
      rw [ih (back + 1) behind stays.2 _ (fun some => ?_)]
      · rw [usable, usable, List.filter_cons_of_neg
          (by rw [Sample.counts, known, Bool.false_and]; exact Bool.false_ne_true)]
      · refine if_neg fun first => ?_
        have stays := stays.1
        rw [decide_eq_true first, Bool.true_and, Bool.not_eq_false', List.isEmpty_iff] at stays
        exact some stays
    | true =>
      rw [if_pos rfl]
      rw [known, if_pos rfl] at stays
      by_cases fresh : sample.age timestamp ≤ maxAge
      · rw [decide_eq_true fresh, Bool.true_and] at stays
        rw [if_pos fresh, ih (back + 1) behind stays _ (fun _ => rfl)]
        rw [usable, usable, List.filter_cons_of_pos
          (by rw [Sample.counts, known, Bool.true_and]; exact decide_eq_true fresh),
          total, totalWeight, add_assoc, Nat.add_assoc]
      · -- All older samples are too old as well.
        have none : usable type timestamp maxAge (sample :: older) = [] := by
          refine List.filter_eq_nil_iff.mpr fun other among counts => fresh ?_
          have sorted := aligned.sorted.sublist (List.drop_sublist back queue.taken)
          rw [left] at sorted
          have before : other.time ≤ sample.time := by
            cases List.mem_cons.mp among with
            | inl same => rw [same]
            | inr among => exact (List.pairwise_cons.mp sorted).1 other among
          rw [Sample.counts, Bool.and_eq_true, decide_eq_true_eq] at counts
          have age := counts.2
          rw [Sample.age] at age ⊢
          omega
        rw [if_neg fresh, none, total, totalWeight, add_zero, Nat.add_zero]

theorem weight_pos (alive : 0 < halfLife) (ages : maxAge ≤ 6 * halfLife) {sample : Sample}
    (member : sample ∈ usable type timestamp maxAge queue.taken) :
    0 < sample.weight timestamp halfLife := by
  obtain ⟨taken, counts⟩ := List.mem_filter.mp member
  rw [Sample.counts, Bool.and_eq_true, decide_eq_true_eq] at counts
  have past := aligned.past sample taken
  refine sampleWeight_pos alive ?_ (counts.2.trans ages)
  rw [Sample.age]
  omega

theorem totalWeight_usable_pos (alive : 0 < halfLife) (ages : maxAge ≤ 6 * halfLife)
    (some : usable type timestamp maxAge queue.taken ≠ []) :
    0 < totalWeight (Sample.weight timestamp halfLife)
      (usable type timestamp maxAge queue.taken) :=
  WeightedAverage.totalWeight_pos (fun _ member => weight_pos aligned alive ages member) some

theorem filter_eq (clock : timestamp < 2 ^ 32) (young : queue.outlived timestamp = false)
    (stays : queue.leavesBuffer type timestamp maxAge = false) (alive : 0 < halfLife)
    (ages : maxAge ≤ 6 * halfLife) :
    filter timestamp queue halfLife maxAge type =
      some (if usable type timestamp maxAge queue.taken = [] then hdmaInvalid
        else toInt16 (round
          (total (Sample.weight timestamp halfLife) (Sample.read type)
            (usable type timestamp maxAge queue.taken))
          (totalWeight (Sample.weight timestamp halfLife)
            (usable type timestamp maxAge queue.taken)))) := by
  rw [filter]
  by_cases more : queue.taken = []
  · rw [aligned.size_eq_zero.mpr more, filterLoop, Option.map_some, more]
    rfl
  · have rearLt := (aligned.holds more).rear_lt
    have totals := @filterLoop_total queue type timestamp halfLife maxAge aligned clock young
      queue.taken 0 List.drop_zero stays queue.rear
      (fun _ => by rw [RingBuffer.slot_zero rearLt]) 0 0
    rw [aligned.size, totals, Option.map_some, zero_add, Nat.zero_add]
    by_cases none : usable type timestamp maxAge queue.taken = []
    · rw [none, if_pos rfl]
      rfl
    · rw [if_neg none, if_pos (totalWeight_usable_pos aligned alive ages none)]

end

/-- The exact average that a filter stands for. -/
def averageOf (type : QueueType) (timestamp : Nat) (halfLife : Int) (samples : List Sample) : ℚ :=
  average (Sample.weight timestamp halfLife) (fun sample => type.value sample.data) samples

end FilterLoop

section Outcomes

variable {type : QueueType} {timestamp : Nat} {halfLife : Int} {samples : List Sample}

theorem total_read {offset : Int}
    (off : ∀ sample ∈ samples, sample.read type = type.value sample.data + offset)
    (weights : 0 < totalWeight (Sample.weight timestamp halfLife) samples) :
    ((total (Sample.weight timestamp halfLife) (Sample.read type) samples : Int) : ℚ) /
        (totalWeight (Sample.weight timestamp halfLife) samples : Nat) =
      averageOf type timestamp halfLife samples + offset := by
  have apart : ((totalWeight (Sample.weight timestamp halfLife) samples : Nat) : ℚ) ≠ 0 :=
    Nat.cast_ne_zero.mpr weights.ne'
  rw [WeightedAverage.total_add off, averageOf, average]
  push_cast
  rw [add_div, mul_div_cancel_left₀ _ apart]

variable {num : Int} {weights : Nat}

theorem nearest_round (positive : 0 < weights) (nonneg : 0 ≤ num) :
    Nearest (round num weights) ((num : ℚ) / weights) := by
  have bounds := round_of_nonneg (Int.natCast_pos.mpr positive) nonneg
  have low : (2 * (round num weights : ℚ) - 1) * weights ≤ 2 * num := by exact_mod_cast bounds.1
  have high : 2 * (num : ℚ) < (2 * (round num weights : ℚ) + 1) * weights := by
    exact_mod_cast bounds.2
  have positive' : (0 : ℚ) < weights := Nat.cast_pos.mpr positive
  constructor
  · rw [le_div_iff₀ positive']
    linarith
  · rw [div_lt_iff₀ positive']
    linarith

theorem nextBelow_round (positive : 0 < weights) (negative : num < 0) :
    NextBelow (round num weights) ((num : ℚ) / weights) := by
  have bounds := round_of_neg (Int.natCast_pos.mpr positive) negative
  have low : (round num weights : ℚ) * weights < num := by exact_mod_cast bounds.1
  have high : (num : ℚ) ≤ ((round num weights : ℚ) + 1) * weights := by exact_mod_cast bounds.2
  have positive' : (0 : ℚ) < weights := Nat.cast_pos.mpr positive
  constructor
  · rwa [lt_div_iff₀ positive']
  · rwa [div_le_iff₀ positive']

end Outcomes

end HeadsetAdk.Hdma
