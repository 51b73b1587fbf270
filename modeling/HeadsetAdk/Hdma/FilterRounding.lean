import HeadsetAdk.Hdma.Evidence
import Mathlib.Data.List.Infix

/-! # Where a filter finds the rounded mean -/

namespace HeadsetAdk.Hdma

open RingBuffer (slot)
open WeightedAverage (total totalWeight average Nearest NextBelow RoundedMean CloseAbove)

section Definitions

variable (type : QueueType) (level : Level) (timestamp : Nat) (taken : List Sample)

def weightAt : Sample → Nat := Sample.weight timestamp (type.thresholds.halfLife.ofLevel level)

/-- The rounded mean of the samples that count -/
def MeanOf (val : Int) : Prop :=
  RoundedMean (weightAt type level timestamp) (fun sample => type.value sample.data)
    (usableAt type level timestamp taken) val

/-- The totals stay in 31 bits, so that twice a total is in range too. -/
def NoOverflow : Prop :=
  ∀ part, part <+: usableAt type level timestamp taken →
    -(2 ^ 30) ≤ total (weightAt type level timestamp) (Sample.read type) part ∧
      total (weightAt type level timestamp) (Sample.read type) part < 2 ^ 30 ∧
      totalWeight (weightAt type level timestamp) part < 2 ^ 14

def FiltersRight (queue : Queue) : Prop :=
  usableAt type level timestamp queue.taken ≠ [] →
    NoOverflow type level timestamp queue.taken ∧
      ∃ val, (filterAt type level timestamp queue).map type.result = some val ∧
        MeanOf type level timestamp queue.taken val

def MixedSigns : Prop :=
  (∃ sample ∈ usableAt .linkQuality level timestamp taken, sample.data < 2 ^ 15) ∧
    ∃ sample ∈ usableAt .linkQuality level timestamp taken, 2 ^ 15 ≤ sample.data

/-- The samples are read as negative on the average. -/
def ReadNegative : Prop :=
  match type with
  | .rssi => averageAt .rssi level timestamp taken < 0
  | .mic => False
  | .linkQuality => ∃ sample ∈ usableAt .linkQuality level timestamp taken, 2 ^ 15 ≤ sample.data

structure ReadsRight (queue : Queue) : Prop where
  stays : queue.leavesBuffer type timestamp (type.thresholds.maxAge.ofLevel level) = false
  alike : type = .linkQuality → ¬ MixedSigns level timestamp queue.taken
  close : ReadNegative type level timestamp queue.taken →
    CloseAbove (averageAt type level timestamp queue.taken)

end Definitions

section Bounds

variable {type : QueueType} {level : Level} {timestamp : Nat} {queue : Queue}

theorem sampleWeight_le {halfLife dt : Int} (alive : 0 < halfLife) (past : 0 ≤ dt) :
    sampleWeight halfLife dt ≤ 2 ^ 10 := by
  have quotient : 0 ≤ dt.tdiv halfLife := Int.tdiv_nonneg past alive.le
  rw [sampleWeight]
  have power : (if 10 - min (dt.tdiv halfLife) 10 < 16 then
      2 ^ (10 - min (dt.tdiv halfLife) 10).toNat else 0) ≤ 2 ^ 10 := by
    split
    · exact Nat.pow_le_pow_right (by decide) (by omega)
    · exact Nat.zero_le _
  generalize (if 10 - min (dt.tdiv halfLife) 10 < 16 then
    2 ^ (10 - min (dt.tdiv halfLife) 10).toNat else 0) = weight at power
  simp only [Nat.shiftRight_eq_div_pow]
  split
  · omega
  · split <;> omega

theorem read_mem (sample : Sample) : -(2 ^ 15) ≤ sample.read type ∧ sample.read type ≤ 2 ^ 15 := by
  cases type <;> simp only [Sample.read, sampleValue, toInt16] <;> omega

section

variable (aligned : queue.Aligned timestamp)

include aligned

theorem partWeight_le {part : List Sample}
    (among : part.Sublist (usableAt type level timestamp queue.taken)) :
    totalWeight (weightAt type level timestamp) part ≤ 10240 := by
  have whole := among.trans List.filter_sublist
  calc totalWeight (weightAt type level timestamp) part
      ≤ part.length * 2 ^ 10 := WeightedAverage.totalWeight_le fun sample member => by
        have past := aligned.past sample (whole.mem member)
        exact sampleWeight_le (halfLife_pos type level) (by rw [Sample.age]; omega)
    _ ≤ bufferLen * 2 ^ 10 :=
        Nat.mul_le_mul_right _ (whole.length_le.trans aligned.length_le)

theorem noOverflow : NoOverflow type level timestamp queue.taken := by
  intro part among
  have weights := partWeight_le aligned among.sublist
  have low := @WeightedAverage.le_total _ (weightAt type level timestamp) _ part _
    fun sample _ => (@read_mem type sample).1
  have high := @WeightedAverage.total_le _ (weightAt type level timestamp) _ part _
    fun sample _ => (@read_mem type sample).2
  omega

theorem heard_of_usable (clock : timestamp < 2 ^ 32)
    (some : usableAt type level timestamp queue.taken ≠ []) : queue.Heard timestamp := by
  refine ⟨aligned, clock, Bool.eq_false_iff.mpr fun outlived => ?_⟩
  obtain ⟨old, among, age⟩ := List.any_eq_true.mp outlived
  obtain ⟨young, counts⟩ := List.exists_mem_of_ne_nil _ some
  obtain ⟨taken, counts⟩ := List.mem_filter.mp counts
  rw [Sample.counts, Bool.and_eq_true, decide_eq_true_eq] at counts
  have limit : type.thresholds.maxAge.ofLevel level ≤ 30000 := by
    cases type <;> cases level <;> decide
  have base := aligned.based old among
  have base' := aligned.based young taken
  have fresh := counts.2
  replace age := of_decide_eq_true age
  rw [Sample.age] at age fresh
  omega

end

end Bounds

section Leaving

variable {type : QueueType} {timestamp : Nat} {halfLife maxAge : Int} {queue : Queue}

section

variable (aligned : queue.Aligned timestamp) (clock : timestamp < 2 ^ 32)
  (young : queue.outlived timestamp = false)

include aligned clock young

theorem filterLoop_none (rest : List Sample) (back : Nat) (left : queue.taken.drop back = rest)
    (leaves : leavesFrom type timestamp maxAge queue.rear back rest = true) (totVal : Int)
    (weights : Nat) :
    filterLoop timestamp queue halfLife maxAge type rest.length (slot bufferLen queue.rear back)
      totVal weights = none := by
  induction rest generalizing back totVal weights with
  | nil => exact absurd leaves Bool.false_ne_true
  | cons sample older ih =>
    have behind : queue.taken.drop (back + 1) = older := by
      rw [← List.tail_drop, left, List.tail_cons]
    rw [List.length_cons, filterLoop_cons aligned clock young left]
    rw [leavesFrom] at leaves
    cases known : type.known sample.data with
    | true =>
      rw [known, if_pos rfl, Bool.and_eq_true, decide_eq_true_eq] at leaves
      rw [if_pos rfl, if_pos leaves.1]
      exact ih (back + 1) behind leaves.2 _ _
    | false =>
      rw [known, if_neg Bool.false_ne_true] at leaves
      rw [if_neg Bool.false_ne_true]
      by_cases first : slot bufferLen queue.rear back = 0
      · -- Behind the first slot there is something left to read.
        obtain ⟨next, others, more⟩ : ∃ next others, older = next :: others := by
          cases older with
          | nil => exact absurd leaves (by rw [leavesFrom]; simp)
          | cons next others => exact ⟨next, others, rfl⟩
        rw [if_pos first, more, List.length_cons, filterLoop, if_pos (by decide)]
      · rw [decide_eq_false first, Bool.false_and, Bool.false_or] at leaves
        rw [if_neg first]
        exact ih (back + 1) behind leaves _ _

theorem filter_none (leaves : queue.leavesBuffer type timestamp maxAge = true) :
    filter timestamp queue halfLife maxAge type = none := by
  have more : queue.taken ≠ [] := by
    intro none
    rw [Queue.leavesBuffer, none] at leaves
    exact absurd leaves Bool.false_ne_true
  have loop := @filterLoop_none type timestamp halfLife maxAge queue aligned clock young
    queue.taken 0 List.drop_zero leaves 0 0
  rw [RingBuffer.slot_zero (aligned.holds more).rear_lt] at loop
  rw [filter, aligned.size, loop, Option.map_none]

end

theorem filterLoop_front (front count : Nat) (index totVal : Int) (weights : Nat) :
    filterLoop timestamp { queue with front := front } halfLife maxAge type count index totVal
      weights = filterLoop timestamp queue halfLife maxAge type count index totVal weights := by
  induction count generalizing index totVal weights with
  | zero => rfl
  | succ count ih => simp only [filterLoop, ih]

end Leaving

section Rounding

variable {type : QueueType} {level : Level} {timestamp : Nat} {queue : Queue}

theorem readRound_near (positive : 0 < readWeight type level timestamp queue.taken) :
    (readRound type level timestamp queue.taken : ℚ) - 1 ≤
        (readTotal type level timestamp queue.taken : Int) /
          (readWeight type level timestamp queue.taken : Nat) ∧
      ((readTotal type level timestamp queue.taken : Int) : ℚ) /
          (readWeight type level timestamp queue.taken : Nat) ≤
        readRound type level timestamp queue.taken + 1 := by
  rw [readRound]
  rcases lt_or_ge (readTotal type level timestamp queue.taken) 0 with negative | nonneg
  · obtain ⟨low, high⟩ := nextBelow_round positive negative
    exact ⟨by linarith, high⟩
  · obtain ⟨low, high⟩ := nearest_round positive nonneg
    constructor <;> linarith

theorem not_meanOf_mixed (heard : queue.Heard timestamp)
    (mixed : MixedSigns level timestamp queue.taken) :
    ¬ MeanOf .linkQuality level timestamp queue.taken
      (toUInt16 (readRound .linkQuality level timestamp queue.taken)) := by
  obtain ⟨⟨low, lowMem, lowData⟩, high, highMem, highData⟩ := mixed
  have split := @WeightedAverage.totalWeight_filter _ (weightAt .linkQuality level timestamp)
    (usableAt .linkQuality level timestamp queue.taken) fun sample => decide (2 ^ 15 ≤ sample.data)
  have weighs (chosen : Sample → Bool) {sample : Sample}
      (member : sample ∈ usableAt .linkQuality level timestamp queue.taken)
      (choice : chosen sample = true) : 0 < totalWeight (weightAt .linkQuality level timestamp)
        ((usableAt .linkQuality level timestamp queue.taken).filter chosen) :=
    WeightedAverage.totalWeight_pos (fun _ among => weight_pos heard.aligned
      (halfLife_pos .linkQuality level) (maxAge_le .linkQuality level)
      (List.mem_of_mem_filter among))
      (List.ne_nil_of_mem (List.mem_filter.mpr ⟨member, choice⟩))
  have heavy := weighs (fun sample => decide (2 ^ 15 ≤ sample.data)) highMem (by simpa)
  have light := weighs (fun sample => !decide (2 ^ 15 ≤ sample.data)) lowMem (by simpa)
  have misread := @WeightedAverage.total_chosen _ (weightAt .linkQuality level timestamp)
    (fun sample => QueueType.linkQuality.value sample.data)
    (usableAt .linkQuality level timestamp queue.taken) (Sample.read .linkQuality) (-65536)
    (fun sample => decide (2 ^ 15 ≤ sample.data)) fun sample member => by
      have wide := heard.aligned.wide sample (List.mem_of_mem_filter member)
      simp only [Sample.read, sampleValue, toInt16, QueueType.value, decide_eq_true_eq]
      split <;> omega
  obtain ⟨fits, fits'⟩ := readRound_near (readWeight_pos heard (List.ne_nil_of_mem lowMem))
  have few := @partWeight_le .linkQuality level _ _ heard.aligned _ (List.Sublist.refl _)
  have wraps : toUInt16 (readRound .linkQuality level timestamp queue.taken) =
      readRound .linkQuality level timestamp queue.taken +
        65536 * -(readRound .linkQuality level timestamp queue.taken / 65536) := by
    rw [toUInt16]
    omega
  rw [wraps]
  exact WeightedAverage.not_roundedMean_of_part heavy (by omega)
    (misread.trans (by rw [mul_neg]; rfl)) (by omega) fits fits'

section

variable (heard : queue.Heard timestamp) (some : usableAt type level timestamp queue.taken ≠ [])

include heard some

theorem filtersRight_of_stays
    (stays : queue.leavesBuffer type timestamp (type.thresholds.maxAge.ofLevel level) = false) :
    FiltersRight type level timestamp queue ↔ MeanOf type level timestamp queue.taken
        (type.result (toInt16 (readRound type level timestamp queue.taken))) := by
  rw [FiltersRight, filterAt_eq heard stays, if_neg some, Option.map_some]
  constructor
  · intro right
    obtain ⟨_, val, found, mean⟩ := right some
    exact Option.some.inj found ▸ mean
  · exact fun mean _ => ⟨noOverflow heard.aligned, _, rfl, mean⟩

theorem meanOf_result_iff (range : type = .mic → ∀ sample ∈ queue.taken, sample.data < 2 ^ 8) :
    MeanOf type level timestamp queue.taken
        (type.result (toInt16 (readRound type level timestamp queue.taken))) ↔
      (type = .linkQuality → ¬ MixedSigns level timestamp queue.taken) ∧
        (ReadNegative type level timestamp queue.taken →
          CloseAbove (averageAt type level timestamp queue.taken)) := by
  have positive := readWeight_pos heard some
  cases type with
  | rssi =>
    obtain ⟨result, ⟨negative, next⟩ | ⟨nonneg, nearest⟩⟩ := readRound_rssi heard some
    · rw [show QueueType.rssi.result (toInt16 _) = _ from result]
      exact (next.roundedMean_iff positive).trans
        ⟨fun close => ⟨QueueType.noConfusion, fun _ => close⟩, fun reads => reads.2 negative⟩
    · rw [show QueueType.rssi.result (toInt16 _) = _ from result]
      exact iff_of_true (nearest.roundedMean positive)
        ⟨QueueType.noConfusion, fun negative => absurd nonneg (not_le.mpr negative)⟩
  | mic =>
    obtain ⟨result, _, nearest⟩ := @readRound_nearest _ .mic level _ heard some 255 (by decide)
      fun sample member => by
        have narrow := range rfl sample (List.mem_of_mem_filter member)
        have same : sample.read .mic = sample.data := toInt16_of_mem (by omega) (by omega)
        exact ⟨same, by omega⟩
    rw [result]
    exact iff_of_true (nearest.roundedMean positive)
      ⟨QueueType.noConfusion, fun negative => negative.elim⟩
  | linkQuality =>
    rw [QueueType.result, toUInt16_toInt16]
    by_cases low : ∃ sample ∈ usableAt .linkQuality level timestamp queue.taken,
        sample.data < 2 ^ 15
    · by_cases high : ∃ sample ∈ usableAt .linkQuality level timestamp queue.taken,
          2 ^ 15 ≤ sample.data
      · exact iff_of_false (not_meanOf_mixed heard ⟨low, high⟩) fun reads =>
          reads.1 rfl ⟨low, high⟩
      · refine iff_of_true
          ((readRound_low heard some fun sample member => ?_).2.roundedMean positive)
          ⟨fun _ mixed => high mixed.2, fun negative => absurd negative high⟩
        by_contra more
        exact high ⟨sample, member, Nat.not_lt.mp more⟩
    · push Not at low
      obtain ⟨sample, member⟩ := List.exists_mem_of_ne_nil _ some
      refine ((readRound_high heard some low).2.roundedMean_iff positive).trans
        ⟨fun close => ⟨fun _ mixed => ?_, fun _ => close⟩,
          fun reads => reads.2 ⟨sample, member, low sample member⟩⟩
      obtain ⟨other, among, less⟩ := mixed.1
      exact absurd less (Nat.not_lt.mpr (low other among))

end

theorem filtersRight_aligned (aligned : queue.Aligned timestamp) (clock : timestamp < 2 ^ 32)
    (range : type = .mic → ∀ sample ∈ queue.taken, sample.data < 2 ^ 8) :
    FiltersRight type level timestamp queue ↔
      (usableAt type level timestamp queue.taken ≠ [] → ReadsRight type level timestamp queue) := by
  by_cases none : usableAt type level timestamp queue.taken = []
  · exact iff_of_true (fun some => absurd none some) fun some => absurd none some
  have heard := heard_of_usable aligned clock none
  cases leaves : queue.leavesBuffer type timestamp (type.thresholds.maxAge.ofLevel level) with
  | true =>
    refine iff_of_false (fun right => ?_) fun reads => ?_
    · obtain ⟨_, val, found, _⟩ := right none
      rw [filterAt, filter_none aligned clock heard.young leaves] at found
      exact absurd found (Option.some_ne_none val).symm
    · exact Bool.false_ne_true ((reads none).stays.symm.trans leaves)
  | false =>
    rw [filtersRight_of_stays heard none leaves, meanOf_result_iff heard none range]
    exact ⟨fun reads _ => ⟨leaves, reads.1, reads.2⟩,
      fun reads => ⟨(reads none).alike, (reads none).close⟩⟩

/-- A filter gives the rounded mean of the samples that count, with no overflow on the way, if
and only if it reads them right. -/
theorem filtersRight_iff (front : Nat)
    (aligned : ({ queue with front := front } : Queue).Aligned timestamp)
    (clock : timestamp < 2 ^ 32)
    (range : type = .mic → ∀ sample ∈ queue.taken, sample.data < 2 ^ 8) :
    FiltersRight type level timestamp queue ↔
      (usableAt type level timestamp queue.taken ≠ [] → ReadsRight type level timestamp queue) := by
  have same : FiltersRight type level timestamp { queue with front := front } ↔
      FiltersRight type level timestamp queue := by
    simp only [FiltersRight, filterAt, filter, filterLoop_front]
  exact same.symm.trans ((filtersRight_aligned aligned clock range).trans
    (forall_congr' fun _ =>
      ⟨fun reads => ⟨reads.stays, reads.alike, reads.close⟩,
        fun reads => ⟨reads.stays, reads.alike, reads.close⟩⟩))

/-- A queue with one sample, of a phone at -60 dBm -/
def weakPhone : Queue where
  quality := fun _ => ⟨0, 65476⟩
  baseTime := 1000
  rear := 0
  front := 0
  size := 1
  taken := [⟨1000, 65476⟩]

theorem weakPhone_aligned : weakPhone.Aligned 1000 where
  size := rfl
  front_empty := fun empty => absurd empty (List.cons_ne_nil _ _)
  front := fun _ => rfl
  holds := fun _ => RingBuffer.Holds.single (by decide) rfl
  based := by decide
  sorted := by decide
  past := by decide
  wide := by decide

theorem filtersRight_iff_weakPhone :
    FiltersRight .rssi .low 1000 weakPhone ↔
      (usableAt .rssi .low 1000 weakPhone.taken ≠ [] → ReadsRight .rssi .low 1000 weakPhone) :=
  filtersRight_iff 0 weakPhone_aligned (by decide) QueueType.noConfusion

/-- The mean of a single sample of -60 dBm is given as -61 dBm. -/
theorem weakPhone_filtersWrong : ¬ ∀ (type : QueueType) (level : Level) (timestamp : Nat)
    (queue : Queue), queue.Aligned timestamp → timestamp < 2 ^ 32 →
    (type = .mic → ∀ sample ∈ queue.taken, sample.data < 2 ^ 8) →
    FiltersRight type level timestamp queue := by
  intro all
  have right := all .rssi .low 1000 weakPhone weakPhone_aligned (by decide) QueueType.noConfusion
  obtain ⟨_, val, found, mean⟩ := right (by decide)
  have value : val = -61 := Option.some.inj (found.symm.trans rfl)
  obtain ⟨sample, among, least⟩ := mean.atLeast
  rw [usableAt, usable] at among
  have only := List.mem_singleton.mp (List.mem_of_mem_filter among)
  rw [value, only] at least
  exact absurd least (by decide)

end Rounding

end HeadsetAdk.Hdma
