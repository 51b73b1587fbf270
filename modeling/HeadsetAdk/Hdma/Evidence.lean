import HeadsetAdk.Hdma.Averages
import HeadsetAdk.Lib.EventLog

/-! # Handovers have evidence -/

namespace HeadsetAdk.Hdma

open RingBuffer (slot)
open WeightedAverage (total totalWeight average Nearest NextBelow)

def QueueType.thresholds : QueueType → Thresholds
  | .rssi => Hdma.rssi
  | .mic => Hdma.mic
  | .linkQuality => link

def QueueType.absolute (type : QueueType) (level : Level) : Int :=
  match type with
  | .linkQuality => toUInt16 (link.absThreshold.ofLevel level)
  | _ => type.thresholds.absThreshold.ofLevel level

/-- By how much the other average has to be better at a level. -/
def QueueType.relative (type : QueueType) (level : Level) : Int :=
  type.thresholds.relThreshold.ofLevel level

def BudInfo.queue (bud : BudInfo) : QueueType → Queue
  | .rssi => bud.phoneRSSI
  | .mic => bud.voiceQuality
  | .linkQuality => bud.linkQuality

def usableAt (type : QueueType) (level : Level) (timestamp : Nat) (taken : List Sample) :
    List Sample :=
  usable type timestamp (type.thresholds.maxAge.ofLevel level) taken

def averageAt (type : QueueType) (level : Level) (timestamp : Nat) (taken : List Sample) : ℚ :=
  averageOf type timestamp (type.thresholds.halfLife.ofLevel level)
    (usableAt type level timestamp taken)

structure Evidence (type : QueueType) (level : Level) (timestamp : Nat)
    (worse better : List Sample) : Prop where
  worse_usable : usableAt type level timestamp worse ≠ []
  better_usable : usableAt type level timestamp better ≠ []
  absolute : averageAt type level timestamp worse < type.absolute level
  relative : (type.relative level : ℚ) <
    averageAt type level timestamp better - averageAt type level timestamp worse

def EveryLevel (property : Level → Prop) : Prop :=
  property .critical ∧ property .high ∧ property .low

instance (property : Level → Prop) [∀ level, Decidable (property level)] :
    Decidable (EveryLevel property) :=
  inferInstanceAs (Decidable (_ ∧ _ ∧ _))

theorem EveryLevel.for_level {property : Level → Prop} (every : EveryLevel property)
    (level : Level) : property level := by
  cases level with
  | critical => exact every.1
  | high => exact every.2.1
  | low => exact every.2.2

section Misreadings

variable (level : Level) (timestamp : Nat) (localBud remoteBud : BudInfo)

/-- The other bud has samples, but all are too old.  They are taken for -1 dBm, which is better
than this bud's average. -/
def StaleRSSI : Prop :=
  remoteBud.phoneRSSI.taken ≠ [] ∧
    usableAt .rssi level timestamp remoteBud.phoneRSSI.taken = [] ∧
    usableAt .rssi level timestamp localBud.phoneRSSI.taken ≠ [] ∧
    averageAt .rssi level timestamp localBud.phoneRSSI.taken ≤ QueueType.absolute .rssi level

/-- This bud's average is the threshold itself; a negative one is rounded to below it. -/
def TiedRSSI : Prop :=
  usableAt .rssi level timestamp localBud.phoneRSSI.taken ≠ [] ∧
    averageAt .rssi level timestamp localBud.phoneRSSI.taken = QueueType.absolute .rssi level

def EmptyLinkQuality : Prop :=
  localBud.linkQuality.taken = [] ∧
    (QueueType.relative .linkQuality level : ℚ) <
      averageAt .linkQuality level timestamp remoteBud.linkQuality.taken

def TiedLinkQuality : Prop :=
  usableAt .linkQuality level timestamp localBud.linkQuality.taken ≠ [] ∧
    averageAt .linkQuality level timestamp localBud.linkQuality.taken =
      QueueType.absolute .linkQuality level

/-- Some samples of the bud that count are read as negative, and some are not. -/
def mixedLinkQuality (bud : BudInfo) : Bool :=
  (usableAt .linkQuality level timestamp bud.linkQuality.taken).any (fun sample =>
    decide (sample.data < 2 ^ 15)) &&
  (usableAt .linkQuality level timestamp bud.linkQuality.taken).any fun sample =>
    decide (2 ^ 15 ≤ sample.data)

/-- What goes wrong in no check of the signal strength and the link quality. -/
structure LinkReadable : Prop where
  notStale : ¬ StaleRSSI level timestamp localBud remoteBud
  notTiedRSSI : ¬ TiedRSSI level timestamp localBud
  notEmpty : ¬ EmptyLinkQuality level timestamp localBud remoteBud
  notTied : ¬ TiedLinkQuality level timestamp localBud
  notMixedLocal : mixedLinkQuality level timestamp localBud = false
  notMixedRemote : mixedLinkQuality level timestamp remoteBud = false
  staysLocal : localBud.linkQuality.leavesBuffer .linkQuality timestamp
    (link.maxAge.ofLevel level) = false
  staysRemote : remoteBud.linkQuality.leavesBuffer .linkQuality timestamp
    (link.maxAge.ofLevel level) = false

instance : Decidable (StaleRSSI level timestamp localBud remoteBud) :=
  inferInstanceAs (Decidable (_ ∧ _ ∧ _ ∧ _))

instance : Decidable (TiedRSSI level timestamp localBud) :=
  inferInstanceAs (Decidable (_ ∧ _))

instance : Decidable (EmptyLinkQuality level timestamp localBud remoteBud) :=
  inferInstanceAs (Decidable (_ ∧ _))

instance : Decidable (TiedLinkQuality level timestamp localBud) :=
  inferInstanceAs (Decidable (_ ∧ _))

instance : Decidable (LinkReadable level timestamp localBud remoteBud) :=
  decidable_of_iff
    (¬ StaleRSSI level timestamp localBud remoteBud ∧ ¬ TiedRSSI level timestamp localBud ∧
      ¬ EmptyLinkQuality level timestamp localBud remoteBud ∧
      ¬ TiedLinkQuality level timestamp localBud ∧
      mixedLinkQuality level timestamp localBud = false ∧
      mixedLinkQuality level timestamp remoteBud = false ∧
      localBud.linkQuality.leavesBuffer .linkQuality timestamp
        (link.maxAge.ofLevel level) = false ∧
      remoteBud.linkQuality.leavesBuffer .linkQuality timestamp
        (link.maxAge.ofLevel level) = false)
    ⟨fun all => ⟨all.1, all.2.1, all.2.2.1, all.2.2.2.1, all.2.2.2.2.1, all.2.2.2.2.2.1,
        all.2.2.2.2.2.2.1, all.2.2.2.2.2.2.2⟩,
      fun read => ⟨read.notStale, read.notTiedRSSI, read.notEmpty, read.notTied,
        read.notMixedLocal, read.notMixedRemote, read.staysLocal, read.staysRemote⟩⟩

end Misreadings

theorem halfLife_pos (type : QueueType) (level : Level) :
    0 < type.thresholds.halfLife.ofLevel level := by
  cases type <;> cases level <;> decide

theorem maxAge_le (type : QueueType) (level : Level) :
    type.thresholds.maxAge.ofLevel level ≤ 6 * type.thresholds.halfLife.ofLevel level := by
  cases type <;> cases level <;> decide

section Outcomes

variable {queue : Queue} {type : QueueType} {level : Level} {timestamp : Nat}

def filterAt (type : QueueType) (level : Level) (timestamp : Nat) (queue : Queue) : Option Int :=
  filter timestamp queue (type.thresholds.halfLife.ofLevel level)
    (type.thresholds.maxAge.ofLevel level) type

/-- A queue that a filter can be trusted with, but for what its type brings. -/
structure Queue.Heard (queue : Queue) (timestamp : Nat) : Prop where
  aligned : queue.Aligned timestamp
  clock : timestamp < 2 ^ 32
  young : queue.outlived timestamp = false

def readTotal (type : QueueType) (level : Level) (timestamp : Nat) (taken : List Sample) : Int :=
  total (Sample.weight timestamp (type.thresholds.halfLife.ofLevel level)) (Sample.read type)
    (usableAt type level timestamp taken)

def readWeight (type : QueueType) (level : Level) (timestamp : Nat) (taken : List Sample) : Nat :=
  totalWeight (Sample.weight timestamp (type.thresholds.halfLife.ofLevel level))
    (usableAt type level timestamp taken)

theorem readWeight_pos (heard : queue.Heard timestamp)
    (some : usableAt type level timestamp queue.taken ≠ []) :
    0 < readWeight type level timestamp queue.taken :=
  totalWeight_usable_pos heard.aligned (halfLife_pos type level) (maxAge_le type level) some

/-- The rounded average of what is read -/
def readRound (type : QueueType) (level : Level) (timestamp : Nat) (taken : List Sample) : Int :=
  round (readTotal type level timestamp taken) (readWeight type level timestamp taken)

theorem filterAt_eq (heard : queue.Heard timestamp)
    (stays : queue.leavesBuffer type timestamp (type.thresholds.maxAge.ofLevel level) = false) :
    filterAt type level timestamp queue =
      some (if usableAt type level timestamp queue.taken = [] then hdmaInvalid
        else toInt16 (readRound type level timestamp queue.taken)) :=
  filter_eq heard.aligned heard.clock heard.young stays (halfLife_pos type level)
    (maxAge_le type level)

theorem leavesFrom_of_known {maxAge : Int} {rear : Nat} {taken : List Sample}
    (known : ∀ sample ∈ taken, type.known sample.data = true) (back : Nat) :
    leavesFrom type timestamp maxAge rear back taken = false := by
  induction taken generalizing back with
  | nil => rfl
  | cons sample older ih =>
    rw [leavesFrom, if_pos (known sample List.mem_cons_self),
      ih (fun other member => known other (List.mem_cons_of_mem sample member)) (back + 1),
      Bool.and_false]

section

variable (heard : queue.Heard timestamp) (some : usableAt type level timestamp queue.taken ≠ [])

include heard some

theorem readTotal_div {offset : Int} (off : ∀ sample ∈ usableAt type level timestamp queue.taken,
      sample.read type = type.value sample.data + offset) :
    ((readTotal type level timestamp queue.taken : Int) : ℚ) /
        (readWeight type level timestamp queue.taken : Nat) =
      averageAt type level timestamp queue.taken + offset :=
  total_read off (readWeight_pos heard some)

theorem readRound_mem {low high : Int}
    (bounds : ∀ sample ∈ usableAt type level timestamp queue.taken,
      low ≤ sample.read type ∧ sample.read type ≤ high) :
    low - 1 ≤ readRound type level timestamp queue.taken ∧
      readRound type level timestamp queue.taken ≤ high := by
  have positive := readWeight_pos heard some
  have below : (readWeight type level timestamp queue.taken : Int) * low ≤
      readTotal type level timestamp queue.taken :=
    WeightedAverage.le_total fun sample member => (bounds sample member).1
  have above : readTotal type level timestamp queue.taken ≤
      (readWeight type level timestamp queue.taken : Int) * high :=
    WeightedAverage.total_le fun sample member => (bounds sample member).2
  have positive' : (0 : Int) < readWeight type level timestamp queue.taken :=
    Int.natCast_pos.mpr positive
  rw [readRound]
  generalize readTotal type level timestamp queue.taken = num at *
  generalize (readWeight type level timestamp queue.taken : Int) = weights at *
  rcases lt_or_ge num 0 with negative | nonneg
  · have rounded := round_of_neg positive' negative
    constructor
    · by_contra less
      have less : round num weights + 1 ≤ low - 1 := by omega
      have scaled := mul_le_mul_of_nonneg_right less positive'.le
      linarith
    · by_contra more
      have more : high + 1 ≤ round num weights := by omega
      have scaled := mul_le_mul_of_nonneg_right more positive'.le
      linarith
  · have rounded := round_of_nonneg positive' nonneg
    constructor
    · by_contra less
      have less : 2 * round num weights + 1 ≤ 2 * low - 1 := by omega
      have scaled := mul_le_mul_of_nonneg_right less positive'.le
      linarith
    · by_contra more
      have more : 2 * high + 1 ≤ 2 * round num weights - 1 := by omega
      have scaled := mul_le_mul_of_nonneg_right more positive'.le
      linarith

/-- What the checks take from the `int16` of a filter -/
def QueueType.result : QueueType → Int → Int
  | .linkQuality, val => toUInt16 val
  | _, val => val

theorem readRound_nearest {high : Int} (fits : high < 2 ^ 15)
    (read : ∀ sample ∈ usableAt type level timestamp queue.taken,
      sample.read type = type.value sample.data ∧ 0 ≤ sample.read type ∧ sample.read type ≤ high) :
    type.result (toInt16 (readRound type level timestamp queue.taken)) =
        readRound type level timestamp queue.taken ∧
      (0 ≤ readRound type level timestamp queue.taken ∧
        readRound type level timestamp queue.taken ≤ high) ∧
      Nearest (readRound type level timestamp queue.taken)
        (averageAt type level timestamp queue.taken) := by
  have nonneg : 0 ≤ readTotal type level timestamp queue.taken :=
    (mul_zero _).symm.le.trans (WeightedAverage.le_total fun sample member =>
      (read sample member).2.1)
  have rounded := readRound_mem heard some fun sample member => (read sample member).2
  have nearest := nearest_round (readWeight_pos heard some) nonneg
  have exactly := @readTotal_div _ _ _ _ heard some 0 fun sample member => by
    rw [add_zero]
    exact (read sample member).1
  rw [exactly, Int.cast_zero, add_zero] at nearest
  have kept : 0 ≤ readRound type level timestamp queue.taken := by
    rw [readRound, round, if_neg (Int.not_lt.mpr nonneg), Int.shiftRight_eq_div_pow]
    have quotient := Int.tdiv_nonneg (by omega :
      0 ≤ readTotal type level timestamp queue.taken * 2)
      (Int.natCast_nonneg (readWeight type level timestamp queue.taken))
    omega
  refine ⟨?_, ⟨kept, rounded.2⟩, nearest⟩
  rw [toInt16_of_mem (by omega) (by omega)]
  cases type with
  | linkQuality =>
    rw [QueueType.result, toUInt16]
    omega
  | _ => rfl

end

theorem mic_filtered (heard : queue.Heard timestamp)
    (known : ∀ sample ∈ queue.taken, sample.data < unknownQuality) :
    ∃ val, filterAt .mic level timestamp queue = some val ∧
      (usableAt .mic level timestamp queue.taken = [] → val < 0) ∧
      (usableAt .mic level timestamp queue.taken ≠ [] →
        Nearest val (averageAt .mic level timestamp queue.taken)) := by
  have stays : queue.leavesBuffer .mic timestamp
      (QueueType.mic.thresholds.maxAge.ofLevel level) = false :=
    leavesFrom_of_known (fun sample member =>
      show QueueType.mic.known sample.data = true from bne_iff_ne.mpr (known sample member).ne) 0
  refine ⟨_, filterAt_eq heard stays, fun none => ?_, fun some => ?_⟩
  · rw [if_pos none]
    decide
  · obtain ⟨result, _, nearest⟩ := @readRound_nearest _ .mic level _ heard some 254 (by decide)
      fun sample member => by
        have narrow : sample.data < 255 := known sample (List.mem_of_mem_filter member)
        have same : sample.read .mic = sample.data := toInt16_of_mem (by omega) (by omega)
        exact ⟨same, by omega⟩
    rw [if_neg some, show toInt16 _ = _ from result]
    exact nearest

theorem readRound_rssi (heard : queue.Heard timestamp)
    (some : usableAt .rssi level timestamp queue.taken ≠ []) :
    toInt16 (readRound .rssi level timestamp queue.taken) =
        readRound .rssi level timestamp queue.taken ∧
      (averageAt .rssi level timestamp queue.taken < 0 ∧
          NextBelow (readRound .rssi level timestamp queue.taken)
            (averageAt .rssi level timestamp queue.taken) ∨
        0 ≤ averageAt .rssi level timestamp queue.taken ∧
          Nearest (readRound .rssi level timestamp queue.taken)
            (averageAt .rssi level timestamp queue.taken)) := by
  have read (sample : Sample) : sample.read .rssi = toInt8 sample.data :=
    toInt16_of_mem (by have mem := toInt8_mem sample.data; omega)
      (by have mem := toInt8_mem sample.data; omega)
  have rounded := @readRound_mem _ _ _ _ heard some (-128) 127 fun sample _ => by
    rw [read sample]
    have mem := toInt8_mem sample.data
    omega
  have positive := readWeight_pos heard some
  have positive' : (0 : ℚ) < (readWeight .rssi level timestamp queue.taken : Nat) :=
    Nat.cast_pos.mpr positive
  have exactly := @readTotal_div _ _ _ _ heard some 0 fun sample _ => by
    rw [add_zero]
    exact read sample
  rw [Int.cast_zero, add_zero] at exactly
  refine ⟨toInt16_of_mem (by omega) (by omega), ?_⟩
  rw [← exactly]
  rcases lt_or_ge (readTotal .rssi level timestamp queue.taken) 0 with negative | nonneg
  · refine .inl ⟨?_, nextBelow_round positive negative⟩
    rw [div_lt_iff₀ positive', zero_mul]
    exact Int.cast_lt_zero.mpr negative
  · exact .inr ⟨div_nonneg (Int.cast_nonneg nonneg) positive'.le, nearest_round positive nonneg⟩

theorem rssi_filtered (heard : queue.Heard timestamp) :
    ∃ val, filterAt .rssi level timestamp queue = some val ∧
      (usableAt .rssi level timestamp queue.taken = [] → val = -1) ∧
      (usableAt .rssi level timestamp queue.taken ≠ [] → val < 0 →
        NextBelow val (averageAt .rssi level timestamp queue.taken)) := by
  have stays : queue.leavesBuffer .rssi timestamp
      (QueueType.rssi.thresholds.maxAge.ofLevel level) = false :=
    leavesFrom_of_known (fun _ _ => rfl) 0
  refine ⟨_, filterAt_eq heard stays, fun none => ?_, fun some => ?_⟩
  · rw [if_pos none]
    rfl
  · obtain ⟨result, ⟨_, next⟩ | ⟨nonneg, nearest⟩⟩ := readRound_rssi heard some
    · rw [if_neg some, result]
      exact fun _ => next
    · rw [if_neg some, result]
      intro negative
      have less := nearest.lt_of_lt negative
      rw [Int.cast_zero] at less
      exact absurd nonneg (not_le.mpr less)

theorem toUInt16_toInt16 (number : Int) : toUInt16 (toInt16 number) = toUInt16 number := by
  rw [toUInt16, toInt16, toUInt16]
  omega

section

variable (heard : queue.Heard timestamp)
  (some : usableAt .linkQuality level timestamp queue.taken ≠ [])

include heard some

theorem readRound_high
    (high : ∀ sample ∈ usableAt .linkQuality level timestamp queue.taken, 2 ^ 15 ≤ sample.data) :
    32767 ≤ toUInt16 (readRound .linkQuality level timestamp queue.taken) ∧
      NextBelow (toUInt16 (readRound .linkQuality level timestamp queue.taken))
        (averageAt .linkQuality level timestamp queue.taken) := by
  have read (sample : Sample)
      (member : sample ∈ usableAt .linkQuality level timestamp queue.taken) :
      sample.read .linkQuality = QueueType.linkQuality.value sample.data + (-65536) ∧
        -32768 ≤ sample.read .linkQuality ∧ sample.read .linkQuality ≤ -1 := by
    have low := high sample member
    have wide := heard.aligned.wide sample (List.mem_of_mem_filter member)
    simp only [Sample.read, sampleValue, toInt16, QueueType.value]
    omega
  have rounded := readRound_mem heard some fun sample member => (read sample member).2
  have positive := readWeight_pos heard some
  have below : readTotal .linkQuality level timestamp queue.taken < 0 := by
    have total : readTotal .linkQuality level timestamp queue.taken ≤
        (readWeight .linkQuality level timestamp queue.taken : Int) * -1 :=
      WeightedAverage.total_le fun sample member => (read sample member).2.2
    omega
  have next := (nextBelow_round positive below).add 65536
  rw [readTotal_div heard some fun sample member => (read sample member).1] at next
  have same : toUInt16 (readRound .linkQuality level timestamp queue.taken) =
      readRound .linkQuality level timestamp queue.taken + 65536 := by
    rw [toUInt16]
    omega
  rw [same]
  refine ⟨by omega, ?_⟩
  push_cast at next
  rwa [neg_add_cancel_right] at next

theorem readRound_low
    (low : ∀ sample ∈ usableAt .linkQuality level timestamp queue.taken, sample.data < 2 ^ 15) :
    toUInt16 (readRound .linkQuality level timestamp queue.taken) ≤ 32767 ∧
      Nearest (toUInt16 (readRound .linkQuality level timestamp queue.taken))
        (averageAt .linkQuality level timestamp queue.taken) := by
  obtain ⟨result, bounds, nearest⟩ := @readRound_nearest _ .linkQuality level _ heard some 32767
    (by decide) fun sample member => by
      have less := low sample member
      have same : sample.read .linkQuality = sample.data := toInt16_of_mem (by omega) (by omega)
      exact ⟨same, by omega⟩
  rw [QueueType.result, toUInt16_toInt16] at result
  rw [result]
  exact ⟨bounds.2, nearest⟩

end

theorem link_filtered (heard : queue.Heard timestamp)
    (stays : queue.leavesBuffer .linkQuality timestamp (link.maxAge.ofLevel level) = false)
    (alike : (usableAt .linkQuality level timestamp queue.taken).any (fun sample =>
        decide (sample.data < 2 ^ 15)) = false ∨
      (usableAt .linkQuality level timestamp queue.taken).any (fun sample =>
        decide (2 ^ 15 ≤ sample.data)) = false) :
    ∃ val, (filterAt .linkQuality level timestamp queue).map toUInt16 = some val ∧ 0 ≤ val ∧
      (usableAt .linkQuality level timestamp queue.taken = [] → val = 65535) ∧
      (usableAt .linkQuality level timestamp queue.taken ≠ [] →
        (val ≤ 32767 ∧ Nearest val (averageAt .linkQuality level timestamp queue.taken)) ∨
        (32767 ≤ val ∧ NextBelow val (averageAt .linkQuality level timestamp queue.taken))) := by
  refine ⟨_, congrArg (Option.map toUInt16) (filterAt_eq heard stays),
    Int.emod_nonneg _ (by decide), fun none => ?_, fun some => ?_⟩
  · rw [if_pos none]
    rfl
  · rw [if_neg some, toUInt16_toInt16]
    have none_of {property : Sample → Prop} [∀ sample, Decidable (property sample)]
        (none : (usableAt .linkQuality level timestamp queue.taken).any
          (fun sample => decide (property sample)) = false)
        (sample : Sample) (member : sample ∈ usableAt .linkQuality level timestamp queue.taken) :
        ¬ property sample := fun holds =>
      absurd (none.symm.trans (List.any_eq_true.mpr ⟨sample, member, decide_eq_true holds⟩))
        Bool.false_ne_true
    cases alike with
    | inl allHigh =>
      exact .inr (readRound_high heard some fun sample member =>
        Nat.not_lt.mp (none_of allHigh sample member))
    | inr allLow =>
      exact .inl (readRound_low heard some fun sample member =>
        Nat.not_le.mp (none_of allLow sample member))

end Outcomes

section Checks

variable {level : Level} {timestamp : Nat} {localBud remoteBud : BudInfo}

theorem ask_value {queue : Queue} {now : Nat} (aligned : queue.Aligned now) (val : Int) :
    ∃ asked, (if queue.size > 0 then some val else some 0) = some asked ∧
      (queue.taken = [] → asked = 0) ∧ (queue.taken ≠ [] → asked = val) := by
  by_cases empty : queue.taken = []
  · refine ⟨0, ?_, fun _ => rfl, fun more => absurd empty more⟩
    rw [if_neg (Nat.not_lt.mpr (aligned.size_eq_zero.mpr empty).le)]
  · refine ⟨val, ?_, fun none => absurd none empty, fun _ => rfl⟩
    rw [if_pos (Nat.pos_of_ne_zero fun size => empty (aligned.size_eq_zero.mp size))]

theorem checkVoiceQualityAt_evidence (heard : localBud.voiceQuality.Heard timestamp)
    (heard' : remoteBud.voiceQuality.Heard timestamp)
    (known : ∀ sample ∈ localBud.voiceQuality.taken, sample.data < unknownQuality)
    (known' : ∀ sample ∈ remoteBud.voiceQuality.taken, sample.data < unknownQuality) :
    ∃ better, checkVoiceQualityAt timestamp localBud remoteBud level = some better ∧
      (better.1 = true → Evidence .mic level timestamp localBud.voiceQuality.taken
        remoteBud.voiceQuality.taken) ∧
      (better.2 = true → Evidence .mic level timestamp remoteBud.voiceQuality.taken
        localBud.voiceQuality.taken) := by
  obtain ⟨thisVQ, filtered, none, nearest⟩ := @mic_filtered _ level _ heard known
  obtain ⟨otherVQ, filtered', none', nearest'⟩ := @mic_filtered _ level _ heard' known'
  replace filtered : filter timestamp localBud.voiceQuality (mic.halfLife.ofLevel level)
    (mic.maxAge.ofLevel level) .mic = some thisVQ := filtered
  replace filtered' : filter timestamp remoteBud.voiceQuality (mic.halfLife.ofLevel level)
    (mic.maxAge.ofLevel level) .mic = some otherVQ := filtered'
  rw [checkVoiceQualityAt, checkVoiceQuality, filtered, filtered', Option.bind_some,
    Option.map_some]
  refine ⟨_, rfl, ?_⟩
  split
  next valid =>
    have some : usableAt .mic level timestamp localBud.voiceQuality.taken ≠ [] := fun empty =>
      absurd (none empty) (Int.not_lt.mpr valid.1)
    have some' : usableAt .mic level timestamp remoteBud.voiceQuality.taken ≠ [] := fun empty =>
      absurd (none' empty) (Int.not_lt.mpr valid.2)
    constructor
    · intro better
      obtain ⟨absolute, relative⟩ := of_decide_eq_true better
      exact ⟨some, some', (nearest some).lt_of_lt absolute,
        (nearest some).apart (nearest' some') relative⟩
    · intro better
      obtain ⟨absolute, relative⟩ := of_decide_eq_true better
      exact ⟨some', some, (nearest' some').lt_of_lt absolute,
        (nearest' some').apart (nearest some) relative⟩
  next => exact ⟨fun better => Bool.noConfusion better, fun better => Bool.noConfusion better⟩

theorem checkRSSILevelAt_evidence (heard : localBud.phoneRSSI.Heard timestamp)
    (heard' : remoteBud.phoneRSSI.Heard timestamp)
    (notStale : ¬ StaleRSSI level timestamp localBud remoteBud)
    (notTied : ¬ TiedRSSI level timestamp localBud) :
    ∃ better, checkRSSILevelAt timestamp localBud remoteBud level = some better ∧
      (better = true → Evidence .rssi level timestamp localBud.phoneRSSI.taken
        remoteBud.phoneRSSI.taken) := by
  obtain ⟨thisRSSI, filtered, none, next⟩ := @rssi_filtered _ level _ heard
  obtain ⟨otherRSSI, filtered', none', next'⟩ := @rssi_filtered _ level _ heard'
  replace filtered : filter timestamp localBud.phoneRSSI (rssi.halfLife.ofLevel level)
    (rssi.maxAge.ofLevel level) .rssi = some thisRSSI := filtered
  replace filtered' : filter timestamp remoteBud.phoneRSSI (rssi.halfLife.ofLevel level)
    (rssi.maxAge.ofLevel level) .rssi = some otherRSSI := filtered'
  rw [checkRSSILevelAt, checkRSSILevel, filtered, filtered']
  obtain ⟨thisAsked, asked, empty, more⟩ := ask_value heard.aligned thisRSSI
  obtain ⟨otherAsked, asked', empty', more'⟩ := ask_value heard'.aligned otherRSSI
  rw [asked, asked', Option.bind_some, Option.map_some]
  refine ⟨_, rfl, ?_⟩
  split
  next negative =>
    intro better
    obtain ⟨absolute, relative⟩ := of_decide_eq_true better
    by_cases taken : localBud.phoneRSSI.taken = []
    · exact absurd (empty taken) negative.2.ne
    by_cases taken' : remoteBud.phoneRSSI.taken = []
    · exact absurd (empty' taken') negative.1.ne
    rw [more taken, more' taken'] at negative relative
    rw [more taken] at absolute
    have threshold : rssi.absThreshold.ofLevel level < 0 := by
      cases level <;> decide
    have usable : usableAt .rssi level timestamp localBud.phoneRSSI.taken ≠ [] := by
      intro empty
      have invalid := none empty
      have bound : rssi.absThreshold.ofLevel level ≤ -1 := by omega
      omega
    have below := (next usable negative.2).le_of_lt absolute
    have usable' : usableAt .rssi level timestamp remoteBud.phoneRSSI.taken ≠ [] := fun empty =>
      notStale ⟨taken', empty, usable, below⟩
    refine ⟨usable, usable', lt_of_le_of_ne below fun tied => notTied ⟨usable, tied⟩, ?_⟩
    exact (next usable negative.2).apart (next' usable' negative.1) relative
  next => exact fun better => Bool.noConfusion better

theorem checkLinkQualityLevelAt_evidence (heard : localBud.linkQuality.Heard timestamp)
    (heard' : remoteBud.linkQuality.Heard timestamp)
    (readable : LinkReadable level timestamp localBud remoteBud) :
    ∃ better, checkLinkQualityLevelAt timestamp localBud remoteBud level = some better ∧
      (better.1 = true → Evidence .linkQuality level timestamp localBud.linkQuality.taken
        remoteBud.linkQuality.taken) := by
  obtain ⟨thisLQ, filtered, low, none, rounds⟩ := @link_filtered _ level _ heard readable.staysLocal
    (Bool.and_eq_false_iff.mp readable.notMixedLocal)
  obtain ⟨otherLQ, filtered', _, none', rounds'⟩ := @link_filtered _ level _ heard'
    readable.staysRemote (Bool.and_eq_false_iff.mp readable.notMixedRemote)
  replace filtered : (filter timestamp localBud.linkQuality (link.halfLife.ofLevel level)
    (link.maxAge.ofLevel level) .linkQuality).map toUInt16 = some thisLQ := filtered
  replace filtered' : (filter timestamp remoteBud.linkQuality (link.halfLife.ofLevel level)
    (link.maxAge.ofLevel level) .linkQuality).map toUInt16 = some otherLQ := filtered'
  have thresholds : toUInt16 (link.absThreshold.ofLevel level) = 62000 ∧
      400 ≤ toUInt16 (link.relThreshold.ofLevel level) ∧
      toUInt16 (link.relThreshold.ofLevel level) = QueueType.relative .linkQuality level := by
    cases level <;> decide
  have threshold : QueueType.absolute .linkQuality level = 62000 := thresholds.1
  obtain ⟨thisAsked, asked, empty, more⟩ := ask_value heard.aligned thisLQ
  obtain ⟨otherAsked, asked', empty', more'⟩ := ask_value heard'.aligned otherLQ
  rw [checkLinkQualityLevelAt, checkLinkQualityLevel, filtered, filtered', asked, asked',
    Option.bind_some, Option.map_some]
  refine ⟨_, rfl, ?_⟩
  split
  next valid =>
    intro better
    obtain ⟨absolute, relative⟩ := of_decide_eq_true better
    rw [thresholds.1] at absolute
    by_cases taken' : remoteBud.linkQuality.taken = []
    · -- Without samples the other bud has a quality of 0, which is not better than any.
      have nonneg : 0 ≤ thisAsked := by
        by_cases taken : localBud.linkQuality.taken = []
        · exact (empty taken).ge
        · exact (more taken).symm ▸ low
      rw [empty' taken'] at relative
      omega
    rw [more' taken'] at valid relative
    rw [thresholds.2.2] at relative
    have usable' : usableAt .linkQuality level timestamp remoteBud.linkQuality.taken ≠ [] :=
      fun empty => absurd (none' empty) valid.1.ne
    by_cases taken : localBud.linkQuality.taken = []
    · rw [empty taken] at relative
      have zero : Nearest 0 0 := by
        constructor <;> norm_num
      refine absurd ⟨taken, ?_⟩ readable.notEmpty
      have apart := (rounds' usable').elim (fun low => zero.apart low.2 relative)
        fun high => zero.apart_nextBelow high.2 relative
      rwa [sub_zero] at apart
    rw [more taken] at valid relative absolute
    have usable : usableAt .linkQuality level timestamp localBud.linkQuality.taken ≠ [] :=
      fun empty => absurd (none empty) valid.2.ne
    refine ⟨usable, usable', ?_, ?_⟩
    · rw [threshold]
      cases rounds usable with
      | inl low => exact low.2.lt_of_lt absolute
      | inr high =>
        refine lt_of_le_of_ne (high.2.le_of_lt absolute) fun tied => ?_
        exact readable.notTied ⟨usable, tied.trans (by rw [threshold])⟩
    · cases rounds usable with
      | inl low =>
        exact (rounds' usable').elim (fun low' => low.2.apart low'.2 relative)
          fun high' => low.2.apart_nextBelow high'.2 relative
      | inr high =>
        cases rounds' usable' with
        | inl low' =>
          have margin := thresholds.2.1
          rw [thresholds.2.2] at margin
          omega
        | inr high' => exact high.2.apart high'.2 relative
  next => exact fun better => Bool.noConfusion better

end Checks

end HeadsetAdk.Hdma
