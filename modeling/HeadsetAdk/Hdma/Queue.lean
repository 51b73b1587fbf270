import HeadsetAdk.Lib.RingBuffer
import Mathlib.Algebra.Group.Nat.Defs

/-!
# Queues of quality samples

The timestamps of the circular buffer are sixteen bits wide and count from a base time, which moves
up with the oldest sample.
-/

namespace HeadsetAdk.Hdma

open RingBuffer (slot Holds)

def bufferLen : Nat := 10

def fortyEightKb : Nat := 49152

def indexNotDefined : Nat := 0xFF

structure QualityData where
  timestamp : Nat
  data : Nat

structure Sample where
  time : Nat
  data : Nat
deriving DecidableEq

/-- `queue_t`, without its capacity, which is always `bufferLen` -/
structure Queue where
  quality : Nat → QualityData
  baseTime : Nat
  rear : Nat
  front : Nat
  size : Nat
  /-- A ghost field: the samples since the queue was last emptied, at most `bufferLen`, the
  newest first. -/
  taken : List Sample

namespace Queue

def create (queue : Queue) : Queue :=
  { queue with size := 0, rear := indexNotDefined, front := 0, baseTime := 0, taken := [] }

/-- The loop of `hdma_ShiftQueueBaseTimestamp` over the given number of samples -/
def shiftLoop (timestamp : Nat) :
    (count index : Nat) → (quality : Nat → QualityData) → Nat → QualityData
  | 0, _, quality => quality
  | count + 1, index, quality =>
      shiftLoop timestamp count (((if index = 0 then bufferLen else index) - 1) % bufferLen)
        (Function.update quality index
          { quality index with
            timestamp := ((quality index).timestamp + 2 ^ 16 - timestamp) % 2 ^ 16 })

/-- `hdma_ShiftQueueBaseTimestamp` -/
def shiftBaseTimestamp (queue : Queue) : Queue :=
  let timestamp := (queue.quality queue.front).timestamp
  { queue with
    baseTime := (queue.baseTime + timestamp) % 2 ^ 32
    quality := shiftLoop timestamp queue.size queue.rear queue.quality }

/-- The slot and the base time for a sample: the first part of `Hdma_QueueInsert` -/
def place (queue : Queue) (timestamp : Nat) : Queue :=
  if queue.size = 0 then { queue with rear := 0, baseTime := timestamp }
  else { queue with rear := (queue.rear + 1) % bufferLen }

def pastBase (queue : Queue) (timestamp : Nat) : Nat :=
  (timestamp + 2 ^ 32 - queue.baseTime) % 2 ^ 32

/-- The queue starts over with a sample that is too far past the base time for sixteen bits.
Its front stays where it was. -/
def restart (queue : Queue) (timestamp : Nat) : Queue :=
  { queue with size := 0, rear := 0, baseTime := timestamp, taken := [] }

def write (queue : Queue) (val timestamp : Nat) : Queue :=
  { queue with
    quality := Function.update queue.quality queue.rear ⟨queue.pastBase timestamp, val⟩
    taken := (⟨timestamp, val⟩ :: queue.taken).take bufferLen }

/-- The sample is counted, or the oldest one given up. -/
def count (queue : Queue) : Queue :=
  if queue.size = bufferLen then { queue with front := (queue.front + 1) % bufferLen }
  else { queue with size := queue.size + 1 }

def insert (queue : Queue) (val timestamp : Nat) : Queue :=
  let placed := queue.place timestamp
  let based := if 65535 ≤ placed.pastBase timestamp then placed.restart timestamp else placed
  let counted := (based.write val timestamp).count
  if (counted.baseTime + fortyEightKb) % 2 ^ 32 < timestamp then counted.shiftBaseTimestamp
  else counted

end Queue

def Sample.stored (sample : Sample) (baseTime : Nat) : QualityData :=
  ⟨sample.time - baseTime, sample.data⟩

structure Queue.Aligned (queue : Queue) (now : Nat) : Prop where
  size : queue.size = queue.taken.length
  front_empty : queue.taken = [] → queue.front = 0
  front : queue.taken ≠ [] → queue.front = slot bufferLen queue.rear (queue.size - 1)
  holds : queue.taken ≠ [] →
    Holds bufferLen queue.quality queue.rear (queue.taken.map (Sample.stored · queue.baseTime))
  based : ∀ sample ∈ queue.taken,
    queue.baseTime ≤ sample.time ∧ sample.time < queue.baseTime + 65535
  sorted : queue.taken.Pairwise fun newer older => older.time ≤ newer.time
  past : ∀ sample ∈ queue.taken, sample.time ≤ now
  wide : ∀ sample ∈ queue.taken, sample.data < 2 ^ 16

/-- The sample makes the queue start over while its front is elsewhere. -/
def Queue.StrandsFront (queue : Queue) (timestamp : Nat) : Prop :=
  65535 ≤ (queue.place timestamp).pastBase timestamp ∧ queue.front ≠ 0

instance (queue : Queue) (timestamp : Nat) : Decidable (queue.StrandsFront timestamp) :=
  inferInstanceAs (Decidable (_ ∧ _))

namespace Queue.Aligned

variable {queue : Queue} {now timestamp val : Nat}

theorem later (aligned : queue.Aligned now) (after : now ≤ timestamp) : queue.Aligned timestamp :=
  { aligned with past := fun sample member => Nat.le_trans (aligned.past sample member) after }

theorem length_le (aligned : queue.Aligned now) : queue.taken.length ≤ bufferLen := by
  by_cases empty : queue.taken = []
  · rw [empty]
    exact Nat.zero_le _
  · have bound := (aligned.holds empty).length_le
    rwa [List.length_map] at bound

theorem create : queue.create.Aligned now :=
  { size := rfl
    front_empty := fun _ => rfl
    front := fun taken => absurd rfl taken
    holds := fun taken => absurd rfl taken
    based := fun _ member => absurd member List.not_mem_nil
    sorted := List.Pairwise.nil
    past := fun _ member => absurd member List.not_mem_nil
    wide := fun _ member => absurd member List.not_mem_nil }

theorem size_eq_zero (aligned : queue.Aligned now) : queue.size = 0 ↔ queue.taken = [] := by
  rw [aligned.size, List.length_eq_zero_iff]

theorem first (size : queue.size = 0) (rear : queue.rear = 0) (front : queue.front = 0)
    (empty : queue.taken = []) (based : queue.baseTime = timestamp) (wide : val < 2 ^ 16) :
    ((queue.write val timestamp).count).Aligned timestamp := by
  have past : queue.pastBase timestamp = 0 := by
    rw [pastBase, based, Nat.add_sub_cancel_left, Nat.mod_self]
  have counted : (queue.write val timestamp).count = { queue with
        quality := Function.update queue.quality 0 ⟨0, val⟩
        size := 1
        taken := [⟨timestamp, val⟩] } := by
    rw [count, if_neg (show (queue.write val timestamp).size ≠ bufferLen by
      rw [write, size]; decide)]
    simp only [write, past, rear, size, empty]
    rfl
  have only {sample : Sample} (member : sample ∈ [(⟨timestamp, val⟩ : Sample)]) :
      sample = ⟨timestamp, val⟩ := List.mem_singleton.mp member
  rw [counted]
  refine
    { size := rfl
      front_empty := fun _ => front
      front := fun _ => ?_
      holds := fun _ => ?_
      based := fun sample member => ?_
      sorted := List.pairwise_singleton _ _
      past := fun sample member => ?_
      wide := fun sample member => ?_ }
  · dsimp only
    rw [front, rear]
    rfl
  · dsimp only
    rw [rear, based]
    refine Holds.single (by decide) ?_
    rw [Function.update_self]
    exact congrArg (QualityData.mk · val) (Nat.sub_self timestamp).symm
  · rw [only member]
    refine ⟨Nat.le_of_eq based, ?_⟩
    calc timestamp < timestamp + 65535 := Nat.lt_add_of_pos_right (by decide)
      _ = queue.baseTime + 65535 := by rw [based]
  · exact Nat.le_of_eq (congrArg Sample.time (only member))
  · rw [only member]
    exact wide

theorem next (aligned : queue.Aligned now) (more : queue.taken ≠ []) (after : now ≤ timestamp)
    (wide : val < 2 ^ 16) (reached : queue.pastBase timestamp < 65535)
    (clock : timestamp < 2 ^ 32) :
    (({ queue with rear := (queue.rear + 1) % bufferLen }.write val timestamp).count).Aligned
      timestamp := by
  obtain ⟨newest, older, taken⟩ := List.exists_cons_of_ne_nil more
  have newestBased := aligned.based newest (taken ▸ List.mem_cons_self)
  have newestPast := aligned.past newest (taken ▸ List.mem_cons_self)
  have past : queue.pastBase timestamp = timestamp - queue.baseTime := by
    rw [pastBase, Nat.add_comm, Nat.add_sub_assoc (by omega), Nat.add_mod_left,
      Nat.mod_eq_of_lt (by omega)]
  have holds := aligned.holds more
  have size := aligned.size
  have bound := aligned.length_le
  have front := aligned.front more
  have positive : 0 < queue.taken.length := List.length_pos_of_ne_nil more
  have rearLt := holds.rear_lt
  generalize moved : ({ queue with rear := (queue.rear + 1) % bufferLen } : Queue).write val
    timestamp = written
  have takenEq : written.taken = (⟨timestamp, val⟩ :: queue.taken).take bufferLen := by
    rw [← moved]
    rfl
  have quality : written.quality = Function.update queue.quality ((queue.rear + 1) % bufferLen)
      ⟨queue.pastBase timestamp, val⟩ := by
    rw [← moved]
    rfl
  have rear : written.rear = (queue.rear + 1) % bufferLen := by
    rw [← moved]
    rfl
  have baseTime : written.baseTime = queue.baseTime := by
    rw [← moved]
    rfl
  have lengths : written.taken.length = min bufferLen (queue.taken.length + 1) := by
    rw [takenEq, List.length_take, List.length_cons]
  have among {sample : Sample} (member : sample ∈ written.taken) :
      sample = ⟨timestamp, val⟩ ∨ sample ∈ queue.taken :=
    List.mem_cons.mp (List.mem_of_mem_take (takenEq ▸ member))
  -- Whether or not the oldest sample is given up, the front is at the last one that is left.
  have counted : ∃ front, written.count =
        { written with front := front, size := written.taken.length } ∧
      front = slot bufferLen ((queue.rear + 1) % bufferLen) (written.taken.length - 1) := by
    have sizes : written.size = queue.size ∧ written.front = queue.front := by
      rw [← moved]
      exact ⟨rfl, rfl⟩
    rw [count]
    split
    next full =>
      have whole : queue.taken.length = bufferLen := by omega
      refine ⟨(queue.front + 1) % bufferLen, ?_, ?_⟩
      · rw [sizes.2, lengths, whole, full]
        rfl
      · rw [lengths, whole, front, size, whole]
        simp only [slot, bufferLen] at rearLt ⊢
        omega
    next room =>
      have less : queue.taken.length < bufferLen := by omega
      refine ⟨queue.front, ?_, ?_⟩
      · rw [lengths, sizes.1, size, Nat.min_eq_right less, ← sizes.2]
      · rw [lengths, Nat.min_eq_right less, Nat.succ_sub_one, front, size]
        refine (RingBuffer.slot_succ rearLt (by omega)).symm.trans ?_
        rw [Nat.sub_add_cancel positive]
  obtain ⟨last, counted, lastEq⟩ := counted
  have nonempty : written.taken ≠ [] := by
    rw [takenEq]
    exact List.cons_ne_nil _ _
  rw [counted]
  refine
    { size := rfl
      front_empty := fun empty => absurd empty nonempty
      front := fun _ => by rw [lastEq, ← rear]
      holds := fun _ => ?_
      based := fun sample member => ?_
      sorted := ?_
      past := fun sample member => ?_
      wide := fun sample member => ?_ }
  · dsimp only
    rw [takenEq, quality, rear, baseTime, List.map_take, List.map_cons, Sample.stored, ← past]
    exact holds.write ⟨queue.pastBase timestamp, val⟩
  · dsimp only
    rw [baseTime]
    cases among member with
    | inl same => subst same; dsimp only; omega
    | inr old => exact aligned.based sample old
  · dsimp only
    rw [takenEq]
    refine List.Pairwise.take (List.Pairwise.cons (fun sample older => ?_) aligned.sorted)
    exact Nat.le_trans (aligned.past sample older) after
  · cases among member with
    | inl same => subst same; exact Nat.le_refl timestamp
    | inr old => exact Nat.le_trans (aligned.past sample old) after
  · cases among member with
    | inl same => subst same; exact wide
    | inr old => exact aligned.wide sample old

end Queue.Aligned

theorem Queue.shiftLoop_slot {timestamp rear other : Nat} (rearLt : rear < bufferLen)
    (inside : other < bufferLen) (count back : Nat) (quality : Nat → QualityData)
    (within : back + count ≤ bufferLen) :
    shiftLoop timestamp count (slot bufferLen rear back) quality (slot bufferLen rear other) =
      if back ≤ other ∧ other < back + count then
        { quality (slot bufferLen rear other) with
          timestamp :=
            ((quality (slot bufferLen rear other)).timestamp + 2 ^ 16 - timestamp) % 2 ^ 16 }
      else quality (slot bufferLen rear other) := by
  induction count generalizing back quality with
  | zero => rw [if_neg (by omega), shiftLoop]
  | succ count ih =>
    rw [shiftLoop, ← RingBuffer.slot_back rearLt (by omega), ih (back + 1) _ (by omega)]
    by_cases same : other = back
    · rw [same, Function.update_self, if_neg (by omega), if_pos (by omega)]
    · have apart : slot bufferLen rear other ≠ slot bufferLen rear back := fun slots =>
        same (RingBuffer.slot_injective rearLt inside (by omega) slots)
      rw [Function.update_of_ne apart]
      exact if_congr (by omega) rfl rfl

/-- The sample comes after a gap: so long after the base time that sixteen bits cannot say it. -/
def Queue.AfterGap (queue : Queue) (timestamp : Nat) : Prop :=
  65535 ≤ (queue.place timestamp).pastBase timestamp

instance (queue : Queue) (timestamp : Nat) : Decidable (queue.AfterGap timestamp) :=
  inferInstanceAs (Decidable (_ ≤ _))

variable {queue : Queue} {val timestamp : Nat}

theorem Queue.taken_insert :
    (queue.insert val timestamp).taken = if queue.AfterGap timestamp then [⟨timestamp, val⟩]
      else (⟨timestamp, val⟩ :: queue.taken).take bufferLen := by
  have counted (based : Queue) : (based.write val timestamp).count.taken =
      (⟨timestamp, val⟩ :: based.taken).take bufferLen := by
    rw [count]
    split <;> rfl
  have shifted (based : Queue) :
      (if (based.baseTime + fortyEightKb) % 2 ^ 32 < timestamp then based.shiftBaseTimestamp
        else based).taken = based.taken := by
    split <;> rfl
  rw [Queue.insert, shifted, counted]
  by_cases gap : queue.AfterGap timestamp
  · rw [if_pos gap, if_pos (show 65535 ≤ _ from gap)]
    rfl
  · rw [if_neg gap, if_neg (show ¬ 65535 ≤ _ from gap), place]
    split <;> rfl

theorem Queue.mem_insert {sample : Sample} (member : sample ∈ (queue.insert val timestamp).taken) :
    sample = ⟨timestamp, val⟩ ∨ sample ∈ queue.taken := by
  rw [taken_insert] at member
  split at member
  · exact .inl (List.mem_singleton.mp member)
  · exact List.mem_cons.mp (List.mem_of_mem_take member)

namespace Queue.Aligned

variable {queue : Queue} {now timestamp val : Nat}

theorem shift (aligned : queue.Aligned now) (more : queue.taken ≠ []) (clock : now < 2 ^ 32) :
    queue.shiftBaseTimestamp.Aligned now := by
  have holds := aligned.holds more
  have size := aligned.size
  have positive : 0 < queue.taken.length := List.length_pos_of_ne_nil more
  have lengthLe := aligned.length_le
  have last : queue.size - 1 < (queue.taken.map (Sample.stored · queue.baseTime)).length := by
    rw [List.length_map]
    omega
  have oldestIn : queue.size - 1 < queue.taken.length := by omega
  generalize oldestEq : queue.taken[queue.size - 1] = oldest
  have oldestMem : oldest ∈ queue.taken := oldestEq ▸ List.getElem_mem oldestIn
  have oldestBased := aligned.based oldest oldestMem
  have oldestPast := aligned.past oldest oldestMem
  have atFront : (queue.quality queue.front).timestamp = oldest.time - queue.baseTime := by
    rw [aligned.front more, holds.held _ last, List.getElem_map, oldestEq]
    rfl
  have oldestFirst (sample : Sample) (member : sample ∈ queue.taken) :
      oldest.time ≤ sample.time := by
    obtain ⟨index, inside, found⟩ := List.mem_iff_getElem.mp member
    rcases Nat.lt_or_ge index (queue.size - 1) with newer | same
    · have sorted := List.pairwise_iff_getElem.mp aligned.sorted index (queue.size - 1) inside
        oldestIn newer
      rwa [found, oldestEq] at sorted
    · have here : index = queue.size - 1 := by omega
      subst here
      exact Nat.le_of_eq (congrArg Sample.time (oldestEq.symm.trans found))
  have base : (queue.baseTime + (queue.quality queue.front).timestamp) % 2 ^ 32 = oldest.time := by
    rw [atFront, Nat.add_sub_cancel' oldestBased.1, Nat.mod_eq_of_lt (by omega)]
  have shifted : queue.shiftBaseTimestamp = { queue with
        baseTime := oldest.time
        quality := shiftLoop (oldest.time - queue.baseTime) queue.size queue.rear
          queue.quality } := by
    rw [shiftBaseTimestamp, base, atFront]
  have moved (back : Nat) (inside : back < queue.taken.length) :
      shiftLoop (oldest.time - queue.baseTime) queue.size queue.rear queue.quality
        (slot bufferLen queue.rear back) = queue.taken[back].stored oldest.time := by
    have held := holds.held back (by rwa [List.length_map])
    have based := aligned.based _ (List.getElem_mem inside)
    have first := oldestFirst _ (List.getElem_mem inside)
    have whole := @shiftLoop_slot (oldest.time - queue.baseTime) _ _ holds.rear_lt
      (Nat.lt_of_lt_of_le inside lengthLe) queue.size 0 queue.quality (by omega)
    rw [List.getElem_map] at held
    rw [RingBuffer.slot_zero holds.rear_lt, if_pos (by omega), held] at whole
    rw [whole]
    refine congrArg (QualityData.mk · _) ?_
    simp only [Sample.stored]
    omega
  rw [shifted]
  refine
    { aligned with
      size := size
      holds := fun _ => ⟨holds.rear_lt, ?_, fun back inside => ?_⟩
      based := fun sample member => ?_ }
  · rw [List.length_map]
    exact lengthLe
  · rw [List.getElem_map]
    exact moved back (by rwa [List.length_map] at inside)
  · have based := aligned.based sample member
    have first := oldestFirst sample member
    dsimp only
    omega

theorem insert (aligned : queue.Aligned now) (after : now ≤ timestamp) (wide : val < 2 ^ 16)
    (clock : timestamp < 2 ^ 32) (kept : ¬ queue.StrandsFront timestamp) :
    (queue.insert val timestamp).Aligned timestamp ∧ (queue.insert val timestamp).taken ≠ [] := by
  have counted : ∀ based : Queue, ((based.write val timestamp).count).Aligned timestamp →
      (based.write val timestamp).count.taken ≠ [] →
      (if ((based.write val timestamp).count.baseTime + fortyEightKb) % 2 ^ 32 < timestamp then
        (based.write val timestamp).count.shiftBaseTimestamp
      else (based.write val timestamp).count).Aligned timestamp ∧
      (if ((based.write val timestamp).count.baseTime + fortyEightKb) % 2 ^ 32 < timestamp then
        (based.write val timestamp).count.shiftBaseTimestamp
      else (based.write val timestamp).count).taken ≠ [] := by
    intro based counted more
    split
    · exact ⟨counted.shift more clock, more⟩
    · exact ⟨counted, more⟩
  have taken (based : Queue) : (based.write val timestamp).count.taken ≠ [] := by
    rw [count]
    split <;> exact List.cons_ne_nil _ _
  rw [Queue.insert]
  refine counted _ ?_ (taken _)
  by_cases empty : queue.taken = []
  · have size := aligned.size_eq_zero.mpr empty
    have front := aligned.front_empty empty
    have fresh : (queue.place timestamp).pastBase timestamp = 0 := by
      rw [place, if_pos size, pastBase, Nat.add_sub_cancel_left, Nat.mod_self]
    rw [if_neg (by omega), place, if_pos size]
    exact first size rfl front empty rfl wide
  · have size : queue.size ≠ 0 := fun size => empty (aligned.size_eq_zero.mp size)
    split
    next far =>
      have front : queue.front = 0 := by
        by_contra elsewhere
        exact kept ⟨far, elsewhere⟩
      refine first rfl rfl ?_ rfl rfl wide
      rw [restart, place, if_neg size]
      exact front
    next near =>
      rw [place, if_neg size] at near ⊢
      exact aligned.next empty after wide (Nat.not_le.mp near) clock

end Queue.Aligned

end HeadsetAdk.Hdma
