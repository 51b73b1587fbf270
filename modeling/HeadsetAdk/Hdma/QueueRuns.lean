import HeadsetAdk.Hdma.Queue

/-!
# Runs of the queue of quality samples

An insertion into a queue that has become empty and the restart after a gap put the rear in the
first slot and leave the front.
-/

namespace HeadsetAdk.Hdma

open RingBuffer (slot Holds)

inductive QueueCall
  | insert (val timestamp : Nat)
  | delete

namespace Queue

/-- `Hdma_QueueDelete`: the value is returned in eight bits. -/
def delete (queue : Queue) : Queue × Nat × Nat :=
  if queue.size = 0 then (queue, 0, 0)
  else ({ queue with
      front := (queue.front + 1) % bufferLen
      size := queue.size - 1
      taken := queue.taken.dropLast },
    (queue.quality queue.front).data % 2 ^ 8,
    ((queue.quality queue.front).timestamp + queue.baseTime) % 2 ^ 32)

def call (queue : Queue) : QueueCall → Queue
  | .insert val timestamp => queue.insert val timestamp
  | .delete => queue.delete.1

/-- A list of samples, the newest first, after a call for it -/
def recent (queue : Queue) (samples : List Sample) : QueueCall → List Sample
  | .insert val timestamp =>
      if queue.AfterGap timestamp then [⟨timestamp, val⟩]
      else (⟨timestamp, val⟩ :: samples).take bufferLen
  | .delete => samples.dropLast

def run : Queue → List Sample → List QueueCall → Queue × List Sample
  | queue, samples, [] => (queue, samples)
  | queue, samples, next :: calls => run (queue.call next) (queue.recent samples next) calls

/-- The queue is this list of samples. -/
structure Represents (queue : Queue) (samples : List Sample) : Prop where
  size : queue.size = samples.length
  size_le : queue.size ≤ bufferLen
  delimited : samples ≠ [] → (queue.front + (queue.size - 1)) % bufferLen = queue.rear
  held : ∀ back (inside : back < samples.length),
    (queue.quality (slot bufferLen queue.rear back)).data = samples[back].data ∧
      queue.baseTime + (queue.quality (slot bufferLen queue.rear back)).timestamp =
        samples[back].time

/-- Where the rear goes to the first slot, the front is there. -/
def KeepsFront (queue : Queue) : QueueCall → Prop
  | .insert _ timestamp => queue.size = 0 ∨ queue.AfterGap timestamp → queue.front = 0
  | .delete => True

def EachKeepsFront : Queue → List QueueCall → Prop
  | _, [] => True
  | queue, next :: calls => queue.KeepsFront next ∧ EachKeepsFront (queue.call next) calls

/-- Values of sixteen bits, at times that do not go back -/
def Timed : Nat → List QueueCall → Prop
  | _, [] => True
  | now, .insert val timestamp :: calls =>
      val < 2 ^ 16 ∧ now ≤ timestamp ∧ timestamp < 2 ^ 32 ∧ Timed timestamp calls
  | now, .delete :: calls => Timed now calls

/-- What holds of a queue whose front was always where the rear went. -/
structure Kept (queue : Queue) (now : Nat) : Prop where
  size_empty : queue.taken = [] → queue.size = 0
  aligned : queue.taken ≠ [] → queue.Aligned now

namespace Kept

variable {queue : Queue} {now timestamp val : Nat}

theorem represents (kept : queue.Kept now) : queue.Represents queue.taken := by
  by_cases empty : queue.taken = []
  · rw [empty]
    refine ⟨kept.size_empty empty, ?_, fun more => absurd rfl more, fun back inside => ?_⟩
    · rw [kept.size_empty empty]
      exact Nat.zero_le bufferLen
    · exact absurd inside (Nat.not_lt_zero back)
  · have aligned := kept.aligned empty
    have holds := aligned.holds empty
    have positive : 0 < queue.taken.length := List.length_pos_of_ne_nil empty
    have rear_lt := holds.rear_lt
    have bound := aligned.length_le
    have size := aligned.size
    refine ⟨size, size ▸ bound, fun _ => ?_, fun back inside => ?_⟩
    · rw [aligned.front empty]
      simp only [slot, bufferLen] at rear_lt bound ⊢
      omega
    · have held := holds.held back (by rwa [List.length_map])
      rw [List.getElem_map] at held
      rw [held]
      exact ⟨rfl, Nat.add_sub_cancel' (aligned.based _ (List.getElem_mem inside)).1⟩

theorem insert (kept : queue.Kept now) (wide : val < 2 ^ 16) (after : now ≤ timestamp)
    (clock : timestamp < 2 ^ 32) (front : queue.KeepsFront (.insert val timestamp)) :
    (queue.insert val timestamp).Kept timestamp := by
  have inserted : (queue.insert val timestamp).Aligned timestamp ∧
      (queue.insert val timestamp).taken ≠ [] := by
    by_cases empty : queue.taken = []
    · have size := kept.size_empty empty
      have aligned : queue.Aligned now :=
        { size := by rw [size, empty, List.length_nil]
          front_empty := fun _ => front (.inl size)
          front := fun more => absurd empty more
          holds := fun more => absurd empty more
          based := fun _ member => absurd (empty ▸ member) List.not_mem_nil
          sorted := empty ▸ List.Pairwise.nil
          past := fun _ member => absurd (empty ▸ member) List.not_mem_nil
          wide := fun _ member => absurd (empty ▸ member) List.not_mem_nil }
      exact aligned.insert after wide clock fun stranded => stranded.2 (front (.inl size))
    · exact (kept.aligned empty).insert after wide clock fun stranded =>
        stranded.2 (front (.inr stranded.1))
  exact ⟨fun empty => absurd empty inserted.2, fun _ => inserted.1⟩

theorem delete (kept : queue.Kept now) : queue.delete.1.Kept now := by
  by_cases empty : queue.size = 0
  · rw [Queue.delete, if_pos empty]
    exact kept
  · rw [Queue.delete, if_neg empty]
    have more : queue.taken ≠ [] := fun none => empty (kept.size_empty none)
    have aligned := kept.aligned more
    have holds := aligned.holds more
    have size := aligned.size
    have rear_lt := holds.rear_lt
    have bound := aligned.length_le
    have fewer : queue.taken.dropLast.length = queue.size - 1 := by
      rw [List.length_dropLast, size]
    have among {sample : Sample} (member : sample ∈ queue.taken.dropLast) :
        sample ∈ queue.taken := (List.dropLast_sublist _).mem member
    refine ⟨fun none => ?_, fun left => ?_⟩
    · exact fewer.symm.trans (congrArg List.length none)
    · have positive : 0 < queue.taken.dropLast.length := List.length_pos_of_ne_nil left
      refine
        { size := fewer.symm
          front_empty := fun none => absurd none left
          front := fun _ => ?_
          holds := fun _ => ⟨rear_lt, ?_, fun back inside => ?_⟩
          based := fun sample member => aligned.based sample (among member)
          sorted := aligned.sorted.sublist (List.dropLast_sublist _)
          past := fun sample member => aligned.past sample (among member)
          wide := fun sample member => aligned.wide sample (among member) }
      · dsimp only
        rw [aligned.front more]
        simp only [slot, bufferLen] at rear_lt bound ⊢
        omega
      · rw [List.length_map, fewer]
        omega
      · have left : back < queue.taken.dropLast.length := by rwa [List.length_map] at inside
        have whole : back < (queue.taken.map (Sample.stored · queue.baseTime)).length := by
          rw [List.length_map]
          omega
        rw [List.getElem_map, List.getElem_dropLast]
        exact (holds.held back whole).trans (List.getElem_map _)

theorem call (kept : queue.Kept now) (next : QueueCall) {calls : List QueueCall}
    (timed : Timed now (next :: calls)) (front : queue.KeepsFront next) :
    ∃ later, (queue.call next).Kept later ∧ Timed later calls ∧
      (queue.call next).taken = queue.recent queue.taken next := by
  cases next with
  | insert val timestamp =>
    obtain ⟨wide, after, clock, rest⟩ := timed
    exact ⟨timestamp, kept.insert wide after clock front, rest, taken_insert⟩
  | delete =>
    refine ⟨now, kept.delete, timed, ?_⟩
    rw [Queue.call, Queue.delete]
    split
    next empty =>
      have none : queue.taken = [] := by
        by_contra more
        exact more (List.length_eq_zero_iff.mp ((kept.aligned more).size.symm.trans empty))
      exact none.trans (congrArg List.dropLast none).symm
    next => rfl

theorem run (kept : queue.Kept now) {calls : List QueueCall} (timed : Timed now calls)
    (fronts : EachKeepsFront queue calls) :
    (Queue.run queue queue.taken calls).1.Represents (Queue.run queue queue.taken calls).2 := by
  induction calls generalizing queue now with
  | nil => exact kept.represents
  | cons next calls ih =>
    obtain ⟨later, kept', timed', taken⟩ := kept.call next timed fronts.1
    rw [Queue.run, ← taken]
    exact ih kept' timed' fronts.2

end Kept

/-- In every run of insertions and deletions in which the rear goes to the first slot only
where the front is, the queue is the list of the most recent samples. -/
theorem represents_recent (queue : Queue) {calls : List QueueCall} {now : Nat}
    (timed : Timed now calls) (fronts : EachKeepsFront queue.create calls) :
    (run queue.create [] calls).1.Represents (run queue.create [] calls).2 :=
  @Kept.run queue.create now ⟨fun _ => rfl, fun more => absurd rfl more⟩ calls timed fronts

/-- A queue before its first use -/
def unused : Queue := ⟨fun _ => ⟨0, 0⟩, 0, 0, 0, 0, []⟩

theorem represents_recent_deletedOnce :
    Represents (run unused.create [] [.insert 200 1000, .insert 190 2000, .delete,
      .insert 180 60000]).1 (run unused.create [] [.insert 200 1000, .insert 190 2000, .delete,
      .insert 180 60000]).2 :=
  @represents_recent unused _ 0 ⟨by decide, by decide, by decide, by decide, by decide,
    by decide, by decide, by decide, by decide, trivial⟩
    ⟨by simp only [KeepsFront]; decide, by simp only [KeepsFront]; decide, trivial,
      by simp only [KeepsFront]; decide, trivial⟩

/-- After two samples and two deletions the front is in the third slot, and stays there. -/
theorem emptied_notRepresents : ¬ ∀ (queue : Queue) (calls : List QueueCall), Timed 0 calls →
    (run queue.create [] calls).1.Represents (run queue.create [] calls).2 := by
  intro all
  have represents := all unused [.insert 200 0, .insert 190 1000, .delete, .delete,
    .insert 180 2000] ⟨by decide, by decide, by decide, by decide, by decide, by decide,
      by decide, by decide, by decide, trivial⟩
  exact absurd (represents.delimited (by decide)) (by decide)

end Queue

end HeadsetAdk.Hdma
