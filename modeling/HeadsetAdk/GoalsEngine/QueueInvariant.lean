import HeadsetAdk.GoalsEngine.Engine
import Mathlib.Data.Finset.Card
import Mathlib.Data.Fintype.Card

/-! # The queue of the goals engine -/

namespace HeadsetAdk.GoalsEngine

open Function (update_of_ne)
open GoalSet

variable {Data : Type}

theorem goalMask_getLsbD (goal index : Nat) :
    (goalMask goal).getLsbD index = (decide (index < 64) && decide (index = goal)) := by
  simp only [goalMask, BitVec.getLsbD_shiftLeft, BitVec.getLsbD_one]
  by_cases inside : index < 64 <;> by_cases equal : index = goal
  all_goals simp [inside, equal]
  omega

theorem isGoalActive_iff_getLsbD (s : GoalSet Data) {goal : GoalId}
    (inside : goal < 64) :
    s.isGoalActive goal = s.activeGoalsMask.getLsbD goal := by
  rw [isGoalActive, Bool.eq_iff_iff, beq_iff_eq]
  constructor
  · intro equal
    have bit := congrArg (fun mask => mask.getLsbD goal) equal
    simpa [goalMask_getLsbD, inside] using bit
  · intro active
    ext index indexLt
    simp only [← BitVec.getLsbD_eq_getElem, BitVec.getLsbD_and, goalMask_getLsbD]
    by_cases equal : index = goal
    · subst equal
      simp [active]
    · simp [equal]

theorem removeGoalFromMask_getLsbD (mask : GoalMask) (goal index : Nat) :
    (removeGoalFromMask mask goal).getLsbD index =
      (mask.getLsbD index && !decide (index = goal)) := by
  simp only [removeGoalFromMask, BitVec.getLsbD_and, BitVec.getLsbD_not, goalMask_getLsbD]
  by_cases inside : index < 64
  · simp [inside]
  · simp [inside, BitVec.getLsbD_of_ge mask index (by omega)]

theorem removeGoalFromMask_and (mask other : GoalMask) (goal : GoalId) :
    removeGoalFromMask (mask &&& other) goal = removeGoalFromMask mask goal &&& other := by
  simp only [removeGoalFromMask]
  ac_rfl

theorem lockFromMask_eq_zero_iff (mask : GoalMask) : lockFromMask mask = 0 ↔ mask = 0 := by
  simp [lockFromMask]

def GoalSet.waitMaskFor (s : GoalSet Data) (goal : GoalId) : GoalMask :=
  if (s.goalEntry goal).contention = .concurrent then
    s.activeGoalsMask &&& ~~~getConcurrentGoalsMask (s.goalEntry goal)
  else s.activeGoalsMask

/-- The queue array and the queue task agree, except that the slot of
`delivered` may have no message left. -/
structure SlotsAgree (rules : RuleTable) (delivered : Option GoalId)
    (s : GoalSet Data) : Prop where
  tableSize : s.goals.length ≤ goalIdMax
  activeInTable : ∀ goal, s.activeGoalsMask.getLsbD goal = true →
    goal ≠ goalIdNone ∧ goal < s.goals.length
  slotInTable : ∀ slot, (s.pendingGoals slot).id ≠ goalIdNone →
    (s.pendingGoals slot).id < s.goals.length
  slotsDistinct : ∀ first second, (s.pendingGoals first).id ≠ goalIdNone →
    (s.pendingGoals first).id = (s.pendingGoals second).id → first = second
  slotEmpty : ∀ slot, (s.pendingGoals slot).id = goalIdNone →
    s.pendingGoals slot = .empty
  slotRule : ∀ slot, (s.pendingGoals slot).id ≠ goalIdNone →
    (s.pendingGoals slot).ruleId = rules.ruleOf (s.pendingGoals slot).id
  slotPending : ∀ slot, (s.pendingGoals slot).id ≠ goalIdNone →
    some (s.pendingGoals slot).id ≠ delivered →
      ∃ message ∈ s.queueTask, message.ruleId = (s.pendingGoals slot).ruleId
  messageSlot : ∀ message ∈ s.queueTask, (s.pendingGoals message.lockSlot).id ≠ goalIdNone ∧
      message.ruleId = (s.pendingGoals message.lockSlot).ruleId
  lockOfMask : ∀ slot, (s.pendingGoals slot).lock = 0 ↔
    (s.pendingGoals slot).lockMask = 0
  messageCount : s.queueMsgCount = s.queueTask.length

def LocksCurrent (s : GoalSet Data) : Prop :=
  ∀ slot, (s.pendingGoals slot).id ≠ goalIdNone →
    (s.pendingGoals slot).lockMask = s.waitMaskFor (s.pendingGoals slot).id

structure QueueInvariant (rules : RuleTable) (s : GoalSet Data) : Prop where
  agree : SlotsAgree rules none s
  locks : LocksCurrent s

theorem queueInvariant_create {rules : RuleTable} {goals : List GoalEntry}
    {s : GoalSet Data} (created : createGoalSet goals = some s) :
    QueueInvariant rules s := by
  unfold createGoalSet at created
  split at created
  case isFalse => simp at created
  case isTrue sizes =>
    obtain rfl := Option.some.inj created
    refine ⟨⟨sizes.2, ?_, ?_, ?_, ?_, ?_, ?_, ?_, ?_, rfl⟩, ?_⟩ <;>
      simp [PendingGoalEntry.empty, LocksCurrent, goalIdNone]

section Clear

variable {s : GoalSet Data}

@[simp]
theorem clearGoal_goals (s : GoalSet Data) (goal : GoalId) : (s.clearGoal goal).goals = s.goals :=
  rfl

@[simp]
theorem clearGoal_queueTask (s : GoalSet Data) (goal : GoalId) :
    (s.clearGoal goal).queueTask = s.queueTask :=
  rfl

@[simp]
theorem clearGoal_slot_id (s : GoalSet Data) (goal : GoalId)
    (slot : Fin initialGoalQueueCount) :
    ((s.clearGoal goal).pendingGoals slot).id = (s.pendingGoals slot).id := by
  simp only [clearGoal]
  split <;> rfl

@[simp]
theorem clearGoal_slot_ruleId (s : GoalSet Data) (goal : GoalId)
    (slot : Fin initialGoalQueueCount) :
    ((s.clearGoal goal).pendingGoals slot).ruleId = (s.pendingGoals slot).ruleId := by
  simp only [clearGoal]
  split <;> rfl

variable {slot : Fin initialGoalQueueCount} {rules : RuleTable}

theorem clearGoal_slot_of_used (s : GoalSet Data) (goal : GoalId)
    (used : (s.pendingGoals slot).id ≠ goalIdNone) :
    ((s.clearGoal goal).pendingGoals slot).lockMask =
        removeGoalFromMask (s.pendingGoals slot).lockMask goal ∧
      ((s.clearGoal goal).pendingGoals slot).lock =
        lockFromMask (removeGoalFromMask (s.pendingGoals slot).lockMask goal) := by
  simp [clearGoal, used]

theorem clearGoal_slot_of_unused (s : GoalSet Data) (goal : GoalId)
    (unused : (s.pendingGoals slot).id = goalIdNone) :
    (s.clearGoal goal).pendingGoals slot = s.pendingGoals slot := by
  simp [clearGoal, unused]

theorem SlotsAgree.clearGoal {delivered : Option GoalId} (agree : SlotsAgree rules delivered s)
    (goal : GoalId) :
    SlotsAgree rules delivered (s.clearGoal goal) where
  tableSize := agree.tableSize
  activeInTable := by
    intro other active
    apply agree.activeInTable
    simp only [GoalSet.clearGoal, removeGoalFromMask_getLsbD, Bool.and_eq_true] at active
    exact active.1
  slotInTable := by simpa using agree.slotInTable
  slotsDistinct := by simpa using agree.slotsDistinct
  slotEmpty := by
    intro slot unused
    rw [clearGoal_slot_id] at unused
    rw [clearGoal_slot_of_unused s goal unused]
    exact agree.slotEmpty slot unused
  slotRule := by simpa using agree.slotRule
  slotPending := by simpa using agree.slotPending
  messageSlot := by simpa using agree.messageSlot
  lockOfMask := by
    intro slot
    by_cases used : (s.pendingGoals slot).id = goalIdNone
    · rw [clearGoal_slot_of_unused s goal used]
      exact agree.lockOfMask slot
    · obtain ⟨mask, lock⟩ := clearGoal_slot_of_used s goal used
      rw [mask, lock, lockFromMask_eq_zero_iff]
  messageCount := agree.messageCount

theorem waitMaskFor_clearGoal (s : GoalSet Data) (goal other : GoalId) :
    (s.clearGoal goal).waitMaskFor other = removeGoalFromMask (s.waitMaskFor other) goal := by
  have entry : (s.clearGoal goal).goalEntry other = s.goalEntry other := rfl
  unfold waitMaskFor
  rw [entry]
  by_cases concurrent : (s.goalEntry other).contention = .concurrent
  · rw [if_pos concurrent, if_pos concurrent]
    exact (removeGoalFromMask_and _ _ _).symm
  · rw [if_neg concurrent, if_neg concurrent]
    rfl

theorem LocksCurrent.clearGoal (locks : LocksCurrent s)
    (goal : GoalId) : LocksCurrent (s.clearGoal goal) := by
  intro slot used
  rw [clearGoal_slot_id] at used ⊢
  rw [(clearGoal_slot_of_used s goal used).1, locks slot used, waitMaskFor_clearGoal]

theorem QueueInvariant.clearGoal (invariant : QueueInvariant rules s) (goal : GoalId) :
    QueueInvariant rules (s.clearGoal goal) :=
  ⟨invariant.agree.clearGoal goal, invariant.locks.clearGoal goal⟩

/-- What a run of synchronous `GoalsEngine_ClearGoal` calls keeps. -/
theorem clearGoals_induction {motive : GoalSet Data → Prop}
    (preserved : ∀ s goal, motive s → motive (s.clearGoal goal))
    (cleared : List GoalId) (initial : motive s) : motive (cleared.foldl GoalSet.clearGoal s) := by
  induction cleared generalizing s with
  | nil => exact initial
  | cons goal cleared ih => exact ih (preserved s goal initial)

theorem clearGoals_frame (cleared : List GoalId) (s : GoalSet Data) :
    (cleared.foldl GoalSet.clearGoal s).goals = s.goals ∧
      (cleared.foldl GoalSet.clearGoal s).queueTask = s.queueTask ∧
      (cleared.foldl GoalSet.clearGoal s).queueMsgCount = s.queueMsgCount ∧
      (cleared.foldl GoalSet.clearGoal s).started = s.started :=
  clearGoals_induction (motive := fun t => t.goals = s.goals ∧
      t.queueTask = s.queueTask ∧ t.queueMsgCount = s.queueMsgCount ∧
      t.started = s.started)
    (fun _ _ kept => kept) cleared ⟨rfl, rfl, rfl, rfl⟩

end Clear

section Flush

theorem clearPendingGoalsQueue_eq (s : GoalSet Data) :
    s.clearPendingGoalsQueue =
      { s with queueTask := [], queueMsgCount := 0, pendingGoals := fun _ => .empty } := by
  simp [clearPendingGoalsQueue, resetPendingQueueIfEmpty, goalQueueSize]

variable {rules : RuleTable} {s : GoalSet Data}

theorem queueInvariant_of_flushed (tableSize : s.goals.length ≤ goalIdMax)
    (activeInTable : ∀ goal, s.activeGoalsMask.getLsbD goal = true →
      goal ≠ goalIdNone ∧ goal < s.goals.length) (slots : s.pendingGoals = fun _ => .empty)
    (messages : s.queueTask = []) (count : s.queueMsgCount = 0) : QueueInvariant rules s := by
  refine ⟨⟨tableSize, activeInTable, ?_, ?_, ?_, ?_, ?_, ?_, ?_, ?_⟩, ?_⟩ <;>
    simp [slots, messages, count, PendingGoalEntry.empty, LocksCurrent, goalIdNone]

theorem SlotsAgree.clearPendingGoalsQueue {delivered : Option GoalId}
    (agree : SlotsAgree rules delivered s) : QueueInvariant rules s.clearPendingGoalsQueue := by
  rw [clearPendingGoalsQueue_eq]
  exact queueInvariant_of_flushed agree.tableSize agree.activeInTable rfl rfl rfl

end Flush

section Deque

variable {s : GoalSet Data} {goal : GoalId} {rules : RuleTable}

theorem findSlot_eq_some {slot : Fin initialGoalQueueCount}
    (found : ((List.finRange initialGoalQueueCount).find? fun slot =>
      (s.pendingGoals slot).id == goal) = some slot) : (s.pendingGoals slot).id = goal := by
  simpa using List.find?_some found

theorem findSlot_eq_none (missing : ((List.finRange initialGoalQueueCount).find? fun slot =>
      (s.pendingGoals slot).id == goal) = none)
    (slot : Fin initialGoalQueueCount) : (s.pendingGoals slot).id ≠ goal := by
  simpa using List.find?_eq_none.mp missing slot (List.mem_finRange slot)

theorem ruleOf_injective {first second : GoalId}
    (firstLe : first ≤ goalIdMax) (secondLe : second ≤ goalIdMax)
    (equal : rules.ruleOf first = rules.ruleOf second) : first = second := by
  rw [← rules.goalOf_ruleOf first firstLe, ← rules.goalOf_ruleOf second secondLe, equal]

variable {delivered : Option GoalId}

theorem SlotsAgree.slot_eq_of_ruleId (agree : SlotsAgree rules delivered s)
    {first second : Fin initialGoalQueueCount} (firstUsed : (s.pendingGoals first).id ≠ goalIdNone)
    (secondUsed : (s.pendingGoals second).id ≠ goalIdNone)
    (equal : (s.pendingGoals first).ruleId = (s.pendingGoals second).ruleId) : first = second := by
  apply agree.slotsDistinct first second firstUsed
  have firstBound := agree.slotInTable first firstUsed
  have secondBound := agree.slotInTable second secondUsed
  have tableSize := agree.tableSize
  rw [agree.slotRule first firstUsed, agree.slotRule second secondUsed] at equal
  exact ruleOf_injective (firstBound.le.trans tableSize)
    (secondBound.le.trans tableSize) equal

theorem dequeGoal_frame (s : GoalSet Data) (goal : GoalId) :
    (s.dequeGoal goal).goals = s.goals ∧ (s.dequeGoal goal).activeGoalsMask = s.activeGoalsMask ∧
      (s.dequeGoal goal).started = s.started ∧
      (s.dequeGoal goal).queueTask.Sublist s.queueTask := by
  unfold dequeGoal
  split
  · exact ⟨rfl, rfl, rfl, List.Sublist.refl _⟩
  · exact ⟨rfl, rfl, rfl, List.filter_sublist⟩

theorem SlotsAgree.dequeGoal (agree : SlotsAgree rules delivered s)
    (bounded : s.queueTask.length < 256) (real : goal ≠ goalIdNone) :
    SlotsAgree rules delivered (s.dequeGoal goal) := by
  unfold GoalSet.dequeGoal
  split
  case h_1 => exact agree
  case h_2 slot found =>
    have holds := findSlot_eq_some found
    have used : (s.pendingGoals slot).id ≠ goalIdNone := by rwa [holds]
    have others {other : Fin initialGoalQueueCount}
        (otherUsed : (Function.update s.pendingGoals slot .empty other).id ≠
          goalIdNone) :
        other ≠ slot ∧ (s.pendingGoals other).id ≠ goalIdNone := by
      by_cases equal : other = slot
      · subst equal
        simp [PendingGoalEntry.empty, goalIdNone] at otherUsed
      · simpa [update_of_ne equal, equal] using otherUsed
    have kept {message : PendingMessage Data} (member : message ∈ s.queueTask)
        (different : message.ruleId ≠ (s.pendingGoals slot).ruleId) :
        message.lockSlot ≠ slot := by
      rintro rfl
      exact different (agree.messageSlot message member).2
    refine ⟨agree.tableSize, agree.activeInTable, ?_, ?_, ?_, ?_, ?_, ?_, ?_, ?_⟩
    · intro other otherUsed
      obtain ⟨different, used'⟩ := others otherUsed
      simpa [update_of_ne different] using agree.slotInTable other used'
    · intro first second firstUsed equal
      obtain ⟨firstDifferent, firstUsed'⟩ := others firstUsed
      obtain ⟨secondDifferent, _⟩ := others (equal ▸ firstUsed)
      simp only [update_of_ne firstDifferent, update_of_ne secondDifferent] at equal
      exact agree.slotsDistinct first second firstUsed' equal
    · intro other unused
      by_cases equal : other = slot
      · subst equal
        simp
      · simp only [update_of_ne equal] at unused ⊢
        exact agree.slotEmpty other unused
    · intro other otherUsed
      obtain ⟨different, used'⟩ := others otherUsed
      simpa [update_of_ne different] using agree.slotRule other used'
    · intro other otherUsed notDelivered
      obtain ⟨different, used'⟩ := others otherUsed
      simp only [update_of_ne different] at notDelivered ⊢
      obtain ⟨message, member, rule⟩ := agree.slotPending other used' notDelivered
      refine ⟨message, List.mem_filter.mpr ⟨member, ?_⟩, rule⟩
      simp only [bne_iff_ne, ne_eq]
      intro equal
      exact different (agree.slot_eq_of_ruleId used' used (rule.symm.trans equal))
    · intro message member
      obtain ⟨member, different⟩ := List.mem_filter.mp member
      have differentSlot := kept member (by simpa using different)
      simpa [update_of_ne differentSlot] using
        agree.messageSlot message member
    · intro other
      by_cases equal : other = slot
      · subst equal
        simp [PendingGoalEntry.empty]
      · simpa [update_of_ne equal] using agree.lockOfMask other
    · have split := List.length_eq_countP_add_countP
        (fun message : PendingMessage Data =>
          message.ruleId == (s.pendingGoals slot).ruleId) (l := s.queueTask)
      have rest : (s.queueTask.filter fun message =>
          message.ruleId != (s.pendingGoals slot).ruleId).length =
          s.queueTask.countP fun message =>
            ¬ (message.ruleId == (s.pendingGoals slot).ruleId) = true := by
        rw [List.countP_eq_length_filter]
        congr 1
        apply List.filter_congr
        intro message _
        simp only [bne, beq_iff_eq, decide_not]
        rfl
      simp only [agree.messageCount, rest]
      omega

theorem LocksCurrent.dequeGoal (locks : LocksCurrent s)
    (goal : GoalId) : LocksCurrent (s.dequeGoal goal) := by
  unfold GoalSet.dequeGoal
  split
  case h_1 => exact locks
  case h_2 slot found =>
    intro other otherUsed
    by_cases equal : other = slot
    · subst equal
      simp [PendingGoalEntry.empty, goalIdNone] at otherUsed
    · simp only [update_of_ne equal] at otherUsed ⊢
      exact locks other otherUsed

end Deque

section Start

variable {rules : RuleTable} {delivered : Option GoalId} {s : GoalSet Data}

theorem handleConcurrentGoals_active (s : GoalSet Data) (goal : GoalId) :
    s.handleConcurrentGoals goal s.activeGoalsMask = s.waitMaskFor goal := by
  simp [handleConcurrentGoals, waitMaskFor, goalRunsConcurrently]

@[simp]
theorem updateQueueEntry_empty (s : GoalSet Data) : s.updateQueueEntry .empty = .empty := by
  simp [updateQueueEntry, PendingGoalEntry.empty]

theorem SlotsAgree.updateQueueEntry_used
    (agree : SlotsAgree rules delivered s) {slot : Fin initialGoalQueueCount}
    (used : (s.pendingGoals slot).id ≠ goalIdNone) :
    (s.messagePending (s.pendingGoals slot).ruleId = false ∧
        s.updateQueueEntry (s.pendingGoals slot) = .empty) ∨
      (s.messagePending (s.pendingGoals slot).ruleId = true ∧
        (s.updateQueueEntry (s.pendingGoals slot)).id = (s.pendingGoals slot).id ∧
        (s.updateQueueEntry (s.pendingGoals slot)).ruleId = (s.pendingGoals slot).ruleId ∧
        (s.updateQueueEntry (s.pendingGoals slot)).lockMask =
          s.waitMaskFor (s.pendingGoals slot).id ∧
        ((s.updateQueueEntry (s.pendingGoals slot)).lock = 0 ↔
          (s.updateQueueEntry (s.pendingGoals slot)).lockMask = 0)) := by
  cases pending : s.messagePending (s.pendingGoals slot).ruleId with
  | false => exact Or.inl ⟨rfl, by simp [updateQueueEntry, pending]⟩
  | true =>
    right
    have ruleNonzero : (s.pendingGoals slot).ruleId ≠ 0 := by
      rw [agree.slotRule slot used]
      exact rules.ruleOf_ne_zero _
        ((agree.slotInTable slot used).le.trans agree.tableSize)
    by_cases changed : s.waitMaskFor (s.pendingGoals slot).id = (s.pendingGoals slot).lockMask
    · have unchanged : s.updateQueueEntry (s.pendingGoals slot) = s.pendingGoals slot := by
        simp [updateQueueEntry, pending, ruleNonzero, handleConcurrentGoals_active, changed]
      rw [unchanged]
      exact ⟨rfl, rfl, rfl, changed.symm, agree.lockOfMask slot⟩
    · simp [updateQueueEntry, pending, ruleNonzero,
        handleConcurrentGoals_active, changed, lockFromMask_eq_zero_iff]

theorem updateQueueMasks_frame (s : GoalSet Data) :
    s.updateQueueMasks.goals = s.goals ∧ s.updateQueueMasks.activeGoalsMask = s.activeGoalsMask ∧
      s.updateQueueMasks.queueTask = s.queueTask ∧
      s.updateQueueMasks.queueMsgCount = s.queueMsgCount ∧
      s.updateQueueMasks.started = s.started := by
  unfold updateQueueMasks
  split <;> simp

theorem messagePending_iff (s : GoalSet Data) (ruleId : MessageId) :
    s.messagePending ruleId = true ↔
      ∃ message ∈ s.queueTask, message.ruleId = ruleId := by
  simp [messagePending]

theorem SlotsAgree.updateQueueMasks
    (agree : SlotsAgree rules delivered s) (queued : s.queueMsgCount ≠ 0) :
    QueueInvariant rules s.updateQueueMasks := by
  have shape : s.updateQueueMasks = { s with
        pendingGoals := fun slot => s.updateQueueEntry (s.pendingGoals slot) } := by
    simp [GoalSet.updateQueueMasks, queued]
  rw [shape]
  have unusedEmpty {slot : Fin initialGoalQueueCount}
      (unused : (s.pendingGoals slot).id = goalIdNone) :
      s.updateQueueEntry (s.pendingGoals slot) = .empty := by
    rw [agree.slotEmpty slot unused, updateQueueEntry_empty]
  have stillUsed {slot : Fin initialGoalQueueCount}
      (used : (s.updateQueueEntry (s.pendingGoals slot)).id ≠ goalIdNone) :
      (s.pendingGoals slot).id ≠ goalIdNone ∧ s.messagePending (s.pendingGoals slot).ruleId = true ∧
        (s.updateQueueEntry (s.pendingGoals slot)).id = (s.pendingGoals slot).id ∧
        (s.updateQueueEntry (s.pendingGoals slot)).ruleId = (s.pendingGoals slot).ruleId ∧
        (s.updateQueueEntry (s.pendingGoals slot)).lockMask =
          s.waitMaskFor (s.pendingGoals slot).id := by
    by_cases unused : (s.pendingGoals slot).id = goalIdNone
    · rw [unusedEmpty unused] at used
      exact absurd rfl used
    · rcases agree.updateQueueEntry_used unused with ⟨_, emptied⟩ | kept
      · rw [emptied] at used
        exact absurd rfl used
      · exact ⟨unused, kept.1, kept.2.1, kept.2.2.1, kept.2.2.2.1⟩
  refine ⟨⟨agree.tableSize, agree.activeInTable, ?_, ?_, ?_, ?_, ?_, ?_, ?_,
    agree.messageCount⟩, ?_⟩
  · intro slot used
    obtain ⟨used', _, id, _⟩ := stillUsed used
    rw [id]
    exact agree.slotInTable slot used'
  · intro first second used equal
    obtain ⟨firstUsed, _, firstId, _⟩ := stillUsed used
    obtain ⟨_, _, secondId, _⟩ := @stillUsed second (by rwa [equal] at used)
    exact agree.slotsDistinct first second firstUsed
      (firstId.symm.trans (equal.trans secondId))
  · intro slot unused
    by_cases unusedBefore : (s.pendingGoals slot).id = goalIdNone
    · exact unusedEmpty unusedBefore
    · rcases agree.updateQueueEntry_used unusedBefore with ⟨_, emptied⟩ | kept
      · exact emptied
      · exact absurd (kept.2.1.symm.trans unused) unusedBefore
  · intro slot used
    obtain ⟨used', _, id, rule, _⟩ := stillUsed used
    rw [id, rule]
    exact agree.slotRule slot used'
  · intro slot used _
    obtain ⟨_, pending, _, rule, _⟩ := stillUsed used
    rw [rule]
    exact (messagePending_iff s _).mp pending
  · intro message member
    obtain ⟨used, rule⟩ := agree.messageSlot message member
    have pending := (messagePending_iff s (s.pendingGoals message.lockSlot).ruleId).mpr
      ⟨message, member, rule⟩
    rcases agree.updateQueueEntry_used used with ⟨notPending, _⟩ | kept
    · rw [pending] at notPending
      contradiction
    · rw [kept.2.1, kept.2.2.1]
      exact ⟨used, rule⟩
  · intro slot
    by_cases unused : (s.pendingGoals slot).id = goalIdNone
    · simp only [unusedEmpty unused]
      simp [PendingGoalEntry.empty]
    · rcases agree.updateQueueEntry_used unused with ⟨_, emptied⟩ | kept
      · simp only [emptied]
        simp [PendingGoalEntry.empty]
      · exact kept.2.2.2.2
  · intro slot used
    obtain ⟨_, _, id, _, mask⟩ := stillUsed used
    rw [mask, id]
    rfl

theorem resetPendingQueueIfEmpty_frame (s : GoalSet Data) :
    s.resetPendingQueueIfEmpty.goals = s.goals ∧
      s.resetPendingQueueIfEmpty.activeGoalsMask = s.activeGoalsMask ∧
      s.resetPendingQueueIfEmpty.queueTask = s.queueTask ∧
      s.resetPendingQueueIfEmpty.queueMsgCount = s.queueMsgCount ∧
      s.resetPendingQueueIfEmpty.started = s.started := by
  unfold resetPendingQueueIfEmpty
  split <;> simp

theorem SlotsAgree.queueTask_eq_nil (agree : SlotsAgree rules delivered s)
    (empty : s.queueMsgCount = 0) : s.queueTask = [] := by
  rw [← List.length_eq_zero_iff, ← agree.messageCount, empty]

theorem SlotsAgree.resetPendingQueueIfEmpty (agree : SlotsAgree rules none s) :
    SlotsAgree rules none s.resetPendingQueueIfEmpty := by
  unfold GoalSet.resetPendingQueueIfEmpty goalQueueSize
  split
  case isTrue empty =>
    have flushed : QueueInvariant rules { s with pendingGoals := fun _ => .empty } :=
      queueInvariant_of_flushed agree.tableSize agree.activeInTable rfl
        (agree.queueTask_eq_nil empty) empty
    exact flushed.agree
  case isFalse => exact agree

theorem QueueInvariant.resetPendingQueueIfEmpty (invariant : QueueInvariant rules s) :
    QueueInvariant rules s.resetPendingQueueIfEmpty := by
  refine ⟨invariant.agree.resetPendingQueueIfEmpty, ?_⟩
  unfold GoalSet.resetPendingQueueIfEmpty
  split
  case isTrue => exact fun _ used => absurd rfl used
  case isFalse => exact invariant.locks

theorem SlotsAgree.startable (agree : SlotsAgree rules delivered s) {goal : GoalId}
    (real : goal ≠ goalIdNone) (inTable : goal < s.goals.length) (started : List (GoalId × Data)) :
    SlotsAgree rules delivered
      { s with
        activeGoalsMask := s.activeGoalsMask ||| goalMask goal
        started := started } :=
  { agree with
    activeInTable := by
      intro other active
      simp only [BitVec.getLsbD_or, goalMask_getLsbD, Bool.or_eq_true,
        Bool.and_eq_true, decide_eq_true_eq] at active
      rcases active with before | ⟨_, rfl⟩
      · exact agree.activeInTable other before
      · exact ⟨real, inTable⟩ }

theorem startGoal_frame (procs : Procedures) (s : GoalSet Data) (goal : GoalId)
    (data : Data) :
    (s.startGoal procs goal data).goals = s.goals ∧
      (s.startGoal procs goal data).queueTask = s.queueTask ∧
      (s.startGoal procs goal data).queueMsgCount = s.queueMsgCount ∧
      (s.startGoal procs goal data).started = s.started ++ [(goal, data)] := by
  obtain ⟨goals, _, queue, count, started⟩ := updateQueueMasks_frame
    ((procs.start goal).foldl GoalSet.clearGoal
      { s with
        activeGoalsMask := s.activeGoalsMask ||| goalMask goal
        started := s.started ++ [(goal, data)] })
  obtain ⟨goals', queue', count', started'⟩ := clearGoals_frame (procs.start goal)
    { s with
      activeGoalsMask := s.activeGoalsMask ||| goalMask goal
      started := s.started ++ [(goal, data)] }
  exact ⟨goals.trans goals', queue.trans queue', count.trans count', started.trans started'⟩

theorem SlotsAgree.startGoal (agree : SlotsAgree rules delivered s)
    (procs : Procedures) {goal : GoalId} (real : goal ≠ goalIdNone)
    (inTable : goal < s.goals.length) (data : Data) :
    QueueInvariant rules (s.startGoal procs goal data).resetPendingQueueIfEmpty := by
  have cleared := clearGoals_induction
    (motive := fun t : GoalSet Data => SlotsAgree rules delivered t)
    (fun _ other kept => kept.clearGoal other) (procs.start goal)
    (agree.startable real inTable (s.started ++ [(goal, data)]))
  obtain ⟨_, _, count, _⟩ := startGoal_frame procs s goal data
  by_cases queued : s.queueMsgCount = 0
  · have startCount : (s.startGoal procs goal data).queueMsgCount = 0 :=
      count.trans queued
    have messages : (s.startGoal procs goal data).queueTask = [] := by
      rw [(startGoal_frame procs s goal data).2.1, agree.queueTask_eq_nil queued]
    have shape : (s.startGoal procs goal data).resetPendingQueueIfEmpty =
        { s.startGoal procs goal data with pendingGoals := fun _ => .empty } := by
      simp [GoalSet.resetPendingQueueIfEmpty, goalQueueSize, startCount]
    rw [shape]
    obtain ⟨goals, active, _⟩ := updateQueueMasks_frame
      ((procs.start goal).foldl GoalSet.clearGoal
        { s with
          activeGoalsMask := s.activeGoalsMask ||| goalMask goal
          started := s.started ++ [(goal, data)] })
    refine queueInvariant_of_flushed ?_ ?_ rfl messages startCount
    · exact goals ▸ cleared.tableSize
    · intro other
      simp only [GoalSet.startGoal, goals, active]
      exact cleared.activeInTable other
  · apply QueueInvariant.resetPendingQueueIfEmpty
    exact cleared.updateQueueMasks (by
      rw [(clearGoals_frame (procs.start goal) _).2.2.1]
      exact queued)

end Start

end HeadsetAdk.GoalsEngine
