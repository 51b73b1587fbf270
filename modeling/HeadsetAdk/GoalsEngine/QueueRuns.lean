import HeadsetAdk.GoalsEngine.QueueInvariant

/-! # Runs of the goals engine -/

namespace HeadsetAdk.GoalsEngine

open GoalSet

variable {Data : Type}

section Queue

variable {s s' : GoalSet Data} {newGoal : GoalId} {data : Data}

theorem queueSlot_spec
    {slot : Fin initialGoalQueueCount} (found : s.queueSlot newGoal = some slot) :
    (s.pendingGoals slot).id = newGoal ∨ ((s.pendingGoals slot).id = goalIdNone ∧
        ∀ other, (s.pendingGoals other).id ≠ newGoal) := by
  unfold queueSlot at found
  rcases Option.or_eq_some_iff.mp found with held | ⟨missing, unused⟩
  · exact Or.inl (findSlot_eq_some held)
  · exact Or.inr ⟨findSlot_eq_some unused, findSlot_eq_none missing⟩

variable {ruleId : MessageId} {waitMask : GoalMask}

theorem queueGoal_eq_some (queued : s.queueGoal ruleId data waitMask newGoal = some s') :
    ∃ slot, s.queueSlot newGoal = some slot ∧
      s'.goals = s.goals ∧ s'.activeGoalsMask = s.activeGoalsMask ∧ s'.started = s.started ∧
      s'.queueMsgCount = (s.queueMsgCount + 1) % 256 ∧
      s'.queueTask = s.queueTask ++ [⟨ruleId, data, slot⟩] ∧
      s'.pendingGoals = Function.update s.pendingGoals slot
        ⟨newGoal, ruleId, lockFromMask waitMask, waitMask⟩ := by
  obtain ⟨slot, found, rfl⟩ := Option.map_eq_some_iff.mp queued
  exact ⟨slot, found, rfl, rfl, rfl, rfl, rfl, rfl⟩

/-- Queueing a goal keeps the slots and the messages in agreement, also when its
slot had just lost its last message. -/
theorem SlotsAgree.queueGoal {rules : RuleTable} {delivered : Option GoalId}
    (agree : SlotsAgree rules delivered s) (exempt : delivered = none ∨ delivered = some newGoal)
    (real : newGoal ≠ goalIdNone) (inTable : newGoal < s.goals.length)
    (queued : s.queueGoal (rules.ruleOf newGoal) data waitMask newGoal = some s')
    (bounded : s'.queueTask.length < 256) : SlotsAgree rules none s' := by
  obtain ⟨slot, found, goals, active, _, count, messages, slots⟩ := queueGoal_eq_some queued
  have held : (s'.pendingGoals slot) = ⟨newGoal, rules.ruleOf newGoal,
      lockFromMask waitMask, waitMask⟩ := by
    simp [slots]
  have other {index : Fin initialGoalQueueCount} (different : index ≠ slot) :
      s'.pendingGoals index = s.pendingGoals index := by
    simp [slots, different]
  -- The goal holds no slot but the one it is queued in.
  have onlySlot {index : Fin initialGoalQueueCount} (different : index ≠ slot) :
      (s.pendingGoals index).id ≠ newGoal := by
    rcases queueSlot_spec found with same | ⟨_, missing⟩
    · intro equal
      exact different (agree.slotsDistinct index slot (by rwa [equal])
        (equal.trans same.symm))
    · exact missing index
  have usedSlotRule {message : PendingMessage Data} (member : message ∈ s.queueTask)
      (here : message.lockSlot = slot) :
      message.ruleId = rules.ruleOf newGoal := by
    obtain ⟨used, rule⟩ := agree.messageSlot message member
    rw [here] at used rule
    rcases queueSlot_spec found with same | ⟨unused, _⟩
    · rw [rule, agree.slotRule slot used, same]
    · exact absurd unused used
  refine ⟨by rw [goals]; exact agree.tableSize, ?_, ?_, ?_, ?_, ?_, ?_, ?_, ?_, ?_⟩
  · rw [active, goals]
    exact agree.activeInTable
  · intro index used
    rw [goals]
    by_cases here : index = slot
    · rw [here, held]
      exact inTable
    · rw [other here] at used ⊢
      exact agree.slotInTable index used
  · intro first second used equal
    by_cases firstHere : first = slot <;> by_cases secondHere : second = slot
    · rw [firstHere, secondHere]
    · rw [firstHere, held, other secondHere] at equal
      exact absurd equal.symm (onlySlot secondHere)
    · rw [secondHere, held, other firstHere] at equal
      exact absurd equal (onlySlot firstHere)
    · rw [other firstHere] at used
      rw [other firstHere, other secondHere] at equal
      exact agree.slotsDistinct first second used equal
  · intro index unused
    by_cases here : index = slot
    · rw [here, held] at unused
      exact absurd unused real
    · rw [other here] at unused ⊢
      exact agree.slotEmpty index unused
  · intro index used
    by_cases here : index = slot
    · rw [here, held]
    · rw [other here] at used ⊢
      exact agree.slotRule index used
  · intro index used _
    rw [messages]
    by_cases here : index = slot
    · rw [here, held]
      exact ⟨_, List.mem_append_right _ (List.mem_singleton_self _), rfl⟩
    · rw [other here] at used ⊢
      have notDelivered : some (s.pendingGoals index).id ≠ delivered := by
        rcases exempt with rfl | rfl
        · simp
        · simpa using onlySlot here
      obtain ⟨message, member, rule⟩ := agree.slotPending index used notDelivered
      exact ⟨message, List.mem_append_left _ member, rule⟩
  · intro message member
    rw [messages, List.mem_append, List.mem_singleton] at member
    rcases member with member | rfl
    · by_cases here : message.lockSlot = slot
      · rw [here, held]
        exact ⟨real, usedSlotRule member here⟩
      · rw [other here]
        exact agree.messageSlot message member
    · simp [held, real]
  · intro index
    by_cases here : index = slot
    · rw [here, held]
      exact lockFromMask_eq_zero_iff _
    · rw [other here]
      exact agree.lockOfMask index
  · have lengthEq : s'.queueTask.length = s.queueTask.length + 1 := by
      simp [messages]
    rw [count, agree.messageCount]
    omega

theorem LocksCurrent.queueGoal (locks : LocksCurrent s)
    (queued : s.queueGoal ruleId data (s.waitMaskFor newGoal) newGoal = some s') :
    LocksCurrent s' := by
  obtain ⟨slot, _, goals, active, _, _, _, slots⟩ := queueGoal_eq_some queued
  have waitMask (goal : GoalId) : s'.waitMaskFor goal = s.waitMaskFor goal := by
    simp [waitMaskFor, goalEntry, goals, active]
  intro index used
  rw [waitMask]
  by_cases here : index = slot
  · simp [slots, here]
  · rw [slots, Function.update_of_ne here] at used ⊢
    exact locks index used

end Queue

section Exclusive

variable {procs : Procedures} {s : GoalSet Data} {newGoal : GoalId}

theorem clearGoals_active (cleared : List GoalId) (s : GoalSet Data)
    (index : Nat) :
    (cleared.foldl GoalSet.clearGoal s).activeGoalsMask.getLsbD index =
      (s.activeGoalsMask.getLsbD index && !decide (index ∈ cleared)) := by
  induction cleared generalizing s with
  | nil => simp
  | cons goal cleared ih =>
    rw [List.foldl_cons, ih]
    have head : (s.clearGoal goal).activeGoalsMask.getLsbD index =
        (s.activeGoalsMask.getLsbD index && !decide (index = goal)) :=
      removeGoalFromMask_getLsbD s.activeGoalsMask goal index
    rw [head]
    by_cases equal : index = goal <;> simp [equal]

def CancelsOnlyItself (procs : Procedures) (s : GoalSet Data)
    (exclusiveGoal : GoalId) : Prop :=
  ∀ cleared ∈ procs.cancel exclusiveGoal, cleared ≠ exclusiveGoal →
    s.isGoalActive cleared = false

variable {exclusiveGoal : GoalId}

theorem cancelGoal_active (own : CancelsOnlyItself procs s exclusiveGoal) :
    (cancelGoal procs s exclusiveGoal).activeGoalsMask =
      if exclusiveGoal ∈ procs.cancel exclusiveGoal then
        removeGoalFromMask s.activeGoalsMask exclusiveGoal else s.activeGoalsMask := by
  have bits (index : Nat) (inside : index < 64) :
      (cancelGoal procs s exclusiveGoal).activeGoalsMask.getLsbD index =
        (s.activeGoalsMask.getLsbD index &&
          !decide (index = exclusiveGoal ∧ exclusiveGoal ∈ procs.cancel exclusiveGoal)) := by
    rw [cancelGoal, clearGoals_active]
    by_cases member : index ∈ procs.cancel exclusiveGoal
    · by_cases equal : index = exclusiveGoal
      · subst equal
        simp [member]
      · have inactive := own index member equal
        rw [isGoalActive_iff_getLsbD s inside] at inactive
        simp [inactive]
    · have notBoth : ¬ (index = exclusiveGoal ∧ exclusiveGoal ∈ procs.cancel exclusiveGoal) := by
        rintro ⟨rfl, member'⟩
        exact member member'
      simp [member, notBoth]
  ext index indexLt
  rw [← BitVec.getLsbD_eq_getElem, ← BitVec.getLsbD_eq_getElem, bits index indexLt]
  split
  case isTrue member => simp [removeGoalFromMask_getLsbD, member]
  case isFalse notMember => simp [notMember]

theorem waitMaskFor_congr {t : GoalSet Data} (goals : t.goals = s.goals)
    {mask : GoalMask} (active : t.activeGoalsMask = mask) (goal : GoalId) :
    t.waitMaskFor goal = s.handleConcurrentGoals goal mask := by
  rw [← handleConcurrentGoals_active, active]
  simp [handleConcurrentGoals, goalRunsConcurrently, goalEntry, goals]

theorem handleConcurrentGoals_remove (s : GoalSet Data) (goal removed : GoalId)
    (mask : GoalMask) :
    s.handleConcurrentGoals goal (removeGoalFromMask mask removed) =
      removeGoalFromMask (s.handleConcurrentGoals goal mask) removed := by
  unfold handleConcurrentGoals
  split
  · exact (removeGoalFromMask_and _ _ _).symm
  · rfl

/-- The goal named as exclusive is active, so `goalsEngine_HandleExclusiveGoals`
does something. -/
def ExclusiveActive (s : GoalSet Data) (newGoal : GoalId) : Prop :=
  (s.goalEntry newGoal).exclusiveGoal ≠ goalIdNone ∧
    (s.goalEntry newGoal).exclusiveGoal < s.goals.length ∧
    s.isGoalActive (s.goalEntry newGoal).exclusiveGoal = true

theorem handleExclusiveGoals_inactive (inactive : ¬ ExclusiveActive s newGoal)
    (waitMask : GoalMask) : handleExclusiveGoals procs s newGoal waitMask = (s, waitMask) := by
  unfold handleExclusiveGoals
  exact if_neg inactive

theorem handleExclusiveGoals_active (named : (s.goalEntry newGoal).exclusiveGoal = exclusiveGoal)
    (active : ExclusiveActive s newGoal) (waitMask : GoalMask) :
    handleExclusiveGoals procs s newGoal waitMask =
      (cancelGoal procs (s.dequeGoal exclusiveGoal) exclusiveGoal,
        if (cancelGoal procs (s.dequeGoal exclusiveGoal) exclusiveGoal).isGoalActive
            exclusiveGoal = true then waitMask else removeGoalFromMask waitMask exclusiveGoal) := by
  subst named
  unfold handleExclusiveGoals
  dsimp only
  rw [if_pos (by exact active)]
  split <;> rfl

theorem handleExclusiveGoals_frame (procs : Procedures) (s : GoalSet Data)
    (newGoal : GoalId) (waitMask : GoalMask) :
    (handleExclusiveGoals procs s newGoal waitMask).1.goals = s.goals ∧
      (handleExclusiveGoals procs s newGoal waitMask).1.started = s.started ∧
      (handleExclusiveGoals procs s newGoal waitMask).1.queueTask.Sublist
        s.queueTask := by
  by_cases active : ExclusiveActive s newGoal
  · rw [handleExclusiveGoals_active rfl active]
    obtain ⟨goals, _, started, queue⟩ := dequeGoal_frame s (s.goalEntry newGoal).exclusiveGoal
    obtain ⟨goals', queue', _, started'⟩ := clearGoals_frame
      (procs.cancel (s.goalEntry newGoal).exclusiveGoal)
      (s.dequeGoal (s.goalEntry newGoal).exclusiveGoal)
    exact ⟨goals'.trans goals, started'.trans started, by
      rw [cancelGoal, queue']
      exact queue⟩
  · rw [handleExclusiveGoals_inactive active]
    exact ⟨rfl, rfl, List.Sublist.refl _⟩

theorem SlotsAgree.handleExclusiveGoals {rules : RuleTable} {delivered : Option GoalId}
    (agree : SlotsAgree rules delivered s) (bounded : s.queueTask.length < 256)
    (procs : Procedures) (newGoal : GoalId) (waitMask : GoalMask) : SlotsAgree rules delivered
      (GoalSet.handleExclusiveGoals procs s newGoal waitMask).1 := by
  by_cases active : ExclusiveActive s newGoal
  · rw [handleExclusiveGoals_active rfl active]
    exact clearGoals_induction (motive := fun t : GoalSet Data => SlotsAgree rules delivered t)
      (fun _ other kept => kept.clearGoal other) _ (agree.dequeGoal bounded active.1)
  · rw [handleExclusiveGoals_inactive active]
    exact agree

theorem LocksCurrent.handleExclusiveGoals (locks : LocksCurrent s)
    (procs : Procedures) (newGoal : GoalId) (waitMask : GoalMask) :
    LocksCurrent (GoalSet.handleExclusiveGoals procs s newGoal waitMask).1 := by
  by_cases active : ExclusiveActive s newGoal
  · rw [handleExclusiveGoals_active rfl active]
    exact clearGoals_induction (motive := fun t : GoalSet Data => LocksCurrent t)
      (fun _ other kept => kept.clearGoal other) _ (locks.dequeGoal _)
  · rw [handleExclusiveGoals_inactive active]
    exact locks

theorem handleExclusiveGoals_waitMask (inTable : s.goals.length ≤ goalIdMax)
    (own : ExclusiveActive s newGoal →
      CancelsOnlyItself procs s (s.goalEntry newGoal).exclusiveGoal) :
    (handleExclusiveGoals procs s newGoal (s.waitMaskFor newGoal)).2 =
      (handleExclusiveGoals procs s newGoal (s.waitMaskFor newGoal)).1.waitMaskFor newGoal := by
  by_cases active : ExclusiveActive s newGoal
  · obtain ⟨goals, _⟩ := handleExclusiveGoals_frame procs s newGoal
      (s.waitMaskFor newGoal)
    obtain ⟨exclusiveGoal, named⟩ : ∃ exclusiveGoal,
        (s.goalEntry newGoal).exclusiveGoal = exclusiveGoal := ⟨_, rfl⟩
    have own := own active
    have listed := active.2.1
    have activeBefore := active.2.2
    rw [named] at own listed activeBefore
    have inside : exclusiveGoal < 64 := (listed.trans_le inTable).trans_le (by decide)
    rw [isGoalActive_iff_getLsbD s inside] at activeBefore
    rw [handleExclusiveGoals_active named active] at goals ⊢
    dsimp only at goals ⊢
    obtain ⟨_, dequeActive, _⟩ := dequeGoal_frame s exclusiveGoal
    have ownAfterDeque : CancelsOnlyItself procs (s.dequeGoal exclusiveGoal) exclusiveGoal := by
      intro cleared member different
      simpa [isGoalActive, dequeActive] using own cleared member different
    have activeAfter := cancelGoal_active ownAfterDeque
    rw [dequeActive] at activeAfter
    rw [waitMaskFor_congr goals activeAfter, isGoalActive_iff_getLsbD _ inside, activeAfter]
    by_cases member : exclusiveGoal ∈ procs.cancel exclusiveGoal
    · rw [if_pos member, if_neg (by simp [removeGoalFromMask_getLsbD]),
        handleConcurrentGoals_remove, handleConcurrentGoals_active]
    · rw [if_neg member, if_pos activeBefore, handleConcurrentGoals_active]
  · rw [handleExclusiveGoals_inactive active]

end Exclusive

section Activation

variable {rules : RuleTable} {delivered : Option GoalId} {s s' : GoalSet Data} {procs : Procedures}
  {newGoal : GoalId} {isNewGoal : Bool} {data : Data}

theorem cancelActiveGoals_eq_some (procs : Procedures) (s : GoalSet Data)
    {workingCancelMask : GoalMask}
    (inTable : ∀ goal, workingCancelMask.getLsbD goal = true →
      goal ≠ goalIdNone ∧ goal < s.goals.length) :
    ∃ cleared : List GoalId, cancelActiveGoals procs s workingCancelMask =
      some (cleared.foldl GoalSet.clearGoal s) := by
  unfold cancelActiveGoals
  have members : ∀ goal ∈ (List.range 64).filter
      (fun goal => workingCancelMask.getLsbD goal),
      goal ≠ goalIdNone ∧ goal < s.goals.length := by
    intro goal member
    exact inTable goal (List.mem_filter.mp member).2
  generalize (List.range 64).filter
    (fun goal => workingCancelMask.getLsbD goal) = goals at members
  induction goals generalizing s with
  | nil => exact ⟨[], rfl⟩
  | cons goal goals ih =>
    have head := members goal List.mem_cons_self
    have cancelled : (cancelGoal procs s goal).goals = s.goals :=
      (clearGoals_frame (procs.cancel goal) s).1
    obtain ⟨cleared, tail⟩ := ih (cancelGoal procs s goal)
      (by simpa [cancelled] using inTable)
      (by
        intro other member
        rw [cancelled]
        exact members other (List.mem_cons_of_mem goal member))
    refine ⟨procs.cancel goal ++ cleared, ?_⟩
    rw [List.foldlM_cons, if_pos head, List.foldl_append]
    exact tail

def ExclusiveCancelIsOwn (procs : Procedures) (s : GoalSet Data)
    (newGoal : GoalId) : Prop :=
  s.goalCancelsActive newGoal = false → ExclusiveActive s newGoal →
    CancelsOnlyItself procs s (s.goalEntry newGoal).exclusiveGoal

theorem SlotsAgree.activateCancelGoal (agree : SlotsAgree rules delivered s)
    (real : newGoal ≠ goalIdNone) (inTable : newGoal < s.goals.length)
    (cancels : s.goalCancelsActive newGoal = true)
    (activated : GoalSet.activateCancelGoal procs s newGoal isNewGoal
      (rules.ruleOf newGoal) data = some s') (bounded : s'.queueTask.length < 256) :
    QueueInvariant rules s'.resetPendingQueueIfEmpty := by
  have flushed := agree.clearPendingGoalsQueue
  have flushedGoals : s.clearPendingGoalsQueue.goals = s.goals := by
    rw [clearPendingGoalsQueue_eq]
  obtain ⟨cleared, cancelled⟩ := cancelActiveGoals_eq_some procs
    s.clearPendingGoalsQueue (by rw [flushedGoals]; exact agree.activeInTable)
  unfold GoalSet.activateCancelGoal at activated
  rw [cancelled, Option.bind_eq_bind, Option.bind_some] at activated
  have invariant := clearGoals_induction
    (motive := fun t : GoalSet Data => QueueInvariant rules t)
    (fun _ other kept => kept.clearGoal other) cleared flushed
  have goals : (cleared.foldl GoalSet.clearGoal s.clearPendingGoalsQueue).goals =
      s.goals := (clearGoals_frame cleared _).1.trans flushedGoals
  generalize cleared.foldl GoalSet.clearGoal s.clearPendingGoalsQueue = t
    at activated invariant goals
  have inTable' : newGoal < t.goals.length := by rwa [goals]
  dsimp only at activated
  split at activated
  · cases activated
    exact invariant.agree.startGoal procs real inTable' data
  · have waitMask : t.activeGoalsMask = t.waitMaskFor newGoal := by
      have entry : t.goalEntry newGoal = s.goalEntry newGoal := by
        simp [goalEntry, goals]
      have contention : (t.goalEntry newGoal).contention = .cancel := by
        simpa [goalCancelsActive, entry] using cancels
      simp [waitMaskFor, contention]
    rw [waitMask] at activated
    have queued : QueueInvariant rules s' :=
      ⟨invariant.agree.queueGoal (Or.inl rfl) real inTable' activated bounded,
        invariant.locks.queueGoal activated⟩
    exact queued.resetPendingQueueIfEmpty

section

variable (agree : SlotsAgree rules delivered s) (locks : LocksCurrent s)
  (exempt : delivered = none ∨ delivered = some newGoal) (real : newGoal ≠ goalIdNone)
  (inTable : newGoal < s.goals.length) (boundedBefore : s.queueTask.length < 256)

include agree locks exempt real inTable boundedBefore

theorem SlotsAgree.activateContendingGoal
    (own : ExclusiveActive s newGoal →
      CancelsOnlyItself procs s (s.goalEntry newGoal).exclusiveGoal)
    (activated : GoalSet.activateContendingGoal procs s newGoal isNewGoal
      (rules.ruleOf newGoal) data = some s') (bounded : s'.queueTask.length < 256) :
    QueueInvariant rules s'.resetPendingQueueIfEmpty := by
  unfold GoalSet.activateContendingGoal at activated
  rw [handleConcurrentGoals_active] at activated
  have agree' := agree.handleExclusiveGoals boundedBefore procs newGoal
    (s.waitMaskFor newGoal)
  have locks' := locks.handleExclusiveGoals procs newGoal (s.waitMaskFor newGoal)
  have waitMask := handleExclusiveGoals_waitMask agree.tableSize own
  have goals := (handleExclusiveGoals_frame procs s newGoal (s.waitMaskFor newGoal)).1
  obtain ⟨⟨t, mask⟩, handled⟩ : ∃ result, GoalSet.handleExclusiveGoals procs s
      newGoal (s.waitMaskFor newGoal) = result := ⟨_, rfl⟩
  simp only [handled] at activated agree' locks' waitMask goals
  have inTable' : newGoal < t.goals.length := by rwa [goals]
  split at activated
  · cases activated
    exact agree'.startGoal procs real inTable' data
  · rw [waitMask] at activated
    have queued : QueueInvariant rules s' :=
      ⟨agree'.queueGoal exempt real inTable' activated bounded, locks'.queueGoal activated⟩
    exact queued.resetPendingQueueIfEmpty

theorem SlotsAgree.activateCountedGoal (own : ExclusiveCancelIsOwn procs s newGoal)
    (activated : GoalSet.activateCountedGoal procs s newGoal isNewGoal
      (rules.ruleOf newGoal) data = some s') (bounded : s'.queueTask.length < 256) :
    QueueInvariant rules s' := by
  unfold GoalSet.activateCountedGoal at activated
  split at activated
  · cases activated
    exact agree.clearPendingGoalsQueue
  · obtain ⟨t, inner, rfl⟩ := Option.map_eq_some_iff.mp activated
    rw [(resetPendingQueueIfEmpty_frame t).2.2.1] at bounded
    split at inner
    · cases inner
      exact agree.startGoal procs real inTable data
    · split at inner
      case isTrue cancels =>
        exact agree.activateCancelGoal real inTable cancels inner bounded
      case isFalse notCancels =>
        exact agree.activateContendingGoal locks exempt real inTable boundedBefore
          (own (by simpa using notCancels)) inner bounded

end

end Activation

section Delivery

variable {s : GoalSet Data} {rules : RuleTable} {message : PendingMessage Data}

theorem SlotsAgree.takeMessage {rules : RuleTable}
    (agree : SlotsAgree rules none s) (bounded : s.queueTask.length < 256)
    {index : Nat} {message : PendingMessage Data} (found : s.queueTask[index]? = some message) :
    SlotsAgree rules (some (rules.goalOf message.ruleId)) { s with
        queueTask := s.queueTask.eraseIdx index
        queueMsgCount := (s.queueMsgCount + 255) % 256 } := by
  obtain ⟨inside, rfl⟩ := List.getElem?_eq_some_iff.mp found
  refine
    { agree with
      slotPending := ?_
      messageSlot := fun message member =>
        agree.messageSlot message (List.mem_of_mem_eraseIdx member)
      messageCount := ?_ }
  · intro slot used notDelivered
    obtain ⟨other, member, rule⟩ := agree.slotPending slot used (by simp)
    refine ⟨other, ?_, rule⟩
    have inTable : (s.pendingGoals slot).id ≤ goalIdMax :=
      (agree.slotInTable slot used).le.trans agree.tableSize
    have different : other.ruleId ≠ (s.queueTask[index]).ruleId := by
      intro equal
      apply notDelivered
      rw [← equal, rule, agree.slotRule slot used, rules.goalOf_ruleOf _ inTable]
    obtain ⟨position, positionLt, rfl⟩ := List.mem_iff_getElem.mp member
    refine List.mem_eraseIdx_iff_getElem.mpr ⟨position, positionLt, ?_, rfl⟩
    rintro rfl
    exact different rfl
  · show (s.queueMsgCount + 255) % 256 = (s.queueTask.eraseIdx index).length
    rw [List.length_eraseIdx_of_lt inside, agree.messageCount]
    omega

theorem SlotsAgree.messageGoal {delivered : Option GoalId} (agree : SlotsAgree rules delivered s)
    (member : message ∈ s.queueTask) :
    (s.pendingGoals message.lockSlot).id = rules.goalOf message.ruleId ∧
      rules.goalOf message.ruleId ≠ goalIdNone ∧ rules.goalOf message.ruleId < s.goals.length ∧
      rules.ruleOf (rules.goalOf message.ruleId) = message.ruleId := by
  obtain ⟨used, rule⟩ := agree.messageSlot message member
  have inTable := agree.slotInTable message.lockSlot used
  have goal : rules.goalOf message.ruleId = (s.pendingGoals message.lockSlot).id := by
    rw [rule, agree.slotRule _ used, rules.goalOf_ruleOf _
      (inTable.le.trans agree.tableSize)]
  rw [goal]
  exact ⟨rfl, used, inTable, (agree.slotRule _ used).symm.trans rule.symm⟩

theorem activateCountedGoal_starts {procs : Procedures}
    {goal : GoalId} {ruleId : MessageId} {data : Data}
    (inside : goal < 64) (free : s.waitMaskFor goal = 0) :
    ∃ s', GoalSet.activateCountedGoal procs s goal false ruleId data = some s' ∧
      s'.started = s.started ++ [(goal, data)] ∧ s'.queueTask.Sublist s.queueTask := by
  have startNow {t : GoalSet Data} (started : t.started = s.started)
      (queue : t.queueTask.Sublist s.queueTask) :
      ((t.startGoal procs goal data).resetPendingQueueIfEmpty).started =
          s.started ++ [(goal, data)] ∧
        ((t.startGoal procs goal data).resetPendingQueueIfEmpty).queueTask.Sublist
          s.queueTask := by
    obtain ⟨_, queue', _, started'⟩ := startGoal_frame procs t goal data
    obtain ⟨_, _, queue'', _, started''⟩ :=
      resetPendingQueueIfEmpty_frame (t.startGoal procs goal data)
    rw [queue'', queue', started'', started', started]
    exact ⟨rfl, queue⟩
  by_cases idle : s.activeGoalsMask = 0
  · refine ⟨_, ?_, startNow rfl (List.Sublist.refl _)⟩
    have notDuplicate : s.isDuplicateCancellationGoal goal = false := by
      rw [isDuplicateCancellationGoal, isGoalActive_iff_getLsbD s inside, idle]
      simp
    simp [GoalSet.activateCountedGoal, notDuplicate, goalCanRunNow, idle]
  · have concurrent : (s.goalEntry goal).contention = .concurrent := by
      by_contra notConcurrent
      rw [waitMaskFor, if_neg notConcurrent] at free
      exact idle free
    refine ⟨_, ?_, startNow
      (handleExclusiveGoals_frame procs s goal (s.waitMaskFor goal)).2.1
      (handleExclusiveGoals_frame procs s goal (s.waitMaskFor goal)).2.2⟩
    have maskZero : (handleExclusiveGoals procs s goal (s.waitMaskFor goal)).2 = 0 := by
      rw [free]
      by_cases active : ExclusiveActive s goal
      · rw [handleExclusiveGoals_active rfl active]
        dsimp only
        split
        · rfl
        · simp [removeGoalFromMask]
      · rw [handleExclusiveGoals_inactive active]
    have contends : GoalSet.activateContendingGoal procs s goal false ruleId data =
        some ((handleExclusiveGoals procs s goal (s.waitMaskFor goal)).1.startGoal
          procs goal data) := by
      unfold GoalSet.activateContendingGoal
      rw [handleConcurrentGoals_active]
      simp [maskZero, goalRunsConcurrently, concurrent]
    have busy : s.activeGoalsMask ≠ 0#64 := idle
    simp [GoalSet.activateCountedGoal, isDuplicateCancellationGoal, goalCanRunNow,
      goalCancelsActive, concurrent, busy, contends]

end Delivery

section Runs

variable {rules : RuleTable} {s : GoalSet Data}

def Callable (s : GoalSet Data) : Event Data → Prop
  | .activate _ goal _ => goal < s.goals.length
  | .deliver _ index =>
      match s.queueTask[index]? with
      | none => False
      | some message => (s.pendingGoals message.lockSlot).lock = 0
  | .clear _ => True

def ExclusiveCancelsAreOwn (rules : RuleTable) (s : GoalSet Data) :
    Event Data → Prop
  | .activate procs goal _ => ExclusiveCancelIsOwn procs s goal
  | .deliver procs index =>
      match s.queueTask[index]? with
      | none => True
      | some message => ExclusiveCancelIsOwn procs s (rules.goalOf message.ruleId)
  | .clear _ => True

instance (procs : Procedures) (s : GoalSet Data) (newGoal : GoalId) :
    Decidable (ExclusiveCancelIsOwn procs s newGoal) := by
  unfold ExclusiveCancelIsOwn ExclusiveActive CancelsOnlyItself
  infer_instance

instance (s : GoalSet Data) (event : Event Data) : Decidable (Callable s event) := by
  unfold Callable
  split
  · infer_instance
  · split <;> infer_instance
  · infer_instance

instance (rules : RuleTable) (s : GoalSet Data) (event : Event Data) :
    Decidable (ExclusiveCancelsAreOwn rules s event) := by
  unfold ExclusiveCancelsAreOwn
  split
  · infer_instance
  · split <;> infer_instance
  · infer_instance

inductive Reachable (rules : RuleTable)
    (allowed : GoalSet Data → Event Data → Prop) (goals : List GoalEntry) :
    GoalSet Data → Prop
  | create {s : GoalSet Data} (created : createGoalSet goals = some s) :
      Reachable rules allowed goals s
  | call {s s' : GoalSet Data} {event : Event Data}
      (reachable : Reachable rules allowed goals s) (callable : Callable s event)
      (permitted : allowed s event) (stepped : step rules s event = some s')
      (bounded : s'.queueTask.length < 256) : Reachable rules allowed goals s'

variable {goals : List GoalEntry}

theorem Reachable.queueTask_bounded {allowed : GoalSet Data → Event Data → Prop}
    (reachable : Reachable rules allowed goals s) : s.queueTask.length < 256 := by
  cases reachable with
  | create created =>
    unfold createGoalSet at created
    split at created
    · cases created
      simp
    · simp at created
  | call _ _ _ _ bounded => exact bounded

theorem QueueInvariant.step {s' : GoalSet Data}
    (invariant : QueueInvariant rules s) {event : Event Data}
    (callable : Callable s event) (own : ExclusiveCancelsAreOwn rules s event)
    (boundedBefore : s.queueTask.length < 256) (stepped : GoalsEngine.step rules s event = some s')
    (bounded : s'.queueTask.length < 256) : QueueInvariant rules s' := by
  cases event with
  | activate procs goal data =>
    simp only [GoalsEngine.step, activateGoal, if_true] at stepped
    split at stepped
    · cases stepped
      exact invariant
    · next real =>
      exact invariant.agree.activateCountedGoal invariant.locks (Or.inl rfl) real
        callable boundedBefore own stepped bounded
  | deliver procs index =>
    obtain ⟨message, found⟩ : ∃ message, s.queueTask[index]? = some message := by
      cases found : s.queueTask[index]? with
      | none => simp [Callable, found] at callable
      | some message => exact ⟨message, rfl⟩
    have own : ExclusiveCancelIsOwn procs s (rules.goalOf message.ruleId) := by
      simpa only [ExclusiveCancelsAreOwn, found] using own
    obtain ⟨_, real, inTable, rule⟩ := invariant.agree.messageGoal (List.mem_of_getElem? found)
    have taken := invariant.agree.takeMessage boundedBefore found
    simp only [GoalsEngine.step, found, activateGoal, if_neg real,
      Bool.false_eq_true, if_false] at stepped
    rw [← rule, rules.goalOf_ruleOf _ (inTable.le.trans invariant.agree.tableSize)]
      at stepped
    refine taken.activateCountedGoal (fun slot used => invariant.locks slot used)
      (Or.inr rfl) real inTable ?_ own stepped bounded
    exact (List.length_eraseIdx_le _ _).trans_lt boundedBefore
  | clear goal =>
    cases stepped
    exact invariant.clearGoal goal

theorem Reachable.queueInvariant
    (reachable : Reachable rules (ExclusiveCancelsAreOwn rules) goals s) :
    QueueInvariant rules s := by
  induction reachable with
  | create created => exact queueInvariant_create created
  | call before callable permitted stepped bounded ih =>
    exact ih.step callable permitted before.queueTask_bounded stepped bounded

theorem QueueInvariant.deliver_starts
    (invariant : QueueInvariant rules s) {procs : Procedures} {index : Nat}
    {message : PendingMessage Data} (found : s.queueTask[index]? = some message)
    (unlocked : (s.pendingGoals message.lockSlot).lock = 0) :
    ∃ s', GoalsEngine.step rules s (.deliver procs index) = some s' ∧
      s'.started = s.started ++ [(rules.goalOf message.ruleId, message.data)] ∧
      s'.queueTask.Sublist (s.queueTask.eraseIdx index) := by
  obtain ⟨goal, real, inTable, _⟩ := invariant.agree.messageGoal (List.mem_of_getElem? found)
  have free : s.waitMaskFor (rules.goalOf message.ruleId) = 0 := by
    rw [← goal, ← invariant.locks message.lockSlot (by rw [goal]; exact real)]
    exact (invariant.agree.lockOfMask message.lockSlot).mp unlocked
  have inside : rules.goalOf message.ruleId < 64 :=
    (inTable.trans_le invariant.agree.tableSize).trans_le (by decide)
  simp only [GoalsEngine.step, found, activateGoal, if_neg real, Bool.false_eq_true, if_false]
  exact activateCountedGoal_starts
    (s := { s with
      queueTask := s.queueTask.eraseIdx index
      queueMsgCount := (s.queueMsgCount + 255) % 256 }) inside free

theorem waitMaskFor_subset (s : GoalSet Data) (goal index : Nat)
    (waits : (s.waitMaskFor goal).getLsbD index = true) :
    s.activeGoalsMask.getLsbD index = true := by
  unfold waitMaskFor at waits
  split at waits
  · rw [BitVec.getLsbD_and, Bool.and_eq_true] at waits
    exact waits.1
  · exact waits

/-- In every run whose exclusive cancel functions end no other active goal,
the queue array, the queue task and the mask of active goals agree after every
call, and a delivered decision starts at once. -/
theorem reachable_queue_agrees {rules : RuleTable} {goals : List GoalEntry}
    {s : GoalSet Data}
    (reachable : Reachable rules (ExclusiveCancelsAreOwn rules) goals s) :
    s.queueMsgCount = s.queueTask.length ∧
      (∀ first second, (s.pendingGoals first).id ≠ goalIdNone →
        (s.pendingGoals first).id = (s.pendingGoals second).id →
        first = second) ∧
      (∀ goal ≤ goalIdMax, goal ≠ goalIdNone →
        ((∃ slot, (s.pendingGoals slot).id = goal) ↔
          ∃ message ∈ s.queueTask, message.ruleId = rules.ruleOf goal)) ∧
      (∀ message ∈ s.queueTask,
        (s.pendingGoals message.lockSlot).id = rules.goalOf message.ruleId) ∧
      (∀ slot, (s.pendingGoals slot).lock = 0 ↔
        (s.pendingGoals slot).lockMask = 0) ∧
      (∀ slot, (s.pendingGoals slot).id ≠ goalIdNone →
        (s.pendingGoals slot).lockMask = s.waitMaskFor (s.pendingGoals slot).id) ∧
      (∀ slot goal, (s.pendingGoals slot).lockMask.getLsbD goal = true →
        s.isGoalActive goal = true) ∧
      (∀ procs index message, s.queueTask[index]? = some message →
        (s.pendingGoals message.lockSlot).lock = 0 →
        ∃ s', step rules s (.deliver procs index) = some s' ∧
          s'.started = s.started ++ [(rules.goalOf message.ruleId, message.data)] ∧
          s'.queueTask.Sublist (s.queueTask.eraseIdx index)) := by
  have invariant := reachable.queueInvariant
  have agree := invariant.agree
  refine ⟨agree.messageCount, agree.slotsDistinct, ?_,
    fun message member => (invariant.agree.messageGoal member).1, agree.lockOfMask,
    invariant.locks, ?_, fun procs index message => invariant.deliver_starts⟩
  · intro goal goalLe real
    constructor
    · rintro ⟨slot, rfl⟩
      rw [← agree.slotRule slot real]
      exact agree.slotPending slot real (by simp)
    · rintro ⟨message, member, rule⟩
      refine ⟨message.lockSlot, ?_⟩
      rw [(invariant.agree.messageGoal member).1, rule, rules.goalOf_ruleOf goal goalLe]
  · intro slot goal waits
    by_cases used : (s.pendingGoals slot).id = goalIdNone
    · rw [agree.slotEmpty slot used] at waits
      simp [PendingGoalEntry.empty] at waits
    · rw [invariant.locks slot used] at waits
      rw [isGoalActive_iff_getLsbD s (BitVec.lt_of_getLsbD waits)]
      exact waitMaskFor_subset s _ goal waits

private def exclusiveTable : List GoalEntry :=
  [⟨.wait, 0, []⟩, ⟨.wait, 2, []⟩, ⟨.concurrent, 0, [3, 4]⟩,
    ⟨.concurrent, 0, [2, 4]⟩, ⟨.concurrent, 0, [2, 3]⟩]

private def shiftedRules : RuleTable where
  ruleOf goal := goal + 100
  goalOf rule := rule - 100
  goalOf_ruleOf goal _ := Nat.add_sub_cancel goal 100
  ruleOf_ne_zero goal _ := (Nat.add_pos_right goal (by decide)).ne'

private def cancelsWithThird : Procedures := ⟨fun _ => [], fun goal => [goal, 3]⟩

private def cancelsItself : Procedures := ⟨fun _ => [], fun goal => [goal]⟩

private theorem reachable_of_activate (procs : Procedures) (goal : GoalId)
    {allowed : GoalSet Unit → Event Unit → Prop} {s s' : GoalSet Unit}
    (reachable : Reachable rules allowed goals s) (inTable : goal < s.goals.length)
    (permitted : allowed s (.activate procs goal ()))
    (stepped : step rules s (.activate procs goal ()) = some s')
    (bounded : s'.queueTask.length < 256) : Reachable rules allowed goals s' :=
  have callable : Callable s (.activate procs goal ()) := inTable
  .call reachable callable permitted stepped bounded

theorem reachable_queue_agrees_exclusive :
    ∃ s : GoalSet Unit, s.queueMsgCount = 1 ∧ s.activeGoalsMask = 16 ∧
      (s.pendingGoals 0).lockMask = s.waitMaskFor 1 := by
  have idle : Reachable shiftedRules (ExclusiveCancelsAreOwn shiftedRules)
      exclusiveTable (_ : GoalSet Unit) := .create rfl
  have second := reachable_of_activate cancelsItself 2 idle
    (by decide) (by decide) rfl (by decide)
  have both := reachable_of_activate cancelsItself 4 second
    (by decide) (by decide) rfl (by decide)
  have queued := reachable_of_activate cancelsItself 1 both
    (by decide) (by decide) rfl (by decide)
  exact ⟨_, rfl, rfl, (reachable_queue_agrees queued).2.2.2.2.2.1 0 (by decide)⟩

/-- A cancel function that ends a second active goal leaves the queued goal
waiting for it. -/
theorem exclusive_cancel_leaves_stale_lock :
    ¬ ∀ (rules : RuleTable) (goals : List GoalEntry) (s : GoalSet Unit),
      Reachable rules (fun _ _ => True) goals s →
      ∀ slot, (s.pendingGoals slot).id ≠ goalIdNone →
        (s.pendingGoals slot).lockMask = s.waitMaskFor (s.pendingGoals slot).id := by
  intro current
  have idle : Reachable shiftedRules (fun _ _ => True) exclusiveTable
      (_ : GoalSet Unit) := .create rfl
  have second := reachable_of_activate cancelsWithThird 2 idle
    (by decide) trivial rfl (by decide)
  have third := reachable_of_activate cancelsWithThird 3 second
    (by decide) trivial rfl (by decide)
  have fourth := reachable_of_activate cancelsWithThird 4 third
    (by decide) trivial rfl (by decide)
  have queued := reachable_of_activate cancelsWithThird 1 fourth
    (by decide) trivial rfl (by decide)
  exact absurd (current _ _ _ queued 0 (by decide)) (by decide)

end Runs

end HeadsetAdk.GoalsEngine
