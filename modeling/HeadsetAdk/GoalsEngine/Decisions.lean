import HeadsetAdk.GoalsEngine.Starts

/-! # What becomes of a decision -/

namespace HeadsetAdk.GoalsEngine

open List (map_nil append_nil map_map nil_append map_append append_assoc filter_append)
open GoalSet

variable {Data : Type}

def GoalSet.pendingDecisions (rules : RuleTable) (s : GoalSet Data) : List (GoalId × Data) :=
  s.queueTask.map fun message => (rules.goalOf message.ruleId, message.data)

/-- The decision a call passes in from outside. -/
def activatedBy : Event Data → List (GoalId × Data)
  | .activate _ goal data => if goal = goalIdNone then [] else [(goal, data)]
  | .deliver _ _ => []
  | .clear _ => []

/-- The events by which the engine gives a decision up. -/
inductive DiscardReason
  /-- A cancelling goal emptied the queue. -/
  | flushed
  /-- The decision is for a cancelling goal that is active already. -/
  | alreadyActive
  /-- A goal was activated that names the active goal as its exclusive goal. -/
  | exclusive
  deriving DecidableEq, Repr

structure Discard (Data : Type) where
  decision : GoalId × Data
  reason : DiscardReason

instance (s : GoalSet Data) (newGoal : GoalId) : Decidable (ExclusiveActive s newGoal) := by
  unfold ExclusiveActive
  infer_instance

def Activation.discards (rules : RuleTable) (activation : Activation Data) :
    List (Discard Data) :=
  let pending := activation.state.pendingDecisions rules
  if activation.state.isDuplicateCancellationGoal activation.goal = true then
    pending.map (fun decision => ⟨decision, .flushed⟩) ++
      [⟨(activation.goal, activation.data), .alreadyActive⟩]
  else if activation.state.goalCanRunNow activation.isNewGoal = true then []
  else if activation.state.goalCancelsActive activation.goal = true then
    pending.map fun decision => ⟨decision, .flushed⟩
  else if ExclusiveActive activation.state activation.goal then
    (pending.filter fun decision =>
      decision.1 == (activation.state.goalEntry activation.goal).exclusiveGoal).map
        fun decision => ⟨decision, .exclusive⟩
  else []

def discardedBy (rules : RuleTable) (s : GoalSet Data) (event : Event Data) :
    List (Discard Data) :=
  match activationOf rules s event with
  | none => []
  | some activation => activation.discards rules

def Discard.Documented (rules : RuleTable) (activation : Activation Data)
    (discard : Discard Data) : Prop :=
  match discard.reason with
  | .flushed =>
      (activation.state.goalEntry activation.goal).contention = .cancel ∧
        discard.decision ∈ activation.state.pendingDecisions rules
  | .alreadyActive =>
      (activation.state.goalEntry activation.goal).contention = .cancel ∧
        activation.state.isGoalActive activation.goal = true ∧
        discard.decision = (activation.goal, activation.data)
  | .exclusive =>
      (activation.state.goalEntry activation.goal).exclusiveGoal = discard.decision.1 ∧
        activation.state.isGoalActive discard.decision.1 = true ∧
        discard.decision ∈ activation.state.pendingDecisions rules

theorem Activation.discards_documented {rules : RuleTable} {activation : Activation Data}
    {discard : Discard Data} (member : discard ∈ activation.discards rules) :
    discard.Documented rules activation := by
  unfold Activation.discards at member
  dsimp only at member
  split at member
  case isTrue duplicate =>
    rw [isDuplicateCancellationGoal, Bool.and_eq_true] at duplicate
    have cancels : (activation.state.goalEntry activation.goal).contention = .cancel :=
      beq_iff_eq.mp duplicate.1
    rcases List.mem_append.mp member with pending | new
    · obtain ⟨decision, inQueue, rfl⟩ := List.mem_map.mp pending
      exact ⟨cancels, inQueue⟩
    · obtain rfl := List.mem_singleton.mp new
      exact ⟨cancels, duplicate.2, rfl⟩
  split at member
  case isTrue => contradiction
  split at member
  case isTrue cancels =>
    obtain ⟨decision, inQueue, rfl⟩ := List.mem_map.mp member
    exact ⟨beq_iff_eq.mp cancels, inQueue⟩
  split at member
  case isTrue exclusive =>
    obtain ⟨decision, selected, rfl⟩ := List.mem_map.mp member
    obtain ⟨inQueue, named⟩ := List.mem_filter.mp selected
    have goal : decision.1 = (activation.state.goalEntry activation.goal).exclusiveGoal :=
      beq_iff_eq.mp named
    refine ⟨goal.symm, ?_, inQueue⟩
    rw [goal]
    exact exclusive.2.2
  case isFalse => contradiction

section Conservation

def Activation.keptQueue (activation : Activation Data) : List (PendingMessage Data) :=
  if activation.state.isDuplicateCancellationGoal activation.goal = true then []
  else if activation.state.goalCanRunNow activation.isNewGoal = true then
    activation.state.queueTask
  else if activation.state.goalCancelsActive activation.goal = true then []
  else (handleExclusiveGoals activation.procs activation.state activation.goal
    (activation.state.waitMaskFor activation.goal)).1.queueTask

variable {rules : RuleTable} {activation : Activation Data} {s s' : GoalSet Data}
  {delivered : Option GoalId}

theorem Activation.start_queueTask (activation : Activation Data) (before : GoalSet Data) :
    (activation.start before).queueTask = before.queueTask ∧ (activation.start before).started =
        before.started ++ [(activation.goal, activation.data)] := by
  obtain ⟨_, queue, _, started⟩ :=
    startGoal_frame activation.procs before activation.goal activation.data
  obtain ⟨_, _, queue', _, started'⟩ := resetPendingQueueIfEmpty_frame
    (before.startGoal activation.procs activation.goal activation.data)
  exact ⟨queue'.trans queue, started'.trans started⟩

theorem queueGoal_outcome {waitMask : GoalMask} {newGoal : GoalId} {ruleId : MessageId}
    {data : Data} (queued : s.queueGoal ruleId data waitMask newGoal = some s') :
    s'.resetPendingQueueIfEmpty.started = s.started ∧ ∃ slot,
      s'.resetPendingQueueIfEmpty.queueTask = s.queueTask ++ [⟨ruleId, data, slot⟩] := by
  obtain ⟨slot, _, _, _, started, _, queue, _⟩ := queueGoal_eq_some queued
  obtain ⟨_, _, queue', _, started'⟩ := resetPendingQueueIfEmpty_frame s'
  exact ⟨started'.trans started, slot, queue'.trans queue⟩

theorem Activation.run_outcome (ran : activation.run = some s') :
    (activation.state.isDuplicateCancellationGoal activation.goal = true ∧
        s'.started = activation.state.started ∧ s'.queueTask = activation.keptQueue) ∨
      (activation.state.isDuplicateCancellationGoal activation.goal ≠ true ∧
        ((∃ before, activation.startState = some before ∧
            s'.started = activation.state.started ++ [(activation.goal, activation.data)] ∧
            before.queueTask = activation.keptQueue ∧ s'.queueTask = activation.keptQueue) ∨
          (s'.started = activation.state.started ∧ ∃ slot, s'.queueTask = activation.keptQueue ++
              [⟨activation.ruleId, activation.data, slot⟩]))) := by
  obtain ⟨procs, s, newGoal, isNewGoal, ruleId, data⟩ := activation
  unfold Activation.run GoalSet.activateCountedGoal at ran
  unfold Activation.keptQueue Activation.startState GoalSet.startState
  dsimp only at ran ⊢
  by_cases duplicate : s.isDuplicateCancellationGoal newGoal = true
  · rw [if_pos duplicate] at ran ⊢
    cases ran
    rw [clearPendingGoalsQueue_eq]
    exact Or.inl ⟨duplicate, rfl, rfl⟩
  rw [if_neg duplicate] at ran
  rw [if_neg duplicate, if_neg duplicate]
  refine Or.inr ⟨duplicate, ?_⟩
  obtain ⟨final, inner, rfl⟩ := Option.map_eq_some_iff.mp ran
  by_cases now : s.goalCanRunNow isNewGoal = true
  · rw [if_pos now] at inner
    rw [if_pos now, if_pos now]
    cases inner
    obtain ⟨queue, started⟩ :=
      Activation.start_queueTask ⟨procs, s, newGoal, isNewGoal, ruleId, data⟩ s
    exact Or.inl ⟨s, rfl, started, rfl, queue⟩
  rw [if_neg now] at inner
  rw [if_neg now, if_neg now]
  by_cases cancels : s.goalCancelsActive newGoal = true
  · rw [if_pos cancels] at inner
    rw [if_pos cancels, if_pos cancels]
    obtain ⟨cancelled, wasCancelled, inner⟩ := Option.bind_eq_some_iff.mp inner
    obtain ⟨_, queue, _, started⟩ := cancelActiveGoals_frame wasCancelled
    rw [clearPendingGoalsQueue_eq] at queue started
    rw [wasCancelled, Option.filter_some]
    dsimp only at inner queue started
    split at inner
    case isTrue free =>
      cases inner
      rw [if_pos free]
      obtain ⟨queue', started'⟩ :=
        Activation.start_queueTask ⟨procs, s, newGoal, isNewGoal, ruleId, data⟩ cancelled
      refine Or.inl ⟨cancelled, rfl, ?_, queue, queue'.trans queue⟩
      rw [← started]
      exact started'
    case isFalse =>
      obtain ⟨started', slot, queue'⟩ := queueGoal_outcome inner
      rw [queue] at queue'
      exact Or.inr ⟨started'.trans started, slot, queue'⟩
  · rw [if_neg cancels] at inner
    rw [if_neg cancels, if_neg cancels]
    unfold GoalSet.activateContendingGoal at inner
    rw [handleConcurrentGoals_active] at inner ⊢
    have started := (handleExclusiveGoals_frame procs s newGoal (s.waitMaskFor newGoal)).2.1
    dsimp only at inner ⊢
    split at inner
    case isTrue free =>
      cases inner
      rw [if_pos free]
      obtain ⟨queue', started'⟩ := Activation.start_queueTask
        ⟨procs, s, newGoal, isNewGoal, ruleId, data⟩
        (handleExclusiveGoals procs s newGoal (s.waitMaskFor newGoal)).1
      refine Or.inl ⟨_, rfl, ?_, rfl, queue'⟩
      rw [← started]
      exact started'
    case isFalse =>
      obtain ⟨started', slot, queue'⟩ := queueGoal_outcome inner
      exact Or.inr ⟨started'.trans started, slot, queue'⟩

theorem Activation.run_goals (ran : activation.run = some s') :
    s'.goals = activation.state.goals := by
  unfold Activation.run GoalSet.activateCountedGoal at ran
  split at ran
  · cases ran
    rw [clearPendingGoalsQueue_eq]
  obtain ⟨final, inner, rfl⟩ := Option.map_eq_some_iff.mp ran
  rw [(resetPendingQueueIfEmpty_frame final).1]
  split at inner
  · cases inner
    exact (startGoal_frame _ _ _ _).1
  split at inner
  case isTrue =>
    obtain ⟨cancelled, wasCancelled, inner⟩ := Option.bind_eq_some_iff.mp inner
    have goals := (cancelActiveGoals_frame wasCancelled).1
    rw [clearPendingGoalsQueue_eq] at goals
    dsimp only at inner
    split at inner
    · cases inner
      exact (startGoal_frame _ _ _ _).1.trans goals
    · obtain ⟨_, _, goals', _⟩ := queueGoal_eq_some inner
      exact goals'.trans goals
  case isFalse =>
    unfold GoalSet.activateContendingGoal at inner
    have goals := (handleExclusiveGoals_frame activation.procs activation.state
      activation.goal (activation.state.handleConcurrentGoals activation.goal
        activation.state.activeGoalsMask)).1
    dsimp only at inner
    split at inner
    · cases inner
      exact (startGoal_frame _ _ _ _).1.trans goals
    · obtain ⟨_, _, goals', _⟩ := queueGoal_eq_some inner
      exact goals'.trans goals

/-- `goalsEngine_DequeGoal` takes out the decisions of its goal. -/
theorem SlotsAgree.dequeGoal_queueTask
    (agree : SlotsAgree rules delivered s) {goal : GoalId} (real : goal ≠ goalIdNone) :
    (s.dequeGoal goal).queueTask =
      s.queueTask.filter fun message => rules.goalOf message.ruleId != goal := by
  have goalOf {message : PendingMessage Data} (member : message ∈ s.queueTask) :
      (s.pendingGoals message.lockSlot).id = rules.goalOf message.ruleId :=
    (agree.messageGoal member).1
  unfold GoalSet.dequeGoal
  split
  case h_1 missing =>
    symm
    rw [List.filter_eq_self]
    intro message member
    rw [bne_iff_ne, ← goalOf member]
    exact findSlot_eq_none missing message.lockSlot
  case h_2 slot found =>
    have held := findSlot_eq_some found
    apply List.filter_congr
    intro message member
    rw [Bool.eq_iff_iff, bne_iff_ne, bne_iff_ne, not_iff_not, ← goalOf member]
    obtain ⟨used, rule⟩ := agree.messageSlot message member
    constructor
    · intro equal
      rw [rule] at equal
      rw [agree.slot_eq_of_ruleId used (by rwa [held]) equal, held]
    · intro equal
      rw [rule, agree.slotsDistinct _ slot used (equal.trans held.symm)]

theorem SlotsAgree.keptQueue_perm (agree : SlotsAgree rules delivered activation.state)
    (notDuplicate : activation.state.isDuplicateCancellationGoal activation.goal ≠ true) :
    (activation.state.pendingDecisions rules).Perm
      (activation.keptQueue.map (fun message => (rules.goalOf message.ruleId, message.data)) ++
        (activation.discards rules).map Discard.decision) := by
  unfold Activation.keptQueue Activation.discards
  dsimp only
  rw [if_neg notDuplicate, if_neg notDuplicate]
  by_cases now : activation.state.goalCanRunNow activation.isNewGoal = true
  · rw [if_pos now, if_pos now, map_nil, append_nil]
    exact List.Perm.refl _
  rw [if_neg now, if_neg now]
  by_cases cancels : activation.state.goalCancelsActive activation.goal = true
  · rw [if_pos cancels, if_pos cancels, map_map, map_nil, nil_append]
    exact List.Perm.of_eq (List.map_id _).symm
  rw [if_neg cancels, if_neg cancels]
  by_cases exclusive : ExclusiveActive activation.state activation.goal
  · rw [if_pos exclusive, handleExclusiveGoals_active rfl exclusive, map_map]
    dsimp only
    rw [cancelGoal, (clearGoals_frame _ _).2.1, agree.dequeGoal_queueTask exclusive.1,
      pendingDecisions, List.filter_map]
    have divided := (List.filter_append_perm (fun message : PendingMessage Data =>
      rules.goalOf message.ruleId == (activation.state.goalEntry activation.goal).exclusiveGoal)
      activation.state.queueTask).map
        fun message => (rules.goalOf message.ruleId, message.data)
    rw [map_append] at divided
    refine (divided.symm.trans List.perm_append_comm).trans (List.Perm.append_left _ ?_)
    rw [map_map]
    exact List.Perm.refl _
  · rw [if_neg exclusive, handleExclusiveGoals_inactive exclusive, map_nil, append_nil]
    exact List.Perm.refl _

theorem pendingDecisions_of_queueTask {queue : List (PendingMessage Data)}
    (same : s.queueTask = queue) :
    s.pendingDecisions rules =
      queue.map fun message => (rules.goalOf message.ruleId, message.data) := by
  rw [pendingDecisions, same]

theorem SlotsAgree.run_conserves (agree : SlotsAgree rules delivered activation.state)
    (rule : rules.goalOf activation.ruleId = activation.goal) (ran : activation.run = some s') :
    ∃ starts, s'.started = activation.state.started ++ starts ∧
      (activation.state.pendingDecisions rules ++ [(activation.goal, activation.data)]).Perm
        (starts ++ s'.pendingDecisions rules ++
          (activation.discards rules).map Discard.decision) := by
  rcases activation.run_outcome ran with ⟨duplicate, started, queue⟩ | ⟨notDuplicate, outcome⟩
  · refine ⟨[], by rw [started, append_nil], ?_⟩
    have noneKept : activation.keptQueue = [] := if_pos duplicate
    rw [pendingDecisions_of_queueTask queue, noneKept, Activation.discards, if_pos duplicate]
    simp only [map_nil, nil_append, map_append, map_map, List.map_cons]
    exact List.Perm.of_eq (congrArg (· ++ _) (List.map_id _).symm)
  have kept := (agree.keptQueue_perm notDuplicate).append_right
    [(activation.goal, activation.data)]
  rcases outcome with ⟨_, _, started, _, queue⟩ | ⟨started, slot, queue⟩
  · refine ⟨_, started, ?_⟩
    rw [pendingDecisions_of_queueTask queue, append_assoc]
    exact kept.trans List.perm_append_comm
  · refine ⟨[], by rw [started, append_nil], ?_⟩
    rw [pendingDecisions_of_queueTask queue, map_append, nil_append, List.map_singleton, rule]
    refine kept.trans ?_
    rw [append_assoc, append_assoc]
    exact List.Perm.append_left _ List.perm_append_comm

/-- What a call activates is in order, and no decision is lost on the way. -/
structure Activation.Ready (rules : RuleTable) (activation : Activation Data)
    (delivered : Option GoalId) : Prop where
  agree : SlotsAgree rules delivered activation.state
  exempt : delivered = none ∨ delivered = some activation.goal
  real : activation.goal ≠ goalIdNone
  inTable : activation.goal < activation.state.goals.length
  rule : activation.ruleId = rules.ruleOf activation.goal
  bounded : activation.state.queueTask.length < 256

theorem Activation.Ready.goalOf_ruleId (ready : activation.Ready rules delivered) :
    rules.goalOf activation.ruleId = activation.goal := by
  rw [ready.rule, rules.goalOf_ruleOf _ (ready.inTable.le.trans ready.agree.tableSize)]

theorem SlotsAgree.activation_ready {event : Event Data} (agree : SlotsAgree rules none s)
    (bounded : s.queueTask.length < 256) (callable : Callable s event)
    (isActivation : activationOf rules s event = some activation) :
    (∃ delivered, activation.Ready rules delivered) ∧
      (s.pendingDecisions rules ++ activatedBy event).Perm
        (activation.state.pendingDecisions rules ++ [(activation.goal, activation.data)]) := by
  cases event with
  | activate procs goal data =>
    by_cases isNone : goal = goalIdNone
    · rw [activationOf, if_pos isNone] at isActivation
      contradiction
    · rw [activationOf, if_neg isNone] at isActivation
      cases isActivation
      rw [activatedBy, if_neg isNone]
      exact ⟨⟨none, agree, Or.inl rfl, isNone, callable, rfl, bounded⟩, List.Perm.refl _⟩
  | deliver procs index =>
    cases found : s.queueTask[index]? with
    | none =>
      rw [activationOf, found] at isActivation
      contradiction
    | some message =>
      obtain ⟨_, real, inTable, rule⟩ := agree.messageGoal (List.mem_of_getElem? found)
      rw [activationOf, found, Option.bind_some, if_neg real] at isActivation
      cases isActivation
      refine ⟨⟨some (rules.goalOf message.ruleId), agree.takeMessage bounded found,
        Or.inr rfl, real, inTable, rule.symm,
        (List.length_eraseIdx_le _ _).trans_lt bounded⟩, ?_⟩
      obtain ⟨inside, rfl⟩ := List.getElem?_eq_some_iff.mp found
      rw [activatedBy, append_nil]
      refine List.Perm.trans ?_ List.perm_append_comm
      have taken := List.getElem_cons_eraseIdx_perm inside
      exact (taken.map fun message => (rules.goalOf message.ruleId, message.data)).symm
  | clear goal => contradiction

theorem SlotsAgree.step_of_no_activation {event : Event Data} (agree : SlotsAgree rules none s)
    (callable : Callable s event) (none : activationOf rules s event = none)
    (stepped : step rules s event = some s') :
    activatedBy event = [] ∧ s'.goals = s.goals ∧ s'.started = s.started ∧
      s'.queueTask = s.queueTask ∧ SlotsAgree rules Option.none s' := by
  cases event with
  | activate procs goal data =>
    by_cases isNone : goal = goalIdNone
    · rw [step, activateGoal, if_pos isNone] at stepped
      cases stepped
      exact ⟨if_pos isNone, rfl, rfl, rfl, agree⟩
    · rw [activationOf, if_neg isNone] at none
      contradiction
  | deliver procs index =>
    cases found : s.queueTask[index]? with
    | none =>
      rw [Callable, found] at callable
      contradiction
    | some message =>
      have real := (agree.messageGoal (List.mem_of_getElem? found)).2.1
      rw [activationOf, found, Option.bind_some, if_neg real] at none
      contradiction
  | clear goal =>
    cases stepped
    exact ⟨rfl, rfl, rfl, rfl, agree.clearGoal goal⟩

theorem Activation.Ready.run_agree
    (ready : activation.Ready rules delivered) (ran : activation.run = some s')
    (bounded : s'.queueTask.length < 256) : SlotsAgree rules none s' := by
  obtain ⟨agree, exempt, real, inTable, rule, boundedBefore⟩ := ready
  obtain ⟨procs, s, newGoal, isNewGoal, ruleId, data⟩ := activation
  dsimp only at rule real inTable agree exempt boundedBefore
  subst rule
  unfold Activation.run GoalSet.activateCountedGoal at ran
  dsimp only at ran
  split at ran
  · cases ran
    exact agree.clearPendingGoalsQueue.agree
  obtain ⟨final, inner, rfl⟩ := Option.map_eq_some_iff.mp ran
  rw [(resetPendingQueueIfEmpty_frame final).2.2.1] at bounded
  split at inner
  · cases inner
    exact (agree.startGoal procs real inTable data).agree
  split at inner
  case isTrue cancels =>
    exact (agree.activateCancelGoal real inTable cancels inner bounded).agree
  case isFalse =>
    unfold GoalSet.activateContendingGoal at inner
    rw [handleConcurrentGoals_active] at inner
    have agree' := agree.handleExclusiveGoals boundedBefore procs newGoal
      (s.waitMaskFor newGoal)
    have goals := (handleExclusiveGoals_frame procs s newGoal (s.waitMaskFor newGoal)).1
    dsimp only at inner
    rw [← goals] at inTable
    split at inner
    · cases inner
      exact (agree'.startGoal procs real inTable data).agree
    · exact (agree'.queueGoal exempt real inTable inner bounded).resetPendingQueueIfEmpty

end Conservation

section Order

variable {rules : RuleTable} {activation : Activation Data} {s s' : GoalSet Data}

/-- The goal of the decision uses `goal_contention_wait`. -/
def usesWait (goals : List GoalEntry) (decision : GoalId × Data) : Bool :=
  (goals.getD decision.1 default).contention == .wait

def DeliversFirst (s : GoalSet Data) : Event Data → Prop
  | .deliver _ index =>
      ∀ message ∈ s.queueTask.take index, (s.pendingGoals message.lockSlot).lock ≠ 0
  | .activate .. => True
  | .clear _ => True

instance (s : GoalSet Data) : (event : Event Data) → Decidable (DeliversFirst s event)
  | .deliver _ index => List.decidableBAll (fun message : PendingMessage Data =>
      (s.pendingGoals message.lockSlot).lock ≠ 0) (s.queueTask.take index)
  | .activate .. => .isTrue trivial
  | .clear _ => .isTrue trivial

theorem Activation.keptQueue_sublist (activation : Activation Data) :
    activation.keptQueue.Sublist activation.state.queueTask := by
  unfold Activation.keptQueue
  split
  · exact List.nil_sublist _
  split
  · exact List.Sublist.refl _
  split
  · exact List.nil_sublist _
  · exact (handleExclusiveGoals_frame _ _ _ _).2.2

variable {delivered : Option GoalId} {procs : Procedures} {index : Nat}

theorem Activation.Ready.keptQueue_eq_nil {before : GoalSet Data}
    (ready : activation.Ready rules delivered) (isNew : activation.isNewGoal = true)
    (waits : (activation.state.goalEntry activation.goal).contention = .wait)
    (inState : activation.startState = some before)
    (same : before.queueTask = activation.keptQueue) : activation.keptQueue = [] := by
  have empty {delivered : Option GoalId} {t : GoalSet Data} (agree : SlotsAgree rules delivered t)
      (now : t.goalCanRunNow activation.isNewGoal = true) : t.queueTask = [] := by
    rw [isNew, goalCanRunNow, Bool.and_eq_true, Bool.not_true, Bool.or_false, beq_iff_eq] at now
    exact agree.queueTask_eq_nil (beq_iff_eq.mp now.2)
  rw [← same]
  unfold Activation.startState GoalSet.startState at inState
  split at inState
  case isTrue => contradiction
  split at inState
  case isTrue now =>
    cases inState
    exact empty ready.agree now
  split at inState
  case isTrue cancels =>
    rw [goalCancelsActive, beq_iff_eq, waits] at cancels
    contradiction
  case isFalse =>
    dsimp only at inState
    split at inState
    case isFalse => contradiction
    case isTrue free =>
      cases inState
      have notConcurrent : activation.state.goalRunsConcurrently activation.goal = false := by
        rw [goalRunsConcurrently, waits]
        rfl
      rw [notConcurrent, Bool.false_and, Bool.false_or] at free
      exact empty (ready.agree.handleExclusiveGoals ready.bounded _ _ _) free

theorem QueueInvariant.deliver_head (invariant : QueueInvariant rules s)
    {message : PendingMessage Data} (found : s.queueTask[index]? = some message)
    (unlocked : (s.pendingGoals message.lockSlot).lock = 0)
    (first : DeliversFirst s (.deliver procs index))
    (waits : (s.goalEntry (rules.goalOf message.ruleId)).contention = .wait) : index = 0 := by
  have maskOf {message : PendingMessage Data} (member : message ∈ s.queueTask) :
      (s.pendingGoals message.lockSlot).lock = 0 ↔
        s.waitMaskFor (rules.goalOf message.ruleId) = 0 := by
    obtain ⟨goal, real, _⟩ := invariant.agree.messageGoal member
    rw [invariant.agree.lockOfMask, invariant.locks _ (by rw [goal]; exact real), goal]
  -- The waiting goal waits for all active goals, so none is active and nothing is locked.
  have idle : s.activeGoalsMask = 0 := by
    have free := (maskOf (List.mem_of_getElem? found)).mp unlocked
    rwa [waitMaskFor, if_neg (by rw [waits]; decide)] at free
  have unlockedAll {message : PendingMessage Data} (member : message ∈ s.queueTask) :
      (s.pendingGoals message.lockSlot).lock = 0 := by
    rw [maskOf member, waitMaskFor, idle]
    split
    · exact BitVec.zero_and
    · rfl
  by_contra later
  obtain ⟨inside, _⟩ := List.getElem?_eq_some_iff.mp found
  have positive : 0 < (s.queueTask.take index).length := by
    rw [List.length_take]
    omega
  have member := List.getElem_mem positive
  exact first _ member (unlockedAll (List.mem_of_mem_take member))

theorem Activation.Ready.run_order (ready : activation.Ready rules delivered)
    (isNew : activation.isNewGoal = true) (ran : activation.run = some s') :
    ((s'.started ++ s'.pendingDecisions rules).filter
        (usesWait activation.state.goals)).Sublist
      ((activation.state.started ++ activation.state.pendingDecisions rules).filter
        (usesWait activation.state.goals) ++ [(activation.goal, activation.data)]) := by
  have kept := (activation.keptQueue_sublist.map fun message =>
    (rules.goalOf message.ruleId, message.data)).filter (usesWait activation.state.goals)
  rw [filter_append, filter_append]
  rcases activation.run_outcome ran with ⟨_, started, queue⟩ | ⟨_, outcome⟩
  · rw [started, pendingDecisions_of_queueTask queue]
    exact (kept.append_left _).trans (List.sublist_append_left _ _)
  rcases outcome with ⟨before, inState, started, same, queue⟩ | ⟨started, slot, queue⟩
  · rw [started, pendingDecisions_of_queueTask queue]
    by_cases waits : (activation.state.goalEntry activation.goal).contention = .wait
    · rw [ready.keptQueue_eq_nil isNew waits inState same, map_nil, List.filter_nil,
        append_nil, filter_append]
      exact (List.sublist_append_left _ _).append List.filter_sublist
    · have notCounted : [(activation.goal, activation.data)].filter
          (usesWait activation.state.goals) = [] :=
        List.filter_cons_of_neg (fun counted => waits (beq_iff_eq.mp counted))
      rw [filter_append, notCounted, append_nil]
      exact (kept.append_left _).trans (List.sublist_append_left _ _)
  · rw [started, pendingDecisions_of_queueTask queue, map_append, filter_append,
      List.map_singleton, ready.goalOf_ruleId, ← append_assoc]
    exact (kept.append_left _).append List.filter_sublist

theorem QueueInvariant.deliver_order (invariant : QueueInvariant rules s)
    (callable : Callable s (.deliver procs index)) (first : DeliversFirst s (.deliver procs index))
    (stepped : GoalsEngine.step rules s (.deliver procs index) = some s') :
    ((s'.started ++ s'.pendingDecisions rules).filter (usesWait s.goals)).Sublist
      ((s.started ++ s.pendingDecisions rules).filter (usesWait s.goals)) := by
  obtain ⟨message, found⟩ : ∃ message, s.queueTask[index]? = some message := by
    cases found : s.queueTask[index]? with
    | none => simp [Callable, found] at callable
    | some message => exact ⟨message, rfl⟩
  simp only [Callable, found] at callable
  obtain ⟨final, stepped', started, queue⟩ : ∃ final,
      GoalsEngine.step rules s (.deliver procs index) = some final ∧
        final.started = s.started ++ [(rules.goalOf message.ruleId, message.data)] ∧
        final.queueTask.Sublist (s.queueTask.eraseIdx index) :=
    invariant.deliver_starts found callable
  cases stepped.symm.trans stepped'
  have rest := (queue.map fun message => (rules.goalOf message.ruleId, message.data)).filter
    (usesWait s.goals)
  simp only [started, append_assoc, filter_append]
  refine List.Sublist.append_left ?_ _
  rw [← filter_append, List.singleton_append]
  by_cases waits : (s.goalEntry (rules.goalOf message.ruleId)).contention = .wait
  · obtain rfl := invariant.deliver_head found callable first waits
    cases messages : s.queueTask with
    | nil =>
      rw [messages] at found
      contradiction
    | cons head tail =>
      rw [messages] at found rest
      cases found
      have counted : usesWait s.goals (rules.goalOf message.ruleId, message.data) = true :=
        beq_iff_eq.mpr waits
      rw [pendingDecisions_of_queueTask messages, List.map_cons,
        List.filter_cons_of_pos counted, List.filter_cons_of_pos counted]
      exact rest.cons_cons _
  · have notCounted : ¬ usesWait s.goals (rules.goalOf message.ruleId, message.data) = true :=
      fun counted => waits (beq_iff_eq.mp counted)
    rw [List.filter_cons_of_neg notCounted]
    refine rest.trans ?_
    exact ((List.eraseIdx_sublist _ _).map _).filter _

theorem QueueInvariant.step_order (invariant : QueueInvariant rules s) {event : Event Data}
    (bounded : s.queueTask.length < 256) (callable : Callable s event)
    (first : DeliversFirst s event) (stepped : GoalsEngine.step rules s event = some s') :
    ((s'.started ++ s'.pendingDecisions rules).filter (usesWait s.goals)).Sublist
      ((s.started ++ s.pendingDecisions rules).filter (usesWait s.goals) ++
        activatedBy event) := by
  cases isActivation : activationOf rules s event with
  | none =>
    obtain ⟨nothing, _, started, queue, _⟩ :=
      invariant.agree.step_of_no_activation callable isActivation stepped
    rw [nothing, append_nil, started, pendingDecisions_of_queueTask queue]
    exact List.Sublist.refl _
  | some activation =>
    obtain ⟨⟨_, ready⟩, _⟩ := invariant.agree.activation_ready bounded callable isActivation
    have called := step_of_activationOf rules s event
    rw [isActivation] at called
    have ran := called.1.symm.trans stepped
    cases event with
    | activate procs goal data =>
      by_cases isNone : goal = goalIdNone
      · rw [activationOf, if_pos isNone] at isActivation
        contradiction
      · rw [activationOf, if_neg isNone] at isActivation
        cases isActivation
        rw [activatedBy, if_neg isNone]
        exact ready.run_order rfl ran
    | deliver procs index =>
      rw [activatedBy, append_nil]
      exact invariant.deliver_order callable first stepped
    | clear goal => contradiction

end Order

section Runs

variable {rules : RuleTable} {allowed : GoalSet Data → Event Data → Prop}
  {goals : List GoalEntry} {s : GoalSet Data} {activated : List (GoalId × Data)}
  {discarded : List (Discard Data)}

/-- A run, with the decisions passed in and the ones given up so far. -/
inductive Recorded (rules : RuleTable) (allowed : GoalSet Data → Event Data → Prop)
    (goals : List GoalEntry) :
    GoalSet Data → List (GoalId × Data) → List (Discard Data) → Prop
  | create {s : GoalSet Data} (created : createGoalSet goals = some s) :
      Recorded rules allowed goals s [] []
  | call {s s' : GoalSet Data} {event : Event Data} {activated : List (GoalId × Data)}
      {discarded : List (Discard Data)}
      (recorded : Recorded rules allowed goals s activated discarded)
      (callable : Callable s event) (permitted : allowed s event)
      (stepped : step rules s event = some s') (bounded : s'.queueTask.length < 256) :
      Recorded rules allowed goals s' (activated ++ activatedBy event)
        (discarded ++ discardedBy rules s event)

theorem Recorded.reachable (recorded : Recorded rules allowed goals s activated discarded) :
    Reachable rules allowed goals s := by
  induction recorded with
  | create created => exact .create created
  | call _ callable permitted stepped bounded ih =>
    exact .call ih callable permitted stepped bounded

theorem Reachable.mono {allowed' : GoalSet Data → Event Data → Prop}
    (weaker : ∀ s event, allowed s event → allowed' s event)
    (reachable : Reachable rules allowed goals s) : Reachable rules allowed' goals s := by
  induction reachable with
  | create created => exact .create created
  | call _ callable permitted stepped bounded ih =>
    exact .call ih callable (weaker _ _ permitted) stepped bounded

theorem conserves_append {new started pending pending' starts counted given : List (GoalId × Data)}
    (before : activated.Perm (started ++ pending ++ counted))
    (now : (pending ++ new).Perm (starts ++ pending' ++ given)) :
    (activated ++ new).Perm ((started ++ starts) ++ pending' ++ (counted ++ given)) := by
  calc
    (activated ++ new).Perm ((started ++ pending ++ counted) ++ new) := before.append_right new
    _ = started ++ (pending ++ (counted ++ new)) := by simp only [append_assoc]
    List.Perm _ (started ++ (pending ++ (new ++ counted))) :=
      (List.perm_append_comm.append_left pending).append_left started
    _ = started ++ ((pending ++ new) ++ counted) := by simp only [append_assoc]
    List.Perm _ (started ++ ((starts ++ pending' ++ given) ++ counted)) :=
      (now.append_right counted).append_left started
    _ = (started ++ starts) ++ pending' ++ (given ++ counted) := by
      simp only [append_assoc]
    List.Perm _ ((started ++ starts) ++ pending' ++ (counted ++ given)) :=
      List.perm_append_comm.append_left _

theorem Recorded.conserves (recorded : Recorded rules allowed goals s activated discarded) :
    SlotsAgree rules none s ∧ activated.Perm
        (s.started ++ s.pendingDecisions rules ++ discarded.map Discard.decision) := by
  induction recorded with
  | create created =>
    refine ⟨(queueInvariant_create created).agree, ?_⟩
    unfold createGoalSet at created
    split at created
    · cases created
      exact List.Perm.refl _
    · contradiction
  | @call s s' event activated discarded recorded callable _ stepped bounded ih =>
    obtain ⟨agree, accounted⟩ := ih
    cases isActivation : activationOf rules s event with
    | none =>
      obtain ⟨nothing, _, started, queue, agree'⟩ :=
        agree.step_of_no_activation callable isActivation stepped
      refine ⟨agree', ?_⟩
      rw [nothing, append_nil, started, pendingDecisions_of_queueTask queue,
        discardedBy, isActivation, append_nil]
      exact accounted
    | some activation =>
      obtain ⟨⟨_, ready⟩, passed⟩ := agree.activation_ready
        recorded.reachable.queueTask_bounded callable isActivation
      have called := step_of_activationOf rules s event
      rw [isActivation] at called
      obtain ⟨run, same, _⟩ := called
      have ran := run.symm.trans stepped
      obtain ⟨starts, started, conserved⟩ := ready.agree.run_conserves ready.goalOf_ruleId ran
      refine ⟨ready.run_agree ran bounded, ?_⟩
      rw [started, same, discardedBy, isActivation, map_append]
      exact conserves_append accounted (passed.trans conserved)

theorem Recorded.table (recorded : Recorded rules allowed goals s activated discarded) :
    s.goals = goals := by
  induction recorded with
  | create created =>
    unfold createGoalSet at created
    split at created
    · cases created
      rfl
    · contradiction
  | @call s s' event _ _ recorded callable _ stepped _ ih =>
    have agree := recorded.conserves.1
    cases isActivation : activationOf rules s event with
    | none => exact (agree.step_of_no_activation callable isActivation stepped).2.1.trans ih
    | some activation =>
      have called := step_of_activationOf rules s event
      rw [isActivation] at called
      exact ((activation.run_goals (called.1.symm.trans stepped)).trans called.2.2).trans ih

theorem Recorded.inOrder
    (own : ∀ s event, allowed s event → ExclusiveCancelsAreOwn rules s event)
    (first : ∀ s event, allowed s event → DeliversFirst s event)
    (recorded : Recorded rules allowed goals s activated discarded) :
    ((s.started ++ s.pendingDecisions rules).filter (usesWait goals)).Sublist activated := by
  induction recorded with
  | create created =>
    unfold createGoalSet at created
    split at created
    · cases created
      exact List.nil_sublist _
    · contradiction
  | @call s s' event activated _ recorded callable permitted stepped _ ih =>
    have invariant := (recorded.reachable.mono own).queueInvariant
    have order := invariant.step_order recorded.reachable.queueTask_bounded callable
      (first _ _ permitted) stepped
    rw [recorded.table] at order
    exact order.trans (ih.append_right _)

private def overtakenTable : List GoalEntry :=
  [⟨.wait, 0, []⟩, ⟨.wait, 2, []⟩, ⟨.concurrent, 0, [3, 4]⟩, ⟨.concurrent, 0, [2, 4]⟩,
    ⟨.concurrent, 0, [2, 3]⟩, ⟨.wait, 0, []⟩]

private def clearsOnlyItself : Procedures := ⟨fun _ => [], fun goal => [goal]⟩

/-- Cancelling goal 2 also ends goal 3. -/
private def clearsThirdToo : Procedures := ⟨fun _ => [], fun _ => [2, 3]⟩

private def InOrderRun (s : GoalSet Unit) (event : Event Unit) : Prop :=
  ExclusiveCancelsAreOwn successorRules s event ∧ DeliversFirst s event

theorem recorded_after (event : Event Data) {s' : GoalSet Data}
    (recorded : Recorded rules allowed goals s activated discarded)
    (callable : Callable s event) (permitted : allowed s event)
    (stepped : step rules s event = some s') (bounded : s'.queueTask.length < 256) :
    Recorded rules allowed goals s' (activated ++ activatedBy event)
      (discarded ++ discardedBy rules s event) :=
  recorded.call callable permitted stepped bounded

end Runs

end HeadsetAdk.GoalsEngine
