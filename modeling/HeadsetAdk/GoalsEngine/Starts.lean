import HeadsetAdk.GoalsEngine.QueueRuns

/-! # The goals that are active when a goal is started -/

namespace HeadsetAdk.GoalsEngine

variable {Data : Type}

namespace GoalSet

/-- The state in which `GoalsEngine_ActivateGoal` calls `goalsEngine_StartGoal`,
if it does. -/
def startState (procs : Procedures) (s : GoalSet Data) (newGoal : GoalId) (isNewGoal : Bool) :
    Option (GoalSet Data) :=
  if s.isDuplicateCancellationGoal newGoal = true then none
  else if s.goalCanRunNow isNewGoal = true then some s
  else if s.goalCancelsActive newGoal = true then
    (cancelActiveGoals procs s.clearPendingGoalsQueue s.activeGoalsMask).filter fun s =>
      s.activeGoalsMask == 0 && s.goalCanRunNow isNewGoal
  else
    let concurrent := s.goalRunsConcurrently newGoal
    let waitMask := s.handleConcurrentGoals newGoal s.activeGoalsMask
    let (s, waitMask) := handleExclusiveGoals procs s newGoal waitMask
    if (concurrent && waitMask == 0) || s.goalCanRunNow isNewGoal then some s else none

end GoalSet

open GoalSet

/-- The arguments of `GoalsEngine_ActivateGoal` once the queue count is adjusted. -/
structure Activation (Data : Type) where
  procs : Procedures
  state : GoalSet Data
  goal : GoalId
  isNewGoal : Bool
  ruleId : MessageId
  data : Data

def Activation.run (activation : Activation Data) : Option (GoalSet Data) :=
  activateCountedGoal activation.procs activation.state activation.goal activation.isNewGoal
    activation.ruleId activation.data

def Activation.startState (activation : Activation Data) : Option (GoalSet Data) :=
  activation.state.startState activation.procs activation.goal activation.isNewGoal

def Activation.start (activation : Activation Data) (before : GoalSet Data) : GoalSet Data :=
  (before.startGoal activation.procs activation.goal activation.data).resetPendingQueueIfEmpty

/-- The goal set that `GoalsEngine_ActivateGoal` works on for a delivered message. -/
def takeMessage (s : GoalSet Data) (index : Nat) : GoalSet Data :=
  { s with
    queueTask := s.queueTask.eraseIdx index
    queueMsgCount := (s.queueMsgCount + 255) % 256 }

/-- The activation within a call, of a goal other than `GOAL_ID_NONE`. -/
def activationOf (rules : RuleTable) (s : GoalSet Data) : Event Data → Option (Activation Data)
  | .activate procs goal data =>
      if goal = goalIdNone then none else some ⟨procs, s, goal, true, rules.ruleOf goal, data⟩
  | .deliver procs index =>
      s.queueTask[index]?.bind fun message =>
        if rules.goalOf message.ruleId = goalIdNone then none
        else some ⟨procs, takeMessage s index, rules.goalOf message.ruleId, false, message.ruleId,
          message.data⟩
  | .clear _ => none

theorem step_of_activationOf (rules : RuleTable) (s : GoalSet Data) (event : Event Data) :
    match activationOf rules s event with
    | none => ∃ s', step rules s event = some s' ∧ s'.started = s.started
    | some activation => step rules s event = activation.run ∧
        activation.state.started = s.started ∧ activation.state.goals = s.goals := by
  cases event with
  | activate procs goal data =>
    by_cases isNone : goal = goalIdNone
    · rw [activationOf, if_pos isNone]
      exact ⟨s, by rw [step, activateGoal, if_pos isNone], rfl⟩
    · rw [activationOf, if_neg isNone, step, activateGoal, if_neg isNone, if_pos rfl]
      exact ⟨rfl, rfl, rfl⟩
  | deliver procs index =>
    cases found : s.queueTask[index]? with
    | none =>
      simp only [activationOf, step, found, Option.bind_none]
      exact ⟨s, rfl, rfl⟩
    | some message =>
      simp only [activationOf, step, found, Option.bind_some, activateGoal, Bool.false_eq_true,
        if_false]
      by_cases isNone : rules.goalOf message.ruleId = goalIdNone
      · rw [if_pos isNone, if_pos isNone]
        exact ⟨_, rfl, rfl⟩
      · rw [if_neg isNone, if_neg isNone]
        exact ⟨rfl, rfl, rfl⟩
  | clear goal => exact ⟨s.clearGoal goal, rfl, rfl⟩

section Call

variable {procs : Procedures} {s s' : GoalSet Data} {newGoal : GoalId} {isNewGoal : Bool}
  {ruleId : MessageId} {data : Data}

theorem queueGoal_started {waitMask : GoalMask}
    (queued : s.queueGoal ruleId data waitMask newGoal = some s') : s'.started = s.started := by
  obtain ⟨_, _, _, _, started, _⟩ := queueGoal_eq_some queued
  exact started

theorem cancelActiveGoals_frame {mask : GoalMask}
    (cancelled : cancelActiveGoals procs s mask = some s') :
    s'.goals = s.goals ∧ s'.queueTask = s.queueTask ∧ s'.queueMsgCount = s.queueMsgCount ∧
      s'.started = s.started := by
  unfold cancelActiveGoals at cancelled
  generalize (List.range 64).filter (fun goal => mask.getLsbD goal) = goals at cancelled
  induction goals generalizing s with
  | nil => cases cancelled; exact ⟨rfl, rfl, rfl, rfl⟩
  | cons goal goals ih =>
    rw [List.foldlM_cons] at cancelled
    split at cancelled
    · obtain ⟨goals', queue, count, started⟩ := ih cancelled
      obtain ⟨goals'', queue', count', started'⟩ := clearGoals_frame (procs.cancel goal) s
      exact ⟨goals'.trans goals'', queue.trans queue', count.trans count', started.trans started'⟩
    · contradiction

theorem activateCountedGoal_startState
    (activated : GoalSet.activateCountedGoal procs s newGoal isNewGoal ruleId data = some s') :
    match s.startState procs newGoal isNewGoal with
    | none => s'.started = s.started
    | some before => before.started = s.started ∧
        s' = (before.startGoal procs newGoal data).resetPendingQueueIfEmpty := by
  unfold GoalSet.activateCountedGoal at activated
  unfold GoalSet.startState
  by_cases duplicate : s.isDuplicateCancellationGoal newGoal = true
  · rw [if_pos duplicate] at activated ⊢
    cases activated
    rw [clearPendingGoalsQueue_eq]
  rw [if_neg duplicate] at activated ⊢
  obtain ⟨final, inner, rfl⟩ := Option.map_eq_some_iff.mp activated
  by_cases now : s.goalCanRunNow isNewGoal = true
  · rw [if_pos now] at inner ⊢
    cases inner
    exact ⟨rfl, rfl⟩
  rw [if_neg now] at inner ⊢
  by_cases cancels : s.goalCancelsActive newGoal = true
  · rw [if_pos cancels] at inner ⊢
    obtain ⟨cancelled, wasCancelled, inner⟩ := Option.bind_eq_some_iff.mp inner
    obtain ⟨_, _, _, started⟩ := cancelActiveGoals_frame wasCancelled
    rw [clearPendingGoalsQueue_eq] at started
    rw [wasCancelled, Option.filter_some]
    dsimp only at inner
    split at inner
    case isTrue free =>
      cases inner
      rw [if_pos free]
      exact ⟨started, rfl⟩
    case isFalse waits =>
      rw [if_neg waits]
      exact (resetPendingQueueIfEmpty_frame final).2.2.2.2.trans
        ((queueGoal_started inner).trans started)
  · rw [if_neg cancels] at inner ⊢
    unfold GoalSet.activateContendingGoal at inner
    dsimp only at inner ⊢
    have started := (handleExclusiveGoals_frame procs s newGoal
      (s.handleConcurrentGoals newGoal s.activeGoalsMask)).2.1
    split at inner
    case isTrue free =>
      cases inner
      rw [if_pos free]
      exact ⟨started, rfl⟩
    case isFalse waits =>
      rw [if_neg waits]
      exact (resetPendingQueueIfEmpty_frame final).2.2.2.2.trans
        ((queueGoal_started inner).trans started)

end Call

section Exclusion

variable {procs : Procedures} {s before : GoalSet Data} {newGoal : GoalId} {goal : GoalId}

theorem getConcurrentGoalsMask_getLsbD {entry : GoalEntry}
    (bit : (getConcurrentGoalsMask entry).getLsbD goal = true) : goal ∈ entry.concurrentGoals := by
  have members (goals : List GoalId) (mask : GoalMask)
      (bit : (goals.foldl (fun mask other => mask ||| goalMask other) mask).getLsbD goal = true) :
      mask.getLsbD goal = true ∨ goal ∈ goals := by
    induction goals generalizing mask with
    | nil => exact Or.inl bit
    | cons other goals ih =>
      rcases ih _ bit with here | later
      · rw [BitVec.getLsbD_or, Bool.or_eq_true, goalMask_getLsbD, Bool.and_eq_true,
          decide_eq_true_eq, decide_eq_true_eq] at here
        rcases here with old | ⟨_, rfl⟩
        · exact Or.inl old
        · exact Or.inr List.mem_cons_self
      · exact Or.inr (List.mem_cons_of_mem other later)
  rcases members entry.concurrentGoals 0 bit with zero | listed
  · simp at zero
  · exact listed

theorem handleExclusiveGoals_active_subset {waitMask : GoalMask}
    (active : (handleExclusiveGoals procs s newGoal waitMask).1.activeGoalsMask.getLsbD goal =
      true) :
    s.activeGoalsMask.getLsbD goal = true ∧ (waitMask.getLsbD goal = true →
        (handleExclusiveGoals procs s newGoal waitMask).2.getLsbD goal = true) := by
  by_cases exclusive : ExclusiveActive s newGoal
  · rw [handleExclusiveGoals_active rfl exclusive] at active ⊢
    dsimp only at active ⊢
    have inside := BitVec.lt_of_getLsbD active
    have kept := active
    rw [cancelGoal, clearGoals_active, (dequeGoal_frame s _).2.1, Bool.and_eq_true] at kept
    refine ⟨kept.1, fun waits => ?_⟩
    split
    · exact waits
    case isFalse ended =>
      rw [removeGoalFromMask_getLsbD, waits, Bool.true_and, Bool.not_eq_true',
        decide_eq_false_iff_not]
      rintro rfl
      rw [isGoalActive_iff_getLsbD _ inside] at ended
      exact ended active
  · rw [handleExclusiveGoals_inactive exclusive] at active ⊢
    exact ⟨active, id⟩

theorem startState_excludes {isNewGoal : Bool}
    (starts : s.startState procs newGoal isNewGoal = some before) :
    before.goals = s.goals ∧ (before.activeGoalsMask = 0 ∨
      (s.goalEntry newGoal).contention = .concurrent ∧
        ∀ goal, before.activeGoalsMask.getLsbD goal = true →
          goal ∈ (s.goalEntry newGoal).concurrentGoals) := by
  have idle {t : GoalSet Data} (now : t.goalCanRunNow isNewGoal = true) :
      t.activeGoalsMask = 0 := by
    rw [goalCanRunNow, Bool.and_eq_true, beq_iff_eq] at now
    exact now.1
  unfold GoalSet.startState at starts
  split at starts
  case isTrue => contradiction
  split at starts
  case isTrue now =>
    cases starts
    exact ⟨rfl, Or.inl (idle now)⟩
  split at starts
  case isTrue =>
    obtain ⟨cancelled, free⟩ := Option.filter_eq_some_iff.mp starts
    rw [Bool.and_eq_true] at free
    refine ⟨?_, Or.inl (idle free.2)⟩
    rw [(cancelActiveGoals_frame cancelled).1, clearPendingGoalsQueue_eq]
  case isFalse =>
    dsimp only at starts
    split at starts
    case isFalse => contradiction
    case isTrue free =>
      cases starts
      refine ⟨(handleExclusiveGoals_frame procs s newGoal _).1, ?_⟩
      rw [Bool.or_eq_true, Bool.and_eq_true] at free
      rcases free with ⟨concurrent, empty⟩ | now
      · right
        have contention : (s.goalEntry newGoal).contention = .concurrent := beq_iff_eq.mp concurrent
        refine ⟨contention, fun goal active => ?_⟩
        obtain ⟨wasActive, waits⟩ := handleExclusiveGoals_active_subset active
        rw [beq_iff_eq.mp empty] at waits
        -- An active goal that is not listed would still be waited for.
        by_contra notListed
        have notInMask : (getConcurrentGoalsMask (s.goalEntry newGoal)).getLsbD goal = false := by
          rw [← Bool.not_eq_true]
          exact fun bit => notListed (getConcurrentGoalsMask_getLsbD bit)
        have inside := BitVec.lt_of_getLsbD wasActive
        have covered : (s.handleConcurrentGoals newGoal s.activeGoalsMask).getLsbD goal = true := by
          rw [handleConcurrentGoals, if_pos concurrent, BitVec.getLsbD_and, BitVec.getLsbD_not,
            wasActive, notInMask]
          simp [inside]
        have impossible := waits covered
        simp at impossible
      · exact Or.inl (idle now)

end Exclusion

section Runs

def startOf (rules : RuleTable) (s : GoalSet Data) (event : Event Data) :
    Option (Activation Data × GoalSet Data) :=
  (activationOf rules s event).bind fun activation =>
    activation.startState.map fun before => (activation, before)

variable {rules : RuleTable} {s : GoalSet Data} {event : Event Data}

theorem startOf_eq_some {activation : Activation Data} {before : GoalSet Data}
    (starts : startOf rules s event = some (activation, before)) :
    activationOf rules s event = some activation ∧ activation.startState = some before := by
  obtain ⟨activation', isActivation, inner⟩ := Option.bind_eq_some_iff.mp starts
  obtain ⟨before', inState, equal⟩ := Option.map_eq_some_iff.mp inner
  cases equal
  exact ⟨isActivation, inState⟩

theorem step_startOf {s' : GoalSet Data} (stepped : step rules s event = some s') :
    match startOf rules s event with
    | none => s'.started = s.started
    | some (activation, before) => before.started = s.started ∧ s' = activation.start before := by
  have called := step_of_activationOf rules s event
  unfold startOf
  cases isActivation : activationOf rules s event with
  | none =>
    rw [isActivation] at called
    obtain ⟨final, stepped', started⟩ := called
    cases stepped.symm.trans stepped'
    exact started
  | some activation =>
    rw [isActivation] at called
    obtain ⟨run, same, _⟩ := called
    have spec := activateCountedGoal_startState (run.symm.trans stepped)
    rw [Option.bind_some]
    cases inState : activation.startState with
    | none =>
      rw [show activation.state.startState _ _ _ = none from inState] at spec
      exact spec.trans same
    | some before =>
      rw [show activation.state.startState _ _ _ = some before from inState] at spec
      exact ⟨spec.1.trans same, spec.2⟩

/-- In every state, and so after every run, a call starts a goal only in a state in
which all active goals are concurrent goals of it. -/
theorem start_excludes_active (rules : RuleTable) (s s' : GoalSet Data) (event : Event Data)
    (stepped : step rules s event = some s') :
    (startOf rules s event = none ∧ s'.started = s.started) ∨
      ∃ activation before, startOf rules s event = some (activation, before) ∧
        s' = activation.start before ∧
        s'.started = s.started ++ [(activation.goal, activation.data)] ∧
        (∀ goal, before.activeGoalsMask.getLsbD goal = true →
          (s.goalEntry activation.goal).contention = .concurrent ∧
            goal ∈ (s.goalEntry activation.goal).concurrentGoals) ∧
        ((s.goalEntry activation.goal).contention ≠ .concurrent → before.activeGoalsMask = 0) ∧
        (before.activeGoalsMask.getLsbD activation.goal = true →
          activation.goal ∈ (s.goalEntry activation.goal).concurrentGoals) := by
  have spec := step_startOf stepped
  cases starts : startOf rules s event with
  | none =>
    rw [starts] at spec
    exact Or.inl ⟨rfl, spec⟩
  | some found =>
    obtain ⟨activation, before⟩ := found
    rw [starts] at spec
    obtain ⟨same, after⟩ := spec
    obtain ⟨isActivation, inState⟩ := startOf_eq_some starts
    have called := step_of_activationOf rules s event
    rw [isActivation] at called
    have entry : activation.state.goalEntry activation.goal = s.goalEntry activation.goal := by
      rw [goalEntry, goalEntry, called.2.2]
    obtain ⟨_, excludes⟩ := startState_excludes inState
    rw [entry] at excludes
    have listed (goal : GoalId) (active : before.activeGoalsMask.getLsbD goal = true) :
        (s.goalEntry activation.goal).contention = .concurrent ∧
          goal ∈ (s.goalEntry activation.goal).concurrentGoals := by
      rcases excludes with idle | ⟨concurrent, members⟩
      · rw [idle] at active
        simp at active
      · exact ⟨concurrent, members goal active⟩
    refine Or.inr ⟨activation, before, rfl, after, ?_, listed, ?_,
      fun active => (listed _ active).2⟩
    · rw [after, Activation.start, (resetPendingQueueIfEmpty_frame _).2.2.2.2,
        (startGoal_frame activation.procs before activation.goal activation.data).2.2.2, same]
    · intro notConcurrent
      exact excludes.resolve_right fun listed => notConcurrent listed.1

private def pairTable : List GoalEntry :=
  [⟨.wait, 0, []⟩, ⟨.concurrent, 0, [2]⟩, ⟨.concurrent, 0, [1]⟩]

def successorRules : RuleTable where
  ruleOf goal := goal + 1
  goalOf rule := rule - 1
  goalOf_ruleOf goal _ := Nat.add_sub_cancel goal 1
  ruleOf_ne_zero goal _ := goal.succ_ne_zero

private def firstActive : GoalSet Unit :=
  ⟨pairTable, 2, 0, 0, fun _ => .empty, [], [(1, ())]⟩

theorem start_excludes_active_pair :
    ∃ (s s' : GoalSet Unit) (activation : Activation Unit) (before : GoalSet Unit),
      step successorRules s (.activate ⟨fun _ => [], fun _ => []⟩ 2 ()) = some s' ∧
      s'.started = [(1, ()), (2, ())] ∧ before.activeGoalsMask = 2 ∧
      ∀ goal, before.activeGoalsMask.getLsbD goal = true →
        goal ∈ (s.goalEntry activation.goal).concurrentGoals := by
  have started := start_excludes_active successorRules firstActive _
    (.activate ⟨fun _ => [], fun _ => []⟩ 2 ()) rfl
  rcases started with ⟨none, _⟩ | ⟨activation, before, starts, _, same, listed, _, _⟩
  · exact absurd (congrArg Option.isSome none) (by decide)
  · refine ⟨firstActive, _, activation, before, rfl, ?_, ?_,
      fun goal active => (listed goal active).2⟩
    · rw [same]
      cases starts
      rfl
    · cases starts
      rfl

end Runs

end HeadsetAdk.GoalsEngine
