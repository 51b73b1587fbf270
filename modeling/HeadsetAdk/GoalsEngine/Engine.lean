import Mathlib.Data.BitVec
import Mathlib.Data.List.FinRange

/-!
# The goals engine

`goals_engine.c`: a goal that cannot run at once is sent to the queue task under a lock.  Procedures
may confirm their work before they return; a `Procedures` value lists, for each goal, the goals
cleared that way.  `none` is a panic.
-/

namespace HeadsetAdk.GoalsEngine

abbrev GoalId := Nat

abbrev MessageId := Nat

/-- `goal_mask`, an `unsigned long long`. -/
abbrev GoalMask := BitVec 64

def goalIdNone : GoalId := 0

def goalIdMax : Nat := 63

/-- `INITIAL_GOAL_QUEUE_COUNT`: the queue array never grows. -/
abbrev initialGoalQueueCount : Nat := 8

/-- `GOAL_MASK(id)` -/
def goalMask (goal : GoalId) : GoalMask := 1#64 <<< goal

/-- `REMOVE_GOAL_FROM_MASK(goal_mask, goal)` -/
def removeGoalFromMask (mask : GoalMask) (goal : GoalId) : GoalMask :=
  mask &&& ~~~goalMask goal

inductive GoalContention
  | wait
  | cancel
  | concurrent
  deriving DecidableEq, Repr

/-- The fields of `goal_entry_t` that the engine itself consults. -/
structure GoalEntry where
  contention : GoalContention
  exclusiveGoal : GoalId
  concurrentGoals : List GoalId
  deriving DecidableEq, Repr

instance : Inhabited GoalEntry := ⟨⟨.wait, goalIdNone, []⟩⟩

structure PendingGoalEntry where
  id : GoalId
  ruleId : MessageId
  lock : Nat
  lockMask : GoalMask
  deriving DecidableEq, Repr

/-- What `goalsEngine_ClearGoalEntry` leaves in a slot. -/
def PendingGoalEntry.empty : PendingGoalEntry := ⟨0, 0, 0, 0⟩

/-- A decision held by the message system for the queue task.  It is
deliverable while the lock of `lockSlot` is zero. -/
structure PendingMessage (Data : Type) where
  ruleId : MessageId
  data : Data
  lockSlot : Fin initialGoalQueueCount
  deriving DecidableEq, Repr

/-- `struct goal_set_tag` together with the messages of its queue task.
`started` records the procedure starts, in order. -/
structure GoalSet (Data : Type) where
  goals : List GoalEntry
  activeGoalsMask : GoalMask
  queueMsgCount : Nat
  queueMsgCountMax : Nat
  pendingGoals : Fin initialGoalQueueCount → PendingGoalEntry
  queueTask : List (PendingMessage Data)
  started : List (GoalId × Data)

structure Procedures where
  start : GoalId → List GoalId
  cancel : GoalId → List GoalId

variable {Data : Type}

/-- `GoalsEngine_CreateGoalSet`, for a table that
`goalsEngine_ValidateInitParams` accepts. -/
def createGoalSet (goals : List GoalEntry) : Option (GoalSet Data) :=
  if 1 ≤ goals.length ∧ goals.length ≤ goalIdMax then
    some
      { goals := goals
        activeGoalsMask := 0
        queueMsgCount := 0
        queueMsgCountMax := 0
        pendingGoals := fun _ => .empty
        queueTask := []
        started := [] }
  else none

namespace GoalSet

def goalEntry (s : GoalSet Data) (goal : GoalId) : GoalEntry :=
  s.goals.getD goal default

/-- `SET_LOCK_FROM_MASK`: `GOAL_LOCK_MASK_BIT` when the mask is not empty. -/
def lockFromMask (lockMask : GoalMask) : Nat :=
  if lockMask ≠ 0 then 1 else 0

def goalCancelsActive (s : GoalSet Data) (goal : GoalId) : Bool :=
  (s.goalEntry goal).contention == .cancel

def goalRunsConcurrently (s : GoalSet Data) (goal : GoalId) : Bool :=
  (s.goalEntry goal).contention == .concurrent

def goalQueueSize (s : GoalSet Data) : Nat := s.queueMsgCount

def goalCanRunNow (s : GoalSet Data) (isNewGoal : Bool) : Bool :=
  s.activeGoalsMask == 0 && (s.goalQueueSize == 0 || !isNewGoal)

def isGoalActive (s : GoalSet Data) (goal : GoalId) : Bool :=
  s.activeGoalsMask &&& goalMask goal == goalMask goal

def getConcurrentGoalsMask (goal : GoalEntry) : GoalMask :=
  goal.concurrentGoals.foldl (fun mask other => mask ||| goalMask other) 0

/-- `MessagePendingFirst` on the queue task. -/
def messagePending (s : GoalSet Data) (ruleId : MessageId) : Bool :=
  s.queueTask.any (fun message => message.ruleId == ruleId)

def clearGoal (s : GoalSet Data) (goal : GoalId) : GoalSet Data :=
  { s with
    activeGoalsMask := removeGoalFromMask s.activeGoalsMask goal
    pendingGoals := fun slot =>
      let entry := s.pendingGoals slot
      if entry.id ≠ goalIdNone then
        { entry with
          lockMask := removeGoalFromMask entry.lockMask goal
          lock := lockFromMask (removeGoalFromMask entry.lockMask goal) }
      else entry }

def cancelGoal (procs : Procedures) (s : GoalSet Data) (goal : GoalId) :
    GoalSet Data :=
  (procs.cancel goal).foldl clearGoal s

/-- The slot `goalsEngine_QueueGoal` uses: the one already held by the goal,
else the first unused one. -/
def queueSlot (s : GoalSet Data) (newGoal : GoalId) :
    Option (Fin initialGoalQueueCount) :=
  ((List.finRange initialGoalQueueCount).find? fun slot =>
      (s.pendingGoals slot).id == newGoal).or
    ((List.finRange initialGoalQueueCount).find? fun slot =>
      (s.pendingGoals slot).id == goalIdNone)

def queueGoal (s : GoalSet Data) (ruleId : MessageId) (data : Data)
    (waitMask : GoalMask) (newGoal : GoalId) : Option (GoalSet Data) :=
  (s.queueSlot newGoal).map fun slot =>
    let count := (s.queueMsgCount + 1) % 256
    { s with
      pendingGoals := Function.update s.pendingGoals slot
        { id := newGoal
          ruleId := ruleId
          lock := lockFromMask waitMask
          lockMask := waitMask }
      queueTask := s.queueTask ++ [⟨ruleId, data, slot⟩]
      queueMsgCount := count
      queueMsgCountMax := max s.queueMsgCountMax count }

/-- `goalsEngine_DequeGoal`, with `MessageCancelAll` on the queue task. -/
def dequeGoal (s : GoalSet Data) (goal : GoalId) : GoalSet Data :=
  match (List.finRange initialGoalQueueCount).find? fun slot =>
      (s.pendingGoals slot).id == goal with
  | none => s
  | some slot =>
      let ruleId := (s.pendingGoals slot).ruleId
      let cancelledCount :=
        s.queueTask.countP (fun message => message.ruleId == ruleId)
      { s with
        queueTask := s.queueTask.filter (fun message => message.ruleId != ruleId)
        queueMsgCount := (s.queueMsgCount + 256 - cancelledCount % 256) % 256
        pendingGoals := Function.update s.pendingGoals slot .empty }

def resetPendingQueueIfEmpty (s : GoalSet Data) : GoalSet Data :=
  if s.goalQueueSize = 0 then { s with pendingGoals := fun _ => .empty } else s

/-- `goalsEngine_ClearPendingGoalsQueue`, with `MessageFlushTask`. -/
def clearPendingGoalsQueue (s : GoalSet Data) : GoalSet Data :=
  resetPendingQueueIfEmpty { s with queueTask := [], queueMsgCount := 0 }

/-- `goalsEngine_HandleExclusiveGoals`: the state and the wait mask after it. -/
def handleExclusiveGoals (procs : Procedures) (s : GoalSet Data)
    (newGoal : GoalId) (waitMask : GoalMask) : GoalSet Data × GoalMask :=
  let exclusiveGoal := (s.goalEntry newGoal).exclusiveGoal
  if exclusiveGoal ≠ goalIdNone ∧ exclusiveGoal < s.goals.length ∧
      s.isGoalActive exclusiveGoal = true then
    let s := cancelGoal procs (s.dequeGoal exclusiveGoal) exclusiveGoal
    if s.isGoalActive exclusiveGoal = true then (s, waitMask)
    else (s, removeGoalFromMask waitMask exclusiveGoal)
  else (s, waitMask)

/-- The loop of `goalsEngine_CheckIfNewGoalCancelsActiveGoals` over its own copy of the active
mask; `goalsEngine_FirstGoalFromMask` panics on a goal outside the table. -/
def cancelActiveGoals (procs : Procedures) (s : GoalSet Data)
    (workingCancelMask : GoalMask) : Option (GoalSet Data) :=
  ((List.range 64).filter fun goal => workingCancelMask.getLsbD goal).foldlM
    (fun s goal =>
      if goal ≠ goalIdNone ∧ goal < s.goals.length then
        some (cancelGoal procs s goal)
      else none) s

/-- `goalsEngine_HandleDuplicateCancellationGoal`, as its condition. -/
def isDuplicateCancellationGoal (s : GoalSet Data) (newGoal : GoalId) : Bool :=
  s.goalCancelsActive newGoal && s.isGoalActive newGoal

/-- `goalsEngine_HandleConcurrentGoals`: the wait mask after it. -/
def handleConcurrentGoals (s : GoalSet Data) (newGoal : GoalId)
    (waitMask : GoalMask) : GoalMask :=
  if s.goalRunsConcurrently newGoal = true then
    waitMask &&& ~~~getConcurrentGoalsMask (s.goalEntry newGoal)
  else waitMask

/-- One queue entry in `goalsEngine_UpdateQueueMasks`. -/
def updateQueueEntry (s : GoalSet Data) (entry : PendingGoalEntry) :
    PendingGoalEntry :=
  if s.messagePending entry.ruleId = false then .empty
  else if entry.ruleId ≠ 0 then
    let waitMask := s.handleConcurrentGoals entry.id s.activeGoalsMask
    if waitMask ≠ entry.lockMask then
      { entry with lockMask := waitMask, lock := lockFromMask waitMask }
    else entry
  else entry

def updateQueueMasks (s : GoalSet Data) : GoalSet Data :=
  if s.queueMsgCount ≠ 0 then
    { s with pendingGoals := fun slot => s.updateQueueEntry (s.pendingGoals slot) }
  else s

def startGoal (procs : Procedures) (s : GoalSet Data) (goal : GoalId)
    (data : Data) : GoalSet Data :=
  updateQueueMasks <| (procs.start goal).foldl clearGoal
    { s with
      activeGoalsMask := s.activeGoalsMask ||| goalMask goal
      started := s.started ++ [(goal, data)] }

/-- The part of `GoalsEngine_ActivateGoal` taken by a cancelling goal that
could not run at once. -/
def activateCancelGoal (procs : Procedures) (s : GoalSet Data)
    (newGoal : GoalId) (isNewGoal : Bool) (ruleId : MessageId) (data : Data) :
    Option (GoalSet Data) := do
  let s' ← cancelActiveGoals procs s.clearPendingGoalsQueue s.activeGoalsMask
  let waitMask := s'.activeGoalsMask
  if waitMask == 0 && s'.goalCanRunNow isNewGoal then
    some (s'.startGoal procs newGoal data)
  else s'.queueGoal ruleId data waitMask newGoal

/-- The part of `GoalsEngine_ActivateGoal` taken by any other goal that could
not run at once. -/
def activateContendingGoal (procs : Procedures) (s : GoalSet Data)
    (newGoal : GoalId) (isNewGoal : Bool) (ruleId : MessageId) (data : Data) :
    Option (GoalSet Data) :=
  let concurrent := s.goalRunsConcurrently newGoal
  let waitMask := s.handleConcurrentGoals newGoal s.activeGoalsMask
  let (s, waitMask) := handleExclusiveGoals procs s newGoal waitMask
  if (concurrent && waitMask == 0) || s.goalCanRunNow isNewGoal then
    some (s.startGoal procs newGoal data)
  else s.queueGoal ruleId data waitMask newGoal

/-- `GoalsEngine_ActivateGoal` once the queue count is adjusted. -/
def activateCountedGoal (procs : Procedures) (s : GoalSet Data)
    (newGoal : GoalId) (isNewGoal : Bool) (ruleId : MessageId) (data : Data) :
    Option (GoalSet Data) :=
  if s.isDuplicateCancellationGoal newGoal = true then
    some s.clearPendingGoalsQueue
  else
    Option.map resetPendingQueueIfEmpty <|
      if s.goalCanRunNow isNewGoal = true then
        some (s.startGoal procs newGoal data)
      else if s.goalCancelsActive newGoal = true then
        activateCancelGoal procs s newGoal isNewGoal ruleId data
      else activateContendingGoal procs s newGoal isNewGoal ruleId data

/-- `GoalsEngine_ActivateGoal`; `isNewGoal` is false when the caller's task is
the queue task. -/
def activateGoal (procs : Procedures) (s : GoalSet Data) (newGoal : GoalId)
    (isNewGoal : Bool) (ruleId : MessageId) (data : Data) :
    Option (GoalSet Data) :=
  if newGoal = goalIdNone then some s
  else if isNewGoal then
    activateCountedGoal procs s newGoal isNewGoal ruleId data
  else
    activateCountedGoal procs
      { s with queueMsgCount := (s.queueMsgCount + 255) % 256 }
      newGoal isNewGoal ruleId data

end GoalSet

/-- The topology's conversion between goals and the rule decisions that
activate them.  Message ids of decisions start above zero, the value an unused
queue entry holds. -/
structure RuleTable where
  ruleOf : GoalId → MessageId
  goalOf : MessageId → GoalId
  goalOf_ruleOf : ∀ goal ≤ goalIdMax, goalOf (ruleOf goal) = goal
  ruleOf_ne_zero : ∀ goal ≤ goalIdMax, ruleOf goal ≠ 0

/-- The calls that reach a goal set from outside: a new decision, a decision
delivered from the queue task, and a procedure confirming completion or
cancellation. -/
inductive Event (Data : Type)
  | activate (procs : Procedures) (goal : GoalId) (data : Data)
  | deliver (procs : Procedures) (index : Nat)
  | clear (goal : GoalId)

/-- One call.  A delivery takes the message out of the queue task first. -/
def step (rules : RuleTable) (s : GoalSet Data) :
    Event Data → Option (GoalSet Data)
  | .activate procs goal data =>
      s.activateGoal procs goal true (rules.ruleOf goal) data
  | .deliver procs index =>
      match s.queueTask[index]? with
      | none => some s
      | some message =>
          { s with queueTask := s.queueTask.eraseIdx index }.activateGoal procs
            (rules.goalOf message.ruleId) false message.ruleId message.data
  | .clear goal => some (s.clearGoal goal)

end HeadsetAdk.GoalsEngine
