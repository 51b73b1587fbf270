import HeadsetAdk.Lib.CellArray

/-!
# The task list

`task_list.c`: the first tasks are kept in the list itself; of the rest a single one is kept in
place of the pointer to a heap array, more of them in that array.  `none` is a panic, or a read of
memory that holds something else.
-/

namespace HeadsetAdk.TaskLists

open CellArray

/-- A task is a pointer; zero is `NULL`. -/
abbrev Task := Nat

inductive ListType
  | standard
  | withData
  deriving DecidableEq, Repr

/-- `TASK_LIST_MAX_TASKS`; the sizes are kept in four bits. -/
def taskListMaxTasks : Nat := 15

/-- The union of a task list: a task, or a pointer to an array of tasks.  Both
members are `NULL` in `task 0`. -/
inductive TaskUnion
  | task (task : Task)
  | tasks (tasks : List Task)
  deriving DecidableEq, Repr

/-- `task_list_t` with the flexible array of `task_list_flexible_t` and the data of
`task_list_with_data_t`.  Whether a list may be destroyed matters to its owner only. -/
structure TaskList (Data : Type) where
  sizeList : Nat
  sizeFlexibleTasks : Nat
  listType : ListType
  u : TaskUnion
  flexibleTasks : List Task
  data : List Data
  deriving DecidableEq, Repr

/-- What unwritten heap cells happen to hold. -/
structure Unknown (Data : Type) where
  task : Task
  data : Data

variable {Data : Type}

/-- `list->u.task` -/
def TaskUnion.readTask : TaskUnion → Option Task
  | .task held => some held
  | .tasks _ => none

/-- `list->u.tasks`, with `NULL` as the array of no cells. -/
def TaskUnion.readTasks : TaskUnion → Option (List Task)
  | .task held => if held = 0 then some [] else none
  | .tasks cells => some cells

namespace TaskList

def getTaskAtIndex (list : TaskList Data) (index : Nat) : Option Task :=
  if index < list.sizeFlexibleTasks then list.flexibleTasks[index]?
  else if index = list.sizeFlexibleTasks ∧ list.sizeList = index + 1 then list.u.readTask
  else list.u.readTasks.bind fun tasks => tasks[index - list.sizeFlexibleTasks]?

/-- `taskList_FindTaskIndex`, which goes through the whole list: the index, if the
task is found. -/
def findTaskIndex (list : TaskList Data) (searchTask : Task) : Option (Option Nat) :=
  (List.range list.sizeList).foldlM
    (fun found iter => (list.getTaskAtIndex iter).map fun task =>
      if task = searchTask then some iter else found) none

/-- `taskList_SetTaskAtIndex`, which has no result where it writes behind an array. -/
def setTaskAtIndex (list : TaskList Data) (task : Task) (index : Nat) : Option (TaskList Data) :=
  if index < list.sizeFlexibleTasks then
    if index < list.flexibleTasks.length then
      some { list with flexibleTasks := list.flexibleTasks.set index task }
    else none
  else if index = list.sizeFlexibleTasks ∧ index + 1 = list.sizeList then
    some { list with u := .task task }
  else
    list.u.readTasks.bind fun tasks =>
      if index - list.sizeFlexibleTasks < tasks.length then
        some { list with u := .tasks (tasks.set (index - list.sizeFlexibleTasks) task) }
      else none

/-- The part of `taskList_Resize` that is about tasks. -/
def resizeTasks (unknown : Unknown Data) (list : TaskList Data) (newSize : Nat) :
    Option TaskUnion :=
  let flexSize := list.sizeFlexibleTasks
  let staticSize := flexSize + 1
  let oldSize := list.sizeList
  if newSize = staticSize then
    if staticSize < oldSize then list.u.readTasks.bind fun tasks => tasks[0]?.map .task
    else if oldSize < staticSize then some (.task 0)
    else some list.u
  else if staticSize < newSize then
    if oldSize = staticSize then
      list.u.readTask.map fun moveTask =>
        .tasks ((realloc unknown.task [] (newSize - flexSize)).set 0 moveTask)
    else
      list.u.readTasks.map fun tasks =>
        .tasks (realloc unknown.task tasks (newSize - flexSize))
  else if staticSize < oldSize then list.u.readTasks.map fun _ => .task 0
  else if oldSize = staticSize then some (.task 0)
  else some list.u

def resize (unknown : Unknown Data) (list : TaskList Data) (newSize : Nat) :
    Option (TaskList Data) :=
  (list.resizeTasks unknown newSize).map fun u =>
    { list with
      u := u
      data :=
        if list.listType = .withData then
          if newSize ≠ 0 then realloc unknown.data list.data newSize else []
        else list.data
      sizeList := newSize % 16 }

/-- `iterateIndex`: whether there is a next task, the task and its index. -/
def iterateIndex (list : TaskList Data) (nextTask : Task) : Option (Bool × Task × Nat) :=
  if list.sizeList ≠ 0 then
    if nextTask = 0 then (list.getTaskAtIndex 0).map fun task => (true, task, 0)
    else
      (list.findTaskIndex nextTask).bind fun
        | some index =>
            if index + 1 < list.sizeList then
              (list.getTaskAtIndex (index + 1)).map fun task => (true, task, index + 1)
            else some (false, nextTask, 0)
        | none => some (false, 0, 0)
  else some (false, nextTask, 0)

/-- `TaskList_Iterate`: whether there is a next task, and the task. -/
def iterate (list : TaskList Data) (nextTask : Task) : Option (Bool × Task) :=
  (list.iterateIndex nextTask).map fun (successful, task, _) => (successful, task)

def createWithCapacity (capacity : Nat) : Option (TaskList Data) :=
  let capacity := if capacity = 0 then 1 else capacity
  if capacity ≤ taskListMaxTasks then
    some
      { sizeList := 0
        sizeFlexibleTasks := capacity - 1
        listType := .standard
        u := .task 0
        flexibleTasks := List.replicate (capacity - 1) 0
        data := [] }
  else none

def withDataCreate : TaskList Data :=
  { sizeList := 0
    sizeFlexibleTasks := 0
    listType := .withData
    u := .task 0
    flexibleTasks := []
    data := [] }

def isTaskOnList (list : TaskList Data) (searchTask : Task) : Option Bool :=
  (list.findTaskIndex searchTask).map Option.isSome

/-- The index of the last task, a `uint16`. -/
def lastIndex (list : TaskList Data) : Nat := (list.sizeList + 65535) % 65536

def addTask (unknown : Unknown Data) (list : TaskList Data) (addTask : Task) :
    Option (Bool × TaskList Data) :=
  if addTask = 0 then none
  else
    (list.isTaskOnList addTask).bind fun
      | true => some (false, list)
      | false => do
          let list ← list.resize unknown (list.sizeList + 1)
          let list ← list.setTaskAtIndex addTask list.lastIndex
          some (true, list)

def isTaskListWithData (list : TaskList Data) : Bool := list.listType == .withData

def addTaskWithData (unknown : Unknown Data) (list : TaskList Data) (addTask : Task)
    (data : Data) : Option (Bool × TaskList Data) :=
  if list.isTaskListWithData = true then
    (list.addTask unknown addTask).map fun
      | (true, list) => (true, { list with data := list.data.set (list.sizeList - 1) data })
      | (false, list) => (false, list)
  else some (false, list)

/-- The loop of `TaskList_RemoveTask` that moves tasks into the space of the removed one. -/
def moveTasks (list : TaskList Data) (index : Nat) : Option (TaskList Data) :=
  (List.range' index (list.sizeList - 1 - index)).foldlM
    (fun list iter => (list.getTaskAtIndex (iter + 1)).bind fun next =>
      list.setTaskAtIndex next iter) list

def removeTask (unknown : Unknown Data) (list : TaskList Data) (delTask : Task) :
    Option (Bool × TaskList Data) :=
  if delTask = 0 then none
  else
    (list.findTaskIndex delTask).bind fun
      | none => some (false, list)
      | some index => do
          let list ← list.moveTasks index
          let moved :=
            if list.listType = .withData then
              memmove unknown.data list.data index (index + 1) (list.sizeList - index - 1)
            else list.data
          let list ← { list with data := moved }.resize unknown (list.sizeList - 1)
          some (true, list)

def removeAllTasks (unknown : Unknown Data) (list : TaskList Data) : Option (TaskList Data) :=
  if list.listType = .withData then none else list.resize unknown 0

def size (list : TaskList Data) : Nat := list.sizeList

/-- `TaskList_GetDataForTask`: the data, if the task is found on a list with data. -/
def getDataForTask (list : TaskList Data) (searchTask : Task) : Option (Option Data) :=
  if list.isTaskListWithData = true then
    (list.findTaskIndex searchTask).bind fun
      | some index => list.data[index]?.map some
      | none => some none
  else some none

def setDataForTask (list : TaskList Data) (searchTask : Task) (data : Data) :
    Option (Bool × TaskList Data) :=
  if list.isTaskListWithData = true then
    (list.findTaskIndex searchTask).bind fun
      | some index =>
          if index < list.data.length then
            some (true, { list with data := list.data.set index data })
          else none
      | none => some (false, list)
  else some (false, list)

end TaskList

inductive Call (Data : Type)
  | addTask (task : Task)
  | addTaskWithData (task : Task) (data : Data)
  | removeTask (task : Task)
  | removeAllTasks
  | setDataForTask (task : Task) (data : Data)
  deriving DecidableEq, Repr

def step (unknown : Unknown Data) (list : TaskList Data) :
    Call Data → Option (Bool × TaskList Data)
  | .addTask task => list.addTask unknown task
  | .addTaskWithData task data => list.addTaskWithData unknown task data
  | .removeTask task => list.removeTask unknown task
  | .removeAllTasks => (list.removeAllTasks unknown).map fun list => (true, list)
  | .setDataForTask task data => list.setDataForTask task data

def run (unknown : Unknown Data) :
    TaskList Data → List (Call Data) → Option (List Bool × TaskList Data)
  | list, [] => some ([], list)
  | list, call :: calls => do
      let (answer, list) ← step unknown list call
      let (answers, list) ← run unknown list calls
      some (answer :: answers, list)

/-- The loop `while (TaskList_Iterate(list, &next_task))`, at most `count` times round:
the tasks, and whether the loop has ended. -/
def iterateAll (list : TaskList Data) : Nat → Task → Option (List Task × Bool)
  | 0, _ => some ([], false)
  | count + 1, nextTask =>
      (list.iterate nextTask).bind fun
        | (true, task) =>
            (iterateAll list count task).map fun (tasks, ended) => (task :: tasks, ended)
        | (false, _) => some ([], true)

end HeadsetAdk.TaskLists
