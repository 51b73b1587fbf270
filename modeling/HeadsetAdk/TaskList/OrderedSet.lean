import HeadsetAdk.TaskList.TaskList
import Mathlib.Data.List.InsertIdx
import Mathlib.Data.List.Nodup

/-! # The task list as an ordered set -/

namespace HeadsetAdk.TaskLists

open List (length_append length_set nil_append length_map not_mem_nil nodup_nil)
open Option (bind_some bind_eq_bind map_some)
open CellArray
open TaskList (isTaskListWithData iterate iterateIndex resizeTasks setTaskAtIndex)

variable {Data : Type}

inductive Layout (flexible : List Task) : List Task → TaskUnion → Prop
  | within {tasks unused : List Task} (split : flexible = tasks ++ unused) :
      Layout flexible tasks (.task 0)
  | single {task : Task} : Layout flexible (flexible ++ [task]) (.task task)
  | heap {cells : List Task} (several : 2 ≤ cells.length) :
      Layout flexible (flexible ++ cells) (.tasks cells)

structure Holds (list : TaskList Data) (tasks : List Task) : Prop where
  flexible : list.flexibleTasks.length = list.sizeFlexibleTasks
  layout : Layout list.flexibleTasks tasks list.u
  size : list.sizeList = tasks.length

structure SameButTasks (list list' : TaskList Data) : Prop where
  sizeList : list'.sizeList = list.sizeList
  listType : list'.listType = list.listType
  data : list'.data = list.data

section Tasks

variable {list list' : TaskList Data} {tasks : List Task} {index : Nat}

theorem Holds.fields (holds : Holds list tasks) : ∃ listType u flexibleTasks data,
    list = ⟨tasks.length, flexibleTasks.length, listType, u, flexibleTasks, data⟩ ∧
      Layout flexibleTasks tasks u := by
  obtain ⟨flexible, layout, size⟩ := holds
  obtain ⟨sizeList, sizeFlexibleTasks, listType, u, flexibleTasks, data⟩ := list
  dsimp only at flexible layout size
  subst flexible size
  exact ⟨listType, u, flexibleTasks, data, rfl, layout⟩

theorem Holds.getTaskAtIndex (holds : Holds list tasks)
    (inside : index < tasks.length) : list.getTaskAtIndex index = tasks[index]? := by
  obtain ⟨flexible, layout, size⟩ := holds
  rw [TaskList.getTaskAtIndex, ← flexible, size]
  obtain ⟨sizeList, sizeFlexibleTasks, listType, u, flexibleTasks, data⟩ := list
  dsimp only at layout ⊢
  cases layout with
  | within split =>
    subst split
    rw [if_pos (by rw [length_append]; omega), List.getElem?_append_left inside]
  | single =>
    rw [length_append, List.length_singleton] at inside ⊢
    by_cases low : index < flexibleTasks.length
    · rw [if_pos low, List.getElem?_append_left low]
    · obtain rfl : index = flexibleTasks.length := by omega
      rw [if_neg low, if_pos ⟨rfl, rfl⟩, List.getElem?_concat_length]
      rfl
  | heap several =>
    rw [length_append] at inside ⊢
    by_cases low : index < flexibleTasks.length
    · rw [if_pos low, List.getElem?_append_left low]
    · rw [if_neg low, if_neg (by omega), List.getElem?_append_right (by omega)]
      rfl

theorem Holds.setTaskAtIndex (holds : Holds list tasks)
    (inside : index < tasks.length) (task : Task) :
    ∃ list', list.setTaskAtIndex task index = some list' ∧
      Holds list' (tasks.set index task) ∧ SameButTasks list list' := by
  obtain ⟨listType, u, flexibleTasks, data, rfl, layout⟩ := holds.fields
  unfold setTaskAtIndex
  dsimp only
  cases layout with
  | @within _ unused split =>
    have low : index < flexibleTasks.length := by
      rw [split, length_append]
      omega
    rw [if_pos low, if_pos low]
    have split' : flexibleTasks.set index task = tasks.set index task ++ unused := by
      rw [split, List.set_append_left _ _ inside]
    exact ⟨_, rfl, ⟨length_set, .within split', List.length_set.symm⟩, rfl, rfl, rfl⟩
  | single =>
    rw [length_append, List.length_singleton] at inside ⊢
    by_cases low : index < flexibleTasks.length
    · rw [if_pos low, if_pos low, List.set_append_left _ _ low]
      refine ⟨_, rfl, ⟨length_set, .single, ?_⟩, rfl, rfl, rfl⟩
      rw [length_append, length_set]
      rfl
    · obtain rfl : index = flexibleTasks.length := by omega
      rw [if_neg low, if_pos ⟨rfl, rfl⟩, List.set_append_right _ _ (Nat.le_refl _), Nat.sub_self]
      refine ⟨_, rfl, ⟨rfl, .single, ?_⟩, rfl, rfl, rfl⟩
      rw [length_append]
      rfl
  | @heap cells several =>
    rw [length_append] at inside ⊢
    by_cases low : index < flexibleTasks.length
    · rw [if_pos low, if_pos low, List.set_append_left _ _ low]
      refine ⟨_, rfl, ⟨length_set, .heap several, ?_⟩, rfl, rfl, rfl⟩
      rw [length_append, length_set]
    · rw [if_neg low, if_neg (by omega), TaskUnion.readTasks, bind_some,
        if_pos (by omega), List.set_append_right _ _ (by omega)]
      refine ⟨_, rfl, ⟨rfl, .heap (by rwa [length_set]), ?_⟩, rfl, rfl, rfl⟩
      rw [length_append, length_set]

theorem Holds.findTaskIndex (holds : Holds list tasks) (nodup : tasks.Nodup) (task : Task) :
    list.findTaskIndex task = some (if task ∈ tasks then some (tasks.idxOf task) else none) := by
  have upTo (count : Nat) (bound : count ≤ tasks.length) :
      (List.range count).foldlM
        (fun found iter => (list.getTaskAtIndex iter).map fun other =>
          if other = task then some iter else found) none =
        some (if tasks.idxOf task < count then some (tasks.idxOf task) else none) := by
    induction count with
    | zero => rfl
    | succ count ih =>
      have inside : count < tasks.length := bound
      rw [List.range_succ, List.foldlM_append, ih (Nat.le_of_lt inside), bind_eq_bind,
        bind_some, List.foldlM_cons, holds.getTaskAtIndex inside,
        List.getElem?_eq_getElem inside, map_some, bind_eq_bind, bind_some,
        List.foldlM_nil, Option.pure_def]
      by_cases here : tasks[count] = task
      · have place : tasks.idxOf task = count := by
          rw [← here, nodup.idxOf_getElem]
        rw [if_pos here, place, if_pos (Nat.lt_succ_self count)]
      · have different : tasks.idxOf task ≠ count := by
          rintro place
          have member : tasks.idxOf task < tasks.length := by omega
          refine here ?_
          have found := List.getElem_idxOf member
          simpa only [place] using found
        rw [if_neg here]
        congr 1
        by_cases before : tasks.idxOf task < count
        · rw [if_pos before, if_pos (by omega)]
        · rw [if_neg before, if_neg (by omega)]
  rw [TaskList.findTaskIndex, holds.size, upTo _ (Nat.le_refl _)]
  by_cases member : task ∈ tasks
  · rw [if_pos (List.idxOf_lt_length_iff.mpr member), if_pos member]
  · rw [if_neg (fun found => member (List.idxOf_lt_length_iff.mp found)), if_neg member]

def resizedData (unknown : Unknown Data) (list : TaskList Data) (newSize : Nat) : List Data :=
  if list.listType = .withData then
    if newSize ≠ 0 then realloc unknown.data list.data newSize else []
  else list.data

theorem resize_eq {unknown : Unknown Data} {newSize : Nat} {u : TaskUnion}
    (resized : list.resizeTasks unknown newSize = some u) (small : newSize < 16) :
    list.resize unknown newSize = some { list with
        u := u
        data := resizedData unknown list newSize
        sizeList := newSize } := by
  rw [TaskList.resize, resized, map_some, Nat.mod_eq_of_lt small]
  rfl

theorem sizeList_of_resize {unknown : Unknown Data} {newSize : Nat}
    (resized : list.resize unknown newSize = some list') : list'.sizeList = newSize % 16 := by
  obtain ⟨u, _, rfl⟩ := Option.map_eq_some_iff.mp resized
  rfl

theorem setTaskAtIndex_single {task : Task} (last : list.sizeList = list.sizeFlexibleTasks + 1) :
    list.setTaskAtIndex task (list.sizeList - 1) = some { list with u := .task task } := by
  rw [setTaskAtIndex, if_neg (by omega), if_pos ⟨by omega, by omega⟩]

theorem setTaskAtIndex_heap {task : Task} {cells : List Task} (array : list.u = .tasks cells)
    (last : list.sizeList = list.sizeFlexibleTasks + cells.length) (several : 2 ≤ cells.length) :
    list.setTaskAtIndex task (list.sizeList - 1) =
      some { list with u := .tasks (cells.set (cells.length - 1) task) } := by
  have place : list.sizeList - 1 - list.sizeFlexibleTasks = cells.length - 1 := by omega
  rw [setTaskAtIndex, if_neg (by omega), if_neg (by omega), array, TaskUnion.readTasks,
    bind_some, place, if_pos (by omega)]

section

variable (holds : Holds list tasks) (unknown : Unknown Data)

include holds unknown

/-- A list made one larger, with a task put in the last place. -/
theorem Holds.grow (task : Task) (room : tasks.length < 15) :
    ∃ larger list', list.resize unknown (list.sizeList + 1) = some larger ∧
      larger.setTaskAtIndex task (larger.sizeList - 1) = some list' ∧
      Holds list' (tasks ++ [task]) ∧ list'.listType = list.listType ∧
      list'.data = resizedData unknown list (list.sizeList + 1) := by
  obtain ⟨listType, u, flexibleTasks, data, rfl, layout⟩ := holds.fields
  have small : tasks.length + 1 < 16 := by omega
  have counted : (tasks ++ [task]).length = tasks.length + 1 := length_append
  cases layout with
  | @within _ unused split =>
    cases unused with
    | nil =>
      rw [List.append_nil] at split
      subst split
      refine ⟨_, _, resize_eq (u := .task 0) ?_ small, setTaskAtIndex_single rfl,
        ⟨rfl, .single, counted.symm⟩, rfl, rfl⟩
      rw [resizeTasks]
      dsimp only
      rw [if_pos rfl, if_neg (by omega), if_pos (by omega)]
    | cons next unused =>
      have low : tasks.length < flexibleTasks.length := by
        rw [split, length_append, List.length_cons]
        omega
      have split' : flexibleTasks.set tasks.length task = tasks ++ [task] ++ unused := by
        rw [split, List.set_append_right _ _ (Nat.le_refl _), Nat.sub_self, List.append_assoc]
        rfl
      refine ⟨_, _, resize_eq (u := .task 0) ?_ small,
        (if_pos low).trans (if_pos low), ⟨length_set, .within split', counted.symm⟩, rfl, rfl⟩
      rw [resizeTasks]
      dsimp only
      rw [if_neg (by omega), if_neg (by omega), if_neg (by omega), if_neg (by omega)]
  | @single held =>
    have array : (realloc unknown.task [] 2).set 0 held = [held, unknown.task] := rfl
    have length : (flexibleTasks ++ [held]).length = flexibleTasks.length + 1 := length_append
    rw [length] at small counted ⊢
    refine ⟨_, _, resize_eq (u := .tasks [held, unknown.task]) ?_ small,
      setTaskAtIndex_heap rfl rfl (Nat.le_refl 2), ⟨rfl, ?_, counted.symm⟩, rfl, rfl⟩
    · rw [resizeTasks]
      dsimp only
      rw [if_neg (by omega), if_pos (by omega), if_pos rfl, TaskUnion.readTask, map_some]
      rw [show flexibleTasks.length + 1 + 1 - flexibleTasks.length = 2 by omega, array]
    · rw [List.append_assoc]
      exact .heap (Nat.le_refl 2)
  | @heap cells several =>
    have length : (flexibleTasks ++ cells).length = flexibleTasks.length + cells.length :=
      length_append
    rw [length] at small counted ⊢
    refine ⟨_, _, resize_eq (u := .tasks (realloc unknown.task cells (cells.length + 1))) ?_
      small, setTaskAtIndex_heap rfl ?_ ?_, ⟨rfl, ?_, counted.symm⟩, rfl, rfl⟩
    · rw [resizeTasks]
      dsimp only
      rw [if_neg (by omega), if_pos (by omega), if_neg (by omega), TaskUnion.readTasks, map_some]
      rw [show flexibleTasks.length + cells.length + 1 - flexibleTasks.length =
        cells.length + 1 by omega]
    · rw [length_realloc]
      rfl
    · rw [length_realloc]
      omega
    · dsimp only
      rw [length_realloc, Nat.add_sub_cancel, set_realloc, List.append_assoc]
      refine .heap ?_
      rw [length_append]
      omega

theorem Holds.shrink (some : tasks ≠ []) (few : tasks.length ≤ 15) :
    ∃ list', list.resize unknown (list.sizeList - 1) = Option.some list' ∧
      Holds list' tasks.dropLast ∧ list'.listType = list.listType ∧
      list'.data = resizedData unknown list (list.sizeList - 1) := by
  have positive : 0 < tasks.length := List.length_pos_iff.mpr some
  obtain ⟨listType, u, flexibleTasks, data, rfl, layout⟩ := holds.fields
  have small : tasks.length - 1 < 16 := by omega
  have counted : tasks.dropLast.length = tasks.length - 1 := List.length_dropLast
  cases layout with
  | @within _ unused split =>
    have bound : tasks.length ≤ flexibleTasks.length := by
      rw [split, length_append]
      exact Nat.le_add_right _ _
    have split' : flexibleTasks = tasks.dropLast ++ (tasks.getLast some :: unused) := by
      rw [split, List.append_cons, List.dropLast_append_getLast]
    refine ⟨_, resize_eq (u := .task 0) ?_ small, ⟨rfl, .within split', counted.symm⟩, rfl, rfl⟩
    rw [resizeTasks]
    dsimp only
    rw [if_neg (by omega), if_neg (by omega), if_neg (by omega), if_neg (by omega)]
  | @single held =>
    have length : (flexibleTasks ++ [held]).length = flexibleTasks.length + 1 := length_append
    rw [length] at small counted ⊢
    rw [List.dropLast_concat] at counted ⊢
    refine ⟨_, resize_eq (u := .task 0) ?_ small,
      ⟨rfl, .within (List.append_nil _).symm, counted.symm⟩, rfl, rfl⟩
    rw [resizeTasks]
    dsimp only
    rw [if_neg (by omega), if_neg (by omega), if_neg (by omega), if_pos rfl]
  | @heap cells several =>
    have length : (flexibleTasks ++ cells).length = flexibleTasks.length + cells.length :=
      length_append
    have nonempty : cells ≠ [] := List.length_pos_iff.mp (by omega)
    rw [length] at small counted ⊢
    rw [List.dropLast_append_of_ne_nil nonempty] at counted ⊢
    by_cases two : cells.length = 2
    · obtain ⟨first, second, rfl⟩ := List.length_eq_two.mp two
      refine ⟨_, resize_eq (u := .task first) ?_ small, ⟨rfl, .single, counted.symm⟩, rfl, rfl⟩
      rw [resizeTasks]
      dsimp only
      rw [List.length_cons, List.length_singleton, if_pos (by omega), if_pos (by omega)]
      rfl
    · have cut : realloc unknown.task cells (cells.length - 1) = cells.dropLast := by
        rw [realloc_shrunk (Nat.sub_le _ _), List.dropLast_eq_take]
      refine ⟨_, resize_eq (u := .tasks cells.dropLast) ?_ small,
        ⟨rfl, .heap ?_, counted.symm⟩, rfl, rfl⟩
      · rw [resizeTasks]
        dsimp only
        rw [if_neg (by omega), if_pos (by omega), if_neg (by omega), TaskUnion.readTasks,
          map_some, ← cut]
        rw [show flexibleTasks.length + cells.length - 1 - flexibleTasks.length =
          cells.length - 1 by omega]
      · rw [List.length_dropLast]
        omega

theorem Holds.clear :
    ∃ list', list.resize unknown 0 = some list' ∧ Holds list' [] ∧
      list'.listType = list.listType ∧ list'.data = resizedData unknown list 0 := by
  obtain ⟨listType, u, flexibleTasks, data, rfl, layout⟩ := holds.fields
  refine ⟨_, resize_eq (u := .task 0) ?_ (by decide),
    ⟨rfl, .within (nil_append _).symm, rfl⟩, rfl, rfl⟩
  rw [resizeTasks]
  dsimp only
  rw [if_neg (by omega), if_neg (by omega)]
  cases layout with
  | @within _ unused split =>
    have bound : tasks.length ≤ flexibleTasks.length := by
      rw [split, length_append]
      exact Nat.le_add_right _ _
    rw [if_neg (by omega), if_neg (by omega)]
  | single =>
    rw [length_append, List.length_singleton, if_neg (Nat.lt_irrefl _), if_pos rfl]
  | heap several =>
    rw [length_append, if_pos (by omega)]
    rfl

end

theorem dropLast_moveDown {count : Nat} (last : index + count + 1 = tasks.length) :
    ((List.range' index count).foldl
      (fun tasks iter => tasks.set iter (tasks.getD (iter + 1) 0)) tasks).dropLast =
        tasks.eraseIdx index := by
  induction count generalizing index tasks with
  | zero => exact (List.eraseIdx_eq_dropLast last).symm
  | succ count ih =>
    have inside : index + 1 < tasks.length := by omega
    rw [List.range'_succ, List.foldl_cons, ih (by rw [length_set]; omega),
      CellArray.getD_of_lt inside, List.eraseIdx_set_gt (Nat.lt_succ_self index)]
    exact List.set_getElem_succ_eraseIdx_succ inside

theorem Holds.moveTasks (holds : Holds list tasks) (inside : index < tasks.length) :
    ∃ list', list.moveTasks index = some list' ∧ SameButTasks list list' ∧
      ∃ moved, Holds list' moved ∧ moved.length = tasks.length ∧
        moved.dropLast = tasks.eraseIdx index := by
  rw [TaskList.moveTasks, holds.size]
  have loop (count start : Nat) (tasks : List Task) (list : TaskList Data)
      (holds : Holds list tasks) (bound : start + count + 1 ≤ tasks.length) :
      ∃ list', (List.range' start count).foldlM
          (fun list iter => (list.getTaskAtIndex (iter + 1)).bind fun next =>
            list.setTaskAtIndex next iter) list = some list' ∧ SameButTasks list list' ∧
        Holds list' ((List.range' start count).foldl
          (fun tasks iter => tasks.set iter (tasks.getD (iter + 1) 0)) tasks) := by
    induction count generalizing start tasks list with
    | zero => exact ⟨list, rfl, ⟨rfl, rfl, rfl⟩, holds⟩
    | succ count ih =>
      have next : start + 1 < tasks.length := by omega
      obtain ⟨list', set, holds', same⟩ :=
        holds.setTaskAtIndex (by omega : start < tasks.length) tasks[start + 1]
      obtain ⟨final, ran, same', holds''⟩ := ih (start + 1) _ list' holds'
        (by rw [length_set]; omega)
      refine ⟨final, ?_, ⟨same'.sizeList.trans same.sizeList,
        same'.listType.trans same.listType, same'.data.trans same.data⟩, ?_⟩
      · rw [List.range'_succ, List.foldlM_cons, holds.getTaskAtIndex next,
          List.getElem?_eq_getElem next, bind_some, set]
        exact ran
      · rw [List.range'_succ, List.foldl_cons, CellArray.getD_of_lt next]
        exact holds''
  obtain ⟨list', ran, same, holds'⟩ :=
    loop (tasks.length - 1 - index) index tasks list holds (by omega)
  refine ⟨list', ran, same, _, holds', ?_, dropLast_moveDown (by omega)⟩
  rw [← holds'.size, same.sizeList, holds.size]

end Tasks

abbrev Entries (Data : Type) := List (Task × Option Data)

def Entries.tasks (entries : Entries Data) : List Task := entries.map Prod.fst

/-- The cells hold the data stored for the tasks; a task added without data owns a cell too. -/
structure DataOf (entries : Entries Data) (cells : List Data) : Prop where
  length : cells.length = entries.length
  stored : ∀ (index : Nat) task data,
    entries[index]? = some (task, some data) → cells[index]? = some data

structure Denotes (list : TaskList Data) (withData : Bool) (entries : Entries Data) : Prop where
  holds : Holds list entries.tasks
  kind : list.isTaskListWithData = withData
  nodup : entries.tasks.Nodup
  nonNull : ∀ task ∈ entries.tasks, task ≠ 0
  data : withData = true → DataOf entries list.data

def specStep (withData : Bool) (entries : Entries Data) : Call Data → Option (Bool × Entries Data)
  | .addTask task =>
      if task = 0 then none
      else if task ∈ entries.tasks then some (false, entries)
      else some (true, entries ++ [(task, none)])
  | .addTaskWithData task data =>
      if withData = true then
        if task = 0 then none
        else if task ∈ entries.tasks then some (false, entries)
        else some (true, entries ++ [(task, some data)])
      else some (false, entries)
  | .removeTask task =>
      if task = 0 then none
      else some (decide (task ∈ entries.tasks), entries.filter fun entry => entry.1 ≠ task)
  | .removeAllTasks => if withData = true then none else some (true, [])
  | .setDataForTask task data =>
      if withData = true then
        some (decide (task ∈ entries.tasks),
          entries.map fun entry => if entry.1 = task then (task, some data) else entry)
      else some (false, entries)

def specRun (withData : Bool) :
    Entries Data → List (Call Data) → Option (List Bool × Entries Data)
  | entries, [] => some ([], entries)
  | entries, call :: calls => do
      let (answer, entries) ← specStep withData entries call
      let (answers, entries) ← specRun withData entries calls
      some (answer :: answers, entries)

section Entries

variable {list list' : TaskList Data} {withData : Bool} {entries : Entries Data} {cells : List Data}
  {index : Nat} {task : Task}

theorem DataOf.nil : DataOf ([] : Entries Data) [] :=
  ⟨rfl, fun _ _ _ nothing => absurd nothing (by simp only [List.getElem?_nil, reduceCtorEq,
    not_false_eq_true])⟩

theorem DataOf.append (dataOf : DataOf entries cells) (task : Task)
    {stored : Option Data} {cell : Data} (same : ∀ data, stored = some data → cell = data) :
    DataOf (entries ++ [(task, stored)]) (cells ++ [cell]) := by
  refine ⟨by rw [length_append, length_append, dataOf.length]; rfl, ?_⟩
  intro index other data holds
  rcases Nat.lt_trichotomy index entries.length with before | rfl | behind
  · rw [List.getElem?_append_left before] at holds
    rw [List.getElem?_append_left (by rwa [dataOf.length])]
    exact dataOf.stored index other data holds
  · rw [List.getElem?_concat_length, Option.some.injEq, Prod.mk.injEq] at holds
    rw [← dataOf.length, List.getElem?_concat_length, same data holds.2]
  · rw [List.getElem?_eq_none (by rw [length_append]; exact behind)] at holds
    contradiction

theorem DataOf.eraseIdx (dataOf : DataOf entries cells)
    (inside : index < entries.length) : DataOf (entries.eraseIdx index) (cells.eraseIdx index) := by
  refine ⟨?_, ?_⟩
  · rw [List.length_eraseIdx_of_lt inside, List.length_eraseIdx_of_lt (by rwa [dataOf.length]),
      dataOf.length]
  · intro position task data holds
    rw [List.getElem?_eraseIdx] at holds ⊢
    by_cases before : position < index
    · rw [if_pos before] at holds ⊢
      exact dataOf.stored _ _ _ holds
    · rw [if_neg before] at holds ⊢
      exact dataOf.stored _ _ _ holds

theorem DataOf.set (dataOf : DataOf entries cells)
    (nodup : entries.tasks.Nodup) (member : task ∈ entries.tasks) (data : Data) :
    DataOf (entries.map fun entry => if entry.1 = task then (task, some data) else entry)
      (cells.set (entries.tasks.idxOf task) data) := by
  refine ⟨by rw [length_set, length_map, dataOf.length], ?_⟩
  intro index other stored holds
  rw [List.getElem?_map, Option.map_eq_some_iff] at holds
  obtain ⟨entry, held, changed⟩ := holds
  obtain ⟨inside, rfl⟩ := List.getElem?_eq_some_iff.mp held
  have inTasks : index < entries.tasks.length := by rwa [Entries.tasks, length_map]
  have named : entries.tasks[index] = entries[index].1 := List.getElem_map _
  by_cases here : entries[index].1 = task
  · have place : entries.tasks.idxOf task = index := by
      rw [← here, ← named, nodup.idxOf_getElem]
    rw [if_pos here, Prod.mk.injEq] at changed
    rw [place, List.getElem?_set_self (by rwa [dataOf.length]), changed.2]
  · have different : entries.tasks.idxOf task ≠ index := by
      rintro rfl
      have bound := List.idxOf_lt_length_iff.mpr member
      exact here (named.symm.trans (List.getElem_idxOf bound))
    rw [if_neg here] at changed
    rw [List.getElem?_set_ne different]
    exact dataOf.stored index other stored (by rw [held, changed])

theorem filter_eq_eraseIdx (nodup : entries.tasks.Nodup) (member : task ∈ entries.tasks) :
    entries.filter (fun entry => entry.1 ≠ task) = entries.eraseIdx (entries.tasks.idxOf task) := by
  induction entries with
  | nil => exact absurd member not_mem_nil
  | cons entry entries ih =>
    rw [Entries.tasks, List.map_cons] at nodup member ⊢
    obtain ⟨absent, nodup'⟩ := List.nodup_cons.mp nodup
    by_cases here : entry.1 = task
    · subst here
      rw [List.filter_cons_of_neg (by rw [decide_eq_true_iff]; exact fun differ => differ rfl),
        List.idxOf_cons_self, List.eraseIdx_cons_zero, List.filter_eq_self]
      rintro other inRest
      rw [decide_eq_true_iff]
      rintro same
      exact absent (List.mem_map.mpr ⟨other, inRest, same⟩)
    · have behind : task ∈ Entries.tasks entries :=
        (List.mem_cons.mp member).resolve_left fun same => here same.symm
      rw [List.filter_cons_of_pos (by rwa [decide_eq_true_iff]), ih nodup' behind,
        List.idxOf_cons_ne _ here, List.eraseIdx_cons_succ]
      rfl

theorem filter_eq_self (absent : task ∉ entries.tasks) :
    entries.filter (fun entry => entry.1 ≠ task) = entries := by
  rw [List.filter_eq_self]
  intro entry member
  rw [decide_eq_true_iff]
  rintro rfl
  exact absent (List.mem_map.mpr ⟨entry, member, rfl⟩)

theorem tasks_append (task : Task) (data : Option Data) :
    Entries.tasks (entries ++ [(task, data)]) = entries.tasks ++ [task] :=
  List.map_append

theorem tasks_set (task : Task) (data : Data) :
    Entries.tasks (entries.map fun entry => if entry.1 = task then (task, some data) else entry) =
      entries.tasks := by
  rw [Entries.tasks, List.map_map]
  refine List.map_congr_left fun entry _ => ?_
  rw [Function.comp_apply]
  by_cases here : entry.1 = task
  · rw [if_pos here, here]
  · rw [if_neg here]

section

variable (denotes : Denotes list withData entries)

include denotes

theorem Denotes.findTaskIndex (task : Task) :
    list.findTaskIndex task =
      some (if task ∈ entries.tasks then some (entries.tasks.idxOf task) else none) :=
  denotes.holds.findTaskIndex denotes.nodup task

theorem Denotes.isTaskOnList (task : Task) :
    list.isTaskOnList task = some (decide (task ∈ entries.tasks)) := by
  rw [TaskList.isTaskOnList, denotes.findTaskIndex, map_some]
  by_cases member : task ∈ entries.tasks
  · rw [if_pos member, decide_eq_true member]
    rfl
  · rw [if_neg member, decide_eq_false member]
    rfl

theorem Denotes.size : list.size = entries.length := by
  rw [TaskList.size, denotes.holds.size, Entries.tasks, length_map]

theorem Denotes.listType : list.listType = .withData ↔ withData = true := by
  rw [← denotes.kind, isTaskListWithData, beq_iff_eq]

end

theorem isTaskListWithData_congr (same : list'.listType = list.listType) :
    list'.isTaskListWithData = list.isTaskListWithData := by
  rw [isTaskListWithData, isTaskListWithData, same]

theorem Denotes.append (denotes : Denotes list withData entries) (unknown : Unknown Data)
    (nonNull : task ≠ 0) (absent : task ∉ entries.tasks)
    (room : entries.length < 15) : ∃ list', list.addTask unknown task = some (true, list') ∧
      Denotes list' withData (entries ++ [(task, none)]) ∧
      (withData = true → list'.data = list.data ++ [unknown.data]) := by
  have few : entries.tasks.length < 15 := by rwa [Entries.tasks, length_map]
  obtain ⟨larger, list', resized, set, holds', sameType, data'⟩ :=
    denotes.holds.grow unknown task few
  have added : list.addTask unknown task = some (true, list') := by
    rw [TaskList.addTask, if_neg nonNull, denotes.isTaskOnList, decide_eq_false absent, bind_some]
    have size : larger.sizeList = (list.sizeList + 1) % 16 := sizeList_of_resize resized
    have last : larger.lastIndex = larger.sizeList - 1 := by
      rw [TaskList.lastIndex, size, denotes.holds.size]
      omega
    dsimp only
    rw [resized, bind_eq_bind, bind_some, last, set]
    rfl
  have cells : withData = true → list'.data = list.data ++ [unknown.data] := by
    intro kind
    have sized : list.sizeList = list.data.length := by
      rw [(denotes.data kind).length, ← denotes.size, TaskList.size]
    rw [data', resizedData, if_pos (denotes.listType.mpr kind), if_pos (Nat.succ_ne_zero _), sized,
      realloc_grown]
  refine ⟨list', added, ⟨?_, ?_, ?_, ?_, ?_⟩, cells⟩
  · rwa [tasks_append]
  · rw [isTaskListWithData_congr sameType, denotes.kind]
  · rw [tasks_append]
    exact List.nodup_append.mpr ⟨denotes.nodup, List.nodup_singleton task,
      fun other member other' member' same =>
        absent (by rwa [← List.mem_singleton.mp member', ← same])⟩
  · rw [tasks_append]
    intro other member
    rcases List.mem_append.mp member with before | here
    · exact denotes.nonNull other before
    · rwa [List.mem_singleton.mp here]
  · intro kind
    rw [cells kind]
    exact (denotes.data kind).append task (by intro _ nothing; contradiction)

theorem Denotes.setLast (denotes : Denotes list withData (entries ++ [(task, none)])) {cell : Data}
    (grown : list.data = cells ++ [cell]) (dataOf : DataOf entries cells) (data : Data) :
    Denotes { list with data := list.data.set (list.sizeList - 1) data } withData
      (entries ++ [(task, some data)]) := by
  have tasks : Entries.tasks (entries ++ [(task, some data)]) =
      Entries.tasks (entries ++ [(task, none)]) := by
    rw [tasks_append, tasks_append]
  have last : list.sizeList - 1 = cells.length := by
    have size := denotes.size
    rw [TaskList.size, length_append] at size
    rw [size, dataOf.length]
    rfl
  refine ⟨?_, denotes.kind, ?_, ?_, ?_⟩
  · rw [tasks]
    exact { denotes.holds with }
  · rw [tasks]
    exact denotes.nodup
  · rw [tasks]
    exact denotes.nonNull
  · intro _
    dsimp only
    rw [last, grown, List.set_append_right _ _ (Nat.le_refl _), Nat.sub_self]
    exact dataOf.append task fun _ same => Option.some.inj same

theorem Denotes.remove (denotes : Denotes list withData entries) (unknown : Unknown Data)
    (nonNull : task ≠ 0) (member : task ∈ entries.tasks)
    (few : entries.length ≤ 15) : ∃ list', list.removeTask unknown task = some (true, list') ∧
      Denotes list' withData (entries.eraseIdx (entries.tasks.idxOf task)) := by
  have inside : entries.tasks.idxOf task < entries.tasks.length :=
    List.idxOf_lt_length_iff.mpr member
  have same : entries.tasks.length = entries.length := by rw [Entries.tasks, length_map]
  obtain ⟨index, place⟩ : ∃ index, entries.tasks.idxOf task = index := ⟨_, rfl⟩
  rw [place] at inside ⊢
  obtain ⟨moved, ran, sameButTasks, others, holds, length, dropped⟩ :=
    denotes.holds.moveTasks inside
  obtain ⟨data', given⟩ : ∃ data' : List Data, data' = if moved.listType = .withData then
        memmove unknown.data moved.data index (index + 1) (moved.sizeList - index - 1)
      else moved.data := ⟨_, rfl⟩
  have holds' : Holds { moved with data := data' } others :=
    { holds with }
  obtain ⟨list', resized, holds'', sameType, cells⟩ :=
    holds'.shrink unknown (List.length_pos_iff.mp (by omega)) (by omega)
  have sameType' : list'.listType = list.listType := sameType.trans sameButTasks.listType
  have tasks : Entries.tasks (entries.eraseIdx index) = entries.tasks.eraseIdx index := by
    rw [Entries.tasks, Entries.tasks, List.eraseIdx_map]
  refine ⟨list', ?_, ⟨?_, ?_, ?_, ?_, ?_⟩⟩
  · rw [TaskList.removeTask, if_neg nonNull, denotes.findTaskIndex, if_pos member, place, bind_some]
    dsimp only
    rw [ran, bind_eq_bind, bind_some, ← given, resized]
    rfl
  · rwa [tasks, ← dropped]
  · rw [isTaskListWithData_congr sameType', denotes.kind]
  · rw [tasks]
    exact denotes.nodup.sublist (List.eraseIdx_sublist _ _)
  · rw [tasks]
    exact fun other inRest => denotes.nonNull other (List.mem_of_mem_eraseIdx inRest)
  · intro kind
    have dataOf := denotes.data kind
    have ofData : list.listType = .withData := denotes.listType.mpr kind
    have bound : index < entries.length := by omega
    have sized : moved.sizeList = list.data.length := by
      rw [holds.size, length, same, dataOf.length]
    have removed : list'.data = list.data.eraseIdx index := by
      rw [sameButTasks.listType, if_pos ofData, sameButTasks.data, sized] at given
      rw [cells, resizedData]
      dsimp only
      rw [sameButTasks.listType, if_pos ofData, sized, given]
      by_cases several : list.data.length - 1 ≠ 0
      · rw [if_pos several, realloc_memmove (by rwa [dataOf.length]) (by omega)]
      · rw [if_neg several]
        refine (List.length_eq_zero_iff.mp ?_).symm
        rw [List.length_eraseIdx_of_lt (by rwa [dataOf.length])]
        omega
    rw [removed]
    exact dataOf.eraseIdx bound

theorem Denotes.step (denotes : Denotes list withData entries) (unknown : Unknown Data)
    (few : entries.length ≤ 15) {call : Call Data}
    (fewThen : ∀ answer entries', specStep withData entries call = some (answer, entries') →
      entries'.length ≤ 15) :
    match specStep withData entries call with
    | none => TaskLists.step unknown list call = none
    | some (answer, entries') =>
      ∃ list', TaskLists.step unknown list call = some (answer, list') ∧
        Denotes list' withData entries' := by
  have room {task : Task} {data : Option Data} (some : (entries ++ [(task, data)]).length ≤ 15) :
      entries.length < 15 := by
    rwa [length_append] at some
  cases call with
  | addTask task =>
    rw [TaskLists.step]
    rw [specStep] at fewThen ⊢
    by_cases null : task = 0
    · rw [if_pos null, TaskList.addTask, if_pos null]
    rw [if_neg null] at fewThen ⊢
    by_cases member : task ∈ entries.tasks
    · rw [if_pos member]
      refine ⟨list, ?_, denotes⟩
      rw [TaskList.addTask, if_neg null, denotes.isTaskOnList, decide_eq_true member]
      rfl
    · rw [if_neg member] at fewThen ⊢
      obtain ⟨list', added, denotes', _⟩ :=
        denotes.append unknown null member (room (fewThen _ _ rfl))
      exact ⟨list', added, denotes'⟩
  | addTaskWithData task data =>
    rw [TaskLists.step, TaskList.addTaskWithData, denotes.kind]
    rw [specStep] at fewThen ⊢
    by_cases kind : withData = true
    · rw [if_pos kind] at fewThen ⊢
      rw [if_pos kind]
      by_cases null : task = 0
      · rw [if_pos null, TaskList.addTask, if_pos null]
        rfl
      rw [if_neg null] at fewThen ⊢
      by_cases member : task ∈ entries.tasks
      · rw [if_pos member]
        refine ⟨list, ?_, denotes⟩
        rw [TaskList.addTask, if_neg null, denotes.isTaskOnList, decide_eq_true member]
        rfl
      · rw [if_neg member] at fewThen ⊢
        obtain ⟨list', added, denotes', grown⟩ :=
          denotes.append unknown null member (room (fewThen _ _ rfl))
        refine ⟨_, ?_, denotes'.setLast (grown kind) (denotes.data kind) data⟩
        rw [added]
        rfl
    · rw [if_neg kind, if_neg kind]
      exact ⟨list, rfl, denotes⟩
  | removeTask task =>
    rw [TaskLists.step, specStep]
    by_cases null : task = 0
    · rw [if_pos null, TaskList.removeTask, if_pos null]
    rw [if_neg null]
    by_cases member : task ∈ entries.tasks
    · rw [decide_eq_true member, filter_eq_eraseIdx denotes.nodup member]
      exact denotes.remove unknown null member few
    · rw [decide_eq_false member, filter_eq_self member]
      refine ⟨list, ?_, denotes⟩
      rw [TaskList.removeTask, if_neg null, denotes.findTaskIndex, if_neg member]
      rfl
  | removeAllTasks =>
    rw [TaskLists.step, specStep, TaskList.removeAllTasks]
    by_cases kind : withData = true
    · rw [if_pos kind, if_pos (denotes.listType.mpr kind)]
      rfl
    · rw [if_neg kind, if_neg (fun ofData => kind (denotes.listType.mp ofData))]
      obtain ⟨list', resized, holds, sameType, _⟩ := denotes.holds.clear unknown
      refine ⟨list', by rw [resized]; rfl, holds, ?_, nodup_nil,
        fun _ nothing => absurd nothing not_mem_nil, fun ofData => absurd ofData kind⟩
      rw [isTaskListWithData_congr sameType, denotes.kind]
  | setDataForTask task data =>
    rw [TaskLists.step, specStep, TaskList.setDataForTask, denotes.kind]
    by_cases kind : withData = true
    · rw [if_pos kind, if_pos kind, denotes.findTaskIndex]
      by_cases member : task ∈ entries.tasks
      · have inside : entries.tasks.idxOf task < list.data.length := by
          rw [(denotes.data kind).length, ← length_map (Prod.fst : Task × Option Data → Task)]
          exact List.idxOf_lt_length_iff.mpr member
        rw [if_pos member, decide_eq_true member]
        refine ⟨{ list with data := list.data.set (entries.tasks.idxOf task) data }, ?_, ?_⟩
        · rw [bind_some]
          exact if_pos inside
        refine ⟨?_, denotes.kind, ?_, ?_,
          fun _ => (denotes.data kind).set denotes.nodup member data⟩
        · rw [tasks_set]
          exact { denotes.holds with }
        · rw [tasks_set]
          exact denotes.nodup
        · rw [tasks_set]
          exact denotes.nonNull
      · have unchanged : (entries.map fun entry =>
            if entry.1 = task then (task, some data) else entry) = entries := by
          refine (List.map_congr_left fun entry held => ?_).trans (List.map_id entries)
          refine if_neg ?_
          rintro rfl
          exact member (List.mem_map.mpr ⟨entry, held, rfl⟩)
        rw [if_neg member, decide_eq_false member, unchanged]
        exact ⟨list, rfl, denotes⟩
    · rw [if_neg kind, if_neg kind]
      exact ⟨list, rfl, denotes⟩

theorem Denotes.getDataForTask (denotes : Denotes list true entries)
    (member : task ∈ entries.tasks) : ∃ held, list.getDataForTask task = some (some held) ∧
      ∀ data, (task, some data) ∈ entries → held = data := by
  have dataOf := denotes.data rfl
  have inside : entries.tasks.idxOf task < list.data.length := by
    rw [dataOf.length, ← length_map (Prod.fst : Task × Option Data → Task)]
    exact List.idxOf_lt_length_iff.mpr member
  refine ⟨list.data[entries.tasks.idxOf task], ?_, fun data stored => ?_⟩
  · rw [TaskList.getDataForTask, if_pos denotes.kind, denotes.findTaskIndex, if_pos member,
      bind_some]
    dsimp only
    rw [List.getElem?_eq_getElem inside]
    rfl
  · obtain ⟨index, bound, here⟩ := List.mem_iff_getElem.mp stored
    have inTasks : index < entries.tasks.length := by rwa [Entries.tasks, length_map]
    have named : entries.tasks[index] = task := by
      rw [show entries.tasks[index] = entries[index].1 from List.getElem_map _, here]
    have place : entries.tasks.idxOf task = index := by
      rw [← named, denotes.nodup.idxOf_getElem]
    have cell := dataOf.stored index task data (by rw [List.getElem?_eq_getElem bound, here])
    rw [← place, List.getElem?_eq_getElem inside, Option.some.injEq] at cell
    exact cell

section

variable (denotes : Denotes list withData entries)

include denotes

theorem Denotes.getDataForTask_none
    (missing : withData = true → task ∉ entries.tasks) : list.getDataForTask task = some none := by
  rw [TaskList.getDataForTask, denotes.kind]
  by_cases kind : withData = true
  · rw [if_pos kind, denotes.findTaskIndex, if_neg (missing kind)]
    rfl
  · rw [if_neg kind]

theorem Denotes.iterate_at (named : entries.tasks[index]? = some task) : list.iterate task =
      if inside : index + 1 < entries.tasks.length then some (true, entries.tasks[index + 1])
      else some (false, task) := by
  obtain ⟨inside, rfl⟩ := List.getElem?_eq_some_iff.mp named
  have found : list.findTaskIndex entries.tasks[index] = some (some index) := by
    rw [denotes.findTaskIndex, if_pos (List.getElem_mem inside), denotes.nodup.idxOf_getElem]
  have nonempty : list.sizeList ≠ 0 := by
    rw [denotes.holds.size]
    omega
  rw [iterate, iterateIndex, if_pos nonempty,
    if_neg (denotes.nonNull _ (List.getElem_mem inside)), found, bind_some]
  dsimp only
  rw [denotes.holds.size]
  by_cases next : index + 1 < entries.tasks.length
  · rw [if_pos next, dif_pos next, denotes.holds.getTaskAtIndex next, List.getElem?_eq_getElem next]
    rfl
  · rw [if_neg next, dif_neg next]
    rfl

theorem Denotes.iterateAll_drop {count : Nat} (named : entries.tasks[index]? = some task)
    (rest : index + 1 + count = entries.tasks.length) :
    iterateAll list (count + 1) task = some (entries.tasks.drop (index + 1), true) := by
  induction count generalizing index task with
  | zero =>
    rw [iterateAll, denotes.iterate_at named, dif_neg (by omega), bind_some,
      List.drop_eq_nil_of_le (by omega)]
  | succ count ih =>
    have next : index + 1 < entries.tasks.length := by omega
    rw [iterateAll, denotes.iterate_at named, dif_pos next, bind_some]
    dsimp only
    rw [ih (List.getElem?_eq_getElem next) (by omega), List.drop_eq_getElem_cons next]
    rfl

theorem Denotes.iterateAll_eq : iterateAll list (list.size + 1) 0 = some (entries.tasks, true) := by
  have size : list.size = entries.tasks.length := denotes.holds.size
  cases empty : entries.tasks with
  | nil =>
    have zero : list.sizeList = 0 := by rw [denotes.holds.size, empty]; rfl
    rw [iterateAll, iterate, iterateIndex, if_neg (fun some => some zero)]
    rfl
  | cons task tasks =>
    have length : entries.tasks.length = tasks.length + 1 := by rw [empty]; rfl
    have inside : 0 < entries.tasks.length := by omega
    have named : entries.tasks[0]? = some task := by rw [empty]; rfl
    have nonempty : list.sizeList ≠ 0 := by rw [denotes.holds.size, length]; omega
    rw [size, length, iterateAll, iterate, iterateIndex, if_pos nonempty,
      if_pos rfl, denotes.holds.getTaskAtIndex inside, named, map_some, map_some,
      bind_some]
    dsimp only
    rw [denotes.iterateAll_drop named (by omega), empty]
    rfl

end

end Entries

section Runs

variable {list : TaskList Data} {withData : Bool} {entries : Entries Data}

inductive Created : TaskList Data → Bool → Prop
  | withCapacity {capacity : Nat} {list : TaskList Data} (positive : 0 < capacity)
      (bound : capacity ≤ 15) (created : TaskList.createWithCapacity capacity = some list) :
      Created list false
  | withData : Created TaskList.withDataCreate true

/-- In every state of a run there are at most 15 tasks. -/
def AtMost15 (withData : Bool) : Entries Data → List (Call Data) → Prop
  | entries, [] => entries.length ≤ 15
  | entries, call :: calls => entries.length ≤ 15 ∧
      ∀ answer entries', specStep withData entries call = some (answer, entries') →
        AtMost15 withData entries' calls

theorem AtMost15.here {calls : List (Call Data)} (few : AtMost15 withData entries calls) :
    entries.length ≤ 15 := by
  cases calls with
  | nil => exact few
  | cons call calls => exact few.1

theorem Created.denotes (created : Created list withData) : Denotes list withData [] := by
  cases created with
  | withCapacity positive bound created =>
    rw [TaskList.createWithCapacity, if_neg (Nat.ne_of_gt positive),
      if_pos (show _ ≤ taskListMaxTasks from bound), Option.some.injEq] at created
    subst created
    exact ⟨⟨List.length_replicate, .within (nil_append _).symm, rfl⟩, rfl, nodup_nil,
      fun _ nothing => absurd nothing not_mem_nil, fun kind => absurd kind (by decide)⟩
  | withData =>
    exact ⟨⟨rfl, .within (nil_append _).symm, rfl⟩, rfl, nodup_nil,
      fun _ nothing => absurd nothing not_mem_nil, fun _ => DataOf.nil⟩

theorem Denotes.run (denotes : Denotes list withData entries) (unknown : Unknown Data)
    {calls : List (Call Data)} (few : AtMost15 withData entries calls) :
    match specRun withData entries calls with
    | none => TaskLists.run unknown list calls = none
    | some (answers, entries') =>
      ∃ list', TaskLists.run unknown list calls = some (answers, list') ∧
        Denotes list' withData entries' := by
  induction calls generalizing list entries with
  | nil => exact ⟨list, rfl, denotes⟩
  | cons call calls ih =>
    have stepped := denotes.step unknown few.1
      fun answer entries' same => (few.2 answer entries' same).here
    simp only [specRun, TaskLists.run]
    cases specified : specStep withData entries call with
    | none =>
      rw [specified] at stepped
      dsimp only at stepped
      rw [stepped]
      rfl
    | some result =>
      obtain ⟨answer, entries'⟩ := result
      rw [specified] at stepped
      obtain ⟨list', stepped, denotes'⟩ := stepped
      have after := ih denotes' (few.2 answer entries' specified)
      simp only [stepped, bind_eq_bind, bind_some]
      cases ran : specRun withData entries' calls with
      | none =>
        rw [ran] at after
        dsimp only at after
        rw [after]
        rfl
      | some result =>
        obtain ⟨answers, final⟩ := result
        rw [ran] at after
        obtain ⟨list'', ran', denotes''⟩ := after
        refine ⟨list'', ?_, denotes''⟩
        rw [ran']
        rfl

/-- While it has at most 15 tasks, a list answers every call as the sequence of its
distinct tasks in the order they were added, and panics on the same calls. -/
theorem run_denotes {unknown : Unknown Data} (created : Created list withData)
    {calls : List (Call Data)} (few : AtMost15 withData [] calls) :
    match specRun withData [] calls with
    | none => run unknown list calls = none
    | some (answers, entries) =>
      ∃ list', run unknown list calls = some (answers, list') ∧
        entries.tasks.Nodup ∧
        list'.size = entries.tasks.length ∧
        iterateAll list' (list'.size + 1) 0 = some (entries.tasks, true) ∧
        (∀ task, list'.isTaskOnList task = some (decide (task ∈ entries.tasks))) ∧
        (∀ task, ¬ (withData = true ∧ task ∈ entries.tasks) →
          list'.getDataForTask task = some none) ∧
        ∀ task, withData = true → task ∈ entries.tasks →
          ∃ held, list'.getDataForTask task = some (some held) ∧
            ∀ data, (task, some data) ∈ entries → held = data := by
  have ran := created.denotes.run unknown few
  cases specified : specRun withData [] calls with
  | none =>
    rw [specified] at ran
    exact ran
  | some result =>
    obtain ⟨answers, entries⟩ := result
    rw [specified] at ran
    obtain ⟨list', ran, denotes⟩ := ran
    refine ⟨list', ran, denotes.nodup, denotes.holds.size, denotes.iterateAll_eq,
      denotes.isTaskOnList, fun task missing => ?_, fun task kind member => ?_⟩
    · exact denotes.getDataForTask_none fun kind member => missing ⟨kind, member⟩
    · subst kind
      exact denotes.getDataForTask member

theorem run_denotes_removal :
    ∃ list', run ⟨0, 0⟩ (TaskList.withDataCreate : TaskList Nat)
        [.addTaskWithData 1 10, .addTaskWithData 2 20, .addTaskWithData 3 30, .removeTask 1,
          .setDataForTask 3 33] = some ([true, true, true, true, true], list') ∧
      iterateAll list' 3 0 = some ([2, 3], true) ∧
      list'.getDataForTask 3 = some (some 33) ∧ list'.isTaskOnList 1 = some false := by
  have few : AtMost15 true ([] : Entries Nat)
      [.addTaskWithData 1 10, .addTaskWithData 2 20, .addTaskWithData 3 30, .removeTask 1,
        .setDataForTask 3 33] := by
    refine ⟨by decide, fun answer entries stepped => ?_⟩
    cases stepped
    refine ⟨by decide, fun answer entries stepped => ?_⟩
    cases stepped
    refine ⟨by decide, fun answer entries stepped => ?_⟩
    cases stepped
    refine ⟨by decide, fun answer entries stepped => ?_⟩
    cases stepped
    refine ⟨by decide, fun answer entries stepped => ?_⟩
    cases stepped
    exact Nat.le_of_ble_eq_true rfl
  obtain ⟨list', ran, _, size, all, onList, _, stored⟩ :=
    @run_denotes Nat _ _ ⟨0, 0⟩ Created.withData _ few
  obtain ⟨held, get, same⟩ := stored 3 rfl (by decide)
  refine ⟨list', ran, ?_, ?_, onList 1⟩
  · rw [size] at all
    exact all
  · rw [get, same 33 (by decide)]

end Runs

end HeadsetAdk.TaskLists
