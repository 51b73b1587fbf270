import HeadsetAdk.TaskList.OrderedSet

/-! # Full lists and duplicates -/

namespace HeadsetAdk.TaskLists

open List (foldlM_cons length_map length_append append_nil)
open Option (bind_some bind_eq_bind some_ne_none)
open CellArray
open Option (bind_eq_some_iff map_eq_some_iff some.inj)

variable {Data : Type}

namespace TaskList

/-- The loop of `TaskList_Duplicate` that copies the tasks. -/
def copyTasks (list newList : TaskList Data) : Option (TaskList Data) :=
  (List.range list.sizeList).foldlM
    (fun newList index => (list.getTaskAtIndex index).bind fun copytask =>
      newList.setTaskAtIndex copytask index) newList

/-- The copy of the data in `TaskList_Duplicate`. -/
def copyData (list newList : TaskList Data) : Option (TaskList Data) :=
  if newList.listType = .withData then
    if list.sizeList ≤ list.data.length ∧ list.sizeList ≤ newList.data.length then
      some
        { newList with
          data := list.data.take list.sizeList ++ newList.data.drop list.sizeList }
    else none
  else some newList

/-- The list that `TaskList_Duplicate` creates. -/
def createDuplicate (list : TaskList Data) : Option (TaskList Data) :=
  if list.listType = .standard then createWithCapacity list.sizeFlexibleTasks
  else some withDataCreate

def duplicate (unknown : Unknown Data) (list : TaskList Data) : Option (TaskList Data) :=
  list.createDuplicate.bind fun newList =>
    ({ newList with
      sizeList := list.sizeList
      sizeFlexibleTasks := list.sizeFlexibleTasks
      listType := list.listType }.resize unknown list.sizeList).bind fun newList =>
      (list.copyTasks newList).bind list.copyData

end TaskList

/-- The task is stored, as the last of a list that is one longer and has lost nothing. -/
def AddsTask (unknown : Unknown Data) (list : TaskList Data) (task : Task) : Prop :=
  ∃ list', list.addTask unknown task = some (true, list') ∧ list'.size = list.size + 1 ∧
    list'.getTaskAtIndex list.size = some task ∧
    ∀ earlier, list.isTaskOnList earlier = some true → list'.isTaskOnList earlier = some true

def Duplicates (unknown : Unknown Data) (list : TaskList Data) : Prop :=
  ∃ copy, list.duplicate unknown = some copy ∧ copy.size = list.size ∧
    copy.listType = list.listType ∧
    (∀ index, index < list.size → copy.getTaskAtIndex index = list.getTaskAtIndex index) ∧
    copy.data = list.data

structure SameKind (list list' : TaskList Data) : Prop where
  sizeFlexibleTasks : list'.sizeFlexibleTasks = list.sizeFlexibleTasks
  flexibleTasks : list'.flexibleTasks.length = list.flexibleTasks.length
  listType : list'.listType = list.listType
  noData : list.listType = .standard → list'.data = list.data

namespace SameKind

variable {list next list' : TaskList Data} {unknown : Unknown Data} {task : Task}
  {index newSize : Nat} {answer : Bool}

theorem refl : SameKind list list := ⟨rfl, rfl, rfl, fun _ => rfl⟩

theorem trans (first : SameKind list next) (second : SameKind next list') : SameKind list list' :=
  ⟨second.sizeFlexibleTasks.trans first.sizeFlexibleTasks,
    second.flexibleTasks.trans first.flexibleTasks, second.listType.trans first.listType,
    fun standard => (second.noData (first.listType.trans standard)).trans (first.noData standard)⟩

theorem resize (resized : list.resize unknown newSize = some list') : SameKind list list' := by
  obtain ⟨u, _, rfl⟩ := map_eq_some_iff.mp resized
  refine ⟨rfl, rfl, rfl, fun standard => ?_⟩
  dsimp only
  rw [standard, if_neg ListType.noConfusion]

theorem setTaskAtIndex (set : list.setTaskAtIndex task index = some list') :
    SameKind list list' := by
  rw [TaskList.setTaskAtIndex] at set
  split at set
  · split at set
    · cases set
      exact ⟨rfl, List.length_set, rfl, fun _ => rfl⟩
    · contradiction
  split at set
  · cases set
    exact ⟨rfl, rfl, rfl, fun _ => rfl⟩
  · obtain ⟨tasks, _, set⟩ := bind_eq_some_iff.mp set
    split at set
    · cases set
      exact ⟨rfl, rfl, rfl, fun _ => rfl⟩
    · contradiction

theorem setLoop {indices : List Nat} (source : TaskList Data → Nat → Option Task)
    (ran : indices.foldlM (fun list index => (source list index).bind fun task =>
      list.setTaskAtIndex task index) list = some list') : SameKind list list' := by
  induction indices generalizing list with
  | nil => exact some.inj ran ▸ refl
  | cons index indices ih =>
    rw [foldlM_cons] at ran
    obtain ⟨next, step, ran⟩ := bind_eq_some_iff.mp ran
    obtain ⟨task, _, set⟩ := bind_eq_some_iff.mp step
    exact (setTaskAtIndex set).trans (ih ran)

theorem addTask (added : list.addTask unknown task = some (answer, list')) :
    SameKind list list' := by
  rw [TaskList.addTask] at added
  split at added
  · contradiction
  · obtain ⟨onList, _, added⟩ := bind_eq_some_iff.mp added
    cases onList with
    | true =>
      cases added
      exact refl
    | false =>
      obtain ⟨larger, resized, added⟩ := bind_eq_some_iff.mp added
      obtain ⟨last, set, added⟩ := bind_eq_some_iff.mp added
      cases added
      exact (resize resized).trans (setTaskAtIndex set)

theorem removeTask (removed : list.removeTask unknown task = some (answer, list')) :
    SameKind list list' := by
  rw [TaskList.removeTask] at removed
  split at removed
  · contradiction
  · obtain ⟨found, _, removed⟩ := bind_eq_some_iff.mp removed
    cases found with
    | none =>
      cases removed
      exact refl
    | some index =>
      obtain ⟨moved, moves, removed⟩ := bind_eq_some_iff.mp removed
      obtain ⟨smaller, resized, removed⟩ := bind_eq_some_iff.mp removed
      cases removed
      rw [TaskList.moveTasks] at moves
      have kept : SameKind list moved :=
        setLoop (fun list index => list.getTaskAtIndex (index + 1)) moves
      have shrunk := resize resized
      refine kept.trans ⟨shrunk.sizeFlexibleTasks, shrunk.flexibleTasks, shrunk.listType,
        fun standard => (shrunk.noData standard).trans ?_⟩
      dsimp only
      rw [standard, if_neg ListType.noConfusion]

theorem not_standard (ofData : list.isTaskListWithData = true) : list.listType ≠ .standard := by
  intro standard
  rw [TaskList.isTaskListWithData, standard] at ofData
  exact absurd ofData (by decide)

theorem step {call : Call Data} (stepped : step unknown list call = some (answer, list')) :
    SameKind list list' := by
  cases call with
  | addTask task => exact addTask stepped
  | addTaskWithData task data =>
    rw [TaskLists.step, TaskList.addTaskWithData] at stepped
    split at stepped
    · rename_i ofData
      obtain ⟨result, added, same⟩ := map_eq_some_iff.mp stepped
      obtain ⟨answer, next⟩ := result
      cases answer with
      | true =>
        obtain rfl := (Prod.mk.inj same).2
        have kept := addTask added
        exact ⟨kept.sizeFlexibleTasks, kept.flexibleTasks, kept.listType,
          fun standard => absurd standard (not_standard ofData)⟩
      | false =>
        obtain rfl := (Prod.mk.inj same).2
        exact addTask added
    · cases stepped
      exact refl
  | removeTask task => exact removeTask stepped
  | removeAllTasks =>
    obtain ⟨next, removed, same⟩ := map_eq_some_iff.mp stepped
    obtain rfl := (Prod.mk.inj same).2
    rw [TaskList.removeAllTasks] at removed
    split at removed
    · contradiction
    · exact resize removed
  | setDataForTask task data =>
    rw [TaskLists.step, TaskList.setDataForTask] at stepped
    split at stepped
    · rename_i ofData
      obtain ⟨found, _, stepped⟩ := bind_eq_some_iff.mp stepped
      cases found with
      | none =>
        cases stepped
        exact refl
      | some index =>
        dsimp only at stepped
        split at stepped
        · cases stepped
          exact ⟨rfl, rfl, rfl, fun standard => absurd standard (not_standard ofData)⟩
        · contradiction
    · cases stepped
      exact refl

end SameKind

section Additions

variable {list list' : TaskList Data} {withData : Bool} {entries : Entries Data}
  {unknown : Unknown Data} {task : Task} {answer : Bool}

theorem resize_sixteen (few : list.sizeFlexibleTasks ≤ 14)
    (resized : list.resize unknown 16 = some list') :
    list'.sizeList = 0 ∧ ∃ cells, list'.u = .tasks cells ∧
      cells.length = 16 - list.sizeFlexibleTasks := by
  obtain ⟨u, tasks, rfl⟩ := map_eq_some_iff.mp resized
  refine ⟨rfl, ?_⟩
  rw [TaskList.resizeTasks, if_neg (by omega), if_pos (by omega)] at tasks
  split at tasks
  · obtain ⟨held, _, rfl⟩ := map_eq_some_iff.mp tasks
    exact ⟨_, rfl, by rw [List.length_set, length_realloc]⟩
  · obtain ⟨held, _, rfl⟩ := map_eq_some_iff.mp tasks
    exact ⟨_, rfl, length_realloc _⟩

theorem Denotes.addTask_full (denotes : Denotes list withData entries)
    (few : list.sizeFlexibleTasks ≤ 14) (full : entries.length = 15) (nonNull : task ≠ 0)
    (absent : task ∉ entries.tasks) : list.addTask unknown task = none := by
  have size : list.sizeList = 15 := by
    rw [denotes.holds.size, Entries.tasks, length_map, full]
  rw [TaskList.addTask, if_neg nonNull, denotes.isTaskOnList, decide_eq_false absent, bind_some]
  dsimp only
  rw [size]
  cases resized : list.resize unknown (15 + 1) with
  | none => rfl
  | some larger =>
    obtain ⟨sizeList, cells, array, length⟩ := resize_sixteen few resized
    have kind := SameKind.resize resized
    have outside : larger.setTaskAtIndex task larger.lastIndex = none := by
      rw [TaskList.setTaskAtIndex, TaskList.lastIndex, sizeList, kind.sizeFlexibleTasks,
        if_neg (by omega), if_neg (by omega), array, TaskUnion.readTasks, bind_some,
        if_neg (by omega)]
    rw [bind_eq_bind, bind_some, outside]
    rfl

theorem Denotes.addsTask (denotes : Denotes list withData entries) (nonNull : task ≠ 0)
    (absent : task ∉ entries.tasks) (room : entries.length < 15) :
    AddsTask unknown list task := by
  obtain ⟨list', added, denotes', _⟩ := denotes.append unknown nonNull absent room
  have size : list.size = entries.tasks.length := denotes.holds.size
  refine ⟨list', added, ?_, ?_, fun earlier onList => ?_⟩
  · rw [show list'.size = _ from denotes'.holds.size, tasks_append, length_append, size]
    rfl
  · rw [denotes'.holds.getTaskAtIndex, tasks_append, size, List.getElem?_concat_length]
    rw [tasks_append, length_append, size]
    exact Nat.lt_succ_self _
  · rw [denotes.isTaskOnList] at onList
    have member := of_decide_eq_true (some.inj onList)
    rw [denotes'.isTaskOnList, tasks_append]
    exact congrArg some (decide_eq_true (List.mem_append_left _ member))

theorem not_addsTask_of_none (none : list.addTask unknown task = .none) :
    ¬ AddsTask unknown list task := by
  rintro ⟨list', added, _⟩
  exact absurd (none.symm.trans added) (some_ne_none _).symm

theorem Denotes.addAll (denotes : Denotes list withData entries)
    (few : list.sizeFlexibleTasks ≤ 14) (bound : entries.length ≤ 15) {tasks : List Task}
    (nodup : (entries.tasks ++ tasks).Nodup) (nonNull : ∀ task ∈ tasks, task ≠ 0)
    {answers : List Bool}
    (ran : TaskLists.run unknown list (tasks.map Call.addTask) = some (answers, list')) :
    ∃ entries', Denotes list' withData entries' ∧ entries'.tasks = entries.tasks ++ tasks ∧
      entries'.length ≤ 15 ∧ list'.sizeFlexibleTasks ≤ 14 := by
  induction tasks generalizing list entries answers with
  | nil =>
    cases ran
    exact ⟨entries, denotes, (append_nil _).symm, bound, few⟩
  | cons task tasks ih =>
    obtain ⟨result, stepped, ran⟩ := bind_eq_some_iff.mp ran
    obtain ⟨answer, next⟩ := result
    obtain ⟨rest, ranRest, final⟩ := bind_eq_some_iff.mp ran
    obtain ⟨answers', last⟩ := rest
    cases final
    have absent : task ∉ entries.tasks := by
      intro member
      exact (List.nodup_append.mp nodup).2.2 task member task List.mem_cons_self rfl
    have here := nonNull task List.mem_cons_self
    by_cases room : entries.length < 15
    · obtain ⟨grown, added, denotes', _⟩ := denotes.append unknown here absent room
      have same : next = grown := by
        rw [TaskLists.step, added] at stepped
        exact (Prod.mk.inj (some.inj stepped)).2.symm
      subst same
      have kind := SameKind.addTask added
      have nodup' : ((entries ++ [(task, none)] : Entries Data).tasks ++ tasks).Nodup := by
        rw [tasks_append, List.append_assoc]
        exact nodup
      obtain ⟨entries', denotes'', all, bound', few'⟩ := ih denotes'
        (kind.sizeFlexibleTasks ▸ few) (by rw [length_append]; exact room) nodup'
        (fun other member => nonNull other (List.mem_cons_of_mem task member)) ranRest
      refine ⟨entries', denotes'', ?_, bound', few'⟩
      rw [all, tasks_append, List.append_assoc]
      rfl
    · have full : entries.length = 15 := by omega
      rw [TaskLists.step, denotes.addTask_full few full here absent] at stepped
      contradiction

theorem Created.sizes (created : Created list withData) :
    list.sizeFlexibleTasks ≤ 14 ∧ (withData = true → list.sizeFlexibleTasks = 0) ∧
      list.data = [] := by
  cases created with
  | withCapacity positive bound created =>
    rw [TaskList.createWithCapacity, if_neg (Nat.ne_of_gt positive),
      if_pos (show _ ≤ taskListMaxTasks from bound), Option.some.injEq] at created
    subst created
    exact ⟨by dsimp only; omega, fun no => absurd no Bool.false_ne_true, rfl⟩
  | withData => exact ⟨Nat.zero_le 14, fun _ => rfl, rfl⟩

/-- Of distinct tasks added to a new list one more is stored, or the call panics for it, if and
only if it is `NULL` or fewer than fifteen are on the list. -/
theorem addTask_safe_iff (created : Created list withData) {tasks : List Task}
    (nodup : tasks.Nodup) (nonNull : ∀ earlier ∈ tasks, earlier ≠ 0) {answers : List Bool}
    (ran : run unknown list (tasks.map Call.addTask) = some (answers, list'))
    (absent : task ∉ tasks) :
    (task = 0 ∨ AddsTask unknown list' task) ↔ task = 0 ∨ tasks.length < 15 := by
  have few := created.sizes.1
  obtain ⟨entries, denotes, all, bound, few'⟩ :=
    created.denotes.addAll few (Nat.zero_le 15) nodup nonNull ran
  have all' : entries.tasks = tasks := all
  have length : tasks.length = entries.length := by
    rw [← all', Entries.tasks, length_map]
  by_cases null : task = 0
  · exact ⟨fun _ => .inl null, fun _ => .inl null⟩
  refine or_congr_right ?_
  rw [length]
  constructor
  · intro adds
    by_contra full
    exact not_addsTask_of_none
      (denotes.addTask_full few' (by omega) null (all'.symm ▸ absent)) adds
  · exact denotes.addsTask null (all'.symm ▸ absent)

end Additions

theorem third_task_safe :
    ∃ full, run ⟨0, 0⟩ (TaskList.withDataCreate : TaskList Nat) ([1, 2].map Call.addTask) =
        some ([true, true], full) ∧
      (((3 : Task) = 0 ∨ AddsTask ⟨0, 0⟩ full 3) ↔ (3 : Task) = 0 ∨ [1, 2].length < 15) :=
  ⟨_, rfl, addTask_safe_iff Created.withData (by decide : ([1, 2] : List Task).Nodup) (by decide)
    rfl (by decide)⟩

/-- Of sixteen tasks the last is written behind the heap array. -/
theorem sixteenth_task_overruns :
    ∃ full, run ⟨0, 0⟩ (TaskList.withDataCreate : TaskList Nat)
        ((List.range' 1 15).map Call.addTask) = some (List.replicate 15 true, full) ∧
      ¬ ((16 : Task) = 0 ∨ AddsTask ⟨0, 0⟩ full 16) := by
  refine ⟨{ sizeList := 15
            sizeFlexibleTasks := 0
            listType := .withData
            u := .tasks (List.range' 1 15)
            flexibleTasks := []
            data := List.replicate 15 0 }, by decide +kernel, not_or.mpr ⟨by decide, ?_⟩⟩
  exact not_addsTask_of_none (by decide +kernel)

section Duplicates

variable {list list' newList : TaskList Data} {withData : Bool} {entries : Entries Data}
  {unknown : Unknown Data} {calls : List (Call Data)} {answers : List Bool} {tasks : List Task}

structure Led (list : TaskList Data) (withData : Bool) (entries : Entries Data) : Prop where
  denotes : Denotes list withData entries
  bound : entries.length ≤ 15
  few : list.sizeFlexibleTasks ≤ 14
  plain : withData = true → list.sizeFlexibleTasks = 0
  noData : list.listType = .standard → list.data = []

theorem Led.step (led : Led list withData entries) {call : Call Data} {answer : Bool}
    (stepped : TaskLists.step unknown list call = some (answer, list')) :
    ∃ entries', Led list' withData entries' := by
  obtain ⟨denotes, bound, few, plain, noData⟩ := led
  have kind := SameKind.step stepped
  have few' : list'.sizeFlexibleTasks ≤ 14 := kind.sizeFlexibleTasks ▸ few
  have plain' (ofData : withData = true) : list'.sizeFlexibleTasks = 0 :=
    kind.sizeFlexibleTasks.trans (plain ofData)
  have noData' (standard : list'.listType = .standard) : list'.data = [] := by
    have before : list.listType = .standard := kind.listType ▸ standard
    exact (kind.noData before).trans (noData before)
  have fits : ∀ answer entries', specStep withData entries call = some (answer, entries') →
      entries'.length ≤ 15 := by
    intro answer' entries' specified
    by_contra more
    have grows : entries.length < entries'.length := by omega
    have overrun (task : Task) (nonNull : task ≠ 0) (absent : task ∉ entries.tasks)
        (full : entries.length = 15) : list.addTask unknown task = none :=
      denotes.addTask_full few full nonNull absent
    cases call with
    | addTask task =>
      rw [specStep] at specified
      split at specified
      · contradiction
      split at specified
      · cases specified
        omega
      · rename_i nonNull absent
        cases specified
        rw [length_append, List.length_singleton] at more
        rw [TaskLists.step, overrun task nonNull absent (by omega)] at stepped
        contradiction
    | addTaskWithData task data =>
      rw [specStep] at specified
      split at specified
      · split at specified
        · contradiction
        split at specified
        · cases specified
          omega
        · rename_i ofData nonNull absent
          cases specified
          rw [length_append, List.length_singleton] at more
          rw [TaskLists.step, TaskList.addTaskWithData, denotes.kind, if_pos ofData,
            overrun task nonNull absent (by omega)] at stepped
          contradiction
      · cases specified
        omega
    | removeTask task =>
      rw [specStep] at specified
      split at specified
      · contradiction
      · cases specified
        have smaller := List.length_filter_le (fun entry => decide (entry.1 ≠ task)) entries
        omega
    | removeAllTasks =>
      rw [specStep] at specified
      split at specified
      · contradiction
      · cases specified
        exact more (Nat.zero_le 15)
    | setDataForTask task data =>
      rw [specStep] at specified
      split at specified
      · cases specified
        rw [length_map] at more
        omega
      · cases specified
        omega
  have specified := denotes.step unknown bound fits
  cases result : specStep withData entries call with
  | none =>
    rw [result] at specified
    exact absurd (specified.symm.trans stepped) (some_ne_none _).symm
  | some result' =>
    obtain ⟨answer', entries'⟩ := result'
    rw [result] at specified
    obtain ⟨next, stepped', denotes'⟩ := specified
    obtain rfl := (Prod.mk.inj (some.inj (stepped.symm.trans stepped'))).2
    exact ⟨entries', denotes', fits answer' entries' result, few', plain', noData'⟩

theorem Led.run (led : Led list withData entries)
    (ran : TaskLists.run unknown list calls = some (answers, list')) :
    ∃ entries', Led list' withData entries' := by
  induction calls generalizing list entries answers with
  | nil =>
    cases ran
    exact ⟨entries, led⟩
  | cons call calls ih =>
    obtain ⟨result, stepped, ran⟩ := bind_eq_some_iff.mp ran
    obtain ⟨answer, next⟩ := result
    obtain ⟨rest, ranRest, final⟩ := bind_eq_some_iff.mp ran
    obtain ⟨answers', last⟩ := rest
    cases final
    obtain ⟨entries', led'⟩ := led.step stepped
    exact ih led' ranRest

theorem Created.led (created : Created list withData) : Led list withData [] :=
  ⟨created.denotes, Nat.zero_le 15, created.sizes.1, created.sizes.2.1, fun _ => created.sizes.2.2⟩

theorem Led.allocated (led : Led list withData entries) :
    list.createDuplicate = some
        { sizeList := 0
          sizeFlexibleTasks := list.sizeFlexibleTasks - 1
          listType := list.listType
          u := .task 0
          flexibleTasks := List.replicate (list.sizeFlexibleTasks - 1) 0
          data := [] } := by
  have few := led.few
  rw [TaskList.createDuplicate]
  cases kind : list.listType with
  | standard =>
    rw [if_pos rfl, TaskList.createWithCapacity]
    by_cases none : list.sizeFlexibleTasks = 0
    · rw [if_pos none, if_pos (by decide), none]
    · rw [if_neg none]
      exact if_pos (Nat.le_succ_of_le few)
  | withData =>
    rw [if_neg ListType.noConfusion, led.plain (led.denotes.listType.mp kind)]
    rfl

def blank (unknown : Unknown Data) (list : TaskList Data) : TaskList Data :=
  { list with
    u :=
      if list.sizeFlexibleTasks + 1 < list.sizeList then
        .tasks (realloc unknown.task [] (list.sizeList - list.sizeFlexibleTasks))
      else .task 0
    flexibleTasks := List.replicate (list.sizeFlexibleTasks - 1) 0
    data :=
      if list.listType = .withData then
        if list.sizeList ≠ 0 then realloc unknown.data [] list.sizeList else []
      else [] }

theorem Led.sizeList_eq (led : Led list withData entries) : list.sizeList = entries.length := by
  rw [led.denotes.holds.size, Entries.tasks, length_map]

theorem Led.duplicate_eq (led : Led list withData entries) :
    list.duplicate unknown = (list.copyTasks (blank unknown list)).bind list.copyData := by
  have bound := led.bound
  have size := led.sizeList_eq
  rw [TaskList.duplicate, led.allocated, bind_some]
  obtain ⟨based, isBased⟩ : ∃ based : TaskList Data, based = { list with
        u := .task 0
        flexibleTasks := List.replicate (list.sizeFlexibleTasks - 1) 0
        data := [] } := ⟨_, rfl⟩
  have tasks : based.resizeTasks unknown list.sizeList = some (blank unknown list).u := by
    rw [TaskList.resizeTasks, blank, isBased]
    dsimp only
    by_cases heap : list.sizeFlexibleTasks + 1 < list.sizeList
    · rw [if_neg (Nat.ne_of_gt heap), if_pos heap, if_neg (Nat.ne_of_gt heap), if_pos heap]
      rfl
    · rw [if_neg heap, if_neg heap]
      repeat' split
      all_goals rfl
  have resized : based.resize unknown list.sizeList = some (blank unknown list) := by
    rw [TaskList.resize, tasks, Option.map_some, Nat.mod_eq_of_lt (by omega), isBased]
    rfl
  rw [← isBased]
  rw [resized, bind_some]

theorem set_copied {copied cells : List Task} {count : Nat} (inside : count < copied.length)
    (room : count < cells.length) :
    (copied.take count ++ cells.drop count).set count copied[count] =
      copied.take (count + 1) ++ cells.drop (count + 1) := by
  have length : (copied.take count).length = count := List.length_take_of_le (Nat.le_of_lt inside)
  rw [List.set_append_right _ _ (Nat.le_of_eq length), length, Nat.sub_self,
    List.drop_eq_getElem_cons room, List.set_cons_zero, List.take_succ_eq_append_getElem inside,
    List.append_assoc]
  rfl

theorem Holds.copyTasks (holds : Holds list tasks) {cells : List Task}
    (room : Holds newList cells) (same : cells.length = tasks.length) :
    ∃ copy, list.copyTasks newList = some copy ∧ Holds copy tasks ∧
      SameButTasks newList copy := by
  have loop (count : Nat) (bound : count ≤ tasks.length) :
      ∃ copy, (List.range count).foldlM
          (fun newList index => (list.getTaskAtIndex index).bind fun copytask =>
            newList.setTaskAtIndex copytask index) newList = some copy ∧
        Holds copy (tasks.take count ++ cells.drop count) ∧ SameButTasks newList copy := by
    induction count with
    | zero => exact ⟨newList, rfl, room, rfl, rfl, rfl⟩
    | succ count ih =>
      obtain ⟨copy, ran, held, kept⟩ := ih (Nat.le_of_lt bound)
      have inside : count < (tasks.take count ++ cells.drop count).length := by
        rw [length_append, List.length_take, List.length_drop]
        omega
      obtain ⟨next, set, held', kept'⟩ := held.setTaskAtIndex inside tasks[count]
      refine ⟨next, ?_, ?_, kept'.sizeList.trans kept.sizeList,
        kept'.listType.trans kept.listType, kept'.data.trans kept.data⟩
      · rw [List.range_succ, List.foldlM_append, ran, bind_eq_bind, bind_some,
          foldlM_cons, holds.getTaskAtIndex bound, List.getElem?_eq_getElem bound,
          bind_some, set]
        rfl
      · rwa [set_copied bound (by omega)] at held'
  obtain ⟨copy, ran, held, kept⟩ := loop tasks.length (Nat.le_refl _)
  rw [List.take_length, ← same, List.drop_length, append_nil] at held
  exact ⟨copy, by rw [TaskList.copyTasks, holds.size, ran], held, kept⟩

theorem Led.blank_holds (led : Led list withData entries)
    (noArray : list.sizeFlexibleTasks = 0) :
    ∃ cells, Holds (blank unknown list) cells ∧ cells.length = entries.tasks.length := by
  have size := led.denotes.holds.size
  rcases Nat.lt_trichotomy entries.tasks.length 1 with none | one | several
  · refine ⟨[], ⟨?_, ?_, ?_⟩, by rw [Nat.lt_one_iff.mp none]; rfl⟩
    · rw [blank, noArray]
      rfl
    · rw [blank, noArray, if_neg (by omega)]
      exact .within rfl
    · rw [blank, size, Nat.lt_one_iff.mp none]
      rfl
  · refine ⟨[0], ⟨?_, ?_, ?_⟩, one.symm⟩
    · rw [blank, noArray]
      rfl
    · rw [blank, noArray, if_neg (by omega)]
      exact .single
    · rw [blank, size, one]
      rfl
  · have sized : (realloc unknown.task [] entries.tasks.length).length = entries.tasks.length :=
      length_realloc _
    refine ⟨realloc unknown.task [] entries.tasks.length, ⟨?_, ?_, ?_⟩, sized⟩
    · rw [blank, noArray]
      rfl
    · have placed : Layout [] ([] ++ realloc unknown.task [] entries.tasks.length)
          (.tasks (realloc unknown.task [] entries.tasks.length)) :=
        .heap (by rw [sized]; exact several)
      rw [blank, noArray, size, if_pos (by omega)]
      exact placed
    · rw [blank, size, sized]

theorem Led.copyTasks_within (led : Led list withData entries)
    (short : list.sizeList < list.sizeFlexibleTasks) :
    list.copyTasks (blank unknown list) = some { blank unknown list with
        flexibleTasks := entries.tasks ++
          (List.replicate (list.sizeFlexibleTasks - 1) 0).drop entries.tasks.length } := by
  have holds := led.denotes.holds
  have size := holds.size
  have loop (count : Nat) (bound : count ≤ entries.tasks.length) :
      (List.range count).foldlM
          (fun newList index => (list.getTaskAtIndex index).bind fun copytask =>
            newList.setTaskAtIndex copytask index) (blank unknown list) =
        some { blank unknown list with
          flexibleTasks := entries.tasks.take count ++
            (List.replicate (list.sizeFlexibleTasks - 1) 0).drop count } := by
    induction count with
    | zero => rfl
    | succ count ih =>
      have room : count < (List.replicate (list.sizeFlexibleTasks - 1) 0).length := by
        rw [List.length_replicate]
        omega
      have inside : count < (entries.tasks.take count ++
          (List.replicate (list.sizeFlexibleTasks - 1) 0).drop count).length := by
        rw [length_append, List.length_take, List.length_drop]
        omega
      rw [List.range_succ, List.foldlM_append, ih (Nat.le_of_lt bound), bind_eq_bind,
        bind_some, foldlM_cons, holds.getTaskAtIndex bound,
        List.getElem?_eq_getElem bound, bind_some, TaskList.setTaskAtIndex]
      dsimp only
      rw [if_pos (show count < (blank unknown list).sizeFlexibleTasks by
          rw [blank]; dsimp only; omega), if_pos inside, set_copied bound room]
      rfl
  rw [TaskList.copyTasks, size, loop _ (Nat.le_refl _), List.take_length]

theorem copyTasks_none (array : list.sizeFlexibleTasks ≠ 0)
    (filled : list.sizeFlexibleTasks ≤ list.sizeList) :
    list.copyTasks (blank unknown list) = none := by
  obtain ⟨rest, split⟩ : ∃ rest, List.range list.sizeList =
      List.range (list.sizeFlexibleTasks - 1) ++ (list.sizeFlexibleTasks - 1) :: rest := by
    refine ⟨(List.range list.sizeList).drop (list.sizeFlexibleTasks - 1 + 1), ?_⟩
    have inside : list.sizeFlexibleTasks - 1 < (List.range list.sizeList).length := by
      rw [List.length_range]
      omega
    have tail := List.drop_eq_getElem_cons inside
    rw [List.getElem_range] at tail
    have whole := List.take_append_drop (list.sizeFlexibleTasks - 1) (List.range list.sizeList)
    rw [List.take_range, Nat.min_eq_left (by omega), tail] at whole
    exact whole.symm
  rw [TaskList.copyTasks, split, List.foldlM_append]
  cases ran : (List.range (list.sizeFlexibleTasks - 1)).foldlM
      (fun newList index => (list.getTaskAtIndex index).bind fun copytask =>
        newList.setTaskAtIndex copytask index) (blank unknown list) with
  | none => rfl
  | some copy =>
    have kept : SameKind (blank unknown list) copy :=
      SameKind.setLoop (fun _ index => list.getTaskAtIndex index) ran
    have length : copy.flexibleTasks.length = list.sizeFlexibleTasks - 1 :=
      kept.flexibleTasks.trans List.length_replicate
    have size : copy.sizeFlexibleTasks = list.sizeFlexibleTasks := kept.sizeFlexibleTasks
    have outside (task : Task) : copy.setTaskAtIndex task (list.sizeFlexibleTasks - 1) = none := by
      rw [TaskList.setTaskAtIndex, size, length, if_pos (by omega), if_neg (Nat.lt_irrefl _)]
    rw [bind_eq_bind, bind_some, foldlM_cons]
    cases list.getTaskAtIndex (list.sizeFlexibleTasks - 1) with
    | none => rfl
    | some task =>
      rw [bind_some, outside]
      rfl

theorem Led.copyData (led : Led list withData entries)
    (sameSize : newList.sizeList = list.sizeList) (sameType : newList.listType = list.listType)
    (blankData : newList.data = (blank unknown list).data) :
    ∃ copy, list.copyData newList = some copy ∧ copy.sizeList = list.sizeList ∧
      copy.listType = list.listType ∧
      (∀ index, copy.getTaskAtIndex index = newList.getTaskAtIndex index) ∧
      (withData = true → copy.data = list.data) ∧ (withData = false → copy.data = []) := by
  rw [TaskList.copyData, sameType, blankData, blank]
  dsimp only
  cases kind : list.listType with
  | standard =>
    have plain : withData = false := by
      rw [← led.denotes.kind, TaskList.isTaskListWithData, kind]
      rfl
    rw [if_neg ListType.noConfusion]
    refine ⟨newList, rfl, sameSize, by rw [sameType, kind], fun _ => rfl, fun ofData => ?_,
      fun _ => ?_⟩
    · exact absurd (plain.symm.trans ofData) Bool.false_ne_true
    · rw [blankData, blank]
      dsimp only
      rw [kind, if_neg ListType.noConfusion]
  | withData =>
    have ofData : withData = true := led.denotes.listType.mp kind
    have length : list.data.length = list.sizeList := by
      rw [(led.denotes.data ofData).length, led.sizeList_eq]
    have blankLength : (if list.sizeList ≠ 0 then realloc unknown.data [] list.sizeList
        else []).length = list.sizeList := by
      split
      · exact length_realloc _
      · rename_i none
        exact (not_not.mp none).symm
    rw [if_pos rfl, if_pos rfl, blankLength, if_pos ⟨Nat.le_of_eq length.symm, Nat.le_refl _⟩]
    refine ⟨_, rfl, sameSize, rfl, fun _ => rfl, fun _ => ?_, fun plain => ?_⟩
    · dsimp only
      rw [← length, List.take_length, length, List.drop_eq_nil_of_le (Nat.le_of_eq blankLength),
        append_nil]
    · exact absurd (plain.symm.trans ofData) Bool.false_ne_true

theorem Led.duplicates_iff (led : Led list withData entries) :
    Duplicates unknown list ↔ list.sizeFlexibleTasks = 0 ∨ list.size < list.sizeFlexibleTasks := by
  have holds := led.denotes.holds
  have size : list.size = entries.tasks.length := holds.size
  have finish {newList : TaskList Data} (copied : list.copyTasks (blank unknown list) =
      some newList) (sameSize : newList.sizeList = list.sizeList)
      (sameType : newList.listType = list.listType)
      (blankData : newList.data = (blank unknown list).data)
      (same : ∀ index, index < list.size →
        newList.getTaskAtIndex index = list.getTaskAtIndex index) :
      Duplicates unknown list := by
    obtain ⟨copy, ran, copySize, copyType, tasks, ofData, plain⟩ :=
      led.copyData sameSize sameType blankData
    refine ⟨copy, ?_, copySize, copyType, fun index inside => ?_, ?_⟩
    · rw [led.duplicate_eq, copied, bind_some, ran]
    · rw [tasks, same index inside]
    · cases kind : withData with
      | true => exact ofData kind
      | false =>
        have standard : list.listType = .standard := by
          cases type : list.listType with
          | standard => rfl
          | withData => exact Bool.noConfusion (kind.symm.trans (led.denotes.listType.mp type))
        rw [plain kind, led.noData standard]
  constructor
  · rintro ⟨copy, duplicated, _⟩
    by_contra filled
    rw [not_or, Nat.not_lt] at filled
    rw [led.duplicate_eq, copyTasks_none filled.1 filled.2] at duplicated
    contradiction
  · rintro (noArray | short)
    · obtain ⟨cells, room, same⟩ := led.blank_holds noArray
      obtain ⟨copy, copied, held, kept⟩ := holds.copyTasks room same
      refine finish copied kept.sizeList kept.listType kept.data fun index inside => ?_
      rw [size] at inside
      rw [held.getTaskAtIndex inside, holds.getTaskAtIndex inside]
    · refine finish (led.copyTasks_within short) rfl rfl rfl fun index inside => ?_
      rw [size] at inside
      rw [holds.getTaskAtIndex inside, TaskList.getTaskAtIndex, if_pos, List.getElem?_append_left
        inside]
      rw [blank]
      dsimp only
      omega

/-- A list that any calls have led to is duplicated within the storage of the duplicate if and
only if it has no flexible array, or has fewer tasks than its flexible array has places. -/
theorem run_duplicates_iff (created : Created list withData)
    (ran : run unknown list calls = some (answers, list')) :
    Duplicates unknown list' ↔
      list'.sizeFlexibleTasks = 0 ∨ list'.size < list'.sizeFlexibleTasks := by
  obtain ⟨entries, led⟩ := created.led.run ran
  exact led.duplicates_iff

end Duplicates

theorem twoTasks_duplicate :
    ∃ list', run ⟨0, 0⟩ (TaskList.withDataCreate : TaskList Nat)
        [.addTaskWithData 1 10, .addTaskWithData 2 20] = some ([true, true], list') ∧
      (Duplicates ⟨0, 0⟩ list' ↔
        list'.sizeFlexibleTasks = 0 ∨ list'.size < list'.sizeFlexibleTasks) := by
  have ran : run ⟨0, 0⟩ (TaskList.withDataCreate : TaskList Nat)
      [.addTaskWithData 1 10, .addTaskWithData 2 20] = some ([true, true],
          { sizeList := 2
            sizeFlexibleTasks := 0
            listType := .withData
            u := .tasks [1, 2]
            flexibleTasks := []
            data := [10, 20] }) := by
    decide +kernel
  exact ⟨_, ran, run_duplicates_iff Created.withData ran⟩

/-- With a capacity of two tasks and one task on the list, the duplicate is written behind its
end. -/
theorem capacityTwo_overruns :
    ∃ list list' : TaskList Nat, Created list false ∧
      run ⟨0, 0⟩ list [.addTask 1] = some ([true], list') ∧ list'.duplicate ⟨0, 0⟩ = none ∧
      ¬ Duplicates ⟨0, 0⟩ list' := by
  have created : Created
      { sizeList := 0
        sizeFlexibleTasks := 1
        listType := .standard
        u := .task 0
        flexibleTasks := [0]
        data := ([] : List Nat) } false :=
    .withCapacity (by decide : 0 < 2) (by decide) rfl
  refine ⟨_, _, created, rfl, rfl, ?_⟩
  rintro ⟨copy, duplicated, _⟩
  exact absurd duplicated (some_ne_none _).symm

end HeadsetAdk.TaskLists
