import Mathlib.Data.List.Sort

/-! # Queues of messages that are due later -/

namespace HeadsetAdk

structure Timed (Id : Type*) where
  id : Id
  due : Int
  deriving DecidableEq

namespace TimedQueue

variable {Id : Type*}

def send (message : Timed Id) (queue : List (Timed Id)) : List (Timed Id) :=
  queue.orderedInsert (fun sent waiting => sent.due < waiting.due) message

def among (ids : Id → Bool) (queue : List (Timed Id)) : List (Timed Id) :=
  queue.filter fun message => ids message.id

section Identified

variable [DecidableEq Id]

def pendingFirst (id : Id) (queue : List (Timed Id)) : Option Int :=
  (queue.find? fun message => decide (message.id = id)).map Timed.due

def cancelFirst (id : Id) (queue : List (Timed Id)) : List (Timed Id) :=
  queue.eraseP fun message => decide (message.id = id)

end Identified

variable {ids : Id → Bool} {message : Timed Id} {queue : List (Timed Id)} {id : Id}

theorem mem_send {waiting : Timed Id} :
    waiting ∈ send message queue ↔ waiting = message ∨ waiting ∈ queue :=
  List.mem_orderedInsert _

theorem among_cons (own : ids message.id = true) :
    among ids (message :: queue) = message :: among ids queue :=
  List.filter_cons_of_pos (p := fun message : Timed Id => ids message.id) own

theorem among_cons_other (other : ids message.id = false) :
    among ids (message :: queue) = among ids queue :=
  List.filter_cons_of_neg (p := fun message : Timed Id => ids message.id)
    (Bool.eq_false_iff.mp other)

theorem among_send_other (other : ids message.id = false) :
    among ids (send message queue) = among ids queue := by
  induction queue with
  | nil => exact among_cons_other other
  | cons waiting queue ih =>
    rw [send, List.orderedInsert_cons]
    split
    · exact among_cons_other other
    · rw [← send]
      cases own : ids waiting.id with
      | true => rw [among_cons own, among_cons own, ih]
      | false => rw [among_cons_other own, among_cons_other own, ih]

theorem among_send_first (own : ids message.id = true) (empty : among ids queue = []) :
    among ids (send message queue) = [message] := by
  have rearranged : (among ids (send message queue)).Perm (among ids (message :: queue)) :=
    (List.perm_orderedInsert (fun sent waiting : Timed Id => sent.due < waiting.due) message
      queue).filter fun message : Timed Id => ids message.id
  rw [among_cons own, empty] at rearranged
  exact List.perm_singleton.mp rearranged

variable [DecidableEq Id]

theorem decide_id_and (own : ids id = true) (message : Timed Id) :
    (decide (message.id = id) && ids message.id) = decide (message.id = id) := by
  by_cases same : message.id = id
  · rw [same, own, Bool.and_true]
  · rw [decide_eq_false same, Bool.false_and]

theorem among_cancelFirst (own : ids id = true) :
    among ids (cancelFirst id queue) = cancelFirst id (among ids queue) := by
  rw [among, among, cancelFirst, cancelFirst, List.eraseP_filter]
  simp only [decide_id_and own]

theorem among_cancelFirst_other (other : ids id = false) :
    among ids (cancelFirst id queue) = among ids queue := by
  induction queue with
  | nil => rfl
  | cons waiting queue ih =>
    rw [cancelFirst, List.eraseP_cons, ← cancelFirst]
    by_cases same : waiting.id = id
    · rw [decide_eq_true same, cond_true, among_cons_other (same ▸ other)]
    · rw [decide_eq_false same, cond_false]
      cases own : ids waiting.id with
      | true => rw [among_cons own, among_cons own, ih]
      | false => rw [among_cons_other own, among_cons_other own, ih]

theorem pendingFirst_among (own : ids id = true) :
    pendingFirst id (among ids queue) = pendingFirst id queue := by
  rw [pendingFirst, pendingFirst, among, List.find?_filter]
  have same (message : Timed Id) :
      decide (ids message.id = true ∧ decide (message.id = id) = true) =
        decide (message.id = id) := by
    rw [Bool.decide_and, Bool.decide_eq_true, Bool.decide_eq_true, Bool.and_comm, decide_id_and own]
  simp only [same]

theorem pendingFirst_self (id : Id) (due : Int) : pendingFirst id [⟨id, due⟩] = some due := by
  rw [pendingFirst, List.find?_cons]
  dsimp only
  rw [decide_eq_true rfl]
  rfl

theorem pendingFirst_other {other : Id} (differ : other ≠ id) (due : Int) :
    pendingFirst id [⟨other, due⟩] = none := by
  rw [pendingFirst, List.find?_cons]
  dsimp only
  rw [decide_eq_false differ]
  rfl

theorem cancelFirst_self (id : Id) (due : Int) (queue : List (Timed Id)) :
    cancelFirst id (⟨id, due⟩ :: queue) = queue :=
  List.eraseP_cons_of_pos (decide_eq_true rfl)

theorem cancelFirst_other (differ : message.id ≠ id) :
    cancelFirst id (message :: queue) = message :: cancelFirst id queue :=
  List.eraseP_cons_of_neg (by rw [decide_eq_true_iff]; exact differ)

/-- A message takes the place of the only one of its class. -/
theorem among_cancelFirst_send {due : Int} (own : ids message.id = true) (ownId : ids id = true)
    (differ : message.id ≠ id) (only : among ids queue = [⟨id, due⟩]) :
    among ids (cancelFirst id (send message queue)) = [message] := by
  have rearranged : (among ids (send message queue)).Perm (among ids (message :: queue)) :=
    (List.perm_orderedInsert (fun sent waiting : Timed Id => sent.due < waiting.due) message
      queue).filter fun message : Timed Id => ids message.id
  rw [among_cons own, only] at rearranged
  rw [among_cancelFirst ownId]
  have two := rearranged.length_eq
  obtain ⟨first, second, pair⟩ := List.length_eq_two.mp two
  rw [pair] at rearranged ⊢
  rcases List.mem_cons.mp (rearranged.subset List.mem_cons_self) with rfl | isWaiting
  · have rest := List.perm_singleton.mp (List.Perm.cons_inv rearranged)
    obtain rfl := List.singleton_inj.mp rest
    rw [cancelFirst_other differ, cancelFirst_self]
  · obtain rfl := List.mem_singleton.mp isWaiting
    have rest := (rearranged.trans (List.Perm.swap _ _ _)).cons_inv
    rw [List.perm_singleton.mp rest, cancelFirst_self]

end TimedQueue

end HeadsetAdk
