import Mathlib.Data.List.Basic

/-! # Requests and answers in a log -/

namespace HeadsetAdk.Requests

variable {Event : Type*} (asks answers : Event → Bool)

/-- The requests since the last answer. -/
def unanswered : List Event → Nat
  | [] => 0
  | event :: log =>
      if asks event then unanswered log + 1
      else if answers event then 0
      else unanswered log

def Solicited : List Event → Prop
  | [] => True
  | event :: log =>
      (answers event = true → 0 < unanswered asks answers log) ∧ Solicited log

variable {asks answers : Event → Bool} {event : Event} {log : List Event}

theorem unanswered_ask (request : asks event = true) :
    unanswered asks answers (event :: log) = unanswered asks answers log + 1 :=
  if_pos request

theorem unanswered_answer (request : asks event = false) (answer : answers event = true) :
    unanswered asks answers (event :: log) = 0 := by
  rw [unanswered, request, if_neg Bool.false_ne_true, if_pos answer]

theorem unanswered_other (request : asks event = false) (answer : answers event = false) :
    unanswered asks answers (event :: log) = unanswered asks answers log := by
  rw [unanswered, request, if_neg Bool.false_ne_true, answer, if_neg Bool.false_ne_true]

theorem Solicited.cons (solicited : Solicited asks answers log)
    (answer : answers event = true → 0 < unanswered asks answers log) :
    Solicited asks answers (event :: log) :=
  ⟨answer, solicited⟩

theorem Solicited.other (solicited : Solicited asks answers log)
    (answer : answers event = false) : Solicited asks answers (event :: log) :=
  ⟨fun answered => absurd (answer.symm.trans answered) Bool.false_ne_true, solicited⟩

section Many

variable {Client : Type*} {make : Client → Event} {clients : List Client}

def sendAll (make : Client → Event) : List Client → List Event → List Event
  | [], log => log
  | client :: clients, log => sendAll make clients (make client :: log)

/-- Messages that are neither requests nor answers. -/
theorem unanswered_sendAll_other (quiet : ∀ other, asks (make other) = false)
    (silent : ∀ other, answers (make other) = false) (log : List Event) :
    unanswered asks answers (Requests.sendAll make clients log) = unanswered asks answers log := by
  induction clients generalizing log with
  | nil => rfl
  | cons first clients ih =>
    rw [Requests.sendAll, ih, unanswered_other (quiet first) (silent first)]

theorem Solicited.sendAll_other (solicited : Solicited asks answers log)
    (silent : ∀ other, answers (make other) = false) :
    Solicited asks answers (Requests.sendAll make clients log) := by
  induction clients generalizing log with
  | nil => exact solicited
  | cons first clients ih => exact ih (solicited.other (silent first))

variable [DecidableEq Client] {client : Client}

theorem unanswered_sendAll (quiet : ∀ other, asks (make other) = false)
    (own : ∀ other, answers (make other) = decide (other = client)) (log : List Event) :
    unanswered asks answers (sendAll make clients log) =
      if client ∈ clients then 0 else unanswered asks answers log := by
  induction clients generalizing log with
  | nil => rw [sendAll, if_neg List.not_mem_nil]
  | cons first clients ih =>
    rw [sendAll, ih]
    by_cases same : first = client
    · rw [unanswered_answer (quiet first) (by rw [own first, decide_eq_true same]),
        ite_self, if_pos (by rw [same]; exact List.mem_cons_self)]
    · rw [unanswered_other (quiet first) (by rw [own first, decide_eq_false same])]
      by_cases member : client ∈ clients
      · rw [if_pos member, if_pos (List.mem_cons_of_mem first member)]
      · rw [if_neg member, if_neg fun found =>
          (List.mem_cons.mp found).elim (fun equal => same equal.symm) member]

theorem Solicited.sendAll (solicited : Solicited asks answers log)
    (quiet : ∀ other, asks (make other) = false)
    (own : ∀ other, answers (make other) = decide (other = client))
    (distinct : clients.Nodup)
    (waits : client ∈ clients → 0 < unanswered asks answers log) :
    Solicited asks answers (sendAll make clients log) := by
  induction clients generalizing log with
  | nil => exact solicited
  | cons first clients ih =>
    rw [List.nodup_cons] at distinct
    rw [Requests.sendAll]
    by_cases same : first = client
    · subst same
      refine ih (solicited.cons fun _ => waits List.mem_cons_self) distinct.2 fun member => ?_
      exact absurd member distinct.1
    · have other : answers (make first) = false := by rw [own first, decide_eq_false same]
      refine ih (solicited.other other) distinct.2 fun member => ?_
      rw [unanswered_other (quiet first) other]
      exact waits (List.mem_cons_of_mem first member)

end Many

end HeadsetAdk.Requests
