import Mathlib.Tactic.TypeStar

/-!
# Logs of events, and states reached by steps

A log keeps its newest event first.  An event stands in it as long as no later one breaks it.
-/

namespace HeadsetAdk

namespace EventLog

variable {Event : Type*}

def Stands (breaks : Event → Bool) (event : Event) (older log : List Event) : Prop :=
  ∃ recent, log = recent ++ event :: older ∧ ∀ entry ∈ recent, breaks entry = false

namespace Stands

variable {breaks : Event → Bool} {event entry : Event} {older log : List Event}

theorem now : Stands breaks event log (event :: log) :=
  ⟨[], rfl, by simp⟩

theorem cons (stands : Stands breaks event older log) (harmless : breaks entry = false) :
    Stands breaks event older (entry :: log) := by
  obtain ⟨recent, rfl, quiet⟩ := stands
  refine ⟨entry :: recent, rfl, fun other member => ?_⟩
  cases List.mem_cons.mp member with
  | inl same => rw [same, harmless]
  | inr member => exact quiet other member

theorem append (stands : Stands breaks event older log) {later : List Event}
    (harmless : ∀ entry ∈ later, breaks entry = false) :
    Stands breaks event older (later ++ log) := by
  induction later with
  | nil => exact stands
  | cons entry later ih =>
    exact (ih fun other member => harmless other (List.mem_cons_of_mem entry member)).cons
      (harmless entry List.mem_cons_self)

end Stands

def sinceLast (ends : Event → Bool) (log : List Event) : List Event :=
  log.takeWhile fun entry => !ends entry

variable {ends : Event → Bool} {log : List Event} {event : Event}

theorem sinceLast_cons {entry : Event} (inside : ends entry = false) :
    sinceLast ends (entry :: log) = entry :: sinceLast ends log := by
  rw [sinceLast, List.takeWhile_cons_of_pos (by rw [inside]; rfl)]
  rfl

theorem mem_sinceLast_append {later : List Event} (inside : ∀ entry ∈ later, ends entry = false)
    (member : event ∈ sinceLast ends log) : event ∈ sinceLast ends (later ++ log) := by
  induction later with
  | nil => exact member
  | cons entry later ih =>
    rw [List.cons_append, sinceLast_cons (inside entry List.mem_cons_self)]
    exact List.mem_cons_of_mem entry
      (ih fun other member => inside other (List.mem_cons_of_mem entry member))

theorem Stands.sinceLast_eq {breaks : Event → Bool} {older : List Event}
    (stands : Stands breaks event older log) (harmless : breaks event = false) :
    ∃ recent, sinceLast breaks log = recent ++ event :: sinceLast breaks older := by
  obtain ⟨recent, rfl, quiet⟩ := stands
  refine ⟨recent, ?_⟩
  induction recent with
  | nil => exact sinceLast_cons harmless
  | cons entry recent ih =>
    rw [List.cons_append, sinceLast_cons (quiet entry List.mem_cons_self),
      ih fun other member => quiet other (List.mem_cons_of_mem entry member)]
    rfl

end EventLog

section Reached

variable {State Event : Type*}

inductive Reached (step : State → Event → Option State) (allowed : State → Event → Prop)
    (start : State) : State → Prop
  | start : Reached step allowed start start
  | step {state next : State} (event : Event) (before : Reached step allowed start state)
      (permitted : allowed state event) (steps : step state event = some next) :
      Reached step allowed start next

theorem Reached.invariant {step : State → Event → Option State}
    {allowed : State → Event → Prop} {start state : State} {Invariant : State → Prop}
    (reached : Reached step allowed start state) (first : Invariant start)
    (kept : ∀ state event next, allowed state event → step state event = some next →
      Invariant state → Invariant next) :
    Invariant state := by
  induction reached with
  | start => exact first
  | step event _ permitted steps ih => exact kept _ event _ permitted steps ih

def runAllowed (step : State → Event → Option State) (allowed : State → Event → Prop)
    [∀ state event, Decidable (allowed state event)] : List Event → State → Option State
  | [], state => some state
  | event :: events, state =>
      if allowed state event then (step state event).bind (runAllowed step allowed events)
      else none

theorem Reached.run {step : State → Event → Option State} {allowed : State → Event → Prop}
    [∀ state event, Decidable (allowed state event)] {events : List Event}
    {start state next : State} (reached : Reached step allowed start state)
    (runs : runAllowed step allowed events state = some next) :
    Reached step allowed start next := by
  induction events generalizing state with
  | nil => exact Option.some.inj runs ▸ reached
  | cons event events ih =>
    rw [runAllowed] at runs
    split at runs
    · obtain ⟨after, steps, runs⟩ := Option.bind_eq_some_iff.mp runs
      exact ih (reached.step event (by assumption) steps) runs
    · contradiction

end Reached

end HeadsetAdk
