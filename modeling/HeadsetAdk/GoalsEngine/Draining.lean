import HeadsetAdk.GoalsEngine.Decisions
import Mathlib.Logic.Relation

/-! # The queue drains -/

namespace HeadsetAdk.GoalsEngine

open GoalSet
open List (append_assoc append_nil)
open Relation (ReflTransGen)

variable {Data : Type} {rules : RuleTable} {goals : List GoalEntry} {s s' : GoalSet Data}
  {activated : List (GoalId × Data)} {discarded : List (Discard Data)}

/-- A call that brings no new decision: an active goal ends, or the queue task delivers. -/
inductive Serves (rules : RuleTable) (s : GoalSet Data) : GoalSet Data → Prop
  | ends {goal : GoalId} (active : s.activeGoalsMask.getLsbD goal = true) :
      Serves rules s (s.clearGoal goal)
  | delivers {s' : GoalSet Data} {procs : Procedures} {index : Nat}
      (callable : Callable s (.deliver procs index))
      (own : ExclusiveCancelsAreOwn rules s (.deliver procs index))
      (stepped : step rules s (.deliver procs index) = some s') : Serves rules s s'

/-- The messages weigh more than all the goals that may be active. -/
def work (s : GoalSet Data) : Nat := s.queueTask.length * 2 ^ 64 + s.activeGoalsMask.toNat

theorem Serves.work_lt (serves : Serves rules s s') (invariant : QueueInvariant rules s) :
    work s' < work s ∧ s'.queueTask.length ≤ s.queueTask.length := by
  cases serves with
  | @ends goal active =>
    refine ⟨Nat.add_lt_add_left (Nat.lt_of_le_of_ne ?_ fun same => ?_) _, Nat.le_refl _⟩
    · exact (BitVec.toNat_and _ _).trans_le Nat.and_le_left
    · rw [← BitVec.eq_of_toNat_eq same, clearGoal, removeGoalFromMask_getLsbD] at active
      simp at active
  | @delivers _ procs index callable own stepped =>
    cases found : s.queueTask[index]? with
    | none => simp [Callable, found] at callable
    | some message =>
      simp only [Callable, found] at callable
      obtain ⟨final, stepped', -, sublist⟩ := invariant.deliver_starts found callable
      cases stepped.symm.trans stepped'
      have shorter := sublist.length_le
      rw [List.length_eraseIdx_of_lt (List.getElem?_eq_some_iff.mp found).1] at shorter
      have some := List.length_pos_of_mem (List.mem_of_getElem? found)
      have mask := s'.activeGoalsMask.isLt
      simp only [work]
      omega

theorem Serves.recorded (serves : Serves rules s s')
    (recorded : Recorded rules (ExclusiveCancelsAreOwn rules) goals s activated discarded) :
    ∃ discarded', Recorded rules (ExclusiveCancelsAreOwn rules) goals s' activated
      (discarded ++ discarded') := by
  have reachable := recorded.reachable
  have bounded := (serves.work_lt reachable.queueInvariant).2.trans_lt reachable.queueTask_bounded
  rw [← append_nil activated]
  cases serves with
  | @ends goal active =>
    have callable : Callable s (.clear goal) := trivial
    exact ⟨_, recorded.call callable trivial rfl bounded⟩
  | delivers callable own stepped => exact ⟨_, recorded.call callable own stepped bounded⟩

/-- Procedures that confirm nothing before they return. -/
def quietly : Procedures := ⟨fun _ => [], fun _ => []⟩

theorem QueueInvariant.drained (invariant : QueueInvariant rules s)
    (stuck : ∀ next, ¬ Serves rules s next) : s.queueTask = [] ∧ s.activeGoalsMask = 0 := by
  have idle : s.activeGoalsMask = 0 := by
    refine BitVec.eq_of_getLsbD_eq fun goal _ => ?_
    rw [Bool.eq_false_iff.mpr fun active => stuck _ (.ends active)]
    simp
  refine ⟨List.eq_nil_iff_forall_not_mem.mpr fun message member => ?_, idle⟩
  obtain ⟨index, found⟩ := List.mem_iff_getElem?.mp member
  have unlocked : (s.pendingGoals message.lockSlot).lock = 0 := by
    refine (invariant.agree.lockOfMask _).mpr ?_
    rw [invariant.locks _ (invariant.agree.messageSlot message member).1]
    simp [waitMaskFor, idle]
  obtain ⟨next, (stepped : GoalsEngine.step rules s (.deliver quietly index) = some next), -⟩ :=
    invariant.deliver_starts found unlocked
  refine stuck next (.delivers ?_ ?_ stepped)
  · simpa only [Callable, found]
  · simp only [ExclusiveCancelsAreOwn, found]
    exact fun _ _ cleared member => absurd member List.not_mem_nil

/-- However a run goes on from here without new decisions, it ends, and where it cannot go on
every decision has been started or given up. -/
theorem Recorded.finishes
    (recorded : Recorded rules (ExclusiveCancelsAreOwn rules) goals s activated discarded) :
    Acc (fun next s => Serves rules s next) s ∧
      ∀ s', ReflTransGen (Serves rules) s s' → (∀ next, ¬ Serves rules s' next) →
        s'.activeGoalsMask = 0 ∧ s'.queueTask = [] ∧ ∃ discarded',
          Recorded rules (ExclusiveCancelsAreOwn rules) goals s' activated
            (discarded ++ discarded') ∧
          activated.Perm (s'.started ++ (discarded ++ discarded').map Discard.decision) := by
  constructor
  · induction size : work s using Nat.strong_induction_on generalizing s discarded with
    | h n ih =>
      subst size
      refine ⟨s, fun next serves => ?_⟩
      obtain ⟨_, after⟩ := serves.recorded recorded
      exact ih _ (serves.work_lt recorded.reachable.queueInvariant).1 after rfl
  · intro s' run stuck
    obtain ⟨discarded', after⟩ : ∃ discarded', Recorded rules (ExclusiveCancelsAreOwn rules)
        goals s' activated (discarded ++ discarded') := by
      clear stuck
      induction run with
      | refl => exact ⟨[], (append_nil discarded).symm ▸ recorded⟩
      | tail _ serves ih =>
        obtain ⟨earlier, before⟩ := ih
        obtain ⟨now, after⟩ := serves.recorded before
        exact ⟨earlier ++ now, append_assoc discarded earlier now ▸ after⟩
    obtain ⟨queue, idle⟩ := after.reachable.queueInvariant.drained stuck
    have conserved := after.conserves.2
    rw [pendingDecisions_of_queueTask queue, List.map_nil, append_nil] at conserved
    exact ⟨idle, queue, discarded', after, conserved⟩

theorem contended_finishes :
    ∃ s : GoalSet Unit, s.queueTask.length = 1 ∧ s.activeGoalsMask = 2 ∧
      Acc (fun next s => Serves successorRules s next) s := by
  have idle : Recorded successorRules (ExclusiveCancelsAreOwn successorRules)
      (List.replicate 3 default) (_ : GoalSet Unit) _ _ := .create rfl
  have active := recorded_after (.activate quietly 1 ()) idle (by decide) (by decide) rfl
    (by decide)
  have queued := recorded_after (.activate quietly 2 ()) active (by decide) (by decide) rfl
    (by decide)
  exact ⟨_, rfl, rfl, (Recorded.finishes queued).1⟩

end HeadsetAdk.GoalsEngine
