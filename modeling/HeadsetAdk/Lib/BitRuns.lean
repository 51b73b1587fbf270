import Mathlib.Data.List.Induction

/-!
# Maximal runs of set bits

The runs of set bits below a bound are built while the bits are visited in order: the closed
ones, and the one that is still open at the bound.
-/

namespace HeadsetAdk.BitRuns

variable (bits : Nat → Bool)

structure MaximalRun (bound : Nat) (run : Nat × Nat) : Prop where
  nonempty : 0 < run.2
  inside : run.1 + run.2 ≤ bound
  set : ∀ index, run.1 ≤ index → index < run.1 + run.2 → bits index = true
  left : run.1 = 0 ∨ bits (run.1 - 1) = false
  right : run.1 + run.2 = bound ∨ bits (run.1 + run.2) = false

def openRun : Nat → Nat
  | 0 => 0
  | bound + 1 => if bits bound then openRun bound + 1 else 0

def closedRuns : Nat → List (Nat × Nat)
  | 0 => []
  | bound + 1 =>
      if bits bound = false ∧ 0 < openRun bits bound then
        closedRuns bound ++ [(bound - openRun bits bound, openRun bits bound)]
      else closedRuns bound

def runs (bound : Nat) : List (Nat × Nat) :=
  if 0 < openRun bits bound then
    closedRuns bits bound ++ [(bound - openRun bits bound, openRun bits bound)]
  else closedRuns bits bound

def total : List (Nat × Nat) → Nat
  | [] => 0
  | run :: rest => run.2 + total rest

variable {bits} {bound : Nat} {run : Nat × Nat}

theorem openRun_le : ∀ bound, openRun bits bound ≤ bound
  | 0 => Nat.le_refl 0
  | bound + 1 => by
      rw [openRun]
      split
      · exact Nat.succ_le_succ (openRun_le bound)
      · exact Nat.zero_le _

theorem openRun_set : ∀ {bound index : Nat}, bound - openRun bits bound ≤ index →
    index < bound → bits index = true := by
  intro bound
  induction bound with
  | zero => exact fun _ below => absurd below (Nat.not_lt_zero _)
  | succ bound ih =>
    intro index above below
    rw [openRun] at above
    split at above
    case isTrue last =>
      by_cases here : index = bound
      · rw [here, last]
      · exact ih (by omega) (by omega)
    case isFalse => omega

theorem openRun_left : ∀ bound,
    openRun bits bound = bound ∨ bits (bound - openRun bits bound - 1) = false
  | 0 => .inl rfl
  | bound + 1 => by
      rw [openRun]
      split
      case isTrue =>
        refine (openRun_left bound).imp (congrArg Nat.succ) fun clear => ?_
        rw [Nat.add_sub_add_right]
        exact clear
      case isFalse clear => exact .inr ((Bool.not_eq_true _).mp clear)

theorem eq_openRun {start length : Nat} (ends : start + length = bound)
    (set : ∀ index, start ≤ index → index < start + length → bits index = true)
    (left : start = 0 ∨ bits (start - 1) = false) : length = openRun bits bound := by
  have le : openRun bits bound ≤ bound := openRun_le bound
  rcases Nat.lt_trichotomy length (openRun bits bound) with shorter | same | longer
  · -- The bit left of the run belongs to the open run.
    have inside : bits (start - 1) = true := @openRun_set bits bound _ (by omega) (by omega)
    rcases left with zero | clear
    · omega
    · exact absurd (inside.symm.trans clear) (by decide)
  · exact same
  · rcases @openRun_left bits bound with all | clear
    · omega
    · have inside := set (bound - openRun bits bound - 1) (by omega) (by omega)
      exact absurd (inside.symm.trans clear) (by decide)

theorem openRun_of_clear (clear : bits bound = false) : openRun bits (bound + 1) = 0 := by
  rw [openRun, clear]
  rfl

theorem openRun_of_set (set : bits bound = true) :
    openRun bits (bound + 1) = openRun bits bound + 1 := by
  rw [openRun, set]
  rfl

theorem mem_closedRuns : ∀ {bound : Nat}, run ∈ closedRuns bits bound ↔
    MaximalRun bits bound run ∧ run.1 + run.2 < bound := by
  intro bound
  induction bound with
  | zero =>
    exact iff_of_false List.not_mem_nil fun both => absurd both.2 (Nat.not_lt_zero _)
  | succ bound ih =>
    have earlier (ends : run.1 + run.2 < bound) :
        MaximalRun bits (bound + 1) run ↔ MaximalRun bits bound run := by
      constructor
      · intro maximal
        exact ⟨maximal.nonempty, Nat.le_of_lt ends, maximal.set, maximal.left,
          .inr (maximal.right.resolve_left (by omega))⟩
      · intro maximal
        exact ⟨maximal.nonempty, by omega, maximal.set, maximal.left,
          .inr (maximal.right.resolve_left (by omega))⟩
    have last (ends : run.1 + run.2 = bound) : MaximalRun bits (bound + 1) run ↔
        (bits bound = false ∧ 0 < openRun bits bound) ∧
          run = (bound - openRun bits bound, openRun bits bound) := by
      constructor
      · intro maximal
        have length := eq_openRun ends maximal.set maximal.left
        have clear := maximal.right.resolve_left (by omega)
        rw [ends] at clear
        refine ⟨⟨clear, length ▸ maximal.nonempty⟩, Prod.ext ?_ length⟩
        show run.1 = bound - openRun bits bound
        omega
      · rintro ⟨⟨clear, positive⟩, rfl⟩
        have le : openRun bits bound ≤ bound := openRun_le bound
        have ends' : bound - openRun bits bound + openRun bits bound = bound := by omega
        refine ⟨positive, by dsimp only; omega, fun index above below => ?_, ?_, .inr ?_⟩
        · exact openRun_set above (by dsimp only at below; omega)
        · refine (openRun_left bound).imp_left fun all => ?_
          show bound - openRun bits bound = 0
          omega
        · rw [ends', clear]
    rw [closedRuns]
    by_cases closes : bits bound = false ∧ 0 < openRun bits bound
    · rw [if_pos closes, List.mem_append, List.mem_singleton, ih]
      constructor
      · rintro (⟨maximal, ends⟩ | new)
        · exact ⟨(earlier ends).mpr maximal, by omega⟩
        · have le : openRun bits bound ≤ bound := openRun_le bound
          have ends : run.1 + run.2 = bound := by
            rw [new]
            dsimp only
            omega
          exact ⟨(last ends).mpr ⟨closes, new⟩, by omega⟩
      · rintro ⟨maximal, ends⟩
        rcases Nat.lt_succ_iff_lt_or_eq.mp ends with before | here
        · exact .inl ⟨(earlier before).mp maximal, before⟩
        · exact .inr ((last here).mp maximal).2
    · rw [if_neg closes, ih]
      constructor
      · rintro ⟨maximal, ends⟩
        exact ⟨(earlier ends).mpr maximal, by omega⟩
      · rintro ⟨maximal, ends⟩
        rcases Nat.lt_succ_iff_lt_or_eq.mp ends with before | here
        · exact ⟨(earlier before).mp maximal, before⟩
        · exact absurd ((last here).mp maximal).1 closes

theorem mem_runs : run ∈ runs bits bound ↔ MaximalRun bits bound run := by
  have le : openRun bits bound ≤ bound := openRun_le bound
  have last (ends : run.1 + run.2 = bound) : MaximalRun bits bound run ↔
      0 < openRun bits bound ∧ run = (bound - openRun bits bound, openRun bits bound) := by
    constructor
    · intro maximal
      have length := eq_openRun ends maximal.set maximal.left
      refine ⟨length ▸ maximal.nonempty, Prod.ext ?_ length⟩
      show run.1 = bound - openRun bits bound
      omega
    · rintro ⟨positive, rfl⟩
      refine ⟨positive, by dsimp only; omega, fun index above below => ?_, ?_, .inl ends⟩
      · exact openRun_set above (by dsimp only at below; omega)
      · refine (openRun_left bound).imp_left fun all => ?_
        show bound - openRun bits bound = 0
        omega
  rw [runs]
  split
  case isTrue positive =>
    rw [List.mem_append, List.mem_singleton, mem_closedRuns]
    constructor
    · rintro (⟨maximal, _⟩ | new)
      · exact maximal
      · have ends : run.1 + run.2 = bound := by
          rw [new]
          dsimp only
          omega
        exact (last ends).mpr ⟨positive, new⟩
    · intro maximal
      rcases Nat.lt_or_eq_of_le maximal.inside with before | here
      · exact .inl ⟨maximal, before⟩
      · exact .inr ((last here).mp maximal).2
  case isFalse none =>
    rw [mem_closedRuns]
    refine ⟨And.left, fun maximal => ⟨maximal, ?_⟩⟩
    rcases Nat.lt_or_eq_of_le maximal.inside with before | here
    · exact before
    · exact absurd ((last here).mp maximal).1 none

/-- A run lies before another with a clear bit between them. -/
def Apart (first second : Nat × Nat) : Prop := first.1 + first.2 < second.1

theorem closedRuns_apart : ∀ bound, (closedRuns bits bound).Pairwise Apart
  | 0 => List.Pairwise.nil
  | bound + 1 => by
      rw [closedRuns]
      split
      case isTrue closes =>
        exact append_apart closes.2 (closedRuns_apart bound)
      case isFalse => exact closedRuns_apart bound
where
  append_apart {bound : Nat} (positive : 0 < openRun bits bound)
      (apart : (closedRuns bits bound).Pairwise Apart) :
      (closedRuns bits bound ++ [(bound - openRun bits bound, openRun bits bound)]).Pairwise
        Apart := by
    refine List.pairwise_append.mpr ⟨apart, List.pairwise_singleton _ _, fun first member other
      single => ?_⟩
    rw [List.mem_singleton.mp single]
    obtain ⟨maximal, ends⟩ := mem_closedRuns.mp member
    have clear := maximal.right.resolve_left (by omega)
    show first.1 + first.2 < bound - openRun bits bound
    by_contra reaches
    have inside : bits (first.1 + first.2) = true := openRun_set (by omega) ends
    exact absurd (inside.symm.trans clear) (by decide)

theorem runs_apart (bound : Nat) : (runs bits bound).Pairwise Apart := by
  rw [runs]
  split
  case isTrue positive => exact closedRuns_apart.append_apart positive (closedRuns_apart bound)
  case isFalse => exact closedRuns_apart bound

theorem runs_succ_of_clear (clear : bits bound = false) :
    runs bits (bound + 1) = runs bits bound := by
  rw [runs, openRun_of_clear clear, if_neg (Nat.lt_irrefl 0), closedRuns, runs]
  by_cases positive : 0 < openRun bits bound
  · rw [if_pos ⟨clear, positive⟩, if_pos positive]
  · rw [if_neg fun both => positive both.2, if_neg positive]

theorem closedRuns_succ_of_set (set : bits bound = true) :
    closedRuns bits (bound + 1) = closedRuns bits bound := by
  rw [closedRuns, if_neg fun both => Bool.noConfusion (set.symm.trans both.1)]

theorem closedRuns_succ_of_clear (clear : bits bound = false) :
    closedRuns bits (bound + 1) = runs bits bound := by
  rw [← runs_succ_of_clear clear, runs, openRun_of_clear clear, if_neg (Nat.lt_irrefl 0)]

theorem runs_of_closed (none : openRun bits bound = 0) :
    runs bits bound = closedRuns bits bound := by
  rw [runs, none, if_neg (Nat.lt_irrefl 0)]

theorem runs_of_open (some : openRun bits bound ≠ 0) : runs bits bound =
    closedRuns bits bound ++ [(bound - openRun bits bound, openRun bits bound)] := by
  rw [runs, if_pos (Nat.pos_of_ne_zero some)]

theorem runs_succ_of_set (set : bits bound = true) : runs bits (bound + 1) =
    closedRuns bits bound ++ [(bound - openRun bits bound, openRun bits bound + 1)] := by
  rw [runs, openRun_of_set set, if_pos (Nat.succ_pos _), closedRuns_succ_of_set set,
    Nat.add_sub_add_right]

theorem length_runs_succ_of_set (set : bits bound = true) : (runs bits (bound + 1)).length =
    if openRun bits bound = 0 then (runs bits bound).length + 1 else (runs bits bound).length := by
  rw [runs_succ_of_set set, List.length_append, List.length_singleton, runs]
  split
  case isTrue none => rw [none, if_neg (Nat.lt_irrefl 0)]
  case isFalse some =>
    rw [if_pos (Nat.pos_of_ne_zero some), List.length_append, List.length_singleton]

/-- Clear bits at the end change nothing. -/
theorem runs_of_clear {count : Nat} (clear : ∀ index, bound ≤ index → bits index = false) :
    runs bits (bound + count) = runs bits bound := by
  induction count with
  | zero => rfl
  | succ count ih =>
    rw [← ih, ← Nat.add_assoc, runs_succ_of_clear (clear (bound + count) (Nat.le_add_right _ _))]

theorem total_append (first second : List (Nat × Nat)) :
    total (first ++ second) = total first + total second := by
  induction first with
  | nil => exact (Nat.zero_add _).symm
  | cons run first ih => rw [List.cons_append, total, total, ih, Nat.add_assoc]

theorem total_perm {first second : List (Nat × Nat)} (same : first.Perm second) :
    total first = total second := by
  induction same with
  | nil => rfl
  | cons run _ ih => rw [total, total, ih]
  | swap run other rest => simp only [total, Nat.add_left_comm]
  | trans _ _ first second => exact first.trans second

theorem total_closedRuns (bound : Nat) :
    total (closedRuns bits bound) + openRun bits bound = (List.range bound).countP bits := by
  induction bound with
  | zero => rfl
  | succ bound ih =>
    rw [List.range_succ, List.countP_append, ← ih, closedRuns, openRun, List.countP_singleton]
    cases last : bits bound with
    | true =>
      rw [if_neg fun both => Bool.noConfusion both.1]
      exact (Nat.add_assoc _ _ _).symm
    | false =>
      by_cases positive : 0 < openRun bits bound
      · rw [if_pos ⟨rfl, positive⟩, total_append]
        rfl
      · rw [if_neg fun both => positive both.2, Nat.eq_zero_of_not_pos positive]
        rfl

/-- The runs have as many bits as are set. -/
theorem total_runs (bound : Nat) : total (runs bits bound) = (List.range bound).countP bits := by
  rw [← total_closedRuns, runs]
  split
  case isTrue => rw [total_append]; rfl
  case isFalse none => rw [Nat.eq_zero_of_not_pos none]; rfl

theorem total_runs_le (bound : Nat) : total (runs bits bound) ≤ bound := by
  rw [total_runs]
  exact Nat.le_trans List.countP_le_length (Nat.le_of_eq List.length_range)

theorem length_le_total {list : List (Nat × Nat)} (nonempty : ∀ run ∈ list, 0 < run.2) :
    list.length ≤ total list := by
  induction list with
  | nil => exact Nat.le_refl 0
  | cons run list ih =>
    have positive := nonempty run List.mem_cons_self
    have rest := ih fun other member => nonempty other (List.mem_cons_of_mem _ member)
    rw [List.length_cons, total]
    omega

/-- The first of the longest runs, or `(0, 0)` -/
def longest (list : List (Nat × Nat)) : Nat × Nat :=
  list.foldl (fun best run => if best.2 < run.2 then run else best) (0, 0)

theorem longest_append (list : List (Nat × Nat)) (run : Nat × Nat) :
    longest (list ++ [run]) = if (longest list).2 < run.2 then run else longest list := by
  rw [longest, List.foldl_append]
  rfl

theorem longest_mem (list : List (Nat × Nat)) : longest list = (0, 0) ∨ longest list ∈ list := by
  induction list using List.reverseRecOn with
  | nil => exact .inl rfl
  | append_singleton list run ih =>
    rw [longest_append]
    split
    · exact .inr (List.mem_append_right _ (List.mem_singleton_self run))
    · exact ih.imp_right (List.mem_append_left _)

theorem le_longest {list : List (Nat × Nat)} (member : run ∈ list) : run.2 ≤ (longest list).2 := by
  induction list using List.reverseRecOn with
  | nil => exact absurd member List.not_mem_nil
  | append_singleton list last ih =>
    rw [longest_append]
    rcases List.mem_append.mp member with earlier | here
    · have known := ih earlier
      split <;> omega
    · rw [List.mem_singleton.mp here]
      split <;> omega

end HeadsetAdk.BitRuns
