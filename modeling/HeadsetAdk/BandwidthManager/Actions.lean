import HeadsetAdk.BandwidthManager.BandwidthManager
import Mathlib.Data.List.Perm.Basic

/-! # What the manager's actions do -/

namespace HeadsetAdk.BandwidthManager

theorem Priority.level_injective {priority priority' : Priority}
    (same : priority.level = priority'.level) : priority = priority' := by
  cases priority <;> cases priority' <;> first | rfl | exact absurd same (by decide)

theorem Priority.mem_all (priority : Priority) : priority ∈ Priority.all := by
  cases priority <;> decide

def Outranked (features : List FeatureInfo) (feature : FeatureInfo) : Prop :=
  ∃ other ∈ features, other.running = true ∧ other.priority.level < feature.priority.level

instance (features : List FeatureInfo) (feature : FeatureInfo) :
    Decidable (Outranked features feature) :=
  inferInstanceAs (Decidable (∃ _ ∈ _, _))

def OutranksAll (features : List FeatureInfo) (priority : Priority) : Prop :=
  ∀ feature ∈ features, feature.running = true → priority.level < feature.priority.level

instance (features : List FeatureInfo) (priority : Priority) :
    Decidable (OutranksAll features priority) :=
  inferInstanceAs (Decidable (∀ _ ∈ _, _))

section Running

variable {features : List FeatureInfo} {feature : FeatureInfo}

theorem runningAt_ne_zero_iff {priority : Priority} :
    runningAt features priority ≠ 0 ↔
      ∃ feature ∈ features, feature.running = true ∧ feature.priority = priority := by
  rw [runningAt, ← Nat.pos_iff_ne_zero, List.countP_pos_iff]
  simp only [Bool.and_eq_true, decide_eq_true_iff]

theorem totalRunning_eq (features : List FeatureInfo) :
    totalRunning features =
      runningAt features .high + runningAt features .medium + runningAt features .low := by
  rw [totalRunning, Priority.all, List.foldl_cons, List.foldl_cons, List.foldl_cons,
    List.foldl_nil, Nat.zero_add]

theorem totalRunning_pos (member : feature ∈ features) (running : feature.running = true) :
    0 < totalRunning features := by
  have counted : runningAt features feature.priority ≠ 0 :=
    runningAt_ne_zero_iff.mpr ⟨feature, member, running, rfl⟩
  rw [totalRunning_eq]
  cases priority : feature.priority <;> rw [priority] at counted <;> omega

theorem one_lt_totalRunning (member : feature ∈ features) (running : feature.running = true)
    (outranked : Outranked features feature) : 1 < totalRunning features := by
  obtain ⟨other, member', running', above⟩ := outranked
  have counted : runningAt features feature.priority ≠ 0 :=
    runningAt_ne_zero_iff.mpr ⟨feature, member, running, rfl⟩
  have counted' : runningAt features other.priority ≠ 0 :=
    runningAt_ne_zero_iff.mpr ⟨other, member', running', rfl⟩
  rw [totalRunning_eq]
  cases priority : feature.priority <;> cases priority' : other.priority <;>
    rw [priority] at counted above <;> rw [priority'] at counted' above <;>
    simp only [Priority.level] at above <;> omega

private theorem highest_of_all (features : List FeatureInfo) (priorities : List Priority)
    (defaultPrio : Priority) :
    let highest := priorities.foldl (fun highest priority =>
      if runningAt features priority ≠ 0 ∧ priority.level < highest.level then priority
      else highest) defaultPrio
    (highest = defaultPrio ∨ runningAt features highest ≠ 0) ∧ highest.level ≤ defaultPrio.level ∧
      ∀ priority ∈ priorities, runningAt features priority ≠ 0 →
        highest.level ≤ priority.level := by
  induction priorities generalizing defaultPrio with
  | nil => exact ⟨Or.inl rfl, Nat.le_refl _, nofun⟩
  | cons priority priorities ih =>
    dsimp only [List.foldl_cons]
    by_cases higher : runningAt features priority ≠ 0 ∧ priority.level < defaultPrio.level
    · rw [if_pos higher]
      obtain ⟨kind, bound, below⟩ := ih priority
      refine ⟨Or.inr ?_, Nat.le_trans bound (Nat.le_of_lt higher.2), ?_⟩
      · cases kind with
        | inl same =>
          rw [same]
          exact higher.1
        | inr counted => exact counted
      · intro other member counted
        cases List.mem_cons.mp member with
        | inl same =>
          rw [same]
          exact bound
        | inr member => exact below other member counted
    · rw [if_neg higher]
      obtain ⟨kind, bound, below⟩ := ih defaultPrio
      refine ⟨kind, bound, fun other member counted => ?_⟩
      cases List.mem_cons.mp member with
      | inl same =>
        rw [same] at counted ⊢
        exact Nat.le_trans bound (Nat.not_lt.mp fun above => higher ⟨counted, above⟩)
      | inr member => exact below other member counted

theorem getHighestRunningFeaturePrio_spec (features : List FeatureInfo)
    (defaultPrio : Priority) :
    (getHighestRunningFeaturePrio features defaultPrio = defaultPrio ∨
        ∃ feature ∈ features, feature.running = true ∧
          feature.priority = getHighestRunningFeaturePrio features defaultPrio) ∧
      (getHighestRunningFeaturePrio features defaultPrio).level ≤ defaultPrio.level ∧
      ∀ feature ∈ features, feature.running = true →
        (getHighestRunningFeaturePrio features defaultPrio).level ≤ feature.priority.level := by
  obtain ⟨kind, bound, below⟩ := highest_of_all features Priority.all defaultPrio
  refine ⟨kind.imp_right runningAt_ne_zero_iff.mp, bound, fun feature member running => ?_⟩
  exact below feature.priority feature.priority.mem_all
    (runningAt_ne_zero_iff.mpr ⟨feature, member, running, rfl⟩)

theorem priority_eq_highest (member : feature ∈ features) (running : feature.running = true)
    (top : ¬ Outranked features feature) :
    feature.priority = getHighestRunningFeaturePrio features .low := by
  obtain ⟨kind, bound, below⟩ := getHighestRunningFeaturePrio_spec features .low
  apply Priority.level_injective
  refine Nat.le_antisymm ?_ (below feature member running)
  rcases kind with lowest | ⟨other, member', running', same⟩
  · rw [lowest]
    cases feature.priority <;> decide
  · rw [← same]
    exact Nat.not_lt.mp fun above => top ⟨other, member', running', above⟩

end Running

section Arranging

variable {features : List FeatureInfo}

theorem arrangeFeatureSlot_perm (features : List FeatureInfo) (slot : Nat) :
    (arrangeFeatureSlot features slot).1.Perm features := by
  rw [arrangeFeatureSlot]
  split
  · rfl
  rename_i feature here
  obtain ⟨inside, same⟩ := List.getElem?_eq_some_iff.mp here
  split
  · split
    · rfl
    rename_i free found
    split
    · rfl
    rename_i other there
    obtain ⟨inside', same'⟩ := List.getElem?_eq_some_iff.mp there
    split
    · rw [← same, ← same']
      exact List.set_set_perm inside inside'
    · rfl
  · split
    · rw [← same]
      exact (List.perm_append_singleton _ _).trans
        (List.getElem_cons_eraseIdx_perm inside)
    · rfl

end Arranging

section Handling

variable {features : List FeatureInfo}

def FeatureInfo.throttledBelow (priority : Priority) (feature : FeatureInfo) : FeatureInfo :=
  if priority.level < feature.priority.level ∧ feature.running then
    if !feature.throttleRequired then feature.invoke true else feature
  else feature

def FeatureInfo.releasedAt (priority : Priority) (feature : FeatureInfo) : FeatureInfo :=
  if priority = feature.priority ∧ feature.running then
    if feature.throttleRequired then feature.invoke false else feature
  else feature

theorem FeatureInfo.throttledBelow_cases (priority : Priority) (feature : FeatureInfo) :
    (priority.level < feature.priority.level ∧ feature.running = true ∧
        feature.throttleRequired = false ∧
        feature.throttledBelow priority = feature.invoke true) ∨
      (feature.throttledBelow priority = feature ∧
        (priority.level < feature.priority.level → feature.running = true →
          feature.throttleRequired = true)) := by
  rw [throttledBelow]
  split
  · rename_i below
    split
    · rename_i free
      exact Or.inl ⟨below.1, below.2, by simpa using free, rfl⟩
    · rename_i throttled
      exact Or.inr ⟨rfl, fun _ _ => by simpa using throttled⟩
  · rename_i notBelow
    exact Or.inr ⟨rfl, fun below running => absurd ⟨below, running⟩ notBelow⟩

theorem FeatureInfo.releasedAt_cases (priority : Priority) (feature : FeatureInfo) :
    (priority = feature.priority ∧ feature.running = true ∧ feature.throttleRequired = true ∧
        feature.releasedAt priority = feature.invoke false) ∨
      (feature.releasedAt priority = feature ∧
        (priority = feature.priority → feature.running = true →
          feature.throttleRequired = false)) := by
  rw [releasedAt]
  split
  · rename_i here
    split
    · rename_i throttled
      exact Or.inl ⟨here.1, here.2, throttled, rfl⟩
    · rename_i free
      exact Or.inr ⟨rfl, fun _ _ => by simpa using free⟩
  · rename_i elsewhere
    exact Or.inr ⟨rfl, fun same running => absurd ⟨same, running⟩ elsewhere⟩

theorem handleAction_start (several : 1 < totalRunning features) (actingPrio : Priority) :
    ∃ priority, handleAction features actingPrio .start =
        features.map (FeatureInfo.throttledBelow priority) ∧
      (priority = actingPrio ∨
        ∃ feature ∈ features, feature.running = true ∧ feature.priority = priority) ∧
      priority.level ≤ actingPrio.level ∧
      ∀ feature ∈ features, feature.running = true → priority.level ≤ feature.priority.level := by
  rw [handleAction.eq_def]
  dsimp only
  rw [if_pos several]
  cases actingPrio with
  | high => exact ⟨.high, rfl, Or.inl rfl, Nat.le_refl _, fun _ _ _ => Nat.zero_le _⟩
  | medium => exact ⟨_, rfl, getHighestRunningFeaturePrio_spec features .medium⟩
  | low => exact ⟨_, rfl, getHighestRunningFeaturePrio_spec features .low⟩

theorem handleAction_start_alone (alone : ¬ 1 < totalRunning features)
    (actingPrio : Priority) : handleAction features actingPrio .start = features := by
  rw [handleAction.eq_def]
  exact if_neg alone

theorem handleAction_stop (features : List FeatureInfo) (actingPrio : Priority) :
    handleAction features actingPrio .stop = if 0 < totalRunning features ∧
          actingPrio.level < (getHighestRunningFeaturePrio features .low).level then
        features.map (FeatureInfo.releasedAt (getHighestRunningFeaturePrio features .low))
      else features := by
  rw [handleAction.eq_def]
  dsimp only
  by_cases runs : 0 < totalRunning features
  · rw [if_pos runs]
    by_cases above : actingPrio.level < (getHighestRunningFeaturePrio features .low).level
    · rw [if_pos above, if_pos ⟨runs, above⟩]
      rfl
    · rw [if_neg above, if_neg fun both => above both.2]
  · rw [if_neg runs, if_neg fun both => runs both.1]

end Handling

end HeadsetAdk.BandwidthManager
