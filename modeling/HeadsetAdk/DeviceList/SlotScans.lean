import HeadsetAdk.DeviceList.DeviceList
import HeadsetAdk.Lib.BoundedSet

/-! # What the loops over the slots do -/

namespace HeadsetAdk.DeviceLists

open List (not_mem_nil mem_cons_self length_append length_cons nodup_cons)

variable {Device : Type*} [DecidableEq Device]

section Loops

theorem addToSlots_cases (device : Option Device) (slots : List (Option Device)) :
    (∃ before behind, slots = before ++ none :: behind ∧ none ∉ before ∧ device ∉ before ∧
      addToSlots device slots = (before ++ device :: behind, true)) ∨
    (∃ before behind, slots = before ++ device :: behind ∧ none ∉ before ∧ device ≠ none ∧
      addToSlots device slots = (slots, false)) ∨
    (none ∉ slots ∧ device ∉ slots ∧ addToSlots device slots = (slots, false)) := by
  induction slots with
  | nil => exact Or.inr (Or.inr ⟨not_mem_nil, not_mem_nil, rfl⟩)
  | cons slot slots ih =>
    by_cases empty : slot = none
    · left
      refine ⟨[], slots, by rw [empty]; rfl, not_mem_nil, not_mem_nil, ?_⟩
      rw [addToSlots, if_pos empty]
      rfl
    by_cases same : slot = device
    · right
      left
      refine ⟨[], slots, by rw [same]; rfl, not_mem_nil, same ▸ empty, ?_⟩
      rw [addToSlots, if_neg empty, if_pos same]
    have unfolded : addToSlots device (slot :: slots) =
        (slot :: (addToSlots device slots).1, (addToSlots device slots).2) := by
      rw [addToSlots, if_neg empty, if_neg same]
    have notNone {tail : List (Option Device)} (absent : none ∉ tail) : none ∉ slot :: tail :=
      List.not_mem_cons_of_ne_of_not_mem (Ne.symm empty) absent
    have notDevice {tail : List (Option Device)} (absent : device ∉ tail) : device ∉ slot :: tail :=
      List.not_mem_cons_of_ne_of_not_mem (Ne.symm same) absent
    rcases ih with ⟨before, behind, split, noHole, absent, added⟩ |
      ⟨before, behind, split, noHole, device', refused⟩ | ⟨noHole, absent, refused⟩
    · left
      refine ⟨slot :: before, behind, by rw [split]; rfl, notNone noHole, notDevice absent, ?_⟩
      rw [unfolded, added]
      rfl
    · right
      left
      refine ⟨slot :: before, behind, by rw [split]; rfl, notNone noHole, device', ?_⟩
      rw [unfolded, refused]
    · right
      right
      exact ⟨notNone noHole, notDevice absent, by rw [unfolded, refused]⟩

theorem removeFromSlots_cases (device : Option Device) (slots : List (Option Device)) :
    (∃ before behind, slots = before ++ device :: behind ∧
      removeFromSlots device slots = before ++ none :: behind) ∨
    (device ∉ slots ∧ removeFromSlots device slots = slots) := by
  induction slots with
  | nil => exact Or.inr ⟨not_mem_nil, rfl⟩
  | cons slot slots ih =>
    by_cases same : slot = device
    · left
      refine ⟨[], slots, by rw [same]; rfl, ?_⟩
      rw [removeFromSlots, if_pos same]
      rfl
    have unfolded : removeFromSlots device (slot :: slots) =
        slot :: removeFromSlots device slots := by
      rw [removeFromSlots, if_neg same]
    rcases ih with ⟨before, behind, split, removed⟩ | ⟨absent, kept⟩
    · left
      exact ⟨slot :: before, behind, by rw [split]; rfl, by rw [unfolded, removed]; rfl⟩
    · right
      exact ⟨List.not_mem_cons_of_ne_of_not_mem (Ne.symm same) absent, by rw [unfolded, kept]⟩

omit [DecidableEq Device] in
theorem countSlots_eq (slots : List (Option Device)) :
    countSlots slots = slots.reduceOption.length := by
  induction slots with
  | nil => rfl
  | cons slot slots ih =>
    cases slot with
    | none => exact ih
    | some device => exact congrArg (· + 1) ih

omit [DecidableEq Device] in
theorem devicesOfSlots_eq (slots : List (Option Device)) :
    devicesOfSlots slots = slots.reduceOption := by
  induction slots with
  | nil => rfl
  | cons slot slots ih =>
    cases slot with
    | none => exact ih
    | some device => exact congrArg (device :: ·) ih

theorem slotsContain_eq (device : Option Device) (slots : List (Option Device)) :
    slotsContain device slots = decide (device ∈ slots) := by
  induction slots with
  | nil => rfl
  | cons slot slots ih =>
    by_cases same : slot = device
    · rw [slotsContain, if_pos same, same, eq_comm, decide_eq_true_iff]
      exact mem_cons_self
    · rw [slotsContain, if_neg same, ih, decide_eq_decide, List.mem_cons,
        or_iff_right (Ne.symm same)]

omit [DecidableEq Device] in
theorem matchesInSlots_all (matching : Device → Bool) (slots : List (Option Device)) :
    matchesInSlots matching false slots = slots.reduceOption.filter matching := by
  induction slots with
  | nil => rfl
  | cons slot slots ih =>
    cases slot with
    | none => exact ih
    | some device =>
      rw [matchesInSlots, List.reduceOption_cons_of_some]
      by_cases found : matching device = true
      · rw [if_pos found, if_neg Bool.false_ne_true, List.filter_cons_of_pos found, ih]
      · rw [if_neg found, List.filter_cons_of_neg found, ih]

omit [DecidableEq Device] in
theorem matchesInSlots_first (matching : Device → Bool) (slots : List (Option Device)) :
    (matchesInSlots matching true slots).head? = slots.reduceOption.find? matching := by
  induction slots with
  | nil => rfl
  | cons slot slots ih =>
    cases slot with
    | none => exact ih
    | some device =>
      rw [matchesInSlots, List.reduceOption_cons_of_some]
      by_cases found : matching device = true
      · rw [if_pos found, if_pos rfl, List.find?_cons_of_pos found]
        rfl
      · rw [if_neg found, List.find?_cons_of_neg found, ih]

variable {device : Option Device} {slots : List (Option Device)}

theorem indexInSlots_absent (absent : device ∉ slots) (index : Nat) :
    indexInSlots device index slots = 0xFF := by
  induction slots generalizing index with
  | nil => rfl
  | cons slot slots ih =>
    rw [indexInSlots, if_neg (Ne.symm (List.ne_of_not_mem_cons absent))]
    exact ih (List.not_mem_of_not_mem_cons absent) (index + 1)

theorem indexInSlots_present (present : device ∈ slots) (index : Nat) :
    ∃ offset, indexInSlots device index slots = index + offset ∧
      offset < slots.length ∧ slots[offset]? = some device := by
  induction slots generalizing index with
  | nil => exact absurd present not_mem_nil
  | cons slot slots ih =>
    by_cases same : slot = device
    · refine ⟨0, ?_, Nat.zero_lt_succ _, by rw [same]; rfl⟩
      rw [indexInSlots, if_pos same]
      rfl
    · have behind := (List.mem_cons.mp present).resolve_left (Ne.symm same)
      obtain ⟨offset, found, inside, here⟩ := ih behind (index + 1)
      refine ⟨offset + 1, ?_, Nat.succ_lt_succ inside, by rw [List.getElem?_cons_succ, here]⟩
      rw [indexInSlots, if_neg same, found]
      omega

end Loops

structure Represents (slots : List (Option Device)) (set : BoundedSet Device) : Prop where
  capacity : slots.length = set.capacity
  distinct : slots.reduceOption.Nodup
  members : slots.reduceOption.toFinset = set.elements

namespace Represents

variable {slots : List (Option Device)} {set : BoundedSet Device} {device : Device}

theorem replicate_none (capacity : Nat) :
    Represents (List.replicate capacity (none : Option Device)) (BoundedSet.empty capacity) :=
  { capacity := List.length_replicate
    distinct := by
      rw [List.reduceOption_replicate_none]
      exact List.nodup_nil
    members := by
      rw [List.reduceOption_replicate_none]
      rfl }

theorem mem_iff (represents : Represents slots set) :
    some device ∈ slots ↔ device ∈ set.elements := by
  rw [← represents.members, List.mem_toFinset, List.reduceOption_mem_iff]

theorem card (represents : Represents slots set) :
    set.elements.card = slots.reduceOption.length := by
  rw [← represents.members, List.toFinset_card_of_nodup represents.distinct]

theorem full_iff (represents : Represents slots set) : set.Full ↔ none ∉ slots := by
  rw [BoundedSet.Full, represents.card, ← represents.capacity, List.reduceOption_length_eq_iff]
  constructor
  · intro all hole
    exact absurd (all none hole) nofun
  · intro noHole slot member
    cases slot with
    | none => exact absurd member noHole
    | some device => rfl

omit [DecidableEq Device] in
private theorem reduceOption_hole (before behind : List (Option Device)) :
    (before ++ none :: behind).reduceOption = before.reduceOption ++ behind.reduceOption := by
  rw [List.reduceOption_append, List.reduceOption_cons_of_none]

omit [DecidableEq Device] in
private theorem reduceOption_device (before behind : List (Option Device)) (device : Device) :
    (before ++ some device :: behind).reduceOption.Perm
      (device :: (before ++ none :: behind).reduceOption) := by
  rw [reduceOption_hole, List.reduceOption_append, List.reduceOption_cons_of_some]
  exact List.perm_middle

variable {before behind : List (Option Device)}

theorem fill {before behind : List (Option Device)}
    (represents : Represents (before ++ none :: behind) set) (new : device ∉ set.elements) :
    Represents (before ++ some device :: behind) (set.add device) := by
  have notFull : ¬ set.Full := by
    rw [represents.full_iff]
    exact fun noHole => noHole (List.mem_append_right before mem_cons_self)
  obtain ⟨capacity, elements⟩ := BoundedSet.add_of_accepts ⟨new, notFull⟩
  have filled := reduceOption_device before behind device
  constructor
  · rw [capacity, ← represents.capacity, length_append, length_append, length_cons, length_cons]
  · rw [filled.nodup_iff, nodup_cons, ← List.mem_toFinset, represents.members]
    exact ⟨new, represents.distinct⟩
  · rw [List.toFinset_eq_of_perm _ _ filled, List.toFinset_cons, represents.members, elements]

theorem clear (represents : Represents (before ++ some device :: behind) set) :
    Represents (before ++ none :: behind) (set.remove device) := by
  have filled := reduceOption_device before behind device
  have distinct := represents.distinct
  rw [filled.nodup_iff, nodup_cons] at distinct
  constructor
  · rw [BoundedSet.remove, ← represents.capacity, length_append, length_append,
      length_cons, length_cons]
  · exact distinct.2
  · change _ = set.elements.erase device
    rw [← represents.members, List.toFinset_eq_of_perm _ _ filled, List.toFinset_cons,
      Finset.erase_insert]
    rw [List.mem_toFinset]
    exact distinct.1

theorem remove (represents : Represents slots set) (device : Device) :
    Represents (removeFromSlots (some device) slots) (set.remove device) := by
  rcases removeFromSlots_cases (some device) slots with
    ⟨before, behind, rfl, removed⟩ | ⟨absent, kept⟩
  · rw [removed]
    exact represents.clear
  · have same : set.remove device = set := by
      rw [represents.mem_iff] at absent
      exact BoundedSet.ext rfl (Finset.erase_eq_of_notMem absent)
    rw [kept, same]
    exact represents

theorem removeFromSlots_none (slots : List (Option Device)) :
    removeFromSlots none slots = slots := by
  rcases removeFromSlots_cases none slots with ⟨before, behind, split, removed⟩ | ⟨-, kept⟩
  · rw [removed, split]
  · exact kept

theorem addToSlots_none (represents : Represents slots set) :
    addToSlots none slots = (slots, decide (¬ set.Full)) := by
  have full := represents.full_iff
  rcases addToSlots_cases none slots with ⟨before, behind, split, -, -, added⟩ |
    ⟨before, behind, split, -, device', refused⟩ | ⟨noHole, -, refused⟩
  · have hole : none ∈ slots := by
      rw [split]
      exact List.mem_append_right before mem_cons_self
    have room : ¬ set.Full := fun filled => full.mp filled hole
    rw [added, ← split, decide_eq_true room]
  · exact absurd rfl device'
  · rw [refused, decide_eq_false (not_not.mpr (full.mpr noHole))]

theorem add (represents : Represents slots set)
    (unobscured : some device ∉ slots.dropWhile Option.isSome) :
    Represents (addToSlots (some device) slots).1 (set.add device) ∧
      (addToSlots (some device) slots).2 = decide (set.Accepts device) := by
  rcases addToSlots_cases (some device) slots with
    ⟨before, behind, split, noHole, absent, added⟩ |
    ⟨before, behind, split, -, -, refused⟩ | ⟨noHole, -, refused⟩
  · have new : device ∉ set.elements := by
      rw [← represents.mem_iff]
      intro present
      have dropped : slots.dropWhile Option.isSome = none :: behind := by
        rw [split, List.dropWhile_append_of_pos]
        · rfl
        · intro slot member
          cases slot with
          | none => exact absurd member noHole
          | some device => rfl
      rw [split, List.mem_append, or_iff_right absent, ← dropped] at present
      exact unobscured present
    have notFull : ¬ set.Full := by
      rw [represents.full_iff, split]
      exact fun noHole => noHole (List.mem_append_right before mem_cons_self)
    rw [added, eq_comm, decide_eq_true_iff]
    subst split
    exact ⟨represents.fill new, new, notFull⟩
  · have present : device ∈ set.elements := by
      rw [← represents.mem_iff, split]
      exact List.mem_append_right before mem_cons_self
    have refuses : ¬ set.Accepts device := fun accepts => accepts.1 present
    rw [refused, BoundedSet.add_of_refuses refuses, decide_eq_false refuses]
    exact ⟨represents, rfl⟩
  · have refuses : ¬ set.Accepts device := fun accepts =>
      accepts.2 (represents.full_iff.mpr noHole)
    rw [refused, BoundedSet.add_of_refuses refuses, decide_eq_false refuses]
    exact ⟨represents, rfl⟩

omit [DecidableEq Device] in
private theorem mem_of_obscured (obscured : some device ∈ slots.dropWhile Option.isSome) :
    device ∈ slots.reduceOption :=
  List.reduceOption_mem_iff.mpr ((List.dropWhile_sublist _).subset obscured)

theorem add_obscured (distinct : slots.reduceOption.Nodup)
    (obscured : some device ∈ slots.dropWhile Option.isSome) :
    ∃ before behind, addToSlots (some device) slots = (before ++ some device :: behind, true) ∧
      some device ∈ behind := by
  induction slots with
  | nil => exact absurd obscured not_mem_nil
  | cons slot slots ih =>
    cases slot with
    | none =>
      refine ⟨[], slots, ?_, ?_⟩
      · rw [addToSlots, if_pos rfl]
        rfl
      · rw [List.dropWhile_cons_of_neg Bool.false_ne_true] at obscured
        exact (List.mem_cons.mp obscured).resolve_left nofun
    | some first =>
      rw [List.dropWhile_cons_of_pos rfl] at obscured
      rw [List.reduceOption_cons_of_some, nodup_cons] at distinct
      obtain ⟨before, behind, added, again⟩ := ih distinct.2 obscured
      have other : some first ≠ some device := by
        intro same
        rw [Option.some.inj same] at distinct
        exact distinct.1 (mem_of_obscured obscured)
      refine ⟨some first :: before, behind, ?_, again⟩
      rw [addToSlots, if_neg (Option.some_ne_none first), if_neg other, added]
      rfl

end Represents

end HeadsetAdk.DeviceLists
