import HeadsetAdk.KeyValues.FiniteMap
import HeadsetAdk.Lib.EventLog

/-! # Additions to a full list -/

namespace HeadsetAdk.KeyValues

namespace KeyValueList

def CanHold (list : KeyValueList) (value : List UInt8) : Prop :=
  (IsSmall value → list.lenKeys < 255) ∧ value.length ≤ 65535

def AddKeeps (unknown : Unknown) (list : KeyValueList) (key : Key) (value : List UInt8) : Prop :=
  ((list.add unknown key value).1 = true → ∀ other, list.isSet other = true →
    (list.add unknown key value).2.get other = list.get other) ∧
  (¬ list.CanHold value → list.add unknown key value = (false, list))

/-- The next list; `none` is a panic. -/
def next (unknown : Unknown) (list : KeyValueList) (call : Call) : Option KeyValueList :=
  (step unknown list call).map Prod.fst

def Fits (list : KeyValueList) : Call → Prop
  | .add key value => list.isSet key = true ∨ list.CanHold value
  | _ => True

instance (value : List UInt8) : Decidable (IsSmall value) :=
  inferInstanceAs (Decidable (_ ∨ _ ∨ _))

instance (list : KeyValueList) (value : List UInt8) : Decidable (list.CanHold value) :=
  inferInstanceAs (Decidable ((_ → _) ∧ _))

instance (list : KeyValueList) (call : Call) : Decidable (list.Fits call) :=
  match call with
  | .add _ _ => inferInstanceAs (Decidable (_ ∨ _))
  | .remove _ | .removeAll | .get _ | .isSet _ => inferInstanceAs (Decidable True)

section Additions

variable {unknown : Unknown} {list : KeyValueList} {map : Map} {call : Call} {key : Key}
  {value : List UInt8}

theorem Denotes.isSet_iff (denotes : list.Denotes map) (key : Key) :
    list.isSet key = true ↔ map key ≠ none := by
  rw [denotes.isSet_eq, Option.isSome_iff_ne_none]

theorem Denotes.room (denotes : list.Denotes map) (fits : list.Fits call) :
    RoomFor map call ∧ ShortValue map call := by
  cases call with
  | add key value =>
    have holds (absent : map key = none) : list.CanHold value :=
      fits.resolve_left fun set => (denotes.isSet_iff key).mp set absent
    refine ⟨fun absent small => ?_, fun absent => (holds absent).2⟩
    rw [denotes.smallKeys_ncard, ← denotes.wellFormed.lenKeys]
    exact (holds absent).1 small
  | remove key => exact ⟨trivial, trivial⟩
  | removeAll => exact ⟨trivial, trivial⟩
  | get key => exact ⟨trivial, trivial⟩
  | isSet key => exact ⟨trivial, trivial⟩

theorem reached_denotes (reached : Reached (next unknown) Fits create list) :
    ∃ map, list.Denotes map := by
  induction reached with
  | start => exact ⟨_, denotes_create⟩
  | step call _ fits steps ih =>
    obtain ⟨map, denotes⟩ := ih
    obtain ⟨room, short⟩ := denotes.room fits
    obtain ⟨list', stepped, denotes'⟩ := denotes.step unknown room short
    rw [next, stepped] at steps
    rw [← Option.some.inj steps]
    exact ⟨_, denotes'⟩

theorem Denotes.addKeeps (denotes : list.Denotes map) (unknown : Unknown)
    (fits : list.Fits (.add key value)) : AddKeeps unknown list key value := by
  by_cases set : list.isSet key = true
  · have refused : list.add unknown key value = (false, list) := by rw [add, if_pos set]
    rw [AddKeeps, refused]
    exact ⟨fun wrong => absurd wrong Bool.false_ne_true, fun _ => rfl⟩
  · have holds : list.CanHold value := fits.resolve_left set
    refine ⟨fun _ other stored => ?_, fun cannot => absurd holds cannot⟩
    have absent : map key = none := by
      by_contra present
      exact set ((denotes.isSet_iff key).mpr present)
    have added : (list.add unknown key value).2.Denotes (Function.update map key (some value)) := by
      rw [add, if_neg set]
      refine denotes.addKeyValuePair absent holds.2 fun small => ?_
      rw [← denotes.wellFormed.lenKeys]
      exact holds.1 small
    have different : other ≠ key := fun same => set (same ▸ stored)
    rw [added.get_eq, denotes.get_eq, Function.update_of_ne different]

/-- After calls that fit, an addition keeps what is stored, and is refused for want of room,
just when it fits. -/
theorem reached_addKeeps_iff (reached : Reached (next unknown) Fits create list) (key : Key)
    (value : List UInt8) :
    AddKeeps unknown list key value ↔ list.isSet key = true ∨ list.CanHold value := by
  constructor
  · intro keeps
    by_cases set : list.isSet key = true
    · exact .inl set
    · refine .inr (Classical.byContradiction fun cannot => ?_)
      have refused := keeps.2 cannot
      rw [add, if_neg set] at refused
      exact Bool.noConfusion (congrArg Prod.fst refused)
  · obtain ⟨map, denotes⟩ := reached_denotes reached
    exact denotes.addKeeps unknown

end Additions

def clearedCell (size : Nat) : Cell size := ⟨List.replicate size 0, List.length_replicate⟩

def cleared : Unknown := ⟨0, clearedCell 1, clearedCell 2, clearedCell 4⟩

theorem addition_addKeeps :
    ∃ list, next cleared create (.add 0 [0]) = some list ∧
      (AddKeeps cleared list 7 [1, 2] ↔ list.isSet 7 = true ∨ list.CanHold [1, 2]) := by
  have fits : create.Fits (.add 0 [0]) := by decide
  have steps : next cleared create (.add 0 [0]) = some (addKeyValuePair cleared create 0 [0]) := rfl
  exact ⟨_, steps, reached_addKeeps_iff (.step _ .start fits steps) 7 [1, 2]⟩

section FullList

variable {list : KeyValueList} {key : Key}

theorem addKeyValuePair_lenKeys (list : KeyValueList) (key : Key) :
    (addKeyValuePair cleared list key [0]).lenKeys = (list.lenKeys + 1) % 256 := rfl

theorem get_small (head : list.head = []) (key : Key) :
    list.get key = (list.findKey key).map fun index =>
      if index < list.len8 then (1, cellBytes list.values8 index)
      else if index - list.len8 < list.len16 then
        (2, cellBytes list.values16 (index - list.len8))
      else (4, cellBytes list.values32 (index - list.len8 - list.len16)) := by
  rw [get, head]
  rfl

theorem get_of_lenKeys (head : list.head = []) (none : list.lenKeys = 0) (key : Key) :
    list.get key = .none := by
  rw [get_small head, findKey, none]
  rfl

structure Filled (list : KeyValueList) (count : Nat) : Prop where
  reached : Reached (next cleared) Fits create list
  lenKeys : list.lenKeys = count
  head : list.head = []
  fresh : ∀ key : Key, count ≤ key.toNat → list.isSet key = false
  first : 0 < count → list.get 0 = some (1, [0])

theorem filled_create : Filled create 0 where
  reached := .start
  lenKeys := rfl
  head := rfl
  fresh _ _ := rfl
  first positive := absurd positive (Nat.lt_irrefl 0)

theorem Filled.add {count : Nat} (filled : Filled list count) (room : count < 255) :
    Filled (addKeyValuePair cleared list (UInt16.ofNat count) [0]) (count + 1) := by
  have number : (UInt16.ofNat count).toNat = count := by
    rw [UInt16.toNat_ofNat', Nat.mod_eq_of_lt (by omega)]
  have absent : list.isSet (UInt16.ofNat count) = false := filled.fresh _ number.ge
  have holds : list.CanHold [0] := ⟨fun _ => filled.lenKeys ▸ room, by decide⟩
  have fits : list.Fits (.add (UInt16.ofNat count) [0]) := .inr holds
  have steps : next cleared list (.add (UInt16.ofNat count) [0]) =
      some (addKeyValuePair cleared list (UInt16.ofNat count) [0]) := by
    rw [next, step, KeyValueList.add, absent]
    rfl
  obtain ⟨map, denotes⟩ := reached_denotes filled.reached
  have missing : map (UInt16.ofNat count) = none := by
    by_contra present
    exact Bool.false_ne_true (absent.symm.trans ((denotes.isSet_iff _).mpr present))
  have added : (addKeyValuePair cleared list (UInt16.ofNat count) [0]).Denotes
      (Function.update map (UInt16.ofNat count) (some [0])) := by
    refine denotes.addKeyValuePair missing holds.2 fun small => ?_
    rw [← denotes.wellFormed.lenKeys]
    exact holds.1 small
  exact
    { reached := filled.reached.step _ fits steps
      lenKeys := by
        rw [addKeyValuePair_lenKeys, filled.lenKeys, Nat.mod_eq_of_lt (by omega)]
      head := filled.head
      fresh := fun key later => by
        have different : key ≠ UInt16.ofNat count := by
          rintro rfl
          omega
        rw [added.isSet_eq, Function.update_of_ne different, ← denotes.isSet_eq]
        exact filled.fresh key (by omega)
      first := fun _ => by
        rw [added.get_eq]
        by_cases start : count = 0
        · rw [start]
          rfl
        · have different : (0 : Key) ≠ UInt16.ofNat count := fun same => start (by
            rw [← number, ← same]
            rfl)
          rw [Function.update_of_ne different, ← denotes.get_eq]
          exact filled.first (by omega) }

theorem exists_filled {count : Nat} (bounded : count ≤ 255) : ∃ list, Filled list count := by
  induction count with
  | zero => exact ⟨create, filled_create⟩
  | succ count ih =>
    obtain ⟨list, filled⟩ := ih (by omega)
    exact ⟨_, filled.add (by omega)⟩

end FullList

/-- With 255 values of one byte the addition of one more succeeds, and the first is lost. -/
theorem full_list_loses :
    ∃ list, Reached (next cleared) Fits create list ∧ list.get 0 = some (1, [0]) ∧
      (list.add cleared 300 [0]).1 = true ∧ (list.add cleared 300 [0]).2.get 0 = none ∧
      ¬ AddKeeps cleared list 300 [0] := by
  obtain ⟨list, filled⟩ := exists_filled (Nat.le_refl 255)
  have absent : list.isSet 300 = false := filled.fresh 300 (by decide)
  have added : list.add cleared 300 [0] = (true, addKeyValuePair cleared list 300 [0]) := by
    rw [add, absent]
    rfl
  have lost : (addKeyValuePair cleared list 300 [0]).get 0 = none := by
    have head : (addKeyValuePair cleared list 300 [0]).head = [] := filled.head
    refine get_of_lenKeys head ?_ 0
    rw [addKeyValuePair_lenKeys, filled.lenKeys]
  have before : list.get 0 = some (1, [0]) := filled.first (by decide)
  refine ⟨list, filled.reached, before, by rw [added], by rw [added]; exact lost, fun keeps => ?_⟩
  have kept := keeps.1 (by rw [added]) 0 (by rw [isSet, before]; rfl)
  rw [added, lost, before] at kept
  exact absurd kept.symm (Option.some_ne_none _)

end KeyValueList

end HeadsetAdk.KeyValues
