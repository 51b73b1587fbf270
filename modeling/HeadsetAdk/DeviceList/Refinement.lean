import HeadsetAdk.DeviceList.SlotScans
import HeadsetAdk.Lib.EventLog

/-! # The device list as a bounded set -/

namespace HeadsetAdk.DeviceLists

open Option (map_some)

variable {Device : Type*} [DecidableEq Device]

/-- The set after a call; there is none until the list is initialised. -/
def setStep (set : Option (BoundedSet Device)) : Call Device → Option (BoundedSet Device)
  | .init numDevices => some (BoundedSet.empty numDevices.toNat)
  | .addDevice none => set
  | .addDevice (some device) => set.map fun set => set.add device
  | .removeDevice none => set
  | .removeDevice (some device) => set.map fun set => set.remove device
  | .removeAllDevices => none

/-- What `DeviceList_AddDevice` is to answer.  NULL takes no slot, and needs one. -/
def setAnswer (set : Option (BoundedSet Device)) : Call Device → Option Bool
  | .addDevice none => some (set.any fun set => decide (¬ set.Full))
  | .addDevice (some device) => some (set.any fun set => decide (set.Accepts device))
  | _ => none

section Observation

variable {Property : Type*} (getProperty : Device → Property → Option (List UInt8))

structure Shows (globals : Globals Device) (set : BoundedSet Device) : Prop where
  count : globals.getNumOfDevices = some set.elements.card
  onList : ∀ device, globals.isDeviceOnList (some device) = some (decide (device ∈ set.elements))
  iterated : ∃ devices, globals.iterate = some devices ∧ devices.Nodup ∧
    devices.toFinset = set.elements
  firstWithValue : ∀ id value, ∃ found,
    globals.getFirstDeviceWithPropertyValue getProperty id value = some found ∧
      (∀ device ∈ found, device ∈ set.elements ∧ getProperty device id = some value) ∧
      (found = none → ∀ device ∈ set.elements, getProperty device id ≠ some value)
  allWithValue : ∀ id value, ∃ devices,
    globals.getAllDevicesWithPropertyValue getProperty id value = some devices ∧
      devices.Nodup ∧
      devices.toFinset = set.elements.filter fun device => getProperty device id = some value
  allWithProperty : ∀ id, ∃ devices,
    globals.getAllDevicesWithProperty getProperty id = some devices ∧ devices.Nodup ∧
      devices.toFinset = set.elements.filter fun device => (getProperty device id).isSome
  index : ∀ device, ∃ index, globals.getIndexOfDevice (some device) = some index ∧
    (index ≠ 0xFF ↔ device ∈ set.elements) ∧
    (device ∈ set.elements →
      globals.getDeviceAtIndex (UInt8.ofNat index) = some (some device))
  atIndex : ∀ index device, globals.getDeviceAtIndex index = some (some device) →
    device ∈ set.elements

def Refines (globals : Globals Device) : Option (BoundedSet Device) → Prop
  | none => globals.deviceList = none
  | some set =>
      (∃ slots, globals.deviceList = some slots ∧ slots.length = set.capacity ∧
        slots.reduceOption.Nodup) ∧
      Shows getProperty globals set

def RefinesStep (globals : Globals Device) (set : Option (BoundedSet Device))
    (call : Call Device) : Prop :=
  ∀ next answer, globals.perform call = some (next, answer) →
    answer = setAnswer set call ∧ Refines getProperty next (setStep set call)

end Observation

def Unobscured (globals : Globals Device) : Call Device → Prop
  | .addDevice (some device) =>
      some device ∉ (globals.deviceList.getD []).dropWhile Option.isSome
  | _ => True

instance (globals : Globals Device) : DecidablePred (Unobscured globals)
  | .init _ => inferInstanceAs (Decidable True)
  | .addDevice none => inferInstanceAs (Decidable True)
  | .addDevice (some _) => inferInstanceAs (Decidable (_ ∉ _))
  | .removeDevice _ => inferInstanceAs (Decidable True)
  | .removeAllDevices => inferInstanceAs (Decidable True)

section Invariant

def Stored (globals : Globals Device) : Option (BoundedSet Device) → Prop
  | none => globals.deviceList = none
  | some set => ∃ slots, globals.deviceList = some slots ∧
      slots.length = globals.trustedDeviceList.toNat ∧ Represents slots set

variable {globals : Globals Device} {set : BoundedSet Device} {slots : List (Option Device)}

omit [DecidableEq Device] in
theorem Globals.slots_eq (allocated : globals.deviceList = some slots) :
    globals.slots = some slots := by
  rw [Globals.slots, allocated]

omit [DecidableEq Device] in
theorem Globals.store_deviceList (allocated : globals.deviceList = some slots)
    (slots' : List (Option Device)) : (globals.store slots').deviceList = some slots' := by
  rw [Globals.store, allocated]
  rfl

omit [DecidableEq Device] in
theorem Globals.slots_null (null : globals.deviceList = none) (read : globals.slots = some slots) :
    slots = [] := by
  rw [Globals.slots, null] at read
  dsimp only at read
  split at read
  · exact (Option.some.inj read).symm
  · contradiction

omit [DecidableEq Device] in
theorem Globals.store_null (null : globals.deviceList = none) (slots : List (Option Device)) :
    (globals.store slots).deviceList = none := by
  rw [Globals.store, null]
  rfl

variable {Property : Type*} (getProperty : Device → Property → Option (List UInt8))

theorem Represents.shows (represents : Represents slots set)
    (allocated : globals.deviceList = some slots)
    (length : slots.length = globals.trustedDeviceList.toNat) :
    Shows getProperty globals set := by
  have read := Globals.slots_eq allocated
  have bound : slots.length < 256 := length ▸ globals.trustedDeviceList.toNat_lt
  have atIndex (index : UInt8) (inside : index.toNat < slots.length) :
      globals.getDeviceAtIndex index = some (slots[index.toNat]?).join := by
    rw [Globals.getDeviceAtIndex, if_pos (UInt8.lt_iff_toNat_lt.mpr (length ▸ inside)), read]
    rfl
  constructor
  · rw [Globals.getNumOfDevices, read, represents.card, ← countSlots_eq]
    rfl
  · intro device
    rw [Globals.isDeviceOnList, if_neg (Option.some_ne_none device), read, map_some,
      slotsContain_eq, Option.some.injEq, decide_eq_decide]
    exact represents.mem_iff
  · refine ⟨slots.reduceOption, ?_, represents.distinct, represents.members⟩
    rw [Globals.iterate, read, map_some, devicesOfSlots_eq]
  · intro id value
    refine ⟨slots.reduceOption.find? fun device => decide (getProperty device id = some value),
      ?_, ?_, ?_⟩
    · rw [Globals.getFirstDeviceWithPropertyValue, Globals.findMatchingDevices, read,
        map_some, map_some, matchesInSlots_first]
    · intro device found
      have member := List.mem_of_find?_eq_some found
      rw [← List.mem_toFinset, represents.members] at member
      have matched := List.find?_some (Option.mem_def.mp found)
      exact ⟨member, of_decide_eq_true matched⟩
    · intro missing device member same
      rw [← represents.members, List.mem_toFinset] at member
      exact List.find?_eq_none.mp missing device member (decide_eq_true same)
  · intro id value
    refine ⟨slots.reduceOption.filter fun device => decide (getProperty device id = some value),
      ?_, represents.distinct.filter _, ?_⟩
    · rw [Globals.getAllDevicesWithPropertyValue, Globals.findMatchingDevices, read,
        map_some, matchesInSlots_all]
    · rw [List.toFinset_filter, represents.members]
      ext device
      rw [Finset.mem_filter, Finset.mem_filter, decide_eq_true_iff]
  · intro id
    refine ⟨slots.reduceOption.filter fun device => (getProperty device id).isSome,
      ?_, represents.distinct.filter _, ?_⟩
    · rw [Globals.getAllDevicesWithProperty, Globals.findDevicesWithProperty, read,
        map_some, matchesInSlots_all]
    · rw [List.toFinset_filter, represents.members]
  · intro device
    rw [Globals.getIndexOfDevice, if_neg (Option.some_ne_none device), read, map_some]
    refine ⟨_, rfl, ?_⟩
    by_cases present : some device ∈ slots
    · obtain ⟨offset, found, inside, here⟩ := indexInSlots_present present 0
      rw [Nat.zero_add] at found
      have small : (UInt8.ofNat offset).toNat = offset := by
        rw [UInt8.toNat_ofNat']
        omega
      rw [found]
      refine ⟨iff_of_true (by omega) (represents.mem_iff.mp present), fun _ => ?_⟩
      rw [atIndex _ (by rw [small]; exact inside), small, here]
      rfl
    · have absent : device ∉ set.elements := fun member =>
        present (represents.mem_iff.mpr member)
      rw [indexInSlots_absent present]
      exact ⟨iff_of_false (fun different => different rfl) absent,
        fun member => absurd member absent⟩
  · intro index device found
    by_cases inside : index.toNat < slots.length
    · rw [atIndex index inside, List.getElem?_eq_getElem inside] at found
      have here : slots[index.toNat] = some device := Option.some.inj found
      rw [← represents.mem_iff, ← here]
      exact List.getElem_mem inside
    · rw [Globals.getDeviceAtIndex, if_neg] at found
      · exact absurd (Option.some.inj found) nofun
      · rw [UInt8.lt_iff_toNat_lt, ← length]
        exact inside

theorem Stored.refines {set : Option (BoundedSet Device)} (stored : Stored globals set) :
    Refines getProperty globals set := by
  cases set with
  | none => exact stored
  | some set =>
    obtain ⟨slots, allocated, length, represents⟩ := stored
    exact ⟨⟨slots, allocated, represents.capacity, represents.distinct⟩,
      represents.shows getProperty allocated length⟩

end Invariant

section Steps

variable {globals next : Globals Device} {set : Option (BoundedSet Device)}
  {call : Call Device} {answer : Option Bool}

private theorem Stored.store {slots slots' : List (Option Device)} {set : BoundedSet Device}
    (allocated : globals.deviceList = some slots)
    (length : slots.length = globals.trustedDeviceList.toNat)
    (same : slots'.length = slots.length) (represents : Represents slots' set) :
    Stored (globals.store slots') (some set) :=
  ⟨slots', Globals.store_deviceList allocated slots', same.trans length, represents⟩

theorem Stored.perform_init {numDevices : UInt8}
    (performed : globals.perform (.init numDevices) = some (next, answer)) :
    answer = none ∧ Stored next (some (BoundedSet.empty numDevices.toNat)) := by
  rw [Globals.perform, Globals.init] at performed
  split at performed
  · contradiction
  · cases performed
    exact ⟨rfl, _, rfl, List.length_replicate, Represents.replicate_none numDevices.toNat⟩

variable {device : Option Device}

theorem Stored.add_null (stored : Stored globals none)
    (performed : globals.perform (.addDevice device) = some (next, answer)) :
    answer = setAnswer none (.addDevice device) ∧ Stored next none := by
  rw [Globals.perform, Globals.addDevice] at performed
  cases read : globals.slots with
  | none =>
    rw [read] at performed
    contradiction
  | some slots =>
    rw [read, Globals.slots_null stored read] at performed
    cases performed
    exact ⟨by cases device <;> rfl, Globals.store_null stored _⟩

theorem Stored.perform_addNull (stored : Stored globals set)
    (performed : globals.perform (.addDevice none) = some (next, answer)) :
    answer = setAnswer set (.addDevice none) ∧ Stored next set := by
  rw [Globals.perform, Globals.addDevice] at performed
  cases set with
  | none => exact Stored.add_null stored performed
  | some set =>
    obtain ⟨slots, allocated, length, represents⟩ := stored
    rw [Globals.slots_eq allocated, map_some, represents.addToSlots_none] at performed
    cases performed
    exact ⟨rfl, Stored.store allocated length rfl represents⟩

theorem Stored.perform_add {device : Device} (stored : Stored globals set)
    (unobscured : Unobscured globals (.addDevice (some device)))
    (performed : globals.perform (.addDevice (some device)) = some (next, answer)) :
    answer = setAnswer set (.addDevice (some device)) ∧
      Stored next (setStep set (.addDevice (some device))) := by
  rw [Globals.perform, Globals.addDevice] at performed
  cases set with
  | none => exact Stored.add_null stored performed
  | some set =>
    obtain ⟨slots, allocated, length, represents⟩ := stored
    rw [Unobscured, allocated] at unobscured
    obtain ⟨added, answered⟩ := represents.add unobscured
    rw [Globals.slots_eq allocated] at performed
    cases performed
    have capacity : (set.add device).capacity = set.capacity := by
      rw [BoundedSet.add]
      split
      · rfl
      · rfl
    refine ⟨congrArg some answered, Stored.store allocated length ?_ added⟩
    rw [added.capacity, capacity, represents.capacity]

theorem Stored.perform_remove (stored : Stored globals set)
    (performed : globals.perform (.removeDevice device) = some (next, answer)) :
    answer = none ∧ Stored next (setStep set (.removeDevice device)) := by
  rw [Globals.perform, Globals.removeDevice] at performed
  cases set with
  | none =>
    cases read : globals.slots with
    | none =>
      rw [read] at performed
      contradiction
    | some slots =>
      rw [read] at performed
      cases performed
      refine ⟨rfl, ?_⟩
      cases device with
      | none => exact Globals.store_null stored _
      | some device => exact Globals.store_null stored _
  | some set =>
    obtain ⟨slots, allocated, length, represents⟩ := stored
    rw [Globals.slots_eq allocated, map_some] at performed
    cases performed
    refine ⟨rfl, ?_⟩
    cases device with
    | none =>
      rw [Represents.removeFromSlots_none]
      exact Stored.store allocated length rfl represents
    | some device =>
      have removed := represents.remove device
      refine Stored.store allocated length ?_ removed
      rw [removed.capacity, represents.capacity]
      rfl

theorem Stored.perform_removeAll
    (performed : globals.perform .removeAllDevices = some (next, answer)) :
    answer = none ∧ Stored next (none : Option (BoundedSet Device)) := by
  rw [Globals.perform, Globals.removeAllDevices] at performed
  cases read : globals.slots with
  | none =>
    rw [read] at performed
    contradiction
  | some slots =>
    rw [read] at performed
    cases performed
    exact ⟨rfl, rfl⟩

theorem Stored.perform (stored : Stored globals set) (unobscured : Unobscured globals call)
    (performed : globals.perform call = some (next, answer)) :
    answer = setAnswer set call ∧ Stored next (setStep set call) := by
  cases call with
  | init numDevices => exact Stored.perform_init performed
  | addDevice device =>
    cases device with
    | none => exact stored.perform_addNull performed
    | some device => exact stored.perform_add unobscured performed
  | removeDevice device => exact stored.perform_remove performed
  | removeAllDevices => exact Stored.perform_removeAll performed

theorem Stored.obscured (stored : Stored globals set) (obscured : ¬ Unobscured globals call) :
    ∃ next slots, globals.perform call = some (next, some true) ∧
      next.deviceList = some slots ∧ ¬ slots.reduceOption.Nodup := by
  cases call with
  | addDevice device =>
    cases device with
    | none => exact absurd trivial obscured
    | some device =>
      cases set with
      | none =>
        rw [Unobscured, stored] at obscured
        exact absurd List.not_mem_nil obscured
      | some set =>
        obtain ⟨slots, allocated, -, represents⟩ := stored
        rw [Unobscured, allocated, not_not] at obscured
        obtain ⟨before, behind, added, again⟩ :=
          Represents.add_obscured represents.distinct obscured
        refine ⟨globals.store (before ++ some device :: behind),
          before ++ some device :: behind, ?_,
          Globals.store_deviceList allocated _, ?_⟩
        · rw [Globals.perform, Globals.addDevice, Globals.slots_eq allocated, map_some, added]
          rfl
        · rw [List.reduceOption_append, List.reduceOption_cons_of_some]
          intro distinct
          have once := (List.nodup_append.mp distinct).2.1
          exact (List.nodup_cons.mp once).1 (List.reduceOption_mem_iff.mpr again)
  | init numDevices => exact absurd trivial obscured
  | removeDevice device => exact absurd trivial obscured
  | removeAllDevices => exact absurd trivial obscured

end Steps

section Runs

variable {calls : List (Call Device)} {start globals : Globals Device}

def setAfter (calls : List (Call Device)) : Option (BoundedSet Device) :=
  calls.foldl setStep none

theorem Stored.run {set : Option (BoundedSet Device)} (stored : Stored start set)
    (runs : runAllowed Globals.step Unobscured calls start = some globals) :
    Stored globals (calls.foldl setStep set) := by
  induction calls generalizing start set with
  | nil => exact Option.some.inj runs ▸ stored
  | cons call calls ih =>
    rw [runAllowed] at runs
    split at runs
    · obtain ⟨after, steps, runs⟩ := Option.bind_eq_some_iff.mp runs
      obtain ⟨⟨_, answer⟩, performed, rfl⟩ := Option.map_eq_some_iff.mp steps
      exact ih (stored.perform (by assumption) performed).2 runs
    · contradiction

variable {Property : Type*} (getProperty : Device → Property → Option (List UInt8))

/-- As long as no device behind an empty slot is added, the list is the set of its
devices, and the next call keeps it so just when it does not add one. -/
theorem run_refines_iff
    (runs : runAllowed Globals.step Unobscured calls Globals.boot = some globals) :
    Refines getProperty globals (setAfter calls) ∧
      ∀ call, RefinesStep getProperty globals (setAfter calls) call ↔ Unobscured globals call := by
  have start : Stored (Globals.boot : Globals Device) none := rfl
  have stored : Stored globals (setAfter calls) := start.run runs
  refine ⟨stored.refines getProperty, fun call => ⟨fun refines => ?_, ?_⟩⟩
  · by_contra obscured
    obtain ⟨next, slots, performed, allocated, twice⟩ := stored.obscured obscured
    have after := (refines next (some true) performed).2
    cases set : setStep (setAfter calls) call with
    | none =>
      rw [set] at after
      exact absurd (allocated.symm.trans after) nofun
    | some set' =>
      rw [set] at after
      obtain ⟨⟨slots', allocated', -, once⟩, -⟩ := after
      rw [allocated, Option.some.injEq] at allocated'
      exact twice (allocated' ▸ once)
  · intro unobscured next answer performed
    obtain ⟨answered, stored⟩ := stored.perform unobscured performed
    exact ⟨answered, stored.refines getProperty⟩

def refilledCalls : List (Call Nat) :=
  [.init 3, .addDevice (some 1), .addDevice (some 2), .removeDevice (some 1), .addDevice (some 3)]

theorem refilled_refines :
    ∃ globals : Globals Nat,
      runAllowed Globals.step Unobscured refilledCalls Globals.boot = some globals ∧
      Refines (fun (_ : Nat) (_ : Unit) => none) globals (setAfter refilledCalls) ∧
      ∀ call, RefinesStep (fun (_ : Nat) (_ : Unit) => none) globals
        (setAfter refilledCalls) call ↔ Unobscured globals call :=
  ⟨{ deviceList := some [some 3, some 2, none], trustedDeviceList := 3 }, by decide,
    run_refines_iff _ (by decide)⟩

/-- The second device is added again after the first one was removed: it takes the
first one's slot too, and removing it leaves it on the list. -/
theorem addedBehindHole_twice :
    ∃ globals next : Globals Nat,
      [.init 3, .addDevice (some 1), .addDevice (some 2), .removeDevice (some 1)].foldlM
        Globals.step Globals.boot = some globals ∧
      globals.isDeviceOnList (some 2) = some true ∧
      globals.addDevice (some 2) = some (next, true) ∧
      next.deviceList = some [some 2, some 2, none] ∧
      next.getNumOfDevices = some 2 ∧
      (next.removeDevice (some 2)).bind (·.isDeviceOnList (some 2)) = some true ∧
      ¬ RefinesStep (fun (_ : Nat) (_ : Unit) => none) globals
        (setAfter [.init 3, .addDevice (some 1), .addDevice (some 2),
          .removeDevice (some 1)]) (.addDevice (some 2)) := by
  refine ⟨{ deviceList := some [none, some 2, none], trustedDeviceList := 3 },
    { deviceList := some [some 2, some 2, none], trustedDeviceList := 3 },
    by decide, by decide, by decide, by decide, by decide, by decide, fun refines => ?_⟩
  have performed : ({ deviceList := some [none, some 2, none], trustedDeviceList := 3 } :
      Globals Nat).perform (.addDevice (some 2)) =
        some ({ deviceList := some [some 2, some 2, none], trustedDeviceList := 3 },
          some true) := by
    decide
  exact absurd (refines _ _ performed).1 (by decide)

end Runs

end HeadsetAdk.DeviceLists
