import Mathlib.Data.List.ReduceOption

/-!
# The list of devices

The list is an array of slots, which every function scans from the first.  `none` is the result of a
function that panics or reads through the list while it is not allocated.
-/

namespace HeadsetAdk.DeviceLists

section Slots

variable {Device : Type*} [DecidableEq Device]

/-- The loop of `DeviceList_AddDevice`. -/
def addToSlots (device : Option Device) :
    List (Option Device) → List (Option Device) × Bool
  | [] => ([], false)
  | slot :: slots =>
      if slot = none then (device :: slots, true)
      else if slot = device then (slot :: slots, false)
      else (slot :: (addToSlots device slots).1, (addToSlots device slots).2)

/-- The loop of `DeviceList_RemoveDevice`. -/
def removeFromSlots (device : Option Device) : List (Option Device) → List (Option Device)
  | [] => []
  | slot :: slots =>
      if slot = device then none :: slots else slot :: removeFromSlots device slots

/-- The loop of `DeviceList_GetNumOfDevices`. -/
def countSlots : List (Option Device) → Nat
  | [] => 0
  | slot :: slots => if slot.isSome then countSlots slots + 1 else countSlots slots

/-- The loop of `DeviceList_IsDeviceOnList`. -/
def slotsContain (device : Option Device) : List (Option Device) → Bool
  | [] => false
  | slot :: slots => if slot = device then true else slotsContain device slots

/-- The loop of `DeviceList_GetIndexOfDevice`, from the given index on. -/
def indexInSlots (device : Option Device) : Nat → List (Option Device) → Nat
  | _, [] => 0xFF
  | index, slot :: slots =>
      if slot = device then index else indexInSlots device (index + 1) slots

def devicesOfSlots : List (Option Device) → List Device
  | [] => []
  | none :: slots => devicesOfSlots slots
  | some device :: slots => device :: devicesOfSlots slots

/-- The loop of `deviceList_FindMatchingDevices` and `deviceList_FindDevicesWithProperty`,
for the test that each makes of a device. -/
def matchesInSlots (matching : Device → Bool) (justFirst : Bool) :
    List (Option Device) → List Device
  | [] => []
  | none :: slots => matchesInSlots matching justFirst slots
  | some device :: slots =>
      if matching device then
        if justFirst then [device] else device :: matchesInSlots matching justFirst slots
      else matchesInSlots matching justFirst slots

end Slots

/-- The file's variables: `device_list`, `none` while it is NULL, and
`trusted_device_list`. -/
structure Globals (Device : Type*) where
  deviceList : Option (List (Option Device))
  trustedDeviceList : UInt8
deriving DecidableEq

namespace Globals

variable {Device : Type*}

/-- The variables before any call. -/
def boot : Globals Device :=
  { deviceList := none
    trustedDeviceList := 0 }

def slots (globals : Globals Device) : Option (List (Option Device)) :=
  match globals.deviceList with
  | some slots => some slots
  | none => if globals.trustedDeviceList = 0 then some [] else none

def store (globals : Globals Device) (slots : List (Option Device)) : Globals Device :=
  { globals with deviceList := globals.deviceList.map fun _ => slots }

def init (globals : Globals Device) (numDevices : UInt8) : Option (Globals Device) :=
  if globals.deviceList.isSome then none
  else
    some
      { deviceList := some (List.replicate numDevices.toNat none)
        trustedDeviceList := numDevices }

variable [DecidableEq Device]

def getNumOfDevices (globals : Globals Device) : Option Nat :=
  globals.slots.map countSlots

def removeAllDevices (globals : Globals Device) : Option (Globals Device) :=
  globals.slots.map fun _ => { globals with deviceList := none }

def addDevice (globals : Globals Device) (device : Option Device) :
    Option (Globals Device × Bool) :=
  globals.slots.map fun slots =>
    (globals.store (addToSlots device slots).1, (addToSlots device slots).2)

def removeDevice (globals : Globals Device) (device : Option Device) :
    Option (Globals Device) :=
  globals.slots.map fun slots => globals.store (removeFromSlots device slots)

def isDeviceOnList (globals : Globals Device) (device : Option Device) : Option Bool :=
  if device = none then some false else globals.slots.map (slotsContain device)

section Properties

variable {Property : Type*} (getProperty : Device → Property → Option (List UInt8))

/-- `deviceList_FindMatchingDevices`: the devices whose property has the value. -/
def findMatchingDevices (globals : Globals Device) (id : Property) (value : List UInt8)
    (justFirst : Bool) : Option (List Device) :=
  globals.slots.map
    (matchesInSlots (fun device => decide (getProperty device id = some value)) justFirst)

/-- `deviceList_FindDevicesWithProperty`: the devices that have the property. -/
def findDevicesWithProperty (globals : Globals Device) (id : Property) :
    Option (List Device) :=
  globals.slots.map (matchesInSlots (fun device => (getProperty device id).isSome) false)

def getFirstDeviceWithPropertyValue (globals : Globals Device) (id : Property)
    (value : List UInt8) : Option (Option Device) :=
  (globals.findMatchingDevices getProperty id value true).map List.head?

def getAllDevicesWithPropertyValue (globals : Globals Device) (id : Property)
    (value : List UInt8) : Option (List Device) :=
  globals.findMatchingDevices getProperty id value false

def getAllDevicesWithProperty (globals : Globals Device) (id : Property) :
    Option (List Device) :=
  globals.findDevicesWithProperty getProperty id

end Properties

/-- `DeviceList_Iterate`: the devices passed to the action, in order. -/
def iterate (globals : Globals Device) : Option (List Device) :=
  globals.slots.map devicesOfSlots

def getMaxTrustedDevices (globals : Globals Device) : Option UInt8 :=
  if globals.trustedDeviceList = 0 then none else some globals.trustedDeviceList

def getIndexOfDevice (globals : Globals Device) (device : Option Device) : Option Nat :=
  if device = none then some 0xFF else globals.slots.map (indexInSlots device 0)

def getDeviceAtIndex (globals : Globals Device) (index : UInt8) : Option (Option Device) :=
  if index < globals.trustedDeviceList then
    globals.slots.map fun slots => (slots[index.toNat]?).join
  else some none

end Globals

inductive Call (Device : Type*)
  | init (numDevices : UInt8)
  | addDevice (device : Option Device)
  | removeDevice (device : Option Device)
  | removeAllDevices

/-- The call, with the answer of `DeviceList_AddDevice`. -/
def Globals.perform {Device : Type*} [DecidableEq Device] (globals : Globals Device) :
    Call Device → Option (Globals Device × Option Bool)
  | .init numDevices => (globals.init numDevices).map fun next => (next, none)
  | .addDevice device => (globals.addDevice device).map fun next => (next.1, some next.2)
  | .removeDevice device => (globals.removeDevice device).map fun next => (next, none)
  | .removeAllDevices => globals.removeAllDevices.map fun next => (next, none)

def Globals.step {Device : Type*} [DecidableEq Device] (globals : Globals Device)
    (call : Call Device) : Option (Globals Device) :=
  (globals.perform call).map Prod.fst

end HeadsetAdk.DeviceLists
