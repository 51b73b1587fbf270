import Mathlib.Logic.Function.Basic

/-!
# The device database serialiser

`device_db_serialiser_pddu.c` and the parts of `device_db_serialiser.c` that write and read
frames.  A frame is made of what the users serialise for a device.  `none` is a panic, or an access
outside a buffer.
-/

namespace HeadsetAdk.DeviceDb

/-- `device_db_serialiser_registered_pddu_t`.  `ser` gives the bytes it writes to its
buffer; the calls of the `deser` function are recorded by `DeserCall`. -/
structure Pddu (Device : Type) where
  id : Nat
  getLen : Device → UInt8
  ser : Device → List UInt8

/-- `registered_pddu_list` and `num_registered_pddus` -/
structure Registry (Device : Type) where
  registeredPdduList : List (Pddu Device)
  numRegisteredPddus : UInt8

/-- A call of the `deser` function of a user, with a pointer to the rest of the frame. -/
structure DeserCall (Device : Type) where
  pddu : Pddu Device
  buf : List UInt8
  dataLength : UInt8

def sizeOfTypeAndLen : UInt8 := 2

def payloadOffsetInFrame : Nat := 2

def dbsPddFrameType : UInt8 := 0xDB

def sizeOfMetadata : UInt8 := 2

/-- `PS_SIZE_ADJ`: the number of words that hold so many bytes. -/
def psSizeAdj (size : Nat) : Nat := (size + 1) / 2

variable {Device Addr : Type}

namespace Registry

def pdduInit : Registry Device := ⟨[], 0⟩

def registerPersistentDeviceDataUser (registry : Registry Device) (pddu : Pddu Device) :
    Registry Device :=
  { registeredPdduList :=
      registry.registeredPdduList.take registry.numRegisteredPddus.toNat ++ [pddu]
    numRegisteredPddus := registry.numRegisteredPddus + 1 }

/-- The users that the loops go through. -/
def registered (registry : Registry Device) : List (Pddu Device) :=
  registry.registeredPdduList.take registry.numRegisteredPddus.toNat

def getAllPddusPayloadLengths (registry : Registry Device) (device : Device) : List UInt8 :=
  registry.registered.map fun pddu =>
    if pddu.getLen device ≠ 0 then pddu.getLen device + sizeOfTypeAndLen else pddu.getLen device

def getRegisteredPddu (registry : Registry Device) (id : UInt8) : Option (Pddu Device) :=
  registry.registered.find? fun pddu => pddu.id = id.toNat

end Registry

def sumAllPdduPayloads (pddusPayloadLengths : List UInt8) : UInt8 :=
  pddusPayloadLengths.foldl (fun sum length => sum + length) 0

def writeBytes (buffer : List UInt8) (offset : Nat) (bytes : List UInt8) : Option (List UInt8) :=
  if offset + bytes.length ≤ buffer.length then
    some (buffer.take offset ++ (bytes ++ buffer.drop (offset + bytes.length)))
  else none

def addPdduData (device : Device) (pddu : Pddu Device) (frame : List UInt8) (payload : Nat)
    (len : UInt8) : Option (List UInt8) :=
  writeBytes frame payload (UInt8.ofNat pddu.id :: len :: pddu.ser device)

/-- The loop of `DeviceDbSerialiser_PopulatePddFrame`. -/
def populateLoop (device : Device) (frame : List UInt8) (offset : UInt8) :
    List (Pddu Device × UInt8) → Option (List UInt8)
  | [] => some frame
  | (pddu, len) :: pddus =>
      if len ≠ 0 then
        (addPdduData device pddu frame (payloadOffsetInFrame + offset.toNat) len).bind fun frame =>
          populateLoop device frame (offset + len) pddus
      else populateLoop device frame offset pddus

def populatePddFrame (registry : Registry Device) (device : Device) (frame pddusLen : List UInt8) :
    Option (List UInt8) :=
  populateLoop device frame 0 (registry.registered.zip pddusLen)

def createPddFrame (totalLen : Nat) : List UInt8 :=
  let totalLen := totalLen + sizeOfTypeAndLen.toNat
  ((List.replicate (psSizeAdj totalLen * 2) 0).set 0 dbsPddFrameType).set 1 (UInt8.ofNat totalLen)

/-- The attributes of the trusted devices: whole words. -/
abbrev Attributes (Addr : Type) := Addr → Option (List UInt8)

def putAttribute [DecidableEq Addr] (attributes : Attributes Addr) (addr : Addr) (size : Nat)
    (psdata : List UInt8) : Option (Attributes Addr) :=
  match attributes addr with
  | none => some attributes
  | some _ =>
      if psSizeAdj size * 2 ≤ psdata.length then
        some (Function.update attributes addr (some (psdata.take (psSizeAdj size * 2))))
      else none

/-- `deviceDbSerialiser_SerialiseDevice`, for a device that is on the device list: whether
a frame was stored. -/
def serialiseDevice [DecidableEq Addr] (registry : Registry Device) (bdaddr : Device → Option Addr)
    (attributes : Attributes Addr) (device : Device) : Option (Bool × Attributes Addr) :=
  if registry.numRegisteredPddus = 0 then some (false, attributes)
  else
    match bdaddr device with
    | none => some (false, attributes)
    | some addr =>
        let pddusPayloadLengths := registry.getAllPddusPayloadLengths device
        let pddFramePayloadLen := sumAllPdduPayloads pddusPayloadLengths
        if pddFramePayloadLen ≠ 0 then do
          let frame ← populatePddFrame registry device
            (createPddFrame pddFramePayloadLen.toNat) pddusPayloadLengths
          let size ← frame[1]?
          let attributes ← putAttribute attributes addr size.toNat frame
          some (true, attributes)
        else some (false, attributes)

/-- The loop of `deviceDbSerialiser_DeserialisePddFrame`.  Its watchdog counts up from one
and is zero after 255 rounds, which is a panic even if the loop is done by then. -/
def deserialiseLoop (registry : Registry Device) (frame : List UInt8) (endOfPddFrame : Nat) :
    Nat → Nat → Option (List (DeserCall Device))
  | 0, _ => none
  | rounds + 1, payload =>
      if payload < endOfPddFrame then do
        let thisPdduId ← frame[payload]?
        let thisPdduLen ← frame[payload + 1]?
        let calls ← deserialiseLoop registry frame endOfPddFrame rounds
          (payload + thisPdduLen.toNat)
        match registry.getRegisteredPddu thisPdduId with
        | some pddu =>
            some ({ pddu := pddu
                    buf := frame.drop (payload + payloadOffsetInFrame)
                    dataLength :=
                      if thisPdduLen < sizeOfMetadata then 0
                      else thisPdduLen - sizeOfMetadata } :: calls)
        | none => some calls
      else some []

def deserialisePddFrame (registry : Registry Device) (frame : List UInt8) :
    Option (List (DeserCall Device)) :=
  frame[1]?.bind fun length =>
    deserialiseLoop registry frame length.toNat 255 payloadOffsetInFrame

def checkAttributesAndDeserialiseDevice (registry : Registry Device) (attributes : Attributes Addr)
    (addr : Addr) : Option (List (DeserCall Device)) :=
  match attributes addr with
  | none => some []
  | some [] => some []
  | some (type :: frame) =>
      if type = dbsPddFrameType then deserialisePddFrame registry (type :: frame) else none

end HeadsetAdk.DeviceDb
