import HeadsetAdk.Lib.LittleEndian
import Mathlib.Logic.Function.Basic

/-!
# The persistent data of a Bluetooth device

A device is the values of its properties, each of which may be absent.  They are written to a buffer
byte by byte; what an older version did not write gets its default.  `none` is a read outside of the
buffer.
-/

namespace HeadsetAdk.BtDevice

/-- `va_locale` of the persistent data -/
structure Locale where
  first : UInt8
  second : UInt8
  third : UInt8
  fourth : UInt8
deriving DecidableEq

/-- The properties of `device_property_t` that are kept -/
inductive Property
  | audioVolume
  | voiceVolume
  | hfpMicGain
  | hfpProfile
  | supportedProfiles
  | flags
  | type
  | linkMode
  | scoFwdFeatures
  | batteryServerConfigL
  | batteryServerConfigR
  | gattServerConfig
  | gattServerServicesChanged
  | voiceAssistant
  | deviceTestService
  | vaFlags
  | sassSwitchDisabled
  | vaLocale
  | v1HandsetServiceConfig
  | analogAudioVolume
  | handsetAccountKeyIndex
  | gattServiceDiscovery
deriving DecidableEq

def Property.Value : Property → Type
  | .supportedProfiles | .v1HandsetServiceConfig => UInt32
  | .flags | .scoFwdFeatures | .batteryServerConfigL | .batteryServerConfigR
  | .gattServerConfig => UInt16
  | .vaLocale => Locale
  | .audioVolume | .voiceVolume | .hfpMicGain | .hfpProfile | .type | .linkMode
  | .gattServerServicesChanged | .voiceAssistant | .deviceTestService | .vaFlags
  | .sassSwitchDisabled | .analogAudioVolume | .handsetAccountKeyIndex
  | .gattServiceDiscovery => UInt8

def Device : Type := (property : Property) → Option property.Value

def Device.create : Device := fun _ => none

/-- `Device_SetProperty` and the functions for numbers -/
def Device.set (device : Device) (property : Property) (value : property.Value) : Device :=
  Function.update device property (some value)

/-- `deviceType` -/
def deviceTypeUnknown : UInt8 := 0
def deviceTypeEarbud : UInt8 := 1
def deviceTypeHandset : UInt8 := 2
def deviceTypeSelf : UInt8 := 3
def deviceTypeSink : UInt8 := 4
def deviceTypeHandsetLe : UInt8 := 5

structure Pdd where
  a2dpVolume : UInt8
  hfpProfile : UInt8
  type : UInt8
  linkMode : UInt8
  reserved1 : UInt8
  reserved2 : UInt8
  padding : UInt16
  flags : UInt16
  scoFwdFeatures : UInt16
  batteryServerConfigL : UInt16
  batteryServerConfigR : UInt16
  gattServerConfig : UInt16
  gattServerServicesChanged : UInt8
  voiceAssistant : UInt8
  dts : UInt8
  supportedProfiles : UInt32
  lastConnectedProfiles : UInt32
  hfpVolume : UInt8
  hfpMicGain : UInt8
  vaFlags : UInt8
  vaLocale : Locale
  handsetServiceConfig : UInt32
  analogAudioVolume : UInt8
  handsetAccountKeyIndex : UInt8
  sassSwitchDisabled : UInt8
  gsdCompleted : UInt8
deriving DecidableEq

/-- `bt_device_pdd_t` with all bytes zero -/
def Pdd.zero : Pdd :=
  { a2dpVolume := 0
    hfpProfile := 0
    type := 0
    linkMode := 0
    reserved1 := 0
    reserved2 := 0
    padding := 0
    flags := 0
    scoFwdFeatures := 0
    batteryServerConfigL := 0
    batteryServerConfigR := 0
    gattServerConfig := 0
    gattServerServicesChanged := 0
    voiceAssistant := 0
    dts := 0
    supportedProfiles := 0
    lastConnectedProfiles := 0
    hfpVolume := 0
    hfpMicGain := 0
    vaFlags := 0
    vaLocale := ⟨0, 0, 0, 0⟩
    handsetServiceConfig := 0
    analogAudioVolume := 0
    handsetAccountKeyIndex := 0
    sassSwitchDisabled := 0
    gsdCompleted := 0 }

/-- `BtDevice_GetDeviceData` for zeroed data; what is absent stays zero. -/
def getDeviceData (device : Device) : Pdd :=
  { Pdd.zero with
    a2dpVolume := (device .audioVolume).getD Pdd.zero.a2dpVolume
    hfpVolume := (device .voiceVolume).getD Pdd.zero.hfpVolume
    hfpMicGain := (device .hfpMicGain).getD Pdd.zero.hfpMicGain
    hfpProfile := (device .hfpProfile).getD Pdd.zero.hfpProfile
    reserved1 := 0
    reserved2 := 0
    supportedProfiles := (device .supportedProfiles).getD Pdd.zero.supportedProfiles
    flags := (device .flags).getD Pdd.zero.flags
    type := (device .type).getD Pdd.zero.type
    linkMode := (device .linkMode).getD Pdd.zero.linkMode
    scoFwdFeatures := (device .scoFwdFeatures).getD Pdd.zero.scoFwdFeatures
    batteryServerConfigL := (device .batteryServerConfigL).getD Pdd.zero.batteryServerConfigL
    batteryServerConfigR := (device .batteryServerConfigR).getD Pdd.zero.batteryServerConfigR
    gattServerConfig := (device .gattServerConfig).getD Pdd.zero.gattServerConfig
    gattServerServicesChanged :=
      (device .gattServerServicesChanged).getD Pdd.zero.gattServerServicesChanged
    voiceAssistant := (device .voiceAssistant).getD Pdd.zero.voiceAssistant
    dts := (device .deviceTestService).getD Pdd.zero.dts
    vaFlags := (device .vaFlags).getD Pdd.zero.vaFlags
    sassSwitchDisabled := (device .sassSwitchDisabled).getD Pdd.zero.sassSwitchDisabled
    vaLocale := (device .vaLocale).getD Pdd.zero.vaLocale
    handsetServiceConfig := (device .v1HandsetServiceConfig).getD Pdd.zero.handsetServiceConfig
    analogAudioVolume := (device .analogAudioVolume).getD Pdd.zero.analogAudioVolume
    handsetAccountKeyIndex :=
      (device .handsetAccountKeyIndex).getD Pdd.zero.handsetAccountKeyIndex
    gsdCompleted := (device .gattServiceDiscovery).getD Pdd.zero.gsdCompleted }

/-- The cases for the types in `BtDevice_SetDeviceData` -/
def setForType (device : Device) (data : Pdd) : Device :=
  if data.type = deviceTypeEarbud then
    (device.set .scoFwdFeatures data.scoFwdFeatures).set .supportedProfiles data.supportedProfiles
  else if data.type = deviceTypeSink ∨ data.type = deviceTypeHandset then
    let device := device.set .audioVolume data.a2dpVolume
    let device := device.set .voiceVolume data.hfpVolume
    let device := device.set .hfpMicGain data.hfpMicGain
    let device := device.set .hfpProfile data.hfpProfile
    let device := device.set .gattServerServicesChanged data.gattServerServicesChanged
    let device := device.set .batteryServerConfigL data.batteryServerConfigL
    let device := device.set .batteryServerConfigR data.batteryServerConfigR
    let device := device.set .gattServerConfig data.gattServerConfig
    let device := device.set .supportedProfiles data.supportedProfiles
    let device := device.set .handsetAccountKeyIndex data.handsetAccountKeyIndex
    device.set .gattServiceDiscovery data.gsdCompleted
  else if data.type = deviceTypeSelf then
    let device := device.set .v1HandsetServiceConfig data.handsetServiceConfig
    let device := device.set .analogAudioVolume data.analogAudioVolume
    let device := device.set .supportedProfiles data.supportedProfiles
    device.set .sassSwitchDisabled data.sassSwitchDisabled
  else device

def setDeviceData (device : Device) (data : Pdd) : Device :=
  let device := (device.set .type data.type).set .flags data.flags
  if data.type = deviceTypeHandsetLe then device.set .gattServiceDiscovery data.gsdCompleted
  else
    let device := device.set .linkMode data.linkMode
    let device := device.set .voiceAssistant data.voiceAssistant
    let device := device.set .vaFlags data.vaFlags
    let device := device.set .vaLocale data.vaLocale
    setForType (if data.dts = 0 then device else device.set .deviceTestService data.dts) data

section Serialising

open LittleEndian (bytes)

/-- `BtDevice_SerialisePddu`: the bytes that are written; without a buffer they are only
counted. -/
def serialisePddu (pdd : Pdd) : List UInt8 :=
  [[0x0b], [pdd.a2dpVolume], [pdd.hfpProfile], [pdd.type], [pdd.linkMode], [pdd.reserved1],
    [pdd.reserved2], bytes 2 pdd.padding.toNat, bytes 2 pdd.flags.toNat,
    bytes 2 pdd.scoFwdFeatures.toNat, bytes 2 pdd.batteryServerConfigL.toNat,
    bytes 2 pdd.batteryServerConfigR.toNat, bytes 2 pdd.gattServerConfig.toNat,
    [pdd.gattServerServicesChanged], [pdd.voiceAssistant], [pdd.dts],
    bytes 4 pdd.supportedProfiles.toNat, bytes 4 pdd.lastConnectedProfiles.toNat,
    [pdd.hfpVolume], [pdd.hfpMicGain], [pdd.vaFlags],
    [pdd.vaLocale.first, pdd.vaLocale.second, pdd.vaLocale.third, pdd.vaLocale.fourth],
    bytes 4 pdd.handsetServiceConfig.toNat, [pdd.analogAudioVolume],
    [pdd.handsetAccountKeyIndex], [pdd.sassSwitchDisabled], [pdd.gsdCompleted], [0xff]].flatten

/-- `btDevice_calculateLengthPdd`, which is the registered length -/
def calculateLengthPdd : Nat := (serialisePddu Pdd.zero).length % 256

def serialisePersistentDeviceData (device : Device) : List UInt8 :=
  serialisePddu (getDeviceData device)

end Serialising

section Deserialising

variable (buf : List UInt8) (index : Nat)

/-- `btDevice_DeserialisePddAndIncrementIndexU8` -/
def readU8 : Option (UInt8 × Nat) := do
  let byte ← buf[index]?
  some (byte, index + 1)

/-- `btDevice_DeserialisePddAndIncrementIndexU16` -/
def readU16 : Option (UInt16 × Nat) := do
  let high ← buf[index + 1]?
  let low ← buf[index]?
  some (UInt16.ofNat (high.toNat <<< 8 ||| low.toNat), index + 2)

/-- `btDevice_DeserialisePddAndIncrementIndexU32` -/
def readU32 : Option (UInt32 × Nat) := do
  let fourth ← buf[index + 3]?
  let third ← buf[index + 2]?
  let second ← buf[index + 1]?
  let first ← buf[index]?
  some (UInt32.ofNat (fourth.toNat <<< 24 ||| third.toNat <<< 16 ||| second.toNat <<< 8 |||
    first.toNat), index + 4)

/-- `btDevice_DeserialisePddAndIncrementIndex` for the locale -/
def readLocale : Option (Locale × Nat) := do
  let first ← buf[index]?
  let second ← buf[index + 1]?
  let third ← buf[index + 2]?
  let fourth ← buf[index + 3]?
  some (⟨first, second, third, fourth⟩, index + 4)

/-- `bt_device_deser_callbacks_t`, with the number of bytes that the properties need -/
structure DeserFns where
  size : Nat
  loadProperties : List UInt8 → Nat → Pdd → Option (Pdd × Nat)
  setDefaults : Pdd → Pdd

/-- Whether the build has `INCLUDE_WUW`, and the callbacks for defaults, each with the value that
it writes. -/
structure Config where
  includeWuw : Bool
  defaultValueCallbacks : List (Property × UInt32)

/-- The properties of the version `0x2020` -/
def properties202 : DeserFns where
  size := 8
  loadProperties buf index data := do
    let (supportedProfiles, index) ← readU32 buf index
    let (lastConnectedProfiles, index) ← readU32 buf index
    some ({ data with
      supportedProfiles := supportedProfiles
      lastConnectedProfiles := lastConnectedProfiles }, index)
  setDefaults data :=
    { data with
      supportedProfiles := data.reserved1.toUInt32
      lastConnectedProfiles := data.reserved2.toUInt32 }

/-- The properties of the version `0x2030` -/
def properties203 : DeserFns where
  size := 2
  loadProperties buf index data := do
    let (hfpVolume, index) ← readU8 buf index
    let (hfpMicGain, index) ← readU8 buf index
    some ({ data with
      hfpVolume := hfpVolume
      hfpMicGain := hfpMicGain }, index)
  setDefaults data :=
    { data with
      hfpVolume := 10
      hfpMicGain := 15 }

def vaFlagWuwEnabled : UInt8 := 1

/-- The properties of the version `0x2031` -/
def properties2031 (config : Config) : DeserFns where
  size := 5
  loadProperties buf index data := do
    let (vaFlags, index) ← readU8 buf index
    let (vaLocale, index) ← readLocale buf index
    some ({ data with
      vaFlags := vaFlags
      vaLocale := vaLocale }, index)
  setDefaults data :=
    { data with
      vaFlags := if config.includeWuw then vaFlagWuwEnabled else 0
      vaLocale := ⟨0, 0, 0, 0⟩ }

/-- The properties of the version `0x2110` -/
def properties211 (config : Config) : DeserFns where
  size := 5
  loadProperties buf index data := do
    let (handsetServiceConfig, index) ← readU32 buf index
    let (analogAudioVolume, index) ← readU8 buf index
    some ({ data with
      handsetServiceConfig := handsetServiceConfig
      analogAudioVolume := analogAudioVolume }, index)
  setDefaults data :=
    { data with
      handsetServiceConfig :=
        ((config.defaultValueCallbacks.find? fun callback =>
          decide (callback.1 = .v1HandsetServiceConfig)).map Prod.snd).getD
            data.handsetServiceConfig
      analogAudioVolume := 10 }

/-- The properties of the version `0x2220` -/
def properties222 : DeserFns where
  size := 3
  loadProperties buf index data := do
    let (handsetAccountKeyIndex, index) ← readU8 buf index
    let (sassSwitchDisabled, index) ← readU8 buf index
    let (gsdCompleted, index) ← readU8 buf index
    some ({ data with
      handsetAccountKeyIndex := handsetAccountKeyIndex
      sassSwitchDisabled := sassSwitchDisabled
      gsdCompleted := gsdCompleted }, index)
  setDefaults data :=
    { data with
      handsetAccountKeyIndex := 0xff
      sassSwitchDisabled := 0
      gsdCompleted := 0 }

def deserFns (config : Config) : List DeserFns :=
  [properties202, properties203, properties2031 config, properties211 config, properties222]

/-- The properties of the first version, at the start of
`btDevice_DeserialisePersistentDeviceData` -/
def loadFirst (data : Pdd) : Option (Pdd × Nat) := do
  let (a2dpVolume, index) ← readU8 buf index
  let (hfpProfile, index) ← readU8 buf index
  let (type, index) ← readU8 buf index
  let (linkMode, index) ← readU8 buf index
  let (reserved1, index) ← readU8 buf index
  let (reserved2, index) ← readU8 buf index
  let (padding, index) ← readU16 buf index
  let (flags, index) ← readU16 buf index
  let (scoFwdFeatures, index) ← readU16 buf index
  let (batteryServerConfigL, index) ← readU16 buf index
  let (batteryServerConfigR, index) ← readU16 buf index
  let (gattServerConfig, index) ← readU16 buf index
  let (gattServerServicesChanged, index) ← readU8 buf index
  let (voiceAssistant, index) ← readU8 buf index
  let (dts, index) ← readU8 buf index
  some ({ data with
    a2dpVolume := a2dpVolume
    hfpProfile := hfpProfile
    type := type
    linkMode := linkMode
    reserved1 := reserved1
    reserved2 := reserved2
    padding := padding
    flags := flags
    scoFwdFeatures := scoFwdFeatures
    batteryServerConfigL := batteryServerConfigL
    batteryServerConfigR := batteryServerConfigR
    gattServerConfig := gattServerConfig
    gattServerServicesChanged := gattServerServicesChanged
    voiceAssistant := voiceAssistant
    dts := dts }, index)

/-- The loops over `deser_fns`: the versions for which there is data are loaded, and the rest get
their defaults. -/
def loadVersions (dataLength : Nat) : List DeserFns → Nat → Pdd → Option Pdd
  | [], _, data => some data
  | version :: versions, index, data =>
      if index + version.size ≤ dataLength then do
        let (data, index) ← version.loadProperties buf index data
        loadVersions dataLength versions index data
      else some ((version :: versions).foldl (fun data version => version.setDefaults data) data)

/-- `btDevice_DeserialisePersistentDeviceData` up to the data that it sets; the last byte is no
data. -/
def deserialisePdd (config : Config) (dataLength : Nat) : Option Pdd := do
  let (data, index) ← loadFirst buf 1 Pdd.zero
  loadVersions buf ((dataLength + 255) % 256) (deserFns config) index data

def deserialisePersistentDeviceData (config : Config) (device : Device) (dataLength : Nat) :
    Option Device :=
  (deserialisePdd buf config dataLength).map (setDeviceData device)

end Deserialising

end HeadsetAdk.BtDevice
