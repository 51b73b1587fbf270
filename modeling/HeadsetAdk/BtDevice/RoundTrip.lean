import HeadsetAdk.BtDevice.PersistentData

/-! # Persistent data is restored -/

namespace HeadsetAdk.BtDevice

open LittleEndian (bytes value)

def Pdd.value (data : Pdd) : (property : Property) → property.Value
  | .audioVolume => data.a2dpVolume
  | .voiceVolume => data.hfpVolume
  | .hfpMicGain => data.hfpMicGain
  | .hfpProfile => data.hfpProfile
  | .supportedProfiles => data.supportedProfiles
  | .flags => data.flags
  | .type => data.type
  | .linkMode => data.linkMode
  | .scoFwdFeatures => data.scoFwdFeatures
  | .batteryServerConfigL => data.batteryServerConfigL
  | .batteryServerConfigR => data.batteryServerConfigR
  | .gattServerConfig => data.gattServerConfig
  | .gattServerServicesChanged => data.gattServerServicesChanged
  | .voiceAssistant => data.voiceAssistant
  | .deviceTestService => data.dts
  | .vaFlags => data.vaFlags
  | .sassSwitchDisabled => data.sassSwitchDisabled
  | .vaLocale => data.vaLocale
  | .v1HandsetServiceConfig => data.handsetServiceConfig
  | .analogAudioVolume => data.analogAudioVolume
  | .handsetAccountKeyIndex => data.handsetAccountKeyIndex
  | .gattServiceDiscovery => data.gsdCompleted

def carriedForType (type : UInt8) : List Property :=
  if type = deviceTypeEarbud then [.scoFwdFeatures, .supportedProfiles]
  else if type = deviceTypeSink ∨ type = deviceTypeHandset then
    [.audioVolume, .voiceVolume, .hfpMicGain, .hfpProfile, .gattServerServicesChanged,
      .batteryServerConfigL, .batteryServerConfigR, .gattServerConfig, .supportedProfiles,
      .handsetAccountKeyIndex, .gattServiceDiscovery]
  else if type = deviceTypeSelf then
    [.v1HandsetServiceConfig, .analogAudioVolume, .supportedProfiles, .sassSwitchDisabled]
  else []

def carriedForMost : List Property :=
  [.type, .flags, .linkMode, .voiceAssistant, .vaFlags, .vaLocale, .deviceTestService]

def carried (type : UInt8) : List Property :=
  if type = deviceTypeHandsetLe then [.type, .flags, .gattServiceDiscovery]
  else carriedForMost ++ carriedForType type

theorem getDeviceData_value (device : Device) (property : Property) :
    (getDeviceData device).value property = (device property).getD (Pdd.zero.value property) := by
  cases property <;> rfl

theorem setForType_apply (device : Device) (data : Pdd) (property : Property) :
    setForType device data property =
      if property ∈ carriedForType data.type then some (data.value property)
      else device property := by
  rw [setForType, carriedForType]
  dsimp only
  split
  · cases property <;> rfl
  · split
    · cases property <;> rfl
    · split
      · cases property <;> rfl
      · exact (if_neg List.not_mem_nil).symm

theorem deviceTestService_notForType (type : UInt8) :
    Property.deviceTestService ∉ carriedForType type := by
  rw [carriedForType]
  split
  · decide
  · split
    · decide
    · split <;> decide

theorem setDeviceData_create (data : Pdd) (property : Property) :
    setDeviceData .create data property =
      if property ∈ carried data.type ∧ (property = .deviceTestService → data.dts ≠ 0) then
        some (data.value property)
      else none := by
  rw [setDeviceData, carried]
  dsimp only
  by_cases isLe : data.type = deviceTypeHandsetLe
  · rw [if_pos isLe, if_pos isLe]
    cases property <;> rfl
  · rw [if_neg isLe, if_neg isLe, setForType_apply]
    by_cases forType : property ∈ carriedForType data.type
    · have tested : property = .deviceTestService → data.dts ≠ 0 := by
        rintro rfl
        exact absurd forType (deviceTestService_notForType data.type)
      rw [if_pos forType, if_pos ⟨List.mem_append_right _ forType, tested⟩]
    · have most : property ∈ carriedForMost ++ carriedForType data.type ↔
          property ∈ carriedForMost := List.mem_append.trans (or_iff_left forType)
      rw [if_neg forType]
      refine Eq.trans ?_ (if_congr (and_congr_left' most) rfl rfl).symm
      by_cases tested : data.dts = 0
      · rw [if_pos tested]
        cases property
        case deviceTestService => exact (if_neg fun both => both.2 rfl tested).symm
        all_goals rfl
      · rw [if_neg tested]
        cases property
        case deviceTestService => exact (if_pos ⟨by decide, fun _ => tested⟩).symm
        all_goals rfl

def again16 (number : UInt16) : UInt16 :=
  UInt16.ofNat ((UInt8.ofNat (number.toNat / 256)).toNat <<< 8 |||
    (UInt8.ofNat number.toNat).toNat)

def again32 (number : UInt32) : UInt32 :=
  UInt32.ofNat ((UInt8.ofNat (number.toNat / 256 / 256 / 256)).toNat <<< 24 |||
    (UInt8.ofNat (number.toNat / 256 / 256)).toNat <<< 16 |||
    (UInt8.ofNat (number.toNat / 256)).toNat <<< 8 ||| (UInt8.ofNat number.toNat).toNat)

theorem again16_eq (number : UInt16) : again16 number = number := by
  have whole : value (bytes 2 number.toNat) = number.toNat := by
    rw [LittleEndian.value_bytes]
    exact Nat.mod_eq_of_lt number.toNat_lt
  rw [again16, LittleEndian.value_two]
  exact (congrArg UInt16.ofNat whole).trans (UInt16.ofNat_toNat)

theorem again32_eq (number : UInt32) : again32 number = number := by
  have whole : value (bytes 4 number.toNat) = number.toNat := by
    rw [LittleEndian.value_bytes]
    exact Nat.mod_eq_of_lt number.toNat_lt
  rw [again32, LittleEndian.value_four]
  exact (congrArg UInt32.ofNat whole).trans (UInt32.ofNat_toNat)

section Reading

variable (config : Config) (data before : Pdd)

theorem loadFirst_serialise :
    loadFirst (serialisePddu data) 1 Pdd.zero = some ({ Pdd.zero with
        a2dpVolume := data.a2dpVolume
        hfpProfile := data.hfpProfile
        type := data.type
        linkMode := data.linkMode
        reserved1 := data.reserved1
        reserved2 := data.reserved2
        padding := again16 data.padding
        flags := again16 data.flags
        scoFwdFeatures := again16 data.scoFwdFeatures
        batteryServerConfigL := again16 data.batteryServerConfigL
        batteryServerConfigR := again16 data.batteryServerConfigR
        gattServerConfig := again16 data.gattServerConfig
        gattServerServicesChanged := data.gattServerServicesChanged
        voiceAssistant := data.voiceAssistant
        dts := data.dts }, 22) :=
  rfl

theorem load202_serialise :
    properties202.loadProperties (serialisePddu data) 22 before = some ({ before with
        supportedProfiles := again32 data.supportedProfiles
        lastConnectedProfiles := again32 data.lastConnectedProfiles }, 30) :=
  rfl

theorem load203_serialise :
    properties203.loadProperties (serialisePddu data) 30 before = some ({ before with
        hfpVolume := data.hfpVolume
        hfpMicGain := data.hfpMicGain }, 32) :=
  rfl

theorem load2031_serialise :
    (properties2031 config).loadProperties (serialisePddu data) 32 before = some ({ before with
        vaFlags := data.vaFlags
        vaLocale := data.vaLocale }, 37) :=
  rfl

theorem load211_serialise :
    (properties211 config).loadProperties (serialisePddu data) 37 before = some ({ before with
        handsetServiceConfig := again32 data.handsetServiceConfig
        analogAudioVolume := data.analogAudioVolume }, 42) :=
  rfl

theorem load222_serialise :
    properties222.loadProperties (serialisePddu data) 42 before = some ({ before with
        handsetAccountKeyIndex := data.handsetAccountKeyIndex
        sassSwitchDisabled := data.sassSwitchDisabled
        gsdCompleted := data.gsdCompleted }, 45) :=
  rfl

theorem loadVersions_load {buf : List UInt8} {dataLength index index' : Nat}
    {version : DeserFns} {versions : List DeserFns} {after : Pdd}
    (enough : index + version.size ≤ dataLength)
    (load : version.loadProperties buf index before = some (after, index')) :
    loadVersions buf dataLength (version :: versions) index before =
      loadVersions buf dataLength versions index' after := by
  rw [loadVersions, if_pos enough, load]
  rfl

theorem deserialise_serialise :
    deserialisePdd (serialisePddu data) config calculateLengthPdd = some data := by
  have length : (calculateLengthPdd + 255) % 256 = 45 := by decide
  rw [deserialisePdd, loadFirst_serialise, length, deserFns]
  dsimp only [Option.bind_eq_bind, Option.bind_some]
  rw [loadVersions_load _ (by decide) (load202_serialise data _),
    loadVersions_load _ (by decide) (load203_serialise data _),
    loadVersions_load _ (show 32 + 5 ≤ 45 by decide) (load2031_serialise config data _),
    loadVersions_load _ (show 37 + 5 ≤ 45 by decide) (load211_serialise config data _),
    loadVersions_load _ (by decide) (load222_serialise data _), loadVersions]
  simp only [again16_eq, again32_eq]

end Reading

section Persisting

variable (config : Config) (device : Device)

def persist : Option Device :=
  deserialisePersistentDeviceData (serialisePersistentDeviceData device) config .create
    calculateLengthPdd

theorem persist_eq :
    persist config device = some (setDeviceData .create (getDeviceData device)) := by
  rw [persist, deserialisePersistentDeviceData, serialisePersistentDeviceData,
    deserialise_serialise]
  rfl

def firstVersion : List Property :=
  [.audioVolume, .hfpProfile, .type, .linkMode, .flags, .scoFwdFeatures, .batteryServerConfigL,
    .batteryServerConfigR, .gattServerConfig, .gattServerServicesChanged, .voiceAssistant,
    .deviceTestService]

def defaultValue (property : Property) : Option property.Value :=
  if property ∈ firstVersion then none
  else
    some (((deserFns config).foldl (fun data version => version.setDefaults data)
      Pdd.zero).value property)

structure Restores (restored : Device) (property : Property) : Prop where
  present : ∀ value, device property = some value → restored property = some value
  absent : device property = none →
    restored property = none ∨ restored property = defaultValue config property

def keptType : UInt8 := (getDeviceData device).type

structure Persistable : Prop where
  absent : ∀ property ∈ carried (keptType device), device property = none →
    property = .deviceTestService ∨
      defaultValue config property = some (Pdd.zero.value property)
  tested : Property.deviceTestService ∈ carried (keptType device) →
    device .deviceTestService ≠ some (0 : UInt8)

variable {config device} {property : Property}

theorem restored_carried (isCarried : property ∈ carried (keptType device))
    (other : property ≠ .deviceTestService) :
    setDeviceData .create (getDeviceData device) property =
      some ((device property).getD (Pdd.zero.value property)) := by
  rw [setDeviceData_create, if_pos ⟨isCarried, fun same => absurd same other⟩, getDeviceData_value]

theorem restored_tested (isCarried : Property.deviceTestService ∈ carried (keptType device)) :
    setDeviceData .create (getDeviceData device) .deviceTestService =
      if (getDeviceData device).dts ≠ 0 then device .deviceTestService else none := by
  rw [setDeviceData_create, getDeviceData_value]
  by_cases zero : (getDeviceData device).dts = 0
  · rw [if_neg fun both => both.2 rfl zero, if_neg (not_not.mpr zero)]
  · rw [if_pos ⟨isCarried, fun _ => zero⟩, if_pos zero]
    cases present : device .deviceTestService with
    | none =>
      have dts : (getDeviceData device).dts = 0 :=
        (congrArg (Option.getD · (0 : UInt8)) present).trans rfl
      exact absurd dts zero
    | some value => rfl

/-- What is kept for a device restores the properties of its type just when those that are
absent have zero as their default. -/
theorem persist_restores_iff (config : Config) (device : Device) :
    ∃ restored, persist config device = some restored ∧
      ((∀ property ∈ carried (keptType device), Restores config device restored property) ↔
        Persistable config device) := by
  refine ⟨_, persist_eq config device, ⟨fun restores => ?_, fun persistable => ?_⟩⟩
  · constructor
    · intro property isCarried absent
      by_cases other : property = .deviceTestService
      · exact Or.inl other
      · have value := restored_carried isCarried other
        rw [absent, Option.getD_none] at value
        cases (restores property isCarried).absent absent with
        | inl none => exact absurd (value.symm.trans none) (Option.some_ne_none _)
        | inr default => exact Or.inr (default.symm.trans value)
    · intro isCarried zero
      have value := (restores _ isCarried).present _ zero
      have dts : (getDeviceData device).dts = 0 :=
        (congrArg (Option.getD · (0 : UInt8)) zero).trans rfl
      rw [restored_tested isCarried, if_neg (not_not.mpr dts)] at value
      exact absurd value.symm (Option.some_ne_none _)
  · intro property isCarried
    by_cases other : property = .deviceTestService
    · subst other
      have value := restored_tested isCarried
      constructor
      · intro number present
        have dts : (getDeviceData device).dts = number :=
          (congrArg (Option.getD · (0 : UInt8)) present).trans rfl
        rw [if_pos] at value
        · exact value.trans present
        · rw [dts]
          rintro rfl
          exact persistable.tested isCarried present
      · intro absent
        rw [absent, ite_self] at value
        exact Or.inl value
    · have value := restored_carried isCarried other
      constructor
      · intro number present
        rw [present, Option.getD_some] at value
        exact value
      · intro absent
        rw [absent, Option.getD_none] at value
        exact Or.inr (value.trans ((persistable.absent property isCarried absent).resolve_left
          other).symm)

end Persisting

def withoutAccountKey : Device :=
  Function.update (setDeviceData .create { Pdd.zero with type := deviceTypeHandset })
    .handsetAccountKeyIndex none

/-- It gets the first account key, where its default is an index that is not valid. -/
theorem withoutAccountKey_invented :
    ∃ restored, persist ⟨false, []⟩ withoutAccountKey = some restored ∧
      restored .handsetAccountKeyIndex = some (0 : UInt8) ∧
      defaultValue ⟨false, []⟩ .handsetAccountKeyIndex = some (0xff : UInt8) ∧
      ¬ ∀ property ∈ carried (keptType withoutAccountKey),
        Restores ⟨false, []⟩ withoutAccountKey restored property := by
  refine ⟨_, persist_eq _ _, rfl, rfl, fun restores => ?_⟩
  cases (restores .handsetAccountKeyIndex (by decide)).absent rfl with
  | inl none => exact absurd none (Option.some_ne_none _)
  | inr default =>
    have same : (0 : UInt8) = 0xff := Option.some.inj default
    exact absurd same (by decide)

end HeadsetAdk.BtDevice
