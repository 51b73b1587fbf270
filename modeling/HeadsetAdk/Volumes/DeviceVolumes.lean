import HeadsetAdk.Volumes.VolumeUtils

/-!
# Volumes of a device

`device_properties.c`: the volumes of a profile are kept as properties of a device, converted to
one byte.
-/

namespace HeadsetAdk.Volumes

inductive DeviceProperty
  | audioVolume
  | voiceVolume
  deriving DecidableEq, Repr

abbrev Device := DeviceProperty → Option UInt8

def Device.setPropertyU8 (device : Device) (property : DeviceProperty) (value : UInt8) : Device :=
  fun other => if other = property then some value else device other

def Device.getPropertyU8 (device : Device) (property : DeviceProperty) : Option UInt8 :=
  device property

/-- `DEVICE_AUDIO_VOLUME_CONFIG` and `DEVICE_VOICE_VOLUME_CONFIG` -/
def deviceVolumeConfig : VolumeConfig := ⟨⟨0, 255⟩, 256⟩

def setVolume (property : DeviceProperty) (device : Option Device) (volume : Volume) :
    Except Fault (Bool × Option Device) :=
  match device with
  | none => .ok (false, none)
  | some device => do
      let value ← convertToVolumeConfig volume deviceVolumeConfig
      return (true, some (device.setPropertyU8 property (UInt8.ofInt value)))

def getVolume (property : DeviceProperty) (device : Option Device) (config : VolumeConfig) :
    Except Fault (Option Volume) :=
  match device.bind fun device => device.getPropertyU8 property with
  | none => .ok none
  | some byte => do
      let value ← convertToVolumeConfig ⟨deviceVolumeConfig, byte.toNat⟩ config
      return some ⟨config, value⟩

def setAudioVolume : Option Device → Volume → Except Fault (Bool × Option Device) :=
  setVolume .audioVolume

def getAudioVolume : Option Device → VolumeConfig → Except Fault (Option Volume) :=
  getVolume .audioVolume

def setVoiceVolume : Option Device → Volume → Except Fault (Bool × Option Device) :=
  setVolume .voiceVolume

def getVoiceVolume : Option Device → VolumeConfig → Except Fault (Option Volume) :=
  getVolume .voiceVolume

section Survival

open Scaling

def unitSteps (min width : Int) : VolumeConfig := ⟨⟨min, min + width⟩, width + 1⟩

def Survives (property : DeviceProperty) (device : Device) (volume : Volume) : Prop :=
  ∃ stored, setVolume property (some device) volume = .ok (true, stored) ∧
    getVolume property stored volume.config = .ok (some volume)

variable {min width value : Int}

theorem unitSteps_width (min width : Int) : (unitSteps min width).width = width :=
  add_sub_cancel_left min width

theorem getStepSize_unitSteps (positive : 0 < width) (small : width < 2 ^ 32) :
    getStepSize (unitSteps min width) = 1 := by
  have range : (unitSteps min width).range.max - (unitSteps min width).range.min = width :=
    unitSteps_width min width
  have steps : (unitSteps min width).numberOfSteps = width + 1 := rfl
  rw [getStepSize, range, steps, if_pos (by omega), Int.emod_eq_of_lt positive.le small,
    Int.add_sub_cancel, Int.ediv_self positive.ne']

theorem convert_unitSteps {input : VolumeConfig} (valid : input.Valid)
    (narrow : input.width < 2 ^ 15) (positive : 0 < width) (small : width < 2 ^ 15)
    (lower : -2 ^ 15 ≤ min) (upper : min + width < 2 ^ 15) (has : input.Has value) :
    convertToVolumeConfig ⟨input, value⟩ (unitSteps min width) =
      .ok (scale input.width width (value - input.range.min) + min) := by
  have stepSize : getStepSize (unitSteps min width) = 1 := getStepSize_unitSteps positive (by omega)
  have validFormat : (unitSteps min width).Valid :=
    ⟨lower, Int.lt_add_of_pos_right min positive, upper⟩
  have isWidth := unitSteps_width min width
  have ends : EndsOnStep (unitSteps min width) := by
    refine ⟨?_, .inl ?_⟩
    · rw [isWidth]
      change width + 1 - 1 ≤ width
      omega
    · rw [stepSize, Int.emod_one]
  have nonneg := scale_nonneg valid.width_pos positive.le (Int.sub_nonneg_of_le has.1)
  have inside := scale_le valid.width_pos positive.le
    (show value - input.range.min ≤ input.width from Int.sub_le_sub_right has.2 _)
  have two : 2 ≤ (unitSteps min width).numberOfSteps := by
    change 2 ≤ width + 1
    omega
  rw [convertToVolumeConfig, convert_eq keeps_int16 valid validFormat two narrow
    (isWidth.symm ▸ small) ends has, converted, stepSize, isWidth,
    toStep_of_dvd Int.one_pos (Int.emod_one _), limitVolumeToRange]
  change Except.ok (if scale input.width width (value - input.range.min) + min ≤ min then min
    else if scale input.width width (value - input.range.min) + min ≥ min + width then min + width
    else scale input.width width (value - input.range.min) + min) = _
  split
  · exact congrArg Except.ok (by omega)
  · split
    · exact congrArg Except.ok (by omega)
    · rfl

/-- A volume of a range of 255 at most, with limits of 16 bits, survives being stored. -/
theorem volume_survives (device : Device) (positive : 1 ≤ width) (small : width ≤ 255)
    (lower : -2 ^ 15 ≤ min) (upper : min + width < 2 ^ 15)
    (has : (unitSteps min width).Has value) (property : DeviceProperty) :
    Survives property device ⟨unitSteps min width, value⟩ := by
  have validConfig : (unitSteps min width).Valid :=
    ⟨lower, Int.lt_add_of_pos_right min positive, upper⟩
  have isWidth := unitSteps_width min width
  have stores : convertToVolumeConfig ⟨unitSteps min width, value⟩ (unitSteps 0 255) =
      .ok (scale (unitSteps min width).width 255 (value - (unitSteps min width).range.min) + 0) :=
    convert_unitSteps validConfig (show (unitSteps min width).width < 2 ^ 15 by omega) (by decide)
      (by decide) (by decide) (by decide) has
  rw [isWidth, Int.add_zero] at stores
  have distance : value - (unitSteps min width).range.min = value - min := rfl
  obtain ⟨scaled, isScaled⟩ : ∃ scaled, scale width 255 (value - min) = scaled := ⟨_, rfl⟩
  have restored : scale 255 width (scale width 255 (value - min)) = value - min :=
    scale_scale positive small (show (255 : Int) = 2 * 127 + 1 from rfl)
  have nonneg : 0 ≤ scale width 255 (value - min) :=
    scale_nonneg positive (by decide) (Int.sub_nonneg_of_le has.1)
  have inside : scale width 255 (value - min) ≤ 255 :=
    scale_le positive (by decide) (Int.sub_left_le_of_le_add has.2)
  rw [distance, isScaled] at stores
  rw [isScaled] at restored nonneg inside
  have byte : ((UInt8.ofInt scaled).toNat : Int) = scaled := by
    rw [UInt8.ofInt, UInt8.toNat_ofNat', Int.emod_eq_of_lt nonneg (by omega),
      Nat.mod_eq_of_lt (by omega), Int.toNat_of_nonneg nonneg]
  have reads : convertToVolumeConfig ⟨deviceVolumeConfig, scaled⟩ (unitSteps min width) = .ok
      (scale deviceVolumeConfig.width width (scaled - deviceVolumeConfig.range.min) + min) :=
    convert_unitSteps ⟨by decide, by decide, by decide⟩ (by decide) positive (by omega) lower upper
      ⟨nonneg, inside⟩
  have back : scale deviceVolumeConfig.width width (scaled - deviceVolumeConfig.range.min) + min =
      value := by
    change scale 255 width (scaled - 0) + min = value
    rw [Int.sub_zero, restored, Int.sub_add_cancel]
  rw [back] at reads
  refine ⟨some (device.setPropertyU8 property (UInt8.ofInt scaled)), ?_, ?_⟩
  · rw [setVolume]
    change (convertToVolumeConfig _ (unitSteps 0 255) >>= _) = _
    rw [stores]
    rfl
  · have found : ((some (device.setPropertyU8 property (UInt8.ofInt scaled))).bind fun device =>
        device.getPropertyU8 property) = some (UInt8.ofInt scaled) := by
      exact if_pos rfl
    rw [getVolume, found]
    dsimp only
    rw [byte, reads]
    rfl

theorem audioVolume_survives : Survives .audioVolume (fun _ => none) ⟨unitSteps 0 127, 80⟩ := by
  exact volume_survives _ (by decide) (by decide) (by decide) (by decide)
    ⟨by decide, by decide⟩ _

/-- With limits beyond 16 bits, another volume is read. -/
theorem farVolume_changed : ¬ ∀ (property : DeviceProperty) (device : Device)
    (min width value : Int), 1 ≤ width → width ≤ 255 → (unitSteps min width).Has value →
      Survives property device ⟨unitSteps min width, value⟩ := by
  intro survives
  obtain ⟨stored, sets, gets⟩ := survives .audioVolume (fun _ => none) 40000 1 40000 (by decide)
    (by decide) ⟨by decide, by decide⟩
  have set : setVolume .audioVolume (some fun _ => none) ⟨unitSteps 40000 1, 40000⟩ =
      .ok (true, some (Device.setPropertyU8 (fun _ => none) .audioVolume 0)) := rfl
  rw [set] at sets
  cases sets
  have get : getVolume .audioVolume (some (Device.setPropertyU8 (fun _ => none) .audioVolume 0))
      (unitSteps 40000 1) = .ok (some ⟨unitSteps 40000 1, -25536⟩) := rfl
  rw [get] at gets
  cases gets

end Survival

end HeadsetAdk.Volumes
