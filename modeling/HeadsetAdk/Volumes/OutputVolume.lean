import HeadsetAdk.Volumes.VolumeUtils

/-!
# The output volume

`volume_system.c` and `volume_limit.c`: the trim volume is scaled by the system volume in percent,
and limited.
-/

namespace HeadsetAdk.Volumes

/-- `FULL_SCALE_VOLUME`, and `VOLUME_LIMIT_DISABLED` -/
def fullScaleVolume : Volume := ⟨⟨⟨0, 1⟩, 1⟩, 1⟩

/-- `Volume_IsLimitSet`, with `VolumeUtils_VolumeIsEqual` -/
def isLimitSet (limit : Volume) : Bool := decide (limit ≠ fullScaleVolume)

/-- `VolumeUtils_GetVolumeInPercent`, which is unsigned -/
def getVolumeInPercent (volume : Volume) : Except Fault Int := do
  let percent ← quotient ((volume.value - volume.config.range.min) * 100)
    (volume.config.range.max - volume.config.range.min)
  return percent % 2 ^ 32

def getLimitedVolume (volume limit : Volume) : Except Fault Int := do
  let limitedValue ← convertToVolumeConfig limit volume.config
  return if volume.value > limitedValue then limitedValue else volume.value

def applyLimiterToVolume (limit volume : Volume) : Except Fault Int :=
  if isLimitSet limit then getLimitedVolume volume limit else .ok volume.value

/-- `Volume_CalculateOutputVolume`, where the product is unsigned -/
def calculateOutputVolume (system limit : Volume) (muted : Bool) (trim : Volume) :
    Except Fault Volume :=
  if muted then .ok { trim with value := trim.config.range.min }
  else do
    let percent ← getVolumeInPercent system
    let scaled := (trim.value * percent % 2 ^ 32) / 100
    let value ← applyLimiterToVolume limit { trim with value := scaled }
    return { trim with value := value }

section Bounds

structure Volume.Valid (volume : Volume) : Prop where
  config : volume.config.Valid
  has : volume.config.Has volume.value

def Outputs (limit system trim : Volume) (output : Int) : Prop :=
  calculateOutputVolume system limit false trim = .ok { trim with value := output }

structure Bounded (config : VolumeConfig) (limit : Volume) : Prop where
  bounds : ∀ system value, system.Valid → config.Has value →
    ∃ output, Outputs limit system ⟨config, value⟩ output ∧ config.range.min ≤ output ∧
      output ≤ value ∧ (isLimitSet limit = true → ∃ limited,
        convertToVolumeConfig limit config = .ok limited ∧ output ≤ limited)
  monotone : ∀ system louder value output output', system.Valid → louder.Valid → config.Has value →
    system.config = louder.config → system.value ≤ louder.value →
      Outputs limit system ⟨config, value⟩ output →
        Outputs limit louder ⟨config, value⟩ output' → output ≤ output'
  full : ∀ system value output, system.Valid → config.Has value →
    system.value = system.config.range.max → isLimitSet limit = false →
      Outputs limit system ⟨config, value⟩ output → output = value

/-- The range starts at zero, or below it with a limit that is its start; and with a limit the steps
are no finer than integers. -/
def BoundedConfig (config : VolumeConfig) (limit : Volume) : Prop :=
  if isLimitSet limit then
    config.numberOfSteps - 1 ≤ config.width ∧ (config.range.min = 0 ∨
      config.range.min < 0 ∧ convertToVolumeConfig limit config = .ok config.range.min)
  else config.range.min = 0

variable {config : VolumeConfig} {limit system trim : Volume} {value output percent : Int}

theorem bmod_ne_zero (positive : 0 < value) (small : value < 2 ^ 16) : value.bmod (2 ^ 16) ≠ 0 := by
  intro zero
  have divides := Int.dvd_of_bmod_eq_zero zero
  omega

theorem int16_eq (value : Int) : int16 value = .ok (value.bmod (2 ^ 16)) := rfl

theorem quotient_eq {divisor : Int} (some : divisor ≠ 0) (value : Int) :
    quotient value divisor = .ok (value.tdiv divisor) := if_neg some

theorem VolumeConfig.Valid.width_lt (valid : config.Valid) : config.width < 2 ^ 16 := by
  have lower := valid.lower
  have upper := valid.upper
  rw [VolumeConfig.width]
  omega

theorem getStepSize_pos (valid : config.Valid) (steps : config.numberOfSteps - 1 ≤ config.width) :
    0 < getStepSize config ∧ getStepSize config < 2 ^ 16 := by
  have positive := valid.width_pos
  have small := valid.width_lt
  have whole : (config.range.max - config.range.min) % 2 ^ 32 = config.width :=
    Int.emod_eq_of_lt positive.le (by rw [VolumeConfig.width] at small; omega)
  rw [getStepSize, whole]
  split
  · have one := Int.ediv_le_ediv (show 0 < config.numberOfSteps - 1 by omega) steps
    rw [Int.ediv_self (by omega)] at one
    have below := Int.ediv_le_self (config.numberOfSteps - 1) positive.le
    omega
  · rw [Int.ediv_one]
    omega

theorem convert_ends (valid : limit.config.Valid) (validConfig : config.Valid)
    (steps : config.numberOfSteps - 1 ≤ config.width) :
    ∃ limited, convertToVolumeConfig limit config = .ok limited ∧ config.Has limited := by
  obtain ⟨stepPositive, stepSmall⟩ := getStepSize_pos validConfig steps
  have range : (limit.config.range.max - limit.config.range.min).bmod (2 ^ 16) ≠ 0 :=
    bmod_ne_zero valid.width_pos valid.width_lt
  have step := bmod_ne_zero stepPositive stepSmall
  have rounds (value : Int) : ∃ rounded,
      roundToStep int16 value ((getStepSize config).bmod (2 ^ 16)) = .ok rounded := by
    rw [roundToStep, remainder, if_neg step, ok_bind]
    split
    · rw [quotient_eq step, ok_bind, int16_eq, ok_bind]
      split
      · exact ⟨_, rfl⟩
      · exact ⟨_, rfl⟩
    · exact ⟨_, rfl⟩
  rw [convertToVolumeConfig, convert]
  simp only [int16_eq, ok_bind, quotient_eq range]
  obtain ⟨rounded, isRounded⟩ := rounds _
  have inside := limitVolumeToRange_inside validConfig.ordered.le
    ((rounded + config.range.min).bmod (2 ^ 16))
  have lower := validConfig.lower
  have upper := validConfig.upper
  refine ⟨_, ?_, inside⟩
  rw [isRounded, ok_bind, bmod_eq_self (by have := inside.1; omega) (by have := inside.2; omega)]

theorem convert_fails (valid : limit.config.Valid) (validConfig : config.Valid)
    (few : config.width < config.numberOfSteps - 1) :
    convertToVolumeConfig limit config = .error .divisionByZero := by
  have positive := validConfig.width_pos
  have small := validConfig.width_lt
  have range : (limit.config.range.max - limit.config.range.min).bmod (2 ^ 16) ≠ 0 :=
    bmod_ne_zero valid.width_pos valid.width_lt
  have whole : (config.range.max - config.range.min) % 2 ^ 32 = config.width :=
    Int.emod_eq_of_lt positive.le (by rw [VolumeConfig.width] at small; omega)
  have step : getStepSize config = 0 := by
    rw [getStepSize, whole, if_pos (by omega)]
    exact Int.ediv_eq_zero_of_lt positive.le few
  rw [convertToVolumeConfig, convert]
  simp only [int16_eq, ok_bind, quotient_eq range, step]
  rfl

def percentOf (volume : Volume) : Int :=
  (volume.value - volume.config.range.min) * 100 / volume.config.width

section

variable (valid : system.Valid)

include valid

theorem percentOf_nonneg : 0 ≤ percentOf system := by
  have distance := valid.has.1
  exact Int.ediv_nonneg (by omega) valid.config.width_pos.le

theorem percentOf_le : percentOf system ≤ 100 := by
  have distance := valid.has.2
  have all := Int.ediv_le_ediv valid.config.width_pos
    (show (system.value - system.config.range.min) * 100 ≤ 100 * system.config.width by
      rw [VolumeConfig.width]
      omega)
  rwa [Int.mul_ediv_cancel _ valid.config.width_pos.ne'] at all

theorem percentOf_full (full : system.value = system.config.range.max) :
    percentOf system = 100 := by
  rw [percentOf, full, mul_comm]
  exact Int.mul_ediv_cancel _ valid.config.width_pos.ne'

theorem percentOf_mono {louder : Volume} (same : system.config = louder.config)
    (less : system.value ≤ louder.value) :
    percentOf system ≤ percentOf louder := by
  rw [percentOf, percentOf, ← same]
  exact Int.ediv_le_ediv valid.config.width_pos (by omega)

theorem getVolumeInPercent_eq : getVolumeInPercent system = .ok (percentOf system) := by
  have nonneg := percentOf_nonneg valid
  have small := percentOf_le valid
  have distance := valid.has.1
  have divided : ((system.value - system.config.range.min) * 100).tdiv
      (system.config.range.max - system.config.range.min) = percentOf system :=
    Int.tdiv_eq_ediv_of_nonneg (by omega)
  have some : system.config.range.max - system.config.range.min ≠ 0 := valid.config.width_pos.ne'
  rw [getVolumeInPercent, quotient_eq some, ok_bind, divided, Int.emod_eq_of_lt nonneg (by omega)]
  rfl

end

def scaledBy (value percent : Int) : Int := value * percent % 2 ^ 32 / 100

theorem outputs_iff (valid : system.Valid) : Outputs limit system trim output ↔
    applyLimiterToVolume limit { trim with value := scaledBy trim.value (percentOf system) } =
      .ok output := by
  rw [Outputs, calculateOutputVolume, if_neg Bool.false_ne_true, getVolumeInPercent_eq valid,
    ok_bind]
  change (applyLimiterToVolume limit
    { trim with value := scaledBy trim.value (percentOf system) } >>=
      fun value => .ok { trim with value := value }) = _ ↔ _
  cases applyLimiterToVolume limit
      { trim with value := scaledBy trim.value (percentOf system) } with
  | error fault => exact iff_of_false (fun wrong => by cases wrong) fun wrong => by cases wrong
  | ok value =>
    constructor
    · exact fun same => congrArg Except.ok (congrArg Volume.value (Except.ok.inj same))
    · intro same
      rw [Except.ok.inj same]
      rfl

theorem outputs_unlimited (valid : system.Valid) (unset : isLimitSet limit = false) :
    Outputs limit system ⟨config, value⟩ output ↔ output = scaledBy value (percentOf system) := by
  rw [outputs_iff valid, applyLimiterToVolume, if_neg (Bool.eq_false_iff.mp unset)]
  exact ⟨fun same => (Except.ok.inj same).symm, fun same => congrArg Except.ok same.symm⟩

theorem outputs_limited {limited : Int} (valid : system.Valid) (isSet : isLimitSet limit = true)
    (converted : convertToVolumeConfig limit config = .ok limited) :
    Outputs limit system ⟨config, value⟩ output ↔
      output = Min.min limited (scaledBy value (percentOf system)) := by
  have smaller : (if scaledBy value (percentOf system) > limited then limited
      else scaledBy value (percentOf system)) =
      Min.min limited (scaledBy value (percentOf system)) := by
    split
    · exact (min_eq_left (by omega)).symm
    · exact (min_eq_right (by omega)).symm
  rw [outputs_iff valid, applyLimiterToVolume, if_pos isSet, getLimitedVolume]
  rw [converted, ok_bind, smaller]
  exact ⟨fun same => (Except.ok.inj same).symm, fun same => congrArg Except.ok same.symm⟩

theorem not_outputs (isSet : isLimitSet limit = true) (valid : system.Valid)
    (fails : convertToVolumeConfig limit config = .error .divisionByZero) :
    ¬ Outputs limit system ⟨config, value⟩ output := by
  rw [outputs_iff valid, applyLimiterToVolume, if_pos isSet, getLimitedVolume]
  rw [fails]
  exact fun wrong => by cases wrong

section

variable (nonneg : 0 ≤ value) (small : value < 2 ^ 15)

include nonneg small

theorem scaledBy_bounds (least : 0 ≤ percent) (most : percent ≤ 100) :
    0 ≤ scaledBy value percent ∧ scaledBy value percent ≤ value := by
  have lower := Int.mul_nonneg nonneg least
  have upper := Int.mul_le_mul_of_nonneg_left most nonneg
  rw [scaledBy, Int.emod_eq_of_lt lower (by omega)]
  omega

theorem scaledBy_mono {other : Int} (least : 0 ≤ percent) (most : other ≤ 100)
    (less : percent ≤ other) : scaledBy value percent ≤ scaledBy value other := by
  have lower := Int.mul_nonneg nonneg least
  have step := Int.mul_le_mul_of_nonneg_left less nonneg
  have upper := Int.mul_le_mul_of_nonneg_left most nonneg
  rw [scaledBy, scaledBy, Int.emod_eq_of_lt lower (by omega),
    Int.emod_eq_of_lt (Int.le_trans lower step) (by omega)]
  omega

theorem scaledBy_full : scaledBy value 100 = value := by
  rw [scaledBy, Int.emod_eq_of_lt (by omega) (by omega)]
  omega

end

theorem scaledBy_negative (negative : value < 0) (lower : -2 ^ 15 ≤ value) :
    2 ^ 15 ≤ scaledBy value 100 := by
  have wraps : value * 100 % 2 ^ 32 = value * 100 + 2 ^ 32 := by omega
  rw [scaledBy, wraps]
  omega

theorem scaledBy_nonneg (value percent : Int) : 0 ≤ scaledBy value percent :=
  Int.ediv_nonneg (Int.emod_nonneg _ (by decide)) (by decide)

def systemVolume (value : Int) : Volume := ⟨⟨⟨0, 1⟩, 1⟩, value⟩

theorem valid_systemVolume (lower : 0 ≤ value) (upper : value ≤ 1) : (systemVolume value).Valid :=
  ⟨⟨show -2 ^ 15 ≤ (0 : Int) by decide, show (0 : Int) < 1 by decide,
    show (1 : Int) < 2 ^ 15 by decide⟩, lower, upper⟩

theorem Bounded.boundedConfig (bounded : Bounded config limit) (valid : config.Valid)
    (validLimit : limit.Valid) : BoundedConfig config limit := by
  have lower := valid.lower
  have upper := valid.upper
  have ordered := valid.ordered
  have first : config.Has config.range.min := ⟨le_refl _, ordered.le⟩
  obtain ⟨silent, silences, silentLower, silentUpper, -⟩ :=
    bounded.bounds (systemVolume 0) _ (valid_systemVolume (by decide) (by decide)) first
  obtain ⟨loud, sounds, loudLower, loudUpper, -⟩ :=
    bounded.bounds (systemVolume 1) _ (valid_systemVolume (by decide) (by decide)) first
  have none : percentOf (systemVolume 0) = 0 := rfl
  have whole : percentOf (systemVolume 1) = 100 := rfl
  have zero : scaledBy config.range.min 0 = 0 := by
    rw [scaledBy, mul_zero]
    rfl
  rw [BoundedConfig]
  split
  next isSet =>
    have steps : config.numberOfSteps - 1 ≤ config.width := by
      by_contra few
      exact not_outputs isSet (valid_systemVolume (by decide) (by decide))
        (convert_fails validLimit.config valid (not_le.mp few)) sounds
    obtain ⟨limited, converted, has⟩ : ∃ limited,
        convertToVolumeConfig limit config = .ok limited ∧ config.Has limited :=
      convert_ends validLimit.config valid steps
    rw [outputs_limited (valid_systemVolume (by decide) (by decide)) isSet converted, none]
      at silences
    rw [outputs_limited (valid_systemVolume (by decide) (by decide)) isSet converted, whole]
      at sounds
    rw [zero] at silences
    refine ⟨steps, ?_⟩
    rcases Int.lt_trichotomy config.range.min 0 with negative | isZero | positive
    · have large := scaledBy_negative negative lower
      have bounds := has
      have same : limited = config.range.min := by
        have smaller := has.2
        have above := has.1
        omega
      exact .inr ⟨negative, same ▸ converted⟩
    · exact .inl isZero
    · have above := has.1
      omega
  next unset =>
    have unset := Bool.eq_false_iff.mpr unset
    rw [outputs_unlimited (valid_systemVolume (by decide) (by decide)) unset, none] at silences
    rw [outputs_unlimited (valid_systemVolume (by decide) (by decide)) unset, whole] at sounds
    rcases Int.lt_trichotomy config.range.min 0 with negative | isZero | positive
    · have large := scaledBy_negative negative lower
      omega
    · exact isZero
    · omega

theorem bounded_unlimited (isConfig : config.range.min = 0) (valid : config.Valid)
    (unset : isLimitSet limit = false) : Bounded config limit := by
  have upper := valid.upper
  refine ⟨fun system value validSystem has => ?_, fun system louder value output output' validSystem
    validLouder has same less silent loud => ?_,
    fun system value output validSystem has full _ sounds => ?_⟩
  · have above := has.1
    have below := has.2
    have bounds := scaledBy_bounds (show 0 ≤ value by omega) (by omega)
      (percentOf_nonneg validSystem) (percentOf_le validSystem)
    refine ⟨_, (outputs_unlimited validSystem unset).mpr rfl, ?_, bounds.2, fun isSet => ?_⟩
    · rw [isConfig]
      exact bounds.1
    · cases unset.symm.trans isSet
  · have above := has.1
    have below := has.2
    rw [(outputs_unlimited validSystem unset).mp silent,
      (outputs_unlimited validLouder unset).mp loud]
    exact scaledBy_mono (by omega) (by omega) (percentOf_nonneg validSystem)
      (percentOf_le validLouder) (percentOf_mono validSystem same less)
  · have above := has.1
    have below := has.2
    rw [(outputs_unlimited validSystem unset).mp sounds, percentOf_full validSystem full]
    exact scaledBy_full (by omega) (by omega)

theorem bounded_limited {limited : Int} (isSet : isLimitSet limit = true) (valid : config.Valid)
    (converted : convertToVolumeConfig limit config = .ok limited) (has : config.Has limited)
    (starts : config.range.min = 0 ∨ config.range.min < 0 ∧ limited = config.range.min) :
    Bounded config limit := by
  have upper := valid.upper
  refine ⟨fun system value validSystem isValue => ?_, fun system louder value output output'
    validSystem validLouder isValue same less silent loud => ?_,
    fun system value output _ _ _ unset _ => by cases isSet.symm.trans unset⟩
  · have above := isValue.1
    have below := isValue.2
    have nonneg := scaledBy_nonneg value (percentOf system)
    have least := has.1
    refine ⟨_, (outputs_limited validSystem isSet converted).mpr rfl, ?_, ?_,
      fun _ => ⟨limited, converted, min_le_left _ _⟩⟩
    · exact le_min least (by omega)
    · rcases starts with isZero | ⟨_, isFirst⟩
      · have bounds := scaledBy_bounds (show 0 ≤ value by omega) (by omega)
          (percentOf_nonneg validSystem) (percentOf_le validSystem)
        exact le_trans (min_le_right _ _) bounds.2
      · exact le_trans (min_le_left _ _) (isFirst ▸ above)
  · have above := isValue.1
    have below := isValue.2
    rw [(outputs_limited validSystem isSet converted).mp silent,
      (outputs_limited validLouder isSet converted).mp loud]
    rcases starts with isZero | ⟨negative, isFirst⟩
    · exact min_le_min_left _ (scaledBy_mono (by omega) (by omega) (percentOf_nonneg validSystem)
        (percentOf_le validLouder) (percentOf_mono validSystem same less))
    · have nonneg := scaledBy_nonneg value (percentOf louder)
      rw [min_eq_left (show limited ≤ scaledBy value (percentOf louder) by omega)]
      exact min_le_left _ _

/-- The output volume stays in its bounds exactly if the range starts at zero (or below, with a
limit that is its start), and a limit can be converted. -/
theorem bounded_iff (valid : config.Valid) (validLimit : limit.Valid) :
    Bounded config limit ↔ BoundedConfig config limit := by
  refine ⟨fun bounded => bounded.boundedConfig valid validLimit, fun isConfig => ?_⟩
  rw [BoundedConfig] at isConfig
  split at isConfig
  next isSet =>
    obtain ⟨limited, converted, has⟩ := convert_ends validLimit.config valid isConfig.1
    refine bounded_limited isSet valid converted has ?_
    rcases isConfig.2 with isZero | ⟨negative, isFirst⟩
    · exact .inl isZero
    · exact .inr ⟨negative, Except.ok.inj (converted.symm.trans isFirst)⟩
  next unset => exact bounded_unlimited isConfig valid (Bool.eq_false_iff.mpr unset)

theorem profile_bounded : Bounded ⟨⟨0, 127⟩, 128⟩ fullScaleVolume :=
  (bounded_iff ⟨by decide, by decide, by decide⟩
    ⟨⟨by decide, by decide, by decide⟩, by decide, by decide⟩).mpr rfl

/-- At full system volume, -45 dB of a range from -45 dB to 0 dB become a large number. -/
theorem decibels_not_bounded : ¬ ∀ (config : VolumeConfig) (limit : Volume), config.Valid →
    limit.Valid → Bounded config limit := by
  intro bounded
  have decibels := bounded ⟨⟨-45, 0⟩, 46⟩ fullScaleVolume ⟨by decide, by decide, by decide⟩
    ⟨⟨by decide, by decide, by decide⟩, by decide, by decide⟩
  obtain ⟨output, outputs, -, small, -⟩ := decibels.bounds (systemVolume 1) (-45)
    (valid_systemVolume (by decide) (by decide)) ⟨by decide, by decide⟩
  have large : Outputs fullScaleVolume (systemVolume 1) ⟨⟨⟨-45, 0⟩, 46⟩, -45⟩ 42949627 := rfl
  have same := congrArg Volume.value (Except.ok.inj (outputs.symm.trans large))
  dsimp only at same
  omega

end Bounds

end HeadsetAdk.Volumes
