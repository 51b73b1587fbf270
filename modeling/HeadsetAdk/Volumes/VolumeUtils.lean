import HeadsetAdk.Lib.Outcomes
import HeadsetAdk.Lib.Scaling
import Mathlib.Data.Int.DivMod

/-!
# Volumes

`volume_utils.c`: the conversion of a volume from one configuration to another, with its 16-bit
local variables, and when it is a monotone map between the ranges.
-/

namespace HeadsetAdk.Volumes

structure Range where
  min : Int
  max : Int
  deriving DecidableEq, Repr

structure VolumeConfig where
  range : Range
  numberOfSteps : Int
  deriving DecidableEq, Repr

structure Volume where
  config : VolumeConfig
  value : Int
  deriving DecidableEq, Repr

/-- A division by zero, and a value that is too large for its variable, which only the exact
arithmetic notices. -/
inductive Fault
  | divisionByZero
  | truncation
  deriving DecidableEq, Repr

abbrev Assign := Int → Except Fault Int

/-- What the code does -/
def int16 : Assign := fun value => .ok (value.bmod (2 ^ 16))

/-- Nothing may be lost. -/
def exact16 : Assign := fun value =>
  if value.bmod (2 ^ 16) = value then .ok value else .error .truncation

def quotient (value divisor : Int) : Except Fault Int :=
  if divisor = 0 then .error .divisionByZero else .ok (value.tdiv divisor)

def remainder (value divisor : Int) : Except Fault Int :=
  if divisor = 0 then .error .divisionByZero else .ok (value.tmod divisor)

def limitVolumeToRange (volume : Int) (range : Range) : Int :=
  if volume ≤ range.min then range.min else if volume ≥ range.max then range.max else volume

/-- `VolumeUtils_GetStepSize`, with a quotient of unsigned numbers -/
def getStepSize (config : VolumeConfig) : Int :=
  ((config.range.max - config.range.min) % 2 ^ 32) /
    (if config.numberOfSteps > 1 then config.numberOfSteps - 1 else 1)

/-- The rounding to the step size in `VolumeUtils_ConvertToVolumeConfig` -/
def roundToStep (assign : Assign) (convertedValue outputStepSize : Int) : Except Fault Int := do
  let rest ← remainder convertedValue outputStepSize
  if rest ≠ 0 then
    let level ← assign (← quotient convertedValue outputStepSize)
    let level ← (if 2 * rest > outputStepSize then assign (level + 1) else .ok level)
    assign (level * outputStepSize)
  else return convertedValue

/-- `VolumeUtils_ConvertToVolumeConfig` -/
def convert (assign : Assign) (volume : Volume) (format : VolumeConfig) : Except Fault Int := do
  let inputRange ← assign (volume.config.range.max - volume.config.range.min)
  let outputRange ← assign (format.range.max - format.range.min)
  let convertedValue ← assign (← quotient
    ((volume.value - volume.config.range.min) * outputRange + inputRange.tdiv 2) inputRange)
  let outputStepSize ← assign (getStepSize format)
  let convertedValue ← roundToStep assign convertedValue outputStepSize
  let convertedValue ← assign (convertedValue + format.range.min)
  assign (limitVolumeToRange convertedValue format.range)

/-- The conversion as the code does it -/
def convertToVolumeConfig : Volume → VolumeConfig → Except Fault Int := convert int16

structure VolumeConfig.Valid (config : VolumeConfig) : Prop where
  lower : -2 ^ 15 ≤ config.range.min
  ordered : config.range.min < config.range.max
  upper : config.range.max < 2 ^ 15

def VolumeConfig.width (config : VolumeConfig) : Int := config.range.max - config.range.min

def VolumeConfig.Has (config : VolumeConfig) (value : Int) : Prop :=
  config.range.min ≤ value ∧ value ≤ config.range.max

/-- The map is the conversion, which divides by no zero and loses nothing; it goes into the range,
is monotone, and keeps both ends. -/
structure ConvertsBy (input format : VolumeConfig) (result : Int → Int) : Prop where
  exact : ∀ value, input.Has value → convert exact16 ⟨input, value⟩ format = .ok (result value)
  same : ∀ value, input.Has value → convertToVolumeConfig ⟨input, value⟩ format = .ok (result value)
  inside : ∀ value, input.Has value → format.Has (result value)
  monotone : ∀ value other, input.Has value → input.Has other → value ≤ other →
    result value ≤ result other
  first : result input.range.min = format.range.min
  last : result input.range.max = format.range.max

structure EndsOnStep (format : VolumeConfig) : Prop where
  steps : format.numberOfSteps - 1 ≤ format.width
  last : format.width % getStepSize format = 0 ∨
    getStepSize format < 2 * (format.width % getStepSize format) ∧
      (format.width / getStepSize format + 1) * getStepSize format < 2 ^ 15 ∧
      (format.width / getStepSize format + 1) * getStepSize format + format.range.min < 2 ^ 15

section Conversion

open Scaling

variable {assign : Assign} {volume : Volume} {input format : VolumeConfig} {value : Int}

theorem bmod_eq_self (lower : -2 ^ 15 ≤ value) (upper : value < 2 ^ 15) :
    value.bmod (2 ^ 16) = value :=
  Int.bmod_eq_of_le (by omega) (by omega)

variable {result other step : Int}

theorem exact16_eq_ok (exact : exact16 value = .ok result) :
    result = value ∧ value < 2 ^ 15 := by
  rw [exact16] at exact
  split at exact
  case isFalse => cases exact
  next same =>
    have upper := Int.bmod_lt (x := value) (m := 2 ^ 16) (by decide)
    rw [same] at upper
    exact ⟨(Except.ok.inj exact).symm, by omega⟩

theorem exact16_bind {next : Int → Except Fault Int}
    (exact : exact16 value >>= next = .ok result) : value < 2 ^ 15 ∧ next value = .ok result := by
  obtain ⟨_, assigned, done⟩ := bind_eq_ok exact
  obtain ⟨rfl, narrow⟩ := exact16_eq_ok assigned
  exact ⟨narrow, done⟩

def Keeps (assign : Assign) : Prop :=
  ∀ value : Int, -2 ^ 15 ≤ value → value < 2 ^ 15 → assign value = .ok value

theorem keeps_int16 : Keeps int16 := fun _ lower upper =>
  congrArg Except.ok (bmod_eq_self lower upper)

theorem keeps_exact16 : Keeps exact16 := fun _ lower upper => if_pos (bmod_eq_self lower upper)

theorem limitVolumeToRange_inside (ordered : format.range.min ≤ format.range.max) (value : Int) :
    format.Has (limitVolumeToRange value format.range) := by
  rw [limitVolumeToRange]
  split
  · exact ⟨le_refl _, ordered⟩
  · split
    · exact ⟨ordered, le_refl _⟩
    · exact ⟨by omega, by omega⟩

theorem limitVolumeToRange_mono (ordered : format.range.min ≤ format.range.max)
    (less : value ≤ other) :
    limitVolumeToRange value format.range ≤ limitVolumeToRange other format.range := by
  rw [limitVolumeToRange, limitVolumeToRange]
  split <;> split <;> (try split) <;> (try split) <;> omega

theorem getStepSize_eq (valid : format.Valid) (two : 2 ≤ format.numberOfSteps) :
    getStepSize format = format.width / (format.numberOfSteps - 1) := by
  have lower := valid.lower
  have ordered := valid.ordered
  have upper := valid.upper
  rw [getStepSize, if_pos (by omega), VolumeConfig.width, Int.emod_eq_of_lt (by omega) (by omega)]

/-- The conversion in exact arithmetic -/
def converted (input format : VolumeConfig) (value : Int) : Int :=
  limitVolumeToRange (toStep (getStepSize format)
    (scale input.width format.width (value - input.range.min)) + format.range.min) format.range

theorem VolumeConfig.Valid.width_pos (valid : format.Valid) : 0 < format.width :=
  Int.sub_pos_of_lt valid.ordered

section

variable (ends : EndsOnStep format) (valid : format.Valid) (two : 2 ≤ format.numberOfSteps)

include ends valid two

theorem EndsOnStep.step_pos : 0 < getStepSize format := by
  have positive := Int.ediv_le_ediv (show 0 < format.numberOfSteps - 1 by omega) ends.steps
  rw [Int.ediv_self (by omega)] at positive
  rw [getStepSize_eq valid two]
  omega

theorem EndsOnStep.toStep_width (narrow : format.width < 2 ^ 15) :
    format.width ≤ toStep (getStepSize format) format.width ∧
      toStep (getStepSize format) format.width < 2 ^ 15 ∧
      toStep (getStepSize format) format.width + format.range.min < 2 ^ 15 := by
  have positive := ends.step_pos valid two
  rcases ends.last with whole | ⟨up, fits, moved⟩
  · have upper := valid.upper
    have same : format.width + format.range.min = format.range.max := Int.sub_add_cancel _ _
    rw [toStep_of_dvd positive whole]
    omega
  · have split := Int.ediv_mul_add_emod format.width (getStepSize format)
    have rest := Int.emod_lt_of_pos format.width positive
    rw [toStep_up up]
    refine ⟨?_, fits, moved⟩
    rw [add_mul, one_mul]
    omega

end

theorem roundToStep_eq (keeps : Keeps assign) (positive : 0 < step) (nonneg : 0 ≤ value)
    (small : value < 2 ^ 15) (fits : toStep step value < 2 ^ 15) :
    roundToStep assign value step = .ok (toStep step value) := by
  have rest : remainder value step = .ok (value % step) := by
    rw [remainder, if_neg positive.ne', Int.tmod_eq_emod_of_nonneg nonneg]
  have level : quotient value step = .ok (value / step) := by
    rw [quotient, if_neg positive.ne', Int.tdiv_eq_ediv_of_nonneg nonneg]
  have levelNonneg := Int.ediv_nonneg nonneg positive.le
  have levelSmall := Int.ediv_le_self step nonneg
  rw [roundToStep, rest, ok_bind]
  by_cases whole : value % step = 0
  · rw [if_neg (not_not.mpr whole), toStep_of_dvd positive whole]
    rfl
  · rw [if_pos whole, level, ok_bind, keeps _ (by omega) (by omega), ok_bind]
    by_cases up : step < 2 * (value % step)
    · have product := le_mul_of_one_le_right (show 0 ≤ value / step + 1 by omega)
        (show 1 ≤ step from positive)
      rw [toStep_up up] at fits
      rw [if_pos up, keeps _ (by omega) (by omega), ok_bind, keeps _ (by omega) fits, toStep_up up]
    · have product := Int.mul_nonneg levelNonneg positive.le
      rw [toStep_down up] at fits
      rw [if_neg up, ok_bind, keeps _ (by omega) fits, toStep_down up]

theorem convert_eq (keeps : Keeps assign) (valid : input.Valid) (validFormat : format.Valid)
    (two : 2 ≤ format.numberOfSteps) (narrow : input.width < 2 ^ 15)
    (narrowFormat : format.width < 2 ^ 15) (ends : EndsOnStep format) (has : input.Has value) :
    convert assign ⟨input, value⟩ format = .ok (converted input format value) := by
  have positive := valid.width_pos
  have positiveFormat := validFormat.width_pos
  have stepPositive := ends.step_pos validFormat two
  obtain ⟨_, lastFits, lastMoved⟩ := ends.toStep_width validFormat two narrowFormat
  have stepSmall : getStepSize format ≤ format.width := by
    rw [getStepSize_eq validFormat two]
    exact Int.ediv_le_self _ positiveFormat.le
  obtain ⟨scaled, isScaled⟩ : ∃ scaled,
      scale input.width format.width (value - input.range.min) = scaled := ⟨_, rfl⟩
  have nonneg : 0 ≤ scaled :=
    isScaled ▸ scale_nonneg positive positiveFormat.le (Int.sub_nonneg_of_le has.1)
  have inside : scaled ≤ format.width :=
    isScaled ▸ scale_le positive positiveFormat.le (Int.sub_le_sub_right has.2 _)
  have roundedFits := toStep_mono stepPositive inside
  have roundedNonneg : scaled / getStepSize format * getStepSize format ≤
      toStep (getStepSize format) scaled := le_toStep stepPositive
  have levels := Int.mul_nonneg (Int.ediv_nonneg nonneg stepPositive.le) stepPositive.le
  have divides : quotient ((value - input.range.min) * format.width + input.width.tdiv 2)
      input.width = .ok scaled := by
    have product := Int.mul_nonneg (Int.sub_nonneg_of_le has.1) positiveFormat.le
    rw [quotient, if_neg positive.ne', Int.tdiv_eq_ediv_of_nonneg positive.le,
      Int.tdiv_eq_ediv_of_nonneg (by omega), ← isScaled, scale]
  have lower := validFormat.lower
  have upper := validFormat.upper
  have limited := limitVolumeToRange_inside validFormat.ordered.le
    (toStep (getStepSize format) scaled + format.range.min)
  have width : input.range.max - input.range.min = input.width := rfl
  have widthFormat : format.range.max - format.range.min = format.width := rfl
  rw [convert, converted, isScaled]
  dsimp only
  rw [width, widthFormat, keeps input.width (by omega) narrow, ok_bind,
    keeps format.width (by omega) narrowFormat, ok_bind, divides, ok_bind,
    keeps scaled (by omega) (by omega), ok_bind, keeps (getStepSize format) (by omega) (by omega),
    ok_bind, roundToStep_eq keeps stepPositive nonneg (by omega) (by omega), ok_bind,
    keeps (toStep (getStepSize format) scaled + format.range.min) (by omega) (by omega), ok_bind,
    keeps _ (by have := limited.1; omega) (by have := limited.2; omega)]

section

variable (valid : input.Valid)

include valid

theorem converted_first (stepPositive : 0 < getStepSize format) :
    converted input format input.range.min = format.range.min := by
  rw [converted, Int.sub_self, scale_zero valid.width_pos,
    toStep_of_dvd stepPositive (Int.zero_emod _), zero_add, limitVolumeToRange, if_pos (le_refl _)]

theorem converted_last (validFormat : format.Valid)
    (rounded : format.width ≤ toStep (getStepSize format) format.width) :
    converted input format input.range.max = format.range.max := by
  have ordered := validFormat.ordered
  have width : input.range.max - input.range.min = input.width := rfl
  rw [VolumeConfig.width] at rounded
  rw [converted, width, scale_self valid.width_pos, limitVolumeToRange, VolumeConfig.width,
    if_neg (by omega), if_pos (by omega)]

theorem converted_mono (validFormat : format.Valid) (stepPositive : 0 < getStepSize format)
    (less : value ≤ other) : converted input format value ≤ converted input format other :=
  limitVolumeToRange_mono validFormat.ordered.le (Int.add_le_add_right (toStep_mono stepPositive
    (scale_mono valid.width_pos validFormat.width_pos.le (Int.sub_le_sub_right less _))) _)

theorem convert_exact (validFormat : format.Valid)
    (done : convert exact16 ⟨input, input.range.max⟩ format = .ok result) :
    input.width < 2 ^ 15 ∧ format.width < 2 ^ 15 ∧ getStepSize format ≠ 0 ∧
      ∃ rounded, roundToStep exact16 format.width (getStepSize format) = .ok rounded ∧
        rounded + format.range.min < 2 ^ 15 ∧
        result = limitVolumeToRange (rounded + format.range.min) format.range := by
  have positive := valid.width_pos
  have positiveFormat := validFormat.width_pos
  obtain ⟨narrow, done⟩ := exact16_bind done
  obtain ⟨narrowFormat, done⟩ := exact16_bind done
  obtain ⟨scaled, divided, done⟩ := bind_eq_ok done
  have whole : quotient (input.width * format.width + input.width.tdiv 2) input.width =
      .ok format.width := by
    have product := Int.mul_nonneg positive.le positiveFormat.le
    rw [quotient, if_neg positive.ne', Int.tdiv_eq_ediv_of_nonneg positive.le,
      Int.tdiv_eq_ediv_of_nonneg (by omega)]
    exact congrArg Except.ok (scale_self positive)
  obtain rfl := Except.ok.inj (whole.symm.trans divided)
  obtain ⟨-, done⟩ := exact16_bind done
  obtain ⟨-, done⟩ := exact16_bind done
  obtain ⟨rounded, rounds, done⟩ := bind_eq_ok done
  obtain ⟨moved, done⟩ := exact16_bind done
  obtain ⟨rfl, -⟩ := exact16_eq_ok done
  refine ⟨narrow, narrowFormat, fun zero => ?_, rounded, rounds, moved, rfl⟩
  rw [roundToStep, remainder, if_pos zero] at rounds
  cases rounds

end

theorem roundToStep_exact {rounded : Int} (positive : 0 < step) (nonneg : 0 ≤ value)
    (done : roundToStep exact16 value step = .ok rounded) :
    value % step = 0 ∨ rounded = toStep step value ∧
      (step < 2 * (value % step) → rounded < 2 ^ 15) := by
  have rest : remainder value step = .ok (value % step) := by
    rw [remainder, if_neg positive.ne', Int.tmod_eq_emod_of_nonneg nonneg]
  have level : quotient value step = .ok (value / step) := by
    rw [quotient, if_neg positive.ne', Int.tdiv_eq_ediv_of_nonneg nonneg]
  by_cases whole : value % step = 0
  · exact .inl whole
  · rw [roundToStep, rest, ok_bind, if_pos whole, level, ok_bind] at done
    obtain ⟨-, done⟩ := exact16_bind done
    by_cases up : step < 2 * (value % step)
    · rw [if_pos up] at done
      obtain ⟨-, done⟩ := exact16_bind done
      obtain ⟨rfl, small⟩ := exact16_eq_ok done
      exact .inr ⟨(toStep_up up).symm, fun _ => small⟩
    · rw [if_neg up, ok_bind] at done
      obtain ⟨rfl, -⟩ := exact16_eq_ok done
      exact .inr ⟨(toStep_down up).symm, fun wrong => absurd wrong up⟩

/-- The conversion is a monotone map between the ranges exactly if both have 16 bits, the steps are
no finer than integers, and the last step does not fall short of the end of the range. -/
theorem convertsBy_iff (valid : input.Valid) (validFormat : format.Valid)
    (two : 2 ≤ format.numberOfSteps) :
    (∃ result, ConvertsBy input format result) ↔
      input.width < 2 ^ 15 ∧ format.width < 2 ^ 15 ∧ EndsOnStep format := by
  have positiveFormat := validFormat.width_pos
  constructor
  · rintro ⟨result, converts⟩
    obtain ⟨narrow, narrowFormat, some, rounded, rounds, moved, isLast⟩ := convert_exact valid
      validFormat (converts.exact input.range.max ⟨valid.ordered.le, le_refl _⟩)
    rw [converts.last] at isLast
    have quotients := getStepSize_eq validFormat two
    have stepPositive : 0 < getStepSize format := by
      have nonneg := Int.ediv_nonneg positiveFormat.le
        (show 0 ≤ format.numberOfSteps - 1 by omega)
      omega
    have steps : format.numberOfSteps - 1 ≤ format.width := by
      by_contra few
      exact some (quotients.trans (Int.ediv_eq_zero_of_lt positiveFormat.le (not_le.mp few)))
    refine ⟨narrow, narrowFormat, steps, ?_⟩
    rcases roundToStep_exact stepPositive positiveFormat.le rounds with whole | ⟨rfl, fits⟩
    · exact .inl whole
    · by_cases whole : format.width % getStepSize format = 0
      · exact .inl whole
      · by_cases up : getStepSize format < 2 * (format.width % getStepSize format)
        · rw [toStep_up up] at fits moved
          exact .inr ⟨up, fits up, moved⟩
        · have split := Int.ediv_mul_add_emod format.width (getStepSize format)
          have rest := Int.emod_nonneg format.width stepPositive.ne'
          have ordered := validFormat.ordered
          have width : format.range.max - format.range.min = format.width := rfl
          rw [toStep_down up, limitVolumeToRange] at isLast
          split at isLast
          · omega
          · split at isLast
            · omega
            · omega
  · rintro ⟨narrow, narrowFormat, ends⟩
    have stepPositive := ends.step_pos validFormat two
    refine ⟨converted input format, fun value has => ?_, fun value has => ?_, fun value _ => ?_,
      fun value other _ _ less => ?_, ?_, ?_⟩
    · exact convert_eq keeps_exact16 valid validFormat two narrow narrowFormat ends has
    · exact convert_eq keeps_int16 valid validFormat two narrow narrowFormat ends has
    · exact limitVolumeToRange_inside validFormat.ordered.le _
    · exact converted_mono valid validFormat stepPositive less
    · exact converted_first valid stepPositive
    · exact converted_last valid validFormat (ends.toStep_width validFormat two narrowFormat).1

theorem profile_converts : ∃ result, ConvertsBy ⟨⟨0, 127⟩, 128⟩ ⟨⟨0, 255⟩, 256⟩ result :=
  (convertsBy_iff ⟨by decide, by decide, by decide⟩ ⟨by decide, by decide, by decide⟩
    (by decide)).mpr ⟨by decide, by decide, by decide, .inl (by decide)⟩

/-- With three steps from 0 to 10, the loudest volume is converted to 9. -/
theorem loudest_converted_to_less : ¬ ∀ input format : VolumeConfig, input.Valid → format.Valid →
    2 ≤ input.numberOfSteps → 2 ≤ format.numberOfSteps →
      ∃ result, ConvertsBy input format result := by
  intro converts
  obtain ⟨result, converts⟩ := converts ⟨⟨0, 127⟩, 128⟩ ⟨⟨0, 10⟩, 4⟩
    ⟨by decide, by decide, by decide⟩ ⟨by decide, by decide, by decide⟩ (by decide) (by decide)
  have same := converts.same 127 ⟨by decide, by decide⟩
  have last : result 127 = 10 := converts.last
  have nine : convertToVolumeConfig ⟨⟨⟨0, 127⟩, 128⟩, 127⟩ ⟨⟨0, 10⟩, 4⟩ = .ok 9 := by decide
  rw [nine, last] at same
  cases same

end Conversion

end HeadsetAdk.Volumes
