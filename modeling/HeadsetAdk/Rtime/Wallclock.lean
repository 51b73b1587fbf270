import Mathlib.Data.Int.ModEq
import Mathlib.Tactic.Positivity
import Mathlib.Tactic.LinearCombination

/-!
# Conversion of wallclock times

The times of `wallclock.c` are 32-bit counts of microseconds that wrap.  A truncated wallclock is
extended to the time that is closest to the current one.
-/

namespace HeadsetAdk.Rtime

/-- `rtime_t`; an `int32` has the same bits. -/
abbrev RtimeT := BitVec 32

/-- `wallclock_state_t`, without its task. -/
structure WallclockState where
  /-- A `NULL` sink is 0. -/
  sink : Nat
  offset : RtimeT

def rtimeAdd (t1 t2 : RtimeT) : RtimeT := t1 + t2

def rtimeSub (t1 t2 : RtimeT) : RtimeT := t1 - t2

def rtimeToRtime24 (t : RtimeT) : RtimeT := t &&& 0xFFFFFF#32

/-- The check at the start of each conversion; a conversion that fails is `none`. -/
def usable (state : Option WallclockState) : Option WallclockState :=
  state.filter fun state => state.sink ≠ 0

def rtimeLocalToWallClock (state : Option WallclockState) (localTime : RtimeT) : Option RtimeT :=
  (usable state).map fun state => rtimeAdd localTime state.offset

def rtimeLocalToWallClock24 (state : Option WallclockState) (localTime : RtimeT) : Option RtimeT :=
  (rtimeLocalToWallClock state localTime).map rtimeToRtime24

def rtimeWallClockToLocal (state : Option WallclockState) (wallclock : RtimeT) : Option RtimeT :=
  (usable state).map fun state => rtimeSub wallclock state.offset

/-- The difference of `RtimeWallClockExtend`, with its sign extended from `bits`.  A width has at
least two bits, or `1 << shift` would be no positive `int`. -/
def signedDifference (wallclock : RtimeT) (bits : Nat) (current : RtimeT) : RtimeT :=
  let shift := 32 - bits
  let mask := ~~~(0#32) >>> shift
  let diff := rtimeSub wallclock (current &&& mask)
  let diff := diff * (1#32 <<< shift)
  diff.sdiv (1#32 <<< shift)

def rtimeWallClockExtend (state : Option WallclockState) (wallclock : RtimeT) (bits : Nat)
    (current : RtimeT) : Option RtimeT :=
  (usable state).map fun _ => rtimeAdd current (signedDifference wallclock bits current)

/-- `RtimeWallClock24ToLocal` at the time `now` of the system clock. -/
def rtimeWallClock24ToLocal (state : Option WallclockState) (now wallclock24 : RtimeT) :
    Option RtimeT := do
  let current ← rtimeLocalToWallClock state now
  let wallclock32 ← rtimeWallClockExtend state wallclock24 24 current
  rtimeWallClockToLocal state wallclock32

section Extension

/-- The times that agree in their lowest bits. -/
def SameLowBits (bits : Nat) (first second : RtimeT) : Prop :=
  first.setWidth bits = second.setWidth bits

/-- A time is less than half the modulus after another, or at most that far before it. -/
def WithinHalf (bits : Nat) (time current : RtimeT) : Prop :=
  -2 ^ (bits - 1) ≤ (time - current).toInt ∧ (time - current).toInt < 2 ^ (bits - 1)

variable {bits : Nat} {wallclock current : RtimeT}

theorem mask_toNat : ∀ shift ≤ 32, (~~~(0#32) >>> shift).toNat = 2 ^ (32 - shift) - 1 := by
  decide

theorem one_shifted_toInt : ∀ shift ≤ 30, (1#32 <<< shift).toInt = 2 ^ shift := by
  decide

/-- A difference is multiplied until its sign is that of 32 bits, and divided again. -/
theorem signedDifference_toInt (wide : 2 ≤ bits) (fits : bits ≤ 32) :
    (signedDifference wallclock bits current).toInt =
      ((wallclock.toNat : Int) - current.toNat).bmod (2 ^ bits) := by
  obtain ⟨shift, rfl⟩ : ∃ shift, bits = 32 - shift := ⟨32 - bits, by omega⟩
  have undo : 32 - (32 - shift) = shift := by omega
  have modulus : 2 ^ 32 = 2 ^ (32 - shift) * 2 ^ shift := by
    rw [← Nat.pow_add, Nat.sub_add_cancel (by omega)]
  set half : Nat := 2 ^ (31 - shift) with halfDef
  have twice : 2 ^ (32 - shift) = 2 * half := by
    rw [halfDef, ← Nat.pow_succ']
    congr 1
    omega
  set near := ((wallclock.toNat : Int) - current.toNat).bmod (2 ^ (32 - shift)) with nearDef
  have low : -(half : Int) ≤ near := by
    have := Int.le_bmod (x := (wallclock.toNat : Int) - current.toNat) (m := 2 ^ (32 - shift))
      (by positivity)
    omega
  have high : near < half := by
    have := Int.bmod_lt (x := (wallclock.toNat : Int) - current.toNat) (m := 2 ^ (32 - shift))
      (by positivity)
    omega
  have whole : (half : Int) * 2 ^ shift = 2 ^ 31 := by
    have : half * 2 ^ shift = 2 ^ 31 := by
      rw [halfDef, ← Nat.pow_add, Nat.sub_add_cancel (by omega)]
    exact_mod_cast this
  have positive : (0 : Int) < 2 ^ shift := by positivity
  have below : -(half : Int) * 2 ^ shift ≤ near * 2 ^ shift :=
    mul_le_mul_of_nonneg_right low positive.le
  have above : near * 2 ^ shift < half * 2 ^ shift := mul_lt_mul_of_pos_right high positive
  rw [Int.neg_mul] at below
  have multiplied : ((wallclock - (current &&& ~~~(0#32) >>> shift)) * (1#32 <<< shift)).toInt =
      near * 2 ^ shift := by
    have quotient := Int.bdiv_add_bmod ((wallclock.toNat : Int) - current.toNat)
      (2 ^ (32 - shift))
    have masked : (((current &&& ~~~(0#32) >>> shift).toNat : Nat) : Int) =
        current.toNat - 2 ^ (32 - shift) * (current.toNat / 2 ^ (32 - shift)) := by
      rw [BitVec.toNat_and, mask_toNat shift (by omega), Nat.and_two_pow_sub_one_eq_mod]
      simp [Int.emod_def]
    rw [BitVec.toInt_mul, BitVec.toInt_sub, BitVec.toInt_eq_toNat_bmod wallclock,
      BitVec.toInt_eq_toNat_bmod (current &&& _), one_shifted_toInt shift (by omega),
      Int.bmod_mul_bmod, masked]
    have apart : ((wallclock.toNat : Int) - (current.toNat - 2 ^ (32 - shift) *
        (current.toNat / 2 ^ (32 - shift)))) * 2 ^ shift = near * 2 ^ shift + (2 ^ 32 : Nat) *
          (((wallclock.toNat : Int) - current.toNat).bdiv (2 ^ (32 - shift)) +
            current.toNat / 2 ^ (32 - shift)) := by
      rw [modulus]
      rw [← nearDef] at quotient
      push_cast at quotient ⊢
      linear_combination (-(2 : Int) ^ shift) * quotient
    rw [← Int.bmod_mul_bmod, Int.bmod_sub_bmod, Int.sub_bmod_bmod, Int.bmod_mul_bmod, apart,
      Int.add_mul_bmod_self_left]
    exact Int.bmod_eq_of_le_mul_two (by omega) (by omega)
  -- The product fits in 32 bits with its sign, and the division is exact.
  rw [signedDifference, undo]
  simp only [rtimeSub]
  rw [BitVec.toInt_sdiv, multiplied, one_shifted_toInt shift (by omega),
    Int.mul_tdiv_cancel _ positive.ne']
  have : half ≤ 2 ^ 31 := Nat.pow_le_pow_right (by decide) (by omega)
  exact Int.bmod_eq_of_le_mul_two (by omega) (by omega)

end Extension

section Times

variable {state : WallclockState} {bits : Nat} {wallclock current time : RtimeT}

theorem sameLowBits_iff (current : RtimeT) (fits : bits ≤ 32) :
    SameLowBits bits time wallclock ↔ (time - current).toInt.bmod (2 ^ bits) =
        ((wallclock.toNat : Int) - current.toNat).bmod (2 ^ bits) := by
  have difference : (time - current).toInt =
      ((time.toNat : Int) - current.toNat).bmod (2 ^ 32) := by
    rw [BitVec.toInt_sub, BitVec.toInt_eq_toNat_bmod, BitVec.toInt_eq_toNat_bmod,
      Int.bmod_sub_bmod, Int.sub_bmod_bmod]
  rw [difference, Int.bmod_bmod_of_dvd (pow_dvd_pow 2 fits), sub_eq_add_neg, sub_eq_add_neg,
    Int.bmod_add_cancel_right, SameLowBits, ← BitVec.toNat_inj, BitVec.toNat_setWidth,
    BitVec.toNat_setWidth]
  constructor
  · intro same
    rw [← Int.emod_bmod, ← Int.emod_bmod wallclock.toNat]
    exact_mod_cast congrArg (fun low : Nat => (low : Int).bmod (2 ^ bits)) same
  · intro same
    have residues := congrArg (fun near : Int => near % (2 ^ bits : Nat)) same
    simp only [Int.bmod_emod] at residues
    exact_mod_cast residues

theorem bmod_eq_self_of_withinHalf (wide : 2 ≤ bits) {difference : Int}
    (near : -2 ^ (bits - 1) ≤ difference ∧ difference < 2 ^ (bits - 1)) :
    difference.bmod (2 ^ bits) = difference := by
  obtain ⟨half, rfl⟩ : ∃ half, bits = half + 1 := ⟨bits - 1, by omega⟩
  rw [Nat.add_sub_cancel] at near
  exact Int.bmod_eq_of_le_mul_two (by push_cast [pow_succ]; omega) (by push_cast [pow_succ]; omega)

theorem WithinHalf.eq_signedDifference (wide : 2 ≤ bits) (fits : bits ≤ 32)
    (same : SameLowBits bits time wallclock) (near : WithinHalf bits time current) :
    time = current + signedDifference wallclock bits current := by
  have equal : (time - current).toInt = (signedDifference wallclock bits current).toInt := by
    rw [signedDifference_toInt wide fits, ← (sameLowBits_iff current fits).mp same,
      bmod_eq_self_of_withinHalf wide near]
  rw [← BitVec.eq_of_toInt_eq equal, BitVec.add_comm, BitVec.sub_add_cancel]

theorem signedDifference_near (wallclock current : RtimeT) (wide : 2 ≤ bits)
    (fits : bits ≤ 32) :
    SameLowBits bits (current + signedDifference wallclock bits current) wallclock ∧
      WithinHalf bits (current + signedDifference wallclock bits current) current := by
  have apart : current + signedDifference wallclock bits current - current =
      signedDifference wallclock bits current := by
    rw [BitVec.add_comm, BitVec.add_sub_cancel]
  constructor
  · rw [sameLowBits_iff current fits, apart, signedDifference_toInt wide fits, Int.bmod_bmod]
  · rw [WithinHalf, apart, signedDifference_toInt wide fits]
    obtain ⟨half, rfl⟩ : ∃ half, bits = half + 1 := ⟨bits - 1, by omega⟩
    have low := Int.le_bmod (x := (wallclock.toNat : Int) - current.toNat) (m := 2 ^ (half + 1))
      (by positivity)
    have high := Int.bmod_lt (x := (wallclock.toNat : Int) - current.toNat) (m := 2 ^ (half + 1))
      (by positivity)
    generalize ((wallclock.toNat : Int) - current.toNat).bmod (2 ^ (half + 1)) = near at low high ⊢
    rw [Nat.add_sub_cancel]
    push_cast [pow_succ] at low high
    omega

/-- A truncated wallclock is extended to the one time within half its modulus of the current
wallclock, so that the conversion of a local time to 24 bits is undone. -/
theorem extended_and_undone (state : WallclockState) (usableSink : state.sink ≠ 0) :
    (∀ bits wallclock current, 2 ≤ bits → bits ≤ 32 →
      ∃ extended, rtimeWallClockExtend (some state) wallclock bits current = some extended ∧
        SameLowBits bits extended wallclock ∧ WithinHalf bits extended current ∧
        ∀ time, SameLowBits bits time wallclock → WithinHalf bits time current →
          time = extended) ∧
    ∀ localTime now : RtimeT, |(localTime - now).toInt| < 2 ^ 23 →
      ∃ wallclock24, rtimeLocalToWallClock24 (some state) localTime = some wallclock24 ∧
        rtimeWallClock24ToLocal (some state) now wallclock24 = some localTime := by
  have usableState : usable (some state) = some state := by
    simp [usable, usableSink]
  refine ⟨fun bits wallclock current wide fits => ?_, fun localTime now close => ?_⟩
  · obtain ⟨same, near⟩ := signedDifference_near wallclock current wide fits
    exact ⟨_, by rw [rtimeWallClockExtend, usableState]; rfl, same, near, fun time same near =>
      near.eq_signedDifference wide fits same⟩
  · have same : SameLowBits 24 (localTime + state.offset)
        (rtimeToRtime24 (localTime + state.offset)) := by
      rw [SameLowBits, rtimeToRtime24, BitVec.setWidth_and]
      exact (BitVec.and_allOnes).symm
    have near : WithinHalf 24 (localTime + state.offset) (now + state.offset) := by
      have apart : localTime + state.offset - (now + state.offset) = localTime - now := by
        bv_omega
      rw [WithinHalf, apart]
      exact ⟨(abs_lt.mp close).1.le, (abs_lt.mp close).2⟩
    have extended := near.eq_signedDifference (by decide) (by decide) same
    refine ⟨rtimeToRtime24 (localTime + state.offset), by
      rw [rtimeLocalToWallClock24, rtimeLocalToWallClock, usableState]; rfl, ?_⟩
    simp only [rtimeWallClock24ToLocal, rtimeLocalToWallClock, rtimeWallClockExtend,
      rtimeWallClockToLocal, usableState, Option.map_some, Option.bind_eq_bind, Option.bind_some,
      rtimeAdd, rtimeSub]
    rw [← extended, BitVec.add_sub_cancel]

theorem undone_acrossWraps :
    ∃ wallclock24, rtimeLocalToWallClock24 (some ⟨1, 16#32⟩) 0xFFFFFFF8#32 = some wallclock24 ∧
      rtimeWallClock24ToLocal (some ⟨1, 16#32⟩) 0xFFFFFF00#32 wallclock24 = some 0xFFFFFFF8#32 :=
  (extended_and_undone ⟨1, 16#32⟩ (by decide)).2 0xFFFFFFF8#32 0xFFFFFF00#32 (by decide)

end Times

end HeadsetAdk.Rtime
