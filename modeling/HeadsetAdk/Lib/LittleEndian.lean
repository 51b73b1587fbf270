import Mathlib.Data.Nat.Bitwise
import Mathlib.Data.UInt

/-!
# Little-endian numbers

Reading a number from consecutive bytes and the bytes of a number, as lists too, and a number
put together by shifts.
-/

namespace HeadsetAdk.LittleEndian

/-- The number stored in the first `count` bytes. -/
def number : Nat → (Nat → UInt8) → Nat
  | 0, _ => 0
  | count + 1, bytes => (bytes 0).toNat + 256 * number count (fun index => bytes (index + 1))

def byte (value index : Nat) : UInt8 := UInt8.ofNat (value / 256 ^ index)

theorem number_lt (count : Nat) (bytes : Nat → UInt8) : number count bytes < 256 ^ count := by
  induction count generalizing bytes with
  | zero => simp [number]
  | succ count induction =>
    have rest := induction (fun index => bytes (index + 1))
    have first := (bytes 0).toNat_lt
    rw [number, pow_succ]
    omega

theorem number_congr {count : Nat} {first second : Nat → UInt8}
    (agree : ∀ index < count, first index = second index) :
    number count first = number count second := by
  induction count generalizing first second with
  | zero => rfl
  | succ count induction =>
    rw [number, number, agree 0 (by omega),
      induction fun index inside => agree (index + 1) (by omega)]

theorem byte_number {count index : Nat} (bytes : Nat → UInt8) (inside : index < count) :
    byte (number count bytes) index = bytes index := by
  induction count generalizing bytes index with
  | zero => omega
  | succ count induction =>
    have first := (bytes 0).toNat_lt
    cases index with
    | zero =>
      apply UInt8.toNat_inj.mp
      simp only [byte, number, pow_zero, Nat.div_one, UInt8.toNat_ofNat']
      omega
    | succ index =>
      have shift : number (count + 1) bytes / 256 ^ (index + 1) =
          number count (fun index => bytes (index + 1)) / 256 ^ index := by
        rw [number, pow_succ', ← Nat.div_div_eq_div_mul]
        congr 1
        omega
      rw [byte, shift]
      exact induction (fun index => bytes (index + 1)) (by omega)

theorem number_byte (count value : Nat) : number count (byte value) = value % 256 ^ count := by
  induction count generalizing value with
  | zero => simp [number, Nat.mod_one]
  | succ count induction =>
    have shift : (fun index => byte value (index + 1)) = byte (value / 256) := by
      funext index
      rw [byte, byte, pow_succ', Nat.div_div_eq_div_mul]
    rw [number, shift, induction]
    have low : (byte value 0).toNat = value % 256 := by
      simp [byte]
    rw [low, pow_succ', Nat.mod_mul]

def bytes : Nat → Nat → List UInt8
  | 0, _ => []
  | size + 1, value => UInt8.ofNat value :: bytes size (value / 256)

def value : List UInt8 → Nat
  | [] => 0
  | byte :: rest => byte.toNat + 256 * value rest

theorem value_bytes (size number : Nat) : value (bytes size number) = number % 256 ^ size := by
  induction size generalizing number with
  | zero => rw [bytes, value, pow_zero, Nat.mod_one]
  | succ size ih =>
    have split : number % 256 ^ (size + 1) = number % 256 + 256 * (number / 256 % 256 ^ size) := by
      rw [pow_succ', Nat.mod_mul]
    rw [bytes, value, ih, UInt8.toNat_ofNat', split]

/-- A byte below the others. -/
theorem shift_or_byte (above : Nat) (byte : UInt8) :
    above <<< 8 ||| byte.toNat = byte.toNat + 256 * above := by
  rw [← Nat.shiftLeft_add_eq_or_of_lt byte.toNat_lt, Nat.shiftLeft_eq, Nat.add_comm, Nat.mul_comm]

theorem value_two (low high : UInt8) : high.toNat <<< 8 ||| low.toNat = value [low, high] := by
  rw [shift_or_byte, value, value, value, Nat.mul_zero, Nat.add_zero]

theorem value_three (low middle high : UInt8) :
    low.toNat ||| middle.toNat <<< 8 ||| high.toNat <<< 16 = value [low, middle, high] := by
  have shifts : middle.toNat <<< 8 ||| high.toNat <<< 16 =
      (high.toNat <<< 8 ||| middle.toNat) <<< 8 := by
    rw [Nat.shiftLeft_or_distrib, ← Nat.shiftLeft_add, Nat.or_comm]
  rw [Nat.or_assoc, shifts, Nat.or_comm, shift_or_byte, shift_or_byte]
  simp only [value, Nat.mul_zero, Nat.add_zero]

theorem value_four (first second third fourth : UInt8) :
    fourth.toNat <<< 24 ||| third.toNat <<< 16 ||| second.toNat <<< 8 ||| first.toNat =
      value [first, second, third, fourth] := by
  have shifts : fourth.toNat <<< 24 ||| third.toNat <<< 16 ||| second.toNat <<< 8 =
      ((fourth.toNat <<< 8 ||| third.toNat) <<< 8 ||| second.toNat) <<< 8 := by
    rw [Nat.shiftLeft_or_distrib, Nat.shiftLeft_or_distrib, Nat.shiftLeft_or_distrib,
      ← Nat.shiftLeft_add, ← Nat.shiftLeft_add, ← Nat.shiftLeft_add]
  rw [shifts, shift_or_byte, shift_or_byte, shift_or_byte]
  simp only [value, Nat.mul_zero, Nat.add_zero]

end HeadsetAdk.LittleEndian
