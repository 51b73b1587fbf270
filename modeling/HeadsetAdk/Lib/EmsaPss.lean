import Mathlib.Data.List.DropRight
import Mathlib.Algebra.Order.Group.Nat
import Mathlib.Data.UInt

/-!
# The encoding EMSA-PSS

The verification of the PKCS #1 signature encoding PSS with the mask generation function
MGF1, for any hash function.
-/

namespace HeadsetAdk.Pkcs1

/-- `I2OSP`: a number in octets, the most significant first. -/
def i2osp (x : Nat) : Nat → List UInt8
  | 0 => []
  | xLen + 1 => i2osp (x / 256) xLen ++ [UInt8.ofNat x]

section Verification

variable {hLen : Nat} (hash : List UInt8 → Vector UInt8 hLen)

def mgf1 (mgfSeed : List UInt8) (maskLen : Nat) : List UInt8 :=
  ((List.range ((maskLen + hLen - 1) / hLen)).flatMap fun counter =>
    (hash (mgfSeed ++ i2osp counter 4)).toList).take maskLen

variable {piece : Nat → List UInt8} {size : Nat}

theorem length_pieces (sized : ∀ index, (piece index).length = size) (count : Nat) :
    ((List.range count).flatMap piece).length = size * count := by
  induction count with
  | zero => rfl
  | succ count induction =>
    rw [List.range_succ, List.flatMap_append, List.length_append, induction,
      List.flatMap_singleton, sized, Nat.mul_succ]

/-- Behind some pieces of one size the next one follows. -/
theorem drop_pieces (sized : ∀ index, (piece index).length = size) {index count : Nat}
    (inside : index < count) :
    ((List.range count).flatMap piece).drop (size * index) =
      piece index ++ ((List.range count).flatMap piece).drop (size * (index + 1)) := by
  obtain ⟨left, rfl⟩ := Nat.exists_eq_add_of_lt inside
  have split : (List.range (index + left + 1)).flatMap piece = (List.range index).flatMap piece ++
        (piece index ++ ((List.range left).map (index + 1 + ·)).flatMap piece) := by
    rw [Nat.add_right_comm, List.range_add, List.range_succ, List.flatMap_append,
      List.flatMap_append, List.flatMap_singleton, List.append_assoc]
  have before := length_pieces sized index
  rw [split, ← before, List.drop_left, Nat.mul_succ, ← before, ← List.drop_drop, List.drop_left,
    ← sized index, List.drop_left]

theorem length_mgf1 (positive : 0 < hLen) (mgfSeed : List UInt8) (maskLen : Nat) :
    (mgf1 hash mgfSeed maskLen).length = maskLen := by
  rw [mgf1, List.length_take, length_pieces (fun _ => Vector.length_toList), Nat.min_eq_left]
  have rounded := Nat.lt_mul_div_succ (maskLen + hLen - 1) positive
  rw [Nat.mul_succ] at rounded
  omega

/-- The mask is made of digests, and the last one is cut. -/
theorem drop_mgf1 (positive : 0 < hLen) (mgfSeed : List UInt8) {maskLen counter : Nat}
    (inside : hLen * counter < maskLen) :
    (mgf1 hash mgfSeed maskLen).drop (hLen * counter) =
      (hash (mgfSeed ++ i2osp counter 4)).toList.take (maskLen - hLen * counter) ++
        (mgf1 hash mgfSeed maskLen).drop (hLen * (counter + 1)) := by
  have within : counter < (maskLen + hLen - 1) / hLen := by
    rw [Nat.lt_iff_add_one_le, Nat.le_div_iff_mul_le positive, Nat.add_mul, Nat.mul_comm counter]
    omega
  rw [mgf1, List.drop_take, List.drop_take, drop_pieces (fun _ => Vector.length_toList) within,
    List.take_append, Vector.length_toList, Nat.mul_succ, Nat.sub_sub]

def clearLeftmost (bits : Nat) : List UInt8 → List UInt8
  | [] => []
  | first :: rest => UInt8.ofNat (first.toNat % 2 ^ (8 - bits)) :: rest

theorem length_clearLeftmost (bits : Nat) (octets : List UInt8) :
    (clearLeftmost bits octets).length = octets.length := by
  cases octets <;> rfl

variable (emBits : Nat) (EM : List UInt8)

/-- `emLen` -/
def emLength : Nat := (emBits + 7) / 8

/-- The leftmost bits of an encoded message that are not part of it. -/
def unusedBits : Nat := 8 * emLength emBits - emBits

/-- `maskedDB` -/
def maskedBlock (hLen : Nat) : List UInt8 := EM.take (emLength emBits - hLen - 1)

/-- `H` -/
def trailingHash (hLen : Nat) : List UInt8 := (EM.drop (emLength emBits - hLen - 1)).take hLen

/-- `DB`, with the leftmost bits set to zero. -/
def dataBlock : List UInt8 :=
  clearLeftmost (unusedBits emBits) (List.zipWith (· ^^^ ·) (maskedBlock emBits EM hLen)
    (mgf1 hash (trailingHash emBits EM hLen) (emLength emBits - hLen - 1)))

/-- `EMSA-PSS-VERIFY` finds an encoded message consistent with the hash of a message. -/
structure EmsaPssVerify (sLen : Nat) (mHash : List UInt8) : Prop where
  long : hLen + sLen + 2 ≤ emLength emBits
  trailer : EM.getLast? = some 0xbc
  leftmost : ∀ first ∈ (maskedBlock emBits EM hLen).head?, first.toNat < 2 ^ (8 - unusedBits emBits)
  padding : ∀ octet ∈ (dataBlock hash emBits EM).take (emLength emBits - hLen - sLen - 2), octet = 0
  separator : (dataBlock hash emBits EM)[emLength emBits - hLen - sLen - 2]? = some 1
  digest : (hash (List.replicate 8 0 ++ mHash ++
    (dataBlock hash emBits EM).rtake sLen)).toList = trailingHash emBits EM hLen

end Verification

end HeadsetAdk.Pkcs1
