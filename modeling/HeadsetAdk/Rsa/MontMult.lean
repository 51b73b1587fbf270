import Mathlib.Data.UInt
import Mathlib.Logic.Function.Iterate

/-!
# RSA exponentiation

`c_mont_mult.c` and `rsa_decrypt.c`.  Numbers are arrays of 16 bit words with the most significant
word first; intermediate values have 32 bits.
-/

namespace HeadsetAdk.Rsa

/-- An array of `uint16`. -/
abbrev Words := Nat → UInt16

def rsaSignatureSize : Nat := 128

structure RsaMod where
  M : Words
  mDash : UInt16

/-- `modR`, which cuts a `dword` down to its lower word. -/
def modR : UInt32 := 0xFFFF

/-- An assignment to an element of an array. -/
def set (words : Words) (index : Nat) (word : UInt16) : Words := Function.update words index word

/-- The variables of the loop over the words of `B`. -/
structure Partial where
  P : Words
  X : UInt32
  Y : UInt32

/-- The loop over the words of `B` and `M`, with the words before `j` left. -/
def innerLoop (a q : UInt16) (B M : Words) : Nat → Partial → Partial
  | 0, s => s
  | j + 1, s =>
      let X := (s.P (j + 1)).toUInt32 + a.toUInt32 * (B j).toUInt32 + (s.X >>> 16)
      let Y := q.toUInt32 * (M j).toUInt32 + (X &&& modR) + (s.Y >>> 16)
      innerLoop a q B M j ⟨set s.P (j + 2) Y.toUInt16, X, Y⟩

/-- The body of the loop over the words of `A`. -/
def round (wn : Nat) (ms : RsaMod) (B : Words) (a : UInt16) (P : Words) : Words :=
  let X := (P wn).toUInt32 + a.toUInt32 * (B (wn - 1)).toUInt32
  let q := X.toUInt16 * ms.mDash
  let Y := q.toUInt32 * (ms.M (wn - 1)).toUInt32 + (X &&& modR)
  let s := innerLoop a q B ms.M (wn - 1) ⟨P, X, Y⟩
  let X := (s.P 0).toUInt32 + (s.X >>> 16) + (s.Y >>> 16)
  set (set s.P 1 X.toUInt16) 0 (X >>> 16).toUInt16

/-- The loop over the words of `A`, with the words before `i` left. -/
def outerLoop (wn : Nat) (ms : RsaMod) (A B : Words) : Nat → Words → Words
  | 0, P => P
  | i + 1, P => outerLoop wn ms A B i (round wn ms B (A i) P)

/-- The loop of `subtract`, with the words up to `i` left. -/
def subtractLoop (M : Words) : Nat → Words → Int → Words × Int
  | 0, P, carry => (P, carry)
  | i + 1, P, carry =>
      let sum : Int := ((P (i + 1)).toNat : Int) - (M i).toNat - carry
      let borrow : Int := if sum < 0 then 1 else 0
      let word := UInt16.ofNat (sum + borrow * 0x10000).toNat
      subtractLoop M i (set P (i + 1) word) borrow

def subtract (wn : Nat) (P M : Words) : Words :=
  let (P, carry) := subtractLoop M wn P 0
  set P 0 (UInt16.ofNat carry.toNat)

/-- The loop of `a_biggerthan_b` over `left` words from `b[i]` on. -/
def biggerLoop (a b : Words) : Nat → Nat → Bool
  | 0, _ => true
  | left + 1, i =>
      if b i < a (i + 1) then true
      else if a (i + 1) < b i then false
      else biggerLoop a b left (i + 1)

def aBiggerthanB (wn : Nat) (a b : Words) : Bool :=
  if 0 < a 0 then true else biggerLoop a b wn 0

/-- `c_mont_mult`: the new contents of `A`. -/
def montMult (wn : Nat) (A B : Words) (ms : RsaMod) : Words :=
  let P := outerLoop wn ms A B wn fun _ => 0
  let P := if aBiggerthanB wn P ms.M then subtract wn P ms.M else P
  fun i => if i < wn then P (i + 1) else A i

/-- `rsa_decrypt`: the new contents of `start` and `A`. -/
def rsaDecrypt (start : Words) (mod : RsaMod) (A : Words) : Words × Words :=
  let A := montMult rsaSignatureSize A start mod
  let A := (fun A => montMult rsaSignatureSize A A mod)^[16] A
  (montMult rsaSignatureSize start A mod, A)

end HeadsetAdk.Rsa
