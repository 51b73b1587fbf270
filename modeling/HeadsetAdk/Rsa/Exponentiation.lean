import HeadsetAdk.Lib.BigEndian
import HeadsetAdk.Lib.Montgomery
import HeadsetAdk.Rsa.MontMult

/-! # What the exponentiation computes -/

namespace HeadsetAdk.Rsa

open BigEndian Montgomery

def value (words : Words) (count : Nat) : Nat :=
  number 0x10000 (fun index => (words index).toNat) count

section Words

theorem value_succ (words : Words) (count : Nat) :
    value words (count + 1) = value words count * 0x10000 + (words count).toNat := rfl

theorem value_congr {first second : Words} {count : Nat}
    (agree : ∀ index < count, first index = second index) :
    value first count = value second count :=
  number_congr fun index inside => by rw [agree index inside]

theorem value_lt (words : Words) (count : Nat) : value words count < 0x10000 ^ count :=
  number_lt fun index _ => (words index).toNat_lt

theorem set_same (words : Words) (index : Nat) (word : UInt16) :
    set words index word index = word := by
  unfold set
  exact Function.update_self ..

theorem set_other {index other : Nat} (elsewhere : other ≠ index) (words : Words)
    (word : UInt16) : set words index word other = words other := by
  unfold set
  exact Function.update_of_ne elsewhere ..

theorem and_modR (x : UInt32) : (x &&& modR).toNat = x.toNat % 0x10000 := by
  have mask : modR.toNat = 2 ^ 16 - 1 := by decide
  rw [UInt32.toNat_and, mask, Nat.and_two_pow_sub_one_eq_mod]

theorem shift_toNat (x : UInt32) : (x >>> 16).toNat = x.toNat / 0x10000 := by
  rw [UInt32.toNat_shiftRight]
  have amount : (16 : UInt32).toNat % 32 = 16 := by decide
  rw [amount, Nat.shiftRight_eq_div_pow]

theorem shift_lt (x : UInt32) : (x >>> 16).toNat < 0x10000 := by
  have bound := x.toNat_lt
  rw [shift_toNat]
  omega

theorem product_le (a b : UInt16) : a.toNat * b.toNat ≤ 0xFFFE0001 := by
  have aBound : a.toNat ≤ 0xFFFF := by
    have := a.toNat_lt
    omega
  have bBound : b.toNat ≤ 0xFFFF := by
    have := b.toNat_lt
    omega
  exact Nat.mul_le_mul aBound bBound

variable {c d : UInt32}

theorem mulAdd_toNat (a b : UInt16) (cSmall : c.toNat < 0x10000) (dSmall : d.toNat < 0x10000) :
    (c + a.toUInt32 * b.toUInt32 + d).toNat = c.toNat + a.toNat * b.toNat + d.toNat := by
  have product := product_le a b
  simp only [UInt32.toNat_add, UInt32.toNat_mul, UInt16.toNat_toUInt32]
  omega

theorem mulAdd_toNat' (a b : UInt16) (cSmall : c.toNat < 0x10000) (dSmall : d.toNat < 0x10000) :
    (a.toUInt32 * b.toUInt32 + c + d).toNat = a.toNat * b.toNat + c.toNat + d.toNat := by
  rw [UInt32.add_comm (a.toUInt32 * b.toUInt32) c, mulAdd_toNat a b cSmall dSmall,
    Nat.add_comm c.toNat]

theorem toUInt32_lt (word : UInt16) : word.toUInt32.toNat < 0x10000 := by
  rw [UInt16.toNat_toUInt32]
  exact word.toNat_lt

theorem and_modR_lt (x : UInt32) : (x &&& modR).toNat < 0x10000 := by
  rw [and_modR]
  omega

end Words

section Loops

/-- What follows the loop over the words of `B`. -/
def finish (s : Partial) : Words :=
  let X := (s.P 0).toUInt32 + (s.X >>> 16) + (s.Y >>> 16)
  set (set s.P 1 X.toUInt16) 0 (X >>> 16).toUInt16

theorem finish_of_two_le (s : Partial) {index : Nat} (high : 2 ≤ index) :
    finish s index = s.P index := by
  unfold finish
  rw [set_other (by omega), set_other (by omega)]

theorem value_finish_two (s : Partial) :
    value (finish s) 2 = (s.P 0).toNat + (s.X >>> 16).toNat + (s.Y >>> 16).toNat := by
  have first := (s.P 0).toNat_lt
  have second := shift_lt s.X
  have third := shift_lt s.Y
  have sum : ((s.P 0).toUInt32 + (s.X >>> 16) + (s.Y >>> 16)).toNat =
      (s.P 0).toNat + (s.X >>> 16).toNat + (s.Y >>> 16).toNat := by
    rw [UInt32.toNat_add, UInt32.toNat_add, UInt16.toNat_toUInt32]
    omega
  rw [value_succ, value_succ]
  unfold finish
  rw [set_same, set_other (by omega), set_same, UInt32.toNat_toUInt16, UInt32.toNat_toUInt16,
    shift_toNat, sum]
  change (0 * 0x10000 + _) * 0x10000 + _ = _
  omega

/-- The loop adds a multiple of `B` and a multiple of `M` to the words that are left, with
the carries; it writes behind the word that it reads. -/
theorem innerLoop_spec (a q : UInt16) (B M : Words) (j : Nat) (s : Partial) :
    (∀ index, j + 1 < index → (innerLoop a q B M j s).P index = s.P index) ∧
      value (finish (innerLoop a q B M j s)) (j + 2) =
        value s.P (j + 1) + a.toNat * value B j + q.toNat * value M j +
          (s.X >>> 16).toNat + (s.Y >>> 16).toNat := by
  induction j generalizing s with
  | zero =>
    refine ⟨fun _ _ => rfl, ?_⟩
    change value (finish s) 2 = _
    rw [value_finish_two, value_succ]
    change _ = 0 * 0x10000 + _ + a.toNat * 0 + q.toNat * 0 + _ + _
    omega
  | succ j induction =>
    rw [innerLoop]
    set X := (s.P (j + 1)).toUInt32 + a.toUInt32 * (B j).toUInt32 + (s.X >>> 16) with isX
    set Y := q.toUInt32 * (M j).toUInt32 + (X &&& modR) + (s.Y >>> 16) with isY
    obtain ⟨frame, sum⟩ := induction ⟨Rsa.set s.P (j + 2) Y.toUInt16, X, Y⟩
    dsimp only at frame sum
    refine ⟨?_, ?_⟩
    · intro index behind
      rw [frame index (by omega)]
      exact set_other (by omega) _ _
    · have xValue : X.toNat = (s.P (j + 1)).toNat + a.toNat * (B j).toNat + (s.X >>> 16).toNat := by
        rw [isX, mulAdd_toNat a (B j) (toUInt32_lt _) (shift_lt s.X), UInt16.toNat_toUInt32]
      have yValue : Y.toNat = q.toNat * (M j).toNat + X.toNat % 0x10000 + (s.Y >>> 16).toNat := by
        rw [isY, mulAdd_toNat' q (M j) (and_modR_lt X) (shift_lt s.Y), and_modR]
      have written : (finish (innerLoop a q B M j
          ⟨Rsa.set s.P (j + 2) Y.toUInt16, X, Y⟩) (j + 2)).toNat = Y.toNat % 0x10000 := by
        rw [finish_of_two_le _ (by omega), frame (j + 2) (by omega), set_same,
          UInt32.toNat_toUInt16]
      have unread : value (Rsa.set s.P (j + 2) Y.toUInt16) (j + 1) = value s.P (j + 1) :=
        value_congr fun index inside => set_other (by omega) _ _
      rw [value_succ _ (j + 2), sum, written, unread, value_succ s.P (j + 1), value_succ B,
        value_succ M, shift_toNat X, shift_toNat Y]
      have xParts := Nat.div_add_mod X.toNat 0x10000
      have yParts := Nat.div_add_mod Y.toNat 0x10000
      linarith

theorem round_eq (n : Nat) (ms : RsaMod) (B : Words) (a : UInt16) (P : Words) :
    round (n + 1) ms B a P = let X := (P (n + 1)).toUInt32 + a.toUInt32 * (B n).toUInt32
      let q := X.toUInt16 * ms.mDash
      let Y := q.toUInt32 * (ms.M n).toUInt32 + (X &&& modR)
      finish (innerLoop a q B ms.M n ⟨P, X, Y⟩) := rfl

/-- The word `M_dash` is the one that makes multiples of the modulus cancel. -/
def DashOk (n : Nat) (ms : RsaMod) : Prop :=
  (value ms.M n * ms.mDash.toNat + 1) % 0x10000 = 0

instance (n : Nat) (ms : RsaMod) : Decidable (DashOk n ms) :=
  inferInstanceAs (Decidable (_ = 0))

variable {n : Nat} {ms : RsaMod}

/-- One round adds a multiple of `B` and a multiple of the modulus, and divides exactly. -/
theorem round_spec (dash : DashOk (n + 1) ms) (B : Words) (a : UInt16) (P : Words) :
    ∃ q < 0x10000, value (round (n + 1) ms B a P) (n + 2) * 0x10000 =
        value P (n + 2) + a.toNat * value B (n + 1) + q * value ms.M (n + 1) := by
  rw [round_eq]
  set X := (P (n + 1)).toUInt32 + a.toUInt32 * (B n).toUInt32 with isX
  set q := X.toUInt16 * ms.mDash with isQ
  set Y := q.toUInt32 * (ms.M n).toUInt32 + (X &&& modR) with isY
  refine ⟨q.toNat, q.toNat_lt, ?_⟩
  have zero : (0 : UInt32).toNat < 0x10000 := by decide
  have xValue : X.toNat = (P (n + 1)).toNat + a.toNat * (B n).toNat := by
    have sum := mulAdd_toNat a (B n) (toUInt32_lt (P (n + 1))) zero
    rw [UInt32.add_zero, UInt16.toNat_toUInt32] at sum
    exact sum
  have yValue : Y.toNat = q.toNat * (ms.M n).toNat + X.toNat % 0x10000 := by
    have sum := mulAdd_toNat' q (ms.M n) (and_modR_lt X) zero
    rw [UInt32.add_zero, and_modR] at sum
    exact sum
  have qValue : q.toNat = X.toNat % 0x10000 * ms.mDash.toNat % 0x10000 := by
    rw [isQ, UInt16.toNat_mul, UInt32.toNat_toUInt16]
  have cancelled : Y.toNat % 0x10000 = 0 := by
    have low : (ms.M n).toNat % 0x10000 = value ms.M (n + 1) % 0x10000 :=
      (number_mod (fun index => (ms.M index).toNat) n).symm
    rw [yValue, Nat.add_comm, qValue]
    exact quotient_exact dash low
  dsimp only
  rw [(innerLoop_spec a q B ms.M n ⟨P, X, Y⟩).2, shift_toNat, shift_toNat, value_succ P (n + 1),
    value_succ B, value_succ ms.M]
  dsimp only
  have xParts := Nat.div_add_mod X.toNat 0x10000
  have yParts := Nat.div_add_mod Y.toNat 0x10000
  linarith

theorem outerLoop_spec (dash : DashOk (n + 1) ms) (A B : Words) (i : Nat) (P : Words) :
    ∃ multiple < 0x10000 ^ i, 0x10000 ^ i * value (outerLoop (n + 1) ms A B i P) (n + 2) =
        value P (n + 2) + value A i * value B (n + 1) + multiple * value ms.M (n + 1) := by
  induction i generalizing P with
  | zero =>
    refine ⟨0, by decide, ?_⟩
    change 1 * value P (n + 2) = value P (n + 2) + 0 * _ + 0 * _
    omega
  | succ i induction =>
    obtain ⟨q, qSmall, first⟩ := round_spec dash B (A i) P
    obtain ⟨multiple, small, rest⟩ := induction (round (n + 1) ms B (A i) P)
    refine ⟨q + multiple * 0x10000, ?_, ?_⟩
    · rw [pow_succ]
      omega
    · rw [outerLoop, pow_succ, value_succ A]
      calc 0x10000 ^ i * 0x10000 *
            value (outerLoop (n + 1) ms A B i (round (n + 1) ms B (A i) P)) (n + 2)
          = 0x10000 ^ i *
              value (outerLoop (n + 1) ms A B i (round (n + 1) ms B (A i) P)) (n + 2) *
                0x10000 := by ring
        _ = value (round (n + 1) ms B (A i) P) (n + 2) * 0x10000 +
              (value A i * value B (n + 1) + multiple * value ms.M (n + 1)) * 0x10000 := by
            rw [rest]
            ring
        _ = _ := by
            rw [first]
            ring

end Loops

def tail (words : Words) : Words := fun index => words (index + 1)

theorem value_lt_of_first (first second : Words) (less : first 0 < second 0) (count : Nat) :
    value first (count + 1) < value second (count + 1) :=
  number_lt_of_first (fun index _ => (first index).toNat_lt) less

theorem value_le_iff_of_first (first second : Words) (same : first 0 = second 0) (count : Nat) :
    value first (count + 1) ≤ value second (count + 1) ↔
      value (tail first) count ≤ value (tail second) count :=
  number_le_iff_of_first count (congrArg UInt16.toNat same)

theorem biggerLoop_spec (a b : Words) (left i : Nat) :
    biggerLoop a b left i = true ↔
      value (fun index => b (i + index)) left ≤ value (fun index => a (i + index + 1)) left := by
  induction left generalizing i with
  | zero => exact ⟨fun _ => Nat.le_refl _, fun _ => rfl⟩
  | succ left induction =>
    rw [biggerLoop]
    split
    · rename_i less
      have numbers := value_lt_of_first (fun index => b (i + index))
        (fun index => a (i + index + 1)) less left
      exact ⟨fun _ => numbers.le, fun _ => rfl⟩
    · rename_i notLess
      split
      · rename_i greater
        have numbers := value_lt_of_first (fun index => a (i + index + 1))
          (fun index => b (i + index)) greater left
        exact ⟨fun wrong => absurd wrong (by decide),
          fun wrong => absurd numbers (Nat.not_lt.mpr wrong)⟩
      · rename_i notGreater
        have same : b i = a (i + 1) :=
          UInt16.le_antisymm (UInt16.not_lt.mp notGreater) (UInt16.not_lt.mp notLess)
        have shift : ∀ index, i + 1 + index = i + (index + 1) := by omega
        rw [induction (i + 1), value_le_iff_of_first (fun index => b (i + index)) _ same]
        simp only [shift]
        exact Iff.rfl

theorem value_succ' (words : Words) (count : Nat) :
    value words (count + 1) = (words 0).toNat * 0x10000 ^ count + value (tail words) count :=
  number_succ' (fun index => (words index).toNat) count

/-- `a_biggerthan_b` compares a number with one more word. -/
theorem aBiggerthanB_iff (wn : Nat) (a b : Words) :
    aBiggerthanB wn a b = true ↔ value b wn ≤ value a (wn + 1) := by
  rw [aBiggerthanB, value_succ']
  split
  · rename_i positive
    have bound := value_lt b wn
    have first : 1 ≤ (a 0).toNat := positive
    have large : 1 * 0x10000 ^ wn ≤ (a 0).toNat * 0x10000 ^ wn := Nat.mul_le_mul_right _ first
    exact ⟨fun _ => by omega, fun _ => rfl⟩
  · rename_i zero
    have first : (a 0).toNat = 0 := Nat.le_zero.mp (UInt16.not_lt.mp zero)
    rw [biggerLoop_spec, first, Nat.zero_mul, Nat.zero_add]
    simp only [Nat.zero_add]
    exact Iff.rfl

theorem subtract_word (p m : UInt16) {carry : Nat} (bit : carry ≤ 1) :
    ∃ borrow ≤ 1,
      (if (p.toNat : Int) - m.toNat - carry < 0 then (1 : Int) else 0) = (borrow : Nat) ∧
      (UInt16.ofNat ((p.toNat : Int) - m.toNat - carry +
        (borrow : Nat) * 0x10000).toNat).toNat + m.toNat + carry = p.toNat + borrow * 0x10000 := by
  have pBound := p.toNat_lt
  have mBound := m.toNat_lt
  by_cases negative : (p.toNat : Int) - m.toNat - carry < 0
  · refine ⟨1, by decide, if_pos negative, ?_⟩
    rw [UInt16.toNat_ofNat']
    omega
  · refine ⟨0, by decide, if_neg negative, ?_⟩
    rw [UInt16.toNat_ofNat']
    omega

theorem subtractLoop_spec (M : Words) (i : Nat) (P : Words) (carry : Nat) (bit : carry ≤ 1) :
    ∃ borrow ≤ 1, (subtractLoop M i P carry).2 = (borrow : Nat) ∧
      (∀ index, i < index → (subtractLoop M i P carry).1 index = P index) ∧
      value (tail (subtractLoop M i P carry).1) i + value M i + carry =
        value (tail P) i + borrow * 0x10000 ^ i := by
  induction i generalizing P carry with
  | zero =>
    refine ⟨carry, bit, rfl, fun _ _ => rfl, ?_⟩
    change 0 + 0 + carry = 0 + carry * 1
    omega
  | succ i induction =>
    obtain ⟨borrow, isBit, isBorrow, difference⟩ := subtract_word (P (i + 1)) (M i) bit
    rw [subtractLoop, isBorrow]
    set word := UInt16.ofNat (((P (i + 1)).toNat : Int) - (M i).toNat - carry +
      (borrow : Nat) * 0x10000).toNat
    obtain ⟨last, lastBit, isLast, frame, rest⟩ := induction (Rsa.set P (i + 1) word) borrow isBit
    refine ⟨last, lastBit, isLast, ?_, ?_⟩
    · intro index behind
      rw [frame index (by omega)]
      exact set_other (by omega) _ _
    · have written : tail (subtractLoop M i (Rsa.set P (i + 1) word) borrow).1 i = word := by
        rw [tail, frame (i + 1) (by omega), set_same]
      have unread : value (tail (Rsa.set P (i + 1) word)) i = value (tail P) i :=
        value_congr fun index inside => set_other (by omega) _ _
      rw [unread] at rest
      rw [value_succ, written, value_succ M, value_succ (tail P), pow_succ]
      change _ * 0x10000 + word.toNat + (_ * 0x10000 + _) + carry =
        _ * 0x10000 + (P (i + 1)).toNat + _
      linarith

theorem subtract_spec {wn : Nat} {P M : Words} (large : value M wn ≤ value P (wn + 1))
    (fits : value P (wn + 1) < value M wn + 0x10000 ^ wn) :
    value (tail (subtract wn P M)) wn = value P (wn + 1) - value M wn := by
  obtain ⟨borrow, -, -, -, sum⟩ := subtractLoop_spec M wn P 0 (Nat.zero_le 1)
  have same : tail (subtract wn P M) = tail (subtractLoop M wn P (0 : Nat)).1 := by
    funext index
    unfold subtract
    exact set_other (Nat.succ_ne_zero index) _ _
  rw [← same] at sum
  have residue : value (tail (subtract wn P M)) wn + value M wn ≡
      value P (wn + 1) - value M wn + value M wn [MOD 0x10000 ^ wn] := by
    rw [Nat.sub_add_cancel large, value_succ', ← Nat.add_zero (_ + value M wn), sum]
    exact (Nat.add_mul_mod_self_right _ _ _).trans (Nat.mul_add_mod_self_right _ _ _).symm
  exact Nat.ModEq.eq_of_lt_of_lt (Nat.ModEq.add_right_cancel' _ residue) (value_lt _ wn)
    (by omega)

theorem value_montMult (wn : Nat) (A B : Words) (ms : RsaMod) :
    value (montMult wn A B ms) wn =
      value (tail (if aBiggerthanB wn (outerLoop wn ms A B wn fun _ => 0) ms.M then
        subtract wn (outerLoop wn ms A B wn fun _ => 0) ms.M
        else outerLoop wn ms A B wn fun _ => 0)) wn :=
  value_congr fun _ inside => if_pos inside

theorem value_tail_of_lt {P : Words} {count : Nat}
    (small : value P (count + 1) < 0x10000 ^ count) :
    value (tail P) count = value P (count + 1) := by
  rw [value_succ'] at small ⊢
  have none : (P 0).toNat = 0 := by
    by_contra some
    have large : 1 * 0x10000 ^ count ≤ (P 0).toNat * 0x10000 ^ count :=
      Nat.mul_le_mul_right _ (Nat.pos_of_ne_zero some)
    omega
  rw [none, Nat.zero_mul, Nat.zero_add]

theorem value_zero (count : Nat) : value (fun _ => 0) count = 0 := by
  induction count with
  | zero => rfl
  | succ count induction =>
    rw [value_succ, induction]
    rfl

theorem montMult_spec {n : Nat} {ms : RsaMod} (dash : DashOk (n + 1) ms) {A B : Words}
    (bound : value A (n + 1) * value B (n + 1) < value ms.M (n + 1) * 0x10000 ^ (n + 1)) :
    value (montMult (n + 1) A B ms) (n + 1) < value ms.M (n + 1) ∧
      value (montMult (n + 1) A B ms) (n + 1) * 0x10000 ^ (n + 1) ≡
        value A (n + 1) * value B (n + 1) [MOD value ms.M (n + 1)] := by
  obtain ⟨multiple, small, exact_⟩ := outerLoop_spec dash A B (n + 1) fun _ => 0
  rw [value_zero, Nat.zero_add] at exact_
  have twice := quotient_lt exact_ small bound
  have reduced := Montgomery.subtract_spec exact_ small bound
  have modulusBound := value_lt ms.M (n + 1)
  have same : value (montMult (n + 1) A B ms) (n + 1) =
      if value ms.M (n + 1) ≤ value (outerLoop (n + 1) ms A B (n + 1) fun _ => 0) (n + 2)
      then value (outerLoop (n + 1) ms A B (n + 1) fun _ => 0) (n + 2) - value ms.M (n + 1)
      else value (outerLoop (n + 1) ms A B (n + 1) fun _ => 0) (n + 2) := by
    rw [value_montMult]
    split
    · rename_i bigger
      have large := (aBiggerthanB_iff _ _ _).mp bigger
      rw [if_pos large]
      refine subtract_spec large (twice.trans_le ?_)
      rw [Nat.two_mul]
      exact Nat.add_le_add_left modulusBound.le _
    · rename_i notBigger
      have less := fun large => notBigger ((aBiggerthanB_iff _ _ _).mpr large)
      rw [if_neg less]
      exact value_tail_of_lt ((Nat.lt_of_not_le less).trans modulusBound)
  rw [same]
  exact reduced

section Exponent

variable {n : Nat} {ms : RsaMod} {A : Words}

theorem dashOk_coprime (dash : DashOk n ms) (count : Nat) :
    Nat.Coprime (value ms.M n) (0x10000 ^ count) := by
  have multiple : 0x10000 ∣ value ms.M n * ms.mDash.toNat + 1 := Nat.dvd_of_mod_eq_zero dash
  have coprime : Nat.Coprime (value ms.M n) 0x10000 := by
    have next : Nat.Coprime (value ms.M n) (value ms.M n * ms.mDash.toNat + 1) := by
      rw [Nat.coprime_mul_left_add_right]
      exact Nat.coprime_one_right _
    exact next.coprime_dvd_right multiple
  exact coprime.pow_right count

def FormOf (n : Nat) (ms : RsaMod) (A : Words) (number : Nat) : Prop :=
  value A n < value ms.M n ∧ value A n ≡ number * 0x10000 ^ n [MOD value ms.M n]

theorem FormOf.square (dash : DashOk (n + 1) ms)
    {number : Nat} (form : FormOf (n + 1) ms A number) :
    FormOf (n + 1) ms (montMult (n + 1) A A ms) (number * number) := by
  have bound : value A (n + 1) * value A (n + 1) < value ms.M (n + 1) * 0x10000 ^ (n + 1) :=
    Nat.mul_lt_mul'' form.1 (value_lt A (n + 1))
  obtain ⟨reduced, product⟩ := montMult_spec dash bound
  exact ⟨reduced, form_mul (dashOk_coprime dash (n + 1)) form.2 form.2 product⟩

theorem FormOf.squares (dash : DashOk (n + 1) ms)
    {number : Nat} (form : FormOf (n + 1) ms A number) (count : Nat) :
    FormOf (n + 1) ms ((fun A => montMult (n + 1) A A ms)^[count] A) (number ^ 2 ^ count) := by
  induction count with
  | zero =>
    rw [pow_zero, pow_one]
    exact form
  | succ count induction =>
    rw [Function.iterate_succ_apply', pow_succ, pow_mul, pow_two]
    exact induction.square dash

theorem FormOf.first (dash : DashOk (n + 1) ms)
    (isA : value A (n + 1) = 0x10000 ^ (n + 1) * 0x10000 ^ (n + 1) % value ms.M (n + 1))
    (start : Words) : FormOf (n + 1) ms (montMult (n + 1) A start ms) (value start (n + 1)) := by
  have positive : 0 < value ms.M (n + 1) := by
    by_contra zero
    have dashZero : (value ms.M (n + 1) * ms.mDash.toNat + 1) % 0x10000 = 0 := dash
    rw [Nat.eq_zero_of_not_pos zero, Nat.zero_mul] at dashZero
    exact absurd dashZero (by decide)
  have reducedA : value A (n + 1) < value ms.M (n + 1) := by
    rw [isA]
    exact Nat.mod_lt _ positive
  have bound := Nat.mul_lt_mul'' reducedA (value_lt start (n + 1))
  obtain ⟨reduced, product⟩ := montMult_spec dash bound
  have formA : value A (n + 1) ≡
        0x10000 ^ (n + 1) * 0x10000 ^ (n + 1) [MOD value ms.M (n + 1)] := by
    rw [isA]
    exact Nat.mod_modEq _ _
  refine ⟨reduced, Nat.ModEq.cancel_right_of_coprime (dashOk_coprime dash (n + 1))
    (product.trans ?_)⟩
  calc value A (n + 1) * value start (n + 1)
      ≡ 0x10000 ^ (n + 1) * 0x10000 ^ (n + 1) * value start (n + 1) [MOD value ms.M (n + 1)] :=
        formA.mul_right _
    _ = value start (n + 1) * 0x10000 ^ (n + 1) * 0x10000 ^ (n + 1) := by ring

theorem value_power (dash : DashOk (n + 1) ms) {form start : Words}
    {exponent : Nat} (isForm : FormOf (n + 1) ms form (value start (n + 1) ^ exponent)) :
    value (montMult (n + 1) start form ms) (n + 1) =
      value start (n + 1) ^ (exponent + 1) % value ms.M (n + 1) := by
  have bound : value start (n + 1) * value form (n + 1) <
      value ms.M (n + 1) * 0x10000 ^ (n + 1) := by
    rw [Nat.mul_comm (value ms.M (n + 1))]
    exact Nat.mul_lt_mul'' (value_lt start (n + 1)) isForm.1
  obtain ⟨reduced, product⟩ := montMult_spec dash bound
  have power := form_mul_plain (dashOk_coprime dash (n + 1)) isForm.2 product
  rw [← pow_succ'] at power
  rw [← Nat.mod_eq_of_lt reduced]
  exact power

/-- The exponentiation of a signature that need not be reduced. -/
theorem rsaDecrypt_spec {mod : RsaMod} {start A : Words} (dash : DashOk rsaSignatureSize mod)
    (isA : value A rsaSignatureSize = 2 ^ (2 * 2048) % value mod.M rsaSignatureSize) :
    value (rsaDecrypt start mod A).1 rsaSignatureSize =
      value start rsaSignatureSize ^ 65537 % value mod.M rsaSignatureSize := by
  have square : (2 : Nat) ^ (2 * 2048) = 0x10000 ^ (127 + 1) * 0x10000 ^ (127 + 1) := by
    rw [← pow_add, show (0x10000 : Nat) = 2 ^ 16 from rfl, ← pow_mul]
  have exponent : 65537 = 2 ^ 16 + 1 := rfl
  rw [square] at isA
  rw [exponent]
  exact value_power dash ((FormOf.first dash isA start).squares dash 16)

theorem rsaDecrypt_spec_two :
    value (rsaDecrypt (fun index => if index = 127 then 2 else 0)
      ⟨fun index => if index = 0 ∨ index = 127 then 1 else 0, 0xFFFF⟩
      fun index => if index = 125 then 1 else 0).1 rsaSignatureSize =
        2 ^ 65537 % (2 ^ 2032 + 1) := by
  let modulus : RsaMod := ⟨fun index => if index = 0 ∨ index = 127 then 1 else 0, 0xFFFF⟩
  have isDash : DashOk rsaSignatureSize modulus := by decide +kernel
  have isModulus : value modulus.M rsaSignatureSize = 2 ^ 2032 + 1 := by decide +kernel
  have isStart : value (fun index => if index = 127 then 2 else 0) rsaSignatureSize = 2 := by
    decide +kernel
  have isSquare : value (fun index => if index = 125 then 1 else 0) rsaSignatureSize =
      2 ^ (2 * 2048) % value modulus.M rsaSignatureSize := by
    decide +kernel
  exact (rsaDecrypt_spec isDash isSquare).trans
    (congrArg₂ (fun start modulus => start ^ 65537 % modulus) isStart isModulus)

end Exponent

end HeadsetAdk.Rsa
