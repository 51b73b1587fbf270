import Mathlib.Data.Nat.ModEq
import Mathlib.Tactic.Linarith
import Mathlib.Tactic.Ring

/-!
# Montgomery reduction

A multiple of the modulus is added that makes the division by a power of the base exact, and one
subtraction brings the quotient below the modulus.
-/

namespace HeadsetAdk.Montgomery

variable {modulus radix first second secondForm product : Nat}

/-- The multiple that makes a number divisible by the base. -/
theorem quotient_exact {base low inverse value : Nat} (negative : (low * inverse + 1) % base = 0)
    (sameLow : modulus % base = low % base) :
    (value + value * inverse % base * modulus) % base = 0 := by
  have reduced : value + value * inverse % base * modulus ≡
      value * (low * inverse + 1) [MOD base] := by
    calc value + value * inverse % base * modulus
        ≡ value + value * inverse * low [MOD base] :=
          (((Nat.mod_modEq _ _).mul sameLow).add_left value)
      _ = value * (low * inverse + 1) := by ring
  have none : value * (low * inverse + 1) ≡ value * 0 [MOD base] :=
    Nat.ModEq.mul_left value negative
  exact (reduced.trans none).trans (by rw [Nat.mul_zero])

section

variable {radix modulus product multiple quotient : Nat}
  (exact_ : radix * quotient = product + multiple * modulus) (small : multiple < radix)
  (bound : product < modulus * radix)

include exact_ small bound

/-- The quotient is less than twice the modulus. -/
theorem quotient_lt : quotient < 2 * modulus := by
  have below : radix * quotient < radix * (2 * modulus) := by
    calc radix * quotient = product + multiple * modulus := exact_
      _ < modulus * radix + radix * modulus :=
          Nat.add_lt_add_of_lt_of_le bound (Nat.mul_le_mul_right modulus small.le)
      _ = radix * (2 * modulus) := by ring
  exact Nat.lt_of_mul_lt_mul_left below

theorem subtract_spec :
    (if modulus ≤ quotient then quotient - modulus else quotient) < modulus ∧
      (if modulus ≤ quotient then quotient - modulus else quotient) * radix ≡
        product [MOD modulus] := by
  have twice := quotient_lt exact_ small bound
  have whole : quotient * radix ≡ product [MOD modulus] := by
    rw [Nat.mul_comm, exact_]
    exact Nat.add_mul_mod_self_right product multiple modulus
  split
  · rename_i large
    refine ⟨by omega, ?_⟩
    have same : quotient - modulus ≡ quotient [MOD modulus] := (Nat.mod_eq_sub_mod large).symm
    exact (same.mul_right radix).trans whole
  · rename_i less
    exact ⟨by omega, whole⟩

end

/-- The product of two numbers in Montgomery form is in Montgomery form. -/
theorem form_mul {firstForm : Nat} (coprime : Nat.Coprime modulus radix)
    (isFirst : firstForm ≡ first * radix [MOD modulus])
    (isSecond : secondForm ≡ second * radix [MOD modulus])
    (isProduct : product * radix ≡ firstForm * secondForm [MOD modulus]) :
    product ≡ first * second * radix [MOD modulus] := by
  refine Nat.ModEq.cancel_right_of_coprime coprime (isProduct.trans ?_)
  calc firstForm * secondForm
      ≡ first * radix * (second * radix) [MOD modulus] := isFirst.mul isSecond
    _ = first * second * radix * radix := by ring

/-- A product with a plain number takes the other one out of its form. -/
theorem form_mul_plain (coprime : Nat.Coprime modulus radix)
    (isSecond : secondForm ≡ second * radix [MOD modulus])
    (isProduct : product * radix ≡ first * secondForm [MOD modulus]) :
    product ≡ first * second [MOD modulus] := by
  refine Nat.ModEq.cancel_right_of_coprime coprime (isProduct.trans ?_)
  calc first * secondForm
      ≡ first * (second * radix) [MOD modulus] := isSecond.mul_left first
    _ = first * second * radix := by ring

end HeadsetAdk.Montgomery
