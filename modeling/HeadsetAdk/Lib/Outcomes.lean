import Mathlib.Logic.Basic

/-! # Outcomes of programs that can stop -/

namespace HeadsetAdk

section Outcomes

variable {Stop Result Next : Type}

theorem bind_eq_ok {outcome : Except Stop Result} {continue_ : Result → Except Stop Next}
    {final : Next} (succeeds : outcome >>= continue_ = .ok final) :
    ∃ result, outcome = .ok result ∧ continue_ result = .ok final := by
  cases outcome with
  | error fault => contradiction
  | ok result => exact ⟨result, rfl, succeeds⟩

theorem ok_bind (result : Result) (continue_ : Result → Except Stop Next) :
    (Except.ok result >>= continue_) = continue_ result := rfl

end Outcomes

end HeadsetAdk
