import Mathlib.Logic.Basic

/-! # Accounts of owned blocks -/

namespace HeadsetAdk.BlockAccounts

variable {Owner Block : Type}

structure Balanced (reserved : Block → Prop) (owned : Owner → Block → Prop)
    (used : Block → Prop) : Prop where
  used_iff : ∀ block, used block ↔ reserved block ∨ ∃ owner, owned owner block
  disjoint : ∀ first second block, owned first block → owned second block → first = second
  apart : ∀ owner block, owned owner block → ¬ reserved block

variable {reserved : Block → Prop} {owned owned' : Owner → Block → Prop}
  {used used' : Block → Prop}

theorem Balanced.empty (nothing : ∀ owner block, ¬ owned owner block)
    (used_iff : ∀ block, used block ↔ reserved block) : Balanced reserved owned used where
  used_iff block := by
    rw [used_iff]
    exact ⟨Or.inl,
      fun holds => holds.elim id fun ⟨owner, held⟩ => absurd held (nothing owner block)⟩
  disjoint owner _ block held := absurd held (nothing owner block)
  apart owner block held := absurd held (nothing owner block)

section

variable (balanced : Balanced reserved owned used)

include balanced

theorem Balanced.congr (sameOwned : ∀ owner block, owned' owner block ↔ owned owner block)
    (sameUsed : ∀ block, used' block ↔ used block) : Balanced reserved owned' used' where
  used_iff block := by
    simp only [sameUsed, sameOwned, balanced.used_iff]
  disjoint first second block heldFirst heldSecond :=
    balanced.disjoint first second block ((sameOwned _ _).mp heldFirst)
      ((sameOwned _ _).mp heldSecond)
  apart owner block held := balanced.apart owner block ((sameOwned _ _).mp held)

theorem Balanced.extend {taken : Owner → Block → Prop}
    (free : ∀ owner block, taken owner block → ¬ used block)
    (apart : ∀ first second block, taken first block → taken second block → first = second)
    (owned_iff : ∀ owner block, owned' owner block ↔ owned owner block ∨ taken owner block)
    (used_iff : ∀ block, used' block ↔ used block ∨ ∃ owner, taken owner block) :
    Balanced reserved owned' used' where
  used_iff block := by
    simp only [used_iff, owned_iff, balanced.used_iff, exists_or, or_assoc]
  disjoint first second block heldFirst heldSecond := by
    have usedOf {owner : Owner} (held : owned owner block) : used block :=
      (balanced.used_iff block).mpr (Or.inr ⟨owner, held⟩)
    rcases (owned_iff _ _).mp heldFirst with before | new <;>
      rcases (owned_iff _ _).mp heldSecond with before' | new'
    · exact balanced.disjoint first second block before before'
    · exact absurd (usedOf before) (free second block new')
    · exact absurd (usedOf before') (free first block new)
    · exact apart first second block new new'
  apart owner block held := by
    rcases (owned_iff _ _).mp held with before | new
    · exact balanced.apart owner block before
    · intro isReserved
      exact free owner block new ((balanced.used_iff block).mpr (Or.inl isReserved))

/-- Some owners give up all their blocks. -/
theorem Balanced.release {leaving : Owner → Prop}
    (owned_iff : ∀ owner block, owned' owner block ↔ owned owner block ∧ ¬ leaving owner)
    (used_iff : ∀ block, used' block ↔ used block ∧ ∀ owner, leaving owner → ¬ owned owner block) :
    Balanced reserved owned' used' where
  used_iff block := by
    rw [used_iff, balanced.used_iff]
    constructor
    · rintro ⟨isReserved | ⟨owner, held⟩, kept⟩
      · exact Or.inl isReserved
      · exact Or.inr ⟨owner, (owned_iff _ _).mpr ⟨held, fun leaves => kept owner leaves held⟩⟩
    · rintro (isReserved | ⟨owner, held⟩)
      · exact ⟨Or.inl isReserved, fun owner _ held => balanced.apart owner block held isReserved⟩
      · obtain ⟨held, stays⟩ := (owned_iff _ _).mp held
        refine ⟨Or.inr ⟨owner, held⟩, ?_⟩
        intro other leaves otherHeld
        exact stays (balanced.disjoint other owner block otherHeld held ▸ leaves)
  disjoint first second block heldFirst heldSecond :=
    balanced.disjoint first second block ((owned_iff _ _).mp heldFirst).1
      ((owned_iff _ _).mp heldSecond).1
  apart owner block held := balanced.apart owner block ((owned_iff _ _).mp held).1

/-- The accounts under other names for the owners. -/
theorem Balanced.rename {Name : Type} {named : Name → Block → Prop} (owner : Name → Owner)
    (of : ∀ name block, named name block → owned (owner name) block)
    (toNamed : ∀ held block, owned held block → ∃ name, named name block)
    (injective : ∀ first second block, named first block → named second block →
      owner first = owner second → first = second) : Balanced reserved named used where
  used_iff block := by
    rw [balanced.used_iff]
    refine or_congr_right ⟨fun ⟨held, owns⟩ => toNamed held block owns, ?_⟩
    rintro ⟨name, owns⟩
    exact ⟨owner name, of name block owns⟩
  disjoint first second block heldFirst heldSecond :=
    injective first second block heldFirst heldSecond
      (balanced.disjoint _ _ block (of first block heldFirst) (of second block heldSecond))
  apart name block held := balanced.apart (owner name) block (of name block held)

end

end HeadsetAdk.BlockAccounts
