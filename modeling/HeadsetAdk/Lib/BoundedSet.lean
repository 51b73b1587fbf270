import Mathlib.Data.Finset.Card

/-!
# Finite sets of bounded size

A set has room for a fixed number of elements.  Adding an element succeeds when
it is new and there is room for it.
-/

namespace HeadsetAdk

@[ext]
structure BoundedSet (α : Type*) where
  capacity : Nat
  elements : Finset α
  card_le : elements.card ≤ capacity

namespace BoundedSet

variable {α : Type*}

def empty (capacity : Nat) : BoundedSet α :=
  ⟨capacity, ∅, Nat.zero_le capacity⟩

def Full (set : BoundedSet α) : Prop :=
  set.elements.card = set.capacity

instance (set : BoundedSet α) : Decidable set.Full :=
  inferInstanceAs (Decidable (_ = _))

variable [DecidableEq α]

def Accepts (set : BoundedSet α) (element : α) : Prop :=
  element ∉ set.elements ∧ ¬ set.Full

instance (set : BoundedSet α) (element : α) : Decidable (set.Accepts element) :=
  inferInstanceAs (Decidable (_ ∧ _))

def add (set : BoundedSet α) (element : α) : BoundedSet α :=
  if accepts : set.Accepts element then
    ⟨set.capacity, insert element set.elements, by
      have room := Nat.lt_of_le_of_ne set.card_le accepts.2
      rw [Finset.card_insert_of_notMem accepts.1]
      exact room⟩
  else set

def remove (set : BoundedSet α) (element : α) : BoundedSet α :=
  ⟨set.capacity, set.elements.erase element, Nat.le_trans (Finset.card_erase_le) set.card_le⟩

variable {set : BoundedSet α} {element : α}

theorem add_of_accepts (accepts : set.Accepts element) :
    (set.add element).capacity = set.capacity ∧
      (set.add element).elements = insert element set.elements := by
  rw [add, dif_pos accepts]
  exact ⟨rfl, rfl⟩

theorem add_of_refuses (refuses : ¬ set.Accepts element) : set.add element = set :=
  dif_neg refuses

end BoundedSet

end HeadsetAdk
