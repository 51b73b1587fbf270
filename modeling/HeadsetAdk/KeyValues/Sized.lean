import HeadsetAdk.KeyValues.Capacity

/-! # Values of an expected size -/

namespace HeadsetAdk.KeyValues

namespace KeyValueList

/-- Where a value is kept: a cell of a packed array, or an element of the linked list. -/
inductive Place
  | values8 (index : Nat)
  | values16 (index : Nat)
  | values32 (index : Nat)
  | element (index : Nat)
  deriving DecidableEq, Repr

def bytesAt (list : KeyValueList) : Place → List UInt8
  | .values8 index => cellBytes list.values8 index
  | .values16 index => cellBytes list.values16 index
  | .values32 index => cellBytes list.values32 index
  | .element index => (list.head[index]?.map LargeElement.data).getD []

def findElement (list : KeyValueList) (key : Key) : Option Nat :=
  list.head.findIdx? fun element => element.key == key

/-- `KeyValueList_Get`, as the size and the place it points to. -/
def locate (list : KeyValueList) (key : Key) : Option (Nat × Place) :=
  match list.findElement key with
  | some index => some (((list.head[index]?).map LargeElement.len).getD 0, .element index)
  | none =>
      (list.findKey key).map fun index =>
        if index < list.len8 then (1, .values8 index)
        else if index - list.len8 < list.len16 then (2, .values16 (index - list.len8))
        else (4, .values32 (index - list.len8 - list.len16))

/-- The loop over the keys of one packed array, which start at an offset. -/
def findFrom (list : KeyValueList) (key : Key) (offset count : Nat) : Option Nat :=
  (List.range count).find? fun index => list.keys[offset + index]? == some key

/-- The search of `KeyValueList_GetSized`. -/
def findSized (list : KeyValueList) (key : Key) (size : Nat) : Option Place :=
  if size = 1 then (list.findFrom key 0 list.len8).map .values8
  else if size = 2 then (list.findFrom key list.len8 list.len16).map .values16
  else if size = 4 then
    (list.findFrom key (list.len8 + list.len16) list.len32).map .values32
  else (list.findElement key).map .element

/-- `KeyValueList_GetSized`: the place it points to, or that it is `NULL`; without a result it
panics. -/
def getSized (list : KeyValueList) (key : Key) (size : Nat) : Option (Option Place) :=
  match list.findSized key size with
  | some place => some (some place)
  | none => if list.isSet key = true then none else some none

/-- The result for an expected size is that of `KeyValueList_Get` if the sizes are the same,
`NULL` if the key is not set, and a panic if the sizes differ. -/
def Agrees (list : KeyValueList) (key : Key) (size : Nat) : Prop :=
  match list.locate key with
  | some (stored, place) =>
      if stored = size then list.getSized key size = some (some place)
      else list.getSized key size = none
  | none => list.getSized key size = some none

/-- A size that is kept in the linked list. -/
def IsLargeSize (size : Nat) : Prop := size ≠ 1 ∧ size ≠ 2 ∧ size ≠ 4

instance (size : Nat) : Decidable (IsLargeSize size) :=
  inferInstanceAs (Decidable (_ ∧ _ ∧ _))

section Searches

variable {list : KeyValueList} {key : Key} {size index : Nat}

theorem get_eq_locate (list : KeyValueList) (key : Key) :
    list.get key = (list.locate key).map fun found => (found.1, list.bytesAt found.2) := by
  rw [get, locate, findElement]
  cases found : list.head.find? fun element => element.key == key with
  | none =>
    rw [List.findIdx?_eq_none_iff.mpr fun element member => ?_]
    · dsimp only
      cases list.findKey key with
      | none => rfl
      | some index =>
        rw [Option.map_some, Option.map_some, Option.map_some]
        split
        · rfl
        split <;> rfl
    · exact Bool.eq_false_iff.mpr (List.find?_eq_none.mp found element member)
  | some element =>
    obtain ⟨index, inside, here, first⟩ : ∃ index, ∃ inside : index < list.head.length,
        list.head[index] = element ∧
          list.head.findIdx? (fun element => element.key == key) = some index := by
      rw [List.find?_eq_some_iff_getElem] at found
      obtain ⟨named, index, inside, here, before⟩ := found
      refine ⟨index, inside, here, List.findIdx?_eq_some_iff_getElem.mpr ⟨inside, ?_, ?_⟩⟩
      · rw [here]
        exact named
      · intro other earlier equal
        have differs := before other earlier
        rw [equal] at differs
        exact Bool.noConfusion differs
    rw [first]
    dsimp only
    rw [List.getElem?_eq_getElem inside, here, Option.map_some, bytesAt.eq_def]
    dsimp only
    rw [List.getElem?_eq_getElem inside, here]
    rfl

section

variable (wellFormed : list.WellFormed)

include wellFormed

variable {offset count : Nat}

theorem WellFormed.findFrom_eq :
    list.findFrom key offset count = some index ↔
      index < count ∧ list.keys[offset + index]? = some key := by
  rw [findFrom]
  constructor
  · intro found
    have member := List.mem_of_find?_eq_some found
    have here := List.find?_some found
    exact ⟨List.mem_range.mp member, beq_iff_eq.mp here⟩
  · rintro ⟨inside, here⟩
    cases found : (List.range count).find? fun index => list.keys[offset + index]? == some key with
    | none =>
      have missed := List.find?_eq_none.mp found index (List.mem_range.mpr inside)
      exact absurd (beq_iff_eq.mpr here) missed
    | some other =>
      have test := List.find?_some found
      have same := beq_iff_eq.mp test
      obtain ⟨bound, named⟩ := List.getElem?_eq_some_iff.mp here
      obtain ⟨bound', named'⟩ := List.getElem?_eq_some_iff.mp same
      have equal := (List.Nodup.getElem_inj_iff wellFormed.keysNodup).mp
        (named'.trans named.symm)
      rw [Nat.add_left_cancel equal]

theorem WellFormed.findFrom_none
    (elsewhere : ∀ place, list.keys[place]? = some key → place < offset ∨ offset + count ≤ place) :
    list.findFrom key offset count = none := by
  rw [Option.eq_none_iff_forall_ne_some]
  intro index found
  obtain ⟨inside, here⟩ := wellFormed.findFrom_eq.mp found
  have := elsewhere _ here
  omega

theorem WellFormed.lengths : list.len8 + list.len16 + list.len32 = list.keys.length := by
  rw [wellFormed.len8, wellFormed.len16, wellFormed.len32, wellFormed.aligned]

theorem WellFormed.findSized_packed (size : Nat)
    (here : list.keys[index]? = some key) (notLarge : list.findElement key = none) :
    list.findSized key size =
      if index < list.len8 then if size = 1 then some (.values8 index) else none
      else if index - list.len8 < list.len16 then
        if size = 2 then some (.values16 (index - list.len8)) else none
      else if size = 4 then some (.values32 (index - list.len8 - list.len16)) else none := by
  have lengths := wellFormed.lengths
  obtain ⟨bound, _⟩ := List.getElem?_eq_some_iff.mp here
  have only : ∀ place, list.keys[place]? = some key → place = index := by
    intro place there
    obtain ⟨inside, named⟩ := List.getElem?_eq_some_iff.mp there
    obtain ⟨inside', named'⟩ := List.getElem?_eq_some_iff.mp here
    exact (List.Nodup.getElem_inj_iff wellFormed.keysNodup).mp (named.trans named'.symm)
  have within {offset count : Nat} (low : offset ≤ index) (high : index < offset + count) :
      list.findFrom key offset count = some (index - offset) := by
    refine wellFormed.findFrom_eq.mpr ⟨by omega, ?_⟩
    rwa [Nat.add_sub_cancel' low]
  have outside {offset count : Nat} (apart : index < offset ∨ offset + count ≤ index) :
      list.findFrom key offset count = none :=
    wellFormed.findFrom_none fun place there => only place there ▸ apart
  have large : (none : Option Nat).map Place.element = none := rfl
  rw [findSized, notLarge, large]
  by_cases low : index < list.len8
  · rw [if_pos low, within (Nat.zero_le _) (by omega), outside (by omega), outside (by omega)]
    repeat' split
    all_goals rfl
  rw [if_neg low]
  by_cases middle : index - list.len8 < list.len16
  · rw [if_pos middle, outside (by omega), within (by omega) (by omega), outside (by omega)]
    repeat' split
    all_goals first | rfl | omega
  · rw [if_neg middle, outside (by omega), outside (by omega), within (by omega) (by omega),
      Nat.sub_sub]
    repeat' split
    all_goals first | rfl | omega

theorem WellFormed.findElement_none (here : key ∈ list.keys) : list.findElement key = none := by
  rw [findElement, List.findIdx?_eq_none_iff]
  intro element member
  rw [beq_eq_false_iff_ne]
  rintro rfl
  exact wellFormed.disjoint element member here

theorem WellFormed.findSized_missing (size : Nat) (missing : key ∉ list.keys) :
    list.findSized key size =
      if IsLargeSize size then (list.findElement key).map Place.element else none := by
  have outside (offset count : Nat) : list.findFrom key offset count = none :=
    wellFormed.findFrom_none fun place there =>
      absurd (List.mem_of_getElem? there) missing
  rw [findSized, outside, outside, outside]
  by_cases large : IsLargeSize size
  · rw [if_pos large, if_neg large.1, if_neg large.2.1, if_neg large.2.2]
  · rw [if_neg large]
    rw [IsLargeSize] at large
    repeat' split
    all_goals first | rfl | omega

end

theorem isSet_eq_locate (list : KeyValueList) (key : Key) :
    list.isSet key = (list.locate key).isSome := by
  rw [isSet, get_eq_locate, Option.isSome_map]

theorem getSized_of_missed (missed : list.findSized key size = none) :
    list.getSized key size = if (list.locate key).isSome = true then none else some none := by
  rw [getSized, missed, isSet_eq_locate]

theorem getSized_of_found {place : Place} (found : list.findSized key size = some place) :
    list.getSized key size = some (some place) := by
  rw [getSized, found]

theorem WellFormed.agrees_packed (wellFormed : list.WellFormed)
    (here : list.keys[index]? = some key) : list.Agrees key size := by
  have notLarge := wellFormed.findElement_none (List.mem_of_getElem? here)
  have located : list.locate key = some
      (if index < list.len8 then (1, .values8 index)
        else if index - list.len8 < list.len16 then (2, .values16 (index - list.len8))
        else (4, .values32 (index - list.len8 - list.len16))) := by
    rw [locate, notLarge, wellFormed.findKey_eq_some.mpr here]
    rfl
  have found := wellFormed.findSized_packed size here notLarge
  have panics (missed : list.findSized key size = none) : list.getSized key size = none := by
    rw [getSized_of_missed missed, located]
    rfl
  rw [Agrees, located]
  by_cases low : index < list.len8
  · rw [if_pos low] at found ⊢
    by_cases same : size = 1
    · rw [if_pos same] at found
      exact (if_pos same.symm).mpr (getSized_of_found found)
    · rw [if_neg same] at found
      exact (if_neg (Ne.symm same)).mpr (panics found)
  rw [if_neg low] at found ⊢
  by_cases middle : index - list.len8 < list.len16
  · rw [if_pos middle] at found ⊢
    by_cases same : size = 2
    · rw [if_pos same] at found
      exact (if_pos same.symm).mpr (getSized_of_found found)
    · rw [if_neg same] at found
      exact (if_neg (Ne.symm same)).mpr (panics found)
  · rw [if_neg middle] at found ⊢
    by_cases same : size = 4
    · rw [if_pos same] at found
      exact (if_pos same.symm).mpr (getSized_of_found found)
    · rw [if_neg same] at found
      exact (if_neg (Ne.symm same)).mpr (panics found)

theorem isLargeSize_of_not_isSmall {value : List UInt8} (large : ¬ IsSmall value) :
    IsLargeSize value.length := by
  rw [IsSmall, not_or, not_or] at large
  exact large

theorem WellFormed.agrees_element (wellFormed : list.WellFormed) (size : Nat)
    (found : list.findElement key = some index) :
    ∃ stored, list.locate key = some (stored, .element index) ∧ IsLargeSize stored ∧
      (list.Agrees key size ↔ (IsLargeSize size → stored = size)) := by
  obtain ⟨inside, named, _⟩ := List.findIdx?_eq_some_iff_getElem.mp found
  have member := List.getElem_mem inside
  have missing : key ∉ list.keys := by
    rw [← beq_iff_eq.mp named]
    exact wellFormed.disjoint _ member
  have located : list.locate key = some (list.head[index].len, .element index) := by
    rw [locate, found]
    dsimp only
    rw [List.getElem?_eq_getElem inside]
    rfl
  have large : IsLargeSize list.head[index].len := by
    rw [wellFormed.largeLength _ member]
    exact isLargeSize_of_not_isSmall (wellFormed.notSmall _ member)
  refine ⟨_, located, large, ?_⟩
  have sized := wellFormed.findSized_missing size missing
  rw [found] at sized
  rw [Agrees, located]
  dsimp only
  by_cases largeSize : IsLargeSize size
  · rw [if_pos largeSize, Option.map_some] at sized
    rw [getSized_of_found sized]
    by_cases same : list.head[index].len = size
    · rw [if_pos same]
      exact ⟨fun _ _ => same, fun _ => rfl⟩
    · rw [if_neg same]
      exact ⟨fun wrong => absurd wrong (Option.some_ne_none _),
        fun equal => absurd (equal largeSize) same⟩
  · rw [if_neg largeSize] at sized
    have differ : list.head[index].len ≠ size := fun same => largeSize (same ▸ large)
    rw [if_neg differ, getSized_of_missed sized, located]
    exact ⟨fun _ largeToo => absurd largeToo largeSize, fun _ => rfl⟩

theorem WellFormed.agrees_missing (wellFormed : list.WellFormed) (size : Nat)
    (notLarge : list.findElement key = none) (missing : key ∉ list.keys) :
    list.locate key = none ∧ list.Agrees key size := by
  have located : list.locate key = none := by
    rw [locate, notLarge, wellFormed.findKey_eq_none.mpr missing]
    rfl
  have sized := wellFormed.findSized_missing size missing
  rw [notLarge, Option.map_none, ite_self] at sized
  refine ⟨located, ?_⟩
  rw [Agrees, located]
  dsimp only
  rw [getSized_of_missed sized, located]
  rfl

theorem WellFormed.agrees_iff (wellFormed : list.WellFormed) :
    list.Agrees key size ↔ ∀ stored place, list.locate key = some (stored, place) →
      IsLargeSize stored → IsLargeSize size → stored = size := by
  cases found : list.findElement key with
  | some index =>
    obtain ⟨stored, located, large, agrees⟩ := wellFormed.agrees_element size found
    rw [agrees, located]
    constructor
    · intro equal other place same _ largeSize
      rw [← (Prod.mk.inj (Option.some.inj same)).1]
      exact equal largeSize
    · exact fun equal => equal stored _ rfl large
  | none =>
    by_cases missing : key ∈ list.keys
    · obtain ⟨index, here⟩ := List.mem_iff_getElem?.mp missing
      have notLarge (stored : Nat) (place : Place)
          (located : list.locate key = some (stored, place)) : ¬ IsLargeSize stored := by
        rw [locate, found, wellFormed.findKey_eq_some.mpr here, Option.map_some,
          Option.some.injEq] at located
        rw [IsLargeSize]
        split at located
        · have := (Prod.mk.inj located).1
          omega
        split at located <;>
        · have := (Prod.mk.inj located).1
          omega
      exact ⟨fun _ stored place located large => absurd large (notLarge stored place located),
        fun _ => wellFormed.agrees_packed here⟩
    · obtain ⟨located, agrees⟩ := wellFormed.agrees_missing size found missing
      rw [located]
      exact ⟨fun _ _ _ no => absurd no (Option.some_ne_none _).symm, fun _ => agrees⟩

end Searches

/-- After calls that fit, an expected size is checked, unless both it and the size that is
stored are of the linked list. -/
theorem reached_agrees_iff {unknown : Unknown} {list : KeyValueList}
    (reached : Reached (next unknown) Fits create list) (key : Key) (size : Nat) :
    list.Agrees key size ↔ ∀ stored place, list.locate key = some (stored, place) →
      IsLargeSize stored → IsLargeSize size → stored = size := by
  obtain ⟨map, denotes⟩ := reached_denotes reached
  exact denotes.wellFormed.agrees_iff

theorem twoBytes_agrees :
    ∃ list, next cleared create (.add 7 [1, 2]) = some list ∧
      (list.Agrees 7 1 ↔ ∀ stored place, list.locate 7 = some (stored, place) →
        IsLargeSize stored → IsLargeSize 1 → stored = 1) := by
  have fits : create.Fits (.add 7 [1, 2]) := by decide
  have steps : next cleared create (.add 7 [1, 2]) =
      some (addKeyValuePair cleared create 7 [1, 2]) := rfl
  exact ⟨_, steps, reached_agrees_iff (.step _ .start fits steps) 7 1⟩

/-- A value of three bytes is given where eight are expected. -/
theorem threeBytes_disagrees :
    ∃ list, Reached (next cleared) Fits create list ∧
      list.locate 7 = some (3, .element 0) ∧ list.getSized 7 8 = some (some (.element 0)) ∧
      ¬ list.Agrees 7 8 := by
  have fits : create.Fits (.add 7 [1, 2, 3]) := by decide
  have steps : next cleared create (.add 7 [1, 2, 3]) =
      some (addKeyValuePair cleared create 7 [1, 2, 3]) := rfl
  refine ⟨_, .step _ .start fits steps, by decide, by decide, fun agrees => ?_⟩
  have panics : (addKeyValuePair cleared create 7 [1, 2, 3]).getSized 7 8 = none := agrees
  exact absurd panics (by decide)

end KeyValueList

end HeadsetAdk.KeyValues
