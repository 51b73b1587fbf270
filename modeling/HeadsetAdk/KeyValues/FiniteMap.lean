import HeadsetAdk.KeyValues.KeyValueList
import Mathlib.Data.Set.Card

/-!
# The key-value list as a finite map

A list is read as the pairs of its linked list followed by those of the packed arrays.  Each call
inserts or removes at one place, so the list behaves as a map.
-/

namespace HeadsetAdk.KeyValues

open List (length_append length_map append_assoc of_mem_zip map_append mem_cons
  length_eraseIdx_of_lt not_mem_nil)
open CellArray

abbrev Map := Key → Option (List UInt8)

/-- The sizes kept in the packed arrays. -/
def IsSmall (value : List UInt8) : Prop :=
  value.length = 1 ∨ value.length = 2 ∨ value.length = 4

namespace KeyValueList

def values (list : KeyValueList) : List (List UInt8) :=
  list.values8.map Subtype.val ++ list.values16.map Subtype.val ++
    list.values32.map Subtype.val

def packed (list : KeyValueList) : List (Key × List UInt8) :=
  list.keys.zip list.values

structure WellFormed (list : KeyValueList) : Prop where
  len8 : list.len8 = list.values8.length
  len16 : list.len16 = list.values16.length
  len32 : list.len32 = list.values32.length
  lenKeys : list.lenKeys = list.keys.length
  aligned : list.keys.length = list.values8.length + list.values16.length + list.values32.length
  bounded : list.keys.length ≤ 255
  keysNodup : list.keys.Nodup
  largeNodup : (list.head.map LargeElement.key).Nodup
  disjoint : ∀ element ∈ list.head, element.key ∉ list.keys
  largeLength : ∀ element ∈ list.head, element.len = element.data.length
  notSmall : ∀ element ∈ list.head, ¬ IsSmall element.data

structure Denotes (list : KeyValueList) (map : Map) : Prop where
  wellFormed : list.WellFormed
  pairs : ∀ key value, map key = some value ↔
    (key, value) ∈ list.packed ∨ ∃ element ∈ list.head, element.key = key ∧ element.data = value

section Places

variable {α β : Type}

theorem insertIdx_length_append (first second : List α) (item : α) :
    (first ++ second).insertIdx first.length item = first ++ item :: second := by
  induction first with
  | nil => exact List.insertIdx_zero
  | cons head first ih =>
    rw [List.cons_append, List.length_cons, List.insertIdx_succ_cons, ih, List.cons_append]

theorem zip_insertIdx {first : List α} {second : List β} (same : first.length = second.length)
    {index : Nat} (inside : index ≤ first.length) (item : α) (item' : β) :
    (first.insertIdx index item).zip (second.insertIdx index item') =
      (first.zip second).insertIdx index (item, item') := by
  induction index generalizing first second with
  | zero => simp only [List.insertIdx_zero, List.zip_cons_cons]
  | succ index ih =>
    cases first with
    | nil => simp at inside
    | cons head first =>
      cases second with
      | nil => simp at same
      | cons head' second =>
        simp only [List.insertIdx_succ_cons, List.zip_cons_cons]
        rw [ih (Nat.succ.inj same) (Nat.le_of_succ_le_succ inside)]

theorem zip_eraseIdx (first : List α) (second : List β) (index : Nat) :
    (first.eraseIdx index).zip (second.eraseIdx index) = (first.zip second).eraseIdx index := by
  induction first generalizing second index with
  | nil => simp
  | cons head first ih =>
    cases second with
    | nil => simp
    | cons head' second =>
      cases index with
      | zero => rfl
      | succ index => simp only [List.eraseIdx_cons_succ, List.zip_cons_cons, ih]

end Places

section Values

variable {list : KeyValueList} {key : Key} {map : Map}

theorem WellFormed.length_values (wellFormed : list.WellFormed) :
    list.values.length = list.keys.length := by
  rw [values, length_append, length_append, length_map, length_map, length_map, wellFormed.aligned]

variable {value : List UInt8} {index : Nat}

theorem mem_packed :
    (key, value) ∈ list.packed ↔
      ∃ index : Nat, list.keys[index]? = some key ∧ list.values[index]? = some value := by
  rw [List.mem_iff_getElem?]
  exact exists_congr fun index => List.getElem?_zip_eq_some

theorem WellFormed.findKey_eq_some (wellFormed : list.WellFormed) :
    list.findKey key = some index ↔ list.keys[index]? = some key := by
  rw [findKey, wellFormed.lenKeys]
  constructor
  · intro found
    have holds := List.find?_some found
    exact beq_iff_eq.mp holds
  · intro holds
    obtain ⟨inside, rfl⟩ := List.getElem?_eq_some_iff.mp holds
    cases found : (List.range list.keys.length).find? fun other =>
        list.keys[other]? == some list.keys[index] with
    | none =>
      have missed := List.find?_eq_none.mp found index (List.mem_range.mpr inside)
      exact absurd (beq_iff_eq.mpr holds) missed
    | some other =>
      have same := List.find?_some found
      obtain ⟨bound, equal⟩ := List.getElem?_eq_some_iff.mp (beq_iff_eq.mp same)
      rw [(List.Nodup.getElem_inj_iff wellFormed.keysNodup).mp equal]

theorem WellFormed.findKey_eq_none (wellFormed : list.WellFormed) :
    list.findKey key = none ↔ key ∉ list.keys := by
  rw [Option.eq_none_iff_forall_ne_some, List.mem_iff_getElem?, not_exists]
  exact forall_congr' fun index => not_congr wellFormed.findKey_eq_some

theorem WellFormed.cell_at (wellFormed : list.WellFormed) {index : Nat}
    {value : List UInt8} (holds : list.values[index]? = some value) :
    (if index < list.len8 then (1, cellBytes list.values8 index)
      else if index - list.len8 < list.len16 then
        (2, cellBytes list.values16 (index - list.len8))
      else (4, cellBytes list.values32 (index - list.len8 - list.len16))) =
      (value.length, value) := by
  have cell {size : Nat} {cells : List (Cell size)} {place : Nat}
      (here : (cells.map Subtype.val)[place]? = some value) :
      (size, cellBytes cells place) = (value.length, value) := by
    rw [List.getElem?_map] at here
    obtain ⟨cell, _, rfl⟩ := Option.map_eq_some_iff.mp here
    rw [cellBytes, here, Option.getD_some, cell.property]
  rw [wellFormed.len8, wellFormed.len16]
  rw [values, append_assoc] at holds
  split
  case isTrue low =>
    rw [List.getElem?_append_left (by rwa [length_map])] at holds
    exact cell holds
  case isFalse notLow =>
    rw [List.getElem?_append_right (by rw [length_map]; omega), length_map] at holds
    split
    case isTrue middle =>
      rw [List.getElem?_append_left (by rwa [length_map])] at holds
      exact cell holds
    case isFalse notMiddle =>
      rw [List.getElem?_append_right (by rw [length_map]; omega), length_map] at holds
      exact cell holds

theorem Denotes.get_eq (denotes : list.Denotes map) (key : Key) :
    list.get key = (map key).map fun value => (value.length, value) := by
  obtain ⟨wellFormed, pairs⟩ := denotes
  unfold get
  split
  case h_1 element found =>
    have member := List.mem_of_find?_eq_some found
    have test := List.find?_some found
    have named : element.key = key := beq_iff_eq.mp test
    rw [(pairs key element.data).mpr (Or.inr ⟨element, member, named, rfl⟩), Option.map_some,
      wellFormed.largeLength element member]
  case h_2 missing =>
    have notLarge : ∀ element ∈ list.head, element.key ≠ key := fun element member equal =>
      List.find?_eq_none.mp missing element member (beq_iff_eq.mpr equal)
    cases found : list.findKey key with
    | none =>
      rw [wellFormed.findKey_eq_none] at found
      have absent : map key = none := by
        rw [Option.eq_none_iff_forall_ne_some]
        intro value holds
        rcases (pairs key value).mp holds with small | ⟨element, member, named, _⟩
        · exact found (of_mem_zip small).1
        · exact notLarge element member named
      rw [absent]
      rfl
    | some index =>
      rw [wellFormed.findKey_eq_some] at found
      have inside : index < list.values.length := by
        rw [wellFormed.length_values]
        exact (List.getElem?_eq_some_iff.mp found).1
      have holds := List.getElem?_eq_getElem inside
      have pair : map key = some list.values[index] :=
        (pairs key _).mpr (Or.inl (mem_packed.mpr ⟨index, found, holds⟩))
      rw [pair, Option.map_some, Option.map_some, wellFormed.cell_at holds]

theorem Denotes.isSet_eq (denotes : list.Denotes map) (key : Key) :
    list.isSet key = (map key).isSome := by
  rw [isSet, denotes.get_eq, Option.isSome_map]

theorem Denotes.absent (denotes : list.Denotes map) (absent : map key = none) :
    key ∉ list.keys ∧ ∀ element ∈ list.head, element.key ≠ key := by
  constructor
  · intro member
    obtain ⟨index, inside, rfl⟩ := List.mem_iff_getElem.mp member
    have bound : index < list.values.length := by rwa [denotes.wellFormed.length_values]
    have present := (denotes.pairs list.keys[index] list.values[index]).mpr
      (Or.inl (mem_packed.mpr ⟨index, List.getElem?_eq_getElem inside,
        List.getElem?_eq_getElem bound⟩))
    rw [absent] at present
    contradiction
  · rintro element member rfl
    have present := (denotes.pairs element.key element.data).mpr
      (Or.inr ⟨element, member, rfl, rfl⟩)
    rw [absent] at present
    contradiction

end Values

section Add

variable {unknown : Unknown} {list list' : KeyValueList} {key : Key} {value : List UInt8}

theorem insertKey_eq (lenKeys : list.lenKeys = list.keys.length)
    (room : list.keys.length < 255) {keyIndex : Nat} (inside : keyIndex ≤ list.keys.length) :
    insertKey unknown list key keyIndex = { list with
        keys := list.keys.insertIdx keyIndex key
        lenKeys := list.keys.length + 1 } := by
  rw [insertKey, lenKeys, set_memmove_realloc inside, Nat.mod_eq_of_lt (by omega)]

/-- A pair put at the same place among the keys and among the values. -/
structure Inserted (list list' : KeyValueList) (key : Key) (value : List UInt8) : Prop where
  wellFormed : list'.WellFormed
  packed : ∃ index ≤ list.packed.length, list'.packed = list.packed.insertIdx index (key, value)
  head : list'.head = list.head

section

variable (wellFormed : list.WellFormed) (room : list.keys.length < 255) (newKey : key ∉ list.keys)
  (notLarge : ∀ element ∈ list.head, element.key ≠ key)

include wellFormed room newKey notLarge

theorem WellFormed.insertKey {index : Nat} (inside : index ≤ list.keys.length)
    (keys : list'.keys = list.keys) (lenKeys : list'.lenKeys = list.lenKeys)
    (head : list'.head = list.head) (values : list'.values = list.values.insertIdx index value)
    (len8 : list'.len8 = list'.values8.length) (len16 : list'.len16 = list'.values16.length)
    (len32 : list'.len32 = list'.values32.length) :
    Inserted list (list'.insertKey unknown key index) key value := by
  have lengths : list'.values.length = list.keys.length + 1 := by
    rw [values, List.length_insertIdx_of_le_length (by rwa [wellFormed.length_values]),
      wellFormed.length_values]
  rw [KeyValueList.values, length_append, length_append, length_map,
    length_map, length_map] at lengths
  rw [← keys] at room inside
  rw [insertKey_eq (by rw [lenKeys, wellFormed.lenKeys, keys]) room inside, keys]
  rw [keys] at room inside
  have counted := List.length_insertIdx_of_le_length inside key
  refine ⟨⟨len8, len16, len32, counted.symm, counted.trans lengths.symm,
    counted.trans_le room, ?_, ?_, ?_, ?_, ?_⟩, ⟨index, ?_, ?_⟩, head⟩
  · exact (List.perm_insertIdx key list.keys inside).nodup_iff.mpr
      (List.nodup_cons.mpr ⟨newKey, wellFormed.keysNodup⟩)
  · dsimp only
    rw [head]
    exact wellFormed.largeNodup
  · dsimp only
    rw [head]
    intro element member inserted
    rcases (List.mem_insertIdx inside).mp inserted with equal | old
    · exact notLarge element member equal
    · exact wellFormed.disjoint element member old
  · dsimp only
    rw [head]
    exact wellFormed.largeLength
  · dsimp only
    rw [head]
    exact wellFormed.notSmall
  · rwa [packed, List.length_zip, wellFormed.length_values, Nat.min_self]
  · show (list.keys.insertIdx index key).zip list'.values = _
    rw [values, zip_insertIdx wellFormed.length_values.symm inside, packed]

theorem WellFormed.addKeyValuePair_small (small : IsSmall value) :
    Inserted list (addKeyValuePair unknown list key value) key value := by
  have aligned := wellFormed.aligned
  unfold addKeyValuePair
  rw [wellFormed.len8, wellFormed.len16, wellFormed.len32]
  split
  case isTrue size =>
    rw [set_realloc]
    refine wellFormed.insertKey room newKey notLarge (by omega) rfl rfl rfl ?_ ?_ rfl rfl
    · have place := insertIdx_length_append (list.values8.map Subtype.val)
        (list.values16.map Subtype.val ++ list.values32.map Subtype.val) value
      rw [length_map] at place
      simp only [values, map_append, append_assoc, place]
      rfl
    · rw [length_append, Nat.mod_eq_of_lt (by omega)]
      rfl
  split
  case isTrue size =>
    rw [set_realloc]
    refine wellFormed.insertKey room newKey notLarge (by omega) rfl rfl rfl ?_ rfl ?_ rfl
    · have place := insertIdx_length_append
        (list.values8.map Subtype.val ++ list.values16.map Subtype.val)
        (list.values32.map Subtype.val) value
      rw [length_append, length_map, length_map] at place
      simp only [values, map_append, place]
      simp only [append_assoc]
      rfl
    · rw [length_append, Nat.mod_eq_of_lt (by omega)]
      rfl
  split
  case isTrue size =>
    rw [set_realloc]
    refine wellFormed.insertKey room newKey notLarge (by omega) rfl rfl rfl ?_ rfl rfl ?_
    · have place := insertIdx_length_append (list.values8.map Subtype.val ++
        list.values16.map Subtype.val ++ list.values32.map Subtype.val) [] value
      rw [length_append, length_append, length_map, length_map,
        length_map, List.append_nil] at place
      simp only [values, map_append, place]
      simp only [append_assoc]
      rfl
    · rw [length_append, Nat.mod_eq_of_lt (by omega)]
      rfl
  case isFalse notFour =>
    rcases small with one | two | four <;> contradiction

end

theorem addKeyValuePair_large (large : ¬ IsSmall value) (short : value.length ≤ 65535) :
    addKeyValuePair unknown list key value =
      { list with head := ⟨value.length, key, value⟩ :: list.head } := by
  rw [addKeyValuePair, dif_neg (fun one => large (Or.inl one)),
    dif_neg (fun two => large (Or.inr (Or.inl two))),
    dif_neg (fun four => large (Or.inr (Or.inr four))), Nat.mod_eq_of_lt (by omega)]

theorem Denotes.addKeyValuePair {map : Map} (denotes : list.Denotes map)
    (absent : map key = none) (short : value.length ≤ 65535)
    (room : IsSmall value → list.keys.length < 255) :
    (KeyValueList.addKeyValuePair unknown list key value).Denotes
      (Function.update map key (some value)) := by
  obtain ⟨newKey, notLarge⟩ := denotes.absent absent
  obtain ⟨wellFormed, pairs⟩ := denotes
  have updated (other : Key) (stored : List UInt8) :
      Function.update map key (some value) other = some stored ↔
        (other, stored) = (key, value) ∨ map other = some stored := by
    by_cases same : other = key
    · subst same
      rw [Function.update_self, absent, Option.some.injEq, Prod.mk.injEq]
      exact ⟨fun equal => Or.inl ⟨rfl, equal.symm⟩,
        fun either => either.elim (fun pair => pair.2.symm) (fun none => by contradiction)⟩
    · rw [Function.update_of_ne same, Prod.mk.injEq]
      exact ⟨Or.inr, fun either => either.resolve_left fun pair => same pair.1⟩
  by_cases small : IsSmall value
  · have added : Inserted list (KeyValueList.addKeyValuePair unknown list key value) key value :=
      wellFormed.addKeyValuePair_small (room small) newKey notLarge small
    obtain ⟨wellFormed', ⟨index, inside, packed'⟩, head⟩ := added
    refine ⟨wellFormed', fun other stored => ?_⟩
    rw [updated, pairs, packed', head, List.mem_insertIdx inside, or_assoc]
  · rw [addKeyValuePair_large small short]
    refine ⟨{ wellFormed with
        largeNodup := ?_
        disjoint := ?_
        largeLength := ?_
        notSmall := ?_ }, fun other stored => ?_⟩
    · rw [List.map_cons, List.nodup_cons]
      refine ⟨?_, wellFormed.largeNodup⟩
      rintro member
      obtain ⟨element, inList, named⟩ := List.mem_map.mp member
      exact notLarge element inList named
    · intro element member
      rcases List.mem_cons.mp member with rfl | member
      · exact newKey
      · exact wellFormed.disjoint element member
    · intro element member
      rcases List.mem_cons.mp member with rfl | member
      · rfl
      · exact wellFormed.largeLength element member
    · intro element member
      rcases List.mem_cons.mp member with rfl | member
      · exact small
      · exact wellFormed.notSmall element member
    · rw [updated, pairs]
      simp only [mem_cons, exists_eq_or_imp, Prod.mk.injEq]
      constructor
      · rintro (⟨rfl, rfl⟩ | inPacked | inHead)
        · exact Or.inr (Or.inl ⟨rfl, rfl⟩)
        · exact Or.inl inPacked
        · exact Or.inr (Or.inr inHead)
      · rintro (inPacked | ⟨rfl, rfl⟩ | inHead)
        · exact Or.inr (Or.inl inPacked)
        · exact Or.inl ⟨rfl, rfl⟩
        · exact Or.inr (Or.inr inHead)

end Add

section Remove

variable {list list' : KeyValueList} {key : Key} {index : Nat}

theorem closeGap_eq {α : Type} {hidden : α} {cells : List α} (inside : index < cells.length) :
    closeGap hidden cells cells.length index = cells.eraseIdx index := by
  rw [closeGap]
  split
  · exact realloc_memmove inside (by omega)
  · next last =>
    symm
    rw [← List.length_eq_zero_iff, length_eraseIdx_of_lt inside]
    omega

theorem WellFormed.removeValue_eq (wellFormed : list.WellFormed) (unknown : Unknown)
    (inside : index < list.keys.length) :
    ∃ list', list.removeValue unknown index = some list' ∧
      list'.values = list.values.eraseIdx index ∧ list'.keys = list.keys ∧
      list'.lenKeys = list.lenKeys ∧ list'.head = list.head ∧
      list'.len8 = list'.values8.length ∧ list'.len16 = list'.values16.length ∧
      list'.len32 = list'.values32.length := by
  have aligned := wellFormed.aligned
  unfold removeValue
  rw [wellFormed.len8, wellFormed.len16, wellFormed.len32]
  by_cases low : index < list.values8.length
  · rw [if_pos low, closeGap_eq low]
    refine ⟨_, rfl, ?_, rfl, rfl, rfl, ?_, rfl, rfl⟩
    · simp only [values, append_assoc, ← List.eraseIdx_map]
      rw [List.eraseIdx_append_of_lt_length (by rwa [length_map])]
    · rw [length_eraseIdx_of_lt low]
  rw [if_neg low]
  by_cases middle : index - list.values8.length < list.values16.length
  · rw [if_pos middle, closeGap_eq middle]
    refine ⟨_, rfl, ?_, rfl, rfl, rfl, rfl, ?_, rfl⟩
    · simp only [values, append_assoc, ← List.eraseIdx_map]
      rw [List.eraseIdx_append_of_length_le (by rw [length_map]; omega), length_map,
        List.eraseIdx_append_of_lt_length (by rwa [length_map])]
    · rw [length_eraseIdx_of_lt middle]
  rw [if_neg middle]
  have high : index - list.values8.length - list.values16.length < list.values32.length := by
    omega
  rw [if_pos high, closeGap_eq high]
  refine ⟨_, rfl, ?_, rfl, rfl, rfl, rfl, rfl, ?_⟩
  · simp only [values, append_assoc, ← List.eraseIdx_map]
    rw [List.eraseIdx_append_of_length_le (by rw [length_map]; omega), length_map,
      List.eraseIdx_append_of_length_le (by rw [length_map]; omega), length_map]
  · rw [length_eraseIdx_of_lt high]

variable {other : Key} {value : List UInt8} {map : Map}

theorem mem_eraseIdx_packed (keysNodup : list.keys.Nodup) (holds : list.keys[index]? = some key) :
    (other, value) ∈ list.packed.eraseIdx index ↔ other ≠ key ∧ (other, value) ∈ list.packed := by
  rw [List.mem_eraseIdx_iff_getElem?, mem_packed]
  constructor
  · rintro ⟨place, different, here⟩
    obtain ⟨named, stored⟩ := List.getElem?_zip_eq_some.mp here
    refine ⟨?_, place, named, stored⟩
    rintro rfl
    obtain ⟨inside, equal⟩ := List.getElem?_eq_some_iff.mp named
    obtain ⟨inside', equal'⟩ := List.getElem?_eq_some_iff.mp holds
    exact different ((List.Nodup.getElem_inj_iff keysNodup).mp (equal.trans equal'.symm))
  · rintro ⟨different, place, named, stored⟩
    refine ⟨place, ?_, List.getElem?_zip_eq_some.mpr ⟨named, stored⟩⟩
    rintro rfl
    exact different (Option.some.inj (named.symm.trans holds))

theorem erased_iff :
    Function.update map key none other = some value ↔ other ≠ key ∧ map other = some value := by
  by_cases same : other = key
  · subst same
    rw [Function.update_self]
    exact ⟨fun none => by contradiction, fun both => absurd rfl both.1⟩
  · rw [Function.update_of_ne same]
    exact ⟨fun holds => ⟨same, holds⟩, And.right⟩

theorem mem_eraseP_key {head : List LargeElement}
    (nodup : (head.map LargeElement.key).Nodup) {element : LargeElement} :
    (element ∈ head.eraseP fun element => element.key == key) ↔
      element.key ≠ key ∧ element ∈ head := by
  induction head with
  | nil => simp
  | cons first head ih =>
    rw [List.map_cons, List.nodup_cons] at nodup
    by_cases named : first.key = key
    · have test : (first.key == key) = true := beq_iff_eq.mpr named
      rw [List.eraseP_cons, test, cond_true, mem_cons]
      constructor
      · intro member
        refine ⟨?_, Or.inr member⟩
        rintro same
        exact nodup.1 (List.mem_map.mpr ⟨element, member, same.trans named.symm⟩)
      · rintro ⟨different, rfl | member⟩
        · exact absurd named different
        · exact member
    · have test : (first.key == key) = false := beq_false_of_ne named
      rw [List.eraseP_cons, test, cond_false, mem_cons, ih nodup.2, mem_cons]
      constructor
      · rintro (rfl | ⟨different, member⟩)
        · exact ⟨named, Or.inl rfl⟩
        · exact ⟨different, Or.inr member⟩
      · rintro ⟨different, rfl | member⟩
        · exact Or.inl rfl
        · exact Or.inr ⟨different, member⟩

theorem WellFormed.removeKey (wellFormed : list.WellFormed)
    (inside : index < list.keys.length) (values : list'.values = list.values.eraseIdx index)
    (head : list'.head = list.head) (len8 : list'.len8 = list'.values8.length)
    (len16 : list'.len16 = list'.values16.length) (len32 : list'.len32 = list'.values32.length) :
    WellFormed { list' with
      keys := list.keys.eraseIdx index
      lenKeys := list.keys.length - 1 } := by
  have counted := length_eraseIdx_of_lt inside
  have bounded := wellFormed.bounded
  have lengths : list'.values.length = list.keys.length - 1 := by
    rw [values, length_eraseIdx_of_lt (by rwa [wellFormed.length_values]), wellFormed.length_values]
  rw [KeyValueList.values, length_append, length_append, length_map,
    length_map, length_map] at lengths
  refine ⟨len8, len16, len32, counted.symm, counted.trans lengths.symm, ?_,
    wellFormed.keysNodup.eraseIdx index, ?_, ?_, ?_, ?_⟩
  · exact counted.trans_le ((Nat.sub_le _ _).trans bounded)
  · dsimp only
    rw [head]
    exact wellFormed.largeNodup
  · dsimp only
    rw [head]
    exact fun element member kept =>
      wellFormed.disjoint element member (List.mem_of_mem_eraseIdx kept)
  · dsimp only
    rw [head]
    exact wellFormed.largeLength
  · dsimp only
    rw [head]
    exact wellFormed.notSmall

theorem Denotes.remove (denotes : list.Denotes map) (unknown : Unknown) :
    ∃ list', list.remove unknown key = some list' ∧
      list'.Denotes (Function.update map key none) := by
  obtain ⟨wellFormed, pairs⟩ := denotes
  unfold KeyValueList.remove
  by_cases large : (list.head.any fun element => element.key == key) = true
  · rw [if_pos large]
    refine ⟨_, rfl, { wellFormed with
        largeNodup := wellFormed.largeNodup.sublist (List.eraseP_sublist.map _)
        disjoint := fun element member =>
          wellFormed.disjoint element (List.mem_of_mem_eraseP member)
        largeLength := fun element member =>
          wellFormed.largeLength element (List.mem_of_mem_eraseP member)
        notSmall := fun element member =>
          wellFormed.notSmall element (List.mem_of_mem_eraseP member) }, fun other value => ?_⟩
    obtain ⟨found, member, named⟩ := List.any_eq_true.mp large
    rw [beq_iff_eq] at named
    rw [erased_iff, pairs]
    simp only [mem_eraseP_key wellFormed.largeNodup]
    constructor
    · rintro ⟨different, inPacked | ⟨element, inHead, rfl, stored⟩⟩
      · exact Or.inl inPacked
      · exact Or.inr ⟨element, ⟨different, inHead⟩, rfl, stored⟩
    · rintro (inPacked | ⟨element, ⟨different, inHead⟩, rfl, stored⟩)
      · refine ⟨?_, Or.inl inPacked⟩
        rintro rfl
        exact wellFormed.disjoint found member (named ▸ (of_mem_zip inPacked).1)
      · exact ⟨different, Or.inr ⟨element, inHead, rfl, stored⟩⟩
  · rw [if_neg large]
    have notLarge : ∀ element ∈ list.head, element.key ≠ key := fun element member named =>
      large (List.any_eq_true.mpr ⟨element, member, beq_iff_eq.mpr named⟩)
    cases found : list.findKey key with
    | none =>
      rw [wellFormed.findKey_eq_none] at found
      refine ⟨list, rfl, wellFormed, fun other value => ?_⟩
      rw [erased_iff, pairs]
      refine ⟨And.right, fun holds => ⟨?_, holds⟩⟩
      rintro rfl
      rcases holds with inPacked | ⟨element, inHead, named, _⟩
      · exact found (of_mem_zip inPacked).1
      · exact notLarge element inHead named
    | some index =>
      rw [wellFormed.findKey_eq_some] at found
      have inside := (List.getElem?_eq_some_iff.mp found).1
      obtain ⟨smaller, removed, values, keys, lenKeys, head, len8, len16, len32⟩ :=
        wellFormed.removeValue_eq unknown inside
      dsimp only
      rw [removed, Option.map_some, keys, lenKeys, wellFormed.lenKeys, closeGap_eq inside]
      refine ⟨_, rfl, wellFormed.removeKey inside values head len8 len16 len32,
        fun other value => ?_⟩
      rw [erased_iff, pairs]
      show _ ↔ (other, value) ∈ (list.keys.eraseIdx index).zip smaller.values ∨
        ∃ element ∈ smaller.head, element.key = other ∧ element.data = value
      rw [values, zip_eraseIdx, head]
      rw [show list.keys.zip list.values = list.packed from rfl,
        mem_eraseIdx_packed wellFormed.keysNodup found]
      constructor
      · rintro ⟨different, inPacked | inHead⟩
        · exact Or.inl ⟨different, inPacked⟩
        · exact Or.inr inHead
      · rintro (⟨different, inPacked⟩ | ⟨element, inHead, rfl, stored⟩)
        · exact ⟨different, Or.inl inPacked⟩
        · exact ⟨notLarge element inHead, Or.inr ⟨element, inHead, rfl, stored⟩⟩

end Remove

end KeyValueList

section Runs

open KeyValueList

variable {unknown : Unknown} {list : KeyValueList} {map : Map}

def specStep (map : Map) : Call → Map × Reply
  | .add key value =>
      if map key = none then (Function.update map key (some value), .bool true)
      else (map, .bool false)
  | .remove key => (Function.update map key none, .none)
  | .removeAll => (fun _ => none, .none)
  | .get key => (map, .value ((map key).map fun value => (value.length, value)))
  | .isSet key => (map, .bool (map key).isSome)

def specRun (map : Map) : List Call → Map × List Reply
  | [] => (map, [])
  | call :: calls =>
      let (final, replies) := specRun (specStep map call).1 calls
      (final, (specStep map call).2 :: replies)

def EachCall (allowed : Map → Call → Prop) : Map → List Call → Prop
  | _, [] => True
  | map, call :: calls => allowed map call ∧ EachCall allowed (specStep map call).1 calls

def smallKeys (map : Map) : Set Key :=
  { key | ∃ value, map key = some value ∧ IsSmall value }

/-- There are never more than 255 values of one, two and four bytes. -/
def RoomFor (map : Map) : Call → Prop
  | .add key value => map key = none → IsSmall value → (smallKeys map).ncard < 255
  | _ => True

/-- A new value is no longer than a `uint16` can tell. -/
def ShortValue (map : Map) : Call → Prop
  | .add key value => map key = none → value.length ≤ 65535
  | _ => True

theorem isSmall_of_mem_values {value : List UInt8} (member : value ∈ list.values) :
    IsSmall value := by
  rw [values, List.mem_append, List.mem_append] at member
  rcases member with (one | two) | four
  · obtain ⟨cell, _, rfl⟩ := List.mem_map.mp one
    exact Or.inl cell.property
  · obtain ⟨cell, _, rfl⟩ := List.mem_map.mp two
    exact Or.inr (Or.inl cell.property)
  · obtain ⟨cell, _, rfl⟩ := List.mem_map.mp four
    exact Or.inr (Or.inr cell.property)

theorem KeyValueList.Denotes.mem_keys_iff (denotes : list.Denotes map) (key : Key) :
    key ∈ list.keys ↔ key ∈ smallKeys map := by
  obtain ⟨wellFormed, pairs⟩ := denotes
  constructor
  · intro member
    obtain ⟨index, inside, rfl⟩ := List.mem_iff_getElem.mp member
    have bound : index < list.values.length := by rwa [wellFormed.length_values]
    refine ⟨list.values[index], (pairs _ _).mpr (Or.inl ?_),
      isSmall_of_mem_values (List.getElem_mem bound)⟩
    exact mem_packed.mpr ⟨index, List.getElem?_eq_getElem inside, List.getElem?_eq_getElem bound⟩
  · rintro ⟨value, holds, small⟩
    rcases (pairs key value).mp holds with inPacked | ⟨element, member, _, rfl⟩
    · exact (of_mem_zip inPacked).1
    · exact absurd small (wellFormed.notSmall element member)

theorem KeyValueList.Denotes.smallKeys_ncard (denotes : list.Denotes map) :
    (smallKeys map).ncard = list.keys.length := by
  have same : smallKeys map = (list.keys.toFinset : Set Key) := by
    ext key
    rw [← denotes.mem_keys_iff, Finset.mem_coe, List.mem_toFinset]
  rw [same, Set.ncard_coe_finset, List.toFinset_card_of_nodup denotes.wellFormed.keysNodup]

theorem denotes_create : create.Denotes fun _ => none := by
  refine ⟨⟨rfl, rfl, rfl, rfl, rfl, Nat.zero_le _, List.nodup_nil, List.nodup_nil, ?_, ?_, ?_⟩,
    fun key value => ⟨fun none => by contradiction, ?_⟩⟩
  · exact fun element member => absurd member not_mem_nil
  · exact fun element member => absurd member not_mem_nil
  · exact fun element member => absurd member not_mem_nil
  · rintro (member | ⟨element, member, _⟩)
    · exact absurd member not_mem_nil
    · exact absurd member not_mem_nil

theorem KeyValueList.Denotes.step (denotes : list.Denotes map) (unknown : Unknown) {call : Call}
    (room : RoomFor map call) (short : ShortValue map call) :
    ∃ list', KeyValues.step unknown list call = some (list', (specStep map call).2) ∧
      list'.Denotes (specStep map call).1 := by
  cases call with
  | add key value =>
    rw [KeyValues.step, specStep, KeyValueList.add, denotes.isSet_eq]
    by_cases absent : map key = none
    · rw [if_pos absent, absent, if_neg (by decide)]
      refine ⟨_, rfl, denotes.addKeyValuePair absent (short absent) fun small => ?_⟩
      rw [← denotes.smallKeys_ncard]
      exact room absent small
    · rw [if_neg absent, if_pos (Option.isSome_iff_ne_none.mpr absent)]
      exact ⟨list, rfl, denotes⟩
  | remove key =>
    have removal : ∃ list', list.remove unknown key = some list' ∧
        list'.Denotes (Function.update map key none) := denotes.remove unknown
    obtain ⟨list', removed, denotes'⟩ := removal
    refine ⟨list', ?_, denotes'⟩
    rw [KeyValues.step, removed]
    rfl
  | removeAll => exact ⟨create, rfl, denotes_create⟩
  | get key => exact ⟨list, by rw [KeyValues.step, denotes.get_eq]; rfl, denotes⟩
  | isSet key => exact ⟨list, by rw [KeyValues.step, denotes.isSet_eq]; rfl, denotes⟩

theorem KeyValueList.Denotes.run (denotes : list.Denotes map) (unknown : Unknown)
    {calls : List Call} (room : EachCall RoomFor map calls)
    (short : EachCall ShortValue map calls) :
    ∃ list', KeyValues.run unknown list calls = some (list', (specRun map calls).2) ∧
      list'.Denotes (specRun map calls).1 := by
  induction calls generalizing list map with
  | nil => exact ⟨list, rfl, denotes⟩
  | cons call calls ih =>
    obtain ⟨next, stepped, denotes'⟩ := denotes.step unknown room.1 short.1
    obtain ⟨final, ran, denotes''⟩ := ih denotes' room.2 short.2
    refine ⟨final, ?_, denotes''⟩
    rw [KeyValues.run, stepped, Option.bind_eq_bind, Option.bind_some]
    dsimp only
    rw [ran]
    rfl

/-- While at most 255 small values are stored and no value is longer than 65535 bytes, the list
answers every call as the map does, and the k-th key owns the k-th value of the packed arrays. -/
theorem run_refines {unknown : Unknown} {calls : List Call}
    (room : EachCall RoomFor (fun _ => none) calls)
    (short : EachCall ShortValue (fun _ => none) calls) :
    ∃ list, run unknown create calls = some (list, (specRun (fun _ => none) calls).2) ∧
      (∀ key, list.get key = ((specRun (fun _ => none) calls).1 key).map
        fun value => (value.length, value)) ∧
      list.lenKeys = list.len8 + list.len16 + list.len32 ∧
      list.lenKeys = list.keys.length ∧ list.lenKeys = list.values.length ∧
      ∀ (index : Nat) key value, list.keys[index]? = some key →
        list.values[index]? = some value →
        (specRun (fun _ => none) calls).1 key = some value := by
  obtain ⟨list, ran, denotes⟩ := denotes_create.run unknown room short
  have wellFormed := denotes.wellFormed
  refine ⟨list, ran, denotes.get_eq, ?_, wellFormed.lenKeys, ?_, ?_⟩
  · rw [wellFormed.lenKeys, wellFormed.len8, wellFormed.len16, wellFormed.len32, wellFormed.aligned]
  · rw [wellFormed.lenKeys, wellFormed.length_values]
  · intro index key value named stored
    exact (denotes.pairs key value).mpr (Or.inl (mem_packed.mpr ⟨index, named, stored⟩))

private def zeroCells : Unknown := ⟨0, ⟨[0], rfl⟩, ⟨[0, 0], rfl⟩, ⟨[0, 0, 0, 0], rfl⟩⟩

theorem run_refines_removal :
    ∃ list, run zeroCells create [.add 1 [5], .add 2 [7, 8, 9], .remove 1] =
        some (list, [.bool true, .bool true, .none]) ∧
      list.get 2 = some (3, [7, 8, 9]) ∧ list.get 1 = none := by
  have nothing : smallKeys (fun _ => none) = ∅ :=
    Set.eq_empty_of_forall_notMem fun key member => by
      obtain ⟨value, held, _⟩ := member
      contradiction
  have room : EachCall RoomFor (fun _ => none) [.add 1 [5], .add 2 [7, 8, 9], .remove 1] := by
    refine ⟨fun _ _ => ?_, fun _ small => ?_, trivial, trivial⟩
    · rw [nothing, Set.ncard_empty]
      decide
    · rcases small with one | two | four <;> contradiction
  have short : EachCall ShortValue (fun _ => none)
      [.add 1 [5], .add 2 [7, 8, 9], .remove 1] :=
    ⟨fun _ => by decide, fun _ => by decide, trivial, trivial⟩
  obtain ⟨list, ran, get, _⟩ := @run_refines zeroCells _ room short
  exact ⟨list, ran, get 2, get 1⟩

/-- The length of a value of 65536 bytes is kept as zero. -/
theorem long_value_truncated :
    ¬ ∀ (unknown : Unknown) (calls : List Call), EachCall RoomFor (fun _ => none) calls →
      ∃ list, run unknown create calls = some (list, (specRun (fun _ => none) calls).2) := by
  intro refines
  obtain ⟨value, long⟩ : ∃ value : List UInt8, value.length = 65536 :=
    ⟨List.replicate 65536 0, List.length_replicate⟩
  have large : ¬ IsSmall value := by
    rw [IsSmall, long]
    decide
  obtain ⟨list, ran⟩ := refines zeroCells [.add 0 value, .get 0]
    ⟨fun _ small => absurd small large, trivial, trivial⟩
  have stored : addKeyValuePair zeroCells create 0 value =
      { create with head := [⟨0, 0, value⟩] } := by
    rw [addKeyValuePair, dif_neg (by omega), dif_neg (by omega), dif_neg (by omega), long]
    rfl
  have replies : run zeroCells create [.add 0 value, .get 0] =
      some ({ create with head := [⟨0, 0, value⟩] }, [.bool true, .value (some (0, value))]) := by
    simp only [run, step, add, if_neg (show ¬ create.isSet 0 = true by decide), stored]
    rfl
  have expected : (specRun (fun _ => none) [.add 0 value, .get 0]).2 =
      [.bool true, .value (some (65536, value))] := by
    rw [← long]
    rfl
  rw [replies, expected, Option.some.injEq, Prod.mk.injEq] at ran
  simp at ran

end Runs

end HeadsetAdk.KeyValues
