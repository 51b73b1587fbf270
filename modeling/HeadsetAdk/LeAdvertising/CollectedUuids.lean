import HeadsetAdk.LeAdvertising.UuidList
import Mathlib.Data.List.Infix
import Mathlib.Data.List.Flatten

/-! # The UUIDs that are collected -/

namespace HeadsetAdk.LeAdvertising

namespace UuidList

section Reading

variable {octets : Nat} {uuids : List (List UInt8)}

private theorem drop_flatten (lengths : ∀ uuid ∈ uuids, uuid.length = octets) (index : Nat) :
    uuids.flatten.drop (octets * index) = (uuids.drop index).flatten := by
  induction index generalizing uuids with
  | zero => rfl
  | succ index ih =>
    cases uuids with
    | nil => simp
    | cons uuid uuids =>
      have first := lengths uuid List.mem_cons_self
      have rest := ih fun other member => lengths other (List.mem_cons_of_mem uuid member)
      rw [List.flatten_cons, List.drop_succ_cons, ← rest, Nat.mul_succ, Nat.add_comm,
        ← List.drop_drop, ← first, List.drop_left]

theorem length_flatten_uuids (lengths : ∀ uuid ∈ uuids, uuid.length = octets) :
    uuids.flatten.length = octets * uuids.length := by
  induction uuids with
  | nil => rfl
  | cons uuid uuids ih =>
    rw [List.flatten_cons, List.length_append, lengths uuid List.mem_cons_self,
      ih fun other member => lengths other (List.mem_cons_of_mem uuid member),
      List.length_cons, Nat.mul_succ, Nat.add_comm]

theorem uuidsIn_flatten (positive : 0 < octets)
    (lengths : ∀ uuid ∈ uuids, uuid.length = octets) (first second : UInt8) :
    uuidsIn octets (2 + octets * uuids.length) (first :: second :: uuids.flatten) = uuids := by
  have count : (2 + octets * uuids.length - adDataHeaderSize + (octets - 1)) / octets =
      uuids.length := by
    have cancelled : 2 + octets * uuids.length - adDataHeaderSize = octets * uuids.length :=
      Nat.add_sub_cancel_left ..
    rw [cancelled, Nat.mul_add_div positive, Nat.div_eq_of_lt (by omega), Nat.add_zero]
  rw [uuidsIn, count]
  apply List.ext_getElem?
  intro index
  rw [List.getElem?_map]
  by_cases inside : index < uuids.length
  · have uuid := lengths uuids[index] (List.getElem_mem inside)
    rw [List.getElem?_range inside, List.getElem?_eq_getElem inside, Option.map_some,
      adDataHeaderSize, Nat.add_comm 2, List.drop_succ_cons, List.drop_succ_cons,
      drop_flatten lengths, List.drop_eq_getElem_cons inside, List.flatten_cons, ← uuid,
      List.take_left]
  · rw [List.getElem?_eq_none (by rw [List.length_range]; omega),
      List.getElem?_eq_none (Nat.not_lt.mp inside)]
    rfl

end Reading

structure Offer.WellFormed (offer : Offer) (octets : Nat) : Prop where
  data : ∃ bytes, offer.item.data = some bytes ∧ bytes.length = offer.item.size
  whole : ∃ count, offer.item.size = adDataHeaderSize + octets * count
  dataSet : offer.params.dataSet ∈ DataSet.all

theorem Offer.WellFormed.lengths {offer : Offer} {octets : Nat}
    (wellFormed : offer.WellFormed octets) (positive : 0 < octets) :
    ∀ entry ∈ offer.uuids octets, entry.1.length = octets := by
  obtain ⟨⟨bytes, data, size⟩, ⟨count, whole⟩, -⟩ := wellFormed
  intro entry member
  rw [Offer.uuids, data, Option.getD_some] at member
  obtain ⟨index, inside, rfl⟩ := List.mem_mapIdx.mp member
  rw [uuidsIn, List.length_map, List.length_range, whole, Nat.add_sub_cancel_left,
    Nat.mul_add_div positive, Nat.div_eq_of_lt (by omega), Nat.add_zero] at inside
  have room : octets * index + octets ≤ octets * count := by
    rw [← Nat.mul_succ]
    exact Nat.mul_le_mul_left octets inside
  simp only [uuidsIn, List.getElem_map, List.getElem_range, List.length_take, List.length_drop,
    size, whole]
  omega

section Collecting

variable {Uuid : Type*} [DecidableEq Uuid] {collected : List Uuid}

def collectAll (collected : List Uuid) : List (Uuid × Bool) → List Uuid
  | [] => collected
  | (uuid, allocated) :: uuids =>
      if uuid ∈ collected then collectAll collected uuids
      else if allocated then collectAll (collected ++ [uuid]) uuids
      else collectAll collected uuids

def collectFirst (collected : List Uuid) : List (Uuid × Bool) → List Uuid
  | [] => collected
  | (uuid, allocated) :: uuids =>
      if uuid ∈ collected then collectFirst collected uuids
      else if allocated then collected ++ [uuid]
      else collected

def collect (collected : List Uuid) (completeness : Completeness) (uuids : List (Uuid × Bool)) :
    List Uuid :=
  match completeness with
  | .full => collectAll collected uuids
  | .canBeShortened => collectFirst collected uuids
  | .canBeSkipped => collected

omit [DecidableEq Uuid] in
private theorem nodup_concat {uuid : Uuid} (once : collected.Nodup)
    (new : uuid ∉ collected) : (collected ++ [uuid]).Nodup := by
  rw [List.perm_append_comm.nodup_iff]
  exact List.nodup_cons.mpr ⟨new, once⟩

theorem collectAll_nodup (once : collected.Nodup)
    (uuids : List (Uuid × Bool)) : (collectAll collected uuids).Nodup := by
  induction uuids generalizing collected with
  | nil => exact once
  | cons entry uuids ih =>
    obtain ⟨uuid, allocated⟩ := entry
    rw [collectAll]
    split
    · exact ih once
    · rename_i new
      split
      · exact ih (nodup_concat once new)
      · exact ih once

theorem collectFirst_nodup (once : collected.Nodup)
    (uuids : List (Uuid × Bool)) : (collectFirst collected uuids).Nodup := by
  induction uuids with
  | nil => exact once
  | cons entry uuids ih =>
    obtain ⟨uuid, allocated⟩ := entry
    rw [collectFirst]
    split
    · exact ih
    · rename_i new
      split
      · exact nodup_concat once new
      · exact once

theorem prefix_collectAll (collected : List Uuid) (uuids : List (Uuid × Bool)) :
    collected <+: collectAll collected uuids := by
  induction uuids generalizing collected with
  | nil => exact List.prefix_rfl
  | cons entry uuids ih =>
    obtain ⟨uuid, allocated⟩ := entry
    rw [collectAll]
    split
    · exact ih collected
    · split
      · exact (List.prefix_append collected [uuid]).trans (ih _)
      · exact ih collected

theorem prefix_collectFirst (collected : List Uuid) (uuids : List (Uuid × Bool)) :
    collected <+: collectFirst collected uuids := by
  induction uuids with
  | nil => exact List.prefix_rfl
  | cons entry uuids ih =>
    obtain ⟨uuid, allocated⟩ := entry
    rw [collectFirst]
    split
    · exact ih
    · split
      · exact List.prefix_append collected [uuid]
      · exact List.prefix_rfl

theorem mem_collectAll {uuids : List (Uuid × Bool)} {uuid : Uuid}
    (member : (uuid, true) ∈ uuids) : uuid ∈ collectAll collected uuids := by
  induction uuids generalizing collected with
  | nil => exact absurd member List.not_mem_nil
  | cons entry uuids ih =>
    obtain ⟨first, allocated⟩ := entry
    cases List.mem_cons.mp member with
    | inl same =>
      cases same
      rw [collectAll]
      split
      · rename_i present
        exact (prefix_collectAll collected uuids).subset present
      · rw [if_pos rfl]
        exact (prefix_collectAll _ uuids).subset
          (List.mem_append_right collected List.mem_cons_self)
    | inr later =>
      rw [collectAll]
      split
      · exact ih later
      · split
        · exact ih later
        · exact ih later

end Collecting

def collected (octets : Nat) (offers : List Offer) : List (List UInt8) :=
  offers.foldl (fun collected offer =>
    collect collected offer.params.completeness (offer.uuids octets)) []

def LeftOut (octets : Nat) (offers : List Offer) : Prop :=
  ∃ offer ∈ offers, ∃ entry ∈ offer.uuids octets, entry.1 ∉ collected octets offers

instance (octets : Nat) (offers : List Offer) : Decidable (LeftOut octets offers) :=
  inferInstanceAs (Decidable (∃ _ ∈ _, _))

def Shortens (octets : Nat) (before : List Offer) (offer : Offer) : Prop :=
  (offer.params.completeness = .canBeSkipped ∧
      ∃ earlier ∈ before, earlier.params.completeness ≠ .canBeSkipped) ∨
    (offer.params.completeness = .canBeShortened ∧
      ∃ entry ∈ offer.uuids octets, entry.1 ∉ collected octets before)

instance (octets : Nat) (before : List Offer) (offer : Offer) :
    Decidable (Shortens octets before offer) :=
  inferInstanceAs (Decidable (_ ∨ _))

def Shortened (octets : Nat) (offers : List Offer) : Prop :=
  ∃ before offer, before ++ [offer] <+: offers ∧ Shortens octets before offer

/-- The list is as `LeAdvertisingManager_UuidReset` leaves it. -/
structure Reset (list : UuidList) (octets : Nat) : Prop where
  data : list.data = none
  size : list.size = 0
  sized : list.octetsInUuid = octets

structure Produced (list : UuidList) (octets : Nat) (offers : List Offer) : Prop where
  found : collected octets offers ≠ [] →
    ∃ params, params.dataSet ∈ DataSet.all ∧ (list.getListAsItem params).isSome
  once : (collected octets offers).Nodup
  right : ∀ params item, params.dataSet ∈ DataSet.all → list.getListAsItem params = some item →
    collected octets offers ≠ [] ∧
      item.size = adDataHeaderSize + octets * (collected octets offers).length ∧
      ∃ length type, item.data = some (length :: type :: (collected octets offers).flatten) ∧
        length.toNat = 1 + octets * (collected octets offers).length ∧
        list.getListType (decide (LeftOut octets offers)) = some type

structure Collectable (start : UuidList) (octets : Nat) (offers : List Offer) : Prop where
  fits : adDataHeaderSize + octets * (collected octets offers).length < 256
  type : collected octets offers ≠ [] → (LeftOut octets offers ↔ Shortened octets offers)
  empty : collected octets offers = [] →
    start.params.dataSet ∉ DataSet.all ∧
      ∀ offer ∈ offers, offer.params.completeness = .canBeSkipped

section Holding

def listType (octets : Nat) (shortened : Bool) : Option UInt8 :=
  { boot with octetsInUuid := octets }.getListType shortened

variable {octets : Nat} {list : UuidList} {uuids : List (List UInt8)} {shortened : Bool}

structure Holding (list : UuidList) (octets : Nat) (uuids : List (List UInt8))
    (shortened : Bool) : Prop where
  sized : list.octetsInUuid = octets
  size : list.size.toNat = adDataHeaderSize + octets * uuids.length
  lengths : ∀ uuid ∈ uuids, uuid.length = octets
  data : ∃ length type, list.data = some (length :: type :: uuids.flatten) ∧
    (uuids ≠ [] → length.toNat = 1 + octets * uuids.length) ∧
    listType octets shortened = some type

theorem getListType_eq (same : list.octetsInUuid = octets) (shortened : Bool) :
    list.getListType shortened = listType octets shortened := by
  rw [listType, getListType, getListType, same]

section

variable (holding : Holding list octets uuids shortened)

include holding

theorem Holding.uuidIsInList (positive : 0 < octets) (uuid : List UInt8) :
    list.uuidIsInList uuid = decide (uuid ∈ uuids) := by
  obtain ⟨length, type, data, -, -⟩ := holding.data
  rw [UuidList.uuidIsInList, holding.sized, holding.size, data, Option.getD_some,
    adDataHeaderSize, uuidsIn_flatten positive holding.lengths]

theorem Holding.extendList {uuid : List UInt8} (length : uuid.length = octets)
    (fits : adDataHeaderSize + octets * (uuids ++ [uuid]).length < 256) :
    Holding (list.extendList true uuid) octets (uuids ++ [uuid]) shortened := by
  obtain ⟨first, type, data, -, shown⟩ := holding.data
  have count : octets * (uuids ++ [uuid]).length = octets * uuids.length + octets := by
    rw [List.length_append, List.length_singleton, Nat.mul_add, Nat.mul_one]
  have grown : list.size.toNat + list.octetsInUuid =
      adDataHeaderSize + octets * (uuids ++ [uuid]).length := by
    rw [holding.size, holding.sized, count, Nat.add_assoc]
  have whole : (first :: type :: uuids.flatten).take list.size.toNat =
      first :: type :: uuids.flatten := by
    apply List.take_of_length_le
    rw [holding.size, List.length_cons, List.length_cons,
      length_flatten_uuids holding.lengths, adDataHeaderSize, Nat.add_comm 2]
  rw [UuidList.extendList, if_pos rfl, data, Option.getD_some, whole, grown]
  constructor
  · exact holding.sized
  · exact UInt8.toNat_ofNat_of_lt' fits
  · intro other member
    cases List.mem_append.mp member with
    | inl member => exact holding.lengths other member
    | inr member => rw [List.mem_singleton.mp member, length]
  · refine ⟨UInt8.ofNat (adDataHeaderSize + octets * (uuids ++ [uuid]).length - 1), type, ?_,
      fun _ => ?_, shown⟩
    · rw [List.flatten_append, List.flatten_singleton]
      rfl
    · rw [UInt8.toNat_ofNat_of_lt' (Nat.lt_of_le_of_lt (Nat.sub_le _ 1) fits), adDataHeaderSize]
      omega

theorem Holding.setListShortened {more : UInt8} (known : listType octets true = some more) :
    ∃ list', list.setListShortened = some list' ∧ Holding list' octets uuids true ∧
      list'.params = list.params := by
  obtain ⟨length, type, data, count, -⟩ := holding.data
  refine ⟨{ list with data := some (length :: more :: uuids.flatten) }, ?_, ?_, rfl⟩
  · rw [UuidList.setListShortened, getListType_eq holding.sized, known, data]
    rfl
  · exact
      { holding with
        data := ⟨length, more, rfl, count, known⟩ }

end

end Holding

end UuidList

end HeadsetAdk.LeAdvertising
