import HeadsetAdk.LeAdvertising.DataBuild
import HeadsetAdk.LeAdvertising.ProducedUuids
import Mathlib.Data.List.Nodup
import Mathlib.Data.List.Perm.Basic

/-! # What a build lays out -/

namespace HeadsetAdk.LeAdvertising

open Option (bind_eq_some_iff some.inj)

structure Piece where
  item : DataItem
  params : DataParams
deriving DecidableEq

namespace Piece

def octets (piece : Piece) : List UInt8 := piece.item.octets.getD []

/-- The item cannot be left out. -/
def Mandatory (piece : Piece) : Prop := piece.params.completeness ≠ .canBeSkipped

instance (piece : Piece) : Decidable piece.Mandatory := inferInstanceAs (Decidable (_ ≠ _))

def hasType (piece : Piece) (type : UInt8) : Bool :=
  piece.item.hasData && decide (piece.item.type = some type)

def isOrdinary (piece : Piece) : Bool :=
  piece.item.hasData && Manager.collectedTypes.all fun type => decide (piece.item.type ≠ some type)

def ofCollected (item : Option DataItem) (params : DataParams) : List Piece :=
  (item.map fun item => ⟨item, params⟩).toList

end Piece

def offered (clients : Database) (params : DataParams) : List Piece :=
  clients.slots.flatMap fun slot => (itemsOf slot params).map fun item => ⟨item, params⟩

def asked (clients : Database) (set : DataSet) : List Piece :=
  (DataParams.allInSet set).flatMap (offered clients)

def Placement.Allows : Placement → PacketType → Prop
  | .advert, type => type = .advert
  | .scanResponse, type => type = .scanResponse
  | .dontCare, _ => True

/-- An item with the packet that it was put in, if it was put in one. -/
abbrev Entry := Piece × Option PacketType

/-- The packet is allowed, and there is one where the item cannot be skipped. -/
structure Entry.Placed (entry : Entry) : Prop where
  allowed : ∀ type, entry.2 = some type → entry.1.params.placement.Allows type
  mandatory : entry.1.Mandatory → entry.2.isSome

def putIn (entries : List Entry) (type : PacketType) : List UInt8 :=
  (entries.filter fun entry => decide (entry.2 = some type)).flatMap fun entry =>
    entry.1.octets

/-- Each of the items is in one packet or was skipped, and nothing else was added. -/
def LaysOut (pieces : List Piece) (start finish : PacketType → List UInt8) : Prop :=
  ∃ entries : List Entry, (entries.map Prod.fst).Perm pieces ∧
    (∀ entry ∈ entries, Entry.Placed entry) ∧
    ∀ type, finish type = start type ++ putIn entries type

theorem filter_singleton_true {Item : Type} {test : Item → Bool} {item : Item}
    (passes : test item = true) : [item].filter test = [item] :=
  List.filter_cons_of_pos passes

theorem filter_singleton_false {Item : Type} {test : Item → Bool} {item : Item}
    (fails : ¬ test item = true) : [item].filter test = [] :=
  List.filter_cons_of_neg fails

theorem putIn_append (entries entries' : List Entry) (type : PacketType) :
    putIn (entries ++ entries') type = putIn entries type ++ putIn entries' type := by
  rw [putIn, List.filter_append, List.flatMap_append]
  rfl

theorem putIn_singleton (piece : Piece) (place : Option PacketType) (type : PacketType) :
    putIn [(piece, place)] type = if place = some type then piece.octets else [] := by
  rw [putIn]
  by_cases here : place = some type
  · rw [if_pos here, filter_singleton_true]
    · exact List.append_nil _
    · exact decide_eq_true here
  · rw [if_neg here, filter_singleton_false]
    · rfl
    · exact fun there => here (of_decide_eq_true there)

theorem mem_putIn {entries : List Entry} {entry : Entry} {type : PacketType} {octet : UInt8}
    (member : entry ∈ entries) (here : entry.2 = some type) (among : octet ∈ entry.1.octets) :
    octet ∈ putIn entries type :=
  List.mem_flatMap.mpr ⟨entry, List.mem_filter.mpr ⟨member, decide_eq_true here⟩, among⟩

section Packets

variable {packets : Packets} {manager manager' : Manager} {interface : Interface}
  {type : PacketType} {item : DataItem} {added : Bool}

theorem Packets.get_put (packets : Packets) (type type' : PacketType) (packet : DataPacket) :
    (packets.put type packet).get type' = if type = type' then some packet
      else packets.get type' := by
  cases type <;> cases type' <;> rfl

namespace Manager

def octetsOf (manager : Manager) (interface : Interface) (type : PacketType) : List UInt8 :=
  match (manager.packets interface).get type with
  | some packet => packet.data
  | none => []

/-- Interfaces and collected items are the same. -/
structure Alike (manager manager' : Manager) : Prop where
  dataIf : manager'.dataIf = manager.dataIf
  lists : manager'.lists = manager.lists
  localName : manager'.localName = manager.localName

theorem Alike.refl (manager : Manager) : Alike manager manager := ⟨rfl, rfl, rfl⟩

theorem Alike.trans {manager'' : Manager} (first : Alike manager manager')
    (second : Alike manager' manager'') : Alike manager manager'' :=
  ⟨second.dataIf.trans first.dataIf, second.lists.trans first.lists,
    second.localName.trans first.localName⟩

theorem setPackets_alike (manager : Manager) (interface : Interface) (packets : Packets) :
    Alike manager (manager.setPackets interface packets) := by
  cases interface
  · exact ⟨rfl, rfl, rfl⟩
  · exact ⟨rfl, rfl, rfl⟩

theorem packets_setPackets (manager : Manager) (interface : Interface) (packets : Packets) :
    (manager.setPackets interface packets).packets interface = packets := by
  cases interface <;> rfl

theorem octetsOf_setPackets_put (manager : Manager) (interface : Interface)
    (type type' : PacketType) (packet : DataPacket) :
    (manager.setPackets interface ((manager.packets interface).put type packet)).octetsOf
        interface type' =
      if type = type' then packet.data else manager.octetsOf interface type' := by
  rw [octetsOf, packets_setPackets, Packets.get_put]
  by_cases same : type = type'
  · rw [if_pos same, if_pos same]
  · rw [if_neg same, if_neg same, octetsOf]

theorem addItemToDataPacket_spec
    (done : manager.addItemToDataPacket interface type item = some (added, manager')) :
    Alike manager manager' ∧ ∀ type', manager'.octetsOf interface type' =
      manager.octetsOf interface type' ++
        if added = true ∧ type = type' then item.octets.getD [] else [] := by
  rw [addItemToDataPacket] at done
  obtain ⟨packet, found, done⟩ := bind_eq_some_iff.mp done
  obtain ⟨⟨added', packet'⟩, adds, done⟩ := bind_eq_some_iff.mp done
  cases done
  refine ⟨setPackets_alike .., fun type' => ?_⟩
  rw [octetsOf_setPackets_put]
  have before : manager.octetsOf interface type = packet.data := by
    rw [octetsOf, found]
  rw [DataPacket.addDataItem] at adds
  split at adds
  · -- there is no room
    cases adds
    rw [if_neg (fun both : false = true ∧ type = type' => Bool.false_ne_true both.1),
      List.append_nil]
    by_cases same : type = type'
    · rw [if_pos same, ← same, before]
    · rw [if_neg same]
  · obtain ⟨octets, read, adds⟩ := bind_eq_some_iff.mp adds
    split at adds
    · cases adds
      rw [read, Option.getD_some]
      by_cases same : type = type'
      · rw [if_pos same, if_pos ⟨rfl, same⟩, ← same, before]
      · rw [if_neg same, if_neg (fun both => same both.2), List.append_nil]
    · contradiction

theorem placeItem_spec {placement : Placement}
    (done : manager.placeItem interface item placement = some (added, manager')) :
    ∃ place : Option PacketType, (place.isSome ↔ added = true) ∧
      (∀ type, place = some type → placement.Allows type) ∧ Alike manager manager' ∧
      ∀ type, manager'.octetsOf interface type = manager.octetsOf interface type ++
        if place = some type then item.octets.getD [] else [] := by
  have single : ∀ (type : PacketType) (added : Bool) (start finish : Manager),
      start.addItemToDataPacket interface type item = some (added, finish) →
      ((if added then some type else none).isSome ↔ added = true) ∧ Alike start finish ∧
      ∀ type', finish.octetsOf interface type' = start.octetsOf interface type' ++
        if (if added then some type else none) = some type' then item.octets.getD [] else [] := by
    intro type added start finish adds
    obtain ⟨alike, octets⟩ := addItemToDataPacket_spec adds
    refine ⟨?_, alike, fun type' => ?_⟩
    · cases added
      · exact Iff.rfl
      · exact Iff.rfl
    · rw [octets type']
      cases added
      · rfl
      · by_cases same : type = type'
        · rw [if_pos ⟨rfl, same⟩, if_pos rfl, if_pos (congrArg some same)]
        · rw [if_neg (fun both => same both.2), if_pos rfl,
            if_neg (fun both => same (some.inj both))]
  cases placement with
  | advert =>
    obtain ⟨put, alike, octets⟩ := single .advert added manager manager' done
    refine ⟨_, put, fun type here => ?_, alike, octets⟩
    split at here
    · exact (some.inj here).symm
    · contradiction
  | scanResponse =>
    obtain ⟨put, alike, octets⟩ := single .scanResponse added manager manager' done
    refine ⟨_, put, fun type here => ?_, alike, octets⟩
    split at here
    · exact (some.inj here).symm
    · contradiction
  | dontCare =>
    rw [placeItem] at done
    obtain ⟨⟨first, middle⟩, tried, done⟩ := bind_eq_some_iff.mp done
    obtain ⟨put, alike, octets⟩ := single .advert first manager middle tried
    cases first with
    | true =>
      cases done
      exact ⟨_, put, fun _ _ => trivial, alike, octets⟩
    | false =>
      obtain ⟨put', alike', octets'⟩ := single .scanResponse added middle manager' done
      refine ⟨_, put', fun _ _ => trivial, alike.trans alike', fun type => ?_⟩
      rw [octets' type, octets type, if_neg nofun, List.append_nil]

/-- These items were added, each to a packet or to none. -/
def Adds (interface : Interface) (manager manager' : Manager) (pieces : List Piece) : Prop :=
  Alike manager manager' ∧
    ∃ entries : List Entry, entries.map Prod.fst = pieces ∧
      (∀ entry ∈ entries, Entry.Placed entry) ∧
      ∀ type, manager'.octetsOf interface type =
        manager.octetsOf interface type ++ putIn entries type

theorem Adds.nothing (interface : Interface) (manager : Manager) :
    Adds interface manager manager [] :=
  ⟨.refl manager, [], rfl, nofun, fun _ => (List.append_nil _).symm⟩

theorem Adds.trans {manager'' : Manager} {pieces pieces' : List Piece}
    (first : Adds interface manager manager' pieces)
    (second : Adds interface manager' manager'' pieces') :
    Adds interface manager manager'' (pieces ++ pieces') := by
  obtain ⟨alike, entries, rfl, placed, octets⟩ := first
  obtain ⟨alike', entries', rfl, placed', octets'⟩ := second
  refine ⟨alike.trans alike', entries ++ entries', List.map_append, fun entry member => ?_,
    fun type => ?_⟩
  · cases List.mem_append.mp member with
    | inl member => exact placed entry member
    | inr member => exact placed' entry member
  · rw [octets', octets, putIn_append, List.append_assoc]

theorem addDataItem_adds {set : DataSet} {params : DataParams}
    (found : manager.getDataPacketFromSet set = some interface)
    (done : manager.addDataItem set item params = some manager') :
    Adds interface manager manager' [⟨item, params⟩] := by
  rw [addDataItem, found] at done
  obtain ⟨⟨added, middle⟩, tried, done⟩ := bind_eq_some_iff.mp done
  obtain ⟨place, put, allowed, alike, octets⟩ := placeItem_spec tried
  dsimp only at done
  split at done
  · contradiction
  · next kept =>
    cases done
    refine ⟨alike, [(⟨item, params⟩, place)], rfl, fun entry member => ?_, fun type => ?_⟩
    · rw [List.mem_singleton.mp member]
      refine ⟨allowed, fun mandatory => put.mpr ?_⟩
      by_contra dropped
      exact kept ⟨mandatory, dropped⟩
    · rw [octets, putIn_singleton]
      rfl

theorem getDataPacketFromSet_alike (alike : Alike manager manager') (set : DataSet) :
    manager'.getDataPacketFromSet set = manager.getDataPacketFromSet set := by
  rw [getDataPacketFromSet, getDataPacketFromSet, alike.dataIf]

theorem Adds.foldlM {Index : Type} {start finish : Manager} {indices : List Index}
    {round : Manager → Index → Option Manager} {pieces : Index → List Piece}
    (adds : ∀ index manager manager', Alike start manager → round manager index = some manager' →
      Adds interface manager manager' (pieces index))
    (done : indices.foldlM round start = some finish) :
    Adds interface start finish (indices.flatMap pieces) := by
  induction indices using List.reverseRecOn generalizing finish with
  | nil => exact some.inj done ▸ Adds.nothing interface start
  | append_singleton indices index ih =>
    rw [List.foldlM_append] at done
    obtain ⟨middle, before, last⟩ := bind_eq_some_iff.mp done
    rw [List.foldlM_cons] at last
    obtain ⟨after, round, same⟩ := bind_eq_some_iff.mp last
    obtain rfl := some.inj same
    rw [List.flatMap_append, List.flatMap_singleton]
    exact (ih before).trans (adds index middle after (ih before).1 round)

section Building

variable {clients : Database} {set : DataSet} {params : DataParams}

section

variable (found : manager.getDataPacketFromSet set = some interface)

include found

theorem buildDataItem_adds (done : manager.buildDataItem set item params = some manager') :
    Adds interface manager manager' ([⟨item, params⟩].filter Piece.isOrdinary) := by
  rw [buildDataItem] at done
  by_cases data : item.hasData = true
  · rw [if_pos data] at done
    obtain ⟨type, shown, done⟩ := bind_eq_some_iff.mp done
    have ordinary : Piece.isOrdinary ⟨item, params⟩ = decide (type ∉ collectedTypes) := by
      rw [Piece.isOrdinary, data, shown, Bool.true_and, Bool.eq_iff_iff, List.all_eq_true,
        decide_eq_true_iff]
      constructor
      · intro others member
        exact of_decide_eq_true (others type member) rfl
      · intro other type' member
        exact decide_eq_true fun same => other (some.inj same ▸ member)
    split at done
    · next collected =>
      cases done
      rw [filter_singleton_false (by
        rw [ordinary, decide_eq_false (not_not_intro collected)]
        exact Bool.false_ne_true)]
      exact .nothing interface manager
    · next other =>
      rw [filter_singleton_true (ordinary.trans (decide_eq_true other))]
      exact addDataItem_adds found done
  · rw [if_neg data] at done
    cases done
    rw [filter_singleton_false (by
      rw [Piece.isOrdinary, Bool.and_eq_true]
      exact fun both => data both.1)]
    exact .nothing interface manager

theorem buildAllClientsData_adds
    (done : manager.buildAllClientsData clients set params = some manager') :
    Adds interface manager manager' ((offered clients params).filter Piece.isOrdinary) := by
  simp only [offered, List.map_eq_flatMap, List.filter_flatMap]
  refine Adds.foldlM (fun slot start finish alike round => ?_) done
  refine Adds.foldlM (fun item middle middle' alike' round' => ?_) round
  exact buildDataItem_adds
    ((getDataPacketFromSet_alike (alike.trans alike') set).trans found) round'

theorem addCollected_adds {collected : Option DataItem}
    (done : manager.addCollected set collected params = some manager') :
    Adds interface manager manager' (Piece.ofCollected collected params) := by
  cases collected with
  | none =>
    cases done
    exact .nothing interface manager
  | some item => exact addDataItem_adds found done

end

def uuidPieces (lists : UuidLists) (params : DataParams) : List Piece :=
  Piece.ofCollected (lists.uuid16List.getListAsItem params) params ++
    Piece.ofCollected (lists.uuid32List.getListAsItem params) params ++
    Piece.ofCollected (lists.uuid128List.getListAsItem params) params

section

variable (found : manager.getDataPacketFromSet set = some interface)

include found

theorem buildUuidData_adds (done : manager.buildUuidData set params = some manager') :
    Adds interface manager manager' (uuidPieces manager.lists params) := by
  rw [buildUuidData] at done
  obtain ⟨first, done16, done⟩ := bind_eq_some_iff.mp done
  obtain ⟨second, done32, done128⟩ := bind_eq_some_iff.mp done
  have adds16 := addCollected_adds found done16
  have found' := (getDataPacketFromSet_alike adds16.1 set).trans found
  have adds32 := addCollected_adds found' done32
  have found'' := (getDataPacketFromSet_alike adds32.1 set).trans found'
  have adds128 := addCollected_adds found'' done128
  rw [adds32.1.lists] at adds128
  rw [adds16.1.lists] at adds32 adds128
  exact (adds16.trans adds32).trans adds128

def piecesAt (clients : Database) (lists : UuidLists) (name : LocalName) (params : DataParams) :
    List Piece :=
  (offered clients params).filter Piece.isOrdinary ++
    (Piece.ofCollected (name.get params) params ++ uuidPieces lists params)

theorem buildParams_adds (done : manager.buildParams clients set params = some manager') :
    Adds interface manager manager'
      (piecesAt clients manager.lists manager.localName params) := by
  rw [buildParams] at done
  obtain ⟨first, ordinary, done⟩ := bind_eq_some_iff.mp done
  obtain ⟨second, named, uuids⟩ := bind_eq_some_iff.mp done
  have addsOrdinary := buildAllClientsData_adds found ordinary
  have found' := (getDataPacketFromSet_alike addsOrdinary.1 set).trans found
  have addsName := addCollected_adds found' named
  have found'' := (getDataPacketFromSet_alike addsName.1 set).trans found'
  have addsUuids := buildUuidData_adds found'' uuids
  rw [addsName.1.lists, addsOrdinary.1.lists] at addsUuids
  rw [addsOrdinary.1.localName] at addsName
  exact addsOrdinary.trans (addsName.trans addsUuids)

theorem build_adds
    (done : (DataParams.allInSet set).foldlM (buildParams clients set) manager = some manager') :
    Adds interface manager manager'
      ((DataParams.allInSet set).flatMap
        (piecesAt clients manager.lists manager.localName)) := by
  refine Adds.foldlM (fun params start finish alike round => ?_) done
  have adds := buildParams_adds ((getDataPacketFromSet_alike alike set).trans found) round
  rw [alike.lists, alike.localName] at adds
  exact adds

end

end Building

end Manager

end Packets

end HeadsetAdk.LeAdvertising
