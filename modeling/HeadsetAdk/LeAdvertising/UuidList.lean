import Mathlib.Data.List.Basic

/-!
# Lists of UUIDs for an advert

The UUIDs of one size are put together in one data item.  `none` is the result of a function that
panics or reads through NULL.
-/

namespace HeadsetAdk.LeAdvertising

inductive Completeness
  | full
  | canBeShortened
  | canBeSkipped
deriving DecidableEq

inductive Placement
  | advert
  | scanResponse
  | dontCare
deriving DecidableEq

/-- `le_adv_data_set_t`, a set of bits. -/
abbrev DataSet := UInt8

namespace DataSet

def handsetIdentifiable : DataSet := 1
def handsetUnidentifiable : DataSet := 2
def peer : DataSet := 4
def extendedHandset : DataSet := 8

/-- The sets of one bit, in the order of `for_all_data_sets`. -/
def all : List DataSet :=
  [handsetIdentifiable, handsetUnidentifiable, peer, extendedHandset]

end DataSet

structure DataParams where
  dataSet : DataSet
  completeness : Completeness
  placement : Placement
deriving DecidableEq

/-- `le_adv_data_item_t`; the data is `none` when it is NULL. -/
structure DataItem where
  size : Nat
  data : Option (List UInt8)
deriving DecidableEq

def adDataHeaderSize : Nat := 2

namespace AdType

def moreUuid16 : UInt8 := 0x02
def completeUuid16 : UInt8 := 0x03
def moreUuid32 : UInt8 := 0x04
def completeUuid32 : UInt8 := 0x05
def moreUuid128 : UInt8 := 0x06
def completeUuid128 : UInt8 := 0x07
def completeLocalName : UInt8 := 0x09

end AdType

structure UuidList where
  data : Option (List UInt8)
  size : UInt8
  octetsInUuid : Nat
  params : DataParams
deriving DecidableEq

/-- The UUIDs that `for_uuids_in_list` and `for_uuids_in_item` visit. -/
def uuidsIn (octetsInUuid size : Nat) (data : List UInt8) : List (List UInt8) :=
  (List.range ((size - adDataHeaderSize + (octetsInUuid - 1)) / octetsInUuid)).map fun index =>
    (data.drop (adDataHeaderSize + octetsInUuid * index)).take octetsInUuid

namespace UuidList

def boot : UuidList :=
  { data := none
    size := 0
    octetsInUuid := 0
    params := ⟨0, .full, .advert⟩ }

def getListType (list : UuidList) (shortened : Bool) : Option UInt8 :=
  match list.octetsInUuid with
  | 2 => some (if shortened then AdType.moreUuid16 else AdType.completeUuid16)
  | 4 => some (if shortened then AdType.moreUuid32 else AdType.completeUuid32)
  | 16 => some (if shortened then AdType.moreUuid128 else AdType.completeUuid128)
  | _ => none

/-- The new data is not initialised: its length byte is what the memory happened to hold. -/
def startList (unset : UInt8) (list : UuidList) (params : DataParams) : Option UuidList := do
  let type ← list.getListType false
  some { list with
    params := params
    data := some [unset, type]
    size := UInt8.ofNat adDataHeaderSize }

def setListShortened (list : UuidList) : Option UuidList := do
  let type ← list.getListType true
  let data ← list.data
  some { list with data := some (data.set 1 type) }

def extendList (allocated : Bool) (list : UuidList) (uuid : List UInt8) : UuidList :=
  if allocated then
    { list with
      data := some (((list.data.getD []).take list.size.toNat ++ uuid).set 0
        (UInt8.ofNat (list.size.toNat + list.octetsInUuid - 1)))
      size := UInt8.ofNat (list.size.toNat + list.octetsInUuid) }
  else list

def uuidIsInList (list : UuidList) (uuid : List UInt8) : Bool :=
  decide (uuid ∈ uuidsIn list.octetsInUuid list.size.toNat (list.data.getD []))

def updateListPlacement (list : UuidList) (params : DataParams) : Option UuidList :=
  if params.placement = list.params.placement then some list
  else if params.placement = .dontCare then some list
  else if list.params.placement = .dontCare then
    some { list with params := { list.params with placement := params.placement } }
  else none

def addUuids (completeness : Completeness) :
    List (List UInt8 × Bool) → UuidList → Option UuidList
  | [], list => some list
  | (uuid, allocated) :: uuids, list =>
      if list.uuidIsInList uuid then addUuids completeness uuids list
      else if completeness = .canBeShortened then
        -- one UUID of the item is enough
        (list.extendList allocated uuid).setListShortened
      else addUuids completeness uuids (list.extendList allocated uuid)

/-- An item that a client wants advertised, with what its processing finds of the
memory. -/
structure Offer where
  item : DataItem
  params : DataParams
  unset : UInt8
  allocated : Nat → Bool

def Offer.uuids (offer : Offer) (octetsInUuid : Nat) : List (List UInt8 × Bool) :=
  (uuidsIn octetsInUuid offer.item.size (offer.item.data.getD [])).mapIdx fun index uuid =>
    (uuid, offer.allocated index)

def ensureStarted (list : UuidList) (offer : Offer) : Option UuidList :=
  if list.data.isSome then some list else list.startList offer.unset offer.params

def addItemToList (list : UuidList) (offer : Offer) : Option UuidList :=
  if offer.params.completeness = .canBeSkipped then
    if list.data.isSome then list.setListShortened else some list
  else do
    let list ← list.ensureStarted offer
    let list ← list.updateListPlacement offer.params
    addUuids offer.params.completeness (offer.uuids list.octetsInUuid) list

def getListAsItem (list : UuidList) (params : DataParams) : Option DataItem :=
  if list.params = params then
    some
      { size := list.size.toNat
        data := list.data }
  else none

def resetList (list : UuidList) : UuidList :=
  { list with
    data := none
    size := 0 }

end UuidList

structure UuidLists where
  uuid16List : UuidList
  uuid32List : UuidList
  uuid128List : UuidList

namespace UuidLists

def boot : UuidLists := ⟨UuidList.boot, UuidList.boot, UuidList.boot⟩

def uuidReset (lists : UuidLists) : UuidLists :=
  { uuid16List := { lists.uuid16List.resetList with octetsInUuid := 2 }
    uuid32List := { lists.uuid32List.resetList with octetsInUuid := 4 }
    uuid128List := { lists.uuid128List.resetList with octetsInUuid := 16 } }

def uuid16 (lists : UuidLists) (offer : UuidList.Offer) : Option UuidLists :=
  (lists.uuid16List.addItemToList offer).map fun list => { lists with uuid16List := list }

def uuid32 (lists : UuidLists) (offer : UuidList.Offer) : Option UuidLists :=
  (lists.uuid32List.addItemToList offer).map fun list => { lists with uuid32List := list }

def uuid128 (lists : UuidLists) (offer : UuidList.Offer) : Option UuidLists :=
  (lists.uuid128List.addItemToList offer).map fun list => { lists with uuid128List := list }

end UuidLists

end HeadsetAdk.LeAdvertising
