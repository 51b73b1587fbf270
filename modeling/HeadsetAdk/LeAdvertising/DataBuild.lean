import HeadsetAdk.LeAdvertising.UuidList

/-!
# Building the advert and the scan response

UUIDs and local names are collected first; then the other items are put into the two packets, each
followed by what was collected with the same parameters.  A client is taken to give the same items
both times.  `none` is the result of a function that panics or reads where there is no data.
-/

namespace HeadsetAdk.LeAdvertising

namespace DataItem

/-- `item->data && item->size` -/
def hasData (item : DataItem) : Bool := item.data.isSome && decide (item.size ≠ 0)

/-- `item->data[AD_DATA_TYPE_OFFSET]` -/
def type (item : DataItem) : Option UInt8 := do
  let data ← item.data
  data[1]?

def octets (item : DataItem) : Option (List UInt8) :=
  if item.size = 0 then some []
  else do
    let data ← item.data
    if data.length < item.size then none else some (data.take item.size)

end DataItem

/-- `le_adv_data_callback_t`, without the release of the items. -/
structure Client where
  getNumberOfItems : DataParams → Nat
  getItem : DataParams → Nat → DataItem

def itemsOf (slot : Option Client) (params : DataParams) : List DataItem :=
  match slot with
  | none => []
  | some client => (List.range (client.getNumberOfItems params)).map (client.getItem params)

def maxNumberOfClients : Nat := 15

structure Database where
  slots : List (Option Client)
  size : slots.length = maxNumberOfClients

namespace DataParams

def allCompleteness : List Completeness := [.full, .canBeShortened, .canBeSkipped]

def allPlacements : List Placement := [.advert, .scanResponse, .dontCare]

/-- The parameters in the order of the three loops. -/
def all : List DataParams :=
  allCompleteness.flatMap fun completeness =>
    allPlacements.flatMap fun placement =>
      DataSet.all.map fun dataSet => ⟨dataSet, completeness, placement⟩

/-- `for_all_params_in_set` -/
def allInSet (set : DataSet) : List DataParams :=
  all.filter fun params => set &&& params.dataSet ≠ 0

end DataParams

inductive PacketType
  | advert
  | scanResponse
deriving DecidableEq

/-- `le_advertising_manager_data_packet_t`, with the octets of its buffers in one list. -/
structure DataPacket where
  dataMaxSize : Nat
  data : List UInt8
  fits : data.length ≤ dataMaxSize
deriving DecidableEq

namespace DataPacket

def create (maxSize : Nat) : DataPacket := ⟨maxSize, [], Nat.zero_le maxSize⟩

def addDataItem (packet : DataPacket) (item : DataItem) : Option (Bool × DataPacket) :=
  if packet.dataMaxSize - packet.data.length < item.size then some (false, packet)
  else do
    let octets ← item.octets
    if fits : (packet.data ++ octets).length ≤ packet.dataMaxSize then
      some (true, ⟨packet.dataMaxSize, packet.data ++ octets, fits⟩)
    else none

end DataPacket

/-- The packets of one interface, which are absent where the pointer is NULL. -/
structure Packets where
  advert : Option DataPacket
  scanResponse : Option DataPacket
deriving DecidableEq

namespace Packets

def get (packets : Packets) : PacketType → Option DataPacket
  | .advert => packets.advert
  | .scanResponse => packets.scanResponse

def put (packets : Packets) (type : PacketType) (packet : DataPacket) : Packets :=
  match type with
  | .advert => { packets with advert := some packet }
  | .scanResponse => { packets with scanResponse := some packet }

end Packets

/-- The two implementations of `le_advertising_manager_data_packet_if_t` -/
inductive Interface
  | legacy
  | extended
deriving DecidableEq

def maxAdDataSizeInOctets : Nat := 31

def maxExtAdDataSizeInOctets : Nat := 251

/-- `local_name` and its `data_params` -/
structure LocalName where
  item : DataItem
  params : DataParams
deriving DecidableEq

namespace LocalName

def reset (name : LocalName) : LocalName := { name with item := ⟨0, none⟩ }

def isRegistered (name : LocalName) : Bool := name.item.hasData

def dataIsMatched (name : LocalName) (item : DataItem) : Option Bool :=
  if item.size ≠ name.item.size then some false
  else do
    let octets ← item.octets
    let octets' ← name.item.octets
    some (decide (octets = octets'))

def register (name : LocalName) (item : DataItem) (params : DataParams) : Option LocalName :=
  if name.isRegistered then do
    let matched ← name.dataIsMatched item
    if matched then some name else none
  else some ⟨item, params⟩

def get (name : LocalName) (params : DataParams) : Option DataItem :=
  if name.isRegistered && decide (name.params = params) then some name.item else none

end LocalName

/-- What the processing of an item with UUIDs finds of the memory. -/
structure Memory where
  unset : UInt8
  allocated : Nat → Bool

/-- The static data of the build: the interfaces with their data sets, their packets,
and what was collected.  The items with UUIDs are counted as they are processed. -/
structure Manager where
  dataIf : List (Interface × DataSet)
  legacy : Packets
  extended : Packets
  lists : UuidLists
  localName : LocalName
  processed : Nat

namespace Manager

def packets (manager : Manager) : Interface → Packets
  | .legacy => manager.legacy
  | .extended => manager.extended

def setPackets (manager : Manager) (interface : Interface) (packets : Packets) : Manager :=
  match interface with
  | .legacy => { manager with legacy := packets }
  | .extended => { manager with extended := packets }

def getDataPacketFromSet (manager : Manager) (set : DataSet) : Option Interface :=
  (manager.dataIf.find? fun entry => entry.2 &&& set ≠ 0).map Prod.fst

def createNewDataPacket (manager : Manager) (interface : Interface) (type : PacketType) :
    Manager :=
  let packets := manager.packets interface
  match interface with
  | .legacy =>
      manager.setPackets interface (packets.put type (.create maxAdDataSizeInOctets))
  | .extended =>
      -- a packet that is still there is used again
      match packets.get type with
      | some _ => manager
      | none =>
          manager.setPackets interface (packets.put type (.create maxExtAdDataSizeInOctets))

def getSizeDataPacket (manager : Manager) (interface : Interface) (type : PacketType) : Nat :=
  match (manager.packets interface).get type with
  | some packet => packet.data.length
  | none => 0

def addItemToDataPacket (manager : Manager) (interface : Interface) (type : PacketType)
    (item : DataItem) : Option (Bool × Manager) := do
  let packet ← (manager.packets interface).get type
  let (added, packet) ← packet.addDataItem item
  some (added, manager.setPackets interface ((manager.packets interface).put type packet))

def placeItem (manager : Manager) (interface : Interface) (item : DataItem)
    (placement : Placement) : Option (Bool × Manager) :=
  match placement with
  | .advert => manager.addItemToDataPacket interface .advert item
  | .scanResponse => manager.addItemToDataPacket interface .scanResponse item
  | .dontCare => do
      let (added, manager) ← manager.addItemToDataPacket interface .advert item
      if added then some (true, manager)
      else manager.addItemToDataPacket interface .scanResponse item

def addDataItem (manager : Manager) (set : DataSet) (item : DataItem) (params : DataParams) :
    Option Manager := do
  let (added, manager) ←
    match manager.getDataPacketFromSet set with
    | some interface => manager.placeItem interface item params.placement
    | none => some (false, manager)
  -- an item that cannot be skipped has to be added
  if params.completeness ≠ .canBeSkipped ∧ ¬ added then none else some manager

def processDataItem (memory : Nat → Memory) (manager : Manager) (item : DataItem)
    (params : DataParams) : Option Manager :=
  if item.hasData then do
    let type ← item.type
    let found := memory manager.processed
    let offer : UuidList.Offer := ⟨item, params, found.unset, found.allocated⟩
    let next := manager.processed + 1
    if type = AdType.completeUuid16 then
      (manager.lists.uuid16 offer).map fun lists =>
        { manager with lists := lists, processed := next }
    else if type = AdType.completeUuid32 then
      (manager.lists.uuid32 offer).map fun lists =>
        { manager with lists := lists, processed := next }
    else if type = AdType.completeUuid128 then
      (manager.lists.uuid128 offer).map fun lists =>
        { manager with lists := lists, processed := next }
    else if type = AdType.completeLocalName then
      (manager.localName.register item params).map fun name =>
        { manager with localName := name }
    else some manager
  else some manager

def collectedTypes : List UInt8 :=
  [AdType.completeUuid16, AdType.completeUuid32, AdType.completeUuid128, AdType.completeLocalName]

def buildDataItem (manager : Manager) (set : DataSet) (item : DataItem) (params : DataParams) :
    Option Manager :=
  if item.hasData then do
    let type ← item.type
    if type ∈ collectedTypes then some manager else manager.addDataItem set item params
  else some manager

def processAllClientsData (memory : Nat → Memory) (clients : Database) (manager : Manager)
    (params : DataParams) : Option Manager :=
  clients.slots.foldlM (fun manager slot =>
    (itemsOf slot params).foldlM (fun manager item =>
      manager.processDataItem memory item params) manager) manager

def buildAllClientsData (clients : Database) (set : DataSet) (manager : Manager)
    (params : DataParams) : Option Manager :=
  clients.slots.foldlM (fun manager slot =>
    (itemsOf slot params).foldlM (fun manager item =>
      manager.buildDataItem set item params) manager) manager

def addCollected (manager : Manager) (set : DataSet) (item : Option DataItem)
    (params : DataParams) : Option Manager :=
  match item with
  | some item => manager.addDataItem set item params
  | none => some manager

def buildLocalNameData (manager : Manager) (set : DataSet) (params : DataParams) :
    Option Manager :=
  manager.addCollected set (manager.localName.get params) params

def buildUuidData (manager : Manager) (set : DataSet) (params : DataParams) :
    Option Manager := do
  let manager ← manager.addCollected set (manager.lists.uuid16List.getListAsItem params) params
  let manager ← manager.addCollected set (manager.lists.uuid32List.getListAsItem params) params
  manager.addCollected set (manager.lists.uuid128List.getListAsItem params) params

/-- The state from which the items are collected. -/
def begin (manager : Manager) (interface : Interface) : Manager :=
  let manager := manager.createNewDataPacket interface .advert
  let manager := manager.createNewDataPacket interface .scanResponse
  { manager with
    lists := manager.lists.uuidReset
    localName := manager.localName.reset }

def processData (memory : Nat → Memory) (clients : Database) (set : DataSet)
    (manager : Manager) : Option Manager :=
  (DataParams.allInSet set).foldlM (processAllClientsData memory clients) manager

def buildParams (clients : Database) (set : DataSet) (manager : Manager)
    (params : DataParams) : Option Manager := do
  let manager ← manager.buildAllClientsData clients set params
  let manager ← manager.buildLocalNameData set params
  manager.buildUuidData set params

def buildData (memory : Nat → Memory) (clients : Database) (set : DataSet)
    (manager : Manager) : Option (Bool × Manager) :=
  match manager.getDataPacketFromSet set with
  | none => some (false, manager)
  | some interface => do
      let manager ← processData memory clients set (manager.begin interface)
      let manager ← (DataParams.allInSet set).foldlM (buildParams clients set) manager
      some (decide (manager.getSizeDataPacket interface .advert ≠ 0 ∨
        manager.getSizeDataPacket interface .scanResponse ≠ 0), manager)

end Manager

end HeadsetAdk.LeAdvertising
