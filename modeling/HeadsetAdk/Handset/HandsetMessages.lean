import HeadsetAdk.Handset.HandsetSm

/-!
# The messages of the handset service

Messages and requests are for one machine, or for none; which one the search finds is given with the
event.  What kicking the multipoint machine asks of the service are further events.
-/

namespace HeadsetAdk.Handset

open TaskLists

namespace Handling

variable (context : Context) (handling : Handling)

def beginConnecting (profiles : Profiles) : Option Handling :=
  let asking := { handling with sm := { handling.sm with profilesRequested := profiles } }
  if context.world.isConnected then
    if profiles ≠ 0 then asking.setConnectingBredrProfiles context
    else asking.setConnectedBredr context
  else asking.setConnectingBredrAcl context

def handleInternalConnectReq (device : Option Bdaddr) (profiles : Profiles) : Option Handling :=
  if handling.sm.deviceIfValid context ≠ device then none
  else
    match handling.sm.state with
    | .disconnected => handling.beginConnecting context profiles
    | .disconnectingBredr => handling.beginConnecting context profiles
    | .connectedBredr =>
        let connected := handling.sm.connectedProfiles context
        if connected &&& profiles ≠ profiles then
          { handling with
            sm := { handling.sm with
              profilesRequested :=
                handling.sm.profilesRequested ||| (profiles &&& ~~~ connected) }
            }.setConnectingBredrProfiles context
        else some { handling with sm := handling.sm.completeConnectRequests .success }
    | _ => some handling

/-- The part of `handsetServiceSm_HandleInternalDisconnectReq` for BR/EDR. -/
def disconnectBredr (exclude : Profiles) : Option Handling :=
  let excluding := { handling with
    sm := { handling.sm with disconnectionProfilesExcluded := exclude } }
  match handling.sm.state with
  | .disconnected =>
      if handling.sm.bleIsConnected context then some handling
      else some { handling with sm := handling.sm.completeDisconnectRequests .success }
  | .connectingBredrAcl => handling.setDisconnected context
  | .stopConnectingBredrProfiles => excluding.setDisconnectingBredr context
  | .connectingBredrProfiles => excluding.setDisconnectingBredr context
  | .connectedBredr =>
      if handling.sm.allConnectionsDisconnected context true then
        handling.setDisconnected context
      else excluding.setDisconnectingBredr context
  | _ => some handling

def handleInternalDisconnectReq (exclude : Profiles) : Option Handling :=
  (handling.disconnectBredr context exclude).map fun handling =>
    { handling with sm := handling.sm.bleDisconnectIfConnected context }

def handleInternalConnectAclComplete : Option Handling :=
  if handling.sm.state = .connectingBredrAcl then
    if (handling.sm.deviceIfValid context).isSome then
      if handling.sm.checkHandsetCanConnect context then
        if context.world.isConnected then
          if handling.sm.profilesRequested ≠ 0 then
            -- the handset has just connected and cannot have profile connections
            handling.setConnectingBredrProfiles
              { context with world := { context.world with connectedProfiles := 0 } }
          else handling.setConnectedBredr context
        else if handling.sm.aclAttempts < context.world.aclConnectAttemptLimit ∨
            (context.world.reconnecting = true ∧
              context.world.unlimitedAclReconnection = true) then
          some { handling with
            sm := { handling.sm with queue := handling.sm.queue ++ [.connectAclRetryReq] } }
        else handling.setDisconnected context
      else handling.setDisconnected context
    else handling.setDisconnected context
  else some handling

def handleInternalConnectStop (device : Option Bdaddr) : Option Handling :=
  if handling.sm.deviceIfValid context ≠ device then none
  else
    match handling.sm.state with
    | .connectingBredrAcl => handling.setDisconnected context
    | .connectingBredrProfiles => handling.setStopConnectingBredrProfiles context
    | .disconnected =>
        some { handling with sm := handling.sm.completeConnectStopRequests .connected }
    | .connectedBredr =>
        some { handling with sm := handling.sm.completeConnectStopRequests .connected }
    | _ => some handling

def handleInternalConnectAclRetryReq : Handling :=
  if handling.sm.state = .connectingBredrAcl then
    { handling with sm := handling.sm.connectAcl }
  else handling

def handleInternalConnectProfilesReq : Option Handling :=
  if handling.sm.state = .connectingBredrProfiles then
    if context.world.devicePaired then handling.connectRequestedProfiles context
    else some { handling with sm := handling.sm.startProfileConnectionTimeout }
  else some handling

def taken (message : Internal) : Handling :=
  { handling with sm := { handling.sm with queue := handling.sm.queue.erase message } }

/-- The machine takes a message that it has sent to itself. -/
def handleInternal (message : Internal) : Option Handling :=
  if message ∈ handling.sm.queue then
    let taken := handling.taken message
    match message with
    | .connectReq device profiles => taken.handleInternalConnectReq context device profiles
    | .disconnectReq exclude => taken.handleInternalDisconnectReq context exclude
    | .connectAclComplete => taken.handleInternalConnectAclComplete context
    | .connectStopReq device => taken.handleInternalConnectStop context device
    | .connectAclRetryReq => some taken.handleInternalConnectAclRetryReq
    | .connectProfilesReq => taken.handleInternalConnectProfilesReq context
  else none

def leaveIfDisconnected : Option Handling :=
  if handling.sm.allConnectionsDisconnected context true then handling.setDisconnected context
  else some handling

def settleProfiles (success : Bool) : Option Handling :=
  if success = true ∨
      HandsetSm.profileImpliesBrEdr (handling.sm.connectedProfiles context) = true then
    handling.setConnectedBredr context
  else if handling.sm.allConnectionsDisconnected context true then
    handling.setDisconnected context
  else handling.setConnectedBredr context

/-- The switch of `handsetServiceSm_HandleProfileManagerConnectCfm` -/
def endConnect (success : Bool) : Option Handling :=
  match handling.sm.state with
  | .stopConnectingBredrProfiles => handling.settleProfiles context success
  | .connectingBredrProfiles => handling.settleProfiles context success
  | .disconnectingBredr => handling.leaveIfDisconnected context
  | _ => some handling

def handleProfileManagerConnectCfm (success : Bool) : Option Handling :=
  (handling.endConnect context success).map fun handling =>
    { handling with sm := { handling.sm with profilesRequested := 0 } }

def handleProfileManagerDisconnectCfm (success : Bool) : Option Handling :=
  if handling.sm.state = .disconnectingBredr ∧ success = true then
    handling.tryDisconnectingBredr context
  else some handling

def profileConnected (profile : Profiles) : Option Handling :=
  (if handling.sm.areAllRequestedProfilesConnected context then
    handling.setConnectedBredr context
  else some { handling with sm := handling.sm.restartProfileConnectionTimeout }).map
    fun handling =>
      { handling with
        sm := { handling.sm with
          profilesRequested := handling.sm.profilesRequested &&& ~~~ profile } }

def handleProfileManagerConnectedInd (device : Bdaddr) (profile : Profiles) : Option Handling :=
  if handling.sm.deviceIfValid context ≠ some device then none
  else
    match handling.sm.state with
    | .disconnected =>
        if HandsetSm.profileImpliesBrEdr profile then handling.setConnectedBredr context
        else some handling
    | .connectingBredrProfiles => handling.profileConnected context profile
    | .stopConnectingBredrProfiles => handling.profileConnected context profile
    | _ => some handling

def handleProfileManagerDisconnectedInd (device : Bdaddr) : Option Handling :=
  if handling.sm.deviceIfValid context ≠ some device then none
  else
    match handling.sm.state with
    | .connectingBredrAcl => handling.leaveIfDisconnected context
    | .connectingBredrProfiles => handling.leaveIfDisconnected context
    | .stopConnectingBredrProfiles => handling.leaveIfDisconnected context
    | .connectedBredr => handling.leaveIfDisconnected context
    | _ => some handling

def handleConManagerBredrTpConnectInd (device : Bdaddr) : Option Handling :=
  if handling.sm.handsetAddr ≠ device then none
  else
    match handling.sm.state with
    | .disconnected => handling.setConnectingBredrProfiles context
    | .connectingBredrAcl =>
        -- a retry would not be needed any more, and nothing else would complete
        if .connectAclRetryReq ∈ handling.sm.queue then
          some { handling with
            sm := { handling.sm with
              queue := handling.sm.queue.erase .connectAclRetryReq ++ [.connectAclComplete] } }
        else some handling
    | _ => some handling

def handleConManagerBredrTpDisconnectInd (device : Bdaddr) (reason : HciStatus) :
    Option Handling :=
  if (handling.sm.deviceIfValid context).isNone then some handling
  else if handling.sm.handsetAddr ≠ device then none
  else if handling.sm.allConnectionsDisconnected context true ||
      decide (reason = .connTermLocalHost) then
    match handling.sm.state with
    | .connectingBredrProfiles => handling.setStopConnectingBredrProfiles context
    | .connectingBredrAcl => handling.setDisconnected context
    | .connectedBredr => handling.setDisconnected context
    | .disconnectingBredr =>
        handling.setDisconnected
          { context with world := { context.world with connectedProfiles := 0 } }
    | _ => some handling
  else some handling

end Handling

namespace HandsetSm

variable (sm : HandsetSm)

/-- `HandsetServiceSm_SetDevice` where there is no device yet. -/
def setDeviceIfNone (device : Option Bdaddr) : HandsetSm :=
  if sm.handsetDevice.isSome then sm else { sm with handsetDevice := device }

/-- The machine's part of `handsetService_ConnectReq` -/
def connectReq (task : Task) (device : Option Bdaddr) (profiles : Profiles) :
    Option HandsetSm :=
  let asked := { sm with log := .connectRequest task :: sm.log }
  let ready := (asked.setDeviceIfNone device).completeDisconnectRequests .cancelled
  (addTask ready.connectList task).map fun connectList =>
    { ready with
      queue := ready.queue ++ [.connectReq ready.handsetDevice profiles]
      connectList := connectList }

/-- The machine's part of `HandsetService_DisconnectTpAddrRequest` -/
def disconnectReq (task : Task) (exclude : Profiles) : Option HandsetSm :=
  let asked := { sm with log := .disconnectRequest task :: sm.log }
  let ready := asked.completeConnectRequests .cancelled
  (addTask ready.disconnectList task).map fun disconnectList =>
    { ready with
      queue := ready.queue ++ [.disconnectReq exclude]
      disconnectList := disconnectList }

/-- The machine's part of `HandsetService_StopConnect` -/
def stopConnect (task : Task) : Option HandsetSm :=
  let asked := { sm with log := .stopConnect task :: sm.log }
  let sent : HandsetSm :=
    { asked with
      queue := asked.queue ++ [.connectStopReq asked.handsetDevice]
      connectStopTask := some task }
  -- another client's request stays alone
  if sm.connectStopTask.isSome ∧ sm.connectStopTask ≠ some task then none
  else some sent.cancelInternalConnectRequests

end HandsetSm

/-- A message to a machine that exists, or a request to it. -/
inductive Input
  | connectReq (task : Task) (device : Option Bdaddr) (profiles : Profiles)
  | disconnectReq (task : Task) (exclude : Profiles)
  | stopConnect (task : Task)
  | internal (message : Internal)
  | connectProfilesCfm (success : Bool)
  | disconnectProfilesCfm (success : Bool)
  | connectedProfileInd (device : Bdaddr) (profile : Profiles)
  | disconnectedProfileInd (device : Bdaddr)
  | tpConnectInd (device : Bdaddr)
  | tpDisconnectInd (device : Bdaddr) (reason : HciStatus)
  | bleTpConnectInd (device : Option Bdaddr) (addr : Bdaddr)
  | bleTpDisconnectInd
  | pairingSuccess (device : Bdaddr)
deriving DecidableEq

/-- `handsetService_HandleConManagerTpConnectInd` for a machine: the device is set where the
one there is not valid. -/
def Handling.tpConnectInd (context : Context) (handling : Handling) (device : Bdaddr) :
    Option Handling :=
  let known := if (handling.sm.deviceIfValid context).isSome then handling
    else { handling with sm := { handling.sm with handsetDevice := some device } }
  -- a handset that has just connected cannot have profile connections
  known.handleConManagerBredrTpConnectInd
    { context with
      world := { context.world with
        deviceIsValid := true
        connectedProfiles := 0 } } device

/-- What the machine does with it. -/
def Handling.handle (context : Context) (handling : Handling) : Input → Option Handling
  | .connectReq task device profiles =>
      (handling.sm.connectReq task device profiles).map fun sm => { handling with sm := sm }
  | .disconnectReq task exclude =>
      (handling.sm.disconnectReq task exclude).map fun sm => { handling with sm := sm }
  | .stopConnect task =>
      (handling.sm.stopConnect task).map fun sm => { handling with sm := sm }
  | .internal message => handling.handleInternal context message
  | .connectProfilesCfm success => handling.handleProfileManagerConnectCfm context success
  | .disconnectProfilesCfm success =>
      handling.handleProfileManagerDisconnectCfm context success
  | .connectedProfileInd device profile =>
      { handling with
        sm := handling.sm.setDeviceIfNone (some device) }.handleProfileManagerConnectedInd
        context device profile
  | .disconnectedProfileInd device =>
      handling.handleProfileManagerDisconnectedInd context device
  | .tpConnectInd device => handling.tpConnectInd context device
  | .tpDisconnectInd device reason =>
      handling.handleConManagerBredrTpDisconnectInd context device reason
  | .bleTpConnectInd device addr =>
      some { handling with
        sm := (handling.sm.setDeviceIfNone device).bleHandleConnected addr }
  | .bleTpDisconnectInd =>
      some { handling with sm := handling.sm.bleSetDisconnected context }
  | .pairingSuccess device =>
      some { handling with sm := handling.sm.setDeviceIfNone (some device) }

namespace Input

/-- The confirmations of the profile manager and the machine's own messages come to its task,
whatever its state.  For anything else a machine in use is searched. -/
def isToTask : Input → Bool
  | internal _ => true
  | connectProfilesCfm _ => true
  | disconnectProfilesCfm _ => true
  | _ => false

def bringsAcl : Input → Bool
  | tpConnectInd _ => true
  | connectedProfileInd _ profile => HandsetSm.profileImpliesBrEdr profile
  | _ => false

def isAclComplete : Input → Bool
  | internal message => decide (message = .connectAclComplete)
  | _ => false

def isTpDisconnectInd : Input → Bool
  | tpDisconnectInd _ _ => true
  | _ => false

end Input

def HandsetSm.aclUp (world : World) (sm : HandsetSm) (input : Input) : Bool :=
  world.isConnected && !input.isTpDisconnectInd &&
    (input.bringsAcl ||
      (sm.handsetDevice.isSome && (sm.aclReported || input.isAclComplete)))

/-- A machine taken into use. -/
def HandsetSm.created (sm : HandsetSm) (device leAddr : Option Bdaddr) : HandsetSm :=
  { sm.init with
    handsetDevice := device
    leAddr := leAddr
    state := .disconnected }

/-- The handset service with its machines.  The log is for requests that no machine gets. -/
structure Service where
  machines : List HandsetSm
  connectable : Connectable
  maxConnections : Nat
  log : List Entry

namespace Service

variable (service : Service)

def bredrAclConnectionCount : Nat := service.machines.countP HandsetSm.isBredrAclConnected

def others (slot : Nat) : List HandsetSm :=
  service.machines.take slot ++ service.machines.drop (slot + 1)

def contextOf (slot : Nat) (world : World) : Context :=
  { world := world
    otherConnections := (service.others slot).countP HandsetSm.isBredrAclConnected
    maxConnections := service.maxConnections }

def maxBredrAclConnectionsReached : Bool :=
  decide (service.maxConnections ≤ service.bredrAclConnectionCount)

def handleAt (slot : Nat) (world : World) (input : Input) : Option Service := do
  let sm ← service.machines[slot]?
  if sm.state = .null ∧ input.isToTask = false then none
  else
    let noted := { sm with aclReported := sm.aclUp world input }
    let done ← Handling.handle (service.contextOf slot world) ⟨noted, service.connectable⟩ input
    some { service with
      machines := service.machines.set slot done.sm
      connectable := done.connectable }

def freeSlot : Option Nat :=
  service.machines.findIdx? fun sm => decide (sm.state = .null)

/-- `handsetService_CreateSm`, or `handsetService_CreateLeSm` with the LE address. -/
def createSm (slot : Nat) (device leAddr : Option Bdaddr) : Service :=
  { service with
    machines := service.machines.modify slot fun sm => sm.created device leAddr }

def createFor (device leAddr : Option Bdaddr) (world : World) (input : Input) :
    Option Service := do
  let slot ← service.freeSlot
  (service.createSm slot device leAddr).handleAt slot world input

def answerAtOnce (request answer : Entry) : Service :=
  { service with log := answer :: request :: service.log }

def connectReq (found : Option Nat) (task : Task) (addr : Bdaddr) (device : Option Bdaddr)
    (profiles : Profiles) (world : World) : Option Service :=
  let input := Input.connectReq task device profiles
  match found with
  | some slot => service.handleAt slot world input
  | none =>
      if service.maxBredrAclConnectionsReached = false ∧ service.freeSlot.isSome then
        service.createFor device none world input
      else some (service.answerAtOnce (.connectRequest task) (.connectCfm task addr .failed))

/-- `HandsetService_DisconnectTpAddrRequest` -/
def disconnectReq (found : Option Nat) (task : Task) (addr : Bdaddr) (exclude : Profiles)
    (world : World) : Option Service :=
  match found with
  | some slot => service.handleAt slot world (.disconnectReq task exclude)
  | none =>
      some (service.answerAtOnce (.disconnectRequest task) (.disconnectCfm task addr .success))

def stopConnect (found : Option Nat) (task : Task) (addr : Bdaddr) (world : World) :
    Option Service :=
  match found with
  | some slot => service.handleAt slot world (.stopConnect task)
  | none =>
      some (service.answerAtOnce (.stopConnect task) (.connectStopCfm task addr .disconnected))

/-- `handsetService_HandleConManagerTpConnectInd` for BR/EDR -/
def tpConnectInd (found : Option Nat) (device : Bdaddr) (world : World) : Option Service :=
  match found with
  | some slot => service.handleAt slot world (.tpConnectInd device)
  | none =>
      if service.maxBredrAclConnectionsReached = false ∧ service.freeSlot.isSome then
        service.createFor (some device) none world (.tpConnectInd device)
      else some service

/-- `handsetService_HandleProfileManagerConnectedInd` -/
def connectedProfileInd (found : Option Nat) (device : Bdaddr) (profile : Profiles)
    (world : World) : Option Service :=
  let input := Input.connectedProfileInd device profile
  match found with
  | some slot => service.handleAt slot world input
  | none => service.createFor (some device) none world input

/-- `handsetService_HandleConManagerTpConnectInd` for BLE -/
def bleTpConnectInd (found : Option Nat) (device : Option Bdaddr) (addr : Bdaddr)
    (world : World) : Option Service :=
  let input := Input.bleTpConnectInd device addr
  match found with
  | some slot => service.handleAt slot world input
  | none => service.createFor none (some addr) world input

def connectableRequest : Service :=
  let allowed := { service.connectable with allowBredr := true }
  { service with
    connectable := if service.maxBredrAclConnectionsReached then allowed
      else allowed.enableBredr true }

def cancelConnectableRequest : Service :=
  { service with
    connectable := { service.connectable.enableBredr false with allowBredr := false } }

end Service

/-- What happens to the service. -/
inductive Event
  | connectReq (found : Option Nat) (task : Task) (addr : Bdaddr) (device : Option Bdaddr)
      (profiles : Profiles) (world : World)
  | disconnectReq (found : Option Nat) (task : Task) (addr : Bdaddr) (exclude : Profiles)
      (world : World)
  | stopConnect (found : Option Nat) (task : Task) (addr : Bdaddr) (world : World)
  | tpConnectInd (found : Option Nat) (device : Bdaddr) (world : World)
  | connectedProfileInd (found : Option Nat) (device : Bdaddr) (profile : Profiles)
      (world : World)
  | bleTpConnectInd (found : Option Nat) (device : Option Bdaddr) (addr : Bdaddr)
      (world : World)
  | toMachine (slot : Nat) (world : World) (input : Input)
  | connectableRequest
  | cancelConnectableRequest
  | configure (maxConnections : Nat)

def Event.handled : Event → Option (Nat × World × Input)
  | .connectReq (some slot) task _ device profiles world =>
      some (slot, world, .connectReq task device profiles)
  | .disconnectReq (some slot) task _ exclude world =>
      some (slot, world, .disconnectReq task exclude)
  | .stopConnect (some slot) task _ world => some (slot, world, .stopConnect task)
  | .tpConnectInd (some slot) device world => some (slot, world, .tpConnectInd device)
  | .connectedProfileInd (some slot) device profile world =>
      some (slot, world, .connectedProfileInd device profile)
  | .bleTpConnectInd (some slot) device addr world =>
      some (slot, world, .bleTpConnectInd device addr)
  | .toMachine slot world input => some (slot, world, input)
  | _ => none

/-- One event; there is no next state after a panic. -/
def Service.step (service : Service) : Event → Option Service
  | .connectReq found task addr device profiles world =>
      service.connectReq found task addr device profiles world
  | .disconnectReq found task addr exclude world =>
      service.disconnectReq found task addr exclude world
  | .stopConnect found task addr world => service.stopConnect found task addr world
  | .tpConnectInd found device world => service.tpConnectInd found device world
  | .connectedProfileInd found device profile world =>
      service.connectedProfileInd found device profile world
  | .bleTpConnectInd found device addr world =>
      service.bleTpConnectInd found device addr world
  | .toMachine slot world input => service.handleAt slot world input
  | .connectableRequest => some service.connectableRequest
  | .cancelConnectableRequest => some service.cancelConnectableRequest
  | .configure maxConnections => some { service with maxConnections := maxConnections }

def Service.start (count maxConnections : Nat) : Service :=
  { machines := List.replicate count HandsetSm.boot
    connectable := ⟨false, false⟩
    maxConnections := maxConnections
    log := [] }

end HeadsetAdk.Handset
