import HeadsetAdk.Handset.MultipointSm

/-!
# The handset service's state machine of a handset

What the machine asks the other parts of the program for while it handles a message is given with
the message.  `none` is a panic.
-/

namespace HeadsetAdk.Handset

open TaskLists

/-- A mask of `DEVICE_PROFILE_` bits. -/
abbrev Profiles := UInt32

/-- HFP, A2DP, AVRCP, HIDD and BTDBG. -/
def bredrProfiles : Profiles := 0x100F

/-- `hci_status`, as far as it matters who disconnected. -/
inductive HciStatus
  | connTermLocalHost
  | other (code : Nat)
deriving DecidableEq

inductive BleState
  | disconnected
  | connected
  | disconnecting
deriving DecidableEq

/-- `handset_service_internal_msg_t`, the messages of a machine to itself. -/
inductive Internal
  | connectReq (device : Option Bdaddr) (profiles : Profiles)
  | disconnectReq (exclude : Profiles)
  | connectAclComplete
  | connectStopReq (device : Option Bdaddr)
  | connectAclRetryReq
  | connectProfilesReq
deriving DecidableEq

namespace Internal

def isConnectReq : Internal → Bool
  | connectReq _ _ => true
  | _ => false

def isDisconnectReq : Internal → Bool
  | disconnectReq _ => true
  | _ => false

def isConnectStopReq : Internal → Bool
  | connectStopReq _ => true
  | _ => false

end Internal

/-- What clients ask of a machine and what it sends them. -/
inductive Entry
  | connectRequest (task : Task)
  | connectCfm (task : Task) (addr : Bdaddr) (status : Status)
  | disconnectRequest (task : Task)
  | disconnectCfm (task : Task) (addr : Bdaddr) (status : Status)
  | stopConnect (task : Task)
  | connectStopCfm (task : Task) (addr : Bdaddr) (status : Status)
deriving DecidableEq

/-- What a machine finds when it asks about its handset: the device database, the
connection manager, the profile manager and the configuration. -/
structure World where
  deviceIsValid : Bool
  devicePaired : Bool
  reconnecting : Bool
  connectedProfiles : Profiles
  supportedProfilesNotConnected : Profiles
  isConnected : Bool
  isAclLocal : Bool
  isTpConnected : Bool
  connectAccepted : Bool
  stopConnectAccepted : Bool
  disconnectAccepted : Bool
  aclConnectAttemptLimit : UInt8
  unlimitedAclReconnection : Bool

/-- `handset_service_state_machine_t`.  A device is known by its address, which is zero without
one.  Besides, there are the messages that the machine has sent to itself, whether the handset's
ACL was reported, and a log. -/
structure HandsetSm where
  state : HandsetState
  handsetDevice : Option Bdaddr
  profilesRequested : Profiles
  disconnectionProfilesExcluded : Profiles
  aclAttempts : UInt8
  connectList : List Task
  disconnectList : List Task
  connectStopTask : Option Task
  leState : BleState
  leAddr : Option Bdaddr
  queue : List Internal
  aclReported : Bool
  log : List Entry
deriving DecidableEq

/-- The static variables of handset_service_connectable.c -/
structure Connectable where
  allowBredr : Bool
  enabledBredr : Bool
deriving DecidableEq

def Connectable.enableBredr (connectable : Connectable) (enable : Bool) : Connectable :=
  if enable then
    if !connectable.enabledBredr && connectable.allowBredr then
      { connectable with enabledBredr := true }
    else connectable
  else
    if connectable.enabledBredr then { connectable with enabledBredr := false }
    else connectable

/-- What is around a machine that handles a message: what it finds, how many others have
their ACL connected, and how many may. -/
structure Context where
  world : World
  otherConnections : Nat
  maxConnections : Nat

namespace HandsetSm

variable (context : Context) (sm : HandsetSm)

/-- `sm->handset_addr` -/
def handsetAddr : Bdaddr := sm.handsetDevice.getD 0

def bdAddr : Bdaddr :=
  match sm.handsetDevice with
  | some addr => addr
  | none => sm.leAddr.getD 0

def deviceIfValid : Option Bdaddr :=
  if context.world.deviceIsValid then sm.handsetDevice else none

def connectedProfiles : Profiles :=
  if (sm.deviceIfValid context).isSome then context.world.connectedProfiles else 0

def requestedProfilesNotConnected : Profiles :=
  sm.profilesRequested &&& ~~~ sm.connectedProfiles context

def supportedProfilesNotConnected : Profiles :=
  if (sm.deviceIfValid context).isSome then context.world.supportedProfilesNotConnected else 0

def profileImpliesBrEdr (profiles : Profiles) : Bool := decide (profiles &&& bredrProfiles ≠ 0)

def aclConnected : Bool := sm.handsetDevice.isSome && context.world.isConnected

def isBredrAclConnected : Bool :=
  match sm.state with
  | .connectingBredrProfiles => true
  | .connectedBredr => true
  | .disconnectingBredr => true
  | _ => false

def areAllRequestedProfilesConnected : Bool :=
  sm.isBredrAclConnected && decide (sm.requestedProfilesNotConnected context = 0)

def bleIsConnected : Bool :=
  decide (sm.leState ≠ .disconnected) && sm.leAddr.isSome && context.world.isTpConnected

def allConnectionsDisconnected (bredrOnly : Bool) : Bool :=
  !sm.aclConnected context && decide (sm.connectedProfiles context = 0) &&
    (bredrOnly || !sm.bleIsConnected context)

def maxBredrAclConnectionsReached : Bool :=
  decide (context.maxConnections ≤
    context.otherConnections + if sm.isBredrAclConnected then 1 else 0)

/-- `handsetService_CheckHandsetCanConnect` for the machine's own handset. -/
def checkHandsetCanConnect : Bool :=
  !sm.maxBredrAclConnectionsReached context || sm.isBredrAclConnected

def cancelInternalConnectRequests : HandsetSm :=
  { sm with
    queue := sm.queue.filter fun message =>
      !message.isConnectReq && decide (message ≠ .connectAclRetryReq) }

def completeConnectRequests (status : Status) : HandsetSm :=
  { sm with
    log := Requests.sendAll (fun task => .connectCfm task sm.handsetAddr status)
      sm.connectList sm.log
    connectList := [] }.cancelInternalConnectRequests

def completeDisconnectRequests (status : Status) : HandsetSm :=
  { sm with
    log := Requests.sendAll (fun task => .disconnectCfm task sm.bdAddr status)
      sm.disconnectList sm.log
    disconnectList := []
    queue := sm.queue.filter fun message => !message.isDisconnectReq }

def completeConnectStopRequests (status : Status) : HandsetSm :=
  match sm.connectStopTask with
  | some task =>
      { sm with
        log := .connectStopCfm task sm.handsetAddr status :: sm.log
        connectStopTask := none }
  | none => sm

/-- A machine's memory before its first use. -/
def boot : HandsetSm :=
  { state := .null
    handsetDevice := none
    profilesRequested := 0
    disconnectionProfilesExcluded := 0
    aclAttempts := 0
    connectList := []
    disconnectList := []
    connectStopTask := none
    leState := .disconnected
    leAddr := none
    queue := []
    aclReported := false
    log := [] }

def init : HandsetSm :=
  { boot with
    queue := sm.queue
    log := sm.log }

def deInit : HandsetSm :=
  { sm with
    connectList := []
    disconnectList := []
    queue := []
    handsetDevice := none
    profilesRequested := 0
    state := .null
    leState := .disconnected
    leAddr := none
    aclReported := false }

/-- `HandsetService_BleSmSetState` to `HANDSET_SERVICE_STATE_BLE_DISCONNECTED` -/
def bleSetDisconnected : HandsetSm :=
  if sm.leState = .disconnected then sm
  else
    let left := { sm with leState := .disconnected }
    if left.allConnectionsDisconnected context false then
      { left.completeDisconnectRequests .success with leAddr := none }.deInit
    else { left with leAddr := none }

/-- `HandsetService_BleSmSetState` to `HANDSET_SERVICE_STATE_BLE_DISCONNECTING` -/
def bleSetDisconnecting : HandsetSm :=
  if sm.leState = .disconnecting then sm
  else
    let leaving := { sm with leState := .disconnecting }
    if sm.leAddr.isSome then leaving else leaving.bleSetDisconnected context

def bleDisconnectIfConnected : HandsetSm :=
  if sm.bleIsConnected context then sm.bleSetDisconnecting context else sm

def bleHandleConnected (addr : Bdaddr) : HandsetSm :=
  { sm with
    leAddr := some (sm.leAddr.getD addr)
    leState := .connected }

def connectAcl : HandsetSm :=
  { sm with
    queue := sm.queue ++ [.connectAclComplete]
    aclAttempts := sm.aclAttempts + 1 }

def cancelProfileConnectionTimeout : HandsetSm :=
  { sm with queue := sm.queue.erase .connectProfilesReq }

def startProfileConnectionTimeout : HandsetSm :=
  { sm with queue := sm.queue ++ [.connectProfilesReq] }

def restartProfileConnectionTimeout : HandsetSm :=
  if .connectProfilesReq ∈ sm.queue then
    sm.cancelProfileConnectionTimeout.startProfileConnectionTimeout
  else sm

def deleteDeviceIfNotPaired : HandsetSm :=
  if context.world.devicePaired then sm else { sm with handsetDevice := none }

def exitState (next : HandsetState) : HandsetSm :=
  match sm.state with
  | .disconnectingBredr =>
      if next = .disconnected then sm.bleDisconnectIfConnected context else sm
  | .connectingBredrAcl =>
      { sm with
        queue := sm.queue.filter fun message => decide (message ≠ .connectAclRetryReq)
        aclAttempts := 0 }
  | .connectingBredrProfiles => sm.cancelProfileConnectionTimeout
  | .stopConnectingBredrProfiles =>
      { sm with queue := sm.queue.eraseP Internal.isConnectStopReq }
  | _ => sm

end HandsetSm

/-- A machine that handles a message, with the static variables for scanning. -/
structure Handling where
  sm : HandsetSm
  connectable : Connectable
deriving DecidableEq

namespace Handling

variable (context : Context) (handling : Handling)

/-- `HandsetServiceSm_EnableConnectableIfMaxConnectionsNotActive` -/
def enableConnectable : Handling :=
  if handling.sm.maxBredrAclConnectionsReached context then handling
  else { handling with connectable := handling.connectable.enableBredr true }

/-- `HandsetServiceSm_DisableConnectableIfMaxConnectionsActive` -/
def disableConnectable : Handling :=
  if handling.sm.maxBredrAclConnectionsReached context then
    { handling with connectable := handling.connectable.enableBredr false }
  else handling

def enterDisconnected : Handling :=
  let all := handling.sm.allConnectionsDisconnected context false
  let sm := handling.sm.completeConnectStopRequests .disconnected
  let sm := sm.completeConnectRequests .failed
  let sm := if all then sm.completeDisconnectRequests .success else sm
  let sm := sm.deleteDeviceIfNotPaired context
  let handling := { handling with sm := sm }.enableConnectable context
  if all then { handling with sm := handling.sm.deInit } else handling

def enterConnectedBredr : Option Handling :=
  let device := handling.sm.deviceIfValid context
  let sm := handling.sm.completeConnectStopRequests .connected
  let sm := sm.completeConnectRequests .success
  let sm := sm.completeDisconnectRequests .failed
  -- the indication needs a device
  if device.isSome then some ({ handling with sm := sm }.disableConnectable context) else none

/-- The machine leaves its state for another one. -/
def changeState (next : HandsetState) : Option Handling :=
  if handling.sm.state = next then none
  else some { handling with
    sm := { handling.sm.exitState context next with state := next } }

/-- `HandsetServiceSm_SetState` to `HANDSET_SERVICE_STATE_DISCONNECTED`, not from
`HANDSET_SERVICE_STATE_NULL` -/
def setDisconnected : Option Handling :=
  (handling.changeState context .disconnected).map (enterDisconnected context)

/-- `HandsetServiceSm_SetState` to `HANDSET_SERVICE_STATE_CONNECTED_BREDR` -/
def setConnectedBredr : Option Handling :=
  (handling.changeState context .connectedBredr).bind (enterConnectedBredr context)

/-- `HandsetServiceSm_SetState` to `HANDSET_SERVICE_STATE_CONNECTING_BREDR_ACL` -/
def setConnectingBredrAcl : Option Handling :=
  (handling.changeState context .connectingBredrAcl).map fun handling =>
    { handling with sm := handling.sm.connectAcl }

def connectRequestedProfiles : Option Handling :=
  if (handling.sm.deviceIfValid context).isSome then
    if handling.sm.areAllRequestedProfilesConnected context then
      handling.setConnectedBredr context
    else if context.world.connectAccepted then some handling else none
  else some handling

def startProfiles : Option Handling :=
  let requested := handling.sm.requestedProfilesNotConnected context
  let asking := { handling with sm := { handling.sm with profilesRequested := requested } }
  if context.world.isAclLocal then asking.connectRequestedProfiles context
  else
    let sm := asking.sm.cancelProfileConnectionTimeout.startProfileConnectionTimeout
    if requested = 0 then
      some { asking with
        sm := { sm with profilesRequested := sm.supportedProfilesNotConnected context } }
    else some { asking with sm := sm }

def enterConnectingBredrProfiles : Option Handling :=
  (handling.startProfiles context).map (disableConnectable context)

/-- `HandsetServiceSm_SetState` to `HANDSET_SERVICE_STATE_CONNECTING_BREDR_PROFILES` -/
def setConnectingBredrProfiles : Option Handling :=
  (handling.changeState context .connectingBredrProfiles).bind
    (enterConnectingBredrProfiles context)

def enterStopConnectingBredrProfiles : Option Handling :=
  let valid := (handling.sm.deviceIfValid context).isSome
  if valid && context.world.stopConnectAccepted then some handling
  else if valid && handling.sm.aclConnected context then handling.setConnectedBredr context
  else handling.setDisconnected context

/-- `HandsetServiceSm_SetState` to `HANDSET_SERVICE_STATE_STOP_CONNECTING_BREDR_PROFILES` -/
def setStopConnectingBredrProfiles : Option Handling :=
  (handling.changeState context .stopConnectingBredrProfiles).bind
    (enterStopConnectingBredrProfiles context)

def tryDisconnectingBredr : Option Handling :=
  let profiles := handling.sm.profilesRequested ||| handling.sm.connectedProfiles context
  let toDisconnect := profiles &&& ~~~ handling.sm.disconnectionProfilesExcluded
  if (handling.sm.deviceIfValid context).isSome then
    if profiles ≠ 0 then
      if toDisconnect ≠ 0 then
        if context.world.disconnectAccepted then
          some { handling with
            sm := { handling.sm with
              profilesRequested := handling.sm.profilesRequested &&& ~~~ toDisconnect } }
        else none
      else
        { handling with
          sm := { handling.sm with
            disconnectionProfilesExcluded := 0 }.completeDisconnectRequests .success
          }.setConnectedBredr context
    else
      let handling := { handling with
        sm := { handling.sm with disconnectionProfilesExcluded := 0 } }
      -- the ACL is asked to be closed
      if handling.sm.aclConnected context then some handling
      else handling.setDisconnected context
  else handling.setDisconnected context

/-- `HandsetServiceSm_SetState` to `HANDSET_SERVICE_STATE_DISCONNECTING_BREDR` -/
def setDisconnectingBredr : Option Handling :=
  (handling.changeState context .disconnectingBredr).bind (tryDisconnectingBredr context)

end Handling

end HeadsetAdk.Handset
