import HeadsetAdk.PeerFindRole.StateMachine

/-!
# The handlers of the peer find role service

Every event is one step: a call of the interface, a message of another component, or one that waits
in its own queue, in any order but for the conditions.
-/

namespace HeadsetAdk.PeerFindRole

open ConManager (TypedBdaddr)

inductive SecurityStatus
  | success
  | fail
  | pairingInProgress
  deriving DecidableEq

/-- What the service sees -/
inductive Event
  /-- `PeerFindRole_FindRole` -/
  | findRole (highSpeedTimeMs : Int)
  /-- `PeerFindRole_FindRoleCancel` -/
  | findRoleCancel
  /-- `PeerFindRole_DisableScanning` -/
  | disableScanning (disable : Bool)
  /-- `PeerFindRole_RegisterPrepareClient` -/
  | registerPrepareClient (task : Task)
  /-- `PeerFindRole_UnregisterPrepareClient` -/
  | unregisterPrepareClient (task : Task)
  /-- `PeerFindRole_PrepareResponse` -/
  | prepareResponse (task : Task)
  /-- `PeerFindRole_OverrideScore` -/
  | overrideScore (score : UInt16)
  /-- `CL_SM_ENCRYPTION_CHANGE_IND` of a device that is the peer, or is not -/
  | encryptionChange (isPeer encrypted : Bool)
  /-- `peer_find_role_GattConnect`, with the address of the connection, if it is still there,
  and whether it is an LE address of the peer -/
  | gattConnect (cid : Nat) (found : Option (TypedBdaddr × Bool))
  /-- `LE_SCAN_MANAGER_START_CFM` -/
  | scanStartCfm (status : ScanResult)
  /-- `LE_SCAN_MANAGER_STOP_CFM` -/
  | scanStopCfm (status : ScanResult)
  /-- `GATT_ROLE_SELECTION_SERVER_CHANGE_ROLE_IND` -/
  | changeRoleInd (command : Opcode)
  /-- `GATT_ROLE_SELECTION_CLIENT_COMMAND_CFM` -/
  | commandCfm (success : Bool)
  /-- `GATT_ROLE_SELECTION_CLIENT_FIGURE_OF_MERIT_IND` -/
  | figureOfMeritInd (merit : UInt16)
  /-- `LE_ADV_MGR_SELECT_DATASET_CFM` -/
  | selectDatasetCfm (success : Bool)
  /-- `LE_ADV_MGR_RELEASE_DATASET_CFM` -/
  | releaseDatasetCfm
  /-- `LE_SCAN_MANAGER_ADV_REPORT_IND`, and whether the permanent address is the peer's -/
  | advReportInd (current : TypedBdaddr) (isPeer : Bool)
  /-- `CL_DM_BLE_SECURITY_CFM` -/
  | bleSecurityCfm (status : SecurityStatus)
  /-- `CON_MANAGER_TP_CONNECT_IND` of an LE link, and whether it is with the peer -/
  | tpConnectInd (taddr : TypedBdaddr) (incoming isPeer : Bool)
  /-- `CON_MANAGER_CONNECTION_IND` -/
  | connectionInd (addr : Nat) (ble connected : Bool)
  /-- A telephony event for an active call, or one for none -/
  | telephonyEvent (active : Bool)
  /-- An event of AV for active streaming, or one for none -/
  | streamingEvent (active : Bool)
  /-- One of the queued messages -/
  | deliver (message : Message)
  deriving DecidableEq

namespace Service

variable (s : Service)

def findRole (highSpeedTimeMs : Int) : Except Panic Service :=
  if s.state = .initialised then
    let signed : Service :=
      if highSpeedTimeMs < 0 then { s with timeoutMeansTimeout := true } else s
    ({ signed with roleTimeoutMs := highSpeedTimeMs.natAbs }.note .started).setCheckingPeer
  else .ok s

def findRoleCancel : Service := s.cancelInitialTimeout.send .cancelFindRole

def prepareResponse (task : Task) : Service :=
  if s.pendingPrepareTasks = [] then s
  else
    let answered : Service :=
      { s with pendingPrepareTasks := s.pendingPrepareTasks.erase task }
    if answered.pendingPrepareTasks = [] then
      if s.state = .serverPreparing ∨ s.state = .clientPreparing then answered.send .prepared
      else answered
    else answered

def registerPrepareClient (task : Task) : Service :=
  if task ∈ s.prepareTasks then s
  else { s with prepareTasks := s.prepareTasks ++ [task] }

def unregisterPrepareClient (task : Task) : Service :=
  let removed : Service := { s with prepareTasks := s.prepareTasks.erase task }
  if task ∈ s.pendingPrepareTasks then removed.prepareResponse task else removed

def handleEncryptionChange (isPeer encrypted : Bool) : Except Panic Service :=
  if isPeer then
    let changed : Service := { s with gattEncrypted := encrypted }
    if encrypted && changed.state == .clientAwaitingEncryption then changed.setClientPreparing
    else .ok changed
  else .ok s

def gattConnect (cid : Nat) (found : Option (TypedBdaddr × Bool)) : Except Panic Service :=
  match s.state, found with
  | .discoverConnectable, some (taddr, isPeer) | .discoveredDevice, some (taddr, isPeer)
  | .connectingToDiscovered, some (taddr, isPeer) =>
      if isPeer then do
        let entered ← { s with gattCid := some cid }.setClient
        return { entered with peerConnection := taddr }
      else s.setDiscover
  | .serverAwaitingEncryption, some (taddr, isPeer) | .server, some (taddr, isPeer) =>
      if isPeer then
        .ok { s with gattCid := some cid, peerConnection := taddr }.resetServerScore
      else .ok s
  | _, _ => .ok s

def handleConManagerConnection (taddr : TypedBdaddr) (incoming isPeer : Bool) :
    Except Panic Service :=
  let stored : Service := if isPeer then { s with peerConnection := taddr } else s
  if stored.state = .connectingToDiscovered ∧ incoming = false then
    stored.setServerAwaitingEncryption
  else .ok stored

def connectDisconnectHandler : Except Panic Service :=
  match s.state with
  | .discoverConnectable | .client | .clientAwaitingEncryption | .clientPreparing | .server
  | .serverPreparing | .serverAwaitingEncryption | .clientDeciding | .clientAwaitingConfirm
  | .connectingToDiscovered => s.setDiscover
  | .initialised =>
      .ok (if s.timeoutMeansTimeout then s.notifyTimeout else s.notifyClientsIfPending)
  | .serverAwaitingCompletion => { s with gattCid := none }.setCompleted
  | .completed => { s with gattCid := none }.selectStateAfterCompletion
  | _ => .ok s

def handleConnectionInd (addr : Nat) (ble connected : Bool) : Except Panic Service :=
  if ble && !connected then
    let down : Service := s.note (.linkDown addr)
    if addr = s.peerConnection.addr then down.connectDisconnectHandler else .ok down
  else .ok s

def handleBleSecurity (status : SecurityStatus) : Except Panic Service :=
  if s.state = .serverAwaitingEncryption then
    match status with
    | .success => s.setServerPreparing
    | .fail => s.setDiscover
    | .pairingInProgress => .ok s
  else .ok s

def handleAdvReportInd (current : TypedBdaddr) (isPeer : Bool) : Except Panic Service :=
  if (s.state = .discover ∨ s.state = .discoverConnectable) ∧ isPeer = true then
    { s with peerConnection := current }.setDiscoveredDevice
  else .ok s

def handleChangeRoleInd (command : Opcode) : Except Panic Service :=
  if s.selectedRole = none then
    s.completed (if command = .becomePrimary then .primary else .secondary)
  else .ok s

def handleCommandCfm (success : Bool) : Except Panic Service :=
  if success = true ∧ s.state = .clientAwaitingConfirm then
    s.completed (if s.remoteRole = .becomeSecondary then .primary else .secondary)
  else .ok s

def handleFigureOfMerit (merit : UInt16) : Except Panic Service :=
  let scored : Service := { s with peerScore := merit }
  if scored.state = .clientDeciding then scored.decideRoles else .ok scored

def handleEnableScanning : Service :=
  if s.isTaskScanning then s.asked
  else if s.state = .discover ∨ s.state = .discoverConnectable then
    s.asked.startScanningIfInactive
  else s.asked

def handleInitialTimeout : Except Panic Service :=
  if s.timeoutMeansTimeout then s.setInitialised
  else .ok { s with roleTimeoutMs := 0 }.notifyTimeout

def handlePrepared : Except Panic Service :=
  match s.state with
  | .serverPreparing => s.setServer
  | .clientPreparing => s.setClientDeciding
  | _ => .ok s

def handleServerRoleSelectedTimeout : Service :=
  if s.state = .server then s.disconnectLink.1 else s

def handleTimeoutNoFomReceived : Except Panic Service :=
  if s.state = .clientDeciding ∧ s.answers.notifies = false then .error .failedCheck else .ok s

def handleDisconnectTimeout : Except Panic Service :=
  if s.state = .serverAwaitingCompletion then { s with gattCid := none }.setCompleted else .ok s

/-- What `peer_find_role_handler` does with messages of the service's own queue while it is
active, and nothing otherwise -/
def handleActiveMessage : Message → Except Panic Service
  | .clientInitCfm => s.setClientAwaitingEncryption
  | .updateScore => .ok s.updateServerScore
  | .connectToPeer => s.setConnectingToDiscovered
  | .enableScanning => .ok s.handleEnableScanning
  | .timeoutDiscovery => s.handleInitialTimeout
  | .timeoutAdvertBackoff =>
      if s.state = .discover then s.setDiscoverConnectable else .ok s
  | .timeoutPeerConnection =>
      if s.state = .connectingToDiscovered then s.setDiscover else .ok s
  | .timeoutNotDisconnected => s.handleDisconnectTimeout
  | .timeoutServerRoleSelected => .ok s.handleServerRoleSelectedTimeout
  | .timeoutNoFomReceived => s.handleTimeoutNoFomReceived
  | .prepared => s.handlePrepared
  | .attemptAdvertising => if s.state.advertisingState then s.enableAdvertising else .ok s
  | _ => .ok s

/-- `peer_find_role_handler` for the messages of the service's own queue -/
def handleMessage : Message → Except Panic Service
  | .cancelFindRole => s.completed .cancelled
  | .telephonyActive => .ok (s.updateMediaFlag true callActive)
  | .telephonyIdle => .ok (s.updateMediaFlag false callActive)
  | .streamingActive => .ok (s.updateMediaFlag true audioStreaming)
  | .streamingIdle => .ok (s.updateMediaFlag false audioStreaming)
  | message => if s.state.isActive then s.handleActiveMessage message else .ok s

def handleTelephonyEvent (active : Bool) : Service :=
  ((s.cancelAll .telephonyActive).cancelAll .telephonyIdle).send
    (if active then .telephonyActive else .telephonyIdle)

def handleStreamingEvent (active : Bool) : Service :=
  ((s.cancelAll .streamingActive).cancelAll .streamingIdle).send
    (if active then .streamingActive else .streamingIdle)

def whenActive (handler : Except Panic Service) : Except Panic Service :=
  if s.state.isActive then handler else .ok s

def handle : Event → Except Panic Service
  | .findRole highSpeedTimeMs => s.findRole highSpeedTimeMs
  | .findRoleCancel => .ok s.findRoleCancel
  | .disableScanning disable => .ok (s.updateMediaFlag disable scanningDisabled)
  | .registerPrepareClient task => .ok (s.registerPrepareClient task)
  | .unregisterPrepareClient task => .ok (s.unregisterPrepareClient task)
  | .prepareResponse task => .ok (s.prepareResponse task)
  | .overrideScore score => .ok { s with scoreOverride := score }.updateServerScore
  | .encryptionChange isPeer encrypted => s.handleEncryptionChange isPeer encrypted
  | .gattConnect cid found => s.gattConnect cid found
  | .scanStartCfm status => .ok (s.handleLeScanManagerStartCfm status)
  | .scanStopCfm status => .ok (s.handleLeScanManagerStopCfm status)
  | .changeRoleInd command => s.whenActive (s.handleChangeRoleInd command)
  | .commandCfm success => s.whenActive (s.handleCommandCfm success)
  | .figureOfMeritInd merit => s.whenActive (s.handleFigureOfMerit merit)
  | .selectDatasetCfm success =>
      s.whenActive (.ok (if success then s else { s with advertActivity := false }))
  | .releaseDatasetCfm => .ok { s with advertActivity := false }
  | .advReportInd current isPeer => s.whenActive (s.handleAdvReportInd current isPeer)
  | .bleSecurityCfm status => s.whenActive (s.handleBleSecurity status)
  | .tpConnectInd taddr incoming isPeer =>
      s.whenActive (s.handleConManagerConnection taddr incoming isPeer)
  | .connectionInd addr ble connected => s.handleConnectionInd addr ble connected
  | .telephonyEvent active => .ok (s.handleTelephonyEvent active)
  | .streamingEvent active => .ok (s.handleStreamingEvent active)
  | .deliver message => { s with queue := s.queue.erase message }.handleMessage message

def possible : Event → Bool
  | .deliver message => s.queue.contains message && s.released message
  | _ => true

def step (event : Event × Answers) : Option (Except Panic Service) :=
  if s.possible event.1 then some ({ s with answers := event.2 }.handle event.1) else none

/-- `PeerFindRole_Init`, without clients and with the fixed role of the device -/
def init (fixedRole : FixedRole) : Service :=
  { state := .initialised, fixedRole,
    log := [.entered .uninitialised .initialised ⟨.typedInvalid, 0⟩] }

end Service

end HeadsetAdk.PeerFindRole
