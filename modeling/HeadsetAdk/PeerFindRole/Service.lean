import HeadsetAdk.ConManager.Connections

/-!
# The data of the peer find role service

The data of the service are modelled as the source has them, with the messages queued to its task
and a log of what it does to the outside.  What other components answer during a step comes with the
step.
-/

namespace HeadsetAdk.PeerFindRole

open ConManager (TypedBdaddr)

abbrev Task := Nat

/-- `gatt_cid_t`, where `none` is `INVALID_CID` -/
abbrev GattCid := Option Nat

inductive State
  | uninitialised
  | initialised
  | checkingPeer
  | discover
  | discoverConnectable
  | discoveredDevice
  | connectingToDiscovered
  | serverAwaitingEncryption
  | serverPreparing
  | client
  | server
  | clientAwaitingEncryption
  | clientPreparing
  | clientDeciding
  | clientAwaitingConfirm
  | serverAwaitingCompletion
  | completed
  deriving DecidableEq

namespace State

def advertisingState : State → Bool
  | discoverConnectable | discoveredDevice | connectingToDiscovered => true
  | _ => false

def clientState : State → Bool
  | client | clientAwaitingEncryption | clientPreparing | clientDeciding
  | clientAwaitingConfirm | completed => true
  | _ => false

/-- The state lies behind `PEER_FIND_ROLE_STATE_INITIALISED`. -/
def isActive : State → Bool
  | uninitialised | initialised => false
  | _ => true

end State

/-- The outcomes among `peer_find_role_message_t` -/
inductive Role
  | noPeer
  | cancelled
  | actingPrimary
  | primary
  | secondary
  deriving DecidableEq

def Role.meansPrimary : Role → Bool
  | actingPrimary | primary => true
  | _ => false

/-- `peer_find_role_fixed_role_t` as `PeerFindRole_GetFixedRole` returns it -/
inductive FixedRole
  | notSet
  | primary
  | secondary
  deriving DecidableEq

inductive Opcode
  | becomePrimary
  | becomeSecondary
  deriving DecidableEq

/-- `scan_state_mode_t` -/
inductive ScanMode
  | highDuty
  | lowDuty
  deriving DecidableEq

/-- The messages to the task of the service that wait in a queue:
`peer_find_role_internal_message_t`, and the confirmation that the role selection client sends
when it is initialised -/
inductive Message
  | updateScore
  | cancelFindRole
  | connectToPeer
  | telephonyActive
  | telephonyIdle
  | streamingActive
  | streamingIdle
  | enableScanning
  | prepared
  | attemptAdvertising
  | timeoutDiscovery
  | timeoutPeerConnection
  | timeoutAdvertBackoff
  | timeoutNotDisconnected
  | timeoutServerRoleSelected
  | timeoutNoFomReceived
  | clientInitCfm
  deriving DecidableEq

/-- `le_scan_manager_result_t` -/
inductive ScanResult
  | success
  | busy
  | failure
  deriving DecidableEq

def audioStreaming : UInt16 := 1

def callActive : UInt16 := 2

def confirmingPrimary : UInt16 := 4

def scanningDisabled : UInt16 := 256

/-- `GRSS_FIGURE_OF_MERIT_INVALID` -/
def invalidMerit : UInt16 := 0

/-- What other components answer during one step -/
structure Answers where
  /-- `LeScanManager_IsTaskScanning`, call by call -/
  scanning : List Bool := []
  /-- `LeAdvertisingManager_SelectAdvertisingDataSet` gives a handle. -/
  advertises : Bool := true
  /-- `appDeviceGetPrimaryBdAddr` -/
  knowsPrimary : Bool := true
  /-- `appDeviceGetMyBdAddr` -/
  knowsOwn : Bool := true
  /-- `GattRoleSelectionClientInit` -/
  clientStarts : Bool := true
  /-- `GattRoleSelectionServerSetFigureOfMerit` -/
  setsScore : Bool := true
  /-- `GattRoleSelectionClientEnablePeerFigureOfMeritNotifications` -/
  notifies : Bool := true
  /-- The score of `peer_find_role_calculate_score` -/
  score : UInt16 := 1
  deriving DecidableEq

/-- What is logged of a run -/
inductive Entry
  /-- `peer_find_role_set_state` enters a state, with the peer's address then. -/
  | entered (old new : State) (peer : TypedBdaddr)
  /-- `ConManagerCreateTpAcl` -/
  | createAcl (peer : TypedBdaddr)
  /-- `ConManagerReleaseTpAcl` -/
  | releaseAcl (peer : TypedBdaddr)
  /-- An LE link has gone down. -/
  | linkDown (addr : Nat)
  /-- A message to the registered tasks -/
  | notified (role : Role)
  /-- `PEER_FIND_ROLE_STARTED` to the registered tasks -/
  | started
  /-- `PEER_FIND_ROLE_PREPARE_FOR_ROLE_SELECTION` to the registered tasks -/
  | prepare
  /-- `GattRoleSelectionClientInit` -/
  | clientInit (cid : Nat)
  /-- `GattRoleSelectionClientChangePeerRole` -/
  | changePeerRole (command : Opcode)
  /-- `GattRoleSelectionServerSetFigureOfMerit` -/
  | serverScore (cid : Nat) (score : UInt16)
  /-- `ConnectionDmBleSecurityReq` -/
  | securityReq (peer : TypedBdaddr)
  /-- `LeScanManager_Start` -/
  | scanStart (mode : ScanMode)
  /-- `LeScanManager_Stop` -/
  | scanStop
  deriving DecidableEq

/-- What a run ends with -/
inductive Panic
  /-- An attempt to enter the state that the service is in -/
  | sameState
  /-- A check of the source fails. -/
  | failedCheck
  deriving DecidableEq

/-- `peerFindRoleTaskData`, with the messages queued to its task -/
structure Service where
  state : State := .uninitialised
  /-- `peer_connection_typed_bdaddr` -/
  peerConnection : TypedBdaddr := ⟨.typedInvalid, 0⟩
  roleTimeoutMs : Nat := 0
  gattCid : GattCid := none
  /-- `selected_role`, where `none` is zero -/
  selectedRole : Option Role := none
  gattEncrypted : Bool := false
  timeoutMeansTimeout : Bool := false
  /-- `advert_handle` is not NULL. -/
  advertHandle : Bool := false
  scanEnable : Bool := false
  /-- `scan_activity`, of one flag -/
  scanActivity : Bool := false
  /-- `advert_activity`, of one flag -/
  advertActivity : Bool := false
  mediaBusy : UInt16 := 0
  remoteRole : Opcode := .becomePrimary
  prepareTasks : List Task := []
  pendingPrepareTasks : List Task := []
  fixedRole : FixedRole := .notSet
  scanMode : ScanMode := .highDuty
  /-- `peer_score` -/
  peerScore : UInt16 := 0
  /-- `last_local_score` -/
  lastLocalScore : UInt16 := 0
  /-- `score_override` -/
  scoreOverride : UInt16 := 0
  queue : List Message := []
  answers : Answers := {}
  log : List Entry := []
  deriving DecidableEq

namespace Service

variable (s : Service)

def note (entry : Entry) : Service := { s with log := entry :: s.log }

/-- `MessageSend` and its variants to the service's own task -/
def send (message : Message) : Service := { s with queue := message :: s.queue }

def cancelAll (message : Message) : Service :=
  { s with queue := s.queue.filter fun queued => queued != message }

def cancelFirst (message : Message) : Service := { s with queue := s.queue.erase message }

/-- The condition that a queued message waits for is zero. -/
def released : Message → Bool
  | .connectToPeer => !s.scanActivity
  | .enableScanning => s.mediaBusy == 0
  | .attemptAdvertising => !s.advertActivity
  | _ => true

def cancelInactive (message : Message) : Service :=
  if s.scanActivity then s.cancelAll message else s

def cancelInitialTimeout : Service := s.cancelAll .timeoutDiscovery

def mediaActive : Bool := s.mediaBusy != 0

def awaitingPrimaryCompletion : Bool := s.mediaBusy &&& confirmingPrimary != 0

/-- The answer of `LeScanManager_IsTaskScanning` -/
def isTaskScanning : Bool := s.answers.scanning.headD false

/-- `LeScanManager_IsTaskScanning` has been called. -/
def asked : Service := { s with answers.scanning := s.answers.scanning.tail }

def startScanning (mode : ScanMode) : Service :=
  { s with scanMode := mode }.note (.scanStart mode)

def updateScanModeIfActive : Service :=
  if s.mediaActive then s
  else if s.isTaskScanning then
    if s.scanMode = .highDuty ∧ s.roleTimeoutMs = 0 then
      { s.asked with scanMode := .lowDuty }.note .scanStop
    else if s.scanMode = .lowDuty ∧ 0 < s.roleTimeoutMs then
      { s.asked with scanMode := .highDuty }.note .scanStop
    else s.asked
  else s.asked

def startScanningIfInactive : Service :=
  if s.mediaActive then s
  else if s.isTaskScanning then s.asked.updateScanModeIfActive
  else
    let mode : ScanMode := if s.roleTimeoutMs = 0 then .lowDuty else .highDuty
    let empty : Service :=
      { s.asked with scanActivity := true, peerConnection := ⟨.typedInvalid, 0⟩ }
    { empty.startScanning mode with scanEnable := true }

def stopScanIfActive : Service :=
  let stopped : Service := { s.asked with scanMode := .highDuty, scanEnable := false }
  if s.isTaskScanning then stopped.note .scanStop else stopped

def updateMediaFlag (busy : Bool) (mask : UInt16) : Service :=
  if busy then
    let stopped : Service := { s with mediaBusy := s.mediaBusy ||| mask }.stopScanIfActive
    (stopped.cancelAll .enableScanning).send .enableScanning
  else { s with mediaBusy := s.mediaBusy &&& ~~~mask }

def handleLeScanManagerStartCfm : ScanResult → Service
  | .success => { s with scanActivity := true }
  | .busy => if s.scanEnable then s.startScanningIfInactive else s
  | .failure => s

def handleLeScanManagerStopCfm : ScanResult → Service
  | .success =>
      let idle : Service := { s with scanActivity := false }
      if idle.scanMode = .lowDuty then
        -- The parameter is TRUE, which is the low duty mode.
        idle.startScanning .lowDuty
      else if idle.scanEnable then idle.startScanningIfInactive
      else idle
  | .busy => if s.scanEnable then s.note .scanStop else s.stopScanIfActive
  | .failure => s

/-- `peerFindRole_EnableAdvertising`, which must succeed -/
def enableAdvertising : Except Panic Service :=
  if s.answers.advertises then .ok { s with advertHandle := true, advertActivity := true }
  else .error .failedCheck

/-- `peer_find_role_score` after `peer_find_role_calculate_score` -/
def calculatedScore : UInt16 :=
  if s.scoreOverride = 0 then s.answers.score else s.scoreOverride

def calculateScore : Service := { s with lastLocalScore := s.answers.score }

def setServerScore (score : UInt16) : Service :=
  match s.gattCid with
  | none => s
  | some cid =>
      if s.answers.setsScore then s.note (.serverScore cid score)
      else (s.cancelAll .updateScore).send .updateScore

def updateServerScore : Service := s.calculateScore.setServerScore s.calculatedScore

def resetServerScore : Service :=
  { s with lastLocalScore := invalidMerit }.setServerScore invalidMerit

def notifyClientsImmediately (role : Role) : Service :=
  { s.cancelInitialTimeout with timeoutMeansTimeout := false }.note (.notified role)

def notifyClientsIfPending : Service :=
  match s.selectedRole with
  | none => s
  | some role => { s with selectedRole := none }.notifyClientsImmediately role

def notifyTimeout : Service :=
  if s.fixedRole = .secondary then s
  else
    ({ s with roleTimeoutMs := 0 }.notifyClientsImmediately .actingPrimary).updateScanModeIfActive

/-- `peer_find_role_disconnect_link`, with whether it asks for the disconnection -/
def disconnectLink : Service × Bool :=
  let unencrypted : Service := { s with gattEncrypted := false }
  if s.gattCid.isSome then (unencrypted.note (.releaseAcl s.peerConnection), true)
  else (unencrypted, false)

end Service

end HeadsetAdk.PeerFindRole
