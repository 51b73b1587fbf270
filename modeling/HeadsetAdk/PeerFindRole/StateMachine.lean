import HeadsetAdk.PeerFindRole.Service

/-!
# The state machine of the peer find role service

`peer_find_role_set_state` may go on from the new state to a further one, but enters none twice, so
each has a function of its own here, after those of the states that it goes on to.
-/

namespace HeadsetAdk.PeerFindRole

namespace Service

variable (s : Service)

def exitDiscover (new : State) : Service :=
  let cancelled : Service := s.cancelAll .timeoutAdvertBackoff
  if new = .discoverConnectable then cancelled else cancelled.stopScanIfActive

def exitAdvertisingState : Service :=
  { s.cancelAll .attemptAdvertising with advertHandle := false }

def exitDiscoveredDevice : Service := s.cancelInactive .connectToPeer

def exitConnectingToDiscovered (new : State) : Service :=
  let cancelled : Service := s.cancelFirst .timeoutPeerConnection
  if new = .serverAwaitingEncryption ∨ new = .client then cancelled
  else cancelled.note (.releaseAcl s.peerConnection)

def exitClientState : Service := { s with gattCid := none, gattEncrypted := false }

/-- The functions for leaving the old state -/
def exitState (new : State) : Service :=
  match s.state with
  | .discover => s.exitDiscover new
  | .discoverConnectable => s.stopScanIfActive
  | .discoveredDevice => s.exitDiscoveredDevice
  | .connectingToDiscovered => s.exitConnectingToDiscovered new
  | .server => s.cancelAll .timeoutServerRoleSelected
  | .serverPreparing => s.cancelAll .prepared
  | .serverAwaitingCompletion => s.cancelAll .timeoutNotDisconnected
  | .clientPreparing => s.cancelAll .prepared
  | .clientDeciding => s.cancelAll .timeoutNoFomReceived
  | _ => s

def exitSuperStates (new : State) : Service :=
  let quiet : Service :=
    if s.state.advertisingState && !new.advertisingState then s.exitAdvertisingState else s
  if quiet.gattCid.isSome && s.state.clientState && !new.clientState then quiet.exitClientState
  else quiet

/-- `peer_find_role_set_state` up to the functions for entering the new state -/
def leave (new : State) : Except Panic Service :=
  if s.state = new then .error .sameState
  else
    let left : Service := (s.exitState new).exitSuperStates new
    .ok ({ left with state := new }.note (.entered s.state new left.peerConnection))

/-- `peer_find_role_enter_discover`, without the delay of advertising -/
def enterDiscover : Service :=
  let unconnected : Service := { s with gattCid := none, gattEncrypted := false }
  let timed : Service := unconnected.startScanningIfInactive.send .timeoutAdvertBackoff
  if timed.roleTimeoutMs ≠ 0 ∧ timed.awaitingPrimaryCompletion = false then
    timed.send .timeoutDiscovery
  else timed

def setDiscover : Except Panic Service := do
  let left ← s.leave .discover
  return left.enterDiscover

def enterDiscoverConnectable : Except Panic Service :=
  let scanned : Service := s.startScanningIfInactive
  if scanned.advertActivity then .ok (scanned.send .attemptAdvertising)
  else scanned.enableAdvertising

def setDiscoverConnectable : Except Panic Service := do
  let left ← s.leave .discoverConnectable
  left.enterDiscoverConnectable

def enterDiscoveredDevice : Service := s.cancelInitialTimeout.send .connectToPeer

def setDiscoveredDevice : Except Panic Service := do
  let left ← s.leave .discoveredDevice
  return left.enterDiscoveredDevice

def enterConnectingToDiscovered : Service :=
  (s.note (.createAcl s.peerConnection)).send .timeoutPeerConnection

def setConnectingToDiscovered : Except Panic Service := do
  let left ← s.leave .connectingToDiscovered
  return left.enterConnectingToDiscovered

/-- `peer_find_role_prepare_for_role_selection`, with the state to go to without clients -/
def prepareForRoleSelection (stateIfNoClients : Service → Except Panic Service) :
    Except Panic Service :=
  if s.prepareTasks = [] then stateIfNoClients s
  else .ok ({ s with pendingPrepareTasks := s.prepareTasks }.note .prepare)

def enterServerAwaitingEncryption : Service := s.note (.securityReq s.peerConnection)

def setServerAwaitingEncryption : Except Panic Service := do
  let left ← s.leave .serverAwaitingEncryption
  return left.enterServerAwaitingEncryption

def enterServer : Service := s.updateServerScore.send .timeoutServerRoleSelected

def setServer : Except Panic Service := do
  let left ← s.leave .server
  return left.enterServer

def setServerPreparing : Except Panic Service := do
  let left ← s.leave .serverPreparing
  left.prepareForRoleSelection setServer

def enterServerAwaitingCompletion : Service := s.send .timeoutNotDisconnected

def setServerAwaitingCompletion : Except Panic Service := do
  let left ← s.leave .serverAwaitingCompletion
  return left.enterServerAwaitingCompletion

/-- `peer_find_role_enter_client`, which must have a connection and initialise the role
selection client -/
def enterClient : Except Panic Service :=
  let cancelled : Service := s.cancelInitialTimeout.cancelAll .connectToPeer
  match cancelled.gattCid with
  | none => .error .failedCheck
  | some cid =>
      let unscored : Service := { cancelled with peerScore := invalidMerit }
      if unscored.answers.clientStarts then
        .ok ((unscored.note (.clientInit cid)).send .clientInitCfm)
      else .error .failedCheck

def setClient : Except Panic Service := do
  let left ← s.leave .client
  left.enterClient

def setClientAwaitingConfirm : Except Panic Service := s.leave .clientAwaitingConfirm

/-- The role that `PeerFindRole_DecideRoles` gives to the peer -/
def decidedRole : Opcode :=
  match s.fixedRole with
  | .primary => .becomeSecondary
  | .secondary => .becomePrimary
  | .notSet => if s.peerScore > s.calculatedScore then .becomePrimary else .becomeSecondary

def decideRoles : Except Panic Service :=
  if s.peerScore = invalidMerit then .ok s
  else
    let scored : Service := if s.fixedRole = .notSet then s.calculateScore else s
    let decided : Service := { scored with remoteRole := s.decidedRole }
    (decided.note (.changePeerRole s.decidedRole)).setClientAwaitingConfirm

def enterClientDeciding : Except Panic Service := (s.send .timeoutNoFomReceived).decideRoles

def setClientDeciding : Except Panic Service := do
  let left ← s.leave .clientDeciding
  left.enterClientDeciding

def setClientPreparing : Except Panic Service := do
  let left ← s.leave .clientPreparing
  left.prepareForRoleSelection setClientDeciding

def enterAwaitingEncryption : Except Panic Service :=
  if s.gattEncrypted then s.setClientPreparing else .ok s

def setClientAwaitingEncryption : Except Panic Service := do
  let left ← s.leave .clientAwaitingEncryption
  left.enterAwaitingEncryption

def enterInitialised : Except Panic Service :=
  let keepGoing : Bool := s.awaitingPrimaryCompletion
  let unflagged : Service := s.disconnectLink.1.updateMediaFlag false confirmingPrimary
  if s.disconnectLink.2 then .ok unflagged
  else
    let told : Service :=
      if unflagged.timeoutMeansTimeout then unflagged.notifyTimeout
      else unflagged.notifyClientsIfPending
    if keepGoing then (told.updateMediaFlag true confirmingPrimary).setDiscover else .ok told

def setInitialised : Except Panic Service := do
  let left ← s.leave .initialised
  left.enterInitialised

def selectStateAfterCompletion : Except Panic Service :=
  if s.awaitingPrimaryCompletion then s.setDiscover else s.setInitialised

def enterCompleted : Except Panic Service :=
  if s.disconnectLink.2 then .ok s.disconnectLink.1
  else s.disconnectLink.1.selectStateAfterCompletion

def setCompleted : Except Panic Service := do
  let left ← s.leave .completed
  left.enterCompleted

/-- The report of `peer_find_role_completed`, at once or when links are gone -/
def reportCompleted (role : Role) : Service :=
  let reported : Service :=
    if role.meansPrimary then { s with selectedRole := none }.notifyClientsImmediately role
    else { s with selectedRole := some role, timeoutMeansTimeout := false }
  reported.updateMediaFlag (role = .primary) confirmingPrimary

/-- The change of state of `peer_find_role_completed` -/
def stateCompleted : Except Panic Service :=
  match s.state with
  | .initialised => .ok s.notifyClientsIfPending
  | .server => s.setServerAwaitingCompletion
  | .completed => .ok s
  | _ => s.setCompleted

def completed (role : Role) : Except Panic Service := do
  let changed ← (s.reportCompleted role).stateCompleted
  return { changed with gattCid := none, gattEncrypted := false }

def enterCheckingPeer : Except Panic Service :=
  if s.answers.knowsPrimary = false then s.completed .noPeer
  else if s.answers.knowsOwn then s.setDiscover
  else .error .failedCheck

def setCheckingPeer : Except Panic Service := do
  let left ← s.leave .checkingPeer
  left.enterCheckingPeer

end Service

end HeadsetAdk.PeerFindRole
