import HeadsetAdk.PeerFindRole.Connecting

/-! # References to the link with the peer -/

namespace HeadsetAdk.PeerFindRole

open ConManager (TypedBdaddr)

def State.linked : State → Bool
  | connectingToDiscovered | serverAwaitingEncryption | serverPreparing | server
  | serverAwaitingCompletion | client | clientAwaitingEncryption | clientPreparing
  | clientDeciding | clientAwaitingConfirm => true
  | _ => false

def State.joined : State → Bool
  | client | clientAwaitingEncryption | clientPreparing | clientDeciding
  | clientAwaitingConfirm => true
  | _ => false

namespace Service

variable (s : Service)

def replacesPeer : Event → Bool
  | .tpConnectInd taddr _ isPeer => isPeer && taddr != s.peerConnection
  | .gattConnect _ (some (taddr, isPeer)) => isPeer && taddr != s.peerConnection
  | _ => false

def endsServing : Event → Bool
  | .bleSecurityCfm status => s.state == .serverAwaitingEncryption && status == .fail
  | .changeRoleInd _ => s.selectedRole.isNone && s.gattCid.isNone &&
      (s.state == .serverAwaitingEncryption || s.state == .serverPreparing ||
        s.state == .serverAwaitingCompletion)
  | .deliver .cancelFindRole => s.gattCid.isNone &&
      (s.state == .serverAwaitingEncryption || s.state == .serverPreparing ||
        s.state == .serverAwaitingCompletion)
  | .deliver .timeoutNotDisconnected => s.state == .serverAwaitingCompletion
  | _ => false

def Releasing (event : Event × Answers) : Prop :=
  s.Undisturbed event ∧ (references s.log ≠ [] →
    s.replacesPeer event.1 = false ∧ s.endsServing event.1 = false)

instance (event : Event × Answers) : Decidable (s.Releasing event) :=
  inferInstanceAs (Decidable (_ ∧ _))

end Service

section Outcomes

/-- What is returned, if anything is, satisfies the property. -/
def Gives (property : Service → Prop) : Except Panic Service → Prop
  | .ok s => property s
  | .error _ => True

variable {property next : Service → Prop} {s : Service} {result : Except Panic Service}

theorem Gives.bind {handler : Service → Except Panic Service} (gives : Gives property result)
    (handled : ∀ s, property s → Gives next (handler s)) : Gives next (result >>= handler) := by
  cases result with
  | error panic => trivial
  | ok s => exact handled s gives

theorem Gives.mono (gives : Gives property result) (implied : ∀ s, property s → next s) :
    Gives next result := by
  cases result with
  | error panic => trivial
  | ok s => exact implied s gives

theorem Gives.whenActive {handler : Except Panic Service} (idle : property s)
    (active : s.state.isActive = true → Gives property handler) :
    Gives property (s.whenActive handler) := by
  rw [Service.whenActive]
  split
  · exact active (by assumption)
  · exact idle

end Outcomes

section Clear

def Clear (s : Service) : Prop := references s.log = []

variable {s next left : Service} {new : State}

theorem Clear.bound (clear : Clear s) (bound : Bound s next) : Clear next :=
  bound.references.trans clear

theorem Clear.note (clear : Clear s) {entry : Entry} (unasked : entry.references [] = []) :
    Clear (s.note entry) := by
  change entry.references (references s.log) = []
  rw [show references s.log = [] from clear, unasked]

theorem Clear.startScanningIfInactive (clear : Clear s) : Clear s.startScanningIfInactive := by
  rw [Service.startScanningIfInactive]
  split
  · exact clear
  · split
    · exact clear.bound (Bound.asked.trans Bound.updateScanModeIfActive)
    · exact clear.note rfl

theorem Clear.exitState (clear : Clear s) (new : State) : Clear (s.exitState new) := by
  rw [Service.exitState]
  split
  · rw [Service.exitDiscover]
    split
    · exact clear
    · exact Clear.bound (s := s.cancelAll .timeoutAdvertBackoff) clear Bound.stopScanIfActive
  · exact clear.bound Bound.stopScanIfActive
  · rw [Service.exitDiscoveredDevice, Service.cancelInactive]
    split
    · exact clear
    · exact clear
  · rw [Service.exitConnectingToDiscovered]
    split
    · exact clear
    · exact Clear.note (s := s.cancelFirst .timeoutPeerConnection) clear rfl
  · exact clear
  · exact clear
  · exact clear
  · exact clear
  · exact clear
  · exact clear

theorem references_exitClientState (condition : Bool) :
    references (if condition then s.exitClientState else s).log = references s.log := by
  split
  · rfl
  · rfl

theorem references_exitSuperStates (s : Service) (new : State) :
    references (s.exitSuperStates new).log = references s.log := by
  have quiet : references (if s.state.advertisingState && !new.advertisingState then
      s.exitAdvertisingState else s).log = references s.log := by
    split
    · rfl
    · rfl
  exact (references_exitClientState _).trans quiet

section

variable (clear : Clear s)

include clear

theorem Clear.leave : Gives Clear (s.leave new) := by
  rw [Service.leave]
  split
  · trivial
  · exact (references_exitSuperStates _ _).trans (clear.exitState new)

theorem Clear.enterDiscover : Clear s.enterDiscover := by
  have timed : Clear (Service.send { s with
      gattCid := none, gattEncrypted := false }.startScanningIfInactive .timeoutAdvertBackoff) :=
    Clear.startScanningIfInactive (s := { s with gattCid := none, gattEncrypted := false }) clear
  rw [Service.enterDiscover]
  split
  · exact timed
  · exact timed

theorem Clear.setDiscover : Gives Clear s.setDiscover :=
  clear.leave.bind fun _ clear => clear.enterDiscover

theorem Clear.setDiscoverConnectable : Gives Clear s.setDiscoverConnectable := by
  refine clear.leave.bind fun left clear => ?_
  have scanning := clear.startScanningIfInactive
  rw [Service.enterDiscoverConnectable]
  split
  · exact scanning
  · rw [Service.enableAdvertising]
    split
    · exact scanning
    · trivial

theorem Clear.setDiscoveredDevice : Gives Clear s.setDiscoveredDevice :=
  clear.leave.bind fun _ clear => clear

theorem Clear.setServerAwaitingEncryption : Gives Clear s.setServerAwaitingEncryption :=
  clear.leave.bind fun _ clear => clear.note rfl

theorem Clear.setServer : Gives Clear s.setServer :=
  clear.leave.bind fun _ clear =>
    clear.bound (Bound.updateServerScore.trans (Bound.send (by decide)))

theorem Clear.prepareForRoleSelection
    {further : Service → Except Panic Service} (goesOn : Gives Clear (further s)) :
    Gives Clear (s.prepareForRoleSelection further) := by
  rw [Service.prepareForRoleSelection]
  split
  · exact goesOn
  · exact Clear.note (s := { s with pendingPrepareTasks := s.prepareTasks }) clear rfl

theorem Clear.setServerPreparing : Gives Clear s.setServerPreparing :=
  clear.leave.bind fun _ clear => clear.prepareForRoleSelection clear.setServer

theorem Clear.setServerAwaitingCompletion : Gives Clear s.setServerAwaitingCompletion :=
  clear.leave.bind fun _ clear => clear

theorem Clear.setClient : Gives Clear s.setClient := by
  refine clear.leave.bind fun left clear => ?_
  rw [Service.enterClient]
  split
  · trivial
  · dsimp only
    split
    · exact clear
    · trivial

theorem Clear.decideRoles : Gives Clear s.decideRoles := by
  have confirms : ∀ scored, Clear scored → Gives Clear
      ({ scored with remoteRole := s.decidedRole }.note
        (.changePeerRole s.decidedRole)).setClientAwaitingConfirm :=
    fun scored clear => Clear.leave (Clear.note
      (s := { scored with remoteRole := s.decidedRole }) clear rfl)
  rw [Service.decideRoles]
  split
  · exact clear
  · apply confirms
    split
    · exact clear
    · exact clear

theorem Clear.setClientDeciding : Gives Clear s.setClientDeciding :=
  clear.leave.bind fun left clear =>
    Clear.decideRoles (s := left.send .timeoutNoFomReceived) clear

theorem Clear.setClientPreparing : Gives Clear s.setClientPreparing :=
  clear.leave.bind fun _ clear => clear.prepareForRoleSelection clear.setClientDeciding

theorem Clear.setClientAwaitingEncryption : Gives Clear s.setClientAwaitingEncryption := by
  refine clear.leave.bind fun left clear => ?_
  rw [Service.enterAwaitingEncryption]
  split
  · exact clear.setClientPreparing
  · exact clear

theorem Clear.disconnectLink : Clear s.disconnectLink.1 := by
  rw [Service.disconnectLink]
  split
  · exact Clear.note (s := { s with gattEncrypted := false }) clear rfl
  · exact clear

theorem Clear.goesOn (keepGoing : Bool) :
    Gives Clear (if keepGoing then (s.updateMediaFlag true confirmingPrimary).setDiscover
      else .ok s) := by
  split
  · exact (clear.bound (Bound.updateMediaFlag true _)).setDiscover
  · exact clear

theorem Clear.setInitialised : Gives Clear s.setInitialised := by
  refine clear.leave.bind fun left clear => ?_
  have unflagged := clear.disconnectLink.bound (Bound.updateMediaFlag false confirmingPrimary)
  rw [Service.enterInitialised]
  split
  · exact unflagged
  · split
    · exact (unflagged.bound Bound.notifyTimeout).goesOn _
    · exact (unflagged.bound Bound.notifyClientsIfPending).goesOn _

theorem Clear.selectStateAfterCompletion : Gives Clear s.selectStateAfterCompletion := by
  rw [Service.selectStateAfterCompletion]
  split
  · exact clear.setDiscover
  · exact clear.setInitialised

theorem Clear.enterCompleted : Gives Clear s.enterCompleted := by
  rw [Service.enterCompleted]
  split
  · exact clear.disconnectLink
  · exact clear.disconnectLink.selectStateAfterCompletion

theorem Clear.setCompleted : Gives Clear s.setCompleted :=
  clear.leave.bind fun _ clear => clear.enterCompleted

theorem Clear.completed (role : Role) : Gives Clear (s.completed role) := by
  have reported := clear.bound (Bound.reportCompleted role)
  have changed : Gives Clear (s.reportCompleted role).stateCompleted := by
    rw [Service.stateCompleted]
    split
    · exact reported.bound Bound.notifyClientsIfPending
    · exact reported.setServerAwaitingCompletion
    · exact reported
    · exact reported.setCompleted
  exact changed.bind fun _ clear => clear

theorem Clear.setCheckingPeer : Gives Clear s.setCheckingPeer := by
  refine clear.leave.bind fun left clear => ?_
  rw [Service.enterCheckingPeer]
  split
  · exact clear.completed .noPeer
  · split
    · exact clear.setDiscover
    · trivial

theorem Clear.findRole (highSpeedTimeMs : Int) : Gives Clear (s.findRole highSpeedTimeMs) := by
  have started : ∀ signed, Clear signed → Gives Clear
      ({ signed with roleTimeoutMs := highSpeedTimeMs.natAbs }.note .started).setCheckingPeer :=
    fun signed clear => Clear.setCheckingPeer (Clear.note
      (s := { signed with roleTimeoutMs := highSpeedTimeMs.natAbs }) clear rfl)
  rw [Service.findRole]
  split
  · apply started
    split
    · exact clear
    · exact clear
  · exact clear

theorem Clear.joins (cid : Nat) (taddr : TypedBdaddr) : Gives Clear (do
      let entered ← { s with gattCid := some cid }.setClient
      return { entered with peerConnection := taddr }) := by
  have entered : Gives Clear { s with gattCid := some cid }.setClient := Clear.setClient clear
  exact entered.bind fun _ clear => clear

theorem Clear.serves (cid : Nat) (taddr : TypedBdaddr) (isPeer : Bool) :
    Gives Clear (if isPeer then
      .ok { s with gattCid := some cid, peerConnection := taddr }.resetServerScore
      else .ok s) := by
  split
  · exact Clear.bound (s := { s with gattCid := some cid, peerConnection := taddr }) clear
      Bound.resetServerScore
  · exact clear

theorem Clear.gattConnect (cid : Nat) (found : Option (TypedBdaddr × Bool)) :
    Gives Clear (s.gattConnect cid found) := by
  rw [Service.gattConnect.eq_def]
  split
  · split
    · exact clear.joins cid _
    · exact clear.setDiscover
  · split
    · exact clear.joins cid _
    · exact clear.setDiscover
  · split
    · exact clear.joins cid _
    · exact clear.setDiscover
  · exact clear.serves cid _ _
  · exact clear.serves cid _ _
  · exact clear

theorem Clear.handleEncryptionChange (isPeer encrypted : Bool) :
    Gives Clear (s.handleEncryptionChange isPeer encrypted) := by
  rw [Service.handleEncryptionChange]
  split
  · dsimp only
    split
    · exact Clear.setClientPreparing (s := { s with gattEncrypted := encrypted }) clear
    · exact clear
  · exact clear

theorem Clear.handleConManagerConnection (taddr : TypedBdaddr) (incoming isPeer : Bool) :
    Gives Clear (s.handleConManagerConnection taddr incoming isPeer) := by
  have connects : ∀ stored, Clear stored → Gives Clear
      (if stored.state = .connectingToDiscovered ∧ incoming = false then
        stored.setServerAwaitingEncryption else .ok stored) := by
    intro stored clear
    split
    · exact clear.setServerAwaitingEncryption
    · exact clear
  apply connects
  split
  · exact clear
  · exact clear

theorem Clear.connectDisconnectHandler : Gives Clear s.connectDisconnectHandler := by
  rw [Service.connectDisconnectHandler]
  split
  case h_11 =>
    split
    · exact clear.bound Bound.notifyTimeout
    · exact clear.bound Bound.notifyClientsIfPending
  case h_12 => exact Clear.setCompleted (s := { s with gattCid := none }) clear
  case h_13 => exact Clear.selectStateAfterCompletion (s := { s with gattCid := none }) clear
  case h_14 => exact clear
  all_goals exact clear.setDiscover

theorem Clear.handleConnectionInd (addr : Nat) (ble connected : Bool) :
    Gives Clear (s.handleConnectionInd addr ble connected) := by
  rw [Service.handleConnectionInd]
  split
  · have down : Clear (s.note (.linkDown addr)) := clear.note rfl
    dsimp only
    split
    · exact down.connectDisconnectHandler
    · exact down
  · exact clear

theorem Clear.handleBleSecurity (status : SecurityStatus) :
    Gives Clear (s.handleBleSecurity status) := by
  rw [Service.handleBleSecurity.eq_def]
  split
  · cases status with
    | success => exact clear.setServerPreparing
    | fail => exact clear.setDiscover
    | pairingInProgress => exact clear
  · exact clear

theorem Clear.handleChangeRoleInd (command : Opcode) :
    Gives Clear (s.handleChangeRoleInd command) := by
  rw [Service.handleChangeRoleInd]
  split
  · exact clear.completed _
  · exact clear

theorem Clear.handleCommandCfm (success : Bool) : Gives Clear (s.handleCommandCfm success) := by
  rw [Service.handleCommandCfm]
  split
  · exact clear.completed _
  · exact clear

theorem Clear.handleFigureOfMerit (merit : UInt16) : Gives Clear (s.handleFigureOfMerit merit) := by
  rw [Service.handleFigureOfMerit]
  dsimp only
  split
  · exact Clear.decideRoles (s := { s with peerScore := merit }) clear
  · exact clear

theorem Clear.handleAdvReportInd (current : TypedBdaddr) (isPeer : Bool) :
    Gives Clear (s.handleAdvReportInd current isPeer) := by
  rw [Service.handleAdvReportInd]
  split
  · exact Clear.setDiscoveredDevice (s := { s with peerConnection := current }) clear
  · exact clear

theorem Clear.handleLeScanManagerStartCfm (status : ScanResult) :
    Clear (s.handleLeScanManagerStartCfm status) := by
  cases status with
  | success => exact clear
  | busy =>
    rw [Service.handleLeScanManagerStartCfm]
    split
    · exact clear.startScanningIfInactive
    · exact clear
  | failure => exact clear

theorem Clear.handleLeScanManagerStopCfm (status : ScanResult) :
    Clear (s.handleLeScanManagerStopCfm status) := by
  cases status with
  | success =>
    rw [Service.handleLeScanManagerStopCfm]
    dsimp only
    split
    · exact clear
    · split
      · exact Clear.startScanningIfInactive (s := { s with scanActivity := false }) clear
      · exact clear
  | busy =>
    rw [Service.handleLeScanManagerStopCfm]
    split
    · exact clear.note rfl
    · exact clear.bound Bound.stopScanIfActive
  | failure => exact clear

theorem Clear.handleEnableScanning : Clear s.handleEnableScanning := by
  have asked : Clear s.asked := clear
  rw [Service.handleEnableScanning]
  split
  · exact asked
  · split
    · exact asked.startScanningIfInactive
    · exact asked

theorem Clear.handleActiveMessage {message : Message}
    (other : message ≠ .connectToPeer) : Gives Clear (s.handleActiveMessage message) := by
  cases message with
  | connectToPeer => exact absurd rfl other
  | clientInitCfm => exact clear.setClientAwaitingEncryption
  | updateScore => exact clear.bound Bound.updateServerScore
  | enableScanning => exact clear.handleEnableScanning
  | timeoutDiscovery =>
    rw [Service.handleActiveMessage, Service.handleInitialTimeout]
    split
    · exact clear.setInitialised
    · exact Clear.bound (s := { s with roleTimeoutMs := 0 }) clear Bound.notifyTimeout
  | timeoutAdvertBackoff =>
    rw [Service.handleActiveMessage]
    split
    · exact clear.setDiscoverConnectable
    · exact clear
  | timeoutPeerConnection =>
    rw [Service.handleActiveMessage]
    split
    · exact clear.setDiscover
    · exact clear
  | timeoutNotDisconnected =>
    rw [Service.handleActiveMessage, Service.handleDisconnectTimeout]
    split
    · exact Clear.setCompleted (s := { s with gattCid := none }) clear
    · exact clear
  | timeoutServerRoleSelected =>
    rw [Service.handleActiveMessage, Service.handleServerRoleSelectedTimeout]
    split
    · exact clear.disconnectLink
    · exact clear
  | timeoutNoFomReceived =>
    rw [Service.handleActiveMessage, Service.handleTimeoutNoFomReceived]
    split
    · trivial
    · exact clear
  | prepared =>
    rw [Service.handleActiveMessage, Service.handlePrepared]
    split
    · exact clear.setServer
    · exact clear.setClientDeciding
    · exact clear
  | attemptAdvertising =>
    rw [Service.handleActiveMessage]
    split
    · rw [Service.enableAdvertising]
      split
      · exact clear
      · trivial
    · exact clear
  | cancelFindRole | telephonyActive | telephonyIdle | streamingActive | streamingIdle =>
    exact clear

theorem Clear.handleMessage {message : Message}
    (other : message ≠ .connectToPeer) : Gives Clear (s.handleMessage message) := by
  rw [Service.handleMessage.eq_def]
  split
  case h_1 => exact clear.completed .cancelled
  case h_6 =>
    split
    · exact clear.handleActiveMessage other
    · exact clear
  all_goals exact clear.bound (Bound.updateMediaFlag _ _)

theorem Clear.handle {event : Event}
    (other : event ≠ .deliver .connectToPeer) : Gives Clear (s.handle event) := by
  cases event with
  | findRole highSpeedTimeMs => exact clear.findRole highSpeedTimeMs
  | findRoleCancel => exact clear
  | disableScanning disable => exact clear.bound (Bound.updateMediaFlag disable _)
  | registerPrepareClient task =>
    change Clear (s.registerPrepareClient task)
    rw [Service.registerPrepareClient]
    split
    · exact clear
    · exact clear
  | unregisterPrepareClient task => exact clear.bound (Bound.unregisterPrepareClient task)
  | prepareResponse task => exact clear.bound (Bound.prepareResponse task)
  | overrideScore score =>
    exact Clear.bound (s := { s with scoreOverride := score }) clear Bound.updateServerScore
  | encryptionChange isPeer encrypted => exact clear.handleEncryptionChange isPeer encrypted
  | gattConnect cid found => exact clear.gattConnect cid found
  | scanStartCfm status => exact clear.handleLeScanManagerStartCfm status
  | scanStopCfm status => exact clear.handleLeScanManagerStopCfm status
  | changeRoleInd command => exact Gives.whenActive clear fun _ => clear.handleChangeRoleInd command
  | commandCfm success => exact Gives.whenActive clear fun _ => clear.handleCommandCfm success
  | figureOfMeritInd merit => exact Gives.whenActive clear fun _ => clear.handleFigureOfMerit merit
  | selectDatasetCfm success =>
    refine Gives.whenActive clear fun _ => ?_
    change Clear (if success then s else { s with advertActivity := false })
    split
    · exact clear
    · exact clear
  | releaseDatasetCfm => exact clear
  | advReportInd current isPeer =>
    exact Gives.whenActive clear fun _ => clear.handleAdvReportInd current isPeer
  | bleSecurityCfm status => exact Gives.whenActive clear fun _ => clear.handleBleSecurity status
  | tpConnectInd taddr incoming isPeer =>
    exact Gives.whenActive clear fun _ => clear.handleConManagerConnection taddr incoming isPeer
  | connectionInd addr ble connected => exact clear.handleConnectionInd addr ble connected
  | telephonyEvent active => exact clear
  | streamingEvent active => exact clear
  | deliver message =>
    exact Clear.handleMessage (s := { s with queue := s.queue.erase message }) clear
      fun same => other (congrArg Event.deliver same)

end

end Clear

section Attached

structure Attached (s : Service) : Prop where
  references : references s.log = [s.peerConnection]
  linked : s.state.linked = true
  untimed : .timeoutDiscovery ∉ s.queue
  scanEnable : s.scanEnable = false
  joined : s.state.joined = true → s.gattCid.isSome = true

/-- No reference is held, or the one to the link with the peer. -/
def Referenced (s : Service) : Prop := Clear s ∨ Attached s

variable {s next left : Service} {new : State}

theorem Attached.bound (attached : Attached s) (bound : Bound s next) : Attached next where
  references := by rw [bound.references, bound.peer, attached.references]
  linked := by rw [bound.state, attached.linked]
  untimed member := attached.untimed (bound.timeout member)
  scanEnable := bound.scanEnable attached.scanEnable
  joined := by
    rw [bound.state, bound.gattCid]
    exact attached.joined

theorem Attached.elsewhere (attached : Attached s) {state : State} (here : s.state = state) :
    state.linked = true :=
  here ▸ attached.linked

/-- Leaving `CONNECTING_TO_DISCOVERED` keeps the reference if there is a connection. -/
def keepsReference (old new : State) : Prop :=
  old ≠ .connectingToDiscovered ∨ new = .serverAwaitingEncryption ∨ new = .client

theorem references_exitState (kept : keepsReference s.state new) :
    references (s.exitState new).log = references s.log := by
  rw [Service.exitState]
  split
  · rw [Service.exitDiscover]
    split
    · rfl
    · exact (Bound.stopScanIfActive (s := s.cancelAll .timeoutAdvertBackoff)).references
  · exact Bound.stopScanIfActive.references
  · rw [Service.exitDiscoveredDevice, Service.cancelInactive]
    split
    · rfl
    · rfl
  · next here =>
      rw [Service.exitConnectingToDiscovered, if_pos (kept.resolve_left fun other => other here)]
      rfl
  · rfl
  · rfl
  · rfl
  · rfl
  · rfl
  · rfl

theorem gattCid_exitState (s : Service) (new : State) : (s.exitState new).gattCid = s.gattCid := by
  rw [Service.exitState]
  split
  · rw [Service.exitDiscover]
    split
    · rfl
    · exact (Bound.stopScanIfActive (s := s.cancelAll .timeoutAdvertBackoff)).gattCid
  · exact Bound.stopScanIfActive.gattCid
  · rw [Service.exitDiscoveredDevice, Service.cancelInactive]
    split
    · rfl
    · rfl
  · rw [Service.exitConnectingToDiscovered]
    split
    · rfl
    · rfl
  · rfl
  · rfl
  · rfl
  · rfl
  · rfl
  · rfl

theorem gattCid_exitSuperStates (client : new.clientState = true) :
    (s.exitSuperStates new).gattCid = s.gattCid := by
  have quiet : (if s.state.advertisingState && !new.advertisingState then
      s.exitAdvertisingState else s).gattCid = s.gattCid := by
    split
    · rfl
    · rfl
  refine Eq.trans ?_ quiet
  rw [Service.exitSuperStates, client, Bool.not_true, Bool.and_false]
  rfl

structure LeftLink (s : Service) (new : State) (left : Service) : Prop extends Left s new left where
  references : keepsReference s.state new → references left.log = references s.log
  gattCid : new.clientState = true → left.gattCid = s.gattCid
  scanEnable : s.scanEnable = false → left.scanEnable = false

theorem LeftLink.leave (leaves : s.leave new = .ok left) : LeftLink s new left := by
  have different : s.state ≠ new := by
    intro same
    rw [Service.leave, if_pos same] at leaves
    cases leaves
  obtain ⟨other, leaves', left'⟩ := Left.leave different
  cases leaves.symm.trans leaves'
  rw [Service.leave, if_neg different] at leaves
  cases leaves
  exact {
    toLeft := left'
    references := fun kept =>
      (references_exitSuperStates _ _).trans (references_exitState kept)
    gattCid := fun client =>
      (gattCid_exitSuperStates client).trans (gattCid_exitState s new)
    scanEnable := ((Exited.exitState s new).trans (Exited.exitSuperStates _ new)).scanEnable }

theorem Gives.leave {property : Service → Prop}
    (given : ∀ left, LeftLink s new left → property left) : Gives property (s.leave new) := by
  cases leaves : s.leave new with
  | error panic => trivial
  | ok left => exact given left (LeftLink.leave leaves)

theorem clientState_of_joined (joined : new.joined = true) : new.clientState = true := by
  cases new with
  | client | clientAwaitingEncryption | clientPreparing | clientDeciding | clientAwaitingConfirm =>
    rfl
  | _ => exact absurd joined (by decide)

section

variable (attached : Attached s)

include attached

theorem Attached.leave (kept : keepsReference s.state new)
    (linked : new.linked = true) (joined : new.joined = true → s.gattCid.isSome = true) :
    Gives (fun left => Attached left ∧ left.state = new) (s.leave new) := by
  refine Gives.leave fun left left' => ⟨?_, left'.state⟩
  exact {
    references := by rw [left'.references kept, left'.peer, attached.references]
    linked := by rw [left'.state, linked]
    untimed := fun member => attached.untimed (left'.fewer _ member)
    scanEnable := left'.scanEnable attached.scanEnable
    joined := by
      rw [left'.state]
      intro isJoined
      rw [left'.gattCid (clientState_of_joined isJoined)]
      exact joined isJoined }

theorem Attached.leaveConnecting (here : s.state = .connectingToDiscovered)
    (unkept : ¬ (new = .serverAwaitingEncryption ∨ new = .client)) : Gives Clear (s.leave new) := by
  have released : Clear (s.exitState new) := by
    rw [Service.exitState, here]
    change Clear (s.exitConnectingToDiscovered new)
    rw [Service.exitConnectingToDiscovered, if_neg unkept]
    change (PeerFindRole.references s.log).erase s.peerConnection = []
    rw [attached.references, List.erase_cons_head]
  rw [Service.leave]
  split
  · trivial
  · exact (references_exitSuperStates _ _).trans released

theorem Attached.disconnectLink (connected : s.gattCid.isSome = true) :
    Clear s.disconnectLink.1 ∧ s.disconnectLink.2 = true := by
  rw [Service.disconnectLink, if_pos connected]
  refine ⟨?_, rfl⟩
  change (PeerFindRole.references s.log).erase s.peerConnection = []
  rw [attached.references, List.erase_cons_head]

theorem Attached.setServerAwaitingEncryption : Gives Attached s.setServerAwaitingEncryption :=
  (attached.leave (.inr (.inl rfl)) rfl fun joined => absurd joined (by decide)).bind
    fun _ left => left.1.bound (Bound.note rfl fun _ => rfl)

theorem Attached.setServer (kept : s.state ≠ .connectingToDiscovered) :
    Gives Attached s.setServer :=
  (attached.leave (.inl kept) rfl fun joined => absurd joined (by decide)).bind fun _ left =>
    left.1.bound (Bound.updateServerScore.trans (Bound.send (by decide)))

theorem Attached.prepareForRoleSelection
    {further : Service → Except Panic Service} (goesOn : Gives Attached (further s)) :
    Gives Attached (s.prepareForRoleSelection further) := by
  rw [Service.prepareForRoleSelection]
  split
  · exact goesOn
  · have asked : Bound s { s with pendingPrepareTasks := s.prepareTasks } := .of_eq rfl
    exact attached.bound (asked.trans (Bound.note rfl fun _ => rfl))

theorem Attached.setServerPreparing
    (kept : s.state ≠ .connectingToDiscovered) : Gives Attached s.setServerPreparing := by
  refine (attached.leave (.inl kept) rfl fun joined => absurd joined (by decide)).bind
    fun left entered => ?_
  refine entered.1.prepareForRoleSelection (entered.1.setServer ?_)
  exact entered.2.trans_ne (by decide)

theorem Attached.setServerAwaitingCompletion (kept : s.state ≠ .connectingToDiscovered) :
    Gives (fun s => Attached s ∧ s.state = .serverAwaitingCompletion)
      s.setServerAwaitingCompletion :=
  (attached.leave (.inl kept) rfl fun joined => absurd joined (by decide)).bind
    fun _ left => ⟨left.1.bound (Bound.send (by decide)), left.2⟩

section

variable (here : s.state.joined = true)

include here

theorem Attached.leaveJoined (linked : new.linked = true) :
    Gives (fun left => Attached left ∧ left.state = new) (s.leave new) := by
  refine attached.leave (.inl fun same => ?_) linked fun _ => attached.joined here
  rw [same] at here
  exact absurd here (by decide)

theorem Attached.decideRoles : Gives Attached s.decideRoles := by
  have confirms : ∀ scored, Bound s scored → Gives Attached
      ({ scored with remoteRole := s.decidedRole }.note
        (.changePeerRole s.decidedRole)).setClientAwaitingConfirm := by
    intro scored bound
    have decided : Bound s ({ scored with remoteRole := s.decidedRole }.note
        (.changePeerRole s.decidedRole)) :=
      (Bound.note rfl fun _ => rfl).after
        (bound.trans (.of_eq rfl))
    have still := decided.state ▸ here
    exact ((attached.bound decided).leaveJoined still rfl).mono fun _ left => left.1
  rw [Service.decideRoles]
  split
  · exact attached
  · apply confirms
    split
    · exact .of_eq rfl
    · exact Bound.refl s

theorem Attached.setClientDeciding : Gives Attached s.setClientDeciding := by
  refine (attached.leaveJoined here rfl).bind fun left entered => ?_
  have joined : left.state.joined = true := by
    rw [entered.2]
    rfl
  exact (entered.1.bound (Bound.send (by decide))).decideRoles joined

theorem Attached.setClientPreparing : Gives Attached s.setClientPreparing := by
  refine (attached.leaveJoined here rfl).bind fun left entered => ?_
  have joined : left.state.joined = true := by
    rw [entered.2]
    rfl
  exact entered.1.prepareForRoleSelection (entered.1.setClientDeciding joined)

theorem Attached.setClientAwaitingEncryption : Gives Attached s.setClientAwaitingEncryption := by
  refine (attached.leaveJoined here rfl).bind fun left entered => ?_
  have joined : left.state.joined = true := by
    rw [entered.2]
    rfl
  rw [Service.enterAwaitingEncryption]
  split
  · exact entered.1.setClientPreparing joined
  · exact entered.1

end

theorem Attached.setClient (connected : s.gattCid.isSome = true) :
    Gives (fun next => Attached next ∧ next.peerConnection = s.peerConnection) s.setClient := by
  have leaves : Gives (fun left => Attached left ∧ left.peerConnection = s.peerConnection)
      (s.leave .client) := by
    have kept : keepsReference s.state .client := .inr (.inr rfl)
    have entered := attached.leave kept rfl fun _ => connected
    cases result : s.leave .client with
    | error panic => trivial
    | ok left =>
      rw [result] at entered
      exact ⟨entered.1, (LeftLink.leave result).peer⟩
  refine leaves.bind fun left entered => ?_
  have untimed := entered.1.bound (Bound.cancelInitialTimeout (s := left))
  rw [Service.enterClient]
  split
  · trivial
  · next cid connected =>
      dsimp only
      split
      · refine ⟨?_, entered.2⟩
        exact {
          references := untimed.references
          linked := untimed.linked
          untimed := fun member => untimed.untimed (List.mem_of_mem_filter
            ((List.mem_cons.mp member).resolve_left (by decide)))
          scanEnable := untimed.scanEnable
          joined := fun _ => Option.isSome_iff_exists.mpr ⟨cid, connected⟩ }
      · trivial

theorem Attached.setCompleted
    (connected : s.state ≠ .connectingToDiscovered → s.gattCid.isSome = true) :
    Gives Clear s.setCompleted := by
  by_cases here : s.state = .connectingToDiscovered
  · exact (attached.leaveConnecting here (by decide)).bind fun _ clear => clear.enterCompleted
  · have leaves : Gives (fun left => Clear left.disconnectLink.1 ∧ left.disconnectLink.2 = true)
        (s.leave .completed) := by
      refine Gives.leave fun left left' => ?_
      have same : left.gattCid = s.gattCid := left'.gattCid rfl
      have releases : left.gattCid.isSome = true := by
        rw [same]
        exact connected here
      rw [Service.disconnectLink, if_pos releases]
      refine ⟨?_, rfl⟩
      change (PeerFindRole.references left.log).erase left.peerConnection = []
      rw [left'.references (.inl here), left'.peer, attached.references, List.erase_cons_head]
    refine leaves.bind fun left released => ?_
    rw [Service.enterCompleted, if_pos released.2]
    exact released.1

theorem Attached.completed (connected :
    s.state ≠ .connectingToDiscovered → s.state ≠ .server → s.gattCid.isSome = true)
    (role : Role) : Gives Referenced (s.completed role) := by
  have bound : Bound s (s.reportCompleted role) := Bound.reportCompleted role
  have reported := attached.bound bound
  have changed : Gives (fun next => Clear next ∨
      Attached next ∧ next.state = .serverAwaitingCompletion)
      (s.reportCompleted role).stateCompleted := by
    rw [Service.stateCompleted]
    split
    · next here => exact absurd (reported.elsewhere here) (by decide)
    · next here =>
        have kept : (s.reportCompleted role).state ≠ .connectingToDiscovered :=
          (here.trans_ne (by decide))
        exact (reported.setServerAwaitingCompletion kept).mono fun _ entered => .inr entered
    · next here => exact absurd (reported.elsewhere here) (by decide)
    · next notServer _ =>
        refine (reported.setCompleted fun away => ?_).mono fun _ clear => .inl clear
        rw [bound.gattCid]
        exact connected (bound.state ▸ away) (bound.state ▸ notServer)
  refine changed.bind fun next cleared => ?_
  cases cleared with
  | inl clear => exact .inl clear
  | inr entered =>
    exact .inr {
      references := entered.1.references
      linked := entered.1.linked
      untimed := entered.1.untimed
      scanEnable := entered.1.scanEnable
      joined := fun joined => by
        change next.state.joined = true at joined
        rw [entered.2] at joined
        exact absurd joined (by decide) }

end

end Attached

section Handlers

variable {s : Service} {event : Event × Answers}

theorem Attached.connecting (attached : Attached s) (here : s.state = .connectingToDiscovered) :
    Gives Clear s.setDiscover :=
  (attached.leaveConnecting here (by decide)).bind fun _ clear => clear.enterDiscover

variable {result : Except Panic Service}

theorem Gives.clear (gives : Gives Clear result) : Gives Referenced result :=
  gives.mono fun _ clear => .inl clear

theorem Gives.attached (gives : Gives Attached result) : Gives Referenced result :=
  gives.mono fun _ attached => .inr attached

section

variable (attached : Attached s)

include attached

theorem Attached.gattConnect (cid : Nat) (found : Option (TypedBdaddr × Bool))
    (named : s.replacesPeer (.gattConnect cid found) = false) :
    Gives Referenced (s.gattConnect cid found) := by
  have same : ∀ taddr isPeer, s.replacesPeer (.gattConnect cid (some (taddr, isPeer))) = false →
      isPeer = true → taddr = s.peerConnection := by
    intro taddr isPeer named peer
    rw [Service.replacesPeer, peer, Bool.true_and, bne_eq_false_iff_eq] at named
    exact named
  have connected : Attached { s with gattCid := some cid } :=
    ⟨attached.references, attached.linked, attached.untimed, attached.scanEnable, fun _ => rfl⟩
  have serves : ∀ taddr isPeer, s.replacesPeer (.gattConnect cid (some (taddr, isPeer))) = false →
      Gives Referenced (if isPeer then
        .ok { s with gattCid := some cid, peerConnection := taddr }.resetServerScore
        else .ok s) := by
    intro taddr isPeer named
    split
    · next peer =>
        rw [same taddr isPeer named peer]
        exact .inr (connected.bound Bound.resetServerScore)
    · exact .inr attached
  rw [Service.gattConnect.eq_def]
  split
  · next here => exact absurd (attached.elsewhere here) (by decide)
  · next here => exact absurd (attached.elsewhere here) (by decide)
  · next taddr isPeer here =>
      split
      · next peer =>
          rw [same taddr isPeer named peer]
          refine (connected.setClient rfl).bind fun entered joined => .inr ?_
          have unchanged : { entered with peerConnection := s.peerConnection } = entered := by
            rw [← joined.2]
          change Attached { entered with peerConnection := s.peerConnection }
          rw [unchanged]
          exact joined.1
      · exact (attached.connecting here).clear
  · exact serves _ _ named
  · exact serves _ _ named
  · exact .inr attached

theorem Attached.handleConManagerConnection (taddr : TypedBdaddr) (incoming isPeer : Bool)
    (named : s.replacesPeer (.tpConnectInd taddr incoming isPeer) = false) :
    Gives Attached (s.handleConManagerConnection taddr incoming isPeer) := by
  have connects : ∀ stored, Attached stored → Gives Attached
      (if stored.state = .connectingToDiscovered ∧ incoming = false then
        stored.setServerAwaitingEncryption else .ok stored) := by
    intro stored attached
    split
    · exact attached.setServerAwaitingEncryption
    · exact attached
  apply connects
  split
  · next peer =>
      rw [Service.replacesPeer, peer, Bool.true_and, bne_eq_false_iff_eq] at named
      rw [named]
      exact attached
  · exact attached

theorem Attached.handleConnectionInd (addr : Nat)
    (ble connected : Bool) : Gives Referenced (s.handleConnectionInd addr ble connected) := by
  rw [Service.handleConnectionInd]
  split
  · dsimp only
    split
    · next same =>
        have down : Clear (s.note (.linkDown addr)) := by
          change (PeerFindRole.references s.log).filter _ = []
          rw [attached.references, List.filter_cons_of_neg (by simp [same])]
          rfl
        exact down.connectDisconnectHandler.clear
    · next other =>
        refine .inr ⟨?_, attached.linked, attached.untimed, attached.scanEnable, attached.joined⟩
        change (PeerFindRole.references s.log).filter _ = [s.peerConnection]
        rw [attached.references, List.filter_cons_of_pos (by simpa using Ne.symm other)]
        rfl
  · exact .inr attached

theorem Attached.handleBleSecurity (status : SecurityStatus)
    (serving : s.endsServing (.bleSecurityCfm status) = false) :
    Gives Attached (s.handleBleSecurity status) := by
  rw [Service.handleBleSecurity.eq_def]
  split
  · next here =>
      cases status with
      | success =>
        exact attached.setServerPreparing (here.trans_ne (by decide))
      | fail =>
        rw [Service.endsServing, here] at serving
        exact absurd serving (by decide)
      | pairingInProgress => exact attached
  · exact attached

theorem Attached.connected (serving : (s.gattCid.isNone &&
      (s.state == .serverAwaitingEncryption || s.state == .serverPreparing ||
        s.state == .serverAwaitingCompletion)) = false)
    (away : s.state ≠ .connectingToDiscovered) (notServer : s.state ≠ .server) :
    s.gattCid.isSome = true := by
  by_contra unconnected
  have none : s.gattCid.isNone = true := by
    rw [← Option.not_isSome, Bool.eq_false_of_not_eq_true unconnected]
    rfl
  rw [none, Bool.true_and] at serving
  have linked := attached.linked
  have unjoined : s.state.joined ≠ true := fun joined => unconnected (attached.joined joined)
  cases here : s.state with
  | connectingToDiscovered => exact away here
  | server => exact notServer here
  | serverAwaitingEncryption | serverPreparing | serverAwaitingCompletion => simp [here] at serving
  | client | clientAwaitingEncryption | clientPreparing | clientDeciding | clientAwaitingConfirm =>
    exact unjoined (here ▸ rfl)
  | uninitialised | initialised | checkingPeer | discover | discoverConnectable | discoveredDevice
  | completed => exact absurd (here ▸ linked) (by decide)

theorem Attached.handleChangeRoleInd (command : Opcode)
    (serving : s.endsServing (.changeRoleInd command) = false) :
    Gives Referenced (s.handleChangeRoleInd command) := by
  rw [Service.handleChangeRoleInd]
  split
  · next unselected =>
      rw [Service.endsServing, unselected, Option.isNone_none, Bool.true_and] at serving
      exact attached.completed (attached.connected serving) _
  · exact .inr attached

theorem Attached.handleCommandCfm (success : Bool) :
    Gives Referenced (s.handleCommandCfm success) := by
  rw [Service.handleCommandCfm]
  split
  · next confirms =>
      refine attached.completed (fun _ _ => attached.joined ?_) _
      rw [confirms.2]
      rfl
  · exact .inr attached

theorem Attached.handleFigureOfMerit (merit : UInt16) :
    Gives Attached (s.handleFigureOfMerit merit) := by
  have scored : Bound s { s with peerScore := merit } := .of_eq rfl
  rw [Service.handleFigureOfMerit]
  dsimp only
  split
  · next here =>
      refine (attached.bound scored).decideRoles ?_
      rw [here]
      rfl
  · exact attached.bound scored

theorem Attached.handleActiveMessage {message : Message}
    (other : message ≠ .connectToPeer) (client : message = .clientInitCfm → s.state = .client)
    (untimed : message ≠ .timeoutDiscovery)
    (serving : message = .timeoutNotDisconnected → s.state ≠ .serverAwaitingCompletion) :
    Gives Referenced (s.handleActiveMessage message) := by
  cases message with
  | connectToPeer => exact absurd rfl other
  | timeoutDiscovery => exact absurd rfl untimed
  | clientInitCfm =>
    refine (attached.setClientAwaitingEncryption ?_).attached
    rw [client rfl]
    rfl
  | updateScore => exact .inr (attached.bound Bound.updateServerScore)
  | enableScanning =>
    refine .inr ?_
    rw [Service.handleEnableScanning]
    split
    · exact attached.bound Bound.asked
    · split
      · next searching =>
          cases searching with
          | inl here => exact absurd (attached.elsewhere here) (by decide)
          | inr here => exact absurd (attached.elsewhere here) (by decide)
      · exact attached.bound Bound.asked
  | timeoutAdvertBackoff =>
    rw [Service.handleActiveMessage]
    split
    · next here => exact absurd (attached.elsewhere here) (by decide)
    · exact .inr attached
  | timeoutPeerConnection =>
    rw [Service.handleActiveMessage]
    split
    · next here => exact (attached.connecting here).clear
    · exact .inr attached
  | timeoutNotDisconnected =>
    rw [Service.handleActiveMessage, Service.handleDisconnectTimeout]
    split
    · next here => exact absurd here (serving rfl)
    · exact .inr attached
  | timeoutServerRoleSelected =>
    rw [Service.handleActiveMessage, Service.handleServerRoleSelectedTimeout]
    split
    · by_cases connected : s.gattCid.isSome = true
      · exact .inl (attached.disconnectLink connected).1
      · rw [Service.disconnectLink, if_neg connected]
        exact .inr (attached.bound (.of_eq rfl))
    · exact .inr attached
  | timeoutNoFomReceived =>
    rw [Service.handleActiveMessage, Service.handleTimeoutNoFomReceived]
    split
    · trivial
    · exact .inr attached
  | prepared =>
    rw [Service.handleActiveMessage, Service.handlePrepared]
    split
    · next here =>
        exact (attached.setServer fun same =>
          absurd (here.symm.trans same) (by decide)).attached
    · next here =>
        refine (attached.setClientDeciding ?_).attached
        rw [here]
        rfl
    · exact .inr attached
  | attemptAdvertising =>
    rw [Service.handleActiveMessage]
    split
    · rw [Service.enableAdvertising]
      split
      · exact .inr (attached.bound (.of_eq rfl))
      · trivial
    · exact .inr attached
  | cancelFindRole | telephonyActive | telephonyIdle | streamingActive | streamingIdle =>
    exact .inr attached

theorem Attached.deliver (orderly : Orderly s) {message : Message}
    (queued : message ∈ s.queue) (serving : s.endsServing (.deliver message) = false) :
    Gives Referenced ({ s with queue := s.queue.erase message }.handleMessage message) := by
  have erased : Attached { s with queue := s.queue.erase message } :=
    ⟨attached.references, attached.linked,
      fun member => attached.untimed (List.mem_of_mem_erase member), attached.scanEnable,
      attached.joined⟩
  rw [Service.handleMessage.eq_def]
  split
  case h_1 =>
    refine erased.completed ?_ .cancelled
    exact attached.connected serving
  case h_6 =>
    split
    · refine erased.handleActiveMessage ?_ ?_ ?_ ?_
      · intro same
        subst same
        exact absurd (attached.elsewhere (orderly.discoveredDevice_of_mem queued)) (by decide)
      · intro same
        subst same
        exact orderly.client_of_mem queued
      · intro same
        subst same
        exact attached.untimed queued
      · intro same here
        subst same
        change s.state = .serverAwaitingCompletion at here
        rw [Service.endsServing, here] at serving
        exact absurd serving (by decide)
    · exact .inr erased
  all_goals exact .inr (erased.bound (Bound.updateMediaFlag _ _))

/-- What one event does while a reference is held -/
theorem Attached.handle (orderly : Orderly s)
    (possible : s.possible event.1 = true) (named : s.replacesPeer event.1 = false)
    (serving : s.endsServing event.1 = false) : Gives Referenced (s.handle event.1) := by
  obtain ⟨event, answers⟩ := event
  cases event with
  | findRole highSpeedTimeMs =>
    change Gives Referenced (s.findRole highSpeedTimeMs)
    rw [Service.findRole]
    split
    · next here => exact absurd (attached.elsewhere here) (by decide)
    · exact .inr attached
  | findRoleCancel =>
    exact .inr (attached.bound (Bound.cancelInitialTimeout.trans (Bound.send (by decide))))
  | disableScanning disable => exact .inr (attached.bound (Bound.updateMediaFlag disable _))
  | registerPrepareClient task =>
    change Referenced (s.registerPrepareClient task)
    rw [Service.registerPrepareClient]
    split
    · exact .inr attached
    · exact .inr (attached.bound (.of_eq rfl))
  | unregisterPrepareClient task =>
    exact .inr (attached.bound (Bound.unregisterPrepareClient task))
  | prepareResponse task => exact .inr (attached.bound (Bound.prepareResponse task))
  | overrideScore score =>
    have scored : Bound s { s with scoreOverride := score } := .of_eq rfl
    exact .inr (attached.bound (scored.trans Bound.updateServerScore))
  | encryptionChange isPeer encrypted =>
    have changed : Bound s { s with gattEncrypted := encrypted } := .of_eq rfl
    change Gives Referenced (s.handleEncryptionChange isPeer encrypted)
    rw [Service.handleEncryptionChange]
    split
    · dsimp only
      split
      · next awaited =>
          have here : s.state = .clientAwaitingEncryption :=
            eq_of_beq (Bool.and_eq_true_iff.mp awaited).2
          refine ((attached.bound changed).setClientPreparing ?_).attached
          rw [changed.state, here]
          rfl
      · exact .inr (attached.bound changed)
    · exact .inr attached
  | gattConnect cid found => exact attached.gattConnect cid found named
  | scanStartCfm status =>
    refine .inr ?_
    cases status with
    | success => exact { attached with }
    | busy =>
      rw [Service.handleLeScanManagerStartCfm, attached.scanEnable]
      exact attached
    | failure => exact attached
  | scanStopCfm status =>
    refine .inr ?_
    cases status with
    | success =>
      have idle : Attached { s with scanActivity := false } :=
        { attached with }
      rw [Service.handleLeScanManagerStopCfm]
      dsimp only
      split
      · exact idle.bound ⟨⟨rfl, rfl, rfl, id, rfl, id, rfl, rfl⟩, rfl, rfl⟩
      · split
        · next enabled => exact absurd (attached.scanEnable.symm.trans enabled) (by decide)
        · exact idle
    | busy =>
      rw [Service.handleLeScanManagerStopCfm, attached.scanEnable]
      exact attached.bound Bound.stopScanIfActive
    | failure => exact attached
  | changeRoleInd command =>
    exact Gives.whenActive (.inr attached) fun _ => attached.handleChangeRoleInd command serving
  | commandCfm success =>
    exact Gives.whenActive (.inr attached) fun _ => attached.handleCommandCfm success
  | figureOfMeritInd merit =>
    exact Gives.whenActive (.inr attached) fun _ => (attached.handleFigureOfMerit merit).attached
  | selectDatasetCfm success =>
    refine Gives.whenActive (.inr attached) fun _ => ?_
    change Referenced (if success then s else { s with advertActivity := false })
    split
    · exact .inr attached
    · exact .inr (attached.bound (.of_eq rfl))
  | releaseDatasetCfm =>
    exact .inr (attached.bound (.of_eq rfl))
  | advReportInd current isPeer =>
    refine Gives.whenActive (.inr attached) fun _ => ?_
    rw [Service.handleAdvReportInd]
    split
    · next searching =>
        cases searching.1 with
        | inl here => exact absurd (attached.elsewhere here) (by decide)
        | inr here => exact absurd (attached.elsewhere here) (by decide)
    · exact .inr attached
  | bleSecurityCfm status =>
    exact Gives.whenActive (.inr attached) fun _ =>
      (attached.handleBleSecurity status serving).attached
  | tpConnectInd taddr incoming isPeer =>
    exact Gives.whenActive (.inr attached) fun _ =>
      (attached.handleConManagerConnection taddr incoming isPeer named).attached
  | connectionInd addr ble connected => exact attached.handleConnectionInd addr ble connected
  | telephonyEvent active =>
    exact .inr (attached.bound ⟨Still.handleTelephonyEvent active, rfl, rfl⟩)
  | streamingEvent active =>
    exact .inr (attached.bound ⟨Still.handleStreamingEvent active, rfl, rfl⟩)
  | deliver message =>
    have queued : message ∈ s.queue := List.contains_iff_mem.mp (Bool.and_eq_true_iff.mp possible).1
    exact attached.deliver orderly queued serving

end

theorem Clear.deliverConnect (clear : Clear s) (orderly : Orderly s)
    (queued : .connectToPeer ∈ s.queue) :
    Gives Referenced ({ s with queue := s.queue.erase .connectToPeer }.handleMessage
      .connectToPeer) := by
  have found := orderly.discoveredDevice_of_mem queued
  have connects : Gives Attached
      (Service.setConnectingToDiscovered { s with queue := s.queue.erase .connectToPeer }) := by
    refine (Gives.leave fun left left' => ?_ : Gives (fun left =>
      Attached left.enterConnectingToDiscovered) _).bind fun left attached => attached
    have held : references left.log = [] := by
      refine (left'.references (.inl ?_)).trans clear
      rw [found]
      decide
    exact {
      references := by
        change left.peerConnection :: references left.log = [left.peerConnection]
        rw [held]
      linked := by
        change left.state.linked = true
        rw [left'.state]
        rfl
      untimed := fun member => by
        have kept := (List.mem_cons.mp member).resolve_left (by decide)
        exact orderly.timeout (.inl found) (List.mem_of_mem_erase (left'.fewer _ kept))
      scanEnable := left'.scanEnable (orderly.discovered found).1
      joined := fun joined => by
        change left.state.joined = true at joined
        rw [left'.state] at joined
        exact absurd joined (by decide) }
  have active : s.state.isActive = true := by
    rw [found]
    rfl
  change Gives Referenced (if s.state.isActive then
    Service.setConnectingToDiscovered { s with queue := s.queue.erase .connectToPeer } else _)
  rw [if_pos active]
  exact connects.attached

theorem Referenced.handle (referenced : Referenced s) (orderly : Orderly s)
    (releasing : s.Releasing event) (possible : s.possible event.1 = true) :
    Gives Referenced (s.handle event.1) := by
  cases referenced with
  | inl clear =>
    by_cases connects : event.1 = .deliver .connectToPeer
    · rw [connects] at possible ⊢
      exact clear.deliverConnect orderly
        (List.contains_iff_mem.mp (Bool.and_eq_true_iff.mp possible).1)
    · exact (clear.handle connects).clear
  | inr attached =>
    have held : references s.log ≠ [] := by
      rw [attached.references]
      exact List.cons_ne_nil _ _
    exact attached.handle orderly possible (releasing.2 held).1 (releasing.2 held).2

end Handlers

namespace Service

variable {s : Service} {fixedRole : FixedRole}

theorem proceed_referenced (orderly : Orderly s) (referenced : Referenced s)
    {event : Event × Answers} (releasing : s.Releasing event) {next : Service}
    (proceeds : s.proceed event = some next) : Referenced next := by
  have answered : Bound s { s with answers := event.2 } := .of_eq rfl
  have still : Referenced { s with answers := event.2 } := by
    cases referenced with
    | inl clear => exact .inl clear
    | inr attached => exact .inr (attached.bound answered)
  rw [proceed] at proceeds
  split at proceeds
  · next steps =>
      cases proceeds
      rw [step] at steps
      split at steps
      · next possible =>
          have handled := still.handle (orderly.still answered.toStill) releasing possible
          rw [Option.some.inj steps] at handled
          exact handled
      · contradiction
  · contradiction

def servesPeer : List (Event × Answers) :=
  findsPeer ++ ([(.deliver .connectToPeer, {}), (.tpConnectInd peerAddress false true, {}),
    (.bleSecurityCfm .success, {}), (.gattConnect 5 (some (peerAddress, true)), {}),
    (.changeRoleInd .becomeSecondary, {})] : List (Event × Answers))

def closedByPeer : List (Event × Answers) :=
  servesPeer ++ ([(.connectionInd peerAddress.addr true false, {})] : List (Event × Answers))

end Service

end HeadsetAdk.PeerFindRole
