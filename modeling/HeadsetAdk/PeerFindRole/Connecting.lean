import HeadsetAdk.Lib.EventLog
import HeadsetAdk.PeerFindRole.Handlers

/-! # Connecting to the discovered peer -/

namespace HeadsetAdk.PeerFindRole

open ConManager (TypedBdaddr)

structure Visit where
  old : State
  new : State
  peer : TypedBdaddr
  deriving DecidableEq

def Entry.visit : Entry → Option Visit
  | .entered old new peer => some ⟨old, new, peer⟩
  | _ => none

/-- The states that were entered, the last one first -/
def visits (log : List Entry) : List Visit := log.filterMap Entry.visit

/-- The last state that was entered is `DISCOVERED_DEVICE`, with that address of the peer. -/
def Discovered (earlier : List Visit) (peer : TypedBdaddr) : Prop :=
  ∃ old, earlier.head? = some ⟨old, .discoveredDevice, peer⟩

/-- `CONNECTING_TO_DISCOVERED` was only entered from `DISCOVERED_DEVICE`, and with the address of
the peer that was discovered in that visit. -/
def ConnectsToDiscovered : List Visit → Prop
  | [] => True
  | visit :: earlier =>
      (visit.new = .connectingToDiscovered →
        visit.old = .discoveredDevice ∧ Discovered earlier visit.peer) ∧
      ConnectsToDiscovered earlier

namespace Service

variable (s : Service)

/-- The events that end a visit of `DISCOVERED_DEVICE`, apart from the message to connect and a
connection with the peer, which cancels that message -/
def abandonsDiscovered : Event → Bool
  | .gattConnect _ (some (_, isPeer)) => !isPeer
  | .changeRoleInd _ => s.selectedRole.isNone
  | .deliver .cancelFindRole => true
  | _ => false

/-- The events that end a visit of `CLIENT`, apart from the confirmation of the role selection
client -/
def abandonsClient : Event → Bool
  | .connectionInd addr ble connected => ble && !connected && addr == s.peerConnection.addr
  | .changeRoleInd _ => s.selectedRole.isNone
  | .deliver .cancelFindRole => true
  | _ => false

def renamesPeer : Event → Bool
  | .tpConnectInd taddr _ isPeer => isPeer && taddr != s.peerConnection
  | _ => false

/-- The event does not end a visit of `DISCOVERED_DEVICE` when the message to connect has been
released, nor one of `CLIENT` before the confirmation, nor changes the discovered address. -/
def Undisturbed (event : Event × Answers) : Prop :=
  (s.state = .discoveredDevice →
    (s.scanActivity = false → s.abandonsDiscovered event.1 = false) ∧
      s.renamesPeer event.1 = false) ∧
  (s.state = .client → s.abandonsClient event.1 = false)

instance (event : Event × Answers) : Decidable (s.Undisturbed event) :=
  inferInstanceAs (Decidable (_ ∧ _))

def proceed (event : Event × Answers) : Option Service :=
  match s.step event with
  | some (.ok next) => some next
  | _ => none

end Service

section Outcomes

def Yields (property : Service → Prop) : Except Panic Service → Prop
  | .ok s => property s
  | .error panic => panic ≠ .sameState

variable {property next : Service → Prop} {s : Service} {result : Except Panic Service}

theorem Yields.bind {handler : Service → Except Panic Service} (yields : Yields property result)
    (handled : ∀ s, property s → Yields next (handler s)) : Yields next (result >>= handler) := by
  cases result with
  | error panic => exact yields
  | ok s => exact handled s yields

theorem Yields.mono (yields : Yields property result) (implied : ∀ s, property s → next s) :
    Yields next result := by
  cases result with
  | error panic => exact yields
  | ok s => exact implied s yields

theorem Yields.failedCheck : Yields property (.error .failedCheck) := by
  intro same
  cases same

theorem Yields.whenActive {handler : Except Panic Service} (idle : property s)
    (active : s.state.isActive = true → Yields property handler) :
    Yields property (s.whenActive handler) := by
  rw [Service.whenActive]
  split
  · exact active (by assumption)
  · exact idle

end Outcomes

/-- Nothing that the messages sent on entering a state depend on is changed. -/
structure Still (s next : Service) : Prop where
  state : next.state = s.state
  connect : next.queue.count .connectToPeer = s.queue.count .connectToPeer
  confirmed : next.queue.count .clientInitCfm = s.queue.count .clientInitCfm
  timeout : .timeoutDiscovery ∈ next.queue → .timeoutDiscovery ∈ s.queue
  visits : visits next.log = visits s.log
  scanEnable : s.scanEnable = false → next.scanEnable = false
  peer : next.peerConnection = s.peerConnection
  scanActivity : next.scanActivity = s.scanActivity

def Service.watched (s : Service) :=
  (s.state, s.queue, s.log, s.scanEnable, s.peerConnection, s.scanActivity)

namespace Still

variable {s next last : Service} {message : Message} {entry : Entry}

theorem refl (s : Service) : Still s s := ⟨rfl, rfl, rfl, id, rfl, id, rfl, rfl⟩

theorem of_eq (same : next.watched = s.watched) : Still s next := by
  simp only [Service.watched, Prod.mk.injEq] at same
  obtain ⟨state, queue, log, scanEnable, peer, scanActivity⟩ := same
  exact ⟨state, by rw [queue], by rw [queue], fun member => queue ▸ member, by rw [log],
    fun disabled => scanEnable.trans disabled, peer, scanActivity⟩

theorem trans (first : Still s next) (second : Still next last) : Still s last where
  state := second.state.trans first.state
  connect := second.connect.trans first.connect
  confirmed := second.confirmed.trans first.confirmed
  timeout member := first.timeout (second.timeout member)
  visits := second.visits.trans first.visits
  scanEnable disabled := second.scanEnable (first.scanEnable disabled)
  peer := second.peer.trans first.peer
  scanActivity := second.scanActivity.trans first.scanActivity

theorem note (unvisited : entry.visit = none) : Still s (s.note entry) where
  state := rfl
  connect := rfl
  confirmed := rfl
  timeout := id
  visits := List.filterMap_cons_none unvisited
  scanEnable := id
  peer := rfl
  scanActivity := rfl

theorem send (unrelated : message ∉ [Message.connectToPeer, .clientInitCfm, .timeoutDiscovery]) :
    Still s (s.send message) := by
  simp only [List.mem_cons, List.not_mem_nil, or_false, not_or] at unrelated
  obtain ⟨notConnect, notConfirmed, notTimeout⟩ := unrelated
  exact {
    state := rfl
    connect := List.count_cons_of_ne notConnect
    confirmed := List.count_cons_of_ne notConfirmed
    timeout := fun member =>
      (List.mem_cons.mp member).resolve_left fun same => notTimeout same.symm
    visits := rfl
    scanEnable := id
    peer := rfl
    scanActivity := rfl }

theorem count_filter {other : Message} (different : message ≠ other) (queue : List Message) :
    (queue.filter fun queued => queued != message).count other = queue.count other := by
  rw [List.count_filter]
  simpa [bne_iff_ne] using different.symm

theorem cancelAll (unrelated : message ∉ [Message.connectToPeer, .clientInitCfm]) :
    Still s (s.cancelAll message) := by
  simp only [List.mem_cons, List.not_mem_nil, or_false, not_or] at unrelated
  obtain ⟨notConnect, notConfirmed⟩ := unrelated
  exact {
    state := rfl
    connect := count_filter notConnect s.queue
    confirmed := count_filter notConfirmed s.queue
    timeout := fun member => List.mem_of_mem_filter member
    visits := rfl
    scanEnable := id
    peer := rfl
    scanActivity := rfl }

theorem erase (unrelated : message ∉ [Message.connectToPeer, .clientInitCfm]) :
    Still s { s with queue := s.queue.erase message } := by
  simp only [List.mem_cons, List.not_mem_nil, or_false, not_or] at unrelated
  obtain ⟨notConnect, notConfirmed⟩ := unrelated
  exact {
    state := rfl
    connect := List.count_erase_of_ne fun same => notConnect same.symm
    confirmed := List.count_erase_of_ne fun same => notConfirmed same.symm
    timeout := fun member => List.mem_of_mem_erase member
    visits := rfl
    scanEnable := id
    peer := rfl
    scanActivity := rfl }

theorem after (second : Still next last) (first : Still s next) : Still s last :=
  first.trans second

theorem disconnectLink : Still s s.disconnectLink.1 := by
  have unencrypted : Still s { s with gattEncrypted := false } := .of_eq rfl
  rw [Service.disconnectLink]
  split
  · exact unencrypted.trans (note rfl)
  · exact unencrypted

end Still

def Entry.references : Entry → List TypedBdaddr → List TypedBdaddr
  | .createAcl peer, held => peer :: held
  | .releaseAcl peer, held => held.erase peer
  | .linkDown addr, held => held.filter fun peer => peer.addr != addr
  | _, held => held

/-- The references that were taken and not given back since -/
def references (log : List Entry) : List TypedBdaddr := log.foldr Entry.references []

/-- What does not concern the link -/
structure Bound (s next : Service) : Prop extends Still s next where
  references : references next.log = references s.log
  gattCid : next.gattCid = s.gattCid

namespace Bound

variable {s next last : Service} {message : Message} {entry : Entry}

theorem refl (s : Service) : Bound s s := ⟨Still.refl s, rfl, rfl⟩

theorem of_eq (same : (next.watched, next.gattCid) = (s.watched, s.gattCid)) : Bound s next := by
  simp only [Prod.mk.injEq] at same
  have log : next.log = s.log := congrArg (·.2.2.1) same.1
  exact ⟨Still.of_eq same.1, by rw [log], same.2⟩

theorem trans (first : Bound s next) (second : Bound next last) : Bound s last :=
  ⟨first.toStill.trans second.toStill, second.references.trans first.references,
    second.gattCid.trans first.gattCid⟩

theorem after (second : Bound next last) (first : Bound s next) : Bound s last :=
  first.trans second

theorem note (unvisited : entry.visit = none)
    (unlinked : ∀ held, entry.references held = held) : Bound s (s.note entry) :=
  ⟨Still.note unvisited, unlinked _, rfl⟩

theorem send (unrelated : message ∉ [Message.connectToPeer, .clientInitCfm, .timeoutDiscovery]) :
    Bound s (s.send message) :=
  ⟨Still.send unrelated, rfl, rfl⟩

theorem cancelAll (unrelated : message ∉ [Message.connectToPeer, .clientInitCfm]) :
    Bound s (s.cancelAll message) :=
  ⟨Still.cancelAll unrelated, rfl, rfl⟩

theorem asked : Bound s s.asked := .of_eq rfl

theorem stopScanIfActive : Bound s s.stopScanIfActive := by
  have stopped : Bound s { s.asked with scanMode := .highDuty, scanEnable := false } :=
    ⟨⟨rfl, rfl, rfl, id, rfl, fun _ => rfl, rfl, rfl⟩, rfl, rfl⟩
  rw [Service.stopScanIfActive]
  split
  · exact stopped.trans (note rfl fun _ => rfl)
  · exact stopped

theorem updateScanModeIfActive : Bound s s.updateScanModeIfActive := by
  have changed : ∀ mode : ScanMode, Bound s ({ s.asked with scanMode := mode }.note .scanStop) :=
    fun mode => (note rfl fun _ => rfl).after (.of_eq rfl)
  rw [Service.updateScanModeIfActive]
  split
  · exact refl s
  · split
    · split
      · exact changed .lowDuty
      · split
        · exact changed .highDuty
        · exact asked
    · exact asked

theorem updateMediaFlag (busy : Bool) (mask : UInt16) : Bound s (s.updateMediaFlag busy mask) := by
  rw [Service.updateMediaFlag]
  split
  · have flagged : Bound s { s with mediaBusy := s.mediaBusy ||| mask } := .of_eq rfl
    exact ((flagged.trans stopScanIfActive).trans (cancelAll (by decide))).trans
      (send (by decide))
  · exact .of_eq rfl

theorem setServerScore (score : UInt16) : Bound s (s.setServerScore score) := by
  rw [Service.setServerScore]
  split
  · exact refl s
  · split
    · exact note rfl fun _ => rfl
    · exact (cancelAll (by decide)).trans (send (by decide))

theorem updateServerScore : Bound s s.updateServerScore :=
  (setServerScore _).after (.of_eq rfl)

theorem resetServerScore : Bound s s.resetServerScore :=
  (setServerScore _).after (.of_eq rfl)

theorem cancelInitialTimeout : Bound s s.cancelInitialTimeout := cancelAll (by decide)

theorem notifyClientsImmediately (role : Role) : Bound s (s.notifyClientsImmediately role) := by
  have told : Bound s { s.cancelInitialTimeout with timeoutMeansTimeout := false } :=
    cancelInitialTimeout.trans (.of_eq rfl)
  exact told.trans (note rfl fun _ => rfl)

theorem notifyClientsIfPending : Bound s s.notifyClientsIfPending := by
  rw [Service.notifyClientsIfPending]
  split
  · exact refl s
  · exact (notifyClientsImmediately _).after (.of_eq rfl)

theorem notifyTimeout : Bound s s.notifyTimeout := by
  rw [Service.notifyTimeout]
  split
  · exact refl s
  · have reset : Bound s { s with roleTimeoutMs := 0 } := .of_eq rfl
    exact (reset.trans (notifyClientsImmediately _)).trans updateScanModeIfActive

theorem reportCompleted (role : Role) : Bound s (s.reportCompleted role) := by
  have reported : Bound s (if role.meansPrimary then
      { s with selectedRole := none }.notifyClientsImmediately role
      else { s with selectedRole := some role, timeoutMeansTimeout := false }) := by
    split
    · exact (notifyClientsImmediately role).after (.of_eq rfl)
    · exact .of_eq rfl
  exact reported.trans (updateMediaFlag _ _)

theorem prepareResponse (task : Task) : Bound s (s.prepareResponse task) := by
  have answered : Bound s { s with pendingPrepareTasks := s.pendingPrepareTasks.erase task } :=
    .of_eq rfl
  rw [Service.prepareResponse]
  split
  · exact refl s
  · dsimp only
    split
    · split
      · exact answered.trans (send (by decide))
      · exact answered
    · exact answered

theorem unregisterPrepareClient (task : Task) : Bound s (s.unregisterPrepareClient task) := by
  have removed : Bound s { s with prepareTasks := s.prepareTasks.erase task } := .of_eq rfl
  rw [Service.unregisterPrepareClient]
  split
  · exact removed.trans (prepareResponse task)
  · exact removed

end Bound

section Leaving

structure Departing (s : Service) : Prop where
  connect : .connectToPeer ∈ s.queue → s.state = .discoveredDevice ∧ s.scanActivity = true
  confirmed : .clientInitCfm ∉ s.queue
  visits : ConnectsToDiscovered (visits s.log)

/-- What `peer_find_role_set_state` has done before it enters the new state -/
structure Left (s : Service) (new : State) (left : Service) : Prop where
  state : left.state = new
  fewer : ∀ message ∈ left.queue, message ∈ s.queue
  cancelled : s.state = .discoveredDevice → s.scanActivity = true → .connectToPeer ∉ left.queue
  visits : visits left.log = ⟨s.state, new, s.peerConnection⟩ :: visits s.log
  peer : left.peerConnection = s.peerConnection
  stopped : new = .discoveredDevice → s.state = .discover ∨ s.state = .discoverConnectable →
    left.scanEnable = false

variable {s left : Service} {new : State}

structure Exited (s left : Service) : Prop where
  state : left.state = s.state
  fewer : ∀ message ∈ left.queue, message ∈ s.queue
  visits : visits left.log = visits s.log
  peer : left.peerConnection = s.peerConnection
  scanEnable : s.scanEnable = false → left.scanEnable = false

theorem Exited.refl (s : Service) : Exited s s := ⟨rfl, fun _ => id, rfl, rfl, id⟩

theorem Exited.trans {next : Service} (first : Exited s left) (second : Exited left next) :
    Exited s next where
  state := second.state.trans first.state
  fewer message member := first.fewer message (second.fewer message member)
  visits := second.visits.trans first.visits
  peer := second.peer.trans first.peer
  scanEnable disabled := second.scanEnable (first.scanEnable disabled)

theorem Exited.cancelAll (message : Message) : Exited s (s.cancelAll message) :=
  ⟨rfl, fun _ member => List.mem_of_mem_filter member, rfl, rfl, id⟩

theorem Exited.stopScanIfActive : Exited s s.stopScanIfActive := by
  have still : Still s s.stopScanIfActive := Bound.stopScanIfActive.toStill
  refine ⟨still.state, ?_, still.visits, still.peer, still.scanEnable⟩
  intro message member
  rw [Service.stopScanIfActive] at member
  split at member
  · exact member
  · exact member

theorem stopScanIfActive_scanEnable : s.stopScanIfActive.scanEnable = false := by
  rw [Service.stopScanIfActive]
  split
  · rfl
  · rfl

theorem Exited.exitConnectingToDiscovered : Exited s (s.exitConnectingToDiscovered new) := by
  have cancelled : Exited s (s.cancelFirst .timeoutPeerConnection) :=
    ⟨rfl, fun _ member => List.mem_of_mem_erase member, rfl, rfl, id⟩
  rw [Service.exitConnectingToDiscovered]
  split
  · exact cancelled
  · exact cancelled.trans ⟨rfl, fun _ => id, rfl, rfl, id⟩

theorem Exited.exitDiscover : Exited s (s.exitDiscover new) := by
  rw [Service.exitDiscover]
  split
  · exact Exited.cancelAll _
  · exact (Exited.cancelAll _).trans Exited.stopScanIfActive

theorem Exited.exitDiscoveredDevice : Exited s s.exitDiscoveredDevice := by
  rw [Service.exitDiscoveredDevice, Service.cancelInactive]
  split
  · exact Exited.cancelAll _
  · exact Exited.refl s

theorem Exited.exitState (s : Service) (new : State) : Exited s (s.exitState new) := by
  rw [Service.exitState]
  split
  case h_1 => exact Exited.exitDiscover
  case h_2 => exact Exited.stopScanIfActive
  case h_3 => exact Exited.exitDiscoveredDevice
  case h_4 => exact Exited.exitConnectingToDiscovered
  case h_10 => exact Exited.refl s
  all_goals exact Exited.cancelAll _

theorem Exited.exitClientState (exited : Exited s left) (condition : Bool) :
    Exited s (if condition then left.exitClientState else left) := by
  split
  · exact exited.trans ⟨rfl, fun _ => id, rfl, rfl, id⟩
  · exact exited

theorem Exited.exitSuperStates (s : Service) (new : State) : Exited s (s.exitSuperStates new) := by
  have quiet : Exited s (if s.state.advertisingState && !new.advertisingState then
      s.exitAdvertisingState else s) := by
    split
    · exact (Exited.cancelAll .attemptAdvertising).trans ⟨rfl, fun _ => id, rfl, rfl, id⟩
    · exact Exited.refl s
  exact quiet.exitClientState _

theorem exitState_cancelled (discovered : s.state = .discoveredDevice)
    (scanning : s.scanActivity = true) : .connectToPeer ∉ (s.exitState new).queue := by
  rw [Service.exitState, discovered]
  change .connectToPeer ∉ s.exitDiscoveredDevice.queue
  rw [Service.exitDiscoveredDevice, Service.cancelInactive, if_pos scanning]
  intro member
  have different := List.of_mem_filter member
  exact absurd different (by decide)

theorem exitState_stopped (searching : s.state = .discover ∨ s.state = .discoverConnectable) :
    (s.exitState .discoveredDevice).scanEnable = false := by
  rw [Service.exitState]
  cases searching with
  | inl discover =>
    rw [discover]
    exact stopScanIfActive_scanEnable
  | inr connectable =>
    rw [connectable]
    exact stopScanIfActive_scanEnable

theorem Left.leave (different : s.state ≠ new) :
    ∃ left, s.leave new = .ok left ∧ Left s new left := by
  have exited : Exited s (s.exitState new) := Exited.exitState s new
  have quiet : Exited (s.exitState new) ((s.exitState new).exitSuperStates new) :=
    Exited.exitSuperStates _ _
  have both := exited.trans quiet
  rw [Service.leave, if_neg different]
  refine ⟨_, rfl, ?_⟩
  exact {
    state := rfl
    fewer := both.fewer
    cancelled := fun discovered scanning member =>
      exitState_cancelled discovered scanning (quiet.fewer _ member)
    visits := by
      rw [← both.visits, ← both.peer]
      rfl
    peer := both.peer
    stopped := fun discovered searching => by
      subst discovered
      exact quiet.scanEnable (exitState_stopped searching) }

end Leaving

section Orderly

structure Orderly (s : Service) : Prop where
  connect : s.queue.count .connectToPeer = if s.state = .discoveredDevice then 1 else 0
  confirmed : s.queue.count .clientInitCfm = if s.state = .client then 1 else 0
  timeout : s.state = .discoveredDevice ∨ s.state = .client → .timeoutDiscovery ∉ s.queue
  discovered : s.state = .discoveredDevice →
    s.scanEnable = false ∧ Discovered (visits s.log) s.peerConnection
  visits : ConnectsToDiscovered (visits s.log)

variable {s next left : Service} {new : State}

section

variable (orderly : Orderly s)

include orderly

theorem Orderly.still (still : Still s next) : Orderly next where
  connect := by rw [still.connect, still.state, orderly.connect]
  confirmed := by rw [still.confirmed, still.state, orderly.confirmed]
  timeout visited member := orderly.timeout (still.state ▸ visited) (still.timeout member)
  discovered found := by
    obtain ⟨disabled, discovered⟩ := orderly.discovered (still.state ▸ found)
    exact ⟨still.scanEnable disabled, still.visits ▸ still.peer ▸ discovered⟩
  visits := still.visits ▸ orderly.visits

theorem Orderly.bound (bound : Bound s next) : Orderly next :=
  orderly.still bound.toStill

theorem Orderly.discoveredDevice_of_mem (queued : .connectToPeer ∈ s.queue) :
    s.state = .discoveredDevice := by
  have positive := List.count_pos_iff.mpr queued
  rw [orderly.connect] at positive
  by_contra other
  rw [if_neg other] at positive
  exact absurd positive (Nat.lt_irrefl 0)

theorem Orderly.client_of_mem (queued : .clientInitCfm ∈ s.queue) : s.state = .client := by
  have positive := List.count_pos_iff.mpr queued
  rw [orderly.confirmed] at positive
  by_contra other
  rw [if_neg other] at positive
  exact absurd positive (Nat.lt_irrefl 0)

theorem Orderly.departing (scanning : s.state = .discoveredDevice → s.scanActivity = true)
    (left : s.state ≠ .client) :
    Departing s where
  connect queued :=
    ⟨orderly.discoveredDevice_of_mem queued, scanning (orderly.discoveredDevice_of_mem queued)⟩
  confirmed queued := left (orderly.client_of_mem queued)
  visits := orderly.visits

end

theorem Departing.still (departing : Departing s) (still : Still s next) : Departing next where
  connect queued := by
    have before : .connectToPeer ∈ s.queue := by
      rw [← List.count_pos_iff, ← still.connect]
      exact List.count_pos_iff.mpr queued
    rw [still.state, still.scanActivity]
    exact departing.connect before
  confirmed queued := by
    apply departing.confirmed
    rw [← List.count_pos_iff, ← still.confirmed]
    exact List.count_pos_iff.mpr queued
  visits := still.visits ▸ departing.visits

/-- No message of a state is queued, and the state is not one with such a message. -/
structure Calm (s : Service) : Prop where
  connect : .connectToPeer ∉ s.queue
  confirmed : .clientInitCfm ∉ s.queue
  visits : ConnectsToDiscovered (visits s.log)

theorem Calm.orderly (calm : Calm s) (elsewhere : s.state ≠ .discoveredDevice)
    (notClient : s.state ≠ .client) : Orderly s where
  connect := by rw [if_neg elsewhere, List.count_eq_zero.mpr calm.connect]
  confirmed := by rw [if_neg notClient, List.count_eq_zero.mpr calm.confirmed]
  timeout visited := (visited.elim elsewhere notClient).elim
  discovered found := absurd found elsewhere
  visits := calm.visits

theorem Calm.departing (calm : Calm s) : Departing s where
  connect queued := absurd queued calm.connect
  confirmed := calm.confirmed
  visits := calm.visits

theorem Calm.send (calm : Calm s) {message : Message}
    (unrelated : message ∉ [Message.connectToPeer, .clientInitCfm]) : Calm (s.send message) := by
  simp only [List.mem_cons, List.not_mem_nil, or_false, not_or] at unrelated
  refine ⟨?_, ?_, calm.visits⟩
  · intro queued
    exact calm.connect ((List.mem_cons.mp queued).resolve_left fun same => unrelated.1 same.symm)
  · intro queued
    exact calm.confirmed ((List.mem_cons.mp queued).resolve_left fun same => unrelated.2 same.symm)

theorem Departing.calm (departing : Departing s) (left' : Left s new left)
    (entered : new = .connectingToDiscovered →
      s.state = .discoveredDevice ∧ Discovered (PeerFindRole.visits s.log) s.peerConnection) :
    Calm left where
  connect queued := by
    obtain ⟨discovered, scanning⟩ := departing.connect (left'.fewer _ queued)
    exact left'.cancelled discovered scanning queued
  confirmed queued := departing.confirmed (left'.fewer _ queued)
  visits := by
    rw [left'.visits]
    exact ⟨entered, departing.visits⟩

theorem Departing.leave (departing : Departing s) (different : s.state ≠ new)
    (elsewhere : new ≠ .connectingToDiscovered) :
    Yields (fun left => Calm left ∧ left.state = new) (s.leave new) := by
  obtain ⟨left, leaves, left'⟩ := Left.leave different
  rw [leaves]
  exact ⟨departing.calm left' fun same => absurd same elsewhere, left'.state⟩

end Orderly

section Entering

variable {s next : Service}

theorem startScanningIfInactive_fields (s : Service) :
    s.startScanningIfInactive.state = s.state ∧ s.startScanningIfInactive.queue = s.queue ∧
      visits s.startScanningIfInactive.log = visits s.log := by
  have updated : s.asked.updateScanModeIfActive.state = s.state ∧
      s.asked.updateScanModeIfActive.queue = s.queue ∧
      visits s.asked.updateScanModeIfActive.log = visits s.log := by
    rw [Service.updateScanModeIfActive]
    repeat' split
    all_goals exact ⟨rfl, rfl, rfl⟩
  rw [Service.startScanningIfInactive]
  split
  · exact ⟨rfl, rfl, rfl⟩
  · split
    · exact updated
    · exact ⟨rfl, rfl, rfl⟩

theorem Calm.startScanningIfInactive (calm : Calm s) : Calm s.startScanningIfInactive := by
  obtain ⟨-, queue, visits⟩ := startScanningIfInactive_fields s
  refine ⟨?_, ?_, ?_⟩
  · rw [queue]
    exact calm.connect
  · rw [queue]
    exact calm.confirmed
  · rw [visits]
    exact calm.visits

theorem Orderly.startScanningIfInactive (orderly : Orderly s)
    (elsewhere : s.state ≠ .discoveredDevice) : Orderly s.startScanningIfInactive := by
  obtain ⟨state, queue, visits⟩ := startScanningIfInactive_fields s
  refine ⟨?_, ?_, ?_, ?_, ?_⟩
  · rw [queue, state]
    exact orderly.connect
  · rw [queue, state]
    exact orderly.confirmed
  · rw [queue, state]
    exact orderly.timeout
  · rw [state]
    exact fun found => absurd found elsewhere
  · rw [visits]
    exact orderly.visits

theorem Calm.enterDiscover (calm : Calm s) (entered : s.state = .discover) :
    Orderly s.enterDiscover := by
  have unconnected : Calm { s with gattCid := none, gattEncrypted := false } :=
    { calm with }
  have timed : Calm (Service.send
      { s with gattCid := none, gattEncrypted := false }.startScanningIfInactive
      .timeoutAdvertBackoff) :=
    unconnected.startScanningIfInactive.send (by decide)
  have state := (startScanningIfInactive_fields
    { s with gattCid := none, gattEncrypted := false }).1.trans entered
  rw [Service.enterDiscover]
  split
  · refine (timed.send (by decide)).orderly ?_ ?_
    · exact state.trans_ne (by decide)
    · exact state.trans_ne (by decide)
  · refine timed.orderly ?_ ?_
    · exact state.trans_ne (by decide)
    · exact state.trans_ne (by decide)

theorem Departing.setDiscover (departing : Departing s) (different : s.state ≠ .discover) :
    Yields Orderly s.setDiscover :=
  (departing.leave different (by decide)).bind fun _ left => left.1.enterDiscover left.2

def Settled (state : State) (s : Service) : Prop := Calm s ∧ s.state = state

theorem Settled.orderly {state : State} (settled : Settled state s)
    (elsewhere : state ≠ .discoveredDevice) (notClient : state ≠ .client) : Orderly s :=
  settled.1.orderly (fun same => elsewhere (settled.2.symm.trans same))
    fun same => notClient (settled.2.symm.trans same)

theorem Departing.setDiscoverConnectable (departing : Departing s)
    (different : s.state ≠ .discoverConnectable) : Yields Orderly s.setDiscoverConnectable := by
  refine (departing.leave different (by decide)).bind fun left entered => ?_
  have scanning : Settled .discoverConnectable left.startScanningIfInactive :=
    ⟨entered.1.startScanningIfInactive, (startScanningIfInactive_fields left).1.trans entered.2⟩
  have orderly := scanning.orderly (by decide) (by decide)
  rw [Service.enterDiscoverConnectable]
  split
  · exact orderly.still (Still.send (by decide))
  · rw [Service.enableAdvertising]
    split
    · exact orderly.still (.of_eq rfl)
    · exact Yields.failedCheck

theorem Departing.setServerAwaitingEncryption (departing : Departing s)
    (different : s.state ≠ .serverAwaitingEncryption) :
    Yields Orderly s.setServerAwaitingEncryption :=
  (departing.leave different (by decide)).bind fun _ left =>
    (Settled.orderly left (by decide) (by decide)).still (Still.note rfl)

theorem Departing.setServer (departing : Departing s) (different : s.state ≠ .server) :
    Yields Orderly s.setServer :=
  (departing.leave different (by decide)).bind fun _ left =>
    (Settled.orderly left (by decide) (by decide)).bound
      (Bound.updateServerScore.trans (Bound.send (by decide)))

theorem Calm.prepareForRoleSelection {state : State} {further : Service → Except Panic Service}
    (settled : Settled state s) (elsewhere : state ≠ .discoveredDevice)
    (notClient : state ≠ .client) (goesOn : Yields Orderly (further s)) :
    Yields Orderly (s.prepareForRoleSelection further) := by
  rw [Service.prepareForRoleSelection]
  split
  · exact goesOn
  · have asked : Still s { s with pendingPrepareTasks := s.prepareTasks } := .of_eq rfl
    exact (settled.orderly elsewhere notClient).still (asked.trans (Still.note rfl))

theorem Departing.setServerPreparing (departing : Departing s)
    (different : s.state ≠ .serverPreparing) : Yields Orderly s.setServerPreparing := by
  refine (departing.leave different (by decide)).bind fun left settled => ?_
  refine Calm.prepareForRoleSelection settled (by decide) (by decide) ?_
  exact settled.1.departing.setServer fun same =>
    absurd (settled.2.symm.trans same) (by decide)

theorem Departing.setServerAwaitingCompletion (departing : Departing s)
    (different : s.state ≠ .serverAwaitingCompletion) :
    Yields Orderly s.setServerAwaitingCompletion :=
  (departing.leave different (by decide)).bind fun _ left =>
    (Settled.orderly left (by decide) (by decide)).still (Still.send (by decide))

theorem Departing.setClientAwaitingConfirm (departing : Departing s)
    (different : s.state ≠ .clientAwaitingConfirm) : Yields Orderly s.setClientAwaitingConfirm :=
  (departing.leave different (by decide)).mono fun _ left =>
    Settled.orderly left (by decide) (by decide)

theorem Orderly.decideRoles (orderly : Orderly s) (deciding : s.state = .clientDeciding) :
    Yields Orderly s.decideRoles := by
  rw [Service.decideRoles]
  split
  · exact orderly
  · have told : ∀ scored, Still s scored → Still s
        ({ scored with remoteRole := s.decidedRole }.note (.changePeerRole s.decidedRole)) :=
      fun scored still => (Still.note rfl).after
        (still.trans (.of_eq rfl))
    have departing := orderly.departing (by simp [deciding]) (by simp [deciding])
    have confirms : ∀ decided, Still s decided →
        Yields Orderly decided.setClientAwaitingConfirm := fun decided still =>
      (departing.still still).setClientAwaitingConfirm fun same =>
        absurd ((still.state.trans deciding).symm.trans same) (by decide)
    apply confirms
    apply told
    split
    · exact .of_eq rfl
    · exact Still.refl s

theorem Departing.setClientDeciding (departing : Departing s)
    (different : s.state ≠ .clientDeciding) : Yields Orderly s.setClientDeciding := by
  refine (departing.leave different (by decide)).bind fun left settled => ?_
  have orderly := Settled.orderly settled (by decide) (by decide)
  exact (orderly.still (Still.send (by decide))).decideRoles settled.2

theorem Departing.setClientPreparing (departing : Departing s)
    (different : s.state ≠ .clientPreparing) : Yields Orderly s.setClientPreparing := by
  refine (departing.leave different (by decide)).bind fun left settled => ?_
  refine Calm.prepareForRoleSelection settled (by decide) (by decide) ?_
  exact settled.1.departing.setClientDeciding fun same =>
    absurd (settled.2.symm.trans same) (by decide)

theorem Departing.setClientAwaitingEncryption (departing : Departing s)
    (different : s.state ≠ .clientAwaitingEncryption) :
    Yields Orderly s.setClientAwaitingEncryption := by
  refine (departing.leave different (by decide)).bind fun left settled => ?_
  rw [Service.enterAwaitingEncryption]
  split
  · exact settled.1.departing.setClientPreparing fun same =>
      absurd (settled.2.symm.trans same) (by decide)
  · exact Settled.orderly settled (by decide) (by decide)

theorem Settled.goesOn (settled : Settled .initialised s) (told : Still s next)
    (keepGoing : Bool) :
    Yields Orderly (if keepGoing then (next.updateMediaFlag true confirmingPrimary).setDiscover
      else .ok next) := by
  split
  · have flagged := told.trans (Bound.updateMediaFlag true confirmingPrimary).toStill
    refine (settled.1.departing.still flagged).setDiscover fun same => ?_
    exact absurd ((flagged.state.trans settled.2).symm.trans same) (by decide)
  · exact (settled.orderly (by decide) (by decide)).still told

theorem Departing.setInitialised (departing : Departing s) (different : s.state ≠ .initialised) :
    Yields Orderly s.setInitialised := by
  refine (departing.leave different (by decide)).bind fun left settled => ?_
  have orderly := Settled.orderly settled (by decide) (by decide)
  have unflagged := (Still.disconnectLink (s := left)).trans
    (Bound.updateMediaFlag false confirmingPrimary).toStill
  rw [Service.enterInitialised]
  split
  · exact orderly.still unflagged
  · split
    · exact Settled.goesOn settled (unflagged.trans Bound.notifyTimeout.toStill) _
    · exact Settled.goesOn settled (unflagged.trans Bound.notifyClientsIfPending.toStill) _

theorem Orderly.selectStateAfterCompletion (orderly : Orderly s) (done : s.state = .completed) :
    Yields Orderly s.selectStateAfterCompletion := by
  have departing := orderly.departing (by simp [done]) (by simp [done])
  rw [Service.selectStateAfterCompletion]
  split
  · exact departing.setDiscover (done.trans_ne (by decide))
  · exact departing.setInitialised (done.trans_ne (by decide))

theorem Departing.setCompleted (departing : Departing s) (different : s.state ≠ .completed) :
    Yields Orderly s.setCompleted := by
  refine (departing.leave different (by decide)).bind fun left settled => ?_
  have orderly := Settled.orderly settled (by decide) (by decide)
  have released := Still.disconnectLink (s := left)
  rw [Service.enterCompleted]
  split
  · exact orderly.still released
  · exact (orderly.still released).selectStateAfterCompletion (released.state.trans settled.2)

theorem Orderly.stateCompleted (orderly : Orderly s) (departing : Departing s) :
    Yields Orderly s.stateCompleted := by
  rw [Service.stateCompleted]
  split
  · exact orderly.bound Bound.notifyClientsIfPending
  · next serving =>
      exact departing.setServerAwaitingCompletion fun same =>
        absurd (serving.symm.trans same) (by decide)
  · exact orderly
  · next notDone => exact departing.setCompleted notDone

theorem Orderly.completed (orderly : Orderly s) (departing : Departing s) (role : Role) :
    Yields Orderly (s.completed role) := by
  have reported : Still s (s.reportCompleted role) := (Bound.reportCompleted role).toStill
  refine ((orderly.still reported).stateCompleted (departing.still reported)).bind ?_
  intro changed orderly
  have cleared : Still changed { changed with gattCid := none, gattEncrypted := false } :=
    .of_eq rfl
  exact orderly.still cleared

theorem Departing.setCheckingPeer (departing : Departing s)
    (different : s.state ≠ .checkingPeer) : Yields Orderly s.setCheckingPeer := by
  refine (departing.leave different (by decide)).bind fun left settled => ?_
  have orderly := Settled.orderly settled (by decide) (by decide)
  rw [Service.enterCheckingPeer]
  split
  · exact orderly.completed settled.1.departing .noPeer
  · split
    · exact settled.1.departing.setDiscover fun same =>
        absurd (settled.2.symm.trans same) (by decide)
    · exact Yields.failedCheck

end Entering

section Visiting

variable {s : Service}

theorem Departing.setDiscoveredDevice (departing : Departing s)
    (searching : s.state = .discover ∨ s.state = .discoverConnectable) :
    Yields Orderly s.setDiscoveredDevice := by
  have different : s.state ≠ .discoveredDevice := by
    intro same
    rw [same] at searching
    exact absurd searching (by decide)
  obtain ⟨left, leaves, left'⟩ := Left.leave different
  have calm := departing.calm left' fun same => absurd same (by decide)
  rw [Service.setDiscoveredDevice, leaves]
  have untimed : Still left left.cancelInitialTimeout := Bound.cancelInitialTimeout.toStill
  exact {
    connect := by
      change (Message.connectToPeer :: left.cancelInitialTimeout.queue).count _ =
        if left.state = .discoveredDevice then 1 else 0
      rw [List.count_cons_self, untimed.connect, List.count_eq_zero.mpr calm.connect,
        if_pos left'.state]
    confirmed := by
      change (Message.connectToPeer :: left.cancelInitialTimeout.queue).count _ =
        if left.state = .client then 1 else 0
      rw [List.count_cons_of_ne (by decide), untimed.confirmed,
        List.count_eq_zero.mpr calm.confirmed, left'.state]
      rfl
    timeout := fun _ member => by
      have kept := (List.mem_cons.mp member).resolve_left (by decide)
      exact absurd (List.of_mem_filter kept) (by decide)
    discovered := fun _ => by
      refine ⟨left'.stopped rfl searching, s.state, ?_⟩
      change (PeerFindRole.visits left.log).head? =
        some ⟨s.state, .discoveredDevice, left.peerConnection⟩
      rw [left'.visits, left'.peer]
      rfl
    visits := calm.visits }

theorem Calm.setConnectingToDiscovered (calm : Calm s) (found : s.state = .discoveredDevice)
    (discovered : Discovered (PeerFindRole.visits s.log) s.peerConnection) :
    Yields Orderly s.setConnectingToDiscovered := by
  have different : s.state ≠ .connectingToDiscovered := by
    rw [found]
    decide
  obtain ⟨left, leaves, left'⟩ := Left.leave different
  have settled : Settled .connectingToDiscovered left :=
    ⟨calm.departing.calm left' fun _ => ⟨found, discovered⟩, left'.state⟩
  rw [Service.setConnectingToDiscovered, leaves]
  have noted : Still left (left.note (.createAcl left.peerConnection)) := Still.note rfl
  exact (settled.orderly (by decide) (by decide)).still (noted.trans (Still.send (by decide)))

theorem Orderly.setClient (orderly : Orderly s) (different : s.state ≠ .client) :
    Yields (fun s => Orderly s ∧ s.state = .client) s.setClient := by
  obtain ⟨left, leaves, left'⟩ := Left.leave different
  have confirmed : .clientInitCfm ∉ left.queue := fun queued =>
    different (orderly.client_of_mem (left'.fewer _ queued))
  rw [Service.setClient, leaves]
  change Yields _ left.enterClient
  rw [Service.enterClient]
  have untimed : Still left left.cancelInitialTimeout := Bound.cancelInitialTimeout.toStill
  split
  · exact Yields.failedCheck
  · dsimp only
    split
    · refine ⟨?_, left'.state⟩
      exact {
        connect := by
          change (Message.clientInitCfm :: (left.cancelInitialTimeout.cancelAll
            .connectToPeer).queue).count .connectToPeer =
              if left.state = .discoveredDevice then 1 else 0
          rw [List.count_cons_of_ne (by decide), left'.state]
          refine List.count_eq_zero.mpr fun member => ?_
          exact absurd (List.of_mem_filter member) (by decide)
        confirmed := by
          change (Message.clientInitCfm :: (left.cancelInitialTimeout.cancelAll
            .connectToPeer).queue).count _ = if left.state = .client then 1 else 0
          rw [List.count_cons_self, if_pos left'.state]
          refine congrArg Nat.succ (List.count_eq_zero.mpr fun member => confirmed ?_)
          rw [← List.count_pos_iff, ← untimed.confirmed]
          exact List.count_pos_iff.mpr (List.mem_of_mem_filter member)
        timeout := fun _ member => by
          have kept := List.mem_of_mem_filter
            ((List.mem_cons.mp member).resolve_left (by decide))
          exact absurd (List.of_mem_filter kept) (by decide)
        discovered := fun same => absurd (left'.state.symm.trans same) (by decide)
        visits := by
          change ConnectsToDiscovered (PeerFindRole.visits left.log)
          rw [left'.visits]
          exact ⟨fun same => State.noConfusion same, orderly.visits⟩ }
    · exact Yields.failedCheck

end Visiting

section Steps

variable {s : Service} {event : Event × Answers}

theorem Orderly.departs (orderly : Orderly s) {state : State} (here : s.state = state)
    (elsewhere : state ≠ .discoveredDevice) (notClient : state ≠ .client) : Departing s :=
  orderly.departing (fun same => absurd (here.symm.trans same) elsewhere)
    fun same => absurd (here.symm.trans same) notClient

theorem Orderly.findRole (orderly : Orderly s) (highSpeedTimeMs : Int) :
    Yields Orderly (s.findRole highSpeedTimeMs) := by
  rw [Service.findRole]
  split
  · next resting =>
      have departing := orderly.departs resting (by decide) (by decide)
      have started : ∀ signed, Still s signed → Yields Orderly
          ({ signed with
            roleTimeoutMs := highSpeedTimeMs.natAbs }.note .started).setCheckingPeer := by
        intro signed still
        have timed : Still s
            ({ signed with roleTimeoutMs := highSpeedTimeMs.natAbs }.note .started) :=
          (Still.note rfl).after (still.trans (.of_eq rfl))
        refine (departing.still timed).setCheckingPeer fun same => ?_
        exact absurd ((timed.state.trans resting).symm.trans same) (by decide)
      apply started
      split
      · exact .of_eq rfl
      · exact Still.refl s
  · exact orderly

section

variable (orderly : Orderly s)

include orderly

theorem Orderly.handleEncryptionChange (isPeer encrypted : Bool) :
    Yields Orderly (s.handleEncryptionChange isPeer encrypted) := by
  have changed : Still s { s with gattEncrypted := encrypted } := .of_eq rfl
  rw [Service.handleEncryptionChange]
  split
  · dsimp only
    split
    · next awaited =>
        have here : s.state = .clientAwaitingEncryption :=
          eq_of_beq (Bool.and_eq_true_iff.mp awaited).2
        refine ((orderly.still changed).departs here (by decide) (by decide)).setClientPreparing ?_
        exact here.trans_ne (by decide)
    · exact orderly.still changed
  · exact orderly

theorem Orderly.discovers {state : State} (here : s.state = state)
    (elsewhere : state ≠ .discoveredDevice ∧ state ≠ .client ∧ state ≠ .discover) :
    Yields Orderly s.setDiscover :=
  (orderly.departs here elsewhere.1 elsewhere.2.1).setDiscover fun same =>
    elsewhere.2.2 (here.symm.trans same)

/-- Another address does not matter elsewhere than in `DISCOVERED_DEVICE`. -/
theorem Orderly.withPeer (elsewhere : s.state ≠ .discoveredDevice)
    (taddr : TypedBdaddr) : Orderly { s with peerConnection := taddr } where
  connect := orderly.connect
  confirmed := orderly.confirmed
  timeout := orderly.timeout
  discovered found := absurd found elsewhere
  visits := orderly.visits

theorem Orderly.joins (different : s.state ≠ .client) (cid : Nat)
    (taddr : TypedBdaddr) : Yields Orderly (do
      let entered ← { s with gattCid := some cid }.setClient
      return { entered with peerConnection := taddr }) := by
  have still : Still s { s with gattCid := some cid } := .of_eq rfl
  refine ((orderly.still still).setClient different).bind fun entered joined => ?_
  exact joined.1.withPeer (joined.2.trans_ne (by decide)) taddr

theorem Orderly.serves (elsewhere : s.state ≠ .discoveredDevice) (cid : Nat)
    (taddr : TypedBdaddr) (isPeer : Bool) : Yields Orderly (if isPeer then
      .ok { s with gattCid := some cid, peerConnection := taddr }.resetServerScore else .ok s) := by
  split
  · have identified : Still { s with peerConnection := taddr }
        { s with gattCid := some cid, peerConnection := taddr } := .of_eq rfl
    exact (orderly.withPeer elsewhere taddr).still (identified.trans Bound.resetServerScore.toStill)
  · exact orderly

theorem Orderly.gattConnect (cid : Nat) (found : Option (TypedBdaddr × Bool))
    (kept : s.state = .discoveredDevice → s.scanActivity = false →
      s.abandonsDiscovered (.gattConnect cid found) = false) :
    Yields Orderly (s.gattConnect cid found) := by
  rw [Service.gattConnect.eq_def]
  split
  · next here =>
      split
      · exact orderly.joins (here.trans_ne (by decide)) cid _
      · exact orderly.discovers here (by decide)
  · next taddr isPeer here =>
      split
      · exact orderly.joins (here.trans_ne (by decide)) cid _
      · next other =>
          have scanning : s.scanActivity = true := by
            by_contra idle
            have stays := kept here (Bool.eq_false_of_not_eq_true idle)
            rw [Bool.eq_false_of_not_eq_true other] at stays
            exact Bool.noConfusion (stays : true = false)
          have departing := orderly.departing (fun _ => scanning) (here.trans_ne (by decide))
          exact departing.setDiscover (here.trans_ne (by decide))
  · next here =>
      split
      · exact orderly.joins (here.trans_ne (by decide)) cid _
      · exact orderly.discovers here (by decide)
  · next here =>
      exact orderly.serves (here.trans_ne (by decide)) cid _ _
  · next here =>
      exact orderly.serves (here.trans_ne (by decide)) cid _ _
  · exact orderly

theorem Orderly.handleConManagerConnection (taddr : TypedBdaddr)
    (incoming isPeer : Bool) (kept : s.state = .discoveredDevice →
      s.renamesPeer (.tpConnectInd taddr incoming isPeer) = false) :
    Yields Orderly (s.handleConManagerConnection taddr incoming isPeer) := by
  have connects : ∀ stored, Orderly stored → Yields Orderly
      (if stored.state = .connectingToDiscovered ∧ incoming = false then
        stored.setServerAwaitingEncryption else .ok stored) := by
    intro stored orderly
    split
    · next here =>
        exact (orderly.departs here.1 (by decide) (by decide)).setServerAwaitingEncryption
          (here.1.trans_ne (by decide))
    · exact orderly
  apply connects
  split
  · next peer =>
      by_cases found : s.state = .discoveredDevice
      · have same := kept found
        rw [Service.renamesPeer, peer, Bool.true_and, bne_eq_false_iff_eq] at same
        exact orderly.still ⟨rfl, rfl, rfl, id, rfl, id, same, rfl⟩
      · exact orderly.withPeer found taddr
  · exact orderly

theorem Orderly.connectDisconnectHandler (notClient : s.state ≠ .client) :
    Yields Orderly s.connectDisconnectHandler := by
  rw [Service.connectDisconnectHandler]
  split
  case h_2 here => exact absurd here notClient
  case h_11 =>
    split
    · exact orderly.bound Bound.notifyTimeout
    · exact orderly.bound Bound.notifyClientsIfPending
  case h_12 here =>
    have cleared : Still s { s with gattCid := none } := .of_eq rfl
    exact ((orderly.departs here (by decide) (by decide)).still cleared).setCompleted
      (here.trans_ne (by decide))
  case h_13 here =>
    have cleared : Still s { s with gattCid := none } := .of_eq rfl
    exact (orderly.still cleared).selectStateAfterCompletion here
  case h_14 => exact orderly
  all_goals next here => exact orderly.discovers here (by decide)

theorem Orderly.handleConnectionInd (addr : Nat) (ble connected : Bool)
    (kept : s.state = .client → s.abandonsClient (.connectionInd addr ble connected) = false) :
    Yields Orderly (s.handleConnectionInd addr ble connected) := by
  rw [Service.handleConnectionInd]
  split
  · next down =>
      dsimp only
      have noted : Still s (s.note (.linkDown addr)) := Still.note rfl
      split
      · next same =>
          refine (orderly.still noted).connectDisconnectHandler fun client => ?_
          have stays := kept client
          rw [Service.abandonsClient, down, Bool.true_and, beq_eq_false_iff_ne] at stays
          exact stays same
      · exact orderly.still noted
  · exact orderly

theorem Orderly.handleBleSecurity (status : SecurityStatus) :
    Yields Orderly (s.handleBleSecurity status) := by
  rw [Service.handleBleSecurity.eq_def]
  split
  · next here =>
      cases status with
      | success =>
        exact (orderly.departs here (by decide) (by decide)).setServerPreparing
          (here.trans_ne (by decide))
      | fail => exact orderly.discovers here (by decide)
      | pairingInProgress => exact orderly
  · exact orderly

theorem Orderly.handleAdvReportInd (current : TypedBdaddr) (isPeer : Bool) :
    Yields Orderly (s.handleAdvReportInd current isPeer) := by
  rw [Service.handleAdvReportInd]
  split
  · next searching =>
      have elsewhere : s.state ≠ .discoveredDevice := fun same => by
        rw [same] at searching
        exact absurd searching.1 (by decide)
      have notClient : s.state ≠ .client := fun same => by
        rw [same] at searching
        exact absurd searching.1 (by decide)
      have named := orderly.withPeer elsewhere current
      exact (named.departing (fun same => absurd same elsewhere) notClient).setDiscoveredDevice
        searching.1
  · exact orderly

theorem Orderly.handleCommandCfm (success : Bool) :
    Yields Orderly (s.handleCommandCfm success) := by
  rw [Service.handleCommandCfm]
  split
  · next confirms =>
      exact orderly.completed (orderly.departs confirms.2 (by decide) (by decide)) _
  · exact orderly

theorem Orderly.handleFigureOfMerit (merit : UInt16) :
    Yields Orderly (s.handleFigureOfMerit merit) := by
  have scored : Still s { s with peerScore := merit } := .of_eq rfl
  rw [Service.handleFigureOfMerit]
  dsimp only
  split
  · next here => exact (orderly.still scored).decideRoles here
  · exact orderly.still scored

theorem Orderly.handleLeScanManagerStartCfm (status : ScanResult) :
    Orderly (s.handleLeScanManagerStartCfm status) := by
  cases status with
  | success => exact { orderly with }
  | busy =>
    rw [Service.handleLeScanManagerStartCfm]
    split
    · next enabled =>
        refine orderly.startScanningIfInactive fun found => ?_
        exact absurd ((orderly.discovered found).1.symm.trans enabled) (by decide)
    · exact orderly
  | failure => exact orderly

theorem Orderly.handleLeScanManagerStopCfm (status : ScanResult) :
    Orderly (s.handleLeScanManagerStopCfm status) := by
  cases status with
  | success =>
    have idle : Orderly { s with scanActivity := false } :=
      { orderly with }
    rw [Service.handleLeScanManagerStopCfm]
    dsimp only
    split
    · exact idle.still ⟨rfl, rfl, rfl, id, rfl, id, rfl, rfl⟩
    · split
      · next enabled =>
          refine idle.startScanningIfInactive fun found => ?_
          exact absurd ((orderly.discovered found).1.symm.trans enabled) (by decide)
      · exact idle
  | busy =>
    rw [Service.handleLeScanManagerStopCfm]
    split
    · exact orderly.still (Still.note rfl)
    · exact orderly.bound Bound.stopScanIfActive
  | failure => exact orderly

theorem Orderly.handleEnableScanning : Orderly s.handleEnableScanning := by
  have asked : Orderly s.asked := orderly.bound Bound.asked
  rw [Service.handleEnableScanning]
  split
  · exact asked
  · split
    · next searching =>
        refine asked.startScanningIfInactive fun found => ?_
        change s.state = .discoveredDevice at found
        rw [found] at searching
        exact absurd searching (by decide)
    · exact asked

theorem Orderly.handleInitialTimeout (active : s.state.isActive = true)
    (elsewhere : s.state ≠ .discoveredDevice) (notClient : s.state ≠ .client) :
    Yields Orderly s.handleInitialTimeout := by
  rw [Service.handleInitialTimeout]
  split
  · refine (orderly.departing (fun same => absurd same elsewhere) notClient).setInitialised ?_
    intro same
    rw [same] at active
    exact absurd active (by decide)
  · have reset : Still s { s with roleTimeoutMs := 0 } := .of_eq rfl
    exact orderly.still (reset.trans Bound.notifyTimeout.toStill)

theorem Orderly.handlePrepared : Yields Orderly s.handlePrepared := by
  rw [Service.handlePrepared]
  split
  · next here =>
      exact (orderly.departs here (by decide) (by decide)).setServer (here.trans_ne (by decide))
  · next here =>
      exact (orderly.departs here (by decide) (by decide)).setClientDeciding
        (here.trans_ne (by decide))
  · exact orderly

theorem Orderly.handleDisconnectTimeout : Yields Orderly s.handleDisconnectTimeout := by
  have cleared : Still s { s with gattCid := none } := .of_eq rfl
  rw [Service.handleDisconnectTimeout]
  split
  · next here =>
      exact ((orderly.departs here (by decide) (by decide)).still cleared).setCompleted
        (here.trans_ne (by decide))
  · exact orderly

theorem Orderly.handleActiveMessage (active : s.state.isActive = true)
    {message : Message} (unrelated : message ∉ [Message.connectToPeer, .clientInitCfm])
    (untimed : message = .timeoutDiscovery → s.state ≠ .discoveredDevice ∧ s.state ≠ .client) :
    Yields Orderly (s.handleActiveMessage message) := by
  cases message with
  | connectToPeer => exact absurd List.mem_cons_self unrelated
  | clientInitCfm => exact absurd (List.mem_cons_of_mem _ List.mem_cons_self) unrelated
  | updateScore => exact orderly.bound Bound.updateServerScore
  | enableScanning => exact orderly.handleEnableScanning
  | timeoutDiscovery =>
    exact orderly.handleInitialTimeout active (untimed rfl).1 (untimed rfl).2
  | timeoutAdvertBackoff =>
    rw [Service.handleActiveMessage]
    split
    · next here =>
        exact (orderly.departs here (by decide) (by decide)).setDiscoverConnectable
          (here.trans_ne (by decide))
    · exact orderly
  | timeoutPeerConnection =>
    rw [Service.handleActiveMessage]
    split
    · next here => exact orderly.discovers here (by decide)
    · exact orderly
  | timeoutNotDisconnected => exact orderly.handleDisconnectTimeout
  | timeoutServerRoleSelected =>
    rw [Service.handleActiveMessage, Service.handleServerRoleSelectedTimeout]
    split
    · exact orderly.still Still.disconnectLink
    · exact orderly
  | timeoutNoFomReceived =>
    rw [Service.handleActiveMessage, Service.handleTimeoutNoFomReceived]
    split
    · exact Yields.failedCheck
    · exact orderly
  | prepared => exact orderly.handlePrepared
  | attemptAdvertising =>
    rw [Service.handleActiveMessage]
    split
    · rw [Service.enableAdvertising]
      split
      · exact orderly.still (.of_eq rfl)
      · exact Yields.failedCheck
    · exact orderly
  | cancelFindRole | telephonyActive | telephonyIdle | streamingActive | streamingIdle =>
    exact orderly

theorem Orderly.deliverConnect (queued : .connectToPeer ∈ s.queue) :
    Yields Orderly ({ s with queue := s.queue.erase .connectToPeer }.handleMessage
      .connectToPeer) := by
  have found := orderly.discoveredDevice_of_mem queued
  have calm : Calm { s with queue := s.queue.erase .connectToPeer } := by
    refine ⟨?_, ?_, orderly.visits⟩
    · refine List.count_eq_zero.mp ?_
      change (s.queue.erase .connectToPeer).count .connectToPeer = 0
      rw [List.count_erase_self, orderly.connect, if_pos found]
    · intro member
      have client := orderly.client_of_mem (List.mem_of_mem_erase member)
      exact absurd (client.symm.trans found) (by decide)
  have active : s.state.isActive = true := by
    rw [found]
    rfl
  change Yields Orderly (if s.state.isActive then
    Service.setConnectingToDiscovered { s with queue := s.queue.erase .connectToPeer } else _)
  rw [if_pos active]
  exact calm.setConnectingToDiscovered found (orderly.discovered found).2

theorem Orderly.deliverConfirmation (queued : .clientInitCfm ∈ s.queue) :
    Yields Orderly ({ s with queue := s.queue.erase .clientInitCfm }.handleMessage
      .clientInitCfm) := by
  have client := orderly.client_of_mem queued
  have calm : Calm { s with queue := s.queue.erase .clientInitCfm } := by
    refine ⟨?_, ?_, orderly.visits⟩
    · intro member
      have found := orderly.discoveredDevice_of_mem (List.mem_of_mem_erase member)
      exact absurd (client.symm.trans found) (by decide)
    · refine List.count_eq_zero.mp ?_
      change (s.queue.erase .clientInitCfm).count .clientInitCfm = 0
      rw [List.count_erase_self, orderly.confirmed, if_pos client]
  have active : s.state.isActive = true := by
    rw [client]
    rfl
  change Yields Orderly (if s.state.isActive then
    Service.setClientAwaitingEncryption { s with queue := s.queue.erase .clientInitCfm } else _)
  rw [if_pos active]
  exact calm.departing.setClientAwaitingEncryption (client.trans_ne (by decide))

theorem Orderly.deliver {message : Message} (queued : message ∈ s.queue)
    (cancelled : message = .cancelFindRole → Departing s) :
    Yields Orderly ({ s with queue := s.queue.erase message }.handleMessage message) := by
  by_cases unrelated : message ∉ [Message.connectToPeer, .clientInitCfm]
  · have still : Still s { s with queue := s.queue.erase message } := Still.erase unrelated
    have erased := orderly.still still
    have untimed : message = .timeoutDiscovery →
        s.state ≠ .discoveredDevice ∧ s.state ≠ .client := by
      intro same
      rw [same] at queued
      exact ⟨fun found => orderly.timeout (.inl found) queued,
        fun client => orderly.timeout (.inr client) queued⟩
    rw [Service.handleMessage.eq_def]
    split
    case h_1 => exact erased.completed ((cancelled rfl).still still) .cancelled
    case h_6 =>
      split
      · next active => exact erased.handleActiveMessage active unrelated untimed
      · exact erased
    all_goals exact erased.bound (Bound.updateMediaFlag _ _)
  · rw [not_not] at unrelated
    cases List.mem_cons.mp unrelated with
    | inl same =>
      subst same
      exact orderly.deliverConnect queued
    | inr same =>
      rw [List.mem_singleton] at same
      subst same
      exact orderly.deliverConfirmation queued

end

theorem Service.Undisturbed.departing (undisturbed : s.Undisturbed event) (orderly : Orderly s)
    (discovered : s.abandonsDiscovered event.1 = true) (client : s.abandonsClient event.1 = true) :
    Departing s := by
  refine orderly.departing (fun found => ?_) fun here => ?_
  · by_contra idle
    have stays := (undisturbed.1 found).1 (Bool.eq_false_of_not_eq_true idle)
    exact absurd (discovered.symm.trans stays) (by decide)
  · exact absurd (client.symm.trans (undisturbed.2 here)) (by decide)

theorem Orderly.handleChangeRoleInd (orderly : Orderly s) (command : Opcode)
    (undisturbed : s.Undisturbed event) (same : event.1 = .changeRoleInd command) :
    Yields Orderly (s.handleChangeRoleInd command) := by
  rw [Service.handleChangeRoleInd]
  split
  · next unselected =>
      refine orderly.completed (undisturbed.departing orderly ?_ ?_) _
      · rw [same, Service.abandonsDiscovered, unselected]
        rfl
      · rw [same, Service.abandonsClient, unselected]
        rfl
  · exact orderly

theorem Still.handleTelephonyEvent (active : Bool) : Still s (s.handleTelephonyEvent active) := by
  have inactive : Still s (s.cancelAll .telephonyActive) := Still.cancelAll (by decide)
  have neither : Still (s.cancelAll .telephonyActive)
      ((s.cancelAll .telephonyActive).cancelAll .telephonyIdle) := Still.cancelAll (by decide)
  refine (inactive.trans neither).trans (Still.send ?_)
  cases active with
  | true | false => decide

theorem Still.handleStreamingEvent (active : Bool) : Still s (s.handleStreamingEvent active) := by
  have inactive : Still s (s.cancelAll .streamingActive) := Still.cancelAll (by decide)
  have neither : Still (s.cancelAll .streamingActive)
      ((s.cancelAll .streamingActive).cancelAll .streamingIdle) := Still.cancelAll (by decide)
  refine (inactive.trans neither).trans (Still.send ?_)
  cases active with
  | true | false => decide

theorem Orderly.handle (orderly : Orderly s) (undisturbed : s.Undisturbed event)
    (possible : s.possible event.1 = true) : Yields Orderly (s.handle event.1) := by
  obtain ⟨event, answers⟩ := event
  cases event with
  | findRole highSpeedTimeMs => exact orderly.findRole highSpeedTimeMs
  | findRoleCancel =>
    exact orderly.bound (Bound.cancelInitialTimeout.trans (Bound.send (by decide)))
  | disableScanning disable => exact orderly.bound (Bound.updateMediaFlag disable _)
  | registerPrepareClient task =>
    change Orderly (s.registerPrepareClient task)
    rw [Service.registerPrepareClient]
    split
    · exact orderly
    · exact orderly.still (.of_eq rfl)
  | unregisterPrepareClient task => exact orderly.bound (Bound.unregisterPrepareClient task)
  | prepareResponse task => exact orderly.bound (Bound.prepareResponse task)
  | overrideScore score =>
    have scored : Still s { s with scoreOverride := score } := .of_eq rfl
    exact orderly.still (scored.trans Bound.updateServerScore.toStill)
  | encryptionChange isPeer encrypted => exact orderly.handleEncryptionChange isPeer encrypted
  | gattConnect cid found =>
    exact orderly.gattConnect cid found fun here idle => (undisturbed.1 here).1 idle
  | scanStartCfm status => exact orderly.handleLeScanManagerStartCfm status
  | scanStopCfm status => exact orderly.handleLeScanManagerStopCfm status
  | changeRoleInd command =>
    exact Yields.whenActive orderly fun _ => orderly.handleChangeRoleInd command undisturbed rfl
  | commandCfm success =>
    exact Yields.whenActive orderly fun _ => orderly.handleCommandCfm success
  | figureOfMeritInd merit =>
    exact Yields.whenActive orderly fun _ => orderly.handleFigureOfMerit merit
  | selectDatasetCfm success =>
    refine Yields.whenActive orderly fun _ => ?_
    change Orderly (if success then s else { s with advertActivity := false })
    split
    · exact orderly
    · exact orderly.still (.of_eq rfl)
  | releaseDatasetCfm => exact orderly.still (.of_eq rfl)
  | advReportInd current isPeer =>
    exact Yields.whenActive orderly fun _ => orderly.handleAdvReportInd current isPeer
  | bleSecurityCfm status =>
    exact Yields.whenActive orderly fun _ => orderly.handleBleSecurity status
  | tpConnectInd taddr incoming isPeer =>
    exact Yields.whenActive orderly fun _ =>
      orderly.handleConManagerConnection taddr incoming isPeer fun here => (undisturbed.1 here).2
  | connectionInd addr ble connected =>
    exact orderly.handleConnectionInd addr ble connected undisturbed.2
  | telephonyEvent active => exact orderly.still (Still.handleTelephonyEvent active)
  | streamingEvent active => exact orderly.still (Still.handleStreamingEvent active)
  | deliver message =>
    have queued : message ∈ s.queue := List.contains_iff_mem.mp (Bool.and_eq_true_iff.mp possible).1
    refine orderly.deliver queued fun same => ?_
    subst same
    exact undisturbed.departing orderly rfl rfl

end Steps

namespace Service

variable {s : Service} {fixedRole : FixedRole}

theorem init_orderly : Orderly (init fixedRole) where
  connect := rfl
  confirmed := rfl
  timeout _ := List.not_mem_nil
  discovered found := State.noConfusion found
  visits := ⟨fun same => State.noConfusion same, trivial⟩

variable {event : Event × Answers}

theorem step_orderly (orderly : Orderly s) (undisturbed : s.Undisturbed event)
    {result : Except Panic Service} (steps : s.step event = some result) :
    Yields Orderly result := by
  have answered : Still s { s with answers := event.2 } := .of_eq rfl
  rw [Service.step] at steps
  split at steps
  · next possible =>
      cases steps
      exact (orderly.still answered).handle undisturbed possible
  · contradiction

theorem proceed_orderly (orderly : Orderly s) (undisturbed : s.Undisturbed event) {next : Service}
    (proceeds : s.proceed event = some next) : Orderly next := by
  rw [proceed] at proceeds
  split at proceeds
  · next steps =>
      cases proceeds
      exact step_orderly orderly undisturbed steps
  · contradiction

/-- As long as no event ends a visit ahead of the message that was sent on entering it, the
service connects only to the peer that it has just discovered, and enters no state that it is
in. -/
theorem run_connectsToDiscovered {events : List (Event × Answers)}
    (runs : runAllowed proceed Undisturbed events (init fixedRole) = some s) :
    ConnectsToDiscovered (visits s.log) ∧
      ∀ event, s.Undisturbed event → s.step event ≠ some (.error .sameState) := by
  have orderly : Orderly s := (Reached.run .start runs).invariant init_orderly
    fun _ _ _ undisturbed proceeds orderly => proceed_orderly orderly undisturbed proceeds
  refine ⟨orderly.visits, fun event undisturbed panics => ?_⟩
  exact step_orderly orderly undisturbed panics rfl

def peerAddress : TypedBdaddr := ⟨.typedPublic, 7⟩

def otherAddress : TypedBdaddr := ⟨.typedPublic, 9⟩

def findsPeer : List (Event × Answers) :=
  [(.findRole 0, {}), (.deliver .timeoutAdvertBackoff, {}),
    (.advReportInd peerAddress true, { scanning := [true] }), (.scanStopCfm .success, {})]

/-- The message to connect comes in the visit that it was sent in. -/
def connectsToPeer : List (Event × Answers) :=
  findsPeer ++ ([(.deliver .connectToPeer, {})] : List (Event × Answers))

theorem connectsToPeer_connectsToDiscovered :
    ∃ s, runAllowed proceed Undisturbed connectsToPeer (init .notSet) = some s ∧
      s.state = .connectingToDiscovered ∧
      (ConnectsToDiscovered (visits s.log) ∧
        ∀ event, s.Undisturbed event → s.step event ≠ some (.error .sameState)) := by
  have found : ((runAllowed proceed Undisturbed connectsToPeer (init .notSet)).any fun s =>
      s.state == .connectingToDiscovered) = true := by
    decide +kernel
  obtain ⟨s, runs, connecting⟩ := (Option.any_eq_true _ _).mp found
  exact ⟨s, runs, eq_of_beq connecting, run_connectsToDiscovered runs⟩

def discoversTwice : List (Event × Answers) :=
  findsPeer ++ ([(.gattConnect 1 (some (otherAddress, false)), {}),
    (.advReportInd peerAddress true, { scanning := [true] }), (.scanStopCfm .success, {}),
    (.deliver .connectToPeer, {})] : List (Event × Answers))

/-- The message comes while the service discovers again, without scanning. -/
def connectsFromDiscover : List (Event × Answers) :=
  findsPeer ++ ([(.disableScanning true, {}), (.gattConnect 1 (some (otherAddress, false)), {}),
    (.deliver .connectToPeer, {})] : List (Event × Answers))

theorem connectedByOther_connectsAgain :
    (∃ s, discoversTwice.foldlM proceed (init .notSet) = some s ∧
      s.step (.deliver .connectToPeer, {}) = some (.error .sameState)) ∧
      ∃ s, connectsFromDiscover.foldlM proceed (init .notSet) = some s ∧
        ¬ ConnectsToDiscovered (visits s.log) := by
  refine ⟨⟨_, rfl, rfl⟩, _, rfl, ?_⟩
  intro connects
  exact absurd (connects.1 rfl).1 (by decide)

end Service

end HeadsetAdk.PeerFindRole
