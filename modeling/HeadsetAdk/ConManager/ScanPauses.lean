import HeadsetAdk.ConManager.Connections
import HeadsetAdk.Lib.EventLog

/-! # Pausing scans while an LE link is opened -/

namespace HeadsetAdk.ConManager

open LinkState (noConfusion)

/-- An LE link is to be opened, is being opened, or waits for it. -/
def Connection.ConnectsBle (connection : Connection) : Prop :=
  connection.isBle = true ∧ (connection.state = .aclConnectingPendingPause ∨
    connection.state = .aclConnectingInternal ∨ connection.state = .aclConnecting)

def Entry.KeepsScan : Entry → Prop
  | .openReq .bleAcl paused => paused = true
  | .resumed opening => opening = false
  | _ => True

/-- What holds also in the middle of an event. -/
structure Guarded (m : ConManager) : Prop where
  opening : ∀ slot, (m.connections slot).isOpeningBle = true → m.isLeScanPaused = true
  waiting : ∀ slot, (m.connections slot).state = .aclConnectingPendingPause →
    (m.connections slot).isBle = true
  log : ∀ entry ∈ m.log, entry.KeepsScan

structure Pausing (m : ConManager) : Prop extends Guarded m where
  needed : m.isLeScanPaused = true → ∃ slot, (m.connections slot).ConnectsBle

section Links

variable {m : ConManager} {slot : Slot} {connection : Connection} {log : List Entry}

theorem isConnectingBle_iff : m.isConnectingBle = true ↔ ∃ slot, (m.connections slot).ConnectsBle :=
  decide_eq_true_iff

theorem Connection.connectsBle_of_opening
    (opening : connection.isOpeningBle = true) : connection.ConnectsBle := by
  obtain ⟨ble, state⟩ := Bool.and_eq_true_iff.mp opening
  refine ⟨ble, Or.inr ?_⟩
  exact (Bool.or_eq_true_iff.mp state).imp of_decide_eq_true of_decide_eq_true

theorem Connection.ConnectsBle.opening (connects : connection.ConnectsBle)
    (started : connection.state ≠ .aclConnectingPendingPause) : connection.isOpeningBle = true := by
  have state := connects.2.resolve_left started
  exact Bool.and_eq_true_iff.mpr ⟨connects.1,
    Bool.or_eq_true_iff.mpr (state.imp (decide_eq_true ·) (decide_eq_true ·))⟩

theorem Connection.not_opening (internal : connection.state ≠ .aclConnectingInternal)
    (connecting : connection.state ≠ .aclConnecting) : connection.isOpeningBle = false := by
  rw [Connection.isOpeningBle, decide_eq_false internal, decide_eq_false connecting]
  exact Bool.and_false _

theorem Guarded.modify (guarded : Guarded m) (change : Connection → Connection)
    (opening : (change (m.connections slot)).isOpeningBle = true → m.isLeScanPaused = true)
    (waiting : (change (m.connections slot)).state = .aclConnectingPendingPause →
      (change (m.connections slot)).isBle = true) (kept : ∀ entry ∈ log, entry.KeepsScan) :
    Guarded { m.modify slot change with log := log } where
  opening other := by
    intro opens
    change ((m.modify slot change).connections other).isOpeningBle = true at opens
    by_cases same : other = slot
    · rw [same, modify_self] at opens
      exact opening opens
    · rw [modify_of_ne m change same] at opens
      exact guarded.opening other opens
  waiting other := by
    intro waits
    change ((m.modify slot change).connections other).state = _ at waits
    change ((m.modify slot change).connections other).isBle = true
    by_cases same : other = slot
    · rw [same, modify_self] at waits ⊢
      exact waiting waits
    · rw [modify_of_ne m change same] at waits ⊢
      exact guarded.waiting other waits
  log := kept

theorem keepsScan_cons {entry : Entry} (keeps : entry.KeepsScan)
    (kept : ∀ entry ∈ log, entry.KeepsScan) : ∀ other ∈ entry :: log, other.KeepsScan :=
  List.forall_mem_cons.mpr ⟨keeps, kept⟩

theorem Guarded.setConnectionState (guarded : Guarded m) {state : LinkState}
    (waiting : state ≠ .aclConnectingPendingPause) (internal : state ≠ .aclConnectingInternal)
    (connecting : state ≠ .aclConnecting) : Guarded (m.setConnectionState slot state) := by
  refine guarded.modify (fun connection => { connection with state := state }) (fun opens => ?_)
    (fun waits => absurd waits waiting) guarded.log
  rw [Connection.not_opening internal connecting] at opens
  exact absurd opens Bool.false_ne_true

theorem Guarded.resetConnection (guarded : Guarded m) : Guarded (m.resetConnection slot) :=
  guarded.modify (fun _ => Connection.unused)
    (fun opens => absurd opens (by decide)) (fun waits => absurd waits (by decide))
    (keepsScan_cons trivial guarded.log)

theorem Guarded.resumeUnlessConnecting (guarded : Guarded m) :
    Pausing m.resumeUnlessConnecting := by
  rw [ConManager.resumeUnlessConnecting]
  split
  · rename_i connecting
    exact ⟨guarded, fun _ => isConnectingBle_iff.mp connecting⟩
  · rename_i idle
    have none : ∀ slot, (m.connections slot).isOpeningBle ≠ true := fun slot opening =>
      idle (isConnectingBle_iff.mpr ⟨slot, Connection.connectsBle_of_opening opening⟩)
    rw [ConManager.resumeLeScanIfPaused]
    split
    · have nothing : m.isOpeningBle = false :=
        decide_eq_false fun some' => some'.elim none
      exact ⟨⟨fun slot opening => absurd opening (none slot), guarded.waiting,
        keepsScan_cons nothing guarded.log⟩, fun paused => absurd paused Bool.false_ne_true⟩
    · rename_i resumed
      exact ⟨guarded, fun paused => absurd paused resumed⟩

theorem Pausing.modify (pausing : Pausing m) (change : Connection → Connection)
    (opening : (change (m.connections slot)).isOpeningBle = true → m.isLeScanPaused = true)
    (waiting : (change (m.connections slot)).state = .aclConnectingPendingPause →
      (change (m.connections slot)).isBle = true) (kept : ∀ entry ∈ log, entry.KeepsScan)
    (connects : (m.connections slot).ConnectsBle → (change (m.connections slot)).ConnectsBle) :
    Pausing { m.modify slot change with log := log } where
  toGuarded := pausing.toGuarded.modify change opening waiting kept
  needed paused := by
    obtain ⟨other, connecting⟩ := pausing.needed paused
    refine ⟨other, ?_⟩
    change ((m.modify slot change).connections other).ConnectsBle
    by_cases same : other = slot
    · rw [same] at connecting
      rw [same, modify_self]
      exact connects connecting
    · rw [modify_of_ne m change same]
      exact connecting

end Links

section Operations

variable {m added next : ConManager} {vm : Resolver} {user : Task} {tpaddr : TpBdaddr}
  {slot : Slot}

theorem Pausing.addConnectionUser (pausing : Pausing m) : Pausing (m.addConnectionUser slot user) :=
  pausing.modify _ (pausing.opening slot) (pausing.waiting slot)
    (keepsScan_cons trivial pausing.log) fun connects => connects

theorem Pausing.removeConnectionUser (pausing : Pausing m) (user : Option Task) :
    Pausing (m.removeConnectionUser slot user) :=
  pausing.modify _ (pausing.opening slot) (pausing.waiting slot)
    (keepsScan_cons trivial pausing.log) fun connects => connects

theorem prepareForConnection_pausing
    (opening : ∀ other, other ≠ slot → (added.connections other).isOpeningBle = true →
      added.isLeScanPaused = true)
    (waiting : ∀ other, other ≠ slot →
      (added.connections other).state = .aclConnectingPendingPause →
      (added.connections other).isBle = true)
    (needed : added.isLeScanPaused = true → ∃ other, other ≠ slot ∧
      (added.connections other).ConnectsBle)
    (kept : ∀ entry ∈ added.log, entry.KeepsScan) :
    Pausing (added.prepareForConnection slot) := by
  rw [ConManager.prepareForConnection]
  split
  · rename_i waits
    refine ⟨⟨fun other opens => ?_, fun other pending => ?_, kept⟩, fun paused => ?_⟩
    · change ((added.setConnectionState slot _).connections other).isOpeningBle = true at opens
      by_cases same : other = slot
      · rw [same, setConnectionState_self, Connection.not_opening] at opens
        · exact absurd opens Bool.false_ne_true
        · exact noConfusion
        · exact noConfusion
      · rw [setConnectionState_of_ne _ _ same] at opens
        exact opening other same opens
    · change ((added.setConnectionState slot _).connections other).state = _ at pending
      change ((added.setConnectionState slot _).connections other).isBle = true
      by_cases same : other = slot
      · rw [same, setConnectionState_self]
        exact waits.1
      · rw [setConnectionState_of_ne _ _ same] at pending ⊢
        exact waiting other same pending
    · exact absurd (waits.2.symm.trans paused) Bool.false_ne_true
  · rename_i ready
    refine ⟨⟨fun other opens => ?_, fun other pending => ?_, kept⟩, fun paused => ?_⟩
    · change ((added.setConnectionState slot _).connections other).isOpeningBle = true at opens
      change added.isLeScanPaused = true
      by_cases same : other = slot
      · rw [same, setConnectionState_self] at opens
        have ble : (added.connections slot).isBle = true := (Bool.and_eq_true_iff.mp opens).1
        exact eq_true_of_ne_false fun scanning => ready ⟨ble, scanning⟩
      · rw [setConnectionState_of_ne _ _ same] at opens
        exact opening other same opens
    · change ((added.setConnectionState slot _).connections other).state = _ at pending
      change ((added.setConnectionState slot _).connections other).isBle = true
      by_cases same : other = slot
      · rw [same, setConnectionState_self] at pending
        exact noConfusion pending
      · rw [setConnectionState_of_ne _ _ same] at pending ⊢
        exact waiting other same pending
    · obtain ⟨other, distinct, connects⟩ := needed paused
      refine ⟨other, ?_⟩
      change ((added.setConnectionState slot _).connections other).ConnectsBle
      rw [setConnectionState_of_ne _ _ distinct]
      exact connects

theorem createNew_pausing (pausing : Pausing m)
    (idle : ∀ slot, m.findConnectionFromBdAddr vm tpaddr = some slot →
      (m.connections slot).state = .aclDisconnected)
    (created : ((m.addConnection vm tpaddr .aclConnecting).map fun added =>
      (added.1.prepareForConnection added.2).addConnectionUser added.2 user) = some next) :
    Pausing next := by
  obtain ⟨⟨added, slot⟩, adds, rfl⟩ := Option.map_eq_some_iff.mp created
  refine Pausing.addConnectionUser ?_
  have others : ∀ other, other ≠ slot → added.connections other = m.connections other :=
    fun other distinct => addConnection_elsewhere adds distinct
  have paused : added.isLeScanPaused = m.isLeScanPaused := by
    rcases addConnection_cases adds with ⟨-, rfl⟩ | ⟨-, rfl⟩ <;> rfl
  have before : ¬ (m.connections slot).ConnectsBle := by
    rintro ⟨ble, connecting⟩
    rcases addConnection_cases adds with ⟨found, -⟩ | ⟨missing, -⟩
    · rw [idle slot found] at connecting
      rcases connecting with state | state | state <;> exact noConfusion state
    · rcases addConnection_replaces missing adds with none | lost
      · rw [Connection.isBle, none] at ble
        exact absurd ble (by decide)
      · rw [lost] at connecting
        rcases connecting with state | state | state <;> exact noConfusion state
  refine prepareForConnection_pausing (fun other distinct opens => ?_)
    (fun other distinct waits => ?_) (fun stopped => ?_) ?_
  · rw [others other distinct] at opens
    rw [paused]
    exact pausing.opening other opens
  · rw [others other distinct] at waits ⊢
    exact pausing.waiting other waits
  · rw [paused] at stopped
    obtain ⟨other, connects⟩ := pausing.needed stopped
    have distinct : other ≠ slot := fun same => before (same ▸ connects)
    exact ⟨other, distinct, (others other distinct).symm ▸ connects⟩
  · rcases addConnection_cases adds with ⟨-, rfl⟩ | ⟨-, rfl⟩
    · exact pausing.log
    · exact keepsScan_cons trivial pausing.log

theorem Pausing.createAclImpl (pausing : Pausing m)
    (created : m.createAclImpl vm user tpaddr = some next) : Pausing next := by
  rw [ConManager.createAclImpl] at created
  dsimp only at created
  split at created
  · rename_i slot found
    split at created
    · rename_i lost
      have state : (m.connections slot).state ≠ .aclConnectingPendingPause ∧
          (m.connections slot).state ≠ .aclConnectingInternal ∧
          (m.connections slot).state ≠ .aclConnecting := by
        rw [lost]
        decide
      refine createNew_pausing (m := m.setConnectionState slot .aclDisconnected) ?_ ?_ created
      · refine pausing.modify (fun connection => { connection with state := .aclDisconnected })
          ?_ ?_ pausing.log ?_
        · intro opens
          rw [Connection.not_opening noConfusion noConfusion] at opens
          exact absurd opens Bool.false_ne_true
        · exact noConfusion
        · intro connects
          rcases connects.2 with waits | internal | connecting
          · exact absurd waits state.1
          · exact absurd internal state.2.1
          · exact absurd connecting state.2.2
      · intro slot' found'
        rw [findConnection_setConnectionState, found] at found'
        rw [← Option.some.inj found', setConnectionState_self]
    · rw [← Option.some.inj created]
      exact pausing.addConnectionUser
  · rename_i missing
    refine createNew_pausing pausing (fun slot found => ?_) created
    rw [missing] at found
    exact absurd found.symm (Option.some_ne_none slot)

theorem Guarded.closeConnection (guarded : Guarded m) : Guarded (m.closeConnection slot) := by
  rw [ConManager.closeConnection]
  split
  · have removed : Guarded { m with log := .removed slot :: m.log } :=
      ⟨guarded.opening, guarded.waiting, keepsScan_cons trivial guarded.log⟩
    exact removed.resetConnection
  · exact guarded.modify (fun connection => { connection with closing := true })
      (guarded.opening slot) (guarded.waiting slot) (keepsScan_cons trivial guarded.log)

theorem Pausing.releaseAclImpl (pausing : Pausing m) (user : Option Task) :
    Pausing (m.releaseAclImpl vm user tpaddr) := by
  rw [ConManager.releaseAclImpl.eq_def]
  split
  · exact pausing
  · rename_i slot _
    have released : Pausing (m.removeConnectionUser slot user) := pausing.removeConnectionUser user
    dsimp only
    split
    · exact released
    · exact released.toGuarded.closeConnection.resumeUnlessConnecting

theorem Guarded.addConnected (guarded : Guarded m) {state : LinkState}
    (waiting : state ≠ .aclConnectingPendingPause) (internal : state ≠ .aclConnectingInternal)
    (connecting : state ≠ .aclConnecting)
    (adds : m.addConnection vm tpaddr state = some (added, slot)) : Guarded added := by
  rcases addConnection_cases adds with ⟨-, rfl⟩ | ⟨-, rfl⟩
  · exact guarded.setConnectionState waiting internal connecting
  · have reset : Guarded (m.resetConnection slot) := guarded.resetConnection
    refine reset.modify (fun connection => { connection with tpaddr := tpaddr, state := state })
      (fun opens => ?_) (fun waits => absurd waits waiting) reset.log
    rw [Connection.not_opening internal connecting] at opens
    exact absurd opens Bool.false_ne_true

section

variable (pausing : Pausing m)

include pausing

theorem Pausing.handleAclOpenedIndication {success : Bool}
    (opened : m.handleAclOpenedIndication vm tpaddr success = some next) : Pausing next := by
  rw [ConManager.handleAclOpenedIndication.eq_def] at opened
  split at opened
  · obtain ⟨⟨added, slot⟩, adds, rfl⟩ := Option.map_eq_some_iff.mp opened
    exact (pausing.toGuarded.addConnected noConfusion noConfusion
      noConfusion adds).resumeUnlessConnecting
  · split at opened
    · rw [← Option.some.inj opened]
      exact pausing.toGuarded.resetConnection.resumeUnlessConnecting
    · rw [← Option.some.inj opened]
      exact pausing.toGuarded.resumeUnlessConnecting

theorem Pausing.handleInternalAclOpenReq : Pausing (m.handleInternalAclOpenReq vm tpaddr) := by
  rw [ConManager.handleInternalAclOpenReq.eq_def]
  split
  · rename_i slot found
    split
    · rename_i internal
      have opening : (m.connections slot).isBle = true → m.isLeScanPaused = true := fun ble =>
        pausing.opening slot (Connection.ConnectsBle.opening ⟨ble, Or.inr (Or.inl internal)⟩
          (internal ▸ noConfusion))
      refine pausing.modify (fun connection => { connection with state := .aclConnecting })
        (fun opens => opening (Bool.and_eq_true_iff.mp opens).1)
        noConfusion (keepsScan_cons ?_ pausing.log)
        fun connects => ⟨connects.1, Or.inr (Or.inr rfl)⟩
      cases transport : tpaddr.transport with
      | bleAcl =>
        rw [← findConnection_transport found] at transport
        exact opening (decide_eq_true transport)
      | bredrAcl => trivial
      | none => trivial
    · exact pausing.toGuarded.resumeUnlessConnecting
  · exact pausing.toGuarded.resumeUnlessConnecting

theorem Pausing.checkForAllLeDisconnected : Pausing m.checkForAllLeDisconnected := by
  rw [ConManager.checkForAllLeDisconnected.eq_def]
  split
  · split
    · exact pausing
    · exact ⟨⟨pausing.opening, pausing.waiting, keepsScan_cons trivial pausing.log⟩, pausing.needed⟩
  · exact pausing

theorem Pausing.addLinkLoss (bredr : tpaddr.transport = .bredrAcl)
    (adds : m.addConnection vm tpaddr .aclDisconnectedLinkLoss = some (added, slot)) :
    Pausing added where
  toGuarded := pausing.toGuarded.addConnected noConfusion noConfusion
    noConfusion adds
  needed paused := by
    rcases addConnection_cases adds with ⟨found, rfl⟩ | ⟨missing, rfl⟩
    · obtain ⟨other, connects⟩ := pausing.needed paused
      refine ⟨other, ?_⟩
      rw [setConnectionState_of_ne]
      · exact connects
      · rintro rfl
        have ble := of_decide_eq_true connects.1
        rw [findConnection_transport found, bredr] at ble
        exact Transport.noConfusion ble
    · obtain ⟨other, connects⟩ := pausing.needed paused
      have distinct : other ≠ slot := by
        rintro rfl
        rcases addConnection_replaces missing adds with none | lost
        · have ble := of_decide_eq_true connects.1
          rw [none] at ble
          exact Transport.noConfusion ble
        · have connecting := connects.2
          rw [lost] at connecting
          rcases connecting with state | state | state <;> exact noConfusion state
      refine ⟨other, ?_⟩
      rw [modify_of_ne _ _ distinct, resetConnection_of_ne m distinct]
      exact connects

theorem Pausing.handleAclClosedIndication {handsetTimeout : Bool}
    (idle : ∀ slot, m.findConnectionFromBdAddr vm tpaddr = some slot →
      ¬ (m.connections slot).ConnectsBle)
    (closed : m.handleAclClosedIndication vm tpaddr handsetTimeout = some next) : Pausing next := by
  rw [ConManager.handleAclClosedIndication.eq_def] at closed
  split at closed
  · rename_i slot found
    have reset : Pausing (m.resetConnection slot) :=
      pausing.modify (fun _ => Connection.unused) (fun opens => absurd opens (by decide))
        (fun waits => absurd waits (by decide)) (keepsScan_cons trivial pausing.log)
        fun connects => absurd connects (idle slot found)
    split at closed
    · rename_i lost
      obtain ⟨⟨added, slot'⟩, adds, rfl⟩ := Option.map_eq_some_iff.mp closed
      exact (reset.addLinkLoss lost.2 adds).checkForAllLeDisconnected
    · rw [← Option.some.inj closed]
      exact reset.checkForAllLeDisconnected
  · exact Option.some.inj closed ▸ pausing

def Awaited (m : ConManager) : Prop :=
  (∃ slot, (m.connections slot).state = .aclConnectingPendingPause) ∨ m.isOpeningBle = false

theorem Pausing.pauseCfm (awaited : Awaited m) (steps : m.step .pauseCfm = some next) :
    Pausing next := by
  rcases pauseCfm_cases steps with ⟨⟨slot, pending⟩, paused, log, connections⟩ |
    ⟨nothing, paused, log, connections⟩
  · refine ⟨⟨fun _ _ => paused, fun other waits => ?_, log ▸ pausing.log⟩, fun _ => ?_⟩
    · rw [connections] at waits ⊢
      dsimp only at waits ⊢
      split at waits
      · exact noConfusion waits
      · rename_i notPending
        exact absurd waits notPending
    · refine ⟨slot, ?_⟩
      rw [connections]
      dsimp only
      rw [if_pos pending]
      exact ⟨pausing.waiting slot pending, Or.inr (Or.inl rfl)⟩
  · have idle : m.isOpeningBle = false :=
      awaited.resolve_left fun waits => waits.elim nothing
    refine ⟨⟨fun slot opens => ?_, fun slot waits => ?_, ?_⟩, fun stopped => ?_⟩
    · rw [connections] at opens
      exact absurd ⟨slot, opens⟩ (of_decide_eq_false idle)
    · rw [connections] at waits ⊢
      exact pausing.waiting slot waits
    · rw [log]
      exact keepsScan_cons idle pausing.log
    · exact absurd (paused.symm.trans stopped) Bool.false_ne_true

end

end Operations

structure ScanHeld (m : ConManager) : Prop where
  log : ∀ entry ∈ m.log, entry.KeepsScan
  resumed : m.isConnectingBle = false → m.pausesRequested = 0 → m.isLeScanPaused = false

theorem Pausing.scanHeld {m : ConManager} (pausing : Pausing m) : ScanHeld m where
  log := pausing.log
  resumed idle _ := by
    by_contra paused
    have connecting := isConnectingBle_iff.mpr (pausing.needed (eq_true_of_ne_false paused))
    exact absurd (idle.symm.trans connecting) Bool.false_ne_true

def Event.opens : Event → Bool
  | .createAcl _ _ _ | .releaseAcl _ _ _ | .aclOpened _ _ _ | .pauseCfm | .internalOpen _ => true
  | _ => false

/-- A pause is confirmed while a link waits for it, or none is being opened.  Besides the events
about the opening of links, those that are open may be closed. -/
def InTime (m : ConManager) : Event → Prop
  | .pauseCfm => Awaited m
  | .aclClosed tpaddr _ vm => ∀ slot, m.findConnectionFromBdAddr vm tpaddr = some slot →
      ¬ (m.connections slot).ConnectsBle
  | event => event.opens = true

instance (connection : Connection) : Decidable connection.ConnectsBle :=
  inferInstanceAs (Decidable (_ ∧ _))

instance (m : ConManager) (event : Event) : Decidable (InTime m event) :=
  match event with
  | .pauseCfm => inferInstanceAs (Decidable ((∃ slot, (m.connections slot).state = _) ∨ _))
  | .aclClosed tpaddr _ vm => inferInstanceAs (Decidable
      (∀ slot, m.findConnectionFromBdAddr vm tpaddr = some slot → ¬ _))
  | .createAcl _ _ _ | .releaseAcl _ _ _ | .aclOpened _ _ _ | .internalOpen _ =>
      inferInstanceAs (Decidable (true = true))
  | .terminateAllAcls _ | .allAclsClosed | .disconnectAllLe _ _ =>
      inferInstanceAs (Decidable (false = true))

section Runs

variable {m next : ConManager} {event : Event}

theorem Pausing.step (pausing : Pausing m) (inTime : InTime m event)
    (steps : m.step event = some next) : Pausing next := by
  cases event with
  | createAcl user tpaddr vm => exact pausing.createAclImpl steps
  | releaseAcl user tpaddr vm => exact Option.some.inj steps ▸ pausing.releaseAclImpl (some user)
  | aclOpened tpaddr success vm => exact pausing.handleAclOpenedIndication steps
  | aclClosed tpaddr handsetTimeout vm => exact pausing.handleAclClosedIndication inTime steps
  | pauseCfm => exact pausing.pauseCfm inTime steps
  | internalOpen vm =>
    rw [ConManager.step.eq_def] at steps
    dsimp only at steps
    split at steps
    · contradiction
    · rename_i tpaddr queue _
      have taken : Pausing { m with queue := queue } :=
        ⟨⟨pausing.opening, pausing.waiting, pausing.log⟩, pausing.needed⟩
      exact Option.some.inj steps ▸ taken.handleInternalAclOpenReq
  | terminateAllAcls requester => exact absurd inTime Bool.false_ne_true
  | allAclsClosed => exact absurd inTime Bool.false_ne_true
  | disconnectAllLe requester vm => exact absurd inTime Bool.false_ne_true

theorem step_scanHeld_iff (pausing : Pausing m) (opens : event.opens = true)
    (steps : m.step event = some next) : ScanHeld next ↔ InTime m event := by
  constructor
  · intro held
    cases event with
    | pauseCfm =>
      rcases pauseCfm_cases steps with ⟨waits, -⟩ | ⟨-, -, log, -⟩
      · exact Or.inl waits
      · exact Or.inr (held.log (.resumed m.isOpeningBle) (log ▸ List.mem_cons_self))
    | createAcl user tpaddr vm => exact opens
    | releaseAcl user tpaddr vm => exact opens
    | aclOpened tpaddr success vm => exact opens
    | internalOpen vm => exact opens
    | aclClosed tpaddr handsetTimeout vm => exact absurd opens Bool.false_ne_true
    | terminateAllAcls requester => exact absurd opens Bool.false_ne_true
    | allAclsClosed => exact absurd opens Bool.false_ne_true
    | disconnectAllLe requester vm => exact absurd opens Bool.false_ne_true
  · exact fun inTime => (pausing.step inTime steps).scanHeld

theorem init_pausing : Pausing init :=
  ⟨⟨fun _ opens => absurd opens Bool.false_ne_true, fun _ => noConfusion,
    fun _ member => absurd member List.not_mem_nil⟩, fun paused => absurd paused (by decide)⟩

/-- As long as no pause is confirmed out of time, what is promised about pauses holds, and the
next event keeps it so just when it is in time too. -/
theorem run_scanHeld_iff {events : List Event}
    (runs : runAllowed step InTime events init = some m) :
    ScanHeld m ∧ ∀ event next, event.opens = true → m.step event = some next →
      (ScanHeld next ↔ InTime m event) := by
  have pausing : Pausing m := (Reached.run .start runs).invariant init_pausing
    fun _ _ _ inTime steps pausing => pausing.step inTime steps
  exact ⟨pausing.scanHeld, fun event next opens steps => step_scanHeld_iff pausing opens steps⟩

end Runs

def leDevice (addr : Nat) : TpBdaddr := ⟨.bleAcl, ⟨.typedPublic, addr⟩⟩

def opened : List Event :=
  [.createAcl 1 (leDevice 7) unresolved, .pauseCfm, .internalOpen unresolved,
    .aclOpened (leDevice 7) true unresolved, .releaseAcl 1 (leDevice 7) unresolved,
    .aclClosed (leDevice 7) false unresolved]

theorem opened_scanHeld :
    ∃ m, runAllowed step InTime opened init = some m ∧
      (ScanHeld m ∧ ∀ event next, event.opens = true → m.step event = some next →
        (ScanHeld next ↔ InTime m event)) := by
  have found : (runAllowed step InTime opened init).isSome = true := by decide +kernel
  obtain ⟨m, runs⟩ := Option.isSome_iff_exists.mp found
  exact ⟨m, runs, run_scanHeld_iff runs⟩

/-- Two links ask for a pause, and the second confirmation resumes scanning before the stack is
asked to open them. -/
def twoPauses : List Event :=
  [.createAcl 1 (leDevice 7) unresolved, .createAcl 2 (leDevice 8) unresolved, .pauseCfm, .pauseCfm,
    .internalOpen unresolved]

/-- Scanning is resumed under both links, and one is opened without a pause. -/
theorem opened_unpaused :
    ∃ m, twoPauses.foldlM step init = some m ∧
      m.log.take 2 = [.openReq .bleAcl false, .resumed true] ∧ ¬ ScanHeld m := by
  refine ⟨_, rfl, rfl, fun held => ?_⟩
  exact Bool.false_ne_true (held.log (.openReq .bleAcl false) List.mem_cons_self)

end HeadsetAdk.ConManager
