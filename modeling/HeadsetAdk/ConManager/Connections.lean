import Mathlib.Algebra.GroupWithZero.Nat
import Mathlib.Data.List.FinRange
import Mathlib.Logic.Function.Basic

/-!
# The connection manager's links

The table of links, its users, and the pausing of LE scans while a link is opened.  The public
addresses that the firmware knows are given with each event.  `none` is a panic, or an event that
cannot happen.
-/

namespace HeadsetAdk

namespace ConManager

/-- The task of a client; none of them is NULL. -/
abbrev Task := Nat

inductive Transport
  | bredrAcl
  | bleAcl
  | none
deriving DecidableEq

/-- The type of a `typed_bdaddr` -/
inductive AddrType
  | typedPublic
  | typedRandom
  | typedInvalid
deriving DecidableEq

structure TypedBdaddr where
  type : AddrType
  addr : Nat
deriving DecidableEq

structure TpBdaddr where
  transport : Transport
  taddr : TypedBdaddr
deriving DecidableEq

def TpBdaddr.empty : TpBdaddr := ⟨.none, ⟨.typedInvalid, 0⟩⟩

/-- `VmGetPublicAddress` at some time -/
abbrev Resolver := TypedBdaddr → Option TypedBdaddr

/-- No address is known to be another one. -/
def unresolved : Resolver := fun _ => none

/-- `ConManagerResolveTpaddr` -/
def TpBdaddr.resolve (vm : Resolver) (tpaddr : TpBdaddr) : TpBdaddr :=
  if tpaddr.transport = .bleAcl ∧ tpaddr.taddr.type = .typedRandom then
    { tpaddr with taddr := (vm tpaddr.taddr).getD tpaddr.taddr }
  else tpaddr

/-- `cm_connection_state_t` -/
inductive LinkState
  | aclConnecting
  | aclConnected
  | aclConnectedSdpSearch
  | aclDisconnected
  | aclDisconnectedLinkLoss
  | aclConnectingPendingPause
  | aclConnectingInternal
deriving DecidableEq

/-- `cm_connection_t`, and whether the stack has been asked to close the link since the entry
was made. -/
structure Connection where
  tpaddr : TpBdaddr
  state : LinkState
  users : Nat
  closing : Bool
deriving DecidableEq

/-- An entry that is not in use. -/
def Connection.unused : Connection := ⟨.empty, .aclDisconnected, 0, false⟩

namespace Connection

def isBle (connection : Connection) : Bool := decide (connection.tpaddr.transport = .bleAcl)

def isActive (connection : Connection) : Bool :=
  decide (connection.state ≠ .aclDisconnected) &&
    decide (connection.state ≠ .aclDisconnectedLinkLoss)

/-- Nothing has been sent to the stack yet. -/
def isWaiting (connection : Connection) : Bool :=
  decide (connection.state = .aclConnectingPendingPause) ||
    decide (connection.state = .aclConnectingInternal)

/-- An LE link that is being opened, with scanning paused. -/
def isOpeningBle (connection : Connection) : Bool :=
  connection.isBle && (decide (connection.state = .aclConnectingInternal) ||
    decide (connection.state = .aclConnecting))

end Connection

def maxConnections : Nat := 5

instance : NeZero maxConnections := ⟨by decide⟩

/-- An index of the table of links. -/
abbrev Slot := Fin maxConnections

/-- What clients do and what is sent, to them and to the stack.  An open request notes whether
scanning was paused, and a resumption whether an LE link was being opened. -/
inductive Entry
  | created (slot : Slot) (user : Task)
  | released (slot : Slot) (user : Option Task)
  | reset (slot : Slot)
  | removed (slot : Slot)
  | closeReq (slot : Slot)
  | openReq (transport : Transport) (paused : Bool)
  | resumed (opening : Bool)
  | disconnectAllLe (requester : Task)
  | disconnectAllLeCfm (requester : Task)
  | closeAllCfm (requester : Task)
deriving DecidableEq

end ConManager

open ConManager

/-- `conManagerTaskData` with the table of links.  Besides, there are the confirmations of
pauses that are to come, the messages of the connection manager to itself, and a log with the
newest entry first. -/
structure ConManager where
  connections : Slot → Connection
  isLeScanPaused : Bool
  pausesRequested : Nat
  forcedDisconnectTask : Option Task
  allLeDisconnectRequester : Option Task
  queue : List TpBdaddr
  log : List Entry

namespace ConManager

section Table

variable (m : ConManager) (vm : Resolver) {slot other : Slot}

def modify (slot : Slot) (change : Connection → Connection) : ConManager :=
  { m with connections := Function.update m.connections slot (change (m.connections slot)) }

@[simp]
theorem modify_self (slot : Slot) (change : Connection → Connection) :
    (m.modify slot change).connections slot = change (m.connections slot) :=
  Function.update_self slot _ m.connections

@[simp]
theorem modify_of_ne (change : Connection → Connection)
    (distinct : other ≠ slot) : (m.modify slot change).connections other = m.connections other :=
  Function.update_of_ne distinct _ m.connections

def setConnectionState (slot : Slot) (state : LinkState) : ConManager :=
  m.modify slot fun connection => { connection with state := state }

@[simp]
theorem setConnectionState_self (slot : Slot) (state : LinkState) :
    (m.setConnectionState slot state).connections slot =
      { m.connections slot with state := state } :=
  m.modify_self slot _

@[simp]
theorem setConnectionState_of_ne (state : LinkState) (distinct : other ≠ slot) :
    (m.setConnectionState slot state).connections other = m.connections other :=
  m.modify_of_ne _ distinct

/-- The first entry of the table with the property. -/
def findSlot (found : Connection → Bool) : Option Slot :=
  (List.finRange maxConnections).find? fun slot => found (m.connections slot)

def findConnectionFromBdAddr (tpaddr : TpBdaddr) : Option Slot :=
  m.findSlot fun connection => decide (connection.tpaddr.resolve vm = tpaddr.resolve vm)

/-- `conManagerFindConnectionFromState` for all transports -/
def findConnectionFromState (state : LinkState) : Option Slot :=
  m.findSlot fun connection =>
    decide (connection.tpaddr.transport ≠ .none) && decide (connection.state = state)

def isConnectingBle : Bool :=
  decide (∃ slot, (m.connections slot).isBle = true ∧
    ((m.connections slot).state = .aclConnectingPendingPause ∨
      (m.connections slot).state = .aclConnectingInternal ∨
      (m.connections slot).state = .aclConnecting))

/-- `ConManagerFindFirstActiveLink` finds an LE link. -/
def hasActiveBle : Bool :=
  decide (∃ slot, (m.connections slot).isBle = true ∧ (m.connections slot).isActive = true)

/-- An LE link is being opened. -/
def isOpeningBle : Bool := decide (∃ slot, (m.connections slot).isOpeningBle = true)

def resetConnection (slot : Slot) : ConManager :=
  { m.modify slot fun _ => Connection.unused with log := .reset slot :: m.log }

@[simp]
theorem resetConnection_self (slot : Slot) :
    (m.resetConnection slot).connections slot = Connection.unused :=
  m.modify_self slot fun _ => Connection.unused

@[simp]
theorem resetConnection_of_ne (distinct : other ≠ slot) :
    (m.resetConnection slot).connections other = m.connections other :=
  m.modify_of_ne (fun _ => Connection.unused) distinct

def addConnection (tpaddr : TpBdaddr) (state : LinkState) : Option (ConManager × Slot) :=
  match m.findConnectionFromBdAddr vm tpaddr with
  | some slot => some (m.setConnectionState slot state, slot)
  | none =>
      ((m.findConnectionFromBdAddr vm .empty).or
        (m.findConnectionFromState .aclDisconnectedLinkLoss)).map fun slot =>
          ((m.resetConnection slot).modify slot fun connection =>
            { connection with
              tpaddr := tpaddr
              state := state }, slot)

/-- `conManagerAddConnectionUser`; the count has three bits. -/
def addConnectionUser (slot : Slot) (user : Task) : ConManager :=
  { m.modify slot fun connection =>
      { connection with users := (connection.users + 1) % 8 } with
    log := .created slot user :: m.log }

def removeConnectionUser (slot : Slot) (user : Option Task) : ConManager :=
  { m.modify slot fun connection => { connection with users := connection.users - 1 } with
    log := .released slot user :: m.log }

end Table

section Opening

variable (m : ConManager) (vm : Resolver)

def resumeLeScanIfPaused : ConManager :=
  if m.isLeScanPaused then
    { m with
      isLeScanPaused := false
      log := .resumed m.isOpeningBle :: m.log }
  else m

def resumeUnlessConnecting : ConManager :=
  if m.isConnectingBle then m else m.resumeLeScanIfPaused

def sendOpenTpAclRequestInternally (slot : Slot) : ConManager :=
  { m.setConnectionState slot .aclConnectingInternal with
    queue := m.queue ++ [(m.connections slot).tpaddr] }

/-- `conManagerPrepareForConnection`, and the message if there is nothing to wait for. -/
def prepareForConnection (slot : Slot) : ConManager :=
  if (m.connections slot).isBle = true ∧ m.isLeScanPaused = false then
    { m.setConnectionState slot .aclConnectingPendingPause with
      pausesRequested := m.pausesRequested + 1 }
  else m.sendOpenTpAclRequestInternally slot

def prepareForConnectionComplete : ConManager :=
  let pending := (List.finRange maxConnections).filter fun slot =>
    decide ((m.connections slot).state = .aclConnectingPendingPause)
  if pending = [] then m.resumeLeScanIfPaused
  else
    { m with
      connections := fun slot =>
        if (m.connections slot).state = .aclConnectingPendingPause then
          { m.connections slot with state := .aclConnectingInternal }
        else m.connections slot
      queue := m.queue ++ pending.map fun slot => (m.connections slot).tpaddr }

def createAclImpl (user : Task) (tpaddr : TpBdaddr) : Option ConManager :=
  let add (m : ConManager) := (m.addConnection vm tpaddr .aclConnecting).map fun added =>
    (added.1.prepareForConnection added.2).addConnectionUser added.2 user
  match m.findConnectionFromBdAddr vm tpaddr with
  | some slot =>
      if (m.connections slot).state = .aclDisconnectedLinkLoss then
        add (m.setConnectionState slot .aclDisconnected)
      else some (m.addConnectionUser slot user)
  | none => add m

def handleInternalAclOpenReq (tpaddr : TpBdaddr) : ConManager :=
  match m.findConnectionFromBdAddr vm tpaddr with
  | some slot =>
      if (m.connections slot).state = .aclConnectingInternal then
        { m.setConnectionState slot .aclConnecting with
          log := .openReq tpaddr.transport m.isLeScanPaused :: m.log }
      else m.resumeUnlessConnecting
  | none => m.resumeUnlessConnecting

end Opening

section Closing

variable (m : ConManager) (vm : Resolver)

def sendCloseTpAclRequest (slot : Slot) : ConManager :=
  { m.modify slot fun connection => { connection with closing := true } with
    log := .closeReq slot :: m.log }

/-- The link has no users any more. -/
def closeConnection (slot : Slot) : ConManager :=
  if (m.connections slot).isWaiting then
    { m with log := .removed slot :: m.log }.resetConnection slot
  else m.sendCloseTpAclRequest slot

def releaseAclImpl (user : Option Task) (tpaddr : TpBdaddr) : ConManager :=
  match m.findConnectionFromBdAddr vm tpaddr with
  | none => m
  | some slot =>
      let released := m.removeConnectionUser slot user
      if 0 < (released.connections slot).users then released
      else (released.closeConnection slot).resumeUnlessConnecting

def checkForAllLeDisconnected : ConManager :=
  match m.allLeDisconnectRequester with
  | some requester =>
      if m.hasActiveBle then m
      else
        { m with
          allLeDisconnectRequester := none
          log := .disconnectAllLeCfm requester :: m.log }
  | none => m

def handleAclOpenedIndication (tpaddr : TpBdaddr) (success : Bool) : Option ConManager :=
  if success then
    (m.addConnection vm tpaddr .aclConnected).map fun added => added.1.resumeUnlessConnecting
  else
    match m.findConnectionFromBdAddr vm tpaddr with
    | some slot => some (m.resetConnection slot).resumeUnlessConnecting
    | none => some m.resumeUnlessConnecting

/-- `ConManagerHandleAclClosedIndication`, with a connection timeout of a handset or not -/
def handleAclClosedIndication (tpaddr : TpBdaddr) (handsetTimeout : Bool) :
    Option ConManager :=
  match m.findConnectionFromBdAddr vm tpaddr with
  | some slot =>
      if handsetTimeout = true ∧ tpaddr.transport = .bredrAcl then
        ((m.resetConnection slot).addConnection vm tpaddr .aclDisconnectedLinkLoss).map
          fun added => added.1.checkForAllLeDisconnected
      else some (m.resetConnection slot).checkForAllLeDisconnected
  | none => some m

/-- `conManagerRemoveAllConnection` and `conManagerCheckForForcedDisconnect`, on the
confirmation that all links are closed by force. -/
def handleAllAclsClosed : ConManager :=
  { m with
    connections := fun _ => Connection.unused
    forcedDisconnectTask := none
    log := (m.forcedDisconnectTask.toList.map Entry.closeAllCfm) ++
      ((List.finRange maxConnections).reverse.map Entry.reset ++ m.log) }

def terminateAllAcls (requester : Task) : Option ConManager :=
  if m.forcedDisconnectTask.isSome ∧ m.forcedDisconnectTask ≠ some requester then none
  else some { m with forcedDisconnectTask := some requester }

/-- The loop of `ConManagerDisconnectAllLeConnectionsRequest` at an entry. -/
def disconnectLe (requester : Task) (slot : Slot) : ConManager :=
  if (m.connections slot).isBle = true ∧ (m.connections slot).isActive = true then
    { m with allLeDisconnectRequester := some requester }.releaseAclImpl vm none
      (m.connections slot).tpaddr
  else m

def disconnectAllLeConnectionsRequest (requester : Task) : Option ConManager :=
  if m.allLeDisconnectRequester.isSome then none
  else
    let asked := { m with log := .disconnectAllLe requester :: m.log }
    let left := (List.finRange maxConnections).foldl
      (fun m slot => m.disconnectLe vm requester slot) asked
    if m.hasActiveBle then some left
    else some { left with log := .disconnectAllLeCfm requester :: left.log }

end Closing

/-- What happens to the connection manager. -/
inductive Event
  | createAcl (user : Task) (tpaddr : TpBdaddr) (vm : Resolver)
  | releaseAcl (user : Task) (tpaddr : TpBdaddr) (vm : Resolver)
  | aclOpened (tpaddr : TpBdaddr) (success : Bool) (vm : Resolver)
  | aclClosed (tpaddr : TpBdaddr) (handsetTimeout : Bool) (vm : Resolver)
  | pauseCfm
  | internalOpen (vm : Resolver)
  | terminateAllAcls (requester : Task)
  | allAclsClosed
  | disconnectAllLe (requester : Task) (vm : Resolver)

def step (m : ConManager) : Event → Option ConManager
  | .createAcl user tpaddr vm => m.createAclImpl vm user tpaddr
  | .releaseAcl user tpaddr vm => some (m.releaseAclImpl vm (some user) tpaddr)
  | .aclOpened tpaddr success vm => m.handleAclOpenedIndication vm tpaddr success
  | .aclClosed tpaddr handsetTimeout vm => m.handleAclClosedIndication vm tpaddr handsetTimeout
  | .pauseCfm =>
      if m.pausesRequested = 0 then none
      else
        some { m with
          pausesRequested := m.pausesRequested - 1
          isLeScanPaused := true }.prepareForConnectionComplete
  | .internalOpen vm =>
      match m.queue with
      | [] => none
      | tpaddr :: queue => some ({ m with queue := queue }.handleInternalAclOpenReq vm tpaddr)
  | .terminateAllAcls requester => m.terminateAllAcls requester
  | .allAclsClosed => some m.handleAllAclsClosed
  | .disconnectAllLe requester vm => m.disconnectAllLeConnectionsRequest vm requester

def init : ConManager :=
  { connections := fun _ => Connection.unused
    isLeScanPaused := false
    pausesRequested := 0
    forcedDisconnectTask := none
    allLeDisconnectRequester := none
    queue := []
    log := [] }

section Lookup

variable {m next : ConManager} {vm : Resolver} {tpaddr : TpBdaddr} {slot : Slot} {state : LinkState}

theorem findSlot_spec {property : Connection → Bool} (found : m.findSlot property = some slot) :
    property (m.connections slot) = true := by
  have spec := List.find?_some (p := fun slot => property (m.connections slot)) found
  exact spec

theorem findConnection_spec (found : m.findConnectionFromBdAddr vm tpaddr = some slot) :
    (m.connections slot).tpaddr.resolve vm = tpaddr.resolve vm :=
  of_decide_eq_true (findSlot_spec found)

theorem resolve_transport (vm : Resolver) (tpaddr : TpBdaddr) :
    (tpaddr.resolve vm).transport = tpaddr.transport := by
  rw [TpBdaddr.resolve]
  split <;> rfl

theorem findConnection_transport (found : m.findConnectionFromBdAddr vm tpaddr = some slot) :
    (m.connections slot).tpaddr.transport = tpaddr.transport := by
  rw [← resolve_transport vm (m.connections slot).tpaddr, findConnection_spec found,
    resolve_transport]

theorem setConnectionState_users (slot other : Slot) (state : LinkState) :
    ((m.setConnectionState slot state).connections other).users = (m.connections other).users := by
  by_cases same : other = slot
  · rw [same, setConnectionState_self]
  · rw [setConnectionState_of_ne m state same]

theorem findConnection_setConnectionState (slot : Slot) (state : LinkState) :
    (m.setConnectionState slot state).findConnectionFromBdAddr vm tpaddr =
      m.findConnectionFromBdAddr vm tpaddr := by
  rw [findConnectionFromBdAddr, findConnectionFromBdAddr, findSlot, findSlot]
  congr 1
  funext other
  by_cases same : other = slot
  · rw [same, setConnectionState_self]
  · rw [setConnectionState_of_ne m state same]

theorem addConnection_cases (added : m.addConnection vm tpaddr state = some (next, slot)) :
    (m.findConnectionFromBdAddr vm tpaddr = some slot ∧ next = m.setConnectionState slot state) ∨
      (m.findConnectionFromBdAddr vm tpaddr = none ∧
        next = (m.resetConnection slot).modify slot fun connection =>
          { connection with
            tpaddr := tpaddr
            state := state }) := by
  rw [addConnection.eq_def] at added
  split at added
  · rename_i found
    cases added
    exact Or.inl ⟨found, rfl⟩
  · rename_i missing
    obtain ⟨slot', -, same⟩ := Option.map_eq_some_iff.mp added
    cases same
    exact Or.inr ⟨missing, rfl⟩

theorem addConnection_replaces (missing : m.findConnectionFromBdAddr vm tpaddr = none)
    (added : m.addConnection vm tpaddr state = some (next, slot)) :
    (m.connections slot).tpaddr.transport = .none ∨
      (m.connections slot).state = .aclDisconnectedLinkLoss := by
  rw [addConnection, missing] at added
  dsimp only at added
  obtain ⟨slot', found, same⟩ := Option.map_eq_some_iff.mp added
  obtain ⟨-, rfl⟩ := Prod.mk.inj same
  cases Option.or_eq_some_iff.mp found with
  | inl empty => exact Or.inl (findConnection_transport empty)
  | inr lost =>
    have both := findSlot_spec lost.2
    exact Or.inr (of_decide_eq_true (Bool.and_eq_true_iff.mp both).2)

theorem addConnection_elsewhere {other : Slot}
    (added : m.addConnection vm tpaddr state = some (next, slot)) (distinct : other ≠ slot) :
    next.connections other = m.connections other := by
  rcases addConnection_cases added with ⟨-, rfl⟩ | ⟨-, rfl⟩
  · exact setConnectionState_of_ne m _ distinct
  · rw [modify_of_ne _ _ distinct, resetConnection_of_ne m distinct]

/-- A pause is confirmed.  If no link waits for it, scanning is resumed. -/
theorem pauseCfm_cases (steps : m.step .pauseCfm = some next) :
    ((∃ slot, (m.connections slot).state = .aclConnectingPendingPause) ∧
      next.isLeScanPaused = true ∧ next.log = m.log ∧
      next.connections = fun slot =>
        if (m.connections slot).state = .aclConnectingPendingPause then
          { m.connections slot with state := .aclConnectingInternal }
        else m.connections slot) ∨
    ((∀ slot, (m.connections slot).state ≠ .aclConnectingPendingPause) ∧
      next.isLeScanPaused = false ∧ next.log = .resumed m.isOpeningBle :: m.log ∧
      next.connections = m.connections) := by
  rw [step] at steps
  split at steps
  · contradiction
  · rw [← Option.some.inj steps, prepareForConnectionComplete]
    dsimp only
    split
    · rename_i nothing
      refine Or.inr ⟨fun slot pending => ?_, rfl, rfl, rfl⟩
      exact List.filter_eq_nil_iff.mp nothing slot (List.mem_finRange slot) (decide_eq_true pending)
    · rename_i something
      refine Or.inl ⟨?_, rfl, rfl, rfl⟩
      obtain ⟨slot, member⟩ := List.exists_mem_of_ne_nil _ something
      exact ⟨slot, of_decide_eq_true (List.mem_filter.mp member).2⟩

theorem pauseCfm_requester (steps : m.step .pauseCfm = some next) :
    next.allLeDisconnectRequester = m.allLeDisconnectRequester := by
  rw [step] at steps
  split at steps
  · contradiction
  · rw [← Option.some.inj steps, prepareForConnectionComplete]
    dsimp only
    split <;> rfl

end Lookup

end ConManager

end HeadsetAdk
