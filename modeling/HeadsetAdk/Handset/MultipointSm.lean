import HeadsetAdk.Lib.Requests
import HeadsetAdk.TaskList.OrderedSet

/-!
# The handset service's multipoint state machine

What the machine asks the other parts of the program for while it handles an event is given with the
event.  `none` is a panic, or a write outside of a task list.
-/

namespace HeadsetAdk.Handset

open TaskLists

abbrev Bdaddr := Nat

inductive Status
  | success
  | failed
  | cancelled
  | noMru
  | connected
  | disconnected
  | linkLoss
deriving DecidableEq

/-- `handset_service_state_t` -/
inductive HandsetState
  | null
  | disconnected
  | connectingBredrAcl
  | connectingBredrProfiles
  | connectedBredr
  | disconnectingBredr
  | stopConnectingBredrProfiles
deriving DecidableEq

/-- `handset_service_multipoint_state_t` -/
inductive MpState
  | idle
  | getDevice
  | getNextDevice
deriving DecidableEq

/-- `ui_input_t`, those for reconnecting. -/
inductive UiInput
  | connectHandset
  | connectHandsetLinkLoss
deriving DecidableEq

/-- A device with its `DeviceProperties_GetBdAddr` and
`BtDevice_GetSupportedProfilesNotConnected`. -/
structure HandsetDevice where
  bdAddr : Bdaddr
  profilesNotConnected : Nat
deriving DecidableEq

structure Surroundings where
  maxFullyConnected : Bool
  focusDevice : UiInput → Option HandsetDevice
  handsets : List (Bdaddr × HandsetState)
  canConnect : Bdaddr → Bool
  bargeInEnabled : Bool

/-- What clients ask, what they are sent, and what is asked of the handset service. -/
inductive MpEntry
  | reconnectRequest (task : Task)
  | mpConnectCfm (task : Task) (status : Status)
  | mpConnectCfmAtOnce (task : Task) (status : Status)
  | stopReconnect (task : Task)
  | mpConnectStopCfm (task : Task) (status : Status)
  | connectAddressRequest (addr : Bdaddr) (profiles : Nat)
  | stopConnect (addr : Bdaddr)
  | connectStopCfm
deriving DecidableEq

/-- `handset_service_multipoint_state_machine_t`.  There is not the memory for as many
messages as would make `connect_cfm_wait_count` wrap.  Besides, there is a log with the
newest entry first. -/
structure MultipointSm where
  state : MpState
  reconnectionInProgress : Bool
  stopReconnectInProgress : Bool
  connectCfmWaitCount : Nat
  stopReconnectTasklist : Option (List Task)
  reconnectTaskList : List Task
  linkLoss : Bool
  log : List MpEntry
deriving DecidableEq

def addTask (tasks : List Task) (task : Task) : Option (List Task) :=
  if task = 0 then none
  else if task ∈ tasks then some tasks
  else if tasks.length < taskListMaxTasks then some (tasks ++ [task])
  else none

section Adding

variable {old tasks : List Task} {task : Task}

theorem addTask_mem (added : addTask old task = some tasks) (other : Task) :
    other ∈ tasks ↔ other ∈ old ∨ other = task := by
  rw [addTask] at added
  split at added
  · contradiction
  · split at added
    · next member =>
        rw [← Option.some.inj added]
        exact ⟨.inl, fun either => either.elim id fun same => same ▸ member⟩
    · split at added
      · rw [← Option.some.inj added, List.mem_append, List.mem_singleton]
      · contradiction

theorem addTask_nodup (added : addTask old task = some tasks) (distinct : old.Nodup) :
    tasks.Nodup := by
  rw [addTask] at added
  split at added
  · contradiction
  · split at added
    · exact Option.some.inj added ▸ distinct
    · next absent =>
        split at added
        · rw [← Option.some.inj added]
          exact List.nodup_append.mpr ⟨distinct, by simp, fun other member same new equal =>
            absent (List.mem_singleton.mp new ▸ equal ▸ member)⟩
        · contradiction

end Adding

namespace MultipointSm

def init : MultipointSm :=
  { state := .idle
    reconnectionInProgress := false
    stopReconnectInProgress := false
    connectCfmWaitCount := 0
    stopReconnectTasklist := none
    reconnectTaskList := []
    linkLoss := false
    log := [] }

variable (sm : MultipointSm) (surroundings : Surroundings)

def resetMpState : MultipointSm := { sm with state := .idle }

def reconnectUiInput : UiInput :=
  if sm.linkLoss then .connectHandsetLinkLoss else .connectHandset

def sendMpConnectCfm (status : Status) : MultipointSm :=
  { sm with
    log := Requests.sendAll (fun task => .mpConnectCfm task status) sm.reconnectTaskList sm.log
    reconnectTaskList := [] }

def tidyUp : MultipointSm :=
  { sm with
    reconnectionInProgress := false
    connectCfmWaitCount := 0
    reconnectTaskList := []
    linkLoss := false }.resetMpState

def sendMpConnectCfmAndTidyUp (status : Status) : MultipointSm :=
  if sm.reconnectionInProgress = true ∧ sm.connectCfmWaitCount = 0 then
    (sm.sendMpConnectCfm status).tidyUp
  else sm

/-- `sm->state` is one of a handset that connects. -/
def isConnecting (state : HandsetState) : Bool :=
  decide (state = .connectingBredrAcl) || decide (state = .connectingBredrProfiles)

/-- `handsetServiceMultipointSm_IsHandsetConnectInProgress`, by the first machine in use with
the address. -/
def isHandsetConnectInProgress (addr : Bdaddr) : Bool :=
  match surroundings.handsets.find? fun handset =>
      decide (handset.2 ≠ .null) && decide (handset.1 = addr) with
  | some handset => isConnecting handset.2
  | none => false

def addrOfHandsetConnectInProgress : Option Bdaddr :=
  (surroundings.handsets.find? fun handset => isConnecting handset.2).map Prod.fst

/-- `handsetServiceMultipointSm_StopHandsetReconnectionInProgress`; what there is to stop
decides what it returns. -/
def stopHandsetReconnection (addr : Bdaddr) : MultipointSm :=
  { sm with log := .stopConnect addr :: sm.log }

def sendMpConnectStopCfm (status : Status) : MultipointSm :=
  { sm with
    log := Requests.sendAll (fun task => .mpConnectStopCfm task status)
      (sm.stopReconnectTasklist.getD []) sm.log
    stopReconnectTasklist := none
    stopReconnectInProgress := false }

def enterGetDeviceToConnect : MultipointSm :=
  match surroundings.focusDevice sm.reconnectUiInput with
  | some device =>
      if isHandsetConnectInProgress surroundings device.bdAddr = false ∧
          surroundings.canConnect device.bdAddr = true then
        { sm with
          connectCfmWaitCount := sm.connectCfmWaitCount + 1
          log := .connectAddressRequest device.bdAddr device.profilesNotConnected :: sm.log }
      else sm
  | none => (sm.sendMpConnectCfmAndTidyUp .success).resetMpState

/-- `handsetServiceMultipointSm_SetState` to `HANDSET_SERVICE_MP_STATE_GET_DEVICE` -/
def setStateToGetDevice : MultipointSm :=
  if sm.state = .getDevice then sm
  else { sm with state := .getDevice }.enterGetDeviceToConnect surroundings

def enterGetNextDeviceToConnect : MultipointSm :=
  if sm.reconnectionInProgress = true ∧ surroundings.maxFullyConnected = false ∧
      (surroundings.focusDevice sm.reconnectUiInput).isSome = true ∧
      surroundings.bargeInEnabled = false then
    sm.setStateToGetDevice surroundings
  else (sm.sendMpConnectCfmAndTidyUp .success).resetMpState

def setStateToGetNextDevice : MultipointSm :=
  if sm.state = .getNextDevice then sm
  else { sm with state := .getNextDevice }.enterGetNextDeviceToConnect surroundings

def handleConnectCfm (status : Status) : MultipointSm :=
  let sm := { sm with
    connectCfmWaitCount := sm.connectCfmWaitCount - 1 }.sendMpConnectCfmAndTidyUp status
  if sm.connectCfmWaitCount = 0 then sm.resetMpState else sm

def handleConnectStopCfm (status : Status) : MultipointSm :=
  let sm := { sm with log := .connectStopCfm :: sm.log }
  match addrOfHandsetConnectInProgress surroundings with
  | some addr => sm.stopHandsetReconnection addr
  | none => sm.sendMpConnectStopCfm status

def reconnectRequest (task : Task) (linkLoss : Bool) : Option MultipointSm :=
  if surroundings.maxFullyConnected = false then
    (addTask sm.reconnectTaskList task).map fun reconnectTaskList =>
      let added := { sm with
        reconnectTaskList := reconnectTaskList
        log := .reconnectRequest task :: sm.log }
      if sm.reconnectionInProgress then added
      else { added with
        reconnectionInProgress := true
        linkLoss := linkLoss }.setStateToGetDevice surroundings
  else some { sm with log := .mpConnectCfmAtOnce task .success :: sm.log }

/-- What `HandsetServiceMultipointSm_StopReconnect` does unless a stop is in progress. -/
def startStopReconnect : MultipointSm :=
  let sm := { sm with stopReconnectInProgress := true }
  match addrOfHandsetConnectInProgress surroundings with
  | some addr => sm.stopHandsetReconnection addr
  | none => (sm.sendMpConnectStopCfm .disconnected).tidyUp

def stopReconnect (task : Task) : Option MultipointSm :=
  (addTask (sm.stopReconnectTasklist.getD []) task).map fun tasks =>
    let added := { sm with
      stopReconnectTasklist := some tasks
      log := .stopReconnect task :: sm.log }
    if sm.stopReconnectInProgress then added else added.startStopReconnect surroundings

end MultipointSm

/-- What happens to the machine, and what it finds then. -/
inductive MpEvent
  | reconnectRequest (task : Task) (linkLoss : Bool) (surroundings : Surroundings)
  | stopReconnect (task : Task) (surroundings : Surroundings)
  | connectCfm (status : Status)
  | connectStopCfm (status : Status) (surroundings : Surroundings)
  | getNextDevice (surroundings : Surroundings)

/-- One event; there is no next state after a panic. -/
def MultipointSm.step (sm : MultipointSm) : MpEvent → Option MultipointSm
  | .reconnectRequest task linkLoss surroundings =>
      sm.reconnectRequest surroundings task linkLoss
  | .stopReconnect task surroundings => sm.stopReconnect surroundings task
  | .connectCfm status => some (sm.handleConnectCfm status)
  | .connectStopCfm status surroundings => some (sm.handleConnectStopCfm surroundings status)
  | .getNextDevice surroundings => some (sm.setStateToGetNextDevice surroundings)

end HeadsetAdk.Handset
