import HeadsetAdk.Lib.EventLog
import Mathlib.Data.List.Basic

/-! # Connections of the GAIA transports -/

namespace HeadsetAdk.Gaia

inductive TransportType
  | test
  | rfcomm
  | spp
  | gatt
  | iap2
deriving DecidableEq

inductive TransportState
  | stopping
  | stopped
  | starting
  | started
  | connecting
  | connected
  | disconnecting
  | preCommitPrimary
  | preCommitSecondary
  | postCommit
  | error
deriving DecidableEq

/-- `tp_bdaddr`, if it is not empty. -/
structure TpBdAddr where
  transport : Nat
  address : Nat
deriving DecidableEq

/-- Which of the `gaia_transport_functions_t` that are called here there are. -/
structure TransportFunctions where
  connectReq : Bool
  disconnectReq : Bool
  error : Bool
deriving DecidableEq

structure Transport where
  functions : TransportFunctions
  type : TransportType
  state : TransportState
  tpBdAddr : Option TpBdAddr
deriving DecidableEq

/-- Messages to the application, and calls of the transport's functions.  A transport is
its place in the list. -/
inductive Effect
  | gaiaConnectCfm (transport : Option Nat) (success : Bool) (tpBdAddr : Option TpBdAddr)
  | gaiaConnectInd (transport : Nat) (success : Bool) (tpBdAddr : Option TpBdAddr)
  | gaiaDisconnectCfm (transport : Nat) (success : Bool) (tpBdAddr : Option TpBdAddr)
  | gaiaDisconnectInd (transport : Nat) (tpBdAddr : Option TpBdAddr)
  | connectReq (transport : Nat) (tpBdAddr : Option TpBdAddr)
  | disconnectReq (transport : Nat)
  | error (transport : Nat)
deriving DecidableEq

/-- What the transport's function does about a disconnection before it returns. -/
inductive DisconnectReport
  | later
  | confirmed (success : Bool)
  | indicated
deriving DecidableEq

namespace Transport

variable (self : Nat) (t : Transport)

def disconnectCfm (success : Bool) : Transport × List Effect :=
  (if success then { t with tpBdAddr := none, state := .started } else t,
    [.gaiaDisconnectCfm self success t.tpBdAddr])

def disconnectInd : Transport × List Effect :=
  ({ t with tpBdAddr := none, state := .started },
    [if t.state = .disconnecting then .gaiaDisconnectCfm self true t.tpBdAddr
      else .gaiaDisconnectInd self t.tpBdAddr])

/-- What comes of the report that `functions->disconnect_req` makes. -/
def report : DisconnectReport → Transport × List Effect
  | .later => (t, [])
  | .confirmed success => disconnectCfm self t success
  | .indicated => disconnectInd self t

/-- The message, or the call, of `Gaia_TransportConnectInd`. -/
def connectIndEffects (success : Bool) (tpBdAddr : Option TpBdAddr)
    (reported : DisconnectReport) : Option (Transport × List Effect) :=
  if t.state = .connecting then some (t, [.gaiaConnectCfm (some self) success tpBdAddr])
  else if success = true ∧ t.state = .disconnecting then
    if t.functions.disconnectReq then
      some ((report self t reported).1, .disconnectReq self :: (report self t reported).2)
    else none
  else some (t, [.gaiaConnectInd self success tpBdAddr])

def connectInd (success : Bool) (tpBdAddr : Option TpBdAddr) (reported : DisconnectReport) :
    Option (Transport × List Effect) :=
  (connectIndEffects self { t with tpBdAddr := if success then tpBdAddr else none } success
    tpBdAddr reported).map fun after =>
      ({ after.1 with state := if success then .connected else .started }, after.2)

/-- `Gaia_TransportDisconnectReq`, without what `functions->disconnect_req` reports. -/
def disconnectReq : Transport × List Effect :=
  if t.functions.disconnectReq = true ∧ t.state = .connected then
    ({ t with state := .disconnecting }, [.disconnectReq self])
  else if t.functions.disconnectReq = true ∧ t.state = .connecting then
    ({ t with state := .disconnecting }, [])
  else (t, [.gaiaDisconnectCfm self false t.tpBdAddr])

/-- `Gaia_TransportErrorInd`, without what `functions->error` reports. -/
def errorInd : Option (Transport × List Effect) :=
  if t.functions.error then some ({ t with state := .error }, [.error self]) else none

/-- `Gaia_TransportConnectReq` picks this transport. -/
def Accepts (type : TransportType) : Prop :=
  t.type = type ∧ t.state = .started ∧ t.functions.connectReq = true

instance (type : TransportType) : Decidable (t.Accepts type) :=
  inferInstanceAs (Decidable (_ ∧ _ ∧ _))

end Transport

inductive TransportEvent
  | connectReq (type : TransportType) (tpBdAddr : Option TpBdAddr)
  | connectInd (transport : Nat) (success : Bool) (tpBdAddr : Option TpBdAddr)
      (reported : DisconnectReport)
  | disconnectReq (transport : Nat)
  | disconnectCfm (transport : Nat) (success : Bool)
  | disconnectInd (transport : Nat)
  | errorInd (transport : Nat)
deriving DecidableEq

/-- `gaia_transports`, and what the transports have been asked and have done. -/
structure Transports where
  list : List Transport
  events : List TransportEvent
  effects : List Effect
deriving DecidableEq

namespace Transports

/-- No requests yet. -/
def start (list : List Transport) : Transports :=
  { list := list, events := [], effects := [] }

def change (transports : Transports) (event : TransportEvent) (transport : Nat)
    (after : Transport × List Effect) : Transports :=
  { list := transports.list.set transport after.1
    events := event :: transports.events
    effects := after.2.reverse ++ transports.effects }

/-- `Gaia_TransportConnectReq`, without what `functions->connect_req` reports. -/
def connectReq (transports : Transports) (type : TransportType)
    (tpBdAddr : Option TpBdAddr) : Effect :=
  match transports.list.findIdx? fun t => decide (t.Accepts type) with
  | some transport => .connectReq transport tpBdAddr
  | none => .gaiaConnectCfm none false tpBdAddr

/-- One event; there is no next state after a panic. -/
def step (transports : Transports) (event : TransportEvent) : Option Transports :=
  match event with
  | .connectReq type tpBdAddr =>
      some { transports with
        events := event :: transports.events
        effects := transports.connectReq type tpBdAddr :: transports.effects }
  | .connectInd transport success tpBdAddr reported =>
      transports.list[transport]?.bind fun t =>
        (t.connectInd transport success tpBdAddr reported).map
          (transports.change event transport)
  | .disconnectReq transport =>
      transports.list[transport]?.map fun t =>
        transports.change event transport (t.disconnectReq transport)
  | .disconnectCfm transport success =>
      transports.list[transport]?.map fun t =>
        transports.change event transport (t.disconnectCfm transport success)
  | .disconnectInd transport =>
      transports.list[transport]?.map fun t =>
        transports.change event transport (t.disconnectInd transport)
  | .errorInd transport =>
      transports.list[transport]?.bind fun t =>
        (t.errorInd transport).map (transports.change event transport)

end Transports

end HeadsetAdk.Gaia
