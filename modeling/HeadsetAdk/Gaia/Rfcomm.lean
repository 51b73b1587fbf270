import HeadsetAdk.Gaia.TransportCommon

/-!
# Receiving over RFCOMM

A packet's bytes are dropped when the upper layer has handled it, which is later for version 3 and
at once for any other.  That reads the rest of the source, while the packets that were there before
are still being taken apart.
-/

namespace HeadsetAdk.Gaia

/-- `gaia_transport_rfcomm_t`, its source, `gaia.app_version`, and the number of acknowledgements
that the sink has space for.  Besides, there is all that arrived, and what became of it. -/
structure Rfcomm where
  source : List UInt8
  rxPacketsPending : Nat
  rxDataPending : Nat
  connected : Bool
  appVersion3 : Bool
  acksFit : Nat
  arrived : List UInt8
  delivered : List Received
  waiting : List Nat
  indicated : Bool
deriving DecidableEq

namespace Rfcomm

def maxRxPendingPkts : Nat := 2

def created (appVersion3 : Bool) : Rfcomm :=
  { source := []
    rxPacketsPending := 0
    rxDataPending := 0
    connected := true
    appVersion3 := appVersion3
    acksFit := 0
    arrived := []
    delivered := []
    waiting := []
    indicated := false }

/-- `Gaia_TransportErrorInd`, which asks for the disconnection. -/
def errorInd (tr : Rfcomm) : Rfcomm := { tr with connected := false }

/-- `send_ack` with `gaiaTransport_RfcommSendPacket` -/
def sendAck (tr : Rfcomm) : Rfcomm :=
  match tr.acksFit with
  | 0 => tr.errorInd
  | acksFit + 1 => { tr with acksFit := acksFit }

def dataConsumed (tr : Rfcomm) (dataConsumed : Nat) : Rfcomm :=
  if dataConsumed ≤ tr.source.length then
    { tr with source := tr.source.drop dataConsumed }
  else tr

def flushInput (tr : Rfcomm) : Rfcomm := tr.dataConsumed tr.source.length

def allHandled (tr : Rfcomm) : Rfcomm :=
  let tr := { tr.dataConsumed tr.rxDataPending with rxDataPending := 0 }
  if tr.connected then tr else tr.flushInput

def packetHandled (receivePacket : Rfcomm → Except Fault Rfcomm) (tr : Rfcomm) :
    Except Fault Rfcomm :=
  if tr.rxPacketsPending = 0 then .error .panic
  else if tr.rxPacketsPending = 1 then receivePacket { tr with rxPacketsPending := 0 }.allHandled
  else .ok { tr with rxPacketsPending := tr.rxPacketsPending - 1 }

/-- `Gaia_ProcessCommand`; the message for the application is what it waits for. -/
def gaiaProcessCommand (receivePacket : Rfcomm → Except Fault Rfcomm) (tr : Rfcomm)
    (packet : Nat) : Except Fault Rfcomm :=
  if tr.appVersion3 then .ok { tr with waiting := tr.waiting ++ [packet] }
  else packetHandled receivePacket tr.sendAck

/-- The counts in `gaiaTransport_RfcommProcessCommand`. -/
def pend (tr : Rfcomm) (received : Received) : Rfcomm :=
  { tr with
    rxDataPending := (tr.rxDataPending + received.pktSize) % 2 ^ 16
    rxPacketsPending := (tr.rxPacketsPending + 1) % 2 ^ 8
    delivered := tr.delivered ++ [received] }

/-- `gaiaTransport_RfcommProcessCommand`.  After a fault there are no more packets. -/
def processCommand (receivePacket : Rfcomm → Except Fault Rfcomm) :
    Callback (Except Fault Rfcomm) :=
  fun tr received =>
    match tr.bind fun tr =>
        gaiaProcessCommand receivePacket (tr.pend received) tr.delivered.length with
    | .ok tr => (decide (tr.rxPacketsPending < maxRxPendingPkts), .ok tr)
    | .error fault => (false, .error fault)

/-- The transport after `Gaia_TransportCommonReceivePacket`, which indicates an error
last. -/
def afterReceive (outcome : Outcome (Except Fault Rfcomm)) : Except Fault Rfcomm :=
  outcome.client.map fun tr => if outcome.error.isSome then tr.errorInd else tr

/-- `gaiaTransport_RfcommReceivePacket`, nested at most as often as given. -/
def receivePacket : Nat → Rfcomm → Except Fault Rfcomm
  | 0, _ => .error .endless
  | nested + 1, tr =>
      if tr.rxDataPending = 0 ∧ tr.source ≠ [] then
        (Gaia.receivePacket (processCommand (receivePacket nested))
          (tr.source.length + 1) tr.source (.ok tr)).bind afterReceive
      else .ok tr

/-- As often as there are bytes in the source, and once more, is enough. -/
def receive (tr : Rfcomm) : Except Fault Rfcomm := tr.receivePacket (tr.source.length + 2)

/-- What happens to the transport. -/
inductive Event
  | arrive (bytes : List UInt8)
  | moreData
  | packetHandled (packet : Nat)
  | setAppVersion (version3 : Bool)
  | sinkSpace (acksFit : Nat)
deriving DecidableEq

def Happens (tr : Rfcomm) : Event → Prop
  | .arrive bytes => tr.source.length + bytes.length < 2 ^ 16
  | .packetHandled packet => packet ∈ tr.waiting
  | _ => True

instance (tr : Rfcomm) (event : Event) : Decidable (tr.Happens event) :=
  match event with
  | .arrive bytes => inferInstanceAs (Decidable (tr.source.length + bytes.length < 2 ^ 16))
  | .packetHandled packet => inferInstanceAs (Decidable (packet ∈ tr.waiting))
  | .moreData => isTrue trivial
  | .setAppVersion _ => isTrue trivial
  | .sinkSpace _ => isTrue trivial

def handle (tr : Rfcomm) : Event → Except Fault Rfcomm
  | .arrive bytes =>
      .ok { tr with
        source := tr.source ++ bytes
        arrived := tr.arrived ++ bytes
        indicated := true }
  | .moreData => { tr with indicated := false }.receive
  | .packetHandled packet =>
      let tr := { tr with waiting := tr.waiting.erase packet }
      packetHandled (fun next => next.receivePacket (tr.source.length + 2)) tr
  | .setAppVersion version3 => .ok { tr with appVersion3 := version3 }
  | .sinkSpace acksFit => .ok { tr with acksFit := acksFit }

/-- One event; there is no next state after a fault. -/
def step (tr : Rfcomm) (event : Event) : Option Rfcomm :=
  if tr.Happens event then (tr.handle event).toOption else none

end Rfcomm

end HeadsetAdk.Gaia
