import HeadsetAdk.CaseComms.Protocol
import HeadsetAdk.Lib.Outcomes

/-!
# The trap based transport

`cc_protocol_trans_schemeA.c` sends one message at a time, and notes it for the status that the
charger driver reports.
-/

namespace HeadsetAdk.CaseComms

namespace SchemeA

def maxMsgPayload : Nat := 13

inductive MsgStatus
  | success
  | interrupted
  | failed
  | queueFull
  | unknownError
  deriving DecidableEq, Repr

/-- `transport_scheme_data`: two fields of four bits. -/
structure SchemeData where
  cidInTransit : Nat
  midInTransit : Nat
  deriving DecidableEq, Repr

/-- The destinations in the charger comms header. -/
def destBits : Dev → UInt8
  | .case => 0x00
  | .rightEb => 0x10
  | .leftEb => 0x20
  | .broadcast => 0x30

/-- The message that is built for `ChargerCommsTransmit`. -/
def message (dest : Dev) (cid mid : Nat) (data : List UInt8) : List UInt8 :=
  [destBits dest, caseCommsSetMid (caseCommsSetCid 0 cid) mid] ++ data

/-- `ccProtocol_TransSchemeATransmit`, which does not look at the answer of the driver. -/
def transmit (schemeData : SchemeData) (dest : Dev) (cid mid : Nat) (data : List UInt8) :
    Except Fault (Option (SchemeData × List UInt8)) :=
  if dest ≠ .case then .ok none
  else if maxMsgPayload < data.length then .error .panic
  else if schemeData.cidInTransit ≠ cidInvalid then .ok none
  else .ok (some (⟨cid % 16, mid % 16⟩, message dest cid mid data))

def resetCidMid : SchemeData := ⟨cidInvalid, 0⟩

def schemeA : Transport SchemeData Unit (List UInt8) where
  transmit := fun schemeData _ dest cid mid data => transmit schemeData dest cid mid data
  requiresPolling := false
  requiresReset := false

def commsGetStatus (status : MsgStatus) : TxStatus :=
  if status = .success then .success else .fail

/-- `ccProtocol_HandleMessageChargercommsStatus`; `calls` are those that the client makes in
its callback. -/
def handleMessageChargercommsStatus (td : Protocol SchemeData) (status : MsgStatus)
    (calls : List (Attempt Unit)) : Except Fault (Outcome SchemeData (List UInt8)) :=
  td.sendStatusToClient schemeA (commsGetStatus status) td.schemeData.cidInTransit
    td.schemeData.midInTransit calls

/-- `ccProtocol_TransSchemeAReceive`; `calls` are those that the client makes in its
callback. -/
def receive (td : Protocol SchemeData) (header : UInt8) (payload : List UInt8)
    (calls : List (Attempt Unit)) : Except Fault (Outcome SchemeData (List UInt8)) := do
  let outcome ← td.sendRxPacketToClient schemeA payload (caseCommsGetCid header)
    (caseCommsGetMid header) .case calls
  return { outcome with protocol := { outcome.protocol with schemeData := resetCidMid } }

/-- The protocol with the transmits that were accepted, those of them that the driver has
not reported yet, and the calls of clients' callbacks. -/
structure Link where
  protocol : Protocol SchemeData
  accepted : List (Accepted (List UInt8))
  awaiting : List (Accepted (List UInt8))
  effects : List Effect

/-- What can happen: calls of clients, a report of the driver, and a packet. -/
inductive Event
  | transmit (attempt : Attempt Unit)
  | status (reported : Accepted (List UInt8)) (status : MsgStatus) (calls : List (Attempt Unit))
  | receive (header : UInt8) (payload : List UInt8) (calls : List (Attempt Unit))

def Event.calls : Event → List (Attempt Unit)
  | .transmit attempt => [attempt]
  | .status _ _ calls => calls
  | .receive _ _ calls => calls

/-- The driver reports a transmit that awaits its status, and clients use the channels and
the message ids that the header has room for. -/
structure Event.Possible (link : Link) (event : Event) : Prop where
  awaits : ∀ reported status calls, event = .status reported status calls →
    reported ∈ link.awaiting
  fits : ∀ attempt ∈ event.calls, attempt.call.cid < cidMax ∧ attempt.call.mid < 16

def handle (td : Protocol SchemeData) : Event → Except Fault (Outcome SchemeData (List UInt8))
  | .transmit attempt => do
      let (td, accepted) ← td.transmitInternal schemeA attempt
      return ⟨td, [], accepted.toList⟩
  | .status _ status calls => handleMessageChargercommsStatus td status calls
  | .receive header payload calls => receive td header payload calls

def Link.settle (link : Link) : Event → List (Accepted (List UInt8))
  | .transmit _ => link.awaiting
  | .status reported _ _ => link.awaiting.erase reported
  | .receive _ _ _ => link.awaiting

def Link.step (link : Link) (event : Event) : Except Fault Link := do
  let outcome ← handle link.protocol event
  return ⟨outcome.protocol, link.accepted ++ outcome.accepted,
    link.settle event ++ outcome.accepted, link.effects ++ outcome.effects⟩

def Link.init (mode : Mode) (registered : Nat → Bool × Bool) : Link :=
  ⟨.init mode resetCidMid registered, [], [], []⟩

/-- The states that runs reach in which no packet is taken while a transmit awaits its
status, or when any packet can be taken. -/
inductive Reached (mode : Mode) (registered : Nat → Bool × Bool) (orderly : Bool) : Link → Prop
  | init : Reached mode registered orderly (.init mode registered)
  | step {link next : Link} (reached : Reached mode registered orderly link) (event : Event)
      (possible : event.Possible link) (stepped : link.step event = .ok next)
      (inOrder : orderly = true → ∀ header payload calls, event = .receive header payload calls →
        next.awaiting = []) :
      Reached mode registered orderly next

end SchemeA

end HeadsetAdk.CaseComms
