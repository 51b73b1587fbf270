import HeadsetAdk.CaseComms.Protocol

/-!
# The single wire UART transport

`cc_protocol_trans_schemeB.c` writes packets to a stream and is told later how each of them
fared.  A run has, next to the state, the packets that await their status and the messages that
await their response.
-/

namespace HeadsetAdk.CaseComms

inductive UartMsgType
  | commsData
  | poll
  deriving DecidableEq, Repr

inductive UartTxStatus
  | success
  | failed
  | invalidReq
  | hwBufferFull
  | timeout
  deriving DecidableEq, Repr

/-- What is flushed to the stream: `charger_comms_uart_tx_msg_header_t` and the payload. -/
structure UartPacket where
  type : UartMsgType
  destAddress : Dev
  header : UInt8
  payload : List UInt8
  deriving DecidableEq, Repr

/-- The answers of the stream: `SinkSlack`, whether `SinkClaim` returns an offset, and
`SinkFlushHeader`. -/
structure Sink where
  slack : Nat
  claimed : Bool
  flushed : Bool
  deriving DecidableEq, Repr

/-- The header and payload that `ccProtocol_TransSchemeBTransmit` makes. -/
def uartPacket (dest : Dev) (cid mid : Nat) (data : List UInt8) : UartPacket :=
  if data.length = 0 ∧ cid = cidInvalid then ⟨.poll, dest, 0, data⟩
  else ⟨.commsData, dest, caseCommsSetMid (caseCommsSetCid 0 cid) mid, data⟩

/-- Whether the stream has room. -/
def Sink.canSend (sink : Sink) (cid : Nat) (data : List UInt8) : Bool :=
  if data.length = 0 ∧ cid = cidInvalid then sink.slack != 0
  else if data.length = 0 then true
  else decide (data.length ≤ sink.slack) && sink.claimed

def transSchemeBTransmit (sink : Sink) (dest : Dev) (cid mid : Nat) (data : List UInt8) :
    Option UartPacket :=
  if sink.canSend cid data = true ∧ sink.flushed = true then some (uartPacket dest cid mid data)
  else none

def schemeB : Transport Unit Sink UartPacket where
  transmit := fun _ sink dest cid mid data =>
    .ok ((transSchemeBTransmit sink dest cid mid data).map fun packet => ((), packet))
  requiresPolling := true
  requiresReset := true

def commsUartStatusToCcStatus : UartTxStatus → TxStatus
  | .success => .success
  | .timeout => .timeout
  | .failed | .invalidReq | .hwBufferFull => .fail

/-- A message to an earbud that was not transmitted or not acknowledged reduces the count
of outstanding responses. -/
def Protocol.recordFailure (td : Protocol Unit) (packet : UartPacket) (status : UartTxStatus) :
    Except Fault (Protocol Unit) :=
  if td.mode = .case ∧ status ≠ .success ∧
      (packet.destAddress = .leftEb ∨ packet.destAddress = .rightEb) then
    td.decrementPollRequired schemeB packet.destAddress (caseCommsGetCid packet.header)
  else .ok td

def Protocol.reportToClient (td : Protocol Unit) (packet : UartPacket) (status : UartTxStatus)
    (calls : List (Attempt Sink)) : Except Fault (Outcome Unit UartPacket) :=
  if packet.type = .commsData then
    td.sendStatusToClient schemeB (commsUartStatusToCcStatus status)
      (caseCommsGetCid packet.header) (caseCommsGetMid packet.header) calls
  else .ok ⟨td, [], []⟩

def Protocol.checkPolls (td : Protocol Unit) : Protocol Unit :=
  if td.mode = .case then td.schedulePollIfRequired schemeB else td

/-- `ccProtocol_HandleMessageChargercommsUartStatus`; `calls` are those that the client
makes in its callback. -/
def Protocol.handleMessageChargercommsUartStatus (td : Protocol Unit) (packet : UartPacket)
    (status : UartTxStatus) (calls : List (Attempt Sink)) :
    Except Fault (Outcome Unit UartPacket) := do
  let td ← td.recordFailure packet status
  let outcome ← td.reportToClient packet status calls
  return { outcome with protocol := outcome.protocol.checkPolls }

structure Sent where
  serial : Nat
  call : Call
  packet : UartPacket
  deriving DecidableEq, Repr

/-- The protocol with the packets whose status has not been reported, and the messages
whose response is required and which neither failed nor were answered. -/
structure System where
  protocol : Protocol Unit
  inFlight : List Sent
  outstanding : List Sent
  nextSerial : Nat

/-- What can happen: calls of clients, the report of a status, a packet from another
device that may answer a message, and the expiry of a poll timer.  Clients can make
calls in their callbacks. -/
inductive Event
  | transmit (attempt : Attempt Sink)
  | status (sent : Sent) (status : UartTxStatus) (calls : List (Attempt Sink))
  | receive (sourceDev : Dev) (header : UInt8) (msg : List UInt8) (answered : Option Sent)
      (calls : List (Attempt Sink))
  | pollTimer (dest : Dev) (sink : Sink)

/-- A status is reported for a packet that awaits it, an answer comes from the device and
on the channel of a message that awaits it, and a timer expires that is pending. -/
def Event.Possible (s : System) : Event → Prop
  | .transmit _ => True
  | .status sent _ _ => sent ∈ s.inFlight
  | .receive sourceDev header _ answered _ =>
      ∀ sent, answered = some sent → sent ∈ s.outstanding ∧ sent.call.dest = sourceDev ∧
        sent.call.cid = caseCommsGetCid header
  | .pollTimer dest _ => dest ∈ s.protocol.pollTimers

def numbered (serial : Nat) : List (Accepted UartPacket) → List Sent
  | [] => []
  | accepted :: rest => ⟨serial, accepted.call, accepted.packet⟩ :: numbered (serial + 1) rest

/-- Taking note of what the handling of an event has sent. -/
def System.record (s : System) (outcome : Outcome Unit UartPacket) : System :=
  let sent := numbered s.nextSerial outcome.accepted
  { protocol := outcome.protocol
    inFlight := s.inFlight ++ sent
    outstanding := s.outstanding ++ sent.filter fun message => message.call.responseReqd
    nextSerial := s.nextSerial + sent.length }

/-- The packet awaits its status no more, and no response when it failed. -/
def System.report (s : System) (sent : Sent) (status : UartTxStatus) : System :=
  { s with
    inFlight := s.inFlight.erase sent
    outstanding := if status = .success then s.outstanding else s.outstanding.erase sent }

/-- The message awaits its response no more. -/
def System.answer (s : System) (answered : Option Sent) : System :=
  { s with
    outstanding :=
      match answered with
      | some sent => s.outstanding.erase sent
      | none => s.outstanding }

def Protocol.handle (td : Protocol Unit) : Event → Except Fault (Outcome Unit UartPacket)
  | .transmit attempt => do
      let (td, accepted) ← td.transmitInternal schemeB attempt
      return ⟨td, [], accepted.toList⟩
  | .status sent status calls =>
      td.handleMessageChargercommsUartStatus sent.packet status calls
  | .receive sourceDev header msg _ calls =>
      td.sendRxPacketToClient schemeB msg (caseCommsGetCid header) (caseCommsGetMid header)
        sourceDev calls
  | .pollTimer dest sink => td.handlePollTimer schemeB dest sink

/-- What no longer waits when an event has happened. -/
def System.settle (s : System) : Event → System
  | .transmit _ => s
  | .status sent status _ => s.report sent status
  | .receive _ _ _ answered _ => s.answer answered
  | .pollTimer _ _ => s

def System.step (s : System) (event : Event) : Except Fault System := do
  let outcome ← s.protocol.handle event
  return (s.settle event).record outcome

def System.init (mode : Mode) (registered : Nat → Bool × Bool) : System :=
  ⟨.init mode () registered, [], [], 0⟩

inductive Reached (mode : Mode) (registered : Nat → Bool × Bool)
    (kind : System → Event → Prop) : System → Prop
  | init : Reached mode registered kind (.init mode registered)
  | step {s next : System} (reached : Reached mode registered kind s) (event : Event)
      (possible : event.Possible s) (isKind : kind s event) (stepped : s.step event = .ok next) :
      Reached mode registered kind next

end HeadsetAdk.CaseComms
