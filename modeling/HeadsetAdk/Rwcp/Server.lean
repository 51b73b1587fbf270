import HeadsetAdk.Lib.SerialNumber

/-!
# The RWCP server

`rwcp_server.c`.  What the server hands to Gaia is recorded in the order of the calls.
-/

namespace HeadsetAdk.Rwcp

inductive ProtocolState
  | listen
  | synRcvd
  | established
  deriving DecidableEq, Repr

/-- The fields of `SERVER_DATA_T` that the message handler uses. -/
structure ServerData where
  protocolState : ProtocolState
  outOfSequenceStatus : Bool
  lastSequenceNumber : UInt8
  acceptSegments : Bool
  deriving DecidableEq, Repr

def clientCmdData : UInt8 := 0x00

def clientCmdSyn : UInt8 := 0x40

def clientCmdRst : UInt8 := 0x80

def serverCmdDataAck : UInt8 := 0x00

def serverCmdSynAck : UInt8 := 0x40

def serverCmdRst : UInt8 := 0x80

def serverCmdGap : UInt8 := 0xc0

def commandMask : UInt8 := 0xc0

def sequenceMask : UInt8 := 0x3f

def sequenceNumberMax : Nat := 64

def receiveWindowMax : Nat := 32

/-- `rwcp_data_pkts_t` -/
inductive DataPkt
  | inSequence
  | duplicate
  | outOfSequence
  | discarded
  deriving DecidableEq, Repr

/-- The calls to Gaia: `GaiaRwcpSendNotification` with the header byte and
`GaiaRwcpProcessCommand` with the payload. -/
inductive GaiaCall
  | sendNotification (header : UInt8)
  | processCommand (payload : List UInt8)
  deriving DecidableEq, Repr

def sendNotification (sequence command : UInt8) : GaiaCall :=
  .sendNotification ((sequence &&& sequenceMask) ||| (command &&& commandMask))

def dataAck (sequence : UInt8) : GaiaCall := sendNotification sequence serverCmdDataAck

def rstAck (sequence : UInt8) : GaiaCall := sendNotification sequence serverCmdRst

def rst (sequence : UInt8) : GaiaCall := sendNotification sequence serverCmdRst

def synAck (sequence : UInt8) : GaiaCall := sendNotification sequence serverCmdSynAck

def gap (sequence : UInt8) : GaiaCall := sendNotification sequence serverCmdGap

/-- `nextExpectedSequenceNumber`, which looks at the server data only. -/
def ServerData.nextExpectedSequenceNumber (server : ServerData) : UInt8 :=
  UInt8.ofNat ((server.lastSequenceNumber.toNat + 1) % sequenceNumberMax)

def ServerData.isNextSequence (server : ServerData) (sequence : UInt8) : Bool :=
  sequence == server.nextExpectedSequenceNumber

/-- `isOutOfSequence`: the subtraction is on `int`, the result a `uint16`. -/
def ServerData.isOutOfSequence (server : ServerData) (sequence : UInt8) : Bool :=
  let norm := (Int.tmod ((sequence.toNat : Int) - server.lastSequenceNumber.toNat +
    sequenceNumberMax) sequenceNumberMax) % 65536
  decide (norm > 0 ∧ norm ≤ receiveWindowMax)

/-- `handleDataSegment`, for a segment whose payload starts after the header. -/
def ServerData.handleDataSegment (server : ServerData) (sequenceNumber : UInt8)
    (payload : List UInt8) : DataPkt × ServerData × List GaiaCall :=
  if server.acceptSegments then
    if server.isNextSequence sequenceNumber then
      (.inSequence,
        { server with outOfSequenceStatus := false, lastSequenceNumber := sequenceNumber },
        [dataAck sequenceNumber, .processCommand payload])
    else if server.isOutOfSequence sequenceNumber then
      if server.outOfSequenceStatus then (.outOfSequence, server, [])
      else
        (.outOfSequence, { server with outOfSequenceStatus := true },
          [gap server.lastSequenceNumber])
    else (.duplicate, server, [dataAck sequenceNumber])
  else (.discarded, server, [])

/-- `isRWwcpControlCmd` -/
def isControlCmd (command : UInt8) : Bool :=
  command == clientCmdSyn || command == clientCmdRst

/-- The `RWCP_LISTEN` case of `RwcpServerHandleMessage`. -/
def ServerData.handleListen (server : ServerData) (command sequenceNumber : UInt8) :
    DataPkt × ServerData × List GaiaCall :=
  if command = clientCmdSyn then
    (.inSequence, { server with lastSequenceNumber := sequenceNumber, protocolState := .synRcvd },
      [synAck sequenceNumber])
  else if command = clientCmdRst then (.inSequence, server, [rstAck sequenceNumber])
  else (.inSequence, server, [rst sequenceNumber])

/-- The `RWCP_SYN_RCVD` case of `RwcpServerHandleMessage`. -/
def ServerData.handleSynRcvd (server : ServerData) (command sequenceNumber : UInt8)
    (payload : List UInt8) : DataPkt × ServerData × List GaiaCall :=
  if command = clientCmdSyn then
    (.inSequence, { server with lastSequenceNumber := sequenceNumber }, [synAck sequenceNumber])
  else if command = clientCmdRst then
    (.inSequence, { server with protocolState := .listen }, [rstAck sequenceNumber])
  else if command = clientCmdData then
    let (packet, server, calls) :=
      { server with outOfSequenceStatus := false }.handleDataSegment sequenceNumber payload
    (packet, { server with protocolState := .established }, calls)
  else (.inSequence, { server with protocolState := .listen }, [rst sequenceNumber])

/-- The `RWCP_ESTABLISHED` case of `RwcpServerHandleMessage`. -/
def ServerData.handleEstablished (server : ServerData) (command sequenceNumber : UInt8)
    (payload : List UInt8) : DataPkt × ServerData × List GaiaCall :=
  if command = clientCmdRst then
    (.inSequence, { server with protocolState := .listen }, [rstAck sequenceNumber])
  else if command = clientCmdData then server.handleDataSegment sequenceNumber payload
  else (.inSequence, { server with protocolState := .listen }, [rst sequenceNumber])

/-- `RwcpServerHandleMessage` on a segment: its header byte and its payload. -/
def ServerData.handleSegment (server : ServerData) (header : UInt8) (payload : List UInt8) :
    Bool × ServerData × List GaiaCall :=
  let sequenceNumber := header &&& sequenceMask
  let command := header &&& commandMask
  let (packet, server, calls) :=
    match server.protocolState with
    | .listen => server.handleListen command sequenceNumber
    | .synRcvd => server.handleSynRcvd command sequenceNumber payload
    | .established => server.handleEstablished command sequenceNumber payload
  (!(isControlCmd command || packet == .outOfSequence || packet == .duplicate), server, calls)

/-- `RwcpServerHandleMessage`; the argument is `none` for `NULL`.  The header byte is
read without a look at the size: the result is `none` for a message without one. -/
def ServerData.handleMessage (server : ServerData) :
    Option (List UInt8) → Option (Bool × ServerData × List GaiaCall)
  | none => some (false, server, [])
  | some [] => none
  | some (header :: payload) => some (server.handleSegment header payload)

def ServerData.flowControl (server : ServerData) (accept : Bool) : ServerData :=
  { server with acceptSegments := accept }

/-- `RwcpServerInit`, which leaves `out_of_sequence_status` as it was. -/
def ServerData.init (server : ServerData) : ServerData :=
  { server with
    protocolState := .listen
    acceptSegments := true
    lastSequenceNumber := 0 }

end HeadsetAdk.Rwcp
