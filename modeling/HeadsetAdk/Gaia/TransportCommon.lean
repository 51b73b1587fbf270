import Mathlib.Algebra.Group.Nat.Defs
import Mathlib.Data.List.Basic

/-!
# GAIA packets

The framing of `gaia_transport_common.c`.  Sizes are `uint16` values: numbers below `2 ^ 16` with
the arithmetic of the C type.
-/

namespace HeadsetAdk.Gaia

/-- What stops the program: a failed check, an access outside of a buffer, or a
loop without an end. -/
inductive Fault
  | panic
  | outOfBounds
  | endless
  deriving DecidableEq, Repr

/-- The errors for `Gaia_TransportErrorInd`. -/
inductive TransportError
  | framingError
  | checksumError
  deriving DecidableEq, Repr

def sof : UInt8 := 0xFF

def statusNone : UInt8 := 0xFE

def flagCheck : UInt8 := 0x01

def flag16BitLength : UInt8 := 0x02

def offsVersion : Nat := 1

def offsFlags : Nat := 2

def offsPayloadLength : Nat := 3

def offsVendorId (is16Bit : Bool) : Nat := if is16Bit then 5 else 4

def offsCommandId (is16Bit : Bool) : Nat := if is16Bit then 7 else 6

def offsPayload (is16Bit : Bool) : Nat := if is16Bit then 9 else 8

def high (value : Nat) : UInt8 := UInt8.ofNat (value / 2 ^ 8)

def low (value : Nat) : UInt8 := UInt8.ofNat value

def w16 (data : List UInt8) (offset : Nat) : Except Fault Nat :=
  match data[offset]?, data[offset + 1]? with
  | some first, some second => .ok (first.toNat * 2 ^ 8 + second.toNat)
  | _, _ => .error .outOfBounds

def byteAt (data : List UInt8) (offset : Nat) : Except Fault UInt8 :=
  match data[offset]? with
  | some byte => .ok byte
  | none => .error .outOfBounds

def bytesAt (data : List UInt8) (offset size : Nat) : Except Fault (List UInt8) :=
  if offset + size ≤ data.length then .ok ((data.drop offset).take size)
  else .error .outOfBounds

def writeAt (buffer : List UInt8) (offset : Nat) (bytes : List UInt8) :
    Except Fault (List UInt8) :=
  if offset + bytes.length ≤ buffer.length then
    .ok (buffer.take offset ++ bytes ++ buffer.drop (offset + bytes.length))
  else .error .outOfBounds

def panicFalse (condition : Bool) : Except Fault Unit :=
  if condition then .ok () else .error .panic

/-- All bytes, one after the other, with XOR. -/
def checksum (data : List UInt8) : UInt8 := data.foldl (· ^^^ ·) 0

def calcTxPacketLength (sizePayload : Nat) (status : UInt8) : Nat :=
  (offsPayload false + sizePayload + (if sizePayload > 255 then 1 else 0) +
    (if status ≠ statusNone then 1 else 0)) % 2 ^ 16

/-- The flags that `Gaia_TransportCommonSetPacketHeader` writes. -/
def headerFlags (protocolVersion : UInt8) (sizePayload : Nat) (useChecksum : Bool) :
    Except Fault UInt8 :=
  let flags := if useChecksum then flagCheck else 0
  if 255 < sizePayload then
    if 4 ≤ protocolVersion then .ok (flags ||| flag16BitLength) else .error .panic
  else .ok flags

/-- The bytes that `Gaia_TransportCommonSetPacketHeader` writes. -/
def headerBytes (protocolVersion flags : UInt8) (vendorId commandId : UInt16)
    (sizePayload : Nat) : List UInt8 :=
  [sof, protocolVersion, flags] ++
    (if flags &&& flag16BitLength ≠ 0 then [high sizePayload, low sizePayload]
      else [low sizePayload]) ++
    [high vendorId.toNat, low vendorId.toNat, high commandId.toNat, low commandId.toNat]

/-- `Gaia_TransportCommonSetPacketHeader`: the buffer, and where the payload goes. -/
def setPacketHeader (protocolVersion : UInt8) (pktBuf : List UInt8) (pktLength : Nat)
    (vendorId commandId : UInt16) (sizePayload : Nat) (useChecksum : Bool) :
    Except Fault (List UInt8 × Nat) := do
  let flags ← headerFlags protocolVersion sizePayload useChecksum
  let header := headerBytes protocolVersion flags vendorId commandId sizePayload
  let pktBuf ← writeAt pktBuf 0 header
  let packetSize := (header.length + sizePayload + if useChecksum then 1 else 0) % 2 ^ 16
  panicFalse (packetSize == pktLength)
  return (pktBuf, header.length)

/-- The status byte, which is left out for `GAIA_STATUS_NONE`. -/
def statusBytes (status : UInt8) : List UInt8 := if status ≠ statusNone then [status] else []

/-- `Gaia_TransportCommonBuildPacket`, which has no use for the checksum yet. -/
def buildPacket (protocolVersion : UInt8) (pktBuf : List UInt8) (pktLength : Nat)
    (vendorId commandId : UInt16) (status : UInt8) (payload : List UInt8) :
    Except Fault (List UInt8) := do
  let totalPayloadSize := (payload.length + if status = statusNone then 0 else 1) % 2 ^ 16
  let (pktBuf, pktPtr) ←
    setPacketHeader protocolVersion pktBuf pktLength vendorId commandId totalPayloadSize false
  let pktBuf ← writeAt pktBuf pktPtr (statusBytes status)
  writeAt pktBuf (pktPtr + (statusBytes status).length) payload

def calcRxPacketLength (sizePayload : Nat) (flags : UInt8) : Nat :=
  (offsPayload false + sizePayload + (if flags &&& flagCheck ≠ 0 then 1 else 0) +
    (if flags &&& flag16BitLength ≠ 0 then 1 else 0)) % 2 ^ 16

/-- The arguments of a call of `pkt_callback`. -/
structure Received where
  pktSize : Nat
  vendorId : UInt16
  commandId : UInt16
  payload : List UInt8
  deriving DecidableEq, Repr

/-- What `Gaia_TransportCommonReceivePacket` returns, and what else it does. -/
structure Outcome (Client : Type) where
  consumed : Nat
  client : Client
  error : Option TransportError

/-- `pkt_callback`: whether more packets are wanted, and what becomes of the transport. -/
abbrev Callback (Client : Type) := Client → Received → Bool × Client

structure PacketHeader where
  flags : UInt8
  is16Bit : Bool
  payloadSize : Nat
  pktLength : Nat

def readPayloadSize (data : List UInt8) (is16Bit : Bool) : Except Fault Nat :=
  if is16Bit then w16 data offsPayloadLength
  else (byteAt data offsPayloadLength).map UInt8.toNat

def readHeader (data : List UInt8) : Except Fault PacketHeader := do
  let flags ← byteAt data offsFlags
  let is16Bit := flags &&& flag16BitLength != 0
  let payloadSize ← readPayloadSize data is16Bit
  return ⟨flags, is16Bit, payloadSize, calcRxPacketLength payloadSize flags⟩

def readPayload (data : List UInt8) (header : PacketHeader) : Except Fault (List UInt8) :=
  if header.payloadSize ≠ 0 then bytesAt data (offsPayload header.is16Bit) header.payloadSize
  else .ok []

def readPacket (data : List UInt8) (header : PacketHeader) : Except Fault Received := do
  let vendorId ← w16 data (offsVendorId header.is16Bit)
  let commandId ← w16 data (offsCommandId header.is16Bit)
  let payload ← readPayload data header
  return ⟨header.pktLength, UInt16.ofNat vendorId, UInt16.ofNat commandId, payload⟩

/-- The loop of `Gaia_TransportCommonReceivePacket`, at most `rounds` times round. -/
def receiveLoop {Client : Type} (callback : Callback Client) :
    Nat → List UInt8 → Nat → Client → Except Fault (Outcome Client)
  | 0, _, _, _ => .error .endless
  | rounds + 1, data, consumed, client =>
      if data ≠ [] ∧ data.head? ≠ some sof then .ok ⟨consumed, client, some .framingError⟩
      else if data.length < offsPayload false then .ok ⟨consumed, client, none⟩
      else do
        let header ← readHeader data
        if data.length < header.pktLength then return ⟨consumed, client, none⟩
        else if header.flags &&& flagCheck ≠ 0 ∧ checksum (data.take header.pktLength) ≠ 0 then
          return ⟨consumed, client, some .checksumError⟩
        else
          let received ← readPacket data header
          let (morePkts, client) := callback client received
          if morePkts = true then
            receiveLoop callback rounds (data.drop header.pktLength)
              (consumed + header.pktLength) client
          else return ⟨consumed, client, none⟩

def receivePacket {Client : Type} (callback : Callback Client) (rounds : Nat)
    (data : List UInt8) (client : Client) : Except Fault (Outcome Client) :=
  receiveLoop callback rounds data 0 client

end HeadsetAdk.Gaia
