import Mathlib.Data.List.Basic

/-!
# Case communications

The part of `cc_protocol.c` that all transports share.  The transport is chosen when the program is
compiled; here it is a parameter.
-/

namespace HeadsetAdk.CaseComms

/-- `Panic` -/
inductive Fault
  | panic
  deriving DecidableEq, Repr

inductive Dev
  | case
  | rightEb
  | leftEb
  | broadcast
  deriving DecidableEq, Repr

inductive Mode
  | earbud
  | case
  deriving DecidableEq, Repr

inductive TxStatus
  | success
  | fail
  | timeout
  | unknown
  deriving DecidableEq, Repr

def cidCase : Nat := 0

def cidMax : Nat := 5

def cidInvalid : Nat := 0xF

def configNumFailsToReset : Nat := 1

def caseCommsGetCid (header : UInt8) : Nat := ((header &&& 0x70) >>> 4).toNat

def caseCommsSetCid (header : UInt8) (cid : Nat) : UInt8 :=
  (header &&& ~~~(0x70 : UInt8)) ||| ((UInt8.ofNat cid <<< 4) &&& 0x70)

def caseCommsGetMid (header : UInt8) : Nat := (header &&& 0x0F).toNat

def caseCommsSetMid (header : UInt8) (mid : Nat) : UInt8 :=
  (header &&& ~~~(0x0F : UInt8)) ||| (UInt8.ofNat mid &&& 0x0F)

private theorem or_and_distrib (first second mask : UInt8) :
    (first ||| second) &&& mask = (first &&& mask) ||| (second &&& mask) := by
  apply UInt8.toNat_inj.mp
  simp only [UInt8.toNat_and, UInt8.toNat_or, Nat.and_or_distrib_right]

private theorem cid_bits (cid : Fin 256) :
    ((UInt8.ofNat cid.val <<< 4 &&& 0x70) >>> 4).toNat = cid.val % 8 := by
  revert cid
  decide +kernel

@[simp]
theorem caseCommsGetCid_setMid (header : UInt8) (mid : Nat) :
    caseCommsGetCid (caseCommsSetMid header mid) = caseCommsGetCid header := by
  have masks : (~~~(0x0F : UInt8)) &&& 0x70 = 0x70 ∧ (0x0F : UInt8) &&& 0x70 = 0 := by decide
  unfold caseCommsGetCid caseCommsSetMid
  rw [or_and_distrib, UInt8.and_assoc, UInt8.and_assoc, masks.1, masks.2, UInt8.and_zero,
    UInt8.or_zero]

/-- The header has three bits for the channel. -/
@[simp]
theorem caseCommsGetCid_setCid (header : UInt8) (cid : Nat) :
    caseCommsGetCid (caseCommsSetCid header cid) = cid % 8 := by
  have masks : (~~~(0x70 : UInt8)) &&& 0x70 = 0 ∧ (0x70 : UInt8) &&& 0x70 = 0x70 := by decide
  have small : cid % 256 < 256 := Nat.mod_lt _ (by decide)
  have cut : UInt8.ofNat cid = UInt8.ofNat (cid % 256) := by
    apply UInt8.toNat_inj.mp
    simp
  have bits := cid_bits ⟨cid % 256, small⟩
  unfold caseCommsGetCid caseCommsSetCid
  rw [or_and_distrib, UInt8.and_assoc, UInt8.and_assoc, masks.1, masks.2, cut, UInt8.and_zero,
    UInt8.zero_or, bits]
  simp only
  omega

/-- The members of `cc_chan_config_t`: whether a client has registered callbacks, and
the responses that are outstanding. -/
structure ChanConfig where
  txSts : Bool
  rxInd : Bool
  leftOutstandingResponseCount : Nat
  rightOutstandingResponseCount : Nat
  deriving DecidableEq, Repr

/-- `cc_protocol_t`.  `pollTimers` has the destinations of the poll timer messages that
are pending for the task. -/
structure Protocol (SchemeData : Type) where
  mode : Mode
  channelCfg : Nat → ChanConfig
  lastEarbudPolled : Dev
  txFailCount : Nat
  schemeData : SchemeData
  pollTimers : List Dev

/-- The functions and macros that a transport defines for `cc_protocol.c`.  The lower
layer answers the calls of `transmit`, and takes a packet when it accepts one. -/
structure Transport (SchemeData Lower Packet : Type) where
  transmit : SchemeData → Lower → Dev → Nat → Nat → List UInt8 →
    Except Fault (Option (SchemeData × Packet))
  requiresPolling : Bool
  requiresReset : Bool

/-- A call of `CcProtocol_Transmit`, or of `CcProtocol_TransmitNotification` when no
response is required. -/
structure Call where
  dest : Dev
  cid : Nat
  mid : Nat
  data : List UInt8
  responseReqd : Bool
  deriving DecidableEq, Repr

structure Attempt (Lower : Type) where
  call : Call
  lower : Lower

/-- A call that returned `TRUE`, and its packet. -/
structure Accepted (Packet : Type) where
  call : Call
  packet : Packet
  deriving DecidableEq, Repr

/-- Calls out of `cc_protocol.c`. -/
inductive Effect
  | txSts (cid : Nat) (status : TxStatus) (mid : Nat)
  | rxInd (cid mid : Nat) (msg : List UInt8) (sourceDev : Dev)
  | transReset
  deriving DecidableEq, Repr

/-- What the handling of an event leaves. -/
structure Outcome (SchemeData Packet : Type) where
  protocol : Protocol SchemeData
  effects : List Effect
  accepted : List (Accepted Packet)

section Counts

def ChanConfig.outstandingResponseCount (chan : ChanConfig) (dev : Dev) : Nat :=
  if dev = .rightEb then chan.rightOutstandingResponseCount
  else chan.leftOutstandingResponseCount

def ChanConfig.setOutstandingResponseCount (chan : ChanConfig) (dev : Dev) (count : Nat) :
    ChanConfig :=
  if dev = .rightEb then { chan with rightOutstandingResponseCount := count }
  else { chan with leftOutstandingResponseCount := count }

variable {SchemeData : Type}

def Protocol.count (td : Protocol SchemeData) (dev : Dev) (cid : Nat) : Nat :=
  (td.channelCfg cid).outstandingResponseCount dev

def Protocol.setCount (td : Protocol SchemeData) (dev : Dev) (cid count : Nat) :
    Protocol SchemeData :=
  { td with
    channelCfg := fun channel =>
      if channel = cid then (td.channelCfg cid).setOutstandingResponseCount dev count
      else td.channelCfg channel }

/-- `MessageCancelFirst` for the poll timer of an earbud. -/
def Protocol.cancelPoll (td : Protocol SchemeData) (dev : Dev) : Protocol SchemeData :=
  { td with pollTimers := td.pollTimers.erase dev }

def Protocol.modifyPollRequired (td : Protocol SchemeData) (dev : Dev) (cid : Nat)
    (incr : Bool) : Except Fault (Protocol SchemeData) :=
  if cid < cidMax then
    if dev = .leftEb ∨ dev = .rightEb then
      if incr then
        if td.count dev cid < 0xFF then .ok (td.setCount dev cid (td.count dev cid + 1))
        else .error .panic
      else
        let td := td.setCount dev cid (td.count dev cid - 1)
        .ok (if td.count dev cid = 0 then td.cancelPoll dev else td)
    else .error .panic
  else .ok td

/-- The responses that an earbud owes on all channels. -/
def Protocol.outstandingResponseTotal (td : Protocol SchemeData) (dev : Dev) : Nat :=
  (List.range cidMax).foldl (fun total cid => total + td.count dev cid) 0

def Protocol.getEarbudToPoll (td : Protocol SchemeData) : Option Dev :=
  let left := td.outstandingResponseTotal .leftEb
  let right := td.outstandingResponseTotal .rightEb
  if left ≠ 0 ∧ right = 0 then some .leftEb
  else if left = 0 ∧ 0 < right then some .rightEb
  else if 0 < left ∧ 0 < right then
    if td.lastEarbudPolled = .leftEb then some .rightEb else some .leftEb
  else none

end Counts

section Shared

variable {SchemeData Lower Packet : Type} (transport : Transport SchemeData Lower Packet)

def Protocol.incrementPollRequired (td : Protocol SchemeData) (dev : Dev) (cid : Nat) :
    Except Fault (Protocol SchemeData) :=
  if transport.requiresPolling then td.modifyPollRequired dev cid true else .ok td

def Protocol.decrementPollRequired (td : Protocol SchemeData) (dev : Dev) (cid : Nat) :
    Except Fault (Protocol SchemeData) :=
  if transport.requiresPolling then td.modifyPollRequired dev cid false else .ok td

def Protocol.schedulePollIfRequired (td : Protocol SchemeData) : Protocol SchemeData :=
  if transport.requiresPolling then
    match td.getEarbudToPoll with
    | some dest =>
        if dest ∈ td.pollTimers then td else { td with pollTimers := td.pollTimers ++ [dest] }
    | none => td
  else td

/-- `ccProtocol_HandlePollTimer`: the timer of an earbud has been delivered. -/
def Protocol.handlePollTimer (td : Protocol SchemeData) (dest : Dev) (lower : Lower) :
    Except Fault (Outcome SchemeData Packet) := do
  let td := { td with pollTimers := td.pollTimers.erase dest }
  if td.getEarbudToPoll = none then return ⟨td, [], []⟩
  else
    match ← transport.transmit td.schemeData lower dest cidInvalid 0 [] with
    | some (schemeData, packet) =>
        return ⟨{ td with schemeData := schemeData, lastEarbudPolled := dest }, [],
          [⟨⟨dest, cidInvalid, 0, [], false⟩, packet⟩]⟩
    | none => return ⟨td.schedulePollIfRequired transport, [], []⟩

def Protocol.recordTransmission (td : Protocol SchemeData) (call : Call) :
    Except Fault (Protocol SchemeData) :=
  if call.responseReqd = true ∧ td.mode = .case then
    td.incrementPollRequired transport call.dest call.cid
  else .ok td

def Protocol.transmitInternal (td : Protocol SchemeData) (attempt : Attempt Lower) :
    Except Fault (Protocol SchemeData × Option (Accepted Packet)) := do
  match ← transport.transmit td.schemeData attempt.lower attempt.call.dest attempt.call.cid
      attempt.call.mid attempt.call.data with
  | none => return (td, none)
  | some (schemeData, packet) =>
      let td ← { td with schemeData := schemeData }.recordTransmission transport attempt.call
      return (td, some ⟨attempt.call, packet⟩)

/-- The calls of `CcProtocol_Transmit` and `CcProtocol_TransmitNotification` that a
client makes one after the other. -/
def Protocol.transmitAll (td : Protocol SchemeData) :
    List (Attempt Lower) → Except Fault (Protocol SchemeData × List (Accepted Packet))
  | [] => .ok (td, [])
  | attempt :: attempts => do
      let (td, accepted) ← td.transmitInternal transport attempt
      let (td, others) ← td.transmitAll attempts
      return (td, accepted.toList ++ others)

def Protocol.checkAckNakReset (td : Protocol SchemeData) (status : TxStatus) :
    Protocol SchemeData × List Effect :=
  if transport.requiresReset then
    match status with
    | .success => ({ td with txFailCount := 0 }, [])
    | .timeout => (td, [])
    | .fail =>
        if td.txFailCount + 1 = configNumFailsToReset then
          ({ td with txFailCount := 0 }, [.transReset])
        else ({ td with txFailCount := td.txFailCount + 1 }, [])
    | .unknown => (td, [])
  else (td, [])

/-- A callback of a client, in which it makes `calls`. -/
def Protocol.callClient (td : Protocol SchemeData) (isRegistered : Bool) (effect : Effect)
    (calls : List (Attempt Lower)) : Except Fault (Outcome SchemeData Packet) := do
  if isRegistered = true then
    let (td, accepted) ← td.transmitAll transport calls
    return ⟨td, [effect], accepted⟩
  else return ⟨td, [], []⟩

def Protocol.checkReset (td : Protocol SchemeData) (status : TxStatus) :
    Protocol SchemeData × List Effect :=
  if td.mode = .case then td.checkAckNakReset transport status else (td, [])

/-- `ccProtocol_SendStatusToClient`; `calls` are those that the client makes in its
callback. -/
def Protocol.sendStatusToClient (td : Protocol SchemeData) (status : TxStatus) (cid mid : Nat)
    (calls : List (Attempt Lower)) : Except Fault (Outcome SchemeData Packet) := do
  let (td, resets) := td.checkReset transport status
  let outcome ← td.callClient transport (decide (cid < cidMax) && (td.channelCfg cid).txSts)
    (.txSts cid status mid) calls
  return { outcome with effects := resets ++ outcome.effects }

/-- A case that receives a packet reduces the count of outstanding responses for the
channel and the device. -/
def Protocol.recordReceipt (td : Protocol SchemeData) (sourceDev : Dev) (cid : Nat) :
    Except Fault (Protocol SchemeData) :=
  if td.mode = .case then td.decrementPollRequired transport sourceDev cid else .ok td

/-- `ccProtocol_SendRXPacketToClient`; `calls` are those that the client makes in its
callback. -/
def Protocol.sendRxPacketToClient (td : Protocol SchemeData) (pkt : List UInt8) (cid mid : Nat)
    (sourceDev : Dev) (calls : List (Attempt Lower)) :
    Except Fault (Outcome SchemeData Packet) := do
  let outcome ← td.callClient transport (decide (cid < cidMax) && (td.channelCfg cid).rxInd)
    (.rxInd cid mid pkt sourceDev) calls
  let td ← outcome.protocol.recordReceipt transport sourceDev cid
  return { outcome with protocol := td }

/-- `CcProtocol_Init`, and the callbacks that clients register. -/
def Protocol.init (mode : Mode) (schemeData : SchemeData) (registered : Nat → Bool × Bool) :
    Protocol SchemeData :=
  { mode := mode
    channelCfg := fun cid => ⟨(registered cid).1, (registered cid).2, 0, 0⟩
    lastEarbudPolled := .case
    txFailCount := 0
    schemeData := schemeData
    pollTimers := [] }

end Shared

end HeadsetAdk.CaseComms
