import HeadsetAdk.CaseComms.Protocol
import HeadsetAdk.Lib.LittleEndian

/-!
# The case channel

`cc_case_channel.c`: the messages between the case and the earbuds.  A handler answers with the
calls that it makes of other modules, and with `none` where it reads outside of the payload.
-/

namespace HeadsetAdk.CaseComms

namespace CaseChannel

structure Bdaddr where
  lap : UInt32
  uap : UInt8
  nap : UInt16
  deriving DecidableEq, Repr

inductive Mid
  | caseStatus
  | earbudStatus
  | reset
  | earbudStatusReq
  | loopback
  | command
  | commandResponse
  | caseCommandResponse
  deriving DecidableEq, Repr

def Mid.ofNumber : Nat → Option Mid
  | 0 => some caseStatus
  | 1 => some earbudStatus
  | 2 => some reset
  | 3 => some earbudStatusReq
  | 4 => some loopback
  | 5 => some command
  | 6 => some commandResponse
  | 7 => some caseCommandResponse
  | _ => none

def batteryStateChargingBit : UInt8 := 0x80

def earbudInfoAddressSize : Nat := 7

def earbudCmdPeerPairTotalSize : Nat := 7

def loopbackBufferSize : Nat := 376

/-- What the other modules of an earbud know -/
structure Earbud where
  isLeft : Bool
  batterySoc : UInt8
  isCharging : Bool
  isPairedWithPeer : Bool
  havePendingCommand : Bool
  isDfuNeeded : Bool
  programmedBtAddress : Option Bdaddr

/-- The calls of other modules; what is transmitted goes to the case. -/
inductive Call
  | transmit (mid : Mid) (content : List UInt8)
  | lidEvent (isOpen : Bool)
  | powerEvent (caseBattery peerBattery localBattery : UInt8) (chargerConnected : Bool)
  | earbudStatusRx (source : Dev) (batteryState : UInt8) (peerPaired : Bool)
  | earbudBtAddressRx (addr : Bdaddr) (source : Dev)
  | factoryReset
  | reboot
  | loopbackRx (source : Dev) (content : List UInt8)
  | peerPairCmdRx (addr : Bdaddr)
  | shippingModeCmdRx
  | handsetPairingCmdRx
  | caseCommandRequestRx
  | peerPairResponseRx (source : Dev) (accepted : Bool)
  | handsetPairingResponseRx (source : Dev) (accepted : Bool)
  | shippingModeResponseRx (source : Dev) (accepted : Bool)
  | caseSerialNumberCmdRx (serialNumber : List UInt8)
  deriving DecidableEq, Repr

def Call.loopback : Call → Option (List UInt8)
  | transmit .loopback content => some content
  | loopbackRx _ content => some content
  | _ => none

def getBdAddrFromMsg (msg : List UInt8) : Option Bdaddr := do
  let lap := (← msg[0]?).toNat ||| (← msg[1]?).toNat <<< 8 ||| (← msg[2]?).toNat <<< 16
  let uap ← msg[3]?
  let nap := (← msg[5]?).toNat <<< 8 ||| (← msg[4]?).toNat
  return ⟨UInt32.ofNat lap, uap, UInt16.ofNat nap⟩

def setBdAddrInMsg (addr : Bdaddr) : List UInt8 :=
  [(addr.lap &&& 0xff).toUInt8, ((addr.lap >>> 8) &&& 0xff).toUInt8,
    -- The shift is to the left, so nothing is left of these bits.
    ((addr.lap <<< 16) &&& 0xff).toUInt8,
    addr.uap, (addr.nap &&& 0xff).toUInt8, ((addr.nap >>> 8) &&& 0xff).toUInt8]

def getLocalBatteryState (earbud : Earbud) : UInt8 :=
  if earbud.isCharging then earbud.batterySoc ||| batteryStateChargingBit else earbud.batterySoc

def earbudStatusFlags (earbud : Earbud) : UInt8 :=
  (if earbud.isPairedWithPeer then 0x01 else 0) ||| (if earbud.havePendingCommand then 0x08 else 0)
    ||| (if earbud.isDfuNeeded then 0x04 else 0)

def handleAddressInfoReq (earbud : Earbud) : List Call :=
  match earbud.programmedBtAddress with
  | some addr => [.transmit .earbudStatus (0x80 :: setBdAddrInMsg addr)]
  | none => []

def sendSimpleEarbudStatus (earbud : Earbud) : List Call :=
  [.transmit .earbudStatus [earbudStatusFlags earbud, getLocalBatteryState earbud]]

/-- The message of `CcCaseChannel_PeerPairCmdTx` -/
def peerPairCmdTx (addr : Bdaddr) : List UInt8 := 0 :: setBdAddrInMsg addr

def cmdRespTx (cmd : UInt8) (accepted : Bool) : Call :=
  .transmit .commandResponse [cmd, if accepted then 1 else 0]

def peerPairCmdRespTx (started : Bool) : Call := cmdRespTx 0 started

def shippingModeCmdRespTx (accepted : Bool) : Call := cmdRespTx 2 accepted

def handsetPairingCmdRespTx (accepted : Bool) : Call := cmdRespTx 1 accepted

section Handlers

variable (earbud : Earbud) (stack msg : List UInt8) (source : Dev)

def handleCaseStatus : Option (List Call) :=
  if msg.length ≥ 1 then do
    let info ← msg[0]?
    let lid := Call.lidEvent (info &&& 0x01 ≠ 0)
    if msg.length ≥ 4 then
      let peer ← if earbud.isLeft then msg[3]? else msg[2]?
      return [lid, .powerEvent (← msg[1]?) peer (getLocalBatteryState earbud) (info &&& 0x02 ≠ 0)]
    else return [lid]
  else some []

def handleEarbudStatusReq : Option (List Call) :=
  if msg.length < 1 then some (sendSimpleEarbudStatus earbud)
  else do
    let info ← msg[0]?
    if info = 0 then return handleAddressInfoReq earbud else return []

def handleEbAddress : Option (List Call) := do
  return [.earbudBtAddressRx (← getBdAddrFromMsg (msg.drop 1)) source]

def handleEarbudInfoStatus : Option (List Call) := do
  let info ← msg[0]?
  if info &&& 0x7f = 0 then handleEbAddress msg source else return []

def handleEarbudStatus : Option (List Call) :=
  if msg.length ≥ 2 then do
    let flags ← msg[0]?
    if flags &&& 0x80 ≠ 0x80 then
      return [.earbudStatusRx source (← msg[1]?) (flags &&& 0x01 ≠ 0)]
    else handleEarbudInfoStatus msg source
  else some []

def handleReset : Option (List Call) :=
  if msg.length ≥ 1 then do
    if (← msg[0]?) = 1 then return [.factoryReset] else return [.reboot]
  else some []

/-- `ccCaseChannel_HandleLoopback`, with what is on the stack where its buffer is -/
def handleLoopback : List Call :=
  let lengthCeil := if msg.length ≤ loopbackBufferSize then msg.length else loopbackBufferSize
  if source = .case then [.transmit .loopback (msg.take lengthCeil)]
  -- Nothing is copied into the buffer on the side of the case.
  else [.loopbackRx source (stack.take lengthCeil)]

def handlePeerPairCmd : Option (List Call) :=
  if msg.length ≥ earbudCmdPeerPairTotalSize then do
    return [.peerPairCmdRx (← getBdAddrFromMsg (msg.drop 1))]
  else some [peerPairCmdRespTx false]

def handleShippingModeCmd : List Call :=
  if msg.length ≥ 1 then [.shippingModeCmdRx] else [shippingModeCmdRespTx false]

def handleHandsetPairCmd : List Call :=
  if msg.length ≥ 1 then [.handsetPairingCmdRx] else [handsetPairingCmdRespTx false]

def handleCommand : Option (List Call) :=
  if msg.length ≥ 1 then do
    let cmd ← msg[0]?
    if cmd = 0 then handlePeerPairCmd msg
    else if cmd = 2 then return handleShippingModeCmd msg
    else if cmd = 1 then return handleHandsetPairCmd msg
    else if cmd = 3 then return [.caseCommandRequestRx]
    else return []
  else some []

def handleCmdResp (responseRx : Dev → Bool → Call) : Option (List Call) :=
  if msg.length ≥ 2 then do return [responseRx source ((← msg[1]?) = 1)] else some []

def handlePeerPairCmdResp : Option (List Call) := handleCmdResp msg source .peerPairResponseRx

def handleHandsetPairCmdResp : Option (List Call) :=
  handleCmdResp msg source .handsetPairingResponseRx

def handleShippingModeCmdResp : Option (List Call) :=
  handleCmdResp msg source .shippingModeResponseRx

def handleCommandResponse : Option (List Call) :=
  if msg.length ≥ 1 then do
    let cmd ← msg[0]?
    if cmd = 0 then handlePeerPairCmdResp msg source
    else if cmd = 1 then handleHandsetPairCmdResp msg source
    else if cmd = 2 then handleShippingModeCmdResp msg source
    else return []
  else some []

def handleCaseCommandResponse : Option (List Call) :=
  if msg.length ≥ 1 then do
    if (← msg[0]?) = 1 then return [.caseSerialNumberCmdRx (msg.drop 1)] else return []
  else some []

def handleRxInd (mid : Nat) : Option (List Call) :=
  match Mid.ofNumber mid with
  | some .caseStatus => handleCaseStatus earbud msg
  | some .earbudStatusReq => handleEarbudStatusReq earbud msg
  | some .earbudStatus => handleEarbudStatus msg source
  | some .reset => handleReset msg
  | some .loopback => some (handleLoopback stack msg source)
  | some .command => handleCommand msg
  | some .commandResponse => handleCommandResponse msg source
  | some .caseCommandResponse => handleCaseCommandResponse msg
  | none => some []

end Handlers

section Addresses

variable {addr : Bdaddr} {bytes : List UInt8}

theorem low8_uint32 (number : UInt32) : (number &&& 0xff).toUInt8 = UInt8.ofNat number.toNat := by
  apply UInt8.toNat_inj.mp
  rw [UInt32.toNat_toUInt8, UInt32.toNat_and, UInt8.toNat_ofNat']
  change (number.toNat &&& 2 ^ 8 - 1) % 2 ^ 8 = _
  rw [Nat.and_two_pow_sub_one_eq_mod, Nat.mod_mod]

theorem low8_uint16 (number : UInt16) : (number &&& 0xff).toUInt8 = UInt8.ofNat number.toNat := by
  apply UInt8.toNat_inj.mp
  rw [UInt16.toNat_toUInt8, UInt16.toNat_and, UInt8.toNat_ofNat']
  change (number.toNat &&& 2 ^ 8 - 1) % 2 ^ 8 = _
  rw [Nat.and_two_pow_sub_one_eq_mod, Nat.mod_mod]

theorem setBdAddrInMsg_eq (addr : Bdaddr) : setBdAddrInMsg addr =
    [UInt8.ofNat addr.lap.toNat, UInt8.ofNat (addr.lap.toNat / 256), 0, addr.uap,
      UInt8.ofNat addr.nap.toNat, UInt8.ofNat (addr.nap.toNat / 256)] := by
  have lapMiddle : (addr.lap >>> 8).toNat = addr.lap.toNat / 256 := by
    rw [UInt32.toNat_shiftRight]
    exact Nat.shiftRight_eq_div_pow addr.lap.toNat 8
  have napHigh : (addr.nap >>> 8).toNat = addr.nap.toNat / 256 := by
    rw [UInt16.toNat_shiftRight]
    exact Nat.shiftRight_eq_div_pow addr.nap.toNat 8
  have third : UInt8.ofNat (addr.lap <<< 16).toNat = 0 := by
    apply UInt8.toNat_inj.mp
    rw [UInt8.toNat_ofNat', UInt32.toNat_shiftLeft]
    change addr.lap.toNat <<< 16 % 2 ^ 32 % 2 ^ 8 = 0
    rw [Nat.shiftLeft_eq]
    omega
  rw [setBdAddrInMsg, low8_uint32, low8_uint32, low8_uint32, low8_uint16, low8_uint16, lapMiddle,
    napHigh, third]

theorem getBdAddrFromMsg_eq (first second third fourth fifth sixth : UInt8) :
    getBdAddrFromMsg [first, second, third, fourth, fifth, sixth] =
      some ⟨UInt32.ofNat (LittleEndian.value [first, second, third]), fourth,
        UInt16.ofNat (LittleEndian.value [fifth, sixth])⟩ := by
  rw [← LittleEndian.value_three, ← LittleEndian.value_two]
  rfl

theorem getBdAddrFromMsg_setBdAddrInMsg (addr : Bdaddr) :
    getBdAddrFromMsg (setBdAddrInMsg addr) =
      some { addr with lap := UInt32.ofNat (addr.lap.toNat % 2 ^ 16) } := by
  have lap := LittleEndian.value_bytes 2 addr.lap.toNat
  have nap := (LittleEndian.value_bytes 2 addr.nap.toNat).trans
    (Nat.mod_eq_of_lt (show addr.nap.toNat < 256 ^ 2 from addr.nap.toNat_lt))
  rw [setBdAddrInMsg_eq, getBdAddrFromMsg_eq]
  change some (Bdaddr.mk (UInt32.ofNat (LittleEndian.value (LittleEndian.bytes 2 addr.lap.toNat)))
    addr.uap (UInt16.ofNat (LittleEndian.value (LittleEndian.bytes 2 addr.nap.toNat)))) = _
  rw [nap, lap, UInt16.ofNat_toNat]
  rfl

theorem getBdAddrFromMsg_set_iff :
    getBdAddrFromMsg (setBdAddrInMsg addr) = some addr ↔ addr.lap.toNat < 2 ^ 16 := by
  rw [getBdAddrFromMsg_setBdAddrInMsg, Option.some_inj]
  constructor
  · intro same
    have value := congrArg (fun addr : Bdaddr => addr.lap.toNat) same
    dsimp only at value
    rw [UInt32.toNat_ofNat'] at value
    omega
  · intro small
    rw [Nat.mod_eq_of_lt small, UInt32.ofNat_toNat]

def Arrives (addr : Bdaddr) : Prop :=
  ∀ earbud stack source, earbud.programmedBtAddress = some addr →
    (∃ content, handleRxInd earbud stack [0] .case 3 = some [.transmit .earbudStatus content] ∧
      handleRxInd earbud stack content source 1 = some [.earbudBtAddressRx addr source]) ∧
    handleRxInd earbud stack (peerPairCmdTx addr) .case 5 = some [.peerPairCmdRx addr]

theorem arrives_iff : Arrives addr ↔ getBdAddrFromMsg (setBdAddrInMsg addr) = some addr := by
  have commanded (earbud : Earbud) (stack : List UInt8) :
      handleRxInd earbud stack (peerPairCmdTx addr) .case 5 =
        (getBdAddrFromMsg (setBdAddrInMsg addr)).bind fun addr => some [.peerPairCmdRx addr] := rfl
  have responded (earbud : Earbud) (stack : List UInt8) (source : Dev) :
      handleRxInd earbud stack (0x80 :: setBdAddrInMsg addr) source 1 =
        (getBdAddrFromMsg (setBdAddrInMsg addr)).bind fun addr =>
          some [.earbudBtAddressRx addr source] := rfl
  constructor
  · intro arrives
    have arrived := (arrives ⟨true, 0, false, false, false, false, some addr⟩ [] .case rfl).2
    rw [commanded, getBdAddrFromMsg_setBdAddrInMsg] at arrived
    rw [getBdAddrFromMsg_setBdAddrInMsg]
    exact congrArg some (Call.peerPairCmdRx.inj (List.cons.inj (Option.some.inj arrived)).1)
  · intro same earbud stack source programmed
    refine ⟨⟨0x80 :: setBdAddrInMsg addr, ?_, ?_⟩, ?_⟩
    · change some (handleAddressInfoReq earbud) = _
      rw [handleAddressInfoReq, programmed]
    · rw [responded, same]
      rfl
    · rw [commanded, same]
      rfl

theorem setBdAddrInMsg_get_iff (six : bytes.length = 6) :
    (getBdAddrFromMsg bytes).map setBdAddrInMsg = some bytes ↔ bytes[2]? = some 0 := by
  rcases bytes with
    _ | ⟨first, _ | ⟨second, _ | ⟨third, _ | ⟨fourth, _ | ⟨fifth, _ | ⟨sixth, rest⟩⟩⟩⟩⟩⟩
  iterate 6 cases six
  obtain rfl : rest = [] := List.length_eq_zero_iff.mp (Nat.add_right_cancel (m := 6) six)
  have low := first.toNat_lt
  have middle := second.toNat_lt
  have high := third.toNat_lt
  have lower := fifth.toNat_lt
  have upper := sixth.toNat_lt
  have byte (number : Nat) (byte : UInt8) (same : number % 2 ^ 8 = byte.toNat) :
      UInt8.ofNat number = byte := by
    apply UInt8.toNat_inj.mp
    rw [UInt8.toNat_ofNat', same]
  rw [getBdAddrFromMsg_eq, Option.map_some, setBdAddrInMsg_eq]
  simp only [UInt32.toNat_ofNat', UInt16.toNat_ofNat', LittleEndian.value]
  rw [byte _ first (by omega), byte _ second (by omega), byte _ fifth (by omega),
    byte _ sixth (by omega)]
  simp only [Option.some_inj, List.cons.injEq, true_and, and_true, List.getElem?_cons_succ,
    List.getElem?_cons_zero]
  exact eq_comm

/-- The codec of addresses undoes itself, and addresses arrive, exactly if the third byte, which it
does not write, is zero. -/
theorem bdAddr_undone_iff (addr : Bdaddr) (bytes : List UInt8) (six : bytes.length = 6) :
    (getBdAddrFromMsg (setBdAddrInMsg addr) = some addr ↔ addr.lap.toNat < 2 ^ 16) ∧
      (Arrives addr ↔ addr.lap.toNat < 2 ^ 16) ∧
      ((getBdAddrFromMsg bytes).map setBdAddrInMsg = some bytes ↔ bytes[2]? = some 0) :=
  ⟨getBdAddrFromMsg_set_iff, arrives_iff.trans getBdAddrFromMsg_set_iff, setBdAddrInMsg_get_iff six⟩

theorem zeros_undone : (getBdAddrFromMsg [0, 0, 0, 0, 0, 0]).map setBdAddrInMsg =
    some [0, 0, 0, 0, 0, 0] ∧ Arrives ⟨0, 0, 0⟩ :=
  have undone := bdAddr_undone_iff ⟨0, 0, 0⟩ [0, 0, 0, 0, 0, 0] rfl
  ⟨undone.2.2.mpr rfl, undone.2.1.mpr (by decide)⟩

/-- An address whose lower part has more than sixteen bits does not arrive. -/
theorem upperByte_lost : ¬ ∀ addr : Bdaddr, addr.lap.toNat < 2 ^ 24 → Arrives addr := by
  intro arrives
  have arrived := arrives ⟨0x10000, 0, 0⟩ (by decide)
  have small := getBdAddrFromMsg_set_iff.mp (arrives_iff.mp arrived)
  exact absurd small (by decide)

end Addresses

section Contained

variable {msg : List UInt8} {source : Dev}

/-- No handler reads outside of the payload, and what is passed on or echoed of a loopback message
is what was received. -/
def Contained (msg : List UInt8) (source : Dev) (mid : Nat) : Prop :=
  ∀ earbud stack, stack.length = loopbackBufferSize →
    ∃ calls, handleRxInd earbud stack msg source mid = some calls ∧
      ∀ call ∈ calls, ∀ content, call.loopback = some content → content = msg

def ShortAddress (msg : List UInt8) : Prop :=
  2 ≤ msg.length ∧ msg.length < earbudInfoAddressSize ∧ msg[0]? = some 0x80

/-- The handler answers, and passes on no loopback message. -/
def Silent (result : Option (List Call)) : Prop :=
  ∃ calls, result = some calls ∧ ∀ call ∈ calls, call.loopback = none

theorem silent_nil : Silent (some []) := ⟨[], rfl, fun _ member => by cases member⟩

theorem silent_singleton {call : Call} (silent : call.loopback = none) : Silent (some [call]) :=
  ⟨_, rfl, fun _ member => List.mem_singleton.mp member ▸ silent⟩

theorem silent_ite {condition : Prop} [Decidable condition] {first second : Option (List Call)}
    (silent : Silent first) (silent' : Silent second) :
    Silent (if condition then first else second) := by
  split
  · exact silent
  · exact silent'

theorem getBdAddrFromMsg_some (long : 6 ≤ msg.length) :
    ∃ addr, getBdAddrFromMsg msg = some addr := by
  rw [getBdAddrFromMsg, List.getElem?_eq_getElem (show 0 < msg.length by omega),
    List.getElem?_eq_getElem (show 1 < msg.length by omega),
    List.getElem?_eq_getElem (show 2 < msg.length by omega),
    List.getElem?_eq_getElem (show 3 < msg.length by omega),
    List.getElem?_eq_getElem (show 4 < msg.length by omega),
    List.getElem?_eq_getElem (show 5 < msg.length by omega)]
  exact ⟨_, rfl⟩

theorem silent_handleCaseStatus (earbud : Earbud) (msg : List UInt8) :
    Silent (handleCaseStatus earbud msg) := by
  rw [handleCaseStatus]
  split
  case isFalse => exact silent_nil
  rw [List.getElem?_eq_getElem (show 0 < msg.length by omega)]
  change Silent (if _ then _ else _)
  split
  case isFalse => exact silent_singleton rfl
  rw [List.getElem?_eq_getElem (show 1 < msg.length by omega),
    List.getElem?_eq_getElem (show 2 < msg.length by omega),
    List.getElem?_eq_getElem (show 3 < msg.length by omega)]
  have both (peer : UInt8) : Silent (some [.lidEvent (msg[0] &&& 0x01 ≠ 0),
      .powerEvent msg[1] peer (getLocalBatteryState earbud) (msg[0] &&& 0x02 ≠ 0)]) := by
    refine ⟨_, rfl, fun call member => ?_⟩
    rcases List.mem_cons.mp member with rfl | member
    · rfl
    · rw [List.mem_singleton.mp member]
      rfl
  exact silent_ite (both _) (both _)

theorem silent_handleEarbudStatusReq (earbud : Earbud) (msg : List UInt8) :
    Silent (handleEarbudStatusReq earbud msg) := by
  rw [handleEarbudStatusReq]
  split
  · exact silent_singleton rfl
  · rw [List.getElem?_eq_getElem (show 0 < msg.length by omega)]
    change Silent (if _ then some (handleAddressInfoReq earbud) else _)
    rw [handleAddressInfoReq]
    refine silent_ite ?_ silent_nil
    split
    · exact silent_singleton rfl
    · exact silent_nil

theorem silent_handleReset (msg : List UInt8) : Silent (handleReset msg) := by
  rw [handleReset]
  split
  case isFalse => exact silent_nil
  rw [List.getElem?_eq_getElem (show 0 < msg.length by omega)]
  exact silent_ite (silent_singleton rfl) (silent_singleton rfl)

theorem silent_handleCommand (msg : List UInt8) : Silent (handleCommand msg) := by
  rw [handleCommand]
  split
  case isFalse => exact silent_nil
  rw [List.getElem?_eq_getElem (show 0 < msg.length by omega)]
  have pairs : Silent (handlePeerPairCmd msg) := by
    rw [handlePeerPairCmd]
    split
    case isFalse => exact silent_singleton rfl
    next long =>
      have six : 6 ≤ (msg.drop 1).length := by
        rw [List.length_drop]
        exact Nat.le_sub_of_add_le long
      obtain ⟨addr, found⟩ := getBdAddrFromMsg_some six
      rw [found]
      exact silent_singleton rfl
  refine silent_ite pairs (silent_ite ?_ (silent_ite ?_ (silent_ite (silent_singleton rfl)
    silent_nil)))
  · change Silent (some (handleShippingModeCmd msg))
    rw [handleShippingModeCmd, apply_ite some]
    exact silent_ite (silent_singleton rfl) (silent_singleton rfl)
  · change Silent (some (handleHandsetPairCmd msg))
    rw [handleHandsetPairCmd, apply_ite some]
    exact silent_ite (silent_singleton rfl) (silent_singleton rfl)

theorem silent_handleCmdResp {responseRx : Dev → Bool → Call}
    (silent : ∀ source accepted, (responseRx source accepted).loopback = none) (msg : List UInt8)
    (source : Dev) : Silent (handleCmdResp msg source responseRx) := by
  rw [handleCmdResp]
  split
  case isFalse => exact silent_nil
  rw [List.getElem?_eq_getElem (show 1 < msg.length by omega)]
  exact silent_singleton (silent _ _)

theorem silent_handleCommandResponse (msg : List UInt8) (source : Dev) :
    Silent (handleCommandResponse msg source) := by
  rw [handleCommandResponse]
  split
  case isFalse => exact silent_nil
  rw [List.getElem?_eq_getElem (show 0 < msg.length by omega)]
  exact silent_ite (silent_handleCmdResp (fun _ _ => rfl) msg source)
    (silent_ite (silent_handleCmdResp (fun _ _ => rfl) msg source)
      (silent_ite (silent_handleCmdResp (fun _ _ => rfl) msg source) silent_nil))

theorem silent_handleCaseCommandResponse (msg : List UInt8) :
    Silent (handleCaseCommandResponse msg) := by
  rw [handleCaseCommandResponse]
  split
  case isFalse => exact silent_nil
  rw [List.getElem?_eq_getElem (show 0 < msg.length by omega)]
  exact silent_ite (silent_singleton rfl) silent_nil

theorem eq_of_bits {flags : UInt8} (info : flags &&& 0x80 = 0x80) (address : flags &&& 0x7f = 0) :
    flags = 0x80 := by
  have bits : flags &&& (0x80 ||| 0x7f) = (flags &&& 0x80) ||| (flags &&& 0x7f) := by
    apply UInt8.toNat_inj.mp
    simp only [UInt8.toNat_and, UInt8.toNat_or, Nat.and_or_distrib_left]
  rw [info, address] at bits
  exact UInt8.and_neg_one.symm.trans bits

theorem handleEarbudStatus_short (short : ShortAddress msg) :
    handleEarbudStatus msg source = none := by
  obtain ⟨two, few, first⟩ := short
  have missing : (msg.drop 1)[5]? = none := by
    rw [List.getElem?_drop]
    exact List.getElem?_eq_none (Nat.le_of_lt_succ few)
  have unread : getBdAddrFromMsg (msg.drop 1) = none := by
    rw [getBdAddrFromMsg, missing]
    cases (msg.drop 1)[0]? <;> cases (msg.drop 1)[1]? <;> cases (msg.drop 1)[2]? <;>
      cases (msg.drop 1)[3]? <;> rfl
  rw [handleEarbudStatus, if_pos two, first]
  change handleEarbudInfoStatus msg source = none
  rw [handleEarbudInfoStatus, first]
  change handleEbAddress msg source = none
  rw [handleEbAddress, unread]
  rfl

theorem silent_handleEarbudStatus (whole : ¬ ShortAddress msg) :
    Silent (handleEarbudStatus msg source) := by
  rw [handleEarbudStatus]
  split
  case isFalse => exact silent_nil
  next two =>
    have first : msg[0]? = some msg[0] := List.getElem?_eq_getElem _
    rw [first, List.getElem?_eq_getElem (show 1 < msg.length by omega)]
    change Silent (if _ then _ else _)
    split
    case isTrue => exact silent_singleton rfl
    next info =>
      rw [handleEarbudInfoStatus, first]
      change Silent (if _ then _ else _)
      split
      case isFalse => exact silent_nil
      next address =>
        have long : 6 ≤ (msg.drop 1).length := by
          rw [List.length_drop]
          by_contra few
          refine whole ⟨two, ?_, ?_⟩
          · change msg.length < 7
            omega
          · rw [first, eq_of_bits (not_not.mp info) address]
        obtain ⟨addr, found⟩ := getBdAddrFromMsg_some long
        rw [handleEbAddress, found]
        exact silent_singleton rfl

theorem Silent.contained {result : Option (List Call)} (silent : Silent result) :
    ∃ calls, result = some calls ∧
      ∀ call ∈ calls, ∀ content, call.loopback = some content → content = msg := by
  obtain ⟨calls, answers, none⟩ := silent
  refine ⟨calls, answers, fun call member content passed => ?_⟩
  rw [none call member] at passed
  cases passed

theorem singleton_contained {call : Call} {content : List UInt8}
    (called : call.loopback = some content) : (∃ calls, some [call] = some calls ∧
      ∀ call ∈ calls, ∀ content, call.loopback = some content → content = msg) ↔ content = msg := by
  constructor
  · rintro ⟨calls, same, all⟩
    exact all call (Option.some.inj same ▸ List.mem_singleton_self _) content called
  · rintro rfl
    refine ⟨_, rfl, fun other member found passed => ?_⟩
    rw [List.mem_singleton.mp member, called] at passed
    exact (Option.some.inj passed).symm

theorem loopback_contained_iff :
    Contained msg source 4 ↔ msg = [] ∨ source = .case ∧ msg.length ≤ loopbackBufferSize := by
  have answer (earbud : Earbud) (stack : List UInt8) :
      handleRxInd earbud stack msg source 4 = some (handleLoopback stack msg source) := rfl
  constructor
  · intro contained
    have contained (byte : UInt8) := contained ⟨true, 0, false, false, false, false, none⟩
      (List.replicate loopbackBufferSize byte) List.length_replicate
    by_cases fromCase : source = .case
    · refine .inr ⟨fromCase, ?_⟩
      by_contra long
      have echoed := contained 0
      rw [answer, handleLoopback, if_neg long, if_pos fromCase, singleton_contained rfl] at echoed
      have length := congrArg List.length echoed
      rw [List.length_take] at length
      omega
    · refine .inl ?_
      by_contra some
      obtain ⟨first, rest, rfl⟩ := List.exists_cons_of_ne_nil some
      -- The buffer may hold anything, such as bytes that differ from the first one.
      have passed := contained (first + 1)
      rw [answer, handleLoopback, if_neg fromCase, singleton_contained rfl, List.take_replicate]
        at passed
      have same : first = first + 1 :=
        List.eq_of_mem_replicate
          (passed ▸ List.mem_cons_self : first ∈ List.replicate _ (first + 1))
      have value := congrArg UInt8.toNat same
      rw [UInt8.toNat_add] at value
      have small := first.toNat_lt
      change first.toNat = (first.toNat + 1) % 2 ^ 8 at value
      omega
  · intro fits earbud stack _
    rw [answer, handleLoopback]
    rcases fits with rfl | ⟨rfl, fits⟩
    · by_cases fromCase : source = .case
      · rw [if_pos fromCase, singleton_contained rfl]
        exact List.take_nil
      · rw [if_neg fromCase, singleton_contained rfl]
        exact List.take_zero
    · rw [if_pos rfl, if_pos fits, singleton_contained rfl, List.take_length]

/-- Reads stay inside of the payload, and loopback messages are passed on as they were received,
exactly if the message is not too short for an address, and no loopback message that is too long
or that an earbud has sent. -/
theorem contained_iff (msg : List UInt8) (source : Dev) (mid : Nat) :
    Contained msg source mid ↔
      ¬ (mid = 1 ∧ ShortAddress msg) ∧
        (mid = 4 → msg = [] ∨ source = .case ∧ msg.length ≤ loopbackBufferSize) := by
  by_cases status : mid = 1
  · subst status
    by_cases short : ShortAddress msg
    · refine iff_of_false (fun contained => ?_) fun whole => whole.1 ⟨rfl, short⟩
      obtain ⟨calls, answered, _⟩ := contained ⟨true, 0, false, false, false, false, none⟩
        (List.replicate loopbackBufferSize 0) List.length_replicate
      change handleEarbudStatus msg source = some calls at answered
      rw [handleEarbudStatus_short short] at answered
      cases answered
    · exact iff_of_true (fun earbud stack _ => (silent_handleEarbudStatus short).contained)
        ⟨fun both => short both.2, fun wrong => absurd wrong (by decide)⟩
  by_cases loopback : mid = 4
  · subst loopback
    rw [loopback_contained_iff]
    exact ⟨fun fits => ⟨fun both => status both.1, fun _ => fits⟩, fun whole => whole.2 rfl⟩
  refine iff_of_true (fun earbud stack _ => Silent.contained ?_)
    ⟨fun both => status both.1, fun same => absurd same loopback⟩
  have others : Mid.ofNumber mid ≠ some .earbudStatus ∧ Mid.ofNumber mid ≠ some .loopback := by
    unfold Mid.ofNumber
    split
    all_goals first
      | exact absurd rfl status
      | exact absurd rfl loopback
      | exact ⟨by decide, by decide⟩
  rw [handleRxInd]
  split
  next => exact silent_handleCaseStatus earbud msg
  next => exact silent_handleEarbudStatusReq earbud msg
  next named => exact absurd named others.1
  next => exact silent_handleReset msg
  next named => exact absurd named others.2
  next => exact silent_handleCommand msg
  next => exact silent_handleCommandResponse msg source
  next => exact silent_handleCaseCommandResponse msg
  next => exact silent_nil

/-- A status with information about an address that ends after three of its bytes is read beyond
its end. -/
theorem shortAddress_read : ¬ ∀ msg source mid, Contained msg source mid := by
  intro contained
  obtain ⟨calls, answered, _⟩ := contained [0x80, 0, 1, 2] .leftEb 1
    ⟨true, 0, false, false, false, false, none⟩ (List.replicate loopbackBufferSize 0)
    List.length_replicate
  cases answered

end Contained

end CaseChannel

end HeadsetAdk.CaseComms
