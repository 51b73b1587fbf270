import HeadsetAdk.UpgradePeer.PartitionReader

/-! # Requests of the peer for an offset of the file -/

namespace HeadsetAdk.UpgradePeer

open List (length_append length_drop drop_drop mem_cons mem_append mem_singleton flatMap_cons)
open Upgrade
open PartitionReader (enterPart handleDataState movedTo openData readData readRequest resumeData)
open PartitionDataState (noConfusion)

def maxForwardPacketSize : Nat := 240

/-- What a request is served from.  `stack` is what is in a state that has not been filled in. -/
structure PeerDevice extends ReaderDevice where
  lastClosedPartition : Nat
  partitionOpen : Nat → Nat → Option Nat
  stack : PartitionState

def PeerDevice.searchDevice (device : PeerDevice) : SearchDevice where
  psKeys := device.store.psKeys
  lastClosedPartition := device.lastClosedPartition
  partitionOpen := device.partitionOpen

structure Peer where
  reader : PartitionReader
  totalReqSize : Nat
  totalSentSize : Nat
  reqStartOffset : Nat
  sent : List UInt8

def PartitionReader.reposition (context : PartitionReader) (expected : PartitionState) :
    PartitionReader :=
  let context := { context with
    pskey := expected.pskey
    readOffset := expected.pskeyOffset / 2
    state := expected.state
    partitionNumber := expected.partNum
    partitionOffset := expected.partOffset }
  if expected.state = .footer then
    { context with footerLength := expected.partitionLen % 2 ^ 16 }
  else { context with partDataLength := expected.partitionLen }

namespace Peer

def sendData (device : PeerDevice) (peer : Peer) : Option (ReadStatus × Peer) :=
  let remaining := sub32 peer.totalReqSize peer.totalSentSize
  let reqDataBytes := min remaining maxForwardPacketSize
  (peer.reader.readRequest device.toReaderDevice reqDataBytes peer.reqStartOffset).bind
    fun reading =>
      let peer := { peer with
        reader := reading.reader
        totalSentSize := (peer.totalSentSize + reading.sentLength) % 2 ^ 32 }
      if reading.status ≠ .success then some (reading.status, peer)
      else if reading.data.length < reading.sentLength then none
      else some (.success, { peer with sent := peer.sent ++ reading.data.take reading.sentLength })

/-- `upgradePeer_ReceiveDataBytesREQ`, of a message with the right length.  What the search
returns is not looked at. -/
def receiveDataBytesReq (device : PeerDevice) (peer : Peer) (dataBytes startOffset : Nat) :
    Option (ReadStatus × Peer) :=
  let begun : Peer :=
    { reader := { peer.reader with partitionOffset := 0 }
      totalReqSize := dataBytes
      totalSentSize := 0
      reqStartOffset := 0
      sent := [] }
  if startOffset ≠ 0 then
    (getPartitionStateFromDfuFileOffset device.searchDevice startOffset).bind fun found =>
      let expected := found.getD device.stack
      sendData device
        { begun with
          reader := begun.reader.reposition expected
          reqStartOffset := expected.partOffset }
  else begun.sendData device

/-- `upgradePeer_SelfKickNextDataBlock`, when it need not wait. -/
def selfKickNextDataBlock (device : PeerDevice) (peer : Peer) : Option (ReadStatus × Peer) :=
  if peer.totalSentSize < peer.totalReqSize then
    sendData device { peer with reqStartOffset := 0 }
  else some (.success, peer)

/-- A request, and kicks while there is no error. -/
def serve (device : PeerDevice) (peer : Peer) (dataBytes startOffset : Nat) :
    Nat → Option (ReadStatus × Peer)
  | 0 => peer.receiveDataBytesReq device dataBytes startOffset
  | kicks + 1 =>
      (peer.serve device dataBytes startOffset kicks).bind fun (status, peer) =>
        if status = .success then peer.selfKickNextDataBlock device else some (status, peer)

end Peer

def ServedFrom (device : PeerDevice) (peer : Peer) (dataBytes startOffset : Nat)
    (behind : List UInt8) : Prop :=
  (∀ kicks, ∃ next, peer.serve device dataBytes startOffset kicks = some (.success, next) ∧
    next.totalSentSize ≤ dataBytes ∧ next.sent = behind.take next.totalSentSize) ∧
  ∃ kicks next, peer.serve device dataBytes startOffset kicks = some (.success, next) ∧
    next.sent = behind.take dataBytes

def AllowsRequest (part : Part) (size : Nat) : Prop :=
  match part.state with
  | .generic1stPart => headerFirstPartSize ≤ size
  | .header => size % 2 = 0 ∧ size ≤ maxForwardPacketSize
  | .dataHeader => partitionSecondHeaderSize + firstWordSize ≤ size
  | .data => True
  | .footer => size % 2 = 0

structure ValidIn (file : UpgradeFile) (before : PsKeys) (store : HeaderStore)
    (sections : Nat → List UInt8) : Prop extends file.StoredIn before store where
  header : headerMinSecondPartSize ≤ file.header.length ∧ file.header.length % 2 = 0
  sqifNum : ∀ component ∈ file.components, component.sqifNum = 0
  flash : ∀ component ∈ file.components,
    putFirstWord component.firstWord ++ component.data <+: sections component.partNum

structure InKeys (log : List UInt8) (part : Part) (count done : Nat) (reader : PartitionReader) :
    Prop where
  place : reader = reader.movedTo (count + done)
  state : reader.state = part.state
  here : part.bytes <+: log.drop count
  even : (count + done) % 2 = 0

/-- The next read of the part is the one behind what has been read of it. -/
def Continues (log : List UInt8) (part : Part) (count done : Nat) (reader : PartitionReader) :
    Prop :=
  match part with
  | .partitionData component => InData component done reader
  | part => InKeys log part count done reader

def Reads (device : ReaderDevice) (log : List UInt8) (part : Part) (count done reqLen offset : Nat)
    (reader : PartitionReader) : Prop :=
  ∃ reading, reader.readRequest device reqLen offset = some reading ∧
    reading.status = .success ∧
    reading.data = (part.bytes.drop done).take reading.sentLength ∧
    0 < reading.sentLength ∧ reading.sentLength ≤ reqLen ∧
    (part.state = .data ∨ reading.sentLength = reqLen) ∧
    (part.state = .data ∨ part.state = .footer →
      done + reading.sentLength < part.bytes.length →
        Continues log part count (done + reading.sentLength) reading.reader)

/-- The reader knows a part with these numbers. -/
def Accepted : Part → Prop
  | .mainFirst header => headerMinSecondPartSize ≤ header.length ∧ header.length < 2 ^ 16
  | .partitionFirst component => component.data.length + 8 < 2 ^ 32
  | .partitionHeader component => component.sqifNum = 0
  | _ => True

section Reading

variable {device : ReaderDevice} {log : List UInt8} {part : Part} {count done reqLen offset : Nat}
  {reader : PartitionReader} {sections : Nat → List UInt8} {component : Component}

theorem InKeys.data (inKeys : InKeys log part count done reader)
    (positive : 0 < reqLen) (inside : done + reqLen ≤ part.bytes.length) :
    (log.drop (count + done)).take reqLen = (part.bytes.drop done).take reqLen ∧
      count + done + reqLen ≤ log.length := by
  obtain ⟨behind, whole⟩ := inKeys.here
  have length := congrArg List.length whole
  rw [length_append, length_drop] at length
  rw [← drop_drop, ← whole, List.drop_append_of_le_length (by omega),
    List.take_append_of_le_length (by rw [length_drop]; omega)]
  exact ⟨rfl, by omega⟩

theorem InKeys.readHeader (inKeys : InKeys log part count done reader)
    (holds : Holds before device.store log log.length) (positive : 0 < reqLen)
    (evenReq : reqLen % 2 = 0) (inside : done + reqLen ≤ part.bytes.length) (failed : ReadStatus)
    (handle : List UInt8 → PartitionReader → Option (ReadStatus × Bool × PartitionReader)) :
    reader.readHeader device reqLen reqLen failed handle =
      (handle ((part.bytes.drop done).take reqLen) (reader.movedTo (count + done + reqLen))).map
        fun answer =>
          ⟨answer.1, (part.bytes.drop done).take reqLen, reqLen, answer.2.1, answer.2.2⟩ := by
  obtain ⟨data, within⟩ := inKeys.data positive inside
  have read := PartitionReader.readHeader_movedTo holds inKeys.even evenReq evenReq positive
    (Nat.le_refl _) within reader failed handle
  rwa [← inKeys.place, data] at read

theorem reads_of_readRequest {last : Bool} {next : PartitionReader}
    (isRead : reader.readRequest device reqLen offset =
      some ⟨.success, (part.bytes.drop done).take reqLen, reqLen, last, next⟩)
    (positive : 0 < reqLen) (notData : part.state ≠ .data)
    (goesOn : part.state = .footer → Continues log part count (done + reqLen) next) :
    Reads device log part count done reqLen offset reader :=
  ⟨_, isRead, rfl, rfl, positive, Nat.le_refl _, .inr rfl,
    fun either _ => goesOn (either.resolve_left notData)⟩

theorem continues_iff_inKeys (notData : part.state ≠ .data) :
    Continues log part count done reader ↔ InKeys log part count done reader := by
  cases part with
  | partitionData component => exact absurd rfl notData
  | mainFirst header => rfl
  | mainHeader header => rfl
  | partitionFirst component => rfl
  | partitionHeader component => rfl
  | footerFirst => rfl
  | signature bytes => rfl

theorem length_first (first : part.state = .generic1stPart) :
    part.bytes.length = headerFirstPartSize := by
  obtain ⟨header, rfl⟩ | ⟨component, rfl⟩ | rfl := Part.eq_first first
  · rfl
  · rfl
  · rfl

def PartitionReader.enteredBy (context : PartitionReader) : Part → PartitionReader
  | .mainFirst header => { context with appHdrLength := header.length, state := .header }
  | .partitionFirst component =>
      { context with partDataLength := component.data.length + 8, state := .dataHeader }
  | .footerFirst => { context with footerLength := expectedSignatureSize, state := .footer }
  | _ => context

theorem enterPart_accepted (accepted : Accepted part) (first : part.state = .generic1stPart)
    (context : PartitionReader) :
    ∃ length, get4Bytes part.bytes idFieldSize = some length ∧
      context.enterPart part.bytes length = (.success, context.enteredBy part) := by
  obtain ⟨header, rfl⟩ | ⟨component, rfl⟩ | rfl := Part.eq_first first
  · obtain ⟨long, small⟩ := accepted
    have isHeader : idField (Part.mainFirst header).bytes = idField headerID := rfl
    refine ⟨header.length, get4Bytes_behind headerID (by omega), ?_⟩
    rw [enterPart, if_pos isHeader, Nat.mod_eq_of_lt small]
    exact if_neg (Nat.not_lt.mpr long)
  · have isPartition : idField (Part.partitionFirst component).bytes = idField partitionID := rfl
    have noHeader : idField partitionID ≠ idField headerID := by decide
    refine ⟨component.data.length + 8, get4Bytes_behind partitionID accepted, ?_⟩
    have longEnough : ¬ component.data.length + 8 < partitionSecondHeaderSize := by
      rw [partitionSecondHeaderSize]
      omega
    rw [enterPart, isPartition, if_neg noHeader, if_pos rfl]
    exact if_neg longEnough
  · have isFooter : idField Part.footerFirst.bytes = idField footerID := rfl
    have noHeader : idField footerID ≠ idField headerID := by decide
    have noPartition : idField footerID ≠ idField partitionID := by decide
    refine ⟨expectedSignatureSize, get4Bytes_behind footerID (by decide), ?_⟩
    rw [enterPart, isFooter, if_neg noHeader, if_neg noPartition, if_pos rfl]
    rfl

theorem readRequest_first (inKeys : InKeys log part count 0 reader)
    (holds : Holds before device.store log log.length) (accepted : Accepted part)
    (first : part.state = .generic1stPart) :
    reader.readRequest device headerFirstPartSize offset =
      some ⟨.success, (part.bytes.drop 0).take headerFirstPartSize, headerFirstPartSize, false,
        (reader.movedTo (count + 0 + headerFirstPartSize)).enteredBy part⟩ := by
  have twelve := length_first first
  have positive : 0 < headerFirstPartSize := Nat.succ_pos 11
  have state := inKeys.state.trans first
  obtain ⟨length, number, entered⟩ := enterPart_accepted accepted first
    (reader.movedTo (count + 0 + headerFirstPartSize))
  rw [readRequest, state]
  dsimp only
  rw [PartitionReader.handleGeneric1stPartState, if_neg (Nat.lt_irrefl _),
    inKeys.readHeader holds positive rfl (by rw [twelve]; exact Nat.le_refl _), List.drop_zero,
    List.take_of_length_le (Nat.le_of_eq twelve), number, Option.map_some,
    entered]
  rfl

theorem readRequest_mainHeader {header : List UInt8}
    (inKeys : InKeys log (.mainHeader header) count 0 reader)
    (holds : Holds before device.store log log.length) (positive : 0 < reqLen)
    (evenReq : reqLen % 2 = 0) (inside : reqLen ≤ header.length) :
    reader.readRequest device reqLen offset =
      some ⟨.success, (header.drop 0).take reqLen, reqLen, false,
        { reader.movedTo (count + 0 + reqLen) with state := .generic1stPart }⟩ := by
  have state : reader.state = .header := inKeys.state
  have isRead : reader.readRequest device reqLen offset =
      reader.handleHeaderState device reqLen := by
    rw [readRequest, state]
  have within : 0 + reqLen ≤ (Part.mainHeader header).bytes.length := by
    rw [Nat.zero_add]
    exact inside
  rw [isRead, PartitionReader.handleHeaderState, inKeys.readHeader holds positive evenReq within]
  rfl

theorem readRequest_partitionHeader
    (inKeys : InKeys log (.partitionHeader component) count 0 reader)
    (holds : Holds before device.store log log.length) (sqifNum : component.sqifNum = 0) :
    reader.readRequest device (partitionSecondHeaderSize + firstWordSize) offset = some ⟨.success,
        (component.dataHeader.drop 0).take (partitionSecondHeaderSize + firstWordSize),
        partitionSecondHeaderSize + firstWordSize, false,
        { reader.movedTo (count + 0 + (partitionSecondHeaderSize + firstWordSize)) with
          partDataLength :=
            sub32 (sub32 reader.partDataLength partitionSecondHeaderSize) firstWordSize
          sqifNumber := 0
          partitionNumber := component.partNum
          state := .data }⟩ := by
  have state : reader.state = .dataHeader := inKeys.state
  have isRead : reader.readRequest device (partitionSecondHeaderSize + firstWordSize) offset =
      reader.handleDataHeaderState device (partitionSecondHeaderSize + firstWordSize) := by
    rw [readRequest, state]
  have sqif : get2Bytes component.dataHeader 0 = some 0 := by
    rw [Component.dataHeader, List.append_assoc, get2Bytes_put2Bytes, sqifNum]
    rfl
  have positive : 0 < partitionSecondHeaderSize + firstWordSize := Nat.succ_pos 7
  have whole : ((Part.partitionHeader component).bytes.drop 0).take
      (partitionSecondHeaderSize + firstWordSize) = component.dataHeader := rfl
  rw [isRead, PartitionReader.handleDataHeaderState, if_neg (Nat.lt_irrefl _),
    inKeys.readHeader holds positive rfl (Nat.le_refl 8), whole,
    PartitionReader.enterPartition, sqif, component.get2Bytes_dataHeader]
  dsimp only
  rw [component.valid, if_neg Bool.noConfusion, if_neg (by decide)]
  rfl

theorem readRequest_signature {bytes : List UInt8}
    (inKeys : InKeys log (.signature bytes) count done reader)
    (holds : Holds before device.store log log.length) (positive : 0 < reqLen)
    (evenReq : reqLen % 2 = 0) (inside : done + reqLen ≤ bytes.length) :
    reader.readRequest device reqLen offset = some ⟨.success, (bytes.drop done).take reqLen, reqLen,
        decide ((reader.footerLength + 2 ^ 32 - reqLen) % 2 ^ 16 = 0),
        { reader.movedTo (count + done + reqLen) with
          footerLength := (reader.footerLength + 2 ^ 32 - reqLen) % 2 ^ 16 }⟩ := by
  have state : reader.state = .footer := inKeys.state
  have isRead : reader.readRequest device reqLen offset =
      reader.handleFooterState device reqLen := by
    rw [readRequest, state]
  rw [isRead, PartitionReader.handleFooterState, inKeys.readHeader holds positive evenReq inside]
  rfl

theorem reads_of_readData {opened : PartitionReader} (work : device.streams.Work sections)
    (flash : putFirstWord component.firstWord ++ component.data <+: sections component.partNum)
    (small : component.data.length < 2 ^ 32) (inData : InData component done opened)
    (positive : 0 < reqLen) (isRead : ∀ source, opened.handle = some source →
      reader.readRequest device reqLen offset = some (opened.readData device source reqLen)) :
    Reads device log (.partitionData component) count done reqLen offset reader := by
  obtain ⟨source, isSource, reads⟩ := PartitionReader.readData_inData work flash small inData
  exact ⟨_, isRead source isSource, reads.status, reads.data, reads.some positive, reads.short,
    .inl rfl, fun _ goesOn => reads.more goesOn⟩

theorem readRequest_inData {source : StreamSource}
    (inData : InData component done reader) (isSource : reader.handle = some source) :
    reader.readRequest device reqLen 0 = some (reader.readData device source reqLen) := by
  rw [readRequest, inData.state]
  dsimp only
  rw [handleDataState, if_neg (fun both => both.1 rfl), resumeData, if_pos rfl]
  dsimp only
  rw [if_neg (fun failed => failed rfl), openData, isSource]
  dsimp only
  rw [isSource]

section

variable (work : device.streams.Work sections)

include work

section

variable (flash : putFirstWord component.firstWord ++ component.data <+: sections component.partNum)

include flash

theorem reads_inData (small : component.data.length < 2 ^ 32)
    (inData : InData component done reader) (positive : 0 < reqLen) :
    Reads device log (.partitionData component) count done reqLen 0 reader :=
  reads_of_readData work flash small inData positive fun _ isSource =>
    readRequest_inData inData isSource

theorem reads_resumed (small : component.data.length + 8 < 2 ^ 32) (state : reader.state = .data)
    (length : reader.partDataLength = component.data.length)
    (partition : reader.partitionNumber = component.partNum) (some : 0 < done)
    (more : done < component.data.length) (positive : 0 < reqLen) :
    Reads device log (.partitionData component) count done reqLen done reader := by
  have whole := flash.length_le
  rw [length_append, show (putFirstWord component.firstWord).length = firstWordSize from rfl]
    at whole
  rw [firstWordSize] at whole
  have offset : (done + firstWordSize) % 2 ^ 32 = firstWordSize + done := by
    rw [firstWordSize, Nat.mod_eq_of_lt (by omega), Nat.add_comm]
  have opens := work.getSourceFromOffset component.partNum (firstWordSize + done)
    (by rw [firstWordSize]; omega)
  have inData : InData component done { reader with
      handle := Option.some ⟨component.partNum, firstWordSize + done⟩
      partDataLength := component.data.length - done } := ⟨rfl, rfl, state, more⟩
  have resumed : reader.resumeData device done = (.success, { reader with
      handle := Option.some ⟨component.partNum, firstWordSize + done⟩
      partDataLength := component.data.length - done }) := by
    rw [resumeData, if_neg (Nat.ne_of_gt some), offset]
    dsimp only
    rw [partition, opens, if_neg Bool.noConfusion, length,
      UpgradeCtx.sub32_eq (Nat.le_of_lt more) (by omega)]
  have isRequest : reader.readRequest device reqLen done =
      reader.handleDataState device reqLen done := by
    rw [readRequest, state]
  refine reads_of_readData work flash (by omega) inData positive fun source isSource => ?_
  cases isSource
  rw [isRequest, handleDataState,
    if_neg (fun both => Nat.ne_of_lt more (both.2.trans length)), resumed]
  rfl

theorem readRequest_opened (state : reader.state = .data)
    (partition : reader.partitionNumber = component.partNum) (closed : reader.handle = none) :
    reader.readRequest device reqLen 0 = some (readData device
      { reader with handle := some ⟨component.partNum, firstWordSize⟩ }
        ⟨component.partNum, firstWordSize⟩ reqLen) := by
  have whole := flash.length_le
  rw [length_append, show (putFirstWord component.firstWord).length = firstWordSize from rfl]
    at whole
  have word := work.word component.partNum (Nat.le_of_add_right_le whole)
  obtain ⟨populated, read, isPopulated⟩ := work.readNextPartitionDataChunk
    ⟨component.partNum, 0⟩ firstWordSize
  rw [Nat.min_eq_right word] at isPopulated
  subst isPopulated
  have opened : reader.openData device = (.success, { reader with
      handle := some ⟨component.partNum, firstWordSize⟩ }) := by
    rw [openData, closed]
    dsimp only
    rw [partition, work.getSource, if_neg Bool.noConfusion, read, Nat.zero_add]
  have isRequest : reader.readRequest device reqLen 0 = reader.handleDataState device reqLen 0 := by
    rw [readRequest, state]
  rw [isRequest, handleDataState, if_neg (fun both => both.1 rfl), resumeData, if_pos rfl]
  dsimp only
  rw [if_neg (fun failed => failed rfl), opened]

theorem reads_opened (small : component.data.length < 2 ^ 32) (state : reader.state = .data)
    (length : reader.partDataLength = component.data.length)
    (partition : reader.partitionNumber = component.partNum) (closed : reader.handle = none)
    (more : 0 < component.data.length) (positive : 0 < reqLen) :
    Reads device log (.partitionData component) count 0 reqLen 0 reader := by
  have inData : InData component 0 { reader with
      handle := some ⟨component.partNum, firstWordSize⟩ } := ⟨rfl, length, state, more⟩
  refine reads_of_readData work flash small inData positive fun source isSource => ?_
  cases isSource
  exact readRequest_opened work flash state partition closed

end

theorem readRequest_noData (state : reader.state = .data) (length : reader.partDataLength = 0)
    (partition : reader.partitionNumber = component.partNum) :
    reader.readRequest device reqLen 0 = some ⟨.success, [], 0, false,
      { reader with handle := none, partDataLength := 0, state := .generic1stPart }⟩ := by
  have nothing (opened : PartitionReader) (source : StreamSource)
      (empty : opened.partDataLength = 0) :
      opened.readData device source reqLen = ⟨.success, [], 0, false,
        { opened with handle := none, partDataLength := 0, state := .generic1stPart }⟩ := by
    obtain ⟨populated, read, isPopulated⟩ := work.readNextPartitionDataChunk source
      (min opened.partDataLength reqLen)
    rw [empty, Nat.zero_min, Nat.min_zero] at isPopulated
    subst isPopulated
    have none : sub32 0 0 = 0 := rfl
    rw [readData, read]
    dsimp only
    rw [empty, List.take_zero, none, if_pos rfl]
  have isRequest : reader.readRequest device reqLen 0 = reader.handleDataState device reqLen 0 := by
    rw [readRequest, state]
  rw [isRequest, handleDataState, if_neg (fun both => both.1 rfl), resumeData, if_pos rfl]
  dsimp only
  rw [if_neg (fun failed => failed rfl), openData]
  cases handle : reader.handle with
  | some source =>
    dsimp only
    rw [handle]
    dsimp only
    rw [nothing reader source length]
  | none =>
    obtain ⟨populated, read, isPopulated⟩ := work.readNextPartitionDataChunk
      ⟨component.partNum, 0⟩ firstWordSize
    dsimp only
    rw [partition, work.getSource, if_neg Bool.noConfusion, read]
    exact congrArg some (nothing _ _ length)

end

end Reading

structure Has (device : ReaderDevice) (sections : Nat → List UInt8) (log : List UInt8)
    (part : Part) (count : Nat) : Prop where
  holds : ∃ before, Holds before device.store log log.length
  work : device.streams.Work sections
  accepted : Accepted part
  even : count % 2 = 0
  flash : ∀ component, part = .partitionData component →
    component.data.length + 8 < 2 ^ 32 ∧
      putFirstWord component.firstWord ++ component.data <+: sections component.partNum

structure Serving (behind log : List UInt8) (part : Part) (count inside dataBytes : Nat)
    (peer : Peer) : Prop where
  totalReqSize : peer.totalReqSize = dataBytes
  totalSentSize : peer.totalSentSize ≤ dataBytes
  sent : peer.sent = behind.take peer.totalSentSize
  next : peer.totalSentSize < dataBytes →
    Continues log part count (inside + peer.totalSentSize) peer.reader ∧
      (peer.totalSentSize = 0 ∨ part.state = .data ∨ part.state = .footer)

section Serving

variable {device : PeerDevice} {log behind : List UInt8} {part : Part}
  {count inside dataBytes : Nat} {reader : PartitionReader} {peer : Peer}
  {sections : Nat → List UInt8}

theorem reads_next (has : Has device.toReaderDevice sections log part count) {done : Nat}
    (allowed : AllowsRequest part dataBytes) (within : inside + dataBytes ≤ part.bytes.length)
    (start : inside = 0 ∨ part.state = .data) (more : done < dataBytes)
    (progress : done = 0 ∨ part.state = .data ∨ part.state = .footer)
    (continues : Continues log part count (inside + done) reader) :
    Reads device.toReaderDevice log part count (inside + done)
      (min (dataBytes - done) maxForwardPacketSize) 0 reader := by
  obtain ⟨before, holds⟩ := has.holds
  by_cases first : part.state = .generic1stPart
  · have twelve := length_first first
    have enough : headerFirstPartSize ≤ dataBytes := by
      rw [AllowsRequest, first] at allowed
      exact allowed
    have noData : part.state ≠ .data := fun wrong =>
      noConfusion (first.symm.trans wrong)
    have noFooter : part.state ≠ .footer := fun wrong =>
      noConfusion (first.symm.trans wrong)
    obtain rfl := start.resolve_right noData
    obtain rfl := progress.resolve_right (not_or.mpr ⟨noData, noFooter⟩)
    have size : min (dataBytes - 0) maxForwardPacketSize = headerFirstPartSize := by
      rw [headerFirstPartSize] at twelve enough ⊢
      rw [maxForwardPacketSize]
      omega
    rw [size]
    exact reads_of_readRequest (readRequest_first ((continues_iff_inKeys noData).mp continues)
      holds has.accepted first) (Nat.succ_pos 11) noData fun isFooter => absurd isFooter noFooter
  cases part with
  | mainFirst header => exact absurd rfl first
  | partitionFirst component => exact absurd rfl first
  | footerFirst => exact absurd rfl first
  | mainHeader header =>
    obtain ⟨even, single⟩ := allowed
    obtain rfl := start.resolve_right fun wrong => noConfusion wrong
    obtain rfl := progress.resolve_right fun wrong =>
      wrong.elim (fun wrong => noConfusion wrong)
        fun wrong => noConfusion wrong
    rw [Nat.sub_zero, Nat.min_eq_left single]
    exact reads_of_readRequest (readRequest_mainHeader continues holds more even
      (by rwa [Nat.zero_add] at within)) more (fun wrong => noConfusion wrong)
        fun wrong => noConfusion wrong
  | partitionHeader component =>
    have eight : (Part.partitionHeader component).bytes.length = 8 := rfl
    have enough : 8 ≤ dataBytes := allowed
    obtain rfl := start.resolve_right fun wrong => noConfusion wrong
    obtain rfl := progress.resolve_right fun wrong =>
      wrong.elim (fun wrong => noConfusion wrong)
        fun wrong => noConfusion wrong
    obtain rfl : dataBytes = 8 := by omega
    exact reads_of_readRequest (readRequest_partitionHeader continues holds has.accepted)
      (Nat.succ_pos 7) (fun wrong => noConfusion wrong)
        fun wrong => noConfusion wrong
  | partitionData component =>
    obtain ⟨small, flash⟩ := has.flash component rfl
    exact reads_inData has.work flash (by omega) continues
      (by rw [maxForwardPacketSize]; omega)
  | signature bytes =>
    have even : dataBytes % 2 = 0 := allowed
    obtain rfl := start.resolve_right fun wrong => noConfusion wrong
    have inKeys : InKeys log (.signature bytes) count (0 + done) reader := continues
    have evenDone := inKeys.even
    have evenCount := has.even
    have length : (Part.signature bytes).bytes.length = bytes.length := rfl
    obtain ⟨size, isSize⟩ : ∃ size, min (dataBytes - done) maxForwardPacketSize = size := ⟨_, rfl⟩
    rw [maxForwardPacketSize] at isSize
    rw [maxForwardPacketSize, isSize]
    refine reads_of_readRequest (readRequest_signature inKeys holds (by omega) (by omega)
      (by omega)) (by omega) (fun wrong => noConfusion wrong) fun _ => ?_
    refine ⟨?_, inKeys.state, inKeys.here, by omega⟩
    rw [← Nat.add_assoc count (0 + done) size]
    rfl

theorem Serving.sendData (totalReqSize : peer.totalReqSize = dataBytes)
    (small : dataBytes < 2 ^ 32) (sent : peer.sent = behind.take peer.totalSentSize)
    (here : part.bytes.drop inside <+: behind) (within : inside + dataBytes ≤ part.bytes.length)
    (single : part.state = .data ∨ part.state = .footer ∨ dataBytes ≤ maxForwardPacketSize)
    (more : peer.totalSentSize < dataBytes)
    (reads : Reads device.toReaderDevice log part count (inside + peer.totalSentSize)
      (min (dataBytes - peer.totalSentSize) maxForwardPacketSize) peer.reqStartOffset peer.reader) :
    ∃ next, peer.sendData device = some (.success, next) ∧
      Serving behind log part count inside dataBytes next ∧
      peer.totalSentSize < next.totalSentSize := by
  obtain ⟨reading, isReading, success, data, some, short, whole, goesOn⟩ := reads
  have remaining : sub32 dataBytes peer.totalSentSize = dataBytes - peer.totalSentSize :=
    UpgradeCtx.sub32_eq (Nat.le_of_lt more) small
  have upTo : peer.totalSentSize + reading.sentLength ≤ dataBytes := by omega
  have total : (peer.totalSentSize + reading.sentLength) % 2 ^ 32 =
      peer.totalSentSize + reading.sentLength := Nat.mod_eq_of_lt (by omega)
  have length : reading.data.length = reading.sentLength := by
    rw [data, List.length_take, length_drop]
    omega
  refine ⟨{ peer with
    reader := reading.reader
    totalSentSize := peer.totalSentSize + reading.sentLength
    sent := peer.sent ++ reading.data }, ?_, ⟨totalReqSize, upTo, ?_, fun goesOn' => ?_⟩,
    Nat.lt_add_of_pos_right some⟩
  · rw [Peer.sendData, totalReqSize, remaining, isReading, Option.bind_some]
    dsimp only
    rw [total, success, if_neg (fun failed => failed rfl),
      if_neg (by rw [length]; exact Nat.lt_irrefl _), List.take_of_length_le (Nat.le_of_eq length)]
  · obtain ⟨rest, isBehind⟩ := here
    have next : reading.data = (behind.drop peer.totalSentSize).take reading.sentLength := by
      rw [data, ← isBehind, List.drop_append_of_le_length (by rw [length_drop]; omega),
        List.take_append_of_le_length
          (by rw [length_drop, length_drop]; omega), drop_drop]
    rw [sent, next, ← List.take_add]
  · have goesOnThere : peer.totalSentSize + reading.sentLength < dataBytes := goesOn'
    have pieces : part.state = .data ∨ part.state = .footer := by
      rcases single with isData | isFooter | single
      · exact .inl isData
      · exact .inr isFooter
      · refine whole.imp_right fun isWhole => ?_
        rw [Nat.min_eq_left (by omega)] at isWhole
        omega
    rw [← Nat.add_assoc]
    exact ⟨goesOn pieces (by omega), .inr pieces⟩

theorem single_of_allowed (allowed : AllowsRequest part dataBytes)
    (within : inside + dataBytes ≤ part.bytes.length) :
    part.state = .data ∨ part.state = .footer ∨ dataBytes ≤ maxForwardPacketSize := by
  cases part with
  | mainFirst header =>
    have twelve : (Part.mainFirst header).bytes.length = 12 := rfl
    exact .inr (.inr (by rw [maxForwardPacketSize]; omega))
  | mainHeader header => exact .inr (.inr allowed.2)
  | partitionFirst component =>
    have twelve : (Part.partitionFirst component).bytes.length = 12 := rfl
    exact .inr (.inr (by rw [maxForwardPacketSize]; omega))
  | partitionHeader component =>
    have eight : (Part.partitionHeader component).bytes.length = 8 := rfl
    exact .inr (.inr (by rw [maxForwardPacketSize]; omega))
  | partitionData component => exact .inl rfl
  | footerFirst =>
    have twelve : Part.footerFirst.bytes.length = 12 := rfl
    exact .inr (.inr (by rw [maxForwardPacketSize]; omega))
  | signature bytes => exact .inr (.inl rfl)

section

variable (has : Has device.toReaderDevice sections log part count)
  (allowed : AllowsRequest part dataBytes) (small : dataBytes < 2 ^ 32)
  (here : part.bytes.drop inside <+: behind) (within : inside + dataBytes ≤ part.bytes.length)
  (start : inside = 0 ∨ part.state = .data)

include has allowed small here within start

theorem Serving.kick (serving : Serving behind log part count inside dataBytes peer) :
    ∃ next, peer.selfKickNextDataBlock device = some (.success, next) ∧
      Serving behind log part count inside dataBytes next ∧
      (dataBytes ≤ next.totalSentSize ∨ peer.totalSentSize < next.totalSentSize) := by
  have total := serving.totalReqSize
  rw [Peer.selfKickNextDataBlock]
  by_cases more : peer.totalSentSize < dataBytes
  · obtain ⟨continues, progress⟩ := serving.next more
    have reads := reads_next has allowed within start more progress continues
    obtain ⟨next, sent, serving', further⟩ := @Serving.sendData device log behind part count inside
      dataBytes { peer with reqStartOffset := 0 } serving.totalReqSize small serving.sent here
        within (single_of_allowed allowed within) more reads
    rw [if_pos (by omega)]
    exact ⟨next, sent, serving', .inr further⟩
  · rw [if_neg (by omega)]
    exact ⟨peer, rfl, serving, .inl (Nat.not_lt.mp more)⟩

theorem Serving.served {reqOffset : Nat} {first : Peer}
    (received : peer.receiveDataBytesReq device dataBytes reqOffset = some (.success, first))
    (serving : Serving behind log part count inside dataBytes first) :
    ServedFrom device peer dataBytes reqOffset behind := by
  have served (kicks : Nat) : ∃ next, peer.serve device dataBytes reqOffset kicks =
      some (.success, next) ∧ Serving behind log part count inside dataBytes next ∧
        min kicks dataBytes ≤ next.totalSentSize := by
    induction kicks with
    | zero =>
      refine ⟨first, received, serving, ?_⟩
      rw [Nat.zero_min]
      exact Nat.zero_le _
    | succ kicks ih =>
      obtain ⟨next, ran, serving, atLeast⟩ := ih
      obtain ⟨next', kicked, serving', further⟩ := serving.kick has allowed small here within start
      refine ⟨next', ?_, serving', by omega⟩
      rw [Peer.serve, ran, Option.bind_some]
      dsimp only
      rw [if_pos rfl, kicked]
  refine ⟨fun kicks => ?_, ?_⟩
  · obtain ⟨next, ran, serving, _⟩ := served kicks
    exact ⟨next, ran, serving.totalSentSize, serving.sent⟩
  · obtain ⟨next, ran, serving, all⟩ := served dataBytes
    have upTo := serving.totalSentSize
    rw [Nat.min_self] at all
    have sent := serving.sent
    rw [Nat.le_antisymm upTo all] at sent
    exact ⟨dataBytes, next, ran, sent⟩

end

end Serving

section Resuming

variable {before : PsKeys} {device : PeerDevice} {log behind : List UInt8} {file : UpgradeFile}
  {passed after : List Part} {part target : Part} {count inside dataBytes reqOffset : Nat}
  {reader : PartitionReader} {found : PartitionState} {peer : Peer} {sections : Nat → List UInt8}

theorem eq_movedTo
    (pskey : reader.pskey = dfuHeaderPskeyStart + count / pskeyMaxStorageLengthInBytes)
    (readOffset : reader.readOffset = count % pskeyMaxStorageLengthInBytes / 2) :
    reader = reader.movedTo count := by
  rw [movedTo, ← pskey, ← readOffset]

theorem reposition_isAt (isAt : found.IsAt part count inside) (context : PartitionReader) :
    context.reposition found = (context.reposition found).movedTo count ∧
      (context.reposition found).state = part.state ∧
      (context.reposition found).handle = context.handle ∧
      (context.reposition found).partitionNumber = found.partNum ∧
      (part.state ≠ .footer → (context.reposition found).partDataLength = found.partitionLen) := by
  have state := isAt.state
  by_cases isFooter : found.state = .footer
  · have moved : context.reposition found = { context with
        pskey := found.pskey
        readOffset := found.pskeyOffset / 2
        state := found.state
        partitionNumber := found.partNum
        partitionOffset := found.partOffset
        footerLength := found.partitionLen % 2 ^ 16 } := by
      rw [PartitionReader.reposition, if_pos isFooter]
    rw [moved]
    refine ⟨eq_movedTo isAt.pskey (by rw [← isAt.pskeyOffset]), state, rfl, rfl, fun other => ?_⟩
    exact absurd (state.symm.trans isFooter) other
  · have moved : context.reposition found = { context with
        pskey := found.pskey
        readOffset := found.pskeyOffset / 2
        state := found.state
        partitionNumber := found.partNum
        partitionOffset := found.partOffset
        partDataLength := found.partitionLen } := by
      rw [PartitionReader.reposition, if_neg isFooter]
    rw [moved]
    exact ⟨eq_movedTo isAt.pskey (by rw [← isAt.pskeyOffset]), state, rfl, rfl, fun _ => rfl⟩

theorem mem_components (member : part ∈ file.parts) {component : Component}
    (isPart : part = .partitionHeader component ∨ part = .partitionData component) :
    component ∈ file.components := by
  rw [UpgradeFile.parts, UpgradeFile.partsBehind, mem_cons, mem_cons, mem_append,
    List.mem_flatMap] at member
  rcases member with rfl | rfl | ⟨other, inComponents, isOther⟩ | isFooter
  · rcases isPart with wrong | wrong <;> contradiction
  · rcases isPart with wrong | wrong <;> contradiction
  · rw [Component.parts, mem_cons, mem_cons, mem_singleton] at isOther
    rcases isOther with rfl | rfl | rfl
    · rcases isPart with wrong | wrong <;> contradiction
    · rcases isPart with same | wrong
      · exact Part.partitionHeader.inj same ▸ inComponents
      · contradiction
    · rcases isPart with wrong | same
      · contradiction
      · exact Part.partitionData.inj same ▸ inComponents
  · rw [mem_cons, mem_singleton] at isFooter
    rcases isFooter with rfl | rfl
    · rcases isPart with wrong | wrong <;> contradiction
    · rcases isPart with wrong | wrong <;> contradiction

theorem ValidIn.even_stored {store : HeaderStore} (valid : ValidIn file before store sections)
    (member : part ∈ file.parts) : part.stored.length % 2 = 0 := by
  rw [UpgradeFile.parts, UpgradeFile.partsBehind, mem_cons, mem_cons, mem_append,
    List.mem_flatMap] at member
  rcases member with rfl | rfl | ⟨component, inComponents, isPart⟩ | isFooter
  · have length : (Part.mainFirst file.header).stored.length = 12 := rfl
    rw [length]
  · exact valid.header.2
  · rw [Component.parts, mem_cons, mem_cons, mem_singleton] at isPart
    rcases isPart with rfl | rfl | rfl
    · have length : (Part.partitionFirst component).stored.length = 12 := rfl
      rw [length]
    · have length : (Part.partitionHeader component).stored.length = 8 := rfl
      rw [length]
    · rfl
  · rw [mem_cons, mem_singleton] at isFooter
    rcases isFooter with rfl | rfl
    · have length : Part.footerFirst.stored.length = 12 := rfl
      rw [length]
    · have length : (Part.signature file.signature).stored.length = 256 := file.signature_length
      rw [length]

theorem ValidIn.even_before {store : HeaderStore} (valid : ValidIn file before store sections)
    {parts : List Part} (members : ∀ part ∈ parts, part ∈ file.parts) :
    (parts.flatMap Part.stored).length % 2 = 0 := by
  induction parts with
  | nil => rfl
  | cons part parts ih =>
    have first := valid.even_stored (members part List.mem_cons_self)
    have rest := ih fun part member => members part (List.mem_cons_of_mem _ member)
    rw [flatMap_cons, length_append]
    omega

theorem ValidIn.has {device : ReaderDevice} (valid : ValidIn file before device.store sections)
    (work : device.streams.Work sections) (isParts : file.parts = passed ++ target :: after) :
    Has device sections file.log target (passed.flatMap Part.stored).length := by
  have member : target ∈ file.parts := by
    rw [isParts]
    exact List.mem_append_right _ List.mem_cons_self
  have members : ∀ part ∈ passed, part ∈ file.parts := fun part inPassed => by
    rw [isParts]
    exact List.mem_append_left _ inPassed
  have fits := valid.fits target member
  refine ⟨⟨before, valid.holds⟩, work, ?_, valid.even_before members, fun component isData => ?_⟩
  · cases target with
    | mainFirst header =>
      have isHeader : header = file.header := by
        rw [UpgradeFile.parts, UpgradeFile.partsBehind, mem_cons, mem_cons,
          mem_append, List.mem_flatMap] at member
        rcases member with same | wrong | ⟨component, _, wrong⟩ | wrong
        · exact Part.mainFirst.inj same
        · contradiction
        · rw [Component.parts, mem_cons, mem_cons, mem_singleton] at wrong
          rcases wrong with wrong | wrong | wrong <;> contradiction
        · rw [mem_cons, mem_singleton] at wrong
          rcases wrong with wrong | wrong <;> contradiction
      exact ⟨isHeader ▸ valid.header.1, fits.2⟩
    | mainHeader header => trivial
    | partitionFirst component => exact fits
    | partitionHeader component => exact valid.sqifNum component (mem_components member (.inl rfl))
    | partitionData component => trivial
    | footerFirst => trivial
    | signature bytes => trivial
  · subst isData
    exact ⟨fits, valid.flash component (mem_components member (.inr rfl))⟩

theorem inKeys_of_stored (notData : part.state ≠ .data) {done : Nat}
    (place : reader = reader.movedTo (count + done)) (state : reader.state = part.state)
    (here : part.stored <+: log.drop count) (even : (count + done) % 2 = 0) :
    InKeys log part count done reader := by
  have whole : part.stored = part.bytes := by
    rw [Part.stored]
    intro component isPart
    exact notData (isPart ▸ rfl)
  exact ⟨place, state, whole ▸ here, even⟩

theorem reads_repositioned (has : Has device.toReaderDevice sections log part count)
    (here : part.stored <+: log.drop count) (isAt : found.IsAt part count inside)
    (allowed : AllowsRequest part dataBytes) (some : 0 < dataBytes)
    (within : inside + dataBytes ≤ part.bytes.length) (start : inside = 0 ∨ part.state = .data)
    (closed : part.state = .data → inside = 0 → reader.handle = none) :
    Reads device.toReaderDevice log part count (inside + 0)
      (min (dataBytes - 0) maxForwardPacketSize) found.partOffset (reader.reposition found) := by
  obtain ⟨place, state, handle, partition, length⟩ := reposition_isAt isAt reader
  rw [isAt.partOffset]
  by_cases isData : part.state = .data
  · obtain ⟨component, rfl⟩ := Part.eq_partitionData isData
    obtain ⟨small, flash⟩ := has.flash component rfl
    obtain ⟨isLength, isPartition⟩ := isAt.told
    have bytes : (Part.partitionData component).bytes.length = component.data.length := rfl
    have length' := (length fun wrong => noConfusion wrong).trans isLength
    have positive : 0 < min (dataBytes - 0) maxForwardPacketSize := by
      rw [maxForwardPacketSize]
      omega
    by_cases zero : inside = 0
    · subst zero
      exact reads_opened has.work flash (by omega) state length' (partition.trans isPartition)
        (handle.trans (closed rfl rfl)) (by omega) positive
    · exact reads_resumed has.work flash small state length' (partition.trans isPartition)
        (Nat.pos_of_ne_zero zero) (by omega) positive
  · obtain rfl := start.resolve_right isData
    exact reads_next has allowed within start some (.inl rfl)
      ((continues_iff_inKeys isData).mpr (inKeys_of_stored isData place state here has.even))

theorem serving_behind_noData {component : Component}
    (has : Has device.toReaderDevice sections log part count)
    (here : part.stored <+: log.drop count) (first : part.state = .generic1stPart)
    (isAt : found.IsAt (.partitionData component) count 0) (noData : component.data = [])
    (behind : List UInt8) :
    ∃ next, Peer.sendData device
        ⟨reader.reposition found, dataBytes, 0, found.partOffset, []⟩ = some (.success, next) ∧
      Serving behind log part count 0 dataBytes next := by
  obtain ⟨place, state, handle, partition, length⟩ := reposition_isAt isAt reader
  obtain ⟨isLength, isPartition⟩ := isAt.told
  have length' := (length fun wrong => noConfusion wrong).trans isLength
  rw [noData, List.length_nil] at length'
  have notData : part.state ≠ .data := fun wrong =>
    noConfusion (first.symm.trans wrong)
  have read := @readRequest_noData device.toReaderDevice
    (min (sub32 dataBytes 0) maxForwardPacketSize) _ _ component has.work state length'
    (partition.trans isPartition)
  have moved : { reader.reposition found with
        handle := none, partDataLength := 0, state := .generic1stPart } =
      movedTo { reader.reposition found with
        handle := none, partDataLength := 0, state := .generic1stPart } (count + 0) :=
    eq_movedTo (congrArg PartitionReader.pskey place) (congrArg PartitionReader.readOffset place)
  have inKeys := inKeys_of_stored notData moved first.symm here has.even
  refine ⟨⟨{ reader.reposition found with
    handle := none, partDataLength := 0, state := .generic1stPart }, dataBytes, 0, 0, []⟩, ?_, rfl,
    Nat.zero_le _, rfl, fun _ => ⟨(continues_iff_inKeys notData).mpr inKeys, .inl rfl⟩⟩
  rw [Peer.sendData, isAt.partOffset, read]
  rfl

end Resuming

def storeOf (log : List UInt8) : HeaderStore where
  psKeys key := if key < 510 ∨ 519 < key then [] else Segments.segmentAt 64 log (key - 510)
  dfuHeaderPskey := 510 + log.length / 64
  dfuHeaderPskeyOffset := log.length % 64

theorem holds_storeOf {log : List UInt8} (even : log.length % 2 = 0)
    (fits : log.length ≤ 640) : Holds (fun _ => []) (storeOf log) log log.length := by
  refine ⟨fun index inTen => ?_, fun key other => if_pos other, even, fits, Nat.le_refl _, rfl, rfl⟩
  have inKeys : ¬ (510 + index < 510 ∨ 519 < 510 + index) := by omega
  rw [storeOf]
  dsimp only
  rw [if_neg inKeys, Nat.add_sub_cancel_left]

def deviceWith (file : UpgradeFile) (sections : Nat → List UInt8) : PeerDevice where
  store := storeOf file.log
  streams :=
    { getSource := fun _ => true
      getSourceFromOffset := fun partition offset => decide (offset ≤ (sections partition).length)
      sourceSize := fun source => (sections source.partition).length - source.position
      sourceMap := fun source => some ((sections source.partition).drop source.position) }
  lastClosedPartition := 0
  partitionOpen := fun _ _ => none
  stack := ⟨0, 0, .generic1stPart, 0, 0, 0, 0, 0⟩

theorem work_deviceWith (file : UpgradeFile) (sections : Nat → List UInt8) :
    (deviceWith file sections).streams.Work sections := by
  refine ⟨fun _ => rfl, fun _ _ inside => decide_eq_true inside, fun source => ?_,
    fun source more => Nat.sub_pos_of_lt more, fun _ word => word⟩
  refine ⟨_, rfl, ?_, List.take_prefix _ _⟩
  rw [length_drop]
  exact Nat.le_refl _

private def freshPeer : Peer where
  reader := ⟨none, dfuHeaderPskeyStart, 0, 0, 0, 0, 0, 0, .generic1stPart, 0⟩
  totalReqSize := 0
  totalSentSize := 0
  reqStartOffset := 0
  sent := []

/-- A file with two bytes of data in partition 3. -/
def smallFile : UpgradeFile := plainFile [plainComponent 3 rfl]

def smallSections (_ : Nat) : List UInt8 := [0, 0, 0, 0, 1, 2]

theorem valid_smallFile :
    ValidIn smallFile (fun _ => []) (deviceWith smallFile smallSections).store smallSections := by
  refine ⟨⟨holds_storeOf (by decide +kernel) (by decide +kernel), fun part member => ?_,
    by decide +kernel⟩, by decide, fun component member => ?_, fun component member => ?_⟩
  · have parts : smallFile.parts = [.mainFirst smallFile.header, .mainHeader smallFile.header,
        .partitionFirst (plainComponent 3 rfl), .partitionHeader (plainComponent 3 rfl),
        .partitionData (plainComponent 3 rfl), .footerFirst, .signature smallFile.signature] := rfl
    have header : 0 < smallFile.header.length ∧ smallFile.header.length < 2 ^ 16 := by decide
    have data : (plainComponent 3 rfl).data.length + 8 < 2 ^ 32 := by decide
    rw [parts, mem_cons, mem_cons, mem_cons, mem_cons, mem_cons, mem_cons, mem_singleton] at member
    rcases member with rfl | rfl | rfl | rfl | rfl | rfl | rfl
    · exact header
    · exact header
    · exact data
    · exact data
    · exact data
    · trivial
    · trivial
  · obtain rfl := List.mem_singleton.mp member
    rfl
  · obtain rfl := List.mem_singleton.mp member
    exact List.prefix_rfl

end HeadsetAdk.UpgradePeer
