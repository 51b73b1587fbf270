import HeadsetAdk.Upgrade.OffsetSearch

/-!
# The reader of a stored upgrade file

`upgrade_partition_reader.c` reads the file that a device has received, to pass it on to its
peer.  An answer `none` stands for reads outside of memory, and for a loop that does not end.
-/

namespace HeadsetAdk.UpgradePeer

open Upgrade

/-- The codes of `UpgradeHostErrorCode` that the reader returns. -/
inductive ReadStatus
  | success
  | badLengthTooShort
  | internalErrorInsufficientPskey
  | partitionOpenFailed
  | partitionWriteFailedData
  | badLengthUpgradeHeader
  | badLengthSignature
  | badLengthDatahdrResume
  | unknownId
  | wrongPartitionNumber
  | partitionTypeNotMatching
  deriving DecidableEq, Repr

structure StreamSource where
  partition : Nat
  position : Nat
  deriving DecidableEq, Repr

structure FlashStreams where
  getSource : Nat → Bool
  getSourceFromOffset : Nat → Nat → Bool
  sourceSize : StreamSource → Nat
  sourceMap : StreamSource → Option (List UInt8)

/-- What is read from: the keys with the place up to which they are written, and the flash. -/
structure ReaderDevice where
  store : HeaderStore
  streams : FlashStreams

/-- `upgrade_partition_reader_data_ctx_t` -/
structure PartitionReader where
  handle : Option StreamSource
  pskey : Nat
  readOffset : Nat
  appHdrLength : Nat
  partDataLength : Nat
  footerLength : Nat
  partitionNumber : Nat
  sqifNumber : Nat
  state : PartitionDataState
  partitionOffset : Nat

/-- `PSKEY_MAX_STORAGE_LENGTH`, in words. -/
def pskeyMaxStorageLength : Nat := 32

/-- `UPGRADE_HEADER_MIN_SECOND_PART_SIZE` of the reader. -/
def headerMinSecondPartSize : Nat := 22

/-- An answer of the reader, with what it has put into the buffer. -/
structure Reading where
  status : ReadStatus
  data : List UInt8
  sentLength : Nat
  lastPacket : Bool
  reader : PartitionReader

/-- `upgradePartitionReader_ReadNextPartitionDataChunk`: the data, if it is mapped, how much of it
there is, and the source behind it. -/
def FlashStreams.readNextPartitionDataChunk (streams : FlashStreams) (source : StreamSource)
    (reqLen : Nat) : Option (List UInt8) × Nat × StreamSource :=
  let populated := min (streams.sourceSize source) reqLen
  match streams.sourceMap source with
  | none => (none, populated, source)
  | some data =>
      (some (data.take populated), populated,
        { source with position := source.position + populated })

namespace PartitionReader

/-- The loop of `upgradePartitionReader_ReadNextPskeyDataChunk`, at most `rounds` times round.
Lengths are in words here, so that an odd number of bytes is read with one byte more. -/
def pskeyLoop (psKeys : PsKeys) :
    Nat → PartitionReader → Nat → Option (Bool × List UInt8 × PartitionReader)
  | 0, _, _ => none
  | rounds + 1, context, reqLen =>
      if reqLen = 0 then some (true, [], context)
      else
        let keyLength := (psKeys context.pskey).length / 2
        if keyLength = 0 then some (false, [], context)
        else if keyLength < context.readOffset then none
        else
          let readLen := min (keyLength - context.readOffset) (min reqLen keyLength)
          let data := ((psKeys context.pskey).drop (2 * context.readOffset)).take (2 * readLen)
          let readOffset := context.readOffset + readLen
          let context := if readOffset = pskeyMaxStorageLength then
              { context with readOffset := 0, pskey := context.pskey + 1 }
            else { context with readOffset := readOffset }
          (pskeyLoop psKeys rounds context (reqLen - readLen)).map
            fun (successful, rest, context) => (successful, data ++ rest, context)

/-- `upgradePartitionReader_ReadNextPskeyDataChunk`.  Each round but the last reads a word, or
there is no end of them. -/
def readNextPskeyDataChunk (psKeys : PsKeys) (context : PartitionReader) (reqLen : Nat) :
    Option (Bool × List UInt8 × PartitionReader) :=
  if context.pskey > dfuHeaderPskeyEnd ∨ reqLen = 0 then some (false, [], context)
  else pskeyLoop psKeys (reqLen + 1) context reqLen

/-- `upgradePartitionReader_IsDataAvailableInPskeys`.  The difference of the keys is a `uint8`, and
the size that can be read a `uint16`. -/
def isDataAvailableInPskeys (store : HeaderStore) (context : PartitionReader) (size : Nat) : Bool :=
  let diffLen := (store.dfuHeaderPskey - context.pskey) % 2 ^ 8
  let keyLength := (store.psKeys context.pskey).length / 2
  let readableSize := (diffLen * pskeyMaxStorageLength + store.dfuHeaderPskeyOffset / 2 + 2 ^ 16 -
    context.readOffset) % 2 ^ 16
  if store.dfuHeaderPskey < context.pskey then false
  else if diffLen = 0 ∧ store.dfuHeaderPskeyOffset / 2 < context.readOffset then false
  else !(decide (readableSize < size) || decide (context.readOffset = keyLength))

def enterPart (data : List UInt8) (length : Nat) (context : PartitionReader) :
    ReadStatus × PartitionReader :=
  if idField data = idField headerID then
    let context := { context with appHdrLength := length % 2 ^ 16 }
    if context.appHdrLength < headerMinSecondPartSize then (.badLengthUpgradeHeader, context)
    else (.success, { context with state := .header })
  else if idField data = idField partitionID then
    let context := { context with partDataLength := length }
    if context.partDataLength < partitionSecondHeaderSize then (.badLengthUpgradeHeader, context)
    else (.success, { context with state := .dataHeader })
  else if idField data = idField footerID then
    let context := { context with footerLength := length % 2 ^ 16 }
    if context.footerLength ≠ expectedSignatureSize then (.badLengthSignature, context)
    else (.success, { context with state := .footer })
  else (.unknownId, context)

def readHeader (device : ReaderDevice) (context : PartitionReader) (reqLen readLen : Nat)
    (failed : ReadStatus)
    (handle : List UInt8 → PartitionReader → Option (ReadStatus × Bool × PartitionReader)) :
    Option Reading :=
  if context.isDataAvailableInPskeys device.store (bytesToWords reqLen) = false then
    some ⟨.internalErrorInsufficientPskey, [], reqLen, false, context⟩
  else
    (context.readNextPskeyDataChunk device.store.psKeys (bytesToWords readLen)).bind
      fun (successful, data, context) =>
        if successful = false then some ⟨failed, data, reqLen, false, context⟩
        else
          (handle data context).map fun (status, lastPacket, context) =>
            ⟨status, data, reqLen, lastPacket, context⟩

def handleGeneric1stPartState (device : ReaderDevice) (context : PartitionReader) (reqLen : Nat) :
    Option Reading :=
  if reqLen < headerFirstPartSize then some ⟨.badLengthTooShort, [], reqLen, false, context⟩
  else
    context.readHeader device reqLen reqLen .partitionOpenFailed fun data context =>
      (get4Bytes data idFieldSize).map fun length =>
        let (status, context) := context.enterPart data length
        (status, false, context)

def handleHeaderState (device : ReaderDevice) (context : PartitionReader) (reqLen : Nat) :
    Option Reading :=
  context.readHeader device reqLen reqLen .partitionWriteFailedData fun _ context =>
    some (.success, false, { context with state := .generic1stPart })

/-- What `upgradePartitionReader_HandleDataHeaderState` makes of the header of a partition. -/
def enterPartition (data : List UInt8) (context : PartitionReader) :
    Option (ReadStatus × Bool × PartitionReader) :=
  match get2Bytes data 0, get2Bytes data 2 with
  | some sqifNumber, some partitionNumber =>
      let context := { context with
        partDataLength := sub32 (sub32 context.partDataLength partitionSecondHeaderSize)
          firstWordSize
        sqifNumber := sqifNumber
        partitionNumber := partitionNumber }
      if isValidPartitionNum partitionNumber = false then
        some (.wrongPartitionNumber, false, context)
      else if isValidSqifNum sqifNumber = false then
        some (.partitionTypeNotMatching, false, context)
      else some (.success, false, { context with state := .data })
  | _, _ => none

def handleDataHeaderState (device : ReaderDevice) (context : PartitionReader) (reqLen : Nat) :
    Option Reading :=
  if reqLen < partitionSecondHeaderSize + firstWordSize then
    some ⟨.badLengthDatahdrResume, [], reqLen, false, context⟩
  else
    context.readHeader device reqLen (partitionSecondHeaderSize + firstWordSize)
      .partitionWriteFailedData enterPartition

def resumeData (device : ReaderDevice) (context : PartitionReader) (partOffset : Nat) :
    ReadStatus × PartitionReader :=
  if partOffset = 0 then (.success, context)
  else
    let offset := (partOffset + firstWordSize) % 2 ^ 32
    if device.streams.getSourceFromOffset context.partitionNumber offset = false then
      (.partitionOpenFailed, { context with handle := none })
    else
      (.success, { context with
          handle := some ⟨context.partitionNumber, offset⟩
          partDataLength := sub32 context.partDataLength partOffset })

/-- A source for the data, unless there is one.  The first word is skipped, which has been copied
from the keys. -/
def openData (device : ReaderDevice) (context : PartitionReader) : ReadStatus × PartitionReader :=
  match context.handle with
  | some _ => (.success, context)
  | none =>
      if device.streams.getSource context.partitionNumber = false then
        (.partitionOpenFailed, context)
      else
        match device.streams.readNextPartitionDataChunk ⟨context.partitionNumber, 0⟩
            firstWordSize with
        | (none, _, _) => (.partitionWriteFailedData, context)
        | (some _, _, source) => (.success, { context with handle := some source })

/-- The end of `upgradePartitionReader_HandleDataState`, with an open source. -/
def readData (device : ReaderDevice) (context : PartitionReader) (source : StreamSource)
    (reqLen : Nat) : Reading :=
  match device.streams.readNextPartitionDataChunk source (min context.partDataLength reqLen) with
  | (none, sentLength, _) =>
      ⟨.partitionWriteFailedData, [], sentLength, false, { context with handle := none }⟩
  | (some data, sentLength, source) =>
      let context := { context with
        handle := some source
        partDataLength := sub32 context.partDataLength sentLength }
      let context := if context.partDataLength = 0 then
          { context with state := .generic1stPart, handle := none }
        else context
      ⟨.success, data, sentLength, false, context⟩

def handleDataState (device : ReaderDevice) (context : PartitionReader) (reqLen partOffset : Nat) :
    Option Reading :=
  if partOffset ≠ 0 ∧ partOffset = context.partDataLength then
    handleGeneric1stPartState device { context with handle := none } reqLen
  else
    let (resumed, context) := context.resumeData device partOffset
    if resumed ≠ .success then some ⟨resumed, [], 0, false, context⟩
    else
      let (opened, context) := context.openData device
      match context.handle with
      | none => some ⟨opened, [], 0, false, context⟩
      | some source => some (context.readData device source reqLen)

def handleFooterState (device : ReaderDevice) (context : PartitionReader) (reqLen : Nat) :
    Option Reading :=
  context.readHeader device reqLen reqLen .partitionWriteFailedData fun _ context =>
    let footerLength := (context.footerLength + 2 ^ 32 - reqLen) % 2 ^ 16
    some (.success, decide (footerLength = 0), { context with footerLength := footerLength })

/-- `UpgradePartitionReader_ReadData` -/
def readRequest (device : ReaderDevice) (context : PartitionReader) (reqLen offset : Nat) :
    Option Reading :=
  match context.state with
  | .generic1stPart => context.handleGeneric1stPartState device reqLen
  | .header => context.handleHeaderState device reqLen
  | .dataHeader => context.handleDataHeaderState device reqLen
  | .data => context.handleDataState device reqLen offset
  | .footer => context.handleFooterState device reqLen

end PartitionReader

namespace PartitionReader

variable {before : PsKeys} {device : ReaderDevice} {log : List UInt8} {context : PartitionReader}
  {count position : Nat}

def movedTo (context : PartitionReader) (count : Nat) : PartitionReader :=
  { context with
    pskey := dfuHeaderPskeyStart + count / pskeyMaxStorageLengthInBytes
    readOffset := count % pskeyMaxStorageLengthInBytes / 2 }

theorem pskeyLoop_movedTo (holds : Holds before device.store log position) {rounds words : Nat}
    (even : count % 2 = 0) (inside : count + 2 * words ≤ log.length) (enough : words < rounds)
    (context : PartitionReader) :
    pskeyLoop device.store.psKeys rounds (context.movedTo count) words =
      some (true, (log.drop count).take (2 * words), context.movedTo (count + 2 * words)) := by
  induction rounds generalizing count words context with
  | zero => exact absurd enough (Nat.not_lt_zero _)
  | succ rounds ih =>
    by_cases nothing : words = 0
    · subst nothing
      rw [pskeyLoop, if_pos rfl]
      rfl
    have fits := holds.fits
    have evenLog := holds.even
    have key : device.store.psKeys (context.movedTo count).pskey =
        Segments.segmentAt 64 log (count / 64) := holds.keys (count / 64) (by omega)
    have length := Segments.length_segment 64 log (count / 64)
    have offset : (context.movedTo count).readOffset = count % 64 / 2 := rfl
    obtain ⟨readLen, isReadLen⟩ : ∃ readLen,
        min ((Segments.segmentAt 64 log (count / 64)).length / 2 - count % 64 / 2)
          (min words ((Segments.segmentAt 64 log (count / 64)).length / 2)) = readLen :=
      ⟨_, rfl⟩
    have next : (if count % 64 / 2 + readLen = pskeyMaxStorageLength then
          { context.movedTo count with
            readOffset := 0
            pskey := (context.movedTo count).pskey + 1 }
        else { context.movedTo count with readOffset := count % 64 / 2 + readLen }) =
        context.movedTo (count + 2 * readLen) := by
      rw [movedTo, movedTo, pskeyMaxStorageLength, pskeyMaxStorageLengthInBytes]
      split
      · rw [PartitionReader.mk.injEq]
        refine ⟨rfl, ?_, by omega, rfl, rfl, rfl, rfl, rfl, rfl, rfl⟩
        change 510 + count / 64 + 1 = 510 + (count + 2 * readLen) / 64
        omega
      · rw [PartitionReader.mk.injEq]
        refine ⟨rfl, ?_, by omega, rfl, rfl, rfl, rfl, rfl, rfl, rfl⟩
        change 510 + count / 64 = 510 + (count + 2 * readLen) / 64
        omega
    have data : ((Segments.segmentAt 64 log (count / 64)).drop (2 * (count % 64 / 2))).take
        (2 * readLen) = (log.drop count).take (2 * readLen) := by
      rw [Segments.segmentAt, List.drop_take, List.take_take, Nat.min_eq_left (by omega),
        List.drop_drop, show 64 * (count / 64) + 2 * (count % 64 / 2) = count by omega]
    have rest := @ih (count + 2 * readLen) (words - readLen) (by omega) (by omega) (by omega)
      context
    rw [pskeyLoop, if_neg nothing]
    dsimp only
    rw [key, offset, if_neg (by omega), if_neg (by omega), isReadLen, next, rest, data,
      Option.map_some]
    dsimp only
    rw [← List.drop_drop, ← List.take_add, show 2 * readLen + 2 * (words - readLen) = 2 * words by
      omega, show count + 2 * readLen + 2 * (words - readLen) = count + 2 * words by omega]

section

variable (holds : Holds before device.store log log.length) (even : count % 2 = 0)

include holds even

theorem isDataAvailableInPskeys_movedTo {size : Nat} (positive : 0 < size)
    (inside : count + 2 * size ≤ log.length) (context : PartitionReader) :
    (context.movedTo count).isDataAvailableInPskeys device.store size = true := by
  have fits := holds.fits
  have evenLog := holds.even
  have key : device.store.psKeys (context.movedTo count).pskey =
      Segments.segmentAt 64 log (count / 64) := holds.keys (count / 64) (by omega)
  have length := Segments.length_segment 64 log (count / 64)
  have offset : (context.movedTo count).readOffset = count % 64 / 2 := rfl
  have pskey : (context.movedTo count).pskey = 510 + count / 64 := rfl
  have writeKey := holds.pskey
  have writeOffset := holds.offset
  rw [isDataAvailableInPskeys, key, offset, pskey, pskeyMaxStorageLength, writeKey, writeOffset]
  rw [if_neg (by omega), if_neg (by omega), Bool.not_eq_true', Bool.or_eq_false_iff,
    decide_eq_false_iff_not, decide_eq_false_iff_not]
  exact ⟨by omega, by omega⟩

theorem readHeader_movedTo {reqLen readLen : Nat} (evenReq : reqLen % 2 = 0)
    (evenRead : readLen % 2 = 0) (positive : 0 < readLen) (less : readLen ≤ reqLen)
    (inside : count + reqLen ≤ log.length) (context : PartitionReader) (failed : ReadStatus)
    (handle : List UInt8 → PartitionReader → Option (ReadStatus × Bool × PartitionReader)) :
    (context.movedTo count).readHeader device reqLen readLen failed handle =
      (handle ((log.drop count).take readLen) (context.movedTo (count + readLen))).map fun answer =>
        ⟨answer.1, (log.drop count).take readLen, reqLen, answer.2.1, answer.2.2⟩ := by
  have wordsReq := two_mul_bytesToWords reqLen
  have wordsRead := two_mul_bytesToWords readLen
  have fits := holds.fits
  have available := isDataAvailableInPskeys_movedTo holds even
    (by omega : 0 < bytesToWords reqLen) (by omega) context
  have inKeys : ¬ ((context.movedTo count).pskey > dfuHeaderPskeyEnd ∨
      bytesToWords readLen = 0) := by
    change ¬ (510 + count / 64 > 519 ∨ bytesToWords readLen = 0)
    omega
  rw [readHeader, available, if_neg Bool.noConfusion, readNextPskeyDataChunk, if_neg inKeys,
    pskeyLoop_movedTo holds even (by omega) (Nat.lt_succ_self _), Option.bind_some]
  dsimp only
  rw [if_neg Bool.noConfusion, wordsRead, evenRead, Nat.add_zero]

end

end PartitionReader

structure FlashStreams.Work (streams : FlashStreams) (sections : Nat → List UInt8) : Prop where
  getSource : ∀ partition, streams.getSource partition = true
  getSourceFromOffset : ∀ partition offset, offset ≤ (sections partition).length →
    streams.getSourceFromOffset partition offset = true
  sourceMap : ∀ source, ∃ data, streams.sourceMap source = some data ∧
    streams.sourceSize source ≤ data.length ∧
    data.take (streams.sourceSize source) <+:
      (sections source.partition).drop source.position
  more : ∀ source, source.position < (sections source.partition).length →
    0 < streams.sourceSize source
  word : ∀ partition, firstWordSize ≤ (sections partition).length →
    firstWordSize ≤ streams.sourceSize ⟨partition, 0⟩

structure InData (component : Component) (done : Nat) (reader : PartitionReader) : Prop where
  handle : reader.handle = some ⟨component.partNum, firstWordSize + done⟩
  partDataLength : reader.partDataLength = component.data.length - done
  state : reader.state = .data
  more : done < component.data.length

section Data

variable {streams : FlashStreams} {sections : Nat → List UInt8} {device : ReaderDevice}
  {component : Component} {reader : PartitionReader} {done reqLen : Nat}

theorem FlashStreams.Work.readNextPartitionDataChunk (work : streams.Work sections)
    (source : StreamSource) (reqLen : Nat) :
    ∃ populated, streams.readNextPartitionDataChunk source reqLen =
        (some (((sections source.partition).drop source.position).take populated), populated,
          { source with position := source.position + populated }) ∧
      populated = min (streams.sourceSize source) reqLen := by
  obtain ⟨data, mapped, enough, start⟩ := work.sourceMap source
  have same := List.prefix_iff_eq_take.mp start
  rw [List.length_take, Nat.min_eq_left enough] at same
  have cut : data.take (min (streams.sourceSize source) reqLen) =
      ((sections source.partition).drop source.position).take
        (min (streams.sourceSize source) reqLen) := by
    have both := congrArg (List.take (min (streams.sourceSize source) reqLen)) same
    rwa [List.take_take, List.take_take, Nat.min_eq_left (Nat.min_le_left _ _)] at both
  refine ⟨min (streams.sourceSize source) reqLen, ?_, rfl⟩
  rw [FlashStreams.readNextPartitionDataChunk, mapped]
  dsimp only
  rw [cut]

namespace PartitionReader

structure ReadsData (component : Component) (done reqLen : Nat) (reader : PartitionReader)
    (reading : Reading) : Prop where
  status : reading.status = .success
  lastPacket : reading.lastPacket = false
  some : 0 < reqLen → 0 < reading.sentLength
  short : reading.sentLength ≤ reqLen
  within : done + reading.sentLength ≤ component.data.length
  data : reading.data = (component.data.drop done).take reading.sentLength
  keys : reading.reader.pskey = reader.pskey ∧ reading.reader.readOffset = reader.readOffset
  more : done + reading.sentLength < component.data.length →
    InData component (done + reading.sentLength) reading.reader
  all : done + reading.sentLength = component.data.length →
    reading.reader.state = .generic1stPart ∧ reading.reader.handle = none

theorem readData_inData (work : device.streams.Work sections)
    (stored : putFirstWord component.firstWord ++ component.data <+: sections component.partNum)
    (small : component.data.length < 2 ^ 32) (inData : InData component done reader) :
    ∃ source, reader.handle = some source ∧
      ReadsData component done reqLen reader (reader.readData device source reqLen) := by
  have more := inData.more
  have four : (putFirstWord component.firstWord).length = firstWordSize := rfl
  obtain ⟨source, isSource⟩ : ∃ source : StreamSource,
      source = ⟨component.partNum, firstWordSize + done⟩ := ⟨_, rfl⟩
  have partition : source.partition = component.partNum := by rw [isSource]
  have place : source.position = firstWordSize + done := by rw [isSource]
  obtain ⟨behind, whole⟩ := stored
  have rest : (sections source.partition).drop source.position =
      component.data.drop done ++ behind := by
    rw [partition, place, ← whole, List.append_assoc, ← four, ← List.drop_drop, List.drop_left,
      List.drop_append_of_le_length (Nat.le_of_lt more)]
  have available : 0 < device.streams.sourceSize source := by
    refine work.more source ?_
    have length := congrArg List.length rest
    rw [List.length_drop, List.length_append, List.length_drop] at length
    omega
  obtain ⟨populated, read, isPopulated⟩ := work.readNextPartitionDataChunk source
    (min reader.partDataLength reqLen)
  have length := inData.partDataLength
  have within : populated ≤ (component.data.drop done).length := by
    rw [List.length_drop]
    omega
  have left : sub32 (component.data.length - done) populated =
      component.data.length - (done + populated) := by
    rw [UpgradeCtx.sub32_eq (by omega) (by omega)]
    omega
  rw [rest, List.take_append_of_le_length within] at read
  rw [List.length_drop] at within
  refine ⟨source, inData.handle.trans (congrArg some isSource.symm), ?_⟩
  rw [readData, read]
  dsimp only
  rw [length, left]
  by_cases all : component.data.length - (done + populated) = 0
  · rw [if_pos all]
    exact ⟨rfl, rfl, fun _ => by dsimp only; omega, by dsimp only; omega, by dsimp only; omega, rfl,
      ⟨rfl, rfl⟩, fun goesOn => by dsimp only at goesOn; omega, fun _ => ⟨rfl, rfl⟩⟩
  · rw [if_neg all, place, partition, Nat.add_assoc]
    exact ⟨rfl, rfl, fun _ => by dsimp only; omega, by dsimp only; omega, by dsimp only; omega, rfl,
      ⟨rfl, rfl⟩, fun goesOn => ⟨rfl, rfl, inData.state, goesOn⟩,
      fun whole => by dsimp only at whole; omega⟩

end PartitionReader

end Data

end HeadsetAdk.UpgradePeer
