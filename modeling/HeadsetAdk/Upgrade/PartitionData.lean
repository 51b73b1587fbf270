import HeadsetAdk.Upgrade.HeaderStore
import Mathlib.Algebra.Group.Nat.Defs

/-!
# The parser of upgrade files

The state machine of `upgrade_partition_data.c` and its handlers in
`upgrade_partition_data_config.c`.  An answer `none` stands for reads and writes outside of memory,
and for a loop that does not end.
-/

namespace HeadsetAdk.Upgrade

inductive PartitionDataState
  | generic1stPart
  | header
  | dataHeader
  | data
  | footer
  deriving DecidableEq, Repr

/-- What happens to the flash.  The first word is kept until the partition is closed. -/
inductive FlashEvent
  | opened (partition firstWord : Nat)
  | wrote (partition : Nat) (byte : UInt8)
  | closed (partition : Nat)
  deriving DecidableEq, Repr

abbrev Flash := List FlashEvent

def headerFirstPartSize : Nat := 12

def idFieldSize : Nat := 8

def partitionSecondHeaderSize : Nat := 4

def firstWordSize : Nat := 4

def upgradeHeaderMinSecondPartSize : Nat := 14

def expectedSignatureSize : Nat := 256

def maxPartitionDataBlockSize : Nat := 48

/-- `APPUHDR5` -/
def headerID : List UInt8 := [0x41, 0x50, 0x50, 0x55, 0x48, 0x44, 0x52, 0x35]

/-- `EXTUHDR1` -/
def extCaseDfuFileHeader : List UInt8 := [0x45, 0x58, 0x54, 0x55, 0x48, 0x44, 0x52, 0x31]

/-- `PARTDATA` -/
def partitionID : List UInt8 := [0x50, 0x41, 0x52, 0x54, 0x44, 0x41, 0x54, 0x41]

/-- `APPUPFTR` -/
def footerID : List UInt8 := [0x41, 0x50, 0x50, 0x55, 0x50, 0x46, 0x54, 0x52]

structure Firmware where
  deviceVariant : List UInt8
  caseSupported : Bool
  physPartitionSize : Nat → Nat
  streamGetSink : Flash → Nat → Nat → Bool
  sinkGetPosition : Flash → Nat → Nat
  sinkSlack : Flash → Nat → Nat
  /-- Whether so many bytes can be claimed and flushed. -/
  sinkFlush : Flash → Nat → Nat → Bool
  sinkClose : Flash → Nat → Bool
  psSpaceForCriticalOperations : PsKeys → Bool
  psStore : StoreRoom
  /-- The memory for the signature, if there is some. -/
  malloc : Option (List UInt8)
  malloc_length : ∀ memory, malloc = some memory → memory.length = expectedSignatureSize

structure LibPsKeys where
  version : Nat × Nat
  configVersion : Nat
  versionInProgress : Nat × Nat
  configVersionInProgress : Nat
  /-- Whether `state_of_partitions` is `UPGRADE_PARTITIONS_UPGRADING`. -/
  upgrading : Bool
  lastClosedPartition : Nat
  dfuPartitionNum : Nat
  deriving DecidableEq, Repr

inductive MainTaskMessage
  | caseDfuEarbudImageInd
  | caseDfuCaseImageInd
  deriving DecidableEq, Repr

/-- `UpgradePartitionDataCtx`, and what the parser uses of the contexts of the library. -/
structure UpgradeCtx where
  newReqSize : Nat
  totalReqSize : Nat
  totalReceivedSize : Nat
  chunkReceivedSize : Nat
  offset : Nat
  incompleteData : List UInt8
  state : PartitionDataState
  partitionHdl : Option Nat
  partitionLength : Nat
  signature : Option (List UInt8)
  signatureReceived : Nat
  openNextPartition : Bool
  isUpgradeHdrAvailable : Bool
  /-- The persistent store, and the place in the keys of the headers. -/
  headerStore : HeaderStore
  /-- `partitionNum` of `UpgradeFWIFCtx` -/
  partitionNum : Nat
  partitionMap : Nat
  psKeys : LibPsKeys
  savedPsKeys : LibPsKeys
  signingMode : UInt8
  dfuFileOffset : Nat
  isDataXferComplete : Bool
  caseDfuHeaderLength : Nat
  caseDfuInProgress : Bool
  mainTask : List MainTaskMessage
  flash : Flash
  /-- The sizes and offsets of the requests so far. -/
  requests : List (Nat × Nat)

/-- A difference of `uint32`. -/
def sub32 (left right : Nat) : Nat := (left + 2 ^ 32 - right) % 2 ^ 32

/-- `ByteUtilsGet2BytesFromStream` -/
def get2Bytes (data : List UInt8) (at' : Nat) : Option Nat :=
  match data[at']?, data[at' + 1]? with
  | some high, some low => some (high.toNat * 2 ^ 8 + low.toNat)
  | _, _ => none

/-- `ByteUtilsGet4BytesFromStream` -/
def get4Bytes (data : List UInt8) (at' : Nat) : Option Nat :=
  match get2Bytes data at', get2Bytes data (at' + 2) with
  | some high, some low => some (high * 2 ^ 16 + low)
  | _, _ => none

def getFirstWord (data : List UInt8) (at' : Nat) : Option Nat :=
  match data[at']?, data[at' + 1]?, data[at' + 2]?, data[at' + 3]? with
  | some byte0, some byte1, some byte2, some byte3 =>
      some (byte3.toNat * 2 ^ 24 + byte2.toNat * 2 ^ 16 + byte1.toNat * 2 ^ 8 + byte0.toNat)
  | _, _, _, _ => none

/-- What `strncmp` compares of strings, up to the size of an identifier. -/
def idField (data : List UInt8) : List UInt8 := (data.take idFieldSize).takeWhile (· ≠ 0)

def isValidPartitionNum (partNum : Nat) : Bool := partNum ≤ 7 ∨ (9 ≤ partNum ∧ partNum ≤ 0xc)

def isValidSqifNum (sqifNum : Nat) : Bool := sqifNum = 0

namespace UpgradeCtx

def requestData (ctx : UpgradeCtx) (size offset : Nat) : UpgradeCtx :=
  { ctx with
    totalReqSize := size
    newReqSize := size
    totalReceivedSize := 0
    chunkReceivedSize := 0
    offset := offset
    requests := ctx.requests ++ [(size, offset)] }

/-- `UpgradeSaveHeaderInPSKeys`, with what the buffer on the stack holds. -/
def saveHeader (firmware : Firmware) (keyCache : List UInt8) (ctx : UpgradeCtx)
    (data : List UInt8) : Option (HostErrorCode × UpgradeCtx) :=
  (ctx.headerStore.saveHeaderInPSKeys firmware.psStore keyCache data).map fun (code, store) =>
    (code, { ctx with headerStore := store })

/-- `UpgradeSaveHeaderInPSKeys`, and what is next if it succeeds. -/
def saveHeaderThen (firmware : Firmware) (keyCache : List UInt8) (ctx : UpgradeCtx)
    (data : List UInt8) (next : UpgradeCtx → HostErrorCode × UpgradeCtx) :
    Option (HostErrorCode × UpgradeCtx) :=
  (ctx.saveHeader firmware keyCache data).map fun (code, ctx) =>
    if code ≠ .success then (code, ctx) else next ctx

/-- The next header goes to the first of the keys. -/
def restartHeaders (ctx : UpgradeCtx) : UpgradeCtx :=
  { ctx with
    headerStore :=
      { ctx.headerStore with dfuHeaderPskey := dfuHeaderPskeyStart, dfuHeaderPskeyOffset := 0 } }

/-- `UpgradeSavePSKeys` after a change of the key of the library. -/
def savePsKeys (ctx : UpgradeCtx) (psKeys : LibPsKeys) : UpgradeCtx :=
  { ctx with psKeys := psKeys, savedPsKeys := psKeys }

def partitionClose (firmware : Firmware) (ctx : UpgradeCtx) : HostErrorCode × UpgradeCtx :=
  match ctx.partitionHdl with
  | none => (.success, ctx)
  | some partition =>
      if firmware.psSpaceForCriticalOperations ctx.headerStore.psKeys = false then
        (.partitionCloseFailedPsSpace, ctx)
      else if firmware.sinkClose ctx.flash partition = false then (.partitionCloseFailed, ctx)
      else
        (.success, { ctx.savePsKeys { ctx.psKeys with
              lastClosedPartition := (ctx.partitionNum + 1) % 2 ^ 16 } with
            flash := ctx.flash ++ [.closed partition] })

/-- The loop of `UpgradeFWIFPartitionWrite`, at most `rounds` times round: the flash, and the
data that has not been written. -/
def partitionWriteLoop (firmware : Firmware) (partition : Nat) :
    Nat → Flash → List UInt8 → Option (Flash × List UInt8)
  | 0, flash, data => if data = [] then some (flash, []) else none
  | rounds + 1, flash, data =>
      if data = [] then some (flash, [])
      else
        let writeLen := min (firmware.sinkSlack flash partition) data.length
        if firmware.sinkFlush flash partition writeLen = true then
          partitionWriteLoop firmware partition rounds
            (flash ++ (data.take writeLen).map (.wrote partition)) (data.drop writeLen)
        else some (flash, data)

/-- The context with other events in the flash. -/
def withFlash (ctx : UpgradeCtx) (flash : Flash) : UpgradeCtx := { ctx with flash := flash }

/-- `UpgradeFWIFPartitionWrite`, which answers how many bytes were written.  As long as there
is slack, each round writes a byte at least. -/
def partitionWrite (firmware : Firmware) (ctx : UpgradeCtx) (data : List UInt8) :
    Option (Nat × UpgradeCtx) :=
  match ctx.partitionHdl with
  | none => some (0, ctx)
  | some partition =>
      (partitionWriteLoop firmware partition data.length ctx.flash data).map
        fun (flash, remaining) => (data.length - remaining.length, ctx.withFlash flash)

/-- The loop over the compatible versions of the header. -/
def findVersion (data : List UInt8) (version : Nat × Nat) : Nat → Nat → Option Bool
  | 0, _ => some false
  | count + 1, at' =>
      match get2Bytes data at', get2Bytes data (at' + 2) with
      | some major, some minor =>
          if major = version.1 ∧ (minor = version.2 ∨ minor = 0xFFFF) then some true
          else findVersion data version count (at' + 4)
      | _, _ => none

def findConfigVersion (data : List UInt8) (configVersion : Nat) : Nat → Nat → Option Bool
  | 0, _ => some false
  | count + 1, at' =>
      match get2Bytes data at' with
      | some version =>
          if version = configVersion then some true
          else findConfigVersion data configVersion count (at' + 2)
      | none => none

def checkHeader (firmware : Firmware) (psKeys : LibPsKeys) (data : List UInt8) :
    Option (Except HostErrorCode ((Nat × Nat) × Nat)) := do
  if data.length < idFieldSize + 4 + 2 then
    return .error .badLengthUpgradeHeader
  if firmware.deviceVariant.length > 0 ∧ idField data ≠ idField firmware.deviceVariant then
    return .error .wrongVariant
  let major ← get2Bytes data idFieldSize
  let minor ← get2Bytes data (idFieldSize + 2)
  let compatibleVersions ← get2Bytes data (idFieldSize + 4)
  if data.length < idFieldSize + 6 + 4 * compatibleVersions + 2 + 2 then
    return .error .badLengthUpgradeHeader
  let psconfigVersions ← get2Bytes data (idFieldSize + 6 + 4 * compatibleVersions + 2)
  let pktSize :=
    (idFieldSize + 4 + 2 + 4 * compatibleVersions + 4 + 2 * psconfigVersions + 2) % 2 ^ 16
  if data.length ≠ pktSize then
    return .error .badLengthUpgradeHeader
  let compatible ← findVersion data psKeys.version compatibleVersions (idFieldSize + 6)
  if compatible = false then
    return .error .warnAppConfigVersionIncompatible
  let newPSVersion ← get2Bytes data (idFieldSize + 6 + 4 * compatibleVersions)
  if psKeys.configVersion ≠ newPSVersion then
    let compatibleConfig ← findConfigVersion data psKeys.configVersion psconfigVersions
      (idFieldSize + 6 + 4 * compatibleVersions + 4)
    if compatibleConfig = false then
      return .error .warnAppConfigVersionIncompatible
  return .ok ((major, minor), newPSVersion)

/-- `UpgradePartitionDataHandleHeaderState`, once the request is complete. -/
def handleHeaderState (firmware : Firmware) (keyCache : List UInt8) (ctx : UpgradeCtx)
    (data : List UInt8) : Option (HostErrorCode × UpgradeCtx) :=
  match checkHeader firmware ctx.psKeys data with
  | none => none
  | some (.error code) => some (code, ctx)
  | some (.ok (newVersion, newPSVersion)) =>
      let upgrading := ctx.savePsKeys { ctx.psKeys with
        versionInProgress := newVersion
        configVersionInProgress := newPSVersion
        upgrading := true }
      upgrading.saveHeaderThen firmware keyCache data fun ctx =>
        (.success, { ctx.requestData headerFirstPartSize 0 with
            state := .generic1stPart
            signingMode := data.getLastD 0 })

def partitionOpen (firmware : Firmware) (ctx : UpgradeCtx) (physPartition firstWord : Nat) :
    UpgradeCtx :=
  if firmware.streamGetSink ctx.flash physPartition firstWord = true then
    { ctx with
      partitionHdl := some physPartition
      partitionNum := physPartition
      flash := ctx.flash ++ [.opened physPartition firstWord] }
  else ctx

def ensureOpen (firmware : Firmware) (ctx : UpgradeCtx) (partNum firstWord : Nat) : UpgradeCtx :=
  if ctx.partitionHdl = none then ctx.partitionOpen firmware partNum firstWord
  else { ctx with partitionNum := partNum }

/-- The end of `UpgradePartitionDataHandleDataHeaderState`, with the partition open. -/
def startPartition (firmware : Firmware) (ctx : UpgradeCtx) (partition : Nat) :
    HostErrorCode × UpgradeCtx :=
  let offset := firmware.sinkGetPosition ctx.flash partition
  if (offset + firstWordSize) % 2 ^ 32 < ctx.partitionLength then
    (.success,
      { ctx.requestData (sub32 (sub32 ctx.partitionLength offset) firstWordSize) offset with
        state := .data })
  else if (offset + firstWordSize) % 2 ^ 32 = ctx.partitionLength then
    let (closeStatus, closed) := ctx.partitionClose firmware
    let ctx := { closed with partitionHdl := none }
    if closeStatus ≠ .success then (closeStatus, ctx)
    else
      (.success, { ctx.requestData headerFirstPartSize (sub32 offset firstWordSize) with
          openNextPartition := true
          state := .generic1stPart })
  else (.internalError3, ctx)

/-- `UpgradePartitionDataHandleDataHeaderState`, once the header is in the keys. -/
def handlePartition (firmware : Firmware) (ctx : UpgradeCtx) (partNum firstWord : Nat) :
    HostErrorCode × UpgradeCtx :=
  -- `UpgradeFWIFValidateUpdate` knows sixteen sections.
  if ¬ partNum < 16 then (.oemValidationFailedPartitionHeader1, ctx)
  else
    let ctx := { ctx with partitionMap := ctx.partitionMap ||| 1 <<< partNum }
    if ctx.psKeys.lastClosedPartition > partNum then
      (.success,
        { ctx.requestData headerFirstPartSize (sub32 ctx.partitionLength firstWordSize) with
          state := .generic1stPart
          partitionNum := partNum })
    else if ctx.partitionLength > firmware.physPartitionSize partNum then
      (.partitionSizeMismatch, ctx)
    else
      let ctx := ctx.ensureOpen firmware partNum firstWord
      match ctx.partitionHdl with
      | none => (.partitionOpenFailed, ctx)
      | some partition => ctx.startPartition firmware partition

/-- `UpgradePartitionDataHandleDataHeaderState`, once the request is complete. -/
def handleDataHeaderState (firmware : Firmware) (keyCache : List UInt8) (ctx : UpgradeCtx)
    (data : List UInt8) : Option (HostErrorCode × UpgradeCtx) :=
  if data.length < partitionSecondHeaderSize + firstWordSize then
    some (.badLengthDatahdrResume, ctx)
  else
    match get2Bytes data 0, get2Bytes data 2, getFirstWord data partitionSecondHeaderSize with
    | some sqifNum, some partNum, some firstWord =>
        if isValidPartitionNum partNum = false then some (.wrongPartitionNumber, ctx)
        else if isValidSqifNum sqifNum = false then some (.partitionTypeNotMatching, ctx)
        else
          ctx.saveHeaderThen firmware keyCache
            (data.take (partitionSecondHeaderSize + firstWordSize)) fun ctx =>
              ctx.handlePartition firmware partNum firstWord
    | _, _, _ => none

def startHeader (firmware : Firmware) (keyCache : List UInt8) (ctx : UpgradeCtx)
    (data : List UInt8) (length : Nat) : Option (HostErrorCode × UpgradeCtx) :=
  if length < upgradeHeaderMinSecondPartSize then some (.badLengthUpgradeHeader, ctx)
  else
    let ctx := if firmware.caseSupported = true then
        { ctx with mainTask := ctx.mainTask ++ [.caseDfuEarbudImageInd] }
      else ctx
    ctx.restartHeaders.saveHeaderThen firmware keyCache data fun ctx =>
      (.success,
        { (ctx.savePsKeys { ctx.psKeys with dfuPartitionNum := 0 }).requestData length 0 with
          state := .header
          isUpgradeHdrAvailable := true })

def startCaseFile (firmware : Firmware) (keyCache : List UInt8) (ctx : UpgradeCtx)
    (data : List UInt8) (length : Nat) : Option (HostErrorCode × UpgradeCtx) :=
  let ctx : UpgradeCtx := { ctx with
    caseDfuHeaderLength := length
    caseDfuInProgress := true
    mainTask := ctx.mainTask ++ [.caseDfuCaseImageInd] }
  ctx.restartHeaders.saveHeaderThen firmware keyCache data fun ctx =>
    (.success, ctx.requestData 0 0)

def startDataHeader (firmware : Firmware) (keyCache : List UInt8) (ctx : UpgradeCtx)
    (data : List UInt8) (length : Nat) : Option (HostErrorCode × UpgradeCtx) :=
  if ctx.partitionNum = 0 ∧ ctx.isUpgradeHdrAvailable = false then
    some (.badLengthUpgradeHeader, ctx)
  else if length < partitionSecondHeaderSize + firstWordSize then
    some (.badLengthPartitionHeader, ctx)
  else
    ctx.saveHeaderThen firmware keyCache data fun ctx =>
      (.success, { ctx.requestData (partitionSecondHeaderSize + firstWordSize) 0 with
          state := .dataHeader
          partitionLength := length - partitionSecondHeaderSize })

def startFooter (firmware : Firmware) (keyCache : List UInt8) (ctx : UpgradeCtx)
    (data : List UInt8) (length : Nat) : Option (HostErrorCode × UpgradeCtx) :=
  if length ≠ expectedSignatureSize then some (.badLengthSignature, ctx)
  else
    ctx.saveHeaderThen firmware keyCache data fun ctx =>
      let ctx : UpgradeCtx := { ctx.requestData length 0 with
        partitionLength := length
        signature := if ctx.signature = none then firmware.malloc else ctx.signature }
      if ctx.signature = none then (.oemValidationFailedMemory, ctx)
      else (.success, { ctx with state := .footer })

/-- `UpgradePartitionDataHandleGeneric1stPartState`, once the request is complete. -/
def handleGeneric1stPartState (firmware : Firmware) (keyCache : List UInt8) (ctx : UpgradeCtx)
    (data : List UInt8) : Option (HostErrorCode × UpgradeCtx) :=
  if data.length < headerFirstPartSize then some (.badLengthTooShort, ctx)
  else
    match get4Bytes data idFieldSize with
    | none => none
    | some length =>
        if idField data = idField headerID then ctx.startHeader firmware keyCache data length
        else if firmware.caseSupported = true ∧ idField data = idField extCaseDfuFileHeader then
          ctx.startCaseFile firmware keyCache data length
        else if idField data = idField partitionID then
          ctx.startDataHeader firmware keyCache data length
        else if idField data = idField footerID then
          ctx.startFooter firmware keyCache data length
        else some (.unknownId, ctx)

/-- The end of `UpgradePartitionDataHandleDataState`, when all data has been written. -/
def finishPartition (firmware : Firmware) (ctx : UpgradeCtx) : HostErrorCode × UpgradeCtx :=
  let requested : UpgradeCtx :=
    { ctx.requestData headerFirstPartSize 0 with state := .generic1stPart }
  let (closeStatus, closed) := requested.partitionClose firmware
  let ctx : UpgradeCtx := { closed with partitionHdl := none }
  if closeStatus ≠ .success then (closeStatus, ctx)
  else (.success, { ctx with openNextPartition := true })

def handleDataState (firmware : Firmware) (ctx : UpgradeCtx) (data : List UInt8)
    (reqComplete : Bool) : Option (HostErrorCode × UpgradeCtx) :=
  (ctx.partitionWrite firmware data).map fun (written, ctx) =>
    if data.length ≠ written then (.partitionWriteFailedData, ctx)
    else if reqComplete = true then ctx.finishPartition firmware
    else (.success, ctx)

/-- The context with more of the signature, by `UpgradePartitionDataCopyFromStream`. -/
def collectSignature (ctx : UpgradeCtx) (data : List UInt8) : UpgradeCtx :=
  { ctx with
    signature := ctx.signature.map fun signature => copyInto signature ctx.signatureReceived data
    signatureReceived := (ctx.signatureReceived + data.length) % 2 ^ 16 }

/-- The end of `upgradeHandleFooterState`. -/
def finishFooter (ctx : UpgradeCtx) (reqComplete : Bool) : HostErrorCode × UpgradeCtx :=
  if reqComplete = true then (.dataTransferComplete, { ctx with signatureReceived := 0 })
  else (.success, ctx)

def handleFooterState (firmware : Firmware) (keyCache : List UInt8) (ctx : UpgradeCtx)
    (data : List UInt8) (reqComplete : Bool) : Option (HostErrorCode × UpgradeCtx) :=
  if ctx.isDataXferComplete = true then some (ctx.finishFooter reqComplete)
  else
    (ctx.collectSignature data).saveHeaderThen firmware keyCache data fun ctx =>
      ctx.finishFooter reqComplete

/-- `upgradeParseCompleteData` with `reqComplete`. -/
def parseWhole (firmware : Firmware) (keyCache : List UInt8) (ctx : UpgradeCtx)
    (data : List UInt8) : Option (HostErrorCode × UpgradeCtx) :=
  match ctx.state with
  | .generic1stPart => ctx.handleGeneric1stPartState firmware keyCache data
  | .header => ctx.handleHeaderState firmware keyCache data
  | .dataHeader => ctx.handleDataHeaderState firmware keyCache data
  | .data => ctx.handleDataState firmware data true
  | .footer => ctx.handleFooterState firmware keyCache data true

/-- The context with other bytes in the buffer for headers in pieces. -/
def withIncomplete (ctx : UpgradeCtx) (bytes : List UInt8) : UpgradeCtx :=
  { ctx with incompleteData := bytes }

def parseIncomplete (firmware : Firmware) (keyCache : List UInt8) (ctx : UpgradeCtx)
    (data : List UInt8) : Option (HostErrorCode × UpgradeCtx) :=
  if data.length > maxPartitionDataBlockSize - ctx.incompleteData.length then
    some (.badLengthUpgradeHeader, ctx)
  else
    let collected := ctx.incompleteData ++ data
    if ctx.totalReceivedSize = ctx.totalReqSize then
      -- Nothing uses the buffer while complete data is parsed, so it is emptied before.
      (ctx.withIncomplete []).parseWhole firmware keyCache collected
    else some (.success, ctx.withIncomplete collected)

/-- `upgradeParseCompleteData` without `reqComplete`.  The handlers of the headers begin with a
call of `UpgradePartitionDataParseIncomplete` then. -/
def parsePart (firmware : Firmware) (keyCache : List UInt8) (ctx : UpgradeCtx)
    (data : List UInt8) : Option (HostErrorCode × UpgradeCtx) :=
  match ctx.state with
  | .generic1stPart | .header | .dataHeader => ctx.parseIncomplete firmware keyCache data
  | .data => ctx.handleDataState firmware data false
  | .footer => ctx.handleFooterState firmware keyCache data false

/-- The sizes with the data of a packet counted. -/
def receive (ctx : UpgradeCtx) (size : Nat) : UpgradeCtx :=
  { ctx with
    totalReceivedSize := (ctx.totalReceivedSize + size) % 2 ^ 32
    chunkReceivedSize := (ctx.chunkReceivedSize + size) % 2 ^ 32
    dfuFileOffset := (ctx.dfuFileOffset + size) % 2 ^ 32 }

def parse (firmware : Firmware) (keyCache : List UInt8) (ctx : UpgradeCtx)
    (data : List UInt8) : Option (HostErrorCode × UpgradeCtx) :=
  let ctx := ctx.receive data.length
  if ctx.totalReceivedSize > ctx.totalReqSize then some (.badLengthPartitionParse, ctx)
  else if ctx.incompleteData ≠ [] then ctx.parseIncomplete firmware keyCache data
  else if ctx.totalReceivedSize = ctx.totalReqSize then ctx.parseWhole firmware keyCache data
  else ctx.parsePart firmware keyCache data

/-- `UpgradePartitionDataGetNextReqSize`, where the transport has no largest size of a request. -/
def getNextReqSize (ctx : UpgradeCtx) : Nat × UpgradeCtx :=
  (ctx.newReqSize, { ctx with newReqSize := 0 })

/-- `UpgradePartitionDataInit` with a new `UpgradePartitionDataCtx`, which is all zero, when there
is nothing to resume. -/
def partitionDataInit (device : UpgradeCtx) : UpgradeCtx :=
  { device with
    incompleteData := []
    state := .generic1stPart
    partitionHdl := none
    partitionLength := 0
    signature := none
    signatureReceived := 0
    openNextPartition := false
    isUpgradeHdrAvailable := false
    headerStore := { device.headerStore with dfuHeaderPskey := 0, dfuHeaderPskeyOffset := 0 }
    partitionNum := 0
    partitionMap := 0
    requests := [] }.requestData headerFirstPartSize 0

end UpgradeCtx

end HeadsetAdk.Upgrade
