import HeadsetAdk.UpgradeSm.Context

/-!
# The data of an upgrade

How the state machine prepares the other flash bank, feeds the parser and checks the hash.  An
answer `none` stands for a null pointer that is used, for a panic, and for what the parser does
outside of memory.
-/

namespace HeadsetAdk.UpgradeSm

open Upgrade (UpgradeCtx HostErrorCode PartitionDataState sub32 headerFirstPartSize)

/-- The context with a new `UpgradePartitionDataCtx`, which is all zero. -/
def zeroPartitionData (ctx : UpgradeCtx) : UpgradeCtx :=
  { ctx with
    newReqSize := 0
    totalReqSize := 0
    totalReceivedSize := 0
    chunkReceivedSize := 0
    offset := 0
    incompleteData := []
    state := .generic1stPart
    partitionHdl := none
    partitionLength := 0
    signature := none
    signatureReceived := 0
    openNextPartition := false
    isUpgradeHdrAvailable := false
    headerStore := { ctx.headerStore with dfuHeaderPskey := 0, dfuHeaderPskeyOffset := 0 } }

/-- The part of `UpgradePartitionDataInit` for an update that was interrupted. -/
def requestRest (ctx : UpgradeCtx) : UpgradeCtx :=
  if ctx.isDataXferComplete = true ∧ ctx.totalReqSize = ctx.totalReceivedSize then
    -- No data is left, so the footer is requested again.
    let offset := sub32 ctx.dfuFileOffset ctx.partitionLength
    { ctx with dfuFileOffset := offset }.requestData ctx.partitionLength offset
  else if ctx.newReqSize = 0 then
    ctx.requestData (sub32 ctx.totalReqSize ctx.totalReceivedSize) ctx.dfuFileOffset
  else ctx

/-- The part of `UpgradePartitionDataInit` for the start of a file, or for the place that was
found after a reboot. -/
def requestFirst (ctx : UpgradeCtx) : UpgradeCtx :=
  let ctx := { ctx with partitionNum := 0 }
  if ctx.newReqSize = 0 then
    { ctx with state := .generic1stPart }.requestData headerFirstPartSize ctx.offset
  else ctx.requestData ctx.newReqSize ctx.offset

/-- The context with a part of the key cleared, by `UpgradeCtxClearPSKeys`. -/
def clearLibPsKeys (ctx : UpgradeCtx) : UpgradeCtx :=
  ctx.savePsKeys { ctx.psKeys with
    versionInProgress := (0, 0)
    configVersionInProgress := 0
    upgrading := false
    lastClosedPartition := 0
    dfuPartitionNum := 0 }

def clearHeaderPsKeys (ctx : UpgradeCtx) : UpgradeCtx :=
  { ctx with
    headerStore :=
      { ctx.headerStore with
        psKeys := fun key =>
          if Upgrade.dfuHeaderPskeyStart ≤ key ∧ key ≤ Upgrade.dfuHeaderPskeyEnd then []
          else ctx.headerStore.psKeys key } }

namespace Sm

def withCtx (s : Sm) (ctx : UpgradeCtx) : Sm := { s with ctx := ctx }

/-- `UpgradePartitionsEraseAllManaged`.  The other bank is empty then. -/
def partitionsEraseAllManaged (s : Sm) : Sm :=
  if s.keys.upgradeInProgressKey ≠ .erase then
    { s with ctx := s.ctx.withFlash [] }.record .imageUpgradeErase
  else s

/-- The allocation of `UpgradePartitionDataInit`, and `UpgradeFWIFValidateInit`. -/
def openPartitionData (s : Sm) : Sm :=
  let ctx := if s.partitionData = true then s.ctx else zeroPartitionData s.ctx
  { s with partitionData := true, ctx := { ctx with partitionMap := 0 } }

/-- Whether `UpgradePartitionDataInit` erases the other bank. -/
def erasesFirst (s : Sm) : Bool := !(s.ctx.psKeys.upgrading && !s.forceErase)

/-- `UpgradePartitionDataInit` where there is memory: whether to wait for an erase. -/
def partitionDataInit (s : Sm) : Bool × Sm :=
  let s := s.openPartitionData
  if s.erasesFirst = true then
    (true, (s.withCtx (requestFirst s.ctx)).partitionsEraseAllManaged)
  else (false, s.withCtx (requestRest s.ctx))

/-- The context that the parser leaves.  It is noted when the other bank is written. -/
def withParsed (s : Sm) (ctx : UpgradeCtx) : Sm :=
  if ctx.flash = s.ctx.flash then s.withCtx ctx else (s.withCtx ctx).record .partitionWritten

/-- `UpgradePartitionDataParse`.  It is noted when the data of a footer is complete. -/
def partitionDataParse (answers : Answers) (s : Sm) (data : List UInt8) :
    Option (HostErrorCode × Sm) :=
  if s.partitionData = true then
    (s.ctx.parse { answers.firmware with caseSupported := s.isCaseDfuSupported }
      answers.keyCache data).map fun (code, ctx) =>
        if code = .dataTransferComplete ∧ s.ctx.isDataXferComplete = false then
          (code, (s.withParsed ctx).record (.footer ctx.signature))
        else (code, s.withParsed ctx)
  else none

def partitionDataStopData (s : Sm) : Sm :=
  s.withCtx { s.ctx with
    totalReqSize := 0, newReqSize := 0, totalReceivedSize := 0, chunkReceivedSize := 0 }

/-- `SendBytesReq` with `UpgradePartitionDataGetNextReqSize`, where the transport has no largest
size of a request. -/
def requestBytes (s : Sm) : Sm :=
  (s.withCtx s.ctx.getNextReqSize.2).sendHost (.bytesReq s.ctx.getNextReqSize.1 s.ctx.offset)

/-- `UpgradeFWIFValidateFinish`.  If the hash can be finished, the signature is read. -/
def validateFinish (answers : Answers) (s : Sm) : Option (Bool × Sm) :=
  let passed := answers.validateFinish s.vctx
  if passed = true ∧ s.ctx.signature = none then none
  else some (passed, s.record (.validateFinish s.vctx s.ctx.signature passed))

def closePartition (answers : Answers) (s : Sm) : Sm :=
  if s.partitionData = true then
    s.withCtx { (s.ctx.partitionClose answers.firmware).2 with partitionHdl := none }
  else s

def partitionDataDestroy (s : Sm) : Sm :=
  { s with partitionData := false, ctx := { s.ctx with signature := none } }

def clearPsKeys (s : Sm) : Sm :=
  { s with keys := ⟨.start, 0, false⟩, ctx := clearLibPsKeys s.ctx }

def restoreResumePoint (s : Sm) (resumePoint : UpdateResumePoint) : Sm :=
  { s with keys := { s.keys with upgradeInProgressKey := resumePoint } }

/-- The flags that `UpgradeSMErase` resets for the next upgrade. -/
def resetProgress (s : Sm) : Sm :=
  { s with
    imageUpgradeCopyProgress := .notStarted
    imageUpgradeHashStatus := .notStarted
    ctx := { s.ctx with dfuFileOffset := 0, isDataXferComplete := false } }

def checkEraseComplete (s : Sm) : Bool :=
  s.keys.upgradeInProgressKey = .erase ∨ s.smState = .commit

/-- The hash context and the `UpgradePartitionDataCtx` are freed. -/
def freeData (answers : Answers) (s : Sm) : Sm :=
  { (s.cancelAll .internalCaseDfuReconnectionTimeout).closePartition answers with
    vctx := none }.partitionDataDestroy

def forgetUpgrade (s : Sm) : Sm :=
  let oldIpk := s.keys.upgradeInProgressKey
  let s := s.clearPsKeys.sendUpgradeOpsStatus .clearPeerPskeys noAction
  (s.withCtx (clearHeaderPsKeys s.ctx)).restoreResumePoint oldIpk

def eraseBank (s : Sm) : Sm :=
  (s.partitionsEraseAllManaged.restoreResumePoint .start).resetProgress

def erase (answers : Answers) (s : Sm) : Sm :=
  let s := (s.freeData answers).forgetUpgrade.eraseBank
  if s.checkEraseComplete = true then s.blockingOpIsDone else s

/-- The erase of `UpgradeSMAbort`, for which it needs permission. -/
def abortBank (answers : Answers) (s : Sm) : Sm :=
  let (permitted, s) := s.havePermissionToProceed .blockingInd
  if permitted = true then ((s.record .imageUpgradeAbortCommand).erase answers).setState .sync
  else s

/-- `UpgradeSMAbort`: whether the abort is asynchronous. -/
def abort (answers : Answers) (s : Sm) : Bool × Sm :=
  let s := { s with isValidated := 0 }
  if s.keys.idInProgress = 0 then (false, s)
  else if s.isImageRevertNeededOnAbort = true then
    (false, s.sendUpgradeOpsStatus .handleAbort noAction)
  else (true, (s.sendUpgradeOpsStatus .handleAbort noAction).abortBank answers)

def resetCaseDfu (s : Sm) : Sm :=
  { s with
    caseDfuAborting := false
    ctx := { s.ctx with caseDfuHeaderLength := 0, caseDfuInProgress := false } }

/-- What `UpgradeSmCleanUpCaseDfu` tells the application. -/
def endCaseDfu (s : Sm) (isError : Bool) : Sm :=
  if isError = false then s.sendApp .statusDone
  else if s.isDfuAbortDueToSyncIdMismatch = false then s.sendApp (.endDataInd false)
  else s

def cleanUpCaseDfu (answers : Answers) (s : Sm) (isError : Bool) : Sm :=
  ((s.erase answers).resetCaseDfu.endCaseDfu isError).setState .sync

def informAppsCompleteGotoSync (s : Sm) (isSilentCommit : Bool) : Sm :=
  let s := if isSilentCommit = true then s else s.sendHost .completeInd
  (s.sendApp .statusDone).setState .sync

end Sm

end HeadsetAdk.UpgradeSm
