import HeadsetAdk.Upgrade.Transfer
import HeadsetAdk.UpgradeSm.Handlers

/-!
# What happens to the state machine

The messages that reach the library, and reboots, as the steps of a system.  The application handles
the operations of `dfu.c`, which call the library again.
-/

namespace HeadsetAdk.UpgradeSm

open Upgrade (UpgradeCtx)

/-- What `dfu.c` asks of the library for the other earbud. -/
structure Peer where
  isSupported : Bool
  isPrimary : Bool
  isSecondary : Bool
  isConnected : Bool
  isStarted : Bool
  isCommitContinue : Bool
  isCommitted : Bool
  isEnded : Bool
  isBlocked : Bool
  deriving DecidableEq, Repr

/-- The parameters of `UpgradeInit`. -/
structure Configuration where
  alwaysAsk : Bool
  initVersion : Nat × Nat
  initConfigVersion : Nat
  deriving DecidableEq, Repr

namespace Sm

def eraseStatus (s : Sm) (status : Bool) : Option Sm :=
  let s := s.blockingOpIsDone
  if s.keys.upgradeInProgressKey = .start then
    if s.smState = .dataReady then
      if status = true then
        if s.partitionData = true then some (s.requestBytes.setState .dataTransfer) else none
      else some (s.fatalError errorSqifErase)
    else if s.smState = .sync ∧ s.asynchronousAbort = true then
      some { s.send .internalSendAbortCfm with asynchronousAbort := false }
    else some s
  else some s

def copyStatus (s : Sm) (status : Bool) : Sm :=
  let s := { s.blockingOpIsDone with isImgUpgradeCopyDone := true }
  if status = true then
    (({ s with imgUpgradeCopyStatus := true }.setImageCopyStatus .completed).handleValidated
      .vmImageUpgradeCopySuccessful).2
  else
    (((s.sendUpgradeOpsStatus .cancelPeerDfu noAction).fatalError
      errorSqifCopy).handleValidated .vmImageUpgradeCopyFailed).2

def copyAudioStatus (s : Sm) (status : Bool) : Sm :=
  let s := s.blockingOpIsDone
  if status = true then (s.handleValidated .vmDfuCopyValidationSuccess).2
  else ((s.fatalError errorAudioSqifCopy).handleValidated .vmAudioDfuFailure).2

def hashAllSectionsUpdateStatus (answers : Answers) (s : Sm) (status : Bool) : Option Sm :=
  if status = true then s.handleMsg answers .vmHashAllSectionsSuccessful
  else s.handleMsg answers .vmHashAllSectionsFailed

def upgradeInProgress (s : Sm) : Bool := UpgradeState.ready.ctorIdx ≤ s.smState.ctorIdx

def permit (answers : Answers) (s : Sm) (perm : UpgradePermission) : Option Sm :=
  match perm with
  | .no => if s.upgradeInProgress = true then some s else some { s with perms := .no }
  | perm => (s.handleMsg answers .vmPermitUpgrade).map fun s => { s with perms := perm }

def powerManagementSetState (s : Sm) (batteryLow : Bool) : Sm :=
  let s := { s with powerStateBatteryLow := batteryLow }
  if batteryLow = true then s.send .internalBatteryLow else s

def partitionDataInitWrapper (answers : Answers) (s : Sm) : Sm :=
  if s.smState.ctorIdx < UpgradeState.dataTransfer.ctorIdx ∧
      (s.partitionData = true ∨ answers.mallocPartitionData = true) then
    s.partitionDataInit.2
  else s

/-- `UpgradeSmHandleCommitVerifyProceed`.  `UpgradeFWIFValidateApplication` is skipped on this
chip. -/
def handleCommitVerifyProceed (answers : Answers) (s : Sm) : Sm :=
  if newImageStatus answers ≠ 0 then s.fatalError (newImageStatus answers)
  else if s.isDfuUpdate = true then s.moveToState .commitConfirm
  else (s.sendHost .commitReq).setState .commitConfirm

/-- `UpgradeCommitMsgFromUpgradePeer`, which does the same. -/
def commitMsgFromUpgradePeer (answers : Answers) (s : Sm) : Sm :=
  s.handleCommitVerifyProceed answers

def completeMsgFromUpgradePeer (s : Sm) : Sm :=
  (s.record (.completeMsgFromUpgradePeer s.smState)).commitConfirmYes

/-- `UpgradeCommitConfirmForSilentCommit`, where `dfu.c` and `dfu_peer.c` call it. -/
def commitConfirmForSilentCommit (s : Sm) : Sm :=
  if s.keys.isSilentCommit = true then s.commitConfirmYes else s

def rebootForSilentCommit (s : Sm) : Sm :=
  if s.keys.upgradeInProgressKey = .preReboot then
    (s.handleValidated .internalSilentCommitReboot).2
  else s

def handleAbortDuringUpgrade (s : Sm) : Sm :=
  if s.upgradeInProgress = true ∧ s.smState = .aborting then s
  else if s.upgradeInProgress = true then s.fatalError errorAppNotReady
  else s

/-- A timer that is pending starts again. -/
def restartTimer (s : Sm) (message : Message) : Sm :=
  if message ∈ s.queue then (s.cancelAll message).send message else s

def restartReconnectionTimer (s : Sm) : Sm :=
  (s.restartTimer .internalReconnectionTimeout).restartTimer
    .internalSilentCommitReconnectionTimeout

/-- `UpgradeCleanUpCaseDfu` -/
def cleanUpCaseDfuOfApp (answers : Answers) (s : Sm) (isError : Bool) : Sm :=
  if s.keys.idInProgress ≠ 0 then s.cleanUpCaseDfu answers isError else s

def sendHostInProgressInd (s : Sm) (isPeerDfuStarted isStateCommitHostContinue : Bool) : Sm :=
  if isPeerDfuStarted = true then
    if isStateCommitHostContinue = true then s.sendHost .inProgressInd
    else s.setState .commitHostContinue
  else (s.sendHost .inProgressInd).setState .commitHostContinue

def handleInProgressInd (s : Sm) (isPeerNotConnected hasPollInterval : Bool)
    (action : UInt8) : Sm :=
  if isPeerNotConnected = true ∧ hasPollInterval = true then s.send (.hostInProgressRes action)
  else if action = 0 then s.moveToState .commitVerification
  else s.moveToState .sync

def handleNotifyHostOfCommit (answers : Answers) (s : Sm) (hasPeerDfuNotEnded : Bool) : Sm :=
  if hasPeerDfuNotEnded = true then s.send .internalErase
  else (s.erase answers).informAppsCompleteGotoSync s.keys.isSilentCommit

def handleNotifyHostOfComplete (answers : Answers) (s : Sm) (isPrimary : Bool) : Sm :=
  if s.keys.isSilentCommit = true ∨ isPrimary = false then
    (s.erase answers).informAppsCompleteGotoSync s.keys.isSilentCommit
  else s.send .internalErase

/-- `UpgradeSMHandleAbort` -/
def handleAbortOfHost (s : Sm) : Sm :=
  { s.sendApp (.endDataInd false) with isValidated := 0 }.moveToState .sync

def handleImageCopyStatusForPrim (s : Sm) : Sm :=
  if s.isImgUpgradeCopyDone = true then
    if s.imgUpgradeCopyStatus = true then s.setImageCopyStatus .completed else s
  else s.setImageCopyStatus .inProgress

def handleImageCopyStatus (s : Sm) (isInternalStateHandling : Bool) : Sm :=
  if s.isImgUpgradeCopyDone = true then s.setPreReboot.sendHost .transferCompleteInd
  else if isInternalStateHandling = true then s.send .internalContinue
  else s.send .hostIsCsrValidDoneReq

def handleValidDoneReqNotReceived (s : Sm) : Sm :=
  if s.isImgUpgradeCopyDone = true then
    (s.sendUpgradeOpsStatus .resetPeerCurrentState noAction).setPreReboot.sendHost
      .transferCompleteInd
  else s.send .internalContinue

/-- `dfu_HandleUpgradeOperationInd`, as far as it calls the library.  There is no peer in a build
without `INCLUDE_DFU_PEER`. -/
def handleUpgradeOperationInd (answers : Answers) (peer : Option Peer) (s : Sm)
    (ops : UpgradeOps) (action : UInt8) : Sm :=
  let isPrimary := peer.any (·.isPrimary)
  match ops with
  | .sendSilentCommitIndToHost =>
      if peer.all fun peer => !peer.isPrimary && peer.isConnected then
        s.sendApp .readyForSilentCommit
      else s
  | .checkPeerDuringCommit =>
      if peer.any fun peer => peer.isSupported && !peer.isConnected then
        s.fatalError errorAppNotReady
      else s
  | .delayPrimCommit => if isPrimary = true then s else s.commitConfirmYes
  | .sendHostInProgressInd =>
      if peer.any fun peer => peer.isPrimary && peer.isStarted then
        if (peer.any (·.isCommitContinue)) = true ∧ s.smState = .commitHostContinue then
          s.sendHostInProgressInd true true
        else s.sendHostInProgressInd true false
      else s.sendHostInProgressInd false false
  | .checkPeerCommit =>
      if peer.any fun peer => peer.isPrimary && !peer.isCommitted then s
      else s.handleCommitVerifyProceed answers
  | .relayPeerInProgInd =>
      if isPrimary = true then
        if peer.any (·.isConnected) then s.handleInProgressInd false false action
        else s.handleInProgressInd true true action
      else s.handleInProgressInd true false action
  | .handleNotifyHostOfCommit =>
      s.handleNotifyHostOfCommit answers
        (peer.any fun peer => peer.isPrimary && !peer.isEnded)
  | .notifyHostOfUpgradeComplete => s.handleNotifyHostOfComplete answers isPrimary
  | .abortPostTransferComplete =>
      if peer.any fun peer => peer.isPrimary && peer.isStarted then s
      else s.handleAbortOfHost
  | .permitRebootOnCondition =>
      if s.keys.isSilentCommit = false ∧ isPrimary = true then { s with perms := .alwaysAsk }
      else s
  | .internalHandlePostVldtnMsgRcvd =>
      if isPrimary = true then s
      else if peer.any (·.isBlocked) then s.send .internalContinue
      else s.handleImageCopyStatus true
  | .handlePostVldtnMsgRcvd =>
      if isPrimary = true then
        if peer.any (·.isStarted) then s else s.handleImageCopyStatusForPrim
      else s.handleImageCopyStatus false
  | .handleCsrValidDoneReqNotReceived =>
      if peer.any fun peer => !peer.isPrimary then s.handleValidDoneReqNotReceived else s
  | .cleanUpOnAbort =>
      if peer.any (·.isSecondary) then (s.abort answers).2.sendApp .cleanupOnAbort else s
  | .checkPeerConnectionPreReboot =>
      if peer.any fun peer => !peer.isConnected && peer.isPrimary then s
      else s.handleRebootAction
  -- These are for the other earbud, or for a message to `dfu.c` itself.
  | .storePeerMd5 | .trnsfrCompltResSendToPeer | .initPeerContext | .notifyEarlyErase
  | .cancelPeerDfu | .handleHashCheckRequest | .handleAbort | .resetPeerCurrentState
  | .savePeerPskeys | .clearPeerPskeys => s

def clearAllPsKeys (s : Sm) : Sm :=
  { s with
    keys := ⟨.start, 0, false⟩
    ctx := clearHeaderPsKeys (s.ctx.savePsKeys ⟨(0, 0), 0, (0, 0), 0, false, 0, 0⟩) }

def handleCommitRevert (answers : Answers) (s : Sm) : Sm :=
  if answers.imageUpgradeSwapTryStatus = false ∧ s.keys.upgradeInProgressKey = .postReboot then
    s.clearAllPsKeys.sendApp .revertReset
  else s

def setInitVersions (configuration : Configuration) (s : Sm) : Sm :=
  let psKeys := s.ctx.psKeys
  s.withCtx { s.ctx with
    psKeys :=
      { psKeys with
        version := if psKeys.version = (0, 0) then configuration.initVersion else psKeys.version
        configVersion :=
          if psKeys.configVersion = 0 then configuration.initConfigVersion
          else psKeys.configVersion } }

def isCaseDfuHeaderInPsKeys (s : Sm) : Bool :=
  let bytes := s.ctx.headerStore.psKeys Upgrade.dfuHeaderPskeyStart
  Upgrade.idFieldSize ≤ bytes.length ∧
    Upgrade.idField bytes = Upgrade.idField Upgrade.extCaseDfuFileHeader

def abortCaseDfuOnReboot (s : Sm) : Sm :=
  if s.keys.idInProgress ≠ 0 ∧ s.isCaseDfuHeaderInPsKeys = true then
    { s with isCaseDfuSupported := true, caseDfuAborting := true }
  else s

/-- The reason in `RequestApplicationReconnectIfNeeded`. -/
def reconnectReason (s : Sm) : ReconnectRecommendation :=
  match s.keys.upgradeInProgressKey with
  | .start | .error => if s.keys.idInProgress ≠ 0 then .recommendedInProgress else .notRequired
  | .erase | .preValidate | .preReboot => .recommendedInProgress
  | .postReboot | .commit =>
      if s.isDfuUpdate = true then .recommendedAsCompleted else .requiredForConfirm

def requestApplicationReconnectIfNeeded (s : Sm) : Sm :=
  if s.reconnectReason ≠ .notRequired then s.sendApp (.restartedInd s.reconnectReason) else s

def startCaseDfuTimer (s : Sm) : Sm :=
  if s.isCaseDfuSupported = true ∧ s.caseDfuStatus = .aborting then
    s.send .internalCaseDfuReconnectionTimeout
  else s

def smInit (s : Sm) : Sm :=
  let s := s.startCaseDfuTimer
  match s.keys.upgradeInProgressKey with
  | .postReboot =>
      if s.keys.isSilentCommit = true then s.send .internalSilentCommitReconnectionTimeout
      else
        ({ s with isImageRevertNeededOnAbort := true }.setState .commitHostContinue).send
          .internalReconnectionTimeout
  | .error => s.setState .aborting
  | _ => s.setState .checkStatus

/-- The context in memory is lost, and what `UpgradeInit` sets at first. -/
def zeroContext (configuration : Configuration) (s : Sm) : Sm :=
  { s with
    isInitialised := true
    smState := .checkStatus
    ctx :=
      { zeroPartitionData s.ctx with
        partitionNum := 0
        partitionMap := 0
        psKeys := s.ctx.savedPsKeys
        signingMode := 1
        dfuFileOffset := 0
        isDataXferComplete := false
        caseDfuHeaderLength := 0
        caseDfuInProgress := false }
    partitionData := false
    perms := if configuration.alwaysAsk = true then .alwaysAsk else .assumeYes
    powerStateBatteryLow := false
    vctx := none
    imageUpgradeHashStatus := .notStarted
    imageUpgradeCopyProgress := .notStarted
    isImgUpgradeCopyDone := false
    imgUpgradeCopyStatus := false
    isCsrValidDoneReqReceived := false
    isImageRevertNeededOnAbort := false
    isDfuAbortDueToSyncIdMismatch := false
    forceErase := false
    isSilentCommitSupported := false
    commitMode := 0
    isCaseDfuSupported := false
    caseDfuAborting := false
    asynchronousAbort := false
    isValidated := 0
    queue := []
    operations := []
    log := .upgradeInit :: s.log }

/-- `upgradeRebootHandlerReinitPartitionCtx`, with what the reboot handler has found. -/
def reinitPartitionCtx (found : UpgradeCtx) (s : Sm) : Sm :=
  { s with
    partitionData := true
    ctx :=
      { zeroPartitionData s.ctx with
        totalReqSize := found.totalReqSize
        state := found.state
        partitionHdl := found.partitionHdl
        partitionLength := found.partitionLength
        signature := found.signature
        isUpgradeHdrAvailable := found.isUpgradeHdrAvailable
        headerStore :=
          { s.ctx.headerStore with
            dfuHeaderPskey := found.headerStore.dfuHeaderPskey
            dfuHeaderPskeyOffset := found.headerStore.dfuHeaderPskeyOffset }
        partitionNum := found.partitionNum
        dfuFileOffset := found.dfuFileOffset } }

/-- The end of `UpgradeInit`. -/
def finishInit (found : UpgradeCtx) (s : Sm) : Sm :=
  (if s.keys.idInProgress ≠ 0 ∧ s.keys.upgradeInProgressKey = .start then
    s.reinitPartitionCtx found
  else s).sendApp .initCfm

def upgradeInit (answers : Answers) (configuration : Configuration) (found : UpgradeCtx)
    (s : Sm) : Option Sm :=
  let s := ((s.zeroContext configuration).handleCommitRevert answers).abortCaseDfuOnReboot
  let s := (s.setInitVersions configuration).requestApplicationReconnectIfNeeded.smInit
  (s.handleMsg answers .vmPermitUpgrade).map fun s => s.finishInit found

end Sm

/-- What may happen next. -/
inductive Event
  /-- A message of a client, or of the other earbud. -/
  | host (message : Message)
  /-- A pending message is handled. -/
  | pending (index : Nat)
  /-- The application handles an operation. -/
  | operation (index : Nat) (peer : Option Peer)
  | eraseStatus (status : Bool)
  | copyStatus (status : Bool)
  | copyAudioStatus (status : Bool)
  | hashAllSectionsUpdateStatus (status : Bool)
  | permit (perm : UpgradePermission)
  | powerManagementSetState (batteryLow : Bool)
  | applyResponse
  | blockingResponse
  | startHashChecking
  | copyAudioImage
  | imageSwap
  | partitionDataInitWrapper
  | commitMsgFromUpgradePeer
  | completeMsgFromUpgradePeer
  | errorMsgFromUpgradePeer (errorCode : Nat)
  | commitConfirmForSilentCommit
  | rebootForSilentCommit
  | handleRebootAction
  | handleAbortDuringUpgrade
  | restartReconnectionTimer
  | cleanUpCaseDfu (isError : Bool)
  | delayRevertReboot
  | setSilentCommitSupported (isSilentCommitSupported : Bool)
  | setCaseDfuSupport (isCaseDfuSupported : Bool)
  | psClearStore
  | boot (configuration : Configuration) (found : UpgradeCtx)

def Event.isBoot : Event → Bool
  | .boot _ _ => true
  | _ => false

namespace Sm

def handleEvent (answers : Answers) (s : Sm) : Event → Option Sm
  | .host message => if message.isHost = true then s.handleMsg answers message else none
  | .pending index =>
      (s.queue[index]?).bind fun message =>
        { s with queue := s.queue.eraseIdx index }.handleMsg answers message
  | .operation index peer =>
      (s.operations[index]?).map fun (ops, action) =>
        { s with operations := s.operations.eraseIdx index }.handleUpgradeOperationInd answers
          peer ops action
  | .eraseStatus status => s.eraseStatus status
  | .copyStatus status => some (s.copyStatus status)
  | .copyAudioStatus status => some (s.copyAudioStatus status)
  | .hashAllSectionsUpdateStatus status => s.hashAllSectionsUpdateStatus answers status
  | .permit perm => s.permit answers perm
  | .powerManagementSetState batteryLow => some (s.powerManagementSetState batteryLow)
  | .applyResponse => some (s.send .internalReboot)
  | .blockingResponse => some (s.send .internalErase)
  | .startHashChecking => some (s.send .internalContinue)
  | .copyAudioImage => some (s.record .imageUpgradeAudio)
  | .imageSwap => some (s.handleValidated .vmDfuCopyValidationSuccess).2
  | .partitionDataInitWrapper => some (s.partitionDataInitWrapper answers)
  | .commitMsgFromUpgradePeer => some (s.commitMsgFromUpgradePeer answers)
  | .completeMsgFromUpgradePeer => some s.completeMsgFromUpgradePeer
  | .errorMsgFromUpgradePeer errorCode => some (s.fatalError errorCode)
  | .commitConfirmForSilentCommit => some s.commitConfirmForSilentCommit
  | .rebootForSilentCommit => some s.rebootForSilentCommit
  | .handleRebootAction => some s.handleRebootAction
  | .handleAbortDuringUpgrade => some s.handleAbortDuringUpgrade
  | .restartReconnectionTimer => some s.restartReconnectionTimer
  | .cleanUpCaseDfu isError => some (s.cleanUpCaseDfuOfApp answers isError)
  | .delayRevertReboot => some (s.send .internalDelayRevertReboot)
  | .setSilentCommitSupported isSilentCommitSupported =>
      some { s with isSilentCommitSupported := isSilentCommitSupported }
  | .setCaseDfuSupport isCaseDfuSupported =>
      some { s with isCaseDfuSupported := isCaseDfuSupported }
  | .psClearStore => some s.clearPsKeys
  | .boot configuration found => s.upgradeInit answers configuration found

/-- One step.  Before `UpgradeInit` there is no context. -/
def step (s : Sm) (event : Event × Answers) : Option Sm :=
  if s.isInitialised = true ∨ event.1.isBoot = true then s.handleEvent event.2 event.1 else none

end Sm

/-- A device that has never been upgraded, before its first boot. -/
def factory : Sm where
  isInitialised := false
  smState := .checkStatus
  ctx :=
    { newReqSize := 0
      totalReqSize := 0
      totalReceivedSize := 0
      chunkReceivedSize := 0
      offset := 0
      incompleteData := []
      state := .generic1stPart
      partitionHdl := none
      partitionLength := 0
      signature := none
      signatureReceived := 0
      openNextPartition := false
      isUpgradeHdrAvailable := false
      headerStore := ⟨fun _ => [], 0, 0⟩
      partitionNum := 0
      partitionMap := 0
      psKeys := ⟨(0, 0), 0, (0, 0), 0, false, 0, 0⟩
      savedPsKeys := ⟨(0, 0), 0, (0, 0), 0, false, 0, 0⟩
      signingMode := 1
      dfuFileOffset := 0
      isDataXferComplete := false
      caseDfuHeaderLength := 0
      caseDfuInProgress := false
      mainTask := []
      flash := []
      requests := [] }
  partitionData := false
  keys := ⟨.start, 0, false⟩
  perms := .no
  powerStateBatteryLow := false
  vctx := none
  hashContexts := 0
  imageUpgradeHashStatus := .notStarted
  imageUpgradeCopyProgress := .notStarted
  isImgUpgradeCopyDone := false
  imgUpgradeCopyStatus := false
  isCsrValidDoneReqReceived := false
  isImageRevertNeededOnAbort := false
  isDfuAbortDueToSyncIdMismatch := false
  forceErase := false
  isSilentCommitSupported := false
  commitMode := 0
  isCaseDfuSupported := false
  caseDfuAborting := false
  asynchronousAbort := false
  isValidated := 0
  queue := []
  operations := []
  log := []

/-- All works, and the new image runs after a reboot. -/
def plainAnswers : Answers where
  firmware := Upgrade.plainFirmware
  keyCache := []
  mallocPartitionData := true
  imageUpgradeHashInitialise := true
  imageUpgradeHashSectionUpdate := true
  validateFinish := fun vctx => vctx.isSome
  imageUpgradeSwapTryStatus := true

def plainConfiguration : Configuration := ⟨false, (1, 0), 1⟩

/-- An earbud that has started its update of the other one. -/
def primaryPeer : Peer where
  isSupported := true
  isPrimary := true
  isSecondary := false
  isConnected := true
  isStarted := true
  isCommitContinue := false
  isCommitted := false
  isEnded := false
  isBlocked := false

def plainBoot : Event := .boot plainConfiguration factory.ctx

/-- A file that is a footer only is requested and sent. -/
def footerDownload : List Event :=
  [.host (.hostSyncReq 1), .host .hostStartReq, .host .hostStartDataReq, .eraseStatus true,
    .host (.hostData (Upgrade.footerID ++ [0, 0, 1, 0]) false),
    .host (.hostData (List.replicate 256 0) true)]

def installAndReboot : List Event :=
  [.startHashChecking, .pending 0, .hashAllSectionsUpdateStatus true, .pending 0,
    .copyStatus true, .pending 0, .host .hostIsCsrValidDoneReq, .operation 4 (some primaryPeer),
    .host .hostTransferCompleteInd, .host (.hostTransferCompleteRes (some 0)),
    .operation 4 (some primaryPeer), .pending 0, .copyAudioImage, .imageSwap, plainBoot]

end HeadsetAdk.UpgradeSm
