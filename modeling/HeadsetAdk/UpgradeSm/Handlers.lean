import HeadsetAdk.UpgradeSm.Storage

/-! # The handlers of the states -/

namespace HeadsetAdk.UpgradeSm

open Upgrade (HostErrorCode)

namespace Sm

def handleCheckStatus (s : Sm) : Message → Bool × Sm
  | .vmPermitUpgrade => (true, s.setState .sync)
  | .internalInProgress => (true, s.setState .restartedForCommit)
  | _ => (false, s)

def handleBatteryLow (answers : Answers) (s : Sm) (message : Message) : Option (Bool × Sm) :=
  if s.powerStateBatteryLow = false then some (false, s)
  else
    match message with
    | .hostErrorwarnRes _ => some (true, s)
    | .hostData data _ =>
        (s.partitionDataParse answers data).map fun (code, s) =>
          -- `UPGRADE_PARTITION_DATA_XFER_ERROR` is zero.
          if errorCode code = 0 then (true, s)
          else (true, s.partitionDataStopData.sendErrorInd errorBatteryLow)
    | _ => some (true, s.sendErrorInd errorBatteryLow)

def handleSync (s : Sm) : Message → Bool × Sm
  | .hostSyncAfterRebootReq =>
      if s.keys.isSilentCommit = true then (true, s)
      else (true, (s.sendHost .inProgressInd).setState .commitHostContinue)
  | .internalReconnectionTimeout | .internalSilentCommitReconnectionTimeout =>
      (true, s.record .bootSetMode)
  | _ => (false, s)

def startCfm (s : Sm) : Sm := s.sendHost (.startCfm 0 0x666)

def handleReady (s : Sm) : Message → Bool × Sm
  | .hostStartReq =>
      if s.isCaseDfuSupported = true ∧ s.caseDfuStatus = .inProgress then
        (true, ((s.sendApp .caseDfuResumeInd).setState .dataTransferSuspended).startCfm)
      else
        match s.keys.upgradeInProgressKey with
        | .start => (true, (s.setState .dataReady).startCfm)
        | .preValidate => (true, (s.moveToState .validating).startCfm)
        | .preReboot => (true, (s.setState .validated).startCfm)
        | .postReboot => (true, (s.setState .commitHostContinue).startCfm)
        | .erase => (true, (s.moveToState .commit).startCfm)
        | .error => (true, (s.setState .aborting).startCfm)
        | .commit => (true, s.fatalError errorInternalError4)
  | _ => (false, s)

/-- What follows `UpgradeSMAbort` after an abort request. -/
def confirmAbort (s : Sm) (isAsynchronous : Bool) : Sm :=
  let s : Sm := { s with asynchronousAbort := isAsynchronous }
  let s : Sm := if isAsynchronous = true then s else s.send .internalSendAbortCfm
  if s.isImageRevertNeededOnAbort = true then s.send .internalDelayRevertReboot else s

def handleAborting (answers : Answers) (s : Sm) : Message → Bool × Sm
  | .hostErrorwarnRes _ => (true, (s.abort answers).2)
  | .hostAbortReq => (true, (s.abort answers).2.confirmAbort (s.abort answers).1)
  | .hostSyncReq _ => (true, s.sendErrorInd errorInErrorState)
  | _ => (false, s)

/-- What `upgradeSm_HandleDataReady` tells the application. -/
def notifyStart (s : Sm) : Sm :=
  (s.sendUpgradeOpsStatus .notifyEarlyErase noAction).sendApp .startDataInd

def handleDataReady (answers : Answers) (s : Sm) : Message → Bool × Sm
  | .hostStartDataReq =>
      if s.partitionData = true ∨ answers.mallocPartitionData = true then
        let (waitForErase, s) := s.partitionDataInit
        if waitForErase = true then (true, s.notifyStart)
        else (true, s.notifyStart.requestBytes.setState .dataTransfer)
      else (true, s.fatalError errorNoMemory)
  | _ => (false, s)

/-- The flags that `upgradeSm_HandleDataTransfer` sets when all data is there. -/
def dataXferComplete (s : Sm) : Sm :=
  { s with
    isCsrValidDoneReqReceived := false
    isImgUpgradeCopyDone := false
    imgUpgradeCopyStatus := false
    ctx := { s.ctx with isDataXferComplete := true } }

/-- What `upgradeSm_HandleDataTransfer` does with the answer of the parser. -/
def afterParse (s : Sm) (code : HostErrorCode) (lastPacket : Bool) : Sm :=
  match code, lastPacket with
  | .success, true => s.fatalError errorFileTooSmall
  | .success, false =>
      if s.ctx.getNextReqSize.1 ≠ 0 then s.requestBytes
      else if s.isCaseDfuSupported = true ∧ s.caseDfuStatus = .inProgress then
        (s.withCtx s.ctx.getNextReqSize.2).setState .dataTransferSuspended
      else s.withCtx s.ctx.getNextReqSize.2
  | .dataTransferComplete, false => s.fatalError errorFileTooBig
  | .dataTransferComplete, true =>
      (s.dataXferComplete.setState .dataHashChecking).sendUpgradeOpsStatus
        .handleHashCheckRequest noAction
  | .partitionCloseFailedPsSpace, _ => s.psSpaceError
  | code, _ => s.fatalError (errorCode code)

def handleDataTransfer (answers : Answers) (s : Sm) : Message → Option (Bool × Sm)
  | .hostData data lastPacket =>
      (s.partitionDataParse answers data).map fun (code, s) =>
        (true, s.afterParse code lastPacket)
  | _ => some (false, s)

def resendHashStatus (s : Sm) : Sm :=
  match s.imageUpgradeHashStatus with
  | .notStarted => s
  | .success => s.send .vmHashAllSectionsSuccessful
  | .failed => s.send .vmHashAllSectionsFailed

/-- `ImageUpgradeHashInitialise`, which gives a new context. -/
def hashInitialise (s : Sm) : Sm :=
  { s with vctx := some s.hashContexts, hashContexts := s.hashContexts + 1 }.record
    (.imageUpgradeHashInitialise s.hashContexts)

/-- The end of a hash check.  The signature is freed and there is no hash context any more. -/
def hashCheckDone (s : Sm) : Sm :=
  { s with vctx := none, ctx := { s.ctx with signature := none } }

def hashCheckedOk (s : Sm) : Sm := (s.setResumePoint .preValidate).moveToState .validating

def hashCheckFailed (s : Sm) : Sm :=
  (s.fatalError errorOemValidationFailedFooter).hashCheckDone

def hashCheckFailedEarly (s : Sm) : Option Sm :=
  if s.partitionData = true then some s.hashCheckFailed else none

/-- `UpgradeFWIFValidateFinish`, and what follows in `upgradeSm_HandleDataHashChecking`. -/
def finishHashCheck (answers : Answers) (s : Sm) : Option Sm :=
  if s.partitionData = true then
    (s.validateFinish answers).map fun (passed, s) =>
      if passed = true then s.hashCheckDone.hashCheckedOk else s.hashCheckFailed
  else none

/-- A new hash context, and `UpgradeFWIFValidateStart`. -/
def startHashCheck (answers : Answers) (s : Sm) : Option Sm :=
  if answers.imageUpgradeHashInitialise = false then none
  else
    let s := s.hashInitialise
    if s.ctx.signingMode = imageHeaderSigningMode then
      let s := s.record (.imageUpgradeHashSectionUpdate s.vctx)
      if answers.imageUpgradeHashSectionUpdate = true then s.finishHashCheck answers
      else s.hashCheckFailedEarly
    else if s.ctx.signingMode = allPartitionsSigningMode then
      some (s.record (.imageUpgradeHashAllSectionsUpdate s.vctx))
    else s.hashCheckFailedEarly

def handleDataHashChecking (answers : Answers) (s : Sm) (message : Message) :
    Option (Bool × Sm) :=
  match message with
  | .internalContinue =>
      if s.vctx ≠ none then some (true, s.resendHashStatus)
      else (s.startHashCheck answers).map fun s => (true, s)
  | .hostIsCsrValidDoneReq => some (true, { s with isCsrValidDoneReqReceived := true })
  | .vmHashAllSectionsSuccessful =>
      (s.finishHashCheck answers).map fun s => (true, s)
  | .vmHashAllSectionsFailed => s.hashCheckFailedEarly.map fun s => (true, s)
  | _ => some (false, s)

def actionOnValidated (s : Sm) : Sm := s.record .imageUpgradeCopy

def setImageCopyStatus (s : Sm) (status : ImageUpgradeCopyStatus) : Sm :=
  { s with imageUpgradeCopyProgress := status }

def handleValidationStateChange (s : Sm) : Sm :=
  if s.imageUpgradeCopyProgress = .notStarted then
    (s.actionOnValidated.setImageCopyStatus .inProgress).moveToState .validated
  else s.moveToState .validated

/-- `SendIsCsrValidDoneCfm` with the time to back off. -/
def backOff (s : Sm) : Sm :=
  { s.sendHost (.isCsrValidDoneCfm validatationBackoffTimeMs) with
    isCsrValidDoneReqReceived := true }

/-- `upgradeSm_HandleValidating`.  `UpgradePartitionValidationValidate` skips each partition of
this chip. -/
def handleValidating (s : Sm) : Message → Bool × Sm
  | .internalContinue => (true, s.handleValidationStateChange)
  | .hostIsCsrValidDoneReq => (true, s.backOff)
  | _ => (false, s)

def handleWaitForValidate (s : Sm) : Message → Bool × Sm
  | .vmExeFsValidationStatus result =>
      if result = true then (true, s.moveToState .validating)
      else (true, s.fatalError errorSfsValidationFailed)
  | .hostIsCsrValidDoneReq => (true, s.backOff)
  | _ => (false, s)

/-- `IsValidatedToTrySwap` without reset. -/
def isValidatedToTrySwap (s : Sm) : Sm :=
  if s.isValidated = 0 then { s with isValidated := 1 }
  else if s.isValidated = 1 then s.sendApp .shutAudio
  else s

def fileTransferCompleted (s : Sm) (isSilentCommit informPeer : Bool) : Sm :=
  let s := s.sendUpgradeOpsStatus .initPeerContext noAction
  let s := if informPeer = true then
      s.sendUpgradeOpsStatus .trnsfrCompltResSendToPeer (if isSilentCommit = true then 1 else 0)
    else s
  if isSilentCommit = true then
    ((s.setSilentCommit true).sendHost .silentCommitCfm).sendUpgradeOpsStatus
      .sendSilentCommitIndToHost noAction
  else (s.setResumePoint .postReboot).send .internalTriggerReboot

def handleRebootAction (s : Sm) : Sm :=
  if s.commitMode = commitInteractive then
    (if s.keys.isSilentCommit = true then s.setSilentCommit false else s).fileTransferCompleted
      false true
  else if s.commitMode = commitSilent then
    if s.isSilentCommitSupported = false then s.fatalError errorSilentCommitNotSupported
    else s.fileTransferCompleted true true
  else s.sendUpgradeOpsStatus .abortPostTransferComplete noAction

def setPreReboot (s : Sm) : Sm :=
  if s.keys.upgradeInProgressKey ≠ .postReboot then s.setResumePoint .preReboot else s

def triggerReboot (s : Sm) : Sm :=
  let s := (s.sendApp (.endDataInd true)).sendUpgradeOpsStatus .permitRebootOnCondition noAction
  let (permitted, s) := s.havePermissionToProceed .applyInd
  if permitted = true then s.isValidatedToTrySwap else s

def handleValidated (s : Sm) : Message → Bool × Sm
  | .internalContinue =>
      if s.isCsrValidDoneReqReceived = true then
        (true, s.sendUpgradeOpsStatus .internalHandlePostVldtnMsgRcvd noAction)
      else (true, s.sendUpgradeOpsStatus .handleCsrValidDoneReqNotReceived noAction)
  | .hostTransferCompleteRes (some action) =>
      (true, { s with commitMode := action.toNat % 4 }.sendUpgradeOpsStatus
        .checkPeerConnectionPreReboot noAction)
  | .hostTransferCompleteRes none =>
      (true, s.sendUpgradeOpsStatus .abortPostTransferComplete noAction)
  | .internalSilentCommitReboot =>
      (true, { s.setState .validated with isValidated := 1 }.fileTransferCompleted false false)
  | .internalTriggerReboot => (true, s.triggerReboot)
  | .hostIsCsrValidDoneReq =>
      (true, s.sendUpgradeOpsStatus .handlePostVldtnMsgRcvd noAction)
  | .hostTransferCompleteInd =>
      if s.isImgUpgradeCopyDone = true then
        (true, s.setPreReboot.sendHost .transferCompleteInd)
      else (true, s.send .hostTransferCompleteInd)
  | .internalReboot | .vmImageUpgradeCopySuccessful => (true, s.isValidatedToTrySwap)
  | .vmDfuCopyValidationSuccess => (true, s.record .imageUpgradeSwapTry)
  | .vmAudioDfuFailure => (true, (s.sendApp .audioCopyFailure).moveToState .sync)
  | .vmImageUpgradeCopyFailed => (true, s.moveToState .sync)
  | _ => (false, s)

def handleRestartedForCommit (s : Sm) : Message → Bool × Sm
  | .hostSyncAfterRebootReq =>
      (true, s.sendUpgradeOpsStatus .sendHostInProgressInd noAction)
  | _ => (false, s)

/-- The upgrade is reverted because nobody has reconnected. -/
def revertOnTimeout (s : Sm) : Sm :=
  (((s.setResumePoint .error).setState .sync).sendApp .syncRevertReboot).send
    .internalDelayRevertReboot

def handleCommitHostContinue (answers : Answers) (s : Sm) : Message → Bool × Sm
  | .hostInProgressRes action =>
      (true, (s.cancelFirst .internalReconnectionTimeout).sendUpgradeOpsStatus
        .relayPeerInProgInd action)
  | .internalReconnectionTimeout =>
      if s.isDfuUpdate = true ∧ newImageStatus answers = 0 then (true, s.commitConfirmYes)
      else (true, s.revertOnTimeout)
  | _ => (false, s)

def handleCommitVerification (s : Sm) : Message → Bool × Sm
  | .internalContinue => (true, s.sendUpgradeOpsStatus .checkPeerCommit noAction)
  | _ => (false, s)

/-- The action of `UPGRADE_HOST_COMMIT_CFM`. -/
def commitCfm (s : Sm) (action : UInt8) : Sm :=
  let s := s.sendUpgradeOpsStatus .checkPeerDuringCommit action
  if action = hostActionYes then s.sendUpgradeOpsStatus .delayPrimCommit noAction
  else if action = hostActionNo then s.setState .sync
  else s

/-- `upgradeSm_HandleCommitConfirm`.  The response to the indication of progress is handled
again in another state; the default handler then finds it handled. -/
def handleCommitConfirm (answers : Answers) (s : Sm) : Message → Bool × Sm
  | .hostCommitCfm action => (true, s.commitCfm action)
  | .internalContinue => (true, s.commitConfirmYes)
  | .hostInProgressRes action =>
      ((s.setState .commitHostContinue).record
        (.handling .commitHostContinue (.hostInProgressRes action))).handleCommitHostContinue
          answers (.hostInProgressRes action)
  | _ => (false, s)

/-- The versions of the new image are the ones in use. -/
def updateVersion (s : Sm) : Sm :=
  s.withCtx { s.ctx with
    psKeys := { s.ctx.psKeys with
      version := s.ctx.psKeys.versionInProgress
      configVersion := s.ctx.psKeys.configVersionInProgress } }

def handleCommit (s : Sm) : Message → Bool × Sm
  | .internalContinue =>
      let (permitted, s) := { s.setResumePoint .erase with
        isImageRevertNeededOnAbort := false }.updateVersion.havePermissionToProceed .blockingInd
      if permitted = true then
        (true, s.sendUpgradeOpsStatus .notifyHostOfUpgradeComplete noAction)
      else (true, s)
  | .hostAbortReq => (true, s)
  | .internalErase => (true, s.sendUpgradeOpsStatus .handleNotifyHostOfCommit noAction)
  | _ => (false, s)

def psFloodAndReboot (s : Sm) : Sm := (s.record .psFlood).record .bootSetMode

def handleRebootToResume (s : Sm) : Message → Bool × Sm
  | .hostErrorwarnRes errorCode =>
      if errorCode = errorPartitionCloseFailedPsSpace then
        let (permitted, s) := s.havePermissionToProceed .applyInd
        if permitted = true then (true, s.psFloodAndReboot) else (true, s)
      else (false, s)
  | .internalReboot => (true, s.psFloodAndReboot)
  | .hostSyncReq _ | .hostStartReq | .hostAbortReq =>
      (true, s.sendErrorInd errorPartitionCloseFailedPsSpace)
  | _ => (false, s)

/-- `upgradeSmupgradeSm_DefaultHandlerHandleUpgradeHostSyncReq` -/
def handleHostSyncReq (s : Sm) (inProgressId : UInt32) : Sm :=
  let s : Sm := { s with forceErase := false, isDfuAbortDueToSyncIdMismatch := false }
  if s.perms = .no then s.sendErrorInd errorAppNotReady
  else if s.caseDfuStatus = .aborting then s.sendErrorInd errorInternalError1
  else if inProgressId = 0 then
    if s.keys.isSilentCommit = true then s.sendErrorInd warnSyncIdIsZero
    else s.sendErrorInd errorInvalidSyncId
  else if s.keys.idInProgress = 0 ∨ s.keys.idInProgress = inProgressId then
    let s : Sm := s.sendHost (.syncCfm s.keys.upgradeInProgressKey inProgressId)
    ((s.setInProgressId inProgressId).setState .ready).sendUpgradeOpsStatus .storePeerMd5 noAction
  else s.sendErrorInd warnSyncIdIsDifferent

/-- The abort request in `upgradeSm_DefaultHandler`. -/
def handleHostAbortReq (answers : Answers) (s : Sm) : Sm :=
  match s.caseDfuStatus with
  | .aborting => (s.cleanUpCaseDfu answers true).confirmAbort false
  | .inProgress => (s.sendApp .caseDfuCaseAbort).confirmAbort false
  | .notStarted => (s.abort answers).2.confirmAbort (s.abort answers).1

/-- `upgradeSm_DefaultHandler` for a message that has not been handled. -/
def defaultHandler (answers : Answers) (s : Sm) : Message → Sm
  | .hostSyncReq inProgressId => s.handleHostSyncReq inProgressId
  | .hostAbortReq => s.handleHostAbortReq answers
  | .internalDelayRevertReboot => s.record .bootSetMode
  | .hostVersionReq =>
      s.sendHost (.versionCfm s.ctx.psKeys.version s.ctx.psKeys.configVersion)
  | .hostVariantReq => s.sendHost .variantCfm
  | .internalBatteryLow => s.setState .batteryLow
  | .internalErase => (s.erase answers).setState .sync
  | .hostErrorwarnRes errorCode =>
      (if errorCode = warnSyncIdIsDifferent then { s with isDfuAbortDueToSyncIdMismatch := true }
        else s).sendUpgradeOpsStatus .cleanUpOnAbort noAction
  | .hostCommitCfm _ => s.fatalError errorAppNotReady
  | .hostSilentCommitSupportedReq =>
      s.sendHost (.silentCommitSupportedCfm s.isSilentCommitSupported)
  | .internalSendAbortCfmLater => (s.sendHost .abortCfm).sendApp (.endDataInd false)
  | .internalSendAbortCfm =>
      if s.isDfuAbortDueToSyncIdMismatch = true then s.send .internalSendAbortCfmLater
      else (s.sendHost .abortCfm).sendApp (.endDataInd false)
  | .vmHashAllSectionsSuccessful => { s with imageUpgradeHashStatus := .success }
  | .vmHashAllSectionsFailed => { s with imageUpgradeHashStatus := .failed }
  | .internalCaseDfuReconnectionTimeout => s.cleanUpCaseDfu answers true
  | .internalScheduleTransportDisconnectCfm => s.sendApp .transportDisconnectCfm
  | _ => s

def handleInState (answers : Answers) (s : Sm) (message : Message) : Option (Bool × Sm) :=
  match s.smState with
  | .checkStatus => some (s.handleCheckStatus message)
  | .sync => some (s.handleSync message)
  | .ready => some (s.handleReady message)
  | .prohibited => some (false, s)
  | .aborting => some (s.handleAborting answers message)
  | .batteryLow => s.handleBatteryLow answers message
  | .dataReady => some (s.handleDataReady answers message)
  | .dataTransfer => s.handleDataTransfer answers message
  | .dataTransferSuspended => some (false, s)
  | .dataHashChecking => s.handleDataHashChecking answers message
  | .validating => some (s.handleValidating message)
  | .waitForValidate => some (s.handleWaitForValidate message)
  | .validated => some (s.handleValidated message)
  | .restartedForCommit => some (s.handleRestartedForCommit message)
  | .commitHostContinue => some (s.handleCommitHostContinue answers message)
  | .commitVerification => some (s.handleCommitVerification message)
  | .commitConfirm => some (s.handleCommitConfirm answers message)
  | .commit => some (s.handleCommit message)
  | .psJournal => some (false, s)
  | .rebootToResume => some (s.handleRebootToResume message)

def handleMsg (answers : Answers) (s : Sm) (message : Message) : Option Sm :=
  ((s.record (.handling s.smState message)).handleInState answers message).map
    fun (handled, s) =>
      if handled = false ∧ s.smState ≠ .checkStatus then s.defaultHandler answers message
      else s

end Sm

end HeadsetAdk.UpgradeSm
