import HeadsetAdk.Upgrade.PartitionData

/-!
# The context of the upgrade library

The messages of `upgrade_sm.c`, the context it works on, and the functions by which it changes
it.  A message that is sent is pending until it is handled, and any pending message may be the next.
-/

namespace HeadsetAdk.UpgradeSm

open Upgrade (UpgradeCtx HostErrorCode Firmware)

inductive UpgradeState
  | checkStatus
  | sync
  | ready
  | prohibited
  | aborting
  | batteryLow
  | dataReady
  | dataTransfer
  | dataTransferSuspended
  | dataHashChecking
  | validating
  | waitForValidate
  | validated
  | restartedForCommit
  | commitHostContinue
  | commitVerification
  | commitConfirm
  | commit
  | psJournal
  | rebootToResume
  deriving DecidableEq, Repr

inductive UpdateResumePoint
  | start
  | preValidate
  | preReboot
  | postReboot
  | commit
  | erase
  | error
  deriving DecidableEq, Repr

inductive UpgradePermission
  | no
  | assumeYes
  | alwaysAsk
  deriving DecidableEq, Repr

inductive ImageUpgradeCopyStatus
  | completed
  | inProgress
  | notStarted
  deriving DecidableEq, Repr

inductive ImageUpgradeHashStatus
  | success
  | failed
  | notStarted
  deriving DecidableEq, Repr

inductive UpgradeCaseDfuStatus
  | notStarted
  | inProgress
  | aborting
  deriving DecidableEq, Repr

/-- The messages of the task of the library: `UPGRADE_HOST_` from a client or the other
earbud, `UPGRADE_INTERNAL_` and `UPGRADE_VM_`. -/
inductive Message
  | hostSyncReq (inProgressId : UInt32)
  | hostStartReq
  | hostStartDataReq
  | hostData (data : List UInt8) (lastPacket : Bool)
  | hostAbortReq
  | hostProgressReq
  | hostTransferCompleteInd
  | hostTransferCompleteRes (action : Option UInt8)
  | hostInProgressRes (action : UInt8)
  | hostCommitCfm (action : UInt8)
  | hostErrorwarnRes (errorCode : Nat)
  | hostIsCsrValidDoneReq
  | hostSyncAfterRebootReq
  | hostVersionReq
  | hostVariantReq
  | hostEraseSqifCfm
  | hostSilentCommitSupportedReq
  | internalInProgress
  | internalContinue
  | internalReboot
  | internalErase
  | internalBatteryLow
  | internalReconnectionTimeout
  | internalTriggerReboot
  | internalDelayRevertReboot
  | internalSilentCommitReboot
  | internalSilentCommitReconnectionTimeout
  | internalSendAbortCfm
  | internalSendAbortCfmLater
  | internalCaseDfuReconnectionTimeout
  | internalScheduleTransportDisconnectCfm
  | vmPermitUpgrade
  | vmImageUpgradeCopySuccessful
  | vmImageUpgradeCopyFailed
  | vmDfuCopyValidationSuccess
  | vmAudioDfuFailure
  | vmExeFsValidationStatus (result : Bool)
  | vmHashAllSectionsSuccessful
  | vmHashAllSectionsFailed
  deriving DecidableEq, Repr

/-- Whether the message comes from a client, or from the other earbud in its place. -/
def Message.isHost : Message → Bool
  | hostSyncReq _ | hostStartReq | hostStartDataReq | hostData _ _ | hostAbortReq
  | hostProgressReq | hostTransferCompleteInd | hostTransferCompleteRes _
  | hostInProgressRes _ | hostCommitCfm _ | hostErrorwarnRes _ | hostIsCsrValidDoneReq
  | hostSyncAfterRebootReq | hostVersionReq | hostVariantReq | hostEraseSqifCfm
  | hostSilentCommitSupportedReq => true
  | _ => false

inductive UpgradeOps
  | storePeerMd5
  | trnsfrCompltResSendToPeer
  | sendSilentCommitIndToHost
  | checkPeerDuringCommit
  | initPeerContext
  | notifyEarlyErase
  | delayPrimCommit
  | sendHostInProgressInd
  | checkPeerCommit
  | cancelPeerDfu
  | relayPeerInProgInd
  | handleNotifyHostOfCommit
  | handleHashCheckRequest
  | notifyHostOfUpgradeComplete
  | abortPostTransferComplete
  | permitRebootOnCondition
  | handleAbort
  | internalHandlePostVldtnMsgRcvd
  | resetPeerCurrentState
  | handlePostVldtnMsgRcvd
  | savePeerPskeys
  | clearPeerPskeys
  | handleCsrValidDoneReqNotReceived
  | cleanUpOnAbort
  | checkPeerConnectionPreReboot
  deriving DecidableEq, Repr

/-- What the functions of `upgrade_response_functions_t` send to the client. -/
inductive HostIndication
  | inProgressInd
  | commitReq
  | completeInd
  | abortCfm
  | transferCompleteInd
  | silentCommitCfm
  | syncCfm (resumePoint : UpdateResumePoint) (inProgressId : UInt32)
  | startCfm (status batteryLevel : Nat)
  | bytesReq (numBytes startOffset : Nat)
  | errorInd (errorCode : Nat)
  | isCsrValidDoneCfm (backOffTime : Nat)
  | versionCfm (version : Nat × Nat) (configVersion : Nat)
  | variantCfm
  | silentCommitSupportedCfm (isSilentCommitSupported : Bool)
  deriving DecidableEq, Repr

inductive ReconnectRecommendation
  | notRequired
  | requiredForConfirm
  | recommendedAsCompleted
  | recommendedInProgress
  deriving DecidableEq, Repr

/-- `upgrade_application_message` to the application, but for the operations. -/
inductive AppIndication
  | initCfm
  | restartedInd (reason : ReconnectRecommendation)
  | applyInd
  | blockingInd
  | blockingIsDoneInd
  | statusCommiting
  | statusDone
  | shutAudio
  | audioCopyFailure
  | startDataInd
  | endDataInd (complete : Bool)
  | cleanupOnAbort
  | readyForSilentCommit
  | caseDfuCaseAbort
  | caseDfuResumeInd
  | revertReset
  | syncRevertReboot
  | transportDisconnectCfm
  deriving DecidableEq, Repr

/-- What goes on, newest first: traps of the firmware, what is sent to others, and what
`DEBUG_LOG` tells about the calls. -/
inductive Entry
  | upgradeInit
  | handling (state : UpgradeState) (message : Message)
  | completeMsgFromUpgradePeer (state : UpgradeState)
  /-- A partition of the other bank is opened, written or closed. -/
  | partitionWritten
  /-- The data of a footer is complete, and was not there before. -/
  | footer (signature : Option (List UInt8))
  | imageUpgradeErase
  | imageUpgradeHashInitialise (vctx : Nat)
  | imageUpgradeHashSectionUpdate (vctx : Option Nat)
  | imageUpgradeHashAllSectionsUpdate (vctx : Option Nat)
  /-- `UpgradeFWIFValidateFinish` and what it returns. -/
  | validateFinish (vctx : Option Nat) (signature : Option (List UInt8)) (passed : Bool)
  | imageUpgradeCopy
  | imageUpgradeAudio
  | imageUpgradeAbortCommand
  | imageUpgradeSwapTry
  /-- `ImageUpgradeSwapCommit`, and whether silent commit is recorded in the keys then. -/
  | imageUpgradeSwapCommit (isSilentCommit : Bool)
  | psFlood
  | bootSetMode
  | host (indication : HostIndication)
  | app (indication : AppIndication)
  deriving DecidableEq, Repr

/-- The fields of the key of the library that only the state machine uses.  After each change
the key is stored before the message is done, so they are the same in memory. -/
structure ResumeKeys where
  upgradeInProgressKey : UpdateResumePoint
  idInProgress : UInt32
  isSilentCommit : Bool
  deriving DecidableEq, Repr

/-- `UpgradeCtx`, the static variables of the library, and the messages that are pending. -/
structure Sm where
  isInitialised : Bool
  smState : UpgradeState
  /-- The context of the parser, with the rest of the key. -/
  ctx : UpgradeCtx
  /-- Whether there is an `UpgradePartitionDataCtx`. -/
  partitionData : Bool
  keys : ResumeKeys
  perms : UpgradePermission
  powerStateBatteryLow : Bool
  /-- Hash contexts are numbered. -/
  vctx : Option Nat
  hashContexts : Nat
  imageUpgradeHashStatus : ImageUpgradeHashStatus
  imageUpgradeCopyProgress : ImageUpgradeCopyStatus
  isImgUpgradeCopyDone : Bool
  imgUpgradeCopyStatus : Bool
  isCsrValidDoneReqReceived : Bool
  isImageRevertNeededOnAbort : Bool
  isDfuAbortDueToSyncIdMismatch : Bool
  forceErase : Bool
  isSilentCommitSupported : Bool
  /-- A field of two bits. -/
  commitMode : Nat
  isCaseDfuSupported : Bool
  caseDfuAborting : Bool
  /-- `asynchronous_abort` -/
  asynchronousAbort : Bool
  /-- `is_validated` -/
  isValidated : Nat
  queue : List Message
  operations : List (UpgradeOps × UInt8)
  log : List Entry

structure Answers where
  firmware : Firmware
  /-- What the buffer of `UpgradeSaveHeaderInPSKeys` holds. -/
  keyCache : List UInt8
  mallocPartitionData : Bool
  imageUpgradeHashInitialise : Bool
  imageUpgradeHashSectionUpdate : Bool
  /-- Whether the hash of a context can be finished, and agrees with the signature. -/
  validateFinish : Option Nat → Bool
  imageUpgradeSwapTryStatus : Bool

/-- The numbers of `UpgradeHostErrorCode` that the parser returns. -/
def errorCode : HostErrorCode → Nat
  | .success => 0x00
  | .dataTransferComplete => 0x02
  | .unknownId => 0x11
  | .wrongVariant => 0x13
  | .wrongPartitionNumber => 0x14
  | .partitionSizeMismatch => 0x15
  | .partitionOpenFailed => 0x17
  | .noMemory => 0x24
  | .badLengthPartitionParse => 0x30
  | .badLengthTooShort => 0x31
  | .badLengthUpgradeHeader => 0x32
  | .badLengthPartitionHeader => 0x33
  | .badLengthSignature => 0x34
  | .badLengthDatahdrResume => 0x35
  | .oemValidationFailedPartitionHeader1 => 0x3a
  | .oemValidationFailedMemory => 0x3e
  | .partitionCloseFailed => 0x40
  | .partitionCloseFailedPsSpace => 0x42
  | .partitionTypeNotMatching => 0x48
  | .partitionWriteFailedData => 0x51
  | .internalError3 => 0x67
  | .warnAppConfigVersionIncompatible => 0x80

def errorSfsValidationFailed : Nat := 0x1a

def errorAppNotReady : Nat := 0x1d

def errorLoaderError : Nat := 0x1e

def errorBatteryLow : Nat := 0x21

def errorInvalidSyncId : Nat := 0x22

def errorInErrorState : Nat := 0x23

def errorNoMemory : Nat := 0x24

def errorSqifErase : Nat := 0x25

def errorSqifCopy : Nat := 0x26

def errorAudioSqifCopy : Nat := 0x27

def errorOemValidationFailedFooter : Nat := 0x3d

def errorPartitionCloseFailedPsSpace : Nat := 0x42

def errorFileTooSmall : Nat := 0x58

def errorFileTooBig : Nat := 0x59

def errorInternalError1 : Nat := 0x65

def errorInternalError4 : Nat := 0x68

def errorSilentCommitNotSupported : Nat := 0x70

def warnSyncIdIsDifferent : Nat := 0x81

def warnSyncIdIsZero : Nat := 0x82

/-- `VALIDATAION_BACKOFF_TIME_MS` -/
def validatationBackoffTimeMs : Nat := 100

def hostActionYes : UInt8 := 0

def hostActionNo : UInt8 := 1

def noAction : UInt8 := 0

def commitInteractive : Nat := 0

def commitSilent : Nat := 2

def imageHeaderSigningMode : UInt8 := 0

def allPartitionsSigningMode : UInt8 := 1

namespace Sm

def record (s : Sm) (entry : Entry) : Sm := { s with log := entry :: s.log }

def sendHost (s : Sm) (indication : HostIndication) : Sm := s.record (.host indication)

def sendErrorInd (s : Sm) (errorCode : Nat) : Sm := s.sendHost (.errorInd errorCode)

/-- A message to the task of the application. -/
def sendApp (s : Sm) (indication : AppIndication) : Sm := s.record (.app indication)

def send (s : Sm) (message : Message) : Sm := { s with queue := s.queue ++ [message] }

def cancelFirst (s : Sm) (message : Message) : Sm := { s with queue := s.queue.erase message }

def cancelAll (s : Sm) (message : Message) : Sm :=
  { s with queue := s.queue.filter (· ≠ message) }

def sendUpgradeOpsStatus (s : Sm) (ops : UpgradeOps) (action : UInt8) : Sm :=
  { s with operations := s.operations ++ [(ops, action)] }

def setState (s : Sm) (nextState : UpgradeState) : Sm := { s with smState := nextState }

def moveToState (s : Sm) (nextState : UpgradeState) : Sm :=
  (s.setState nextState).send .internalContinue

def savePsKeys (s : Sm) : Sm := { s with ctx := s.ctx.savePsKeys s.ctx.psKeys }

def setResumePoint (s : Sm) (resumePoint : UpdateResumePoint) : Sm :=
  { s with keys := { s.keys with upgradeInProgressKey := resumePoint } }.savePsKeys

def setSilentCommit (s : Sm) (isSilentCommit : Bool) : Sm :=
  { s with keys := { s.keys with isSilentCommit := isSilentCommit } }.savePsKeys

def setInProgressId (s : Sm) (idInProgress : UInt32) : Sm :=
  { s with keys := { s.keys with idInProgress := idInProgress } }.savePsKeys

def fatalError (s : Sm) (errorCode : Nat) : Sm :=
  ((s.sendErrorInd errorCode).setState .aborting).setResumePoint .error

def psSpaceError (s : Sm) : Sm :=
  (s.sendErrorInd errorPartitionCloseFailedPsSpace).setState .rebootToResume

/-- `caseDfuStatus`, which the parser sets too. -/
def caseDfuStatus (s : Sm) : UpgradeCaseDfuStatus :=
  if s.ctx.caseDfuInProgress = true then .inProgress
  else if s.caseDfuAborting = true then .aborting
  else .notStarted

/-- `UpgradeSMHavePermissionToProceed`, where the message is for the application. -/
def havePermissionToProceed (s : Sm) (indication : AppIndication) : Bool × Sm :=
  match s.perms with
  | .no => (false, s)
  | .assumeYes => (true, s)
  | .alwaysAsk => (false, s.sendApp indication)

def blockingOpIsDone (s : Sm) : Sm :=
  if s.perms = .alwaysAsk then s.sendApp .blockingIsDoneInd else s

def newImageStatus (answers : Answers) : Nat :=
  if answers.imageUpgradeSwapTryStatus = true then 0 else errorLoaderError

def isDfuUpdate (s : Sm) : Bool := s.ctx.psKeys.dfuPartitionNum ≠ 0

def commitUpgrades (s : Sm) : Sm := s.record (.imageUpgradeSwapCommit s.keys.isSilentCommit)

def commitConfirmYes (s : Sm) : Sm :=
  let s := if s.keys.isSilentCommit = true then
      s.cancelFirst .internalSilentCommitReconnectionTimeout
    else s
  (s.commitUpgrades.sendApp .statusCommiting).moveToState .commit

end Sm

end HeadsetAdk.UpgradeSm
