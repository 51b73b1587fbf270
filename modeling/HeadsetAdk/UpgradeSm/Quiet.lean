import HeadsetAdk.Lib.EventLog
import HeadsetAdk.UpgradeSm.ParserFrame

/-! # Steps that neither commit nor touch the data -/

namespace HeadsetAdk.UpgradeSm

open Upgrade (UpgradeCtx HostErrorCode)
open Option (some.inj)

/-- Whether no commit and no boot is noted. -/
def Entry.isCalm : Entry → Bool
  | upgradeInit | imageUpgradeSwapCommit _ => false
  | _ => true

def Entry.changesData : Entry → Bool
  | partitionWritten | footer _ | imageUpgradeErase => true
  | _ => false

def UpgradeState.isPlain : UpgradeState → Bool
  | dataReady | dataTransfer | dataHashChecking | validating | waitForValidate => false
  | _ => true

structure Calm (s next : Sm) : Prop where
  log : ∃ recent, next.log = recent ++ s.log ∧ ∀ entry ∈ recent, entry.isCalm = true
  operations : ∀ action, (.delayPrimCommit, action) ∈ next.operations →
    (.delayPrimCommit, action) ∈ s.operations
  noDfu : s.ctx.psKeys.dfuPartitionNum = 0 ∧ s.ctx.savedPsKeys.dfuPartitionNum = 0 →
    next.ctx.psKeys.dfuPartitionNum = 0 ∧ next.ctx.savedPsKeys.dfuPartitionNum = 0

structure Still (s next : Sm) : Prop where
  log : ∃ recent, next.log = recent ++ s.log ∧ ∀ entry ∈ recent, entry.changesData = false
  smState : next.smState = s.smState ∨ next.smState.isPlain = true
  resumePoint : next.keys.upgradeInProgressKey = s.keys.upgradeInProgressKey ∨
    next.keys.upgradeInProgressKey ≠ .preValidate
  vctx : next.vctx = s.vctx
  partitionData : next.partitionData = s.partitionData
  isDataXferComplete : next.ctx.isDataXferComplete = s.ctx.isDataXferComplete
  state : next.ctx.state = s.ctx.state
  signature : next.ctx.signature = s.ctx.signature

structure Quiet (s next : Sm) : Prop where
  calm : Calm s next
  still : Still s next

section Relations

variable {s next after : Sm}

theorem Calm.refl (s : Sm) : Calm s s :=
  ⟨⟨[], rfl, by simp⟩, fun _ member => member, fun noDfu => noDfu⟩

theorem Still.refl (s : Sm) : Still s s :=
  ⟨⟨[], rfl, by simp⟩, Or.inl rfl, Or.inl rfl, rfl, rfl, rfl, rfl, rfl⟩

theorem Quiet.refl (s : Sm) : Quiet s s :=
  ⟨Calm.refl s, Still.refl s⟩

theorem log_trans {property : Entry → Prop} {first second third : List Entry}
    (before : ∃ recent, second = recent ++ first ∧ ∀ entry ∈ recent, property entry)
    (later : ∃ recent, third = recent ++ second ∧ ∀ entry ∈ recent, property entry) :
    ∃ recent, third = recent ++ first ∧ ∀ entry ∈ recent, property entry := by
  obtain ⟨early, rfl, allEarly⟩ := before
  obtain ⟨late, rfl, allLate⟩ := later
  refine ⟨late ++ early, (List.append_assoc late early first).symm, fun entry member => ?_⟩
  cases List.mem_append.mp member with
  | inl member => exact allLate entry member
  | inr member => exact allEarly entry member

theorem Calm.trans (before : Calm s next) (later : Calm next after) : Calm s after :=
  ⟨log_trans before.log later.log,
    fun action member => before.operations action (later.operations action member),
    fun noDfu => later.noDfu (before.noDfu noDfu)⟩

theorem Still.trans (before : Still s next) (later : Still next after) : Still s after where
  log := log_trans before.log later.log
  smState := by
    cases later.smState with
    | inl same => rw [same]; exact before.smState
    | inr isPlain => exact Or.inr isPlain
  resumePoint := by
    cases later.resumePoint with
    | inl same => rw [same]; exact before.resumePoint
    | inr other => exact Or.inr other
  vctx := later.vctx.trans before.vctx
  partitionData := later.partitionData.trans before.partitionData
  isDataXferComplete := later.isDataXferComplete.trans before.isDataXferComplete
  state := later.state.trans before.state
  signature := later.signature.trans before.signature

theorem Quiet.trans (before : Quiet s next) (later : Quiet next after) : Quiet s after :=
  ⟨before.calm.trans later.calm, before.still.trans later.still⟩

theorem Quiet.of_eq (quiet : Quiet s next) (log : after.log = next.log)
    (operations : after.operations = next.operations) (smState : after.smState = next.smState)
    (keys : after.keys.upgradeInProgressKey = next.keys.upgradeInProgressKey)
    (vctx : after.vctx = next.vctx) (partitionData : after.partitionData = next.partitionData)
    (ctx : after.ctx = next.ctx) : Quiet s after := by
  refine quiet.trans ⟨⟨⟨[], log, by simp⟩, ?_, ?_⟩, ⟨⟨[], log, by simp⟩, Or.inl smState,
    Or.inl keys, vctx, partitionData, ?_, ?_, ?_⟩⟩
  · intro action member
    rw [← operations]
    exact member
  · intro noDfu
    rw [ctx]
    exact noDfu
  · rw [ctx]
  · rw [ctx]
  · rw [ctx]

theorem Quiet.withCtx (quiet : Quiet s next) {ctx : UpgradeCtx}
    (noDfu : next.ctx.psKeys.dfuPartitionNum = 0 ∧ next.ctx.savedPsKeys.dfuPartitionNum = 0 →
      ctx.psKeys.dfuPartitionNum = 0 ∧ ctx.savedPsKeys.dfuPartitionNum = 0)
    (isDataXferComplete : ctx.isDataXferComplete = next.ctx.isDataXferComplete)
    (state : ctx.state = next.ctx.state) (signature : ctx.signature = next.ctx.signature) :
    Quiet s (next.withCtx ctx) :=
  quiet.trans ⟨⟨⟨[], rfl, by simp⟩, fun _ member => member, noDfu⟩,
    ⟨⟨[], rfl, by simp⟩, Or.inl rfl, Or.inl rfl, rfl, rfl, isDataXferComplete, state, signature⟩⟩

end Relations

section Primitives

variable {s next : Sm} {entry : Entry} {state : UpgradeState}

theorem Calm.record (calm : Calm s next) (isCalm : entry.isCalm = true) :
    Calm s (next.record entry) :=
  calm.trans ⟨⟨[entry], rfl, by simpa using isCalm⟩, fun _ member => member, fun noDfu => noDfu⟩

theorem Still.record (still : Still s next) (harmless : entry.changesData = false) :
    Still s (next.record entry) :=
  still.trans ⟨⟨[entry], rfl, by simpa using harmless⟩, Or.inl rfl, Or.inl rfl, rfl, rfl, rfl,
    rfl, rfl⟩

section

variable (quiet : Quiet s next)

include quiet

theorem Quiet.record (isCalm : entry.isCalm = true) (harmless : entry.changesData = false) :
    Quiet s (next.record entry) :=
  ⟨quiet.calm.record isCalm, quiet.still.record harmless⟩

theorem Quiet.sendHost (indication : HostIndication) : Quiet s (next.sendHost indication) :=
  quiet.record rfl rfl

theorem Quiet.sendErrorInd (errorCode : Nat) : Quiet s (next.sendErrorInd errorCode) :=
  quiet.sendHost _

theorem Quiet.sendApp (indication : AppIndication) : Quiet s (next.sendApp indication) :=
  quiet.record rfl rfl

theorem Quiet.send (message : Message) : Quiet s (next.send message) :=
  quiet.of_eq rfl rfl rfl rfl rfl rfl rfl

theorem Quiet.cancelFirst (message : Message) : Quiet s (next.cancelFirst message) :=
  quiet.of_eq rfl rfl rfl rfl rfl rfl rfl

theorem Quiet.cancelAll (message : Message) : Quiet s (next.cancelAll message) :=
  quiet.of_eq rfl rfl rfl rfl rfl rfl rfl

end

theorem Still.sendUpgradeOpsStatus (still : Still s next) (ops : UpgradeOps) (action : UInt8) :
    Still s (next.sendUpgradeOpsStatus ops action) :=
  still.trans ⟨⟨[], rfl, by simp⟩, Or.inl rfl, Or.inl rfl, rfl, rfl, rfl, rfl, rfl⟩

theorem Quiet.sendUpgradeOpsStatus (quiet : Quiet s next) {ops : UpgradeOps} (action : UInt8)
    (other : ops ≠ .delayPrimCommit) : Quiet s (next.sendUpgradeOpsStatus ops action) := by
  refine ⟨quiet.calm.trans ⟨⟨[], rfl, by simp⟩, fun given member => ?_, fun noDfu => noDfu⟩,
    quiet.still.sendUpgradeOpsStatus ops action⟩
  cases List.mem_append.mp member with
  | inl member => exact member
  | inr member => exact absurd (Prod.mk.inj (List.mem_singleton.mp member)).1.symm other

theorem Calm.setState (calm : Calm s next) (state : UpgradeState) : Calm s (next.setState state) :=
  calm.trans ⟨⟨[], rfl, by simp⟩, fun _ member => member, fun noDfu => noDfu⟩

theorem Calm.moveToState (calm : Calm s next) (state : UpgradeState) :
    Calm s (next.moveToState state) :=
  (calm.setState state).trans ((Quiet.refl _).send .internalContinue).calm

theorem Quiet.setState (quiet : Quiet s next) (isPlain : state.isPlain = true) :
    Quiet s (next.setState state) :=
  ⟨quiet.calm.setState state, quiet.still.trans ⟨⟨[], rfl, by simp⟩, Or.inr isPlain, Or.inl rfl,
    rfl, rfl, rfl, rfl, rfl⟩⟩

theorem Quiet.moveToState (quiet : Quiet s next) (isPlain : state.isPlain = true) :
    Quiet s (next.moveToState state) :=
  (quiet.setState isPlain).send _

theorem Calm.setResumePoint (calm : Calm s next) (resumePoint : UpdateResumePoint) :
    Calm s (next.setResumePoint resumePoint) :=
  calm.trans ⟨⟨[], rfl, by simp⟩, fun _ member => member, fun noDfu => ⟨noDfu.1, noDfu.1⟩⟩

section

variable (quiet : Quiet s next)

include quiet

theorem Quiet.setResumePoint {resumePoint : UpdateResumePoint}
    (other : resumePoint ≠ .preValidate) : Quiet s (next.setResumePoint resumePoint) :=
  ⟨quiet.calm.setResumePoint resumePoint, quiet.still.trans ⟨⟨[], rfl, by simp⟩, Or.inl rfl,
    Or.inr other, rfl, rfl, rfl, rfl, rfl⟩⟩

theorem Quiet.setSilentCommit (isSilentCommit : Bool) :
    Quiet s (next.setSilentCommit isSilentCommit) :=
  quiet.trans ⟨⟨⟨[], rfl, by simp⟩, fun _ member => member, fun noDfu => ⟨noDfu.1, noDfu.1⟩⟩,
    ⟨⟨[], rfl, by simp⟩, Or.inl rfl, Or.inl rfl, rfl, rfl, rfl, rfl, rfl⟩⟩

theorem Quiet.setInProgressId (idInProgress : UInt32) :
    Quiet s (next.setInProgressId idInProgress) :=
  quiet.trans ⟨⟨⟨[], rfl, by simp⟩, fun _ member => member, fun noDfu => ⟨noDfu.1, noDfu.1⟩⟩,
    ⟨⟨[], rfl, by simp⟩, Or.inl rfl, Or.inl rfl, rfl, rfl, rfl, rfl, rfl⟩⟩

theorem Quiet.fatalError (errorCode : Nat) : Quiet s (next.fatalError errorCode) :=
  ((quiet.sendErrorInd _).setState rfl).setResumePoint (by decide)

theorem Quiet.psSpaceError : Quiet s next.psSpaceError :=
  (quiet.sendErrorInd _).setState rfl

theorem Quiet.havePermissionToProceed (indication : AppIndication) :
    Quiet s (next.havePermissionToProceed indication).2 := by
  rw [Sm.havePermissionToProceed]
  split
  · exact quiet
  · exact quiet
  · exact quiet.sendApp _

theorem Quiet.blockingOpIsDone : Quiet s next.blockingOpIsDone := by
  rw [Sm.blockingOpIsDone]
  split
  · exact quiet.sendApp _
  · exact quiet

end

end Primitives

section Handlers

variable {s next : Sm}

section

variable (quiet : Quiet s next) (message : Message)

include quiet

theorem Quiet.partitionDataStopData : Quiet s next.partitionDataStopData :=
  quiet.withCtx (fun noDfu => noDfu) rfl rfl rfl

theorem Quiet.withoutRequest : Quiet s (next.withCtx next.ctx.getNextReqSize.2) :=
  quiet.withCtx (fun noDfu => noDfu) rfl rfl rfl

theorem Quiet.requestBytes : Quiet s next.requestBytes :=
  quiet.withoutRequest.sendHost _

theorem Quiet.informAppsCompleteGotoSync (isSilentCommit : Bool) :
    Quiet s (next.informAppsCompleteGotoSync isSilentCommit) := by
  rw [Sm.informAppsCompleteGotoSync]
  split
  · exact (quiet.sendApp _).setState rfl
  · exact ((quiet.sendHost _).sendApp _).setState rfl

theorem Quiet.handleCheckStatus : Quiet s (next.handleCheckStatus message).2 := by
  rw [Sm.handleCheckStatus.eq_def]
  split
  · exact quiet.setState rfl
  · exact quiet.setState rfl
  · exact quiet

theorem Quiet.handleSync : Quiet s (next.handleSync message).2 := by
  rw [Sm.handleSync.eq_def]
  split
  · split
    · exact quiet
    · exact (quiet.sendHost _).setState rfl
  · exact quiet.record rfl rfl
  · exact quiet.record rfl rfl
  · exact quiet

theorem Quiet.startCfm : Quiet s next.startCfm :=
  quiet.sendHost _

theorem Quiet.confirmAbort (isAsynchronous : Bool) :
    Quiet s (next.confirmAbort isAsynchronous) := by
  have noted : Quiet s { next with asynchronousAbort := isAsynchronous } :=
    quiet.of_eq rfl rfl rfl rfl rfl rfl rfl
  rw [Sm.confirmAbort]
  split <;> split
  · exact noted.send _
  · exact noted
  · exact (noted.send _).send _
  · exact noted.send _

theorem Quiet.notifyStart : Quiet s next.notifyStart :=
  (quiet.sendUpgradeOpsStatus _ (by decide)).sendApp _

theorem Quiet.resendHashStatus : Quiet s next.resendHashStatus := by
  rw [Sm.resendHashStatus]
  split
  · exact quiet
  · exact quiet.send _
  · exact quiet.send _

theorem Quiet.setImageCopyStatus (status : ImageUpgradeCopyStatus) :
    Quiet s (next.setImageCopyStatus status) :=
  quiet.of_eq rfl rfl rfl rfl rfl rfl rfl

theorem Quiet.handleValidationStateChange : Quiet s next.handleValidationStateChange := by
  rw [Sm.handleValidationStateChange]
  split
  · exact ((quiet.record rfl rfl).setImageCopyStatus _).moveToState rfl
  · exact quiet.moveToState rfl

theorem Quiet.backOff : Quiet s next.backOff :=
  (quiet.sendHost _).of_eq rfl rfl rfl rfl rfl rfl rfl

theorem Quiet.handleValidating : Quiet s (next.handleValidating message).2 := by
  rw [Sm.handleValidating.eq_def]
  split
  · exact quiet.handleValidationStateChange
  · exact quiet.backOff
  · exact quiet

theorem Quiet.isValidatedToTrySwap : Quiet s next.isValidatedToTrySwap := by
  rw [Sm.isValidatedToTrySwap]
  split
  · exact quiet.of_eq rfl rfl rfl rfl rfl rfl rfl
  · split
    · exact quiet.sendApp _
    · exact quiet

theorem Quiet.fileTransferCompleted (isSilentCommit informPeer : Bool) :
    Quiet s (next.fileTransferCompleted isSilentCommit informPeer) := by
  have initialised := quiet.sendUpgradeOpsStatus noAction
    (show UpgradeOps.initPeerContext ≠ .delayPrimCommit by decide)
  have informed : Quiet s (if informPeer = true then
      (next.sendUpgradeOpsStatus .initPeerContext noAction).sendUpgradeOpsStatus
        .trnsfrCompltResSendToPeer (if isSilentCommit = true then 1 else 0)
    else next.sendUpgradeOpsStatus .initPeerContext noAction) := by
    split
    · exact initialised.sendUpgradeOpsStatus _ (by decide)
    · exact initialised
  rw [Sm.fileTransferCompleted]
  by_cases silent : isSilentCommit = true
  · rw [if_pos silent]
    exact ((informed.setSilentCommit _).sendHost _).sendUpgradeOpsStatus _ (by decide)
  · rw [if_neg silent]
    exact (informed.setResumePoint (by decide)).send _

theorem Quiet.handleRebootAction : Quiet s next.handleRebootAction := by
  rw [Sm.handleRebootAction]
  split
  · refine Quiet.fileTransferCompleted ?_ _ _
    split
    · exact quiet.setSilentCommit _
    · exact quiet
  · split
    · split
      · exact quiet.fatalError _
      · exact quiet.fileTransferCompleted _ _
    · exact quiet.sendUpgradeOpsStatus _ (by decide)

theorem Quiet.setPreReboot : Quiet s next.setPreReboot := by
  rw [Sm.setPreReboot]
  split
  · exact quiet.setResumePoint (by decide)
  · exact quiet

theorem Quiet.triggerReboot : Quiet s next.triggerReboot := by
  have permission := ((quiet.sendApp (.endDataInd true)).sendUpgradeOpsStatus noAction
    (show UpgradeOps.permitRebootOnCondition ≠ .delayPrimCommit by
      decide)).havePermissionToProceed .applyInd
  rw [Sm.triggerReboot]
  dsimp only
  split
  · exact permission.isValidatedToTrySwap
  · exact permission

theorem Quiet.handleValidated : Quiet s (next.handleValidated message).2 := by
  rw [Sm.handleValidated.eq_def]
  cases message
  case internalContinue =>
    dsimp only
    split <;> exact quiet.sendUpgradeOpsStatus _ (by decide)
  case hostTransferCompleteRes action =>
    cases action with
    | none => exact quiet.sendUpgradeOpsStatus _ (by decide)
    | some action =>
      have noted : Quiet s { next with commitMode := action.toNat % 4 } :=
        quiet.of_eq rfl rfl rfl rfl rfl rfl rfl
      exact noted.sendUpgradeOpsStatus _ (by decide)
  case internalSilentCommitReboot =>
    have validated : Quiet s { next.setState .validated with isValidated := 1 } :=
      (quiet.setState rfl).of_eq rfl rfl rfl rfl rfl rfl rfl
    exact validated.fileTransferCompleted false false
  case internalTriggerReboot => exact quiet.triggerReboot
  case hostIsCsrValidDoneReq => exact quiet.sendUpgradeOpsStatus _ (by decide)
  case hostTransferCompleteInd =>
    dsimp only
    split
    · exact quiet.setPreReboot.sendHost _
    · exact quiet.send _
  case internalReboot => exact quiet.isValidatedToTrySwap
  case vmImageUpgradeCopySuccessful => exact quiet.isValidatedToTrySwap
  case vmDfuCopyValidationSuccess => exact quiet.record rfl rfl
  case vmAudioDfuFailure => exact (quiet.sendApp _).moveToState rfl
  case vmImageUpgradeCopyFailed => exact quiet.moveToState rfl
  all_goals exact quiet

theorem Quiet.handleRestartedForCommit : Quiet s (next.handleRestartedForCommit message).2 := by
  rw [Sm.handleRestartedForCommit.eq_def]
  split
  · exact quiet.sendUpgradeOpsStatus _ (by decide)
  · exact quiet

theorem Quiet.revertOnTimeout : Quiet s next.revertOnTimeout :=
  (((quiet.setResumePoint (by decide)).setState rfl).sendApp _).send _

theorem Quiet.handleCommitVerification : Quiet s (next.handleCommitVerification message).2 := by
  rw [Sm.handleCommitVerification.eq_def]
  split
  · exact quiet.sendUpgradeOpsStatus _ (by decide)
  · exact quiet

theorem Quiet.updateVersion : Quiet s next.updateVersion :=
  quiet.withCtx (fun noDfu => noDfu) rfl rfl rfl

theorem Quiet.handleCommit : Quiet s (next.handleCommit message).2 := by
  rw [Sm.handleCommit.eq_def]
  split
  · have recorded :
        Quiet s { next.setResumePoint .erase with isImageRevertNeededOnAbort := false } :=
      (quiet.setResumePoint (by decide)).of_eq rfl rfl rfl rfl rfl rfl rfl
    have permission := recorded.updateVersion.havePermissionToProceed .blockingInd
    dsimp only
    split
    · exact permission.sendUpgradeOpsStatus _ (by decide)
    · exact permission
  · exact quiet
  · exact quiet.sendUpgradeOpsStatus _ (by decide)
  · exact quiet

theorem Quiet.psFloodAndReboot : Quiet s next.psFloodAndReboot :=
  (quiet.record rfl rfl).record rfl rfl

theorem Quiet.handleRebootToResume : Quiet s (next.handleRebootToResume message).2 := by
  rw [Sm.handleRebootToResume.eq_def]
  cases message
  case hostErrorwarnRes errorCode =>
    dsimp only
    split
    · have permission := quiet.havePermissionToProceed .applyInd
      split
      · exact permission.psFloodAndReboot
      · exact permission
    · exact quiet
  case internalReboot => exact quiet.psFloodAndReboot
  case hostSyncReq => exact quiet.sendErrorInd _
  case hostStartReq => exact quiet.sendErrorInd _
  case hostAbortReq => exact quiet.sendErrorInd _
  all_goals exact quiet

theorem Quiet.handleHostSyncReq (inProgressId : UInt32) :
    Quiet s (next.handleHostSyncReq inProgressId) := by
  have reset : Quiet s { next with forceErase := false, isDfuAbortDueToSyncIdMismatch := false } :=
    quiet.of_eq rfl rfl rfl rfl rfl rfl rfl
  rw [Sm.handleHostSyncReq]
  dsimp only
  split
  · exact reset.sendErrorInd _
  · split
    · exact reset.sendErrorInd _
    · split
      · split <;> exact reset.sendErrorInd _
      · split
        · exact (((reset.sendHost _).setInProgressId _).setState rfl).sendUpgradeOpsStatus _
            (by decide)
        · exact reset.sendErrorInd _

end

end Handlers

section Events

variable {s next : Sm} {answers : Answers}

section

variable (quiet : Quiet s next)

include quiet

theorem Quiet.copyStatus (status : Bool) : Quiet s (next.copyStatus status) := by
  have done : Quiet s { next.blockingOpIsDone with isImgUpgradeCopyDone := true } :=
    quiet.blockingOpIsDone.of_eq rfl rfl rfl rfl rfl rfl rfl
  rw [Sm.copyStatus]
  split
  · refine Quiet.handleValidated (Quiet.setImageCopyStatus ?_ _) _
    exact done.of_eq rfl rfl rfl rfl rfl rfl rfl
  · exact ((done.sendUpgradeOpsStatus _ (by decide)).fatalError _).handleValidated _

theorem Quiet.copyAudioStatus (status : Bool) : Quiet s (next.copyAudioStatus status) := by
  rw [Sm.copyAudioStatus]
  split
  · exact quiet.blockingOpIsDone.handleValidated _
  · exact (quiet.blockingOpIsDone.fatalError _).handleValidated _

theorem Quiet.powerManagementSetState (batteryLow : Bool) :
    Quiet s (next.powerManagementSetState batteryLow) := by
  have noted : Quiet s { next with powerStateBatteryLow := batteryLow } :=
    quiet.of_eq rfl rfl rfl rfl rfl rfl rfl
  rw [Sm.powerManagementSetState]
  split
  · exact noted.send _
  · exact noted

theorem Quiet.handleCommitVerifyProceed : Quiet s (next.handleCommitVerifyProceed answers) := by
  rw [Sm.handleCommitVerifyProceed]
  split
  · exact quiet.fatalError _
  · split
    · exact quiet.moveToState rfl
    · exact (quiet.sendHost _).setState rfl

theorem Quiet.rebootForSilentCommit : Quiet s next.rebootForSilentCommit := by
  rw [Sm.rebootForSilentCommit]
  split
  · exact quiet.handleValidated _
  · exact quiet

theorem Quiet.handleAbortDuringUpgrade : Quiet s next.handleAbortDuringUpgrade := by
  rw [Sm.handleAbortDuringUpgrade]
  split
  · exact quiet
  · split
    · exact quiet.fatalError _
    · exact quiet

theorem Quiet.restartTimer (message : Message) : Quiet s (next.restartTimer message) := by
  rw [Sm.restartTimer]
  split
  · exact (quiet.cancelAll _).send _
  · exact quiet

theorem Quiet.restartReconnectionTimer : Quiet s next.restartReconnectionTimer :=
  (quiet.restartTimer _).restartTimer _

theorem Quiet.sendHostInProgressInd (isPeerDfuStarted isStateCommitHostContinue : Bool) :
    Quiet s (next.sendHostInProgressInd isPeerDfuStarted isStateCommitHostContinue) := by
  rw [Sm.sendHostInProgressInd]
  split
  · split
    · exact quiet.sendHost _
    · exact quiet.setState rfl
  · exact (quiet.sendHost _).setState rfl

theorem Quiet.handleInProgressInd (isPeerNotConnected hasPollInterval : Bool) (action : UInt8) :
    Quiet s (next.handleInProgressInd isPeerNotConnected hasPollInterval action) := by
  rw [Sm.handleInProgressInd]
  split
  · exact quiet.send _
  · split
    · exact quiet.moveToState rfl
    · exact quiet.moveToState rfl

theorem Quiet.handleAbortOfHost : Quiet s next.handleAbortOfHost := by
  have noted : Quiet s { next.sendApp (.endDataInd false) with isValidated := 0 } :=
    (quiet.sendApp (.endDataInd false)).of_eq rfl rfl rfl rfl rfl rfl rfl
  exact noted.moveToState rfl

theorem Quiet.handleImageCopyStatusForPrim : Quiet s next.handleImageCopyStatusForPrim := by
  rw [Sm.handleImageCopyStatusForPrim]
  split
  · split
    · exact quiet.setImageCopyStatus _
    · exact quiet
  · exact quiet.setImageCopyStatus _

theorem Quiet.handleImageCopyStatus (isInternalStateHandling : Bool) :
    Quiet s (next.handleImageCopyStatus isInternalStateHandling) := by
  rw [Sm.handleImageCopyStatus]
  split
  · exact quiet.setPreReboot.sendHost _
  · split
    · exact quiet.send _
    · exact quiet.send _

theorem Quiet.handleValidDoneReqNotReceived : Quiet s next.handleValidDoneReqNotReceived := by
  rw [Sm.handleValidDoneReqNotReceived]
  split
  · exact (quiet.sendUpgradeOpsStatus _ (by decide)).setPreReboot.sendHost _
  · exact quiet.send _

end

end Events

section Boot

variable {s next : Sm} {answers : Answers} {configuration : Configuration}

section

variable (quiet : Quiet s next)

include quiet

theorem Quiet.clearPsKeys : Quiet s next.clearPsKeys :=
  quiet.trans ⟨⟨⟨[], rfl, by simp⟩, fun _ member => member, fun _ => ⟨rfl, rfl⟩⟩,
    ⟨⟨[], rfl, by simp⟩, Or.inl rfl, Or.inr (show UpdateResumePoint.start ≠ _ by decide), rfl, rfl,
      rfl, rfl, rfl⟩⟩

theorem Quiet.clearAllPsKeys : Quiet s next.clearAllPsKeys :=
  quiet.trans ⟨⟨⟨[], rfl, by simp⟩, fun _ member => member, fun _ => ⟨rfl, rfl⟩⟩,
    ⟨⟨[], rfl, by simp⟩, Or.inl rfl, Or.inr (show UpdateResumePoint.start ≠ _ by decide), rfl, rfl,
      rfl, rfl, rfl⟩⟩

theorem Quiet.handleCommitRevert : Quiet s (next.handleCommitRevert answers) := by
  rw [Sm.handleCommitRevert]
  split
  · exact quiet.clearAllPsKeys.sendApp _
  · exact quiet

theorem Quiet.setInitVersions : Quiet s (next.setInitVersions configuration) :=
  quiet.withCtx (fun noDfu => noDfu) rfl rfl rfl

theorem Quiet.abortCaseDfuOnReboot : Quiet s next.abortCaseDfuOnReboot := by
  rw [Sm.abortCaseDfuOnReboot]
  split
  · exact quiet.of_eq rfl rfl rfl rfl rfl rfl rfl
  · exact quiet

theorem Quiet.requestApplicationReconnectIfNeeded :
    Quiet s next.requestApplicationReconnectIfNeeded := by
  rw [Sm.requestApplicationReconnectIfNeeded]
  split
  · exact quiet.sendApp _
  · exact quiet

theorem Quiet.startCaseDfuTimer : Quiet s next.startCaseDfuTimer := by
  rw [Sm.startCaseDfuTimer]
  split
  · exact quiet.send _
  · exact quiet

theorem Quiet.smInit : Quiet s next.smInit := by
  have sent := quiet.startCaseDfuTimer
  rw [Sm.smInit]
  split
  · split
    · exact sent.send _
    · refine Quiet.send (Quiet.setState ?_ rfl) _
      exact sent.of_eq rfl rfl rfl rfl rfl rfl rfl
  · exact sent.setState rfl
  · exact sent.setState rfl

end

end Boot

section Upheld

/-- What quiet steps keep, and what dropping an upgrade keeps. -/
structure Upheld (answers : Answers) (property : Sm → Prop) : Prop where
  quiet : ∀ {s next}, property s → Quiet s next → property next
  transfer : ∀ {s}, property s → s.keys.upgradeInProgressKey = .start →
    property (s.setState .dataTransfer)
  erase : ∀ {s next}, property s → Quiet (s.erase answers) next → next.smState.isPlain = true →
    property next
  abort : ∀ {s}, property s → property (s.abort answers).2
  cleanUp : ∀ {s}, property s → ∀ isError, property (s.cleanUpCaseDfu answers isError)

/-- Events whose handlers neither commit nor write or check the data. -/
def Event.isQuiet : Event → Bool
  | host _ | pending _ | operation _ _ | hashAllSectionsUpdateStatus _ | permit _
  | partitionDataInitWrapper | completeMsgFromUpgradePeer | commitConfirmForSilentCommit
  | boot _ _ => false
  | _ => true

variable {s next : Sm} {answers : Answers} {property : Sm → Prop}

section

variable (upheld : Upheld answers property) (holds : property s)

include upheld holds

theorem Upheld.handleAborting (message : Message) :
    property (s.handleAborting answers message).2 := by
  rw [Sm.handleAborting.eq_def]
  split
  · exact upheld.abort holds
  · exact upheld.quiet (upheld.abort holds) ((Quiet.refl _).confirmAbort _)
  · exact upheld.quiet holds ((Quiet.refl s).sendErrorInd _)
  · exact holds

theorem Upheld.handleHostAbortReq : property (s.handleHostAbortReq answers) := by
  rw [Sm.handleHostAbortReq]
  split
  · exact upheld.quiet (upheld.cleanUp holds true) ((Quiet.refl _).confirmAbort _)
  · exact upheld.quiet holds (((Quiet.refl _).sendApp _).confirmAbort _)
  · exact upheld.quiet (upheld.abort holds) ((Quiet.refl _).confirmAbort _)

theorem Upheld.defaultHandler (message : Message) :
    property (s.defaultHandler answers message) := by
  have quiet := Quiet.refl s
  rw [Sm.defaultHandler.eq_def]
  cases message
  case hostSyncReq => exact upheld.quiet holds (quiet.handleHostSyncReq _)
  case hostAbortReq => exact upheld.handleHostAbortReq holds
  case internalDelayRevertReboot => exact upheld.quiet holds (quiet.record rfl rfl)
  case hostVersionReq => exact upheld.quiet holds (quiet.sendHost _)
  case hostVariantReq => exact upheld.quiet holds (quiet.sendHost _)
  case internalBatteryLow => exact upheld.quiet holds (quiet.setState rfl)
  case internalErase => exact upheld.erase holds ((Quiet.refl _).setState rfl) rfl
  case hostErrorwarnRes =>
    refine upheld.quiet holds (Quiet.sendUpgradeOpsStatus ?_ _ (by decide))
    split
    · exact quiet.of_eq rfl rfl rfl rfl rfl rfl rfl
    · exact quiet
  case hostCommitCfm => exact upheld.quiet holds (quiet.fatalError _)
  case hostSilentCommitSupportedReq => exact upheld.quiet holds (quiet.sendHost _)
  case internalSendAbortCfmLater => exact upheld.quiet holds ((quiet.sendHost _).sendApp _)
  case internalSendAbortCfm =>
    dsimp only
    split
    · exact upheld.quiet holds (quiet.send _)
    · exact upheld.quiet holds ((quiet.sendHost _).sendApp _)
  case vmHashAllSectionsSuccessful =>
    exact upheld.quiet holds (quiet.of_eq rfl rfl rfl rfl rfl rfl rfl)
  case vmHashAllSectionsFailed => exact upheld.quiet holds (quiet.of_eq rfl rfl rfl rfl rfl rfl rfl)
  case internalCaseDfuReconnectionTimeout => exact upheld.cleanUp holds true
  case internalScheduleTransportDisconnectCfm => exact upheld.quiet holds (quiet.sendApp _)
  all_goals exact holds

theorem Upheld.handleNotifyHostOfCommit (hasPeerDfuNotEnded : Bool) :
    property (s.handleNotifyHostOfCommit answers hasPeerDfuNotEnded) := by
  rw [Sm.handleNotifyHostOfCommit]
  split
  · exact upheld.quiet holds ((Quiet.refl _).send _)
  · exact upheld.erase holds ((Quiet.refl _).informAppsCompleteGotoSync _) rfl

theorem Upheld.handleNotifyHostOfComplete (isPrimary : Bool) :
    property (s.handleNotifyHostOfComplete answers isPrimary) := by
  rw [Sm.handleNotifyHostOfComplete]
  split
  · exact upheld.erase holds ((Quiet.refl _).informAppsCompleteGotoSync _) rfl
  · exact upheld.quiet holds ((Quiet.refl _).send _)

theorem Upheld.handleUpgradeOperationInd (peer : Option Peer)
    (ops : UpgradeOps) (action : UInt8)
    (commits : ops = .delayPrimCommit → property s.commitConfirmYes) :
    property (s.handleUpgradeOperationInd answers peer ops action) := by
  have quiet := Quiet.refl s
  rw [Sm.handleUpgradeOperationInd.eq_def]
  dsimp only
  split
  · split
    · exact upheld.quiet holds (quiet.sendApp _)
    · exact holds
  · split
    · exact upheld.quiet holds (quiet.fatalError _)
    · exact holds
  · split
    · exact holds
    · exact commits rfl
  · split
    · split <;> exact upheld.quiet holds (quiet.sendHostInProgressInd _ _)
    · exact upheld.quiet holds (quiet.sendHostInProgressInd _ _)
  · split
    · exact holds
    · exact upheld.quiet holds quiet.handleCommitVerifyProceed
  · split
    · split <;> exact upheld.quiet holds (quiet.handleInProgressInd _ _ _)
    · exact upheld.quiet holds (quiet.handleInProgressInd _ _ _)
  · exact upheld.handleNotifyHostOfCommit holds _
  · exact upheld.handleNotifyHostOfComplete holds _
  · split
    · exact holds
    · exact upheld.quiet holds quiet.handleAbortOfHost
  · split
    · exact upheld.quiet holds (quiet.of_eq rfl rfl rfl rfl rfl rfl rfl)
    · exact holds
  · split
    · exact holds
    · split
      · exact upheld.quiet holds (quiet.send _)
      · exact upheld.quiet holds (quiet.handleImageCopyStatus _)
  · split
    · split
      · exact holds
      · exact upheld.quiet holds quiet.handleImageCopyStatusForPrim
    · exact upheld.quiet holds (quiet.handleImageCopyStatus _)
  · split
    · exact upheld.quiet holds quiet.handleValidDoneReqNotReceived
    · exact holds
  · split
    · exact upheld.quiet (upheld.abort holds) ((Quiet.refl _).sendApp _)
    · exact holds
  · split
    · exact holds
    · exact upheld.quiet holds quiet.handleRebootAction
  all_goals exact holds

theorem Upheld.operation {index : Nat} {peer : Option Peer}
    (commits : ∀ taken action, property taken → Quiet s taken →
      (.delayPrimCommit, action) ∈ s.operations → property taken.commitConfirmYes)
    (handled : ((s.operations[index]?).map fun (ops, action) =>
      { s with operations := s.operations.eraseIdx index }.handleUpgradeOperationInd answers
        peer ops action) = some next) : property next := by
  obtain ⟨⟨ops, action⟩, isNext, rfl⟩ := Option.map_eq_some_iff.mp handled
  have fewer : Quiet s { s with operations := s.operations.eraseIdx index } :=
    ⟨⟨⟨[], rfl, by simp⟩, fun _ member => List.mem_of_mem_eraseIdx member, id⟩,
      ⟨⟨[], rfl, by simp⟩, Or.inl rfl, Or.inl rfl, rfl, rfl, rfl, rfl, rfl⟩⟩
  have taken := upheld.quiet holds fewer
  refine upheld.handleUpgradeOperationInd taken peer ops action ?_
  rintro rfl
  exact commits _ action taken fewer (List.mem_of_getElem? isNext)

theorem Upheld.permit {perm : UpgradePermission}
    (handles : ∀ after, s.handleMsg answers .vmPermitUpgrade = some after → property after)
    (permitted : s.permit answers perm = some next) : property next := by
  have mapped : ∀ perm, ((s.handleMsg answers .vmPermitUpgrade).map fun s =>
      { s with perms := perm }) = some next → property next := by
    intro perm mapped
    obtain ⟨after, handled, rfl⟩ := Option.map_eq_some_iff.mp mapped
    exact upheld.quiet (handles after handled)
      ((Quiet.refl after).of_eq rfl rfl rfl rfl rfl rfl rfl)
  rw [Sm.permit.eq_def] at permitted
  split at permitted
  · split at permitted
    · exact some.inj permitted ▸ holds
    · exact some.inj permitted ▸
        upheld.quiet holds ((Quiet.refl s).of_eq rfl rfl rfl rfl rfl rfl rfl)
  · exact mapped _ permitted

theorem Upheld.eraseStatus {status : Bool}
    (erased : s.eraseStatus status = some next) : property next := by
  have done := upheld.quiet holds (Quiet.refl s).blockingOpIsDone
  have quiet := Quiet.refl s.blockingOpIsDone
  rw [Sm.eraseStatus] at erased
  split at erased
  · rename_i start
    split at erased
    · split at erased
      · split at erased
        · rw [← some.inj erased]
          exact upheld.transfer (upheld.quiet done quiet.requestBytes) start
        · contradiction
      · rw [← some.inj erased]
        exact upheld.quiet done (quiet.fatalError _)
    · split at erased
      · rw [← some.inj erased]
        exact upheld.quiet done
          ((quiet.send .internalSendAbortCfm).of_eq rfl rfl rfl rfl rfl rfl rfl)
      · rw [← some.inj erased]
        exact done
  · rw [← some.inj erased]
    exact done

theorem Upheld.cleanUpCaseDfuOfApp (isError : Bool) :
    property (s.cleanUpCaseDfuOfApp answers isError) := by
  rw [Sm.cleanUpCaseDfuOfApp]
  split
  · exact upheld.cleanUp holds isError
  · exact holds

theorem Upheld.handleEvent {event : Event} (isQuiet : event.isQuiet = true)
    (handled : s.handleEvent answers event = some next) : property next := by
  have quiet := Quiet.refl s
  have kept {after : Sm} (handled : some after = some next) (still : Quiet s after) :
      property next := some.inj handled ▸ upheld.quiet holds still
  rw [Sm.handleEvent.eq_def] at handled
  cases event with
  | eraseStatus => exact upheld.eraseStatus holds handled
  | copyStatus => exact kept handled (quiet.copyStatus _)
  | copyAudioStatus => exact kept handled (quiet.copyAudioStatus _)
  | powerManagementSetState => exact kept handled (quiet.powerManagementSetState _)
  | copyAudioImage => exact kept handled (quiet.record rfl rfl)
  | imageSwap => exact kept handled (quiet.handleValidated _)
  | commitMsgFromUpgradePeer => exact kept handled quiet.handleCommitVerifyProceed
  | errorMsgFromUpgradePeer => exact kept handled (quiet.fatalError _)
  | rebootForSilentCommit => exact kept handled quiet.rebootForSilentCommit
  | handleRebootAction => exact kept handled quiet.handleRebootAction
  | handleAbortDuringUpgrade => exact kept handled quiet.handleAbortDuringUpgrade
  | restartReconnectionTimer => exact kept handled quiet.restartReconnectionTimer
  | cleanUpCaseDfu => exact some.inj handled ▸ upheld.cleanUpCaseDfuOfApp holds _
  | psClearStore => exact kept handled quiet.clearPsKeys
  | applyResponse | blockingResponse | startHashChecking | delayRevertReboot =>
    exact kept handled (quiet.send _)
  | setSilentCommitSupported | setCaseDfuSupport =>
    exact kept handled (quiet.of_eq rfl rfl rfl rfl rfl rfl rfl)
  | _ => contradiction

end

end Upheld

end HeadsetAdk.UpgradeSm
