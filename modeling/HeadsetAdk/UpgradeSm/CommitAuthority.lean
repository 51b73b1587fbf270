import HeadsetAdk.UpgradeSm.Quiet

/-! # Who may commit the new image -/

namespace HeadsetAdk.UpgradeSm

open Upgrade (UpgradeCtx HostErrorCode)
open EventLog (sinceLast sinceLast_cons mem_sinceLast_append)
open Option (map_eq_some_iff some.inj)

section Calm

variable {s next after : Sm} {answers : Answers}

section

variable (calm : Calm s next)

include calm

theorem Calm.of_eq (log : after.log = next.log) (operations : after.operations = next.operations)
    (psKeys : after.ctx.psKeys.dfuPartitionNum = next.ctx.psKeys.dfuPartitionNum)
    (savedPsKeys : after.ctx.savedPsKeys.dfuPartitionNum = next.ctx.savedPsKeys.dfuPartitionNum) :
    Calm s after := by
  refine calm.trans ⟨⟨[], log, by simp⟩, fun action member => ?_, fun noDfu => ?_⟩
  · rw [← operations]
    exact member
  · rw [psKeys, savedPsKeys]
    exact noDfu

theorem Calm.sendUpgradeOpsStatus {ops : UpgradeOps} (action : UInt8)
    (other : ops ≠ .delayPrimCommit) : Calm s (next.sendUpgradeOpsStatus ops action) :=
  calm.trans ((Quiet.refl next).sendUpgradeOpsStatus action other).calm

theorem Calm.quiet (quiet : Quiet next after) : Calm s after :=
  calm.trans quiet.calm

theorem Calm.closePartition : Calm s (next.closePartition answers) := by
  rw [Sm.closePartition]
  split
  · exact calm.trans ⟨⟨[], rfl, by simp⟩, fun _ member => member,
      ((UpgradeCtx.Plain.refl next.ctx).partitionClose answers.firmware).noDfu⟩
  · exact calm

theorem Calm.partitionsEraseAllManaged : Calm s next.partitionsEraseAllManaged := by
  rw [Sm.partitionsEraseAllManaged]
  split
  · have emptied : Calm s { next with ctx := next.ctx.withFlash [] } :=
      calm.of_eq rfl rfl rfl rfl
    exact emptied.record rfl
  · exact calm

theorem Calm.freeData : Calm s (next.freeData answers) := by
  have cancelled : Calm s (next.cancelAll .internalCaseDfuReconnectionTimeout) :=
    calm.quiet ((Quiet.refl next).cancelAll _)
  have closed : Calm s
      ((next.cancelAll .internalCaseDfuReconnectionTimeout).closePartition answers) :=
    cancelled.closePartition
  exact closed.of_eq rfl rfl rfl rfl

theorem Calm.forgetUpgrade : Calm s next.forgetUpgrade :=
  ((calm.quiet (Quiet.refl next).clearPsKeys).sendUpgradeOpsStatus noAction
    (show UpgradeOps.clearPeerPskeys ≠ .delayPrimCommit by decide)).of_eq rfl rfl rfl rfl

theorem Calm.eraseBank : Calm s next.eraseBank :=
  calm.partitionsEraseAllManaged.of_eq rfl rfl rfl rfl

theorem Calm.erase : Calm s (next.erase answers) := by
  have freed : Calm s (next.freeData answers) := calm.freeData
  have erased := freed.forgetUpgrade.eraseBank
  rw [Sm.erase]
  split
  · exact erased.quiet (Quiet.refl _).blockingOpIsDone
  · exact erased

theorem Calm.abortBank : Calm s (next.abortBank answers) := by
  have permission := calm.quiet ((Quiet.refl _).havePermissionToProceed .blockingInd)
  rw [Sm.abortBank]
  dsimp only
  split
  · exact (permission.record rfl).erase.setState _
  · exact permission

theorem Calm.abort : Calm s (next.abort answers).2 := by
  have reset : Calm s { next with isValidated := 0 } := calm.of_eq rfl rfl rfl rfl
  have told := reset.sendUpgradeOpsStatus noAction
    (show UpgradeOps.handleAbort ≠ .delayPrimCommit by decide)
  rw [Sm.abort]
  split
  · exact reset
  · split
    · exact told
    · exact told.abortBank

theorem Calm.cleanUpCaseDfu (isError : Bool) : Calm s (next.cleanUpCaseDfu answers isError) := by
  have erased : Calm s (next.erase answers) := calm.erase
  have reset : Calm s (next.erase answers).resetCaseDfu := erased.of_eq rfl rfl rfl rfl
  refine Calm.setState ?_ _
  rw [Sm.endCaseDfu]
  split
  · exact reset.quiet ((Quiet.refl _).sendApp _)
  · split
    · exact reset.quiet ((Quiet.refl _).sendApp _)
    · exact reset

theorem Calm.withCtx {ctx : UpgradeCtx}
    (noDfu : next.ctx.psKeys.dfuPartitionNum = 0 ∧ next.ctx.savedPsKeys.dfuPartitionNum = 0 →
      ctx.psKeys.dfuPartitionNum = 0 ∧ ctx.savedPsKeys.dfuPartitionNum = 0) :
    Calm s (next.withCtx ctx) :=
  calm.trans ⟨⟨[], rfl, by simp⟩, fun _ member => member, noDfu⟩

theorem Calm.openPartitionData : Calm s next.openPartitionData := by
  rw [Sm.openPartitionData]
  split
  · exact calm.of_eq rfl rfl rfl rfl
  · exact calm.of_eq rfl rfl rfl rfl

end

theorem plain_requestFirst (ctx : UpgradeCtx) : UpgradeCtx.Plain ctx (requestFirst ctx) := by
  have reset : UpgradeCtx.Plain ctx { ctx with partitionNum := 0 } :=
    (UpgradeCtx.Plain.refl ctx).of_eq rfl rfl rfl
  rw [requestFirst]
  dsimp only
  split
  · exact (reset.withState .generic1stPart).requestData _ _
  · exact reset.requestData _ _

theorem plain_requestRest (ctx : UpgradeCtx) : UpgradeCtx.Plain ctx (requestRest ctx) := by
  have same := UpgradeCtx.Plain.refl ctx
  rw [requestRest]
  split
  · refine UpgradeCtx.Plain.requestData ?_ _ _
    exact same.of_eq rfl rfl rfl
  · split
    · exact same.requestData _ _
    · exact same

section

variable (calm : Calm s next) {answer : Bool × Sm} {message : Message}

include calm

theorem Calm.partitionDataInit : Calm s next.partitionDataInit.2 := by
  have opened := calm.openPartitionData
  rw [Sm.partitionDataInit]
  split
  · exact Calm.partitionsEraseAllManaged (opened.withCtx (plain_requestFirst _).noDfu)
  · exact opened.withCtx (plain_requestRest _).noDfu

theorem Calm.partitionDataParse {data : List UInt8}
    {answer : HostErrorCode × Sm} (parsed : next.partitionDataParse answers data = some answer) :
    Calm s answer.2 := by
  rw [Sm.partitionDataParse] at parsed
  split at parsed
  · obtain ⟨⟨code, ctx⟩, parsedCtx, rfl⟩ := map_eq_some_iff.mp parsed
    have kept : Calm s (next.withCtx ctx) :=
      calm.withCtx ((UpgradeCtx.Plain.refl next.ctx).parse parsedCtx).plain.noDfu
    have noted : Calm s (next.withParsed ctx) := by
      rw [Sm.withParsed]
      split
      · exact kept
      · exact kept.record rfl
    dsimp only
    split
    · exact noted.record rfl
    · exact noted
  · contradiction

theorem Calm.afterParse (code : HostErrorCode) (lastPacket : Bool) :
    Calm s (next.afterParse code lastPacket) := by
  have quiet := Quiet.refl next
  rw [Sm.afterParse.eq_def]
  split
  · exact calm.quiet (quiet.fatalError _)
  · split
    · exact calm.quiet quiet.requestBytes
    · split
      · exact calm.quiet (quiet.withoutRequest.setState rfl)
      · exact calm.quiet quiet.withoutRequest
  · exact calm.quiet (quiet.fatalError _)
  · refine Calm.sendUpgradeOpsStatus (Calm.setState ?_ _) _ (by decide)
    exact calm.of_eq rfl rfl rfl rfl
  · exact calm.quiet quiet.psSpaceError
  · exact calm.quiet (quiet.fatalError _)

theorem Calm.validateFinish
    (finished : next.validateFinish answers = some answer) : Calm s answer.2 := by
  rw [Sm.validateFinish] at finished
  split at finished
  · contradiction
  · rw [← some.inj finished]
    exact calm.record rfl

theorem Calm.hashCheckDone : Calm s next.hashCheckDone :=
  calm.of_eq rfl rfl rfl rfl

theorem Calm.hashCheckedOk : Calm s next.hashCheckedOk :=
  (calm.setResumePoint _).moveToState _

theorem Calm.hashCheckFailed : Calm s next.hashCheckFailed :=
  (calm.quiet ((Quiet.refl _).fatalError _)).hashCheckDone

theorem Calm.hashCheckFailedEarly
    (failed : next.hashCheckFailedEarly = some after) : Calm s after := by
  rw [Sm.hashCheckFailedEarly] at failed
  split at failed
  · rw [← some.inj failed]
    exact calm.hashCheckFailed
  · contradiction

theorem Calm.finishHashCheck
    (finished : next.finishHashCheck answers = some after) : Calm s after := by
  rw [Sm.finishHashCheck] at finished
  split at finished
  · obtain ⟨⟨passed, validated⟩, checked, rfl⟩ := map_eq_some_iff.mp finished
    have kept : Calm s validated := calm.validateFinish checked
    dsimp only
    split
    · exact kept.hashCheckDone.hashCheckedOk
    · exact kept.hashCheckFailed
  · contradiction

theorem Calm.hashInitialise : Calm s next.hashInitialise := by
  have numbered : Calm s { next with
      vctx := some next.hashContexts, hashContexts := next.hashContexts + 1 } :=
    calm.of_eq rfl rfl rfl rfl
  exact numbered.record rfl

theorem Calm.startHashCheck
    (started : next.startHashCheck answers = some after) : Calm s after := by
  have initialised := calm.hashInitialise
  rw [Sm.startHashCheck] at started
  split at started
  · contradiction
  · dsimp only at started
    split at started
    · split at started
      · exact (initialised.record rfl).finishHashCheck started
      · exact (initialised.record rfl).hashCheckFailedEarly started
    · split at started
      · rw [← some.inj started]
        exact initialised.record rfl
      · exact initialised.hashCheckFailedEarly started

theorem Calm.handleBatteryLow
    (handled : next.handleBatteryLow answers message = some answer) : Calm s answer.2 := by
  rw [Sm.handleBatteryLow.eq_def] at handled
  split at handled
  · rw [← some.inj handled]
    exact calm
  · split at handled
    · rw [← some.inj handled]
      exact calm
    · obtain ⟨⟨code, parsed⟩, parsedData, rfl⟩ := map_eq_some_iff.mp handled
      have kept : Calm s parsed := calm.partitionDataParse parsedData
      dsimp only
      split
      · exact kept
      · exact kept.quiet ((Quiet.refl _).partitionDataStopData.sendErrorInd _)
    · rw [← some.inj handled]
      exact calm.quiet ((Quiet.refl _).sendErrorInd _)

theorem Calm.handleReady (message : Message) : Calm s (next.handleReady message).2 := by
  have quiet := Quiet.refl next
  rw [Sm.handleReady.eq_def]
  split
  · split
    · exact calm.quiet ((quiet.sendApp _).setState rfl).startCfm
    · split
      · exact (calm.setState _).quiet (Quiet.refl _).startCfm
      · exact (calm.moveToState _).quiet (Quiet.refl _).startCfm
      · exact calm.quiet (quiet.setState rfl).startCfm
      · exact calm.quiet (quiet.setState rfl).startCfm
      · exact calm.quiet (quiet.moveToState rfl).startCfm
      · exact calm.quiet (quiet.setState rfl).startCfm
      · exact calm.quiet (quiet.fatalError _)
  · exact calm

theorem Calm.handleDataReady (message : Message) :
    Calm s (next.handleDataReady answers message).2 := by
  have notified := calm.partitionDataInit.quiet (Quiet.refl _).notifyStart
  rw [Sm.handleDataReady.eq_def]
  split
  · split
    · dsimp only
      split
      · exact notified
      · exact (notified.quiet (Quiet.refl _).requestBytes).setState _
    · exact calm.quiet ((Quiet.refl _).fatalError _)
  · exact calm

theorem Calm.handleDataTransfer
    (handled : next.handleDataTransfer answers message = some answer) : Calm s answer.2 := by
  rw [Sm.handleDataTransfer.eq_def] at handled
  split at handled
  · obtain ⟨⟨code, parsed⟩, parsedData, rfl⟩ := map_eq_some_iff.mp handled
    have kept : Calm s parsed := calm.partitionDataParse parsedData
    exact kept.afterParse code _
  · rw [← some.inj handled]
    exact calm

theorem Calm.handleDataHashChecking
    (handled : next.handleDataHashChecking answers message = some answer) : Calm s answer.2 := by
  rw [Sm.handleDataHashChecking.eq_def] at handled
  split at handled
  · split at handled
    · rw [← some.inj handled]
      exact calm.quiet (Quiet.refl _).resendHashStatus
    · obtain ⟨started, startedCheck, rfl⟩ := map_eq_some_iff.mp handled
      exact calm.startHashCheck startedCheck
  · rw [← some.inj handled]
    exact calm.of_eq rfl rfl rfl rfl
  · obtain ⟨finished, finishedCheck, rfl⟩ := map_eq_some_iff.mp handled
    exact calm.finishHashCheck finishedCheck
  · obtain ⟨failed, failedCheck, rfl⟩ := map_eq_some_iff.mp handled
    exact calm.hashCheckFailedEarly failedCheck
  · rw [← some.inj handled]
    exact calm

theorem Calm.handleWaitForValidate (message : Message) :
    Calm s (next.handleWaitForValidate message).2 := by
  rw [Sm.handleWaitForValidate.eq_def]
  split
  · split
    · exact calm.moveToState _
    · exact calm.quiet ((Quiet.refl _).fatalError _)
  · exact calm.quiet (Quiet.refl _).backOff
  · exact calm

theorem Calm.partitionDataInitWrapper : Calm s (next.partitionDataInitWrapper answers) := by
  rw [Sm.partitionDataInitWrapper]
  split
  · exact calm.partitionDataInit
  · exact calm

end

end Calm

def Entry.confirms : Entry → Bool
  | handling .commitConfirm (.hostCommitCfm action) => action = hostActionYes
  | completeMsgFromUpgradePeer .commitConfirm => true
  | _ => false

def Entry.startsBoot : Entry → Bool
  | upgradeInit => true
  | _ => false

def Confirmed (log : List Entry) : Prop :=
  ∃ entry ∈ sinceLast Entry.startsBoot log, entry.confirms = true

def CommitsAuthorised (log : List Entry) : Prop :=
  ∀ isSilentCommit earlier, .imageUpgradeSwapCommit isSilentCommit :: earlier <:+ log →
    isSilentCommit = true ∨ Confirmed earlier

section Log

variable {log : List Entry} {entry : Entry} {recent : List Entry}

theorem Confirmed.append (confirmed : Confirmed log)
    (calm : ∀ entry ∈ recent, entry.startsBoot = false) : Confirmed (recent ++ log) := by
  obtain ⟨entry, member, confirms⟩ := confirmed
  exact ⟨entry, mem_sinceLast_append calm member, confirms⟩

theorem Confirmed.now (confirms : entry.confirms = true) : Confirmed (entry :: log) := by
  have inside : entry.startsBoot = false := by
    cases entry <;> first | rfl | contradiction
  refine ⟨entry, ?_, confirms⟩
  rw [sinceLast_cons inside]
  exact List.mem_cons_self

theorem CommitsAuthorised.cons (authorised : CommitsAuthorised log)
    (here : ∀ isSilentCommit, entry = .imageUpgradeSwapCommit isSilentCommit →
      isSilentCommit = true ∨ Confirmed log) :
    CommitsAuthorised (entry :: log) := by
  intro isSilentCommit earlier suffix
  cases List.suffix_cons_iff.mp suffix with
  | inl same =>
    obtain ⟨rfl, rfl⟩ := List.cons.inj same
    exact here isSilentCommit rfl
  | inr suffix => exact authorised isSilentCommit earlier suffix

theorem CommitsAuthorised.append (authorised : CommitsAuthorised log)
    (calm : ∀ entry ∈ recent, entry.isCalm = true) : CommitsAuthorised (recent ++ log) := by
  induction recent with
  | nil => exact authorised
  | cons entry recent ih =>
    refine CommitsAuthorised.cons
      (ih fun other member => calm other (List.mem_cons_of_mem entry member)) ?_
    rintro isSilentCommit rfl
    exact absurd (calm _ List.mem_cons_self) (by simp [Entry.isCalm])

theorem Entry.startsBoot_of_isCalm (calm : entry.isCalm = true) : entry.startsBoot = false := by
  cases entry <;> first | rfl | contradiction

end Log

structure CommitSound (s : Sm) : Prop where
  noDfu : s.ctx.psKeys.dfuPartitionNum = 0 ∧ s.ctx.savedPsKeys.dfuPartitionNum = 0
  delayed : ∀ action, (.delayPrimCommit, action) ∈ s.operations → Confirmed s.log
  authorised : CommitsAuthorised s.log

section CommitSound

variable {s next : Sm} {answers : Answers}

theorem Calm.confirmed (calm : Calm s next) (confirmed : Confirmed s.log) : Confirmed next.log := by
  obtain ⟨recent, same, allCalm⟩ := calm.log
  rw [same]
  exact confirmed.append fun entry member => Entry.startsBoot_of_isCalm (allCalm entry member)

section

variable (sound : CommitSound s)

include sound

theorem CommitSound.calm (calm : Calm s next) : CommitSound next where
  noDfu := calm.noDfu sound.noDfu
  delayed action member :=
    calm.confirmed (sound.delayed action (calm.operations action member))
  authorised := by
    obtain ⟨recent, same, allCalm⟩ := calm.log
    rw [same]
    exact sound.authorised.append allCalm

theorem CommitSound.quiet (quiet : Quiet s next) : CommitSound next :=
  sound.calm quiet.calm

theorem CommitSound.commitUpgrades (authority : s.keys.isSilentCommit = true ∨ Confirmed s.log) :
    CommitSound s.commitUpgrades where
  noDfu := sound.noDfu
  delayed action member := by
    show Confirmed ([.imageUpgradeSwapCommit s.keys.isSilentCommit] ++ s.log)
    exact (sound.delayed action member).append (by simp [Entry.startsBoot])
  authorised := by
    refine sound.authorised.cons ?_
    rintro isSilentCommit same
    rw [← Entry.imageUpgradeSwapCommit.inj same]
    exact authority

theorem CommitSound.commitConfirmYes (authority : s.keys.isSilentCommit = true ∨ Confirmed s.log) :
    CommitSound s.commitConfirmYes := by
  rw [Sm.commitConfirmYes]
  split
  · have cancelled := sound.quiet
      ((Quiet.refl s).cancelFirst .internalSilentCommitReconnectionTimeout)
    exact (cancelled.commitUpgrades authority).quiet (((Quiet.refl _).sendApp _).moveToState rfl)
  · exact (sound.commitUpgrades authority).quiet (((Quiet.refl _).sendApp _).moveToState rfl)

theorem CommitSound.handleCommitHostContinue (message : Message) :
    CommitSound (s.handleCommitHostContinue answers message).2 := by
  rw [Sm.handleCommitHostContinue.eq_def]
  cases message
  case hostInProgressRes =>
    exact sound.quiet (((Quiet.refl s).cancelFirst _).sendUpgradeOpsStatus _ (by decide))
  case internalReconnectionTimeout =>
    have isOther : s.isDfuUpdate = false := by
      rw [Sm.isDfuUpdate, sound.noDfu.1]
      rfl
    dsimp only
    split
    · rename_i isUpdate
      rw [isOther] at isUpdate
      exact absurd isUpdate.1 nofun
    · exact sound.quiet (Quiet.refl s).revertOnTimeout
  all_goals exact sound

theorem CommitSound.commitCfm {action : UInt8}
    (confirmed : action = hostActionYes → Confirmed s.log) : CommitSound (s.commitCfm action) := by
  have told := sound.quiet ((Quiet.refl s).sendUpgradeOpsStatus action
    (show UpgradeOps.checkPeerDuringCommit ≠ .delayPrimCommit by decide))
  rw [Sm.commitCfm]
  split
  · rename_i isYes
    exact ⟨told.noDfu, fun _ _ => confirmed isYes, told.authorised⟩
  · split
    · exact told.quiet ((Quiet.refl _).setState rfl)
    · exact told

theorem CommitSound.handleCommitConfirm {message : Message}
    (noted : ∀ action, message = .hostCommitCfm action → action = hostActionYes → Confirmed s.log)
    (authority : message = .internalContinue → s.keys.isSilentCommit = true ∨ Confirmed s.log) :
    CommitSound (s.handleCommitConfirm answers message).2 := by
  rw [Sm.handleCommitConfirm.eq_def]
  cases message
  case hostCommitCfm => exact sound.commitCfm (noted _ rfl)
  case internalContinue => exact sound.commitConfirmYes (authority rfl)
  case hostInProgressRes =>
    refine CommitSound.handleCommitHostContinue (CommitSound.calm ?_ ((Calm.refl _).record ?_)) _
    · exact sound.quiet ((Quiet.refl s).setState rfl)
    · rfl
  all_goals exact sound

end

theorem commitSound_upheld (answers : Answers) : Upheld answers CommitSound where
  quiet sound quiet := sound.quiet quiet
  transfer sound _ := sound.calm ((Calm.refl _).setState _)
  erase sound quiet _ := sound.calm ((Calm.refl _).erase.quiet quiet)
  abort sound := sound.calm (Calm.refl _).abort
  cleanUp sound isError := sound.calm ((Calm.refl _).cleanUpCaseDfu isError)

theorem Calm.handleInState {message : Message} {answer : Bool × Sm}
    (notHostContinue : s.smState ≠ .commitHostContinue) (notConfirm : s.smState ≠ .commitConfirm)
    (notAborting : s.smState ≠ .aborting)
    (handled : s.handleInState answers message = some answer) : Calm s answer.2 := by
  have calm := Calm.refl s
  have quiet := Quiet.refl s
  rw [Sm.handleInState] at handled
  split at handled
  · exact some.inj handled ▸ (quiet.handleCheckStatus message).calm
  · exact some.inj handled ▸ (quiet.handleSync message).calm
  · exact some.inj handled ▸ calm.handleReady message
  · exact some.inj handled ▸ calm
  · contradiction
  · exact calm.handleBatteryLow handled
  · exact some.inj handled ▸ calm.handleDataReady message
  · exact calm.handleDataTransfer handled
  · exact some.inj handled ▸ calm
  · exact calm.handleDataHashChecking handled
  · exact some.inj handled ▸ (quiet.handleValidating message).calm
  · exact some.inj handled ▸ calm.handleWaitForValidate message
  · exact some.inj handled ▸ (quiet.handleValidated message).calm
  · exact some.inj handled ▸ (quiet.handleRestartedForCommit message).calm
  · contradiction
  · exact some.inj handled ▸ (quiet.handleCommitVerification message).calm
  · contradiction
  · exact some.inj handled ▸ (quiet.handleCommit message).calm
  · exact some.inj handled ▸ calm
  · exact some.inj handled ▸ (quiet.handleRebootToResume message).calm

section

variable (sound : CommitSound s)

include sound

theorem CommitSound.handleInState {message : Message} {answer : Bool × Sm}
    (noted : s.smState = .commitConfirm → ∀ action, message = .hostCommitCfm action →
      action = hostActionYes → Confirmed s.log)
    (authority : s.smState = .commitConfirm → message = .internalContinue →
      s.keys.isSilentCommit = true ∨ Confirmed s.log)
    (handled : s.handleInState answers message = some answer) : CommitSound answer.2 := by
  by_cases hostContinue : s.smState = .commitHostContinue
  · rw [Sm.handleInState, hostContinue] at handled
    exact some.inj handled ▸ sound.handleCommitHostContinue message
  by_cases confirm : s.smState = .commitConfirm
  · rw [Sm.handleInState, confirm] at handled
    exact some.inj handled ▸ sound.handleCommitConfirm (noted confirm) (authority confirm)
  by_cases aborting : s.smState = .aborting
  · rw [Sm.handleInState, aborting] at handled
    exact some.inj handled ▸ (commitSound_upheld answers).handleAborting sound message
  · exact sound.calm (Calm.handleInState hostContinue confirm aborting handled)

theorem CommitSound.handleMsg {message : Message}
    (authority : s.smState = .commitConfirm → message = .internalContinue →
      s.keys.isSilentCommit = true ∨ Confirmed s.log)
    (handled : s.handleMsg answers message = some next) : CommitSound next := by
  obtain ⟨⟨isHandled, after⟩, handledInState, rfl⟩ := map_eq_some_iff.mp handled
  have records : Calm s (s.record (.handling s.smState message)) := (Calm.refl s).record rfl
  have kept : CommitSound after := by
    refine CommitSound.handleInState (sound.calm records) ?_ ?_ handledInState
    · rintro (confirm : s.smState = _) action rfl isYes
      show Confirmed (.handling s.smState _ :: s.log)
      rw [confirm]
      exact Confirmed.now (decide_eq_true isYes)
    · intro confirm continues
      exact (authority confirm continues).imp_right records.confirmed
  dsimp only
  split
  · exact (commitSound_upheld answers).defaultHandler kept message
  · exact kept

theorem CommitSound.zeroContext (configuration : Configuration) :
    CommitSound (s.zeroContext configuration) where
  noDfu := ⟨sound.noDfu.2, sound.noDfu.2⟩
  delayed _ member := absurd member List.not_mem_nil
  authorised := sound.authorised.cons nofun

theorem CommitSound.upgradeInit {configuration : Configuration}
    {found : UpgradeCtx} (booted : s.upgradeInit answers configuration found = some next) :
    CommitSound next := by
  obtain ⟨permitted, handled, rfl⟩ := map_eq_some_iff.mp booted
  have prepared : CommitSound ((((s.zeroContext configuration).handleCommitRevert
      answers).abortCaseDfuOnReboot.setInitVersions
        configuration).requestApplicationReconnectIfNeeded.smInit) :=
    (sound.zeroContext configuration).quiet ((Quiet.refl
      _).handleCommitRevert.abortCaseDfuOnReboot.setInitVersions.requestApplicationReconnectIfNeeded.smInit)
  have kept : CommitSound permitted := by
    refine prepared.handleMsg ?_ handled
    exact fun _ continues => nomatch continues
  rw [Sm.finishInit]
  refine CommitSound.quiet ?_ ((Quiet.refl _).sendApp _)
  split
  · exact kept.calm ((Calm.refl permitted).of_eq rfl rfl rfl rfl)
  · exact kept

end

end CommitSound

def Event.commitsUnasked (s : Sm) : Event → Bool
  | pending index => s.smState = .commitConfirm && s.queue[index]? = some .internalContinue
  | completeMsgFromUpgradePeer => s.smState ≠ .commitConfirm
  | _ => false

/-- Where no continue message stands in for a confirmation. -/
def CommitPermitted (s : Sm) (event : Event × Answers) : Prop :=
  event.1.commitsUnasked s = true → s.keys.isSilentCommit = true ∨ Confirmed s.log

section Steps

variable {s next : Sm} {answers : Answers}

section

variable (sound : CommitSound s)

include sound

theorem CommitSound.handleOther {message : Message}
    (handled : s.handleMsg answers message = some next) (other : message ≠ .internalContinue) :
    CommitSound next :=
  sound.handleMsg (fun _ continues => absurd continues other) handled

theorem CommitSound.pending {index : Nat}
    (authority : s.smState = .commitConfirm → s.queue[index]? = some .internalContinue →
      s.keys.isSilentCommit = true ∨ Confirmed s.log)
    (handled : ((s.queue[index]?).bind fun message =>
      { s with queue := s.queue.eraseIdx index }.handleMsg answers message) = some next) :
    CommitSound next := by
  obtain ⟨message, isNext, handled⟩ := Option.bind_eq_some_iff.mp handled
  have taken : CommitSound { s with queue := s.queue.eraseIdx index } :=
    sound.calm ((Calm.refl s).of_eq rfl rfl rfl rfl)
  refine taken.handleMsg ?_ handled
  rintro confirm rfl
  exact authority confirm isNext

theorem CommitSound.completeMsgFromUpgradePeer
    (authority : s.smState = .commitConfirm ∨ s.keys.isSilentCommit = true ∨ Confirmed s.log) :
    CommitSound s.completeMsgFromUpgradePeer := by
  have records : Calm s (s.record (.completeMsgFromUpgradePeer s.smState)) :=
    (Calm.refl s).record rfl
  refine (sound.calm records).commitConfirmYes ?_
  rcases authority with confirm | silent | confirmed
  · refine Or.inr ?_
    rw [confirm]
    exact Confirmed.now rfl
  · exact Or.inl silent
  · exact Or.inr (records.confirmed confirmed)

theorem CommitSound.commitConfirmForSilentCommit : CommitSound s.commitConfirmForSilentCommit := by
  rw [Sm.commitConfirmForSilentCommit]
  split
  · exact sound.commitConfirmYes (Or.inl (by assumption))
  · exact sound

theorem CommitSound.step {event : Event × Answers}
    (permitted : CommitPermitted s event) (steps : s.step event = some next) :
    CommitSound next := by
  obtain ⟨event, answers⟩ := event
  rw [Sm.step] at steps
  split at steps
  · cases event with
    | host message =>
      rw [Sm.handleEvent] at steps
      split at steps
      · rename_i isHost
        refine sound.handleOther steps ?_
        rintro rfl
        contradiction
      · contradiction
    | pending =>
      refine sound.pending (fun confirm continues => permitted ?_) steps
      simp [Event.commitsUnasked, confirm, continues]
    | operation =>
      refine (commitSound_upheld answers).operation sound (fun _ action taken fewer member => ?_)
        steps
      exact taken.commitConfirmYes (Or.inr (fewer.calm.confirmed (sound.delayed action member)))
    | hashAllSectionsUpdateStatus =>
      rw [Sm.handleEvent, Sm.hashAllSectionsUpdateStatus] at steps
      split at steps
      · exact sound.handleOther steps nofun
      · exact sound.handleOther steps nofun
    | permit =>
      exact (commitSound_upheld answers).permit sound
        (fun _ handled => sound.handleOther handled nofun) steps
    | partitionDataInitWrapper =>
      exact some.inj steps ▸ sound.calm (Calm.refl s).partitionDataInitWrapper
    | completeMsgFromUpgradePeer =>
      refine some.inj steps ▸ sound.completeMsgFromUpgradePeer ?_
      by_cases confirm : s.smState = .commitConfirm
      · exact Or.inl confirm
      · exact Or.inr (permitted (decide_eq_true confirm))
    | commitConfirmForSilentCommit =>
      exact some.inj steps ▸ sound.commitConfirmForSilentCommit
    | boot => exact sound.upgradeInit steps
    | _ => exact (commitSound_upheld answers).handleEvent sound rfl steps
  · contradiction

end

theorem factory_commitSound : CommitSound factory :=
  ⟨⟨rfl, rfl⟩, fun _ member => absurd member List.not_mem_nil,
    fun _ _ suffix => absurd (List.suffix_nil.mp suffix) (List.cons_ne_nil _ _)⟩

section Exact

variable {log : List Entry} {entry : Entry}

theorem Confirmed.of_cons (confirmed : Confirmed (entry :: log))
    (silent : entry.confirms = false) : Confirmed log := by
  obtain ⟨other, member, confirms⟩ := confirmed
  by_cases boot : entry.startsBoot = true
  · rw [sinceLast, List.takeWhile_cons_of_neg (by simp [boot])] at member
    exact absurd member List.not_mem_nil
  · rw [sinceLast_cons (Bool.eq_false_iff.mpr boot)] at member
    cases List.mem_cons.mp member with
    | inl same =>
      rw [same, silent] at confirms
      contradiction
    | inr member => exact ⟨other, member, confirms⟩

theorem Sm.commitConfirmYes_log (s : Sm) :
    s.commitConfirmYes.log =
      .app .statusCommiting :: .imageUpgradeSwapCommit s.keys.isSilentCommit :: s.log := by
  rw [Sm.commitConfirmYes]
  split <;> rfl

theorem CommitsAuthorised.commitConfirmYes
    (authorised : CommitsAuthorised s.commitConfirmYes.log) :
    s.keys.isSilentCommit = true ∨ Confirmed s.log := by
  refine authorised _ _ ?_
  rw [Sm.commitConfirmYes_log]
  exact List.suffix_cons _ _

theorem Sm.handleMsg_continue (confirm : s.smState = .commitConfirm) :
    s.handleMsg answers .internalContinue =
      some (s.record (.handling .commitConfirm .internalContinue)).commitConfirmYes := by
  simp only [Sm.handleMsg, Sm.handleInState, Sm.record, confirm]
  rfl

theorem CommitsAuthorised.pending {index : Nat}
    (handled : s.handleEvent answers (.pending index) = some next)
    (authorised : CommitsAuthorised next.log) (confirm : s.smState = .commitConfirm)
    (continues : s.queue[index]? = some .internalContinue) :
    s.keys.isSilentCommit = true ∨ Confirmed s.log := by
  rw [Sm.handleEvent, continues, Option.bind_some] at handled
  rw [some.inj (handled.symm.trans (Sm.handleMsg_continue confirm))] at authorised
  exact authorised.commitConfirmYes.imp_right fun confirmed => confirmed.of_cons rfl

theorem CommitsAuthorised.completeMsgFromUpgradePeer
    (authorised : CommitsAuthorised s.completeMsgFromUpgradePeer.log)
    (other : s.smState ≠ .commitConfirm) : s.keys.isSilentCommit = true ∨ Confirmed s.log := by
  refine authorised.commitConfirmYes.imp_right fun confirmed => confirmed.of_cons ?_
  cases state : s.smState <;> first | rfl | contradiction

theorem CommitPermitted.of_authorised {event : Event × Answers}
    (steps : s.step event = some next) (authorised : CommitsAuthorised next.log) :
    CommitPermitted s event := by
  obtain ⟨event, answers⟩ := event
  intro unasked
  rw [Sm.step] at steps
  dsimp only at steps unasked
  split at steps
  · rw [Event.commitsUnasked.eq_def] at unasked
    split at unasked
    · obtain ⟨confirm, continues⟩ := Bool.and_eq_true_iff.mp unasked
      exact authorised.pending steps (of_decide_eq_true confirm) (of_decide_eq_true continues)
    · rw [← some.inj steps] at authorised
      exact authorised.completeMsgFromUpgradePeer (of_decide_eq_true unasked)
    · contradiction
  · contradiction

end Exact

end Steps

instance (log : List Entry) : Decidable (Confirmed log) :=
  inferInstanceAs (Decidable (∃ entry ∈ sinceLast Entry.startsBoot log, entry.confirms = true))

instance (s : Sm) (event : Event × Answers) : Decidable (CommitPermitted s event) :=
  inferInstanceAs (Decidable (event.1.commitsUnasked s = true →
    s.keys.isSilentCommit = true ∨ Confirmed s.log))

/-- After the reboot the host connects, and the application handles its answer. -/
def reconnect (operation : Nat) : List Event :=
  [.host (.hostSyncReq 1), .host .hostStartReq, .host (.hostInProgressRes 0),
    .operation operation (some primaryPeer)]

/-- An upgrade, up to the question to the other earbud whether it is ready to commit. -/
def upgradeToVerification : List Event :=
  plainBoot :: footerDownload ++ installAndReboot ++ reconnect 1 ++
    [.pending 0, .operation 1 (some primaryPeer)]

def confirmedUpgrade : List Event :=
  upgradeToVerification ++
    [.commitMsgFromUpgradePeer, .host (.hostCommitCfm 0), .operation 2 (some primaryPeer),
      .completeMsgFromUpgradePeer]

/-- The host connects again while the other earbud is asked, so there is a continue message when
the other earbud is ready. -/
def unconfirmedUpgrade : List Event :=
  upgradeToVerification ++ reconnect 2 ++ [.commitMsgFromUpgradePeer, .pending 0]

end HeadsetAdk.UpgradeSm
