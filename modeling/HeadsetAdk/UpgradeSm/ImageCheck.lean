import HeadsetAdk.UpgradeSm.CommitAuthority

/-!
# What the check of the signature is about

Where the machine validates, the hash of the image has been compared with a signature.  The
invariant relates the context of the hash and the signature to the footer in the log.  When the
other bank is erased at the start of a transfer, they are left from the last one if all its data was
there, which breaks it.
-/

namespace HeadsetAdk.UpgradeSm

open Upgrade (UpgradeCtx HostErrorCode)
open EventLog (Stands)
open Option (map_eq_some_iff some.inj)

def StandsSince (event : Entry) (older log : List Entry) : Prop :=
  Stands Entry.changesData event older log

def FooterStands (signature : List UInt8) (log : List Entry) : Prop :=
  ∃ older, StandsSince (.footer (some signature)) older log

def HashStands (vctx : Nat) (signature : List UInt8) (log : List Entry) : Prop :=
  ∃ older, StandsSince (.imageUpgradeHashInitialise vctx) older log ∧
    FooterStands signature older

/-- The check of the data in the other bank has passed, with the signature of its footer. -/
def Checked (log : List Entry) : Prop :=
  ∃ vctx signature older,
    StandsSince (.validateFinish (some vctx) (some signature) true) older log ∧
      HashStands vctx signature older

section Log

variable {log recent : List Entry} {vctx : Nat} {signature : List UInt8}

theorem FooterStands.append (stands : FooterStands signature log)
    (still : ∀ entry ∈ recent, entry.changesData = false) :
    FooterStands signature (recent ++ log) := by
  obtain ⟨older, stands⟩ := stands
  exact ⟨older, stands.append still⟩

theorem HashStands.append (stands : HashStands vctx signature log)
    (still : ∀ entry ∈ recent, entry.changesData = false) :
    HashStands vctx signature (recent ++ log) := by
  obtain ⟨older, stands, footer⟩ := stands
  exact ⟨older, stands.append still, footer⟩

theorem Checked.append (checked : Checked log)
    (still : ∀ entry ∈ recent, entry.changesData = false) : Checked (recent ++ log) := by
  obtain ⟨vctx, signature, older, stands, hash⟩ := checked
  exact ⟨vctx, signature, older, stands.append still, hash⟩

end Log

def Validates (s : Sm) : Prop :=
  s.keys.upgradeInProgressKey = .preValidate ∨ s.smState = .validating

def Message.isHostData : Message → Bool
  | hostData _ _ => true
  | _ => false

/-- What is left in memory of a transfer is about the data in the other bank. -/
structure HashSound (s : Sm) : Prop where
  complete : s.ctx.isDataXferComplete = true → s.ctx.state = .footer ∧ s.partitionData = true
  footer : s.ctx.isDataXferComplete = true →
    ∀ signature, s.ctx.signature = some signature → FooterStands signature s.log
  hash : ∀ vctx, s.vctx = some vctx → s.ctx.isDataXferComplete = true ∧
    ∀ signature, s.ctx.signature = some signature → HashStands vctx signature s.log
  checking : s.smState = .dataHashChecking → s.ctx.isDataXferComplete = true
  checked : Validates s → Checked s.log
  transfer : s.smState = .dataReady ∨ s.smState = .dataTransfer →
    s.keys.upgradeInProgressKey ≠ .preValidate
  noWait : s.smState ≠ .waitForValidate

/-- Nothing is left in memory of a transfer. -/
structure Cleared (s : Sm) : Prop where
  noVctx : s.vctx = none
  incomplete : s.ctx.isDataXferComplete = false
  start : s.keys.upgradeInProgressKey ≠ .preValidate

section Keeping

variable {s next : Sm}

section

variable (cleared : Cleared s)

include cleared

theorem Cleared.still (still : Still s next) : Cleared next where
  noVctx := still.vctx.trans cleared.noVctx
  incomplete := still.isDataXferComplete.trans cleared.incomplete
  start := by
    cases still.resumePoint with
    | inl same =>
      rw [same]
      exact cleared.start
    | inr other => exact other

theorem Cleared.record (entry : Entry) : Cleared (s.record entry) :=
  { cleared with }

theorem Cleared.hashSound (notChecking : s.smState ≠ .dataHashChecking)
    (notValidating : s.smState ≠ .validating) (noWait : s.smState ≠ .waitForValidate) :
    HashSound s where
  complete complete := by rw [cleared.incomplete] at complete; contradiction
  footer complete := by rw [cleared.incomplete] at complete; contradiction
  hash vctx same := by rw [cleared.noVctx] at same; contradiction
  checking checking := absurd checking notChecking
  checked validates := validates.elim (fun same => absurd same cleared.start)
    (fun same => absurd same notValidating)
  transfer _ := cleared.start
  noWait := noWait

theorem Cleared.plain (plain : s.smState.isPlain = true) : HashSound s := by
  have other : ∀ state : UpgradeState, state.isPlain = false → s.smState ≠ state := by
    rintro _ notPlain rfl
    rw [notPlain] at plain
    contradiction
  exact cleared.hashSound (other _ rfl) (other _ rfl) (other _ rfl)

theorem Cleared.setState {state : UpgradeState}
    (plain : state.isPlain = true) : HashSound (s.setState state) :=
  Cleared.plain { cleared with } plain

end

theorem HashSound.still (sound : HashSound s) (still : Still s next) : HashSound next := by
  obtain ⟨recent, log, harmless⟩ := still.log
  have state : ∀ state : UpgradeState, state.isPlain = false → next.smState = state →
      s.smState = state := by
    intro state notPlain same
    cases still.smState with
    | inl kept => rw [← kept, same]
    | inr plain =>
      rw [same, notPlain] at plain
      contradiction
  have preValidate : next.keys.upgradeInProgressKey = .preValidate →
      s.keys.upgradeInProgressKey = .preValidate := by
    intro same
    cases still.resumePoint with
    | inl kept => rw [← kept, same]
    | inr other => exact absurd same other
  constructor
  · rw [still.isDataXferComplete, still.state, still.partitionData]
    exact sound.complete
  · rw [still.isDataXferComplete, still.signature, log]
    exact fun complete signature same => (sound.footer complete signature same).append harmless
  · rw [still.isDataXferComplete, still.signature, still.vctx, log]
    intro vctx same
    obtain ⟨complete, stands⟩ := sound.hash vctx same
    exact ⟨complete, fun signature given => (stands signature given).append harmless⟩
  · rw [still.isDataXferComplete]
    exact fun checking => sound.checking (state _ rfl checking)
  · rw [log]
    intro validates
    exact (sound.checked (validates.imp preValidate (state _ rfl))).append harmless
  · intro transfers same
    exact sound.transfer (transfers.imp (state _ rfl) (state _ rfl)) (preValidate same)
  · exact fun waits => sound.noWait (state _ rfl waits)

theorem HashSound.noVctx (sound : HashSound s) (incomplete : s.ctx.isDataXferComplete = false) :
    s.vctx = none := by
  cases vctx : s.vctx with
  | none => rfl
  | some vctx' =>
    rw [(sound.hash _ vctx).1] at incomplete
    contradiction

theorem HashSound.quiet (sound : HashSound s) (quiet : Quiet s next) : HashSound next :=
  sound.still quiet.still

theorem HashSound.of_eq (sound : HashSound s) (log : next.log = s.log)
    (smState : next.smState = s.smState)
    (keys : next.keys.upgradeInProgressKey = s.keys.upgradeInProgressKey)
    (vctx : next.vctx = s.vctx) (partitionData : next.partitionData = s.partitionData)
    (isDataXferComplete : next.ctx.isDataXferComplete = s.ctx.isDataXferComplete)
    (state : next.ctx.state = s.ctx.state) (signature : next.ctx.signature = s.ctx.signature) :
    HashSound next :=
  sound.still ⟨⟨[], log, by simp⟩, Or.inl smState, Or.inl keys, vctx, partitionData,
    isDataXferComplete, state, signature⟩

end Keeping

section Erasing

variable {s : Sm} {answers : Answers}

theorem Sm.partitionsEraseAllManaged_smState (s : Sm) :
    s.partitionsEraseAllManaged.smState = s.smState := by
  rw [Sm.partitionsEraseAllManaged]
  split <;> rfl

theorem Sm.partitionsEraseAllManaged_vctx (s : Sm) : s.partitionsEraseAllManaged.vctx = s.vctx := by
  rw [Sm.partitionsEraseAllManaged]
  split <;> rfl

theorem Cleared.partitionsEraseAllManaged (cleared : Cleared s) :
    Cleared s.partitionsEraseAllManaged := by
  rw [Sm.partitionsEraseAllManaged]
  split
  · exact { cleared with }
  · exact cleared

theorem cleared_erase (s : Sm) : Cleared (s.erase answers) := by
  have erased : Cleared (s.freeData answers).forgetUpgrade.eraseBank := by
    constructor
    · show Sm.vctx (Sm.partitionsEraseAllManaged _) = none
      rw [Sm.partitionsEraseAllManaged_vctx]
      rfl
    · rfl
    · nofun
  rw [Sm.erase]
  split
  · exact erased.still (Quiet.refl _).blockingOpIsDone.still
  · exact erased

theorem HashSound.abort (sound : HashSound s) : HashSound (s.abort answers).2 := by
  have reset : HashSound { s with isValidated := 0 } := sound.of_eq rfl rfl rfl rfl rfl rfl rfl rfl
  have told := reset.still ((Still.refl _).sendUpgradeOpsStatus .handleAbort noAction)
  rw [Sm.abort]
  split
  · exact reset
  · split
    · exact told
    · dsimp only
      rw [Sm.abortBank]
      dsimp only
      split
      · exact (cleared_erase _).setState rfl
      · exact told.quiet ((Quiet.refl _).havePermissionToProceed _)

theorem Sm.cleanUpCaseDfu_hashSound (s : Sm) (isError : Bool) :
    HashSound (s.cleanUpCaseDfu answers isError) := by
  have reset : Cleared (s.erase answers).resetCaseDfu :=
    ⟨(cleared_erase s).noVctx, (cleared_erase s).incomplete, (cleared_erase s).start⟩
  refine Cleared.setState ?_ rfl
  rw [Sm.endCaseDfu]
  split
  · exact reset.still ((Quiet.refl _).sendApp _).still
  · split
    · exact reset.still ((Quiet.refl _).sendApp _).still
    · exact reset

end Erasing

section Transfer

variable {s next : Sm} {answers : Answers}

theorem HashSound.toTransfer (sound : HashSound s)
    (start : s.keys.upgradeInProgressKey ≠ .preValidate) {state : UpgradeState}
    (transfers : state = .dataReady ∨ state = .dataTransfer) : HashSound (s.setState state) where
  complete := sound.complete
  footer := sound.footer
  hash := sound.hash
  checking checking := by
    rw [show state = .dataHashChecking from checking] at transfers
    simp at transfers
  checked validates := by
    refine sound.checked (validates.imp_right fun validating => ?_)
    rw [show state = .validating from validating] at transfers
    simp at transfers
  transfer _ := start
  noWait waits := by
    rw [show state = .waitForValidate from waits] at transfers
    simp at transfers

theorem hashSound_upheld (answers : Answers) : Upheld answers HashSound where
  quiet sound quiet := sound.quiet quiet
  transfer sound start := by
    refine sound.toTransfer ?_ (Or.inr rfl)
    rw [start]
    decide
  erase _ quiet isPlain := ((cleared_erase _).still quiet.still).plain isPlain
  abort sound := sound.abort
  cleanUp _ isError := Sm.cleanUpCaseDfu_hashSound _ isError

theorem HashSound.toValidating (sound : HashSound s) (checked : Checked s.log) :
    HashSound (s.moveToState .validating) where
  complete := sound.complete
  footer := sound.footer
  hash := sound.hash
  checking := nofun
  checked _ := checked
  transfer := by rintro (same | same) <;> contradiction
  noWait := nofun

theorem HashSound.openPartitionData (sound : HashSound s) : HashSound s.openPartitionData := by
  rw [Sm.openPartitionData]
  split
  · rename_i isOpen
    exact sound.of_eq rfl rfl rfl rfl isOpen.symm rfl rfl rfl
  · rename_i notOpen
    have incomplete : s.ctx.isDataXferComplete ≠ true := fun complete =>
      notOpen (sound.complete complete).2
    exact ⟨fun complete => absurd complete incomplete, fun complete => absurd complete incomplete,
      fun vctx same => absurd (sound.hash vctx same).1 incomplete, sound.checking, sound.checked,
      sound.transfer, sound.noWait⟩

theorem Sm.openPartitionData_erasesFirst (s : Sm) :
    s.openPartitionData.erasesFirst = s.erasesFirst := by
  rw [Sm.openPartitionData]
  split <;> rfl

theorem Sm.openPartitionData_isDataXferComplete (s : Sm) :
    s.openPartitionData.ctx.isDataXferComplete = s.ctx.isDataXferComplete := by
  rw [Sm.openPartitionData]
  split <;> rfl

/-- What the invariant needs of the context of the parser is as before. -/
structure SameData (ctx next : UpgradeCtx) : Prop where
  complete : next.isDataXferComplete = ctx.isDataXferComplete
  state : next.state = ctx.state
  signature : next.signature = ctx.signature

theorem SameData.requestData {ctx next : UpgradeCtx} (same : SameData ctx next)
    (size offset : Nat) : SameData ctx (next.requestData size offset) :=
  { same with }

theorem sameData_requestRest (ctx : UpgradeCtx) : SameData ctx (requestRest ctx) := by
  have same : SameData ctx ctx := ⟨rfl, rfl, rfl⟩
  rw [requestRest]
  split
  · refine SameData.requestData ?_ _ _
    exact ⟨rfl, rfl, rfl⟩
  · split
    · exact same.requestData _ _
    · exact same

theorem HashSound.partitionDataInit (sound : HashSound s)
    (erases : s.erasesFirst = true →
      s.ctx.isDataXferComplete = false ∧ s.keys.upgradeInProgressKey ≠ .preValidate)
    (notChecking : s.smState ≠ .dataHashChecking) (notValidating : s.smState ≠ .validating) :
    HashSound s.partitionDataInit.2 := by
  have opened := sound.openPartitionData
  rw [Sm.partitionDataInit]
  split
  · rename_i first
    rw [Sm.openPartitionData_erasesFirst] at first
    obtain ⟨incomplete, start⟩ := erases first
    have cleared :
        Cleared (s.openPartitionData.withCtx (requestFirst s.openPartitionData.ctx)) := by
      refine ⟨sound.noVctx incomplete, (plain_requestFirst _).complete.trans ?_, start⟩
      rw [Sm.openPartitionData_isDataXferComplete]
      exact incomplete
    refine Cleared.hashSound cleared.partitionsEraseAllManaged ?_ ?_ ?_
    all_goals rw [Sm.partitionsEraseAllManaged_smState]
    · exact notChecking
    · exact notValidating
    · exact sound.noWait
  · have same := sameData_requestRest s.openPartitionData.ctx
    exact opened.of_eq rfl rfl rfl rfl rfl same.complete same.state same.signature

structure Parsed (answer : HostErrorCode × Sm) : Prop where
  sound : HashSound answer.2
  state : answer.1 = .dataTransferComplete → answer.2.ctx.state = .footer
  partitionData : answer.2.partitionData = true
  footer : answer.1 = .dataTransferComplete →
    ∀ signature, answer.2.ctx.signature = some signature → FooterStands signature answer.2.log

theorem Sm.withParsed_smState (s : Sm) (ctx : UpgradeCtx) :
    (s.withParsed ctx).smState = s.smState := by
  rw [Sm.withParsed]
  split <;> rfl

theorem Sm.withParsed_ctx (s : Sm) (ctx : UpgradeCtx) : (s.withParsed ctx).ctx = ctx := by
  rw [Sm.withParsed]
  split <;> rfl

theorem Sm.withParsed_partitionData (s : Sm) (ctx : UpgradeCtx) :
    (s.withParsed ctx).partitionData = s.partitionData := by
  rw [Sm.withParsed]
  split <;> rfl

variable {answer : HostErrorCode × Sm} {message : Message}

theorem HashSound.partitionDataParse (sound : HashSound s)
    (start : s.ctx.isDataXferComplete = false → s.keys.upgradeInProgressKey ≠ .preValidate)
    (notChecking : s.smState ≠ .dataHashChecking) (notValidating : s.smState ≠ .validating)
    {data : List UInt8} (parsed : s.partitionDataParse answers data = some answer) :
    Parsed answer := by
  rw [Sm.partitionDataParse] at parsed
  split at parsed
  · rename_i isOpen
    obtain ⟨⟨code, ctx⟩, parsedCtx, rfl⟩ := map_eq_some_iff.mp parsed
    have answered := (UpgradeCtx.Plain.refl s.ctx).parse parsedCtx
    by_cases incomplete : s.ctx.isDataXferComplete = false
    · have cleared : Cleared (s.withParsed ctx) := by
        rw [Sm.withParsed]
        split <;> exact ⟨sound.noVctx incomplete, answered.plain.complete.trans incomplete,
          start incomplete⟩
      have kept : HashSound (s.withParsed ctx) := by
        apply cleared.hashSound
        all_goals rw [Sm.withParsed_smState]
        · exact notChecking
        · exact notValidating
        · exact sound.noWait
      dsimp only
      split
      · rename_i completes
        have recorded : HashSound ((s.withParsed ctx).record (.footer ctx.signature)) := by
          apply (cleared.record _).hashSound
          all_goals rw [Sm.record, Sm.withParsed_smState]
          · exact notChecking
          · exact notValidating
          · exact sound.noWait
        refine ⟨recorded, fun _ => ?_, (Sm.withParsed_partitionData s ctx).trans isOpen,
          fun _ signature same => ?_⟩
        · rw [Sm.record, Sm.withParsed_ctx]
          exact answered.footer completes.1
        · rw [Sm.record, Sm.withParsed_ctx] at same
          rw [same]
          exact ⟨_, Stands.now⟩
      · rename_i notComplete
        refine ⟨kept, fun completes => ?_, (Sm.withParsed_partitionData s ctx).trans isOpen,
          fun completes => ?_⟩
        · exact absurd ⟨completes, incomplete⟩ notComplete
        · exact absurd ⟨completes, incomplete⟩ notComplete
    · have complete := Bool.not_eq_false _ ▸ incomplete
      have before : UpgradeCtx.FooterDone s.ctx s.ctx :=
        ⟨complete, (sound.complete complete).1, rfl, rfl⟩
      have done := before.parse parsedCtx
      dsimp only
      rw [if_neg fun both => incomplete both.2, Sm.withParsed, if_pos done.flash]
      refine ⟨?_, fun _ => done.state, isOpen, fun _ signature same => ?_⟩
      · exact sound.of_eq rfl rfl rfl rfl rfl (done.complete.trans complete.symm)
          (done.state.trans (sound.complete complete).1.symm) done.signature
      · exact sound.footer complete signature (done.signature ▸ same)
  · contradiction

theorem Parsed.dataXferComplete (parsed : Parsed answer) (done : answer.1 = .dataTransferComplete) :
    HashSound (answer.2.dataXferComplete.setState .dataHashChecking) where
  complete _ := ⟨parsed.state done, parsed.partitionData⟩
  footer _ := parsed.footer done
  hash vctx same := ⟨rfl, (parsed.sound.hash vctx same).2⟩
  checking _ := rfl
  checked validates := parsed.sound.checked (validates.imp_right nofun)
  transfer := by rintro (same | same) <;> contradiction
  noWait := nofun

theorem Parsed.afterParse {code : HostErrorCode} (parsed : Parsed (code, s))
    (lastPacket : Bool) : HashSound (s.afterParse code lastPacket) := by
  have sound := parsed.sound
  have quiet := Quiet.refl s
  rw [Sm.afterParse.eq_def]
  split
  · exact sound.quiet (quiet.fatalError _)
  · split
    · exact sound.quiet quiet.requestBytes
    · split
      · exact sound.quiet (quiet.withoutRequest.setState rfl)
      · exact sound.quiet quiet.withoutRequest
  · exact sound.quiet (quiet.fatalError _)
  · exact (parsed.dataXferComplete rfl).still
      ((Still.refl _).sendUpgradeOpsStatus .handleHashCheckRequest noAction)
  · exact sound.quiet quiet.psSpaceError
  · exact sound.quiet (quiet.fatalError _)

theorem HashSound.handleDataTransfer (sound : HashSound s) (transfer : s.smState = .dataTransfer)
    {answer : Bool × Sm} (handled : s.handleDataTransfer answers message = some answer) :
    HashSound answer.2 := by
  rw [Sm.handleDataTransfer.eq_def] at handled
  split at handled
  · obtain ⟨⟨code, after⟩, parsedData, rfl⟩ := map_eq_some_iff.mp handled
    refine Parsed.afterParse (sound.partitionDataParse ?_ ?_ ?_ parsedData) _
    · exact fun _ => sound.transfer (Or.inr transfer)
    · rw [transfer]
      decide
    · rw [transfer]
      decide
  · exact some.inj handled ▸ sound

theorem HashSound.handleBatteryLow (sound : HashSound s) (low : s.smState = .batteryLow)
    (start : message.isHostData = true → s.ctx.isDataXferComplete = false →
      s.keys.upgradeInProgressKey ≠ .preValidate) {answer : Bool × Sm}
    (handled : s.handleBatteryLow answers message = some answer) : HashSound answer.2 := by
  rw [Sm.handleBatteryLow.eq_def] at handled
  split at handled
  · exact some.inj handled ▸ sound
  · split at handled
    · exact some.inj handled ▸ sound
    · obtain ⟨⟨code, after⟩, parsedData, rfl⟩ := map_eq_some_iff.mp handled
      have parsed : Parsed (code, after) := by
        refine sound.partitionDataParse (start rfl) ?_ ?_ parsedData
        · rw [low]
          decide
        · rw [low]
          decide
      dsimp only
      split
      · exact parsed.sound
      · exact parsed.sound.quiet ((Quiet.refl _).partitionDataStopData.sendErrorInd _)
    · exact some.inj handled ▸ sound.quiet ((Quiet.refl s).sendErrorInd _)

theorem HashSound.handleReady (sound : HashSound s) (message : Message) :
    HashSound (s.handleReady message).2 := by
  have quiet := Quiet.refl s
  rw [Sm.handleReady.eq_def]
  split
  · split
    · exact sound.quiet ((quiet.sendApp _).setState rfl).startCfm
    · split
      · rename_i start
        have started : HashSound (s.setState .dataReady) :=
          sound.toTransfer (by rw [start]; decide) (Or.inl rfl)
        exact started.quiet (Quiet.refl _).startCfm
      · rename_i preValidate
        have validating := sound.toValidating (sound.checked (Or.inl preValidate))
        exact validating.quiet (Quiet.refl _).startCfm
      · exact sound.quiet (quiet.setState rfl).startCfm
      · exact sound.quiet (quiet.setState rfl).startCfm
      · exact sound.quiet (quiet.moveToState rfl).startCfm
      · exact sound.quiet (quiet.setState rfl).startCfm
      · exact sound.quiet (quiet.fatalError _)
  · exact sound

theorem Sm.partitionDataInit_keys (s : Sm) : s.partitionDataInit.2.keys = s.keys := by
  rw [Sm.partitionDataInit]
  split
  · rw [Sm.partitionsEraseAllManaged]
    split <;> rfl
  · rfl

theorem HashSound.handleDataReady (sound : HashSound s) (ready : s.smState = .dataReady)
    (erases : message = .hostStartDataReq → s.erasesFirst = true →
      s.ctx.isDataXferComplete = false) : HashSound (s.handleDataReady answers message).2 := by
  have start := sound.transfer (Or.inl ready)
  rw [Sm.handleDataReady.eq_def]
  split
  · split
    · have initialised : HashSound s.partitionDataInit.2 := by
        refine sound.partitionDataInit (fun first => ⟨erases rfl first, start⟩) ?_ ?_
        · rw [ready]
          decide
        · rw [ready]
          decide
      have notified := initialised.quiet (Quiet.refl _).notifyStart
      dsimp only
      split
      · exact notified
      · refine HashSound.toTransfer (notified.quiet (Quiet.refl _).requestBytes) ?_ (Or.inr rfl)
        show s.partitionDataInit.2.keys.upgradeInProgressKey ≠ .preValidate
        rw [Sm.partitionDataInit_keys]
        exact start
    · exact sound.quiet ((Quiet.refl s).fatalError _)
  · exact sound

end Transfer

section Hash

variable {s next : Sm} {answers : Answers}

section

variable (sound : HashSound s)

include sound

theorem HashSound.record {entry : Entry}
    (harmless : entry.changesData = false) : HashSound (s.record entry) :=
  sound.still ((Still.refl s).record harmless)

theorem HashSound.hashCheckDone : HashSound s.hashCheckDone where
  complete := sound.complete
  footer _ := nofun
  hash := nofun
  checking := sound.checking
  checked := sound.checked
  transfer := sound.transfer
  noWait := sound.noWait

theorem HashSound.hashCheckedOk (checked : Checked s.log) : HashSound s.hashCheckedOk where
  complete := sound.complete
  footer := sound.footer
  hash := sound.hash
  checking := nofun
  checked _ := checked
  transfer := by rintro (same | same) <;> contradiction
  noWait := nofun

theorem HashSound.hashCheckFailed : HashSound s.hashCheckFailed :=
  (sound.quiet ((Quiet.refl s).fatalError _)).hashCheckDone

theorem HashSound.hashCheckFailedEarly
    (failed : s.hashCheckFailedEarly = some next) : HashSound next := by
  rw [Sm.hashCheckFailedEarly] at failed
  split at failed
  · exact some.inj failed ▸ sound.hashCheckFailed
  · contradiction

theorem HashSound.finishHashCheck (finish : s.vctx = none → answers.validateFinish none = false)
    (finished : s.finishHashCheck answers = some next) : HashSound next := by
  rw [Sm.finishHashCheck] at finished
  split at finished
  · obtain ⟨⟨passed, validated⟩, checks, rfl⟩ := map_eq_some_iff.mp finished
    rw [Sm.validateFinish] at checks
    split at checks
    · contradiction
    · rename_i notMissing
      cases checks
      have recorded := sound.record
        (show (Entry.validateFinish s.vctx s.ctx.signature
          (answers.validateFinish s.vctx)).changesData = false from rfl)
      dsimp only
      split
      · rename_i passes
        refine recorded.hashCheckDone.hashCheckedOk ?_
        cases signature : s.ctx.signature with
        | none => exact absurd ⟨passes, signature⟩ notMissing
        | some signature' =>
          cases vctx : s.vctx with
          | none =>
            rw [vctx, finish vctx] at passes
            contradiction
          | some vctx' =>
            refine ⟨vctx', signature', s.log, ?_, (sound.hash _ vctx).2 _ signature⟩
            show StandsSince _ _ (.validateFinish (some vctx') (some signature')
              (answers.validateFinish (some vctx')) :: s.log)
            rw [← vctx, passes]
            exact Stands.now
      · exact recorded.hashCheckFailed
  · contradiction

theorem HashSound.hashInitialise
    (complete : s.ctx.isDataXferComplete = true) : HashSound s.hashInitialise where
  complete := sound.complete
  footer _ signature same := by
    obtain ⟨older, stands⟩ := sound.footer complete signature same
    exact ⟨older, stands.cons rfl⟩
  hash vctx same := by
    cases same
    exact ⟨complete, fun signature given =>
      ⟨s.log, Stands.now, sound.footer complete signature given⟩⟩
  checking := sound.checking
  checked validates := by
    obtain ⟨vctx, signature, older, stands, hash⟩ := sound.checked validates
    exact ⟨vctx, signature, older, stands.cons rfl, hash⟩
  transfer := sound.transfer
  noWait := sound.noWait

theorem HashSound.startHashCheck (complete : s.ctx.isDataXferComplete = true)
    (started : s.startHashCheck answers = some next) : HashSound next := by
  have initialised := sound.hashInitialise complete
  rw [Sm.startHashCheck] at started
  split at started
  · contradiction
  · dsimp only at started
    split at started
    · have updated := initialised.record
        (show (Entry.imageUpgradeHashSectionUpdate s.hashInitialise.vctx).changesData = false
          from rfl)
      split at started
      · exact updated.finishHashCheck
          (fun missing => absurd missing (Option.some_ne_none _)) started
      · exact updated.hashCheckFailedEarly started
    · split at started
      · exact some.inj started ▸ initialised.record rfl
      · exact initialised.hashCheckFailedEarly started

theorem HashSound.handleDataHashChecking
    (checking : s.smState = .dataHashChecking) (finish : answers.validateFinish none = false)
    {message : Message} {answer : Bool × Sm}
    (handled : s.handleDataHashChecking answers message = some answer) : HashSound answer.2 := by
  rw [Sm.handleDataHashChecking.eq_def] at handled
  split at handled
  · split at handled
    · exact some.inj handled ▸ sound.quiet (Quiet.refl s).resendHashStatus
    · obtain ⟨after, started, rfl⟩ := map_eq_some_iff.mp handled
      exact sound.startHashCheck (sound.checking checking) started
  · exact some.inj handled ▸ sound.of_eq rfl rfl rfl rfl rfl rfl rfl rfl
  · obtain ⟨after, finished, rfl⟩ := map_eq_some_iff.mp handled
    exact sound.finishHashCheck (fun _ => finish) finished
  · obtain ⟨after, failed, rfl⟩ := map_eq_some_iff.mp handled
    exact sound.hashCheckFailedEarly failed
  · exact some.inj handled ▸ sound

end

end Hash

section Commit

variable {s next : Sm} {answers : Answers}

theorem Still.quiet {after : Sm} (still : Still s next) (quiet : Quiet next after) :
    Still s after :=
  still.trans quiet.still

theorem still_commitConfirmYes (s : Sm) : Still s s.commitConfirmYes := by
  rw [Sm.commitConfirmYes]
  split
  · have cancelled := (Quiet.refl s).cancelFirst .internalSilentCommitReconnectionTimeout
    have committed : Still s (Sm.commitUpgrades
        (s.cancelFirst .internalSilentCommitReconnectionTimeout)) :=
      cancelled.still.record rfl
    exact committed.quiet (((Quiet.refl _).sendApp _).moveToState rfl)
  · have committed : Still s s.commitUpgrades := (Still.refl s).record rfl
    exact committed.quiet (((Quiet.refl _).sendApp _).moveToState rfl)

theorem still_handleCommitHostContinue (s : Sm) (message : Message) :
    Still s (s.handleCommitHostContinue answers message).2 := by
  rw [Sm.handleCommitHostContinue.eq_def]
  cases message
  case hostInProgressRes =>
    exact ((Quiet.refl s).cancelFirst _).still.sendUpgradeOpsStatus _ _
  case internalReconnectionTimeout =>
    dsimp only
    split
    · exact still_commitConfirmYes s
    · exact (Quiet.refl s).revertOnTimeout.still
  all_goals exact Still.refl s

theorem still_commitCfm (s : Sm) (action : UInt8) : Still s (s.commitCfm action) := by
  have told := (Still.refl s).sendUpgradeOpsStatus .checkPeerDuringCommit action
  rw [Sm.commitCfm]
  split
  · exact told.sendUpgradeOpsStatus _ _
  · split
    · exact told.quiet ((Quiet.refl _).setState rfl)
    · exact told

theorem still_handleCommitConfirm (s : Sm) (message : Message) :
    Still s (s.handleCommitConfirm answers message).2 := by
  rw [Sm.handleCommitConfirm.eq_def]
  cases message
  case hostCommitCfm => exact still_commitCfm s _
  case internalContinue => exact still_commitConfirmYes s
  case hostInProgressRes =>
    refine Still.trans (Still.record ?_ rfl) (still_handleCommitHostContinue _ _)
    exact ((Quiet.refl s).setState rfl).still
  all_goals exact Still.refl s

end Commit

structure MessagePermitted (answers : Answers) (s : Sm) (message : Message) : Prop where
  finish : answers.validateFinish none = false
  erase : s.smState = .dataReady → message = .hostStartDataReq → s.erasesFirst = true →
    s.ctx.isDataXferComplete = false
  data : s.smState = .batteryLow → message.isHostData = true →
    s.ctx.isDataXferComplete = false → s.keys.upgradeInProgressKey ≠ .preValidate

section Messages

variable {s next : Sm} {answers : Answers}

section

variable (sound : HashSound s)

include sound

theorem HashSound.handleInState {message : Message}
    (permitted : MessagePermitted answers s message) {answer : Bool × Sm}
    (handled : s.handleInState answers message = some answer) : HashSound answer.2 := by
  have quiet := Quiet.refl s
  rw [Sm.handleInState] at handled
  split at handled
  · exact some.inj handled ▸ sound.quiet (quiet.handleCheckStatus message)
  · exact some.inj handled ▸ sound.quiet (quiet.handleSync message)
  · exact some.inj handled ▸ sound.handleReady message
  · exact some.inj handled ▸ sound
  · exact some.inj handled ▸ (hashSound_upheld answers).handleAborting sound message
  · rename_i low
    exact sound.handleBatteryLow low (permitted.data low) handled
  · rename_i ready
    exact some.inj handled ▸ sound.handleDataReady ready (permitted.erase ready)
  · rename_i transfer
    exact sound.handleDataTransfer transfer handled
  · exact some.inj handled ▸ sound
  · rename_i checking
    exact sound.handleDataHashChecking checking permitted.finish handled
  · exact some.inj handled ▸ sound.quiet (quiet.handleValidating message)
  · rename_i waits
    exact absurd waits sound.noWait
  · exact some.inj handled ▸ sound.quiet (quiet.handleValidated message)
  · exact some.inj handled ▸ sound.quiet (quiet.handleRestartedForCommit message)
  · exact some.inj handled ▸ sound.still (still_handleCommitHostContinue s message)
  · exact some.inj handled ▸ sound.quiet (quiet.handleCommitVerification message)
  · exact some.inj handled ▸ sound.still (still_handleCommitConfirm s message)
  · exact some.inj handled ▸ sound.quiet (quiet.handleCommit message)
  · exact some.inj handled ▸ sound
  · exact some.inj handled ▸ sound.quiet (quiet.handleRebootToResume message)

theorem HashSound.handleMsg {message : Message} (permitted : MessagePermitted answers s message)
    (handled : s.handleMsg answers message = some next) : HashSound next := by
  obtain ⟨⟨isHandled, after⟩, handledInState, rfl⟩ := map_eq_some_iff.mp handled
  have noted : HashSound (s.record (.handling s.smState message)) := sound.record rfl
  have kept : HashSound after := noted.handleInState { permitted with } handledInState
  dsimp only
  split
  · exact (hashSound_upheld answers).defaultHandler kept message
  · exact kept

end

end Messages

def Event.message (s : Sm) : Event → Option Message
  | host message => some message
  | pending index => s.queue[index]?
  | _ => none

/-- Whether `UpgradePartitionDataInit` is called. -/
def Event.initsData (s : Sm) : Event → Bool
  | partitionDataInitWrapper => s.smState.ctorIdx < UpgradeState.dataTransfer.ctorIdx
  | event => s.smState = .dataReady && event.message s = some .hostStartDataReq

/-- The other bank is erased at the start of a transfer only when nothing is left of the last one,
and it is not written at the point before the validation; no hash is finished without a
context. -/
structure ChecksPermitted (s : Sm) (event : Event × Answers) : Prop where
  finish : event.2.validateFinish none = false
  erase : event.1.initsData s = true → s.erasesFirst = true →
    s.ctx.isDataXferComplete = false ∧ s.keys.upgradeInProgressKey ≠ .preValidate
  data : s.smState = .batteryLow → (event.1.message s).any Message.isHostData = true →
    s.ctx.isDataXferComplete = false → s.keys.upgradeInProgressKey ≠ .preValidate

section Boot

variable {s next : Sm} {answers : Answers} {configuration : Configuration}

theorem still_permit (handled : s.handleMsg answers .vmPermitUpgrade = some next) :
    Still s next := by
  obtain ⟨⟨isHandled, after⟩, handledInState, rfl⟩ := map_eq_some_iff.mp handled
  have noted : Still s (s.record (.handling s.smState .vmPermitUpgrade)) :=
    (Still.refl s).record rfl
  have kept : Still s after := by
    have quiet := Quiet.refl (s.record (.handling s.smState .vmPermitUpgrade))
    rw [Sm.handleInState] at handledInState
    split at handledInState
    case h_1 =>
      exact (Prod.mk.inj (some.inj handledInState)).2 ▸ noted.quiet (quiet.setState rfl)
    case h_6 =>
      rw [Sm.handleBatteryLow.eq_def] at handledInState
      split at handledInState
      · exact (Prod.mk.inj (some.inj handledInState)).2 ▸ noted
      · exact (Prod.mk.inj (some.inj handledInState)).2 ▸
          noted.quiet (quiet.sendErrorInd _)
    all_goals
      exact (show s.record _ = after from
        (Prod.mk.inj (some.inj handledInState)).2) ▸ noted
  dsimp only
  split <;> exact kept

theorem HashSound.zeroContext (sound : HashSound s) :
    HashSound (s.zeroContext configuration) where
  complete := nofun
  footer := nofun
  hash := nofun
  checking := nofun
  checked validates := by
    show Checked ([.upgradeInit] ++ s.log)
    exact (sound.checked (validates.imp_right nofun)).append (by simp [Entry.changesData])
  transfer := by rintro (same | same) <;> contradiction
  noWait := nofun

theorem HashSound.reinitPartitionCtx (sound : HashSound s) (found : UpgradeCtx)
    (incomplete : s.ctx.isDataXferComplete = false) :
    HashSound (s.reinitPartitionCtx found) where
  complete complete := absurd (incomplete.symm.trans complete) Bool.false_ne_true
  footer complete := absurd (incomplete.symm.trans complete) Bool.false_ne_true
  hash _ same := absurd ((sound.noVctx incomplete).symm.trans same) nofun
  checking := sound.checking
  checked := sound.checked
  transfer := sound.transfer
  noWait := sound.noWait

theorem HashSound.upgradeInit (sound : HashSound s) {found : UpgradeCtx}
    (booted : s.upgradeInit answers configuration found = some next) : HashSound next := by
  obtain ⟨permitted, handled, rfl⟩ := map_eq_some_iff.mp booted
  have prepares : Still (s.zeroContext configuration) permitted :=
    ((Quiet.refl (s.zeroContext
      configuration)).handleCommitRevert.abortCaseDfuOnReboot.setInitVersions.requestApplicationReconnectIfNeeded.smInit).still.trans
        (still_permit handled)
  have prepared : HashSound permitted := (sound.zeroContext).still prepares
  have incomplete : permitted.ctx.isDataXferComplete = false := prepares.isDataXferComplete
  rw [Sm.finishInit]
  refine HashSound.quiet ?_ ((Quiet.refl _).sendApp _)
  split
  · exact prepared.reinitPartitionCtx found incomplete
  · exact prepared

end Boot

section Steps

variable {s next : Sm} {answers : Answers}

theorem ChecksPermitted.message {event : Event} (permitted : ChecksPermitted s (event, answers))
    {message : Message} (isNext : event.message s = some message) :
    MessagePermitted answers s message where
  finish := permitted.finish
  erase ready starts first := by
    refine (permitted.erase ?_ first).1
    rw [starts] at isNext
    cases event with
    | partitionDataInitWrapper => contradiction
    | _ => exact Bool.and_eq_true_iff.mpr ⟨decide_eq_true ready, decide_eq_true isNext⟩
  data low isData := permitted.data low (by rw [isNext]; exact isData)

section

variable (sound : HashSound s)

include sound

theorem HashSound.pending {index : Nat} (permitted : ChecksPermitted s (.pending index, answers))
    (handled : ((s.queue[index]?).bind fun message =>
      { s with queue := s.queue.eraseIdx index }.handleMsg answers message) = some next) :
    HashSound next := by
  obtain ⟨message, isNext, handled⟩ := Option.bind_eq_some_iff.mp handled
  have taken : HashSound { s with queue := s.queue.eraseIdx index } :=
    sound.of_eq rfl rfl rfl rfl rfl rfl rfl rfl
  have allowed := permitted.message isNext
  exact taken.handleMsg { allowed with } handled

theorem HashSound.hashAllSectionsUpdateStatus
    (finish : answers.validateFinish none = false) {status : Bool}
    (handled : s.hashAllSectionsUpdateStatus answers status = some next) : HashSound next := by
  rw [Sm.hashAllSectionsUpdateStatus] at handled
  split at handled
  · refine sound.handleMsg ⟨finish, ?_, ?_⟩ handled
    · exact fun _ same => absurd same (by decide)
    · exact fun _ hostData => absurd hostData (by decide)
  · refine sound.handleMsg ⟨finish, ?_, ?_⟩ handled
    · exact fun _ same => absurd same (by decide)
    · exact fun _ hostData => absurd hostData (by decide)

theorem HashSound.partitionDataInitWrapper
    (permitted : ChecksPermitted s (.partitionDataInitWrapper, answers)) :
    HashSound (s.partitionDataInitWrapper answers) := by
  rw [Sm.partitionDataInitWrapper]
  split
  · rename_i early
    refine sound.partitionDataInit (permitted.erase (decide_eq_true early.1)) ?_ ?_
    · intro checking
      rw [checking] at early
      exact absurd early.1 (by decide)
    · intro validating
      rw [validating] at early
      exact absurd early.1 (by decide)
  · exact sound

theorem HashSound.commitConfirmForSilentCommit : HashSound s.commitConfirmForSilentCommit := by
  rw [Sm.commitConfirmForSilentCommit]
  split
  · exact sound.still (still_commitConfirmYes s)
  · exact sound

theorem HashSound.step {event : Event × Answers}
    (permitted : ChecksPermitted s event) (steps : s.step event = some next) : HashSound next := by
  obtain ⟨event, answers⟩ := event
  rw [Sm.step] at steps
  split at steps
  · cases event with
    | host =>
      rw [Sm.handleEvent] at steps
      split at steps
      · exact sound.handleMsg (permitted.message rfl) steps
      · contradiction
    | pending => exact sound.pending permitted steps
    | operation =>
      exact (hashSound_upheld answers).operation sound
        (fun _ _ taken _ _ => taken.still (still_commitConfirmYes _)) steps
    | hashAllSectionsUpdateStatus =>
      exact sound.hashAllSectionsUpdateStatus permitted.finish steps
    | permit =>
      exact (hashSound_upheld answers).permit sound
        (fun _ handled => sound.still (still_permit handled)) steps
    | partitionDataInitWrapper =>
      exact some.inj steps ▸ sound.partitionDataInitWrapper permitted
    | completeMsgFromUpgradePeer =>
      exact some.inj steps ▸ (sound.record rfl).still (still_commitConfirmYes
        (s.record (.completeMsgFromUpgradePeer s.smState)))
    | commitConfirmForSilentCommit =>
      exact some.inj steps ▸ sound.commitConfirmForSilentCommit
    | boot => exact sound.upgradeInit steps
    | _ => exact (hashSound_upheld answers).handleEvent sound rfl steps
  · contradiction

end

theorem factory_hashSound : HashSound factory where
  complete := nofun
  footer := nofun
  hash := nofun
  checking := nofun
  checked := by rintro (same | same) <;> contradiction
  transfer := by rintro (same | same) <;> contradiction
  noWait := nofun

/-- Validation only follows a check of the signature of the image that is there. -/
theorem reached_checked (reached : Reached Sm.step ChecksPermitted factory s) :
    Validates s → Checked s.log :=
  (reached.invariant factory_hashSound fun _ _ _ permitted steps sound =>
    sound.step permitted steps).checked

end Steps

instance (s : Sm) (event : Event × Answers) : Decidable (ChecksPermitted s event) :=
  decidable_of_iff
    (event.2.validateFinish none = false ∧
      (event.1.initsData s = true → s.erasesFirst = true →
        s.ctx.isDataXferComplete = false ∧ s.keys.upgradeInProgressKey ≠ .preValidate) ∧
      (s.smState = .batteryLow → (event.1.message s).any Message.isHostData = true →
        s.ctx.isDataXferComplete = false → s.keys.upgradeInProgressKey ≠ .preValidate))
    ⟨fun all => ⟨all.1, all.2.1, all.2.2⟩, fun all => ⟨all.finish, all.erase, all.data⟩⟩

def checkedTransfer : List Event :=
  plainBoot :: footerDownload ++
    [.startHashChecking, .pending 0, .hashAllSectionsUpdateStatus true]

def repeatedTransfer : List Event :=
  plainBoot :: footerDownload ++ [.startHashChecking, .pending 0] ++ footerDownload ++
    [.hashAllSectionsUpdateStatus true]

theorem checkedTransfer_checked :
    ∃ s, runAllowed Sm.step ChecksPermitted (checkedTransfer.map (·, plainAnswers)) factory =
        some s ∧
      s.smState = .validating ∧ Checked s.log := by
  have runs : (runAllowed Sm.step ChecksPermitted (checkedTransfer.map (·, plainAnswers))
      factory).any (fun s => s.smState = .validating) = true := by
    decide +kernel
  obtain ⟨s, ran, validates⟩ := (Option.any_eq_true _ _).mp runs
  exact ⟨s, ran, of_decide_eq_true validates,
    reached_checked (Reached.start.run ran) (Or.inr (of_decide_eq_true validates))⟩

def Entry.isHashInitialise : Entry → Bool
  | imageUpgradeHashInitialise _ => true
  | _ => false

theorem Checked.hashInitialise {log : List Entry} (checked : Checked log) :
    (EventLog.sinceLast Entry.changesData log).any Entry.isHashInitialise = true := by
  obtain ⟨vctx, signature, older, finishes, oldest, initialises, -⟩ := checked
  obtain ⟨later, since⟩ := finishes.sinceLast_eq rfl
  obtain ⟨earlier, sinceOlder⟩ := initialises.sinceLast_eq rfl
  rw [since, sinceOlder]
  simp [Entry.isHashInitialise]

/-- The hash of the first transfer passes for the second one. -/
theorem repeatedTransfer_notChecked :
    ∃ s, (repeatedTransfer.map (·, plainAnswers)).foldlM Sm.step factory = some s ∧
      Validates s ∧ ¬Checked s.log := by
  have runs : ((repeatedTransfer.map (·, plainAnswers)).foldlM Sm.step factory).any (fun s =>
      s.smState = .validating ∧
        (EventLog.sinceLast Entry.changesData s.log).any Entry.isHashInitialise = false) =
      true := by
    decide +kernel
  obtain ⟨s, ran, found⟩ := (Option.any_eq_true _ _).mp runs
  obtain ⟨validates, notInitialised⟩ := of_decide_eq_true found
  refine ⟨s, ran, Or.inr validates, fun checked => ?_⟩
  rw [checked.hashInitialise] at notInitialised
  exact absurd notInitialised.symm Bool.false_ne_true

end HeadsetAdk.UpgradeSm
