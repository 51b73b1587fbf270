import HeadsetAdk.UpgradeSm.Events
import HeadsetAdk.Upgrade.AcceptedHeader

/-! # What the parser leaves alone -/

namespace HeadsetAdk.Upgrade

open PartitionDataState (noConfusion)

namespace UpgradeCtx

section Frame

variable {firmware : Firmware} {before ctx next : UpgradeCtx} {keyCache data : List UInt8}
  {code : HostErrorCode}

/-- No partition of the internal flash is recorded if none was, and the flag of the transfer is
as before. -/
structure Plain (before ctx : UpgradeCtx) : Prop where
  noDfu : before.psKeys.dfuPartitionNum = 0 ∧ before.savedPsKeys.dfuPartitionNum = 0 →
    ctx.psKeys.dfuPartitionNum = 0 ∧ ctx.savedPsKeys.dfuPartitionNum = 0
  complete : ctx.isDataXferComplete = before.isDataXferComplete

theorem Plain.refl (ctx : UpgradeCtx) : Plain ctx ctx :=
  ⟨fun noDfu => noDfu, rfl⟩

section

variable (plain : Plain before ctx)

include plain

theorem Plain.of_eq (psKeys : next.psKeys = ctx.psKeys)
    (savedPsKeys : next.savedPsKeys = ctx.savedPsKeys)
    (complete : next.isDataXferComplete = ctx.isDataXferComplete) : Plain before next := by
  refine ⟨fun noDfu => ?_, complete.trans plain.complete⟩
  rw [psKeys, savedPsKeys]
  exact plain.noDfu noDfu

theorem Plain.savePsKeys {psKeys : LibPsKeys}
    (same : psKeys.dfuPartitionNum = ctx.psKeys.dfuPartitionNum) :
    Plain before (ctx.savePsKeys psKeys) :=
  ⟨fun noDfu => ⟨same.trans (plain.noDfu noDfu).1, same.trans (plain.noDfu noDfu).1⟩,
    plain.complete⟩

theorem Plain.requestData (size offset : Nat) : Plain before (ctx.requestData size offset) :=
  plain.of_eq rfl rfl rfl

theorem Plain.withState (state : PartitionDataState) : Plain before { ctx with state := state } :=
  plain.of_eq rfl rfl rfl

theorem Plain.partitionClose (firmware : Firmware) :
    Plain before (ctx.partitionClose firmware).2 := by
  rw [UpgradeCtx.partitionClose]
  split
  · exact plain
  · split
    · exact plain
    · split
      · exact plain
      · exact { plain.savePsKeys rfl with }

theorem Plain.trans (next' : Plain ctx next) : Plain before next :=
  ⟨fun noDfu => next'.noDfu (plain.noDfu noDfu), next'.complete.trans plain.complete⟩

end

/-- What a handler keeps that is not the one of the footer.  The footer, if it is next, is asked
for in its length. -/
structure Heads (before ctx : UpgradeCtx) : Prop where
  noDfu : before.psKeys.dfuPartitionNum = 0 ∧ before.savedPsKeys.dfuPartitionNum = 0 →
    ctx.psKeys.dfuPartitionNum = 0 ∧ ctx.savedPsKeys.dfuPartitionNum = 0
  complete : ctx.isDataXferComplete = before.isDataXferComplete
  incompleteData : ctx.incompleteData = before.incompleteData
  signatureReceived : ctx.signatureReceived = before.signatureReceived
  footer : ctx.state = .footer →
    ctx.totalReqSize ≤ expectedSignatureSize ∧ ctx.newReqSize ≤ expectedSignatureSize

theorem Heads.plain (heads : Heads before ctx) : Plain before ctx :=
  ⟨heads.noDfu, heads.complete⟩

theorem heads_refl (notFooter : ctx.state ≠ .footer) : Heads ctx ctx :=
  ⟨fun noDfu => noDfu, rfl, rfl, rfl, fun footer => absurd footer notFooter⟩

structure Handled (before : UpgradeCtx) (answer : HostErrorCode × UpgradeCtx) : Prop where
  heads : Heads before answer.2
  incomplete : answer.1 ≠ .dataTransferComplete

variable {answer : HostErrorCode × UpgradeCtx}

theorem Handled.of_some (handled : Handled before answer) (same : some answer = some (code, next)) :
    Handled before (code, next) :=
  Option.some.inj same ▸ handled

theorem partitionClose_incomplete : (ctx.partitionClose firmware).1 ≠ .dataTransferComplete := by
  rw [UpgradeCtx.partitionClose]
  split
  · exact HostErrorCode.noConfusion
  · split
    · exact HostErrorCode.noConfusion
    · split <;> exact HostErrorCode.noConfusion

section

variable (heads : Heads before ctx)

include heads

theorem Heads.handled (incomplete : code ≠ .dataTransferComplete) : Handled before (code, ctx) :=
  ⟨heads, incomplete⟩

theorem Heads.requestData (size offset : Nat) {state : PartitionDataState}
    (notFooter : state ≠ .footer) :
    Heads before { ctx.requestData size offset with state := state } :=
  { heads with footer := fun footer => absurd footer notFooter }

theorem Heads.partitionClose (firmware : Firmware) :
    Heads before (ctx.partitionClose firmware).2 := by
  rw [UpgradeCtx.partitionClose]
  split
  · exact heads
  · split
    · exact heads
    · split
      · exact heads
      · exact { heads with noDfu := fun noDfu => ⟨(heads.noDfu noDfu).1, (heads.noDfu noDfu).1⟩ }

theorem Heads.saveHeaderThen {after : UpgradeCtx → HostErrorCode × UpgradeCtx}
    (keeps : ∀ store, Heads before { ctx with headerStore := store } →
      Handled before (after { ctx with headerStore := store }))
    (saved : ctx.saveHeaderThen firmware keyCache data after = some (code, next)) :
    Handled before (code, next) := by
  obtain ⟨⟨code', ctx'⟩, savedStore, same⟩ := Option.map_eq_some_iff.mp saved
  obtain ⟨⟨code'', store⟩, savedKeys, same'⟩ := Option.map_eq_some_iff.mp savedStore
  cases same'
  dsimp only at same
  split at same
  · rw [← same]
    exact ⟨{ heads with }, saveLoop_incomplete savedKeys⟩
  · rw [← same]
    exact keeps store { heads with }

theorem Heads.handleHeaderState
    (handled : ctx.handleHeaderState firmware keyCache data = some (code, next)) :
    Handled before (code, next) := by
  rw [UpgradeCtx.handleHeaderState] at handled
  split at handled
  · contradiction
  · rename_i checked
    refine (heads.handled ?_).of_some handled
    rintro rfl
    rcases checkHeader_cases checked with isError | ⟨_, isOk, _⟩
    · rcases isError with isError | isError | isError <;> cases Except.error.inj isError
    · cases isOk
  · refine Heads.saveHeaderThen ?_ (fun _ kept => ?_) handled
    · exact { heads with noDfu := fun noDfu => ⟨(heads.noDfu noDfu).1, (heads.noDfu noDfu).1⟩ }
    · refine Heads.handled ?_ (by decide)
      exact { kept with footer := fun footer => noConfusion footer }

theorem Heads.startPartition (partition : Nat) :
    Handled before (ctx.startPartition firmware partition) := by
  rw [UpgradeCtx.startPartition]
  have closed := heads.partitionClose firmware
  dsimp only
  split
  · exact (heads.requestData _ _ (by decide)).handled (by decide)
  · split
    · split
      · exact ⟨{ closed with }, partitionClose_incomplete⟩
      · refine Heads.handled ?_ (by decide)
        exact { closed with footer := fun footer => noConfusion footer }
    · exact heads.handled (by decide)

theorem Heads.ensureOpen (firmware : Firmware) (partNum firstWord : Nat) :
    Heads before (ctx.ensureOpen firmware partNum firstWord) := by
  rw [UpgradeCtx.ensureOpen]
  split
  · rw [UpgradeCtx.partitionOpen]
    split
    · exact { heads with }
    · exact heads
  · exact { heads with }

theorem Heads.handlePartition (partNum firstWord : Nat) :
    Handled before (ctx.handlePartition firmware partNum firstWord) := by
  rw [UpgradeCtx.handlePartition]
  split
  · exact heads.handled (by decide)
  · dsimp only
    have marked : Heads before { ctx with partitionMap := ctx.partitionMap ||| 1 <<< partNum } :=
      { heads with }
    have opened := marked.ensureOpen firmware partNum firstWord
    split
    · refine Heads.handled ?_ (by decide)
      exact { marked with footer := fun footer => noConfusion footer }
    · split
      · exact marked.handled (by decide)
      · split
        · exact opened.handled (by decide)
        · exact opened.startPartition _

theorem Heads.handleDataHeaderState
    (handled : ctx.handleDataHeaderState firmware keyCache data = some (code, next)) :
    Handled before (code, next) := by
  rw [UpgradeCtx.handleDataHeaderState] at handled
  split at handled
  · exact (heads.handled (by decide)).of_some handled
  · split at handled
    · split at handled
      · exact (heads.handled (by decide)).of_some handled
      · split at handled
        · exact (heads.handled (by decide)).of_some handled
        · exact heads.saveHeaderThen (fun _ kept => kept.handlePartition _ _) handled
    · contradiction

theorem Heads.handleGeneric1stPartState (notFooter : ctx.state ≠ .footer)
    (handled : ctx.handleGeneric1stPartState firmware keyCache data = some (code, next)) :
    Handled before (code, next) := by
  rw [UpgradeCtx.handleGeneric1stPartState] at handled
  split at handled
  · exact (heads.handled (by decide)).of_some handled
  split at handled
  · contradiction
  split at handled
  · rw [startHeader] at handled
    split at handled
    · exact (heads.handled (by decide)).of_some handled
    · refine Heads.saveHeaderThen ?_ (fun _ kept => ?_) handled
      · split <;> exact { heads with }
      · refine Heads.handled ?_ (by decide)
        exact { kept with
          noDfu := fun _ => ⟨rfl, rfl⟩
          footer := fun footer => noConfusion footer }
  split at handled
  · rw [startCaseFile] at handled
    refine Heads.saveHeaderThen ?_ (fun _ kept => ?_) handled
    · exact { heads with }
    · refine Heads.handled ?_ (by decide)
      exact kept.requestData 0 0 notFooter
  split at handled
  · rw [startDataHeader] at handled
    split at handled
    · exact (heads.handled (by decide)).of_some handled
    · split at handled
      · exact (heads.handled (by decide)).of_some handled
      · refine heads.saveHeaderThen (fun _ kept => ?_) handled
        refine Heads.handled ?_ (by decide)
        exact { kept with footer := fun footer => noConfusion footer }
  split at handled
  · rw [startFooter] at handled
    split at handled
    · exact (heads.handled (by decide)).of_some handled
    · rename_i size
      have fits := Nat.le_of_eq (not_not.mp size)
      refine heads.saveHeaderThen (fun _ kept => ?_) handled
      dsimp only
      by_cases missing : (if ctx.signature = none then firmware.malloc else ctx.signature) = none
      · rw [if_pos missing]
        refine Heads.handled ?_ (by decide)
        exact { kept with footer := fun _ => ⟨fits, fits⟩ }
      · rw [if_neg missing]
        refine Heads.handled ?_ (by decide)
        exact { kept with footer := fun _ => ⟨fits, fits⟩ }
  · exact (heads.handled (by decide)).of_some handled

theorem Heads.handleDataState {reqComplete : Bool}
    (handled : ctx.handleDataState firmware data reqComplete = some (code, next)) :
    Handled before (code, next) := by
  obtain ⟨⟨written, ctx'⟩, wrote, same⟩ := Option.map_eq_some_iff.mp handled
  obtain ⟨flash, rfl⟩ : ∃ flash, ctx' = ctx.withFlash flash := partitionWrite_withFlash wrote
  have kept : Heads before (ctx.withFlash flash) := { heads with }
  have requested : Heads before { (ctx.withFlash flash).requestData headerFirstPartSize 0 with
      state := .generic1stPart } := kept.requestData _ _ (by decide)
  have closed := requested.partitionClose firmware
  rw [← same]
  dsimp only
  split
  · exact kept.handled (by decide)
  · split
    · rw [finishPartition]
      dsimp only
      split
      · exact ⟨{ closed with }, partitionClose_incomplete⟩
      · refine Heads.handled ?_ (by decide)
        exact { closed with }
    · exact kept.handled (by decide)

end

theorem parseWhole_handled (notFooter : ctx.state ≠ .footer)
    (parsed : ctx.parseWhole firmware keyCache data = some (code, next)) :
    Handled ctx (code, next) := by
  have heads := heads_refl notFooter
  rw [parseWhole] at parsed
  split at parsed
  · exact heads.handleGeneric1stPartState notFooter parsed
  · exact heads.handleHeaderState parsed
  · exact heads.handleDataHeaderState parsed
  · exact heads.handleDataState parsed
  · contradiction

structure Answered (before : UpgradeCtx) (answer : HostErrorCode × UpgradeCtx) : Prop where
  plain : Plain before answer.2
  footer : answer.1 = .dataTransferComplete → answer.2.state = .footer

theorem Answered.of_some (answered : Answered before answer)
    (same : some answer = some (code, next)) : Answered before (code, next) :=
  Option.some.inj same ▸ answered

section

variable (plain : Plain before ctx)

include plain

theorem Plain.answered (incomplete : code ≠ .dataTransferComplete) : Answered before (code, ctx) :=
  ⟨plain, fun same => absurd same incomplete⟩

theorem Plain.handled (handled : Handled ctx answer) : Answered before answer :=
  ⟨plain.trans handled.heads.plain, fun same => absurd same handled.incomplete⟩

theorem Plain.finishFooter (footer : ctx.state = .footer)
    (reqComplete : Bool) : Answered before (ctx.finishFooter reqComplete) := by
  rw [UpgradeCtx.finishFooter]
  split
  · exact ⟨{ plain with }, fun _ => footer⟩
  · exact plain.answered (by decide)

theorem Plain.handleFooterState (footer : ctx.state = .footer) {reqComplete : Bool}
    (handled : ctx.handleFooterState firmware keyCache data reqComplete = some (code, next)) :
    Answered before (code, next) := by
  rw [UpgradeCtx.handleFooterState] at handled
  split at handled
  · exact (plain.finishFooter footer reqComplete).of_some handled
  · obtain ⟨saved, stored, same⟩ := Option.map_eq_some_iff.mp handled
    obtain ⟨⟨code', store⟩, _, rfl⟩ := Option.map_eq_some_iff.mp stored
    have kept : Plain before { ctx.collectSignature data with headerStore := store } :=
      { plain with }
    rw [← same]
    dsimp only
    split
    · exact ⟨kept, fun _ => footer⟩
    · exact kept.finishFooter footer reqComplete

theorem Plain.parseWhole (parsed : ctx.parseWhole firmware keyCache data = some (code, next)) :
    Answered before (code, next) := by
  by_cases footer : ctx.state = .footer
  · rw [UpgradeCtx.parseWhole, footer] at parsed
    exact plain.handleFooterState footer parsed
  · exact plain.handled (parseWhole_handled footer parsed)

theorem Plain.parseIncomplete
    (parsed : ctx.parseIncomplete firmware keyCache data = some (code, next)) :
    Answered before (code, next) := by
  rw [UpgradeCtx.parseIncomplete] at parsed
  split at parsed
  · exact (plain.answered (by decide)).of_some parsed
  · dsimp only at parsed
    split at parsed
    · exact Plain.parseWhole (by exact { plain with }) parsed
    · exact Answered.of_some (Plain.answered (by exact { plain with }) (by decide)) parsed

theorem Plain.parsePart (parsed : ctx.parsePart firmware keyCache data = some (code, next)) :
    Answered before (code, next) := by
  rw [UpgradeCtx.parsePart] at parsed
  split at parsed
  · exact plain.parseIncomplete parsed
  · exact plain.parseIncomplete parsed
  · exact plain.parseIncomplete parsed
  · rename_i state
    exact plain.handled ((heads_refl (by rw [state]; decide)).handleDataState parsed)
  · exact plain.handleFooterState (by assumption) parsed

theorem Plain.parse (parsed : ctx.parse firmware keyCache data = some (code, next)) :
    Answered before (code, next) := by
  have received : Plain before (ctx.receive data.length) := plain.of_eq rfl rfl rfl
  rw [UpgradeCtx.parse] at parsed
  split at parsed
  · exact (received.answered (by decide)).of_some parsed
  · split at parsed
    · exact received.parseIncomplete parsed
    · split at parsed
      · exact received.parseWhole parsed
      · exact received.parsePart parsed

end

structure FooterDone (before ctx : UpgradeCtx) : Prop where
  complete : ctx.isDataXferComplete = true
  state : ctx.state = .footer
  signature : ctx.signature = before.signature
  flash : ctx.flash = before.flash

theorem FooterDone.of_eq (done : FooterDone before ctx)
    (complete : next.isDataXferComplete = ctx.isDataXferComplete) (state : next.state = ctx.state)
    (signature : next.signature = ctx.signature) (flash : next.flash = ctx.flash) :
    FooterDone before next :=
  ⟨complete.trans done.complete, state.trans done.state, signature.trans done.signature,
    flash.trans done.flash⟩

theorem FooterDone.handleFooterState (done : FooterDone before ctx) {reqComplete : Bool}
    (handled : ctx.handleFooterState firmware keyCache data reqComplete = some (code, next)) :
    FooterDone before next := by
  rw [UpgradeCtx.handleFooterState, if_pos done.complete, finishFooter] at handled
  split at handled
  · cases handled
    exact done.of_eq rfl rfl rfl rfl
  · cases handled
    exact done

theorem FooterDone.parse (done : FooterDone before ctx)
    (parsed : ctx.parse firmware keyCache data = some (code, next)) :
    FooterDone before next := by
  have received : FooterDone before (ctx.receive data.length) := done.of_eq rfl rfl rfl rfl
  rw [UpgradeCtx.parse] at parsed
  split at parsed
  · cases parsed
    exact received
  · split at parsed
    · rw [UpgradeCtx.parseIncomplete] at parsed
      split at parsed
      · cases parsed
        exact received
      · dsimp only at parsed
        split at parsed
        · have emptied : FooterDone before ((ctx.receive data.length).withIncomplete []) :=
            received.of_eq rfl rfl rfl rfl
          rw [UpgradeCtx.parseWhole, emptied.state] at parsed
          exact emptied.handleFooterState parsed
        · cases parsed
          exact received.of_eq rfl rfl rfl rfl
    · split at parsed
      · rw [UpgradeCtx.parseWhole, received.state] at parsed
        exact received.handleFooterState parsed
      · rw [UpgradeCtx.parsePart, received.state] at parsed
        exact received.handleFooterState parsed

end Frame

end UpgradeCtx

end HeadsetAdk.Upgrade
