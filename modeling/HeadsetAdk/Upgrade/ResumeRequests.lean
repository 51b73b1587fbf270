import HeadsetAdk.Upgrade.CompleteTransfer

/-! # What is requested when a partition is opened -/

namespace HeadsetAdk.Upgrade

namespace UpgradeCtx

variable {firmware : Firmware} {keyCache data : List UInt8} {ctx next : UpgradeCtx}
  {partNum firstWord partition position : Nat}

def openedPosition (firmware : Firmware) (ctx : UpgradeCtx) (partNum firstWord : Nat) :
    Option Nat :=
  (ctx.ensureOpen firmware partNum firstWord).partitionHdl.map
    (firmware.sinkGetPosition (ctx.ensureOpen firmware partNum firstWord).flash)

def alreadyClosed (ctx : UpgradeCtx) (partNum : Nat) : Bool :=
  decide (ctx.psKeys.lastClosedPartition > partNum)

def nextUnwritten (ctx : UpgradeCtx) (partNum position : Nat) : Nat × Nat :=
  if ctx.alreadyClosed partNum = false ∧ position + firstWordSize < ctx.partitionLength then
    (ctx.partitionLength - position - firstWordSize, position)
  else (headerFirstPartSize, ctx.partitionLength - firstWordSize)

def requested (ctx : UpgradeCtx) (partNum position : Nat) : Nat × Nat :=
  if ctx.alreadyClosed partNum = true then
    (headerFirstPartSize, ctx.partitionLength - firstWordSize)
  else if position + firstWordSize < ctx.partitionLength then
    (ctx.partitionLength - position - firstWordSize, position)
  else (headerFirstPartSize, sub32 position firstWordSize)

theorem startPartition_request (fits : ctx.partitionLength < 2 ^ 32)
    (reported : firmware.sinkGetPosition ctx.flash partition = position)
    (inside : position + firstWordSize ≤ ctx.partitionLength)
    (started : ctx.startPartition firmware partition = (.success, next)) :
    (next.newReqSize, next.offset) = if position + firstWordSize < ctx.partitionLength then
        (ctx.partitionLength - position - firstWordSize, position)
      else (headerFirstPartSize, sub32 position firstWordSize) := by
  have small : (position + firstWordSize) % 2 ^ 32 = position + firstWordSize := by
    rw [Nat.mod_eq_of_lt]
    omega
  rw [startPartition, reported] at started
  dsimp only at started
  rw [small] at started
  by_cases more : position + firstWordSize < ctx.partitionLength
  · rw [if_pos more] at started ⊢
    rw [← (Prod.mk.inj started).2]
    change (sub32 (sub32 ctx.partitionLength position) firstWordSize, position) = _
    rw [sub32_eq (by omega) fits, sub32_eq (by omega) (by omega)]
  rw [if_neg more] at started ⊢
  rw [if_pos (Nat.le_antisymm inside (Nat.not_lt.mp more))] at started
  split at started
  · rename_i failed
    exact absurd (Prod.mk.inj started).1 failed
  · rw [← (Prod.mk.inj started).2]
    rfl

theorem openedPosition_congr {other : UpgradeCtx} (flash : other.flash = ctx.flash)
    (partitionHdl : other.partitionHdl = ctx.partitionHdl) :
    other.openedPosition firmware partNum firstWord =
      ctx.openedPosition firmware partNum firstWord := by
  rw [openedPosition, openedPosition, ensureOpen, ensureOpen, partitionHdl]
  split
  · rw [partitionOpen, partitionOpen, flash]
    split
    · rfl
    · rw [flash, partitionHdl]
  · rw [flash]

theorem handlePartition_request (fits : ctx.partitionLength < 2 ^ 32)
    (reported : ctx.alreadyClosed partNum = false →
      ctx.openedPosition firmware partNum firstWord = some position)
    (inside : position + firstWordSize ≤ ctx.partitionLength)
    (handled : ctx.handlePartition firmware partNum firstWord = (.success, next)) :
    (next.newReqSize, next.offset) = ctx.requested partNum position := by
  rw [requested]
  rw [handlePartition] at handled
  split at handled
  · exact HostErrorCode.noConfusion (Prod.mk.inj handled).1
  obtain ⟨marked, isMarked⟩ : ∃ marked : UpgradeCtx,
      { ctx with partitionMap := ctx.partitionMap ||| 1 <<< partNum } = marked := ⟨_, rfl⟩
  have length : marked.partitionLength = ctx.partitionLength := isMarked ▸ rfl
  have lastClosed : marked.psKeys = ctx.psKeys := isMarked ▸ rfl
  have samePosition : marked.openedPosition firmware partNum firstWord =
      ctx.openedPosition firmware partNum firstWord :=
    openedPosition_congr (isMarked ▸ rfl) (isMarked ▸ rfl)
  rw [isMarked] at handled
  dsimp only at handled
  rw [lastClosed] at handled
  by_cases closed : ctx.alreadyClosed partNum = true
  · rw [if_pos (of_decide_eq_true closed)] at handled
    rw [if_pos closed, ← (Prod.mk.inj handled).2]
    change (headerFirstPartSize, sub32 marked.partitionLength firstWordSize) = _
    rw [length, sub32_eq (by omega) fits]
  have notClosed := Bool.eq_false_iff.mpr closed
  rw [if_neg (of_decide_eq_false notClosed)] at handled
  rw [if_neg closed]
  split at handled
  · exact HostErrorCode.noConfusion (Prod.mk.inj handled).1
  have opened := samePosition.trans (reported notClosed)
  rw [openedPosition] at opened
  obtain ⟨partition, isOpen, place⟩ := Option.map_eq_some_iff.mp opened
  rw [isOpen] at handled
  have length' : (marked.ensureOpen firmware partNum firstWord).partitionLength =
      ctx.partitionLength := by
    rw [← length, ensureOpen]
    split
    · rw [partitionOpen]
      split <;> rfl
    · rfl
  have requested := startPartition_request (length' ▸ fits) place (length' ▸ inside) handled
  rw [length'] at requested
  exact requested

theorem handleDataHeaderState_request (fits : ctx.partitionLength < 2 ^ 32)
    (readPart : get2Bytes data 2 = some partNum)
    (readWord : getFirstWord data partitionSecondHeaderSize = some firstWord)
    (reported : ctx.alreadyClosed partNum = false →
      ctx.openedPosition firmware partNum firstWord = some position)
    (inside : position + firstWordSize ≤ ctx.partitionLength)
    (handled : ctx.handleDataHeaderState firmware keyCache data = some (.success, next)) :
    (next.newReqSize, next.offset) = ctx.requested partNum position := by
  rw [handleDataHeaderState, readPart, readWord] at handled
  split at handled
  · exact HostErrorCode.noConfusion (Prod.mk.inj (Option.some.inj handled)).1
  split at handled
  · rename_i isPart isWord
    cases isPart
    cases isWord
    split at handled
    · exact HostErrorCode.noConfusion (Prod.mk.inj (Option.some.inj handled)).1
    split at handled
    · exact HostErrorCode.noConfusion (Prod.mk.inj (Option.some.inj handled)).1
    obtain ⟨store, same⟩ := saved_of_passes handled (.inl rfl)
    have samePosition : (ctx.withStore store).openedPosition firmware partNum firstWord =
        ctx.openedPosition firmware partNum firstWord := openedPosition_congr rfl rfl
    exact @handlePartition_request _ (ctx.withStore store) _ _ _ _ fits
      (fun notClosed => samePosition.trans (reported notClosed)) inside same
  · contradiction

/-- When a partition is opened, the request is for what has not been written if and only if the
partition has been closed before or does not have all of its data. -/
theorem handleDataHeaderState_resumes_iff (fits : ctx.partitionLength < 2 ^ 32)
    (readPart : get2Bytes data 2 = some partNum)
    (readWord : getFirstWord data partitionSecondHeaderSize = some firstWord)
    (reported : ctx.alreadyClosed partNum = false →
      ctx.openedPosition firmware partNum firstWord = some position)
    (inside : position + firstWordSize ≤ ctx.partitionLength)
    (handled : ctx.handleDataHeaderState firmware keyCache data = some (.success, next)) :
    (next.newReqSize, next.offset) = ctx.nextUnwritten partNum position ↔
      ctx.alreadyClosed partNum = true ∨ position + firstWordSize < ctx.partitionLength := by
  rw [handleDataHeaderState_request fits readPart readWord reported inside handled, requested,
    nextUnwritten]
  by_cases closed : ctx.alreadyClosed partNum = true
  · rw [if_pos closed, if_neg fun wrong => Bool.noConfusion (closed.symm.trans wrong.1)]
    exact ⟨fun _ => .inl closed, fun _ => rfl⟩
  rw [if_neg closed]
  by_cases more : position + firstWordSize < ctx.partitionLength
  · rw [if_pos more, if_pos ⟨Bool.eq_false_iff.mpr closed, more⟩]
    exact ⟨fun _ => .inr more, fun _ => rfl⟩
  · rw [if_neg more, if_neg fun wrong => more wrong.2]
    refine ⟨fun same => ?_, fun either => absurd either (not_or.mpr ⟨closed, more⟩)⟩
    have offset := (Prod.mk.inj same).2
    rw [sub32, firstWordSize] at offset
    rw [firstWordSize] at inside more
    omega

/-- The header of partition 3, which is in the first flash. -/
private def thirdHeader : List UInt8 := [0, 0, 0, 3, 1, 2, 3, 4]

private def waiting (partitionLength : Nat) : UpgradeCtx :=
  { plainDevice.partitionDataInit with
    state := .dataHeader
    partitionLength := partitionLength
    headerStore := ⟨fun _ => [], dfuHeaderPskeyStart, 0⟩ }

theorem empty_partition_resumes :
    ∃ next, (waiting 16).handleDataHeaderState plainFirmware (List.replicate 64 0) thirdHeader =
        some (.success, next) ∧
      (next.newReqSize, next.offset) = (waiting 16).nextUnwritten 3 0 := by
  have handled : ((waiting 16).handleDataHeaderState plainFirmware (List.replicate 64 0)
      thirdHeader).map Prod.fst = some .success := by
    decide +kernel
  obtain ⟨⟨code, next⟩, handled', rfl⟩ := Option.map_eq_some_iff.mp handled
  refine ⟨next, handled', ?_⟩
  exact (handleDataHeaderState_resumes_iff (by decide) (by decide : _ = some 3)
    (by decide : _ = some 0x04030201) (fun _ => rfl) (by decide) handled').mpr
      (.inr (by decide))

/-- Behind a partition that has the first word only, the next component is looked for before
the end of the header. -/
theorem complete_partition_misses :
    ∃ next, (waiting 4).handleDataHeaderState plainFirmware (List.replicate 64 0) thirdHeader =
        some (.success, next) ∧
      (waiting 4).openedPosition plainFirmware 3 0x04030201 = some 0 ∧
      (next.newReqSize, next.offset) ≠ (waiting 4).nextUnwritten 3 0 := by
  have handled : ((waiting 4).handleDataHeaderState plainFirmware (List.replicate 64 0)
      thirdHeader).map (fun answer => (answer.1, answer.2.newReqSize, answer.2.offset)) =
        some (.success, 12, 2 ^ 32 - 4) := by
    decide +kernel
  obtain ⟨⟨code, next⟩, handled', same⟩ := Option.map_eq_some_iff.mp handled
  obtain ⟨rfl, asked⟩ := Prod.mk.inj same
  refine ⟨next, handled', rfl, ?_⟩
  dsimp only at asked
  rw [asked]
  decide

end UpgradeCtx

end HeadsetAdk.Upgrade
