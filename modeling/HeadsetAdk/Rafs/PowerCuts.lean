import HeadsetAdk.Rafs.SpaceRuns

/-!
# Power cuts while a file is closed or removed

What the next mount makes of the flash after some of the writes of `Rafs_DoClose`
or `Rafs_DoRemove`.
-/

namespace HeadsetAdk.Rafs

open NorFlash BlockAccounts
open Device (cutAfter observe)

/-- The instance that mounts a partition after a power cycle. -/
def freshVolume (info : PartInfo) (cells : Cells) : Volume where
  info := info
  device := observe cells
  map := ⟨[]⟩
  files := newFiles

structure InOrder (cells : Cells) (slot : Nat) : Prop where
  same : entryAt cells .secFat slot = entryAt cells .priFat slot
  used : classifyDirent ((entryAt cells .priFat slot).filename 0) = .file ∨
    (entryAt cells .priFat slot).filename 0 = 0

/-- Contents that the tables can have later, when `other` is an entry after `slot`:
the slots before it are in use, and each of them is as it was or in order. -/
structure Later (cells later : Cells) (slot other : Nat) : Prop where
  after : slot < other ∧ other < 113
  upTo : ∀ earlier, 1 ≤ earlier → earlier ≤ slot →
    (∀ id, entryAt later id earlier = entryAt cells id earlier) ∨ InOrder later earlier
  between : ∀ earlier, slot < earlier → earlier < other → InOrder later earlier
  scanned : ∀ earlier, 1 ≤ earlier → earlier < other →
    isErasedEntry (entryAt later .priFat earlier) = false

structure Mismatch (cells : Cells) (slot : Nat) : Prop where
  primary : classifyDirent ((entryAt cells .priFat slot).filename 0) = .file
  secondary : (entryAt cells .secFat slot).filename 0 = 0

def CrossChecked (info : PartInfo) (cells : Cells) (slot : Nat) : Prop :=
  ∀ later other, Later cells later slot other → Mismatch later other →
    ∃ volume', checkDirectoryEntries (freshVolume info later) = .ok (volume', .invalidFat)

structure Present (volume : Volume) (slot : Nat) (entry : DirEntry) : Prop where
  stored : ∀ id, entryAt volume.device.cells id slot = entry
  used : ∀ inode block, (entry.inodes inode).Covers block → volume.map.InUse block

structure Absent (volume : Volume) (slot : Nat) (entry : DirEntry) : Prop where
  gone : ∀ id, isValidEntry (entryAt volume.device.cells id slot) = false
  free : ∀ inode block, (entry.inodes inode).Covers block → ¬ volume.map.InUse block

/-- A mounted volume after a power cut that met the file `entry` of `slot`. -/
structure SurvivedAs (before : Cells) (volume : Volume) (slot : Nat) (entry : DirEntry) :
    Prop where
  affected : Present volume slot entry ∨ Absent volume slot entry
  others : ∀ id other, 1 ≤ other → other < 113 → other ≠ slot →
    entryAt volume.device.cells id other = entryAt before id other
  otherBlocks : ∀ owner block, owner.1 ≠ slot → OwnedByTable before owner block →
    volume.map.InUse block
  data : ∀ address, 8192 ≤ address → volume.device.cells address = before address
  crossChecked : CrossChecked volume.info volume.device.cells slot

/-- The next mount succeeds and finds the file whole or not at all. -/
def Survived (info : PartInfo) (before cut : Cells) (slot : Nat) (entry : DirEntry) : Prop :=
  ∃ volume, mountVolume (freshVolume info cut) = .ok (volume, .ok) ∧
    volume.info = info ∧ SurvivedAs before volume slot entry

section CrossCheck

variable {cells : Cells} {slot free : Nat} {info : PartInfo}

theorem InOrder.repairable (inOrder : InOrder cells slot) :
    Repairable (entryAt cells .priFat slot) (entryAt cells .secFat slot) :=
  .inOrder inOrder.same inOrder.used

theorem checkDirectoryEntriesLoop_mismatch {other : Nat} (inTable : other < 113) (count : Nat)
    {volume : Volume} (scan : volume.files.scanDirEntryAllocated = true) (rest : count + slot = 113)
    (before : slot ≤ other) (repairable : ∀ earlier, slot ≤ earlier → earlier < other →
      Repairable (entryAt volume.device.cells .priFat earlier)
        (entryAt volume.device.cells .secFat earlier))
    (mismatch : Mismatch volume.device.cells other) :
    ∃ volume', checkDirectoryEntriesLoop count slot volume = .ok (volume', .invalidFat) := by
  induction count generalizing slot volume with
  | zero => omega
  | succ count induction =>
    by_cases here : slot = other
    · subst here
      have primary : classifyDirent (dirEntryReadMember volume.device .priFat slot 0) = .file :=
        mismatch.primary
      have secondary : dirEntryReadMember volume.device .secFat slot 0 = 0 := mismatch.secondary
      refine ⟨volume, ?_⟩
      rw [checkDirectoryEntriesLoop]
      simp [primary, secondary, classifyDirent_deleted, pure, Except.pure]
    · obtain ⟨device, checked, caughtUp⟩ := checkDirectoryEntriesLoop_succ (by omega) scan
        (repairable slot le_rfl (by omega)) count
      obtain ⟨volume', rest'⟩ := @induction (slot + 1) { volume with device := device } scan
        (by omega) (by omega)
        (by
          intro earlier lower upper
          rw [caughtUp.primary earlier (by omega), caughtUp.others earlier (by omega) (by omega)]
          exact repairable earlier (by omega) upper)
        ⟨by
          rw [caughtUp.primary other inTable]
          exact mismatch.primary, by
          rw [caughtUp.others other inTable (by omega)]
          exact mismatch.secondary⟩
      exact ⟨volume', checked.trans rest'⟩

theorem FlashOk.inOrder {info : PartInfo} {cells : Cells} {free slot : Nat}
    (ok : FlashOk info cells free) (positive : 1 ≤ slot) (before : slot < free) :
    InOrder cells slot := by
  have mirrored := ok.tables.mirrored slot positive (before.trans_le ok.tables.freeRange.2)
  rcases ok.tables.used slot positive before id with deleted | closed
  · exact ⟨mirrored, Or.inr (by simpa [isDeletedEntry] using deleted)⟩
  · exact ⟨mirrored, Or.inl closed.named⟩

theorem FlashOk.crossChecked (ok : FlashOk info cells free) (slot : Nat) :
    CrossChecked info cells slot := by
  intro later other laterOk mismatch
  refine checkDirectoryEntriesLoop_mismatch laterOk.after.2 112 rfl rfl (by
    have := laterOk.after
    omega) ?_ mismatch
  intro earlier positive before
  have inTable := laterOk.after.2
  suffices inOrder : InOrder later earlier from inOrder.repairable
  by_cases upTo : earlier ≤ slot
  · rcases laterOk.upTo earlier positive upTo with kept | inOrder
    · by_cases used : earlier < free
      · obtain ⟨same, classified⟩ := ok.inOrder positive used
        exact ⟨by rw [kept, kept, same], by rw [kept]; exact classified⟩
      · have erased := ok.tables.erased earlier positive (by omega) (Or.inl (by omega))
        have scanned := laterOk.scanned earlier positive before
        rw [kept, erased] at scanned
        contradiction
    · exact inOrder
  · exact laterOk.between earlier (by omega) before

end CrossCheck

section Recovery

variable {info : PartInfo} {before cut final : Cells} {free slot : Nat} {entry : DirEntry}

theorem FlashOk.recoverable_of (ok : FlashOk info final free)
    (primary : ∀ slot < 113, entryAt cut .priFat slot = entryAt final .priFat slot)
    (root : entryAt cut .secFat 0 = getInitialRoot .secFat)
    (repairable : ∀ slot, 1 ≤ slot → slot < free →
      Repairable (entryAt cut .priFat slot) (entryAt cut .secFat slot))
    (erased : ∀ slot, free ≤ slot → slot < 113 →
      isErasedEntry (entryAt cut .secFat slot) = true) : Recoverable info cut free := by
  have range := ok.tables.freeRange
  have owned {owner : Nat × Fin 3} {block : Nat} (held : OwnedByTable cut owner block) :
      OwnedByTable final owner block := by
    obtain ⟨positive, inTable, live, covers⟩ := held
    rw [primary owner.1 inTable] at live covers
    exact ⟨positive, inTable, live, covers⟩
  refine ⟨?_, range, repairable, ?_, ?_, ?_⟩
  · intro id
    cases id with
    | priFat => exact (primary 0 (by decide)).trans (ok.tables.roots .priFat)
    | secFat => exact root
  · intro slot positive before
    rw [primary slot (by omega)]
    exact ok.tables.used slot positive before id
  · intro id slot after inTable
    cases id with
    | priFat =>
      rw [primary slot inTable]
      exact ok.tables.erased slot (by omega) inTable (Or.inl after)
    | secFat => exact erased slot after inTable
  · intro first second block firstOwned secondOwned
    exact ok.disjoint first second block (owned firstOwned) (owned secondOwned)

theorem Recoverable.survived (ok : Recoverable info cut free) (positive : 1 ≤ slot)
    (inTable : slot < 113)
    (others : ∀ id other, 1 ≤ other → other < 113 → other ≠ slot →
      entryAt cut id other = entryAt before id other)
    (mirrored : ∀ other, 1 ≤ other → other < 113 → other ≠ slot →
      entryAt before .secFat other = entryAt before .priFat other)
    (data : ∀ address, 8192 ≤ address → cut address = before address)
    (outcome : (entryAt cut .priFat slot = entry ∧ isValidEntry entry = true) ∨
      (isValidEntry (entryAt cut .priFat slot) = false ∧ ∀ inode block,
        (entry.inodes inode).Covers block → ¬ ReservedBlock info block ∧
          ∀ owner, ¬ OwnedByTable cut owner block)) :
    Survived info before cut slot entry := by
  obtain ⟨volume, mounted, from_, volumeOk, _⟩ := @Recoverable.mountVolume (freshVolume info cut)
    free ok rfl
  obtain ⟨infoEq, caughtUp, mapOk, balanced, sequenceNumber, files⟩ := from_
  have flash : FlashOk info volume.device.cells free := ok.caughtUp caughtUp
  have primary (other : Nat) (otherInTable : other < 113) :
      entryAt volume.device.cells .priFat other = entryAt cut .priFat other :=
    caughtUp.primary other otherInTable
  have secondary (other : Nat) (otherPositive : 1 ≤ other) (otherInTable : other < 113) :
      entryAt volume.device.cells .secFat other = entryAt cut .priFat other := by
    rw [flash.tables.mirrored other otherPositive otherInTable, primary other otherInTable]
  have owned (owner : Nat × Fin 3) (block : Nat) :
      OwnedByTable volume.device.cells owner block ↔ OwnedByTable cut owner block := by
    unfold OwnedByTable
    by_cases ownerInTable : owner.1 < 113
    · rw [primary owner.1 ownerInTable]
    · simp [ownerInTable]
  have inUse (block : Nat) : volume.map.InUse block ↔ ReservedBlock info block ∨
      ∃ owner, OwnedByTable cut owner block := by
    have balancedUsed := balanced.used_iff block
    simp only [flash.scanOwned_iff, owned] at balancedUsed
    exact balancedUsed
  refine ⟨volume, mounted, infoEq, ?_, ?_, ?_, ?_, ?_⟩
  · rcases outcome with ⟨stored, live⟩ | ⟨gone, free_⟩
    · refine Or.inl ⟨?_, ?_⟩
      · intro id
        cases id with
        | priFat => rw [primary slot inTable, stored]
        | secFat => rw [secondary slot positive inTable, stored]
      · intro inode block covers
        refine (inUse block).mpr (Or.inr ⟨(slot, inode), positive, inTable, ?_, ?_⟩)
        · rw [stored]
          exact live
        · rw [stored]
          exact covers
    · refine Or.inr ⟨?_, ?_⟩
      · intro id
        cases id with
        | priFat => rw [primary slot inTable, gone]
        | secFat => rw [secondary slot positive inTable, gone]
      · intro inode block covers
        obtain ⟨notReserved, notOwned⟩ := free_ inode block covers
        rw [inUse]
        rintro (reserved | ⟨owner, held⟩)
        · exact notReserved reserved
        · exact notOwned owner held
  · intro id other otherPositive otherInTable different
    cases id with
    | priFat => rw [primary other otherInTable, others _ _ otherPositive otherInTable different]
    | secFat =>
      rw [secondary other otherPositive otherInTable,
        others _ _ otherPositive otherInTable different,
        mirrored other otherPositive otherInTable different]
  · rintro owner block different ⟨otherPositive, otherInTable, live, covers⟩
    refine (inUse block).mpr (Or.inr ⟨owner, otherPositive, otherInTable, ?_, ?_⟩)
    · rw [others .priFat owner.1 otherPositive otherInTable different]
      exact live
    · rw [others .priFat owner.1 otherPositive otherInTable different]
      exact covers
  · intro address beyond
    exact (caughtUp.data address beyond).trans (data address beyond)
  · rw [infoEq]
    exact flash.crossChecked slot

end Recovery

theorem torn_first (entry : DirEntry) : entry.torn.filename 0 = 0xFF := by
  simp [DirEntry.torn]

def closeCut (info : PartInfo) (cells : Cells) (openFile : OpenFile) (count : Nat) : Cells :=
  (closeDevice info (observe cells) openFile).cutAfter cells count

theorem closeCut_three (info : PartInfo) (cells : Cells) (openFile : OpenFile) :
    closeCut info cells openFile 3 =
      (dataOp .secFat (openFile.closedEntry info) openFile.directoryIndex).apply
        (closeCut info cells openFile 2) :=
  rfl

theorem closeCut_all (info : PartInfo) (cells : Cells) (openFile : OpenFile) {count : Nat}
    (all : 4 ≤ count) :
    closeCut info cells openFile count = (closeDevice info (observe cells) openFile).cells := by
  unfold closeCut cutAfter
  rw [List.take_of_length_le (by exact all)]
  rfl

/-- The contents after some of the flash operations of removing a file. -/
def removeCut (cells : Cells) (slot count : Nat) : Cells :=
  (removeDevice (observe cells) slot).cutAfter cells count

theorem removeCut_all (cells : Cells) (slot : Nat) {count : Nat} (all : 2 ≤ count) :
    removeCut cells slot count = (removeDevice (observe cells) slot).cells := by
  unfold removeCut cutAfter
  rw [List.take_of_length_le (by exact all)]
  rfl

section Closing

variable {volume : Volume} {openFile : OpenFile} {index : Fin 4}

theorem VolumeOk.flashOk_writer (ok : VolumeOk volume) (writer : volume.files.Writer openFile) :
    FlashOk volume.info volume.device.cells openFile.directoryIndex where
  tables :=
    { roots := ok.tables.roots
      freeRange := by
        have slot := ok.writer_slot writer
        omega
      mirrored := ok.tables.mirrored
      used := by
        intro slot positive before _
        have writerSlot := ok.writer_slot writer
        refine ok.tables.used slot positive (by omega) ?_
        rintro ⟨other, otherWriter, here⟩
        rw [(ok.files.onlyWriter writer other).mp otherWriter] at here
        omega
      erased := by
        intro slot positive inTable after
        have writerSlot := ok.writer_slot writer
        refine ok.tables.erased slot positive inTable ?_
        by_cases here : slot = openFile.directoryIndex
        · exact Or.inr ⟨openFile, writer, here.symm⟩
        · refine Or.inl ?_
          simp only [or_false] at after
          omega }
  disjoint first second block firstOwned secondOwned :=
    ok.balanced.disjoint first second block (Or.inl firstOwned) (Or.inl secondOwned)

section

variable (ok : VolumeOk volume) (present : volume.files.openFiles index = some openFile)
  (writing : openFile.flags = .wronly)

include ok present writing

theorem VolumeOk.flashOk_closed :
    FlashOk volume.info (closeDevice volume.info volume.device openFile).cells
      (openFile.directoryIndex + 1) := by
  have writer : volume.files.Writer openFile := ⟨index, present, writing⟩
  obtain ⟨map', closed, _, _⟩ := closeWriter_spec ok.mapOk (ok.files.writers openFile writer).1
  obtain ⟨volume', closed', closedOk, _, _⟩ := ok.closeWriter present writing
  obtain rfl := Except.ok.inj (closed.symm.trans closed')
  have flash := closedOk.flashOk rfl
  rw [(ok.writer_slot writer).2.1]
  exact flash

theorem VolumeOk.survived_of_primary {cut : Cells}
    (primary : ∀ slot < 113, entryAt cut .priFat slot =
      entryAt (closeDevice volume.info volume.device openFile).cells .priFat slot)
    (others : ∀ slot < 113, slot ≠ openFile.directoryIndex →
      entryAt cut .secFat slot = entryAt volume.device.cells .secFat slot)
    (repairable : Repairable (entryAt cut .priFat openFile.directoryIndex)
      (entryAt cut .secFat openFile.directoryIndex))
    (data : ∀ address, 8192 ≤ address → cut address = volume.device.cells address) :
    Survived volume.info volume.device.cells cut openFile.directoryIndex
      (openFile.closedEntry volume.info) := by
  obtain ⟨writer, writerOk, positive, inTable⟩ := ok.writer_of present writing
  have flash := ok.flashOk_writer writer
  have closed := ok.flashOk_closed present writing
  have both := ok.closeDevice_written writer
  have otherPrimary (slot : Nat) (slotInTable : slot < 113)
      (different : slot ≠ openFile.directoryIndex) :
      entryAt cut .priFat slot = entryAt volume.device.cells .priFat slot :=
    (primary slot slotInTable).trans (both.others .priFat slot slotInTable different)
  have recoverable : Recoverable volume.info cut (openFile.directoryIndex + 1) := by
    refine closed.recoverable_of primary ?_ ?_ ?_
    · rw [others 0 (by decide) (by omega)]
      exact flash.tables.roots .secFat
    · intro slot slotPositive before
      by_cases here : slot = openFile.directoryIndex
      · rw [here]
        exact repairable
      · rw [otherPrimary slot (by omega) here, others slot (by omega) here]
        exact flash.repairable slotPositive (by omega)
    · intro slot after slotInTable
      rw [others slot slotInTable (by omega)]
      exact flash.recoverable.erased .secFat slot (by omega) slotInTable
  refine recoverable.survived positive inTable ?_ ?_ data (Or.inl ⟨?_, ?_⟩)
  · intro id slot _ slotInTable different
    cases id with
    | priFat => exact otherPrimary slot slotInTable different
    | secFat => exact others slot slotInTable different
  · intro slot slotPositive slotInTable _
    exact flash.tables.mirrored slot slotPositive slotInTable
  · rw [primary _ inTable, both.here]
  · exact (writerOk.closedEntry (ok.writer_filePosition writer)).isValidEntry

theorem VolumeOk.closeCut_zero_survived :
    Survived volume.info volume.device.cells volume.device.cells openFile.directoryIndex
      (openFile.closedEntry volume.info) := by
  obtain ⟨writer, writerOk, positive, inTable⟩ := ok.writer_of present writing
  have flash := ok.flashOk_writer writer
  refine flash.recoverable.survived positive inTable (fun _ _ _ _ _ => rfl)
    (fun slot slotPositive slotInTable _ => flash.tables.mirrored slot slotPositive slotInTable)
    (fun _ _ => rfl) (Or.inr ⟨isValidEntry_of_erased (ok.writer_erased writer .priFat), ?_⟩)
  intro inode block covers
  have range := (writerOk.closedShape.covers covers).2
  refine ⟨by unfold ReservedBlock; omega, ?_⟩
  rintro owner held
  have different : owner.1 ≠ openFile.directoryIndex := by
    intro here
    have live := held.2.2.1
    rw [here, isValidEntry_of_erased (ok.writer_erased writer .priFat)] at live
    contradiction
  rcases (closedEntry_covers writerOk.shape inode block).mp covers with
    ⟨before, filled⟩ | ⟨_, trimmed⟩
  · have same := ok.balanced.disjoint owner (openFile.directoryIndex, inode) block
      (Or.inl held) (writer_filled writer inode block before filled)
    rw [same] at different
    exact different rfl
  · exact writerOk.currentFree block (writerOk.covers_of_trimmed trimmed)
      ((ok.balanced.used_iff block).mpr (Or.inr ⟨owner, Or.inl held⟩))

/-- What every prefix but the first leaves of the flash. -/
theorem VolumeOk.closeCut_survived {count : Nat} (notFirst : count ≠ 1) :
    Survived volume.info volume.device.cells
      (closeCut volume.info volume.device.cells openFile count) openFile.directoryIndex
      (openFile.closedEntry volume.info) := by
  obtain ⟨writer, writerOk, positive, inTable⟩ := ok.writer_of present writing
  have both := ok.closeDevice_written writer
  have erased := ok.writer_erased writer
  have closed := writerOk.closedEntry (ok.writer_filePosition writer)
  have primaryWritten : entryAt (closeCut volume.info volume.device.cells openFile 2) .priFat
      openFile.directoryIndex = openFile.closedEntry volume.info :=
    entryAt_dirEntryWrite (DirEntry.accepts_of_erased (erased .priFat) _)
  have primary (slot : Nat) (slotInTable : slot < 113) :
      entryAt (closeCut volume.info volume.device.cells openFile 2) .priFat slot =
        entryAt (closeDevice volume.info volume.device openFile).cells .priFat slot := by
    by_cases here : slot = openFile.directoryIndex
    · rw [here, primaryWritten, both.here]
    · rw [both.others .priFat slot slotInTable here]
      exact entryAt_dirEntryWrite_other inTable slotInTable fun same => here same.2
  have secondary (slot : Nat) (slotInTable : slot < 113) :
      entryAt (closeCut volume.info volume.device.cells openFile 2) .secFat slot =
        entryAt volume.device.cells .secFat slot :=
    entryAt_dirEntryWrite_other inTable slotInTable (by simp)
  match count, notFirst with
  | 0, _ => exact ok.closeCut_zero_survived present writing
  | 2, _ =>
    refine ok.survived_of_primary present writing primary
      (fun slot slotInTable _ => secondary slot slotInTable) ?_
      fun address beyond => dirEntryWrite_data inTable beyond
    rw [primaryWritten, secondary _ inTable]
    exact .closing closed.named (isErasedEntry_first (erased .secFat))
      (DirEntry.accepts_of_erased (erased .secFat) _)
  | 3, _ =>
    have data := slotOp_dataOp .secFat (openFile.closedEntry volume.info) inTable
    rw [closeCut_three]
    refine ok.survived_of_primary present writing ?_ ?_ ?_ ?_
    · intro slot slotInTable
      rw [data.others _ _ _ slotInTable (by simp)]
      exact primary slot slotInTable
    · intro slot slotInTable different
      rw [data.others _ _ _ slotInTable (by simpa using different)]
      exact secondary slot slotInTable
    · have stillErased : isErasedEntry (entryAt
          (closeCut volume.info volume.device.cells openFile 2) .secFat
          openFile.directoryIndex) = true := by
        rw [secondary _ inTable]
        exact erased .secFat
      rw [data.others _ _ _ inTable (by simp), primaryWritten, entryAt_dataOp_of_erased stillErased]
      exact .closing closed.named (torn_first _) (DirEntry.torn_accepts _)
    · intro address beyond
      rw [data.data _ _ beyond]
      exact dirEntryWrite_data inTable beyond
  | count + 4, _ =>
    rw [closeCut_all _ _ _ (Nat.le_add_left 4 count)]
    refine ok.survived_of_primary present writing (fun _ _ => rfl)
      (fun slot slotInTable different => both.others .secFat slot slotInTable different) ?_
      both.data
    rw [show (closeDevice volume.info (observe volume.device.cells) openFile).cells =
      (closeDevice volume.info volume.device openFile).cells from rfl, both.here, both.mirrored]
    exact .inOrder rfl (Or.inl closed.named)

end

end Closing

section Torn

variable {volume : Volume} {openFile : OpenFile} {index : Fin 4} {entry : DirEntry} {slot : Nat}
  {info : PartInfo}

theorem not_isErasedEntry_torn (closed : ClosedEntry volume.info entry) :
    isErasedEntry entry.torn = false := by
  rw [Bool.eq_false_iff]
  intro erased
  have bytes := (isErasedEntry_iff _).mp erased
  obtain ⟨last, shape, _⟩ := closed.extents
  have range := (shape.inRange 0 (Fin.zero_le last)).2
  have blocks := volume.info.blocksFit
  have inode : entry.inodes 0 = ⟨inodeUnused, inodeUnused⟩ := by
    rw [← Inode.ofBytes_byte (entry.inodes 0)]
    have image : ∀ position < 4, (entry.inodes 0).byte position = 0xFF := by
      intro position inside
      have byte := bytes (24 + position) (by omega)
      rw [DirEntry.torn_byte _ (by omega), if_neg (by omega)] at byte
      have late : ¬ 24 + position < 24 := by omega
      have first : (24 + position - 24) / 4 = 0 := by omega
      have within : (24 + position - 24) % 4 = position := by omega
      have ofInode : (entry.inodes (Fin.ofNat 3 0)).byte position = 0xFF := by
        simpa only [DirEntry.byte, late, first, within,
          dif_neg (show ¬ 24 + position < 16 by omega),
          if_neg (show ¬ 24 + position < 20 by omega),
          if_neg (show ¬ 24 + position < 22 by omega), if_false] using byte
      exact ofInode
    rw [Inode.ofBytes_congr image]
    rfl
  rw [inode] at range
  unfold PartInfo.numBlocks at range
  have unused : inodeUnused.toNat = 65535 := rfl
  simp only [unused] at range
  omega

theorem torn_scannedAlike (closed : ClosedEntry volume.info entry) :
    ScannedAlike entry.torn entry where
  erased := by
    rw [not_isErasedEntry_torn closed, isErasedEntry_eq_false (classifyDirent_file closed.named).1]
  deleted := by
    have notDeleted : isDeletedEntry entry = false := by
      simp [isDeletedEntry, (classifyDirent_file closed.named).2]
    rw [notDeleted]
    simp [isDeletedEntry, DirEntry.torn]
  inodes := rfl

theorem VolumeOk.mount_torn (ok : VolumeOk volume)
    (present : volume.files.openFiles index = some openFile)
    (writing : openFile.flags = .wronly) :
    ∃ mounted, mountVolume (freshVolume volume.info
        (closeCut volume.info volume.device.cells openFile 1)) = .ok (mounted, .ok) ∧
      MountedFrom (freshVolume volume.info
        (closeCut volume.info volume.device.cells openFile 1)) mounted openFile.directoryIndex
        (openFile.directoryIndex + 1) := by
  obtain ⟨writer, writerOk, positive, inTable⟩ := ok.writer_of present writing
  have closed := writerOk.closedEntry (ok.writer_filePosition writer)
  have flash := ok.flashOk_writer writer
  have both := ok.closeDevice_written writer
  have data := slotOp_dataOp .priFat (openFile.closedEntry volume.info) inTable
  have others (id : BlockId) (slot : Nat) (slotInTable : slot < 113)
      (different : slot ≠ openFile.directoryIndex) :
      entryAt (closeCut volume.info volume.device.cells openFile 1) id slot =
        entryAt volume.device.cells id slot :=
    data.others _ _ _ slotInTable fun same => different same.2
  have mount := @mountVolume_spec (freshVolume volume.info
    (closeCut volume.info volume.device.cells openFile 1)) openFile.directoryIndex
    (openFile.directoryIndex + 1) rfl
  refine (mount ?_ ⟨positive, by omega⟩ ?_ ?_ ?_).imp fun _ spec => ⟨spec.1, spec.2.1⟩
  · intro id
    exact (others id 0 (by decide) (by omega)).trans (flash.tables.roots id)
  · intro _ id
    cases id with
    | priFat =>
      have torn := entryAt_dataOp_of_erased (ok.writer_erased writer .priFat)
        (openFile.closedEntry volume.info)
      exact (congrArg (fun entry => entry.filename 0) torn).trans (torn_first _)
    | secFat =>
      have kept := data.others volume.device.cells .secFat openFile.directoryIndex inTable
        (by simp)
      exact (congrArg (fun entry => entry.filename 0) kept).trans
        (isErasedEntry_first (ok.writer_erased writer .secFat))
  · intro slot slotPositive before
    have kept (id : BlockId) := others id slot (by omega) (by omega)
    exact (kept .priFat).symm ▸ (kept .secFat).symm ▸ flash.repairable slotPositive before
  · refine (ok.flashOk_closed present writing).scannable.congr ?_
    intro slot slotInTable
    by_cases here : slot = openFile.directoryIndex
    · have torn := entryAt_dataOp_of_erased (ok.writer_erased writer .priFat)
        (openFile.closedEntry volume.info)
      rw [here, both.here]
      exact torn.symm ▸ torn_scannedAlike closed
    · rw [both.others .priFat slot slotInTable here]
      exact (others .priFat slot slotInTable here).symm ▸ .refl _

theorem VolumeOk.closeCut_one_slot (ok : VolumeOk volume) (writer : volume.files.Writer openFile) :
    entryAt (closeCut volume.info volume.device.cells openFile 1) .priFat
        openFile.directoryIndex = (openFile.closedEntry volume.info).torn ∧
      ∀ id slot, slot < 113 → ¬ (id = .priFat ∧ slot = openFile.directoryIndex) →
        entryAt (closeCut volume.info volume.device.cells openFile 1) id slot =
          entryAt volume.device.cells id slot :=
  ⟨entryAt_dataOp_of_erased (ok.writer_erased writer .priFat) _,
    fun _ _ slotInTable different => (slotOp_dataOp .priFat _ (ok.writer_slot writer).2.2).others
      _ _ _ slotInTable different⟩

/-- A table that has gone on behind a slot. -/
def mismatchAfter (cells : Cells) (slot : Nat) : Cells := fun address =>
  if address = slotOffset .priFat (slot + 1) then 0x41
  else if address = slotOffset .secFat (slot + 1) then 0
  else cells address

theorem entryAt_mismatchAfter (cells : Cells) {id : BlockId} {slot earlier : Nat}
    (room : slot < 112) (before : earlier ≤ slot) :
    entryAt (mismatchAfter cells slot) id earlier = entryAt cells id earlier := by
  apply entryAt_congr
  intro address inside
  have primary :=
    @slotOffset_disjoint .priFat id (slot + 1) earlier (by omega) (by omega) (by omega)
  have secondary :=
    @slotOffset_disjoint .secFat id (slot + 1) earlier (by omega) (by omega) (by omega)
  rw [mismatchAfter, if_neg (by omega), if_neg (by omega)]

theorem mismatch_mismatchAfter (cells : Cells) (room : slot < 112) :
    Mismatch (mismatchAfter cells slot) (slot + 1) := by
  have apart :=
    @slotOffset_disjoint .priFat .secFat (slot + 1) (slot + 1) (by omega) (by omega) (by simp)
  constructor
  · rw [entryAt_first, mismatchAfter, if_pos rfl]
    decide
  · rw [entryAt_first, mismatchAfter, if_neg (by omega), if_pos rfl]

theorem not_crossChecked_of_torn {cells : Cells} (positive : 1 ≤ slot) (room : slot < 112)
    (torn : ∀ id, (entryAt cells id slot).filename 0 = 0xFF)
    (scanned : isErasedEntry (entryAt cells .priFat slot) = false)
    (inOrder : ∀ earlier, 1 ≤ earlier → earlier < slot → InOrder cells earlier) :
    ¬ CrossChecked info cells slot := by
  intro crossChecked
  have kept (id : BlockId) (earlier : Nat) (before : earlier ≤ slot) :=
    @entryAt_mismatchAfter cells id slot earlier room before
  obtain ⟨volume, reported⟩ := crossChecked (mismatchAfter cells slot) (slot + 1)
    { after := by omega
      upTo := fun earlier _ before => Or.inl fun id => kept id earlier before
      between := by
        intro earlier lower upper
        omega
      scanned := by
        intro earlier earlierPositive before
        rw [kept .priFat earlier (by omega)]
        by_cases here : earlier = slot
        · rw [here, scanned]
        · obtain ⟨_, used⟩ := inOrder earlier earlierPositive (by omega)
          apply isErasedEntry_eq_false
          rcases used with file | deleted
          · exact (classifyDirent_file file).1
          · rw [deleted]
            decide }
    (mismatch_mismatchAfter cells room)
  obtain ⟨device, checked, _⟩ := @checkDirectoryEntriesLoop_spec
    (freshVolume info (mismatchAfter cells slot)) slot (by omega) rfl
    (fun _ id => by
      change (entryAt (mismatchAfter cells slot) id slot).filename 0 = 0xFF
      rw [kept id slot le_rfl]
      exact torn id) 112 1 rfl positive
    (fun earlier earlierPositive before => by
      change Repairable (entryAt (mismatchAfter cells slot) _ _)
        (entryAt (mismatchAfter cells slot) _ _)
      rw [kept _ _ (by omega), kept _ _ (by omega)]
      exact (inOrder earlier earlierPositive before).repairable)
  have same := reported.symm.trans checked
  injection same with same
  exact absurd (Prod.mk.inj same).2 (by decide)

theorem covers_offset {inode : Inode}
    (inRange : inode.offset.toNat + inode.length.toNat ≤ info.numBlocks)
    (nonempty : 0 < inode.length.toNat) : inode.Covers inode.offset.toNat :=
  ⟨isValidInode_of_inRange inRange nonempty, le_rfl, Nat.lt_add_of_pos_right nonempty⟩

theorem WriterOk.closedEntry_empty_iff {map : SectorMap} (ok : WriterOk volume.info map openFile) :
    (∀ inode block, ¬ ((openFile.closedEntry volume.info).inodes inode).Covers block) ↔
      openFile.filePosition = 0 := by
  have position := ok.filePosition
  simp only [closedEntry_covers ok.shape]
  constructor
  · intro empty
    by_contra written
    rcases Nat.eq_zero_or_pos openFile.currentInode.val with first | later
    · have started : 0 < openFile.extentPosition := by
        rw [first] at position
        simp only [bytesBefore] at position
        omega
      exact empty openFile.currentInode _
        (Or.inr ⟨rfl, covers_offset ok.trimmed_inRange.2 (ok.trimmed_spec.2.2 started)⟩)
    · exact empty 0 _ (Or.inl ⟨later, covers_offset (ok.shape.inRange 0 (Fin.zero_le _)).2
        (ok.shape.filled later 0 (Fin.zero_le _))⟩)
  · intro zero inode block covers
    have unstarted : openFile.extentPosition = 0 := by omega
    rcases covers with ⟨before, _⟩ | ⟨_, valid, lower, upper⟩
    · have started := ok.started (lt_of_le_of_lt (Fin.zero_le inode) before)
      omega
    · have length : (openFile.trimmed volume.info).length.toNat = 0 := by
        simp [OpenFile.trimmed, usedBlocks, unstarted]
      omega

theorem VolumeOk.closeCut_one_iff (ok : VolumeOk volume)
    (present : volume.files.openFiles index = some openFile)
    (writing : openFile.flags = .wronly) :
    Survived volume.info volume.device.cells
        (closeCut volume.info volume.device.cells openFile 1) openFile.directoryIndex
        (openFile.closedEntry volume.info) ↔
      openFile.directoryIndex = 112 ∧ openFile.filePosition = 0 := by
  obtain ⟨writer, writerOk, positive, inTable⟩ := ok.writer_of present writing
  have closed := writerOk.closedEntry (ok.writer_filePosition writer)
  have flash := ok.flashOk_writer writer
  obtain ⟨tornSlot, others⟩ := ok.closeCut_one_slot writer
  obtain ⟨mounted, mountedEq, info, caughtUp, _, balanced, _⟩ := ok.mount_torn present writing
  have primary (slot : Nat) (slotInTable : slot < 113) := caughtUp.primary slot slotInTable
  have storedTorn : entryAt mounted.device.cells .priFat openFile.directoryIndex =
      (openFile.closedEntry volume.info).torn := (primary _ inTable).trans tornSlot
  have storedErased : entryAt mounted.device.cells .secFat openFile.directoryIndex =
      entryAt volume.device.cells .secFat openFile.directoryIndex :=
    (caughtUp.others _ inTable (by simp)).trans (others .secFat _ inTable (by simp))
  have torn (id : BlockId) :
      (entryAt mounted.device.cells id openFile.directoryIndex).filename 0 = 0xFF := by
    cases id with
    | priFat => rw [storedTorn, torn_first]
    | secFat => rw [storedErased, isErasedEntry_first (ok.writer_erased writer .secFat)]
  have kept (id : BlockId) (slot : Nat) (slotPositive : 1 ≤ slot) (slotInTable : slot < 113)
      (different : slot ≠ openFile.directoryIndex) :
      entryAt mounted.device.cells id slot = entryAt volume.device.cells id slot := by
    have before := fun id => others id slot slotInTable fun same => different same.2
    cases id with
    | priFat => exact (primary slot slotInTable).trans (before .priFat)
    | secFat =>
      by_cases behind : slot < openFile.directoryIndex
      · rw [flash.tables.mirrored slot slotPositive slotInTable]
        exact (caughtUp.secondary slot slotInTable ⟨slotPositive, behind⟩).trans (before .priFat)
      · exact (caughtUp.others slot slotInTable (by simp [behind])).trans (before .secFat)
  have used {owner : Nat × Fin 3} {block : Nat} (below : owner.1 ≤ openFile.directoryIndex)
      (held : ScanOwned mounted.device.cells owner block) : mounted.map.InUse block :=
    (balanced.used_iff block).mpr (Or.inr ⟨owner, Nat.lt_succ_of_le below, held⟩)
  have ownUsed {inode : Fin 3} {block : Nat}
      (covers : ((openFile.closedEntry volume.info).inodes inode).Covers block) :
      mounted.map.InUse block := by
    refine @used (openFile.directoryIndex, inode) block le_rfl ⟨positive, ?_, ?_⟩
    · rw [storedTorn, (torn_scannedAlike closed).deleted]
      simp [isDeletedEntry, (classifyDirent_file closed.named).2]
    · rw [storedTorn]
      exact covers
  constructor
  · rintro ⟨mounted', mountedEq', _, survived⟩
    obtain rfl := (Prod.mk.inj (Except.ok.inj (mountedEq.symm.trans mountedEq'))).1
    constructor
    · by_contra notLast
      refine not_crossChecked_of_torn positive (by omega) torn ?_ ?_ survived.crossChecked
      · rw [storedTorn]
        exact not_isErasedEntry_torn closed
      · intro earlier earlierPositive before
        obtain ⟨same, classified⟩ := flash.inOrder earlierPositive before
        have keptBoth := fun id => kept id earlier earlierPositive (by omega) (by omega)
        exact ⟨by rw [keptBoth, keptBoth, same], by rw [keptBoth]; exact classified⟩
    · refine writerOk.closedEntry_empty_iff.mp ?_
      intro inode block covers
      rcases survived.affected with stored | absent
      · have first := torn .priFat
        rw [stored.stored .priFat] at first
        exact (classifyDirent_file closed.named).1 first
      · exact absent.free inode block covers (ownUsed covers)
  · rintro ⟨last, empty⟩
    refine ⟨mounted, mountedEq, info, Or.inr ⟨?_, ?_⟩, kept, ?_, ?_, ?_⟩
    · intro id
      simp [isValidEntry, isUnusedEntry, torn id]
    · intro inode block covers
      exact absurd covers (writerOk.closedEntry_empty_iff.mpr empty inode block)
    · rintro owner block different ⟨ownerPositive, ownerInTable, live, covers⟩
      refine @used owner block (by omega) ⟨ownerPositive, ?_, ?_⟩
      · rw [kept .priFat owner.1 ownerPositive ownerInTable different, Bool.eq_false_iff]
        intro deleted
        rw [isValidEntry_of_deleted deleted] at live
        contradiction
      · rw [kept .priFat owner.1 ownerPositive ownerInTable different]
        exact covers
    · intro address beyond
      exact (caughtUp.data address beyond).trans
        ((slotOp_dataOp .priFat _ inTable).data _ _ beyond)
    · intro later other laterOk
      have := laterOk.after
      omega

end Torn

section Removing

variable {volume : Volume} {slot : Nat}

theorem VolumeOk.exists_flashOk (ok : VolumeOk volume) :
    ∃ free, FlashOk volume.info volume.device.cells free := by
  cases idle : volume.files.fileIsOpenForWriting with
  | false => exact ⟨_, ok.flashOk idle⟩
  | true =>
    obtain ⟨openFile, writer⟩ := ok.files.writerFlag.mp idle
    exact ⟨_, ok.flashOk_writer writer⟩

variable {info : PartInfo} {cells : Cells} {free : Nat}

theorem FlashOk.removed {cells' : Cells} (ok : FlashOk info cells free) (positive : 1 ≤ slot)
    (before : slot < free) {wiped : DirEntry} (both : WrittenBoth cells cells' slot wiped)
    (deleted : isDeletedEntry wiped = true) : FlashOk info cells' free where
  tables := ok.tables.write both positive before id (fun _ _ => Iff.rfl) (Or.inl deleted)
  disjoint := by
    have earlier {owner : Nat × Fin 3} {block : Nat} (held : OwnedByTable cells' owner block) :
        OwnedByTable cells owner block := by
      refine (ownedByTable_write_other both block ?_).mp held
      intro here
      have live := held.2.2.1
      rw [here, both.here, isValidEntry_of_deleted deleted] at live
      contradiction
    intro first second block firstOwned secondOwned
    exact ok.disjoint first second block (earlier firstOwned) (earlier secondOwned)

theorem FlashOk.survived_removed {cut : Cells} (ok : FlashOk info cells free) (positive : 1 ≤ slot)
    (inTable : slot < 113) (live : isValidEntry (entryAt cells .priFat slot) = true)
    (recoverable : Recoverable info cut free)
    (others : ∀ id other, 1 ≤ other → other < 113 → other ≠ slot →
      entryAt cut id other = entryAt cells id other)
    (data : ∀ address, 8192 ≤ address → cut address = cells address)
    (deleted : isDeletedEntry (entryAt cut .priFat slot) = true) :
    Survived info cells cut slot (entryAt cells .priFat slot) := by
  refine recoverable.survived positive inTable others
    (fun other otherPositive otherInTable _ => ok.tables.mirrored other otherPositive otherInTable)
    data (Or.inr ⟨isValidEntry_of_deleted deleted, ?_⟩)
  intro inode block covers
  have held : OwnedByTable cells (slot, inode) block := ⟨positive, inTable, live, covers⟩
  have range := ok.tables.ownedByTable_range held
  refine ⟨by unfold ReservedBlock; omega, ?_⟩
  rintro owner ⟨ownerPositive, ownerInTable, ownerLive, ownerCovers⟩
  have different : owner.1 ≠ slot := by
    intro here
    rw [here, isValidEntry_of_deleted deleted] at ownerLive
    contradiction
  rw [others .priFat owner.1 ownerPositive ownerInTable different] at ownerLive ownerCovers
  have same := ok.disjoint owner (slot, inode) block
    ⟨ownerPositive, ownerInTable, ownerLive, ownerCovers⟩ held
  rw [same] at different
  exact different rfl

/-- What every prefix of removing a file leaves of the flash. -/
theorem VolumeOk.removeCut_survived (ok : VolumeOk volume) (positive : 1 ≤ slot)
    (inTable : slot < 113)
    (live : isValidEntry (entryAt volume.device.cells .priFat slot) = true) (count : Nat) :
    Survived volume.info volume.device.cells (removeCut volume.device.cells slot count) slot
      (entryAt volume.device.cells .priFat slot) := by
  obtain ⟨free, flash⟩ := ok.exists_flashOk
  obtain ⟨before, _, closed⟩ := flash.tables.closed positive inTable live
  have mirrored := flash.tables.mirrored slot positive inTable
  obtain ⟨wiped, both, deleted⟩ :=
    @removeDevice_written slot (observe volume.device.cells) inTable mirrored
  have final := flash.removed positive before both deleted
  match count with
  | 0 =>
    exact flash.recoverable.survived positive inTable (fun _ _ _ _ _ => rfl)
      (fun other otherPositive otherInTable _ =>
        flash.tables.mirrored other otherPositive otherInTable)
      (fun _ _ => rfl) (Or.inl ⟨rfl, live⟩)
  | 1 =>
    have wipe := slotOp_firstOp .priFat 0 inTable
    have others (id : BlockId) (other : Nat) (otherInTable : other < 113)
        (different : ¬ (id = .priFat ∧ other = slot)) :
        entryAt (removeCut volume.device.cells slot 1) id other =
          entryAt volume.device.cells id other := wipe.others _ _ _ otherInTable different
    have secondary (other : Nat) (otherInTable : other < 113) :=
      others .secFat other otherInTable (by simp)
    have primary (other : Nat) (otherInTable : other < 113) :
        entryAt (removeCut volume.device.cells slot 1) .priFat other =
          entryAt (removeDevice (observe volume.device.cells) slot).cells .priFat other :=
      ((slotOp_firstOp .secFat 0 inTable).others _ _ _ otherInTable (by simp)).symm
    have wipedFirst : (entryAt (removeCut volume.device.cells slot 1) .priFat slot).filename 0 =
        0 := by
      have first := entryAt_firstOp_filename volume.device.cells .priFat 0 slot
      rwa [UInt8.and_zero] at first
    refine flash.survived_removed positive inTable live (final.recoverable_of primary ?_ ?_ ?_)
      (fun id other _ otherInTable different =>
        others id other otherInTable fun same => different same.2)
      (fun address beyond => wipe.data _ _ beyond) ?_
    · exact (secondary 0 (by decide)).trans (flash.tables.roots .secFat)
    · intro other otherPositive otherBefore
      have otherInTable := otherBefore.trans_le flash.tables.freeRange.2
      rw [secondary other otherInTable]
      by_cases here : other = slot
      · rw [here, mirrored]
        refine .removing wipedFirst closed.named ?_
        intro index inside later
        have bytes := entryAt_firstOp_byte volume.device.cells .priFat 0 slot inside
        rwa [if_neg later] at bytes
      · rw [others .priFat other otherInTable fun same => here same.2]
        exact flash.repairable otherPositive otherBefore
    · intro other after otherInTable
      rw [secondary other otherInTable]
      exact flash.recoverable.erased .secFat other after otherInTable
    · exact beq_iff_eq.mpr wipedFirst
  | count + 2 =>
    rw [removeCut_all _ _ (Nat.le_add_left 2 count)]
    refine flash.survived_removed positive inTable live final.recoverable
      (fun id other _ otherInTable different => both.others id other otherInTable different)
      both.data ?_
    rw [both.here]
    exact deleted

end Removing

section PowerCut

variable {volume : Volume}

theorem VolumeOk.doClose_device (ok : VolumeOk volume) {fileId : FileId} {index : Fin 4}
    {openFile : OpenFile}
    (found : findOpenFileInstanceById volume.files fileId = some (index, openFile))
    (writing : openFile.flags = .wronly) {volume' : Volume} {result : RafsErrors}
    (closed : Rafs.doClose volume fileId = .ok (volume', result)) :
    volume'.device = closeDevice volume.info volume.device openFile := by
  obtain ⟨_, present⟩ := findOpenFileInstanceById_eq_some found
  obtain ⟨map', writerClosed, _⟩ :=
    closeWriter_spec ok.mapOk (ok.files.writers openFile ⟨index, present, writing⟩).1
  simp only [Rafs.doClose, found, writing, if_true, writerClosed, bind, Except.bind, pure,
    Except.pure] at closed
  cases closed
  rfl

/-- Which prefixes of the writes of `Rafs_DoClose` and `Rafs_DoRemove` the file that is
closed or removed survives. -/
theorem powerCut_survived {cells : Cells} (ok : VolumeOk volume)
    (observed : volume.device = observe cells) (count : Nat) :
    (∀ fileId index openFile volume' result,
      findOpenFileInstanceById volume.files fileId = some (index, openFile) →
      openFile.flags = .wronly → doClose volume fileId = .ok (volume', result) →
        (Survived volume.info cells (volume'.device.cutAfter cells count)
            openFile.directoryIndex (openFile.closedEntry volume.info) ↔
          count ≠ 1 ∨ openFile.directoryIndex = 112 ∧ openFile.filePosition = 0)) ∧
      ∀ task filename slot entry volume' work,
        volume.files.scanDirEntryAllocated = true → isValidFilename filename = .ok →
        lookup cells volume.files.freeDirSlot filename = some (slot, entry) →
        doRemove volume task filename = .ok (volume', .ok, work) →
          Survived volume.info cells (volume'.device.cutAfter cells count) slot entry := by
  obtain ⟨info, device, map, files⟩ := volume
  obtain rfl : device = _ := observed
  constructor
  · intro fileId index openFile volume' result found writing closed
    obtain ⟨_, present⟩ := findOpenFileInstanceById_eq_some found
    rw [ok.doClose_device found writing closed]
    by_cases first : count = 1
    · subst first
      refine (ok.closeCut_one_iff present writing).trans ?_
      simp
    · exact iff_of_true (ok.closeCut_survived present writing first) (Or.inl first)
  · intro task filename slot entry volume' work scan valid found removed
    obtain ⟨positive, _, inTable, _, rfl, live, _⟩ := ok.tables.lookup valid found
    obtain ⟨map', inodes, removed', _⟩ := ok.doRemove_eq scan valid task found
    obtain rfl := (Prod.mk.inj (Except.ok.inj (removed.symm.trans removed'))).1
    exact ok.removeCut_survived positive inTable live count

theorem exists_volume_with_writer : ∃ volume, VolumeOk volume ∧
    volume.device = observe volume.device.cells ∧ ∃ index openFile,
      findOpenFileInstanceById volume.files 0 = some (index, openFile) ∧
        openFile.flags = .wronly ∧ openFile.directoryIndex = 1 := by
  have ran : (spaceRun keepsExtent
      (System.init smallPartition (formattedCells smallPartition fun _ => 0))
      [.mount none ⟨[0x2F], by decide⟩, .deliver 0, .deliver 0, .open_ none pathA .wronly,
        .write 0 (fun _ => 0x55) 1]).any (fun s => s.self.partition.isSome &&
          (s.self.files.bind fun files => findOpenFileInstanceById files 0).any fun found =>
            decide (found.2.flags = .wronly) && decide (found.2.directoryIndex = 1)) = true := by
    decide +kernel
  obtain ⟨s, ran, facts⟩ := (Option.any_eq_true _ _).mp ran
  rw [Bool.and_eq_true] at facts
  obtain ⟨⟨index, openFile⟩, found, flags⟩ := (Option.any_eq_true _ _).mp facts.2
  rw [Bool.and_eq_true, decide_eq_true_eq, decide_eq_true_eq] at flags
  obtain ⟨files, hasFiles, found⟩ := Option.bind_eq_some_iff.mp found
  cases (init_systemOk smallPartition fun _ => 0).run ran with
  | unmounted notMounted =>
    rw [notMounted] at facts
    exact absurd facts.1 Bool.false_ne_true
  | mounted isMounted stored info volumeOk scan work =>
    obtain rfl := Option.some.inj (stored.symm.trans hasFiles)
    exact ⟨_, @VolumeOk.sameTables _ volumeOk (observe s.device.cells) fun _ _ _ => rfl,
      rfl, index, openFile, found, flags⟩

theorem powerCut_survived_two : ∃ (volume : Volume) (fileId : FileId) (openFile : OpenFile)
    (volume' : Volume), doClose volume fileId = .ok (volume', .ok) ∧
      Survived volume.info volume.device.cells
        (volume'.device.cutAfter volume.device.cells 2) openFile.directoryIndex
        (openFile.closedEntry volume.info) := by
  obtain ⟨volume, ok, observed, index, openFile, found, writing, _⟩ := exists_volume_with_writer
  obtain ⟨volume', closed, _⟩ := ok.doClose 0
  exact ⟨volume, 0, openFile, volume', closed,
    ((powerCut_survived ok observed 2).1 0 index openFile volume' .ok found writing closed).mpr
      (Or.inl (by decide))⟩

/-- A cut after the first write leaves neither. -/
theorem torn_close_not_survived : ∃ (volume : Volume) (fileId : FileId) (index : Fin 4)
    (openFile : OpenFile) (volume' : Volume), VolumeOk volume ∧
    volume.device = observe volume.device.cells ∧
    findOpenFileInstanceById volume.files fileId = some (index, openFile) ∧
    openFile.flags = .wronly ∧ doClose volume fileId = .ok (volume', .ok) ∧
      ¬ Survived volume.info volume.device.cells
        (volume'.device.cutAfter volume.device.cells 1) openFile.directoryIndex
        (openFile.closedEntry volume.info) := by
  obtain ⟨volume, ok, observed, index, openFile, found, writing, slot⟩ := exists_volume_with_writer
  obtain ⟨_, present⟩ := findOpenFileInstanceById_eq_some found
  obtain ⟨volume', closed, _⟩ := ok.doClose 0
  refine ⟨volume, 0, index, openFile, volume', ok, observed, found, writing, closed, ?_⟩
  rw [ok.doClose_device found writing closed, observed]
  intro survived
  have last := ((ok.closeCut_one_iff present writing).mp survived).1
  omega

end PowerCut

end HeadsetAdk.Rafs
