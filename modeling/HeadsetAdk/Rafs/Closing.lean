import HeadsetAdk.Rafs.Opening
import Mathlib.Data.Finset.Card
import Mathlib.Order.Interval.Finset.Nat

/-!
# Closing files

Closing a writer trims its last extent to the blocks it has written, marks them
in the sector map and hands all its extents over to the entry it writes.
-/

namespace HeadsetAdk.Rafs

open Function (update_self update_of_ne)
open NorFlash BlockAccounts

section Sizes

variable {info : PartInfo}

section

variable {inodes : Fin 3 → Inode} {count : Nat}
  (inRange : ∀ inode : Fin 3, inode.val < count →
    (inodes inode).offset.toNat + (inodes inode).length.toNat ≤ info.numBlocks)
  (disjoint : ∀ (first second : Fin 3) (block : Nat), first.val < count → second.val < count →
    (inodes first).Covers block → (inodes second).Covers block → first = second)

include inRange disjoint

theorem exists_blocks_of_extents :
    ∃ blocks : Finset Nat, blocks ⊆ Finset.range info.numBlocks ∧
      blocks.card * info.blockSize = bytesBefore info inodes count ∧
      ∀ block ∈ blocks, ∃ inode : Fin 3, inode.val < count ∧ (inodes inode).Covers block := by
  induction count with
  | zero => exact ⟨∅, Finset.empty_subset _, by simp [bytesBefore], by simp⟩
  | succ count induction =>
    obtain ⟨blocks, within, size, owned⟩ := induction
      (fun inode before => inRange inode (by omega))
      fun first second block firstBefore secondBefore =>
        disjoint first second block (by omega) (by omega)
    rw [bytesBefore]
    split
    case isFalse =>
      exact ⟨blocks, within, size, fun block member => by
        obtain ⟨inode, before, covers⟩ := owned block member
        exact ⟨inode, by omega, covers⟩⟩
    case isTrue inTable =>
      have upper := inRange ⟨count, inTable⟩ (Nat.lt_succ_self count)
      generalize stored : inodes ⟨count, inTable⟩ = inode at upper
      have covers (block : Nat) (member : block ∈ Finset.Ico inode.offset.toNat
          (inode.offset.toNat + inode.length.toNat)) : inode.Covers block := by
        rw [Finset.mem_Ico] at member
        exact ⟨isValidInode_of_inRange upper (by omega), member⟩
      have apart : Disjoint blocks (Finset.Ico inode.offset.toNat
          (inode.offset.toNat + inode.length.toNat)) := by
        rw [Finset.disjoint_left]
        intro block member new
        obtain ⟨other, before, otherCovers⟩ := owned block member
        have same := disjoint other ⟨count, inTable⟩ block (by omega) (Nat.lt_succ_self count)
          otherCovers (by rw [stored]; exact covers block new)
        rw [same] at before
        exact absurd before (Nat.lt_irrefl count)
      refine ⟨blocks ∪ Finset.Ico inode.offset.toNat
        (inode.offset.toNat + inode.length.toNat), ?_, ?_, ?_⟩
      · intro block member
        rcases Finset.mem_union.mp member with old | new
        · exact within old
        · rw [Finset.mem_Ico] at new
          exact Finset.mem_range.mpr (by omega)
      · rw [Finset.card_union_of_disjoint apart, Nat.card_Ico, Nat.add_mul, size,
          Nat.add_sub_cancel_left]
      · intro block member
        rcases Finset.mem_union.mp member with old | new
        · obtain ⟨other, before, otherCovers⟩ := owned block old
          exact ⟨other, by omega, otherCovers⟩
        · exact ⟨⟨count, inTable⟩, Nat.lt_succ_self count, by
            rw [stored]
            exact covers block new⟩

theorem bytesBefore_lt : bytesBefore info inodes count < 2 ^ 32 := by
  obtain ⟨blocks, within, size, _⟩ := exists_blocks_of_extents inRange disjoint
  have few := Finset.card_le_card within
  rw [Finset.card_range] at few
  calc bytesBefore info inodes count = blocks.card * info.blockSize := size.symm
    _ ≤ info.numBlocks * info.blockSize := Nat.mul_le_mul_right _ few
    _ ≤ info.partitionSize := numBlocks_mul_le info
    _ < 2 ^ 32 := info.sizeFits

end

/-- The rounding of `Rafs_DoClose` keeps every byte and frees only blocks past
the last one. -/
theorem usedBlocks_spec {extentPosition length : Nat} (small : length < 65536)
    (within : extentPosition ≤ length * info.blockSize) :
    (usedBlocks info extentPosition).toNat ≤ length ∧
      extentPosition ≤ (usedBlocks info extentPosition).toNat * info.blockSize ∧
      (0 < extentPosition → 0 < (usedBlocks info extentPosition).toNat) := by
  have positive : 0 < info.blockSize := by
    have := info.directoryFits
    omega
  have division := Nat.div_add_mod extentPosition info.blockSize
  have remainder := Nat.mod_lt extentPosition positive
  rw [Nat.mul_comm] at division
  have quotient : extentPosition / info.blockSize ≤ length :=
    Nat.div_le_of_le_mul (by rwa [Nat.mul_comm])
  by_cases exact_ : extentPosition % info.blockSize = 0
  · have rounded : (usedBlocks info extentPosition).toNat = extentPosition / info.blockSize := by
      rw [usedBlocks, if_neg (by simpa using exact_), Nat.add_zero]
      exact Nat.mod_eq_of_lt (by omega)
    rw [rounded]
    refine ⟨quotient, by omega, ?_⟩
    intro started
    apply Nat.div_pos _ positive
    exact Nat.le_of_dvd started (Nat.dvd_of_mod_eq_zero exact_)
  · have short : extentPosition / info.blockSize < length := by
      rw [Nat.div_lt_iff_lt_mul positive]
      refine lt_of_le_of_ne within ?_
      rintro rfl
      exact exact_ (Nat.mul_mod_left _ _)
    have rounded : (usedBlocks info extentPosition).toNat =
        extentPosition / info.blockSize + 1 := by
      rw [usedBlocks, if_pos exact_]
      exact Nat.mod_eq_of_lt (by omega)
    rw [rounded]
    refine ⟨short, ?_, fun _ => Nat.succ_pos _⟩
    rw [Nat.add_one_mul]
    omega

end Sizes

section

variable {map : SectorMap} {inodes : List Inode} (fits : map.Fits inodes)
  (disjoint : SectorMap.PairwiseDisjoint inodes)

include fits disjoint

theorem addExtents_free (free : ∀ inode ∈ inodes, ∀ block, inode.Covers block → ¬ map.InUse block) :
    ∃ map', map.addExtents inodes = .ok (map', true) ∧ map'.capacity = map.capacity ∧
      ∀ block, map'.InUse block ↔ map.InUse block ∨ ∃ inode ∈ inodes, inode.Covers block := by
  obtain ⟨map', marked, equal, updated, done⟩ := SectorMap.updateExtents_spec true fits
  obtain ⟨rfl, used⟩ := done disjoint fun inode member block covers => by
    simpa [SectorMap.InUse] using free inode member block covers
  refine ⟨map', equal, by rw [SectorMap.capacity, updated.length_eq, SectorMap.capacity], ?_⟩
  intro block
  constructor
  · intro inUse
    by_cases touched : ∃ inode ∈ inodes, inode.Covers block
    · exact Or.inr touched
    · rw [SectorMap.InUse, updated.untouched block touched] at inUse
      exact Or.inl inUse
  · rintro (inUse | ⟨inode, member, covers⟩)
    · rcases updated.onlyTo block with same | changed
      · rw [SectorMap.InUse, same]
        exact inUse
      · exact changed
    · exact used inode member block covers

theorem removeExtents_used
    (used : ∀ inode ∈ inodes, ∀ block, inode.Covers block → map.InUse block) :
    ∃ map', map.removeExtents inodes = .ok (map', true) ∧ map'.capacity = map.capacity ∧
      ∀ block, map'.InUse block ↔ map.InUse block ∧ ∀ inode ∈ inodes, ¬ inode.Covers block := by
  obtain ⟨map', marked, equal, updated, done⟩ := SectorMap.updateExtents_spec false fits
  obtain ⟨rfl, free⟩ := done disjoint used
  refine ⟨map', equal, by rw [SectorMap.capacity, updated.length_eq, SectorMap.capacity], ?_⟩
  intro block
  constructor
  · intro inUse
    have untouched : ∀ inode ∈ inodes, ¬ inode.Covers block := by
      intro inode member covers
      rw [SectorMap.InUse, free inode member block covers] at inUse
      contradiction
    refine ⟨?_, untouched⟩
    rw [SectorMap.InUse, updated.untouched block (by push Not; exact untouched)] at inUse
    exact inUse
  · rintro ⟨inUse, untouched⟩
    rw [SectorMap.InUse, updated.untouched block (by push Not; exact untouched)]
    exact inUse

end

theorem MapOk.congr {info : PartInfo} {map map' : SectorMap} (mapOk : MapOk info map)
    (same : map'.capacity = map.capacity) : MapOk info map' where
  covers := same ▸ mapOk.covers
  small := same ▸ mapOk.small

section Finalise

variable {info : PartInfo} {map : SectorMap} {openFile : OpenFile}

def OpenFile.trimmed (info : PartInfo) (openFile : OpenFile) : Inode :=
  { openFile.inode with length := usedBlocks info openFile.extentPosition }

/-- The entry that `Rafs_DoClose` writes. -/
def OpenFile.closedEntry (info : PartInfo) (openFile : OpenFile) : DirEntry :=
  (finaliseEntry info openFile).fileDirEntry

theorem closedEntry_inodes (info : PartInfo) (openFile : OpenFile) :
    (openFile.closedEntry info).inodes = Function.update openFile.fileDirEntry.inodes
      openFile.currentInode (openFile.trimmed info) :=
  rfl

theorem finaliseEntry_inode (info : PartInfo) (openFile : OpenFile) :
    (finaliseEntry info openFile).inode = openFile.trimmed info :=
  update_self _ _ _

section

variable (ok : WriterOk info map openFile)

include ok

theorem WriterOk.trimmed_spec :
    (openFile.trimmed info).length.toNat ≤ openFile.inode.length.toNat ∧
      openFile.extentPosition ≤ (openFile.trimmed info).length.toNat * info.blockSize ∧
      (0 < openFile.extentPosition → 0 < (openFile.trimmed info).length.toNat) :=
  usedBlocks_spec (UInt16.toNat_lt _) ok.position

theorem WriterOk.trimmed_inRange :
    2 ≤ (openFile.trimmed info).offset.toNat ∧
      (openFile.trimmed info).offset.toNat + (openFile.trimmed info).length.toNat ≤
        info.numBlocks := by
  have bounds := ok.shape.inRange openFile.currentInode le_rfl
  have shorter := ok.trimmed_spec.1
  have upper : openFile.inode.offset.toNat + openFile.inode.length.toNat ≤ info.numBlocks :=
    bounds.2
  exact ⟨bounds.1, (Nat.add_le_add_left shorter openFile.inode.offset.toNat).trans upper⟩

theorem WriterOk.covers_of_trimmed {block : Nat}
    (covers : (openFile.trimmed info).Covers block) : openFile.inode.Covers block := by
  obtain ⟨_, lower, upper⟩ := covers
  have shorter := ok.trimmed_spec.1
  refine ⟨isValidInode_of_inRange (ok.shape.inRange _ le_rfl).2 ok.nonempty, lower, ?_⟩
  exact upper.trans_le (Nat.add_le_add_left shorter openFile.inode.offset.toNat)

theorem WriterOk.trimmed_fits (mapOk : MapOk info map) : map.Fits [openFile.trimmed info] := by
  intro inode member _
  rw [List.mem_singleton.mp member]
  exact ok.trimmed_inRange.2.trans mapOk.covers

theorem WriterOk.closedShape :
    ExtentShape info (openFile.closedEntry info).inodes openFile.currentInode := by
  rw [closedEntry_inodes]
  refine ⟨?_, ?_, ?_⟩
  · intro inode before
    by_cases same : inode = openFile.currentInode
    · rw [same, update_self]
      exact ok.trimmed_inRange
    · rw [update_of_ne same]
      exact ok.shape.inRange inode before
  · intro later inode before
    by_cases same : inode = openFile.currentInode
    · rw [same, update_self]
      exact ok.trimmed_spec.2.2 (ok.started later)
    · rw [update_of_ne same]
      exact ok.shape.filled later inode before
  · intro inode after
    rw [update_of_ne (ne_of_gt after)]
    exact ok.shape.unused inode after

end

theorem closedEntry_bytesBefore (info : PartInfo) (openFile : OpenFile) :
    bytesBefore info (openFile.closedEntry info).inodes openFile.currentInode.val =
      bytesBefore info openFile.fileDirEntry.inodes openFile.currentInode.val := by
  apply bytesBefore_congr
  intro inode before
  rw [closedEntry_inodes, update_of_ne (by
    rintro rfl
    exact absurd before (Nat.lt_irrefl _))]

theorem WriterOk.closedEntry (ok : WriterOk info map openFile)
    (small : openFile.filePosition < 2 ^ 32) : ClosedEntry info (openFile.closedEntry info) where
  named := ok.named
  extents := by
    have size : (openFile.closedEntry info).fileSize.toNat = openFile.filePosition :=
      Nat.mod_eq_of_lt small
    refine ⟨openFile.currentInode, ok.closedShape, ?_, ?_⟩
    · intro later
      have started := ok.started later
      rw [size, ok.filePosition, closedEntry_bytesBefore]
      omega
    · have last : (openFile.closedEntry info).inodes openFile.currentInode =
          openFile.trimmed info := update_self _ _ _
      rw [size, ok.filePosition, bytesBefore_succ, closedEntry_bytesBefore, last]
      exact Nat.add_le_add_left ok.trimmed_spec.2.1 _

end Finalise

section Close

variable {info : PartInfo} {map : SectorMap}

/-- What `Rafs_DoClose` does to the flash for a writer. -/
def closeDevice (info : PartInfo) (device : Device) (openFile : OpenFile) : Device :=
  dirEntryWrite
    (dirEntryWrite device .priFat (openFile.closedEntry info) openFile.directoryIndex)
    .secFat (openFile.closedEntry info) openFile.directoryIndex

theorem closeWriter_spec {volume : Volume} {openFile : OpenFile}
    (mapOk : MapOk volume.info volume.map)
    (ok : WriterOk volume.info volume.map openFile) :
    ∃ map', closeWriter volume openFile = .ok
        { volume with
          map := map'
          device := closeDevice volume.info volume.device openFile
          files := { volume.files with fileIsOpenForWriting := false } } ∧
      MapOk volume.info map' ∧
      ∀ block, map'.InUse block ↔
        volume.map.InUse block ∨ (openFile.trimmed volume.info).Covers block := by
  obtain ⟨map', marked, capacity, inUse⟩ := addExtents_free (ok.trimmed_fits mapOk)
    (List.pairwise_singleton _ _) fun inode member block covers => by
      rw [List.mem_singleton.mp member] at covers
      exact ok.currentFree block (ok.covers_of_trimmed covers)
  refine ⟨map', ?_, mapOk.congr capacity, fun block => by simpa using inUse block⟩
  unfold closeWriter
  simp only [finaliseEntry_inode, marked, bind, Except.bind, pure, Except.pure]
  rfl

variable {volume : Volume} {index : Fin 4} {openFile : OpenFile}

theorem VolumeOk.writer_slot (ok : VolumeOk volume) (writing : volume.files.Writer openFile) :
    1 ≤ openFile.directoryIndex ∧ openFile.directoryIndex + 1 = volume.files.freeDirSlot ∧
      openFile.directoryIndex < 113 := by
  obtain ⟨writerOk, slot⟩ := ok.files.writers openFile writing
  have range := ok.tables.freeRange
  exact ⟨writerOk.slot, slot, by omega⟩

theorem VolumeOk.writer_of (ok : VolumeOk volume)
    (present : volume.files.openFiles index = some openFile) (writing : openFile.flags = .wronly) :
    volume.files.Writer openFile ∧ WriterOk volume.info volume.map openFile ∧
      1 ≤ openFile.directoryIndex ∧ openFile.directoryIndex < 113 :=
  have writer : volume.files.Writer openFile := ⟨index, present, writing⟩
  ⟨writer, (ok.files.writers openFile writer).1, (ok.writer_slot writer).1,
    (ok.writer_slot writer).2.2⟩

theorem VolumeOk.writer_erased (ok : VolumeOk volume) (writing : volume.files.Writer openFile)
    (id : BlockId) :
    isErasedEntry (entryAt volume.device.cells id openFile.directoryIndex) = true := by
  obtain ⟨positive, _, inTable⟩ := ok.writer_slot writing
  have erased := ok.tables.erased openFile.directoryIndex positive inTable
    (Or.inr ⟨openFile, writing, rfl⟩)
  cases id with
  | priFat => exact erased
  | secFat => rw [ok.tables.mirrored _ positive inTable, erased]

section

variable {reserved : Nat → Prop} {owned : Nat × Fin 3 → Nat → Prop}
  (ok : WriterExtents info map openFile) (balanced : Balanced reserved owned map.InUse)
  (filled : ∀ inode block, inode < openFile.currentInode →
    (openFile.fileDirEntry.inodes inode).Covers block →
      owned (openFile.directoryIndex, inode) block)

include ok balanced filled

theorem WriterExtents.disjoint {first second : Fin 3} {block : Nat}
    (firstLe : first ≤ openFile.currentInode) (secondLe : second ≤ openFile.currentInode)
    (firstCovers : (openFile.fileDirEntry.inodes first).Covers block)
    (secondCovers : (openFile.fileDirEntry.inodes second).Covers block) : first = second := by
  have used {inode : Fin 3} (before : inode < openFile.currentInode)
      (covers : (openFile.fileDirEntry.inodes inode).Covers block) : map.InUse block :=
    (balanced.used_iff block).mpr (Or.inr ⟨_, filled inode block before covers⟩)
  rcases lt_or_eq_of_le firstLe with firstBefore | rfl
  · rcases lt_or_eq_of_le secondLe with secondBefore | rfl
    · exact (Prod.mk.inj (balanced.disjoint _ _ block (filled _ _ firstBefore firstCovers)
        (filled _ _ secondBefore secondCovers))).2
    · exact absurd (used firstBefore firstCovers) (ok.currentFree block secondCovers)
  · rcases lt_or_eq_of_le secondLe with secondBefore | rfl
    · exact absurd (used secondBefore secondCovers) (ok.currentFree block firstCovers)
    · rfl

/-- The extents of a writer hold less than `2 ^ 32` bytes together. -/
theorem WriterExtents.capacity :
    bytesBefore info openFile.fileDirEntry.inodes (openFile.currentInode.val + 1) < 2 ^ 32 := by
  apply bytesBefore_lt
  · intro inode before
    exact (ok.shape.inRange inode (Nat.le_of_lt_succ before)).2
  · intro first second block firstBefore secondBefore
    exact ok.disjoint balanced filled (Nat.le_of_lt_succ firstBefore)
      (Nat.le_of_lt_succ secondBefore)

end

theorem writer_filled (writing : volume.files.Writer openFile) (inode : Fin 3)
    (block : Nat) (before : inode < openFile.currentInode)
    (covers : (openFile.fileDirEntry.inodes inode).Covers block) :
    Owned volume.device.cells volume.files (openFile.directoryIndex, inode) block :=
  Or.inr ⟨openFile, writing, rfl, before, covers⟩

theorem VolumeOk.writer_filePosition (ok : VolumeOk volume)
    (writing : volume.files.Writer openFile) : openFile.filePosition < 2 ^ 32 := by
  have writerOk := (ok.files.writers openFile writing).1
  have capacity := writerOk.capacity ok.balanced (writer_filled writing)
  have position : openFile.extentPosition ≤
      (openFile.fileDirEntry.inodes openFile.currentInode).length.toNat *
        volume.info.blockSize := writerOk.position
  rw [bytesBefore_succ] at capacity
  rw [writerOk.filePosition]
  omega

theorem VolumeOk.closeDevice_written (ok : VolumeOk volume)
    (writing : volume.files.Writer openFile) :
    WrittenBoth volume.device.cells (closeDevice volume.info volume.device openFile).cells
      openFile.directoryIndex (openFile.closedEntry volume.info) :=
  writtenBoth_entry (ok.writer_slot writing).2.2
    (DirEntry.accepts_of_erased (ok.writer_erased writing .priFat) _)
    (DirEntry.accepts_of_erased (ok.writer_erased writing .secFat) _)

theorem closedEntry_covers (shape : ExtentShape volume.info openFile.fileDirEntry.inodes
      openFile.currentInode) (inode : Fin 3) (block : Nat) :
    ((openFile.closedEntry volume.info).inodes inode).Covers block ↔
      (inode < openFile.currentInode ∧ (openFile.fileDirEntry.inodes inode).Covers block) ∨
        (inode = openFile.currentInode ∧ (openFile.trimmed volume.info).Covers block) := by
  rw [closedEntry_inodes]
  rcases lt_trichotomy inode openFile.currentInode with before | same | after
  · rw [update_of_ne (ne_of_lt before)]
    simp [before, ne_of_lt before]
  · rw [same, update_self]
    simp
  · rw [update_of_ne (ne_of_gt after)]
    have notCovered : ¬ (openFile.fileDirEntry.inodes inode).Covers block := by
      rintro ⟨valid, _⟩
      rw [shape.unused inode after] at valid
      exact absurd valid (by decide)
    simp [notCovered, ne_of_gt after]

/-- A volume after its writer in slot `index` of the table has been closed. -/
def closedFiles (files : FileInfo) (index : Fin 4) : FileInfo :=
  { files with fileIsOpenForWriting := false }.removeOpenFile index

theorem closedFiles_noWriter (ok : FilesOk volume.info volume.map volume.files)
    (present : volume.files.openFiles index = some openFile) (writing : openFile.flags = .wronly)
    (other : OpenFile) : ¬ (closedFiles volume.files index).Writer other := by
  rintro ⟨place, there, flags⟩
  rcases update_openFiles_cases there with ⟨_, impossible⟩ | ⟨different, before⟩
  · contradiction
  · rw [ok.others present writing place other different before] at flags
    contradiction

theorem numOpenFiles_remove {files files' : FileInfo}
    (ok : FilesOk info map files) (present : files.openFiles index = some openFile)
    (openFiles : files'.openFiles = Function.update files.openFiles index none)
    (numOpenFiles : files'.numOpenFiles = (files.numOpenFiles + 65535) % 65536) :
    files'.numOpenFiles = openCount files'.openFiles := by
  have few := openCount_le files.openFiles
  have counted : files.numOpenFiles = openCount files.openFiles := ok.counted
  have removed := openCount_remove present
  rw [openFiles, numOpenFiles, counted]
  omega

theorem FilesOk.removeWriter (ok : FilesOk volume.info volume.map volume.files)
    (present : volume.files.openFiles index = some openFile) (writing : openFile.flags = .wronly)
    (map' : SectorMap) : FilesOk volume.info map' (closedFiles volume.files index) := by
  have noWriter := closedFiles_noWriter ok present writing
  refine ⟨?_, ?_, ?_, ?_, numOpenFiles_remove ok present rfl rfl⟩
  · intro other reader there reading
    rcases update_openFiles_cases there with ⟨_, impossible⟩ | ⟨_, before⟩
    · contradiction
    · exact ok.readers other reader before reading
  · intro other writer
    exact absurd writer (noWriter other)
  · intro first second firstFile secondFile firstPresent firstWriting
    exact absurd ⟨first, firstPresent, firstWriting⟩ (noWriter firstFile)
  · constructor
    · intro flag
      exact absurd flag Bool.false_ne_true
    · rintro ⟨other, writer⟩
      exact absurd writer (noWriter other)

section

variable (ok : VolumeOk volume) (present : volume.files.openFiles index = some openFile)
  (writing : openFile.flags = .wronly)

include ok present writing

theorem VolumeOk.closed_balanced {map' : SectorMap}
    (inUse : ∀ block, map'.InUse block ↔
      volume.map.InUse block ∨ (openFile.trimmed volume.info).Covers block) :
    Balanced (ReservedBlock volume.info)
      (Owned (closeDevice volume.info volume.device openFile).cells
        (closedFiles volume.files index)) map'.InUse := by
  obtain ⟨writer, writerOk, positive, inTable⟩ := ok.writer_of present writing
  have both := ok.closeDevice_written writer
  have onlyWriter {other : OpenFile} (otherWriter : volume.files.Writer other) :
      other = openFile := by
    obtain ⟨place, there, flags⟩ := otherWriter
    obtain rfl := ok.files.oneWriter place index other openFile there flags present writing
    exact Option.some.inj (there.symm.trans present)
  refine @Balanced.extend (Nat × Fin 3) Nat _ _ _ _ _ ok.balanced
    (fun owner block => owner = (openFile.directoryIndex, openFile.currentInode) ∧
      (openFile.trimmed volume.info).Covers block) ?_ ?_ ?_ ?_
  · rintro owner block ⟨_, covers⟩
    exact writerOk.currentFree block (writerOk.covers_of_trimmed covers)
  · rintro first second block ⟨rfl, _⟩ ⟨rfl, _⟩
    rfl
  · rintro ⟨slot, inode⟩ block
    have noneAfter : ¬ OwnedByWriter (closedFiles volume.files index) (slot, inode) block :=
      fun ⟨other, otherWriter, _⟩ => closedFiles_noWriter ok.files present writing other otherWriter
    rw [Owned, or_iff_left noneAfter]
    by_cases here : slot = openFile.directoryIndex
    · subst here
      have noneBefore : ¬ OwnedByTable volume.device.cells
          (openFile.directoryIndex, inode) block := by
        rintro ⟨_, _, live, _⟩
        rw [isValidEntry_of_erased (ok.writer_erased writer .priFat)] at live
        contradiction
      rw [Owned, or_iff_right noneBefore]
      have live : isValidEntry (openFile.closedEntry volume.info) = true :=
        (writerOk.closedEntry (ok.writer_filePosition writer)).isValidEntry
      simp only [OwnedByTable, both.here, live, positive, inTable, true_and,
        closedEntry_covers writerOk.shape, Prod.mk.injEq]
      refine or_congr_left ?_
      constructor
      · rintro ⟨before, covers⟩
        exact ⟨openFile, writer, rfl, before, covers⟩
      · rintro ⟨other, otherWriter, _, before, covers⟩
        rw [onlyWriter otherWriter] at before covers
        exact ⟨before, covers⟩
    · rw [ownedByTable_write_other both block here]
      have notWriter : ¬ OwnedByWriter volume.files (slot, inode) block := by
        rintro ⟨other, otherWriter, same, _⟩
        rw [onlyWriter otherWriter] at same
        exact here same.symm
      simp [Owned, notWriter, here]
  · intro block
    simp [inUse]

theorem VolumeOk.closeWriter :
    ∃ volume', Rafs.closeWriter volume openFile = .ok volume' ∧
      VolumeOk { volume' with files := volume'.files.removeOpenFile index } ∧
      volume'.info = volume.info ∧
      volume'.files.scanDirEntryAllocated = volume.files.scanDirEntryAllocated := by
  have writer : volume.files.Writer openFile := ⟨index, present, writing⟩
  have writerOk := (ok.files.writers openFile writer).1
  obtain ⟨positive, slot, inTable⟩ := ok.writer_slot writer
  obtain ⟨map', closed, mapOk', inUse⟩ := closeWriter_spec ok.mapOk writerOk
  have noWriter := closedFiles_noWriter ok.files present writing
  refine ⟨_, closed, ⟨?_, mapOk', ?_, ?_⟩, rfl, rfl⟩
  · refine ok.tables.write (ok.closeDevice_written writer) positive (by omega) ?_ ?_
      (Or.inr (writerOk.closedEntry (ok.writer_filePosition writer)))
    · rintro ⟨other, otherWriter, _⟩
      exact noWriter other otherWriter
    · intro other different
      constructor
      · rintro ⟨otherFile, otherWriter, _⟩
        exact absurd otherWriter (noWriter otherFile)
      · rintro ⟨otherFile, otherWriter, same⟩
        have otherSlot := (ok.files.writers otherFile otherWriter).2
        omega
  · exact ok.closed_balanced present writing inUse
  · exact ok.files.removeWriter present writing map'

end

/-- `Rafs_DoClose` keeps the invariant. -/
theorem VolumeOk.doClose (ok : VolumeOk volume) (fileId : FileId) :
    ∃ volume', Rafs.doClose volume fileId = .ok (volume', .ok) ∧ VolumeOk volume' ∧
      volume'.info = volume.info ∧
      volume'.files.scanDirEntryAllocated = volume.files.scanDirEntryAllocated := by
  unfold Rafs.doClose
  cases found : findOpenFileInstanceById volume.files fileId with
  | none => exact ⟨volume, rfl, ok, rfl, rfl⟩
  | some pair =>
    obtain ⟨index, openFile⟩ := pair
    obtain ⟨_, present⟩ := findOpenFileInstanceById_eq_some found
    cases flags : openFile.flags with
    | wronly =>
      obtain ⟨volume', closed, closedOk, info, scan⟩ := ok.closeWriter present flags
      refine ⟨_, ?_, closedOk, info, scan⟩
      simp [flags, closed, bind, Except.bind, pure, Except.pure]
    | rdonly =>
      have before (reader : OpenFile) (there : volume.files.openFiles index = some reader) :
          reader.flags = .rdonly := by
        rw [← Option.some.inj (present.symm.trans there)]
        exact flags
      have sameWriter := @writer_update_iff volume.files
        (volume.files.removeOpenFile index) index none rfl before (by simp)
      refine ⟨{ volume with files := volume.files.removeOpenFile index }, ?_, ?_, rfl, rfl⟩
      · simp [flags, bind, Except.bind, pure, Except.pure]
      · refine ⟨ok.tables.congr (fun _ _ _ => rfl) (reservedSlot_congr sameWriter), ok.mapOk,
          ?_, ?_⟩
        · exact ok.balanced.congr (fun owner block =>
            or_congr_right (ownedByWriter_congr sameWriter owner block)) fun _ => Iff.rfl
        · exact ok.files.setReader before (by simp) rfl rfl rfl
            (numOpenFiles_remove ok.files present rfl rfl)

end Close

end HeadsetAdk.Rafs
