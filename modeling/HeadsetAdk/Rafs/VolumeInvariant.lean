import HeadsetAdk.Lib.BlockAccounts
import HeadsetAdk.Rafs.DirectoryWrites

/-!
# The invariant of a mounted volume

The two tables mirror each other, every file lies on extents of its own, and the sector map marks
the blocks that are used.  A writer has reserved an erased slot.
-/

namespace HeadsetAdk.Rafs

open NorFlash BlockAccounts

section Shapes

variable {info : PartInfo}

/-- The inodes of a file whose last extent is `last`. -/
structure ExtentShape (info : PartInfo) (inodes : Fin 3 → Inode) (last : Fin 3) : Prop where
  inRange : ∀ inode ≤ last, 2 ≤ (inodes inode).offset.toNat ∧
    (inodes inode).offset.toNat + (inodes inode).length.toNat ≤ info.numBlocks
  filled : 0 < last → ∀ inode ≤ last, 0 < (inodes inode).length.toNat
  unused : ∀ inode, last < inode → inodes inode = ⟨inodeUnused, inodeUnused⟩

def bytesBefore (info : PartInfo) (inodes : Fin 3 → Inode) : Nat → Nat
  | 0 => 0
  | count + 1 =>
      bytesBefore info inodes count +
        if inTable : count < 3 then
          (inodes ⟨count, inTable⟩).length.toNat * info.blockSize
        else 0

theorem bytesBefore_succ (info : PartInfo) (inodes : Fin 3 → Inode) (inode : Fin 3) :
    bytesBefore info inodes (inode.val + 1) =
      bytesBefore info inodes inode.val + (inodes inode).length.toNat * info.blockSize := by
  rw [bytesBefore, dif_pos inode.isLt]

theorem bytesBefore_congr {first second : Fin 3 → Inode} {count : Nat}
    (agree : ∀ inode : Fin 3, inode.val < count → first inode = second inode) :
    bytesBefore info first count = bytesBefore info second count := by
  induction count with
  | zero => rfl
  | succ count induction =>
    rw [bytesBefore, bytesBefore, induction fun inode before => agree inode (by omega)]
    split
    case isTrue inTable => rw [agree ⟨count, inTable⟩ (by simp)]
    case isFalse => rfl

/-- What `Rafs_DoClose` leaves of a file: its blocks hold its bytes, and all its
extents but the last are full. -/
structure ClosedEntry (info : PartInfo) (entry : DirEntry) : Prop where
  named : classifyDirent (entry.filename 0) = .file
  extents : ∃ last, ExtentShape info entry.inodes last ∧
    (0 < last → bytesBefore info entry.inodes last.val < entry.fileSize.toNat) ∧
    entry.fileSize.toNat ≤ bytesBefore info entry.inodes (last.val + 1)

theorem classifyDirent_file {character : UInt8} (isFile : classifyDirent character = .file) :
    character ≠ 0xFF ∧ character ≠ 0 := by
  unfold classifyDirent at isFile
  split at isFile
  · contradiction
  · split at isFile
    · contradiction
    · constructor <;> assumption

theorem ClosedEntry.isValidEntry {entry : DirEntry}
    (closed : ClosedEntry info entry) : Rafs.isValidEntry entry = true := by
  obtain ⟨notErased, notDeleted⟩ := classifyDirent_file closed.named
  simp [Rafs.isValidEntry, isUnusedEntry, isDeletedEntry, notErased, notDeleted]

theorem ClosedEntry.of_sameFile {first second : DirEntry}
    (same : SameFile first second) (closed : ClosedEntry info second) : ClosedEntry info first where
  named := by
    rw [same.filename]
    exact closed.named
  extents := by
    rw [same.inodes, same.fileSize]
    exact closed.extents

variable {inodes : Fin 3 → Inode} {last : Fin 3}

theorem ExtentShape.covers {inode : Fin 3} (shape : ExtentShape info inodes last) {block : Nat}
    (covers : (inodes inode).Covers block) : inode ≤ last ∧ 2 ≤ block ∧ block < info.numBlocks := by
  obtain ⟨valid, lower, upper⟩ := covers
  have before : inode ≤ last := by
    by_contra after
    rw [shape.unused inode (by omega)] at valid
    exact absurd valid (by decide)
  have bounds := shape.inRange inode before
  omega

theorem ExtentShape.fits (shape : ExtentShape info inodes last) {map : SectorMap}
    (capacity : info.numBlocks ≤ map.capacity) : map.Fits (List.ofFn inodes) := by
  intro inode member valid
  obtain ⟨index, rfl⟩ := List.mem_ofFn.mp member
  have nonempty := ((isValidInode_iff _).mp valid).1
  have before := (shape.covers ⟨valid, le_refl _, Nat.lt_add_of_pos_right nonempty⟩).1
  exact (shape.inRange index before).2.trans capacity

theorem isValidInode_of_inRange {inode : Inode}
    (inRange : inode.offset.toNat + inode.length.toNat ≤ info.numBlocks)
    (nonempty : 0 < inode.length.toNat) : isValidInode inode = true := by
  refine (isValidInode_iff inode).mpr ⟨nonempty, ?_⟩
  rintro ⟨offset, length⟩
  have blocks := info.blocksFit
  rw [offset, length] at inRange
  have unused : inodeUnused.toNat = 65535 := rfl
  unfold PartInfo.numBlocks at inRange
  omega

end Shapes

section Tables

variable {first second : Cells} {info : PartInfo} {free : Nat} {reserved : Nat → Prop}
  {entry : DirEntry}

structure Tables (info : PartInfo) (cells : Cells) (free : Nat) (reserved : Nat → Prop) :
    Prop where
  roots : ∀ id, entryAt cells id 0 = getInitialRoot id
  freeRange : 1 ≤ free ∧ free ≤ 113
  mirrored : ∀ slot, 1 ≤ slot → slot < 113 →
    entryAt cells .secFat slot = entryAt cells .priFat slot
  used : ∀ slot, 1 ≤ slot → slot < free → ¬ reserved slot →
    isDeletedEntry (entryAt cells .priFat slot) = true ∨
      ClosedEntry info (entryAt cells .priFat slot)
  erased : ∀ slot, 1 ≤ slot → slot < 113 → free ≤ slot ∨ reserved slot →
    isErasedEntry (entryAt cells .priFat slot) = true

def OwnedByTable (cells : Cells) (owner : Nat × Fin 3) (block : Nat) : Prop :=
  1 ≤ owner.1 ∧ owner.1 < 113 ∧ isValidEntry (entryAt cells .priFat owner.1) = true ∧
    ((entryAt cells .priFat owner.1).inodes owner.2).Covers block

def SameTables (first second : Cells) : Prop :=
  ∀ id slot, slot < 113 → entryAt first id slot = entryAt second id slot

theorem sameTables_of_data
    (agree : ∀ address < 8192, first address = second address) : SameTables first second := by
  intro id slot inTable
  have ends := slotOffset_end_le id inTable
  apply entryAt_congr
  intro index inside
  exact agree _ (by omega)

theorem Tables.congr {reserved' : Nat → Prop} (tables : Tables info second free reserved)
    (same : SameTables first second) (sameReserved : ∀ slot, reserved' slot ↔ reserved slot) :
    Tables info first free reserved' where
  roots id := (same id 0 (by decide)).trans (tables.roots id)
  freeRange := tables.freeRange
  mirrored slot positive inTable := by
    rw [same _ slot inTable, same _ slot inTable]
    exact tables.mirrored slot positive inTable
  used slot positive before notReserved := by
    rw [same _ slot (before.trans_le tables.freeRange.2)]
    exact tables.used slot positive before ((sameReserved slot).not.mp notReserved)
  erased slot positive inTable free := by
    rw [same _ slot inTable]
    exact tables.erased slot positive inTable (free.imp_right (sameReserved slot).mp)

theorem ownedByTable_congr (same : SameTables first second) (owner : Nat × Fin 3) (block : Nat) :
    OwnedByTable first owner block ↔ OwnedByTable second owner block := by
  unfold OwnedByTable
  by_cases inTable : owner.1 < 113
  · rw [same _ owner.1 inTable]
  · simp [inTable]

theorem isErasedEntry_first (erased : isErasedEntry entry = true) : entry.filename 0 = 0xFF := by
  simpa using (isErasedEntry_iff entry).mp erased 0 (by decide)

theorem isValidEntry_of_erased (erased : isErasedEntry entry = true) :
    isValidEntry entry = false := by
  simp [isValidEntry, isUnusedEntry, isErasedEntry_first erased]

theorem isValidEntry_of_deleted (deleted : isDeletedEntry entry = true) :
    isValidEntry entry = false := by
  simp [isValidEntry, deleted]

theorem Tables.closed {cells : Cells}
    (tables : Tables info cells free reserved) {slot : Nat} (positive : 1 ≤ slot)
    (inTable : slot < 113) (live : isValidEntry (entryAt cells .priFat slot) = true) :
    slot < free ∧ ¬ reserved slot ∧ ClosedEntry info (entryAt cells .priFat slot) := by
  have notErased : ¬ (free ≤ slot ∨ reserved slot) := by
    intro free
    rw [isValidEntry_of_erased (tables.erased slot positive inTable free)] at live
    contradiction
  push Not at notErased
  refine ⟨notErased.1, notErased.2, ?_⟩
  rcases tables.used slot positive notErased.1 notErased.2 with deleted | closed
  · rw [isValidEntry_of_deleted deleted] at live
    contradiction
  · exact closed

theorem Tables.ownedByTable_range {cells : Cells} (tables : Tables info cells free reserved)
    {owner : Nat × Fin 3} {block : Nat} (owned : OwnedByTable cells owner block) :
    2 ≤ block ∧ block < info.numBlocks := by
  obtain ⟨positive, inTable, live, covers⟩ := owned
  obtain ⟨_, _, closed⟩ := tables.closed positive inTable live
  obtain ⟨last, shape, _⟩ := closed.extents
  exact (shape.covers covers).2

end Tables

/-- The blocks of the two tables, and the map's bits past the partition. -/
def ReservedBlock (info : PartInfo) (block : Nat) : Prop :=
  block < 2 ∨ info.numBlocks ≤ block

def FileInfo.Writer (files : FileInfo) (openFile : OpenFile) : Prop :=
  ∃ index, files.openFiles index = some openFile ∧ openFile.flags = .wronly

def FileInfo.ReservedSlot (files : FileInfo) (slot : Nat) : Prop :=
  ∃ openFile, files.Writer openFile ∧ openFile.directoryIndex = slot

def OpenFile.Filled (openFile : OpenFile) (owner : Nat × Fin 3) (block : Nat) : Prop :=
  openFile.directoryIndex = owner.1 ∧ owner.2 < openFile.currentInode ∧
    (openFile.fileDirEntry.inodes owner.2).Covers block

def OwnedByWriter (files : FileInfo) (owner : Nat × Fin 3) (block : Nat) : Prop :=
  ∃ openFile, files.Writer openFile ∧ openFile.Filled owner block

def Owned (cells : Cells) (files : FileInfo) (owner : Nat × Fin 3) (block : Nat) : Prop :=
  OwnedByTable cells owner block ∨ OwnedByWriter files owner block

structure ReaderOk (info : PartInfo) (openFile : OpenFile) : Prop where
  extents : ∃ last, ExtentShape info openFile.fileDirEntry.inodes last ∧
    openFile.currentInode ≤ last ∧
    openFile.fileDirEntry.fileSize.toNat ≤
      bytesBefore info openFile.fileDirEntry.inodes (last.val + 1)
  position : openFile.extentPosition ≤ openFile.inode.length.toNat * info.blockSize

structure WriterExtents (info : PartInfo) (map : SectorMap) (openFile : OpenFile) : Prop where
  shape : ExtentShape info openFile.fileDirEntry.inodes openFile.currentInode
  nonempty : 0 < openFile.inode.length.toNat
  currentFree : ∀ block, openFile.inode.Covers block → ¬ map.InUse block
  position : openFile.extentPosition ≤ openFile.inode.length.toNat * info.blockSize
  filePosition : openFile.filePosition =
    bytesBefore info openFile.fileDirEntry.inodes openFile.currentInode.val +
      openFile.extentPosition

structure WriterOk (info : PartInfo) (map : SectorMap) (openFile : OpenFile) : Prop extends
    WriterExtents info map openFile where
  named : classifyDirent (openFile.fileDirEntry.filename 0) = .file
  started : 0 < openFile.currentInode → 0 < openFile.extentPosition
  fileSize : openFile.fileDirEntry.fileSize = 0
  slot : 1 ≤ openFile.directoryIndex

structure FilesOk (info : PartInfo) (map : SectorMap) (files : FileInfo) : Prop where
  readers : ∀ index openFile, files.openFiles index = some openFile →
    openFile.flags = .rdonly → ReaderOk info openFile
  writers : ∀ openFile, files.Writer openFile →
    WriterOk info map openFile ∧ openFile.directoryIndex + 1 = files.freeDirSlot
  oneWriter : ∀ first second firstFile secondFile,
    files.openFiles first = some firstFile → firstFile.flags = .wronly →
    files.openFiles second = some secondFile → secondFile.flags = .wronly → first = second
  writerFlag : files.fileIsOpenForWriting = true ↔ ∃ openFile, files.Writer openFile
  counted : files.numOpenFiles = (Finset.univ.filter fun index =>
    (files.openFiles index).isSome).card

structure MapOk (info : PartInfo) (map : SectorMap) : Prop where
  covers : info.numBlocks ≤ map.capacity
  small : map.capacity ≤ 65536

structure VolumeOk (volume : Volume) : Prop where
  tables : Tables volume.info volume.device.cells volume.files.freeDirSlot
    volume.files.ReservedSlot
  mapOk : MapOk volume.info volume.map
  balanced : Balanced (ReservedBlock volume.info) (Owned volume.device.cells volume.files)
    volume.map.InUse
  files : FilesOk volume.info volume.map volume.files

theorem numBlocks_mul_le (info : PartInfo) : info.numBlocks * info.blockSize ≤ info.partitionSize :=
  Nat.div_mul_le_self _ _

theorem extent_bounds {info : PartInfo} {inode : Inode} (lower : 2 ≤ inode.offset.toNat)
    (upper : inode.offset.toNat + inode.length.toNat ≤ info.numBlocks) :
    8192 ≤ inode.offset.toNat * info.blockSize ∧
      inode.offset.toNat * info.blockSize + inode.length.toNat * info.blockSize < 2 ^ 32 := by
  have directory := info.directoryFits
  have size := info.sizeFits
  have blocks := numBlocks_mul_le info
  constructor
  · calc 8192 ≤ 2 * info.blockSize := by omega
      _ ≤ _ := Nat.mul_le_mul_right _ lower
  · rw [← Nat.add_mul]
    have := Nat.mul_le_mul_right info.blockSize upper
    omega

end HeadsetAdk.Rafs
