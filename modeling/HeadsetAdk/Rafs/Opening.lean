import HeadsetAdk.Rafs.OpenFiles

/-! # Opening files -/

namespace HeadsetAdk.Rafs

open NorFlash BlockAccounts

section Lookup

variable {filename : CString} {entry : DirEntry}

/-- The search of `Rafs_FindDirEntryByFilename`, as contents of the flash. -/
def lookup (cells : Cells) (freeDirSlot : Nat) (filename : CString) : Option (Nat × DirEntry) :=
  ((List.range' 1 (freeDirSlot - 1)).map fun slot => (slot, entryAt cells .priFat slot)).find?
    fun found => entryHasName found.2 filename

theorem findDirEntryByFilename_eq {volume : Volume}
    (scan : volume.files.scanDirEntryAllocated = true) (filename : CString) :
    findDirEntryByFilename volume filename =
      .ok (lookup volume.device.cells volume.files.freeDirSlot filename) := by
  simp only [findDirEntryByFilename, FileInfo.scanDirEntry, scan, if_true, bind, Except.bind,
    pure, Except.pure]
  rfl

variable {cells : Cells} {free slot : Nat}

theorem lookup_eq_some (found : lookup cells free filename = some (slot, entry)) :
    1 ≤ slot ∧ slot < free ∧ entry = entryAt cells .priFat slot ∧
      entryHasName entry filename = true := by
  have member := List.mem_of_find?_eq_some found
  obtain ⟨slot', inRange, equal⟩ := List.mem_map.mp member
  cases equal
  have range := List.mem_range'_1.mp inRange
  exact ⟨range.1, by omega, rfl, by simpa using List.find?_some found⟩

theorem isValidEntry_of_name
    (valid : isValidFilename filename = .ok) (same : entryHasName entry filename = true) :
    isValidEntry entry = true := by
  obtain ⟨notZero, character⟩ := isValidFilename_head valid
  rw [← entryHasName_head same] at notZero character
  have notErased : entry.filename 0 ≠ 0xFF := by
    intro erased
    rw [erased, isValidFilenameCharacter_erased] at character
    contradiction
  simp [isValidEntry, isUnusedEntry, isDeletedEntry, notErased, notZero]

theorem Tables.lookup {info : PartInfo} {reserved : Nat → Prop}
    (tables : Tables info cells free reserved) (valid : isValidFilename filename = .ok)
    (found : Rafs.lookup cells free filename = some (slot, entry)) :
    1 ≤ slot ∧ slot < free ∧ slot < 113 ∧ ¬ reserved slot ∧
      entry = entryAt cells .priFat slot ∧ isValidEntry entry = true ∧ ClosedEntry info entry := by
  obtain ⟨positive, before, rfl, same⟩ := lookup_eq_some found
  have inTable : slot < 113 := before.trans_le tables.freeRange.2
  have live := isValidEntry_of_name valid same
  obtain ⟨_, notReserved, closed⟩ := tables.closed positive inTable live
  exact ⟨positive, before, inTable, notReserved, rfl, live, closed⟩

end Lookup

section Tables

variable {cells cells' : Cells} {slot : Nat} {written : DirEntry}

theorem Tables.write {info : PartInfo} {free : Nat}
    {reserved reserved' : Nat → Prop} (tables : Tables info cells free reserved)
    (both : WrittenBoth cells cells' slot written) (positive : 1 ≤ slot)
    (before : slot < free) (notReserved : ¬ reserved' slot)
    (sameReserved : ∀ other, other ≠ slot → (reserved' other ↔ reserved other))
    (after : isDeletedEntry written = true ∨ ClosedEntry info written) :
    Tables info cells' free reserved' where
  roots id := (both.others id 0 (by decide) (by omega)).trans (tables.roots id)
  freeRange := tables.freeRange
  mirrored other otherPositive inTable := by
    by_cases same : other = slot
    · rw [same, both.here, both.mirrored]
    · rw [both.others _ other inTable same, both.others _ other inTable same]
      exact tables.mirrored other otherPositive inTable
  used other otherPositive otherBefore otherNotReserved := by
    by_cases same : other = slot
    · rw [same, both.here]
      exact after
    · rw [both.others _ other (otherBefore.trans_le tables.freeRange.2) same]
      exact tables.used other otherPositive otherBefore
        ((sameReserved other same).not.mp otherNotReserved)
  erased other otherPositive inTable otherFree := by
    have different : other ≠ slot := by
      rintro rfl
      rcases otherFree with after | isReserved
      · omega
      · exact notReserved isReserved
    rw [both.others _ other inTable different]
    exact tables.erased other otherPositive inTable
      (otherFree.imp_right (sameReserved other different).mp)

theorem ownedByTable_write_other
    (both : WrittenBoth cells cells' slot written) {owner : Nat × Fin 3} (block : Nat)
    (different : owner.1 ≠ slot) :
    OwnedByTable cells' owner block ↔ OwnedByTable cells owner block := by
  unfold OwnedByTable
  by_cases inTable : owner.1 < 113
  · rw [both.others _ owner.1 inTable different]
  · simp [inTable]

theorem isValidEntry_congr {first second : DirEntry} (same : first.filename = second.filename) :
    isValidEntry first = isValidEntry second := by
  simp [isValidEntry, isUnusedEntry, isDeletedEntry, same]

theorem ownedByTable_write_sameFile (both : WrittenBoth cells cells' slot written)
    (same : SameFile written (entryAt cells .priFat slot)) (owner : Nat × Fin 3) (block : Nat) :
    OwnedByTable cells' owner block ↔ OwnedByTable cells owner block := by
  by_cases here : owner.1 = slot
  · unfold OwnedByTable
    rw [here, both.here, same.inodes, isValidEntry_congr same.filename]
  · exact ownedByTable_write_other both block here

end Tables

section Open

variable {info : PartInfo} {map : SectorMap} {index : Fin 4} {volume : Volume} {filename : CString}

theorem numOpenFiles_add {files : FileInfo}
    (ok : FilesOk info map files) (free : files.openFiles index = none) (openFile : OpenFile) :
    (files.addOpenFile index openFile).numOpenFiles =
      openCount (files.addOpenFile index openFile).openFiles := by
  have few := openCount_le files.openFiles
  have counted : files.numOpenFiles = openCount files.openFiles := ok.counted
  have added := openCount_add free openFile
  simp only [FileInfo.addOpenFile, setOpenFile_openFiles]
  omega

theorem ReaderOk.newOpenFile {entry : DirEntry}
    (closed : ClosedEntry info entry) (flags : RafsMode) (slot : Nat) (task : Option TaskId) :
    ReaderOk info (Rafs.newOpenFile flags slot task (countAccess entry)) where
  extents := by
    obtain ⟨last, shape, _, size⟩ := closed.extents
    exact ⟨last, shape, Fin.zero_le last, size⟩
  position := Nat.zero_le _

variable {slot : Nat} {freeSpace : Inode}

theorem VolumeOk.openReader_writes (ok : VolumeOk volume) (positive : 1 ≤ slot)
    (inTable : slot < 113) (free : volume.files.openFiles index = none) (task : Option TaskId) :
    let volume' := Rafs.openReader volume task .rdonly slot
      (entryAt volume.device.cells .priFat slot) index
    ∃ written, WrittenBoth volume.device.cells volume'.device.cells slot written ∧
      SameFile written (entryAt volume.device.cells .priFat slot) ∧
      ∀ openFile, volume'.files.Writer openFile ↔ volume.files.Writer openFile :=
  ⟨_, writtenBoth_member inTable (by decide) (ok.tables.mirrored slot positive inTable),
    sameFile_writeAccessCount volume.device .priFat
      (countAccess (entryAt volume.device.cells .priFat slot)) slot,
    writer_update_iff rfl (fun openFile present => by rw [free] at present; contradiction)
      fun openFile present => by rw [← Option.some.inj present]; rfl⟩

theorem VolumeOk.openReader (ok : VolumeOk volume) (positive : 1 ≤ slot)
    (before : slot < volume.files.freeDirSlot) (inTable : slot < 113)
    (notReserved : ¬ volume.files.ReservedSlot slot)
    (closed : ClosedEntry volume.info (entryAt volume.device.cells .priFat slot))
    (free : volume.files.openFiles index = none) (task : Option TaskId) :
    VolumeOk (Rafs.openReader volume task .rdonly slot
      (entryAt volume.device.cells .priFat slot) index) := by
  obtain ⟨written, both, same, sameWriter⟩ := ok.openReader_writes positive inTable free task
  have sameReserved := reservedSlot_congr sameWriter
  refine ⟨?_, ok.mapOk, ?_, ?_⟩
  · exact ok.tables.write both positive before ((sameReserved slot).not.mpr notReserved)
      (fun other _ => sameReserved other) (Or.inr (closed.of_sameFile same))
  · refine ok.balanced.congr ?_ fun block => Iff.rfl
    intro owner block
    exact or_congr (ownedByTable_write_sameFile both same owner block)
      (ownedByWriter_congr sameWriter owner block)
  · refine ok.files.setReader ?_ ?_ rfl rfl rfl (numOpenFiles_add ok.files free _)
    · intro openFile present
      rw [free] at present
      contradiction
    · intro openFile present
      rw [← Option.some.inj present]
      exact ⟨rfl, ReaderOk.newOpenFile closed _ _ _⟩

theorem VolumeOk.doOpenRead (ok : VolumeOk volume)
    (scan : volume.files.scanDirEntryAllocated = true)
    (valid : isValidFilename filename = .ok) (task : Option TaskId) : ∃ volume' result index,
      Rafs.doOpenRead volume task filename .rdonly = .ok (volume', result, index) ∧
        VolumeOk volume' ∧ volume'.info = volume.info ∧
        volume'.files.scanDirEntryAllocated = true := by
  unfold Rafs.doOpenRead
  rw [findDirEntryByFilename_eq scan]
  simp only [bind, Except.bind, pure, Except.pure]
  split
  case h_1 => exact ⟨_, _, _, rfl, ok, rfl, scan⟩
  case h_2 slot entry found =>
    split
    case h_1 => exact ⟨_, _, _, rfl, ok, rfl, scan⟩
    case h_2 index free =>
      obtain ⟨positive, before, inTable, notReserved, rfl, _, closed⟩ :=
        ok.tables.lookup valid found
      exact ⟨_, _, _, rfl, ok.openReader positive before inTable notReserved closed
        (findFreeFileSlot_eq_some free) task, rfl, scan⟩

theorem classifyDirent_of_valid (valid : isValidFilename filename = .ok) :
    classifyDirent (safeStrncpy filename 0) = .file := by
  obtain ⟨notZero, character⟩ := isValidFilename_head valid
  have first : safeStrncpy filename 0 = filename.val.headD 0 := by
    obtain ⟨characters, _⟩ := filename
    cases characters <;> simp [safeStrncpy]
  have notErased : filename.val.headD 0 ≠ 0xFF := by
    intro erased
    rw [erased, isValidFilenameCharacter_erased] at character
    contradiction
  rw [first, classifyDirent, if_neg notErased, if_neg notZero, if_pos character]

/-- An extent that `Rafs_FindLongestFreeExtent` offers to a writer. -/
structure FreeExtent (info : PartInfo) (map : SectorMap) (inode : Inode) : Prop where
  nonempty : 0 < inode.length.toNat
  inRange : 2 ≤ inode.offset.toNat ∧ inode.offset.toNat + inode.length.toNat ≤ info.numBlocks
  free : ∀ block, inode.Covers block → ¬ map.InUse block

theorem FreeExtent.of_search (mapOk : MapOk info map)
    (reservedUsed : ∀ block, ReservedBlock info block → map.InUse block)
    (found : ¬ ((findLongestFreeExtent map).offset = 0 ∧ (findLongestFreeExtent map).length = 0)) :
    FreeExtent info map (findLongestFreeExtent map) := by
  have firstUsed : map.bit 0 = false := reservedUsed 0 (Or.inl (by decide))
  rcases findLongestFreeExtent_spec firstUsed mapOk.small with nothing | run
  · rw [nothing] at found
    simp at found
  · have notReserved (block : Nat)
        (lower : (findLongestFreeExtent map).offset.toNat ≤ block)
        (upper : block < (findLongestFreeExtent map).offset.toNat +
          (findLongestFreeExtent map).length.toNat) : ¬ ReservedBlock info block := by
      intro reserved
      have used := reservedUsed block reserved
      rw [SectorMap.InUse, run.free block lower upper] at used
      contradiction
    have nonempty := run.nonempty
    have first := notReserved _ le_rfl (by omega)
    have last := notReserved ((findLongestFreeExtent map).offset.toNat +
      (findLongestFreeExtent map).length.toNat - 1) (by omega) (by omega)
    unfold ReservedBlock at first last
    refine ⟨nonempty, ⟨by omega, by omega⟩, ?_⟩
    rintro block ⟨_, lower, upper⟩ used
    rw [SectorMap.InUse, run.free block lower upper] at used
    contradiction

theorem VolumeOk.reservedUsed (ok : VolumeOk volume) (block : Nat)
    (reserved : ReservedBlock volume.info block) : volume.map.InUse block :=
  (ok.balanced.used_iff block).mpr (Or.inl reserved)

theorem WriterOk.newOpenFile (valid : isValidFilename filename = .ok)
    (extent : FreeExtent info map freeSpace) (positive : 1 ≤ slot) (task : Option TaskId)
    (statCounters : StatCounters) :
    WriterOk info map (Rafs.newOpenFile .wronly slot task
      { makeNewDirEntryForFilename filename freeSpace with statCounters := statCounters }) where
  named := classifyDirent_of_valid valid
  shape :=
    { inRange := by
        intro inode before
        obtain rfl : inode = 0 := by simpa [Rafs.newOpenFile] using before
        exact extent.inRange
      filled := fun later => absurd later (Nat.lt_irrefl 0)
      unused := by
        intro inode after
        match inode with
        | 0 => exact absurd after (Nat.lt_irrefl 0)
        | 1 => rfl
        | 2 => rfl }
  nonempty := extent.nonempty
  currentFree := extent.free
  position := Nat.zero_le _
  started := fun later => absurd later (Nat.lt_irrefl 0)
  filePosition := rfl
  fileSize := rfl
  slot := positive

theorem Tables.reserve {cells : Cells} {free : Nat}
    {reserved reserved' : Nat → Prop} (tables : Tables info cells free reserved)
    (room : free < 113) (sameReserved : ∀ slot, reserved' slot ↔ reserved slot ∨ slot = free) :
    Tables info cells (free + 1) reserved' where
  roots := tables.roots
  freeRange := ⟨by omega, by omega⟩
  mirrored := tables.mirrored
  used slot positive before notReserved := by
    rw [sameReserved, not_or] at notReserved
    exact tables.used slot positive (by omega) notReserved.1
  erased slot positive inTable free := by
    rw [sameReserved] at free
    apply tables.erased slot positive inTable
    rcases free with after | isReserved | here
    · exact Or.inl (by omega)
    · exact Or.inr isReserved
    · exact Or.inl (by omega)

theorem VolumeOk.openWriter (ok : VolumeOk volume) (valid : isValidFilename filename = .ok)
    (idle : volume.files.fileIsOpenForWriting = false) (room : volume.files.freeDirSlot ≠ 113)
    (free : volume.files.openFiles index = none)
    (extent : FreeExtent volume.info volume.map freeSpace) (task : Option TaskId) :
    VolumeOk (Rafs.openWriter volume task .wronly filename freeSpace index) := by
  have range := ok.tables.freeRange
  have readers := ok.files.allReaders idle
  have noWriter := ok.files.noWriter idle
  have newOk := WriterOk.newOpenFile valid extent range.1 task
    ⟨volume.files.sequenceNumber + 1, initialAccess⟩
  have onlyWriter := @writer_of_update volume.files
    (Rafs.openWriter volume task .wronly filename freeSpace index).files index _
    (fun other openFile _ there => readers other openFile there) rfl rfl
  refine ⟨?_, ok.mapOk, ?_, ?_⟩
  · refine ok.tables.reserve (by omega) ?_
    intro slot
    have before : ¬ volume.files.ReservedSlot slot :=
      fun ⟨openFile, writing, _⟩ => noWriter openFile writing
    rw [or_iff_right before]
    unfold FileInfo.ReservedSlot
    simp only [onlyWriter, exists_eq_left]
    exact eq_comm
  · refine ok.balanced.congr ?_ fun block => Iff.rfl
    intro owner block
    refine or_congr_right ?_
    constructor
    · rintro ⟨openFile, writing, _, earlier, _⟩
      rw [(onlyWriter openFile).mp writing] at earlier
      exact absurd earlier (Nat.not_lt_zero _)
    · rintro ⟨openFile, writing, _⟩
      exact absurd writing (noWriter openFile)
  · exact ok.files.setWriter (fun other openFile _ there => readers other openFile there) rfl rfl
      newOk rfl rfl (numOpenFiles_add ok.files free _)

section

variable (ok : VolumeOk volume) (scan : volume.files.scanDirEntryAllocated = true)
  (valid : isValidFilename filename = .ok) (task : Option TaskId)

include ok scan valid task

theorem VolumeOk.doOpenWrite : ∃ volume' result index,
      Rafs.doOpenWrite volume task filename .wronly = .ok (volume', result, index) ∧
        VolumeOk volume' ∧ volume'.info = volume.info ∧
        volume'.files.scanDirEntryAllocated = true := by
  unfold Rafs.doOpenWrite
  rw [findDirEntryByFilename_eq scan]
  simp only [bind, Except.bind, pure, Except.pure]
  split
  case h_1 => exact ⟨_, _, _, rfl, ok, rfl, scan⟩
  case h_2 missing =>
    split
    case isTrue => exact ⟨_, _, _, rfl, ok, rfl, scan⟩
    case isFalse idle =>
      split
      case isTrue => exact ⟨_, _, _, rfl, ok, rfl, scan⟩
      case isFalse room =>
        split
        case h_1 => exact ⟨_, _, _, rfl, ok, rfl, scan⟩
        case h_2 index free =>
          split
          case isTrue => exact ⟨_, _, _, rfl, ok, rfl, scan⟩
          case isFalse found =>
            have extent := FreeExtent.of_search ok.mapOk ok.reservedUsed found
            exact ⟨_, _, _, rfl, ok.openWriter valid (by simpa using idle) room
              (findFreeFileSlot_eq_some free) extent task, rfl, scan⟩

/-- `Rafs_DoOpen` keeps the invariant. -/
theorem VolumeOk.doOpen (flags : RafsMode) :
    ∃ volume' result index, Rafs.doOpen volume task filename flags = .ok (volume', result, index) ∧
        VolumeOk volume' ∧ volume'.info = volume.info ∧
        volume'.files.scanDirEntryAllocated = true := by
  cases flags with
  | rdonly => exact ok.doOpenRead scan valid task
  | wronly => exact ok.doOpenWrite scan valid task

end

end Open

end HeadsetAdk.Rafs
