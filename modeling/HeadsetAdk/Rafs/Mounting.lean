import HeadsetAdk.Rafs.Removing

/-!
# Mounting

What the integrity check leaves of tables in which writing or wiping an entry
may have been interrupted, and the sector map that the directory scan builds.
-/

namespace HeadsetAdk.Rafs

open NorFlash BlockAccounts

section Check

inductive Repairable (primary secondary : DirEntry) : Prop
  | inOrder (same : secondary = primary)
      (used : classifyDirent (primary.filename 0) = .file ∨ primary.filename 0 = 0)
  | closing (file : classifyDirent (primary.filename 0) = .file)
      (erased : secondary.filename 0 = 0xFF) (accepts : secondary.Accepts primary)
  | removing (deleted : primary.filename 0 = 0)
      (file : classifyDirent (secondary.filename 0) = .file)
      (wiped : ∀ index < 36, index ≠ 0 → primary.byte index = secondary.byte index)

structure CaughtUp (cells cells' : Cells) (behind : Nat → Prop) : Prop where
  primary : ∀ slot < 113, entryAt cells' .priFat slot = entryAt cells .priFat slot
  secondary : ∀ slot < 113, behind slot →
    entryAt cells' .secFat slot = entryAt cells .priFat slot
  others : ∀ slot < 113, ¬ behind slot →
    entryAt cells' .secFat slot = entryAt cells .secFat slot
  data : ∀ address, 8192 ≤ address → cells' address = cells address

theorem CaughtUp.refl (cells : Cells) {behind : Nat → Prop} (none : ∀ slot, ¬ behind slot) :
    CaughtUp cells cells behind :=
  ⟨fun _ _ => rfl, fun slot _ isBehind => absurd isBehind (none slot), fun _ _ _ => rfl,
    fun _ _ => rfl⟩

theorem CaughtUp.next {cells middle cells' : Cells} {slot free : Nat} (before : slot < free)
    (first : CaughtUp cells middle (· = slot))
    (rest : CaughtUp middle cells' fun other => slot + 1 ≤ other ∧ other < free) :
    CaughtUp cells cells' fun other => slot ≤ other ∧ other < free where
  primary other inTable := (rest.primary other inTable).trans (first.primary other inTable)
  secondary other inTable behind := by
    by_cases here : other = slot
    · rw [rest.others other inTable (by omega), first.secondary other inTable here]
    · rw [rest.secondary other inTable (by omega), first.primary other inTable]
  others other inTable upToDate := by
    rw [rest.others other inTable (by omega), first.others other inTable (by omega)]
  data address beyond := (rest.data address beyond).trans (first.data address beyond)

theorem classifyDirent_deleted : classifyDirent 0 = .deleted := by decide

theorem classifyDirent_erased : classifyDirent 0xFF = .erased := by decide

variable {slot : Nat} {device : Device}

theorem caughtUp_of_same {cells : Cells}
    (same : entryAt cells .secFat slot = entryAt cells .priFat slot) :
    CaughtUp cells cells (· = slot) :=
  ⟨fun _ _ => rfl, fun _ _ here => by rw [here, same], fun _ _ _ => rfl, fun _ _ => rfl⟩

theorem caughtUp_of_closing (inTable : slot < 113)
    (accepts : (entryAt device.cells .secFat slot).Accepts (entryAt device.cells .priFat slot)) :
    CaughtUp device.cells
      (dirEntryWrite device .secFat (entryAt device.cells .priFat slot) slot).cells (· = slot) where
  primary _ otherInTable := entryAt_dirEntryWrite_other inTable otherInTable (by simp)
  secondary other _ here := by
    rw [here]
    exact entryAt_dirEntryWrite accepts
  others _ otherInTable different := entryAt_dirEntryWrite_other inTable otherInTable (by simpa)
  data _ beyond := dirEntryWrite_data inTable beyond

theorem caughtUp_of_removing (inTable : slot < 113)
    (deleted : (entryAt device.cells .priFat slot).filename 0 = 0)
    (wiped : ∀ index < 36, index ≠ 0 → (entryAt device.cells .priFat slot).byte index =
      (entryAt device.cells .secFat slot).byte index) :
    CaughtUp device.cells
      (dirEntryWriteMember device .secFat (fun _ => 0) slot 0 1).cells (· = slot) where
  primary _ otherInTable := (slotOp_firstOp .secFat 0 inTable).others _ _ _ otherInTable (by simp)
  secondary other _ here := by
    rw [here]
    apply DirEntry.ext_bytes
    intro index inside
    have bytes := entryAt_firstOp_byte device.cells .secFat 0 slot inside
    rw [UInt8.and_zero] at bytes
    refine bytes.trans ?_
    split
    case isTrue first => rw [first, DirEntry.byte_zero, deleted]
    case isFalse later => exact (wiped index inside later).symm
  others _ otherInTable different :=
    (slotOp_firstOp .secFat 0 inTable).others _ _ _ otherInTable (by simpa)
  data _ beyond := (slotOp_firstOp .secFat 0 inTable).data _ _ beyond

theorem checkDirectoryEntriesLoop_succ {volume : Volume} (inTable : slot < 113)
    (scan : volume.files.scanDirEntryAllocated = true)
    (repairable : Repairable (entryAt volume.device.cells .priFat slot)
      (entryAt volume.device.cells .secFat slot)) (count : Nat) :
    ∃ device, checkDirectoryEntriesLoop (count + 1) slot volume =
        checkDirectoryEntriesLoop count (slot + 1) { volume with device := device } ∧
      CaughtUp volume.device.cells device.cells (· = slot) := by
  have first (id : BlockId) : dirEntryReadMember volume.device id slot 0 =
      (entryAt volume.device.cells id slot).filename 0 := rfl
  cases repairable with
  | inOrder same used =>
    refine ⟨volume.device, ?_, caughtUp_of_same same⟩
    rw [checkDirectoryEntriesLoop]
    rcases used with file | deleted
    · simp [first, same, file]
    · simp [first, same, deleted, classifyDirent_deleted]
  | closing file erased accepts =>
    refine ⟨_, ?_, caughtUp_of_closing inTable accepts⟩
    rw [checkDirectoryEntriesLoop]
    simp [first, file, erased, classifyDirent_erased, FileInfo.scanDirEntry, scan, bind,
      Except.bind, dirEntryRead]
  | removing deleted file wiped =>
    refine ⟨_, ?_, caughtUp_of_removing inTable deleted wiped⟩
    rw [checkDirectoryEntriesLoop]
    simp [first, deleted, file, classifyDirent_deleted]

/-- `Rafs_CheckDirectoryEntries` on tables with repairable slots below the first one
that no table uses. -/
theorem checkDirectoryEntriesLoop_spec {volume : Volume} {free : Nat} (freeLe : free ≤ 113)
    (scan : volume.files.scanDirEntryAllocated = true)
    (stop : free < 113 → ∀ id, (entryAt volume.device.cells id free).filename 0 = 0xFF)
    (count : Nat) {slot : Nat} (rest : count + slot = 113) (before : slot ≤ free)
    (repairable : ∀ other, slot ≤ other → other < free →
      Repairable (entryAt volume.device.cells .priFat other)
        (entryAt volume.device.cells .secFat other)) :
    ∃ device, checkDirectoryEntriesLoop count slot volume =
        .ok ({ volume with device := device }, .ok) ∧
      CaughtUp volume.device.cells device.cells fun other => slot ≤ other ∧ other < free := by
  induction count generalizing slot volume with
  | zero =>
    exact ⟨volume.device, rfl, CaughtUp.refl _ fun other => by omega⟩
  | succ count induction =>
    by_cases atEnd : slot = free
    · subst atEnd
      have erased := stop (by omega)
      have first (id : BlockId) : dirEntryReadMember volume.device id slot 0 = 0xFF := erased id
      refine ⟨volume.device, ?_, CaughtUp.refl _ fun other => by omega⟩
      unfold checkDirectoryEntriesLoop
      simp [first, classifyDirent_erased, pure, Except.pure]
    · obtain ⟨device, checked, caughtUp⟩ := checkDirectoryEntriesLoop_succ (by omega) scan
        (repairable slot le_rfl (by omega)) count
      obtain ⟨device', checked', caughtUp'⟩ := @induction { volume with device := device }
        scan (by
          intro room id
          cases id with
          | priFat =>
            rw [caughtUp.primary free room]
            exact stop room .priFat
          | secFat =>
            rw [caughtUp.others free room (by omega)]
            exact stop room .secFat) (slot + 1) (by omega) (by omega) (by
          intro other lower upper
          rw [caughtUp.primary other (by omega), caughtUp.others other (by omega) (by omega)]
          exact repairable other (by omega) upper)
      exact ⟨device', checked.trans checked', caughtUp.next (by omega) caughtUp'⟩

end Check

section Scan

variable {info : PartInfo}

theorem markFreeBlocks_spec {count : Nat} {map : SectorMap} (inside : count ≤ map.capacity) :
    ∃ map', (List.range count).foldlM SectorMap.markFreeBlock map = .ok map' ∧
      map'.words.length = map.words.length ∧
      ∀ block, map'.bit block = (decide (block < count) || map.bit block) := by
  induction count with
  | zero => exact ⟨map, rfl, rfl, by simp⟩
  | succ count induction =>
    obtain ⟨middle, marked, length, bits⟩ := induction (by omega)
    obtain ⟨map', markedLast, lengthLast, bitsLast⟩ := @SectorMap.mark_spec middle count false (by
      rw [SectorMap.capacity, length]
      exact inside)
    rw [SectorMap.markBlock, if_neg Bool.false_ne_true] at markedLast
    refine ⟨map', ?_, lengthLast.trans length, ?_⟩
    · rw [List.range_succ, List.foldlM_append, marked]
      simp [markedLast, bind, Except.bind, pure, Except.pure]
    · intro block
      rw [bitsLast, bits]
      by_cases here : block = count
      · simp [here]
      · simp only [here, if_false]
        congr 1
        exact decide_eq_decide.mpr (by omega)

theorem initialiseSectorMap_spec (info : PartInfo) :
    ∃ map, initialiseSectorMap info = .ok map ∧ MapOk info map ∧
      ∀ block, map.InUse block ↔ info.numBlocks ≤ block := by
  have blocks : info.numBlocks ≤ 65536 := info.blocksFit
  obtain ⟨map, marked, length, bits⟩ := @markFreeBlocks_spec info.numBlocks
    ⟨List.replicate ((info.numBlocks + 31) / 32) 0⟩ (by
      simp only [SectorMap.capacity, List.length_replicate]
      omega)
  rw [List.length_replicate] at length
  refine ⟨map, marked, ⟨?_, ?_⟩, ?_⟩
  · rw [SectorMap.capacity, length]
    omega
  · rw [SectorMap.capacity, length]
    omega
  · intro block
    have empty : (⟨List.replicate ((info.numBlocks + 31) / 32) 0⟩ : SectorMap).bit block =
        false := by
      simp only [SectorMap.bit, List.getD_eq_getElem?_getD, List.getElem?_replicate]
      split <;> simp
    rw [SectorMap.InUse, bits, empty]
    simp

def ScanOwned (cells : Cells) (owner : Nat × Fin 3) (block : Nat) : Prop :=
  1 ≤ owner.1 ∧ isDeletedEntry (entryAt cells .priFat owner.1) = false ∧
    ((entryAt cells .priFat owner.1).inodes owner.2).Covers block

/-- Tables that the directory scan turns into balanced accounts. -/
structure Scannable (info : PartInfo) (cells : Cells) (free : Nat) : Prop where
  freeRange : 1 ≤ free ∧ free ≤ 113
  used : ∀ slot, 1 ≤ slot → slot < free →
    isErasedEntry (entryAt cells .priFat slot) = false
  stop : free < 113 → isErasedEntry (entryAt cells .priFat free) = true
  inRange : ∀ owner block, owner.1 < free → ScanOwned cells owner block →
    2 ≤ block ∧ block < info.numBlocks
  fits : ∀ slot, 1 ≤ slot → slot < free → isDeletedEntry (entryAt cells .priFat slot) = false →
    ∀ inode, isValidInode ((entryAt cells .priFat slot).inodes inode) = true →
      ((entryAt cells .priFat slot).inodes inode).offset.toNat +
        ((entryAt cells .priFat slot).inodes inode).length.toNat ≤ info.numBlocks
  disjoint : ∀ first second block, first.1 < free → second.1 < free →
    ScanOwned cells first block → ScanOwned cells second block → first = second

def ScannedBelow (cells : Cells) (slot : Nat) (owner : Nat × Fin 3) (block : Nat) : Prop :=
  owner.1 < slot ∧ ScanOwned cells owner block

variable {cells : Cells} {slot : Nat} {map : SectorMap}

theorem scannedBelow_succ (owner : Nat × Fin 3) (block : Nat) :
    ScannedBelow cells (slot + 1) owner block ↔
      ScannedBelow cells slot owner block ∨ owner.1 = slot ∧ ScanOwned cells owner block := by
  unfold ScannedBelow
  rw [← or_and_right]
  exact and_congr_left fun _ => Nat.lt_succ_iff_lt_or_eq

theorem Scannable.add {free : Nat} (scannable : Scannable info cells free) (positive : 1 ≤ slot)
    (before : slot < free) (mapOk : MapOk info map)
    (live : isDeletedEntry (entryAt cells .priFat slot) = false)
    (balanced : Balanced (ReservedBlock info) (ScannedBelow cells slot) map.InUse) :
    ∃ map', map.addExtents (List.ofFn (entryAt cells .priFat slot).inodes) = .ok (map', true) ∧
      MapOk info map' ∧
      Balanced (ReservedBlock info) (ScannedBelow cells (slot + 1)) map'.InUse := by
  have owned {inode : Fin 3} {block : Nat}
      (covers : ((entryAt cells .priFat slot).inodes inode).Covers block) :
      ScanOwned cells (slot, inode) block := ⟨positive, live, covers⟩
  have free_ {owner : Nat × Fin 3} {block : Nat} (here : owner.1 = slot)
      (scanOwned : ScanOwned cells owner block) : ¬ map.InUse block := by
    have range := scannable.inRange owner block (by omega) scanOwned
    rw [balanced.used_iff]
    rintro (reserved | ⟨other, below, otherOwned⟩)
    · unfold ReservedBlock at reserved
      omega
    · have same := scannable.disjoint other owner block (by omega) (by omega) otherOwned scanOwned
      rw [same] at below
      omega
  obtain ⟨map', added, capacity, inUse⟩ := @addExtents_free map
    (List.ofFn (entryAt cells .priFat slot).inodes)
    (by
      intro inode member valid
      obtain ⟨index, rfl⟩ := List.mem_ofFn.mp member
      exact (scannable.fits slot positive before live index valid).trans mapOk.covers)
    (by
      refine List.pairwise_ofFn.mpr ?_
      intro first second earlier block firstCovers secondCovers
      have same := scannable.disjoint _ _ block before before (owned firstCovers)
        (owned secondCovers)
      exact absurd (Prod.mk.inj same).2 (ne_of_lt earlier))
    (by
      intro inode member block covers
      obtain ⟨index, rfl⟩ := List.mem_ofFn.mp member
      exact free_ rfl (owned covers))
  refine ⟨map', added, mapOk.congr capacity, ?_⟩
  refine @Balanced.extend (Nat × Fin 3) Nat _ _ _ _ _ balanced
    (fun owner block => owner.1 = slot ∧ ScanOwned cells owner block) ?_ ?_ scannedBelow_succ ?_
  · rintro owner block ⟨here, scanOwned⟩
    exact free_ here scanOwned
  · rintro first second block ⟨firstHere, firstOwned⟩ ⟨secondHere, secondOwned⟩
    exact scannable.disjoint first second block (by omega) (by omega) firstOwned secondOwned
  · intro block
    rw [inUse]
    refine or_congr_right ?_
    constructor
    · rintro ⟨inode, member, covers⟩
      obtain ⟨index, rfl⟩ := List.mem_ofFn.mp member
      exact ⟨(slot, index), rfl, owned covers⟩
    · rintro ⟨⟨_, index⟩, rfl, _, _, covers⟩
      exact ⟨_, List.mem_ofFn.mpr ⟨index, rfl⟩, covers⟩

theorem scannedBelow_deleted (deleted : isDeletedEntry (entryAt cells .priFat slot) = true)
    (owner : Nat × Fin 3) (block : Nat) :
    ScannedBelow cells (slot + 1) owner block ↔ ScannedBelow cells slot owner block := by
  rw [scannedBelow_succ]
  refine or_iff_left ?_
  rintro ⟨rfl, _, live, _⟩
  rw [deleted] at live
  contradiction

/-- No file has been created after the count. -/
def Counted (cells : Cells) (slot free : Nat) (sequenceNumber : UInt16) : Prop :=
  ∀ other, slot ≤ other → other < free → isDeletedEntry (entryAt cells .priFat other) = false →
    (entryAt cells .priFat other).statCounters.sequenceCount ≤ sequenceNumber

private theorem maximum_le {counter count limit : UInt16}
    (grows : (if counter < count then count else counter) ≤ limit) :
    counter ≤ limit ∧ count ≤ limit := by
  split at grows
  case isTrue less => exact ⟨UInt16.le_trans (UInt16.le_of_lt less) grows, grows⟩
  case isFalse notLess => exact ⟨grows, UInt16.le_trans (UInt16.not_lt.mp notLess) grows⟩

/-- The loop of `Rafs_ScanDirectory` accounts for all entries. -/
theorem scanLoop_spec {device : Device} {free : Nat}
    (scannable : Scannable info device.cells free) (count : Nat) {slot : Nat}
    (rest : count + slot = 113) (positive : 1 ≤ slot) (before : slot ≤ free) {state : ScanState}
    (mapOk : MapOk info state.map) (atEnd : state.freeDirSlot = 113)
    (balanced : Balanced (ReservedBlock info) (ScannedBelow device.cells slot)
      state.map.InUse) :
    ∃ state', scanLoop device count slot state = .ok state' ∧ MapOk info state'.map ∧
      state'.freeDirSlot = free ∧
      Balanced (ReservedBlock info) (ScannedBelow device.cells free) state'.map.InUse ∧
      state.sequenceNumber ≤ state'.sequenceNumber ∧
      Counted device.cells slot free state'.sequenceNumber := by
  have freeRange := scannable.freeRange
  induction count generalizing slot state with
  | zero =>
    obtain rfl : slot = free := by omega
    exact ⟨state, rfl, mapOk, by omega, balanced, UInt16.le_refl _,
      fun other lower upper => by omega⟩
  | succ count induction =>
    have read : dirEntryRead device .priFat slot = entryAt device.cells .priFat slot := rfl
    rw [scanLoop]
    simp only [read]
    by_cases stop : slot = free
    · subst stop
      rw [if_pos (scannable.stop (by omega))]
      exact ⟨_, rfl, mapOk, rfl, balanced, UInt16.le_refl _, fun other lower upper => by omega⟩
    · rw [if_neg (by rw [scannable.used slot positive (by omega)]; exact Bool.false_ne_true)]
      cases deleted : isDeletedEntry (entryAt device.cells .priFat slot) with
      | true =>
        obtain ⟨state', scanned, mapOk', atFree, balanced', grows, counted⟩ :=
          induction (by omega) (by omega) (by omega) mapOk atEnd
            (balanced.congr (scannedBelow_deleted deleted) fun _ => Iff.rfl)
        refine ⟨state', scanned, mapOk', atFree, balanced', grows, fun other lower upper live => ?_⟩
        by_cases here : other = slot
        · rw [here, deleted] at live
          contradiction
        · exact counted other (by omega) upper live
      | false =>
        obtain ⟨map', added, mapOk', balanced'⟩ :=
          scannable.add positive (by omega) mapOk deleted balanced
        simp only [added, bind, Except.bind, Bool.not_false, if_true]
        obtain ⟨state', scanned, mapOk'', atFree, balanced'', grows, counted⟩ :=
          @induction (slot + 1) (by omega) (by omega) (by omega) ⟨map', state.freeDirSlot,
            if state.sequenceNumber < (entryAt device.cells .priFat slot).statCounters.sequenceCount
            then (entryAt device.cells .priFat slot).statCounters.sequenceCount
            else state.sequenceNumber⟩ mapOk' atEnd balanced'
        obtain ⟨kept, reached⟩ := maximum_le grows
        refine ⟨state', scanned, mapOk'', atFree, balanced'', kept,
          fun other lower upper live => ?_⟩
        by_cases here : other = slot
        · rw [here]
          exact reached
        · exact counted other (by omega) upper live

theorem rootInodes_covers (id : BlockId) (block : Nat) :
    (∃ inode ∈ List.ofFn (getInitialRoot id).inodes, inode.Covers block) ↔ block = id.block := by
  have first : (⟨UInt16.ofNat id.block, 1⟩ : Inode).Covers block ↔ block = id.block := by
    cases id with
    | priFat =>
      simp [Inode.Covers, BlockId.block, isValidInode, isUnusedInode, isDeletedInode,
        inodeUnused, inodeDeleted]
    | secFat =>
      simp [Inode.Covers, BlockId.block, isValidInode, isUnusedInode, isDeletedInode,
        inodeUnused, inodeDeleted]
      omega
  have unused : ¬ (⟨inodeUnused, inodeUnused⟩ : Inode).Covers block :=
    fun covers => absurd covers.1 (by decide)
  constructor
  · rintro ⟨inode, member, covers⟩
    obtain ⟨index, rfl⟩ := List.mem_ofFn.mp member
    obtain ⟨_ | _ | _ | _, small⟩ := index
    · exact first.mp covers
    · exact absurd covers unused
    · exact absurd covers unused
    · omega
  · intro here
    exact ⟨_, List.mem_ofFn.mpr ⟨0, rfl⟩, first.mpr here⟩

theorem rootInodes_fits (id : BlockId) (mapOk : MapOk info map) :
    map.Fits (List.ofFn (getInitialRoot id).inodes) := by
  have blocks : 2 ≤ info.numBlocks := info.tablesFit
  have capacity := mapOk.covers
  intro inode member valid
  have nonempty := ((isValidInode_iff inode).mp valid).1
  have last := (rootInodes_covers id (inode.offset.toNat + inode.length.toNat - 1)).mp
    ⟨inode, member, valid, by omega, by omega⟩
  have within : id.block ≤ 1 := by cases id <;> decide
  omega

theorem rootInodes_disjoint (id : BlockId) :
    SectorMap.PairwiseDisjoint (List.ofFn (getInitialRoot id).inodes) := by
  refine List.pairwise_ofFn.mpr ?_
  intro first second earlier block _ secondCovers
  have unused : isValidInode ((getInitialRoot id).inodes second) = false := by
    match second, earlier with
    | 1, _ => rfl
    | 2, _ => rfl
  rw [secondCovers.1] at unused
  contradiction

theorem addRoots_spec (mapOk : MapOk info map)
    (inUse : ∀ block, map.InUse block ↔ info.numBlocks ≤ block) :
    ∃ map' map'', map.addExtents (List.ofFn (getInitialRoot .priFat).inodes) = .ok (map', true) ∧
      map'.addExtents (List.ofFn (getInitialRoot .secFat).inodes) = .ok (map'', true) ∧
      MapOk info map'' ∧ ∀ block, map''.InUse block ↔ ReservedBlock info block := by
  have blocks : 2 ≤ info.numBlocks := info.tablesFit
  obtain ⟨map', addedPrimary, capacity, inUse'⟩ := addExtents_free
    (rootInodes_fits .priFat mapOk) (rootInodes_disjoint .priFat) (by
      intro inode member block covers used
      have here := (rootInodes_covers .priFat block).mp ⟨inode, member, covers⟩
      have beyond := (inUse block).mp used
      rw [here, BlockId.block] at beyond
      omega)
  have mapOk' := mapOk.congr capacity
  obtain ⟨map'', addedSecondary, capacity', inUse''⟩ := addExtents_free
    (rootInodes_fits .secFat mapOk') (rootInodes_disjoint .secFat) (by
      intro inode member block covers used
      have here := (rootInodes_covers .secFat block).mp ⟨inode, member, covers⟩
      rw [inUse', inUse, rootInodes_covers, here, BlockId.block, BlockId.block] at used
      omega)
  refine ⟨map', map'', addedPrimary, addedSecondary, mapOk'.congr capacity', ?_⟩
  intro block
  rw [inUse'', inUse', inUse, rootInodes_covers, rootInodes_covers, BlockId.block, BlockId.block,
    ReservedBlock]
  omega

theorem scanDirectory_spec {volume : Volume} (scan : volume.files.scanDirEntryAllocated = true)
    {free : Nat} (scannable : Scannable volume.info volume.device.cells free)
    (mapOk : MapOk volume.info volume.map)
    (inUse : ∀ block, volume.map.InUse block ↔ volume.info.numBlocks ≤ block) :
    ∃ map' sequenceNumber, scanDirectory volume = .ok
        { volume with
          map := map'
          files :=
            { volume.files with
              freeDirSlot := free
              sequenceNumber := sequenceNumber } } ∧
      MapOk volume.info map' ∧
      Balanced (ReservedBlock volume.info) (ScannedBelow volume.device.cells free)
        map'.InUse ∧
      Counted volume.device.cells 1 free sequenceNumber := by
  obtain ⟨primary, both, addedPrimary, addedSecondary, mapOk', reserved⟩ :=
    addRoots_spec mapOk inUse
  have balanced : Balanced (ReservedBlock volume.info) (ScannedBelow volume.device.cells 1)
      both.InUse := by
    refine Balanced.empty ?_ reserved
    rintro owner block ⟨below, positive, _⟩
    omega
  obtain ⟨state, scanned, mapOk'', freeDirSlot, balanced', _, counted⟩ := @scanLoop_spec volume.info
    volume.device free scannable 112 1 (by omega) le_rfl scannable.freeRange.1
    ⟨both, maxDirEntries, volume.files.sequenceNumber⟩ mapOk' rfl balanced
  refine ⟨state.map, state.sequenceNumber, ?_, mapOk'', balanced', counted⟩
  unfold scanDirectory
  simp only [addedPrimary, addedSecondary, FileInfo.scanDirEntry, scan, if_true, bind, Except.bind,
    pure, Except.pure]
  rw [show maxDirEntries - 1 = 112 from rfl, scanned, ← freeDirSlot]

end Scan

section Integrity

variable {volume : Volume} {free : Nat}

theorem checkIntegrity_spec (roots : ∀ id, entryAt volume.device.cells id 0 = getInitialRoot id)
    (freeRange : 1 ≤ free ∧ free ≤ 113) (scan : volume.files.scanDirEntryAllocated = true)
    (stop : free < 113 → ∀ id, (entryAt volume.device.cells id free).filename 0 = 0xFF)
    (repairable : ∀ slot, 1 ≤ slot → slot < free →
      Repairable (entryAt volume.device.cells .priFat slot)
        (entryAt volume.device.cells .secFat slot)) :
    ∃ device, checkIntegrity volume = .ok ({ volume with device := device }, .ok) ∧
      CaughtUp volume.device.cells device.cells fun slot => 1 ≤ slot ∧ slot < free := by
  obtain ⟨device, checked, caughtUp⟩ := checkDirectoryEntriesLoop_spec freeRange.2 scan stop 112
    rfl freeRange.1 repairable
  refine ⟨device, ?_, caughtUp⟩
  have primary : dirEntryRead volume.device .priFat rootDirentNumber = getInitialRoot .priFat :=
    roots .priFat
  have secondary : dirEntryRead volume.device .secFat rootDirentNumber = getInitialRoot .secFat :=
    roots .secFat
  simp only [checkIntegrity, checkFileAllocationTables, primary, secondary, and_self, if_true,
    bind, Except.bind]
  exact checked

structure FlashOk (info : PartInfo) (cells : Cells) (free : Nat) : Prop where
  tables : Tables info cells free fun _ => False
  disjoint : ∀ first second block, OwnedByTable cells first block →
    OwnedByTable cells second block → first = second

variable {info : PartInfo} {cells : Cells}

theorem FlashOk.repairable (ok : FlashOk info cells free) {slot : Nat} (positive : 1 ≤ slot)
    (before : slot < free) :
    Repairable (entryAt cells .priFat slot) (entryAt cells .secFat slot) := by
  have mirrored := ok.tables.mirrored slot positive (before.trans_le ok.tables.freeRange.2)
  rcases ok.tables.used slot positive before id with deleted | closed
  · exact .inOrder mirrored (Or.inr (by simpa [isDeletedEntry] using deleted))
  · exact .inOrder mirrored (Or.inl closed.named)

theorem Tables.stop {reserved : Nat → Prop} (tables : Tables info cells free reserved)
    (room : free < 113) (id : BlockId) : isErasedEntry (entryAt cells id free) = true := by
  have erased := tables.erased free tables.freeRange.1 room (Or.inl le_rfl)
  cases id with
  | priFat => exact erased
  | secFat => rw [tables.mirrored free tables.freeRange.1 room, erased]

theorem isErasedEntry_eq_false {entry : DirEntry} (first : entry.filename 0 ≠ 0xFF) :
    isErasedEntry entry = false := by
  rw [Bool.eq_false_iff]
  intro erased
  exact first (isErasedEntry_first erased)

theorem FlashOk.scanOwned_iff (ok : FlashOk info cells free) (owner : Nat × Fin 3) (block : Nat) :
    ScannedBelow cells free owner block ↔ OwnedByTable cells owner block := by
  constructor
  · rintro ⟨below, positive, live, covers⟩
    refine ⟨positive, below.trans_le ok.tables.freeRange.2, ?_, covers⟩
    rcases ok.tables.used owner.1 positive below id with deleted | closed
    · rw [deleted] at live
      contradiction
    · exact closed.isValidEntry
  · rintro ⟨positive, inTable, live, covers⟩
    obtain ⟨below, _, _⟩ := ok.tables.closed positive inTable live
    refine ⟨below, positive, ?_, covers⟩
    rw [Bool.eq_false_iff]
    intro deleted
    rw [isValidEntry_of_deleted deleted] at live
    contradiction

theorem FlashOk.scannable (ok : FlashOk info cells free) :
    Scannable info cells free where
  freeRange := ok.tables.freeRange
  used slot positive before := by
    apply isErasedEntry_eq_false
    rcases ok.tables.used slot positive before id with deleted | closed
    · have zero : (entryAt cells .priFat slot).filename 0 = 0 := by
        simpa [isDeletedEntry] using deleted
      rw [zero]
      decide
    · exact (classifyDirent_file closed.named).1
  stop room := ok.tables.stop room .priFat
  inRange owner block below scanOwned :=
    ok.tables.ownedByTable_range ((ok.scanOwned_iff owner block).mp ⟨below, scanOwned⟩)
  fits slot positive before live inode valid := by
    rcases ok.tables.used slot positive before id with deleted | closed
    · rw [deleted] at live
      contradiction
    · obtain ⟨last, shape, _⟩ := closed.extents
      have nonempty := ((isValidInode_iff _).mp valid).1
      have within := (shape.covers ⟨valid, le_refl _, Nat.lt_add_of_pos_right nonempty⟩).1
      exact (shape.inRange inode within).2
  disjoint first second block firstBelow secondBelow firstOwned secondOwned :=
    ok.disjoint first second block ((ok.scanOwned_iff _ _).mp ⟨firstBelow, firstOwned⟩)
      ((ok.scanOwned_iff _ _).mp ⟨secondBelow, secondOwned⟩)

end Integrity

section Mount

variable {volume : Volume} {first second cells : Cells} {info : PartInfo} {free : Nat}

theorem VolumeOk.flashOk (ok : VolumeOk volume) (idle : volume.files.fileIsOpenForWriting = false) :
    FlashOk volume.info volume.device.cells volume.files.freeDirSlot where
  tables := ok.tables.congr (fun _ _ _ => rfl) fun slot => by
    simp only [false_iff]
    exact fun ⟨openFile, writing, _⟩ => ok.files.noWriter idle openFile writing
  disjoint first second block firstOwned secondOwned :=
    ok.balanced.disjoint first second block (Or.inl firstOwned) (Or.inl secondOwned)

theorem FlashOk.volumeOk (ok : FlashOk volume.info volume.device.cells volume.files.freeDirSlot)
    (mapOk : MapOk volume.info volume.map) (balanced : Balanced (ReservedBlock volume.info)
      (ScannedBelow volume.device.cells volume.files.freeDirSlot) volume.map.InUse)
    (closed : ∀ index, volume.files.openFiles index = none)
    (idle : volume.files.fileIsOpenForWriting = false) (none : volume.files.numOpenFiles = 0) :
    VolumeOk volume := by
  have noWriter (openFile : OpenFile) : ¬ volume.files.Writer openFile := by
    rintro ⟨index, present, _⟩
    rw [closed] at present
    contradiction
  refine ⟨ok.tables.congr (fun _ _ _ => rfl) ?_, mapOk, ?_, ?_, ?_, ?_, ?_, ?_⟩
  · intro slot
    simp only [iff_false]
    exact fun ⟨openFile, writing, _⟩ => noWriter openFile writing
  · refine balanced.congr ?_ fun _ => Iff.rfl
    intro owner block
    rw [ok.scanOwned_iff]
    exact or_iff_left fun ⟨openFile, writing, _⟩ => noWriter openFile writing
  · intro index openFile present
    rw [closed] at present
    contradiction
  · intro openFile writing
    exact absurd writing (noWriter openFile)
  · intro first second firstFile secondFile present
    rw [closed] at present
    contradiction
  · rw [idle]
    constructor
    · intro impossible
      contradiction
    · rintro ⟨openFile, writing⟩
      exact absurd writing (noWriter openFile)
  · simp [none, closed]

/-- `fileinfo_t` as `Rafs_CreateFilesStructure` allocates it, with the scan buffer. -/
def newFiles : FileInfo where
  openFiles := fun _ => none
  scanDirEntryAllocated := true
  freeDirSlot := 0
  fileIsOpenForWriting := false
  compactIsNeeded := false
  numOpenFiles := 0
  sequenceNumber := 0

structure ScannedAlike (first second : DirEntry) : Prop where
  erased : isErasedEntry first = isErasedEntry second
  deleted : isDeletedEntry first = isDeletedEntry second
  inodes : first.inodes = second.inodes

theorem ScannedAlike.refl (entry : DirEntry) : ScannedAlike entry entry := ⟨rfl, rfl, rfl⟩

theorem scanOwned_alike {owner : Nat × Fin 3} {block : Nat}
    (alike : ScannedAlike (entryAt first .priFat owner.1) (entryAt second .priFat owner.1)) :
    ScanOwned first owner block ↔ ScanOwned second owner block := by
  unfold ScanOwned
  rw [alike.deleted, alike.inodes]

theorem Scannable.congr (scannable : Scannable info second free)
    (alike : ∀ slot < 113, ScannedAlike (entryAt first .priFat slot)
      (entryAt second .priFat slot)) : Scannable info first free := by
  have freeRange := scannable.freeRange
  have scanOwned {owner : Nat × Fin 3} {block : Nat} (below : owner.1 < free)
      (owned : ScanOwned first owner block) : ScanOwned second owner block :=
    (scanOwned_alike (alike owner.1 (by omega))).mp owned
  refine ⟨freeRange, ?_, ?_, ?_, ?_, ?_⟩
  · intro slot positive before
    rw [(alike slot (by omega)).erased]
    exact scannable.used slot positive before
  · intro room
    rw [(alike free room).erased]
    exact scannable.stop room
  · intro owner block below owned
    exact scannable.inRange owner block below (scanOwned below owned)
  · intro slot positive before
    rw [(alike slot (by omega)).deleted, (alike slot (by omega)).inodes]
    exact scannable.fits slot positive before
  · intro firstOwner secondOwner block firstBelow secondBelow firstOwned secondOwned
    exact scannable.disjoint firstOwner secondOwner block firstBelow secondBelow
      (scanOwned firstBelow firstOwned) (scanOwned secondBelow secondOwned)

/-- A mount that succeeds: what it leaves of the tables, the accounts it builds and
the open files it starts with. -/
structure MountedFrom (volume volume' : Volume) (stop free : Nat) : Prop where
  info : volume'.info = volume.info
  caughtUp : CaughtUp volume.device.cells volume'.device.cells fun slot => 1 ≤ slot ∧ slot < stop
  mapOk : MapOk volume.info volume'.map
  balanced : Balanced (ReservedBlock volume.info) (ScannedBelow volume'.device.cells free)
    volume'.map.InUse
  files : ∃ sequenceNumber, volume'.files =
    { newFiles with freeDirSlot := free, sequenceNumber := sequenceNumber }

theorem mountVolume_spec {volume : Volume} {stop free : Nat} (files : volume.files = newFiles)
    (roots : ∀ id, entryAt volume.device.cells id 0 = getInitialRoot id)
    (stopRange : 1 ≤ stop ∧ stop ≤ 113)
    (stopErased : stop < 113 → ∀ id, (entryAt volume.device.cells id stop).filename 0 = 0xFF)
    (repairable : ∀ slot, 1 ≤ slot → slot < stop →
      Repairable (entryAt volume.device.cells .priFat slot)
        (entryAt volume.device.cells .secFat slot))
    (scannable : Scannable volume.info volume.device.cells free) :
    ∃ volume', mountVolume volume = .ok (volume', .ok) ∧ MountedFrom volume volume' stop free ∧
      Counted volume'.device.cells 1 free volume'.files.sequenceNumber := by
  have scan : volume.files.scanDirEntryAllocated = true := by
    rw [files]
    rfl
  obtain ⟨device, checked, caughtUp⟩ :=
    checkIntegrity_spec roots stopRange scan stopErased repairable
  obtain ⟨map, initialised, mapOk, inUse⟩ := initialiseSectorMap_spec volume.info
  obtain ⟨map', sequenceNumber, scanned, mapOk', balanced, counted⟩ :=
    @scanDirectory_spec { volume with device := device, map := map } scan free
      (scannable.congr fun slot inTable => caughtUp.primary slot inTable ▸ .refl _) mapOk inUse
  refine ⟨⟨volume.info, device, map', { newFiles with
      freeDirSlot := free
      sequenceNumber := sequenceNumber }⟩, ?_, ⟨rfl, caughtUp, mapOk', balanced,
    sequenceNumber, rfl⟩, counted⟩
  simp only [mountVolume, checked, initialised, scanned, bind, Except.bind, if_true, pure,
    Except.pure]
  rw [← files]

structure Recoverable (info : PartInfo) (cells : Cells) (free : Nat) : Prop where
  roots : ∀ id, entryAt cells id 0 = getInitialRoot id
  freeRange : 1 ≤ free ∧ free ≤ 113
  repairable : ∀ slot, 1 ≤ slot → slot < free →
    Repairable (entryAt cells .priFat slot) (entryAt cells .secFat slot)
  used : ∀ slot, 1 ≤ slot → slot < free →
    isDeletedEntry (entryAt cells .priFat slot) = true ∨
      ClosedEntry info (entryAt cells .priFat slot)
  erased : ∀ id slot, free ≤ slot → slot < 113 → isErasedEntry (entryAt cells id slot) = true
  disjoint : ∀ first second block, OwnedByTable cells first block →
    OwnedByTable cells second block → first = second

theorem erased_unique {first second : DirEntry} (firstErased : isErasedEntry first = true)
    (secondErased : isErasedEntry second = true) : first = second := by
  apply DirEntry.ext_bytes
  intro index inside
  rw [(isErasedEntry_iff first).mp firstErased index inside,
    (isErasedEntry_iff second).mp secondErased index inside]

theorem FlashOk.recoverable (ok : FlashOk info cells free) : Recoverable info cells free where
  roots := ok.tables.roots
  freeRange := ok.tables.freeRange
  repairable _ := ok.repairable
  used slot positive before := ok.tables.used slot positive before id
  erased id slot after inTable := by
    have range := ok.tables.freeRange
    have erased := ok.tables.erased slot (by omega) inTable (Or.inl after)
    cases id with
    | priFat => exact erased
    | secFat => rw [ok.tables.mirrored slot (by omega) inTable, erased]
  disjoint := ok.disjoint

theorem Recoverable.caughtUp {cells' : Cells} (ok : Recoverable info cells free)
    (caughtUp : CaughtUp cells cells' fun slot => 1 ≤ slot ∧ slot < free) :
    FlashOk info cells' free := by
  have freeRange := ok.freeRange
  have root (id : BlockId) : entryAt cells' id 0 = entryAt cells id 0 := by
    cases id with
    | priFat => exact caughtUp.primary 0 (by decide)
    | secFat => exact caughtUp.others 0 (by decide) (by omega)
  have owned {owner : Nat × Fin 3} {block : Nat} (held : OwnedByTable cells' owner block) :
      OwnedByTable cells owner block := by
    obtain ⟨positive, inTable, live, covers⟩ := held
    rw [caughtUp.primary owner.1 inTable] at live covers
    exact ⟨positive, inTable, live, covers⟩
  refine ⟨⟨fun id => (root id).trans (ok.roots id), freeRange, ?_, ?_, ?_⟩, ?_⟩
  · intro slot positive inTable
    rw [caughtUp.primary slot inTable]
    by_cases before : slot < free
    · exact caughtUp.secondary slot inTable ⟨positive, before⟩
    · rw [caughtUp.others slot inTable (by omega)]
      exact erased_unique (ok.erased .secFat slot (by omega) inTable)
        (ok.erased .priFat slot (by omega) inTable)
  · intro slot positive before _
    rw [caughtUp.primary slot (by omega)]
    exact ok.used slot positive before
  · intro slot positive inTable after
    rw [caughtUp.primary slot inTable]
    exact ok.erased .priFat slot (by simpa using after) inTable
  · intro first second block firstOwned secondOwned
    exact ok.disjoint first second block (owned firstOwned) (owned secondOwned)

theorem Recoverable.mountVolume {volume : Volume} {free : Nat}
    (ok : Recoverable volume.info volume.device.cells free) (files : volume.files = newFiles) :
    ∃ volume', Rafs.mountVolume volume = .ok (volume', .ok) ∧
      MountedFrom volume volume' free free ∧ VolumeOk volume' ∧
      Counted volume'.device.cells 1 free volume'.files.sequenceNumber := by
  have scannable : Scannable volume.info volume.device.cells free := by
    obtain ⟨device, _, caughtUp⟩ := @checkIntegrity_spec volume free ok.roots ok.freeRange
      (by rw [files]; rfl)
      (fun room id => isErasedEntry_first (ok.erased id free le_rfl room)) ok.repairable
    exact (ok.caughtUp caughtUp).scannable.congr fun slot inTable =>
      caughtUp.primary slot inTable ▸ .refl _
  obtain ⟨volume', mounted, from_, counted⟩ := mountVolume_spec files ok.roots ok.freeRange
    (fun room id => isErasedEntry_first (ok.erased id free le_rfl room)) ok.repairable scannable
  refine ⟨volume', mounted, from_, ?_, counted⟩
  obtain ⟨info, caughtUp, mapOk, balanced, sequenceNumber, filesEq⟩ := from_
  have flash := ok.caughtUp caughtUp
  obtain ⟨_, device, map, files'⟩ := volume'
  obtain rfl := info
  obtain rfl : files' = _ := filesEq
  exact FlashOk.volumeOk flash mapOk balanced (fun _ => rfl) rfl rfl

end Mount

end HeadsetAdk.Rafs
