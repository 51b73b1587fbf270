import HeadsetAdk.Rafs.Writing

/-! # Removing files -/

namespace HeadsetAdk.Rafs

open NorFlash BlockAccounts

section Remove

variable {volume : Volume} {slot : Nat}

/-- What `Rafs_DoRemove` does to the flash. -/
def removeDevice (device : Device) (slot : Nat) : Device :=
  wipeFirstCharacter (wipeFirstCharacter device .priFat slot) .secFat slot

theorem removeDevice_written {device : Device} (inTable : slot < 113)
    (mirrored : entryAt device.cells .secFat slot = entryAt device.cells .priFat slot) :
    ∃ wiped, WrittenBoth device.cells (removeDevice device slot).cells slot wiped ∧
      isDeletedEntry wiped = true := by
  refine ⟨_, writtenBoth_member inTable (by decide) mirrored, ?_⟩
  have first := entryAt_firstOp_filename device.cells .priFat 0 slot
  rw [UInt8.and_zero] at first
  exact beq_iff_eq.mpr first

variable {info : PartInfo} {inodes : Fin 3 → Inode} {last : Fin 3}

theorem ExtentShape.notDeleted (shape : ExtentShape info inodes last) (inode : Fin 3) :
    isDeletedInode (inodes inode) = false := by
  rcases le_or_gt inode last with before | after
  · have lower := (shape.inRange inode before).1
    have notZero : (inodes inode).offset ≠ inodeDeleted := by
      intro zero
      rw [zero] at lower
      exact absurd lower (by decide)
    simp [isDeletedInode, notZero]
  · rw [shape.unused inode after]
    decide

theorem countValidInodes_ok {inodes : List Inode}
    (notDeleted : ∀ inode ∈ inodes, isDeletedInode inode = false) :
    ∃ count, countValidInodes inodes = .ok count := by
  induction inodes with
  | nil => exact ⟨0, rfl⟩
  | cons inode inodes induction =>
    obtain ⟨count, counted⟩ := induction fun other member =>
      notDeleted other (List.mem_cons_of_mem inode member)
    simp only [countValidInodes, notDeleted inode List.mem_cons_self, Bool.not_false, panicFalse,
      if_true, counted, bind, Except.bind, pure, Except.pure]
    split
    · exact ⟨count + 1, rfl⟩
    · exact ⟨0, rfl⟩

theorem countValidInodes_take {inodes : List Inode} {count : Nat}
    (counted : countValidInodes inodes = .ok count) :
    ∀ inode ∈ inodes.take count, isUnusedInode inode = false := by
  induction inodes generalizing count with
  | nil => simp
  | cons inode inodes induction =>
    cases deleted : isDeletedInode inode with
    | true =>
      rw [countValidInodes, deleted] at counted
      contradiction
    | false =>
      cases unused : isUnusedInode inode with
      | true =>
        simp only [countValidInodes, deleted, unused, panicFalse, bind, Except.bind, pure,
          Except.pure, Bool.not_false, Bool.not_true, if_true, Bool.false_eq_true, if_false,
          Except.ok.injEq] at counted
        simp [← counted]
      | false =>
        cases rest : countValidInodes inodes with
        | error fault =>
          simp [countValidInodes, deleted, unused, panicFalse, rest, bind, Except.bind]
            at counted
        | ok more =>
          simp only [countValidInodes, deleted, unused, panicFalse, rest, bind,
            Except.bind, pure, Except.pure, Bool.not_false, if_true,
            Except.ok.injEq] at counted
          subst counted
          intro other member
          rcases List.mem_cons.mp member with rfl | later
          · exact unused
          · exact induction rest other later

structure Erasable (info : PartInfo) (inode : Inode) : Prop where
  nonempty : 0 < inode.length.toNat
  lower : 2 ≤ inode.offset.toNat
  upper : inode.offset.toNat + inode.length.toNat ≤ info.numBlocks

theorem ExtentShape.erasable (shape : ExtentShape info inodes last) {inode : Fin 3}
    (used : isUnusedInode (inodes inode) = false) : Erasable info (inodes inode) := by
  have before : inode ≤ last := by
    by_contra after
    rw [shape.unused inode (lt_of_not_ge after)] at used
    exact absurd used (by decide)
  obtain ⟨lower, upper⟩ := shape.inRange inode before
  refine ⟨?_, lower, upper⟩
  have valid : isValidInode (inodes inode) = true := by
    simp [isValidInode, used, shape.notDeleted inode]
  exact ((isValidInode_iff _).mp valid).1

section

variable (ok : VolumeOk volume) (positive : 1 ≤ slot) (inTable : slot < 113)
  (live : isValidEntry (entryAt volume.device.cells .priFat slot) = true)

include ok positive inTable live

theorem VolumeOk.entry_blocks {inode : Fin 3} {block : Nat}
    (covers : ((entryAt volume.device.cells .priFat slot).inodes inode).Covers block) :
    Owned volume.device.cells volume.files (slot, inode) block ∧ volume.map.InUse block := by
  have owned : Owned volume.device.cells volume.files (slot, inode) block :=
    Or.inl ⟨positive, inTable, live, covers⟩
  exact ⟨owned, (ok.balanced.used_iff block).mpr (Or.inr ⟨_, owned⟩)⟩

theorem VolumeOk.entry_disjoint :
    SectorMap.PairwiseDisjoint (List.ofFn (entryAt volume.device.cells .priFat slot).inodes) := by
  refine List.pairwise_ofFn.mpr ?_
  intro first second before block firstCovers secondCovers
  have same := ok.balanced.disjoint _ _ block
    (ok.entry_blocks positive inTable live firstCovers).1
    (ok.entry_blocks positive inTable live secondCovers).1
  exact absurd (Prod.mk.inj same).2 (ne_of_lt before)

end

theorem VolumeOk.doRemove_eq (ok : VolumeOk volume)
    (scan : volume.files.scanDirEntryAllocated = true) {filename : CString}
    (valid : isValidFilename filename = .ok) (task : Option TaskId) {entry : DirEntry}
    (found : lookup volume.device.cells volume.files.freeDirSlot filename = some (slot, entry)) :
    ∃ map' count, Rafs.doRemove volume task filename = .ok
        ({ volume with
            device := removeDevice volume.device slot
            map := map'
            files := { volume.files with compactIsNeeded := true } },
          .ok, some ⟨task, (List.ofFn entry.inodes).take count⟩) ∧
      MapOk volume.info map' ∧
      (∀ inode ∈ (List.ofFn entry.inodes).take count, Erasable volume.info inode) ∧
      ∀ block, map'.InUse block ↔
        volume.map.InUse block ∧ ∀ inode, ¬ (entry.inodes inode).Covers block := by
  obtain ⟨positive, _, inTable, _, rfl, live, closed⟩ := ok.tables.lookup valid found
  obtain ⟨last, shape, _⟩ := closed.extents
  obtain ⟨map', removed, capacity, inUse⟩ := @removeExtents_used volume.map
    (List.ofFn (entryAt volume.device.cells .priFat slot).inodes)
    (shape.fits ok.mapOk.covers) (ok.entry_disjoint positive inTable live) (by
      intro inode member block covers
      obtain ⟨index, rfl⟩ := List.mem_ofFn.mp member
      exact (ok.entry_blocks positive inTable live covers).2)
  obtain ⟨count, counted⟩ := @countValidInodes_ok
    (List.ofFn (entryAt volume.device.cells .priFat slot).inodes) (by
      intro inode member
      obtain ⟨index, rfl⟩ := List.mem_ofFn.mp member
      exact shape.notDeleted index)
  refine ⟨map', count, ?_, ok.mapOk.congr capacity, ?_, ?_⟩
  · unfold Rafs.doRemove
    rw [if_neg (by simp [valid]), findDirEntryByFilename_eq scan]
    simp only [found, bind, Except.bind, pure, Except.pure]
    rw [show dirEntryRead volume.device .priFat slot =
      entryAt volume.device.cells .priFat slot from rfl, removed, counted]
    rfl
  · intro inode member
    have used := countValidInodes_take counted inode member
    obtain ⟨index, rfl⟩ := List.mem_ofFn.mp (List.mem_of_mem_take member)
    exact shape.erasable used
  · intro block
    rw [inUse]
    simp only [List.mem_ofFn, forall_exists_index, forall_apply_eq_imp_iff]

theorem FilesOk.setCompactIsNeeded {map : SectorMap} {files : FileInfo}
    (ok : FilesOk info map files) (needed : Bool) :
    FilesOk info map { files with compactIsNeeded := needed } :=
  { ok with }

theorem VolumeOk.removed_balanced (ok : VolumeOk volume) (positive : 1 ≤ slot)
    (inTable : slot < 113) (notReserved : ¬ volume.files.ReservedSlot slot)
    (live : isValidEntry (entryAt volume.device.cells .priFat slot) = true)
    {cells' : Cells} {wiped : DirEntry}
    (both : WrittenBoth volume.device.cells cells' slot wiped)
    (deleted : isDeletedEntry wiped = true) {map' : SectorMap}
    (inUse : ∀ block, map'.InUse block ↔ volume.map.InUse block ∧
      ∀ inode, ¬ ((entryAt volume.device.cells .priFat slot).inodes inode).Covers block) :
    Balanced (ReservedBlock volume.info) (Owned cells' volume.files) map'.InUse := by
  have notWriter (inode : Fin 3) (block : Nat) : ¬ OwnedByWriter volume.files (slot, inode) block :=
    fun ⟨writer, writing, here, _⟩ => notReserved ⟨writer, writing, here⟩
  refine @Balanced.release (Nat × Fin 3) Nat _ _ _ _ _ ok.balanced (fun owner => owner.1 = slot)
    ?_ ?_
  · rintro ⟨other, inode⟩ block
    by_cases here : other = slot
    · subst here
      have gone : ¬ OwnedByTable cells' (other, inode) block := by
        rintro ⟨_, _, stillLive, _⟩
        rw [both.here, isValidEntry_of_deleted deleted] at stillLive
        contradiction
      simp [Owned, gone, notWriter]
    · rw [Owned, ownedByTable_write_other both block here]
      simp [Owned, here]
  · intro block
    rw [inUse]
    refine and_congr_right fun _ => ?_
    constructor
    · rintro uncovered ⟨other, inode⟩ rfl (⟨_, _, _, covers⟩ | byWriter)
      · exact uncovered inode covers
      · exact notWriter inode block byWriter
    · intro notOwned inode covers
      exact notOwned (slot, inode) rfl (ok.entry_blocks positive inTable live covers).1

/-- `Rafs_DoRemove` keeps the invariant. -/
theorem VolumeOk.doRemove (ok : VolumeOk volume)
    (scan : volume.files.scanDirEntryAllocated = true) (task : Option TaskId)
    (filename : CString) :
    ∃ volume' result work, Rafs.doRemove volume task filename = .ok (volume', result, work) ∧
      VolumeOk volume' ∧ volume'.info = volume.info ∧
      volume'.files.scanDirEntryAllocated = true ∧
      ∀ remaining ∈ work, ∀ inode ∈ remaining.inodes, Erasable volume.info inode := by
  by_cases valid : isValidFilename filename = .ok
  case neg =>
    refine ⟨volume, isValidFilename filename, none, ?_, ok, rfl, scan, by simp⟩
    unfold Rafs.doRemove
    rw [if_pos valid]
    rfl
  case pos =>
    cases found : lookup volume.device.cells volume.files.freeDirSlot filename with
    | none =>
      refine ⟨volume, .fileNotFound, none, ?_, ok, rfl, scan, by simp⟩
      unfold Rafs.doRemove
      rw [if_neg (by simp [valid]), findDirEntryByFilename_eq scan]
      simp only [found, bind, Except.bind, pure, Except.pure]
    | some pair =>
      obtain ⟨slot, entry⟩ := pair
      obtain ⟨map', count, removed, mapOk, erasable, inUse⟩ := ok.doRemove_eq scan valid task found
      obtain ⟨positive, before, inTable, notReserved, rfl, live, _⟩ := ok.tables.lookup valid found
      obtain ⟨wiped, both, deleted⟩ :=
        removeDevice_written inTable (ok.tables.mirrored slot positive inTable)
      refine ⟨_, _, _, removed, ⟨?_, mapOk, ?_, ?_⟩, rfl, scan, by simpa using erasable⟩
      · exact ok.tables.write both positive before notReserved (fun _ _ => Iff.rfl)
          (Or.inl deleted)
      · exact ok.removed_balanced positive inTable notReserved live both deleted inUse
      · exact (ok.files.mono fun block used => ((inUse block).mp used).1).setCompactIsNeeded true

end Remove

end HeadsetAdk.Rafs
