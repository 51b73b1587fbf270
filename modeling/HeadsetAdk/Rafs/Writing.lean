import HeadsetAdk.Rafs.Closing

/-!
# Writing

The loop of `Rafs_DoWrite` writes a chunk into the current extent, and while
bytes remain it marks the extent as filled and goes on in the longest free one.
-/

namespace HeadsetAdk.Rafs

open NorFlash BlockAccounts

section Positions

variable {info : PartInfo} {openFile : OpenFile}

structure InExtent (info : PartInfo) (openFile : OpenFile) : Prop where
  inRange : 2 ≤ openFile.inode.offset.toNat ∧
    openFile.inode.offset.toNat + openFile.inode.length.toNat ≤ info.numBlocks
  position : openFile.extentPosition ≤ openFile.inode.length.toNat * info.blockSize

theorem WriterExtents.inExtent {map : SectorMap} (ok : WriterExtents info map openFile) :
    InExtent info openFile :=
  ⟨ok.shape.inRange openFile.currentInode le_rfl, ok.position⟩

theorem ReaderOk.inExtent (ok : ReaderOk info openFile) : InExtent info openFile := by
  obtain ⟨last, shape, current, _⟩ := ok.extents
  exact ⟨shape.inRange openFile.currentInode current, ok.position⟩

theorem InExtent.extentFree (ok : InExtent info openFile) :
    openFile.extentFree info =
      openFile.inode.length.toNat * info.blockSize - openFile.extentPosition := by
  have bounds := extent_bounds ok.inRange.1 ok.inRange.2
  rw [OpenFile.extentFree, mul32_eq (by omega), sub32_eq ok.position (by omega)]

theorem InExtent.extentStart (ok : InExtent info openFile) :
    openFile.extentStart info =
      openFile.inode.offset.toNat * info.blockSize + openFile.extentPosition := by
  have bounds := extent_bounds ok.inRange.1 ok.inRange.2
  have position := ok.position
  rw [OpenFile.extentStart, mul32_eq (by omega), add32_eq (by omega)]

theorem InExtent.advance (ok : InExtent info openFile) {length : Nat}
    (fits : length ≤ openFile.extentFree info) :
    InExtent info (openFile.advance length) ∧
      (openFile.advance length).extentPosition = openFile.extentPosition + length := by
  have bounds := extent_bounds ok.inRange.1 ok.inRange.2
  have position := ok.position
  rw [ok.extentFree] at fits
  have advanced : (openFile.advance length).extentPosition =
      openFile.extentPosition + length := add32_eq (by omega)
  refine ⟨⟨ok.inRange, ?_⟩, advanced⟩
  rw [advanced]
  exact (Nat.add_le_of_le_sub' ok.position fits)

end Positions

def WriteState.writeChunk (info : PartInfo) (state : WriteState) (buffPtr : Nat → UInt8)
    (length : Nat) : WriteState where
  device :=
    if 0 < length then state.device.program (state.openFile.extentStart info) length buffPtr
    else state.device
  map := state.map
  openFile := state.openFile.advance length
  numBytesWritten := add32 state.numBytesWritten length

def WriteState.enterExtent (state : WriteState) (map : SectorMap) (next : Fin 3)
    (freeSpace : Inode) : WriteState :=
  { state with map := map, openFile := (state.openFile.enterInode next).setInode freeSpace }

theorem nextInode_val {openFile : OpenFile} {next : Fin 3}
    (found : openFile.nextInode = some next) :
    next.val = openFile.currentInode.val + 1 := by
  unfold OpenFile.nextInode at found
  split at found
  · rw [← Option.some.inj found]
  · contradiction

/-- The rule for the loop of `Rafs_DoWrite`: what holds at the start of a pass, what
holds once its chunk is written, and what holds at the end. -/
theorem writeLoop_rule {info : PartInfo} {Ready Written : WriteState → (Nat → UInt8) → Nat → Prop}
    {Done : WriteState → Prop}
    (chunk : ∀ state buffPtr remaining, Ready state buffPtr remaining →
      Written (state.writeChunk info buffPtr (min remaining (state.openFile.extentFree info)))
        (fun index => buffPtr (min remaining (state.openFile.extentFree info) + index))
        (remaining - min remaining (state.openFile.extentFree info)))
    (finished : ∀ state buffPtr, Written state buffPtr 0 → Done state)
    (fileFull : ∀ state buffPtr remaining, Written state buffPtr remaining →
      0 < remaining → state.openFile.nextInode = none → Done state)
    (filled : ∀ state buffPtr remaining next, Written state buffPtr remaining →
      0 < remaining → state.openFile.nextInode = some next →
      ∃ map ok, state.map.addExtents [state.openFile.inode] = .ok (map, ok) ∧
        if (findLongestFreeExtent map).offset = 0 ∧ (findLongestFreeExtent map).length = 0 then
          ∃ map' ok', map.removeExtents [state.openFile.inode] = .ok (map', ok') ∧
            Done { state with map := map' }
        else
          Ready (state.enterExtent map next (findLongestFreeExtent map)) buffPtr remaining)
    {passes : Nat} {state : WriteState} {buffPtr : Nat → UInt8} {remaining : Nat}
    (enough : 3 ≤ passes + state.openFile.currentInode.val)
    (ready : Ready state buffPtr remaining) :
    ∃ state' result, writeLoop info passes state buffPtr remaining = .ok (state', result) ∧
      Done state' := by
  induction passes generalizing state buffPtr remaining with
  | zero =>
    have inTable := state.openFile.currentInode.isLt
    omega
  | succ passes induction =>
    have written := chunk state buffPtr remaining ready
    generalize chunkEq : state.writeChunk info buffPtr
      (min remaining (state.openFile.extentFree info)) = state' at written
    have openFileEq : state.openFile.advance
        (min remaining (state.openFile.extentFree info)) = state'.openFile := by
      rw [← chunkEq]
      rfl
    have current : state'.openFile.currentInode = state.openFile.currentInode := by
      rw [← openFileEq]
      rfl
    have mapEq : state.map = state'.map := by
      rw [← chunkEq]
      rfl
    have whole : WriteState.mk
        (if 0 < min remaining (state.openFile.extentFree info) then
          state.device.program (state.openFile.extentStart info)
            (min remaining (state.openFile.extentFree info)) buffPtr
        else state.device) state'.map state'.openFile
        (add32 state.numBytesWritten (min remaining (state.openFile.extentFree info))) =
          state' := by
      rw [← chunkEq]
      rfl
    unfold writeLoop
    simp only [openFileEq, mapEq]
    by_cases more : 0 < remaining - min remaining (state.openFile.extentFree info)
    · rw [if_pos more]
      cases found : state'.openFile.nextInode with
      | none =>
        exact ⟨state', .fileFull, by simp only [whole]; rfl, fileFull _ _ _ written more found⟩
      | some next =>
        obtain ⟨map, ok, marked, after⟩ := filled _ _ _ next written more found
        simp only [marked, bind, Except.bind]
        split at after
        case isTrue full =>
          obtain ⟨map', ok', unmarked, done⟩ := after
          refine ⟨{ state' with map := map' }, .fileSystemFull, ?_, done⟩
          rw [if_pos full, unmarked]
          rw [← whole]
          rfl
        case isFalse room =>
          rw [if_neg room]
          have later := nextInode_val found
          have again := induction (by
            change 3 ≤ passes + next.val
            rw [later, current]
            omega) after
          rw [← whole] at again
          exact again
    · rw [if_neg more]
      have empty : remaining - min remaining (state.openFile.extentFree info) = 0 := by omega
      rw [empty] at written
      exact ⟨state', .ok, by simp only [whole]; rfl, finished _ _ written⟩

section Invariant

variable {info : PartInfo} {tables : Cells} {start : OpenFile} {state : WriteState}
  {map' : SectorMap} {next : Fin 3} {freeSpace : Inode}

structure SameWriter (start openFile : OpenFile) : Prop where
  flags : openFile.flags = start.flags
  task : openFile.task = start.task
  directoryIndex : openFile.directoryIndex = start.directoryIndex
  filename : openFile.fileDirEntry.filename = start.fileDirEntry.filename
  fileSize : openFile.fileDirEntry.fileSize = start.fileDirEntry.fileSize
  statCounters : openFile.fileDirEntry.statCounters = start.fileDirEntry.statCounters

/-- The accounts of a volume while its writer, opened as `start`, is written to. -/
structure WriteOk (info : PartInfo) (tables : Cells) (start : OpenFile) (state : WriteState) :
    Prop where
  sameTables : SameTables state.device.cells tables
  mapOk : MapOk info state.map
  extents : WriterExtents info state.map state.openFile
  balanced : Balanced (ReservedBlock info)
    (fun owner block => OwnedByTable tables owner block ∨ state.openFile.Filled owner block)
    state.map.InUse
  sameWriter : SameWriter start state.openFile
  progress : start.filePosition + state.numBytesWritten = state.openFile.filePosition

def Started (openFile : OpenFile) : Prop :=
  0 < openFile.currentInode.val → 0 < openFile.extentPosition

/-- A pass can start: an extent that was just entered is about to be written to. -/
structure WriteReady (info : PartInfo) (tables : Cells) (start : OpenFile) (state : WriteState)
    (remaining : Nat) : Prop extends WriteOk info tables start state where
  pending : 0 < remaining ∨ Started state.openFile

structure WriteFilled (info : PartInfo) (tables : Cells) (start : OpenFile) (state : WriteState)
    (remaining : Nat) : Prop extends WriteOk info tables start state where
  started : Started state.openFile
  atEnd : 0 < remaining →
    state.openFile.extentPosition = state.openFile.inode.length.toNat * info.blockSize

theorem WriteOk.reservedUsed (ok : WriteOk info tables start state) (block : Nat)
    (reserved : ReservedBlock info block) : state.map.InUse block :=
  (ok.balanced.used_iff block).mpr (Or.inl reserved)

theorem WriteOk.capacity (ok : WriteOk info tables start state) :
    bytesBefore info state.openFile.fileDirEntry.inodes state.openFile.currentInode.val +
      state.openFile.inode.length.toNat * info.blockSize < 2 ^ 32 := by
  have capacity := ok.extents.capacity ok.balanced fun inode block before covers =>
    Or.inr ⟨rfl, before, covers⟩
  rwa [bytesBefore_succ] at capacity

variable {length remaining : Nat} {map : SectorMap}

theorem sameTables_program {cells : Cells} {offset : Nat} {data : Nat → UInt8}
    (beyond : 8192 ≤ offset) : SameTables ((Op.program offset length data).apply cells) cells := by
  apply sameTables_of_data
  intro address inTables
  apply program_apply_outside
  omega

theorem SameTables.trans {first second third : Cells} (left : SameTables first second)
    (right : SameTables second third) : SameTables first third :=
  fun id slot inTable => (left id slot inTable).trans (right id slot inTable)

theorem InExtent.sameTables {openFile : OpenFile} (ok : InExtent info openFile) (device : Device)
    (length : Nat) (data : Nat → UInt8) :
    SameTables (if 0 < length then device.program (openFile.extentStart info) length data
      else device).cells device.cells := by
  have bounds := extent_bounds ok.inRange.1 ok.inRange.2
  split
  case isTrue =>
    apply sameTables_program
    rw [ok.extentStart]
    omega
  case isFalse => exact fun _ _ _ => rfl

theorem WriteOk.advance_filePosition (ok : WriteOk info tables start state)
    (fits : length ≤ state.openFile.extentFree info) :
    (state.openFile.advance length).filePosition = state.openFile.filePosition + length := by
  have position := ok.extents.position
  have capacity := ok.capacity
  rw [ok.extents.inExtent.extentFree] at fits
  apply add32_eq
  rw [ok.extents.filePosition]
  omega

theorem WriteReady.chunk (ready : WriteReady info tables start state remaining)
    (buffPtr : Nat → UInt8) :
    WriteFilled info tables start
      (state.writeChunk info buffPtr (min remaining (state.openFile.extentFree info)))
      (remaining - min remaining (state.openFile.extentFree info)) := by
  have inExtent := ready.extents.inExtent
  have extentFree := inExtent.extentFree
  have position := ready.extents.position
  have fits : min remaining (state.openFile.extentFree info) ≤ state.openFile.extentFree info :=
    Nat.min_le_right _ _
  obtain ⟨advanced, extentPosition⟩ := inExtent.advance fits
  have filePosition := ready.advance_filePosition fits
  have progress := ready.progress
  have capacity := ready.capacity
  have atPosition := ready.extents.filePosition
  refine ⟨⟨?_, ready.mapOk, ?_, ready.balanced, ?_, ?_⟩, ?_, ?_⟩
  · exact (inExtent.sameTables state.device _ buffPtr).trans ready.sameTables
  · refine ⟨ready.extents.shape, ready.extents.nonempty, ready.extents.currentFree,
      advanced.position, ?_⟩
    change (state.openFile.advance _).filePosition = bytesBefore info _ _ +
      (state.openFile.advance _).extentPosition
    rw [filePosition, extentPosition, atPosition]
    exact Nat.add_assoc _ _ _
  · exact { ready.sameWriter with }
  · change start.filePosition + add32 state.numBytesWritten _ =
      (state.openFile.advance _).filePosition
    rw [filePosition, add32_eq (by omega), ← progress, Nat.add_assoc]
  · intro later
    change 0 < (state.openFile.advance _).extentPosition
    rw [extentPosition]
    rcases ready.pending with more | started
    · have nonempty : 0 < state.openFile.inode.length.toNat * info.blockSize :=
        Nat.mul_pos ready.extents.nonempty (by have := info.directoryFits; omega)
      omega
    · have before := started later
      omega
  · intro more
    change (state.openFile.advance _).extentPosition = state.openFile.inode.length.toNat * _
    rw [extentPosition]
    omega

section

variable (ok : WriteOk info tables start state)

include ok

theorem WriteOk.mark :
    ∃ map', state.map.addExtents [state.openFile.inode] = .ok (map', true) ∧
      MapOk info map' ∧ ∀ block, map'.InUse block ↔
        state.map.InUse block ∨ state.openFile.inode.Covers block := by
  obtain ⟨map', marked, capacity, inUse⟩ := @addExtents_free state.map [state.openFile.inode]
    (by
      intro inode member _
      rw [List.mem_singleton.mp member]
      exact ok.extents.inExtent.inRange.2.trans ok.mapOk.covers)
    (List.pairwise_singleton _ _)
    (by
      intro inode member block covers
      rw [List.mem_singleton.mp member] at covers
      exact ok.extents.currentFree block covers)
  exact ⟨map', marked, ok.mapOk.congr capacity, fun block => by simpa using inUse block⟩

theorem WriteOk.mark_balanced
    (inUse : ∀ block, map'.InUse block ↔
      state.map.InUse block ∨ state.openFile.inode.Covers block) :
    Balanced (ReservedBlock info)
      (fun owner block => (OwnedByTable tables owner block ∨ state.openFile.Filled owner block) ∨
        owner = (state.openFile.directoryIndex, state.openFile.currentInode) ∧
          state.openFile.inode.Covers block) map'.InUse := by
  refine @Balanced.extend (Nat × Fin 3) Nat _ _ _ _ _ ok.balanced
    (fun owner block => owner = (state.openFile.directoryIndex, state.openFile.currentInode) ∧
      state.openFile.inode.Covers block) ?_ ?_ (fun _ _ => Iff.rfl) ?_
  · rintro owner block ⟨_, covers⟩
    exact ok.extents.currentFree block covers
  · rintro first second block ⟨rfl, _⟩ ⟨rfl, _⟩
    rfl
  · intro block
    simp [inUse]

theorem WriteOk.unmark (mapOk : MapOk info map')
    (inUse : ∀ block, map'.InUse block ↔
      state.map.InUse block ∨ state.openFile.inode.Covers block) :
    ∃ map'', map'.removeExtents [state.openFile.inode] = .ok (map'', true) ∧
      MapOk info map'' ∧ ∀ block, map''.InUse block ↔ state.map.InUse block := by
  obtain ⟨map'', unmarked, capacity, inUse'⟩ := @removeExtents_used map' [state.openFile.inode]
    (by
      intro inode member _
      rw [List.mem_singleton.mp member]
      exact ok.extents.inExtent.inRange.2.trans mapOk.covers)
    (List.pairwise_singleton _ _)
    (by
      intro inode member block covers
      rw [List.mem_singleton.mp member] at covers
      exact (inUse block).mpr (Or.inr covers))
  refine ⟨map'', unmarked, mapOk.congr capacity, ?_⟩
  intro block
  rw [inUse', inUse]
  constructor
  · rintro ⟨used | covers, notCovered⟩
    · exact used
    · exact absurd covers (notCovered _ (List.mem_singleton_self _))
  · intro used
    refine ⟨Or.inl used, ?_⟩
    intro inode member covers
    rw [List.mem_singleton.mp member] at covers
    exact ok.extents.currentFree block covers used

theorem WriteOk.setMap (mapOk : MapOk info map')
    (same : ∀ block, map'.InUse block ↔ state.map.InUse block) :
    WriteOk info tables start { state with map := map' } where
  sameTables := ok.sameTables
  mapOk := mapOk
  extents :=
    { ok.extents with
      currentFree := fun block covers used =>
        ok.extents.currentFree block covers ((same block).mp used) }
  balanced := ok.balanced.congr (fun _ _ => Iff.rfl) same
  sameWriter := ok.sameWriter
  progress := ok.progress

end

theorem enterExtent_inodes :
    (state.enterExtent map next freeSpace).openFile.fileDirEntry.inodes =
      Function.update state.openFile.fileDirEntry.inodes next freeSpace :=
  rfl

theorem enterExtent_filled (later : next.val = state.openFile.currentInode.val + 1)
    (owner : Nat × Fin 3) (block : Nat) :
    (state.enterExtent map next freeSpace).openFile.Filled owner block ↔
      state.openFile.Filled owner block ∨
        owner = (state.openFile.directoryIndex, state.openFile.currentInode) ∧
          state.openFile.inode.Covers block := by
  obtain ⟨slot, inode⟩ := owner
  change state.openFile.directoryIndex = slot ∧ inode < next ∧
    (Function.update state.openFile.fileDirEntry.inodes next freeSpace inode).Covers block ↔ _
  rw [OpenFile.Filled, Prod.mk.injEq]
  rcases lt_trichotomy inode state.openFile.currentInode with before | same | after
  · have different : inode ≠ next := by omega
    have entered : inode < next := by omega
    rw [Function.update_of_ne different]
    simp [before, entered, ne_of_lt before]
  · have different : inode ≠ next := by omega
    have entered : inode < next := by omega
    rw [Function.update_of_ne different, same] at *
    simp [entered, OpenFile.inode, eq_comm]
  · have notEntered : ¬ inode < next := by omega
    have notBefore : ¬ inode < state.openFile.currentInode := by omega
    simp [notEntered, notBefore, ne_of_gt after]

theorem WriteFilled.enterExtent (filled : WriteFilled info tables start state remaining)
    (more : 0 < remaining) (found : state.openFile.nextInode = some next) (mapOk : MapOk info map')
    (inUse : ∀ block, map'.InUse block ↔ state.map.InUse block ∨ state.openFile.inode.Covers block)
    (extent : FreeExtent info map' freeSpace) :
    WriteReady info tables start (state.enterExtent map' next freeSpace) remaining := by
  have later := nextInode_val found
  have shape := filled.extents.shape
  have inodeEq : (state.enterExtent map' next freeSpace).openFile.inode = freeSpace :=
    Function.update_self _ _ _
  have entered : (state.enterExtent map' next freeSpace).openFile.fileDirEntry.inodes next =
      freeSpace := inodeEq
  have current : (state.enterExtent map' next freeSpace).openFile.currentInode = next := rfl
  have earlier (inode : Fin 3) (before : inode < next) :
      (state.enterExtent map' next freeSpace).openFile.fileDirEntry.inodes inode =
        state.openFile.fileDirEntry.inodes inode :=
    Function.update_of_ne (ne_of_lt before) _ _
  refine ⟨⟨filled.sameTables, mapOk, ⟨⟨?_, ?_, ?_⟩, ?_, ?_, ?_, ?_⟩, ?_, ?_, filled.progress⟩,
    Or.inl more⟩
  · intro inode le
    rcases lt_or_eq_of_le le with before | same
    · rw [earlier inode before]
      exact shape.inRange inode (by
        change inode < next at before
        omega)
    · rw [same.trans current, entered]
      exact extent.inRange
  · intro _ inode le
    rcases lt_or_eq_of_le le with before | same
    · rw [earlier inode before]
      change inode < next at before
      rcases lt_or_eq_of_le (show inode ≤ state.openFile.currentInode by omega) with
        previous | last
      · exact shape.filled (by omega) inode (le_of_lt previous)
      · rw [last]
        exact filled.extents.nonempty
    · rw [same.trans current, entered]
      exact extent.nonempty
  · intro inode after
    change next < inode at after
    rw [enterExtent_inodes, Function.update_of_ne (ne_of_gt after)]
    exact shape.unused inode (by omega)
  · rw [inodeEq]
    exact extent.nonempty
  · rw [inodeEq]
    exact extent.free
  · exact Nat.zero_le _
  · have before : bytesBefore info
        (state.enterExtent map' next freeSpace).openFile.fileDirEntry.inodes next.val =
        bytesBefore info state.openFile.fileDirEntry.inodes next.val :=
      bytesBefore_congr earlier
    change state.openFile.filePosition = bytesBefore info _ next.val + 0
    rw [before, later, bytesBefore_succ, filled.extents.filePosition, filled.atEnd more]
    rfl
  · refine (filled.mark_balanced inUse).congr ?_ fun _ => Iff.rfl
    intro owner block
    rw [enterExtent_filled later, or_assoc]
  · obtain ⟨flags, task, directoryIndex, filename, fileSize, statCounters⟩ := filled.sameWriter
    exact ⟨flags, task, directoryIndex, filename, fileSize, statCounters⟩

end Invariant

section Write

variable {info : PartInfo} {tables : Cells} {start : OpenFile} {state : WriteState}

/-- The loop of `Rafs_DoWrite` on a writer keeps the accounts. -/
theorem writeLoop_ok {buffPtr : Nat → UInt8} {remaining : Nat}
    (ready : WriteReady info tables start state remaining) :
    ∃ state' result, writeLoop info 3 state buffPtr remaining = .ok (state', result) ∧
      WriteOk info tables start state' ∧ Started state'.openFile := by
  refine @writeLoop_rule info
    (fun state _ remaining => WriteReady info tables start state remaining)
    (fun state _ remaining => WriteFilled info tables start state remaining)
    (fun state => WriteOk info tables start state ∧ Started state.openFile)
    ?_ ?_ ?_ ?_ 3 state buffPtr remaining (Nat.le_add_right 3 _) ready
  · intro state buffPtr remaining ready
    exact ready.chunk buffPtr
  · intro state _ filled
    exact ⟨filled.toWriteOk, filled.started⟩
  · intro state _ remaining filled _ _
    exact ⟨filled.toWriteOk, filled.started⟩
  · intro state buffPtr remaining next filled more found
    obtain ⟨map', marked, mapOk', inUse⟩ := filled.mark
    refine ⟨map', true, marked, ?_⟩
    split
    case isTrue =>
      obtain ⟨map'', unmarked, mapOk'', same⟩ := filled.unmark mapOk' inUse
      exact ⟨map'', true, unmarked, filled.setMap mapOk'' same, filled.started⟩
    case isFalse room =>
      have reservedUsed (block : Nat) (reserved : ReservedBlock info block) :
          map'.InUse block := (inUse block).mpr (Or.inl (filled.reservedUsed block reserved))
      exact filled.enterExtent more found mapOk' inUse
        (FreeExtent.of_search mapOk' reservedUsed room)

def StaysInExtent (info : PartInfo) (openFile : OpenFile) (numBytes : Nat) : Prop :=
  numBytes ≤ openFile.extentFree info ∨ openFile.nextInode = none

theorem writeLoop_of_stays {buffPtr : Nat → UInt8} {remaining : Nat}
    (stays : StaysInExtent info state.openFile remaining) (passes : Nat) :
    ∃ result, writeLoop info (passes + 1) state buffPtr remaining =
      .ok (state.writeChunk info buffPtr (min remaining (state.openFile.extentFree info)),
        result) := by
  unfold writeLoop
  dsimp only
  by_cases more : 0 < remaining - min remaining (state.openFile.extentFree info)
  · have last : (state.openFile.advance
        (min remaining (state.openFile.extentFree info))).nextInode = none := by
      rcases stays with fits | last
      · rw [Nat.min_eq_left fits] at more
        omega
      · exact last
    rw [if_pos more, last]
    exact ⟨.fileFull, rfl⟩
  · rw [if_neg more]
    exact ⟨.ok, rfl⟩

variable {volume : Volume} {index : Fin 4} {openFile : OpenFile}

theorem FilesOk.onlyWriter {map : SectorMap} {files : FileInfo} (ok : FilesOk info map files)
    (writer : files.Writer openFile) (other : OpenFile) :
    files.Writer other ↔ other = openFile := by
  obtain ⟨index, present, writing⟩ := writer
  constructor
  · rintro ⟨place, there, flags⟩
    obtain rfl := ok.oneWriter place index other openFile there flags present writing
    exact Option.some.inj (there.symm.trans present)
  · rintro rfl
    exact ⟨index, present, writing⟩

section

variable (ok : VolumeOk volume) (present : volume.files.openFiles index = some openFile)
  (writing : openFile.flags = .wronly)

include ok present writing

theorem VolumeOk.writeReady (remaining : Nat) :
    WriteReady volume.info volume.device.cells openFile
      ⟨volume.device, volume.map, openFile, 0⟩ remaining := by
  have writer : volume.files.Writer openFile := ⟨index, present, writing⟩
  have writerOk := (ok.files.writers openFile writer).1
  refine ⟨⟨fun _ _ _ => rfl, ok.mapOk, writerOk.toWriterExtents, ?_, ⟨rfl, rfl, rfl, rfl, rfl, rfl⟩,
    rfl⟩, Or.inr writerOk.started⟩
  refine ok.balanced.congr ?_ fun _ => Iff.rfl
  intro owner block
  refine or_congr_right ?_
  constructor
  · intro held
    exact ⟨openFile, writer, held⟩
  · rintro ⟨other, otherWriter, held⟩
    rwa [(ok.files.onlyWriter writer other).mp otherWriter] at held

theorem VolumeOk.of_writeOk (written : WriteOk volume.info volume.device.cells openFile state)
    (started : Started state.openFile) :
    VolumeOk { volume with
      device := state.device
      map := state.map
      files := volume.files.setOpenFile index (some state.openFile) } := by
  have writer : volume.files.Writer openFile := ⟨index, present, writing⟩
  obtain ⟨writerOk, slot⟩ := ok.files.writers openFile writer
  have stillWriting : state.openFile.flags = .wronly := written.sameWriter.flags.trans writing
  have onlyWriter := @writer_of_update volume.files
    (volume.files.setOpenFile index (some state.openFile)) index state.openFile
    (ok.files.others present writing) rfl stillWriting
  refine ⟨?_, written.mapOk, ?_, ?_⟩
  · refine ok.tables.congr written.sameTables ?_
    intro slot
    unfold FileInfo.ReservedSlot
    simp only [onlyWriter, exists_eq_left, ok.files.onlyWriter writer,
      written.sameWriter.directoryIndex]
  · refine written.balanced.congr ?_ fun _ => Iff.rfl
    intro owner block
    refine or_congr (ownedByTable_congr written.sameTables owner block) ?_
    unfold OwnedByWriter
    simp only [onlyWriter, exists_eq_left]
  · refine ok.files.setWriter (ok.files.others present writing) rfl stillWriting
      ⟨written.extents, ?_, started, ?_, ?_⟩ ?_
      (ok.files.writerFlag.mpr ⟨openFile, writer⟩) ?_
    · rw [written.sameWriter.filename]
      exact writerOk.named
    · rw [written.sameWriter.fileSize]
      exact writerOk.fileSize
    · rw [written.sameWriter.directoryIndex]
      exact writerOk.slot
    · rw [written.sameWriter.directoryIndex]
      exact slot
    · exact ok.files.counted.trans (openCount_keep present _).symm

end

theorem ReaderOk.writeChunk (ok : ReaderOk info state.openFile)
    (buffPtr : Nat → UInt8) {length : Nat} (fits : length ≤ state.openFile.extentFree info) :
    ReaderOk info (state.writeChunk info buffPtr length).openFile where
  extents := ok.extents
  position := (ok.inExtent.advance fits).1.position

theorem VolumeOk.setReader (ok : VolumeOk volume)
    (present : volume.files.openFiles index = some openFile) (reading : openFile.flags = .rdonly)
    {device : Device} (same : SameTables device.cells volume.device.cells) {moved : OpenFile}
    (movedOk : ReaderOk volume.info moved) (flags : moved.flags = .rdonly) :
    VolumeOk { volume with
      device := device
      files := volume.files.setOpenFile index (some moved) } := by
  have before (reader : OpenFile) (there : volume.files.openFiles index = some reader) :
      reader.flags = .rdonly := by
    rw [← Option.some.inj (present.symm.trans there)]
    exact reading
  have after (reader : OpenFile) (there : some moved = some reader) :
      reader.flags = .rdonly ∧ ReaderOk volume.info reader := by
    rw [← Option.some.inj there]
    exact ⟨flags, movedOk⟩
  have sameWriter := @writer_update_iff volume.files
    (volume.files.setOpenFile index (some moved)) index (some moved) rfl before
    fun reader there => (after reader there).1
  refine ⟨ok.tables.congr same (reservedSlot_congr sameWriter), ok.mapOk, ?_, ?_⟩
  · exact ok.balanced.congr (fun owner block => or_congr (ownedByTable_congr same owner block)
      (ownedByWriter_congr sameWriter owner block)) fun _ => Iff.rfl
  · exact ok.files.setReader before after rfl rfl rfl
      (ok.files.counted.trans (openCount_keep present _).symm)

theorem VolumeOk.doWrite (ok : VolumeOk volume) (fileId : FileId) (buf : Nat → UInt8)
    (numBytes : Nat)
    (stays : ∀ index openFile, findOpenFileInstanceById volume.files fileId =
      some (index, openFile) → openFile.flags = .rdonly →
        StaysInExtent volume.info openFile numBytes) :
    ∃ volume' result written, Rafs.doWrite volume fileId buf numBytes =
        .ok (volume', result, written) ∧ VolumeOk volume' ∧ volume'.info = volume.info ∧
      volume'.files.scanDirEntryAllocated = volume.files.scanDirEntryAllocated := by
  unfold Rafs.doWrite
  cases found : findOpenFileInstanceById volume.files fileId with
  | none => exact ⟨volume, .ok, none, rfl, ok, rfl, rfl⟩
  | some pair =>
    obtain ⟨index, openFile⟩ := pair
    obtain ⟨_, present⟩ := findOpenFileInstanceById_eq_some found
    cases flags : openFile.flags with
    | wronly =>
      obtain ⟨state, result, written, writeOk, started⟩ :=
        @writeLoop_ok volume.info volume.device.cells openFile
          ⟨volume.device, volume.map, openFile, 0⟩ buf numBytes
          (ok.writeReady present flags numBytes)
      refine ⟨_, result, some state.numBytesWritten, ?_,
        ok.of_writeOk present flags writeOk started, rfl, rfl⟩
      simp only [written, bind, Except.bind, pure, Except.pure]
    | rdonly =>
      obtain ⟨result, written⟩ := @writeLoop_of_stays volume.info
        ⟨volume.device, volume.map, openFile, 0⟩ buf numBytes
        (stays index openFile found flags) 2
      have readerOk := ok.files.readers index openFile present flags
      have chunkOk : ReaderOk volume.info
          (openFile.advance (min numBytes (openFile.extentFree volume.info))) :=
        @ReaderOk.writeChunk volume.info ⟨volume.device, volume.map, openFile, 0⟩ readerOk buf
          _ (Nat.min_le_right _ _)
      refine ⟨_, result, some (add32 0 (min numBytes (openFile.extentFree volume.info))), ?_,
        ok.setReader present flags (readerOk.inExtent.sameTables volume.device
          (min numBytes (openFile.extentFree volume.info)) buf) chunkOk flags, rfl, rfl⟩
      simp only [written, bind, Except.bind, pure, Except.pure]
      rfl

end Write

end HeadsetAdk.Rafs
