import HeadsetAdk.Lib.Outcomes
import HeadsetAdk.Rafs.Mounting
import Mathlib.Data.List.Pairwise

/-! # The order in which files were created -/

namespace HeadsetAdk.Rafs

open NorFlash BlockAccounts

/-- The name of a file, as its directory entry has it. -/
abbrev StoredName := Fin 16 → UInt8

def DirEntry.stamp (entry : DirEntry) : StoredName × UInt16 :=
  (entry.filename, entry.statCounters.sequenceCount)

/-- The files of `count` slots of a table, from `first` on -/
def filesIn (cells : Cells) (id : BlockId) (first count : Nat) : List (StoredName × UInt16) :=
  ((List.range' first count).filter fun slot => isValidEntry (entryAt cells id slot)).map
    fun slot => (entryAt cells id slot).stamp

def liveFiles (cells : Cells) (id : BlockId) : List (StoredName × UInt16) :=
  filesIn cells id 1 (maxDirEntries - 1)

def FileInfo.writer? (files : FileInfo) : Option OpenFile :=
  ((List.finRange 4).filterMap files.openFiles).find? fun openFile => openFile.flags == .wronly

def FileInfo.newFile (files : FileInfo) : List (StoredName × UInt16) :=
  files.writer?.toList.map fun openFile => openFile.fileDirEntry.stamp

def existingFiles (volume : Volume) : List (StoredName × UInt16) :=
  liveFiles volume.device.cells .priFat ++ volume.files.newFile

def storedAs (filename : CString) (name : StoredName) : Bool :=
  strncmpIsZero rafsMaxFilelen (List.ofFn name) filename.val

structure CreationOrder (files : List (StoredName × UInt16)) (counter : Option UInt16)
    (created : List StoredName) : Prop where
  names : files.map Prod.fst = created
  increasing : (files.map Prod.snd).Pairwise (· < ·)
  bounded : ∀ number ∈ counter, ∀ file ∈ files, file.2 ≤ number

section Orders

variable {files : List (StoredName × UInt16)} {counter : Option UInt16}
  {created : List StoredName}

theorem CreationOrder.create {number : UInt16}
    (order : CreationOrder files (some number) created) (name : StoredName)
    (counts : number ≠ 65535 ∨ files = []) :
    CreationOrder (files ++ [(name, number + 1)]) (some (number + 1)) (created ++ [name]) := by
  have below (file : StoredName × UInt16) (member : file ∈ files) : file.2 < number + 1 := by
    have atMost := order.bounded number rfl file member
    cases counts with
    | inl room =>
      have small : number.toNat ≠ 65535 := fun full => room (UInt16.toNat_inj.mp full)
      have limit := number.toNat_lt
      have next : (number + 1).toNat = number.toNat + 1 := by
        rw [UInt16.toNat_add]
        exact Nat.mod_eq_of_lt (by change number.toNat + 1 < 65536; omega)
      rw [UInt16.lt_iff_toNat_lt, next]
      rw [UInt16.le_iff_toNat_le] at atMost
      omega
    | inr none =>
      rw [none] at member
      contradiction
  refine ⟨?_, ?_, ?_⟩
  · rw [List.map_append, order.names]
    rfl
  · rw [List.map_append, List.pairwise_append]
    refine ⟨order.increasing, List.pairwise_singleton _ _, ?_⟩
    intro earlier earlierMember later laterMember
    obtain ⟨file, member, rfl⟩ := List.mem_map.mp earlierMember
    rw [List.mem_singleton.mp laterMember]
    exact below file member
  · intro top same file member
    cases same
    rcases List.mem_append.mp member with before | here
    · exact UInt16.le_of_lt (below file before)
    · rw [List.mem_singleton.mp here]
      exact UInt16.le_refl _

theorem CreationOrder.remove {front back : List (StoredName × UInt16)}
    {removed : StoredName × UInt16} {matching : StoredName → Bool}
    (order : CreationOrder (front ++ removed :: back) counter created)
    (first : ∀ file ∈ front, matching file.1 = false) (found : matching removed.1 = true) :
    CreationOrder (front ++ back) counter (created.eraseP matching) := by
  have fewer : (front ++ back).Sublist (front ++ removed :: back) :=
    (List.sublist_cons_self removed back).append_left front
  refine ⟨?_, ?_, ?_⟩
  · rw [← order.names, List.map_append, List.map_append, List.map_cons, List.eraseP_append_right,
      List.eraseP_cons_of_pos found]
    intro name member
    obtain ⟨file, fileMember, rfl⟩ := List.mem_map.mp member
    rw [first file fileMember]
    exact Bool.false_ne_true
  · exact order.increasing.sublist (fewer.map Prod.snd)
  · intro number same file member
    exact order.bounded number same file (fewer.subset member)

theorem CreationOrder.unmounted (order : CreationOrder files counter created) :
    CreationOrder files none created :=
  ⟨order.names, order.increasing, fun _ none => absurd none (by simp)⟩

end Orders

section Tables

variable {cells cells' : Cells} {id id' : BlockId} {slot : Nat} {first count : Nat}
  {written : DirEntry}

theorem isValidEntry_of_stamp {first second : DirEntry} (same : first.stamp = second.stamp) :
    isValidEntry first = isValidEntry second :=
  isValidEntry_congr (congrArg Prod.fst same)

theorem filesIn_congr (same : ∀ slot, first ≤ slot → slot < first + count →
      (entryAt cells' id' slot).stamp = (entryAt cells id slot).stamp) :
    filesIn cells' id' first count = filesIn cells id first count := by
  unfold filesIn
  have inRange (slot : Nat) (member : slot ∈ List.range' first count) :=
    same slot (List.mem_range'_1.mp member).1 (List.mem_range'_1.mp member).2
  rw [List.filter_congr fun slot member => isValidEntry_of_stamp (inRange slot member)]
  apply List.map_congr_left
  intro slot member
  exact inRange slot (List.mem_of_mem_filter member)

theorem filesIn_eq_nil (none : ∀ slot, first ≤ slot → slot < first + count →
      isValidEntry (entryAt cells id slot) = false) : filesIn cells id first count = [] := by
  unfold filesIn
  rw [List.map_eq_nil_iff, List.filter_eq_nil_iff]
  intro slot member
  rw [none slot (List.mem_range'_1.mp member).1 (List.mem_range'_1.mp member).2]
  exact Bool.false_ne_true

theorem liveFiles_split (positive : 1 ≤ slot) (inTable : slot < 113) :
    liveFiles cells id = filesIn cells id 1 (slot - 1) ++
      ((if isValidEntry (entryAt cells id slot) then [(entryAt cells id slot).stamp] else []) ++
        filesIn cells id (slot + 1) (112 - slot)) := by
  have split : List.range' 1 (maxDirEntries - 1) =
      List.range' 1 (slot - 1) ++ slot :: List.range' (slot + 1) (112 - slot) := by
    rw [show maxDirEntries - 1 = (slot - 1) + ((112 - slot) + 1) by
      change 112 = _
      omega, ← List.range'_append_1, List.range'_succ, Nat.add_sub_cancel' positive]
  unfold liveFiles filesIn
  rw [split, List.filter_append, List.map_append, List.filter_cons]
  split <;> rfl

theorem liveFiles_sameTables (same : SameTables cells' cells) (id : BlockId) :
    liveFiles cells' id = liveFiles cells id :=
  filesIn_congr fun slot _ inTable => by
    rw [same id slot (by omega)]

section

variable (both : WrittenBoth cells cells' slot written)

include both

theorem filesIn_written (inTable : first + count ≤ 113)
    (outside : slot < first ∨ first + count ≤ slot) :
    filesIn cells' id first count = filesIn cells id first count :=
  filesIn_congr fun other lower upper => by
    rw [both.others id other (by omega) (by omega)]

theorem liveFiles_written (positive : 1 ≤ slot) (inTable : slot < 113) :
    liveFiles cells' .priFat = filesIn cells .priFat 1 (slot - 1) ++
      ((if isValidEntry written then [written.stamp] else []) ++
        filesIn cells .priFat (slot + 1) (112 - slot)) := by
  rw [liveFiles_split positive inTable, both.here, filesIn_written both (by omega) (by omega),
    filesIn_written both (by omega) (by omega)]

theorem liveFiles_sameStamp (positive : 1 ≤ slot) (inTable : slot < 113)
    (same : written.stamp = (entryAt cells .priFat slot).stamp) :
    liveFiles cells' .priFat = liveFiles cells .priFat := by
  rw [liveFiles_written both positive inTable, liveFiles_split positive inTable, same,
    isValidEntry_of_stamp same]

end

end Tables

section Writers

variable {info : PartInfo} {map map' : SectorMap} {files files' : FileInfo} {openFile : OpenFile}

theorem writer?_eq_some (ok : FilesOk info map files) (writer : files.Writer openFile) :
    files.writer? = some openFile := by
  obtain ⟨index, present, writing⟩ := writer
  have member : openFile ∈ (List.finRange 4).filterMap files.openFiles :=
    List.mem_filterMap.mpr ⟨index, List.mem_finRange index, present⟩
  cases found : files.writer? with
  | none =>
    have missing := List.find?_eq_none.mp found openFile member
    rw [writing] at missing
    exact absurd rfl missing
  | some other =>
    obtain ⟨place, _, there⟩ := List.mem_filterMap.mp (List.mem_of_find?_eq_some found)
    have otherWriting : other.flags = .wronly := by simpa using List.find?_some found
    rw [(ok.onlyWriter ⟨index, present, writing⟩ other).mp ⟨place, there, otherWriting⟩]

theorem writer?_eq_none (noWriter : ∀ openFile, ¬ files.Writer openFile) :
    files.writer? = none := by
  cases found : files.writer? with
  | none => rfl
  | some other =>
    obtain ⟨place, _, there⟩ := List.mem_filterMap.mp (List.mem_of_find?_eq_some found)
    have otherWriting : other.flags = .wronly := by simpa using List.find?_some found
    exact absurd ⟨place, there, otherWriting⟩ (noWriter other)

theorem newFile_of_writer (ok : FilesOk info map files) (writer : files.Writer openFile) :
    files.newFile = [openFile.fileDirEntry.stamp] := by
  rw [FileInfo.newFile, writer?_eq_some ok writer]
  rfl

theorem newFile_of_noWriter (noWriter : ∀ openFile, ¬ files.Writer openFile) :
    files.newFile = [] := by
  rw [FileInfo.newFile, writer?_eq_none noWriter]
  rfl

theorem newFile_congr (ok : FilesOk info map files) (ok' : FilesOk info map' files')
    (same : ∀ openFile, files'.Writer openFile ↔ files.Writer openFile) :
    files'.newFile = files.newFile := by
  by_cases writing : ∃ openFile, files.Writer openFile
  · obtain ⟨openFile, writer⟩ := writing
    rw [newFile_of_writer ok writer, newFile_of_writer ok' ((same openFile).mpr writer)]
  · rw [newFile_of_noWriter fun openFile writer => writing ⟨openFile, writer⟩,
      newFile_of_noWriter fun openFile writer => writing ⟨openFile, (same openFile).mp writer⟩]

end Writers

structure SameOrder (volume volume' : Volume) : Prop where
  files : existingFiles volume' = existingFiles volume
  counter : volume'.files.sequenceNumber = volume.files.sequenceNumber

section Operations

variable {volume volume' : Volume} {filename : CString} {result : RafsErrors}
  {index : Option (Fin 4)}

theorem SameOrder.refl (volume : Volume) : SameOrder volume volume := ⟨rfl, rfl⟩

section

variable (ok : VolumeOk volume)

include ok

theorem VolumeOk.openReader_sameOrder {slot : Nat} (positive : 1 ≤ slot)
    (before : slot < volume.files.freeDirSlot) (inTable : slot < 113)
    (notReserved : ¬ volume.files.ReservedSlot slot)
    (closed : ClosedEntry volume.info (entryAt volume.device.cells .priFat slot))
    {place : Fin 4} (free : volume.files.openFiles place = none) (task : Option TaskId) :
    SameOrder volume (Rafs.openReader volume task .rdonly slot
      (entryAt volume.device.cells .priFat slot) place) := by
  obtain ⟨written, both, same, sameWriter⟩ := ok.openReader_writes positive inTable free task
  have ok' := ok.openReader positive before inTable notReserved closed free task
  refine ⟨congrArg₂ (· ++ ·) ?_ (newFile_congr ok.files ok'.files sameWriter), rfl⟩
  exact liveFiles_sameStamp both positive inTable (Prod.ext same.filename same.sequenceCount)

section

variable (scan : volume.files.scanDirEntryAllocated = true) (valid : isValidFilename filename = .ok)
  (task : Option TaskId)

include scan valid task

theorem VolumeOk.doOpenRead_order
    (opened : Rafs.doOpenRead volume task filename .rdonly = .ok (volume', result, index)) :
    SameOrder volume volume' := by
  unfold Rafs.doOpenRead at opened
  rw [findDirEntryByFilename_eq scan] at opened
  simp only [bind, Except.bind, pure, Except.pure] at opened
  split at opened
  case h_1 => cases opened; exact .refl _
  case h_2 slot entry found =>
    split at opened
    case h_1 => cases opened; exact .refl _
    case h_2 place free =>
      obtain ⟨positive, before, inTable, notReserved, rfl, _, closed⟩ :=
        ok.tables.lookup valid found
      cases opened
      exact ok.openReader_sameOrder positive before inTable notReserved closed
        (findFreeFileSlot_eq_some free) task

theorem VolumeOk.doOpenWrite_order
    (opened : Rafs.doOpenWrite volume task filename .wronly = .ok (volume', result, index)) :
    (result ≠ .ok ∧ SameOrder volume volume') ∨
      (result = .ok ∧ existingFiles volume' = existingFiles volume ++
          [(safeStrncpy filename, volume.files.sequenceNumber + 1)] ∧
        volume'.files.sequenceNumber = volume.files.sequenceNumber + 1) := by
  unfold Rafs.doOpenWrite at opened
  rw [findDirEntryByFilename_eq scan] at opened
  simp only [bind, Except.bind, pure, Except.pure] at opened
  split at opened
  case h_1 => cases opened; exact .inl ⟨by decide, .refl _⟩
  case h_2 missing =>
    split at opened
    case isTrue => cases opened; exact .inl ⟨by decide, .refl _⟩
    case isFalse idle =>
      split at opened
      case isTrue => cases opened; exact .inl ⟨by decide, .refl _⟩
      case isFalse room =>
        split at opened
        case h_1 => cases opened; exact .inl ⟨by decide, .refl _⟩
        case h_2 place free =>
          split at opened
          case isTrue => cases opened; exact .inl ⟨by decide, .refl _⟩
          case isFalse found =>
            have extent := FreeExtent.of_search ok.mapOk ok.reservedUsed found
            have notWriting : volume.files.fileIsOpenForWriting = false := by simpa using idle
            have ok' := ok.openWriter valid notWriting room (findFreeFileSlot_eq_some free) extent
              task
            cases opened
            refine .inr ⟨rfl, ?_, rfl⟩
            unfold existingFiles
            rw [newFile_of_noWriter (ok.files.noWriter notWriting), List.append_nil,
              newFile_of_writer ok'.files ⟨place, Function.update_self .., rfl⟩]
            rfl

end

theorem VolumeOk.closeDevice_files {openFile : OpenFile} (writer : volume.files.Writer openFile) :
    liveFiles (closeDevice volume.info volume.device openFile).cells .priFat =
      liveFiles volume.device.cells .priFat ++ [openFile.fileDirEntry.stamp] := by
  obtain ⟨positive, slot, inTable⟩ := ok.writer_slot writer
  have closed := (ok.files.writers openFile writer).1.closedEntry (ok.writer_filePosition writer)
  have behind : filesIn volume.device.cells .priFat (openFile.directoryIndex + 1)
      (112 - openFile.directoryIndex) = [] :=
    filesIn_eq_nil fun other lower upper =>
      isValidEntry_of_erased (ok.tables.erased other (by omega) (by omega) (Or.inl (by omega)))
  rw [liveFiles_written (ok.closeDevice_written writer) positive inTable,
    liveFiles_split positive inTable, behind, if_pos closed.isValidEntry,
    isValidEntry_of_erased (ok.writer_erased writer .priFat)]
  simp only [Bool.false_eq_true, if_false, List.append_nil]
  rfl

theorem VolumeOk.doClose_order {fileId : FileId}
    (closed : Rafs.doClose volume fileId = .ok (volume', result)) : SameOrder volume volume' := by
  unfold Rafs.doClose at closed
  cases found : findOpenFileInstanceById volume.files fileId with
  | none =>
    rw [found] at closed
    cases closed
    exact .refl _
  | some pair =>
    obtain ⟨place, openFile⟩ := pair
    obtain ⟨_, present⟩ := findOpenFileInstanceById_eq_some found
    rw [found] at closed
    cases flags : openFile.flags with
    | wronly =>
      have writer : volume.files.Writer openFile := ⟨place, present, flags⟩
      obtain ⟨map', written, _⟩ := closeWriter_spec ok.mapOk
        (ok.files.writers openFile writer).1
      simp only [flags, if_true, written, bind, Except.bind, pure, Except.pure] at closed
      cases closed
      refine ⟨?_, rfl⟩
      unfold existingFiles
      rw [newFile_of_writer ok.files writer]
      refine (congrArg₂ (· ++ ·) (ok.closeDevice_files writer)
        (newFile_of_noWriter (closedFiles_noWriter ok.files present flags))).trans ?_
      exact List.append_nil _
    | rdonly =>
      have ok' := ok.doClose fileId
      unfold Rafs.doClose at ok'
      rw [found] at ok'
      simp only [flags, reduceCtorEq, if_false, bind, Except.bind, pure, Except.pure]
        at closed ok'
      obtain ⟨_, same, volumeOk, _⟩ := ok'
      cases closed
      cases same
      refine ⟨congrArg (liveFiles volume.device.cells .priFat ++ ·) ?_, rfl⟩
      refine newFile_congr ok.files volumeOk.files ?_
      refine writer_update_iff rfl ?_ (by simp)
      intro reader there
      rw [← Option.some.inj (present.symm.trans there)]
      exact flags

theorem VolumeOk.doWrite_order {fileId : FileId} {buf : Nat → UInt8}
    {numBytes : Nat} {written : Option Nat}
    (writing : ∀ place openFile, findOpenFileInstanceById volume.files fileId =
      some (place, openFile) → openFile.flags = .wronly)
    (wrote : Rafs.doWrite volume fileId buf numBytes = .ok (volume', result, written)) :
    SameOrder volume volume' := by
  unfold Rafs.doWrite at wrote
  cases found : findOpenFileInstanceById volume.files fileId with
  | none =>
    rw [found] at wrote
    cases wrote
    exact .refl _
  | some pair =>
    obtain ⟨place, openFile⟩ := pair
    obtain ⟨_, present⟩ := findOpenFileInstanceById_eq_some found
    have flags := writing place openFile found
    obtain ⟨state, result', looped, writeOk, started⟩ :=
      @writeLoop_ok volume.info volume.device.cells openFile
        ⟨volume.device, volume.map, openFile, 0⟩ buf numBytes
        (ok.writeReady present flags numBytes)
    have ok' := ok.of_writeOk present flags writeOk started
    simp only [found, looped, bind, Except.bind, pure, Except.pure] at wrote
    cases wrote
    refine ⟨congrArg₂ (· ++ ·) (liveFiles_sameTables writeOk.sameTables .priFat) ?_, rfl⟩
    rw [newFile_of_writer ok.files ⟨place, present, flags⟩]
    refine (newFile_of_writer ok'.files
      ⟨place, Function.update_self .., writeOk.sameWriter.flags.trans flags⟩).trans ?_
    rw [DirEntry.stamp, DirEntry.stamp, writeOk.sameWriter.filename,
      writeOk.sameWriter.statCounters]

end

theorem lookup_first {cells : Cells} {free slot : Nat} {entry : DirEntry}
    (found : lookup cells free filename = some (slot, entry)) {file : StoredName × UInt16}
    (member : file ∈ filesIn cells .priFat 1 (slot - 1)) : storedAs filename file.1 = false := by
  obtain ⟨other, inRange, rfl⟩ := List.mem_map.mp member
  have range := List.mem_range'_1.mp (List.mem_of_mem_filter inRange)
  unfold lookup at found
  rw [List.find?_map] at found
  obtain ⟨slot', first, same⟩ := Option.map_eq_some_iff.mp found
  obtain ⟨rfl, _⟩ := Prod.mk.inj same
  have notBefore := (List.find?_range'_eq_some.mp first).2.2 other range.1 (by omega)
  exact (Bool.not_eq_true' _).mp notBefore

theorem VolumeOk.doRemove_order (ok : VolumeOk volume)
    (scan : volume.files.scanDirEntryAllocated = true) {task : Option TaskId}
    {work : Option RemoveWork}
    (removed : Rafs.doRemove volume task filename = .ok (volume', result, work)) :
    (result ≠ .ok ∧ SameOrder volume volume') ∨
      (result = .ok ∧ volume'.files.sequenceNumber = volume.files.sequenceNumber ∧
        ∃ front file back, existingFiles volume = front ++ file :: back ∧
          existingFiles volume' = front ++ back ∧
          (∀ other ∈ front, storedAs filename other.1 = false) ∧
          storedAs filename file.1 = true) := by
  by_cases valid : isValidFilename filename = .ok
  case neg =>
    unfold Rafs.doRemove at removed
    rw [if_pos valid] at removed
    cases removed
    exact .inl ⟨valid, .refl _⟩
  case pos =>
    cases found : lookup volume.device.cells volume.files.freeDirSlot filename with
    | none =>
      unfold Rafs.doRemove at removed
      rw [if_neg (by simp [valid]), findDirEntryByFilename_eq scan] at removed
      simp only [found, bind, Except.bind, pure, Except.pure] at removed
      cases removed
      exact .inl ⟨by decide, .refl _⟩
    | some pair =>
      obtain ⟨slot, entry⟩ := pair
      obtain ⟨map', count, removedEq, _⟩ := ok.doRemove_eq scan valid task found
      obtain ⟨positive, before, inTable, notReserved, rfl, live, _⟩ := ok.tables.lookup valid found
      obtain ⟨wiped, both, deleted⟩ :=
        removeDevice_written inTable (ok.tables.mirrored slot positive inTable)
      rw [removed] at removedEq
      cases removedEq
      refine .inr ⟨rfl, rfl, filesIn volume.device.cells .priFat 1 (slot - 1),
        (entryAt volume.device.cells .priFat slot).stamp,
        filesIn volume.device.cells .priFat (slot + 1) (112 - slot) ++ volume.files.newFile,
        ?_, ?_, fun other => lookup_first found, (lookup_eq_some found).2.2.2⟩
      · unfold existingFiles
        rw [liveFiles_split positive inTable, if_pos live, List.append_assoc]
        rfl
      · refine (congrArg (· ++ volume.files.newFile)
          (liveFiles_written both positive inTable)).trans ?_
        rw [isValidEntry_of_deleted deleted, List.append_assoc]
        rfl

end Operations

theorem FlashOk.mountVolume_order {volume volume' : Volume} {free : Nat}
    (flash : FlashOk volume.info volume.device.cells free) (files : volume.files = newFiles)
    (mounted : mountVolume volume = .ok (volume', .ok)) :
    existingFiles volume' = liveFiles volume.device.cells .priFat ∧
      ∀ file ∈ liveFiles volume.device.cells .priFat, file.2 ≤ volume'.files.sequenceNumber := by
  obtain ⟨_, mounted', from_, _, counted⟩ := flash.recoverable.mountVolume files
  cases mounted.symm.trans mounted'
  obtain ⟨sequenceNumber, filesEq⟩ := from_.files
  have primary := from_.caughtUp.primary
  refine ⟨?_, ?_⟩
  · refine (congrArg₂ (· ++ ·) (filesIn_congr fun slot _ inTable => ?_)
      (newFile_of_noWriter ?_)).trans (List.append_nil _)
    · rw [primary slot inTable]
    · rintro openFile ⟨place, present, _⟩
      rw [filesEq] at present
      contradiction
  · intro file member
    obtain ⟨slot, inRange, rfl⟩ := List.mem_map.mp member
    have range := List.mem_range'_1.mp (List.mem_of_mem_filter inRange)
    have live : isValidEntry (entryAt volume.device.cells .priFat slot) = true := by
      simpa using (List.mem_filter.mp inRange).2
    have inTable : slot < 113 := range.2
    obtain ⟨below, _, _⟩ := flash.tables.closed range.1 inTable live
    have notDeleted : isDeletedEntry (entryAt volume.device.cells .priFat slot) = false := by
      rw [Bool.eq_false_iff]
      intro deleted
      rw [isValidEntry_of_deleted deleted] at live
      contradiction
    have reached := counted slot range.1 below
      (by rw [primary slot inTable]; exact notDeleted)
    rw [primary slot inTable] at reached
    exact reached

end HeadsetAdk.Rafs
