import HeadsetAdk.Lib.EventLog
import HeadsetAdk.Rafs.Compaction

/-! # Creation order over runs -/

namespace HeadsetAdk.Rafs

open NorFlash BlockAccounts

namespace System

def directoryTable (s : System) : BlockId :=
  match s.queue with
  | .compactWork _ state :: _ => state.directory
  | _ => .priFat

def existingFiles (s : System) : List (StoredName × UInt16) :=
  liveFiles s.device.cells s.directoryTable ++ (s.self.files.map FileInfo.newFile).getD []

def InCreationOrder (s : System) (created : List StoredName) : Prop :=
  CreationOrder s.existingFiles (s.self.files.map FileInfo.sequenceNumber) created

/-- Mounting and unmounting, creating, removing and compacting files, and the background work.
What is written is the file that is being created. -/
def isCreationEvent (s : System) : Event → Bool
  | .mount _ _ => true
  | .unmount _ => true
  | .open_ _ _ _ => true
  | .write fileId _ _ =>
      (s.self.files.bind fun files => findOpenFileInstanceById files fileId).all fun found =>
        found.2.flags == .wronly
  | .close _ => true
  | .remove _ _ => true
  | .compact _ _ => true
  | .idleTimeout _ => true
  | .deliver _ => true
  | _ => false

def createsFile (s : System) : Event → Bool
  | .open_ task pathname .wronly =>
      match s.open_ task pathname .wronly with
      | .ok (_, reply) => reply.result == .ok
      | .error _ => false
  | _ => false

def countsOn (s : System) (event : Event) : Bool :=
  !s.createsFile event || s.existingFiles.isEmpty ||
    s.self.files.all fun files => files.sequenceNumber != 65535

def recordFiles (created : List StoredName) : Event → Option Reply → List StoredName
  | .open_ _ pathname .wronly, some reply =>
      match reply.result, getFilename pathname with
      | .ok, .ok filename => created ++ [safeStrncpy filename]
      | _, _ => created
  | .remove _ pathname, some reply =>
      match reply.result, getFilename pathname with
      | .ok, .ok filename => created.eraseP (storedAs filename)
      | _, _ => created
  | _, _ => created

def creationStep (state : System × List StoredName) (event : Event) :
    Option (System × List StoredName) :=
  match state.1.step event with
  | .error _ => none
  | .ok (s, reply) => some (s, recordFiles state.2 event reply)

end System

section Calls

variable {s s' : System} {partition : Partition} {files : FileInfo} {created : List StoredName}
  {reply : Reply} {task : Option TaskId} {pathname : CString}

theorem recordFiles_failed {event : System.Event} (failed : reply.result ≠ .ok) :
    System.recordFiles created event (some reply) = created := by
  cases event with
  | open_ task pathname flags =>
    cases flags with
    | rdonly => rfl
    | wronly =>
      simp only [System.recordFiles]
      split
      · exact absurd (by assumption) failed
      · rfl
  | remove task pathname =>
    simp only [System.recordFiles]
    split
    · exact absurd (by assumption) failed
    · rfl
  | _ => rfl

theorem SystemOk.directoryTable_eq (ok : SystemOk s) : s.directoryTable = .priFat := by
  unfold System.directoryTable
  cases ok with
  | unmounted _ _ _ noWork => rw [noWork]
  | mounted _ _ _ _ _ work =>
    cases busy : s.self.busy with
    | false =>
      rw [busy] at work
      rw [show s.queue = [] from work]
    | true =>
      rw [busy] at work
      obtain ⟨message, queue, workOk⟩ := work
      rw [queue]
      cases message with
      | compactWork _ _ => exact absurd workOk id
      | _ => rfl

variable {volume : Volume} {partitionName : CString}

theorem SystemOk.inCreationOrder (ok : SystemOk s) (hasFiles : s.self.files = some volume.files)
    (cells : s.device.cells = volume.device.cells)
    (order : CreationOrder (Rafs.existingFiles volume) (some volume.files.sequenceNumber) created) :
    s.InCreationOrder created := by
  rw [System.InCreationOrder, System.existingFiles, ok.directoryTable_eq, hasFiles, cells]
  exact order

theorem ReadyOk.order (ok : ReadyOk s partition files) (order : s.InCreationOrder created) :
    CreationOrder (Rafs.existingFiles ⟨s.info, s.device, s.self.map, files⟩)
      (some files.sequenceNumber) created := by
  rw [System.InCreationOrder, System.existingFiles, ok.systemOk.directoryTable_eq,
    ok.hasFiles] at order
  exact order

theorem ReadyOk.scanOrder (ok : ReadyOk s partition files) (order : s.InCreationOrder created) :
    CreationOrder (Rafs.existingFiles
        ⟨s.info, s.device, s.self.map, { files with scanDirEntryAllocated := true }⟩)
      (some files.sequenceNumber) created :=
  ok.order order

theorem CreationOrder.sameOrder {volume' : Volume}
    (order : CreationOrder (Rafs.existingFiles volume) (some volume.files.sequenceNumber) created)
    (same : SameOrder volume volume') :
    CreationOrder (Rafs.existingFiles volume') (some volume'.files.sequenceNumber) created := by
  rw [same.files, same.counter]
  exact order

section

variable (ok : SystemOk s) (order : s.InCreationOrder created)

include ok order

theorem SystemOk.open_order {flags : RafsMode}
    (counts : s.countsOn (.open_ task pathname flags) = true)
    (stepped : s.open_ task pathname flags = .ok (s', reply)) :
    s'.InCreationOrder (System.recordFiles created (.open_ task pathname flags) (some reply)) ∧
      s'.info = s.info := by
  have ok' := ok.open_ stepped
  rcases ok.open_cases stepped with ⟨rfl, failed⟩ |
    ⟨partition, files, filename, volume', index, readyOk, named, valid, opened, _, _, rfl⟩
  · exact ⟨by rwa [recordFiles_failed failed], rfl⟩
  · refine ⟨ok'.inCreationOrder rfl rfl ?_, rfl⟩
    change CreationOrder (Rafs.existingFiles volume') (some volume'.files.sequenceNumber) _
    cases flags with
    | rdonly =>
      exact (readyOk.scanOrder order).sameOrder
        ((readyOk.volume.setScan true).doOpenRead_order rfl valid task opened)
    | wronly =>
      rcases (readyOk.volume.setScan true).doOpenWrite_order rfl valid task opened with
        ⟨failed, same⟩ | ⟨result, existing, counter⟩
      · rw [recordFiles_failed failed]
        exact (readyOk.scanOrder order).sameOrder same
      · simp only [System.recordFiles, named, result]
        have room : files.sequenceNumber ≠ 65535 ∨
            Rafs.existingFiles ⟨s.info, s.device, s.self.map, files⟩ = [] := by
          simp only [System.countsOn, System.createsFile, stepped, result, beq_self_eq_true,
            Bool.not_true, Bool.false_or, Bool.or_eq_true, List.isEmpty_iff,
            System.existingFiles, ok.directoryTable_eq,
            readyOk.hasFiles, Option.all_some, bne_iff_ne] at counts
          exact counts.symm
        have next := (readyOk.order order).create (safeStrncpy filename) room
        rw [existing, counter]
        exact next

/-- `Rafs_Close` -/
theorem SystemOk.close_order {fileId : FileId} (stepped : s.close fileId = .ok (s', reply)) :
    s'.InCreationOrder created ∧ s'.info = s.info := by
  have ok' := ok.close stepped
  rcases validated_cases stepped with rfl | ⟨validated, stepped⟩
  · exact ⟨order, rfl⟩
  · obtain ⟨partition, files, readyOk⟩ := ok.readyOfFile validated
    obtain ⟨volume', closed, _⟩ := readyOk.volume.doClose fileId
    simp only [readyOk.volume_eq, closed, bind, Except.bind, pure, Except.pure] at stepped
    cases stepped
    exact ⟨ok'.inCreationOrder rfl rfl
      ((readyOk.order order).sameOrder (readyOk.volume.doClose_order closed)), rfl⟩

theorem SystemOk.write_order {fileId : FileId} {buf : Nat → UInt8} {numBytes : Nat}
    (creating : s.isCreationEvent (.write fileId buf numBytes) = true)
    (stepped : s.write fileId buf numBytes = .ok (s', reply)) :
    SystemOk s' ∧ s'.InCreationOrder created ∧ s'.info = s.info := by
  have writing (files : FileInfo) (place : Fin 4) (openFile : OpenFile)
      (hasFiles : s.self.files = some files)
      (found : findOpenFileInstanceById files fileId = some (place, openFile)) :
      openFile.flags = .wronly := by
    simpa [System.isCreationEvent, hasFiles, found] using creating
  have ok' := ok.write (fun files place openFile hasFiles found reading => by
    rw [writing files place openFile hasFiles found] at reading
    contradiction) stepped
  rcases validated_cases stepped with rfl | ⟨validated, stepped⟩
  · exact ⟨ok', order, rfl⟩
  · obtain ⟨partition, files, readyOk⟩ := ok.readyOfFile validated
    obtain ⟨volume, read, stepped⟩ := bind_eq_ok stepped
    rw [readyOk.volume_eq] at read
    cases read
    obtain ⟨⟨volume', result, count⟩, written, final⟩ := bind_eq_ok stepped
    cases final
    exact ⟨ok', ok'.inCreationOrder rfl rfl
      ((readyOk.order order).sameOrder (readyOk.volume.doWrite_order
        (fun place openFile => writing files place openFile readyOk.hasFiles) written)), rfl⟩

theorem SystemOk.remove_order (stepped : s.remove task pathname = .ok (s', reply)) :
    s'.InCreationOrder (System.recordFiles created (.remove task pathname) (some reply)) ∧
      s'.info = s.info := by
  have ok' := ok.remove stepped
  rcases ok.remove_cases stepped with ⟨rfl, failed⟩ |
    ⟨partition, files, filename, volume', work, readyOk, named, removed, _, _, _, final⟩
  · exact ⟨by rwa [recordFiles_failed failed], rfl⟩
  · have order' : CreationOrder (Rafs.existingFiles volume') (some volume'.files.sequenceNumber)
        (System.recordFiles created (.remove task pathname) (some reply)) := by
      rcases (readyOk.volume.setScan true).doRemove_order rfl removed with
        ⟨failed, same⟩ | ⟨result, counter, front, file, back, before, after, first, found⟩
      · rw [recordFiles_failed failed]
        exact (readyOk.scanOrder order).sameOrder same
      · simp only [System.recordFiles, named, result]
        have order := readyOk.order order
        rw [show Rafs.existingFiles ⟨s.info, s.device, s.self.map, files⟩ =
          front ++ file :: back from before] at order
        rw [after, counter]
        exact order.remove first found
    rcases final with ⟨_, rfl⟩ | ⟨work, _, _, rfl⟩ <;>
      exact ⟨ok'.inCreationOrder rfl rfl order', rfl⟩

end

theorem SystemOk.unmountedOrder (ok : SystemOk s) (noFiles : s.self.files = none) :
    s.InCreationOrder created ↔ CreationOrder (liveFiles s.device.cells .priFat) none created := by
  rw [System.InCreationOrder, System.existingFiles, ok.directoryTable_eq, noFiles]
  exact iff_of_eq (congrArg (fun files => CreationOrder files none created) (List.append_nil _))

/-- `Rafs_Mount` -/
theorem SystemOk.mount_order (ok : SystemOk s) (order : s.InCreationOrder created)
    (stepped : s.mount task partitionName = .ok (s', reply)) :
    s'.InCreationOrder created ∧ s'.info = s.info := by
  have ok' := ok.mount stepped
  rcases ok.mount_cases stepped with ⟨rfl, _⟩ | ⟨free, flash, _, noFiles, _, _, ending⟩
  · exact ⟨order, rfl⟩
  · have order := (ok.unmountedOrder noFiles).mp order
    rcases ending with ⟨_, rfl⟩ | ⟨name, volume, _, mounted, _, _, _, rfl⟩
    · exact ⟨(ok'.unmountedOrder rfl).mpr order, rfl⟩
    · obtain ⟨existing, bounded⟩ := @FlashOk.mountVolume_order
        ⟨s.info, s.device, s.self.map, newFiles⟩ volume free flash rfl mounted
      refine ⟨ok'.inCreationOrder rfl rfl ?_, rfl⟩
      rw [existing]
      refine ⟨order.names, order.increasing, fun number same file member => ?_⟩
      obtain rfl := Option.some.inj same
      exact bounded file member

section

variable {info : PartInfo} {map : SectorMap} (ok : FilesOk info map files)
  (idle : files.numOpenFiles = 0)

include ok idle

theorem FilesOk.noneOpen (index : Fin 4) : files.openFiles index = none := by
  have counted := ok.counted
  rw [idle, eq_comm, Finset.card_eq_zero, Finset.filter_eq_empty_iff] at counted
  simpa using counted (Finset.mem_univ index)

theorem FilesOk.notWriting : files.fileIsOpenForWriting = false := by
  rw [Bool.eq_false_iff]
  intro writing
  obtain ⟨openFile, index, present, _⟩ := ok.writerFlag.mp writing
  rw [ok.noneOpen idle index] at present
  contradiction

end

theorem SystemOk.unmount (ok : SystemOk s) (order : s.InCreationOrder created)
    (stepped : s.unmount partitionName = .ok (s', reply)) :
    SystemOk s' ∧ s'.InCreationOrder created ∧ s'.info = s.info := by
  unfold System.unmount at stepped
  split at stepped
  case isTrue => cases stepped; exact ⟨ok, order, rfl⟩
  case isFalse ready =>
    split at stepped
    case isTrue => cases stepped; exact ⟨ok, order, rfl⟩
    case isFalse isMounted =>
      obtain ⟨partition, files, readyOk⟩ := ok.ready (isReady_ok (not_not.mp ready))
        (by simpa using isMounted)
      obtain ⟨_, found, stepped⟩ := bind_eq_ok stepped
      obtain rfl : files = _ := by simpa [System.files, readyOk.hasFiles] using found
      split at stepped
      case isTrue => cases stepped; exact ⟨ok, order, rfl⟩
      case isFalse =>
        split at stepped
        case isTrue => cases stepped; exact ⟨ok, order, rfl⟩
        case isFalse open_ =>
          have idle : files.numOpenFiles = 0 := not_not.mp open_
          obtain ⟨⟨middle, result⟩, closed, stepped⟩ := bind_eq_ok stepped
          have partition_eq : s.partition = .ok partition := by
            simp [System.partition, readyOk.isMounted]
          simp only [System.doUnmount, partition_eq, bind, Except.bind] at closed
          split at closed
          case h_1 failure failed =>
            cases closed
            dsimp only at stepped
            rw [if_neg fun isOk : result = .ok =>
              getPartitionName_ne_ok partitionName (isOk ▸ failed)] at stepped
            cases stepped
            exact ⟨ok, order, rfl⟩
          case h_2 name _ =>
            split at closed
            case isFalse =>
              cases closed
              cases stepped
              exact ⟨ok, order, rfl⟩
            case isTrue =>
              simp only [System.partitionClose, readyOk.isMounted, Option.isSome_some, panicFalse,
                if_true, pure, Except.pure] at closed
              cases closed
              dsimp only at stepped
              simp only [if_true, System.freeFilesStructure, System.files, readyOk.hasFiles, bind,
                Except.bind, pure, Except.pure] at stepped
              cases stepped
              have flash := readyOk.volume.flashOk (readyOk.volume.files.notWriting idle)
              have ok' : SystemOk { s with self := { s.self with
                  partition := none
                  files := none
                  map := ⟨[]⟩ } } :=
                .unmounted rfl rfl readyOk.ready readyOk.noWork flash
              refine ⟨ok', (ok'.unmountedOrder rfl).mpr ?_, rfl⟩
              have noWriter (openFile : OpenFile) : ¬ files.Writer openFile := by
                rintro ⟨index, present, _⟩
                rw [readyOk.volume.files.noneOpen idle index] at present
                contradiction
              have order := (readyOk.order order).unmounted
              rw [Rafs.existingFiles, newFile_of_noWriter noWriter, List.append_nil] at order
              exact order

end Calls

section Work

variable {s s' : System} {partition : Partition} {files : FileInfo} {created : List StoredName}

/-- Background work that leaves the files alone -/
structure KeepsFiles (s : System) (files : FileInfo) (s' : System) : Prop where
  files : ∃ allocated, s'.self.files = some { files with scanDirEntryAllocated := allocated }
  tables : SameTables s'.device.cells s.device.cells
  info : s'.info = s.info

theorem finishWork_keeps {device : Device} (same : SameTables device.cells s.device.cells)
    (hasFiles : s.self.files = some files) {cfmTask : Option TaskId}
    {confirmation : TaskId → Confirmation}
    (finished : (({ s with device := device } : System).confirm cfmTask confirmation).finishWork =
      .ok s') : KeepsFiles s files s' := by
  have files_eq : (({ s with device := device } : System).confirm cfmTask confirmation).files =
      .ok files := by
    cases cfmTask <;> simp [System.confirm, System.files, hasFiles]
  simp only [System.finishWork, System.freeScanDirent, files_eq, bind, Except.bind, pure,
    Except.pure] at finished
  cases finished
  cases cfmTask with
  | none => exact ⟨⟨false, rfl⟩, same, rfl⟩
  | some task => exact ⟨⟨false, rfl⟩, same, rfl⟩

theorem Worked.keeps (worked : Worked s s') (hasFiles : s.self.files = some files) :
    KeepsFiles s files s' := by
  obtain ⟨device, same, ⟨cfmTask, confirmation, finished⟩ | ⟨message, rfl, _⟩⟩ := worked
  · exact finishWork_keeps same hasFiles finished
  · exact ⟨⟨files.scanDirEntryAllocated, hasFiles⟩, same, rfl⟩

theorem SystemOk.deliver_order (ok : SystemOk s) (order : s.InCreationOrder created) {index : Nat}
    {reply : Option Reply} (stepped : s.step (.deliver index) = .ok (s', reply)) :
    s'.InCreationOrder created ∧ s'.info = s.info := by
  have ok' := ok.deliver stepped
  rcases ok.deliver_worked stepped with rfl | ⟨partition, files, taken, worked⟩
  · exact ⟨order, rfl⟩
  · obtain ⟨⟨allocated, files'⟩, tables, info'⟩ := worked.keeps taken.hasFiles
    have hasFiles : s.self.files = some files := taken.hasFiles
    refine ⟨?_, info'⟩
    rw [System.InCreationOrder, System.existingFiles, ok'.directoryTable_eq,
      liveFiles_sameTables tables, files']
    rw [System.InCreationOrder, System.existingFiles, ok.directoryTable_eq, hasFiles] at order
    exact order

end Work

section Compact

variable {s s' : System} {created : List StoredName} {reply : Reply} {task : Option TaskId}

inductive CreationOk (s : System) (created : List StoredName) : Prop
  | settled (ok : SystemOk s) (order : s.InCreationOrder created)
  | compacting {partition : Partition} {files : FileInfo} {task : Option TaskId}
      {state : CompactState} (isMounted : s.self.partition = some partition)
      (hasFiles : s.self.files = some files) (info : partition.info = s.info)
      (quiet : Compacting ⟨s.info, s.device, s.self.map, files⟩)
      (phase : PhaseOk ⟨s.info, s.device, s.self.map, files⟩ created state)
      (busy : s.self.busy = true) (work : s.queue = [.compactWork task state])

theorem CreationOk.order (ok : CreationOk s created) : s.InCreationOrder created := by
  cases ok with
  | settled _ order => exact order
  | compacting _ hasFiles _ quiet phase _ work =>
    have order := phase.order quiet
    rw [System.InCreationOrder, System.existingFiles, System.directoryTable, work, hasFiles]
    change CreationOrder (liveFiles s.device.cells _ ++ FileInfo.newFile _) _ _
    rw [newFile_of_noWriter quiet.noWriter, List.append_nil]
    exact order

theorem allocateScanDirent_eq {files : FileInfo} (hasFiles : s.self.files = some files)
    (free : files.scanDirEntryAllocated = false) :
    s.allocateScanDirent = .ok (s.withScan files) := by
  simp [System.allocateScanDirent, System.files, hasFiles, free, panicFalse, bind, Except.bind,
    pure, Except.pure, System.withScan]

/-- `Rafs_Compact` -/
theorem SystemOk.compact (ok : SystemOk s) (order : s.InCreationOrder created)
    (size : s.info.blockSize = directorySize) {partitionName : CString}
    (stepped : s.compact task partitionName = .ok (s', reply)) :
    CreationOk s' created ∧ s'.info = s.info := by
  have unchanged : CreationOk s created := .settled ok order
  unfold System.compact at stepped
  dsimp only at stepped
  split at stepped
  case isTrue => cases stepped; exact ⟨unchanged, rfl⟩
  case isFalse status =>
    obtain ⟨ready, isMounted⟩ := getMountStatus_ok (not_not.mp status)
    obtain ⟨partition, files, readyOk⟩ := ok.ready ready isMounted
    obtain ⟨_, found, stepped⟩ := bind_eq_ok stepped
    obtain rfl : files = _ := by simpa [System.files, readyOk.hasFiles] using found
    split at stepped
    case isTrue => cases stepped; exact ⟨unchanged, rfl⟩
    case isFalse open_ =>
      have idle : files.numOpenFiles = 0 := not_not.mp open_
      split at stepped
      case isTrue => cases stepped; exact ⟨unchanged, rfl⟩
      case isFalse =>
        split at stepped
        case isTrue => cases stepped; exact ⟨unchanged, rfl⟩
        case isFalse =>
          obtain ⟨_, same, stepped⟩ := bind_eq_ok stepped
          rw [@allocateScanDirent_eq _ { files with compactIsNeeded := false } rfl
            readyOk.scan] at same
          cases same
          cases stepped
          have volume : VolumeOk ⟨s.info, s.device, s.self.map, { files with
              compactIsNeeded := false
              scanDirEntryAllocated := true }⟩ :=
            ⟨readyOk.volume.tables, readyOk.volume.mapOk, readyOk.volume.balanced,
              (readyOk.volume.files.setCompactIsNeeded false).setScan true⟩
          have quiet : Compacting ⟨s.info, s.device, s.self.map, { files with
              compactIsNeeded := false
              scanDirEntryAllocated := true }⟩ :=
            ⟨readyOk.volume.files.noneOpen idle, readyOk.volume.files.notWriting idle, idle, rfl,
              readyOk.volume.mapOk, size⟩
          have order := readyOk.order order
          have work (state : CompactState) :
              s.queue ++ [.compactWork task state] = [.compactWork task state] := by
            rw [readyOk.noWork, List.nil_append]
          refine ⟨.compacting readyOk.isMounted rfl readyOk.info quiet ?_ rfl (work _), rfl⟩
          split
          case isTrue => exact SourceOk.of_volumeOk volume quiet order
          case isFalse => exact ⟨volume, order⟩

/-- A phase of the compaction has an action, which goes on to a later state. -/
theorem PhaseOk.acts {volume : Volume} {state : CompactState} (compacting : Compacting volume)
    (phase : PhaseOk volume created state) :
    (state = .sendCompletionMessage ∧ compactWorkerAction volume state = .ok none) ∨
      ∃ volume' next, compactWorkerAction volume state = .ok (some (volume', next)) ∧
        CompactState.sendCompletionMessage.ctorIdx - next.ctorIdx <
          CompactState.sendCompletionMessage.ctorIdx - state.ctorIdx := by
  have scan := compacting.scan
  cases state with
  | sendCompletionMessage => exact .inl ⟨rfl, rfl⟩
  | copyDirentsToBackup =>
    obtain ⟨source, erased, _⟩ := phase
    have increasing := source.order.increasing
    obtain ⟨device, copied, _⟩ :=
      compactWorkerCopyToBackupAction_eq scan source.primary increasing erased
    exact .inr ⟨_, _, by rw [compactWorkerAction, copied]; rfl, by decide⟩
  | copyDirentsToPrimary =>
    have copies : ∃ volume', compactWorkerCopyToPrimaryAction volume = .ok volume' := by
      simp [compactWorkerCopyToPrimaryAction, FileInfo.scanDirEntry, scan, bind, Except.bind,
        pure, Except.pure]
    obtain ⟨volume', copied⟩ := copies
    exact .inr ⟨_, _, by rw [compactWorkerAction, copied]; rfl, by decide⟩
  | _ => exact .inr ⟨_, _, rfl, by decide⟩

theorem CreationOk.deliver {partition : Partition} {files : FileInfo} {state : CompactState}
    (isMounted : s.self.partition = some partition) (hasFiles : s.self.files = some files)
    (info : partition.info = s.info) (quiet : Compacting ⟨s.info, s.device, s.self.map, files⟩)
    (phase : PhaseOk ⟨s.info, s.device, s.self.map, files⟩ created state)
    (busy : s.self.busy = true) (noWork : s.queue = []) :
    ∃ s', s.progressCompactWorker task state = .ok s' ∧
      (CreationOk s' created ∧ s'.info = s.info) ∧ Progress s (.compactWork task state) s' := by
  have volume_eq := volume_eq_ok_of isMounted hasFiles info
  rcases phase.acts quiet with ⟨rfl, acted⟩ | ⟨⟨_, device, map, files'⟩, next, acted, less⟩
  · obtain ⟨volume, order⟩ := phase
    obtain ⟨s', finished, idle, queue, sent⟩ := finishWork_ends hasFiles s.device task
      fun task => .compactComplete task (maxDirEntries - files.freeDirSlot)
    refine ⟨s', ?_, ?_, .ended _ idle queue sent⟩
    · simp only [System.progressCompactWorker, volume_eq, acted, bind, Except.bind]
      exact finished
    · have taken : BusyOk s partition files :=
        ⟨isMounted, hasFiles, info, volume, quiet.scan, busy, noWork⟩
      have ok' := taken.finishWork task _ finished
      obtain ⟨⟨allocated, files'⟩, tables, info'⟩ :=
        @finishWork_keeps s s' files s.device (fun _ _ _ => rfl) hasFiles task _ finished
      refine ⟨.settled ok' ?_, info'⟩
      rw [System.InCreationOrder, System.existingFiles, ok'.directoryTable_eq,
        liveFiles_sameTables tables, files']
      exact order
  · obtain ⟨quiet', phase', sameInfo⟩ := phase.step quiet acted
    obtain rfl : _ = s.info := sameInfo
    have work : s.queue ++ [.compactWork task next] = [.compactWork task next] := by
      rw [noWork, List.nil_append]
    have handled : s.progressCompactWorker task state =
        .ok ((s.setVolume ⟨s.info, device, map, files'⟩).enqueue (.compactWork task next)) := by
      simp only [System.progressCompactWorker, volume_eq, acted, bind, Except.bind]
      rfl
    exact ⟨_, handled, ⟨.compacting isMounted rfl info quiet' phase' busy work, rfl⟩,
      .goesOn (.compactWork task next) rfl rfl rfl less fun _ => rfl⟩

theorem busy_refuses (busy : s.self.busy = true) {event : System.Event}
    (creating : s.isCreationEvent event = true) (call : ∀ index, event ≠ .deliver index)
    {answer : Option Reply} (stepped : s.step event = .ok (s', answer)) :
    s' = s ∧ System.recordFiles created event answer = created := by
  have ready : s.isReady = .busy := by simp [System.isReady, busy]
  have status (name : CString) : s.getMountStatus name = .busy := by
    simp [System.getMountStatus, ready]
  have validate (fileId : FileId) : s.validateFileIdentifier fileId = .ok .busy := by
    simp [System.validateFileIdentifier, ready, pure, Except.pure]
  have refused {outcome : Except Fault (System × Reply)}
      (same : outcome = .ok (s, { result := .busy }))
      (stepped : System.step.reply outcome = .ok (s', answer)) :
      s' = s ∧ System.recordFiles created event answer = created := by
    subst same
    cases stepped
    exact ⟨rfl, recordFiles_failed (by decide)⟩
  cases event with
  | deliver index => exact absurd rfl (call index)
  | mount task partitionName =>
    exact refused (by simp [System.mount, ready, pure, Except.pure]) stepped
  | unmount partitionName =>
    exact refused (by simp [System.unmount, ready, pure, Except.pure]) stepped
  | open_ task pathname flags =>
    exact refused (by simp [System.open_, status, pure, Except.pure]) stepped
  | close fileId =>
    exact refused (by simp [System.close, validate, bind, Except.bind, pure, Except.pure]) stepped
  | write fileId buf numBytes =>
    exact refused (by simp [System.write, validate, bind, Except.bind, pure, Except.pure]) stepped
  | remove task pathname =>
    exact refused (by simp [System.remove, status, pure, Except.pure]) stepped
  | compact task partitionName =>
    exact refused (by simp [System.compact, status, pure, Except.pure]) stepped
  | idleTimeout appIsIdle =>
    have compact (task : Option TaskId) (name : CString) :
        s.compact task name = .ok (s, { result := .busy }) := by
      simp [System.compact, status, pure, Except.pure]
    obtain ⟨next, idle, final⟩ := bind_eq_ok stepped
    cases final
    unfold System.idleTimeout at idle
    split at idle
    · cases idle
      exact ⟨rfl, rfl⟩
    · split at idle
      · obtain ⟨_, compacted, final⟩ := bind_eq_ok idle
        rw [compact] at compacted
        cases compacted
        cases final
        exact ⟨rfl, rfl⟩
      · cases idle
        exact ⟨rfl, rfl⟩
  | _ => contradiction

variable {event : System.Event} {answer : Option Reply}

theorem SystemOk.creationStep (ok : SystemOk s) (order : s.InCreationOrder created)
    (size : s.info.blockSize = directorySize) (creating : s.isCreationEvent event = true)
    (counts : s.countsOn event = true) (stepped : s.step event = .ok (s', answer)) :
    CreationOk s' (System.recordFiles created event answer) ∧ s'.info = s.info := by
  cases event with
  | mount task partitionName =>
    obtain ⟨_, mounted⟩ := reply_eq_ok stepped
    obtain ⟨order', info⟩ := ok.mount_order order mounted
    exact ⟨.settled (ok.mount mounted) order', info⟩
  | unmount partitionName =>
    obtain ⟨_, unmounted⟩ := reply_eq_ok stepped
    obtain ⟨ok', order', info⟩ := ok.unmount order unmounted
    exact ⟨.settled ok' order', info⟩
  | open_ task pathname flags =>
    obtain ⟨⟨next, reply⟩, opened, final⟩ := bind_eq_ok stepped
    cases final
    obtain ⟨order', info⟩ := ok.open_order order counts opened
    exact ⟨.settled (ok.open_ opened) order', info⟩
  | write fileId buf numBytes =>
    obtain ⟨_, written⟩ := reply_eq_ok stepped
    obtain ⟨ok', order', info⟩ := ok.write_order order creating written
    exact ⟨.settled ok' order', info⟩
  | close fileId =>
    obtain ⟨_, closed⟩ := reply_eq_ok stepped
    obtain ⟨order', info⟩ := ok.close_order order closed
    exact ⟨.settled (ok.close closed) order', info⟩
  | remove task pathname =>
    obtain ⟨⟨next, reply⟩, removed, final⟩ := bind_eq_ok stepped
    cases final
    obtain ⟨order', info⟩ := ok.remove_order order removed
    exact ⟨.settled (ok.remove removed) order', info⟩
  | compact task partitionName =>
    obtain ⟨_, compacted⟩ := reply_eq_ok stepped
    exact ok.compact order size compacted
  | deliver index =>
    obtain ⟨order', info⟩ := ok.deliver_order order stepped
    exact ⟨.settled (ok.deliver stepped) order', info⟩
  | idleTimeout appIsIdle =>
    obtain ⟨next, idle, final⟩ := bind_eq_ok stepped
    cases final
    unfold System.idleTimeout at idle
    split at idle
    · cases idle
      exact ⟨.settled ok order, rfl⟩
    · split at idle
      · obtain ⟨⟨next, reply⟩, compacted, final⟩ := bind_eq_ok idle
        cases final
        exact ok.compact order size compacted
      · cases idle
        exact ⟨.settled ok order, rfl⟩
  | _ => contradiction

theorem CreationOk.step (ok : CreationOk s created) (size : s.info.blockSize = directorySize)
    (creating : s.isCreationEvent event = true) (counts : s.countsOn event = true)
    (stepped : s.step event = .ok (s', answer)) :
    CreationOk s' (System.recordFiles created event answer) ∧ s'.info = s.info := by
  cases ok with
  | settled ok order => exact ok.creationStep order size creating counts stepped
  | compacting isMounted hasFiles info quiet phase busy work =>
    have unchanged : CreationOk s created :=
      .compacting isMounted hasFiles info quiet phase busy work
    by_cases call : ∀ index, event ≠ .deliver index
    · obtain ⟨rfl, same⟩ := @busy_refuses s s' created busy event creating call answer stepped
      rw [same]
      exact ⟨unchanged, rfl⟩
    · push Not at call
      obtain ⟨index, rfl⟩ := call
      unfold System.step at stepped
      dsimp only at stepped
      split at stepped
      case h_1 => cases stepped; exact ⟨unchanged, rfl⟩
      case h_2 message queued =>
        obtain ⟨next, handled, final⟩ := bind_eq_ok stepped
        cases final
        rw [work] at queued handled
        cases index with
        | succ index => contradiction
        | zero =>
          cases queued
          obtain ⟨_, done, kept, _⟩ := @CreationOk.deliver { s with queue := [] } created _ _ _ _
            isMounted hasFiles info quiet phase busy rfl
          cases done.symm.trans handled
          exact kept

end Compact

section Runs

variable {info : PartInfo} {cells : Cells} {free : Nat}

/-- The events of a run, with the condition that keeps the sequence counts in order -/
def CreationStep (state : System × List StoredName) (event : System.Event) : Prop :=
  state.1.isCreationEvent event = true ∧ state.1.countsOn event = true

instance (state : System × List StoredName) (event : System.Event) :
    Decidable (CreationStep state event) :=
  inferInstanceAs (Decidable (_ ∧ _))

/-- In every run from a partition whose files are in order, in which the counter does not
overflow while files exist, the files stay in the order of their creation. -/
theorem reached_inCreationOrder (size : info.blockSize = directorySize)
    (flash : FlashOk info cells free)
    (increasing : ((liveFiles cells .priFat).map Prod.snd).Pairwise (· < ·))
    {state : System × List StoredName}
    (reached : Reached System.creationStep CreationStep
      (System.init info cells, (liveFiles cells .priFat).map Prod.fst) state) :
    state.1.InCreationOrder state.2 := by
  have start : SystemOk (System.init info cells) := .unmounted rfl rfl rfl rfl flash
  have invariant : CreationOk state.1 state.2 ∧ state.1.info = info := by
    refine @Reached.invariant _ _ _ _ _ _ (fun state : System × List StoredName =>
      CreationOk state.1 state.2 ∧ state.1.info = info) reached
      ⟨.settled start ((start.unmountedOrder rfl).mpr ?_), rfl⟩ ?_
    · exact ⟨rfl, increasing, fun _ none => absurd none (by simp)⟩
    · rintro ⟨s, created⟩ event next ⟨creating, counts⟩ steps ⟨ok, sameInfo⟩
      unfold System.creationStep at steps
      split at steps
      · contradiction
      · rename_i s' answer stepped
        cases steps
        obtain ⟨ok', info'⟩ := ok.step (by rw [sameInfo]; exact size) creating counts stepped
        exact ⟨ok', info'.trans sameInfo⟩
  exact invariant.1.order

theorem formatted_liveFiles (info : PartInfo) (cells : Cells) :
    liveFiles (formattedCells info cells) .priFat = [] :=
  filesIn_eq_nil fun _ positive inTable =>
    isValidEntry_of_erased (formatted_erased info cells .priFat positive inTable)

theorem formatted_inCreationOrder : ∃ state,
    runAllowed System.creationStep CreationStep fillPartition
        (System.init smallPartition (formattedCells smallPartition fun _ => 0),
          (liveFiles (formattedCells smallPartition fun _ => 0) .priFat).map Prod.fst) =
          some state ∧ state.1.InCreationOrder state.2 := by
  have runs : (runAllowed System.creationStep CreationStep fillPartition
      (System.init smallPartition (formattedCells smallPartition fun _ => 0),
        (liveFiles (formattedCells smallPartition fun _ => 0) .priFat).map Prod.fst)).isSome =
        true := by
    decide +kernel
  obtain ⟨state, ran⟩ := Option.isSome_iff_exists.mp runs
  refine ⟨state, ran, reached_inCreationOrder rfl (formatted_flashOk smallPartition _) ?_
    (Reached.start.run ran)⟩
  rw [formatted_liveFiles]
  exact List.Pairwise.nil

end Runs

/-- The empty file `B`, created when the counter stood one below its last value -/
def lastCounted : DirEntry :=
  { makeNewDirEntryForFilename ⟨[0x42], by decide⟩ ⟨2, 0⟩ with
    statCounters := ⟨65535, initialAccess⟩ }

/-- A partition that holds that file only: all files created before were removed. -/
def wornCells : Cells :=
  (dirEntryWrite (dirEntryWrite
    (Device.observe (formattedCells smallPartition fun _ => 0)) .priFat lastCounted 1)
    .secFat lastCounted 1).cells

theorem lastCounted_closed : ClosedEntry smallPartition lastCounted where
  named := by decide
  extents := by
    refine ⟨0, ⟨?_, fun later => absurd later (by decide), ?_⟩, fun later =>
      absurd later (by decide), Nat.zero_le _⟩
    · intro inode first
      obtain rfl : inode = 0 := Fin.le_zero_iff.mp first
      decide
    · intro inode later
      match inode with
      | 0 => exact absurd later (by decide)
      | 1 => rfl
      | 2 => rfl

theorem wornCells_written : WrittenBoth (formattedCells smallPartition fun _ => 0) wornCells 1
    lastCounted :=
  writtenBoth_entry (by decide)
    (DirEntry.accepts_of_erased (formatted_erased _ _ .priFat (by decide) (by decide)) _)
    (DirEntry.accepts_of_erased (formatted_erased _ _ .secFat (by decide) (by decide)) _)

theorem wornCells_flashOk : FlashOk smallPartition wornCells 2 := by
  have formatted := (formatted_flashOk smallPartition fun _ => 0).tables
  have reserved : Tables smallPartition _ 2 fun slot => slot = 1 :=
    formatted.reserve (by decide) fun slot => by simp
  have tables : Tables smallPartition wornCells 2 fun _ => False :=
    reserved.write wornCells_written (by decide) (by decide) id
      (fun other different => by simp [different]) (Or.inr lastCounted_closed)
  refine ⟨tables, ?_⟩
  rintro ⟨slot, inode⟩ second block ⟨positive, inTable, live, covers, _⟩
  have below := (tables.closed positive inTable live).1
  obtain rfl : slot = 1 := by omega
  rw [wornCells_written.here] at covers
  have uncovered : ∀ inode, isValidInode (lastCounted.inodes inode) = false := by decide
  rw [uncovered inode] at covers
  contradiction

theorem wornCells_liveFiles : liveFiles wornCells .priFat = [lastCounted.stamp] := by
  have erased (first count : Nat) (positive : 1 ≤ first) (within : first + count ≤ 113) :
      filesIn (formattedCells smallPartition fun _ => 0) .priFat first count = [] :=
    filesIn_eq_nil fun slot lower upper =>
      isValidEntry_of_erased (formatted_erased _ _ .priFat (by omega) (by omega))
  rw [liveFiles_written wornCells_written (by decide) (by decide), erased 1 _ (by decide)
    (by decide), erased 2 _ (by decide) (by decide), if_pos lastCounted_closed.isValidEntry]
  rfl

/-- The next file gets sequence count zero. -/
theorem counter_overflow_disorders : ∃ cells free events state, FlashOk smallPartition cells free ∧
      ((liveFiles cells .priFat).map Prod.snd).Pairwise (· < ·) ∧
      runAllowed System.creationStep (fun state event => state.1.isCreationEvent event = true)
        events (System.init smallPartition cells, (liveFiles cells .priFat).map Prod.fst) =
          some state ∧
      ¬ state.1.InCreationOrder state.2 := by
  have runs : (runAllowed System.creationStep
      (fun state event => state.1.isCreationEvent event = true)
      [.mount none ⟨[0x2F], by decide⟩, .deliver 0, .deliver 0, .open_ none pathA .wronly]
      (System.init smallPartition wornCells, (liveFiles wornCells .priFat).map Prod.fst)).any
        (fun state => state.1.existingFiles.map Prod.snd == [65535, 0]) = true := by
    decide +kernel
  obtain ⟨state, ran, counts⟩ := (Option.any_eq_true _ _).mp runs
  refine ⟨wornCells, 2, _, state, wornCells_flashOk, ?_, ran, fun order => ?_⟩
  · rw [wornCells_liveFiles]
    exact List.pairwise_singleton _ _
  · have increasing := order.increasing
    rw [beq_iff_eq.mp counts] at increasing
    exact absurd increasing (by decide)

end HeadsetAdk.Rafs
