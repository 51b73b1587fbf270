import HeadsetAdk.Lib.Outcomes
import HeadsetAdk.Rafs.Api
import HeadsetAdk.Rafs.Mounting

/-! # Space accounting over runs -/

namespace HeadsetAdk.Rafs

open NorFlash BlockAccounts

/-- The flash of a partition that `Rafs_Format` has just formatted. -/
def formattedCells (info : PartInfo) (cells : Cells) : Cells :=
  (doFormat info (Device.observe cells)).cells

theorem mul32_blockSize (info : PartInfo) (id : BlockId) :
    mul32 id.block info.blockSize = id.block * info.blockSize := by
  have size := info.sizeFits
  have blocks : info.numBlocks * info.blockSize ≤ info.partitionSize := numBlocks_mul_le info
  have tables : 2 ≤ info.numBlocks := info.tablesFit
  have within := Nat.mul_le_mul_right info.blockSize tables
  cases id <;> exact mul32_eq (by simp only [BlockId.block]; omega)

theorem erasedTables {info : PartInfo} {cells : Cells} (id : BlockId) {slot : Nat}
    (inTable : slot < 113) :
    isErasedEntry (entryAt
      ((Op.erase (mul32 BlockId.secFat.block info.blockSize) info.blockSize).apply
        ((Op.erase (mul32 BlockId.priFat.block info.blockSize) info.blockSize).apply cells))
      id slot) = true := by
  have directory := info.directoryFits
  have ends := slotOffset_end_le id inTable
  rw [isErasedEntry_entryAt, mul32_blockSize, mul32_blockSize]
  simp only [BlockId.block, Nat.zero_mul, Nat.one_mul]
  intro index inside
  by_cases second : info.blockSize ≤ slotOffset id slot + index
  · exact erase_apply_inside second (by omega)
  · rw [erase_apply_outside (by omega)]
    exact erase_apply_inside (Nat.zero_le _) (by omega)

theorem formatted_root (info : PartInfo) (cells : Cells) (id : BlockId) :
    entryAt (formattedCells info cells) id 0 = getInitialRoot id := by
  have erased := fun id => @erasedTables info cells id 0 (by decide)
  unfold formattedCells doFormat writeRootDirent
  cases id with
  | priFat =>
    refine (entryAt_dirEntryWrite_other (by decide) (by decide) (by decide)).trans ?_
    exact entryAt_dirEntryWrite (DirEntry.accepts_of_erased (erased .priFat) _)
  | secFat =>
    refine entryAt_dirEntryWrite ?_
    have kept := @entryAt_dirEntryWrite_other
      (((Device.observe cells).erase (mul32 BlockId.priFat.block info.blockSize)
        info.blockSize).erase (mul32 BlockId.secFat.block info.blockSize) info.blockSize)
      .priFat .secFat rootDirentNumber 0 (getInitialRoot .priFat) (by decide) (by decide)
      (by decide)
    intro index inside
    exact (congrArg (fun entry => entry.byte index &&& _) kept).trans
      (DirEntry.accepts_of_erased (erased .secFat) _ index inside)

theorem formatted_erased (info : PartInfo) (cells : Cells) (id : BlockId) {slot : Nat}
    (positive : 1 ≤ slot) (inTable : slot < 113) :
    isErasedEntry (entryAt (formattedCells info cells) id slot) = true := by
  have erased := @erasedTables info cells id slot inTable
  have different : ∀ other : BlockId, ¬ (id = other ∧ slot = rootDirentNumber) := by
    rintro other ⟨_, zero⟩
    simp only [rootDirentNumber] at zero
    omega
  unfold formattedCells doFormat writeRootDirent
  rw [entryAt_dirEntryWrite_other (by decide) inTable (different .secFat),
    entryAt_dirEntryWrite_other (by decide) inTable (different .priFat)]
  exact erased

theorem formatted_flashOk (info : PartInfo) (cells : Cells) :
    FlashOk info (formattedCells info cells) 1 where
  tables :=
    { roots := formatted_root info cells
      freeRange := by decide
      mirrored := fun slot positive inTable =>
        erased_unique (formatted_erased info cells .secFat positive inTable)
          (formatted_erased info cells .priFat positive inTable)
      used := by
        intro slot positive before
        omega
      erased := fun slot positive inTable _ =>
        formatted_erased info cells .priFat positive inTable }
  disjoint := by
    rintro first second block ⟨positive, inTable, live, _⟩
    rw [isValidEntry_of_erased (formatted_erased info cells .priFat positive inTable)] at live
    contradiction

section Systems

variable {s s' : System} {partition : Partition} {files : FileInfo} {task : Option TaskId}
  {reply : Reply} {fileId : FileId}

def WorkOk (info : PartInfo) : WorkMessage → Prop
  | .removeWork work => ∀ inode ∈ work.inodes, Erasable info inode
  | .mountWork _ _ => True
  | .compactWork _ _ => False
  | .writeWork _ _ _ => False

def QueueOk (info : PartInfo) (busy : Bool) (queue : List WorkMessage) : Prop :=
  if busy then ∃ message, queue = [message] ∧ WorkOk info message else queue = []

/-- The invariant of a system that only mounts, opens, writes, closes and
removes. -/
inductive SystemOk (s : System) : Prop
  | unmounted {free : Nat} (notMounted : s.self.partition = none) (noFiles : s.self.files = none)
      (ready : s.self.busy = false) (noWork : s.queue = [])
      (flash : FlashOk s.info s.device.cells free)
  | mounted {partition : Partition} {files : FileInfo}
      (isMounted : s.self.partition = some partition) (hasFiles : s.self.files = some files)
      (info : partition.info = s.info)
      (volume : VolumeOk ⟨s.info, s.device, s.self.map, files⟩)
      (scan : files.scanDirEntryAllocated = s.self.busy)
      (work : QueueOk s.info s.self.busy s.queue)

theorem getMountStatus_ok {name : CString} (ready : s.getMountStatus name = .ok) :
    s.self.busy = false ∧ s.self.partition ≠ none := by
  unfold System.getMountStatus System.isReady at ready
  cases busy : s.self.busy with
  | true => simp [busy] at ready
  | false =>
    refine ⟨rfl, ?_⟩
    intro none
    simp [busy, none] at ready

theorem isReady_ok (ready : s.isReady = .ok) : s.self.busy = false := by
  unfold System.isReady at ready
  cases busy : s.self.busy with
  | true => simp [busy] at ready
  | false => rfl

structure ReadyOk (s : System) (partition : Partition) (files : FileInfo) : Prop where
  isMounted : s.self.partition = some partition
  hasFiles : s.self.files = some files
  info : partition.info = s.info
  volume : VolumeOk ⟨s.info, s.device, s.self.map, files⟩
  scan : files.scanDirEntryAllocated = false
  ready : s.self.busy = false
  noWork : s.queue = []

theorem SystemOk.ready (ok : SystemOk s) (ready : s.self.busy = false)
    (isMounted : s.self.partition ≠ none) : ∃ partition files, ReadyOk s partition files := by
  cases ok with
  | unmounted notMounted => contradiction
  | mounted isMounted hasFiles info volume scan work =>
    rw [ready] at scan work
    exact ⟨_, _, isMounted, hasFiles, info, volume, scan, ready, work⟩

theorem SystemOk.noWork (ok : SystemOk s) (ready : s.self.busy = false) : s.queue = [] := by
  cases ok with
  | unmounted _ _ _ noWork => exact noWork
  | mounted _ _ _ _ _ work =>
    rw [ready] at work
    exact work

theorem ReadyOk.systemOk (ok : ReadyOk s partition files) : SystemOk s :=
  .mounted ok.isMounted ok.hasFiles ok.info ok.volume (ok.scan.trans ok.ready.symm) (by
    rw [ok.ready]
    exact ok.noWork)

theorem volume_eq_ok_of (isMounted : s.self.partition = some partition)
    (hasFiles : s.self.files = some files) (info : partition.info = s.info) :
    s.volume = .ok ⟨s.info, s.device, s.self.map, files⟩ := by
  simp [System.volume, System.files, System.partition, isMounted, hasFiles, info, bind,
    Except.bind, pure, Except.pure]

theorem ReadyOk.volume_eq (ok : ReadyOk s partition files) :
    s.volume = .ok ⟨s.info, s.device, s.self.map, files⟩ :=
  volume_eq_ok_of ok.isMounted ok.hasFiles ok.info

theorem FilesOk.setScan {info : PartInfo} {map : SectorMap}
    (ok : FilesOk info map files) (allocated : Bool) :
    FilesOk info map { files with scanDirEntryAllocated := allocated } :=
  { ok with }

variable {volume : Volume} {pathname partitionName : CString} {flags : RafsMode}

theorem VolumeOk.setScan (ok : VolumeOk volume) (allocated : Bool) :
    VolumeOk { volume with
      files := { volume.files with scanDirEntryAllocated := allocated } } :=
  ⟨ok.tables, ok.mapOk, ok.balanced, ok.files.setScan allocated⟩

def System.withScan (s : System) (files : FileInfo) : System :=
  s.setFiles { files with scanDirEntryAllocated := true }

theorem ReadyOk.allocateScanDirent
    (ok : ReadyOk s partition files) : s.allocateScanDirent = .ok (s.withScan files) := by
  simp [System.allocateScanDirent, System.files, ok.hasFiles, ok.scan, panicFalse, bind,
    Except.bind, pure, Except.pure, System.withScan]

theorem ReadyOk.withScan_volume (ok : ReadyOk s partition files) : (s.withScan files).volume =
      .ok ⟨s.info, s.device, s.self.map, { files with scanDirEntryAllocated := true }⟩ := by
  simp [System.withScan, System.setFiles, System.volume, System.files, System.partition,
    ok.isMounted, ok.info, bind, Except.bind, pure, Except.pure]

theorem ReadyOk.setVolume (ok : ReadyOk s partition files) (volumeOk : VolumeOk volume)
    (info : volume.info = s.info) (scan : volume.files.scanDirEntryAllocated = false) :
    ReadyOk (s.setVolume volume) partition volume.files := by
  refine ⟨ok.isMounted, rfl, ok.info, ?_, scan, ok.ready, ok.noWork⟩
  obtain ⟨_, device, map, files'⟩ := volume
  subst info
  exact volumeOk

theorem freeScanDirent_setVolume (s : System) (volume : Volume) :
    (s.setVolume volume).freeScanDirent = .ok (s.setVolume
      { volume with files := { volume.files with scanDirEntryAllocated := false } }) :=
  rfl

theorem getPathnameComponent_ne_ok (path : CString) (len field : Nat) :
    getPathnameComponent path len field ≠ .error .ok := by
  intro failed
  unfold getPathnameComponent at failed
  split at failed
  · contradiction
  · dsimp only at failed
    split at failed <;> contradiction

theorem getFilename_ne_ok (path : CString) : getFilename path ≠ .error .ok :=
  getPathnameComponent_ne_ok path rafsMaxFilelen 1

theorem getPartitionName_ne_ok (path : CString) : getPartitionName path ≠ .error .ok :=
  getPathnameComponent_ne_ok path rafsMountpointLen 0

section

variable (ok : SystemOk s) (stepped : s.open_ task pathname flags = .ok (s', reply))

include ok stepped

/-- What `Rafs_Open` does: it refuses, or opens the file with the scan entry allocated. -/
theorem SystemOk.open_cases :
    (s' = s ∧ reply.result ≠ .ok) ∨ ∃ partition files filename volume index,
      ReadyOk s partition files ∧ getFilename pathname = .ok filename ∧
        isValidFilename filename = .ok ∧
        doOpen ⟨s.info, s.device, s.self.map, { files with scanDirEntryAllocated := true }⟩ task
          filename flags = .ok (volume, reply.result, index) ∧
        VolumeOk volume ∧ volume.info = s.info ∧ s' = s.setVolume { volume with
          files := { volume.files with scanDirEntryAllocated := false } } := by
  unfold System.open_ at stepped
  dsimp only at stepped
  split at stepped
  case isTrue refused => cases stepped; exact .inl ⟨rfl, refused⟩
  case isFalse status =>
    obtain ⟨ready, isMounted⟩ := getMountStatus_ok (not_not.mp status)
    obtain ⟨partition, files, readyOk⟩ := ok.ready ready isMounted
    split at stepped
    case h_1 result failed =>
      cases stepped
      exact .inl ⟨rfl, fun isOk : result = .ok => getFilename_ne_ok pathname (isOk ▸ failed)⟩
    case h_2 filename named =>
      split at stepped
      case isTrue invalid => cases stepped; exact .inl ⟨rfl, invalid⟩
      case isFalse valid =>
        obtain ⟨volume, result, index, opened, volumeOk, info, scan⟩ :=
          (readyOk.volume.setScan true).doOpen rfl (not_not.mp valid) task flags
        simp only [readyOk.allocateScanDirent, readyOk.withScan_volume, opened, bind, Except.bind,
          freeScanDirent_setVolume, pure, Except.pure] at stepped
        cases stepped
        exact .inr ⟨partition, files, filename, volume, index, readyOk, named, not_not.mp valid,
          opened, volumeOk, info, rfl⟩

/-- `Rafs_Open` keeps the invariant. -/
theorem SystemOk.open_ : SystemOk s' := by
  rcases ok.open_cases stepped with
    ⟨rfl, _⟩ | ⟨_, _, _, _, _, readyOk, _, _, _, volumeOk, info, rfl⟩
  · exact ok
  · exact (readyOk.setVolume (volumeOk.setScan false) info rfl).systemOk

end

theorem validateFileIdentifier_ok (valid : s.validateFileIdentifier fileId = .ok .ok) :
    s.self.busy = false ∧ ∃ files index openFile, s.self.files = some files ∧
      findOpenFileInstanceById files fileId = some (index, openFile) := by
  unfold System.validateFileIdentifier at valid
  split at valid
  case isTrue notReady =>
    exact absurd (Except.ok.inj valid) notReady
  case isFalse ready =>
    refine ⟨isReady_ok (not_not.mp ready), ?_⟩
    split at valid
    case h_1 => contradiction
    case h_2 index inRange =>
      obtain ⟨files, hasFiles, checked⟩ := bind_eq_ok valid
      have present : s.self.files = some files := by
        unfold System.files at hasFiles
        split at hasFiles
        · contradiction
        · rename_i stored
          rw [stored, Except.ok.inj hasFiles]
      cases stored : files.openFiles index with
      | none =>
        rw [stored] at checked
        exact absurd (Except.ok.inj checked) (by decide)
      | some openFile =>
        refine ⟨files, index, openFile, present, ?_⟩
        simp [findOpenFileInstanceById, inRange, stored]

theorem validated_cases {call : Except Fault (System × Reply)}
    (stepped : (s.validateFileIdentifier fileId >>= fun valid =>
      if valid ≠ RafsErrors.ok then .ok (s, { result := valid }) else call) = .ok (s', reply)) :
    s' = s ∨ s.validateFileIdentifier fileId = .ok .ok ∧ call = .ok (s', reply) := by
  obtain ⟨valid, validated, stepped⟩ := bind_eq_ok stepped
  split at stepped
  · cases stepped
    exact .inl rfl
  · next isValid =>
      rw [not_not.mp isValid] at validated
      exact .inr ⟨validated, stepped⟩

theorem SystemOk.readyOfFile (ok : SystemOk s) (valid : s.validateFileIdentifier fileId = .ok .ok) :
    ∃ partition files, ReadyOk s partition files := by
  obtain ⟨ready, files, _, _, hasFiles, _⟩ := validateFileIdentifier_ok valid
  cases ok with
  | unmounted _ noFiles =>
    rw [noFiles] at hasFiles
    contradiction
  | mounted isMounted hasFiles info volume scan work =>
    rw [ready] at scan work
    exact ⟨_, _, isMounted, hasFiles, info, volume, scan, ready, work⟩

/-- `Rafs_Close` keeps the invariant. -/
theorem SystemOk.close (ok : SystemOk s) (stepped : s.close fileId = .ok (s', reply)) :
    SystemOk s' := by
  rcases validated_cases stepped with rfl | ⟨validated, stepped⟩
  · exact ok
  · obtain ⟨partition, files, readyOk⟩ := ok.readyOfFile validated
    obtain ⟨volume', closed, volumeOk, info, scan⟩ := readyOk.volume.doClose fileId
    simp only [readyOk.volume_eq, closed, bind, Except.bind, pure, Except.pure] at stepped
    cases stepped
    exact (readyOk.setVolume volumeOk info (scan.trans readyOk.scan)).systemOk

def KeepsExtent (s : System) (fileId : FileId) (numBytes : Nat) : Prop :=
  ∀ files index openFile, s.self.files = some files →
    findOpenFileInstanceById files fileId = some (index, openFile) →
      openFile.flags = .rdonly → StaysInExtent s.info openFile numBytes

/-- `Rafs_Write` keeps the invariant. -/
theorem SystemOk.write (ok : SystemOk s) {buf : Nat → UInt8}
    {numBytes : Nat} (keeps : KeepsExtent s fileId numBytes)
    (stepped : s.write fileId buf numBytes = .ok (s', reply)) : SystemOk s' := by
  rcases validated_cases stepped with rfl | ⟨validated, stepped⟩
  · exact ok
  · obtain ⟨partition, files, readyOk⟩ := ok.readyOfFile validated
    obtain ⟨volume', result, count, written, volumeOk, info, scan⟩ :=
      readyOk.volume.doWrite fileId buf numBytes fun index openFile =>
        keeps files index openFile readyOk.hasFiles
    simp only [readyOk.volume_eq, written, bind, Except.bind, pure, Except.pure] at stepped
    cases stepped
    exact (readyOk.setVolume volumeOk info (scan.trans readyOk.scan)).systemOk

/-- What `Rafs_Remove` does: it refuses, removes the file, or leaves its extents to the
background. -/
theorem SystemOk.remove_cases (ok : SystemOk s) {pathname : CString}
    (stepped : s.remove task pathname = .ok (s', reply)) :
    (s' = s ∧ reply.result ≠ .ok) ∨ ∃ partition files filename volume work,
      ReadyOk s partition files ∧ getFilename pathname = .ok filename ∧
        doRemove ⟨s.info, s.device, s.self.map, { files with scanDirEntryAllocated := true }⟩ task
          filename = .ok (volume, reply.result, work) ∧
        VolumeOk volume ∧ volume.info = s.info ∧ volume.files.scanDirEntryAllocated = true ∧
        ((work = none ∧ s' = s.setVolume { volume with
            files := { volume.files with scanDirEntryAllocated := false } }) ∨
          ∃ remaining, work = some remaining ∧ WorkOk s.info (.removeWork remaining) ∧
            s' = ({ s.setVolume volume with
              self := { (s.setVolume volume).self with busy := true } } : System).enqueue
                (.removeWork remaining)) := by
  unfold System.remove at stepped
  dsimp only at stepped
  split at stepped
  case isTrue refused => cases stepped; exact .inl ⟨rfl, refused⟩
  case isFalse status =>
    obtain ⟨ready, isMounted⟩ := getMountStatus_ok (not_not.mp status)
    obtain ⟨partition, files, readyOk⟩ := ok.ready ready isMounted
    split at stepped
    case h_1 result failed =>
      cases stepped
      exact .inl ⟨rfl, fun isOk : result = .ok => getFilename_ne_ok pathname (isOk ▸ failed)⟩
    case h_2 filename named =>
      have files_eq : s.files = .ok files := by simp [System.files, readyOk.hasFiles]
      simp only [files_eq, bind, Except.bind] at stepped
      split at stepped
      case isTrue => cases stepped; exact .inl ⟨rfl, by decide⟩
      case isFalse =>
        obtain ⟨volume, result, work, removed, volumeOk, info, scan, erasable⟩ :=
          (readyOk.volume.setScan true).doRemove rfl task filename
        simp only [readyOk.allocateScanDirent, readyOk.withScan_volume, removed] at stepped
        cases work with
        | none =>
          simp only [freeScanDirent_setVolume, pure, Except.pure] at stepped
          cases stepped
          exact .inr ⟨partition, files, filename, volume, none, readyOk, named, removed, volumeOk,
            info, scan, .inl ⟨rfl, rfl⟩⟩
        | some work =>
          cases stepped
          exact .inr ⟨partition, files, filename, volume, work, readyOk, named, removed, volumeOk,
            info, scan, .inr ⟨work, rfl, erasable work rfl, rfl⟩⟩

/-- `Rafs_Remove` keeps the invariant. -/
theorem SystemOk.remove (ok : SystemOk s) (stepped : s.remove task pathname = .ok (s', reply)) :
    SystemOk s' := by
  rcases ok.remove_cases stepped with ⟨rfl, _⟩ |
    ⟨_, _, _, volume, _, readyOk, _, _, volumeOk, info, scan, ⟨_, rfl⟩ | ⟨work, _, workOk, rfl⟩⟩
  · exact ok
  · exact (readyOk.setVolume (volumeOk.setScan false) info rfl).systemOk
  · obtain ⟨_, device, map, files⟩ := volume
    subst info
    refine .mounted readyOk.isMounted rfl readyOk.info volumeOk scan ?_
    exact ⟨.removeWork work, by
      change s.queue ++ _ = _
      rw [readyOk.noWork, List.nil_append], workOk⟩

theorem partitionOpen_cases (notMounted : s.self.partition = none) (partitionName : CString) :
    (∃ result, s.partitionOpen partitionName = .ok (s, result) ∧ result ≠ .ok) ∨
      ∃ name, s.partitionOpen partitionName =
        .ok ({ s with self := { s.self with partition := some ⟨s.info, name⟩ } }, .ok) := by
  unfold System.partitionOpen
  simp only [notMounted, Option.isNone_none, panicFalse, if_true, bind, Except.bind]
  split
  case h_1 result refused =>
    refine Or.inl ⟨result, rfl, ?_⟩
    rintro rfl
    split at refused
    · exact getPartitionName_ne_ok _ refused
    · contradiction
  case h_2 name _ => exact Or.inr ⟨name, rfl⟩

theorem FlashOk.doMount {free : Nat} (flash : FlashOk s.info s.device.cells free)
    (notMounted : s.self.partition = none) (files : s.self.files = some newFiles)
    (partitionName : CString) :
    (∃ result, s.doMount partitionName = .ok (s, result) ∧ result ≠ .ok) ∨
      ∃ name volume, s.doMount partitionName =
          .ok ({ s with self := { s.self with partition := some ⟨s.info, name⟩ } }.setVolume volume,
            .ok) ∧
        mountVolume ⟨s.info, s.device, s.self.map, newFiles⟩ = .ok (volume, .ok) ∧
          VolumeOk volume ∧ volume.info = s.info ∧
          volume.files.scanDirEntryAllocated = true := by
  rcases partitionOpen_cases notMounted partitionName with ⟨result, refused, notOk⟩ | ⟨name, opened⟩
  · refine Or.inl ⟨result, ?_, notOk⟩
    simp only [System.doMount, refused, bind, Except.bind]
    rw [if_pos notOk]
    rfl
  · obtain ⟨volume, mounted, from_, volumeOk, _⟩ :=
      @Recoverable.mountVolume ⟨s.info, s.device, s.self.map, newFiles⟩ free flash.recoverable rfl
    obtain ⟨_, filesEq⟩ := from_.files
    refine Or.inr ⟨name, volume, ?_, mounted, volumeOk, from_.info, by rw [filesEq]; rfl⟩
    simp only [System.doMount, opened, System.volume, System.files, System.partition, files,
      mounted, bind, Except.bind, pure, Except.pure]
    simp [System.setVolume]

section

variable (ok : SystemOk s) (stepped : s.mount task partitionName = .ok (s', reply))

include ok stepped

/-- What `Rafs_Mount` does: it does nothing, refuses, or leaves the cleaning to the background. -/
theorem SystemOk.mount_cases :
    (s' = s ∧ reply.result ≠ .ok) ∨ ∃ free, FlashOk s.info s.device.cells free ∧
      s.self.partition = none ∧ s.self.files = none ∧ s.self.busy = false ∧ s.queue = [] ∧
        ((reply.result ≠ .ok ∧ s' = { s with self := { s.self with files := none, map := ⟨[]⟩ } }) ∨
          ∃ name volume, reply.result = .ok ∧
            mountVolume ⟨s.info, s.device, s.self.map, newFiles⟩ = .ok (volume, .ok) ∧
            VolumeOk volume ∧ volume.info = s.info ∧ volume.files.scanDirEntryAllocated = true ∧
            s' = (({ s with self := { s.self with
                partition := some ⟨s.info, name⟩
                busy := true } } : System).setVolume volume).enqueue (.mountWork task 0)) := by
  unfold System.mount at stepped
  split at stepped
  case isTrue refused => cases stepped; exact .inl ⟨rfl, refused⟩
  case isFalse =>
    cases ok with
    | mounted isMounted hasFiles info volume scan work =>
      have created : s.createFilesStructure = s := by
        simp [System.createFilesStructure, hasFiles]
      simp only [created, isMounted, Option.isSome_some, if_true] at stepped
      cases stepped
      exact .inl ⟨rfl, by decide⟩
    | unmounted notMounted noFiles ready noWork flash =>
      have created : s.createFilesStructure =
          s.setFiles { newFiles with scanDirEntryAllocated := false } := by
        simp [System.createFilesStructure, noFiles, newFiles]
      have allocated : (s.setFiles { newFiles with
          scanDirEntryAllocated := false }).allocateScanDirent = .ok (s.setFiles newFiles) := rfl
      have stillUnmounted : (s.setFiles { newFiles with
          scanDirEntryAllocated := false }).self.partition = none := notMounted
      simp only [created, stillUnmounted, allocated, bind, Except.bind, Option.isSome_none,
        Bool.false_eq_true, if_false] at stepped
      refine .inr ⟨_, flash, notMounted, noFiles, ready, noWork, ?_⟩
      rcases @FlashOk.doMount (s.setFiles newFiles) _ flash notMounted rfl partitionName with
        ⟨result, refused, notOk⟩ | ⟨name, volume, mountedHere, mounted, volumeOk, info, scan⟩
      · simp only [refused, notOk, if_false] at stepped
        cases stepped
        exact .inl ⟨notOk, rfl⟩
      · simp only [mountedHere, if_true] at stepped
        cases stepped
        exact .inr ⟨name, volume, rfl, mounted, volumeOk, info, scan, rfl⟩

/-- `Rafs_Mount` keeps the invariant. -/
theorem SystemOk.mount : SystemOk s' := by
  rcases ok.mount_cases stepped with ⟨rfl, _⟩ | ⟨_, flash, notMounted, _, ready, noWork,
    ⟨_, rfl⟩ | ⟨_, volume, _, _, volumeOk, info, scan, rfl⟩⟩
  · exact ok
  · exact .unmounted notMounted rfl ready noWork flash
  · obtain ⟨_, device, map, files⟩ := volume
    obtain rfl : _ = s.info := info
    refine .mounted rfl rfl rfl volumeOk scan ?_
    exact ⟨.mountWork task 0, by
      change s.queue ++ _ = _
      rw [noWork, List.nil_append], trivial⟩

end

end Systems

section Work

variable {s' : System}

theorem sameTables_erase {cells : Cells} {offset length : Nat} (beyond : 8192 ≤ offset) :
    SameTables ((Op.erase offset length).apply cells) cells := by
  apply sameTables_of_data
  intro address inTables
  apply erase_apply_outside
  omega

theorem mul32_block {info : PartInfo} {block : Nat} (lower : 2 ≤ block)
    (upper : block < info.numBlocks) :
    mul32 block info.blockSize = block * info.blockSize ∧ 8192 ≤ block * info.blockSize := by
  have directory := info.directoryFits
  have size := info.sizeFits
  have blocks := numBlocks_mul_le info
  have within := Nat.mul_le_mul_right info.blockSize (show block + 1 ≤ info.numBlocks from upper)
  have first := Nat.mul_le_mul_right info.blockSize lower
  rw [Nat.add_one_mul] at within
  exact ⟨mul32_eq (by omega), by omega⟩

theorem cleanNextBlock_spec {volume : Volume} (mapOk : MapOk volume.info volume.map)
    (reservedUsed : ∀ block, ReservedBlock volume.info block → volume.map.InUse block)
    {count first : Nat} (within : first + count = volume.info.numBlocks) :
    ∃ device last, System.cleanNextBlock volume count first = .ok (device, last) ∧
      SameTables device.cells volume.device.cells ∧ first ≤ last ∧
        last ≤ volume.info.numBlocks := by
  induction count generalizing first with
  | zero => exact ⟨volume.device, first, rfl, fun _ _ _ => rfl, le_rfl, by omega⟩
  | succ count induction =>
    have capacity := mapOk.covers
    have inUse := SectorMap.isBlockInUse_eq (show first < volume.map.capacity by omega)
    obtain ⟨device, last, cleaned, same, firstLe, lastLe⟩ := @induction (first + 1) (by omega)
    cases used : volume.map.bit first with
    | false =>
      refine ⟨device, last, ?_, same, by omega, lastLe⟩
      simp [System.cleanNextBlock, inUse, used, cleaned, bind, Except.bind, pure, Except.pure]
    | true =>
      have notReserved : ¬ ReservedBlock volume.info first := by
        intro reserved
        have := reservedUsed first reserved
        rw [SectorMap.InUse, used] at this
        contradiction
      unfold ReservedBlock at notReserved
      obtain ⟨start, beyond⟩ := @mul32_block volume.info first (by omega)
        (by omega)
      have checked : ∃ clean, System.isCleanBlock volume first = .ok clean := by
        simp [System.isCleanBlock, panicFalse, show first < volume.info.numBlocks by omega, bind,
          Except.bind, pure, Except.pure]
      obtain ⟨clean, checkedEq⟩ := checked
      cases clean with
      | true =>
        refine ⟨device, last, ?_, same, by omega, lastLe⟩
        simp [System.cleanNextBlock, inUse, used, checkedEq, cleaned, bind, Except.bind]
      | false =>
        refine ⟨volume.device.erase (mul32 first volume.info.blockSize)
          volume.info.blockSize, first, ?_, ?_, le_rfl, by omega⟩
        · simp [System.cleanNextBlock, inUse, used, checkedEq, bind, Except.bind, pure, Except.pure]
        · rw [start]
          exact sameTables_erase beyond

theorem VolumeOk.sameTables {volume : Volume} (ok : VolumeOk volume) {device : Device}
    (same : SameTables device.cells volume.device.cells) :
    VolumeOk { volume with device := device } :=
  ⟨ok.tables.congr same fun _ => Iff.rfl, ok.mapOk,
    ok.balanced.congr (fun owner block => or_congr_left (ownedByTable_congr same owner block))
      fun _ => Iff.rfl, ok.files⟩

variable {s : System} {partition : Partition} {files : FileInfo}

structure BusyOk (s : System) (partition : Partition) (files : FileInfo) : Prop where
  isMounted : s.self.partition = some partition
  hasFiles : s.self.files = some files
  info : partition.info = s.info
  volume : VolumeOk ⟨s.info, s.device, s.self.map, files⟩
  scan : files.scanDirEntryAllocated = true
  busy : s.self.busy = true
  noWork : s.queue = []

section

variable (ok : BusyOk s partition files)

include ok

theorem BusyOk.volume_eq : s.volume = .ok ⟨s.info, s.device, s.self.map, files⟩ :=
  volume_eq_ok_of ok.isMounted ok.hasFiles ok.info

theorem BusyOk.sameTables {device : Device} (same : SameTables device.cells s.device.cells) :
    BusyOk { s with device := device } partition files :=
  ⟨ok.isMounted, ok.hasFiles, ok.info, ok.volume.sameTables same, ok.scan, ok.busy, ok.noWork⟩

theorem BusyOk.enqueue {message : WorkMessage} (work : WorkOk s.info message) :
    SystemOk (s.enqueue message) := by
  refine .mounted ok.isMounted ok.hasFiles ok.info ok.volume (ok.scan.trans ok.busy.symm) ?_
  have busy : (s.enqueue message).self.busy = true := ok.busy
  rw [busy]
  exact ⟨message, by rw [System.enqueue, ok.noWork, List.nil_append], work⟩

theorem BusyOk.finishWork (cfmTask : Option TaskId) (confirmation : TaskId → Confirmation)
    (finished : (s.confirm cfmTask confirmation).finishWork = .ok s') : SystemOk s' := by
  have files_eq : (s.confirm cfmTask confirmation).files = .ok files := by
    cases cfmTask <;> simp [System.confirm, System.files, ok.hasFiles]
  simp only [System.finishWork, System.freeScanDirent, files_eq, bind, Except.bind, pure,
    Except.pure] at finished
  cases finished
  have volume := ok.volume.setScan false
  cases cfmTask with
  | none => exact .mounted ok.isMounted rfl ok.info volume rfl ok.noWork
  | some task => exact .mounted ok.isMounted rfl ok.info volume rfl ok.noWork

end

/-- A step of the background work erases outside of the tables, and ends the work or queues
more of it. -/
def Worked (s s' : System) : Prop :=
  ∃ device, SameTables device.cells s.device.cells ∧
    ((∃ cfmTask confirmation, (({ s with device := device } : System).confirm cfmTask
        confirmation).finishWork = .ok s') ∨
      ∃ message, ({ s with device := device } : System).enqueue message = s' ∧
        WorkOk s.info message)

theorem Worked.systemOk (worked : Worked s s') (ok : BusyOk s partition files) : SystemOk s' := by
  obtain ⟨device, same, ⟨cfmTask, confirmation, finished⟩ | ⟨message, rfl, workOk⟩⟩ := worked
  · exact (ok.sameTables same).finishWork cfmTask confirmation finished
  · exact (ok.sameTables same).enqueue workOk

/-- The confirmation that a piece of work ends with. -/
def WorkMessage.confirmations (numFreeSlots : Nat) : WorkMessage → List Confirmation
  | .mountWork cfmTask _ => (cfmTask.map .mountComplete).toList
  | .compactWork cfmTask _ => (cfmTask.map fun task => .compactComplete task numFreeSlots).toList
  | .removeWork work => (work.cfmTask.map .removeComplete).toList
  | .writeWork _ _ _ => []

/-- How much is left to do: the blocks to be scanned or erased, or the states of the compaction,
which follow one another in their order. -/
def WorkMessage.left (info : PartInfo) : WorkMessage → Nat
  | .mountWork _ blockToScan => info.numBlocks - blockToScan
  | .compactWork _ state => CompactState.sendCompletionMessage.ctorIdx - state.ctorIdx
  | .removeWork work => (work.inodes.map fun inode => inode.length.toNat).sum
  | .writeWork _ _ _ => 0

/-- What the delivery of a work message does: it ends the work, or leaves less of it. -/
inductive Progress (s : System) (message : WorkMessage) (s' : System) : Prop
  | ended (numFreeSlots : Nat) (idle : s'.self.busy = false) (queue : s'.queue = s.queue)
      (sent : s'.sent = s.sent ++ message.confirmations numFreeSlots)
  | goesOn (rest : WorkMessage) (busy : s'.self.busy = s.self.busy)
      (queue : s'.queue = s.queue ++ [rest]) (sent : s'.sent = s.sent)
      (less : rest.left s.info < message.left s.info)
      (same : ∀ numFreeSlots, rest.confirmations numFreeSlots = message.confirmations numFreeSlots)

theorem finishWork_ends (hasFiles : s.self.files = some files) (device : Device)
    (cfmTask : Option TaskId) (confirmation : TaskId → Confirmation) :
    ∃ s', (({ s with device := device } : System).confirm cfmTask confirmation).finishWork =
      .ok s' ∧ s'.self.busy = false ∧ s'.queue = s.queue ∧
        s'.sent = s.sent ++ (cfmTask.map confirmation).toList := by
  cases cfmTask <;>
    simp [System.confirm, System.finishWork, System.freeScanDirent, System.files, hasFiles,
      System.setFiles, bind, Except.bind, pure, Except.pure]

theorem BusyOk.ends (ok : BusyOk s partition files) {message : WorkMessage}
    {cfmTask : Option TaskId} {confirmation : TaskId → Confirmation}
    (confirms : message.confirmations 0 = (cfmTask.map confirmation).toList) {device : Device}
    (same : SameTables device.cells s.device.cells) :
    ∃ s', (({ s with device := device } : System).confirm cfmTask confirmation).finishWork =
      .ok s' ∧ Worked s s' ∧ Progress s message s' := by
  obtain ⟨s', finished, idle, queue, sent⟩ :=
    finishWork_ends ok.hasFiles device cfmTask confirmation
  rw [← confirms] at sent
  exact ⟨s', finished, ⟨device, same, .inl ⟨cfmTask, _, finished⟩⟩, .ended 0 idle queue sent⟩

theorem BusyOk.progressMountWorker (ok : BusyOk s partition files) (cfmTask : Option TaskId)
    (blockToScan : Nat) : ∃ s', s.progressMountWorker cfmTask blockToScan = .ok s' ∧
      Worked s s' ∧ Progress s (.mountWork cfmTask blockToScan) s' := by
  have partition_eq : s.partition = .ok partition := by simp [System.partition, ok.isMounted]
  simp only [System.progressMountWorker, partition_eq, ok.info, ok.volume_eq, bind, Except.bind]
  split
  case isFalse => exact ok.ends rfl fun _ _ _ => rfl
  case isTrue more =>
    obtain ⟨device, last, cleaned, same, firstLe, _⟩ := @cleanNextBlock_spec
      ⟨s.info, s.device, s.self.map, files⟩ ok.volume.mapOk ok.volume.reservedUsed
      (s.info.numBlocks - blockToScan) blockToScan (Nat.add_sub_cancel' (le_of_lt more))
    simp only [cleaned]
    split
    case isTrue =>
      refine ⟨_, rfl, ⟨device, same, .inr ⟨_, rfl, trivial⟩⟩,
        .goesOn (.mountWork cfmTask (last + 1)) rfl rfl rfl ?_ fun _ => rfl⟩
      simp only [WorkMessage.left]
      omega
    case isFalse => exact ok.ends rfl same

theorem length_sub_one {inode : Inode} (nonempty : 0 < inode.length.toNat) :
    (inode.length - 1).toNat = inode.length.toNat - 1 :=
  UInt16.toNat_sub_of_le _ _ (UInt16.le_iff_toNat_le.mpr nonempty)

theorem Erasable.next {info : PartInfo} {inode : Inode} (ok : Erasable info inode)
    (more : inode.length - 1 ≠ 0) :
    Erasable info { inode with offset := inode.offset + 1, length := inode.length - 1 } := by
  obtain ⟨nonempty, lower, upper⟩ := ok
  have blocks := info.blocksFit
  have length := length_sub_one nonempty
  have positive : 0 < (inode.length - 1).toNat := by
    rw [Nat.pos_iff_ne_zero]
    intro zero
    exact more (UInt16.toNat_inj.mp zero)
  have offset : (inode.offset + 1).toNat = inode.offset.toNat + 1 := by
    rw [UInt16.toNat_add]
    refine Nat.mod_eq_of_lt ?_
    unfold PartInfo.numBlocks at upper
    change inode.offset.toNat + 1 < 65536
    omega
  refine ⟨positive, ?_, ?_⟩
  · change 2 ≤ (inode.offset + 1).toNat
    omega
  · change (inode.offset + 1).toNat + (inode.length - 1).toNat ≤ _
    omega

theorem BusyOk.progressRemoveWorker (ok : BusyOk s partition files) {work : RemoveWork}
    (erasable : WorkOk s.info (.removeWork work)) : ∃ s', s.progressRemoveWorker work = .ok s' ∧
      Worked s s' ∧ Progress s (.removeWork work) s' := by
  have partition_eq : s.partition = .ok partition := by simp [System.partition, ok.isMounted]
  unfold System.progressRemoveWorker
  split
  case h_1 => exact ok.ends rfl fun _ _ _ => rfl
  case h_2 inode last =>
    have inodeOk := erasable inode (List.mem_of_getLast? last)
    have nonempty := inodeOk.nonempty
    have upper := inodeOk.upper
    have left : WorkMessage.left s.info (.removeWork work) =
        (work.inodes.dropLast.map fun inode => inode.length.toNat).sum + inode.length.toNat := by
      rw [WorkMessage.left, ← List.dropLast_append_getLast? inode last]
      simp
    obtain ⟨start, beyond⟩ := mul32_block inodeOk.lower
      (show inode.offset.toNat < s.info.numBlocks by omega)
    simp only [partition_eq, ok.info, bind, Except.bind]
    have erased : SameTables (s.device.erase (mul32 inode.offset.toNat s.info.blockSize)
        s.info.blockSize).cells s.device.cells := by
      rw [start]
      exact sameTables_erase beyond
    split
    case isTrue =>
      split
      case isFalse => exact ok.ends rfl erased
      case isTrue =>
        refine ⟨_, rfl, ⟨_, erased, .inr ⟨_, rfl, fun other member =>
          erasable other (List.mem_of_mem_dropLast member)⟩⟩,
          .goesOn (.removeWork _) rfl rfl rfl ?_ fun _ => rfl⟩
        rw [left]
        exact Nat.lt_add_of_pos_right nonempty
    case isFalse more =>
      rw [if_pos (by simp)]
      refine ⟨_, rfl, ⟨_, erased, .inr ⟨_, rfl, fun other member => ?_⟩⟩,
        .goesOn (.removeWork _) rfl rfl rfl ?_ fun _ => rfl⟩
      · rcases List.mem_append.mp member with before | here
        · exact erasable other (List.mem_of_mem_dropLast before)
        · rw [List.mem_singleton.mp here]
          exact inodeOk.next more
      · rw [left, WorkMessage.left, List.map_append, List.sum_append]
        simp only [List.map_cons, List.map_nil, List.sum_singleton, length_sub_one nonempty]
        omega

/-- While background work is going on, its message is the only one, and is handled. -/
theorem SystemOk.handles (ok : SystemOk s) (busy : s.self.busy = true) :
    ∃ message s' partition files, s.queue = [message] ∧
      ({ s with queue := [] } : System).handleMessage message = .ok s' ∧
        BusyOk { s with queue := [] } partition files ∧ Worked { s with queue := [] } s' ∧
          Progress { s with queue := [] } message s' := by
  cases ok with
  | unmounted _ _ ready =>
    rw [ready] at busy
    contradiction
  | mounted isMounted hasFiles info volume scan work =>
    rw [busy] at work scan
    obtain ⟨message, queued, workOk⟩ := work
    have taken : BusyOk { s with queue := [] } _ _ :=
      ⟨isMounted, hasFiles, info, volume, scan, busy, rfl⟩
    cases message with
    | mountWork cfmTask blockToScan =>
      obtain ⟨s', handled, done⟩ := taken.progressMountWorker cfmTask blockToScan
      exact ⟨_, s', _, _, queued, handled, taken, done⟩
    | removeWork work =>
      obtain ⟨s', handled, done⟩ := taken.progressRemoveWorker workOk
      exact ⟨_, s', _, _, queued, handled, taken, done⟩
    | compactWork cfmTask state => exact absurd workOk id
    | writeWork fileId buf count => exact absurd workOk id

section

variable {s : System} (ok : SystemOk s) {index : Nat} {reply : Option Reply}
  (stepped : s.step (.deliver index) = .ok (s', reply))

include ok stepped

theorem SystemOk.deliver_worked :
    s' = s ∨ ∃ partition files, BusyOk { s with queue := [] } partition files ∧
      Worked { s with queue := [] } s' := by
  unfold System.step at stepped
  dsimp only at stepped
  split at stepped
  case h_1 => cases stepped; exact .inl rfl
  case h_2 message queued =>
    obtain ⟨next, handled, stepped⟩ := bind_eq_ok stepped
    cases stepped
    cases busy : s.self.busy with
    | false =>
      rw [ok.noWork busy] at queued
      contradiction
    | true =>
      obtain ⟨only, done, partition, files, queue, handled', taken, worked, _⟩ := ok.handles busy
      rw [queue] at queued handled
      obtain ⟨rfl, rfl⟩ : index = 0 ∧ only = message := by
        cases index with
        | zero => exact ⟨rfl, Option.some.inj queued⟩
        | succ index => contradiction
      cases handled'.symm.trans handled
      exact .inr ⟨partition, files, taken, worked⟩

theorem SystemOk.deliver : SystemOk s' := by
  rcases ok.deliver_worked stepped with rfl | ⟨partition, files, taken, worked⟩
  · exact ok
  · exact worked.systemOk taken

end

end Work

section Runs

variable {s : System}

structure SpaceAccounted (s : System) : Prop where
  disjoint : ∀ first second block, OwnedByTable s.device.cells first block →
    OwnedByTable s.device.cells second block → first = second
  inRange : ∀ slot inode, 1 ≤ slot → slot < 113 →
    isValidEntry (entryAt s.device.cells .priFat slot) = true →
    isValidInode ((entryAt s.device.cells .priFat slot).inodes inode) = true →
      2 ≤ ((entryAt s.device.cells .priFat slot).inodes inode).offset.toNat ∧
        ((entryAt s.device.cells .priFat slot).inodes inode).offset.toNat +
          ((entryAt s.device.cells .priFat slot).inodes inode).length.toNat ≤ s.info.numBlocks
  used_iff : ∀ block < s.info.numBlocks, s.self.map.InUse block ↔
    block = 0 ∨ block = 1 ∨ (∃ owner, OwnedByTable s.device.cells owner block) ∨
      ∃ files owner, s.self.files = some files ∧ OwnedByWriter files owner block
  oneWriter : ∀ files first second, s.self.files = some files → files.Writer first →
    files.Writer second → first = second

def isSpaceEvent : System.Event → Bool
  | .mount _ _ => true
  | .open_ _ _ _ => true
  | .write _ _ _ => true
  | .close _ => true
  | .remove _ _ => true
  | .deliver _ => true
  | _ => false

def keepsExtent (s : System) : System.Event → Bool
  | .write fileId _ numBytes =>
      (s.self.files.bind fun files => findOpenFileInstanceById files fileId).all fun found =>
        found.2.flags == .wronly || decide (numBytes ≤ found.2.extentFree s.info) ||
          found.2.nextInode.isNone
  | _ => true

def spaceRun (allowed : System → System.Event → Bool) (s : System) (events : List System.Event) :
    Option System :=
  s.run (fun s event => isSpaceEvent event && allowed s event) events

theorem keepsExtent_write {fileId : FileId} {buf : Nat → UInt8} {numBytes : Nat}
    (keeps : keepsExtent s (.write fileId buf numBytes) = true) :
    KeepsExtent s fileId numBytes := by
  intro files index openFile hasFiles found reading
  simp only [keepsExtent, hasFiles, Option.bind_some, found, Option.all_some, reading,
    Bool.or_eq_true, decide_eq_true_eq, Option.isNone_iff_eq_none] at keeps
  rcases keeps with (writing | fits) | last
  · contradiction
  · exact Or.inl fits
  · exact Or.inr last

theorem reply_eq_ok {outcome : Except Fault (System × Reply)} {reply : Option Reply}
    (stepped : System.step.reply outcome = .ok (s, reply)) : ∃ reply, outcome = .ok (s, reply) := by
  obtain ⟨⟨s', reply'⟩, succeeded, final⟩ := bind_eq_ok stepped
  cases final
  exact ⟨reply', succeeded⟩

theorem SystemOk.step (ok : SystemOk s) {event : System.Event}
    (space : isSpaceEvent event = true) (keeps : keepsExtent s event = true) {s' : System}
    {reply : Option Reply} (stepped : s.step event = .ok (s', reply)) : SystemOk s' := by
  cases event with
  | mount task partitionName =>
    obtain ⟨_, mounted⟩ := reply_eq_ok stepped
    exact ok.mount mounted
  | open_ task pathname flags =>
    obtain ⟨_, opened⟩ := reply_eq_ok stepped
    exact ok.open_ opened
  | write fileId buf numBytes =>
    obtain ⟨_, written⟩ := reply_eq_ok stepped
    exact ok.write (keepsExtent_write keeps) written
  | close fileId =>
    obtain ⟨_, closed⟩ := reply_eq_ok stepped
    exact ok.close closed
  | remove task pathname =>
    obtain ⟨_, removed⟩ := reply_eq_ok stepped
    exact ok.remove removed
  | deliver index => exact ok.deliver stepped
  | _ => contradiction

theorem SystemOk.run {s' : System} (ok : SystemOk s) {events : List System.Event}
    (ran : spaceRun keepsExtent s events = some s') : SystemOk s' := by
  refine System.run_invariant ?_ ok ran
  intro s event s' reply ok allowed stepped
  rw [Bool.and_eq_true] at allowed
  exact ok.step allowed.1 allowed.2 stepped

theorem SystemOk.spaceAccounted (ok : SystemOk s)
    (isMounted : s.self.partition ≠ none) : SpaceAccounted s := by
  cases ok with
  | unmounted notMounted => contradiction
  | @mounted partition files isMounted hasFiles info volume scan work =>
    refine ⟨?_, ?_, ?_, ?_⟩
    · intro first second block firstOwned secondOwned
      exact volume.balanced.disjoint first second block (Or.inl firstOwned) (Or.inl secondOwned)
    · intro slot inode positive inTable live valid
      obtain ⟨_, _, closed⟩ := volume.tables.closed positive inTable live
      obtain ⟨last, shape, _⟩ := closed.extents
      have nonempty := ((isValidInode_iff _).mp valid).1
      have within := (shape.covers
        ⟨valid, le_refl _, Nat.lt_add_of_pos_right nonempty⟩).1
      exact shape.inRange inode within
    · intro block inPartition
      have reserved : ReservedBlock s.info block ↔ block = 0 ∨ block = 1 := by
        unfold ReservedBlock
        omega
      rw [volume.balanced.used_iff, reserved, or_assoc]
      refine or_congr_right (or_congr_right ?_)
      constructor
      · rintro ⟨owner, byTable | byWriter⟩
        · exact Or.inl ⟨owner, byTable⟩
        · exact Or.inr ⟨files, owner, hasFiles, byWriter⟩
      · rintro (⟨owner, byTable⟩ | ⟨files', owner, stored, byWriter⟩)
        · exact ⟨owner, Or.inl byTable⟩
        · obtain rfl := Option.some.inj (hasFiles.symm.trans stored)
          exact ⟨owner, Or.inr byWriter⟩
    · intro files' first second stored firstWriter secondWriter
      obtain rfl := Option.some.inj (hasFiles.symm.trans stored)
      exact ((volume.files.onlyWriter secondWriter first).mp firstWriter)

theorem init_systemOk (info : PartInfo) (cells : Cells) :
    SystemOk (System.init info (formattedCells info cells)) :=
  .unmounted rfl rfl rfl rfl (formatted_flashOk info cells)

/-- In every run on a formatted partition in which no file open for reading is
written past the end of its current extent, the space stays accounted for. -/
theorem run_spaceAccounted (info : PartInfo) (cells : Cells) (events : List System.Event)
    {s : System}
    (ran : spaceRun keepsExtent (System.init info (formattedCells info cells)) events = some s)
    (isMounted : s.self.partition ≠ none) : SpaceAccounted s :=
  ((init_systemOk info cells).run ran).spaceAccounted isMounted

end Runs

def smallPartition : PartInfo where
  partitionSize := 12288
  blockSize := 4096
  pageSize := 256
  sizeFits := by decide
  directoryFits := by decide
  tablesFit := by decide
  blocksFit := by decide

/-- The path of the file `A` of the partition mounted as `/`. -/
def pathA : CString := ⟨[0x2F, 0x2F, 0x41], by decide⟩

/-- Mounting, and a file that takes up the only block. -/
def fillPartition : List System.Event :=
  [.mount none ⟨[0x2F], by decide⟩, .deliver 0, .deliver 0, .open_ none pathA .wronly,
    .write 0 (fun _ => 0x55) 4096, .close 0, .open_ none pathA .rdonly]

/-- The run behind the violation: a file open for reading is written past its only
extent, on a full partition. -/
def overflowReader : List System.Event :=
  fillPartition ++ [.write 0 (fun _ => 0x55) 4097]

theorem run_spaceAccounted_full : ∃ s, spaceRun keepsExtent
      (System.init smallPartition (formattedCells smallPartition fun _ => 0))
      (fillPartition ++ [.write 0 (fun _ => 0x55) 4096]) = some s ∧ SpaceAccounted s := by
  have mounted : (spaceRun keepsExtent
      (System.init smallPartition (formattedCells smallPartition fun _ => 0))
      (fillPartition ++ [.write 0 (fun _ => 0x55) 4096])).any (fun s => s.self.partition.isSome) =
        true := by
    decide +kernel
  obtain ⟨s, ran, isMounted⟩ := (Option.any_eq_true _ _).mp mounted
  exact ⟨s, ran, run_spaceAccounted smallPartition _ _ ran (Option.isSome_iff_ne_none.mp isMounted)⟩

/-- Past its extent, a block of the file that is still in the table is freed. -/
theorem overflow_frees_live_block : ∃ s, spaceRun (fun _ _ => true)
      (System.init smallPartition (formattedCells smallPartition fun _ => 0))
      overflowReader = some s ∧ s.self.partition ≠ none ∧ ¬ SpaceAccounted s := by
  have ran : (spaceRun (fun _ _ => true)
      (System.init smallPartition (formattedCells smallPartition fun _ => 0))
      overflowReader).any (fun s => s.self.partition.isSome && s.self.map.bit 2 &&
        decide (s.info.numBlocks = 3) && isValidEntry (entryAt s.device.cells .priFat 1) &&
        decide ((entryAt s.device.cells .priFat 1).inodes 0 = ⟨2, 1⟩)) = true := by
    decide +kernel
  obtain ⟨s, ran, facts⟩ := (Option.any_eq_true _ _).mp ran
  simp only [Bool.and_eq_true, decide_eq_true_eq] at facts
  obtain ⟨⟨⟨⟨isMounted, free⟩, size⟩, live⟩, extent⟩ := facts
  refine ⟨s, ran, Option.isSome_iff_ne_none.mp isMounted, ?_⟩
  intro accounted
  have owned : OwnedByTable s.device.cells (1, 0) 2 := by
    refine ⟨le_rfl, by decide, live, ?_⟩
    rw [extent]
    exact ⟨rfl, le_rfl, by decide⟩
  have used := (accounted.used_iff 2 (by omega)).mpr (Or.inr (Or.inr (Or.inl ⟨_, owned⟩)))
  rw [SectorMap.InUse, free] at used
  contradiction

end HeadsetAdk.Rafs
