import HeadsetAdk.Rafs.Integrity

/-!
# The RAFS instance, its public calls and its background work

`rafs.c`, `rafs_volume.c`, `rafs_iocontrol.c` and `rafs_message.c`.  A system is the instance with
the flash, the queued work messages and the confirmations sent.  Following a `NULL` pointer or
failing an assertion is a fault.
-/

namespace HeadsetAdk.Rafs

open NorFlash

/-- `partinfo_t` -/
structure Partition where
  info : PartInfo
  partitionName : CString

/-- The parts of `rafs_instance_t` used here; `sector_in_use_map` is empty while
it is not allocated. -/
structure RafsInstance where
  busy : Bool
  partition : Option Partition
  map : SectorMap
  files : Option FileInfo
  directory : Option DirInfo
  idler : Option Nat

/-- The messages of `rafs_work_message_id_t` that carry work. -/
inductive WorkMessage
  | mountWork (cfmTask : Option TaskId) (blockToScan : Nat)
  | compactWork (cfmTask : Option TaskId) (state : CompactState)
  | writeWork (fileId : FileId) (buf : Nat → UInt8) (count : Nat)
  | removeWork (work : RemoveWork)

/-- The confirmations of `rafs.h`.  A `write_count` of `none` was never set. -/
inductive Confirmation
  | mountComplete (task : TaskId)
  | compactComplete (task : TaskId) (numFreeSlots : Nat)
  | writeComplete (task : TaskId) (result : RafsErrors) (fileId : FileId)
      (requestCount : Nat) (writeCount : Option Nat)
  | removeComplete (task : TaskId)

structure System where
  self : RafsInstance
  device : Device
  info : PartInfo
  queue : List WorkMessage
  sent : List Confirmation

/-- `rafs_statfs_t`; `contiguous_space` is read past the end of an empty list
when there is no free extent. -/
structure RafsStatfs where
  sectorSize : Nat
  partitionSize : Nat
  blockSize : Nat
  availableSpace : Nat
  freeSpace : Nat
  contiguousSpace : Option Nat
  fileSpace : Nat
  maxDirEntries : Nat
  numDirEntries : UInt16

/-- What a call returns and what it stores through its pointer arguments. -/
structure Reply where
  result : RafsErrors
  fileId : Option FileId := none
  bytes : Option (List UInt8) := none
  numBytesWritten : Option Nat := none
  position : Option Nat := none
  numDirEntries : Option UInt16 := none
  stat : Option RafsStat := none
  statfs : Option RafsStatfs := none
  fileOffset : Option Nat := none

def rafsPathSeparator : UInt8 := 0x2F

def rafsMountpointLen : Nat := 8

def afterSeparator : Nat → List UInt8 → Option (List UInt8)
  | _, [] => none
  | field, character :: path =>
      if character = rafsPathSeparator then
        match field with
        | 0 => some path
        | field + 1 => afterSeparator field path
      else afterSeparator field path

theorem afterSeparator_subset {field : Nat} {path rest : List UInt8}
    (found : afterSeparator field path = some rest) : rest ⊆ path := by
  induction path generalizing field with
  | nil => simp [afterSeparator] at found
  | cons character path induction =>
    unfold afterSeparator at found
    split at found
    · cases field with
      | zero =>
        obtain rfl := Option.some.inj found
        exact List.subset_cons_self character path
      | succ field => exact List.subset_cons_of_subset character (induction found)
    · exact List.subset_cons_of_subset character (induction found)

def getPathnameComponent (path : CString) (len field : Nat) : Except RafsErrors CString :=
  match found : afterSeparator field path.val with
  | none => .error .invalidPath
  | some rest =>
      let component := rest.takeWhile (· != rafsPathSeparator)
      if len ≤ component.length then .error .invalidLength
      else .ok ⟨component, fun member =>
        path.property (afterSeparator_subset found (List.takeWhile_subset _ member))⟩

def getPartitionName (path : CString) : Except RafsErrors CString :=
  getPathnameComponent path rafsMountpointLen 0

def getFilename (path : CString) : Except RafsErrors CString :=
  getPathnameComponent path rafsMaxFilelen 1

namespace System

/-- `rafs_self->files`, followed. -/
def files (s : System) : Except Fault FileInfo :=
  match s.self.files with
  | none => .error .nullFiles
  | some files => .ok files

/-- `rafs_self->partition`, followed. -/
def partition (s : System) : Except Fault Partition :=
  match s.self.partition with
  | none => .error .nullPartition
  | some partition => .ok partition

/-- The mounted volume, through both pointers. -/
def volume (s : System) : Except Fault Volume := do
  let files ← s.files
  let partition ← s.partition
  return { info := partition.info, device := s.device, map := s.self.map, files := files }

def setVolume (s : System) (volume : Volume) : System :=
  { s with
    device := volume.device
    self := { s.self with map := volume.map, files := some volume.files } }

def setFiles (s : System) (files : FileInfo) : System :=
  { s with self := { s.self with files := some files } }

/-- `MessageSend` to the RAFS task. -/
def enqueue (s : System) (message : WorkMessage) : System :=
  { s with queue := s.queue ++ [message] }

/-- `MessageSend` of a confirmation, when there is a task to receive it. -/
def confirm (s : System) (task : Option TaskId) (confirmation : TaskId → Confirmation) :
    System :=
  match task with
  | none => s
  | some task => { s with sent := s.sent ++ [confirmation task] }

def allocateScanDirent (s : System) : Except Fault System := do
  let files ← s.files
  panicFalse (!files.scanDirEntryAllocated)
  return s.setFiles { files with scanDirEntryAllocated := true }

def freeScanDirent (s : System) : Except Fault System := do
  let files ← s.files
  return s.setFiles { files with scanDirEntryAllocated := false }

def createFilesStructure (s : System) : System :=
  match s.self.files with
  | some _ => s
  | none =>
      s.setFiles
        { openFiles := fun _ => none
          scanDirEntryAllocated := false
          freeDirSlot := 0
          fileIsOpenForWriting := false
          compactIsNeeded := false
          numOpenFiles := 0
          sequenceNumber := 0 }

def freeFilesStructure (s : System) : Except Fault System := do
  let _ ← s.files
  return { s with self := { s.self with files := none, map := ⟨[]⟩ } }

def isReady (s : System) : RafsErrors := if s.self.busy then .busy else .ok

def getMountStatus (s : System) (partitionName : CString) : RafsErrors :=
  if s.isReady ≠ .ok then s.isReady
  else
    match s.self.partition with
    | none => .notMounted
    | some partition =>
        match getPartitionName partitionName with
        | .error result => result
        | .ok name =>
            if strncmpIsZero rafsMountpointLen partition.partitionName.val name.val then .ok
            else .notMounted

/-- `Rafs_PartitionOpen`, of a partition that exists. -/
def partitionOpen (s : System) (partitionName : CString) :
    Except Fault (System × RafsErrors) := do
  panicFalse s.self.partition.isNone
  let name :=
    if 1 < partitionName.val.length then getPartitionName partitionName
    else .ok ⟨[], by simp⟩
  match name with
  | .error result => return (s, result)
  | .ok name => return ({ s with self := { s.self with partition := some ⟨s.info, name⟩ } }, .ok)

def partitionClose (s : System) : Except Fault System := do
  panicFalse s.self.partition.isSome
  return { s with self := { s.self with partition := none } }

def doMount (s : System) (partitionName : CString) : Except Fault (System × RafsErrors) := do
  let (s, result) ← s.partitionOpen partitionName
  if result ≠ .ok then return (s, result)
  else
    let (volume, result) ← mountVolume (← s.volume)
    let s := s.setVolume volume
    if result = .ok then return (s, .ok) else return (← s.partitionClose, .invalidFat)

def doUnmount (s : System) (partitionName : CString) : Except Fault (System × RafsErrors) := do
  let partition ← s.partition
  match getPartitionName partitionName with
  | .error result => return (s, result)
  | .ok name =>
      if strncmpIsZero rafsMountpointLen partition.partitionName.val name.val then
        return (← s.partitionClose, .ok)
      else return (s, .notMounted)

def validateFileIdentifier (s : System) (fileId : FileId) : Except Fault RafsErrors := do
  if s.isReady ≠ .ok then return s.isReady
  else
    match fileIndex fileId with
    | none => return .badId
    | some index =>
        let files ← s.files
        return if (files.openFiles index).isNone then .badId else .ok

def open_ (s : System) (task : Option TaskId) (pathname : CString) (flags : RafsMode) :
    Except Fault (System × Reply) := do
  let status := s.getMountStatus pathname
  if status ≠ .ok then return (s, { result := status })
  else
    match getFilename pathname with
    | .error result => return (s, { result := result })
    | .ok filename =>
        if isValidFilename filename ≠ .ok then
          return (s, { result := isValidFilename filename })
        else
          let s ← s.allocateScanDirent
          let (volume, result, index) ← doOpen (← s.volume) task filename flags
          let s ← (s.setVolume volume).freeScanDirent
          return (s, { result := result, fileId := index.map fun index => (index.val : Int) })

def close (s : System) (fileId : FileId) : Except Fault (System × Reply) := do
  let valid ← s.validateFileIdentifier fileId
  if valid ≠ .ok then return (s, { result := valid })
  else
    let (volume, result) ← doClose (← s.volume) fileId
    return (s.setVolume volume, { result := result })

def read (s : System) (fileId : FileId) (numBytesToRead : Nat) :
    Except Fault (System × Reply) := do
  let valid ← s.validateFileIdentifier fileId
  if valid ≠ .ok then return (s, { result := valid })
  else
    let (volume, result, bytes) := doRead (← s.volume) fileId numBytesToRead
    return (s.setVolume volume, { result := result, bytes := bytes })

def write (s : System) (fileId : FileId) (buf : Nat → UInt8) (numBytesToWrite : Nat) :
    Except Fault (System × Reply) := do
  let valid ← s.validateFileIdentifier fileId
  if valid ≠ .ok then return (s, { result := valid })
  else
    let (volume, result, written) ← doWrite (← s.volume) fileId buf numBytesToWrite
    return (s.setVolume volume, { result := result, numBytesWritten := written })

/-- `Rafs_WriteBackground`, with `Rafs_CreateWriteWorker`. -/
def writeBackground (s : System) (fileId : FileId) (buf : Nat → UInt8)
    (numBytesToWrite : Nat) : Except Fault (System × Reply) := do
  let valid ← s.validateFileIdentifier fileId
  if valid ≠ .ok then return (s, { result := valid })
  else return (s.enqueue (.writeWork fileId buf numBytesToWrite), { result := .ok })

def setPosition (s : System) (fileId : FileId) (position : Nat) :
    Except Fault (System × Reply) := do
  let valid ← s.validateFileIdentifier fileId
  if valid ≠ .ok then return (s, { result := valid })
  else
    let (volume, result) ← doSetPosition (← s.volume) fileId position
    return (s.setVolume volume, { result := result })

def getPosition (s : System) (fileId : FileId) : Except Fault (System × Reply) := do
  let valid ← s.validateFileIdentifier fileId
  if valid ≠ .ok then return (s, { result := valid })
  else
    let (result, position) := doGetPosition (← s.volume) fileId
    return (s, { result := result, position := position })

def openDirectory (s : System) (pathname : CString) : Except Fault (System × Reply) := do
  let status := s.getMountStatus pathname
  if status ≠ .ok then return (s, { result := status })
  else
    match getFilename pathname with
    | .error result => return (s, { result := result })
    | .ok _ =>
        let s ← s.allocateScanDirent
        let (directory, result, num) ← doOpendir (← s.volume) s.self.directory
        let s ← { s with self := { s.self with directory := directory } }.freeScanDirent
        return (s, { result := result, numDirEntries := num })

def readDirectory (s : System) (validDir : Bool) : Except Fault (System × Reply) := do
  if s.isReady ≠ .ok then return (s, { result := s.isReady })
  else
    let s ← s.allocateScanDirent
    let (directory, result, stat) ← doReaddir (← s.volume) validDir s.self.directory
    let s ← { s with self := { s.self with directory := directory } }.freeScanDirent
    return (s, { result := result, stat := stat })

def closeDirectory (s : System) (validDir : Bool) : Except Fault (System × Reply) := do
  if s.isReady ≠ .ok then return (s, { result := s.isReady })
  else
    let (directory, result) := doClosedir validDir s.self.directory
    return ({ s with self := { s.self with directory := directory } }, { result := result })

/-- `Rafs_Remove`; `Rafs_IsWriteSafe` always allows writing. -/
def remove (s : System) (task : Option TaskId) (pathname : CString) :
    Except Fault (System × Reply) := do
  let status := s.getMountStatus pathname
  if status ≠ .ok then return (s, { result := status })
  else
    match getFilename pathname with
    | .error result => return (s, { result := result })
    | .ok filename =>
        if (findOpenFileInstanceByName (← s.files) filename).isSome then
          return (s, { result := .fileStillOpen })
        else
          let s ← s.allocateScanDirent
          let (volume, result, work) ← doRemove (← s.volume) task filename
          let s := s.setVolume volume
          match work with
          | none => return (← s.freeScanDirent, { result := result })
          | some work =>
              let s := { s with self := { s.self with busy := true } }
              return (s.enqueue (.removeWork work), { result := result })

/-- `Rafs_Compact`, with `Rafs_CreateCompactWorker`. -/
def compact (s : System) (task : Option TaskId) (partitionName : CString) :
    Except Fault (System × Reply) := do
  let status := s.getMountStatus partitionName
  if status ≠ .ok then return (s, { result := status })
  else
    let files ← s.files
    if files.numOpenFiles ≠ 0 then return (s, { result := .fileStillOpen })
    else if s.self.directory.isSome then return (s, { result := .directoryOpen })
    else if !files.compactIsNeeded then return (s, { result := .fileSystemClean })
    else
      let s := s.setFiles { files with compactIsNeeded := false }
      let s ← { s with self := { s.self with busy := true } }.allocateScanDirent
      let state :=
        if 1 < files.freeDirSlot then CompactState.start else CompactState.sendCompletionMessage
      return (s.enqueue (.compactWork task state), { result := .ok })

/-- `Rafs_Mount`, with `Rafs_CreateMountWorker`. -/
def mount (s : System) (task : Option TaskId) (partitionName : CString) :
    Except Fault (System × Reply) := do
  if s.isReady ≠ .ok then return (s, { result := s.isReady })
  else
    let s := s.createFilesStructure
    if s.self.partition.isSome then return (s, { result := .alreadyMounted })
    else
      let s ← s.allocateScanDirent
      let (s, result) ← s.doMount partitionName
      if result = .ok then
        let s := { s with self := { s.self with busy := true } }
        return (s.enqueue (.mountWork task 0), { result := .ok })
      else
        let s ← s.freeScanDirent
        return (← s.freeFilesStructure, { result := result })

def unmount (s : System) (partitionName : CString) : Except Fault (System × Reply) := do
  if s.isReady ≠ .ok then return (s, { result := s.isReady })
  else if s.self.partition.isNone then return (s, { result := .notMounted })
  else
    let files ← s.files
    if s.self.directory.isSome then return (s, { result := .directoryOpen })
    else if files.numOpenFiles ≠ 0 then return (s, { result := .fileStillOpen })
    else
      let (s, result) ← s.doUnmount partitionName
      if result = .ok then return (← s.freeFilesStructure, { result := .ok })
      else return (s, { result := result })

def doStatfs (volume : Volume) : Except Fault RafsStatfs := do
  let free ← countFreeSectors volume
  let num := countFreeExtents volume.map
  let (inodes, actual) := getFreeExtents volume.map num
  panicFalse (actual == num)
  let active ← countActiveFiles volume
  return {
      sectorSize := volume.info.pageSize
      partitionSize := volume.info.partitionSize
      blockSize := volume.info.blockSize
      availableSpace := sub32 volume.info.partitionSize (mul32 volume.info.blockSize 2)
      freeSpace := mul32 free.toNat volume.info.blockSize
      contiguousSpace := inodes.head?.map fun inode =>
        mul32 inode.length.toNat volume.info.blockSize
      fileSpace := (inodes.take maxInodes).foldl (fun space inode =>
        add32 space (mul32 inode.length.toNat volume.info.blockSize)) 0
      maxDirEntries := maxDirEntries - 1
      numDirEntries := active }

def statfs (s : System) (partitionName : CString) : Except Fault (System × Reply) := do
  let status := s.getMountStatus partitionName
  if status ≠ .ok then return (s, { result := status })
  else
    let s ← s.allocateScanDirent
    let statfs ← doStatfs (← s.volume)
    let s ← s.freeScanDirent
    return (s, { result := .ok, statfs := some statfs })

/-- The requests of `Rafs_IoControl`, with arguments its assertions accept. -/
inductive IoControl
  | getPartitionHandle (partitionName : CString)
  | getFileOffset (pathname : CString)
  | setAppStatusIdleCb (callback : Nat)
  | unsupported

def doIocGetFileOffset (s : System) (pathname : CString) : Except Fault Reply := do
  let status := s.getMountStatus pathname
  if status ≠ .ok then return { result := status }
  else
    match getFilename pathname with
    | .error result => return { result := result }
    | .ok filename =>
        let volume ← s.volume
        match ← findDirEntryByFilename volume filename with
        | none => return { result := .fileNotFound }
        | some (_, entry) =>
            return {
              result := .ok
              fileOffset := some
                (mul32 (entry.inodes firstInode).offset.toNat volume.info.blockSize) }

def ioControl (s : System) : IoControl → Except Fault (System × Reply)
  | .getPartitionHandle partitionName => .ok (s, { result := s.getMountStatus partitionName })
  | .getFileOffset pathname => do
      let s ← s.allocateScanDirent
      let reply ← s.doIocGetFileOffset pathname
      return (← s.freeScanDirent, reply)
  | .setAppStatusIdleCb callback =>
      .ok ({ s with self := { s.self with idler := some callback } }, { result := .ok })
  | .unsupported => .ok (s, { result := .unsupportedIoc })

def isCleanBlock (volume : Volume) (block : Nat) : Except Fault Bool := do
  panicFalse (block < volume.info.numBlocks)
  let offset := mul32 block volume.info.blockSize
  return (List.range (volume.info.blockSize / 64)).all fun i =>
    (volume.device.read (offset + i * 64) 64).all fun byte => byte == 0xFF

/-- `Rafs_CleanNextBlock`, over `count` blocks from `first` on. -/
def cleanNextBlock (volume : Volume) : Nat → Nat → Except Fault (Device × Nat)
  | 0, first => .ok (volume.device, first)
  | count + 1, first => do
      let inUse ← volume.map.isBlockInUse first
      let clean ← if inUse then pure true else isCleanBlock volume first
      if clean then cleanNextBlock volume count (first + 1)
      else
        let offset := mul32 first volume.info.blockSize
        return (volume.device.erase offset volume.info.blockSize, first)

/-- The end of the mount, remove and compact workers. -/
def finishWork (s : System) : Except Fault System := do
  let s ← s.freeScanDirent
  return { s with self := { s.self with busy := false } }

def progressMountWorker (s : System) (cfmTask : Option TaskId) (blockToScan : Nat) :
    Except Fault System := do
  let partition ← s.partition
  let numBlocks := partition.info.numBlocks
  if blockToScan < numBlocks then
    let volume ← s.volume
    let (device, lastCleaned) ← cleanNextBlock volume (numBlocks - blockToScan) blockToScan
    let s := { s with device := device }
    if lastCleaned ≠ numBlocks then return s.enqueue (.mountWork cfmTask (lastCleaned + 1))
    else (s.confirm cfmTask .mountComplete).finishWork
  else (s.confirm cfmTask .mountComplete).finishWork

def progressCompactWorker (s : System) (cfmTask : Option TaskId) (state : CompactState) :
    Except Fault System := do
  let volume ← s.volume
  match ← compactWorkerAction volume state with
  | some (volume, next) => return (s.setVolume volume).enqueue (.compactWork cfmTask next)
  | none =>
      (s.confirm cfmTask fun task =>
        .compactComplete task (maxDirEntries - volume.files.freeDirSlot)).finishWork

def progressWriteWorker (s : System) (fileId : FileId) (buf : Nat → UInt8) (count : Nat) :
    Except Fault System := do
  let (s, reply) ← s.write fileId buf count
  let files ← s.files
  match findOpenFileInstanceById files fileId with
  | none => .error .nullOpenFile
  | some (_, openFile) =>
      return s.confirm openFile.task fun task =>
        .writeComplete task reply.result fileId count reply.numBytesWritten

def progressRemoveWorker (s : System) (work : RemoveWork) : Except Fault System := do
  match work.inodes.getLast? with
  | none => (s.confirm work.cfmTask .removeComplete).finishWork
  | some inode =>
      let partition ← s.partition
      let offset := mul32 inode.offset.toNat partition.info.blockSize
      let s := { s with device := s.device.erase offset partition.info.blockSize }
      let inode := { inode with offset := inode.offset + 1, length := inode.length - 1 }
      let inodes :=
        if inode.length = 0 then work.inodes.dropLast else work.inodes.dropLast ++ [inode]
      if inodes.length ≠ 0 then return s.enqueue (.removeWork { work with inodes := inodes })
      else (s.confirm work.cfmTask .removeComplete).finishWork

def rafsTask : TaskId := 0

/-- `Rafs_IdleTimeout`; `appIsIdle` is the answer of the application callback. -/
def idleTimeout (s : System) (appIsIdle : Bool) : Except Fault System := do
  match s.self.partition with
  | none => return s
  | some partition =>
      if s.self.idler.isSome ∧ appIsIdle = true then
        let mountPoint : CString := ⟨rafsPathSeparator :: partition.partitionName.val, by
          have := partition.partitionName.property
          simp [rafsPathSeparator, this]⟩
        return (← s.compact (some rafsTask) mountPoint).1
      else return s

/-- `Rafs_MessageHandler`, on a work message. -/
def handleMessage (s : System) : WorkMessage → Except Fault System
  | .mountWork cfmTask blockToScan => s.progressMountWorker cfmTask blockToScan
  | .compactWork cfmTask state => s.progressCompactWorker cfmTask state
  | .writeWork fileId buf count => s.progressWriteWorker fileId buf count
  | .removeWork work => s.progressRemoveWorker work

/-- What happens to a system: a public call, the delivery of one of the queued
work messages, or the idle timer. -/
inductive Event
  | open_ (task : Option TaskId) (pathname : CString) (flags : RafsMode)
  | close (fileId : FileId)
  | read (fileId : FileId) (numBytesToRead : Nat)
  | write (fileId : FileId) (buf : Nat → UInt8) (numBytesToWrite : Nat)
  | writeBackground (fileId : FileId) (buf : Nat → UInt8) (numBytesToWrite : Nat)
  | setPosition (fileId : FileId) (position : Nat)
  | getPosition (fileId : FileId)
  | openDirectory (pathname : CString)
  | readDirectory (validDir : Bool)
  | closeDirectory (validDir : Bool)
  | remove (task : Option TaskId) (pathname : CString)
  | compact (task : Option TaskId) (partitionName : CString)
  | mount (task : Option TaskId) (partitionName : CString)
  | unmount (partitionName : CString)
  | statfs (partitionName : CString)
  | ioControl (request : IoControl)
  | deliver (index : Nat)
  | idleTimeout (appIsIdle : Bool)

/-- One event.  A delivery takes the message off the queue and has no reply. -/
def step (s : System) : Event → Except Fault (System × Option Reply)
  | .open_ task pathname flags => reply (s.open_ task pathname flags)
  | .close fileId => reply (s.close fileId)
  | .read fileId numBytesToRead => reply (s.read fileId numBytesToRead)
  | .write fileId buf numBytesToWrite => reply (s.write fileId buf numBytesToWrite)
  | .writeBackground fileId buf numBytesToWrite =>
      reply (s.writeBackground fileId buf numBytesToWrite)
  | .setPosition fileId position => reply (s.setPosition fileId position)
  | .getPosition fileId => reply (s.getPosition fileId)
  | .openDirectory pathname => reply (s.openDirectory pathname)
  | .readDirectory validDir => reply (s.readDirectory validDir)
  | .closeDirectory validDir => reply (s.closeDirectory validDir)
  | .remove task pathname => reply (s.remove task pathname)
  | .compact task partitionName => reply (s.compact task partitionName)
  | .mount task partitionName => reply (s.mount task partitionName)
  | .unmount partitionName => reply (s.unmount partitionName)
  | .statfs partitionName => reply (s.statfs partitionName)
  | .ioControl request => reply (s.ioControl request)
  | .deliver index =>
      match s.queue[index]? with
      | none => .ok (s, none)
      | some message => do
          return (← { s with queue := s.queue.eraseIdx index }.handleMessage message, none)
  | .idleTimeout appIsIdle => do return (← s.idleTimeout appIsIdle, none)
where
  reply (outcome : Except Fault (System × Reply)) : Except Fault (System × Option Reply) := do
    let (s, reply) ← outcome
    return (s, some reply)

def run (allowed : System → Event → Bool) : System → List Event → Option System
  | s, [] => some s
  | s, event :: events =>
      if allowed s event then
        match s.step event with
        | .error _ => none
        | .ok (s, _) => run allowed s events
      else none

theorem run_invariant {allowed : System → Event → Bool} {Invariant : System → Prop}
    (step : ∀ s event s' reply, Invariant s → allowed s event = true →
      s.step event = .ok (s', reply) → Invariant s')
    {s s' : System} (initial : Invariant s) {events : List Event}
    (ran : s.run allowed events = some s') : Invariant s' := by
  induction events generalizing s with
  | nil => exact Option.some.inj ran ▸ initial
  | cons event events induction =>
    rw [run] at ran
    split at ran
    case isFalse => contradiction
    case isTrue isAllowed =>
      split at ran
      case h_1 => contradiction
      case h_2 next reply stepped =>
        exact induction (step s event next reply initial isAllowed stepped) ran

def init (info : PartInfo) (cells : Cells) : System where
  self :=
    { busy := false
      partition := none
      map := ⟨[]⟩
      files := none
      directory := none
      idler := none }
  device := .observe cells
  info := info
  queue := []
  sent := []

end System

end HeadsetAdk.Rafs
