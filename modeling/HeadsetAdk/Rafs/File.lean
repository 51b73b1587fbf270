import HeadsetAdk.Rafs.Directory
import HeadsetAdk.Rafs.Extent

/-!
# Operations on files

The operations of `rafs_file.c`.  Positions are `uint32` values.  The functions that look at
`scan_dir_entry` return the entry they leave there; whether the buffer is allocated is part of the
state.
-/

namespace HeadsetAdk.Rafs

open NorFlash

section Words

def add32 (a b : Nat) : Nat := (a + b) % 2 ^ 32

def sub32 (a b : Nat) : Nat := (a + (2 ^ 32 - b % 2 ^ 32)) % 2 ^ 32

def mul32 (a b : Nat) : Nat := a * b % 2 ^ 32

variable {a b : Nat}

theorem add32_eq (small : a + b < 2 ^ 32) : add32 a b = a + b :=
  Nat.mod_eq_of_lt small

theorem sub32_eq (le : b ≤ a) (small : a < 2 ^ 32) : sub32 a b = a - b := by
  unfold sub32
  omega

theorem mul32_eq (small : a * b < 2 ^ 32) : mul32 a b = a * b :=
  Nat.mod_eq_of_lt small

end Words

abbrev TaskId := Nat

/-- `raPartition_info`, of a partition that RAFS can be configured for: a FAT
fits in a block (`DIRECTORY_SIZE` should be the same as the partition block
size), both FATs fit in the partition, and its blocks have 16-bit numbers. -/
structure PartInfo where
  partitionSize : Nat
  blockSize : Nat
  pageSize : Nat
  sizeFits : partitionSize < 2 ^ 32
  directoryFits : 4096 ≤ blockSize
  tablesFit : 2 ≤ partitionSize / blockSize
  blocksFit : partitionSize / blockSize ≤ 65536

def PartInfo.numBlocks (info : PartInfo) : Nat := info.partitionSize / info.blockSize

inductive RafsMode
  | rdonly
  | wronly
  deriving DecidableEq, Repr

structure OpenFile where
  fileDirEntry : DirEntry
  task : Option TaskId
  directoryIndex : Nat
  filePosition : Nat
  extentPosition : Nat
  currentInode : Fin 3
  flags : RafsMode

structure FileInfo where
  openFiles : Fin 4 → Option OpenFile
  scanDirEntryAllocated : Bool
  freeDirSlot : Nat
  fileIsOpenForWriting : Bool
  compactIsNeeded : Bool
  numOpenFiles : Nat
  sequenceNumber : UInt16

/-- The parts of `rafs_instance_t` that belong to a mounted partition, with the
partition itself. -/
structure Volume where
  info : PartInfo
  device : Device
  map : SectorMap
  files : FileInfo

/-- `rafs_file_t` -/
abbrev FileId := Int

def fileIndex (fileId : Int) : Option (Fin 4) :=
  if inside : 0 ≤ fileId ∧ fileId < 4 then some ⟨fileId.toNat, by omega⟩ else none

/-- Reading or writing through `scan_dir_entry`. -/
def FileInfo.scanDirEntry (files : FileInfo) : Except Fault Unit :=
  if files.scanDirEntryAllocated then .ok () else .error .nullScanDirEntry

def FileInfo.setOpenFile (files : FileInfo) (index : Fin 4) (openFile : Option OpenFile) :
    FileInfo :=
  { files with openFiles := Function.update files.openFiles index openFile }

def OpenFile.inode (openFile : OpenFile) : Inode :=
  openFile.fileDirEntry.inodes openFile.currentInode

def OpenFile.setInode (openFile : OpenFile) (inode : Inode) : OpenFile :=
  { openFile with
    fileDirEntry :=
      { openFile.fileDirEntry with
        inodes := Function.update openFile.fileDirEntry.inodes openFile.currentInode inode } }

/-- `current_inode + 1`, when `current_inode < (MAX_INODES-1)`. -/
def OpenFile.nextInode (openFile : OpenFile) : Option (Fin 3) :=
  if next : openFile.currentInode.val < 2 then some ⟨openFile.currentInode.val + 1, by omega⟩
  else none

def findOpenFileInstanceById (files : FileInfo) (fileId : FileId) :
    Option (Fin 4 × OpenFile) :=
  (fileIndex fileId).bind fun index => (files.openFiles index).map fun openFile => (index, openFile)

def findOpenFileInstanceByName (files : FileInfo) (filename : CString) : Option OpenFile :=
  ((List.finRange 4).filterMap files.openFiles).find? fun openFile =>
    entryHasName openFile.fileDirEntry filename

def findFreeFileSlot (files : FileInfo) : Option (Fin 4) :=
  (List.finRange 4).find? fun index => (files.openFiles index).isNone

/-- `Rafs_FindDirEntryByFilename`: the slot and the entry found. -/
def findDirEntryByFilename (volume : Volume) (filename : CString) :
    Except Fault (Option (Nat × DirEntry)) := do
  volume.files.scanDirEntry
  return ((List.range' 1 (volume.files.freeDirSlot - 1)).map fun slot =>
    (slot, dirEntryRead volume.device .priFat slot)).find? fun found =>
      entryHasName found.2 filename

/-- `Rafs_MakeNewDirEntryForFilename`, on an entry cleared by
`Rafs_NewOpenFile`. -/
def makeNewDirEntryForFilename (filename : CString) (firstInode : Inode) : DirEntry where
  filename := safeStrncpy filename
  fileSize := 0
  statCounters := ⟨0, 0⟩
  inodes := ![firstInode, ⟨inodeUnused, inodeUnused⟩, ⟨inodeUnused, inodeUnused⟩]

/-- `Rafs_NewOpenFile`, with the directory entry stored next. -/
def newOpenFile (flags : RafsMode) (dirSlot : Nat) (task : Option TaskId)
    (entry : DirEntry) : OpenFile where
  fileDirEntry := entry
  task := task
  directoryIndex := dirSlot
  filePosition := 0
  extentPosition := 0
  currentInode := firstInode
  flags := flags

def writeAccessCount (device : Device) (id : BlockId) (entry : DirEntry) (dirSlot : Nat) :
    Device :=
  dirEntryWriteMember device id (LittleEndian.byte entry.statCounters.accessCount.toNat)
    dirSlot accessCountOffset 2

def FileInfo.addOpenFile (files : FileInfo) (index : Fin 4) (openFile : OpenFile) : FileInfo :=
  { files.setOpenFile index (some openFile) with
    numOpenFiles := (files.numOpenFiles + 1) % 65536 }

def countAccess (entry : DirEntry) : DirEntry :=
  { entry with
    statCounters :=
      { entry.statCounters with accessCount := entry.statCounters.accessCount <<< 1 } }

/-- The success of `rafs_doOpenRead`. -/
def openReader (volume : Volume) (task : Option TaskId) (flags : RafsMode) (dirSlot : Nat)
    (entry : DirEntry) (index : Fin 4) : Volume :=
  let entry := countAccess entry
  let device := writeAccessCount volume.device .priFat entry dirSlot
  let device := writeAccessCount device .secFat entry dirSlot
  { volume with
    device := device
    files := volume.files.addOpenFile index (newOpenFile flags dirSlot task entry) }

def doOpenRead (volume : Volume) (task : Option TaskId) (filename : CString)
    (flags : RafsMode) : Except Fault (Volume × RafsErrors × Option (Fin 4)) := do
  match ← findDirEntryByFilename volume filename with
  | none => return (volume, .fileNotFound, none)
  | some (dirSlot, entry) =>
      match findFreeFileSlot volume.files with
      | none => return (volume, .maxFilesOpened, none)
      | some index => return (openReader volume task flags dirSlot entry index, .ok, some index)

/-- The success of `rafs_doOpenWrite`. -/
def openWriter (volume : Volume) (task : Option TaskId) (flags : RafsMode)
    (filename : CString) (freeSpace : Inode) (index : Fin 4) : Volume :=
  let sequenceNumber := volume.files.sequenceNumber + 1
  let entry :=
    { makeNewDirEntryForFilename filename freeSpace with
      statCounters := ⟨sequenceNumber, initialAccess⟩ }
  let files := volume.files.addOpenFile index
    (newOpenFile flags volume.files.freeDirSlot task entry)
  { volume with
    files :=
      { files with
        freeDirSlot := files.freeDirSlot + 1
        fileIsOpenForWriting := true
        sequenceNumber := sequenceNumber } }

def doOpenWrite (volume : Volume) (task : Option TaskId) (filename : CString)
    (flags : RafsMode) : Except Fault (Volume × RafsErrors × Option (Fin 4)) := do
  match ← findDirEntryByFilename volume filename with
  | some _ => return (volume, .fileExists, none)
  | none =>
      if volume.files.fileIsOpenForWriting then return (volume, .maxFilesOpened, none)
      else if volume.files.freeDirSlot = maxDirEntries then
        return (volume, .fileSystemFull, none)
      else
        match findFreeFileSlot volume.files with
        | none => return (volume, .maxFilesOpened, none)
        | some index =>
            let freeSpace := findLongestFreeExtent volume.map
            if freeSpace.offset = 0 ∧ freeSpace.length = 0 then
              return (volume, .fileSystemFull, none)
            else
              return (openWriter volume task flags filename freeSpace index, .ok, some index)

/-- `Rafs_DoOpen`; `Rafs_IsWriteSafe` always allows writing. -/
def doOpen (volume : Volume) (task : Option TaskId) (filename : CString) :
    RafsMode → Except Fault (Volume × RafsErrors × Option (Fin 4))
  | .rdonly => doOpenRead volume task filename .rdonly
  | .wronly => doOpenWrite volume task filename .wronly

/-- The blocks of an extent that have been written to, as `Rafs_DoClose` rounds
them. -/
def usedBlocks (info : PartInfo) (extentPosition : Nat) : UInt16 :=
  UInt16.ofNat (extentPosition / info.blockSize +
    if extentPosition % info.blockSize ≠ 0 then 1 else 0)

/-- The open file whose entry is written by `Rafs_DoClose`. -/
def finaliseEntry (info : PartInfo) (openFile : OpenFile) : OpenFile :=
  let openFile := openFile.setInode
    { openFile.inode with length := usedBlocks info openFile.extentPosition }
  { openFile with
    fileDirEntry :=
      { openFile.fileDirEntry with fileSize := UInt32.ofNat openFile.filePosition } }

/-- The end of `Rafs_DoClose`: the slot of the table is free again. -/
def FileInfo.removeOpenFile (files : FileInfo) (index : Fin 4) : FileInfo :=
  { files.setOpenFile index none with numOpenFiles := (files.numOpenFiles + 65535) % 65536 }

/-- The part of `Rafs_DoClose` that only a file open for writing takes. -/
def closeWriter (volume : Volume) (openFile : OpenFile) : Except Fault Volume := do
  let openFile := finaliseEntry volume.info openFile
  let (map, _) ← volume.map.addExtents [openFile.inode]
  let device := dirEntryWrite volume.device .priFat openFile.fileDirEntry openFile.directoryIndex
  return { volume with
    map := map
    device := dirEntryWrite device .secFat openFile.fileDirEntry openFile.directoryIndex
    files := { volume.files with fileIsOpenForWriting := false } }

def doClose (volume : Volume) (fileId : FileId) : Except Fault (Volume × RafsErrors) := do
  match findOpenFileInstanceById volume.files fileId with
  | none => return (volume, .ok)
  | some (index, openFile) =>
      let volume ← if openFile.flags = .wronly then closeWriter volume openFile else pure volume
      return ({ volume with files := volume.files.removeOpenFile index }, .ok)

/-- The part of the loop bodies of `Rafs_DoRead` and `Rafs_DoWrite` that looks at
the current extent: where it continues and how much of it is left. -/
def OpenFile.extentStart (info : PartInfo) (openFile : OpenFile) : Nat :=
  add32 (mul32 openFile.inode.offset.toNat info.blockSize) openFile.extentPosition

def OpenFile.extentFree (info : PartInfo) (openFile : OpenFile) : Nat :=
  sub32 (mul32 openFile.inode.length.toNat info.blockSize) openFile.extentPosition

def OpenFile.fileRemaining (openFile : OpenFile) : Nat :=
  sub32 openFile.fileDirEntry.fileSize.toNat openFile.filePosition

def OpenFile.advance (openFile : OpenFile) (length : Nat) : OpenFile :=
  { openFile with
    filePosition := add32 openFile.filePosition length
    extentPosition := add32 openFile.extentPosition length }

/-- `current_inode++` with `extent_position = 0`. -/
def OpenFile.enterInode (openFile : OpenFile) (next : Fin 3) : OpenFile :=
  { openFile with currentInode := next, extentPosition := 0 }

/-- The loop of `Rafs_DoRead`: the bytes read, the open file and the result.  Each
further pass is on a later inode, so three passes are all there can be. -/
def readLoop (info : PartInfo) (device : Device) :
    Nat → OpenFile → Nat → List UInt8 × OpenFile × RafsErrors
  | 0, openFile, _ => ([], openFile, .ok)
  | passes + 1, openFile, remainingToRead =>
      let thisReadLen := min (min openFile.fileRemaining remainingToRead)
        (openFile.extentFree info)
      let bytes := device.read (openFile.extentStart info) thisReadLen
      let openFile := openFile.advance thisReadLen
      let remainingToRead := remainingToRead - thisReadLen
      if 0 < remainingToRead then
        match openFile.nextInode with
        | none => (bytes, openFile, .noMoreData)
        | some next =>
            if isValidInode (openFile.fileDirEntry.inodes next) then
              let openFile := openFile.enterInode next
              if openFile.filePosition < openFile.fileDirEntry.fileSize.toNat then
                let (more, openFile, result) := readLoop info device passes openFile
                  remainingToRead
                (bytes ++ more, openFile, result)
              else (bytes, openFile, .ok)
            else (bytes, openFile, .noMoreData)
      else (bytes, openFile, .ok)

/-- `Rafs_DoRead`: the bytes stored through `buf`, whose number is
`*num_bytes_read`.  `none` is an id without an open file, which stores nothing. -/
def doRead (volume : Volume) (fileId : FileId) (numBytesToRead : Nat) :
    Volume × RafsErrors × Option (List UInt8) :=
  match findOpenFileInstanceById volume.files fileId with
  | none => (volume, .ok, none)
  | some (index, openFile) =>
      let (bytes, openFile, result) := readLoop volume.info volume.device 3 openFile
        numBytesToRead
      ({ volume with files := volume.files.setOpenFile index openFile },
        if 0 < bytes.length then .ok else result, some bytes)

/-- What the loop of `Rafs_DoWrite` changes. -/
structure WriteState where
  device : Device
  map : SectorMap
  openFile : OpenFile
  numBytesWritten : Nat

/-- The loop of `Rafs_DoWrite`, of three passes at most. -/
def writeLoop (info : PartInfo) :
    Nat → WriteState → (Nat → UInt8) → Nat → Except Fault (WriteState × RafsErrors)
  | 0, state, _, _ => .ok (state, .ok)
  | passes + 1, state, buffPtr, remainingToWrite => do
      let openFile := state.openFile
      let thisWriteLen := min remainingToWrite (openFile.extentFree info)
      let device :=
        if 0 < thisWriteLen then
          state.device.program (openFile.extentStart info) thisWriteLen buffPtr
        else state.device
      let openFile := openFile.advance thisWriteLen
      let numBytesWritten := add32 state.numBytesWritten thisWriteLen
      let remainingToWrite := remainingToWrite - thisWriteLen
      if 0 < remainingToWrite then
        match openFile.nextInode with
        | none => return (⟨device, state.map, openFile, numBytesWritten⟩, .fileFull)
        | some next =>
            -- The extent just filled is in use, so the search finds another.
            let (map, _) ← state.map.addExtents [openFile.inode]
            let freeSpace := findLongestFreeExtent map
            if freeSpace.offset = 0 ∧ freeSpace.length = 0 then
              -- Closing the file marks the last used extent.
              let (map, _) ← map.removeExtents [openFile.inode]
              return (⟨device, map, openFile, numBytesWritten⟩, .fileSystemFull)
            else
              let openFile := (openFile.enterInode next).setInode freeSpace
              writeLoop info passes ⟨device, map, openFile, numBytesWritten⟩
                (fun index => buffPtr (thisWriteLen + index)) remainingToWrite
      else return (⟨device, state.map, openFile, numBytesWritten⟩, .ok)

/-- `Rafs_DoWrite`, with `*num_bytes_written`. -/
def doWrite (volume : Volume) (fileId : FileId) (buf : Nat → UInt8)
    (numBytesToWrite : Nat) : Except Fault (Volume × RafsErrors × Option Nat) := do
  match findOpenFileInstanceById volume.files fileId with
  | none => return (volume, .ok, none)
  | some (index, openFile) =>
      let (state, result) ← writeLoop volume.info 3
        ⟨volume.device, volume.map, openFile, 0⟩ buf numBytesToWrite
      return ({ volume with
        device := state.device
        map := state.map
        files := volume.files.setOpenFile index state.openFile },
        result, some state.numBytesWritten)

/-- The loop of `Rafs_DoSetPosition`.  It stops at the latest when the inodes
run out, where the source would leave the array. -/
def seekLoop (info : PartInfo) : Nat → OpenFile → Nat → Except Fault OpenFile
  | 0, _, _ => .error .outOfBounds
  | passes + 1, openFile, scan =>
      let extentLength := mul32 openFile.inode.length.toNat info.blockSize
      if scan < extentLength then .ok { openFile with extentPosition := scan }
      else
        match openFile.nextInode with
        | none => .error .outOfBounds
        | some next =>
            let openFile := { openFile with currentInode := next }
            if scan - extentLength ≠ 0 then seekLoop info passes openFile (scan - extentLength)
            else .ok openFile

def doSetPosition (volume : Volume) (fileId : FileId) (position : Nat) :
    Except Fault (Volume × RafsErrors) := do
  match findOpenFileInstanceById volume.files fileId with
  | none => return (volume, .ok)
  | some (index, openFile) =>
      if openFile.flags ≠ .rdonly then return (volume, .notSeekable)
      else if position < openFile.fileDirEntry.fileSize.toNat then
        let openFile ← seekLoop volume.info 3
          { openFile with
            filePosition := position, currentInode := firstInode, extentPosition := 0 }
          position
        return ({ volume with files := volume.files.setOpenFile index openFile }, .ok)
      else return (volume, .invalidSeek)

def doGetPosition (volume : Volume) (fileId : FileId) : RafsErrors × Option Nat :=
  (.ok, (findOpenFileInstanceById volume.files fileId).map fun found => found.2.filePosition)

end HeadsetAdk.Rafs
