import HeadsetAdk.Rafs.File

/-!
# The directory

The operations of `rafs_fat.c` on the whole table: building the sector map,
listing the directory and removing files.
-/

namespace HeadsetAdk.Rafs

open NorFlash

def initialiseSectorMap (info : PartInfo) : Except Fault SectorMap :=
  (List.range info.numBlocks).foldlM SectorMap.markFreeBlock
    ⟨List.replicate ((info.numBlocks + 31) / 32) 0⟩

def countFreeSectors (volume : Volume) : Except Fault UInt16 :=
  (List.range volume.info.numBlocks).foldlM (fun result block => do
    let inUse ← volume.map.isBlockInUse block
    return if inUse then result else result + 1) 0

/-- What the loop of `Rafs_ScanDirectory` changes. -/
structure ScanState where
  map : SectorMap
  freeDirSlot : Nat
  sequenceNumber : UInt16

/-- The loop of `Rafs_ScanDirectory`, over `count` entries from `d` on. -/
def scanLoop (device : Device) : Nat → Nat → ScanState → Except Fault ScanState
  | 0, _, state => .ok state
  | count + 1, d, state =>
      let entry := dirEntryRead device .priFat d
      if isErasedEntry entry then .ok { state with freeDirSlot := d }
      else if !isDeletedEntry entry then do
        let (map, ok) ← state.map.addExtents (List.ofFn entry.inodes)
        let state :=
          { state with
            map := map
            sequenceNumber :=
              if state.sequenceNumber < entry.statCounters.sequenceCount then
                entry.statCounters.sequenceCount
              else state.sequenceNumber }
        if ok then scanLoop device count (d + 1) state else return state
      else scanLoop device count (d + 1) state

def scanDirectory (volume : Volume) : Except Fault Volume := do
  let (map, _) ← volume.map.addExtents (List.ofFn (getInitialRoot .priFat).inodes)
  let (map, _) ← map.addExtents (List.ofFn (getInitialRoot .secFat).inodes)
  volume.files.scanDirEntry
  let state ← scanLoop volume.device (maxDirEntries - 1) 1
    ⟨map, maxDirEntries, volume.files.sequenceNumber⟩
  return { volume with
    map := state.map
    files :=
      { volume.files with
        freeDirSlot := state.freeDirSlot
        sequenceNumber := state.sequenceNumber } }

def writeRootDirent (device : Device) (id : BlockId) : Device :=
  dirEntryWrite device id (getInitialRoot id) rootDirentNumber

/-- The flash operations of `Rafs_DoFormat`. -/
def doFormat (info : PartInfo) (device : Device) : Device :=
  let device := device.erase (mul32 BlockId.priFat.block info.blockSize) info.blockSize
  let device := device.erase (mul32 BlockId.secFat.block info.blockSize) info.blockSize
  writeRootDirent (writeRootDirent device .priFat) .secFat

structure DirInfo where
  readdirIndex : Nat
  numFilesPresent : UInt16
  numFilesRead : UInt16

structure RafsStat where
  filename : Fin 16 → UInt8
  fileSize : UInt32
  statCounters : StatCounters

def countActiveFiles (volume : Volume) : Except Fault UInt16 := do
  volume.files.scanDirEntry
  return UInt16.ofNat ((List.range' 1 (volume.files.freeDirSlot - 1)).countP fun d =>
    isValidEntry (dirEntryRead volume.device .priFat d))

/-- `Rafs_DoOpendir`: the directory left open, the result and `*num`. -/
def doOpendir (volume : Volume) :
    Option DirInfo → Except Fault (Option DirInfo × RafsErrors × Option UInt16)
  | some directory => .ok (some directory, .directoryOpen, none)
  | none => do
      let num ← countActiveFiles volume
      return (some ⟨1, num, 0⟩, .ok, some num)

/-- The loop of `Rafs_DoReaddir`: the entry found and the index after it. -/
def readdirLoop (device : Device) : Nat → Nat → Option DirEntry × Nat
  | 0, d => (none, d)
  | count + 1, d =>
      let entry := dirEntryRead device .priFat d
      if isValidEntry entry then (some entry, d + 1) else readdirLoop device count (d + 1)

/-- `Rafs_DoReaddir`; `validDir` tells `VALID_DIR` from `INVALID_DIR`. -/
def doReaddir (volume : Volume) (validDir : Bool) :
    Option DirInfo → Except Fault (Option DirInfo × RafsErrors × Option RafsStat)
  | none => .ok (none, .badId, none)
  | some directory => do
      if !validDir then return (some directory, .badId, none)
      else if directory.numFilesPresent = directory.numFilesRead then
        return (some directory, .noMoreFiles, none)
      else
        volume.files.scanDirEntry
        let (found, readdirIndex) := readdirLoop volume.device
          (volume.files.freeDirSlot - directory.readdirIndex) directory.readdirIndex
        match found with
        | none => return (some { directory with readdirIndex := readdirIndex }, .noMoreFiles, none)
        | some entry =>
            return (some { directory with
                readdirIndex := readdirIndex
                numFilesRead := directory.numFilesRead + 1 }, .ok,
              some
                { filename := safeStrncpy (nameOf entry)
                  fileSize := entry.fileSize
                  statCounters :=
                    ⟨entry.statCounters.sequenceCount, ~~~entry.statCounters.accessCount⟩ })

def doClosedir (validDir : Bool) : Option DirInfo → Option DirInfo × RafsErrors
  | none => (none, .badId)
  | some directory => if validDir then (none, .ok) else (some directory, .badId)

/-- `remove_work_t`, with the `num` inodes that are still to be erased. -/
structure RemoveWork where
  cfmTask : Option TaskId
  inodes : List Inode

/-- The count of used inodes made by `Rafs_DoRemove`. -/
def countValidInodes : List Inode → Except Fault Nat
  | [] => .ok 0
  | inode :: inodes => do
      panicFalse (!isDeletedInode inode)
      if !isUnusedInode inode then return (← countValidInodes inodes) + 1 else return 0

/-- One of the writes of `Rafs_DoRemove` that wipe the first character. -/
def wipeFirstCharacter (device : Device) (id : BlockId) (dirSlot : Nat) : Device :=
  dirEntryWriteMember device id (fun _ => 0) dirSlot 0 1

/-- `Rafs_DoRemove`, with the work it leaves for the background. -/
def doRemove (volume : Volume) (task : Option TaskId) (filename : CString) :
    Except Fault (Volume × RafsErrors × Option RemoveWork) := do
  if isValidFilename filename ≠ .ok then return (volume, isValidFilename filename, none)
  else
    match ← findDirEntryByFilename volume filename with
    | none => return (volume, .fileNotFound, none)
    | some (dirSlot, _) =>
        let entry := dirEntryRead volume.device .priFat dirSlot
        let device := wipeFirstCharacter volume.device .priFat dirSlot
        let device := wipeFirstCharacter device .secFat dirSlot
        let (map, _) ← volume.map.removeExtents (List.ofFn entry.inodes)
        let validInodes ← countValidInodes (List.ofFn entry.inodes)
        return ({ volume with
            device := device
            map := map
            files := { volume.files with compactIsNeeded := true } },
          .ok, some ⟨task, (List.ofFn entry.inodes).take validInodes⟩)

end HeadsetAdk.Rafs
