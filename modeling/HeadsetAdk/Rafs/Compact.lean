import HeadsetAdk.Rafs.Fat

/-!
# Compaction

The actions of `rafs_compact.c`.  Each action belongs to one state of the
compaction worker, and the repair functions run the same actions at mount.
-/

namespace HeadsetAdk.Rafs

open NorFlash

def getNumberOfDirEntries (files : FileInfo) : Nat :=
  if files.freeDirSlot = 0 then maxDirEntries else files.freeDirSlot

/-- The loop that `Rafs_CountValidFiles`, `Rafs_GetNormalisedSequenceNumbers` and
`Rafs_CompactWorkerCopyToBackupAction` run over the entries of the primary FAT:
it stops at an erased entry and passes over deleted ones. -/
def forValidEntries {State : Type} (deviceOf : State → Device)
    (body : Nat → DirEntry → State → State) : Nat → Nat → State → State
  | 0, _, state => state
  | count + 1, i, state =>
      let entry := dirEntryRead (deviceOf state) .priFat i
      if isErasedEntry entry then state
      else
        forValidEntries deviceOf body count (i + 1)
          (if !isDeletedEntry entry then body i entry state else state)

/-- `struct resequence` -/
structure Resequence where
  fatIndex : Nat
  sequenceNumber : UInt16

def countValidFiles (volume : Volume) : Nat :=
  forValidEntries (fun _ => volume.device) (fun _ _ result => result + 1)
    (getNumberOfDirEntries volume.files - 1) 1 0

def getNormalisedSequenceNumbers (volume : Volume) (nFiles : Nat) :
    Except Fault (List Resequence) := do
  let resequence := forValidEntries (fun _ => volume.device)
    (fun i entry (resequence : List Resequence) =>
      if resequence.length < nFiles then
        resequence ++ [⟨i, entry.statCounters.sequenceCount⟩]
      else resequence)
    (getNumberOfDirEntries volume.files - 1) 1 []
  panicFalse (resequence.length == nFiles)
  let ordered := resequence.mergeSort fun a b => decide (a.sequenceNumber ≤ b.sequenceNumber)
  let renumbered := ordered.mapIdx fun i item =>
    { item with sequenceNumber := UInt16.ofNat (i + 1) }
  return renumbered.mergeSort fun a b => decide (a.fatIndex ≤ b.fatIndex)

def writeStatus (device : Device) (id : BlockId) (status : UInt8) : Device :=
  dirEntryWriteMember device id (fun _ => status) rootDirentNumber 0 1

/-- `RaPartitionErase` of the block of a table. -/
def eraseFat (volume : Volume) (id : BlockId) : Volume :=
  { volume with
    device := volume.device.erase (mul32 id.block volume.info.blockSize) volume.info.blockSize }

def compactWorkerStartAction (volume : Volume) : Volume :=
  { volume with device := writeStatus volume.device .priFat fcsCompactStart }

def compactWorkerEraseBackupFatAction (volume : Volume) : Volume := eraseFat volume .secFat

/-- The copying loop of `Rafs_CompactWorkerCopyToBackupAction`, on the device and
the next free entry of the secondary FAT. -/
def copyToBackupLoop (resequence : List Resequence) (limit : Nat) (device : Device) :
    Device × Nat :=
  forValidEntries (fun (state : Device × Nat) => state.1) (fun _ entry state =>
    let entry :=
      { entry with
        statCounters :=
          { entry.statCounters with
            sequenceCount := ((resequence[state.2 - 1]?).map Resequence.sequenceNumber).getD 0 } }
    (dirEntryWrite state.1 .secFat entry state.2, state.2 + 1)) (limit - 1) 1 (device, 1)

def compactWorkerCopyToBackupAction (volume : Volume) : Except Fault Volume := do
  volume.files.scanDirEntry
  let nFiles := countValidFiles volume
  let resequence ← getNormalisedSequenceNumbers volume nFiles
  let (device, j) := copyToBackupLoop resequence (getNumberOfDirEntries volume.files)
    volume.device
  panicFalse (j - 1 == nFiles)
  return { volume with
    device := device
    files :=
      { volume.files with
        sequenceNumber :=
          if 0 < nFiles then
            ((resequence[nFiles - 1]?).map Resequence.sequenceNumber).getD 0
          else volume.files.sequenceNumber
        freeDirSlot := j } }

def compactWorkerSecondaryIsMasterAction (volume : Volume) : Volume :=
  { volume with device := writeStatus volume.device .secFat fcsSecondaryMaster }

def compactWorkerErasePrimaryFatAction (volume : Volume) : Volume := eraseFat volume .priFat

/-- The loop of `Rafs_CompactWorkerCopyToPrimaryAction`. -/
def copyToPrimaryLoop : Nat → Nat → Device → Device
  | 0, _, device => device
  | count + 1, i, device =>
      let entry := dirEntryRead device .secFat i
      if isErasedEntry entry then device
      else copyToPrimaryLoop count (i + 1) (dirEntryWrite device .priFat entry i)

def compactWorkerCopyToPrimaryAction (volume : Volume) : Except Fault Volume := do
  volume.files.scanDirEntry
  return { volume with
    device := copyToPrimaryLoop (getNumberOfDirEntries volume.files - 1) 1 volume.device }

def compactWorkerWriteFatHeaderdataAction (volume : Volume) : Volume :=
  let device := dirEntryPartWrite volume.device .priFat (getInitialRoot .priFat)
    rootDirentNumber .data
  { volume with
    device := dirEntryPartWrite device .secFat (getInitialRoot .secFat) rootDirentNumber .data }

/-- `Rafs_CompactWorkerSetFatsValidAction`: marking the primary FAT valid is the
very last step. -/
def compactWorkerSetFatsValidAction (volume : Volume) : Volume :=
  let device := dirEntryPartWrite volume.device .secFat (getInitialRoot .secFat)
    rootDirentNumber .first
  { volume with
    device := dirEntryPartWrite device .priFat (getInitialRoot .priFat) rootDirentNumber .first }

/-- `rafs_compact_states_t` -/
inductive CompactState
  | start
  | eraseSecondaryFat
  | copyDirentsToBackup
  | setSecondaryAsMaster
  | erasePrimaryFat
  | copyDirentsToPrimary
  | writeFatHeaderData
  | setFatsValid
  | sendCompletionMessage
  deriving DecidableEq, Repr

/-- The action of a state of the compaction worker and the state it goes on
to.  `none` is the state that sends the completion message. -/
def compactWorkerAction (volume : Volume) :
    CompactState → Except Fault (Option (Volume × CompactState))
  | .start => .ok (some (compactWorkerStartAction volume, .eraseSecondaryFat))
  | .eraseSecondaryFat =>
      .ok (some (compactWorkerEraseBackupFatAction volume, .copyDirentsToBackup))
  | .copyDirentsToBackup => do
      return some (← compactWorkerCopyToBackupAction volume, .setSecondaryAsMaster)
  | .setSecondaryAsMaster =>
      .ok (some (compactWorkerSecondaryIsMasterAction volume, .erasePrimaryFat))
  | .erasePrimaryFat =>
      .ok (some (compactWorkerErasePrimaryFatAction volume, .copyDirentsToPrimary))
  | .copyDirentsToPrimary => do
      return some (← compactWorkerCopyToPrimaryAction volume, .writeFatHeaderData)
  | .writeFatHeaderData =>
      .ok (some (compactWorkerWriteFatHeaderdataAction volume, .setFatsValid))
  | .setFatsValid =>
      .ok (some (compactWorkerSetFatsValidAction volume, .sendCompletionMessage))
  | .sendCompletionMessage => .ok none

def runCompactWorker : Nat → Volume → CompactState → Except Fault Volume
  | 0, volume, _ => .ok volume
  | messages + 1, volume, state => do
      match ← compactWorkerAction volume state with
      | none => return volume
      | some (volume, next) => runCompactWorker messages volume next

def compactRepairFromSecondary (volume : Volume) : Except Fault Volume := do
  let volume := compactWorkerErasePrimaryFatAction volume
  let volume ← compactWorkerCopyToPrimaryAction volume
  let volume := compactWorkerWriteFatHeaderdataAction volume
  return compactWorkerSetFatsValidAction volume

def compactRepairFromPrimary (volume : Volume) : Except Fault Volume := do
  let volume := compactWorkerEraseBackupFatAction volume
  let volume ← compactWorkerCopyToBackupAction volume
  let volume := compactWorkerSecondaryIsMasterAction volume
  compactRepairFromSecondary volume

end HeadsetAdk.Rafs
