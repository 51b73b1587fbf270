import HeadsetAdk.Rafs.Compact

/-!
# Integrity checks

`rafs_integrity.c`: the checks made at mount, which finish an interrupted
compaction, file close or file removal.
-/

namespace HeadsetAdk.Rafs

open NorFlash

inductive DirentType
  | unknown
  | erased
  | file
  | deleted
  deriving DecidableEq, Repr

def classifyDirent (character : UInt8) : DirentType :=
  if character = 0xFF then .erased
  else if character = 0 then .deleted
  else if isValidFilenameCharacter character then .file
  else .unknown

/-- The loop of `Rafs_CheckDirectoryEntries`, over `count` entries from `d` on. -/
def checkDirectoryEntriesLoop : Nat → Nat → Volume → Except Fault (Volume × RafsErrors)
  | 0, _, volume => .ok (volume, .ok)
  | count + 1, d, volume => do
      let priCh := dirEntryReadMember volume.device .priFat d 0
      let secCh := dirEntryReadMember volume.device .secFat d 0
      let priType := classifyDirent priCh
      let secType := classifyDirent secCh
      if priType = .erased ∧ secType = .erased then return (volume, .ok)
      else if priType = .unknown ∨ secType = .unknown then return (volume, .invalidFat)
      else
        match priType with
        | .erased =>
            if secType ≠ .erased then return (volume, .invalidFat)
            else checkDirectoryEntriesLoop count (d + 1) volume
        | .file =>
            if secType = .erased then do
              -- An interrupted file close: the secondary FAT catches up.
              volume.files.scanDirEntry
              let entry := dirEntryRead volume.device .priFat d
              checkDirectoryEntriesLoop count (d + 1)
                { volume with device := dirEntryWrite volume.device .secFat entry d }
            else if secType = .deleted then return (volume, .invalidFat)
            else checkDirectoryEntriesLoop count (d + 1) volume
        | .deleted =>
            if secType ≠ .deleted then
              -- An interrupted file removal: the secondary FAT catches up.
              checkDirectoryEntriesLoop count (d + 1)
                { volume with
                  device := dirEntryWriteMember volume.device .secFat (fun _ => priCh) d 0 1 }
            else checkDirectoryEntriesLoop count (d + 1) volume
        | .unknown => checkDirectoryEntriesLoop count (d + 1) volume

def checkDirectoryEntries (volume : Volume) : Except Fault (Volume × RafsErrors) :=
  checkDirectoryEntriesLoop (maxDirEntries - 1) 1 volume

/-- The passes of `Rafs_CheckAndRepairFileAllocationTables`. -/
def checkAndRepairPass : Nat → Volume → Except Fault (Volume × Bool)
  | 0, volume => .ok (volume, false)
  | passes + 1, volume => do
      let priStatus := dirEntryReadMember volume.device .priFat rootDirentNumber 0
      let secStatus := dirEntryReadMember volume.device .secFat rootDirentNumber 0
      if priStatus = fcsValid ∧ secStatus = fcsValid then return (volume, true)
      else if priStatus = fcsErased ∧ secStatus = fcsErased then return (volume, false)
      else if priStatus = fcsCompactStart ∧ (secStatus = fcsValid ∨ secStatus = fcsErased) then
        checkAndRepairPass passes (← compactRepairFromPrimary volume)
      else if secStatus = fcsSecondaryMaster then
        checkAndRepairPass passes (← compactRepairFromSecondary volume)
      else if priStatus = fcsErased ∧ secStatus = fcsValid then
        checkAndRepairPass passes
          { volume with device := writeStatus volume.device .priFat fcsValid }
      else checkAndRepairPass passes volume

def checkAndRepairFileAllocationTables (volume : Volume) : Except Fault (Volume × Bool) :=
  checkAndRepairPass 2 volume

def checkFileAllocationTables (volume : Volume) : Except Fault (Volume × Bool) :=
  let primaryOk := dirEntryRead volume.device .priFat rootDirentNumber = getInitialRoot .priFat
  let secondaryOk := dirEntryRead volume.device .secFat rootDirentNumber = getInitialRoot .secFat
  if primaryOk ∧ secondaryOk then .ok (volume, true)
  else checkAndRepairFileAllocationTables volume

def checkIntegrity (volume : Volume) : Except Fault (Volume × RafsErrors) := do
  let (volume, valid) ← checkFileAllocationTables volume
  if valid then checkDirectoryEntries volume else return (volume, .invalidFat)

/-- What `Rafs_DoMount` does once the partition is open. -/
def mountVolume (volume : Volume) : Except Fault (Volume × RafsErrors) := do
  let (volume, result) ← checkIntegrity volume
  if result = .ok then
    let map ← initialiseSectorMap volume.info
    return (← scanDirectory { volume with map := map }, .ok)
  else return (volume, .invalidFat)

end HeadsetAdk.Rafs
