import HeadsetAdk.Lib.NorFlash
import HeadsetAdk.Rafs.Dirent

/-!
# The two file allocation tables in flash

Directory level accesses, from `rafs_directory.c`.  Every access within the
partition succeeds, so the result flags of the flash operations are left out.
-/

namespace HeadsetAdk.Rafs

open NorFlash

def slotOffset (id : BlockId) (entryNumber : Nat) : Nat :=
  directorySize * id.block + entryNumber * direntSize

/-- The entry stored in a table, as contents of the flash. -/
def entryAt (cells : Cells) (id : BlockId) (entryNumber : Nat) : DirEntry :=
  .ofBytes fun index => cells (slotOffset id entryNumber + index)

def dirEntryRead (device : Device) (id : BlockId) (entryNumber : Nat) : DirEntry :=
  entryAt device.cells id entryNumber

/-- `Rafs_DirEntryReadMember`, for a member of one byte. -/
def dirEntryReadMember (device : Device) (id : BlockId) (entryNumber memberOffset : Nat) :
    UInt8 :=
  device.cells (slotOffset id entryNumber + memberOffset)

def dirEntryWriteMember (device : Device) (id : BlockId) (data : Nat → UInt8)
    (entryNumber memberOffset memberSize : Nat) : Device :=
  device.program (slotOffset id entryNumber + memberOffset) memberSize data

inductive DirentWriteType
  | all
  | first
  | data
  deriving DecidableEq

def dirEntryPartWrite (device : Device) (id : BlockId) (entry : DirEntry)
    (entryNumber : Nat) : DirentWriteType → Device
  | .all => dirEntryWriteMember device id entry.byte entryNumber 0 direntSize
  | .first => dirEntryWriteMember device id entry.byte entryNumber 0 1
  | .data =>
      dirEntryWriteMember device id (fun index => entry.byte (1 + index)) entryNumber 1
        (direntSize - 1)

/-- `Rafs_DirEntryWrite`: everything but the first byte, then the first byte. -/
def dirEntryWrite (device : Device) (id : BlockId) (entry : DirEntry)
    (entryNumber : Nat) : Device :=
  dirEntryPartWrite (dirEntryPartWrite device id entry entryNumber .data) id entry
    entryNumber .first

theorem entryAt_byte (cells : Cells) (id : BlockId) (entryNumber : Nat) {index : Nat}
    (inside : index < 36) :
    (entryAt cells id entryNumber).byte index = cells (slotOffset id entryNumber + index) :=
  DirEntry.byte_ofBytes _ inside

theorem entryAt_first (cells : Cells) (id : BlockId) (entryNumber : Nat) :
    (entryAt cells id entryNumber).filename 0 = cells (slotOffset id entryNumber) :=
  rfl

theorem entryAt_congr {first second : Cells} {id : BlockId} {entryNumber : Nat}
    (agree : ∀ index < 36, first (slotOffset id entryNumber + index) =
      second (slotOffset id entryNumber + index)) :
    entryAt first id entryNumber = entryAt second id entryNumber :=
  DirEntry.ofBytes_congr agree

theorem isErasedEntry_entryAt (cells : Cells) (id : BlockId) (entryNumber : Nat) :
    isErasedEntry (entryAt cells id entryNumber) = true ↔
      ∀ index < 36, cells (slotOffset id entryNumber + index) = 0xFF := by
  rw [isErasedEntry_iff]
  constructor
  · intro erased index inside
    rw [← entryAt_byte cells id entryNumber inside, erased index inside]
  · intro erased index inside
    rw [entryAt_byte cells id entryNumber inside, erased index inside]

theorem slotOffset_end_le (id : BlockId) {entryNumber : Nat} (inTable : entryNumber < 113) :
    slotOffset id entryNumber + 36 ≤ 8192 := by
  cases id <;> simp only [slotOffset, BlockId.block, directorySize, direntSize] <;> omega

theorem slotOffset_disjoint {id other : BlockId} {entryNumber otherNumber : Nat}
    (inTable : entryNumber < 113) (otherInTable : otherNumber < 113)
    (different : ¬ (other = id ∧ otherNumber = entryNumber)) :
    slotOffset other otherNumber + 36 ≤ slotOffset id entryNumber ∨
      slotOffset id entryNumber + 36 ≤ slotOffset other otherNumber := by
  cases id <;> cases other <;>
    simp only [slotOffset, BlockId.block, directorySize, direntSize] <;>
    simp only [true_and, reduceCtorEq, false_and, not_false_iff] at different <;> omega

section Writes

theorem entryAt_program_byte (cells : Cells) (id : BlockId) (entryNumber : Nat)
    {memberOffset memberSize index : Nat} (data : Nat → UInt8) (inside : index < 36) :
    (entryAt ((Op.program (slotOffset id entryNumber + memberOffset) memberSize data).apply
        cells) id entryNumber).byte index =
      if memberOffset ≤ index ∧ index < memberOffset + memberSize then
        (entryAt cells id entryNumber).byte index &&& data (index - memberOffset)
      else (entryAt cells id entryNumber).byte index := by
  rw [entryAt_byte _ id entryNumber inside, entryAt_byte _ id entryNumber inside]
  split
  case isTrue within =>
    rw [program_apply_inside (by omega) (by omega), Nat.add_sub_add_left]
  case isFalse without =>
    rw [program_apply_outside (by omega)]

variable {cells : Cells} {id : BlockId} {entryNumber memberOffset memberSize : Nat}
  {data : Nat → UInt8}

theorem entryAt_program_other {other : BlockId} {otherNumber : Nat}
    (within : memberOffset + memberSize ≤ 36) (inTable : entryNumber < 113)
    (otherInTable : otherNumber < 113) (different : ¬ (other = id ∧ otherNumber = entryNumber)) :
    entryAt ((Op.program (slotOffset id entryNumber + memberOffset) memberSize data).apply
        cells) other otherNumber = entryAt cells other otherNumber := by
  have apart := slotOffset_disjoint inTable otherInTable different
  apply entryAt_congr
  intro index inside
  apply program_apply_outside
  omega

theorem program_entry_data {address : Nat} (within : memberOffset + memberSize ≤ 36)
    (inTable : entryNumber < 113) (beyond : 8192 ≤ address) :
    (Op.program (slotOffset id entryNumber + memberOffset) memberSize data).apply cells
      address = cells address := by
  have ends := slotOffset_end_le id inTable
  apply program_apply_outside
  omega

end Writes

end HeadsetAdk.Rafs
