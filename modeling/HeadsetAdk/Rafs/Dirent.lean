import HeadsetAdk.Lib.LittleEndian
import Mathlib.Data.Fin.VecNotation
import Mathlib.Data.Fintype.Pi
import Mathlib.Data.List.TakeWhile

/-!
# Directory entries

The directory entry of `rafs_dirent.h` with its 36-byte image, the root entries, and the filename
rules of `rafs_utils.c`.
-/

namespace HeadsetAdk.Rafs

open LittleEndian (byte_number number number_byte number_congr number_lt)

inductive RafsErrors
  | ok
  | maxFilesOpened
  | badId
  | fileNotFound
  | fileSystemFull
  | fileFull
  | fatWriteFailed
  | fileExists
  | invalidLength
  | invalidCharacter
  | invalidPath
  | busy
  | invalidFat
  | invalidPartition
  | noPartition
  | notMounted
  | alreadyMounted
  | stillMounted
  | fileStillOpen
  | directoryOpen
  | noMoreFiles
  | noMoreData
  | invalidSeek
  | notSeekable
  | unsupportedIoc
  | lowPower
  | fileSystemClean
  deriving DecidableEq, Repr

abbrev CString := { characters : List UInt8 // 0 ∉ characters }

/-- `RAFS_MAX_FILELEN`, including the terminator. -/
abbrev rafsMaxFilelen : Nat := 16

abbrev maxInodes : Nat := 3

def inodeUnused : UInt16 := 0xFFFF

def inodeDeleted : UInt16 := 0

def initialAccess : UInt16 := 0xFFFF

abbrev directorySize : Nat := 4096

/-- `sizeof(dir_entry_t)` -/
abbrev direntSize : Nat := 36

abbrev maxDirEntries : Nat := directorySize / direntSize

structure Inode where
  offset : UInt16
  length : UInt16
  deriving DecidableEq, Repr

structure StatCounters where
  sequenceCount : UInt16
  accessCount : UInt16
  deriving DecidableEq, Repr

structure DirEntry where
  filename : Fin 16 → UInt8
  fileSize : UInt32
  statCounters : StatCounters
  inodes : Fin 3 → Inode

/-- Where a file's extents start. -/
abbrev firstInode : Fin 3 := 0

theorem DirEntry.eq_iff (first second : DirEntry) :
    (first.filename = second.filename ∧ first.fileSize = second.fileSize ∧
      first.statCounters = second.statCounters ∧ first.inodes = second.inodes) ↔
      first = second := by
  cases first
  cases second
  simp

instance : DecidableEq DirEntry := fun first second =>
  decidable_of_iff _ (DirEntry.eq_iff first second)

section Image

def Inode.byte (inode : Inode) (index : Nat) : UInt8 :=
  if index < 2 then LittleEndian.byte inode.offset.toNat index
  else LittleEndian.byte inode.length.toNat (index - 2)

def Inode.ofBytes (bytes : Nat → UInt8) : Inode where
  offset := UInt16.ofNat (number 2 bytes)
  length := UInt16.ofNat (number 2 fun index => bytes (2 + index))

/-- `offsetof(dir_entry_t, stat_counters.access_count)` -/
def accessCountOffset : Nat := 22

def DirEntry.byte (entry : DirEntry) (index : Nat) : UInt8 :=
  if inName : index < 16 then entry.filename ⟨index, inName⟩
  else if index < 20 then LittleEndian.byte entry.fileSize.toNat (index - 16)
  else if index < 22 then
    LittleEndian.byte entry.statCounters.sequenceCount.toNat (index - 20)
  else if index < 24 then
    LittleEndian.byte entry.statCounters.accessCount.toNat (index - 22)
  else (entry.inodes (Fin.ofNat 3 ((index - 24) / 4))).byte ((index - 24) % 4)

def DirEntry.ofBytes (bytes : Nat → UInt8) : DirEntry where
  filename index := bytes index
  fileSize := UInt32.ofNat (number 4 fun index => bytes (16 + index))
  statCounters :=
    { sequenceCount := UInt16.ofNat (number 2 fun index => bytes (20 + index))
      accessCount := UInt16.ofNat (number 2 fun index => bytes (22 + index)) }
  inodes inode := Inode.ofBytes fun index => bytes (24 + 4 * inode + index)

theorem toNat_ofNat_number16 (bytes : Nat → UInt8) :
    (UInt16.ofNat (number 2 bytes)).toNat = number 2 bytes :=
  Nat.mod_eq_of_lt (number_lt 2 bytes)

theorem toNat_ofNat_number32 (bytes : Nat → UInt8) :
    (UInt32.ofNat (number 4 bytes)).toNat = number 4 bytes :=
  Nat.mod_eq_of_lt (number_lt 4 bytes)

theorem ofNat_number_byte16 {value : UInt16} {bytes : Nat → UInt8}
    (image : ∀ index < 2, bytes index = LittleEndian.byte value.toNat index) :
    UInt16.ofNat (number 2 bytes) = value := by
  apply UInt16.toNat_inj.mp
  rw [toNat_ofNat_number16, number_congr image, number_byte]
  exact Nat.mod_eq_of_lt value.toNat_lt

theorem ofNat_number_byte32 {value : UInt32} {bytes : Nat → UInt8}
    (image : ∀ index < 4, bytes index = LittleEndian.byte value.toNat index) :
    UInt32.ofNat (number 4 bytes) = value := by
  apply UInt32.toNat_inj.mp
  rw [toNat_ofNat_number32, number_congr image, number_byte]
  exact Nat.mod_eq_of_lt value.toNat_lt

variable {first second : Nat → UInt8} {index : Nat}

theorem Inode.ofBytes_congr (agree : ∀ index < 4, first index = second index) :
    Inode.ofBytes first = Inode.ofBytes second := by
  rw [Inode.ofBytes, Inode.ofBytes, number_congr fun index inside => agree index (by omega),
    number_congr fun index inside => agree (2 + index) (by omega)]

theorem Inode.ofBytes_byte (inode : Inode) : Inode.ofBytes inode.byte = inode := by
  cases inode with
  | mk offset length =>
    rw [Inode.ofBytes, @ofNat_number_byte16 offset, @ofNat_number_byte16 length]
    · intro index _
      rw [Inode.byte, if_neg (by omega), Nat.add_sub_cancel_left]
    · intro index inside
      rw [Inode.byte, if_pos inside]

theorem Inode.byte_ofBytes (bytes : Nat → UInt8) (inside : index < 4) :
    (Inode.ofBytes bytes).byte index = bytes index := by
  unfold Inode.byte Inode.ofBytes
  split
  case isTrue first =>
    rw [toNat_ofNat_number16, byte_number bytes first]
  case isFalse second =>
    rw [toNat_ofNat_number16, byte_number _ (by omega)]
    congr 1
    omega

theorem DirEntry.ofBytes_congr (agree : ∀ index < 36, first index = second index) :
    DirEntry.ofBytes first = DirEntry.ofBytes second := by
  unfold DirEntry.ofBytes
  congr 1
  · funext index
    exact agree index (by omega)
  · rw [number_congr fun index inside => agree (16 + index) (by omega)]
  · rw [number_congr fun index inside => agree (20 + index) (by omega),
      number_congr fun index inside => agree (22 + index) (by omega)]
  · funext inode
    exact Inode.ofBytes_congr fun index inside => agree (24 + 4 * inode + index) (by omega)

theorem DirEntry.ofBytes_byte (entry : DirEntry) : DirEntry.ofBytes entry.byte = entry := by
  obtain ⟨filename, fileSize, ⟨sequenceCount, accessCount⟩, inodes⟩ := entry
  unfold DirEntry.ofBytes
  congr 1
  · funext index
    simp [DirEntry.byte, index.isLt]
  · apply ofNat_number_byte32
    intro index inside
    rw [DirEntry.byte, dif_neg (by omega), if_pos (by omega), Nat.add_sub_cancel_left]
  · congr 1
    · apply ofNat_number_byte16
      intro index inside
      rw [DirEntry.byte, dif_neg (by omega), if_neg (by omega), if_pos (by omega),
        Nat.add_sub_cancel_left]
    · apply ofNat_number_byte16
      intro index inside
      rw [DirEntry.byte, dif_neg (by omega), if_neg (by omega), if_neg (by omega),
        if_pos (by omega), Nat.add_sub_cancel_left]
  · funext inode
    rw [← Inode.ofBytes_byte (inodes inode)]
    apply Inode.ofBytes_congr
    intro index inside
    have position : (24 + 4 * inode.val + index - 24) / 4 = inode.val := by omega
    have within : (24 + 4 * inode.val + index - 24) % 4 = index := by omega
    have late : ¬ 24 + 4 * inode.val + index < 24 := by omega
    simp only [DirEntry.byte, position, within, late, if_false]
    rw [dif_neg (by omega), if_neg (by omega), if_neg (by omega)]
    simp

theorem DirEntry.byte_ofBytes (bytes : Nat → UInt8) (inside : index < 36) :
    (DirEntry.ofBytes bytes).byte index = bytes index := by
  unfold DirEntry.byte DirEntry.ofBytes
  dsimp only
  split
  case isTrue => rfl
  split
  case isTrue =>
    rw [toNat_ofNat_number32, byte_number _ (by omega)]
    congr 1
    omega
  split
  case isTrue =>
    rw [toNat_ofNat_number16, byte_number _ (by omega)]
    congr 1
    omega
  split
  case isTrue =>
    rw [toNat_ofNat_number16, byte_number _ (by omega)]
    congr 1
    omega
  case isFalse =>
    rw [Inode.byte_ofBytes _ (Nat.mod_lt _ (by decide))]
    congr 1
    simp only [Fin.ofNat]
    omega

theorem DirEntry.ext_bytes {first second : DirEntry}
    (agree : ∀ index < 36, first.byte index = second.byte index) :
    first = second := by
  rw [← first.ofBytes_byte, ← second.ofBytes_byte]
  exact DirEntry.ofBytes_congr agree

@[simp] theorem DirEntry.byte_zero (entry : DirEntry) :
    entry.byte 0 = entry.filename 0 :=
  rfl

end Image

def isUnusedInode (inode : Inode) : Bool :=
  let isUnused := inode.offset == inodeUnused && inode.length == inodeUnused
  let hasData := decide (0 < inode.length)
  isUnused || !hasData

def isDeletedInode (inode : Inode) : Bool :=
  inode.offset == inodeDeleted && inode.length == inodeDeleted

def isValidInode (inode : Inode) : Bool :=
  !(isUnusedInode inode || isDeletedInode inode)

/-- `Rafs_IsErasedData` over a whole entry. -/
def isErasedEntry (entry : DirEntry) : Bool :=
  (List.range direntSize).all fun index => entry.byte index == 0xFF

def isDeletedEntry (entry : DirEntry) : Bool := entry.filename 0 == 0

def isUnusedEntry (entry : DirEntry) : Bool := entry.filename 0 == 0xFF

def isValidEntry (entry : DirEntry) : Bool :=
  !(isUnusedEntry entry || isDeletedEntry entry)

theorem isErasedEntry_iff (entry : DirEntry) :
    isErasedEntry entry = true ↔ ∀ index < 36, entry.byte index = 0xFF := by
  simp [isErasedEntry]

theorem isValidInode_iff (inode : Inode) :
    isValidInode inode = true ↔
      0 < inode.length.toNat ∧ ¬ (inode.offset = inodeUnused ∧ inode.length = inodeUnused) := by
  have positive : 0 < inode.length ↔ 0 < inode.length.toNat := by
    simp [UInt16.lt_iff_toNat_lt]
  have deleted : inode.length = inodeDeleted ↔ inode.length.toNat = 0 := by
    rw [← UInt16.toNat_inj]
    rfl
  simp only [isValidInode, isUnusedInode, isDeletedInode, Bool.not_eq_true',
    Bool.or_eq_false_iff, Bool.not_eq_false', decide_eq_true_eq, Bool.and_eq_false_iff,
    beq_eq_false_iff_ne, ne_eq, positive, deleted]
  constructor
  · rintro ⟨⟨unused, data⟩, _⟩
    exact ⟨data, by tauto⟩
  · rintro ⟨data, unused⟩
    exact ⟨⟨by tauto, data⟩, Or.inr (by omega)⟩

/-- `Rafs_IsValidFilenameCharacter`; `strchr` also finds the terminator. -/
def validFilenameChars : List UInt8 :=
  ("ABCDEFGHIJKLMNOPQRSTUVWXYZabcdefghijklmnopqrstuvwxyz0123456789_.".toList).map
    fun character => UInt8.ofNat character.toNat

def isValidFilenameCharacter (character : UInt8) : Bool :=
  validFilenameChars.contains character || character == 0

def safeStrnlen (source : CString) (num : Nat) : Int :=
  if num = 0 then -1
  else if source.val.length ≤ num - 1 then source.val.length
  else -1

/-- `safe_strncpy`, as the contents of the destination. -/
def safeStrncpy (source : CString) : Fin 16 → UInt8 := fun index =>
  if index.val < rafsMaxFilelen - 1 then source.val.getD index 0 else 0

/-- `strncmp(first, second, num) == 0`.  A string that has ended reads as its
terminator. -/
def strncmpIsZero : Nat → List UInt8 → List UInt8 → Bool
  | 0, _, _ => true
  | num + 1, first, second =>
      first.headD 0 == second.headD 0 &&
        (first.headD 0 == 0 || strncmpIsZero num first.tail second.tail)

def isValidFilename (filename : CString) : RafsErrors :=
  if safeStrnlen filename rafsMaxFilelen ≤ 0 then .invalidLength
  else if filename.val.all isValidFilenameCharacter then .ok
  else .invalidCharacter

def nameOf (entry : DirEntry) : CString :=
  ⟨(List.ofFn entry.filename).takeWhile (· != 0), fun member => by
    simpa using List.mem_takeWhile_imp member⟩

/-- The comparison of an entry with a filename made by
`Rafs_FindDirEntryByFilename` and `Rafs_FindOpenFileInstanceByName`. -/
def entryHasName (entry : DirEntry) (filename : CString) : Bool :=
  strncmpIsZero rafsMaxFilelen (List.ofFn entry.filename) filename.val

theorem entryHasName_head {entry : DirEntry} {filename : CString}
    (same : entryHasName entry filename = true) :
    entry.filename 0 = filename.val.headD 0 := by
  have unfolded : (List.ofFn entry.filename).headD 0 = entry.filename 0 := by
    simp [List.ofFn_succ]
  simp only [entryHasName, strncmpIsZero, unfolded, Bool.and_eq_true, beq_iff_eq] at same
  exact same.1

theorem isValidFilename_head {filename : CString} (valid : isValidFilename filename = .ok) :
    filename.val.headD 0 ≠ 0 ∧ isValidFilenameCharacter (filename.val.headD 0) = true := by
  unfold isValidFilename at valid
  split at valid
  case isTrue => contradiction
  split at valid
  case isFalse => contradiction
  case isTrue length characters =>
    obtain ⟨characterList, noTerminator⟩ := filename
    cases characterList with
    | nil => simp [safeStrnlen, rafsMaxFilelen] at length
    | cons first rest =>
      refine ⟨?_, ?_⟩
      · rintro zero
        exact noTerminator (by simpa using Or.inl zero.symm)
      · exact List.all_eq_true.mp characters first List.mem_cons_self

theorem isValidFilenameCharacter_erased : isValidFilenameCharacter 0xFF = false := by
  decide

/-- The status values of the first byte of a root entry, `fat_compact_state`. -/
def fcsCompactStart : UInt8 := 0x70

def fcsValid : UInt8 := 0x7E

def fcsSecondaryMaster : UInt8 := 0xFE

def fcsErased : UInt8 := 0xFF

/-- `PRI_FAT` and `SEC_FAT` -/
inductive BlockId
  | priFat
  | secFat
  deriving DecidableEq, Repr

def BlockId.block : BlockId → Nat
  | .priFat => 0
  | .secFat => 1

def rootDirentNumber : Nat := 0

/-- `"~QTIL-RAFS-V" RAFS_VERSION` -/
def rootFilename : CString :=
  ⟨[0x7E, 0x51, 0x54, 0x49, 0x4C, 0x2D, 0x52, 0x41, 0x46, 0x53, 0x2D, 0x56, 0x30, 0x30, 0x31],
    by decide⟩

/-- `Rafs_GetInitialRoot`: `pri_root_dirent` and `sec_root_dirent`. -/
def getInitialRoot (id : BlockId) : DirEntry where
  filename := safeStrncpy rootFilename
  fileSize := 4096
  statCounters := ⟨0, 0⟩
  inodes := ![⟨UInt16.ofNat id.block, 1⟩, ⟨inodeUnused, inodeUnused⟩, ⟨inodeUnused, inodeUnused⟩]

end HeadsetAdk.Rafs
