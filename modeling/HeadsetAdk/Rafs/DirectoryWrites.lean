import HeadsetAdk.Rafs.Integrity

/-!
# What directory writes leave in the tables

NOR flash combines what is written to an entry with what is there.  A slot accepts an entry when
that entry is what remains.
-/

namespace HeadsetAdk.Rafs

open NorFlash

/-- Programming `entry` over `old` leaves `entry`. -/
def DirEntry.Accepts (old entry : DirEntry) : Prop :=
  ∀ index < 36, old.byte index &&& entry.byte index = entry.byte index

theorem DirEntry.accepts_of_erased {old : DirEntry} (erased : isErasedEntry old = true)
    (entry : DirEntry) : old.Accepts entry := by
  intro index inside
  rw [(isErasedEntry_iff old).mp erased index inside, ones_and]

/-- An entry of which everything but the first byte was written. -/
def DirEntry.torn (entry : DirEntry) : DirEntry :=
  { entry with filename := fun index => if index.val = 0 then 0xFF else entry.filename index }

theorem DirEntry.torn_byte (entry : DirEntry) {index : Nat} (inside : index < 36) :
    entry.torn.byte index = if index = 0 then 0xFF else entry.byte index := by
  by_cases first : index = 0
  · subst first
    simp [DirEntry.torn]
  · rw [if_neg first]
    unfold DirEntry.byte DirEntry.torn
    by_cases inName : index < 16
    · rw [dif_pos inName, dif_pos inName]
      exact if_neg first
    · rw [dif_neg inName, dif_neg inName]

theorem DirEntry.torn_accepts (entry : DirEntry) : entry.torn.Accepts entry := by
  intro index inside
  rw [entry.torn_byte inside]
  split
  · exact ones_and _
  · exact UInt8.and_self

section Operations

/-- The two operations of a full write. -/
def dataOp (id : BlockId) (entry : DirEntry) (slot : Nat) : Op :=
  .program (slotOffset id slot + 1) 35 fun index => entry.byte (1 + index)

def firstOp (id : BlockId) (byte : UInt8) (slot : Nat) : Op :=
  .program (slotOffset id slot + 0) 1 fun _ => byte

theorem firstOp_apply (id : BlockId) (entry : DirEntry) (slot : Nat) (cells : Cells) :
    (Op.program (slotOffset id slot + 0) 1 entry.byte).apply cells =
      (firstOp id (entry.filename 0) slot).apply cells := by
  funext address
  simp only [firstOp, Op.apply]
  split
  case isFalse => rfl
  case isTrue inside =>
    have here : address - (slotOffset id slot + 0) = 0 := by omega
    rw [here, DirEntry.byte_zero]

variable {index slot : Nat} {cells : Cells} {id : BlockId} {entry : DirEntry} {device : Device}

theorem entryAt_dataOp_byte (cells : Cells) (id : BlockId) (entry : DirEntry) (slot : Nat)
    (inside : index < 36) :
    (entryAt ((dataOp id entry slot).apply cells) id slot).byte index =
      if index = 0 then (entryAt cells id slot).byte 0
      else (entryAt cells id slot).byte index &&& entry.byte index := by
  rw [dataOp, entryAt_program_byte cells id slot _ inside]
  by_cases first : index = 0
  · rw [if_neg (by omega), if_pos first, first]
  · rw [if_pos (by omega), if_neg first, Nat.add_sub_cancel' (by omega)]

theorem entryAt_dataOp_of_erased (erased : isErasedEntry (entryAt cells id slot) = true)
    (entry : DirEntry) : entryAt ((dataOp id entry slot).apply cells) id slot = entry.torn := by
  apply DirEntry.ext_bytes
  intro index inside
  have bytes := (isErasedEntry_iff _).mp erased
  rw [entryAt_dataOp_byte cells id entry slot inside, entry.torn_byte inside]
  split
  · exact bytes 0 (by omega)
  · rw [bytes index inside, ones_and]

theorem entryAt_firstOp_byte (cells : Cells) (id : BlockId) (byte : UInt8) (slot : Nat)
    (inside : index < 36) :
    (entryAt ((firstOp id byte slot).apply cells) id slot).byte index =
      if index = 0 then (entryAt cells id slot).byte 0 &&& byte
      else (entryAt cells id slot).byte index := by
  rw [firstOp, entryAt_program_byte cells id slot _ inside]
  by_cases first : index = 0
  · rw [if_pos (by omega), if_pos first, first]
  · rw [if_neg (by omega), if_neg first]

theorem entryAt_firstOp_filename (cells : Cells) (id : BlockId) (byte : UInt8) (slot : Nat) :
    (entryAt ((firstOp id byte slot).apply cells) id slot).filename 0 =
      (entryAt cells id slot).filename 0 &&& byte := by
  rw [← DirEntry.byte_zero, entryAt_firstOp_byte cells id byte slot (by decide), if_pos rfl,
    DirEntry.byte_zero]

theorem entryAt_write_of_accepts (accepts : (entryAt cells id slot).Accepts entry) :
    entryAt ((firstOp id (entry.filename 0) slot).apply ((dataOp id entry slot).apply cells))
      id slot = entry := by
  apply DirEntry.ext_bytes
  intro index inside
  rw [entryAt_firstOp_byte _ id _ slot inside, entryAt_dataOp_byte cells id entry slot (by omega),
    entryAt_dataOp_byte cells id entry slot inside, if_pos rfl]
  split
  case isTrue first =>
    rw [first, ← DirEntry.byte_zero]
    exact accepts 0 (by omega)
  case isFalse => exact accepts index inside

/-- What an operation on one slot leaves alone. -/
structure SlotOp (op : Op) (id : BlockId) (slot : Nat) : Prop where
  others : ∀ cells other otherSlot, otherSlot < 113 → ¬ (other = id ∧ otherSlot = slot) →
    entryAt (op.apply cells) other otherSlot = entryAt cells other otherSlot
  data : ∀ cells address, 8192 ≤ address → op.apply cells address = cells address

theorem slotOp_of_member {id : BlockId} {slot memberOffset memberSize : Nat}
    {data : Nat → UInt8} (inTable : slot < 113) (within : memberOffset + memberSize ≤ 36) :
    SlotOp (.program (slotOffset id slot + memberOffset) memberSize data) id slot where
  others _ _ _ otherInTable different :=
    entryAt_program_other within inTable otherInTable different
  data _ _ beyond := program_entry_data within inTable beyond

theorem slotOp_dataOp (id : BlockId) (entry : DirEntry) {slot : Nat} (inTable : slot < 113) :
    SlotOp (dataOp id entry slot) id slot :=
  slotOp_of_member inTable (by decide)

theorem slotOp_firstOp (id : BlockId) (byte : UInt8) {slot : Nat} (inTable : slot < 113) :
    SlotOp (firstOp id byte slot) id slot :=
  slotOp_of_member inTable (by decide)

theorem dirEntryWrite_cells (device : Device) (id : BlockId) (entry : DirEntry) (slot : Nat) :
    (dirEntryWrite device id entry slot).cells =
      (firstOp id (entry.filename 0) slot).apply ((dataOp id entry slot).apply device.cells) :=
  firstOp_apply id entry slot _

theorem entryAt_dirEntryWrite (accepts : (entryAt device.cells id slot).Accepts entry) :
    entryAt (dirEntryWrite device id entry slot).cells id slot = entry := by
  rw [dirEntryWrite_cells]
  exact entryAt_write_of_accepts accepts

theorem entryAt_dirEntryWrite_other {device : Device} {id other : BlockId}
    {slot otherSlot : Nat} {entry : DirEntry} (inTable : slot < 113)
    (otherInTable : otherSlot < 113) (different : ¬ (other = id ∧ otherSlot = slot)) :
    entryAt (dirEntryWrite device id entry slot).cells other otherSlot =
      entryAt device.cells other otherSlot := by
  rw [dirEntryWrite_cells, (slotOp_firstOp id _ inTable).others _ _ _ otherInTable different,
    (slotOp_dataOp id entry inTable).others _ _ _ otherInTable different]

theorem dirEntryWrite_data {address : Nat} (inTable : slot < 113) (beyond : 8192 ≤ address) :
    (dirEntryWrite device id entry slot).cells address = device.cells address := by
  rw [dirEntryWrite_cells, (slotOp_firstOp id _ inTable).data _ _ beyond,
    (slotOp_dataOp id entry inTable).data _ _ beyond]

end Operations

section Erasing

variable {cells : Cells} {id : BlockId} {slot offset length : Nat}

theorem entryAt_erase_outside
    (outside : slotOffset id slot + 36 ≤ offset ∨ offset + length ≤ slotOffset id slot) :
    entryAt ((Op.erase offset length).apply cells) id slot = entryAt cells id slot := by
  apply entryAt_congr
  intro index inside
  apply erase_apply_outside
  omega

theorem isErasedEntry_erase (lower : offset ≤ slotOffset id slot)
    (upper : slotOffset id slot + 36 ≤ offset + length) :
    isErasedEntry (entryAt ((Op.erase offset length).apply cells) id slot) = true := by
  rw [isErasedEntry_entryAt]
  intro index inside
  exact erase_apply_inside (by omega) (by omega)

end Erasing

section Members

structure SameFile (first second : DirEntry) : Prop where
  filename : first.filename = second.filename
  fileSize : first.fileSize = second.fileSize
  sequenceCount : first.statCounters.sequenceCount = second.statCounters.sequenceCount
  inodes : first.inodes = second.inodes

theorem SameFile.of_bytes {first second : DirEntry}
    (agree : ∀ index < 36, index < 22 ∨ 24 ≤ index → first.byte index = second.byte index) :
    SameFile first second := by
  rw [← first.ofBytes_byte, ← second.ofBytes_byte]
  constructor
  · funext index
    exact agree index (by omega) (Or.inl (by omega))
  · simp only [DirEntry.ofBytes]
    rw [LittleEndian.number_congr fun index inside => agree (16 + index) (by omega) (by omega)]
  · simp only [DirEntry.ofBytes]
    rw [LittleEndian.number_congr fun index inside => agree (20 + index) (by omega) (by omega)]
  · funext inode
    exact Inode.ofBytes_congr fun index inside =>
      agree (24 + 4 * inode + index) (by omega) (by omega)

/-- The same member written to both tables, as the file operations do. -/
structure WrittenBoth (cells cells' : Cells) (slot : Nat) (written : DirEntry) : Prop where
  others : ∀ id other, other < 113 → other ≠ slot →
    entryAt cells' id other = entryAt cells id other
  here : entryAt cells' .priFat slot = written
  mirrored : entryAt cells' .secFat slot = written
  data : ∀ address, 8192 ≤ address → cells' address = cells address

variable {device : Device} {slot : Nat}

theorem writtenBoth_member {memberOffset memberSize : Nat} {data : Nat → UInt8}
    (inTable : slot < 113) (within : memberOffset + memberSize ≤ 36)
    (mirrored : entryAt device.cells .secFat slot = entryAt device.cells .priFat slot) :
    WrittenBoth device.cells
      (dirEntryWriteMember (dirEntryWriteMember device .priFat data slot memberOffset memberSize)
        .secFat data slot memberOffset memberSize).cells slot
      (entryAt (dirEntryWriteMember device .priFat data slot memberOffset memberSize).cells
        .priFat slot) := by
  have primary := @slotOp_of_member .priFat slot memberOffset memberSize data inTable within
  have secondary := @slotOp_of_member .secFat slot memberOffset memberSize data inTable within
  refine ⟨?_, ?_, ?_, ?_⟩
  · intro id other otherInTable different
    exact (secondary.others _ id other otherInTable fun same => different same.2).trans
      (primary.others _ id other otherInTable fun same => different same.2)
  · exact secondary.others _ .priFat slot inTable (by simp)
  · apply DirEntry.ext_bytes
    intro index inside
    have secondaryBytes := @entryAt_program_byte
      (dirEntryWriteMember device .priFat data slot memberOffset memberSize).cells .secFat slot
      memberOffset memberSize index data inside
    have primaryBytes := @entryAt_program_byte device.cells .priFat slot memberOffset memberSize
      index data inside
    have untouched := primary.others device.cells .secFat slot inTable (by simp)
    rw [← mirrored, ← untouched] at primaryBytes
    exact secondaryBytes.trans primaryBytes.symm
  · intro address beyond
    exact (secondary.data _ address beyond).trans (primary.data _ address beyond)

theorem writtenBoth_entry {entry : DirEntry} (inTable : slot < 113)
    (primaryAccepts : (entryAt device.cells .priFat slot).Accepts entry)
    (secondaryAccepts : (entryAt device.cells .secFat slot).Accepts entry) :
    WrittenBoth device.cells
      (dirEntryWrite (dirEntryWrite device .priFat entry slot) .secFat entry slot).cells slot
      entry := by
  have secondaryKept := @entryAt_dirEntryWrite_other device .priFat .secFat slot slot entry
    inTable inTable (by simp)
  refine ⟨?_, ?_, ?_, ?_⟩
  · intro id other otherInTable different
    rw [entryAt_dirEntryWrite_other inTable otherInTable fun same => different same.2,
      entryAt_dirEntryWrite_other inTable otherInTable fun same => different same.2]
  · rw [entryAt_dirEntryWrite_other inTable inTable (by simp)]
    exact entryAt_dirEntryWrite primaryAccepts
  · exact entryAt_dirEntryWrite (by rwa [secondaryKept])
  · intro address beyond
    rw [dirEntryWrite_data inTable beyond, dirEntryWrite_data inTable beyond]

theorem sameFile_writeAccessCount (device : Device) (id : BlockId) (entry : DirEntry)
    (slot : Nat) :
    SameFile (entryAt (writeAccessCount device id entry slot).cells id slot)
      (entryAt device.cells id slot) := by
  apply SameFile.of_bytes
  intro index inside outside
  have bytes := @entryAt_program_byte device.cells id slot 22 2 index
    (LittleEndian.byte entry.statCounters.accessCount.toNat) inside
  rw [if_neg (by omega)] at bytes
  exact bytes

end Members

end HeadsetAdk.Rafs
