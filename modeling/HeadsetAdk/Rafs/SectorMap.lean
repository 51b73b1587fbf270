import HeadsetAdk.Rafs.Dirent

/-!
# The sector map

A bitmap of the blocks in which a set bit is a free block, with the operations of `rafs_fat.c` and
those of `rafs_extent.c` on the extents of a file.
-/

namespace HeadsetAdk.Rafs

/-- What stops the program: the pointer that was `NULL` when it was followed, a
failed assertion, or an access outside an array. -/
inductive Fault
  | nullFiles
  | nullPartition
  | nullOpenFile
  | nullScanDirEntry
  | panic
  | outOfBounds
  deriving DecidableEq, Repr

def panicFalse (condition : Bool) : Except Fault Unit :=
  if condition then .ok () else .error .panic

/-- `sector_in_use_map` with its length. -/
structure SectorMap where
  words : List (BitVec 32)
  deriving DecidableEq

namespace SectorMap

def capacity (map : SectorMap) : Nat := 32 * map.words.length

def getIndexAndMask (map : SectorMap) (blockNumber : Nat) :
    Except Fault (Nat × BitVec 32) := do
  let index := blockNumber / 32
  panicFalse (index < map.words.length)
  return (index, 1#32 <<< (blockNumber % 32))

def markFreeBlock (map : SectorMap) (blockNumber : Nat) : Except Fault SectorMap := do
  let (index, mask) ← map.getIndexAndMask blockNumber
  return ⟨map.words.modify index fun word => word ||| mask⟩

def markUsedBlock (map : SectorMap) (blockNumber : Nat) : Except Fault SectorMap := do
  let (index, mask) ← map.getIndexAndMask blockNumber
  return ⟨map.words.modify index fun word => word &&& ~~~mask⟩

def isBlockInUse (map : SectorMap) (blockNumber : Nat) : Except Fault Bool := do
  let (index, mask) ← map.getIndexAndMask blockNumber
  return map.words.getD index 0 &&& mask == 0

def bit (map : SectorMap) (blockNumber : Nat) : Bool :=
  (map.words.getD (blockNumber / 32) 0).getLsbD (blockNumber % 32)

def InUse (map : SectorMap) (blockNumber : Nat) : Prop := map.bit blockNumber = false

def markBlock (map : SectorMap) (used : Bool) (blockNumber : Nat) : Except Fault SectorMap :=
  if used then map.markUsedBlock blockNumber else map.markFreeBlock blockNumber

/-- The loop over the blocks of one extent, which stops at the first block that
already is as the loop would leave it. -/
def updateBlocks (used : Bool) : Nat → Nat → SectorMap → Except Fault (SectorMap × Bool)
  | 0, _, map => .ok (map, true)
  | count + 1, page, map => do
      let inUse ← map.isBlockInUse page
      if inUse == used then return (map, false)
      updateBlocks used count (page + 1) (← map.markBlock used page)

/-- The loop over the extents of a file. -/
def updateExtents (used : Bool) : List Inode → SectorMap → Except Fault (SectorMap × Bool)
  | [], map => .ok (map, true)
  | inode :: inodes, map => do
      if isValidInode inode then
        let (map, ok) ← updateBlocks used inode.length.toNat inode.offset.toNat map
        if ok then updateExtents used inodes map else return (map, false)
      else updateExtents used inodes map

/-- `Rafs_AddExtentsToSectorMap` -/
def addExtents (map : SectorMap) (inodes : List Inode) : Except Fault (SectorMap × Bool) :=
  updateExtents true inodes map

/-- `Rafs_RemoveExtentsFromSectorMap` -/
def removeExtents (map : SectorMap) (inodes : List Inode) :
    Except Fault (SectorMap × Bool) :=
  updateExtents false inodes map

end SectorMap

def Inode.Covers (inode : Inode) (block : Nat) : Prop :=
  isValidInode inode = true ∧ inode.offset.toNat ≤ block ∧
    block < inode.offset.toNat + inode.length.toNat

namespace SectorMap

section Blocks

variable {map : SectorMap} {blockNumber : Nat}

theorem getIndexAndMask_eq (inside : blockNumber < map.capacity) :
    map.getIndexAndMask blockNumber = .ok (blockNumber / 32, 1#32 <<< (blockNumber % 32)) := by
  have inWords : blockNumber / 32 < map.words.length := by
    unfold capacity at inside
    omega
  simp [getIndexAndMask, panicFalse, inWords, bind, Except.bind, pure, Except.pure]

theorem mask_getLsbD (shift index : Nat) :
    (1#32 <<< shift).getLsbD index = (decide (index < 32) && decide (index = shift)) := by
  simp only [BitVec.getLsbD_shiftLeft, BitVec.getLsbD_one]
  by_cases inside : index < 32 <;> by_cases equal : index = shift <;> simp [inside, equal]
  omega

theorem isBlockInUse_eq (inside : blockNumber < map.capacity) :
    map.isBlockInUse blockNumber = .ok (!map.bit blockNumber) := by
  have shift : blockNumber % 32 < 32 := Nat.mod_lt _ (by decide)
  simp only [isBlockInUse, getIndexAndMask_eq inside, bind, Except.bind, pure, Except.pure, bit]
  congr 1
  rw [Bool.eq_iff_iff, beq_iff_eq, Bool.not_eq_true']
  constructor
  · intro clear
    have atShift := congrArg (fun word => word.getLsbD (blockNumber % 32)) clear
    simpa [mask_getLsbD, shift] using atShift
  · intro clear
    apply BitVec.eq_of_getLsbD_eq
    intro index indexLt
    rw [BitVec.getLsbD_and, mask_getLsbD]
    by_cases equal : index = blockNumber % 32
    · rw [equal, clear]
      simp
    · simp [equal]

theorem modify_bit (map : SectorMap) (other : Nat)
    (inside : blockNumber < map.capacity) (update : BitVec 32 → BitVec 32) :
    (⟨map.words.modify (blockNumber / 32) update⟩ : SectorMap).bit other =
      if other / 32 = blockNumber / 32 then
        (update (map.words.getD (blockNumber / 32) 0)).getLsbD (other % 32)
      else map.bit other := by
  have inWords : blockNumber / 32 < map.words.length := by
    unfold capacity at inside
    omega
  unfold bit
  split
  case isTrue same => simp [same, inWords]
  case isFalse different =>
    simp only [List.getD_eq_getElem?_getD]
    rw [List.getElem?_modify_ne _ _ (Ne.symm different)]

theorem mark_spec (used : Bool) (inside : blockNumber < map.capacity) :
    ∃ marked, map.markBlock used blockNumber = .ok marked ∧ marked.words.length = map.words.length ∧
      ∀ other, marked.bit other = if other = blockNumber then !used else map.bit other := by
  have shift : blockNumber % 32 < 32 := Nat.mod_lt _ (by decide)
  cases used with
  | true =>
    refine ⟨⟨map.words.modify (blockNumber / 32) fun word =>
        word &&& ~~~(1#32 <<< (blockNumber % 32))⟩, by
      simp only [markBlock, markUsedBlock, getIndexAndMask_eq inside, bind, Except.bind, pure,
        Except.pure, if_true], by simp, ?_⟩
    intro other
    rw [modify_bit map other inside]
    have otherShift : other % 32 < 32 := Nat.mod_lt _ (by decide)
    by_cases sameWord : other / 32 = blockNumber / 32
    · rw [if_pos sameWord, BitVec.getLsbD_and, BitVec.getLsbD_not, mask_getLsbD]
      by_cases equal : other = blockNumber
      · simp [equal, shift]
      · have differentShift : other % 32 ≠ blockNumber % 32 := by omega
        simp [equal, differentShift, bit, sameWord, otherShift]
    · rw [if_neg sameWord, if_neg (by rintro rfl; exact sameWord rfl)]
  | false =>
    refine ⟨⟨map.words.modify (blockNumber / 32) fun word =>
        word ||| 1#32 <<< (blockNumber % 32)⟩, by
      simp only [markBlock, markFreeBlock, getIndexAndMask_eq inside, bind, Except.bind, pure,
        Except.pure, Bool.false_eq_true, if_false], by simp, ?_⟩
    intro other
    rw [modify_bit map other inside]
    have otherShift : other % 32 < 32 := Nat.mod_lt _ (by decide)
    by_cases sameWord : other / 32 = blockNumber / 32
    · rw [if_pos sameWord, BitVec.getLsbD_or, mask_getLsbD]
      by_cases equal : other = blockNumber
      · simp [equal, shift]
      · have differentShift : other % 32 ≠ blockNumber % 32 := by omega
        simp [equal, differentShift, bit, sameWord]
    · rw [if_neg sameWord, if_neg (by rintro rfl; exact sameWord rfl)]

end Blocks

structure Updated (used : Bool) (touched : Nat → Prop) (map map' : SectorMap) : Prop where
  length_eq : map'.words.length = map.words.length
  untouched : ∀ block, ¬ touched block → map'.bit block = map.bit block
  onlyTo : ∀ block, map'.bit block = map.bit block ∨ map'.bit block = !used

theorem updateBlocks_spec (used : Bool) {count page : Nat} {map : SectorMap}
    (inside : page + count ≤ map.capacity) :
    ∃ map' ok, updateBlocks used count page map = .ok (map', ok) ∧
      Updated used (fun block => page ≤ block ∧ block < page + count) map map' ∧
      ((∀ block, page ≤ block → block < page + count → map.bit block = used) →
        ok = true ∧ ∀ block, page ≤ block → block < page + count → map'.bit block = !used) := by
  induction count generalizing page map with
  | zero =>
    exact ⟨map, true, rfl, ⟨rfl, fun _ _ => rfl, fun _ => Or.inl rfl⟩, fun _ => ⟨rfl, by omega⟩⟩
  | succ count induction =>
    obtain ⟨marked, markedEq, markedLength, markedBit⟩ :=
      mark_spec used (show page < map.capacity by omega)
    have inUse := isBlockInUse_eq (show page < map.capacity by omega)
    by_cases already : (!map.bit page) = used
    · refine ⟨map, false, ?_, ⟨rfl, fun _ _ => rfl, fun _ => Or.inl rfl⟩, ?_⟩
      · simp [updateBlocks, inUse, already, bind, Except.bind, pure, Except.pure]
      · intro opposite
        rw [opposite page (by omega) (by omega)] at already
        simp at already
    · obtain ⟨map', ok, rest, updated, opposite⟩ := @induction (page + 1) marked (by
        rw [capacity, markedLength]
        unfold capacity at inside
        omega)
      refine ⟨map', ok, ?_, ⟨updated.length_eq.trans markedLength, ?_, ?_⟩, ?_⟩
      · simp only [updateBlocks, inUse, bind, Except.bind, beq_iff_eq, already, if_false, markedEq]
        exact rest
      · intro block outside
        rw [updated.untouched block (by omega), markedBit, if_neg (by omega)]
      · intro block
        rcases updated.onlyTo block with same | changed
        · rw [same, markedBit]
          split
          · exact Or.inr rfl
          · exact Or.inl rfl
        · exact Or.inr changed
      · intro all
        obtain ⟨done, result⟩ := opposite (by
          intro block lower upper
          rw [markedBit, if_neg (by omega)]
          exact all block (by omega) (by omega))
        refine ⟨done, ?_⟩
        intro block lower upper
        by_cases first : block = page
        · rw [updated.untouched block (by omega), markedBit, if_pos first]
        · exact result block (by omega) (by omega)

def Fits (map : SectorMap) (inodes : List Inode) : Prop :=
  ∀ inode ∈ inodes, isValidInode inode = true →
    inode.offset.toNat + inode.length.toNat ≤ map.capacity

def PairwiseDisjoint (inodes : List Inode) : Prop :=
  inodes.Pairwise fun first second => ∀ block, first.Covers block → ¬ second.Covers block

theorem updateExtents_spec (used : Bool) {inodes : List Inode} {map : SectorMap}
    (fits : Fits map inodes) :
    ∃ map' ok, updateExtents used inodes map = .ok (map', ok) ∧
      Updated used (fun block => ∃ inode ∈ inodes, inode.Covers block) map map' ∧
      (PairwiseDisjoint inodes →
        (∀ inode ∈ inodes, ∀ block, inode.Covers block → map.bit block = used) →
        ok = true ∧ ∀ inode ∈ inodes, ∀ block, inode.Covers block → map'.bit block = !used) := by
  induction inodes generalizing map with
  | nil =>
    exact ⟨map, true, rfl, ⟨rfl, fun _ _ => rfl, fun _ => Or.inl rfl⟩, fun _ _ => ⟨rfl, by simp⟩⟩
  | cons inode inodes induction =>
    by_cases valid : isValidInode inode = true
    · obtain ⟨middle, ok, first, updated, done⟩ :=
        updateBlocks_spec used (fits inode List.mem_cons_self valid)
      have fits' : Fits middle inodes := by
        intro other member otherValid
        rw [capacity, updated.length_eq]
        exact fits other (List.mem_cons_of_mem inode member) otherValid
      cases ok with
      | false =>
        refine ⟨middle, false, ?_, ⟨updated.length_eq, ?_, updated.onlyTo⟩, ?_⟩
        · simp [updateExtents, valid, first, bind, Except.bind, pure, Except.pure]
        · intro block outside
          apply updated.untouched
          rintro ⟨lower, upper⟩
          exact outside ⟨inode, List.mem_cons_self, valid, lower, upper⟩
        · intro _ opposite
          have contradiction := (done fun block lower upper =>
            opposite inode List.mem_cons_self block ⟨valid, lower, upper⟩).1
          simp at contradiction
      | true =>
        obtain ⟨map', ok, rest, updated', done'⟩ := induction fits'
        refine ⟨map', ok, ?_, ⟨updated'.length_eq.trans updated.length_eq, ?_, ?_⟩, ?_⟩
        · simp [updateExtents, valid, first, rest, bind, Except.bind]
        · intro block outside
          rw [updated'.untouched, updated.untouched]
          · rintro ⟨lower, upper⟩
            exact outside ⟨inode, List.mem_cons_self, valid, lower, upper⟩
          · rintro ⟨other, member, covers⟩
            exact outside ⟨other, List.mem_cons_of_mem inode member, covers⟩
        · intro block
          rcases updated'.onlyTo block with same | changed
          · rw [same]
            exact updated.onlyTo block
          · exact Or.inr changed
        · intro disjoint opposite
          obtain ⟨headDisjoint, tailDisjoint⟩ := List.pairwise_cons.mp disjoint
          obtain ⟨_, head⟩ := done fun block lower upper =>
            opposite inode List.mem_cons_self block ⟨valid, lower, upper⟩
          obtain ⟨allDone, tail⟩ := done' tailDisjoint (by
            intro other member block covers
            rw [updated.untouched]
            · exact opposite other (List.mem_cons_of_mem inode member) block covers
            · rintro ⟨lower, upper⟩
              exact headDisjoint other member block ⟨valid, lower, upper⟩ covers)
          refine ⟨allDone, ?_⟩
          intro other member block covers
          rcases List.mem_cons.mp member with rfl | member
          · rw [updated'.untouched block]
            · exact head block covers.2.1 covers.2.2
            · rintro ⟨another, anotherMember, anotherCovers⟩
              exact headDisjoint another anotherMember block covers anotherCovers
          · exact tail other member block covers
    · obtain ⟨map', ok, rest, updated, done⟩ := @induction map fun other member =>
        fits other (List.mem_cons_of_mem inode member)
      refine ⟨map', ok, ?_, ⟨updated.length_eq, ?_, updated.onlyTo⟩, ?_⟩
      · simp [updateExtents, valid, rest]
      · intro block outside
        apply updated.untouched
        rintro ⟨other, member, covers⟩
        exact outside ⟨other, List.mem_cons_of_mem inode member, covers⟩
      · intro disjoint opposite
        obtain ⟨allDone, tail⟩ := done (List.pairwise_cons.mp disjoint).2
          fun other member => opposite other (List.mem_cons_of_mem inode member)
        refine ⟨allDone, ?_⟩
        intro other member block covers
        rcases List.mem_cons.mp member with rfl | member
        · exact absurd covers.1 valid
        · exact tail other member block covers

end SectorMap

end HeadsetAdk.Rafs
