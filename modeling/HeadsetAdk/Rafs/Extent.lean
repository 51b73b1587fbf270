import HeadsetAdk.Rafs.SectorMap

/-!
# Free extents

`Rafs_TraverseExtents` visits the bits of the sector map in order and calls one of four functions at
each; its `free_run` starts as the opposite of the first bit.
-/

namespace HeadsetAdk.Rafs

/-- `extentfns_t`; a function that the source leaves `0` is the identity. -/
structure ExtentFns (Context : Type) where
  firstFree : UInt16 → Context → Context := fun _ context => context
  nextFree : UInt16 → Context → Context := fun _ context => context
  firstUse : UInt16 → Context → Context := fun _ context => context
  nextUse : UInt16 → Context → Context := fun _ context => context

/-- The body of the loops of `Rafs_TraverseExtents`, on `free_run` and the
context. -/
def traverseBit {Context : Type} (fns : ExtentFns Context) (bitSet : Bool) (sector : Nat) :
    Bool × Context → Bool × Context
  | (freeRun, context) =>
      let sector := UInt16.ofNat sector
      if bitSet then
        if !freeRun then (true, fns.firstFree sector context)
        else (true, fns.nextFree sector context)
      else if freeRun then (false, fns.firstUse sector context)
      else (false, fns.nextUse sector context)

def traverseExtents {Context : Type} (map : SectorMap) (fns : ExtentFns Context)
    (context : Context) : Context :=
  let freeRun := !(map.words.getD 0 0).getLsbD 0
  ((List.range map.words.length).foldl (fun state m =>
    (List.range 32).foldl (fun state b =>
      traverseBit fns ((map.words.getD m 0).getLsbD b) (32 * m + b) state) state)
    (freeRun, context)).2

structure FindLongest where
  current : Inode
  result : Inode

def findLongestFns : ExtentFns FindLongest where
  firstFree sector p := { p with current := ⟨sector, 1⟩ }
  nextFree _ p := { p with current := { p.current with length := p.current.length + 1 } }
  firstUse _ p :=
    { result := if p.result.length < p.current.length then p.current else p.result
      current := ⟨0, 0⟩ }

def findLongestFreeExtent (map : SectorMap) : Inode :=
  let data := traverseExtents map findLongestFns ⟨⟨0, 0⟩, ⟨0, 0⟩⟩
  if data.result.length < data.current.length then data.current else data.result

def countFreeExtents (map : SectorMap) : UInt16 :=
  traverseExtents map { firstFree := fun _ count => count + 1 } 0

/-- `get_extents`; `list` has the entries that were stored. -/
structure GetExtents where
  list : List Inode
  count : UInt16
  current : Inode

def GetExtents.store (listlen : UInt16) (p : GetExtents) : GetExtents :=
  { p with
    list := if p.count < listlen then p.list ++ [p.current] else p.list
    count := p.count + 1 }

def getExtentsFns (listlen : UInt16) : ExtentFns GetExtents where
  firstFree sector p := { p with current := ⟨sector, 1⟩ }
  nextFree _ p := { p with current := { p.current with length := p.current.length + 1 } }
  firstUse _ p :=
    { (if 0 < p.current.length then p.store listlen else p) with current := ⟨0, 0⟩ }

def sortInodeLengthDescending (a b : Inode) : Bool :=
  if b.length < a.length then true
  else if a.length < b.length then false
  else a.offset ≤ b.offset

/-- `Rafs_GetFreeExtents`: the sorted list and the number of free extents. -/
def getFreeExtents (map : SectorMap) (num : UInt16) : List Inode × UInt16 :=
  let data := traverseExtents map (getExtentsFns num) ⟨[], 0, ⟨0, 0⟩⟩
  let data := if 0 < data.current.length then data.store num else data
  (data.list.mergeSort sortInodeLengthDescending, data.count)

theorem foldl_range_words {State : Type} (visit : State → Nat → State) (width count : Nat)
    (state : State) :
    (List.range count).foldl (fun state m =>
        (List.range width).foldl (fun state b => visit state (width * m + b)) state) state =
      (List.range (width * count)).foldl visit state := by
  induction count with
  | zero => rfl
  | succ count induction =>
    rw [List.range_succ, List.foldl_append, induction, Nat.mul_succ, List.range_add,
      List.foldl_append, List.foldl_map]
    rfl

def traversed {Context : Type} (map : SectorMap) (fns : ExtentFns Context)
    (context : Context) (bound : Nat) : Bool × Context :=
  (List.range bound).foldl (fun state sector =>
    traverseBit fns (map.bit sector) sector state) (!map.bit 0, context)

theorem traverseExtents_eq {Context : Type} (map : SectorMap) (fns : ExtentFns Context)
    (context : Context) :
    traverseExtents map fns context = (traversed map fns context map.capacity).2 := by
  unfold traverseExtents traversed SectorMap.capacity
  dsimp only
  rw [← foldl_range_words, SectorMap.bit, Nat.zero_div, Nat.zero_mod]
  congr 1
  apply List.foldl_ext
  intro state m _
  apply List.foldl_ext
  intro state b inWord
  have inside : b < 32 := List.mem_range.mp inWord
  have wordIndex : (32 * m + b) / 32 = m := by omega
  have bitIndex : (32 * m + b) % 32 = b := by omega
  simp [SectorMap.bit, wordIndex, bitIndex]

theorem traversed_succ {Context : Type} (map : SectorMap) (fns : ExtentFns Context)
    (context : Context) (bound : Nat) :
    traversed map fns context (bound + 1) =
      traverseBit fns (map.bit bound) bound (traversed map fns context bound) := by
  simp [traversed, List.range_succ]

section FreeExtents

structure FreeBelow (map : SectorMap) (bound : Nat) (inode : Inode) : Prop where
  nonempty : 0 < inode.length.toNat
  below : inode.offset.toNat + inode.length.toNat ≤ bound
  free : ∀ block, inode.offset.toNat ≤ block →
    block < inode.offset.toNat + inode.length.toNat → map.bit block = true

variable {map : SectorMap} {bound : Nat}

theorem FreeBelow.mono {larger : Nat} {inode : Inode} (run : FreeBelow map bound inode)
    (le : bound ≤ larger) : FreeBelow map larger inode :=
  ⟨run.nonempty, run.below.trans le, run.free⟩

/-- The extent under construction: it ends at the bound while the last block
is free, and is empty otherwise. -/
structure CurrentRun (map : SectorMap) (bound : Nat) (freeRun : Bool) (current : Inode) :
    Prop where
  lastBit : 0 < bound → freeRun = map.bit (bound - 1)
  initial : bound = 0 → freeRun = !map.bit 0
  running : 0 < bound → freeRun = true →
    FreeBelow map bound current ∧ current.offset.toNat + current.length.toNat = bound
  stopped : bound = 0 ∨ freeRun = false → current = ⟨0, 0⟩

theorem length_add_one {length : UInt16} (small : length.toNat < 65535) :
    (length + 1).toNat = length.toNat + 1 := by
  rw [UInt16.toNat_add]
  simp
  omega

/-- One visited bit keeps the extent under construction right. -/
theorem CurrentRun.visit {freeRun : Bool} {current : Inode}
    (run : CurrentRun map bound freeRun current) (firstUsed : map.bit 0 = false)
    (small : bound < 65536) :
    CurrentRun map (bound + 1) (map.bit bound)
      (if map.bit bound = true then
        if freeRun = false then ⟨UInt16.ofNat bound, 1⟩
        else { current with length := current.length + 1 }
      else ⟨0, 0⟩) := by
  have sectorEq : (UInt16.ofNat bound).toNat = bound := Nat.mod_eq_of_lt small
  refine ⟨fun _ => by simp, by omega, ?_, ?_⟩
  · intro _ set
    rw [if_pos set]
    have positive : 0 < bound := by
      rcases Nat.eq_zero_or_pos bound with rfl | positive
      · rw [firstUsed] at set
        contradiction
      · exact positive
    cases freeRun with
    | false =>
      rw [if_pos rfl]
      refine ⟨⟨Nat.one_pos, ?_, ?_⟩, ?_⟩
      · simp [sectorEq]
      · intro block lower upper
        simp only [sectorEq, UInt16.toNat_one] at lower upper
        obtain rfl : block = bound := by omega
        exact set
      · simp [sectorEq]
    | true =>
      obtain ⟨free, ends⟩ := run.running positive rfl
      have offsetPositive : 0 < current.offset.toNat := by
        rcases Nat.eq_zero_or_pos current.offset.toNat with zero | offsetPositive
        · have atZero := free.free 0 (by omega) (by have := free.nonempty; omega)
          rw [firstUsed] at atZero
          contradiction
        · exact offsetPositive
      have longer := @length_add_one current.length (by omega)
      simp only [Bool.true_eq_false, if_false]
      refine ⟨⟨by simp only [longer]; omega, by simp only [longer]; omega, ?_⟩,
        by simp only [longer]; omega⟩
      intro block lower upper
      simp only [longer] at lower upper
      by_cases last : block = bound
      · rw [last, set]
      · exact free.free block lower (by omega)
  · intro stop
    have clear : map.bit bound = false := by
      rcases stop with impossible | clear
      · omega
      · exact clear
    rw [clear]
    simp

structure LongestBelow (map : SectorMap) (bound : Nat) (freeRun : Bool) (data : FindLongest) :
    Prop where
  run : CurrentRun map bound freeRun data.current
  found : data.result = ⟨0, 0⟩ ∨ FreeBelow map bound data.result

theorem longestBelow_traversed (map : SectorMap) (firstUsed : map.bit 0 = false) :
    ∀ bound ≤ 65536, ∃ freeRun data,
      traversed map findLongestFns ⟨⟨0, 0⟩, ⟨0, 0⟩⟩ bound = (freeRun, data) ∧
      LongestBelow map bound freeRun data := by
  intro bound
  induction bound with
  | zero =>
    intro _
    exact ⟨_, _, rfl, ⟨by omega, fun _ => rfl, by omega, fun _ => rfl⟩, Or.inl rfl⟩
  | succ bound induction =>
    intro small
    obtain ⟨freeRun, data, reached, longest⟩ := induction (by omega)
    have visited := longest.run.visit firstUsed (by omega)
    rw [traversed_succ, reached]
    have kept : data.result = ⟨0, 0⟩ ∨ FreeBelow map (bound + 1) data.result :=
      longest.found.imp_right fun run => run.mono (by omega)
    cases set : map.bit bound with
    | true =>
      rw [set] at visited
      cases freeRun with
      | false => exact ⟨_, _, rfl, by simpa [findLongestFns] using visited, kept⟩
      | true => exact ⟨_, _, rfl, by simpa [findLongestFns] using visited, kept⟩
    | false =>
      rw [set] at visited
      cases freeRun with
      | false =>
        have idle : data.current = ⟨0, 0⟩ := longest.run.stopped (Or.inr rfl)
        exact ⟨_, _, rfl, by simpa [idle, findLongestFns] using visited, kept⟩
      | true =>
        refine ⟨_, _, rfl, by simpa [findLongestFns] using visited, ?_⟩
        simp only [findLongestFns]
        split
        case isFalse => exact kept
        case isTrue longer =>
          rcases Nat.eq_zero_or_pos bound with zero | positive
          · rw [longest.run.stopped (Or.inl zero)] at longer
            simp at longer
          · exact Or.inr ((longest.run.running positive rfl).1.mono (by omega))

theorem findLongestFreeExtent_spec (firstUsed : map.bit 0 = false) (small : map.capacity ≤ 65536) :
    findLongestFreeExtent map = ⟨0, 0⟩ ∨
      FreeBelow map map.capacity (findLongestFreeExtent map) := by
  obtain ⟨freeRun, data, reached, longest⟩ := longestBelow_traversed map firstUsed _ small
  unfold findLongestFreeExtent
  simp only [traverseExtents_eq, reached]
  split
  case isFalse => exact longest.found
  case isTrue longer =>
    by_cases stopped : map.capacity = 0 ∨ freeRun = false
    · rw [longest.run.stopped stopped] at longer
      simp at longer
    · push Not at stopped
      exact Or.inr (longest.run.running (by omega) (by simpa using stopped.2)).1

end FreeExtents

end HeadsetAdk.Rafs
