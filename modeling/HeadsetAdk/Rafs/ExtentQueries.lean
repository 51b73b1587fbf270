import HeadsetAdk.Lib.BitRuns
import HeadsetAdk.Rafs.SpaceRuns

/-!
# What the queries for free extents return

The users of `Rafs_TraverseExtents` are computed from the runs of set bits.  A full partition has no
first extent, but its length is read.
-/

namespace HeadsetAdk.Rafs

open UInt16 (ofNat_add lt_iff_toNat_lt toNat_ofNat')
open Nat (mod_eq_of_lt)
open BitRuns

structure MapFits (info : PartInfo) (map : SectorMap) : Prop extends MapOk info map where
  padding : ∀ block, info.numBlocks ≤ block → map.bit block = false

def Inode.run (inode : Inode) : Nat × Nat := (inode.offset.toNat, inode.length.toNat)

def runInode (run : Nat × Nat) : Inode := ⟨UInt16.ofNat run.1, UInt16.ofNat run.2⟩

/-- The order of `Rafs_SortInodeLengthDescending` -/
def Before (first second : Nat × Nat) : Prop :=
  second.2 < first.2 ∨ first.2 = second.2 ∧ first.1 < second.1

/-- The run is a longest one of the list, `(0, 0)` if there is none. -/
def LongestOf (list : List (Nat × Nat)) (run : Nat × Nat) : Prop :=
  (run ∈ list ∧ ∀ other ∈ list, other.2 ≤ run.2) ∨ (list = [] ∧ run = (0, 0))

def TellsRuns (statfs : RafsStatfs) (sorted : List (Nat × Nat)) (blockSize : Nat) : Prop :=
  statfs.freeSpace = total sorted * blockSize ∧
  statfs.fileSpace = total (sorted.take maxInodes) * blockSize ∧
  statfs.contiguousSpace = some ((sorted.head?.elim 0 Prod.snd) * blockSize)

def QueriesAgree (volume : Volume) : Prop :=
  ∃ sorted : List (Nat × Nat),
    (∀ run, run ∈ sorted ↔ MaximalRun volume.map.bit volume.info.numBlocks run) ∧
    sorted.Pairwise Before ∧
    (countFreeExtents volume.map).toNat = sorted.length ∧
    (getFreeExtents volume.map (countFreeExtents volume.map)).1.map Inode.run = sorted ∧
    (getFreeExtents volume.map (countFreeExtents volume.map)).2.toNat = sorted.length ∧
    LongestOf sorted (findLongestFreeExtent volume.map).run ∧
    ∃ statfs, System.doStatfs volume = .ok statfs ∧
      TellsRuns statfs sorted volume.info.blockSize

section Traversal

variable {map : SectorMap} {bound : Nat}

/-- The run that ends at the bound, `(0, 0)` if there is none -/
def openPair (map : SectorMap) (bound : Nat) : Nat × Nat :=
  if openRun map.bit bound = 0 then (0, 0)
  else (bound - openRun map.bit bound, openRun map.bit bound)

theorem traversed_fst {Context : Type} (fns : ExtentFns Context) (context : Context) :
    ∀ bound, (traversed map fns context bound).1 =
      if bound = 0 then !map.bit 0 else map.bit (bound - 1)
  | 0 => rfl
  | bound + 1 => by
      rw [traversed_succ, if_neg (Nat.succ_ne_zero bound), Nat.add_sub_cancel]
      obtain ⟨freeRun, reached⟩ := traversed map fns context bound
      cases map.bit bound <;> cases freeRun <;> rfl

theorem traversed_snd {Context : Type} (fns : ExtentFns Context) (context : Context) :
    (traversed map fns context (bound + 1)).2 = if map.bit bound = true then
        if openRun map.bit bound = 0 then
          fns.firstFree (UInt16.ofNat bound) (traversed map fns context bound).2
        else fns.nextFree (UInt16.ofNat bound) (traversed map fns context bound).2
      else if bound = 0 ∨ openRun map.bit bound ≠ 0 then
        fns.firstUse (UInt16.ofNat bound) (traversed map fns context bound).2
      else fns.nextUse (UInt16.ofNat bound) (traversed map fns context bound).2 := by
  have freeRun := @traversed_fst map Context fns context bound
  rw [traversed_succ]
  generalize traversed map fns context bound = state at freeRun ⊢
  obtain ⟨flag, context⟩ := state
  dsimp only at freeRun
  subst freeRun
  cases bound with
  | zero => cases set : map.bit 0 <;> simp [traverseBit, openRun]
  | succ bound =>
    cases set : map.bit (bound + 1) <;> cases last : map.bit bound <;>
      simp [traverseBit, last, openRun]

theorem openPair_succ_of_clear (clear : map.bit bound = false) :
    openPair map (bound + 1) = (0, 0) := by
  rw [openPair, if_pos (openRun_of_clear clear)]

theorem openPair_succ_of_set (set : map.bit bound = true) :
    openPair map (bound + 1) = if openRun map.bit bound = 0 then (bound, 1)
      else ((openPair map bound).1, (openPair map bound).2 + 1) := by
  rw [openPair, if_neg (by rw [openRun_of_set set]; exact Nat.succ_ne_zero _),
    openRun_of_set set, Nat.add_sub_add_right]
  split
  case isTrue none => rw [none]; rfl
  case isFalse some => rw [openPair, if_neg some]

theorem runInode_next (run : Nat × Nat) :
    runInode (run.1, run.2 + 1) = { runInode run with length := (runInode run).length + 1 } := by
  simp only [runInode, ofNat_add]
  rfl

theorem runInode_run {run : Nat × Nat} (start : run.1 < 65536) (length : run.2 < 65536) :
    (runInode run).run = run :=
  Prod.ext (mod_eq_of_lt start) (mod_eq_of_lt length)

theorem run_runInode (inode : Inode) : runInode inode.run = inode := by
  cases inode
  simp [runInode, Inode.run]

theorem countFreeExtents_traversed (map : SectorMap) : ∀ bound,
    (traversed map { firstFree := fun _ (count : UInt16) => count + 1 } 0 bound).2 =
      UInt16.ofNat (runs map.bit bound).length
  | 0 => rfl
  | bound + 1 => by
      rw [traversed_snd, countFreeExtents_traversed map bound]
      cases set : map.bit bound with
      | true =>
        rw [if_pos rfl, length_runs_succ_of_set set]
        split
        case isTrue => rw [ofNat_add]; rfl
        case isFalse => rfl
      | false =>
        rw [runs_succ_of_clear set]
        simp

theorem countFreeExtents_eq (map : SectorMap) :
    countFreeExtents map = UInt16.ofNat (runs map.bit map.capacity).length := by
  rw [countFreeExtents, traverseExtents_eq, countFreeExtents_traversed]

/-- What the search for the longest extent knows after the blocks below a bound -/
def longestState (map : SectorMap) (bound : Nat) : FindLongest where
  current := runInode (openPair map bound)
  result := runInode (longest (closedRuns map.bit bound))

theorem openPair_of_closed (none : openRun map.bit bound = 0) : openPair map bound = (0, 0) :=
  if_pos none

theorem openPair_of_open (some : openRun map.bit bound ≠ 0) :
    openPair map bound = (bound - openRun map.bit bound, openRun map.bit bound) :=
  if_neg some

theorem runInode_length_lt {first second : Nat × Nat} (firstSmall : first.2 < 65536)
    (secondSmall : second.2 < 65536) :
    (runInode first).length < (runInode second).length ↔ first.2 < second.2 := by
  rw [lt_iff_toNat_lt]
  simp [runInode, mod_eq_of_lt firstSmall, mod_eq_of_lt secondSmall]

theorem longestState_closed (small : openRun map.bit bound < 65536) (inside : bound ≤ 65536) :
    (if (longestState map bound).result.length < (longestState map bound).current.length then
        (longestState map bound).current else (longestState map bound).result) =
      runInode (longest (runs map.bit bound)) := by
  have bestSmall : (longest (closedRuns map.bit bound)).2 < 65536 := by
    rcases longest_mem (closedRuns map.bit bound) with none | member
    · rw [none]
      decide
    · have ends := (mem_closedRuns.mp member).2
      omega
  by_cases none : openRun map.bit bound = 0
  · have shorter : ¬ (runInode (longest (closedRuns map.bit bound))).length <
        (runInode (0, 0)).length := fun less =>
      Nat.not_lt_zero _ ((runInode_length_lt bestSmall (by decide)).mp less)
    rw [longestState, openPair_of_closed none, if_neg shorter, runs_of_closed none]
  · rw [runs_of_open none, longest_append, longestState, openPair_of_open none]
    dsimp only
    by_cases longer : (longest (closedRuns map.bit bound)).2 < openRun map.bit bound
    · rw [if_pos longer, if_pos ((runInode_length_lt bestSmall small).mpr longer)]
    · rw [if_neg longer, if_neg fun less => longer ((runInode_length_lt bestSmall small).mp less)]

theorem findLongest_traversed (map : SectorMap) : ∀ bound ≤ 65536,
    (traversed map findLongestFns ⟨⟨0, 0⟩, ⟨0, 0⟩⟩ bound).2 = longestState map bound
  | 0, _ => rfl
  | bound + 1, inside => by
      have le : openRun map.bit bound ≤ bound := openRun_le bound
      rw [traversed_snd, findLongest_traversed map bound (by omega)]
      cases set : map.bit bound with
      | true =>
        rw [if_pos rfl, longestState, longestState, closedRuns_succ_of_set set,
          openPair_succ_of_set set]
        split
        case isTrue => rfl
        case isFalse => rw [runInode_next]; rfl
      | false =>
        have closed := @longestState_closed map bound (by omega) (by omega)
        rw [if_neg Bool.false_ne_true]
        have after : longestState map (bound + 1) =
            ⟨⟨0, 0⟩, runInode (longest (runs map.bit bound))⟩ := by
          rw [longestState, openPair_succ_of_clear set, closedRuns_succ_of_clear set]
          rfl
        rw [after, ← closed]
        split
        case isTrue => rfl
        case isFalse idle =>
          push Not at idle
          rw [longestState, openPair_of_closed idle.2]
          rfl

theorem findLongestFreeExtent_eq (small : openRun map.bit map.capacity < 65536)
    (inside : map.capacity ≤ 65536) :
    findLongestFreeExtent map = runInode (longest (runs map.bit map.capacity)) := by
  rw [← longestState_closed small inside, findLongestFreeExtent, traverseExtents_eq,
    findLongest_traversed map _ inside]

def extentsState (map : SectorMap) (num : UInt16) (bound : Nat) : GetExtents where
  list := ((closedRuns map.bit bound).take num.toNat).map runInode
  count := UInt16.ofNat (closedRuns map.bit bound).length
  current := runInode (openPair map bound)

theorem noRun : ¬ (0 : UInt16) < (runInode (0, 0)).length := by decide

theorem extentsState_closed (num : UInt16) (small : openRun map.bit bound < 65536)
    (inside : bound ≤ 65536) :
    (if 0 < (extentsState map num bound).current.length then
        (extentsState map num bound).store num else extentsState map num bound) =
      { extentsState map num bound with
        list := ((runs map.bit bound).take num.toNat).map runInode
        count := UInt16.ofNat (runs map.bit bound).length } := by
  have current (run : Nat × Nat) (fits : run.2 < 65536) :
      0 < (runInode run).length ↔ 0 < run.2 := @runInode_length_lt (0, 0) run (by decide) fits
  by_cases none : openRun map.bit bound = 0
  · rw [extentsState, openPair_of_closed none, if_neg noRun, runs_of_closed none]
  · have few : (closedRuns map.bit bound).length < 65536 := by
      have known := @total_closedRuns map.bit bound
      have le : (List.range bound).countP map.bit ≤ bound :=
        List.countP_le_length.trans_eq List.length_range
      have short := @length_le_total (closedRuns map.bit bound)
        fun _ member => (mem_closedRuns.mp member).1.nonempty
      omega
    have full : UInt16.ofNat (closedRuns map.bit bound).length < num ↔
        (closedRuns map.bit bound).length < num.toNat := by
      rw [lt_iff_toNat_lt, toNat_ofNat', mod_eq_of_lt few]
    rw [extentsState, openPair_of_open none,
      if_pos ((current _ small).mpr (Nat.pos_of_ne_zero none)), runs_of_open none,
      GetExtents.store, List.length_append, List.length_singleton, ofNat_add]
    by_cases room : (closedRuns map.bit bound).length < num.toNat
    · rw [if_pos (full.mpr room), List.take_of_length_le (Nat.le_of_lt room),
        List.take_of_length_le (by rw [List.length_append, List.length_singleton]; exact room),
        List.map_append]
      rfl
    · rw [if_neg fun less => room (full.mp less),
        List.take_append_of_le_length (Nat.le_of_not_lt room)]
      rfl

theorem getExtents_traversed (map : SectorMap) (num : UInt16) : ∀ bound ≤ 65536,
    (traversed map (getExtentsFns num) ⟨[], 0, ⟨0, 0⟩⟩ bound).2 = extentsState map num bound
  | 0, _ => by rw [extentsState, closedRuns, List.take_nil]; rfl
  | bound + 1, inside => by
      have le : openRun map.bit bound ≤ bound := openRun_le bound
      rw [traversed_snd, getExtents_traversed map num bound (by omega)]
      cases set : map.bit bound with
      | true =>
        rw [if_pos rfl, extentsState, extentsState, closedRuns_succ_of_set set,
          openPair_succ_of_set set]
        split
        case isTrue => rfl
        case isFalse => rw [runInode_next]; rfl
      | false =>
        have closed := @extentsState_closed map bound num (by omega) (by omega)
        rw [if_neg Bool.false_ne_true]
        have after : extentsState map num (bound + 1) =
            { (if 0 < (extentsState map num bound).current.length then
                (extentsState map num bound).store num else extentsState map num bound) with
              current := ⟨0, 0⟩ } := by
          rw [closed, extentsState, openPair_succ_of_clear set, closedRuns_succ_of_clear set]
          rfl
        rw [after]
        split
        case isTrue => rfl
        case isFalse idle =>
          push Not at idle
          rw [extentsState, openPair_of_closed idle.2, if_neg noRun]
          rfl

theorem getFreeExtents_eq (num : UInt16) (small : openRun map.bit map.capacity < 65536)
    (inside : map.capacity ≤ 65536) :
    getFreeExtents map num = ((((runs map.bit map.capacity).take num.toNat).map runInode).mergeSort
        sortInodeLengthDescending, UInt16.ofNat (runs map.bit map.capacity).length) := by
  have closed := extentsState_closed num small inside
  rw [getFreeExtents, traverseExtents_eq, getExtents_traversed map num _ inside, closed]

end Traversal

section Statistics

variable {volume : Volume}

theorem countFreeSectors_eq (covers : volume.info.numBlocks ≤ volume.map.capacity) :
    countFreeSectors volume =
      .ok (UInt16.ofNat ((List.range volume.info.numBlocks).countP volume.map.bit)) := by
  rw [countFreeSectors]
  generalize volume.info.numBlocks = count at covers ⊢
  induction count with
  | zero => rfl
  | succ count ih =>
    rw [List.range_succ, List.foldlM_append, ih (by omega), List.countP_append,
      List.countP_singleton]
    simp only [bind, Except.bind, List.foldlM_cons, List.foldlM_nil, pure, Except.pure,
      SectorMap.isBlockInUse_eq (show count < volume.map.capacity by omega)]
    cases volume.map.bit count with
    | true => rw [if_pos rfl, ofNat_add]; rfl
    | false => rfl

theorem doStatfs_eq {free active : UInt16} (counted : countFreeSectors volume = .ok free)
    (listed : countActiveFiles volume = .ok active)
    (same : (getFreeExtents volume.map (countFreeExtents volume.map)).2 =
      countFreeExtents volume.map) :
    ∃ statfs, System.doStatfs volume = .ok statfs ∧
      statfs.freeSpace = mul32 free.toNat volume.info.blockSize ∧
      statfs.contiguousSpace = (getFreeExtents volume.map (countFreeExtents volume.map)).1.head?.map
          (fun inode => mul32 inode.length.toNat volume.info.blockSize) ∧
      statfs.fileSpace =
        ((getFreeExtents volume.map (countFreeExtents volume.map)).1.take maxInodes).foldl
          (fun space inode => add32 space (mul32 inode.length.toNat volume.info.blockSize)) 0 := by
  rw [System.doStatfs, counted, listed]
  simp only [same, beq_self_eq_true, panicFalse, if_true, bind, Except.bind, pure, Except.pure]
  exact ⟨_, rfl, rfl, rfl, rfl⟩

theorem contiguousSpace_none {statfs : RafsStatfs} (done : System.doStatfs volume = .ok statfs)
    (none : (getFreeExtents volume.map (countFreeExtents volume.map)).1 = []) :
    statfs.contiguousSpace = Option.none := by
  rw [System.doStatfs] at done
  obtain ⟨free, _, done⟩ := bind_eq_ok done
  obtain ⟨_, _, done⟩ := bind_eq_ok done
  obtain ⟨active, _, done⟩ := bind_eq_ok done
  obtain rfl := Except.ok.inj done
  exact congrArg (fun inodes => (List.head? inodes).map fun inode =>
    mul32 inode.length.toNat volume.info.blockSize) none

theorem foldl_space (blockSize : Nat) (inodes : List Inode) (space : Nat)
    (small : space + total (inodes.map Inode.run) * blockSize < 2 ^ 32) :
    inodes.foldl (fun space inode => add32 space (mul32 inode.length.toNat blockSize)) space =
      space + total (inodes.map Inode.run) * blockSize := by
  induction inodes generalizing space with
  | nil => rw [List.map_nil, total, Nat.zero_mul, Nat.add_zero]; rfl
  | cons inode inodes ih =>
    rw [List.map_cons, total, Nat.add_mul, ← Nat.add_assoc] at small ⊢
    have bytes : mul32 inode.length.toNat blockSize = inode.run.2 * blockSize :=
      mod_eq_of_lt (show inode.run.2 * blockSize < 2 ^ 32 by omega)
    have first : add32 space (inode.run.2 * blockSize) = space + inode.run.2 * blockSize :=
      add32_eq (by omega)
    rw [List.foldl_cons, bytes, first, ih _ small]

theorem total_take_le (list : List (Nat × Nat)) (count : Nat) :
    total (list.take count) ≤ total list := by
  have split := total_append (list.take count) (list.drop count)
  rw [List.take_append_drop] at split
  omega

end Statistics

section Agreement

variable {volume : Volume}

theorem sortInodeLengthDescending_iff (first second : Inode) :
    sortInodeLengthDescending first second = true ↔ second.run.2 < first.run.2 ∨
      (first.run.2 = second.run.2 ∧ first.run.1 ≤ second.run.1) := by
  have less : second.length < first.length ↔ second.run.2 < first.run.2 := lt_iff_toNat_lt
  have more : first.length < second.length ↔ first.run.2 < second.run.2 := lt_iff_toNat_lt
  have starts : first.offset ≤ second.offset ↔ first.run.1 ≤ second.run.1 := UInt16.le_iff_toNat_le
  unfold sortInodeLengthDescending
  by_cases longer : second.run.2 < first.run.2
  · simp only [less.mpr longer, if_true, longer, true_or]
  · rw [if_neg fun lt => longer (less.mp lt)]
    by_cases shorter : first.run.2 < second.run.2
    · rw [if_pos (more.mpr shorter)]
      exact iff_of_false Bool.false_ne_true (by omega)
    · rw [if_neg fun lt => shorter (more.mp lt), decide_eq_true_iff, starts]
      omega

theorem sorted_pairwise (inodes : List Inode) :
    (inodes.mergeSort sortInodeLengthDescending).Pairwise fun first second =>
      sortInodeLengthDescending first second = true := by
  refine List.pairwise_mergeSort ?_ ?_ inodes
  · intro first second third before after
    rw [sortInodeLengthDescending_iff] at before after ⊢
    omega
  · intro first second
    rw [Bool.or_eq_true, sortInodeLengthDescending_iff, sortInodeLengthDescending_iff]
    omega

theorem Inode.run_injective {first second : Inode} (same : first.run = second.run) :
    first = second := by
  rw [← run_runInode first, same, run_runInode]

theorem strictly_before {inodes : List Inode} (sorted : inodes.Pairwise fun first second =>
    sortInodeLengthDescending first second = true) (distinct : inodes.Nodup) :
    (inodes.map Inode.run).Pairwise Before := by
  refine List.pairwise_map.mpr ((sorted.and distinct).imp ?_)
  rintro first second ⟨ordered, different⟩
  rcases (sortInodeLengthDescending_iff first second).mp ordered with longer | ⟨same, starts⟩
  · exact .inl longer
  · refine .inr ⟨same, Nat.lt_of_le_of_ne starts fun start => ?_⟩
    exact different (Inode.run_injective (Prod.ext start same))

section

variable (used : ∃ block < 65536, volume.map.bit block = false)

include used

theorem free_lt : (List.range volume.info.numBlocks).countP volume.map.bit < 65536 := by
  obtain ⟨used, inside, clear⟩ := used
  have le : (List.range volume.info.numBlocks).countP volume.map.bit ≤ volume.info.numBlocks :=
    List.countP_le_length.trans_eq List.length_range
  have blocks : volume.info.numBlocks ≤ 65536 := volume.info.blocksFit
  by_contra all
  have every : (List.range volume.info.numBlocks).countP volume.map.bit =
      (List.range volume.info.numBlocks).length := by
    rw [List.length_range]
    omega
  have set := List.countP_eq_length.mp every used (List.mem_range.mpr (by omega))
  rw [clear] at set
  contradiction

theorem run_bounds {run : Nat × Nat} (member : run ∈ runs volume.map.bit volume.info.numBlocks) :
    run.1 < 65536 ∧ run.2 < 65536 := by
  have maximal := mem_runs.mp member
  have blocks : volume.info.numBlocks ≤ 65536 := volume.info.blocksFit
  have inside := maximal.inside
  have nonempty := maximal.nonempty
  refine ⟨by omega, ?_⟩
  by_contra long
  obtain ⟨used, below, clear⟩ := used
  have set := maximal.set used (by omega) (by omega)
  rw [clear] at set
  contradiction

theorem length_runs_lt : (runs volume.map.bit volume.info.numBlocks).length < 65536 := by
  have short := @length_le_total (runs volume.map.bit volume.info.numBlocks)
    fun _ member => (mem_runs.mp member).nonempty
  rw [total_runs] at short
  exact Nat.lt_of_le_of_lt short (free_lt used)

theorem map_run_runInode :
    ((runs volume.map.bit volume.info.numBlocks).map runInode).map Inode.run =
      runs volume.map.bit volume.info.numBlocks := by
  rw [List.map_map]
  refine (List.map_congr_left fun run member => ?_).trans (List.map_id _)
  exact runInode_run (run_bounds used member).1 (run_bounds used member).2

end

theorem longestOf_longest {list sorted : List (Nat × Nat)} (same : sorted.Perm list)
    (nonempty : ∀ run ∈ list, 0 < run.2) : LongestOf sorted (longest list) := by
  rcases longest_mem list with zero | member
  · refine .inr ⟨List.eq_nil_iff_forall_not_mem.mpr fun run member => ?_, zero⟩
    have positive := nonempty run (same.mem_iff.mp member)
    have le := le_longest (same.mem_iff.mp member)
    rw [zero] at le
    exact absurd (positive.trans_le le) (Nat.lt_irrefl 0)
  · exact .inl ⟨same.mem_iff.mpr member, fun other found => le_longest (same.mem_iff.mp found)⟩

section Runs

variable (fits : MapFits volume.info volume.map)
  (used : ∃ block < 65536, volume.map.bit block = false)

include fits

theorem runs_capacity : runs volume.map.bit volume.map.capacity =
    runs volume.map.bit volume.info.numBlocks := by
  have split : volume.map.capacity =
      volume.info.numBlocks + (volume.map.capacity - volume.info.numBlocks) :=
    (Nat.add_sub_cancel' fits.covers).symm
  rw [split]
  exact runs_of_clear fits.padding

include used

theorem openRun_lt : openRun volume.map.bit volume.map.capacity < 65536 := by
  have free := free_lt used
  rw [← total_runs, ← runs_capacity fits, total_runs, ← total_closedRuns] at free
  omega

theorem freeExtents_eq : getFreeExtents volume.map (countFreeExtents volume.map) =
    (((runs volume.map.bit volume.info.numBlocks).map runInode).mergeSort
      sortInodeLengthDescending, countFreeExtents volume.map) := by
  have few := length_runs_lt used
  rw [getFreeExtents_eq _ (openRun_lt fits used) fits.small, countFreeExtents_eq,
    runs_capacity fits, toNat_ofNat', mod_eq_of_lt few,
    List.take_of_length_le (Nat.le_refl _)]

theorem findLongest_run : (findLongestFreeExtent volume.map).run =
    longest (runs volume.map.bit volume.info.numBlocks) := by
  rw [findLongestFreeExtent_eq (openRun_lt fits used) fits.small, runs_capacity fits]
  rcases longest_mem (runs volume.map.bit volume.info.numBlocks) with none | member
  · rw [none]
    rfl
  · exact runInode_run (run_bounds used member).1 (run_bounds used member).2

theorem doStatfs_tellsRuns (scanning : volume.files.scanDirEntryAllocated = true)
    {inodes : List Inode}
    (listed : (getFreeExtents volume.map (countFreeExtents volume.map)).1 = inodes)
    (same : (inodes.map Inode.run).Perm (runs volume.map.bit volume.info.numBlocks))
    (some : inodes ≠ []) : ∃ statfs, System.doStatfs volume = .ok statfs ∧
      TellsRuns statfs (inodes.map Inode.run) volume.info.blockSize := by
  have active : ∃ active, countActiveFiles volume = .ok active := by
    rw [countActiveFiles, FileInfo.scanDirEntry, scanning]
    exact ⟨_, rfl⟩
  obtain ⟨active, active⟩ := active
  have counted := countFreeSectors_eq fits.covers
  rw [← total_runs, ← total_perm same] at counted
  have few : total (inodes.map Inode.run) < 65536 := by
    rw [total_perm same, total_runs]
    exact free_lt used
  have bytes : total (inodes.map Inode.run) * volume.info.blockSize < 2 ^ 32 := by
    have blocks : total (inodes.map Inode.run) ≤ volume.info.numBlocks := by
      rw [total_perm same]
      exact total_runs_le _
    exact (Nat.mul_le_mul_right _ blocks).trans_lt
      ((numBlocks_mul_le volume.info).trans_lt volume.info.sizeFits)
  obtain ⟨statfs, done, freeSpace, contiguous, space⟩ := doStatfs_eq counted active
    (by rw [freeExtents_eq fits used])
  rw [listed] at contiguous space
  refine ⟨statfs, done, ?_, ?_, ?_⟩
  · rw [freeSpace, toNat_ofNat', mod_eq_of_lt few]
    exact mod_eq_of_lt bytes
  · have shorter := Nat.mul_le_mul_right volume.info.blockSize
      (total_take_le (inodes.map Inode.run) maxInodes)
    rw [← List.map_take] at shorter ⊢
    rw [space, foldl_space _ _ _ (by omega), Nat.zero_add]
  · obtain ⟨first, rest, rfl⟩ := List.exists_cons_of_ne_nil some
    rw [contiguous]
    rw [List.map_cons, total, Nat.add_mul] at bytes
    exact congrArg Option.some (mod_eq_of_lt (show first.run.2 * _ < 2 ^ 32 by omega))

theorem queriesAgree_of (scanning : volume.files.scanDirEntryAllocated = true)
    (free : ∃ run, run ∈ runs volume.map.bit volume.info.numBlocks) : QueriesAgree volume := by
  have few := length_runs_lt used
  have extents := freeExtents_eq fits used
  have back := map_run_runInode used
  generalize found : runs volume.map.bit volume.info.numBlocks = all at extents back few free
  have same :
      (((all.map runInode).mergeSort sortInodeLengthDescending).map Inode.run).Perm all := by
    have perm := (List.mergeSort_perm (all.map runInode) sortInodeLengthDescending).map Inode.run
    rwa [back] at perm
  have apart : all.Nodup := by
    rw [← found]
    refine (runs_apart _).imp fun before equal => ?_
    rw [equal, Apart] at before
    omega
  have count : (countFreeExtents volume.map).toNat = all.length := by
    rw [countFreeExtents_eq, runs_capacity fits, found, toNat_ofNat', mod_eq_of_lt few]
  refine ⟨((all.map runInode).mergeSort sortInodeLengthDescending).map Inode.run, ?_, ?_, ?_, ?_,
    ?_, ?_, ?_⟩
  · intro run
    rw [same.mem_iff, ← found]
    exact mem_runs
  · refine strictly_before (sorted_pairwise _) ((List.mergeSort_perm _ _).nodup_iff.mpr ?_)
    exact List.Nodup.of_map Inode.run (back.symm ▸ apart)
  · rw [count, same.length_eq]
  · rw [extents]
  · rw [extents, same.length_eq, count]
  · rw [findLongest_run fits used, found]
    refine longestOf_longest same fun run member => ?_
    rw [← found] at member
    exact (mem_runs.mp member).nonempty
  · refine doStatfs_tellsRuns fits used scanning (by rw [extents]) (found ▸ same) fun none => ?_
    obtain ⟨run, member⟩ := free
    have kept := same.mem_iff.mpr member
    rw [none] at kept
    exact List.not_mem_nil kept

end Runs

end Agreement

section Boundaries

variable {volume : Volume}

theorem maximalRun_block {bound : Nat} {run : Nat × Nat} {bits : Nat → Bool}
    (maximal : MaximalRun bits bound run) : run.1 < bound ∧ bits run.1 = true := by
  have inside := maximal.inside
  have nonempty := maximal.nonempty
  exact ⟨by omega, maximal.set run.1 (Nat.le_refl _) (by omega)⟩

theorem not_queriesAgree_of_full
    (full : ∀ block < volume.info.numBlocks, volume.map.bit block = false) :
    ¬ QueriesAgree volume := by
  rintro ⟨sorted, member, _, _, listed, _, _, statfs, done, _, _, contiguous⟩
  have none : sorted = [] := List.eq_nil_iff_forall_not_mem.mpr fun run found => by
    obtain ⟨inside, set⟩ := maximalRun_block ((member run).mp found)
    rw [full run.1 inside] at set
    contradiction
  rw [none] at listed
  rw [contiguousSpace_none done (List.map_eq_nil_iff.mp listed)] at contiguous
  contradiction

theorem not_queriesAgree_of_empty (padding : ∀ block, volume.info.numBlocks ≤ block →
    volume.map.bit block = false) (empty : ∀ block < 65536, volume.map.bit block = true) :
    ¬ QueriesAgree volume := by
  rintro ⟨sorted, member, _, _, listed, _⟩
  have blocks : volume.info.numBlocks ≤ 65536 := volume.info.blocksFit
  have whole : volume.info.numBlocks = 65536 := by
    by_contra fewer
    have clear := padding volume.info.numBlocks (Nat.le_refl _)
    rw [empty volume.info.numBlocks (by omega)] at clear
    contradiction
  have all : (0, 65536) ∈ sorted := (member _).mpr
    ⟨by decide, by omega, fun index _ below => empty index (by omega), .inl rfl, .inl (by omega)⟩
  rw [← listed] at all
  obtain ⟨inode, _, same⟩ := List.mem_map.mp all
  have length : inode.length.toNat = 65536 := congrArg Prod.snd same
  have small := inode.length.toNat_lt
  omega

/-- The queries agree with the map exactly if a block is free, and not all of 65536. -/
theorem queriesAgree_iff (fits : MapFits volume.info volume.map)
    (scanning : volume.files.scanDirEntryAllocated = true) :
    QueriesAgree volume ↔ (∃ block < volume.info.numBlocks, volume.map.bit block = true) ∧
      ∃ block < 65536, volume.map.bit block = false := by
  constructor
  · intro agree
    constructor
    · by_contra none
      push Not at none
      exact not_queriesAgree_of_full
        (fun block inside => (Bool.not_eq_true _).mp (none block inside)) agree
    · by_contra none
      push Not at none
      exact not_queriesAgree_of_empty fits.padding
        (fun block inside => (Bool.not_eq_false _).mp (none block inside)) agree
  · rintro ⟨⟨block, inside, set⟩, used⟩
    refine queriesAgree_of fits used scanning ?_
    by_contra none
    push Not at none
    have bits := @total_runs volume.map.bit volume.info.numBlocks
    rw [List.eq_nil_iff_forall_not_mem.mpr none] at bits
    have positive := List.countP_pos_iff.mpr ⟨block, List.mem_range.mpr inside, set⟩
    rw [← bits] at positive
    exact Nat.lt_irrefl 0 positive

def threeBlocks (word : BitVec 32) : Volume where
  info := smallPartition
  device := { cells := fun _ => 0, issued := [] }
  map := ⟨[word]⟩
  files :=
    { openFiles := fun _ => none
      scanDirEntryAllocated := true
      freeDirSlot := 1
      fileIsOpenForWriting := false
      compactIsNeeded := false
      numOpenFiles := 0
      sequenceNumber := 0 }

theorem threeBlocks_fits {word : BitVec 32} (small : word.toNat < 2 ^ 3) :
    MapFits (threeBlocks word).info (threeBlocks word).map where
  covers := show smallPartition.numBlocks ≤ 32 by decide
  small := show 32 ≤ 65536 by decide
  padding block outside := by
    have three : 3 ≤ block := Nat.le_trans (show 3 ≤ smallPartition.numBlocks by decide) outside
    show ([word].getD (block / 32) 0).getLsbD (block % 32) = false
    rcases Nat.lt_or_ge block 32 with first | other
    · rw [Nat.div_eq_of_lt first, mod_eq_of_lt first]
      exact Nat.testBit_lt_two_pow (small.trans_le (Nat.pow_le_pow_right (by decide) three))
    · have beyond : [word].length ≤ block / 32 := by
        rw [List.length_singleton]
        omega
      rw [List.getD_eq_default _ _ beyond]
      exact BitVec.getLsbD_zero

theorem queriesAgree_last_block : QueriesAgree (threeBlocks 4) :=
  (queriesAgree_iff (threeBlocks_fits (by decide)) rfl).mpr
    ⟨⟨2, by decide, by decide⟩, 0, by decide, by decide⟩

/-- On a full partition they do not. -/
theorem full_partition_disagrees :
    MapFits (threeBlocks 0).info (threeBlocks 0).map ∧ ¬ QueriesAgree (threeBlocks 0) := by
  refine ⟨threeBlocks_fits (by decide), not_queriesAgree_of_full fun block inside => ?_⟩
  show ([0#32].getD (block / 32) 0).getLsbD (block % 32) = false
  have first : block < 3 := Nat.lt_of_lt_of_le inside (show smallPartition.numBlocks ≤ 3 by decide)
  rw [Nat.div_eq_of_lt (show block < 32 by omega)]
  exact BitVec.getLsbD_zero

end Boundaries

end HeadsetAdk.Rafs
