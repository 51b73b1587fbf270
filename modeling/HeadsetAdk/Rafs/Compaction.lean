import HeadsetAdk.Rafs.CreationOrder
import HeadsetAdk.Rafs.SpaceRuns

/-! # Compaction -/

namespace HeadsetAdk.Rafs

open List (length_append append_nil ext_getElem length_map map_map foldl_cons length_cons
  length_nil)
open NorFlash BlockAccounts

section Packed

variable {cells cells' : Cells} {id : BlockId} {entries : List DirEntry}

/-- A table that holds these entries from its first slot on, and nothing behind them -/
structure Packed (cells : Cells) (id : BlockId) (entries : List DirEntry) : Prop where
  fits : entries.length < 113
  entry : ∀ index entry, entries[index]? = some entry → entryAt cells id (index + 1) = entry
  erased : ∀ slot, entries.length < slot → slot < 113 →
    isErasedEntry (entryAt cells id slot) = true

theorem Packed.congr (packed : Packed cells id entries)
    (same : ∀ slot, 1 ≤ slot → slot < 113 → entryAt cells' id slot = entryAt cells id slot) :
    Packed cells' id entries where
  fits := packed.fits
  entry index entry here := by
    have inside : index < entries.length := (List.getElem?_eq_some_iff.mp here).1
    have fits := packed.fits
    rw [same _ (by omega) (by omega)]
    exact packed.entry index entry here
  erased slot after inTable := by
    rw [same slot (by omega) inTable]
    exact packed.erased slot after inTable

theorem Packed.write {device : Device} (packed : Packed device.cells id entries)
    (room : entries.length + 1 < 113) (entry : DirEntry) :
    Packed (dirEntryWrite device id entry (entries.length + 1)).cells id (entries ++ [entry]) where
  fits := by
    rw [length_append]
    exact room
  entry index written here := by
    rcases Nat.lt_trichotomy index entries.length with before | same | after
    · rw [List.getElem?_append_left before] at here
      rw [entryAt_dirEntryWrite_other room (by omega) (by omega)]
      exact packed.entry index written here
    · subst same
      rw [List.getElem?_append_right le_rfl, Nat.sub_self] at here
      cases here
      exact entryAt_dirEntryWrite (DirEntry.accepts_of_erased
        (packed.erased _ (by omega) room) _)
    · rw [List.getElem?_eq_none (by rw [length_append]; exact after)] at here
      contradiction
  erased slot after inTable := by
    rw [length_append] at after
    change entries.length + 1 < slot at after
    rw [entryAt_dirEntryWrite_other room inTable (by omega)]
    exact packed.erased slot (by omega) inTable

theorem Packed.liveFiles_eq (packed : Packed cells id entries)
    (live : ∀ entry ∈ entries, isValidEntry entry = true) :
    liveFiles cells id = entries.map DirEntry.stamp := by
  have fits := packed.fits
  have split : filesIn cells id 1 112 = filesIn cells id 1 entries.length ++
        filesIn cells id (entries.length + 1) (112 - entries.length) := by
    have range : List.range' 1 112 = List.range' 1 entries.length ++
        List.range' (entries.length + 1) (112 - entries.length) := by
      rw [Nat.add_comm entries.length, List.range'_append_1]
      congr 1
      omega
    unfold filesIn
    rw [range, List.filter_append, List.map_append]
  have behind : filesIn cells id (entries.length + 1) (112 - entries.length) = [] :=
    filesIn_eq_nil fun slot lower upper =>
      isValidEntry_of_erased (packed.erased slot (by omega) (by omega))
  refine split.trans ?_
  rw [behind, append_nil]
  unfold filesIn
  have slots (index : Nat) (inside : index < entries.length) :
      entryAt cells id (1 + index) = entries[index] := by
    rw [Nat.add_comm]
    exact packed.entry index _ (List.getElem?_eq_getElem inside)
  rw [List.filter_eq_self.mpr ?_]
  · apply ext_getElem
    · rw [length_map, length_map, List.length_range']
    · intro index first second
      rw [length_map, List.length_range'] at first
      rw [List.getElem_map, List.getElem_map, List.getElem_range', Nat.one_mul, slots index first]
  · intro slot member
    have range := List.mem_range'_1.mp member
    have here := slots (slot - 1) (by omega)
    rw [Nat.add_sub_cancel' range.1] at here
    rw [here]
    exact live _ (List.getElem_mem _)

end Packed

section Loops

/-- The slots that the compaction does not pass over -/
def keptSlots (cells : Cells) (first count : Nat) : List Nat :=
  (List.range' first count).filter fun slot => !isDeletedEntry (entryAt cells .priFat slot)

variable {State : Type} {count : Nat} {body : Nat → DirEntry → State → State} {state : State}

theorem forValidEntries_eq {deviceOf : State → Device} {cells : Cells} (Good : Nat → State → Prop)
    {bound : Nat} (reads : ∀ slot state, slot < bound → Good slot state →
      entryAt (deviceOf state).cells .priFat slot = entryAt cells .priFat slot)
    (skips : ∀ slot state, Good slot state → Good (slot + 1) state)
    (keeps : ∀ slot state, slot < bound → Good slot state →
      Good (slot + 1) (body slot (entryAt cells .priFat slot) state)) {first : Nat}
    (within : first + count ≤ bound) (used : ∀ slot, first ≤ slot → slot < first + count →
      isErasedEntry (entryAt cells .priFat slot) = false) (start : Good first state) :
    forValidEntries deviceOf body count first state = (keptSlots cells first count).foldl
        (fun state slot => body slot (entryAt cells .priFat slot) state) state := by
  induction count generalizing first state with
  | zero => rfl
  | succ count induction =>
    have read : dirEntryRead (deviceOf state) .priFat first = entryAt cells .priFat first :=
      reads first state (by omega) start
    have later (slot : Nat) (lower : first + 1 ≤ slot) (upper : slot < first + 1 + count) :=
      used slot (by omega) (by omega)
    rw [forValidEntries]
    simp only [read]
    rw [if_neg (by rw [used first le_rfl (by omega)]; exact Bool.false_ne_true)]
    rw [keptSlots, List.range'_succ, List.filter_cons]
    cases deleted : isDeletedEntry (entryAt cells .priFat first) with
    | true => exact induction (by omega) later (skips first state start)
    | false => exact induction (by omega) later (keeps first state (by omega) start)

theorem forValidEntries_const {device : Device} (used : ∀ slot, 1 ≤ slot → slot < 1 + count →
      isErasedEntry (entryAt device.cells .priFat slot) = false) :
    forValidEntries (fun _ => device) body count 1 state = (keptSlots device.cells 1 count).foldl
        (fun state slot => body slot (entryAt device.cells .priFat slot) state) state :=
  forValidEntries_eq (fun _ _ => True) (fun _ _ _ _ => rfl) (fun _ _ _ => trivial)
    (fun _ _ _ _ => trivial) le_rfl used trivial

structure PrimaryOk (cells : Cells) (free : Nat) : Prop where
  freeRange : 1 ≤ free ∧ free ≤ 113
  used : ∀ slot, 1 ≤ slot → slot < free →
    isDeletedEntry (entryAt cells .priFat slot) = true ∨
      isValidEntry (entryAt cells .priFat slot) = true
  erased : ∀ slot, free ≤ slot → slot < 113 → isErasedEntry (entryAt cells .priFat slot) = true

variable {cells : Cells} {free : Nat}

theorem PrimaryOk.notErased (primary : PrimaryOk cells free) {slot : Nat} (positive : 1 ≤ slot)
    (before : slot < free) : isErasedEntry (entryAt cells .priFat slot) = false := by
  apply isErasedEntry_eq_false
  intro first
  rcases primary.used slot positive before with deleted | live
  · rw [isDeletedEntry, first] at deleted
    contradiction
  · simp [isValidEntry, isUnusedEntry, first] at live

theorem PrimaryOk.keptSlots_eq (primary : PrimaryOk cells free) :
    keptSlots cells 1 (free - 1) =
      (List.range' 1 112).filter fun slot => isValidEntry (entryAt cells .priFat slot) := by
  have freeRange := primary.freeRange
  have split : List.range' 1 112 = List.range' 1 (free - 1) ++ List.range' free (113 - free) := by
    have next : free = 1 + (free - 1) := by omega
    rw [show List.range' free (113 - free) = List.range' (1 + (free - 1)) (113 - free) by
      rw [← next], List.range'_append_1]
    congr 1
    omega
  have behind : (List.range' free (113 - free)).filter
      (fun slot => isValidEntry (entryAt cells .priFat slot)) = [] := by
    rw [List.filter_eq_nil_iff]
    intro slot member
    have range := List.mem_range'_1.mp member
    rw [isValidEntry_of_erased (primary.erased slot range.1 (by omega))]
    exact Bool.false_ne_true
  rw [split, List.filter_append, behind, append_nil, keptSlots]
  apply List.filter_congr
  intro slot member
  have range := List.mem_range'_1.mp member
  rcases primary.used slot range.1 (by omega) with deleted | live
  · rw [deleted, isValidEntry_of_deleted deleted]
    rfl
  · rw [live]
    cases deleted : isDeletedEntry (entryAt cells .priFat slot) with
    | false => rfl
    | true =>
      rw [isValidEntry_of_deleted deleted] at live
      contradiction

def liveEntries (cells : Cells) (free : Nat) : List DirEntry :=
  (keptSlots cells 1 (free - 1)).map (entryAt cells .priFat)

theorem PrimaryOk.liveFiles_eq (primary : PrimaryOk cells free) :
    liveFiles cells .priFat = (liveEntries cells free).map DirEntry.stamp := by
  rw [liveEntries, primary.keptSlots_eq, map_map]
  rfl

theorem keptSlots_length_le (cells : Cells) (first count : Nat) :
    (keptSlots cells first count).length ≤ count :=
  (List.length_filter_le _ _).trans (by rw [List.length_range'])

end Loops

section Numbers

def DirEntry.renumber (entry : DirEntry) (sequenceCount : UInt16) : DirEntry :=
  { entry with statCounters := { entry.statCounters with sequenceCount := sequenceCount } }

def renumbered (entries : List DirEntry) : List DirEntry :=
  entries.mapIdx fun index entry => entry.renumber (UInt16.ofNat (index + 1))

theorem renumbered_length (entries : List DirEntry) :
    (renumbered entries).length = entries.length :=
  List.length_mapIdx

theorem renumbered_getElem? (entries : List DirEntry) (index : Nat) :
    (renumbered entries)[index]? =
      entries[index]?.map fun entry => entry.renumber (UInt16.ofNat (index + 1)) := by
  rw [renumbered, List.getElem?_mapIdx]

variable {entries : List DirEntry}

theorem mem_renumbered {entry : DirEntry} (member : entry ∈ renumbered entries) :
    ∃ old ∈ entries, ∃ number, entry = old.renumber number := by
  obtain ⟨index, here⟩ := List.mem_iff_getElem?.mp member
  rw [renumbered_getElem?] at here
  obtain ⟨old, oldHere, rfl⟩ := Option.map_eq_some_iff.mp here
  exact ⟨old, List.mem_of_getElem? oldHere, _, rfl⟩

theorem CreationOrder.renumbered {counter : Option UInt16} {created : List StoredName}
    (order : CreationOrder (entries.map DirEntry.stamp) counter created)
    (few : entries.length < 113) {number : UInt16}
    (last : 0 < entries.length → number = UInt16.ofNat entries.length) :
    CreationOrder ((Rafs.renumbered entries).map DirEntry.stamp) (some number) created := by
  have toNat (index : Nat) (inside : index < entries.length) :
      (UInt16.ofNat (index + 1)).toNat = index + 1 := by
    rw [UInt16.toNat_ofNat']
    exact Nat.mod_eq_of_lt (by change index + 1 < 65536; omega)
  refine ⟨?_, ?_, ?_⟩
  · rw [← order.names, map_map, map_map]
    apply List.ext_getElem?
    intro index
    rw [List.getElem?_map, List.getElem?_map, renumbered_getElem?, Option.map_map]
    rfl
  · rw [map_map, List.pairwise_iff_getElem]
    intro first second firstInside secondInside before
    rw [length_map, renumbered_length] at firstInside secondInside
    simp only [List.getElem_map, Rafs.renumbered, List.getElem_mapIdx, Function.comp,
      DirEntry.stamp, DirEntry.renumber]
    rw [UInt16.lt_iff_toNat_lt, toNat first firstInside, toNat second secondInside]
    omega
  · intro top same file member
    cases same
    obtain ⟨entry, entryMember, rfl⟩ := List.mem_map.mp member
    obtain ⟨index, inside, rfl⟩ := List.mem_iff_getElem.mp entryMember
    rw [renumbered_length] at inside
    have total := toNat (entries.length - 1) (by omega)
    rw [Nat.sub_add_cancel (by omega)] at total
    simp only [Rafs.renumbered, List.getElem_mapIdx, DirEntry.stamp, DirEntry.renumber]
    rw [last (by omega), UInt16.le_iff_toNat_le, toNat index inside, total]
    exact inside

end Numbers

section Copies

variable {volume : Volume} {entries : List DirEntry}

theorem foldl_count {Item : Type} (items : List Item) (start : Nat) :
    items.foldl (fun count _ => count + 1) start = start + items.length := by
  induction items generalizing start with
  | nil => rfl
  | cons item items induction =>
    rw [foldl_cons, induction, length_cons]
    omega

theorem PrimaryOk.used_below {cells : Cells} {free : Nat} (primary : PrimaryOk cells free)
    (slot : Nat) (positive : 1 ≤ slot) (below : slot < 1 + (free - 1)) :
    isErasedEntry (entryAt cells .priFat slot) = false :=
  primary.notErased positive (by omega)

theorem getNumberOfDirEntries_eq {files : FileInfo} (positive : 1 ≤ files.freeDirSlot) :
    getNumberOfDirEntries files = files.freeDirSlot :=
  if_neg (by omega)

/-- The slots whose files are kept -/
def Volume.keptSlots (volume : Volume) : List Nat :=
  Rafs.keptSlots volume.device.cells 1 (volume.files.freeDirSlot - 1)

theorem countValidFiles_eq (primary : PrimaryOk volume.device.cells volume.files.freeDirSlot) :
    countValidFiles volume = volume.keptSlots.length := by
  rw [countValidFiles, getNumberOfDirEntries_eq primary.freeRange.1,
    forValidEntries_const primary.used_below, foldl_count, Nat.zero_add]
  rfl

def collected (cells : Cells) (slots : List Nat) : List Resequence :=
  slots.map fun slot => ⟨slot, (entryAt cells .priFat slot).statCounters.sequenceCount⟩

theorem foldl_collected (cells : Cells) (slots : List Nat) {limit : Nat} :
    ∀ resequence : List Resequence, resequence.length + slots.length ≤ limit →
      slots.foldl (fun resequence slot =>
        if resequence.length < limit then
          resequence ++ [⟨slot, (entryAt cells .priFat slot).statCounters.sequenceCount⟩]
        else resequence) resequence = resequence ++ collected cells slots := by
  induction slots with
  | nil => exact fun resequence _ => (append_nil resequence).symm
  | cons slot slots induction =>
    intro resequence fits
    rw [length_cons] at fits
    rw [foldl_cons, if_pos (by omega), induction _ (by
      rw [length_append]
      change resequence.length + 1 + slots.length ≤ limit
      omega), List.append_assoc]
    rfl

/-- The new sequence counts of the slots that are kept -/
def resequenced (slots : List Nat) : List Resequence :=
  slots.mapIdx fun index slot => ⟨slot, UInt16.ofNat (index + 1)⟩

theorem resequenced_number (slots : List Nat) {index : Nat} (inside : index < slots.length) :
    ((resequenced slots)[index]?).map Resequence.sequenceNumber =
      some (UInt16.ofNat (index + 1)) := by
  rw [resequenced, List.getElem?_mapIdx, List.getElem?_eq_getElem inside]
  rfl

theorem keptSlots_sorted (cells : Cells) (first count : Nat) :
    (keptSlots cells first count).Pairwise (· < ·) :=
  List.Pairwise.filter _ (List.pairwise_lt_range' 1)

/-- Numbering the files anew when they stand in the order of their sequence counts -/
theorem getNormalisedSequenceNumbers_eq
    (primary : PrimaryOk volume.device.cells volume.files.freeDirSlot)
    (increasing : ((liveFiles volume.device.cells .priFat).map Prod.snd).Pairwise (· < ·)) :
    getNormalisedSequenceNumbers volume volume.keptSlots.length =
      .ok (resequenced volume.keptSlots) := by
  have collects : forValidEntries (fun _ => volume.device)
      (fun i entry (resequence : List Resequence) =>
        if resequence.length < volume.keptSlots.length then
          resequence ++ [⟨i, entry.statCounters.sequenceCount⟩]
        else resequence) (getNumberOfDirEntries volume.files - 1) 1 [] =
        collected volume.device.cells volume.keptSlots := by
    rw [getNumberOfDirEntries_eq primary.freeRange.1, forValidEntries_const primary.used_below]
    exact foldl_collected _ _ [] (by rw [length_nil, Nat.zero_add, Volume.keptSlots])
  have bySequence : (collected volume.device.cells volume.keptSlots).Pairwise
        fun first second => decide (first.sequenceNumber ≤ second.sequenceNumber) = true := by
    rw [primary.liveFiles_eq, liveEntries, map_map, map_map, List.pairwise_map]
      at increasing
    rw [collected, List.pairwise_map]
    exact increasing.imp fun less => decide_eq_true (UInt16.le_of_lt less)
  have numbered : (collected volume.device.cells volume.keptSlots).mapIdx
        (fun i item => { item with sequenceNumber := UInt16.ofNat (i + 1) }) =
        resequenced volume.keptSlots := by
    apply List.ext_getElem?
    intro index
    rw [resequenced, collected, List.getElem?_mapIdx, List.getElem?_mapIdx, List.getElem?_map,
      Option.map_map]
    rfl
  have bySlot : (resequenced volume.keptSlots).Pairwise
        fun first second => decide (first.fatIndex ≤ second.fatIndex) = true := by
    have slots : (resequenced volume.keptSlots).map Resequence.fatIndex =
        volume.keptSlots := by
      apply List.ext_getElem?
      intro index
      rw [List.getElem?_map, resequenced, List.getElem?_mapIdx, Option.map_map]
      exact Option.map_id_apply
    have sorted : volume.keptSlots.Pairwise (· < ·) := keptSlots_sorted ..
    rw [← slots, List.pairwise_map] at sorted
    exact sorted.imp fun less => decide_eq_true (Nat.le_of_lt less)
  unfold getNormalisedSequenceNumbers
  rw [collects]
  simp only [collected, length_map, BEq.rfl, panicFalse, if_true, bind, Except.bind, pure,
    Except.pure]
  rw [← collected, List.mergeSort_of_pairwise bySequence, numbered,
    List.mergeSort_of_pairwise bySlot]

def copyEntry (resequence : List Resequence) (state : Device × Nat) (entry : DirEntry) :
    Device × Nat :=
  (dirEntryWrite state.1 .secFat
    (entry.renumber (((resequence[state.2 - 1]?).map Resequence.sequenceNumber).getD 0)) state.2,
    state.2 + 1)

theorem foldl_copyEntry (cells : Cells) {resequence : List Resequence} {total : Nat}
    (few : total < 113)
    (numbers : ∀ index < total, (resequence[index]?).map Resequence.sequenceNumber =
      some (UInt16.ofNat (index + 1))) (slots : List Nat) :
    ∀ (device : Device) (copied : List DirEntry), Packed device.cells .secFat copied →
      copied.length + slots.length ≤ total →
      ∃ device', slots.foldl (fun state slot =>
          copyEntry resequence state (entryAt cells .priFat slot)) (device, copied.length + 1) =
          (device', copied.length + slots.length + 1) ∧
        Packed device'.cells .secFat (copied ++ slots.mapIdx fun index slot =>
          (entryAt cells .priFat slot).renumber (UInt16.ofNat (copied.length + index + 1))) ∧
        ∀ id, entryAt device'.cells id 0 = entryAt device.cells id 0 := by
  induction slots with
  | nil =>
    intro device copied packed _
    refine ⟨device, rfl, ?_, fun _ => rfl⟩
    rw [List.mapIdx_nil, append_nil]
    exact packed
  | cons slot slots induction =>
    intro device copied packed fits
    rw [length_cons] at fits
    have number := numbers copied.length (by omega)
    have step : copyEntry resequence (device, copied.length + 1) (entryAt cells .priFat slot) =
        (dirEntryWrite device .secFat ((entryAt cells .priFat slot).renumber
          (UInt16.ofNat (copied.length + 1))) (copied.length + 1), copied.length + 1 + 1) := by
      rw [copyEntry, Nat.add_sub_cancel, number]
      rfl
    have written := packed.write (by omega)
      ((entryAt cells .priFat slot).renumber (UInt16.ofNat (copied.length + 1)))
    obtain ⟨device', folded, packed', kept⟩ := induction _ _ written (by
      rw [length_append]
      change copied.length + 1 + slots.length ≤ total
      omega)
    rw [length_append] at folded packed'
    refine ⟨device', ?_, ?_, fun id => ?_⟩
    · rw [foldl_cons, step]
      refine folded.trans (congrArg (Prod.mk device') ?_)
      simp only [length_cons, length_nil]
      omega
    · rw [List.append_assoc] at packed'
      rw [List.mapIdx_cons]
      have shift (index : Nat) : copied.length + [slot].length + index + 1 =
          copied.length + (index + 1) + 1 := by
        change copied.length + 1 + index + 1 = _
        omega
      simp only [List.length_singleton] at packed'
      simp only [List.length_singleton] at shift
      simp only [shift] at packed'
      exact packed'
    · rw [kept id]
      exact entryAt_dirEntryWrite_other (by omega) (by decide) (by omega)

theorem compactWorkerCopyToBackupAction_eq (scan : volume.files.scanDirEntryAllocated = true)
    (primary : PrimaryOk volume.device.cells volume.files.freeDirSlot)
    (increasing : ((liveFiles volume.device.cells .priFat).map Prod.snd).Pairwise (· < ·))
    (erased : Packed volume.device.cells .secFat []) :
    ∃ device', compactWorkerCopyToBackupAction volume = .ok { volume with
        device := device'
        files :=
          { volume.files with
            sequenceNumber :=
              if 0 < (liveEntries volume.device.cells volume.files.freeDirSlot).length then
                UInt16.ofNat (liveEntries volume.device.cells volume.files.freeDirSlot).length
              else volume.files.sequenceNumber
            freeDirSlot :=
              (liveEntries volume.device.cells volume.files.freeDirSlot).length + 1 } } ∧
      Packed device'.cells .secFat
        (renumbered (liveEntries volume.device.cells volume.files.freeDirSlot)) ∧
      ∀ id, entryAt device'.cells id 0 = entryAt volume.device.cells id 0 := by
  have freeRange := primary.freeRange
  have few : volume.keptSlots.length ≤ _ := keptSlots_length_le ..
  have total : (liveEntries volume.device.cells volume.files.freeDirSlot).length =
      volume.keptSlots.length := length_map ..
  have loop : copyToBackupLoop (resequenced volume.keptSlots)
      (getNumberOfDirEntries volume.files) volume.device = volume.keptSlots.foldl
          (fun state slot => copyEntry (resequenced volume.keptSlots) state
            (entryAt volume.device.cells .priFat slot)) (volume.device, 1) := by
    rw [copyToBackupLoop, getNumberOfDirEntries_eq freeRange.1]
    refine forValidEntries_eq (fun slot (state : Device × Nat) => state.2 ≤ slot ∧
      ∀ other < 113, entryAt state.1.cells .priFat other =
        entryAt volume.device.cells .priFat other) ?_ ?_ ?_
      (show 1 + (volume.files.freeDirSlot - 1) ≤ 113 by omega) primary.used_below
      ⟨le_rfl, fun _ _ => rfl⟩
    · intro slot state inTable good
      exact good.2 slot inTable
    · intro slot state good
      exact ⟨by omega, good.2⟩
    · intro slot state inTable good
      refine ⟨Nat.succ_le_succ good.1, fun other otherInTable => ?_⟩
      rw [← good.2 other otherInTable]
      exact entryAt_dirEntryWrite_other (by have := good.1; omega) otherInTable (by simp)
  obtain ⟨device', folded, packed, roots⟩ := @foldl_copyEntry volume.device.cells _
    volume.keptSlots.length (by omega)
    (fun index inside => resequenced_number _ inside) volume.keptSlots volume.device [] erased
    (by rw [length_nil, Nat.zero_add])
  simp only [length_nil, Nat.zero_add] at folded
  refine ⟨device', ?_, ?_, roots⟩
  · unfold compactWorkerCopyToBackupAction
    simp only [FileInfo.scanDirEntry, scan, if_true, countValidFiles_eq primary,
      getNormalisedSequenceNumbers_eq primary increasing, bind, Except.bind, loop, folded,
      Nat.add_sub_cancel, BEq.rfl, panicFalse, pure, Except.pure, total]
    split
    case isFalse => rfl
    case isTrue some =>
      rw [resequenced_number _ (by omega), Nat.sub_add_cancel some]
      rfl
  · rw [List.nil_append] at packed
    have same : renumbered (liveEntries volume.device.cells volume.files.freeDirSlot) =
        volume.keptSlots.mapIdx
          fun index slot => (entryAt volume.device.cells .priFat slot).renumber
            (UInt16.ofNat (([] : List DirEntry).length + index + 1)) := by
      apply List.ext_getElem?
      intro index
      rw [renumbered_getElem?, liveEntries, List.getElem?_map, List.getElem?_mapIdx,
        Option.map_map, length_nil, Nat.zero_add]
      rfl
    rw [same]
    exact packed

/-- The loop of `Rafs_CompactWorkerCopyToPrimaryAction` copies all entries. -/
theorem copyToPrimaryLoop_packed (rest : List DirEntry) :
    ∀ (device : Device) (copied : List DirEntry), Packed device.cells .priFat copied →
      Packed device.cells .secFat (copied ++ rest) →
      (∀ entry ∈ rest, isErasedEntry entry = false) →
      Packed (copyToPrimaryLoop rest.length (copied.length + 1) device).cells .priFat
          (copied ++ rest) ∧
        Packed (copyToPrimaryLoop rest.length (copied.length + 1) device).cells .secFat
          (copied ++ rest) ∧
        ∀ id, entryAt (copyToPrimaryLoop rest.length (copied.length + 1) device).cells id 0 =
          entryAt device.cells id 0 := by
  induction rest with
  | nil =>
    intro device copied packed backup _
    rw [append_nil]
    exact ⟨packed, by rwa [append_nil] at backup, fun _ => rfl⟩
  | cons entry rest induction =>
    intro device copied packed backup used
    have fits := backup.fits
    rw [length_append, length_cons] at fits
    have read : dirEntryRead device .secFat (copied.length + 1) = entry :=
      backup.entry copied.length entry (by
        rw [List.getElem?_append_right le_rfl, Nat.sub_self]
        rfl)
    have loop : copyToPrimaryLoop (entry :: rest).length (copied.length + 1) device =
        copyToPrimaryLoop rest.length (copied.length + 1 + 1)
          (dirEntryWrite device .priFat entry (copied.length + 1)) := by
      rw [length_cons, copyToPrimaryLoop]
      simp only [read]
      rw [used entry List.mem_cons_self]
      rfl
    have written := packed.write (by omega) entry
    have kept : Packed (dirEntryWrite device .priFat entry (copied.length + 1)).cells .secFat
        (copied ++ entry :: rest) :=
      backup.congr fun slot _ inTable =>
        entryAt_dirEntryWrite_other (by omega) inTable (by simp)
    rw [List.append_cons] at kept
    obtain ⟨primary, secondary, roots⟩ := induction _ _ written kept fun other member =>
      used other (List.mem_cons_of_mem entry member)
    rw [length_append, List.length_singleton, List.append_assoc] at primary secondary
    rw [length_append, List.length_singleton] at roots
    rw [loop]
    refine ⟨primary, secondary, fun id => (roots id).trans ?_⟩
    exact entryAt_dirEntryWrite_other (by omega) (by decide) (by omega)

end Copies

section Accounts

variable {info : PartInfo} {cells : Cells} {free : Nat} {entries : List DirEntry}
  {map : SectorMap}

def HeldBy (entries : List DirEntry) (owner : Nat × Fin 3) (block : Nat) : Prop :=
  ∃ index entry, owner.1 = index + 1 ∧ entries[index]? = some entry ∧
    (entry.inodes owner.2).Covers block

theorem PrimaryOk.balanced (primary : PrimaryOk cells free)
    (balanced : Balanced (ReservedBlock info) (OwnedByTable cells) map.InUse) :
    Balanced (ReservedBlock info) (HeldBy (liveEntries cells free)) map.InUse := by
  have freeRange := primary.freeRange
  have slots (index : Nat) (entry : DirEntry)
      (here : (liveEntries cells free)[index]? = some entry) :
      ∃ slot, (keptSlots cells 1 (free - 1))[index]? = some slot ∧
        entryAt cells .priFat slot = entry := by
    rw [liveEntries, List.getElem?_map] at here
    exact Option.map_eq_some_iff.mp here
  refine balanced.rename (fun name =>
    (((keptSlots cells 1 (free - 1))[name.1 - 1]?).getD 0, name.2)) ?_ ?_ ?_
  · rintro ⟨number, inode⟩ block ⟨index, entry, rfl, here, covers⟩
    obtain ⟨slot, kept, rfl⟩ := slots index entry here
    have member := List.mem_of_getElem? kept
    rw [primary.keptSlots_eq] at member
    have range := List.mem_range'_1.mp (List.mem_of_mem_filter member)
    change OwnedByTable cells (((keptSlots cells 1 (free - 1))[index + 1 - 1]?).getD 0, inode) block
    rw [Nat.add_sub_cancel, kept]
    exact ⟨range.1, range.2, by simpa using (List.mem_filter.mp member).2, covers⟩
  · rintro ⟨slot, inode⟩ block ⟨positive, inTable, live, covers⟩
    have member : slot ∈ keptSlots cells 1 (free - 1) := by
      rw [primary.keptSlots_eq]
      exact List.mem_filter.mpr ⟨List.mem_range'_1.mpr ⟨positive, inTable⟩, live⟩
    obtain ⟨index, here⟩ := List.mem_iff_getElem?.mp member
    refine ⟨(index + 1, inode), index, entryAt cells .priFat slot, rfl, ?_, covers⟩
    rw [liveEntries, List.getElem?_map, here]
    rfl
  · rintro ⟨first, firstInode⟩ ⟨second, secondInode⟩ block ⟨index, entry, rfl, here, _⟩
      ⟨index', entry', rfl, here', _⟩ same
    obtain ⟨slot, kept, _⟩ := slots index entry here
    obtain ⟨slot', kept', _⟩ := slots index' entry' here'
    obtain ⟨sameSlot, rfl⟩ := Prod.mk.inj same
    dsimp only at sameSlot
    rw [Nat.add_sub_cancel, Nat.add_sub_cancel, kept, kept'] at sameSlot
    obtain rfl : slot = slot' := sameSlot
    have distinct := (keptSlots_sorted cells 1 (free - 1)).imp fun less => Nat.ne_of_lt less
    have inside := (List.getElem?_eq_some_iff.mp kept).1
    rw [(List.getElem?_inj inside distinct).mp (kept.trans kept'.symm)]

theorem heldBy_renumbered (owner : Nat × Fin 3) (block : Nat) :
    HeldBy (renumbered entries) owner block ↔ HeldBy entries owner block := by
  constructor
  · rintro ⟨index, entry, number, here, covers⟩
    rw [renumbered_getElem?] at here
    obtain ⟨old, oldHere, rfl⟩ := Option.map_eq_some_iff.mp here
    exact ⟨index, old, number, oldHere, covers⟩
  · rintro ⟨index, entry, number, here, covers⟩
    refine ⟨index, entry.renumber (UInt16.ofNat (index + 1)), number, ?_, covers⟩
    rw [renumbered_getElem?, here]
    rfl

theorem Packed.ownedByTable_iff (packed : Packed cells .priFat entries)
    (live : ∀ entry ∈ entries, isValidEntry entry = true) (owner : Nat × Fin 3) (block : Nat) :
    OwnedByTable cells owner block ↔ HeldBy entries owner block := by
  have fits := packed.fits
  constructor
  · rintro ⟨positive, inTable, isLive, covers⟩
    have before : owner.1 - 1 < entries.length := by
      by_contra after
      rw [isValidEntry_of_erased (packed.erased owner.1 (by omega) inTable)] at isLive
      contradiction
    have here := List.getElem?_eq_getElem before
    have entry := packed.entry _ _ here
    rw [Nat.sub_add_cancel positive] at entry
    rw [entry] at covers
    exact ⟨owner.1 - 1, _, by omega, here, covers⟩
  · rintro ⟨index, entry, number, here, covers⟩
    have inside := (List.getElem?_eq_some_iff.mp here).1
    refine ⟨by omega, by omega, ?_⟩
    rw [number, packed.entry index entry here]
    exact ⟨live entry (List.mem_of_getElem? here), covers⟩

theorem DirEntry.renumber_closed {entry : DirEntry} (closed : ClosedEntry info entry)
    (number : UInt16) : ClosedEntry info (entry.renumber number) :=
  ⟨closed.named, closed.extents⟩

end Accounts

section Roots

variable {cells : Cells} {id : BlockId}

def RootAccepts (cells : Cells) (id : BlockId) : Prop :=
  (entryAt cells id 0).Accepts (getInitialRoot id)

structure HeaderWritten (cells : Cells) (id : BlockId) : Prop where
  status : (entryAt cells id 0).byte 0 &&& (getInitialRoot id).byte 0 = (getInitialRoot id).byte 0
  rest : ∀ index < 36, index ≠ 0 →
    (entryAt cells id 0).byte index = (getInitialRoot id).byte index

theorem RootAccepts.congr {cells' : Cells} (accepts : RootAccepts cells id)
    (same : entryAt cells' id 0 = entryAt cells id 0) : RootAccepts cells' id := by
  rw [RootAccepts, same]
  exact accepts

theorem RootAccepts.secondaryMaster (accepts : RootAccepts cells .secFat) :
    RootAccepts ((firstOp .secFat fcsSecondaryMaster 0).apply cells) .secFat := by
  intro index inside
  rw [entryAt_firstOp_byte cells .secFat fcsSecondaryMaster 0 inside]
  split
  case isTrue first =>
    have before := accepts 0 (by decide)
    rw [first, UInt8.and_assoc]
    exact before
  case isFalse => exact accepts index inside

theorem RootAccepts.headerWritten (accepts : RootAccepts cells id) :
    HeaderWritten ((dataOp id (getInitialRoot id) 0).apply cells) id where
  status := by
    rw [entryAt_dataOp_byte cells id _ 0 (by decide), if_pos rfl]
    exact accepts 0 (by decide)
  rest index inside later := by
    rw [entryAt_dataOp_byte cells id _ 0 inside, if_neg later]
    exact accepts index inside

theorem HeaderWritten.congr {cells' : Cells} (written : HeaderWritten cells id)
    (same : entryAt cells' id 0 = entryAt cells id 0) : HeaderWritten cells' id := by
  constructor
  · rw [same]
    exact written.status
  · rw [same]
    exact written.rest

theorem HeaderWritten.root (written : HeaderWritten cells id) :
    entryAt ((firstOp id ((getInitialRoot id).filename 0) 0).apply cells) id 0 =
      getInitialRoot id := by
  apply DirEntry.ext_bytes
  intro index inside
  rw [entryAt_firstOp_byte cells id _ 0 inside]
  split
  case isTrue first =>
    rw [first, ← DirEntry.byte_zero]
    exact written.status
  case isFalse later => exact written.rest index inside later

end Roots

section Erasing

variable {volume : Volume} {id : BlockId} {slot : Nat}

section

variable (size : volume.info.blockSize = directorySize)

include size

theorem eraseFat_other {other : BlockId} (different : other ≠ id) (inTable : slot < 113) :
    entryAt (eraseFat volume id).device.cells other slot =
      entryAt volume.device.cells other slot := by
  have size : volume.info.blockSize = 4096 := size
  apply entryAt_erase_outside
  rw [mul32_blockSize, size]
  cases id <;> cases other <;>
    simp only [slotOffset, BlockId.block, directorySize, direntSize] <;>
    first | exact absurd rfl different | omega

theorem eraseFat_erased (inTable : slot < 113) :
    isErasedEntry (entryAt (eraseFat volume id).device.cells id slot) = true := by
  have size : volume.info.blockSize = 4096 := size
  apply isErasedEntry_erase <;> rw [mul32_blockSize, size] <;> cases id <;>
    simp only [slotOffset, BlockId.block, directorySize, direntSize] <;> omega

theorem eraseFat_packed :
    Packed (eraseFat volume id).device.cells id [] ∧
      RootAccepts (eraseFat volume id).device.cells id :=
  ⟨⟨by decide, fun _ _ none => absurd none (by simp), fun _ _ inTable =>
      eraseFat_erased size inTable⟩,
    DirEntry.accepts_of_erased (eraseFat_erased size (by decide)) _⟩

end

end Erasing

section Phases

variable {volume volume' : Volume} {created : List StoredName} {entries : List DirEntry}
  {cells : Cells}

structure Compacting (volume : Volume) : Prop where
  closed : ∀ index, volume.files.openFiles index = none
  idle : volume.files.fileIsOpenForWriting = false
  none : volume.files.numOpenFiles = 0
  scan : volume.files.scanDirEntryAllocated = true
  mapOk : MapOk volume.info volume.map
  size : volume.info.blockSize = directorySize

structure SourceOk (volume : Volume) (created : List StoredName) : Prop where
  primary : PrimaryOk volume.device.cells volume.files.freeDirSlot
  closed : ∀ slot, 1 ≤ slot → slot < 113 →
    isValidEntry (entryAt volume.device.cells .priFat slot) = true →
      ClosedEntry volume.info (entryAt volume.device.cells .priFat slot)
  balanced : Balanced (ReservedBlock volume.info) (OwnedByTable volume.device.cells)
    volume.map.InUse
  order : CreationOrder (liveFiles volume.device.cells .priFat)
    (some volume.files.sequenceNumber) created

structure Carried (volume : Volume) (created : List StoredName) (entries : List DirEntry) :
    Prop where
  closed : ∀ entry ∈ entries, ClosedEntry volume.info entry
  balanced : Balanced (ReservedBlock volume.info) (HeldBy entries) volume.map.InUse
  order : CreationOrder (entries.map DirEntry.stamp) (some volume.files.sequenceNumber) created
  free : volume.files.freeDirSlot = entries.length + 1

def PhaseOk (volume : Volume) (created : List StoredName) : CompactState → Prop
  | .start | .eraseSecondaryFat => SourceOk volume created
  | .copyDirentsToBackup =>
      SourceOk volume created ∧ Packed volume.device.cells .secFat [] ∧
        RootAccepts volume.device.cells .secFat
  | .setSecondaryAsMaster | .erasePrimaryFat => ∃ entries,
      Carried volume created entries ∧ Packed volume.device.cells .secFat entries ∧
        RootAccepts volume.device.cells .secFat
  | .copyDirentsToPrimary => ∃ entries,
      Carried volume created entries ∧ Packed volume.device.cells .secFat entries ∧
        Packed volume.device.cells .priFat [] ∧ ∀ id, RootAccepts volume.device.cells id
  | .writeFatHeaderData => ∃ entries,
      Carried volume created entries ∧ ∀ id, Packed volume.device.cells id entries ∧
        RootAccepts volume.device.cells id
  | .setFatsValid => ∃ entries,
      Carried volume created entries ∧ ∀ id, Packed volume.device.cells id entries ∧
        HeaderWritten volume.device.cells id
  | .sendCompletionMessage =>
      VolumeOk volume ∧ CreationOrder (existingFiles volume)
        (some volume.files.sequenceNumber) created

theorem Compacting.noWriter (compacting : Compacting volume) (openFile : OpenFile) :
    ¬ volume.files.Writer openFile := by
  rintro ⟨index, present, _⟩
  rw [compacting.closed] at present
  contradiction

theorem Compacting.existingFiles_eq (compacting : Compacting volume) :
    existingFiles volume = liveFiles volume.device.cells .priFat := by
  rw [existingFiles, newFile_of_noWriter compacting.noWriter, append_nil]

theorem SourceOk.congr (source : SourceOk volume created) {device : Device}
    (same : ∀ slot, 1 ≤ slot → slot < 113 →
      entryAt device.cells .priFat slot = entryAt volume.device.cells .priFat slot) :
    SourceOk { volume with device := device } created where
  primary :=
    { freeRange := source.primary.freeRange
      used := by
        intro slot positive before
        rw [same slot positive (before.trans_le source.primary.freeRange.2)]
        exact source.primary.used slot positive before
      erased := by
        intro slot after inTable
        rw [same slot (source.primary.freeRange.1.trans after) inTable]
        exact source.primary.erased slot after inTable }
  closed slot positive inTable := by
    rw [same slot positive inTable]
    exact source.closed slot positive inTable
  balanced := source.balanced.congr (fun owner block => by
    unfold OwnedByTable
    by_cases range : 1 ≤ owner.1 ∧ owner.1 < 113
    · rw [same owner.1 range.1 range.2]
    · constructor <;> rintro ⟨positive, inTable, _⟩ <;> exact absurd ⟨positive, inTable⟩ range)
    fun _ => Iff.rfl
  order := by
    have files : liveFiles device.cells .priFat = liveFiles volume.device.cells .priFat :=
      filesIn_congr fun slot lower upper => by
        rw [same slot lower upper]
    rw [files]
    exact source.order

theorem SourceOk.of_volumeOk (ok : VolumeOk volume) (compacting : Compacting volume)
    (order : CreationOrder (existingFiles volume) (some volume.files.sequenceNumber) created) :
    SourceOk volume created := by
  have flash := ok.flashOk compacting.idle
  refine ⟨⟨flash.tables.freeRange, ?_, ?_⟩, ?_, ?_, compacting.existingFiles_eq ▸ order⟩
  · intro slot positive before
    exact (flash.tables.used slot positive before id).imp_right ClosedEntry.isValidEntry
  · intro slot after inTable
    exact flash.tables.erased slot (flash.tables.freeRange.1.trans after) inTable (Or.inl after)
  · intro slot positive inTable live
    exact (flash.tables.closed positive inTable live).2.2
  · refine ok.balanced.congr (fun owner block => ?_) fun _ => Iff.rfl
    exact (or_iff_left fun ⟨openFile, writing, _⟩ => compacting.noWriter openFile writing).symm

theorem Carried.live (carried : Carried volume created entries) (entry : DirEntry)
    (member : entry ∈ entries) : isValidEntry entry = true :=
  (carried.closed entry member).isValidEntry

theorem Carried.setDevice (carried : Carried volume created entries) (device : Device) :
    Carried { volume with device := device } created entries :=
  { carried with }

theorem Compacting.setDevice (compacting : Compacting volume) (device : Device) :
    Compacting { volume with device := device } :=
  { compacting with }

theorem SourceOk.copy (source : SourceOk volume created) (compacting : Compacting volume)
    (packed : Packed volume.device.cells .secFat [])
    (accepts : RootAccepts volume.device.cells .secFat)
    (copied : compactWorkerCopyToBackupAction volume = .ok volume') :
    Compacting volume' ∧ PhaseOk volume' created .setSecondaryAsMaster := by
  have freeRange := source.primary.freeRange
  have few : volume.keptSlots.length ≤ _ := keptSlots_length_le ..
  have total : (liveEntries volume.device.cells volume.files.freeDirSlot).length =
      volume.keptSlots.length := length_map ..
  obtain ⟨device', copiedEq, packed', roots⟩ := compactWorkerCopyToBackupAction_eq
    compacting.scan source.primary source.order.increasing packed
  rw [copied] at copiedEq
  cases copiedEq
  refine ⟨{ compacting with }, _, ⟨?_, ?_, ?_, ?_⟩, packed', accepts.congr (roots _)⟩
  · intro entry member
    obtain ⟨old, oldMember, number, rfl⟩ := mem_renumbered member
    obtain ⟨slot, kept, rfl⟩ := List.mem_map.mp oldMember
    rw [source.primary.keptSlots_eq] at kept
    have range := List.mem_range'_1.mp (List.mem_of_mem_filter kept)
    exact DirEntry.renumber_closed (source.closed slot range.1 range.2
      (by simpa using (List.mem_filter.mp kept).2)) number
  · exact (source.primary.balanced source.balanced).congr heldBy_renumbered fun _ => Iff.rfl
  · have order := source.order
    rw [source.primary.liveFiles_eq] at order
    exact order.renumbered (by omega) fun some => if_pos some
  · rw [renumbered_length]

theorem Carried.copyBack (carried : Carried volume created entries)
    (compacting : Compacting volume) (backup : Packed volume.device.cells .secFat entries)
    (erased : Packed volume.device.cells .priFat [])
    (accepts : ∀ id, RootAccepts volume.device.cells id)
    (copied : compactWorkerCopyToPrimaryAction volume = .ok volume') :
    Compacting volume' ∧ PhaseOk volume' created .writeFatHeaderData := by
  have used (entry : DirEntry) (member : entry ∈ entries) : isErasedEntry entry = false :=
    isErasedEntry_eq_false (classifyDirent_file (carried.closed entry member).named).1
  obtain ⟨primary, secondary, roots⟩ :=
    copyToPrimaryLoop_packed entries volume.device [] erased backup used
  have count : getNumberOfDirEntries volume.files - 1 = entries.length := by
    rw [getNumberOfDirEntries_eq (by rw [carried.free]; omega), carried.free, Nat.add_sub_cancel]
  simp only [compactWorkerCopyToPrimaryAction, FileInfo.scanDirEntry, compacting.scan, if_true,
    bind, Except.bind, pure, Except.pure, count] at copied
  cases copied
  refine ⟨compacting.setDevice _, entries, carried.setDevice _, fun id => ?_⟩
  refine ⟨?_, (accepts id).congr (roots id)⟩
  cases id with
  | priFat => exact primary
  | secFat => exact secondary

variable {id other : BlockId} {op : Op} {state : CompactState}

theorem slotOp_root_packed (one : SlotOp op id 0) (packed : Packed cells other entries) :
    Packed (op.apply cells) other entries :=
  packed.congr fun slot positive inTable => one.others cells other slot inTable (by omega)

theorem slotOp_root_other (one : SlotOp op id 0) (different : other ≠ id) :
    entryAt (op.apply cells) other 0 = entryAt cells other 0 :=
  one.others cells other 0 (by decide) fun same => different same.1

theorem headerData_written
    (tables : ∀ id, Packed cells id entries ∧ RootAccepts cells id) (id : BlockId) :
    Packed ((dataOp .secFat (getInitialRoot .secFat) 0).apply
        ((dataOp .priFat (getInitialRoot .priFat) 0).apply cells)) id entries ∧
      HeaderWritten ((dataOp .secFat (getInitialRoot .secFat) 0).apply
        ((dataOp .priFat (getInitialRoot .priFat) 0).apply cells)) id := by
  have primary := @slotOp_dataOp .priFat (getInitialRoot .priFat) 0 (by decide)
  have secondary := @slotOp_dataOp .secFat (getInitialRoot .secFat) 0 (by decide)
  refine ⟨slotOp_root_packed secondary (slotOp_root_packed primary (tables id).1), ?_⟩
  cases id with
  | priFat =>
    exact (tables .priFat).2.headerWritten.congr (slotOp_root_other secondary (by decide))
  | secFat =>
    exact ((tables .secFat).2.congr (slotOp_root_other primary (by decide))).headerWritten

theorem fatsValid_written
    (tables : ∀ id, Packed cells id entries ∧ HeaderWritten cells id) (id : BlockId) :
    Packed ((firstOp .priFat ((getInitialRoot .priFat).filename 0) 0).apply
        ((firstOp .secFat ((getInitialRoot .secFat).filename 0) 0).apply cells)) id entries ∧
      entryAt ((firstOp .priFat ((getInitialRoot .priFat).filename 0) 0).apply
        ((firstOp .secFat ((getInitialRoot .secFat).filename 0) 0).apply cells)) id 0 =
        getInitialRoot id := by
  have primary := @slotOp_firstOp .priFat ((getInitialRoot .priFat).filename 0) 0 (by decide)
  have secondary := @slotOp_firstOp .secFat ((getInitialRoot .secFat).filename 0) 0 (by decide)
  refine ⟨slotOp_root_packed primary (slotOp_root_packed secondary (tables id).1), ?_⟩
  cases id with
  | priFat =>
    exact ((tables .priFat).2.congr (slotOp_root_other secondary (by decide))).root
  | secFat =>
    exact (slotOp_root_other primary (by decide)).trans (tables .secFat).2.root

theorem setFatsValid_cells (volume : Volume) :
    (compactWorkerSetFatsValidAction volume).device.cells =
      (firstOp .priFat ((getInitialRoot .priFat).filename 0) 0).apply
        ((firstOp .secFat ((getInitialRoot .secFat).filename 0) 0).apply volume.device.cells) := by
  rw [← firstOp_apply .priFat, ← firstOp_apply .secFat]
  rfl

theorem Carried.volumeOk (carried : Carried volume created entries)
    (compacting : Compacting volume)
    (tables : ∀ id, Packed volume.device.cells id entries ∧
      entryAt volume.device.cells id 0 = getInitialRoot id) :
    VolumeOk volume ∧ CreationOrder (existingFiles volume)
      (some volume.files.sequenceNumber) created := by
  have packed := (tables .priFat).1
  have fits := packed.fits
  have free := carried.free
  have balanced := carried.balanced.congr (packed.ownedByTable_iff carried.live)
    fun _ => Iff.rfl
  have flash : FlashOk volume.info volume.device.cells volume.files.freeDirSlot := by
    refine ⟨⟨fun id => (tables id).2, ⟨by omega, by omega⟩, ?_, ?_, ?_⟩, balanced.disjoint⟩
    · intro slot positive inTable
      by_cases before : slot - 1 < entries.length
      · have here := List.getElem?_eq_getElem before
        have primary := packed.entry _ _ here
        have secondary := (tables .secFat).1.entry _ _ here
        rw [Nat.sub_add_cancel positive] at primary secondary
        rw [primary, secondary]
      · exact erased_unique ((tables .secFat).1.erased slot (by omega) inTable)
          (packed.erased slot (by omega) inTable)
    · intro slot positive before _
      have here := @List.getElem?_eq_getElem _ entries (slot - 1) (by omega)
      have entry := packed.entry _ _ here
      rw [Nat.sub_add_cancel positive] at entry
      rw [entry]
      exact Or.inr (carried.closed _ (List.getElem_mem _))
    · intro slot positive inTable after
      exact packed.erased slot (by simp only [or_false] at after; omega) inTable
  refine ⟨flash.volumeOk compacting.mapOk ?_ compacting.closed compacting.idle compacting.none, ?_⟩
  · exact balanced.congr flash.scanOwned_iff fun _ => Iff.rfl
  · rw [compacting.existingFiles_eq, packed.liveFiles_eq carried.live]
    exact carried.order

theorem PhaseOk.step {next : CompactState} (compacting : Compacting volume)
    (phase : PhaseOk volume created state)
    (acted : compactWorkerAction volume state = .ok (some (volume', next))) :
    Compacting volume' ∧ PhaseOk volume' created next ∧ volume'.info = volume.info := by
  cases state with
  | start =>
    cases acted
    refine ⟨compacting.setDevice _, SourceOk.congr phase fun slot positive inTable => ?_, rfl⟩
    exact (@slotOp_firstOp .priFat fcsCompactStart 0 (by decide)).others _ _ _ inTable (by omega)
  | eraseSecondaryFat =>
    cases acted
    refine ⟨compacting.setDevice _, ⟨SourceOk.congr phase fun slot _ inTable => ?_,
      eraseFat_packed compacting.size⟩, rfl⟩
    exact eraseFat_other compacting.size (by decide) inTable
  | copyDirentsToBackup =>
    obtain ⟨source, packed, accepts⟩ := phase
    obtain ⟨copied, action, same⟩ := bind_eq_ok acted
    cases same
    have info : volume'.info = volume.info := by
      obtain ⟨device', copiedEq, _⟩ := compactWorkerCopyToBackupAction_eq compacting.scan
        source.primary source.order.increasing packed
      rw [action] at copiedEq
      cases copiedEq
      rfl
    obtain ⟨compacting', phase'⟩ := source.copy compacting packed accepts action
    exact ⟨compacting', phase', info⟩
  | setSecondaryAsMaster =>
    obtain ⟨entries, carried, packed, accepts⟩ := phase
    cases acted
    exact ⟨compacting.setDevice _, ⟨entries, carried.setDevice _,
      slotOp_root_packed (slotOp_firstOp .secFat fcsSecondaryMaster (by decide)) packed,
      accepts.secondaryMaster⟩, rfl⟩
  | erasePrimaryFat =>
    obtain ⟨entries, carried, packed, accepts⟩ := phase
    cases acted
    obtain ⟨erased, primary⟩ := @eraseFat_packed volume .priFat compacting.size
    have other (slot : Nat) (inTable : slot < 113) :=
      @eraseFat_other volume .priFat slot compacting.size .secFat (by decide) inTable
    refine ⟨compacting.setDevice _, ⟨entries, carried.setDevice _,
      packed.congr fun slot _ => other slot, erased, fun id => ?_⟩, rfl⟩
    cases id with
    | priFat => exact primary
    | secFat => exact accepts.congr (other 0 (by decide))
  | copyDirentsToPrimary =>
    obtain ⟨entries, carried, packed, erased, accepts⟩ := phase
    obtain ⟨copied, action, same⟩ := bind_eq_ok acted
    cases same
    obtain ⟨compacting', phase'⟩ := carried.copyBack compacting packed erased accepts action
    obtain ⟨_, _, action⟩ := bind_eq_ok action
    cases action
    exact ⟨compacting', phase', rfl⟩
  | writeFatHeaderData =>
    obtain ⟨entries, carried, tables⟩ := phase
    cases acted
    exact ⟨compacting.setDevice _, ⟨entries, carried.setDevice _, headerData_written tables⟩, rfl⟩
  | setFatsValid =>
    obtain ⟨entries, carried, tables⟩ := phase
    cases acted
    refine ⟨compacting.setDevice _, (carried.setDevice _).volumeOk (compacting.setDevice _) ?_, rfl⟩
    intro id
    have written := fatsValid_written tables id
    rw [← setFatsValid_cells] at written
    exact written
  | sendCompletionMessage => cases acted

def CompactState.directory : CompactState → BlockId
  | .setSecondaryAsMaster | .erasePrimaryFat | .copyDirentsToPrimary => .secFat
  | _ => .priFat

theorem PhaseOk.order (compacting : Compacting volume) (phase : PhaseOk volume created state) :
    CreationOrder (liveFiles volume.device.cells state.directory)
      (some volume.files.sequenceNumber) created := by
  have ofCarried {id : BlockId} {entries : List DirEntry}
      (carried : Carried volume created entries) (packed : Packed volume.device.cells id entries) :
      CreationOrder (liveFiles volume.device.cells id) (some volume.files.sequenceNumber)
        created := by
    rw [packed.liveFiles_eq carried.live]
    exact carried.order
  cases state with
  | start => exact SourceOk.order phase
  | eraseSecondaryFat => exact SourceOk.order phase
  | copyDirentsToBackup => exact phase.1.order
  | setSecondaryAsMaster =>
    obtain ⟨entries, carried, packed, _⟩ := phase
    exact ofCarried carried packed
  | erasePrimaryFat =>
    obtain ⟨entries, carried, packed, _⟩ := phase
    exact ofCarried carried packed
  | copyDirentsToPrimary =>
    obtain ⟨entries, carried, packed, _⟩ := phase
    exact ofCarried carried packed
  | writeFatHeaderData =>
    obtain ⟨entries, carried, tables⟩ := phase
    exact ofCarried carried (tables .priFat).1
  | setFatsValid =>
    obtain ⟨entries, carried, tables⟩ := phase
    exact ofCarried carried (tables .priFat).1
  | sendCompletionMessage =>
    exact compacting.existingFiles_eq ▸ phase.2

end Phases

end HeadsetAdk.Rafs
