import HeadsetAdk.Rafs.SpaceRuns

/-! # What the open mode of a file protects -/

namespace HeadsetAdk.Rafs

open Option (all_some any_eq_true)
open Bool (or_eq_true and_eq_true)
open NorFlash
open Option (bind_eq_some_iff map_eq_some_iff some.inj)

section Readers

def ReadOnly (s : System) (fileId : FileId) : Prop :=
  ∀ files index openFile, s.self.files = some files →
    findOpenFileInstanceById files fileId = some (index, openFile) → openFile.flags = .rdonly

structure SameData (s s' : System) : Prop where
  device : s'.device = s.device
  map : s'.self.map = s.self.map

def OnlyAccessCount (cells cells' : Cells) (slot : Nat) : Prop :=
  ∀ address, (∀ id, ¬ (slotOffset id slot + accessCountOffset ≤ address ∧
    address < slotOffset id slot + accessCountOffset + 2)) → cells' address = cells address

def isFileEvent (fileId : FileId) (s : System) : System.Event → Bool
  | .close id => id == fileId
  | .read id _ => id == fileId
  | .write id _ _ => id == fileId
  | .writeBackground id _ _ => id == fileId
  | .setPosition id _ => id == fileId
  | .getPosition id => id == fileId
  | .deliver index => s.queue[index]?.any fun message =>
      match message with
      | .writeWork id _ _ => id == fileId
      | _ => false
  | _ => false

def writesNothing (s : System) (fileId : FileId) (numBytes : Nat) : Bool :=
  (s.self.files.bind fun files => findOpenFileInstanceById files fileId).all fun found =>
    numBytes == 0 || s.self.partition.all fun partition =>
      found.2.extentFree partition.info == 0 && found.2.nextInode.isNone

def asksNoWrite (s : System) : System.Event → Bool
  | .write fileId _ numBytes => writesNothing s fileId numBytes
  | .deliver index => s.queue[index]?.all fun message =>
      match message with
      | .writeWork fileId _ count => writesNothing s fileId count
      | _ => true
  | _ => true

def fileRun (allowed : System → System.Event → Bool) (fileId : FileId) (s : System)
    (events : List System.Event) : Option System :=
  s.run (fun s event => isFileEvent fileId s event && allowed s event) events

theorem SameData.refl (s : System) : SameData s s := ⟨rfl, rfl⟩

variable {s s' : System} {volume : Volume} {fileId : FileId} {openFile : OpenFile}
  {task : Option TaskId}

theorem SameData.trans {s'' : System} (first : SameData s s') (second : SameData s' s'') :
    SameData s s'' :=
  ⟨second.device.trans first.device, second.map.trans first.map⟩

theorem volume_eq_ok (present : s.volume = .ok volume) :
    ∃ files partition, s.self.files = some files ∧ s.self.partition = some partition ∧
      volume = ⟨partition.info, s.device, s.self.map, files⟩ := by
  obtain ⟨files, hasFiles, present⟩ := bind_eq_ok present
  obtain ⟨partition, isMounted, present⟩ := bind_eq_ok present
  cases present
  unfold System.files at hasFiles
  unfold System.partition at isMounted
  split at hasFiles
  · contradiction
  · split at isMounted
    · contradiction
    · cases hasFiles
      cases isMounted
      exact ⟨_, _, by assumption, by assumption, rfl⟩

structure OnFile (s : System) (fileId : FileId) (files : FileInfo) (partition : Partition)
    (index : Fin 4) (openFile : OpenFile) : Prop where
  ready : s.self.busy = false
  hasFiles : s.self.files = some files
  isMounted : s.self.partition = some partition
  found : findOpenFileInstanceById files fileId = some (index, openFile)

theorem onFile_of_volume (validated : s.validateFileIdentifier fileId = .ok .ok)
    (present : s.volume = .ok volume) :
    ∃ files partition index openFile, OnFile s fileId files partition index openFile ∧
      volume = ⟨partition.info, s.device, s.self.map, files⟩ := by
  obtain ⟨ready, files, index, openFile, hasFiles, found⟩ := validateFileIdentifier_ok validated
  obtain ⟨files', partition, hasFiles', isMounted, equal⟩ := volume_eq_ok present
  obtain rfl := some.inj (hasFiles.symm.trans hasFiles')
  exact ⟨files, partition, index, openFile, ⟨ready, hasFiles, isMounted, found⟩, equal⟩

theorem ReadOnly.setOpenFile {s : System} {fileId : FileId} {files files' : FileInfo}
    {index : Fin 4} {openFile : OpenFile} {new : Option OpenFile} (found :
      findOpenFileInstanceById files fileId = some (index, openFile))
    (openFiles : files'.openFiles = Function.update files.openFiles index new)
    (reading : ∀ openFile, new = some openFile → openFile.flags = .rdonly)
    (stored : s.self.files = some files') : ReadOnly s fileId := by
  intro files'' other current stored' found'
  obtain rfl := some.inj (stored.symm.trans stored')
  obtain ⟨inRange, _⟩ := findOpenFileInstanceById_eq_some found
  obtain ⟨inRange', present⟩ := findOpenFileInstanceById_eq_some found'
  obtain rfl := some.inj (inRange.symm.trans inRange')
  rw [openFiles, Function.update_self] at present
  exact reading current present

structure OnlyMoved (openFile openFile' : OpenFile) : Prop where
  entry : openFile'.fileDirEntry = openFile.fileDirEntry
  flags : openFile'.flags = openFile.flags
  inode : openFile.currentInode ≤ openFile'.currentInode

theorem OnlyMoved.advance (openFile : OpenFile) (length : Nat) :
    OnlyMoved openFile (openFile.advance length) :=
  ⟨rfl, rfl, le_rfl⟩

theorem nextInode_eq_some {next : Fin 3} (more : openFile.nextInode = some next) :
    next.val = openFile.currentInode.val + 1 := by
  unfold OpenFile.nextInode at more
  split at more
  · cases more
    rfl
  · contradiction

theorem readLoop_onlyMoved (info : PartInfo) (device : Device) (passes : Nat) (openFile : OpenFile)
    (remaining : Nat) : OnlyMoved openFile
    (readLoop info device passes openFile remaining).2.1 := by
  induction passes generalizing openFile remaining with
  | zero => exact ⟨rfl, rfl, le_rfl⟩
  | succ passes induction =>
    rw [readLoop]
    dsimp only
    split
    case isFalse => exact .advance _ _
    case isTrue =>
      split
      case h_1 => exact .advance _ _
      case h_2 next more =>
        have later := nextInode_eq_some more
        have entered : openFile.currentInode ≤ next := by
          rw [Fin.le_def, later]
          exact Nat.le_succ _
        split
        case isFalse => exact .advance _ _
        case isTrue =>
          split
          case isFalse => exact ⟨rfl, rfl, entered⟩
          case isTrue =>
            obtain ⟨entry, flags, inode⟩ := induction
              ((openFile.advance (min (min openFile.fileRemaining remaining)
                (openFile.extentFree info))).enterInode next) _
            exact ⟨entry, flags, entered.trans inode⟩

theorem seekLoop_flags {info : PartInfo} {passes scan : Nat} {openFile' : OpenFile}
    (sought : seekLoop info passes openFile scan = .ok openFile') :
    openFile'.flags = openFile.flags := by
  induction passes generalizing openFile scan with
  | zero => contradiction
  | succ passes induction =>
    rw [seekLoop] at sought
    dsimp only at sought
    split at sought
    case isTrue => cases sought; rfl
    case isFalse =>
      split at sought
      case h_1 => contradiction
      case h_2 =>
        split at sought
        case isTrue =>
          rename_i next _ _
          exact @induction { openFile with currentInode := next } _ sought
        case isFalse => cases sought; rfl

theorem writeLoop_nothing {info : PartInfo} {state : WriteState} {buffPtr : Nat → UInt8}
    {remaining : Nat} (nothing : remaining = 0 ∨
      state.openFile.extentFree info = 0 ∧ state.openFile.nextInode = none) (passes : Nat) :
    ∃ result, writeLoop info (passes + 1) state buffPtr remaining =
      .ok (⟨state.device, state.map, state.openFile.advance 0, add32 state.numBytesWritten 0⟩,
        result) := by
  have none : min remaining (state.openFile.extentFree info) = 0 := by
    rcases nothing with rfl | ⟨full, _⟩
    · exact Nat.zero_min _
    · rw [full, Nat.min_zero]
  rw [writeLoop]
  simp only [none, Nat.lt_irrefl, if_false, Nat.sub_zero]
  rcases nothing with rfl | ⟨_, last⟩
  · exact ⟨.ok, rfl⟩
  · split
    · have last' : (state.openFile.advance 0).nextInode = Option.none := last
      rw [last']
      exact ⟨.fileFull, rfl⟩
    · exact ⟨.ok, rfl⟩

section Calls

variable {s s' : System} {fileId : FileId} {reply : Reply}

section

variable (readOnly : ReadOnly s fileId)

include readOnly

theorem ReadOnly.flags {files : FileInfo} {partition : Partition} {index : Fin 4}
    (onFile : OnFile s fileId files partition index openFile) : openFile.flags = .rdonly :=
  readOnly files index openFile onFile.hasFiles onFile.found

variable {numBytes : Nat} {buf : Nat → UInt8}

theorem ReadOnly.read (stepped : s.read fileId numBytes = .ok (s', reply)) :
    SameData s s' ∧ ReadOnly s' fileId := by
  rcases validated_cases stepped with rfl | ⟨validated, stepped⟩
  · exact ⟨.refl _, readOnly⟩
  · obtain ⟨volume, present, stepped⟩ := bind_eq_ok stepped
    obtain ⟨files, partition, index, openFile, onFile, rfl⟩ := onFile_of_volume validated present
    simp only [doRead, onFile.found] at stepped
    cases stepped
    refine ⟨⟨rfl, rfl⟩, @ReadOnly.setOpenFile _ fileId _ _ _ _ _ onFile.found rfl ?_ rfl⟩
    rintro moved ⟨rfl⟩
    exact (readLoop_onlyMoved _ _ _ _ _).flags.trans (readOnly.flags onFile)

theorem ReadOnly.write (nothing : writesNothing s fileId numBytes = true)
    (stepped : s.write fileId buf numBytes = .ok (s', reply)) :
    SameData s s' ∧ ReadOnly s' fileId := by
  rcases validated_cases stepped with rfl | ⟨validated, stepped⟩
  · exact ⟨.refl _, readOnly⟩
  · obtain ⟨volume, present, stepped⟩ := bind_eq_ok stepped
    obtain ⟨files, partition, index, openFile, onFile, rfl⟩ := onFile_of_volume validated present
    simp only [writesNothing, onFile.hasFiles, onFile.isMounted, Option.bind_some, onFile.found,
      all_some, or_eq_true, and_eq_true, beq_iff_eq,
      Option.isNone_iff_eq_none] at nothing
    obtain ⟨result, written⟩ := @writeLoop_nothing partition.info
      ⟨s.device, s.self.map, openFile, 0⟩ buf numBytes nothing 2
    simp only [doWrite, onFile.found, written, bind, Except.bind, pure, Except.pure] at stepped
    cases stepped
    refine ⟨⟨rfl, rfl⟩, @ReadOnly.setOpenFile _ fileId _ _ _ _ _ onFile.found rfl ?_ rfl⟩
    have reading := readOnly.flags onFile
    rintro moved ⟨rfl⟩
    exact reading

theorem ReadOnly.setPosition {position : Nat}
    (stepped : s.setPosition fileId position = .ok (s', reply)) :
    SameData s s' ∧ ReadOnly s' fileId := by
  rcases validated_cases stepped with rfl | ⟨validated, stepped⟩
  · exact ⟨.refl _, readOnly⟩
  · obtain ⟨volume, present, stepped⟩ := bind_eq_ok stepped
    obtain ⟨files, partition, index, openFile, onFile, rfl⟩ := onFile_of_volume validated present
    obtain ⟨⟨volume', result⟩, sought, stepped⟩ := bind_eq_ok stepped
    simp only [doSetPosition, onFile.found, readOnly.flags onFile, ne_eq, not_true, if_false]
      at sought
    cases stepped
    split at sought
    case isTrue =>
      obtain ⟨moved, found, sought⟩ := bind_eq_ok sought
      cases sought
      refine ⟨⟨rfl, rfl⟩, @ReadOnly.setOpenFile _ fileId _ _ _ _ _ onFile.found rfl ?_ rfl⟩
      rintro moved' ⟨rfl⟩
      exact seekLoop_flags found
    case isFalse =>
      cases sought
      refine ⟨⟨rfl, rfl⟩, fun files' index' openFile' stored found => ?_⟩
      exact readOnly files' index' openFile' (onFile.hasFiles.trans stored) found

theorem ReadOnly.close
    (stepped : s.close fileId = .ok (s', reply)) : SameData s s' ∧ ReadOnly s' fileId := by
  rcases validated_cases stepped with rfl | ⟨validated, stepped⟩
  · exact ⟨.refl _, readOnly⟩
  · obtain ⟨volume, present, stepped⟩ := bind_eq_ok stepped
    obtain ⟨files, partition, index, openFile, onFile, rfl⟩ := onFile_of_volume validated present
    have reading : openFile.flags ≠ .wronly := by
      rw [readOnly.flags onFile]
      decide
    simp only [doClose, onFile.found, if_neg reading, bind, Except.bind, pure, Except.pure]
      at stepped
    cases stepped
    refine ⟨⟨rfl, rfl⟩, @ReadOnly.setOpenFile _ fileId _ _ _ _ _ onFile.found rfl ?_ rfl⟩
    rintro moved ⟨⟩

theorem ReadOnly.writeBackground {buf : Nat → UInt8} {numBytes : Nat}
    (stepped : s.writeBackground fileId buf numBytes = .ok (s', reply)) :
    SameData s s' ∧ ReadOnly s' fileId := by
  rcases validated_cases stepped with rfl | ⟨_, stepped⟩
  · exact ⟨.refl _, readOnly⟩
  · cases stepped
    exact ⟨⟨rfl, rfl⟩, readOnly⟩

theorem ReadOnly.getPosition
    (stepped : s.getPosition fileId = .ok (s', reply)) : SameData s s' ∧ ReadOnly s' fileId := by
  rcases validated_cases stepped with rfl | ⟨_, stepped⟩
  · exact ⟨.refl _, readOnly⟩
  · obtain ⟨volume, _, stepped⟩ := bind_eq_ok stepped
    cases stepped
    exact ⟨.refl s, readOnly⟩

end

theorem confirm_sameData (s : System) (task : Option TaskId)
    (confirmation : TaskId → Confirmation) : (s.confirm task confirmation).self = s.self ∧
      (s.confirm task confirmation).device = s.device := by
  cases task with
  | none => exact ⟨rfl, rfl⟩
  | some task => exact ⟨rfl, rfl⟩

theorem ReadOnly.progressWriteWorker (readOnly : ReadOnly s fileId) {buf : Nat → UInt8}
    {count : Nat} (nothing : writesNothing s fileId count = true)
    (stepped : s.progressWriteWorker fileId buf count = .ok s') :
    SameData s s' ∧ ReadOnly s' fileId := by
  obtain ⟨⟨written, reply⟩, wrote, stepped⟩ := bind_eq_ok stepped
  obtain ⟨same, readOnly'⟩ := readOnly.write nothing wrote
  obtain ⟨files, _, stepped⟩ := bind_eq_ok stepped
  split at stepped
  case h_1 => contradiction
  case h_2 index openFile _ =>
    cases stepped
    obtain ⟨self, device⟩ := confirm_sameData written openFile.task fun task =>
      .writeComplete task reply.result fileId count reply.numBytesWritten
    refine ⟨⟨device.trans same.device, (congrArg RafsInstance.map self).trans same.map⟩, ?_⟩
    intro files' index' openFile' stored found
    rw [self] at stored
    exact readOnly' files' index' openFile' stored found

theorem ReadOnly.step (readOnly : ReadOnly s fileId) {event : System.Event}
    (onFile : isFileEvent fileId s event = true) (asks : asksNoWrite s event = true)
    {reply : Option Reply} (stepped : s.step event = .ok (s', reply)) :
    SameData s s' ∧ ReadOnly s' fileId := by
  cases event with
  | close id =>
    obtain rfl := beq_iff_eq.mp onFile
    obtain ⟨_, closed⟩ := reply_eq_ok stepped
    exact readOnly.close closed
  | read id numBytes =>
    obtain rfl := beq_iff_eq.mp onFile
    obtain ⟨_, wasRead⟩ := reply_eq_ok stepped
    exact readOnly.read wasRead
  | write id buf numBytes =>
    obtain rfl := beq_iff_eq.mp onFile
    obtain ⟨_, written⟩ := reply_eq_ok stepped
    exact readOnly.write asks written
  | writeBackground id buf numBytes =>
    obtain rfl := beq_iff_eq.mp onFile
    obtain ⟨_, queued⟩ := reply_eq_ok stepped
    exact readOnly.writeBackground queued
  | setPosition id position =>
    obtain rfl := beq_iff_eq.mp onFile
    obtain ⟨_, sought⟩ := reply_eq_ok stepped
    exact readOnly.setPosition sought
  | getPosition id =>
    obtain rfl := beq_iff_eq.mp onFile
    obtain ⟨_, told⟩ := reply_eq_ok stepped
    exact readOnly.getPosition told
  | deliver index =>
    unfold System.step at stepped
    dsimp only at stepped
    cases queued : s.queue[index]? with
    | none => simp [isFileEvent, queued] at onFile
    | some message =>
      cases message with
      | writeWork id buf count =>
        simp only [isFileEvent, queued, Option.any_some, beq_iff_eq] at onFile
        simp only [asksNoWrite, queued, all_some] at asks
        obtain rfl := onFile
        simp only [queued] at stepped
        obtain ⟨next, handled, stepped⟩ := bind_eq_ok stepped
        cases stepped
        obtain ⟨⟨device, map⟩, readOnly'⟩ := @ReadOnly.progressWriteWorker
          { s with queue := s.queue.eraseIdx index } s' id readOnly buf count asks handled
        exact ⟨⟨device, map⟩, readOnly'⟩
      | _ => simp [isFileEvent, queued] at onFile
  | _ => simp [isFileEvent] at onFile

theorem ReadOnly.run (readOnly : ReadOnly s fileId) {events : List System.Event}
    (ran : fileRun asksNoWrite fileId s events = some s') : SameData s s' := by
  have invariant : SameData s s' ∧ ReadOnly s' fileId := by
    refine @System.run_invariant _ (fun s' => SameData s s' ∧ ReadOnly s' fileId) ?_ s s'
      ⟨.refl s, readOnly⟩ events ran
    rintro s event s' reply ⟨same, readOnly⟩ allowed stepped
    rw [and_eq_true] at allowed
    obtain ⟨same', readOnly'⟩ := readOnly.step allowed.1 allowed.2 stepped
    exact ⟨same.trans same', readOnly'⟩
  exact invariant.1

end Calls

structure OpenedReadOnly (s s' : System) (fileId : FileId) : Prop where
  readOnly : ReadOnly s' fileId
  map : s'.self.map = s.self.map
  device : ∃ slot, OnlyAccessCount s.device.cells s'.device.cells slot

theorem onlyAccessCount_write (device : Device) (entry : DirEntry) (slot : Nat) :
    OnlyAccessCount device.cells
      (writeAccessCount (writeAccessCount device .priFat entry slot) .secFat entry slot).cells
      slot := by
  intro address outside
  have apart (id : BlockId) : address < slotOffset id slot + accessCountOffset ∨
      slotOffset id slot + accessCountOffset + 2 ≤ address := by
    have := outside id
    omega
  exact (program_apply_outside (apart .secFat)).trans (program_apply_outside (apart .priFat))

theorem doOpenRead_some {volume' : Volume} {filename : CString} {result : RafsErrors}
    {index : Fin 4}
    (opened : doOpenRead volume task filename .rdonly = .ok (volume', result, some index)) :
    ∃ slot entry, volume' = openReader volume task .rdonly slot entry index := by
  obtain ⟨found, _, opened⟩ := bind_eq_ok opened
  split at opened
  case h_1 => cases opened
  case h_2 slot entry _ =>
    split at opened
    case h_1 => cases opened
    case h_2 free _ =>
      cases opened
      exact ⟨slot, entry, rfl⟩

theorem files_eq_ok {files : FileInfo} (present : s.files = .ok files) :
    s.self.files = some files := by
  unfold System.files at present
  split at present
  · contradiction
  · cases present
    assumption

theorem open_readOnly {pathname : CString} {reply : Reply}
    (stepped : s.open_ task pathname .rdonly = .ok (s', reply))
    (given : reply.fileId = some fileId) : OpenedReadOnly s s' fileId := by
  unfold System.open_ at stepped
  dsimp only at stepped
  split at stepped
  case isTrue => cases stepped; contradiction
  case isFalse =>
    split at stepped
    case h_1 => cases stepped; contradiction
    case h_2 filename =>
      split at stepped
      case isTrue => cases stepped; contradiction
      case isFalse =>
        obtain ⟨scanning, allocated, stepped⟩ := bind_eq_ok stepped
        obtain ⟨volume, present, stepped⟩ := bind_eq_ok stepped
        obtain ⟨⟨volume', result, index⟩, opened, stepped⟩ := bind_eq_ok stepped
        obtain ⟨freed, wasFreed, stepped⟩ := bind_eq_ok stepped
        cases stepped
        obtain ⟨index, rfl, equal⟩ := map_eq_some_iff.mp given
        obtain ⟨slot, entry, rfl⟩ := doOpenRead_some opened
        obtain ⟨files, partition, hasFiles, isMounted, rfl⟩ := volume_eq_ok present
        have scan : scanning.device = s.device ∧ scanning.self.map = s.self.map := by
          obtain ⟨_, _, allocated⟩ := bind_eq_ok allocated
          obtain ⟨_, _, allocated⟩ := bind_eq_ok allocated
          cases allocated
          exact ⟨rfl, rfl⟩
        rw [freeScanDirent_setVolume] at wasFreed
        cases wasFreed
        refine ⟨?_, scan.2, slot, ?_⟩
        · intro files' other current stored found
          cases stored
          obtain ⟨inRange, there⟩ := findOpenFileInstanceById_eq_some found
          have same : other = index := by
            subst equal
            have inside : (index.val : Int) < 4 := by exact_mod_cast index.isLt
            simpa [fileIndex, Fin.ext_iff, eq_comm, inside] using inRange
          rw [same, openReader, FileInfo.addOpenFile, setOpenFile_openFiles,
            Function.update_self] at there
          cases there
          rfl
        · rw [← scan.1]
          exact onlyAccessCount_write scanning.device (countAccess entry) slot

end Readers

section Writers

/-- Where the next write goes, and what `Rafs_DoClose` would record, are the same. -/
structure KeepsWrite (info : PartInfo) (openFile openFile' : OpenFile) : Prop where
  filePosition : openFile'.filePosition = openFile.filePosition
  extentPosition : openFile'.extentPosition = openFile.extentPosition
  currentInode : openFile'.currentInode = openFile.currentInode
  recorded : (finaliseEntry info openFile').fileDirEntry =
    (finaliseEntry info openFile).fileDirEntry

/-- The positions are `uint32` values. -/
structure OpenFile.PositionsFit (openFile : OpenFile) : Prop where
  filePosition : openFile.filePosition < 2 ^ 32
  extentPosition : openFile.extentPosition < 2 ^ 32

/-- A read finds nothing to read, and no further extent to go to. -/
def readsNothing (info : PartInfo) (openFile : OpenFile) (numBytes : Nat) : Bool :=
  numBytes == 0 ||
    ((openFile.fileRemaining == 0 || openFile.extentFree info == 0) &&
      openFile.nextInode.all fun next => !isValidInode (openFile.fileDirEntry.inodes next))

structure WriterUndisturbed (s s' : System) (fileId : FileId) : Prop where
  same : SameData s s'
  kept : ∀ files partition index openFile, s.self.files = some files →
    s.self.partition = some partition →
      findOpenFileInstanceById files fileId = some (index, openFile) →
        ∃ files' openFile', s'.self.files = some files' ∧
          findOpenFileInstanceById files' fileId = some (index, openFile') ∧
            KeepsWrite partition.info openFile openFile'

def keepsWriter (s : System) (fileId : FileId) (numBytes : Nat) : Bool :=
  s.self.busy ||
    (s.self.files.bind fun files => findOpenFileInstanceById files fileId).all fun found =>
      s.self.partition.all fun partition => readsNothing partition.info found.2 numBytes

variable {openFile : OpenFile} {numBytes : Nat} {s : System} {fileId : FileId}

theorem advance_zero (fit : openFile.PositionsFit) : openFile.advance 0 = openFile := by
  have filePosition : add32 openFile.filePosition 0 = openFile.filePosition :=
    add32_eq fit.filePosition
  have extentPosition : add32 openFile.extentPosition 0 = openFile.extentPosition :=
    add32_eq fit.extentPosition
  rw [OpenFile.advance, filePosition, extentPosition]

theorem readLoop_nothing {info : PartInfo} {device : Device} (fit : openFile.PositionsFit)
    (nothing : readsNothing info openFile numBytes = true) (passes : Nat) :
    (readLoop info device (passes + 1) openFile numBytes).2.1 = openFile := by
  have none : min (min openFile.fileRemaining numBytes) (openFile.extentFree info) = 0 := by
    simp only [readsNothing, or_eq_true, and_eq_true, beq_iff_eq] at nothing
    rcases nothing with zero | ⟨none | none, _⟩
    · rw [zero, Nat.min_zero, Nat.zero_min]
    · rw [none, Nat.zero_min, Nat.zero_min]
    · rw [none, Nat.min_zero]
  rw [readLoop]
  simp only [none, advance_zero fit, Nat.sub_zero]
  split
  case isFalse => rfl
  case isTrue some =>
    split
    case h_1 => rfl
    case h_2 next more =>
      simp only [readsNothing, more, all_some, or_eq_true, and_eq_true, beq_iff_eq,
        Bool.not_eq_true'] at nothing
      rw [if_neg]
      have invalid := (nothing.resolve_left (Nat.pos_iff_ne_zero.mp some)).2
      simp [invalid]

theorem add32_ne {position length : Nat} (_ : position < 2 ^ 32) (positive : 0 < length)
    (small : length < 2 ^ 32) : add32 position length ≠ position := by
  unfold add32
  omega

theorem readLoop_something {info : PartInfo} {device : Device} {openFile : OpenFile}
    {numBytes : Nat} (fit : openFile.PositionsFit) (small : numBytes < 2 ^ 32)
    (something : readsNothing info openFile numBytes = false) (passes : Nat) :
    (readLoop info device (passes + 1) openFile numBytes).2.1.filePosition ≠
        openFile.filePosition ∨
      (readLoop info device (passes + 1) openFile numBytes).2.1.currentInode ≠
        openFile.currentInode := by
  simp only [readsNothing, Bool.or_eq_false_iff, beq_eq_false_iff_ne] at something
  obtain ⟨some, nowhere⟩ := something
  have length_le : min (min openFile.fileRemaining numBytes) (openFile.extentFree info) ≤
      numBytes :=
    (Nat.min_le_left _ _).trans (Nat.min_le_right _ _)
  -- Unless the next extent is entered, some bytes have been read.
  have positive (stays : (openFile.nextInode.all fun next =>
      !isValidInode (openFile.fileDirEntry.inodes next)) = true) :
      0 < min (min openFile.fileRemaining numBytes) (openFile.extentFree info) := by
    rw [stays, Bool.and_true, Bool.or_eq_false_iff, beq_eq_false_iff_ne,
      beq_eq_false_iff_ne] at nowhere
    omega
  have moved (read : 0 < min (min openFile.fileRemaining numBytes) (openFile.extentFree info)) :
      add32 openFile.filePosition
        (min (min openFile.fileRemaining numBytes) (openFile.extentFree info)) ≠
          openFile.filePosition :=
    add32_ne fit.filePosition read (lt_of_le_of_lt length_le small)
  rw [readLoop]
  dsimp only
  split
  case isFalse done => exact Or.inl (moved (by omega))
  case isTrue =>
    split
    case h_1 last =>
      have last' : openFile.nextInode = none := last
      exact Or.inl (moved (positive (by rw [last']; rfl)))
    case h_2 next more =>
      have more' : openFile.nextInode = Option.some next := more
      have later := nextInode_eq_some more'
      split
      case isFalse invalid =>
        refine Or.inl (moved (positive ?_))
        have invalid' : isValidInode (openFile.fileDirEntry.inodes next) = false := by
          simpa [OpenFile.advance] using invalid
        rw [more', all_some, invalid', Bool.not_false]
      case isTrue =>
        refine Or.inr ?_
        split
        case isFalse =>
          intro same
          rw [← same] at later
          simp [OpenFile.enterInode] at later
        case isTrue =>
          obtain ⟨_, _, inode⟩ := readLoop_onlyMoved info device passes
            ((openFile.advance (min (min openFile.fileRemaining numBytes)
              (openFile.extentFree info))).enterInode next)
            (numBytes - min (min openFile.fileRemaining numBytes) (openFile.extentFree info))
          intro same
          have back : next ≤ openFile.currentInode := same ▸ inode
          rw [Fin.le_def, later] at back
          omega

theorem KeepsWrite.refl (info : PartInfo) (openFile : OpenFile) :
    KeepsWrite info openFile openFile :=
  ⟨rfl, rfl, rfl, rfl⟩

def WriteOnly (s : System) (fileId : FileId) : Prop :=
  ∀ files index openFile, s.self.files = some files →
    findOpenFileInstanceById files fileId = some (index, openFile) →
      openFile.flags = .wronly ∧ openFile.PositionsFit

theorem validateFileIdentifier_refused {valid : RafsErrors}
    (validated : s.validateFileIdentifier fileId = .ok valid) (refused : valid ≠ .ok) :
    s.self.busy = true ∨
      (s.self.files.bind fun files => findOpenFileInstanceById files fileId) = none := by
  unfold System.validateFileIdentifier at validated
  split at validated
  case isTrue notReady =>
    unfold System.isReady at notReady
    split at notReady
    · exact Or.inl (by assumption)
    · exact absurd rfl notReady
  case isFalse =>
    right
    rw [Option.bind_eq_none_iff]
    intro files hasFiles
    split at validated
    case h_1 outside => simp [findOpenFileInstanceById, outside]
    case h_2 index inRange =>
      obtain ⟨files', present, validated⟩ := bind_eq_ok validated
      obtain rfl := some.inj ((files_eq_ok present).symm.trans hasFiles)
      cases stored : files'.openFiles index with
      | none => simp [findOpenFileInstanceById, inRange, stored]
      | some openFile =>
        rw [stored] at validated
        exact absurd (Except.ok.inj validated).symm refused

theorem read_writerUndisturbed_iff {s' : System} {reply : Reply} (writeOnly : WriteOnly s fileId)
    (small : numBytes < 2 ^ 32) (stepped : s.read fileId numBytes = .ok (s', reply)) :
    WriterUndisturbed s s' fileId ↔ keepsWriter s fileId numBytes = true := by
  obtain ⟨valid, validated, stepped⟩ := bind_eq_ok stepped
  dsimp only at stepped
  split at stepped
  case isTrue refused =>
    cases stepped
    have undisturbed : WriterUndisturbed s s fileId :=
      ⟨.refl s, fun files partition index openFile hasFiles _ found =>
        ⟨files, openFile, hasFiles, found, .refl _ _⟩⟩
    refine iff_of_true undisturbed ?_
    unfold keepsWriter
    rcases validateFileIdentifier_refused validated refused with busy | closed
    · rw [busy, Bool.true_or]
    · rw [closed, Option.all_none, Bool.or_true]
  case isFalse isValid =>
    rw [not_not.mp isValid] at validated
    obtain ⟨volume, present, stepped⟩ := bind_eq_ok stepped
    obtain ⟨files, partition, index, openFile, onFile, rfl⟩ := onFile_of_volume validated present
    simp only [doRead, onFile.found] at stepped
    cases stepped
    obtain ⟨_, fit⟩ := writeOnly files index openFile onFile.hasFiles onFile.found
    obtain ⟨inRange, _⟩ := findOpenFileInstanceById_eq_some onFile.found
    have found' (moved : OpenFile) : findOpenFileInstanceById
        (files.setOpenFile index (some moved)) fileId = some (index, moved) := by
      simp [findOpenFileInstanceById, inRange]
    have condition : keepsWriter s fileId numBytes =
        readsNothing partition.info openFile numBytes := by
      simp [keepsWriter, onFile.ready, onFile.hasFiles, onFile.found, onFile.isMounted]
    rw [condition]
    constructor
    · rintro ⟨_, kept⟩
      obtain ⟨files', openFile', stored, there, keeps⟩ :=
        kept files partition index openFile onFile.hasFiles onFile.isMounted onFile.found
      cases stored
      rw [found'] at there
      cases there
      by_contra something
      rcases @readLoop_something partition.info s.device openFile numBytes fit small
        (Bool.not_eq_true _ ▸ something) 2 with moved | entered
      · exact moved keeps.filePosition
      · exact entered keeps.currentInode
    · intro nothing
      refine ⟨⟨rfl, rfl⟩, fun files' partition' index' openFile' stored isMounted there => ?_⟩
      obtain rfl := some.inj (onFile.hasFiles.symm.trans stored)
      obtain ⟨rfl, rfl⟩ := Prod.mk.inj (some.inj (onFile.found.symm.trans there))
      refine ⟨_, _, rfl, found' _, ?_⟩
      rw [readLoop_nothing fit nothing 2]
      exact .refl _ _

end Writers

/-- The calls on an id open for reading leave the flash and the map alone if its writes are writes
of nothing, and a read leaves a file open for writing alone if and only if it reads nothing. -/
theorem openModes_isolated (s s' : System) (fileId : FileId) :
    (∀ task pathname reply, s.open_ task pathname .rdonly = .ok (s', reply) →
      reply.fileId = some fileId → OpenedReadOnly s s' fileId) ∧
    (∀ events, ReadOnly s fileId → fileRun asksNoWrite fileId s events = some s' →
      SameData s s') ∧
    (∀ numBytes reply, WriteOnly s fileId → numBytes < 2 ^ 32 →
      s.read fileId numBytes = .ok (s', reply) →
        (WriterUndisturbed s s' fileId ↔ keepsWriter s fileId numBytes = true)) :=
  ⟨fun _ _ _ opened given => open_readOnly opened given, fun _ readOnly ran => readOnly.run ran,
    fun _ _ writeOnly small wasRead => read_writerUndisturbed_iff writeOnly small wasRead⟩

theorem eq_ok_of_toOption {Result : Type} {outcome : Except Fault Result} {result : Result}
    (succeeded : outcome.toOption = some result) : outcome = .ok result := by
  cases outcome with
  | error fault => contradiction
  | ok value => exact congrArg Except.ok (some.inj succeeded)

def lookAround : List System.Event :=
  [.read 0 10, .setPosition 0 3, .write 0 (fun _ => 0) 0, .getPosition 0, .close 0]

theorem openModes_isolated_lookAround : ∃ s s' s'' reply,
    s.open_ none pathA .rdonly = .ok (s', reply) ∧ OpenedReadOnly s s' 0 ∧
      fileRun asksNoWrite 0 s' lookAround = some s'' ∧ SameData s' s'' := by
  have ran : ((spaceRun (fun _ _ => true)
      (System.init smallPartition (formattedCells smallPartition fun _ => 0))
      fillPartition.dropLast).bind fun s =>
        (s.open_ none pathA .rdonly).toOption.bind fun opened =>
          (fileRun asksNoWrite 0 opened.1 lookAround).map fun s'' => (s, opened, s'')).any
            (fun found => found.2.1.2.fileId == some 0) = true := by
    decide +kernel
  obtain ⟨⟨s, ⟨s', reply⟩, s''⟩, ran, given⟩ := (any_eq_true _ _).mp ran
  obtain ⟨s, _, ran⟩ := bind_eq_some_iff.mp ran
  obtain ⟨opened, wasOpened, ran⟩ := bind_eq_some_iff.mp ran
  obtain ⟨s'', looked, equal⟩ := map_eq_some_iff.mp ran
  cases equal
  have opening := eq_ok_of_toOption wasOpened
  have isolated := (openModes_isolated s s' 0).1 none pathA reply opening (beq_iff_eq.mp given)
  exact ⟨s, s', s'', reply, opening, isolated, looked,
    (openModes_isolated s' s'' 0).2.1 lookAround isolated.readOnly looked⟩

def beginFile : List System.Event :=
  fillPartition.take 4 ++ [.write 0 (fun _ => 0x55) 10]

/-- A write through an id opened for reading changes the file, and a read through an
id opened for writing moves the end of the file. -/
theorem openModes_ignored :
    (∃ s s' fileId events, ReadOnly s fileId ∧
      fileRun (fun _ _ => true) fileId s events = some s' ∧ ¬ SameData s s') ∧
    (∃ s s' fileId numBytes reply, WriteOnly s fileId ∧ numBytes < 2 ^ 32 ∧
      s.read fileId numBytes = .ok (s', reply) ∧ ¬ WriterUndisturbed s s' fileId) := by
  constructor
  · have ran : ((spaceRun (fun _ _ => true)
        (System.init smallPartition (formattedCells smallPartition fun _ => 0))
        fillPartition).bind fun s =>
          (fileRun (fun _ _ => true) 0 s [.write 0 (fun _ => 0) 1]).map fun s' => (s, s')).any
            (fun found => (found.1.self.files.all fun files =>
              (findOpenFileInstanceById files 0).all fun openFile => openFile.2.flags == .rdonly) &&
              found.1.device.cells 8192 == 0x55 && found.2.device.cells 8192 == 0) = true := by
      decide +kernel
    obtain ⟨⟨s, s'⟩, ran, facts⟩ := (any_eq_true _ _).mp ran
    obtain ⟨s, _, ran⟩ := bind_eq_some_iff.mp ran
    obtain ⟨s', wrote, equal⟩ := map_eq_some_iff.mp ran
    cases equal
    simp only [and_eq_true, beq_iff_eq] at facts
    obtain ⟨⟨reading, before⟩, after⟩ := facts
    refine ⟨s, s', 0, _, ?_, wrote, ?_⟩
    · intro files index openFile hasFiles found
      rw [hasFiles, all_some, found] at reading
      exact beq_iff_eq.mp reading
    · intro same
      rw [same.device, before] at after
      contradiction
  · have ran : ((spaceRun (fun _ _ => true)
        (System.init smallPartition (formattedCells smallPartition fun _ => 0)) beginFile).bind
          fun s => (s.read 0 5).toOption.map fun outcome => (s, outcome)).any
            (fun found => !keepsWriter found.1 0 5 && (found.1.self.files.all fun files =>
              (findOpenFileInstanceById files 0).all fun openFile =>
                openFile.2.flags == .wronly && decide (openFile.2.filePosition < 2 ^ 32) &&
                  decide (openFile.2.extentPosition < 2 ^ 32))) = true := by
      decide +kernel
    obtain ⟨⟨s, ⟨s', reply⟩⟩, ran, facts⟩ := (any_eq_true _ _).mp ran
    obtain ⟨s, _, ran⟩ := bind_eq_some_iff.mp ran
    obtain ⟨outcome, wasRead, equal⟩ := map_eq_some_iff.mp ran
    cases equal
    rw [and_eq_true, Bool.not_eq_true'] at facts
    obtain ⟨disturbs, writing⟩ := facts
    have reading := eq_ok_of_toOption wasRead
    have writeOnly : WriteOnly s 0 := by
      intro files index openFile hasFiles found
      rw [hasFiles, all_some, found, all_some] at writing
      simp only [and_eq_true, beq_iff_eq, decide_eq_true_eq] at writing
      exact ⟨writing.1.1, writing.1.2, writing.2⟩
    refine ⟨s, s', 0, 5, reply, writeOnly, by decide, reading, ?_⟩
    rw [read_writerUndisturbed_iff writeOnly (by decide) reading, disturbs]
    exact Bool.false_ne_true

end HeadsetAdk.Rafs
