import HeadsetAdk.Rafs.VolumeInvariant

/-! # The table of open files -/

namespace HeadsetAdk.Rafs

section Slots

variable {files files' : FileInfo} {index : Fin 4}

@[simp] theorem setOpenFile_openFiles (files : FileInfo) (index : Fin 4)
    (openFile : Option OpenFile) :
    (files.setOpenFile index openFile).openFiles = Function.update files.openFiles index openFile :=
  rfl

theorem findOpenFileInstanceById_eq_some {fileId : FileId}
    {openFile : OpenFile} (found : findOpenFileInstanceById files fileId = some (index, openFile)) :
    fileIndex fileId = some index ∧ files.openFiles index = some openFile := by
  unfold findOpenFileInstanceById at found
  obtain ⟨slot, inRange, stored⟩ := Option.bind_eq_some_iff.mp found
  obtain ⟨stored', present, equal⟩ := Option.map_eq_some_iff.mp stored
  cases equal
  exact ⟨inRange, present⟩

theorem findFreeFileSlot_eq_some
    (found : findFreeFileSlot files = some index) : files.openFiles index = none := by
  simpa using List.find?_some found

theorem update_openFiles_cases {openFiles : Fin 4 → Option OpenFile} {other : Fin 4}
    {new : Option OpenFile} {openFile : OpenFile}
    (present : Function.update openFiles index new other = some openFile) :
    (other = index ∧ new = some openFile) ∨
      (other ≠ index ∧ openFiles other = some openFile) := by
  by_cases equal : other = index
  · rw [equal, Function.update_self] at present
    exact Or.inl ⟨equal, present⟩
  · rw [Function.update_of_ne equal] at present
    exact Or.inr ⟨equal, present⟩

theorem writer_update_iff {new : Option OpenFile}
    (openFiles : files'.openFiles = Function.update files.openFiles index new)
    (before : ∀ openFile, files.openFiles index = some openFile → openFile.flags = .rdonly)
    (after : ∀ openFile, new = some openFile → openFile.flags = .rdonly) (openFile : OpenFile) :
    files'.Writer openFile ↔ files.Writer openFile := by
  unfold FileInfo.Writer
  rw [openFiles]
  constructor
  · rintro ⟨other, present, writing⟩
    rcases update_openFiles_cases present with ⟨_, here⟩ | ⟨_, there⟩
    · rw [after openFile here] at writing
      contradiction
    · exact ⟨other, there, writing⟩
  · rintro ⟨other, present, writing⟩
    have different : other ≠ index := by
      rintro rfl
      rw [before openFile present] at writing
      contradiction
    exact ⟨other, by rwa [Function.update_of_ne different], writing⟩

section

variable (same : ∀ openFile, files'.Writer openFile ↔ files.Writer openFile)

include same

theorem reservedSlot_congr (slot : Nat) : files'.ReservedSlot slot ↔ files.ReservedSlot slot := by
  simp only [FileInfo.ReservedSlot, same]

theorem ownedByWriter_congr (owner : Nat × Fin 3) (block : Nat) :
    OwnedByWriter files' owner block ↔ OwnedByWriter files owner block := by
  simp only [OwnedByWriter, same]

end

end Slots

section Count

variable {openFiles : Fin 4 → Option OpenFile} {index : Fin 4}

def openCount (openFiles : Fin 4 → Option OpenFile) : Nat :=
  (Finset.univ.filter fun index => (openFiles index).isSome).card

theorem openCount_le (openFiles : Fin 4 → Option OpenFile) : openCount openFiles ≤ 4 :=
  (Finset.card_le_univ _).trans (by simp)

theorem openCount_add (free : openFiles index = none) (openFile : OpenFile) :
    openCount (Function.update openFiles index (some openFile)) = openCount openFiles + 1 := by
  have split : (Finset.univ.filter fun other =>
        (Function.update openFiles index (some openFile) other).isSome) =
      insert index (Finset.univ.filter fun other => (openFiles other).isSome) := by
    ext other
    by_cases equal : other = index <;> simp [equal]
  rw [openCount, split, Finset.card_insert_of_notMem (by simp [free])]
  rfl

theorem openCount_keep
    {old : OpenFile} (present : openFiles index = some old) (openFile : OpenFile) :
    openCount (Function.update openFiles index (some openFile)) = openCount openFiles := by
  unfold openCount
  congr 1
  ext other
  by_cases equal : other = index <;> simp [equal, present]

theorem openCount_remove {old : OpenFile} (present : openFiles index = some old) :
    openCount (Function.update openFiles index none) + 1 = openCount openFiles := by
  have again := @openCount_add (Function.update openFiles index none) index (by simp) old
  rw [Function.update_idem] at again
  rw [← again, ← present, Function.update_eq_self]

end Count

section Transitions

variable {info : PartInfo} {map map' : SectorMap} {files files' : FileInfo} {index : Fin 4}

theorem WriterOk.mono {openFile : OpenFile} (ok : WriterOk info map openFile)
    (onlyFrees : ∀ block, map'.InUse block → map.InUse block) : WriterOk info map' openFile :=
  { ok with
    currentFree := fun block covers inUse => ok.currentFree block covers (onlyFrees block inUse) }

theorem FilesOk.mono (ok : FilesOk info map files)
    (onlyFrees : ∀ block, map'.InUse block → map.InUse block) : FilesOk info map' files :=
  { ok with
    writers := fun openFile writing =>
      ⟨(ok.writers openFile writing).1.mono onlyFrees, (ok.writers openFile writing).2⟩ }

theorem FilesOk.setReader (ok : FilesOk info map files) {new : Option OpenFile}
    (before : ∀ openFile, files.openFiles index = some openFile → openFile.flags = .rdonly)
    (after : ∀ openFile, new = some openFile → openFile.flags = .rdonly ∧ ReaderOk info openFile)
    (openFiles : files'.openFiles = Function.update files.openFiles index new)
    (freeDirSlot : files'.freeDirSlot = files.freeDirSlot)
    (writerFlag : files'.fileIsOpenForWriting = files.fileIsOpenForWriting)
    (counted : files'.numOpenFiles = openCount files'.openFiles) :
    FilesOk info map files' := by
  have sameWriter := writer_update_iff openFiles before
    (fun openFile present => (after openFile present).1)
  refine ⟨?_, ?_, ?_, ?_, counted⟩
  · intro other openFile present reading
    rw [openFiles] at present
    rcases update_openFiles_cases present with ⟨_, here⟩ | ⟨_, there⟩
    · exact (after openFile here).2
    · exact ok.readers other openFile there reading
  · intro openFile writing
    rw [freeDirSlot]
    exact ok.writers openFile ((sameWriter openFile).mp writing)
  · intro first second firstFile secondFile firstPresent firstWriting secondPresent secondWriting
    rw [openFiles] at firstPresent secondPresent
    rcases update_openFiles_cases firstPresent with ⟨_, here⟩ | ⟨_, firstThere⟩
    · rw [(after firstFile here).1] at firstWriting
      contradiction
    rcases update_openFiles_cases secondPresent with ⟨_, here⟩ | ⟨_, secondThere⟩
    · rw [(after secondFile here).1] at secondWriting
      contradiction
    exact ok.oneWriter first second firstFile secondFile firstThere firstWriting secondThere
      secondWriting
  · rw [writerFlag, ok.writerFlag]
    exact exists_congr fun openFile => (sameWriter openFile).symm

theorem writer_of_update {new : OpenFile}
    (others : ∀ other openFile, other ≠ index → files.openFiles other = some openFile →
      openFile.flags = .rdonly)
    (openFiles : files'.openFiles = Function.update files.openFiles index (some new))
    (writing : new.flags = .wronly) (openFile : OpenFile) :
    files'.Writer openFile ↔ openFile = new := by
  constructor
  · rintro ⟨other, present, flags⟩
    rw [openFiles] at present
    rcases update_openFiles_cases present with ⟨_, here⟩ | ⟨different, there⟩
    · exact (Option.some.inj here).symm
    · rw [others other openFile different there] at flags
      contradiction
  · rintro rfl
    exact ⟨index, by rw [openFiles, Function.update_self], writing⟩

section

variable (ok : FilesOk info map files)

include ok

theorem FilesOk.others {writer : OpenFile} (present : files.openFiles index = some writer)
    (writing : writer.flags = .wronly) (other : Fin 4) (openFile : OpenFile)
    (different : other ≠ index) (there : files.openFiles other = some openFile) :
    openFile.flags = .rdonly := by
  cases flags : openFile.flags with
  | rdonly => rfl
  | wronly =>
    exact absurd (ok.oneWriter other index openFile writer there flags present writing) different

theorem FilesOk.noWriter (idle : files.fileIsOpenForWriting = false) (openFile : OpenFile) :
    ¬ files.Writer openFile := by
  intro writing
  rw [ok.writerFlag.mpr ⟨openFile, writing⟩] at idle
  contradiction

theorem FilesOk.allReaders (idle : files.fileIsOpenForWriting = false) (other : Fin 4)
    (openFile : OpenFile) (there : files.openFiles other = some openFile) :
    openFile.flags = .rdonly := by
  cases flags : openFile.flags with
  | rdonly => rfl
  | wronly => exact absurd ⟨other, there, flags⟩ (ok.noWriter idle openFile)

theorem FilesOk.setWriter {new : OpenFile}
    (others : ∀ other openFile, other ≠ index → files.openFiles other = some openFile →
      openFile.flags = .rdonly)
    (openFiles : files'.openFiles = Function.update files.openFiles index (some new))
    (writing : new.flags = .wronly) (newOk : WriterOk info map' new)
    (slot : new.directoryIndex + 1 = files'.freeDirSlot)
    (writerFlag : files'.fileIsOpenForWriting = true)
    (counted : files'.numOpenFiles = openCount files'.openFiles) :
    FilesOk info map' files' := by
  have onlyWriter := writer_of_update others openFiles writing
  refine ⟨?_, ?_, ?_, ?_, counted⟩
  · intro other openFile present reading
    rw [openFiles] at present
    rcases update_openFiles_cases present with ⟨_, here⟩ | ⟨_, there⟩
    · rw [← Option.some.inj here, writing] at reading
      contradiction
    · exact ok.readers other openFile there reading
  · intro openFile writer
    rw [(onlyWriter openFile).mp writer]
    exact ⟨newOk, slot⟩
  · intro first second firstFile secondFile firstPresent firstWriting secondPresent secondWriting
    rw [openFiles] at firstPresent secondPresent
    rcases update_openFiles_cases firstPresent with ⟨rfl, _⟩ | ⟨firstDifferent, firstThere⟩
    · rcases update_openFiles_cases secondPresent with ⟨rfl, _⟩ | ⟨secondDifferent, secondThere⟩
      · rfl
      · rw [others second secondFile secondDifferent secondThere] at secondWriting
        contradiction
    · rw [others first firstFile firstDifferent firstThere] at firstWriting
      contradiction
  · exact ⟨fun _ => ⟨new, (onlyWriter new).mpr rfl⟩, fun _ => writerFlag⟩

end

end Transitions

end HeadsetAdk.Rafs
