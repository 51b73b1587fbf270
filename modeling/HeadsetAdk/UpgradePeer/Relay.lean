import HeadsetAdk.UpgradePeer.PeerResume

/-! # The relay of a file to the peer -/

namespace HeadsetAdk.UpgradePeer

open List (flatMap_cons mem_cons_self length_append length_drop)
open Upgrade
open PartitionDataState (noConfusion)

namespace PartitionReader

def createInstance : PartitionReader where
  handle := none
  pskey := dfuHeaderPskeyStart
  readOffset := 0
  appHdrLength := 0
  partDataLength := 0
  footerLength := 0
  partitionNumber := 0
  sqifNumber := 0
  state := .generic1stPart
  partitionOffset := 0

def Requests (reader : PartitionReader) (size : Nat) : Prop :=
  match reader.state with
  | .generic1stPart => size = headerFirstPartSize
  | .header => size = reader.appHdrLength
  | .dataHeader => size = partitionSecondHeaderSize + firstWordSize
  | .data => True
  | .footer => 0 < size ∧ size % 2 = 0 ∧ size ≤ reader.footerLength

/-- Calls of `UpgradePartitionReader_ReadData` with these sizes, while they succeed. -/
def readAll (device : ReaderDevice) : PartitionReader → List Nat → Option (List Reading)
  | _, [] => some []
  | reader, size :: sizes =>
      (reader.readRequest device size 0).bind fun reading =>
        if reading.status = .success then
          (readAll device reading.reader sizes).map fun readings => reading :: readings
        else some [reading]

def AsRequested (device : ReaderDevice) : PartitionReader → List Nat → Prop
  | _, [] => True
  | reader, size :: sizes =>
      reader.Requests size ∧
        ∀ reading, reader.readRequest device size 0 = some reading →
          AsRequested device reading.reader sizes

end PartitionReader

def Reading.sent (reading : Reading) : List UInt8 := reading.data.take reading.sentLength

def Told (part : Part) (reader : PartitionReader) : Prop :=
  match part with
  | .mainHeader header => reader.appHdrLength = header.length
  | .partitionHeader component => reader.partDataLength = component.data.length + 8
  | .partitionData component =>
      reader.partDataLength = component.data.length ∧ reader.partitionNumber = component.partNum
  | .signature _ => reader.footerLength = expectedSignatureSize
  | _ => True

structure AtPart (part : Part) (count : Nat) (reader : PartitionReader) : Prop where
  place : reader = reader.movedTo count
  state : reader.state = part.state
  closed : reader.handle = none
  told : Told part reader

structure Ahead (device : ReaderDevice) (sections : Nat → List UInt8) (log : List UInt8)
    (parts : List Part) (count : Nat) : Prop where
  chain : parts.IsChain Part.Leads
  known : ∀ part ∈ parts, part.Fits ∧ Accepted part ∧ part.stored.length % 2 = 0
  flash : ∀ component, .partitionData component ∈ parts →
    putFirstWord component.firstWord ++ component.data <+: sections component.partNum
  here : parts.flatMap Part.stored <+: log.drop count
  even : count % 2 = 0
  ends : ∀ part ∈ parts.getLast?,
    ∃ bytes, part = .signature bytes ∧ bytes.length = expectedSignatureSize

inductive Relaying : List Part → Nat → List UInt8 → PartitionReader → Prop
  | atPart {part : Part} {rest : List Part} {count : Nat} {reader : PartitionReader}
      (isAt : AtPart part count reader) :
      Relaying (part :: rest) count ((part :: rest).flatMap Part.bytes) reader
  | inData {component : Component} {rest : List Part} {count done : Nat}
      {reader : PartitionReader} (place : reader = reader.movedTo count)
      (inData : InData component done reader) :
      Relaying (.partitionData component :: rest) count
        (component.data.drop done ++ rest.flatMap Part.bytes) reader
  | inFooter {bytes : List UInt8} {count done : Nat} {reader : PartitionReader}
      (place : reader = reader.movedTo (count + done)) (state : reader.state = .footer)
      (footerLength : reader.footerLength = expectedSignatureSize - done)
      (even : done % 2 = 0) (more : done < expectedSignatureSize) :
      Relaying [.signature bytes] count (bytes.drop done) reader
  | ended {count : Nat} {reader : PartitionReader} (state : reader.state = .footer)
      (footerLength : reader.footerLength = 0) : Relaying [] count [] reader

/-- A block of what is left has been read, the last one if nothing is left behind it. -/
structure Relayed (device : ReaderDevice) (sections : Nat → List UInt8) (log : List UInt8)
    (parts : List Part) (remaining : List UInt8) (size : Nat) (reading : Reading) : Prop where
  status : reading.status = .success
  next : ∃ parts' count' remaining', remaining = reading.sent ++ remaining' ∧
    Ahead device sections log parts' count' ∧ Relaying parts' count' remaining' reading.reader ∧
    (reading.lastPacket = true ↔ remaining' = []) ∧
    (0 < size → remaining'.length + parts'.length < remaining.length + parts.length)

section Steps

variable {before : PsKeys} {device : ReaderDevice} {sections : Nat → List UInt8}
  {log bytes : List UInt8} {part next : Part} {rest parts : List Part} {count done size : Nat}
  {component : Component} {reader : PartitionReader} {remaining : List UInt8} {reading : Reading}

theorem Ahead.tail (ahead : Ahead device sections log (part :: next :: rest) count) :
    Ahead device sections log (next :: rest) (count + part.stored.length) := by
  have here := ahead.here
  rw [flatMap_cons] at here
  have even := ahead.even
  have evenPart := (ahead.known part mem_cons_self).2.2
  refine ⟨(List.isChain_cons_cons.mp ahead.chain).2, fun other member => ?_, fun component member =>
    ?_, stored_behind here, by omega, fun last isLast => ?_⟩
  · exact ahead.known other (List.mem_cons_of_mem _ member)
  · exact ahead.flash component (List.mem_cons_of_mem _ member)
  · exact ahead.ends last (by rwa [List.getLast?_cons_cons])

section

variable (ahead : Ahead device sections log (part :: rest) count)

include ahead

theorem Ahead.exists_next
    (notLast : part.state ≠ .footer) : ∃ next rest', rest = next :: rest' ∧ part.Leads next := by
  cases rest with
  | nil =>
    obtain ⟨bytes, rfl, _⟩ := ahead.ends part rfl
    exact absurd rfl notLast
  | cons next rest =>
    exact ⟨next, rest, rfl, (List.isChain_cons_cons.mp ahead.chain).1⟩

theorem Ahead.here_head : part.stored <+: log.drop count := by
  have here := ahead.here
  rw [flatMap_cons] at here
  exact (List.prefix_append _ _).trans here

theorem Ahead.bytes_ne_nil : (part :: rest).flatMap Part.bytes ≠ [] := by
  obtain ⟨last, isLast⟩ : ∃ last, (part :: rest).getLast? = some last :=
    ⟨_, List.getLast?_eq_some_getLast (List.cons_ne_nil _ _)⟩
  obtain ⟨bytes, rfl, length⟩ := ahead.ends last isLast
  intro empty
  have noBytes := List.flatMap_eq_nil_iff.mp empty _ (List.mem_of_getLast? isLast)
  have nothing : bytes = [] := noBytes
  rw [nothing] at length
  exact absurd length (by decide)

end

theorem AtPart.inKeys (isAt : AtPart part count reader) (notData : part.state ≠ .data)
    (here : part.stored <+: log.drop count) (even : count % 2 = 0) :
    InKeys log part count 0 reader :=
  inKeys_of_stored notData isAt.place isAt.state here even

theorem AtPart.ofFirst (first : next.state = .generic1stPart)
    (place : reader = reader.movedTo count) (state : reader.state = .generic1stPart)
    (closed : reader.handle = none) : AtPart next count reader := by
  refine ⟨place, state.trans first.symm, closed, ?_⟩
  obtain ⟨header, rfl⟩ | ⟨component, rfl⟩ | rfl := Part.eq_first first
  · trivial
  · trivial
  · trivial

theorem AtPart.enteredBy (isAt : AtPart part count reader) (first : part.state = .generic1stPart)
    (leads : part.Leads next) :
    AtPart next (count + part.stored.length)
      ((reader.movedTo (count + 0 + headerFirstPartSize)).enteredBy part) := by
  cases leads with
  | mainHeader header => exact ⟨rfl, rfl, isAt.closed, rfl⟩
  | partitionHeader component => exact ⟨rfl, rfl, isAt.closed, rfl⟩
  | signature bytes => exact ⟨rfl, rfl, isAt.closed, rfl⟩
  | partitionData component => exact noConfusion first
  | behindHeader header => exact noConfusion first
  | behindData component => exact noConfusion first

theorem relayed_whole (ahead : Ahead device sections log (part :: next :: rest) count)
    (reader' : PartitionReader) (isAt : AtPart next (count + part.stored.length) reader') :
    Relayed device sections log (part :: next :: rest) ((part :: next :: rest).flatMap Part.bytes)
      size ⟨.success, (part.bytes.drop 0).take part.bytes.length, part.bytes.length, false,
        reader'⟩ := by
  refine ⟨rfl, next :: rest, _, _, ?_, ahead.tail, .atPart isAt, ?_, fun _ => ?_⟩
  · rw [flatMap_cons, Reading.sent, List.drop_zero, List.take_length, List.take_length]
  · exact ⟨fun wrong => Bool.noConfusion wrong, fun empty => absurd empty ahead.tail.bytes_ne_nil⟩
  · rw [@List.flatMap_cons _ _ part, length_append, @List.length_cons _ part]
    omega

theorem relayed_data (ahead : Ahead device sections log (.partitionData component :: rest) count)
    (place : reader = reader.movedTo count)
    (reads : PartitionReader.ReadsData component done size reader reading) :
    Relayed device sections log (.partitionData component :: rest)
      (component.data.drop done ++ rest.flatMap Part.bytes) size reading := by
  have within := reads.within
  have some := reads.some
  have sent : reading.sent = (component.data.drop done).take reading.sentLength := by
    rw [Reading.sent, reads.data, List.take_take, Nat.min_self]
  have place' : reading.reader = reading.reader.movedTo count :=
    eq_movedTo (reads.keys.1.trans (congrArg PartitionReader.pskey place))
      (reads.keys.2.trans (congrArg PartitionReader.readOffset place))
  have notLast (remaining : List UInt8) (filled : remaining ≠ []) :
      reading.lastPacket = true ↔ remaining = [] := by
    rw [reads.lastPacket]
    exact ⟨fun wrong => Bool.noConfusion wrong, fun empty => absurd empty filled⟩
  obtain ⟨next, rest', rfl, leads⟩ := ahead.exists_next fun wrong =>
    noConfusion wrong
  have filled := ahead.tail.bytes_ne_nil
  rcases Nat.lt_or_eq_of_le within with goesOn | whole
  · refine ⟨reads.status, _, count, _, ?_, ahead, .inData place' (reads.more goesOn),
      notLast _ fun empty => filled (List.append_eq_nil_iff.mp empty).2, fun positive => ?_⟩
    · rw [sent, ← List.append_assoc, ← List.drop_drop, List.take_append_drop]
    · have progress := some positive
      rw [length_append, length_append, length_drop, length_drop]
      omega
  · obtain ⟨state, closed⟩ := reads.all whole
    have first : next.state = .generic1stPart := by
      cases leads with
      | behindData component first => exact first
    refine ⟨reads.status, _, count, _, ?_, ahead.tail, .atPart (.ofFirst first place' state closed),
      notLast _ filled, fun _ => ?_⟩
    · rw [sent, List.take_of_length_le (by rw [length_drop]; omega)]
    · rw [length_append, @List.length_cons _ (Part.partitionData component)]
      omega

/-- Whole words of the signature have been read. -/
theorem relays_footer (ahead : Ahead device sections log [.signature bytes] count)
    (holds : Holds before device.store log log.length)
    (place : reader = reader.movedTo (count + done)) (state : reader.state = .footer)
    (footerLength : reader.footerLength = expectedSignatureSize - done)
    (even : done % 2 = 0) (more : done < expectedSignatureSize) (requests : reader.Requests size) :
    ∃ reading, reader.readRequest device size 0 = some reading ∧
      Relayed device sections log [.signature bytes] (bytes.drop done) size reading := by
  have length : bytes.length = expectedSignatureSize := by
    obtain ⟨other, same, length⟩ := ahead.ends _ rfl
    exact Part.signature.inj same ▸ length
  rw [PartitionReader.Requests, state] at requests
  obtain ⟨positive, evenSize, short⟩ := requests
  rw [footerLength] at short
  have evenCount := ahead.even
  have left : (reader.footerLength + 2 ^ 32 - size) % 2 ^ 16 =
      expectedSignatureSize - (done + size) := by
    rw [footerLength]
    rw [expectedSignatureSize] at short ⊢
    omega
  have inKeys : InKeys log (.signature bytes) count done reader :=
    inKeys_of_stored (fun wrong => noConfusion wrong) place state
      ahead.here_head (by omega)
  have isRead : reader.readRequest device size 0 = some ⟨.success, (bytes.drop done).take size,
      size, decide (expectedSignatureSize - (done + size) = 0),
      { reader.movedTo (count + done + size) with
        footerLength := expectedSignatureSize - (done + size) }⟩ := by
    rw [readRequest_signature inKeys holds positive evenSize (by omega), left]
  refine ⟨_, isRead, rfl, ?_⟩
  have sent : bytes.drop done = ((bytes.drop done).take size).take size ++
      bytes.drop (done + size) := by
    rw [List.take_take, Nat.min_self, ← List.drop_drop, List.take_append_drop]
  by_cases all : done + size = expectedSignatureSize
  · have nothing : bytes.drop (done + size) = [] :=
      List.drop_eq_nil_of_le (Nat.le_of_eq (length.trans all.symm))
    rw [nothing] at sent
    refine ⟨[], count, [], sent, ?_, .ended state (by rw [all]; rfl), ?_, fun _ => ?_⟩
    · exact ⟨.nil, fun part wrong => absurd wrong List.not_mem_nil,
        fun component wrong => absurd wrong List.not_mem_nil, List.nil_prefix, evenCount,
        fun part wrong => absurd wrong (Option.not_mem_none part)⟩
    · exact ⟨fun _ => rfl, fun _ => decide_eq_true (by rw [all]; rfl)⟩
    · exact Nat.lt_of_lt_of_le (Nat.succ_pos 0) (Nat.le_add_left _ _)
  · have goesOn : done + size < expectedSignatureSize := by omega
    refine ⟨_, count, _, sent, ahead, .inFooter (Nat.add_assoc .. ▸ rfl) state rfl
      (by omega) goesOn,
      ?_, fun _ => ?_⟩
    · refine ⟨fun isLast => ?_, fun empty => ?_⟩
      · have none := of_decide_eq_true isLast
        omega
      · have none := List.drop_eq_nil_iff.mp empty
        omega
    · rw [length_drop, length_drop]
      omega

theorem relays_atPart (ahead : Ahead device sections log (part :: rest) count)
    (holds : Holds before device.store log log.length) (work : device.streams.Work sections)
    (isAt : AtPart part count reader) (requests : reader.Requests size) :
    ∃ reading, reader.readRequest device size 0 = some reading ∧
      Relayed device sections log (part :: rest) ((part :: rest).flatMap Part.bytes) size
        reading := by
  obtain ⟨fits, accepted, even⟩ := ahead.known part mem_cons_self
  have here := ahead.here_head
  by_cases first : part.state = .generic1stPart
  · have notData : part.state ≠ .data := fun wrong =>
      noConfusion (first.symm.trans wrong)
    have notLast : part.state ≠ .footer := fun wrong =>
      noConfusion (first.symm.trans wrong)
    obtain ⟨next, rest', rfl, leads⟩ := ahead.exists_next notLast
    rw [PartitionReader.Requests, isAt.state, first] at requests
    obtain rfl : size = headerFirstPartSize := requests
    have twelve := length_first first
    refine ⟨_, readRequest_first (isAt.inKeys notData here ahead.even) holds accepted first, ?_⟩
    have relayed := @relayed_whole _ _ _ _ _ _ _ headerFirstPartSize ahead _
      (isAt.enteredBy first leads)
    rwa [twelve] at relayed
  rw [PartitionReader.Requests, isAt.state] at requests
  cases part with
  | mainFirst header => exact absurd rfl first
  | partitionFirst component => exact absurd rfl first
  | footerFirst => exact absurd rfl first
  | mainHeader header =>
    obtain ⟨next, rest', rfl, leads⟩ := ahead.exists_next fun wrong =>
      noConfusion wrong
    have length : reader.appHdrLength = header.length := isAt.told
    obtain rfl : size = header.length := requests.trans length
    refine ⟨_, readRequest_mainHeader (isAt.inKeys
      (fun wrong => noConfusion wrong) here ahead.even) holds fits.1 even
        (Nat.le_refl _), ?_⟩
    cases leads with
    | behindHeader header isFirst =>
      exact relayed_whole ahead _ (.ofFirst isFirst rfl rfl isAt.closed)
  | partitionHeader component =>
    obtain ⟨next, rest', rfl, leads⟩ := ahead.exists_next fun wrong =>
      noConfusion wrong
    have length : reader.partDataLength = component.data.length + 8 := isAt.told
    have small : component.data.length + 8 < 2 ^ 32 := fits
    obtain rfl : size = partitionSecondHeaderSize + firstWordSize := requests
    have left : sub32 (sub32 reader.partDataLength partitionSecondHeaderSize) firstWordSize =
        component.data.length := by
      have once : sub32 (component.data.length + 8) 4 = component.data.length + 4 :=
        UpgradeCtx.sub32_eq (by omega) small
      rw [length, partitionSecondHeaderSize, firstWordSize, once]
      exact UpgradeCtx.sub32_eq (by omega) (by omega)
    refine ⟨_, readRequest_partitionHeader (isAt.inKeys
      (fun wrong => noConfusion wrong) here ahead.even) holds accepted, ?_⟩
    cases leads with
    | partitionData component =>
      exact relayed_whole ahead _ ⟨rfl, rfl, isAt.closed, left, rfl⟩
  | partitionData component =>
    obtain ⟨length, partition⟩ := isAt.told
    have small : component.data.length + 8 < 2 ^ 32 := fits
    have state : reader.state = .data := isAt.state
    have flash := ahead.flash component mem_cons_self
    by_cases empty : component.data = []
    · rw [empty] at length
      refine ⟨_, readRequest_noData work state length partition, ?_⟩
      obtain ⟨next, rest', rfl, leads⟩ := ahead.exists_next fun wrong =>
        noConfusion wrong
      have noBytes : (Part.partitionData component).bytes.length = 0 := congrArg List.length empty
      cases leads with
      | behindData component isFirst =>
        have place : reader.movedTo count = reader := isAt.place.symm
        have relayed := @relayed_whole device sections log (.partitionData component) next rest'
          count size ahead { reader with
            handle := none, partDataLength := 0, state := .generic1stPart }
          (.ofFirst isFirst (eq_movedTo (congrArg PartitionReader.pskey isAt.place)
            (congrArg PartitionReader.readOffset isAt.place)) rfl rfl)
        rwa [noBytes, List.take_zero] at relayed
    · have more : 0 < component.data.length := List.length_pos_of_ne_nil empty
      have isRead := @readRequest_opened device size reader sections component work flash state
        partition isAt.closed
      obtain ⟨opened, isOpened⟩ : ∃ opened : PartitionReader,
          { reader with handle := some ⟨component.partNum, firstWordSize⟩ } = opened := ⟨_, rfl⟩
      have inData : InData component 0 opened := isOpened ▸ ⟨rfl, length, state, more⟩
      have place : opened = opened.movedTo count :=
        isOpened ▸ eq_movedTo (congrArg PartitionReader.pskey isAt.place)
          (congrArg PartitionReader.readOffset isAt.place)
      have isHandle : opened.handle = some ⟨component.partNum, firstWordSize⟩ := isOpened ▸ rfl
      obtain ⟨source, isSource, reads⟩ := @PartitionReader.readData_inData sections device
        component opened 0 size work flash (by omega) inData
      obtain rfl := Option.some.inj (isHandle.symm.trans isSource)
      rw [isOpened] at isRead
      exact ⟨_, isRead, relayed_data ahead place reads⟩
  | signature bytes =>
    cases rest with
    | cons next rest =>
      have leads := (List.isChain_cons_cons.mp ahead.chain).1
      cases leads
    | nil =>
      have isRequest : reader.Requests size := by
        rw [PartitionReader.Requests, isAt.state]
        exact requests
      have whole : [Part.signature bytes].flatMap Part.bytes = bytes.drop 0 :=
        List.flatMap_singleton _ _
      rw [whole]
      exact relays_footer ahead holds isAt.place isAt.state isAt.told rfl (Nat.succ_pos 255)
        isRequest

section

variable (relaying : Relaying parts count remaining reader)
  (ahead : Ahead device sections log parts count)

include relaying ahead

theorem Relaying.step (holds : Holds before device.store log log.length)
    (work : device.streams.Work sections) (requests : reader.Requests size) :
    ∃ reading, reader.readRequest device size 0 = some reading ∧
      Relayed device sections log parts remaining size reading := by
  cases relaying with
  | atPart isAt => exact relays_atPart ahead holds work isAt requests
  | @inData component rest count done reader place inData =>
    have small : component.data.length + 8 < 2 ^ 32 := (ahead.known _ mem_cons_self).1
    obtain ⟨source, isSource, reads⟩ := @PartitionReader.readData_inData sections device
      component reader done size work (ahead.flash component mem_cons_self) (by omega) inData
    exact ⟨_, readRequest_inData inData isSource, relayed_data ahead place reads⟩
  | inFooter place state footerLength even more =>
    exact relays_footer ahead holds place state footerLength even more requests
  | ended state footerLength =>
    rw [PartitionReader.Requests, state] at requests
    obtain ⟨positive, _, short⟩ := requests
    omega

theorem Relaying.exists_request (left : remaining ≠ []) :
    ∃ size, 0 < size ∧ reader.Requests size := by
  cases relaying with
  | @atPart part rest count reader isAt =>
    have fits := (ahead.known part mem_cons_self).1
    have told := isAt.told
    simp only [PartitionReader.Requests, isAt.state]
    cases part with
    | mainHeader header => exact ⟨_, Nat.lt_of_lt_of_eq fits.1 told.symm, rfl⟩
    | mainFirst header => exact ⟨12, Nat.succ_pos 11, rfl⟩
    | partitionFirst component => exact ⟨12, Nat.succ_pos 11, rfl⟩
    | footerFirst => exact ⟨12, Nat.succ_pos 11, rfl⟩
    | partitionHeader component => exact ⟨8, Nat.succ_pos 7, rfl⟩
    | partitionData component => exact ⟨1, Nat.one_pos, trivial⟩
    | signature bytes =>
      have enough : 2 ≤ expectedSignatureSize := by decide
      exact ⟨2, Nat.two_pos, Nat.two_pos, rfl, Nat.le_trans enough (Nat.le_of_eq told.symm)⟩
  | inData place inData =>
    simp only [PartitionReader.Requests, inData.state]
    exact ⟨1, Nat.one_pos, trivial⟩
  | inFooter place state footerLength even more =>
    simp only [PartitionReader.Requests, state, footerLength]
    rw [expectedSignatureSize] at more ⊢
    exact ⟨2, Nat.two_pos, Nat.two_pos, rfl, by omega⟩
  | ended state footerLength => exact absurd rfl left

end

end Steps

structure Reproduces (bytes : List UInt8) (readings : List Reading) : Prop where
  succeed : ∀ reading ∈ readings, reading.status = .success
  start : readings.flatMap Reading.sent <+: bytes
  lastPacket : ∀ earlier reading, earlier ++ [reading] <+: readings →
    (reading.lastPacket = true ↔ (earlier ++ [reading]).flatMap Reading.sent = bytes)

section Runs

variable {before : PsKeys} {device : ReaderDevice} {sections : Nat → List UInt8}
  {log bytes rest : List UInt8} {parts : List Part} {count size : Nat} {sizes : List Nat}
  {reader : PartitionReader} {remaining : List UInt8} {reading : Reading} {readings : List Reading}

theorem Reproduces.cons (reproduces : Reproduces rest readings)
    (status : reading.status = .success) (whole : bytes = reading.sent ++ rest)
    (isLast : reading.lastPacket = true ↔ rest = []) : Reproduces bytes (reading :: readings) := by
  subst whole
  refine ⟨fun other member => ?_, ?_, fun earlier other isPrefix => ?_⟩
  · rcases List.mem_cons.mp member with rfl | member
    · exact status
    · exact reproduces.succeed other member
  · rw [flatMap_cons]
    exact (List.prefix_append_right_inj _).mpr reproduces.start
  · cases earlier with
    | nil =>
      obtain ⟨rfl, _⟩ := List.cons_prefix_cons.mp isPrefix
      rw [isLast, List.nil_append, List.flatMap_singleton]
      exact ⟨fun empty => by rw [empty, List.append_nil],
        fun same => (List.append_right_eq_self.mp same.symm)⟩
    | cons first earlier =>
      obtain ⟨rfl, behind⟩ := List.cons_prefix_cons.mp isPrefix
      rw [reproduces.lastPacket earlier other behind, List.cons_append, flatMap_cons,
        List.append_cancel_left_eq]

theorem readAll_cons (isRead : reader.readRequest device size 0 = some reading)
    (status : reading.status = .success)
    (goesOn : PartitionReader.readAll device reading.reader sizes = some readings) :
    PartitionReader.readAll device reader (size :: sizes) = some (reading :: readings) := by
  rw [PartitionReader.readAll, isRead, Option.bind_some, if_pos status, goesOn, Option.map_some]

theorem asRequested_cons (isRead : reader.readRequest device size 0 = some reading)
    (requests : reader.Requests size)
    (goesOn : PartitionReader.AsRequested device reading.reader sizes) :
    PartitionReader.AsRequested device reader (size :: sizes) := by
  refine ⟨requests, fun other isOther => ?_⟩
  obtain rfl := Option.some.inj (isRead.symm.trans isOther)
  exact goesOn

section

variable (holds : Holds before device.store log log.length) (work : device.streams.Work sections)
  (relaying : Relaying parts count remaining reader) (ahead : Ahead device sections log parts count)

include holds work relaying ahead

theorem Relaying.completes :
    ∃ further readings, PartitionReader.AsRequested device reader further ∧
      PartitionReader.readAll device reader further = some readings ∧
      readings.flatMap Reading.sent = remaining := by
  obtain ⟨bound, enough⟩ : ∃ bound, remaining.length + parts.length ≤ bound := ⟨_, Nat.le_refl _⟩
  induction bound generalizing parts count remaining reader with
  | zero =>
    have nothing : remaining = [] := List.eq_nil_of_length_eq_zero (by omega)
    exact ⟨[], [], trivial, rfl, nothing.symm⟩
  | succ bound ih =>
    by_cases left : remaining = []
    · exact ⟨[], [], trivial, rfl, left.symm⟩
    obtain ⟨size, positive, requests⟩ := relaying.exists_request ahead left
    obtain ⟨reading, isRead, status, parts', count', remaining', whole, ahead', relaying', _,
      less⟩ := relaying.step ahead holds work requests
    have decreases := less positive
    obtain ⟨further, readings, asRequested, read, sent⟩ := ih relaying' ahead' (by omega)
    refine ⟨size :: further, reading :: readings, asRequested_cons isRead requests asRequested,
      readAll_cons isRead status read, ?_⟩
    rw [flatMap_cons, sent, whole]

theorem Relaying.reproduces (asRequested : PartitionReader.AsRequested device reader sizes) :
    (∃ readings, PartitionReader.readAll device reader sizes = some readings ∧
      readings.length = sizes.length ∧ Reproduces remaining readings) ∧
    ∃ further readings, PartitionReader.AsRequested device reader (sizes ++ further) ∧
      PartitionReader.readAll device reader (sizes ++ further) = some readings ∧
      readings.flatMap Reading.sent = remaining := by
  induction sizes generalizing parts count remaining reader with
  | nil =>
    refine ⟨⟨[], rfl, rfl, ?_⟩, relaying.completes holds work ahead⟩
    exact ⟨fun reading wrong => absurd wrong List.not_mem_nil, List.nil_prefix,
      fun earlier reading wrong => absurd (List.prefix_nil.mp wrong)
        (List.append_ne_nil_of_right_ne_nil earlier (List.cons_ne_nil reading []))⟩
  | cons size sizes ih =>
    obtain ⟨requests, goesOn⟩ := asRequested
    obtain ⟨reading, isRead, status, parts', count', remaining', whole, ahead', relaying',
      isLast, _⟩ := relaying.step ahead holds work requests
    obtain ⟨⟨readings, read, length, reproduces⟩, further, later, asRequested, readLater,
      sent⟩ := ih relaying' ahead' (goesOn reading isRead)
    refine ⟨⟨reading :: readings, readAll_cons isRead status read, ?_,
      reproduces.cons status whole isLast⟩, further, reading :: later,
      asRequested_cons isRead requests asRequested, readAll_cons isRead status readLater, ?_⟩
    · rw [List.length_cons, List.length_cons, length]
    · rw [flatMap_cons, sent, whole]

end

end Runs

namespace PartitionReader

variable {device : ReaderDevice} {context : PartitionReader} {size : Nat} {reading : Reading}

theorem readHeader_insufficient {readLen : Nat} {failed : ReadStatus}
    {handle : List UInt8 → PartitionReader → Option (ReadStatus × Bool × PartitionReader)}
    (isRead : context.readHeader device size readLen failed handle = some reading)
    (insufficient : reading.status = .internalErrorInsufficientPskey)
    (fails : failed ≠ .internalErrorInsufficientPskey)
    (handles : ∀ data context answer, handle data context = some answer →
      answer.1 ≠ .internalErrorInsufficientPskey) :
    reading.reader = context ∧ reading.data = [] := by
  rw [readHeader] at isRead
  split at isRead
  · cases isRead
    exact ⟨rfl, rfl⟩
  · obtain ⟨⟨successful, data, context'⟩, _, isRead⟩ := Option.bind_eq_some_iff.mp isRead
    dsimp only at isRead
    split at isRead
    · cases isRead
      exact absurd insufficient fails
    · obtain ⟨answer, isAnswer, rfl⟩ := Option.map_eq_some_iff.mp isRead
      exact absurd insufficient (handles data context' answer isAnswer)

theorem enterPart_sufficient (data : List UInt8) (length : Nat) (context : PartitionReader) :
    (context.enterPart data length).1 ≠ .internalErrorInsufficientPskey := by
  rw [enterPart]
  dsimp only
  split_ifs <;> exact fun wrong => ReadStatus.noConfusion wrong

theorem enterPartition_sufficient {data : List UInt8} {answer : ReadStatus × Bool × PartitionReader}
    (isAnswer : enterPartition data context = some answer) :
    answer.1 ≠ .internalErrorInsufficientPskey := by
  rw [enterPartition] at isAnswer
  split at isAnswer
  · dsimp only at isAnswer
    split_ifs at isAnswer <;> obtain rfl := Option.some.inj isAnswer <;>
      exact fun wrong => ReadStatus.noConfusion wrong
  · exact absurd isAnswer.symm (Option.some_ne_none _)

theorem readData_sufficient (source : StreamSource) :
    (context.readData device source size).status ≠ .internalErrorInsufficientPskey := by
  rw [readData]
  split <;> exact fun wrong => ReadStatus.noConfusion wrong

theorem openData_sufficient : (context.openData device).1 ≠ .internalErrorInsufficientPskey := by
  rw [openData]
  split
  · exact fun wrong => ReadStatus.noConfusion wrong
  · split_ifs
    · exact fun wrong => ReadStatus.noConfusion wrong
    · split <;> exact fun wrong => ReadStatus.noConfusion wrong

theorem readRequest_insufficient (isRead : context.readRequest device size 0 = some reading)
    (insufficient : reading.status = .internalErrorInsufficientPskey) :
    reading.reader = context ∧ reading.data = [] := by
  have failed : ReadStatus.partitionWriteFailedData ≠ .internalErrorInsufficientPskey :=
    fun wrong => ReadStatus.noConfusion wrong
  cases state : context.state with
  | generic1stPart =>
    rw [readRequest, state] at isRead
    dsimp only at isRead
    rw [handleGeneric1stPartState] at isRead
    split at isRead
    · cases isRead
      exact ReadStatus.noConfusion insufficient
    · refine readHeader_insufficient isRead insufficient
        (fun wrong => ReadStatus.noConfusion wrong) fun data context answer isAnswer => ?_
      obtain ⟨length, _, rfl⟩ := Option.map_eq_some_iff.mp isAnswer
      exact enterPart_sufficient data length context
  | header =>
    rw [readRequest, state] at isRead
    refine readHeader_insufficient isRead insufficient failed fun data context answer isAnswer => ?_
    cases isAnswer
    exact fun wrong => ReadStatus.noConfusion wrong
  | dataHeader =>
    rw [readRequest, state] at isRead
    dsimp only at isRead
    rw [handleDataHeaderState] at isRead
    split at isRead
    · cases isRead
      exact ReadStatus.noConfusion insufficient
    · exact readHeader_insufficient isRead insufficient failed
        fun data context answer isAnswer => enterPartition_sufficient isAnswer
  | data =>
    rw [readRequest, state] at isRead
    dsimp only at isRead
    rw [handleDataState, if_neg (fun both => both.1 rfl), resumeData, if_pos rfl] at isRead
    dsimp only at isRead
    rw [if_neg (fun wrong => wrong rfl)] at isRead
    split at isRead
    · cases isRead
      exact absurd insufficient openData_sufficient
    · cases isRead
      exact absurd insufficient (readData_sufficient _)
  | footer =>
    rw [readRequest, state] at isRead
    refine readHeader_insufficient isRead insufficient failed fun data context answer isAnswer => ?_
    cases isAnswer
    exact fun wrong => ReadStatus.noConfusion wrong

end PartitionReader

section Files

variable {before : PsKeys} {file : UpgradeFile} {device : ReaderDevice}
  {sections : Nat → List UInt8}

theorem getLast?_parts (file : UpgradeFile) :
    file.parts.getLast? = some (.signature file.signature) := by
  have split : file.parts = (.mainFirst file.header :: .mainHeader file.header ::
      (file.components.flatMap Component.parts ++ [.footerFirst])) ++
        [.signature file.signature] := by
    rw [UpgradeFile.parts, UpgradeFile.partsBehind, List.cons_append, List.cons_append,
      List.append_assoc]
    rfl
  rw [split, List.getLast?_concat]

theorem ValidIn.ahead (valid : ValidIn file before device.store sections)
    (work : device.streams.Work sections) : Ahead device sections file.log file.parts 0 := by
  have has (part : Part) (member : part ∈ file.parts) :
      ∃ count, Has device sections file.log part count := by
    obtain ⟨passed, after, isParts⟩ := List.append_of_mem member
    exact ⟨_, valid.has work isParts⟩
  refine ⟨file.chain_parts, fun part member => ?_, fun component member => ?_, List.prefix_rfl, rfl,
    fun part isLast => ?_⟩
  · obtain ⟨count, has⟩ := has part member
    exact ⟨valid.fits part member, has.accepted, valid.even_stored member⟩
  · obtain ⟨count, has⟩ := has _ member
    exact (has.flash component rfl).2
  · rw [getLast?_parts] at isLast
    cases isLast
    exact ⟨file.signature, rfl, file.signature_length⟩

/-- A new reader relays a file that has been received: asked for it in the sizes in which the
receiver requests it, it reads the file on from its start, and reports the last packet where the
file ends.  A call that the keys have too little for changes nothing. -/
theorem relays_file (valid : ValidIn file before device.store sections)
    (work : device.streams.Work sections) :
    (∀ sizes, PartitionReader.AsRequested device PartitionReader.createInstance sizes →
      (∃ readings, PartitionReader.readAll device PartitionReader.createInstance sizes =
          some readings ∧
        readings.length = sizes.length ∧ Reproduces file.bytes readings) ∧
      ∃ further readings,
        PartitionReader.AsRequested device PartitionReader.createInstance (sizes ++ further) ∧
        PartitionReader.readAll device PartitionReader.createInstance (sizes ++ further) =
          some readings ∧
        readings.flatMap Reading.sent = file.bytes) ∧
    ∀ (anyDevice : ReaderDevice) (reader : PartitionReader) size reading,
      reader.readRequest anyDevice size 0 = some reading →
        reading.status = .internalErrorInsufficientPskey →
          reading.reader = reader ∧ reading.data = [] := by
  refine ⟨fun sizes asRequested => ?_, fun anyDevice reader size reading isRead insufficient =>
    PartitionReader.readRequest_insufficient isRead insufficient⟩
  have start : AtPart (.mainFirst file.header) 0 PartitionReader.createInstance :=
    .ofFirst rfl rfl rfl rfl
  have relaying : Relaying file.parts 0 file.bytes PartitionReader.createInstance := by
    rw [file.bytes_eq]
    exact .atPart start
  exact relaying.reproduces valid.holds work (valid.ahead work) asRequested

theorem small_file_relayed :
    ∃ sizes readings, PartitionReader.readAll (deviceWith smallFile smallSections).toReaderDevice
        PartitionReader.createInstance sizes = some readings ∧
      readings.flatMap Reading.sent = smallFile.bytes := by
  obtain ⟨_, further, readings, _, read, sent⟩ :=
    (relays_file valid_smallFile (work_deviceWith smallFile smallSections)).1 [] trivial
  exact ⟨further, readings, read, sent⟩

end Files

end HeadsetAdk.UpgradePeer
