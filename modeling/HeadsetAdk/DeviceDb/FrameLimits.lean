import HeadsetAdk.DeviceDb.FrameRoundTrip

/-! # Frames that are too long, and frames that are damaged -/

namespace HeadsetAdk.DeviceDb

variable {Device Addr : Type}

section Serialising

variable [DecidableEq Addr] {device : Device} {bdaddr : Device → Option Addr}
  {attributes : Attributes Addr} {addr : Addr} {registry : Registry Device}

/-- A frame is put that has the records of all users, and whose length byte is the number of its
meaningful bytes; or nothing is put, and the result is false. -/
def SerialisesWhole (registry : Registry Device) (bdaddr : Device → Option Addr)
    (attributes : Attributes Addr) (device : Device) : Prop :=
  serialiseDevice registry bdaddr attributes device = some (false, attributes) ∨
    ∃ addr length padding attributes', bdaddr device = some addr ∧
      length.toNat = 2 + (records registry.registered device).length ∧
      putAttribute attributes addr length.toNat
        (dbsPddFrameType :: length :: (records registry.registered device ++ padding)) =
          some attributes' ∧
      serialiseDevice registry bdaddr attributes device = some (true, attributes')

theorem serialiseDevice_silent (nothing : payloadLength registry.registered device % 256 = 0) :
    serialiseDevice registry bdaddr attributes device = some (false, attributes) := by
  have sum := sum_registered registry device
  rw [nothing] at sum
  rw [serialiseDevice]
  split
  · rfl
  · cases bdaddr device with
    | none => rfl
    | some addr => exact if_neg (not_not.mpr (UInt8.toNat_inj.mp sum))

theorem serialiseDevice_unaddressed (unknown : bdaddr device = none) :
    serialiseDevice registry bdaddr attributes device = some (false, attributes) := by
  rw [serialiseDevice, unknown]
  dsimp only
  exact ite_self _

theorem serialiseDevice_not_silent (some : payloadLength registry.registered device % 256 ≠ 0)
    (known : bdaddr device = Option.some addr) :
    serialiseDevice registry bdaddr attributes device ≠ Option.some (false, attributes) := by
  intro silent
  have sum := sum_registered registry device
  have nonzero : sumAllPdduPayloads (registry.getAllPddusPayloadLengths device) ≠ 0 := by
    intro zero
    rw [zero] at sum
    exact some sum.symm
  have counted : registry.numRegisteredPddus ≠ 0 :=
    counted_of_registered fun zero : payloadLength registry.registered device = 0 =>
      some (by rw [zero])
  rw [serialiseDevice, if_neg counted, known] at silent
  dsimp only at silent
  rw [if_pos nonzero] at silent
  obtain ⟨frame, _, silent⟩ := Option.bind_eq_some_iff.mp silent
  obtain ⟨size, _, silent⟩ := Option.bind_eq_some_iff.mp silent
  obtain ⟨attributes', _, silent⟩ := Option.bind_eq_some_iff.mp silent
  exact Bool.noConfusion (Prod.mk.inj (Option.some.inj silent)).1

theorem SerialisesWhole.short_or_silent (writes : WritesLength registry.registered device)
    (whole : SerialisesWhole registry bdaddr attributes device)
    (known : bdaddr device = some addr) :
    payloadLength registry.registered device ≤ 253 ∨
      payloadLength registry.registered device % 256 = 0 := by
  by_contra long
  rw [not_or] at long
  rcases whole with silent | ⟨_, length, _, _, _, size, _⟩
  · exact serialiseDevice_not_silent long.2 known silent
  · have bound := length.toNat_lt
    rw [length_records writes] at size
    omega

/-- A device is serialised whole if and only if it has no address, or its records and their
headers are of 253 bytes at most, or of a multiple of 256. -/
theorem serialiseDevice_whole_iff (writes : WritesLength registry.registered device) :
    SerialisesWhole registry bdaddr attributes device ↔
      bdaddr device = none ∨ payloadLength registry.registered device ≤ 253 ∨
        payloadLength registry.registered device % 256 = 0 := by
  constructor
  · intro whole
    cases known : bdaddr device with
    | none => exact .inl rfl
    | some addr => exact .inr (whole.short_or_silent writes known)
  · rintro (unknown | short | silent)
    · exact .inl (serialiseDevice_unaddressed unknown)
    · by_cases nothing : payloadLength registry.registered device = 0
      · refine .inl (serialiseDevice_silent ?_)
        rw [nothing]
      · cases known : bdaddr device with
        | none => exact .inl (serialiseDevice_unaddressed known)
        | some addr =>
          obtain ⟨attributes', padding, frame, isFrame, _, stored, serialised⟩ :=
            @serialiseDevice_puts _ _ _ _ _ attributes _ _ writes short nothing known
          have size : (UInt8.ofNat (payloadLength registry.registered device + 2)).toNat =
              payloadLength registry.registered device + 2 := by
            rw [UInt8.toNat_ofNat']
            omega
          refine .inr ⟨addr, UInt8.ofNat (payloadLength registry.registered device + 2), padding,
            attributes', known, ?_, ?_, serialised⟩
          · rw [size, length_records writes]
            exact Nat.add_comm _ _
          · rw [size, ← isFrame]
            exact stored
    · exact .inl (serialiseDevice_silent silent)

/-- A user that has so many bytes for every device. -/
private def silentBytes (length : UInt8) : Pddu Unit :=
  ⟨5, fun _ => length, fun _ => List.replicate length.toNat 0⟩

private theorem silentBytes_writes (length : UInt8) :
    WritesLength (registerAll [silentBytes length]).registered () := by
  intro user member
  have few : [silentBytes length].length < 256 := Nat.lt_of_sub_eq_succ rfl
  rw [(registerAll_registered few).1] at member
  rw [List.mem_singleton.mp member]
  exact List.length_replicate

theorem longest_record_whole :
    SerialisesWhole (registerAll [silentBytes 251]) (fun _ => some ()) (fun _ => some []) () :=
  (serialiseDevice_whole_iff (silentBytes_writes 251)).mpr (.inr (.inl (by decide)))

/-- For a record of 252 bytes the length byte of the frame is zero. -/
theorem longer_record_not_whole :
    ¬ SerialisesWhole (registerAll [silentBytes 252]) (fun _ => some ()) (fun _ => some []) () := by
  intro whole
  rcases whole.short_or_silent (silentBytes_writes 252) rfl with short | silent
  · exact absurd short (by decide)
  · exact absurd silent (by decide)

end Serialising

section Deserialising

variable {registry : Registry Device} {frame : List UInt8} {index rounds stop : Nat}
  {calls : List (DeserCall Device)}

/-- The bytes of the frame are read within it, and so are the data that the users are given. -/
def Tolerates (registry : Registry Device) (frame : List UInt8) : Prop :=
  ∃ calls, deserialisePddFrame registry frame = some calls ∧
    ∀ call ∈ calls, call.dataLength.toNat ≤ call.buf.length

def recordStart (frame : List UInt8) : Nat → Nat
  | 0 => payloadOffsetInFrame
  | index + 1 => recordStart frame index + (frame.getD (recordStart frame index + 1) 0).toNat

def RecordsInside (registry : Registry Device) (frame : List UInt8) (stop : Nat) : Prop :=
  ∀ index, recordStart frame index < stop →
    recordStart frame index + 1 < frame.length ∧
      ((registry.getRegisteredPddu (frame.getD (recordStart frame index) 0)).isSome = true →
        recordStart frame (index + 1) ≤ frame.length)

/-- No record before the end has the length zero. -/
def NoEmptyRecord (frame : List UInt8) (stop : Nat) : Prop :=
  ∀ index, recordStart frame index < stop → frame.getD (recordStart frame index + 1) 0 ≠ 0

theorem getElem?_eq_getD {place : Nat} (inside : place < frame.length) :
    frame[place]? = some (frame.getD place 0) := by
  rw [List.getD_eq_getElem?_getD, List.getElem?_eq_getElem inside]
  rfl

theorem dataLength_le {start : Nat} {length : UInt8} (header : start + 1 < frame.length) :
    (if length < sizeOfMetadata then 0 else length - sizeOfMetadata).toNat ≤
        (frame.drop (start + payloadOffsetInFrame)).length ↔
      start + length.toNat ≤ frame.length := by
  have two : sizeOfMetadata.toNat = 2 := rfl
  rw [List.length_drop, payloadOffsetInFrame]
  by_cases short : length < sizeOfMetadata
  · rw [if_pos short, UInt8.toNat_zero]
    rw [UInt8.lt_iff_toNat_lt, two] at short
    omega
  · rw [if_neg short]
    rw [UInt8.lt_iff_toNat_lt, two] at short
    rw [UInt8.toNat_sub_of_le _ _ (UInt8.le_iff_toNat_le.mpr (by omega)), two]
    omega

def recordCalls (registry : Registry Device) (frame : List UInt8) (start : Nat) :
    List (DeserCall Device) :=
  match registry.getRegisteredPddu (frame.getD start 0) with
  | some pddu =>
      [{ pddu := pddu
         buf := frame.drop (start + payloadOffsetInFrame)
         dataLength :=
           if frame.getD (start + 1) 0 < sizeOfMetadata then 0
           else frame.getD (start + 1) 0 - sizeOfMetadata }]
  | none => []

theorem recordCalls_fit (header : recordStart frame index + 1 < frame.length) :
    (∀ call ∈ recordCalls registry frame (recordStart frame index),
        call.dataLength.toNat ≤ call.buf.length) ↔
      ((registry.getRegisteredPddu (frame.getD (recordStart frame index) 0)).isSome = true →
        recordStart frame (index + 1) ≤ frame.length) := by
  rw [recordCalls, recordStart]
  cases registry.getRegisteredPddu (frame.getD (recordStart frame index) 0) with
  | none =>
    exact ⟨fun _ no => absurd no Bool.false_ne_true,
      fun _ call member => absurd member List.not_mem_nil⟩
  | some pddu =>
    constructor
    · exact fun fit _ => (dataLength_le header).mp (fit _ List.mem_cons_self)
    · intro inside call member
      rw [List.mem_singleton.mp member]
      exact (dataLength_le header).mpr (inside rfl)

theorem deserialiseLoop_record (before : recordStart frame index < stop)
    (header : recordStart frame index + 1 < frame.length) :
    deserialiseLoop registry frame stop (rounds + 1) (recordStart frame index) =
      (deserialiseLoop registry frame stop rounds (recordStart frame (index + 1))).map
        (recordCalls registry frame (recordStart frame index) ++ ·) := by
  rw [deserialiseLoop, if_pos before, getElem?_eq_getD (by omega : recordStart frame index < _),
    getElem?_eq_getD header, recordStart, recordCalls]
  simp only [Option.bind_eq_bind, Option.bind_some]
  cases deserialiseLoop registry frame stop rounds (recordStart frame index +
      (frame.getD (recordStart frame index + 1) 0).toNat) with
  | none => rfl
  | some calls =>
    rw [Option.bind_some, Option.map_some]
    cases registry.getRegisteredPddu (frame.getD (recordStart frame index) 0) with
    | none => rfl
    | some pddu => rfl

theorem RecordsInside.deserialiseLoop (inside : RecordsInside registry frame stop)
    (noEmpty : NoEmptyRecord frame stop) (enough : stop - recordStart frame index < rounds) :
    ∃ calls, deserialiseLoop registry frame stop rounds (recordStart frame index) = some calls ∧
      ∀ call ∈ calls, call.dataLength.toNat ≤ call.buf.length := by
  induction rounds generalizing index with
  | zero => exact absurd enough (Nat.not_lt_zero _)
  | succ rounds ih =>
    by_cases before : recordStart frame index < stop
    · obtain ⟨header, data⟩ := inside index before
      have further : 0 < (frame.getD (recordStart frame index + 1) 0).toNat := by
        rw [Nat.pos_iff_ne_zero]
        exact fun zero => noEmpty index before (UInt8.toNat_inj.mp zero)
      obtain ⟨calls, ran, fit⟩ := @ih (index + 1) (by rw [recordStart]; omega)
      refine ⟨_, by rw [deserialiseLoop_record before header, ran, Option.map_some], ?_⟩
      intro call member
      rcases List.mem_append.mp member with here | later
      · exact (recordCalls_fit header).mpr data call here
      · exact fit call later
    · exact ⟨[], by rw [DeviceDb.deserialiseLoop, if_neg before],
        fun _ member => absurd member List.not_mem_nil⟩

theorem deserialiseLoop_stuck (before : recordStart frame index < stop)
    (header : recordStart frame index + 1 < frame.length)
    (empty : frame.getD (recordStart frame index + 1) 0 = 0) :
    deserialiseLoop registry frame stop rounds (recordStart frame index) = none := by
  have here : recordStart frame (index + 1) = recordStart frame index := by
    rw [recordStart, empty]
    rfl
  induction rounds with
  | zero => rfl
  | succ rounds ih => rw [deserialiseLoop_record before header, here, ih, Option.map_none]

theorem deserialiseLoop_header
    (ran : deserialiseLoop registry frame stop rounds (recordStart frame index) = some calls)
    (before : recordStart frame index < stop) : recordStart frame index + 1 < frame.length := by
  cases rounds with
  | zero => exact absurd ran.symm (Option.some_ne_none _)
  | succ rounds =>
    rw [deserialiseLoop, if_pos before] at ran
    obtain ⟨_, _, ran⟩ := Option.bind_eq_some_iff.mp ran
    obtain ⟨_, here, _⟩ := Option.bind_eq_some_iff.mp ran
    exact (List.getElem?_eq_some_iff.mp here).1

def Comes (registry : Registry Device) (frame : List UInt8) (stop index : Nat) : Prop :=
  ∃ rounds calls, deserialiseLoop registry frame stop rounds (recordStart frame index) =
    some calls ∧ ∀ call ∈ calls, call.dataLength.toNat ≤ call.buf.length

theorem Comes.record (comes : Comes registry frame stop index)
    (before : recordStart frame index < stop) :
    (recordStart frame index + 1 < frame.length ∧
      ((registry.getRegisteredPddu (frame.getD (recordStart frame index) 0)).isSome = true →
        recordStart frame (index + 1) ≤ frame.length)) ∧
      frame.getD (recordStart frame index + 1) 0 ≠ 0 ∧
      Comes registry frame stop (index + 1) := by
  obtain ⟨rounds, calls, ran, fit⟩ := comes
  have header := deserialiseLoop_header ran before
  have nonempty : frame.getD (recordStart frame index + 1) 0 ≠ 0 := by
    intro empty
    rw [deserialiseLoop_stuck before header empty] at ran
    exact absurd ran.symm (Option.some_ne_none _)
  cases rounds with
  | zero => exact absurd ran.symm (Option.some_ne_none _)
  | succ rounds =>
    rw [deserialiseLoop_record before header] at ran
    obtain ⟨later, ranLater, rfl⟩ := Option.map_eq_some_iff.mp ran
    refine ⟨⟨header, (recordCalls_fit header).mp fun call member =>
      fit call (List.mem_append_left _ member)⟩, nonempty, rounds, later, ranLater, ?_⟩
    exact fun call member => fit call (List.mem_append_right _ member)

theorem Comes.later (comes : Comes registry frame stop 0)
    (before : recordStart frame index < stop) : Comes registry frame stop index := by
  induction index with
  | zero => exact comes
  | succ index ih =>
    have earlier : recordStart frame index < stop := by
      rw [recordStart] at before
      omega
    exact ((ih earlier).record earlier).2.2

theorem tolerates_iff :
    Tolerates registry frame ↔
      ∃ length, frame[1]? = some length ∧ RecordsInside registry frame length.toNat ∧
        NoEmptyRecord frame length.toNat := by
  constructor
  · rintro ⟨calls, ran, fit⟩
    obtain ⟨length, here, ran⟩ := Option.bind_eq_some_iff.mp ran
    have comes : Comes registry frame length.toNat 0 := ⟨_, calls, ran, fit⟩
    exact ⟨length, here, fun index before => ((comes.later before).record before).1,
      fun index before => ((comes.later before).record before).2.1⟩
  · rintro ⟨length, here, inside, noEmpty⟩
    have bound := length.toNat_lt
    obtain ⟨calls, ran, fit⟩ := @RecordsInside.deserialiseLoop _ _ _ 0 255 _ inside noEmpty (by
      rw [recordStart, payloadOffsetInFrame]
      omega)
    refine ⟨calls, ?_, fit⟩
    rw [deserialisePddFrame, here]
    exact ran

/-- A frame whose records lie within it is tolerated if and only if none of them is empty. -/
theorem inside_tolerates_iff {length : UInt8} (here : frame[1]? = some length)
    (inside : RecordsInside registry frame length.toNat) :
    Tolerates registry frame ↔ NoEmptyRecord frame length.toNat := by
  rw [tolerates_iff]
  constructor
  · rintro ⟨length', here', _, noEmpty⟩
    obtain rfl := Option.some.inj (here.symm.trans here')
    exact noEmpty
  · exact fun noEmpty => ⟨length, here, inside, noEmpty⟩

theorem recordStart_le (frame : List UInt8) {earlier later : Nat} (order : earlier ≤ later) :
    recordStart frame earlier ≤ recordStart frame later := by
  induction order with
  | refl => exact Nat.le_refl _
  | step _ ih => exact Nat.le_trans ih (Nat.le_add_right _ _)

theorem oneRecord_tolerated :
    Tolerates (registerAll [silentBytes 2]) [dbsPddFrameType, 6, 5, 4, 0, 0] := by
  have second : recordStart [dbsPddFrameType, 6, 5, 4, 0, 0] 1 = 6 := rfl
  have only {index : Nat} (before : recordStart [dbsPddFrameType, 6, 5, 4, 0, 0] index <
      (6 : UInt8).toNat) : index = 0 := by
    by_contra later
    have behind := recordStart_le [dbsPddFrameType, 6, 5, 4, 0, 0] (Nat.pos_iff_ne_zero.mpr later)
    rw [second] at behind
    exact absurd before (Nat.not_lt.mpr behind)
  have inside : RecordsInside (registerAll [silentBytes 2]) [dbsPddFrameType, 6, 5, 4, 0, 0]
      (6 : UInt8).toNat := by
    intro index before
    rw [only before]
    exact ⟨by decide, fun _ => by decide⟩
  refine (inside_tolerates_iff rfl inside).mpr fun index before => ?_
  rw [only before]
  decide

/-- At a record of length zero the watchdog panics, and a record that is longer than what is
stored is given to its user nevertheless. -/
theorem damaged_not_tolerated :
    ¬ Tolerates (registerAll [silentBytes 2]) [dbsPddFrameType, 4, 5, 0] ∧
      ¬ Tolerates (registerAll [silentBytes 2]) [dbsPddFrameType, 12, 5, 10] := by
  constructor
  · rw [tolerates_iff]
    rintro ⟨length, here, _, noEmpty⟩
    cases here
    exact noEmpty 0 (by decide) rfl
  · rw [tolerates_iff]
    rintro ⟨length, here, inside, _⟩
    cases here
    exact absurd ((inside 0 (by decide)).2 rfl) (by decide)

end Deserialising

end HeadsetAdk.DeviceDb
