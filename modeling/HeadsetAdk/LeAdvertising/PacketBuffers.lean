import Mathlib.Logic.Function.Basic
import Mathlib.Tactic.Set

/-!
# The buffers of a data packet

A data packet keeps its octets in up to eight buffers, which are allocated when they are first
written.  An item is copied in parts that end with a buffer.
-/

namespace HeadsetAdk.LeAdvertising

def bufferCount : Nat := 8

/-- `MAX_EXT_AD_DATA_BUFFER_SIZE_IN_OCTETS` -/
def bufferSize : Nat := 32

/-- `le_advertising_manager_data_packet_t` -/
structure BufferedPacket where
  dataSize : Nat
  dataMaxSize : UInt8
  data : Nat → Option (List UInt8)

namespace BufferedPacket

/-- `LeAdvertisingManager_DataPacketCreateDataPacket` -/
def create (maxSize : UInt8) : BufferedPacket := ⟨0, maxSize, fun _ => none⟩

/-- `memmove` of octets to a position of a buffer. -/
def overwrite (buffer : List UInt8) (position : Nat) (octets : List UInt8) : List UInt8 :=
  buffer.take position ++ octets ++ buffer.drop (position + octets.length)

/-- A round of the loop, with the number of octets that it copies; there is none when the
buffers end. -/
def copyPart (packet : BufferedPacket) (octets : List UInt8) : Option (BufferedPacket × Nat) :=
  let index := packet.dataSize / bufferSize
  let position := packet.dataSize % bufferSize
  let space := bufferSize - position
  if index < bufferCount then
    let buffer := (packet.data index).getD (List.replicate bufferSize 0)
    let size := if octets.length > space then space else octets.length
    some ({ packet with
      data := Function.update packet.data index
        (some (overwrite buffer position (octets.take size)))
      dataSize := (packet.dataSize + size) % 256 }, size)
  else none

/-- The loop of `LeAdvertisingManager_DataPacketAddDataItem`, of at most `fuel` rounds. -/
def copyLoop : Nat → BufferedPacket → List UInt8 → Option BufferedPacket
  | _, packet, [] => some packet
  | 0, _, _ => none
  | fuel + 1, packet, octets => do
    let (packet, size) ← packet.copyPart octets
    copyLoop fuel packet (octets.drop size)

/-- `LeAdvertisingManager_DataPacketAddDataItem`, with its result. -/
def addDataItem (packet : BufferedPacket) (item : List UInt8) : Option (Bool × BufferedPacket) :=
  if packet.dataMaxSize.toNat - packet.dataSize < item.length then some (false, packet)
  else (copyLoop item.length packet item).map fun packet => (true, packet)

/-- Items are offered one after the other; the accepted ones are returned. -/
def offerAll (packet : BufferedPacket) :
    List (List UInt8) → Option (BufferedPacket × List (List UInt8))
  | [] => some (packet, [])
  | item :: rest => do
    let (added, packet) ← packet.addDataItem item
    let (packet, accepted) ← packet.offerAll rest
    return (packet, if added = true then item :: accepted else accepted)

def octetAt (packet : BufferedPacket) (offset : Nat) : Option UInt8 :=
  (packet.data (offset / bufferSize)).bind fun buffer => buffer[offset % bufferSize]?

def contents (packet : BufferedPacket) : List (Option UInt8) :=
  (List.range packet.dataSize).map packet.octetAt

end BufferedPacket

namespace BufferedPacket

variable {packet : BufferedPacket} {octets item : List UInt8}

structure Holds (packet : BufferedPacket) (octets : List UInt8) : Prop where
  size : packet.dataSize = octets.length
  fits : octets.length ≤ packet.dataMaxSize.toNat
  whole : ∀ index buffer, packet.data index = some buffer → buffer.length = bufferSize
  octet : ∀ offset < octets.length, packet.octetAt offset = octets[offset]?

theorem Holds.contents (holds : packet.Holds octets) : packet.contents = octets.map some := by
  refine List.ext_getElem (by simp [BufferedPacket.contents, holds.size]) fun offset inside _ => ?_
  have inOctets : offset < octets.length := by
    simpa [BufferedPacket.contents, holds.size] using inside
  simp [BufferedPacket.contents, holds.octet offset inOctets]

variable {buffer : List UInt8} {position : Nat}

theorem overwrite_getElem? {offset : Nat} (fits : position + octets.length ≤ buffer.length) :
    (overwrite buffer position octets)[offset]? = if offset < position then buffer[offset]?
      else if offset < position + octets.length then octets[offset - position]?
      else buffer[offset]? := by
  rw [overwrite, List.append_assoc, List.getElem?_append, List.length_take_of_le (by omega),
    List.getElem?_append]
  split
  · rw [List.getElem?_take_of_lt ‹_›]
  · split <;> split
    · rfl
    · omega
    · omega
    · rw [List.getElem?_drop]
      congr 1
      omega

theorem overwrite_length (fits : position + octets.length ≤ buffer.length) :
    (overwrite buffer position octets).length = buffer.length := by
  simp [overwrite]
  omega

theorem Holds.copyPart (holds : packet.Holds octets) (nonempty : item ≠ [])
    (room : octets.length + item.length ≤ packet.dataMaxSize.toNat) :
    ∃ next size, packet.copyPart item = some (next, size) ∧ 0 < size ∧ size ≤ item.length ∧
      next.dataMaxSize = packet.dataMaxSize ∧ next.Holds (octets ++ item.take size) := by
  have small := packet.dataMaxSize.toNat_lt
  have some_octet := List.length_pos_iff.mpr nonempty
  set index := octets.length / 32 with indexDef
  set position := octets.length % 32 with positionDef
  set size := if item.length > 32 - position then 32 - position else item.length with sizeDef
  have sizes : 0 < size ∧ size ≤ item.length ∧ position + size ≤ 32 := by
    rw [sizeDef]
    split <;> omega
  set buffer := (packet.data index).getD (List.replicate 32 0) with bufferDef
  have long : buffer.length = 32 := by
    rw [bufferDef]
    cases allocated : packet.data index with
    | none => simp
    | some old => exact holds.whole index old allocated
  have taken : (item.take size).length = size := List.length_take_of_le sizes.2.1
  have fits : position + (item.take size).length ≤ buffer.length := by omega
  have count : (octets.length + size) % 256 = octets.length + size := Nat.mod_eq_of_lt (by omega)
  refine ⟨{ packet with
      data := Function.update packet.data index
        (some (overwrite buffer position (item.take size)))
      dataSize := octets.length + size }, size, ?_, sizes.1, sizes.2.1, rfl, ?_⟩
  · simp only [BufferedPacket.copyPart, holds.size, bufferSize, bufferCount]
    rw [if_pos (by omega), count]
  · refine ⟨by simp [taken], by simp [taken]; omega, fun other old allocated => ?_,
      fun offset inside => ?_⟩
    · change Function.update packet.data index _ other = some old at allocated
      by_cases same : other = index
      · subst same
        rw [Function.update_self] at allocated
        rw [← Option.some.inj allocated, overwrite_length fits, long]
        rfl
      · rw [Function.update_of_ne same] at allocated
        exact holds.whole other old allocated
    · rw [List.length_append, taken] at inside
      simp only [octetAt, bufferSize]
      by_cases same : offset / 32 = index
      · rw [same, Function.update_self, Option.bind_some, overwrite_getElem? fits, taken,
          List.getElem?_append]
        by_cases before : offset < octets.length
        · -- The buffer was allocated when its first octet was written.
          have old := holds.octet offset before
          rw [if_pos (by omega), if_pos before, ← old, octetAt, bufferSize, same]
          rw [octetAt, bufferSize, same, List.getElem?_eq_getElem before] at old
          obtain ⟨allocated, found, _⟩ := Option.bind_eq_some_iff.mp old
          rw [bufferDef, found, Option.bind_some, Option.getD_some]
        · rw [if_neg (by omega), if_pos (by omega), if_neg before]
          congr 1
          omega
      · have before : offset < octets.length := by omega
        rw [Function.update_of_ne same, List.getElem?_append_left before,
          ← holds.octet offset before]
        rfl

theorem Holds.copyLoop {fuel : Nat} (holds : packet.Holds octets) (rounds : item.length ≤ fuel)
    (room : octets.length + item.length ≤ packet.dataMaxSize.toNat) :
    ∃ next, BufferedPacket.copyLoop fuel packet item = some next ∧
      next.dataMaxSize = packet.dataMaxSize ∧ next.Holds (octets ++ item) := by
  induction fuel generalizing packet octets item with
  | zero =>
    obtain rfl := List.eq_nil_of_length_eq_zero (Nat.le_zero.mp rounds)
    exact ⟨packet, by rw [BufferedPacket.copyLoop], rfl, by rwa [List.append_nil]⟩
  | succ fuel ih =>
    cases item with
    | nil => exact ⟨packet, by rw [BufferedPacket.copyLoop], rfl, by rwa [List.append_nil]⟩
    | cons head tail =>
      obtain ⟨part, size, copied, positive, inside, sameMax, held⟩ :=
        holds.copyPart (List.cons_ne_nil head tail) room
      have shorter : ((head :: tail).drop size).length ≤ fuel := by
        rw [List.length_drop]
        omega
      have roomLeft : (octets ++ (head :: tail).take size).length +
          ((head :: tail).drop size).length ≤ part.dataMaxSize.toNat := by
        rw [sameMax, List.length_append, List.length_drop, List.length_take_of_le inside]
        omega
      obtain ⟨next, rest, sameNext, heldNext⟩ := ih held shorter roomLeft
      refine ⟨next, ?_, sameNext.trans sameMax, ?_⟩
      · rw [BufferedPacket.copyLoop, copied]
        · exact rest
        · exact List.cons_ne_nil head tail
      · rwa [List.append_assoc, List.take_append_drop] at heldNext

theorem Holds.addDataItem (holds : packet.Holds octets) (item : List UInt8) :
    (packet.dataMaxSize.toNat < octets.length + item.length ∧
      packet.addDataItem item = some (false, packet)) ∨
    ∃ next, packet.addDataItem item = some (true, next) ∧
      next.dataMaxSize = packet.dataMaxSize ∧ next.Holds (octets ++ item) := by
  have fits := holds.fits
  rw [BufferedPacket.addDataItem, holds.size]
  by_cases large : packet.dataMaxSize.toNat - octets.length < item.length
  · exact Or.inl ⟨by omega, if_pos large⟩
  · obtain ⟨next, copied, sameMax, held⟩ := holds.copyLoop (Nat.le_refl item.length) (by omega)
    exact Or.inr ⟨next, by rw [if_neg large, copied]; rfl, sameMax, held⟩

theorem Holds.offerAll (items : List (List UInt8)) (holds : packet.Holds octets) :
    ∃ last accepted, packet.offerAll items = some (last, accepted) ∧
      accepted.Sublist items ∧ last.dataMaxSize = packet.dataMaxSize ∧
      last.Holds (octets ++ accepted.flatten) := by
  induction items generalizing packet octets with
  | nil => exact ⟨packet, [], rfl, .slnil, rfl, by rwa [List.flatten_nil, List.append_nil]⟩
  | cons item items ih =>
    rcases holds.addDataItem item with ⟨_, refused⟩ | ⟨next, added, sameNext, held⟩
    · obtain ⟨last, accepted, run, inside, same, heldLast⟩ := ih holds
      exact ⟨last, accepted, by rw [BufferedPacket.offerAll, refused]; simp [run],
        inside.cons item, same, heldLast⟩
    · obtain ⟨last, accepted, run, inside, same, heldLast⟩ := ih held
      refine ⟨last, item :: accepted, by rw [BufferedPacket.offerAll, added]; simp [run],
        inside.cons_cons item, same.trans sameNext, ?_⟩
      rwa [List.flatten_cons, ← List.append_assoc]

/-- The buffers of a packet hold the accepted items one behind the other, within its maximum
size, and an item is refused only when it does not fit, with the packet as it was. -/
theorem contents_of_offerAll (maxSize : UInt8) (items : List (List UInt8)) :
    ∃ packet accepted, (create maxSize).offerAll items = some (packet, accepted) ∧
      accepted.Sublist items ∧ packet.contents = accepted.flatten.map some ∧
      packet.dataSize = accepted.flatten.length ∧ packet.dataSize ≤ maxSize.toNat ∧
      ∀ item : List UInt8, (maxSize.toNat < packet.dataSize + item.length ∧
          packet.addDataItem item = some (false, packet)) ∨
        packet.dataSize + item.length ≤ maxSize.toNat ∧
          ∃ next, packet.addDataItem item = some (true, next) ∧
            next.contents = packet.contents ++ item.map some := by
  have empty : (create maxSize).Holds [] :=
    ⟨rfl, Nat.zero_le _, fun _ _ allocated => absurd allocated (Option.some_ne_none _).symm,
      fun _ inside => absurd inside (Nat.not_lt_zero _)⟩
  obtain ⟨packet, accepted, run, inside, sameMax, held⟩ := empty.offerAll items
  rw [List.nil_append] at held
  have fits := held.fits
  rw [sameMax] at fits
  refine ⟨packet, accepted, run, inside, held.contents, held.size, held.size ▸ fits, fun item => ?_⟩
  rcases held.addDataItem item with ⟨large, refused⟩ | ⟨next, added, sameNext, heldNext⟩
  · rw [sameMax, ← held.size] at large
    exact Or.inl ⟨large, refused⟩
  · have room := heldNext.fits
    rw [sameNext, sameMax, List.length_append, ← held.size] at room
    exact Or.inr ⟨room, next, added, by rw [heldNext.contents, held.contents, List.map_append]⟩

end BufferedPacket

end HeadsetAdk.LeAdvertising
