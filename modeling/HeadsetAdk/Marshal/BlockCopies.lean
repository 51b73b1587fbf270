import HeadsetAdk.Marshal.Marshaller

/-!
# Copying arrays between memories

Copying consecutive elements at once or one by one is the same exactly if the copy callback
distributes over the bytes of the elements.
-/

namespace HeadsetAdk.Marshal

section Memory

variable {memory : Memory} {address : Nat} {bytes : List UInt8}

theorem Memory.read_length (memory : Memory) (address n : Nat) :
    (memory.read address n).length = n := by
  rw [Memory.read, List.length_map, List.length_range]

theorem Memory.read_getElem? (memory : Memory) (address n index : Nat) :
    (memory.read address n)[index]? =
      if index < n then some (memory (address + index)) else none := by
  rw [Memory.read, List.getElem?_map]
  split
  case isTrue inside => rw [List.getElem?_range inside]; rfl
  case isFalse outside =>
    rw [List.getElem?_eq_none (by rw [List.length_range]; exact Nat.le_of_not_lt outside)]
    rfl

theorem Memory.read_add (memory : Memory) (address first second : Nat) :
    memory.read address (first + second) =
      memory.read address first ++ memory.read (address + first) second := by
  simp only [Memory.read, List.range_add, List.map_append, List.map_map]
  congr 1
  exact List.map_congr_left fun index _ => by simp only [Function.comp_apply, Nat.add_assoc]

theorem Memory.write_apply (other : Nat) : memory.write address bytes other =
    if address ≤ other then (bytes[other - address]?).getD (memory other) else memory other :=
  rfl

theorem Memory.write_nil : memory.write address [] = memory := by
  funext other
  rw [Memory.write_apply]
  split <;> rfl

theorem Memory.write_append (more : List UInt8) :
    memory.write address (bytes ++ more) =
      (memory.write address bytes).write (address + bytes.length) more := by
  funext other
  simp only [Memory.write_apply, List.getElem?_append]
  by_cases before : other < address
  · rw [if_neg (by omega), if_neg (by omega), if_neg (by omega)]
  · rw [if_pos (by omega)]
    by_cases first : other - address < bytes.length
    · rw [if_pos first, if_neg (by omega), if_pos (by omega)]
    · have next : other - (address + bytes.length) = other - address - bytes.length := by omega
      rw [if_neg first, if_pos (by omega), if_pos (by omega), next,
        List.getElem?_eq_none (Nat.le_of_not_lt first), Option.getD_none]

theorem Memory.read_write_behind {other n : Nat} (behind : address + bytes.length ≤ other) :
    (memory.write address bytes).read other n = memory.read other n := by
  refine List.map_congr_left fun index _ => ?_
  rw [Memory.write_apply, if_pos (by omega), List.getElem?_eq_none (by omega), Option.getD_none]

theorem Memory.read_write_before {other n : Nat} (before : other + n ≤ address) :
    (memory.write address bytes).read other n = memory.read other n := by
  refine List.map_congr_left fun index inside => ?_
  have below := List.mem_range.mp inside
  rw [Memory.write_apply]
  exact if_neg (by omega)

theorem Memory.read_write (memory : Memory) (address : Nat) (bytes : List UInt8) :
    (memory.write address bytes).read address bytes.length = bytes := by
  refine List.ext_getElem? fun index => ?_
  rw [Memory.read_getElem?, Memory.write_apply, if_pos (Nat.le_add_right address index),
    Nat.add_sub_cancel_left]
  split
  case isTrue inside => rw [List.getElem?_eq_getElem inside]; rfl
  case isFalse outside => exact (List.getElem?_eq_none (Nat.le_of_not_lt outside)).symm

theorem Memory.write_injective {other : List UInt8} (sameLength : bytes.length = other.length)
    (same : memory.write address bytes = memory.write address other) : bytes = other := by
  rw [← Memory.read_write memory address bytes, same, sameLength, Memory.read_write]

end Memory

section Blocks

/-- Destination and source of one element -/
abbrev Block := List UInt8 × List UInt8

def copyBlocks (copy : CustomCopyCb) : List Block → Except Fault (List UInt8)
  | [] => .ok []
  | (dest, src) :: blocks => do
      let first ← copy.copy dest src
      let rest ← copyBlocks copy blocks
      return first ++ rest

def Sized (size : Nat) (blocks : List Block) : Prop :=
  ∀ block ∈ blocks, block.1.length = size ∧ block.2.length = size

/-- The callback makes of an array what it makes of the elements. -/
def Distributes (copy : CustomCopyCb) (size elements : Nat) : Prop :=
  ∀ blocks : List Block, blocks.length = elements → Sized size blocks → ∀ bytes,
    copy.copy (blocks.flatMap Prod.fst) (blocks.flatMap Prod.snd) = .ok bytes ↔
      copyBlocks copy blocks = .ok bytes

theorem copyBlocks_memcpy : ∀ blocks : List Block,
    copyBlocks memcpy blocks = .ok (blocks.flatMap Prod.snd)
  | [] => rfl
  | (dest, src) :: blocks => by
      rw [copyBlocks, copyBlocks_memcpy blocks]
      rfl

theorem distributes_memcpy (size elements : Nat) : Distributes memcpy size elements :=
  fun blocks _ _ bytes => by rw [copyBlocks_memcpy]; rfl

theorem Sized.tail {size : Nat} {block : Block} {blocks : List Block}
    (sized : Sized size (block :: blocks)) : Sized size blocks :=
  fun other member => sized other (List.mem_cons_of_mem _ member)

theorem copyBlocks_length {copy : CustomCopyCb} {size : Nat} : ∀ {blocks : List Block}
    {bytes : List UInt8}, Sized size blocks → copyBlocks copy blocks = .ok bytes →
    bytes.length = blocks.length * size
  | [], bytes, _, copied => by
      rw [← Except.ok.inj copied, List.length_nil, List.length_nil, Nat.zero_mul]
  | (dest, src) :: blocks, bytes, sized, copied => by
      obtain ⟨destSize, srcSize⟩ := sized _ List.mem_cons_self
      rw [copyBlocks] at copied
      cases first : copy.copy dest src with
      | error fault => rw [first] at copied; cases copied
      | ok head =>
        rw [first] at copied
        cases rest : copyBlocks copy blocks with
        | error fault => rw [rest] at copied; cases copied
        | ok more =>
          rw [rest] at copied
          have headSize : head.length = size :=
            (copy.fills (srcSize.trans destSize.symm) first).trans destSize
          rw [← Except.ok.inj copied, List.length_append, headSize,
            copyBlocks_length sized.tail rest, List.length_cons, Nat.succ_mul, Nat.add_comm]

def blocksAt (dest : Memory) (destAddress : Nat) (src : Memory) (srcAddress size : Nat) :
    Nat → List Block
  | 0 => []
  | elements + 1 =>
      (dest.read destAddress size, src.read srcAddress size) ::
        blocksAt dest (destAddress + size) src (srcAddress + size) size elements

variable {dest src : Memory} {destAddress srcAddress size : Nat}

theorem blocksAt_length : ∀ (elements : Nat) (destAddress srcAddress : Nat),
    (blocksAt dest destAddress src srcAddress size elements).length = elements
  | 0, _, _ => rfl
  | elements + 1, _, _ => by rw [blocksAt, List.length_cons, blocksAt_length elements]

theorem blocksAt_sized : ∀ (elements : Nat) (destAddress srcAddress : Nat),
    Sized size (blocksAt dest destAddress src srcAddress size elements)
  | 0, _, _ => fun _ member => absurd member List.not_mem_nil
  | elements + 1, destAddress, srcAddress => by
      intro block member
      rcases List.mem_cons.mp member with rfl | later
      · exact ⟨Memory.read_length _ _ _, Memory.read_length _ _ _⟩
      · exact blocksAt_sized elements _ _ block later

theorem blocksAt_fst : ∀ (elements : Nat) (destAddress srcAddress : Nat),
    (blocksAt dest destAddress src srcAddress size elements).flatMap Prod.fst =
      dest.read destAddress (elements * size)
  | 0, _, _ => by rw [Nat.zero_mul]; rfl
  | elements + 1, destAddress, srcAddress => by
      rw [Nat.succ_mul, Nat.add_comm (elements * size), Memory.read_add, blocksAt,
        List.flatMap_cons, blocksAt_fst elements]

theorem blocksAt_snd : ∀ (elements : Nat) (destAddress srcAddress : Nat),
    (blocksAt dest destAddress src srcAddress size elements).flatMap Prod.snd =
      src.read srcAddress (elements * size)
  | 0, _, _ => by rw [Nat.zero_mul]; rfl
  | elements + 1, destAddress, srcAddress => by
      rw [Nat.succ_mul, Nat.add_comm (elements * size), Memory.read_add, blocksAt,
        List.flatMap_cons, blocksAt_snd elements]

theorem blocksAt_write {bytes : List UInt8} {address : Nat} : ∀ (elements : Nat)
    (destAddress srcAddress : Nat), address + bytes.length ≤ destAddress →
    blocksAt (dest.write address bytes) destAddress src srcAddress size elements =
      blocksAt dest destAddress src srcAddress size elements
  | 0, _, _, _ => rfl
  | elements + 1, destAddress, srcAddress, behind => by
      rw [blocksAt, blocksAt, Memory.read_write_behind behind,
        blocksAt_write elements _ _ (by omega)]

theorem blocksAt_flatMap (dest src : Memory) : ∀ (blocks : List Block)
    (destAddress srcAddress : Nat), Sized size blocks →
    blocksAt (dest.write destAddress (blocks.flatMap Prod.fst)) destAddress
      (src.write srcAddress (blocks.flatMap Prod.snd)) srcAddress size blocks.length = blocks
  | [], _, _, _ => rfl
  | (first, second) :: blocks, destAddress, srcAddress, sized => by
      obtain ⟨firstSize, secondSize⟩ := sized _ List.mem_cons_self
      dsimp only at firstSize secondSize
      have head (memory : Memory) (address : Nat) (bytes more : List UInt8)
          (length : bytes.length = size) :
          (memory.write address (bytes ++ more)).read address size = bytes := by
        rw [Memory.write_append, Memory.read_write_before (by omega), ← length, Memory.read_write]
      rw [List.flatMap_cons, List.flatMap_cons, List.length_cons, blocksAt, head _ _ _ _ firstSize,
        head _ _ _ _ secondSize, Memory.write_append, Memory.write_append, firstSize, secondSize,
        blocksAt_flatMap _ _ blocks _ _ sized.tail]

theorem flatMap_length {project : Block → List UInt8} : ∀ {blocks : List Block},
    (∀ block ∈ blocks, (project block).length = size) →
    (blocks.flatMap project).length = blocks.length * size
  | [], _ => (Nat.zero_mul size).symm
  | block :: blocks, each => by
      rw [List.flatMap_cons, List.length_append, each _ List.mem_cons_self,
        flatMap_length fun other member => each other (List.mem_cons_of_mem _ member),
        List.length_cons, Nat.succ_mul, Nat.add_comm]

def copyEach (copy : CustomCopyCb) (size : Nat) (src : Memory) :
    Nat → Memory → Nat → Nat → Except Fault Memory
  | 0, dest, _, _ => .ok dest
  | elements + 1, dest, destAddress, srcAddress => do
      let dest ← copyBytes copy dest destAddress src srcAddress size
      copyEach copy size src elements dest (destAddress + size) (srcAddress + size)

theorem copyEach_eq {copy : CustomCopyCb} : ∀ (elements : Nat) (dest : Memory)
    (destAddress srcAddress : Nat),
    copyEach copy size src elements dest destAddress srcAddress =
      (copyBlocks copy (blocksAt dest destAddress src srcAddress size elements)).map
        (dest.write destAddress)
  | 0, dest, destAddress, srcAddress => congrArg Except.ok Memory.write_nil.symm
  | elements + 1, dest, destAddress, srcAddress => by
      rw [copyEach, blocksAt, copyBlocks, copyBytes]
      cases first : copy.copy (dest.read destAddress size) (src.read srcAddress size) with
      | error fault => rfl
      | ok bytes =>
        have length : bytes.length = size :=
          (copy.fills (by rw [Memory.read_length, Memory.read_length]) first).trans
            (Memory.read_length _ _ _)
        show copyEach copy size src elements (dest.write destAddress bytes) _ _ = _
        rw [copyEach_eq elements, blocksAt_write elements _ _ (by omega)]
        show _ = Except.map _ (Except.bind (copyBlocks copy _) _)
        cases copyBlocks copy
          (blocksAt dest (destAddress + size) src (srcAddress + size) size elements) with
        | error fault => rfl
        | ok more =>
          show Except.ok _ = Except.ok _
          rw [Memory.write_append, length]

def CopiesAlike (copy : CustomCopyCb) (size elements destAddress srcAddress : Nat) : Prop :=
  ∀ dest src memory : Memory,
    copyBytes copy dest destAddress src srcAddress (elements * size) = .ok memory ↔
      copyEach copy size src elements dest destAddress srcAddress = .ok memory

theorem map_eq_ok {ε α β : Type} {f : α → β} {result : Except ε α} {value : β} :
    result.map f = .ok value ↔ ∃ original, result = .ok original ∧ f original = value := by
  cases result with
  | error fault =>
    refine iff_of_false (fun same => by cases same) ?_
    rintro ⟨_, same, _⟩
    cases same
  | ok original =>
    constructor
    · exact fun same => ⟨original, rfl, Except.ok.inj same⟩
    · rintro ⟨other, same, value⟩
      rw [← value, ← Except.ok.inj same]
      rfl

theorem copyBytes_eq (copy : CustomCopyCb) (elements : Nat) :
    copyBytes copy dest destAddress src srcAddress (elements * size) =
      (copy.copy ((blocksAt dest destAddress src srcAddress size elements).flatMap Prod.fst)
        ((blocksAt dest destAddress src srcAddress size elements).flatMap Prod.snd)).map
        (dest.write destAddress) := by
  rw [copyBytes, blocksAt_fst, blocksAt_snd]
  rfl

theorem copiesAlike_iff {copy : CustomCopyCb} {elements : Nat} :
    CopiesAlike copy size elements destAddress srcAddress ↔ Distributes copy size elements := by
  constructor
  · intro alike blocks length sized bytes
    have there := alike (Memory.write (fun _ => 0) destAddress (blocks.flatMap Prod.fst))
      (Memory.write (fun _ => 0) srcAddress (blocks.flatMap Prod.snd))
      (Memory.write (Memory.write (fun _ => 0) destAddress (blocks.flatMap Prod.fst)) destAddress
        bytes)
    rw [copyBytes_eq, copyEach_eq, ← length, blocksAt_flatMap _ _ blocks _ _ sized,
      map_eq_ok, map_eq_ok] at there
    have destSize : (blocks.flatMap Prod.fst).length = blocks.length * size :=
      flatMap_length fun block member => (sized block member).1
    have srcSize : (blocks.flatMap Prod.snd).length = blocks.length * size :=
      flatMap_length fun block member => (sized block member).2
    have whole {bytes : List UInt8} (copied : copy.copy (blocks.flatMap Prod.fst)
        (blocks.flatMap Prod.snd) = .ok bytes) : bytes.length = blocks.length * size :=
      (copy.fills (srcSize.trans destSize.symm) copied).trans destSize
    constructor
    · intro copied
      obtain ⟨each, done, same⟩ := there.mp ⟨bytes, copied, rfl⟩
      rw [done, Memory.write_injective ((copyBlocks_length sized done).trans (whole copied).symm)
        same]
    · intro copied
      obtain ⟨other, done, same⟩ := there.mpr ⟨bytes, copied, rfl⟩
      rw [done, Memory.write_injective ((whole done).trans (copyBlocks_length sized copied).symm)
        same]
  · intro distributes dest src memory
    rw [copyBytes_eq, copyEach_eq, map_eq_ok, map_eq_ok]
    exact exists_congr fun bytes => and_congr_left fun _ =>
      distributes _ (blocksAt_length elements _ _) (blocksAt_sized elements _ _) bytes

end Blocks

end HeadsetAdk.Marshal
