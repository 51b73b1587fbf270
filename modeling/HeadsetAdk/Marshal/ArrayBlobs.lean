import HeadsetAdk.Marshal.BlockCopies
import HeadsetAdk.Marshal.Unmarshaller

/-!
# Arrays of basic types as single blobs

An array whose size fits in a byte is one leaf for the callbacks, which is the same as a leaf for
each element only for some of them.
-/

namespace HeadsetAdk.Marshal

open Unmarshaller (readValue unmarshalCopy)
open Marshaller (marshalCopy writeValue)

section Leaves

variable {State : Type}

def leafEach (leaf : Nat → Visit State) (size : Nat) : Nat → Nat → Visit State
  | 0, _, state => .ok (true, state)
  | elements + 1, address, state =>
      andThen (leaf address state) (leafEach leaf size elements (address + size))

theorem andThen_ok (result : Except Fault (Bool × State)) :
    andThen result (fun state => .ok (true, state)) = result := by
  rcases result with fault | ⟨ok, state⟩
  · rfl
  · cases ok <;> rfl

variable {types : TypeDescList} {memory : State → Memory} {callbacks : TraverseCallbacks State}
  {descend : Mob → TypeDescriptor → Visit State} {parent : Mob} {descriptor : MemberDescriptor}
  {type : TypeDescriptor} {leaf : Nat → TypeDescriptor → Visit State}

section

variable (called : callbacks.leafMember = some leaf) (inlined : descriptor.isPointer = false)
  (basic : type.members = [])

include called inlined basic

theorem visitElement_leaf (address : Nat) :
    visitElement callbacks descend parent descriptor type address = leaf address type := by
  funext state
  have visited : visitElement callbacks descend parent descriptor type address state =
      andThen (leaf address type state) fun state => .ok (true, state) := by
    rw [visitElement, traverseCallback, called, inlined, basic]
    rfl
  rw [visited, andThen_ok]

theorem elementLoop_leaf {size : Nat} :
    ∀ (count element address : Nat) (state : State),
      descriptor.arrayElements.toNat ≤ element + count →
      elementLoop types memory callbacks descend parent false false size count element descriptor
          type address state =
        leafEach (fun address => leaf address type) size
          (descriptor.arrayElements.toNat - element) address state
  | 0, element, address, state, last => by
      rw [Nat.sub_eq_zero_of_le (show descriptor.arrayElements.toNat ≤ element from last)]
      rfl
  | count + 1, element, address, state, last => by
      rw [elementLoop]
      split
      case isTrue inside =>
        have left : descriptor.arrayElements.toNat - element =
            descriptor.arrayElements.toNat - (element + 1) + 1 := by omega
        rw [left, leafEach, ← visitElement_leaf called inlined basic]
        show andThen _ _ = andThen _ _
        refine congrArg (andThen _) (funext fun state => ?_)
        exact elementLoop_leaf count (element + 1) _ state (by omega)
      case isFalse outside =>
        rw [Nat.sub_eq_zero_of_le (Nat.le_of_not_lt outside)]
        rfl

end

end Leaves

section Transfers

variable {State : Type} {elements : Nat}

theorem copyEach_succ_eq_ok {copy : CustomCopyCb} {size destAddress srcAddress : Nat}
    {src dest memory : Memory} :
    copyEach copy size src (elements + 1) dest destAddress srcAddress = .ok memory ↔
      ∃ middle, copyBytes copy dest destAddress src srcAddress size = .ok middle ∧
        copyEach copy size src elements middle (destAddress + size) (srcAddress + size) =
          .ok memory := by
  rw [copyEach]
  cases copyBytes copy dest destAddress src srcAddress size with
  | error fault =>
    refine iff_of_false (fun same => by cases same) ?_
    rintro ⟨_, same, _⟩
    cases same
  | ok middle =>
    constructor
    · exact fun done => ⟨middle, rfl, done⟩
    · rintro ⟨other, same, done⟩
      cases same
      exact done

/-- A leaf callback that copies from one memory to another and moves a cursor along, up to a
limit.  `place` is the state with the memory copied to and the cursor. -/
def CopiesLeaf (leaf : Nat → Visit State) (copy : CustomCopyCb) (size limit : Nat) (src : Memory)
    (place : Memory → Nat → State) (destAt srcAt : Nat → Nat → Nat) : Prop :=
  ∀ dest cursor address state, leaf address (place dest cursor) = .ok (true, state) ↔
    cursor + size ≤ limit ∧ ∃ after,
      copyBytes copy dest (destAt address cursor) src (srcAt address cursor) size = .ok after ∧
        state = place after (cursor + size)

variable {leaf blob : Nat → Visit State} {copy : CustomCopyCb} {size limit : Nat} {src : Memory}
  {place : Memory → Nat → State} {destAt srcAt : Nat → Nat → Nat} {dest : Memory}
  {address cursor : Nat} {state : State}

theorem CopiesLeaf.each (copies : CopiesLeaf leaf copy size limit src place destAt srcAt)
    (destMoves : ∀ address cursor, destAt (address + size) (cursor + size) =
      destAt address cursor + size)
    (srcMoves : ∀ address cursor, srcAt (address + size) (cursor + size) =
      srcAt address cursor + size) :
    leafEach leaf size elements address (place dest cursor) = .ok (true, state) ↔
      (elements = 0 ∨ cursor + elements * size ≤ limit) ∧ ∃ after,
        copyEach copy size src elements dest (destAt address cursor) (srcAt address cursor) =
            .ok after ∧
          state = place after (cursor + elements * size) := by
  induction elements generalizing dest address cursor with
  | zero =>
    rw [leafEach, copyEach, Nat.zero_mul, Nat.add_zero]
    constructor
    · intro done
      exact ⟨.inl rfl, dest, rfl, (congrArg Prod.snd (Except.ok.inj done)).symm⟩
    · rintro ⟨_, other, same, rfl⟩
      cases same
      rfl
  | succ elements ih =>
    have total : cursor + (elements + 1) * size = cursor + size + elements * size := by
      rw [Nat.succ_mul]
      omega
    rw [leafEach, andThen_eq_true, total]
    constructor
    · rintro ⟨middle, written, rest⟩
      obtain ⟨inside, between, copied, rfl⟩ := (copies _ _ _ _).mp written
      obtain ⟨fits, after, each, rfl⟩ := ih.mp rest
      rw [destMoves, srcMoves] at each
      refine ⟨.inr ?_, after, copyEach_succ_eq_ok.mpr ⟨between, copied, each⟩, rfl⟩
      rcases fits with rfl | fits
      · omega
      · exact fits
    · rintro ⟨fits, after, each, rfl⟩
      have inside := fits.resolve_left (Nat.succ_ne_zero elements)
      obtain ⟨between, copied, each⟩ := copyEach_succ_eq_ok.mp each
      rw [← destMoves, ← srcMoves] at each
      exact ⟨_, (copies _ _ _ _).mpr ⟨by omega, between, copied, rfl⟩,
        ih.mpr ⟨.inr inside, after, each, rfl⟩⟩

section Arrays

variable (whole : CopiesLeaf blob copy (elements * size) limit src place destAt srcAt)
  (single : CopiesLeaf leaf copy size limit src place destAt srcAt)
  (destMoves : ∀ address cursor, destAt (address + size) (cursor + size) =
    destAt address cursor + size)
  (srcMoves : ∀ address cursor, srcAt (address + size) (cursor + size) =
    srcAt address cursor + size)

include whole single destMoves srcMoves

theorem blob_iff_each (some : elements ≠ 0) (distributes : Distributes copy size elements) :
    blob address (place dest cursor) = .ok (true, state) ↔
      leafEach leaf size elements address (place dest cursor) = .ok (true, state) := by
  rw [single.each destMoves srcMoves, whole]
  have alike := (@copiesAlike_iff (destAt address cursor) (srcAt address cursor) size copy
    elements).mpr distributes
  constructor
  · rintro ⟨fits, after, copied, rfl⟩
    exact ⟨.inr fits, after, (alike _ _ _).mp copied, rfl⟩
  · rintro ⟨fits, after, copied, rfl⟩
    exact ⟨fits.resolve_left some, after, (alike _ _ _).mpr copied, rfl⟩

theorem copies_of_agree (room : cursor + elements * size ≤ limit)
    (told : ∀ first second cursor, place first cursor = place second cursor → first = second)
    (agree : ∀ state, blob address (place dest cursor) = .ok (true, state) ↔
      leafEach leaf size elements address (place dest cursor) = .ok (true, state))
    (after : Memory) :
    copyBytes copy dest (destAt address cursor) src (srcAt address cursor) (elements * size) =
        .ok after ↔
      copyEach copy size src elements dest (destAt address cursor) (srcAt address cursor) =
        .ok after := by
  have there := agree (place after (cursor + elements * size))
  rw [single.each destMoves srcMoves, whole] at there
  constructor
  · intro copied
    obtain ⟨_, other, each, same⟩ := there.mp ⟨room, after, copied, rfl⟩
    rw [told _ _ _ same, each]
  · intro each
    obtain ⟨_, other, copied, same⟩ := there.mpr ⟨.inr room, after, each, rfl⟩
    rw [told _ _ _ same, copied]

end Arrays

end Transfers

section Values

variable {type : TypeDescriptor} {address : Nat}

theorem writeValue_eq_true {memory buf : Memory} {m after : Marshaller.Context}
    (given : m.buf = some buf) :
    writeValue memory address type m = .ok (true, after) ↔
      m.index + type.size.toNat ≤ m.size ∧ ∃ copied,
        copyBytes (marshalCopy type) buf m.index memory address type.size.toNat = .ok copied ∧
          after = { m with buf := some copied, index := m.index + type.size.toNat } := by
  rw [writeValue, given]
  dsimp only
  split
  case isFalse outside =>
    exact iff_of_false (fun same => by cases same) fun both => outside both.1
  case isTrue inside =>
    cases copyBytes (marshalCopy type) buf m.index memory address type.size.toNat with
    | error fault =>
      refine iff_of_false (fun same => by cases same) ?_
      rintro ⟨_, _, same, _⟩
      cases same
    | ok copied =>
      constructor
      · intro done
        exact ⟨inside, copied, rfl, (congrArg Prod.snd (Except.ok.inj done)).symm⟩
      · rintro ⟨_, other, same, rfl⟩
        cases same
        rfl

theorem readValue_eq_true {buf : Memory} {u : Unmarshaller.Context} {heap : Heap}
    {after : Unmarshaller.Work} (given : u.buf = some buf) :
    readValue address type (u, heap) = .ok (true, after) ↔
      u.outdex + type.size.toNat ≤ u.size ∧ ∃ copied,
        copyBytes (unmarshalCopy type) heap.memory address buf u.outdex
            type.size.toNat = .ok copied ∧
          after = ({ u with outdex := u.outdex + type.size.toNat },
            { heap with memory := copied }) := by
  rw [readValue, given]
  dsimp only
  split
  case isFalse outside =>
    exact iff_of_false (fun same => by cases same) fun both => outside both.1
  case isTrue inside =>
    cases copyBytes (unmarshalCopy type) heap.memory address buf u.outdex
        type.size.toNat with
    | error fault =>
      refine iff_of_false (fun same => by cases same) ?_
      rintro ⟨_, _, same, _⟩
      cases same
    | ok copied =>
      constructor
      · intro done
        exact ⟨inside, copied, rfl, (congrArg Prod.snd (Except.ok.inj done)).symm⟩
      · rintro ⟨_, other, same, rfl⟩
        cases same
        rfl

def marshalPlace (m : Marshaller.Context) (buf : Memory) (index : Nat) : Marshaller.Context :=
  { m with buf := some buf, index := index }

def unmarshalPlace (u : Unmarshaller.Context) (heap : Heap) (buf memory : Memory) (outdex : Nat) :
    Unmarshaller.Work :=
  ({ u with buf := some buf, outdex := outdex }, { heap with memory := memory })

theorem writeValue_copies (memory : Memory) (type : TypeDescriptor) (m : Marshaller.Context) :
    CopiesLeaf (fun address => writeValue memory address type)
      (marshalCopy type) type.size.toNat m.size memory (marshalPlace m)
      (fun _ cursor => cursor) fun address _ => address := by
  intro buf index address state
  exact @writeValue_eq_true type address memory buf (marshalPlace m buf index) state rfl

theorem readValue_copies (type : TypeDescriptor) (u : Unmarshaller.Context) (heap : Heap)
    (buf : Memory) :
    CopiesLeaf (fun address => readValue address type)
      (unmarshalCopy type) type.size.toNat u.size buf (unmarshalPlace u heap buf)
      (fun address _ => address) fun _ cursor => cursor := by
  intro memory outdex address state
  exact @readValue_eq_true type address buf { u with buf := some buf, outdex := outdex }
    { heap with memory := memory } state rfl

end Values

section Main

variable (types : TypeDescList) (parent : Mob) (parentType : TypeDescriptor) (member : Nat)
  (descriptor : MemberDescriptor) {type : TypeDescriptor} {address : Nat}

def traverseElements {State : Type} (memory : State → Memory) (callbacks : TraverseCallbacks State)
    (descend : Mob → TypeDescriptor → Visit State) (state : State) :
    Except Fault (Bool × State) :=
  let descriptor := cachedDescriptor parent parentType member descriptor
  let type := types.descriptor descriptor.type
  elementLoop types memory callbacks descend parent type.isUnion descriptor.isPointer
    type.size.toNat 256 0 descriptor type (parent.address + descriptor.offset.toNat) state

/-- Two traversals succeed alike and leave the same. -/
def SameResults {State : Type} (first second : Visit State) : Prop :=
  ∀ state after, first state = .ok (true, after) ↔ second state = .ok (true, after)

def marshalCallbacks (memory : Memory) : TraverseCallbacks Marshaller.Context :=
  { leafMember := some (writeValue memory) }

def unmarshalCallbacks : TraverseCallbacks Unmarshaller.Work :=
  { leafMember := some readValue
    pointerMember := some Unmarshaller.storePointers }

def BlobAgrees : Prop :=
  (∀ memory descend, SameResults
    (traverseMember types (fun _ => memory) (marshalCallbacks memory) descend parent parentType
      member descriptor)
    (traverseElements types parent parentType member descriptor (fun _ => memory)
      (marshalCallbacks memory) descend)) ∧
  ∀ descend, SameResults
    (traverseMember types (fun (work : Unmarshaller.Work) => work.2.memory) unmarshalCallbacks
      descend parent parentType member descriptor)
    (traverseElements types parent parentType member descriptor
      (fun (work : Unmarshaller.Work) => work.2.memory) unmarshalCallbacks descend)

variable {types parent parentType member descriptor}

section Traversals

variable {State : Type} {memory : State → Memory} {callbacks : TraverseCallbacks State}
  {descend : Mob → TypeDescriptor → Visit State} {leaf : Nat → TypeDescriptor → Visit State}

abbrev elementCount (parent : Mob) (parentType : TypeDescriptor) (member : Nat)
    (descriptor : MemberDescriptor) : Nat :=
  (cachedDescriptor parent parentType member descriptor).arrayElements.toNat

section

variable (called : callbacks.leafMember = some leaf) (inlined : descriptor.isPointer = false)
  (basic : (types.descriptor descriptor.type).members = [])
  (single : (types.descriptor descriptor.type).isUnion = false)

include called inlined basic single

theorem traverseElements_leaf (state : State) :
    traverseElements types parent parentType member descriptor memory callbacks descend state =
      leafEach (fun address => leaf address (types.descriptor descriptor.type))
        (types.descriptor descriptor.type).size.toNat
        (elementCount parent parentType member descriptor)
        (parent.address + descriptor.offset.toNat) state := by
  obtain ⟨elements, fields⟩ := @cachedDescriptor_fields parent parentType member descriptor
  rw [traverseElements, elementCount, fields]
  dsimp only
  rw [inlined, single]
  have few : elements.toNat ≤ 0 + 256 := Nat.le_of_lt (by have := elements.toNat_lt; omega)
  exact elementLoop_leaf called rfl basic 256 0 _ state few

def blobType (type : TypeDescriptor) (elements : Nat) : TypeDescriptor :=
  { type with size := UInt8.ofNat (type.size.toNat * elements) }

theorem traverseMember_blob (several : 1 < elementCount parent parentType member descriptor)
    (small : (types.descriptor descriptor.type).size.toNat *
      elementCount parent parentType member descriptor ≤ 255) (state : State) :
    traverseMember types memory callbacks descend parent parentType member descriptor state =
      leaf (parent.address + descriptor.offset.toNat)
        (blobType (types.descriptor descriptor.type)
          (elementCount parent parentType member descriptor)) state := by
  obtain ⟨elements, fields⟩ := @cachedDescriptor_fields parent parentType member descriptor
  rw [elementCount, fields] at several small
  dsimp only at several small
  have more : (1 : UInt8) < elements := UInt8.lt_iff_toNat_lt.mpr several
  have blob : cachedBlob { descriptor with arrayElements := elements }
      (types.descriptor descriptor.type) =
      ({ descriptor with arrayElements := 1 },
        blobType (types.descriptor descriptor.type) elements.toNat) := by
    simp only [cachedBlob, more, inlined, single, basic, small, List.isEmpty_nil, Bool.not_false,
      Bool.and_self, decide_true, if_true, blobType]
  rw [traverseMember, elementCount, fields]
  dsimp only
  rw [blob]
  dsimp only
  have plain : (blobType (types.descriptor descriptor.type) elements.toNat).members = [] := basic
  have one : (1 : UInt8).toNat ≤ 0 + 256 := by decide
  rw [inlined, single]
  refine (elementLoop_leaf called rfl plain 256 0 _ state one).trans ?_
  show andThen (leaf _ _ state) (fun state => .ok (true, state)) = _
  rw [andThen_ok]

end

theorem traverseMember_elements
    (large : elementCount parent parentType member descriptor ≤ 1 ∨
      255 < (types.descriptor descriptor.type).size.toNat *
        elementCount parent parentType member descriptor) :
    traverseMember types memory callbacks descend parent parentType member descriptor =
      traverseElements types parent parentType member descriptor memory callbacks descend := by
  obtain ⟨elements, fields⟩ := @cachedDescriptor_fields parent parentType member descriptor
  rw [elementCount, fields] at large
  dsimp only at large
  funext state
  rw [traverseMember, traverseElements, fields]
  have kept : cachedBlob { descriptor with arrayElements := elements }
      (types.descriptor descriptor.type) =
      ({ descriptor with arrayElements := elements }, types.descriptor descriptor.type) := by
    rw [cachedBlob, if_neg]
    simp only [Bool.and_eq_true, decide_eq_true_eq, UInt8.lt_iff_toNat_lt, UInt8.toNat_one]
    rintro ⟨⟨_, several⟩, small⟩
    omega
  dsimp only
  rw [kept]

end Traversals

theorem blobType_size {elements : Nat} (small : type.size.toNat * elements ≤ 255) :
    (blobType type elements).size.toNat = elements * type.size.toNat := by
  rw [blobType, UInt8.toNat_ofNat', Nat.mod_eq_of_lt (by omega), Nat.mul_comm]

theorem leafEach_ne_true {State : Type} {leaf : Nat → Visit State} {size elements : Nat}
    {state after : State} (some : elements ≠ 0)
    (stops : ∀ after, leaf address state ≠ .ok (true, after)) :
    leafEach leaf size elements address state ≠ .ok (true, after) := by
  obtain ⟨more, rfl⟩ := Nat.exists_eq_succ_of_ne_zero some
  intro done
  rw [leafEach, andThen_eq_true] at done
  obtain ⟨middle, first, _⟩ := done
  exact stops middle first

theorem writeValue_ne_true {memory : Memory}
    {m : Marshaller.Context} (absent : m.buf = none) (after : Marshaller.Context) :
    writeValue memory address type m ≠ .ok (true, after) := by
  intro done
  rw [writeValue, absent] at done
  cases done

theorem readValue_ne_true {u : Unmarshaller.Context}
    {heap : Heap} (absent : u.buf = none) (after : Unmarshaller.Work) :
    readValue address type (u, heap) ≠ .ok (true, after) := by
  intro done
  rw [readValue, absent] at done
  dsimp only at done
  split at done
  · cases done
  · cases done

section Conditions

variable {type : TypeDescriptor} {elements : Nat} (some : elements ≠ 0)
  (small : type.size.toNat * elements ≤ 255)

include some small

theorem marshal_same_iff (types : TypeDescList) (address : Nat) :
    (∀ memory, SameResults (writeValue memory address (blobType type elements))
      (leafEach (fun address => writeValue memory address type) type.size.toNat elements
        address)) ↔
      Distributes (marshalCopy type) type.size.toNat elements := by
  have whole (memory : Memory) (m : Marshaller.Context) :
      CopiesLeaf (fun address => writeValue memory address (blobType type elements))
        (marshalCopy type) (elements * type.size.toNat) m.size memory (marshalPlace m)
        (fun _ cursor => cursor) fun address _ => address :=
    blobType_size small ▸ writeValue_copies memory (blobType type elements) m
  constructor
  · intro same
    refine (@copiesAlike_iff 0 address _ _ _).mp fun dest src memory => ?_
    have room : 0 + elements * type.size.toNat ≤
        ({ Marshaller.init types with size := elements * type.size.toNat } :
          Marshaller.Context).size := Nat.le_of_eq (Nat.zero_add _)
    exact copies_of_agree (whole src _) (writeValue_copies src type _) (fun _ _ => rfl)
      (fun _ _ => rfl) room
      (fun first second cursor equal => Option.some.inj (congrArg Marshaller.Context.buf equal))
      (fun state => same src (marshalPlace _ dest 0) state) memory
  · intro distributes memory m after
    cases given : m.buf with
    | none =>
      exact iff_of_false (writeValue_ne_true given after)
        (leafEach_ne_true some fun after => writeValue_ne_true given after)
    | some buf =>
      have placed : m = marshalPlace m buf m.index := by
        rw [marshalPlace, ← given]
      rw [placed]
      exact blob_iff_each (whole memory m) (writeValue_copies memory type m) (fun _ _ => rfl)
        (fun _ _ => rfl) some distributes

theorem unmarshal_same_iff (types : TypeDescList) (address : Nat) :
    SameResults (readValue address (blobType type elements))
      (leafEach (fun address => readValue address type) type.size.toNat elements
        address) ↔
      Distributes (unmarshalCopy type) type.size.toNat elements := by
  have whole (u : Unmarshaller.Context) (heap : Heap) (buf : Memory) :
      CopiesLeaf (fun address => readValue address (blobType type elements))
        (unmarshalCopy type) (elements * type.size.toNat) u.size buf
        (unmarshalPlace u heap buf) (fun address _ => address) fun _ cursor => cursor :=
    blobType_size small ▸ readValue_copies (blobType type elements) u heap buf
  constructor
  · intro same
    refine (@copiesAlike_iff address 0 _ _ _).mp fun dest src memory => ?_
    have room : 0 + elements * type.size.toNat ≤
        ({ Unmarshaller.init types with size := elements * type.size.toNat } :
          Unmarshaller.Context).size := Nat.le_of_eq (Nat.zero_add _)
    exact copies_of_agree (whole _ ⟨dest, 0⟩ src) (readValue_copies type _ ⟨dest, 0⟩ src)
      (fun _ _ => rfl) (fun _ _ => rfl) room
      (fun first second cursor equal => congrArg (fun work : Unmarshaller.Work => work.2.memory)
        equal)
      (fun state => same (unmarshalPlace _ ⟨dest, 0⟩ src dest 0) state) memory
  · intro distributes work after
    obtain ⟨u, heap⟩ := work
    cases given : u.buf with
    | none =>
      exact iff_of_false (readValue_ne_true given after)
        (leafEach_ne_true some fun after => readValue_ne_true given after)
    | some buf =>
      have placed : (u, heap) = unmarshalPlace u heap buf heap.memory u.outdex := by
        rw [unmarshalPlace, ← given]
      rw [placed]
      exact blob_iff_each (whole u heap buf) (readValue_copies type u heap buf) (fun _ _ => rfl)
        (fun _ _ => rfl) some distributes

end Conditions

variable (inlined : descriptor.isPointer = false)
  (basic : (types.descriptor descriptor.type).members = [])
  (single : (types.descriptor descriptor.type).isUnion = false)

include inlined basic single

theorem blobAgrees_iff_distributes
    (several : 1 < elementCount parent parentType member descriptor)
    (small : (types.descriptor descriptor.type).size.toNat *
      elementCount parent parentType member descriptor ≤ 255) :
    BlobAgrees types parent parentType member descriptor ↔
      Distributes (marshalCopy (types.descriptor descriptor.type))
          (types.descriptor descriptor.type).size.toNat
          (elementCount parent parentType member descriptor) ∧
        Distributes (unmarshalCopy (types.descriptor descriptor.type))
          (types.descriptor descriptor.type).size.toNat
          (elementCount parent parentType member descriptor) := by
  have some : elementCount parent parentType member descriptor ≠ 0 := Nat.ne_of_gt (by omega)
  rw [← marshal_same_iff some small types (parent.address + descriptor.offset.toNat),
    ← unmarshal_same_iff some small types (parent.address + descriptor.offset.toNat)]
  refine and_congr ⟨fun agree memory state after => ?_, fun agree memory _ state after => ?_⟩
    ⟨fun agree state after => ?_, fun agree _ state after => ?_⟩
  · have told := agree memory (fun _ _ _ => .error .nesting) state after
    rwa [traverseMember_blob rfl inlined basic single several small,
      traverseElements_leaf rfl inlined basic single] at told
  · rw [traverseMember_blob rfl inlined basic single several small,
      traverseElements_leaf rfl inlined basic single]
    exact agree memory state after
  · have told := agree (fun _ _ _ => .error .nesting) state after
    rwa [traverseMember_blob rfl inlined basic single several small,
      traverseElements_leaf rfl inlined basic single] at told
  · rw [traverseMember_blob rfl inlined basic single several small,
      traverseElements_leaf rfl inlined basic single]
    exact agree state after

/-- An array is marshalled and unmarshalled as its elements are exactly if it has no more than one,
if it is too large for a blob, or if its copy callbacks distribute over the elements. -/
theorem blobAgrees_iff :
    BlobAgrees types parent parentType member descriptor ↔
      elementCount parent parentType member descriptor ≤ 1 ∨
      255 < (types.descriptor descriptor.type).size.toNat *
        elementCount parent parentType member descriptor ∨
      Distributes (marshalCopy (types.descriptor descriptor.type))
          (types.descriptor descriptor.type).size.toNat
          (elementCount parent parentType member descriptor) ∧
        Distributes (unmarshalCopy (types.descriptor descriptor.type))
          (types.descriptor descriptor.type).size.toNat
          (elementCount parent parentType member descriptor) := by
  rcases Nat.lt_or_ge 1 (elementCount parent parentType member descriptor) with several | few
  · rcases Nat.lt_or_ge 255 ((types.descriptor descriptor.type).size.toNat *
      elementCount parent parentType member descriptor) with large | small
    · refine iff_of_true ?_ (.inr (.inl large))
      rw [BlobAgrees]
      simp only [traverseMember_elements (.inr large)]
      exact ⟨fun _ _ _ _ => Iff.rfl, fun _ _ _ => Iff.rfl⟩
    · rw [blobAgrees_iff_distributes inlined basic single several small]
      constructor
      · exact fun both => .inr (.inr both)
      · rintro (one | large | both)
        · omega
        · omega
        · exact both
  · refine iff_of_true ?_ (.inl few)
    rw [BlobAgrees]
    simp only [traverseMember_elements (.inl few)]
    exact ⟨fun _ _ _ _ => Iff.rfl, fun _ _ _ => Iff.rfl⟩

end Main

def bytesTime (bytes : List UInt8) : UInt32 :=
  UInt32.ofNat (bytes.foldr (fun byte value => byte.toNat + 256 * value) 0)

def timeBytes (time : UInt32) : List UInt8 := Memory.pointerBytes time.toNat

theorem timeBytes_length (time : UInt32) : (timeBytes time).length = 4 := by
  rw [timeBytes, Memory.pointerBytes, List.length_map, List.length_range]
  rfl

def copyTime (convert : UInt32 → Except Fault UInt32) : CustomCopyCb where
  copy _ src := do
    assert (src.length == 4) .panic
    let time ← convert (bytesTime src)
    return timeBytes time
  fills {dest src bytes} same copied := by
    by_cases four : (src.length == 4) = true
    · rw [four] at copied
      cases converted : convert (bytesTime src) with
      | error fault => rw [converted] at copied; cases copied
      | ok time =>
          rw [converted] at copied
          rw [← Except.ok.inj copied, timeBytes_length, ← same]
          exact (beq_iff_eq.mp four).symm
    · rw [(Bool.not_eq_true _).mp four] at copied
      cases copied

/-- `marshalCommon_MarshalRtimeMarshal`: without a link the time is 0. -/
def marshalRtimeMarshal (localToWallClock : Option (UInt32 → UInt32)) : CustomCopyCb :=
  copyTime fun time => .ok ((localToWallClock.map fun convert => convert time).getD 0)

def marshalRtimeUnmarshal (wallClockToLocal : Option (UInt32 → Option UInt32)) : CustomCopyCb :=
  copyTime fun time =>
    match wallClockToLocal.bind fun convert => convert time with
    | some time => .ok time
    | none => .error .panic

/-- A byte, and `marshal_rtime_t` without a link -/
def byteOrTime : TypeDescList where
  elements := 2
  descriptor type :=
    if type = 0 then ⟨[], none, 1, false, false, .array⟩
    else ⟨[], some ⟨some (marshalRtimeMarshal none), some (marshalRtimeUnmarshal none)⟩, 4, false,
      false, .array⟩
  dynamic _ := ⟨none, none⟩

def pairOf (type : UInt8) : MemberDescriptor := ⟨0, type, 2, false, false⟩

theorem bytes_blobAgrees :
    BlobAgrees byteOrTime ⟨16, 2, 0⟩ ⟨[pairOf 0], none, 2, false, false, .array⟩ 0 (pairOf 0) :=
  (blobAgrees_iff rfl rfl rfl).mpr
    (.inr (.inr ⟨distributes_memcpy _ _, distributes_memcpy _ _⟩))

/-- Two times are not: their callback gets eight bytes. -/
theorem times_not_blobAgrees :
    ¬ BlobAgrees byteOrTime ⟨16, 2, 0⟩ ⟨[pairOf 1], none, 8, false, false, .array⟩ 0
      (pairOf 1) := by
  intro agrees
  have distributes := ((blobAgrees_iff_distributes rfl rfl rfl (by decide) (by decide)).mp agrees).1
  have sized : Sized 4 [([0, 0, 0, 0], [0, 0, 0, 0]), ([0, 0, 0, 0], [0, 0, 0, 0])] := by
    intro block member
    rcases List.mem_cons.mp member with rfl | later
    · exact ⟨rfl, rfl⟩
    · rw [List.mem_singleton.mp later]
      exact ⟨rfl, rfl⟩
  have whole := (distributes _ rfl sized [0, 0, 0, 0, 0, 0, 0, 0]).mpr rfl
  cases whole

end HeadsetAdk.Marshal
