import HeadsetAdk.Marshal.Descriptors

/-!
# Traversal of an object

`marshal_base.c`: the store that marshaller and unmarshaller share, the disambiguator and the
size of an object, and the traversal of its members, with a callback at each.
-/

namespace HeadsetAdk.Marshal

structure Base where
  objectSet : Mobs
  sharedMemberSet : Mobs
  pointerMemberSet : Mobs
  typeDescList : TypeDescList
  hasSharedObjects : Bool

def mobIndexNull : Nat := 0

/-- The sets that `base_mobs_init` leaves: the object at `NULL` is the first of the objects. -/
def baseMobsInit (base : Base) : Base :=
  { base with
    objectSet := [⟨0, marshalTypesMax, 0⟩]
    sharedMemberSet := []
    pointerMemberSet := [] }

/-- `base_initialise_type_filters` -/
def hasSharedMembers (types : TypeDescList) : Bool :=
  (List.range types.elements).any fun type =>
    (types.descriptor (UInt8.ofNat type)).members.any MemberDescriptor.isShared

def baseInit (types : TypeDescList) : Base :=
  baseMobsInit {
    objectSet := []
    sharedMemberSet := []
    pointerMemberSet := []
    typeDescList := types
    hasSharedObjects := hasSharedMembers types }

def baseClearStore (base : Base) : Base := baseMobsInit base

def baseResetPointerMemberSet (base : Base) : Base := { base with pointerMemberSet := [] }

section Sizes

variable (types : TypeDescList) (memory : Memory)

def askCallback (callback : Option MemberCallback) (object : Nat) (member : MemberDescriptor)
    (element : Nat) : Except Fault Nat :=
  match callback with
  | some callback => .ok (callback memory object member element)
  | none => .error .assertion

def askDynamic (callbackOf : UInt8 → Option MemberCallback) (object : Nat)
    (member : MemberDescriptor) (parent : Option Mob) (check : MemberDescriptor → Bool) :
    Except Fault Nat :=
  match callbackOf member.type with
  | some callback =>
      match (types.descriptor member.type).members.getLast? with
      | none => .error .assertion
      | some last => do
          assert (check last) .assertion
          return callback memory object last 0
  | none =>
      match parent with
      | none => .error .assertion
      | some parent => askCallback memory (callbackOf parent.type) parent.address member 0

def isUnionMember (last : MemberDescriptor) : Bool :=
  (types.descriptor last.type).isUnion && !last.isPointer && last.arrayElements == 1

def objDisambiguator (object : Nat) (member : MemberDescriptor) (parent : Option Mob) :
    Except Fault UInt8 :=
  let type := types.descriptor member.type
  if type.dynamicLength then do
    let d ← match type.dynamicType with
      | .taggedUnion =>
          askDynamic types memory (fun type => (types.dynamic type).taggedUnionMember) object member
            parent (isUnionMember types)
      | .array =>
          askDynamic types memory (fun type => (types.dynamic type).arrayElements) object member
            parent fun _ => true
    assert (d ≤ 255) .assertion
    return UInt8.ofNat d
  else .ok 0

def objSize (type disambiguator : UInt8) : Except Fault Nat :=
  let descriptor := types.descriptor type
  if descriptor.dynamicLength then
    match descriptor.members.getLast? with
    | none => .error .assertion
    | some last =>
        match descriptor.dynamicType with
        | .taggedUnion => do
            assert (isUnionMember types last) .assertion
            match (types.descriptor last.type).members[disambiguator.toNat]? with
            | none => .error .assertion
            | some tagged => return last.offset.toNat + (types.descriptor tagged.type).size.toNat
        | .array =>
            .ok (last.offset.toNat +
              disambiguator.toNat * (types.descriptor last.type).size.toNat)
  else .ok descriptor.size.toNat

end Sizes

section Traversal

variable {State : Type}

/-- `traverse_callbacks_t`; a callback that is absent is `NULL`. -/
structure TraverseCallbacks (State : Type) where
  leafMember : Option (Nat → TypeDescriptor → Visit State) := none
  pointerMember : Option (Nat → MemberDescriptor → Mob → Visit State) := none
  sharedMember : Option (Nat → MemberDescriptor → Visit State) := none

variable (types : TypeDescList) (memory : State → Memory) (callbacks : TraverseCallbacks State)

def traverseCallback (descriptor : MemberDescriptor) (type : TypeDescriptor) (address : Nat)
    (parent : Mob) (state : State) : Except Fault (Bool × State) :=
  if !descriptor.isPointer then
    match callbacks.leafMember with
    | some leafMember =>
        if type.members.isEmpty then leafMember address type state else .ok (true, state)
    | none =>
        match callbacks.sharedMember with
        | some sharedMember =>
            if descriptor.isShared then sharedMember address descriptor state
            else .ok (true, state)
        | none => .ok (true, state)
  else
    match callbacks.pointerMember with
    | some pointerMember => pointerMember address descriptor parent state
    | none => .ok (true, state)

/-- `update_member_for_union`: the member and its type become those of the tagged member. -/
def updateMemberForUnion (memory : Memory) (parent : Mob) (descriptor : MemberDescriptor)
    (type : TypeDescriptor) (element : Nat) :
    Except Fault (MemberDescriptor × TypeDescriptor) := do
  let index ← askCallback memory (types.dynamic parent.type).taggedUnionMember parent.address
    descriptor element
  match type.members[index]? with
  | none => .error .assertion
  | some tagged => return (tagged, types.descriptor tagged.type)

def visitElement (descend : Mob → TypeDescriptor → Visit State) (parent : Mob)
    (descriptor : MemberDescriptor) (type : TypeDescriptor) (address : Nat) (state : State) :
    Except Fault (Bool × State) :=
  andThen (traverseCallback callbacks descriptor type address parent state) fun state =>
    if !descriptor.isPointer && !type.members.isEmpty then
      descend ⟨address, descriptor.type, 0⟩ type state
    else .ok (true, state)

/-- The loop over the elements of a member.  The number of elements is read again each time, from
what may have become the descriptor of the tagged member. -/
def elementLoop (descend : Mob → TypeDescriptor → Visit State) (parent : Mob)
    (memberIsUnion memberIsPointer : Bool) (memberSize : Nat) :
    Nat → Nat → MemberDescriptor → TypeDescriptor → Nat → Visit State
  | 0, _, _, _, _, state => .ok (true, state)
  | count + 1, element, descriptor, type, address, state =>
      if element < descriptor.arrayElements.toNat then do
        let (descriptor, type) ←
          if memberIsUnion && !memberIsPointer then
            updateMemberForUnion types (memory state) parent descriptor type element
          else .ok (descriptor, type)
        andThen (visitElement callbacks descend parent descriptor type address state)
          (elementLoop descend parent memberIsUnion memberIsPointer memberSize count (element + 1)
            descriptor type
            (address + if memberIsPointer then Memory.pointerSize else memberSize))
      else .ok (true, state)

def cachedDescriptor (parent : Mob) (parentType : TypeDescriptor) (member : Nat)
    (descriptor : MemberDescriptor) : MemberDescriptor :=
  if parentType.dynamicLength && member == parentType.members.length - 1 &&
      parentType.dynamicType == .array then
    { descriptor with arrayElements := parent.disambiguator }
  else descriptor

theorem cachedDescriptor_fields {parent : Mob} {parentType : TypeDescriptor} {member : Nat}
    {descriptor : MemberDescriptor} : ∃ elements,
    cachedDescriptor parent parentType member descriptor =
      { descriptor with arrayElements := elements } := by
  rw [cachedDescriptor]
  split
  · exact ⟨_, rfl⟩
  · exact ⟨_, rfl⟩

def cachedBlob (descriptor : MemberDescriptor) (type : TypeDescriptor) :
    MemberDescriptor × TypeDescriptor :=
  if 1 < descriptor.arrayElements && !descriptor.isPointer && !type.isUnion &&
      type.members.isEmpty && type.size.toNat * descriptor.arrayElements.toNat ≤ 255 then
    ({ descriptor with arrayElements := 1 },
      { type with size := UInt8.ofNat (type.size.toNat * descriptor.arrayElements.toNat) })
  else (descriptor, type)

def traverseMember (descend : Mob → TypeDescriptor → Visit State) (parent : Mob)
    (parentType : TypeDescriptor) (member : Nat) (descriptor : MemberDescriptor) (state : State) :
    Except Fault (Bool × State) :=
  let descriptor := cachedDescriptor parent parentType member descriptor
  let memberType := types.descriptor descriptor.type
  let (descriptor, type) := cachedBlob descriptor memberType
  elementLoop types memory callbacks descend parent memberType.isUnion descriptor.isPointer
    type.size.toNat 256 0 descriptor type (parent.address + descriptor.offset.toNat) state

def memberLoop (descend : Mob → TypeDescriptor → Visit State) (parent : Mob)
    (parentType : TypeDescriptor) : Nat → List MemberDescriptor → Visit State
  | _, [], state => .ok (true, state)
  | member, descriptor :: members, state =>
      andThen (traverseMember types memory callbacks descend parent parentType member descriptor
        state) (memberLoop descend parent parentType (member + 1) members)

/-- `object_tree_traverse_impl`, on types that are nested no deeper than `depth` -/
def objectTreeTraverseImpl : Nat → Mob → TypeDescriptor → Visit State
  | 0, _, _, _ => .error .nesting
  | depth + 1, object, parentType, state =>
      memberLoop types memory callbacks (objectTreeTraverseImpl depth) object parentType 0
        parentType.members state

def objectTreeTraverse (depth : Nat) (parent : Mob) (state : State) :
    Except Fault (Bool × State) :=
  let parentType := types.descriptor parent.type
  if parentType.members.isEmpty then
    match callbacks.leafMember with
    | some leafMember => leafMember parent.address parentType state
    | none => .ok (true, state)
  else objectTreeTraverseImpl types memory callbacks depth parent parentType state

end Traversal

section SharedMembers

variable {State : Type} (memory : State → Memory) (baseOf : State → Base)
  (setBase : Base → State → State)

def registerSharedMember (address : Nat) (descriptor : MemberDescriptor) (state : State) :
    Except Fault (Bool × State) := do
  let (ok, set) ← mobsPush (baseOf state).sharedMemberSet ⟨address, descriptor.type, 0⟩
  assert ok .assertion
  return (true, setBase { baseOf state with sharedMemberSet := set } state)

def registerSharedMembers (depth : Nat) (object : Mob) (state : State) :
    Except Fault (Bool × State) :=
  objectTreeTraverse (baseOf state).typeDescList memory
    { sharedMember := some (registerSharedMember baseOf setBase) } depth object state

end SharedMembers

end HeadsetAdk.Marshal
