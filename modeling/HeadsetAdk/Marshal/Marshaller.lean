import HeadsetAdk.Marshal.Traverse
import Mathlib.Logic.Function.Basic

/-!
# The marshaller

`marshal.c`.  The write index of a failed object and the count of remaining bytes are set before
each use, and are local here.  The objects are in a memory of their own, which the marshaller only
reads.
-/

namespace HeadsetAdk.Marshal

def copyBytes (copy : CustomCopyCb) (dest : Memory) (destAddress : Nat) (src : Memory)
    (srcAddress n : Nat) : Except Fault Memory := do
  let bytes ← copy.copy (dest.read destAddress n) (src.read srcAddress n)
  return dest.write destAddress bytes

namespace Marshaller

/-- `enum marshal_state` -/
inductive MarshalState
  | registerPointers
  | marshalValues
  | marshalValuesEnd
  | marshalPointerIndexes
  deriving DecidableEq, Repr

structure Context where
  base : Base
  buf : Option Memory
  size : Nat
  index : Nat
  state : MarshalState
  nextValuesIndex : Nat
  nextPointersIndex : Nat

def init (types : TypeDescList) : Context where
  base := baseInit types
  buf := none
  size := 0
  index := 0
  state := .registerPointers
  nextValuesIndex := mobIndexNull + 1
  nextPointersIndex := 0

def setBuffer (buf : Option Memory) (space : Nat) (m : Context) : Context :=
  { m with buf := buf, size := space, index := 0 }

def clearStore (m : Context) : Context :=
  { m with
    base := baseClearStore m.base
    nextValuesIndex := mobIndexNull + 1
    nextPointersIndex := 0 }

def writeUint8 (value : UInt8) (m : Context) : Except Fault (Bool × Context) :=
  if m.index < m.size then
    match m.buf with
    | none => .error .nullBuffer
    | some buf =>
        .ok (true, { m with buf := some (buf.write m.index [value]), index := m.index + 1 })
  else .ok (false, m)

def marshalCopy (type : TypeDescriptor) : CustomCopyCb :=
  (type.customCopyCbs.bind CustomCopyCbs.marshalCopy).getD memcpy

section Calls

variable (memory : Memory)

def writeValue (leafAddress : Nat) (type : TypeDescriptor) (m : Context) :
    Except Fault (Bool × Context) :=
  match m.buf with
  | none => .ok (false, m)
  | some buf =>
      if m.index + type.size.toNat ≤ m.size then do
        let buf ← copyBytes (marshalCopy type) buf m.index memory leafAddress type.size.toNat
        return (true, { m with buf := some buf, index := m.index + type.size.toNat })
      else .ok (false, m)

def writePointerIndex (referred : Mob) (m : Context) : Except Fault (Bool × Context) :=
  let referred := { referred with address := memory.dereferencePp referred.address }
  match mobsHasObject m.base.objectSet referred with
  | some index => writeUint8 (UInt8.ofNat index) m
  | none =>
      match mobsHasObject m.base.sharedMemberSet referred with
      | none => .error .assertion
      | some index => writeUint8 (UInt8.ofNat (index + m.base.objectSet.length)) m

def registerPointer (pointerAddress : Nat) (descriptor : MemberDescriptor) (parent : Mob)
    (m : Context) : Except Fault (Bool × Context) := do
  let address := memory.dereferencePp pointerAddress
  let disambiguator ← objDisambiguator m.base.typeDescList memory address descriptor (some parent)
  let (_, objectSet) ← mobsPush m.base.objectSet ⟨address, descriptor.type, disambiguator⟩
  let pointerMemberSet ← mobsPushUnique m.base.pointerMemberSet
    ⟨pointerAddress, descriptor.type, 0⟩
  return (true, { m with
    base := { m.base with objectSet := objectSet, pointerMemberSet := pointerMemberSet } })

def marshalPointerIndexes (index : Nat) (object : Mob) (m : Context) :
    Except Fault (Bool × Context) := do
  assert (index < mobsMaxObjects) .assertion
  andThen (writePointerIndex memory object m) fun m =>
    .ok (true, { m with nextPointersIndex := index + 1 })

variable (depth : Nat)

def registerPointerMembers (_ : Nat) (object : Mob) (m : Context) :
    Except Fault (Bool × Context) :=
  objectTreeTraverse m.base.typeDescList (fun _ => memory)
    { pointerMember := some (registerPointer memory) } depth object m

/-- What `marshal_values` writes of an object -/
def writeObject (index : Nat) (object : Mob) (m : Context) : Except Fault (Bool × Context) :=
  andThen (writeUint8 object.type m) fun m =>
    andThen
      (if (m.base.typeDescList.descriptor object.type).dynamicLength then
        writeUint8 object.disambiguator m
      else .ok (true, m)) fun m =>
      andThen (objectTreeTraverse m.base.typeDescList (fun _ => memory)
        { leafMember := some (writeValue memory) } depth object m) fun m => do
        assert (index < mobsMaxObjects) .assertion
        return (true, { m with nextValuesIndex := index + 1 })

/-- `marshal_values`: the index is taken back if the object does not fit. -/
def marshalValues (index : Nat) (object : Mob) (m : Context) : Except Fault (Bool × Context) := do
  let (ok, m') ← writeObject memory depth index object m
  return (ok, if ok then m' else { m' with index := m.index })

/-- `count_remaining_values`, on the number of remaining bytes -/
def countRemainingValues (types : TypeDescList) (_ : Nat) (object : Mob) (remaining : Nat) :
    Except Fault (Bool × Nat) := do
  let header := if (types.descriptor object.type).dynamicLength then 2 else 1
  let remaining ← asserted (objectTreeTraverse types (fun _ => memory)
    { leafMember := some fun _ type remaining => .ok (true, remaining + type.size.toNat) } depth
    object (remaining + header))
  return (true, remaining)

def registerShared (m : Context) : Except Fault Context :=
  if m.base.hasSharedObjects then do
    let m ← asserted (mobsIterate (fun (m : Context) => m.base.objectSet) m.nextValuesIndex
      (fun _ => registerSharedMembers (fun _ => memory) Context.base
        (fun base m => { m with base := base }) depth) m)
    let objectSet := mobsDifferenceUpdate m.base.objectSet m.base.sharedMemberSet
    assert (objectSet.length + m.base.sharedMemberSet.length ≤ mobsMaxObjects) .assertion
    return { m with base := { m.base with objectSet := objectSet } }
  else .ok m

/-- The phase `MARSHAL_POINTER_INDEXES` of `marshal` -/
def marshalIndexesPhase (m : Context) : Except Fault (Bool × Context) :=
  andThen (mobsIterate (fun m => m.base.pointerMemberSet) m.nextPointersIndex
    (marshalPointerIndexes memory) m) fun m =>
      .ok (true, { m with
        state := .registerPointers
        nextPointersIndex := 0
        base := baseResetPointerMemberSet m.base })

/-- The phase `MARSHAL_VALUES_END` of `marshal`, and what follows it -/
def marshalEndPhase (m : Context) : Except Fault (Bool × Context) :=
  andThen (writeUint8 marshalTypesMax m) fun m =>
    marshalIndexesPhase memory { m with state := .marshalPointerIndexes }

/-- The phase `MARSHAL_VALUES` of `marshal`, and what follows it -/
def marshalValuesPhase (m : Context) : Except Fault (Bool × Context) :=
  andThen (mobsIterate (fun m => m.base.objectSet) m.nextValuesIndex (marshalValues memory depth)
    m) fun m => marshalEndPhase memory { m with state := .marshalValuesEnd }

/-- The member that stands for the object itself -/
def rootMember (type : UInt8) : MemberDescriptor := ⟨0, type, 1, false, false⟩

/-- The phase `REGISTER_POINTERS` of `marshal`, and what follows it; an object that has been
marshalled before is not marshalled again. -/
def registerPhase (address : Nat) (type : UInt8) (m : Context) :
    Except Fault (Bool × Context) := do
  let disambiguator ← objDisambiguator m.base.typeDescList memory address (rootMember type) none
  let (pushed, objectSet) ← mobsPush m.base.objectSet ⟨address, type, disambiguator⟩
  let m : Context := { m with base := { m.base with objectSet := objectSet } }
  if pushed then
    let m ← asserted (mobsIterate (fun (m : Context) => m.base.objectSet) m.nextValuesIndex
      (registerPointerMembers memory depth) m)
    let m ← registerShared memory depth m
    marshalValuesPhase memory depth { m with state := .marshalValues }
  else return (true, m)

def marshal (address : Nat) (type : UInt8) (m : Context) : Except Fault (Bool × Context) := do
  assert (address ≠ 0) .assertion
  assert (type.toNat < m.base.typeDescList.elements) .assertion
  match m.state with
  | .registerPointers => registerPhase memory depth address type m
  | .marshalValues => marshalValuesPhase memory depth m
  | .marshalValuesEnd => marshalEndPhase memory m
  | .marshalPointerIndexes => marshalIndexesPhase memory m

def produced (m : Context) : Nat := m.index

def remaining (m : Context) : Except Fault Nat :=
  let indexes := m.base.pointerMemberSet.length - m.nextPointersIndex
  match m.state with
  | .registerPointers => .ok 0
  | .marshalValues => do
      let values ← asserted (mobsIterate (fun _ => m.base.objectSet) m.nextValuesIndex
        (countRemainingValues memory depth m.base.typeDescList) 0)
      return values + 1 + indexes
  | .marshalValuesEnd => .ok (1 + indexes)
  | .marshalPointerIndexes => .ok indexes

end Calls

end Marshaller

end HeadsetAdk.Marshal
