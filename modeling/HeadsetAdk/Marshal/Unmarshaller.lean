import HeadsetAdk.Marshal.Marshaller

/-!
# The unmarshaller

`unmarshal.c`.  The objects are made on a heap that is passed along; where an allocation is
placed is a parameter, from its number and its size.
-/

namespace HeadsetAdk.Marshal

structure Heap where
  memory : Memory
  allocations : Nat

namespace Unmarshaller

/-- `enum unmarshal_state` -/
inductive UnmarshalState
  | unmarshalValues
  | unmarshalPointerIndexes
  deriving DecidableEq, Repr

structure Context where
  base : Base
  buf : Option Memory
  size : Nat
  outdex : Nat
  state : UnmarshalState
  rootIndex : Nat
  nextIndex : Nat

def init (types : TypeDescList) : Context where
  base := baseInit types
  buf := none
  size := 0
  outdex := 0
  state := .unmarshalValues
  rootIndex := mobIndexNull + 1
  nextIndex := 0

/-- `unmarshal_set_buffer` of a buffer that is not `NULL` -/
def setBuffer (buf : Memory) (data : Nat) (u : Context) : Context :=
  { u with buf := some buf, size := data, outdex := 0 }

def clearStore (u : Context) : Context :=
  { u with
    base := baseResetPointerMemberSet (baseClearStore u.base)
    nextIndex := 0
    rootIndex := mobIndexNull + 1 }

abbrev Work := Context × Heap

def readUint8 (u : Context) : Except Fault (Option UInt8 × Context) :=
  if u.outdex < u.size then
    match u.buf with
    | none => .error .nullBuffer
    | some buf => .ok (some (buf u.outdex), { u with outdex := u.outdex + 1 })
  else .ok (none, u)

def unmarshalCopy (type : TypeDescriptor) : CustomCopyCb :=
  (type.customCopyCbs.bind CustomCopyCbs.unmarshalCopy).getD memcpy

def readValue (childAddress : Nat) (type : TypeDescriptor) :
    Work → Except Fault (Bool × Work)
  | (u, heap) =>
      if u.outdex + type.size.toNat ≤ u.size then
        match u.buf with
        | none => .error .nullBuffer
        | some buf => do
            let memory ← copyBytes (unmarshalCopy type) heap.memory childAddress buf u.outdex
              type.size.toNat
            return (true, { u with outdex := u.outdex + type.size.toNat },
              { heap with memory := memory })
      else .ok (false, u, heap)

def storePointers (pointerAddress : Nat) (descriptor : MemberDescriptor) (_ : Mob) :
    Work → Except Fault (Bool × Work)
  | (u, heap) => do
      let pointerMemberSet ← mobsPushUnique u.base.pointerMemberSet
        ⟨pointerAddress, descriptor.type, 0⟩
      return (true, { u with base := { u.base with pointerMemberSet := pointerMemberSet } }, heap)

def referredObject (base : Base) (index : Nat) : Except Fault Mob :=
  let found :=
    if base.objectSet.length ≤ index then
      base.sharedMemberSet[index - base.objectSet.length]?
    else base.objectSet[index]?
  match found with
  | none => .error .assertion
  | some object => .ok object

def unmarshalPointerIndexes (index : Nat) (object : Mob) :
    Work → Except Fault (Bool × Work)
  | (u, heap) => do
      let (read, u) ← readUint8 u
      match read with
      | none => return (false, u, heap)
      | some referredIndex =>
          let referred ← referredObject u.base referredIndex.toNat
          assert (referred.address == 0 || object.type == referred.type) .assertion
          assert (index < mobsMaxObjects) .assertion
          return (true, { u with nextIndex := index + 1 },
            { heap with
              memory := heap.memory.write object.address (Memory.pointerBytes referred.address) })

variable (zpmalloc : Nat → Nat → Nat) (depth : Nat)

/-- `zpmalloc`, which clears what it allocates -/
def Heap.allocate (size : Nat) (heap : Heap) : Nat × Heap :=
  let address := zpmalloc heap.allocations size
  (address,
    { memory := heap.memory.write address (List.replicate size 0)
      allocations := heap.allocations + 1 })

/-- `unmarshal_alloc`: the object, unless its disambiguator is not there yet -/
def unmarshalAlloc (type : UInt8) : Work → Except Fault (Option Mob × Work)
  | (u, heap) =>
      if (u.base.typeDescList.descriptor type).dynamicLength then do
        let (disambiguator, u) ← readUint8 u
        match disambiguator with
        | none => return (none, u, heap)
        | some disambiguator =>
            let size ← objSize u.base.typeDescList type disambiguator
            let (address, heap) := Heap.allocate zpmalloc size heap
            return (some ⟨address, type, disambiguator⟩, u, heap)
      else
        let (address, heap) :=
          Heap.allocate zpmalloc (u.base.typeDescList.descriptor type).size.toNat heap
        .ok (some ⟨address, type, 0⟩, u, heap)

/-- How one round of `unmarshal_values` ends -/
inductive Round
  | finished
  | unmarshalled
  | incomplete
  deriving DecidableEq

/-- One round of `unmarshal_values`: an object, or the end of the values -/
def unmarshalObject : Work → Except Fault (Round × Work)
  | (u, heap) => do
      let (header, u) ← readUint8 u
      match header with
      | none => return (.incomplete, u, heap)
      | some type =>
          if type = marshalTypesMax then return (.finished, u, heap)
          else
            assert (type.toNat < u.base.typeDescList.elements) .assertion
            let (object, work) ← unmarshalAlloc zpmalloc type (u, heap)
            match object with
            | none => return (.incomplete, work)
            | some object =>
                let (ok, u, heap) ← objectTreeTraverse u.base.typeDescList
                  (fun (work : Work) => work.2.memory)
                  { leafMember := some readValue, pointerMember := some storePointers } depth
                  object work
                if ok then
                  let objectSet ← mobsPushUnique u.base.objectSet object
                  return (.unmarshalled,
                    { u with base := { u.base with objectSet := objectSet } }, heap)
                else return (.incomplete, u, heap)

/-- `unmarshal_values`: every round reads a byte.  What an incomplete round has read and stored
is taken back. -/
def unmarshalValues : Nat → Work → Except Fault (Bool × Work)
  | 0, work => .ok (false, work)
  | rounds + 1, (u, heap) => do
      let (round, u', heap) ← unmarshalObject zpmalloc depth (u, heap)
      match round with
      | .finished => return (true, u', heap)
      | .unmarshalled => unmarshalValues rounds (u', heap)
      | .incomplete =>
          let pointers := u'.base.pointerMemberSet.take u.base.pointerMemberSet.length
          return (false,
            { u' with
              outdex := u.outdex
              base := { u'.base with pointerMemberSet := pointers } }, heap)

/-- What `unmarshal` stores through its arguments when it returns `TRUE` -/
abbrev Root := Nat × UInt8

/-- The phase `UNMARSHAL_POINTER_INDEXES` of `unmarshal` -/
def pointerIndexesPhase (work : Work) : Except Fault (Option Root × Work) := do
  let (ok, u, heap) ← mobsIterate (fun (work : Work) => work.1.base.pointerMemberSet)
    work.1.nextIndex unmarshalPointerIndexes work
  if ok then
    match u.base.objectSet[u.rootIndex]? with
    | none => .error .assertion
    | some object =>
        return (some (object.address, object.type),
          { u with
            state := .unmarshalValues
            nextIndex := 0
            rootIndex := u.base.objectSet.length
            base := baseResetPointerMemberSet u.base }, heap)
  else return (none, u, heap)

def registerShared (work : Work) : Except Fault Work :=
  if work.1.base.hasSharedObjects then
    asserted (mobsIterate (fun (work : Work) => work.1.base.objectSet) work.1.rootIndex
      (fun _ => registerSharedMembers (fun (work : Work) => work.2.memory)
        (fun work => work.1.base) (fun base work => ({ work.1 with base := base }, work.2)) depth)
      work)
  else .ok work

def unmarshal : Work → Except Fault (Option Root × Work)
  | (u, heap) => do
      assert u.buf.isSome .assertion
      match u.state with
      | .unmarshalValues => do
          let (ok, work) ← unmarshalValues zpmalloc depth (u.size - u.outdex + 1) (u, heap)
          if ok then do
            let (u, heap) ← registerShared depth work
            pointerIndexesPhase ({ u with state := .unmarshalPointerIndexes }, heap)
          else return (none, work)
      | .unmarshalPointerIndexes => pointerIndexesPhase (u, heap)

def consumed (u : Context) : Nat := u.outdex

end Unmarshaller

end HeadsetAdk.Marshal
