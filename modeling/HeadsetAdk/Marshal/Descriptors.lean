import Mathlib.Algebra.Group.Nat.Defs
import Mathlib.Data.List.Basic

/-!
# Type descriptors of the marshalling library

The descriptors of `marshal_if.h`, the memory that they describe and the sets of objects.  The
callbacks of the dynamic descriptors are kept apart, since the library finds them by the number of
the type.
-/

namespace HeadsetAdk.Marshal

/-- What stops the program: a failed assertion, the library's or a client's, following `NULL`,
and a nesting of types that is deeper than the recursion goes. -/
inductive Fault
  | assertion
  | panic
  | nullBuffer
  | nesting
  deriving DecidableEq, Repr

/-- `assert` and `PanicFalse` -/
def assert (condition : Bool) (fault : Fault) : Except Fault Unit :=
  if condition then .ok () else .error fault

theorem assert_eq_ok {condition : Bool} {fault : Fault} {result : Unit}
    (done : assert condition fault = .ok result) : condition = true := by
  cases condition with
  | true => rfl
  | false => cases done

/-- The bytes at the addresses -/
abbrev Memory := Nat → UInt8

namespace Memory

def read (memory : Memory) (address n : Nat) : List UInt8 :=
  (List.range n).map fun index => memory (address + index)

def write (memory : Memory) (address : Nat) (bytes : List UInt8) : Memory := fun other =>
  if address ≤ other then (bytes[other - address]?).getD (memory other) else memory other

/-- `sizeof(char*)` -/
def pointerSize : Nat := 4

def dereferencePp (memory : Memory) (address : Nat) : Nat :=
  (memory.read address pointerSize).foldr (fun byte value => byte.toNat + 256 * value) 0

def pointerBytes (value : Nat) : List UInt8 :=
  (List.range pointerSize).map fun index => UInt8.ofNat (value / 256 ^ index)

end Memory

structure MemberDescriptor where
  offset : UInt8
  type : UInt8
  arrayElements : UInt8
  isPointer : Bool
  isShared : Bool
  deriving DecidableEq, Repr

/-- `marshal_custom_copy_cb`: what the `n` bytes at `dest` are afterwards, from what they and
the `n` bytes at `src` are before. -/
structure CustomCopyCb where
  copy : List UInt8 → List UInt8 → Except Fault (List UInt8)
  fills : ∀ {dest src bytes : List UInt8}, src.length = dest.length →
    copy dest src = .ok bytes → bytes.length = dest.length

def memcpy : CustomCopyCb where
  copy _ src := .ok src
  fills same copied := (congrArg List.length (Except.ok.inj copied)).symm.trans same

structure CustomCopyCbs where
  marshalCopy : Option CustomCopyCb
  unmarshalCopy : Option CustomCopyCb

/-- `MARSHAL_DYNAMIC_TAGGED_UNION` and `MARSHAL_DYNAMIC_ARRAY` -/
inductive DynamicType
  | taggedUnion
  | array
  deriving DecidableEq, Repr

/-- `marshal_type_descriptor_t`; the members and the copy callbacks share a word, and the
callbacks are only used of a type without members. -/
structure TypeDescriptor where
  members : List MemberDescriptor
  customCopyCbs : Option CustomCopyCbs
  size : UInt8
  isUnion : Bool
  dynamicLength : Bool
  dynamicType : DynamicType

abbrev MemberCallback := Memory → Nat → MemberDescriptor → Nat → Nat

/-- What `marshal_type_descriptor_dynamic_t` adds -/
structure DynamicCallbacks where
  taggedUnionMember : Option MemberCallback
  arrayElements : Option MemberCallback

/-- `type_desc_list` with its length -/
structure TypeDescList where
  elements : Nat
  descriptor : UInt8 → TypeDescriptor
  dynamic : UInt8 → DynamicCallbacks

def marshalTypesMax : UInt8 := 255

section ObjectSets

structure Mob where
  address : Nat
  type : UInt8
  disambiguator : UInt8
  deriving DecidableEq, Repr

/-- `mobs_t`, without its division into blocks -/
abbrev Mobs := List Mob

def mobsMaxObjects : Nat := 255

def mobsPushUnique (set : Mobs) (object : Mob) : Except Fault Mobs := do
  assert (set.length < mobsMaxObjects) .assertion
  return set ++ [object]

/-- `mobs_has_object`: the index of the object; `NULL` matches all types. -/
def mobsHasObject (set : Mobs) (object : Mob) : Option Nat :=
  set.findIdx? fun other =>
    object.address == other.address && (other.type == object.type || object.address == 0)

def mobsPush (set : Mobs) (object : Mob) : Except Fault (Bool × Mobs) :=
  if (mobsHasObject set object).isSome then .ok (false, set)
  else do return (true, ← mobsPushUnique set object)

def mobsDifferenceUpdate (set remove : Mobs) : Mobs :=
  remove.foldl (fun set object => set.eraseP fun other =>
    other.address == object.address && other.type == object.type) set

/-- What a callback does to a state, and whether it returns `TRUE` -/
abbrev Visit (State : Type) := State → Except Fault (Bool × State)

variable {State : Type}

/-- Going on if what was called returned `TRUE` -/
def andThen (result : Except Fault (Bool × State)) (next : Visit State) :
    Except Fault (Bool × State) := do
  let (ok, state) ← result
  if ok then next state else return (false, state)

@[simp]
theorem andThen_true (state : State) (next : Visit State) :
    andThen (.ok (true, state)) next = next state :=
  rfl

theorem andThen_eq_true {result : Except Fault (Bool × State)} {next : Visit State}
    {state : State} : andThen result next = .ok (true, state) ↔
      ∃ middle, result = .ok (true, middle) ∧ next middle = .ok (true, state) := by
  rcases result with fault | ⟨ok, middle⟩
  · refine iff_of_false (fun same => by cases same) ?_
    rintro ⟨_, same, _⟩
    cases same
  · cases ok with
    | false =>
      refine iff_of_false (fun same => by cases same) ?_
      rintro ⟨_, same, _⟩
      cases same
    | true =>
      constructor
      · exact fun done => ⟨middle, rfl, done⟩
      · rintro ⟨other, same, done⟩
        cases same
        exact done

def asserted (result : Except Fault (Bool × State)) : Except Fault State := do
  let (ok, state) ← result
  assert ok .assertion
  return state

/-- The loop of `mobs_iterate`, over a set that may grow meanwhile -/
def mobsIterateLoop (set : State → Mobs) (cb : Nat → Mob → Visit State) :
    Nat → Nat → Visit State
  | 0, _, state => .ok (true, state)
  | count + 1, start, state =>
      match (set state)[start]? with
      | none => .ok (true, state)
      | some object =>
          andThen (cb start object state) (mobsIterateLoop set cb count (start + 1))

/-- `mobs_iterate`: a set has no more than `MOBS_MAX_OBJECTS` objects. -/
def mobsIterate (set : State → Mobs) (start : Nat) (cb : Nat → Mob → Visit State)
    (state : State) : Except Fault (Bool × State) :=
  mobsIterateLoop set cb (mobsMaxObjects + 1) start state

end ObjectSets

end HeadsetAdk.Marshal
