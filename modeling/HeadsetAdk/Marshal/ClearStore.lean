import HeadsetAdk.Marshal.Keeping
import HeadsetAdk.Marshal.Unmarshaller

/-! # Clearing the store -/

namespace HeadsetAdk.Marshal

structure SameTypes (types : TypeDescList) (base : Base) : Prop where
  list : base.typeDescList = types
  shared : base.hasSharedObjects = hasSharedMembers types

theorem sameTypes_baseInit (types : TypeDescList) : SameTypes types (baseInit types) :=
  ⟨rfl, rfl⟩

theorem SameTypes.baseMobsInit {types : TypeDescList} {base : Base}
    (same : SameTypes types base) : baseMobsInit base = baseInit types := by
  rw [baseInit, Marshal.baseMobsInit, Marshal.baseMobsInit, same.list, same.shared]

namespace Marshaller

inductive Call
  | setBuffer (buf : Option Memory) (space : Nat)
  | clearStore
  | marshal (memory : Memory) (address : Nat) (type : UInt8)
  | produced
  | remaining (memory : Memory)

/-- What a client sees of a call -/
inductive Reply
  | done
  | returned (ok : Bool) (buf : Option Memory) (produced : Nat)
  | counted (bytes : Nat)

variable (depth : Nat)

def call (m : Context) : Call → Except Fault (Reply × Context)
  | .setBuffer buf space => .ok (.done, setBuffer buf space m)
  | .clearStore => .ok (.done, clearStore m)
  | .marshal memory address type => do
      let (ok, m) ← marshal memory depth address type m
      return (.returned ok m.buf m.index, m)
  | .produced => .ok (.counted (produced m), m)
  | .remaining memory => do return (.counted (← remaining memory depth m), m)

/-- What a client sees of its calls, up to one that does not return -/
def observe : List Call → Context → List (Except Fault Reply)
  | [], _ => []
  | first :: calls, m =>
      match call depth m first with
      | .error fault => [.error fault]
      | .ok (reply, m) => .ok reply :: observe calls m

inductive Reached (types : TypeDescList) : Context → Prop
  | init : Reached types (init types)
  | call {m m' : Context} {request : Call} {reply : Reply} : Reached types m →
      call depth m request = .ok (reply, m') → Reached types m'

def ClearsToNew (types : TypeDescList) (m : Context) : Prop :=
  ∀ buf space calls, observe depth calls (setBuffer buf space (clearStore m)) =
    observe depth calls (setBuffer buf space (init types))

section Phases

variable {types : TypeDescList} {size : Nat} {state : MarshalState} {memory : Memory}

structure Fixed (types : TypeDescList) (size : Nat) (state : MarshalState) (m : Context) :
    Prop where
  same : SameTypes types m.base
  size : m.size = size
  state : m.state = state

theorem keeps_writeUint8 (value : UInt8) : Keeps (Fixed types size state) (writeUint8 value) where
  keep m result fixed done := by
    rw [writeUint8] at done
    split at done
    · split at done
      · cases done
      · exact Except.ok.inj done ▸ { fixed with }
    · exact Except.ok.inj done ▸ fixed

theorem keeps_writeValue (address : Nat) (type : TypeDescriptor) :
    Keeps (Fixed types size state) (writeValue memory address type) where
  keep m result fixed done := by
    rw [writeValue] at done
    split at done
    · exact Except.ok.inj done ▸ fixed
    · split at done
      · obtain ⟨buf, _, done⟩ := bind_eq_ok done
        exact Except.ok.inj done ▸ { fixed with }
      · exact Except.ok.inj done ▸ fixed

theorem keeps_writePointerIndex (referred : Mob) :
    Keeps (Fixed types size state) (writePointerIndex memory referred) where
  keep m result fixed done := by
    rw [writePointerIndex] at done
    split at done
    · exact (keeps_writeUint8 _).keep m result fixed done
    · split at done
      · cases done
      · exact (keeps_writeUint8 _).keep m result fixed done

theorem keeps_marshalPointerIndexes (index : Nat) (object : Mob) :
    Keeps (Fixed types size state) (marshalPointerIndexes memory index object) where
  keep m result fixed done := by
    obtain ⟨_, _, done⟩ := bind_eq_ok done
    have keepsIndex : Keeps (Fixed types size state) fun m : Context =>
        .ok (true, { m with nextPointersIndex := index + 1 }) :=
      ⟨fun m result fixed done => Except.ok.inj done ▸ { fixed with }⟩
    exact ((keeps_writePointerIndex object).andThen keepsIndex).keep m result fixed done

theorem keeps_registerPointer (address : Nat) (descriptor : MemberDescriptor) (parent : Mob) :
    Keeps (Fixed types size state) (registerPointer memory address descriptor parent) where
  keep m result fixed done := by
    obtain ⟨disambiguator, _, done⟩ := bind_eq_ok done
    obtain ⟨objectSet, _, done⟩ := bind_eq_ok done
    obtain ⟨pointerMemberSet, _, done⟩ := bind_eq_ok done
    exact Except.ok.inj done ▸ ⟨⟨fixed.same.list, fixed.same.shared⟩, fixed.size, fixed.state⟩

variable {depth : Nat}

theorem keeps_registerPointerMembers (index : Nat) (object : Mob) :
    Keeps (Fixed types size state) (registerPointerMembers memory depth index object) where
  keep m result fixed done :=
    (keeps_objectTreeTraverse (keepingCallbacks_pointer keeps_registerPointer) depth object).keep m
      result fixed done

theorem keeps_writeObject (index : Nat) (object : Mob) :
    Keeps (Fixed types size state) (writeObject memory depth index object) := by
  refine (keeps_writeUint8 _).andThen (Keeps.andThen ?_ (Keeps.andThen ?_ ?_))
  · refine ⟨fun m result fixed done => ?_⟩
    split at done
    · exact (keeps_writeUint8 _).keep m result fixed done
    · exact Except.ok.inj done ▸ fixed
  · exact ⟨fun m => (keeps_objectTreeTraverse (keepingCallbacks_leaf keeps_writeValue) depth
      object).keep m⟩
  · refine ⟨fun m result fixed done => ?_⟩
    obtain ⟨_, _, done⟩ := bind_eq_ok done
    exact Except.ok.inj done ▸ { fixed with }

theorem keeps_marshalValues (index : Nat) (object : Mob) :
    Keeps (Fixed types size state) (marshalValues memory depth index object) where
  keep m result fixed done := by
    obtain ⟨⟨ok, after⟩, written, done⟩ := bind_eq_ok done
    have kept := (keeps_writeObject index object).keep m _ fixed written
    cases done
    dsimp only
    split
    · exact kept
    · exact { kept with }

theorem keeps_registerSharedMembers (object : Mob) :
    Keeps (Fixed types size state) (registerSharedMembers (fun _ => memory) Context.base
      (fun base m => { m with base := base }) depth object) := by
  have keepsShared (address : Nat) (member : MemberDescriptor) :
      Keeps (Fixed types size state) (registerSharedMember Context.base
        (fun base m => { m with base := base }) address member) := by
    refine ⟨fun m result fixed done => ?_⟩
    obtain ⟨⟨ok, set⟩, _, done⟩ := bind_eq_ok done
    obtain ⟨_, _, done⟩ := bind_eq_ok done
    exact Except.ok.inj done ▸ ⟨⟨fixed.same.list, fixed.same.shared⟩, fixed.size, fixed.state⟩
  exact ⟨fun m => (keeps_objectTreeTraverse (keepingCallbacks_shared keepsShared) depth
    object).keep m⟩

theorem registerShared_fixed {m after : Context} (fixed : Fixed types size state m)
    (done : registerShared memory depth m = .ok after) : Fixed types size state after := by
  rw [registerShared] at done
  split at done
  · obtain ⟨middle, called, done⟩ := bind_eq_ok done
    obtain ⟨_, _, done⟩ := bind_eq_ok done
    have kept : Fixed types size state middle :=
      (keeps_mobsIterate (fun _ => keeps_registerSharedMembers) _).asserted fixed called
    exact Except.ok.inj done ▸ ⟨⟨kept.same.list, kept.same.shared⟩, kept.size, kept.state⟩
  · exact Except.ok.inj done ▸ fixed

end Phases

section Types

variable {types : TypeDescList} {memory : Memory} {depth : Nat}

def Typed (types : TypeDescList) (m : Context) : Prop := SameTypes types m.base

theorem Keeps.typed {visit : Visit Context}
    (keeps : ∀ size state, Keeps (Fixed types size state) visit) : Keeps (Typed types) visit where
  keep m result same done := ((keeps m.size m.state).keep m result ⟨same, rfl, rfl⟩ done).same

theorem typed_marshalIndexesPhase : Keeps (Typed types) (marshalIndexesPhase memory) where
  keep m result same done := by
    have keepsIndexes : Keeps (Typed types) (mobsIterate (fun m => m.base.pointerMemberSet)
        m.nextPointersIndex (marshalPointerIndexes memory)) :=
      Keeps.typed fun _ _ => keeps_mobsIterate keeps_marshalPointerIndexes _
    refine (keepsIndexes.andThen ⟨fun m result same done => ?_⟩).keep m result same done
    exact Except.ok.inj done ▸ ⟨same.list, same.shared⟩

theorem typed_marshalEndPhase : Keeps (Typed types) (marshalEndPhase memory) :=
  (Keeps.typed fun _ _ => keeps_writeUint8 _).andThen
    ⟨fun m result same done =>
      typed_marshalIndexesPhase.keep { m with state := .marshalPointerIndexes } result same done⟩

theorem typed_marshalValuesPhase : Keeps (Typed types) (marshalValuesPhase memory depth) where
  keep m result same done := by
    have keepsValues : Keeps (Typed types) (mobsIterate (fun m => m.base.objectSet)
        m.nextValuesIndex (marshalValues memory depth)) :=
      Keeps.typed fun _ _ => keeps_mobsIterate keeps_marshalValues _
    refine (keepsValues.andThen ⟨fun m result same done => ?_⟩).keep m result same done
    exact typed_marshalEndPhase.keep { m with state := .marshalValuesEnd } result same done

theorem typed_registerPhase (address : Nat) (type : UInt8) :
    Keeps (Typed types) (registerPhase memory depth address type) where
  keep m result same done := by
    obtain ⟨disambiguator, _, done⟩ := bind_eq_ok done
    obtain ⟨⟨pushed, objectSet⟩, _, done⟩ := bind_eq_ok done
    have same' : SameTypes types
        ({ m with base := { m.base with objectSet := objectSet } } : Context).base :=
      ⟨same.list, same.shared⟩
    dsimp only at done
    split at done
    · obtain ⟨registered, called, done⟩ := bind_eq_ok done
      obtain ⟨shared, taken, done⟩ := bind_eq_ok done
      have kept : Fixed types m.size m.state registered :=
        (keeps_mobsIterate keeps_registerPointerMembers _).asserted ⟨same', rfl, rfl⟩ called
      exact typed_marshalValuesPhase.keep { shared with state := .marshalValues } result
        (registerShared_fixed kept taken).same done
    · exact Except.ok.inj done ▸ same'

theorem typed_marshal (address : Nat) (type : UInt8) :
    Keeps (Typed types) (marshal memory depth address type) where
  keep m result same done := by
    obtain ⟨_, _, done⟩ := bind_eq_ok done
    obtain ⟨_, _, done⟩ := bind_eq_ok done
    split at done
    · exact (typed_registerPhase address type).keep m result same done
    · exact typed_marshalValuesPhase.keep m result same done
    · exact typed_marshalEndPhase.keep m result same done
    · exact typed_marshalIndexesPhase.keep m result same done

theorem elements_of_marshal {address : Nat} {type : UInt8} {m : Context} {result : Bool × Context}
    (done : marshal memory depth address type m = .ok result) :
    0 < m.base.typeDescList.elements := by
  obtain ⟨_, _, done⟩ := bind_eq_ok done
  obtain ⟨_, checked, _⟩ := bind_eq_ok done
  rw [assert] at checked
  split at checked
  case isTrue known => exact Nat.lt_of_le_of_lt (Nat.zero_le _) (of_decide_eq_true known)
  case isFalse => cases checked

structure Known (types : TypeDescList) (m : Context) : Prop where
  same : Typed types m
  some : m.state ≠ .registerPointers → 0 < types.elements

theorem Reached.known {m : Context} (reached : Reached depth types m) : Known types m := by
  induction reached with
  | init => exact ⟨sameTypes_baseInit types, fun begun => absurd rfl begun⟩
  | @call m m' request reply reached called known =>
    cases request with
    | setBuffer buf space =>
      obtain rfl := congrArg Prod.snd (Except.ok.inj called)
      exact ⟨known.same, known.some⟩
    | clearStore =>
      obtain rfl := congrArg Prod.snd (Except.ok.inj called)
      exact ⟨⟨known.same.list, known.same.shared⟩, known.some⟩
    | marshal memory address type =>
      obtain ⟨⟨ok, after⟩, done, called⟩ := bind_eq_ok called
      obtain rfl := congrArg Prod.snd (Except.ok.inj called)
      refine ⟨(typed_marshal address type).keep m _ known.same done, fun _ => ?_⟩
      rw [← known.same.list]
      exact elements_of_marshal done
    | produced =>
      obtain rfl := congrArg Prod.snd (Except.ok.inj called)
      exact known
    | remaining memory =>
      obtain ⟨bytes, _, called⟩ := bind_eq_ok called
      obtain rfl := congrArg Prod.snd (Except.ok.inj called)
      exact known

end Types

section Empty

variable {types : TypeDescList} {state : MarshalState} {memory : Memory} {depth : Nat}
  {m : Context}

theorem marshalEndPhase_empty (empty : m.size = 0) : marshalEndPhase memory m = .ok (false, m) := by
  rw [marshalEndPhase, writeUint8, if_neg (by omega)]
  rfl

variable {result : Bool × Context}

theorem marshalValuesPhase_empty (fixed : Fixed types 0 state m)
    (done : marshalValuesPhase memory depth m = .ok result) : result.1 = false := by
  obtain ⟨⟨ok, after⟩, called, done⟩ := bind_eq_ok done
  have kept := (keeps_mobsIterate keeps_marshalValues _).keep m _ fixed called
  dsimp only at done
  split at done
  · have ended := @marshalEndPhase_empty memory { after with state := .marshalValuesEnd } kept.size
    rw [ended] at done
    exact (congrArg Prod.fst (Except.ok.inj done)).symm
  · exact (congrArg Prod.fst (Except.ok.inj done)).symm

theorem mobsPush_new {object : Mob} (present : object.address ≠ 0) :
    mobsPush [⟨0, marshalTypesMax, 0⟩] object = .ok (true, [⟨0, marshalTypesMax, 0⟩, object]) := by
  have other : mobsHasObject [⟨0, marshalTypesMax, 0⟩] object = none := by
    simp [mobsHasObject, List.findIdx?_cons, present]
  rw [mobsPush, other]
  rfl

theorem marshal_new_empty {address : Nat} {type : UInt8}
    (done : marshal memory depth address type (setBuffer none 0 (init types)) = .ok result) :
    result.1 = false := by
  obtain ⟨_, checked, done⟩ := bind_eq_ok done
  have present : address ≠ 0 := of_decide_eq_true (assert_eq_ok checked)
  obtain ⟨_, _, done⟩ := bind_eq_ok done
  obtain ⟨disambiguator, _, done⟩ := bind_eq_ok done
  obtain ⟨⟨pushed, objectSet⟩, push, done⟩ := bind_eq_ok done
  have new : mobsPush (setBuffer none 0 (init types)).base.objectSet
      ⟨address, type, disambiguator⟩ = _ := mobsPush_new present
  rw [new] at push
  cases push
  obtain ⟨registered, called, done⟩ := bind_eq_ok done
  obtain ⟨shared, taken, done⟩ := bind_eq_ok done
  have kept : Fixed types 0 .registerPointers registered :=
    (keeps_mobsIterate keeps_registerPointerMembers _).asserted ⟨⟨rfl, rfl⟩, rfl, rfl⟩ called
  have kept' := registerShared_fixed kept taken
  exact marshalValuesPhase_empty (m := { shared with state := .marshalValues })
    ⟨kept'.same, kept'.size, rfl⟩ done

end Empty

section Main

variable {types : TypeDescList} {depth : Nat} {m : Context}

theorem clearsToNew_of_idle (known : Known types m) (idle : m.state = .registerPointers) :
    ClearsToNew depth types m := by
  intro buf space calls
  have new : setBuffer buf space (clearStore m) = setBuffer buf space (init types) := by
    rw [setBuffer, setBuffer, clearStore, init, baseClearStore, known.same.baseMobsInit, idle]
  rw [new]

/-- What clearing leaves of a marshaller in a phase, without room -/
def stale (types : TypeDescList) (state : MarshalState) : Context :=
  { setBuffer none 0 (init types) with state := state }

theorem clearStore_stale (known : Known types m) :
    setBuffer none 0 (clearStore m) = stale types m.state := by
  rw [setBuffer, clearStore, stale, setBuffer, init, baseClearStore, known.same.baseMobsInit]

theorem marshal_stale (elements : 0 < types.elements) :
    marshal (fun _ => 0) depth 1 0 (stale types .marshalPointerIndexes) =
      .ok (true, stale types .registerPointers) := by
  have known : assert (decide (0 < types.elements)) .assertion = .ok () := by
    rw [decide_eq_true elements]
    rfl
  show (assert (decide (0 < types.elements)) .assertion >>= fun _ => _) = _
  rw [known]
  rfl

theorem not_clearsToNew (known : Known types m) (begun : m.state ≠ .registerPointers) :
    ¬ ClearsToNew depth types m := by
  intro new
  have counted := new none 0 [.remaining fun _ => 0]
  have marshalled := new none 0 [.marshal (fun _ => 0) 1 0]
  have elements := known.some begun
  rw [clearStore_stale known] at counted marshalled
  cases phase : m.state with
  | registerPointers => exact begun phase
  | marshalValues =>
    rw [phase] at counted
    change [Except.ok (Reply.counted 1)] = [Except.ok (Reply.counted 0)] at counted
    cases counted
  | marshalValuesEnd =>
    rw [phase] at counted
    change [Except.ok (Reply.counted 1)] = [Except.ok (Reply.counted 0)] at counted
    cases counted
  | marshalPointerIndexes =>
    rw [phase, observe, call, marshal_stale elements, observe, call] at marshalled
    cases fresh : marshal (fun _ => 0) depth 1 0 (setBuffer none 0 (init types)) with
    | error fault =>
      rw [fresh] at marshalled
      cases marshalled
    | ok result =>
      obtain ⟨ok, after⟩ := result
      have refused : ok = false := marshal_new_empty fresh
      rw [fresh, refused] at marshalled
      cases marshalled

end Main

end Marshaller

namespace Unmarshaller

inductive Call
  | setBuffer (buf : Memory) (data : Nat)
  | clearStore
  | unmarshal (memory : Memory)
  | consumed

/-- What a client sees of a call -/
inductive Reply
  | done
  | returned (root : Option Root) (memory : Memory)
  | counted (bytes : Nat)

variable (zpmalloc : Nat → Nat → Nat) (depth : Nat)

def call : Work → Call → Except Fault (Reply × Work)
  | (u, heap), .setBuffer buf data => .ok (.done, setBuffer buf data u, heap)
  | (u, heap), .clearStore => .ok (.done, clearStore u, heap)
  | (u, heap), .unmarshal memory => do
      let (root, u, heap) ← unmarshal zpmalloc depth (u, { heap with memory := memory })
      return (.returned root heap.memory, u, heap)
  | (u, heap), .consumed => .ok (.counted (consumed u), u, heap)

/-- What a client sees of its calls, up to one that does not return -/
def observe : List Call → Work → List (Except Fault Reply)
  | [], _ => []
  | first :: calls, work =>
      match call zpmalloc depth work first with
      | .error fault => [.error fault]
      | .ok (reply, work) => .ok reply :: observe calls work

inductive Reached (types : TypeDescList) : Work → Prop
  | init (heap : Heap) : Reached types (init types, heap)
  | call {work work' : Work} {request : Call} {reply : Reply} : Reached types work →
      call zpmalloc depth work request = .ok (reply, work') → Reached types work'

def ClearsToNew (types : TypeDescList) (u : Context) : Prop :=
  ∀ heap buf data calls, observe zpmalloc depth calls (setBuffer buf data (clearStore u), heap) =
      observe zpmalloc depth calls (setBuffer buf data (init types), heap)

section Types

variable {types : TypeDescList} {zpmalloc depth} {after work : Work}

def Typed (types : TypeDescList) (work : Work) : Prop := SameTypes types work.1.base

theorem readUint8_base {u after : Context} {byte : Option UInt8}
    (done : readUint8 u = .ok (byte, after)) : after.base = u.base := by
  rw [readUint8] at done
  split at done
  · split at done
    · cases done
    · cases done
      rfl
  · cases done
    rfl

theorem typed_readValue (address : Nat) (type : TypeDescriptor) :
    Keeps (Typed types) (readValue address type) where
  keep work result same done := by
    obtain ⟨u, heap⟩ := work
    rw [readValue] at done
    split at done
    · split at done
      · cases done
      · obtain ⟨memory, _, done⟩ := bind_eq_ok done
        exact Except.ok.inj done ▸ same
    · exact Except.ok.inj done ▸ same

theorem typed_storePointers (address : Nat) (member : MemberDescriptor) (parent : Mob) :
    Keeps (Typed types) (storePointers address member parent) where
  keep work result same done := by
    obtain ⟨pointers, _, done⟩ := bind_eq_ok done
    exact Except.ok.inj done ▸ ⟨same.list, same.shared⟩

theorem typed_unmarshalPointerIndexes (index : Nat) (object : Mob) :
    Keeps (Typed types) (unmarshalPointerIndexes index object) where
  keep work result same done := by
    obtain ⟨u, heap⟩ := work
    obtain ⟨⟨byte, after⟩, read, done⟩ := bind_eq_ok done
    have base : SameTypes types after.base := readUint8_base read ▸ same
    cases byte with
    | none => exact Except.ok.inj done ▸ base
    | some referredIndex =>
      obtain ⟨referred, _, done⟩ := bind_eq_ok done
      obtain ⟨_, _, done⟩ := bind_eq_ok done
      obtain ⟨_, _, done⟩ := bind_eq_ok done
      exact Except.ok.inj done ▸ base

theorem typed_registerSharedMembers (object : Mob) :
    Keeps (Typed types) (registerSharedMembers (fun (work : Work) => work.2.memory)
      (fun work => work.1.base) (fun base work => ({ work.1 with base := base }, work.2)) depth
      object) := by
  have keepsShared (address : Nat) (member : MemberDescriptor) :
      Keeps (Typed types) (registerSharedMember (fun (work : Work) => work.1.base)
        (fun base work => ({ work.1 with base := base }, work.2)) address member) := by
    refine ⟨fun work result same done => ?_⟩
    obtain ⟨⟨ok, set⟩, _, done⟩ := bind_eq_ok done
    obtain ⟨_, _, done⟩ := bind_eq_ok done
    exact Except.ok.inj done ▸ ⟨same.list, same.shared⟩
  exact ⟨fun work => (keeps_objectTreeTraverse (keepingCallbacks_shared keepsShared) depth
    object).keep work⟩

theorem unmarshalAlloc_base {type : UInt8} {object : Option Mob}
    (done : unmarshalAlloc zpmalloc type work = .ok (object, after)) :
    after.1.base = work.1.base := by
  obtain ⟨u, heap⟩ := work
  rw [unmarshalAlloc] at done
  split at done
  · obtain ⟨⟨byte, read⟩, called, done⟩ := bind_eq_ok done
    have base := readUint8_base called
    cases byte with
    | none => exact (Prod.mk.inj (Except.ok.inj done)).2 ▸ base
    | some disambiguator =>
      obtain ⟨size, _, done⟩ := bind_eq_ok done
      cases done
      exact base
  · cases done
    rfl

theorem typed_unmarshalObject {round : Round} (same : Typed types work)
    (done : unmarshalObject zpmalloc depth work = .ok (round, after)) : Typed types after := by
  obtain ⟨u, heap⟩ := work
  obtain ⟨⟨byte, read⟩, called, done⟩ := bind_eq_ok done
  have base : SameTypes types read.base := readUint8_base called ▸ same
  cases byte with
  | none => exact (Prod.mk.inj (Except.ok.inj done)).2 ▸ base
  | some type =>
    dsimp only at done
    split at done
    · exact (Prod.mk.inj (Except.ok.inj done)).2 ▸ base
    · obtain ⟨_, _, done⟩ := bind_eq_ok done
      obtain ⟨⟨object, allocated⟩, alloc, done⟩ := bind_eq_ok done
      have base' : Typed types allocated := by
        rw [Typed, unmarshalAlloc_base alloc]
        exact base
      cases object with
      | none => exact (Prod.mk.inj (Except.ok.inj done)).2 ▸ base'
      | some object =>
        obtain ⟨⟨ok, values⟩, traversed, done⟩ := bind_eq_ok done
        have keeping : KeepingCallbacks (Typed types)
            { leafMember := some readValue, pointerMember := some storePointers } :=
          { leaf := fun _ found => Option.some.inj found ▸ typed_readValue
            pointer := fun _ found => Option.some.inj found ▸ typed_storePointers
            shared := fun _ found => by cases found }
        have kept : Typed types values :=
          (keeps_objectTreeTraverse keeping depth object).keep allocated _ base' traversed
        cases ok with
        | true =>
          obtain ⟨objectSet, _, done⟩ := bind_eq_ok done
          exact (Prod.mk.inj (Except.ok.inj done)).2 ▸ ⟨kept.list, kept.shared⟩
        | false => exact (Prod.mk.inj (Except.ok.inj done)).2 ▸ kept

theorem typed_unmarshalValues (rounds : Nat) :
    Keeps (Typed types) (unmarshalValues zpmalloc depth rounds) := by
  induction rounds with
  | zero => exact keeps_return false
  | succ rounds ih =>
    refine ⟨fun work result same done => ?_⟩
    obtain ⟨u, heap⟩ := work
    obtain ⟨⟨round, after⟩, called, done⟩ := bind_eq_ok done
    have kept := typed_unmarshalObject same called
    cases round with
    | finished => exact Except.ok.inj done ▸ kept
    | unmarshalled => exact ih.keep _ result kept done
    | incomplete => exact Except.ok.inj done ▸ ⟨kept.list, kept.shared⟩

theorem typed_pointerIndexesPhase {root : Option Root}
    (same : Typed types work) (done : pointerIndexesPhase work = .ok (root, after)) :
    Typed types after := by
  obtain ⟨⟨ok, u, heap⟩, called, done⟩ := bind_eq_ok done
  have kept : Typed types (u, heap) :=
    (keeps_mobsIterate typed_unmarshalPointerIndexes _).keep work _ same called
  dsimp only at done
  split at done
  · split at done
    · cases done
    · exact (Prod.mk.inj (Except.ok.inj done)).2 ▸ ⟨kept.list, kept.shared⟩
  · exact (Prod.mk.inj (Except.ok.inj done)).2 ▸ kept

theorem typed_registerShared (same : Typed types work)
    (done : registerShared depth work = .ok after) : Typed types after := by
  rw [registerShared] at done
  split at done
  · exact (keeps_mobsIterate (fun _ => typed_registerSharedMembers) _).asserted same done
  · exact Except.ok.inj done ▸ same

theorem typed_unmarshal {root : Option Root} (same : Typed types work)
    (done : unmarshal zpmalloc depth work = .ok (root, after)) : Typed types after := by
  obtain ⟨u, heap⟩ := work
  obtain ⟨_, _, done⟩ := bind_eq_ok done
  split at done
  · obtain ⟨⟨ok, values⟩, called, done⟩ := bind_eq_ok done
    have kept := (typed_unmarshalValues _).keep _ _ same called
    cases ok with
    | true =>
      obtain ⟨⟨shared, heap⟩, registered, done⟩ := bind_eq_ok done
      have kept' := typed_registerShared kept registered
      have begun : Typed types ({ shared with state := .unmarshalPointerIndexes }, heap) := kept'
      exact typed_pointerIndexesPhase begun done
    | false => exact (Prod.mk.inj (Except.ok.inj done)).2 ▸ kept
  · exact typed_pointerIndexesPhase same done

theorem Reached.typed (reached : Reached zpmalloc depth types work) : Typed types work := by
  induction reached with
  | init heap => exact sameTypes_baseInit types
  | @call work work' request reply reached called same =>
    obtain ⟨u, heap⟩ := work
    cases request with
    | setBuffer buf data => exact (Prod.mk.inj (Except.ok.inj called)).2 ▸ same
    | clearStore =>
      exact (Prod.mk.inj (Except.ok.inj called)).2 ▸ ⟨same.list, same.shared⟩
    | unmarshal memory =>
      obtain ⟨⟨root, after⟩, done, called⟩ := bind_eq_ok called
      have given : Typed types (u, { heap with memory := memory }) := same
      exact (Prod.mk.inj (Except.ok.inj called)).2 ▸ typed_unmarshal given done
    | consumed => exact (Prod.mk.inj (Except.ok.inj called)).2 ▸ same

end Types

section Main

variable {types : TypeDescList} {zpmalloc depth} {u : Context}

theorem clearsToNew_of_idle (same : SameTypes types u.base) (idle : u.state = .unmarshalValues) :
    ClearsToNew zpmalloc depth types u := by
  intro heap buf data calls
  have new : setBuffer buf data (clearStore u) = setBuffer buf data (init types) := by
    rw [setBuffer, setBuffer, clearStore, init, baseClearStore, same.baseMobsInit, idle]
    rfl
  rw [new]

theorem not_clearsToNew (same : SameTypes types u.base)
    (begun : u.state ≠ .unmarshalValues) : ¬ ClearsToNew zpmalloc depth types u := by
  intro new
  have unmarshalled := new ⟨fun _ => 0, 0⟩ (fun _ => 0) 0 [.unmarshal fun _ => 0]
  have state : u.state = .unmarshalPointerIndexes := by
    cases phase : u.state with
    | unmarshalValues => exact absurd phase begun
    | unmarshalPointerIndexes => rfl
  rw [setBuffer, clearStore, baseClearStore, same.baseMobsInit, state] at unmarshalled
  change [Except.error Fault.assertion] = [Except.ok (Reply.returned none fun _ => 0)]
    at unmarshalled
  cases unmarshalled

end Main

end Unmarshaller

section ClearStore

variable {types : TypeDescList} {zpmalloc : Nat → Nat → Nat} {depth : Nat}

def byteType : TypeDescList where
  elements := 1
  descriptor _ := ⟨[], none, 1, false, false, .array⟩
  dynamic _ := ⟨none, none⟩

def abandoned : Marshaller.Context :=
  { Marshaller.init byteType with
    base := { baseInit byteType with objectSet := [⟨0, marshalTypesMax, 0⟩, ⟨16, 0, 0⟩] }
    state := .marshalValues }

end ClearStore

end HeadsetAdk.Marshal
