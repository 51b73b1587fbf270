import HeadsetAdk.Marshal.Traverse

/-! # Arrays of tagged unions -/

namespace HeadsetAdk.Marshal

def TypeDescList.withTagged (types : TypeDescList) (parent : UInt8) (tagged : MemberCallback) :
    TypeDescList :=
  { types with
    dynamic := fun type =>
      if type = parent then { types.dynamic type with taggedUnionMember := some tagged }
      else types.dynamic type }

section Expected

variable {State : Type} (types : TypeDescList) (callbacks : TraverseCallbacks State)
  (descend : Mob → TypeDescriptor → Visit State) (parent : Mob) (address size : Nat)

def visitActives (active : Nat → MemberDescriptor) : Nat → Nat → Visit State
  | 0, _, state => .ok (true, state)
  | count + 1, element, state =>
      andThen
        (visitElement callbacks descend parent (active element)
          (types.descriptor (active element).type) (address + element * size) state)
        (visitActives active count (element + 1))

end Expected

section Arrays

variable (types : TypeDescList) (parent : Mob) (parentType : TypeDescriptor) (member : Nat)
  (descriptor : MemberDescriptor)

abbrev elementType : TypeDescriptor := types.descriptor descriptor.type

variable (active : Nat → Fin (elementType types descriptor).members.length)

def activeMember (element : Nat) : MemberDescriptor :=
  (elementType types descriptor).members.get (active element)

def UnionArrayTraversed : Prop :=
  ∀ (State : Type) (memory : State → Memory) (tagged : MemberCallback), (∀ state element,
      element < (cachedDescriptor parent parentType member descriptor).arrayElements.toNat →
      tagged (memory state) parent.address
        (cachedDescriptor parent parentType member descriptor) element = active element) →
    ∀ (callbacks : TraverseCallbacks State) (descend : Mob → TypeDescriptor → Visit State)
      (state : State),
      traverseMember (types.withTagged parent.type tagged) memory callbacks descend parent
          parentType member descriptor state =
        visitActives types callbacks descend parent (parent.address + descriptor.offset.toNat)
          (elementType types descriptor).size.toNat (activeMember types descriptor active)
          (cachedDescriptor parent parentType member descriptor).arrayElements.toNat 0 state

end Arrays

section Loop

variable {types : TypeDescList} {parent : Mob} {parentType : TypeDescriptor} {member : Nat}
  {descriptor : MemberDescriptor} {tagged : MemberCallback} {State : Type}
  {memory : State → Memory} {callbacks : TraverseCallbacks State}
  {descend : Mob → TypeDescriptor → Visit State} {state : State}

theorem traverseMember_union (inlined : descriptor.isPointer = false)
    (union : (elementType types descriptor).isUnion = true) :
    traverseMember (types.withTagged parent.type tagged) memory callbacks descend parent parentType
        member descriptor state =
      elementLoop (types.withTagged parent.type tagged) memory callbacks descend parent true false
        (elementType types descriptor).size.toNat 256 0
        (cachedDescriptor parent parentType member descriptor) (elementType types descriptor)
        (parent.address + descriptor.offset.toNat) state := by
  obtain ⟨elements, fields⟩ := @cachedDescriptor_fields parent parentType member descriptor
  have union' : ((types.withTagged parent.type tagged).descriptor descriptor.type).isUnion = true :=
    union
  rw [traverseMember, fields]
  simp only [cachedBlob, union', inlined, Bool.not_true, Bool.and_false, Bool.false_and,
    Bool.false_eq_true, if_false]
  rfl

variable {type : TypeDescriptor} {element : Nat}

theorem updateMemberForUnion_withTagged {memory : Memory} {member : MemberDescriptor} :
    updateMemberForUnion (types.withTagged parent.type tagged) memory parent member type element =
      match type.members[tagged memory parent.address member element]? with
      | none => .error .assertion
      | some tagged => .ok (tagged, types.descriptor tagged.type) := by
  simp only [updateMemberForUnion, TypeDescList.withTagged, if_true, askCallback, bind, Except.bind,
    pure, Except.pure] <;> rfl

theorem elementLoop_done {isUnion isPointer : Bool} {size address : Nat}
    (reached : descriptor.arrayElements.toNat ≤ element) (count : Nat) :
    elementLoop types memory callbacks descend parent isUnion isPointer size count element
      descriptor type address state = .ok (true, state) := by
  cases count with
  | zero => rfl
  | succ count => rw [elementLoop, if_neg (Nat.not_lt.mpr reached)]

section Union

variable {size element address count : Nat} {type : TypeDescriptor}

theorem elementLoop_tagged {active : MemberDescriptor}
    (inside : element < descriptor.arrayElements.toNat)
    (found : type.members[tagged (memory state) parent.address descriptor element]? = some active) :
    elementLoop (types.withTagged parent.type tagged) memory callbacks descend parent true false
        size (count + 1) element descriptor type address state =
      andThen (visitElement callbacks descend parent active (types.descriptor active.type) address
          state)
        (elementLoop (types.withTagged parent.type tagged) memory callbacks descend parent true
          false size count (element + 1) active (types.descriptor active.type)
          (address + size)) := by
  rw [elementLoop, if_pos inside, updateMemberForUnion_withTagged, found]
  rfl

theorem elementLoop_untagged (inside : element < descriptor.arrayElements.toNat)
    (missing : type.members[tagged (memory state) parent.address descriptor element]? = none) :
    elementLoop (types.withTagged parent.type tagged) memory callbacks descend parent true false
        size (count + 1) element descriptor type address state = .error .assertion := by
  rw [elementLoop, if_pos inside, updateMemberForUnion_withTagged, missing]
  rfl

end Union

end Loop

def counting : TraverseCallbacks Nat where
  leafMember := some fun _ _ visits => .ok (true, visits + 1)
  pointerMember := some fun _ _ _ visits => .ok (true, visits + 1)

/-- The traversal of a member's own members as one visit -/
def countDescent (_ : Mob) (_ : TypeDescriptor) : Visit Nat := fun visits =>
  .ok (true, visits + 1)

theorem visitElement_counting (parent : Mob) (descriptor : MemberDescriptor)
    (type : TypeDescriptor) (address visits : Nat) :
    visitElement counting countDescent parent descriptor type address visits =
      .ok (true, visits + 1) := by
  rw [visitElement, traverseCallback]
  cases descriptor.isPointer with
  | true => rfl
  | false =>
    cases type.members with
    | nil => rfl
    | cons member members => rfl

theorem visitActives_counting (types : TypeDescList) (parent : Mob) (address size : Nat)
    (active : Nat → MemberDescriptor) (count : Nat) : ∀ element visits,
    visitActives types counting countDescent parent address size active count element visits =
      .ok (true, visits + count) := by
  induction count with
  | zero => exact fun _ _ => rfl
  | succ count ih =>
    intro element visits
    rw [visitActives, visitElement_counting]
    rw [andThen_true, ih, Nat.add_assoc, Nat.add_comm 1 count]

section Main

variable {types : TypeDescList} {parent : Mob} {parentType : TypeDescriptor} {member : Nat}
  {descriptor : MemberDescriptor}
  {active : Nat → Fin (elementType types descriptor).members.length}

def answering (types : TypeDescList) (union : MemberDescriptor) (active : Nat → Nat) :
    MemberCallback := fun _ _ member element =>
  if member = union then active element else (types.descriptor member.type).members.length

theorem activeMember_found {index element : Nat} (same : index = active element) :
    (elementType types descriptor).members[index]? =
      some (activeMember types descriptor active element) := by
  rw [same]
  exact List.getElem?_eq_getElem _

section

variable (inlined : descriptor.isPointer = false)
  (union : (elementType types descriptor).isUnion = true)

include inlined union

theorem unionArrayTraversed_of
    (few : (cachedDescriptor parent parentType member descriptor).arrayElements.toNat = 0 ∨
      (cachedDescriptor parent parentType member descriptor).arrayElements.toNat = 1 ∧
        (activeMember types descriptor active 0).arrayElements.toNat ≤ 1) :
    UnionArrayTraversed types parent parentType member descriptor active := by
  intro State memory tagged answers callbacks descend state
  rw [traverseMember_union inlined union]
  rcases few with none | ⟨one, single⟩
  · rw [none]
    exact elementLoop_done (Nat.le_of_eq none) 256
  · have inside :
        0 < (cachedDescriptor parent parentType member descriptor).arrayElements.toNat := by
      rw [one]
      exact Nat.one_pos
    rw [one, visitActives, Nat.zero_mul, Nat.add_zero,
      elementLoop_tagged inside (activeMember_found (answers state 0 inside))]
    refine congrArg (andThen _) (funext fun state => ?_)
    exact elementLoop_done single 255

theorem not_unionArrayTraversed (flat : ∀ inner ∈ (elementType types descriptor).members,
      inner.type = descriptor.type → inner.isPointer = true)
    (many : 2 ≤ (cachedDescriptor parent parentType member descriptor).arrayElements.toNat ∨
      (cachedDescriptor parent parentType member descriptor).arrayElements.toNat = 1 ∧
        2 ≤ (activeMember types descriptor active 0).arrayElements.toNat) :
    ¬ UnionArrayTraversed types parent parentType member descriptor active := by
  intro traversed
  obtain ⟨elements, fields⟩ := @cachedDescriptor_fields parent parentType member descriptor
  have inside : 0 < (cachedDescriptor parent parentType member descriptor).arrayElements.toNat := by
    omega
  have counted := traversed Nat (fun _ _ => 0)
    (answering types (cachedDescriptor parent parentType member descriptor) fun element =>
      active element)
    (fun _ element _ => if_pos rfl) counting countDescent 0
  have other : activeMember types descriptor active 0 ≠
      cachedDescriptor parent parentType member descriptor := by
    intro same
    have within : activeMember types descriptor active 0 ∈
        (elementType types descriptor).members := List.get_mem _ _
    have pointer := flat _ within (by rw [same, fields])
    rw [same, fields] at pointer
    exact Bool.noConfusion (inlined.symm.trans pointer)
  rw [traverseMember_union inlined union,
    elementLoop_tagged inside (activeMember_found (if_pos rfl)), visitElement_counting,
    visitActives_counting, andThen_true] at counted
  by_cases again : 2 ≤ (activeMember types descriptor active 0).arrayElements.toNat
  · have missing : (types.descriptor (activeMember types descriptor active 0).type).members[
        answering types (cachedDescriptor parent parentType member descriptor)
          (fun element => active element) (fun _ => 0) parent.address
          (activeMember types descriptor active 0) (0 + 1)]? = none := by
      rw [answering, if_neg other]
      exact List.getElem?_eq_none (Nat.le_refl _)
    rw [elementLoop_untagged again missing] at counted
    cases counted
  · rw [elementLoop_done (by omega)] at counted
    have visits := congrArg Prod.snd (Except.ok.inj counted)
    dsimp only at visits
    omega

end

/-- An array of tagged unions is traversed completely, whatever the callbacks, exactly if it is
empty or has one element, whose tagged member is not an array of several. -/
theorem unionArrayTraversed_iff (inlined : descriptor.isPointer = false)
    (union : (elementType types descriptor).isUnion = true)
    (flat : ∀ inner ∈ (elementType types descriptor).members,
      inner.type = descriptor.type → inner.isPointer = true) :
    UnionArrayTraversed types parent parentType member descriptor active ↔
      (cachedDescriptor parent parentType member descriptor).arrayElements.toNat = 0 ∨
        (cachedDescriptor parent parentType member descriptor).arrayElements.toNat = 1 ∧
          (activeMember types descriptor active 0).arrayElements.toNat ≤ 1 := by
  refine ⟨fun traversed => ?_, unionArrayTraversed_of inlined union⟩
  by_contra many
  exact not_unionArrayTraversed inlined union flat (by omega) traversed

def byteOrUnion : TypeDescList where
  elements := 2
  descriptor type :=
    if type = 0 then ⟨[], none, 1, false, false, .array⟩
    else ⟨[⟨0, 0, 1, false, false⟩], none, 1, true, false, .array⟩
  dynamic _ := ⟨none, none⟩

def unions (elements : UInt8) : MemberDescriptor := ⟨0, 1, elements, false, false⟩

theorem one_union_traversed :
    UnionArrayTraversed byteOrUnion ⟨16, 2, 0⟩ ⟨[unions 1], none, 1, false, false, .array⟩ 0
      (unions 1) (fun _ => ⟨0, by decide⟩) :=
  (unionArrayTraversed_iff rfl rfl (by decide)).mpr (.inr ⟨rfl, by decide⟩)

/-- Of two unions, the second is not visited. -/
theorem second_union_missed :
    ¬ UnionArrayTraversed byteOrUnion ⟨16, 2, 0⟩
      ⟨[unions 2], none, 2, false, false, .array⟩ 0 (unions 2) (fun _ => ⟨0, by decide⟩) :=
  not_unionArrayTraversed rfl rfl (by decide) (.inl (by decide))

end Main

end HeadsetAdk.Marshal
