import HeadsetAdk.Lib.Outcomes
import HeadsetAdk.Marshal.Traverse

/-! # What a traversal keeps -/

namespace HeadsetAdk.Marshal

section Keeping

variable {State : Type} {inv : State → Prop}

structure Keeps (inv : State → Prop) (visit : Visit State) : Prop where
  keep : ∀ state result, inv state → visit state = .ok result → inv result.2

theorem keeps_return (ok : Bool) : Keeps inv fun state => .ok (ok, state) where
  keep _ _ holds done := Except.ok.inj done ▸ holds

theorem keeps_error (fault : Fault) : Keeps inv fun _ => .error fault where
  keep _ _ _ done := by cases done

theorem Keeps.andThen {first second : Visit State} (keepsFirst : Keeps inv first)
    (keepsSecond : Keeps inv second) :
    Keeps inv fun state => andThen (first state) second where
  keep state result holds done := by
    obtain ⟨⟨went, middle⟩, called, done⟩ := bind_eq_ok done
    have kept := keepsFirst.keep state _ holds called
    cases went with
    | true => exact keepsSecond.keep middle result kept done
    | false => exact Except.ok.inj done ▸ kept

section

variable {set : State → Mobs} {cb : Nat → Mob → Visit State}
  (keeps : ∀ index object, Keeps inv (cb index object))

include keeps

theorem keeps_mobsIterateLoop (count : Nat) : ∀ start,
    Keeps inv (mobsIterateLoop set cb count start) := by
  induction count with
  | zero => exact fun _ => keeps_return true
  | succ count ih =>
    refine fun start => ⟨fun state result holds done => ?_⟩
    rw [mobsIterateLoop] at done
    split at done
    · exact (keeps_return true).keep state result holds done
    · exact ((keeps start _).andThen (ih (start + 1))).keep state result holds done

theorem keeps_mobsIterate (start : Nat) : Keeps inv (mobsIterate set start cb) :=
  keeps_mobsIterateLoop keeps _ start

end

theorem Keeps.asserted {visit : Visit State} (keeps : Keeps inv visit) {state after : State}
    (holds : inv state) (done : asserted (visit state) = .ok after) : inv after := by
  obtain ⟨⟨ok, middle⟩, called, done⟩ := bind_eq_ok done
  obtain ⟨_, _, done⟩ := bind_eq_ok done
  exact Except.ok.inj done ▸ keeps.keep state _ holds called

variable {types : TypeDescList} {memory : State → Memory} {callbacks : TraverseCallbacks State}

structure KeepingCallbacks (inv : State → Prop) (callbacks : TraverseCallbacks State) : Prop where
  leaf : ∀ leaf, callbacks.leafMember = some leaf → ∀ address type, Keeps inv (leaf address type)
  pointer : ∀ pointer, callbacks.pointerMember = some pointer → ∀ address member parent,
    Keeps inv (pointer address member parent)
  shared : ∀ shared, callbacks.sharedMember = some shared → ∀ address member,
    Keeps inv (shared address member)

theorem keepingCallbacks_pointer {pointer : Nat → MemberDescriptor → Mob → Visit State}
    (keeps : ∀ address member parent, Keeps inv (pointer address member parent)) :
    KeepingCallbacks inv { pointerMember := some pointer } where
  leaf _ found := by cases found
  pointer _ found := Option.some.inj found ▸ keeps
  shared _ found := by cases found

theorem keepingCallbacks_leaf {leaf : Nat → TypeDescriptor → Visit State}
    (keeps : ∀ address type, Keeps inv (leaf address type)) :
    KeepingCallbacks inv { leafMember := some leaf } where
  leaf _ found := Option.some.inj found ▸ keeps
  pointer _ found := by cases found
  shared _ found := by cases found

theorem keepingCallbacks_shared {shared : Nat → MemberDescriptor → Visit State}
    (keeps : ∀ address member, Keeps inv (shared address member)) :
    KeepingCallbacks inv { sharedMember := some shared } where
  leaf _ found := by cases found
  pointer _ found := by cases found
  shared _ found := Option.some.inj found ▸ keeps

section Traversal

variable (keeping : KeepingCallbacks inv callbacks)

include keeping

theorem keeps_traverseCallback (descriptor : MemberDescriptor) (type : TypeDescriptor)
    (address : Nat) (parent : Mob) :
    Keeps inv (traverseCallback callbacks descriptor type address parent) where
  keep state result holds done := by
    rw [traverseCallback] at done
    split at done
    · split at done
      next leaf found =>
        split at done
        · exact (keeping.leaf leaf found address type).keep state result holds done
        · exact (keeps_return true).keep state result holds done
      next =>
        split at done
        next shared found =>
          split at done
          · exact (keeping.shared shared found address descriptor).keep state result holds done
          · exact (keeps_return true).keep state result holds done
        next => exact (keeps_return true).keep state result holds done
    · split at done
      next pointer found =>
        exact (keeping.pointer pointer found address descriptor parent).keep state result holds done
      next => exact (keeps_return true).keep state result holds done

variable {descend : Mob → TypeDescriptor → Visit State}
  (keepsDescend : ∀ object type, Keeps inv (descend object type))

include keepsDescend

theorem keeps_visitElement (parent : Mob) (descriptor : MemberDescriptor) (type : TypeDescriptor)
    (address : Nat) :
    Keeps inv (visitElement callbacks descend parent descriptor type address) := by
  refine (keeps_traverseCallback keeping descriptor type address parent).andThen ?_
  split
  · exact keepsDescend _ _
  · exact keeps_return true

theorem keeps_elementLoop (parent : Mob) (isUnion isPointer : Bool) (size count : Nat) :
    ∀ element descriptor type address,
      Keeps inv (elementLoop types memory callbacks descend parent isUnion isPointer size count
        element descriptor type address) := by
  induction count with
  | zero => exact fun _ _ _ _ => keeps_return true
  | succ count ih =>
    refine fun element descriptor type address => ⟨fun state result holds done => ?_⟩
    have next (descriptor : MemberDescriptor) (type : TypeDescriptor) (step : Nat) :=
      (keeps_visitElement keeping keepsDescend parent descriptor type address).andThen
        (ih (element + 1) descriptor type (address + step))
    rw [elementLoop] at done
    split at done
    case isFalse => exact (keeps_return true).keep state result holds done
    case isTrue =>
      dsimp only at done
      split at done
      · obtain ⟨found, _, done⟩ := bind_eq_ok done
        exact (next _ _ _).keep state result holds done
      · exact (next _ _ _).keep state result holds done

theorem keeps_memberLoop (parent : Mob) (parentType : TypeDescriptor)
    (members : List MemberDescriptor) : ∀ member,
    Keeps inv (memberLoop types memory callbacks descend parent parentType member members) := by
  induction members with
  | nil => exact fun _ => keeps_return true
  | cons descriptor members ih =>
    intro member
    have keepsMember : Keeps inv (traverseMember types memory callbacks descend parent parentType
        member descriptor) :=
      ⟨(keeps_elementLoop keeping keepsDescend _ _ _ _ _ _ _ _ _).keep⟩
    exact keepsMember.andThen (ih (member + 1))

omit keepsDescend

theorem keeps_objectTreeTraverseImpl (depth : Nat) : ∀ object type,
    Keeps inv (objectTreeTraverseImpl types memory callbacks depth object type) := by
  induction depth with
  | zero => exact fun _ _ => keeps_error .nesting
  | succ depth ih => exact fun object type => keeps_memberLoop keeping ih object type _ 0

theorem keeps_objectTreeTraverse (depth : Nat) (object : Mob) :
    Keeps inv (objectTreeTraverse types memory callbacks depth object) where
  keep state result holds done := by
    rw [objectTreeTraverse] at done
    split at done
    · split at done
      next leaf found => exact (keeping.leaf leaf found _ _).keep state result holds done
      next => exact (keeps_return true).keep state result holds done
    · exact (keeps_objectTreeTraverseImpl keeping depth object _).keep state result holds done

end Traversal

end Keeping

end HeadsetAdk.Marshal
