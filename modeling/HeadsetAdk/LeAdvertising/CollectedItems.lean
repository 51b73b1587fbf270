import HeadsetAdk.LeAdvertising.LaidOut

/-!
# The first walk through the clients

The first walk collects UUIDs and local names.  The first local name stays, and a different one
panics.
-/

namespace HeadsetAdk.LeAdvertising

open Option (bind_eq_some_iff map_eq_some_iff some.inj)

inductive UuidSize
  | uuid16
  | uuid32
  | uuid128
deriving DecidableEq

namespace UuidSize

def octets : UuidSize → Nat
  | uuid16 => 2
  | uuid32 => 4
  | uuid128 => 16

def type : UuidSize → UInt8
  | uuid16 => AdType.completeUuid16
  | uuid32 => AdType.completeUuid32
  | uuid128 => AdType.completeUuid128

def listOf (lists : UuidLists) : UuidSize → UuidList
  | uuid16 => lists.uuid16List
  | uuid32 => lists.uuid32List
  | uuid128 => lists.uuid128List

theorem reset (size : UuidSize) (lists : UuidLists) :
    UuidList.Reset (size.listOf lists.uuidReset) size.octets := by
  cases size <;> exact ⟨rfl, rfl, rfl⟩

theorem type_injective {size size' : UuidSize} (same : size.type = size'.type) : size = size' := by
  revert same
  cases size <;> cases size' <;> decide

theorem type_ne_localName (size : UuidSize) : size.type ≠ AdType.completeLocalName := by
  cases size <;> decide

theorem octets_mem (size : UuidSize) : size.octets ∈ [2, 4, 16] := by
  cases size <;> decide

end UuidSize

namespace Piece

def isLocalName (piece : Piece) : Bool := piece.hasType AdType.completeLocalName

end Piece

namespace UuidList

def Offer.piece (offer : Offer) : Piece := ⟨offer.item, offer.params⟩

section Parameters

variable {start list list' : UuidList} {offers : List Offer} {offer : Offer}
  {params : DataParams}

structure Has (list : UuidList) (params : DataParams) : Prop where
  data : list.data.isSome
  params : list.params = params

theorem Has.grows (has : list.Has params) (grows : Grows list list') : list'.Has params :=
  ⟨grows.data has.data, grows.params.trans has.params⟩

theorem Has.updateListPlacement (has : list.Has params) {wanted : DataParams}
    (updated : list.updateListPlacement wanted = some list') :
    ∃ placement, list'.Has { params with placement := placement } ∧
      (placement = params.placement ∨ params.placement = .dontCare) ∧
      (wanted.placement = placement ∨ wanted.placement = .dontCare) := by
  rw [UuidList.updateListPlacement] at updated
  split at updated
  · next same =>
    rw [has.params] at same
    exact ⟨params.placement, some.inj updated ▸ has, .inl rfl, .inl same⟩
  · split at updated
    · next free => exact ⟨params.placement, some.inj updated ▸ has, .inl rfl, .inr free⟩
    · split at updated
      · next free =>
        rw [has.params] at free
        cases updated
        refine ⟨wanted.placement, ⟨has.data, ?_⟩, .inr free, .inl rfl⟩
        rw [has.params]
      · contradiction

structure Wanted (start : UuidList) (offers : List Offer) (list : UuidList) : Prop where
  untouched : (∀ offer ∈ offers, ¬ offer.piece.Mandatory) → list = start
  started : (∃ offer ∈ offers, offer.piece.Mandatory) →
    ∃ placement, ∃ first ∈ offers, first.piece.Mandatory ∧
      list.Has { first.params with placement := placement } ∧
      ∀ offer ∈ offers, offer.piece.Mandatory →
        offer.params.placement = placement ∨ offer.params.placement = .dontCare

theorem Wanted.skip (wanted : Wanted start offers list) (empty : start.data = none)
    (skipped : ¬ offer.piece.Mandatory) (added : list.addItemToList offer = some list') :
    Wanted start (offers ++ [offer]) list' := by
  have kind : offer.params.completeness = .canBeSkipped := not_not.mp skipped
  rw [addItemToList, if_pos kind] at added
  by_cases other : ∃ offer ∈ offers, offer.piece.Mandatory
  · obtain ⟨placement, first, member, mandatory, has, same⟩ := wanted.started other
    rw [if_pos has.data] at added
    refine ⟨fun all => ?_, fun _ => ⟨placement, first, List.mem_append_left [offer] member,
      mandatory, has.grows (grows_setListShortened added), fun later here kind => ?_⟩⟩
    · exact absurd mandatory (all first (List.mem_append_left [offer] member))
    · cases List.mem_append.mp here with
      | inl here => exact same later here kind
      | inr here => exact absurd (List.mem_singleton.mp here ▸ kind) skipped
  · obtain rfl := wanted.untouched fun earlier member kind => other ⟨earlier, member, kind⟩
    rw [empty, if_neg (by exact Bool.false_ne_true)] at added
    refine ⟨fun _ => (some.inj added).symm, fun some' => ?_⟩
    obtain ⟨later, here, kind⟩ := some'
    cases List.mem_append.mp here with
    | inl here => exact absurd ⟨later, here, kind⟩ other
    | inr here => exact absurd (List.mem_singleton.mp here ▸ kind) skipped

theorem Wanted.take (wanted : Wanted start offers list) (empty : start.data = none)
    (mandatory : offer.piece.Mandatory) (added : list.addItemToList offer = some list') :
    Wanted start (offers ++ [offer]) list' := by
  have kind : offer.params.completeness ≠ .canBeSkipped := mandatory
  rw [addItemToList, if_neg kind] at added
  obtain ⟨begun, starts, later⟩ := bind_eq_some_iff.mp added
  obtain ⟨moved, moves, adds⟩ := bind_eq_some_iff.mp later
  clear later added
  refine ⟨fun all => ?_, fun _ => ?_⟩
  · exact absurd mandatory (all offer (List.mem_append_right offers List.mem_cons_self))
  rw [ensureStarted] at starts
  by_cases other : ∃ offer ∈ offers, offer.piece.Mandatory
  · obtain ⟨placement, first, member, kind, has, same⟩ := wanted.started other
    rw [if_pos has.data] at starts
    cases starts
    obtain ⟨placement', has', kept, own⟩ := has.updateListPlacement moves
    refine ⟨placement', first, List.mem_append_left [offer] member, kind,
      has'.grows (grows_addUuids adds),
      fun later here kind' => ?_⟩
    cases List.mem_append.mp here with
    | inr here => exact List.mem_singleton.mp here ▸ own
    | inl here =>
      cases kept with
      | inl kept => exact kept ▸ same later here kind'
      | inr free =>
        cases same later here kind' with
        | inl agrees => exact .inr (agrees.trans free)
        | inr agrees => exact .inr agrees
  · obtain rfl := wanted.untouched fun earlier member kind => other ⟨earlier, member, kind⟩
    rw [empty, if_neg (by exact Bool.false_ne_true), startList] at starts
    obtain ⟨type, -, starts⟩ := bind_eq_some_iff.mp starts
    cases starts
    rw [UuidList.updateListPlacement, if_pos rfl] at moves
    cases moves
    have has : UuidList.Has _ offer.params := Has.grows ⟨rfl, rfl⟩ (grows_addUuids adds)
    refine ⟨offer.params.placement, offer, List.mem_append_right offers List.mem_cons_self,
      mandatory, has, fun later here kind' => ?_⟩
    cases List.mem_append.mp here with
    | inl here => exact absurd ⟨later, here, kind'⟩ other
    | inr here => exact .inl (List.mem_singleton.mp here ▸ rfl)

theorem Wanted.run (empty : start.data = none)
    (runs : offers.foldlM addItemToList start = some list) : Wanted start offers list := by
  induction offers using List.reverseRecOn generalizing list with
  | nil =>
    exact ⟨fun _ => (some.inj runs).symm, fun other => absurd other.choose_spec.1 List.not_mem_nil⟩
  | append_singleton offers offer ih =>
    obtain ⟨middle, before, added⟩ := foldlM_concat runs
    by_cases mandatory : offer.piece.Mandatory
    · exact (ih before).take empty mandatory added
    · exact (ih before).skip empty mandatory added

end Parameters

end UuidList

namespace Manager

section Collecting

variable {memory : Nat → Memory} {manager manager' : Manager} {piece : Piece}
  {pieces : List Piece} {type : UInt8} {name : LocalName}

theorem hasType_other {type' : UInt8} (shown : piece.item.type = some type) (other : type ≠ type') :
    piece.hasType type' = false := by
  rw [Piece.hasType, shown, decide_eq_false (fun same => other (some.inj same)), Bool.and_false]

theorem hasType_of_type (data : piece.item.hasData = true) (shown : piece.item.type = some type) :
    piece.hasType type = true := by
  rw [Piece.hasType, data, shown, decide_eq_true rfl]
  rfl

structure Processed (manager manager' : Manager) (piece : Piece) : Prop where
  dataIf : manager'.dataIf = manager.dataIf
  packets : manager'.packets = manager.packets
  uuids : ∃ unset allocated, ∀ size : UuidSize,
    if piece.hasType size.type then
      (size.listOf manager.lists).addItemToList ⟨piece.item, piece.params, unset, allocated⟩ =
        some (size.listOf manager'.lists)
    else size.listOf manager'.lists = size.listOf manager.lists
  localName :
    if piece.isLocalName then
      manager.localName.register piece.item piece.params = some manager'.localName
    else manager'.localName = manager.localName

theorem Processed.uuid (size : UuidSize) (found : Memory) (data : piece.item.hasData = true)
    (shown : piece.item.type = some size.type) {put : UuidList → UuidLists}
    (own : ∀ list, size.listOf (put list) = list)
    (others : ∀ list (other : UuidSize), other ≠ size →
      other.listOf (put list) = other.listOf manager.lists) {next : Nat}
    (processes : (((size.listOf manager.lists).addItemToList
      ⟨piece.item, piece.params, found.unset, found.allocated⟩).map put).map (fun lists =>
        { manager with lists := lists, processed := next }) = some manager') :
    Processed manager manager' piece := by
  obtain ⟨lists, adds, rfl⟩ := map_eq_some_iff.mp processes
  obtain ⟨list, added, rfl⟩ := map_eq_some_iff.mp adds
  refine ⟨rfl, rfl, ⟨found.unset, found.allocated, fun other => ?_⟩, ?_⟩
  · by_cases same : other = size
    · rw [same, if_pos (hasType_of_type data shown), own]
      exact added
    · rw [if_neg (by
        rw [hasType_other shown fun same' => same (UuidSize.type_injective same'.symm)]
        exact Bool.false_ne_true)]
      exact others list other same
  · rw [Piece.isLocalName, hasType_other shown size.type_ne_localName]
    rfl

theorem Processed.noUuid (others : ∀ size : UuidSize, piece.hasType size.type = false)
    (named : if piece.isLocalName then
      manager.localName.register piece.item piece.params = some name
      else name = manager.localName) :
    Processed manager { manager with localName := name } piece := by
  refine ⟨rfl, rfl, ⟨0, fun _ => true, fun size => ?_⟩, named⟩
  rw [others size]
  rfl

theorem processDataItem_processed
    (done : manager.processDataItem memory piece.item piece.params = some manager') :
    Processed manager manager' piece := by
  rw [processDataItem] at done
  by_cases data : piece.item.hasData = true
  · rw [if_pos data] at done
    obtain ⟨type, shown, processes⟩ := bind_eq_some_iff.mp done
    clear done
    dsimp only at processes
    split at processes
    · next kind =>
      refine .uuid .uuid16 (memory manager.processed) data (shown.trans (congrArg some kind))
        (fun _ => rfl) (fun _ other apart => ?_) processes
      cases other <;> first | rfl | exact absurd rfl apart
    split at processes
    · next kind =>
      refine .uuid .uuid32 (memory manager.processed) data (shown.trans (congrArg some kind))
        (fun _ => rfl) (fun _ other apart => ?_) processes
      cases other <;> first | rfl | exact absurd rfl apart
    split at processes
    · next kind =>
      refine .uuid .uuid128 (memory manager.processed) data (shown.trans (congrArg some kind))
        (fun _ => rfl) (fun _ other apart => ?_) processes
      cases other <;> first | rfl | exact absurd rfl apart
    next not16 not32 not128 =>
    have others : ∀ size : UuidSize, piece.hasType size.type = false := by
      intro size
      refine hasType_other shown ?_
      cases size with
      | uuid16 => exact not16
      | uuid32 => exact not32
      | uuid128 => exact not128
    split at processes
    · next kind =>
      obtain ⟨name, registered, rfl⟩ := map_eq_some_iff.mp processes
      refine .noUuid others ?_
      rw [Piece.isLocalName, if_pos (hasType_of_type data (kind ▸ shown))]
      exact registered
    · next other =>
      cases processes
      refine .noUuid others ?_
      rw [Piece.isLocalName, hasType_other shown other]
      rfl
  · rw [if_neg data] at done
    cases done
    have untyped : ∀ type, piece.hasType type = false := by
      intro type
      rw [Piece.hasType, Bool.eq_false_iff.mpr data, Bool.false_and]
    refine .noUuid (fun size => untyped size.type) ?_
    rw [Piece.isLocalName, untyped]
    rfl

/-- The first walk, over the items one after the other. -/
def processPieces (memory : Nat → Memory) (manager : Manager) (pieces : List Piece) :
    Option Manager :=
  pieces.foldlM (fun manager piece =>
    manager.processDataItem memory piece.item piece.params) manager

theorem processPieces_flatMap {Index : Type} (indices : List Index) (items : Index → List Piece)
    (start : Manager) :
    indices.foldlM (fun manager index => processPieces memory manager (items index)) start =
      processPieces memory start (indices.flatMap items) := by
  induction indices generalizing start with
  | nil => rfl
  | cons index indices ih =>
    rw [List.foldlM_cons, List.flatMap_cons, processPieces, processPieces, List.foldlM_append]
    exact congrArg _ (funext ih)

theorem processData_eq (clients : Database) (set : DataSet) (start : Manager) :
    processData memory clients set start = processPieces memory start (asked clients set) := by
  rw [asked, ← processPieces_flatMap]
  refine congrArg (fun round => List.foldlM round start (DataParams.allInSet set)) ?_
  funext manager params
  rw [offered, ← processPieces_flatMap]
  refine congrArg (fun round => List.foldlM round manager clients.slots) ?_
  funext manager slot
  rw [processPieces, List.foldlM_map]

/-- The state once the items were taken in. -/
structure CollectedFrom (start : Manager) (pieces : List Piece) (manager : Manager) : Prop where
  dataIf : manager.dataIf = start.dataIf
  packets : manager.packets = start.packets
  uuids : ∀ size : UuidSize, ∃ offers : List UuidList.Offer,
    offers.map UuidList.Offer.piece = pieces.filter (·.hasType size.type) ∧
    offers.foldlM UuidList.addItemToList (size.listOf start.lists) =
      some (size.listOf manager.lists)
  unnamed : pieces.find? Piece.isLocalName = none → manager.localName = start.localName
  named : ∀ first, pieces.find? Piece.isLocalName = some first →
    manager.localName = ⟨first.item, first.params⟩ ∧
    ∀ piece ∈ pieces, piece.isLocalName → piece.octets = first.octets

theorem registered_of_isLocalName (named : piece.isLocalName = true) :
    LocalName.isRegistered ⟨piece.item, piece.params⟩ = true := by
  rw [Piece.isLocalName, Piece.hasType, Bool.and_eq_true] at named
  exact named.1

theorem register_matched {name' : LocalName} {item : DataItem} {params : DataParams}
    (registered : name.isRegistered = true) (done : name.register item params = some name') :
    name' = name ∧ item.octets.getD [] = name.item.octets.getD [] := by
  rw [LocalName.register, if_pos registered] at done
  obtain ⟨matched, compared, done⟩ := bind_eq_some_iff.mp done
  split at done
  · next same =>
    refine ⟨(some.inj done).symm, ?_⟩
    rw [LocalName.dataIsMatched] at compared
    split at compared
    · rw [← some.inj compared] at same
      exact absurd same Bool.false_ne_true
    · obtain ⟨octets, read, compared⟩ := bind_eq_some_iff.mp compared
      obtain ⟨octets', read', compared⟩ := bind_eq_some_iff.mp compared
      rw [← some.inj compared] at same
      rw [read, read', of_decide_eq_true same]
  · contradiction

theorem CollectedFrom.next {start middle : Manager}
    (collected : CollectedFrom start pieces middle) (fresh : start.localName.isRegistered = false)
    (processed : Processed middle manager piece) :
    CollectedFrom start (pieces ++ [piece]) manager := by
  refine ⟨processed.dataIf.trans collected.dataIf, processed.packets.trans collected.packets,
    fun size => ?_, fun none => ?_, fun first found => ?_⟩
  · obtain ⟨offers, same, runs⟩ := collected.uuids size
    obtain ⟨unset, allocated, step⟩ := processed.uuids
    have step := step size
    by_cases typed : piece.hasType size.type = true
    · rw [if_pos typed] at step
      refine ⟨offers ++ [⟨piece.item, piece.params, unset, allocated⟩], ?_, ?_⟩
      · rw [List.map_append, List.filter_append, same, filter_singleton_true]
        · rfl
        · exact typed
      · rw [List.foldlM_append, runs]
        change List.foldlM UuidList.addItemToList _ [_] = _
        rw [List.foldlM_cons, step]
        rfl
    · rw [if_neg typed] at step
      refine ⟨offers, ?_, ?_⟩
      · rw [List.filter_append, same, filter_singleton_false, List.append_nil]
        exact typed
      · rw [runs, step]
  · rw [List.find?_append, Option.or_eq_none_iff, List.find?_cons] at none
    have named := processed.localName
    split at none
    · exact absurd none.2 nofun
    · next other =>
      rw [other] at named
      exact named.trans (collected.unnamed none.1)
  · rw [List.find?_append, Option.or_eq_some_iff] at found
    have named := processed.localName
    rcases found with found | ⟨before, found⟩
    · obtain ⟨name, same⟩ := collected.named first found
      have registered := registered_of_isLocalName (List.find?_some found)
      rw [name] at named
      by_cases local' : piece.isLocalName = true
      · rw [if_pos local'] at named
        obtain ⟨name', equal⟩ := register_matched registered named
        refine ⟨name', fun other member kind => ?_⟩
        cases List.mem_append.mp member with
        | inl member => exact same other member kind
        | inr member => exact List.mem_singleton.mp member ▸ equal
      · rw [if_neg local'] at named
        refine ⟨named, fun other member kind => ?_⟩
        cases List.mem_append.mp member with
        | inl member => exact same other member kind
        | inr member => exact absurd (List.mem_singleton.mp member ▸ kind) local'
    · have only := List.find?_eq_none.mp before
      obtain rfl := List.mem_singleton.mp (List.mem_of_find?_eq_some found)
      rw [if_pos (List.find?_some found), collected.unnamed before, LocalName.register, fresh]
        at named
      refine ⟨(some.inj named).symm, fun other member kind => ?_⟩
      cases List.mem_append.mp member with
      | inl member => exact absurd kind (only other member)
      | inr member => rw [List.mem_singleton.mp member]

theorem CollectedFrom.run {start : Manager} (fresh : start.localName.isRegistered = false)
    (done : processPieces memory start pieces = some manager) :
    CollectedFrom start pieces manager := by
  induction pieces using List.reverseRecOn generalizing manager with
  | nil =>
    cases done
    exact ⟨rfl, rfl, fun size => ⟨[], rfl, rfl⟩, fun _ => rfl, fun first found => nomatch found⟩
  | append_singleton pieces piece ih =>
    rw [processPieces, List.foldlM_append] at done
    obtain ⟨middle, before, last⟩ := bind_eq_some_iff.mp done
    rw [List.foldlM_cons] at last
    obtain ⟨after, step, same⟩ := bind_eq_some_iff.mp last
    cases same
    exact (ih before).next fresh (processDataItem_processed step)

end Collecting

end Manager

end HeadsetAdk.LeAdvertising
