import HeadsetAdk.LeAdvertising.CollectedItems

/-! # A build that succeeds -/

namespace HeadsetAdk.LeAdvertising

section Selection

variable {set : DataSet} {params : DataParams} {clients : Database} {piece : Piece}

theorem DataParams.mem_all : params ∈ DataParams.all ↔ params.dataSet ∈ DataSet.all := by
  constructor
  · have known : ∀ params ∈ DataParams.all, params.dataSet ∈ DataSet.all := by
      decide +kernel
    exact known params
  · intro known
    obtain ⟨dataSet, completeness, placement⟩ := params
    refine List.mem_flatMap.mpr ⟨completeness, ?_, List.mem_flatMap.mpr ⟨placement, ?_,
      List.mem_map.mpr ⟨dataSet, known, rfl⟩⟩⟩
    · cases completeness <;> decide
    · cases placement <;> decide

theorem DataParams.mem_allInSet : params ∈ DataParams.allInSet set ↔
    params.dataSet ∈ DataSet.all ∧ set &&& params.dataSet ≠ 0 := by
  rw [DataParams.allInSet, List.mem_filter, DataParams.mem_all, decide_eq_true_iff]

theorem DataParams.nodup_allInSet (set : DataSet) : (DataParams.allInSet set).Nodup := by
  have distinct : DataParams.all.Nodup := by
    decide +kernel
  exact distinct.filter _

theorem params_of_offered (member : piece ∈ offered clients params) : piece.params = params := by
  obtain ⟨slot, -, member⟩ := List.mem_flatMap.mp member
  obtain ⟨item, -, rfl⟩ := List.mem_map.mp member
  rfl

theorem params_of_asked (member : piece ∈ asked clients set) :
    piece.params ∈ DataParams.allInSet set := by
  obtain ⟨params, selected, member⟩ := List.mem_flatMap.mp member
  exact params_of_offered member ▸ selected

theorem asked_ordered (clients : Database) (set : DataSet) :
    (asked clients set).Pairwise fun earlier later =>
      later.Mandatory → earlier.Mandatory := by
  have ordered : (DataParams.allInSet set).Pairwise fun earlier later : DataParams =>
      later.completeness ≠ .canBeSkipped → earlier.completeness ≠ .canBeSkipped := by
    refine List.Pairwise.filter _ ?_
    decide +kernel
  refine List.pairwise_flatMap.mpr ⟨fun params _ => ?_, ordered.imp ?_⟩
  · refine List.pairwise_iff_getElem.mpr fun index index' inside inside' _ mandatory => ?_
    have here := params_of_offered (List.getElem_mem inside)
    have there := params_of_offered (List.getElem_mem inside')
    rw [Piece.Mandatory, there] at mandatory
    rw [Piece.Mandatory, here]
    exact mandatory
  · intro params params' before piece member piece' member' mandatory
    rw [Piece.Mandatory, params_of_offered member'] at mandatory
    rw [Piece.Mandatory, params_of_offered member]
    exact before mandatory

theorem flatMap_once {Index Item : Type} [DecidableEq Index] {indices : List Index}
    {items : Index → List Item} (key : Index) (distinct : indices.Nodup)
    (only : ∀ index, index ≠ key → items index = []) :
    indices.flatMap items = if key ∈ indices then items key else [] := by
  induction indices with
  | nil => rfl
  | cons index indices ih =>
    obtain ⟨fresh, distinct⟩ := List.nodup_cons.mp distinct
    rw [List.flatMap_cons, ih distinct]
    by_cases same : index = key
    · rw [← same, if_neg fresh, if_pos List.mem_cons_self, List.append_nil]
    · rw [only index same, List.nil_append]
      refine if_congr ?_ rfl rfl
      rw [List.mem_cons]
      exact (or_iff_right fun same' => same same'.symm).symm

end Selection

structure NamedOnce (pieces : List Piece) (name : Option Piece) : Prop where
  first : name = pieces.find? Piece.isLocalName
  same : ∀ piece ∈ pieces, piece.isLocalName → ∃ put, name = some put ∧
    piece.octets = put.octets ∧ (piece.Mandatory → put.Mandatory)

structure MergedOnce (size : UuidSize) (pieces : List Piece) (merged : Option Piece) : Prop where
  put : ∀ piece ∈ pieces, piece.hasType size.type → piece.Mandatory →
    ∃ list, merged = some list ∧ list.Mandatory ∧
      (piece.params.placement = list.params.placement ∨ piece.params.placement = .dontCare)
  skipped : (∀ piece ∈ pieces, piece.hasType size.type → ¬ piece.Mandatory) →
    ∀ list, merged = some list → list.octets = []
  uuids : ∃ offers : List UuidList.Offer,
    offers.map UuidList.Offer.piece = pieces.filter (·.hasType size.type) ∧
    (∀ offer ∈ offers, offer.params.completeness = .full →
      ∀ uuid, (uuid, true) ∈ offer.uuids size.octets →
        uuid ∈ UuidList.collected size.octets offers) ∧
    ((∀ offer ∈ offers, offer.WellFormed size.octets) →
      adDataHeaderSize + size.octets * (UuidList.collected size.octets offers).length < 256 →
      ∀ list, merged = some list → list.octets ≠ [] →
        ∃ length type, list.octets =
          length :: type :: (UuidList.collected size.octets offers).flatten)

def piecesPut (clients : Database) (set : DataSet) (name : Option Piece)
    (merged : UuidSize → Option Piece) : List Piece :=
  (asked clients set).filter Piece.isOrdinary ++ (name.toList ++
    ((merged .uuid16).toList ++ (merged .uuid32).toList ++ (merged .uuid128).toList))

def BuiltFrom (clients : Database) (set : DataSet) (start finish : PacketType → List UInt8) :
    Prop :=
  ∃ (name : Option Piece) (merged : UuidSize → Option Piece), NamedOnce (asked clients set) name ∧
    (∀ size, MergedOnce size (asked clients set) (merged size)) ∧
    (∀ piece ∈ piecesPut clients set name merged, piece.params ∈ DataParams.allInSet set) ∧
    LaysOut (piecesPut clients set name merged) start finish

namespace Manager

section Built

variable {memory : Nat → Memory} {clients : Database} {set : DataSet}
  {start collected manager manager' : Manager} {interface : Interface}

def mergedPiece (set : DataSet) (list : UuidList) : Option Piece :=
  if list.params ∈ DataParams.allInSet set then
    some ⟨⟨list.size.toNat, list.data⟩, list.params⟩
  else none

theorem params_of_mergedPiece {list : UuidList} {piece : Piece}
    (merged : mergedPiece set list = some piece) : piece.params ∈ DataParams.allInSet set := by
  rw [mergedPiece] at merged
  split at merged
  · exact Option.some.inj merged ▸ ‹_›
  · contradiction

theorem flatMap_getListAsItem (set : DataSet) (list : UuidList) :
    ((DataParams.allInSet set).flatMap fun params =>
      Piece.ofCollected (list.getListAsItem params) params) = (mergedPiece set list).toList := by
  rw [flatMap_once list.params (DataParams.nodup_allInSet set)]
  · rw [mergedPiece]
    split
    · rw [UuidList.getListAsItem, if_pos rfl]
      rfl
    · rfl
  · intro params other
    rw [UuidList.getListAsItem, if_neg fun same => other same.symm]
    rfl

section

variable (collects : CollectedFrom start (asked clients set) collected)

include collects

theorem CollectedFrom.flatMap_localName (fresh : start.localName.isRegistered = false) :
    ((DataParams.allInSet set).flatMap fun params =>
      Piece.ofCollected (collected.localName.get params) params) =
      ((asked clients set).find? Piece.isLocalName).toList := by
  cases found : (asked clients set).find? Piece.isLocalName with
  | none =>
    rw [collects.unnamed found, List.flatMap_eq_nil_iff.mpr fun params _ => ?_]
    · rfl
    · rw [LocalName.get, fresh]
      rfl
  | some first =>
    have named := (collects.named first found).1
    have registered := registered_of_isLocalName (List.find?_some found)
    have selected := params_of_asked (List.mem_of_find?_eq_some found)
    rw [named, flatMap_once first.params (DataParams.nodup_allInSet set),
      if_pos selected, LocalName.get, registered, decide_eq_true rfl]
    · rfl
    · intro params other
      rw [LocalName.get, decide_eq_false fun same => other same.symm, Bool.and_false]
      rfl

theorem CollectedFrom.namedOnce :
    NamedOnce (asked clients set) ((asked clients set).find? Piece.isLocalName) := by
  refine ⟨rfl, fun piece member named => ?_⟩
  cases found : (asked clients set).find? Piece.isLocalName with
  | none => exact absurd named (List.find?_eq_none.mp found piece member)
  | some first =>
    refine ⟨first, rfl, (collects.named first found).2 piece member named, fun mandatory => ?_⟩
    obtain ⟨-, before, after, split, others⟩ := List.find?_eq_some_iff_append.mp found
    have ordered := asked_ordered clients set
    rw [split] at member ordered
    cases List.mem_append.mp member with
    | inl earlier => exact absurd named (by simpa using others piece earlier)
    | inr later =>
      cases List.mem_cons.mp later with
      | inl same => exact same ▸ mandatory
      | inr later =>
        have behind := (List.pairwise_append.mp ordered).2.1
        exact (List.pairwise_cons.mp behind).1 piece later mandatory

theorem CollectedFrom.mergedOnce
    (size : UuidSize) (reset : UuidList.Reset (size.listOf start.lists) size.octets) :
    MergedOnce size (asked clients set) (mergedPiece set (size.listOf collected.lists)) := by
  obtain ⟨offers, same, runs⟩ := collects.uuids size
  have wanted := UuidList.Wanted.run reset.data runs
  have member_iff : ∀ piece, (∃ offer ∈ offers, offer.piece = piece) ↔
      piece ∈ asked clients set ∧ piece.hasType size.type = true := by
    intro piece
    rw [← List.mem_map, same, List.mem_filter]
  have empty : (∀ offer ∈ offers, ¬ offer.piece.Mandatory) →
      ∀ list, mergedPiece set (size.listOf collected.lists) = some list → list.octets = [] := by
    intro all list found
    rw [mergedPiece] at found
    split at found
    · cases found
      rw [Piece.octets, DataItem.octets, if_pos]
      · rfl
      · rw [wanted.untouched all, reset.size]
        rfl
    · contradiction
  refine ⟨fun piece member typed mandatory => ?_, fun all => empty ?_, offers, same,
    fun offer member full uuid => UuidList.mem_collected_full member full,
    fun wellFormed fits list found something => ?_⟩
  · obtain ⟨offer, offerMember, rfl⟩ := (member_iff piece).mpr ⟨member, typed⟩
    obtain ⟨placement, first, firstMember, firstMandatory, has, agree⟩ :=
      wanted.started ⟨offer, offerMember, mandatory⟩
    have selected := params_of_asked ((member_iff _).mp ⟨first, firstMember, rfl⟩).1
    have selected' : (size.listOf collected.lists).params ∈ DataParams.allInSet set := by
      rw [has.params]
      obtain ⟨known, chosen⟩ := DataParams.mem_allInSet.mp selected
      exact DataParams.mem_allInSet.mpr ⟨known, chosen⟩
    refine ⟨_, if_pos selected', ?_, ?_⟩
    · rw [Piece.Mandatory, has.params]
      exact firstMandatory
    · rw [has.params]
      exact agree offer offerMember mandatory
  · intro offer member
    obtain ⟨inside, typed⟩ := (member_iff _).mp ⟨offer, member, rfl⟩
    exact all offer.piece inside typed
  · have mandatory : ∃ offer ∈ offers, offer.piece.Mandatory := by
      by_contra nothing
      exact something (empty (fun offer member kind => nothing ⟨offer, member, kind⟩) list found)
    obtain ⟨more, known⟩ := UuidList.listType_known size.octets_mem true
    have positive : 0 < size.octets := by
      cases size <;> decide
    have tracks := UuidList.Tracks.run reset positive known wellFormed runs
    obtain ⟨shortened, holding, -⟩ := tracks.holding mandatory fits
    obtain ⟨length, type, data, -, -⟩ := holding.data
    refine ⟨length, type, ?_⟩
    rw [mergedPiece] at found
    split at found
    · cases found
      have count : (length :: type :: (UuidList.collected size.octets offers).flatten).length =
          (size.listOf collected.lists).size.toNat := by
        rw [holding.size, List.length_cons, List.length_cons,
          UuidList.length_flatten_uuids holding.lengths, adDataHeaderSize, Nat.add_comm 2]
      have something' : (size.listOf collected.lists).size.toNat ≠ 0 := by
        rw [← count]
        exact Nat.succ_ne_zero _
      rw [Piece.octets, DataItem.octets, if_neg something', data, ← count]
      change ((if _ < _ then none else some (List.take _ _)) : Option (List UInt8)).getD [] = _
      rw [if_neg (Nat.lt_irrefl _), List.take_length]
      rfl
    · contradiction

end

/-- What the packets of the interface hold when the build begins.  A packet of the
extended interface that was not destroyed is used again. -/
def leftOver (manager : Manager) (interface : Interface) (type : PacketType) : List UInt8 :=
  match interface with
  | .legacy => []
  | .extended => manager.octetsOf .extended type

theorem begin_octetsOf (manager : Manager) (interface : Interface) :
    (manager.begin interface).octetsOf interface = leftOver manager interface := by
  funext type
  obtain ⟨dataIf, legacy, ⟨advert, scanResponse⟩, lists, name, processed⟩ := manager
  cases interface with
  | legacy => cases type <;> rfl
  | extended =>
    cases type <;> cases advert <;> cases scanResponse <;> rfl

theorem begin_dataIf (manager : Manager) (interface : Interface) :
    (manager.begin interface).dataIf = manager.dataIf := by
  obtain ⟨dataIf, legacy, ⟨advert, scanResponse⟩, lists, name, processed⟩ := manager
  cases interface with
  | legacy => rfl
  | extended => cases advert <;> cases scanResponse <;> rfl

theorem begin_lists (manager : Manager) (interface : Interface) :
    (manager.begin interface).lists = manager.lists.uuidReset ∧
      (manager.begin interface).localName = manager.localName.reset := by
  obtain ⟨dataIf, legacy, ⟨advert, scanResponse⟩, lists, name, processed⟩ := manager
  cases interface with
  | legacy => exact ⟨rfl, rfl⟩
  | extended => cases advert <;> cases scanResponse <;> exact ⟨rfl, rfl⟩

theorem piecesAt_perm (collects : CollectedFrom start (asked clients set) collected)
    (fresh : start.localName.isRegistered = false) :
    ((DataParams.allInSet set).flatMap
      (piecesAt clients collected.lists collected.localName)).Perm
      ((asked clients set).filter Piece.isOrdinary ++
        (((asked clients set).find? Piece.isLocalName).toList ++
          ((mergedPiece set collected.lists.uuid16List).toList ++
            (mergedPiece set collected.lists.uuid32List).toList ++
            (mergedPiece set collected.lists.uuid128List).toList))) := by
  have ordinary : (asked clients set).filter Piece.isOrdinary =
      (DataParams.allInSet set).flatMap fun params =>
        (offered clients params).filter Piece.isOrdinary :=
    List.filter_flatMap
  rw [ordinary, ← collects.flatMap_localName fresh, ← flatMap_getListAsItem,
    ← flatMap_getListAsItem, ← flatMap_getListAsItem]
  refine (List.flatMap_append_perm _ _ _).symm.trans (List.Perm.append_left _ ?_)
  refine (List.flatMap_append_perm _ _ _).symm.trans (List.Perm.append_left _ ?_)
  refine (List.flatMap_append_perm _ _ _).symm.trans (List.Perm.append_right _ ?_)
  exact (List.flatMap_append_perm _ _ _).symm

/-- A build that succeeds leaves out no item that cannot be skipped. -/
theorem buildData_laysOut (built : buildData memory clients set manager = some (true, manager')) :
    ∃ interface, manager.getDataPacketFromSet set = some interface ∧
      BuiltFrom clients set (leftOver manager interface) (manager'.octetsOf interface) := by
  rw [buildData] at built
  split at built
  · exact absurd (Prod.mk.inj (Option.some.inj built)).1 Bool.false_ne_true
  · next interface found =>
    obtain ⟨collected, first, rest⟩ := Option.bind_eq_some_iff.mp built
    obtain ⟨last, second, done⟩ := Option.bind_eq_some_iff.mp rest
    obtain ⟨-, rfl⟩ := Prod.mk.inj (Option.some.inj done)
    rw [processData_eq] at first
    obtain ⟨lists, name⟩ := begin_lists manager interface
    have fresh : (manager.begin interface).localName.isRegistered = false := by
      rw [name]
      rfl
    have collects := CollectedFrom.run fresh first
    have found' : collected.getDataPacketFromSet set = some interface := by
      rw [getDataPacketFromSet, collects.dataIf, begin_dataIf]
      exact found
    obtain ⟨-, entries, same, placed, octets⟩ := build_adds found' second
    refine ⟨interface, found, _, fun size => mergedPiece set (size.listOf collected.lists),
      collects.namedOnce, fun size => collects.mergedOnce size ?_, ?_, entries,
      same ▸ piecesAt_perm collects fresh, placed, fun type => ?_⟩
    · rw [lists]
      exact size.reset manager.lists
    · intro piece member
      simp only [piecesPut, List.mem_append] at member
      rcases member with ordinary | name | ((merged | merged) | merged)
      · exact params_of_asked (List.mem_filter.mp ordinary).1
      · exact params_of_asked (List.mem_of_find?_eq_some (Option.mem_toList.mp name))
      · exact params_of_mergedPiece (Option.mem_toList.mp merged)
      · exact params_of_mergedPiece (Option.mem_toList.mp merged)
      · exact params_of_mergedPiece (Option.mem_toList.mp merged)
    · rw [octets, ← begin_octetsOf, octetsOf, octetsOf, collects.packets]

def clientOf (params : DataParams) (octets : List UInt8) : Client :=
  { getNumberOfItems := fun asked => if asked = params then 1 else 0
    getItem := fun _ _ => ⟨octets.length, some octets⟩ }

def twoNames : Database :=
  { slots :=
      [some (clientOf ⟨DataSet.peer, .full, .dontCare⟩ [2, 1, 6]),
        some (clientOf ⟨DataSet.peer, .full, .advert⟩ [3, AdType.completeLocalName, 72, 73]),
        some (clientOf ⟨DataSet.peer, .full, .scanResponse⟩
          [3, AdType.completeLocalName, 72, 73])] ++ List.replicate 12 none
    size := rfl }

def legacyManager : Manager :=
  { dataIf := [(.legacy, 7)]
    legacy := ⟨none, none⟩
    extended := ⟨none, none⟩
    lists := UuidLists.boot
    localName := ⟨⟨0, none⟩, ⟨0, .full, .advert⟩⟩
    processed := 0 }

def allMemory : Nat → Memory := fun _ => ⟨0, fun _ => true⟩

theorem twoNames_laysOut :
    ∃ manager', buildData allMemory twoNames DataSet.peer legacyManager = some (true, manager') ∧
      manager'.octetsOf .legacy .advert = [3, AdType.completeLocalName, 72, 73, 2, 1, 6] ∧
      ∃ interface, legacyManager.getDataPacketFromSet DataSet.peer = some interface ∧
        BuiltFrom twoNames DataSet.peer (leftOver legacyManager interface)
          (manager'.octetsOf interface) := by
  have runs : (buildData allMemory twoNames DataSet.peer legacyManager).any (fun result =>
      result.1 && decide (result.2.octetsOf .legacy .advert =
        [3, AdType.completeLocalName, 72, 73, 2, 1, 6])) = true := by
    decide +kernel
  obtain ⟨⟨done, manager'⟩, built, shown⟩ := Option.any_eq_true _ _ |>.mp runs
  rw [Bool.and_eq_true, decide_eq_true_iff] at shown
  obtain ⟨rfl, advert⟩ := shown
  exact ⟨manager', built, advert, buildData_laysOut built⟩

/-- The client's name that was to be in the scan response is not there. -/
theorem twoNames_notTwice :
    ∃ manager', buildData allMemory twoNames DataSet.peer legacyManager = some (true, manager') ∧
      ¬ LaysOut ((asked twoNames DataSet.peer).filter fun piece => piece.item.hasData)
        (leftOver legacyManager .legacy) (manager'.octetsOf .legacy) := by
  have runs : (buildData allMemory twoNames DataSet.peer legacyManager).any (fun result =>
      result.1 && decide (result.2.octetsOf .legacy .scanResponse = [])) = true := by
    decide +kernel
  obtain ⟨⟨done, manager'⟩, built, shown⟩ := Option.any_eq_true _ _ |>.mp runs
  rw [Bool.and_eq_true, decide_eq_true_iff] at shown
  obtain ⟨rfl, scanResponse⟩ := shown
  refine ⟨manager', built, fun ⟨entries, same, placed, octets⟩ => ?_⟩
  have wanted : (⟨⟨4, some [3, AdType.completeLocalName, 72, 73]⟩,
      ⟨DataSet.peer, .full, .scanResponse⟩⟩ : Piece) ∈ entries.map Prod.fst := by
    refine same.mem_iff.mpr ?_
    decide +kernel
  obtain ⟨⟨piece, place⟩, member, rfl⟩ := List.mem_map.mp wanted
  obtain ⟨allowed, mandatory⟩ := placed _ member
  obtain ⟨type, here⟩ := Option.isSome_iff_exists.mp (mandatory nofun)
  obtain rfl : type = .scanResponse := allowed type here
  have nothing := octets .scanResponse
  rw [scanResponse] at nothing
  have inside := mem_putIn member here List.mem_cons_self
  rw [(List.append_eq_nil_iff.mp nothing.symm).2] at inside
  exact List.not_mem_nil inside

end Built

end Manager

end HeadsetAdk.LeAdvertising
