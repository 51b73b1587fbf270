import HeadsetAdk.LeAdvertising.CollectedUuids

/-! # The list item that is produced -/

namespace HeadsetAdk.LeAdvertising

open Option (bind_eq_some_iff some.inj)

namespace UuidList

variable {octets : Nat} {start list list' : UuidList}

section Adding

variable {uuids : List (List UInt8)} {shortened : Bool} {entries : List (List UInt8 × Bool)}

private theorem fits_of_initial {shorter longer : List (List UInt8)} (initial : shorter <+: longer)
    (fits : adDataHeaderSize + octets * longer.length < 256) :
    adDataHeaderSize + octets * shorter.length < 256 :=
  Nat.lt_of_le_of_lt
    (Nat.add_le_add_left (Nat.mul_le_mul_left octets initial.length_le) adDataHeaderSize) fits

theorem extendList_unallocated (list : UuidList) (uuid : List UInt8) :
    list.extendList false uuid = list :=
  if_neg Bool.false_ne_true

section

variable (holding : Holding list octets uuids shortened) (positive : 0 < octets)
  (lengths : ∀ entry ∈ entries, entry.1.length = octets)

include holding positive lengths

theorem Holding.addUuids_full
    (fits : adDataHeaderSize + octets * (collectAll uuids entries).length < 256) :
    ∃ list', addUuids .full entries list = some list' ∧
      Holding list' octets (collectAll uuids entries) shortened := by
  induction entries generalizing list uuids with
  | nil => exact ⟨list, rfl, holding⟩
  | cons entry entries ih =>
    obtain ⟨uuid, allocated⟩ := entry
    have length := lengths (uuid, allocated) List.mem_cons_self
    have lengths' : ∀ entry ∈ entries, entry.1.length = octets :=
      fun other member => lengths other (List.mem_cons_of_mem _ member)
    rw [collectAll] at fits ⊢
    rw [addUuids, holding.uuidIsInList positive]
    by_cases present : uuid ∈ uuids
    · rw [if_pos present] at fits ⊢
      rw [if_pos (decide_eq_true present)]
      exact ih holding lengths' fits
    · rw [if_neg present] at fits ⊢
      rw [if_neg (fun found => present (of_decide_eq_true found)),
        if_neg (fun same => absurd same (by decide))]
      cases allocated with
      | false =>
        rw [if_neg Bool.false_ne_true] at fits ⊢
        rw [extendList_unallocated]
        exact ih holding lengths' fits
      | true =>
        rw [if_pos rfl] at fits ⊢
        have extended := holding.extendList length
          (fits_of_initial (prefix_collectAll _ entries) fits)
        exact ih extended lengths' fits

theorem Holding.addUuids_first
    (fits : adDataHeaderSize + octets * (collectFirst uuids entries).length < 256) {more : UInt8}
    (known : listType octets true = some more) :
    ∃ list', addUuids .canBeShortened entries list = some list' ∧
      Holding list' octets (collectFirst uuids entries)
        (shortened || decide (∃ entry ∈ entries, entry.1 ∉ uuids)) := by
  induction entries with
  | nil =>
    refine ⟨list, rfl, ?_⟩
    rw [decide_eq_false (fun found => absurd found.choose_spec.1 List.not_mem_nil), Bool.or_false]
    exact holding
  | cons entry entries ih =>
    obtain ⟨uuid, allocated⟩ := entry
    have length := lengths (uuid, allocated) List.mem_cons_self
    rw [collectFirst] at fits ⊢
    rw [addUuids, holding.uuidIsInList positive]
    by_cases present : uuid ∈ uuids
    · rw [if_pos present] at fits ⊢
      rw [if_pos (decide_eq_true present)]
      have later : (∃ entry ∈ (uuid, allocated) :: entries, entry.1 ∉ uuids) ↔
          ∃ entry ∈ entries, entry.1 ∉ uuids := by
        rw [List.exists_mem_cons_iff]
        exact or_iff_right fun new => new present
      rw [decide_eq_decide.mpr later]
      exact ih (fun other member => lengths other (List.mem_cons_of_mem _ member)) fits
    · rw [if_neg present] at fits ⊢
      rw [if_neg (fun found => present (of_decide_eq_true found)), if_pos rfl,
        decide_eq_true ⟨(uuid, allocated), List.mem_cons_self, present⟩, Bool.or_true]
      cases allocated with
      | false =>
        rw [extendList_unallocated, if_neg Bool.false_ne_true]
        obtain ⟨list', marked, holding', -⟩ := holding.setListShortened known
        exact ⟨list', marked, holding'⟩
      | true =>
        rw [if_pos rfl] at fits ⊢
        obtain ⟨list', marked, holding', -⟩ :=
          (holding.extendList length fits).setListShortened known
        exact ⟨list', marked, holding'⟩

end

end Adding

section Starting

variable {params : DataParams}

structure Started (list : UuidList) (octets : Nat) : Prop where
  data : list.data.isSome
  sized : list.octetsInUuid = octets
  dataSet : list.params.dataSet ∈ DataSet.all

/-- The buffer may grow, and nothing else that matters for a started list changes. -/
structure Grows (list list' : UuidList) : Prop where
  data : list.data.isSome → list'.data.isSome
  params : list'.params = list.params
  sized : list'.octetsInUuid = list.octetsInUuid

theorem Grows.trans {middle : UuidList} (first : Grows list middle)
    (second : Grows middle list') : Grows list list' :=
  ⟨fun some => second.data (first.data some), second.params.trans first.params,
    second.sized.trans first.sized⟩

theorem grows_extendList (list : UuidList) (allocated : Bool) (uuid : List UInt8) :
    Grows list (list.extendList allocated uuid) := by
  cases allocated with
  | false => exact ⟨id, rfl, rfl⟩
  | true => exact ⟨fun _ => rfl, rfl, rfl⟩

theorem grows_setListShortened (marked : list.setListShortened = some list') :
    Grows list list' := by
  rw [UuidList.setListShortened] at marked
  obtain ⟨type, -, marked⟩ := bind_eq_some_iff.mp marked
  obtain ⟨data, -, marked⟩ := bind_eq_some_iff.mp marked
  cases marked
  exact ⟨fun _ => rfl, rfl, rfl⟩

theorem grows_addUuids {completeness : Completeness} {entries : List (List UInt8 × Bool)}
    (added : addUuids completeness entries list = some list') : Grows list list' := by
  induction entries generalizing list with
  | nil => exact some.inj added ▸ ⟨id, rfl, rfl⟩
  | cons entry entries ih =>
    rw [UuidList.addUuids] at added
    split at added
    · exact ih added
    · split at added
      · exact (grows_extendList list entry.2 entry.1).trans (grows_setListShortened added)
      · exact (grows_extendList list entry.2 entry.1).trans (ih added)

theorem Started.grows (started : Started list octets) (grows : Grows list list') :
    Started list' octets :=
  ⟨grows.data started.data, grows.sized.trans started.sized, grows.params ▸ started.dataSet⟩

theorem Started.updateListPlacement (started : Started list octets)
    (updated : list.updateListPlacement params = some list') : Started list' octets := by
  rw [UuidList.updateListPlacement] at updated
  split at updated
  · exact some.inj updated ▸ started
  · split at updated
    · exact some.inj updated ▸ started
    · split at updated
      · cases updated
        exact { started with }
      · contradiction

theorem Holding.updateListPlacement {uuids : List (List UInt8)} {shortened : Bool}
    (holding : Holding list octets uuids shortened)
    (updated : list.updateListPlacement params = some list') :
    Holding list' octets uuids shortened := by
  rw [UuidList.updateListPlacement] at updated
  split at updated
  · exact some.inj updated ▸ holding
  · split at updated
    · exact some.inj updated ▸ holding
    · split at updated
      · cases updated
        exact { holding with }
      · contradiction

theorem Reset.startList (reset : Reset start octets) {unset : UInt8}
    (dataSet : params.dataSet ∈ DataSet.all) (begun : start.startList unset params = some list) :
    Started list octets ∧ Holding list octets [] false := by
  rw [UuidList.startList, getListType_eq reset.sized] at begun
  obtain ⟨type, known, begun⟩ := bind_eq_some_iff.mp begun
  cases begun
  exact ⟨⟨rfl, reset.sized, dataSet⟩,
    { sized := reset.sized
      size := rfl
      lengths := nofun
      data := ⟨unset, type, rfl, fun nonempty => absurd rfl nonempty, known⟩ }⟩

end Starting

section Runs

variable {offers : List Offer} {offer : Offer} {more : UInt8}

theorem collected_concat (octets : Nat) (offers : List Offer) (offer : Offer) :
    collected octets (offers ++ [offer]) =
      collect (collected octets offers) offer.params.completeness (offer.uuids octets) := by
  rw [collected, List.foldl_append]
  rfl

theorem shortened_concat (octets : Nat) (offers : List Offer) (offer : Offer) :
    Shortened octets (offers ++ [offer]) ↔
      Shortened octets offers ∨ Shortens octets offers offer := by
  constructor
  · rintro ⟨before, last, initial, shortens⟩
    cases List.prefix_concat_iff.mp initial with
    | inl same =>
      obtain ⟨rfl, single⟩ := List.append_inj' same rfl
      obtain rfl : last = offer := List.singleton_injective single
      exact Or.inr shortens
    | inr initial => exact Or.inl ⟨before, last, initial, shortens⟩
  · rintro (⟨before, last, initial, shortens⟩ | shortens)
    · exact ⟨before, last, initial.trans (List.prefix_append offers [offer]), shortens⟩
    · exact ⟨offers, offer, List.prefix_rfl, shortens⟩

theorem collected_skipped (octets : Nat)
    (skipped : ∀ offer ∈ offers, offer.params.completeness = .canBeSkipped) :
    collected octets offers = [] := by
  induction offers using List.reverseRecOn with
  | nil => rfl
  | append_singleton offers offer ih =>
    rw [collected_concat, skipped offer (List.mem_append_right offers List.mem_cons_self)]
    exact ih fun other member => skipped other (List.mem_append_left [offer] member)

theorem not_shortened_skipped (octets : Nat)
    (skipped : ∀ offer ∈ offers, offer.params.completeness = .canBeSkipped) :
    ¬ Shortened octets offers := by
  rintro ⟨before, last, initial, ⟨-, earlier, member, other⟩ | ⟨shortens, -⟩⟩
  · exact other (skipped earlier (initial.subset (List.mem_append_left [last] member)))
  · have kind := skipped last
      (initial.subset (List.mem_append_right before List.mem_cons_self))
    rw [shortens] at kind
    contradiction

theorem prefix_collect (uuids : List (List UInt8)) (completeness : Completeness)
    (entries : List (List UInt8 × Bool)) : uuids <+: collect uuids completeness entries := by
  cases completeness with
  | full => exact prefix_collectAll uuids entries
  | canBeShortened => exact prefix_collectFirst uuids entries
  | canBeSkipped => exact List.prefix_rfl

theorem collected_nodup (octets : Nat) (offers : List Offer) : (collected octets offers).Nodup := by
  induction offers using List.reverseRecOn with
  | nil => exact List.nodup_nil
  | append_singleton offers offer ih =>
    rw [collected_concat, collect.eq_def]
    split
    · exact collectAll_nodup ih _
    · exact collectFirst_nodup ih _
    · exact ih

theorem mem_collected_full {entry : List UInt8} (member : offer ∈ offers)
    (full : offer.params.completeness = .full) (here : (entry, true) ∈ offer.uuids octets) :
    entry ∈ collected octets offers := by
  induction offers using List.reverseRecOn with
  | nil => exact absurd member List.not_mem_nil
  | append_singleton offers last ih =>
    rw [collected_concat]
    cases List.mem_append.mp member with
    | inl earlier => exact (prefix_collect _ _ _).subset (ih earlier)
    | inr now =>
      rw [← List.mem_singleton.mp now, full]
      exact mem_collectAll here

structure Tracks (start : UuidList) (octets : Nat) (offers : List Offer) (list : UuidList) :
    Prop where
  untouched : (∀ offer ∈ offers, offer.params.completeness = .canBeSkipped) → list = start
  started : (∃ offer ∈ offers, offer.params.completeness ≠ .canBeSkipped) → Started list octets
  holding : (∃ offer ∈ offers, offer.params.completeness ≠ .canBeSkipped) →
    adDataHeaderSize + octets * (collected octets offers).length < 256 →
    ∃ shortened : Bool, Holding list octets (collected octets offers) shortened ∧
      (shortened = true ↔ Shortened octets offers)

theorem Tracks.begin (start : UuidList) (octets : Nat) : Tracks start octets [] start :=
  { untouched := fun _ => rfl
    started := fun other => absurd other.choose_spec.1 List.not_mem_nil
    holding := fun other => absurd other.choose_spec.1 List.not_mem_nil }

private theorem skipped_or_other (offers : List Offer) :
    (∀ offer ∈ offers, offer.params.completeness = .canBeSkipped) ∨
      ∃ offer ∈ offers, offer.params.completeness ≠ .canBeSkipped := by
  by_cases skipped : ∀ offer ∈ offers, offer.params.completeness = .canBeSkipped
  · exact Or.inl skipped
  · push Not at skipped
    exact Or.inr skipped

section

variable (tracks : Tracks start octets offers list) (reset : Reset start octets)

include tracks reset

theorem Tracks.skip (known : listType octets true = some more)
    (skipped : offer.params.completeness = .canBeSkipped)
    (added : list.addItemToList offer = some list') :
    Tracks start octets (offers ++ [offer]) list' := by
  rw [addItemToList, if_pos skipped] at added
  have same : collected octets (offers ++ [offer]) = collected octets offers := by
    rw [collected_concat, skipped]
    rfl
  cases skipped_or_other offers with
  | inl all =>
    obtain rfl := tracks.untouched all
    rw [reset.data, if_neg (by exact Bool.false_ne_true)] at added
    have all' : ∀ other ∈ offers ++ [offer], other.params.completeness = .canBeSkipped := by
      intro other member
      cases List.mem_append.mp member with
      | inl member => exact all other member
      | inr member => rw [List.mem_singleton.mp member, skipped]
    exact
      { untouched := fun _ => (some.inj added).symm
        started := fun ⟨other, member, kind⟩ => absurd (all' other member) kind
        holding := fun ⟨other, member, kind⟩ => absurd (all' other member) kind }
  | inr other =>
    have started := tracks.started other
    rw [if_pos started.data] at added
    have started' := started.grows (grows_setListShortened added)
    constructor
    · intro all
      obtain ⟨earlier, member, kind⟩ := other
      exact absurd (all earlier (List.mem_append_left [offer] member)) kind
    · exact fun _ => started'
    · intro _ fits
      rw [same] at fits ⊢
      obtain ⟨shortened, holding, -⟩ := tracks.holding other fits
      obtain ⟨marked, shortens, holding', -⟩ := holding.setListShortened known
      rw [added] at shortens
      cases shortens
      refine ⟨true, holding', iff_of_true rfl ?_⟩
      rw [shortened_concat]
      exact Or.inr (Or.inl ⟨skipped, other⟩)

theorem Tracks.ready {middle : UuidList} (dataSet : offer.params.dataSet ∈ DataSet.all)
    (begun : list.ensureStarted offer = some middle) :
    Started middle octets ∧
      (adDataHeaderSize + octets * (collected octets offers).length < 256 →
        ∃ shortened : Bool, Holding middle octets (collected octets offers) shortened ∧
          (shortened = true ↔ Shortened octets offers)) := by
  rw [ensureStarted] at begun
  cases skipped_or_other offers with
  | inl all =>
    obtain rfl := tracks.untouched all
    rw [reset.data, if_neg (by exact Bool.false_ne_true)] at begun
    obtain ⟨started, holding⟩ := reset.startList dataSet begun
    refine ⟨started, fun _ => ⟨false, ?_, ?_⟩⟩
    · rw [collected_skipped octets all]
      exact holding
    · exact iff_of_false Bool.false_ne_true (not_shortened_skipped octets all)
  | inr other =>
    have started := tracks.started other
    rw [if_pos started.data] at begun
    cases begun
    exact ⟨started, tracks.holding other⟩

theorem Tracks.take (positive : 0 < octets) (known : listType octets true = some more)
    (wellFormed : offer.WellFormed octets) (taken : offer.params.completeness ≠ .canBeSkipped)
    (added : list.addItemToList offer = some list') :
    Tracks start octets (offers ++ [offer]) list' := by
  rw [addItemToList, if_neg taken] at added
  obtain ⟨begun, begins, added⟩ := bind_eq_some_iff.mp added
  obtain ⟨placed, places, added⟩ := bind_eq_some_iff.mp added
  obtain ⟨started, holding⟩ := tracks.ready reset wellFormed.dataSet begins
  have started := started.updateListPlacement places
  rw [started.sized] at added
  have lengths := wellFormed.lengths positive
  constructor
  · intro all
    exact absurd (all offer (List.mem_append_right offers List.mem_cons_self)) taken
  · exact fun _ => started.grows (grows_addUuids added)
  · intro _ fits
    rw [collected_concat] at fits ⊢
    obtain ⟨shortened, holding, marked⟩ := holding (fits_of_initial (prefix_collect _ _ _) fits)
    have holding := holding.updateListPlacement places
    cases kind : offer.params.completeness with
    | full =>
      rw [kind] at added fits
      obtain ⟨last, adds, holding⟩ := holding.addUuids_full positive lengths fits
      rw [added] at adds
      cases adds
      refine ⟨shortened, holding, ?_⟩
      rw [marked, shortened_concat]
      refine (or_iff_left ?_).symm
      rintro (⟨kind', -⟩ | ⟨kind', -⟩)
      · rw [kind] at kind'
        contradiction
      · rw [kind] at kind'
        contradiction
    | canBeShortened =>
      rw [kind] at added fits
      obtain ⟨last, adds, holding⟩ := holding.addUuids_first positive lengths fits known
      rw [added] at adds
      cases adds
      refine ⟨_, holding, ?_⟩
      rw [shortened_concat, Bool.or_eq_true, marked, decide_eq_true_iff]
      refine or_congr_right ⟨fun new => Or.inr ⟨kind, new⟩, ?_⟩
      rintro (⟨kind', -⟩ | ⟨-, new⟩)
      · exact absurd kind' taken
      · exact new
    | canBeSkipped => exact absurd kind taken

end

theorem foldlM_concat (runs : (offers ++ [offer]).foldlM addItemToList start = some list) :
    ∃ middle, offers.foldlM addItemToList start = some middle ∧
      middle.addItemToList offer = some list := by
  rw [List.foldlM_append] at runs
  obtain ⟨middle, before, last⟩ := bind_eq_some_iff.mp runs
  rw [List.foldlM_cons] at last
  obtain ⟨after, added, same⟩ := bind_eq_some_iff.mp last
  cases same
  exact ⟨middle, before, added⟩

theorem Tracks.run (reset : Reset start octets) (positive : 0 < octets)
    (known : listType octets true = some more)
    (wellFormed : ∀ offer ∈ offers, offer.WellFormed octets)
    (runs : offers.foldlM addItemToList start = some list) : Tracks start octets offers list := by
  induction offers using List.reverseRecOn generalizing list with
  | nil => exact some.inj runs ▸ Tracks.begin start octets
  | append_singleton offers offer ih =>
    obtain ⟨middle, before, added⟩ := foldlM_concat runs
    have tracks := ih (fun other member =>
      wellFormed other (List.mem_append_left [offer] member)) before
    by_cases skipped : offer.params.completeness = .canBeSkipped
    · exact tracks.skip reset known skipped added
    · exact tracks.take reset positive known
        (wellFormed offer (List.mem_append_right offers List.mem_cons_self)) skipped added

theorem listType_injective (size : octets ∈ [2, 4, 16]) {shortened shortened' : Bool}
    (same : listType octets shortened = listType octets shortened') : shortened = shortened' := by
  have octetsCases : octets = 2 ∨ octets = 4 ∨ octets = 16 := by
    simpa using size
  revert same
  obtain rfl | rfl | rfl := octetsCases
  · cases shortened <;> cases shortened' <;> decide
  · cases shortened <;> cases shortened' <;> decide
  · cases shortened <;> cases shortened' <;> decide

theorem listType_known (size : octets ∈ [2, 4, 16]) (shortened : Bool) :
    ∃ type, listType octets shortened = some type := by
  have octetsCases : octets = 2 ∨ octets = 4 ∨ octets = 16 := by
    simpa using size
  obtain rfl | rfl | rfl := octetsCases
  · exact ⟨_, rfl⟩
  · exact ⟨_, rfl⟩
  · exact ⟨_, rfl⟩

/-- The right item is produced just when the collected UUIDs fit, the items shorten the
list if and only if they leave a UUID out, and no list is started without a UUID. -/
theorem produced_iff (reset : Reset start octets) (size : octets ∈ [2, 4, 16])
    (wellFormed : ∀ offer ∈ offers, offer.WellFormed octets)
    (runs : offers.foldlM addItemToList start = some list) :
    Produced list octets offers ↔ Collectable start octets offers := by
  have positive : 0 < octets := by
    by_contra zero
    obtain rfl : octets = 0 := by omega
    exact absurd size (by decide)
  obtain ⟨more, known⟩ := listType_known size true
  have tracks := Tracks.run reset positive known wellFormed runs
  cases skipped_or_other offers with
  | inl all =>
    obtain rfl := tracks.untouched all
    have nothing := collected_skipped octets all
    constructor
    · intro produced
      refine ⟨?_, fun something => absurd nothing something, fun _ => ⟨fun valid => ?_, all⟩⟩
      · rw [nothing]
        exact Nat.lt_of_le_of_lt (Nat.le_refl 2) (by decide)
      · have item := produced.right list.params _ valid (if_pos rfl)
        exact item.1 nothing
    · intro collectable
      refine ⟨fun something => absurd nothing something, collected_nodup octets offers, ?_⟩
      intro params item valid found
      rw [getListAsItem] at found
      split at found
      · rename_i same
        exact absurd (same ▸ valid) (collectable.empty nothing).1
      · contradiction
  | inr other =>
    have started := tracks.started other
    constructor
    · intro produced
      obtain ⟨something, count, length, type, data, -, shown⟩ :=
        produced.right list.params _ started.dataSet (if_pos rfl)
      have fits : adDataHeaderSize + octets * (collected octets offers).length < 256 := by
        rw [← count]
        exact list.size.toNat_lt
      refine ⟨fits, fun _ => ?_, fun nothing => absurd nothing something⟩
      obtain ⟨shortened, holding, marked⟩ := tracks.holding other fits
      obtain ⟨length', type', data', -, shown'⟩ := holding.data
      rw [data', Option.some.injEq, List.cons.injEq, List.cons.injEq] at data
      rw [← data.2.1, getListType_eq started.sized, ← shown'] at shown
      rw [← marked, ← listType_injective size shown, decide_eq_true_iff]
    · intro collectable
      have something : collected octets offers ≠ [] := by
        intro nothing
        obtain ⟨offer, member, kind⟩ := other
        exact kind ((collectable.empty nothing).2 offer member)
      obtain ⟨shortened, holding, marked⟩ := tracks.holding other collectable.fits
      obtain ⟨length, type, data, count, shown⟩ := holding.data
      refine ⟨fun _ => ⟨list.params, started.dataSet, ?_⟩, collected_nodup octets offers, ?_⟩
      · rw [getListAsItem, if_pos rfl]
        rfl
      intro params item valid found
      rw [getListAsItem] at found
      split at found
      · cases found
        refine ⟨something, holding.size, length, type, data, count something, ?_⟩
        have right : decide (LeftOut octets offers) = shortened := by
          rw [Bool.eq_iff_iff, decide_eq_true_iff, marked]
          exact collectable.type something
        rw [getListType_eq started.sized, right, shown]
      · contradiction

def offer16 (completeness : Completeness) (octets : List UInt8) : Offer :=
  { item :=
      { size := octets.length + 2
        data := some (UInt8.ofNat (octets.length + 1) :: AdType.completeUuid16 :: octets) }
    params := ⟨DataSet.handsetIdentifiable, completeness, .dontCare⟩
    unset := 0
    allocated := fun _ => true }

/-- Two items with a UUID in common, and one that is skipped. -/
def threeOffers : List Offer :=
  [offer16 .full [0x0A, 0x18, 0x0F, 0x18], offer16 .full [0x0F, 0x18, 0xEF, 0xFE],
    offer16 .canBeSkipped [0x12, 0x18]]

theorem threeOffers_produced :
    ∃ list, threeOffers.foldlM addItemToList UuidLists.boot.uuidReset.uuid16List = some list ∧
      list.data = some [7, AdType.moreUuid16, 0x0A, 0x18, 0x0F, 0x18, 0xEF, 0xFE] ∧
      (Produced list 2 threeOffers ↔
        Collectable UuidLists.boot.uuidReset.uuid16List 2 threeOffers) := by
  have runs : threeOffers.foldlM addItemToList UuidLists.boot.uuidReset.uuid16List = some
        { data := some [7, AdType.moreUuid16, 0x0A, 0x18, 0x0F, 0x18, 0xEF, 0xFE]
          size := 8
          octetsInUuid := 2
          params := ⟨DataSet.handsetIdentifiable, .full, .dontCare⟩ } := by
    decide +kernel
  refine ⟨_, runs, rfl, produced_iff ⟨rfl, rfl, rfl⟩ (by decide) ?_ runs⟩
  rw [threeOffers, List.forall_mem_cons, List.forall_mem_cons, List.forall_mem_singleton]
  exact ⟨⟨⟨_, rfl, rfl⟩, ⟨2, rfl⟩, by decide⟩, ⟨⟨_, rfl, rfl⟩, ⟨2, rfl⟩, by decide⟩,
    ⟨⟨_, rfl, rfl⟩, ⟨1, rfl⟩, by decide⟩⟩

/-- An item that can be shortened has one UUID.  It is collected, and the list says that
UUIDs are left out. -/
theorem singleUuid_saysMore :
    ∃ list, [offer16 .canBeShortened [0x0F, 0x18]].foldlM addItemToList
        UuidLists.boot.uuidReset.uuid16List = some list ∧
      list.data = some [3, AdType.moreUuid16, 0x0F, 0x18] ∧
      ¬ LeftOut 2 [offer16 .canBeShortened [0x0F, 0x18]] ∧
      ¬ Produced list 2 [offer16 .canBeShortened [0x0F, 0x18]] := by
  have runs : [offer16 .canBeShortened [0x0F, 0x18]].foldlM addItemToList
      UuidLists.boot.uuidReset.uuid16List =
      some
        { data := some [3, AdType.moreUuid16, 0x0F, 0x18]
          size := 4
          octetsInUuid := 2
          params := ⟨DataSet.handsetIdentifiable, .canBeShortened, .dontCare⟩ } := by
    decide +kernel
  have all : ¬ LeftOut 2 [offer16 .canBeShortened [0x0F, 0x18]] := by
    decide +kernel
  refine ⟨_, runs, rfl, all, fun produced => ?_⟩
  obtain ⟨-, -, length, type, data, -, shown⟩ :=
    produced.right ⟨DataSet.handsetIdentifiable, .canBeShortened, .dontCare⟩ _ (by decide) rfl
  rw [decide_eq_false all] at shown
  rw [Option.some.injEq, List.cons.injEq, List.cons.injEq] at data
  rw [← data.2.1] at shown
  exact absurd shown (by decide)

end Runs

end UuidList

end HeadsetAdk.LeAdvertising
