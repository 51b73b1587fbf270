import HeadsetAdk.KeyValues.Capacity

/-! # Merging two lists -/

namespace HeadsetAdk.KeyValues

open List (foldlM_cons mem_cons_self mem_cons_of_mem take_length append_nil)
open Option (map_some some_ne_none)
open Function (update_self update_of_ne)
open KeyValueList (cellBytes cleared)

/-- `key_value_list_merge_resolve_callback_t`.  It is given both lists and the key, and may
change the lists and whatever it keeps outside of them. -/
abbrev Resolver (World : Type) :=
  World → KeyValueList → KeyValueList → Key → Bool × World × KeyValueList × KeyValueList

structure Merging (World : Type) where
  world : World
  source : KeyValueList
  target : KeyValueList
  resolved : List Key

namespace Merging

variable {World : Type} (unknown : Unknown) (resolveCallback : Option (Resolver World))

/-- The call of the callback in `keyValueList_MergeKey`; without a callback, or if it fails, it
is a panic. -/
def resolve (merging : Merging World) (key : Key) : Option (Merging World) :=
  match resolveCallback with
  | none => none
  | some callback =>
      match callback merging.world merging.source merging.target key with
      | (true, world, source, target) =>
          some
            { world := world
              source := source
              target := target
              resolved := merging.resolved ++ [key] }
      | (false, _) => none

def mergeKey (merging : Merging World) (sourceKey : Key) (sourceData : List UInt8)
    (sourceLen : Nat) : Option (Merging World) :=
  match merging.target.get sourceKey with
  | some (targetSize, targetValue) =>
      if targetSize ≠ sourceLen ∨ targetValue.take targetSize ≠ sourceData.take targetSize then
        merging.resolve resolveCallback sourceKey
      else some merging
  | none =>
      some
        { merging with
          target := (merging.target.add unknown sourceKey (sourceData.take sourceLen)).2 }

/-- The size and the value of a packed key, as `KeyValueList_Merge` looks them up. -/
def packedValue (source : KeyValueList) (index : Nat) : Nat × List UInt8 :=
  if index < source.len8 then (1, cellBytes source.values8 index)
  else if index < source.len8 + source.len16 then
    (2, cellBytes source.values16 (index - source.len8))
  else (4, cellBytes source.values32 (index - source.len8 - source.len16))

/-- One round of the second loop of `KeyValueList_Merge`. -/
def mergePacked (source : KeyValueList) (merging : Merging World) (index : Nat) :
    Option (Merging World) :=
  source.keys[index]?.bind fun sourceKey =>
    if index ≥ source.len8 + source.len16 + source.len32 then none
    else
      merging.mergeKey unknown resolveCallback sourceKey (packedValue source index).2
        (packedValue source index).1

/-- `KeyValueList_Merge`, which walks the source list as it is when the walk starts. -/
def merge (merging : Merging World) : Option (Merging World) :=
  let source := merging.source
  (source.head.foldlM (fun (merging : Merging World) element =>
    merging.mergeKey unknown resolveCallback element.key element.data element.len) merging).bind
      fun merging =>
        (List.range source.lenKeys).foldlM (mergePacked unknown resolveCallback source) merging

end Merging

def Conflict (source target : KeyValueList) (key : Key) : Prop :=
  source.isSet key = true ∧ target.isSet key = true ∧ source.get key ≠ target.get key

/-- For keys in conflict the callback succeeds, and changes nothing but the value that the target
list has for the key.  A value of one, two or four bytes is only put there for keys of a
given set. -/
def Resolves {World : Type} (callback : Resolver World) (source : KeyValueList)
    (packed : Finset Key) : Prop :=
  ∀ world target key map, target.Denotes map → smallKeys map ⊆ packed →
    Conflict source target key →
    ∃ world' target' value, callback world source target key = (true, world', source, target') ∧
      target'.Denotes (Function.update map key (some value)) ∧ (IsSmall value → key ∈ packed)

section Walk

variable {World : Type} {unknown : Unknown} {resolveCallback : Option (Resolver World)}
  {list : KeyValueList} {merging : Merging World}

def KeyValueList.walk (list : KeyValueList) : List (Key × List UInt8) :=
  list.head.map (fun element => (element.key, element.data)) ++ list.packed

theorem KeyValueList.WellFormed.packedValue (wellFormed : list.WellFormed) {index : Nat}
    {value : List UInt8} (holds : list.values[index]? = some value) :
    Merging.packedValue list index = (value.length, value) := by
  rw [← wellFormed.cell_at holds, Merging.packedValue]
  by_cases low : index < list.len8
  · rw [if_pos low, if_pos low]
  · rw [if_neg low, if_neg low]
    by_cases middle : index < list.len8 + list.len16
    · rw [if_pos middle, if_pos (by omega)]
    · rw [if_neg middle, if_neg (by omega)]

theorem foldlM_mergePacked (wellFormed : list.WellFormed) {count : Nat}
    (inside : count ≤ list.keys.length) :
    (List.range count).foldlM (Merging.mergePacked unknown resolveCallback list) merging =
      (list.packed.take count).foldlM (fun (merging : Merging World) pair =>
        merging.mergeKey unknown resolveCallback pair.1 pair.2 pair.2.length) merging := by
  induction count with
  | zero => rfl
  | succ count ih =>
    have here : count < list.values.length := by
      rw [wellFormed.length_values]
      exact inside
    have holds := List.getElem?_eq_getElem here
    have named := List.getElem?_eq_getElem (show count < list.keys.length from inside)
    have pair : list.packed[count]? = some (list.keys[count], list.values[count]) :=
      List.getElem?_zip_eq_some.mpr ⟨named, holds⟩
    have within : ¬ count ≥ list.len8 + list.len16 + list.len32 := by
      rw [wellFormed.len8, wellFormed.len16, wellFormed.len32, ← wellFormed.aligned]
      omega
    rw [List.range_succ, List.foldlM_append, ih (Nat.le_of_succ_le inside), List.take_add_one,
      pair, List.foldlM_append]
    congr 1
    funext merging
    rw [foldlM_cons, Merging.mergePacked, named, Option.bind_some, if_neg within,
      wellFormed.packedValue holds]
    rfl

theorem foldlM_mergeLarge {elements : List LargeElement}
    (lengths : ∀ element ∈ elements, element.len = element.data.length) :
    elements.foldlM (fun (merging : Merging World) element =>
        merging.mergeKey unknown resolveCallback element.key element.data element.len) merging =
      (elements.map fun element => (element.key, element.data)).foldlM
        (fun (merging : Merging World) pair =>
          merging.mergeKey unknown resolveCallback pair.1 pair.2 pair.2.length) merging := by
  induction elements generalizing merging with
  | nil => rfl
  | cons element elements ih =>
    rw [foldlM_cons, List.map_cons, foldlM_cons, lengths element mem_cons_self]
    congr 1
    funext merging
    exact ih fun other member => lengths other (mem_cons_of_mem _ member)

theorem merge_eq_walk (wellFormed : merging.source.WellFormed) :
    merging.merge unknown resolveCallback =
      merging.source.walk.foldlM (fun (merging : Merging World) pair =>
        merging.mergeKey unknown resolveCallback pair.1 pair.2 pair.2.length) merging := by
  have packedLength : merging.source.packed.length = merging.source.keys.length := by
    rw [KeyValueList.packed, List.length_zip, wellFormed.length_values, Nat.min_self]
  rw [Merging.merge, KeyValueList.walk, List.foldlM_append,
    ← foldlM_mergeLarge wellFormed.largeLength, Option.bind_eq_bind]
  congr 1
  funext merging
  rw [wellFormed.lenKeys, foldlM_mergePacked wellFormed (Nat.le_refl _), ← packedLength,
    take_length]

end Walk

section Steps

variable {World : Type} {unknown : Unknown} {callback : Resolver World}
  {merging : Merging World} {map : Map} {key : Key} {value stored : List UInt8}

theorem take_ne_iff :
    stored.length ≠ value.length ∨ stored.take stored.length ≠ value.take stored.length ↔
      stored ≠ value := by
  constructor
  · rintro differ rfl
    rcases differ with wrong | wrong
    · exact wrong rfl
    · exact wrong rfl
  · intro differ
    by_cases same : stored.length = value.length
    · refine .inr ?_
      rw [take_length, same, take_length]
      exact differ
    · exact .inl same

section

variable (denotes : merging.target.Denotes map)

include denotes

theorem mergeKey_equal (equal : map key = some value) :
    merging.mergeKey unknown (some callback) key value value.length = some merging := by
  rw [Merging.mergeKey, denotes.get_eq, equal, map_some]
  dsimp only
  rw [if_neg]
  rw [take_ne_iff]
  exact not_not.mpr rfl

theorem mergeKey_conflict (other : map key = some stored) (differ : stored ≠ value) :
    merging.mergeKey unknown (some callback) key value value.length =
      merging.resolve (some callback) key := by
  rw [Merging.mergeKey, denotes.get_eq, other, map_some]
  dsimp only
  rw [if_pos (take_ne_iff.mpr differ)]

theorem mergeKey_absent (absent : map key = none) :
    merging.mergeKey unknown (some callback) key value value.length =
      some { merging with target := (merging.target.add unknown key value).2 } := by
  rw [Merging.mergeKey, denotes.get_eq, absent, Option.map_none, take_length]

end

end Steps

def Clash (source target : Map) (key : Key) : Prop :=
  source key ≠ none ∧ target key ≠ none ∧ source key ≠ target key

instance (source target : Map) (key : Key) : Decidable (Clash source target key) :=
  inferInstanceAs (Decidable (_ ∧ _ ∧ _))

structure Merged (source target merged : Map) (key : Key) : Prop where
  ofSource : target key = none → merged key = source key
  ofTarget : source key = none ∨ source key = target key → merged key = target key
  present : merged key = none ↔ source key = none ∧ target key = none

structure WalkedMap (source target : Map) (packed : Finset Key) (walked : List Key) (map : Map) :
    Prop where
  within : smallKeys map ⊆ packed
  merged : ∀ key ∈ walked, Merged source target map key
  kept : ∀ key ∉ walked, map key = target key

structure Progress {World : Type} (list : KeyValueList) (source target : Map)
    (packed : Finset Key) (walked : List Key) (merging : Merging World) : Prop where
  ofSource : merging.source = list
  ofTarget : ∃ map, merging.target.Denotes map ∧ WalkedMap source target packed walked map
  resolved : merging.resolved = walked.filter fun key => decide (Clash source target key)

section Walking

variable {World : Type} {unknown : Unknown} {callback : Resolver World} {list : KeyValueList}
  {merging : Merging World} {source target map : Map} {packed : Finset Key} {walked : List Key}
  {key : Key} {value stored : List UInt8} {other : KeyValueList}

theorem KeyValueList.Denotes.get_eq_get (ofSource : list.Denotes source)
    (ofTarget : other.Denotes target) : list.get key = other.get key ↔ source key = target key := by
  rw [ofSource.get_eq, ofTarget.get_eq]
  have pairs : Function.Injective fun value : List UInt8 => (value.length, value) :=
    fun first second equal => (Prod.mk.inj equal).2
  exact (Option.map_injective pairs).eq_iff

theorem conflict_iff (ofSource : list.Denotes source) (ofTarget : other.Denotes target) :
    Conflict list other key ↔ Clash source target key := by
  rw [Conflict, Clash, ofSource.isSet_iff, ofTarget.isSet_iff]
  exact and_congr_right fun _ => and_congr_right fun _ =>
    not_congr (ofSource.get_eq_get ofTarget)

theorem room_of_within (denotes : list.Denotes map) (within : smallKeys map ⊆ packed)
    (bounded : packed.card ≤ 255) (member : key ∈ packed) (absent : map key = none) :
    list.keys.length < 255 := by
  have fewer : (smallKeys map).ncard < (packed : Set Key).ncard := by
    refine Set.ncard_lt_ncard ⟨within, fun whole => ?_⟩ packed.finite_toSet
    obtain ⟨held, holds, _⟩ := whole member
    rw [absent] at holds
    contradiction
  rw [Set.ncard_coe_finset] at fewer
  rw [← denotes.smallKeys_ncard]
  omega

theorem WalkedMap.update (walkedMap : WalkedMap source target packed walked map)
    (notWalked : key ∉ walked) (small : IsSmall value → key ∈ packed)
    (here : Merged source target (Function.update map key (some value)) key) :
    WalkedMap source target packed (walked ++ [key]) (Function.update map key (some value)) where
  within := by
    rintro other ⟨held, holds, isSmall⟩
    by_cases same : other = key
    · subst same
      rw [update_self] at holds
      cases holds
      exact small isSmall
    · rw [update_of_ne same] at holds
      exact walkedMap.within ⟨held, holds, isSmall⟩
  merged := by
    intro other member
    rcases List.mem_append.mp member with earlier | last
    · have differ : other ≠ key := fun same => notWalked (same ▸ earlier)
      obtain ⟨ofSource, ofTarget, present⟩ := walkedMap.merged other earlier
      refine ⟨?_, ?_, ?_⟩ <;>
      · rw [update_of_ne differ]
        assumption
    · exact List.mem_singleton.mp last ▸ here
  kept := by
    intro other notMember
    rw [List.mem_append, List.mem_singleton, not_or] at notMember
    rw [update_of_ne notMember.2]
    exact walkedMap.kept other notMember.1

theorem filter_concat (walked : List Key) (key : Key) :
    (walked ++ [key]).filter (fun key => decide (Clash source target key)) =
      walked.filter (fun key => decide (Clash source target key)) ++
        if Clash source target key then [key] else [] := by
  rw [List.filter_append, List.filter_cons]
  by_cases clash : Clash source target key
  · rw [if_pos clash, if_pos (decide_eq_true clash)]
    rfl
  · rw [if_neg clash, if_neg (by rw [decide_eq_true_iff]; exact clash)]
    rfl

section

variable (progress : Progress list source target packed walked merging)
  (denotes : list.Denotes source) (resolves : Resolves callback list packed)
  (bounded : packed.card ≤ 255)

include progress denotes resolves bounded

theorem Progress.step (notWalked : key ∉ walked) (holds : source key = some value)
    (small : IsSmall value → key ∈ packed) (short : value.length ≤ 65535) :
    ∃ next, merging.mergeKey unknown (some callback) key value value.length = some next ∧
      Progress list source target packed (walked ++ [key]) next := by
  obtain ⟨sameSource, ⟨map, ofMap, walkedMap⟩, resolved⟩ := progress
  have sameHere : map key = target key := walkedMap.kept key notWalked
  have sourceSome : source key ≠ none := by
    rw [holds]
    exact some_ne_none value
  cases here : map key with
  | none =>
    have absent : target key = none := sameHere.symm.trans here
    have notSet : ¬ merging.target.isSet key = true := by
      rw [ofMap.isSet_iff]
      exact not_not.mpr here
    have room (isSmall : IsSmall value) :=
      room_of_within ofMap walkedMap.within bounded (small isSmall) here
    refine ⟨_, mergeKey_absent ofMap here, sameSource,
      ⟨_, ?_, walkedMap.update notWalked small ?_⟩, ?_⟩
    · rw [KeyValueList.add, if_neg notSet]
      exact ofMap.addKeyValuePair here short room
    · refine ⟨fun _ => ?_, fun noneOrSame => ?_, ?_⟩
      · rw [update_self, holds]
      · rcases noneOrSame with none | same
        · exact absurd none sourceSome
        · exact absurd (same.trans absent) sourceSome
      · rw [update_self, holds]
        exact ⟨fun wrong => absurd wrong (some_ne_none _),
          fun wrong => absurd wrong.1 (some_ne_none _)⟩
    · rw [filter_concat, if_neg fun clash => clash.2.1 absent, append_nil]
      exact resolved
  | some stored =>
    have inTarget : target key = some stored := sameHere.symm.trans here
    have present {merged : Map} (isSome : merged key ≠ none) :
        merged key = none ↔ source key = none ∧ target key = none :=
      ⟨fun wrong => absurd wrong isSome, fun wrong => absurd wrong.1 sourceSome⟩
    have notAbsent {stays : Prop} (absent : target key = none) : stays :=
      absurd (inTarget.symm.trans absent) (some_ne_none stored)
    by_cases same : stored = value
    · subst same
      have unchanged : Function.update map key (some stored) = map := by
        rw [← here, Function.update_eq_self]
      refine ⟨merging, mergeKey_equal ofMap here, sameSource, ⟨map, ofMap, ?_⟩, ?_⟩
      · rw [← unchanged]
        refine walkedMap.update notWalked small ⟨notAbsent, fun _ => ?_, present ?_⟩
        · rw [update_self, inTarget]
        · rw [update_self]
          exact some_ne_none stored
      · rw [filter_concat, if_neg fun clash => clash.2.2 (holds.trans inTarget.symm), append_nil]
        exact resolved
    · have differ : source key ≠ target key := by
        rw [holds, inTarget]
        exact fun equal => same (Option.some.inj equal).symm
      have inTargetSome : target key ≠ none := fun absent => notAbsent absent
      have conflict : Conflict list merging.target key := by
        rw [conflict_iff denotes ofMap, Clash, sameHere]
        exact ⟨sourceSome, inTargetSome, differ⟩
      obtain ⟨world', target', value', called, ofMap', small'⟩ :=
        resolves merging.world merging.target key map ofMap walkedMap.within conflict
      refine ⟨⟨world', list, target', merging.resolved ++ [key]⟩, ?_, rfl,
        ⟨_, ofMap', walkedMap.update notWalked small'
        ⟨notAbsent, fun noneOrSame => ?_, present ?_⟩⟩, ?_⟩
      · rw [mergeKey_conflict ofMap here same, Merging.resolve, sameSource, called]
      · rcases noneOrSame with none | equal
        · exact absurd none sourceSome
        · exact absurd equal differ
      · rw [update_self]
        exact some_ne_none value'
      · rw [filter_concat, if_pos ⟨sourceSome, inTargetSome, differ⟩]
        exact congrArg (· ++ [key]) resolved

theorem Progress.walk {pairs : List (Key × List UInt8)}
    (distinct : (walked ++ pairs.map Prod.fst).Nodup)
    (holds : ∀ pair ∈ pairs, source pair.1 = some pair.2)
    (small : ∀ pair ∈ pairs, IsSmall pair.2 → pair.1 ∈ packed)
    (short : ∀ pair ∈ pairs, pair.2.length ≤ 65535) :
    ∃ next, pairs.foldlM (fun (merging : Merging World) pair =>
        merging.mergeKey unknown (some callback) pair.1 pair.2 pair.2.length) merging = some next ∧
      Progress list source target packed (walked ++ pairs.map Prod.fst) next := by
  induction pairs generalizing walked merging with
  | nil => exact ⟨merging, rfl, by rwa [List.map_nil, append_nil]⟩
  | cons pair pairs ih =>
    rw [List.map_cons, List.append_cons] at distinct ⊢
    have notWalked : pair.1 ∉ walked := fun earlier =>
      List.disjoint_of_nodup_append (List.Nodup.of_append_left distinct) earlier
        (List.mem_singleton.mpr rfl)
    obtain ⟨next, merged, progress'⟩ := progress.step denotes resolves bounded notWalked
      (holds pair mem_cons_self) (small pair mem_cons_self)
      (short pair mem_cons_self)
    obtain ⟨final, walks, progress''⟩ := ih progress' distinct
      (fun other member => holds other (mem_cons_of_mem _ member))
      (fun other member => small other (mem_cons_of_mem _ member))
      (fun other member => short other (mem_cons_of_mem _ member))
    refine ⟨final, ?_, progress''⟩
    rw [foldlM_cons, merged]
    exact walks

end

theorem KeyValueList.Denotes.mem_walk (denotes : list.Denotes map) (pair : Key × List UInt8) :
    pair ∈ list.walk ↔ map pair.1 = some pair.2 := by
  rw [denotes.pairs, KeyValueList.walk, List.mem_append, List.mem_map, or_comm]
  refine or_congr_right (exists_congr fun element => and_congr_right fun _ => ?_)
  rw [Prod.ext_iff]

theorem KeyValueList.Denotes.walk_keys (denotes : list.Denotes map) :
    (list.walk.map Prod.fst).Nodup := by
  have wellFormed := denotes.wellFormed
  have large : (list.head.map fun element => (element.key, element.data)).map Prod.fst =
      list.head.map LargeElement.key := by
    rw [List.map_map]
    rfl
  have small : list.packed.map Prod.fst = list.keys :=
    List.map_fst_zip (Nat.le_of_eq wellFormed.length_values.symm)
  rw [KeyValueList.walk, List.map_append, large, small]
  refine List.Nodup.append wellFormed.largeNodup wellFormed.keysNodup ?_
  intro key inHead inKeys
  obtain ⟨element, member, rfl⟩ := List.mem_map.mp inHead
  exact wellFormed.disjoint element member inKeys

theorem KeyValueList.Denotes.merge {other : KeyValueList} (ofSource : list.Denotes source)
    (ofTarget : other.Denotes target) (resolves : Resolves callback list packed)
    (bounded : packed.card ≤ 255) (sourceWithin : smallKeys source ⊆ packed)
    (targetWithin : smallKeys target ⊆ packed)
    (short : ∀ key value, source key = some value → value.length ≤ 65535) (world : World) :
    ∃ merged map, Merging.merge unknown (some callback) ⟨world, list, other, []⟩ = some merged ∧
      merged.source = list ∧ merged.target.Denotes map ∧
      (∀ key, Merged source target map key) ∧ merged.resolved.Nodup ∧
      ∀ key, key ∈ merged.resolved ↔ Clash source target key := by
  have start : Progress list source target packed [] ⟨world, list, other, []⟩ :=
    ⟨rfl, ⟨target, ofTarget, targetWithin, fun key member => absurd member List.not_mem_nil,
      fun key _ => rfl⟩, rfl⟩
  have holds (pair : Key × List UInt8) (member : pair ∈ list.walk) : source pair.1 = some pair.2 :=
    (ofSource.mem_walk pair).mp member
  obtain ⟨merged, walks, sameSource, ⟨map, ofMap, walkedMap⟩, resolved⟩ :=
    @Progress.walk _ unknown _ _ _ _ _ _ _ start ofSource resolves bounded list.walk
      ofSource.walk_keys holds
      (fun pair member isSmall => sourceWithin ⟨pair.2, holds pair member, isSmall⟩)
      (fun pair member => short pair.1 pair.2 (holds pair member))
  have inWalk {key : Key} : key ∈ list.walk.map Prod.fst ↔ source key ≠ none := by
    rw [List.mem_map, ← Option.isSome_iff_ne_none, Option.isSome_iff_exists]
    constructor
    · rintro ⟨pair, member, rfl⟩
      exact ⟨pair.2, holds pair member⟩
    · rintro ⟨value, here⟩
      exact ⟨(key, value), (ofSource.mem_walk (key, value)).mpr here, rfl⟩
  rw [List.nil_append] at walkedMap resolved
  refine ⟨merged, map, ?_, sameSource, ofMap, fun key => ?_, ?_, fun key => ?_⟩
  · rw [merge_eq_walk ofSource.wellFormed]
    exact walks
  · by_cases walked : key ∈ list.walk.map Prod.fst
    · exact walkedMap.merged key walked
    · have kept := walkedMap.kept key walked
      have absent : source key = none := not_not.mp (mt inWalk.mpr walked)
      refine ⟨fun none => ?_, fun _ => kept, ?_⟩
      · rw [kept, none, absent]
      · rw [kept]
        exact ⟨fun none => ⟨absent, none⟩, fun both => both.2⟩
  · rw [resolved]
    exact ofSource.walk_keys.filter _
  · rw [resolved, List.mem_filter, decide_eq_true_iff, inWalk]
    exact ⟨fun both => both.2, fun clash => ⟨clash.1, clash⟩⟩

end Walking

theorem specStep_short {map : Map} {call : Call}
    (short : ∀ key value, map key = some value → value.length ≤ 65535)
    (fits : ShortValue map call) (key : Key) (value : List UInt8)
    (holds : (specStep map call).1 key = some value) : value.length ≤ 65535 := by
  cases call with
  | add key' value' =>
    rw [specStep] at holds
    split at holds
    · dsimp only at holds
      by_cases same : key = key'
      · rw [same, update_self] at holds
        exact Option.some.inj holds ▸ fits (by assumption)
      · rw [update_of_ne same] at holds
        exact short key value holds
    · exact short key value holds
  | remove key' =>
    rw [specStep] at holds
    dsimp only at holds
    by_cases same : key = key'
    · rw [same, update_self] at holds
      contradiction
    · rw [update_of_ne same] at holds
      exact short key value holds
  | removeAll => exact absurd holds (some_ne_none value).symm
  | get key' => exact short key value holds
  | isSet key' => exact short key value holds

theorem reached_short {unknown : Unknown} {list : KeyValueList}
    (reached : Reached (KeyValueList.next unknown) KeyValueList.Fits create list) :
    ∃ map, list.Denotes map ∧ ∀ key value, map key = some value → value.length ≤ 65535 := by
  induction reached with
  | start => exact ⟨_, denotes_create, fun _ _ wrong => absurd wrong (some_ne_none _).symm⟩
  | step call _ fits steps ih =>
    obtain ⟨map, denotes, short⟩ := ih
    obtain ⟨room, shortHere⟩ := denotes.room fits
    obtain ⟨list', stepped, denotes'⟩ := denotes.step _ room shortHere
    rw [KeyValueList.next, stepped] at steps
    cases steps
    exact ⟨_, denotes', specStep_short short shortHere⟩

/-- A merge of two lists is their union.  What only one of them has, or both have equal, is kept;
the callback is called once for each key in conflict, and for no other; and the source list
stays. -/
theorem merge_left_biased {World : Type} {unknown : Unknown} {callback : Resolver World}
    {source target : KeyValueList} {packed : Finset Key}
    (reachedSource : Reached (KeyValueList.next unknown) KeyValueList.Fits create source)
    (reachedTarget : Reached (KeyValueList.next unknown) KeyValueList.Fits create target)
    (bounded : packed.card ≤ 255) (sourceWithin : ∀ key ∈ source.keys, key ∈ packed)
    (targetWithin : ∀ key ∈ target.keys, key ∈ packed)
    (resolves : Resolves callback source packed) (world : World) :
    ∃ merged, Merging.merge unknown (some callback) ⟨world, source, target, []⟩ = some merged ∧
      (∀ key, merged.target.isSet key = true ↔
        source.isSet key = true ∨ target.isSet key = true) ∧
      (∀ key, source.isSet key = true → target.isSet key = false →
        merged.target.get key = source.get key) ∧
      (∀ key, source.isSet key = false ∨ source.get key = target.get key →
        merged.target.get key = target.get key) ∧
      (merged.resolved.Nodup ∧ ∀ key, key ∈ merged.resolved ↔ Conflict source target key) ∧
      merged.source = source := by
  obtain ⟨ofSource, denotesSource, short⟩ := reached_short reachedSource
  obtain ⟨ofTarget, denotesTarget, _⟩ := reached_short reachedTarget
  obtain ⟨merged, map, ran, sameSource, ofMap, union, once, resolved⟩ :=
    @KeyValueList.Denotes.merge _ unknown _ _ _ _ _ _ denotesSource denotesTarget resolves bounded
      (fun key member => sourceWithin key ((denotesSource.mem_keys_iff key).mpr member))
      (fun key member => targetWithin key ((denotesTarget.mem_keys_iff key).mpr member)) short world
  have notSet {list : KeyValueList} {map : Map} (denotes : list.Denotes map) (key : Key) :
      list.isSet key = false ↔ map key = none := by
    rw [denotes.isSet_eq, Option.isSome_eq_false_iff, Option.isNone_iff_eq_none]
  refine ⟨merged, ran, fun key => ?_, fun key _ onlySource => ?_, fun key keeps => ?_,
    ⟨once, fun key => ?_⟩, sameSource⟩
  · rw [ofMap.isSet_iff, denotesSource.isSet_iff, denotesTarget.isSet_iff, Ne, (union key).present,
      not_and_or]
  · rw [ofMap.get_eq, denotesSource.get_eq,
      (union key).ofSource ((notSet denotesTarget key).mp onlySource)]
  · rw [notSet denotesSource, denotesSource.get_eq_get denotesTarget] at keeps
    exact (ofMap.get_eq_get denotesTarget).mpr ((union key).ofTarget keeps)
  · rw [resolved, conflict_iff denotesSource denotesTarget]

def keepTarget : Resolver Unit := fun world source target _ => (true, world, source, target)

theorem resolves_keepTarget (source : KeyValueList) (packed : Finset Key) :
    Resolves keepTarget source packed := by
  intro world target key map denotes within conflict
  obtain ⟨value, here⟩ := Option.ne_none_iff_exists'.mp ((denotes.isSet_iff key).mp conflict.2.1)
  refine ⟨world, target, value, rfl, ?_, fun small => within ⟨value, here, small⟩⟩
  rw [← here, Function.update_eq_self]
  exact denotes

theorem conflicting_lists_merge :
    ∃ source target merged, runAllowed (KeyValueList.next cleared) KeyValueList.Fits
        [.add 1 [5], .add 2 [9, 9, 9]] create = some source ∧
      runAllowed (KeyValueList.next cleared) KeyValueList.Fits
        [.add 2 [7, 7, 7], .add 3 [1, 2]] create = some target ∧
      Merging.merge cleared (some keepTarget) ⟨(), source, target, []⟩ = some merged ∧
      ∀ key, key ∈ merged.resolved ↔ Conflict source target key := by
  have ofSource : (runAllowed (KeyValueList.next cleared) KeyValueList.Fits
      [.add 1 [5], .add 2 [9, 9, 9]] create).map KeyValueList.keys = some [1] := by
    decide +kernel
  have ofTarget : (runAllowed (KeyValueList.next cleared) KeyValueList.Fits
      [.add 2 [7, 7, 7], .add 3 [1, 2]] create).map KeyValueList.keys = some [3] := by
    decide +kernel
  obtain ⟨source, runsSource, sourceKeys⟩ := Option.map_eq_some_iff.mp ofSource
  obtain ⟨target, runsTarget, targetKeys⟩ := Option.map_eq_some_iff.mp ofTarget
  have sourceWithin : ∀ key ∈ source.keys, key ∈ ({1, 3} : Finset Key) := by
    intro key member
    rw [sourceKeys, List.mem_singleton] at member
    rw [member]
    exact Finset.mem_insert_self 1 {3}
  have targetWithin : ∀ key ∈ target.keys, key ∈ ({1, 3} : Finset Key) := by
    intro key member
    rw [targetKeys, List.mem_singleton] at member
    rw [member]
    exact Finset.mem_insert_of_mem (Finset.mem_singleton_self 3)
  obtain ⟨merged, ran, _, _, _, resolved, _⟩ :=
    merge_left_biased (Reached.start.run runsSource) (Reached.start.run runsTarget)
      (by decide : ({1, 3} : Finset Key).card ≤ 255) sourceWithin targetWithin
      (resolves_keepTarget source {1, 3}) ()
  exact ⟨source, target, merged, runsSource, runsTarget, ran, resolved.2⟩

end HeadsetAdk.KeyValues
