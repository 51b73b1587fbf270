import HeadsetAdk.BandwidthManager.Actions
import Mathlib.Data.List.Nodup

/-! # The table of feature slots -/

namespace HeadsetAdk.BandwidthManager

/-- `feature_bitfields_t`, without its identifier. -/
structure Bitfields where
  priority : Priority
  running : Bool
  throttleRequired : Bool
deriving DecidableEq

def FeatureInfo.withBitfields (feature : FeatureInfo) (bitfields : Bitfields) : FeatureInfo :=
  { feature with
    priority := bitfields.priority
    running := bitfields.running
    throttleRequired := bitfields.throttleRequired }

/-- `BandwidthManager_UpdateFeatureInfo` -/
def Info.updateFeatureInfo (info : Info) (identifier : FeatureId) (bitfields : Bitfields) :
    Info :=
  match getFeatureInfoUsingIdentifier info.featureInfo identifier with
  | none => info
  | some slot =>
    match info.featureInfo[slot]? with
    | none => info
    | some feature =>
      let features := info.featureInfo.set slot (feature.withBitfields bitfields)
      { info with featureInfo := (arrangeFeatureSlot features slot).1 }

/-- `BandwidthManager_ResetAllFeaturesInfo` -/
def Info.resetAllFeaturesInfo (info : Info) : Info :=
  { info with
    featureInfo := info.featureInfo.map fun feature =>
      { feature with running := false, throttleRequired := false }
    activeFeaturesNum := 0 }

inductive SlotCall
  | register (identifier : FeatureId) (priority : Option Priority) (callback : Bool)
  | start (identifier : FeatureId)
  | stop (identifier : FeatureId)
  | update (identifier : FeatureId) (bitfields : Bitfields)
  | reset

def Info.call (info : Info) : SlotCall → Info × Bool
  | .register identifier priority callback => info.registerFeature identifier priority callback
  | .start identifier => info.featureStart identifier
  | .stop identifier => info.featureStop identifier
  | .update identifier bitfields => (info.updateFeatureInfo identifier bitfields, true)
  | .reset => (info.resetAllFeaturesInfo, true)

section Arranged

/-- The first `count` features are those that run. -/
def RunFirst (features : List FeatureInfo) (count : Nat) : Prop :=
  count ≤ features.length ∧
    ∀ slot feature, features[slot]? = some feature → (feature.running = true ↔ slot < count)

variable {features : List FeatureInfo} {feature : FeatureInfo} {count slot : Nat}

section

variable (runFirst : RunFirst features count)

include runFirst

theorem RunFirst.countP : features.countP (·.running) = count := by
  obtain ⟨bounded, marks⟩ := runFirst
  have front : (features.take count).countP (·.running) = count := by
    rw [List.countP_eq_length.mpr, List.length_take_of_le bounded]
    intro feature member
    obtain ⟨slot, inside, rfl⟩ := List.mem_iff_getElem.mp member
    rw [List.length_take_of_le bounded] at inside
    exact (marks slot _ (by simp)).mpr inside
  have back : (features.drop count).countP (·.running) = 0 := by
    refine List.countP_eq_zero.mpr fun feature member running => ?_
    obtain ⟨slot, inside, rfl⟩ := List.mem_iff_getElem.mp member
    rw [List.length_drop] at inside
    have := (marks (count + slot) _ (by simp)).mp running
    omega
  rw [← List.take_append_drop count features, List.countP_append, front, back, Nat.add_zero]

theorem RunFirst.append (idle : feature.running = false) :
    RunFirst (features ++ [feature]) count := by
  refine ⟨by rw [List.length_append]; exact Nat.le_add_right_of_le runFirst.1,
    fun slot other found => ?_⟩
  rw [List.getElem?_append] at found
  split at found
  · exact runFirst.2 slot other found
  · obtain ⟨_, rfl⟩ := List.getElem?_eq_some_iff.mp found
    have := runFirst.1
    simp [idle]
    omega

theorem RunFirst.set {next : FeatureInfo} {count' : Nat} (inside : slot < features.length)
    (bounded : count' ≤ features.length) (here : next.running = true ↔ slot < count')
    (others : ∀ other, other ≠ slot → (other < count' ↔ other < count)) :
    RunFirst (features.set slot next) count' := by
  refine ⟨by rwa [List.length_set], fun other feature found => ?_⟩
  rw [List.getElem?_set, if_pos inside] at found
  split at found
  next same =>
    cases found
    rwa [← same]
  next apart => rw [runFirst.2 other feature found, others other (Ne.symm apart)]

theorem RunFirst.arranged (slot : Nat) : (arrangeFeatureSlot features slot).1 = features := by
  rw [arrangeFeatureSlot]
  split
  · rfl
  next feature here =>
    split
    next runs =>
      have early := (runFirst.2 slot feature here).mp runs
      cases first : getFirstNonRunningFeature features with
      | none => rfl
      | some free =>
        obtain ⟨inside, rests, _⟩ := List.findIdx?_eq_some_iff_getElem.mp first
        have late := (runFirst.2 free _ (List.getElem?_eq_getElem inside)).not.mp
          (by simpa using rests)
        simp only [if_neg (show ¬ free < slot by omega)]
        split <;> rfl
    next rests =>
      rw [if_neg]
      rintro ⟨_, next⟩
      obtain ⟨following, found, runs⟩ := (Option.any_eq_true _ _).mp next
      have early := (runFirst.2 _ _ found).mp runs
      exact rests ((runFirst.2 slot feature here).mpr (by omega))

theorem RunFirst.start (here : features[slot]? = some feature) (idle : feature.running = false)
    {started : FeatureInfo} (running : started.running = true) :
    RunFirst (arrangeFeatureSlot (features.set slot started) slot).1 (count + 1) := by
  obtain ⟨inside, same⟩ := List.getElem?_eq_some_iff.mp here
  have later : count ≤ slot := by
    have := (runFirst.2 slot feature here).not.mp (by simp [idle])
    omega
  have written (other : Nat) : (features.set slot started)[other]? =
      if slot = other then some started else features[other]? := by
    rw [List.getElem?_set, if_pos inside]
  rw [arrangeFeatureSlot, written, if_pos rfl]
  simp only [running, if_true]
  rcases Nat.lt_or_eq_of_le later with before | rfl
  · -- The first idle slot is that of `count`, and changes places with this one.
    obtain ⟨free, found⟩ : ∃ free, features[count]? = some free :=
      ⟨_, List.getElem?_eq_getElem (by omega)⟩
    obtain ⟨insideFree, value⟩ := List.getElem?_eq_some_iff.mp found
    have rests : free.running = false :=
      Bool.eq_false_iff.mpr fun runs => Nat.lt_irrefl count ((runFirst.2 _ _ found).mp runs)
    have first : getFirstNonRunningFeature (features.set slot started) = some count := by
      refine List.findIdx?_eq_some_iff_getElem.mpr
        ⟨by rwa [List.length_set], ?_, fun other early => ?_⟩
      · rw [List.getElem_set, if_neg (Nat.ne_of_gt before), value, rests]
        rfl
      · have runs := (runFirst.2 other _ (List.getElem?_eq_getElem (by omega))).mpr early
        rw [List.getElem_set, if_neg (by omega), runs]
        decide
    rw [first]
    simp only [written, if_neg (Nat.ne_of_gt before), found, if_pos before, List.set_set]
    have moved : RunFirst (features.set slot free) count :=
      runFirst.set inside runFirst.1 (by simp [rests, later]) fun other _ => Iff.rfl
    exact moved.set (by rwa [List.length_set]) (by rw [List.length_set]; omega)
      (by simp [running]) fun other _ => by omega
  · have stays : RunFirst (features.set count started) (count + 1) :=
      runFirst.set inside (by omega) (by simp [running]) fun other _ => by omega
    cases first : getFirstNonRunningFeature (features.set count started) with
    | none => exact stays
    | some free =>
      obtain ⟨_, rests, _⟩ := List.findIdx?_eq_some_iff_getElem.mp first
      have behind : ¬ free < count := fun early => by
        have runs := (stays.2 free _ (List.getElem?_eq_getElem ‹_›)).mpr (by omega)
        rw [runs] at rests
        exact absurd rests (by decide)
      simp only [if_neg behind]
      split <;> exact stays

theorem RunFirst.stop (here : features[slot]? = some feature) (running : feature.running = true)
    {stopped : FeatureInfo} (idle : stopped.running = false) :
    RunFirst (arrangeFeatureSlot (features.set slot stopped) slot).1 (count - 1) := by
  obtain ⟨inside, same⟩ := List.getElem?_eq_some_iff.mp here
  have early : slot < count := (runFirst.2 slot feature here).mp running
  have written (other : Nat) : (features.set slot stopped)[other]? =
      if slot = other then some stopped else features[other]? := by
    rw [List.getElem?_set, if_pos inside]
  have bounded := runFirst.1
  rw [arrangeFeatureSlot, written, if_pos rfl]
  simp only [idle, Bool.false_eq_true, if_false, List.length_set]
  split
  next moved =>
    obtain ⟨following, found, runs⟩ := (Option.any_eq_true _ _).mp moved.2
    rw [written, if_neg (by omega)] at found
    have more : slot + 1 < count := (runFirst.2 _ _ found).mp runs
    have length : ((features.set slot stopped).eraseIdx slot).length = features.length - 1 := by
      rw [List.length_eraseIdx, List.length_set, if_pos inside]
    refine ⟨by rw [List.length_append, length, List.length_singleton]; omega,
      fun other feature found => ?_⟩
    rw [List.getElem?_append, length, List.getElem?_eraseIdx, written, written] at found
    split at found
    · split at found
      · rw [if_neg (by omega)] at found
        rw [runFirst.2 other feature found]
        omega
      · rw [if_neg (by omega)] at found
        rw [runFirst.2 (other + 1) feature found]
        omega
    · obtain ⟨only, rfl⟩ := List.getElem?_eq_some_iff.mp found
      rw [List.length_singleton] at only
      simp [idle]
      omega
  next stays =>
    have last : count = slot + 1 := by
      by_contra more
      have inRange : slot + 1 < features.length := by omega
      have runs := (runFirst.2 (slot + 1) _ (List.getElem?_eq_getElem inRange)).mpr (by omega)
      refine stays ⟨by omega, ?_⟩
      rw [written, if_neg (by omega), List.getElem?_eq_getElem inRange]
      exact runs
    exact runFirst.set inside (by omega) (by simp [idle, last]) fun other apart => by omega

end

end Arranged

section Records

/-- What each identifier has, wherever its slot is. -/
abbrev Records := FeatureId → Option FeatureInfo

def Records.after (records : Records) : SlotCall → Bool → Records
  | .register identifier (some priority) callback, true =>
    Function.update records identifier
      (some ⟨callback, priority, false, false, identifier, none⟩)
  | .start identifier, true => Function.update records identifier
      ((records identifier).map fun feature =>
        { feature with running := true, throttleRequired := false })
  | .stop identifier, true => Function.update records identifier
      ((records identifier).map fun feature =>
        { feature with running := false, throttleRequired := false })
  | .update identifier bitfields, _ => Function.update records identifier
      ((records identifier).map (·.withBitfields bitfields))
  | .reset, _ => fun identifier =>
      (records identifier).map fun feature =>
        { feature with running := false, throttleRequired := false }
  | _, _ => records

structure Holds (features : List FeatureInfo) (records : Records) : Prop where
  valid : ∀ feature ∈ features, feature.identifier.isFeature = true
  distinct : (features.map (·.identifier)).Nodup
  record : ∀ identifier feature, records identifier = some feature ↔
    feature ∈ features ∧ feature.identifier = identifier

variable {features : List FeatureInfo} {records : Records} {feature : FeatureInfo} {slot : Nat}

section

variable (holds : Holds features records)

include holds

theorem Holds.perm {arranged : List FeatureInfo} (perm : arranged.Perm features) :
    Holds arranged records :=
  ⟨fun feature member => holds.valid feature (perm.mem_iff.mp member),
    (perm.map _).nodup_iff.mpr holds.distinct, fun identifier feature => by
    rw [holds.record, perm.mem_iff]⟩

theorem Holds.set (here : features[slot]? = some feature) (next : FeatureInfo)
    (same : next.identifier = feature.identifier) :
    Holds (features.set slot next) (Function.update records feature.identifier (some next)) := by
  obtain ⟨inside, value⟩ := List.getElem?_eq_some_iff.mp here
  have split : features = features.take slot ++ feature :: features.drop (slot + 1) := by
    rw [← value, ← List.drop_eq_getElem_cons inside, List.take_append_drop]
  have distinct := holds.distinct
  have record := holds.record
  rw [List.set_eq_take_append_cons_drop, if_pos inside]
  generalize features.take slot = before at *
  generalize features.drop (slot + 1) = behind at *
  subst split
  have apart (other : FeatureInfo) (member : other ∈ before ∨ other ∈ behind) :
      other.identifier ≠ feature.identifier := by
    rw [List.map_append, List.map_cons, List.nodup_middle, ← List.map_append] at distinct
    exact fun equal => (List.nodup_cons.mp distinct).1
      (List.mem_map.mpr ⟨other, List.mem_append.mpr member, equal⟩)
  refine ⟨fun other member => ?_, by simpa [same] using distinct, fun identifier other => ?_⟩
  · rcases List.mem_append.mp member with early | late
    · exact holds.valid other (List.mem_append_left _ early)
    · rcases List.mem_cons.mp late with rfl | late
      · rw [same]
        exact holds.valid feature (by simp)
      · exact holds.valid other (by simp [late])
  by_cases own : identifier = feature.identifier
  · subst own
    rw [Function.update_self]
    constructor
    · intro equal
      cases equal
      exact ⟨by simp, same⟩
    · rintro ⟨member, equal⟩
      rcases List.mem_append.mp member with early | late
      · exact absurd equal (apart other (Or.inl early))
      · rcases List.mem_cons.mp late with rfl | late
        · rfl
        · exact absurd equal (apart other (Or.inr late))
  · rw [Function.update_of_ne own, record, List.mem_append, List.mem_append, List.mem_cons,
      List.mem_cons]
    refine and_congr_left fun equal => or_congr_right (or_congr_left ?_)
    exact iff_of_false (fun is => own (by rw [← equal, is]))
      (fun is => own (by rw [← equal, is, same]))

theorem Holds.append (absent : feature.identifier ∉ features.map (·.identifier))
    (unknown : records feature.identifier = none)
    (isFeature : feature.identifier.isFeature = true) :
    Holds (features ++ [feature]) (Function.update records feature.identifier (some feature)) := by
  refine ⟨fun other member => ?_, ?_, fun identifier other => ?_⟩
  · rcases List.mem_append.mp member with early | last
    · exact holds.valid other early
    · rwa [List.mem_singleton.mp last]
  · rw [List.map_append]
    exact holds.distinct.append (List.nodup_singleton _) (by simpa using absent)
  · rw [List.mem_append, List.mem_singleton]
    by_cases own : identifier = feature.identifier
    · subst own
      rw [Function.update_self]
      constructor
      · intro equal
        cases equal
        exact ⟨Or.inr rfl, rfl⟩
      · rintro ⟨early | rfl, equal⟩
        · exact absurd ((holds.record _ _).mpr ⟨early, equal⟩) (by simp [unknown])
        · rfl
    · rw [Function.update_of_ne own, holds.record]
      refine and_congr_left fun equal => (or_iff_left fun is => own ?_).symm
      rw [← equal, is]

variable {identifier : FeatureId}

theorem Holds.found (found : getFeatureInfoUsingIdentifier features identifier = some slot) :
    ∃ feature, features[slot]? = some feature ∧ feature.identifier = identifier ∧
      records identifier = some feature := by
  rw [getFeatureInfoUsingIdentifier] at found
  split at found
  · obtain ⟨inside, same, _⟩ := List.findIdx?_eq_some_iff_getElem.mp found
    have equal := of_decide_eq_true same
    exact ⟨_, List.getElem?_eq_getElem inside, equal,
      (holds.record _ _).mpr ⟨List.getElem_mem inside, equal⟩⟩
  · cases found

theorem Holds.missing (missing : getFeatureInfoUsingIdentifier features identifier = none) :
    identifier ∉ features.map (·.identifier) ∧ records identifier = none := by
  have absent (feature : FeatureInfo) (member : feature ∈ features) :
      feature.identifier ≠ identifier := by
    rintro rfl
    rw [getFeatureInfoUsingIdentifier, if_pos (holds.valid feature member)] at missing
    exact absurd rfl (of_decide_eq_false (List.findIdx?_eq_none_iff.mp missing feature member))
  refine ⟨fun member => ?_, Option.eq_none_iff_forall_not_mem.mpr fun feature found => ?_⟩
  · obtain ⟨feature, inside, same⟩ := List.mem_map.mp member
    exact absent feature inside same
  · obtain ⟨inside, same⟩ := (holds.record identifier feature).mp found
    exact absent feature inside same

end

end Records

section Runs

def RegistersIdle (info : Info) : SlotCall → Prop
  | .register identifier _ _ =>
    ∀ feature ∈ info.featureInfo, feature.identifier = identifier → feature.running = false
  | _ => True

def KeepsRunning (info : Info) : SlotCall → Prop
  | .update identifier bitfields => ∀ feature ∈ info.featureInfo,
    feature.identifier = identifier → feature.running = bitfields.running
  | _ => True

def EachCall (property : Info → SlotCall → Prop) (info : Info) : List SlotCall → Prop
  | [] => True
  | call :: rest => property info call ∧ EachCall property (info.call call).1 rest

def runCalls (info : Info) (records : Records) : List SlotCall → Info × Records
  | [] => (info, records)
  | call :: rest =>
    runCalls (info.call call).1 (records.after call (info.call call).2) rest

/-- The running features stand first, and are counted as long as the count is `exact`. -/
structure Arranged (info : Info) (records : Records) (exact : Prop) : Prop where
  holds : Holds info.featureInfo records
  runFirst : ∃ count, RunFirst info.featureInfo count ∧
    (exact → info.activeFeaturesNum = count)

variable {info : Info} {records : Records} {exact : Prop}

section

variable (arranged : Arranged info records exact)

include arranged

variable {identifier : FeatureId}

theorem Arranged.register {priority : Option Priority} {callback : Bool}
    (idle : RegistersIdle info (.register identifier priority callback)) :
    Arranged (info.registerFeature identifier priority callback).1
      (records.after (.register identifier priority callback)
        (info.registerFeature identifier priority callback).2) exact := by
  obtain ⟨holds, count, runFirst, counted⟩ := arranged
  unfold Info.registerFeature
  split
  next room =>
    cases priority with
    | none => exact ⟨holds, count, runFirst, counted⟩
    | some priority =>
      dsimp only
      split
      · exact ⟨holds, count, runFirst, counted⟩
      · split
        next missing =>
          obtain ⟨absent, unknown⟩ := holds.missing missing
          exact ⟨holds.append absent unknown room.1, count, runFirst.append rfl, counted⟩
        next slot found =>
          obtain ⟨feature, here, rfl, _⟩ := holds.found found
          have rests := idle feature (List.mem_of_getElem? here) rfl
          obtain ⟨inside, _⟩ := List.getElem?_eq_some_iff.mp here
          have late := (runFirst.2 slot feature here).not.mp (by simp [rests])
          exact ⟨holds.set here _ rfl, count, runFirst.set inside runFirst.1 (by simp [late])
            fun _ _ => Iff.rfl, counted⟩
  next => cases priority <;> exact ⟨holds, count, runFirst, counted⟩

theorem Arranged.start :
    Arranged (info.featureStart identifier).1
      (records.after (.start identifier) (info.featureStart identifier).2) exact := by
  obtain ⟨holds, count, runFirst, counted⟩ := arranged
  rw [Info.featureStart]
  cases found : getFeatureInfoUsingIdentifier info.featureInfo identifier with
  | none => exact ⟨holds, count, runFirst, counted⟩
  | some slot =>
    obtain ⟨feature, here, rfl, record⟩ := holds.found found
    simp only [here]
    split
    · exact ⟨holds, count, runFirst, counted⟩
    next idle =>
      have rests : feature.running = false := Bool.eq_false_iff.mpr idle
      refine ⟨?_, count + 1, runFirst.start here rests rfl, fun exactly => ?_⟩
      · rw [Records.after, record]
        exact (holds.set here { feature with running := true, throttleRequired := false } rfl).perm
          (arrangeFeatureSlot_perm _ slot)
      · exact congrArg (· + 1) (counted exactly)

theorem Arranged.stop :
    Arranged (info.featureStop identifier).1
      (records.after (.stop identifier) (info.featureStop identifier).2) exact := by
  obtain ⟨holds, count, runFirst, counted⟩ := arranged
  rw [Info.featureStop]
  cases found : getFeatureInfoUsingIdentifier info.featureInfo identifier with
  | none => exact ⟨holds, count, runFirst, counted⟩
  | some slot =>
    obtain ⟨feature, here, rfl, record⟩ := holds.found found
    simp only [here]
    split
    · exact ⟨holds, count, runFirst, counted⟩
    next active =>
      have runs : feature.running = true := by simpa using active
      refine ⟨?_, count - 1, runFirst.stop here runs rfl, fun exactly => ?_⟩
      · rw [Records.after, record]
        exact (holds.set here { feature with running := false, throttleRequired := false } rfl).perm
          (arrangeFeatureSlot_perm _ slot)
      · exact congrArg (· - 1) (counted exactly)

theorem Arranged.update {bitfields : Bitfields} :
    Arranged (info.updateFeatureInfo identifier bitfields)
      (records.after (.update identifier bitfields) true)
      (exact ∧ KeepsRunning info (.update identifier bitfields)) := by
  obtain ⟨holds, count, runFirst, counted⟩ := arranged
  rw [Info.updateFeatureInfo]
  cases found : getFeatureInfoUsingIdentifier info.featureInfo identifier with
  | none =>
    rw [Records.after, (holds.missing found).2, Option.map_none,
      Function.update_eq_self_iff.mpr (holds.missing found).2.symm]
    exact ⟨holds, count, runFirst, fun both => counted both.1⟩
  | some slot =>
    obtain ⟨feature, here, rfl, record⟩ := holds.found found
    simp only [here]
    have held := (holds.set here (feature.withBitfields bitfields) rfl).perm
      (arrangeFeatureSlot_perm _ slot)
    rw [Records.after, record]
    have keeps (both : KeepsRunning info (.update feature.identifier bitfields)) :
        feature.running = bitfields.running := both feature (List.mem_of_getElem? here) rfl
    obtain ⟨inside, _⟩ := List.getElem?_eq_some_iff.mp here
    have stays (same : feature.running = bitfields.running) :
        RunFirst (arrangeFeatureSlot (info.featureInfo.set slot (feature.withBitfields bitfields))
          slot).1 count := by
      have written : RunFirst (info.featureInfo.set slot (feature.withBitfields bitfields)) count :=
        runFirst.set inside runFirst.1
          (by rw [← runFirst.2 slot feature here, same]; exact Iff.rfl) fun _ _ => Iff.rfl
      rwa [written.arranged]
    cases before : feature.running <;> cases after : bitfields.running
    · exact ⟨held, count, stays (before.trans after.symm), fun both => counted both.1⟩
    · exact ⟨held, _, runFirst.start here before after, fun both =>
        absurd (keeps both.2) (by simp [before, after])⟩
    · exact ⟨held, _, runFirst.stop here before after, fun both =>
        absurd (keeps both.2) (by simp [before, after])⟩
    · exact ⟨held, count, stays (before.trans after.symm), fun both => counted both.1⟩

theorem Arranged.reset : Arranged info.resetAllFeaturesInfo (records.after .reset true) True := by
  obtain ⟨holds, _⟩ := arranged
  refine ⟨⟨?_, ?_, ?_⟩, 0, ⟨Nat.zero_le _, ?_⟩, fun _ => rfl⟩
  · intro feature member
    obtain ⟨other, inside, rfl⟩ := List.mem_map.mp member
    exact holds.valid other inside
  · rw [Info.resetAllFeaturesInfo, List.map_map]
    exact holds.distinct
  · intro identifier feature
    rw [Records.after, Info.resetAllFeaturesInfo, Option.map_eq_some_iff, List.mem_map]
    constructor
    · rintro ⟨other, known, rfl⟩
      exact ⟨⟨other, ((holds.record _ _).mp known).1, rfl⟩, ((holds.record _ _).mp known).2⟩
    · rintro ⟨⟨other, inside, rfl⟩, same⟩
      exact ⟨other, (holds.record _ _).mpr ⟨inside, same⟩, rfl⟩
  · intro slot feature found
    rw [Info.resetAllFeaturesInfo, List.getElem?_map] at found
    obtain ⟨other, _, rfl⟩ := Option.map_eq_some_iff.mp found
    simp

theorem Arranged.call {call : SlotCall} (idle : RegistersIdle info call) :
    Arranged (info.call call).1 (records.after call (info.call call).2)
      (exact ∧ KeepsRunning info call) := by
  have weaken {next : Info} {nextRecords : Records} {exact' : Prop}
      (arranged : Arranged next nextRecords exact') (of : exact ∧ KeepsRunning info call → exact') :
      Arranged next nextRecords (exact ∧ KeepsRunning info call) := by
    obtain ⟨holds, count, runFirst, counted⟩ := arranged
    exact ⟨holds, count, runFirst, fun both => counted (of both)⟩
  cases call with
  | register identifier priority callback => exact weaken (arranged.register idle) And.left
  | start identifier => exact weaken arranged.start And.left
  | stop identifier => exact weaken arranged.stop And.left
  | update identifier bitfields => exact arranged.update
  | reset => exact weaken arranged.reset fun _ => trivial

theorem Arranged.calls {calls : List SlotCall} (idle : EachCall RegistersIdle info calls) :
    Arranged (runCalls info records calls).1 (runCalls info records calls).2
      (exact ∧ EachCall KeepsRunning info calls) := by
  induction calls generalizing info records exact with
  | nil =>
    obtain ⟨holds, count, runFirst, counted⟩ := arranged
    exact ⟨holds, count, runFirst, fun both => counted both.1⟩
  | cons call calls ih =>
    obtain ⟨holds, count, runFirst, counted⟩ := ih (arranged.call idle.1) idle.2
    exact ⟨holds, count, runFirst, fun both => counted ⟨⟨both.1, both.2.1⟩, both.2.2⟩⟩

end

/-- In a run that registers no running feature anew, the running features have the first slots and
each identifier has one slot; they are as many as counted, where no update changed that. -/
theorem runFirst_of_registersIdle (calls : List SlotCall)
    (idle : EachCall RegistersIdle .init calls) :
    (∃ count, RunFirst (runCalls .init (fun _ => none) calls).1.featureInfo count) ∧
      Holds (runCalls .init (fun _ => none) calls).1.featureInfo
        (runCalls .init (fun _ => none) calls).2 ∧
      (EachCall KeepsRunning .init calls →
        (runCalls .init (fun _ => none) calls).1.featureInfo.countP (·.running) =
          (runCalls .init (fun _ => none) calls).1.activeFeaturesNum) := by
  have start : Arranged .init (fun _ => none) True :=
    ⟨⟨by simp [Info.init], by simp [Info.init], by simp [Info.init]⟩, 0,
      ⟨Nat.le_refl 0, by simp [Info.init]⟩, fun _ => rfl⟩
  obtain ⟨holds, count, runFirst, counted⟩ := start.calls idle
  exact ⟨⟨count, runFirst⟩, holds, fun keeps =>
    runFirst.countP.trans (counted ⟨trivial, keeps⟩).symm⟩

/-- Two features are registered and started; the second stops and is registered anew. -/
def stoppedCalls : List SlotCall :=
  [.register .dfu (some .low) true, .register .va (some .high) true, .start .va, .start .dfu,
    .stop .va, .register .va (some .low) true]

theorem runFirst_stoppedCalls :
    (runCalls .init (fun _ => none) stoppedCalls).1.featureInfo.countP (·.running) =
      (runCalls .init (fun _ => none) stoppedCalls).1.activeFeaturesNum :=
  (runFirst_of_registersIdle stoppedCalls ⟨by unfold RegistersIdle; decide,
    by unfold RegistersIdle; decide, trivial, trivial, trivial,
    by unfold RegistersIdle; decide, trivial⟩).2.2
      ⟨trivial, trivial, trivial, trivial, trivial, trivial, trivial⟩

/-- A running feature is registered anew: it is marked idle in its slot, before one that runs,
and is still counted. -/
theorem registered_whileRunning :
    ¬ ∀ calls : List SlotCall,
      (∃ count, RunFirst (runCalls .init (fun _ => none) calls).1.featureInfo count) ∧
        Holds (runCalls .init (fun _ => none) calls).1.featureInfo
          (runCalls .init (fun _ => none) calls).2 ∧
        (runCalls .init (fun _ => none) calls).1.featureInfo.countP (·.running) =
          (runCalls .init (fun _ => none) calls).1.activeFeaturesNum := by
  intro claim
  exact absurd (claim [.register .dfu (some .low) true, .register .va (some .high) true,
    .start .dfu, .start .va, .register .dfu (some .low) true]).2.2 (by decide)

end Runs

end HeadsetAdk.BandwidthManager
