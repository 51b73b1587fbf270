import HeadsetAdk.BandwidthManager.Actions
import HeadsetAdk.Lib.EventLog
import Mathlib.Data.List.Induction

/-! # Who is throttled once the messages are handled -/

namespace HeadsetAdk.BandwidthManager

def Throttled (features : List FeatureInfo) : Prop :=
  ∀ feature ∈ features, feature.running = true →
    (feature.throttleRequired = true ↔ Outranked features feature) ∧
      feature.invoked.getD false = feature.throttleRequired

def ActsAsSender (features : List FeatureInfo) (message : QueuedMessage)
    (acting : FeatureInfo) : Prop :=
  (message.action = .start → 1 < totalRunning features) →
    (OutranksAll features acting.priority ↔ OutranksAll features message.acting)

def TellsRestarted (features : List FeatureInfo) (message : QueuedMessage)
    (behind : List QueuedMessage) (acting : FeatureInfo) : Prop :=
  message.action = .start → (∀ later ∈ behind, later.action ≠ .start) →
    ∀ feature ∈ features, feature.running = true → feature.throttleRequired = false →
      feature.invoked = some true → 1 < totalRunning features ∧
        (acting.priority.level < feature.priority.level ∨ Outranked features feature)

def Trusted (info : Info) (event : Event) : Prop :=
  event = .handleMessage → ∀ message ∈ info.queue.head?,
    ∀ acting ∈ info.featureInfo[message.featureHandle]?,
      ActsAsSender info.featureInfo message acting ∧
        TellsRestarted info.featureInfo message info.queue.tail acting

instance (features : List FeatureInfo) (message : QueuedMessage) (acting : FeatureInfo) :
    Decidable (ActsAsSender features message acting) :=
  inferInstanceAs (Decidable (_ → _))

instance (features : List FeatureInfo) (message : QueuedMessage) (behind : List QueuedMessage)
    (acting : FeatureInfo) : Decidable (TellsRestarted features message behind acting) :=
  inferInstanceAs (Decidable (_ → _))

instance (info : Info) (event : Event) : Decidable (Trusted info event) :=
  inferInstanceAs (Decidable (_ → _))

/-- What is not yet as it should be is due to a message that waits. -/
structure Sound (features : List FeatureInfo) (queue : List QueuedMessage) : Prop where
  throttling : ∀ feature ∈ features, feature.running = true →
    feature.throttleRequired = false → Outranked features feature →
    ∃ message ∈ queue, message.action = .start
  releasing : ∀ feature ∈ features, feature.running = true →
    feature.throttleRequired = true → ¬ Outranked features feature →
    ∃ message ∈ queue, message.action = .stop ∧
      message.acting.level < feature.priority.level
  told : ∀ feature ∈ features, feature.running = true →
    feature.throttleRequired = true → feature.invoked = some true
  restarted : ∀ feature ∈ features, feature.running = true →
    feature.throttleRequired = false → feature.invoked = some true →
    ∃ message ∈ queue, message.action = .start
  starts : ∀ before message behind, queue = before ++ message :: behind →
    message.action = .start →
    (∃ feature ∈ features, feature.running = true ∧ feature.priority = message.acting) ∨
      ∃ later ∈ behind, later.action = .stop ∧ later.acting = message.acting

namespace Sound

variable {features : List FeatureInfo}

theorem throttled (sound : Sound features []) : Throttled features := by
  intro feature member running
  cases flag : feature.throttleRequired with
  | true =>
    refine ⟨iff_of_true rfl ?_, ?_⟩
    · by_contra top
      obtain ⟨message, waits, -⟩ := sound.releasing feature member running flag top
      exact absurd waits List.not_mem_nil
    · rw [sound.told feature member running flag]
      rfl
  | false =>
    refine ⟨iff_of_false Bool.false_ne_true fun outranked => ?_, ?_⟩
    · obtain ⟨message, waits, -⟩ := sound.throttling feature member running flag outranked
      exact absurd waits List.not_mem_nil
    · cases told : feature.invoked with
      | none => rfl
      | some value =>
        cases value with
        | false => rfl
        | true =>
          obtain ⟨message, waits, -⟩ := sound.restarted feature member running flag told
          exact absurd waits List.not_mem_nil

end Sound

variable {features features' : List FeatureInfo}

theorem Outranked.mono {feature : FeatureInfo} (outranked : Outranked features feature)
    (kept : ∀ other ∈ features, other.running = true → other ∈ features') :
    Outranked features' feature := by
  obtain ⟨other, member, running, above⟩ := outranked
  exact ⟨other, kept other member running, running, above⟩

theorem Sound.perm {queue : List QueuedMessage} (sound : Sound features queue)
    (same : features'.Perm features) : Sound features' queue := by
  have outranked {feature : FeatureInfo} :
      Outranked features' feature ↔ Outranked features feature :=
    ⟨fun above => above.mono fun _ member _ => same.mem_iff.mp member,
      fun above => above.mono fun _ member _ => same.mem_iff.mpr member⟩
  constructor
  · intro feature member running flag above
    exact sound.throttling feature (same.mem_iff.mp member) running flag (outranked.mp above)
  · intro feature member running flag top
    exact sound.releasing feature (same.mem_iff.mp member) running flag
      fun above => top (outranked.mpr above)
  · intro feature member
    exact sound.told feature (same.mem_iff.mp member)
  · intro feature member
    exact sound.restarted feature (same.mem_iff.mp member)
  · intro before message behind split action
    refine (sound.starts before message behind split action).imp_left ?_
    rintro ⟨feature, member, running, priority⟩
    exact ⟨feature, same.mem_iff.mpr member, running, priority⟩

section Calls

variable {before behind : List FeatureInfo} {feature : FeatureInfo}
  {queue : List QueuedMessage}

private theorem concat_split {before behind : List QueuedMessage} {last message : QueuedMessage}
    (split : queue ++ [last] = before ++ message :: behind) :
    (message = last ∧ behind = []) ∨
      ∃ inner, behind = inner ++ [last] ∧ queue = before ++ message :: inner := by
  cases List.eq_nil_or_concat behind with
  | inl empty =>
    rw [empty] at split
    exact Or.inl ⟨(List.singleton_injective (List.append_inj' split rfl).2).symm, empty⟩
  | inr more =>
    obtain ⟨inner, final, rfl⟩ := more
    rw [List.concat_eq_append, ← List.cons_append, ← List.append_assoc] at split
    obtain ⟨front, same⟩ := List.append_inj' split rfl
    rw [List.singleton_injective same, List.concat_eq_append]
    exact Or.inr ⟨inner, rfl, front⟩

private theorem mem_replaced {old new other : FeatureInfo}
    (member : other ∈ before ++ old :: behind) : other = old ∨ other ∈ before ++ new :: behind := by
  rcases List.mem_append.mp member with member | member
  · exact Or.inr (List.mem_append_left _ member)
  · exact (List.mem_cons.mp member).imp_right fun member =>
      List.mem_append_right before (List.mem_cons_of_mem _ member)

theorem Sound.start (sound : Sound (before ++ feature :: behind) queue)
    (idle : feature.running = false) (slot : Nat) :
    Sound (before ++ { feature with running := true, throttleRequired := false } :: behind)
      (queue ++ [⟨.start, slot, feature.priority⟩]) := by
  have waits : ∃ message ∈ queue ++ [⟨.start, slot, feature.priority⟩], message.action = .start :=
    ⟨_, List.mem_append_right queue List.mem_cons_self, rfl⟩
  have kept : ∀ other ∈ before ++ feature :: behind, other.running = true →
      other ∈ before ++ { feature with running := true, throttleRequired := false } ::
        behind := by
    intro other member running
    refine (mem_replaced member).resolve_left fun same => ?_
    rw [same, idle] at running
    contradiction
  have old : ∀ other ∈ before ++ { feature with running := true, throttleRequired := false } ::
      behind, other.throttleRequired = true → other ∈ before ++ feature :: behind := by
    intro other member flag
    refine (mem_replaced member).resolve_left fun same => ?_
    rw [same] at flag
    contradiction
  constructor
  · exact fun _ _ _ _ _ => waits
  · intro other member running flag top
    obtain ⟨message, member', action, above⟩ := sound.releasing other (old other member flag)
      running flag fun above => top (above.mono kept)
    exact ⟨message, List.mem_append_left _ member', action, above⟩
  · exact fun other member running flag => sound.told other (old other member flag) running flag
  · exact fun _ _ _ _ _ => waits
  · intro front message rest split action
    cases concat_split split with
    | inl now =>
      left
      refine ⟨_, List.mem_append_right before List.mem_cons_self, rfl, ?_⟩
      rw [now.1]
    | inr earlier =>
      obtain ⟨inner, rfl, queued⟩ := earlier
      cases sound.starts front message inner queued action with
      | inl running =>
        obtain ⟨other, member, running, priority⟩ := running
        exact Or.inl ⟨other, kept other member running, running, priority⟩
      | inr stopped =>
        obtain ⟨later, member, kind⟩ := stopped
        exact Or.inr ⟨later, List.mem_append_left _ member, kind⟩

theorem Sound.stop (sound : Sound (before ++ feature :: behind) queue) (slot : Nat) :
    Sound (before ++ { feature with running := false, throttleRequired := false } :: behind)
      (queue ++ [⟨.stop, slot, feature.priority⟩]) := by
  have old : ∀ other ∈ before ++ { feature with running := false, throttleRequired := false } ::
      behind, other.running = true → other ∈ before ++ feature :: behind := by
    intro other member running
    refine (mem_replaced member).resolve_left fun same => ?_
    rw [same] at running
    contradiction
  have waits {message : QueuedMessage} (member : message ∈ queue) :
      message ∈ queue ++ [⟨.stop, slot, feature.priority⟩] :=
    List.mem_append_left _ member
  constructor
  · intro other member running flag above
    obtain ⟨message, member', action⟩ := sound.throttling other (old other member running)
      running flag (above.mono old)
    exact ⟨message, waits member', action⟩
  · intro other member running flag top
    by_cases above : Outranked (before ++ feature :: behind) other
    · obtain ⟨higher, member', running', above⟩ := above
      cases mem_replaced member' with
      | inl same =>
        refine ⟨_, List.mem_append_right queue List.mem_cons_self, rfl, ?_⟩
        rw [← same]
        exact above
      | inr member' => exact absurd ⟨higher, member', running', above⟩ top
    · obtain ⟨message, member', action, below⟩ :=
        sound.releasing other (old other member running) running flag above
      exact ⟨message, waits member', action, below⟩
  · exact fun other member running => sound.told other (old other member running) running
  · intro other member running flag told
    obtain ⟨message, member', action⟩ :=
      sound.restarted other (old other member running) running flag told
    exact ⟨message, waits member', action⟩
  · intro front message rest split action
    cases concat_split split with
    | inl now =>
      rw [now.1] at action
      contradiction
    | inr earlier =>
      obtain ⟨inner, rfl, queued⟩ := earlier
      cases sound.starts front message inner queued action with
      | inl running =>
        obtain ⟨other, member, running, priority⟩ := running
        cases mem_replaced member with
        | inl same =>
          refine Or.inr ⟨_, List.mem_append_right inner List.mem_cons_self, rfl, ?_⟩
          rw [← priority, same]
        | inr member => exact Or.inl ⟨other, member, running, priority⟩
      | inr stopped =>
        obtain ⟨later, member, kind⟩ := stopped
        exact Or.inr ⟨later, List.mem_append_left _ member, kind⟩

end Calls

section Deliveries

variable {features : List FeatureInfo} {message : QueuedMessage} {queue : List QueuedMessage}
  {acting : FeatureInfo}

private theorem starts_behind (sound : Sound features (message :: queue)) :
    ∀ before later behind, queue = before ++ later :: behind → later.action = .start →
      (∃ feature ∈ features, feature.running = true ∧ feature.priority = later.acting) ∨
        ∃ last ∈ behind, last.action = .stop ∧ last.acting = later.acting :=
  fun before later behind split =>
    sound.starts (message :: before) later behind (by rw [split]; rfl)

variable {change : FeatureInfo → FeatureInfo}

theorem outranked_map (same : ∀ feature, (change feature).running = feature.running ∧
      (change feature).priority = feature.priority) (feature : FeatureInfo) :
    Outranked (features.map change) (change feature) ↔ Outranked features feature := by
  rw [Outranked, (same feature).2]
  constructor
  · rintro ⟨other, member, running, above⟩
    obtain ⟨old, origin, rfl⟩ := List.mem_map.mp member
    rw [(same old).1] at running
    rw [(same old).2] at above
    exact ⟨old, origin, running, above⟩
  · rintro ⟨other, member, running, above⟩
    refine ⟨change other, List.mem_map_of_mem member, ?_, ?_⟩
    · rw [(same other).1]
      exact running
    · rw [(same other).2]
      exact above

theorem throttledBelow_same (priority : Priority) (feature : FeatureInfo) :
    (feature.throttledBelow priority).running = feature.running ∧
      (feature.throttledBelow priority).priority = feature.priority := by
  rcases feature.throttledBelow_cases priority with ⟨-, -, -, same⟩ | ⟨same, -⟩
  · rw [same]
    exact ⟨rfl, rfl⟩
  · rw [same]
    exact ⟨rfl, rfl⟩

theorem releasedAt_same (priority : Priority) (feature : FeatureInfo) :
    (feature.releasedAt priority).running = feature.running ∧
      (feature.releasedAt priority).priority = feature.priority := by
  rcases feature.releasedAt_cases priority with ⟨-, -, -, same⟩ | ⟨same, -⟩
  · rw [same]
    exact ⟨rfl, rfl⟩
  · rw [same]
    exact ⟨rfl, rfl⟩

private theorem running_map {priority : Priority}
    (same : ∀ feature, (change feature).running = feature.running ∧
      (change feature).priority = feature.priority)
    (running : ∃ feature ∈ features, feature.running = true ∧ feature.priority = priority) :
    ∃ feature ∈ features.map change, feature.running = true ∧ feature.priority = priority := by
  obtain ⟨feature, member, running, priority⟩ := running
  refine ⟨change feature, List.mem_map_of_mem member, ?_, ?_⟩
  · rw [(same feature).1]
    exact running
  · rw [(same feature).2]
    exact priority

section

variable (sound : Sound features (message :: queue))

include sound

theorem Sound.handle_start_alone
    (action : message.action = .start) (alone : ¬ 1 < totalRunning features)
    (tells : TellsRestarted features message queue acting) : Sound features queue := by
  constructor
  · exact fun feature member running _ above =>
      absurd (one_lt_totalRunning member running above) alone
  · intro feature member running flag top
    obtain ⟨later, waits, stop, above⟩ := sound.releasing feature member running flag top
    cases List.mem_cons.mp waits with
    | inl same =>
      rw [same, action] at stop
      contradiction
    | inr waits => exact ⟨later, waits, stop, above⟩
  · exact sound.told
  · intro feature member running flag told
    by_contra last
    push Not at last
    exact alone (tells action last feature member running flag told).1
  · exact starts_behind sound

theorem Sound.handle_start (action : message.action = .start) (several : 1 < totalRunning features)
    (asSender : ActsAsSender features message acting)
    (tells : TellsRestarted features message queue acting) :
    Sound (handleAction features acting.priority .start) queue := by
  obtain ⟨priority, handled, kind, bound, below⟩ := handleAction_start several acting.priority
  have same := throttledBelow_same priority
  rw [handled]
  constructor
  · intro feature member running flag above
    obtain ⟨old, origin, rfl⟩ := List.mem_map.mp member
    rw [outranked_map same] at above
    rw [(same old).1] at running
    obtain ⟨other, member', running', above⟩ := above
    have under := Nat.lt_of_le_of_lt (below other member' running') above
    rcases old.throttledBelow_cases priority with ⟨-, -, -, changed⟩ | ⟨kept, already⟩
    · rw [changed] at flag
      contradiction
    · rw [kept, already under running] at flag
      contradiction
  · intro feature member running flag top
    obtain ⟨old, origin, rfl⟩ := List.mem_map.mp member
    rw [outranked_map same] at top
    rw [(same old).1] at running
    rw [(same old).2]
    rcases old.throttledBelow_cases priority with ⟨under, -, -, -⟩ | ⟨kept, -⟩
    · have absent : priority = acting.priority := by
        rcases kind with same | ⟨other, member', running', here⟩
        · exact same
        · exact absurd ⟨other, member', running', here ▸ under⟩ top
      have tops (rank : Priority) (higher : rank.level < old.priority.level) :
          OutranksAll features rank := by
        intro other member' running'
        exact Nat.lt_of_lt_of_le higher
          (Nat.not_lt.mp fun above => top ⟨other, member', running', above⟩)
      have sender : OutranksAll features message.acting :=
        (asSender fun _ => several).mp (tops acting.priority (absent ▸ under))
      cases sound.starts [] message queue rfl action with
      | inl runs =>
        obtain ⟨other, member', running', here⟩ := runs
        exact absurd (sender other member' running') (by rw [here]; exact Nat.lt_irrefl _)
      | inr stopped =>
        obtain ⟨later, waits, stop, here⟩ := stopped
        refine ⟨later, waits, stop, ?_⟩
        rw [here]
        exact sender old origin running
    · rw [kept] at flag
      obtain ⟨later, waits, stop, above⟩ := sound.releasing old origin running flag top
      cases List.mem_cons.mp waits with
      | inl same =>
        rw [same, action] at stop
        contradiction
      | inr waits => exact ⟨later, waits, stop, above⟩
  · intro feature member running flag
    obtain ⟨old, origin, rfl⟩ := List.mem_map.mp member
    rw [(same old).1] at running
    rcases old.throttledBelow_cases priority with ⟨-, -, -, changed⟩ | ⟨kept, -⟩
    · rw [changed]
      rfl
    · rw [kept] at flag ⊢
      exact sound.told old origin running flag
  · intro feature member running flag told
    obtain ⟨old, origin, rfl⟩ := List.mem_map.mp member
    rw [(same old).1] at running
    rcases old.throttledBelow_cases priority with ⟨-, -, -, changed⟩ | ⟨kept, already⟩
    · rw [changed] at flag
      contradiction
    · rw [kept] at flag told
      by_contra last
      push Not at last
      have under : priority.level < old.priority.level := by
        rcases (tells action last old origin running flag told).2 with under | above
        · exact Nat.lt_of_le_of_lt bound under
        · obtain ⟨other, member', running', above⟩ := above
          exact Nat.lt_of_le_of_lt (below other member' running') above
      rw [already under running] at flag
      contradiction
  · intro before later behind split start
    exact (starts_behind sound before later behind split start).imp_left (running_map same)

theorem Sound.handle_stop
    (action : message.action = .stop) (asSender : ActsAsSender features message acting) :
    Sound (handleAction features acting.priority .stop) queue := by
  have agrees := asSender fun start => absurd (action.symm.trans start) nofun
  have waiting (feature : FeatureInfo) (member : feature ∈ features)
      (running : feature.running = true) (flag : feature.throttleRequired = true)
      (top : ¬ Outranked features feature)
      (kept : ¬ acting.priority.level < (getHighestRunningFeaturePrio features .low).level) :
      ∃ later ∈ queue, later.action = .stop ∧ later.acting.level < feature.priority.level := by
    obtain ⟨later, waits, stop, above⟩ := sound.releasing feature member running flag top
    cases List.mem_cons.mp waits with
    | inl same =>
      have sender : OutranksAll features message.acting := by
        intro other member' running'
        rw [← same]
        exact Nat.lt_of_lt_of_le above
          (Nat.not_lt.mp fun higher => top ⟨other, member', running', higher⟩)
      have slot := agrees.mpr sender feature member running
      rw [priority_eq_highest member running top] at slot
      exact absurd slot kept
    | inr waits => exact ⟨later, waits, stop, above⟩
  have start_behind (found : ∃ later ∈ message :: queue, later.action = .start) :
      ∃ later ∈ queue, later.action = .start := by
    obtain ⟨later, waits, start⟩ := found
    cases List.mem_cons.mp waits with
    | inl same =>
      rw [same, action] at start
      contradiction
    | inr waits => exact ⟨later, waits, start⟩
  rw [handleAction_stop]
  split
  · rename_i releases
    have same := releasedAt_same (getHighestRunningFeaturePrio features .low)
    constructor
    · intro feature member running flag above
      obtain ⟨old, origin, rfl⟩ := List.mem_map.mp member
      rw [outranked_map same] at above
      rw [(same old).1] at running
      rcases old.releasedAt_cases (getHighestRunningFeaturePrio features .low) with
        ⟨here, -, -, -⟩ | ⟨kept, -⟩
      · obtain ⟨other, member', running', above⟩ := above
        have bound := (getHighestRunningFeaturePrio_spec features .low).2.2 other member' running'
        rw [here] at bound
        exact absurd above (Nat.not_lt.mpr bound)
      · rw [kept] at flag
        exact start_behind (sound.throttling old origin running flag above)
    · intro feature member running flag top
      obtain ⟨old, origin, rfl⟩ := List.mem_map.mp member
      rw [outranked_map same] at top
      rw [(same old).1] at running
      rcases old.releasedAt_cases (getHighestRunningFeaturePrio features .low) with
        ⟨-, -, -, changed⟩ | ⟨kept, elsewhere⟩
      · rw [changed] at flag
        contradiction
      · rw [kept] at flag
        have here := (priority_eq_highest origin running top).symm
        rw [elsewhere here running] at flag
        contradiction
    · intro feature member running flag
      obtain ⟨old, origin, rfl⟩ := List.mem_map.mp member
      rw [(same old).1] at running
      rcases old.releasedAt_cases (getHighestRunningFeaturePrio features .low) with
        ⟨-, -, -, changed⟩ | ⟨kept, -⟩
      · rw [changed] at flag
        contradiction
      · rw [kept] at flag ⊢
        exact sound.told old origin running flag
    · intro feature member running flag told
      obtain ⟨old, origin, rfl⟩ := List.mem_map.mp member
      rw [(same old).1] at running
      rcases old.releasedAt_cases (getHighestRunningFeaturePrio features .low) with
        ⟨-, -, -, changed⟩ | ⟨kept, -⟩
      · rw [changed] at told
        exact absurd (Option.some.inj told) Bool.false_ne_true
      · rw [kept] at flag told
        exact start_behind (sound.restarted old origin running flag told)
    · intro before later behind split start
      exact (starts_behind sound before later behind split start).imp_left (running_map same)
  · rename_i holds
    constructor
    · exact fun feature member running flag above =>
        start_behind (sound.throttling feature member running flag above)
    · exact fun feature member running flag top =>
        waiting feature member running flag top fun above =>
          holds ⟨totalRunning_pos member running, above⟩
    · exact sound.told
    · exact fun feature member running flag told =>
        start_behind (sound.restarted feature member running flag told)
    · exact starts_behind sound

end

end Deliveries

section Runs

variable {info next : Info}

section

variable (sound : Sound info.featureInfo info.queue)

include sound

theorem Sound.act {slot : Nat}
    {feature : FeatureInfo} (here : info.featureInfo[slot]? = some feature) :
    (feature.running = false → ∀ activeFeaturesNum,
      Sound (info.act slot { feature with running := true, throttleRequired := false } .start
        activeFeaturesNum).featureInfo
        (info.act slot { feature with running := true, throttleRequired := false } .start
          activeFeaturesNum).queue) ∧
    ∀ activeFeaturesNum,
      Sound (info.act slot { feature with running := false, throttleRequired := false } .stop
        activeFeaturesNum).featureInfo
        (info.act slot { feature with running := false, throttleRequired := false } .stop
          activeFeaturesNum).queue := by
  obtain ⟨inside, same⟩ := List.getElem?_eq_some_iff.mp here
  have split : info.featureInfo =
      info.featureInfo.take slot ++ feature :: info.featureInfo.drop (slot + 1) := by
    rw [← same, ← List.drop_eq_getElem_cons inside, List.take_append_drop]
  have changed (other : FeatureInfo) : info.featureInfo.set slot other =
      info.featureInfo.take slot ++ other :: info.featureInfo.drop (slot + 1) := by
    rw [List.set_eq_take_append_cons_drop, if_pos inside]
  rw [split] at sound
  constructor
  · intro idle activeFeaturesNum
    rw [Info.act, changed]
    exact (sound.start idle _).perm (arrangeFeatureSlot_perm _ slot)
  · intro activeFeaturesNum
    rw [Info.act, changed]
    exact (sound.stop _).perm (arrangeFeatureSlot_perm _ slot)

theorem Sound.featureStart (identifier : FeatureId) :
    Sound (info.featureStart identifier).1.featureInfo
      (info.featureStart identifier).1.queue := by
  rw [Info.featureStart]
  split
  · exact sound
  · split
    · exact sound
    · rename_i here
      split
      · exact sound
      · rename_i idle
        exact (sound.act here).1 (by simpa using idle) _

theorem Sound.featureStop (identifier : FeatureId) :
    Sound (info.featureStop identifier).1.featureInfo
      (info.featureStop identifier).1.queue := by
  rw [Info.featureStop]
  split
  · exact sound
  · split
    · exact sound
    · rename_i here
      split
      · exact sound
      · exact (sound.act here).2 _

theorem Sound.handleMessage
    (trusted : Trusted info .handleMessage) (handled : info.handleMessage = some next) :
    Sound next.featureInfo next.queue := by
  rw [Info.handleMessage] at handled
  split at handled
  · contradiction
  · rename_i message queue queued
    obtain ⟨acting, here, rfl⟩ := Option.map_eq_some_iff.mp handled
    obtain ⟨asSender, tells⟩ := trusted rfl message (by rw [queued]; rfl) acting here
    rw [queued] at sound tells
    cases action : message.action with
    | start =>
      by_cases several : 1 < totalRunning info.featureInfo
      · exact sound.handle_start action several asSender tells
      · rw [handleAction_start_alone several]
        exact sound.handle_start_alone action several tells
    | stop => exact sound.handle_stop action asSender

theorem Sound.step {event : Event}
    (trusted : Trusted info event) (steps : info.step event = some next) :
    Sound next.featureInfo next.queue := by
  cases event with
  | featureStart identifier => exact Option.some.inj steps ▸ sound.featureStart identifier
  | featureStop identifier => exact Option.some.inj steps ▸ sound.featureStop identifier
  | handleMessage => exact sound.handleMessage trusted steps

end

theorem registered_idle (registrations : List Registration) :
    (Info.registered registrations).queue = [] ∧
      ∀ feature ∈ (Info.registered registrations).featureInfo, feature.running = false := by
  induction registrations using List.reverseRecOn with
  | nil => exact ⟨rfl, nofun⟩
  | append_singleton registrations registration ih =>
    rw [Info.registered, List.foldl_append]
    obtain ⟨empty, idle⟩ := ih
    change (Info.registerFeature (Info.registered registrations) _ _ _).1.queue = [] ∧
      ∀ feature ∈ (Info.registerFeature (Info.registered registrations) _ _ _).1.featureInfo, _
    generalize Info.registered registrations = info at empty idle
    rw [Info.registerFeature.eq_def]
    split
    · split
      · exact ⟨empty, idle⟩
      · split
        · exact ⟨empty, idle⟩
        · dsimp only
          split
          · refine ⟨empty, fun feature member => ?_⟩
            cases List.mem_append.mp member with
            | inl member => exact idle feature member
            | inr member => rw [List.mem_singleton.mp member]
          · refine ⟨empty, fun feature member => ?_⟩
            cases List.mem_or_eq_of_mem_set member with
            | inl member => exact idle feature member
            | inr same => rw [same]
    · exact ⟨empty, idle⟩

theorem Sound.registered (registrations : List Registration) :
    Sound (Info.registered registrations).featureInfo (Info.registered registrations).queue := by
  obtain ⟨empty, idle⟩ := registered_idle registrations
  have never {feature : FeatureInfo}
      (member : feature ∈ (Info.registered registrations).featureInfo)
      (running : feature.running = true) : False := by
    rw [idle feature member] at running
    contradiction
  refine ⟨?_, ?_, ?_, ?_, fun before message behind split => ?_⟩
  case refine_5 =>
    rw [empty] at split
    exact absurd split.symm (List.append_ne_nil_of_right_ne_nil before (List.cons_ne_nil _ _))
  all_goals exact fun _ member running => (never member running).elim

/-- Once all messages are handled, the running features that are outranked are throttled,
only they are, and each was last told so. -/
theorem reached_throttled {registrations : List Registration}
    (reached : Reached Info.step Trusted (Info.registered registrations) info)
    (drained : info.queue = []) : Throttled info.featureInfo := by
  have sound : Sound info.featureInfo info.queue := by
    clear drained
    induction reached with
    | start => exact Sound.registered registrations
    | step event _ trusted steps ih => exact ih.step trusted steps
  rw [drained] at sound
  exact sound.throttled

def threeFeatures : List Registration :=
  [⟨.esco, some .high, false⟩, ⟨.pageScan, some .low, true⟩, ⟨.dfu, some .low, true⟩]

def callEnds : List Event :=
  [.featureStart .esco, .featureStart .pageScan, .featureStart .dfu, .handleMessage,
    .handleMessage, .handleMessage, .featureStop .esco, .handleMessage]

theorem callEnds_throttled :
    ∃ info, runAllowed Info.step Trusted callEnds (Info.registered threeFeatures) = some info ∧
      info.featureInfo.map (fun feature => (feature.identifier, feature.running)) =
        [(.pageScan, true), (.dfu, true), (.esco, false)] ∧
      Throttled info.featureInfo := by
  have found : (runAllowed Info.step Trusted callEnds (Info.registered threeFeatures)).any
      (fun info => decide (info.featureInfo.map
        (fun feature => (feature.identifier, feature.running)) =
          [(.pageScan, true), (.dfu, true), (.esco, false)] ∧ info.queue = [])) = true := by
    decide +kernel
  obtain ⟨info, runs, shown⟩ := (Option.any_eq_true _ _).mp found
  obtain ⟨features, drained⟩ := of_decide_eq_true shown
  exact ⟨info, runs, features, reached_throttled (Reached.start.run runs) drained⟩

/-- Both messages find page scan in their slot, and the upgrade stays throttled with nothing else
running. -/
theorem stoppedTogether_staysThrottled :
    ∃ info, [.featureStart .esco, .featureStart .pageScan, .featureStart .dfu,
        .handleMessage, .handleMessage, .handleMessage, .featureStop .esco,
        .featureStop .pageScan, .handleMessage, .handleMessage].foldlM Info.step
        (Info.registered threeFeatures) = some info ∧
      info.queue = [] ∧
      info.featureInfo.map (fun feature => (feature.identifier, feature.running)) =
        [(.dfu, true), (.esco, false), (.pageScan, false)] ∧
      ¬ Throttled info.featureInfo := by
  have found : ([.featureStart .esco, .featureStart .pageScan, .featureStart .dfu,
        .handleMessage, .handleMessage, .handleMessage, .featureStop .esco,
        .featureStop .pageScan, .handleMessage, .handleMessage].foldlM Info.step
        (Info.registered threeFeatures)).any (fun info => decide (info.queue = [] ∧
          info.featureInfo = [⟨true, .low, true, true, .dfu, some true⟩,
              ⟨false, .high, false, false, .esco, none⟩,
              ⟨true, .low, false, false, .pageScan, some true⟩])) = true := by
    decide +kernel
  obtain ⟨info, runs, shown⟩ := (Option.any_eq_true _ _).mp found
  obtain ⟨drained, features⟩ := of_decide_eq_true shown
  refine ⟨info, runs, drained, by rw [features]; decide, fun throttled => ?_⟩
  rw [features] at throttled
  have alone := (throttled _ List.mem_cons_self rfl).1.mp rfl
  exact absurd alone (by decide)

end Runs

end HeadsetAdk.BandwidthManager
