import HeadsetAdk.Hdma.Evidence

/-! # Recommended handovers have evidence -/

namespace HeadsetAdk.Hdma

/-- The samples that a reason for a handover rests on. -/
def Reason.measures : Reason → Option QueueType
  | .rssi => some .rssi
  | .voiceQuality => some .mic
  | .linkQuality => some .linkQuality
  | _ => none

def HandoverResult.Evidenced (result : HandoverResult) (timestamp : Nat)
    (localBud remoteBud : BudInfo) : Prop :=
  ∀ type, result.reason.measures = some type → result.handover = true →
    ∃ level : Level, result.urgency = level.urgency ∧
      Evidence type level timestamp (localBud.queue type).taken (remoteBud.queue type).taken

def Notification.Evidenced (notification : Notification) : Prop :=
  ∀ reason urgency type, notification.recommended = some (reason, urgency) →
    reason.measures = some type →
    ∃ level : Level, urgency = level.urgency ∧
      Evidence type level notification.timestamp (notification.localBud.queue type).taken
        (notification.remoteBud.queue type).taken

structure CoreData.Judged (data : CoreData) (timestamp : Nat) : Prop where
  signal : data.skipRSSIChk = false → ∃ urgency,
    validateLink timestamp data.localBud data.remoteBud = some urgency ∧
      ∀ level : Level, urgency = level.urgency → Evidence .rssi level timestamp
        data.localBud.phoneRSSI.taken data.remoteBud.phoneRSSI.taken
  link : data.skipRSSIChk = false → ∃ judged,
    validateLinkQuality timestamp data.localBud data.remoteBud = some judged ∧
      ∀ level : Level, judged.1 = level.urgency → Evidence .linkQuality level timestamp
        data.localBud.linkQuality.taken data.remoteBud.linkQuality.taken
  voice : data.skipVoiceChk = false → ∃ judged,
    validateVoiceQuality timestamp data.localBud data.remoteBud = some judged ∧
      (∀ level : Level, judged.1 = level.urgency → Evidence .mic level timestamp
        data.localBud.voiceQuality.taken data.remoteBud.voiceQuality.taken) ∧
      ∀ level : Level, judged.2 = level.urgency → Evidence .mic level timestamp
        data.remoteBud.voiceQuality.taken data.localBud.voiceQuality.taken

theorem Level.only (level : Level) {property : Level → Prop} (holds : property level)
    (other : Level) (same : level.urgency = other.urgency) : property other := by
  have levels : level = other := by
    cases level <;> cases other <;> first | rfl | exact Urgency.noConfusion same
  exact levels ▸ holds

theorem Level.urgency_valid (level : Level) : level.urgency ≠ .invalid := by
  cases level <;> exact Urgency.noConfusion

theorem Urgency.level {urgency : Urgency} (valid : urgency ≠ .invalid) :
    ∃ level : Level, urgency = level.urgency := by
  cases urgency with
  | invalid => exact absurd rfl valid
  | low => exact ⟨.low, rfl⟩
  | high => exact ⟨.high, rfl⟩
  | critical => exact ⟨.critical, rfl⟩

section Validations

variable {timestamp : Nat} {localBud remoteBud : BudInfo}

theorem validateLink_evidence (heard : localBud.phoneRSSI.Heard timestamp)
    (heard' : remoteBud.phoneRSSI.Heard timestamp)
    (readable : EveryLevel fun level => LinkReadable level timestamp localBud remoteBud) :
    ∃ urgency, validateLink timestamp localBud remoteBud = some urgency ∧
      ∀ level : Level, urgency = level.urgency → Evidence .rssi level timestamp
        localBud.phoneRSSI.taken remoteBud.phoneRSSI.taken := by
  have checks (level : Level) := checkRSSILevelAt_evidence heard heard'
    (readable.for_level level).notStale (readable.for_level level).notTiedRSSI
  obtain ⟨critical, checked, evidence⟩ := checks .critical
  obtain ⟨high, checked', evidence'⟩ := checks .high
  obtain ⟨low, checked'', evidence''⟩ := checks .low
  rw [validateLink, checked, checked', checked'']
  cases critical with
  | true => exact ⟨.critical, rfl, Level.critical.only (evidence rfl)⟩
  | false =>
    cases high with
    | true => exact ⟨.high, rfl, Level.high.only (evidence' rfl)⟩
    | false =>
      cases low with
      | true => exact ⟨.low, rfl, Level.low.only (evidence'' rfl)⟩
      | false => exact ⟨.invalid, rfl, fun level same => absurd same.symm level.urgency_valid⟩

theorem validateLinkQuality_evidence (heard : localBud.linkQuality.Heard timestamp)
    (heard' : remoteBud.linkQuality.Heard timestamp)
    (readable : EveryLevel fun level => LinkReadable level timestamp localBud remoteBud) :
    ∃ judged, validateLinkQuality timestamp localBud remoteBud = some judged ∧
      ∀ level : Level, judged.1 = level.urgency → Evidence .linkQuality level timestamp
        localBud.linkQuality.taken remoteBud.linkQuality.taken := by
  have checks (level : Level) :=
    checkLinkQualityLevelAt_evidence heard heard' (readable.for_level level)
  obtain ⟨⟨critical, lowest⟩, checked, evidence⟩ := checks .critical
  obtain ⟨⟨high, lowest'⟩, checked', evidence'⟩ := checks .high
  obtain ⟨⟨low, lowest''⟩, checked'', evidence''⟩ := checks .low
  rw [validateLinkQuality, checked, checked', checked'']
  cases critical with
  | true => exact ⟨(.critical, lowest), rfl, Level.critical.only (evidence rfl)⟩
  | false =>
    cases high with
    | true => exact ⟨(.high, lowest'), rfl, Level.high.only (evidence' rfl)⟩
    | false =>
      cases low with
      | true => exact ⟨(.low, lowest''), rfl, Level.low.only (evidence'' rfl)⟩
      | false =>
        exact ⟨(.invalid, lowest''), rfl, fun level same => absurd same.symm level.urgency_valid⟩

theorem validateVoiceQuality_evidence (heard : localBud.voiceQuality.Heard timestamp)
    (heard' : remoteBud.voiceQuality.Heard timestamp)
    (known : ∀ sample ∈ localBud.voiceQuality.taken, sample.data < unknownQuality)
    (known' : ∀ sample ∈ remoteBud.voiceQuality.taken, sample.data < unknownQuality) :
    ∃ judged, validateVoiceQuality timestamp localBud remoteBud = some judged ∧
      (∀ level : Level, judged.1 = level.urgency → Evidence .mic level timestamp
        localBud.voiceQuality.taken remoteBud.voiceQuality.taken) ∧
      ∀ level : Level, judged.2 = level.urgency → Evidence .mic level timestamp
        remoteBud.voiceQuality.taken localBud.voiceQuality.taken := by
  have checks (level : Level) := @checkVoiceQualityAt_evidence level _ _ _ heard heard' known known'
  have invalid {property : Level → Prop} (level : Level)
      (same : Urgency.invalid = level.urgency) : property level :=
    absurd same.symm level.urgency_valid
  obtain ⟨⟨otherCritical, thisCritical⟩, checked, other, this⟩ := checks .critical
  obtain ⟨⟨otherHigh, thisHigh⟩, checked', other', this'⟩ := checks .high
  obtain ⟨⟨otherLow, thisLow⟩, checked'', other'', this''⟩ := checks .low
  rw [validateVoiceQuality, checked, checked', checked'']
  cases otherCritical with
  | true => exact ⟨(.critical, .invalid), rfl, Level.critical.only (other rfl), invalid⟩
  | false =>
  cases thisCritical with
  | true => exact ⟨(.invalid, .critical), rfl, invalid, Level.critical.only (this rfl)⟩
  | false =>
  cases otherHigh with
  | true => exact ⟨(.high, .invalid), rfl, Level.high.only (other' rfl), invalid⟩
  | false =>
  cases thisHigh with
  | true => exact ⟨(.invalid, .high), rfl, invalid, Level.high.only (this' rfl)⟩
  | false =>
  cases otherLow with
  | true => exact ⟨(.low, .invalid), rfl, Level.low.only (other'' rfl), invalid⟩
  | false =>
  cases thisLow with
  | true => exact ⟨(.invalid, .low), rfl, invalid, Level.low.only (this'' rfl)⟩
  | false => exact ⟨(.invalid, .invalid), rfl, invalid, invalid⟩

end Validations

section Results

variable {result other : HandoverResult} {timestamp : Nat} {localBud remoteBud : BudInfo}

theorem newResult_evidenced {reason : Reason} (unmeasured : reason.measures = none)
    (urgency : Urgency) : (newResult reason urgency).Evidenced timestamp localBud remoteBud :=
  fun _ measures _ => absurd (measures.symm.trans unmeasured) (Option.some_ne_none _)

section

variable (evidenced : result.Evidenced timestamp localBud remoteBud)

include evidenced

theorem mergeResult_evidenced (evidenced' : other.Evidenced timestamp localBud remoteBud) :
    (mergeResult result other).Evidenced timestamp localBud remoteBud := by
  rw [mergeResult]
  split
  · exact evidenced
  · exact evidenced'

theorem linkDriven_evidenced {urgency : Urgency}
    (judged : ∀ level : Level, urgency = level.urgency →
      Evidence .linkQuality level timestamp localBud.linkQuality.taken
        remoteBud.linkQuality.taken) :
    (CoreData.linkDriven result urgency).Evidenced timestamp localBud remoteBud := by
  have driven (valid : urgency ≠ .invalid) :
      (newResult .linkQuality urgency).Evidenced timestamp localBud remoteBud := by
    obtain ⟨level, same⟩ := Urgency.level valid
    intro type measures _
    cases Option.some.inj measures
    exact ⟨level, same, judged level same⟩
  have cancelled := @newResult_evidenced timestamp localBud remoteBud .invalid rfl .invalid
  rw [CoreData.linkDriven]
  split
  next valid =>
    have merged := mergeResult_evidenced evidenced (driven valid)
    split
    · split
      · exact evidenced
      · split
        · exact merged
        · exact cancelled
    · split
      · exact merged
      · exact evidenced
  next =>
    split
    · exact cancelled
    · exact evidenced

theorem voiceDriven_evidenced {urgency suppressUrgency : Urgency}
    (judged : ∀ level : Level, urgency = level.urgency →
      Evidence .mic level timestamp localBud.voiceQuality.taken remoteBud.voiceQuality.taken) :
    (CoreData.voiceDriven result urgency suppressUrgency).Evidenced timestamp localBud
      remoteBud := by
  have merged : (if urgency ≠ .invalid then mergeResult result (newResult .voiceQuality urgency)
      else result).Evidenced timestamp localBud remoteBud := by
    split
    next valid =>
      refine mergeResult_evidenced evidenced fun type measures _ => ?_
      obtain ⟨level, same⟩ := Urgency.level valid
      cases Option.some.inj measures
      exact ⟨level, same, judged level same⟩
    next => exact evidenced
  rw [CoreData.voiceDriven]
  generalize (if urgency ≠ .invalid then mergeResult result (newResult .voiceQuality urgency)
    else result) = merged' at merged
  split
  · exact newResult_evidenced rfl .invalid
  · exact merged

end

end Results

namespace BudInfo

structure Aligned (bud : BudInfo) (now : Nat) : Prop where
  queues : ∀ type, (bud.queue type).Aligned now
  known : ∀ sample ∈ bud.voiceQuality.taken, sample.data < unknownQuality

def youngLink (bud : BudInfo) (timestamp : Nat) : Bool :=
  !bud.phoneRSSI.outlived timestamp && !bud.linkQuality.outlived timestamp

variable {bud other : BudInfo} {now timestamp : Nat}

theorem Aligned.later (aligned : bud.Aligned now) (after : now ≤ timestamp) :
    bud.Aligned timestamp :=
  ⟨fun type => (aligned.queues type).later after, aligned.known⟩

theorem Aligned.congr (aligned : bud.Aligned now) (same : other.queue = bud.queue) :
    other.Aligned now :=
  ⟨fun type => (congrFun same type).symm ▸ aligned.queues type,
    (congrArg Queue.taken (congrFun same .mic)).symm ▸ aligned.known⟩

theorem queue_rssi (bud : BudInfo) : bud.queue .rssi = bud.phoneRSSI :=
  rfl

theorem queue_mic (bud : BudInfo) : bud.queue .mic = bud.voiceQuality :=
  rfl

theorem queue_linkQuality (bud : BudInfo) : bud.queue .linkQuality = bud.linkQuality :=
  rfl

theorem Aligned.of_queues (signal : bud.phoneRSSI.Aligned now)
    (voice : bud.voiceQuality.Aligned now) (quality : bud.linkQuality.Aligned now)
    (known : ∀ sample ∈ bud.voiceQuality.taken, sample.data < unknownQuality) :
    bud.Aligned now := by
  refine ⟨fun type => ?_, known⟩
  cases type with
  | rssi => rwa [queue_rssi]
  | mic => rwa [queue_mic]
  | linkQuality => rwa [queue_linkQuality]

section

variable (aligned : bud.Aligned now) (after : now ≤ timestamp) (clock : timestamp < 2 ^ 32)

include aligned after clock

theorem Aligned.hear {voiceQuality : UInt8} (known : voiceQuality.toNat ≠ unknownQuality)
    (kept : ¬ bud.voiceQuality.StrandsFront timestamp) :
    Aligned { bud with voiceQuality := bud.voiceQuality.insert voiceQuality.toNat timestamp }
      timestamp := by
  have narrow := voiceQuality.toNat_lt
  rw [unknownQuality] at known
  have voice : bud.voiceQuality.Aligned now := aligned.queues .mic
  have heard := voice.insert after (show voiceQuality.toNat < 2 ^ 16 by omega) clock kept
  have signal : bud.phoneRSSI.Aligned now := aligned.queues .rssi
  have quality : bud.linkQuality.Aligned now := aligned.queues .linkQuality
  refine of_queues (signal.later after) heard.1 (quality.later after) fun sample member => ?_
  cases Queue.mem_insert member with
  | inl same =>
    rw [same, unknownQuality]
    dsimp only
    omega
  | inr old => exact aligned.known sample old

theorem Aligned.measure (rssi : Int8) (linkQuality : UInt16)
    (kept : ¬ bud.phoneRSSI.StrandsFront timestamp)
    (kept' : ¬ bud.linkQuality.StrandsFront timestamp) :
    Aligned
      { bud with
        phoneRSSI := bud.phoneRSSI.insert (toUInt16 rssi.toInt).toNat timestamp
        linkQuality := bud.linkQuality.insert linkQuality.toNat timestamp } timestamp := by
  have narrow := linkQuality.toNat_lt
  have narrow' : (toUInt16 rssi.toInt).toNat < 2 ^ 16 := by
    rw [toUInt16]
    omega
  have signal : bud.phoneRSSI.Aligned now := aligned.queues .rssi
  have quality : bud.linkQuality.Aligned now := aligned.queues .linkQuality
  have measured := signal.insert after narrow' clock kept
  have measured' := quality.insert after narrow clock kept'
  have voice : bud.voiceQuality.Aligned now := aligned.queues .mic
  exact of_queues measured.1 (voice.later after) measured'.1 aligned.known

end

theorem Aligned.empty (aligned : bud.Aligned now) :
    Aligned { bud with
      phoneRSSI := bud.phoneRSSI.create
      linkQuality := bud.linkQuality.create } now :=
  of_queues Queue.Aligned.create (aligned.queues .mic) Queue.Aligned.create aligned.known

end BudInfo

namespace CoreData

def updating (data : CoreData) (timestamp : Nat) : CoreData :=
  { data with timestamp := timestamp }.seenInEar timestamp

/-- No check of an update misreads its queues. -/
def Readable (data : CoreData) (timestamp : Nat) : Prop :=
  (data.skipRSSIChk = false →
    (EveryLevel fun level => LinkReadable level timestamp data.localBud data.remoteBud) ∧
      data.localBud.youngLink timestamp = true ∧ data.remoteBud.youngLink timestamp = true) ∧
  (data.skipVoiceChk = false →
    data.localBud.voiceQuality.outlived timestamp = false ∧
      data.remoteBud.voiceQuality.outlived timestamp = false)

instance (data : CoreData) (timestamp : Nat) : Decidable (data.Readable timestamp) :=
  inferInstanceAs (Decidable ((_ → _) ∧ (_ → _)))

def Strands (data : CoreData) : Event → Prop
  | .voiceQuality timestamp isThisBud voiceQuality =>
      voiceQuality.toNat ≠ unknownQuality ∧
        (if isThisBud then data.localBud else data.remoteBud).voiceQuality.StrandsFront timestamp
  | .linkQuality timestamp isThisBud _ _ =>
      (if isThisBud then data.localBud else data.remoteBud).phoneRSSI.StrandsFront timestamp ∨
        (if isThisBud then data.localBud else data.remoteBud).linkQuality.StrandsFront timestamp
  | _ => False

instance (data : CoreData) (event : Event) : Decidable (data.Strands event) :=
  match event with
  | .voiceQuality _ _ _ => inferInstanceAs (Decidable (_ ∧ _))
  | .linkQuality _ _ _ _ => inferInstanceAs (Decidable (_ ∨ _))
  | .core _ _ => inferInstanceAs (Decidable False)
  | .batteryStatus _ _ _ => inferInstanceAs (Decidable False)
  | .internal _ => inferInstanceAs (Decidable False)
  | .external _ _ => inferInstanceAs (Decidable False)
  | .mirrorAclConnection => inferInstanceAs (Decidable False)

/-- Time does not go back, and fits into its width. -/
def Timely (data : CoreData) (event : Event) : Prop :=
  data.clock ≤ data.eventTime event ∧ data.eventTime event < 2 ^ 32

instance (data : CoreData) (event : Event) : Decidable (data.Timely event) :=
  inferInstanceAs (Decidable (_ ∧ _))

def Clear (data : CoreData) (event : Event) : Prop :=
  data.Timely event ∧ ¬ data.Strands event ∧
    (updates event = true →
      ((data.received event).updating (data.eventTime event)).Readable (data.eventTime event))

instance (data : CoreData) (event : Event) : Decidable (data.Clear event) :=
  inferInstanceAs (Decidable (_ ∧ _ ∧ (_ → _)))

/-- The queues of the buds hold their samples. -/
structure Held (data : CoreData) (now : Nat) : Prop where
  localBud : data.localBud.Aligned now
  remoteBud : data.remoteBud.Aligned now

/-- The queues of the buds hold their samples, and what was recommended has evidence. -/
structure Sound (data : CoreData) : Prop where
  held : data.Held data.clock
  notified : ∀ notification ∈ data.notified, notification.Evidenced

variable {data : CoreData} {timestamp now : Nat}

theorem Held.later (held : data.Held now) (after : now ≤ timestamp) : data.Held timestamp :=
  ⟨held.localBud.later after, held.remoteBud.later after⟩

theorem Held.updating (held : data.Held now) : (data.updating timestamp).Held now := by
  constructor
  · refine held.localBud.congr ?_
    rw [CoreData.updating, seenInEar]
    dsimp only
    split <;> rfl
  · refine held.remoteBud.congr ?_
    rw [CoreData.updating, seenInEar]
    dsimp only
    split <;> rfl

theorem Held.judged (held : data.Held timestamp) (clock : timestamp < 2 ^ 32)
    (readable : data.Readable timestamp) : data.Judged timestamp := by
  refine ⟨fun checked => ?_, fun checked => ?_, fun checked => ?_⟩
  · obtain ⟨levels, young, young'⟩ := readable.1 checked
    rw [BudInfo.youngLink, Bool.and_eq_true, Bool.not_eq_true', Bool.not_eq_true'] at young young'
    exact validateLink_evidence ⟨held.localBud.queues .rssi, clock, young.1⟩
      ⟨held.remoteBud.queues .rssi, clock, young'.1⟩ levels
  · obtain ⟨levels, young, young'⟩ := readable.1 checked
    rw [BudInfo.youngLink, Bool.and_eq_true, Bool.not_eq_true', Bool.not_eq_true'] at young young'
    exact validateLinkQuality_evidence ⟨held.localBud.queues .linkQuality, clock, young.2⟩
      ⟨held.remoteBud.queues .linkQuality, clock, young'.2⟩ levels
  · obtain ⟨young, young'⟩ := readable.2 checked
    exact validateVoiceQuality_evidence ⟨held.localBud.queues .mic, clock, young⟩
      ⟨held.remoteBud.queues .mic, clock, young'⟩ held.localBud.known held.remoteBud.known

theorem setHandoverEvent_notified {result : HandoverResult}
    (evidenced : result.Evidenced data.timestamp data.localBud data.remoteBud)
    (notified : ∀ notification ∈ data.notified, notification.Evidenced) :
    ∀ notification ∈ (data.setHandoverEvent result).notified, notification.Evidenced := by
  rw [setHandoverEvent]
  split
  · intro notification member
    cases List.mem_cons.mp member with
    | inl same =>
      subst same
      exact fun _ _ _ recommended => absurd recommended.symm (Option.some_ne_none _)
    | inr member => exact notified notification member
  next handover =>
    split
    · exact notified
    · intro notification member
      cases List.mem_cons.mp member with
      | inl same =>
        subst same
        intro reason urgency type recommended measures
        cases Option.some.inj recommended
        exact evidenced type measures (by simpa using handover)
      | inr member => exact notified notification member

theorem setHandoverEvent_frame (data : CoreData) (result : HandoverResult) :
    (data.setHandoverEvent result).localBud = data.localBud ∧
      (data.setHandoverEvent result).remoteBud = data.remoteBud ∧
      (data.setHandoverEvent result).clock = data.clock := by
  rw [setHandoverEvent]
  split
  · exact ⟨rfl, rfl, rfl⟩
  · split <;> exact ⟨rfl, rfl, rfl⟩

section Cases

variable {seen : CoreData} {result : HandoverResult} {localBud remoteBud : BudInfo}

section

variable (evidenced : result.Evidenced timestamp localBud remoteBud)

include evidenced

theorem inCaseResult_evidenced :
    (data.inCaseResult result).Evidenced timestamp localBud remoteBud := by
  rw [inCaseResult]
  split
  · exact mergeResult_evidenced evidenced (newResult_evidenced rfl _)
  · exact evidenced

theorem batteryResult_evidenced :
    (data.batteryResult result).Evidenced timestamp localBud remoteBud := by
  rw [batteryResult]
  split
  · split
    · exact evidenced
    · exact mergeResult_evidenced evidenced (newResult_evidenced rfl _)
  · exact evidenced

theorem outOfEarResult_evidenced :
    (data.outOfEarResult timestamp result).Evidenced timestamp localBud remoteBud := by
  rw [outOfEarResult]
  split
  · split
    · exact mergeResult_evidenced evidenced (newResult_evidenced rfl _)
    · exact evidenced
  · exact evidenced

theorem externalResult_evidenced :
    (data.externalResult result).Evidenced timestamp localBud remoteBud := by
  rw [externalResult]
  split
  next requested =>
    have reason : data.hdmaResult.reason = .external :=
      of_decide_eq_true (Bool.and_eq_true_iff.mp requested).2
    refine mergeResult_evidenced evidenced (newResult_evidenced ?_ _)
    rw [reason]
    rfl
  next => exact evidenced

end

section

variable (judged : seen.Judged timestamp)
  (evidenced : result.Evidenced timestamp seen.localBud seen.remoteBud)

include judged evidenced

theorem rssiResult_evidenced :
    ∃ next, seen.rssiResult timestamp result = some next ∧
      next.Evidenced timestamp seen.localBud seen.remoteBud := by
  rw [rssiResult]
  cases skipped : seen.skipRSSIChk with
  | true => exact ⟨result, rfl, evidenced⟩
  | false =>
    obtain ⟨urgency, validated, evidence⟩ := judged.signal skipped
    rw [validated]
    refine ⟨_, rfl, ?_⟩
    dsimp only
    split
    next valid =>
      refine mergeResult_evidenced evidenced fun type measures _ => ?_
      obtain ⟨level, same⟩ := Urgency.level valid
      cases Option.some.inj measures
      exact ⟨level, same, evidence level same⟩
    next => exact evidenced

theorem linkResult_evidenced :
    ∃ next, seen.linkResult timestamp result = some next ∧
      next.1.Evidenced timestamp seen.localBud seen.remoteBud := by
  rw [linkResult]
  cases skipped : seen.skipRSSIChk with
  | true => exact ⟨(result, seen.lowestLQ), rfl, evidenced⟩
  | false =>
    obtain ⟨quality, validated, evidence⟩ := judged.link skipped
    rw [validated]
    exact ⟨(linkDriven result quality.1, quality.2), rfl, linkDriven_evidenced evidenced evidence⟩

theorem voiceResult_evidenced :
    ∃ next, seen.voiceResult timestamp result = some next ∧
      next.Evidenced timestamp seen.localBud seen.remoteBud := by
  rw [voiceResult]
  cases skipped : seen.skipVoiceChk with
  | true => exact ⟨result, rfl, evidenced⟩
  | false =>
    obtain ⟨quality, validated, evidence, _⟩ := judged.voice skipped
    rw [validated]
    exact ⟨_, rfl, voiceDriven_evidenced evidenced evidence⟩

end

end Cases

theorem stateUpdate_evidenced (judged : (data.updating timestamp).Judged timestamp)
    (notified : ∀ notification ∈ data.notified, notification.Evidenced) :
    ∃ next, data.stateUpdate timestamp = some next ∧
      next.localBud = (data.updating timestamp).localBud ∧
      next.remoteBud = (data.updating timestamp).remoteBud ∧ next.clock = data.clock ∧
      ∀ notification ∈ next.notified, notification.Evidenced := by
  rw [stateUpdate, if_neg (fun early => Nat.not_lt_zero _ early.2)]
  dsimp only
  rw [show ({ data with timestamp := timestamp } : CoreData).seenInEar timestamp =
    data.updating timestamp from rfl]
  have seenTime : (data.updating timestamp).timestamp = timestamp := rfl
  have seenClock : (data.updating timestamp).clock = data.clock := rfl
  have seenNotified : (data.updating timestamp).notified = data.notified := rfl
  generalize data.updating timestamp = seen at *
  have worn : (seen.outOfEarResult timestamp
      (data.batteryResult (data.inCaseResult (newResult .invalid .invalid)))).Evidenced
      timestamp seen.localBud seen.remoteBud :=
    outOfEarResult_evidenced (batteryResult_evidenced
      (inCaseResult_evidenced (newResult_evidenced rfl .invalid)))
  obtain ⟨signal, signalled, evidenced⟩ := rssiResult_evidenced judged worn
  obtain ⟨quality, linked, evidenced'⟩ := linkResult_evidenced judged evidenced
  obtain ⟨result, voiced, evidenced''⟩ := voiceResult_evidenced judged evidenced'
  rw [signalled, Option.bind_some, linked, Option.bind_some, voiced, Option.map_some]
  generalize attempted : ({ seen with lowestLQ := quality.2 } : CoreData) = judgedData
  have sameTime : judgedData.timestamp = timestamp := by rw [← attempted, ← seenTime]
  have sameLocal : judgedData.localBud = seen.localBud := by rw [← attempted]
  have sameRemote : judgedData.remoteBud = seen.remoteBud := by rw [← attempted]
  have sameNotified : judgedData.notified = data.notified := by rw [← attempted, ← seenNotified]
  have sameClock : judgedData.clock = data.clock := by rw [← attempted, ← seenClock]
  have frame := setHandoverEvent_frame judgedData (judgedData.externalResult result)
  refine ⟨_, rfl, frame.1.trans sameLocal, frame.2.1.trans sameRemote,
    frame.2.2.trans sameClock, setHandoverEvent_notified ?_ (sameNotified ▸ notified)⟩
  rw [sameTime, sameLocal, sameRemote]
  exact externalResult_evidenced evidenced''

section

variable (held : data.Held now)

include held

variable {isThisBud : Bool}

theorem Held.setBud (after : now ≤ timestamp) {change : BudInfo → BudInfo}
    (changed : (change (if isThisBud then data.localBud else data.remoteBud)).Aligned timestamp) :
    (data.setBud isThisBud change).Held timestamp := by
  cases isThisBud with
  | true => exact ⟨changed, held.remoteBud.later after⟩
  | false => exact ⟨held.localBud.later after, changed⟩

theorem Held.seenInEar : (data.seenInEar timestamp).Held now := by
  constructor
  · refine held.localBud.congr ?_
    rw [CoreData.seenInEar]
    dsimp only
    split <;> rfl
  · refine held.remoteBud.congr ?_
    rw [CoreData.seenInEar]
    dsimp only
    split <;> rfl

theorem handleEvent_held (event : CoreEvent) : (data.handleEvent timestamp event).Held now := by
  have seen : (data.seenInEar timestamp).Held now := held.seenInEar
  cases event with
  | scoConn | scoDiscon => exact ⟨seen.localBud, seen.remoteBud⟩
  | inCase | outOfCase | inEar | outOfEar => exact ⟨seen.localBud.congr rfl, seen.remoteBud⟩
  | peerInCase | peerOutOfCase | peerInEar | peerOutOfEar =>
    exact ⟨seen.localBud, seen.remoteBud.congr rfl⟩

theorem handleVoiceQuality_held {voiceQuality : UInt8} (after : now ≤ timestamp)
    (clock : timestamp < 2 ^ 32)
    (kept : ¬ data.Strands (.voiceQuality timestamp isThisBud voiceQuality)) :
    (data.handleVoiceQuality timestamp isThisBud voiceQuality).Held timestamp := by
  rw [handleVoiceQuality]
  split
  next known =>
    refine held.setBud after ?_
    cases isThisBud with
    | true => exact held.localBud.hear after clock known fun strands => kept ⟨known, strands⟩
    | false => exact held.remoteBud.hear after clock known fun strands => kept ⟨known, strands⟩
  next => exact held.later after

theorem handleLinkQuality_held {rssi : Int8} {linkQuality : UInt16} (after : now ≤ timestamp)
    (clock : timestamp < 2 ^ 32)
    (kept : ¬ data.Strands (.linkQuality timestamp isThisBud rssi linkQuality)) :
    (data.handleLinkQuality timestamp isThisBud rssi linkQuality).Held timestamp := by
  obtain ⟨front, front'⟩ := not_or.mp kept
  rw [handleLinkQuality]
  refine held.setBud after ?_
  cases isThisBud with
  | true => exact held.localBud.measure after clock rssi linkQuality front front'
  | false => exact held.remoteBud.measure after clock rssi linkQuality front front'

end

theorem setBud_notified {isThisBud : Bool} {change : BudInfo → BudInfo} :
    (data.setBud isThisBud change).notified = data.notified := by
  cases isThisBud <;> rfl

theorem handleVoiceQuality_notified {isThisBud : Bool} {voiceQuality : UInt8} :
    (data.handleVoiceQuality timestamp isThisBud voiceQuality).notified = data.notified := by
  rw [handleVoiceQuality]
  split
  · exact setBud_notified
  · rfl

theorem received_sound (sound : data.Sound) {event : Event} (timely : data.Timely event)
    (kept : ¬ data.Strands event) :
    (data.received event).Held (data.eventTime event) ∧
      ∀ notification ∈ (data.received event).notified, notification.Evidenced := by
  have held := sound.held
  have later := held.later timely.1
  cases event with
  | core timestamp event =>
    refine ⟨handleEvent_held later event, ?_⟩
    cases event <;> exact sound.notified
  | batteryStatus timestamp isThisBud batteryStatus =>
    rw [received, handleBatteryStatus, setBud_notified]
    refine ⟨held.setBud timely.1 ?_, sound.notified⟩
    cases isThisBud with
    | true => exact later.localBud.congr rfl
    | false => exact later.remoteBud.congr rfl
  | voiceQuality timestamp isThisBud voiceQuality =>
    rw [received, handleVoiceQuality_notified]
    exact ⟨handleVoiceQuality_held held timely.1 timely.2 kept, sound.notified⟩
  | linkQuality timestamp isThisBud rssi linkQuality =>
    rw [received]
    refine ⟨handleLinkQuality_held held timely.1 timely.2 kept, ?_⟩
    rw [handleLinkQuality, setBud_notified]
    exact sound.notified
  | internal timestamp => exact ⟨later, sound.notified⟩
  | external timestamp urgency =>
    have frame := setHandoverEvent_frame { data with timestamp := timestamp }
      (newResult .external urgency)
    refine ⟨⟨?_, ?_⟩, ?_⟩
    · rw [received, handleExternalReq, frame.1]
      exact later.localBud
    · rw [received, handleExternalReq, frame.2.1]
      exact later.remoteBud
    · exact setHandoverEvent_notified (newResult_evidenced rfl urgency) sound.notified
  | mirrorAclConnection =>
    rw [received, handleMirrorAclConnectionInd]
    dsimp only
    split
    · refine ⟨⟨held.localBud.empty, held.remoteBud.empty⟩, fun notification member => ?_⟩
      cases List.mem_cons.mp member with
      | inl same =>
        subst same
        exact fun _ _ _ recommended => absurd recommended.symm (Option.some_ne_none _)
      | inr member => exact sound.notified notification member
    · exact ⟨⟨held.localBud.empty, held.remoteBud.empty⟩, sound.notified⟩

theorem Sound.step (sound : data.Sound) {event : Event} (clear : data.Clear event) :
    ∃ next, data.step event = some next ∧ next.Sound ∧ (updates event = true →
        ((data.received event).updating (data.eventTime event)).Judged
          (data.eventTime event)) := by
  obtain ⟨timely, kept, readable⟩ := clear
  obtain ⟨held, notified⟩ := received_sound sound timely kept
  rw [CoreData.step]
  dsimp only
  split
  next updating =>
    have judged := held.updating.judged timely.2 (readable updating)
    generalize data.eventTime event = timestamp at *
    obtain ⟨next, updated, sameLocal, sameRemote, clock, evidenced⟩ :=
      @stateUpdate_evidenced { data.received event with clock := timestamp } timestamp
        ⟨judged.signal, judged.link, judged.voice⟩ notified
    have heldNext : ((data.received event).updating timestamp).Held timestamp := held.updating
    refine ⟨next, updated, ⟨⟨?_, ?_⟩, evidenced⟩, fun _ => judged⟩
    · rw [clock, sameLocal]
      exact heldNext.localBud
    · rw [clock, sameRemote]
      exact heldNext.remoteBud
  next silent =>
    exact ⟨_, rfl, ⟨⟨held.localBud, held.remoteBud⟩, notified⟩,
      fun updating => absurd updating silent⟩

theorem init_sound (quality quality' : Nat → QualityData) (inEar inCase inEar' inCase' : Bool)
    (battery battery' : BatteryState) (inCall : Bool) :
    (init (budInit quality inEar inCase battery) (budInit quality' inEar' inCase' battery')
      inCall).Sound := by
  have aligned (quality : Nat → QualityData) (inEar inCase : Bool) (battery : BatteryState) :
      (budInit quality inEar inCase battery).Aligned 0 := by
    constructor
    · intro type
      cases type <;> exact Queue.Aligned.create
    · exact fun _ member => absurd member List.not_mem_nil
  exact ⟨⟨aligned _ _ _ _, aligned _ _ _ _⟩, fun _ member => absurd member List.not_mem_nil⟩

/-- In a run of clear events every handover that is recommended for the quality of the buds has
evidence.  Every further clear event has a result, and its checks judge on evidence. -/
theorem run_evidenced {quality quality' : Nat → QualityData}
    {inEar inCase inEar' inCase' : Bool} {battery battery' : BatteryState} {inCall : Bool}
    {events : List Event}
    (runs : runAllowed step Clear events (init (budInit quality inEar inCase battery)
      (budInit quality' inEar' inCase' battery') inCall) = some data) :
    (∀ notification ∈ data.notified, notification.Evidenced) ∧
      ∀ event, data.Clear event → ∃ next, data.step event = some next ∧
        (updates event = true →
          ((data.received event).updating (data.eventTime event)).Judged
            (data.eventTime event)) := by
  have sound : data.Sound :=
    (Reached.run .start runs).invariant
      (init_sound quality quality' inEar inCase inEar' inCase' battery battery' inCall)
      fun state event next clear steps sound => by
        obtain ⟨after, steps', soundNext, _⟩ := sound.step clear
        exact Option.some.inj (steps'.symm.trans steps) ▸ soundNext
  refine ⟨sound.notified, fun event clear => ?_⟩
  obtain ⟨next, steps, _, judged⟩ := sound.step clear
  exact ⟨next, steps, judged⟩

def bothWorn : CoreData :=
  let bud : BudInfo := budInit (fun _ => ⟨0, 0⟩) true false .ok
  init bud bud false

def bothReport : List Event :=
  [.linkQuality 1000 true (-85) 30000, .linkQuality 1100 false (-60) 32000]

theorem bothReport_evidenced :
    ∃ data, runAllowed step Clear bothReport bothWorn = some data ∧
      data.notified.map (·.recommended) = [some (.rssi, .critical), none] ∧
      (∀ notification ∈ data.notified, notification.Evidenced) ∧
      ∀ event, data.Clear event → ∃ next, data.step event = some next ∧
        (updates event = true →
          ((data.received event).updating (data.eventTime event)).Judged
            (data.eventTime event)) := by
  have found : (runAllowed step Clear bothReport bothWorn).map
      (fun data => data.notified.map (·.recommended)) =
        some [some (.rssi, .critical), none] := by decide +kernel
  obtain ⟨data, runs, recommended⟩ := Option.map_eq_some_iff.mp found
  exact ⟨data, runs, recommended, run_evidenced runs⟩

def otherReports : List Event := [.linkQuality 1000 false (-60) 32000]

/-- The other bud is handed over to for the link quality, without any sample of this bud. -/
theorem otherReports_unevidenced :
    ∃ data, runAllowed step Timely otherReports bothWorn = some data ∧
      ∃ notification ∈ data.notified, notification.recommended = some (.linkQuality, .critical) ∧
        ¬ notification.Evidenced := by
  refine ⟨_, rfl, _, List.mem_cons_self, rfl, fun evidenced => ?_⟩
  obtain ⟨level, _, evidence⟩ := evidenced .linkQuality .critical .linkQuality rfl rfl
  exact evidence.worse_usable rfl

end CoreData

end HeadsetAdk.Hdma
