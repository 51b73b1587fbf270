import HeadsetAdk.Rwcp.Server

/-! # Delivery of a transfer -/

namespace HeadsetAdk.Rwcp

open SerialNumber

def segmentHeader (syn index : Nat) : UInt8 :=
  UInt8.ofNat (ofIndex sequenceNumberMax syn index)

def isDataAck : GaiaCall → Bool
  | .sendNotification header => header &&& commandMask == serverCmdDataAck
  | .processCommand _ => false

def isGap : GaiaCall → Bool
  | .sendNotification header => header &&& commandMask == serverCmdGap
  | .processCommand _ => false

/-- The payloads passed to `GaiaRwcpProcessCommand`. -/
def delivered (calls : List GaiaCall) : List (List UInt8) :=
  calls.filterMap fun
    | .processCommand payload => some payload
    | .sendNotification _ => none

/-- What a receiver that sees the indices sends: `count` segments are delivered, and
`muted` says that a gap was reported since. -/
inductive Log (syn : Nat) (payload : Nat → List UInt8) : Nat → Bool → List GaiaCall → Prop
  | nil : Log syn payload 0 false []
  | deliver {count : Nat} {muted : Bool} {calls : List GaiaCall}
      (log : Log syn payload count muted calls) :
      Log syn payload (count + 1) false (calls ++
        [dataAck (segmentHeader syn (count + 1)), .processCommand (payload (count + 1))])
  | duplicate {count : Nat} {muted : Bool} {calls : List GaiaCall}
      (log : Log syn payload count muted calls) {index : Nat} (numbered : 1 ≤ index)
      (known : index ≤ count) :
      Log syn payload count muted (calls ++ [dataAck (segmentHeader syn index)])
  | gap {count : Nat} {calls : List GaiaCall} (log : Log syn payload count false calls) :
      Log syn payload count true (calls ++ [gap (segmentHeader syn count)])

/-- A transfer up to some point: the SYN, then data segments within the window of
the last delivered one and calls of `RwcpServerFlowControl`, in any order.  The
calls are those made since the SYN. -/
inductive Transfer (syn : Nat) (payload : Nat → List UInt8) :
    ServerData → List GaiaCall → Prop
  | synchronise {before server : ServerData} {header : UInt8} {rest : List UInt8}
      {status : Bool} {answer : List GaiaCall}
      (waiting : before.protocolState = .listen ∨ before.protocolState = .synRcvd)
      (command : header &&& commandMask = clientCmdSyn)
      (sequence : (header &&& sequenceMask).toNat = syn)
      (handled : before.handleMessage (some (header :: rest)) = some (status, server, answer)) :
      Transfer syn payload server []
  | segment {before server : ServerData} {calls answer : List GaiaCall} {index : Nat}
      {status : Bool}
      (transfer : Transfer syn payload before calls) (numbered : 1 ≤ index)
      (behind : (delivered calls).length ≤ index + 31)
      (ahead : index ≤ (delivered calls).length + 32)
      (handled : before.handleMessage (some (segmentHeader syn index :: payload index)) =
        some (status, server, answer)) :
      Transfer syn payload server (calls ++ answer)
  | flowControl {server : ServerData} {calls : List GaiaCall}
      (transfer : Transfer syn payload server calls) (accept : Bool) :
      Transfer syn payload (server.flowControl accept) calls

theorem segmentHeader_toNat (syn index : Nat) :
    (segmentHeader syn index).toNat = ofIndex sequenceNumberMax syn index := by
  have bound : ofIndex sequenceNumberMax syn index < 64 := ofIndex_lt (by decide) syn index
  rw [segmentHeader, UInt8.toNat_ofNat', Nat.mod_eq_of_lt (bound.trans (by decide))]

theorem segmentHeader_masks (syn index : Nat) :
    segmentHeader syn index &&& commandMask = clientCmdData ∧
      segmentHeader syn index &&& sequenceMask = segmentHeader syn index ∧
      dataAck (segmentHeader syn index) = .sendNotification (segmentHeader syn index) ∧
      isGap (gap (segmentHeader syn index)) = true ∧
      isDataAck (gap (segmentHeader syn index)) = false ∧
      isGap (dataAck (segmentHeader syn index)) = false := by
  have bound : ofIndex sequenceNumberMax syn index < 64 := ofIndex_lt (by decide) syn index
  unfold segmentHeader
  generalize ofIndex sequenceNumberMax syn index = number at bound
  revert number
  decide

section Classification

variable {syn count index : Nat} {server : ServerData}

theorem distance_of_window (behind : count ≤ index + 31) (ahead : index ≤ count + 32) :
    distance sequenceNumberMax (ofIndex sequenceNumberMax syn count)
        (ofIndex sequenceNumberMax syn index) =
      if count ≤ index then index - count else 64 - (count - index) := by
  split
  case isTrue forward => exact distance_of_ahead receiveWindowMax forward ahead (by decide)
  case isFalse backward =>
    exact distance_of_behind receiveWindowMax (Nat.lt_of_not_le backward)
      (Nat.lt_succ_of_le behind)

section

variable (last : server.lastSequenceNumber = segmentHeader syn count) (behind : count ≤ index + 31)
  (ahead : index ≤ count + 32)

include last behind ahead

theorem isNextSequence_iff :
    server.isNextSequence (segmentHeader syn index) = true ↔ index = count + 1 := by
  have expected : server.nextExpectedSequenceNumber = segmentHeader syn (count + 1) := by
    rw [ServerData.nextExpectedSequenceNumber, last, segmentHeader_toNat, ← ofIndex_succ]
    rfl
  rw [ServerData.isNextSequence, expected, beq_iff_eq]
  constructor
  · intro same
    have numbers := congrArg UInt8.toNat same
    rw [segmentHeader_toNat, segmentHeader_toNat] at numbers
    have far : distance sequenceNumberMax (ofIndex sequenceNumberMax syn count)
        (ofIndex sequenceNumberMax syn index) = _ := distance_of_window behind ahead
    have near : distance sequenceNumberMax (ofIndex sequenceNumberMax syn count)
        (ofIndex sequenceNumberMax syn (count + 1)) = 1 := by
      rw [distance_of_window (by omega) (by omega), if_pos (Nat.le_succ count)]
      omega
    rw [numbers, near] at far
    split at far <;> omega
  · rintro rfl
    rfl

theorem isOutOfSequence_iff :
    server.isOutOfSequence (segmentHeader syn index) = true ↔ count < index := by
  have lastBound : ofIndex sequenceNumberMax syn count < 64 := ofIndex_lt (by decide) syn count
  have norm : (Int.tmod ((segmentHeader syn index).toNat -
      (server.lastSequenceNumber.toNat : Int) + sequenceNumberMax) sequenceNumberMax) % 65536 =
      distance sequenceNumberMax (ofIndex sequenceNumberMax syn count)
        (ofIndex sequenceNumberMax syn index) := by
    rw [last, segmentHeader_toNat, segmentHeader_toNat]
    rw [distance, sequenceNumberMax] at *
    rw [Int.tmod_eq_emod_of_nonneg (by omega)]
    omega
  rw [ServerData.isOutOfSequence, decide_eq_true_iff, norm,
    distance_of_window behind ahead, receiveWindowMax]
  split <;> omega

end

end Classification

section Simulation

variable {syn : Nat} {payload : Nat → List UInt8} {server server' : ServerData}
  {calls answer : List GaiaCall} {count index : Nat} {muted : Bool}

theorem delivered_append (first second : List GaiaCall) :
    delivered (first ++ second) = delivered first ++ delivered second :=
  List.filterMap_append

section

variable (log : Log syn payload count muted calls)

include log

theorem Log.delivered_eq :
    delivered calls = (List.range count).map fun index => payload (index + 1) := by
  induction log with
  | nil => rfl
  | deliver _ ih =>
    rw [delivered_append, ih, List.range_succ, List.map_append]
    rfl
  | duplicate _ _ _ ih => rw [delivered_append, ih]; exact List.append_nil _
  | gap _ ih => rw [delivered_append, ih]; exact List.append_nil _

theorem Log.delivered_length : (delivered calls).length = count := by
  rw [log.delivered_eq, List.length_map, List.length_range]

theorem Log.handleDataSegment (last : server.lastSequenceNumber = segmentHeader syn count)
    (status : server.outOfSequenceStatus = muted) (numbered : 1 ≤ index)
    (behind : count ≤ index + 31) (ahead : index ≤ count + 32) {packet : DataPkt}
    (handled : server.handleDataSegment (segmentHeader syn index) (payload index) =
      (packet, server', answer)) :
    ∃ count' muted', Log syn payload count' muted' (calls ++ answer) ∧
      server'.lastSequenceNumber = segmentHeader syn count' ∧
      server'.outOfSequenceStatus = muted' ∧ server'.protocolState = server.protocolState := by
  subst status
  unfold ServerData.handleDataSegment at handled
  split at handled
  case isFalse =>
    cases handled
    exact ⟨count, _, by rwa [List.append_nil], last, rfl, rfl⟩
  split at handled
  case isTrue next =>
    cases handled
    obtain rfl := (isNextSequence_iff last behind ahead).mp next
    exact ⟨_, _, log.deliver, rfl, rfl, rfl⟩
  case isFalse notNext =>
    rw [isNextSequence_iff last behind ahead] at notNext
    split at handled
    case isTrue =>
      split at handled
      case isTrue =>
        cases handled
        exact ⟨count, _, by rwa [List.append_nil], last, rfl, rfl⟩
      case isFalse unmuted =>
        cases handled
        rw [Bool.not_eq_true] at unmuted
        rw [unmuted] at log
        rw [last]
        exact ⟨count, _, log.gap, rfl, rfl, rfl⟩
    case isFalse notAhead =>
      rw [isOutOfSequence_iff last behind ahead] at notAhead
      cases handled
      exact ⟨count, _, log.duplicate numbered (by omega), last, rfl, rfl⟩

end

structure InStep (syn : Nat) (payload : Nat → List UInt8) (server : ServerData)
    (count : Nat) (muted : Bool) (calls : List GaiaCall) : Prop where
  log : Log syn payload count muted calls
  last : server.lastSequenceNumber = segmentHeader syn count
  phase : (server.protocolState = .synRcvd ∧ muted = false) ∨
    (server.protocolState = .established ∧ server.outOfSequenceStatus = muted)

theorem InStep.segment (inStep : InStep syn payload server count muted calls)
    (numbered : 1 ≤ index) (behind : count ≤ index + 31) (ahead : index ≤ count + 32)
    {status : Bool}
    (handled : server.handleMessage (some (segmentHeader syn index :: payload index)) =
      some (status, server', answer)) :
    ∃ count' muted', InStep syn payload server' count' muted' (calls ++ answer) := by
  obtain ⟨log, last, phase⟩ := inStep
  obtain ⟨command, sequence, _⟩ := segmentHeader_masks syn index
  rw [ServerData.handleMessage, ServerData.handleSegment, command, sequence,
    Option.some.injEq] at handled
  rcases phase with ⟨phase, rfl⟩ | ⟨phase, same⟩
  · rw [phase] at handled
    dsimp only at handled
    rw [ServerData.handleSynRcvd, if_neg (by decide), if_neg (by decide), if_pos rfl] at handled
    cases handled
    let unmuted : ServerData := { server with outOfSequenceStatus := false }
    have same : unmuted.lastSequenceNumber = segmentHeader syn count := last
    obtain ⟨count', muted', log', last', status', _⟩ :=
      log.handleDataSegment same rfl numbered behind ahead rfl
    exact ⟨count', muted', log', last', Or.inr ⟨rfl, status'⟩⟩
  · rw [phase] at handled
    dsimp only at handled
    rw [ServerData.handleEstablished, if_neg (by decide), if_pos rfl] at handled
    cases handled
    obtain ⟨count', muted', log', last', status', phase'⟩ :=
      log.handleDataSegment last same numbered behind ahead rfl
    exact ⟨count', muted', log', last', Or.inr ⟨phase'.trans phase, status'⟩⟩

theorem Transfer.inStep (transfer : Transfer syn payload server calls) :
    ∃ count muted, InStep syn payload server count muted calls := by
  induction transfer with
  | @synchronise before server header rest status answer waiting command sequence handled =>
    have bound : (header &&& sequenceMask).toNat < 64 := by
      rw [UInt8.toNat_and]
      exact Nat.lt_succ_of_le Nat.and_le_right
    have start : header &&& sequenceMask = segmentHeader syn 0 := by
      rw [← UInt8.toNat_inj, segmentHeader_toNat, ofIndex, Nat.add_zero, sequence,
        Nat.mod_eq_of_lt (sequence ▸ bound)]
    rw [ServerData.handleMessage, ServerData.handleSegment, command, start,
      Option.some.injEq] at handled
    rcases waiting with waiting | waiting
    · rw [waiting] at handled
      dsimp only at handled
      rw [ServerData.handleListen, if_pos rfl] at handled
      cases handled
      exact ⟨0, false, .nil, rfl, Or.inl ⟨rfl, rfl⟩⟩
    · rw [waiting] at handled
      dsimp only at handled
      rw [ServerData.handleSynRcvd, if_pos rfl] at handled
      cases handled
      exact ⟨0, false, .nil, rfl, Or.inl ⟨waiting, rfl⟩⟩
  | segment transfer numbered behind ahead handled ih =>
    obtain ⟨count, muted, inStep⟩ := ih
    rw [inStep.log.delivered_length] at behind ahead
    exact inStep.segment numbered behind ahead handled
  | flowControl transfer accept ih =>
    obtain ⟨count, muted, log, last, phase⟩ := ih
    exact ⟨count, muted, log, last, phase⟩

end Simulation

section Traces

variable {syn : Nat} {payload : Nat → List UInt8} {calls : List GaiaCall} {count : Nat}
  {muted : Bool} {old before after : List GaiaCall} {new : List GaiaCall} {call : GaiaCall}
  {header : UInt8} {bound : Nat}

theorem call_of_append (split : old ++ new = before ++ call :: after) :
    (∃ rest, old = before ++ call :: rest ∧ after = rest ++ new) ∨
      ∃ rest, before = old ++ rest ∧ new = rest ++ call :: after := by
  rcases List.append_eq_append_iff.mp split with ⟨rest, here, there⟩ | ⟨rest, here, there⟩
  · exact Or.inr ⟨rest, here, there⟩
  · cases rest with
    | nil =>
      rw [List.append_nil] at here
      exact Or.inr ⟨[], by rw [here, List.append_nil], there.symm⟩
    | cons head rest =>
      rw [List.cons_append, List.cons.injEq] at there
      obtain ⟨rfl, rfl⟩ := there
      exact Or.inl ⟨rest, here, rfl⟩

def AckKnown (syn : Nat) (payload : Nat → List UInt8) (before after : List GaiaCall)
    (header : UInt8) : Prop :=
  ∃ index, 1 ≤ index ∧ header = segmentHeader syn index ∧
    (index ≤ (delivered before).length ∨
      (index = (delivered before).length + 1 ∧
        ∃ rest, after = .processCommand (payload index) :: rest))

theorem AckKnown.append (known : AckKnown syn payload before after header) (new : List GaiaCall) :
    AckKnown syn payload before (after ++ new) header := by
  obtain ⟨index, numbered, names, known⟩ := known
  refine ⟨index, numbered, names, known.imp_right ?_⟩
  rintro ⟨next, rest, rfl⟩
  exact ⟨next, rest ++ new, rfl⟩

theorem Log.ack_known (log : Log syn payload count muted calls)
    (ack : isDataAck (.sendNotification header) = true)
    (split : calls = before ++ .sendNotification header :: after) :
    AckKnown syn payload before after header := by
  induction log generalizing after with
  | nil => exact absurd split.symm (by simp)
  | @deliver count muted calls log ih =>
    rcases call_of_append split with ⟨rest, old, rfl⟩ | ⟨rest, rfl, new⟩
    · exact (ih old).append _
    · rw [(segmentHeader_masks syn (count + 1)).2.2.1] at new
      rcases rest with _ | ⟨first, _ | ⟨second, rest⟩⟩
      · cases new
        refine ⟨count + 1, Nat.le_add_left 1 count, rfl, Or.inr ⟨?_, [], rfl⟩⟩
        rw [List.append_nil, log.delivered_length]
      · cases new
      · simp at new
  | @duplicate count muted calls log index numbered known ih =>
    rcases call_of_append split with ⟨rest, old, rfl⟩ | ⟨rest, rfl, new⟩
    · exact (ih old).append _
    · rw [(segmentHeader_masks syn index).2.2.1] at new
      rcases rest with _ | ⟨first, rest⟩
      · cases new
        refine ⟨index, numbered, rfl, Or.inl ?_⟩
        rwa [List.append_nil, log.delivered_length]
      · simp at new
  | @gap count calls log ih =>
    rcases call_of_append split with ⟨rest, old, rfl⟩ | ⟨rest, rfl, new⟩
    · exact (ih old).append _
    · rcases rest with _ | ⟨first, rest⟩
      · have notAck := (segmentHeader_masks syn count).2.2.2.2.1
        rw [(List.cons.inj new).1, ack] at notAck
        contradiction
      · simp at new

theorem Log.gap_names_last (log : Log syn payload count muted calls) (isGap : isGap call = true)
    (split : calls = before ++ call :: after) :
    call = Rwcp.gap (segmentHeader syn (delivered before).length) := by
  induction log generalizing after with
  | nil => exact absurd split.symm (by simp)
  | @deliver count muted calls log ih =>
    rcases call_of_append split with ⟨rest, old, _⟩ | ⟨rest, _, new⟩
    · exact ih old
    · rcases rest with _ | ⟨first, _ | ⟨second, rest⟩⟩
      · have notGap := (segmentHeader_masks syn (count + 1)).2.2.2.2.2
        rw [(List.cons.inj new).1, isGap] at notGap
        contradiction
      · cases new
        contradiction
      · simp at new
  | @duplicate count muted calls log index _ _ ih =>
    rcases call_of_append split with ⟨rest, old, _⟩ | ⟨rest, _, new⟩
    · exact ih old
    · rcases rest with _ | ⟨first, rest⟩
      · have notGap := (segmentHeader_masks syn index).2.2.2.2.2
        rw [(List.cons.inj new).1, isGap] at notGap
        contradiction
      · simp at new
  | @gap count calls log ih =>
    rcases call_of_append split with ⟨rest, old, _⟩ | ⟨rest, rfl, new⟩
    · exact ih old
    · rcases rest with _ | ⟨first, rest⟩
      · cases new
        rw [List.append_nil, log.delivered_length]
      · simp at new

/-- At most `bound` gaps were sent since the last delivery. -/
def GapsSince (bound : Nat) (calls : List GaiaCall) : Prop :=
  ∀ before middle, calls = before ++ middle → delivered middle = [] →
    middle.countP isGap ≤ bound

def GapsBetween (calls : List GaiaCall) : Prop :=
  ∀ before middle after, calls = before ++ middle ++ after → delivered middle = [] →
    middle.countP isGap ≤ 1

theorem GapsSince.append (since : GapsSince bound old) (new : List GaiaCall) :
    GapsSince (bound + new.countP isGap) (old ++ new) := by
  intro before middle split none
  rcases List.append_eq_append_iff.mp split with ⟨rest, _, rfl⟩ | ⟨rest, rfl, rfl⟩
  · rw [List.countP_append]
    omega
  · rw [delivered_append, List.append_eq_nil_iff] at none
    rw [List.countP_append]
    exact Nat.add_le_add_right (since before rest rfl none.1) _

theorem GapsBetween.append (between : GapsBetween old) (since : GapsSince bound old)
    (small : bound + new.countP isGap ≤ 1) : GapsBetween (old ++ new) := by
  intro before middle after split none
  rcases List.append_eq_append_iff.mp split with ⟨rest, here, rfl⟩ | ⟨rest, here, _⟩
  · have counted := since.append rest before middle here.symm none
    rw [List.countP_append] at small
    omega
  · exact between before middle rest here none

theorem Log.gaps (log : Log syn payload count muted calls) :
    GapsSince (if muted then 1 else 0) calls ∧ GapsBetween calls := by
  induction log with
  | nil =>
    constructor
    · intro before middle split _
      rw [(List.append_eq_nil_iff.mp split.symm).2]
      exact Nat.zero_le _
    · intro before middle after split _
      rw [(List.append_eq_nil_iff.mp (List.append_eq_nil_iff.mp split.symm).1).2]
      exact Nat.zero_le _
  | @deliver count muted calls _ ih =>
    have noGap : [dataAck (segmentHeader syn (count + 1)),
        .processCommand (payload (count + 1))].countP isGap = 0 := by
      rw [List.countP_eq_zero]
      intro call member
      simp only [List.mem_cons, List.not_mem_nil, or_false] at member
      rcases member with rfl | rfl
      · rw [(segmentHeader_masks syn (count + 1)).2.2.2.2.2]
        exact Bool.false_ne_true
      · exact Bool.false_ne_true
    refine ⟨?_, ih.2.append ih.1 (by rw [noGap]; split <;> decide)⟩
    -- What follows the delivery is empty.
    intro before middle split none
    rcases List.append_eq_append_iff.mp split with ⟨rest, _, new⟩ | ⟨rest, _, rfl⟩
    · rw [new, List.countP_append] at noGap
      exact (Nat.eq_zero_of_add_eq_zero noGap).2.le
    · rw [delivered_append, List.append_eq_nil_iff] at none
      exact absurd none.2 (by simp [delivered, dataAck, sendNotification])
  | @duplicate count muted calls _ index _ _ ih =>
    have noGap : [dataAck (segmentHeader syn index)].countP isGap = 0 := by
      rw [List.countP_singleton, (segmentHeader_masks syn index).2.2.2.2.2]
      rfl
    have since := ih.1.append [dataAck (segmentHeader syn index)]
    rw [noGap] at since
    exact ⟨since, ih.2.append ih.1 (by rw [noGap]; split <;> decide)⟩
  | @gap count calls _ ih =>
    have oneGap : [Rwcp.gap (segmentHeader syn count)].countP isGap = 1 := by
      rw [List.countP_singleton, (segmentHeader_masks syn count).2.2.2.1]
      rfl
    have since := ih.1.append [Rwcp.gap (segmentHeader syn count)]
    rw [oneGap] at since
    exact ⟨since, ih.2.append ih.1 (by rw [oneGap]; decide)⟩

end Traces

section Transfers

/-- In a transfer whose segments arrive within the window the payloads are delivered in order,
each once; an acknowledgement names a delivered segment or the one its call delivers next; and
between two deliveries there is at most one gap, which names the one delivered last. -/
theorem transfer_delivers {syn : Nat} {payload : Nat → List UInt8} {server : ServerData}
    {calls : List GaiaCall} (transfer : Transfer syn payload server calls) :
    (delivered calls = (List.range (delivered calls).length).map fun index => payload (index + 1)) ∧
      server.lastSequenceNumber.toNat = (syn + (delivered calls).length) % 64 ∧
      (∀ before header after, calls = before ++ .sendNotification header :: after →
        isDataAck (.sendNotification header) = true →
        ∃ index, 1 ≤ index ∧ header = segmentHeader syn index ∧
          (index ≤ (delivered before).length ∨
            (index = (delivered before).length + 1 ∧
              ∃ rest, after = .processCommand (payload index) :: rest))) ∧
      (∀ before middle after, calls = before ++ middle ++ after → delivered middle = [] →
        middle.countP isGap ≤ 1) ∧
      (∀ before call after, calls = before ++ call :: after → isGap call = true →
        call = gap (segmentHeader syn (delivered before).length)) := by
  obtain ⟨count, muted, log, last, _⟩ := transfer.inStep
  refine ⟨?_, ?_, ?_, log.gaps.2, ?_⟩
  · rw [log.delivered_length]
    exact log.delivered_eq
  · rw [log.delivered_length, last, segmentHeader_toNat]
    rfl
  · intro before header after split ack
    exact log.ack_known ack split
  · intro before call after split isGap
    exact log.gap_names_last isGap split

private def idleServer : ServerData := ⟨.listen, false, 0, true⟩

variable {server : ServerData} {answer : List GaiaCall} {status : Bool}

private theorem transfer_after (index : Nat) {syn : Nat} {payload : Nat → List UInt8}
    {before : ServerData} {calls : List GaiaCall} (transfer : Transfer syn payload before calls)
    (numbered : 1 ≤ index) (behind : (delivered calls).length ≤ index + 31)
    (ahead : index ≤ (delivered calls).length + 32)
    (handled : before.handleMessage (some (segmentHeader syn index :: payload index)) =
      some (status, server, answer)) : Transfer syn payload server (calls ++ answer) :=
  transfer.segment numbered behind ahead handled

private theorem synchronised (header : UInt8) (payload : Nat → List UInt8)
    (command : header &&& commandMask = clientCmdSyn)
    (handled : idleServer.handleMessage (some [header]) = some (status, server, answer)) :
    Transfer (header &&& sequenceMask).toNat payload server [] :=
  .synchronise (Or.inl rfl) command rfl handled

theorem transfer_delivers_wrapping :
    ∃ calls : List GaiaCall,
      calls = [gap 63, dataAck 0, .processCommand [1], dataAck 1, .processCommand [2], dataAck 0] ∧
      delivered calls = (List.range 2).map fun index => [UInt8.ofNat (index + 1)] := by
  have start := synchronised 0x7f (fun index => [UInt8.ofNat index]) rfl rfl
  have early := transfer_after 2 start (by decide) (by decide) (by decide) rfl
  have first := transfer_after 1 early (by decide) (by decide) (by decide) rfl
  have second := transfer_after 2 first (by decide) (by decide) (by decide) rfl
  have again := transfer_after 1 second (by decide) (by decide) (by decide) rfl
  exact ⟨_, rfl, (transfer_delivers again).1⟩

/-- The acknowledgement of a segment is sent before the segment is delivered. -/
theorem ack_before_delivery :
    ¬ ∀ (syn : Nat) (payload : Nat → List UInt8) (server : ServerData) (calls : List GaiaCall),
      Transfer syn payload server calls →
      ∀ before header after, calls = before ++ .sendNotification header :: after →
        isDataAck (.sendNotification header) = true →
        header = segmentHeader syn 0 ∨ ∃ index, 1 ≤ index ∧
          index ≤ (delivered before).length ∧ header = segmentHeader syn index := by
  intro acknowledged
  have start := synchronised 0x40 (fun index => [UInt8.ofNat index]) rfl rfl
  have first := transfer_after 1 start (by decide) (by decide) (by decide) rfl
  rcases acknowledged _ _ _ _ first [] 1 [.processCommand [1]] rfl rfl with syn | earlier
  · exact absurd syn (by decide)
  · obtain ⟨index, numbered, known, _⟩ := earlier
    exact absurd (numbered.trans known) (by decide)

end Transfers

end HeadsetAdk.Rwcp
