import HeadsetAdk.CaseComms.SchemeB
import HeadsetAdk.Lib.Outcomes
import Mathlib.Data.List.Count

/-! # Outstanding responses -/

namespace HeadsetAdk.CaseComms

/-- The devices that counts are kept for. -/
def Dev.IsEarbud (dev : Dev) : Prop := dev = .leftEb ∨ dev = .rightEb

instance (dev : Dev) : Decidable dev.IsEarbud :=
  inferInstanceAs (Decidable (dev = .leftEb ∨ dev = .rightEb))

def Call.On (call : Call) (dev : Dev) (cid : Nat) : Prop := call.dest = dev ∧ call.cid = cid

instance (call : Call) (dev : Dev) (cid : Nat) : Decidable (call.On dev cid) :=
  inferInstanceAs (Decidable (call.dest = dev ∧ call.cid = cid))

section Specifications

variable {td middle after : Protocol Unit} {dev : Dev} {cid : Nat} {attempt : Attempt Sink}
  {outcome : Outcome Unit UartPacket}

/-- What the stream takes of the calls that a client makes. -/
def acceptedBy (attempt : Attempt Sink) : Option (Accepted UartPacket) :=
  (transSchemeBTransmit attempt.lower attempt.call.dest attempt.call.cid attempt.call.mid
    attempt.call.data).map fun packet => ⟨attempt.call, packet⟩

def owed (accepted : List (Accepted UartPacket)) (dev : Dev) (cid : Nat) : Nat :=
  accepted.countP fun message => message.call.responseReqd && decide (message.call.On dev cid)

theorem owed_append (first second : List (Accepted UartPacket)) (dev : Dev) (cid : Nat) :
    owed (first ++ second) dev cid = owed first dev cid + owed second dev cid :=
  List.countP_append

/-- What stays as it is in every call of `transmit`. -/
structure SameTimers (td after : Protocol Unit) : Prop where
  mode : after.mode = td.mode
  pollTimers : after.pollTimers = td.pollTimers
  lastEarbudPolled : after.lastEarbudPolled = td.lastEarbudPolled

theorem SameTimers.refl (td : Protocol Unit) : SameTimers td td := ⟨rfl, rfl, rfl⟩

theorem SameTimers.trans (first : SameTimers td middle)
    (second : SameTimers middle after) : SameTimers td after :=
  ⟨second.mode.trans first.mode, second.pollTimers.trans first.pollTimers,
    second.lastEarbudPolled.trans first.lastEarbudPolled⟩

structure Transmitted (td : Protocol Unit) (accepted : List (Accepted UartPacket))
    (after : Protocol Unit) : Prop where
  same : SameTimers td after
  counted : td.mode = .case → ∀ dev : Dev, dev.IsEarbud → ∀ cid < cidMax,
    after.count dev cid = td.count dev cid + owed accepted dev cid
  uncounted : td.mode = .earbud → after.channelCfg = td.channelCfg
  toEarbuds : td.mode = .case → ∀ message ∈ accepted, message.call.responseReqd = true →
    message.call.cid < cidMax → message.call.dest.IsEarbud

theorem count_setCount (td : Protocol Unit) {other : Dev} (cid channel count : Nat)
    (isEarbud : dev.IsEarbud) (otherIsEarbud : other.IsEarbud) :
    (td.setCount dev cid count).count other channel =
      if other = dev ∧ channel = cid then count else td.count other channel := by
  unfold Protocol.setCount Protocol.count
  by_cases sameChannel : channel = cid
  · subst sameChannel
    rcases isEarbud with rfl | rfl <;> rcases otherIsEarbud with rfl | rfl <;>
      simp [ChanConfig.outstandingResponseCount, ChanConfig.setOutstandingResponseCount]
  · simp [sameChannel]

theorem incrementPollRequired_eq (td : Protocol Unit) (dev : Dev) (cid : Nat) :
    td.incrementPollRequired schemeB dev cid = if cid < cidMax then
        if dev.IsEarbud then
          if td.count dev cid < 0xFF then .ok (td.setCount dev cid (td.count dev cid + 1))
          else .error .panic
        else .error .panic
      else .ok td := rfl

theorem decrementPollRequired_eq (td : Protocol Unit) (dev : Dev) (cid : Nat) :
    td.decrementPollRequired schemeB dev cid = if cid < cidMax then
        if dev.IsEarbud then
          .ok (if (td.setCount dev cid (td.count dev cid - 1)).count dev cid = 0 then
            (td.setCount dev cid (td.count dev cid - 1)).cancelPoll dev
          else td.setCount dev cid (td.count dev cid - 1))
        else .error .panic
      else .ok td := rfl

theorem incrementPollRequired_ok (raised : td.incrementPollRequired schemeB dev cid = .ok after) :
    SameTimers td after ∧ (cid < cidMax → dev.IsEarbud) ∧
      ∀ other : Dev, other.IsEarbud → ∀ channel < cidMax, after.count other channel =
          td.count other channel + if other = dev ∧ channel = cid then 1 else 0 := by
  rw [incrementPollRequired_eq] at raised
  split at raised
  · split at raised
    · rename_i isEarbud
      split at raised
      · injection raised with raised
        subst raised
        refine ⟨⟨rfl, rfl, rfl⟩, fun _ => isEarbud, ?_⟩
        intro other otherIsEarbud channel _
        rw [count_setCount td cid channel _ isEarbud otherIsEarbud]
        split
        · rename_i same
          rw [same.1, same.2]
        · rfl
      · contradiction
    · contradiction
  · rename_i unknown
    injection raised with raised
    subst raised
    refine ⟨.refl td, fun known => absurd known unknown, ?_⟩
    intro other _ channel known
    rw [if_neg]
    · rfl
    · rintro ⟨_, rfl⟩
      exact unknown known

theorem decrementPollRequired_ok (lowered : td.decrementPollRequired schemeB dev cid = .ok after) :
    after.mode = td.mode ∧ after.lastEarbudPolled = td.lastEarbudPolled ∧
      (cid < cidMax → dev.IsEarbud) ∧ (∀ other : Dev, other.IsEarbud → ∀ channel < cidMax,
        after.count other channel =
          td.count other channel - if other = dev ∧ channel = cid then 1 else 0) ∧
      after.pollTimers = if cid < cidMax ∧ td.count dev cid ≤ 1 then td.pollTimers.erase dev
        else td.pollTimers := by
  rw [decrementPollRequired_eq] at lowered
  split at lowered
  · rename_i known
    split at lowered
    · rename_i isEarbud
      injection lowered with lowered
      have counts : ∀ other : Dev, other.IsEarbud → ∀ channel,
          (td.setCount dev cid (td.count dev cid - 1)).count other channel =
            td.count other channel - if other = dev ∧ channel = cid then 1 else 0 := by
        intro other otherIsEarbud channel
        rw [count_setCount td cid channel _ isEarbud otherIsEarbud]
        split
        · rename_i same
          rw [same.1, same.2]
        · rfl
      have left := counts dev isEarbud cid
      rw [if_pos ⟨rfl, rfl⟩] at left
      subst lowered
      split
      · rename_i none
        refine ⟨rfl, rfl, fun _ => isEarbud, fun other isEarbud channel _ =>
          counts other isEarbud channel, ?_⟩
        rw [if_pos ⟨known, by omega⟩]
        rfl
      · rename_i some
        refine ⟨rfl, rfl, fun _ => isEarbud, fun other isEarbud channel _ =>
          counts other isEarbud channel, ?_⟩
        rw [if_neg fun cancelled => some (by omega)]
        rfl
    · contradiction
  · rename_i unknown
    injection lowered with lowered
    subst lowered
    refine ⟨rfl, rfl, fun known => absurd known unknown, ?_, ?_⟩
    · intro other _ channel known
      rw [if_neg]
      · rfl
      · rintro ⟨_, rfl⟩
        exact unknown known
    · rw [if_neg fun cancelled => unknown cancelled.1]

theorem owed_singleton (message : Accepted UartPacket) (dev : Dev) (cid : Nat) :
    owed [message] dev cid =
      if message.call.responseReqd = true ∧ message.call.On dev cid then 1 else 0 := by
  unfold owed
  rw [List.countP_singleton]
  simp

theorem Transmitted.none (td : Protocol Unit) : Transmitted td [] td where
  same := .refl td
  counted := fun _ _ _ _ _ => rfl
  uncounted := fun _ => rfl
  toEarbuds := fun _ _ isIn => absurd isIn List.not_mem_nil

theorem Transmitted.trans
    {first second : List (Accepted UartPacket)} (before : Transmitted td first middle)
    (next : Transmitted middle second after) : Transmitted td (first ++ second) after where
  same := before.same.trans next.same
  counted := by
    intro inCase dev isEarbud cid known
    rw [next.counted (before.same.mode.trans inCase) dev isEarbud cid known,
      before.counted inCase dev isEarbud cid known, owed_append, Nat.add_assoc]
  uncounted := fun inEarbud =>
    (next.uncounted (before.same.mode.trans inEarbud)).trans (before.uncounted inEarbud)
  toEarbuds := by
    intro inCase message isIn
    rcases List.mem_append.mp isIn with isIn | isIn
    · exact before.toEarbuds inCase message isIn
    · exact next.toEarbuds (before.same.mode.trans inCase) message isIn

theorem schemeB_transmit (schemeData : Unit) (sink : Sink) (dest : Dev) (cid mid : Nat)
    (data : List UInt8) : schemeB.transmit schemeData sink dest cid mid data =
      .ok ((transSchemeBTransmit sink dest cid mid data).map fun packet => ((), packet)) := rfl

theorem transmitInternal_none
    (refused : transSchemeBTransmit attempt.lower attempt.call.dest attempt.call.cid
      attempt.call.mid attempt.call.data = none) :
    td.transmitInternal schemeB attempt = .ok (td, none) := by
  unfold Protocol.transmitInternal
  rw [schemeB_transmit, refused]
  rfl

variable {packet : UartPacket} {accepted : List (Accepted UartPacket)} {calls : List (Attempt Sink)}

theorem transmitInternal_some
    (taken : transSchemeBTransmit attempt.lower attempt.call.dest attempt.call.cid
      attempt.call.mid attempt.call.data = some packet) : td.transmitInternal schemeB attempt =
      td.recordTransmission schemeB attempt.call >>=
        fun counted => .ok (counted, some ⟨attempt.call, packet⟩) := by
  unfold Protocol.transmitInternal
  rw [schemeB_transmit, taken]
  rfl

theorem transmitInternal_ok {accepted : Option (Accepted UartPacket)}
    (transmitted : td.transmitInternal schemeB attempt = .ok (after, accepted)) :
    accepted = acceptedBy attempt ∧ Transmitted td accepted.toList after := by
  unfold acceptedBy
  cases isPacket : transSchemeBTransmit attempt.lower attempt.call.dest attempt.call.cid
      attempt.call.mid attempt.call.data with
  | none =>
    rw [transmitInternal_none isPacket] at transmitted
    injection transmitted with transmitted
    cases transmitted
    exact ⟨rfl, .none td⟩
  | some packet =>
    rw [transmitInternal_some isPacket] at transmitted
    obtain ⟨counted, raised, transmitted⟩ := bind_eq_ok transmitted
    injection transmitted with transmitted
    cases transmitted
    refine ⟨rfl, ?_⟩
    unfold Protocol.recordTransmission at raised
    split at raised
    · rename_i required
      obtain ⟨same, isEarbud, counts⟩ := incrementPollRequired_ok raised
      refine ⟨same, ?_, fun inEarbud => ?_, ?_⟩
      · intro _ dev devIsEarbud cid known
        rw [counts dev devIsEarbud cid known, Option.toList_some, owed_singleton]
        refine congrArg (td.count dev cid + ·) (if_congr ?_ rfl rfl)
        constructor
        · rintro ⟨rfl, rfl⟩
          exact ⟨required.1, rfl, rfl⟩
        · rintro ⟨_, rfl, rfl⟩
          exact ⟨rfl, rfl⟩
      · rw [required.2] at inEarbud
        contradiction
      · intro _ message isIn _ known
        rw [Option.toList_some, List.mem_singleton] at isIn
        subst isIn
        exact isEarbud known
    · rename_i notRequired
      injection raised with raised
      subst raised
      refine ⟨.refl td, ?_, fun _ => rfl, ?_⟩
      · intro inCase dev _ cid _
        rw [Option.toList_some, owed_singleton, if_neg]
        · rfl
        · rintro ⟨required, _⟩
          exact notRequired ⟨required, inCase⟩
      · intro inCase message isIn required
        rw [Option.toList_some, List.mem_singleton] at isIn
        subst isIn
        exact absurd ⟨required, inCase⟩ notRequired

theorem transmitAll_ok {attempts : List (Attempt Sink)}
    (transmitted : td.transmitAll schemeB attempts = .ok (after, accepted)) :
    accepted = attempts.filterMap acceptedBy ∧ Transmitted td accepted after := by
  induction attempts generalizing td accepted with
  | nil =>
    injection transmitted with transmitted
    obtain ⟨rfl, rfl⟩ := Prod.mk.inj transmitted
    exact ⟨rfl, .none td⟩
  | cons attempt attempts induction =>
    obtain ⟨⟨middle, first⟩, sent, transmitted⟩ := bind_eq_ok transmitted
    obtain ⟨⟨last, others⟩, rest, transmitted⟩ := bind_eq_ok transmitted
    injection transmitted with transmitted
    obtain ⟨rfl, rfl⟩ := Prod.mk.inj transmitted
    obtain ⟨isFirst, before⟩ := transmitInternal_ok sent
    obtain ⟨areOthers, next⟩ := induction rest
    refine ⟨?_, before.trans next⟩
    rw [isFirst, areOthers, List.filterMap_cons]
    cases acceptedBy attempt <;> rfl

theorem checkReset_same (td : Protocol Unit) (status : TxStatus) :
    SameTimers td (td.checkReset schemeB status).1 ∧
      (td.checkReset schemeB status).1.channelCfg = td.channelCfg := by
  unfold Protocol.checkReset Protocol.checkAckNakReset schemeB
  split
  · cases status with
    | success => exact ⟨⟨rfl, rfl, rfl⟩, rfl⟩
    | timeout => exact ⟨.refl td, rfl⟩
    | unknown => exact ⟨.refl td, rfl⟩
    | fail =>
      dsimp only
      rw [if_pos rfl]
      split <;> exact ⟨⟨rfl, rfl, rfl⟩, rfl⟩
  · exact ⟨.refl td, rfl⟩

theorem count_congr (same : after.channelCfg = td.channelCfg)
    (dev : Dev) (cid : Nat) : after.count dev cid = td.count dev cid := by
  rw [Protocol.count, Protocol.count, same]

theorem Transmitted.of_same (same : SameTimers td middle)
    (channels : middle.channelCfg = td.channelCfg) (next : Transmitted middle accepted after) :
    Transmitted td accepted after where
  same := same.trans next.same
  counted := by
    intro inCase dev isEarbud cid known
    rw [next.counted (same.mode.trans inCase) dev isEarbud cid known, count_congr channels]
  uncounted := fun inEarbud => (next.uncounted (same.mode.trans inEarbud)).trans channels
  toEarbuds := fun inCase => next.toEarbuds (same.mode.trans inCase)

def callsMade (isRegistered : Bool) (calls : List (Attempt Sink)) : List (Attempt Sink) :=
  if isRegistered = true then calls else []

theorem callClient_ok {isRegistered : Bool} {effect : Effect}
    (called : td.callClient schemeB isRegistered effect calls = .ok outcome) :
    outcome.accepted = (callsMade isRegistered calls).filterMap acceptedBy ∧
      Transmitted td outcome.accepted outcome.protocol := by
  unfold Protocol.callClient at called
  unfold callsMade
  split at called
  · rename_i registered
    obtain ⟨⟨after, accepted⟩, transmitted, called⟩ := bind_eq_ok called
    injection called with called
    subst called
    rw [if_pos registered]
    exact transmitAll_ok transmitted
  · rename_i unregistered
    injection called with called
    subst called
    rw [if_neg unregistered]
    exact ⟨rfl, .none td⟩

theorem sendStatusToClient_eq (td : Protocol Unit) (status : TxStatus) (cid mid : Nat)
    (calls : List (Attempt Sink)) :
    td.sendStatusToClient schemeB status cid mid calls =
      (td.checkReset schemeB status).1.callClient schemeB
        (decide (cid < cidMax) && ((td.checkReset schemeB status).1.channelCfg cid).txSts)
        (.txSts cid status mid) calls >>= fun outcome =>
          .ok { outcome with effects := (td.checkReset schemeB status).2 ++ outcome.effects } :=
  rfl

theorem handleUartStatus_ok {status : UartTxStatus}
    (handled : td.handleMessageChargercommsUartStatus packet status calls = .ok outcome) :
    ∃ lowered reported : Protocol Unit, td.recordFailure packet status = .ok lowered ∧
      Transmitted lowered outcome.accepted reported ∧ outcome.protocol = reported.checkPolls ∧
      outcome.accepted = (callsMade (packet.type = .commsData ∧
        caseCommsGetCid packet.header < cidMax ∧
        (lowered.channelCfg (caseCommsGetCid packet.header)).txSts = true) calls).filterMap
          acceptedBy := by
  obtain ⟨lowered, failure, handled⟩ := bind_eq_ok handled
  obtain ⟨told, toClient, handled⟩ := bind_eq_ok handled
  injection handled with handled
  subst handled
  refine ⟨lowered, told.protocol, failure, ?_⟩
  unfold Protocol.reportToClient at toClient
  split at toClient
  · rename_i isData
    rw [sendStatusToClient_eq] at toClient
    obtain ⟨answered, called, toClient⟩ := bind_eq_ok toClient
    injection toClient with toClient
    subst toClient
    obtain ⟨same, channels⟩ := checkReset_same lowered (commsUartStatusToCcStatus status)
    obtain ⟨accepted, transmitted⟩ := callClient_ok called
    refine ⟨transmitted.of_same same channels, rfl, ?_⟩
    rw [accepted, channels]
    congr 2
    simp [isData]
  · rename_i isPoll
    injection toClient with toClient
    subst toClient
    refine ⟨.none lowered, rfl, ?_⟩
    simp [callsMade, isPoll]

theorem sendRxPacketToClient_ok {pkt : List UInt8} {mid : Nat} {sourceDev : Dev}
    (handled : td.sendRxPacketToClient schemeB pkt cid mid sourceDev calls = .ok outcome) :
    ∃ called : Protocol Unit, Transmitted td outcome.accepted called ∧
      called.recordReceipt schemeB sourceDev cid = .ok outcome.protocol ∧ outcome.accepted =
        (callsMade (cid < cidMax ∧ (td.channelCfg cid).rxInd = true) calls).filterMap
          acceptedBy := by
  obtain ⟨told, called, handled⟩ := bind_eq_ok handled
  obtain ⟨after, receipt, handled⟩ := bind_eq_ok handled
  injection handled with handled
  subst handled
  obtain ⟨accepted, transmitted⟩ := callClient_ok called
  refine ⟨told.protocol, transmitted, receipt, ?_⟩
  rw [accepted]
  congr 2
  simp

theorem handlePollTimer_ok {dest : Dev} {sink : Sink}
    (handled : td.handlePollTimer schemeB dest sink = .ok outcome) :
    ((td.cancelPoll dest).getEarbudToPoll = none ∧ outcome = ⟨td.cancelPoll dest, [], []⟩) ∨
      (∃ packet, transSchemeBTransmit sink dest cidInvalid 0 [] = some packet ∧
        outcome = ⟨{ td.cancelPoll dest with lastEarbudPolled := dest }, [],
          [⟨⟨dest, cidInvalid, 0, [], false⟩, packet⟩]⟩) ∨
      (transSchemeBTransmit sink dest cidInvalid 0 [] = none ∧
        outcome = ⟨(td.cancelPoll dest).schedulePollIfRequired schemeB, [], []⟩) := by
  unfold Protocol.handlePollTimer at handled
  dsimp only at handled
  split at handled
  · rename_i unneeded
    injection handled with handled
    exact .inl ⟨unneeded, handled.symm⟩
  · rw [schemeB_transmit, ok_bind] at handled
    cases isPacket : transSchemeBTransmit sink dest cidInvalid 0 [] with
    | none =>
      rw [isPacket] at handled
      injection handled with handled
      exact .inr (.inr ⟨rfl, handled.symm⟩)
    | some packet =>
      rw [isPacket] at handled
      injection handled with handled
      exact .inr (.inl ⟨packet, rfl, handled.symm⟩)

end Specifications

section Counts

variable {sent : Sent} {s next : System} {dev sourceDev : Dev} {cid : Nat} {event : Event}
  {td after : Protocol Unit} {outcome : Outcome Unit UartPacket} {status : UartTxStatus}

/-- The messages on a channel that wait for a response of a device. -/
def System.outstandingOn (s : System) (dev : Dev) (cid : Nat) : Nat :=
  s.outstanding.countP fun message => decide (message.call.On dev cid)

/-- The counts are the numbers of messages that wait for a response. -/
def CountsRight (s : System) : Prop :=
  ∀ dev : Dev, dev.IsEarbud → ∀ cid < cidMax, s.protocol.count dev cid = s.outstandingOn dev cid

def Event.calls (s : System) : Event → List (Attempt Sink)
  | .transmit attempt => [attempt]
  | .status sent _ calls =>
      callsMade (sent.packet.type = .commsData ∧ caseCommsGetCid sent.packet.header < cidMax ∧
        (s.protocol.channelCfg (caseCommsGetCid sent.packet.header)).txSts = true) calls
  | .receive _ header _ _ calls =>
      callsMade (caseCommsGetCid header < cidMax ∧
        (s.protocol.channelCfg (caseCommsGetCid header)).rxInd = true) calls
  | .pollTimer _ _ => []

def Event.accepted (s : System) (event : Event) : List (Accepted UartPacket) :=
  (event.calls s).filterMap acceptedBy

def Event.LowersRightly (s : System) : Event → Prop
  | .status sent result _ =>
      result ≠ .success → sent.packet.destAddress.IsEarbud →
        caseCommsGetCid sent.packet.header < cidMax →
          (sent ∈ s.outstanding ∧ sent.call.cid = caseCommsGetCid sent.packet.header) ∨
            s.outstandingOn sent.packet.destAddress (caseCommsGetCid sent.packet.header) = 0
  | .receive sourceDev header msg answered calls =>
      answered = none → caseCommsGetCid header < cidMax →
        s.outstandingOn sourceDev (caseCommsGetCid header) +
          owed (Event.accepted s (.receive sourceDev header msg answered calls)) sourceDev
            (caseCommsGetCid header) = 0
  | .transmit _ => True
  | .pollTimer _ _ => True

structure Accounts (s : System) (event : Event) : Prop where
  notRequired : s.protocol.mode = .earbud → ∀ dev : Dev, dev.IsEarbud → ∀ cid < cidMax,
    owed (event.accepted s) dev cid = 0
  lowersRightly : s.protocol.mode = .case → event.LowersRightly s

structure Ledger (s : System) : Prop where
  packets : ∀ sent ∈ s.inFlight,
    sent.packet = uartPacket sent.call.dest sent.call.cid sent.call.mid sent.call.data
  uncounted : s.protocol.mode = .earbud → ∀ dev cid, s.protocol.count dev cid = 0

theorem numbered_map (serial : Nat) (accepted : List (Accepted UartPacket)) :
    (numbered serial accepted).map Sent.call = accepted.map Accepted.call := by
  induction accepted generalizing serial with
  | nil => rfl
  | cons first rest induction => rw [numbered, List.map_cons, List.map_cons, induction]

theorem mem_numbered {serial : Nat} {accepted : List (Accepted UartPacket)}
    (isIn : sent ∈ numbered serial accepted) : ⟨sent.call, sent.packet⟩ ∈ accepted := by
  induction accepted generalizing serial with
  | nil => exact absurd isIn List.not_mem_nil
  | cons first rest induction =>
    rcases List.mem_cons.mp isIn with rfl | isIn
    · exact List.mem_cons_self
    · exact List.mem_cons_of_mem _ (induction isIn)

theorem countP_numbered (serial : Nat) (accepted : List (Accepted UartPacket)) (dev : Dev)
    (cid : Nat) :
    ((numbered serial accepted).filter fun message => message.call.responseReqd).countP
      (fun message => decide (message.call.On dev cid)) = owed accepted dev cid := by
  induction accepted generalizing serial with
  | nil => rfl
  | cons first rest induction =>
    have tail := induction (serial + 1)
    rw [List.countP_filter] at tail ⊢
    rw [numbered, owed, List.countP_cons, List.countP_cons, tail]
    simp [owed, and_comm]

@[simp]
theorem outstandingOn_record (s : System) (outcome : Outcome Unit UartPacket) (dev : Dev)
    (cid : Nat) : (s.record outcome).outstandingOn dev cid =
      s.outstandingOn dev cid + owed outcome.accepted dev cid := by
  unfold System.outstandingOn System.record
  rw [List.countP_append, countP_numbered]

theorem outstandingOn_report (s : System) (sent : Sent) (status : UartTxStatus) (dev : Dev)
    (cid : Nat) : (s.report sent status).outstandingOn dev cid = s.outstandingOn dev cid -
        if status ≠ .success ∧ sent ∈ s.outstanding ∧ sent.call.On dev cid then 1 else 0 := by
  unfold System.outstandingOn System.report
  by_cases succeeded : status = .success
  · simp [succeeded]
  · rw [if_neg succeeded, List.countP_erase]
    simp [succeeded]

theorem outstandingOn_answer (s : System) (sent : Sent) (dev : Dev) (cid : Nat) :
    (s.answer (some sent)).outstandingOn dev cid =
      s.outstandingOn dev cid - if sent ∈ s.outstanding ∧ sent.call.On dev cid then 1 else 0 := by
  have erased : (s.answer (some sent)).outstanding = s.outstanding.erase sent := rfl
  unfold System.outstandingOn
  rw [erased, List.countP_erase]
  simp

theorem outstandingOn_pos
    (waits : sent ∈ s.outstanding) (on : sent.call.On dev cid) : 0 < s.outstandingOn dev cid :=
  List.countP_pos_iff.mpr ⟨sent, waits, decide_eq_true on⟩

theorem uartPacket_destAddress (dest : Dev) (cid mid : Nat) (data : List UInt8) :
    (uartPacket dest cid mid data).destAddress = dest := by
  unfold uartPacket
  split <;> rfl

theorem uartPacket_cid (dest : Dev) (mid : Nat) (data : List UInt8)
    (known : cid < cidMax) : caseCommsGetCid (uartPacket dest cid mid data).header = cid := by
  have bound : cid < 5 := known
  unfold uartPacket
  rw [if_neg]
  · rw [caseCommsGetCid_setMid, caseCommsGetCid_setCid]
    omega
  · rintro ⟨_, invalid⟩
    have : cidInvalid = 15 := rfl
    omega

theorem step_ok (stepped : s.step event = .ok next) :
    ∃ outcome, s.protocol.handle event = .ok outcome ∧ next = (s.settle event).record outcome := by
  obtain ⟨outcome, handled, stepped⟩ := bind_eq_ok stepped
  injection stepped with stepped
  exact ⟨outcome, handled, stepped.symm⟩

variable {attempt : Attempt Sink} {packet : UartPacket} {calls : List (Attempt Sink)}
  {header : UInt8} {msg : List UInt8} {answered : Option Sent} {message : Accepted UartPacket}
  {mode : Mode} {registered : Nat → Bool × Bool}

theorem transmit_ok (handled : td.handle (.transmit attempt) = .ok outcome) :
    outcome.accepted = [attempt].filterMap acceptedBy ∧
      Transmitted td outcome.accepted outcome.protocol := by
  obtain ⟨⟨after, accepted⟩, transmitted, handled⟩ := bind_eq_ok handled
  injection handled with handled
  subst handled
  obtain ⟨isAccepted, transmitted⟩ := transmitInternal_ok transmitted
  refine ⟨?_, transmitted⟩
  subst isAccepted
  rw [List.filterMap_cons, List.filterMap_nil]
  cases acceptedBy attempt <;> rfl

theorem schedulePollIfRequired_same (td : Protocol Unit) :
    (td.schedulePollIfRequired schemeB).mode = td.mode ∧
      (td.schedulePollIfRequired schemeB).channelCfg = td.channelCfg ∧
      (td.schedulePollIfRequired schemeB).lastEarbudPolled = td.lastEarbudPolled := by
  unfold Protocol.schedulePollIfRequired
  split
  · split
    · split <;> exact ⟨rfl, rfl, rfl⟩
    · exact ⟨rfl, rfl, rfl⟩
  · exact ⟨rfl, rfl, rfl⟩

theorem checkPolls_same (td : Protocol Unit) :
    td.checkPolls.mode = td.mode ∧ td.checkPolls.channelCfg = td.channelCfg ∧
      td.checkPolls.lastEarbudPolled = td.lastEarbudPolled := by
  unfold Protocol.checkPolls
  split
  · exact schedulePollIfRequired_same td
  · exact ⟨rfl, rfl, rfl⟩

theorem recordFailure_cases (recorded : td.recordFailure packet status = .ok after) :
    ((td.mode = .case ∧ status ≠ .success ∧ packet.destAddress.IsEarbud) ∧
      td.decrementPollRequired schemeB packet.destAddress (caseCommsGetCid packet.header) =
        .ok after) ∨
      (¬ (td.mode = .case ∧ status ≠ .success ∧ packet.destAddress.IsEarbud) ∧ after = td) := by
  unfold Protocol.recordFailure at recorded
  split at recorded
  · rename_i fails
    exact .inl ⟨fails, recorded⟩
  · rename_i fine
    injection recorded with recorded
    exact .inr ⟨fine, recorded.symm⟩

theorem recordReceipt_cases (recorded : td.recordReceipt schemeB sourceDev cid = .ok after) :
    (td.mode = .case ∧ td.decrementPollRequired schemeB sourceDev cid = .ok after) ∨
      (td.mode ≠ .case ∧ after = td) := by
  unfold Protocol.recordReceipt at recorded
  split at recorded
  · rename_i inCase
    exact .inl ⟨inCase, recorded⟩
  · rename_i inEarbud
    injection recorded with recorded
    exact .inr ⟨inEarbud, recorded.symm⟩

theorem setCount_txSts (td : Protocol Unit) (dev : Dev) (cid count channel : Nat) :
    ((td.setCount dev cid count).channelCfg channel).txSts = (td.channelCfg channel).txSts := by
  unfold Protocol.setCount ChanConfig.setOutstandingResponseCount
  dsimp only
  split
  · rename_i same
    subst same
    split <;> rfl
  · rfl

theorem decrementPollRequired_txSts
    (lowered : td.decrementPollRequired schemeB dev cid = .ok after) (channel : Nat) :
    (after.channelCfg channel).txSts = (td.channelCfg channel).txSts := by
  rw [decrementPollRequired_eq] at lowered
  split at lowered
  · split at lowered
    · injection lowered with lowered
      subst lowered
      split
      · exact setCount_txSts td dev cid _ channel
      · exact setCount_txSts td dev cid _ channel
    · contradiction
  · injection lowered with lowered
    rw [lowered]

theorem recordFailure_txSts (recorded : td.recordFailure packet status = .ok after)
    (channel : Nat) :
    (after.channelCfg channel).txSts = (td.channelCfg channel).txSts := by
  rcases recordFailure_cases recorded with ⟨_, lowered⟩ | ⟨_, rfl⟩
  · exact decrementPollRequired_txSts lowered channel
  · rfl

theorem accepted_eq (handled : s.protocol.handle event = .ok outcome) :
    outcome.accepted = event.accepted s ∨
      ∃ dest sink packet, transSchemeBTransmit sink dest cidInvalid 0 [] = some packet ∧
        event = .pollTimer dest sink ∧
        outcome.accepted = [⟨⟨dest, cidInvalid, 0, [], false⟩, packet⟩] := by
  cases event with
  | transmit attempt => exact .inl (transmit_ok handled).1
  | status sent status calls =>
    obtain ⟨lowered, reported, failure, _, _, accepted⟩ := handleUartStatus_ok handled
    rw [recordFailure_txSts failure] at accepted
    exact .inl accepted
  | receive sourceDev header msg answered calls =>
    obtain ⟨_, _, _, accepted⟩ := sendRxPacketToClient_ok handled
    exact .inl accepted
  | pollTimer dest sink =>
    rcases handlePollTimer_ok handled with ⟨_, rfl⟩ | ⟨packet, taken, rfl⟩ | ⟨_, rfl⟩
    · exact .inl rfl
    · exact .inr ⟨dest, sink, packet, taken, rfl, rfl⟩
    · exact .inl rfl

theorem owed_accepted (handled : s.protocol.handle event = .ok outcome) (dev : Dev) (cid : Nat) :
    owed outcome.accepted dev cid = owed (event.accepted s) dev cid := by
  rcases accepted_eq handled with same | ⟨dest, sink, packet, _, rfl, poll⟩
  · rw [same]
  · rw [poll, owed_singleton, if_neg (by simp)]
    rfl

theorem checkPolls_count (td : Protocol Unit) (dev : Dev) (cid : Nat) :
    td.checkPolls.count dev cid = td.count dev cid :=
  count_congr (checkPolls_same td).2.1 dev cid

theorem status_counts (inCase : td.mode = .case)
    (handled : td.handle (.status sent status calls) = .ok outcome) (isEarbud : dev.IsEarbud)
    (known : cid < cidMax) : outcome.protocol.count dev cid =
      (td.count dev cid - if status ≠ .success ∧ sent.packet.destAddress = dev ∧
          caseCommsGetCid sent.packet.header = cid then 1 else 0) +
        owed outcome.accepted dev cid := by
  obtain ⟨lowered, reported, failure, transmitted, after, _⟩ := handleUartStatus_ok handled
  rw [after, checkPolls_count]
  rcases recordFailure_cases failure with ⟨⟨_, failed, toEarbud⟩, lowers⟩ | ⟨fine, rfl⟩
  · obtain ⟨mode, _, _, counts, _⟩ := decrementPollRequired_ok lowers
    rw [transmitted.counted (mode.trans inCase) dev isEarbud cid known,
      counts dev isEarbud cid known]
    refine congrArg (fun less => td.count dev cid - less + _) (if_congr ?_ rfl rfl)
    constructor
    · rintro ⟨rfl, rfl⟩
      exact ⟨failed, rfl, rfl⟩
    · rintro ⟨_, rfl, rfl⟩
      exact ⟨rfl, rfl⟩
  · rw [transmitted.counted inCase dev isEarbud cid known, if_neg, Nat.sub_zero]
    rintro ⟨failed, rfl, _⟩
    exact fine ⟨inCase, failed, isEarbud⟩

theorem receive_counts (inCase : td.mode = .case)
    (handled : td.handle (.receive sourceDev header msg answered calls) = .ok outcome) :
    (caseCommsGetCid header < cidMax → sourceDev.IsEarbud) ∧
      ∀ dev : Dev, dev.IsEarbud → ∀ cid < cidMax, outcome.protocol.count dev cid =
          td.count dev cid + owed outcome.accepted dev cid -
            if dev = sourceDev ∧ cid = caseCommsGetCid header then 1 else 0 := by
  obtain ⟨called, transmitted, receipt, _⟩ := sendRxPacketToClient_ok handled
  rcases recordReceipt_cases receipt with ⟨_, lowers⟩ | ⟨inEarbud, _⟩
  · obtain ⟨_, _, isEarbud, counts, _⟩ := decrementPollRequired_ok lowers
    refine ⟨isEarbud, ?_⟩
    intro dev devIsEarbud cid known
    rw [counts dev devIsEarbud cid known, transmitted.counted inCase dev devIsEarbud cid known]
  · exact absurd (transmitted.same.mode.trans inCase) inEarbud

theorem pollTimer_counts {dest : Dev} {sink : Sink}
    (handled : td.handle (.pollTimer dest sink) = .ok outcome) :
    outcome.protocol.channelCfg = td.channelCfg := by
  rcases handlePollTimer_ok handled with ⟨_, rfl⟩ | ⟨_, _, rfl⟩ | ⟨_, rfl⟩
  · rfl
  · rfl
  · exact (schedulePollIfRequired_same (td.cancelPoll dest)).2.1

theorem handle_mode
    (handled : td.handle event = .ok outcome) : outcome.protocol.mode = td.mode := by
  cases event with
  | transmit attempt => exact (transmit_ok handled).2.same.mode
  | status sent status calls =>
    obtain ⟨lowered, reported, failure, transmitted, after, _⟩ := handleUartStatus_ok handled
    rw [after, (checkPolls_same reported).1, transmitted.same.mode]
    rcases recordFailure_cases failure with ⟨_, lowers⟩ | ⟨_, rfl⟩
    · exact (decrementPollRequired_ok lowers).1
    · rfl
  | receive sourceDev header msg answered calls =>
    obtain ⟨called, transmitted, receipt, _⟩ := sendRxPacketToClient_ok handled
    rcases recordReceipt_cases receipt with ⟨_, lowers⟩ | ⟨_, after⟩
    · exact (decrementPollRequired_ok lowers).1.trans transmitted.same.mode
    · rw [after, transmitted.same.mode]
  | pollTimer dest sink =>
    rcases handlePollTimer_ok handled with ⟨_, rfl⟩ | ⟨_, _, rfl⟩ | ⟨_, rfl⟩
    · rfl
    · rfl
    · exact (schedulePollIfRequired_same (td.cancelPoll dest)).1

theorem handle_earbud (inEarbud : td.mode = .earbud) (handled : td.handle event = .ok outcome) :
    outcome.protocol.channelCfg = td.channelCfg := by
  have notCase : td.mode ≠ .case := by
    rw [inEarbud]
    decide
  cases event with
  | transmit attempt => exact (transmit_ok handled).2.uncounted inEarbud
  | status sent status calls =>
    obtain ⟨lowered, reported, failure, transmitted, after, _⟩ := handleUartStatus_ok handled
    rw [after, (checkPolls_same reported).2.1]
    rcases recordFailure_cases failure with ⟨⟨inCase, _⟩, _⟩ | ⟨_, rfl⟩
    · exact absurd inCase notCase
    · exact transmitted.uncounted inEarbud
  | receive sourceDev header msg answered calls =>
    obtain ⟨called, transmitted, receipt, _⟩ := sendRxPacketToClient_ok handled
    rcases recordReceipt_cases receipt with ⟨inCase, _⟩ | ⟨_, after⟩
    · exact absurd (transmitted.same.mode.symm.trans inCase) notCase
    · rw [after, transmitted.uncounted inEarbud]
  | pollTimer dest sink => exact pollTimer_counts handled

theorem outstandingOn_settle_le (s : System) (event : Event) (dev : Dev) (cid : Nat) :
    (s.settle event).outstandingOn dev cid ≤ s.outstandingOn dev cid := by
  cases event with
  | transmit attempt => exact Nat.le_refl _
  | status sent status calls =>
    change (s.report sent status).outstandingOn dev cid ≤ _
    rw [outstandingOn_report]
    exact Nat.sub_le _ _
  | receive sourceDev header msg answered calls =>
    cases answered with
    | none => exact Nat.le_refl _
    | some sent =>
      change (s.answer (some sent)).outstandingOn dev cid ≤ _
      rw [outstandingOn_answer]
      exact Nat.sub_le _ _
  | pollTimer dest sink => exact Nat.le_refl _

theorem acceptedBy_packet (taken : acceptedBy attempt = some message) :
    message.packet = uartPacket message.call.dest message.call.cid message.call.mid
      message.call.data := by
  obtain ⟨packet, sent, rfl⟩ := Option.map_eq_some_iff.mp taken
  unfold transSchemeBTransmit at sent
  split at sent
  · injection sent with sent
    exact sent.symm
  · contradiction

theorem handled_packet (handled : s.protocol.handle event = .ok outcome)
    (isIn : message ∈ outcome.accepted) :
    message.packet = uartPacket message.call.dest message.call.cid message.call.mid
      message.call.data := by
  rcases accepted_eq handled with same | ⟨dest, sink, packet, taken, rfl, poll⟩
  · rw [same] at isIn
    obtain ⟨attempt, _, taken⟩ := List.mem_filterMap.mp isIn
    exact acceptedBy_packet taken
  · rw [poll, List.mem_singleton] at isIn
    subst isIn
    have sent : acceptedBy ⟨⟨dest, cidInvalid, 0, [], false⟩, sink⟩ =
        some ⟨⟨dest, cidInvalid, 0, [], false⟩, packet⟩ := by
      rw [acceptedBy, taken]
      rfl
    exact acceptedBy_packet sent

theorem settle_inFlight (isIn : sent ∈ (s.settle event).inFlight) : sent ∈ s.inFlight := by
  cases event with
  | transmit attempt => exact isIn
  | status reported status calls => exact List.mem_of_mem_erase isIn
  | receive sourceDev header msg answered calls => exact isIn
  | pollTimer dest sink => exact isIn

theorem ledger_init (mode : Mode) (registered : Nat → Bool × Bool) :
    Ledger (.init mode registered) where
  packets := fun _ isIn => absurd isIn List.not_mem_nil
  uncounted := by
    intro _ dev cid
    cases dev <;> rfl

theorem ledger_step (ledger : Ledger s) (stepped : s.step event = .ok next) : Ledger next := by
  obtain ⟨outcome, handled, rfl⟩ := step_ok stepped
  refine ⟨?_, ?_⟩
  · intro sent isIn
    rcases List.mem_append.mp isIn with old | new
    · exact ledger.packets sent (settle_inFlight old)
    · exact handled_packet handled (mem_numbered new)
  · intro inEarbud dev cid
    have before : s.protocol.mode = .earbud := (handle_mode handled).symm.trans inEarbud
    exact (count_congr (handle_earbud before handled) dev cid).trans
      (ledger.uncounted before dev cid)

theorem ledger_reached {kind : System → Event → Prop} (reached : Reached mode registered kind s) :
    Ledger s := by
  induction reached with
  | init => exact ledger_init mode registered
  | step _ _ _ _ stepped induction => exact ledger_step induction stepped

theorem countsRight_earbud_iff
    (ledger : Ledger s) (right : CountsRight s) (inEarbud : s.protocol.mode = .earbud)
    (handled : s.protocol.handle event = .ok outcome) :
    CountsRight ((s.settle event).record outcome) ↔
      ∀ dev : Dev, dev.IsEarbud → ∀ cid < cidMax, owed (event.accepted s) dev cid = 0 := by
  refine forall_congr' fun dev => forall_congr' fun isEarbud => forall_congr' fun cid =>
    forall_congr' fun known => ?_
  have count : ((s.settle event).record outcome).protocol.count dev cid = 0 :=
    (count_congr (handle_earbud inEarbud handled) dev cid).trans
      (ledger.uncounted inEarbud dev cid)
  have waiting := right dev isEarbud cid known
  have settled := outstandingOn_settle_le s event dev cid
  rw [ledger.uncounted inEarbud dev cid] at waiting
  rw [count, outstandingOn_record, owed_accepted handled]
  omega

theorem countsRight_status_iff (ledger : Ledger s) (right : CountsRight s)
    (inCase : s.protocol.mode = .case) (awaits : sent ∈ s.inFlight)
    (handled : s.protocol.handle (.status sent status calls) = .ok outcome) :
    CountsRight ((s.report sent status).record outcome) ↔
      (Event.status sent status calls).LowersRightly s := by
  have packet := ledger.packets sent awaits
  have address : sent.packet.destAddress = sent.call.dest := by
    rw [packet, uartPacket_destAddress]
  have counts : ∀ dev : Dev, dev.IsEarbud → ∀ cid < cidMax,
      ((s.report sent status).record outcome).protocol.count dev cid = (s.outstandingOn dev cid -
          if status ≠ .success ∧ sent.packet.destAddress = dev ∧
            caseCommsGetCid sent.packet.header = cid then 1 else 0) +
          owed outcome.accepted dev cid := by
    intro dev isEarbud cid known
    rw [← right dev isEarbud cid known]
    exact status_counts inCase handled isEarbud known
  constructor
  · intro rightAfter failed isEarbud known
    have after := rightAfter _ isEarbud _ known
    rw [counts _ isEarbud _ known, outstandingOn_record, outstandingOn_report,
      if_pos ⟨failed, rfl, rfl⟩] at after
    by_cases waits : sent ∈ s.outstanding ∧ sent.call.cid = caseCommsGetCid sent.packet.header
    · exact .inl waits
    · rw [if_neg fun still => waits ⟨still.2.1, still.2.2.2⟩] at after
      exact .inr (by omega)
  · intro lowersRightly dev isEarbud cid known
    rw [counts dev isEarbud cid known, outstandingOn_record, outstandingOn_report]
    refine congrArg (· + owed outcome.accepted dev cid) ?_
    by_cases still : status ≠ .success ∧ sent ∈ s.outstanding ∧ sent.call.On dev cid
    · obtain ⟨failed, waits, on⟩ := still
      have header : caseCommsGetCid sent.packet.header = cid := by
        rw [packet, uartPacket_cid]
        · exact on.2
        · rw [on.2]
          exact known
      rw [if_pos ⟨failed, address.trans on.1, header⟩, if_pos ⟨failed, waits, on⟩]
    · rw [if_neg still]
      split
      · rename_i lowered
        obtain ⟨failed, rfl, rfl⟩ := lowered
        rcases lowersRightly failed isEarbud known with ⟨waits, sameCid⟩ | none
        · exact absurd ⟨failed, waits, address.symm, sameCid⟩ still
        · rw [none]
      · rfl

theorem countsRight_receive_iff (right : CountsRight s) (inCase : s.protocol.mode = .case)
    (possible : (Event.receive sourceDev header msg answered calls).Possible s)
    (handled : s.protocol.handle (.receive sourceDev header msg answered calls) = .ok outcome) :
    CountsRight ((s.answer answered).record outcome) ↔
      (Event.receive sourceDev header msg answered calls).LowersRightly s := by
  obtain ⟨sourceIsEarbud, counts⟩ := receive_counts inCase handled
  have owes := owed_accepted handled
  have counted : ∀ dev : Dev, dev.IsEarbud → ∀ cid < cidMax,
      ((s.answer answered).record outcome).protocol.count dev cid =
        s.outstandingOn dev cid + owed outcome.accepted dev cid -
          if dev = sourceDev ∧ cid = caseCommsGetCid header then 1 else 0 := by
    intro dev isEarbud cid known
    rw [← right dev isEarbud cid known]
    exact counts dev isEarbud cid known
  cases answered with
  | some sent =>
    obtain ⟨waits, from_, channel⟩ := possible sent rfl
    refine ⟨fun _ isNone => absurd isNone (by simp), fun _ => ?_⟩
    intro dev isEarbud cid known
    rw [counted dev isEarbud cid known, outstandingOn_record, outstandingOn_answer]
    by_cases on : sent.call.On dev cid
    · have positive := outstandingOn_pos waits on
      rw [if_pos ⟨on.1.symm.trans from_, on.2.symm.trans channel⟩, if_pos ⟨waits, on⟩]
      omega
    · rw [if_neg, if_neg fun still => on still.2]
      · omega
      · rintro ⟨rfl, rfl⟩
        exact on ⟨from_, channel⟩
  | none =>
    have nothing : ∀ dev cid, ((s.answer none).record outcome).outstandingOn dev cid =
        s.outstandingOn dev cid + owed outcome.accepted dev cid :=
      fun dev cid => outstandingOn_record (s.answer none) outcome dev cid
    constructor
    · intro rightAfter _ known
      have after := rightAfter _ (sourceIsEarbud known) _ known
      rw [counted _ (sourceIsEarbud known) _ known, nothing, if_pos ⟨rfl, rfl⟩] at after
      rw [← owes]
      omega
    · intro lowersRightly dev isEarbud cid known
      rw [counted dev isEarbud cid known, nothing]
      split
      · rename_i same
        obtain ⟨rfl, rfl⟩ := same
        have zero := lowersRightly rfl known
        rw [← owes] at zero
        omega
      · rfl

theorem countsRight_step_iff (ledger : Ledger s)
    (right : CountsRight s) (possible : event.Possible s) (stepped : s.step event = .ok next) :
    CountsRight next ↔ Accounts s event := by
  obtain ⟨outcome, handled, rfl⟩ := step_ok stepped
  cases mode : s.protocol.mode with
  | earbud =>
    rw [countsRight_earbud_iff ledger right mode handled]
    constructor
    · intro none
      refine ⟨fun _ => none, fun inCase => ?_⟩
      rw [mode] at inCase
      contradiction
    · exact fun accounts => accounts.notRequired mode
  | case =>
    have accounts : Accounts s event ↔ event.LowersRightly s := by
      refine ⟨fun accounts => accounts.lowersRightly mode, fun lowers => ⟨?_, fun _ => lowers⟩⟩
      intro inEarbud
      rw [mode] at inEarbud
      contradiction
    rw [accounts]
    cases event with
    | transmit attempt =>
      refine ⟨fun _ => trivial, fun _ dev isEarbud cid known => ?_⟩
      have counted := (transmit_ok handled).2.counted mode dev isEarbud cid known
      rw [right dev isEarbud cid known] at counted
      exact counted.trans (outstandingOn_record s outcome dev cid).symm
    | status sent status calls =>
      exact countsRight_status_iff ledger right mode possible handled
    | receive sourceDev header msg answered calls =>
      exact countsRight_receive_iff right mode possible handled
    | pollTimer dest sink =>
      refine ⟨fun _ => trivial, fun _ dev isEarbud cid known => ?_⟩
      have same := count_congr (pollTimer_counts handled) dev cid
      have polls := owed_accepted handled dev cid
      rw [right dev isEarbud cid known] at same
      refine same.trans ?_
      change _ = (s.record outcome).outstandingOn dev cid
      rw [outstandingOn_record, polls]
      rfl

theorem countsRight_init (mode : Mode) (registered : Nat → Bool × Bool) :
    CountsRight (.init mode registered) := by
  intro dev _ cid _
  cases dev <;> rfl

theorem countsRight_reached (reached : Reached mode registered Accounts s) : CountsRight s := by
  induction reached with
  | init => exact countsRight_init mode registered
  | step before event possible accounts stepped right =>
    exact (countsRight_step_iff (ledger_reached before) right possible stepped).mpr accounts

/-- In runs whose events account for messages the counts are right, and they stay right
with the next event only if it does so too. -/
theorem counts_right_iff {mode : Mode} {registered : Nat → Bool × Bool} {s : System}
    (reached : Reached mode registered Accounts s) :
    CountsRight s ∧ ∀ event next, event.Possible s → s.step event = .ok next →
      (CountsRight next ↔ Accounts s event) :=
  ⟨countsRight_reached reached, fun _ _ possible stepped =>
    countsRight_step_iff (ledger_reached reached) (countsRight_reached reached) possible stepped⟩

theorem counts_right_iff_message :
    ∃ s, Reached .case (fun _ => (false, false)) Accounts s ∧ CountsRight s ∧
      s.protocol.count .leftEb cidCase = 1 := by
  have reached : Reached .case (fun _ => (false, false)) Accounts _ :=
    .step .init (.transmit ⟨⟨.leftEb, cidCase, 1, [7], true⟩, ⟨16, true, true⟩⟩) trivial
      ⟨fun inEarbud => absurd inEarbud (by decide), fun _ => trivial⟩ rfl
  exact ⟨_, reached, (counts_right_iff reached).1, by decide⟩

/-- A notification that fails takes the count of a message away that still waits. -/
theorem failed_notification_lowers :
    ∃ s, Reached .case (fun _ => (false, false)) (fun _ _ => True) s ∧
      s.outstandingOn .leftEb cidCase = 1 ∧ s.protocol.count .leftEb cidCase = 0 := by
  have sent : Reached .case (fun _ => (false, false)) (fun _ _ => True) _ :=
    .step .init (.transmit ⟨⟨.leftEb, cidCase, 1, [7], true⟩, ⟨16, true, true⟩⟩) trivial
      trivial rfl
  have acknowledged : Reached .case (fun _ => (false, false)) (fun _ _ => True) _ :=
    .step sent (.status
      ⟨0, ⟨.leftEb, cidCase, 1, [7], true⟩, ⟨.commsData, .leftEb, 1, [7]⟩⟩ .success [])
      List.mem_cons_self trivial rfl
  have notified : Reached .case (fun _ => (false, false)) (fun _ _ => True) _ :=
    .step acknowledged (.transmit ⟨⟨.leftEb, cidCase, 2, [7], false⟩, ⟨16, true, true⟩⟩)
      trivial trivial rfl
  have failed : Reached .case (fun _ => (false, false)) (fun _ _ => True) _ :=
    .step notified (.status
      ⟨1, ⟨.leftEb, cidCase, 2, [7], false⟩, ⟨.commsData, .leftEb, 2, [7]⟩⟩ .failed [])
      List.mem_cons_self trivial rfl
  exact ⟨_, failed, by decide, by decide⟩

end Counts

end HeadsetAdk.CaseComms
