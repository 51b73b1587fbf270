import HeadsetAdk.CaseComms.Accounting
import Mathlib.Data.List.Nodup

/-! # Polling for responses -/

namespace HeadsetAdk.CaseComms

section Needs

variable {td : Protocol Unit} {waiting : System} {dev : Dev}

/-- An earbud owes a response on some channel. -/
def System.Owes (s : System) (dev : Dev) : Prop :=
  ∃ message ∈ s.outstanding, message.call.dest = dev ∧ message.call.cid < cidMax

/-- A packet or a poll to a device awaits its status. -/
def System.Awaits (s : System) (dev : Dev) : Prop := ∃ sent ∈ s.inFlight, sent.call.dest = dev

def PollPending (s : System) : Prop :=
  ∀ dev : Dev, dev.IsEarbud → s.Owes dev → ¬ s.Awaits dev → dev ∈ s.protocol.pollTimers

def Dev.other : Dev → Dev
  | .leftEb => .rightEb
  | .rightEb => .leftEb
  | .case => .case
  | .broadcast => .broadcast

/-- Whether an earbud is polled before the other one, after `last` was polled. -/
def System.FirstPolled (s : System) (last dev : Dev) : Prop :=
  ¬ s.Owes dev.other ∨ (dev = .leftEb ↔ last ≠ .leftEb)

theorem owes_iff_outstandingOn (s : System) (dev : Dev) :
    s.Owes dev ↔ ∃ cid < cidMax, 0 < s.outstandingOn dev cid := by
  constructor
  · rintro ⟨message, waits, dest, known⟩
    exact ⟨message.call.cid, known, outstandingOn_pos waits ⟨dest, rfl⟩⟩
  · rintro ⟨cid, known, positive⟩
    obtain ⟨message, waits, on⟩ := List.countP_pos_iff.mp positive
    obtain ⟨dest, rfl⟩ := of_decide_eq_true on
    exact ⟨message, waits, dest, known⟩

def Tracks (td : Protocol Unit) (waiting : System) : Prop :=
  ∀ dev : Dev, dev.IsEarbud → ∀ cid < cidMax, td.count dev cid = waiting.outstandingOn dev cid

theorem outstandingResponseTotal_eq (td : Protocol Unit) (dev : Dev) :
    td.outstandingResponseTotal dev =
      td.count dev 0 + td.count dev 1 + td.count dev 2 + td.count dev 3 + td.count dev 4 := by
  have unrolled : td.outstandingResponseTotal dev =
      0 + td.count dev 0 + td.count dev 1 + td.count dev 2 + td.count dev 3 + td.count dev 4 :=
    rfl
  rw [unrolled, Nat.zero_add]

theorem total_pos_iff (tracks : Tracks td waiting) (isEarbud : dev.IsEarbud) :
    0 < td.outstandingResponseTotal dev ↔ waiting.Owes dev := by
  rw [owes_iff_outstandingOn, outstandingResponseTotal_eq]
  constructor
  · intro positive
    have some : ∃ cid < cidMax, 0 < td.count dev cid := by
      by_contra none
      simp only [not_exists, not_and, Nat.not_lt, Nat.le_zero] at none
      have zero := none 0 (by decide)
      have one := none 1 (by decide)
      have two := none 2 (by decide)
      have three := none 3 (by decide)
      have four := none 4 (by decide)
      omega
    obtain ⟨cid, known, counted⟩ := some
    exact ⟨cid, known, (tracks dev isEarbud cid known) ▸ counted⟩
  · rintro ⟨cid, known, waits⟩
    rw [← tracks dev isEarbud cid known] at waits
    have bound : cid < 5 := known
    rcases (by omega : cid = 0 ∨ cid = 1 ∨ cid = 2 ∨ cid = 3 ∨ cid = 4) with
      rfl | rfl | rfl | rfl | rfl <;> omega

theorem getEarbudToPoll_eq_some_iff (tracks : Tracks td waiting) (isEarbud : dev.IsEarbud) :
    td.getEarbudToPoll = some dev ↔
      waiting.Owes dev ∧ waiting.FirstPolled td.lastEarbudPolled dev := by
  have left := total_pos_iff tracks (.inl rfl : Dev.leftEb.IsEarbud)
  have right := total_pos_iff tracks (.inr rfl : Dev.rightEb.IsEarbud)
  unfold Protocol.getEarbudToPoll System.FirstPolled
  rcases isEarbud with rfl | rfl
  · simp only [Dev.other, ← left, ← right]
    by_cases last : td.lastEarbudPolled = .leftEb <;> grind
  · simp only [Dev.other, ← left, ← right]
    by_cases last : td.lastEarbudPolled = .leftEb <;> grind

theorem getEarbudToPoll_eq_none_iff (tracks : Tracks td waiting) :
    td.getEarbudToPoll = none ↔ ∀ dev : Dev, dev.IsEarbud → ¬ waiting.Owes dev := by
  have left := total_pos_iff tracks (.inl rfl : Dev.leftEb.IsEarbud)
  have right := total_pos_iff tracks (.inr rfl : Dev.rightEb.IsEarbud)
  have split : (∀ dev : Dev, dev.IsEarbud → ¬ waiting.Owes dev) ↔
      ¬ waiting.Owes .leftEb ∧ ¬ waiting.Owes .rightEb := by
    constructor
    · exact fun none => ⟨none .leftEb (.inl rfl), none .rightEb (.inr rfl)⟩
    · rintro ⟨noLeft, noRight⟩ dev (rfl | rfl)
      · exact noLeft
      · exact noRight
  rw [split, ← left, ← right]
  unfold Protocol.getEarbudToPoll
  grind

theorem mem_schedulePollIfRequired (td : Protocol Unit) (dev : Dev) :
    dev ∈ (td.schedulePollIfRequired schemeB).pollTimers ↔
      dev ∈ td.pollTimers ∨ td.getEarbudToPoll = some dev := by
  unfold Protocol.schedulePollIfRequired
  rw [show schemeB.requiresPolling = true from rfl, if_pos rfl]
  cases td.getEarbudToPoll with
  | none => simp
  | some dest =>
    dsimp only
    split
    · rename_i pending
      refine ⟨.inl, ?_⟩
      rintro (pendingToo | same)
      · exact pendingToo
      · injection same with same
        rw [← same]
        exact pending
    · rw [List.mem_append, List.mem_singleton]
      refine or_congr Iff.rfl ⟨fun same => by rw [same], fun same => ?_⟩
      injection same with same
      exact same.symm

end Needs

section Steps

variable {s other : System} {outcome : Outcome Unit UartPacket} {dev sourceDev : Dev}
  {event : Event} {td : Protocol Unit} {mode : Mode} {registered : Nat → Bool × Bool}
  {sent : Sent} {status : UartTxStatus} {calls : List (Attempt Sink)}
  {header : UInt8} {msg : List UInt8} {answered : Option Sent}

/-- What waits when an event has happened and clients have made their calls. -/
def Event.after (s : System) (event : Event) : System :=
  (s.settle event).record ⟨s.protocol, [], event.accepted s⟩

/-- The poll timer of an earbud is cancelled when nothing waits on a channel any more. -/
def System.Cancels (s : System) (dev : Dev) (cid : Nat) : Prop :=
  cid < cidMax ∧ s.outstandingOn dev cid = 0

def Event.PollsOn (s : System) : Event → Prop
  | .transmit _ => True
  | .status sent result calls =>
      sent.call.dest.IsEarbud →
        ((Event.status sent result calls).after s).Owes sent.call.dest →
          ¬ ((Event.status sent result calls).after s).Awaits sent.call.dest →
          ((Event.status sent result calls).after s).FirstPolled s.protocol.lastEarbudPolled
            sent.call.dest ∨
            (sent.call.dest ∈ s.protocol.pollTimers ∧ ¬ (result ≠ .success ∧
              (s.report sent result).Cancels sent.call.dest
                (caseCommsGetCid sent.packet.header)))
  | .receive sourceDev header msg answered calls =>
      sourceDev.IsEarbud →
        ((Event.receive sourceDev header msg answered calls).after s).Owes sourceDev →
          ¬ ((Event.receive sourceDev header msg answered calls).after s).Awaits sourceDev →
          ¬ (s.answer answered).Cancels sourceDev (caseCommsGetCid header)
  | .pollTimer dest sink =>
      dest.IsEarbud → transSchemeBTransmit sink dest cidInvalid 0 [] = none → s.Owes dest →
        ¬ s.Awaits dest → s.FirstPolled s.protocol.lastEarbudPolled dest

theorem owes_record (s : System) (outcome : Outcome Unit UartPacket) (dev : Dev) :
    (s.record outcome).Owes dev ↔
      s.Owes dev ∨ ∃ cid < cidMax, 0 < owed outcome.accepted dev cid := by
  rw [owes_iff_outstandingOn, owes_iff_outstandingOn, ← exists_or]
  refine exists_congr fun cid => ?_
  rw [outstandingOn_record, ← and_or_left]
  exact and_congr_right fun _ => Nat.add_pos_iff_pos_or_pos

theorem awaits_record (s : System) (outcome : Outcome Unit UartPacket) (dev : Dev) :
    (s.record outcome).Awaits dev ↔
      s.Awaits dev ∨ ∃ message ∈ outcome.accepted, message.call.dest = dev := by
  have numbers : (∃ sent ∈ numbered s.nextSerial outcome.accepted, sent.call.dest = dev) ↔
      ∃ message ∈ outcome.accepted, message.call.dest = dev := by
    constructor
    · rintro ⟨sent, isIn, dest⟩
      exact ⟨_, mem_numbered isIn, dest⟩
    · rintro ⟨message, isIn, dest⟩
      have calls : message.call ∈ (numbered s.nextSerial outcome.accepted).map Sent.call := by
        rw [numbered_map]
        exact List.mem_map_of_mem isIn
      obtain ⟨sent, sentIn, same⟩ := List.mem_map.mp calls
      exact ⟨sent, sentIn, by rw [same]; exact dest⟩
  unfold System.Awaits System.record
  simp only [List.mem_append, or_and_right, exists_or, numbers]

theorem owes_record_of_not_awaits
    (idle : ¬ (s.record outcome).Awaits dev) : (s.record outcome).Owes dev ↔ s.Owes dev := by
  rw [owes_record, or_iff_left]
  rintro ⟨cid, _, positive⟩
  obtain ⟨message, isIn, required⟩ := List.countP_pos_iff.mp positive
  rw [Bool.and_eq_true, decide_eq_true_eq] at required
  exact idle ((awaits_record s outcome dev).mpr (.inr ⟨message, isIn, required.2.1⟩))

theorem owed_of_not_awaits (idle : ¬ (s.record outcome).Awaits dev) (cid : Nat) :
    owed outcome.accepted dev cid = 0 := by
  by_contra some
  obtain ⟨message, isIn, required⟩ := List.countP_pos_iff.mp (Nat.pos_of_ne_zero some)
  rw [Bool.and_eq_true, decide_eq_true_eq] at required
  exact idle ((awaits_record s outcome dev).mpr (.inr ⟨message, isIn, required.2.1⟩))

theorem settle_other (possible : event.Possible s)
    (other : ∀ sent status calls, event = .status sent status calls → sent.call.dest ≠ dev)
    (notSource : ∀ sourceDev header msg answered calls,
      event = .receive sourceDev header msg answered calls → sourceDev ≠ dev) :
    ((s.settle event).Owes dev ↔ s.Owes dev) ∧ ((s.settle event).Awaits dev ↔ s.Awaits dev) := by
  have erased : ∀ (sent : Sent) (sents : List Sent), sent.call.dest ≠ dev →
      ∀ kept : Sent → Prop, (∃ message ∈ sents.erase sent, message.call.dest = dev ∧ kept message) ↔
        ∃ message ∈ sents, message.call.dest = dev ∧ kept message := by
    intro sent sents elsewhere kept
    refine exists_congr fun message => ?_
    constructor
    · exact fun ⟨isIn, rest⟩ => ⟨List.mem_of_mem_erase isIn, rest⟩
    · rintro ⟨isIn, dest, rest⟩
      refine ⟨(List.mem_erase_of_ne ?_).mpr isIn, dest, rest⟩
      rintro rfl
      exact elsewhere dest
  cases event with
  | transmit attempt => exact ⟨Iff.rfl, Iff.rfl⟩
  | pollTimer dest sink => exact ⟨Iff.rfl, Iff.rfl⟩
  | status sent status calls =>
    have elsewhere := other sent status calls rfl
    refine ⟨?_, ?_⟩
    · by_cases succeeded : status = .success
      · subst succeeded
        exact Iff.rfl
      · have outstanding : (s.report sent status).outstanding = s.outstanding.erase sent :=
          if_neg succeeded
        change (s.report sent status).Owes dev ↔ _
        unfold System.Owes
        rw [outstanding]
        exact erased sent s.outstanding elsewhere fun message => message.call.cid < cidMax
    · have flight := erased sent s.inFlight elsewhere fun _ => True
      simp only [and_true] at flight
      exact flight
  | receive sourceDev header msg answered calls =>
    refine ⟨?_, Iff.rfl⟩
    cases answered with
    | none => exact Iff.rfl
    | some sent =>
      obtain ⟨_, source, _⟩ := possible sent rfl
      have elsewhere : sent.call.dest ≠ dev := by
        rw [source]
        exact notSource sourceDev header msg (some sent) calls rfl
      exact erased sent s.outstanding elsewhere fun message => message.call.cid < cidMax

section

variable {after : Protocol Unit} {source : Dev} {cid : Nat}
  (lowered : td.decrementPollRequired schemeB source cid = .ok after) (once : td.pollTimers.Nodup)

include lowered once

theorem mem_decrementPollRequired : dev ∈ after.pollTimers ↔
      dev ∈ td.pollTimers ∧ ¬ (source = dev ∧ cid < cidMax ∧ td.count source cid ≤ 1) := by
  rw [(decrementPollRequired_ok lowered).2.2.2.2]
  split
  · rename_i cancelled
    rw [once.mem_erase_iff, and_comm]
    refine and_congr_right fun _ => ?_
    constructor
    · rintro elsewhere ⟨rfl, _⟩
      exact elsewhere rfl
    · intro kept same
      exact kept ⟨same.symm, cancelled⟩
  · rename_i kept
    exact (and_iff_left fun cancelled => kept cancelled.2).symm

theorem nodup_decrementPollRequired : after.pollTimers.Nodup := by
  rw [(decrementPollRequired_ok lowered).2.2.2.2]
  split
  · exact once.erase source
  · exact once

end

theorem nodup_schedulePollIfRequired (once : td.pollTimers.Nodup) :
    (td.schedulePollIfRequired schemeB).pollTimers.Nodup := by
  unfold Protocol.schedulePollIfRequired
  rw [show schemeB.requiresPolling = true from rfl, if_pos rfl]
  cases td.getEarbudToPoll with
  | none => exact once
  | some dest =>
    dsimp only
    split
    · exact once
    · rename_i absent
      exact List.Nodup.append once (List.nodup_singleton dest)
        (List.disjoint_singleton.mpr absent)

theorem nodup_handle (once : td.pollTimers.Nodup) (handled : td.handle event = .ok outcome) :
    outcome.protocol.pollTimers.Nodup := by
  cases event with
  | transmit attempt =>
    rw [(transmit_ok handled).2.same.pollTimers]
    exact once
  | status sent status calls =>
    obtain ⟨lowered, reported, failure, transmitted, after, _⟩ := handleUartStatus_ok handled
    have left : reported.pollTimers.Nodup := by
      rw [transmitted.same.pollTimers]
      rcases recordFailure_cases failure with ⟨_, lowers⟩ | ⟨_, rfl⟩
      · exact nodup_decrementPollRequired lowers once
      · exact once
    rw [after]
    unfold Protocol.checkPolls
    split
    · exact nodup_schedulePollIfRequired left
    · exact left
  | receive sourceDev header msg answered calls =>
    obtain ⟨called, transmitted, receipt, _⟩ := sendRxPacketToClient_ok handled
    have left : called.pollTimers.Nodup := by
      rw [transmitted.same.pollTimers]
      exact once
    rcases recordReceipt_cases receipt with ⟨_, lowers⟩ | ⟨_, after⟩
    · exact nodup_decrementPollRequired lowers left
    · rw [after]
      exact left
  | pollTimer dest sink =>
    have left : (td.cancelPoll dest).pollTimers.Nodup := once.erase dest
    rcases handlePollTimer_ok handled with ⟨_, rfl⟩ | ⟨_, _, rfl⟩ | ⟨_, rfl⟩
    · exact left
    · exact left
    · exact nodup_schedulePollIfRequired left

variable {kind : System → Event → Prop}

theorem nodup_reached (reached : Reached mode registered kind s) : s.protocol.pollTimers.Nodup := by
  induction reached with
  | init => exact List.nodup_nil
  | step _ _ _ _ stepped once =>
    obtain ⟨outcome, handled, rfl⟩ := step_ok stepped
    exact nodup_handle once handled

theorem mode_reached (reached : Reached mode registered kind s) : s.protocol.mode = mode := by
  induction reached with
  | init => rfl
  | step _ _ _ _ stepped same =>
    obtain ⟨outcome, handled, rfl⟩ := step_ok stepped
    exact (handle_mode handled).trans same

theorem pollPending_other (pending : PollPending s) (isEarbud : dev.IsEarbud)
    (settled : ((s.settle event).Owes dev ↔ s.Owes dev) ∧
      ((s.settle event).Awaits dev ↔ s.Awaits dev))
    (kept : dev ∈ s.protocol.pollTimers → dev ∈ outcome.protocol.pollTimers)
    (owes : ((s.settle event).record outcome).Owes dev)
    (idle : ¬ ((s.settle event).record outcome).Awaits dev) :
    dev ∈ outcome.protocol.pollTimers := by
  have wasIdle : ¬ (s.settle event).Awaits dev := fun awaits =>
    idle ((awaits_record (s.settle event) outcome dev).mpr (.inl awaits))
  rw [owes_record_of_not_awaits idle, settled.1] at owes
  exact kept (pending dev isEarbud owes fun awaits => wasIdle (settled.2.mpr awaits))

theorem owes_congr (same : s.outstanding = other.outstanding) (dev : Dev) :
    s.Owes dev ↔ other.Owes dev := by
  rw [System.Owes, System.Owes, same]

theorem awaits_congr (same : s.inFlight = other.inFlight) (dev : Dev) :
    s.Awaits dev ↔ other.Awaits dev := by
  rw [System.Awaits, System.Awaits, same]

theorem firstPolled_congr (same : s.outstanding = other.outstanding)
    (last dev : Dev) : s.FirstPolled last dev ↔ other.FirstPolled last dev := by
  rw [System.FirstPolled, System.FirstPolled, owes_congr same]

theorem after_same (accepted : outcome.accepted = event.accepted s) :
    (event.after s).outstanding = ((s.settle event).record outcome).outstanding ∧
      (event.after s).inFlight = ((s.settle event).record outcome).inFlight := by
  unfold Event.after System.record
  rw [accepted]
  exact ⟨rfl, rfl⟩

theorem cancels_report_iff (right : CountsRight s)
    (lowers : (Event.status sent status calls).LowersRightly s) (failed : status ≠ .success)
    (address : sent.packet.destAddress = sent.call.dest) (isEarbud : sent.call.dest.IsEarbud) :
    (s.report sent status).Cancels sent.call.dest (caseCommsGetCid sent.packet.header) ↔
      caseCommsGetCid sent.packet.header < cidMax ∧
        s.protocol.count sent.call.dest (caseCommsGetCid sent.packet.header) ≤ 1 := by
  refine and_congr_right fun known => ?_
  have lowered := lowers failed (by rw [address]; exact isEarbud) known
  rw [address] at lowered
  rw [right _ isEarbud _ known, outstandingOn_report]
  rcases lowered with ⟨waits, channel⟩ | none
  · have positive := outstandingOn_pos waits ⟨rfl, channel⟩
    rw [if_pos ⟨failed, waits, rfl, channel⟩]
    omega
  · rw [none]
    omega

theorem cancels_answer_iff (right : CountsRight s)
    (possible : (Event.receive sourceDev header msg answered calls).Possible s)
    (lowers : (Event.receive sourceDev header msg answered calls).LowersRightly s)
    (isEarbud : sourceDev.IsEarbud) :
    (s.answer answered).Cancels sourceDev (caseCommsGetCid header) ↔
      caseCommsGetCid header < cidMax ∧
        s.protocol.count sourceDev (caseCommsGetCid header) ≤ 1 := by
  refine and_congr_right fun known => ?_
  rw [right _ isEarbud _ known]
  cases answered with
  | some sent =>
    obtain ⟨waits, source, channel⟩ := possible sent rfl
    have positive := outstandingOn_pos waits ⟨source, channel⟩
    rw [outstandingOn_answer, if_pos ⟨waits, source, channel⟩]
    omega
  | none =>
    have none := lowers rfl known
    change s.outstandingOn sourceDev (caseCommsGetCid header) = 0 ↔ _
    omega

section

variable (ledger : Ledger s) (right : CountsRight s) (once : s.protocol.pollTimers.Nodup)
  (inCase : s.protocol.mode = .case)

include ledger right once inCase

theorem mem_status (awaits : sent ∈ s.inFlight) (accounts : Accounts s (.status sent status calls))
    (handled : s.protocol.handle (.status sent status calls) = .ok outcome)
    (isEarbud : dev.IsEarbud) : dev ∈ outcome.protocol.pollTimers ↔
      (dev ∈ s.protocol.pollTimers ∧ ¬ (sent.call.dest = dev ∧ status ≠ .success ∧
        (s.report sent status).Cancels dev (caseCommsGetCid sent.packet.header))) ∨
      (((s.report sent status).record outcome).Owes dev ∧
        ((s.report sent status).record outcome).FirstPolled s.protocol.lastEarbudPolled dev) := by
  have address : sent.packet.destAddress = sent.call.dest := by
    rw [ledger.packets sent awaits, uartPacket_destAddress]
  obtain ⟨lowered, reported, failure, transmitted, after, _⟩ := handleUartStatus_ok handled
  have rightAfter : CountsRight ((s.report sent status).record outcome) :=
    (countsRight_status_iff ledger right inCase awaits handled).mpr (accounts.lowersRightly inCase)
  have tracks : Tracks reported ((s.report sent status).record outcome) := by
    intro other otherIsEarbud cid known
    rw [← rightAfter other otherIsEarbud cid known]
    change _ = outcome.protocol.count other cid
    rw [after, checkPolls_count]
  have modeLowered : lowered.mode = .case ∧
      lowered.lastEarbudPolled = s.protocol.lastEarbudPolled := by
    rcases recordFailure_cases failure with ⟨_, lowers⟩ | ⟨_, rfl⟩
    · obtain ⟨mode, last, _⟩ := decrementPollRequired_ok lowers
      exact ⟨mode.trans inCase, last⟩
    · exact ⟨inCase, rfl⟩
  have scheduled : outcome.protocol = reported.schedulePollIfRequired schemeB := by
    rw [after, Protocol.checkPolls, if_pos (transmitted.same.mode.trans modeLowered.1)]
  rw [scheduled, mem_schedulePollIfRequired, getEarbudToPoll_eq_some_iff tracks isEarbud,
    transmitted.same.pollTimers, transmitted.same.lastEarbudPolled, modeLowered.2]
  refine or_congr ?_ Iff.rfl
  rcases recordFailure_cases failure with ⟨⟨_, failed, toEarbud⟩, lowers⟩ | ⟨fine, rfl⟩
  · rw [mem_decrementPollRequired lowers once]
    refine and_congr_right fun _ => not_congr ?_
    rw [address] at toEarbud ⊢
    have cancels := cancels_report_iff right (accounts.lowersRightly inCase) failed address toEarbud
    constructor
    · rintro ⟨rfl, cancelled⟩
      exact ⟨rfl, failed, cancels.mpr cancelled⟩
    · rintro ⟨rfl, _, cancelled⟩
      exact ⟨rfl, cancels.mp cancelled⟩
  · refine (and_iff_left ?_).symm
    rintro ⟨rfl, failed, _⟩
    exact fine ⟨inCase, failed, by rw [address]; exact isEarbud⟩

theorem pollPending_status_iff (pending : PollPending s) (awaits : sent ∈ s.inFlight)
    (accounts : Accounts s (.status sent status calls))
    (handled : s.protocol.handle (.status sent status calls) = .ok outcome) :
    PollPending ((s.report sent status).record outcome) ↔
      (Event.status sent status calls).PollsOn s := by
  have accepted : outcome.accepted = (Event.status sent status calls).accepted s := by
    rcases accepted_eq handled with same | ⟨_, _, _, _, isPoll, _⟩
    · exact same
    · exact absurd isPoll (by simp)
  obtain ⟨outstanding, inFlight⟩ := after_same accepted
  have timers := fun (dev : Dev) (isEarbud : dev.IsEarbud) =>
    mem_status ledger right once inCase awaits accounts handled isEarbud
  constructor
  · intro pendingAfter isEarbud owes idle
    rw [owes_congr outstanding] at owes
    rw [awaits_congr inFlight] at idle
    rw [firstPolled_congr outstanding]
    rcases (timers _ isEarbud).mp (pendingAfter _ isEarbud owes idle) with ⟨kept, stays⟩ | first
    · exact .inr ⟨kept, fun cancelled => stays ⟨rfl, cancelled⟩⟩
    · exact .inl first.2
  · intro pollsOn dev isEarbud owes idle
    by_cases concerned : sent.call.dest = dev
    · subst concerned
      have polls := pollsOn isEarbud
        ((owes_congr outstanding _).mpr owes) (mt (awaits_congr inFlight _).mp idle)
      rw [firstPolled_congr outstanding] at polls
      refine (timers _ isEarbud).mpr ?_
      rcases polls with first | ⟨kept, stays⟩
      · exact .inr ⟨owes, first⟩
      · exact .inl ⟨kept, fun cancelled => stays cancelled.2⟩
    · have possible : (Event.status sent status calls).Possible s := awaits
      have settled := settle_other possible
        (by
          intro _ _ _ same
          injection same with same
          rw [← same]
          exact concerned)
        (by
          intro _ _ _ _ _ same
          contradiction)
      exact pollPending_other pending isEarbud settled
        (fun kept => (timers dev isEarbud).mpr (.inl ⟨kept, fun cancelled =>
          concerned cancelled.1⟩)) owes idle

end

section

variable (right : CountsRight s) (once : s.protocol.pollTimers.Nodup)

include right once

theorem mem_receive (inCase : s.protocol.mode = .case)
    (possible : (Event.receive sourceDev header msg answered calls).Possible s)
    (accounts : Accounts s (.receive sourceDev header msg answered calls))
    (handled : s.protocol.handle (.receive sourceDev header msg answered calls) = .ok outcome)
    (isEarbud : dev.IsEarbud) (idle : ¬ ((s.answer answered).record outcome).Awaits dev) :
    dev ∈ outcome.protocol.pollTimers ↔ dev ∈ s.protocol.pollTimers ∧ ¬ (sourceDev = dev ∧
        (s.answer answered).Cancels dev (caseCommsGetCid header)) := by
  obtain ⟨called, transmitted, receipt, _⟩ := sendRxPacketToClient_ok handled
  rcases recordReceipt_cases receipt with ⟨_, lowers⟩ | ⟨inEarbud, _⟩
  · have calledOnce : called.pollTimers.Nodup := by
      rw [transmitted.same.pollTimers]
      exact once
    rw [mem_decrementPollRequired lowers calledOnce, transmitted.same.pollTimers]
    refine and_congr_right fun _ => not_congr (and_congr_right ?_)
    rintro rfl
    rw [cancels_answer_iff right possible (accounts.lowersRightly inCase) isEarbud]
    refine and_congr_right fun known => ?_
    rw [transmitted.counted inCase sourceDev isEarbud _ known, owed_of_not_awaits idle,
      Nat.add_zero]
  · exact absurd (transmitted.same.mode.trans inCase) inEarbud

theorem pollPending_receive_iff (inCase : s.protocol.mode = .case) (pending : PollPending s)
    (possible : (Event.receive sourceDev header msg answered calls).Possible s)
    (accounts : Accounts s (.receive sourceDev header msg answered calls))
    (handled : s.protocol.handle (.receive sourceDev header msg answered calls) = .ok outcome) :
    PollPending ((s.answer answered).record outcome) ↔
      (Event.receive sourceDev header msg answered calls).PollsOn s := by
  have accepted : outcome.accepted =
      (Event.receive sourceDev header msg answered calls).accepted s := by
    rcases accepted_eq handled with same | ⟨_, _, _, _, isPoll, _⟩
    · exact same
    · exact absurd isPoll (by simp)
  obtain ⟨outstanding, inFlight⟩ := after_same accepted
  constructor
  · intro pendingAfter isEarbud owes idle cancelled
    rw [owes_congr outstanding] at owes
    rw [awaits_congr inFlight] at idle
    have kept := (mem_receive right once inCase possible accounts handled isEarbud idle).mp
      (pendingAfter _ isEarbud owes idle)
    exact kept.2 ⟨rfl, cancelled⟩
  · intro pollsOn dev isEarbud owes idle
    refine (mem_receive right once inCase possible accounts handled isEarbud idle).mpr ⟨?_, ?_⟩
    · have wasIdle : ¬ s.Awaits dev := fun awaits =>
        idle ((awaits_record (s.answer answered) outcome dev).mpr (.inl awaits))
      have owed : (s.answer answered).Owes dev := (owes_record_of_not_awaits idle).mp owes
      refine pending dev isEarbud ?_ wasIdle
      obtain ⟨message, waits, rest⟩ := owed
      refine ⟨message, ?_, rest⟩
      cases answered with
      | none => exact waits
      | some sent => exact List.mem_of_mem_erase waits
    · rintro ⟨rfl, cancelled⟩
      exact pollsOn isEarbud ((owes_congr outstanding _).mpr owes)
        (mt (awaits_congr inFlight _).mp idle) cancelled

theorem pollPending_pollTimer_iff {dest : Dev} {sink : Sink} (pending : PollPending s)
    (handled : s.protocol.handle (.pollTimer dest sink) = .ok outcome) :
    PollPending (s.record outcome) ↔ (Event.pollTimer dest sink).PollsOn s := by
  have tracks : Tracks (s.protocol.cancelPoll dest) s := right
  rcases handlePollTimer_ok handled with ⟨unneeded, rfl⟩ | ⟨packet, taken, rfl⟩ | ⟨refused, rfl⟩
  · have none := (getEarbudToPoll_eq_none_iff tracks).mp unneeded
    constructor
    · intro _ isEarbud _ owes
      exact absurd owes (none dest isEarbud)
    · intro _ dev isEarbud owes idle
      rw [owes_record_of_not_awaits idle] at owes
      exact absurd owes (none dev isEarbud)
  · constructor
    · intro _ _ refused
      rw [taken] at refused
      contradiction
    · intro _ dev isEarbud owes idle
      have elsewhere : dev ≠ dest := by
        rintro rfl
        exact idle ((awaits_record s _ dev).mpr (.inr ⟨_, List.mem_singleton.mpr rfl, rfl⟩))
      rw [owes_record_of_not_awaits idle] at owes
      refine (List.mem_erase_of_ne elsewhere).mpr (pending dev isEarbud owes fun awaits => ?_)
      exact idle ((awaits_record s _ dev).mpr (.inl awaits))
  · have timers : ∀ dev : Dev, dev.IsEarbud →
        (dev ∈ ((s.protocol.cancelPoll dest).schedulePollIfRequired schemeB).pollTimers ↔
          dev ∈ s.protocol.pollTimers.erase dest ∨
            (s.Owes dev ∧ s.FirstPolled s.protocol.lastEarbudPolled dev)) := by
      intro dev isEarbud
      rw [mem_schedulePollIfRequired, getEarbudToPoll_eq_some_iff tracks isEarbud]
      rfl
    have sameOwes : ∀ dev, (s.record ⟨(s.protocol.cancelPoll dest).schedulePollIfRequired schemeB,
        [], []⟩).Owes dev ↔ s.Owes dev := fun dev => owes_congr (List.append_nil _) dev
    have sameAwaits : ∀ dev, (s.record
        ⟨(s.protocol.cancelPoll dest).schedulePollIfRequired schemeB, [], []⟩).Awaits dev ↔
          s.Awaits dev := fun dev => awaits_congr (List.append_nil _) dev
    constructor
    · intro pendingAfter isEarbud _ owes idle
      have isPending := pendingAfter dest isEarbud ((sameOwes dest).mpr owes)
        (mt (sameAwaits dest).mp idle)
      rcases (timers dest isEarbud).mp isPending with kept | first
      · exact absurd kept once.not_mem_erase
      · exact first.2
    · intro pollsOn dev isEarbud owes idle
      rw [sameOwes] at owes
      rw [sameAwaits] at idle
      refine (timers dev isEarbud).mpr ?_
      by_cases concerned : dev = dest
      · subst concerned
        exact .inr ⟨owes, pollsOn isEarbud refused owes idle⟩
      · exact .inl ((List.mem_erase_of_ne concerned).mpr (pending dev isEarbud owes idle))

end

structure KeepsPolling (s : System) (event : Event) : Prop where
  accounts : Accounts s event
  pollsOn : event.PollsOn s

theorem pollPending_step_iff {next : System} (ledger : Ledger s)
    (right : CountsRight s) (once : s.protocol.pollTimers.Nodup)
    (isMode : s.protocol.mode = mode) (inCase : mode = .case) (pending : PollPending s)
    (possible : event.Possible s) (accounts : Accounts s event)
    (stepped : s.step event = .ok next) : PollPending next ↔ event.PollsOn s := by
  subst inCase
  obtain ⟨outcome, handled, rfl⟩ := step_ok stepped
  cases event with
  | transmit attempt =>
    refine ⟨fun _ => trivial, fun _ dev isEarbud owes idle => ?_⟩
    refine pollPending_other pending isEarbud ⟨Iff.rfl, Iff.rfl⟩ ?_ owes idle
    rw [(transmit_ok handled).2.same.pollTimers]
    exact id
  | status sent status calls =>
    exact pollPending_status_iff ledger right once isMode pending possible accounts handled
  | receive sourceDev header msg answered calls =>
    exact pollPending_receive_iff right once isMode pending possible accounts handled
  | pollTimer dest sink => exact pollPending_pollTimer_iff right once pending handled

theorem pollPending_reached
    (reached : Reached .case registered KeepsPolling s) : CountsRight s ∧ PollPending s := by
  induction reached with
  | init =>
    refine ⟨countsRight_init .case registered, ?_⟩
    rintro dev _ ⟨message, waits, _⟩
    exact absurd waits List.not_mem_nil
  | step before event possible keeps stepped induction =>
    obtain ⟨right, pending⟩ := induction
    have ledger := ledger_reached before
    exact ⟨(countsRight_step_iff ledger right possible stepped).mpr keeps.accounts,
      (pollPending_step_iff ledger right (nodup_reached before) (mode_reached before) rfl pending
        possible keeps.accounts stepped).mpr keeps.pollsOn⟩

end Steps

/-- In runs of the case whose events account for messages and keep polling, an earbud that owes a
response is under way to be polled, and stays so only if the next event keeps polling. -/
theorem poll_pending_iff {registered : Nat → Bool × Bool} {s : System}
    (reached : Reached .case registered KeepsPolling s) :
    PollPending s ∧ ∀ event next, event.Possible s → Accounts s event →
      s.step event = .ok next → (PollPending next ↔ event.PollsOn s) := by
  obtain ⟨right, pending⟩ := pollPending_reached reached
  exact ⟨pending, fun _ _ possible accounts stepped =>
    pollPending_step_iff (ledger_reached reached) right (nodup_reached reached)
      (mode_reached reached) rfl pending possible accounts stepped⟩

theorem poll_pending_iff_acknowledged :
    ∃ s, Reached .case (fun _ => (false, false)) KeepsPolling s ∧ PollPending s ∧
      s.outstandingOn .leftEb cidCase = 1 ∧ s.protocol.pollTimers = [.leftEb] := by
  have sent : Reached .case (fun _ => (false, false)) KeepsPolling _ :=
    .step .init (.transmit ⟨⟨.leftEb, cidCase, 1, [7], true⟩, ⟨16, true, true⟩⟩) trivial
      ⟨⟨fun inEarbud => absurd inEarbud (by decide), fun _ => trivial⟩, trivial⟩ rfl
  have acknowledged : Reached .case (fun _ => (false, false)) KeepsPolling _ :=
    .step sent (.status
      ⟨0, ⟨.leftEb, cidCase, 1, [7], true⟩, ⟨.commsData, .leftEb, 1, [7]⟩⟩ .success [])
      List.mem_cons_self
      ⟨⟨fun inEarbud => absurd inEarbud (by decide), fun _ failed => absurd rfl failed⟩,
        fun _ _ _ => .inl (.inr (by decide))⟩ rfl
  exact ⟨_, acknowledged, (poll_pending_iff acknowledged).1, by decide, by decide⟩

/-- Of two messages on different channels the response to the first cancels the poll timer. -/
theorem response_cancels_poll :
    ∃ s, Reached .case (fun _ => (false, false)) Accounts s ∧
      s.outstandingOn .leftEb 1 = 1 ∧ s.inFlight = [] ∧ s.protocol.pollTimers = [] ∧
      ¬ PollPending s := by
  have first : Reached .case (fun _ => (false, false)) Accounts _ :=
    .step .init (.transmit ⟨⟨.leftEb, 0, 1, [7], true⟩, ⟨16, true, true⟩⟩) trivial
      ⟨fun inEarbud => absurd inEarbud (by decide), fun _ => trivial⟩ rfl
  have second : Reached .case (fun _ => (false, false)) Accounts _ :=
    .step first (.transmit ⟨⟨.leftEb, 1, 1, [7], true⟩, ⟨16, true, true⟩⟩) trivial
      ⟨fun inEarbud => absurd inEarbud (by decide), fun _ => trivial⟩ rfl
  have firstSent : Reached .case (fun _ => (false, false)) Accounts _ :=
    .step second (.status
      ⟨0, ⟨.leftEb, 0, 1, [7], true⟩, ⟨.commsData, .leftEb, 1, [7]⟩⟩ .success [])
      List.mem_cons_self
      ⟨fun inEarbud => absurd inEarbud (by decide), fun _ failed => absurd rfl failed⟩ rfl
  have secondSent : Reached .case (fun _ => (false, false)) Accounts _ :=
    .step firstSent (.status
      ⟨1, ⟨.leftEb, 1, 1, [7], true⟩, ⟨.commsData, .leftEb, 0x11, [7]⟩⟩ .success [])
      List.mem_cons_self
      ⟨fun inEarbud => absurd inEarbud (by decide), fun _ failed => absurd rfl failed⟩ rfl
  have answered : Reached .case (fun _ => (false, false)) Accounts _ :=
    .step secondSent (.receive .leftEb 1 [7]
      (some ⟨0, ⟨.leftEb, 0, 1, [7], true⟩, ⟨.commsData, .leftEb, 1, [7]⟩⟩) [])
      (by
        rintro sent same
        injection same with same
        subst same
        exact ⟨List.mem_cons_self, rfl, by decide⟩)
      ⟨fun inEarbud => absurd inEarbud (by decide), fun _ none => absurd none (by simp)⟩ rfl
  refine ⟨_, answered, by decide, by decide, by decide, ?_⟩
  intro pending
  refine absurd (pending .leftEb (.inl rfl) ?_ ?_) (by decide)
  · exact ⟨⟨1, ⟨.leftEb, 1, 1, [7], true⟩, ⟨.commsData, .leftEb, 0x11, [7]⟩⟩,
      List.mem_cons_self, rfl, by decide⟩
  · rintro ⟨sent, isIn, _⟩
    exact absurd isIn List.not_mem_nil

end HeadsetAdk.CaseComms
