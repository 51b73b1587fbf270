import HeadsetAdk.CaseComms.SchemeA

/-! # Reports of Scheme A -/

namespace HeadsetAdk.CaseComms

namespace SchemeA

def Permits (td : Protocol SchemeData) : Prop :=
  ∀ (cid mid : Nat) (data : List UInt8), data.length ≤ maxMsgPayload →
    ∃ sent, transmit td.schemeData .case cid mid data = .ok (some sent)

def Refuses (td : Protocol SchemeData) : Prop :=
  ∀ (dest : Dev) (cid mid : Nat) (data : List UInt8) (sent : SchemeData × List UInt8),
    transmit td.schemeData dest cid mid data ≠ .ok (some sent)

/-- A call of a client's status callback. -/
def statusOf : Effect → Option (Nat × Nat)
  | .txSts cid _ mid => some (cid, mid)
  | .rxInd _ _ _ _ => none
  | .transReset => none

/-- The channels and messages that were reported to clients. -/
def Link.reports (link : Link) : List (Nat × Nat) := link.effects.filterMap statusOf

def dueReports (registered : Nat → Bool × Bool) (accepted : List (Accepted (List UInt8))) :
    List (Nat × Nat) :=
  (accepted.filter fun transmitted => (registered transmitted.call.cid).1).map
    fun transmitted => (transmitted.call.cid, transmitted.call.mid)

structure Matched (registered : Nat → Bool × Bool) (link : Link) : Prop where
  channels : ∀ cid, (link.protocol.channelCfg cid).txSts = (registered cid).1
  fits : ∀ transmitted ∈ link.accepted, transmitted.call.cid < cidMax ∧ transmitted.call.mid < 16
  reported : ∃ done, link.accepted = done ++ link.awaiting ∧
    link.reports = dueReports registered done
  inTransit : link.awaiting = [] ∨ ∃ transmitted, link.awaiting = [transmitted] ∧
    link.protocol.schemeData = ⟨transmitted.call.cid, transmitted.call.mid⟩

section Transmits

variable {after td : Protocol SchemeData} {accepted : List (Accepted (List UInt8))}
  {schemeData : SchemeData} {cid : Nat}

theorem transmit_refused (busy : schemeData.cidInTransit ≠ cidInvalid) (dest : Dev) (cid mid : Nat)
    (data : List UInt8) (sent : SchemeData × List UInt8) :
    transmit schemeData dest cid mid data ≠ .ok (some sent) := by
  unfold transmit
  rw [if_pos busy]
  split
  · simp
  · split <;> simp

theorem transmit_ok {after : SchemeData} {dest : Dev} {mid : Nat} {data packet : List UInt8}
    (sent : transmit schemeData dest cid mid data = .ok (some (after, packet))) :
    schemeData.cidInTransit = cidInvalid ∧ after = ⟨cid % 16, mid % 16⟩ := by
  unfold transmit at sent
  split at sent
  · simp at sent
  · split at sent
    · simp at sent
    · split at sent
      · simp at sent
      · rename_i free
        injection sent with sent
        injection sent with sent
        obtain ⟨rfl, _⟩ := Prod.mk.inj sent
        exact ⟨not_not.mp free, rfl⟩

theorem permits_of_free (free : td.schemeData.cidInTransit = cidInvalid) : Permits td := by
  intro cid mid data short
  unfold transmit
  rw [if_neg (by simp), if_neg (Nat.not_lt.mpr short), if_neg (not_not.mpr free)]
  exact ⟨_, rfl⟩

inductive Transmitted (td : Protocol SchemeData) :
    List (Accepted (List UInt8)) → Protocol SchemeData → Prop
  | refused : Transmitted td [] td
  | sent {transmitted : Accepted (List UInt8)}
      (free : td.schemeData.cidInTransit = cidInvalid)
      (fits : transmitted.call.cid < cidMax ∧ transmitted.call.mid < 16) :
      Transmitted td [transmitted]
        { td with schemeData := ⟨transmitted.call.cid, transmitted.call.mid⟩ }

theorem recordTransmission_eq (td : Protocol SchemeData) (call : Call) :
    td.recordTransmission schemeA call = .ok td := by
  unfold Protocol.recordTransmission Protocol.incrementPollRequired
  split <;> rfl

theorem transmitInternal_ok {attempt : Attempt Unit} {accepted : Option (Accepted (List UInt8))}
    (fits : attempt.call.cid < cidMax ∧ attempt.call.mid < 16)
    (handled : td.transmitInternal schemeA attempt = .ok (after, accepted)) :
    Transmitted td accepted.toList after := by
  obtain ⟨result, sent, handled⟩ := bind_eq_ok handled
  cases result with
  | none =>
    injection handled with handled
    cases handled
    exact .refused
  | some result =>
    obtain ⟨schemeData, packet⟩ := result
    dsimp only at handled
    rw [recordTransmission_eq, ok_bind] at handled
    injection handled with handled
    cases handled
    obtain ⟨free, rfl⟩ := transmit_ok sent
    have bound : attempt.call.cid < 5 := fits.1
    rw [Nat.mod_eq_of_lt (show attempt.call.cid < 16 by omega), Nat.mod_eq_of_lt fits.2]
    exact Transmitted.sent free fits

theorem cid_ne_invalid (known : cid < cidMax) : cid ≠ cidInvalid := by
  have bound : cid < 5 := known
  have invalid : cidInvalid = 15 := rfl
  omega

theorem Transmitted.trans {middle : Protocol SchemeData}
    {first second : List (Accepted (List UInt8))} (before : Transmitted td first middle)
    (next : Transmitted middle second after) : Transmitted td (first ++ second) after := by
  cases before with
  | refused => exact next
  | sent free fits =>
    cases next with
    | refused => exact .sent free fits
    | sent busy _ => exact absurd busy (cid_ne_invalid fits.1)

theorem transmitAll_ok {attempts : List (Attempt Unit)}
    (fits : ∀ attempt ∈ attempts, attempt.call.cid < cidMax ∧ attempt.call.mid < 16)
    (handled : td.transmitAll schemeA attempts = .ok (after, accepted)) :
    Transmitted td accepted after := by
  induction attempts generalizing td accepted with
  | nil =>
    injection handled with handled
    cases handled
    exact .refused
  | cons attempt attempts induction =>
    obtain ⟨⟨middle, first⟩, sent, handled⟩ := bind_eq_ok handled
    obtain ⟨⟨last, others⟩, rest, handled⟩ := bind_eq_ok handled
    injection handled with handled
    cases handled
    exact (transmitInternal_ok (fits attempt List.mem_cons_self) sent).trans
      (induction (fun other isIn => fits other (List.mem_cons_of_mem _ isIn)) rest)

section

variable (transmitted : Transmitted td accepted after)

include transmitted

theorem Transmitted.channelCfg : after.channelCfg = td.channelCfg := by
  cases transmitted <;> rfl

theorem Transmitted.of_busy (busy : td.schemeData.cidInTransit ≠ cidInvalid) :
    accepted = [] ∧ after = td := by
  cases transmitted with
  | refused => exact ⟨rfl, rfl⟩
  | sent free _ => exact absurd free busy

theorem Transmitted.fits {message : Accepted (List UInt8)} (isIn : message ∈ accepted) :
    message.call.cid < cidMax ∧ message.call.mid < 16 := by
  cases transmitted with
  | refused => exact absurd isIn List.not_mem_nil
  | sent _ fits =>
    rw [List.mem_singleton] at isIn
    rw [isIn]
    exact fits

end

end Transmits

section Handlers

variable {calls : List (Attempt Unit)} {header : UInt8} {payload : List UInt8}
  {registered : Nat → Bool × Bool} {link next : Link} {td : Protocol SchemeData}
  {outcome : Outcome SchemeData (List UInt8)}

theorem callClient_ok {isRegistered : Bool} {effect : Effect}
    (fits : ∀ attempt ∈ calls, attempt.call.cid < cidMax ∧ attempt.call.mid < 16)
    (called : td.callClient schemeA isRegistered effect calls = .ok outcome) :
    Transmitted td outcome.accepted outcome.protocol ∧
      outcome.effects = if isRegistered = true then [effect] else [] := by
  unfold Protocol.callClient at called
  split at called
  · rename_i registered
    obtain ⟨⟨after, accepted⟩, transmitted, called⟩ := bind_eq_ok called
    injection called with called
    subst called
    rw [if_pos registered]
    exact ⟨transmitAll_ok fits transmitted, rfl⟩
  · rename_i unregistered
    injection called with called
    subst called
    rw [if_neg unregistered]
    exact ⟨.refused, rfl⟩

theorem checkReset_eq (td : Protocol SchemeData) (status : TxStatus) :
    td.checkReset schemeA status = (td, []) := by
  unfold Protocol.checkReset Protocol.checkAckNakReset
  split <;> rfl

theorem sendStatusToClient_eq (td : Protocol SchemeData) (status : TxStatus) (cid mid : Nat)
    (calls : List (Attempt Unit)) :
    td.sendStatusToClient schemeA status cid mid calls =
      td.callClient schemeA (decide (cid < cidMax) && (td.channelCfg cid).txSts)
        (.txSts cid status mid) calls := by
  unfold Protocol.sendStatusToClient
  rw [checkReset_eq]
  dsimp only
  cases td.callClient schemeA (decide (cid < cidMax) && (td.channelCfg cid).txSts)
    (.txSts cid status mid) calls <;> rfl

theorem recordReceipt_eq (td : Protocol SchemeData) (sourceDev : Dev) (cid : Nat) :
    td.recordReceipt schemeA sourceDev cid = .ok td := by
  unfold Protocol.recordReceipt Protocol.decrementPollRequired
  split <;> rfl

theorem receive_ok (fits : ∀ attempt ∈ calls, attempt.call.cid < cidMax ∧ attempt.call.mid < 16)
    (handled : receive td header payload calls = .ok outcome) :
    ∃ called, Transmitted td outcome.accepted called ∧
      outcome.protocol = { called with schemeData := resetCidMid } ∧
      outcome.effects.filterMap statusOf = [] := by
  obtain ⟨told, toClient, handled⟩ := bind_eq_ok handled
  injection handled with handled
  subst handled
  obtain ⟨called, sent, toClient⟩ := bind_eq_ok toClient
  rw [recordReceipt_eq, ok_bind] at toClient
  injection toClient with toClient
  subst toClient
  obtain ⟨transmitted, effects⟩ := callClient_ok fits sent
  refine ⟨called.protocol, transmitted, rfl, ?_⟩
  dsimp only
  rw [effects]
  split <;> rfl

theorem dueReports_append (registered : Nat → Bool × Bool)
    (first second : List (Accepted (List UInt8))) :
    dueReports registered (first ++ second) =
      dueReports registered first ++ dueReports registered second := by
  unfold dueReports
  rw [List.filter_append, List.map_append]

theorem matched_init (mode : Mode) (registered : Nat → Bool × Bool) :
    Matched registered (.init mode registered) where
  channels := fun _ => rfl
  fits := fun _ isIn => absurd isIn List.not_mem_nil
  reported := ⟨[], rfl, rfl⟩
  inTransit := .inl rfl

theorem matched_transmit {attempt : Attempt Unit} (matched : Matched registered link)
    (possible : (Event.transmit attempt).Possible link)
    (stepped : link.step (.transmit attempt) = .ok next) : Matched registered next := by
  obtain ⟨outcome, handled, stepped⟩ := bind_eq_ok stepped
  injection stepped with stepped
  subst stepped
  obtain ⟨⟨after, accepted⟩, sent, handled⟩ := bind_eq_ok handled
  injection handled with handled
  subst handled
  have transmitted := transmitInternal_ok (possible.fits attempt List.mem_cons_self) sent
  obtain ⟨done, isDone, reports⟩ := matched.reported
  refine ⟨?_, ?_, ⟨done, ?_, ?_⟩, ?_⟩
  · intro cid
    change (after.channelCfg cid).txSts = _
    rw [transmitted.channelCfg]
    exact matched.channels cid
  · intro message isIn
    rcases List.mem_append.mp isIn with old | new
    · exact matched.fits message old
    · exact transmitted.fits new
  · change link.accepted ++ accepted.toList = done ++ (link.awaiting ++ accepted.toList)
    rw [isDone, List.append_assoc]
  · change (link.effects ++ []).filterMap statusOf = _
    rw [List.append_nil]
    exact reports
  · change link.awaiting ++ accepted.toList = [] ∨ ∃ message,
      link.awaiting ++ accepted.toList = [message] ∧
        after.schemeData = ⟨message.call.cid, message.call.mid⟩
    rcases matched.inTransit with none | ⟨message, one, inTransit⟩
    · rw [none, List.nil_append]
      generalize isSent : accepted.toList = sent at transmitted
      cases transmitted with
      | refused => exact .inl rfl
      | sent _ _ => exact .inr ⟨_, rfl, rfl⟩
    · have known := (matched.fits message (by rw [isDone, one]; simp)).1
      have busy : link.protocol.schemeData.cidInTransit ≠ cidInvalid := by
        rw [inTransit]
        exact cid_ne_invalid known
      obtain ⟨nothing, same⟩ := transmitted.of_busy busy
      rw [nothing, List.append_nil, same]
      exact .inr ⟨message, one, inTransit⟩

section

variable {reported : Accepted (List UInt8)} {status : MsgStatus} (matched : Matched registered link)
  (possible : (Event.status reported status calls).Possible link)
  (stepped : link.step (.status reported status calls) = .ok next)

include matched possible stepped

theorem status_ok :
    link.awaiting = [reported] ∧ reported.call.cid < cidMax ∧
      next = ⟨link.protocol, link.accepted, [], link.effects ++
        if (registered reported.call.cid).1 = true then
          [.txSts reported.call.cid (commsGetStatus status) reported.call.mid] else []⟩ ∧
      link.protocol.schemeData = ⟨reported.call.cid, reported.call.mid⟩ := by
  have awaits := possible.awaits reported status calls rfl
  obtain ⟨done, isDone, _⟩ := matched.reported
  rcases matched.inTransit with none | ⟨message, one, inTransit⟩
  · rw [none] at awaits
    exact absurd awaits List.not_mem_nil
  · have same : reported = message := by
      rw [one] at awaits
      exact List.mem_singleton.mp awaits
    subst same
    have known := (matched.fits reported (by rw [isDone, one]; simp)).1
    refine ⟨one, known, ?_, inTransit⟩
    have busy : link.protocol.schemeData.cidInTransit ≠ cidInvalid := by
      rw [inTransit]
      exact cid_ne_invalid known
    obtain ⟨outcome, handled, stepped⟩ := bind_eq_ok stepped
    injection stepped with stepped
    subst stepped
    change handleMessageChargercommsStatus link.protocol status calls = .ok outcome at handled
    unfold handleMessageChargercommsStatus at handled
    rw [sendStatusToClient_eq, inTransit] at handled
    obtain ⟨transmitted, effects⟩ := callClient_ok possible.fits handled
    obtain ⟨nothing, unchanged⟩ := transmitted.of_busy busy
    have erased : link.settle (.status reported status calls) = [] := by
      change link.awaiting.erase reported = []
      rw [one, List.erase_cons_head]
    rw [nothing, unchanged, erased, effects, List.append_nil, List.append_nil]
    refine congrArg (fun told => Link.mk link.protocol link.accepted [] (link.effects ++ told)) ?_
    refine if_congr ?_ rfl rfl
    rw [Bool.and_eq_true, decide_eq_true_eq, matched.channels]
    exact and_iff_right known

theorem matched_status : Matched registered next := by
  obtain ⟨one, known, rfl, _⟩ := status_ok matched possible stepped
  obtain ⟨done, isDone, reports⟩ := matched.reported
  refine ⟨matched.channels, matched.fits, ⟨done ++ [reported], ?_, ?_⟩, .inl rfl⟩
  · change link.accepted = done ++ [reported] ++ []
    rw [isDone, one, List.append_nil]
  · change List.filterMap statusOf (link.effects ++ _) = _
    rw [List.filterMap_append, dueReports_append]
    refine congrArg₂ (· ++ ·) reports ?_
    unfold dueReports
    by_cases client : (registered reported.call.cid).1 = true
    · rw [if_pos client, List.filter_singleton, client]
      rfl
    · rw [if_neg client, List.filter_singleton, Bool.eq_false_iff.mpr client]
      rfl

end

theorem receive_free (possible : (Event.receive header payload calls).Possible link)
    (stepped : link.step (.receive header payload calls) = .ok next) :
    next.protocol.schemeData.cidInTransit = cidInvalid := by
  obtain ⟨outcome, handled, stepped⟩ := bind_eq_ok stepped
  injection stepped with stepped
  subst stepped
  obtain ⟨called, _, after, _⟩ := receive_ok possible.fits handled
  dsimp only
  rw [after]
  rfl

theorem matched_receive (matched : Matched registered link)
    (possible : (Event.receive header payload calls).Possible link)
    (stepped : link.step (.receive header payload calls) = .ok next)
    (quiet : next.awaiting = []) : Matched registered next := by
  obtain ⟨outcome, handled, stepped⟩ := bind_eq_ok stepped
  injection stepped with stepped
  subst stepped
  obtain ⟨called, transmitted, after, effects⟩ := receive_ok possible.fits handled
  obtain ⟨idle, nothing⟩ := List.append_eq_nil_iff.mp quiet
  have none : link.awaiting = [] := idle
  obtain ⟨done, isDone, reports⟩ := matched.reported
  rw [nothing] at transmitted
  refine ⟨?_, ?_, ⟨done, ?_, ?_⟩, .inl quiet⟩
  · intro cid
    change (outcome.protocol.channelCfg cid).txSts = _
    rw [after]
    change (called.channelCfg cid).txSts = _
    rw [transmitted.channelCfg]
    exact matched.channels cid
  · intro message isIn
    refine matched.fits message ?_
    rcases List.mem_append.mp isIn with old | new
    · exact old
    · rw [nothing] at new
      exact absurd new List.not_mem_nil
  · dsimp only
    rw [idle, nothing, List.append_nil, List.append_nil, List.append_nil, isDone, none,
      List.append_nil]
  · change (link.effects ++ outcome.effects).filterMap statusOf = _
    rw [List.filterMap_append, effects, List.append_nil]
    exact reports

theorem matched_reached {mode : Mode}
    (reached : Reached mode registered true link) : Matched registered link := by
  induction reached with
  | init => exact matched_init mode registered
  | step _ event possible stepped inOrder matched =>
    cases event with
    | transmit attempt => exact matched_transmit matched possible stepped
    | status reported status calls => exact matched_status matched possible stepped
    | receive header payload calls =>
      exact matched_receive matched possible stepped
        (inOrder rfl header payload calls rfl)

end Handlers

theorem reached_report :
    ∃ link, Reached .earbud (fun _ => (true, true)) true link ∧
      link.awaiting = [] ∧ link.reports = [(0, 1)] ∧ Refuses link.protocol := by
  have sent : Reached .earbud (fun _ => (true, true)) true _ :=
    .step .init (.transmit ⟨⟨.case, 0, 1, [7], true⟩, ()⟩)
      ⟨fun _ _ _ same => by contradiction, by decide⟩ rfl (fun _ _ _ _ same => by contradiction)
  have reported : Reached .earbud (fun _ => (true, true)) true _ :=
    .step sent (.status ⟨⟨.case, 0, 1, [7], true⟩, [0, 1, 7]⟩ .success [])
      ⟨fun _ _ _ same => by injection same with same; subst same; exact List.mem_cons_self,
        by decide⟩ rfl (fun _ _ _ _ same => by contradiction)
  exact ⟨_, reported, by decide, by decide, transmit_refused (by decide)⟩

end SchemeA

end HeadsetAdk.CaseComms
