import HeadsetAdk.Rwcp.Server

/-! # What the message handler reports of a delivery -/

namespace HeadsetAdk.Rwcp

def Passes (calls : List GaiaCall) : Prop := ∃ payload, GaiaCall.processCommand payload ∈ calls

def ReportsDelivery (server : ServerData) (data : Option (List UInt8)) : Prop :=
  ∀ status next calls, server.handleMessage data = some (status, next, calls) →
    (status = true ↔ Passes calls)

def Expected (server : ServerData) : Option (List UInt8) → Prop
  | some (header :: _) =>
      isControlCmd (header &&& commandMask) = true ∨
        (header &&& commandMask = clientCmdData ∧ server.protocolState ≠ .listen ∧
          server.acceptSegments = true)
  | _ => True

section Reports

variable {server : ServerData} {packet : DataPkt} {header sequence command : UInt8}
  {payload : List UInt8}

theorem not_passes_nil : ¬ Passes [] := by
  rintro ⟨payload, member⟩
  exact List.not_mem_nil member

theorem not_passes_notification (sequence command : UInt8) :
    ¬ Passes [sendNotification sequence command] := by
  rintro ⟨payload, member⟩
  exact GaiaCall.noConfusion (List.mem_singleton.mp member)

theorem status_eq_true (command : UInt8) (packet : DataPkt) :
    (!(isControlCmd command || packet == .outOfSequence || packet == .duplicate)) = true ↔
      isControlCmd command = false ∧ (packet = .inSequence ∨ packet = .discarded) := by
  cases isControlCmd command <;> cases packet <;> decide

theorem outOfSequence_kept :
    ¬ (DataPkt.outOfSequence = .inSequence ∨ DataPkt.outOfSequence = .discarded) := by
  decide

theorem duplicate_kept : ¬ (DataPkt.duplicate = .inSequence ∨ DataPkt.duplicate = .discarded) := by
  decide

theorem handleDataSegment_passes (accepts : server.acceptSegments = true) (sequence : UInt8)
    (payload : List UInt8) :
    ((server.handleDataSegment sequence payload).1 = .inSequence ∨
        (server.handleDataSegment sequence payload).1 = .discarded) ↔
      Passes (server.handleDataSegment sequence payload).2.2 := by
  rw [ServerData.handleDataSegment, if_pos accepts]
  split
  case isTrue next => exact iff_of_true (.inl rfl) ⟨payload, by simp⟩
  case isFalse notNext =>
    split
    case isTrue out =>
      split
      case isTrue known => exact iff_of_false outOfSequence_kept not_passes_nil
      case isFalse new =>
        exact iff_of_false outOfSequence_kept (not_passes_notification _ serverCmdGap)
    case isFalse duplicate =>
      exact iff_of_false duplicate_kept (not_passes_notification _ serverCmdDataAck)

theorem handleDataSegment_refused (refuses : server.acceptSegments = false) (sequence : UInt8)
    (payload : List UInt8) :
    server.handleDataSegment sequence payload = (.discarded, server, []) := by
  rw [ServerData.handleDataSegment, if_neg (Bool.eq_false_iff.mp refuses)]

theorem reports_iff {result : DataPkt × ServerData × List GaiaCall} {accepted : Prop}
    (control : isControlCmd command = true → ¬ Passes result.2.2)
    (other : isControlCmd command = false →
      (accepted ∧ ((result.1 = .inSequence ∨ result.1 = .discarded) ↔ Passes result.2.2)) ∨
      (¬ accepted ∧ (result.1 = .inSequence ∨ result.1 = .discarded) ∧ ¬ Passes result.2.2)) :
    ((!(isControlCmd command || result.1 == .outOfSequence || result.1 == .duplicate)) = true ↔
      Passes result.2.2) ↔ (isControlCmd command = true ∨ accepted) := by
  rw [status_eq_true]
  cases kind : isControlCmd command with
  | true =>
    refine iff_of_true (iff_of_false ?_ (control kind)) (.inl rfl)
    exact fun both => Bool.noConfusion both.1
  | false =>
    rw [and_iff_right rfl]
    rcases other kind with ⟨accepted, iff⟩ | ⟨refused, kept, nothing⟩
    · exact iff_of_true iff (.inr accepted)
    · refine iff_of_false (fun iff => nothing (iff.mp kept)) ?_
      exact fun either => either.elim (fun wrong => Bool.noConfusion wrong) refused

theorem dataSegment_reports (server : ServerData) (sequence : UInt8) (payload : List UInt8) :
    (server.acceptSegments = true ∧ (((server.handleDataSegment sequence payload).1 = .inSequence ∨
          (server.handleDataSegment sequence payload).1 = .discarded) ↔
        Passes (server.handleDataSegment sequence payload).2.2)) ∨
    (¬ server.acceptSegments = true ∧ ((server.handleDataSegment sequence payload).1 = .inSequence ∨
        (server.handleDataSegment sequence payload).1 = .discarded) ∧
      ¬ Passes (server.handleDataSegment sequence payload).2.2) := by
  cases accepts : server.acceptSegments with
  | true => exact .inl ⟨rfl, handleDataSegment_passes accepts sequence payload⟩
  | false =>
    rw [handleDataSegment_refused accepts]
    exact .inr ⟨Bool.false_ne_true, .inr rfl, not_passes_nil⟩

theorem handleSegment_reports_iff (server : ServerData) (header : UInt8) (payload : List UInt8) :
    ((server.handleSegment header payload).1 = true ↔
        Passes (server.handleSegment header payload).2.2) ↔
      Expected server (some (header :: payload)) := by
  have control_cases (kind : isControlCmd (header &&& commandMask) = true) :
      header &&& commandMask = clientCmdSyn ∨ header &&& commandMask = clientCmdRst := by
    rw [isControlCmd, Bool.or_eq_true, beq_iff_eq, beq_iff_eq] at kind
    exact kind
  have other_ne (kind : isControlCmd (header &&& commandMask) = false) :
      header &&& commandMask ≠ clientCmdSyn ∧ header &&& commandMask ≠ clientCmdRst := by
    rw [isControlCmd, Bool.or_eq_false_iff, beq_eq_false_iff_ne, beq_eq_false_iff_ne] at kind
    exact kind
  have apart : clientCmdRst ≠ clientCmdSyn := by decide
  have synData : clientCmdSyn ≠ clientCmdData := by decide
  have synRcvd : ProtocolState.synRcvd ≠ .listen := by decide
  have established : ProtocolState.established ≠ .listen := by decide
  rw [ServerData.handleSegment]
  cases state : server.protocolState with
  | listen =>
    refine reports_iff (fun kind => ?_) fun kind => .inr ⟨?_, ?_⟩
    · rcases control_cases kind with syn | rst
      · rw [ServerData.handleListen, if_pos syn]
        exact not_passes_notification _ serverCmdSynAck
      · rw [ServerData.handleListen, rst, if_neg apart, if_pos rfl]
        exact not_passes_notification _ serverCmdRst
    · exact fun both => both.2.1 state
    · rw [ServerData.handleListen, if_neg (other_ne kind).1, if_neg (other_ne kind).2]
      exact ⟨.inl rfl, not_passes_notification _ serverCmdRst⟩
  | synRcvd =>
    refine reports_iff (fun kind => ?_) fun kind => ?_
    · rcases control_cases kind with syn | rst
      · rw [ServerData.handleSynRcvd, if_pos syn]
        exact not_passes_notification _ serverCmdSynAck
      · rw [ServerData.handleSynRcvd, rst, if_neg apart, if_pos rfl]
        exact not_passes_notification _ serverCmdRst
    · rw [ServerData.handleSynRcvd, if_neg (other_ne kind).1, if_neg (other_ne kind).2, state]
      by_cases data : header &&& commandMask = clientCmdData
      · rw [if_pos data, and_iff_right data, and_iff_right synRcvd]
        exact dataSegment_reports
          { server with protocolState := .synRcvd, outOfSequenceStatus := false } _ payload
      · rw [if_neg data]
        exact .inr ⟨fun both => data both.1, .inl rfl, not_passes_notification _ serverCmdRst⟩
  | established =>
    refine reports_iff (fun kind => ?_) fun kind => ?_
    · rcases control_cases kind with syn | rst
      · rw [ServerData.handleEstablished, syn, if_neg apart.symm, if_neg synData]
        exact not_passes_notification _ serverCmdRst
      · rw [ServerData.handleEstablished, if_pos rst]
        exact not_passes_notification _ serverCmdRst
    · rw [ServerData.handleEstablished, if_neg (other_ne kind).2, state]
      by_cases data : header &&& commandMask = clientCmdData
      · rw [if_pos data, and_iff_right data, and_iff_right established]
        exact dataSegment_reports server _ payload
      · rw [if_neg data]
        exact .inr ⟨fun both => data both.1, .inl rfl, not_passes_notification _ serverCmdRst⟩

/-- The handler tells the truth about the delivery just of control commands, and of data
segments that it accepts in a state that takes them. -/
theorem handleMessage_reports_iff (server : ServerData) (data : Option (List UInt8)) :
    ReportsDelivery server data ↔ Expected server data := by
  cases data with
  | none =>
    refine iff_of_true (fun status next calls handled => ?_) trivial
    have same : (false, server, []) = (status, next, calls) := Option.some.inj handled
    obtain ⟨rfl, rest⟩ := Prod.mk.inj same
    rw [← (Prod.mk.inj rest).2]
    exact iff_of_false Bool.false_ne_true not_passes_nil
  | some bytes =>
    cases bytes with
    | nil =>
      refine iff_of_true (fun status next calls handled => ?_) trivial
      exact absurd handled.symm (Option.some_ne_none _)
    | cons header payload =>
      rw [← handleSegment_reports_iff]
      constructor
      · exact fun reports => reports _ _ _ rfl
      · intro reports status next calls handled
        have same : server.handleSegment header payload = (status, next, calls) :=
          Option.some.inj handled
        rw [same] at reports
        exact reports

end Reports

/-- One is discarded by flow control, one comes before the connection, and one has the reserved
command. -/
theorem undelivered_reported :
    ¬ ReportsDelivery ⟨.established, false, 4, false⟩ (some [5, 1, 2]) ∧
      ¬ ReportsDelivery ⟨.listen, false, 0, true⟩ (some [5, 1, 2]) ∧
      ¬ ReportsDelivery ⟨.established, false, 4, true⟩ (some [0xc5, 1, 2]) := by
  refine ⟨fun reports => ?_, fun reports => ?_, fun reports => ?_⟩
  · exact not_passes_nil ((reports true _ _ rfl).mp rfl)
  · exact not_passes_notification 5 serverCmdRst ((reports true _ _ rfl).mp rfl)
  · exact not_passes_notification 0xc5 serverCmdRst ((reports true _ _ rfl).mp rfl)

end HeadsetAdk.Rwcp
