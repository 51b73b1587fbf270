import HeadsetAdk.Gaia.Framing
import HeadsetAdk.Gaia.RfcommDelivery

/-! # Messages that are sent over RFCOMM -/

namespace HeadsetAdk.Gaia

/-- What a transport can be asked to send -/
structure Message where
  protocolVersion : UInt8
  vendorId : UInt16
  commandId : UInt16
  status : UInt8
  payload : List UInt8
  accepts : Accepts protocolVersion status payload

namespace Message

/-- What `Gaia_TransportCommonBuildPacket` makes of it -/
def packet (message : Message) : List UInt8 :=
  packetBytes message.protocolVersion message.vendorId message.commandId message.status
    message.payload

def received (message : Message) : Received :=
  ⟨message.packet.length, message.vendorId, message.commandId,
    totalPayload message.status message.payload⟩

end Message

theorem splits_messages (messages : List Message) :
    Splits (messages.flatMap Message.packet) (messages.map Message.received) [] := by
  induction messages with
  | nil => exact .none []
  | cons message messages ih => exact .next (nextPacket_packet message.accepts _ _ _) ih

/-- There is no other way to take the data apart. -/
theorem Splits.isPrefix {data left rest : List UInt8} {packets others : List Received}
    (splits : Splits data packets left) (whole : Splits data others rest)
    (ended : nextPacket rest = Option.none) : packets <+: others := by
  induction splits generalizing others with
  | none data => exact List.nil_prefix
  | next first _ ih =>
    cases whole with
    | none =>
      rw [ended] at first
      contradiction
    | next second whole =>
      cases first.symm.trans second
      exact List.cons_prefix_cons.mpr ⟨rfl, ih whole⟩

namespace Rfcomm

variable {appVersion3 : Bool} {events : List Event} {tr : Rfcomm}

theorem run_sound (runs : runAllowed step Orderly events (created appVersion3) = some tr) :
    tr.Sound := by
  refine (Reached.run .start runs).invariant ⟨_, _, _, _, .created appVersion3⟩ ?_
  rintro tr event next orderly steps ⟨dropped, pending, left, rest, tracked⟩
  by_cases happens : tr.Happens event
  · obtain ⟨after, _, _, _, _, same, tracked⟩ := tracked.step orderly happens
    rw [steps, Option.some.injEq] at same
    exact ⟨_, _, _, _, same ▸ tracked⟩
  · rw [step, if_neg happens] at steps
    contradiction

/-- In orderly runs, in whatever pieces the packets of messages arrive, the upper layer is handed
the messages in the order they were sent, and once all of them have arrived and been handled, it
has been handed them all. -/
theorem run_deliversMessages {messages : List Message}
    (runs : runAllowed step Orderly events (created appVersion3) = some tr)
    (sent : tr.arrived <+: messages.flatMap Message.packet) :
    tr.delivered <+: messages.map Message.received ∧
      (tr.arrived = messages.flatMap Message.packet → tr.waiting = [] → tr.indicated = false →
        tr.delivered = messages.map Message.received) := by
  obtain ⟨dropped, pending, left, rest, inOrder, -⟩ := run_sound runs
  have splits := inOrder.stream.trans inOrder.inSource
  rw [← inOrder.delivered] at splits
  obtain ⟨more, whole⟩ := sent
  have delivered := (splits.more more).isPrefix (whole ▸ splits_messages messages) rfl
  refine ⟨delivered, fun all handled none => ?_⟩
  have others := (all ▸ splits_messages messages : Splits tr.arrived _ []).isPrefix splits
    (inOrder.complete handled none)
  exact delivered.eq_of_length (Nat.le_antisymm delivered.length_le others.length_le)

/-- A command of version 3 without a payload -/
def command (commandId : UInt16) : Message :=
  ⟨3, 0x1D, commandId, statusNone, [], ⟨by decide, by decide⟩⟩

theorem splitCommands_messages : ∃ tr,
    runAllowed step Orderly splitCommands (created true) = some tr ∧
      tr.delivered <+: [0x300, 0x301, 0x300, 0x301, 0x300, 0x301].map (command · |>.received) := by
  have found : (runAllowed step Orderly splitCommands (created true)).any (fun tr => decide
      (tr.arrived <+: ([0x300, 0x301, 0x300, 0x301, 0x300, 0x301].map command).flatMap
        Message.packet)) = true := by
    decide +kernel
  obtain ⟨tr, runs, sent⟩ := (Option.any_eq_true _ _).mp found
  exact ⟨tr, runs, (run_deliversMessages runs (of_decide_eq_true sent)).1⟩

end Rfcomm

end HeadsetAdk.Gaia
