import HeadsetAdk.Gaia.PacketStream
import Mathlib.Data.List.Infix

/-! # Whole buffers of packets -/

namespace HeadsetAdk.Gaia

section Whole

variable {Client : Type}

def recording (callback : Callback Client) : Callback (Client × List Received) :=
  fun client received =>
    let answer := callback client.1 received
    (answer.1, answer.2, client.2 ++ [received])

def HandsOver (data : List UInt8) (received : Received) (behind : List UInt8) : Prop :=
  ∀ (Other : Type) (callback : Callback Other) (client : Other) (rounds : Nat),
    receivePacket callback (rounds + 1) data client =
      let next := callback client received
      if next.1 = true then receiveLoop callback rounds behind received.pktSize next.2
      else .ok ⟨0, next.2, none⟩

structure TakenApart (data : List UInt8) (outcome : Outcome (Client × List Received)) :
    Prop where
  whole : Splits data outcome.client.2 (data.drop outcome.consumed)
  consumed : outcome.consumed = packetsSize outcome.client.2
  inside : outcome.consumed ≤ data.length
  payloads : ∀ received ∈ outcome.client.2, received.payload <:+: data
  left : nextPacket (data.drop outcome.consumed) = none
  again : ∀ more received behind, (data.drop outcome.consumed ++ more).length < 2 ^ 16 →
    nextPacket (data.drop outcome.consumed ++ more) = some (received, behind) →
      HandsOver (data.drop outcome.consumed ++ more) received behind

def ReceivesRight (callback : Callback Client) (client : Client) (data : List UInt8) : Prop :=
  ∃ rounds outcome, receivePacket (recording callback) rounds data (client, []) = .ok outcome ∧
    TakenApart data outcome

def WantsMore (callback : Callback Client) : Client → List Received → Prop
  | _, [] => True
  | client, received :: packets =>
      (callback client received).1 = true ∧
        WantsMore callback (callback client received).2 packets

def EndsWell (callback : Callback Client) (client : Client) (data : List UInt8) : Prop :=
  ∃ packets left, Splits data packets left ∧ nextPacket left = none ∧
    WantsMore callback client packets ∧ ¬ Wraps left

end Whole

section Packets

variable {data behind left : List UInt8} {received : Received} {packets : List Received}

theorem exists_splits (data : List UInt8) :
    ∃ packets left, Splits data packets left ∧ nextPacket left = none := by
  induction size : data.length using Nat.strong_induction_on generalizing data with
  | _ length shorter =>
    cases next : nextPacket data with
    | none => exact ⟨[], data, .none data, next⟩
    | some found =>
      have sizes := nextPacket_length (show nextPacket data = some (found.1, found.2) from next)
      obtain ⟨packets, left, splits, none⟩ := shorter found.2.length (by omega) found.2 rfl
      exact ⟨found.1 :: packets, left, .next next splits, none⟩

theorem Splits.drop (splits : Splits data packets left) :
    left = data.drop (packetsSize packets) := by
  induction splits with
  | none data => rfl
  | next first _ ih => rw [ih, (nextPacket_length first).2.2, List.drop_drop, packetsSize]

theorem bytesAt_ok {offset size : Nat} {bytes : List UInt8}
    (reads : bytesAt data offset size = .ok bytes) :
    offset + size ≤ data.length ∧ bytes = (data.drop offset).take size := by
  rw [bytesAt] at reads
  split at reads
  · cases reads
    exact ⟨by assumption, rfl⟩
  · contradiction

theorem readPacket_ok {header : PacketHeader} {packet : Received}
    (reads : readPacket data header = .ok packet) :
    packet.pktSize = header.pktLength ∧ readPayload data header = .ok packet.payload := by
  obtain ⟨vendorId, -, rest⟩ := bind_eq_ok reads
  obtain ⟨commandId, -, rest⟩ := bind_eq_ok rest
  obtain ⟨payload, paid, same⟩ := bind_eq_ok rest
  cases same
  exact ⟨rfl, paid⟩

theorem nextPacket_payload (next : nextPacket data = some (received, behind)) :
    received.payload <:+: data := by
  obtain ⟨header, packet, -, -, reads, rfl, -⟩ := nextPacket_eq_some next
  have paid := (readPacket_ok reads).2
  change packet.payload <:+: data
  rw [readPayload] at paid
  split at paid
  · rw [(bytesAt_ok paid).2]
    exact (List.take_prefix _ _).isInfix.trans (List.drop_suffix _ _).isInfix
  · rw [← Except.ok.inj paid]
    exact List.nil_infix

theorem Splits.each (splits : Splits data packets left) :
    ∀ received ∈ packets, received.payload <:+: data ∧ received.pktSize ≠ 0 := by
  induction splits with
  | none data => exact List.forall_mem_nil _
  | next first _ ih =>
    have sizes := nextPacket_length first
    refine List.forall_mem_cons.mpr ⟨⟨nextPacket_payload first, by omega⟩, ?_⟩
    intro received later
    rw [sizes.2.2] at ih
    exact ⟨(ih received later).1.trans (List.drop_suffix _ _).isInfix, (ih received later).2⟩

end Packets

section Runs

variable {Client : Type} {callback : Callback Client} {client : Client}
  {data left : List UInt8} {packets before : List Received} {rounds consumed : Nat}
  {outcome : Outcome (Client × List Received)}

def answered (callback : Callback Client) (client : Client) (packets : List Received) : Client :=
  packets.foldl (fun client received => (callback client received).2) client

theorem pktSize_small {behind : List UInt8} {received : Received}
    (small : data.length < 2 ^ 16) (next : nextPacket data = some (received, behind)) :
    received.pktSize < 2 ^ 16 ∧ behind.length < 2 ^ 16 := by
  have sizes := nextPacket_length next
  omega

theorem receiveLoop_splits (splits : Splits data packets left) (small : data.length < 2 ^ 16)
    (wants : WantsMore callback client packets) :
    receiveLoop (recording callback) (packets.length + rounds) data consumed (client, before) =
      receiveLoop (recording callback) rounds left (consumed + packetsSize packets)
        (answered callback client packets, before ++ packets) := by
  induction splits generalizing client consumed before with
  | none data =>
    rw [List.append_nil, List.length_nil, Nat.zero_add]
    rfl
  | @next data behind left received packets first _ ih =>
    obtain ⟨fits, smaller⟩ := pktSize_small small first
    rw [List.length_cons, Nat.add_right_comm, receiveLoop_next _ _ _ _ first fits]
    refine (if_pos wants.1).trans ((ih smaller wants.2).trans ?_)
    rw [packetsSize, Nat.add_assoc, List.append_assoc]
    rfl

theorem receiveLoop_ends (splits : Splits data packets left) (small : data.length < 2 ^ 16)
    (ends : receiveLoop (recording callback) rounds data consumed (client, before) = .ok outcome) :
    (WantsMore callback client packets ∧ ∃ rounds,
      receiveLoop (recording callback) rounds left (consumed + packetsSize packets)
        (answered callback client packets, before ++ packets) = .ok outcome) ∨
      ∃ delivered, outcome.client.2 = before ++ delivered ∧
        outcome.consumed < consumed + packetsSize delivered := by
  induction splits generalizing client consumed before rounds with
  | none data => exact .inl ⟨trivial, rounds, by rw [List.append_nil]; exact ends⟩
  | @next data behind left received packets first _ ih =>
    obtain ⟨fits, smaller⟩ := pktSize_small small first
    cases rounds with
    | zero => contradiction
    | succ rounds =>
      rw [receiveLoop_next _ _ _ _ first fits] at ends
      split at ends
      · next more =>
          obtain ⟨wants, rounds, ends⟩ | ⟨delivered, handed, less⟩ := ih smaller ends
          · refine .inl ⟨⟨more, wants⟩, rounds, ?_⟩
            rw [packetsSize, ← Nat.add_assoc, ← ends, List.append_cons]
            rfl
          · refine .inr ⟨received :: delivered, ?_, ?_⟩
            · exact handed.trans (List.append_cons ..).symm
            · rwa [packetsSize, ← Nat.add_assoc]
      · cases ends
        have sizes := nextPacket_length first
        exact .inr ⟨[received], rfl, by simp only [packetsSize]; omega⟩

theorem receiveLoop_wraps (wraps : Wraps data) (small : data.length < 2 ^ 16)
    (ends : receiveLoop (recording callback) rounds data consumed (client, before) =
      .ok outcome) : ∃ received ∈ outcome.client.2, received.pktSize = 0 := by
  obtain ⟨header, here, long, inside, checked⟩ := wraps
  obtain ⟨starts, enough, headed⟩ := announced_eq_some here
  obtain ⟨length, wide⟩ := readHeader_pktLength headed
  rw [← length] at inside checked
  induction rounds generalizing client before with
  | zero => contradiction
  | succ rounds ih =>
    rw [receiveLoop, if_neg fun other => other.2 starts, if_neg (Nat.not_lt.mpr enough),
      headed, ok_bind, if_neg (Nat.not_lt.mpr inside), if_neg checked] at ends
    obtain ⟨packet, reads, ends⟩ := bind_eq_ok ends
    -- a payload within the data leaves out at most the checksum
    have none : header.pktLength = 0 := by
      have offset : offsPayload header.is16Bit =
          8 + if header.flags &&& flag16BitLength ≠ 0 then 1 else 0 := by
        rw [wide, offsPayload]
        simp only [bne_iff_ne]
        split <;> rfl
      have full : header.fullLength =
          8 + header.payloadSize + (if header.flags &&& flagCheck ≠ 0 then 1 else 0) +
            if header.flags &&& flag16BitLength ≠ 0 then 1 else 0 := rfl
      have check : (if header.flags &&& flagCheck ≠ 0 then 1 else 0) ≤ 1 := by
        split <;> decide
      have extended : (if header.flags &&& flag16BitLength ≠ 0 then 1 else 0) ≤ 1 := by
        split <;> decide
      have base : offsPayload false = 8 := rfl
      have payload := (readPacket_ok reads).2
      rw [readPayload] at payload
      split at payload
      · have room := (bytesAt_ok payload).1
        omega
      · omega
    have size := (readPacket_ok reads).1.trans none
    change (if (callback client packet).1 = true then receiveLoop (recording callback) rounds
        (data.drop header.pktLength) (consumed + header.pktLength)
          ((callback client packet).2, before ++ [packet]) else
      .ok ⟨consumed, ((callback client packet).2, before ++ [packet]), _⟩) = _ at ends
    split at ends
    · rw [none, List.drop_zero, Nat.add_zero] at ends
      exact ih ends
    · cases ends
      exact ⟨packet, List.mem_append_right _ (List.mem_singleton_self _), size⟩

/-- A header for 65527 bytes of payload. -/
def longPacket : List UInt8 := [0xFF, 4, 2, 0xFF, 0xF7, 0, 0x1D, 1, 0]

end Runs

end HeadsetAdk.Gaia
