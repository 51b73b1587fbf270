import HeadsetAdk.Gaia.TransportCommon
import HeadsetAdk.Lib.Outcomes

/-! # The packets of a stream -/

namespace HeadsetAdk.Gaia

def PacketHeader.fullLength (header : PacketHeader) : Nat :=
  offsPayload false + header.payloadSize + (if header.flags &&& flagCheck ≠ 0 then 1 else 0) +
    if header.flags &&& flag16BitLength ≠ 0 then 1 else 0

def announced (data : List UInt8) : Option PacketHeader :=
  if data.head? = some sof ∧ offsPayload false ≤ data.length then (readHeader data).toOption
  else none

def Complete (data : List UInt8) (header : PacketHeader) : Prop :=
  header.fullLength ≤ data.length ∧
    ¬ (header.flags &&& flagCheck ≠ 0 ∧ checksum (data.take header.fullLength) ≠ 0)

instance (data : List UInt8) (header : PacketHeader) : Decidable (Complete data header) :=
  inferInstanceAs (Decidable (_ ∧ ¬ _))

def nextPacket (data : List UInt8) : Option (Received × List UInt8) :=
  (announced data).bind fun header =>
    if Complete data header then
      (readPacket data header).toOption.map fun received =>
        ({ received with pktSize := header.fullLength }, data.drop header.fullLength)
    else none

inductive Splits : List UInt8 → List Received → List UInt8 → Prop
  | none (data : List UInt8) : Splits data [] data
  | next {data behind left : List UInt8} {received : Received} {packets : List Received}
      (first : nextPacket data = some (received, behind))
      (others : Splits behind packets left) : Splits data (received :: packets) left

/-- The packet at the start of the data is not too long for a `uint16` length. -/
def Fits (data : List UInt8) : Prop := ∀ header ∈ announced data, header.fullLength < 2 ^ 16

instance (data : List UInt8) : Decidable (Fits data) :=
  inferInstanceAs (Decidable (∀ header ∈ announced data, header.fullLength < 2 ^ 16))

/-- The length of a packet starts again at zero, and is accepted. -/
def Wraps (data : List UInt8) : Prop :=
  ∃ header ∈ announced data, 2 ^ 16 ≤ header.fullLength ∧
    header.fullLength % 2 ^ 16 ≤ data.length ∧
    ¬ (header.flags &&& flagCheck ≠ 0 ∧
      checksum (data.take (header.fullLength % 2 ^ 16)) ≠ 0)

def packetsSize : List Received → Nat
  | [] => 0
  | received :: packets => received.pktSize + packetsSize packets

def allFit : Nat → List UInt8 → Bool
  | 0, _ => true
  | packets + 1, data =>
      decide (Fits data) &&
        match nextPacket data with
        | some (_, behind) => allFit packets behind
        | none => true

section Reading

variable {data : List UInt8} (more : List UInt8) {offset : Nat} {header : PacketHeader}

theorem byteAt_more {byte : UInt8} (reads : byteAt data offset = .ok byte) :
    byteAt (data ++ more) offset = .ok byte := by
  rw [byteAt] at reads ⊢
  cases found : data[offset]? with
  | none => rw [found] at reads; contradiction
  | some here =>
    rw [List.getElem?_append_left (List.getElem?_eq_some_iff.mp found).1, found]
    rw [found] at reads
    exact reads

theorem w16_more {value : Nat} (reads : w16 data offset = .ok value) :
    w16 (data ++ more) offset = .ok value := by
  rw [w16] at reads ⊢
  cases high : data[offset]? with
  | none => rw [high] at reads; contradiction
  | some first =>
    cases low : data[offset + 1]? with
    | none => rw [high, low] at reads; contradiction
    | some second =>
      rw [List.getElem?_append_left (List.getElem?_eq_some_iff.mp high).1,
        List.getElem?_append_left (List.getElem?_eq_some_iff.mp low).1, high, low]
      rw [high, low] at reads
      exact reads

theorem bytesAt_more {size : Nat} {bytes : List UInt8}
    (reads : bytesAt data offset size = .ok bytes) :
    bytesAt (data ++ more) offset size = .ok bytes := by
  rw [bytesAt] at reads ⊢
  split at reads
  · next inside =>
      rw [if_pos (by rw [List.length_append]; omega), ← reads,
        List.drop_append_of_le_length (by omega),
        List.take_append_of_le_length (by rw [List.length_drop]; omega)]
  · contradiction

theorem readPayloadSize_more {is16Bit : Bool} {size : Nat}
    (reads : readPayloadSize data is16Bit = .ok size) :
    readPayloadSize (data ++ more) is16Bit = .ok size := by
  rw [readPayloadSize] at reads ⊢
  cases is16Bit with
  | true => exact w16_more more reads
  | false =>
    rw [if_neg Bool.false_ne_true] at reads ⊢
    cases read : byteAt data offsPayloadLength with
    | error fault => rw [read] at reads; contradiction
    | ok byte => rw [byteAt_more more read, ← reads, read]

theorem readHeader_more (reads : readHeader data = .ok header) :
    readHeader (data ++ more) = .ok header := by
  obtain ⟨flags, flagged, reads⟩ := bind_eq_ok reads
  obtain ⟨size, sized, same⟩ := bind_eq_ok reads
  rw [readHeader, byteAt_more more flagged, ok_bind]
  dsimp only
  rw [readPayloadSize_more more sized]
  exact same

theorem readPacket_more {packet : Received} (reads : readPacket data header = .ok packet) :
    readPacket (data ++ more) header = .ok packet := by
  obtain ⟨vendorId, vendor, reads⟩ := bind_eq_ok reads
  obtain ⟨commandId, command, reads⟩ := bind_eq_ok reads
  obtain ⟨payload, paid, same⟩ := bind_eq_ok reads
  have payload_more : readPayload (data ++ more) header = .ok payload := by
    rw [readPayload] at paid ⊢
    split at paid
    · rw [if_pos (by assumption), bytesAt_more more paid]
    · rw [if_neg (by assumption)]
      exact paid
  rw [readPacket, w16_more more vendor, ok_bind, w16_more more command, ok_bind, payload_more]
  exact same

theorem announced_more (here : announced data = some header) :
    announced (data ++ more) = some header := by
  rw [announced] at here ⊢
  split at here
  · next starts =>
      have again : (data ++ more).head? = some sof ∧ offsPayload false ≤ (data ++ more).length :=
        ⟨by rw [List.head?_append, starts.1]; rfl,
          by rw [List.length_append]; exact Nat.le_trans starts.2 (Nat.le_add_right _ _)⟩
      rw [if_pos again]
      cases reads : readHeader data with
      | error fault => rw [reads] at here; contradiction
      | ok found => rw [readHeader_more more reads, ← here, reads]
  · contradiction

theorem complete_more (complete : Complete data header) : Complete (data ++ more) header := by
  refine ⟨Nat.le_trans complete.1 ?_, ?_⟩
  · rw [List.length_append]
    exact Nat.le_add_right _ _
  · rw [List.take_append_of_le_length complete.1]
    exact complete.2

end Reading

section Splitting

variable {data behind left : List UInt8} {received : Received} {packets : List Received}

theorem nextPacket_eq_some (next : nextPacket data = some (received, behind)) :
    ∃ header packet, announced data = some header ∧ Complete data header ∧
      readPacket data header = .ok packet ∧
      received = { packet with pktSize := header.fullLength } ∧
      behind = data.drop header.fullLength := by
  obtain ⟨header, here, next⟩ := Option.bind_eq_some_iff.mp next
  split at next
  · obtain ⟨packet, reads, same⟩ := Option.map_eq_some_iff.mp next
    refine ⟨header, packet, here, by assumption, ?_, ?_, ?_⟩
    · cases read : readPacket data header with
      | ok result => rw [read] at reads; exact congrArg _ (Option.some.inj reads)
      | error fault => rw [read] at reads; contradiction
    · exact (congrArg Prod.fst same).symm
    · exact (congrArg Prod.snd same).symm
  · contradiction

theorem nextPacket_length (next : nextPacket data = some (received, behind)) :
    data.length = received.pktSize + behind.length ∧ 8 ≤ received.pktSize ∧
      behind = data.drop received.pktSize := by
  obtain ⟨header, packet, -, complete, -, rfl, rfl⟩ := nextPacket_eq_some next
  refine ⟨?_, ?_, rfl⟩
  · rw [List.length_drop, Nat.add_sub_cancel' complete.1]
  · change 8 ≤ 8 + _ + _ + _
    omega

theorem nextPacket_eq {header : PacketHeader} {packet : Received}
    (here : announced data = some header) (complete : Complete data header)
    (reads : readPacket data header = .ok packet) :
    nextPacket data = some ({ packet with pktSize := header.fullLength },
      data.drop header.fullLength) := by
  rw [nextPacket, here, Option.bind_some, if_pos complete, reads]
  rfl

theorem nextPacket_more (more : List UInt8)
    (next : nextPacket data = some (received, behind)) :
    nextPacket (data ++ more) = some (received, behind ++ more) := by
  obtain ⟨header, packet, here, complete, reads, rfl, rfl⟩ := nextPacket_eq_some next
  rw [nextPacket_eq (announced_more more here) (complete_more more complete)
    (readPacket_more more reads), List.drop_append_of_le_length complete.1]

theorem Splits.more (splits : Splits data packets left) (more : List UInt8) :
    Splits (data ++ more) packets (left ++ more) := by
  induction splits with
  | none data => exact .none _
  | next first _ ih => exact .next (nextPacket_more more first) ih

theorem Splits.trans {middle : List UInt8} {others : List Received}
    (splits : Splits data packets middle) (rest : Splits middle others left) :
    Splits data (packets ++ others) left := by
  induction splits with
  | none data => exact rest
  | next first _ ih => exact .next first (ih rest)

theorem Splits.length (splits : Splits data packets left) :
    data.length = packetsSize packets + left.length := by
  induction splits with
  | none data => exact (Nat.zero_add _).symm
  | next first _ ih =>
    rw [(nextPacket_length first).1, ih, packetsSize, Nat.add_assoc]

end Splitting

section Loop

variable {data behind : List UInt8} {received : Received} {header : PacketHeader}

theorem readHeader_pktLength (reads : readHeader data = .ok header) :
    header.pktLength = header.fullLength % 2 ^ 16 ∧
      header.is16Bit = (header.flags &&& flag16BitLength != 0) := by
  obtain ⟨flags, flagged, reads⟩ := bind_eq_ok reads
  obtain ⟨size, sized, same⟩ := bind_eq_ok reads
  cases same
  exact ⟨rfl, rfl⟩

theorem byteAt_isOk (data : List UInt8) (offset : Nat) (inside : offset < data.length) :
    ∃ byte, byteAt data offset = .ok byte :=
  ⟨data[offset], by rw [byteAt, List.getElem?_eq_getElem inside]⟩

theorem w16_isOk {offset : Nat} (inside : offset + 1 < data.length) :
    ∃ value, w16 data offset = .ok value := by
  refine ⟨data[offset].toNat * 2 ^ 8 + data[offset + 1].toNat, ?_⟩
  rw [w16, List.getElem?_eq_getElem (Nat.lt_of_succ_lt inside), List.getElem?_eq_getElem inside]

theorem readHeader_isOk (long : offsPayload false ≤ data.length) :
    ∃ header, readHeader data = .ok header := by
  have inside : 8 ≤ data.length := long
  obtain ⟨flags, flagged⟩ := byteAt_isOk data offsFlags
    (Nat.lt_of_lt_of_le (by decide) inside)
  have sized : ∃ size, readPayloadSize data (flags &&& flag16BitLength != 0) = .ok size := by
    rw [readPayloadSize]
    split
    · exact w16_isOk (Nat.lt_of_lt_of_le (by decide) inside)
    · obtain ⟨byte, reads⟩ := byteAt_isOk data offsPayloadLength
        (Nat.lt_of_lt_of_le (by decide) inside)
      exact ⟨byte.toNat, by rw [reads]; rfl⟩
  obtain ⟨size, sized⟩ := sized
  refine ⟨⟨flags, flags &&& flag16BitLength != 0, size, calcRxPacketLength size flags⟩, ?_⟩
  rw [readHeader, flagged, ok_bind]
  dsimp only
  rw [sized]
  rfl

theorem readPacket_isOk (reads : readHeader data = .ok header)
    (long : header.fullLength ≤ data.length) : ∃ packet, readPacket data header = .ok packet := by
  have wide := (readHeader_pktLength reads).2
  have sizes : offsPayload header.is16Bit + header.payloadSize ≤ data.length := by
    refine Nat.le_trans ?_ long
    rw [PacketHeader.fullLength]
    cases flag : header.is16Bit with
    | true =>
      rw [if_pos (bne_iff_ne.mp (wide.symm.trans flag) :
        header.flags &&& flag16BitLength ≠ 0)]
      change 9 + _ ≤ 8 + _ + _ + 1
      omega
    | false =>
      change 8 + _ ≤ 8 + _ + _ + _
      omega
  have fields : offsVendorId header.is16Bit + 1 < offsPayload header.is16Bit ∧
      offsCommandId header.is16Bit + 1 < offsPayload header.is16Bit := by
    cases header.is16Bit <;> decide
  have payloadInside : offsPayload header.is16Bit ≤ data.length :=
    Nat.le_trans (Nat.le_add_right _ _) sizes
  obtain ⟨vendorId, vendor⟩ := w16_isOk (Nat.lt_of_lt_of_le fields.1 payloadInside)
  obtain ⟨commandId, command⟩ := w16_isOk (Nat.lt_of_lt_of_le fields.2 payloadInside)
  have paid : ∃ payload, readPayload data header = .ok payload := by
    rw [readPayload]
    split
    · exact ⟨_, if_pos sizes⟩
    · exact ⟨[], rfl⟩
  obtain ⟨payload, paid⟩ := paid
  refine ⟨⟨header.pktLength, UInt16.ofNat vendorId, UInt16.ofNat commandId, payload⟩, ?_⟩
  rw [readPacket, vendor, ok_bind, command, ok_bind, paid]
  rfl

section Rounds

variable {Client : Type} (callback : Callback Client) (rounds consumed : Nat)
  (client : Client)

theorem announced_eq_some (here : announced data = some header) :
    data.head? = some sof ∧ offsPayload false ≤ data.length ∧ readHeader data = .ok header := by
  rw [announced] at here
  split at here
  · next starts =>
      cases reads : readHeader data with
      | error fault => rw [reads] at here; contradiction
      | ok found =>
        rw [reads] at here
        exact ⟨starts.1, starts.2, congrArg _ (Option.some.inj here)⟩
  · contradiction

theorem receiveLoop_next (next : nextPacket data = some (received, behind))
    (fits : received.pktSize < 2 ^ 16) :
    receiveLoop callback (rounds + 1) data consumed client =
      if (callback client received).1 = true then
        receiveLoop callback rounds behind (consumed + received.pktSize)
          (callback client received).2
      else .ok ⟨consumed, (callback client received).2, none⟩ := by
  obtain ⟨header, packet, here, complete, reads, rfl, rfl⟩ := nextPacket_eq_some next
  obtain ⟨starts, long, headed⟩ := announced_eq_some here
  have length : header.pktLength = header.fullLength :=
    (readHeader_pktLength headed).1.trans (Nat.mod_eq_of_lt fits)
  have size : packet.pktSize = header.fullLength := by
    obtain ⟨vendorId, -, rest⟩ := bind_eq_ok reads
    obtain ⟨commandId, -, rest⟩ := bind_eq_ok rest
    obtain ⟨payload, -, same⟩ := bind_eq_ok rest
    cases same
    exact length
  have same : { packet with pktSize := header.fullLength } = packet := by
    rw [← size]
  rw [same, receiveLoop, if_neg fun other => other.2 starts,
    if_neg (Nat.not_lt.mpr long), headed, ok_bind, length, if_neg (Nat.not_lt.mpr complete.1),
    if_neg complete.2, reads, ok_bind, size]
  rfl

theorem Fits.not_wraps (fits : Fits data) : ¬ Wraps data := by
  rintro ⟨header, here, long, -⟩
  exact Nat.not_le.mpr (fits header here) long

theorem receiveLoop_none (none : nextPacket data = none) (accepted : ¬ Wraps data) :
    ∃ error, receiveLoop callback (rounds + 1) data consumed client =
      .ok ⟨consumed, client, error⟩ := by
  rw [receiveLoop]
  split
  · exact ⟨_, rfl⟩
  · next starts =>
      split
      · exact ⟨_, rfl⟩
      · next long =>
          have long : offsPayload false ≤ data.length := Nat.le_of_not_lt long
          have sofHere : data.head? = some sof := by
            by_contra other
            refine starts ⟨fun empty => ?_, other⟩
            rw [empty] at long
            exact absurd long (by decide)
          obtain ⟨header, headed⟩ := readHeader_isOk long
          have here : announced data = some header := by
            rw [announced, if_pos ⟨sofHere, long⟩, headed]
            rfl
          have length := (readHeader_pktLength headed).1
          rw [headed, ok_bind]
          split
          · exact ⟨_, rfl⟩
          · next whole =>
              split
              · exact ⟨_, rfl⟩
              · next right =>
                  have fits : header.fullLength < 2 ^ 16 := by
                    by_contra long
                    rw [length] at whole right
                    exact accepted ⟨header, here, Nat.le_of_not_lt long, Nat.le_of_not_lt whole,
                      right⟩
                  rw [length, Nat.mod_eq_of_lt fits] at whole right
                  have complete : Complete data header := ⟨Nat.le_of_not_lt whole, right⟩
                  obtain ⟨packet, reads⟩ := readPacket_isOk headed complete.1
                  rw [nextPacket_eq here complete reads] at none
                  contradiction

end Rounds

end Loop

end HeadsetAdk.Gaia
