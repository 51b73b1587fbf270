import HeadsetAdk.Gaia.PacketStream

/-! # Packets that are built and received -/

namespace HeadsetAdk.Gaia

theorem writeAt_ok {buffer bytes written : List UInt8} {offset : Nat}
    (writes : writeAt buffer offset bytes = .ok written) :
    offset + bytes.length ≤ buffer.length ∧ written.length = buffer.length := by
  unfold writeAt at writes
  split at writes
  · rename_i fits
    injection writes with writes
    refine ⟨fits, ?_⟩
    subst writes
    simp only [List.length_append, List.length_take, List.length_drop]
    omega
  · contradiction

theorem writeAt_append (before bytes old : List UInt8) (fits : bytes.length ≤ old.length) :
    writeAt (before ++ old) before.length bytes =
      .ok (before ++ bytes ++ old.drop bytes.length) := by
  unfold writeAt
  rw [if_pos (by simpa using fits)]
  simp [List.drop_append]

theorem panicFalse_ok {condition : Bool} (passes : panicFalse condition = .ok ()) :
    condition = true := by
  unfold panicFalse at passes
  split at passes
  · assumption
  · contradiction

theorem bytesAt_append (before bytes after : List UInt8) :
    bytesAt (before ++ bytes ++ after) before.length bytes.length = .ok bytes := by
  unfold bytesAt
  rw [if_pos (by simp)]
  simp

section Building

variable {protocolVersion : UInt8} {sizePayload pktLength : Nat} {pktBuf : List UInt8}
  {vendorId commandId : UInt16}

def totalPayload (status : UInt8) (payload : List UInt8) : List UInt8 :=
  statusBytes status ++ payload

def lengthFlags (sizePayload : Nat) : UInt8 := if 255 < sizePayload then flag16BitLength else 0

def headerSize (sizePayload : Nat) : Nat := if 255 < sizePayload then 9 else 8

def packetBytes (protocolVersion : UInt8) (vendorId commandId : UInt16) (status : UInt8)
    (payload : List UInt8) : List UInt8 :=
  let total := totalPayload status payload
  headerBytes protocolVersion (lengthFlags total.length) vendorId commandId total.length ++ total

/-- What a transport can send: the length field has 16 bits from version 4 on, and
the length of a packet is a `uint16`. -/
structure Accepts (protocolVersion status : UInt8) (payload : List UInt8) : Prop where
  lengthField : 4 ≤ protocolVersion ∨ (totalPayload status payload).length ≤ 255
  pktLength : headerSize (totalPayload status payload).length +
    (totalPayload status payload).length < 2 ^ 16

theorem statusBytes_length (status : UInt8) :
    (statusBytes status).length = if status = statusNone then 0 else 1 := by
  unfold statusBytes
  split <;> simp_all

theorem headerBytes_length (protocolVersion flags : UInt8) (vendorId commandId : UInt16)
    (sizePayload : Nat) :
    (headerBytes protocolVersion flags vendorId commandId sizePayload).length =
      if flags &&& flag16BitLength ≠ 0 then 9 else 8 := by
  unfold headerBytes
  split <;> rfl

theorem headerFlags_false (protocolVersion : UInt8) (sizePayload : Nat) :
    headerFlags protocolVersion sizePayload false =
      if 255 < sizePayload ∧ ¬ 4 ≤ protocolVersion then .error .panic
      else .ok (lengthFlags sizePayload) := by
  by_cases large : 255 < sizePayload <;> by_cases modern : 4 ≤ protocolVersion <;>
    simp [headerFlags, lengthFlags, large, modern]

theorem headerFlags_ok {flags : UInt8}
    (allowed : headerFlags protocolVersion sizePayload false = .ok flags) :
    (4 ≤ protocolVersion ∨ sizePayload ≤ 255) ∧ flags = lengthFlags sizePayload := by
  rw [headerFlags_false] at allowed
  split at allowed
  · contradiction
  · rename_i extended
    injection allowed with allowed
    refine ⟨?_, allowed.symm⟩
    by_contra refused
    rw [not_or] at refused
    exact extended ⟨by omega, refused.1⟩

theorem headerFlags_eq (allowed : 4 ≤ protocolVersion ∨ sizePayload ≤ 255) :
    headerFlags protocolVersion sizePayload false = .ok (lengthFlags sizePayload) := by
  rw [headerFlags_false, if_neg]
  rintro ⟨large, old⟩
  exact allowed.elim old (by omega)

theorem lengthFlags_and (sizePayload : Nat) :
    (lengthFlags sizePayload &&& flag16BitLength ≠ 0) ↔ 255 < sizePayload := by
  unfold lengthFlags
  split <;> simp_all [flag16BitLength]

theorem headerSize_bounds (sizePayload : Nat) :
    8 ≤ headerSize sizePayload ∧ headerSize sizePayload ≤ 9 := by
  unfold headerSize
  split <;> decide

theorem headerBytes_lengthFlags (protocolVersion : UInt8) (vendorId commandId : UInt16)
    (sizePayload : Nat) :
    (headerBytes protocolVersion (lengthFlags sizePayload) vendorId commandId
      sizePayload).length = headerSize sizePayload := by
  rw [headerBytes_length, headerSize]
  exact if_congr (lengthFlags_and sizePayload) rfl rfl

theorem packetBytes_length (protocolVersion : UInt8) (vendorId commandId : UInt16)
    (status : UInt8) (payload : List UInt8) :
    (packetBytes protocolVersion vendorId commandId status payload).length =
      headerSize (totalPayload status payload).length + (totalPayload status payload).length := by
  rw [packetBytes, List.length_append, headerBytes_lengthFlags]

theorem setPacketHeader_ok {written : List UInt8} {pktPtr : Nat}
    (set : setPacketHeader protocolVersion pktBuf pktLength vendorId commandId sizePayload false =
      .ok (written, pktPtr)) :
    (4 ≤ protocolVersion ∨ sizePayload ≤ 255) ∧ written.length = pktBuf.length ∧
      pktPtr = headerSize sizePayload ∧
      (headerSize sizePayload + sizePayload) % 2 ^ 16 = pktLength := by
  obtain ⟨flags, allowed, set⟩ := bind_eq_ok set
  obtain ⟨version, rfl⟩ := headerFlags_ok allowed
  obtain ⟨header, writes, set⟩ := bind_eq_ok set
  obtain ⟨done, passes, set⟩ := bind_eq_ok set
  injection set with set
  cases set
  have size := panicFalse_ok passes
  rw [headerBytes_lengthFlags, beq_iff_eq] at size
  exact ⟨version, (writeAt_ok writes).2, headerBytes_lengthFlags .., size⟩

variable {status : UInt8} {payload : List UInt8}

theorem buildPacket_ok {packet : List UInt8}
    (built : buildPacket protocolVersion pktBuf pktLength vendorId commandId status payload =
      .ok packet) (size : Nat)
    (isSize : (payload.length + (statusBytes status).length) % 2 ^ 16 = size) :
    (4 ≤ protocolVersion ∨ size ≤ 255) ∧ (headerSize size + size) % 2 ^ 16 = pktLength ∧
      headerSize size + (statusBytes status).length + payload.length ≤ pktBuf.length := by
  obtain ⟨⟨header, pktPtr⟩, set, built⟩ := bind_eq_ok built
  obtain ⟨withStatus, writesStatus, writesPayload⟩ := bind_eq_ok built
  have total : (payload.length + if status = statusNone then 0 else 1) % 2 ^ 16 = size := by
    rw [← isSize, statusBytes_length]
  rw [total] at set
  obtain ⟨version, headerLength, rfl, pktLength⟩ := setPacketHeader_ok set
  refine ⟨version, pktLength, ?_⟩
  have room := (writeAt_ok writesPayload).1
  rw [(writeAt_ok writesStatus).2, headerLength] at room
  exact room

theorem setPacketHeader_eq (vendorId commandId : UInt16)
    (allowed : 4 ≤ protocolVersion ∨ sizePayload ≤ 255)
    (room : headerSize sizePayload ≤ pktBuf.length)
    (isLength : (headerSize sizePayload + sizePayload) % 2 ^ 16 = pktLength) :
    setPacketHeader protocolVersion pktBuf pktLength vendorId commandId sizePayload false =
      .ok (headerBytes protocolVersion (lengthFlags sizePayload) vendorId commandId sizePayload ++
        pktBuf.drop (headerSize sizePayload), headerSize sizePayload) := by
  have length := headerBytes_lengthFlags protocolVersion vendorId commandId sizePayload
  have writes := writeAt_append []
    (headerBytes protocolVersion (lengthFlags sizePayload) vendorId commandId sizePayload) pktBuf
    (by omega)
  rw [List.nil_append, List.nil_append, List.length_nil, length] at writes
  have passes : panicFalse ((headerSize sizePayload + sizePayload + 0) % 2 ^ 16 == pktLength) =
      .ok () := by
    unfold panicFalse
    rw [Nat.add_zero, isLength, beq_self_eq_true, if_pos rfl]
  unfold setPacketHeader
  simp only [headerFlags_eq allowed, ok_bind, writes, length, Bool.false_eq_true, if_false, passes]
  rfl

theorem buildPacket_eq (accepts : Accepts protocolVersion status payload) (exactly : pktBuf.length =
      (packetBytes protocolVersion vendorId commandId status payload).length) :
    buildPacket protocolVersion pktBuf pktBuf.length vendorId commandId status payload =
      .ok (packetBytes protocolVersion vendorId commandId status payload) := by
  obtain ⟨version, small⟩ := accepts
  rw [packetBytes_length] at exactly
  have total : (payload.length + if status = statusNone then 0 else 1) % 2 ^ 16 =
      (totalPayload status payload).length := by
    rw [totalPayload, List.length_append] at small ⊢
    rw [← statusBytes_length]
    omega
  have lengths : (totalPayload status payload).length =
      (statusBytes status).length + payload.length := by
    rw [totalPayload, List.length_append]
  set size := (totalPayload status payload).length
  set header := headerBytes protocolVersion (lengthFlags size) vendorId commandId size with isHeader
  have headerLength : header.length = headerSize size := headerBytes_lengthFlags ..
  have room : headerSize size ≤ pktBuf.length := by omega
  have isLength : (headerSize size + size) % 2 ^ 16 = pktBuf.length := by omega
  have set_ := setPacketHeader_eq vendorId commandId version room isLength
  rw [← isHeader, ← headerLength] at set_
  have writesStatus := writeAt_append header (statusBytes status)
    (pktBuf.drop header.length) (by rw [List.length_drop]; omega)
  have writesPayload := writeAt_append (header ++ statusBytes status) payload
    ((pktBuf.drop header.length).drop (statusBytes status).length)
    (by rw [List.length_drop, List.length_drop]; omega)
  have filled : (((pktBuf.drop header.length).drop (statusBytes status).length).drop
      payload.length) = [] := by
    apply List.drop_eq_nil_of_le
    rw [List.length_drop, List.length_drop]
    omega
  unfold buildPacket
  simp only [total, set_, ok_bind, writesStatus]
  rw [← List.length_append, writesPayload, filled, List.append_nil, List.append_assoc]
  rfl

end Building

section Receiving

variable {sizePayload : Nat} {value : Nat}

theorem high_low (small : value < 2 ^ 16) :
    (high value).toNat * 2 ^ 8 + (low value).toNat = value := by
  simp only [high, low, UInt8.toNat_ofNat']
  omega

theorem low_toNat (small : value ≤ 255) : (low value).toNat = value := by
  simp only [low, UInt8.toNat_ofNat']
  omega

theorem uint16_highLow (value : UInt16) :
    UInt16.ofNat ((high value.toNat).toNat * 2 ^ 8 + (low value.toNat).toNat) = value := by
  rw [high_low value.toNat_lt]
  exact UInt16.ofNat_toNat

theorem calcRxPacketLength_lengthFlags (small : headerSize sizePayload + sizePayload < 2 ^ 16) :
    calcRxPacketLength sizePayload (lengthFlags sizePayload) =
      headerSize sizePayload + sizePayload := by
  have noCheck : ¬ lengthFlags sizePayload &&& flagCheck ≠ 0 := by
    unfold lengthFlags
    split <;> decide
  have offset : offsPayload false = 8 := rfl
  unfold calcRxPacketLength
  rw [if_neg noCheck, if_congr (lengthFlags_and sizePayload) rfl rfl, offset]
  unfold headerSize at small ⊢
  split at small
  · rename_i large
    rw [if_pos large, if_pos large]
    omega
  · rename_i large
    rw [if_neg large, if_neg large]
    omega

section

variable (protocolVersion : UInt8) (vendorId commandId : UInt16)

include protocolVersion vendorId commandId

theorem headerBytes_large (large : 255 < sizePayload) :
    headerBytes protocolVersion (lengthFlags sizePayload) vendorId commandId sizePayload =
      [sof, protocolVersion, flag16BitLength, high sizePayload, low sizePayload,
        high vendorId.toNat, low vendorId.toNat, high commandId.toNat, low commandId.toNat] := by
  unfold headerBytes
  rw [if_pos ((lengthFlags_and sizePayload).mpr large), lengthFlags, if_pos large]
  rfl

theorem headerBytes_small (small : ¬ 255 < sizePayload) :
    headerBytes protocolVersion (lengthFlags sizePayload) vendorId commandId sizePayload =
      [sof, protocolVersion, 0, low sizePayload,
        high vendorId.toNat, low vendorId.toNat, high commandId.toNat, low commandId.toNat] := by
  unfold headerBytes
  rw [if_neg (mt (lengthFlags_and sizePayload).mp small), lengthFlags, if_neg small]
  rfl

def builtHeader (sizePayload : Nat) : PacketHeader :=
  ⟨lengthFlags sizePayload, decide (255 < sizePayload), sizePayload,
    headerSize sizePayload + sizePayload⟩

theorem readPayloadSize_packet (small : sizePayload < 2 ^ 16) (tail : List UInt8) :
    readPayloadSize (headerBytes protocolVersion (lengthFlags sizePayload) vendorId commandId
      sizePayload ++ tail) (decide (255 < sizePayload)) = .ok sizePayload := by
  by_cases large : 255 < sizePayload
  · rw [headerBytes_large _ _ _ large, readPayloadSize, if_pos (decide_eq_true large)]
    exact congrArg Except.ok (high_low small)
  · rw [headerBytes_small _ _ _ large, readPayloadSize, if_neg (by simpa using large)]
    exact congrArg Except.ok (low_toNat (by omega))

theorem readHeader_packet (small : headerSize sizePayload + sizePayload < 2 ^ 16)
    (tail : List UInt8) :
    readHeader (headerBytes protocolVersion (lengthFlags sizePayload) vendorId commandId
      sizePayload ++ tail) = .ok (builtHeader sizePayload) := by
  have flags : byteAt (headerBytes protocolVersion (lengthFlags sizePayload) vendorId commandId
      sizePayload ++ tail) offsFlags = .ok (lengthFlags sizePayload) := rfl
  have is16Bit : (lengthFlags sizePayload &&& flag16BitLength != 0) =
      decide (255 < sizePayload) := by
    rw [Bool.eq_iff_iff, bne_iff_ne, decide_eq_true_iff]
    exact lengthFlags_and sizePayload
  unfold readHeader
  simp only [flags, ok_bind, is16Bit]
  rw [readPayloadSize_packet _ _ _ (by omega), ok_bind, calcRxPacketLength_lengthFlags small]
  rfl

end

theorem readPayload_packet (header payload rest : List UInt8)
    (length : header.length = headerSize payload.length) :
    readPayload (header ++ payload ++ rest) (builtHeader payload.length) = .ok payload := by
  have offset : offsPayload (builtHeader payload.length).is16Bit = header.length := by
    rw [length, headerSize]
    exact if_congr (by simp [builtHeader]) rfl rfl
  unfold readPayload
  rw [offset]
  split
  · exact bytesAt_append header payload rest
  · rename_i empty
    have none : payload = [] := by
      by_contra some
      exact empty (by simpa [builtHeader] using some)
    rw [none]

theorem readPacket_packet (protocolVersion : UInt8) (vendorId commandId : UInt16)
    (payload rest : List UInt8) :
    readPacket (headerBytes protocolVersion (lengthFlags payload.length) vendorId commandId
      payload.length ++ payload ++ rest) (builtHeader payload.length) =
      .ok ⟨headerSize payload.length + payload.length, vendorId, commandId, payload⟩ := by
  set header := headerBytes protocolVersion (lengthFlags payload.length) vendorId commandId
    payload.length with isHeader
  have vendor : w16 (header ++ payload ++ rest)
      (offsVendorId (builtHeader payload.length).is16Bit) =
        .ok ((high vendorId.toNat).toNat * 2 ^ 8 + (low vendorId.toNat).toNat) := by
    by_cases large : 255 < payload.length
    · rw [isHeader, headerBytes_large _ _ _ large, builtHeader, decide_eq_true large]
      rfl
    · rw [isHeader, headerBytes_small _ _ _ large, builtHeader, decide_eq_false large]
      rfl
  have command : w16 (header ++ payload ++ rest)
      (offsCommandId (builtHeader payload.length).is16Bit) =
        .ok ((high commandId.toNat).toNat * 2 ^ 8 + (low commandId.toNat).toNat) := by
    by_cases large : 255 < payload.length
    · rw [isHeader, headerBytes_large _ _ _ large, builtHeader, decide_eq_true large]
      rfl
    · rw [isHeader, headerBytes_small _ _ _ large, builtHeader, decide_eq_false large]
      rfl
  unfold readPacket
  rw [vendor, ok_bind, command, ok_bind, readPayload_packet _ _ _ (headerBytes_lengthFlags ..),
    ok_bind, uint16_highLow, uint16_highLow]
  rfl

theorem lengthFlags_check (sizePayload : Nat) : lengthFlags sizePayload &&& flagCheck = 0 := by
  unfold lengthFlags
  split <;> decide

theorem builtHeader_fullLength (sizePayload : Nat) :
    (builtHeader sizePayload).fullLength = headerSize sizePayload + sizePayload := by
  change 8 + sizePayload + (if lengthFlags sizePayload &&& flagCheck ≠ 0 then 1 else 0) +
    (if lengthFlags sizePayload &&& flag16BitLength ≠ 0 then 1 else 0) = _
  rw [if_neg (not_not.mpr (lengthFlags_check _)), headerSize]
  by_cases large : 255 < sizePayload
  · rw [if_pos ((lengthFlags_and sizePayload).mpr large), if_pos large]
    omega
  · rw [if_neg ((lengthFlags_and sizePayload).not.mpr large), if_neg large]
    rfl

theorem nextPacket_packet {protocolVersion status : UInt8} {payload : List UInt8}
    (accepts : Accepts protocolVersion status payload) (vendorId commandId : UInt16)
    (rest : List UInt8) :
    nextPacket (packetBytes protocolVersion vendorId commandId status payload ++ rest) =
      some (⟨(packetBytes protocolVersion vendorId commandId status payload).length, vendorId,
        commandId, totalPayload status payload⟩, rest) := by
  have size := packetBytes_length protocolVersion vendorId commandId status payload
  set total := totalPayload status payload
  have length := (builtHeader_fullLength total.length).trans size.symm
  have header := readHeader_packet protocolVersion vendorId commandId accepts.pktLength
    (total ++ rest)
  rw [← List.append_assoc] at header
  have long : 8 ≤ (packetBytes protocolVersion vendorId commandId status payload ++
      rest).length := by
    have least := (headerSize_bounds total.length).1
    rw [List.length_append]
    omega
  have here : announced (packetBytes protocolVersion vendorId commandId status payload ++ rest) =
      some (builtHeader total.length) :=
    (if_pos ⟨rfl, long⟩).trans (congrArg Except.toOption header)
  have complete : Complete (packetBytes protocolVersion vendorId commandId status payload ++ rest)
      (builtHeader total.length) :=
    ⟨by rw [length, List.length_append]; omega, fun checked => checked.1 (lengthFlags_check _)⟩
  have next := nextPacket_eq here complete
    (readPacket_packet protocolVersion vendorId commandId total rest)
  rw [length, List.drop_left] at next
  exact next

end Receiving

section RoundTrip

variable {protocolVersion status : UInt8} {payload : List UInt8}

def Delivers (packet : List UInt8) (vendorId commandId : UInt16) (payload : List UInt8) : Prop :=
  ∀ (Client : Type) (callback : Callback Client) (client : Client) (rest : List UInt8)
    (rounds : Nat), packet.length + rest.length < 2 ^ 16 →
    receivePacket callback (rounds + 1) (packet ++ rest) client =
      let next := callback client ⟨packet.length, vendorId, commandId, payload⟩
      if next.1 = true then receiveLoop callback rounds rest packet.length next.2
      else .ok ⟨0, next.2, none⟩

/-- Every buffer of the calculated length is filled without a panic, and the parser takes
what is in it apart again. -/
def RoundTrips (protocolVersion : UInt8) (vendorId commandId : UInt16) (status : UInt8)
    (payload : List UInt8) : Prop :=
  ∃ packet : List UInt8,
    (∀ pktBuf : List UInt8, pktBuf.length = calcTxPacketLength payload.length status →
      buildPacket protocolVersion pktBuf pktBuf.length vendorId commandId status payload =
        .ok packet ∧ packet.length = pktBuf.length) ∧
    Delivers packet vendorId commandId (totalPayload status payload)

theorem totalPayload_length (status : UInt8) (payload : List UInt8) :
    (totalPayload status payload).length =
      payload.length + if status = statusNone then 0 else 1 := by
  rw [totalPayload, List.length_append, statusBytes_length, Nat.add_comm]

theorem calcTxPacketLength_eq (status : UInt8) (payload : List UInt8) :
    calcTxPacketLength payload.length status =
      (headerSize payload.length + (totalPayload status payload).length) % 2 ^ 16 := by
  have offset : offsPayload false = 8 := rfl
  rw [totalPayload_length, calcTxPacketLength, headerSize, offset, ite_not]
  congr 1
  split <;> omega

theorem delivers_packet
    (vendorId commandId : UInt16) (accepts : Accepts protocolVersion status payload) :
    Delivers (packetBytes protocolVersion vendorId commandId status payload) vendorId commandId
      (totalPayload status payload) := by
  intro Client callback client rest rounds _
  have loop := receiveLoop_next callback rounds 0 client
    (nextPacket_packet accepts vendorId commandId rest)
    (by rw [packetBytes_length]; exact accepts.pktLength)
  rw [Nat.zero_add] at loop
  exact loop

theorem roundTrips_of_accepts
    (vendorId commandId : UInt16) (accepts : Accepts protocolVersion status payload)
    (sameHeader : headerSize payload.length = headerSize (totalPayload status payload).length) :
    RoundTrips protocolVersion vendorId commandId status payload := by
  refine ⟨packetBytes protocolVersion vendorId commandId status payload, ?_, ?_⟩
  · intro pktBuf exactly
    rw [calcTxPacketLength_eq, sameHeader, Nat.mod_eq_of_lt accepts.pktLength,
      ← packetBytes_length protocolVersion vendorId commandId] at exactly
    exact ⟨buildPacket_eq accepts exactly, exactly.symm⟩
  · exact delivers_packet vendorId commandId accepts

theorem accepts_of_roundTrips {vendorId commandId : UInt16}
    (roundTrips : RoundTrips protocolVersion vendorId commandId status payload) :
    Accepts protocolVersion status payload ∧
      headerSize payload.length = headerSize (totalPayload status payload).length := by
  obtain ⟨packet, fills, _⟩ := roundTrips
  obtain ⟨built, _⟩ := fills (List.replicate (calcTxPacketLength payload.length status) 0)
    List.length_replicate
  obtain ⟨version, exactly, room⟩ := buildPacket_ok built _ rfl
  rw [List.length_replicate] at exactly room
  have calculated := calcTxPacketLength_eq status payload
  have total := totalPayload_length status payload
  rw [← statusBytes_length] at total
  rw [← total] at version exactly room
  have payloadHeader := headerSize_bounds payload.length
  have totalHeader := headerSize_bounds ((totalPayload status payload).length % 2 ^ 16)
  have statusSmall : (statusBytes status).length ≤ 1 := by
    rw [statusBytes_length]
    split <;> decide
  have small : (totalPayload status payload).length < 2 ^ 16 := by omega
  rw [Nat.mod_eq_of_lt small] at version exactly room totalHeader
  exact ⟨⟨version, by omega⟩, by omega⟩

theorem headerSize_eq_iff (status : UInt8) (payload : List UInt8) :
    headerSize payload.length = headerSize (totalPayload status payload).length ↔
      status = statusNone ∨ payload.length ≠ 255 := by
  rw [totalPayload_length]
  by_cases without : status = statusNone
  · simp [without]
  · have size : headerSize payload.length = headerSize (payload.length + 1) ↔
        payload.length ≠ 255 := by
      unfold headerSize
      split <;> split <;> omega
    simpa [without] using size

/-- Packets make the round trip except for those with a status byte and a payload of 255
bytes. -/
theorem roundTrips_iff (protocolVersion : UInt8) (vendorId commandId : UInt16) (status : UInt8)
    (payload : List UInt8) :
    RoundTrips protocolVersion vendorId commandId status payload ↔
      Accepts protocolVersion status payload ∧ (status = statusNone ∨ payload.length ≠ 255) := by
  rw [← headerSize_eq_iff]
  constructor
  · exact accepts_of_roundTrips
  · rintro ⟨accepts, sameHeader⟩
    exact roundTrips_of_accepts vendorId commandId accepts sameHeader

/-- A response of protocol version 4 with 255 bytes: the buffer has one byte too few, and
the builder panics. -/
theorem response_of_255_bytes :
    Accepts 4 0 (List.replicate 255 0) ∧ calcTxPacketLength 255 0 = 264 ∧
      ¬ RoundTrips 4 0x001D 0x0100 0 (List.replicate 255 0) := by
  have length : (totalPayload 0 (List.replicate 255 0)).length = 256 := by
    rw [totalPayload_length, List.length_replicate]
    decide
  refine ⟨⟨.inl (by decide), ?_⟩, by decide, ?_⟩
  · rw [length]
    decide
  · intro roundTrips
    have sameHeader := (accepts_of_roundTrips roundTrips).2
    rw [length, List.length_replicate] at sameHeader
    exact absurd sameHeader (by decide)

end RoundTrip

end HeadsetAdk.Gaia
