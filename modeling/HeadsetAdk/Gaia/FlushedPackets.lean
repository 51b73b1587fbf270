import HeadsetAdk.Gaia.Framing

/-! # Packets that are flushed with fewer bytes -/

namespace HeadsetAdk.Gaia

/-- The part of `gaia_transport_rfcomm_t` that a packet needs while it is written. -/
structure RfcommTx where
  protocolVersion : UInt8
  txPktClaimed : List UInt8
  txPktClaimedSize : Nat

def updatePacketLength (pktBuf : List UInt8) (sizePayload : Nat) :
    Except Fault (List UInt8) := do
  let protocolVersion ← byteAt pktBuf offsVersion
  let flags ← byteAt pktBuf offsFlags
  if 4 ≤ protocolVersion ∧ flags &&& flag16BitLength ≠ 0 then
    let length ← w16 pktBuf offsPayloadLength
    panicFalse (decide (sizePayload ≤ length))
    writeAt pktBuf offsPayloadLength [high sizePayload, low sizePayload]
  else
    let length ← byteAt pktBuf offsPayloadLength
    panicFalse (decide (sizePayload ≤ length.toNat) && decide (sizePayload ≤ 255))
    writeAt pktBuf offsPayloadLength [high sizePayload]

namespace RfcommTx

/-- `gaiaTransport_RfcommCreatePacket`: the transport, and where the payload goes.
`TransportMgrClaimData` gives space of a size, or a null pointer. -/
def createPacket (tr : RfcommTx) (claimData : Nat → Option (List UInt8))
    (vendorId commandId : UInt16) (sizePayload : Nat) : Except Fault (RfcommTx × Option Nat) :=
  let claimedSize := calcTxPacketLength sizePayload statusNone
  match claimData claimedSize with
  | some claimed =>
      (setPacketHeader tr.protocolVersion claimed claimedSize vendorId commandId sizePayload
        false).map fun (claimed, pktPtr) =>
          ({ tr with txPktClaimed := claimed, txPktClaimedSize := claimedSize }, some pktPtr)
  | none => .ok ({ tr with txPktClaimed := [], txPktClaimedSize := 0 }, none)

def fitted (tr : RfcommTx) (pktLength : Nat) : Except Fault (List UInt8) :=
  if pktLength ≠ tr.txPktClaimedSize then do
    panicFalse (decide (pktLength < tr.txPktClaimedSize))
    updatePacketLength tr.txPktClaimed pktLength
  else .ok tr.txPktClaimed

/-- `gaiaTransport_RfcommFlushPacket`: the transport, and what `TransportMgrDataSend`
sends. -/
def flushPacket (tr : RfcommTx) (sizePayload : Nat) : Except Fault (RfcommTx × List UInt8) := do
  let pktLength := calcTxPacketLength sizePayload statusNone
  let packet ← tr.fitted pktLength
  return ({ tr with txPktClaimed := [], txPktClaimedSize := 0 }, packet.take pktLength)

def writeAndFlush (tr : RfcommTx) (pktPtr : Nat) (payload : List UInt8) :
    Except Fault (List UInt8) := do
  let written ← writeAt tr.txPktClaimed pktPtr payload
  let (_, sent) ← flushPacket { tr with txPktClaimed := written } payload.length
  return sent

end RfcommTx

def SentRight (sent : List UInt8) (vendorId commandId : UInt16) (payload : List UInt8) : Prop :=
  (readHeader sent).map PacketHeader.payloadSize = .ok payload.length ∧
    Delivers sent vendorId commandId payload

/-- Whatever space is claimed, a packet that is created can be flushed with the payload.
None is created where the length field is too small, which is a panic. -/
def FlushesRight (tr : RfcommTx) (vendorId commandId : UInt16) (sizePayload : Nat)
    (payload : List UInt8) : Prop :=
  ∀ claimData : Nat → Option (List UInt8),
    (∀ size claimed, claimData size = some claimed → claimed.length = size) →
    tr.createPacket claimData vendorId commandId sizePayload = .error .panic ∨
      ∃ created pktPtr,
        tr.createPacket claimData vendorId commandId sizePayload = .ok (created, pktPtr) ∧
        ∀ payloadPtr ∈ pktPtr, ∃ sent, created.writeAndFlush payloadPtr payload = .ok sent ∧
          SentRight sent vendorId commandId payload

section Updating

variable {protocolVersion : UInt8} (vendorId commandId : UInt16) {sizePayload pktLength : Nat}
  (tail : List UInt8)

def idBytes (vendorId commandId : UInt16) : List UInt8 :=
  [high vendorId.toNat, low vendorId.toNat, high commandId.toNat, low commandId.toNat]

theorem updatePacketLength_large (large : 255 < sizePayload) (small : sizePayload < 2 ^ 16)
    (modern : 4 ≤ protocolVersion) :
    updatePacketLength (headerBytes protocolVersion (lengthFlags sizePayload) vendorId commandId
      sizePayload ++ tail) pktLength =
      if pktLength ≤ sizePayload then
        .ok ([sof, protocolVersion, flag16BitLength, high pktLength, low pktLength] ++
          idBytes vendorId commandId ++ tail)
      else .error .panic := by
  rw [headerBytes_large _ _ _ large]
  have field : w16 ([sof, protocolVersion, flag16BitLength, high sizePayload, low sizePayload] ++
      idBytes vendorId commandId ++ tail) offsPayloadLength = .ok sizePayload :=
    congrArg Except.ok (high_low small)
  change (if 4 ≤ protocolVersion ∧ flag16BitLength &&& flag16BitLength ≠ 0 then
    w16 ([sof, protocolVersion, flag16BitLength, high sizePayload, low sizePayload] ++
      idBytes vendorId commandId ++ tail) offsPayloadLength >>= _ else _) = _
  rw [if_pos ⟨modern, by decide⟩, field, ok_bind, panicFalse]
  by_cases fits : pktLength ≤ sizePayload
  · rw [if_pos fits, if_pos (decide_eq_true fits), ok_bind]
    exact writeAt_append [sof, protocolVersion, flag16BitLength]
      [high pktLength, low pktLength] ([high sizePayload, low sizePayload] ++
        idBytes vendorId commandId ++ tail) (Nat.le_add_left _ _)
  · rw [if_neg fits, if_neg (by simpa using fits)]
    rfl

theorem updatePacketLength_small (small : ¬ 255 < sizePayload) :
    updatePacketLength (headerBytes protocolVersion (lengthFlags sizePayload) vendorId commandId
      sizePayload ++ tail) pktLength =
      if pktLength ≤ sizePayload then
        .ok ([sof, protocolVersion, 0, 0] ++ idBytes vendorId commandId ++ tail)
      else .error .panic := by
  rw [headerBytes_small _ _ _ small]
  change (if 4 ≤ protocolVersion ∧ 0 &&& flag16BitLength ≠ 0 then _ else
    panicFalse (decide (pktLength ≤ (low sizePayload).toNat) && decide (pktLength ≤ 255)) >>= _) = _
  rw [if_neg fun wide => wide.2 (by decide), low_toNat (Nat.le_of_not_lt small), panicFalse]
  by_cases fits : pktLength ≤ sizePayload
  · have zero : high pktLength = 0 := by
      rw [high, Nat.div_eq_of_lt (by omega)]
      rfl
    rw [if_pos fits, if_pos (by simp only [Bool.and_eq_true, decide_eq_true_iff]; omega), ok_bind,
      zero]
    exact writeAt_append [sof, protocolVersion, 0] [0] ([low sizePayload] ++
        idBytes vendorId commandId ++ tail) (Nat.le_add_left _ _)
  · rw [if_neg fits, if_neg (by simp only [Bool.and_eq_true, decide_eq_true_iff]; omega)]
    rfl

end Updating

section Flushing

variable {tr : RfcommTx} {claimData : Nat → Option (List UInt8)} (vendorId commandId : UInt16)
  {sizePayload : Nat} {payload room : List UInt8}

theorem calcTxPacketLength_statusNone (sizePayload : Nat) :
    calcTxPacketLength sizePayload statusNone =
      (headerSize sizePayload + sizePayload) % 2 ^ 16 := by
  have same := calcTxPacketLength_eq statusNone (List.replicate sizePayload 0)
  rwa [totalPayload_length, List.length_replicate, if_pos rfl] at same

def RfcommTx.created (tr : RfcommTx) (vendorId commandId : UInt16) (sizePayload : Nat)
    (room : List UInt8) : RfcommTx :=
  { tr with
    txPktClaimed := headerBytes tr.protocolVersion (lengthFlags sizePayload) vendorId commandId
      sizePayload ++ room
    txPktClaimedSize := headerSize sizePayload + sizePayload }

@[simp] theorem created_txPktClaimed :
    (tr.created vendorId commandId sizePayload room).txPktClaimed =
      headerBytes tr.protocolVersion (lengthFlags sizePayload) vendorId commandId sizePayload ++
        room := rfl

@[simp] theorem created_txPktClaimedSize :
    (tr.created vendorId commandId sizePayload room).txPktClaimedSize =
      headerSize sizePayload + sizePayload := rfl

theorem createPacket_null (claims : claimData (calcTxPacketLength sizePayload statusNone) = none) :
    tr.createPacket claimData vendorId commandId sizePayload =
      .ok ({ tr with txPktClaimed := [], txPktClaimedSize := 0 }, none) := by
  unfold RfcommTx.createPacket
  simp only [claims]

variable {claimed : List UInt8}

theorem createPacket_eq (claims : claimData (headerSize sizePayload + sizePayload) = some claimed)
    (length : claimed.length = headerSize sizePayload + sizePayload)
    (allowed : 4 ≤ tr.protocolVersion ∨ sizePayload ≤ 255)
    (fits : headerSize sizePayload + sizePayload < 2 ^ 16) :
    tr.createPacket claimData vendorId commandId sizePayload =
      .ok (tr.created vendorId commandId sizePayload (claimed.drop (headerSize sizePayload)),
        some (headerSize sizePayload)) := by
  have written := setPacketHeader_eq vendorId commandId allowed
    (by rw [length]; exact Nat.le_add_right _ _ : headerSize sizePayload ≤ claimed.length)
    (Nat.mod_eq_of_lt fits)
  unfold RfcommTx.createPacket
  simp only [calcTxPacketLength_statusNone, Nat.mod_eq_of_lt fits, claims, written]
  rfl

theorem createPacket_panic
    (claims : claimData (calcTxPacketLength sizePayload statusNone) = some claimed)
    (refused : 255 < sizePayload ∧ ¬ 4 ≤ tr.protocolVersion) :
    tr.createPacket claimData vendorId commandId sizePayload = .error .panic := by
  unfold RfcommTx.createPacket
  simp only [claims]
  rw [setPacketHeader, headerFlags_false, if_pos refused]
  rfl

theorem writeAndFlush_eq (length : room.length = sizePayload)
    (smaller : payload.length ≤ sizePayload) :
    (tr.created vendorId commandId sizePayload room).writeAndFlush (headerSize sizePayload)
      payload =
      ((tr.created vendorId commandId sizePayload
        (payload ++ room.drop payload.length)).fitted
          (calcTxPacketLength payload.length statusNone)).map
            (List.take (calcTxPacketLength payload.length statusNone)) := by
  have written := writeAt_append (headerBytes tr.protocolVersion (lengthFlags sizePayload) vendorId
    commandId sizePayload) payload room (length ▸ smaller)
  rw [headerBytes_lengthFlags, List.append_assoc] at written
  unfold RfcommTx.writeAndFlush RfcommTx.flushPacket
  rw [created_txPktClaimed, written, ok_bind]
  change ((tr.created vendorId commandId sizePayload (payload ++ room.drop payload.length)).fitted
    _ >>= _) >>= _ = _
  cases (tr.created vendorId commandId sizePayload (payload ++ room.drop payload.length)).fitted
    (calcTxPacketLength payload.length statusNone) with
  | error fault => rfl
  | ok packet => rfl

theorem writeAndFlush_whole (length : room.length = payload.length)
    (fits : headerSize payload.length + payload.length < 2 ^ 16) :
    (tr.created vendorId commandId payload.length room).writeAndFlush
      (headerSize payload.length) payload =
      .ok (packetBytes tr.protocolVersion vendorId commandId statusNone payload) := by
  rw [writeAndFlush_eq vendorId commandId length (Nat.le_refl _), calcTxPacketLength_statusNone,
    Nat.mod_eq_of_lt fits, RfcommTx.fitted, if_neg fun other => other rfl,
    List.drop_eq_nil_of_le (Nat.le_of_eq length), List.append_nil]
  refine congrArg Except.ok (List.take_of_length_le (Nat.le_of_eq ?_))
  rw [created_txPktClaimed, List.length_append, headerBytes_lengthFlags]

theorem writeAndFlush_less (length : room.length = sizePayload)
    (less : payload.length < sizePayload)
    (fits : headerSize sizePayload + sizePayload < 2 ^ 16) {pktLength : Nat}
    (isLength : pktLength = headerSize payload.length + payload.length) :
    (tr.created vendorId commandId sizePayload room).writeAndFlush (headerSize sizePayload)
      payload =
      (updatePacketLength (headerBytes tr.protocolVersion (lengthFlags sizePayload) vendorId
        commandId sizePayload ++ (payload ++ room.drop payload.length)) pktLength).map
          (List.take pktLength) := by
  have shorter : pktLength < headerSize sizePayload + sizePayload := by
    rw [isLength]
    unfold headerSize
    split <;> split <;> omega
  rw [writeAndFlush_eq vendorId commandId length (Nat.le_of_lt less),
    calcTxPacketLength_statusNone, ← isLength, Nat.mod_eq_of_lt (Nat.lt_trans shorter fits),
    RfcommTx.fitted, created_txPktClaimedSize, if_pos (Nat.ne_of_lt shorter), panicFalse,
    if_pos (decide_eq_true shorter), ok_bind, created_txPktClaimed]

theorem sentRight_whole (allowed : 4 ≤ tr.protocolVersion ∨ payload.length ≤ 255)
    (fits : headerSize payload.length + payload.length < 2 ^ 16) :
    SentRight (packetBytes tr.protocolVersion vendorId commandId statusNone payload) vendorId
      commandId payload := by
  refine ⟨?_, delivers_packet vendorId commandId ⟨allowed, fits⟩⟩
  have header := readHeader_packet tr.protocolVersion vendorId commandId fits payload
  exact (congrArg (Except.map PacketHeader.payloadSize) header).trans rfl

theorem writeAndFlush_less_iff (length : room.length = sizePayload)
    (allowed : 4 ≤ tr.protocolVersion ∨ sizePayload ≤ 255)
    (less : payload.length < sizePayload)
    (fits : headerSize sizePayload + sizePayload < 2 ^ 16) :
    (∃ sent, (tr.created vendorId commandId sizePayload room).writeAndFlush
      (headerSize sizePayload) payload = .ok sent ∧ SentRight sent vendorId commandId payload) ↔
      payload = [] ∧ 8 ≤ sizePayload ∧ sizePayload ≤ 255 := by
  obtain ⟨more, isLength⟩ : ∃ more, more + 8 = headerSize payload.length + payload.length :=
    ⟨_, Nat.sub_add_cancel (Nat.le_trans (headerSize_bounds _).1 (Nat.le_add_right _ _))⟩
  rw [writeAndFlush_less vendorId commandId length less fits isLength]
  by_cases large : 255 < sizePayload
  · have modern : 4 ≤ tr.protocolVersion := allowed.resolve_right (Nat.not_le.mpr large)
    rw [updatePacketLength_large _ _ _ large (by omega) modern]
    constructor
    · rintro ⟨sent, flushed, right, -⟩
      split at flushed
      · -- the field has the length of the whole packet
        cases flushed
        have field : (high (more + 8)).toNat * 2 ^ 8 + (low (more + 8)).toNat = payload.length :=
          Except.ok.inj right
        have bounds := headerSize_bounds payload.length
        rw [high_low (by omega)] at field
        omega
      · contradiction
    · rintro ⟨-, -, small⟩
      omega
  · rw [updatePacketLength_small _ _ _ large]
    constructor
    · rintro ⟨sent, flushed, right, -⟩
      split at flushed
      · cases flushed
        have empty : 0 = payload.length := Except.ok.inj right
        exact ⟨List.eq_nil_of_length_eq_zero empty.symm, by omega, by omega⟩
      · contradiction
    · rintro ⟨rfl, room8, -⟩
      have exactly : more = 0 := by
        have none : headerSize ([] : List UInt8).length + ([] : List UInt8).length = 8 := rfl
        omega
      subst exactly
      rw [if_pos room8]
      have right : SentRight (packetBytes tr.protocolVersion vendorId commandId statusNone [])
          vendorId commandId [] :=
        sentRight_whole vendorId commandId (.inr (Nat.zero_le _)) (by decide)
      exact ⟨_, rfl, right⟩

/-- The length of the packet is too large for a `uint16`, and the header does not fit. -/
theorem createPacket_wraps
    (claims : claimData (calcTxPacketLength sizePayload statusNone) = some claimed)
    (length : claimed.length = calcTxPacketLength sizePayload statusNone)
    (allowed : 4 ≤ tr.protocolVersion ∨ sizePayload ≤ 255) (small : sizePayload < 2 ^ 16)
    (wraps : 2 ^ 16 ≤ headerSize sizePayload + sizePayload) :
    tr.createPacket claimData vendorId commandId sizePayload = .error .outOfBounds := by
  have short : claimed.length < headerSize sizePayload := by
    have bounds := headerSize_bounds sizePayload
    have wide : headerSize sizePayload = 9 := if_pos (by omega)
    rw [length, calcTxPacketLength_statusNone]
    omega
  have outside : writeAt claimed 0 (headerBytes tr.protocolVersion (lengthFlags sizePayload)
      vendorId commandId sizePayload) = .error .outOfBounds :=
    if_neg (by rw [headerBytes_lengthFlags, Nat.zero_add]; exact Nat.not_le.mpr short)
  unfold RfcommTx.createPacket
  simp only [claims]
  rw [setPacketHeader, headerFlags_eq allowed, ok_bind]
  dsimp only
  rw [outside]
  rfl

theorem flushesRight_iff_of_allowed (allowed : 4 ≤ tr.protocolVersion ∨ sizePayload ≤ 255)
    (smaller : payload.length ≤ sizePayload) (small : sizePayload < 2 ^ 16) :
    FlushesRight tr vendorId commandId sizePayload payload ↔
      sizePayload ≤ 65526 ∧ (payload.length = sizePayload ∨
        payload = [] ∧ 8 ≤ sizePayload ∧ sizePayload ≤ 255) := by
  have uint16 : headerSize sizePayload + sizePayload < 2 ^ 16 ↔ sizePayload ≤ 65526 := by
    unfold headerSize
    split <;> omega
  rw [← uint16]
  constructor
  · intro right
    have once := right (fun size => some (List.replicate size 0)) fun size claimed claims => by
      rw [← Option.some.inj claims, List.length_replicate]
    by_cases fits : headerSize sizePayload + sizePayload < 2 ^ 16
    · rw [createPacket_eq vendorId commandId rfl List.length_replicate allowed fits] at once
      obtain panics | ⟨created, pktPtr, creates, flushes⟩ := once
      · contradiction
      · cases creates
        refine ⟨fits, ?_⟩
        by_cases whole : payload.length = sizePayload
        · exact .inl whole
        · refine .inr ((writeAndFlush_less_iff vendorId commandId ?_ allowed
            (Nat.lt_of_le_of_ne smaller whole) fits).mp (flushes _ rfl))
          rw [List.length_drop, List.length_replicate, Nat.add_sub_cancel_left]
    · rw [createPacket_wraps vendorId commandId rfl List.length_replicate allowed small
        (Nat.le_of_not_lt fits)] at once
      obtain panics | ⟨created, pktPtr, creates, -⟩ := once
      · cases panics
      · cases creates
  · rintro ⟨fits, sizes⟩ claimData exactly
    right
    cases claims : claimData (headerSize sizePayload + sizePayload) with
    | none =>
      rw [← Nat.mod_eq_of_lt fits, ← calcTxPacketLength_statusNone] at claims
      refine ⟨_, none, createPacket_null vendorId commandId claims, ?_⟩
      intro payloadPtr none
      contradiction
    | some claimed =>
      have length := exactly _ _ claims
      refine ⟨_, _, createPacket_eq vendorId commandId claims length allowed fits, ?_⟩
      intro payloadPtr here
      cases here
      have room : (claimed.drop (headerSize sizePayload)).length = sizePayload := by
        rw [List.length_drop, length, Nat.add_sub_cancel_left]
      by_cases whole : payload.length = sizePayload
      · subst whole
        exact ⟨_, writeAndFlush_whole vendorId commandId room fits,
          sentRight_whole vendorId commandId allowed fits⟩
      · exact (writeAndFlush_less_iff vendorId commandId room allowed
          (Nat.lt_of_le_of_ne smaller whole) fits).mpr (sizes.resolve_left whole)

/-- Apart from sizes that no header can be written for, a packet is right when all of its
space is used, or, within 8 bits, when the payload is empty. -/
theorem flushesRight_iff (tr : RfcommTx) (vendorId commandId : UInt16) (sizePayload : Nat)
    (payload : List UInt8) (small : sizePayload < 2 ^ 16)
    (smaller : payload.length ≤ sizePayload) :
    FlushesRight tr vendorId commandId sizePayload payload ↔
      (255 < sizePayload ∧ ¬ 4 ≤ tr.protocolVersion) ∨
        sizePayload ≤ 65526 ∧ (payload.length = sizePayload ∨
          payload = [] ∧ 8 ≤ sizePayload ∧ sizePayload ≤ 255) := by
  by_cases refused : 255 < sizePayload ∧ ¬ 4 ≤ tr.protocolVersion
  · refine iff_of_true ?_ (.inl refused)
    intro claimData exactly
    cases claims : claimData (calcTxPacketLength sizePayload statusNone) with
    | some claimed => exact .inl (createPacket_panic vendorId commandId claims refused)
    | none =>
      refine .inr ⟨_, none, createPacket_null vendorId commandId claims, ?_⟩
      intro payloadPtr none
      contradiction
  · rw [or_iff_right refused]
    refine flushesRight_iff_of_allowed vendorId commandId ?_ smaller small
    by_contra neither
    rw [not_or, Nat.not_le] at neither
    exact refused ⟨neither.2, neither.1⟩

theorem flushesRight_whole : FlushesRight ⟨4, [], 0⟩ 0x001D 0x0100 2 [1, 2] :=
  (flushesRight_iff ⟨4, [], 0⟩ 0x001D 0x0100 2 [1, 2] (by decide) (by decide)).mpr
    (.inr ⟨by decide, .inl rfl⟩)

/-- Ten bytes of twenty: the field for the length becomes zero. -/
theorem ten_of_twenty : ¬ FlushesRight ⟨4, [], 0⟩ 0x001D 0x0100 20 (List.replicate 10 0) := by
  rw [flushesRight_iff_of_allowed _ _ (.inl (by decide)) (by decide) (by decide)]
  decide

end Flushing

end HeadsetAdk.Gaia
