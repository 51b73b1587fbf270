import HeadsetAdk.Gaia.PacketStream
import HeadsetAdk.Gaia.Rfcomm
import HeadsetAdk.Lib.EventLog

/-! # Packets over RFCOMM are delivered once -/

namespace HeadsetAdk.Gaia

namespace Rfcomm

/-- What arrived has the delivered packets first, in the order they were delivered.  The source
still has the pending ones of them at its start, with each packet that waits to be handled.  If
none waits, none is pending, and without data that are indicated all is delivered. -/
structure InOrder (tr : Rfcomm) (dropped pending : List Received) (left rest : List UInt8) :
    Prop where
  delivered : tr.delivered = dropped ++ pending
  stream : Splits tr.arrived dropped left
  inSource : Splits left pending rest
  kept : tr.source = left ∨ (tr.connected = false ∧ tr.source = [] ∧ pending = [])
  waiting : ∀ packet ∈ tr.waiting, dropped.length ≤ packet ∧ packet < tr.delivered.length
  handled : tr.waiting = [] → pending = []
  complete : tr.waiting = [] → tr.indicated = false → nextPacket rest = none

def DeliversOnce (tr : Rfcomm) : Prop :=
  ∃ dropped pending left rest, tr.InOrder dropped pending left rest

def Calm (appVersion3 : Bool) (source : List UInt8) : Prop :=
  appVersion3 = true ∨ ∀ first ∈ nextPacket source, nextPacket first.2 = none

instance (appVersion3 : Bool) (source : List UInt8) : Decidable (Calm appVersion3 source) :=
  inferInstanceAs (Decidable (_ ∨ ∀ first ∈ nextPacket source, _))

/-- Data arrive while the link is up, in packets whose lengths are `uint16` values, and
whenever the source is read for packets that are handled at once, it has at most one. -/
def Orderly (tr : Rfcomm) : Event → Prop
  | .arrive bytes =>
      tr.connected = true ∧
        allFit ((tr.arrived ++ bytes).length + 1) (tr.arrived ++ bytes) = true
  | .moreData => tr.rxDataPending = 0 → Calm tr.appVersion3 tr.source
  | .packetHandled _ =>
      tr.rxPacketsPending = 1 → Calm tr.appVersion3 (tr.source.drop tr.rxDataPending)
  | .setAppVersion _ => True
  | .sinkSpace _ => True

instance (tr : Rfcomm) (event : Event) : Decidable (tr.Orderly event) :=
  match event with
  | .arrive bytes => inferInstanceAs (Decidable (tr.connected = true ∧
      allFit ((tr.arrived ++ bytes).length + 1) (tr.arrived ++ bytes) = true))
  | .moreData =>
      inferInstanceAs (Decidable (tr.rxDataPending = 0 → Calm tr.appVersion3 tr.source))
  | .packetHandled _ =>
      inferInstanceAs (Decidable (tr.rxPacketsPending = 1 →
        Calm tr.appVersion3 (tr.source.drop tr.rxDataPending)))
  | .setAppVersion _ => isTrue trivial
  | .sinkSpace _ => isTrue trivial

section Invariant

variable {tr : Rfcomm} {dropped pending : List Received} {left rest : List UInt8}

/-- The counts, and that each packet in what arrived has a `uint16` length. -/
structure Counted (tr : Rfcomm) (pending : List Received) (rest : List UInt8) : Prop where
  count : tr.rxPacketsPending = tr.waiting.length
  data : tr.rxDataPending = packetsSize pending
  distinct : tr.waiting.Nodup
  few : tr.waiting.length ≤ maxRxPendingPkts
  small : tr.source.length < 2 ^ 16
  fits : ∀ packets behind, Splits tr.arrived packets behind → Fits behind
  stopped : tr.connected = false → nextPacket rest = none

/-- What the events keep. -/
structure Tracked (tr : Rfcomm) (dropped pending : List Received) (left rest : List UInt8) :
    Prop where
  inOrder : tr.InOrder dropped pending left rest
  counted : tr.Counted pending rest

theorem Tracked.created (appVersion3 : Bool) :
    (Rfcomm.created appVersion3).Tracked [] [] [] [] where
  inOrder :=
    { delivered := rfl
      stream := .none []
      inSource := .none []
      kept := .inl rfl
      waiting := fun packet member => absurd member List.not_mem_nil
      handled := fun _ => rfl
      complete := fun _ _ => rfl }
  counted :=
    { count := rfl
      data := rfl
      distinct := List.nodup_nil
      few := Nat.zero_le _
      small := Nat.two_pow_pos 16
      fits := fun packets behind splits => by
        cases splits with
        | none => exact fun header here => absurd here nofun
        | next first => exact absurd first nofun
      stopped := nofun }

theorem Tracked.nothingWaits (tracked : tr.Tracked dropped [] left rest) : tr.waiting = [] := by
  refine List.eq_nil_iff_forall_not_mem.mpr fun packet member => ?_
  have bounds := tracked.inOrder.waiting packet member
  rw [tracked.inOrder.delivered, List.append_nil] at bounds
  exact absurd bounds.2 (Nat.not_lt.mpr bounds.1)

theorem allFit_fits {data : List UInt8} {packets : List Received} {behind : List UInt8}
    (rounds : Nat) (enough : data.length < rounds) (fit : allFit rounds data = true)
    (splits : Splits data packets behind) : Fits behind := by
  induction rounds generalizing data packets with
  | zero => exact absurd enough (Nat.not_lt_zero _)
  | succ rounds ih =>
    rw [allFit, Bool.and_eq_true] at fit
    cases splits with
    | none => exact of_decide_eq_true fit.1
    | next first others =>
      obtain ⟨length, long, -⟩ := nextPacket_length first
      rw [first] at fit
      exact ih (by omega) fit.2 others

theorem packetsSize_eq_zero (splits : Splits left pending rest)
    (none : packetsSize pending = 0) : pending = [] := by
  cases splits with
  | none => rfl
  | next first others =>
    obtain ⟨-, long, -⟩ := nextPacket_length first
    rw [packetsSize] at none
    omega

theorem rest_eq_drop (splits : Splits left pending rest) :
    rest = left.drop (packetsSize pending) := by
  induction splits with
  | none data => rfl
  | next first _ ih =>
    rw [packetsSize, ← List.drop_drop, ← (nextPacket_length first).2.2, ← ih]

structure Ready (tr : Rfcomm) (dropped : List Received) (left : List UInt8) : Prop where
  delivered : tr.delivered = dropped
  stream : Splits tr.arrived dropped left
  kept : tr.source = left ∨ (tr.connected = false ∧ tr.source = [])
  waiting : tr.waiting = []
  count : tr.rxPacketsPending = 0
  data : tr.rxDataPending = 0
  small : tr.source.length < 2 ^ 16
  fits : ∀ packets behind, Splits tr.arrived packets behind → Fits behind
  stopped : tr.connected = false → nextPacket left = none

structure ReadTo (tr : Rfcomm) (dropped pending : List Received)
    (left rest : List UInt8) : Prop where
  tracked : tr.Tracked dropped pending left rest
  ended : tr.waiting = [] → nextPacket rest = none

theorem Ready.nothing (ready : tr.Ready dropped left) (nothing : nextPacket left = none) :
    tr.ReadTo dropped [] left left where
  tracked :=
    { inOrder :=
        { delivered := by rw [ready.delivered, List.append_nil]
          stream := ready.stream
          inSource := .none left
          kept := ready.kept.imp_right fun lost => ⟨lost.1, lost.2, rfl⟩
          waiting := fun packet member => absurd (ready.waiting ▸ member) List.not_mem_nil
          handled := fun _ => rfl
          complete := fun _ _ => nothing }
      counted :=
        { ready with
          count := by rw [ready.count, ready.waiting]; rfl
          distinct := by rw [ready.waiting]; exact List.nodup_nil
          few := by rw [ready.waiting]; exact Nat.zero_le _
          stopped := fun _ => nothing } }
  ended := fun _ => nothing

theorem ReadTo.errorInd (read : tr.ReadTo dropped pending left rest)
    (nothing : nextPacket rest = none) : tr.errorInd.ReadTo dropped pending left rest where
  tracked :=
    { inOrder :=
        { read.tracked.inOrder with
          kept := read.tracked.inOrder.kept.imp_right fun lost => ⟨rfl, lost.2⟩ }
      counted :=
        { read.tracked.counted with
          stopped := fun _ => nothing } }
  ended := read.ended

end Invariant

section Receiving

variable {tr : Rfcomm} {dropped : List Received} {left behind : List UInt8}
  {received : Received}

theorem receivePacket_eq_loop (nested : Nat) (idle : tr.rxDataPending = 0)
    (some : tr.source ≠ []) :
    tr.receivePacket (nested + 1) =
      (receiveLoop (processCommand fun next => next.receivePacket nested)
        (tr.source.length + 1) tr.source 0 (.ok tr)).bind afterReceive :=
  if_pos ⟨idle, some⟩

theorem receivePacket_nothing (nested : Nat) (nothing : nextPacket tr.source = none)
    (fits : Fits tr.source) :
    tr.receivePacket (nested + 1) = .ok tr ∨
      tr.receivePacket (nested + 1) = .ok tr.errorInd := by
  rw [receivePacket]
  split
  · obtain ⟨error, loop⟩ := receiveLoop_none
      (processCommand fun next => next.receivePacket nested) tr.source.length 0
      (Except.ok tr) nothing fits.not_wraps
    rw [Gaia.receivePacket, loop]
    cases error with
    | none => exact .inl rfl
    | some error => exact .inr rfl
  · exact .inl rfl

/-- A packet for an application of version 3 waits. -/
def later (tr : Rfcomm) (received : Received) : Rfcomm :=
  { tr.pend received with waiting := tr.waiting ++ [tr.delivered.length] }

theorem processCommand_later (tr : Rfcomm) (receivePacket : Rfcomm → Except Fault Rfcomm)
    (version3 : tr.appVersion3 = true) :
    processCommand receivePacket (.ok tr) received =
      (decide ((tr.rxPacketsPending + 1) % 2 ^ 8 < maxRxPendingPkts), .ok (tr.later received)) := by
  have waits : gaiaProcessCommand receivePacket (tr.pend received) tr.delivered.length =
      .ok (tr.later received) := by
    rw [gaiaProcessCommand, if_pos (show (tr.pend received).appVersion3 = true from version3)]
    rfl
  rw [processCommand.eq_def]
  dsimp only [Except.bind]
  rw [waits]
  rfl

structure Filling (next : Rfcomm) (dropped pending : List Received)
    (left rest : List UInt8) : Prop where
  delivered : next.delivered = dropped ++ pending
  stream : Splits next.arrived dropped left
  inSource : Splits left pending rest
  source : next.source = left
  waiting : ∀ packet ∈ next.waiting, dropped.length ≤ packet ∧ packet < next.delivered.length
  count : next.rxPacketsPending = next.waiting.length
  waits : next.waiting.length = pending.length
  data : next.rxDataPending = packetsSize pending
  distinct : next.waiting.Nodup
  small : next.source.length < 2 ^ 16
  fits : ∀ packets behind, Splits next.arrived packets behind → Fits behind
  connected : next.connected = true

section

variable (ready : tr.Ready dropped left) (next : nextPacket left = some (received, behind))

include ready next

theorem Ready.connected : tr.connected = true := by
  cases up : tr.connected with
  | true => rfl
  | false =>
    rw [ready.stopped up] at next
    contradiction

theorem Ready.source_eq : tr.source = left := by
  rcases ready.kept with same | lost
  · exact same
  · rw [ready.connected next] at lost
    exact absurd lost.1 nofun

theorem Ready.filling :
    tr.Filling dropped [] left left where
  delivered := by rw [ready.delivered, List.append_nil]
  stream := ready.stream
  inSource := .none left
  source := ready.source_eq next
  waiting := fun packet member => absurd (ready.waiting ▸ member) List.not_mem_nil
  count := by rw [ready.count, ready.waiting]; rfl
  waits := by rw [ready.waiting]; rfl
  data := ready.data
  distinct := by rw [ready.waiting]; exact List.nodup_nil
  small := ready.small
  fits := ready.fits
  connected := ready.connected next

end

variable {next : Rfcomm} {pending : List Received} {rest : List UInt8}

theorem Filling.later (filling : next.Filling dropped pending left rest)
    (found : nextPacket rest = some (received, behind))
    (few : pending.length < maxRxPendingPkts) :
    (next.later received).Filling dropped (pending ++ [received]) left behind := by
  have length := filling.inSource.length
  obtain ⟨restLength, -, -⟩ := nextPacket_length found
  have small := filling.small
  rw [filling.source] at small
  have grown : (next.later received).delivered.length = next.delivered.length + 1 :=
    List.length_append
  have size : ∀ packets : List Received,
      packetsSize (packets ++ [received]) = packetsSize packets + received.pktSize := by
    intro packets
    induction packets with
    | nil => exact Nat.add_comm _ _
    | cons packet packets ih =>
      rw [List.cons_append, packetsSize, packetsSize, ih, Nat.add_assoc]
  constructor
  · change next.delivered ++ [received] = _
    rw [filling.delivered, List.append_assoc]
  · exact filling.stream
  · exact filling.inSource.trans (.next found (.none behind))
  · exact filling.source
  · intro packet member
    rw [grown]
    rcases List.mem_append.mp member with old | new
    · exact ⟨(filling.waiting packet old).1, Nat.lt_succ_of_lt (filling.waiting packet old).2⟩
    · rw [List.mem_singleton.mp new]
      refine ⟨?_, Nat.lt_succ_self _⟩
      rw [filling.delivered, List.length_append]
      exact Nat.le_add_right _ _
  · change (next.rxPacketsPending + 1) % 2 ^ 8 = (next.waiting ++ [_]).length
    rw [filling.count, filling.waits, List.length_append, filling.waits]
    exact Nat.mod_eq_of_lt (by change pending.length < 2 at few; omega)
  · change (next.waiting ++ [_]).length = _
    rw [List.length_append, List.length_append, filling.waits]
    rfl
  · change (next.rxDataPending + received.pktSize) % 2 ^ 16 = _
    rw [filling.data, size]
    exact Nat.mod_eq_of_lt (by omega)
  · change (next.waiting ++ [next.delivered.length]).Nodup
    refine List.nodup_append.mpr ⟨filling.distinct, by simp, ?_⟩
    intro packet old other new same
    rw [List.mem_singleton.mp new] at same
    exact absurd (filling.waiting packet old).2 (by omega)
  · exact filling.small
  · exact filling.fits
  · exact filling.connected

theorem Filling.readTo (filling : next.Filling dropped pending left rest)
    (some : pending ≠ []) (few : pending.length ≤ maxRxPendingPkts) :
    next.ReadTo dropped pending left rest := by
  have waits : next.waiting ≠ [] := fun none => by
    have length := filling.waits
    rw [none] at length
    exact some (List.length_eq_zero_iff.mp length.symm)
  exact
    { tracked :=
        { inOrder :=
            { filling with
              kept := .inl filling.source
              handled := fun none => absurd none waits
              complete := fun none => absurd none waits }
          counted :=
            { filling with
              few := by rw [filling.waits]; exact few
              stopped := fun stopped => by
                rw [filling.connected] at stopped
                contradiction } }
      ended := fun none => absurd none waits }

theorem Ready.firstPacket (ready : tr.Ready dropped left)
    (first : nextPacket left = some (received, behind)) :
    tr.source = left ∧ left.length < 2 ^ 16 ∧ tr.source ≠ [] ∧
      left.length = received.pktSize + behind.length ∧ 8 ≤ received.pktSize ∧
      ∃ rounds, left.length = rounds + 1 := by
  obtain ⟨length, long, -⟩ := nextPacket_length first
  have source := ready.source_eq first
  refine ⟨source, source ▸ ready.small, fun empty => ?_, length, long,
    Nat.exists_eq_succ_of_ne_zero (by omega)⟩
  rw [← source, empty, List.length_nil] at length
  omega

theorem Ready.receive_later (ready : tr.Ready dropped left) (nested : Nat)
    (version3 : tr.appVersion3 = true)
    (first : nextPacket left = some (received, behind)) :
    ∃ next pending rest, tr.receivePacket (nested + 1) = .ok next ∧
      next.ReadTo dropped pending left rest := by
  have one := (ready.filling first).later first Nat.two_pos
  obtain ⟨source, small, nonempty, length, long, rounds, enough⟩ := ready.firstPacket first
  have more : (tr.rxPacketsPending + 1) % 2 ^ 8 < maxRxPendingPkts := by
    rw [ready.count]
    decide
  rw [receivePacket_eq_loop nested ready.data nonempty, source,
    receiveLoop_next _ _ _ _ first (by omega), processCommand_later tr _ version3,
    if_pos (decide_eq_true more), enough]
  cases second : nextPacket behind with
  | none =>
    obtain ⟨error, loop⟩ := receiveLoop_none
      (processCommand fun next => next.receivePacket nested) rounds (0 + received.pktSize)
      (Except.ok (tr.later received)) second (ready.fits _ _
        (ready.stream.trans (.next first (.none behind)))).not_wraps
    rw [loop]
    have read := one.readTo nofun (Nat.le_succ 1)
    cases error with
    | none => exact ⟨_, _, _, rfl, read⟩
    | some error => exact ⟨_, _, _, rfl, read.errorInd second⟩
  | some found =>
    have two := one.later second Nat.one_lt_two
    have secondLength := (nextPacket_length second).1
    have enoughPackets :
        ¬ ((tr.later received).rxPacketsPending + 1) % 2 ^ 8 < maxRxPendingPkts := by
      rw [one.count, one.waits]
      exact Nat.lt_irrefl 2
    rw [receiveLoop_next _ _ _ _ second (by omega),
      processCommand_later (tr.later received) _ version3,
      if_neg fun more => enoughPackets (of_decide_eq_true more)]
    exact ⟨_, _, _, rfl, two.readTo nofun (Nat.le_refl 2)⟩

theorem flushInput_eq (tr : Rfcomm) : tr.flushInput = { tr with source := [] } := by
  rw [flushInput, dataConsumed, if_pos (Nat.le_refl _), List.drop_length]

theorem allHandled_eq (inSource : Splits left pending rest) (source : tr.source = left)
    (data : tr.rxDataPending = packetsSize pending) :
    tr.allHandled =
      { tr with source := if tr.connected then rest else [], rxDataPending := 0 } := by
  have enough : tr.rxDataPending ≤ tr.source.length := by
    rw [source, data, inSource.length]
    exact Nat.le_add_right _ _
  have dropped : tr.source.drop tr.rxDataPending = rest := by
    rw [source, data, rest_eq_drop inSource]
  rw [allHandled, dataConsumed, if_pos enough, dropped]
  dsimp only
  cases tr.connected with
  | true => rfl
  | false => exact flushInput_eq _

theorem Ready.of_allHandled (delivered : tr.delivered = dropped ++ pending)
    (stream : Splits tr.arrived dropped left) (inSource : Splits left pending rest)
    (source : tr.source = left) (data : tr.rxDataPending = packetsSize pending)
    (waiting : tr.waiting = []) (count : tr.rxPacketsPending = 0)
    (small : tr.source.length < 2 ^ 16)
    (fits : ∀ packets behind, Splits tr.arrived packets behind → Fits behind)
    (stopped : tr.connected = false → nextPacket rest = none) :
    tr.allHandled.Ready (dropped ++ pending) rest := by
  rw [allHandled_eq inSource source data]
  have length := inSource.length
  rw [source] at small
  constructor
  · exact delivered
  · exact stream.trans inSource
  · cases up : tr.connected with
    | true => exact .inl rfl
    | false => exact .inr ⟨rfl, rfl⟩
  · exact waiting
  · exact count
  · rfl
  · change (if tr.connected = true then rest else []).length < 2 ^ 16
    split
    · omega
    · exact Nat.two_pow_pos 16
  · exact fits
  · exact stopped

theorem Calm.of_allHandled (inSource : Splits left pending rest) (source : tr.source = left)
    (data : tr.rxDataPending = packetsSize pending)
    (calm : Calm tr.appVersion3 (tr.source.drop tr.rxDataPending)) :
    Calm tr.allHandled.appVersion3 tr.allHandled.source := by
  rw [allHandled_eq inSource source data]
  rw [data, source, ← rest_eq_drop inSource] at calm
  refine calm.imp_right fun alone first found => ?_
  change first ∈ nextPacket (if tr.connected = true then rest else []) at found
  split at found
  · exact alone first found
  · exact absurd found nofun

theorem Ready.fits_source (ready : tr.Ready dropped left) : Fits tr.source := by
  rcases ready.kept with same | lost
  · exact same ▸ ready.fits dropped left ready.stream
  · rw [lost.2]
    exact fun header here => absurd here nofun

theorem Ready.nextPacket_source (ready : tr.Ready dropped left)
    (nothing : nextPacket left = none) : nextPacket tr.source = none := by
  rcases ready.kept with same | lost
  · rw [same, nothing]
  · rw [lost.2]
    rfl

theorem Ready.receive_nothing (ready : tr.Ready dropped left) (nested : Nat)
    (nothing : nextPacket left = none) :
    ∃ next, tr.receivePacket (nested + 1) = .ok next ∧
      next.ReadTo dropped [] left left := by
  rcases receivePacket_nothing nested (ready.nextPacket_source nothing) ready.fits_source with
    same | failed
  · exact ⟨tr, same, ready.nothing nothing⟩
  · exact ⟨tr.errorInd, failed, (ready.nothing nothing).errorInd nothing⟩

theorem sendAck_eq (tr : Rfcomm) :
    ∃ connected acksFit, tr.sendAck = { tr with connected := connected, acksFit := acksFit } ∧
      (connected = false ∨ connected = tr.connected) := by
  rw [sendAck]
  split
  · exact ⟨false, tr.acksFit, rfl, .inl rfl⟩
  · exact ⟨tr.connected, _, rfl, .inr rfl⟩

theorem Ready.receive_atOnce (ready : tr.Ready dropped left) (nested : Nat)
    (version2 : tr.appVersion3 = false)
    (first : nextPacket left = some (received, behind)) (alone : nextPacket behind = none) :
    ∃ next, tr.receivePacket (nested + 2) = .ok next ∧
      next.ReadTo (dropped ++ [received]) [] behind behind := by
  obtain ⟨source, small, nonempty, length, long, rounds, enough⟩ := ready.firstPacket first
  obtain ⟨connected, acksFit, acked, -⟩ := (tr.pend received).sendAck_eq
  have pended : (0 + 1) % 2 ^ 8 = 1 ∧ (0 + received.pktSize) % 2 ^ 16 = received.pktSize :=
    ⟨rfl, by rw [Nat.zero_add]; exact Nat.mod_eq_of_lt (by omega)⟩
  have one : (tr.pend received).sendAck.rxPacketsPending = 1 := by
    rw [acked, ← pended.1, ← ready.count]
    rfl
  have handled : ({ (tr.pend received).sendAck with
      rxPacketsPending := 0 } : Rfcomm).allHandled.Ready (dropped ++ [received]) behind := by
    rw [acked]
    refine .of_allHandled ?_ ready.stream (.next first (.none behind)) source ?_
      ready.waiting rfl ready.small ready.fits fun _ => alone
    · change tr.delivered ++ [received] = _
      rw [ready.delivered]
    · rw [packetsSize, packetsSize, Nat.add_zero, ← pended.2, ← ready.data]
      rfl
  obtain ⟨next, receives, read⟩ := handled.receive_nothing nested alone
  have processed : processCommand (fun next => next.receivePacket (nested + 1)) (.ok tr)
      received = (true, .ok next) := by
    have steps : packetHandled (fun next => next.receivePacket (nested + 1))
        (tr.pend received).sendAck = .ok next := by
      rw [packetHandled, one, if_neg Nat.one_ne_zero, if_pos rfl, receives]
    have later : ¬ (tr.pend received).appVersion3 = true := by
      rw [show (tr.pend received).appVersion3 = false from version2]
      exact Bool.false_ne_true
    have none : next.rxPacketsPending = 0 := by
      rw [read.tracked.counted.count]
      exact List.length_eq_zero_iff.mpr (read.tracked.nothingWaits)
    rw [processCommand.eq_def]
    dsimp only [Except.bind]
    rw [gaiaProcessCommand, if_neg later, steps]
    dsimp only
    rw [none]
    rfl
  obtain ⟨error, loop⟩ := receiveLoop_none
    (processCommand fun next => next.receivePacket (nested + 1)) rounds (0 + received.pktSize)
    (Except.ok next) alone
    (ready.fits _ _ (ready.stream.trans (.next first (.none behind)))).not_wraps
  rw [receivePacket_eq_loop (nested + 1) ready.data nonempty, source,
    receiveLoop_next _ _ _ _ first (by omega), processed, if_pos rfl, enough, loop]
  cases error with
  | none => exact ⟨_, rfl, read⟩
  | some error => exact ⟨_, rfl, read.errorInd alone⟩

theorem Ready.receive (ready : tr.Ready dropped left) (nested : Nat)
    (calm : Calm tr.appVersion3 tr.source) :
    ∃ next dropped pending left rest, tr.receivePacket (nested + 2) = .ok next ∧
      next.ReadTo dropped pending left rest := by
  cases first : nextPacket left with
  | none =>
    obtain ⟨next, receives, read⟩ := ready.receive_nothing (nested + 1) first
    exact ⟨next, _, _, _, _, receives, read⟩
  | some found =>
    cases version : tr.appVersion3 with
    | true =>
      obtain ⟨next, pending, rest, receives, read⟩ := ready.receive_later (nested + 1) version first
      exact ⟨next, _, _, _, _, receives, read⟩
    | false =>
      have alone : nextPacket found.2 = none := by
        rcases calm with version3 | alone
        · rw [version] at version3
          contradiction
        · exact alone found (by rw [ready.source_eq first]; exact first)
      obtain ⟨next, receives, read⟩ := ready.receive_atOnce nested version first alone
      exact ⟨next, _, _, _, _, receives, read⟩

end Receiving

section Events

variable {tr next : Rfcomm} {dropped pending : List Received} {left rest : List UInt8}

section

variable (tracked : tr.Tracked dropped pending left rest)

include tracked

theorem Tracked.ready (idle : tr.rxDataPending = 0) : tr.Ready dropped left := by
  have none : pending = [] :=
    packetsSize_eq_zero tracked.inOrder.inSource (tracked.counted.data ▸ idle)
  subst none
  have same : rest = left := rest_eq_drop tracked.inOrder.inSource
  exact
    { tracked.counted with
      delivered := by rw [tracked.inOrder.delivered, List.append_nil]
      stream := tracked.inOrder.stream
      kept := tracked.inOrder.kept.imp_right fun lost => ⟨lost.1, lost.2.1⟩
      waiting := tracked.nothingWaits
      count := by rw [tracked.counted.count, tracked.nothingWaits]; rfl
      data := idle
      stopped := same ▸ tracked.counted.stopped }

theorem Tracked.indicate (waits : tr.waiting ≠ []) (indicated : Bool) :
    ({ tr with indicated := indicated } : Rfcomm).Tracked dropped pending left rest where
  inOrder :=
    { tracked.inOrder with
      complete := fun none => absurd none waits }
  counted :=
    { tracked.counted with
      stopped := tracked.counted.stopped }

theorem Tracked.arrive {bytes : List UInt8}
    (orderly : tr.Orderly (.arrive bytes)) (happens : tr.Happens (.arrive bytes)) :
    ∃ next, tr.handle (.arrive bytes) = .ok next ∧
      next.Tracked dropped pending (left ++ bytes) (rest ++ bytes) := by
  have source : tr.source = left := by
    rcases tracked.inOrder.kept with same | lost
    · exact same
    · rw [orderly.1] at lost
      exact absurd lost.1 nofun
  refine ⟨_, rfl, ?_, ?_⟩
  · exact
      { tracked.inOrder with
        stream := tracked.inOrder.stream.more bytes
        inSource := tracked.inOrder.inSource.more bytes
        kept := .inl (congrArg (· ++ bytes) source)
        complete := fun _ => nofun }
  · exact
      { tracked.counted with
        small := by
          change (tr.source ++ bytes).length < 2 ^ 16
          rw [List.length_append]
          exact happens
        fits := fun packets behind splits =>
          allFit_fits _ (Nat.lt_succ_self _) orderly.2 splits
        stopped := fun stopped => by
          have up := orderly.1
          rw [show tr.connected = false from stopped] at up
          contradiction }

theorem Tracked.moreData (orderly : tr.Orderly .moreData) :
    ∃ next dropped pending left rest, tr.handle .moreData = .ok next ∧
      next.Tracked dropped pending left rest := by
  by_cases idle : tr.rxDataPending = 0
  · have ready := tracked.ready idle
    have unindicated : ({ tr with indicated := false } : Rfcomm).Ready dropped left :=
      { ready with }
    obtain ⟨next, _, _, _, _, receives, read⟩ := unindicated.receive tr.source.length (orderly idle)
    exact ⟨next, _, _, _, _, receives, read.tracked⟩
  · have waits : tr.waiting ≠ [] := fun none => by
      rw [tracked.counted.data, tracked.inOrder.handled none] at idle
      exact idle rfl
    refine ⟨_, dropped, pending, left, rest, ?_, tracked.indicate waits false⟩
    exact if_neg fun both => idle both.1

theorem Tracked.packetHandled {packet : Nat} (orderly : tr.Orderly (.packetHandled packet))
    (happens : tr.Happens (.packetHandled packet)) :
    ∃ next dropped pending left rest, tr.handle (.packetHandled packet) = .ok next ∧
      next.Tracked dropped pending left rest := by
  have waits : packet ∈ tr.waiting := happens
  have erased : (tr.waiting.erase packet).length + 1 = tr.waiting.length := by
    rw [List.length_erase_of_mem waits]
    exact Nat.succ_pred_eq_of_pos (List.length_pos_of_mem waits)
  have some : pending ≠ [] := fun none => by
    subst none
    rw [tracked.nothingWaits] at waits
    exact absurd waits List.not_mem_nil
  have source : tr.source = left := by
    rcases tracked.inOrder.kept with same | lost
    · exact same
    · exact absurd lost.2.2 some
  by_cases last : tr.waiting.length = 1
  · have count : tr.rxPacketsPending = 1 := tracked.counted.count.trans last
    have none : tr.waiting.erase packet = [] := List.length_eq_zero_iff.mp (by omega)
    have ready : ({ tr with
        waiting := tr.waiting.erase packet
        rxPacketsPending := 0 } : Rfcomm).allHandled.Ready (dropped ++ pending) rest :=
      .of_allHandled tracked.inOrder.delivered tracked.inOrder.stream
        tracked.inOrder.inSource source tracked.counted.data none rfl tracked.counted.small
        tracked.counted.fits tracked.counted.stopped
    obtain ⟨next, _, _, _, _, receives, read⟩ := ready.receive tr.source.length
      (.of_allHandled tracked.inOrder.inSource source tracked.counted.data (orderly count))
    refine ⟨next, _, _, _, _, ?_, read.tracked⟩
    change Rfcomm.packetHandled _ _ = _
    rw [Rfcomm.packetHandled, if_neg (show tr.rxPacketsPending ≠ 0 by omega), if_pos count]
    exact receives
  · have more : 0 < (tr.waiting.erase packet).length := by
      have positive := List.length_pos_of_mem waits
      omega
    have other : tr.waiting.erase packet ≠ [] := List.ne_nil_of_length_pos more
    have count : tr.rxPacketsPending ≠ 0 ∧ tr.rxPacketsPending ≠ 1 := by
      rw [tracked.counted.count]
      omega
    refine ⟨{ tr with
      waiting := tr.waiting.erase packet
      rxPacketsPending := tr.rxPacketsPending - 1 }, dropped, pending, left, rest, ?_, ?_, ?_⟩
    · change Rfcomm.packetHandled _ _ = _
      rw [Rfcomm.packetHandled, if_neg count.1, if_neg count.2]
    · exact
        { tracked.inOrder with
          waiting := fun kept member =>
            tracked.inOrder.waiting kept (List.mem_of_mem_erase member)
          handled := fun none => absurd none other
          complete := fun none => absurd none other }
    · exact
        { tracked.counted with
          count := by
            change tr.rxPacketsPending - 1 = (tr.waiting.erase packet).length
            rw [tracked.counted.count]
            omega
          distinct := tracked.counted.distinct.erase packet
          few := by
            have few := tracked.counted.few
            change (tr.waiting.erase packet).length ≤ _
            omega
          stopped := tracked.counted.stopped }

theorem Tracked.step {event : Event} (orderly : tr.Orderly event) (happens : tr.Happens event) :
    ∃ next dropped pending left rest, tr.step event = some next ∧
      next.Tracked dropped pending left rest := by
  have handled : ∃ next dropped pending left rest, tr.handle event = .ok next ∧
      next.Tracked dropped pending left rest := by
    cases event with
    | arrive bytes =>
      obtain ⟨next, handles, tracked⟩ := tracked.arrive orderly happens
      exact ⟨next, _, _, _, _, handles, tracked⟩
    | moreData => exact tracked.moreData orderly
    | packetHandled packet => exact tracked.packetHandled orderly happens
    | setAppVersion version3 =>
      exact ⟨_, dropped, pending, left, rest, rfl, ⟨{ tracked.inOrder with },
        { tracked.counted with }⟩⟩
    | sinkSpace acksFit =>
      exact ⟨_, dropped, pending, left, rest, rfl, ⟨{ tracked.inOrder with },
        { tracked.counted with }⟩⟩
  obtain ⟨next, _, _, _, _, handles, tracked⟩ := handled
  exact ⟨next, _, _, _, _, by rw [Rfcomm.step, if_pos happens, handles]; rfl, tracked⟩

end

end Events

section Runs

variable {appVersion3 : Bool} {events : List Event} {tr : Rfcomm}

/-- The invariant, for some of the packets and bytes. -/
def Sound (tr : Rfcomm) : Prop :=
  ∃ dropped pending left rest, tr.Tracked dropped pending left rest

/-- In orderly runs each packet is delivered once, in order and from the source, and the
next orderly event that happens is handled too. -/
theorem run_deliversOnce
    (runs : runAllowed step Orderly events (created appVersion3) = some tr) :
    tr.DeliversOnce ∧
      ∀ event, tr.Orderly event → tr.Happens event → ∃ next, tr.step event = some next := by
  have sound : tr.Sound := by
    refine (Reached.run .start runs).invariant ⟨_, _, _, _, .created appVersion3⟩ ?_
    rintro tr event next orderly steps ⟨dropped, pending, left, rest, tracked⟩
    by_cases happens : tr.Happens event
    · obtain ⟨after, _, _, _, _, same, tracked⟩ := tracked.step orderly happens
      rw [steps, Option.some.injEq] at same
      exact ⟨_, _, _, _, same ▸ tracked⟩
    · rw [step, if_neg happens] at steps
      contradiction
  obtain ⟨dropped, pending, left, rest, tracked⟩ := sound
  refine ⟨⟨dropped, pending, left, rest, tracked.inOrder⟩, fun event orderly happens => ?_⟩
  obtain ⟨next, _, _, _, _, steps, -⟩ := tracked.step orderly happens
  exact ⟨next, steps⟩

def twoCommands : List UInt8 :=
  [0xFF, 0x03, 0x00, 0x00, 0x00, 0x1D, 0x03, 0x00, 0xFF, 0x03, 0x00, 0x00, 0x00, 0x1D, 0x03, 0x01]

/-- The two commands arrive in three parts, and the second is handled first; then the
application is one of version 2, and a command is handled at once. -/
def splitCommands : List Event :=
  [.arrive (twoCommands.take 11), .moreData, .arrive (twoCommands.drop 11), .moreData,
    .packetHandled 0, .arrive twoCommands, .packetHandled 1, .moreData, .packetHandled 3,
    .packetHandled 2, .setAppVersion false, .sinkSpace 1, .arrive (twoCommands.take 13),
    .moreData]

theorem splitCommands_deliveredOnce :
    ∃ tr, runAllowed step Orderly splitCommands (created true) = some tr ∧
      (tr.DeliversOnce ∧
        ∀ event, tr.Orderly event → tr.Happens event → ∃ next, tr.step event = some next) := by
  have found : (runAllowed step Orderly splitCommands (created true)).isSome = true := by
    decide +kernel
  obtain ⟨tr, runs⟩ := Option.isSome_iff_exists.mp found
  exact ⟨tr, runs, run_deliversOnce runs⟩

/-- Two commands are in the source, and are handled at once: the second is handed over twice. -/
theorem handledAtOnce_deliveredTwice :
    ∃ tr, [Event.sinkSpace 3, .arrive twoCommands, .moreData].foldlM step (created false) =
        some tr ∧
      tr.delivered.map Received.commandId = [0x0300, 0x0301, 0x0301] ∧
      tr.source = [] ∧ ¬ tr.DeliversOnce := by
  have found : ([Event.sinkSpace 3, .arrive twoCommands, .moreData].foldlM step
      (created false)).any (fun tr => decide
        (tr.delivered.map Received.commandId = [0x0300, 0x0301, 0x0301] ∧ tr.source = [] ∧
          tr.arrived.length = 16 ∧ packetsSize tr.delivered = 24)) = true := by
    decide +kernel
  obtain ⟨tr, runs, shown⟩ := (Option.any_eq_true _ _).mp found
  obtain ⟨delivered, source, arrived, size⟩ := of_decide_eq_true shown
  refine ⟨tr, runs, delivered, source, ?_⟩
  rintro ⟨dropped, pending, left, rest, inOrder⟩
  have length := (inOrder.stream.trans inOrder.inSource).length
  rw [← inOrder.delivered, size, arrived] at length
  omega

end Runs

end Rfcomm

end HeadsetAdk.Gaia
