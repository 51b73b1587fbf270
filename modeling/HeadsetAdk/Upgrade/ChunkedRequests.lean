import HeadsetAdk.Upgrade.Transfer

/-! # Requests within the limit of the transport -/

namespace HeadsetAdk.Upgrade

namespace UpgradeCtx

/-- `UpgradePartitionDataGetNextReqSize`, with the largest request of the transport, or zero
where there is no limit. -/
def getNextReqSizeWithin (maxRequestSize : Nat) (ctx : UpgradeCtx) : Nat × UpgradeCtx :=
  let size := sub32 ctx.totalReqSize ctx.totalReceivedSize
  if maxRequestSize ≠ 0 then
    let size := if size > maxRequestSize then maxRequestSize else size
    if ctx.chunkReceivedSize > 0 then
      if ctx.chunkReceivedSize < maxRequestSize then (0, ctx)
      else (size, { ctx with chunkReceivedSize := 0 })
    else (size, ctx)
  else ctx.getNextReqSize

def counts (ctx : UpgradeCtx) : Nat × Nat × Nat :=
  (ctx.totalReqSize, ctx.totalReceivedSize, ctx.chunkReceivedSize)

section Counts

variable {firmware : Firmware} {ctx : UpgradeCtx} {keyCache data : List UInt8}
  {answer : HostErrorCode × UpgradeCtx}

theorem parseIncomplete_counts (incomplete : ctx.totalReceivedSize ≠ ctx.totalReqSize)
    (parsed : ctx.parseIncomplete firmware keyCache data = some answer) :
    answer.2.counts = ctx.counts := by
  rw [parseIncomplete] at parsed
  split at parsed
  · cases parsed
    rfl
  · cases parsed
    rfl

theorem handleDataState_counts
    (handled : ctx.handleDataState firmware data false = some answer) :
    answer.2.counts = ctx.counts := by
  obtain ⟨written, wrote, rfl⟩ := Option.map_eq_some_iff.mp handled
  obtain ⟨flash, same⟩ := partitionWrite_withFlash wrote
  dsimp only
  rw [if_neg Bool.false_ne_true, same]
  split <;> rfl

theorem handleFooterState_counts
    (handled : ctx.handleFooterState firmware keyCache data false = some answer) :
    answer.2.counts = ctx.counts := by
  rw [handleFooterState] at handled
  split at handled
  · cases handled
    rfl
  · obtain ⟨saved, stored, rfl⟩ := Option.map_eq_some_iff.mp handled
    obtain ⟨store, _, rfl⟩ := Option.map_eq_some_iff.mp stored
    dsimp only
    split <;> rfl

theorem parse_counts (more : (ctx.receive data.length).totalReceivedSize < ctx.totalReqSize)
    (parsed : ctx.parse firmware keyCache data = some answer) :
    answer.2.counts = (ctx.receive data.length).counts := by
  have incomplete : (ctx.receive data.length).totalReceivedSize ≠
    (ctx.receive data.length).totalReqSize := Nat.ne_of_lt more
  rw [UpgradeCtx.parse, if_neg (Nat.lt_asymm more : ¬ _ > (ctx.receive data.length).totalReqSize),
    if_neg incomplete] at parsed
  split at parsed
  · exact parseIncomplete_counts incomplete parsed
  · rw [parsePart] at parsed
    split at parsed
    · exact parseIncomplete_counts incomplete parsed
    · exact parseIncomplete_counts incomplete parsed
    · exact parseIncomplete_counts incomplete parsed
    · exact handleDataState_counts parsed
    · exact handleFooterState_counts parsed

end Counts

end UpgradeCtx

/-- A component while it arrives: the context, the sum of the sizes from
`UpgradePartitionDataGetNextReqSize` before its last call, the size from that call, and the
bytes that arrived. -/
structure Chunking where
  ctx : UpgradeCtx
  before : Nat
  size : Nat
  received : Nat

namespace Chunking

def asked (component : Chunking) : Nat := component.before + component.size

/-- The first call, after `UpgradePartitionDataRequestData`. -/
def request (maxRequestSize : Nat) (ctx : UpgradeCtx) (total offset : Nat) : Chunking :=
  let (size, ctx) := (ctx.requestData total offset).getNextReqSizeWithin maxRequestSize
  ⟨ctx, 0, size, 0⟩

/-- The call after a packet, which left the context `ctx`. -/
def next (maxRequestSize : Nat) (component : Chunking) (ctx : UpgradeCtx) (arrived : Nat) :
    Chunking :=
  let (size, ctx) := ctx.getNextReqSizeWithin maxRequestSize
  ⟨ctx, component.asked, size, component.received + arrived⟩

/-- A component of `total` bytes, as the host answers its requests, with packets that `arrive` in
some way. -/
inductive Reached (firmware : Firmware) (maxRequestSize total : Nat)
    (arrive : UpgradeCtx → List UInt8 → Prop) : Chunking → Prop
  | request (ctx : UpgradeCtx) (offset : Nat) :
      Reached firmware maxRequestSize total arrive (request maxRequestSize ctx total offset)
  | packet {component : Chunking} {ctx : UpgradeCtx} (keyCache data : List UInt8)
      (reached : Reached firmware maxRequestSize total arrive component)
      (arrives : arrive component.ctx data)
      (answers : component.received + data.length ≤ component.asked)
      (more : component.received + data.length < total)
      (parsed : component.ctx.parse firmware keyCache data = some (.success, ctx)) :
      Reached firmware maxRequestSize total arrive
        (component.next maxRequestSize ctx data.length)

/-- The requests neither overlap nor stall. -/
structure InChunks (maxRequestSize total : Nat) (component : Chunking) : Prop where
  within : component.size ≤ maxRequestSize
  apart : component.size ≠ 0 → component.received = component.before
  moves : component.received = component.before → component.received < total →
    component.size ≠ 0
  completes : ∀ arrived, component.received + arrived ≤ component.asked →
    component.received + arrived = total → component.asked = total

/-- A packet that comes before any other of its chunk is not empty. -/
def Filled (ctx : UpgradeCtx) (data : List UInt8) : Prop :=
  ctx.chunkReceivedSize = 0 → data ≠ []

section Runs

variable {firmware : Firmware} {maxRequestSize total : Nat} {component : Chunking}

structure Tracks (maxRequestSize total : Nat) (component : Chunking) : Prop where
  counts : ∃ chunks chunk, component.received = chunks + chunk ∧
    component.ctx.counts = (total, component.received, chunk) ∧
    component.asked = chunks + min (total - chunks) maxRequestSize
  owed : component.received < component.asked

/-- A call once `chunks + chunk` bytes have arrived. -/
theorem getNextReqSizeWithin_eq {ctx : UpgradeCtx} {received chunk : Nat}
    (limit : 0 < maxRequestSize) (small : total < 2 ^ 32) (more : received < total)
    (counts : ctx.counts = (total, received, chunk)) :
    ctx.getNextReqSizeWithin maxRequestSize = if 0 < chunk ∧ chunk < maxRequestSize then (0, ctx)
      else (min (total - received) maxRequestSize, { ctx with chunkReceivedSize := 0 }) := by
  obtain ⟨rfl, rfl, rfl⟩ : ctx.totalReqSize = total ∧ ctx.totalReceivedSize = received ∧
      ctx.chunkReceivedSize = chunk := by
    simpa only [UpgradeCtx.counts, Prod.mk.injEq] using counts
  have left : sub32 ctx.totalReqSize ctx.totalReceivedSize =
      ctx.totalReqSize - ctx.totalReceivedSize := by
    rw [sub32]
    omega
  have size : (if ctx.totalReqSize - ctx.totalReceivedSize > maxRequestSize then maxRequestSize
      else ctx.totalReqSize - ctx.totalReceivedSize) =
        min (ctx.totalReqSize - ctx.totalReceivedSize) maxRequestSize := by
    split <;> omega
  rw [UpgradeCtx.getNextReqSizeWithin]
  dsimp only
  rw [if_pos (Nat.ne_of_gt limit), left, size]
  by_cases begun : 0 < ctx.chunkReceivedSize
  · rw [if_pos begun]
    by_cases within : ctx.chunkReceivedSize < maxRequestSize
    · rw [if_pos within, if_pos ⟨begun, within⟩]
    · rw [if_neg within, if_neg fun both => within both.2]
  · have same : { ctx with chunkReceivedSize := 0 } = ctx := by
      rw [← Nat.eq_zero_of_not_pos begun]
    rw [if_neg begun, if_neg fun both => begun both.1, same]

theorem request_inChunks (limit : 0 < maxRequestSize) (some : 0 < total)
    (small : total < 2 ^ 32) (ctx : UpgradeCtx) (offset : Nat) :
    Tracks maxRequestSize total (request maxRequestSize ctx total offset) ∧
      InChunks maxRequestSize total (request maxRequestSize ctx total offset) := by
  have called := getNextReqSizeWithin_eq limit small some
    (rfl : (ctx.requestData total offset).counts = (total, 0, 0))
  rw [if_neg fun both => Nat.lt_irrefl 0 both.1] at called
  rw [request, called]
  dsimp only
  refine ⟨⟨⟨0, 0, rfl, rfl, rfl⟩, ?_⟩, Nat.min_le_right _ _, fun _ => rfl, fun _ _ => ?_,
    fun arrived => ?_⟩
  all_goals
    dsimp only [asked]
    omega

theorem Tracks.packet (tracks : Tracks maxRequestSize total component) (limit : 0 < maxRequestSize)
    (small : total < 2 ^ 32) {ctx : UpgradeCtx} {keyCache data : List UInt8}
    (filled : Filled component.ctx data)
    (answers : component.received + data.length ≤ component.asked)
    (more : component.received + data.length < total)
    (parsed : component.ctx.parse firmware keyCache data = some (.success, ctx)) :
    Tracks maxRequestSize total (component.next maxRequestSize ctx data.length) ∧
      InChunks maxRequestSize total (component.next maxRequestSize ctx data.length) := by
  obtain ⟨⟨chunks, chunk, received, counts, askedFor⟩, owed⟩ := tracks
  obtain ⟨totalReqSize, totalReceived, chunkReceived⟩ :
      component.ctx.totalReqSize = total ∧ component.ctx.totalReceivedSize = component.received ∧
          component.ctx.chunkReceivedSize = chunk := by
    simpa only [UpgradeCtx.counts, Prod.mk.injEq] using counts
  have arrived : (component.ctx.receive data.length).counts =
      (total, component.received + data.length, chunk + data.length) := by
    rw [UpgradeCtx.counts, UpgradeCtx.receive]
    dsimp only
    rw [totalReqSize, totalReceived, chunkReceived, Nat.mod_eq_of_lt (by omega),
      Nat.mod_eq_of_lt (by omega)]
  have counted : ctx.counts = (total, component.received + data.length, chunk + data.length) := by
    rw [← arrived]
    refine UpgradeCtx.parse_counts ?_ parsed
    have same := congrArg (fun counts => counts.2.1) arrived
    dsimp only [UpgradeCtx.counts] at same
    rw [same, totalReqSize]
    exact more
  have begun : 0 < chunk + data.length := by
    by_cases first : chunk = 0
    · exact Nat.add_pos_right _ (List.length_pos_iff.mpr (filled (chunkReceived.trans first)))
    · omega
  have called := getNextReqSizeWithin_eq limit small more counted
  by_cases within : chunk + data.length < maxRequestSize
  · rw [if_pos ⟨begun, within⟩] at called
    rw [next, called]
    dsimp only
    refine ⟨⟨⟨chunks, chunk + data.length, ?_, counted, ?_⟩, ?_⟩, ?_, fun request => ?_,
      fun all => ?_, fun arrived => ?_⟩
    all_goals
      dsimp only [asked] at *
      omega
  · rw [if_neg fun both => within both.2] at called
    rw [next, called]
    dsimp only
    refine ⟨⟨⟨component.received + data.length, 0, rfl, ?_, ?_⟩, ?_⟩, ?_, fun request => ?_,
      fun all => ?_, fun arrived => ?_⟩
    · exact congrArg (fun counts => (counts.1, counts.2.1, 0)) counted
    all_goals
      dsimp only [asked] at *
      omega

/-- A component arrives in chunks, as long as no packet is empty that comes before any other of
its chunk. -/
theorem inChunks_of_filled (limit : 0 < maxRequestSize) (some : 0 < total)
    (small : total < 2 ^ 32)
    (reached : Reached firmware maxRequestSize total Filled component) :
    InChunks maxRequestSize total component := by
  suffices both : Tracks maxRequestSize total component ∧ InChunks maxRequestSize total component
    from both.2
  induction reached with
  | request ctx offset => exact request_inChunks limit some small ctx offset
  | packet keyCache data _ arrives answers more parsed before =>
    exact before.1.packet limit small arrives answers more parsed

end Runs

def headerChunk : UpgradeCtx :=
  ((request 4 plainDevice 12 0).ctx.receive 4).withIncomplete [0x41, 0x50, 0x50, 0x55]

theorem headerChunk_inChunks : InChunks 4 12 ((request 4 plainDevice 12 0).next 4 headerChunk 4) :=
  have reached : Reached plainFirmware 4 12 Filled
      ((request 4 plainDevice 12 0).next 4 headerChunk 4) :=
    .packet [] [0x41, 0x50, 0x50, 0x55] (.request plainDevice 0)
      (fun _ => List.cons_ne_nil _ _) (by decide) (by decide) rfl
  inChunks_of_filled (by decide) (by decide) (by decide) reached

/-- An empty packet before the others is answered with the same request again. -/
theorem emptyPacket_overlaps :
    ¬ ∀ firmware maxRequestSize total component, 0 < maxRequestSize → 0 < total →
      total < 2 ^ 32 → Reached firmware maxRequestSize total (fun _ _ => True) component →
        InChunks maxRequestSize total component := by
  intro always
  have chunks := always plainFirmware 4 12
    ((request 4 plainDevice 12 0).next 4 ((request 4 plainDevice 12 0).ctx.receive 0) 0)
    (by decide) (by decide) (by decide)
    (.packet [] [] (.request plainDevice 0) trivial (by decide) (by decide) rfl)
  exact absurd (chunks.apart (by decide)) (by decide)

end Chunking

end HeadsetAdk.Upgrade
