import HeadsetAdk.Upgrade.ByteLog
import HeadsetAdk.Upgrade.PartitionData

/-! # Upgrade files in packets -/

namespace HeadsetAdk.Upgrade

open Option (bind_some map_some)
open List (length_nil nil_append length_append append_nil append_assoc map_nil take_of_length_le)

/-- Packets, each with what the buffer on the stack holds when it is parsed. -/
abbrev Packets := List (List UInt8 × List UInt8)

def Packets.block (packets : Packets) : List UInt8 := packets.flatMap Prod.snd

def Packets.Proper (packets : Packets) : Prop :=
  ∀ packet ∈ packets, packet.1.length = 64 ∧ packet.2 ≠ []

def UpgradeCtx.parseAll (firmware : Firmware) :
    UpgradeCtx → Packets → Option (HostErrorCode × UpgradeCtx)
  | ctx, [] => some (.success, ctx)
  | ctx, (keyCache, data) :: packets =>
      (ctx.parse firmware keyCache data).bind fun (code, ctx) =>
        if code = .success then parseAll firmware ctx packets else some (code, ctx)

structure Firmware.Works (firmware : Firmware) : Prop where
  sinkSlack : ∀ flash partition, 0 < firmware.sinkSlack flash partition
  sinkFlush : ∀ flash partition size, firmware.sinkFlush flash partition size = true
  psStore : ∀ keys key data, firmware.psStore keys key data = true

namespace UpgradeCtx

section Receiving

variable {firmware : Firmware} {ctx : UpgradeCtx} {keyCache pre data : List UInt8}
  {packets : Packets}

theorem receive_receive (ctx : UpgradeCtx) (size more : Nat) :
    (ctx.receive size).receive more = ctx.receive (size + more) := by
  simp only [receive, Nat.mod_add_mod, Nat.add_assoc]

theorem parseAll_cons (firmware : Firmware) (ctx : UpgradeCtx) (keyCache data : List UInt8)
    (packets : Packets) :
    ctx.parseAll firmware ((keyCache, data) :: packets) =
      (ctx.parse firmware keyCache data).bind fun answer =>
        if answer.1 = .success then answer.2.parseAll firmware packets else some answer := rfl

theorem parseAll_singleton (firmware : Firmware) (ctx : UpgradeCtx) (keyCache data : List UInt8) :
    ctx.parseAll firmware [(keyCache, data)] = ctx.parse firmware keyCache data := by
  rw [parseAll_cons]
  cases ctx.parse firmware keyCache data with
  | none => rfl
  | some answer =>
    rw [bind_some]
    by_cases success : answer.1 = .success
    · rw [if_pos success, parseAll, ← success]
    · rw [if_neg success]

theorem block_cons (keyCache data : List UInt8) (packets : Packets) :
    Packets.block ((keyCache, data) :: packets) = data ++ packets.block := rfl

theorem proper_cons (proper : Packets.Proper ((keyCache, data) :: packets)) :
    keyCache.length = 64 ∧ data ≠ [] ∧ packets.Proper :=
  ⟨(proper _ List.mem_cons_self).1, (proper _ List.mem_cons_self).2,
    fun packet member => proper packet (List.mem_cons_of_mem _ member)⟩

theorem Packets.block_ne_nil (proper : packets.Proper) (some : packets ≠ []) :
    packets.block ≠ [] := by
  cases packets with
  | nil => contradiction
  | cons packet packets =>
    exact fun nothing => (proper_cons proper).2.1 (List.append_eq_nil_iff.mp nothing).1

/-- A request of which nothing has arrived. -/
structure Waiting (ctx : UpgradeCtx) : Prop where
  incompleteData : ctx.incompleteData = []
  totalReceivedSize : ctx.totalReceivedSize = 0
  totalReqSize : ctx.totalReqSize < 2 ^ 32

theorem Waiting.received (waiting : ctx.Waiting) {size : Nat} (inside : size ≤ ctx.totalReqSize) :
    (ctx.receive size).totalReceivedSize = size := by
  have small := waiting.totalReqSize
  rw [receive]
  rw [waiting.totalReceivedSize, Nat.zero_add, Nat.mod_eq_of_lt (by omega)]

theorem parse_eq {after : UpgradeCtx} {size : Nat} (arrives : ctx.receive data.length = after)
    (empty : after.incompleteData = []) (received : after.totalReceivedSize = size)
    (inside : size ≤ after.totalReqSize) :
    ctx.parse firmware keyCache data =
      if size = after.totalReqSize then after.parseWhole firmware keyCache data
      else after.parsePart firmware keyCache data := by
  rw [UpgradeCtx.parse, arrives]
  rw [received, if_neg (Nat.not_lt.mpr inside), if_neg (not_not.mpr empty)]

theorem parse_data (state : ctx.state = .data) :
    ctx.parseWhole firmware keyCache data = ctx.handleDataState firmware data true ∧
      ctx.parsePart firmware keyCache data = ctx.handleDataState firmware data false := by
  rw [parseWhole, parsePart, state]
  exact ⟨rfl, rfl⟩

theorem parse_footer (state : ctx.state = .footer) :
    ctx.parseWhole firmware keyCache data = ctx.handleFooterState firmware keyCache data true ∧
      ctx.parsePart firmware keyCache data =
        ctx.handleFooterState firmware keyCache data false := by
  rw [parseWhole, parsePart, state]
  exact ⟨rfl, rfl⟩

/-- What has arrived grows packet by packet, up to the one that makes the request whole. -/
theorem parseAll_stages (Arrived : List UInt8 → UpgradeCtx → Prop) {total : Nat}
    (Final : List UInt8 → Option (HostErrorCode × UpgradeCtx) → Prop)
    (stage : ∀ pre ctx keyCache data, Arrived pre ctx → keyCache.length = 64 →
      pre.length + data.length ≤ total →
      if pre.length + data.length = total then Final (pre ++ data) (ctx.parse firmware keyCache data)
      else ∃ ctx', ctx.parse firmware keyCache data = some (.success, ctx') ∧
        Arrived (pre ++ data) ctx')
    (arrived : Arrived pre ctx) (proper : packets.Proper) (some : packets ≠ [])
    (whole : pre.length + packets.block.length = total) :
    Final (pre ++ packets.block) (ctx.parseAll firmware packets) := by
  induction packets generalizing ctx pre with
  | nil => contradiction
  | cons packet packets ih =>
    obtain ⟨keyCache, data⟩ := packet
    obtain ⟨length, filled, rest⟩ := proper_cons proper
    rw [block_cons, length_append] at whole
    have parsed := stage _ _ keyCache data arrived length (by omega)
    by_cases last : packets = []
    · subst last
      rw [if_pos (by rw [← whole]; rfl)] at parsed
      rwa [parseAll_singleton, block_cons, Packets.block, List.flatMap_nil, append_nil]
    · have more := List.length_pos_iff.mpr (Packets.block_ne_nil rest last)
      rw [if_neg (by omega)] at parsed
      obtain ⟨ctx', parsed, arrived'⟩ := parsed
      rw [parseAll_cons, parsed, bind_some, if_pos rfl, block_cons, ← append_assoc]
      exact ih arrived' rest last (by rw [length_append]; omega)

end Receiving

section Headers

variable {firmware : Firmware} {ctx before : UpgradeCtx} {keyCache pre data : List UInt8}
  {packets : Packets}

/-- The states in which pieces are put together before they are parsed. -/
def CollectsHeader (ctx : UpgradeCtx) : Prop :=
  ctx.state = .generic1stPart ∨ ctx.state = .header ∨ ctx.state = .dataHeader

/-- The beginning of a header has arrived since the context before, and is in the buffer. -/
def Collected (before : UpgradeCtx) (pre : List UInt8) (ctx : UpgradeCtx) : Prop :=
  ∀ size, ctx.receive size = (before.receive (pre.length + size)).withIncomplete pre

theorem Waiting.receive_withIncomplete (waiting : ctx.Waiting) (size : Nat) :
    (ctx.receive size).withIncomplete [] = ctx.receive size := by
  rw [← waiting.incompleteData]
  rfl

theorem Waiting.collected (waiting : ctx.Waiting) : Collected ctx [] ctx := by
  intro size
  rw [length_nil, Nat.zero_add, waiting.receive_withIncomplete]

theorem parsePart_of_collects (collects : ctx.CollectsHeader) :
    ctx.parsePart firmware keyCache data = ctx.parseIncomplete firmware keyCache data := by
  rcases collects with state | state | state <;> rw [parsePart, state]

theorem Waiting.parseIncomplete (waiting : before.Waiting) (firmware : Firmware)
    (keyCache : List UInt8) (inside : pre.length + data.length ≤ before.totalReqSize)
    (fits : pre.length + data.length ≤ maxPartitionDataBlockSize) :
    ((before.receive (pre.length + data.length)).withIncomplete pre).parseIncomplete
        firmware keyCache data =
      if pre.length + data.length = before.totalReqSize then
        (before.receive (pre.length + data.length)).parseWhole firmware keyCache (pre ++ data)
      else some (.success,
        (before.receive (pre.length + data.length)).withIncomplete (pre ++ data)) := by
  have received := waiting.received inside
  have emptied := waiting.receive_withIncomplete (pre.length + data.length)
  have room : ¬ data.length > maxPartitionDataBlockSize - pre.length := by omega
  rw [UpgradeCtx.parseIncomplete]
  change (if data.length > maxPartitionDataBlockSize - pre.length then _
    else if (before.receive (pre.length + data.length)).totalReceivedSize = before.totalReqSize then
      ((before.receive (pre.length + data.length)).withIncomplete []).parseWhole
        firmware keyCache (pre ++ data)
    else some (.success,
      (before.receive (pre.length + data.length)).withIncomplete (pre ++ data))) = _
  rw [if_neg room, received, emptied]

theorem Collected.parse (collected : Collected before pre ctx) (waiting : before.Waiting)
    (collects : before.CollectsHeader) (firmware : Firmware) (keyCache : List UInt8)
    (inside : pre.length + data.length ≤ before.totalReqSize)
    (fits : pre.length + data.length ≤ maxPartitionDataBlockSize) :
    ctx.parse firmware keyCache data = if pre.length + data.length = before.totalReqSize then
        (before.receive (pre.length + data.length)).parseWhole firmware keyCache (pre ++ data)
      else some (.success,
        (before.receive (pre.length + data.length)).withIncomplete (pre ++ data)) := by
  have received := waiting.received inside
  have incomplete := waiting.parseIncomplete firmware keyCache inside fits
  rw [UpgradeCtx.parse, collected]
  change (if (before.receive (pre.length + data.length)).totalReceivedSize > before.totalReqSize
      then _
    else if pre ≠ [] then _
    else if (before.receive (pre.length + data.length)).totalReceivedSize = before.totalReqSize
      then _ else _) = _
  rw [received, if_neg (Nat.not_lt.mpr inside), incomplete]
  by_cases start : pre = []
  · subst start
    rw [if_neg (not_not.mpr rfl), waiting.receive_withIncomplete, nil_append]
    by_cases whole : ([] : List UInt8).length + data.length = before.totalReqSize
    · rw [if_pos whole, if_pos whole]
    · rw [if_neg whole, if_neg whole, parsePart_of_collects (by exact collects)]
      rw [waiting.receive_withIncomplete, if_neg whole, nil_append] at incomplete
      exact incomplete
  · rw [if_pos start]

theorem collected_append (before : UpgradeCtx) (pre data : List UInt8) :
    Collected before (pre ++ data)
      ((before.receive (pre.length + data.length)).withIncomplete (pre ++ data)) := by
  intro size
  rw [length_append, ← receive_receive before (pre.length + data.length)]
  rfl

section

variable (collected : Collected before pre ctx) (waiting : before.Waiting)
  (collects : before.CollectsHeader)

include collected waiting collects

theorem Collected.parseAll (firmware : Firmware) (proper : packets.Proper) (some : packets ≠ [])
    (whole : pre.length + packets.block.length = before.totalReqSize)
    (fits : before.totalReqSize ≤ maxPartitionDataBlockSize) :
    ∃ keyCache : List UInt8, keyCache.length = 64 ∧ ctx.parseAll firmware packets =
      (before.receive before.totalReqSize).parseWhole firmware keyCache (pre ++ packets.block) := by
  refine parseAll_stages (Collected before) (fun bytes answer => ∃ keyCache : List UInt8,
    keyCache.length = 64 ∧
      answer = (before.receive before.totalReqSize).parseWhole firmware keyCache bytes)
    (fun pre ctx keyCache data arrived length inside => ?_) collected proper some whole
  rw [arrived.parse waiting collects firmware keyCache inside (by omega)]
  split
  · rename_i all
    exact ⟨keyCache, length, by rw [all]⟩
  · exact ⟨_, rfl, collected_append before pre data⟩

theorem Collected.parseAll_refused (firmware : Firmware) (proper : packets.Proper)
    (pieces : pre ≠ [] ∨ 2 ≤ packets.length)
    (whole : pre.length + packets.block.length = before.totalReqSize)
    (small : pre.length ≤ maxPartitionDataBlockSize)
    (large : maxPartitionDataBlockSize < before.totalReqSize) :
    ∃ size bytes, ctx.parseAll firmware packets =
      some (.badLengthUpgradeHeader, (before.receive size).withIncomplete bytes) := by
  induction packets generalizing ctx pre with
  | nil =>
    rw [Packets.block, List.flatMap_nil, length_nil] at whole
    omega
  | cons packet packets ih =>
    obtain ⟨keyCache, data⟩ := packet
    obtain ⟨length, filled, rest⟩ := proper_cons proper
    rw [block_cons, length_append] at whole
    have inside : pre.length + data.length ≤ before.totalReqSize := by omega
    by_cases fits : pre.length + data.length ≤ maxPartitionDataBlockSize
    · have parsed := collected.parse waiting collects firmware keyCache inside fits
      have begun : pre ++ data ≠ [] := fun nothing => filled (List.append_eq_nil_iff.mp nothing).2
      obtain ⟨size, bytes, parsedRest⟩ := ih (collected_append before pre data) rest (Or.inl begun)
        (by rw [length_append]; omega) (by rw [length_append]; exact fits)
      refine ⟨size, bytes, ?_⟩
      rw [parseAll_cons, parsed, if_neg (by omega), bind_some, if_pos rfl, parsedRest]
    · have room : data.length > maxPartitionDataBlockSize - pre.length := by omega
      have refused : ((before.receive (pre.length + data.length)).withIncomplete
          pre).parseIncomplete firmware keyCache data = some (.badLengthUpgradeHeader,
            (before.receive (pre.length + data.length)).withIncomplete pre) :=
        if_pos room
      have received := waiting.received inside
      refine ⟨pre.length + data.length, pre, ?_⟩
      have parsed : ctx.parse firmware keyCache data = some (.badLengthUpgradeHeader,
          (before.receive (pre.length + data.length)).withIncomplete pre) := by
        rw [UpgradeCtx.parse, collected]
        change (if (before.receive (pre.length + data.length)).totalReceivedSize >
            before.totalReqSize then _
          else if pre ≠ [] then _
          else if (before.receive (pre.length + data.length)).totalReceivedSize =
            before.totalReqSize then _ else _) = _
        rw [received, if_neg (Nat.not_lt.mpr inside)]
        by_cases start : pre = []
        · have more : packets ≠ [] := by
            rintro rfl
            rcases pieces with begun | two
            · exact begun start
            · exact absurd two (Nat.not_succ_le_self 1)
          have positive := List.length_pos_iff.mpr (Packets.block_ne_nil rest more)
          rw [if_neg (not_not.mpr start), if_neg (by omega),
            parsePart_of_collects (by exact collects), refused]
        · rw [if_pos start, refused]
      rw [parseAll_cons, parsed, bind_some, if_neg (by exact fun same => by contradiction)]

end

end Headers

section Data

variable {firmware : Firmware} {ctx before : UpgradeCtx} {pre : List UInt8} {packets : Packets}
  {partition : Nat} {data : List UInt8}

theorem partitionWriteLoop_eq (works : firmware.Works) {rounds : Nat} {flash : Flash}
    (enough : data.length ≤ rounds) :
    partitionWriteLoop firmware partition rounds flash data =
      some (flash ++ data.map (.wrote partition), []) := by
  induction rounds generalizing flash data with
  | zero =>
    obtain rfl := List.eq_nil_of_length_eq_zero (Nat.le_zero.mp enough)
    rw [partitionWriteLoop, if_pos rfl, map_nil, append_nil]
  | succ rounds ih =>
    rw [partitionWriteLoop]
    by_cases nothing : data = []
    · rw [if_pos nothing, nothing, map_nil, append_nil]
    · have slack := works.sinkSlack flash partition
      have rest : (data.drop (min (firmware.sinkSlack flash partition) data.length)).length ≤
          rounds := by
        rw [List.length_drop]
        omega
      rw [if_neg nothing, if_pos (works.sinkFlush _ _ _), ih rest, append_assoc,
        ← List.map_append, List.take_append_drop]

theorem partitionWrite_eq (works : firmware.Works) (open' : ctx.partitionHdl = some partition)
    (data : List UInt8) : ctx.partitionWrite firmware data =
      some (data.length, ctx.withFlash (ctx.flash ++ data.map (.wrote partition))) := by
  rw [partitionWrite, open']
  dsimp only
  rw [partitionWriteLoop_eq works (Nat.le_refl _), map_some]
  rfl

theorem handleDataState_eq (works : firmware.Works) (open' : ctx.partitionHdl = some partition)
    (data : List UInt8) (reqComplete : Bool) :
    ctx.handleDataState firmware data reqComplete = some
      (if reqComplete = true then
        (ctx.withFlash (ctx.flash ++ data.map (.wrote partition))).finishPartition firmware
      else (.success, ctx.withFlash (ctx.flash ++ data.map (.wrote partition)))) := by
  rw [handleDataState, partitionWrite_eq works open', map_some]
  dsimp only
  rw [if_neg (not_not.mpr rfl)]

/-- The beginning of the data of a partition has arrived since the context before. -/
def Written (before : UpgradeCtx) (partition : Nat) (pre : List UInt8) (ctx : UpgradeCtx) : Prop :=
  ∀ size, ctx.receive size = (before.receive (pre.length + size)).withFlash
    (before.flash ++ pre.map (.wrote partition))

theorem written_nil (before : UpgradeCtx) (partition : Nat) : Written before partition
    [] before := by
  intro size
  rw [length_nil, Nat.zero_add, map_nil, append_nil]
  rfl

theorem Written.parse_handle (written : Written before partition pre ctx) (waiting : before.Waiting)
    (state : before.state = .data) (firmware : Firmware) (keyCache : List UInt8)
    (inside : pre.length + data.length ≤ before.totalReqSize) :
    ctx.parse firmware keyCache data = ((before.receive (pre.length + data.length)).withFlash
        (before.flash ++ pre.map (.wrote partition))).handleDataState firmware data
          (decide (pre.length + data.length = before.totalReqSize)) := by
  rw [parse_eq (written _) (by exact waiting.incompleteData) (waiting.received inside)
    (by exact inside)]
  change (if pre.length + data.length = before.totalReqSize then _ else _) = _
  by_cases whole : pre.length + data.length = before.totalReqSize
  · rw [if_pos whole, decide_eq_true whole]
    exact (parse_data (by exact state)).1
  · rw [if_neg whole, decide_eq_false whole]
    exact (parse_data (by exact state)).2

section

variable (written : Written before partition pre ctx) (works : firmware.Works)
  (waiting : before.Waiting) (state : before.state = .data)
  (open' : before.partitionHdl = some partition)

include written works waiting state open'

theorem Written.parse (keyCache : List UInt8)
    (inside : pre.length + data.length ≤ before.totalReqSize) :
    ctx.parse firmware keyCache data = some
      (if pre.length + data.length = before.totalReqSize then
        ((before.receive (pre.length + data.length)).withFlash
          (before.flash ++ (pre ++ data).map (.wrote partition))).finishPartition firmware
      else (.success, (before.receive (pre.length + data.length)).withFlash
        (before.flash ++ (pre ++ data).map (.wrote partition)))) := by
  rw [written.parse_handle waiting state firmware keyCache inside,
    handleDataState_eq works (by exact open'), List.map_append, ← append_assoc]
  by_cases whole : pre.length + data.length = before.totalReqSize
  · rw [if_pos whole, decide_eq_true whole, if_pos rfl]
    rfl
  · rw [if_neg whole, decide_eq_false whole, if_neg Bool.false_ne_true]
    rfl

theorem Written.parseAll (proper : packets.Proper) (some : packets ≠ [])
    (whole : pre.length + packets.block.length = before.totalReqSize) :
    ctx.parseAll firmware packets = Option.some (((before.receive before.totalReqSize).withFlash
      (before.flash ++ (pre ++ packets.block).map (.wrote partition))).finishPartition
        firmware) := by
  refine (parseAll_stages (Written before partition) (fun bytes answer =>
    answer = Option.some (((before.receive before.totalReqSize).withFlash
      (before.flash ++ bytes.map (.wrote partition))).finishPartition firmware))
    (fun pre ctx keyCache data arrived _ inside => ?_) written proper some whole :)
  rw [arrived.parse works waiting state open' keyCache inside]
  split
  · rename_i all
    rw [all]
  · refine ⟨_, rfl, fun size => ?_⟩
    rw [length_append, ← receive_receive before (pre.length + data.length)]
    rfl

end

end Data

section Footer

variable {firmware : Firmware} {ctx before : UpgradeCtx} {pre : List UInt8} {packets : Packets}
  {keys : PsKeys} {store : HeaderStore} {bytes log : List UInt8}

def withSignature (ctx : UpgradeCtx) (pre : List UInt8) (store : HeaderStore) : UpgradeCtx :=
  { ctx with
    signature := ctx.signature.map fun signature => copyInto signature 0 pre
    signatureReceived := pre.length
    headerStore := store }

/-- The beginning of the signature has arrived since the context before. -/
def Signed (before : UpgradeCtx) (pre : List UInt8) (store : HeaderStore) (ctx : UpgradeCtx) :
    Prop :=
  ∀ size, ctx.receive size = (before.receive (pre.length + size)).withSignature pre store

structure AwaitsSignature (ctx : UpgradeCtx) : Prop extends Waiting ctx where
  state : ctx.state = .footer
  size : ctx.totalReqSize = expectedSignatureSize
  signature : ∀ signature, ctx.signature = some signature →
    signature.length = expectedSignatureSize
  signatureReceived : ctx.signatureReceived = 0

theorem copyInto_nil (buffer : List UInt8) : copyInto buffer 0 [] = buffer := rfl

theorem copyInto_copyInto (buffer data more : List UInt8) :
    copyInto (copyInto buffer 0 data) data.length more = copyInto buffer 0 (data ++ more) := by
  have first := copyInto_take (Nat.zero_le buffer.length) data
  have behind := copyInto_drop (Nat.zero_le buffer.length) data
  rw [Nat.zero_add] at first behind
  rw [copyInto, first, ← List.drop_drop, behind, copyInto, List.take_zero, List.drop_drop,
    length_append, Nat.zero_add, nil_append, nil_append, append_assoc]

theorem AwaitsSignature.signed (awaits : before.AwaitsSignature) :
    Signed before [] before.headerStore before := by
  intro size
  have received := awaits.signatureReceived
  have same : (before.receive size).signature.map (fun signature => copyInto signature 0 []) =
      (before.receive size).signature := by
    simp only [copyInto_nil, Option.map_id']
  rw [length_nil, Nat.zero_add, withSignature, same, length_nil, ← received]
  rfl

theorem collectSignature_withSignature {data : List UInt8}
    (inside : pre.length + data.length ≤ expectedSignatureSize) (size : Nat) :
    ((before.receive size).withSignature pre store).collectSignature data =
      (before.receive size).withSignature (pre ++ data) store := by
  have small : (pre.length + data.length) % 2 ^ 16 = (pre ++ data).length := by
    rw [length_append, Nat.mod_eq_of_lt]
    rw [expectedSignatureSize] at inside
    omega
  have same : (before.signature.map fun signature => copyInto signature 0 pre).map
        (fun signature => copyInto signature pre.length data) =
      before.signature.map fun signature => copyInto signature 0 (pre ++ data) := by
    cases known : before.signature with
    | none => rfl
    | some signature =>
      rw [map_some, map_some, map_some, copyInto_copyInto]
  rw [collectSignature, withSignature, withSignature]
  change ({ before.receive size with
    signature := (before.signature.map fun signature => copyInto signature 0 pre).map
        fun signature => copyInto signature pre.length data
    signatureReceived := (pre.length + data.length) % 2 ^ 16
    headerStore := store } : UpgradeCtx) = _
  rw [small, same]
  rfl

theorem Signed.parse (signed : Signed before pre store ctx) (awaits : before.AwaitsSignature)
    (transfers : before.isDataXferComplete = false) (firmware : Firmware)
    (keyCache : List UInt8) {data : List UInt8}
    (inside : pre.length + data.length ≤ before.totalReqSize) :
    ctx.parse firmware keyCache data =
      (store.saveHeaderInPSKeys firmware.psStore keyCache data).map fun saved =>
        if saved.1 ≠ .success then
          (saved.1, (before.receive (pre.length + data.length)).withSignature (pre ++ data) saved.2)
        else
          ((before.receive (pre.length + data.length)).withSignature (pre ++ data)
            saved.2).finishFooter (pre.length + data.length = before.totalReqSize) := by
  have handled (reqComplete : Bool) : ((before.receive (pre.length + data.length)).withSignature
      pre store).handleFooterState firmware keyCache data reqComplete =
      (store.saveHeaderInPSKeys firmware.psStore keyCache data).map fun saved =>
        if saved.1 ≠ .success then
          (saved.1, (before.receive (pre.length + data.length)).withSignature (pre ++ data) saved.2)
        else
          ((before.receive (pre.length + data.length)).withSignature (pre ++ data)
            saved.2).finishFooter reqComplete := by
    have open' : ((before.receive (pre.length + data.length)).withSignature pre
        store).isDataXferComplete = false := transfers
    rw [handleFooterState, if_neg (by rw [open']; exact Bool.false_ne_true),
      collectSignature_withSignature (by rw [← awaits.size]; exact inside), saveHeaderThen,
      saveHeader, Option.map_map]
    rfl
  rw [parse_eq (signed _) (by exact awaits.incompleteData) (awaits.received inside)
    (by exact inside)]
  change (if pre.length + data.length = before.totalReqSize then _ else _) = _
  by_cases whole : pre.length + data.length = before.totalReqSize
  · rw [if_pos whole, decide_eq_true whole]
    exact (parse_footer (by exact awaits.state)).1.trans (handled true)
  · rw [if_neg whole, decide_eq_false whole]
    exact (parse_footer (by exact awaits.state)).2.trans (handled false)

/-- Each piece puts more than one byte into its first key, or begins at an even place. -/
def KeepsPieces : Nat → List (List UInt8) → Prop
  | _, [] => True
  | position, piece :: pieces =>
      (position < 640 → ¬ LosesByte position piece) ∧ KeepsPieces (position + piece.length) pieces

structure FooterEnd (keys : PsKeys) (before : UpgradeCtx) (log signature : List UInt8)
    (position : Nat) (answer : HostErrorCode × UpgradeCtx) : Prop where
  status : answer.1 = if position < 640 then .dataTransferComplete else .noMemory
  headers : ∃ place, Holds keys answer.2.headerStore (log.take 640) place
  requests : answer.2.requests = before.requests
  flash : answer.2.flash = before.flash
  signingMode : answer.2.signingMode = before.signingMode
  signature : answer.1 = .dataTransferComplete →
    answer.2.signature = before.signature.map fun memory => copyInto memory 0 signature

theorem complete_ne_success : HostErrorCode.dataTransferComplete ≠ .success := by decide

theorem noMemory_ne_success : HostErrorCode.noMemory ≠ .success := by decide

theorem Signed.parseAll (signed : Signed before pre store ctx) (works : firmware.Works)
    (awaits : before.AwaitsSignature) (transfers : before.isDataXferComplete = false)
    (holds : Holds keys store bytes log.length) (inKeys : log.length < 640)
    (same : bytes.take log.length = log) (append : bytes.length ≤ log.length + 1)
    (proper : packets.Proper) (some : packets ≠ [])
    (keeps : KeepsPieces log.length (packets.map Prod.snd))
    (whole : pre.length + packets.block.length = before.totalReqSize)
    (even : (log ++ packets.block).length % 2 = 0) :
    ∃ answer, ctx.parseAll firmware packets = Option.some answer ∧
      FooterEnd keys before (log ++ packets.block) (pre ++ packets.block)
        (log ++ packets.block).length answer := by
  induction packets generalizing ctx pre store bytes log with
  | nil => contradiction
  | cons packet packets ih =>
    obtain ⟨keyCache, data⟩ := packet
    obtain ⟨length, filled, rest⟩ := proper_cons proper
    rw [block_cons] at whole even ⊢
    rw [length_append] at whole
    have inside : pre.length + data.length ≤ before.totalReqSize := by omega
    have parsed := signed.parse awaits transfers firmware keyCache inside
    obtain ⟨store', bytes', saved, holds', appended⟩ :=
      holds.save_append inKeys append length works.psStore data
    have keptAll : bytes'.take (log.length + min data.length (640 - log.length)) =
        log ++ data.take (640 - log.length) := by
      have loses : ¬ LosesByte log.length (data.take (640 - log.length)) := by
        rintro ⟨odd, one⟩
        refine keeps.1 inKeys ⟨odd, ?_⟩
        change roundSize log.length data = 1
        rw [roundSize, List.length_take] at one
        rw [roundSize]
        omega
      rw [appended.kept, kept, if_neg loses, same]
    have short := appended.short
    have even' := holds'.even
    have inside' := holds'.inside
    have fits' := holds'.fits
    rw [parseAll_cons, parsed, saved, map_some, bind_some]
    by_cases room : log.length + data.length < 640
    · have all : min data.length (640 - log.length) = data.length := by omega
      have taken : data.take (640 - log.length) = data := take_of_length_le (by omega)
      have behind : (log ++ data).length = log.length + data.length := length_append
      rw [all, taken, ← behind] at keptAll
      rw [all, ← behind] at holds' short inside'
      rw [if_pos room, if_neg (not_not.mpr rfl)]
      by_cases last : packets = []
      · subst last
        have done : pre.length + data.length = before.totalReqSize := by
          rw [← whole]
          rfl
        have nothing : Packets.block [] = [] := rfl
        rw [nothing, append_nil] at even ⊢
        rw [decide_eq_true done, finishFooter, if_pos rfl, if_neg complete_ne_success]
        refine ⟨_, rfl, (if_pos (by omega)).symm, ⟨(log ++ data).length, ?_⟩, rfl, rfl, rfl,
          fun _ => rfl⟩
        have exact' : bytes' = log ++ data := by
          rw [← keptAll, take_of_length_le (by omega)]
        rw [take_of_length_le (by omega), ← exact']
        rw [← exact'] at holds'
        exact holds'
      · have more := List.length_pos_iff.mpr (Packets.block_ne_nil rest last)
        have notDone : ¬ pre.length + data.length = before.totalReqSize := by omega
        have signed' : Signed before (pre ++ data) store'
            ((before.receive (pre.length + data.length)).withSignature (pre ++ data) store') := by
          intro size
          rw [length_append, ← receive_receive before (pre.length + data.length)]
          rfl
        have keeps' := keeps.2
        rw [← behind] at keeps'
        rw [← append_assoc] at even
        obtain ⟨answer, parsedRest, footerEnd⟩ := ih signed' holds' (by omega) keptAll short rest
          last keeps' (by rw [length_append]; omega) even
        rw [decide_eq_false notDone, finishFooter, if_neg Bool.false_ne_true, if_pos rfl,
          parsedRest]
        rw [append_assoc, append_assoc] at footerEnd
        exact ⟨answer, rfl, footerEnd⟩
    · have all : min data.length (640 - log.length) = 640 - log.length := by omega
      have full : log.length + (640 - log.length) = 640 := by omega
      rw [all, full] at keptAll holds' short inside'
      rw [if_neg room, if_pos noMemory_ne_success, if_neg noMemory_ne_success]
      have total : (log ++ (data ++ Packets.block packets)).length =
          log.length + (data.length + (Packets.block packets).length) := by
        rw [length_append, length_append]
      refine ⟨_, rfl, (if_neg (by omega)).symm, ⟨640, ?_⟩, rfl, rfl, rfl,
        fun complete => by contradiction⟩
      have exact' : bytes' = (log ++ (data ++ Packets.block packets)).take 640 := by
        rw [← take_of_length_le fits', keptAll, List.take_append,
          take_of_length_le (Nat.le_of_lt inKeys),
          List.take_append_of_le_length (by omega)]
      rw [← exact']
      exact holds'

end Footer

section Stack

variable {firmware : Firmware} {ctx : UpgradeCtx} {keys : PsKeys} {data : List UInt8}
  {next : UpgradeCtx}

def StoreReady (keys : PsKeys) (store : HeaderStore) : Prop :=
  ∃ bytes position, Holds keys store bytes position ∧ position < 640 ∧ position % 2 = 0

def Shape (ctx : UpgradeCtx) : Prop :=
  match ctx.state with
  | .generic1stPart => ctx.totalReqSize = headerFirstPartSize ∨ ctx.totalReqSize = 0
  | .dataHeader => ctx.totalReqSize = partitionSecondHeaderSize + firstWordSize
  | .footer => ctx.totalReqSize = expectedSignatureSize
  | .header | .data => True

/-- What holds of the context while a part of the file arrives. -/
structure Sound (keys : PsKeys) (ctx : UpgradeCtx) : Prop where
  incompleteData : ctx.incompleteData = []
  signature : ∀ signature, ctx.signature = some signature →
    signature.length = expectedSignatureSize
  signatureReceived : ctx.signatureReceived = 0
  shape : ctx.Shape
  restart : StoreReady keys ctx.restartHeaders.headerStore
  placed : ctx.isUpgradeHdrAvailable = true → StoreReady keys ctx.headerStore
  headed : ctx.isUpgradeHdrAvailable = false → ctx.partitionNum = 0 ∧ ctx.state = .generic1stPart

/-- What holds of the context when the next part is requested. -/
structure Ready (keys : PsKeys) (ctx : UpgradeCtx) : Prop extends Sound keys ctx, Waiting ctx where
  newReqSize : ctx.newReqSize = ctx.totalReqSize
  ended : ctx.isUpgradeHdrAvailable = false → ctx.totalReqSize = 0

theorem StoreReady.restart {store : HeaderStore} (store' : StoreReady keys store) :
    StoreReady keys
      { store with dfuHeaderPskey := dfuHeaderPskeyStart, dfuHeaderPskeyOffset := 0 } := by
  obtain ⟨bytes, position, holds, _, _⟩ := store'
  exact ⟨bytes, 0, holds.backTo (Nat.zero_le _), by decide, rfl⟩

theorem Sound.receive (sound : Sound keys ctx) (size : Nat) : Sound keys (ctx.receive size) :=
  { sound with }

def withStore (ctx : UpgradeCtx) (store : HeaderStore) : UpgradeCtx :=
  { ctx with headerStore := store }

/-- What the buffer on the stack holds makes no difference, and success leads to a request. -/
def Steady (keys : PsKeys) (answers : List UInt8 → Option (HostErrorCode × UpgradeCtx)) : Prop :=
  ∃ answer, (∀ keyCache : List UInt8, keyCache.length = 64 → answers keyCache = answer) ∧
    ∀ ctx, answer = some (.success, ctx) → Ready keys ctx

theorem Steady.of_none : Steady keys fun _ => none :=
  ⟨none, fun _ _ => rfl, fun _ some => by contradiction⟩

theorem Steady.of_answer {answer : HostErrorCode × UpgradeCtx}
    (ready : answer.1 = .success → Ready keys answer.2) : Steady keys fun _ => some answer := by
  refine ⟨some answer, fun _ _ => rfl, fun ctx same => ?_⟩
  cases same
  exact ready rfl

theorem Steady.of_error {code : HostErrorCode} (error : code ≠ .success) :
    Steady keys fun _ => some (code, ctx) :=
  Steady.of_answer fun success => absurd success error

theorem steady_saveHeaderThen (works : firmware.Works) (store : StoreReady keys ctx.headerStore)
    (even : data.length % 2 = 0) {next : UpgradeCtx → HostErrorCode × UpgradeCtx}
    (ready : ∀ store', StoreReady keys store' → (next (ctx.withStore store')).1 = .success →
      Ready keys (next (ctx.withStore store')).2) :
    Steady keys fun keyCache => ctx.saveHeaderThen firmware keyCache data next := by
  obtain ⟨bytes, position, holds, inKeys, evenPosition⟩ := store
  obtain ⟨code, store', bytes', saved, success, codes, _⟩ :=
    holds.save_even inKeys evenPosition even works.psStore
  refine ⟨some (if code ≠ .success then (code, ctx.withStore store')
    else next (ctx.withStore store')), fun keyCache length => ?_, fun ctx' same => ?_⟩
  · change ctx.saveHeaderThen firmware keyCache data next = _
    rw [saveHeaderThen, saveHeader, saved keyCache length, map_some, map_some]
    rfl
  · have same' := Option.some.inj same
    by_cases isSuccess : code = .success
    · obtain ⟨inside, holds'⟩ := success isSuccess
      rw [if_neg (not_not.mpr isSuccess)] at same'
      have ready' := ready store' ⟨bytes', _, holds', inside, by omega⟩
      rw [same'] at ready'
      exact ready' rfl
    · rw [if_pos isSuccess] at same'
      exact absurd (congrArg Prod.fst same') isSuccess

variable {at' value : Nat}

theorem get2Bytes_lt (read : get2Bytes data at' = some value) : value < 2 ^ 16 := by
  rw [get2Bytes] at read
  split at read
  · rename_i high low _ _
    have highSmall := high.toNat_lt
    have lowSmall := low.toNat_lt
    cases read
    omega
  · contradiction

theorem get4Bytes_lt (read : get4Bytes data at' = some value) : value < 2 ^ 32 := by
  rw [get4Bytes] at read
  split at read
  · rename_i high low readHigh readLow
    have highSmall := get2Bytes_lt readHigh
    have lowSmall := get2Bytes_lt readLow
    cases read
    omega
  · contradiction

theorem checkHeader_cases {psKeys : LibPsKeys} {result : Except HostErrorCode ((Nat × Nat) × Nat)}
    (checked : checkHeader firmware psKeys data = some result) :
    (result = .error .badLengthUpgradeHeader ∨ result = .error .wrongVariant ∨
      result = .error .warnAppConfigVersionIncompatible) ∨
    ∃ versions, result = .ok versions ∧ data.length % 2 = 0 := by
  rw [checkHeader] at checked
  by_cases short : data.length < idFieldSize + 4 + 2
  · rw [if_pos short] at checked
    exact Or.inl (Or.inl (Option.some.inj checked).symm)
  rw [if_neg short] at checked
  by_cases variant : firmware.deviceVariant.length > 0 ∧
      idField data ≠ idField firmware.deviceVariant
  · rw [if_pos variant] at checked
    exact Or.inl (Or.inr (Or.inl (Option.some.inj checked).symm))
  rw [if_neg variant] at checked
  obtain ⟨major, _, checked⟩ := Option.bind_eq_some_iff.mp checked
  obtain ⟨minor, _, checked⟩ := Option.bind_eq_some_iff.mp checked
  obtain ⟨compatibleVersions, _, checked⟩ := Option.bind_eq_some_iff.mp checked
  by_cases cut : data.length < idFieldSize + 6 + 4 * compatibleVersions + 2 + 2
  · rw [if_pos cut] at checked
    exact Or.inl (Or.inl (Option.some.inj checked).symm)
  rw [if_neg cut] at checked
  obtain ⟨psconfigVersions, _, checked⟩ := Option.bind_eq_some_iff.mp checked
  by_cases wrong : data.length ≠ (idFieldSize + 4 + 2 + 4 * compatibleVersions + 4 +
      2 * psconfigVersions + 2) % 2 ^ 16
  · rw [if_pos wrong] at checked
    exact Or.inl (Or.inl (Option.some.inj checked).symm)
  have even : data.length % 2 = 0 := by
    have same := not_not.mp wrong
    rw [idFieldSize] at same
    omega
  rw [if_neg wrong] at checked
  obtain ⟨compatible, _, checked⟩ := Option.bind_eq_some_iff.mp checked
  by_cases incompatible : compatible = false
  · rw [if_pos incompatible] at checked
    exact Or.inl (Or.inr (Or.inr (Option.some.inj checked).symm))
  rw [if_neg incompatible] at checked
  obtain ⟨newPSVersion, _, checked⟩ := Option.bind_eq_some_iff.mp checked
  by_cases differs : psKeys.configVersion ≠ newPSVersion
  · rw [if_pos differs] at checked
    obtain ⟨compatibleConfig, _, checked⟩ := Option.bind_eq_some_iff.mp checked
    by_cases incompatibleConfig : compatibleConfig = false
    · rw [if_pos incompatibleConfig] at checked
      exact Or.inl (Or.inr (Or.inr (Option.some.inj checked).symm))
    · rw [if_neg incompatibleConfig] at checked
      exact Or.inr ⟨_, (Option.some.inj checked).symm, even⟩
  · rw [if_neg differs] at checked
    exact Or.inr ⟨_, (Option.some.inj checked).symm, even⟩

theorem zero_lt_uint32 : 0 < 2 ^ 32 := by decide

theorem headerFirstPartSize_lt : headerFirstPartSize < 2 ^ 32 := by decide

theorem dataHeaderSize_lt : partitionSecondHeaderSize + firstWordSize < 2 ^ 32 := by decide

theorem expectedSignatureSize_lt : expectedSignatureSize < 2 ^ 32 := by decide

section

variable (works : firmware.Works) (sound : Sound keys ctx)

include works sound

theorem steady_startHeader (even : data.length % 2 = 0) {length : Nat} (small : length < 2 ^ 32) :
    Steady keys fun keyCache => ctx.startHeader firmware keyCache data length := by
  simp only [startHeader]
  by_cases short : length < upgradeHeaderMinSecondPartSize
  · simp only [if_pos short]
    exact Steady.of_error (by decide)
  · simp only [if_neg short]
    refine steady_saveHeaderThen works ?_ even fun store' ready _ => ?_
    · split <;> exact sound.restart
    · split
      · exact ⟨⟨sound.incompleteData, sound.signature, sound.signatureReceived, trivial,
          ready.restart, fun _ => ready, fun none => by contradiction⟩,
          rfl, small, rfl, fun none => by contradiction⟩
      · exact ⟨⟨sound.incompleteData, sound.signature, sound.signatureReceived, trivial,
          ready.restart, fun _ => ready, fun none => by contradiction⟩,
          rfl, small, rfl, fun none => by contradiction⟩

theorem steady_startCaseFile (state : ctx.state = .generic1stPart) (even : data.length % 2 = 0)
    (length : Nat) :
    Steady keys fun keyCache => ctx.startCaseFile firmware keyCache data length := by
  simp only [startCaseFile]
  refine steady_saveHeaderThen works (by exact sound.restart) even fun store' ready _ => ?_
  refine ⟨⟨sound.incompleteData, sound.signature, sound.signatureReceived, ?_, ready.restart,
    fun _ => ready, sound.headed⟩, rfl, zero_lt_uint32, rfl, fun _ => rfl⟩
  rw [state]
  exact Or.inr rfl

theorem steady_startDataHeader (even : data.length % 2 = 0) (length : Nat) :
    Steady keys fun keyCache => ctx.startDataHeader firmware keyCache data length := by
  simp only [startDataHeader]
  by_cases available : ctx.isUpgradeHdrAvailable = true
  · by_cases short : length < partitionSecondHeaderSize + firstWordSize
    · simp only [available, Bool.true_eq_false, and_false, if_false, if_pos short]
      exact Steady.of_error (by decide)
    · simp only [available, Bool.true_eq_false, and_false, if_false, if_neg short]
      refine steady_saveHeaderThen works (sound.placed available) even fun store' ready _ => ?_
      exact ⟨⟨sound.incompleteData, sound.signature, sound.signatureReceived, rfl, ready.restart,
        fun _ => ready, fun none => Bool.noConfusion (available.symm.trans none)⟩,
        rfl, dataHeaderSize_lt, rfl, fun none => Bool.noConfusion (available.symm.trans none)⟩
  · have missing : ctx.isUpgradeHdrAvailable = false := Bool.eq_false_iff.mpr available
    simp only [missing, (sound.headed missing).1, and_self, if_true]
    exact Steady.of_error (by decide)

theorem steady_startFooter (available : ctx.isUpgradeHdrAvailable = true)
    (even : data.length % 2 = 0) (length : Nat) :
    Steady keys fun keyCache => ctx.startFooter firmware keyCache data length := by
  simp only [startFooter]
  by_cases other : length ≠ expectedSignatureSize
  · simp only [if_pos other]
    exact Steady.of_error (by decide)
  · obtain rfl := not_not.mp other
    simp only [if_neg other]
    refine steady_saveHeaderThen works (sound.placed available) even fun store' ready success => ?_
    have memory : ∀ signature, (if ctx.signature = none then firmware.malloc else ctx.signature) =
        some signature → signature.length = expectedSignatureSize := by
      intro signature known
      by_cases fresh : ctx.signature = none
      · rw [if_pos fresh] at known
        exact firmware.malloc_length signature known
      · rw [if_neg fresh] at known
        exact sound.signature signature known
    by_cases lacking : (if ctx.signature = none then firmware.malloc else ctx.signature) = none
    · rw [if_pos (by exact lacking)] at success
      contradiction
    · rw [if_neg (by exact lacking)]
      exact ⟨⟨sound.incompleteData, memory, sound.signatureReceived, rfl, ready.restart,
        fun _ => ready, fun none => Bool.noConfusion (available.symm.trans none)⟩, rfl,
        expectedSignatureSize_lt, rfl, fun none => Bool.noConfusion (available.symm.trans none)⟩

theorem steady_handleGeneric1stPartState (state : ctx.state = .generic1stPart)
    (even : data.length % 2 = 0)
    (headed : ctx.isUpgradeHdrAvailable = false → idField data ≠ idField footerID) :
    Steady keys fun keyCache => ctx.handleGeneric1stPartState firmware keyCache data := by
  simp only [handleGeneric1stPartState]
  by_cases short : data.length < headerFirstPartSize
  · simp only [if_pos short]
    exact Steady.of_error (by decide)
  simp only [if_neg short]
  cases read : get4Bytes data idFieldSize with
  | none => exact Steady.of_none
  | some length =>
    by_cases header : idField data = idField headerID
    · simp only [if_pos header]
      exact steady_startHeader works sound even (get4Bytes_lt read)
    simp only [if_neg header]
    by_cases caseFile : firmware.caseSupported = true ∧ idField data = idField extCaseDfuFileHeader
    · simp only [if_pos caseFile]
      exact steady_startCaseFile works sound state even length
    simp only [if_neg caseFile]
    by_cases partition : idField data = idField partitionID
    · simp only [if_pos partition]
      exact steady_startDataHeader works sound even length
    simp only [if_neg partition]
    by_cases footer : idField data = idField footerID
    · simp only [if_pos footer]
      have available : ctx.isUpgradeHdrAvailable = true := by
        by_contra missing
        exact headed (Bool.eq_false_iff.mpr missing) footer
      exact steady_startFooter works sound available even length
    · simp only [if_neg footer]
      exact Steady.of_error (by decide)

end

theorem Sound.available (sound : Sound keys ctx) (state : ctx.state ≠ .generic1stPart) :
    ctx.isUpgradeHdrAvailable = true := by
  by_contra missing
  exact state (sound.headed (Bool.eq_false_iff.mpr missing)).2

theorem steady_handleHeaderState (works : firmware.Works) (sound : Sound keys ctx)
    (state : ctx.state = .header) :
    Steady keys fun keyCache => ctx.handleHeaderState firmware keyCache data := by
  have available := sound.available (by rw [state]; decide)
  simp only [handleHeaderState]
  cases checked : checkHeader firmware ctx.psKeys data with
  | none => exact Steady.of_none
  | some result =>
    rcases checkHeader_cases checked with (rfl | rfl | rfl) | ⟨versions, rfl, even⟩
    · exact Steady.of_error (by decide)
    · exact Steady.of_error (by decide)
    · exact Steady.of_error (by decide)
    · refine steady_saveHeaderThen works (by exact sound.placed available) even
        fun store' ready _ => ?_
      exact ⟨⟨sound.incompleteData, sound.signature, sound.signatureReceived, Or.inl rfl,
        ready.restart, fun _ => ready,
        fun none => Bool.noConfusion (available.symm.trans none)⟩, rfl, headerFirstPartSize_lt,
        rfl, fun none => Bool.noConfusion (available.symm.trans none)⟩

/-- What the parser keeps while it deals with a partition. -/
structure SameParser (ctx next : UpgradeCtx) : Prop where
  incompleteData : next.incompleteData = ctx.incompleteData
  signature : next.signature = ctx.signature
  signatureReceived : next.signatureReceived = ctx.signatureReceived
  headerStore : next.headerStore = ctx.headerStore
  isUpgradeHdrAvailable : next.isUpgradeHdrAvailable = ctx.isUpgradeHdrAvailable

theorem sameParser_partitionClose (firmware : Firmware) (ctx : UpgradeCtx) :
    SameParser ctx (ctx.partitionClose firmware).2 := by
  rw [partitionClose]
  split
  · exact ⟨rfl, rfl, rfl, rfl, rfl⟩
  · split
    · exact ⟨rfl, rfl, rfl, rfl, rfl⟩
    · split <;> exact ⟨rfl, rfl, rfl, rfl, rfl⟩

theorem partitionClose_request (firmware : Firmware) (ctx : UpgradeCtx) :
    (ctx.partitionClose firmware).2.totalReceivedSize = ctx.totalReceivedSize ∧
      (ctx.partitionClose firmware).2.totalReqSize = ctx.totalReqSize ∧
      (ctx.partitionClose firmware).2.newReqSize = ctx.newReqSize ∧
      (ctx.partitionClose firmware).2.state = ctx.state := by
  rw [partitionClose]
  split
  · exact ⟨rfl, rfl, rfl, rfl⟩
  · split
    · exact ⟨rfl, rfl, rfl, rfl⟩
    · split <;> exact ⟨rfl, rfl, rfl, rfl⟩

theorem SameParser.available (same : SameParser ctx next)
    (available : ctx.isUpgradeHdrAvailable = true) : next.isUpgradeHdrAvailable = true :=
  same.isUpgradeHdrAvailable.trans available

theorem Sound.sameParser (sound : Sound keys ctx) (same : SameParser ctx next)
    (available : ctx.isUpgradeHdrAvailable = true) (shape : next.Shape) : Sound keys next := by
  have ready := sound.placed available
  refine ⟨same.incompleteData.trans sound.incompleteData, ?_, ?_, shape, ?_, fun _ => ?_, ?_⟩
  · rw [same.signature]
    exact sound.signature
  · rw [same.signatureReceived]
    exact sound.signatureReceived
  · rw [restartHeaders, same.headerStore]
    exact ready.restart
  · rw [same.headerStore]
    exact ready
  · rw [same.available available]
    exact fun none => Bool.noConfusion none

theorem Sound.ready (sound : Sound keys ctx)
    (available : ctx.isUpgradeHdrAvailable = true) (same : SameParser ctx next)
    (received : next.totalReceivedSize = 0) (small : next.totalReqSize < 2 ^ 32)
    (new : next.newReqSize = next.totalReqSize) (shape : next.Shape) : Ready keys next :=
  ⟨sound.sameParser same available shape, received, small, new,
    fun none => Bool.noConfusion ((same.available available).symm.trans none)⟩

theorem sub32_lt (left right : Nat) : sub32 left right < 2 ^ 32 := Nat.mod_lt _ (by decide)

theorem Sound.ready_requestData (sound : Sound keys ctx)
    (available : ctx.isUpgradeHdrAvailable = true) {size : Nat} (small : size < 2 ^ 32)
    (offset : Nat) : Ready keys { ctx.requestData size offset with state := .data } :=
  sound.ready available ⟨rfl, rfl, rfl, rfl, rfl⟩ rfl small rfl trivial

theorem Sound.ready_startPartition (sound : Sound keys ctx)
    (available : ctx.isUpgradeHdrAvailable = true) (partition : Nat)
    (success : (ctx.startPartition firmware partition).1 = .success) :
    Ready keys (ctx.startPartition firmware partition).2 := by
  rw [startPartition] at success ⊢
  dsimp only at success ⊢
  split at success
  · rename_i more
    rw [if_pos more]
    exact sound.ready_requestData available (sub32_lt _ _) _
  · rename_i more
    rw [if_neg more]
    split at success
    · rename_i whole
      rw [if_pos whole]
      have same := sameParser_partitionClose firmware ctx
      split at success
      · rename_i failed
        exact absurd success failed
      · rename_i closed
        rw [if_neg closed]
        exact sound.ready available { same with } rfl headerFirstPartSize_lt rfl (Or.inl rfl)
    · contradiction

theorem sameParser_ensureOpen (firmware : Firmware) (ctx : UpgradeCtx) (partNum firstWord : Nat) :
    SameParser ctx (ctx.ensureOpen firmware partNum firstWord) := by
  rw [ensureOpen, partitionOpen]
  split
  · split <;> exact ⟨rfl, rfl, rfl, rfl, rfl⟩
  · exact ⟨rfl, rfl, rfl, rfl, rfl⟩

section

variable (sound : Sound keys ctx) (available : ctx.isUpgradeHdrAvailable = true)
  (partNum firstWord : Nat)

include sound available partNum firstWord

theorem Sound.ensureOpen : Sound keys (ctx.ensureOpen firmware partNum firstWord) := by
  refine sound.sameParser (sameParser_ensureOpen firmware ctx partNum firstWord) available ?_
  rw [UpgradeCtx.ensureOpen, partitionOpen]
  split
  · split <;> exact sound.shape
  · exact sound.shape

theorem Sound.ready_handlePartition
    (success : (ctx.handlePartition firmware partNum firstWord).1 = .success) :
    Ready keys (ctx.handlePartition firmware partNum firstWord).2 := by
  rw [handlePartition] at success ⊢
  split at success
  · contradiction
  · rename_i known
    rw [if_neg known]
    dsimp only at success ⊢
    split at success
    · rename_i done
      rw [if_pos done]
      exact sound.ready available ⟨rfl, rfl, rfl, rfl, rfl⟩ rfl headerFirstPartSize_lt rfl
        (Or.inl rfl)
    · rename_i done
      rw [if_neg done]
      split at success
      · contradiction
      · rename_i large
        rw [if_neg large]
        split at success
        · contradiction
        · rename_i partition opened
          have marked : Sound keys { ctx with
              partitionMap := ctx.partitionMap ||| 1 <<< partNum } :=
            sound.sameParser ⟨rfl, rfl, rfl, rfl, rfl⟩ available sound.shape
          have same := sameParser_ensureOpen firmware
            { ctx with partitionMap := ctx.partitionMap ||| 1 <<< partNum } partNum firstWord
          exact (marked.ensureOpen available partNum firstWord).ready_startPartition
            (same.available available) partition success

end

theorem steady_handleDataHeaderState (works : firmware.Works) (sound : Sound keys ctx)
    (state : ctx.state = .dataHeader) :
    Steady keys fun keyCache => ctx.handleDataHeaderState firmware keyCache data := by
  have available := sound.available (by rw [state]; decide)
  simp only [handleDataHeaderState]
  by_cases short : data.length < partitionSecondHeaderSize + firstWordSize
  · simp only [if_pos short]
    exact Steady.of_error (by decide)
  simp only [if_neg short]
  have even : (data.take (partitionSecondHeaderSize + firstWordSize)).length % 2 = 0 := by
    rw [List.length_take, Nat.min_eq_left (Nat.not_lt.mp short)]
    rfl
  split
  · rename_i sqifNum partNum firstWord _ _ _
    by_cases invalid : isValidPartitionNum partNum = false
    · simp only [if_pos invalid]
      exact Steady.of_error (by decide)
    simp only [if_neg invalid]
    by_cases wrongSqif : isValidSqifNum sqifNum = false
    · simp only [if_pos wrongSqif]
      exact Steady.of_error (by decide)
    simp only [if_neg wrongSqif]
    refine steady_saveHeaderThen works (sound.placed available) even fun store' ready success => ?_
    have stored : Sound keys (ctx.withStore store') :=
      ⟨sound.incompleteData, sound.signature, sound.signatureReceived, sound.shape, ready.restart,
        fun _ => ready, sound.headed⟩
    exact stored.ready_handlePartition available partNum firstWord success
  · exact Steady.of_none

theorem Sound.ready_finishPartition (sound : Sound keys ctx)
    (available : ctx.isUpgradeHdrAvailable = true)
    (success : (ctx.finishPartition firmware).1 = .success) :
    Ready keys (ctx.finishPartition firmware).2 := by
  rw [finishPartition] at success ⊢
  dsimp only at success ⊢
  split at success
  · rename_i failed
    exact absurd success failed
  · rename_i closed
    rw [if_neg closed]
    have same := sameParser_partitionClose firmware
      { ctx.requestData headerFirstPartSize 0 with state := .generic1stPart }
    obtain ⟨received, total, new, state⟩ := partitionClose_request firmware
      { ctx.requestData headerFirstPartSize 0 with state := .generic1stPart }
    refine sound.ready available { same with } received ?_ (new.trans total.symm) ?_
    · change (partitionClose firmware _).2.totalReqSize < _
      rw [total]
      exact headerFirstPartSize_lt
    · change (match (partitionClose firmware _).2.state with
        | .generic1stPart => (partitionClose firmware _).2.totalReqSize = _ ∨ _
        | .dataHeader => _ | .footer => _ | .header | .data => _)
      rw [state]
      exact Or.inl total

theorem partitionWrite_withFlash {result : Nat × UpgradeCtx}
    (wrote : ctx.partitionWrite firmware data = some result) :
    ∃ flash, result.2 = ctx.withFlash flash := by
  rw [partitionWrite] at wrote
  split at wrote
  · cases wrote
    exact ⟨ctx.flash, rfl⟩
  · obtain ⟨⟨flash, remaining⟩, _, rfl⟩ := Option.map_eq_some_iff.mp wrote
    exact ⟨flash, rfl⟩

theorem Sound.steady_parseWhole (sound : Sound keys ctx) (works : firmware.Works)
    (whole : data.length = ctx.totalReqSize)
    (headed : ctx.isUpgradeHdrAvailable = false → idField data ≠ idField footerID) :
    Steady keys fun keyCache => ctx.parseWhole firmware keyCache data := by
  have shape := sound.shape
  rw [Shape] at shape
  simp only [parseWhole]
  cases state : ctx.state with
  | generic1stPart =>
    rw [state] at shape
    have even : data.length % 2 = 0 := by
      rcases shape with first | nothing
      · rw [whole, first]
        rfl
      · rw [whole, nothing]
    exact steady_handleGeneric1stPartState works sound state even headed
  | header => exact steady_handleHeaderState works sound state
  | dataHeader => exact steady_handleDataHeaderState works sound state
  | data =>
    have available := sound.available (by rw [state]; decide)
    simp only [handleDataState]
    cases wrote : ctx.partitionWrite firmware data with
    | none => exact Steady.of_none
    | some result =>
      obtain ⟨flash, same⟩ := partitionWrite_withFlash wrote
      simp only [map_some]
      refine Steady.of_answer fun success => ?_
      by_cases short : data.length ≠ result.1
      · rw [if_pos short] at success
        contradiction
      · rw [if_neg short, if_pos trivial, same] at success ⊢
        have written : Sound keys (ctx.withFlash flash) :=
          { sound with }
        exact written.ready_finishPartition available success
  | footer =>
    rw [state] at shape
    have available := sound.available (by rw [state]; decide)
    simp only [handleFooterState]
    by_cases ignored : ctx.isDataXferComplete = true
    · simp only [if_pos ignored]
      exact Steady.of_answer fun success => by contradiction
    · simp only [if_neg ignored]
      refine steady_saveHeaderThen works (by exact sound.placed available)
        (by rw [whole, shape]; rfl) fun store' _ success => by contradiction

end Stack

/-- What is seen of an answer: the signature only once the transfer is complete. -/
structure Observed where
  status : HostErrorCode
  requests : List (Nat × Nat)
  flash : Flash
  headers : List (List UInt8)
  signature : Option (List UInt8)
  signingMode : UInt8
  deriving DecidableEq

def observe (answer : HostErrorCode × UpgradeCtx) : Observed :=
  { answer.2 with
    status := answer.1
    headers := (List.range dfuHeaderPskeyLen).map fun index =>
      answer.2.headerStore.psKeys (dfuHeaderPskeyStart + index)
    signature := if answer.1 = .dataTransferComplete then answer.2.signature else none
    signingMode := answer.2.signingMode }

end UpgradeCtx

def HeaderStore.position (store : HeaderStore) : Nat :=
  pskeyMaxStorageLengthInBytes * (store.dfuHeaderPskey - dfuHeaderPskeyStart) +
    store.dfuHeaderPskeyOffset

def HeaderStore.AtEnd (store : HeaderStore) : Prop :=
  (storedBytes store.psKeys).length = store.position

theorem Holds.position {keys : PsKeys} {store : HeaderStore} {bytes : List UInt8} {position : Nat}
    (holds : Holds keys store bytes position) : store.position = position := by
  have pskey := holds.pskey
  have offset := holds.offset
  rw [HeaderStore.position, pskeyMaxStorageLengthInBytes, dfuHeaderPskeyStart]
  omega

namespace UpgradeCtx

section Blocks

variable {firmware : Firmware} {ctx : UpgradeCtx} {keys : PsKeys} {keyCache data : List UInt8}
  {packets : Packets}

/-- How a block may be cut: a main header as long as it fits the buffer, or is refused for its
length anyway; the footer where it is put behind all headers, and fills words. -/
def AllowsCut (firmware : Firmware) (ctx : UpgradeCtx) (packets : Packets) : Prop :=
  packets.length = 1 ∨
    match ctx.state with
    | .header => packets.block.length ≤ maxPartitionDataBlockSize ∨
        checkHeader firmware ctx.psKeys packets.block = some (.error .badLengthUpgradeHeader)
    | .footer => ctx.isDataXferComplete = true ∨
        ctx.headerStore.AtEnd ∧ KeepsPieces ctx.headerStore.position (packets.map Prod.snd)
    | .generic1stPart | .dataHeader | .data => True

theorem allowsCut_header (state : ctx.state = .header)
    (fits : packets.block.length ≤ maxPartitionDataBlockSize) :
    ctx.AllowsCut firmware packets := by
  rw [AllowsCut, state]
  exact Or.inr (Or.inl fits)

theorem Waiting.parse_whole (waiting : ctx.Waiting) (firmware : Firmware) (keyCache : List UInt8)
    (whole : data.length = ctx.totalReqSize) :
    ctx.parse firmware keyCache data =
      (ctx.receive data.length).parseWhole firmware keyCache data := by
  rw [parse_eq rfl (by exact waiting.incompleteData) (waiting.received (Nat.le_of_eq whole))
    (Nat.le_of_eq whole), if_pos (by exact whole)]

theorem Sound.awaitsSignature (sound : Sound keys ctx) (waiting : ctx.Waiting)
    (state : ctx.state = .footer) : ctx.AwaitsSignature := by
  have shape := sound.shape
  rw [Shape, state] at shape
  exact ⟨waiting, state, shape, sound.signature, sound.signatureReceived⟩

theorem Sound.observe_footer (sound : Sound keys ctx) (works : firmware.Works)
    (waiting : ctx.Waiting) (state : ctx.state = .footer)
    (transfers : ctx.isDataXferComplete = false) (atEnd : ctx.headerStore.AtEnd)
    (keeps : KeepsPieces ctx.headerStore.position (packets.map Prod.snd))
    (proper : packets.Proper) (some : packets ≠ []) (length : keyCache.length = 64)
    (whole : packets.block.length = ctx.totalReqSize) :
    (∀ next, ctx.parse firmware keyCache packets.block ≠ Option.some (.success, next)) ∧
      (ctx.parseAll firmware packets).map observe =
        (ctx.parse firmware keyCache packets.block).map observe := by
  have awaits := sound.awaitsSignature waiting state
  obtain ⟨bytes, position, holds, inKeys, even⟩ :=
    sound.placed (sound.available (by rw [state]; decide))
  have size := awaits.size
  rw [holds.position] at keeps
  have all : bytes.length = position := by
    rw [HeaderStore.AtEnd, holds.storedBytes, holds.position] at atEnd
    exact atEnd
  subst all
  have evenAll : (bytes ++ packets.block).length % 2 = 0 := by
    rw [length_append, whole, size, expectedSignatureSize]
    omega
  have single : Packets.Proper [(keyCache, packets.block)] := by
    intro packet member
    rw [List.mem_singleton.mp member]
    exact ⟨length, Packets.block_ne_nil proper some⟩
  have block : Packets.block [(keyCache, packets.block)] = packets.block := append_nil _
  obtain ⟨answer, parsed, footerEnd⟩ := awaits.signed.parseAll works awaits transfers holds inKeys
    List.take_length (Nat.le_succ _) proper some keeps
      (by rw [length_nil, Nat.zero_add, whole])
    evenAll
  obtain ⟨answer', parsed', footerEnd'⟩ := awaits.signed.parseAll works awaits transfers holds
    inKeys List.take_length (Nat.le_succ _) single (List.cons_ne_nil _ _)
    ⟨fun _ loses => by have odd := loses.1; omega, trivial⟩
    (by rw [length_nil, Nat.zero_add, block, whole]) (by rw [block]; exact evenAll)
  rw [parseAll_singleton] at parsed'
  rw [block] at footerEnd'
  rw [parsed, parsed']
  obtain ⟨place, holdsEnd⟩ := footerEnd.headers
  obtain ⟨place', holdsEnd'⟩ := footerEnd'.headers
  have sameKeys := holdsEnd'.psKeys_eq holdsEnd
  have sameStatus := footerEnd.status.trans footerEnd'.status.symm
  refine ⟨fun next success => ?_, ?_⟩
  · have status := footerEnd'.status
    rw [Option.some.inj success] at status
    split at status <;> contradiction
  · rw [map_some, map_some, observe, observe, sameStatus, sameKeys,
      footerEnd.requests, footerEnd'.requests, footerEnd.flash, footerEnd'.flash,
      footerEnd.signingMode, footerEnd'.signingMode]
    by_cases complete : answer'.1 = .dataTransferComplete
    · rw [if_pos complete, if_pos complete, footerEnd.signature (sameStatus.trans complete),
        footerEnd'.signature complete]
    · rw [if_neg complete, if_neg complete]

theorem AwaitsSignature.parseAll_ignored {before : UpgradeCtx} (awaits : before.AwaitsSignature)
    (ignored : before.isDataXferComplete = true)
    (proper : packets.Proper) (some : packets ≠ [])
    (whole : packets.block.length = before.totalReqSize) :
    before.parseAll firmware packets =
      Option.some ((before.receive before.totalReqSize).finishFooter true) := by
  refine parseAll_stages
    (fun pre ctx => ∀ more, ctx.receive more = before.receive (pre.length + more))
    (fun _ answer =>
      answer = Option.some ((before.receive before.totalReqSize).finishFooter true))
    (fun pre ctx keyCache data arrived _ inside => ?_)
    (fun more => by rw [length_nil, Nat.zero_add]) proper some
    (by rw [length_nil, Nat.zero_add, whole])
  have handled (reqComplete : Bool) :
      (before.receive (pre.length + data.length)).handleFooterState firmware keyCache data
        reqComplete =
      Option.some ((before.receive (pre.length + data.length)).finishFooter reqComplete) :=
    if_pos ignored
  rw [parse_eq (arrived _) (by exact awaits.incompleteData) (awaits.received inside)
    (by exact inside), (parse_footer (by exact awaits.state)).1,
    (parse_footer (by exact awaits.state)).2, handled, handled]
  split
  · rename_i all
    rw [if_pos (by exact all), all]
  · rename_i notAll
    refine ⟨_, if_neg (by exact notAll), fun size => ?_⟩
    rw [length_append, ← receive_receive before (pre.length + data.length)]

theorem error_ne_success {code : HostErrorCode} {next : UpgradeCtx} (error : code ≠ .success) :
    some (code, ctx) ≠ some (.success, next) :=
  fun same => error (congrArg Prod.fst (Option.some.inj same))

theorem Waiting.parse_closed (waiting : ctx.Waiting) (state : ctx.state = .data)
    (closed : ctx.partitionHdl = none) (firmware : Firmware) (keyCache : List UInt8)
    (some : data ≠ [])
    (inside : data.length ≤ ctx.totalReqSize) :
    ctx.parse firmware keyCache data =
      Option.some (.partitionWriteFailedData, ctx.receive data.length) := by
  have handled (reqComplete : Bool) :
      (ctx.receive data.length).handleDataState firmware data reqComplete =
        Option.some (.partitionWriteFailedData, ctx.receive data.length) := by
    have notWritten : (ctx.receive data.length).partitionWrite firmware data =
        Option.some (0, ctx.receive data.length) := by
      have closed' : (ctx.receive data.length).partitionHdl = none := closed
      rw [partitionWrite, closed']
    have nonempty : data.length ≠ 0 := fun zero => some (List.eq_nil_of_length_eq_zero zero)
    rw [handleDataState, notWritten, map_some]
    dsimp only
    rw [if_pos nonempty]
  have inData : (ctx.receive data.length).state = .data := state
  rw [parse_eq rfl (by exact waiting.incompleteData) (waiting.received inside) inside, (parse_data inData).1, (parse_data inData).2, handled,
    handled, ite_self]

theorem Sound.parseAll_block (sound : Sound keys ctx) (works : firmware.Works)
    (waiting : ctx.Waiting) (proper : packets.Proper) (some : packets ≠ [])
    (length : keyCache.length = 64) (whole : packets.block.length = ctx.totalReqSize)
    (headed : ctx.isUpgradeHdrAvailable = false → idField packets.block ≠ idField footerID)
    (allowed : ctx.AllowsCut firmware packets) :
    (∀ next, ctx.parse firmware keyCache packets.block = Option.some (.success, next) →
      Ready keys next ∧ ctx.parseAll firmware packets = Option.some (.success, next)) ∧
    (ctx.parseAll firmware packets).map observe =
      (ctx.parse firmware keyCache packets.block).map observe := by
  have received := sound.receive packets.block.length
  obtain ⟨answer, steady', ready⟩ := received.steady_parseWhole works whole headed
  have steady (keyCache : List UInt8) (length : keyCache.length = 64) :
      (ctx.receive packets.block.length).parseWhole firmware keyCache packets.block = answer :=
    steady' keyCache length
  have parsed : ctx.parse firmware keyCache packets.block = answer := by
    rw [waiting.parse_whole firmware keyCache whole]
    exact steady keyCache length
  have same (parsedAll : ctx.parseAll firmware packets = answer) :
      (∀ next, ctx.parse firmware keyCache packets.block = Option.some (.success, next) →
        Ready keys next ∧ ctx.parseAll firmware packets = Option.some (.success, next)) ∧
      (ctx.parseAll firmware packets).map observe =
        (ctx.parse firmware keyCache packets.block).map observe := by
    rw [parsed, parsedAll]
    exact ⟨fun next success => ⟨ready next success, success⟩, rfl⟩
  have collects (state : ctx.CollectsHeader)
      (fits : ctx.totalReqSize ≤ maxPartitionDataBlockSize) :
      ctx.parseAll firmware packets = answer := by
    obtain ⟨keyCache', length', parsedAll⟩ := waiting.collected.parseAll waiting state
      firmware proper some (by rw [length_nil, Nat.zero_add, whole]) fits
    rw [parsedAll, nil_append, ← whole]
    exact steady keyCache' length'
  have shape := sound.shape
  rw [Shape] at shape
  by_cases single : packets.length = 1
  · obtain ⟨⟨keyCache', data⟩, rfl⟩ := List.length_eq_one_iff.mp single
    have block : Packets.block [(keyCache', data)] = data := append_nil _
    refine same ?_
    rw [block] at whole
    rw [parseAll_singleton, waiting.parse_whole firmware keyCache' whole]
    have parsedAll := steady keyCache' (proper_cons proper).1
    rw [block] at parsedAll
    exact parsedAll
  have pieces := allowed.resolve_left single
  have start : ([] : List UInt8).length + packets.block.length = ctx.totalReqSize := by
    rw [length_nil, Nat.zero_add, whole]
  cases state : ctx.state with
  | generic1stPart =>
    rw [state] at shape
    have fits : ctx.totalReqSize ≤ maxPartitionDataBlockSize := by
      rw [headerFirstPartSize] at shape
      rw [maxPartitionDataBlockSize]
      omega
    exact same (collects (Or.inl state) fits)
  | header =>
    rw [state] at pieces
    by_cases fits : packets.block.length ≤ maxPartitionDataBlockSize
    · exact same (collects (Or.inr (Or.inl state)) (by rw [← whole]; exact fits))
    · have refused := pieces.resolve_left fits
      have positive := List.length_pos_iff.mpr some
      obtain ⟨size, bytes, parsedAll⟩ := waiting.collected.parseAll_refused
        waiting (Or.inr (Or.inl state)) firmware proper (Or.inr (by omega)) start
        (Nat.zero_le _) (by omega)
      have parsedWhole : ctx.parse firmware keyCache packets.block =
          Option.some (.badLengthUpgradeHeader, ctx.receive packets.block.length) := by
        have refused' : checkHeader firmware (ctx.receive packets.block.length).psKeys
            packets.block = Option.some (.error .badLengthUpgradeHeader) := refused
        have state' : (ctx.receive packets.block.length).state = .header := state
        rw [waiting.parse_whole firmware keyCache whole, parseWhole, state']
        rw [handleHeaderState, refused']
      rw [parsedAll, parsedWhole]
      exact ⟨fun next success => absurd success (error_ne_success (by decide)), rfl⟩
  | dataHeader =>
    rw [state] at shape
    exact same (collects (Or.inr (Or.inr state)) (by rw [shape]; decide))
  | data =>
    cases handle : ctx.partitionHdl with
    | none =>
      have parsedWhole := waiting.parse_closed state handle firmware keyCache
        (Packets.block_ne_nil proper some) (Nat.le_of_eq whole)
      cases packets with
      | nil => contradiction
      | cons packet packets =>
        obtain ⟨keyCache', data⟩ := packet
        rw [block_cons, length_append] at whole
        have inside : data.length ≤ ctx.totalReqSize := by omega
        rw [parsedWhole, parseAll_cons, waiting.parse_closed state handle
          firmware keyCache' (proper_cons proper).2.1 inside]
        exact ⟨fun next success => absurd success (error_ne_success (by decide)), rfl⟩
    | some partition =>
      have handle' : (ctx.receive packets.block.length).partitionHdl =
          Option.some partition := handle
      have state' : (ctx.receive packets.block.length).state = .data := state
      refine same ?_
      rw [(written_nil ctx partition).parseAll works waiting state handle proper some start,
        ← steady keyCache length, parseWhole, state', ← whole]
      rw [handleDataState_eq works handle', if_pos rfl]
      rfl
  | footer =>
    rw [state] at pieces
    have awaits := sound.awaitsSignature waiting state
    by_cases ignored : ctx.isDataXferComplete = true
    · have ignored' : (ctx.receive packets.block.length).isDataXferComplete = true := ignored
      have state' : (ctx.receive packets.block.length).state = .footer := state
      refine same ?_
      rw [awaits.parseAll_ignored ignored proper some whole,
        ← steady keyCache length, parseWhole, state', ← whole]
      rw [handleFooterState, if_pos ignored']
    · obtain ⟨atEnd, keeps⟩ := pieces.resolve_left ignored
      obtain ⟨ends, observed⟩ := sound.observe_footer works waiting state
        (Bool.eq_false_iff.mpr ignored) atEnd keeps proper some length whole
      exact ⟨fun next success => absurd success (ends next), observed⟩

end Blocks

end UpgradeCtx

end HeadsetAdk.Upgrade
