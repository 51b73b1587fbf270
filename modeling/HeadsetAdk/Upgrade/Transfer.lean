import HeadsetAdk.Upgrade.Packets

/-! # The transfer of an upgrade file -/

namespace HeadsetAdk.Upgrade

open UpgradeCtx

structure Cut where
  packets : Nat → List UInt8 → Packets
  proper : ∀ index block, (packets index block).Proper
  block : ∀ index block, (packets index block).block = block

def Cut.Whole (cut : Cut) : Prop :=
  ∀ index block, block ≠ [] → (cut.packets index block).length = 1

def offered (file : List UInt8) (start size : Nat) : Option (List UInt8) :=
  if size = 0 ∨ file.length < start + size then none else some ((file.drop start).take size)

/-- So many blocks of the file, while the host has what is requested and each is answered with
success.  The offset of a request counts from the end of the block before. -/
def transfer (firmware : Firmware) (file : List UInt8) (cut : Cut) :
    Nat → Nat → Nat → UpgradeCtx → Option (HostErrorCode × UpgradeCtx)
  | 0, _, _, ctx => some (.success, ctx)
  | blocks + 1, index, position, ctx =>
      let (size, asked) := ctx.getNextReqSize
      let start := (position + asked.offset) % 2 ^ 32
      match offered file start size with
      | none => some (.success, asked)
      | some block =>
          (asked.parseAll firmware (cut.packets index block)).bind fun (code, next) =>
            if code = .success then
              transfer firmware file cut blocks (index + 1) (start + size) next
            else some (code, next)

def AllowsCuts (firmware : Firmware) (file : List UInt8) (cut : Cut) :
    Nat → Nat → Nat → UpgradeCtx → Prop
  | 0, _, _, _ => True
  | blocks + 1, index, position, ctx =>
      let (size, asked) := ctx.getNextReqSize
      let start := (position + asked.offset) % 2 ^ 32
      ∀ block, offered file start size = some block →
        asked.AllowsCut firmware (cut.packets index block) ∧
          ∀ next, asked.parseAll firmware (cut.packets index block) = some (.success, next) →
            AllowsCuts firmware file cut blocks (index + 1) (start + size) next

def plainFirmware : Firmware where
  deviceVariant := []
  caseSupported := false
  physPartitionSize := fun _ => 2 ^ 20
  streamGetSink := fun _ _ _ => true
  sinkGetPosition := fun _ _ => 0
  sinkSlack := fun _ _ => 1024
  sinkFlush := fun _ _ _ => true
  sinkClose := fun _ _ => true
  psSpaceForCriticalOperations := fun _ => true
  psStore := fun _ _ _ => true
  malloc := some (List.replicate 256 0)
  malloc_length := fun memory same => by
    cases same
    exact List.length_replicate

def plainDevice : UpgradeCtx where
  newReqSize := 0
  totalReqSize := 0
  totalReceivedSize := 0
  chunkReceivedSize := 0
  offset := 0
  incompleteData := []
  state := .generic1stPart
  partitionHdl := none
  partitionLength := 0
  signature := none
  signatureReceived := 0
  openNextPartition := false
  isUpgradeHdrAvailable := false
  headerStore := ⟨fun _ => [], 0, 0⟩
  partitionNum := 0
  partitionMap := 0
  psKeys := ⟨(1, 0), 0, (0, 0), 0, false, 0, 0⟩
  savedPsKeys := ⟨(1, 0), 0, (0, 0), 0, false, 0, 0⟩
  signingMode := 1
  dfuFileOffset := 0
  isDataXferComplete := false
  caseDfuHeaderLength := 0
  caseDfuInProgress := false
  mainTask := []
  flash := []
  requests := []

def Cut.atPlace (place : Nat) (positive : 0 < place) : Cut where
  packets _ block :=
    if block = [] then []
    else if block.length ≤ place then [(List.replicate 64 0, block)]
    else [(List.replicate 64 0, block.take place), (List.replicate 64 0, block.drop place)]
  proper _ block packet member := by
    by_cases none : block = []
    · rw [if_pos none] at member
      contradiction
    · have some := List.length_pos_iff.mpr none
      rw [if_neg none] at member
      by_cases small : block.length ≤ place
      · rw [if_pos small, List.mem_singleton] at member
        rw [member]
        exact ⟨List.length_replicate, none⟩
      · rw [if_neg small, List.mem_pair] at member
        rcases member with rfl | rfl
        · refine ⟨List.length_replicate, List.ne_nil_of_length_pos ?_⟩
          rw [List.length_take]
          omega
        · refine ⟨List.length_replicate, List.ne_nil_of_length_pos ?_⟩
          rw [List.length_drop]
          omega
  block _ block := by
    by_cases none : block = []
    · rw [if_pos none, none]
      rfl
    · rw [if_neg none]
      by_cases small : block.length ≤ place
      · rw [if_pos small]
        exact List.append_nil _
      · rw [if_neg small]
        calc
          _ = block.take place ++ (block.drop place ++ []) := rfl
          _ = block := by rw [List.append_nil, List.take_append_drop]

def Cut.whole : Cut where
  packets _ block := if block = [] then [] else [(List.replicate 64 0, block)]
  proper _ block packet member := by
    by_cases none : block = []
    · rw [if_pos none] at member
      contradiction
    · rw [if_neg none, List.mem_singleton] at member
      rw [member]
      exact ⟨List.length_replicate, none⟩
  block _ block := by
    by_cases none : block = []
    · rw [if_pos none, none]
      rfl
    · rw [if_neg none]
      exact List.append_nil _

theorem Cut.whole_whole : Cut.whole.Whole := by
  intro index block some
  rw [whole]
  dsimp only
  rw [if_neg some]
  rfl

def headerFile (versions : Nat) : List UInt8 :=
  headerID ++ [0, 0, 0, UInt8.ofNat (20 + 4 * versions)] ++ List.replicate 8 65 ++
    [0, 2, 0, 0, 0, UInt8.ofNat versions] ++ (List.replicate versions [0, 1, 0, 0]).flatten ++
    [0, 0, 0, 0, 0, 1]

section Runs

variable {firmware : Firmware} {file : List UInt8} {cut whole : Cut} {keys : PsKeys}
  {ctx : UpgradeCtx} {index position : Nat} {block : List UInt8} {blocks : Nat}

theorem length_offered {start size : Nat}
    (sent : offered file start size = some block) : block.length = size ∧ block ≠ [] := by
  rw [offered] at sent
  split at sent
  · contradiction
  · rename_i enough
    cases sent
    have length : ((file.drop start).take size).length = size := by
      rw [List.length_take, List.length_drop]
      omega
    refine ⟨length, fun nothing => ?_⟩
    rw [nothing, List.length_nil] at length
    exact enough (Or.inl length.symm)

theorem Cut.Whole.packets (isWhole : whole.Whole) (index : Nat) (some : block ≠ []) :
    ∃ keyCache : List UInt8, keyCache.length = 64 ∧
      whole.packets index block = [(keyCache, block)] := by
  obtain ⟨⟨keyCache, data⟩, single⟩ := List.length_eq_one_iff.mp (isWhole index block some)
  have proper := whole.proper index block
  have joined := whole.block index block
  rw [single] at proper joined
  obtain rfl : data = block := (List.append_nil data).symm.trans joined
  exact ⟨keyCache, (proper_cons proper).1, single⟩

theorem UpgradeCtx.Ready.asked (ready : Ready keys ctx) : Sound keys ctx.getNextReqSize.2 :=
  { ready with }

def UpgradeCtx.nextStart (ctx : UpgradeCtx) (position : Nat) : Nat :=
  (position + ctx.offset) % 2 ^ 32

theorem transfer_of_none (sent : offered file (ctx.nextStart position) ctx.newReqSize = none) :
    transfer firmware file cut (blocks + 1) index position ctx =
      some (.success, ctx.getNextReqSize.2) := by
  change (match offered file (ctx.nextStart position) ctx.newReqSize with
    | none => some (HostErrorCode.success, ctx.getNextReqSize.2)
    | some block => _) = _
  rw [sent]

theorem transfer_of_some
    (sent : offered file (ctx.nextStart position) ctx.newReqSize = some block) :
    transfer firmware file cut (blocks + 1) index position ctx =
      (ctx.getNextReqSize.2.parseAll firmware (cut.packets index block)).bind fun answer =>
        if answer.1 = .success then
          transfer firmware file cut blocks (index + 1)
            (ctx.nextStart position + ctx.newReqSize) answer.2
        else some answer := by
  change (match offered file (ctx.nextStart position) ctx.newReqSize with
    | none => some (HostErrorCode.success, ctx.getNextReqSize.2)
    | some block => _) = _
  rw [sent]
  rfl

theorem transfer_observe (works : firmware.Works) (isWhole : whole.Whole)
    (sound : Sound keys ctx.getNextReqSize.2) (waiting : ctx.getNextReqSize.2.Waiting)
    (newReqSize : ctx.newReqSize = ctx.totalReqSize)
    (headed : ctx.isUpgradeHdrAvailable = false → ∀ block,
      offered file (ctx.nextStart position) ctx.newReqSize = some block →
        idField block ≠ idField footerID)
    (allowed : AllowsCuts firmware file cut blocks index position ctx) :
    (transfer firmware file cut blocks index position ctx).map observe =
      (transfer firmware file whole blocks index position ctx).map observe := by
  induction blocks generalizing ctx index position with
  | zero => rfl
  | succ blocks ih =>
    cases sent : offered file (ctx.nextStart position) ctx.newReqSize with
    | none => rw [transfer_of_none sent, transfer_of_none sent]
    | some block =>
      obtain ⟨length, nonempty⟩ := length_offered sent
      obtain ⟨keyCache, stack, single⟩ := isWhole.packets index nonempty
      have joined := cut.block index block
      have proper := cut.proper index block
      have pieces : cut.packets index block ≠ [] := by
        intro none
        rw [none] at joined
        exact nonempty joined.symm
      obtain ⟨allowedCut, allowedRest⟩ := allowed block sent
      have size : (cut.packets index block).block.length = ctx.getNextReqSize.2.totalReqSize := by
        rw [joined, length]
        exact newReqSize
      have headedBlock : ctx.getNextReqSize.2.isUpgradeHdrAvailable = false →
          idField (cut.packets index block).block ≠ idField footerID := by
        rw [joined]
        exact fun missing => headed missing block sent
      obtain ⟨success, observed⟩ := sound.parseAll_block works waiting proper pieces stack size
        headedBlock allowedCut
      rw [joined] at success observed
      rw [transfer_of_some sent, transfer_of_some sent, single, parseAll_singleton]
      cases parsed : ctx.getNextReqSize.2.parse firmware keyCache block with
      | none =>
        rw [parsed, Option.map_none, Option.map_eq_none_iff] at observed
        rw [observed]
        rfl
      | some answer =>
        by_cases isSuccess : answer.1 = .success
        · have isAnswer : answer = (.success, answer.2) := by rw [← isSuccess]
          obtain ⟨ready, parsedAll⟩ := success answer.2 (by rw [parsed, ← isAnswer])
          rw [parsedAll, Option.bind_some, Option.bind_some, if_pos rfl, if_pos isSuccess]
          have ended : answer.2.isUpgradeHdrAvailable = false → ∀ next,
              offered file (answer.2.nextStart (ctx.nextStart position + ctx.newReqSize))
                answer.2.newReqSize = some next → idField next ≠ idField footerID := by
            intro missing next sentNext
            rw [ready.newReqSize, ready.ended missing, offered, if_pos (Or.inl rfl)]
              at sentNext
            contradiction
          exact ih ready.asked { ready with } ready.newReqSize ended
            (allowedRest answer.2 parsedAll)
        · rw [parsed, Option.map_some] at observed
          obtain ⟨answer', parsedAll, same⟩ := Option.map_eq_some_iff.mp observed
          have isError : ¬ answer'.1 = .success := by
            rw [show answer'.1 = answer.1 from congrArg Observed.status same]
            exact isSuccess
          rw [parsedAll, Option.bind_some, Option.bind_some, if_neg isError, if_neg isSuccess,
            Option.map_some, Option.map_some, same]

theorem UpgradeCtx.sound_partitionDataInit {device : UpgradeCtx}
    (cleared : ∀ index < 10, device.headerStore.psKeys (510 + index) = []) :
    Sound device.headerStore.psKeys device.partitionDataInit := by
  have store : Cleared device.partitionDataInit.restartHeaders.headerStore := ⟨cleared, rfl, rfl⟩
  exact ⟨rfl, fun signature none => by contradiction, rfl, Or.inl rfl,
    ⟨[], 0, store.holds, by decide, rfl⟩, fun available => by contradiction, fun _ => ⟨rfl, rfl⟩⟩

/-- A file is transferred alike however its blocks are cut, as far as they may be cut, unless it
begins with a footer. -/
theorem transfer_cut (works : firmware.Works) {device : UpgradeCtx}
    (cleared : ∀ index < 10, device.headerStore.psKeys (510 + index) = [])
    (headed : idField file ≠ idField footerID) (isWhole : whole.Whole) {blocks : Nat}
    (allowed : AllowsCuts firmware file cut blocks 0 0 device.partitionDataInit) :
    (transfer firmware file cut blocks 0 0 device.partitionDataInit).map observe =
      (transfer firmware file whole blocks 0 0 device.partitionDataInit).map observe := by
  have sound := sound_partitionDataInit cleared
  have asked : Sound device.headerStore.psKeys device.partitionDataInit.getNextReqSize.2 :=
    ⟨rfl, sound.signature, rfl, sound.shape, sound.restart, sound.placed, sound.headed⟩
  have waiting : device.partitionDataInit.getNextReqSize.2.Waiting :=
    ⟨rfl, rfl, headerFirstPartSize_lt⟩
  refine transfer_observe works isWhole asked waiting rfl (fun _ block sent => ?_) allowed
  change offered file ((0 + 0) % 2 ^ 32) headerFirstPartSize = some block at sent
  rw [offered] at sent
  split at sent
  · contradiction
  · cases sent
    have same : (((file.drop ((0 + 0) % 2 ^ 32)).take headerFirstPartSize)).take idFieldSize =
        file.take idFieldSize := by
      rw [List.take_take]
      rfl
    rw [idField, same]
    exact headed

theorem works_plainFirmware : plainFirmware.Works :=
  ⟨fun _ _ => Nat.succ_pos _, fun _ _ _ => rfl, fun _ _ _ => rfl⟩

theorem transfer_cut_header :
    (transfer plainFirmware (headerFile 1) (Cut.atPlace 5 (by decide)) 2 0 0
      plainDevice.partitionDataInit).map observe =
    (transfer plainFirmware (headerFile 1) Cut.whole 2 0 0
      plainDevice.partitionDataInit).map observe := by
  refine transfer_cut works_plainFirmware (fun _ _ => rfl) (by decide) Cut.whole_whole ?_
  intro block sent
  refine ⟨Or.inr trivial, fun next parsed block' sent' => ⟨?_, fun _ _ => trivial⟩⟩
  have isBlock : offered (headerFile 1) 0 12 = some ((headerFile 1).take 12) := by decide
  obtain rfl := Option.some.inj (isBlock.symm.trans sent)
  have after : (plainDevice.partitionDataInit.getNextReqSize.2.parseAll plainFirmware
      ((Cut.atPlace 5 (by decide)).packets 0 ((headerFile 1).take 12))).map
        (fun answer => (answer.2.state, answer.2.newReqSize)) = some (.header, 24) := by
    decide
  have parsed' : plainDevice.partitionDataInit.getNextReqSize.2.parseAll plainFirmware
      ((Cut.atPlace 5 (by decide)).packets 0 ((headerFile 1).take 12)) =
        some (.success, next) := parsed
  rw [parsed', Option.map_some, Option.some.injEq, Prod.mk.injEq] at after
  refine allowsCut_header (by exact after.1) ?_
  rw [Cut.block, (length_offered sent').1, after.2]
  decide

/-- A main header of 52 bytes is taken in one packet and refused in two. -/
theorem long_header_refused :
    ¬ ∀ (cut whole : Cut), whole.Whole → ∀ blocks,
      (transfer plainFirmware (headerFile 8) cut blocks 0 0
        plainDevice.partitionDataInit).map observe =
      (transfer plainFirmware (headerFile 8) whole blocks 0 0
        plainDevice.partitionDataInit).map observe := by
  intro alike
  have same := congrArg (Option.map Observed.status)
    (alike (Cut.atPlace 40 (by decide)) Cut.whole Cut.whole_whole 2)
  have inPieces : (transfer plainFirmware (headerFile 8) (Cut.atPlace 40 (by decide)) 2 0 0
      plainDevice.partitionDataInit).map (fun answer => answer.1) =
      some .badLengthUpgradeHeader := by
    decide
  have inOne : (transfer plainFirmware (headerFile 8) Cut.whole 2 0 0
      plainDevice.partitionDataInit).map (fun answer => answer.1) = some .success := by
    decide
  rw [Option.map_map, Option.map_map] at same
  exact absurd (inPieces.symm.trans (same.trans inOne)) (by decide)

end Runs

end HeadsetAdk.Upgrade
